import RobotKit.Proofs.Adding

/-!
# Packages in any order

Two packages can be added to a project in any order, and adding a package once more changes nothing,
as long as no file of a package comes to lie on the project file or on an archive of the registry.
The hosts are compared place by place, and the project files by the values that they give to names.
-/

namespace RobotKit.Config

open List

variable {name version : String} {dependencies config : Entries}

theorem Value.Same.rel_refl (value : Option Value) : Option.Rel Value.Same value value := by
  cases value with
  | none => exact .none
  | some value => exact .some (.refl value)

theorem Value.Same.of_lookup {entries entries' : Entries}
    (h : ∀ name, entries.lookup name = entries'.lookup name) :
    (Value.table entries).Same (.table entries') := by
  refine .table fun name => ?_
  rw [h]
  exact rel_refl _

/-! ## Dependencies that were noted -/

/-- The dependencies, as they are read back, of which one was noted. -/
def notedAmong (name version : String) (dependencies : Entries) : Entries :=
  settleEntries (Table.insertEntry name (.text version) dependencies)

section Noted

variable (hconfig : (Value.table config).IsReadable)
  (hdependencies : dependencies? config = some dependencies)

include hconfig hdependencies

theorem lookup_noted (key : String) :
    (noted name version dependencies config).lookup key
      = if key = "dependencies" then some (.table (notedAmong name version dependencies))
        else (config.lookup key).map settle := by
  have hreadable : (Value.table (withDependency name version dependencies config)).IsReadable :=
    isReadable_withDependency hconfig hdependencies
  rw [Value.IsReadable] at hreadable
  rw [noted, lookup_settleEntries hreadable.1, withDependency, Table.lookup_insertEntry]
  split
  · rw [Option.map_some, settle, notedAmong, settleEntries]
  · rfl

variable (name version) in
theorem dependencies?_noted :
    dependencies? (noted name version dependencies config)
      = some (notedAmong name version dependencies) := by
  rw [dependencies?, lookup_noted hconfig hdependencies, if_pos rfl]
  rfl

theorem lookup_notedAmong (other : String) :
    (notedAmong name version dependencies).lookup other
      = if other = name then some (.text version) else (dependencies.lookup other).map settle := by
  have hreadable : (Value.table (Table.insertEntry name (.text version) dependencies)).IsReadable :=
    isReadable_insertEntry trivial (isReadable_dependencies hconfig hdependencies)
  rw [Value.IsReadable] at hreadable
  rw [notedAmong, lookup_settleEntries hreadable.1, Table.lookup_insertEntry]
  split
  · rw [Option.map_some, settle]
  · rfl

/-- To note a dependency once more changes no value. -/
theorem same_noted_again (hnoted : (Value.table (noted name version dependencies config)).IsReadable) :
    (Value.table (noted name version (notedAmong name version dependencies)
      (noted name version dependencies config))).Same
        (.table (noted name version dependencies config)) := by
  have hamong : Table.insertEntry name (.text version) (notedAmong name version dependencies)
      = notedAmong name version dependencies := by
    apply Table.insertEntry_of_lookup
    rw [lookup_notedAmong hconfig hdependencies, if_pos rfl]
  have hwith : withDependency name version (notedAmong name version dependencies)
      (noted name version dependencies config) = noted name version dependencies config := by
    rw [withDependency, hamong]
    apply Table.insertEntry_of_lookup
    rw [lookup_noted hconfig hdependencies, if_pos rfl]
  -- so only the reading back is left of the second time
  show (Value.table (settleEntries (withDependency name version _ _))).Same _
  rw [hwith]
  exact same_settleEntries hnoted

/-- Dependencies of two names can be noted in any order. -/
theorem same_noted_comm {other version' : String} (hne : name ≠ other)
    (hfirst : (Value.table (noted name version dependencies config)).IsReadable)
    (hsecond : (Value.table (noted other version' dependencies config)).IsReadable) :
    (Value.table (noted other version' (notedAmong name version dependencies)
      (noted name version dependencies config))).Same
    (.table (noted name version (notedAmong other version' dependencies)
      (noted other version' dependencies config))) := by
  have hfirst' := dependencies?_noted name version hconfig hdependencies
  have hsecond' := dependencies?_noted other version' hconfig hdependencies
  refine .table fun key => ?_
  rw [lookup_noted hfirst hfirst', lookup_noted hsecond hsecond']
  split
  · apply Option.Rel.some
    apply Value.Same.of_lookup
    intro key
    rw [lookup_notedAmong hfirst hfirst', lookup_notedAmong hsecond hsecond',
      lookup_notedAmong hconfig hdependencies, lookup_notedAmong hconfig hdependencies]
    by_cases hkey : key = name
    · subst hkey
      rw [if_neg hne, if_pos rfl, if_pos rfl, Option.map_some, settle]
    · rw [if_neg hkey, if_neg hkey]
      split
      · rw [Option.map_some, settle]
      · rfl
  · rename_i hkey
    rw [lookup_noted hconfig hdependencies, lookup_noted hconfig hdependencies, if_neg hkey, if_neg hkey]
    exact Value.Same.rel_refl _

end Noted

end RobotKit.Config

namespace RobotKit.Registry

open List RobotKit.Config RobotKit.Files RobotKit.Host RobotKit.Project

variable {place : Location} {Q : Unit → State → Prop} {home : Path}

/-! ## What one package leaves -/

/-- No file of a package comes to lie on one of these places when the package is added. -/
def Spares (p : Project) (s : State) (name : String) (nodes : List (String × Node))
    (places : List Location) : Prop :=
  ∀ home target, installDirectory p = some home → s.resolve (home.child name) = .ok target →
    ∀ place ∈ places, target <+: place → (Node.dir nodes).contentAt (place.drop target.length) = none

namespace Adds

variable {p : Project} {name version : String} {nodes : List (String × Node)} {s s' : State}
  {target D : Location} (h : Adds p name version nodes s s' target D)

include h

theorem sameDirectory : s'.directory = s.directory := by
  obtain ⟨files, -, hnoted⟩ := h.noted
  exact hnoted.sameDirectory

theorem keeps : s.files.KeepsDirectories s'.files := by
  obtain ⟨files, hlaid, hnoted⟩ := h.noted
  exact hlaid.lays.keepsDirectories.trans hnoted.keeps

theorem resolve_eq {path : Path} (hpath : s.resolve path = .ok place) :
    s'.resolve path = .ok place := by
  unfold State.resolve at hpath ⊢
  rw [h.sameDirectory]
  exact Node.resolve_eq_ok_of_keeps h.keeps hpath

/-- The project is where it was. -/
theorem location_eq {D' : Location} (hat : s.At p.directory D') : D = D' := by
  obtain ⟨files, hlaid, hnoted⟩ := h.noted
  have hafter := Node.resolve_eq_ok_of_keeps hlaid.lays.keepsDirectories hat.resolve
  exact Except.ok.inj (hnoted.before.resolve.symm.trans hafter)

theorem shapeAt_eq {location : Location} (hlocation : location ≠ fileIn D) :
    s'.files.shapeAt location
      = seenOver target (.dir nodes) location (s.files.shapeAt location) := by
  obtain ⟨files, hlaid, hnoted⟩ := h.noted
  rw [hnoted.shapes location hlocation]
  exact hlaid.shapeAt_eq location

variable {places : List Location}
  (hspares : Spares p s name nodes places)

include hspares

/-- The files in the places that are spared stay when the package is unpacked. -/
theorem overlaid_eq (hplace : place ∈ places) :
    overlaid s.files target (Node.dir nodes).contentAt place = s.files.contentAt place := by
  obtain ⟨home, hhome, hresolve⟩ := h.isTarget
  unfold overlaid
  split
  · rename_i habove
    rw [hspares home target hhome hresolve place hplace habove, Option.none_or]
  · rfl

theorem config (hfile : fileIn D ∈ places) :
    ∃ config dependencies, configOf (s.files.contentAt (fileIn D)) = some config
      ∧ (Value.table config).IsReadable ∧ dependencies? config = some dependencies
      ∧ configOf (s'.files.contentAt (fileIn D))
        = some (Config.noted name version dependencies config) := by
  obtain ⟨files, hlaid, hnoted⟩ := h.noted
  have hconfig := hnoted.config
  rwa [hlaid.contentAt_eq, h.overlaid_eq hspares hfile] at hconfig

/-- An archive that is spared is still in the registry. -/
theorem stored {id other version' : String} {packed : List (String × Node)} {archive : Location}
    (hstored : Stored s id other version' packed archive) (harchive : archive ∈ places) :
    Stored s' id other version' packed archive := by
  obtain ⟨files, hlaid, hnoted⟩ := h.noted
  refine ⟨hstored.parts, hstored.isName, hstored.wellFormed, ?_, ?_⟩
  · rw [hnoted.sameSurroundings]
    exact h.resolve_eq hstored.isAt
  · have hcontent : files.contentAt archive = some (.archive (archiveEntries "" packed)) := by
      rw [hlaid.contentAt_eq, h.overlaid_eq hspares harchive]
      exact Node.contentAt_eq_some_iff_shapeAt.mpr hstored.packed
    -- an archive is no text, so it is not the project file
    have hne : archive ≠ fileIn D := by
      rintro rfl
      obtain ⟨config, -, hconfig, -⟩ := hnoted.config
      obtain ⟨found, text, hfound, htext, -⟩ := exists_of_configOf hconfig
      obtain rfl := Option.some.inj (hcontent.symm.trans hfound)
      cases htext
    rw [hnoted.shapes archive hne]
    exact Node.contentAt_eq_some_iff_shapeAt.mp hcontent

end Adds

/-! ## Two packages -/

theorem seenOver_comm {target target' place : Location} {tree tree' : Node}
    (h : ¬ (target <+: place ∧ target' <+: place)) (before : Option Shape) :
    seenOver target tree place (seenOver target' tree' place before)
      = seenOver target' tree' place (seenOver target tree place before) := by
  unfold seenOver
  by_cases hplace : target <+: place
  · have hother : ¬ target' <+: place := fun hother => h ⟨hplace, hother⟩
    rw [if_neg hother, if_neg hother]
  · rw [if_neg hplace, if_neg hplace]

theorem seenOver_again (target place : Location) (tree : Node) (before : Option Shape) :
    seenOver target tree place (seenOver target tree place before)
      = seenOver target tree place before := by
  unfold seenOver
  split
  · rw [← Option.or_assoc, Option.or_self]
  · rfl

/-- Packages of different names are laid side by side. -/
theorem not_below_both {s : State} {name other : String} {target target' place : Location}
    (hname : IsName name) (hother : IsName other) (hne : name ≠ other)
    (htarget : s.resolve (home.child name) = .ok target)
    (htarget' : s.resolve (home.child other) = .ok target') :
    ¬ (target <+: place ∧ target' <+: place) := by
  obtain ⟨start, hstart, rfl⟩ := exists_at_of_resolve_child hname htarget
  obtain ⟨start', hstart', rfl⟩ := exists_at_of_resolve_child hother htarget'
  obtain rfl : start = start' := Except.ok.inj (hstart.resolve.symm.trans hstart'.resolve)
  rintro ⟨hplace, hplace'⟩
  have hsame : start ++ [name] = start ++ [other] :=
    (prefix_of_prefix_length_le hplace hplace' (by simp)).eq_of_length (by simp)
  exact hne (singleton_inj.mp (append_cancel_left hsame))

section Two

variable {p : Project} {name version other version' : String} {nodes nodes' : List (String × Node)}
  {s s₁ s₂ t : State} {target target' D : Location} {places : List Location}

/-- Where a package goes does not depend on another that was added before it. -/
theorem Adds.target_eq (first : Adds p name version nodes s s₁ target D)
    (alone : Adds p other version' nodes' s t target' D) (hhome : installDirectory p = some home)
    (hplace : s₁.resolve (home.child other) = .ok place) :
    place = target' ∧ s.resolve (home.child other) = .ok target' := by
  obtain ⟨home', hhome', htarget'⟩ := alone.isTarget
  obtain rfl : home = home' := Option.some.inj (hhome.symm.trans hhome')
  exact ⟨Except.ok.inj (hplace.symm.trans (first.resolve_eq htarget')), htarget'⟩

theorem Spares.after (h : Spares p s other nodes' places)
    (first : Adds p name version nodes s s₁ target D)
    (alone : Adds p other version' nodes' s t target' D) : Spares p s₁ other nodes' places := by
  intro home place hhome hplace
  obtain ⟨rfl, hresolve⟩ := first.target_eq alone hhome hplace
  exact h home place hhome hresolve

/-- Both packages are noted one after the other. -/
theorem exists_noted_twice (first : Adds p name version nodes s s₁ target D)
    (second : Adds p other version' nodes' s₁ s₂ target' D) (hspares : Spares p s name nodes places)
    (hspares' : Spares p s₁ other nodes' places) (hfile : fileIn D ∈ places) :
    ∃ config dependencies, configOf (s.files.contentAt (fileIn D)) = some config
      ∧ (Value.table config).IsReadable ∧ dependencies? config = some dependencies
      ∧ (Value.table (noted name version dependencies config)).IsReadable
      ∧ configOf (s₁.files.contentAt (fileIn D)) = some (noted name version dependencies config)
      ∧ configOf (s₂.files.contentAt (fileIn D))
        = some (noted other version' (notedAmong name version dependencies)
          (noted name version dependencies config)) := by
  obtain ⟨config, dependencies, hconfig, hreadable, hdependencies, hnew⟩ := first.config hspares hfile
  obtain ⟨config', dependencies', hconfig', hreadable', hdependencies', hnew'⟩ :=
    second.config hspares' hfile
  -- the second package finds what the first has left
  obtain rfl := Option.some.inj (hnew.symm.trans hconfig')
  rw [dependencies?_noted name version hreadable hdependencies] at hdependencies'
  obtain rfl := Option.some.inj hdependencies'
  exact ⟨config, dependencies, hconfig, hreadable, hdependencies, hreadable', hnew, hnew'⟩

/-- Adding two packages of the registry, if it succeeds, does both steps. -/
theorem exists_two {id id' : String} {archive archive' : Location} (hat : s.At p.directory D)
    (h : Stored s id name version nodes archive) (h' : Stored s id' other version' nodes' archive')
    (hspares : Spares p s name nodes places) (harchive : archive' ∈ places)
    (hrun : (do add p id; add p id').run.run s = (.ok (), t)) :
    ∃ s₁ target target', (add p id).run.run s = (.ok (), s₁)
      ∧ Adds p name version nodes s s₁ target D ∧ Adds p other version' nodes' s₁ t target' D := by
  have hends : Ends (do add p id; add p id') s fun _ u => u = t := ⟨(), t, hrun, rfl⟩
  obtain ⟨⟨⟩, u, hfirst, hends⟩ := ends_bind.mp hends
  have hends' : Ends (add p id) s fun _ v => v = u := ⟨(), u, hfirst, rfl⟩
  obtain ⟨s₁, target, D₁, first, rfl⟩ := h.exists_adds hends'
  obtain rfl := first.location_eq hat
  have hstored := first.stored hspares h' harchive
  obtain ⟨s₂, target', D₂, second, rfl⟩ := hstored.exists_adds hends
  obtain rfl := second.location_eq (hat.of_keeps first.sameDirectory first.keeps)
  exact ⟨s₁, target, target', hfirst, first, second⟩

end Two

/-- Two hosts look the same but for the text of the project file, which holds the same values. -/
structure Alike (D : Location) (s s' : State) : Prop where
  shapes : ∀ location, location ≠ fileIn D → s.files.shapeAt location = s'.files.shapeAt location
  config : ∃ config config', configOf (s.files.contentAt (fileIn D)) = some config
    ∧ configOf (s'.files.contentAt (fileIn D)) = some config'
    ∧ (Value.table config).Same (.table config')

/-! ## A robot and two packages -/

/-- What can change in a yard: the project file of the robot, the files in the places for the
packages `arm` and `rover` among its sources and for `arm` beside it, and the printed text. -/
structure Yard where
  text : String
  arm : String
  inner : String
  outer : String
  output : String

/-- The host with this yard. The files of the package `rover` include a project file. -/
def Yard.host (y : Yard) : State :=
  { depot [] [] y.output with
    files := .dir [
      ("arm", .dir [("__init__.py", .plain (.text y.outer))]),
      ("cache", .dir [("packages", .dir [
        ("arm:1.zip", .plain (.archive [("__init__.py", .text "ratio = 3\n")])),
        ("rover:1.zip", .plain (.archive [("dishpy.toml", .text roverFile)]))])]),
      ("rover", .dir [("dishpy.toml", .plain (.text y.text)),
        ("src", .dir [("arm", .dir [("__init__.py", .plain (.text y.arm))]),
          ("rover", .dir [("dishpy.toml", .plain (.text y.inner))])])])] }

/-- A package whose name leads out of its sources, so that it takes other packages beside its own
directory. -/
def ranger : Project := { rover with package := some ⟨some (.text "../.."), some (.text "1")⟩ }

/-- The project file of this package. -/
def rangerFile : String :=
  roverFile ++ "\n[package]\npackage_name = \"../..\"\nversion = \"1\"\n"

/-- Does the project file name the arm among the dependencies? -/
def needsArm (content : Option Content) : Bool :=
  ((configOf content).bind dependencies?).any fun entries => (entries.lookup "arm").isSome

theorem yard_texts : ∀ id ∈ ["arm:1", "rover:1"],
    (Console.plainText ("✨ [green]Added package [bold cyan]" ++ id
      ++ "[/bold cyan][/green]")).toOption.isSome
    ∧ (Console.plainText ("✨ [yellow]This project is a package, adding package [bold cyan]" ++ id
      ++ "[/bold cyan] [i]into the package directory[/i] to avoid conflicts when importing package "
      ++ "../.." ++ " into other projects[/yellow]")).toOption.isSome := by
  simp only [Console.plainText, String.toList_append]
  decide +kernel

theorem yard_notes :
    (noteIn "arm" "1" roverFile).any (fun text =>
      (noteIn "arm" "1" text).isSome && (noteIn "rover" "1" text).isSome) = true
    ∧ (noteIn "rover" "1" roverFile).any (fun text => !needsArm (some (.text text))
      && (noteIn "arm" "1" text).any fun text => needsArm (some (.text text))) = true
    ∧ (noteIn "arm" "1" rangerFile).isSome = true := by
  decide +kernel

variable {y z : Yard} {new : String}

theorem stored_arm : Stored y.host "arm:1" "arm" "1" [script] ["cache", "packages", "arm:1.zip"] :=
  ⟨rfl, by decide, .singleton (by decide) (.file _ _), rfl, rfl⟩

theorem stored_rover : Stored y.host "rover:1" "rover" "1"
    [("dishpy.toml", .plain (.text roverFile))] ["cache", "packages", "rover:1.zip"] :=
  ⟨rfl, by decide, .singleton (by decide) (.file _ _), rfl, rfl⟩

theorem put_yard :
    Node.put (.plain (.text new)) (["rover"] ++ ["dishpy.toml"]) y.host.files
      = { y with text := new }.host.files
    ∧ Node.put (.plain (.text new)) (["rover", "src", "arm"] ++ ["__init__.py"]) y.host.files
      = { y with arm := new }.host.files
    ∧ Node.put (.plain (.text new)) (["rover", "src", "rover"] ++ ["dishpy.toml"]) y.host.files
      = { y with inner := new }.host.files
    ∧ Node.put (.plain (.text new)) (["arm"] ++ ["__init__.py"]) y.host.files
      = { y with outer := new }.host.files := by
  simp only [cons_append, nil_append, Yard.host, Node.put, Node.entries, lookup_cons,
    String.reduceBEq, BEq.rfl, Option.getD_some, Node.insertEntry, ↓reduceIte, String.reduceEq,
    String.reduceLT, false_and, and_self]

/-- One of the packages is unpacked over a file and noted in the project file that is there then. -/
theorem ends_unpackInto_yard {p : Project} {id name entry text : String} {target : Location}
    {old : List (String × Node)} {content : Content}
    (hput : Node.put (.plain (.text text)) (target ++ [entry]) y.host.files = z.host.files)
    (hp : p.directory = rover.directory) (hid : id ∈ ["arm:1", "rover:1"])
    (hparts : identifierParts id = [name, "1"] ∧ '/' ∉ entry.toList
      ∧ followNames target (Path.ofString entry).parts = target ++ [entry])
    (harchive : y.host.node? (((Path.ofString "/cache").child "packages").child (id ++ ".zip"))
      = some (.plain (.archive [(entry, .text text)])))
    (hlookup : y.host.lookup (home.child name) = .ok (target, .dir old))
    (hblocked : isBlocked y.host.files target (target ++ [entry]) = false)
    (hold : y.host.files.find? (target ++ [entry]) = some (.plain content))
    (hnote : noteIn name "1" z.text = some new) :
    Ends (unpackInto p id home) y.host
      fun _ t => ∃ output, t = { z with text := new, output }.host := by
  obtain ⟨lines, hlines⟩ := exists_render_eq_ok (yard_texts id hid).1
  have hat : State.At { y.host with files := z.host.files } p.directory ["rover"] := by
    rw [hp]
    exact ⟨rfl, rfl⟩
  have hunpacked : unpackEntries target y.host.files [(entry, .text text)] = (z.host.files, 0) := by
    have hends : entry.endsWith "/" = false := by
      rw [← Bool.not_eq_true, endsWith_slash_iff]
      exact fun hsuffix => hparts.2.1 (hsuffix.subset mem_cons_self)
    simp [unpackEntries, unpackEntry, hparts.2.2, hblocked, hold, hends, Node.plain, ← hput]
  have hwrite : Node.put (.plain (.text new)) (fileIn ["rover"]) z.host.files
      = { z with text := new }.host.files := put_yard.1
  refine ends_unpackInto hparts.1 harchive hlookup hunpacked hat rfl hnote hlines
    ⟨y.output ++ lines, ?_⟩
  exact congrArg (fun files => { depot [] [] (y.output ++ lines) with files }) hwrite

theorem add_rover (id : String) :
    add rover id = unpackInto rover id (sourcesIn rover.directory) :=
  rfl

theorem ends_add_rover_arm (hnote : noteIn "arm" "1" y.text = some new) :
    Ends (add rover "arm:1") y.host
      fun _ t => ∃ output, t = { y with text := new, arm := "ratio = 3\n", output }.host := by
  have hlookup : y.host.lookup ((sourcesIn rover.directory).child "arm")
      = .ok (["rover", "src", "arm"], .dir [("__init__.py", .plain (.text y.arm))]) := rfl
  rw [add_rover]
  exact ends_unpackInto_yard (z := { y with arm := "ratio = 3\n" }) put_yard.2.1 rfl (by decide)
    (by decide) rfl hlookup rfl rfl hnote

theorem ends_add_rover_rover (hnote : noteIn "rover" "1" y.text = some new) :
    Ends (add rover "rover:1") y.host
      fun _ t => ∃ output, t = { y with text := new, inner := roverFile, output }.host := by
  have hlookup : y.host.lookup ((sourcesIn rover.directory).child "rover")
      = .ok (["rover", "src", "rover"], .dir [("dishpy.toml", .plain (.text y.inner))]) := rfl
  rw [add_rover]
  exact ends_unpackInto_yard (z := { y with inner := roverFile }) put_yard.2.2.1 rfl (by decide)
    (by decide) rfl hlookup rfl rfl hnote

/-- Before a package takes another, a message is shown. -/
theorem ends_add_ranger {id : String} (hid : id ∈ ["arm:1", "rover:1"])
    (h : ∀ output, Ends (unpackInto ranger id ((sourcesIn ranger.directory).child "../.."))
      { y with output }.host Q) :
    Ends (add ranger id) y.host Q := by
  obtain ⟨lines, hlines⟩ := exists_render_eq_ok (yard_texts id hid).2
  unfold add
  dsimp only [ranger]
  rw [ends_bind, ends_written]
  refine ⟨"../..", rfl, ?_⟩
  rw [ends_bind, ends_say]
  refine ⟨lines, hlines, ?_⟩
  rw [ends_bind, childSetting, ends_pure]
  exact h (y.output ++ lines)

theorem ends_add_ranger_arm (hnote : noteIn "arm" "1" y.text = some new) :
    Ends (add ranger "arm:1") y.host
      fun _ t => ∃ output, t = { y with text := new, outer := "ratio = 3\n", output }.host := by
  refine ends_add_ranger (by decide) fun output => ?_
  have hlookup : { y with output }.host.lookup
      (((sourcesIn ranger.directory).child "../..").child "arm")
      = .ok (["arm"], .dir [("__init__.py", .plain (.text y.outer))]) := rfl
  exact ends_unpackInto_yard (z := { y with outer := "ratio = 3\n", output }) put_yard.2.2.2 rfl
    (by decide) (by decide) rfl hlookup rfl rfl hnote

theorem ends_add_ranger_rover (hnote : noteIn "rover" "1" roverFile = some new) :
    Ends (add ranger "rover:1") y.host fun _ t => ∃ output, t = { y with text := new, output }.host := by
  refine ends_add_ranger (by decide) fun output => ?_
  have hlookup : { y with output }.host.lookup
      (((sourcesIn ranger.directory).child "../..").child "rover")
      = .ok (["rover"], .dir [("dishpy.toml", .plain (.text y.text)),
        ("src", .dir [("arm", .dir [("__init__.py", .plain (.text y.arm))]),
          ("rover", .dir [("dishpy.toml", .plain (.text y.inner))])])]) := rfl
  exact ends_unpackInto_yard (z := { y with text := roverFile, output }) put_yard.1 rfl (by decide)
    (by decide) rfl hlookup rfl rfl hnote

theorem spares_rover {name : String} {nodes : List (String × Node)} (hname : IsName name) :
    Spares rover y.host name nodes
      [fileIn ["rover"], ["cache", "packages", "arm:1.zip"], ["cache", "packages", "rover:1.zip"]] := by
  rintro home target ⟨⟩ htarget place hplace habove
  obtain ⟨start, hstart, rfl⟩ := exists_at_of_resolve_child hname htarget
  obtain rfl := Except.ok.inj hstart.resolve
  have hnone : ∀ place ∈ [fileIn ["rover"], ["cache", "packages", "arm:1.zip"],
      ["cache", "packages", "rover:1.zip"]], ¬ ["rover", "src"] <+: place := by
    decide
  exact absurd ((prefix_append _ _).trans habove) (hnone place hplace)

theorem ends_then {first second : Action Unit} {s s' : State}
    (hfirst : first.run.run s = (.ok (), s')) (hsecond : Ends second s' Q) :
    Ends (do first; second) s Q :=
  ends_bind.mpr ⟨(), s', hfirst, hsecond⟩

/-! ## Any order -/

/-- Two packages of the registry, no file of which comes to lie on the project file or on one of the
two archives, can be added to a project in any order, and adding one of them again changes nothing:
all places look the same afterwards, and the project files hold the same values. -/
theorem add_in_any_order {p : Project} {s : State} {D : Location} (hat : s.At p.directory D)
    {id id' name name' version version' : String} {nodes nodes' : List (String × Node)}
    {archive archive' : Location} (h : Stored s id name version nodes archive)
    (h' : Stored s id' name' version' nodes' archive')
    (hspares : Spares p s name nodes [fileIn D, archive, archive'])
    (hspares' : Spares p s name' nodes' [fileIn D, archive, archive']) :
    (name ≠ name' → ∀ t t', (do add p id; add p id').run.run s = (.ok (), t) →
      (do add p id'; add p id).run.run s = (.ok (), t') → Alike D t t')
    ∧ ∀ t t', (do add p id; add p id).run.run s = (.ok (), t) →
      (add p id).run.run s = (.ok (), t') → Alike D t t' := by
  constructor
  · intro hne t t' hrun hrun'
    obtain ⟨s₁, target, place', -, first, second⟩ := exists_two hat h h' hspares (by simp) hrun
    obtain ⟨s₂, target', place, -, first', second'⟩ := exists_two hat h' h hspares' (by simp) hrun'
    -- each package goes to the same directory in both orders
    obtain ⟨home, hhome, htarget⟩ := first.isTarget
    obtain ⟨home', hhome', htarget'⟩ := second.isTarget
    obtain rfl : home = home' := Option.some.inj (hhome.symm.trans hhome')
    obtain ⟨rfl, htarget'⟩ := first.target_eq first' hhome' htarget'
    obtain ⟨home', hhome', hplace⟩ := second'.isTarget
    obtain ⟨rfl, -⟩ := first'.target_eq first hhome' hplace
    constructor
    · intro location hlocation
      rw [second.shapeAt_eq hlocation, first.shapeAt_eq hlocation, second'.shapeAt_eq hlocation,
        first'.shapeAt_eq hlocation]
      exact seenOver_comm (not_below_both h'.isName h.isName (Ne.symm hne) htarget' htarget) _
    · obtain ⟨config, dependencies, hconfig, hreadable, hdependencies, hnoted, -, hnew⟩ :=
        exists_noted_twice first second hspares (hspares'.after first first') mem_cons_self
      obtain ⟨config', dependencies', hconfig', -, hdependencies', hnoted', -, hnew'⟩ :=
        exists_noted_twice first' second' hspares' (hspares.after first' first) mem_cons_self
      obtain rfl := Option.some.inj (hconfig.symm.trans hconfig')
      obtain rfl := Option.some.inj (hdependencies.symm.trans hdependencies')
      exact ⟨_, _, hnew, hnew', same_noted_comm hreadable hdependencies hne hnoted hnoted'⟩
  · intro t t' hrun hrun'
    obtain ⟨s₁, target, place, hfirst, first, second⟩ := exists_two hat h h hspares (by simp) hrun
    obtain rfl : s₁ = t' := (Prod.mk.inj (hfirst.symm.trans hrun')).2
    obtain ⟨home, hhome, hplace⟩ := second.isTarget
    obtain ⟨rfl, -⟩ := first.target_eq first hhome hplace
    constructor
    · intro location hlocation
      rw [second.shapeAt_eq hlocation, first.shapeAt_eq hlocation]
      exact seenOver_again _ _ _ _
    · obtain ⟨config, dependencies, -, hreadable, hdependencies, hnoted, hnew, hnew'⟩ :=
        exists_noted_twice first second hspares (hspares.after first first) mem_cons_self
      exact ⟨_, _, hnew', hnew, same_noted_again hreadable hdependencies hnoted⟩

/-- The robot can take the two packages in any order, and one of them twice. -/
theorem add_arm_and_rover : ∃ s t t' u u',
    (do add rover "arm:1"; add rover "rover:1").run.run s = (.ok (), t)
    ∧ (do add rover "rover:1"; add rover "arm:1").run.run s = (.ok (), t') ∧ Alike ["rover"] t t'
    ∧ (do add rover "arm:1"; add rover "arm:1").run.run s = (.ok (), u)
    ∧ (add rover "arm:1").run.run s = (.ok (), u') ∧ Alike ["rover"] u u' := by
  obtain ⟨hfirst, hsecond, -⟩ := yard_notes
  obtain ⟨armed, harmed, hfirst⟩ := (Option.any_eq_true _ _).mp hfirst
  obtain ⟨noted, hnoted, hsecond⟩ := (Option.any_eq_true _ _).mp hsecond
  obtain ⟨hagain, hboth⟩ := Bool.and_eq_true_iff.mp hfirst
  obtain ⟨again, hagain⟩ := Option.isSome_iff_exists.mp hagain
  obtain ⟨both, hboth⟩ := Option.isSome_iff_exists.mp hboth
  obtain ⟨both', hboth', -⟩ := (Option.any_eq_true _ _).mp (Bool.and_eq_true_iff.mp hsecond).2
  obtain ⟨⟨⟩, u', hu', o, rfl⟩ := ends_add_rover_arm (y := ⟨roverFile, "", "", "", ""⟩) harmed
  obtain ⟨⟨⟩, v, hv, o', rfl⟩ := ends_add_rover_rover (y := ⟨roverFile, "", "", "", ""⟩) hnoted
  obtain ⟨⟨⟩, t, ht, -⟩ := ends_then hu' (ends_add_rover_rover hboth)
  obtain ⟨⟨⟩, t', ht', -⟩ := ends_then hv (ends_add_rover_arm hboth')
  obtain ⟨⟨⟩, u, hu, -⟩ := ends_then hu' (ends_add_rover_arm hagain)
  obtain ⟨horder, htwice⟩ := add_in_any_order ⟨rfl, rfl⟩ stored_arm stored_rover
    (spares_rover (by decide)) (spares_rover (by decide))
  exact ⟨_, t, t', u, _, ht, ht', horder (by decide) t t' ht ht', hu, hu', htwice u _ hu hu'⟩

/-- A package whose name leads out of its sources takes the package `rover` over its own project
file, which forgets what was added before. -/
theorem ranger_forgets_arm : ∃ s t t', s.At ranger.directory ["rover"]
    ∧ Stored s "arm:1" "arm" "1" [script] ["cache", "packages", "arm:1.zip"]
    ∧ Stored s "rover:1" "rover" "1" [("dishpy.toml", .plain (.text roverFile))]
      ["cache", "packages", "rover:1.zip"]
    ∧ (do add ranger "rover:1"; add ranger "arm:1").run.run s = (.ok (), t)
    ∧ (do add ranger "arm:1"; add ranger "rover:1").run.run s = (.ok (), t')
    ∧ needsArm (t.files.contentAt (fileIn ["rover"])) = true
    ∧ needsArm (t'.files.contentAt (fileIn ["rover"])) = false := by
  obtain ⟨-, hsecond, hfirst⟩ := yard_notes
  obtain ⟨armed, harmed⟩ := Option.isSome_iff_exists.mp hfirst
  obtain ⟨noted, hnoted, hsecond⟩ := (Option.any_eq_true _ _).mp hsecond
  obtain ⟨hneeds, hsecond⟩ := Bool.and_eq_true_iff.mp hsecond
  obtain ⟨both, hboth, hneeds'⟩ := (Option.any_eq_true _ _).mp hsecond
  obtain ⟨⟨⟩, v, hv, o, rfl⟩ := ends_add_ranger_rover (y := ⟨rangerFile, "", "", "", ""⟩) hnoted
  obtain ⟨⟨⟩, v', hv', o', rfl⟩ := ends_add_ranger_arm (y := ⟨rangerFile, "", "", "", ""⟩) harmed
  obtain ⟨⟨⟩, t, ht, p, rfl⟩ := ends_then hv (ends_add_ranger_arm hboth)
  obtain ⟨⟨⟩, t', ht', p', rfl⟩ := ends_then hv' (ends_add_ranger_rover hnoted)
  have hlost : needsArm (some (.text noted)) = false := by simpa using hneeds
  exact ⟨_, _, _, ⟨rfl, rfl⟩, stored_arm, stored_rover, ht, ht', hneeds', hlost⟩

end RobotKit.Registry
