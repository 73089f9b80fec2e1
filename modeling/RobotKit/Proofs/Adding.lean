import RobotKit.Proofs.Registry

/-!
# Adding registered packages

A package is added by unpacking its archive below the sources of a project and noting it in the
project file (`Stored.exists_adds`). After a run, this lays the files of its latest registration over
the project (`Holds.exists_added`).
-/

namespace RobotKit.Registry

open List RobotKit.Config RobotKit.Files RobotKit.Host RobotKit.Project

variable {names : List String} {tree : Location → Option Content} {nodes : List (String × Node)}
  {target D : Location} {history : History} {config : Entries}

/-- The directory that takes the packages which are added to a project. -/
def installDirectory (p : Project) : Option Path :=
  match p.package with
  | none => some (sourcesIn p.directory)
  | some info =>
    match info.name with
    | some (.text part) => some ((sourcesIn p.directory).child part)
    | _ => none

/-- The names that lead from a project to this directory: a package takes others inside its own
directory. -/
inductive InstallNames (p : Project) : List String → Prop
  | project (h : p.package = none) : InstallNames p ["src"]
  | package {info : PackageInfo} {part : String} (h : p.package = some info)
      (hname : info.name = some (.text part)) (hpart : IsName part) : InstallNames p ["src", part]

/-- The entries of a project file. -/
def configOf (content : Option Content) : Option Entries :=
  (content.bind Content.text?).bind fun text => (read text).toOption

/-- What adding a package does, where `tree` gives the files of the package: they lie over those of
the target directory, the project file has the version, and all other files are as before. -/
structure Added (p : Project) (name version : String) (tree : Location → Option Content)
    (s s' : State) (target D : Location) : Prop where
  directory : s'.At p.directory D
  isTarget : ∃ home, installDirectory p = some home ∧ s'.At (home.child name) target
  /-- Where the name of a package is a plain name, its directory takes the package, and the project
  file is not among the files that are laid over. -/
  plain : ∀ {names}, InstallNames p names → target = D ++ names ++ [name]
    ∧ overlaid s.files target tree (fileIn D) = s.files.contentAt (fileIn D)
  files : ∀ location, location ≠ fileIn D →
    s'.files.contentAt location = overlaid s.files target tree location
  config : ∃ config dependencies new,
    configOf (overlaid s.files target tree (fileIn D)) = some config
    ∧ dependencies? config = some dependencies ∧ configOf (s'.files.contentAt (fileIn D)) = some new
    ∧ (Value.table new).Same (.table (withDependency name version dependencies config))

variable {name version : String} {s : State} {C : Location}

theorem InstallNames.installDirectory_eq {p : Project} (h : InstallNames p names) :
    installDirectory p = some (p.directory.below names) := by
  have hsources : sourcesIn p.directory = p.directory.below ["src"] :=
    p.directory.child_of_isName (by decide)
  cases h with
  | project h => rw [installDirectory, h, hsources]
  | package h hname hpart =>
    rw [installDirectory, h]
    dsimp only
    rw [hname, hsources]
    dsimp only
    rw [Path.child_of_isName _ hpart, Path.below_below]
    rfl

theorem InstallNames.isName {p : Project} (h : InstallNames p names) :
    ∀ part ∈ names, IsName part := by
  cases h with
  | project h => decide
  | package h hname hpart =>
    exact forall_mem_cons.mpr ⟨by decide, forall_mem_singleton.mpr hpart⟩

/-- The project file does not lie where packages go. -/
theorem InstallNames.not_above_fileIn {p : Project} (h : InstallNames p names) {D : Location} :
    ¬ D ++ names ++ [name] <+: fileIn D := by
  intro habove
  have hlength := habove.length_le
  cases h <;> simp [fileIn] at hlength

/-! ## Packages in the registry -/

/-- A package is in the registry: the directory with these nodes was packed into the archive of its
identifier. -/
structure Stored (s : State) (id name version : String) (nodes : List (String × Node))
    (archive : Location) : Prop where
  parts : identifierParts id = [name, version]
  isName : IsName name
  wellFormed : (Node.dir nodes).WellFormed
  isAt : s.resolve ((s.surroundings.cache.child "packages").child (id ++ ".zip")) = .ok archive
  packed : s.files.shapeAt archive = some (.file (.archive (archiveEntries "" nodes)))

theorem Stored.exists_node? {id : String} {archive : Location}
    (h : Stored s id name version nodes archive) :
    ∃ mode, s.node? ((s.surroundings.cache.child "packages").child (id ++ ".zip"))
      = some (.file (.archive (archiveEntries "" nodes)) mode) := by
  obtain ⟨mode, hfind⟩ := Node.shapeAt_eq_file_iff.mp h.packed
  refine ⟨mode, ?_⟩
  rw [State.node?, State.lookup_of_find?_some h.isAt hfind]
  rfl

/-- The packages of a history are in the registry. -/
theorem Holds.exists_stored (h : Holds C s history) (hname : IsPart name)
    (hversion : IsPart version) (hlookup : history.lookup (name ++ ":" ++ version) = some tree) :
    ∃ nodes archive, (Node.dir nodes).contentAt = tree
      ∧ Stored s (name ++ ":" ++ version) name version nodes archive := by
  obtain ⟨nodes, hwellFormed, hcontents, hshape⟩ := h.archives hlookup
  have hisName := isName_archiveName (slash_notMem_identifier hname hversion)
  have hshort : (archiveName (name ++ ":" ++ version)).utf8ByteSize ≤ 255 :=
    h.short (_, tree) (Table.mem_of_lookup hlookup)
  have hsteps : ∀ part ∈ ["packages", archiveName (name ++ ":" ++ version)], Node.IsStep part :=
    forall_mem_cons.mpr ⟨by decide, forall_mem_singleton.mpr ⟨hisName.2.2.1, hshort⟩⟩
  have hregistry : s.files.shapeAt (C ++ ["packages"]) = some .directory := by
    have hsome : (s.files.shapeAt (archiveIn C (name ++ ":" ++ version))).isSome := by
      rw [hshape]
      rfl
    rw [archiveIn_eq] at hsome
    exact Node.shapeAt_eq_directory_of_isSome hsome
  have hpath : (s.surroundings.cache.child "packages").child (archiveName (name ++ ":" ++ version))
      = s.surroundings.cache.below ["packages", archiveName (name ++ ":" ++ version)] := by
    rw [Path.child_of_isName _ hisName, Path.child_of_isName _ (by decide), Path.below_below]
    rfl
  refine ⟨nodes, archiveIn C _, hcontents, identifierParts_eq hname hversion, hname.1, hwellFormed,
    ?_, hshape⟩
  rw [← archiveName, hpath, h.cache.isAt.resolve_below_eq_ok_iff hsteps (cons_ne_nil _ _)]
  exact ⟨rfl, hregistry⟩

/-! ## What adding does -/

theorem exists_of_configOf {content : Option Content} (h : configOf content = some config) :
    ∃ found text, content = some found ∧ Content.text? found = some text
      ∧ read text = .ok config := by
  obtain ⟨text, htext, hread⟩ := Option.bind_eq_some_iff.mp h
  obtain ⟨found, rfl, htext⟩ := Option.bind_eq_some_iff.mp htext
  refine ⟨found, text, rfl, htext, ?_⟩
  cases hcase : read text with
  | error e => rw [hcase] at hread; cases hread
  | ok entries => rw [hcase] at hread; rw [Option.some.inj hread]

theorem configOf_eq {content : Content} {text : String}
    (htext : Content.text? content = some text) (hread : read text = .ok config) :
    configOf (some content) = some config := by
  rw [configOf, Option.bind_some, htext, Option.bind_some, hread]
  rfl

/-- What noting a package in the project file does. -/
structure Noted (p : Project) (name version : String) (s s' : State) (D : Location) : Prop where
  before : s.At p.directory D
  sameDirectory : s'.directory = s.directory
  sameSurroundings : s'.surroundings = s.surroundings
  shapes : ∀ location, location ≠ fileIn D → s'.files.shapeAt location = s.files.shapeAt location
  config : ∃ config dependencies, configOf (s.files.contentAt (fileIn D)) = some config
    ∧ (Value.table config).IsReadable ∧ dependencies? config = some dependencies
    ∧ configOf (s'.files.contentAt (fileIn D)) = some (noted name version dependencies config)

theorem Noted.keeps {p : Project} {s' : State} {D : Location} (h : Noted p name version s s' D) :
    s.files.KeepsDirectories s'.files := by
  intro location hdirectory
  rw [h.shapes, hdirectory]
  rintro rfl
  obtain ⟨config, -, hconfig, -⟩ := h.config
  obtain ⟨content, -, hcontent, -⟩ := exists_of_configOf hconfig
  rw [Node.contentAt_eq_some_iff_shapeAt.mp hcontent] at hdirectory
  cases hdirectory

theorem exists_noted {p : Project} {rest : Action Unit} {Q : Unit → State → Prop}
    (hends : Ends (do
      let config ← readConfig p.directory
      match addDependency name version config with
      | .error e => fail (.wrongKind e)
      | .ok config => writeConfig p.directory config
      rest) s Q) :
    ∃ s' D, Noted p name version s s' D ∧ Ends rest s' Q := by
  rw [ends_bind] at hends
  obtain ⟨D, content, hat, hfile⟩ := exists_of_ends_readConfig hends
  rw [ends_readConfig hat hfile] at hends
  obtain ⟨text, config, htext, hread, hends⟩ := hends
  cases hadd : addDependency name version config with
  | error e =>
    rw [hadd] at hends
    simp at hends
  | ok new =>
    rw [hadd] at hends
    dsimp only at hends
    have hfree := free_of_file hfile
    rw [ends_bind, ends_writeConfig hat hfree] at hends
    obtain ⟨herror, hends⟩ := hends
    obtain ⟨dependencies, hdependencies, rfl⟩ := addDependency_eq hadd
    have hreadable := isReadable_read hread
    have hshape := shapeAt_write_fileIn hat hfree
      (.text (write (withDependency name version dependencies config)).text)
    refine ⟨s.write (fileIn D) _, D,
      ⟨hat, rfl, rfl, fun location hlocation => by rw [hshape, if_neg hlocation], config,
        dependencies, ?_, hreadable, hdependencies, ?_⟩, hends⟩
    · rw [Node.contentAt_eq_some_iff_shapeAt.mpr hfile]
      exact configOf_eq htext hread
    · rw [Node.contentAt_eq_some_iff_shapeAt.mpr ((hshape _).trans (if_pos rfl))]
      exact configOf_eq rfl (read_write (isReadable_withDependency hreadable hdependencies) herror)

/-- What adding a package does: the directory that was packed lies over the files below the target,
and then the package is noted. -/
structure Adds (p : Project) (name version : String) (nodes : List (String × Node)) (s s' : State)
    (target D : Location) : Prop where
  isTarget : ∃ home, installDirectory p = some home ∧ s.resolve (home.child name) = .ok target
  noted : ∃ files, LaidOver (.dir nodes) target s.files files
    ∧ Noted p name version { s with files } s' D

section Stored

variable {id : String} {nodes : List (String × Node)} {archive : Location}
  (h : Stored s id name version nodes archive) {p : Project} {Q : Unit → State → Prop}

include h

/-- Unpacking below a directory of a project. -/
theorem Stored.exists_unpacked {home : Path} (hhome : installDirectory p = some home)
    (hends : Ends (unpackInto p id home) s Q) :
    ∃ s' target D, Adds p name version nodes s s' target D ∧ Q () s' := by
  obtain ⟨mode, hnode⟩ := h.exists_node?
  unfold unpackInto at hends
  rw [ends_bind, ends_directory, h.parts] at hends
  dsimp only at hends
  rw [ends_bind] at hends
  obtain ⟨target, files, hresolve, hlaid, hends⟩ := exists_of_ends_unpack h.wellFormed hnode hends
  obtain ⟨s', D, hnoted, hends⟩ := exists_noted hends
  obtain ⟨lines, -, hends⟩ := ends_say.mp hends
  refine ⟨{ s' with output := s'.output ++ lines }, target, D,
    ⟨⟨home, hhome, hresolve⟩, files, hlaid, ?_⟩, hends⟩
  exact ⟨hnoted.before, hnoted.sameDirectory, hnoted.sameSurroundings, hnoted.shapes, hnoted.config⟩

/-- Adding a package of the registry. -/
theorem Stored.exists_adds (hends : Ends (add p id) s Q) :
    ∃ s' target D, Adds p name version nodes s s' target D ∧ Q () s' := by
  unfold add at hends
  cases hpackage : p.package with
  | none =>
    rw [hpackage] at hends
    exact h.exists_unpacked (by rw [installDirectory, hpackage]) hends
  | some info =>
    rw [hpackage] at hends
    dsimp only at hends
    rw [ends_bind, ends_written] at hends
    obtain ⟨text, -, hends⟩ := hends
    rw [ends_bind, ends_say] at hends
    obtain ⟨lines, -, hends⟩ := hends
    rw [ends_bind] at hends
    -- what was said does not touch the archives
    have hstored : Stored { s with output := s.output ++ lines } id name version nodes archive :=
      ⟨h.parts, h.isName, h.wellFormed, h.isAt, h.packed⟩
    unfold childSetting at hends
    split at hends
    case h_1 part hpart =>
      have hhome : installDirectory p = some ((sourcesIn p.directory).child part) := by
        rw [installDirectory, hpackage]
        dsimp only
        rw [hpart]
      obtain ⟨s', target, D, hadds, hQ⟩ := hstored.exists_unpacked hhome (ends_pure.mp hends)
      obtain ⟨files, hlaid, hnoted⟩ := hadds.noted
      refine ⟨s', target, D, ⟨hadds.isTarget, files, hlaid, ?_⟩, hQ⟩
      exact ⟨⟨hnoted.before.resolve, hnoted.before.isDirectory⟩, hnoted.sameDirectory,
        hnoted.sameSurroundings, hnoted.shapes, hnoted.config⟩
    case h_2 => exact absurd hends not_ends_fail

end Stored

/-- Where a package goes whose name leads down from the directory of a project. -/
theorem target_eq {path : Path} {D target : Location} (hD : s.At path D)
    (hnames : ∀ part ∈ names, IsName part) (hname : IsName name)
    (htarget : s.At ((path.below names).child name) target) : target = D ++ names ++ [name] := by
  have hresolve := htarget.resolve
  rw [Path.child_of_isName _ hname, Path.below_below, hD.resolve_below] at hresolve
  have hall : ∀ part ∈ names ++ [name], part ≠ ".." :=
    forall_mem_append.mpr
      ⟨fun part hpart => (hnames part hpart).2.2.1, forall_mem_singleton.mpr hname.2.2.1⟩
  rw [Node.eq_append_of_resolve hall hresolve, append_assoc]

theorem Adds.added {p : Project} {s' : State} (h : Adds p name version nodes s s' target D)
    (hname : IsName name) :
    Added p name version (Node.dir nodes).contentAt s s' target D := by
  obtain ⟨files, hlaid, hnoted⟩ := h.noted
  obtain ⟨home, hhome, hresolve⟩ := h.isTarget
  have htarget : files.shapeAt target = some .directory := by
    simpa using hlaid.whole [] .directory rfl
  have hbefore : State.At { s with files } (home.child name) target :=
    ⟨Node.resolve_eq_ok_of_keeps hlaid.lays.keepsDirectories hresolve, htarget⟩
  have hat := hbefore.of_keeps hnoted.sameDirectory hnoted.keeps
  have hafter := hnoted.before.of_keeps hnoted.sameDirectory hnoted.keeps
  refine ⟨hafter, ⟨home, hhome, hat⟩, ?_, ?_, ?_⟩
  · intro names hnames
    obtain rfl : p.directory.below names = home :=
      Option.some.inj (hnames.installDirectory_eq.symm.trans hhome)
    obtain rfl := target_eq hafter hnames.isName hname hat
    exact ⟨rfl, if_neg hnames.not_above_fileIn⟩
  · intro location hlocation
    exact (Node.contentAt_congr (hnoted.shapes location hlocation)).trans
      (hlaid.contentAt_eq location)
  · rw [← hlaid.contentAt_eq]
    obtain ⟨config, dependencies, hconfig, hreadable, hdependencies, hnew⟩ := hnoted.config
    exact ⟨config, dependencies, _, hconfig, hdependencies, hnew,
      same_settleEntries (isReadable_withDependency hreadable hdependencies)⟩

/-- Adding a package of the history. -/
theorem Holds.exists_added (h : Holds C s history) (hname : IsPart name)
    (hversion : IsPart version) (hlookup : history.lookup (name ++ ":" ++ version) = some tree)
    {p : Project} {Q : Unit → State → Prop} (hends : Ends (add p (name ++ ":" ++ version)) s Q) :
    ∃ s' target D, Added p name version tree s s' target D ∧ Q () s' := by
  obtain ⟨nodes, archive, rfl, hstored⟩ := h.exists_stored hname hversion hlookup
  obtain ⟨s', target, D, hadds, hQ⟩ := hstored.exists_adds hends
  exact ⟨s', target, D, hadds.added hname.1, hQ⟩

/-! ## When adding succeeds -/

/-- The text of a project file in which a package was noted, if it can be noted. -/
def noteIn (name version text : String) : Option String :=
  match read text with
  | .error _ => none
  | .ok config =>
    match addDependency name version config with
    | .error _ => none
    | .ok new => if (write new).error = none then some (write new).text else none

theorem exists_of_noteIn {text new : String} (h : noteIn name version text = some new) :
    ∃ config noted, read text = .ok config ∧ addDependency name version config = .ok noted
      ∧ (write noted).error = none ∧ (write noted).text = new := by
  unfold noteIn at h
  split at h
  · cases h
  · rename_i config hread
    split at h
    · cases h
    · rename_i noted hadd
      obtain ⟨herror, htext⟩ := Option.ite_none_right_eq_some.mp h
      exact ⟨config, noted, hread, hadd, herror, Option.some.inj htext⟩

/-- A package is added if its archive can be unpacked into a directory that is there, if it can be
noted, and if the message can be shown. -/
theorem ends_unpackInto {p : Project} {id text new : String} {home : Path} {mode : Nat}
    {entries : List (String × Content)} {old : List (String × Node)} {files : Node}
    {lines : String} (hparts : identifierParts id = [name, version])
    (harchive : s.node? ((s.surroundings.cache.child "packages").child (id ++ ".zip"))
      = some (.file (.archive entries) mode))
    (hlookup : s.lookup (home.child name) = .ok (target, .dir old))
    (hunpacked : unpackEntries target s.files entries = (files, 0))
    (hat : State.At { s with files } p.directory D)
    (hfile : files.shapeAt (fileIn D) = some (.file (.text text)))
    (hnote : noteIn name version text = some new)
    (hlines : Console.render ("✨ [green]Added package [bold cyan]" ++ id ++ "[/bold cyan][/green]")
      = .ok lines)
    {Q : Unit → State → Prop}
    (hQ : Q () { State.write { s with files } (fileIn D) (.text new) with
      output := s.output ++ lines }) :
    Ends (unpackInto p id home) s Q := by
  obtain ⟨config, noted, hread, hadd, herror, rfl⟩ := exists_of_noteIn hnote
  unfold unpackInto
  rw [ends_bind, ends_directory, hparts]
  dsimp only
  rw [ends_bind, ends_unpack_of_directory harchive hlookup, hunpacked]
  refine ⟨rfl, ?_⟩
  rw [ends_bind, ends_readConfig hat hfile]
  refine ⟨text, config, rfl, hread, ?_⟩
  rw [hadd]
  dsimp only
  rw [ends_bind, ends_writeConfig hat (free_of_file hfile)]
  exact ⟨herror, ends_say.mpr ⟨lines, hlines, hQ⟩⟩

/-! ## A host with a package -/

/-- The project file of a robot. -/
def roverFile : String := "[project]\nname = \"Rover\"\nslot = 1\n"

/-- The script of a package. -/
def script : String × Node := ("__init__.py", .plain (.text "ratio = 3\n"))

/-- The script that the package had before. -/
def draft : String × Node := ("draft.py", .plain (.text "ratio = 2\n"))

/-- A script of the robot, in the place for the package. -/
def notes : String × Node := ("notes.py", .plain (.text "speed = 1\n"))

/-- A host with a package `gears` of one script and a robot that has nodes in the place for it. -/
def workshop (source : String × Node) (archives installed : List (String × Node))
    (output : String) : State :=
  { quietHost (.dir [
      ("cache", .dir archives),
      ("gears", .dir [("src", .dir [("gears", .dir [source])])]),
      ("rover", .dir [("dishpy.toml", .plain (.text roverFile)),
        ("src", .dir [("gears", .dir installed)])])]) [] with output }

abbrev depot := workshop script

/-- The cache with the archive of the package. -/
def packed (source : String × Node) : List (String × Node) :=
  [("packages", .dir [("gears:0.1.0.zip", .plain (.archive (archiveEntries "" [source])))])]

abbrev stored := packed script

def gears : Project :=
  ⟨.ofString "/gears", some (.text "Gears"), some (.integer 1),
    some ⟨some (.text "gears"), some (.text "0.1.0")⟩⟩

def rover : Project := ⟨.ofString "/rover", some (.text "Rover"), some (.integer 1), none⟩

theorem gears_texts :
    (Console.plainText ("✨ [green]Registered package [bold cyan]" ++ ("gears" ++ ":" ++ "0.1.0")
      ++ "[/bold cyan][/green]")).toOption.isSome
    ∧ (Console.plainText ("✨ [green]Added package [bold cyan]" ++ ("gears" ++ ":" ++ "0.1.0")
      ++ "[/bold cyan][/green]")).toOption.isSome
    ∧ (noteIn "gears" "0.1.0" roverFile).isSome := by
  decide +kernel

section Workshop

variable {source : String × Node} (hsource : source = draft ∨ source = script)
  {archives : List (String × Node)} (harchives : archives = [] ∨ archives = packed draft)
  (output : String)

include hsource harchives

theorem hasCache_workshop : HasCache (workshop source archives [notes] output) ["cache"] := by
  have hsources : (Node.dir [("src", .dir [("gears", .dir [source])])]).WellFormed := by
    refine .singleton (by decide) (.singleton (by decide) ?_)
    rcases hsource with rfl | rfl <;> exact .singleton (by decide) (.file _ _)
  have hcache : (Node.dir archives).WellFormed := by
    rcases harchives with rfl | rfl
    · exact .dir (by simp) (by simp) (by simp)
    · exact .singleton (by decide) (.singleton (by decide) (.file _ _))
  have hinstalled : (Node.dir [("gears", .dir [notes])]).WellFormed :=
    .singleton (by decide) (.singleton (by decide) (.file _ _))
  have hrover : (Node.dir [("dishpy.toml", .plain (.text roverFile)),
      ("src", .dir [("gears", .dir [notes])])]).WellFormed :=
    .dir (by decide) (by decide)
      (forall_mem_cons.mpr ⟨.file _ _, forall_mem_singleton.mpr hinstalled⟩)
  have hnames : (∀ name ∈ ["cache", "gears", "rover"], IsName name)
      ∧ ["cache", "gears", "rover"].Nodup := by decide
  refine ⟨⟨rfl, rfl⟩, .dir hnames.1 hnames.2 ?_, ?_⟩
  · exact forall_mem_cons.mpr ⟨hcache,
      forall_mem_cons.mpr ⟨hsources, forall_mem_singleton.mpr hrover⟩⟩
  · rcases harchives with rfl | rfl <;> exact fun content => nofun

/-- The package can be registered, whether or not it was before. -/
theorem ends_register_gears :
    Ends (register gears) (workshop source archives [notes] output) fun _ s =>
      ∃ output, s = workshop source (packed source) [notes] output := by
  obtain ⟨lines, hlines⟩ := exists_render_eq_ok gears_texts.1
  have hcache := hasCache_workshop hsource harchives output
  unfold register
  dsimp only [gears]
  rw [ends_bind, hcache.ends_ensuredDirectory, ends_bind, ends_identifier rfl rfl, ends_bind]
  -- an archive that is there is removed
  rcases harchives with rfl | rfl
  on_goal 1 =>
    refine (ends_iff_of_run_eq (a := false) rfl).mpr ?_
    rw [if_neg Bool.false_ne_true]
  on_goal 2 =>
    refine (ends_iff_of_run_eq (a := true) rfl).mpr ?_
    rw [if_pos rfl, ends_bind]
    refine ⟨(), workshop source [("packages", .dir [])] [notes] output, rfl, ?_⟩
    dsimp only
  all_goals
    rw [ends_bind, childSetting, ends_pure, ends_bind]
    refine (ends_iff_of_run_eq (a := true) rfl).mpr ?_
    rw [Bool.not_true, if_neg Bool.false_ne_true, ends_bind]
    refine ⟨(), workshop source (packed source) [notes] output, ?_, ?_⟩
    · rcases hsource with rfl | rfl <;> rfl
    · exact ends_say.mpr ⟨lines, hlines, _, rfl⟩

end Workshop

theorem unpackEntries_gears (output : String) :
    unpackEntries ["rover", "src", "gears"] (depot stored [notes] output).files
        [("__init__.py", .text "ratio = 3\n")]
      = ((depot stored [script, notes] output).files, 0) := by
  have hslash : "__init__.py".endsWith "/" = false := by
    rw [← Bool.not_eq_true, endsWith_slash_iff]
    decide
  simp only [unpackEntries, foldl_cons, foldl_nil, unpackEntry, hslash]
  rfl

theorem ends_add_rover (output : String) :
    Ends (add rover ("gears" ++ ":" ++ "0.1.0")) (depot stored [notes] output)
      fun _ _ => True := by
  obtain ⟨lines, hlines⟩ := exists_render_eq_ok gears_texts.2.1
  obtain ⟨new, hnew⟩ := Option.isSome_iff_exists.mp gears_texts.2.2
  have hparts : IsPart "gears" ∧ IsPart "0.1.0" := by decide
  have hunpacked := unpackEntries_gears output
  exact ends_unpackInto (D := ["rover"]) (identifierParts_eq hparts.1 hparts.2) rfl rfl hunpacked
    ⟨rfl, rfl⟩ rfl hnew hlines trivial

/-- The files of the package. -/
def gearsFiles (s : State) : Location → Option Content :=
  heldFiles s.files ["gears", "src", "gears"] (archiveIn ["cache"] ("gears" ++ ":" ++ "0.1.0"))

/-! ## The registry after a run -/

/-- After any run of registrations the registry lists the identifiers of the run, each once and
nothing else. Adding one of them to a project, if it succeeds, lays the files that its sources held
at its latest registration over the target directory, notes its version in the project file, and
changes no other file. -/
theorem registry_follows_history {history : History} (h : Runs C s history) :
    (Ends identifiers s fun ids _ => ids.Nodup ∧ ∀ id, id ∈ ids ↔ id ∈ history.map (·.1))
    ∧ ∀ {name version : String} {tree : Location → Option Content} {p : Project} {s' : State},
      IsPart name → IsPart version → history.lookup (name ++ ":" ++ version) = some tree →
      (add p (name ++ ":" ++ version)).run.run s = (.ok (), s') →
      ∃ target D, Added p name version tree s s' target D := by
  refine ⟨h.holds.ends_identifiers, ?_⟩
  intro name version tree p s' hname hversion hlookup hadds
  have hends : Ends (add p (name ++ ":" ++ version)) s fun _ t => t = s' := ⟨(), s', hadds, rfl⟩
  obtain ⟨t, target, D, hadded, rfl⟩ := h.holds.exists_added hname hversion hlookup hends
  exact ⟨target, D, hadded⟩

/-- A package is registered, changed, registered again and listed once. Adding it to a robot brings
the script that it has now, and not the one from before. -/
theorem registry_follows_gears : ∃ before after s s' target D,
    Runs ["cache"] s [("gears" ++ ":" ++ "0.1.0", gearsFiles after),
      ("gears" ++ ":" ++ "0.1.0", gearsFiles before)]
    ∧ (gearsFiles before ["draft.py"]).isSome ∧ gearsFiles after ["draft.py"] = none
    ∧ (Ends identifiers s fun ids _ => ids.Nodup ∧ ∀ id, id ∈ ids ↔
      id ∈ ["gears" ++ ":" ++ "0.1.0", "gears" ++ ":" ++ "0.1.0"])
    ∧ (add rover ("gears" ++ ":" ++ "0.1.0")).run.run s = (.ok (), s')
    ∧ Added rover "gears" "0.1.0" (gearsFiles after) s s' target D := by
  have hparts : IsPart "gears" ∧ IsPart "0.1.0" := by decide
  have hempty : ∀ name rest, (workshop draft [] [notes] "").files.shapeAt
      (["cache"] ++ "packages" :: name :: rest) = none :=
    fun _ _ => rfl
  obtain ⟨⟨⟩, s, hfirst, output, rfl⟩ := ends_register_gears (.inl rfl) (.inl rfl) ""
  obtain ⟨⟨⟩, s, hsecond, output', rfl⟩ :=
    ends_register_gears (.inr rfl) (.inr rfl) output
  have hstart : Runs ["cache"] (workshop draft [] [notes] "") [] :=
    .start (hasCache_workshop (.inl rfl) (.inl rfl) "") hempty
  have hedited : Runs ["cache"] (depot (packed draft) [notes] output)
      [("gears" ++ ":" ++ "0.1.0", gearsFiles (workshop draft [] [notes] ""))] :=
    .edit (.register hstart rfl rfl rfl hparts hfirst)
      (hasCache_workshop (.inr rfl) (.inr rfl) output) fun _ _ => rfl
  have hrun : Runs ["cache"] (depot stored [notes] output')
      [("gears" ++ ":" ++ "0.1.0", gearsFiles (depot (packed draft) [notes] output)),
        ("gears" ++ ":" ++ "0.1.0", gearsFiles (workshop draft [] [notes] ""))] :=
    .register hedited rfl rfl rfl hparts hsecond
  obtain ⟨⟨⟩, s', hadd, -⟩ := ends_add_rover output'
  obtain ⟨hlist, hadded⟩ := registry_follows_history hrun
  obtain ⟨target, D, hadded⟩ := hadded hparts.1 hparts.2 lookup_cons_self hadd
  exact ⟨_, _, _, s', target, D, hrun, rfl, rfl, hlist, hadd, hadded⟩

end RobotKit.Registry
