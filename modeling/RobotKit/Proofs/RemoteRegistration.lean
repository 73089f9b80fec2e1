import RobotKit.Command.Run
import RobotKit.Proofs.FailedRegistration
import RobotKit.Proofs.Fetching

/-!
# Registering a package from elsewhere

A package from elsewhere is fetched into a temporary directory, opened and registered, and only the
last step removes the directory. All that fetching and opening write lies inside that directory
(`upholds_fetch`, `upholds_openAt`), and a registration changes the registry at most
(`registers_of_run`). So the command leaves the temporary directory behind exactly if it fails
(`remote_registration_cleans_up_iff`).
-/

namespace RobotKit.Project

open List RobotKit.Config RobotKit.Files RobotKit.Host

variable {s : State} {I : State → Prop} {directory : Path} {place : Location}

/-! ## Opening a project in the temporary directory -/

/-- Do the paths that lead on from the directory lead below the place, as long as only the place
has changed? -/
def LeadsInto (s : State) (directory : Path) (place : Location) : Prop :=
  ∀ t names location, s.Within place t → (∀ part ∈ names, part ≠ "..") →
    t.resolve (directory.below names) = .ok location → location = place ++ names

theorem upholds_readText {path : Path} : Upholds I (readText path) fun _ => True := by
  refine upholds_bind (P := fun _ => True) ?_ fun content _ => ?_
  · refine upholds_bind upholds_get fun s _ => ?_
    split
    · exact upholds_pure trivial
    · exact upholds_fail
    · exact upholds_fail
  · cases content with
    | text value => exact upholds_pure trivial
    | bytes value => exact upholds_fail
    | archive entries => exact upholds_fail
    | resource value => exact upholds_pure trivial

theorem upholds_readConfig : Upholds I (readConfig directory) fun _ => True := by
  refine upholds_bind upholds_readText fun text _ => ?_
  split
  · exact upholds_pure trivial
  · exact upholds_fail

theorem upholds_written {α : Type} {result : Except Script.WriteError α} :
    Upholds I (written result) fun _ => True := by
  cases result with
  | ok a => exact upholds_pure trivial
  | error e => exact upholds_fail

section Below

variable (hleads : LeadsInto s directory place) {names : List String} (hne : names ≠ [])
  (hnames : ∀ part ∈ names, part ≠ "..")
include hleads hne hnames

theorem upholds_writeFile {content : Content} :
    Upholds (s.Within place) (writeFile (directory.below names) content) fun _ => True := by
  refine upholds_bind upholds_get fun t ht => ?_
  split
  · rename_i location htarget
    obtain rfl := hleads t names location ht hnames (State.target_eq_ok_iff.mp htarget).1
    exact upholds_modify fun u hu => hu.put _ hne
  · exact upholds_fail

theorem upholds_ensureDirectory :
    Upholds (s.Within place) (ensureDirectory (directory.below names)) fun _ => True := by
  refine upholds_bind upholds_fileExists fun isThere _ => ?_
  cases isThere with
  | true => exact upholds_pure trivial
  | false =>
    refine upholds_bind upholds_get fun t ht => ?_
    split
    · exact upholds_fail
    · split
      · rename_i location hresolve
        obtain rfl := hleads t names location ht hnames hresolve
        split
        · exact upholds_place hne
        · exact upholds_fail
      · exact upholds_fail
    · exact upholds_fail

theorem upholds_copyFile {source : Path} (hsource : IsName source.name) :
    Upholds (s.Within place) (copyFile source (directory.below names)) fun _ => True := by
  have hread : Upholds (s.Within place) (readFile source) fun _ => True := by
    refine upholds_bind upholds_get fun t _ => ?_
    split
    · exact upholds_pure trivial
    · exact upholds_fail
    · exact upholds_fail
  have hinside : ∀ part ∈ names ++ [source.name], part ≠ ".." := by
    intro part hpart
    rcases mem_append.mp hpart with hpart | hpart
    · exact hnames part hpart
    · rw [mem_singleton.mp hpart]
      exact hsource.2.2.1
  refine upholds_bind (P := fun _ => True) ?_ fun isDirectory _ => ?_
  · exact upholds_bind upholds_get fun t _ => upholds_pure trivial
  · refine upholds_bind hread fun content _ => ?_
    cases isDirectory with
    | true =>
      -- a directory in the place of the copy takes the copy inside
      rw [if_pos rfl, Path.child_of_isName _ hsource, Path.below_below]
      exact upholds_writeFile hleads (by simp) hinside
    | false => exact upholds_writeFile hleads hne hnames

theorem upholds_ensureCopy {source : Path} (hsource : IsName source.name) :
    Upholds (s.Within place) (ensureCopy source (directory.below names)) fun _ => True := by
  refine upholds_bind upholds_fileExists fun isThere _ => ?_
  cases isThere with
  | true => exact upholds_pure trivial
  | false => exact upholds_copyFile hleads hne hnames hsource

end Below

/-- The last name of a text is the last name of a path that leads on by the text. -/
theorem name_child {text name : String} {names : List String}
    (h : Path.ofString text = ⟨false, names ++ [name]⟩) (path : Path) :
    (path.child text).name = name := by
  rw [Path.child, h, Path.append, if_neg (by simp), Path.name, ← append_assoc,
    getLast?_concat]
  rfl

theorem upholds_snakeSetting {value : Value} :
    Upholds I (snakeSetting value) fun text => ∃ name, text = Text.snakeCase name := by
  unfold snakeSetting
  split
  · exact upholds_pure ⟨_, rfl⟩
  · exact upholds_fail

theorem upholds_twoSettings? {config : Entries} {table first second : String} :
    Upholds I (twoSettings? config table first second) fun _ => True := by
  have hgiven (values : Value) (name : String) : Upholds I (given? values name) fun _ => True := by
    unfold given?
    split
    · exact upholds_fail
    · exact upholds_pure trivial
  unfold twoSettings?
  split
  · exact upholds_pure trivial
  · refine upholds_bind (hgiven _ _) fun a _ => ?_
    cases a with
    | none => exact upholds_pure trivial
    | some a => exact upholds_bind (hgiven _ _) fun b _ => upholds_pure trivial

theorem upholds_ofConfig {config : Entries} :
    Upholds I (ofConfig directory config) fun p => p.directory = directory := by
  refine upholds_bind upholds_twoSettings? fun settings _ => ?_
  cases settings with
  | none => exact upholds_fail
  | some settings => exact upholds_bind upholds_twoSettings? fun package _ => upholds_pure rfl

variable (hleads : LeadsInto s directory place)
include hleads

/-- All that scaffolding without a template writes is inside the directory. -/
theorem upholds_scaffold {name slot : Setting} :
    Upholds (s.Within place) (scaffold directory name slot none) fun _ => True := by
  have hwrite (content : Content) :
      Upholds (s.Within place) (writeFile (directory.child fileName) content) fun _ => True := by
    rw [Path.child_of_isName _ (by decide)]
    exact upholds_writeFile hleads (by decide) (by decide)
  have hlibrary : Upholds (s.Within place) libraryResource
      fun path => IsName path.name ∧ IsName (path.child "resources/empty.py").name := by
    refine upholds_bind upholds_surroundings fun around _ => upholds_pure ⟨?_, ?_⟩
    · have hpath : Path.ofString (Resource.path .deviceLibrary) = ⟨false, [] ++ ["vex.py"]⟩ := by
        decide
      rw [name_child hpath]
      decide
    · have hpath : Path.ofString "resources/empty.py" = ⟨false, ["resources"] ++ ["empty.py"]⟩ := by
        decide
      rw [name_child hpath]
      decide
  unfold scaffold
  refine upholds_bind (hwrite _) fun _ _ => upholds_bind upholds_written fun _ _ =>
    upholds_bind upholds_written fun _ _ => upholds_bind (hwrite _) fun _ _ => ?_
  rw [sourcesIn_eq, libraryIn_eq, outputIn_eq, entryIn_eq, libraryScriptIn_eq]
  refine upholds_bind (upholds_ensureDirectory hleads (by decide) (by decide)) fun _ _ =>
    upholds_bind (upholds_ensureDirectory hleads (by decide) (by decide)) fun _ _ =>
    upholds_bind (upholds_ensureDirectory hleads (by decide) (by decide)) fun _ _ =>
    upholds_bind hlibrary fun library hnames => ?_
  refine upholds_bind (upholds_ensureCopy hleads (by decide) (by decide) hnames.2) fun _ _ => ?_
  exact upholds_ensureCopy hleads (by decide) (by decide) hnames.1

/-- The same for a package, whose own directory has a name in snake case. -/
theorem upholds_scaffoldPackage {name slot : Setting} :
    Upholds (s.Within place) (scaffoldPackage directory name slot none none) fun _ => True := by
  have hstart (around : Surroundings) :
      IsName (around.resources.child (Resource.path .packageStart)).name := by
    have hpath : Path.ofString (Resource.path .packageStart) = ⟨false, [] ++ ["pkg_template.py"]⟩ := by
      decide
    rw [name_child hpath]
    decide
  unfold scaffoldPackage
  refine upholds_bind (P := fun value => ∃ text, value = .text (Text.snakeCase text)) ?_ ?_
  · refine upholds_bind upholds_snakeSetting fun text htext => upholds_pure ?_
    obtain ⟨name, rfl⟩ := htext
    exact ⟨name, rfl⟩
  · rintro _ ⟨text, rfl⟩
    refine upholds_bind (upholds_scaffold hleads) fun _ _ => upholds_bind upholds_readConfig fun _ _ =>
      upholds_bind upholds_snakeSetting fun _ _ => upholds_bind (P := fun _ => True) ?_ fun _ _ => ?_
    · unfold writeConfig
      rw [Path.child_of_isName _ (by decide)]
      refine upholds_bind (upholds_writeFile hleads (by decide) (by decide)) fun _ _ => ?_
      split
      · exact upholds_pure trivial
      · exact upholds_fail
    · unfold childSetting
      refine upholds_bind (P := fun path => path = directory.below (homeNames text)) ?_ ?_
      · exact upholds_pure (home_eq directory text)
      · rintro _ rfl
        have hnames : ∀ part ∈ homeNames text, part ≠ ".." :=
          fun part hpart => (isName_homeNames text part hpart).2.2.1
        rw [Path.child_of_isName _ (by decide), Path.below_below]
        refine upholds_bind (upholds_ensureDirectory hleads (homeNames_ne_nil text) hnames)
          fun _ _ => upholds_bind upholds_surroundings fun around _ => ?_
        refine upholds_copyFile hleads (by simp) ?_ (hstart around)
        exact forall_mem_append.mpr ⟨hnames, by decide⟩

theorem upholds_completeParts {p : Project} (hp : p.directory = directory) :
    Upholds (s.Within place) p.completeParts fun _ => True := by
  have hsay (text : String) : Upholds (s.Within place) (say text) fun _ => True :=
    upholds_say fun _ _ h => ⟨h.surroundings, h.directory, h.files⟩
  refine upholds_bind (upholds_allM fun _ => upholds_fileExists) fun isComplete _ => ?_
  cases isComplete with
  | true => exact upholds_pure trivial
  | false =>
    rw [hp]
    cases p.package with
    | none => exact upholds_bind (upholds_scaffold hleads) fun _ _ => hsay _
    | some info => exact upholds_bind (upholds_scaffoldPackage hleads) fun _ _ => hsay _

/-- Opening a project changes nothing outside its directory. -/
theorem upholds_openAt : Upholds (s.Within place) (openAt directory) fun _ => True := by
  have hopen : Upholds (s.Within place) (do
      let config ← readConfig directory
      let p ← ofConfig directory config
      p.completeParts
      return (p, config)) fun _ => True := by
    refine upholds_bind upholds_readConfig fun config _ => upholds_bind upholds_ofConfig fun p hp => ?_
    exact upholds_bind (upholds_completeParts hleads hp) fun _ _ => upholds_pure trivial
  unfold openAt openWithConfig
  refine upholds_bind (P := fun _ => True) ?_ fun _ _ => upholds_pure trivial
  refine upholds_bind upholds_fileExists fun isThere _ => ?_
  cases isThere with
  | true => exact hopen
  | false => exact upholds_bind (P := fun _ => True) upholds_fail fun _ _ => hopen

end RobotKit.Project

namespace RobotKit.Registry

open List RobotKit.Config RobotKit.Files RobotKit.Host RobotKit.Project

variable {s t u : State} {C A : Location} {info : PackageInfo} {source : String}

/-! ## What a registration can change -/

/-- Are all places that look different the registry and the place of the archive of the package? No
directory goes away. -/
structure Registers (s : State) (info : PackageInfo) (t : State) : Prop where
  directory : t.directory = s.directory
  keeps : s.files.KeepsDirectories t.files
  changes : ∀ location, t.files.shapeAt location ≠ s.files.shapeAt location →
    t.resolve (registryPath t) = .ok location ∨ ArchiveAt t info location

theorem registers_prepared (hat : s.At s.surroundings.cache C) : Registers s info (prepared s C) where
  directory := State.directory_ensureAt
  keeps := (State.grows_ensureAt rfl (.inr (isDirectory_above hat))).keepsDirectories
  changes := by
    intro location hchanged
    obtain rfl : location = C ++ ["packages"] :=
      not_not.mp fun hne => hchanged (shapeAt_prepared hat hne)
    exact .inl (resolve_registryPath (at_prepared hat))

theorem registers_altered (hat : s.At s.surroundings.cache C)
    (harchive : ArchiveAt (prepared s C) info A) (halters : (prepared s C).Alters A t) :
    Registers s info t := by
  have hprepared : Registers s info (prepared s C) := registers_prepared hat
  refine ⟨halters.directory.trans hprepared.directory, fun location hlocation => ?_,
    fun location hchanged => ?_⟩
  · have hkept := hprepared.keeps location hlocation
    rw [halters.away location fun heq => halters.before (heq ▸ hkept), hkept]
  · by_cases heq : location = A
    · -- the path of the archive leads where it led
      obtain ⟨name, version, hname, hversion, hresolve⟩ := harchive
      right
      rw [heq, archiveAt_iff hname hversion, halters.resolve_eq_ok_iff]
      unfold registryPath at hresolve ⊢
      rw [halters.surroundings, hresolve]
    · rw [halters.away location heq] at hchanged
      left
      rw [halters.resolve_eq_ok_iff]
      have hregistry : registryPath t = registryPath (prepared s C) := by
        unfold registryPath
        rw [halters.surroundings]
      rw [hregistry]
      obtain rfl : location = C ++ ["packages"] :=
        not_not.mp fun hne => hchanged (shapeAt_prepared hat hne)
      exact resolve_registryPath (at_prepared hat)

/-- The end of a registration writes the archive and prints a message. -/
theorem exists_of_ends_packing {p : Project} {archive : Path} {text : String}
    {Q : Unit → State → Prop} (h : Ends (packing p info archive text) s Q) :
    ∃ place entries output, s.target archive = .ok place ∧ Q () { s with
      files := Node.put (.plain (.archive (archiveEntries "" entries))) place s.files
      output := output } := by
  rw [packing, ends_bind] at h
  obtain ⟨sources, u, hrun, h⟩ := h
  obtain rfl := of_run_childSetting hrun
  rw [ends_bind] at h
  obtain ⟨isThere, u, hrun, h⟩ := h
  obtain ⟨rfl, -⟩ := of_run_fileExists hrun
  cases isThere with
  | false =>
    obtain ⟨name, v, -, hfail⟩ := ends_bind.mp h
    exact absurd (ends_bind.mp hfail) not_ends_fail
  | true =>
    obtain ⟨-, entries, place, -, -, htarget, hsay⟩ := ends_pack.mp (ends_bind.mp h)
    obtain ⟨lines, -, hQ⟩ := ends_say.mp hsay
    exact ⟨place, entries, _, htarget, hQ⟩

/-- However a registration ends, it changes the registry at most. -/
theorem registers_of_run {p : Project} {result : Except Failure Unit}
    (hpackage : p.package = some info) (hrun : (register p).run.run s = (result, t)) :
    Registers s info t := by
  cases result with
  | error e =>
    cases fails_register hpackage e t hrun with
    | unreached => exact ⟨rfl, .refl _, fun _ hchanged => absurd rfl hchanged⟩
    | kept _ hat _ => exact registers_prepared hat
    | cleared _ hat harchive _ halters _ => exact registers_altered hat harchive halters
    | packed hat harchive halters _ => exact registers_altered hat harchive halters
  | ok =>
    have hends := ends_of_run_eq hrun
    unfold register at hends
    rw [hpackage] at hends
    obtain ⟨C, hat, hends⟩ := ends_ensuredDirectory_iff.mp (ends_bind.mp hends)
    obtain ⟨name, version, hname, hversion, hends⟩ := ends_identifier_iff.mp (ends_bind.mp hends)
    have harchive {A : Location} (hresolve : (prepared s C).resolve ((registryPath s).child
        (archiveName (name ++ ":" ++ version))) = .ok A) : ArchiveAt (prepared s C) info A := by
      rw [archiveAt_iff hname hversion, registryPath_prepared, hresolve]
    have hroot : (prepared s C).files.shapeAt [] = some .directory :=
      Node.shapeAt_eq_directory_above nil_prefix (at_prepared hat).isDirectory
    obtain ⟨isThere, u, hexists, hends⟩ := ends_bind.mp hends
    obtain ⟨rfl, -⟩ := of_run_fileExists hexists
    cases isThere with
    | false =>
      obtain ⟨A, entries, output, htarget, -, rfl⟩ := exists_of_ends_packing hends
      obtain ⟨halters, -⟩ := alters_put hroot htarget (.archive (archiveEntries "" entries))
      refine registers_altered hat (harchive (State.target_eq_ok_iff.mp htarget).1) ?_
      exact ⟨halters.surroundings, halters.directory, halters.before, halters.after, halters.away⟩
    | true =>
      obtain ⟨A, content, hresolve, hfile, hends⟩ := ends_removeFile.mp (ends_bind.mp hends)
      obtain ⟨halters, -⟩ := alters_remove hroot hfile
      obtain ⟨place, entries, output, htarget, -, rfl⟩ := exists_of_ends_packing hends
      have hplace := halters.resolve_eq_ok_iff.mp (State.target_eq_ok_iff.mp htarget).1
      obtain rfl : A = place := Except.ok.inj (hresolve.symm.trans hplace)
      obtain ⟨halters', -⟩ :=
        alters_put (halters.root hroot) htarget (.archive (archiveEntries "" entries))
      have hboth := halters.trans halters'
      refine registers_altered hat (harchive hresolve) ?_
      exact ⟨hboth.surroundings, hboth.directory, hboth.before, hboth.after, hboth.away⟩

/-! ## The temporary directory -/

/-- Is this the host after the package behind a source was fetched, opened and registered, well or
not? -/
def Reaches (s : State) (source : String) (info : PackageInfo) (u : State) : Prop :=
  ∃ p v result, (do openAt (← locate source).path).run.run s = (.ok p, v)
    ∧ p.package = some info ∧ (register p).run.run v = (result, u)

/-- How a registration from elsewhere can end: it fails inside the temporary directory, or it
registers the package that it fetched; if that fails the rest is left as it is, and if it succeeds
the temporary directory is removed. -/
inductive Concludes (s : State) (source : String) : Except Failure Unit → State → Prop
  | inside {e : Failure} {t : State} (hwithin : s.Within (temporaryPlace s source) t) :
      Concludes s source (.error e) t
  | failed {e : Failure} {info : PackageInfo} {t v : State} (hreaches : Reaches s source info t)
      (hwithin : s.Within (temporaryPlace s source) v) (hregisters : Registers v info t) :
      Concludes s source (.error e) t
  | cleaned {info : PackageInfo} {t v : State} (hreaches : Reaches s source info t)
      (hwithin : s.Within (temporaryPlace s source) v) (hregisters : Registers v info t) :
      Concludes s source (.ok ()) { t with files := t.files.remove (temporaryPlace s source) }

theorem leadsInto_temporary :
    LeadsInto s (.ofString (temporaryName s source)) (temporaryPlace s source) :=
  fun _ _ _ hwithin hnames hresolve =>
    hwithin.eq_of_resolve (isName_temporaryName s source) hnames hresolve

section Concluding

variable (hbelow : s.surroundings.WritesBelow)
  (hnew : ∀ found, s.lookup (.ofString source) ≠ .ok found)
  (hshort : s.lookup (.ofString source) ≠ .error .nameTooLong)
  (hdirectory : s.files.shapeAt s.directory = some .directory)
  (hfree : s.files.shapeAt (temporaryPlace s source) = none)
include hbelow hnew hdirectory hfree

include hshort in
/-- A package that cannot be fetched leaves its directory. -/
theorem within_of_locate_error {e : Failure} (hrun : (locate source).run.run s = (.error e, t)) :
    s.Within (temporaryPlace s source) t := by
  have hmade : (makeDirectory (.ofString (temporaryName s source))).run.run s
      = (.ok (), { s with files := Node.put (.dir []) (temporaryPlace s source) s.files }) := by
    apply run_eq_of_ends
    exact ends_makeDirectory_temporary.mpr ⟨hfree, hdirectory, rfl, rfl⟩
  have hfetch : Upholds (s.Within (temporaryPlace s source))
      (do fetch source (.ofString (temporaryName s source))
          return (⟨.ofString (temporaryName s source), true⟩ : Fetched)) fun _ => True :=
    upholds_bind (upholds_fetch (isName_temporaryName s source) hbelow) fun _ _ => upholds_pure trivial
  rw [run_locate_of_new hnew hshort] at hrun
  unfold fetchNew at hrun
  rw [run_bind, run_get] at hrun
  dsimp only at hrun
  rw [← temporaryName, run_bind, hmade] at hrun
  exact hfetch.of_error (within_made _) hrun

omit hbelow hnew in
/-- After the package is opened, the temporary directory goes away if the registration succeeds. -/
theorem concludes_of_opened {p : Project} {v : State} {result : Except Failure Unit}
    (hopened : (do openAt (← locate source).path).run.run s = (.ok p, v))
    (hv : s.Within (temporaryPlace s source) v) (hpackage : p.package = some info)
    (hrun : (do
      register p
      Fetched.discard ⟨.ofString (temporaryName s source), true⟩).run.run v = (result, t)) :
    Concludes s source result t := by
  have hparent : s.files.shapeAt (temporaryPlace s source).dropLast = some .directory := by
    rw [temporaryPlace, dropLast_concat, hdirectory]
  rw [run_bind] at hrun
  cases hregister : (register p).run.run v with
  | mk registered u =>
    rw [hregister] at hrun
    have hregisters := registers_of_run hpackage hregister
    have hreaches : Reaches s source info u := ⟨p, v, registered, hopened, hpackage, hregister⟩
    cases registered with
    | error e =>
      obtain ⟨rfl, rfl⟩ := Prod.mk.inj hrun
      exact .failed hreaches hv hregisters
    | ok =>
      have hthere := hregisters.keeps _ (hv.keepsDirectories hfree hparent _ hdirectory)
      have hplace := hregisters.keeps _ hv.shapeAt_place
      have hdiscard := run_eq_of_ends <|
        (ends_discard (hregisters.directory.trans hv.directory) hthere hplace).mpr ⟨rfl, rfl⟩
      obtain ⟨rfl, rfl⟩ := Prod.mk.inj (hrun.symm.trans hdiscard)
      exact .cleaned hreaches hv hregisters

include hshort in
theorem concludes_of_run {result : Except Failure Unit}
    (hrun : (registerFrom source).run.run s = (result, t)) : Concludes s source result t := by
  unfold registerFrom at hrun
  rw [run_bind] at hrun
  cases hlocate : (locate source).run.run s with
  | mk located u =>
    rw [hlocate] at hrun
    cases located with
    | error e =>
      obtain ⟨rfl, rfl⟩ := Prod.mk.inj hrun
      exact .inside (within_of_locate_error hbelow hnew hshort hdirectory hfree hlocate)
    | ok fetched =>
      obtain ⟨rfl, -, -, hu⟩ := within_of_locate hbelow hnew hlocate
      have hleads : LeadsInto s (.ofString (temporaryName s source)) (temporaryPlace s source) :=
        leadsInto_temporary
      have hopens := upholds_openAt hleads
      dsimp only at hrun
      rw [run_bind] at hrun
      cases hopen : (openAt (.ofString (temporaryName s source))).run.run u with
      | mk opened v =>
        rw [hopen] at hrun
        cases opened with
        | error e =>
          obtain ⟨rfl, rfl⟩ := Prod.mk.inj hrun
          exact .inside (hopens.of_error hu hopen)
        | ok p =>
          obtain ⟨hv, -⟩ := hopens.of_ok hu hopen
          dsimp only at hrun
          cases hpackage : p.package with
          | none =>
            rw [hpackage] at hrun
            obtain ⟨rfl, rfl⟩ := Prod.mk.inj hrun
            exact .inside hv
          | some info =>
            rw [hpackage] at hrun
            have hopened : (do openAt (← locate source).path).run.run s = (.ok p, v) := by
              rw [run_bind, hlocate]
              exact hopen
            exact concludes_of_opened hdirectory hfree hopened hv hpackage hrun

end Concluding

theorem shapeAt_remove_temporaryPlace
    (h : t.files.shapeAt (temporaryPlace s source) = some .directory) (location : Location) :
    (t.files.remove (temporaryPlace s source)).shapeAt location
      = if temporaryPlace s source <+: location then none else t.files.shapeAt location := by
  have hne : temporaryPlace s source ≠ [] := by simp [temporaryPlace]
  exact Node.shapeAt_remove hne (by rw [h]; rfl) location

namespace Concludes

variable {result : Except Failure Unit}

/-- The temporary directory is gone exactly if the registration succeeded. -/
theorem shapeAt_temporaryPlace (h : Concludes s source result t) :
    t.files.shapeAt (temporaryPlace s source) = none ↔ result = .ok () := by
  cases h with
  | inside hwithin => simp [hwithin.shapeAt_place]
  | failed _ hwithin hregisters => simp [hregisters.keeps _ hwithin.shapeAt_place]
  | cleaned _ hwithin hregisters =>
    have hplace := hregisters.keeps _ hwithin.shapeAt_place
    simp [shapeAt_remove_temporaryPlace hplace]

/-- Elsewhere only the registry has changed. -/
theorem changes (h : Concludes s source result t)
    (hdirectory : s.files.shapeAt s.directory = some .directory) {location : Location}
    (haway : ¬ temporaryPlace s source <+: location)
    (hchanged : t.files.shapeAt location ≠ s.files.shapeAt location) :
    ∃ info u, Reaches s source info u ∧
      (u.resolve (registryPath u) = .ok location ∨ ArchiveAt u info location) := by
  have hparent : s.files.shapeAt (temporaryPlace s source).dropLast = some .directory := by
    rw [temporaryPlace, dropLast_concat, hdirectory]
  cases h with
  | inside hwithin => exact absurd (hwithin.shapeAt_away hparent haway) hchanged
  | @failed _ info _ _ hreaches hwithin hregisters =>
    rw [← hwithin.shapeAt_away hparent haway] at hchanged
    exact ⟨info, t, hreaches, hregisters.changes location hchanged⟩
  | @cleaned info u _ hreaches hwithin hregisters =>
    have hplace := hregisters.keeps _ hwithin.shapeAt_place
    rw [shapeAt_remove_temporaryPlace hplace, if_neg haway, ← hwithin.shapeAt_away hparent haway]
      at hchanged
    exact ⟨info, u, hreaches, hregisters.changes location hchanged⟩

end Concludes

/-- To report a failure changes no file. -/
theorem files_handle_report {action : Action Unit} :
    ((handle action Command.report).run.run s).2.files = (action.run.run s).2.files := by
  cases hrun : action.run.run s with
  | mk result u =>
    cases result with
    | ok => rw [run_handle_of_ok hrun]
    | error e =>
      have hkeeps : Upholds (fun v => v.files = u.files)
          (if e.isExit then fail e else Command.report e : Action Unit) fun _ => True := by
        split
        · exact upholds_fail
        · exact upholds_say fun _ _ h => h
      rw [run_handle_of_error hrun]
      exact (hkeeps u rfl).1

/-- The command line that registers what is behind a source. -/
def registerLine (source : String) : Command.Line :=
  ⟨["package", "register"], ⟨[("package_path", .text source)]⟩⟩

theorem text?_registerLine (source : String) :
    (registerLine source).text? "package_path" = some source := rfl

theorem files_run_register {line : Command.Line} {result : Except Failure Unit}
    (hpath : line.path = ["package", "register"]) (hsource : line.text? "package_path" = some source)
    (hrun : line.run.run.run s = (result, t)) :
    t.files = ((registerFrom source).run.run s).2.files := by
  unfold Command.Line.run at hrun
  rw [hpath] at hrun
  rw [← files_handle_report, ← congrArg (·.2.files) hrun, hsource]
  rfl

/-- A package that is no path is fetched into a temporary directory. When the command has ended, the
temporary directory is gone exactly if the package was registered (or no directory was made, because
the path has a name that is too long). Outside of it only the registry has changed: its directory
and the place of the archive. -/
theorem remote_registration_cleans_up_iff {line : Command.Line} {result : Except Failure Unit}
    (hpath : line.path = ["package", "register"]) (hsource : line.text? "package_path" = some source)
    (hbelow : s.surroundings.WritesBelow) (hnew : ∀ found, s.lookup (.ofString source) ≠ .ok found)
    (hdirectory : s.files.shapeAt s.directory = some .directory)
    (hfree : s.files.shapeAt (temporaryPlace s source) = none)
    (hrun : line.run.run.run s = (result, t)) :
    (t.files.shapeAt (temporaryPlace s source) = none
      ↔ Ends (registerFrom source) s (fun _ _ => True)
        ∨ s.lookup (.ofString source) = .error .nameTooLong) ∧
    ∀ location, ¬ temporaryPlace s source <+: location →
      t.files.shapeAt location ≠ s.files.shapeAt location →
      ∃ info u, Reaches s source info u ∧
        (u.resolve (registryPath u) = .ok location ∨ ArchiveAt u info location) := by
  have hfiles := files_run_register hpath hsource hrun
  by_cases hshort : s.lookup (.ofString source) = .error .nameTooLong
  · have hsame : t.files = s.files := by
      have hfails : Upholds (· = s) (fileExists (.ofString source)) fun _ => False := by
        refine upholds_bind upholds_get fun u hu => ?_
        rw [hu, hshort]
        exact upholds_fail
      have hlocate : Upholds (· = s) (locate source) fun _ => False :=
        upholds_bind hfails fun _ h => h.elim
      have hregister : Upholds (· = s) (registerFrom source) fun _ => False :=
        upholds_bind hlocate fun _ h => h.elim
      rw [hfiles, (hregister s rfl).1]
    rw [hsame, hfree]
    exact ⟨iff_of_true rfl (.inr hshort), fun location _ hchanged => absurd rfl hchanged⟩
  · have hconcludes := concludes_of_run hbelow hnew hshort hdirectory hfree (Prod.mk.eta.symm)
    rw [hfiles]
    refine ⟨?_, fun location haway hchanged => hconcludes.changes hdirectory haway hchanged⟩
    rw [hconcludes.shapeAt_temporaryPlace, or_iff_left hshort]
    constructor
    · intro hok
      exact ⟨(), _, Prod.ext hok rfl, trivial⟩
    · rintro ⟨⟨⟩, u, hends, -⟩
      rw [hends]

/-- A host that reaches nothing. -/
def offline : State := outpost [] []

/-- A host that reaches a repository without a project file. -/
def connected : State := outpost [("gears", gearsRemote)] []

theorem run_registerFrom :
    ((registerFrom "https://example.com/gears").run.run offline).1.toOption.isNone
      ∧ ((registerFrom "gears").run.run connected).1.toOption.isNone := by
  decide +kernel

/-- On a host that reaches nothing the command leaves a directory behind. -/
theorem registerLine_leaves_directory : ∃ result t,
    (registerLine "https://example.com/gears").run.run.run offline = (result, t) ∧
      offline.lookup (.ofString "https://example.com/gears") = .error .missing ∧
      offline.surroundings.WritesBelow ∧
      offline.files.shapeAt (temporaryPlace offline "https://example.com/gears") = none ∧
      t.files.shapeAt (temporaryPlace offline "https://example.com/gears") ≠ none := by
  have hlookup : offline.lookup (.ofString "https://example.com/gears") = .error .missing := rfl
  have hbelow : offline.surroundings.WritesBelow := by
    intro address remote hremote
    cases hremote
  cases hrun : (registerLine "https://example.com/gears").run.run.run offline with
  | mk result t =>
    refine ⟨result, t, rfl, hlookup, hbelow, rfl, ?_⟩
    cases hregister : (registerFrom "https://example.com/gears").run.run offline with
    | mk registered u =>
      have hconcludes := concludes_of_run hbelow (by simp [hlookup]) (by simp [hlookup]) rfl rfl
        hregister
      have hfails := run_registerFrom.1
      rw [hregister] at hfails
      rw [files_run_register rfl (text?_registerLine _) hrun, hregister, ne_eq,
        hconcludes.shapeAt_temporaryPlace]
      rintro rfl
      cases hfails

/-- The clone of a repository without a project file stays. -/
theorem registration_of_gears_leaves_clone : ∃ result t,
    (registerLine "gears").run.run.run connected = (result, t) ∧
      (∀ found, connected.lookup (.ofString "gears") ≠ .ok found) ∧
      connected.surroundings.WritesBelow ∧
      connected.files.shapeAt connected.directory = some .directory ∧
      connected.files.shapeAt (temporaryPlace connected "gears") = none ∧
      t.files.shapeAt (temporaryPlace connected "gears") ≠ none := by
  have hlookup : connected.lookup (.ofString "gears") = .error .missing := rfl
  have hnew : ∀ found, connected.lookup (.ofString "gears") ≠ .ok found := by simp [hlookup]
  cases hrun : (registerLine "gears").run.run.run connected with
  | mk result t =>
    have hbelow : connected.surroundings.WritesBelow := writesBelow_gears []
    refine ⟨result, t, rfl, hnew, hbelow, rfl, rfl, fun hnone => ?_⟩
    obtain ⟨hclean, -⟩ := remote_registration_cleans_up_iff rfl (text?_registerLine "gears") hbelow
      hnew rfl rfl hrun
    rcases hclean.mp hnone with ⟨_, u, hends, -⟩ | hlong
    · have hfails := run_registerFrom.2
      rw [hends] at hfails
      cases hfails
    · rw [hlookup] at hlong
      cases hlong

end RobotKit.Registry
