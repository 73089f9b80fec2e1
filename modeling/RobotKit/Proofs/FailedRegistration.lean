import RobotKit.Proofs.Adding

/-!
# Registrations that fail

A registration removes the archive from before, and only then looks for the sources. So when it
fails, the registry stays as it was exactly if there was no archive of the identifier
(`failed_register_keeps_registry_iff`). Only if the message at the end cannot be shown does the
registry hold the new archive.
-/

namespace RobotKit.Host

open List RobotKit.Files

variable {location : Location} {content : Content} {place : Location}

variable {s t : State} {path : Path} {E : Failure → State → Prop}

/-! ## Operations that change nothing when they fail -/

/-- Is the failure something else than a message that cannot be shown? -/
def Failure.IsSilent (e : Failure) : Prop := ∀ m, e ≠ .markup m

theorem fails_fileExists (h : ∀ e, e.IsSilent → s.lookup path = .error .nameTooLong → E e s) :
    Fails (fileExists path) s E := by
  refine fails_get ?_
  split
  · exact fails_pure _
  · rename_i hlookup
    exact fails_fail (h _ (by simp [Failure.IsSilent]) hlookup)
  · exact fails_pure _

theorem of_run_fileExists {isThere : Bool}
    (h : (fileExists path).run.run s = (.ok isThere, t)) :
    t = s ∧ (isThere = true ↔ ∃ found, s.lookup path = .ok found) := by
  have hends := ends_of_run_eq h
  unfold fileExists at hends
  rw [ends_bind, ends_get] at hends
  cases hlookup : s.lookup path with
  | ok found =>
    rw [hlookup] at hends
    obtain ⟨rfl, rfl⟩ := ends_pure.mp hends
    simp
  | error fault =>
    rw [hlookup] at hends
    cases fault with
    | nameTooLong => exact absurd hends not_ends_fail
    | _ =>
      obtain ⟨rfl, rfl⟩ := ends_pure.mp hends
      simp

theorem State.exists_lookup_of_file (hresolve : s.resolve path = .ok location)
    (hfile : s.files.shapeAt location = some (.file content)) :
    ∃ mode, s.lookup path = .ok (location, .file content mode) := by
  obtain ⟨mode, hfind⟩ := Node.shapeAt_eq_file_iff.mp hfile
  exact ⟨mode, State.lookup_of_find?_some hresolve hfind⟩

theorem fails_removeFile (h : ∀ e, e.IsSilent →
      (∀ location content, s.resolve path = .ok location →
        s.files.shapeAt location ≠ some (.file content)) → E e s) :
    Fails (removeFile path) s E := by
  have hfail (error : FileError)
      (hnot : ∀ location content mode, s.lookup path ≠ .ok (location, .file content mode)) :
      Fails (fail (.file error) : Action Unit) s E := by
    refine fails_fail (h _ (by simp [Failure.IsSilent]) ?_)
    intro location content hresolve hfile
    obtain ⟨mode, hlookup⟩ := State.exists_lookup_of_file hresolve hfile
    exact hnot location content mode hlookup
  refine fails_get ?_
  split
  · exact fails_modify
  · rename_i hlookup
    exact hfail _ (by simp [hlookup])
  · rename_i hlookup
    exact hfail _ (by simp [hlookup])

theorem fails_makeDirectory (h : ∀ e, e.IsSilent → E e s) : Fails (makeDirectory path) s E := by
  have hfail (error : FileError) : Fails (fail (.file error) : Action Unit) s E :=
    fails_fail (h _ (by simp [Failure.IsSilent]))
  refine fails_get ?_
  split
  · exact hfail _
  · split
    · split
      · exact fails_modify
      · exact hfail _
    · exact hfail _
  · exact hfail _

theorem fails_pack {archive directory : Path} (h : ∀ e, e.IsSilent → E e s) :
    Fails (pack archive directory) s E := by
  have hfail (e : Failure) (he : e.IsSilent) : Fails (fail e : Action Unit) s E :=
    fails_fail (h e he)
  have hcheck (words : List String) (status : Int) : Fails (check words status) s E := by
    unfold check
    split
    · exact fails_pure _
    · exact hfail _ (by simp [Failure.IsSilent])
  refine fails_get ?_
  split
  · exact hfail _ (by simp [Failure.IsSilent])
  · exact hfail _ (by simp [Failure.IsSilent])
  · refine fails_get ?_
    split
    · exact hcheck _ _
    · split
      · exact hcheck _ _
      · exact fails_modify

/-! ## One place that changes -/

/-- Do the two hosts look the same but for one place, which is a directory in neither? -/
structure State.Alters (s : State) (place : Location) (t : State) : Prop where
  surroundings : t.surroundings = s.surroundings
  directory : t.directory = s.directory
  before : s.files.shapeAt place ≠ some .directory
  after : t.files.shapeAt place ≠ some .directory
  away : ∀ location ≠ place, t.files.shapeAt location = s.files.shapeAt location

namespace State.Alters

variable {u : State} {place : Location}

theorem trans (h : s.Alters place t) (h' : t.Alters place u) : s.Alters place u :=
  ⟨h'.surroundings.trans h.surroundings, h'.directory.trans h.directory, h.before, h'.after,
    fun location hne => (h'.away location hne).trans (h.away location hne)⟩

theorem root (h : s.Alters place t) (hroot : s.files.shapeAt [] = some .directory) :
    t.files.shapeAt [] = some .directory := by
  rw [h.away [] fun heq => h.before (heq ▸ hroot), hroot]

/-- Paths lead where they led before. -/
theorem resolve_eq_ok_iff (h : s.Alters place t) :
    t.resolve path = .ok location ↔ s.resolve path = .ok location := by
  have hdirectory (location : Location) : t.files.shapeAt location = some .directory
      ↔ s.files.shapeAt location = some .directory := by
    by_cases heq : location = place
    · rw [heq, iff_false_left h.after]
      exact h.before
    · rw [h.away location heq]
  unfold State.resolve
  rw [h.directory]
  constructor
  · exact Node.resolve_eq_ok_of_keeps fun _ => (hdirectory _).mp
  · exact Node.resolve_eq_ok_of_keeps fun _ => (hdirectory _).mpr

end State.Alters

theorem alters_remove (hroot : s.files.shapeAt [] = some .directory)
    (hfile : s.files.shapeAt place = some (.file content)) :
    s.Alters place { s with files := s.files.remove place }
      ∧ (s.files.remove place).shapeAt place = none := by
  have hne : place ≠ [] := by
    rintro rfl
    rw [hroot] at hfile
    cases hfile
  have hremove := Node.shapeAt_remove hne (by rw [hfile]; rfl)
  have hnone : (s.files.remove place).shapeAt place = none := by
    rw [hremove, if_pos prefix_rfl]
  have hbefore : s.files.shapeAt place ≠ some .directory := by simp [hfile]
  refine ⟨⟨rfl, rfl, hbefore, by simp [hnone], fun location hother => ?_⟩, hnone⟩
  show (s.files.remove place).shapeAt location = _
  rw [hremove]
  split
  · rename_i hbelow
    rw [Node.shapeAt_eq_none_of_below hbefore hbelow hother]
  · rfl

theorem alters_put (hroot : s.files.shapeAt [] = some .directory)
    (htarget : s.target path = .ok place) (content : Content) :
    s.Alters place { s with files := Node.put (.plain content) place s.files }
      ∧ (Node.put (.plain content) place s.files).shapeAt place = some (.file content) := by
  obtain ⟨-, hbefore, hparent⟩ := State.target_eq_ok_iff.mp htarget
  have hne : place ≠ [] := by
    rintro rfl
    exact hbefore hroot
  have hdirectory : s.files.shapeAt place.dropLast = some .directory := by
    cases hshape : s.files.shapeAt place with
    | none => exact hparent hshape
    | some shape =>
      obtain ⟨above, name, rfl⟩ := (eq_nil_or_concat' place).resolve_left hne
      have hsome : (s.files.shapeAt (above ++ [name])).isSome := by simp [hshape]
      rw [dropLast_concat]
      exact Node.shapeAt_eq_directory_of_isSome hsome
  have hleaf : (Node.plain content).entries = [] := rfl
  have hput := Node.shapeAt_put_leaf hleaf hbefore hdirectory
  have hfile : (Node.put (.plain content) place s.files).shapeAt place = some (.file content) := by
    rw [hput, if_pos rfl]
    rfl
  refine ⟨⟨rfl, rfl, hbefore, by simp [hfile], fun location hother => ?_⟩, hfile⟩
  exact (hput location).trans (if_neg hother)

end RobotKit.Host

namespace RobotKit.Registry

open List RobotKit.Config RobotKit.Files RobotKit.Host RobotKit.Project

variable {E : Failure → State → Prop} {Q : String → State → Prop} {left right : Setting}
  {location : Location}

variable {s t s' : State} {C A place : Location} {info : PackageInfo} {e : Failure}

/-! ## What the registry holds -/

/-- The path of the registry. -/
def registryPath (s : State) : Path := s.surroundings.cache.below ["packages"]

/-- What is seen at a place of the registry. -/
def held (s : State) (place : Location) : Option Shape :=
  (s.resolve (registryPath s)).toOption.bind fun location => s.files.shapeAt (location ++ place)

/-- Does the registry list the identifier? -/
def Lists (s : State) (id : String) : Prop := Ends identifiers s fun ids _ => id ∈ ids

/-- Do the registries of two hosts list the same identifiers and hold the same? -/
structure SameRegistry (s t : State) : Prop where
  lists : ∀ id, Lists t id ↔ Lists s id
  held : ∀ place ≠ [], held t place = held s place

theorem resolve_registryPath (h : s.At s.surroundings.cache C) :
    s.resolve (registryPath s) = .ok (C ++ ["packages"]) :=
  (h.resolve_below_eq_ok_iff (by decide) (by decide)).mpr ⟨rfl, by simpa using h.isDirectory⟩

theorem exists_cache (h : s.resolve (registryPath s) = .ok location) :
    ∃ C, s.At s.surroundings.cache C := by
  have hsteps : (s.resolve s.surroundings.cache).bind (s.files.resolve · ["packages"])
      = .ok location := by
    rw [← h]
    exact (Node.resolve_append _ _ _ _).symm
  cases hcache : s.resolve s.surroundings.cache with
  | error fault =>
    rw [hcache] at hsteps
    cases hsteps
  | ok C =>
    rw [hcache] at hsteps
    exact ⟨C, hcache, (Node.resolve_cons_eq_ok_iff.mp hsteps).1⟩

theorem held_eq (h : s.At s.surroundings.cache C) (place : Location) :
    held s place = s.files.shapeAt (C ++ ["packages"] ++ place) := by
  unfold held
  rw [resolve_registryPath h]
  rfl

theorem held_eq_none (h : ∀ C, ¬ s.At s.surroundings.cache C) (place : Location) :
    held s place = none := by
  unfold held
  cases hresolve : s.resolve (registryPath s) with
  | error fault => rfl
  | ok location =>
    obtain ⟨C, hat⟩ := exists_cache hresolve
    exact absurd hat (h C)

/-- The registry can be made if there is a cache, and otherwise it cannot. -/
theorem ends_ensuredDirectory_iff {Q : Path → State → Prop} :
    Ends ensuredDirectory s Q
      ↔ ∃ C, s.At s.surroundings.cache C ∧ Q (registryPath s) (prepared s C) := by
  constructor
  · intro h
    have hresolve : ∃ location, s.resolve (registryPath s) = .ok location := by
      have hmade := h
      unfold ensuredDirectory ensureDirectory at hmade
      rw [ends_bind, ends_directory, Path.child_of_isName _ (by decide), ends_bind, ends_bind]
        at hmade
      obtain ⟨isThere, u, hrun, hmade⟩ := hmade
      obtain ⟨rfl, hthere⟩ := of_run_fileExists hrun
      cases isThere with
      | true =>
        obtain ⟨found, hlookup⟩ := hthere.mp rfl
        exact ⟨found.1, (State.lookup_eq_ok_iff.mp hlookup).1⟩
      | false =>
        obtain ⟨location, hresolve, -⟩ := ends_makeDirectory.mp hmade
        exact ⟨location, hresolve⟩
    obtain ⟨location, hresolve⟩ := hresolve
    obtain ⟨C, hat⟩ := exists_cache hresolve
    exact ⟨C, hat, (ends_ensuredDirectory_of_at hat).mp h⟩
  · rintro ⟨C, hat, hQ⟩
    exact (ends_ensuredDirectory_of_at hat).mpr hQ

theorem fails_ensuredDirectory : Fails ensuredDirectory s fun e t =>
    t = s ∧ e.IsSilent ∧ ∀ C, ¬ s.At s.surroundings.cache C := by
  have hclean : Fails ensuredDirectory s fun e t => t = s ∧ e.IsSilent := by
    unfold ensuredDirectory ensureDirectory
    refine fails_bind ?_ fun path t hrun => ?_
    · intro e t hrun
      cases (Prod.mk.inj hrun).1
    · obtain ⟨-, rfl⟩ := Prod.mk.inj hrun
      refine fails_bind (fails_bind ?_ fun isThere u hrun => ?_) fun _ _ _ => fails_pure _
      · exact fails_fileExists fun e he _ => ⟨rfl, he⟩
      · obtain ⟨rfl, -⟩ := of_run_fileExists hrun
        split
        · exact fails_makeDirectory fun e he => ⟨rfl, he⟩
        · exact fails_pure _
  intro e t hrun
  obtain ⟨rfl, he⟩ := hclean e t hrun
  refine ⟨rfl, he, fun C hat => ?_⟩
  obtain ⟨path, u, hends, -⟩ := (ends_ensuredDirectory_of_at (Q := fun _ _ => True) hat).mpr trivial
  rw [hends] at hrun
  cases (Prod.mk.inj hrun).1

theorem isDirectory_above (h : s.At s.surroundings.cache C) :
    s.files.shapeAt (C ++ ["packages"]).dropLast = some .directory := by
  rw [dropLast_concat]
  exact h.isDirectory

theorem shapeAt_prepared (h : s.At s.surroundings.cache C) (hne : location ≠ C ++ ["packages"]) :
    (prepared s C).files.shapeAt location = s.files.shapeAt location := by
  rw [prepared, State.shapeAt_ensureAt rfl (.inr (isDirectory_above h)), if_neg hne,
    Option.or_none]

theorem at_prepared (h : s.At s.surroundings.cache C) :
    (prepared s C).At (prepared s C).surroundings.cache C := by
  unfold prepared
  rw [State.surroundings_ensureAt]
  apply h.of_keeps State.directory_ensureAt
  exact (State.grows_ensureAt rfl (.inr (isDirectory_above h))).keepsDirectories

theorem registryPath_prepared : registryPath (prepared s C) = registryPath s := by
  unfold registryPath prepared
  rw [State.surroundings_ensureAt]

theorem resolve_prepared (h : s.At s.surroundings.cache C) :
    (prepared s C).resolve (registryPath s) = .ok (C ++ ["packages"]) := by
  rw [← registryPath_prepared (C := C)]
  exact resolve_registryPath (at_prepared h)

theorem held_prepared (h : s.At s.surroundings.cache C) (hne : place ≠ []) :
    held (prepared s C) place = held s place := by
  rw [held_eq (at_prepared h), held_eq h, shapeAt_prepared h (by simpa using hne)]

theorem ends_listDirectory_iff {path : Path} {Q : List String → State → Prop} :
    Ends (listDirectory path) s Q
      ↔ ∃ location entries, s.resolve path = .ok location
        ∧ s.files.find? location = some (.dir entries) ∧ Q (entries.map (·.1)) s := by
  constructor
  · intro h
    unfold listDirectory at h
    rw [ends_bind, ends_get] at h
    split at h
    · rename_i location entries hlookup
      obtain ⟨hresolve, hfind⟩ := State.lookup_eq_ok_iff.mp hlookup
      exact ⟨location, entries, hresolve, hfind, ends_pure.mp h⟩
    · exact absurd h not_ends_fail
    · exact absurd h not_ends_fail
  · rintro ⟨location, entries, hresolve, hfind, hQ⟩
    exact (ends_listDirectory hresolve hfind).mpr hQ

/-- The registry lists the archives that lie in it. -/
theorem lists_iff {id : String} :
    Lists s id ↔ ∃ name, (held s [name]).isSome ∧ suffixOf name = ".zip"
      ∧ id = String.ofList name.toList.dropLast.dropLast.dropLast.dropLast := by
  unfold Lists identifiers
  rw [ends_bind, ends_ensuredDirectory_iff]
  constructor
  · rintro ⟨C, hat, hends⟩
    rw [ends_bind, ends_listDirectory_iff] at hends
    obtain ⟨location, entries, hresolve, hfind, hends⟩ := hends
    rw [resolve_prepared hat] at hresolve
    obtain rfl := Except.ok.inj hresolve
    rw [ends_pure] at hends
    obtain ⟨name, hname, rfl⟩ := mem_map.mp hends
    obtain ⟨hname, hzip⟩ := mem_filter.mp hname
    refine ⟨name, ?_, by simpa using hzip, rfl⟩
    rw [← held_prepared hat (by simp), held_eq (at_prepared hat)]
    exact (mem_names_iff_shapeAt hfind).mp hname
  · rintro ⟨name, hsome, hzip, rfl⟩
    by_cases hcache : ∃ C, s.At s.surroundings.cache C
    · obtain ⟨C, hat⟩ := hcache
      rw [← held_prepared hat (by simp), held_eq (at_prepared hat)] at hsome
      obtain ⟨entries, hfind⟩ := Node.shapeAt_eq_directory_iff.mp
        (Node.shapeAt_eq_directory_of_isSome hsome)
      refine ⟨C, hat, ?_⟩
      rw [ends_bind, ends_listDirectory_iff]
      refine ⟨_, entries, resolve_prepared hat, hfind, ends_pure.mpr (mem_map.mpr ?_)⟩
      refine ⟨name, mem_filter.mpr ⟨?_, by simpa using hzip⟩, rfl⟩
      exact (mem_names_iff_shapeAt hfind).mpr hsome
    · rw [held_eq_none (not_exists.mp hcache)] at hsome
      cases hsome

/-! ## What a failed registration leaves -/

/-- Does the path of the archive of the package lead to the location? -/
def ArchiveAt (s : State) (info : PackageInfo) (location : Location) : Prop :=
  ∃ name version, info.name = some (.text name) ∧ info.version = some (.text version)
    ∧ s.resolve ((registryPath s).child (archiveName (name ++ ":" ++ version))) = .ok location

theorem archiveAt_iff {name version : String} (hname : info.name = some (.text name))
    (hversion : info.version = some (.text version)) :
    ArchiveAt s info A
      ↔ s.resolve ((registryPath s).child (archiveName (name ++ ":" ++ version))) = .ok A := by
  unfold ArchiveAt
  rw [hname, hversion]
  simp

theorem ArchiveAt.eq {B : Location} (h : ArchiveAt s info A) (h' : ArchiveAt s info B) : A = B := by
  obtain ⟨name, version, hname, hversion, hA⟩ := h
  rw [archiveAt_iff hname hversion, hA] at h'
  exact Except.ok.inj h'

/-- A host after a registration that failed. There was no cache; or no archive of the package lay
where its path leads, and the registry is there; or the archive that lay there is gone; or the new
archive lies there. -/
inductive Failed (s : State) (info : PackageInfo) : Failure → State → Prop
  | unreached {e : Failure} (he : e.IsSilent) (hat : ∀ C, ¬ s.At s.surroundings.cache C) :
      Failed s info e s
  | kept {e : Failure} {C : Location} (he : e.IsSilent) (hat : s.At s.surroundings.cache C)
      (hfree : ∀ A content, ArchiveAt (prepared s C) info A →
        (prepared s C).files.shapeAt A ≠ some (.file content)) :
      Failed s info e (prepared s C)
  | cleared {e : Failure} {C A : Location} {content : Content} {s' : State} (he : e.IsSilent)
      (hat : s.At s.surroundings.cache C) (harchive : ArchiveAt (prepared s C) info A)
      (hfile : (prepared s C).files.shapeAt A = some (.file content))
      (halters : (prepared s C).Alters A s') (hnone : s'.files.shapeAt A = none) :
      Failed s info e s'
  | packed {m : Console.MarkupError} {C A : Location} {entries : List (String × Node)} {s' : State}
      (hat : s.At s.surroundings.cache C) (harchive : ArchiveAt (prepared s C) info A)
      (halters : (prepared s C).Alters A s')
      (hfile : s'.files.shapeAt A = some (.file (.archive (archiveEntries "" entries)))) :
      Failed s info (.markup m) s'

theorem ends_joined :
    Ends (joined left right) s Q
      ↔ ∃ a b, left = some (.text a) ∧ right = some (.text b) ∧ Q (a ++ b) s := by
  unfold joined
  split
  · simp
  · rename_i hkinds
    refine iff_of_false not_ends_fail ?_
    rintro ⟨a, b, rfl, rfl, -⟩
    exact hkinds a b rfl rfl

theorem fails_joined
    (h : ∀ e, e.IsSilent → (∀ a b, ¬ (left = some (.text a) ∧ right = some (.text b))) → E e s) :
    Fails (joined left right) s E := by
  unfold joined
  split
  · exact fails_pure _
  · rename_i hkinds
    refine fails_fail (h _ (by simp [Failure.IsSilent]) ?_)
    rintro a b ⟨rfl, rfl⟩
    exact hkinds a b rfl rfl

theorem ends_identifier_iff :
    Ends (identifier info) s Q
      ↔ ∃ name version, info.name = some (.text name) ∧ info.version = some (.text version)
        ∧ Q (name ++ ":" ++ version) s := by
  unfold identifier
  simp [ends_joined]

theorem fails_identifier (h : ∀ e, e.IsSilent → (∀ location, ¬ ArchiveAt s info location) → E e s) :
    Fails (identifier info) s E := by
  unfold identifier
  refine fails_bind (fails_joined fun e he hno => h e he ?_) fun start t hrun => ?_
  · rintro location ⟨name, version, hname, -⟩
    exact hno name ":" ⟨hname, rfl⟩
  · obtain ⟨name, colon, hname, -, -, rfl⟩ := ends_joined.mp (ends_of_run_eq hrun)
    refine fails_joined fun e he hno => h e he ?_
    rintro location ⟨-, version, -, hversion, -⟩
    exact hno start version ⟨rfl, hversion⟩

/-- Packs the sources of a package: what a registration does once the archive from before is out of
the way. -/
def packing (p : Project) (info : PackageInfo) (archive : Path) (text : String) : Action Unit := do
  let sources ← childSetting (sourcesIn p.directory) info.name
  if !(← fileExists sources) then
    fail (.packageMissing (← written info.name.plain) sources.toString)
  pack archive sources
  say text

theorem of_run_childSetting {setting : Setting} {found : Path}
    (hrun : (childSetting path setting).run.run s = (.ok found, t)) : t = s := by
  have hends := ends_of_run_eq hrun
  unfold childSetting at hends
  split at hends
  · exact (ends_pure.mp hends).2.symm
  · exact absurd hends not_ends_fail

/-- Packing fails before it changes anything, or at the message that ends it. -/
theorem fails_packing {p : Project} {archive : Path} {text : String}
    (hclean : ∀ e, e.IsSilent → E e s)
    (hpacked : ∀ m place entries, s.target archive = .ok place → E (.markup m) { s with
      files := Node.put (.plain (.archive (archiveEntries "" entries))) place s.files }) :
    Fails (packing p info archive text) s E := by
  refine fails_bind ?_ fun sources t hrun => ?_
  · unfold childSetting
    split
    · exact fails_pure _
    · exact fails_fail (hclean _ (by simp [Failure.IsSilent]))
  · obtain rfl := of_run_childSetting hrun
    refine fails_bind (fails_fileExists fun e he _ => hclean e he) fun isThere t hrun => ?_
    obtain ⟨rfl, -⟩ := of_run_fileExists hrun
    cases isThere with
    | false =>
      refine fails_bind ?_ fun name t hrun => ?_
      · unfold written
        split
        · exact fails_pure _
        · exact fails_fail (hclean _ (by simp [Failure.IsSilent]))
      · obtain ⟨-, -, -, rfl⟩ := ends_written.mp (ends_of_run_eq hrun)
        refine fails_bind (fails_fail (hclean _ (by simp [Failure.IsSilent]))) fun _ _ hrun => ?_
        cases (Prod.mk.inj hrun).1
    | true =>
      refine fails_bind (fails_pack hclean) fun _ u hrun => ?_
      obtain ⟨-, entries, place, -, -, htarget, -, rfl⟩ := ends_pack.mp (ends_of_run_eq hrun)
      exact fails_say fun m => hpacked m place entries htarget

theorem fails_register {p : Project} (hpackage : p.package = some info) :
    Fails (register p) s (Failed s info) := by
  unfold register
  rw [hpackage]
  refine fails_bind ?_ fun archives t hrun => ?_
  · intro e t hrun
    obtain ⟨rfl, he, hat⟩ := fails_ensuredDirectory e t hrun
    exact .unreached he hat
  · obtain ⟨C, hat, rfl, rfl⟩ := ends_ensuredDirectory_iff.mp (ends_of_run_eq hrun)
    refine fails_bind (fails_identifier fun e he hno => .kept he hat fun A _ harchive => ?_)
      fun id t hrun => ?_
    · -- a name or version that is no text gives no path
      exact absurd harchive (hno A)
    · obtain ⟨name, version, hname, hversion, rfl, rfl⟩ :=
        ends_identifier_iff.mp (ends_of_run_eq hrun)
      have harchive (A : Location) : ArchiveAt (prepared s C) info A
          ↔ (prepared s C).resolve ((registryPath s).child (archiveName (name ++ ":" ++ version)))
            = .ok A := by
        rw [archiveAt_iff hname hversion, registryPath_prepared]
      have hfree (h : ∀ found, (prepared s C).lookup ((registryPath s).child
          (archiveName (name ++ ":" ++ version))) ≠ .ok found) (A : Location) (content : Content)
          (hA : ArchiveAt (prepared s C) info A) :
          (prepared s C).files.shapeAt A ≠ some (.file content) := by
        intro hfile
        obtain ⟨mode, hlookup⟩ := State.exists_lookup_of_file ((harchive A).mp hA) hfile
        exact h _ hlookup
      have hroot : (prepared s C).files.shapeAt [] = some .directory :=
        Node.shapeAt_eq_directory_above nil_prefix (at_prepared hat).isDirectory
      refine fails_bind (fails_fileExists fun e he hlong => .kept he hat (hfree ?_))
        fun isThere t hrun => ?_
      · -- a path with a name that is too long leads nowhere
        intro found hlookup
        cases hlong.symm.trans hlookup
      · obtain ⟨rfl, hthere⟩ := of_run_fileExists hrun
        cases isThere with
        | false =>
          refine fails_packing (fun e he => .kept he hat (hfree ?_)) fun m A entries htarget => ?_
          · intro found hlookup
            cases hthere.mpr ⟨found, hlookup⟩
          · obtain ⟨halters, hnew⟩ :=
              alters_put hroot htarget (.archive (archiveEntries "" entries))
            exact .packed hat ((harchive A).mpr (State.target_eq_ok_iff.mp htarget).1) halters hnew
        | true =>
          -- a directory in the place of the archive stays, a file goes
          refine fails_bind (fails_removeFile fun e he hno => .kept he hat ?_) fun _ t hrun => ?_
          · exact fun A content hA => hno A content ((harchive A).mp hA)
          · obtain ⟨A, content, hresolve, hfile, -, rfl⟩ :=
              ends_removeFile.mp (ends_of_run_eq hrun)
            have hA := (harchive A).mpr hresolve
            obtain ⟨halters, hnone⟩ := alters_remove hroot hfile
            refine fails_packing (fun e he => .cleared he hat hA hfile halters hnone)
              fun m place entries htarget => ?_
            -- the new archive goes to the place of the old one
            have hplace := halters.resolve_eq_ok_iff.mp (State.target_eq_ok_iff.mp htarget).1
            obtain rfl : A = place := Except.ok.inj (hresolve.symm.trans hplace)
            obtain ⟨halters', hnew⟩ := alters_put (halters.root hroot) htarget
              (.archive (archiveEntries "" entries))
            exact .packed hat hA (halters.trans halters') hnew

/-! ## The registry after a failure -/

theorem sameRegistry_of_held (h : ∀ place ≠ [], held t place = held s place) :
    SameRegistry s t := by
  refine ⟨fun id => ?_, h⟩
  rw [lists_iff, lists_iff]
  apply exists_congr
  intro name
  rw [h [name] (cons_ne_nil _ _)]

/-- Does the path of the archive of the package lead to this place of the registry? This is asked
of the host after a registration, where the directory of the registry is sure to be there. -/
def ArchiveIn (s : State) (info : PackageInfo) (place : Location) : Prop :=
  ∃ location, s.resolve (registryPath s) = .ok location ∧ ArchiveAt s info (location ++ place)

theorem archiveIn_iff (h : s.At s.surroundings.cache C) :
    ArchiveIn s info place ↔ ArchiveAt s info (C ++ ["packages"] ++ place) := by
  unfold ArchiveIn
  rw [resolve_registryPath h]
  simp

section

variable (hat : s.At s.surroundings.cache C) (harchive : ArchiveAt (prepared s C) info A)
  (halters : (prepared s C).Alters A s')
include hat halters

theorem at_altered : s'.At s'.surroundings.cache C := by
  have hcache := at_prepared hat
  rw [halters.surroundings]
  refine ⟨halters.resolve_eq_ok_iff.mpr hcache.resolve, ?_⟩
  rw [halters.away C fun heq => halters.before (heq ▸ hcache.isDirectory), hcache.isDirectory]

include harchive

theorem archiveIn_altered_iff : ArchiveIn s' info place ↔ A = C ++ ["packages"] ++ place := by
  have hleads (B : Location) : ArchiveAt s' info B ↔ ArchiveAt (prepared s C) info B := by
    unfold ArchiveAt registryPath
    rw [halters.surroundings]
    simp only [halters.resolve_eq_ok_iff]
  rw [archiveIn_iff (at_altered hat halters), hleads]
  constructor
  · exact harchive.eq
  · rintro rfl
    exact harchive

theorem held_altered (hne : place ≠ []) (hnot : ¬ ArchiveIn s' info place) :
    held s' place = held s place := by
  rw [archiveIn_altered_iff hat harchive halters] at hnot
  rw [← held_prepared hat hne, held_eq (at_altered hat halters), held_eq (at_prepared hat),
    halters.away _ (Ne.symm hnot)]

end

theorem Failed.held_away (h : Failed s info e s') (hne : place ≠ [])
    (hnot : ¬ ArchiveIn s' info place) : held s' place = held s place := by
  cases h with
  | unreached => rfl
  | kept _ hat _ => exact held_prepared hat hne
  | cleared _ hat harchive _ halters _ => exact held_altered hat harchive halters hne hnot
  | packed hat harchive halters _ => exact held_altered hat harchive halters hne hnot

/-- At the place of its archive a registration that fails before the end leaves no file. -/
theorem Failed.held_archive (h : Failed s info e s') (he : e.IsSilent) (hne : place ≠ [])
    (harchive : ArchiveIn s' info place) :
    (∃ content, held s place = some (.file content)) ∧ held s' place = none ∨
      (∀ content, held s place ≠ some (.file content)) ∧ held s' place = held s place := by
  cases h with
  | unreached _ hat => exact .inr ⟨by simp [held_eq_none hat], rfl⟩
  | kept _ hat hfree =>
    rw [archiveIn_iff (at_prepared hat)] at harchive
    rw [← held_prepared hat hne, held_eq (at_prepared hat)]
    exact .inr ⟨fun content => hfree _ content harchive, rfl⟩
  | cleared _ hat hA hfile halters hnone =>
    rw [archiveIn_altered_iff hat hA halters] at harchive
    rw [← held_prepared hat hne, held_eq (at_prepared hat), held_eq (at_altered hat halters),
      ← harchive]
    exact .inl ⟨⟨_, hfile⟩, hnone⟩
  | packed => exact absurd rfl (he _)

/-- What a failed registration does to the registry. Only the place of the archive can look
different. If the registration fails before its last message, the registry is as it was exactly if
no file lay there, and a file that lay there is gone. If it fails at the message, the new archive
lies there. -/
theorem failed_register_keeps_registry_iff {p : Project} (hpackage : p.package = some info)
    (hrun : (register p).run.run s = (.error e, s')) :
    (∀ place ≠ [], ¬ ArchiveIn s' info place → held s' place = held s place) ∧
      (e.IsSilent →
        (SameRegistry s s' ↔ ∀ place content, place ≠ [] → ArchiveIn s' info place →
          held s place ≠ some (.file content)) ∧
        ∀ place content, place ≠ [] → ArchiveIn s' info place →
          held s place = some (.file content) → held s' place = none) ∧
      (¬ e.IsSilent → ∃ entries, ∀ place, ArchiveIn s' info place →
        held s' place = some (.file (.archive (archiveEntries "" entries)))) := by
  have hfailed := fails_register hpackage e s' hrun
  refine ⟨fun place hne hnot => hfailed.held_away hne hnot, fun he => ?_, fun he => ?_⟩
  · have hlost (place : Location) (content : Content) (hne : place ≠ [])
        (harchive : ArchiveIn s' info place) (hfile : held s place = some (.file content)) :
        held s' place = none := by
      rcases hfailed.held_archive he hne harchive with ⟨-, hnone⟩ | ⟨hfree, -⟩
      · exact hnone
      · exact absurd hfile (hfree content)
    refine ⟨⟨fun hsame place content hne harchive hfile => ?_, fun hfree => ?_⟩, hlost⟩
    · have hnone := hlost place content hne harchive hfile
      rw [hsame.held place hne, hfile] at hnone
      cases hnone
    · refine sameRegistry_of_held fun place hne => ?_
      by_cases harchive : ArchiveIn s' info place
      · rcases hfailed.held_archive he hne harchive with ⟨⟨content, hfile⟩, -⟩ | ⟨-, hsame⟩
        · exact absurd hfile (hfree place content hne harchive)
        · exact hsame
      · exact hfailed.held_away hne harchive
  · cases hfailed with
    | unreached hsilent => exact absurd hsilent he
    | kept hsilent => exact absurd hsilent he
    | cleared hsilent => exact absurd hsilent he
    | @packed _ _ _ entries _ hat hA halters hfile =>
      refine ⟨entries, fun place harchive => ?_⟩
      rw [archiveIn_altered_iff hat hA halters] at harchive
      rw [held_eq (at_altered hat halters), ← harchive]
      exact hfile

/-- A package whose sources are missing. -/
def lost : Project :=
  ⟨.ofString "/lost", some (.text "Gears"), some (.integer 1),
    some ⟨some (.text "gears"), some (.text "0.1.0")⟩⟩

/-- The depot with an empty registry. -/
def emptied : State := depot [("packages", .dir [])] [notes] ""

theorem run_register_lost {archives : List (String × Node)}
    (h : archives = [] ∨ archives = stored) :
    (register lost).run.run (depot archives [notes] "")
      = (.error (.packageMissing "gears" "/lost/src/gears"), emptied) := by
  rcases h with rfl | rfl
  · rfl
  · rfl

/-- The depot holds an archive of the package. A registration without sources fails, and then the
registry neither lists nor holds the archive. -/
theorem register_lost_drops_gears :
    (register lost).run.run (depot stored [notes] "")
        = (.error (.packageMissing "gears" "/lost/src/gears"), emptied) ∧
      Lists (depot stored [notes] "") "gears:0.1.0" ∧ ¬ Lists emptied "gears:0.1.0" ∧
      held (depot stored [notes] "") ["gears:0.1.0.zip"]
        = some (.file (.archive [("__init__.py", .text "ratio = 3\n")])) ∧
      held emptied ["gears:0.1.0.zip"] = none := by
  refine ⟨run_register_lost (.inr rfl), lists_iff.mpr ?_, ?_, rfl, rfl⟩
  · exact ⟨"gears:0.1.0.zip", rfl, by decide, by decide⟩
  · rw [lists_iff]
    rintro ⟨name, hsome, -⟩
    have hnone : held emptied [name] = none := rfl
    rw [hnone] at hsome
    cases hsome

/-- Where there was no archive, the same registration leaves the registry as it was. -/
theorem register_lost_keeps_registry :
    ∃ info e, lost.package = some info ∧ e.IsSilent ∧
      (register lost).run.run (depot [] [notes] "") = (.error e, emptied) ∧
      SameRegistry (depot [] [notes] "") emptied := by
  have hrun := run_register_lost (.inl rfl)
  have hsilent : Failure.IsSilent (.packageMissing "gears" "/lost/src/gears") := by
    simp [Failure.IsSilent]
  refine ⟨_, _, rfl, hsilent, hrun, ?_⟩
  apply ((failed_register_keeps_registry_iff rfl hrun).2.1 hsilent).1.mpr
  intro place content _ _
  have hnone : held (depot [] [notes] "") place = none := rfl
  simp [hnone]

end RobotKit.Registry
