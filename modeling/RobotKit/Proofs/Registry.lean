import RobotKit.Proofs.Archives
import RobotKit.Proofs.SameValues
import RobotKit.Proofs.Scaffold

/-!
# The registry over whole runs

A run registers packages, again and again and with any changes to other files in between. Its
history gives every identifier the files that the sources held when it was registered last. The
registry then holds exactly the archives of the history (`Runs.holds`), lists their identifiers, and
adding a package lays the files of its latest registration over the project.
-/

namespace RobotKit.Registry

open List RobotKit.Config RobotKit.Files RobotKit.Host RobotKit.Project

variable {history : History} {entries : List (String × Node)} {Q : Path → State → Prop}
  {location : Location} {path : Path} {sources : Location} {info : PackageInfo}

/-! ## Identifiers -/

/-- A name that can be part of an identifier. -/
def IsPart (name : String) : Prop := IsName name ∧ ':' ∉ name.toList

instance : DecidablePred IsPart := fun _ => inferInstanceAs (Decidable (_ ∧ _))

variable {name version id : String}

theorem identifierParts_eq (hname : IsPart name) (hversion : IsPart version) :
    identifierParts (name ++ ":" ++ version) = [name, version] := by
  have hchars : (name ++ ":" ++ version).toList = name.toList ++ ':' :: version.toList := by simp
  rw [identifierParts, hchars, splitAtChar_append, splitAtChar_of_notMem hname.2,
    splitAtChar_of_notMem hversion.2, singleton_append, map_cons, map_singleton,
    String.ofList_toList, String.ofList_toList]

/-- The name of the archive of an identifier. -/
def archiveName (id : String) : String := id ++ ".zip"

theorem toList_archiveName (id : String) : (archiveName id).toList = id.toList ++ ['.', 'z', 'i', 'p'] := by
  rw [archiveName, String.toList_append]
  rfl

theorem archiveName_inj {other : String} (h : archiveName id = archiveName other) : id = other := by
  have hchars := congrArg String.toList h
  rw [toList_archiveName, toList_archiveName] at hchars
  exact String.toList_inj.mp (append_cancel_right hchars)

/-- The identifier is what is left of the name of an archive without its last four characters. -/
theorem dropLast_archiveName (id : String) :
    String.ofList ((archiveName id).toList.dropLast.dropLast.dropLast.dropLast) = id := by
  have hlast : id.toList ++ ['.', 'z', 'i', 'p'] = (((id.toList ++ ['.']) ++ ['z']) ++ ['i']) ++ ['p'] := by
    simp
  rw [toList_archiveName, hlast, dropLast_concat, dropLast_concat, dropLast_concat,
    dropLast_concat, String.ofList_toList]

theorem suffixOf_archiveName (h : id ≠ "") : suffixOf (archiveName id) = ".zip" := by
  have hreversed : (archiveName id).toList.reverse = 'p' :: 'i' :: 'z' :: '.' :: id.toList.reverse := by
    rw [toList_archiveName, reverse_append]
    rfl
  have htail : ('p' :: 'i' :: 'z' :: '.' :: id.toList.reverse).takeWhile (· ≠ '.') = ['p', 'i', 'z'] := by
    simp
  have hlength : 0 < id.toList.length :=
    length_pos_iff.mpr fun hnil => h (String.toList_inj.mp hnil)
  rw [suffixOf, hreversed, htail, if_neg]
  · rfl
  · simp only [isEmpty_cons, Bool.false_or, length_cons, length_nil, length_reverse,
      decide_eq_true_eq]
    omega

theorem isName_archiveName (h : '/' ∉ id.toList) : IsName (archiveName id) := by
  have hdot : ∀ text : String, text.toList.length < 4 → archiveName id ≠ text := by
    rintro text hshort rfl
    rw [toList_archiveName, length_append] at hshort
    simp at hshort
  refine ⟨hdot "" (by decide), hdot "." (by decide), hdot ".." (by decide), ?_⟩
  rw [toList_archiveName, mem_append]
  exact not_or.mpr ⟨h, by decide⟩

theorem slash_notMem_identifier (hname : IsPart name) (hversion : IsPart version) :
    '/' ∉ (name ++ ":" ++ version).toList := by
  have hchars : (name ++ ":" ++ version).toList = name.toList ++ ':' :: version.toList := by simp
  rw [hchars, mem_append, mem_cons]
  exact not_or.mpr ⟨hname.1.2.2.2, not_or.mpr ⟨by decide, hversion.1.2.2.2⟩⟩

theorem identifier_ne_empty (name version : String) : name ++ ":" ++ version ≠ "" := by
  intro h
  have hchars := congrArg String.toList h
  simp at hchars

/-! ## The place of the registry -/

/-- The location of the archive of an identifier. -/
def archiveIn (C : Location) (id : String) : Location := C ++ ["packages", archiveName id]

/-- A host whose cache is the directory `C`; no file stands in the place of the registry. -/
structure HasCache (s : State) (C : Location) : Prop where
  isAt : s.At s.surroundings.cache C
  wellFormed : s.files.WellFormed
  noFile : ∀ content, s.files.shapeAt (C ++ ["packages"]) ≠ some (.file content)

/-- The host with the directory of the registry. -/
def prepared (s : State) (C : Location) : State := s.ensureAt (C ++ ["packages"]) (.dir [])

variable {s : State} {C : Location}

theorem ends_directory :
    Ends Registry.directory s Q ↔ Q (s.surroundings.cache.child "packages") s := by
  unfold Registry.directory Host.surroundings
  simp only [ends_bind, ends_get, ends_pure]

/-- The directory of the registry is made below that of the cache. -/
theorem ends_ensuredDirectory_of_at (h : s.At s.surroundings.cache C) :
    Ends ensuredDirectory s Q ↔ Q (s.surroundings.cache.below ["packages"]) (prepared s C) := by
  have hchild : s.surroundings.cache.child "packages" = s.surroundings.cache.below ["packages"] :=
    Path.child_of_isName _ (by decide)
  have hparent : s.files.shapeAt (C ++ ["packages"].dropLast) = some .directory := by
    simpa using h.isDirectory
  unfold ensuredDirectory
  rw [ends_bind, ends_directory, ends_bind, hchild,
    ends_ensureDirectory h (by decide) (by decide), and_iff_right (.inr hparent), ends_pure]
  rfl

namespace HasCache

section

variable (h : HasCache s C)

include h

theorem isDirectory : s.files.shapeAt C = some .directory := h.isAt.isDirectory

theorem isName : ∀ name ∈ C, IsName name := by
  obtain ⟨entries, hfind⟩ := Node.shapeAt_eq_directory_iff.mp h.isDirectory
  exact (h.wellFormed.find? hfind).2

theorem parent : (s.files.shapeAt (C ++ ["packages"])).isSome
    ∨ s.files.shapeAt (C ++ ["packages"]).dropLast = some .directory := by
  rw [dropLast_concat]
  exact .inr h.isDirectory

theorem shapeAt_prepared (location : Location) :
    (prepared s C).files.shapeAt location =
      if location = C ++ ["packages"] then some .directory else s.files.shapeAt location := by
  rw [prepared, State.shapeAt_ensureAt rfl h.parent]
  split
  · rename_i heq
    rw [heq]
    cases hshape : s.files.shapeAt (C ++ ["packages"]) with
    | none => rfl
    | some shape =>
      cases shape with
      | file content => exact absurd hshape (h.noFile content)
      | directory => rfl
  · rw [Option.or_none]

theorem keepsDirectories_prepared :
    s.files.KeepsDirectories (prepared s C).files :=
  (State.grows_ensureAt rfl h.parent).keepsDirectories

theorem contentAt_prepared (location : Location) :
    (prepared s C).files.contentAt location = s.files.contentAt location := by
  ext content
  rw [Node.contentAt_eq_some_iff_shapeAt, Node.contentAt_eq_some_iff_shapeAt, h.shapeAt_prepared]
  split
  · rename_i heq
    rw [heq]
    exact iff_of_false nofun (h.noFile content)
  · rfl

theorem wellFormed_prepared : (prepared s C).files.WellFormed := by
  rw [prepared, State.ensureAt]
  split
  · exact h.wellFormed
  · refine Node.WellFormed.put (.dir (by simp) (by simp) (by simp)) ?_ h.wellFormed
    exact forall_mem_append.mpr ⟨h.isName, by decide⟩

/-- The path of the registry leads to its directory. -/
theorem at_registry {t : State} (hdirectory : t.directory = s.directory)
    (hkeeps : (prepared s C).files.KeepsDirectories t.files) :
    t.At (s.surroundings.cache.below ["packages"]) (C ++ ["packages"]) := by
  have hcache : t.At s.surroundings.cache C :=
    h.isAt.of_keeps hdirectory (h.keepsDirectories_prepared.trans hkeeps)
  refine ⟨?_, hkeeps _ (by rw [h.shapeAt_prepared, if_pos rfl])⟩
  rw [hcache.resolve_below_eq_ok_iff (by decide) (by decide)]
  exact ⟨rfl, by simpa using hcache.isDirectory⟩

theorem ends_ensuredDirectory :
    Ends ensuredDirectory s Q ↔ Q (s.surroundings.cache.below ["packages"]) (prepared s C) :=
  ends_ensuredDirectory_of_at h.isAt

end

end HasCache

/-! ## Registering -/

theorem ends_identifier (hname : info.name = some (.text name))
    (hversion : info.version = some (.text version)) {Q : String → State → Prop} :
    Ends (identifier info) s Q ↔ Q (name ++ ":" ++ version) s := by
  unfold identifier
  rw [hname, hversion]
  simp only [joined, ends_bind, ends_pure]

theorem archiveIn_eq (C : Location) (id : String) :
    archiveIn C id = (C ++ ["packages"]) ++ [archiveName id] := by
  rw [archiveIn, append_assoc]
  rfl

/-- The files of a host with a registry from which the archive of an identifier was removed. -/
structure Cleared (s : State) (C : Location) (id : String) (files : Node) : Prop where
  short : (archiveName id).utf8ByteSize ≤ 255
  free : (prepared s C).files.shapeAt (archiveIn C id) ≠ some .directory
  wellFormed : files.WellFormed
  shapeAt : ∀ location, files.shapeAt location =
    if archiveIn C id <+: location then none else (prepared s C).files.shapeAt location

namespace Cleared

variable {files : Node}

theorem keepsDirectories (h : Cleared s C id files) : (prepared s C).files.KeepsDirectories files := by
  intro location hlocation
  rw [h.shapeAt, if_neg, hlocation]
  intro hbelow
  by_cases heq : location = archiveIn C id
  · exact h.free (heq ▸ hlocation)
  · rw [Node.shapeAt_eq_none_of_below h.free hbelow heq] at hlocation
    cases hlocation

theorem shapeAt_archive (h : Cleared s C id files) : files.shapeAt (archiveIn C id) = none := by
  rw [h.shapeAt, if_pos prefix_rfl]

theorem contentAt (h : Cleared s C id files) (hcache : HasCache s C) (location : Location) :
    files.contentAt location = if location = archiveIn C id then none else s.files.contentAt location := by
  rw [← hcache.contentAt_prepared]
  split
  · rename_i heq
    rw [heq, Node.contentAt, Node.shapeAt_eq_none_iff.mp h.shapeAt_archive]
  · rename_i hne
    refine Node.contentAt_congr ?_
    rw [h.shapeAt]
    split
    · rename_i hbelow
      rw [Node.shapeAt_eq_none_of_below h.free hbelow hne]
    · rfl

end Cleared

/-- An archive from before is removed. -/
theorem HasCache.exists_cleared (h : HasCache s C) (hid : '/' ∉ id.toList) {rest : Action Unit}
    {Q : Unit → State → Prop}
    (hends : Ends (do
      if ← fileExists ((s.surroundings.cache.below ["packages"]).child (archiveName id)) then
        removeFile ((s.surroundings.cache.below ["packages"]).child (archiveName id))
      rest) (prepared s C) Q) :
    ∃ files, Cleared s C id files ∧ Ends rest { prepared s C with files } Q := by
  have hat : (prepared s C).At (s.surroundings.cache.below ["packages"]) (C ++ ["packages"]) :=
    h.at_registry State.directory_ensureAt (.refl _)
  rw [Path.child_of_isName _ (isName_archiveName hid), ends_bind] at hends
  have hshort : (archiveName id).utf8ByteSize ≤ 255 := by
    by_contra hlong
    exact hat.not_ends_fileExists (Nat.lt_of_not_le hlong) hends
  have hsteps : ∀ part ∈ [archiveName id], Node.IsStep part :=
    forall_mem_singleton.mpr ⟨(isName_archiveName hid).2.2.1, hshort⟩
  rw [hat.ends_fileExists hsteps (cons_ne_nil _ _), ← archiveIn_eq] at hends
  cases hshape : (prepared s C).files.shapeAt (archiveIn C id) with
  | none =>
    rw [hshape] at hends
    have hfree : (prepared s C).files.shapeAt (archiveIn C id) ≠ some .directory := by
      rw [hshape]
      exact nofun
    refine ⟨(prepared s C).files, ⟨hshort, hfree, h.wellFormed_prepared, fun location => ?_⟩, hends⟩
    split
    · rename_i hbelow
      by_cases heq : location = archiveIn C id
      · rw [heq, hshape]
      · exact Node.shapeAt_eq_none_of_below hfree hbelow heq
    · rfl
  | some shape =>
    rw [hshape, Option.isSome_some, if_pos rfl, ends_bind, ends_removeFile] at hends
    obtain ⟨location, content, hresolve, hfile, hends⟩ := hends
    obtain ⟨rfl, -⟩ := (hat.resolve_below_eq_ok_iff hsteps (cons_ne_nil _ _)).mp hresolve
    rw [← archiveIn_eq] at hfile hends
    have hfree : (prepared s C).files.shapeAt (archiveIn C id) ≠ some .directory := by
      rw [hfile]
      exact nofun
    have hne : archiveIn C id ≠ [] := by simp [archiveIn]
    exact ⟨_, ⟨hshort, hfree, h.wellFormed_prepared.remove,
      Node.shapeAt_remove hne (by rw [hfile]; rfl)⟩, hends⟩

/-- The files that the sources of a package hold, without the archive if that lies among them. -/
def heldFiles (files : Node) (sources archive : Location) (location : Location) : Option Content :=
  if sources ++ location = archive then none else files.contentAt (sources ++ location)

/-- What registering does: the archive of the identifier holds what the sources held, and the other
archives are as before. -/
structure Registered (s : State) (C : Location) (id : String) (path : Path) (s' : State)
    (sources : Location) (nodes : List (String × Node)) : Prop where
  cache : HasCache s' C
  short : (archiveName id).utf8ByteSize ≤ 255
  isAt : s'.At path sources
  wellFormed : (Node.dir nodes).WellFormed
  contents : ∀ location,
    (Node.dir nodes).contentAt location = heldFiles s.files sources (archiveIn C id) location
  archives : ∀ name rest, s'.files.shapeAt (C ++ "packages" :: name :: rest) =
    if name = archiveName id then
      if rest = [] then some (.file (.archive (archiveEntries "" nodes))) else none
    else s.files.shapeAt (C ++ "packages" :: name :: rest)

section Packed

variable {files : Node} {s' : State} {nodes : List (String × Node)}

section

variable (h : Cleared s C id files) (hcache : HasCache s C)

include h hcache

/-- The registry after an archive was put into it. -/
theorem Cleared.shapeAt_packed
    (hafter : s'.files = Node.put (.plain (.archive (archiveEntries "" nodes))) (archiveIn C id) files)
    (location : Location) :
    s'.files.shapeAt location = if location = archiveIn C id then
      some (.file (.archive (archiveEntries "" nodes))) else files.shapeAt location := by
  have hplace : files.shapeAt (archiveIn C id) ≠ some .directory := by
    rw [h.shapeAt_archive]
    exact nofun
  have hparent : files.shapeAt (archiveIn C id).dropLast = some .directory := by
    rw [archiveIn_eq, dropLast_concat]
    refine h.keepsDirectories _ ?_
    rw [hcache.shapeAt_prepared, if_pos rfl]
  rw [hafter]
  exact Node.shapeAt_put_leaf rfl hplace hparent location

theorem Cleared.hasCache_packed
    (hid : '/' ∉ id.toList) (hsurroundings : s'.surroundings = s.surroundings)
    (hdirectory : s'.directory = s.directory) (hkeeps : files.KeepsDirectories s'.files)
    (hafter : s'.files = Node.put (.plain (.archive (archiveEntries "" nodes))) (archiveIn C id) files) :
    HasCache s' C where
  isAt := by
    rw [hsurroundings]
    exact hcache.isAt.of_keeps hdirectory
      (hcache.keepsDirectories_prepared.trans (h.keepsDirectories.trans hkeeps))
  wellFormed := by
    rw [hafter]
    refine Node.WellFormed.put (.file _ _) ?_ h.wellFormed
    rw [archiveIn]
    refine forall_mem_append.mpr ⟨hcache.isName, ?_⟩
    exact forall_mem_cons.mpr ⟨by decide, forall_mem_singleton.mpr (isName_archiveName hid)⟩
  noFile := by
    intro content hcontent
    have hprepared : (prepared s C).files.shapeAt (C ++ ["packages"]) = some .directory := by
      rw [hcache.shapeAt_prepared, if_pos rfl]
    rw [hkeeps _ (h.keepsDirectories _ hprepared)] at hcontent
    cases hcontent

/-- Packing into the registry from which an archive was cleared. -/
theorem Cleared.registered (hid : '/' ∉ id.toList)
    (hlookup : State.lookup { prepared s C with files } path = .ok (sources, .dir nodes))
    (hsurroundings : s'.surroundings = s.surroundings) (hdirectory : s'.directory = s.directory)
    (hafter : s'.files = Node.put (.plain (.archive (archiveEntries "" nodes))) (archiveIn C id) files) :
    Registered s C id path s' sources nodes := by
  obtain ⟨hresolve, hfind⟩ := State.lookup_eq_ok_iff.mp hlookup
  have hkeeps : files.KeepsDirectories s'.files := by
    rw [hafter]
    exact Node.keepsDirectories_put (by rw [h.shapeAt_archive]; exact nofun)
  have hat : State.At { prepared s C with files } path sources :=
    ⟨hresolve, Node.shapeAt_eq_directory_iff.mpr ⟨nodes, hfind⟩⟩
  have hsame : s'.directory = (prepared s C).directory := hdirectory.trans State.directory_ensureAt.symm
  refine ⟨h.hasCache_packed hcache hid hsurroundings hdirectory hkeeps hafter, h.short,
    hat.of_keeps hsame hkeeps, (h.wellFormed.find? hfind).1, fun location => ?_, fun name rest => ?_⟩
  · -- what the archive holds was found below the sources after clearing
    have hbelow : (Node.dir nodes).contentAt location = files.contentAt (sources ++ location) := by
      rw [Node.contentAt, Node.contentAt, Node.find?_append]
      dsimp only at hfind
      rw [hfind, Option.bind_some]
    rw [hbelow, h.contentAt hcache, heldFiles]
  · rw [h.shapeAt_packed hcache hafter, h.shapeAt, hcache.shapeAt_prepared]
    have hplace : C ++ "packages" :: name :: rest = archiveIn C id ↔ name = archiveName id ∧ rest = [] := by
      simp [archiveIn]
    have hbelow : archiveIn C id <+: C ++ "packages" :: name :: rest ↔ name = archiveName id := by
      rw [archiveIn, prefix_append_right_inj, cons_prefix_cons, cons_prefix_cons]
      simp [eq_comm]
    have hregistry : C ++ "packages" :: name :: rest ≠ C ++ ["packages"] := by simp
    simp only [hplace, hbelow, hregistry, if_false]
    by_cases hname : name = archiveName id <;> by_cases hrest : rest = [] <;> simp [hname, hrest]

end

end Packed

/-- What a registration that succeeds does. -/
theorem exists_registered (h : HasCache s C) {p : Project} (hpackage : p.package = some info)
    (hname : info.name = some (.text name)) (hversion : info.version = some (.text version))
    (hparts : IsPart name ∧ IsPart version) {Q : Unit → State → Prop}
    (hends : Ends (register p) s Q) :
    ∃ s' sources nodes, Q () s' ∧ Registered s C (name ++ ":" ++ version)
      ((sourcesIn p.directory).child name) s' sources nodes := by
  have hid := slash_notMem_identifier hparts.1 hparts.2
  unfold register at hends
  rw [hpackage] at hends
  dsimp only at hends
  rw [ends_bind, h.ends_ensuredDirectory, ends_bind, ends_identifier hname hversion] at hends
  obtain ⟨files, hcleared, hends⟩ := h.exists_cleared hid hends
  have hchild : childSetting (sourcesIn p.directory) info.name
      = pure ((sourcesIn p.directory).child name) := by
    rw [hname]
    rfl
  rw [hchild, ends_bind, ends_pure, ends_bind] at hends
  obtain ⟨isThere, hends⟩ := exists_of_ends_fileExists hends
  cases isThere with
  | false => simp [ends_written] at hends
  | true =>
    rw [Bool.not_true, if_neg Bool.false_ne_true, ends_bind, ends_pack] at hends
    obtain ⟨sources, nodes, place, hlookup, -, htarget, hends⟩ := hends
    obtain ⟨lines, -, hends⟩ := ends_say.mp hends
    -- the archive goes to the place that was cleared
    have hat : State.At { prepared s C with files } (s.surroundings.cache.below ["packages"])
        (C ++ ["packages"]) :=
      h.at_registry State.directory_ensureAt hcleared.keepsDirectories
    have hsteps : ∀ part ∈ [archiveName (name ++ ":" ++ version)], Node.IsStep part :=
      forall_mem_singleton.mpr ⟨(isName_archiveName hid).2.2.1, hcleared.short⟩
    have hresolve := (State.target_eq_ok_iff.mp htarget).1
    rw [← archiveName, Path.child_of_isName _ (isName_archiveName hid),
      hat.resolve_below_eq_ok_iff hsteps (cons_ne_nil _ _), ← archiveIn_eq] at hresolve
    obtain ⟨rfl, -⟩ := hresolve
    exact ⟨_, sources, nodes, hends, hcleared.registered h hid hlookup State.surroundings_ensureAt
      State.directory_ensureAt rfl⟩

/-! ## Runs -/

/-- The identifiers that were registered, latest first, with the files that their sources held. -/
abbrev History := List (String × (Location → Option Content))

/-- The location that a path leads to. -/
def locationOf (s : State) (path : Path) : Location := (s.resolve path).toOption.getD []

theorem locationOf_eq (h : s.At path location) :
    locationOf s path = location := by
  rw [locationOf, h.resolve]
  rfl

/-- The hosts that can be reached from an empty registry in the cache `C` by registrations that
succeed, with any other changes in between that leave the archives alone. -/
inductive Runs (C : Location) : State → History → Prop
  | start {s : State} (cache : HasCache s C)
      (empty : ∀ name rest, s.files.shapeAt (C ++ "packages" :: name :: rest) = none) : Runs C s []
  | edit {s s' : State} {history : History} (run : Runs C s history) (cache : HasCache s' C)
      (same : ∀ name rest, s'.files.shapeAt (C ++ "packages" :: name :: rest)
        = s.files.shapeAt (C ++ "packages" :: name :: rest)) : Runs C s' history
  | register {s s' : State} {history : History} {p : Project} {info : PackageInfo}
      {name version : String} (run : Runs C s history) (package : p.package = some info)
      (hasName : info.name = some (.text name)) (hasVersion : info.version = some (.text version))
      (parts : IsPart name ∧ IsPart version) (registers : (register p).run.run s = (.ok (), s')) :
      Runs C s' ((name ++ ":" ++ version,
        heldFiles s.files (locationOf s' ((sourcesIn p.directory).child name))
          (archiveIn C (name ++ ":" ++ version))) :: history)

/-- The registry holds exactly the archives of a history. -/
structure Holds (C : Location) (s : State) (history : History) : Prop where
  cache : HasCache s C
  parts : ∀ entry ∈ history, ∃ name version, IsPart name ∧ IsPart version
    ∧ entry.1 = name ++ ":" ++ version
  short : ∀ entry ∈ history, (archiveName entry.1).utf8ByteSize ≤ 255
  found : ∀ {name rest}, (s.files.shapeAt (C ++ "packages" :: name :: rest)).isSome →
    rest = [] ∧ ∃ id ∈ history.map (·.1), name = archiveName id
  archives : ∀ {id tree}, history.lookup id = some tree → ∃ nodes, (Node.dir nodes).WellFormed
    ∧ (Node.dir nodes).contentAt = tree
    ∧ s.files.shapeAt (archiveIn C id) = some (.file (.archive (archiveEntries "" nodes)))

/-- What does not touch the archives keeps them. -/
theorem Holds.edit {s' : State} (h : Holds C s history) (hcache : HasCache s' C)
    (hsame : ∀ name rest, s'.files.shapeAt (C ++ "packages" :: name :: rest)
      = s.files.shapeAt (C ++ "packages" :: name :: rest)) :
    Holds C s' history where
  cache := hcache
  parts := h.parts
  short := h.short
  found := by
    intro name rest hsome
    rw [hsame] at hsome
    exact h.found hsome
  archives := by
    intro id tree hlookup
    obtain ⟨nodes, hwellFormed, hcontents, hshape⟩ := h.archives hlookup
    exact ⟨nodes, hwellFormed, hcontents, (hsame _ _).trans hshape⟩

/-- A registration puts its identifier in front of the history. -/
theorem Holds.register (h : Holds C s history) {s' : State} {nodes : List (String × Node)}
    (hregistered : Registered s C (name ++ ":" ++ version) path s' sources nodes)
    (hparts : IsPart name ∧ IsPart version) :
    Holds C s' ((name ++ ":" ++ version,
      heldFiles s.files sources (archiveIn C (name ++ ":" ++ version))) :: history) where
  cache := hregistered.cache
  parts := forall_mem_cons.mpr ⟨⟨name, version, hparts.1, hparts.2, rfl⟩, h.parts⟩
  short := forall_mem_cons.mpr ⟨hregistered.short, h.short⟩
  found := by
    intro other rest hsome
    rw [hregistered.archives] at hsome
    by_cases hother : other = archiveName (name ++ ":" ++ version)
    · rw [if_pos hother] at hsome
      by_cases hrest : rest = []
      · exact ⟨hrest, _, mem_cons_self, hother⟩
      · rw [if_neg hrest] at hsome
        cases hsome
    · rw [if_neg hother] at hsome
      obtain ⟨hrest, id, hid, hname⟩ := h.found hsome
      exact ⟨hrest, id, mem_cons_of_mem _ hid, hname⟩
  archives := by
    intro id tree hlookup
    by_cases hid : id = name ++ ":" ++ version
    · subst hid
      rw [lookup_cons_self] at hlookup
      refine ⟨nodes, hregistered.wellFormed, ?_, ?_⟩
      · rw [← Option.some.inj hlookup]
        exact funext hregistered.contents
      · rw [archiveIn, hregistered.archives, if_pos rfl, if_pos rfl]
    · rw [Table.lookup_cons_of_ne hid] at hlookup
      obtain ⟨old, hwellFormed, hcontents, hshape⟩ := h.archives hlookup
      refine ⟨old, hwellFormed, hcontents, ?_⟩
      rw [archiveIn, hregistered.archives, if_neg fun heq => hid (archiveName_inj heq)]
      exact hshape

theorem Runs.holds (h : Runs C s history) : Holds C s history := by
  induction h with
  | start cache empty =>
    refine ⟨cache, nofun, nofun, ?_, nofun⟩
    intro name rest hsome
    rw [empty] at hsome
    cases hsome
  | edit run cache same ih => exact ih.edit cache same
  | @register s s' history p info name version run package hasName hasVersion parts registers ih =>
    have hends : Ends (Registry.register p) s fun _ t => t = s' := ⟨(), s', registers, rfl⟩
    obtain ⟨t, sources, nodes, rfl, hregistered⟩ :=
      exists_registered ih.cache package hasName hasVersion parts hends
    rw [locationOf_eq hregistered.isAt]
    exact ih.register hregistered parts

/-! ## Listing -/

theorem ends_listDirectory (hresolve : s.resolve path = .ok location)
    (hfind : s.files.find? location = some (.dir entries)) {Q : List String → State → Prop} :
    Ends (listDirectory path) s Q ↔ Q (entries.map (·.1)) s := by
  unfold listDirectory
  rw [ends_bind, ends_get, State.lookup_of_find?_some hresolve hfind, ends_pure]

/-- A directory has an entry for each name below it. -/
theorem mem_names_iff_shapeAt {root : Node} (hfind : root.find? location = some (.dir entries)) :
    name ∈ entries.map (·.1) ↔ (root.shapeAt (location ++ [name])).isSome := by
  have hshape : (entries.lookup name).isSome = (root.shapeAt (location ++ [name])).isSome := by
    rw [Node.shapeAt_append, hfind, Option.bind_some, Node.shapeAt_cons, Node.entries]
    cases entries.lookup name <;> simp
  rw [← not_iff_not, ← Table.lookup_eq_none_iff_notMem, ← Option.not_isSome_iff_eq_none, hshape]

/-- The names in the registry are those of the archives. -/
theorem Holds.mem_names_iff (h : Holds C s history)
    (hfind : (prepared s C).files.find? (C ++ ["packages"]) = some (.dir entries)) :
    name ∈ entries.map (·.1) ↔ ∃ id ∈ history.map (·.1), name = archiveName id := by
  have hplace : C ++ ["packages", name] = (C ++ ["packages"]) ++ [name] := by simp
  have hne : C ++ ["packages", name] ≠ C ++ ["packages"] := by simp
  have hprepared : (prepared s C).files.shapeAt (C ++ ["packages", name])
      = s.files.shapeAt (C ++ ["packages", name]) := by
    rw [h.cache.shapeAt_prepared, if_neg hne]
  rw [mem_names_iff_shapeAt hfind, ← hplace, hprepared]
  constructor
  · exact fun hsome => (h.found hsome).2
  · rintro ⟨id, hid, rfl⟩
    obtain ⟨tree, hlookup⟩ : ∃ tree, history.lookup id = some tree := by
      rw [← Option.isSome_iff_exists, ← Option.ne_none_iff_isSome, ne_eq,
        Table.lookup_eq_none_iff_notMem]
      exact not_not.mpr hid
    obtain ⟨nodes, -, -, hshape⟩ := h.archives hlookup
    rw [← archiveIn, hshape]
    rfl

/-- The registry lists the identifiers of its history. -/
theorem Holds.ends_identifiers (h : Holds C s history) :
    Ends identifiers s fun ids _ => ids.Nodup ∧ ∀ id, id ∈ ids ↔ id ∈ history.map (·.1) := by
  have hat : (prepared s C).At (s.surroundings.cache.below ["packages"]) (C ++ ["packages"]) :=
    h.cache.at_registry State.directory_ensureAt (.refl _)
  obtain ⟨entries, hfind⟩ := Node.shapeAt_eq_directory_iff.mp hat.isDirectory
  have hnodup : (entries.map (·.1)).Nodup :=
    (h.cache.wellFormed_prepared.find? hfind).1.entries.2.1
  have hall : (entries.map (·.1)).filter (fun name => suffixOf name = ".zip") = entries.map (·.1) := by
    refine filter_eq_self.mpr fun name hname => ?_
    obtain ⟨id, hid, rfl⟩ := (h.mem_names_iff hfind).mp hname
    obtain ⟨entry, hentry, rfl⟩ := mem_map.mp hid
    obtain ⟨first, second, -, -, heq⟩ := h.parts entry hentry
    exact decide_eq_true (suffixOf_archiveName (heq ▸ identifier_ne_empty first second))
  unfold identifiers
  rw [ends_bind, h.cache.ends_ensuredDirectory, ends_bind, ends_listDirectory hat.resolve hfind,
    ends_pure, hall]
  constructor
  · refine (nodup_map_iff_inj_on hnodup).mpr fun first hfirst second hsecond heq => ?_
    obtain ⟨id, -, rfl⟩ := (h.mem_names_iff hfind).mp hfirst
    obtain ⟨other, -, rfl⟩ := (h.mem_names_iff hfind).mp hsecond
    rw [dropLast_archiveName, dropLast_archiveName] at heq
    rw [heq]
  · intro id
    constructor
    · intro hid
      obtain ⟨name, hname, rfl⟩ := mem_map.mp hid
      obtain ⟨id, hid, rfl⟩ := (h.mem_names_iff hfind).mp hname
      rwa [dropLast_archiveName]
    · intro hid
      exact mem_map.mpr ⟨archiveName id, (h.mem_names_iff hfind).mpr ⟨id, hid, rfl⟩,
        dropLast_archiveName id⟩

end RobotKit.Registry
