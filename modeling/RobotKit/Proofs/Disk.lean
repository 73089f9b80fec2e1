import RobotKit.Host.Disk
import RobotKit.Proofs.Actions
import RobotKit.Proofs.Path
import RobotKit.Proofs.Shape

/-!
# Files on the host, symbolically

When the operations on files end well, and what is seen on the host afterwards. Paths below a
directory that is known to be there lead straight down (`State.At.lookup_below`), so for them the
rules speak of locations.
-/

namespace RobotKit.Files

open List

namespace Node

theorem resolve_steps_ne_nameTooLong {root : Node} {start : Location} {names : List String}
    (hsteps : ∀ name ∈ names, IsStep name) : root.resolve start names ≠ .error .nameTooLong := by
  induction names generalizing start with
  | nil => simp [resolve]
  | cons name rest ih =>
    obtain ⟨⟨hdots, hshort⟩, hrest⟩ := forall_mem_cons.mp hsteps
    rw [resolve]
    cases root.find? start with
    | none => simp
    | some node =>
      cases node with
      | file content mode => simp
      | dir entries =>
        dsimp only
        rw [if_neg (Nat.not_lt.mpr hshort)]
        exact ih hrest

end Node

end RobotKit.Files

namespace RobotKit.Host

open List RobotKit.Files

variable {Q : Unit → State → Prop} {content : Content} {found : Location × Node}
  {source target : Path}

variable {s : State} {path : Path} {location : Location}

theorem State.lookup_of_resolve_error {fault : Fault} (h : s.resolve path = .error fault) :
    s.lookup path = .error fault := by
  rw [State.lookup, h]
  rfl

theorem State.lookup_of_find?_none (h : s.resolve path = .ok location)
    (hfind : s.files.find? location = none) : s.lookup path = .error .missing := by
  simp only [State.lookup, h, bind, Except.bind, hfind]
  rfl

theorem State.lookup_of_find?_some {node : Node} (h : s.resolve path = .ok location)
    (hfind : s.files.find? location = some node) : s.lookup path = .ok (location, node) := by
  simp only [State.lookup, h, bind, Except.bind, hfind]
  rfl

theorem State.lookup_eq_ok_iff :
    s.lookup path = .ok found
      ↔ s.resolve path = .ok found.1 ∧ s.files.find? found.1 = some found.2 := by
  constructor
  · intro h
    cases hresolve : s.resolve path with
    | error fault =>
      rw [lookup_of_resolve_error hresolve] at h
      exact nomatch h
    | ok location =>
      cases hfind : s.files.find? location with
      | none =>
        rw [lookup_of_find?_none hresolve hfind] at h
        exact nomatch h
      | some node =>
        rw [lookup_of_find?_some hresolve hfind] at h
        obtain rfl := Except.ok.inj h
        exact ⟨rfl, hfind⟩
  · rintro ⟨hresolve, hfind⟩
    exact lookup_of_find?_some hresolve hfind

/-- A path leads nowhere, or to a file or directory. -/
theorem State.lookup_cases (s : State) (path : Path) :
    (∃ fault, s.lookup path = .error fault
      ∧ ∀ location, s.resolve path = .ok location → s.files.shapeAt location = none)
    ∨ ∃ location node, s.lookup path = .ok (location, node) ∧ s.resolve path = .ok location
      ∧ s.files.shapeAt location = some node.shape := by
  cases hlookup : s.lookup path with
  | error fault =>
    refine .inl ⟨fault, rfl, fun location hresolve => Node.shapeAt_eq_none_iff.mpr ?_⟩
    refine Option.eq_none_iff_forall_ne_some.mpr fun node hfind => ?_
    rw [lookup_of_find?_some hresolve hfind] at hlookup
    exact nomatch hlookup
  | ok found =>
    obtain ⟨hresolve, hfind⟩ := lookup_eq_ok_iff.mp hlookup
    exact .inr ⟨found.1, found.2, rfl, hresolve, by rw [Node.shapeAt, hfind]; rfl⟩

/-! ## Any path -/

theorem ends_readFile {Q : Content → State → Prop} :
    Ends (readFile path) s Q
      ↔ ∃ location content, s.resolve path = .ok location
        ∧ s.files.shapeAt location = some (.file content) ∧ Q content s := by
  unfold readFile
  rw [ends_bind, ends_get]
  obtain ⟨fault, hlookup, hnone⟩ | ⟨location, node, hlookup, hresolve, hshape⟩ :=
    s.lookup_cases path
  · rw [hlookup]
    simp +contextual [hnone]
  · rw [hlookup]
    cases node <;> simp [hresolve, hshape, Node.shape]

theorem ends_removeFile :
    Ends (removeFile path) s Q
      ↔ ∃ location content, s.resolve path = .ok location
        ∧ s.files.shapeAt location = some (.file content)
        ∧ Q () { s with files := s.files.remove location } := by
  unfold removeFile
  rw [ends_bind, ends_get]
  obtain ⟨fault, hlookup, hnone⟩ | ⟨location, node, hlookup, hresolve, hshape⟩ :=
    s.lookup_cases path
  · rw [hlookup]
    simp +contextual [hnone]
  · rw [hlookup]
    cases node <;> simp [hresolve, hshape, Node.shape]

/-- To ask for a file changes nothing. -/
theorem exists_of_ends_fileExists {Q : Bool → State → Prop} (h : Ends (fileExists path) s Q) :
    ∃ isThere, Q isThere s := by
  unfold fileExists at h
  rw [ends_bind, ends_get] at h
  split at h
  · exact ⟨true, ends_pure.mp h⟩
  · exact absurd h not_ends_fail
  · exact ⟨false, ends_pure.mp h⟩

/-- The text of a content, if it is a text. -/
def Content.text? : Content → Option String
  | .text value => some value
  | .resource value => some value.script
  | .bytes _ | .archive _ => none

theorem ends_readText {Q : String → State → Prop} :
    Ends (readText path) s Q
      ↔ ∃ location content text, s.resolve path = .ok location
        ∧ s.files.shapeAt location = some (.file content) ∧ Content.text? content = some text
        ∧ Q text s := by
  unfold readText
  rw [ends_bind, ends_readFile]
  constructor
  · rintro ⟨location, content, hresolve, hshape, hends⟩
    cases content with
    | text value => exact ⟨location, _, value, hresolve, hshape, rfl, ends_pure.mp hends⟩
    | resource value => exact ⟨location, _, value.script, hresolve, hshape, rfl, ends_pure.mp hends⟩
    | bytes value => exact absurd hends not_ends_fail
    | archive entries => exact absurd hends not_ends_fail
  · rintro ⟨location, content, text, hresolve, hshape, htext, hQ⟩
    refine ⟨location, content, hresolve, hshape, ?_⟩
    cases content with
    | text value =>
      obtain rfl := Option.some.inj htext
      exact ends_pure.mpr hQ
    | resource value =>
      obtain rfl := Option.some.inj htext
      exact ends_pure.mpr hQ
    | bytes value => exact nomatch htext
    | archive entries => exact nomatch htext

/-- A file can be written where no directory is, inside a directory. -/
theorem State.target_eq_ok_iff :
    s.target path = .ok location
      ↔ s.resolve path = .ok location ∧ s.files.shapeAt location ≠ some .directory
        ∧ (s.files.shapeAt location = none → s.files.shapeAt location.dropLast = some .directory) := by
  unfold State.target
  cases s.resolve path with
  | error fault => simp [bind, Except.bind]
  | ok found =>
    simp only [bind, Except.bind]
    by_cases heq : found = location
    · subst heq
      rw [Node.shapeAt, Node.shapeAt]
      rcases s.files.find? found with - | ⟨content, mode⟩ | entries
      · rcases s.files.find? found.dropLast with - | ⟨content, mode⟩ | entries
        · simp
        · simp [Node.shape]
        · simp [Node.shape]; rfl
      · simp [Node.shape]; rfl
      · simp [Node.shape]
    · have hne : Except.ok found ≠ (Except.ok location : Except Fault Location) :=
        fun h => heq (Except.ok.inj h)
      simp only [hne, false_and, iff_false]
      intro h
      split at h
      · cases h
      · exact hne h
      · exact hne h
      · cases h
      · cases h

theorem ends_writeFile :
    Ends (writeFile path content) s Q
      ↔ ∃ location, s.target path = .ok location ∧ Q () (s.write location content) := by
  unfold writeFile
  rw [ends_bind, ends_get]
  cases s.target path with
  | error fault => simp
  | ok location => simp

theorem ends_makeDirectory :
    Ends (makeDirectory path) s Q
      ↔ ∃ location, s.resolve path = .ok location ∧ s.files.shapeAt location = none
        ∧ (s.files.shapeAt location.dropLast).isSome
        ∧ Q () { s with files := Node.put (.dir []) location s.files } := by
  unfold makeDirectory
  rw [ends_bind, ends_get]
  cases hresolve : s.resolve path with
  | error fault =>
    rw [State.lookup_of_resolve_error hresolve]
    cases fault <;> simp
  | ok location =>
    cases hfind : s.files.find? location with
    | some node =>
      rw [State.lookup_of_find?_some hresolve hfind]
      simp [Node.shapeAt, hfind]
    | none =>
      rw [State.lookup_of_find?_none hresolve hfind]
      by_cases hparent : (s.files.find? location.dropLast).isSome
      · simp [Node.shapeAt_eq_none_iff, hfind, Node.isSome_shapeAt, hparent, place]
      · simp [Node.isSome_shapeAt, hparent]

theorem ends_isDirectory {Q : Bool → State → Prop} :
    Ends (isDirectory path) s Q ↔ Q (((s.node? path).map Node.isDir).getD false) s := by
  unfold isDirectory
  rw [ends_bind, ends_get, ends_pure]

theorem ends_copyFile :
    Ends (copyFile source target) s Q
      ↔ ∃ place content, s.resolve source = .ok place
        ∧ s.files.shapeAt place = some (.file content)
        ∧ Ends (writeFile (if ((s.node? target).map Node.isDir).getD false
            then target.child source.name else target) content) s Q := by
  unfold copyFile
  rw [ends_bind, ends_isDirectory]
  simp only [ends_bind, ends_readFile]

/-- Copying a file that can be read writes its content. -/
theorem ends_copyFile_of_file {place : Location} (hsource : s.resolve source = .ok place)
    (hfile : s.files.shapeAt place = some (.file content)) :
    Ends (copyFile source target) s Q
      ↔ Ends (writeFile (if ((s.node? target).map Node.isDir).getD false
          then target.child source.name else target) content) s Q := by
  rw [ends_copyFile]
  constructor
  · rintro ⟨other, found, hother, hfound, hends⟩
    obtain rfl : place = other := Except.ok.inj (hsource.symm.trans hother)
    obtain rfl : content = found := Shape.file.inj (Option.some.inj (hfile.symm.trans hfound))
    exact hends
  · exact fun hends => ⟨place, content, hsource, hfile, hends⟩

/-! ## Paths below a directory -/

/-- Does a path lead to a directory at this location? -/
structure State.At (s : State) (path : Path) (location : Location) : Prop where
  resolve : s.resolve path = .ok location
  isDirectory : s.files.shapeAt location = some .directory

namespace State.At

theorem of_keeps {t : State} (h : s.At path location) (hdirectory : t.directory = s.directory)
    (hkeeps : s.files.KeepsDirectories t.files) : t.At path location where
  resolve := by
    have hresolve := h.resolve
    unfold State.resolve at hresolve ⊢
    rw [hdirectory]
    exact Node.resolve_eq_ok_of_keeps hkeeps hresolve
  isDirectory := hkeeps _ h.isDirectory

theorem resolve_below (h : s.At path location) (names : List String) :
    s.resolve (path.below names) = s.files.resolve location names := by
  have hresolve := h.resolve
  unfold State.resolve at hresolve ⊢
  rw [Path.below, Node.resolve_append, hresolve]
  rfl

variable {names : List String}

section

variable (h : s.At path location) (hsteps : ∀ name ∈ names, Node.IsStep name)

include h hsteps

theorem resolve_below_eq_ok_iff (hne : names ≠ []) {target : Location} :
    s.resolve (path.below names) = .ok target
      ↔ target = location ++ names
        ∧ s.files.shapeAt (location ++ names.dropLast) = some .directory := by
  rw [h.resolve_below, Node.resolve_steps_eq_ok_iff hsteps hne]

/-- What is behind a path below the directory. -/
theorem lookup_below_eq_ok_iff (hne : names ≠ []) :
    s.lookup (path.below names) = .ok found
      ↔ found.1 = location ++ names ∧ s.files.find? (location ++ names) = some found.2 := by
  rw [lookup_eq_ok_iff, h.resolve_below_eq_ok_iff hsteps hne]
  constructor
  · rintro ⟨⟨hfound, -⟩, hfind⟩
    rw [hfound] at hfind
    exact ⟨hfound, hfind⟩
  · rintro ⟨hfound, hfind⟩
    rw [hfound]
    refine ⟨⟨rfl, ?_⟩, hfind⟩
    have hlast : names = names.dropLast ++ [names.getLast hne] :=
      (dropLast_append_getLast hne).symm
    have hsome : (s.files.shapeAt (location ++ names)).isSome := by
      rw [Node.isSome_shapeAt, hfind]
      rfl
    rw [hlast, ← append_assoc] at hsome
    exact Node.shapeAt_eq_directory_of_isSome hsome

theorem node?_below
    (hne : names ≠ []) : s.node? (path.below names) = s.files.find? (location ++ names) := by
  unfold State.node?
  cases hfind : s.files.find? (location ++ names) with
  | some node =>
    have hlookup : s.lookup (path.below names) = .ok (location ++ names, node) :=
      (h.lookup_below_eq_ok_iff hsteps hne).mpr ⟨rfl, hfind⟩
    rw [hlookup]
    rfl
  | none =>
    cases hlookup : s.lookup (path.below names) with
    | error fault => rfl
    | ok found =>
      obtain ⟨-, hsome⟩ := (h.lookup_below_eq_ok_iff hsteps hne).mp hlookup
      rw [hfind] at hsome
      exact nomatch hsome

theorem lookup_below_ne_nameTooLong :
    s.lookup (path.below names) ≠ .error .nameTooLong := by
  have hresolve : s.resolve (path.below names) ≠ .error .nameTooLong := by
    rw [h.resolve_below]
    exact Node.resolve_steps_ne_nameTooLong hsteps
  cases hcase : s.resolve (path.below names) with
  | error fault =>
    rw [hcase] at hresolve
    rw [lookup_of_resolve_error hcase]
    exact fun heq => hresolve (congrArg _ (Except.error.inj heq))
  | ok target =>
    cases hfind : s.files.find? target with
    | none =>
      rw [lookup_of_find?_none hcase hfind]
      exact nofun
    | some node =>
      rw [lookup_of_find?_some hcase hfind]
      exact nofun

theorem ends_fileExists (hne : names ≠ []) {Q : Bool → State → Prop} :
    Ends (fileExists (path.below names)) s Q ↔ Q (s.files.shapeAt (location ++ names)).isSome s := by
  have hnode := h.node?_below hsteps hne
  have hshort := h.lookup_below_ne_nameTooLong hsteps
  rw [Node.isSome_shapeAt, ← hnode]
  unfold fileExists State.node?
  rw [ends_bind, ends_get]
  cases hlookup : s.lookup (path.below names) with
  | ok found => simp [Except.toOption]
  | error fault =>
    cases fault with
    | nameTooLong => exact absurd hlookup hshort
    | missing | alreadyThere | notDirectory | isDirectory => simp [Except.toOption]

end

/-- A name that is too long cannot be asked for. -/
theorem not_ends_fileExists (h : s.At path location) {name : String} (hlong : 255 < name.utf8ByteSize)
    {Q : Bool → State → Prop} : ¬ Ends (fileExists (path.below [name])) s Q := by
  obtain ⟨entries, hfind⟩ := Node.shapeAt_eq_directory_iff.mp h.isDirectory
  have hresolve : s.resolve (path.below [name]) = .error .nameTooLong := by
    rw [h.resolve_below, Node.resolve, hfind]
    exact if_pos hlong
  unfold fileExists
  rw [ends_bind, ends_get, State.lookup_of_resolve_error hresolve]
  exact not_ends_fail

theorem ends_writeFile (h : s.At path location) (hsteps : ∀ name ∈ names, Node.IsStep name)
    (hne : names ≠ []) :
    Ends (writeFile (path.below names) content) s Q
      ↔ s.files.shapeAt (location ++ names) ≠ some .directory
        ∧ s.files.shapeAt (location ++ names.dropLast) = some .directory
        ∧ Q () (s.write (location ++ names) content) := by
  simp only [Host.ends_writeFile, State.target_eq_ok_iff, h.resolve_below_eq_ok_iff hsteps hne]
  constructor
  · rintro ⟨target, ⟨⟨rfl, hparent⟩, hnot, -⟩, hQ⟩
    exact ⟨hnot, hparent, hQ⟩
  · rintro ⟨hnot, hparent, hQ⟩
    refine ⟨_, ⟨⟨rfl, hparent⟩, hnot, fun _ => ?_⟩, hQ⟩
    rw [dropLast_append_of_ne_nil hne]
    exact hparent

end State.At

end RobotKit.Host
