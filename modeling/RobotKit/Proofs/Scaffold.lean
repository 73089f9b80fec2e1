import Mathlib.Data.List.Basic
import RobotKit.Project.Scaffold
import RobotKit.Proofs.Disk

/-!
# Scaffolding, symbolically

When scaffolding a project or a package without a template ends well, and what is seen on the host
afterwards: the project file is written anew, missing parts are added (`ends_scaffold`,
`shapeAt_scaffolded`), and a package gets its first script (`ends_scaffoldPackage`).
-/

namespace RobotKit.Host

open List RobotKit.Files

variable {node : Node} {content : Content}

variable {s : State} {path : Path} {location : Location}

/-! ## Growing trees -/

/-- Is everything that is seen in the first tree seen in the second? -/
def Grows (root root' : Node) : Prop :=
  ∀ location shape, root.shapeAt location = some shape → root'.shapeAt location = some shape

theorem Grows.keepsDirectories {root root' : Node} (h : Grows root root') :
    root.KeepsDirectories root' := fun location hlocation => h location _ hlocation

/-- The host with a node at a location where nothing was. -/
def State.ensureAt (s : State) (location : Location) (node : Node) : State :=
  if (s.files.find? location).isSome then s
  else { s with files := Node.put node location s.files }

section

variable (hnode : node.entries = [])
  (hparent : (s.files.shapeAt location).isSome ∨ s.files.shapeAt location.dropLast = some .directory)

include hnode hparent

theorem State.shapeAt_ensureAt (other : Location) :
    (s.ensureAt location node).files.shapeAt other
      = (s.files.shapeAt other).or (if other = location then some node.shape else none) := by
  unfold State.ensureAt
  rw [← Node.isSome_shapeAt]
  by_cases hsome : (s.files.shapeAt location).isSome
  · rw [if_pos hsome]
    by_cases heq : other = location
    · subst heq
      obtain ⟨shape, hshape⟩ := Option.isSome_iff_exists.mp hsome
      rw [hshape, Option.some_or]
    · rw [if_neg heq, Option.or_none]
  · have hnone : s.files.shapeAt location = none := Option.not_isSome_iff_eq_none.mp hsome
    rw [if_neg hsome, Node.shapeAt_put_leaf hnode (by rw [hnone]; exact nofun)
      (hparent.resolve_left hsome)]
    by_cases heq : other = location
    · subst heq
      rw [if_pos rfl, if_pos rfl, hnone, Option.none_or]
    · rw [if_neg heq, if_neg heq, Option.or_none]

theorem State.grows_ensureAt :
    Grows s.files (s.ensureAt location node).files := by
  intro other shape hshape
  rw [shapeAt_ensureAt hnode hparent, hshape, Option.some_or]

end

@[simp] theorem State.directory_ensureAt :
    (s.ensureAt location node).directory = s.directory := by
  unfold State.ensureAt
  split <;> rfl

@[simp] theorem State.surroundings_ensureAt :
    (s.ensureAt location node).surroundings = s.surroundings := by
  unfold State.ensureAt
  split <;> rfl

section

variable (hnot : s.files.shapeAt location ≠ some .directory)
  (hparent : s.files.shapeAt location.dropLast = some .directory)

include hnot hparent

theorem State.shapeAt_write (other : Location) :
    (s.write location content).files.shapeAt other
      = if other = location then some (.file content) else s.files.shapeAt other :=
  Node.shapeAt_put_leaf rfl hnot hparent other

theorem State.keepsDirectories_write :
    s.files.KeepsDirectories (s.write location content).files := by
  intro other hother
  rw [shapeAt_write hnot hparent, if_neg, hother]
  rintro rfl
  exact hnot hother

end

/-- A file that is written twice is as it was written last. -/
theorem State.write_write (s : State) (location : Location) (first second : Content) :
    (s.write location first).write location second = s.write location second := by
  have hfind (new root : Node) : (Node.put new location root).find? location = some new := by
    induction location generalizing root with
    | nil => rfl
    | cons name rest ih =>
      rw [Node.put, Node.find?_cons, Node.entries, Node.lookup_insertEntry, if_pos rfl,
        Option.bind_some, ih]
  have hput (new other root : Node) :
      Node.put new location (Node.put other location root) = Node.put new location root := by
    have hput := Node.put_append_put other new location [] root
    rwa [append_nil] at hput
  simp only [State.write, hfind, hput]

end RobotKit.Host

namespace RobotKit.Text
open List RobotKit.Files

/-- Making a letter small makes no slash and no dot. -/
theorem toLower_eq_of_lt {c d : Char} (h : d.toLower = c) (hc : c.toNat < 65) : d = c := by
  delta Char.toLower at h
  split at h
  · rename_i hcapital
    have hval : d.val + ('a'.val - 'A'.val) = c.val := congrArg Char.val h
    have hsum : (d.val.toNat + 32) % 2 ^ 32 = c.val.toNat := by
      rw [← hval, UInt32.toNat_add]
      rfl
    have hlow : 65 ≤ d.val.toNat := UInt32.le_iff_toNat_le.mp hcapital.1
    have hhigh : d.val.toNat ≤ 90 := UInt32.le_iff_toNat_le.mp hcapital.2
    have hc' : c.val.toNat < 65 := hc
    omega
  · exact h

/-- Slashes and dots vanish from a name in snake case. -/
theorem notMem_snakeCase (name : String) {c : Char} (hc : c = '/' ∨ c = '.') :
    c ∉ (snakeCase name).toList := by
  rw [snakeCase, String.toList_ofList, mem_map]
  rintro ⟨d, hd, hlower⟩
  have hkept := (mem_filter.mp hd).2
  rcases hc with rfl | rfl
  · obtain rfl := toLower_eq_of_lt hlower (by decide)
    exact absurd hkept (by decide)
  · obtain rfl := toLower_eq_of_lt hlower (by decide)
    exact absurd hkept (by decide)

theorem isName_snakeCase {name : String} (h : snakeCase name ≠ "") : IsName (snakeCase name) := by
  have hdot := notMem_snakeCase name (.inr rfl)
  refine ⟨h, fun heq => hdot ?_, fun heq => hdot ?_, notMem_snakeCase name (.inl rfl)⟩
  · rw [heq]
    decide
  · rw [heq]
    decide

end RobotKit.Text

namespace RobotKit.Project

open List RobotKit.Config RobotKit.Files RobotKit.Host

variable {Q : Unit → State → Prop} {name : String} {content : Content} {root : Node} {r : Resource}
  {place : Location} {location : Location} {more : List String}

variable {s : State} {directory : Path} {D : Location}

/-! ## Steps of scaffolding -/

theorem ends_written {α : Type} {result : Except Script.WriteError α} {Q : α → State → Prop} :
    Ends (written result) s Q ↔ ∃ a, result = .ok a ∧ Q a s := by
  cases result with
  | ok a => simp [written]
  | error e => simp [written]

section Below

variable {names : List String}

section

variable (h : s.At directory D) (hsteps : ∀ name ∈ names, Node.IsStep name) (hne : names ≠ [])

include h hsteps hne

theorem ends_ensureDirectory :
    Ends (ensureDirectory (directory.below names)) s Q
      ↔ ((s.files.shapeAt (D ++ names)).isSome
          ∨ s.files.shapeAt (D ++ names.dropLast) = some .directory)
        ∧ Q () (s.ensureAt (D ++ names) (.dir [])) := by
  unfold ensureDirectory
  rw [ends_bind, h.ends_fileExists hsteps hne]
  cases hsome : (s.files.shapeAt (D ++ names)).isSome with
  | true =>
    have hsame : s.ensureAt (D ++ names) (.dir []) = s := by
      rw [State.ensureAt, ← Node.isSome_shapeAt, if_pos hsome]
    simp [hsame]
  | false =>
    have hnone : s.files.find? (D ++ names) = none := by
      rw [Node.isSome_shapeAt] at hsome
      exact Option.isSome_eq_false_iff.mp hsome |> Option.isNone_iff_eq_none.mp
    have hmade : s.ensureAt (D ++ names) (.dir [])
        = { s with files := Node.put (.dir []) (D ++ names) s.files } := by
      rw [State.ensureAt, hnone]
      rfl
    simp only [Bool.not_false, ↓reduceIte, Bool.false_eq_true, false_or, hmade, ends_makeDirectory,
      h.resolve_below_eq_ok_iff hsteps hne]
    constructor
    · rintro ⟨_, ⟨rfl, hparent⟩, -, -, hQ⟩
      exact ⟨hparent, hQ⟩
    · rintro ⟨hparent, hQ⟩
      refine ⟨_, ⟨rfl, hparent⟩, Node.shapeAt_eq_none_iff.mpr hnone, ?_, hQ⟩
      rw [dropLast_append_of_ne_nil hne, hparent]
      rfl

theorem ends_ensureCopy {source : Path} :
    Ends (ensureCopy source (directory.below names)) s Q
      ↔ ((s.files.shapeAt (D ++ names)).isSome ∧ Q () s)
        ∨ s.files.shapeAt (D ++ names) = none
          ∧ s.files.shapeAt (D ++ names.dropLast) = some .directory
          ∧ ∃ place content, s.resolve source = .ok place
            ∧ s.files.shapeAt place = some (.file content)
            ∧ Q () (s.ensureAt (D ++ names) (.plain content)) := by
  unfold ensureCopy
  rw [ends_bind, h.ends_fileExists hsteps hne]
  cases hshape : s.files.shapeAt (D ++ names) with
  | some shape => simp
  | none =>
    have hfind := Node.shapeAt_eq_none_iff.mp hshape
    have hnode : s.node? (directory.below names) = none := by rw [h.node?_below hsteps hne, hfind]
    have hmade (content : Content) :
        s.write (D ++ names) content = s.ensureAt (D ++ names) (.plain content) := by
      rw [State.ensureAt, State.write, hfind]
      rfl
    simp only [Option.isSome_none, Bool.not_false, ↓reduceIte, ends_copyFile, hnode, Option.map_none,
      Option.getD_none, Bool.false_eq_true, h.ends_writeFile hsteps hne, hshape, hmade, false_and,
      false_or, true_and]
    constructor
    · rintro ⟨place, content, hresolve, hfile, -, hparent, hQ⟩
      exact ⟨hparent, place, content, hresolve, hfile, hQ⟩
    · rintro ⟨hparent, place, content, hresolve, hfile, hQ⟩
      exact ⟨place, content, hresolve, hfile, nofun, hparent, hQ⟩

/-- A copy of a file that can be read is made if there is a directory for it. -/
theorem ends_ensureCopy_of_file {source : Path} (hsource : s.resolve source = .ok place)
    (hfile : s.files.shapeAt place = some (.file content)) :
    Ends (ensureCopy source (directory.below names)) s Q
      ↔ ((s.files.shapeAt (D ++ names)).isSome
          ∨ s.files.shapeAt (D ++ names.dropLast) = some .directory)
        ∧ Q () (s.ensureAt (D ++ names) (.plain content)) := by
  rw [ends_ensureCopy h hsteps hne]
  cases hshape : s.files.shapeAt (D ++ names) with
  | some shape =>
    have hsame : s.ensureAt (D ++ names) (.plain content) = s := by
      rw [State.ensureAt, ← Node.isSome_shapeAt, hshape]
      rfl
    simp [hsame]
  | none =>
    simp only [Option.isSome_none, Bool.false_eq_true, false_and, false_or, true_and]
    constructor
    · rintro ⟨hparent, other, found, hother, hfound, hQ⟩
      obtain rfl : place = other := Except.ok.inj (hsource.symm.trans hother)
      obtain rfl : content = found := Shape.file.inj (Option.some.inj (hfile.symm.trans hfound))
      exact ⟨hparent, hQ⟩
    · rintro ⟨hparent, hQ⟩
      exact ⟨hparent, place, content, hsource, hfile, hQ⟩

end

end Below

/-! ## The parts of a project -/

/-- The names of the parts of a complete project. -/
def partNames : List (List String) :=
  [["src"], ["src", "main.py"], ["src", "vex"], ["src", "vex", "__init__.py"], [".out"]]

/-- Is every part of a project there? -/
def HasParts (root : Node) (D : Location) : Prop :=
  ∀ names ∈ partNames, (root.shapeAt (D ++ names)).isSome

theorem isStep_partNames : ∀ names ∈ partNames, (∀ name ∈ names, Node.IsStep name) ∧ names ≠ [] := by
  decide

theorem sourcesIn_eq (directory : Path) : sourcesIn directory = directory.below ["src"] :=
  directory.child_of_isName (by decide)

theorem outputIn_eq (directory : Path) : outputIn directory = directory.below [".out"] :=
  directory.child_of_isName (by decide)

theorem entryIn_eq (directory : Path) : entryIn directory = directory.below ["src", "main.py"] := by
  rw [entryIn, sourcesIn_eq, Path.child_of_isName _ (by decide), Path.below_below]
  rfl

theorem libraryIn_eq (directory : Path) : libraryIn directory = directory.below ["src", "vex"] := by
  rw [libraryIn, sourcesIn_eq, Path.child_of_isName _ (by decide), Path.below_below]
  rfl

theorem libraryScriptIn_eq (directory : Path) :
    libraryScriptIn directory = directory.below ["src", "vex", "__init__.py"] := by
  rw [libraryScriptIn, libraryIn_eq, Path.child_of_isName _ (by decide), Path.below_below]
  rfl

theorem partsIn_eq (directory : Path) : partsIn directory = partNames.map directory.below := by
  rw [partsIn, sourcesIn_eq, entryIn_eq, libraryIn_eq, libraryScriptIn_eq, outputIn_eq]
  rfl

/-- Is a file of the tool where the tool looks for it? -/
def HasResource (s : State) (r : Resource) : Prop :=
  ∃ place, s.resolve (s.surroundings.resources.child r.path) = .ok place
    ∧ s.files.shapeAt place = some (.file (.resource r))

/-- The host with the missing parts of a project. -/
def completed (s : State) (D : Location) : State :=
  (((s.ensureAt (D ++ ["src"]) (.dir [])).ensureAt (D ++ ["src", "vex"]) (.dir [])).ensureAt
    (D ++ [".out"]) (.dir [])).ensureAt (D ++ ["src", "vex", "__init__.py"])
      (.plain (.resource .deviceLibrary))

theorem HasResource.of_grows {t : State} (h : HasResource s r)
    (hsurroundings : t.surroundings = s.surroundings) (hdirectory : t.directory = s.directory)
    (hgrows : Grows s.files t.files) : HasResource t r := by
  obtain ⟨place, hresolve, hshape⟩ := h
  refine ⟨place, ?_, hgrows _ _ hshape⟩
  unfold State.resolve at hresolve ⊢
  rw [hsurroundings, hdirectory]
  exact Node.resolve_eq_ok_of_keeps hgrows.keepsDirectories hresolve

/-- Inside a file there is nothing. -/
theorem resolve_below_file {path : Path} (h : s.resolve path = .ok place)
    (hfile : s.files.shapeAt place = some (.file content)) (text : String) (names : List String)
    (htext : Path.ofString text = ⟨false, names⟩) (hne : names ≠ []) (target : Location) :
    s.resolve (path.child text) ≠ .ok target := by
  have hpath : path.child text = path.below names := by
    rw [Path.child, htext, Path.append, if_neg (by simp)]
    rfl
  unfold State.resolve at h ⊢
  rw [hpath, Path.below, Node.resolve_append, h]
  cases names with
  | nil => exact absurd rfl hne
  | cons name rest =>
    intro hresolve
    have hdir := (Node.resolve_cons_eq_ok_iff.mp hresolve).1
    rw [hfile] at hdir
    cases hdir

/-- Can the missing parts of a project be added? The entry file has to be there, and no file may
stand in the place of the library. -/
structure CanComplete (root : Node) (D : Location) : Prop where
  main : (root.shapeAt (D ++ ["src", "main.py"])).isSome
  library : ∀ content, root.shapeAt (D ++ ["src", "vex"]) ≠ some (.file content)

/-- The sources are there if the entry file is. -/
theorem CanComplete.isDirectory (h : CanComplete root D) :
    root.shapeAt (D ++ ["src"]) = some .directory := by
  have hmain := h.main
  rw [append_cons D "src" ["main.py"]] at hmain
  exact Node.shapeAt_eq_directory_of_isSome hmain

theorem CanComplete.sources (h : CanComplete root D) (content : Content) :
    root.shapeAt (D ++ ["src"]) ≠ some (.file content) := by
  rw [h.isDirectory]
  simp

theorem or_directory {shape : Option Shape} (h : ∀ content, shape ≠ some (.file content)) :
    shape.or (some .directory) = some .directory := by
  cases shape with
  | none => rfl
  | some shape =>
    cases shape with
    | directory => rfl
    | file content => exact absurd rfl (h content)

/-- The host with the directories among the parts. -/
def withDirectories (s : State) (D : Location) : State :=
  ((s.ensureAt (D ++ ["src"]) (.dir [])).ensureAt (D ++ ["src", "vex"]) (.dir [])).ensureAt
    (D ++ [".out"]) (.dir [])

section Making

variable (hD : s.files.shapeAt D = some .directory)

include hD

theorem shapeAt_ensureSources (location : Location) :
    (s.ensureAt (D ++ ["src"]) (.dir [])).files.shapeAt location
      = (s.files.shapeAt location).or (if location = D ++ ["src"] then some .directory else none) := by
  have hparent : s.files.shapeAt (D ++ ["src"]).dropLast = some .directory := by
    rw [dropLast_concat, hD]
  exact State.shapeAt_ensureAt rfl (.inr hparent) location

variable (hsources : ∀ content, s.files.shapeAt (D ++ ["src"]) ≠ some (.file content))

include hsources

theorem shapeAt_sources_made :
    (s.ensureAt (D ++ ["src"]) (.dir [])).files.shapeAt (D ++ ["src"]) = some .directory := by
  rw [shapeAt_ensureSources hD, if_pos rfl, or_directory hsources]

/-- What is seen once the directories were made, unless a file stands in the place of the
sources. -/
theorem shapeAt_withDirectories (location : Location) :
    (withDirectories s D).files.shapeAt location
      = (s.files.shapeAt location).or
        (if location = D ++ ["src"] ∨ location = D ++ ["src", "vex"] ∨ location = D ++ [".out"] then
          some .directory else none) := by
  have hfirst := shapeAt_ensureSources hD
  have hmade : (s.ensureAt (D ++ ["src"]) (.dir [])).files.shapeAt (D ++ ["src", "vex"]).dropLast
      = some .directory := by
    have hdrop : (D ++ ["src", "vex"]).dropLast = D ++ ["src"] := by simp
    rw [hdrop, shapeAt_sources_made hD hsources]
  have hsecond := State.shapeAt_ensureAt (rfl : (Node.dir []).entries = []) (.inr hmade)
  have hD' : ((s.ensureAt (D ++ ["src"]) (.dir [])).ensureAt (D ++ ["src", "vex"])
      (.dir [])).files.shapeAt (D ++ [".out"]).dropLast = some .directory := by
    rw [dropLast_concat, hsecond, hfirst, hD]
    rfl
  rw [withDirectories, State.shapeAt_ensureAt rfl (.inr hD'), hsecond, hfirst, Option.or_assoc,
    Option.or_assoc]
  congr 1
  by_cases hsrc : location = D ++ ["src"]
  · simp [hsrc]
  · by_cases hvex : location = D ++ ["src", "vex"]
    · simp [hvex, Node.shape]
    · by_cases hout : location = D ++ [".out"]
      · simp [hout, Node.shape]
      · simp [hsrc, hvex, hout]

theorem grows_withDirectories : Grows s.files (withDirectories s D).files := by
  intro location shape hshape
  rw [shapeAt_withDirectories hD hsources, hshape, Option.some_or]

/-- The library script has a place unless a file stands in the place of its directory. -/
theorem library_made_iff :
    ((withDirectories s D).files.shapeAt (D ++ ["src", "vex", "__init__.py"])).isSome
        ∨ (withDirectories s D).files.shapeAt (D ++ ["src", "vex"]) = some .directory
      ↔ ∀ content, s.files.shapeAt (D ++ ["src", "vex"]) ≠ some (.file content) := by
  have hvex : (withDirectories s D).files.shapeAt (D ++ ["src", "vex"])
      = (s.files.shapeAt (D ++ ["src", "vex"])).or (some .directory) := by
    rw [shapeAt_withDirectories hD hsources]
    simp
  have hscript : D ++ ["src", "vex", "__init__.py"] = (D ++ ["src", "vex"]) ++ ["__init__.py"] := by
    simp
  rw [hvex]
  constructor
  · intro hmade content hfile
    rcases hmade with hsome | hdirectory
    · rw [hscript] at hsome
      rw [Node.shapeAt_eq_directory_of_isSome hsome, hfile] at hvex
      cases hvex
    · rw [hfile] at hdirectory
      cases hdirectory
  · exact fun hnot => .inr (or_directory hnot)

end Making

/-- What a missing part of a project is made to be. -/
def madeShape (D location : Location) : Option Shape :=
  if location = D ++ ["src", "vex"] ∨ location = D ++ [".out"] then some .directory
  else if location = D ++ ["src", "vex", "__init__.py"] then
    some (.file (.resource .deviceLibrary))
  else none

theorem shapeAt_completed (hD : s.files.shapeAt D = some .directory) (hcan : CanComplete s.files D)
    (location : Location) :
    (completed s D).files.shapeAt location
      = (s.files.shapeAt location).or (madeShape D location) := by
  have hscript : (D ++ ["src", "vex", "__init__.py"]).dropLast = D ++ ["src", "vex"] := by simp
  have hparent := (library_made_iff hD hcan.sources).mpr hcan.library
  rw [← hscript] at hparent
  show ((withDirectories s D).ensureAt _ _).files.shapeAt location = _
  rw [State.shapeAt_ensureAt rfl hparent, shapeAt_withDirectories hD hcan.sources, Option.or_assoc]
  by_cases hlocation : location = D ++ ["src"]
  · rw [hlocation, hcan.isDirectory, Option.some_or, Option.some_or]
  · congr 1
    unfold madeShape
    by_cases hmade : location = D ++ ["src", "vex"] ∨ location = D ++ [".out"]
    · rw [if_pos (.inr hmade), if_pos hmade, Option.some_or]
    · rw [if_neg hmade, if_neg (by simpa [hlocation] using hmade), Option.none_or]
      rfl

theorem grows_completed (hD : s.files.shapeAt D = some .directory) (hcan : CanComplete s.files D) :
    Grows s.files (completed s D).files := by
  intro location shape hshape
  rw [shapeAt_completed hD hcan, hshape, Option.some_or]

/-- The directories can be made unless a file stands in the place of the sources. -/
theorem ends_makeDirectories (h : s.At directory D) {α : Type} {next : Action α}
    {Q : α → State → Prop} :
    Ends (do
        ensureDirectory (sourcesIn directory)
        ensureDirectory (libraryIn directory)
        ensureDirectory (outputIn directory)
        next) s Q
      ↔ (∀ content, s.files.shapeAt (D ++ ["src"]) ≠ some (.file content))
        ∧ Ends next (withDirectories s D) Q := by
  have hD : s.files.shapeAt (D ++ ["src"].dropLast) = some .directory := by
    simpa using h.isDirectory
  have hgrows : Grows s.files (s.ensureAt (D ++ ["src"]) (.dir [])).files :=
    State.grows_ensureAt rfl (.inr (by simpa using h.isDirectory))
  have h1 : (s.ensureAt (D ++ ["src"]) (.dir [])).At directory D :=
    h.of_keeps State.directory_ensureAt hgrows.keepsDirectories
  rw [ends_bind, sourcesIn_eq, ends_ensureDirectory h (by decide) (by decide),
    and_iff_right (.inr hD), ends_bind, libraryIn_eq,
    ends_ensureDirectory h1 (by decide) (by decide)]
  by_cases hfile : ∃ content, s.files.shapeAt (D ++ ["src"]) = some (.file content)
  · -- a file in the place of the sources has nothing below it
    obtain ⟨content, hfile⟩ := hfile
    have hsrc := hgrows _ _ hfile
    have hnone : (s.ensureAt (D ++ ["src"]) (.dir [])).files.shapeAt (D ++ ["src", "vex"]) = none := by
      rw [append_cons D "src" ["vex"]]
      exact Node.shapeAt_append_of_file hsrc (cons_ne_nil _ _)
    have hdrop : D ++ ["src", "vex"].dropLast = D ++ ["src"] := rfl
    rw [hnone, hdrop, hsrc]
    constructor
    · intro hends
      simp at hends
    · rintro ⟨hnot, -⟩
      exact absurd hfile (hnot content)
  · have hsources : ∀ content, s.files.shapeAt (D ++ ["src"]) ≠ some (.file content) :=
      fun content hcontent => hfile ⟨content, hcontent⟩
    have hmade : (s.ensureAt (D ++ ["src"]) (.dir [])).files.shapeAt (D ++ ["src", "vex"].dropLast)
        = some .directory := shapeAt_sources_made h.isDirectory hsources
    have hmade' : (s.ensureAt (D ++ ["src"]) (.dir [])).files.shapeAt (D ++ ["src", "vex"]).dropLast
        = some .directory := by
      simpa using hmade
    have h2 := h1.of_keeps (t := (s.ensureAt (D ++ ["src"]) (.dir [])).ensureAt
      (D ++ ["src", "vex"]) (.dir [])) State.directory_ensureAt
      (State.grows_ensureAt rfl (.inr hmade')).keepsDirectories
    have hD2 : ((s.ensureAt (D ++ ["src"]) (.dir [])).ensureAt (D ++ ["src", "vex"])
        (.dir [])).files.shapeAt (D ++ [".out"].dropLast) = some .directory := by
      simpa using h2.isDirectory
    rw [and_iff_right (.inr hmade), ends_bind, outputIn_eq,
      ends_ensureDirectory h2 (by decide) (by decide), and_iff_right (.inr hD2),
      and_iff_right hsources]
    rfl

/-- What scaffolding does once the project file is written. -/
def makeParts (directory : Path) (template : Option Path) : Action Unit := do
  ensureDirectory (sourcesIn directory)
  ensureDirectory (libraryIn directory)
  ensureDirectory (outputIn directory)
  let library ← libraryResource
  ensureCopy (template.getD (library.child "resources/empty.py")) (entryIn directory)
  ensureCopy library (libraryScriptIn directory)

/-- Without a template the entry file has to be there already. -/
theorem ends_makeParts (h : s.At directory D) (hlibrary : HasResource s .deviceLibrary) :
    Ends (makeParts directory none) s Q ↔ CanComplete s.files D ∧ Q () (completed s D) := by
  refine (ends_makeDirectories h).trans ?_
  simp only [libraryResource, Host.surroundings, ends_bind, ends_get, ends_pure, Option.getD_none]
  by_cases hfile : ∃ content, s.files.shapeAt (D ++ ["src"]) = some (.file content)
  · obtain ⟨content, hfile⟩ := hfile
    exact ⟨fun hends => absurd hfile (hends.1 content), fun hcan => absurd hfile (hcan.1.sources content)⟩
  · have hsources : ∀ content, s.files.shapeAt (D ++ ["src"]) ≠ some (.file content) :=
      fun content hcontent => hfile ⟨content, hcontent⟩
    have hgrows := grows_withDirectories h.isDirectory hsources
    have hdirectory : (withDirectories s D).directory = s.directory := by simp [withDirectories]
    have hsurroundings : (withDirectories s D).surroundings = s.surroundings := by
      simp [withDirectories]
    have h3 : (withDirectories s D).At directory D := h.of_keeps hdirectory hgrows.keepsDirectories
    obtain ⟨place, hresolve, hlib⟩ := hlibrary.of_grows hsurroundings hdirectory hgrows
    have hmain : (withDirectories s D).files.shapeAt (D ++ ["src", "main.py"])
        = s.files.shapeAt (D ++ ["src", "main.py"]) := by
      rw [shapeAt_withDirectories h.isDirectory hsources]
      simp
    -- there is no template inside the library, which is a file
    have hempty := resolve_below_file hresolve hlib "resources/empty.py" ["resources", "empty.py"]
      (by decide) (by decide)
    have hscript := ends_ensureCopy_of_file h3
      (by decide : ∀ name ∈ ["src", "vex", "__init__.py"], Node.IsStep name) (by decide) hresolve hlib
      (Q := Q)
    rw [entryIn_eq, ends_ensureCopy h3 (by decide) (by decide), hmain, and_iff_right hsources,
      libraryScriptIn_eq]
    constructor
    · rintro (⟨hthere, hends⟩ | ⟨-, -, target, content, htarget, -⟩)
      · obtain ⟨hvex, hQ⟩ := hscript.mp hends
        exact ⟨⟨hthere, (library_made_iff h.isDirectory hsources).mp hvex⟩, hQ⟩
      · exact absurd htarget (hempty target)
    · rintro ⟨hcan, hQ⟩
      exact .inl ⟨hcan.main,
        hscript.mpr ⟨(library_made_iff h.isDirectory hsources).mpr hcan.library, hQ⟩⟩

/-! ## Scaffolding -/

/-- The text of a new project file. -/
def projectText (name slot : String) : String :=
  "[project]\nname = \"" ++ name ++ "\"\nslot = " ++ slot ++ "\n"

/-- The location of the project file. -/
def fileIn (D : Location) : Location := D ++ [fileName]

theorem projectFile_eq (directory : Path) : directory.child fileName = directory.below [fileName] :=
  directory.child_of_isName (by decide)

/-- A plain name leads from a directory to what is below it. -/
theorem exists_at_of_resolve_child {path : Path} (hname : IsName name)
    (h : s.resolve (path.child name) = .ok place) :
    ∃ start, s.At path start ∧ place = start ++ [name] := by
  rw [path.child_of_isName hname] at h
  unfold State.resolve Path.below at h
  rw [Node.resolve_append] at h
  cases hstart : s.files.resolve (if path.isAbsolute then [] else s.directory) path.parts with
  | error fault =>
    rw [hstart] at h
    exact nomatch h
  | ok start =>
    rw [hstart] at h
    obtain ⟨hdirectory, -, hplace⟩ := Node.resolve_cons_eq_ok_iff.mp h
    rw [if_neg hname.2.2.1] at hplace
    exact ⟨start, ⟨hstart, hdirectory⟩, (Except.ok.inj hplace).symm⟩

/-- Writing a file of another name leaves the files of the tool alone. -/
theorem HasResource.write (h : HasResource s r) (hname : IsName r.path)
    (hother : location.getLast? ≠ some r.path) (hnot : s.files.shapeAt location ≠ some .directory)
    (hparent : s.files.shapeAt location.dropLast = some .directory) (content : Content) :
    HasResource (s.write location content) r := by
  obtain ⟨place, hresolve, hshape⟩ := h
  refine ⟨place, Node.resolve_eq_ok_of_keeps (State.keepsDirectories_write hnot hparent) hresolve, ?_⟩
  rw [State.shapeAt_write hnot hparent, if_neg, hshape]
  rintro rfl
  obtain ⟨start, -, rfl⟩ := exists_at_of_resolve_child hname hresolve
  exact hother getLast?_concat

/-- The host with a new project file and the missing parts of a project. -/
def scaffolded (s : State) (D : Location) (text : String) : State :=
  completed ((s.write (fileIn D) (.text "")).write (fileIn D) (.text text)) D

theorem scaffolded_eq (s : State) (D : Location) (text : String) :
    scaffolded s D text = completed (s.write (fileIn D) (.text text)) D := by
  rw [scaffolded, State.write_write]

theorem free_of_file (h : root.shapeAt location = some (.file content)) :
    root.shapeAt location ≠ some .directory := by
  rw [h]
  simp

section Writing

variable (h : s.At directory D) (hfree : s.files.shapeAt (fileIn D) ≠ some .directory)

include h

theorem isDirectory_fileIn : s.files.shapeAt (fileIn D).dropLast = some .directory := by
  rw [fileIn, dropLast_concat, h.isDirectory]

include hfree

theorem shapeAt_write_fileIn (new : Content) (location : Location) :
    (s.write (fileIn D) new).files.shapeAt location
      = if location = fileIn D then some (.file new) else s.files.shapeAt location :=
  State.shapeAt_write hfree (isDirectory_fileIn h) location

theorem keepsDirectories_write_fileIn (new : Content) :
    s.files.KeepsDirectories (s.write (fileIn D) new).files :=
  State.keepsDirectories_write hfree (isDirectory_fileIn h)

theorem At_write_fileIn (new : Content) : (s.write (fileIn D) new).At directory D :=
  h.of_keeps rfl (keepsDirectories_write_fileIn h hfree new)

theorem HasResource.write_fileIn (hr : HasResource s r) (hname : IsName r.path)
    (hother : r.path ≠ fileName) (new : Content) : HasResource (s.write (fileIn D) new) r := by
  refine hr.write hname ?_ hfree (isDirectory_fileIn h) new
  rw [fileIn, getLast?_concat]
  exact fun heq => hother (Option.some.inj heq).symm

theorem ends_writeFile_fileIn (new : Content) :
    Ends (writeFile (directory.child fileName) new) s Q ↔ Q () (s.write (fileIn D) new) := by
  have hparent : s.files.shapeAt (D ++ [fileName].dropLast) = some .directory := by
    simpa using h.isDirectory
  rw [projectFile_eq, h.ends_writeFile (by decide) (by decide)]
  exact ⟨fun hends => hends.2.2, fun hQ => ⟨hfree, hparent, hQ⟩⟩

/-- Scaffolding writes the project file if the settings can be written, and makes the parts. -/
theorem ends_scaffold_iff {name slot : Setting} {template : Option Path} :
    Ends (scaffold directory name slot template) s Q
      ↔ ∃ nameText slotText, (name.orDefault defaultName).plain = .ok nameText
        ∧ (slot.orDefault defaultSlot).plain = .ok slotText
        ∧ Ends (makeParts directory template)
            (s.write (fileIn D) (.text (projectText nameText slotText))) Q := by
  have hfree1 : (s.write (fileIn D) (.text "")).files.shapeAt (fileIn D) ≠ some .directory := by
    rw [shapeAt_write_fileIn h hfree, if_pos rfl]
    simp
  have htail (text : String) := ends_writeFile_fileIn (At_write_fileIn h hfree (.text "")) hfree1
    (.text text) (Q := fun _ t => Ends (makeParts directory template) t Q)
  simp only [State.write_write] at htail
  unfold scaffold
  rw [ends_bind, ends_writeFile_fileIn h hfree, ends_bind, ends_written]
  constructor
  · rintro ⟨nameText, hname, hends⟩
    rw [ends_bind, ends_written] at hends
    obtain ⟨slotText, hslot, hends⟩ := hends
    rw [ends_bind] at hends
    exact ⟨nameText, slotText, hname, hslot, (htail _).mp hends⟩
  · rintro ⟨nameText, slotText, hname, hslot, hrest⟩
    refine ⟨nameText, hname, ?_⟩
    rw [ends_bind, ends_written]
    refine ⟨slotText, hslot, ?_⟩
    rw [ends_bind]
    exact (htail _).mpr hrest

/-- The project file is none of the parts. -/
theorem canComplete_write_fileIn (new : Content) :
    CanComplete (s.write (fileIn D) new).files D ↔ CanComplete s.files D := by
  have hsame {names : List String} (hne : names ≠ [fileName]) :
      (s.write (fileIn D) new).files.shapeAt (D ++ names) = s.files.shapeAt (D ++ names) := by
    have hother : D ++ names ≠ fileIn D := fun heq => hne (append_cancel_left heq)
    rw [shapeAt_write_fileIn h hfree, if_neg hother]
  constructor
  · rintro ⟨hmain, hvex⟩
    rw [hsame (by decide)] at hmain
    exact ⟨hmain, fun content => by rw [← hsame (by decide)]; exact hvex content⟩
  · rintro ⟨hmain, hvex⟩
    rw [← hsame (by decide)] at hmain
    exact ⟨hmain, fun content => by rw [hsame (by decide)]; exact hvex content⟩

/-- Scaffolding ends well exactly if the settings can be written, the entry file is there, and no
file stands in the place of the library. -/
theorem ends_scaffold (hlibrary : HasResource s .deviceLibrary) {name slot : Setting} :
    Ends (scaffold directory name slot none) s Q
      ↔ ∃ nameText slotText, (name.orDefault defaultName).plain = .ok nameText
        ∧ (slot.orDefault defaultSlot).plain = .ok slotText
        ∧ CanComplete s.files D
        ∧ Q () (scaffolded s D (projectText nameText slotText)) := by
  have hparts (text : String) := ends_makeParts (Q := Q) (At_write_fileIn h hfree (.text text))
    (hlibrary.write_fileIn h hfree (by decide) (by decide) (.text text))
  simp only [ends_scaffold_iff h hfree, hparts, canComplete_write_fileIn h hfree, scaffolded_eq]

variable (hcan : CanComplete s.files D)

include hcan

/-- What is seen on a host after scaffolding. -/
theorem shapeAt_scaffolded (text : String) (location : Location) :
    (scaffolded s D text).files.shapeAt location
      = if location = fileIn D then some (.file (.text text))
        else (s.files.shapeAt location).or (madeShape D location) := by
  rw [scaffolded_eq, shapeAt_completed (At_write_fileIn h hfree _).isDirectory
    ((canComplete_write_fileIn h hfree _).mpr hcan), shapeAt_write_fileIn h hfree]
  split <;> simp

theorem keeps_scaffolded (text : String) : (scaffolded s D text).directory = s.directory
    ∧ (scaffolded s D text).surroundings = s.surroundings
    ∧ Grows (s.write (fileIn D) (.text text)).files (scaffolded s D text).files := by
  rw [scaffolded_eq]
  exact ⟨by simp [completed, State.write], by simp [completed, State.write],
    grows_completed (At_write_fileIn h hfree _).isDirectory
      ((canComplete_write_fileIn h hfree _).mpr hcan)⟩

theorem At_scaffolded (text : String) : (scaffolded s D text).At directory D := by
  obtain ⟨hdirectory, -, hgrows⟩ := keeps_scaffolded h hfree hcan text
  exact (At_write_fileIn h hfree _).of_keeps hdirectory hgrows.keepsDirectories

theorem HasResource.scaffolded (text : String) (hr : HasResource s r) (hname : IsName r.path)
    (hother : r.path ≠ fileName) : HasResource (scaffolded s D text) r := by
  obtain ⟨hdirectory, hsurroundings, hgrows⟩ := keeps_scaffolded h hfree hcan text
  exact (hr.write_fileIn h hfree hname hother _).of_grows hsurroundings hdirectory hgrows

theorem free_scaffolded (text : String) :
    (Project.scaffolded s D text).files.shapeAt (fileIn D) ≠ some .directory := by
  rw [shapeAt_scaffolded h hfree hcan, if_pos rfl]
  simp

/-- What is seen once the project file of a scaffolded project was written again. -/
theorem shapeAt_rewritten (first second : String) (location : Location) :
    ((scaffolded s D first).write (fileIn D) (.text second)).files.shapeAt location
      = if location = fileIn D then some (.file (.text second))
        else (s.files.shapeAt location).or (madeShape D location) := by
  rw [shapeAt_write_fileIn (At_scaffolded h hfree hcan first) (free_scaffolded h hfree hcan first),
    shapeAt_scaffolded h hfree hcan]
  split <;> rfl

end Writing

/-! ## The first script of a package -/

/-- The names that lead from a project to the directory of its package. -/
def homeNames (name : String) : List String :=
  "src" :: if Text.snakeCase name = "" then [] else [Text.snakeCase name]

theorem homeNames_ne_nil (name : String) : homeNames name ≠ [] := cons_ne_nil _ _

theorem isName_homeNames (name : String) : ∀ part ∈ homeNames name, IsName part := by
  unfold homeNames
  split
  · decide
  · rename_i hname
    exact forall_mem_cons.mpr
      ⟨by decide, forall_mem_singleton.mpr (Text.isName_snakeCase hname)⟩

theorem home_eq (directory : Path) (name : String) :
    (sourcesIn directory).child (Text.snakeCase name) = directory.below (homeNames name) := by
  unfold homeNames
  rw [sourcesIn_eq]
  by_cases hempty : Text.snakeCase name = ""
  · rw [if_pos hempty, hempty]
    have hhere : Path.ofString "" = ⟨false, []⟩ := by decide
    rw [Path.child, hhere, Path.append, if_neg (by simp), append_nil]
  · rw [if_neg hempty, Path.child_of_isName _ (Text.isName_snakeCase hempty), Path.below_below]
    rfl

/-- The place of the first script of a package. If a directory has the name of the script, the
script goes into it. -/
def startPlace (root : Node) (D : Location) (name : String) : Location :=
  match root.shapeAt (D ++ homeNames name ++ ["__init__.py"]) with
  | some .directory => D ++ homeNames name ++ ["__init__.py", "pkg_template.py"]
  | _ => D ++ homeNames name ++ ["__init__.py"]

theorem startPlace_of_directory
    (h : root.shapeAt (D ++ homeNames name ++ ["__init__.py"]) = some .directory) :
    startPlace root D name = D ++ homeNames name ++ ["__init__.py", "pkg_template.py"] := by
  rw [startPlace, h]

theorem startPlace_of_not
    (h : root.shapeAt (D ++ homeNames name ++ ["__init__.py"]) ≠ some .directory) :
    startPlace root D name = D ++ homeNames name ++ ["__init__.py"] := by
  rw [startPlace]
  split
  · rename_i hdir
    exact absurd hdir h
  · rfl

/-- Can a package get its first script? -/
structure HasStartPlace (root : Node) (D : Location) (name : String) : Prop where
  short : (Text.snakeCase name).utf8ByteSize ≤ 255
  home : ∀ content, root.shapeAt (D ++ homeNames name) ≠ some (.file content)
  script : root.shapeAt (startPlace root D name) ≠ some .directory

theorem isStep_homeNames (h : (Text.snakeCase name).utf8ByteSize ≤ 255) :
    ∀ part ∈ homeNames name, Node.IsStep part := by
  unfold homeNames
  refine forall_mem_cons.mpr ⟨by decide, ?_⟩
  split
  · exact nofun
  · rename_i hne
    exact forall_mem_singleton.mpr ⟨(Text.isName_snakeCase hne).2.2.1, h⟩

theorem isDirectory_dropLast_homeNames (h : s.At directory D)
    (hsources : s.files.shapeAt (D ++ ["src"]) = some .directory) (name : String) :
    s.files.shapeAt (D ++ (homeNames name).dropLast) = some .directory := by
  unfold homeNames
  split
  · simpa using h.isDirectory
  · exact hsources

/-- A name that is too long leads nowhere. -/
theorem not_ends_ensureHome (h : s.At directory D)
    (hsources : s.files.shapeAt (D ++ ["src"]) = some .directory)
    (hlong : ¬ (Text.snakeCase name).utf8ByteSize ≤ 255) :
    ¬ Ends (ensureDirectory (directory.below (homeNames name))) s Q := by
  have hne : Text.snakeCase name ≠ "" := by
    intro heq
    rw [heq] at hlong
    exact hlong (by decide)
  have hD := Node.shapeAt_eq_directory_iff.mp h.isDirectory
  have hsrc := Node.shapeAt_eq_directory_iff.mp hsources
  obtain ⟨entries, hD⟩ := hD
  obtain ⟨inner, hsrc⟩ := hsrc
  have hresolve : s.resolve (directory.below (homeNames name)) = .error .nameTooLong := by
    have hshort : ¬ ("src" : String).utf8ByteSize > 255 := by decide
    have hdots : ("src" : String) ≠ ".." := by decide
    rw [h.resolve_below, homeNames, if_neg hne, Node.resolve, hD]
    dsimp only
    rw [if_neg hshort, if_neg hdots, Node.resolve, hsrc]
    dsimp only
    rw [if_pos (Nat.not_le.mp hlong)]
  unfold ensureDirectory fileExists
  rw [ends_bind, ends_bind, ends_get, State.lookup_of_resolve_error hresolve]
  exact not_ends_fail

section Start

variable {name : String}

theorem resources_name (path : Path) :
    (path.child Resource.packageStart.path).name = "pkg_template.py" := by
  have hname : Resource.packageStart.path = "pkg_template.py" := rfl
  rw [hname, path.child_of_isName (by decide), Path.name, Path.below, getLast?_concat]
  rfl

theorem isDir_node? (h : s.At directory D) {names : List String}
    (hsteps : ∀ part ∈ names, Node.IsStep part) (hne : names ≠ []) :
    ((s.node? (directory.below names)).map Node.isDir).getD false = true
      ↔ s.files.shapeAt (D ++ names) = some .directory := by
  rw [h.node?_below hsteps hne, Node.shapeAt]
  cases s.files.find? (D ++ names) with
  | none => simp
  | some node => cases node <;> simp [Node.isDir, Node.shape]

variable (h : s.At directory D) (hsources : s.files.shapeAt (D ++ ["src"]) = some .directory)

include h hsources

/-- What is behind the first script's name once its directory was made. -/
theorem shapeAt_ensureHome (name : String) (location : Location) :
    (s.ensureAt (D ++ homeNames name) (.dir [])).files.shapeAt location
      = (s.files.shapeAt location).or
        (if location = D ++ homeNames name then some .directory else none) := by
  have hparent : s.files.shapeAt (D ++ homeNames name).dropLast = some .directory := by
    rw [dropLast_append_of_ne_nil (homeNames_ne_nil name)]
    exact isDirectory_dropLast_homeNames h hsources name
  exact State.shapeAt_ensureAt rfl (.inr hparent) location

/-- Below the directory of the package all is as before. -/
theorem shapeAt_below_ensureHome (hmore : more ≠ []) :
    (s.ensureAt (D ++ homeNames name) (.dir [])).files.shapeAt (D ++ homeNames name ++ more)
      = s.files.shapeAt (D ++ homeNames name ++ more) := by
  rw [shapeAt_ensureHome h hsources, if_neg (by simpa using hmore), Option.or_none]

/-- The directory of the package is there exactly if no file stands in its place. -/
theorem isDirectory_ensureHome_iff :
    (s.ensureAt (D ++ homeNames name) (.dir [])).files.shapeAt (D ++ homeNames name) = some .directory
      ↔ ∀ content, s.files.shapeAt (D ++ homeNames name) ≠ some (.file content) := by
  rw [shapeAt_ensureHome h hsources, if_pos rfl]
  refine ⟨fun hmade content hfile => ?_, or_directory⟩
  rw [hfile] at hmade
  cases hmade

variable (name) in
/-- The first script of a package is laid if there is a place for it. -/
theorem ends_startPackage (hstart : HasResource s .packageStart) :
    Ends (do
        ensureDirectory (directory.below (homeNames name))
        copyFile ((← Host.surroundings).resources.child Resource.packageStart.path)
          ((directory.below (homeNames name)).child "__init__.py")) s Q
      ↔ HasStartPlace s.files D name
        ∧ Q () ((s.ensureAt (D ++ homeNames name) (.dir [])).write (startPlace s.files D name)
            (.resource .packageStart)) := by
  by_cases hshort : (Text.snakeCase name).utf8ByteSize ≤ 255
  · have hsteps := isStep_homeNames hshort
    have hgrows : Grows s.files (s.ensureAt (D ++ homeNames name) (.dir [])).files := by
      intro location shape hlocation
      rw [shapeAt_ensureHome h hsources, hlocation, Option.some_or]
    have h1 : (s.ensureAt (D ++ homeNames name) (.dir [])).At directory D :=
      h.of_keeps State.directory_ensureAt hgrows.keepsDirectories
    obtain ⟨place, hresolve, hscript⟩ :=
      hstart.of_grows State.surroundings_ensureAt State.directory_ensureAt hgrows
    have hsteps1 : ∀ part ∈ homeNames name ++ ["__init__.py"], Node.IsStep part :=
      forall_mem_append.mpr ⟨hsteps, by decide⟩
    rw [ends_bind, ends_ensureDirectory h hsteps (homeNames_ne_nil name),
      and_iff_right (.inr (isDirectory_dropLast_homeNames h hsources name)),
      Path.child_of_isName _ (by decide), Path.below_below]
    simp only [Host.surroundings, ends_bind, ends_get, ends_pure]
    rw [ends_copyFile_of_file hresolve hscript, resources_name]
    have hisDir := isDir_node? h1 hsteps1 (by simp)
    rw [← append_assoc, shapeAt_below_ensureHome h hsources (by simp)] at hisDir
    by_cases hdir : s.files.shapeAt (D ++ homeNames name ++ ["__init__.py"]) = some .directory
    · -- the script goes into the directory that has its name
      have hplace := startPlace_of_directory hdir
      have hhome : s.files.shapeAt (D ++ homeNames name) = some .directory :=
        Node.shapeAt_eq_directory_of_isSome (by rw [hdir]; rfl)
      have hsteps2 : ∀ part ∈ homeNames name ++ ["__init__.py", "pkg_template.py"],
          Node.IsStep part := forall_mem_append.mpr ⟨hsteps, by decide⟩
      have hparent : (s.ensureAt (D ++ homeNames name) (.dir [])).files.shapeAt
          (D ++ (homeNames name ++ ["__init__.py", "pkg_template.py"]).dropLast)
          = some .directory := by
        rw [dropLast_append_of_ne_nil (by simp), ← append_assoc]
        exact hgrows _ _ hdir
      rw [if_pos (hisDir.mpr hdir), Path.child_of_isName _ (by decide), Path.below_below,
        append_assoc, singleton_append, h1.ends_writeFile hsteps2 (by simp),
        and_iff_right hparent, ← append_assoc, shapeAt_below_ensureHome h hsources (by simp),
        ← hplace]
      refine and_congr_left fun _ => ⟨fun hfree => ⟨hshort, ?_, hfree⟩, fun hplace => hplace.script⟩
      rw [hhome]
      simp
    · have hplace := startPlace_of_not hdir
      have hdrop : D ++ (homeNames name ++ ["__init__.py"]).dropLast = D ++ homeNames name := by
        rw [dropLast_concat]
      rw [if_neg (fun hcontra => hdir (hisDir.mp hcontra)),
        h1.ends_writeFile hsteps1 (by simp), hdrop, ← append_assoc,
        shapeAt_below_ensureHome h hsources (by simp), ← hplace, isDirectory_ensureHome_iff h hsources]
      constructor
      · rintro ⟨hfree, hhome, hQ⟩
        exact ⟨⟨hshort, hhome, hfree⟩, hQ⟩
      · rintro ⟨hplace, hQ⟩
        exact ⟨hplace.script, hplace.home, hQ⟩
  · constructor
    · intro hends
      rw [ends_bind] at hends
      exact absurd hends (not_ends_ensureHome h hsources hshort)
    · rintro ⟨hplace, -⟩
      exact absurd hplace.short hshort

/-- The place of the first script is free for a file once the directory of the package was made. -/
theorem startPlace_free (hplace : HasStartPlace s.files D name) :
    (s.ensureAt (D ++ homeNames name) (.dir [])).files.shapeAt (startPlace s.files D name)
        ≠ some .directory
      ∧ (s.ensureAt (D ++ homeNames name) (.dir [])).files.shapeAt
          (startPlace s.files D name).dropLast = some .directory := by
  have hscript := hplace.script
  by_cases hdir : s.files.shapeAt (D ++ homeNames name ++ ["__init__.py"]) = some .directory
  · rw [startPlace_of_directory hdir] at hscript ⊢
    have hdrop : (D ++ homeNames name ++ ["__init__.py", "pkg_template.py"]).dropLast
        = D ++ homeNames name ++ ["__init__.py"] := by
      rw [dropLast_append_of_ne_nil (by simp)]
      rfl
    rw [hdrop, shapeAt_below_ensureHome h hsources (by simp),
      shapeAt_below_ensureHome h hsources (by simp)]
    exact ⟨hscript, hdir⟩
  · rw [startPlace_of_not hdir] at hscript ⊢
    rw [shapeAt_below_ensureHome h hsources (by simp), dropLast_concat]
    exact ⟨hscript, (isDirectory_ensureHome_iff h hsources).mpr hplace.home⟩

end Start

/-! ## Scaffolding a package -/

theorem ends_readConfig (h : s.At directory D)
    (hfile : s.files.shapeAt (fileIn D) = some (.file content)) {Q : Entries → State → Prop} :
    Ends (readConfig directory) s Q
      ↔ ∃ text config, Content.text? content = some text ∧ read text = .ok config ∧ Q config s := by
  have hresolve : s.resolve (directory.child fileName) = .ok (fileIn D) := by
    have hD : s.files.shapeAt (D ++ [fileName].dropLast) = some .directory := by
      simpa using h.isDirectory
    rw [projectFile_eq, h.resolve_below_eq_ok_iff (by decide) (by decide)]
    exact ⟨rfl, hD⟩
  unfold readConfig
  rw [ends_bind, ends_readText]
  constructor
  · rintro ⟨location, found, text, hlocation, hfound, htext, hends⟩
    obtain rfl : fileIn D = location := Except.ok.inj (hresolve.symm.trans hlocation)
    obtain rfl : content = found := Shape.file.inj (Option.some.inj (hfile.symm.trans hfound))
    cases hread : read text with
    | error e =>
      rw [hread] at hends
      exact absurd hends not_ends_fail
    | ok config =>
      rw [hread] at hends
      exact ⟨text, config, htext, hread, ends_pure.mp hends⟩
  · rintro ⟨text, config, htext, hread, hQ⟩
    refine ⟨fileIn D, content, text, hresolve, hfile, htext, ?_⟩
    rw [hread]
    exact ends_pure.mpr hQ

/-- A project file that can be read lies in a directory. -/
theorem exists_of_ends_readConfig {Q : Entries → State → Prop} (h : Ends (readConfig directory) s Q) :
    ∃ D content, s.At directory D ∧ s.files.shapeAt (fileIn D) = some (.file content) := by
  unfold readConfig at h
  rw [ends_bind, ends_readText] at h
  obtain ⟨place, content, -, hresolve, hfile, -⟩ := h
  obtain ⟨D, hat, rfl⟩ := exists_at_of_resolve_child (by decide) hresolve
  exact ⟨D, content, hat, hfile⟩

theorem ends_writeConfig (h : s.At directory D)
    (hfree : s.files.shapeAt (fileIn D) ≠ some .directory) {entries : Entries} :
    Ends (writeConfig directory entries) s Q
      ↔ (write entries).error = none
        ∧ Q () (s.write (fileIn D) (.text (write entries).text)) := by
  unfold writeConfig
  rw [ends_bind, ends_writeFile_fileIn h hfree]
  cases (write entries).error with
  | none => simp
  | some e => simp

/-- The entries of a project file with the entry of a new package. -/
def withPackage (name : String) (config : Entries) : Entries :=
  Table.insertEntry "package" (.table
    [("package_name", .text (Text.snakeCase (Text.snakeCase name))), ("version", .text firstVersion)])
    config

/-- The host with a new project file, the missing parts of a project, and the first script of a
package. -/
def packaged (s : State) (D : Location) (name slot text : String) : State :=
  (((scaffolded s D (projectText name slot)).write (fileIn D) (.text text)).ensureAt
    (D ++ homeNames name) (.dir [])).write (startPlace s.files D name) (.resource .packageStart)

/-- Only the library and the output directory are made, and their names do not fit below the
directory of a package. -/
theorem madeShape_below_home (D : Location) (name : String) :
    madeShape D (D ++ homeNames name ++ "__init__.py" :: more) ≠ some .directory := by
  unfold homeNames
  by_cases hempty : Text.snakeCase name = ""
  · simp [madeShape, hempty]
  · rw [if_neg hempty, madeShape, if_neg (by simp)]
    split <;> simp

theorem madeShape_home (D : Location) (name : String) (content : Content) :
    madeShape D (D ++ homeNames name) ≠ some (.file content) := by
  unfold homeNames
  by_cases hempty : Text.snakeCase name = ""
  · simp [madeShape, hempty]
  · rw [if_neg hempty, madeShape]
    split
    · simp
    · simp

/-- Scaffolding changes nothing about the place for the first script of a package. -/
theorem startPlace_of_shapeAt {root root' : Node} {new : Content}
    (hshape : ∀ location, root'.shapeAt location = if location = fileIn D then some (.file new)
      else (root.shapeAt location).or (madeShape D location)) (name : String) :
    startPlace root' D name = startPlace root D name
      ∧ (HasStartPlace root' D name ↔ HasStartPlace root D name) := by
  have hfile (more : List String) : D ++ (homeNames name ++ more) ≠ fileIn D := by
    unfold homeNames fileIn fileName
    simp
  have hseen {location : Location} {shape : Shape} (hother : location ≠ fileIn D)
      (hmade : madeShape D location ≠ some shape) :
      root'.shapeAt location = some shape ↔ root.shapeAt location = some shape := by
    rw [hshape, if_neg hother]
    cases root.shapeAt location with
    | some found => rw [Option.some_or]
    | none => simp [hmade]
  have hbelow (more : List String) :
      root'.shapeAt (D ++ homeNames name ++ "__init__.py" :: more) = some .directory
        ↔ root.shapeAt (D ++ homeNames name ++ "__init__.py" :: more) = some .directory :=
    hseen (by simpa using hfile ("__init__.py" :: more)) (madeShape_below_home D name)
  have hplace : startPlace root' D name = startPlace root D name := by
    by_cases hdir : root.shapeAt (D ++ homeNames name ++ ["__init__.py"]) = some .directory
    · rw [startPlace_of_directory hdir, startPlace_of_directory ((hbelow []).mpr hdir)]
    · rw [startPlace_of_not hdir, startPlace_of_not (mt (hbelow []).mp hdir)]
  have hscript : root'.shapeAt (startPlace root D name) = some .directory
      ↔ root.shapeAt (startPlace root D name) = some .directory := by
    unfold startPlace
    split
    · exact hbelow ["pkg_template.py"]
    · exact hbelow []
  have hhome (content : Content) : root'.shapeAt (D ++ homeNames name) = some (.file content)
      ↔ root.shapeAt (D ++ homeNames name) = some (.file content) :=
    hseen (by simpa using hfile []) (madeShape_home D name content)
  refine ⟨hplace, fun h => ⟨h.short, ?_, ?_⟩, fun h => ⟨h.short, ?_, ?_⟩⟩
  · exact fun content hcontent => h.home content ((hhome content).mpr hcontent)
  · exact fun hdir => h.script (by rwa [hplace, hscript])
  · exact fun content hcontent => h.home content ((hhome content).mp hcontent)
  · exact fun hdir => h.script (by rwa [hplace, hscript] at hdir)

theorem orDefault_of_isGiven {value : Value} (h : value.isGiven) (default : Value) :
    Setting.orDefault (some value) default = value := by
  rw [Setting.orDefault, if_pos h]

section Package

variable (h : s.At directory D) (hfree : s.files.shapeAt (fileIn D) ≠ some .directory)

include h hfree

section Completed

variable (hcan : CanComplete s.files D)

include hcan

theorem isDirectory_sources_rewritten (first second : String) :
    ((scaffolded s D first).write (fileIn D) (.text second)).files.shapeAt (D ++ ["src"])
      = some .directory := by
  rw [shapeAt_rewritten h hfree hcan, if_neg (by simp [fileIn, fileName]), hcan.isDirectory,
    Option.some_or]

/-- The entry for the package and its first script on a scaffolded host. -/
theorem ends_enterPackage (hstart : HasResource s .packageStart) (name text : String) :
    Ends (do
        let config ← readConfig directory
        writeConfig directory (withPackage name config)
        ensureDirectory (directory.below (homeNames name))
        copyFile ((← Host.surroundings).resources.child Resource.packageStart.path)
          ((directory.below (homeNames name)).child "__init__.py")) (scaffolded s D text) Q
      ↔ ∃ config, read text = .ok config ∧ (write (withPackage name config)).error = none
        ∧ HasStartPlace s.files D name
        ∧ Q () ((((scaffolded s D text).write (fileIn D)
            (.text (write (withPackage name config)).text)).ensureAt (D ++ homeNames name)
              (.dir [])).write (startPlace s.files D name) (.resource .packageStart)) := by
  have h1 := At_scaffolded h hfree hcan text
  have hfree1 := free_scaffolded h hfree hcan text
  have hfile1 : (scaffolded s D text).files.shapeAt (fileIn D) = some (.file (.text text)) := by
    rw [shapeAt_scaffolded h hfree hcan, if_pos rfl]
  have hstarted (new : String) := ends_startPackage (Q := Q) name
    (At_write_fileIn h1 hfree1 (.text new)) (isDirectory_sources_rewritten h hfree hcan text new)
    ((hstart.scaffolded h hfree hcan text (by decide) (by decide)).write_fileIn h1 hfree1 (by decide)
      (by decide) _)
  have hplace (new : String) := startPlace_of_shapeAt (shapeAt_rewritten h hfree hcan text new) name
  rw [ends_bind, ends_readConfig h1 hfile1]
  constructor
  · rintro ⟨_, config, htext, hread, hends⟩
    obtain rfl := Option.some.inj htext
    rw [ends_bind, ends_writeConfig h1 hfree1] at hends
    obtain ⟨hwritten, hends⟩ := hends
    have hrest := (hstarted _).mp hends
    rw [(hplace _).1, (hplace _).2] at hrest
    exact ⟨config, hread, hwritten, hrest⟩
  · rintro ⟨config, hread, hwritten, hrest⟩
    refine ⟨text, config, rfl, hread, ?_⟩
    rw [ends_bind, ends_writeConfig h1 hfree1]
    refine ⟨hwritten, (hstarted _).mpr ?_⟩
    rw [(hplace _).1, (hplace _).2]
    exact hrest

/-- What is seen on a host after scaffolding a package. -/
theorem shapeAt_packaged (hplace : HasStartPlace s.files D name) (slot text : String)
    (location : Location) :
    (packaged s D name slot text).files.shapeAt location
      = if location = startPlace s.files D name then some (.file (.resource .packageStart))
        else if location = fileIn D then some (.file (.text text))
        else ((s.files.shapeAt location).or (madeShape D location)).or
          (if location = D ++ homeNames name then some .directory else none) := by
  have h2 := At_write_fileIn (At_scaffolded h hfree hcan (projectText name slot))
    (free_scaffolded h hfree hcan _) (.text text)
  have hsources := isDirectory_sources_rewritten h hfree hcan (projectText name slot) text
  have hshape := shapeAt_rewritten h hfree hcan (projectText name slot) text
  obtain ⟨hsame, hfits⟩ := startPlace_of_shapeAt hshape name
  obtain ⟨hnot, hparent⟩ := startPlace_free h2 hsources (hfits.mpr hplace)
  rw [hsame] at hnot hparent
  rw [packaged, State.shapeAt_write hnot hparent, shapeAt_ensureHome h2 hsources, hshape]
  by_cases hlocation : location = fileIn D
  · simp [hlocation]
  · rw [if_neg hlocation, if_neg hlocation]

end Completed

/-- Scaffolding a package ends well exactly if scaffolding the project does, the new project file
can be read and gets its entry for the package, and there is a place for the first script. -/
theorem ends_scaffoldPackage (hlibrary : HasResource s .deviceLibrary)
    (hstart : HasResource s .packageStart) {name : Value} (hgiven : name.isGiven) {slot : Setting} :
    Ends (scaffoldPackage directory (some name) slot none none) s Q
      ↔ ∃ nameText slotText config, name = .text nameText
        ∧ (slot.orDefault defaultSlot).plain = .ok slotText
        ∧ read (projectText nameText slotText) = .ok config
        ∧ (write (withPackage nameText config)).error = none
        ∧ CanComplete s.files D
        ∧ HasStartPlace s.files D nameText
        ∧ Q () (packaged s D nameText slotText (write (withPackage nameText config)).text) := by
  unfold scaffoldPackage
  rw [orDefault_of_isGiven hgiven]
  cases name with
  | text nameText =>
    have hname : (Value.text nameText).plain = .ok nameText := rfl
    have hchild : childSetting (sourcesIn directory) (some (.text (Text.snakeCase nameText)))
        = pure (directory.below (homeNames nameText)) := by
      rw [← home_eq]
      rfl
    have htail := fun (text : String) (hcan : CanComplete s.files D) =>
      ends_enterPackage (Q := Q) h hfree hcan hstart nameText text
    simp only [ends_bind] at htail
    simp only [snakeSetting, ends_bind, ends_map, ends_pure, ends_scaffold h hfree hlibrary,
      orDefault_of_isGiven hgiven, hname, hchild, Except.ok.injEq, Value.text.injEq]
    constructor
    · rintro ⟨_, slotText, rfl, hslot, hcan, hends⟩
      obtain ⟨config, hread, hwritten, hplace, hQ⟩ := (htail _ hcan).mp hends
      exact ⟨nameText, slotText, config, rfl, hslot, hread, hwritten, hcan, hplace, hQ⟩
    · rintro ⟨_, slotText, config, rfl, hslot, hread, hwritten, hcan, hplace, hQ⟩
      exact ⟨nameText, slotText, rfl, hslot, hcan,
        (htail _ hcan).mpr ⟨config, hread, hwritten, hplace, hQ⟩⟩
  | _ => simp [snakeSetting]

end Package

end RobotKit.Project
