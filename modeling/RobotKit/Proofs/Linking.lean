import RobotKit.Proofs.Combine
import RobotKit.Proofs.Hexadecimal
import RobotKit.Proofs.Occurrences

/-!
# Linking

When files become one script, two occurrences of names must agree exactly if they stand for the
same symbol. Symbols of the entry file keep their names; a symbol of another file gets a mark that
is made from the digest of the file's path. If imports do not shadow declarations, digests tell
files apart and no declared name looks like a marked one (`Project.Unambiguous`), then the spelling
of an occurrence in the script is the spelling of its symbol, and different symbols are spelled
differently (`combine_spelling_eq_iff`).
-/

namespace RobotKit.Link

open List RobotKit.Script RobotKit.Text

variable {project : Project} {file name : String} {origin : Origin} {symbol : Origin}
  {o : Occurrence}

/-! ## Marked names -/

/-- The digits of a digest that go into a mark. -/
def markDigits (relative : String) : List Char := (Digest.ofString relative).toList.take 8

/-- Is this a digit of a mark? -/
def isMarkDigit (c : Char) : Bool := "0123456789abcdef".toList.contains c

/-- Does the name look like a marked one: `mod_`, eight digits in base 16, `_` and anything? -/
def isMarked (name : String) : Bool :=
  let digits := (name.toList.drop 4).take 8
  name.toList.take 4 == "mod_".toList && digits.length == 8 && digits.all isMarkDigit &&
    (name.toList.drop 12).head? == some '_'

theorem isMarkDigit_hexDigit : ∀ n < 16, isMarkDigit (hexDigit n) = true := by decide

/-- A digest is written with digits of a mark. -/
theorem isMarkDigit_of_mem_digest {s : String} {c : Char} (h : c ∈ (Digest.ofString s).toList) :
    isMarkDigit c = true := by
  obtain ⟨digit, hdigit, rfl⟩ := exists_hexDigit_of_mem_digest h
  exact isMarkDigit_hexDigit digit hdigit

theorem length_markDigits (relative : String) : (markDigits relative).length = 8 := by
  rw [markDigits, length_take, length_digest]
  rfl

theorem toList_markedName (relative name : String) :
    (markedName relative name).toList
      = "mod_".toList ++ (markDigits relative ++ '_' :: name.toList) := by
  simp only [markedName, String.toList_append, String.toList_ofList, append_assoc, markDigits]
  rfl

/-- A marked name looks like one. -/
theorem isMarked_markedName (relative name : String) :
    isMarked (markedName relative name) = true := by
  have hlength := length_markDigits relative
  have hstart : (markedName relative name).toList.take 4 = "mod_".toList := by
    rw [toList_markedName]
    exact take_left' rfl
  have hrest : (markedName relative name).toList.drop 4
      = markDigits relative ++ '_' :: name.toList := by
    rw [toList_markedName]
    exact drop_left' rfl
  have hdigits : ((markedName relative name).toList.drop 4).take 8 = markDigits relative := by
    rw [hrest]
    exact take_left' hlength
  have hend : (markedName relative name).toList.drop 12 = '_' :: name.toList := by
    rw [← drop_drop (i := 8) (j := 4), hrest]
    exact drop_left' hlength
  have hall : (markDigits relative).all isMarkDigit = true :=
    all_eq_true.mpr fun c hc => isMarkDigit_of_mem_digest (mem_of_mem_take hc)
  rw [isMarked, hstart, hdigits, hend, hlength, hall]
  rfl

/-- Marked names agree if they have the same digits and stand for the same name. -/
theorem markedName_inj {relative relative' name name' : String} :
    markedName relative name = markedName relative' name'
      ↔ markDigits relative = markDigits relative' ∧ name = name' := by
  rw [← String.toList_inj, toList_markedName, toList_markedName, append_cancel_left_eq]
  constructor
  · intro h
    obtain ⟨hdigits, hname⟩ := append_inj h
      (by rw [length_markDigits, length_markDigits])
    exact ⟨hdigits, String.toList_inj.mp (List.cons.inj hname).2⟩
  · rintro ⟨hdigits, rfl⟩
    rw [hdigits]

/-! ## Symbols and their spelling -/

/-- Does a scanned file declare the name at its top level? -/
def Project.Declares (project : Project) (file name : String) : Prop :=
  DeclaresIn project.read project.entry project.analysis.scan.scanned file name

/-- The origins of the names that a file imports. -/
def Project.originsOf (project : Project) (file : String) : Table Origin :=
  (project.analysis.origins.get? file).getD {}

/-- How a symbol is spelled in the combined script. -/
def Project.spelling (project : Project) (symbol : Origin) : String :=
  if symbol.file = project.entry then symbol.name
  else markedName (project.relative symbol.file) symbol.name

theorem Project.mem_namesOf :
    name ∈ project.analysis.scan.namesOf file ↔ project.Declares file name :=
  (consistent_scanProject _ _ _).names file name

/-- Imported names keep their names. -/
theorem Project.name_of_get?_originsOf (h : (project.originsOf file).get? name = some origin) :
    origin.name = name := by
  rw [originsOf] at h
  cases hfile : project.analysis.origins.get? file with
  | none => simp [hfile] at h
  | some names =>
    rw [hfile] at h
    exact keepNames_origins hfile name origin h

/-- The new names of a file: none for the entry file. -/
theorem Project.get?_newNames (project : Project) (declared : Table (List String)) (file : String) :
    (project.newNames declared).get? file
      = if file = project.entry then none
        else (declared.get? file).map fun names => .ofList (names.map fun name =>
          (name, markedName (project.relative file) name)) := by
  obtain ⟨entries⟩ := declared
  simp only [newNames, Table.get?]
  induction entries with
  | nil => simp
  | cons entry rest ih =>
    obtain ⟨key, names⟩ := entry
    rw [filterMap_cons]
    -- an entry of the entry file is dropped, which is only seen when that file is looked up
    by_cases hentry : key = project.entry
    · simp only [hentry, if_true]
      rw [ih]
      by_cases hfile : file = project.entry
      · rw [if_pos hfile, if_pos hfile]
      · rw [Table.lookup_cons_of_ne hfile]
    · simp only [hentry, if_false]
      by_cases hkey : file = key
      · simp [hkey, hentry]
      · rw [Table.lookup_cons_of_ne hkey, Table.lookup_cons_of_ne hkey, ih]

/-- A declared name of another file than the entry file has a new name, and no other name has. -/
theorem Project.newName?_eq_some_iff {file other name new : String} :
    (project.analysis.scopeOf file).newName? other name = some new
      ↔ other ≠ project.entry ∧ project.Declares other name ∧
        new = markedName (project.relative other) name := by
  show ((project.newNames project.analysis.scan.declared).get? other).bind (·.get? name) = some new
    ↔ _
  rw [get?_newNames, ← mem_namesOf, Scan.namesOf]
  by_cases hentry : other = project.entry
  · simp [hentry]
  · cases project.analysis.scan.declared.get? other with
    | none => simp [hentry]
    | some names => simp [hentry, Table.get?_ofList_map, eq_comm]

theorem Project.newName?_eq_none {file other name : String}
    (h : other = project.entry ∨ ¬ project.Declares other name) :
    (project.analysis.scopeOf file).newName? other name = none := by
  rw [Option.eq_none_iff_forall_ne_some]
  intro new hnew
  obtain ⟨hentry, hdeclares, -⟩ := newName?_eq_some_iff.mp hnew
  exact h.elim hentry fun hnot => hnot hdeclares

/-- The new name of a declared name, if it has one, is the spelling of its symbol. -/
theorem Project.newName?_getD {file other name : String} (h : project.Declares other name) :
    ((project.analysis.scopeOf file).newName? other name).getD name
      = project.spelling ⟨other, name⟩ := by
  by_cases hentry : other = project.entry
  · rw [newName?_eq_none (.inl hentry), spelling, if_pos hentry]
    rfl
  · rw [newName?_eq_some_iff.mpr ⟨hentry, h, rfl⟩, spelling, if_neg hentry]
    rfl

/-! ## Distinct marks -/

/-- The marks of two files differ, and no declared name looks like a marked one. -/
structure Project.MarksDistinct (project : Project) : Prop where
  marks_apart : ∀ file ∈ project.analysis.scan.scanned,
    ∀ other ∈ project.analysis.scan.scanned, file ≠ project.entry → other ≠ project.entry →
      markDigits (project.relative file) = markDigits (project.relative other) → file = other
  marks_free : ∀ file name, project.Declares file name → isMarked name = false

section

variable {project : Project} (hmarks : project.MarksDistinct)
include hmarks

/-- A marked name is not declared anywhere. -/
theorem Project.MarksDistinct.not_declares_markedName (file relative name : String) :
    ¬ project.Declares file (markedName relative name) := by
  intro hdeclares
  have hfree := hmarks.marks_free file _ hdeclares
  rw [isMarked_markedName] at hfree
  exact absurd hfree (by simp)

/-- A marked name has no new name. -/
theorem Project.MarksDistinct.newName?_markedName (file other relative name : String) :
    (project.analysis.scopeOf file).newName? other (markedName relative name) = none :=
  newName?_eq_none (.inr (hmarks.not_declares_markedName other relative name))

/-- Different symbols are spelled differently. -/
theorem Project.MarksDistinct.spelling_inj {s t : Origin} (hs : project.Declares s.file s.name)
    (ht : project.Declares t.file t.name) : project.spelling s = project.spelling t ↔ s = t := by
  refine ⟨fun h => ?_, fun h => h ▸ rfl⟩
  obtain ⟨f, n⟩ := s
  obtain ⟨g, m⟩ := t
  -- a declared name of the entry file is no marked name
  by_cases hf : f = project.entry <;> by_cases hg : g = project.entry <;>
    simp only [spelling, hf, hg, if_true, if_false] at h
  · rw [hf, hg, h]
  · exact absurd (h ▸ hs) (hmarks.not_declares_markedName f _ m)
  · exact absurd (h ▸ ht) (hmarks.not_declares_markedName g _ n)
  · obtain ⟨hdigits, rfl⟩ := markedName_inj.mp h
    rw [hmarks.marks_apart f hs.1 g ht.1 hf hg hdigits]

end

/-! ## Unambiguous projects -/

/-- The marks are distinct, and no file declares a name that it imports. -/
structure Project.Unambiguous (project : Project) : Prop extends project.MarksDistinct where
  imports_apart : ∀ file name, project.Declares file name →
    (project.originsOf file).get? name = none

/-- The scanned files and their declared names decide it. -/
theorem Project.unambiguous_iff :
    project.Unambiguous ↔
      (∀ file ∈ project.analysis.scan.scanned, ∀ name ∈ project.analysis.scan.namesOf file,
        (project.originsOf file).get? name = none ∧ isMarked name = false) ∧
      ∀ file ∈ project.analysis.scan.scanned, ∀ other ∈ project.analysis.scan.scanned,
        file ≠ project.entry → other ≠ project.entry →
          markDigits (project.relative file) = markDigits (project.relative other) →
            file = other := by
  constructor
  · intro hu
    refine ⟨fun file _ name hname => ?_, hu.marks_apart⟩
    have hdeclares := mem_namesOf.mp hname
    exact ⟨hu.imports_apart file name hdeclares, hu.marks_free file name hdeclares⟩
  · rintro ⟨hnames, hmarks⟩
    have hdeclared : ∀ file name, project.Declares file name →
        (project.originsOf file).get? name = none ∧ isMarked name = false :=
      fun file name hdeclares => hnames file hdeclares.1 name (mem_namesOf.mpr hdeclares)
    exact ⟨⟨hmarks, fun file name h => (hdeclared file name h).2⟩,
      fun file name h => (hdeclared file name h).1⟩

instance (project : Project) : Decidable project.Unambiguous :=
  decidable_of_iff _ Project.unambiguous_iff.symm

/-- What an occurrence of a file stands for: an imported name for its origin, any other name for
what the file declares. The names that definitions give are never imported. -/
inductive Project.StandsFor (project : Project) (file : String) : Occurrence → Origin → Prop
  | imported {name : String} {origin : Origin}
      (horigin : (project.originsOf file).get? name = some origin)
      (hdeclares : project.Declares origin.file origin.name) :
      project.StandsFor file (.mention name) origin
  | declared {name : String} (horigin : (project.originsOf file).get? name = none)
      (hdeclares : project.Declares file name) :
      project.StandsFor file (.mention name) ⟨file, name⟩
  | given {name : String} (hdeclares : project.Declares file name) :
      project.StandsFor file (.definition name) ⟨file, name⟩

theorem Project.StandsFor.declares {file : String} (h : project.StandsFor file o symbol) :
    project.Declares symbol.file symbol.name := by
  cases h with
  | imported _ hdeclares => exact hdeclares
  | declared _ hdeclares => exact hdeclares
  | given hdeclares => exact hdeclares

/-- A file knows the new names of what it declares, and only of that. -/
theorem Project.declared?_scopeOf (project : Project) (file name : String) :
    (project.analysis.scopeOf file).declared? name
      = (project.analysis.scopeOf file).newName? file name := by
  rw [Scope.declared?]
  split
  · rfl
  · rename_i hnot
    refine (newName?_eq_none (.inr fun hdeclares => hnot ?_)).symm
    exact contains_iff_mem.mpr (mem_namesOf.mpr hdeclares)

theorem Project.imported?_scopeOf (project : Project) (file name : String) :
    (project.analysis.scopeOf file).imported? name
      = ((project.originsOf file).get? name).bind fun origin =>
          (project.analysis.scopeOf file).newName? origin.file origin.name := rfl

theorem Project.reference_of_not_imported (h : (project.originsOf file).get? name = none) :
    (project.analysis.scopeOf file).reference name
      = ((project.analysis.scopeOf file).newName? file name).getD name := by
  rw [Scope.reference, imported?_scopeOf, declared?_scopeOf, h, Option.bind_none, Option.none_or]

section

variable {project : Project} (hu : project.Unambiguous)
include hu

theorem Project.Unambiguous.newName?_of_imported
    (h : (project.originsOf file).get? name = some origin) :
    (project.analysis.scopeOf file).newName? file name = none := by
  refine newName?_eq_none (.inr fun hdeclares => ?_)
  rw [hu.imports_apart file name hdeclares] at h
  exact absurd h (by simp)

theorem Project.Unambiguous.reference_of_imported
    (h : (project.originsOf file).get? name = some origin) :
    (project.analysis.scopeOf file).reference name
      = ((project.analysis.scopeOf file).newName? origin.file name).getD name := by
  -- an import without a new name would give way to a declaration, but there is none
  rw [Scope.reference, imported?_scopeOf, declared?_scopeOf, h, hu.newName?_of_imported h,
    Option.or_none, Option.bind_some, name_of_get?_originsOf h]

/-- Whatever a name is, it stays or becomes a marked name. -/
theorem Project.Unambiguous.reference_eq_or (file name : String) :
    (project.analysis.scopeOf file).reference name = name ∨
      ∃ relative, (project.analysis.scopeOf file).reference name = markedName relative name := by
  have hcases : ∀ other, ((project.analysis.scopeOf file).newName? other name).getD name = name ∨
      ∃ relative, ((project.analysis.scopeOf file).newName? other name).getD name
        = markedName relative name := by
    intro other
    cases hnew : (project.analysis.scopeOf file).newName? other name with
    | none => exact .inl rfl
    | some new => exact .inr ⟨_, (newName?_eq_some_iff.mp hnew).2.2⟩
  cases horigin : (project.originsOf file).get? name with
  | none =>
    rw [reference_of_not_imported horigin]
    exact hcases file
  | some origin =>
    rw [hu.reference_of_imported horigin]
    exact hcases origin.file

/-- Marked names are left alone. -/
theorem Project.Unambiguous.reference_markedName (file relative name : String) :
    (project.analysis.scopeOf file).reference (markedName relative name)
      = markedName relative name := by
  cases horigin : (project.originsOf file).get? (markedName relative name) with
  | none =>
    rw [reference_of_not_imported horigin, hu.newName?_markedName, Option.getD_none]
  | some origin =>
    rw [hu.reference_of_imported horigin, hu.newName?_markedName, Option.getD_none]

/-- All rules for the names of expressions agree in an unambiguous project. -/
theorem Project.Unambiguous.coherent_scopeOf (file : String) :
    (project.analysis.scopeOf file).Coherent where
  hint_eq := by
    funext name
    rw [Scope.hint, declared?_scopeOf, Table.contains_eq_isSome]
    change (if ((project.originsOf file).get? name).isSome = true then _ else _) = _
    cases horigin : (project.originsOf file).get? name with
    | none =>
      rw [reference_of_not_imported horigin]
      rfl
    | some origin =>
      rw [hu.reference_of_imported horigin, imported?_scopeOf, horigin, Option.bind_some,
        name_of_get?_originsOf horigin]
      rfl
  reference_reference := by
    intro name
    rcases hu.reference_eq_or file name with heq | ⟨relative, heq⟩
    · rw [heq, heq]
    · rw [heq, hu.reference_markedName]

/-- In the combined script an occurrence is spelled like its symbol. -/
theorem Project.Unambiguous.name_respell {file : String} (h : project.StandsFor file o symbol) :
    ((project.analysis.scopeOf file).respell o).name = project.spelling symbol := by
  cases h with
  | imported horigin hdeclares =>
    have hname := name_of_get?_originsOf horigin
    rw [Scope.respell, Occurrence.name, hu.reference_of_imported horigin, ← hname]
    exact newName?_getD hdeclares
  | declared horigin hdeclares =>
    rw [Scope.respell, Occurrence.name, reference_of_not_imported horigin]
    exact newName?_getD hdeclares
  | given hdeclares =>
    rw [Scope.respell, Occurrence.name, Scope.definition, declared?_scopeOf]
    exact newName?_getD hdeclares

/-- Linking respells every occurrence of a piece in its place. -/
theorem Project.Unambiguous.occurrences_linked (p : Piece) :
    (project.analysis.linked p).occurrences
      = p.statement.occurrences.map (project.analysis.scopeOf p.file).respell :=
  (hu.coherent_scopeOf p.file).occurrences_renameStmt p.statement

end

/-- The statements of a combined script have the occurrences of the pieces that they come from, and
two occurrences of names in it are spelled the same exactly if they stand for the same symbol. -/
theorem combine_spelling_eq_iff {project : Project} {result : Combined}
    (h : project.combine = .ok result) (hu : project.Unambiguous) {p q : Piece} {k l : Nat}
    (hp : project.written[k]? = some p) (hq : project.written[l]? = some q) {i j : Nat}
    {a b : Occurrence} (ha : p.statement.occurrences[i]? = some a)
    (hb : q.statement.occurrences[j]? = some b) {s t : Origin}
    (hs : project.StandsFor p.file a s) (ht : project.StandsFor q.file b t) :
    let statements := project.written.map project.analysis.linked
    result.Consists project.analysis.scan.external statements ∧
      ∃ u v a' b', statements[k]? = some u ∧ statements[l]? = some v ∧
        u.occurrences.length = p.statement.occurrences.length ∧
        v.occurrences.length = q.statement.occurrences.length ∧
        u.occurrences[i]? = some a' ∧ v.occurrences[j]? = some b' ∧
        (a'.name = b'.name ↔ s = t) := by
  refine ⟨project.consists_combine h, project.analysis.linked p, project.analysis.linked q,
    (project.analysis.scopeOf p.file).respell a, (project.analysis.scopeOf q.file).respell b,
    ?_, ?_, ?_, ?_, ?_, ?_, ?_⟩
  · rw [getElem?_map, hp, Option.map_some]
  · rw [getElem?_map, hq, Option.map_some]
  · rw [hu.occurrences_linked, length_map]
  · rw [hu.occurrences_linked, length_map]
  · rw [hu.occurrences_linked, getElem?_map, ha, Option.map_some]
  · rw [hu.occurrences_linked, getElem?_map, hb, Option.map_some]
  · rw [hu.name_respell hs, hu.name_respell ht]
    exact hu.spelling_inj hs.declares ht.declares

/-- A class without anything in it. -/
def emptyClass (name : String) : Stmt := .classDef name [] [] [.pass] []

/-- A function whose parameter has a class for its type. -/
def driving : Stmt :=
  .function false "drive" ⟨[], [⟨"motor", some (.name "Motor"), none⟩], none, [], none⟩
    [.returns (some (.name "motor"))] [] none

/-- An assignment that makes an object of a class. -/
def making : Stmt := .assign [.name "left"] (.call (.name "Motor") [] [])

/-- An entry file that takes the class `Motor` from one of two files that declare such a class. -/
def workshop : Project where
  directory := ["work"]
  entry := "/work/main.py"
  files := [⟨"main.py", "/work/main.py"⟩, ⟨"motors.py", "/work/motors.py"⟩,
    ⟨"toys.py", "/work/toys.py"⟩]
  read := fun file =>
    if file = "/work/main.py" then
      some [.importFrom (some "motors") [⟨"Motor", none⟩] 0, .imports [⟨"toys", none⟩], making]
    else if file = "/work/motors.py" then some [emptyClass "Motor", driving]
    else if file = "/work/toys.py" then some [emptyClass "Motor"]
    else none

/-- The piece of the entry file that makes the object. -/
def makingPiece : Piece := mainPiece "left" 2 making

/-- The piece with the function that drives. -/
def drivingPiece : Piece :=
  ⟨symbolKey "/work/motors.py" "drive", "/work/motors.py", 1, driving⟩

/-- The piece with the class that the entry file does not take. -/
def toyPiece : Piece :=
  ⟨symbolKey "/work/toys.py" "Motor", "/work/toys.py", 0, emptyClass "Motor"⟩

/-- The script of the workshop, the places of its statements, and what its files import and
declare. -/
theorem combine_workshop :
    workshop.combine.toOption.map Combined.text
        = some (scriptText [] ["class mod_901963e8_Motor:\n    pass", "left = mod_901963e8_Motor()",
          "def mod_901963e8_drive(motor: mod_901963e8_Motor):\n    return motor",
          "class mod_5e447e59_Motor:\n    pass"]) ∧
      workshop.Unambiguous ∧
      workshop.analysis.scan.scanned = ["/work/main.py", "/work/motors.py", "/work/toys.py"] ∧
      workshop.places = [("/work/motors.py::Motor", "/work/motors.py", 0),
        ("/work/main.py::left", "/work/main.py", 2),
        ("/work/motors.py::drive", "/work/motors.py", 1),
        ("/work/toys.py::Motor", "/work/toys.py", 0)] ∧
      (workshop.originsOf "/work/main.py").get? "Motor" = some ⟨"/work/motors.py", "Motor"⟩ ∧
      (workshop.originsOf "/work/motors.py").get? "Motor" = none ∧
      "Motor" ∈ workshop.analysis.scan.namesOf "/work/motors.py" ∧
      "Motor" ∈ workshop.analysis.scan.namesOf "/work/toys.py" := by
  decide +kernel

theorem exists_getElem?_workshop {p : Piece} {body : List Stmt}
    (hread : workshop.read p.file = some body) (hs : body[p.index]? = some p.statement)
    (hfile : p.file ∈ ["/work/main.py", "/work/motors.py", "/work/toys.py"])
    (hplace : (p.symbol, p.file, p.index) ∈ workshop.places) :
    ∃ k : Nat, workshop.written[k]? = some p := by
  obtain ⟨-, -, hscanned, -⟩ := combine_workshop
  rw [← hscanned] at hfile
  exact getElem?_of_mem
    (Project.mem_written_of_mem_places ⟨hfile, body, hread, hs⟩ hplace)

/-- The class that the entry file takes is spelled like the type of the parameter in its own file,
and not like the class of the other file. -/
theorem combine_workshop_spelling :
    ∃ (result : Combined) (k l m : Nat), workshop.combine = .ok result ∧ workshop.Unambiguous ∧
      workshop.written[k]? = some makingPiece ∧ workshop.written[l]? = some drivingPiece ∧
      workshop.written[m]? = some toyPiece ∧
      (∃ (u v : Stmt) (a b : Occurrence),
        (workshop.written.map workshop.analysis.linked)[k]? = some u ∧
        (workshop.written.map workshop.analysis.linked)[l]? = some v ∧
        u.occurrences[1]? = some a ∧ v.occurrences[1]? = some b ∧ a.name = b.name) ∧
      ∃ (u v : Stmt) (a b : Occurrence),
        (workshop.written.map workshop.analysis.linked)[k]? = some u ∧
        (workshop.written.map workshop.analysis.linked)[m]? = some v ∧
        u.occurrences[1]? = some a ∧ v.occurrences[0]? = some b ∧ a.name ≠ b.name := by
  obtain ⟨htext, hu, -, hplaces, himported, hown, hmotors, htoys⟩ := combine_workshop
  obtain ⟨result, hok, -⟩ := Project.exists_combine_of_text htext
  obtain ⟨k, hk⟩ : ∃ k, workshop.written[k]? = some makingPiece :=
    exists_getElem?_workshop rfl rfl (by decide) (by rw [hplaces]; decide)
  obtain ⟨l, hl⟩ : ∃ l, workshop.written[l]? = some drivingPiece :=
    exists_getElem?_workshop rfl rfl (by decide) (by rw [hplaces]; decide)
  obtain ⟨m, hm⟩ : ∃ m, workshop.written[m]? = some toyPiece :=
    exists_getElem?_workshop rfl rfl (by decide) (by rw [hplaces]; decide)
  have hmotor := Project.mem_namesOf.mp hmotors
  have htoy := Project.mem_namesOf.mp htoys
  obtain ⟨-, u, v, a, b, hu1, hv1, -, -, ha, hb, hsame⟩ :=
    combine_spelling_eq_iff hok hu hk hl (i := 1) (j := 1) rfl rfl (.imported himported hmotor)
      (.declared hown hmotor)
  obtain ⟨-, u', v', a', b', hu2, hv2, -, -, ha', hb', hother⟩ :=
    combine_spelling_eq_iff hok hu hk hm (i := 1) (j := 0) rfl rfl (.imported himported hmotor)
      (.given htoy)
  refine ⟨result, k, l, m, hok, hu, hk, hl, hm, ⟨u, v, a, b, hu1, hv1, ha, hb, hsame.mpr rfl⟩,
    u', v', a', b', hu2, hv2, ha', hb', fun heq => ?_⟩
  exact absurd (hother.mp heq) (by decide)

end RobotKit.Link
