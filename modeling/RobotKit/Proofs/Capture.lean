import RobotKit.Proofs.Actions
import RobotKit.Proofs.Bindings
import RobotKit.Proofs.Linking

/-!
# Names that chunks read from outside the project

A file may read names that it neither declares nor imports from the project: builtins, and names
that come with an import from outside. Such a name keeps its spelling in the combined script, where
the chunks of all files share one top level. The marks keep it apart from the names that other files
declare, but the names of the entry file carry no mark (`combine_keeps_free_names_apart`). So the
entry file can capture the builtins that its modules read (`combine_lifting_captures_max`).
-/

namespace RobotKit.Link

open List RobotKit.Script

variable {project : Project} {file name : String}

/-! ## Names that the combination gives -/

/-- The name is the one that some declaration outside the entry file gets in the script. -/
def Project.Gives (project : Project) (name : String) : Prop :=
  ∃ file old, file ≠ project.entry ∧ project.Declares file old ∧
    markedName (project.relative file) old = name

theorem Project.not_gives (h : isMarked name = false) : ¬ project.Gives name := by
  rintro ⟨file, old, -, -, rfl⟩
  rw [isMarked_markedName] at h
  exact absurd h (by simp)

theorem Project.gives_of_newName? {other old : String}
    (h : (project.analysis.scopeOf file).newName? other old = some name) : project.Gives name := by
  obtain ⟨hentry, hdeclares, hname⟩ := newName?_eq_some_iff.mp h
  exact ⟨other, old, hentry, hdeclares, hname.symm⟩

theorem Project.gives_of_imported? {old : String}
    (h : (project.analysis.scopeOf file).imported? old = some name) : project.Gives name := by
  rw [imported?_scopeOf] at h
  obtain ⟨origin, -, hnew⟩ := Option.bind_eq_some_iff.mp h
  exact gives_of_newName? hnew

theorem Project.gives_of_declared? {old : String}
    (h : (project.analysis.scopeOf file).declared? old = some name) : project.Gives name := by
  rw [declared?_scopeOf] at h
  exact gives_of_newName? h

theorem Project.eq_of_getD_eq {new : Option String} {old : String}
    (hnew : new = some name → project.Gives name) (hname : ¬ project.Gives name)
    (h : new.getD old = name) : old = name := by
  cases new with
  | none => exact h
  | some x =>
    obtain rfl : x = name := h
    exact absurd (hnew rfl) hname

/-- No rule turns another name into a name that is not given. -/
theorem Project.untaken_scopeOf (file : String) (hname : ¬ project.Gives name) :
    (project.analysis.scopeOf file).Untaken name where
  reference other h := by
    refine eq_of_getD_eq (fun hnew => ?_) hname h
    rcases Option.or_eq_some_iff.mp hnew with himported | ⟨-, hdeclared⟩
    · exact gives_of_imported? himported
    · exact gives_of_declared? hdeclared
  hint other h := by
    unfold Scope.hint at h
    split at h
    · exact eq_of_getD_eq gives_of_imported? hname h
    · exact eq_of_getD_eq gives_of_declared? hname h
  definition other h := eq_of_getD_eq gives_of_declared? hname h

/-- All rules agree on a name that the file does not import. -/
theorem Project.rules_of_not_imported (h : (project.originsOf file).get? name = none) :
    (project.analysis.scopeOf file).reference name
        = ((project.analysis.scopeOf file).newName? file name).getD name ∧
      (project.analysis.scopeOf file).hint name
        = ((project.analysis.scopeOf file).newName? file name).getD name ∧
      (project.analysis.scopeOf file).definition name
        = ((project.analysis.scopeOf file).newName? file name).getD name := by
  have hcontains : (project.analysis.scopeOf file).origins.contains name = false := by
    rw [Table.contains_eq_isSome]
    show ((project.originsOf file).get? name).isSome = false
    rw [h]
    rfl
  refine ⟨reference_of_not_imported h, ?_, ?_⟩
  · rw [Scope.hint, hcontains, declared?_scopeOf]
    rfl
  · rw [Scope.definition, declared?_scopeOf]

theorem Project.keeps_scopeOf (himported : (project.originsOf file).get? name = none)
    (hown : file = project.entry ∨ ¬ project.Declares file name) :
    (project.analysis.scopeOf file).Keeps name := by
  obtain ⟨hreference, hhint, hdefinition⟩ := rules_of_not_imported himported
  rw [newName?_eq_none hown, Option.getD_none] at hreference hhint hdefinition
  exact ⟨hreference, hhint, hdefinition⟩

/-- A name that a file does not import is left alone only if it has no new name there. -/
theorem Project.of_spares (hname : ¬ project.Gives name)
    (himported : (project.originsOf file).get? name = none)
    (h : (project.analysis.scopeOf file).Spares name) :
    file = project.entry ∨ ¬ project.Declares file name := by
  by_contra hnot
  obtain ⟨hentry, hdeclares⟩ := not_or.mp hnot
  have hdeclares := not_not.mp hdeclares
  have hnew : (project.analysis.scopeOf file).newName? file name
      = some (markedName (project.relative file) name) :=
    newName?_eq_some_iff.mpr ⟨hentry, hdeclares, rfl⟩
  -- all three rules give the new name, so the one that spares the name makes it a given one
  refine hname ⟨file, name, hentry, hdeclares, ?_⟩
  obtain ⟨hreference, hhint, hdefinition⟩ := rules_of_not_imported himported
  rw [hnew, Option.getD_some] at hreference hhint hdefinition
  rcases h with h | h | h
  · exact hreference.symm.trans h
  · exact hhint.symm.trans h
  · exact hdefinition.symm.trans h

/-! ## Chunks that bind the name -/

/-- A chunk binds a name that is not given only if the statement that it is made from does. -/
theorem Project.binds_of_binds_linked (hname : ¬ project.Gives name) {q : Piece}
    (h : (project.analysis.linked q).Binds name) : q.statement.Binds name :=
  ((untaken_scopeOf q.file hname).binds_of_binds_renameStmt h).1

/-- Where the file declares the name, the mark takes its place. -/
theorem Project.not_binds_linked (hname : ¬ project.Gives name) {q : Piece}
    (hentry : q.file ≠ project.entry) (hdeclares : project.Declares q.file name)
    (himported : (project.originsOf q.file).get? name = none) :
    ¬ (project.analysis.linked q).Binds name := by
  intro h
  obtain ⟨-, hspares⟩ := (untaken_scopeOf q.file hname).binds_of_binds_renameStmt h
  rcases of_spares hname himported hspares with heq | hnot
  · exact hentry heq
  · exact hnot hdeclares

theorem Project.binds_linked_of_entry {q : Piece} (hentry : q.file = project.entry)
    (himported : (project.originsOf q.file).get? name = none) (h : q.statement.Binds name) :
    (project.analysis.linked q).Binds name :=
  (keeps_scopeOf himported (.inl hentry)).binds_renameStmt h

/-- A chunk that reads a name which its file neither declares nor imports from the project still
reads it under that name in the combined script, and chunks bind the name at the top level of the
script only if their own statements bind it at the top level of their files. A chunk of a file that
declares the name, and does not import it, does not bind it, unless the file is the entry file:
there it does if its statement does. Names that the combination itself gives are left out. -/
theorem combine_keeps_free_names_apart {result : Combined} (h : project.combine = .ok result)
    {p : Piece} (hp : p ∈ project.written) {n : String} (hload : n ∈ p.statement.loads)
    (hdeclared : ¬ project.Declares p.file n) (himported : (project.originsOf p.file).get? n = none)
    (hgives : ¬ project.Gives n) :
    result.Consists project.analysis.scan.external
        (project.written.map project.analysis.linked) ∧
      project.analysis.linked p ∈ project.written.map project.analysis.linked ∧
      n ∈ (project.analysis.linked p).loads ∧
      ∀ q ∈ project.written,
        ((project.analysis.linked q).Binds n → q.statement.Binds n) ∧
        (q.file ≠ project.entry → project.Declares q.file n →
          (project.originsOf q.file).get? n = none → ¬ (project.analysis.linked q).Binds n) ∧
        (q.file = project.entry → (project.originsOf q.file).get? n = none →
          q.statement.Binds n → (project.analysis.linked q).Binds n) := by
  refine ⟨project.consists_combine h, mem_map_of_mem hp, ?_, ?_⟩
  · exact (Project.keeps_scopeOf himported (.inr hdeclared)).mem_loads_renameStmt _ hload
  · intro q _
    exact ⟨Project.binds_of_binds_linked hgives, Project.not_binds_linked hgives,
      Project.binds_linked_of_entry⟩

/-- A function that reads the builtin `max`. -/
def lift : Stmt :=
  .function false "lift" ⟨[], [⟨"height", none, none⟩], none, [], none⟩
    [.returns (some (.call (.name "max") [.name "height", .literal (.int 10)] []))] [] none

/-- An assignment to `max`. -/
def setMax (value : Nat) : Stmt := .assign [.name "max"] (.literal (.int value))

/-- Three files: one reads the builtin `max`, the two others set a variable of that name. -/
def lifting : Project where
  directory := ["work"]
  entry := "/work/main.py"
  files := [⟨"arm.py", "/work/arm.py"⟩, ⟨"gears.py", "/work/gears.py"⟩,
    ⟨"main.py", "/work/main.py"⟩]
  read := fun file =>
    if file = "/work/main.py" then
      some [.importFrom (some "arm") [⟨"lift", none⟩] 0, .imports [⟨"gears", none⟩], setMax 100,
        .expression (.call (.name "print") [.call (.name "lift") [.name "max"] []] [])]
    else if file = "/work/arm.py" then some [lift]
    else if file = "/work/gears.py" then some [setMax 3]
    else none

/-- The piece with the function. -/
def liftPiece : Piece := ⟨symbolKey "/work/arm.py" "lift", "/work/arm.py", 0, lift⟩

/-- The piece of the entry file that sets the variable. -/
def mainMax : Piece := mainPiece "max" 2 (setMax 100)

/-- The piece of the other file that sets the variable. -/
def gearsMax : Piece := ⟨symbolKey "/work/gears.py" "max", "/work/gears.py", 0, setMax 3⟩

theorem combine_lifting :
    lifting.combine.toOption.isSome ∧
      lifting.analysis.scan.scanned = ["/work/main.py", "/work/arm.py", "/work/gears.py"] ∧
      (∀ p ∈ [liftPiece, mainMax, gearsMax], (p.symbol, p.file, p.index) ∈ lifting.places) ∧
      (∀ p ∈ [liftPiece, mainMax, gearsMax], (lifting.originsOf p.file).get? "max" = none) ∧
      "max" ∉ lifting.analysis.scan.namesOf "/work/arm.py" ∧
      "max" ∈ lifting.analysis.scan.namesOf "/work/gears.py" := by
  decide +kernel

theorem written_lifting : ∀ p ∈ [liftPiece, mainMax, gearsMax], p ∈ lifting.written := by
  obtain ⟨-, hscanned, hplaces, -⟩ := combine_lifting
  intro p hp
  refine Project.mem_written_of_mem_places ?_ (hplaces p hp)
  simp only [mem_cons, not_mem_nil, or_false] at hp
  rcases hp with rfl | rfl | rfl
  · exact ⟨by rw [hscanned]; decide, _, rfl, rfl⟩
  · exact ⟨by rw [hscanned]; decide, _, rfl, rfl⟩
  · exact ⟨by rw [hscanned]; decide, _, rfl, rfl⟩

theorem binds_setMax (value : Nat) : (setMax value).Binds "max" :=
  .target (mem_singleton_self _) .name

/-- In the script of these files the function reads the variable of the entry file in the place of
the builtin. -/
theorem combine_lifting_captures_max :
    ∃ result, lifting.combine = .ok result ∧
      result.Consists lifting.analysis.scan.external
        (lifting.written.map lifting.analysis.linked) ∧
      liftPiece ∈ lifting.written ∧ liftPiece.file ≠ lifting.entry ∧
      "max" ∈ liftPiece.statement.loads ∧ ¬ lifting.Declares liftPiece.file "max" ∧
      (lifting.originsOf liftPiece.file).get? "max" = none ∧
      "max" ∈ (lifting.analysis.linked liftPiece).loads ∧
      mainMax ∈ lifting.written ∧ mainMax.file ≠ liftPiece.file ∧
      (lifting.analysis.linked mainMax).Binds "max" := by
  obtain ⟨hcombine, -, -, horigins, harm, -⟩ := combine_lifting
  obtain ⟨result, hok⟩ := Host.exists_eq_ok_of_isSome hcombine
  have hload : "max" ∈ liftPiece.statement.loads := by decide
  have hdeclared : ¬ lifting.Declares liftPiece.file "max" := fun h =>
    harm (Project.mem_namesOf.mpr h)
  have himported := horigins liftPiece (by simp)
  have hkeeps := Project.keeps_scopeOf himported (.inr hdeclared)
  refine ⟨result, hok, lifting.consists_combine hok, written_lifting _ (by simp), by decide, hload,
    hdeclared, himported, hkeeps.mem_loads_renameStmt _ hload, written_lifting _ (by simp),
    by decide, ?_⟩
  exact Project.binds_linked_of_entry rfl (horigins mainMax (by simp)) (binds_setMax 100)

/-- The variable of the other file is kept apart from the builtin. -/
theorem combine_lifting_keeps_gears_apart :
    ∃ result, lifting.combine = .ok result ∧ liftPiece ∈ lifting.written ∧
      "max" ∈ (lifting.analysis.linked liftPiece).loads ∧ gearsMax ∈ lifting.written ∧
      gearsMax.statement.Binds "max" ∧ ¬ (lifting.analysis.linked gearsMax).Binds "max" := by
  obtain ⟨hcombine, -, -, horigins, harm, hgears⟩ := combine_lifting
  obtain ⟨result, hok⟩ := Host.exists_eq_ok_of_isSome hcombine
  have hlift := written_lifting liftPiece (by simp)
  have hmax := written_lifting gearsMax (by simp)
  obtain ⟨-, -, hload, hchunks⟩ := combine_keeps_free_names_apart hok hlift (n := "max")
    (by decide) (fun h => harm (Project.mem_namesOf.mpr h)) (horigins _ (by simp))
    (Project.not_gives (by decide))
  obtain ⟨-, hapart, -⟩ := hchunks gearsMax hmax
  refine ⟨result, hok, hlift, hload, hmax, binds_setMax 3, ?_⟩
  exact hapart (by decide) (Project.mem_namesOf.mp hgears) (horigins _ (by simp))

end RobotKit.Link
