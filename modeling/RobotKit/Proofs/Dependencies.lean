import RobotKit.Proofs.Reexports

/-!
# Which dependencies are recorded

The chunk of a symbol holds a whole statement, and to run it every name that the statement reads has
to be there. What is recorded as the dependencies of the symbol is less: of an assignment with a
value only the value is looked at. The names in its targets and in its annotation are passed over
(`Stmt.passedOver`), so they count only if a value, or another statement of the same symbol, reads
the same symbols (`dependencies_complete_iff`).
-/

namespace RobotKit.Script

open List

/-- The names that a statement reads beside what its symbol is said to depend on: those in the
targets of an assignment, and in the annotation of one that has a value. -/
def Stmt.passedOver : Stmt → List String
  | .assign targets _ => eachTargetLoads targets
  | .annotated target type (some _) _ => target.targetLoads ++ type.loads
  | _ => []

end RobotKit.Script

namespace RobotKit.Link

open List RobotKit.Script

theorem mem_loads_iff {s : Stmt} {name : String} :
    name ∈ s.loads ↔ name ∈ definingLoads s ∨ name ∈ s.passedOver := by
  cases s with
  | assign targets value =>
    rw [Stmt.loads, definingLoads, Stmt.passedOver, mem_append]
    exact or_comm
  | annotated target type value plain =>
    cases value with
    | none => simp [definingLoads, Stmt.passedOver]
    | some value =>
      rw [Stmt.loads, definingLoads, Stmt.passedOver, mem_append, optionLoads]
      exact or_comm
  | _ => simp [definingLoads, Stmt.passedOver]

variable {project : Project} {file name symbol : String}

/-- Does a name stand for a symbol in a file? An imported name stands for that of its origin, and
another one for what the file itself declares. -/
inductive Project.Means (project : Project) (file name : String) : String → Prop
  | imported {o : Origin} (h : (project.originsOf file).get? name = some o) :
      project.Means file name (symbolKey o.file o.name)
  | declared (himported : (project.originsOf file).get? name = none)
      (hdeclares : project.Declares file name) : project.Means file name (symbolKey file name)

theorem Project.mem_symbolsOf_iff {names : List String} :
    symbol ∈ symbolsOf (project.originsOf file) (project.analysis.scan.namesOf file) file names
      ↔ ∃ name ∈ names, project.Means file name symbol := by
  rw [mem_symbolsOf]
  refine exists_congr fun name => and_congr_right fun _ => ?_
  constructor
  · rintro (⟨o, horigin, rfl⟩ | ⟨hnone, hdeclared, rfl⟩)
    · exact .imported horigin
    · exact .declared hnone (mem_namesOf.mp hdeclared)
  · intro hmeans
    cases hmeans with
    | imported horigin => exact .inl ⟨_, horigin, rfl⟩
    | declared hnone hdeclares => exact .inr ⟨hnone, mem_namesOf.mpr hdeclares, rfl⟩

/-- Does a statement that declares the first symbol read a name, in what it depends on, that stands
for the second? -/
def Project.Records (project : Project) (symbol needed : String) : Prop :=
  ∃ file index s name, project.SymbolAt symbol file index s ∧ name ∈ definingLoads s ∧
    project.Means file name needed

theorem Project.mem_dependenciesOf_iff_records {needed : String} :
    needed ∈ project.dependenciesOf symbol ↔ project.Records symbol needed := by
  rw [mem_dependenciesOf]
  constructor
  · rintro ⟨file, index, s, hat, hneeded⟩
    obtain ⟨name, hname, hmeans⟩ := mem_symbolsOf_iff.mp hneeded
    exact ⟨file, index, s, name, hat, hname, hmeans⟩
  · rintro ⟨file, index, s, name, hat, hname, hmeans⟩
    exact ⟨file, index, s, hat, mem_symbolsOf_iff.mpr ⟨name, hname, hmeans⟩⟩

/-- The recorded dependencies of a chunk are those that the values of its symbol read. They are
complete, for all names that its statement reads at any depth, exactly if they hold the symbols of
the names in the targets and the annotation of the statement, because some statement of its symbol
reads them in a value as well. A statement that is no assignment with a value has no such names. -/
theorem dependencies_complete_iff {p : Piece} (hp : p ∈ project.pieces) :
    (∀ needed, needed ∈ project.dependenciesOf p.symbol ↔ project.Records p.symbol needed) ∧
      ((∀ name ∈ p.statement.loads, ∀ needed, project.Means p.file name needed →
          needed ∈ project.dependenciesOf p.symbol)
        ↔ ∀ name ∈ p.statement.passedOver, ∀ needed, project.Means p.file name needed →
          project.Records p.symbol needed) := by
  refine ⟨fun needed => Project.mem_dependenciesOf_iff_records, ?_⟩
  constructor
  · intro hcomplete name hname needed hmeans
    rw [← Project.mem_dependenciesOf_iff_records]
    exact hcomplete name (mem_loads_iff.mpr (.inr hname)) needed hmeans
  · intro hpassed name hname needed hmeans
    rw [Project.mem_dependenciesOf_iff_records]
    rcases mem_loads_iff.mp hname with hdefining | hname
    · -- the statement itself is one that declares its symbol
      have hat := Project.symbolAt_of_mem_pieces hp
      exact ⟨p.file, p.index, p.statement, name, hat, hdefining, hmeans⟩
    · exact hpassed name hname needed hmeans

/-- Assignments with annotations, and one with a second target that is an entry of a table. -/
@[irreducible] def grading : Project where
  directory := ["work"]
  entry := "/work/main.py"
  files := [⟨"main.py", "/work/main.py"⟩]
  read := readTexts fun file =>
    if file = "/work/main.py" then some ("unit = int\ntable = \x7b\x7d\nratio: unit = 3\n" ++
      "level = table['level'] = 5\nwidth: unit = unit(2)\n")
    else none

/-- The pieces of three assignments, and the name that each of them reads beside its value. -/
def gradingUses : List (Piece × String) :=
  [(grading.pieceAt "/work/main.py" "ratio" 2, "unit"),
    (grading.pieceAt "/work/main.py" "level" 3, "table"),
    (grading.pieceAt "/work/main.py" "width" 4, "unit")]

theorem analysis_grading :
    (∀ x ∈ gradingUses, x.1.file ∈ grading.analysis.scan.scanned ∧
        ((grading.read x.1.file).getD [])[x.1.index]?.isSome ∧
        (x.1.symbol, x.1.file, x.1.index) ∈ grading.places ∧
        x.1.statement.passedOver = [x.2] ∧
        ((grading.originsOf x.1.file).get? x.2).isNone ∧
        x.2 ∈ grading.analysis.scan.namesOf x.1.file) ∧
      (∀ x ∈ gradingUses.take 2, grading.dependenciesOf x.1.symbol = []) ∧
      ∀ x ∈ gradingUses.drop 2, x.2 ∈ definingLoads x.1.statement := by
  decide +kernel

theorem mem_pieces_grading : ∀ x ∈ gradingUses, x.1 ∈ grading.pieces := by
  intro x hx
  obtain ⟨hscanned, hsome, hplace, -⟩ := analysis_grading.1 x hx
  simp only [gradingUses, mem_cons, not_mem_nil, or_false] at hx
  rcases hx with rfl | rfl | rfl
  all_goals
    exact Project.mem_pieces_of_mem_written (Project.pieceAt_mem_written hscanned hsome hplace)

theorem missed_grading : ∀ x ∈ gradingUses.take 2, x.1 ∈ grading.pieces ∧
    x.2 ∈ x.1.statement.loads ∧ ∃ needed, grading.Means x.1.file x.2 needed ∧
      needed ∉ grading.dependenciesOf x.1.symbol := by
  intro x hx
  have hmem := mem_of_mem_take hx
  obtain ⟨-, -, -, hpassed, horigin, hdeclared⟩ := analysis_grading.1 x hmem
  refine ⟨mem_pieces_grading x hmem, mem_loads_iff.mpr (.inr (by simp [hpassed])), _,
    .declared (Option.isNone_iff_eq_none.mp horigin) (Project.mem_namesOf.mp hdeclared), ?_⟩
  rw [analysis_grading.2.1 x hx]
  exact not_mem_nil

/-- The type of the ratio and the table of the levels are read by their chunks, and neither is a
recorded dependency. -/
theorem grading_misses_dependencies :
    (∃ p ∈ grading.pieces, "unit" ∈ p.statement.loads ∧
        ∃ needed, grading.Means p.file "unit" needed ∧
          needed ∉ grading.dependenciesOf p.symbol) ∧
      ∃ p ∈ grading.pieces, "table" ∈ p.statement.loads ∧
        ∃ needed, grading.Means p.file "table" needed ∧
          needed ∉ grading.dependenciesOf p.symbol :=
  ⟨⟨_, missed_grading _ mem_cons_self⟩,
    ⟨_, missed_grading _ (mem_cons_of_mem _ mem_cons_self)⟩⟩

/-- The width reads its type in its value too, so its dependencies are complete. -/
theorem grading_width_complete :
    ∃ p ∈ grading.pieces, p.statement.passedOver = ["unit"] ∧
      ∀ name ∈ p.statement.loads, ∀ needed, grading.Means p.file name needed →
        needed ∈ grading.dependenciesOf p.symbol := by
  have hx : (grading.pieceAt "/work/main.py" "width" 4, "unit") ∈ gradingUses := by
    simp [gradingUses]
  have hp := mem_pieces_grading _ hx
  obtain ⟨-, -, -, hpassed, -⟩ := analysis_grading.1 _ hx
  have hvalue := analysis_grading.2.2 _ (mem_singleton_self _)
  refine ⟨_, hp, hpassed, (dependencies_complete_iff hp).2.mpr ?_⟩
  intro name hname needed hmeans
  obtain rfl : name = "unit" := by simpa [hpassed] using hname
  exact ⟨_, _, _, "unit", Project.symbolAt_of_mem_pieces hp, hvalue, hmeans⟩

end RobotKit.Link
