import RobotKit.Link.Rename

/-!
# Blocks of statements

The blocks of a compound statement, and those among them that it cannot do without. A statement is
complete if no such block is empty, at any depth. Renaming a statement drops the imports of its
blocks, so it leaves the statement complete unless one of these blocks holds nothing else
(`complete_renameStmt_iff`).
-/

namespace RobotKit.Script

open List

/-- The block of an `except` clause. -/
def Handler.body : Handler → List Stmt
  | .mk _ _ body => body

/-- The block of a `case` clause. -/
def Case.body : Case → List Stmt
  | .mk _ _ body => body

/-- The blocks of a statement, those of its clauses included. -/
def Stmt.blocks : Stmt → List (List Stmt)
  | .function _ _ _ body _ _ => [body]
  | .classDef _ _ _ body _ => [body]
  | .branch _ body orElse => [body, orElse]
  | .whileLoop _ body orElse => [body, orElse]
  | .forLoop _ _ _ body orElse => [body, orElse]
  | .withBlock _ _ body => [body]
  | .tryBlock _ body handlers orElse final =>
    body :: handlers.map Handler.body ++ [orElse, final]
  | .choose _ cases => cases.map Case.body
  | _ => []

/-- The blocks that a statement cannot do without. A `try` statement without `except` clauses needs
its `finally` block. -/
def Stmt.required : Stmt → List (List Stmt)
  | .branch _ body _ => [body]
  | .whileLoop _ body _ => [body]
  | .forLoop _ _ _ body _ => [body]
  | .tryBlock _ body [] _ final => [body, final]
  | .tryBlock _ body handlers _ _ => body :: handlers.map Handler.body
  | s => s.blocks

/-- Is no block that a statement needs empty, at any depth? -/
inductive Stmt.Complete : Stmt → Prop
  | intro {s : Stmt} (required : ∀ block ∈ s.required, block ≠ [])
      (inner : ∀ block ∈ s.blocks, ∀ t ∈ block, t.Complete) : s.Complete

theorem Stmt.Complete.required {s : Stmt} (h : s.Complete) : ∀ block ∈ s.required, block ≠ [] := by
  cases h with
  | intro required _ => exact required

theorem Stmt.Complete.inner {s : Stmt} (h : s.Complete) :
    ∀ block ∈ s.blocks, ∀ t ∈ block, t.Complete := by
  cases h with
  | intro _ inner => exact inner

theorem Stmt.required_subset_blocks (s : Stmt) : s.required ⊆ s.blocks := by
  cases s with
  | tryBlock grouped body handlers orElse final =>
    cases handlers with
    | nil => simp [required, blocks]
    | cons handler rest => exact subset_append_left _ [orElse, final]
  | _ => simp [required, blocks]

end RobotKit.Script

namespace RobotKit.Link

open List RobotKit.Script

variable {scope : Scope} {s : Stmt} {block : List Stmt}

/-- Does a block that the statement needs, at some depth, hold imports only? -/
inductive LosesBlock : Stmt → Prop
  | here {s : Stmt} {block : List Stmt} (hblock : block ∈ s.required) (hne : block ≠ [])
      (himports : ∀ t ∈ block, isImport t = true) : LosesBlock s
  | inside {s t : Stmt} {block : List Stmt} (hblock : block ∈ s.blocks) (ht : t ∈ block)
      (hloses : LosesBlock t) : LosesBlock s

theorem renameBlock_eq_map (scope : Scope) (block : List Stmt) :
    renameBlock scope block = (block.filter (! isImport ·)).map (renameStmt scope) := by
  induction block with
  | nil => rfl
  | cons s rest ih =>
    rw [renameBlock, ih]
    cases hs : isImport s <;> simp [hs]

theorem mem_renameBlock {t : Stmt} :
    t ∈ renameBlock scope block ↔ ∃ s ∈ block, isImport s = false ∧ renameStmt scope s = t := by
  simp [renameBlock_eq_map, and_assoc]

theorem renameBlock_eq_nil_iff :
    renameBlock scope block = [] ↔ ∀ t ∈ block, isImport t = true := by
  simp [renameBlock_eq_map]

theorem bodies_renameHandlers (scope : Scope) (handlers : List Handler) :
    (renameHandlers scope handlers).map Handler.body
      = (handlers.map Handler.body).map (renameBlock scope) := by
  induction handlers with
  | nil => rfl
  | cons handler rest ih =>
    cases handler with
    | mk type name body => rw [renameHandlers, map_cons, ih]; rfl

theorem bodies_renameCases (scope : Scope) (cases : List Case) :
    (renameCases scope cases).map Case.body
      = (cases.map Case.body).map (renameBlock scope) := by
  induction cases with
  | nil => rfl
  | cons case rest ih =>
    cases case with
    | mk pattern guard body => rw [renameCases, map_cons, ih]; rfl

/-- Renaming a statement renames its blocks. -/
theorem blocks_renameStmt (scope : Scope) (s : Stmt) :
    (renameStmt scope s).blocks = s.blocks.map (renameBlock scope) := by
  cases s with
  | tryBlock grouped body handlers orElse final =>
    simp only [renameStmt, Stmt.blocks, bodies_renameHandlers, map_cons, map_append,
      map_nil]
  | choose subject cases => simp only [renameStmt, Stmt.blocks, bodies_renameCases]
  | _ => rfl

theorem required_renameStmt (scope : Scope) (s : Stmt) :
    (renameStmt scope s).required = s.required.map (renameBlock scope) := by
  cases s with
  | tryBlock grouped body handlers orElse final =>
    cases handlers with
    | nil => rfl
    | cons handler rest =>
      cases handler with
      | mk type name block =>
        simp only [renameStmt, renameHandlers, Stmt.required, map_cons,
          bodies_renameHandlers, Handler.body]
  | choose subject cases => exact blocks_renameStmt scope (.choose subject cases)
  | _ => rfl

theorem LosesBlock.isImport_eq_false (h : LosesBlock s) : isImport s = false := by
  obtain ⟨block, hblock⟩ : ∃ block, block ∈ s.blocks := by
    cases h with
    | here hblock => exact ⟨_, s.required_subset_blocks hblock⟩
    | inside hblock => exact ⟨_, hblock⟩
  cases s with
  | imports names => simp [Stmt.blocks] at hblock
  | importFrom source names level => simp [Stmt.blocks] at hblock
  | _ => rfl

theorem LosesBlock.not_complete_renameStmt (h : LosesBlock s) :
    ¬ (renameStmt scope s).Complete := by
  induction h with
  | here hblock hne himports =>
    intro hcomplete
    refine hcomplete.required (renameBlock scope _) ?_ (renameBlock_eq_nil_iff.mpr himports)
    rw [required_renameStmt]
    exact mem_map_of_mem hblock
  | @inside s t block hblock ht hloses ih =>
    intro hcomplete
    have hmem : renameBlock scope block ∈ (renameStmt scope s).blocks := by
      rw [blocks_renameStmt]
      exact mem_map_of_mem hblock
    exact ih (hcomplete.inner _ hmem _
      (mem_renameBlock.mpr ⟨t, ht, hloses.isImport_eq_false, rfl⟩))

/-- Renaming a complete statement leaves it complete unless it loses a block. -/
theorem complete_renameStmt_iff (scope : Scope) (h : s.Complete) :
    (renameStmt scope s).Complete ↔ ¬ LosesBlock s := by
  refine ⟨fun hcomplete hloses => hloses.not_complete_renameStmt hcomplete, fun hkeeps => ?_⟩
  induction h with
  | @intro s required inner ih =>
    refine .intro (fun block hblock => ?_) (fun block hblock t ht => ?_)
    · rw [required_renameStmt] at hblock
      obtain ⟨old, hold, rfl⟩ := mem_map.mp hblock
      intro hnil
      exact hkeeps (.here hold (required old hold) (renameBlock_eq_nil_iff.mp hnil))
    · rw [blocks_renameStmt] at hblock
      obtain ⟨old, hold, rfl⟩ := mem_map.mp hblock
      obtain ⟨u, hu, -, rfl⟩ := mem_renameBlock.mp ht
      exact ih old hold u hu fun hloses => hkeeps (.inside hold hu hloses)

end RobotKit.Link
