import RobotKit.Proofs.Actions
import RobotKit.Proofs.Combine
import RobotKit.Proofs.Reachability

/-!
# The imports of a combined script

Renaming drops every import of a block, whatever the block belongs to, and imports make no chunks.
So the statements of a combined script hold no imports at any depth (`not_within_written`). The
imports that lead out of the project are not lost: each of their texts is one line of the
header, and the lines are sorted (`combine_conserves_imports`).
-/

namespace RobotKit.Link

open List RobotKit.Script Relation

variable {project : Project} {s : Stmt}

/-! ## Chunks hold no imports -/

/-- The statement that an import is. -/
def Import.statement : Import → Stmt
  | .modules aliases => .imports aliases
  | .names source aliases level => .importFrom source aliases level

theorem importOf?_eq_some {i : Import} (h : importOf? s = some i) :
    s = i.statement := by
  cases s with
  | imports names =>
    obtain rfl := Option.some.inj h
    rfl
  | importFrom source names level =>
    obtain rfl := Option.some.inj h
    rfl
  | _ => exact absurd h (by simp [importOf?])

theorem isImport_eq_isSome (s : Stmt) : isImport s = (importOf? s).isSome := by
  cases s <;> rfl

/-- Renaming makes no imports. -/
theorem importOf?_renameStmt (scope : Scope) (h : isImport s = false) :
    importOf? (renameStmt scope s) = none := by
  cases s with
  | imports names => exact absurd h (by simp [isImport])
  | importFrom source names level => exact absurd h (by simp [isImport])
  | _ => rfl

theorem not_within_renameBlock (i : Import) (scope : Scope) (block : List Stmt) :
    ¬ i.Within (renameBlock scope block) := by
  intro h
  generalize hnew : renameBlock scope block = new at h
  -- the blocks inside a renamed block are renamed blocks again
  induction h generalizing block with
  | here hs himport =>
    subst hnew
    obtain ⟨t, -, ht, rfl⟩ := mem_renameBlock.mp hs
    rw [importOf?_renameStmt scope ht] at himport
    exact absurd himport (by simp)
  | inside hs hinner _ ih =>
    subst hnew
    obtain ⟨t, -, -, rfl⟩ := mem_renameBlock.mp hs
    rw [blocks_renameStmt] at hinner
    obtain ⟨old, -, hold⟩ := mem_map.mp hinner
    exact ih old hold

theorem chunkKey?_statement (isEntry : Bool) (file : String) (index : Nat) (i : Import) :
    chunkKey? isEntry file index i.statement = none := by
  cases i <;> rfl

theorem Project.isImport_eq_false {p : Piece} (hp : p ∈ project.pieces) :
    isImport p.statement = false := by
  obtain ⟨-, hkey⟩ := mem_pieces.mp hp
  rw [isImport_eq_isSome]
  cases hs : importOf? p.statement with
  | none => rfl
  | some i =>
    rw [importOf?_eq_some hs, chunkKey?_statement] at hkey
    exact absurd hkey (by simp)

/-- No import stands in the statements of a combined script, at any depth. -/
theorem Project.not_within_written (project : Project) (i : Import) :
    ¬ i.Within (project.written.map project.analysis.linked) := by
  intro h
  cases h with
  | here hs himport =>
    obtain ⟨p, hp, rfl⟩ := mem_map.mp hs
    have hnone : importOf? (project.analysis.linked p) = none :=
      importOf?_renameStmt _ (isImport_eq_false (mem_pieces_of_mem_written hp))
    rw [hnone] at himport
    exact absurd himport (by simp)
  | inside hs hinner hwithin =>
    obtain ⟨p, -, rfl⟩ := mem_map.mp hs
    unfold Analysis.linked at hinner
    rw [blocks_renameStmt] at hinner
    obtain ⟨old, -, rfl⟩ := mem_map.mp hinner
    exact not_within_renameBlock i _ old hwithin

/-! ## No text is recorded twice -/

theorem nodup_addName {names : List String} (h : names.Nodup) (name : String) :
    (addName names name).Nodup := by
  unfold addName
  split
  · exact h
  · rename_i hnew
    rw [contains_iff_mem] at hnew
    apply nodup_append.mpr
    refine ⟨h, by simp, ?_⟩
    intro a ha b hb heq
    rw [heq, mem_singleton.mp hb] at ha
    exact hnew ha

theorem stepsHave_nodup (file : String) : StepsHave file fun f => ∀ work : Worklist,
    work.scan.external.Nodup → (f work).scan.external.Nodup where
  nothing _ h := h
  comp hf hg _ h := hg _ (hf _ h)
  note _ _ h := h
  outside text _ h := nodup_addName h text
  enqueue path work h := by
    dsimp only [Worklist.enqueue]
    split <;> exact h
  record _ _ _ h := h

theorem nodup_external_scanFile (read : Reads) (modules : Table String) (entry file : String)
    {work : Worklist} (h : work.scan.external.Nodup) :
    (scanFile read modules entry file work).scan.external.Nodup := by
  unfold scanFile
  cases read file with
  | none => exact h
  | some body =>
    refine (stepsHave_nodup file).followImports modules (importsOf body) _ ?_
    show (List.foldl _ (work.scan.looked file) _).external.Nodup
    rw [Scan.external_foldl_declare]
    exact h

theorem nodup_external (read : Reads) (modules : Table String) (entry : String) :
    (scanProject read modules entry).external.Nodup := by
  have hrun := serves_scanProject read modules entry
  generalize hend : (⟨scanProject read modules entry, []⟩ : Worklist) = work at hrun
  have hscan : scanProject read modules entry = work.scan := congrArg Worklist.scan hend
  rw [hscan]
  clear hend hscan
  -- each file that is looked at keeps the texts apart
  induction hrun with
  | refl => exact nodup_nil
  | tail _ hserves ih =>
    cases hserves with
    | skip _ => exact ih
    | look _ => exact nodup_external_scanFile _ _ _ _ ih

/-! ## The header -/

/-- The lines between the title of a combined script and its first chunk. -/
def Project.importLines (project : Project) : List String :=
  sortNames project.analysis.scan.external

/-- A part of the script made of these lines. -/
def linesText (lines : List String) : String := String.join (lines.map (· ++ "\n"))

/-- The script with these lines in its header and these chunks. -/
def layout (lines chunks : List String) : String :=
  "# This script was generated by combining and prefixing multiple files.\n\n" ++
    "# --- Combined External Imports ---\n" ++
    (if lines.isEmpty then "# No external imports found.\n" else linesText lines) ++ "\n" ++
    linesText chunks ++ footerText

theorem scriptText_eq_layout (external chunks : List String) :
    scriptText external chunks = layout (sortNames external) chunks := by
  have hempty : (sortNames external).isEmpty = external.isEmpty := (sortNames_perm _).isEmpty_eq
  unfold layout
  rw [hempty]
  rfl

/-- The lines of the header are sorted, and no line stands there twice. -/
theorem Project.pairwise_importLines (project : Project) :
    project.importLines.Pairwise (· < ·) :=
  pairwise_lt_sortNames (nodup_external _ _ _)

theorem Project.mem_importLines {text : String} :
    text ∈ project.importLines
      ↔ ∃ file ∈ project.analysis.scan.scanned,
        FileLeaves project.read (moduleMap project.files) file text := by
  unfold importLines
  rw [mem_sortNames]
  exact (tracks_scanProject project.read (moduleMap project.files) project.entry).external text

/-- A statement on one line is written without the line end before it. -/
theorem text_of_write {text : String} (hwrite : s.write 0 = .ok (newLine 0 ++ text))
    (hfirst : ∀ c ∈ text.toList.head?, c ≠ '\n') : s.text = .ok text := by
  have hdrop : text.toList.dropWhile (· = '\n') = text.toList := by
    cases htext : text.toList with
    | nil => rfl
    | cons c rest =>
      rw [htext] at hfirst
      exact dropWhile_cons_of_neg (by simpa using hfirst c rfl)
  unfold Stmt.text
  rw [hwrite]
  show Except.ok (withoutLeadingLines (newLine 0 ++ text)) = .ok text
  simp [withoutLeadingLines, newLine, hdrop]

/-- An import is recorded with the text of its statement. -/
theorem Import.Leaves.text_statement {modules : Table String} {file text : String} {i : Import}
    (h : i.Leaves modules file text) : i.statement.text = .ok text := by
  cases h with
  | module => exact text_of_write rfl (by simp [importText])
  | device => exact text_of_write rfl (by simp [importFromText])
  | source => exact text_of_write rfl (by simp [importFromText])

/-- A combined script consists of the lines of its header and of its chunks. -/
theorem Project.text_combine {result : Combined} (h : project.combine = .ok result) :
    ∃ chunks, (project.written.map project.analysis.linked).mapM Stmt.text = .ok chunks ∧
      result.text = layout project.importLines chunks := by
  obtain ⟨chunks, hchunks, htext⟩ := project.consists_combine h
  refine ⟨chunks, hchunks, ?_⟩
  rw [htext, scriptText_eq_layout]
  rfl

/-- Imports are conserved. The statements that a combined script is made of hold no import, at any
depth. Its header lists in increasing order, and each once, the texts of exactly those imports, at
any depth of a scanned file, that lead out of the project. -/
theorem combine_conserves_imports {project : Project} {result : Combined}
    (h : project.combine = .ok result) :
    ∃ lines chunks,
      result.text = layout lines chunks ∧
        (project.written.map project.analysis.linked).mapM Stmt.text = .ok chunks ∧
        (∀ i : Import, ¬ i.Within (project.written.map project.analysis.linked)) ∧
        lines.Pairwise (· < ·) ∧
        ∀ text, text ∈ lines ↔ ∃ file ∈ project.analysis.scan.scanned, ∃ body,
          project.read file = some body ∧ ∃ i : Import, i.Within body ∧
            i.statement.text = .ok text ∧ i.Leaves (moduleMap project.files) file text := by
  obtain ⟨chunks, hchunks, htext⟩ := Project.text_combine h
  refine ⟨project.importLines, chunks, htext, hchunks, project.not_within_written,
    project.pairwise_importLines, ?_⟩
  intro text
  rw [Project.mem_importLines]
  constructor
  · rintro ⟨file, hfile, body, hread, i, hwithin, hleaves⟩
    exact ⟨file, hfile, body, hread, i, hwithin, hleaves.text_statement, hleaves⟩
  · rintro ⟨file, hfile, body, hread, i, hwithin, -, hleaves⟩
    exact ⟨file, hfile, body, hread, i, hwithin, hleaves⟩

/-- A loop that waits, with imports inside its branches. -/
def waiting : Stmt :=
  .whileLoop (.literal (.bool true))
    [.branch (.name "late") [.imports [⟨"time", none⟩], .pass]
      [.importFrom (some "vex.motor") [⟨"spin", none⟩] 0, .breaks]] []

/-- A project whose imports lead to the device library, to a module of the project and to modules
outside it. -/
def toolbox : Project where
  directory := ["work"]
  entry := "/work/main.py"
  files := [⟨"arm.py", "/work/arm.py"⟩, ⟨"main.py", "/work/main.py"⟩]
  read := fun file =>
    if file = "/work/main.py" then
      some [.imports [⟨"vex", none⟩, ⟨"arm", none⟩], .importFrom (some "arm") [⟨"late", none⟩] 0,
        .imports [⟨"arm", none⟩], .classDef "Late" [] [] [waiting] []]
    else if file = "/work/arm.py" then
      some [.imports [⟨"math", none⟩], waiting, .assign [.name "late"] (.literal (.bool true))]
    else none

theorem combine_toolbox :
    toolbox.combine.toOption.isSome ∧
      toolbox.analysis.scan.scanned = ["/work/main.py", "/work/arm.py"] ∧
      toolbox.places = [("/work/arm.py::late", "/work/arm.py", 2),
        ("/work/main.py::Late", "/work/main.py", 3)] := by
  decide +kernel

/-- The class of the toolbox is written without the imports inside it, and the header lists the one
that stands in a branch of its loop. -/
theorem combine_toolbox_conserves_imports :
    ("/work/main.py::Late", "/work/main.py", 3) ∈ toolbox.places ∧
      ∃ result lines chunks, toolbox.combine = .ok result ∧ result.text = layout lines chunks ∧
        (∀ i : Import, ¬ i.Within (toolbox.written.map toolbox.analysis.linked)) ∧
        lines.Pairwise (· < ·) ∧ "import time" ∈ lines := by
  obtain ⟨hcombine, hscanned, hplaces⟩ := combine_toolbox
  obtain ⟨result, hok⟩ := Host.exists_eq_ok_of_isSome hcombine
  obtain ⟨lines, chunks, htext, -, hnone, hsorted, hlines⟩ := combine_conserves_imports hok
  refine ⟨by simp [hplaces], result, lines, chunks, hok, htext, hnone, hsorted,
    (hlines "import time").mpr ?_⟩
  refine ⟨"/work/main.py", by simp [hscanned], _, rfl, .modules [⟨"time", none⟩], ?_, by decide,
    .module (mem_singleton_self _) (.inr (by decide))⟩
  -- the import stands in the class, in its loop, in the first branch there
  have hbranch : Import.Within (.modules [⟨"time", none⟩]) [.imports [⟨"time", none⟩], .pass] :=
    .here mem_cons_self rfl
  have hloop : Import.Within (.modules [⟨"time", none⟩]) [waiting] :=
    .inside mem_cons_self mem_cons_self
      (.inside mem_cons_self mem_cons_self hbranch)
  exact .inside (s := .classDef "Late" [] [] [waiting] []) (by simp) mem_cons_self hloop

end RobotKit.Link
