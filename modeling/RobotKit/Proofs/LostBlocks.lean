import RobotKit.Proofs.Combine
import RobotKit.Proofs.ReadBlocks

/-!
# Blocks that linking empties

Linking drops the imports of every block. The statements of a script that was read are complete;
linked, they stay complete exactly if none of the blocks that they need holds imports only. A
statement that loses such a block can be written, but no text reads back as it.
-/

namespace RobotKit.Link

open List RobotKit.Script

/-- Does the script of every scanned file come from a text that the grammar accepts? -/
def Project.IsParsed (project : Project) : Prop :=
  ∀ file ∈ project.analysis.scan.scanned, ∃ text body,
    parse text = .ok body ∧ project.read file = some body

theorem Project.IsParsed.complete {project : Project} (h : project.IsParsed) {p : Piece}
    (hp : p ∈ project.written) : p.statement.Complete := by
  have hpiece := Project.mem_pieces_of_mem_written hp
  obtain ⟨⟨hscanned, body, hread, hindex⟩, -⟩ := Project.mem_pieces.mp hpiece
  obtain ⟨text, parsed, hparse, hread'⟩ := h p.file hscanned
  obtain rfl : body = parsed := Option.some.inj (hread.symm.trans hread')
  exact (wellRead_of_parse hparse _ (mem_of_getElem? hindex)).complete

/-- A combined script holds complete statements only, except where a piece loses a block; then no
text that the grammar accepts holds its statement. So the grammar refuses the combined script, or it
reads other statements from it than those that were written. -/
theorem combine_complete_iff_keeps_blocks {project : Project} {result : Combined}
    (hparsed : project.IsParsed) (h : project.combine = .ok result) :
    result.Consists project.analysis.scan.external
        (project.written.map project.analysis.linked)
      ∧ ∀ p ∈ project.written,
          ((project.analysis.linked p).Complete ↔ ¬ LosesBlock p.statement)
          ∧ (LosesBlock p.statement → (∀ text body, parse text = .ok body →
              project.analysis.linked p ∉ body)
            ∧ ((∃ e, parse result.text = .error e) ∨ ∃ body, parse result.text = .ok body
              ∧ ¬ project.written.map project.analysis.linked ⊆ body)) := by
  refine ⟨Project.consists_combine h, fun p hp => ?_⟩
  have hcomplete : (project.analysis.linked p).Complete ↔ ¬ LosesBlock p.statement :=
    complete_renameStmt_iff _ (hparsed.complete hp)
  refine ⟨hcomplete, fun hloses => ?_⟩
  have hnot (text body) (hparse : parse text = .ok body) : project.analysis.linked p ∉ body :=
    fun hmem => hcomplete.mp (wellRead_of_parse hparse _ hmem).complete hloses
  refine ⟨hnot, ?_⟩
  cases hparse : parse result.text with
  | error e => exact .inl ⟨e, rfl⟩
  | ok body => exact .inr ⟨body, rfl, fun hsub => hnot _ body hparse (hsub (mem_map_of_mem hp))⟩

/-- A function whose body is one import. -/
def importing : Stmt :=
  .function false "f" .empty [.imports [⟨"math", none⟩]] [] none

theorem parse_importing : parse "def f():\n    import math\n" = .ok [importing] := by
  with_unfolding_all rfl

theorem combine_importing :
    (Project.single [importing]).analysis.scan.scanned = ["/work/main.py"]
      ∧ (Project.single [importing]).places
        = [(symbolKey "/work/main.py" "f", "/work/main.py", 0)]
      ∧ (Project.single [importing]).combine.toOption.map Combined.text
        = some (scriptText ["import math"] ["def f():"])
      ∧ (parse (scriptText ["import math"] ["def f():"])).toOption.isNone = true := by
  decide +kernel

theorem isParsed_importing : (Project.single [importing]).IsParsed := by
  intro file hfile
  rw [combine_importing.1, mem_singleton] at hfile
  exact ⟨_, _, parse_importing, by rw [hfile]; rfl⟩

/-- The body of the function is lost when the function is linked. -/
theorem combine_importing_loses_body :
    ∃ p ∈ (Project.single [importing]).written,
      ¬ ((Project.single [importing]).analysis.linked p).Complete := by
  obtain ⟨hscanned, hplaces, htext, -⟩ := combine_importing
  obtain ⟨result, hresult, -⟩ := Project.exists_combine_of_text htext
  have hpiece : mainPiece "f" 0 importing ∈ (Project.single [importing]).written := by
    refine Project.mem_written_of_mem_places ⟨?_, [importing], rfl, rfl⟩ ?_
    · rw [hscanned]
      exact mem_cons_self
    · rw [hplaces]
      exact mem_cons_self
  have hloses : LosesBlock importing := by
    refine .here mem_cons_self (by simp) ?_
    intro s hs
    rw [mem_singleton.mp hs]
    rfl
  obtain ⟨-, hpieces⟩ := combine_complete_iff_keeps_blocks isParsed_importing hresult
  exact ⟨_, hpiece, fun hcomplete => (hpieces _ hpiece).1.mp hcomplete hloses⟩

/-- The only script is accepted and the project combines, but the combined script is refused. -/
theorem combine_importing_is_refused :
    (Project.single [importing]).IsParsed
      ∧ ∃ result, (Project.single [importing]).combine = .ok result
        ∧ ∀ body, parse result.text ≠ .ok body := by
  obtain ⟨-, -, htext, hrefused⟩ := combine_importing
  obtain ⟨result, hresult, hscript⟩ := Project.exists_combine_of_text htext
  refine ⟨isParsed_importing, result, hresult, fun body hparse => ?_⟩
  rw [← hscript, hparse] at hrefused
  exact nomatch hrefused

end RobotKit.Link
