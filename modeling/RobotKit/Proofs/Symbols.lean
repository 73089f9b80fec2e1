import RobotKit.Link.Scan
import RobotKit.Proofs.Decimal
import RobotKit.Proofs.ReadBlocks

/-!
# Symbols tell names apart

A symbol is a file and a name with two colons between them. The names that a script declares are
words, so the symbol determines both (`symbolKey_inj`).
-/

namespace RobotKit.Link

open List RobotKit.Script

variable {d : Declaration} {body : List Stmt} {isEntry : Bool}

/-- The scripts of files with the given texts; a file without a text, or with one that the grammar
refuses, has no script. -/
def readTexts (contents : String → Option String) : Reads :=
  fun file => (contents file).bind fun text => (parse text).toOption

theorem readTexts_eq_some_iff {contents : String → Option String} {file : String} :
    readTexts contents file = some body
      ↔ ∃ text, contents file = some text ∧ parse text = .ok body := by
  rw [readTexts, Option.bind_eq_some_iff]
  refine exists_congr fun text => and_congr_right fun _ => ?_
  cases parse text with
  | error e => exact ⟨nofun, nofun⟩
  | ok found => simp [Except.toOption]

theorem isWord_expressionName (index : Nat) : IsWord (expressionName index) := by
  intro c hc
  have hhead : "__expr_".toList.all isWordChar = true := by decide
  rw [expressionName, String.toList_append, mem_append] at hc
  rcases hc with hc | hc
  · exact all_eq_true.mp hhead c hc
  · rw [toList_toString] at hc
    have hdigit : c.isDigit = true := Nat.isDigit_of_mem_toDigits (by decide) (by decide) hc
    simp [isWordChar, Char.isAlphanum, hdigit]

theorem isWord_of_mem_targetNames {targets : List Expr} {kind : String}
    (h : ∀ target ∈ targets, target.NamesWord) (hd : d ∈ (targetNames targets).map (⟨·, kind⟩)) :
    IsWord d.name := by
  obtain ⟨name, hname, rfl⟩ := mem_map.mp hd
  obtain ⟨target, htarget, hfound⟩ := mem_filterMap.mp hname
  cases target with
  | name id =>
    obtain rfl := Option.some.inj hfound
    exact h _ htarget
  | _ => exact nomatch hfound

/-- What a statement that was read declares is a word. -/
theorem isWord_of_mem_declarations {index : Nat} {s : Stmt} (hs : s.WellRead)
    (hd : d ∈ declarations isEntry index s) : IsWord d.name := by
  have hwords := hs.words
  cases s with
  | function isAsync name params body decorators result =>
    cases isAsync with
    | false => rw [mem_singleton.mp hd]; exact hwords
    | true => exact nomatch hd
  | classDef name bases keywords body decorators => rw [mem_singleton.mp hd]; exact hwords
  | expression value =>
    rw [declarations] at hd
    split at hd
    · rw [mem_singleton.mp hd]
      exact isWord_expressionName index
    · exact nomatch hd
  | assign targets value => exact isWord_of_mem_targetNames hwords hd
  | annotated target type value plain =>
    exact isWord_of_mem_targetNames (forall_mem_singleton.mpr hwords) hd
  | augmented target op value =>
    exact isWord_of_mem_targetNames (forall_mem_singleton.mpr hwords) hd
  | _ => exact nomatch hd

theorem isWord_of_declares {text : String} (hparse : parse text = .ok body)
    (hd : d ∈ declarationsOf isEntry body) : IsWord d.name := by
  obtain ⟨⟨s, index⟩, hs, hd⟩ := mem_flatMap.mp hd
  exact isWord_of_mem_declarations (wellRead_of_parse hparse s (fst_mem_of_mem_zipIdx hs)) hd

/-- The name is what stands after the last colon. -/
theorem takeWhile_reverse_symbolKey (file : String) {name : String} (h : IsWord name) :
    (symbolKey file name).toList.reverse.takeWhile isWordChar = name.toList.reverse := by
  have hname : ∀ c ∈ name.toList.reverse, isWordChar c = true :=
    fun c hc => h c (mem_reverse.mp hc)
  simp only [symbolKey, String.toList_append, reverse_append]
  rw [takeWhile_append_of_pos hname]
  have hcolon : ("::".toList.reverse ++ file.toList.reverse).takeWhile isWordChar = [] := rfl
  rw [hcolon, append_nil]

theorem symbolKey_inj {file file' name name' : String} (h : IsWord name) (h' : IsWord name')
    (hkey : symbolKey file name = symbolKey file' name') : file = file' ∧ name = name' := by
  have hname : name = name' := by
    rw [← String.toList_inj, ← reverse_inj, ← takeWhile_reverse_symbolKey file h, hkey,
      takeWhile_reverse_symbolKey file' h']
  subst hname
  refine ⟨?_, rfl⟩
  rw [symbolKey, symbolKey, String.append_left_inj, String.append_left_inj] at hkey
  exact hkey

end RobotKit.Link
