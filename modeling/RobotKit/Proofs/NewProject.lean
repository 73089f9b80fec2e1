import RobotKit.Proofs.Opening
import RobotKit.Proofs.Readable
import RobotKit.Proofs.RoundTrip

/-!
# New projects

A new project file gives the name between quotation marks as it is. Reading the file gives the same
name back exactly if every character of it is plain: no quotation mark, no backslash and no control
character. What is read instead is always shorter.
-/

namespace RobotKit.Config

open List Reader

variable {value : Value} {name : String} {c : Char} {long : Bool} {problem : Problem}
  {a b : List Char}

/-! ## Plain characters -/

/-- A character that stands for itself between quotation marks. -/
def isPlain (c : Char) : Bool := c ≠ '"' && c ≠ '\\' && !isControl c

theorem isPlain_iff : isPlain c = true ↔ c ≠ '"' ∧ c ≠ '\\' ∧ isControl c = false := by
  simp [isPlain, and_assoc]

theorem quotedCharacter_of_isPlain (h : isPlain c = true) : quotedCharacter c = [c] := by
  obtain ⟨hquote, hback, hcontrol⟩ := isPlain_iff.mp h
  have hne {d : Char} (hd : isControl d = true) : c ≠ d := by
    rintro rfl
    rw [hd] at hcontrol
    cases hcontrol
  rw [quotedCharacter, if_neg (hne rfl), if_neg (hne rfl), if_neg (hne rfl), if_neg (hne rfl),
    if_neg hquote, if_neg hback, hcontrol]
  rfl

theorem quoted_of_isPlain {text : String} (h : text.toList.all isPlain = true) :
    quoted text = "\"" ++ text ++ "\"" := by
  have hsame : text.toList.flatMap quotedCharacter = text.toList := by
    conv_rhs => rw [← flatMap_singleton' text.toList]
    exact flatMap_congr fun c hc => quotedCharacter_of_isPlain (all_eq_true.mp h c hc)
  rw [← String.toList_inj, toList_quoted, hsame, String.toList_append, String.toList_append]
  rfl

/-! ## What is read between quotation marks -/

section Consumed

variable {s t value taken : List Char}

theorem Reader.Gives.of_run {α : Type} {r : Reader α} {P : α → Prop} {a : α}
    (hrun : r.run s = .ok (a, t)) (h : r.Gives P) : P a := h s a t hrun

/-- A reader that refuses gives nothing. -/
theorem not_run_refuse {α : Type} {a : α} :
    (refuse problem : Reader α).run s ≠ .ok (a, t) :=
  fun h => (gives_refuse problem : (refuse problem : Reader α).Gives fun _ => False) _ _ _ h

theorem not_run_refuse_bind {α β : Type} {f : α → Reader β} {b : β} :
    (refuse problem >>= f).run s ≠ .ok (b, t) :=
  fun h => (gives_refuse_bind problem f : Gives _ fun _ => False) _ _ _ h

theorem hexCharacter_reads {count : Nat} (h : (hexCharacter count).run s = .ok (value, t)) :
    t <:+ s ∧ value.length ≤ 1 := by
  unfold hexCharacter at h
  rw [run_bind_of_ok run_get] at h
  dsimp only at h
  split at h
  case isTrue => exact absurd h not_run_refuse_bind
  case isFalse =>
    rw [run_bind_of_ok (run_modify _)] at h
    split at h
    case isTrue =>
      obtain ⟨rfl, rfl⟩ := Prod.mk.inj (Except.ok.inj h)
      exact ⟨drop_suffix _ _, le_rfl⟩
    case isFalse => exact absurd h not_run_refuse

/-- What stands for nothing at the end of a line of a long text is a part of the text. -/
theorem lineEnd_reads {u : List Char} (h : (do skip isGap; return [] : Reader (List Char)).run u
    = .ok (value, t)) : t <:+ u ∧ value.length ≤ 1 := by
  obtain ⟨rfl, rfl⟩ := Prod.mk.inj (Except.ok.inj h)
  exact ⟨dropWhile_suffix _, Nat.zero_le _⟩

/-- An escape takes at least two characters and stands for at most one. -/
theorem escape_reads (h : (escape long).run ('\\' :: c :: s) = .ok (value, t)) :
    t <:+ s ∧ value.length ≤ 1 := by
  unfold escape at h
  rw [run_bind_of_ok run_get, run_bind_of_ok (run_modify _)] at h
  split at h
  case h_2 hnone => cases hnone
  case h_1 d hd =>
  obtain rfl : c = d := Option.some.inj hd
  rw [drop_succ_cons, drop_succ_cons, drop_zero] at h
  split at h
  case isTrue =>
    split at h
    case isTrue =>
      rw [run_bind_of_ok (run_skip _), run_bind_of_ok run_get] at h
      split at h
      case h_1 =>
        obtain ⟨rfl, rfl⟩ := Prod.mk.inj (Except.ok.inj h)
        exact ⟨dropWhile_suffix _, Nat.zero_le _⟩
      case h_2 rest hrest =>
        rw [run_bind_of_ok run_set] at h
        obtain ⟨hsuffix, hvalue⟩ := lineEnd_reads h
        refine ⟨(hsuffix.trans ?_).trans (dropWhile_suffix isLineBlank), hvalue⟩
        rw [hrest]
        exact suffix_cons _ _
      case h_3 => exact absurd h not_run_refuse_bind
    case isFalse => exact lineEnd_reads h
  case isFalse =>
    split at h
    case isTrue => exact hexCharacter_reads h
    split at h
    case isTrue => exact hexCharacter_reads h
    split at h
    case h_1 =>
      obtain ⟨rfl, rfl⟩ := Prod.mk.inj (Except.ok.inj h)
      exact ⟨suffix_rfl, le_rfl⟩
    case h_2 => exact absurd h not_run_refuse

/-- A text ends at a quotation mark. It is shorter than what was taken for it, or it was taken
character by character. -/
theorem basicText_reads {fuel : Nat} : ∀ {taken s : List Char},
    (basicText long fuel taken).run s = .ok (value, t) →
    '"' :: t <:+ s ∧ (value.length + t.length + 1 < taken.length + s.length ∨
      long = false ∧ ∃ used, value = taken ++ used ∧ s = used ++ '"' :: t ∧ used.all isPlain = true) := by
  induction fuel with
  | zero => exact fun h => absurd h not_run_refuse
  | succ fuel ih =>
    intro taken s h
    rw [basicText, run_bind_of_ok run_get] at h
    split at h
    case h_1 => exact absurd h not_run_refuse
    case h_2 rest =>
      split at h
      case isTrue hshort =>
        obtain ⟨rfl, rfl⟩ := Prod.mk.inj (Except.ok.inj h)
        exact ⟨suffix_rfl, .inr ⟨by simpa using hshort, [], by simp, rfl, rfl⟩⟩
      rename_i hlong
      split at h
      case isTrue hmarks =>
        obtain ⟨rfl, rfl⟩ := Prod.mk.inj (Except.ok.inj h)
        obtain ⟨rest, rfl⟩ := isPrefixOf_iff_prefix.mp hmarks
        refine ⟨⟨['"', '"'], rfl⟩, .inl ?_⟩
        simp
        omega
      case isFalse =>
        rw [run_bind_of_ok run_set] at h
        obtain ⟨hsuffix, hread⟩ := ih h
        refine ⟨hsuffix.trans (suffix_cons _ _), .inl ?_⟩
        rcases hread with hshort | ⟨hnot, -⟩
        · simp only [length_append, length_cons, length_nil] at hshort ⊢
          omega
        · rw [hnot] at hlong
          exact absurd rfl hlong
    case h_3 rest =>
      rw [StateT.run_bind] at h
      obtain ⟨⟨parts, left⟩, hescape, hrest⟩ := exists_of_bind_eq_ok h
      cases rest with
      | nil => exact absurd hescape not_run_refuse
      | cons c rest =>
        obtain ⟨hleft, hparts⟩ := escape_reads hescape
        obtain ⟨hsuffix, hread⟩ := ih hrest
        refine ⟨hsuffix.trans (hleft.trans ⟨['\\', c], rfl⟩), .inl ?_⟩
        have hlength := hleft.length_le
        rcases hread with hshort | ⟨-, used, rfl, rfl, -⟩
        · simp only [length_append, length_cons] at hshort ⊢
          omega
        · simp only [length_append, length_cons] at hlength ⊢
          omega
    case h_4 c rest hquote hback =>
      split at h
      case isTrue => exact absurd h not_run_refuse_bind
      case isFalse hcontrol =>
        rw [run_bind_of_ok run_set] at h
        obtain ⟨hsuffix, hread⟩ := ih h
        refine ⟨hsuffix.trans (suffix_cons _ _), hread.imp (fun hshort => ?_) ?_⟩
        · simp only [length_append, length_cons, length_nil] at hshort ⊢
          omega
        · rintro ⟨hnot, used, rfl, rfl, hused⟩
          have hplain : isPlain c = true := by
            rw [hnot] at hcontrol
            exact isPlain_iff.mpr ⟨hquote, hback, by simpa using hcontrol⟩
          exact ⟨hnot, c :: used, by simp, rfl, by simp [hplain, hused]⟩

theorem takeText_reads {start : String} {isThere : Bool}
    (h : (takeText start).run s = .ok (isThere, t)) : t <:+ s := by
  rw [takeText, run_bind_of_ok run_get] at h
  split at h
  · obtain ⟨-, rfl⟩ := Prod.mk.inj (Except.ok.inj h)
    exact drop_suffix _ _
  · obtain ⟨-, rfl⟩ := Prod.mk.inj (Except.ok.inj h)
    exact suffix_rfl

theorem extraMarks_reads (h : (extraMarks '"' taken).run s = .ok (value, t)) :
    '"' :: t <:+ '"' :: s ∧ value.length + t.length = taken.length + s.length := by
  obtain ⟨hvalue, ht⟩ := Prod.mk.inj (Except.ok.inj h)
  generalize hextra : (s.take 2).takeWhile (· = '"') = extra at hvalue ht
  obtain ⟨rest, hrest⟩ : extra <+: s :=
    hextra ▸ ( takeWhile_prefix _).trans ( take_prefix _ _)
  have hmarks : extra = List.replicate extra.length '"' :=
    eq_replicate_of_mem fun c hc => by
      rw [← hextra] at hc
      simpa using mem_takeWhile_imp hc
  obtain rfl : rest = t := by
    rw [← ht, ← hrest]
    exact drop_left.symm
  subst hrest hvalue
  refine ⟨⟨extra, ?_⟩, by simp only [length_append]; omega⟩
  rw [hmarks, ← cons_append, ← replicate_succ, replicate_succ', append_assoc]
  rfl

theorem basicRest_reads (h : (basicRest long).run s = .ok (value, t)) :
    '"' :: t <:+ s ∧ (value.length + t.length + 1 < s.length ∨
      long = false ∧ s = value ++ '"' :: t ∧ value.all isPlain = true) := by
  rw [basicRest, run_bind_of_ok run_get] at h
  obtain ⟨hsuffix, hread⟩ := basicText_reads h
  refine ⟨hsuffix, hread.imp (fun hshort => by simpa using hshort) ?_⟩
  rintro ⟨hlong, used, rfl, rfl, hplain⟩
  exact ⟨hlong, rfl, hplain⟩

/-- A value that starts with a quotation mark ends at another one. It is shorter than what stands
between the two, or is just that. -/
theorem textValue_reads (h : textValue.run ('"' :: s) = .ok (value, t)) :
    '"' :: t <:+ s ∧ (value.length + t.length + 1 < s.length ∨
      s = value ++ '"' :: t ∧ value.all isPlain = true) := by
  unfold textValue at h
  by_cases hlong : "\"\"\"".toList <+: '"' :: s
  · obtain ⟨inner, hinner⟩ := hlong
    obtain rfl : '"' :: '"' :: inner = s := (List.cons.inj hinner).2
    rw [← hinner, run_bind_of_ok (run_takeText _ _), if_pos rfl, StateT.run_bind] at h
    obtain ⟨⟨isThere, u⟩, hu, h⟩ := exists_of_bind_eq_ok h
    rw [StateT.run_bind] at h
    obtain ⟨⟨taken, left⟩, htaken, h⟩ := exists_of_bind_eq_ok h
    have hinside := takeText_reads hu
    obtain ⟨hsuffix, hread⟩ := basicRest_reads htaken
    obtain ⟨hend, hlength⟩ := extraMarks_reads h
    dsimp only at hread hlength
    refine ⟨hend.trans (hsuffix.trans (hinside.trans ⟨['"', '"'], rfl⟩)), .inl ?_⟩
    have hleft := hsuffix.length_le
    have hu := hinside.length_le
    rcases hread with hshort | ⟨hnot, -⟩
    · simp only [length_cons] at hleft ⊢
      omega
    · cases hnot
  · have hsingle : ¬ "'''".toList <+: '"' :: s := fun hp => absurd (cons_prefix_cons.mp hp).1 (by decide)
    rw [run_bind_of_ok (run_takeText_of_not hlong), if_neg Bool.false_ne_true,
      run_bind_of_ok (run_takeText_of_not hsingle), if_neg Bool.false_ne_true,
      run_bind_of_ok (run_takeText_cons rfl _), if_pos rfl] at h
    obtain ⟨hsuffix, hread⟩ := basicRest_reads h
    exact ⟨hsuffix, hread.imp_right And.right⟩

/-- The quotation mark at which a text ends is not among characters without one. -/
theorem length_le_of_suffix (h : '"' :: t <:+ a ++ '"' :: b) (hb : '"' ∉ b) :
    b.length ≤ t.length := by
  by_contra hlt
  have hinside : '"' :: t <:+ b := by
    refine suffix_of_suffix_length_le h ⟨a ++ ['"'], by simp⟩ ?_
    simp only [length_cons]
    omega
  exact hb (hinside.subset mem_cons_self)

/-- What is read for characters between quotation marks is shorter than they are, unless all of
them are plain. -/
theorem isPlain_of_textValue (hb : '"' ∉ b)
    (h : textValue.run ('"' :: (a ++ '"' :: b)) = .ok (value, t))
    (hlength : a.length ≤ value.length) :
    value.all isPlain = true := by
  obtain ⟨hsuffix, hshort | ⟨-, hplain⟩⟩ := textValue_reads h
  · have hrest := length_le_of_suffix hsuffix hb
    simp only [length_append, length_cons] at hshort
    omega
  · exact hplain

end Consumed

/-! ## Texts in a document -/

/-- Under the key stands a text. -/
def TextAt (text : String) : Key → Value → Prop
  | [], value => value = .text text
  | name :: key, value =>
    ∃ entries inner, value = .table entries ∧ entries.lookup name = some inner ∧ TextAt text key inner

section TextAt

variable {text : String} {key : Key} {entries new : Entries}

/-- A text stays where it is if a new entry is none that leads to it. -/
theorem TextAt.insertEntry (h : TextAt text key (.table entries))
    (hvalue : ∀ rest inner, key = name :: rest → entries.lookup name = some inner →
      TextAt text rest inner → TextAt text rest value) :
    TextAt text key (.table (Table.insertEntry name value entries)) := by
  cases key with
  | nil => cases h
  | cons first rest =>
    obtain ⟨_, inner, heq, hlookup, hinner⟩ := h
    obtain rfl := Value.table.inj heq
    by_cases hfirst : first = name
    · subst hfirst
      exact ⟨_, value, rfl, by rw [Table.lookup_insertEntry, if_pos rfl],
        hvalue rest inner rfl hlookup hinner⟩
    · exact ⟨_, inner, rfl, by rw [Table.lookup_insertEntry, if_neg hfirst, hlookup], hinner⟩

theorem TextAt.append (h : TextAt text key (.table entries)) (hnone : entries.lookup name = none) :
    TextAt text key (.table (entries ++ [(name, value)])) := by
  rw [← Table.insertEntry_of_notMem (Table.lookup_eq_none_iff_notMem.mp hnone)]
  exact h.insertEntry fun rest inner _ hinner => by simp [hnone] at hinner

theorem TextAt.unique {other : String} (h : TextAt text key value) (h' : TextAt other key value) :
    text = other := by
  induction key generalizing value with
  | nil => exact Value.text.inj (h.symm.trans h')
  | cons name rest ih =>
    obtain ⟨entries, inner, rfl, hinner, htext⟩ := h
    obtain ⟨_, _, heq, hinner', htext'⟩ := h'
    obtain rfl := Value.table.inj heq
    obtain rfl := Option.some.inj (hinner.symm.trans hinner')
    exact ih htext htext'

theorem not_textAt_list {items : List Value} : ¬ TextAt text key (.list items) := by
  cases key with
  | nil => exact fun h => by cases h
  | cons name rest => rintro ⟨_, _, heq, -⟩; cases heq

/-- A change that keeps texts does so wherever it is made. -/
theorem TextAt.changeAt {intoLists : Bool} {change : Entries → Except Problem Entries}
    (hchange : ∀ {key old new}, TextAt text key (.table old) → change old = .ok new →
      TextAt text key (.table new)) :
    ∀ {path key : Key} {entries new : Entries}, TextAt text key (.table entries) →
      changeAt intoLists change path entries = .ok new → TextAt text key (.table new)
  | [], _, _, _, h, hnew => hchange h hnew
  | name :: path, key, entries, new, h, hnew => by
    rw [Config.changeAt] at hnew
    split at hnew
    case h_1 hnone =>
      obtain ⟨inner, -, hnew⟩ := exists_of_bind_eq_ok hnew
      rw [← Except.ok.inj hnew]
      exact h.insertEntry fun _ _ _ hlookup => by simp [hnone] at hlookup
    case h_2 old hold =>
      obtain ⟨inner, hinner, hnew⟩ := exists_of_bind_eq_ok hnew
      rw [← Except.ok.inj hnew]
      refine h.insertEntry fun rest value _ hlookup hvalue => ?_
      obtain rfl := Option.some.inj (hold.symm.trans hlookup)
      exact TextAt.changeAt hchange hvalue hinner
    case h_3 items hitems =>
      split at hnew
      case h_1 =>
        obtain ⟨inner, -, hnew⟩ := exists_of_bind_eq_ok hnew
        rw [← Except.ok.inj hnew]
        refine h.insertEntry fun rest value _ hlookup hvalue => ?_
        obtain rfl := Option.some.inj (hitems.symm.trans hlookup)
        exact absurd hvalue not_textAt_list
      case h_2 => cases hnew
    case h_4 => cases hnew

theorem TextAt.addEntry {taken : Problem} (h : TextAt text key (.table entries))
    (hnew : addEntry taken name value entries = .ok new) :
    TextAt text key (.table new) := by
  rw [Config.addEntry] at hnew
  split at hnew
  case isTrue => cases hnew
  case isFalse hnone =>
    rw [← Except.ok.inj hnew]
    exact h.append (Option.not_isSome_iff_eq_none.mp hnone)

theorem TextAt.appendTable (h : TextAt text key (.table entries))
    (hnew : appendTable name entries = .ok new) : TextAt text key (.table new) := by
  rw [Config.appendTable] at hnew
  split at hnew
  case h_1 hnone =>
    rw [← Except.ok.inj hnew]
    exact h.append hnone
  case h_2 items hitems =>
    rw [← Except.ok.inj hnew]
    refine h.insertEntry fun rest value _ hlookup hvalue => ?_
    obtain rfl := Option.some.inj (hitems.symm.trans hlookup)
    exact absurd hvalue not_textAt_list
  case h_3 => cases hnew

/-- No statement changes a text that is there. -/
theorem Document.kept_textAt : Kept fun d => TextAt text key (.table d.entries) :=
  kept_of (TextAt.changeAt fun hold hnew => Except.ok.inj hnew ▸ hold)
    (TextAt.changeAt TextAt.appendTable) fun _ => TextAt.changeAt TextAt.addEntry

end TextAt

/-! ## Line ends -/

theorem length_joinLineEnds_le (text : List Char) : (joinLineEnds text).length ≤ text.length := by
  fun_induction joinLineEnds text with
  | case1 rest ih => simp only [length_cons]; omega
  | case2 c rest _ ih => simp only [length_cons]; omega
  | case3 => exact le_rfl

theorem joinLineEnds_append_quote (a b : List Char) :
    joinLineEnds (a ++ '"' :: b) = joinLineEnds a ++ '"' :: joinLineEnds b := by
  fun_induction joinLineEnds a with
  | case1 rest ih => exact congrArg ('\n' :: ·) ih
  | case2 c rest hnot ih =>
    have hstep : joinLineEnds (c :: (rest ++ '"' :: b)) = c :: joinLineEnds (rest ++ '"' :: b) := by
      refine joinLineEnds.eq_2 _ _ fun more hc hmore => ?_
      cases rest with
      | nil => cases hmore
      | cons d rest => exact hnot rest hc (by rw [(List.cons.inj hmore).1])
    rw [cons_append, hstep, ih]
    rfl
  | case3 => rfl

/-! ## The project file -/

/-- A document with one table, to which the statements belong. -/
def projectWith (settings : Entries) : Document where
  entries := [("project", .table settings)]
  header := ["project"]
  opened := [["project"]]
  pending := []
  frozen := []

/-- The line with the name gives the document a text. -/
theorem exists_textValue_of_statement {source left : List Char} {d : Document}
    (h : (statement 'n' (projectWith [])).run
      ((keyText "name").toList ++ (' ' :: '=' :: ' ' :: '"' :: source))
      = .ok (d, left)) :
    ∃ value t, textValue.run ('"' :: source) = .ok (value, t) ∧
      TextAt (String.ofList value) ["project", "name"] (.table d.entries) := by
  have hquote : (' ' :: '"' :: source).dropWhile isLineBlank = '"' :: source := dropWhile_blank rfl _
  rw [statement, if_neg (by decide), if_pos (by decide), run_bind_of_ok (run_keyOf_entry _ _),
    run_bind_of_ok (run_takeText_cons rfl _)] at h
  dsimp only at h
  rw [if_neg (by decide), run_bind_of_ok (run_skip _), hquote, run_bind_of_ok run_get, StateT.run_bind] at h
  obtain ⟨⟨found, rest⟩, hvalue, hset⟩ := exists_of_bind_eq_ok h
  rw [valueOf, run_bind_of_ok run_get] at hvalue
  split at hvalue
  case h_1 =>
    rw [StateT.run_bind] at hvalue
    obtain ⟨⟨value, t⟩, htext, hfound⟩ := exists_of_bind_eq_ok hvalue
    obtain ⟨rfl, rfl⟩ := Prod.mk.inj (Except.ok.inj hfound)
    obtain ⟨rfl, -⟩ := Prod.mk.inj (Except.ok.inj hset)
    exact ⟨value, _, htext, _, _, rfl, rfl, _, _, rfl, rfl, rfl⟩
  case h_2 heq => cases heq
  case h_3 heq => cases heq
  case h_4 heq => cases heq
  case h_5 hnot _ _ _ => exact absurd rfl (hnot source)

/-- The name is read from behind the first two keys, and nothing later changes it. -/
theorem exists_textValue_of_statements {fuel : Nat} {source rest : List Char} {d : Document}
    (h : (statements (fuel + 1) (projectWith [])).run
      ((keyText "name").toList ++ (' ' :: '=' :: ' ' :: '"' :: source)) = .ok (d, rest)) :
    ∃ value t, textValue.run ('"' :: source) = .ok (value, t) ∧
      TextAt (String.ofList value) ["project", "name"] (.table d.entries) := by
  have hblank := dropWhile_keyText "name" (' ' :: '=' :: ' ' :: '"' :: source)
  rw [statements, run_bind_of_ok (run_skip _), hblank, run_bind_of_ok run_get] at h
  split at h
  case h_1 heq => cases heq
  case h_2 heq => cases heq
  case h_3 first tail _ heq =>
    obtain rfl : 'n' = first := (List.cons.inj heq).1
    rw [StateT.run_bind] at h
    obtain ⟨⟨next, left⟩, hstatement, hrest⟩ := exists_of_bind_eq_ok h
    obtain ⟨value, t, hvalue, htext⟩ := exists_textValue_of_statement hstatement
    refine ⟨value, t, hvalue, Gives.of_run
      (P := fun d => TextAt (String.ofList value) ["project", "name"] (.table d.entries)) hrest ?_⟩
    refine gives_bind fun _ => gives_bind fun _ => gives_bind fun rest => ?_
    split
    case h_1 => exact gives_pure htext
    case h_2 => exact gives_bind fun _ => gives_statements Document.kept_textAt _ htext
    case h_3 => exact gives_refuse _

/-- The text of an integer has digits and a sign. -/
theorem notMem_integerText {n : Int} {text : String} (h : Value.integerText n = .ok text)
    (hsign : c ≠ '-') (hdigit : c.isDigit = false) : c ∉ text.toList := by
  rw [Value.integerText] at h
  split at h
  case isTrue => cases h
  case isFalse =>
    rw [← Except.ok.inj h, toList_toString_int, mem_append, signChars]
    rintro (hmem | hmem)
    · split at hmem
      · exact hsign (mem_singleton.mp hmem)
      · exact absurd hmem not_mem_nil
    · rw [isDigits_toDigits _ _ hmem] at hdigit
      cases hdigit

/-- The first line of a project file. -/
def projectHeader : List Char := '[' :: (keyChars ["project"] ++ [']']) ++ ['\n']

theorem moves_projectHeader : Moves projectHeader .empty (projectWith []) :=
  moves_header (cons_ne_nil _ _) rfl

end RobotKit.Config

namespace RobotKit.Project

open List RobotKit.Config RobotKit.Files RobotKit.Host Reader

variable {Q : Unit → State → Prop} {config : Entries}

section Reading

variable {name slotText : String} {slot : Int}

theorem toList_framed (a name b slot c : String) : (a ++ name ++ b ++ slot ++ c).toList
    = a.toList ++ (name.toList ++ (b.toList ++ (slot.toList ++ c.toList))) := by
  simp only [String.toList_append, append_assoc]

/-- What a new project file has before the quotation marks of the name. -/
def beforeName : List Char := projectHeader ++ ((keyText "name").toList ++ [' ', '=', ' '])

/-- What a new project file has after the quotation marks of the name. -/
def afterName (slotText : String) : List Char := '\n' :: (entryChars "slot" slotText.toList ++ ['\n'])

theorem keyText_settings :
    keyText "project" = "project" ∧ keyText "name" = "name" ∧ keyText "slot" = "slot" := by
  decide

theorem toList_projectText : (projectText name slotText).toList =
    beforeName ++ '"' :: (name.toList ++ '"' :: afterName slotText) := by
  have hstart : "[project]\nname = \"".toList = '[' :: ("project".toList ++ [']']) ++ ['\n'] ++
      ("name".toList ++ [' ', '=', ' ', '"']) := rfl
  have hslot : "\"\nslot = ".toList = '"' :: '\n' :: ("slot".toList ++ [' ', '=', ' ']) := rfl
  rw [beforeName, projectHeader, afterName, keyChars_singleton, keyText_settings.1,
    keyText_settings.2.1, entryChars,
    keyText_settings.2.2]
  refine (toList_framed _ name _ slotText _).trans ?_
  rw [hstart, hslot]
  simp only [append_assoc, cons_append, nil_append]
  rfl

theorem notMem_afterName {c : Char} (hentry : c ∉ entryChars "slot" slotText.toList) (hc : c ≠ '\n') :
    c ∉ afterName slotText := by
  simp [afterName, hentry, hc]

variable (hslot : Value.integerText slot = .ok slotText)

include hslot

/-- A plain name is read back from a new project file. -/
theorem read_projectText (hname : name.toList.all isPlain = true) : read (projectText name slotText)
    = .ok [("project", .table [("name", .text name), ("slot", .integer slot)])] := by
  have hnamed : Moves (entryChars "name" (quoted name).toList ++ ['\n']) (projectWith [])
      (projectWith [("name", .text name)]) := moves_entry (readsBack_text name) rfl
  have hslotted : Moves (entryChars "slot" slotText.toList ++ ['\n'])
      (projectWith [("name", .text name)])
      (projectWith [("name", .text name), ("slot", .integer slot)]) :=
    moves_entry (readsBack_integer hslot) rfl
  have hmoves := moves_projectHeader.append (hnamed.append hslotted)
  have hmark : "\"".toList = ['"'] := rfl
  refine read_of_moves (d := projectWith [("name", .text name), ("slot", .integer slot)]) ?_
  rw [toList_projectText]
  rw [quoted_of_isPlain hname] at hmoves
  simpa only [beforeName, afterName, entryChars, String.toList_append, hmark, append_assoc,
    cons_append, nil_append] using hmoves

/-- Only the name can have line ends of two characters. -/
theorem joinLineEnds_projectText : joinLineEnds (projectText name slotText).toList =
    beforeName ++ '"' :: (joinLineEnds name.toList ++ '"' :: afterName slotText) := by
  have hstart : '\r' ∉ beforeName := by
    rw [beforeName, mem_append]
    exact not_or.mpr ⟨moves_projectHeader.noReturn, by rw [keyText_settings.2.1]; decide⟩
  have hrest : '\r' ∉ afterName slotText :=
    notMem_afterName (return_notMem_entryChars "slot" (readsBack_integer hslot)) (by decide)
  rw [toList_projectText, joinLineEnds_append_quote, joinLineEnds_append_quote,
    joinLineEnds_of_notMem hstart, joinLineEnds_of_notMem hrest]

/-- A name that is read back from a new project file is plain. -/
theorem isPlain_of_read (h : read (projectText name slotText) = .ok config)
    (hname : TextAt name ["project", "name"] (.table config)) : name.toList.all isPlain = true := by
  have hquote : '"' ∉ afterName slotText := by
    have hinteger := notMem_integerText hslot (c := '"') (by decide) (by decide)
    refine notMem_afterName ?_ (by decide)
    rw [entryChars, keyText_settings.2.2]
    simpa using hinteger
  rw [Config.read, joinLineEnds_projectText hslot, beforeName, append_assoc, append_assoc] at h
  split at h
  case h_2 => cases h
  case h_3 => cases h
  case h_1 d rest hrun =>
    obtain ⟨fuel, hfuel, hmoved⟩ := moves_projectHeader.run (Nat.lt_succ_self _)
    obtain ⟨fuel, rfl⟩ : ∃ n, fuel = n + 1 := ⟨fuel - 1, by omega⟩
    rw [hmoved] at hrun
    obtain ⟨value, t, hvalue, htext⟩ := exists_textValue_of_statements hrun
    rw [Except.ok.inj h] at htext
    obtain rfl := hname.unique htext
    rw [String.toList_ofList] at hvalue ⊢
    refine isPlain_of_textValue hquote hvalue ?_
    exact length_joinLineEnds_le _

end Reading

/-! ## Scaffolding in an empty directory -/

variable {s : State} {directory template : Path} {D : Location} {content : Content}

/-- Does a path lead to a file with this content? -/
def HasFile (s : State) (path : Path) (content : Content) : Prop :=
  ∃ place, s.resolve path = .ok place ∧ s.files.shapeAt place = some (.file content)

theorem HasFile.of_grows {t : State} {path : Path} (h : HasFile s path content)
    (hdirectory : t.directory = s.directory) (hgrows : Grows s.files t.files) :
    HasFile t path content := by
  obtain ⟨place, hresolve, hshape⟩ := h
  refine ⟨place, ?_, hgrows _ _ hshape⟩
  unfold State.resolve at hresolve ⊢
  rw [hdirectory]
  exact Node.resolve_eq_ok_of_keeps hgrows.keepsDirectories hresolve

/-- The host with the entry file of a new project. -/
def withEntry (s : State) (D : Location) (content : Content) : State :=
  (withDirectories s D).ensureAt (D ++ ["src", "main.py"]) (.plain content)

/-- The host with all parts of a project made, the entry file with this content. -/
def filled (s : State) (D : Location) (content : Content) : State :=
  (withEntry s D content).ensureAt (D ++ ["src", "vex", "__init__.py"])
    (.plain (.resource .deviceLibrary))

section Filling

variable (h : s.At directory D) (hfree : s.files.shapeAt (D ++ ["src"]) = none)

include h hfree

theorem grows_withDirectories_of_free : Grows s.files (withDirectories s D).files :=
  grows_withDirectories h.isDirectory (by simp [hfree])

/-- The directories of the scripts are there once they are made. -/
theorem isDirectory_withDirectories :
    (withDirectories s D).files.shapeAt (D ++ ["src"]) = some .directory ∧
      (withDirectories s D).files.shapeAt (D ++ ["src", "vex"]) = some .directory := by
  have hshape := shapeAt_withDirectories h.isDirectory (by simp [hfree])
  have hvex : s.files.shapeAt (D ++ ["src", "vex"]) = none := by
    rw [← Option.not_isSome_iff_eq_none, append_cons]
    intro hsome
    rw [Node.shapeAt_eq_directory_of_isSome hsome] at hfree
    cases hfree
  constructor
  · rw [hshape, hfree]
    simp
  · rw [hshape, hvex]
    simp

theorem grows_withEntry (content : Content) :
    Grows (withDirectories s D).files (withEntry s D content).files := by
  have hsources := (isDirectory_withDirectories h hfree).1
  exact State.grows_ensureAt rfl (.inr (by simpa using hsources))

theorem isDirectory_withEntry (content : Content) :
    (withEntry s D content).files.shapeAt (D ++ ["src", "vex"]) = some .directory :=
  grows_withEntry h hfree content _ _ (isDirectory_withDirectories h hfree).2

theorem grows_filled (content : Content) :
    Grows (withEntry s D content).files (filled s D content).files := by
  have hvex := isDirectory_withEntry h hfree content
  exact State.grows_ensureAt rfl (.inr (by simpa using hvex))

theorem hasParts_filled (content : Content) : HasParts (filled s D content).files D := by
  obtain ⟨hsources, hvex⟩ := isDirectory_withDirectories h hfree
  have hentry := isDirectory_withEntry h hfree content
  have hkept {location : Location} (hsome : ((withEntry s D content).files.shapeAt location).isSome) :
      ((filled s D content).files.shapeAt location).isSome := by
    obtain ⟨shape, hshape⟩ := Option.isSome_iff_exists.mp hsome
    rw [grows_filled h hfree content _ _ hshape]
    rfl
  have hmade {location : Location} (hsome : ((withDirectories s D).files.shapeAt location).isSome) :
      ((filled s D content).files.shapeAt location).isSome := by
    obtain ⟨shape, hshape⟩ := Option.isSome_iff_exists.mp hsome
    refine hkept ?_
    rw [grows_withEntry h hfree content _ _ hshape]
    rfl
  intro names hnames
  simp only [partNames, mem_cons, not_mem_nil, or_false] at hnames
  rcases hnames with rfl | rfl | rfl | rfl | rfl
  · exact hmade (by rw [hsources]; rfl)
  · refine hkept ?_
    rw [withEntry, State.shapeAt_ensureAt rfl (.inr (by simpa using hsources)), if_pos rfl]
    simp
  · exact hmade (by rw [hvex]; rfl)
  · rw [filled, State.shapeAt_ensureAt rfl (.inr (by simpa using hentry)), if_pos rfl]
    simp
  · refine hmade ?_
    rw [shapeAt_withDirectories h.isDirectory (by simp [hfree])]
    simp

/-- In a directory without sources all parts can be made. -/
theorem ends_fill (htemplate : HasFile s template content)
    (hlibrary : HasResource s .deviceLibrary) :
    Ends (makeParts directory (some template)) s Q ↔ Q () (filled s D content) := by
  have hgrows := grows_withDirectories_of_free h hfree
  have hentered := grows_withEntry h hfree content
  have hdirectory : (withDirectories s D).directory = s.directory := by simp [withDirectories]
  have hsurroundings : (withDirectories s D).surroundings = s.surroundings := by
    simp [withDirectories]
  have hsame : (withEntry s D content).surroundings = (withDirectories s D).surroundings := by
    simp [withEntry]
  have h1 : (withDirectories s D).At directory D := h.of_keeps hdirectory hgrows.keepsDirectories
  have h2 : (withEntry s D content).At directory D :=
    h1.of_keeps State.directory_ensureAt hentered.keepsDirectories
  obtain ⟨place, hplace, hcontent⟩ := htemplate.of_grows hdirectory hgrows
  obtain ⟨found, hfound, hscript⟩ :=
    (hlibrary.of_grows hsurroundings hdirectory hgrows).of_grows hsame State.directory_ensureAt hentered
  have hentry : (withDirectories s D).files.shapeAt (D ++ ["src", "main.py"].dropLast) = some .directory :=
    (isDirectory_withDirectories h hfree).1
  have hvex : (withEntry s D content).files.shapeAt (D ++ ["src", "vex", "__init__.py"].dropLast)
      = some .directory := isDirectory_withEntry h hfree content
  rw [hsame] at hfound
  refine (ends_makeDirectories h).trans ?_
  rw [and_iff_right (by simp [hfree])]
  simp only [libraryResource, Host.surroundings, ends_bind, ends_get, ends_pure, Option.getD_some]
  rw [entryIn_eq, ends_ensureCopy_of_file h1 (by decide) (by decide) hplace hcontent,
    and_iff_right (.inr hentry), libraryScriptIn_eq]
  exact (ends_ensureCopy_of_file h2 (by decide) (by decide) hfound hscript).trans
    (and_iff_right (.inr hvex))

end Filling

section Empty

variable (h : s.At directory D) (hempty : s.files.find? D = some (.dir []))

include hempty

theorem shapeAt_below_empty {names : List String} (hne : names ≠ []) :
    s.files.shapeAt (D ++ names) = none := by
  obtain ⟨name, rest, rfl⟩ := exists_cons_of_ne_nil hne
  rw [Node.shapeAt_append, hempty]
  rfl

theorem free_of_empty : s.files.shapeAt (fileIn D) ≠ some .directory := by
  rw [fileIn, shapeAt_below_empty hempty (cons_ne_nil _ _)]
  simp

include h

theorem shapeAt_started (text : String) (location : Location) :
    (s.write (fileIn D) (.text text)).files.shapeAt location
      = if location = fileIn D then some (.file (.text text)) else s.files.shapeAt location :=
  shapeAt_write_fileIn h (free_of_empty hempty) _ _

theorem grows_started (text : String) : Grows s.files (s.write (fileIn D) (.text text)).files := by
  intro location shape hshape
  rw [shapeAt_started h hempty, if_neg, hshape]
  rintro rfl
  rw [fileIn, shapeAt_below_empty hempty (cons_ne_nil _ _)] at hshape
  cases hshape

theorem free_started (text : String) :
    (s.write (fileIn D) (.text text)).files.shapeAt (D ++ ["src"]) = none := by
  rw [shapeAt_started h hempty, if_neg (by simp [fileIn, fileName]),
    shapeAt_below_empty hempty (cons_ne_nil _ _)]

/-- In an empty directory scaffolding ends well exactly if the settings can be written. -/
theorem ends_scaffold_new (htemplate : HasFile s template content)
    (hlibrary : HasResource s .deviceLibrary) {name slot : Setting} :
    Ends (scaffold directory name slot (some template)) s Q
      ↔ ∃ nameText slotText, (name.orDefault defaultName).plain = .ok nameText
        ∧ (slot.orDefault defaultSlot).plain = .ok slotText
        ∧ Q () (filled (s.write (fileIn D) (.text (projectText nameText slotText))) D content) := by
  have hfree := free_of_empty hempty
  have hgrows (text : String) := grows_started h hempty text
  have hfill (text : String) := ends_fill (Q := Q) (At_write_fileIn h hfree (.text text))
    (free_started h hempty text) (htemplate.of_grows rfl (hgrows text))
    (hlibrary.of_grows rfl rfl (hgrows text))
  simp only [ends_scaffold_iff h hfree, hfill]

end Empty

/-- A setting of a document is found under its key. -/
theorem textAt_of_settings {table first second text : String} {value : Value}
    (h : settings config table first second = some (some (.text text, value))) :
    TextAt text [table, first] (.table config) := by
  unfold settings at h
  split at h
  · cases h
  · rename_i values hvalues
    obtain ⟨entries, hentries, h⟩ := Option.map_eq_some_iff.mp h
    obtain ⟨found, hfound, h⟩ := Option.bind_eq_some_iff.mp h
    obtain ⟨other, -, h⟩ := Option.map_eq_some_iff.mp h
    obtain rfl := (Prod.mk.inj h).1
    have hvalues := (Option.filter_eq_some_iff.mp hvalues).1
    cases values with
    | table inner =>
      obtain rfl := Option.some.inj hentries
      exact ⟨_, _, rfl, hvalues, _, _, rfl, (Option.filter_eq_some_iff.mp hfound).1, rfl⟩
    | _ => cases hentries

theorem settings_new {name : String} {slot : Int} (hname : name ≠ "") (hslot : slot ≠ 0) :
    settings [("project", .table [("name", .text name), ("slot", .integer slot)])]
      "project" "name" "slot" = some (some (.text name, .integer slot)) := by
  have htext : (Value.text name).isGiven = true := by simpa [Value.isGiven] using hname
  have hinteger : (Value.integer slot).isGiven = true := by simpa [Value.isGiven] using hslot
  have hlookup {name : String} {value : Value} {rest : Entries} :
      List.lookup name ((name, value) :: rest) = some value := lookup_cons_self
  have hother {a b : Value} : List.lookup "slot" [("name", a), ("slot", b)] = some b := rfl
  have htable {first : String × Value} {rest : Entries} :
      (Value.table (first :: rest)).isGiven = true := rfl
  simp only [settings, hlookup, hother, Option.filter_some, htable, ↓reduceIte, Value.entries?,
    Option.map_some, htext, hinteger, Option.bind_some]

section Opened

variable {name : String} {slot : Int} (h : s.At directory D)
  (hempty : s.files.find? D = some (.dir [])) (htemplate : HasFile s template content)
  (hlibrary : HasResource s .deviceLibrary) (hname : name ≠ "") (hslot : slot ≠ 0)

include h hempty htemplate hlibrary hname hslot

/-- A project that was scaffolded in an empty directory is opened as its new file says. -/
theorem ends_openAt_scaffold {Q : Project → State → Prop} :
    Ends (do
        scaffold directory (some (.text name)) (some (.integer slot)) (some template)
        openAt directory) s Q
      ↔ ∃ slotText config, Value.integerText slot = .ok slotText
        ∧ read (projectText name slotText) = .ok config
        ∧ Ends (ofConfig directory config)
            (filled (s.write (fileIn D) (.text (projectText name slotText))) D content) Q := by
  have hopen (slotText : String) := by
    have hat := At_write_fileIn h (free_of_empty hempty) (.text (projectText name slotText))
    have hfree := free_started h hempty (projectText name slotText)
    have hgrows : Grows (s.write (fileIn D) (.text (projectText name slotText))).files
        (filled (s.write (fileIn D) (.text (projectText name slotText))) D content).files :=
      fun _ _ hshape =>
      grows_filled hat hfree content _ _ (grows_withEntry hat hfree content _ _
        (grows_withDirectories_of_free hat hfree _ _ hshape))
    have hfile := shapeAt_started h hempty (projectText name slotText) (fileIn D)
    rw [if_pos rfl] at hfile
    exact ends_openAt_of_hasParts (Q := Q) (hat.of_keeps (by simp [filled, withEntry, withDirectories])
      hgrows.keepsDirectories) (hgrows _ _ hfile) (hasParts_filled hat hfree content)
  have htext : (Value.text name).isGiven = true := by simpa [Value.isGiven] using hname
  have hinteger : (Value.integer slot).isGiven = true := by simpa [Value.isGiven] using hslot
  rw [ends_bind, ends_scaffold_new h hempty htemplate hlibrary, orDefault_of_isGiven htext,
    orDefault_of_isGiven hinteger]
  constructor
  · rintro ⟨nameText, slotText, hnameText, hslotText, hends⟩
    obtain rfl : name = nameText := Except.ok.inj hnameText
    obtain ⟨text, config, hcontent, hread, hconfig⟩ := (hopen slotText).mp hends
    obtain rfl : projectText name slotText = text := Option.some.inj hcontent
    exact ⟨slotText, config, hslotText, hread, hconfig⟩
  · rintro ⟨slotText, config, hslotText, hread, hconfig⟩
    exact ⟨name, slotText, rfl, hslotText, (hopen slotText).mpr ⟨_, config, rfl, hread, hconfig⟩⟩

/-- Opening a project that was scaffolded in an empty directory gives back its name and its slot
exactly if every character of the name stands for itself and the slot has a decimal text. -/
theorem openAt_scaffold_iff :
    Ends (do
        scaffold directory (some (.text name)) (some (.integer slot)) (some template)
        openAt directory) s
        (fun p _ => p = ⟨directory, some (.text name), some (.integer slot), none⟩)
      ↔ name.toList.all isPlain = true
        ∧ Decimal.Binary64.digitCount slot.natAbs ≤ Script.maxDecimalDigits := by
  have hdigits : Decimal.Binary64.digitCount slot.natAbs ≤ Script.maxDecimalDigits
      ↔ ∃ slotText, Value.integerText slot = .ok slotText := by
    unfold Value.integerText
    split
    · simpa using ‹_›
    · simpa using Nat.le_of_not_lt ‹_›
  rw [ends_openAt_scaffold h hempty htemplate hlibrary hname hslot, hdigits]
  simp only [ends_ofConfig]
  constructor
  · rintro ⟨slotText, config, hslotText, hread, _, _, _, hsettings, -, heq⟩
    obtain ⟨-, hfirst, -, -⟩ := Project.mk.inj heq
    obtain rfl := Option.some.inj hfirst
    exact ⟨isPlain_of_read hslotText hread (textAt_of_settings hsettings), slotText, hslotText⟩
  · rintro ⟨hplain, slotText, hslotText⟩
    refine ⟨slotText, _, hslotText, read_projectText hslotText hplain, .text name, .integer slot,
      none, settings_new hname hslot, rfl, rfl⟩

end Opened

/-- A host whose current directory is empty. -/
def emptyHost : State :=
  quietHost (.dir [
    ("resources", .dir [("start.py", .plain (.text "speed = 1\n")),
      ("vex.py", .plain (.resource .deviceLibrary))]),
    ("work", .dir [])]) ["work"]

theorem hasFile_emptyHost :
    HasFile emptyHost (.ofString "/resources/start.py") (.text "speed = 1\n")
      ∧ HasResource emptyHost .deviceLibrary :=
  ⟨⟨["resources", "start.py"], rfl, rfl⟩, ⟨["resources", "vex.py"], rfl, rfl⟩⟩

theorem openAt_scaffold_rover :
    emptyHost.files.find? ["work"] = some (.dir [])
      ∧ Ends (do
          scaffold .here (some (.text "Rover 2")) (some (.integer 3))
            (some (.ofString "/resources/start.py"))
          openAt .here) emptyHost
        (fun p _ => p = ⟨.here, some (.text "Rover 2"), some (.integer 3), none⟩) := by
  obtain ⟨htemplate, hlibrary⟩ := hasFile_emptyHost
  refine ⟨rfl, (openAt_scaffold_iff ⟨rfl, rfl⟩ rfl htemplate hlibrary (by decide) (by decide)).mpr ?_⟩
  exact ⟨by decide, by decide⟩

/-- A name with quotation marks makes a project file that cannot be read. -/
theorem not_openAt_scaffold_quoted :
    emptyHost.files.find? ["work"] = some (.dir [])
      ∧ ¬ Ends (do
          scaffold .here (some (.text "Robot \"Arm\"")) (some (.integer 1))
            (some (.ofString "/resources/start.py"))
          openAt .here) emptyHost
        (fun p _ => p = ⟨.here, some (.text "Robot \"Arm\""), some (.integer 1), none⟩) := by
  obtain ⟨htemplate, hlibrary⟩ := hasFile_emptyHost
  have hread : (read (projectText "Robot \"Arm\"" "1")).toOption = none := by decide +kernel
  refine ⟨rfl, fun hends => ?_⟩
  obtain ⟨slotText, config, hslotText, hconfig, -⟩ :=
    (ends_openAt_scaffold ⟨rfl, rfl⟩ rfl htemplate hlibrary (by decide) (by decide)).mp hends
  obtain rfl : "1" = slotText := Except.ok.inj hslotText
  rw [hconfig] at hread
  cases hread

end RobotKit.Project
