import RobotKit.Proofs.Numerals
import RobotKit.Proofs.Table

/-!
# Values in one piece read back

A value that is written in one piece is read back as it is, with its lists and tables. That a text
reads back as a value (`ReadsBack`) is shown for each kind of value from its parts; the fuel of the
reader only has to be as large as the text.
-/

namespace RobotKit.Config

open List RobotKit.Decimal Reader

variable {value : Value} {text : List Char} {parts : List (String × Value × List Char)} {c : Char}
  {texts : List (List Char)} {lines : List String} {items : List Value} {isNegative : Bool}
  {entries : Entries} {chars : List Char} {t : InlineTable}

/-! ## Values that reading can give -/

mutual

/-- A value that reading can give: moments are within their bounds, only one pattern stands for what
is not a number, and no table has a name twice. -/
def Value.IsReadable : Value → Prop
  | .text _ => True
  | .integer _ => True
  | .decimal x => x.isNaN = true → x = ⟨0x7FF8000000000000⟩
  | .flag _ => True
  | .moment m => m.IsReadable
  | .list items => itemsReadable items
  | .table entries => (entries.map (·.1)).Nodup ∧ entriesReadable entries

/-- All items of a list are values that reading can give. -/
def itemsReadable : List Value → Prop
  | [] => True
  | value :: rest => value.IsReadable ∧ itemsReadable rest

/-- All values of a table are values that reading can give. -/
def entriesReadable : List (String × Value) → Prop
  | [] => True
  | (_, value) :: rest => value.IsReadable ∧ entriesReadable rest

end

theorem entriesReadable_iff :
    entriesReadable entries ↔ ∀ entry ∈ entries, entry.2.IsReadable := by
  induction entries with
  | nil => exact ⟨fun _ _ hentry => absurd hentry not_mem_nil, fun _ => trivial⟩
  | cons entry entries ih =>
    obtain ⟨name, value⟩ := entry
    rw [entriesReadable, ih, forall_mem_cons]

theorem itemsReadable_iff : itemsReadable items ↔ ∀ item ∈ items, item.IsReadable := by
  induction items with
  | nil => exact ⟨fun _ _ hitem => absurd hitem not_mem_nil, fun _ => trivial⟩
  | cons item items ih => rw [itemsReadable, ih, forall_mem_cons]

theorem isReadable_table_iff : (Value.table entries).IsReadable ↔
    (entries.map (·.1)).Nodup ∧ ∀ entry ∈ entries, entry.2.IsReadable := by
  rw [Value.IsReadable, entriesReadable_iff]

theorem isReadable_list_iff :
    (Value.list items).IsReadable ↔ ∀ item ∈ items, item.IsReadable := by
  rw [Value.IsReadable, itemsReadable_iff]

/-- Does a value in one piece start with this character? -/
def isValueStart (c : Char) : Bool := c.isDigit || "\"[\x7btfin-".toList.contains c

/-- The text reads back as the value, whatever follows a value. -/
structure ReadsBack (value : Value) (text : List Char) : Prop where
  start : ∃ c tail, text = c :: tail ∧ isValueStart c = true
  noReturn : '\r' ∉ text
  run : ∀ {fuel : Nat} {rest : List Char}, text.length ≤ fuel → EndsValue rest →
    (valueOf (fuel + 1)).run (text ++ rest) = .ok (value, rest)

theorem isValueStart_of_isDigit (h : c.isDigit = true) : isValueStart c = true := by
  rw [isValueStart, h, Bool.true_or]

/-- A character at the start of a value is none of the marks between values. -/
theorem ne_of_isValueStart (h : isValueStart c = true) {mark : Char}
    (hmark : isValueStart mark = false) : c ≠ mark := by
  rintro rfl
  rw [h] at hmark
  exact absurd hmark (by decide)

/-! ## Plain values -/

theorem return_notMem_quotedCharacter (c : Char) : '\r' ∉ quotedCharacter c := by
  intro h
  rcases quotedCharacter_cases c with ⟨x, hx, hlookup⟩ | ⟨-, hx⟩ | ⟨hx, -, -, hcontrol⟩
  · rw [hx, mem_cons, mem_singleton] at h
    rcases h with h | rfl
    · exact absurd h (by decide)
    · exact ne_of_lookup_eq_none hlookup rfl rfl
  · rw [hx, mem_cons, mem_cons] at h
    rcases h with h | h | h
    · exact absurd h (by decide)
    · exact absurd h (by decide)
    · obtain ⟨digit, hdigit, heq⟩ := Text.exists_hexDigit_of_mem h
      have hall : ∀ digit < 16, '\r' ≠ Text.hexDigit digit := by decide
      exact hall digit hdigit heq
  · rw [hx, mem_singleton] at h
    rw [← h] at hcontrol
    exact absurd hcontrol (by decide)

theorem readsBack_text (text : String) : ReadsBack (.text text) (quoted text).toList where
  start := ⟨_, _, toList_quoted text, rfl⟩
  noReturn := by
    rw [toList_quoted, mem_cons, mem_append, mem_flatMap]
    rintro (h | ⟨c, -, hc⟩ | h)
    · exact absurd h (by decide)
    · exact return_notMem_quotedCharacter c hc
    · exact absurd h (by decide)
  run := by
    intro fuel rest _ hrest
    have hquote : rest.head? ≠ some '"' := fun h =>
      hrest.head (P := (· ≠ '"')) (by decide) _ h rfl
    have hread := run_textValue text hquote
    rw [toList_quoted, cons_append] at hread ⊢
    rw [valueOf, run_bind_of_ok run_get]
    refine (run_bind_of_ok hread).trans ?_
    rw [String.ofList_toList]
    rfl

theorem readsBack_flag (value : Bool) :
    ReadsBack (.flag value) (if value then "true" else "false").toList := by
  cases value with
  | true => exact ⟨⟨'t', _, rfl, rfl⟩, by decide, fun _ _ => rfl⟩
  | false => exact ⟨⟨'f', _, rfl, rfl⟩, by decide, fun _ _ => rfl⟩

/-- What the reader of plain values takes is a value. -/
theorem run_valueOf_plain {tail rest : List Char} (hc : c.isDigit = true ∨ c ∈ ['-', 'i', 'n'])
    (h : plainValue.run (c :: tail ++ rest) = .ok (value, rest)) (fuel : Nat) :
    (valueOf (fuel + 1)).run (c :: tail ++ rest) = .ok (value, rest) := by
  have hne : ∀ mark, mark.isDigit = false → mark ∉ ['-', 'i', 'n'] → c ≠ mark := by
    rintro mark hdigit hmark rfl
    rcases hc with hc | hc
    · rw [hdigit] at hc
      exact Bool.false_ne_true hc
    · exact hmark hc
  have htrue : ¬ "true".toList <+: c :: tail ++ rest :=
    fun hp => hne 't' rfl (by decide) (cons_prefix_cons.mp hp).1.symm
  have hfalse : ¬ "false".toList <+: c :: tail ++ rest :=
    fun hp => hne 'f' rfl (by decide) (cons_prefix_cons.mp hp).1.symm
  rw [valueOf, run_bind_of_ok run_get]
  split
  case h_1 heq => exact absurd (List.cons.inj heq).1 (hne '"' rfl (by decide))
  case h_2 heq => exact absurd (List.cons.inj heq).1 (hne '\'' rfl (by decide))
  case h_3 heq => exact absurd (List.cons.inj heq).1 (hne '[' rfl (by decide))
  case h_4 heq => exact absurd (List.cons.inj heq).1 (hne '\x7b' rfl (by decide))
  case h_5 =>
    rw [run_bind_of_ok (run_takeText_of_not htrue), if_neg Bool.false_ne_true,
      run_bind_of_ok (run_takeText_of_not hfalse), if_neg Bool.false_ne_true, h]

theorem readsBack_plain
    (hstart : ∃ c tail, text = c :: tail ∧ (c.isDigit = true ∨ c ∈ ['-', 'i', 'n']))
    (hreturn : '\r' ∉ text)
    (hrun : ∀ {rest}, EndsValue rest → plainValue.run (text ++ rest) = .ok (value, rest)) :
    ReadsBack value text := by
  obtain ⟨c, tail, rfl, hc⟩ := hstart
  refine ⟨⟨c, tail, rfl, ?_⟩, hreturn, fun _ hrest => run_valueOf_plain hc (hrun hrest) _⟩
  rcases hc with hc | hc
  · exact isValueStart_of_isDigit hc
  · have hall : ['-', 'i', 'n'].all isValueStart = true := by decide
    exact all_eq_true.mp hall c hc

/-- A sign and a number start with a sign or a digit. -/
theorem head_signed {d : Char} {tail : List Char} (hchars : chars = d :: tail)
    (hd : d.isDigit = true) :
    ∃ c tail, signChars isNegative ++ chars = c :: tail ∧
      (c.isDigit = true ∨ c ∈ ['-', 'i', 'n']) := by
  cases isNegative with
  | true => exact ⟨'-', chars, rfl, .inr (by decide)⟩
  | false => exact ⟨d, tail, hchars, .inl hd⟩

theorem return_notMem_signed (h : '\r' ∉ chars) :
    '\r' ∉ signChars isNegative ++ chars := by
  rw [mem_append]
  rintro (hsign | hchars)
  · cases isNegative <;> exact absurd hsign (by decide)
  · exact h hchars

theorem readsBack_integer {n : Int} {text : String} (h : Value.integerText n = .ok text) :
    ReadsBack (.integer n) text.toList := by
  have htext : text.toList = signChars (decide (n < 0)) ++ Nat.toDigits 10 n.natAbs := by
    rw [← toList_toString_int]
    rw [Value.integerText] at h
    split at h
    · exact absurd h (by simp)
    · rw [← Except.ok.inj h]
  obtain ⟨c, tail, hdigits⟩ := exists_cons_of_ne_nil
    (ne_nil_of_length_pos (Nat.length_toDigits_pos (b := 10) (n := n.natAbs)))
  have hc : c.isDigit = true :=
    isDigits_toDigits n.natAbs c (by rw [hdigits]; exact mem_cons_self)
  refine readsBack_plain ?_ ?_ (run_plainValue_integer h)
  · rw [htext]
    exact head_signed hdigits hc
  · rw [htext]
    exact return_notMem_signed fun hmem => absurd (isDigits_toDigits _ _ hmem) (by decide)

theorem readsBack_decimal {x : Binary64} (h : x.isNaN = true → x = ⟨0x7FF8000000000000⟩) :
    ReadsBack (.decimal x) (plainStyle.write x).toList := by
  refine readsBack_plain ?_ ?_ (run_plainValue_decimal h)
  · rcases write_cases x with ⟨-, htext⟩ | ⟨-, htext⟩ | ⟨-, htext⟩ | ⟨n, hregular, -, htext, -⟩
    · exact ⟨'n', _, by rw [htext]; rfl, .inr (by decide)⟩
    · exact ⟨'i', _, by rw [htext]; rfl, .inr (by decide)⟩
    · exact ⟨'-', _, by rw [htext]; rfl, .inr (by decide)⟩
    · obtain ⟨c, tail, hwhole⟩ := exists_cons_of_ne_nil hregular.whole_ne
      rw [htext]
      refine head_signed (d := c) (by rw [Numeral.chars, hwhole, cons_append])
        (hregular.whole c (by rw [hwhole]; exact mem_cons_self))
  · rcases write_cases x with ⟨-, htext⟩ | ⟨-, htext⟩ | ⟨-, htext⟩ | ⟨n, hregular, -, htext, -⟩
    · rw [htext]; decide
    · rw [htext]; decide
    · rw [htext]; decide
    · rw [htext]
      refine return_notMem_signed fun hmem => ?_
      rcases hregular.mem_chars hmem with h | h
      · exact absurd h (by decide)
      · exact absurd h (by decide)

theorem readsBack_moment {m : Moment} (h : m.IsReadable) : ReadsBack (.moment m) m.text.toList := by
  obtain ⟨c, tail, htext, hc⟩ := head_momentText m
  refine readsBack_plain ⟨c, tail, htext, .inl hc⟩ (fun hmem => ?_) (run_plainValue_moment h)
  rcases mem_momentText hmem with h | h
  · exact absurd h (by decide)
  · exact absurd h (by decide)

/-! ## Lists -/

theorem run_comment_of_not {s : List Char} (h : s.head? ≠ some '#') : comment.run s = .ok ((), s) := by
  rw [comment, run_bind_of_ok run_get]
  split
  · exact absurd rfl h
  · rfl

/-- Blanks and line ends are skipped up to what is neither them nor a comment. -/
theorem run_gaps (fuel : Nat) {s : List Char} (h : (s.dropWhile isGap).head? ≠ some '#') :
    (gaps (fuel + 1)).run s = .ok ((), s.dropWhile isGap) := by
  induction fuel generalizing s with
  | zero =>
    rw [gaps, run_bind_of_ok run_get]
    dsimp only
    rw [run_bind_of_ok (run_skip _), run_bind_of_ok (run_comment_of_not h), run_bind_of_ok run_get]
    split <;> rfl
  | succ fuel ih =>
    have htwice : (s.dropWhile isGap).dropWhile isGap = s.dropWhile isGap := by
      have hhead := head?_dropWhile_not isGap s
      cases hs : s.dropWhile isGap with
      | nil => rfl
      | cons c tail =>
        rw [hs] at hhead
        exact dropWhile_cons_of_neg (Bool.eq_false_iff.mp hhead)
    rw [gaps, run_bind_of_ok run_get]
    dsimp only
    rw [run_bind_of_ok (run_skip _), run_bind_of_ok (run_comment_of_not h), run_bind_of_ok run_get]
    split
    · rw [ih (by rw [htwice]; exact h), htwice]
    · rfl

theorem dropWhile_blanks (n : Nat) (s : List Char) :
    (List.replicate n ' ' ++ s).dropWhile isGap = s.dropWhile isGap :=
  dropWhile_append_of_pos fun c hc => by rw [eq_of_mem_replicate hc]; rfl

/-- The line of an item of a list. -/
def itemLine (level : Nat) (text : List Char) : List Char :=
  List.replicate (4 * (level + 1)) ' ' ++ (text ++ [',', '\n'])

/-- The end of a list. -/
def listEnd (level : Nat) : List Char := List.replicate (4 * level) ' ' ++ [']']

theorem dropWhile_listEnd (level : Nat) (rest : List Char) :
    (listEnd level ++ rest).dropWhile isGap = ']' :: rest := by
  rw [listEnd, append_assoc, dropWhile_blanks]
  rfl

theorem ReadsBack.dropWhile_itemLine (h : ReadsBack value text) (level : Nat) (rest : List Char) :
    (itemLine level text ++ rest).dropWhile isGap = text ++ (',' :: '\n' :: rest) := by
  obtain ⟨c, tail, rfl, hc⟩ := h.start
  have hgap : ¬ isGap c = true := by
    simp only [isGap, isLineBlank, Bool.or_eq_true, decide_eq_true_eq, not_or]
    exact ⟨⟨ne_of_isValueStart hc rfl, ne_of_isValueStart hc rfl⟩, ne_of_isValueStart hc rfl⟩
  rw [itemLine, append_assoc, dropWhile_blanks, append_assoc, cons_append,
    dropWhile_cons_of_neg hgap]
  rfl

theorem ReadsBack.head_ne (h : ReadsBack value text) (rest : List Char) {mark : Char}
    (hmark : isValueStart mark = false) :
    (text ++ rest).head? ≠ some mark := by
  obtain ⟨c, tail, rfl, hc⟩ := h.start
  rw [cons_append, head?_cons, ne_eq, Option.some_inj]
  exact ne_of_isValueStart hc hmark

/-- Behind the gaps before an item or the end of a list stands no mark that starts no value, apart
from the bracket of the end. -/
theorem head_items {parts : List (Value × List Char)} (h : ∀ p ∈ parts, ReadsBack p.1 p.2)
    {mark : Char} (hmark : isValueStart mark = false) (hend : parts = [] → mark ≠ ']')
    (level : Nat) (rest : List Char) :
    (((parts.flatMap fun p => itemLine level p.2) ++ (listEnd level ++ rest)).dropWhile isGap).head?
      ≠ some mark := by
  cases parts with
  | nil =>
    rw [flatMap_nil, nil_append, dropWhile_listEnd]
    simpa using (hend rfl).symm
  | cons p parts =>
    have hp := h p mem_cons_self
    rw [flatMap_cons, append_assoc, hp.dropWhile_itemLine]
    exact hp.head_ne _ hmark

/-- The items of a list are read back one after another, up to its end. -/
theorem run_listRest {parts : List (Value × List Char)} (h : ∀ p ∈ parts, ReadsBack p.1 p.2)
    (hne : parts ≠ []) (level : Nat) (rest : List Char) : ∀ (fuel : Nat) (taken : List Value),
    (parts.flatMap fun p => itemLine level p.2).length ≤ fuel →
    (listRest fuel taken).run (((parts.flatMap fun p => itemLine level p.2) ++
      (listEnd level ++ rest)).dropWhile isGap) = .ok (.list (taken ++ parts.map (·.1)), rest) := by
  induction parts with
  | nil => exact absurd rfl hne
  | cons p parts ih =>
    intro fuel taken hfuel
    have hp := h p mem_cons_self
    have hmore : ∀ q ∈ parts, ReadsBack q.1 q.2 := fun q hq => h q (mem_cons_of_mem _ hq)
    have hlength : (itemLine level p.2).length = 4 * (level + 1) + (p.2.length + 2) := by
      simp [itemLine]
    rw [flatMap_cons, length_append, hlength] at hfuel
    obtain ⟨fuel, rfl⟩ : ∃ k, fuel = k + 2 := ⟨fuel - 2, by omega⟩
    have hnext := head_items hmore (show isValueStart '#' = false from rfl) (by simp) level rest
    generalize htail : (parts.flatMap fun p => itemLine level p.2) ++ (listEnd level ++ rest) = tail
      at ih hnext
    have hcomma : (',' :: '\n' :: tail).dropWhile isGap = ',' :: '\n' :: tail := rfl
    have hline : ('\n' :: tail).dropWhile isGap = tail.dropWhile isGap := rfl
    rw [flatMap_cons, append_assoc, htail, hp.dropWhile_itemLine, listRest,
      run_bind_of_ok (hp.run (by omega) (.comma _))]
    dsimp only
    rw [run_bind_of_ok run_get, run_bind_of_ok (run_gaps _ (by simp [hcomma])), hcomma,
      run_bind_of_ok (run_takeText_of_head_ne (c := ']') rfl (by simp)), if_neg Bool.false_ne_true,
      run_bind_of_ok (run_takeText_cons rfl _), Bool.not_true, if_neg Bool.false_ne_true,
      run_bind_of_ok run_get, run_bind_of_ok (run_gaps _ (by rw [hline]; exact hnext)), hline]
    cases parts with
    | nil =>
      rw [← htail, flatMap_nil, nil_append, dropWhile_listEnd,
        run_bind_of_ok (run_takeText_cons rfl _), if_pos rfl]
      rfl
    | cons q parts =>
      have hopen : (tail.dropWhile isGap).head? ≠ some ']' := by
        rw [← htail]
        exact head_items hmore rfl nofun level rest
      rw [run_bind_of_ok (run_takeText_of_head_ne rfl hopen), if_neg Bool.false_ne_true,
        ih hmore (cons_ne_nil _ _) (fuel + 1) (taken ++ [p.1]) (by omega), append_assoc]
      rfl

theorem readsBack_emptyList : ReadsBack (.list []) "[]".toList where
  start := ⟨'[', _, rfl, rfl⟩
  noReturn := by decide
  run := by
    intro fuel rest _ _
    have hopen : (']' :: rest).dropWhile isGap = ']' :: rest := rfl
    change (valueOf (fuel + 1)).run ('[' :: ']' :: rest) = _
    rw [valueOf, run_bind_of_ok run_get]
    refine (run_bind_of_ok run_set).trans ?_
    rw [run_bind_of_ok (run_gaps _ (by simp [hopen])), hopen, run_bind_of_ok (run_takeText_cons rfl _),
      if_pos rfl]
    rfl

/-- The characters of a list. -/
def listChars (level : Nat) (texts : List (List Char)) : List Char :=
  '[' :: '\n' :: (texts.flatMap (itemLine level) ++ listEnd level)

theorem readsBack_list {parts : List (Value × List Char)} (h : ∀ p ∈ parts, ReadsBack p.1 p.2)
    (hne : parts ≠ []) (level : Nat) :
    ReadsBack (.list (parts.map (·.1))) (listChars level (parts.map (·.2))) where
  start := ⟨'[', _, rfl, rfl⟩
  noReturn := by
    simp only [listChars, listEnd, mem_cons, mem_append, mem_flatMap, mem_map,
      mem_replicate, itemLine, not_mem_nil, or_false, not_or, not_exists, not_and]
    refine ⟨by decide, by decide, ?_, fun _ => by decide, by decide⟩
    rintro text ⟨p, hp, rfl⟩
    exact ⟨fun _ => by decide, (h p hp).noReturn, by decide, by decide⟩
  run := by
    intro fuel rest hfuel _
    have htexts : (parts.map (·.2)).flatMap (itemLine level) =
        parts.flatMap fun p => itemLine level p.2 := flatMap_map _ _ _
    rw [listChars, htexts] at hfuel ⊢
    rw [cons_append, cons_append, append_assoc]
    have hmark {mark : Char} (hmark : isValueStart mark = false) :=
      head_items h hmark (fun hnil => absurd hnil hne) level rest
    generalize hbody : (parts.flatMap fun p => itemLine level p.2) ++ (listEnd level ++ rest) = body
      at hmark
    have hline : ('\n' :: body).dropWhile isGap = body.dropWhile isGap := rfl
    rw [valueOf, run_bind_of_ok run_get]
    refine (run_bind_of_ok run_set).trans ?_
    rw [run_bind_of_ok (run_gaps _ (by rw [hline]; exact hmark rfl)), hline,
      run_bind_of_ok (run_takeText_of_head_ne rfl (hmark rfl)), if_neg Bool.false_ne_true,
      ← hbody, run_listRest h hne level rest fuel []]
    · rfl
    · simp only [length_cons, length_append] at hfuel
      omega

/-! ## Tables -/

/-- A name and a value of a table in one piece. -/
def entryChars (name : String) (text : List Char) : List Char :=
  (keyText name).toList ++ (' ' :: '=' :: ' ' :: text)

/-- The marks of a table in one piece are names of its entries. -/
def InlineTable.Marked (t : InlineTable) : Prop := ∀ key ∈ t.frozen, ∃ e ∈ t.entries, key = [e.1]

/-- A new name is added to a table in one piece. -/
theorem InlineTable.set_new (h : t.Marked) {name : String} (hname : name ∉ t.entries.map (·.1))
    (value : Value) :
    ∃ t', t.set [name] value = .ok t' ∧ t'.entries = t.entries ++ [(name, value)] ∧ t'.Marked := by
  have hfrozen : Document.isFrozen t.frozen [name] = false := by
    rw [Document.isFrozen, any_eq_false]
    intro key hkey hp
    obtain ⟨e, he, rfl⟩ := h key hkey
    rw [ isPrefixOf_iff_prefix, cons_prefix_cons] at hp
    exact hname (mem_map.mpr ⟨e, he, hp.1⟩)
  have hfree : t.entries.lookup name = none := Table.lookup_eq_none_iff_notMem.mpr hname
  refine ⟨⟨t.entries ++ [(name, value)], if value.isCompound then [name] :: t.frozen else t.frozen⟩,
    ?_, rfl, ?_⟩
  · rw [InlineTable.set, if_neg (by rw [hfrozen]; exact Bool.false_ne_true)]
    simp only [dropLast_singleton, changeAt, addEntry, getLast?_singleton, Option.getD_some,
      hfree, Option.isSome_none, if_neg Bool.false_ne_true]
    rfl
  · intro key hkey
    have hcases : key = [name] ∨ key ∈ t.frozen := by
      dsimp only at hkey
      split at hkey
      · exact mem_cons.mp hkey
      · exact .inr hkey
    rcases hcases with rfl | hkey
    · exact ⟨(name, value), mem_append_right _ mem_cons_self, rfl⟩
    · obtain ⟨e, he, rfl⟩ := h key hkey
      exact ⟨e, mem_append_left _ he, rfl⟩

theorem dropWhile_blank (h : isLineBlank c = false) (rest : List Char) :
    (' ' :: c :: rest).dropWhile isLineBlank = c :: rest := by
  rw [dropWhile_cons_of_pos rfl, dropWhile_cons_of_neg (by rw [h]; exact Bool.false_ne_true)]

theorem ReadsBack.dropWhile_isLineBlank (h : ReadsBack value text) (rest : List Char) :
    (' ' :: (text ++ rest)).dropWhile isLineBlank = text ++ rest := by
  obtain ⟨c, tail, rfl, hc⟩ := h.start
  refine dropWhile_blank ?_ _
  rw [isLineBlank, Bool.or_eq_false_iff, decide_eq_false_iff_not, decide_eq_false_iff_not]
  exact ⟨ne_of_isValueStart hc rfl, ne_of_isValueStart hc rfl⟩

theorem run_keyOf_entry (name : String) (rest : List Char) :
    keyOf.run ((keyText name).toList ++ (' ' :: '=' :: rest)) = .ok ([name], '=' :: rest) := by
  have hblank : (' ' :: '=' :: rest).dropWhile isLineBlank = '=' :: rest := dropWhile_blank rfl rest
  have hend : EndsKey (' ' :: '=' :: rest) := fun c hc => by rw [← Option.mem_some_iff.mp hc]; rfl
  have hrun := run_keyOf (cons_ne_nil name []) hend (by simp [hblank])
  rwa [keyChars_singleton, hblank] at hrun

/-- The reader behind an entry of a table in one piece. -/
def afterEntry (fuel : Nat) (table : InlineTable) : Reader Value := do
  skip isLineBlank
  if ← takeText "\x7d" then return .table table.entries
  if !(← takeText ",") then refuse .unclosedTable
  skip isLineBlank
  tableRest fuel table

theorem dropWhile_entryChars (name : String) (text rest : List Char) :
    (' ' :: (entryChars name text ++ rest)).dropWhile isLineBlank = entryChars name text ++ rest := by
  rw [dropWhile_cons_of_pos rfl, entryChars, append_assoc, dropWhile_keyText]

/-- One entry with a new name is read back. -/
theorem run_tableRest_entry {name : String} (h : ReadsBack value text) (hmarked : t.Marked)
    {others : List String} (hnodup : (t.entries.map (·.1) ++ name :: others).Nodup) {fuel : Nat}
    (hfuel : text.length ≤ fuel)
    {rest : List Char} (hrest : EndsValue rest) :
    ∃ t' : InlineTable, t'.entries = t.entries ++ [(name, value)] ∧ t'.Marked ∧
      (tableRest (fuel + 2) t).run (entryChars name text ++ rest) =
        (afterEntry (fuel + 1) t').run rest := by
  have hname : name ∉ t.entries.map (·.1) := fun hmem =>
    (nodup_append.mp hnodup).2.2 _ hmem _ mem_cons_self rfl
  obtain ⟨t', hset, hentries, hmarked'⟩ := InlineTable.set_new hmarked hname value
  refine ⟨t', hentries, hmarked', ?_⟩
  rw [entryChars, append_assoc, cons_append, cons_append, cons_append, tableRest,
    run_bind_of_ok (run_keyOf_entry name _), run_bind_of_ok (run_takeText_cons rfl _), Bool.not_true,
    if_neg Bool.false_ne_true, run_bind_of_ok (run_skip _), h.dropWhile_isLineBlank,
    run_bind_of_ok (h.run hfuel hrest), hset]
  rfl

theorem length_entryChars (name : String) (text : List Char) :
    (entryChars name text).length = (keyText name).toList.length + (text.length + 3) := by
  rw [entryChars, length_append]
  rfl

/-- The entries of a table in one piece are read back one after another, up to its end. -/
theorem run_tableRest (h : ∀ p ∈ parts, ReadsBack p.2.1 p.2.2) (rest : List Char) :
    ∀ (first : String × Value × List Char) (fuel : Nat) (t : InlineTable),
    ReadsBack first.2.1 first.2.2 → t.Marked →
    (t.entries.map (·.1) ++ (first :: parts).map (·.1)).Nodup →
    (entryChars first.1 first.2.2 ++
      parts.flatMap fun p => ',' :: ' ' :: entryChars p.1 p.2.2).length ≤ fuel →
    (tableRest fuel t).run (entryChars first.1 first.2.2 ++
        ((parts.flatMap fun p => ',' :: ' ' :: entryChars p.1 p.2.2) ++ (' ' :: '\x7d' :: rest))) =
      .ok (.table (t.entries ++ (first :: parts).map fun p => (p.1, p.2.1)), rest) := by
  induction parts with
  | nil =>
    intro first fuel t hfirst hmarked hnodup hfuel
    rw [length_append, length_entryChars] at hfuel
    obtain ⟨fuel, rfl⟩ : ∃ k, fuel = k + 2 := ⟨fuel - 2, by omega⟩
    obtain ⟨t', hentries, -, hrun⟩ := run_tableRest_entry hfirst hmarked hnodup
      (by omega : first.2.2.length ≤ fuel) (.brace rest)
    rw [flatMap_nil, nil_append, hrun, afterEntry, run_bind_of_ok (run_skip _),
      dropWhile_blank rfl, run_bind_of_ok (run_takeText_cons rfl _), if_pos rfl, hentries]
    rfl
  | cons p parts ih =>
    intro first fuel t hfirst hmarked hnodup hfuel
    have hp := h p mem_cons_self
    have hmore : ∀ q ∈ parts, ReadsBack q.2.1 q.2.2 := fun q hq => h q (mem_cons_of_mem _ hq)
    rw [length_append, length_entryChars, flatMap_cons, length_append,
      length_cons, length_cons] at hfuel
    obtain ⟨fuel, rfl⟩ : ∃ k, fuel = k + 2 := ⟨fuel - 2, by omega⟩
    rw [flatMap_cons, append_assoc, cons_append, cons_append]
    obtain ⟨t', hentries, hmarked', hrun⟩ := run_tableRest_entry hfirst hmarked hnodup
      (by omega : first.2.2.length ≤ fuel) (.comma _)
    have hnodup' : (t'.entries.map (·.1) ++ (p :: parts).map (·.1)).Nodup := by
      rw [hentries, map_append, append_assoc]
      exact hnodup
    rw [hrun, afterEntry, run_bind_of_ok (run_skip _), dropWhile_cons_of_neg (by decide),
      run_bind_of_ok (run_takeText_of_head_ne (c := '\x7d') rfl (by simp)), if_neg Bool.false_ne_true,
      run_bind_of_ok (run_takeText_cons rfl _), Bool.not_true, if_neg Bool.false_ne_true,
      run_bind_of_ok (run_skip _), dropWhile_entryChars,
      ih hmore p (fuel + 1) t' hp hmarked' hnodup' (by rw [length_append]; omega), hentries,
      append_assoc]
    rfl

/-- The characters of a table in one piece. -/
def tableChars : List (String × List Char) → List Char
  | [] => ['\x7b', '\x7d']
  | (name, text) :: parts => '\x7b' :: ' ' :: (entryChars name text ++
      ((parts.flatMap fun p => ',' :: ' ' :: entryChars p.1 p.2) ++ [' ', '\x7d']))

theorem return_notMem_keyText (name : String) : '\r' ∉ (keyText name).toList := by
  rw [keyText]
  split
  case isTrue hbare =>
    simp only [ne_eq, Bool.and_eq_true] at hbare
    exact fun h => absurd (all_eq_true.mp hbare.2 _ h) (by decide)
  case isFalse => exact (readsBack_text name).noReturn

theorem return_notMem_entryChars (name : String) (h : ReadsBack value text) :
    '\r' ∉ entryChars name text := by
  simp only [entryChars, mem_append, mem_cons, not_or]
  exact ⟨return_notMem_keyText name, by decide, by decide, by decide, h.noReturn⟩

theorem readsBack_table (h : ∀ p ∈ parts, ReadsBack p.2.1 p.2.2)
    (hnodup : (parts.map (·.1)).Nodup) :
    ReadsBack (.table (parts.map fun p => (p.1, p.2.1)))
      (tableChars (parts.map fun p => (p.1, p.2.2))) := by
  cases parts with
  | nil => exact ⟨⟨'\x7b', _, rfl, rfl⟩, by decide, fun _ _ => rfl⟩
  | cons p parts =>
    have hp := h p mem_cons_self
    have hmore : ∀ q ∈ parts, ReadsBack q.2.1 q.2.2 := fun q hq => h q (mem_cons_of_mem _ hq)
    have htexts : ((parts.map fun p => (p.1, p.2.2)).flatMap fun p => ',' :: ' ' :: entryChars p.1 p.2) =
        parts.flatMap fun p => ',' :: ' ' :: entryChars p.1 p.2.2 := flatMap_map _ _ _
    rw [map_cons, map_cons, tableChars, htexts]
    refine ⟨⟨'\x7b', _, rfl, rfl⟩, ?_, ?_⟩
    · simp only [mem_cons, mem_append, mem_flatMap, not_mem_nil, or_false, not_or,
        not_exists, not_and]
      refine ⟨by decide, by decide, return_notMem_entryChars _ hp, ?_, by decide, by decide⟩
      exact fun q hq => ⟨by decide, by decide, return_notMem_entryChars _ (hmore q hq)⟩
    · intro fuel rest hfuel _
      have hopen : ∀ tail, (entryChars p.1 p.2.2 ++ tail).head? ≠ some '\x7d' := by
        intro tail
        obtain ⟨c, name, hname, hc⟩ := head_keyText p.1
        rw [entryChars, hname, cons_append, cons_append, head?_cons, ne_eq,
          Option.some_inj]
        rintro rfl
        rcases hc with hc | hc <;> exact absurd hc (by decide)
      rw [cons_append, cons_append, append_assoc, append_assoc, valueOf,
        run_bind_of_ok run_get]
      refine (run_bind_of_ok run_set).trans ?_
      rw [run_bind_of_ok (run_skip _), dropWhile_entryChars,
        run_bind_of_ok (run_takeText_of_head_ne rfl (hopen _)), if_neg Bool.false_ne_true]
      refine (run_tableRest hmore rest p fuel ⟨[], []⟩ hp (fun _ hkey => absurd hkey not_mem_nil)
        hnodup ?_).trans rfl
      simp only [length_cons, length_append] at hfuel ⊢
      omega

/-! ## All values -/

theorem exists_of_bind_eq_ok {ε α β : Type} {x : Except ε α} {f : α → Except ε β} {b : β}
    (h : x >>= f = .ok b) : ∃ a, x = .ok a ∧ f a = .ok b := by
  cases x with
  | error e => exact absurd h (by simp [bind, Except.bind])
  | ok a => exact ⟨a, rfl, h⟩

theorem toList_indent (level : Nat) : (indent level).toList = List.replicate (4 * level) ' ' :=
  String.toList_ofList

/-- Texts with a separator between them and after the last one. -/
theorem intercalate_append_separator (separator : List Char) (h : texts ≠ []) :
    separator.intercalate texts ++ separator = texts.flatMap (· ++ separator) := by
  induction texts with
  | nil => exact absurd rfl h
  | cons first texts ih =>
    cases texts with
    | nil => simp
    | cons second texts =>
      rw [intercalate_cons_cons, append_assoc, ih (cons_ne_nil _ _),
        flatMap_cons (x := first)]

/-- Texts with a separator before all but the first one. -/
theorem intercalate_cons (separator first : List Char) (texts : List (List Char)) :
    separator.intercalate (first :: texts) = first ++ texts.flatMap (separator ++ ·) := by
  induction texts generalizing first with
  | nil => simp
  | cons second texts ih =>
    rw [intercalate_cons_cons, ih, flatMap_cons, append_assoc, append_assoc]

theorem toList_listLiteral (level : Nat)
    (h : lines.map String.toList = texts.map fun text => List.replicate (4 * (level + 1)) ' ' ++ text)
    (hne : texts ≠ []) :
    ("[\n" ++ ",\n".intercalate lines ++ ",\n" ++ indent level ++ "]").toList =
      listChars level texts := by
  have hlines : (texts.map fun text => List.replicate (4 * (level + 1)) ' ' ++ text) ≠ [] :=
    fun hnil => hne (map_eq_nil_iff.mp hnil)
  have hjoin := intercalate_append_separator ",\n".toList hlines
  simp only [String.toList_append, String.toList_intercalate, h, append_assoc, toList_indent]
  rw [← append_assoc (List.intercalate _ _), hjoin, flatMap_map, listChars, listEnd]
  simp only [append_assoc]
  rfl

theorem toList_tableLiteral {parts : List (String × List Char)}
    (h : lines.map String.toList = parts.map fun p => entryChars p.1 p.2) (hne : parts ≠ []) :
    ("\x7b " ++ ", ".intercalate lines ++ " \x7d").toList = tableChars parts := by
  obtain ⟨p, parts, rfl⟩ := exists_cons_of_ne_nil hne
  simp only [String.toList_append, String.toList_intercalate, h, map_cons, intercalate_cons,
    flatMap_map, append_assoc]
  rfl

mutual

/-- A value in one piece reads back. -/
theorem readsBack_literal : ∀ (value : Value) (level : Nat) {text : String}, value.IsReadable →
    literal level value = .ok text → ReadsBack value text.toList
  | .text value, _, text, _, h => by
    rw [literal] at h
    rw [← Except.ok.inj h]
    exact readsBack_text value
  | .integer value, _, text, _, h => by
    rw [literal] at h
    exact readsBack_integer h
  | .decimal value, _, text, hreadable, h => by
    rw [literal] at h
    rw [← Except.ok.inj h]
    exact readsBack_decimal (by rwa [Value.IsReadable] at hreadable)
  | .flag value, _, text, _, h => by
    rw [literal] at h
    rw [← Except.ok.inj h]
    exact readsBack_flag value
  | .moment value, _, text, hreadable, h => by
    rw [literal] at h
    rw [← Except.ok.inj h]
    exact readsBack_moment (by rwa [Value.IsReadable] at hreadable)
  | .list [], _, text, _, h => by
    rw [literal] at h
    rw [← Except.ok.inj h]
    exact readsBack_emptyList
  | .list (item :: items), level, text, hreadable, h => by
    rw [Value.IsReadable] at hreadable
    rw [literal] at h
    · obtain ⟨lines, hlines, htext⟩ := exists_of_bind_eq_ok h
      obtain ⟨parts, hparts, hitems, htexts⟩ :=
        exists_parts_items (item :: items) level hreadable hlines
      have hne : parts ≠ [] := by
        rintro rfl
        exact absurd hitems (by simp)
      have hlist := readsBack_list hparts hne level
      rwa [hitems, ← toList_listLiteral level htexts fun hnil => hne (map_eq_nil_iff.mp hnil),
        Except.ok.inj htext] at hlist
    · exact cons_ne_nil _ _
  | .table [], _, text, _, h => by
    rw [literal] at h
    rw [← Except.ok.inj h]
    exact ⟨⟨'\x7b', _, rfl, rfl⟩, by decide, fun _ _ => rfl⟩
  | .table (entry :: entries), level, text, hreadable, h => by
    rw [Value.IsReadable] at hreadable
    obtain ⟨hnodup, hreadable⟩ := hreadable
    rw [literal] at h
    · obtain ⟨lines, hlines, htext⟩ := exists_of_bind_eq_ok h
      obtain ⟨parts, hparts, hentries, htexts⟩ :=
        exists_parts_entries (entry :: entries) hreadable hlines
      have hne : (parts.map fun p => (p.1, p.2.2)) ≠ [] := by
        intro hnil
        rw [map_eq_nil_iff.mp hnil] at hentries
        exact absurd hentries (by simp)
      have hnames : (parts.map (·.1)).Nodup := by
        rw [← hentries, map_map] at hnodup
        exact hnodup
      have htable := readsBack_table hparts hnames
      rwa [hentries, ← toList_tableLiteral htexts hne, Except.ok.inj htext] at htable
    · exact cons_ne_nil _ _

/-- The items of a list read back. -/
theorem exists_parts_items : ∀ (items : List Value) (level : Nat) {lines : List String},
    itemsReadable items → literalItems level items = .ok lines →
    ∃ parts : List (Value × List Char), (∀ p ∈ parts, ReadsBack p.1 p.2) ∧ parts.map (·.1) = items ∧
      lines.map String.toList =
        (parts.map (·.2)).map fun text => List.replicate (4 * (level + 1)) ' ' ++ text
  | [], _, lines, _, h => by
    rw [literalItems] at h
    rw [← Except.ok.inj h]
    exact ⟨[], fun _ hp => absurd hp not_mem_nil, rfl, rfl⟩
  | value :: rest, level, lines, hreadable, h => by
    rw [itemsReadable] at hreadable
    rw [literalItems] at h
    obtain ⟨text, htext, hrest⟩ := exists_of_bind_eq_ok h
    obtain ⟨more, hmore, hlines⟩ := exists_of_bind_eq_ok hrest
    obtain ⟨parts, hparts, rfl, htexts⟩ := exists_parts_items rest level hreadable.2 hmore
    have hvalue := readsBack_literal value (level + 1) hreadable.1 htext
    refine ⟨(value, text.toList) :: parts, forall_mem_cons.mpr ⟨hvalue, hparts⟩, rfl, ?_⟩
    rw [← Except.ok.inj hlines, map_cons, htexts, String.toList_append, toList_indent]
    rfl

/-- The entries of a table read back. -/
theorem exists_parts_entries : ∀ (entries : List (String × Value)) {lines : List String},
    entriesReadable entries → literalEntries entries = .ok lines →
    ∃ parts : List (String × Value × List Char), (∀ p ∈ parts, ReadsBack p.2.1 p.2.2) ∧
      (parts.map fun p => (p.1, p.2.1)) = entries ∧
      lines.map String.toList = (parts.map fun p => (p.1, p.2.2)).map fun p => entryChars p.1 p.2
  | [], lines, _, h => by
    rw [literalEntries] at h
    rw [← Except.ok.inj h]
    exact ⟨[], fun _ hp => absurd hp not_mem_nil, rfl, rfl⟩
  | (name, value) :: rest, lines, hreadable, h => by
    rw [entriesReadable] at hreadable
    rw [literalEntries] at h
    obtain ⟨text, htext, hrest⟩ := exists_of_bind_eq_ok h
    obtain ⟨more, hmore, hlines⟩ := exists_of_bind_eq_ok hrest
    obtain ⟨parts, hparts, rfl, htexts⟩ := exists_parts_entries rest hreadable.2 hmore
    have hvalue := readsBack_literal value 0 hreadable.1 htext
    have hentry : (keyText name ++ " = " ++ text).toList = entryChars name text.toList := by
      rw [String.toList_append, String.toList_append, append_assoc]
      rfl
    refine ⟨(name, value, text.toList) :: parts, forall_mem_cons.mpr ⟨hvalue, hparts⟩, rfl, ?_⟩
    rw [← Except.ok.inj hlines, map_cons, htexts, hentry]
    rfl

end

end RobotKit.Config
