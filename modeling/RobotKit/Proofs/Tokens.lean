import Mathlib.Data.List.TakeWhile
import RobotKit.Config.Writing
import RobotKit.Proofs.Hexadecimal

/-!
# Texts and keys of the project file read back

What a reader does on a text is said by what it gives and what it leaves. A quoted text and a key
are read back as written, whatever follows them, as long as it cannot be taken for a part of them.
-/

namespace RobotKit.Config

open List Reader

variable {rest : List Char} {c : Char}

namespace Reader

variable {α β : Type} {s t : List Char}

/-- A step that gives a value is followed by what is done with it. -/
theorem run_bind_of_ok {r : Reader α} {f : α → Reader β} {a : α} (h : r.run s = .ok (a, t)) :
    (r >>= f).run s = (f a).run t := by
  rw [StateT.run_bind, h]
  rfl

theorem run_get : (get : Reader (List Char)).run s = .ok (s, s) := rfl

theorem run_set : (set t : Reader Unit).run s = .ok ((), t) := rfl

theorem run_modify (f : List Char → List Char) : (modify f : Reader Unit).run s = .ok ((), f s) := rfl

theorem run_pure (a : α) : (pure a : Reader α).run s = .ok (a, s) := rfl

theorem run_skip (p : Char → Bool) : (skip p).run s = .ok ((), s.dropWhile p) := rfl

theorem run_takeText (start : String) (rest : List Char) :
    (takeText start).run (start.toList ++ rest) = .ok (true, rest) := by
  have hpre : start.toList.isPrefixOf (start.toList ++ rest) = true :=
    isPrefixOf_iff_prefix.mpr (prefix_append _ _)
  rw [takeText, run_bind_of_ok run_get, if_pos hpre, run_bind_of_ok run_set, run_pure,
    ← String.length_toList, drop_left]

theorem run_takeText_of_not {start : String} (h : ¬ start.toList <+: s) :
    (takeText start).run s = .ok (false, s) := by
  have hpre : ¬ start.toList.isPrefixOf s = true := fun hp => h ( isPrefixOf_iff_prefix.mp hp)
  rw [takeText, run_bind_of_ok run_get, if_neg hpre, run_pure]

theorem run_takeText_cons {mark : String} (h : mark.toList = [c]) (rest : List Char) :
    (takeText mark).run (c :: rest) = .ok (true, rest) := by
  have hrun := run_takeText mark rest
  rwa [h, singleton_append] at hrun

theorem run_takeText_of_head_ne {mark : String} (h : mark.toList = [c]) (hs : s.head? ≠ some c) :
    (takeText mark).run s = .ok (false, s) := by
  refine run_takeText_of_not ?_
  rw [h]
  rintro ⟨tail, rfl⟩
  exact hs rfl

end Reader

/-! ## Escapes -/

theorem ne_of_lookup_eq_none {c d value : Char} (h : simpleEscapes.lookup c = some value)
    (hd : simpleEscapes.lookup d = none) : c ≠ d := by
  rintro rfl
  rw [hd] at h
  cases h

theorem run_escape_simple {c value : Char} (h : simpleEscapes.lookup c = some value)
    (rest : List Char) : (escape false).run ('\\' :: c :: rest) = .ok ([value], rest) := by
  have hu : c ≠ 'u' := ne_of_lookup_eq_none h rfl
  have hU : c ≠ 'U' := ne_of_lookup_eq_none h rfl
  rw [escape, run_bind_of_ok run_get, run_bind_of_ok (run_modify _)]
  dsimp only [List.drop, List.head?]
  rw [Bool.false_and, if_neg Bool.false_ne_true, if_neg hu, if_neg hU, h]
  rfl

/-- The digits in base 16. -/
def isHexDigit (c : Char) : Bool :=
  c.isDigit || ('a' ≤ c && c ≤ 'f') || ('A' ≤ c && c ≤ 'F')

theorem isHexDigit_hexDigit : ∀ n < 16, isHexDigit (Text.hexDigit n) = true := by decide

theorem run_escape_unicode (h : c.toNat < 0xD800) (rest : List Char) :
    (escape false).run ('\\' :: 'u' :: (Text.hexPadded 4 c.toNat ++ rest)) = .ok ([c], rest) := by
  have hlength := Text.length_hexPadded 4 c.toNat
  have hall : (Text.hexPadded 4 c.toNat).all isHexDigit = true := by
    refine all_eq_true.mpr fun d hd => ?_
    obtain ⟨digit, hdigit, rfl⟩ := Text.exists_hexDigit_of_mem hd
    exact isHexDigit_hexDigit digit hdigit
  have hread : Text.readHex (Text.hexPadded 4 c.toNat) = c.toNat :=
    Text.readHex_hexPadded (by omega)
  rw [escape, run_bind_of_ok run_get, run_bind_of_ok (run_modify _)]
  dsimp only [List.drop, List.head?]
  rw [Bool.false_and, if_neg Bool.false_ne_true, if_pos rfl, hexCharacter, run_bind_of_ok run_get,
    take_left' hlength]
  have hgood : ¬ (decide ((Text.hexPadded 4 c.toNat).length ≠ 4) ||
      !(Text.hexPadded 4 c.toNat).all isHexDigit) = true := by simp [hlength, hall]
  refine (congrArg (fun r => StateT.run r _) (if_neg hgood)).trans ?_
  rw [run_bind_of_ok (run_modify _), drop_left' hlength]
  dsimp only
  rw [hread, if_pos (by simp [h]), Char.ofNat_toNat]
  rfl

/-! ## Texts -/

/-- A character between quotation marks is a letter escape, an escape by number, or itself. -/
theorem quotedCharacter_cases (c : Char) :
    (∃ x, quotedCharacter c = ['\\', x] ∧ simpleEscapes.lookup x = some c) ∨
      (c.toNat < 128 ∧ quotedCharacter c = '\\' :: 'u' :: Text.hexPadded 4 c.toNat) ∨
      (quotedCharacter c = [c] ∧ c ≠ '"' ∧ c ≠ '\\' ∧ isControl c = false) := by
  unfold quotedCharacter
  split
  case isTrue h => subst h; exact .inl ⟨'b', rfl, rfl⟩
  split
  case isTrue h => subst h; exact .inl ⟨'n', rfl, rfl⟩
  split
  case isTrue h => subst h; exact .inl ⟨'f', rfl, rfl⟩
  split
  case isTrue h => subst h; exact .inl ⟨'r', rfl, rfl⟩
  split
  case isTrue h => subst h; exact .inl ⟨'"', rfl, rfl⟩
  split
  case isTrue h => subst h; exact .inl ⟨'\\', rfl, rfl⟩
  split
  case isTrue h =>
    refine .inr (.inl ⟨?_, rfl⟩)
    simp only [isControl, ne_eq, Bool.or_eq_true, Bool.and_eq_true, decide_eq_true_eq] at h
    omega
  case isFalse hquote hback h => exact .inr (.inr ⟨rfl, hquote, hback, Bool.eq_false_iff.mpr h⟩)

theorem run_basicText_escape {s t value : List Char} (fuel : Nat) (taken : List Char)
    (h : (escape false).run ('\\' :: s) = .ok (value, t)) :
    (basicText false (fuel + 1) taken).run ('\\' :: s) =
      (basicText false fuel (taken ++ value)).run t := by
  rw [basicText, run_bind_of_ok run_get]
  exact run_bind_of_ok h

theorem run_basicText_plain (hquote : c ≠ '"') (hback : c ≠ '\\') (hcontrol : isControl c = false)
    (fuel : Nat) (taken s : List Char) :
    (basicText false (fuel + 1) taken).run (c :: s) =
      (basicText false fuel (taken ++ [c])).run s := by
  rw [basicText, run_bind_of_ok run_get]
  split
  · exact absurd ‹c :: s = []› (cons_ne_nil _ _)
  case h_2 heq => exact absurd (List.cons.inj heq).1 hquote
  case h_3 heq => exact absurd (List.cons.inj heq).1 hback
  case h_4 heq =>
    obtain ⟨rfl, rfl⟩ := List.cons.inj heq
    rw [hcontrol, Bool.false_and]
    exact run_bind_of_ok run_set

/-- The characters of a text between quotation marks are read back up to the closing one. -/
theorem run_basicText (text rest : List Char) : ∀ (fuel : Nat) (taken : List Char),
    text.length < fuel →
    (basicText false fuel taken).run (text.flatMap quotedCharacter ++ '"' :: rest) =
      .ok (taken ++ text, rest) := by
  induction text with
  | nil =>
    intro fuel taken h
    obtain ⟨fuel, rfl⟩ := Nat.exists_eq_succ_of_ne_zero (Nat.ne_of_gt h)
    rw [append_nil]
    rfl
  | cons c text ih =>
    intro fuel taken h
    obtain ⟨fuel, rfl⟩ := Nat.exists_eq_succ_of_ne_zero
      (Nat.ne_of_gt (Nat.lt_of_le_of_lt (Nat.zero_le _) h))
    have hnext := ih fuel (taken ++ [c]) (Nat.lt_of_succ_lt_succ h)
    rw [append_assoc, singleton_append] at hnext
    rw [flatMap_cons, append_assoc]
    rcases quotedCharacter_cases c with ⟨x, hx, hlookup⟩ | ⟨hc, hx⟩ | ⟨hx, hquote, hback, hcontrol⟩
    · rw [hx]
      exact (run_basicText_escape fuel taken (run_escape_simple hlookup _)).trans hnext
    · rw [hx]
      exact (run_basicText_escape fuel taken
        (run_escape_unicode (Nat.lt_trans hc (by decide)) _)).trans hnext
    · rw [hx]
      exact (run_basicText_plain hquote hback hcontrol fuel taken _).trans hnext

theorem length_le_flatMap_quotedCharacter (text : List Char) :
    text.length ≤ (text.flatMap quotedCharacter).length := by
  induction text with
  | nil => rfl
  | cons c text ih =>
    have hone : 1 ≤ (quotedCharacter c).length := by
      rcases quotedCharacter_cases c with ⟨x, hx, -⟩ | ⟨-, hx⟩ | ⟨hx, -⟩ <;> simp [hx]
    rw [flatMap_cons, length_append, length_cons]
    omega

theorem run_basicRest (text rest : List Char) :
    (basicRest false).run (text.flatMap quotedCharacter ++ '"' :: rest) = .ok (text, rest) := by
  have hlength := length_le_flatMap_quotedCharacter text
  rw [basicRest, run_bind_of_ok run_get, run_basicText, nil_append]
  rw [length_append]
  omega

theorem toList_quoted (text : String) :
    (quoted text).toList = '"' :: (text.toList.flatMap quotedCharacter ++ ['"']) := by
  rw [quoted, String.toList_ofList]
  rfl

/-- A quoted text is not the start of a long text, unless a third quotation mark follows. -/
theorem not_long_quoted (text : String) (hrest : rest.head? ≠ some '"') :
    ¬ "\"\"\"".toList <+: (quoted text).toList ++ rest := by
  have hlong : "\"\"\"".toList = ['"', '"', '"'] := rfl
  rw [toList_quoted, hlong, cons_append, cons_prefix_cons, not_and]
  rintro -
  cases htext : text.toList with
  | nil =>
    rintro ⟨tail, htail⟩
    simp only [flatMap_nil, nil_append, cons_append, List.cons.injEq, true_and] at htail
    exact hrest (by rw [← htail]; rfl)
  | cons c text =>
    rw [flatMap_cons]
    rcases quotedCharacter_cases c with ⟨x, hx, -⟩ | ⟨-, hx⟩ | ⟨hx, hquote, -⟩ <;>
      simp [hx, cons_prefix_cons]
    exact fun h => absurd h.symm hquote

theorem run_textValue (text : String) (hrest : rest.head? ≠ some '"') :
    textValue.run ((quoted text).toList ++ rest) = .ok (text.toList, rest) := by
  have hapos : ¬ "'''".toList <+: (quoted text).toList ++ rest := by
    rw [toList_quoted]
    exact fun h => absurd (cons_prefix_cons.mp h).1 (by decide)
  have hstart : (quoted text).toList ++ rest =
      "\"".toList ++ (text.toList.flatMap quotedCharacter ++ '"' :: rest) := by
    rw [toList_quoted, cons_append, append_assoc]
    rfl
  rw [textValue, run_bind_of_ok (run_takeText_of_not (not_long_quoted text hrest)),
    if_neg Bool.false_ne_true, run_bind_of_ok (run_takeText_of_not hapos),
    if_neg Bool.false_ne_true, hstart, run_bind_of_ok (run_takeText _ _), if_pos rfl, run_basicRest]

/-! ## Keys -/

/-- What follows a key does not start with a character that could belong to it. -/
def EndsKey (rest : List Char) : Prop := ∀ c ∈ rest.head?, isBareKey c = false

/-- A name of a key that starts with neither quotation mark. -/
theorem run_keyPart_bare {s : List Char} (hne : s.takeWhile isBareKey ≠ []) :
    keyPart.run s =
      .ok (String.ofList (s.takeWhile isBareKey), s.drop (s.takeWhile isBareKey).length) := by
  have hhead : ∀ c tail, s = c :: tail → isBareKey c = true := by
    rintro c tail rfl
    by_contra hc
    exact hne (takeWhile_cons_of_neg hc)
  rw [keyPart, run_bind_of_ok run_get]
  split
  · exact absurd (hhead _ _ rfl) (by decide)
  · exact absurd (hhead _ _ rfl) (by decide)
  · have hempty : ¬ (s.takeWhile isBareKey).isEmpty = true := by simpa using hne
    refine (congrArg (fun r => StateT.run r s) (if_neg hempty)).trans ?_
    rw [run_bind_of_ok run_set, run_pure]

theorem run_keyPart (name : String) (hrest : EndsKey rest) :
    keyPart.run ((keyText name).toList ++ rest) = .ok (name, rest) := by
  rw [keyText]
  split
  case isFalse =>
    rw [toList_quoted, cons_append, append_assoc, keyPart, run_bind_of_ok run_get]
    refine (run_bind_of_ok run_set).trans ?_
    rw [singleton_append, run_bind_of_ok (run_basicRest _ _), String.ofList_toList, run_pure]
  case isTrue hbare =>
    simp only [ne_eq, Bool.and_eq_true, decide_eq_true_eq] at hbare
    obtain ⟨hne, hall⟩ := hbare
    have htake : (name.toList ++ rest).takeWhile isBareKey = name.toList := by
      rw [takeWhile_append_of_pos (all_eq_true.mp hall)]
      cases rest with
      | nil => rw [takeWhile_nil, append_nil]
      | cons c rest =>
        rw [takeWhile_cons_of_neg (by rw [hrest c rfl]; exact Bool.false_ne_true),
          append_nil]
    have hname : (name.toList ++ rest).takeWhile isBareKey ≠ [] := by
      rw [htake]
      exact fun h => hne (String.toList_eq_nil_iff.mp h)
    rw [run_keyPart_bare hname, htake, String.ofList_toList, drop_left]

/-- The names of a key with points between them. -/
def keyChars (key : Key) : List Char := (".".intercalate (key.map keyText)).toList

theorem keyChars_singleton (name : String) : keyChars [name] = (keyText name).toList := by
  rw [keyChars, map_singleton, String.intercalate_singleton]

theorem keyChars_cons_cons (first second : String) (key : Key) :
    keyChars (first :: second :: key) = (keyText first).toList ++ '.' :: keyChars (second :: key) := by
  simp only [keyChars, map_cons, String.toList_intercalate, intercalate_cons_cons,
    append_assoc]
  rfl

theorem head_keyText (name : String) :
    ∃ c rest, (keyText name).toList = c :: rest ∧ (isBareKey c = true ∨ c = '"') := by
  rw [keyText]
  split
  case isFalse => exact ⟨_, _, toList_quoted name, .inr rfl⟩
  case isTrue hbare =>
    simp only [ne_eq, Bool.and_eq_true, decide_eq_true_eq] at hbare
    cases hname : name.toList with
    | nil => exact absurd (String.toList_eq_nil_iff.mp hname) hbare.1
    | cons c rest =>
      exact ⟨c, rest, rfl, .inl (all_eq_true.mp hbare.2 c (by rw [hname]; exact mem_cons_self))⟩

theorem not_isLineBlank_of_key (h : isBareKey c = true ∨ c = '"') :
    isLineBlank c = false := by
  rcases h with h | rfl
  · by_contra hblank
    rw [Bool.not_eq_false, isLineBlank, Bool.or_eq_true, decide_eq_true_eq, decide_eq_true_eq] at hblank
    rcases hblank with rfl | rfl <;> exact absurd h (by decide)
  · rfl

theorem dropWhile_keyText (name : String) (rest : List Char) :
    ((keyText name).toList ++ rest).dropWhile isLineBlank = (keyText name).toList ++ rest := by
  obtain ⟨c, tail, hname, hc⟩ := head_keyText name
  rw [hname, cons_append,
    dropWhile_cons_of_neg (by rw [not_isLineBlank_of_key hc]; exact Bool.false_ne_true)]

theorem endsKey_dotted (names : Key) (h : EndsKey rest) :
    EndsKey ((names.flatMap fun name => '.' :: (keyText name).toList) ++ rest) := by
  cases names with
  | nil => exact h
  | cons next names =>
    intro c hc
    rw [flatMap_cons, cons_append, cons_append, head?_cons,
      Option.mem_some_iff] at hc
    rw [← hc]
    decide

/-- The names after the first one are read up to what is no point. -/
theorem run_keyRest (names : Key) (hend : EndsKey rest)
    (hpoint : (rest.dropWhile isLineBlank).head? ≠ some '.') : ∀ (fuel : Nat) (key : Key),
    names.length < fuel →
    (keyRest fuel key).run ((names.flatMap fun name => '.' :: (keyText name).toList) ++ rest) =
      .ok (key ++ names, rest.dropWhile isLineBlank) := by
  induction names with
  | nil =>
    intro fuel key h
    obtain ⟨fuel, rfl⟩ := Nat.exists_eq_succ_of_ne_zero (Nat.ne_of_gt h)
    rw [flatMap_nil, nil_append, keyRest, run_bind_of_ok (run_skip _),
      run_bind_of_ok (run_takeText_of_head_ne rfl hpoint), if_neg Bool.false_ne_true, run_pure,
      append_nil]
  | cons name names ih =>
    intro fuel key h
    obtain ⟨fuel, rfl⟩ := Nat.exists_eq_succ_of_ne_zero
      (Nat.ne_of_gt (Nat.lt_of_le_of_lt (Nat.zero_le _) h))
    rw [flatMap_cons, append_assoc, cons_append, keyRest, run_bind_of_ok (run_skip _),
      dropWhile_cons_of_neg (by decide), run_bind_of_ok (run_takeText_cons rfl _), if_pos rfl,
      run_bind_of_ok (run_skip _), dropWhile_keyText,
      run_bind_of_ok (run_keyPart name (endsKey_dotted names hend)),
      ih fuel _ (Nat.lt_of_succ_lt_succ h), append_assoc, singleton_append]

theorem keyChars_cons (name : String) (names : Key) :
    keyChars (name :: names) =
      (keyText name).toList ++ names.flatMap fun name => '.' :: (keyText name).toList := by
  induction names generalizing name with
  | nil => rw [keyChars_singleton, flatMap_nil, append_nil]
  | cons next names ih => rw [keyChars_cons_cons, ih, flatMap_cons, cons_append]

theorem length_le_flatMap_keyText (names : Key) :
    names.length ≤ (names.flatMap fun name => '.' :: (keyText name).toList).length := by
  induction names with
  | nil => rfl
  | cons name names ih =>
    rw [flatMap_cons, length_append, length_cons, length_cons]
    omega

/-- A key is read back, with the blanks after it. -/
theorem run_keyOf {key : Key} (hkey : key ≠ []) (hend : EndsKey rest)
    (hpoint : (rest.dropWhile isLineBlank).head? ≠ some '.') :
    keyOf.run (keyChars key ++ rest) = .ok (key, rest.dropWhile isLineBlank) := by
  obtain ⟨name, names, rfl⟩ := exists_cons_of_ne_nil hkey
  have hlength := length_le_flatMap_keyText names
  rw [keyChars_cons, append_assoc, keyOf, run_bind_of_ok (run_keyPart name (endsKey_dotted names hend)),
    run_bind_of_ok run_get, run_keyRest names hend hpoint, singleton_append]
  rw [length_append]
  omega

end RobotKit.Config
