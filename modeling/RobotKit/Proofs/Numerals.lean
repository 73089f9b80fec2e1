import RobotKit.Proofs.ShortestDecimal
import RobotKit.Proofs.Tokens

/-!
# Numbers, dates and times of the project file read back

Integers, decimals and moments are read back as written. The readers are tried one after another,
so it is also shown that those before the right one do not take the text.
-/

namespace RobotKit.Config

open List RobotKit.Decimal Reader

variable {rest : List Char} {c : Char} {text : List Char} {x : Binary64} {d : Day}
  {offset : Option Int} {p : Char → Bool}

/-! ## Digits -/

/-- A text of decimal digits. -/
def IsDigits (digits : List Char) : Prop := ∀ c ∈ digits, c.isDigit = true

theorem isDigits_toDigits (n : Nat) : IsDigits (Nat.toDigits 10 n) := fun _ =>
  Nat.isDigit_of_mem_toDigits (by decide) (by decide)

theorem IsDigits.append {a b : List Char} (ha : IsDigits a) (hb : IsDigits b) : IsDigits (a ++ b) :=
  fun c hc => (mem_append.mp hc).elim (ha c) (hb c)

theorem isDigits_replicate (n : Nat) : IsDigits (List.replicate n '0') := fun c hc => by
  rw [eq_of_mem_replicate hc]
  rfl

theorem digitsValue_eq (digits : List Char) : digitsValue digits = Nat.ofDigitChars 10 digits 0 := by
  simp only [digitsValue, Nat.ofDigitChars, Nat.mul_comm]

theorem digitsValue_toDigits (n : Nat) : digitsValue (Nat.toDigits 10 n) = n := by
  rw [digitsValue_eq, Nat.ofDigitChars_toDigits (by decide) (by decide)]

theorem digitsValue_append (a b : List Char) :
    digitsValue (a ++ b) = digitsValue a * 10 ^ b.length + digitsValue b := by
  induction b using List.reverseRecOn with
  | nil => simp [digitsValue]
  | append_singleton b c ih =>
    have hlast : ∀ l : List Char, digitsValue (l ++ [c]) = digitsValue l * 10 + (c.toNat - '0'.toNat) :=
      fun l => by rw [digitsValue, foldl_append]; rfl
    rw [← append_assoc, hlast, ih, hlast, length_append, length_singleton, Nat.pow_succ]
    ring

theorem digitsValue_replicate (n : Nat) : digitsValue (List.replicate n '0') = 0 := by
  induction n with
  | zero => rfl
  | succ n ih => rw [replicate_succ', digitsValue_append, ih]; rfl

/-! ## Fixed numbers of digits -/

theorem toList_padded (width n : Nat) : (padded width n).toList =
    List.replicate (width - (Nat.toDigits 10 n).length) '0' ++ Nat.toDigits 10 n :=
  String.toList_ofList

theorem isDigits_padded (width n : Nat) : IsDigits (padded width n).toList := by
  rw [toList_padded]
  exact (isDigits_replicate _).append (isDigits_toDigits n)

theorem digitsValue_padded (width n : Nat) : digitsValue (padded width n).toList = n := by
  rw [toList_padded, digitsValue_append, digitsValue_replicate, digitsValue_toDigits, Nat.zero_mul,
    Nat.zero_add]

theorem length_padded {width n : Nat} (hwidth : 0 < width) (h : n < 10 ^ width) :
    (padded width n).toList.length = width := by
  have hle : (Nat.toDigits 10 n).length ≤ width := (Nat.length_toDigits_le_iff (by decide) hwidth).mpr h
  rw [toList_padded, length_append, length_replicate]
  omega

/-- A number with a fixed number of places is read back. -/
theorem fixedDigits_padded {width n low high : Nat} (hwidth : 0 < width) (h : n < 10 ^ width)
    (hlow : low ≤ n) (hhigh : n ≤ high) (rest : List Char) :
    fixedDigits width low high ((padded width n).toList ++ rest) = some (n, rest) := by
  have hlength := length_padded hwidth h
  have hall : (padded width n).toList.all Char.isDigit = true :=
    all_eq_true.mpr (isDigits_padded width n)
  have hvalue : (padded width n).toList.foldl (fun n c => n * 10 + (c.toNat - '0'.toNat)) 0 = n :=
    digitsValue_padded width n
  rw [fixedDigits, take_left' hlength, drop_left' hlength, hvalue,
    if_pos (by simp [hlength, hall, hlow, hhigh])]

/-- Too few digits are no number with a fixed number of places. -/
theorem fixedDigits_eq_none {count low high : Nat} (h : ∃ c ∈ text.take count, c.isDigit = false) :
    fixedDigits count low high text = none := by
  obtain ⟨c, hc, hdigit⟩ := h
  have hall : (text.take count).all Char.isDigit = false :=
    all_eq_false.mpr ⟨c, hc, by rw [hdigit]; exact Bool.false_ne_true⟩
  rw [fixedDigits, if_neg (by simp [hall])]

theorem oneOf_cons (h : p c = true) (rest : List Char) :
    oneOf p (c :: rest) = some rest := by
  rw [oneOf, if_pos h]

theorem oneOf_eq_none (h : ∀ c ∈ text.head?, p c = false) :
    oneOf p text = none := by
  cases text with
  | nil => rfl
  | cons c text => rw [oneOf, h c rfl, if_neg Bool.false_ne_true]

/-- After a fixed number of digits of a longer run of digits there is no mark. -/
theorem oneOf_after_fixedDigits {count low high n : Nat} {mark : Char}
    {digits rest text : List Char} (hdigits : IsDigits digits) (hmark : mark.isDigit = false)
    (hrest : ∀ c ∈ rest.head?, c.isDigit = false ∧ c ≠ mark)
    (h : fixedDigits count low high (digits ++ rest) = some (n, text)) :
    oneOf (· = mark) text = none := by
  rw [fixedDigits] at h
  split at h
  case isFalse => exact absurd h (by simp)
  case isTrue hgood =>
    simp only [Bool.and_eq_true, decide_eq_true_eq] at hgood
    obtain ⟨⟨⟨hlength, hall⟩, -⟩, -⟩ := hgood
    obtain ⟨-, rfl⟩ := Prod.mk.inj (Option.some.inj h)
    refine oneOf_eq_none fun c hc => decide_eq_false fun heq => ?_
    subst heq
    by_cases hle : count ≤ digits.length
    · rw [drop_append_of_le_length hle] at hc
      cases hdrop : digits.drop count with
      | nil =>
        rw [hdrop, nil_append] at hc
        exact (hrest c hc).2 rfl
      | cons d tail =>
        rw [hdrop, cons_append, head?_cons, Option.mem_some_iff] at hc
        subst hc
        have hmem : d ∈ digits := drop_subset count digits (by rw [hdrop]; exact mem_cons_self)
        rw [hdigits d hmem] at hmark
        exact absurd hmark (by decide)
    · -- The taken characters go beyond the run, so they hold what follows it.
      cases rest with
      | nil =>
        rw [append_nil, length_take] at hlength
        omega
      | cons d tail =>
        have hmem : d ∈ (digits ++ d :: tail).take count := by
          rw [take_append, mem_append]
          refine .inr ?_
          obtain ⟨k, hk⟩ := Nat.exists_eq_add_of_lt (Nat.lt_of_not_le hle)
          rw [hk, Nat.add_assoc, Nat.add_sub_cancel_left, take_succ_cons]
          exact mem_cons_self
        have hd := all_eq_true.mp hall d hmem
        rw [(hrest d rfl).1] at hd
        exact Bool.false_ne_true hd

/-! ## Moments -/

/-- A day of the calendar whose year has four digits. -/
def Day.IsReadable (d : Day) : Prop := d.isValid = true ∧ d.year ≤ 9999

/-- A time of day within its bounds. -/
def Clock.IsReadable (c : Clock) : Prop :=
  c.hour ≤ 23 ∧ c.minute ≤ 59 ∧ c.second ≤ 59 ∧ c.micros < 1000000

/-- A moment that reading can give. -/
def Moment.IsReadable : Moment → Prop
  | .day d => d.IsReadable
  | .clock c => c.IsReadable
  | .instant d c offset => d.IsReadable ∧ c.IsReadable ∧ ∀ minutes ∈ offset, minutes.natAbs < 1440

theorem daysIn_le (year month : Nat) : daysIn year month ≤ 31 := by
  rw [daysIn]
  split <;> split <;> decide

theorem toList_dayText (d : Day) : d.text.toList = (padded 4 d.year).toList ++
    '-' :: ((padded 2 d.month).toList ++ '-' :: (padded 2 d.day).toList) := by
  simp only [Day.text, String.toList_append, append_assoc]
  rfl

theorem dayText_text (h : d.IsReadable) (rest : List Char) :
    dayText (d.text.toList ++ rest) = some (d, rest) := by
  obtain ⟨hvalid, hyear⟩ := h
  simp only [Day.isValid, Bool.and_eq_true, decide_eq_true_eq] at hvalid
  obtain ⟨⟨⟨⟨-, hmonth⟩, hmonths⟩, hday⟩, hdays⟩ := hvalid
  have hlast : d.day ≤ 31 := hdays.trans (daysIn_le _ _)
  simp only [dayText, toList_dayText, append_assoc, cons_append]
  rw [fixedDigits_padded (by decide) (by omega) (Nat.zero_le _) hyear]
  simp only [Option.bind_eq_bind, Option.bind_some]
  rw [oneOf_cons (by decide), Option.bind_some,
    fixedDigits_padded (by decide) (by omega) hmonth hmonths, Option.bind_some,
    oneOf_cons (by decide), Option.bind_some, fixedDigits_padded (by decide) (by omega) hday hlast]
  rfl

theorem takeWhile_isDigit {digits rest : List Char} (hdigits : IsDigits digits)
    (hrest : ∀ c ∈ rest.head?, c.isDigit = false) :
    (digits ++ rest).takeWhile Char.isDigit = digits := by
  rw [takeWhile_append_of_pos hdigits]
  cases rest with
  | nil => rw [takeWhile_nil, append_nil]
  | cons c rest =>
    rw [takeWhile_cons_of_neg (by rw [hrest c rfl]; exact Bool.false_ne_true), append_nil]

theorem microsOf_padded {micros : Nat} (h : micros < 1000000) :
    microsOf (padded 6 micros).toList = micros := by
  rw [microsOf, take_left' (length_padded (by decide) h)]
  exact digitsValue_padded 6 micros

theorem toList_clockText (c : Clock) : c.text.toList = (padded 2 c.hour).toList ++
    ':' :: ((padded 2 c.minute).toList ++ ':' :: ((padded 2 c.second).toList ++
      if c.micros = 0 then [] else '.' :: (padded 6 c.micros).toList)) := by
  have hcolon : ":".toList = [':'] := rfl
  have hpoint : ".".toList = ['.'] := rfl
  simp only [Clock.text, String.toList_append, append_assoc, hcolon, cons_append,
    nil_append]
  split
  · rw [String.toList_empty]
  · rw [String.toList_append, hpoint, singleton_append]

theorem clockText_text {c : Clock} (h : c.IsReadable)
    (hrest : ∀ x ∈ rest.head?, x.isDigit = false ∧ x ≠ '.') :
    clockText (c.text.toList ++ rest) = some (c, rest) := by
  obtain ⟨hhour, hminute, hsecond, hmicros⟩ := h
  simp only [clockText, toList_clockText, append_assoc, cons_append]
  rw [fixedDigits_padded (by decide) (by omega) (Nat.zero_le _) hhour]
  simp only [Option.bind_eq_bind, Option.bind_some]
  rw [oneOf_cons (by decide), Option.bind_some,
    fixedDigits_padded (by decide) (by omega) (Nat.zero_le _) hminute, Option.bind_some,
    oneOf_cons (by decide), Option.bind_some,
    fixedDigits_padded (by decide) (by omega) (Nat.zero_le _) hsecond, Option.bind_some]
  split
  case isTrue hzero =>
    rw [nil_append, oneOf_eq_none fun x hx => decide_eq_false (hrest x hx).2]
    simp only [Option.getD_none, takeWhile_nil, isEmpty_nil, if_true]
    cases c
    dsimp only at hzero
    rw [hzero]
    rfl
  case isFalse hsome =>
    have hlength : (padded 6 c.micros).toList.length = 6 := length_padded (by decide) hmicros
    have hne : ¬ (padded 6 c.micros).toList.isEmpty = true := by
      rw [List.isEmpty_iff, ← length_eq_zero_iff, hlength]
      decide
    rw [cons_append, oneOf_cons (by decide), Option.getD_some,
      takeWhile_isDigit (isDigits_padded 6 _) fun x hx => (hrest x hx).1, if_neg hne,
      microsOf_padded hmicros, drop_succ_cons, drop_left]
    rfl

theorem toList_offsetText (minutes : Int) : (offsetText minutes).toList =
    (if minutes < 0 then '-' else '+') :: ((padded 2 (minutes.natAbs / 60)).toList ++
      ':' :: (padded 2 (minutes.natAbs % 60)).toList) := by
  have hcolon : ":".toList = [':'] := rfl
  simp only [offsetText, String.toList_append, append_assoc, hcolon, singleton_append]
  split <;> rfl

/-- The sign, the hours and the minutes of a distance from universal time are read back. -/
theorem zoneText_padded {sign : Char} (hsign : sign = '+' ∨ sign = '-') {hours minutes : Nat}
    (hhours : hours ≤ 23) (hminutes : minutes ≤ 59) (rest : List Char) :
    zoneText (sign :: ((padded 2 hours).toList ++ ':' :: ((padded 2 minutes).toList ++ rest))) =
      (some (if sign = '-' then -(hours * 60 + minutes : Int) else hours * 60 + minutes), rest) := by
  have hfirst : fixedDigits 2 0 23 ((padded 2 hours).toList ++
      ':' :: ((padded 2 minutes).toList ++ rest)) =
      some (hours, ':' :: ((padded 2 minutes).toList ++ rest)) :=
    fixedDigits_padded (by decide) (by omega) (Nat.zero_le _) hhours _
  have hsecond : fixedDigits 2 0 59 ((padded 2 minutes).toList ++ rest) = some (minutes, rest) :=
    fixedDigits_padded (by decide) (by omega) (Nat.zero_le _) hminutes _
  have hcolon : oneOf (fun c => decide (c = ':')) (':' :: ((padded 2 minutes).toList ++ rest)) =
      some ((padded 2 minutes).toList ++ rest) := oneOf_cons (by decide) _
  rcases hsign with rfl | rfl <;>
    simp [zoneText, hfirst, hsecond, hcolon]

theorem zoneText_offsetText {minutes : Int} (h : minutes.natAbs < 1440) (rest : List Char) :
    zoneText ((offsetText minutes).toList ++ rest) = (some minutes, rest) := by
  have hhours : minutes.natAbs / 60 ≤ 23 := by omega
  have hminutes : minutes.natAbs % 60 ≤ 59 := by omega
  rw [toList_offsetText, cons_append, append_assoc, cons_append]
  by_cases hneg : minutes < 0
  · have htotal : -(((minutes.natAbs / 60 : Nat) : Int) * 60 + (minutes.natAbs % 60 : Nat)) = minutes := by
      omega
    rw [if_pos hneg, zoneText_padded (.inr rfl) hhours hminutes, if_pos rfl, htotal]
  · have htotal : ((minutes.natAbs / 60 : Nat) : Int) * 60 + (minutes.natAbs % 60 : Nat) = minutes := by
      omega
    rw [if_neg hneg, zoneText_padded (.inl rfl) hhours hminutes, if_neg (by decide), htotal]

theorem zoneText_eq_none (h : ∀ c ∈ rest.head?, c ∉ ['Z', 'z', '+', '-']) :
    zoneText rest = (none, rest) := by
  cases rest with
  | nil => rfl
  | cons c rest =>
    have hc := h c rfl
    simp only [mem_cons, not_mem_nil, or_false, not_or] at hc
    obtain ⟨hZ, hz, hplus, hminus⟩ := hc
    rw [zoneText]
    · simp [hplus, hminus]
    · exact hZ
    · exact hz

/-- What may follow a value: nothing, a line end, a comma, or a blank and a closing brace. -/
inductive EndsValue : List Char → Prop
  | nil : EndsValue []
  | line (rest : List Char) : EndsValue ('\n' :: rest)
  | comma (rest : List Char) : EndsValue (',' :: rest)
  | brace (rest : List Char) : EndsValue (' ' :: '\x7d' :: rest)

section

variable (h : EndsValue rest)

include h

/-- The character after a value is one of three. -/
theorem EndsValue.head {P : Char → Prop} (hP : P '\n' ∧ P ',' ∧ P ' ') :
    ∀ c ∈ rest.head?, P c := by
  intro c hc
  cases h with
  | nil => cases hc
  | line rest => cases hc; exact hP.1
  | comma rest => cases hc; exact hP.2.1
  | brace rest => cases hc; exact hP.2.2

/-- What follows a value is no time of day. -/
theorem EndsValue.clock_eq_none :
    ((oneOf (fun c => c = 'T' || c = 't' || c = ' ') rest).bind clockText) = none := by
  cases h with
  | nil => rfl
  | line rest => rfl
  | comma rest => rfl
  | brace rest =>
    rw [oneOf_cons (by decide), Option.bind_some, clockText,
      fixedDigits_eq_none ⟨'\x7d', by simp, rfl⟩]
    rfl

end

/-- A day and a day with a time of day are read back. -/
theorem instantText_day (h : d.IsReadable) (hrest : EndsValue rest) :
    instantText ((Moment.day d).text.toList ++ rest) = some (.day d, rest) := by
  rw [Moment.text, instantText, dayText_text h]
  simp only [Option.bind_eq_bind, Option.bind_some, hrest.clock_eq_none]
  rfl

theorem instantText_of_parts (h : d.IsReadable) {s t rest : List Char} {c : Clock}
    (hclock : clockText s = some (c, t)) (hzone : zoneText t = (offset, rest)) :
    instantText (d.text.toList ++ ' ' :: s) = some (.instant d c offset, rest) := by
  rw [instantText, dayText_text h]
  simp only [Option.bind_eq_bind, Option.bind_some]
  rw [oneOf_cons (by decide), Option.bind_some, hclock]
  dsimp only
  rw [hzone]
  rfl

theorem instantText_instant {c : Clock} (h : (Moment.instant d c offset).IsReadable)
    (hrest : EndsValue rest) :
    instantText ((Moment.instant d c offset).text.toList ++ rest) =
      some (.instant d c offset, rest) := by
  obtain ⟨hday, hclock, hoffset⟩ := h
  have hblank : " ".toList = [' '] := rfl
  rw [Moment.text, String.toList_append, String.toList_append, String.toList_append, hblank]
  simp only [append_assoc, cons_append, nil_append]
  cases offset with
  | none =>
    rw [Option.map_none, Option.getD_none, String.toList_empty, nil_append]
    exact instantText_of_parts hday
      (clockText_text hclock (hrest.head (by decide))) (zoneText_eq_none (hrest.head (by decide)))
  | some minutes =>
    rw [Option.map_some, Option.getD_some]
    have hsign : ∀ x ∈ ((offsetText minutes).toList ++ rest).head?, x.isDigit = false ∧ x ≠ '.' := by
      intro x hx
      rw [toList_offsetText, cons_append, head?_cons, Option.mem_some_iff] at hx
      rw [← hx]
      split <;> decide
    exact instantText_of_parts hday (clockText_text hclock hsign)
      (zoneText_offsetText (hoffset minutes rfl) rest)

/-! ## Runs of digits -/

/-- A run of digits that no mark of a date or time follows is neither of both. -/
theorem instantText_of_digits {digits rest : List Char} (hdigits : IsDigits digits)
    (hrest : ∀ c ∈ rest.head?, c.isDigit = false ∧ c ≠ '-') :
    instantText (digits ++ rest) = none := by
  rw [instantText, dayText]
  cases hyear : fixedDigits 4 0 9999 (digits ++ rest) with
  | none => rfl
  | some found =>
    have hmark := oneOf_after_fixedDigits hdigits (by decide) hrest hyear
    simp only [Option.bind_eq_bind, Option.bind_some, hmark]
    rfl

theorem clockText_of_digits {digits rest : List Char} (hdigits : IsDigits digits)
    (hrest : ∀ c ∈ rest.head?, c.isDigit = false ∧ c ≠ ':') :
    clockText (digits ++ rest) = none := by
  rw [clockText]
  cases hhour : fixedDigits 2 0 23 (digits ++ rest) with
  | none => rfl
  | some found =>
    have hmark := oneOf_after_fixedDigits hdigits (by decide) hrest hhour
    simp only [Option.bind_eq_bind, Option.bind_some, hmark]
    rfl

theorem instantText_of_head (h : c.isDigit = false) (rest : List Char) :
    instantText (c :: rest) = none := by
  rw [instantText, dayText, fixedDigits_eq_none ⟨c, by simp, h⟩]
  rfl

theorem clockText_of_head (h : c.isDigit = false) (rest : List Char) :
    clockText (c :: rest) = none := by
  rw [clockText, fixedDigits_eq_none ⟨c, by simp, h⟩]
  rfl

theorem prefixedInteger_eq_none (h : ∀ c rest, text = '0' :: c :: rest → c ∉ ['x', 'b', 'o']) :
    prefixedInteger text = none := by
  unfold prefixedInteger
  split
  · exact absurd (by simp) (h 'x' _ rfl)
  · exact absurd (by simp) (h 'b' _ rfl)
  · exact absurd (by simp) (h 'o' _ rfl)
  · rfl

/-- A run of digits ends before what is neither a digit nor a bar between digits. -/
theorem groupedDigits_append {digits rest : List Char} (hdigits : IsDigits digits)
    (hrest : ∀ c ∈ rest.head?, c.isDigit = false ∧ c ≠ '_') :
    groupedDigits Char.isDigit (digits ++ rest) = (digits, rest) := by
  induction digits with
  | nil =>
    cases rest with
    | nil => rfl
    | cons c rest =>
      obtain ⟨hdigit, hbar⟩ := hrest c rfl
      rw [nil_append, groupedDigits, hdigit, if_neg Bool.false_ne_true]
      exact fun _ _ heq _ => hbar heq
  | cons c digits ih =>
    have hc : c.isDigit = true := hdigits c mem_cons_self
    rw [cons_append, groupedDigits, hc, if_pos rfl, ih fun d hd => hdigits d (mem_cons_of_mem _ hd)]
    rintro d tail rfl
    exact absurd hc (by decide)

theorem digitsOf_append {digits rest : List Char} (hdigits : IsDigits digits) (hne : digits ≠ [])
    (hrest : ∀ c ∈ rest.head?, c.isDigit = false ∧ c ≠ '_') :
    digitsOf Char.isDigit (digits ++ rest) = some (digits, rest) := by
  obtain ⟨c, tail, rfl⟩ := exists_cons_of_ne_nil hne
  rw [digitsOf, cons_append, oneOf_cons (hdigits c mem_cons_self), Option.isSome_some,
    if_pos rfl, ← cons_append, groupedDigits_append hdigits hrest]

/-- The digits before the point. -/
def wholeText (text : List Char) : Option (List Char × List Char) :=
  match text with
  | '0' :: rest => some (['0'], rest)
  | text => digitsOf Char.isDigit text

/-- The digits after the point, if there are any. -/
def fractionText (text : List Char) : Option (List Char) × List Char :=
  match text with
  | '.' :: rest => match digitsOf Char.isDigit rest with
    | some (digits, after) => (some digits, after)
    | none => (none, text)
  | text => (none, text)

/-- The exponent, if there is one. -/
def exponentText (text : List Char) : Option (Int × List Char) := do
  let rest ← oneOf (fun c => c = 'e' || c = 'E') text
  let sign := rest.head?
  let rest := (oneOf (fun c => c = '+' || c = '-') rest).getD rest
  let (digits, after) ← digitsOf Char.isDigit rest
  let value : Int := digitsValue digits
  return (if sign = some '-' then -value else value, after)

theorem numberText_eq (text : List Char) : numberText text = (do
    let (whole, tail) ← wholeText ((oneOf (fun c => c = '+' || c = '-') text).getD text)
    let (fraction, tail) := fractionText tail
    match fraction, exponentText tail with
    | none, none => return (⟨text.head? = some '-', whole, none⟩, tail)
    | digits, none => return (⟨text.head? = some '-', whole, some (digits.getD [], 0)⟩, tail)
    | digits, some (power, after) =>
      return (⟨text.head? = some '-', whole, some (digits.getD [], power)⟩, after)) := by
  unfold numberText
  dsimp only
  generalize (oneOf (fun c => c = '+' || c = '-') text).getD text = unsigned
  split
  · rfl
  case h_2 hzero =>
    have hwhole : wholeText unsigned = digitsOf Char.isDigit unsigned := by
      rw [wholeText]
      exact hzero
    rw [hwhole]
    rfl

/-- The sign before a number. -/
def signChars (isNegative : Bool) : List Char := if isNegative then ['-'] else []

/-- How a number is laid out: the digits before and after the point, and the sign and the digits of
the exponent. -/
structure Numeral where
  whole : List Char
  fraction : List Char
  exponent : Option (Char × List Char)

namespace Numeral

/-- The exponent with its letter. -/
def exponentChars (n : Numeral) : List Char :=
  match n.exponent with
  | none => []
  | some (sign, places) => 'e' :: sign :: places

/-- The fraction with its point. -/
def fractionChars (n : Numeral) : List Char := if n.fraction = [] then [] else '.' :: n.fraction

/-- The characters of the number without a sign. -/
def chars (n : Numeral) : List Char := n.whole ++ (n.fractionChars ++ n.exponentChars)

/-- The value of the exponent. -/
def power (n : Numeral) : Int :=
  match n.exponent with
  | none => 0
  | some (sign, places) => if sign = '-' then -(digitsValue places : Int) else digitsValue places

/-- What the number is read as at first. -/
def parts (n : Numeral) (isNegative : Bool) : NumberText :=
  ⟨isNegative, n.whole,
    if n.fraction = [] ∧ n.exponent = none then none else some (n.fraction, n.power)⟩

/-- Digits stand where digits belong, and there is no zero too many at the start. -/
structure IsRegular (n : Numeral) : Prop where
  whole : IsDigits n.whole
  whole_ne : n.whole ≠ []
  noZero : n.whole = ['0'] ∨ n.whole.head? ≠ some '0'
  fraction : IsDigits n.fraction
  sign : ∀ e ∈ n.exponent, e.1 = '+' ∨ e.1 = '-'
  places : ∀ e ∈ n.exponent, IsDigits e.2 ∧ e.2 ≠ []

variable {n : Numeral} {rest : List Char}

theorem IsRegular.head_chars (h : n.IsRegular) (rest : List Char)
    (hc : c ∈ (n.chars ++ rest).head?) : c.isDigit = true ∧ c ∈ n.whole := by
  obtain ⟨d, digits, hwhole⟩ := exists_cons_of_ne_nil h.whole_ne
  rw [chars, hwhole, cons_append, cons_append, head?_cons, Option.mem_some_iff] at hc
  subst hc
  have hmem : d ∈ n.whole := by rw [hwhole]; exact mem_cons_self
  exact ⟨h.whole d hmem, hmem⟩

theorem IsRegular.mem_chars (h : n.IsRegular) (hc : c ∈ n.chars) :
    c.isDigit = true ∨ c ∈ ['.', 'e', '+', '-'] := by
  rw [chars, mem_append, mem_append, fractionChars, exponentChars] at hc
  rcases hc with hc | hc | hc
  · exact .inl (h.whole c hc)
  · split at hc
    · exact absurd hc not_mem_nil
    · rcases mem_cons.mp hc with rfl | hc
      · exact .inr (by decide)
      · exact .inl (h.fraction c hc)
  · split at hc
    · exact absurd hc not_mem_nil
    case h_2 sign places hexp =>
      rcases mem_cons.mp hc with rfl | hc
      · exact .inr (by decide)
      rcases mem_cons.mp hc with rfl | hc
      · rcases h.sign _ hexp with hsign | hsign <;> exact .inr (by rw [show c = _ from hsign]; decide)
      · exact .inl ((h.places _ hexp).1 c hc)

theorem wholeText_append (h : n.IsRegular) {tail : List Char}
    (htail : ∀ c ∈ tail.head?, c.isDigit = false ∧ c ≠ '_') :
    wholeText (n.whole ++ tail) = some (n.whole, tail) := by
  rcases h.noZero with hzero | hzero
  · rw [hzero]
    rfl
  · obtain ⟨c, digits, hwhole⟩ := exists_cons_of_ne_nil h.whole_ne
    have hc : c ≠ '0' := by
      rintro rfl
      exact hzero (by rw [hwhole]; rfl)
    have hdigits := digitsOf_append h.whole h.whole_ne htail
    rw [hwhole, cons_append] at hdigits ⊢
    rw [wholeText]
    · exact hdigits
    · rintro rest heq
      exact hc (List.cons.inj heq).1

section

variable (h : n.IsRegular) (hrest : EndsValue rest)

include hrest

theorem head_exponentChars {P : Char → Prop} (hP : P 'e' ∧ P '\n' ∧ P ',' ∧ P ' ') :
    ∀ c ∈ (n.exponentChars ++ rest).head?, P c := by
  rw [exponentChars]
  split
  · exact hrest.head hP.2
  · rintro c ⟨⟩
    exact hP.1

theorem head_behindWhole {P : Char → Prop} (hP : P '.' ∧ P 'e' ∧ P '\n' ∧ P ',' ∧ P ' ') :
    ∀ c ∈ (n.fractionChars ++ (n.exponentChars ++ rest)).head?, P c := by
  rw [fractionChars]
  split
  · exact head_exponentChars hrest hP.2
  · rintro c ⟨⟩
    exact hP.1

include h

theorem fractionText_append :
    fractionText (n.fractionChars ++ (n.exponentChars ++ rest)) =
      (if n.fraction = [] then none else some n.fraction, n.exponentChars ++ rest) := by
  rw [fractionChars]
  split
  case isTrue hnone =>
    rw [nil_append, fractionText]
    rintro tail heq
    have hpoint : ∀ c ∈ (n.exponentChars ++ rest).head?, c ≠ '.' :=
      head_exponentChars hrest (by decide)
    exact hpoint '.' (by rw [heq]; rfl) rfl
  case isFalse hsome =>
    rw [cons_append, fractionText,
      digitsOf_append h.fraction hsome (head_exponentChars hrest (by decide))]

theorem exponentText_append :
    exponentText (n.exponentChars ++ rest) = n.exponent.map fun _ => (n.power, rest) := by
  rw [exponentChars, power]
  cases hexp : n.exponent with
  | none =>
    rw [nil_append, exponentText, oneOf_eq_none (hrest.head (by decide))]
    rfl
  | some e =>
    obtain ⟨sign, places⟩ := e
    obtain ⟨hdigits, hne⟩ := h.places _ hexp
    have hsign := h.sign _ hexp
    have hvalue := digitsOf_append hdigits hne (hrest.head (by decide))
    dsimp only at hsign hvalue
    rw [exponentText, cons_append, oneOf_cons (by decide)]
    simp only [Option.bind_eq_bind, Option.bind_some, cons_append, head?_cons]
    rw [oneOf_cons (by rcases hsign with rfl | rfl <;> rfl), Option.getD_some, hvalue]
    simp only [Option.bind_some, Option.some.injEq]
    rfl

/-- A number that is laid out regularly is read back. -/
theorem numberText_chars (isNegative : Bool) :
    numberText (signChars isNegative ++ (n.chars ++ rest)) = some (n.parts isNegative, rest) := by
  have hsign : (oneOf (fun c => c = '+' || c = '-')
      (signChars isNegative ++ (n.chars ++ rest))).getD (signChars isNegative ++ (n.chars ++ rest))
        = n.chars ++ rest
      ∧ decide ((signChars isNegative ++ (n.chars ++ rest)).head? = some '-') = isNegative := by
    cases isNegative with
    | true => exact ⟨rfl, rfl⟩
    | false =>
      have hplain : ∀ d ∈ (n.chars ++ rest).head?, ¬ (d = '+' ∨ d = '-') := by
        rintro d hd (rfl | rfl) <;> exact absurd (h.head_chars rest hd).1 (by decide)
      refine ⟨?_, decide_eq_false fun hd => hplain _ hd (.inr rfl)⟩
      rw [signChars, if_neg Bool.false_ne_true, nil_append,
        oneOf_eq_none fun d hd => by simpa using hplain d hd, Option.getD_none]
  rw [numberText_eq, hsign.1, hsign.2, chars, parts, append_assoc, append_assoc,
    wholeText_append h (head_behindWhole hrest (by decide))]
  simp only [Option.bind_eq_bind, Option.bind_some, fractionText_append h hrest,
    exponentText_append h hrest]
  by_cases hfraction : n.fraction = []
  · cases hexp : n.exponent with
    | none => simp [hfraction, exponentChars, hexp]
    | some e => simp [hfraction]
  · cases hexp : n.exponent with
    | none => simp [hfraction, power, exponentChars, hexp]
    | some e => simp [hfraction]

theorem prefixedInteger_chars :
    prefixedInteger (n.chars ++ rest) = none := by
  refine prefixedInteger_eq_none fun c tail heq => ?_
  rcases h.noZero with hzero | hzero
  · rw [chars, hzero, append_assoc, append_assoc, singleton_append] at heq
    have hc : c ∈ (n.fractionChars ++ (n.exponentChars ++ rest)).head? := by
      rw [(List.cons.inj heq).2]
      rfl
    exact head_behindWhole (P := (· ∉ ['x', 'b', 'o'])) hrest (by decide) c hc
  · obtain ⟨d, digits, hwhole⟩ := exists_cons_of_ne_nil h.whole_ne
    rw [chars, hwhole, cons_append, cons_append] at heq
    rw [hwhole, (List.cons.inj heq).1] at hzero
    exact absurd rfl hzero

/-- A number that is laid out regularly is read as its value, with its sign. -/
theorem run_plainValue {isNegative : Bool} {value : Value}
    (hvalue : (n.parts isNegative).value = .ok value) :
    plainValue.run (signChars isNegative ++ (n.chars ++ rest)) = .ok (value, rest) := by
  have hnumber := numberText_chars h hrest isNegative
  have hothers : instantText (signChars isNegative ++ (n.chars ++ rest)) = none ∧
      clockText (signChars isNegative ++ (n.chars ++ rest)) = none ∧
      prefixedInteger (signChars isNegative ++ (n.chars ++ rest)) = none := by
    cases isNegative with
    | true => exact ⟨instantText_of_head rfl _, clockText_of_head rfl _, rfl⟩
    | false =>
      rw [signChars, if_neg Bool.false_ne_true, nil_append]
      refine ⟨?_, ?_, prefixedInteger_chars h hrest⟩
      · rw [chars, append_assoc, append_assoc]
        exact instantText_of_digits h.whole (head_behindWhole hrest (by decide))
      · rw [chars, append_assoc, append_assoc]
        exact clockText_of_digits h.whole (head_behindWhole hrest (by decide))
  rw [plainValue, run_bind_of_ok run_get, hothers.1, hothers.2.1, hothers.2.2, hnumber]
  dsimp only
  rw [run_bind_of_ok run_set, hvalue]
  rfl

end

end Numeral

/-- The characters of a moment. -/
theorem mem_momentText {m : Moment} (hc : c ∈ m.text.toList) :
    c.isDigit = true ∨ c ∈ ['-', ':', ' ', '.', '+'] := by
  have hpadded := fun width n => isDigits_padded width n c
  have hday (d : Day) (h : c ∈ d.text.toList) :
      c.isDigit = true ∨ c ∈ ['-', ':', ' ', '.', '+'] := by
    simp only [toList_dayText, mem_append, mem_cons] at h
    grind
  have hclock (k : Clock) (h : c ∈ k.text.toList) :
      c.isDigit = true ∨ c ∈ ['-', ':', ' ', '.', '+'] := by
    simp only [toList_clockText, mem_append, mem_cons] at h
    grind
  cases m with
  | day d => exact hday d hc
  | clock k => exact hclock k hc
  | instant d k offset =>
    rw [Moment.text, String.toList_append, String.toList_append, String.toList_append,
      mem_append, mem_append, mem_append] at hc
    rcases hc with ((hc | hc) | hc) | hc
    · exact hday d hc
    · exact .inr (by rw [mem_singleton.mp hc]; decide)
    · exact hclock k hc
    · cases offset with
      | none => exact absurd hc not_mem_nil
      | some minutes =>
        simp only [Option.map_some, Option.getD_some, toList_offsetText, mem_append,
          mem_cons] at hc
        grind

/-- A moment starts with a digit. -/
theorem head_momentText (m : Moment) : ∃ c tail, m.text.toList = c :: tail ∧ c.isDigit = true := by
  have hpadded : ∀ width n rest, ∃ c tail,
      (padded width n).toList ++ rest = c :: tail ∧ c.isDigit = true := by
    intro width n rest
    have hne : (padded width n).toList ≠ [] := by
      rw [toList_padded]
      exact append_ne_nil_of_right_ne_nil _ (ne_nil_of_length_pos Nat.length_toDigits_pos)
    obtain ⟨c, tail, heq⟩ := exists_cons_of_ne_nil hne
    exact ⟨c, tail ++ rest, by rw [heq, cons_append],
      isDigits_padded width n c (by rw [heq]; exact mem_cons_self)⟩
  cases m with
  | day d =>
    rw [Moment.text, toList_dayText]
    exact hpadded _ _ _
  | clock k =>
    rw [Moment.text, toList_clockText]
    exact hpadded _ _ _
  | instant d k offset =>
    rw [Moment.text, String.toList_append, String.toList_append, String.toList_append, toList_dayText,
      append_assoc, append_assoc, append_assoc]
    exact hpadded _ _ _

/-- A moment is read back. -/
theorem run_plainValue_moment {m : Moment} (h : m.IsReadable) (hrest : EndsValue rest) :
    plainValue.run (m.text.toList ++ rest) = .ok (.moment m, rest) := by
  rw [plainValue, run_bind_of_ok run_get]
  cases m with
  | day d =>
    have hvalid : (Moment.day d).isValid = true := h.1
    rw [instantText_day h hrest]
    dsimp only
    rw [hvalid]
    rfl
  | clock c =>
    have hinstant : instantText ((Moment.clock c).text.toList ++ rest) = none := by
      rw [Moment.text, toList_clockText, append_assoc, cons_append]
      exact instantText_of_digits (isDigits_padded 2 _) fun x hx => by
        rw [← Option.mem_some_iff.mp hx]
        decide
    rw [hinstant, Moment.text, clockText_text h (hrest.head (by decide))]
    rfl
  | instant d c offset =>
    have hvalid : (Moment.instant d c offset).isValid = true := h.1.1
    rw [instantText_instant h hrest]
    dsimp only
    rw [hvalid]
    rfl

/-! ## Integers -/

theorem digitChar_ne_zero : ∀ n < 10, n ≠ 0 → n.digitChar ≠ '0' := by decide

theorem head_toDigits {n : Nat} (h : n ≠ 0) : (Nat.toDigits 10 n).head? ≠ some '0' := by
  induction n using Nat.strongRecOn with
  | ind n ih =>
    by_cases hn : n < 10
    · rw [Nat.toDigits_of_lt_base hn, head?_cons, ne_eq, Option.some_inj]
      exact digitChar_ne_zero n hn h
    · rw [Nat.toDigits_of_base_le (by decide) (by omega),
        head?_append_of_ne_nil _ (ne_nil_of_length_pos Nat.length_toDigits_pos)]
      exact ih (n / 10) (by omega) (by omega)

/-- The layout of an integer. -/
def integerNumeral (n : Nat) : Numeral := ⟨Nat.toDigits 10 n, [], none⟩

theorem isRegular_integerNumeral (n : Nat) : (integerNumeral n).IsRegular where
  whole := isDigits_toDigits n
  whole_ne := ne_nil_of_length_pos Nat.length_toDigits_pos
  noZero := by
    rcases eq_or_ne n 0 with rfl | h
    · exact .inl rfl
    · exact .inr (head_toDigits h)
  fraction := fun _ hc => absurd hc not_mem_nil
  sign := fun _ he => absurd he (Option.not_mem_none _)
  places := fun _ he => absurd he (Option.not_mem_none _)

theorem toList_toString_int (n : Int) :
    (toString n).toList = signChars (decide (n < 0)) ++ Nat.toDigits 10 n.natAbs := by
  cases n with
  | ofNat m => exact Nat.toList_repr
  | negSucc m =>
    change ("-" ++ Nat.repr (m + 1)).toList = _
    rw [String.toList_append, Nat.toList_repr, signChars,
      if_pos (decide_eq_true (Int.negSucc_lt_zero m))]
    rfl

theorem value_integer (isNegative : Bool) {whole : List Char}
    (h : ¬ whole.length > Script.maxDecimalDigits) : (⟨isNegative, whole, none⟩ : NumberText).value =
      .ok (.integer (if isNegative then -(digitsValue whole : Int) else digitsValue whole)) :=
  if_neg h

/-- An integer that is not too long is read back. -/
theorem run_plainValue_integer {n : Int} {text : String} (h : Value.integerText n = .ok text)
    (hrest : EndsValue rest) :
    plainValue.run (text.toList ++ rest) = .ok (.integer n, rest) := by
  rw [Value.integerText] at h
  split at h
  case isTrue => exact absurd h (by simp)
  case isFalse hshort =>
    obtain rfl := Except.ok.inj h
    have hchars : (integerNumeral n.natAbs).chars = Nat.toDigits 10 n.natAbs := by
      simp [integerNumeral, Numeral.chars, Numeral.fractionChars, Numeral.exponentChars]
    have hvalue : ((integerNumeral n.natAbs).parts (decide (n < 0))).value = .ok (.integer n) := by
      have hsign : (if decide (n < 0) then -(n.natAbs : Int) else n.natAbs) = n := by
        simp only [decide_eq_true_eq]
        omega
      have hread := value_integer (decide (n < 0)) hshort
      rw [digitsValue_toDigits, hsign] at hread
      exact hread
    rw [toList_toString_int, append_assoc, ← hchars]
    exact Numeral.run_plainValue (isRegular_integerNumeral _) hrest hvalue

/-! ## Decimals -/

/-- The value that a numeral is read as. -/
def Numeral.value (n : Numeral) : ℚ :=
  digitsValue (n.whole ++ n.fraction) * 10 ^ (n.power - n.fraction.length)

/-- Are these the characters of a decimal with this value? -/
def IsDecimal (chars : List Char) (value : ℚ) : Prop :=
  ∃ n : Numeral, n.IsRegular ∧ n.chars = chars ∧ ¬ (n.fraction = [] ∧ n.exponent = none) ∧
    n.value = value

theorem isDecimal_point {whole fraction : List Char} (hwhole : IsDigits whole) (hne : whole ≠ [])
    (hzero : whole = ['0'] ∨ whole.head? ≠ some '0') (hfraction : IsDigits fraction)
    (hsome : fraction ≠ []) : IsDecimal (whole ++ '.' :: fraction)
      (digitsValue (whole ++ fraction) * 10 ^ (-(fraction.length : Int))) := by
  refine ⟨⟨whole, fraction, none⟩, ⟨hwhole, hne, hzero, hfraction, by simp, by simp⟩, ?_,
    fun h => hsome h.1, by simp [Numeral.value, Numeral.power]⟩
  simp [Numeral.chars, Numeral.fractionChars, Numeral.exponentChars, hsome]

section Layout

variable {text : List Char} (hdigits : IsDigits text) (hne : text ≠ []) (hhead : text.head? ≠ some '0')

include hdigits hne hhead

/-- One digit before the point and an exponent. -/
theorem isDecimal_scientific (power : Int) : IsDecimal
    (text.take 1 ++ ((if (text.drop 1).isEmpty then [] else '.' :: text.drop 1) ++
      'e' :: (if power < 0 then '-' else '+') :: (if (Nat.toDigits 10 power.natAbs).length < 2
        then '0' :: Nat.toDigits 10 power.natAbs else Nat.toDigits 10 power.natAbs)))
    (digitsValue text * 10 ^ (power - (text.length - 1))) := by
  obtain ⟨c, tail, rfl⟩ := exists_cons_of_ne_nil hne
  generalize hplaces : (if (Nat.toDigits 10 power.natAbs).length < 2
    then '0' :: Nat.toDigits 10 power.natAbs else Nat.toDigits 10 power.natAbs) = places
  have hall : IsDigits places ∧ places ≠ [] := by
    have hpos : Nat.toDigits 10 power.natAbs ≠ [] := ne_nil_of_length_pos Nat.length_toDigits_pos
    rw [← hplaces]
    split
    · exact ⟨(isDigits_replicate 1).append (isDigits_toDigits _), cons_ne_nil _ _⟩
    · exact ⟨isDigits_toDigits _, hpos⟩
  have hvalue : digitsValue places = power.natAbs := by
    rw [← hplaces]
    split
    · rw [← singleton_append, digitsValue_append, digitsValue_toDigits]
      exact (congrArg (· + _) (Nat.zero_mul _)).trans (Nat.zero_add _)
    · exact digitsValue_toDigits _
  let n : Numeral := ⟨[c], tail, some (if power < 0 then '-' else '+', places)⟩
  have hpower : n.power = power := by
    simp only [n, Numeral.power, hvalue]
    by_cases hneg : power < 0
    · rw [if_pos hneg, if_pos rfl]
      omega
    · rw [if_neg hneg, if_neg (by decide)]
      omega
  refine ⟨n, ?_, ?_, by simp [n], ?_⟩
  · refine ⟨?_, cons_ne_nil _ _, .inr hhead, ?_, ?_, ?_⟩
    · intro d hd
      exact hdigits d (mem_cons.mpr (.inl (mem_singleton.mp hd)))
    · exact fun d hd => hdigits d (mem_cons_of_mem _ hd)
    · intro e he
      rw [← Option.mem_some_iff.mp he]
      dsimp only
      split <;> simp
    · intro e he
      rw [← Option.mem_some_iff.mp he]
      exact hall
  · simp only [n, Numeral.chars, Numeral.fractionChars, Numeral.exponentChars, List.isEmpty_iff]
    rfl
  · rw [Numeral.value, hpower]
    simp only [n, singleton_append, length_cons]
    push_cast
    ring_nf

omit hhead in
/-- Zeros between the point and the digits. -/
theorem isDecimal_small (zeros : Nat) : IsDecimal ('0' :: '.' :: (List.replicate zeros '0' ++ text))
    (digitsValue text * 10 ^ (-(zeros : Int) - text.length)) := by
  have hvalue : digitsValue (['0'] ++ (List.replicate zeros '0' ++ text)) = digitsValue text := by
    rw [← append_assoc, digitsValue_append, singleton_append, ← replicate_succ,
      digitsValue_replicate, Nat.zero_mul, Nat.zero_add]
  have h := isDecimal_point (show IsDigits ['0'] from isDigits_replicate 1) (by simp) (.inl rfl)
    ((isDigits_replicate zeros).append hdigits) (append_ne_nil_of_right_ne_nil _ hne)
  rwa [hvalue, length_append, length_replicate, Nat.cast_add, neg_add,
    ← sub_eq_add_neg] at h

/-- The point inside the digits. -/
theorem isDecimal_inner {point : Nat} (hpoint : 0 < point) (hlt : point < text.length) :
    IsDecimal (text.take point ++ '.' :: text.drop point)
      (digitsValue text * 10 ^ ((point : Int) - text.length)) := by
  have hwhole : IsDigits (text.take point) := fun d hd => hdigits d (take_subset _ _ hd)
  have hfraction : IsDigits (text.drop point) := fun d hd => hdigits d (drop_subset _ _ hd)
  have h := isDecimal_point hwhole (by simp [hne, hpoint.ne'])
    (.inr (by rwa [head?_take, if_neg hpoint.ne'])) hfraction (by simpa using hlt)
  rwa [take_append_drop, length_drop, Nat.cast_sub hlt.le, neg_sub] at h

/-- Zeros between the digits and the point. -/
theorem isDecimal_large (zeros : Nat) : IsDecimal (text ++ (List.replicate zeros '0' ++ ['.', '0']))
    (digitsValue text * 10 ^ (zeros : Int)) := by
  have hvalue : digitsValue (text ++ List.replicate zeros '0' ++ ['0']) =
      digitsValue text * 10 ^ (zeros + 1) := by
    rw [append_assoc, ← replicate_succ', digitsValue_append, digitsValue_replicate,
      length_replicate, Nat.add_zero]
  have h := isDecimal_point (hdigits.append (isDigits_replicate zeros))
    (append_ne_nil_of_left_ne_nil hne _)
    (.inr (by rwa [head?_append_of_ne_nil _ hne]))
    (show IsDigits ['0'] from isDigits_replicate 1) (by simp)
  rw [hvalue, append_assoc] at h
  convert h using 1
  rw [zpow_natCast, Nat.cast_mul, Nat.cast_pow, pow_succ]
  norm_num
  ring

end Layout

/-- The layout of a decimal is regular, is not that of an integer, and has the decimal's value. -/
theorem isDecimal_layout (d : Digits) : IsDecimal (plainStyle.layout d).toList d.value := by
  have hdigits := isDigits_toDigits d.digits
  have hne : Nat.toDigits 10 d.digits ≠ [] := ne_nil_of_length_pos Nat.length_toDigits_pos
  have hd : d.value = digitsValue (Nat.toDigits 10 d.digits) * 10 ^ d.exponent := by
    rw [digitsValue_toDigits, Digits.value]
  rw [DecimalStyle.layout, hd]
  dsimp only
  by_cases hzero : d.digits = 0
  · convert isDecimal_small (isDigits_replicate 1) (by decide) 0 using 1
    · rw [if_pos hzero]
      rfl
    · simp [hzero, digitsValue]
  have hhead := head_toDigits hzero
  rw [if_neg hzero]
  generalize Nat.toDigits 10 d.digits = text at hdigits hne hhead
  have hpos : 0 < text.length := length_pos_iff.mpr hne
  split
  case isTrue =>
    convert isDecimal_scientific hdigits hne hhead (text.length + d.exponent - 1) using 1
    · simp only [String.toList_ofList, append_assoc, cons_append, nil_append]
    · ring_nf
  case isFalse =>
    split
    case isTrue hsmall =>
      convert isDecimal_small hdigits hne (-(text.length + d.exponent)).toNat using 1
      · rw [String.toList_ofList]
        rfl
      · rw [Int.toNat_of_nonneg (by omega)]
        ring_nf
    case isFalse hpoint =>
      have hnat : ((text.length + d.exponent).toNat : Int) = text.length + d.exponent :=
        Int.toNat_of_nonneg (by omega)
      split
      case isTrue hinner =>
        convert isDecimal_inner hdigits hne hhead (by omega) hinner using 1
        · rw [String.toList_ofList, append_assoc]
          rfl
        · rw [hnat]
          ring_nf
      case isFalse hlarge =>
        convert isDecimal_large hdigits hne hhead ((text.length + d.exponent).toNat - text.length)
          using 1
        · rw [String.toList_ofList, append_assoc]
          rfl
        · rw [Nat.cast_sub (by omega), hnat]
          ring_nf

theorem value_decimal (isNegative : Bool) (whole digits : List Char) (power : Int) :
    (⟨isNegative, whole, some (digits, power)⟩ : NumberText).value = .ok (.decimal
      (if isNegative then (Binary64.ofDecimal (digitsValue (whole ++ digits)) (power - digits.length)).neg
      else Binary64.ofDecimal (digitsValue (whole ++ digits)) (power - digits.length))) :=
  rfl

theorem run_plainValue_word (rest : List Char) :
    plainValue.run ("inf".toList ++ rest) = .ok (.decimal Binary64.infinity, rest) ∧
      plainValue.run ("-inf".toList ++ rest) = .ok (.decimal Binary64.infinity.neg, rest) ∧
      plainValue.run ("nan".toList ++ rest) = .ok (.decimal ⟨0x7FF8000000000000⟩, rest) := by
  have hinf : instantText ("inf".toList ++ rest) = none := instantText_of_head (c := 'i') rfl _
  have hnan : instantText ("nan".toList ++ rest) = none := instantText_of_head (c := 'n') rfl _
  refine ⟨?_, rfl, ?_⟩
  · rw [plainValue, run_bind_of_ok run_get, hinf]
    rfl
  · rw [plainValue, run_bind_of_ok run_get, hnan]
    rfl

/-- The fields of an infinity leave only the sign open. -/
theorem unsigned_of_isInfinite (h : x.isInfinite = true) :
    x.unsigned = Binary64.infinity := by
  simp only [Binary64.isInfinite, Bool.and_eq_true, decide_eq_true_eq] at h
  have hexp := Binary64.exponentField_eq x
  have hfrac := Binary64.fractionField_eq x
  apply Binary64.ext_bits
  rw [Binary64.bits_unsigned, show Binary64.infinity.bits.toNat = 2047 * 2 ^ 52 from rfl]
  omega

theorem exponentField_ne_of_finite (hnan : x.isNaN = false) (hinf : x.isInfinite = false) :
    x.exponentField ≠ 2047 := by
  intro h
  rw [Binary64.isNaN, h] at hnan
  rw [Binary64.isInfinite, h] at hinf
  simp at hnan hinf
  exact hinf hnan

/-- The text of a number is one of three words or a numeral that reads as the number. -/
theorem write_cases (x : Binary64) :
    (x.isNaN = true ∧ plainStyle.write x = "nan") ∨
      (x = Binary64.infinity ∧ plainStyle.write x = "inf") ∨
      (x = Binary64.infinity.neg ∧ plainStyle.write x = "-inf") ∨
      ∃ n : Numeral, n.IsRegular ∧ ¬ (n.fraction = [] ∧ n.exponent = none) ∧
        (plainStyle.write x).toList = signChars x.isNegative ++ n.chars ∧
        Binary64.ofDecimal (digitsValue (n.whole ++ n.fraction)) (n.power - n.fraction.length) =
          x.unsigned := by
  rw [DecimalStyle.write]
  cases hx : x.isNaN with
  | true => exact .inl ⟨rfl, rfl⟩
  | false =>
    rw [if_neg Bool.false_ne_true]
    cases hi : x.isInfinite with
    | true =>
      have hunsigned := unsigned_of_isInfinite hi
      cases hneg : x.isNegative with
      | true =>
        rw [← hunsigned, Binary64.neg_unsigned_of_isNegative hneg]
        exact .inr (.inr (.inl ⟨rfl, rfl⟩))
      | false =>
        rw [← hunsigned, Binary64.unsigned_of_not_isNegative hneg]
        exact .inr (.inl ⟨rfl, rfl⟩)
    | false =>
      obtain ⟨n, hregular, hchars, hsome, hvalue⟩ := isDecimal_layout (shortest x)
      refine .inr (.inr (.inr ⟨n, hregular, hsome, ?_, ?_⟩))
      · rw [hchars]
        dsimp only
        rw [if_neg Bool.false_ne_true]
        cases x.isNegative with
        | true => exact String.toList_append
        | false => rfl
      · rw [Binary64.ofDecimal_eq_ofRat, ← read_shortest (exponentField_ne_of_finite hx hi),
          Digits.read_eq, ← hvalue, Numeral.value]

/-- A decimal number is read back; of the many patterns for what is not a number, the one that is
read as such. -/
theorem run_plainValue_decimal (h : x.isNaN = true → x = ⟨0x7FF8000000000000⟩)
    (hrest : EndsValue rest) :
    plainValue.run ((plainStyle.write x).toList ++ rest) = .ok (.decimal x, rest) := by
  obtain ⟨hinf, hneginf, hnan⟩ := run_plainValue_word rest
  rcases write_cases x with ⟨hx, htext⟩ | ⟨rfl, htext⟩ | ⟨rfl, htext⟩ | ⟨n, hregular, hsome, htext, hread⟩
  · rw [htext, h hx]
    exact hnan
  · rw [htext]
    exact hinf
  · rw [htext]
    exact hneginf
  · have hsigned : (if x.isNegative then x.unsigned.neg else x.unsigned) = x := by
      cases hneg : x.isNegative with
      | true => exact Binary64.neg_unsigned_of_isNegative hneg
      | false => exact Binary64.unsigned_of_not_isNegative hneg
    rw [htext, append_assoc]
    refine Numeral.run_plainValue hregular hrest ?_
    rw [Numeral.parts, if_neg hsome, value_decimal, hread, hsigned]

end RobotKit.Config
