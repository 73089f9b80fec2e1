import Mathlib.Algebra.Group.Nat.Defs
import RobotKit.Link.Scan

/-!
# Decimal texts in the order of texts

The names of expression statements end in decimal numbers, and names are compared as texts. Among
numbers of one width this is the order of the numbers. Of two widths the longer one counts only with
its leading digits, so that `10` comes before `2`.
-/

namespace RobotKit.Link

open List RobotKit.Script

/-- The number of decimal digits of a number. -/
def width (n : Nat) : Nat := (toString n).length

/-- The number that the first digits of `j` make, as many as `i` has. -/
def leadingDigits (i j : Nat) : Nat := j / 10 ^ (width j - width i)

theorem toList_toString (n : Nat) : (toString n).toList = Nat.toDigits 10 n := Nat.toList_repr

theorem width_eq_length (n : Nat) : width n = (Nat.toDigits 10 n).length := by
  rw [width, ← String.length_toList, toList_toString]

theorem width_pos (n : Nat) : 0 < width n := by
  rw [width_eq_length]
  exact Nat.length_toDigits_pos

theorem width_le_iff {n k : Nat} (hk : 0 < k) : width n ≤ k ↔ n < 10 ^ k := by
  rw [width_eq_length]
  exact Nat.length_toDigits_le_iff (by decide) hk

theorem width_of_ten_le {n : Nat} (h : 10 ≤ n) : width n = width (n / 10) + 1 := by
  rw [width_eq_length, width_eq_length, Nat.toDigits_of_base_le (by decide) h, length_append,
    length_singleton]

theorem digitChar_lt {i j : Nat} (h : i < j) (hj : j < 10) : i.digitChar < j.digitChar := by
  have hi := Nat.toNat_digitChar_of_lt_ten (Nat.lt_trans h hj)
  have hj := Nat.toNat_digitChar_of_lt_ten hj
  rw [Char.lt_def, UInt32.lt_iff_toNat_lt]
  change i.digitChar.toNat < j.digitChar.toNat
  omega

/-- A difference inside two texts of one length decides, whatever follows. -/
theorem append_lt_append_of_length_eq {a b : List Char} (hlen : a.length = b.length) (h : a < b)
    (c d : List Char) : a ++ c < b ++ d := by
  induction a generalizing b with
  | nil =>
    rw [eq_nil_of_length_eq_zero hlen.symm] at h
    exact absurd h (List.lt_irrefl _)
  | cons x xs ih =>
    cases b with
    | nil => exact absurd hlen (by simp)
    | cons y ys =>
      rw [cons_lt_cons_iff] at h
      rw [cons_append, cons_append, cons_lt_cons_iff]
      rcases h with hxy | ⟨rfl, hrest⟩
      · exact .inl hxy
      · exact .inr ⟨rfl, ih (Nat.succ.inj hlen) hrest⟩

/-- Numbers of one width are ordered like their texts. -/
theorem toDigits_lt_of_width_eq {i j : Nat} (hwidth : width i = width j) (h : i < j) :
    Nat.toDigits 10 i < Nat.toDigits 10 j := by
  induction j using Nat.strongRecOn generalizing i with
  | ind j ih =>
    by_cases hj : j < 10
    · rw [Nat.toDigits_of_lt_base (by omega), Nat.toDigits_of_lt_base hj]
      exact List.Lex.rel (digitChar_lt h hj)
    · have hj : 10 ≤ j := Nat.le_of_not_lt hj
      have hi : 10 ≤ i := by
        refine Nat.le_of_not_lt fun hi => ?_
        have hone : width i ≤ 1 := (width_le_iff Nat.one_pos).mpr hi
        have hpos : 0 < width (j / 10) := width_pos _
        rw [width_of_ten_le hj] at hwidth
        omega
      rw [Nat.toDigits_of_base_le (by decide) hi, Nat.toDigits_of_base_le (by decide) hj]
      have hinner : width (i / 10) = width (j / 10) := by
        rw [width_of_ten_le hi, width_of_ten_le hj] at hwidth
        exact Nat.succ.inj hwidth
      by_cases hdiv : i / 10 < j / 10
      · exact append_lt_append_of_length_eq (by rw [← width_eq_length, ← width_eq_length, hinner])
          (ih (j / 10) (by omega) hinner hdiv) _ _
      · -- the leading digits agree, and the last digit decides
        have heq : i / 10 = j / 10 := by omega
        rw [heq]
        exact append_left_lt (List.Lex.rel (digitChar_lt (by omega) (by omega)))

/-- Dropping the last digits of a number leaves an initial part of its text. -/
theorem toDigits_div_pow {k j : Nat} (h : 10 ^ k ≤ j) :
    ∃ rest, Nat.toDigits 10 j = Nat.toDigits 10 (j / 10 ^ k) ++ rest ∧ rest.length = k := by
  induction k generalizing j with
  | zero => exact ⟨[], by simp, rfl⟩
  | succ k ih =>
    have hpos : 0 < 10 ^ k := Nat.pow_pos (by decide)
    rw [Nat.pow_succ] at h
    obtain ⟨rest, hrest, hlen⟩ := ih (j := j / 10) (by omega)
    refine ⟨rest ++ [(j % 10).digitChar], ?_, by simp [hlen]⟩
    rw [Nat.toDigits_of_base_le (by decide) (by omega), hrest, Nat.div_div_eq_div_mul,
      Nat.pow_succ, Nat.mul_comm 10, append_assoc]

/-- A larger number is no shorter. -/
theorem width_mono {i j : Nat} (h : i ≤ j) : width i ≤ width j :=
  (width_le_iff (width_pos j)).mpr
    (Nat.lt_of_le_of_lt h ((width_le_iff (width_pos j)).mp (Nat.le_refl _)))

/-- The text of a number begins with the text of its leading digits, which is as long as the text of
the smaller number. -/
theorem toDigits_leadingDigits {i j : Nat} (h : i < j) :
    ∃ rest, Nat.toDigits 10 j = Nat.toDigits 10 (leadingDigits i j) ++ rest ∧
      rest.length = width j - width i ∧ width (leadingDigits i j) = width i := by
  have hmono : width i ≤ width j := width_mono (Nat.le_of_lt h)
  have hi : 0 < width i := width_pos i
  have hpow : 10 ^ (width j - width i) ≤ j := by
    by_cases heq : width j - width i = 0
    · rw [heq, Nat.pow_zero]
      omega
    · refine Nat.le_of_not_lt fun hlt => ?_
      have := (width_le_iff (Nat.pos_of_ne_zero heq)).mpr hlt
      omega
  obtain ⟨rest, htext, hlen⟩ := toDigits_div_pow hpow
  have hsum := congrArg List.length htext
  rw [length_append, ← width_eq_length, ← width_eq_length, hlen] at hsum
  exact ⟨rest, htext, hlen, by rw [leadingDigits]; omega⟩

/-- Different numbers have different texts. -/
theorem toString_injective {i j : Nat} (h : toString i = toString j) : i = j := by
  have hdigits := congrArg String.toList h
  rw [toList_toString, toList_toString] at hdigits
  rw [← Nat.ofDigitChars_ten_toDigits (n := i), hdigits, Nat.ofDigitChars_ten_toDigits]

/-- Of two numbers the smaller one has the smaller text exactly if it is at most the leading digits
of the larger one. -/
theorem toString_lt_toString_iff {i j : Nat} (h : i < j) :
    toString i < toString j ↔ i ≤ leadingDigits i j := by
  obtain ⟨rest, htext, hlen, hwidth⟩ := toDigits_leadingDigits h
  have hlength : (Nat.toDigits 10 (leadingDigits i j)).length = (Nat.toDigits 10 i).length := by
    rw [← width_eq_length, ← width_eq_length, hwidth]
  rw [String.lt_iff, toList_toString, toList_toString, htext]
  constructor
  · intro hlt
    refine Nat.le_of_not_lt fun hgt => ?_
    have hback := append_lt_append_of_length_eq hlength (toDigits_lt_of_width_eq hwidth hgt) rest []
    rw [append_nil] at hback
    exact List.lt_asymm hlt hback
  · intro hle
    rcases Nat.lt_or_eq_of_le hle with hlt | heq
    · have hfront := append_lt_append_of_length_eq hlength.symm
        (toDigits_lt_of_width_eq hwidth.symm hlt) [] rest
      rwa [append_nil] at hfront
    · -- `i` is all that the leading digits make, so `j` has more digits
      rw [← heq]
      cases rest with
      | nil =>
        rw [← heq, append_nil, ← toList_toString, ← toList_toString] at htext
        exact absurd (toString_injective (String.toList_injective htext)) (Nat.ne_of_gt h)
      | cons c cs =>
        have hmore : Nat.toDigits 10 i ++ [] < Nat.toDigits 10 i ++ (c :: cs) :=
          append_left_lt (nil_lt_cons c cs)
        rwa [append_nil] at hmore

end RobotKit.Link
