import Mathlib.Algebra.Order.Field.Power
import Mathlib.Algebra.Order.Floor.Semifield
import Mathlib.Data.Int.Log
import Mathlib.Data.Rat.Floor
import Mathlib.Tactic.FieldSimp
import Mathlib.Tactic.Linarith
import Mathlib.Tactic.NormNum
import Mathlib.Tactic.Positivity
import Mathlib.Tactic.Ring
import RobotKit.Decimal.Binary64

/-!
# Rounding depends on the value only

The number nearest to a decimal is computed with integers: a power of two is guessed from the
binary lengths, the quotient is scaled by it and rounded. Here the outcome is shown to be a function
of the rational number alone, so that two decimals of one value read as the same number, and every
decimal close enough to a number reads as that number.
-/

namespace RobotKit.Decimal

variable {num den : ℕ} {r : ℚ}

theorem twoTo_eq (n : ℕ) : twoTo n = 2 ^ n := rfl

theorem tenTo_eq (n : ℕ) : tenTo n = 10 ^ n := rfl

namespace Binary64

/-! ## Rounding to a natural number -/

/-- The natural number nearest to `r`, a half to the even one. -/
def nearestNat (r : ℚ) : ℕ :=
  if 1 / 2 < r - ⌊r⌋₊ ∨ (r - ⌊r⌋₊ = 1 / 2 ∧ ⌊r⌋₊ % 2 = 1) then ⌊r⌋₊ + 1 else ⌊r⌋₊

/-- The part of a quotient behind its floor. -/
theorem div_sub_floor (num : ℕ) {den : ℕ} (hden : 0 < den) :
    (num / den : ℚ) - (num / den : ℕ) = (num % den : ℕ) / den := by
  have hpos : (0 : ℚ) < den := by exact_mod_cast hden
  have hsplit : (num : ℚ) = den * (num / den : ℕ) + (num % den : ℕ) := by
    exact_mod_cast (Nat.div_add_mod num den).symm
  field_simp
  linarith

theorem roundDiv_eq_nearestNat (hden : 0 < den) :
    roundDiv num den = nearestNat (num / den) := by
  have hpos : (0 : ℚ) < den := by exact_mod_cast hden
  have hfloor : ⌊(num / den : ℚ)⌋₊ = num / den := Nat.floor_div_eq_div num den
  have hmore : (1 / 2 : ℚ) < (num % den : ℕ) / den ↔ den < 2 * (num % den) := by
    rw [lt_div_iff₀ hpos, ← Nat.cast_lt (α := ℚ), Nat.cast_mul, Nat.cast_ofNat]
    constructor <;> intro h <;> linarith
  have hhalf : ((num % den : ℕ) / den : ℚ) = 1 / 2 ↔ 2 * (num % den) = den := by
    rw [div_eq_iff hpos.ne', ← Nat.cast_inj (R := ℚ), Nat.cast_mul, Nat.cast_ofNat]
    constructor <;> intro h <;> linarith
  rw [roundDiv, nearestNat, hfloor, div_sub_floor num hden]
  simp only [hmore, hhalf, gt_iff_lt, Bool.or_eq_true, Bool.and_eq_true, decide_eq_true_eq]

/-- What is nearer than a half to a natural number is rounded to it. -/
theorem nearestNat_of_near {n : ℕ} (h : |r - n| < 1 / 2) (hr : 0 ≤ r) :
    nearestNat r = n := by
  obtain ⟨hlow, hhigh⟩ := abs_lt.mp h
  by_cases hn : (n : ℚ) ≤ r
  · have hfloor : ⌊r⌋₊ = n := (Nat.floor_eq_iff hr).mpr ⟨hn, by linarith⟩
    rw [nearestNat, hfloor, if_neg]
    rintro (hmore | ⟨hhalf, -⟩) <;> linarith
  · -- Below `n` the floor is `n - 1`, and the rest is more than a half.
    have hlt : r < n := lt_of_not_ge hn
    have hone : 1 ≤ n := by
      rcases Nat.eq_zero_or_pos n with rfl | hpos
      · exact absurd (hlt.trans_le (by norm_num)) (not_lt_of_ge hr)
      · exact hpos
    have hcast : ((n - 1 : ℕ) : ℚ) = n - 1 := by rw [Nat.cast_sub hone, Nat.cast_one]
    have hfloor : ⌊r⌋₊ = n - 1 :=
      (Nat.floor_eq_iff hr).mpr ⟨by rw [hcast]; linarith, by rw [hcast]; linarith⟩
    rw [nearestNat, hfloor, hcast, if_pos (.inl (by linarith)), Nat.sub_add_cancel hone]

/-! ## Rounding to a number -/

/-- The exponent of the last place of the numbers around `r`. -/
def unitExponent (r : ℚ) : ℤ := max (Int.log 2 r - 52) (-1074)

/-- The number nearest to a positive rational. -/
def nearest (r : ℚ) : Binary64 :=
  encode (nearestNat (r / 2 ^ unitExponent r)) (unitExponent r)

theorem log2_bounds {n : ℕ} (h : 0 < n) :
    (2 : ℚ) ^ (n.log2 : ℤ) ≤ n ∧ (n : ℚ) < 2 ^ ((n.log2 : ℤ) + 1) := by
  constructor
  · exact_mod_cast Nat.log2_self_le h.ne'
  · exact_mod_cast (Nat.lt_log2_self : n < 2 ^ (n.log2 + 1))

/-- The binary lengths of two numbers give the power of two of their quotient up to one. -/
theorem log2_quotient (hnum : 0 < num) (hden : 0 < den) :
    (2 : ℚ) ^ ((num.log2 : ℤ) - den.log2 - 1) < num / den ∧
      (num / den : ℚ) < 2 ^ ((num.log2 : ℤ) - den.log2 + 1) := by
  obtain ⟨hnlow, hnhigh⟩ := log2_bounds hnum
  obtain ⟨hdlow, hdhigh⟩ := log2_bounds hden
  have hpos : (0 : ℚ) < den := by exact_mod_cast hden
  constructor
  · rw [lt_div_iff₀ hpos]
    calc (2 : ℚ) ^ ((num.log2 : ℤ) - den.log2 - 1) * den
        < 2 ^ ((num.log2 : ℤ) - den.log2 - 1) * 2 ^ ((den.log2 : ℤ) + 1) := by gcongr
      _ = 2 ^ (num.log2 : ℤ) := by rw [← zpow_add₀ two_ne_zero]; congr 1; ring
      _ ≤ num := hnlow
  · rw [div_lt_iff₀ hpos]
    calc (num : ℚ) < 2 ^ ((num.log2 : ℤ) + 1) := hnhigh
      _ = 2 ^ ((num.log2 : ℤ) - den.log2 + 1) * 2 ^ (den.log2 : ℤ) := by
        rw [← zpow_add₀ two_ne_zero]; congr 1; ring
      _ ≤ 2 ^ ((num.log2 : ℤ) - den.log2 + 1) * den := by gcongr

/-- The two sides of a quotient divided by a power of two. -/
def scaled (num den : ℕ) (q : ℤ) : ℕ × ℕ :=
  if q ≥ 0 then (num, den * twoTo q.toNat) else (num * twoTo (-q).toNat, den)

theorem cast_twoTo {q : ℤ} (h : 0 ≤ q) : ((twoTo q.toNat : ℕ) : ℚ) = 2 ^ q := by
  rw [twoTo_eq, Nat.cast_pow, Nat.cast_ofNat, ← zpow_natCast, Int.toNat_of_nonneg h]

theorem scaled_pos (hden : 0 < den) (q : ℤ) : 0 < (scaled num den q).2 := by
  rw [scaled]
  split
  · exact Nat.mul_pos hden (Nat.pow_pos two_pos)
  · exact hden

theorem scaled_eq (num den : ℕ) (q : ℤ) :
    ((scaled num den q).1 / (scaled num den q).2 : ℚ) = num / den / 2 ^ q := by
  rw [scaled]
  split
  case isTrue h =>
    rw [Nat.cast_mul, cast_twoTo h, div_div]
  case isFalse h =>
    rw [Nat.cast_mul, cast_twoTo (by omega), zpow_neg]
    field_simp

/-- The integer computation gives the number nearest to the quotient. -/
theorem ofQuotient_eq_nearest (hnum : 0 < num) (hden : 0 < den) :
    ofQuotient num den = nearest (num / den) := by
  have hr : (0 : ℚ) < num / den := by positivity
  obtain ⟨hlow, hhigh⟩ := log2_quotient hnum hden
  generalize hguess : (num.log2 : ℤ) - den.log2 - 53 = guess
  have hdef : ofQuotient num den =
      let q := max (if (scaled num den guess).1 / (scaled num den guess).2 ≥ twoTo 53
        then guess + 1 else guess) (-1074)
      encode (roundDiv (scaled num den q).1 (scaled num den q).2) q := by
    rw [← hguess]
    rfl
  -- The guess is too small by at most one, and the test tells by how much.
  have hexact : (if (scaled num den guess).1 / (scaled num den guess).2 ≥ twoTo 53
      then guess + 1 else guess) = Int.log 2 (num / den : ℚ) - 52 := by
    have htest : (scaled num den guess).1 / (scaled num den guess).2 ≥ twoTo 53 ↔
        (2 : ℚ) ^ (guess + 53) ≤ num / den := by
      rw [ge_iff_le, ← Nat.floor_div_eq_div (K := ℚ), Nat.le_floor_iff (by positivity), scaled_eq,
        le_div_iff₀ (by positivity), twoTo_eq, Nat.cast_pow, Nat.cast_ofNat, ← zpow_natCast,
        ← zpow_add₀ two_ne_zero, add_comm]
      rfl
    have hone : Int.log 2 (num / den : ℚ) < (num.log2 : ℤ) - den.log2 + 1 :=
      (Int.lt_zpow_iff_log_lt one_lt_two hr).mp hhigh
    have hzero : (num.log2 : ℤ) - den.log2 - 1 ≤ Int.log 2 (num / den : ℚ) :=
      (Int.zpow_le_iff_le_log one_lt_two hr).mp hlow.le
    have hsplit : (2 : ℚ) ^ (guess + 53) ≤ num / den ↔ guess + 53 ≤ Int.log 2 (num / den : ℚ) :=
      Int.zpow_le_iff_le_log one_lt_two hr
    split
    case isTrue h =>
      have := hsplit.mp (htest.mp h)
      omega
    case isFalse h =>
      have := mt (fun hle => htest.mpr (hsplit.mpr hle)) h
      omega
  rw [hdef, hexact]
  dsimp only
  rw [roundDiv_eq_nearestNat (scaled_pos hden _), scaled_eq, nearest, unitExponent]

/-- The power of `b` that a number reaches is determined by its bounds. -/
theorem log_eq_of_bounds {b : ℕ} (hb : 1 < b) (hr : 0 < r) {k : ℤ} (hlow : (b : ℚ) ^ k ≤ r)
    (hhigh : r < (b : ℚ) ^ (k + 1)) : Int.log b r = k := by
  have hle : k ≤ Int.log b r := (Int.zpow_le_iff_le_log hb hr).mp hlow
  have hlt : Int.log b r < k + 1 := (Int.lt_zpow_iff_log_lt hb hr).mp hhigh
  omega

/-- A carry into the next power of two is the first number there. -/
theorem encode_carry (q : ℤ) : encode (2 ^ 53) (q - 1) = encode (2 ^ 52) q := by
  have hq : q - 1 + 1 = q := by ring
  simp only [encode, twoTo, hq]
  rfl

/-- A rational so close to the number `m * 2 ^ q` that it lies less than half a place away, also
where the places below are half as wide, is rounded to that number. -/
theorem nearest_of_close {m : ℕ} {q : ℤ} (hm : 0 < m) (hmax : m < 2 ^ 53) (hq : -1074 ≤ q)
    (hnormal : 2 ^ 52 ≤ m ∨ q = -1074) (hclose : |r - m * 2 ^ q| < m * 2 ^ q / 2 ^ 54) :
    nearest r = encode m q := by
  have hunit : (0 : ℚ) < 2 ^ q := by positivity
  have hmaxQ : (m : ℚ) ≤ 2 ^ 53 - 1 := by
    have : m + 1 ≤ 2 ^ 53 := hmax
    have : ((m + 1 : ℕ) : ℚ) ≤ (2 ^ 53 : ℕ) := by exact_mod_cast this
    push_cast at this
    linarith
  have honeQ : (1 : ℚ) ≤ m := by exact_mod_cast hm
  -- In units of the last place the distance is less than `m / 2 ^ 54`.
  have hplaces : |r / 2 ^ q - m| < m / 2 ^ 54 := by
    have hdiv : r / 2 ^ q - m = (r - m * 2 ^ q) / 2 ^ q := by field_simp
    rw [hdiv, abs_div, abs_of_pos hunit, div_lt_iff₀ hunit]
    calc |r - m * 2 ^ q| < m * 2 ^ q / 2 ^ 54 := hclose
      _ = m / 2 ^ 54 * 2 ^ q := by ring
  have hhalf : (m : ℚ) / 2 ^ 54 < 1 / 2 := by
    rw [div_lt_iff₀ (by positivity)]
    norm_num
    linarith
  obtain ⟨hlow, hhigh⟩ := abs_lt.mp hplaces
  have hr : 0 < r := by
    have : 0 < r / 2 ^ q := by linarith
    exact (div_pos_iff_of_pos_right hunit).mp this
  have hbelow : Int.log 2 r < q + 53 := by
    refine (Int.lt_zpow_iff_log_lt one_lt_two hr).mp ?_
    push_cast
    rw [zpow_add₀ two_ne_zero, ← div_lt_iff₀' hunit]
    norm_num
    linarith
  by_cases habove : q + 52 ≤ Int.log 2 r ∨ q = -1074
  · have hexponent : unitExponent r = q := by rw [unitExponent]; omega
    rw [nearest, hexponent, nearestNat_of_near (hplaces.trans hhalf) (by positivity)]
  · -- The rational lies below a power of two, where the places are half as wide.
    obtain ⟨hlog, hsub⟩ := not_or.mp habove
    have hm52 : 2 ^ 52 ≤ m := hnormal.resolve_right hsub
    have hm52Q : (2 : ℚ) ^ 52 ≤ m := by exact_mod_cast hm52
    have hless : r / 2 ^ q < 2 ^ 52 := by
      have : r < ((2 : ℕ) : ℚ) ^ (q + 52) :=
        (Int.lt_zpow_iff_log_lt one_lt_two hr).mpr (lt_of_not_ge hlog)
      push_cast at this
      rw [zpow_add₀ two_ne_zero, ← div_lt_iff₀' hunit] at this
      exact_mod_cast this
    have hpower : m = 2 ^ 52 := by
      have : (m : ℚ) < (2 ^ 52 + 1 : ℕ) := by push_cast; linarith
      have : m < 2 ^ 52 + 1 := by exact_mod_cast this
      omega
    subst hpower
    push_cast at hlow hhigh hhalf
    have hlogEq : Int.log 2 r = q + 51 := by
      refine log_eq_of_bounds one_lt_two hr ?_ ?_
      · push_cast
        rw [zpow_add₀ two_ne_zero, ← le_div_iff₀' hunit]
        norm_num at hlow hless ⊢
        linarith
      · push_cast
        rw [show q + 51 + 1 = q + 52 by ring, zpow_add₀ two_ne_zero, ← div_lt_iff₀' hunit]
        exact_mod_cast hless
    have hexponent : unitExponent r = q - 1 := by rw [unitExponent]; omega
    have hscale : r / 2 ^ (q - 1) = r / 2 ^ q * 2 := by
      rw [zpow_sub₀ two_ne_zero, zpow_one]
      field_simp
    have hnear : |r / 2 ^ (q - 1) - (2 ^ 53 : ℕ)| < 1 / 2 := by
      rw [hscale, abs_lt]
      push_cast
      norm_num at hlow hless ⊢
      constructor <;> linarith
    rw [nearest, hexponent, nearestNat_of_near hnear (by positivity), encode_carry]

/-! ## Decimals -/

/-- The number that a rational reads as: the nearest one, or what is far outside the range. -/
def ofRat (r : ℚ) : Binary64 :=
  if r = 0 then ⟨0⟩
  else if Int.log 10 r + 1 > 310 then infinity
  else if Int.log 10 r + 1 < -330 then ⟨0⟩
  else nearest r

/-- The number of digits of a decimal before the point, also if it is negative. -/
theorem log_decimal {mantissa : ℕ} (h : 0 < mantissa) (exponent : ℤ) :
    Int.log 10 (mantissa * 10 ^ exponent : ℚ) + 1 = digitCount mantissa + exponent := by
  have hcount : 0 < digitCount mantissa := Nat.length_toDigits_pos
  have hhigh : mantissa < 10 ^ digitCount mantissa :=
    (Nat.length_toDigits_le_iff (by decide) hcount).mp le_rfl
  have hlow : 10 ^ (digitCount mantissa - 1) ≤ mantissa := by
    by_contra hlt
    rcases Nat.lt_or_ge 1 (digitCount mantissa) with hmany | hone
    · have := (Nat.length_toDigits_le_iff (by decide) (by omega)).mpr (lt_of_not_ge hlt)
      rw [digitCount] at this hmany
      omega
    · rw [show digitCount mantissa - 1 = 0 by omega, pow_zero] at hlt
      omega
  have hlog : Int.log 10 (mantissa * 10 ^ exponent : ℚ) = digitCount mantissa - 1 + exponent := by
    refine log_eq_of_bounds (by decide) (by positivity) ?_ ?_
    · push_cast
      rw [zpow_add₀ (by norm_num)]
      gcongr
      rw [show (digitCount mantissa : ℤ) - 1 = (digitCount mantissa - 1 : ℕ) by omega]
      exact_mod_cast hlow
    · push_cast
      rw [show (digitCount mantissa : ℤ) - 1 + exponent + 1 = digitCount mantissa + exponent by ring,
        zpow_add₀ (by norm_num)]
      gcongr
      exact_mod_cast hhigh
  omega

theorem cast_tenTo {e : ℤ} (h : 0 ≤ e) : ((tenTo e.toNat : ℕ) : ℚ) = 10 ^ e := by
  rw [tenTo_eq, Nat.cast_pow, Nat.cast_ofNat, ← zpow_natCast, Int.toNat_of_nonneg h]

theorem tenTo_pos (n : ℕ) : 0 < tenTo n := Nat.pow_pos (by decide)

/-- The number of a decimal depends on the value of the decimal only. -/
theorem ofDecimal_eq_ofRat (mantissa : ℕ) (exponent : ℤ) :
    ofDecimal mantissa exponent = ofRat (mantissa * 10 ^ exponent) := by
  rcases Nat.eq_zero_or_pos mantissa with rfl | hpos
  · simp [ofDecimal, ofRat]
  have hvalue : (mantissa * 10 ^ exponent : ℚ) ≠ 0 := by positivity
  rw [ofDecimal, ofRat, if_neg hpos.ne', if_neg hvalue, log_decimal hpos]
  split
  · rfl
  split
  · rfl
  split
  case isTrue h =>
    rw [ofQuotient_eq_nearest (Nat.mul_pos hpos (tenTo_pos _)) Nat.one_pos,
      Nat.cast_mul, cast_tenTo h, Nat.cast_one, div_one]
  case isFalse h =>
    rw [ofQuotient_eq_nearest hpos (tenTo_pos _), cast_tenTo (by omega), zpow_neg,
      div_inv_eq_mul]

end Binary64

end RobotKit.Decimal
