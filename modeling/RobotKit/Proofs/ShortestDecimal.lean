import Mathlib.Data.Nat.Bitwise
import RobotKit.Decimal.Shortest
import RobotKit.Proofs.Rounding

/-!
# The shortest decimal reads back

Seventeen digits are enough to tell any two numbers apart, so the search for the shortest decimal
always ends with one that reads as the number it was made for.
-/

namespace RobotKit.Decimal

open List Binary64

/-- The powers of two in the range of the numbers, between powers of ten. -/
theorem two_pow_bounds : ∀ k < 1200,
    10 ^ (k * 30103 / 100000) ≤ 2 ^ k ∧ 2 ^ k < 10 ^ (k * 30103 / 100000 + 1) := by
  decide +kernel

/-! ## The parts of a bit pattern -/

namespace Binary64

variable {x : Binary64}

theorem exponentField_eq (x : Binary64) : x.exponentField = x.bits.toNat / 2 ^ 52 % 2 ^ 11 := by
  rw [exponentField, UInt64.toNat_and, UInt64.toNat_shiftRight,
    show (0x7FF : UInt64).toNat = 2 ^ 11 - 1 from rfl, Nat.and_two_pow_sub_one_eq_mod,
    Nat.shiftRight_eq_div_pow]
  rfl

theorem fractionField_eq (x : Binary64) : x.fractionField = x.bits.toNat % 2 ^ 52 := by
  rw [fractionField, UInt64.toNat_and, show (0xFFFFFFFFFFFFF : UInt64).toNat = 2 ^ 52 - 1 from rfl,
    Nat.and_two_pow_sub_one_eq_mod]

/-- The number without its sign. -/
def unsigned (x : Binary64) : Binary64 := ⟨x.bits &&& 0x7FFFFFFFFFFFFFFF⟩

theorem bits_unsigned (x : Binary64) : x.unsigned.bits.toNat = x.bits.toNat % 2 ^ 63 := by
  rw [unsigned, UInt64.toNat_and, show (0x7FFFFFFFFFFFFFFF : UInt64).toNat = 2 ^ 63 - 1 from rfl,
    Nat.and_two_pow_sub_one_eq_mod]

theorem ext_bits {x y : Binary64} (h : x.bits.toNat = y.bits.toNat) : x = y := by
  cases x
  cases y
  rw [Binary64.mk.injEq]
  exact UInt64.toNat_inj.mp h

theorem isNegative_iff (x : Binary64) : x.isNegative = true ↔ 2 ^ 63 ≤ x.bits.toNat := by
  have hlt : x.bits.toNat < 2 ^ 64 := x.bits.toNat_lt
  have hshift : (x.bits >>> 63).toNat = x.bits.toNat / 2 ^ 63 := by
    rw [UInt64.toNat_shiftRight, Nat.shiftRight_eq_div_pow]
    rfl
  rw [isNegative, decide_eq_true_eq, ← UInt64.toNat_inj, hshift, show (1 : UInt64).toNat = 1 from rfl]
  omega

/-- A number is its magnitude with its sign. -/
theorem unsigned_of_not_isNegative (h : x.isNegative = false) : x.unsigned = x := by
  have hlow : ¬ 2 ^ 63 ≤ x.bits.toNat := by
    rw [← isNegative_iff, h]
    decide
  apply ext_bits
  rw [bits_unsigned, Nat.mod_eq_of_lt (by omega)]

theorem neg_unsigned_of_isNegative (h : x.isNegative = true) : x.unsigned.neg = x := by
  have hhigh : 2 ^ 63 ≤ x.bits.toNat := (isNegative_iff x).mp h
  have hlt : x.bits.toNat < 2 ^ 64 := x.bits.toNat_lt
  have hmod : x.bits.toNat % 2 ^ 63 = x.bits.toNat - 2 ^ 63 := by omega
  apply ext_bits
  rw [neg, UInt64.toNat_xor, bits_unsigned,
    show (0x8000000000000000 : UInt64).toNat = 2 ^ 63 from rfl, hmod]
  -- The highest bit is not set on the left, so setting it is adding it.
  have hor : x.bits.toNat = 2 ^ 63 * 1 ||| (x.bits.toNat - 2 ^ 63) := by
    rw [← Nat.two_pow_add_eq_or_of_lt (by omega)]
    omega
  apply Nat.eq_of_testBit_eq
  intro i
  conv_rhs => rw [hor, mul_one]
  rw [Nat.testBit_xor, Nat.testBit_or]
  rcases eq_or_ne i 63 with rfl | hi
  · rw [Nat.testBit_eq_false_of_lt (by omega : x.bits.toNat - 2 ^ 63 < 2 ^ 63), Nat.testBit_two_pow_self]
    rfl
  · rw [Nat.testBit_two_pow_of_ne hi.symm, Bool.xor_false, Bool.false_or]

/-! ## The magnitude of a finite number -/

theorem encode_of_lt {m : ℕ} (h : m < 2 ^ 52) (q : ℤ) : encode m q = ⟨m.toUInt64⟩ := by
  have hne : m ≠ twoTo 53 := by rw [twoTo_eq]; omega
  have hlt : m < twoTo 52 := by rw [twoTo_eq]; exact h
  simp only [encode, if_neg hne, if_pos hlt]

theorem encode_of_le {m : ℕ} {q : ℤ} (hlow : 2 ^ 52 ≤ m) (hhigh : m < 2 ^ 53)
    (hq : (q + 1075).toNat < 2047) :
    encode m q = ⟨((q + 1075).toNat * 2 ^ 52 + (m - 2 ^ 52)).toUInt64⟩ := by
  have hne : m ≠ twoTo 53 := by rw [twoTo_eq]; omega
  have hge : ¬ m < twoTo 52 := by rw [twoTo_eq]; omega
  have hfinite : ¬ (q + 1075).toNat ≥ 2047 := by omega
  simp only [encode, if_neg hne, if_neg hge, if_neg hfinite]
  rw [twoTo_eq]

/-- A finite number is determined by its magnitude, which is in normal form. -/
theorem magnitude_spec (h : x.exponentField ≠ 2047) :
    x.magnitude.1 < 2 ^ 53 ∧ -1074 ≤ x.magnitude.2 ∧ x.magnitude.2 ≤ 971 ∧
      (2 ^ 52 ≤ x.magnitude.1 ∨ x.magnitude.2 = -1074) ∧
      encode x.magnitude.1 x.magnitude.2 = x.unsigned := by
  have hexp := exponentField_eq x
  have hfrac := fractionField_eq x
  have hbits := bits_unsigned x
  have hfield : x.exponentField < 2 ^ 11 := hexp ▸ Nat.mod_lt _ (by decide)
  have hlow : x.fractionField < 2 ^ 52 := hfrac ▸ Nat.mod_lt _ (by decide)
  have hsum : x.unsigned.bits.toNat = x.exponentField * 2 ^ 52 + x.fractionField := by omega
  have hsize : ∀ n < 2 ^ 63, n.toUInt64.toNat = n := fun n hn =>
    UInt64.toNat_ofNat_of_lt' (by rw [UInt64.size]; omega)
  rw [magnitude, twoTo_eq]
  split
  case isTrue hzero =>
    refine ⟨by dsimp only; omega, le_rfl, by dsimp only; omega, .inr rfl, ?_⟩
    apply ext_bits
    rw [encode_of_lt hlow, hsum, hsize _ (by omega), hzero]
    omega
  case isFalse hzero =>
    have hexponent : ((x.exponentField : ℤ) - 1075 + 1075).toNat = x.exponentField := by omega
    refine ⟨by dsimp only; omega, by dsimp only; omega, by dsimp only; omega,
      .inl (by dsimp only; omega), ?_⟩
    apply ext_bits
    rw [encode_of_le (by omega) (by omega) (by omega), hexponent, hsum, Nat.add_sub_cancel,
      hsize _ (by omega)]

/-- The value of the magnitude of a finite number. -/
def rat (x : Binary64) : ℚ := x.magnitude.1 * 2 ^ x.magnitude.2

/-- The value of a finite number lies between the powers of two of the range. -/
theorem rat_bounds (h : x.exponentField ≠ 2047) (hm : 0 < x.magnitude.1) :
    (2 : ℚ) ^ (-1074 : ℤ) ≤ x.rat ∧ x.rat < 2 ^ (1024 : ℤ) := by
  obtain ⟨hmax, hqlow, hqhigh, -, -⟩ := magnitude_spec h
  have honeQ : (1 : ℚ) ≤ x.magnitude.1 := by exact_mod_cast hm
  have hmaxQ : (x.magnitude.1 : ℚ) < 2 ^ 53 := by exact_mod_cast hmax
  constructor
  · calc (2 : ℚ) ^ (-1074 : ℤ) ≤ 2 ^ x.magnitude.2 := by gcongr; exact one_le_two
      _ = 1 * 2 ^ x.magnitude.2 := (one_mul _).symm
      _ ≤ x.rat := by rw [rat]; gcongr
  · calc x.rat = x.magnitude.1 * 2 ^ x.magnitude.2 := rfl
      _ < 2 ^ 53 * 2 ^ x.magnitude.2 := by gcongr
      _ ≤ 2 ^ 53 * 2 ^ (971 : ℤ) := by gcongr; exact one_le_two
      _ = 2 ^ (1024 : ℤ) := (zpow_add₀ two_ne_zero 53 971).symm

/-- A decimal that is close enough to a number reads as it. -/
theorem ofRat_of_close (h : x.exponentField ≠ 2047) (hm : 0 < x.magnitude.1) {r : ℚ}
    (hclose : |r - x.rat| < x.rat / 2 ^ 54) : ofRat r = x.unsigned := by
  obtain ⟨hmax, hqlow, -, hnormal, hencode⟩ := magnitude_spec h
  have hnearest : nearest r = x.unsigned := by
    rw [nearest_of_close hm hmax hqlow hnormal hclose, hencode]
  have hrat : 0 < x.rat := by rw [rat]; positivity
  obtain ⟨habove, hbelow⟩ := rat_bounds h hm
  obtain ⟨hlow, hhigh⟩ := abs_lt.mp hclose
  have hhalf : x.rat / 2 ^ 54 < x.rat / 2 := by
    apply div_lt_div_of_pos_left hrat <;> norm_num
  have hr : 0 < r := by linarith
  -- Neither of the two shortcuts for far decimals is taken.
  have hsmall : Int.log 10 r < 310 := by
    refine (Int.lt_zpow_iff_log_lt (by decide) hr).mp ?_
    have hten := Nat.cast_lt (α := ℚ).mpr (two_pow_bounds 1025 (by decide)).2
    rw [Nat.cast_pow, Nat.cast_pow, Nat.cast_ofNat, Nat.cast_ofNat] at hten
    calc r < 2 * x.rat := by linarith
      _ ≤ 2 * 2 ^ (1024 : ℤ) := mul_le_mul_of_nonneg_left hbelow.le zero_le_two
      _ = 2 ^ 1025 := by rw [← zpow_natCast, Nat.cast_ofNat, ← zpow_one_add₀ two_ne_zero]; rfl
      _ ≤ 10 ^ 309 := hten.le
      _ ≤ ((10 : ℕ) : ℚ) ^ (310 : ℤ) := pow_le_pow_right₀ (by norm_num) (by decide)
  have hlarge : -331 ≤ Int.log 10 r := by
    refine (Int.zpow_le_iff_le_log (by decide) hr).mp ?_
    have hten := Nat.cast_lt (α := ℚ).mpr (two_pow_bounds 1075 (by decide)).2
    rw [Nat.cast_pow, Nat.cast_pow, Nat.cast_ofNat, Nat.cast_ofNat] at hten
    calc ((10 : ℕ) : ℚ) ^ (-331 : ℤ) = (10 ^ 331)⁻¹ := rfl
      _ ≤ (10 ^ 324)⁻¹ := inv_anti₀ (by positivity) (pow_le_pow_right₀ (by norm_num) (by decide))
      _ ≤ (2 ^ 1075)⁻¹ := inv_anti₀ (by positivity) hten.le
      _ = 2 ^ (-1074 : ℤ) / 2 := by rw [pow_succ, mul_inv]; rfl
      _ ≤ r := by linarith
  rw [ofRat, if_neg hr.ne', if_neg (by omega), if_neg (by omega), hnearest]

end Binary64

/-! ## Decimals around a number -/

/-- The power of ten guessed from a power of two misses by little. -/
theorem ten_zpow_guess {k : ℤ} (hk : k.natAbs < 1200) :
    (10 : ℚ) ^ (k * 30103 / 100000 - 3) ≤ 2 ^ (k - 1) ∧
      (2 : ℚ) ^ (k + 1) ≤ 10 ^ (k * 30103 / 100000 + 3) := by
  obtain ⟨hlow, hhigh⟩ := two_pow_bounds k.natAbs hk
  generalize hg : k.natAbs * 30103 / 100000 = g at hlow hhigh
  have hlowQ : (10 : ℚ) ^ (g : ℤ) ≤ 2 ^ (k.natAbs : ℤ) := by exact_mod_cast hlow
  have hhighQ : (2 : ℚ) ^ (k.natAbs : ℤ) < 10 ^ ((g : ℤ) + 1) := by exact_mod_cast hhigh
  have hten : (1 : ℚ) ≤ 10 := by norm_num
  have hhalf : (2 : ℚ) ^ (k - 1) = 2 ^ k / 2 := by rw [zpow_sub₀ two_ne_zero, zpow_one]
  have htwice : (2 : ℚ) ^ (k + 1) = 2 ^ k * 2 := by rw [zpow_add₀ two_ne_zero, zpow_one]
  -- The power of two lies between `10 ^ low` and `10 ^ (low + 1)`, for both signs of `k`.
  obtain ⟨low, hlow', hhigh', hguess⟩ : ∃ low : ℤ, (10 : ℚ) ^ low ≤ 2 ^ k ∧
      (2 : ℚ) ^ k ≤ 10 ^ (low + 1) ∧ k * 30103 / 100000 ≤ low + 1 ∧ low ≤ k * 30103 / 100000 + 1 := by
    rcases Int.natAbs_eq k with hpos | hneg
    · rw [← hpos] at hlowQ hhighQ
      exact ⟨g, hlowQ, hhighQ.le, by omega, by omega⟩
    · have hsign : (2 : ℚ) ^ k = (2 ^ (k.natAbs : ℤ))⁻¹ := by rw [← zpow_neg, ← hneg]
      refine ⟨-g - 1, ?_, ?_, by omega, by omega⟩
      · rw [hsign, show -(g : ℤ) - 1 = -(g + 1) by ring, zpow_neg]
        exact inv_anti₀ (by positivity) hhighQ.le
      · rw [hsign, show -(g : ℤ) - 1 + 1 = -g by ring, zpow_neg]
        exact inv_anti₀ (by positivity) hlowQ
  constructor
  · calc (10 : ℚ) ^ (k * 30103 / 100000 - 3) ≤ 10 ^ (low - 2) := zpow_le_zpow_right₀ hten (by omega)
      _ = 10 ^ low / 100 := by rw [zpow_sub₀ (by norm_num)]; norm_num
      _ ≤ 2 ^ k / 2 := by
        have : (0 : ℚ) < 10 ^ low := by positivity
        linarith
      _ = 2 ^ (k - 1) := hhalf.symm
  · calc (2 : ℚ) ^ (k + 1) = 2 ^ k * 2 := htwice
      _ ≤ 10 ^ (low + 1) * 10 := by gcongr; norm_num
      _ = 10 ^ (low + 2) := by rw [← zpow_add_one₀ (by norm_num)]; congr 1; ring
      _ ≤ 10 ^ (k * 30103 / 100000 + 3) := zpow_le_zpow_right₀ hten (by omega)

/-- The search around the guess finds the least power of ten above a quotient. -/
theorem decimalExponent_eq {num den : ℕ} (hnum : 0 < num) (hden : 0 < den)
    (hrange : ((num.log2 : ℤ) - den.log2).natAbs < 1200) :
    decimalExponent num den = Int.log 10 (num / den : ℚ) + 1 := by
  have hr : (0 : ℚ) < num / den := by positivity
  have hdenQ : (0 : ℚ) < den := by exact_mod_cast hden
  obtain ⟨hlow, hhigh⟩ := log2_quotient hnum hden
  obtain ⟨hguessLow, hguessHigh⟩ := ten_zpow_guess hrange
  generalize hg : ((num.log2 : ℤ) - den.log2) * 30103 / 100000 = guess at hguessLow hguessHigh
  have hbelow : ∀ p : ℤ, (if p ≥ 0 then num < den * tenTo p.toNat else num * tenTo (-p).toNat < den) ↔
      Int.log 10 (num / den : ℚ) + 1 ≤ p := by
    intro p
    rw [Int.add_one_le_iff, ← Int.lt_zpow_iff_log_lt (by decide) hr, div_lt_iff₀ hdenQ,
      Nat.cast_ofNat]
    split
    case isTrue h => rw [← Nat.cast_lt (α := ℚ), Nat.cast_mul, cast_tenTo h, mul_comm]
    case isFalse h =>
      have hpos : (0 : ℚ) < 10 ^ p := by positivity
      rw [← Nat.cast_lt (α := ℚ), Nat.cast_mul, cast_tenTo (by omega), zpow_neg, ← div_eq_mul_inv,
        div_lt_iff₀ hpos, mul_comm]
  have hleast : guess - 2 ≤ Int.log 10 (num / den : ℚ) + 1 := by
    have := (Int.zpow_le_iff_le_log (b := 10) (by decide) hr).mp (hguessLow.trans hlow.le)
    omega
  have hmost : Int.log 10 (num / den : ℚ) + 1 ≤ guess + 3 :=
    Int.add_one_le_iff.mpr
      ((Int.lt_zpow_iff_log_lt (b := 10) (by decide) hr).mp (hhigh.trans_le hguessHigh))
  rw [decimalExponent, hg]
  simp only [hbelow]
  generalize Int.log 10 (num / den : ℚ) + 1 = k at hleast hmost
  obtain ⟨i, rfl⟩ : ∃ i, k = guess + i := ⟨k - guess, by ring⟩
  have hi : i = -2 ∨ i = -1 ∨ i = 0 ∨ i = 1 ∨ i = 2 ∨ i = 3 := by omega
  rcases hi with rfl | rfl | rfl | rfl | rfl | rfl <;>
    simp only [List.map, List.find?, add_le_add_iff_left] <;> rfl

/-- The value of a decimal. -/
def Digits.value (d : Digits) : ℚ := d.digits * 10 ^ d.exponent

theorem Digits.read_eq (d : Digits) : d.read = ofRat d.value := ofDecimal_eq_ofRat _ _

theorem Digits.value_strip (fuel : ℕ) (d : Digits) : (d.strip fuel).value = d.value := by
  induction fuel generalizing d with
  | zero => rfl
  | succ fuel ih =>
    rw [strip]
    split
    case isTrue h =>
      simp only [ne_eq, Bool.and_eq_true, decide_eq_true_eq] at h
      have hten : d.digits = 10 * (d.digits / 10) := by omega
      have htenQ : (d.digits : ℚ) = 10 * (d.digits / 10 : ℕ) := by exact_mod_cast hten
      rw [ih, value, value, zpow_add_one₀ (by norm_num), htenQ]
      ring
    case isFalse => rfl

/-- The nearer one of the decimals around a quotient is at most half a place away. -/
theorem neighbours_near (num : ℕ) {den : ℕ} (hden : 0 < den) (count : ℕ) :
    ∃ d rest, neighbours num den count = d :: rest ∧
      |d.value - num / den| ≤ 10 ^ (decimalExponent num den - count) / 2 := by
  generalize hexponent : decimalExponent num den - count = exponent
  generalize hsides : (if exponent ≥ 0 then (num, den * tenTo exponent.toNat)
    else (num * tenTo (-exponent).toNat, den)) = sides
  have hunit : (0 : ℚ) < 10 ^ exponent := by positivity
  have hpos : 0 < sides.2 := by
    rw [← hsides]
    split
    · exact Nat.mul_pos hden (tenTo_pos _)
    · exact hden
  have hratio : (num / den : ℚ) = sides.1 / sides.2 * 10 ^ exponent := by
    rw [← hsides]
    split
    case isTrue h =>
      rw [Nat.cast_mul, cast_tenTo h]
      field_simp
    case isFalse h =>
      rw [Nat.cast_mul, cast_tenTo (by omega), zpow_neg]
      field_simp
  have hrest := div_sub_floor sides.1 hpos
  have hposQ : (0 : ℚ) < sides.2 := by exact_mod_cast hpos
  have hless : ((sides.1 % sides.2 : ℕ) : ℚ) / sides.2 < 1 := by
    rw [div_lt_one hposQ]
    exact_mod_cast Nat.mod_lt _ hpos
  have hnone : (0 : ℚ) ≤ (sides.1 % sides.2 : ℕ) / sides.2 := by positivity
  have hdef : neighbours num den count =
      if 2 * (sides.1 % sides.2) < sides.2 ∨
          (2 * (sides.1 % sides.2) = sides.2 ∧ sides.1 / sides.2 % 2 = 0) then
        [⟨sides.1 / sides.2, exponent⟩, ⟨sides.1 / sides.2 + 1, exponent⟩]
      else [⟨sides.1 / sides.2 + 1, exponent⟩, ⟨sides.1 / sides.2, exponent⟩] := by
    rw [neighbours, hexponent]
    simp only [hsides, Bool.or_eq_true, Bool.and_eq_true, decide_eq_true_eq]
  rw [hdef]
  split
  case isTrue h =>
    have hhalf : ((sides.1 % sides.2 : ℕ) : ℚ) / sides.2 ≤ 1 / 2 := by
      have : 2 * (sides.1 % sides.2) ≤ sides.2 := by omega
      have : (2 * (sides.1 % sides.2 : ℕ) : ℚ) ≤ sides.2 := by exact_mod_cast this
      rw [div_le_iff₀ hposQ]
      linarith
    refine ⟨_, _, rfl, ?_⟩
    have hdiff : (⟨sides.1 / sides.2, exponent⟩ : Digits).value - num / den =
        -((sides.1 % sides.2 : ℕ) / sides.2) * 10 ^ exponent := by
      rw [Digits.value, hratio, ← hrest]
      ring
    rw [hdiff, abs_mul, abs_neg, abs_of_nonneg hnone, abs_of_pos hunit]
    calc ((sides.1 % sides.2 : ℕ) / sides.2 : ℚ) * 10 ^ exponent ≤ 1 / 2 * 10 ^ exponent := by gcongr
      _ = 10 ^ exponent / 2 := by ring
  case isFalse h =>
    have hhalf : 1 - ((sides.1 % sides.2 : ℕ) : ℚ) / sides.2 ≤ 1 / 2 := by
      have : sides.2 ≤ 2 * (sides.1 % sides.2) := by omega
      have : (sides.2 : ℚ) ≤ 2 * (sides.1 % sides.2 : ℕ) := by exact_mod_cast this
      rw [sub_le_iff_le_add, ← sub_le_iff_le_add', le_div_iff₀ hposQ]
      linarith
    refine ⟨_, _, rfl, ?_⟩
    have hdiff : (⟨sides.1 / sides.2 + 1, exponent⟩ : Digits).value - num / den =
        (1 - (sides.1 % sides.2 : ℕ) / sides.2) * 10 ^ exponent := by
      rw [Digits.value, hratio, ← hrest]
      push_cast
      ring
    rw [hdiff, abs_mul, abs_of_nonneg (by linarith), abs_of_pos hunit]
    calc (1 - (sides.1 % sides.2 : ℕ) / sides.2 : ℚ) * 10 ^ exponent ≤ 1 / 2 * 10 ^ exponent := by
          gcongr
      _ = 10 ^ exponent / 2 := by ring

/-! ## The shortest decimal -/

/-- The two sides of the quotient whose value a magnitude is. -/
theorem exists_quotient {x : Binary64} (hm : 0 < x.magnitude.1) :
    ∃ num den : ℕ, (if x.magnitude.2 ≥ 0 then (x.magnitude.1 * twoTo x.magnitude.2.toNat, 1)
        else (x.magnitude.1, twoTo (-x.magnitude.2).toNat)) = (num, den) ∧
      0 < num ∧ 0 < den ∧ (num / den : ℚ) = x.rat := by
  have hpow : ∀ n, 0 < twoTo n := fun n => twoTo_eq n ▸ Nat.pow_pos two_pos
  split
  case isTrue h =>
    refine ⟨_, _, rfl, Nat.mul_pos hm (hpow _), Nat.one_pos, ?_⟩
    rw [Nat.cast_mul, cast_twoTo h, Nat.cast_one, div_one, rat]
  case isFalse h =>
    refine ⟨_, _, rfl, hm, hpow _, ?_⟩
    rw [cast_twoTo (by omega), zpow_neg, div_inv_eq_mul, rat]

/-- Of seventeen digits the nearest decimal reads as the number. -/
theorem exists_neighbour_reads {x : Binary64} (h : x.exponentField ≠ 2047)
    (hm : 0 < x.magnitude.1) {num den : ℕ} (hnum : 0 < num) (hden : 0 < den)
    (hratio : (num / den : ℚ) = x.rat) : ∃ d ∈ neighbours num den 17, d.read = x.unsigned := by
  obtain ⟨d, rest, heq, hnear⟩ := neighbours_near num hden 17
  obtain ⟨hlow, hhigh⟩ := rat_bounds h hm
  have hrat : 0 < x.rat := by rw [rat]; positivity
  have hrange : ((num.log2 : ℤ) - den.log2).natAbs < 1200 := by
    obtain ⟨hqlow, hqhigh⟩ := log2_quotient hnum hden
    rw [hratio] at hqlow hqhigh
    have hmost := (zpow_lt_zpow_iff_right₀ one_lt_two).mp (hqlow.trans hhigh)
    have hleast := (zpow_lt_zpow_iff_right₀ one_lt_two).mp (hlow.trans_lt hqhigh)
    omega
  have hdigits : (10 : ℚ) ^ Int.log 10 x.rat ≤ x.rat := Int.zpow_log_le_self (by decide) hrat
  refine ⟨d, by rw [heq]; exact mem_cons_self, ?_⟩
  rw [Digits.read_eq]
  refine ofRat_of_close h hm ?_
  -- Half a unit of the seventeenth digit is less than half a place of the number.
  calc |d.value - x.rat| ≤ 10 ^ (Int.log 10 x.rat + 1 - (17 : ℕ)) / 2 := by
        rw [← hratio, ← decimalExponent_eq hnum hden hrange]
        exact hnear
    _ = 10 ^ Int.log 10 x.rat / 10 ^ 16 / 2 := by
      rw [show Int.log 10 x.rat + 1 - (17 : ℕ) = Int.log 10 x.rat - 16 by push_cast; ring,
        zpow_sub₀ (by norm_num)]
      rfl
    _ ≤ x.rat / 10 ^ 16 / 2 := by gcongr
    _ < x.rat / 2 ^ 54 := by
      rw [div_div]
      apply div_lt_div_of_pos_left hrat <;> norm_num

/-- The shortest decimal of a number reads as the number without its sign. -/
theorem read_shortest {x : Binary64} (h : x.exponentField ≠ 2047) : (shortest x).read = x.unsigned := by
  obtain ⟨-, -, -, -, hencode⟩ := magnitude_spec h
  rcases Nat.eq_zero_or_pos x.magnitude.1 with hzero | hm
  · rw [hzero, encode_of_lt (by decide)] at hencode
    simp only [shortest, if_pos hzero]
    rw [← hencode]
    rfl
  obtain ⟨num, den, hsides, hnum, hden, hratio⟩ := exists_quotient hm
  obtain ⟨d, hd, hread⟩ := exists_neighbour_reads h hm hnum hden hratio
  have hmem : d ∈ (List.range 17).flatMap fun k => neighbours num den (k + 1) :=
    mem_flatMap.mpr ⟨16, mem_range.mpr (by decide), hd⟩
  have hsome : ((List.range 17).flatMap fun k => neighbours num den (k + 1)).find?
      (fun d => d.read = x.unsigned) |>.isSome :=
    find?_isSome.mpr ⟨d, hmem, decide_eq_true hread⟩
  obtain ⟨found, hfound⟩ := Option.isSome_iff_exists.mp hsome
  have hreads : found.read = x.unsigned := by simpa using find?_some hfound
  have heq : shortest x = found.strip 20 := by
    rw [unsigned] at hfound
    simp only [shortest, if_neg hm.ne', hsides, hfound]
  rw [heq, Digits.read_eq, Digits.value_strip, ← Digits.read_eq, hreads]

end RobotKit.Decimal
