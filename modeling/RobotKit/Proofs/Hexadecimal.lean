import Mathlib.Algebra.Group.Nat.Defs
import RobotKit.Text.Digest
import RobotKit.Text.Utf8

/-!
# Numbers in base 16

A number that is written in base 16 with enough places is read back. A digest is written with 32
digits.
-/

namespace RobotKit.Text

open List

theorem length_hexPadded (width n : Nat) : (hexPadded width n).length = width := by
  induction width generalizing n with
  | zero => rfl
  | succ width ih => rw [hexPadded, length_append, ih, length_singleton]

theorem exists_hexDigit_of_mem {width n : Nat} {c : Char} (h : c ∈ hexPadded width n) :
    ∃ digit < 16, c = hexDigit digit := by
  induction width generalizing n with
  | zero => exact absurd h not_mem_nil
  | succ width ih =>
    rw [hexPadded, mem_append, mem_singleton] at h
    rcases h with h | rfl
    · exact ih h
    · exact ⟨n % 16, Nat.mod_lt _ (by decide), rfl⟩

theorem hexValue_hexDigit : ∀ digit < 16, hexValue (hexDigit digit) = digit := by decide

/-- A number that fits into its places is read back. -/
theorem readHex_hexPadded {width n : Nat} (h : n < 16 ^ width) :
    readHex (hexPadded width n) = n := by
  induction width generalizing n with
  | zero =>
    rw [Nat.pow_zero, Nat.lt_one_iff] at h
    rw [h]
    rfl
  | succ width ih =>
    have hinner : n / 16 < 16 ^ width := by rw [Nat.pow_succ] at h; omega
    have hlast := hexValue_hexDigit (n % 16) (Nat.mod_lt _ (by decide))
    rw [hexPadded, readHex, foldl_append, ← readHex, ih hinner, foldl_cons,
      foldl_nil, hlast]
    omega

theorem exists_hexDigit_of_mem_digest {s : String} {c : Char}
    (h : c ∈ (Digest.ofString s).toList) : ∃ digit < 16, c = hexDigit digit := by
  rw [Digest.ofString, Digest.hex, String.toList_ofList] at h
  obtain ⟨word, -, hword⟩ := mem_flatMap.mp h
  obtain ⟨byte, -, hbyte⟩ := mem_flatMap.mp hword
  exact exists_hexDigit_of_mem hbyte

theorem length_digest (s : String) : (Digest.ofString s).toList.length = 32 := by
  simp [Digest.ofString, Digest.hex, Digest.lowBytes, length_hexPadded]

end RobotKit.Text
