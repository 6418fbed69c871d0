import Mathlib

/-!
# Words and their bytes in network order

Cutting a word into bytes by shifts and masks and joining the bytes again, shown bit
by bit: every bit of the word comes from exactly one byte.
-/

namespace TurboCore.Foundation

/-- Bit `i` of the byte mask. -/
theorem mask_bit {width : Nat} (wide : 8 ≤ width) (i : Nat) :
    (BitVec.ofNat width 255).getLsbD i = decide (i < 8) := by
  have bound : 255 < 2 ^ width :=
    Nat.lt_of_lt_of_le (by decide : 255 < 2 ^ 8) (Nat.pow_le_pow_right (by decide) wide)
  have mask : (BitVec.ofNat width 255).getLsbD i = (2 ^ 8 - 1).testBit i := by
    simp [BitVec.getLsbD, BitVec.toNat_ofNat, Nat.mod_eq_of_lt bound]
  rw [mask, Nat.testBit_two_pow_sub_one]

/-- A byte cut out at `shift` and put back contributes exactly its eight bits. -/
private theorem byte_at {width : Nat} (wide : 8 ≤ width) (val : BitVec width) (shift i : Nat) :
    (((val >>> shift &&& BitVec.ofNat width 255).setWidth 8).setWidth width <<< shift).getLsbD i =
      (decide (i < width) && (decide (shift ≤ i) &&
        (decide (i < shift + 8) && val.getLsbD i))) := by
  simp only [BitVec.getLsbD_shiftLeft, BitVec.getLsbD_setWidth, BitVec.getLsbD_and,
    BitVec.getLsbD_ushiftRight, mask_bit wide]
  by_cases low : i < shift
  · simp [low, Nat.not_le.mpr low]
  · have back : shift + (i - shift) = i := by omega
    have window : i - shift < 8 ↔ i < shift + 8 := by omega
    by_cases inWidth : i < width
    · have inWidth' : i - shift < width := by omega
      by_cases inside : i < shift + 8
      · simp [low, back, window, inWidth, inWidth', inside, Nat.not_lt.mp low]
      · simp [window, inside]
    · simp [inWidth]

/-- The lowest byte contributes its own eight bits. -/
private theorem low_byte {width : Nat} (wide : 8 ≤ width) (val : BitVec width) (i : Nat) :
    (((val &&& BitVec.ofNat width 255).setWidth 8).setWidth width).getLsbD i =
      (decide (i < width) && (decide (i < 8) && val.getLsbD i)) := by
  simpa using byte_at wide val 0 i

/-- The four bytes of a word, most significant first, are read back as the word. -/
theorem joinBytes32 (val : UInt32) :
    (((val >>> 24) &&& 0xFF).toUInt8.toUInt32 <<< 24) |||
        (((val >>> 16) &&& 0xFF).toUInt8.toUInt32 <<< 16) |||
        (((val >>> 8) &&& 0xFF).toUInt8.toUInt32 <<< 8) |||
        (val &&& 0xFF).toUInt8.toUInt32 = val := by
  apply UInt32.eq_of_toBitVec_eq
  change (((val.toBitVec >>> 24 &&& 255#32).setWidth 8).setWidth 32 <<< 24) |||
    (((val.toBitVec >>> 16 &&& 255#32).setWidth 8).setWidth 32 <<< 16) |||
    (((val.toBitVec >>> 8 &&& 255#32).setWidth 8).setWidth 32 <<< 8) |||
    ((val.toBitVec &&& 255#32).setWidth 8).setWidth 32 = val.toBitVec
  apply BitVec.eq_of_getLsbD_eq
  intro i inside
  simp only [BitVec.getLsbD_or, byte_at (by decide : 8 ≤ 32), low_byte (by decide : 8 ≤ 32),
    inside, decide_true, Bool.true_and]
  cases val.toBitVec.getLsbD i with
  | false => simp
  | true => simp; omega

/-- The two bytes of a half word are read back as the half word. -/
theorem joinBytes16 (val : UInt16) :
    (((val >>> 8) &&& 0xFF).toUInt8.toUInt16 <<< 8) ||| (val &&& 0xFF).toUInt8.toUInt16 = val := by
  apply UInt16.eq_of_toBitVec_eq
  change (((val.toBitVec >>> 8 &&& 255#16).setWidth 8).setWidth 16 <<< 8) |||
    ((val.toBitVec &&& 255#16).setWidth 8).setWidth 16 = val.toBitVec
  apply BitVec.eq_of_getLsbD_eq
  intro i inside
  simp only [BitVec.getLsbD_or, byte_at (by decide : 8 ≤ 16), low_byte (by decide : 8 ≤ 16),
    inside, decide_true, Bool.true_and]
  cases val.toBitVec.getLsbD i with
  | false => simp
  | true => simp; omega

end TurboCore.Foundation
