import Mathlib
import TurboCore.AiDist.Crc32
import TurboCore.Foundation.BigEndian
import TurboCore.Foundation.ShiftRegister

/-!
# The CRC-32 one bit at a time

The table of `crc32` takes eight bits at once. Here is the checksum of IEEE 802.3 as it is
defined, bit by bit over the message, and the proof that the table computes it. Both are a
shift register, so what a shift register tells apart the checksum tells apart.
-/

namespace TurboCore.AiDist

open Foundation ShiftRegister

/-- The polynomial of IEEE 802.3 with its bits reflected. -/
def ieeePolynomial : UInt32 := 0xEDB88320

/-- The bits of a byte in the order in which they count: lowest first. -/
def bitsOfByte (byte : UInt8) : List Bool := (List.range 8).map byte.toBitVec.getLsbD

/-- The bits of a message. -/
def bitsOf (data : List UInt8) : List Bool := data.flatMap bitsOfByte

/-- Take one bit in: shift, and xor the polynomial in when the bits that meet differ. -/
def crcBit (crc : UInt32) (bit : Bool) : UInt32 :=
  if ((crc &&& 1) ≠ 0) ≠ (bit = true) then (crc >>> 1) ^^^ ieeePolynomial else crc >>> 1

/-- The reflected CRC-32, bit by bit, with inversion before and after. -/
def crc32Bitwise (crc : UInt32) (data : List UInt8) : UInt32 :=
  (bitsOf data).foldl crcBit (crc ^^^ 0xFFFFFFFF) ^^^ 0xFFFFFFFF

/-! ## Both are one shift register -/

/-- The polynomial as the register has it. -/
abbrev poly : BitVec 32 := ieeePolynomial.toBitVec

theorem poly_top : poly.getLsbD (32 - 1) = true := by decide

theorem and_one_ne_zero_iff (crc : UInt32) :
    (crc &&& 1) ≠ 0 ↔ crc.toBitVec.getLsbD 0 = true := by
  have bits : (crc &&& 1).toBitVec = (BitVec.ofBool (crc.toBitVec.getLsbD 0)).setWidth 32 :=
    BitVec.and_one_eq_setWidth_ofBool_getLsbD
  rw [Ne, ← UInt32.toBitVec_inj, bits]
  cases crc.toBitVec.getLsbD 0 <;> decide

theorem toBitVec_crcTableRound (crc : UInt32) :
    (crcTableRound crc).toBitVec = shift poly crc.toBitVec := by
  unfold crcTableRound shift
  simp only [and_one_ne_zero_iff]
  cases crc.toBitVec.getLsbD 0 with
  | false => simp
  | true =>
      simp only [if_true, UInt32.toBitVec_xor]
      exact BitVec.xor_comm _ _

theorem toBitVec_crcBit (crc : UInt32) (bit : Bool) :
    (crcBit crc bit).toBitVec = feed poly crc.toBitVec bit := by
  unfold crcBit feed
  simp only [and_one_ne_zero_iff]
  cases crc.toBitVec.getLsbD 0 <;> cases bit <;> simp

theorem toBitVec_crcTableEntry (index : UInt32) :
    (crcTableEntry index).toBitVec = (shift poly)^[8] index.toBitVec := by
  have semiconj : Function.Semiconj UInt32.toBitVec crcTableRound (shift poly) :=
    toBitVec_crcTableRound
  exact (semiconj.iterate_right 8).eq index

@[simp] theorem length_bitsOfByte (byte : UInt8) : (bitsOfByte byte).length = 8 := by
  simp [bitsOfByte]

theorem word_bitsOfByte (byte : UInt8) :
    word 32 (bitsOfByte byte) = byte.toUInt32.toBitVec := by
  apply BitVec.eq_of_getLsbD_eq
  intro i inside
  by_cases below : i < 8
  · simp [bitsOfByte, below, inside]
  · have above : byte.toBitVec.getLsbD i = false := BitVec.getLsbD_of_ge _ _ (by omega)
    simp [bitsOfByte, below, inside, above]

/-- The lookup never leaves the table. -/
theorem crcTable_getD (index : UInt32) (inside : index.toNat < 256) :
    crcTable.getD index.toNat 0 = crcTableEntry index := by
  have size : crcTable.size = 256 := Array.size_ofFn
  rw [Array.getD, dif_pos (size ▸ inside)]
  simp [crcTable]

/-- One byte through the table is its eight bits through the register. -/
theorem toBitVec_crcByte (crc : UInt32) (byte : UInt8) :
    (crcByte crc byte).toBitVec = feedAll poly crc.toBitVec (bitsOfByte byte) := by
  let mixed := crc.toBitVec ^^^ byte.toUInt32.toBitVec
  have index : ((crc ^^^ byte.toUInt32) &&& 0xFF).toBitVec = (mixed.setWidth 8).setWidth 32 := by
    apply BitVec.eq_of_getLsbD_eq
    intro i inside
    change (mixed &&& BitVec.ofNat 32 255).getLsbD i = _
    rw [BitVec.getLsbD_and, mask_bit (by decide : 8 ≤ 32), Bool.and_comm]
    simp [BitVec.getLsbD_setWidth, inside]
  have small : ((crc ^^^ byte.toUInt32) &&& 0xFF).toNat < 256 := by
    rw [← UInt32.toNat_toBitVec, index, BitVec.toNat_setWidth, BitVec.toNat_setWidth]
    omega
  have high : crc.toBitVec >>> 8 = mixed >>> 8 := by
    have gone : byte.toUInt32.toBitVec >>> 8 = 0#32 := by
      apply BitVec.eq_of_toNat_eq
      have bound := byte.toNat_lt
      rw [BitVec.toNat_ushiftRight, UInt32.toNat_toBitVec, UInt8.toNat_toUInt32,
        Nat.shiftRight_eq_div_pow]
      simp only [BitVec.toNat_ofNat]
      omega
    rw [BitVec.ushiftRight_xor_distrib, gone, BitVec.xor_zero]
  calc (crcByte crc byte).toBitVec
      = (shift poly)^[8] ((mixed.setWidth 8).setWidth 32) ^^^ (crc.toBitVec >>> 8) := by
        rw [crcByte, crcTable_getD _ small, UInt32.toBitVec_xor, toBitVec_crcTableEntry, index]
        rfl
    _ = (shift poly)^[8] mixed := by
        rw [high, ← iterate_shift_eq_low_xor]
    _ = feedAll poly crc.toBitVec (bitsOfByte byte) := by
        rw [feedAll_eq_iterate poly (by simp), length_bitsOfByte, word_bitsOfByte]

/-- A message through the table is its bits through the register. -/
theorem toBitVec_foldl_crcByte (crc : UInt32) (data : List UInt8) :
    (data.foldl crcByte crc).toBitVec = feedAll poly crc.toBitVec (bitsOf data) := by
  induction data generalizing crc with
  | nil => rfl
  | cons byte rest inductionHypothesis =>
      rw [List.foldl_cons, inductionHypothesis, toBitVec_crcByte, bitsOf, bitsOf,
        List.flatMap_cons, feedAll_append]

theorem toBitVec_foldl_crcBit (crc : UInt32) (bits : List Bool) :
    (bits.foldl crcBit crc).toBitVec = feedAll poly crc.toBitVec bits := by
  induction bits generalizing crc with
  | nil => rfl
  | cons bit rest inductionHypothesis =>
      rw [List.foldl_cons, inductionHypothesis, toBitVec_crcBit]
      rfl

/-- The table-driven checksum is the bit by bit one, for every initial value and every
message, and a second block continues from the first block's checksum. -/
theorem crc32_eq_bitwise (crc : UInt32) (data : List UInt8) :
    crc32 crc data = crc32Bitwise crc data ∧
      ∀ second, crc32 (crc32 crc data) second = crc32 crc (data ++ second) := by
  refine ⟨?_, fun second => crc32_append crc data second⟩
  have registers : data.foldl crcByte (crc ^^^ 0xFFFFFFFF) =
      (bitsOf data).foldl crcBit (crc ^^^ 0xFFFFFFFF) := by
    apply UInt32.eq_of_toBitVec_eq
    rw [toBitVec_foldl_crcByte, toBitVec_foldl_crcBit]
  rw [crc32, registers, crc32Bitwise]

end TurboCore.AiDist
