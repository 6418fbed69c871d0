import Mathlib

/-!
# The table-driven CRC-32 of the protocol

`crc32` builds a table of 256 entries by eight shift-and-xor rounds each and
then consumes the data one byte at a time.
-/

namespace TurboCore.AiDist

/-- One round of the table construction on the running value `c`. -/
def crcTableRound (c : UInt32) : UInt32 :=
  if (c &&& 1) ≠ 0 then (0xedb88320 : UInt32) ^^^ (c >>> 1) else c >>> 1

/-- `table[i]`: eight rounds from the index. -/
def crcTableEntry (i : UInt32) : UInt32 := crcTableRound^[8] i

/-- The static `table`, filled on first use. -/
def crcTable : Array UInt32 := Array.ofFn fun i : Fin 256 => crcTableEntry (UInt32.ofNat i)

/-- `crc = table[(crc ^ byte) & 0xFF] ^ (crc >> 8)`. -/
def crcByte (crc : UInt32) (byte : UInt8) : UInt32 :=
  crcTable.getD ((crc ^^^ byte.toUInt32) &&& 0xFF).toNat 0 ^^^ (crc >>> 8)

/-- `crc32(crc, data, len)`. -/
def crc32 (crc : UInt32) (data : List UInt8) : UInt32 :=
  data.foldl crcByte (crc ^^^ 0xFFFFFFFF) ^^^ 0xFFFFFFFF

/-- The check value of the IEEE 802.3 polynomial, over the digits `1` to `9`. -/
example : crc32 0 [0x31, 0x32, 0x33, 0x34, 0x35, 0x36, 0x37, 0x38, 0x39] = 0xCBF43926 := by
  decide +kernel

/-- Checksums compose: the second block continues from the first block's checksum. -/
theorem crc32_append (crc : UInt32) (first second : List UInt8) :
    crc32 (crc32 crc first) second = crc32 crc (first ++ second) := by
  have restored : ∀ value : UInt32, value ^^^ 0xFFFFFFFF ^^^ 0xFFFFFFFF = value := by
    intro value
    rw [UInt32.xor_assoc]
    simp
  simp only [crc32, restored, List.foldl_append]

end TurboCore.AiDist
