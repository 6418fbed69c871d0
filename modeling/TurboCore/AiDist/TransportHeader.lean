import Mathlib
import TurboCore.AiDist.Json
import TurboCore.Foundation.BigEndian

/-!
# The transport header

Sixteen bytes in front of every packet, each field in big-endian order. Reads go
through `readByte`, which reports an index at or beyond the buffer's length as
`outOfBounds` instead of inventing a byte.
-/

namespace TurboCore.AiDist

open Foundation

/-- Why a byte sequence is not accepted. The source returns `false` in all these
cases; `outOfBounds` stands for a read outside the buffer. -/
inductive Rejection where
  | outOfBounds
  | shortHeader
  | wrongMagic
  | newerVersion
  | shortBody
  | wrongChecksum
  | badJson (error : JsonError)
deriving DecidableEq, Repr

/-- `AI_SCHEDULE_MAGIC`, the letters `ASCH`. -/
def aiScheduleMagic : UInt32 := 0x41534348

/-- `AI_SCHEDULE_PROTOCOL_VERSION`. -/
def aiScheduleProtocolVersion : UInt16 := 1

structure TransportHeader where
  magic : UInt32
  version : UInt16
  reserve : UInt16
  bodyLen : UInt32
  checksum : UInt32
deriving DecidableEq, Repr

namespace TransportHeader

/-- `header_size()`, also the `sizeof` the length check uses. -/
def headerSize : Nat := 16

/-- `write_uint32`: append the four bytes, most significant first. -/
def writeUInt32 (val : UInt32) (out : List UInt8) : List UInt8 :=
  out ++ [((val >>> 24) &&& 0xFF).toUInt8, ((val >>> 16) &&& 0xFF).toUInt8,
    ((val >>> 8) &&& 0xFF).toUInt8, (val &&& 0xFF).toUInt8]

/-- `write_uint16`. -/
def writeUInt16 (val : UInt16) (out : List UInt8) : List UInt8 :=
  out ++ [((val >>> 8) &&& 0xFF).toUInt8, (val &&& 0xFF).toUInt8]

/-- `buf[index]`. -/
def readByte (buf : List UInt8) (index : Nat) : Except Rejection UInt8 :=
  match buf[index]? with
  | some byte => .ok byte
  | none => .error .outOfBounds

/-- `read_uint32(buf + offset)`; each char is widened through `uint8_t`, so no sign bit spreads. -/
def readUInt32 (buf : List UInt8) (offset : Nat) : Except Rejection UInt32 := do
  let b0 ← readByte buf offset
  let b1 ← readByte buf (offset + 1)
  let b2 ← readByte buf (offset + 2)
  let b3 ← readByte buf (offset + 3)
  return (b0.toUInt32 <<< 24) ||| (b1.toUInt32 <<< 16) ||| (b2.toUInt32 <<< 8) ||| b3.toUInt32

/-- `read_uint16(buf + offset)`. -/
def readUInt16 (buf : List UInt8) (offset : Nat) : Except Rejection UInt16 := do
  let b0 ← readByte buf offset
  let b1 ← readByte buf (offset + 1)
  return (b0.toUInt16 <<< 8) ||| b1.toUInt16

/-- `serialize_to_bytes`. -/
def serializeToBytes (header : TransportHeader) (out : List UInt8) : List UInt8 :=
  writeUInt32 header.checksum
    (writeUInt32 header.bodyLen
      (writeUInt16 header.reserve
        (writeUInt16 header.version
          (writeUInt32 header.magic out))))

/-- `deserialize_from_bytes`. -/
def deserializeFromBytes (buf : List UInt8) : Except Rejection TransportHeader :=
  if buf.length < headerSize then .error .shortHeader
  else do
    let magic ← readUInt32 buf 0
    let version ← readUInt16 buf 4
    let reserve ← readUInt16 buf 6
    let bodyLen ← readUInt32 buf 8
    let checksum ← readUInt32 buf 12
    if magic ≠ aiScheduleMagic then .error .wrongMagic
    else if version > aiScheduleProtocolVersion then .error .newerVersion
    else .ok { magic, version, reserve, bodyLen, checksum }

/-- Bytes behind the end of a buffer do not change a read inside it. -/
theorem readByte_append {buf : List UInt8} {index : Nat} (inside : index < buf.length)
    (suffix : List UInt8) : readByte (buf ++ suffix) index = readByte buf index := by
  simp only [readByte, List.getElem?_append_left inside]

theorem readUInt32_append {buf : List UInt8} {offset : Nat} (inside : offset + 3 < buf.length)
    (suffix : List UInt8) : readUInt32 (buf ++ suffix) offset = readUInt32 buf offset := by
  have first : offset < buf.length := by omega
  have second : offset + 1 < buf.length := by omega
  have third : offset + 2 < buf.length := by omega
  simp only [readUInt32, readByte_append first, readByte_append second, readByte_append third,
    readByte_append inside]

theorem readUInt16_append {buf : List UInt8} {offset : Nat} (inside : offset + 1 < buf.length)
    (suffix : List UInt8) : readUInt16 (buf ++ suffix) offset = readUInt16 buf offset := by
  have first : offset < buf.length := by omega
  simp only [readUInt16, readByte_append first, readByte_append inside]

/-- Once sixteen bytes are there, later bytes do not change the header's decoding. -/
theorem deserializeFromBytes_append {buf : List UInt8} (long : headerSize ≤ buf.length)
    (suffix : List UInt8) :
    deserializeFromBytes (buf ++ suffix) = deserializeFromBytes buf := by
  have sixteen : 16 ≤ buf.length := long
  have notShort : ¬ buf.length < headerSize := Nat.not_lt.mpr long
  have notShort' : ¬ (buf ++ suffix).length < headerSize := by
    rw [List.length_append]
    omega
  simp only [deserializeFromBytes, if_neg notShort, if_neg notShort']
  rw [readUInt32_append (by omega), readUInt16_append (by omega), readUInt16_append (by omega),
    readUInt32_append (by omega), readUInt32_append (by omega)]

/-- An accepted header needs its sixteen bytes. -/
theorem headerSize_le_of_deserializeFromBytes {buf : List UInt8} {header : TransportHeader}
    (accepted : deserializeFromBytes buf = .ok header) : headerSize ≤ buf.length := by
  by_contra short
  rw [deserializeFromBytes, if_pos (Nat.not_le.mp short)] at accepted
  cases accepted

/-- The header fields that sixteen leading bytes stand for. -/
private theorem deserializeFromBytes_bytes
    (m0 m1 m2 m3 v0 v1 r0 r1 l0 l1 l2 l3 c0 c1 c2 c3 : UInt8) (body : List UInt8)
    {magic bodyLen checksum : UInt32} {version reserve : UInt16}
    (magicBytes : (m0.toUInt32 <<< 24) ||| (m1.toUInt32 <<< 16) ||| (m2.toUInt32 <<< 8) |||
      m3.toUInt32 = magic)
    (versionBytes : (v0.toUInt16 <<< 8) ||| v1.toUInt16 = version)
    (reserveBytes : (r0.toUInt16 <<< 8) ||| r1.toUInt16 = reserve)
    (lengthBytes : (l0.toUInt32 <<< 24) ||| (l1.toUInt32 <<< 16) ||| (l2.toUInt32 <<< 8) |||
      l3.toUInt32 = bodyLen)
    (checksumBytes : (c0.toUInt32 <<< 24) ||| (c1.toUInt32 <<< 16) ||| (c2.toUInt32 <<< 8) |||
      c3.toUInt32 = checksum) :
    deserializeFromBytes (m0 :: m1 :: m2 :: m3 :: v0 :: v1 :: r0 :: r1 ::
        l0 :: l1 :: l2 :: l3 :: c0 :: c1 :: c2 :: c3 :: body) =
      if magic ≠ aiScheduleMagic then .error .wrongMagic
      else if version > aiScheduleProtocolVersion then .error .newerVersion
      else .ok { magic, version, reserve, bodyLen, checksum } := by
  subst magicBytes versionBytes reserveBytes lengthBytes checksumBytes
  have long : ¬ body.length + 16 < headerSize := by
    unfold headerSize
    omega
  simp only [deserializeFromBytes, List.length_cons, if_neg long]
  rfl

/-- The sixteen bytes in front of `body`, read back field by field. -/
theorem deserializeFromBytes_serializeToBytes (header : TransportHeader) (body : List UInt8)
    (magic : header.magic = aiScheduleMagic)
    (version : header.version ≤ aiScheduleProtocolVersion) :
    deserializeFromBytes (serializeToBytes header [] ++ body) = .ok header := by
  have notNewer : ¬ header.version > aiScheduleProtocolVersion := by
    simpa using version
  have decoded := deserializeFromBytes_bytes _ _ _ _ _ _ _ _ _ _ _ _ _ _ _ _ body
    (joinBytes32 header.magic) (joinBytes16 header.version) (joinBytes16 header.reserve)
    (joinBytes32 header.bodyLen) (joinBytes32 header.checksum)
  rw [if_neg (not_not.mpr magic), if_neg notNewer] at decoded
  exact decoded

/-- `serialize_to_bytes` appends sixteen bytes that do not depend on what stands before them. -/
theorem serializeToBytes_append (header : TransportHeader) (out : List UInt8) :
    serializeToBytes header out = out ++ serializeToBytes header [] := by
  simp [serializeToBytes, writeUInt32, writeUInt16]

@[simp] theorem length_serializeToBytes (header : TransportHeader) :
    (serializeToBytes header []).length = headerSize := by
  simp [serializeToBytes, writeUInt32, writeUInt16, headerSize]

end TransportHeader

end TurboCore.AiDist
