import Mathlib
import TurboCore.Foundation.RecordedReads
import TurboCore.AiDist.Packet

/-!
# Every byte that `deserialize` reads

The decoder once more, over a memory that does not end: `buf` is an address, `len` only
what the caller says about it, and nothing stops a read behind the last byte. All reads
are recorded, byte by byte, in the header, in the checksum loop and in the copy of the
body. The decoder over lists is what this one computes.
-/

namespace TurboCore.AiDist

open Foundation Recorded Json TransportHeader

namespace TransportHeader

/-- `read_uint32(buf + offset)`. -/
def readUInt32At (memory : Nat → UInt8) (offset : Nat) : Recorded Rejection UInt32 := do
  let b0 ← read memory offset
  let b1 ← read memory (offset + 1)
  let b2 ← read memory (offset + 2)
  let b3 ← read memory (offset + 3)
  return (b0.toUInt32 <<< 24) ||| (b1.toUInt32 <<< 16) ||| (b2.toUInt32 <<< 8) ||| b3.toUInt32

/-- `read_uint16(buf + offset)`. -/
def readUInt16At (memory : Nat → UInt8) (offset : Nat) : Recorded Rejection UInt16 := do
  let b0 ← read memory offset
  let b1 ← read memory (offset + 1)
  return (b0.toUInt16 <<< 8) ||| b1.toUInt16

/-- `deserialize_from_bytes(buf, len, out)`: all five fields are read before the first test. -/
def deserializeFromBytesAt (memory : Nat → UInt8) (len : Nat) :
    Recorded Rejection TransportHeader :=
  if len < headerSize then fail .shortHeader
  else do
    let magic ← readUInt32At memory 0
    let version ← readUInt16At memory 4
    let reserve ← readUInt16At memory 6
    let bodyLen ← readUInt32At memory 8
    let checksum ← readUInt32At memory 12
    if magic ≠ aiScheduleMagic then fail .wrongMagic
    else if version > aiScheduleProtocolVersion then fail .newerVersion
    else return { magic, version, reserve, bodyLen, checksum }

end TransportHeader

/-- `crc32(crc, data, len)` with `data` at `offset`: the loop reads one byte each time round. -/
def crc32At (crc : UInt32) (memory : Nat → UInt8) (offset len : Nat) :
    Recorded Rejection UInt32 := do
  let summed ← foldRange memory crcByte offset len (crc ^^^ 0xFFFFFFFF)
  return summed ^^^ 0xFFFFFFFF

/-- `std::string body_str(body_buf, count)`. -/
def copyBytesAt (memory : Nat → UInt8) (offset count : Nat) : Recorded Rejection (List UInt8) :=
  foldRange memory (fun copied byte => copied ++ [byte]) offset count []

namespace AiSchedulePacket

/-- `deserialize(buf, buf_len, out_packet)` for a `size_t` of `sizeBits` bits. -/
def deserializeAt (lib : JsonLibrary) (sizeBits : Nat) (memory : Nat → UInt8) (len : Nat) :
    Recorded Rejection AiSchedulePacket := do
  let transHeader ← deserializeFromBytesAt memory len
  if len < frameLength sizeBits transHeader.bodyLen then fail .shortBody
  else do
    let actualChecksum ← crc32At 0 memory headerSize transHeader.bodyLen.toNat
    if actualChecksum ≠ transHeader.checksum then fail .wrongChecksum
    else do
      let bodyStr ← copyBytesAt memory headerSize transHeader.bodyLen.toNat
      match decodeBody lib bodyStr with
      | .ok (baseHeader, body) => return { transHeader, baseHeader, body }
      | .error error => fail (.badJson error)

end AiSchedulePacket

/-! ## The buffer of a memory -/

/-- The bytes `buf[0]` up to `buf[len - 1]`. -/
def bufferOf (memory : Nat → UInt8) (len : Nat) : List UInt8 := (List.range len).map memory

@[simp] theorem length_bufferOf (memory : Nat → UInt8) (len : Nat) :
    (bufferOf memory len).length = len := by
  simp [bufferOf]

/-- Memories that agree below `len` hold the same buffer. -/
theorem bufferOf_congr {memory other : Nat → UInt8} {len : Nat}
    (agree : ∀ index < len, other index = memory index) :
    bufferOf other len = bufferOf memory len := by
  apply List.map_congr_left
  intro index member
  exact agree index (List.mem_range.mp member)

theorem take_bufferOf (memory : Nat → UInt8) {shorter len : Nat} (le : shorter ≤ len) :
    (bufferOf memory len).take shorter = bufferOf memory shorter := by
  rw [bufferOf, bufferOf, ← List.map_take, List.take_range, Nat.min_eq_left le]

/-- A longer buffer is the shorter one with more bytes behind it. -/
theorem bufferOf_eq_append (memory : Nat → UInt8) {shorter len : Nat} (le : shorter ≤ len) :
    ∃ suffix, bufferOf memory len = bufferOf memory shorter ++ suffix := by
  refine ⟨(bufferOf memory len).drop shorter, ?_⟩
  rw [← take_bufferOf memory le, List.take_append_drop]

theorem readByte_bufferOf (memory : Nat → UInt8) {len index : Nat} (below : index < len) :
    readByte (bufferOf memory len) index = .ok (memory index) := by
  simp [readByte, bufferOf, below]

/-- A read below `len` is the bounds-checked read of the buffer. -/
theorem within_read (memory : Nat → UInt8) {len index : Nat} (below : index < len) :
    Within len (read memory index : Recorded Rejection UInt8)
      (readByte (bufferOf memory len) index) := by
  rw [readByte_bufferOf memory below]
  exact Within.read memory below

theorem within_readUInt32 (memory : Nat → UInt8) {len offset : Nat} (below : offset + 3 < len) :
    Within len (readUInt32At memory offset) (readUInt32 (bufferOf memory len) offset) := by
  refine (within_read memory (by omega)).bind fun b0 _ => ?_
  refine (within_read memory (by omega)).bind fun b1 _ => ?_
  refine (within_read memory (by omega)).bind fun b2 _ => ?_
  refine (within_read memory (by omega)).bind fun b3 _ => ?_
  exact Within.pure _

theorem within_readUInt16 (memory : Nat → UInt8) {len offset : Nat} (below : offset + 1 < len) :
    Within len (readUInt16At memory offset) (readUInt16 (bufferOf memory len) offset) := by
  refine (within_read memory (by omega)).bind fun b0 _ => ?_
  refine (within_read memory (by omega)).bind fun b1 _ => ?_
  exact Within.pure _

/-- The header is read inside the buffer, because the first test leaves sixteen bytes. -/
theorem within_deserializeFromBytes (memory : Nat → UInt8) (len : Nat) :
    Within len (deserializeFromBytesAt memory len)
      (deserializeFromBytes (bufferOf memory len)) := by
  rw [deserializeFromBytes, length_bufferOf, deserializeFromBytesAt]
  refine Within.ite (fun _ => Within.fail _) fun long => ?_
  have sixteen : 16 ≤ len := Nat.not_lt.mp long
  refine (within_readUInt32 memory (by omega)).bind fun magic _ => ?_
  refine (within_readUInt16 memory (by omega)).bind fun version _ => ?_
  refine (within_readUInt16 memory (by omega)).bind fun reserve _ => ?_
  refine (within_readUInt32 memory (by omega)).bind fun bodyLen _ => ?_
  refine (within_readUInt32 memory (by omega)).bind fun checksum _ => ?_
  refine Within.ite (fun _ => Within.fail _) fun _ => ?_
  exact Within.ite (fun _ => Within.fail _) fun _ => Within.pure _

/-- The checksum loop reads only the bytes that it sums. -/
theorem within_crc32 (crc : UInt32) (memory : Nat → UInt8) {len offset count : Nat}
    (below : offset + count ≤ len) :
    Within len (crc32At crc memory offset count)
      (.ok (crc32 crc (((bufferOf memory len).drop offset).take count))) := by
  rw [bufferOf, take_drop_range_map memory below]
  exact (Within.foldRange memory crcByte below _).bind_ok (Within.pure _)

private theorem foldl_append_singleton (bytes copied : List UInt8) :
    bytes.foldl (fun copied byte => copied ++ [byte]) copied = copied ++ bytes := by
  induction bytes generalizing copied with
  | nil => exact (List.append_nil copied).symm
  | cons byte bytes inductionHypothesis =>
      rw [List.foldl_cons, inductionHypothesis, List.append_assoc, List.singleton_append]

/-- The copy reads only the bytes that it copies. -/
theorem within_copyBytes (memory : Nat → UInt8) {len offset count : Nat}
    (below : offset + count ≤ len) :
    Within len (copyBytesAt memory offset count)
      (.ok (((bufferOf memory len).drop offset).take count)) := by
  rw [bufferOf, take_drop_range_map memory below]
  have looped : Within len (copyBytesAt memory offset count) _ :=
    Within.foldRange memory (fun copied byte => copied ++ [byte]) below []
  rwa [foldl_append_singleton, List.nil_append] at looped

namespace AiSchedulePacket

/-- Where the frame length does not wrap, `deserialize` computes what the decoder over lists
computes, and stays below `len`. -/
theorem within_deserialize_of_noWrap (lib : JsonLibrary) (sizeBits : Nat) (memory : Nat → UInt8)
    (len : Nat)
    (noWrap : ∀ header, deserializeFromBytes (bufferOf memory len) = .ok header →
      frameLength sizeBits header.bodyLen = headerSize + header.bodyLen.toNat) :
    Within len (deserializeAt lib sizeBits memory len)
      (deserialize lib sizeBits (bufferOf memory len)) := by
  rw [deserialize, deserializeAt, length_bufferOf]
  refine (within_deserializeFromBytes memory len).bind fun transHeader decoded => ?_
  refine Within.ite (fun _ => Within.fail _) fun long => ?_
  -- Without the wrap of `size_t` the second test leaves the whole body inside.
  rw [noWrap transHeader decoded] at long
  have whole : headerSize + transHeader.bodyLen.toNat ≤ len := Nat.not_lt.mp long
  have copied : readRange (bufferOf memory len) headerSize transHeader.bodyLen.toNat =
      .ok (((bufferOf memory len).drop headerSize).take transHeader.bodyLen.toNat) := by
    rw [readRange, length_bufferOf, if_pos whole]
  rw [copied]
  refine (within_crc32 0 memory whole).bind_ok ?_
  refine Within.ite (fun _ => Within.fail _) fun _ => ?_
  refine (within_copyBytes memory whole).bind_ok ?_
  cases decodeBody lib (((bufferOf memory len).drop headerSize).take
    transHeader.bodyLen.toNat) with
  | ok found => exact Within.pure _
  | error error => exact Within.fail _

theorem within_deserialize (lib : JsonLibrary) (memory : Nat → UInt8) (len : Nat) :
    Within len (deserializeAt lib 64 memory len) (deserialize lib 64 (bufferOf memory len)) :=
  within_deserialize_of_noWrap lib 64 memory len fun header _ => frameLength_64 header.bodyLen

/-- What the decoder makes of a memory, as the decoder over lists. -/
theorem outcome_deserializeAt (lib : JsonLibrary) (memory : Nat → UInt8) (len : Nat) :
    (deserializeAt lib 64 memory len).outcome = deserialize lib 64 (bufferOf memory len) :=
  (within_deserialize lib memory len).agrees

/-- An accepted buffer is accepted, as the same packet, without what follows the frame. -/
theorem deserialize_take {lib : JsonLibrary} {buf : List UInt8} {packet : AiSchedulePacket}
    (accepted : deserialize lib 64 buf = .ok packet) :
    deserialize lib 64 (buf.take (headerSize + packet.transHeader.bodyLen.toNat)) =
      .ok packet := by
  obtain ⟨header, long, checksum, parsed⟩ := deserialize_eq_ok_iff.mp accepted
  have frame : (buf.take (headerSize + packet.transHeader.bodyLen.toNat)).length =
      headerSize + packet.transHeader.bodyLen.toNat := by
    rw [List.length_take, Nat.min_eq_left long]
  have sixteen : headerSize ≤
      (buf.take (headerSize + packet.transHeader.bodyLen.toNat)).length := by omega
  have sameHeader := deserializeFromBytes_append sixteen
    (buf.drop (headerSize + packet.transHeader.bodyLen.toNat))
  rw [List.take_append_drop, header] at sameHeader
  have sameBody : ((buf.take (headerSize + packet.transHeader.bodyLen.toNat)).drop
      headerSize).take packet.transHeader.bodyLen.toNat =
        (buf.drop headerSize).take packet.transHeader.bodyLen.toNat := by
    rw [List.drop_take, List.take_take, Nat.add_sub_cancel_left, Nat.min_self]
  refine deserialize_eq_ok_iff.mpr ⟨sameHeader.symm, frame.ge, ?_, ?_⟩
  · rw [sameBody, checksum]
  · rw [sameBody, parsed]

/-- Only the bytes of the frame itself decide about a packet. -/
theorem deserialize_of_agree {lib : JsonLibrary} {memory other : Nat → UInt8}
    {len otherLen : Nat} {packet : AiSchedulePacket}
    (accepted : deserialize lib 64 (bufferOf memory len) = .ok packet)
    (long : headerSize + packet.transHeader.bodyLen.toNat ≤ otherLen)
    (agree : ∀ index < headerSize + packet.transHeader.bodyLen.toNat,
      other index = memory index) :
    deserialize lib 64 (bufferOf other otherLen) = .ok packet := by
  obtain ⟨_, whole, _⟩ := deserialize_eq_ok_iff.mp accepted
  rw [length_bufferOf] at whole
  have frame := deserialize_take accepted
  rw [take_bufferOf memory whole, ← bufferOf_congr agree] at frame
  obtain ⟨suffix, longer⟩ := bufferOf_eq_append other long
  rw [longer]
  exact deserialize_append frame suffix

/-- A part of a frame that lacks its end is refused. -/
theorem not_deserialize_of_shorter {lib : JsonLibrary} {memory other : Nat → UInt8}
    {len shorter : Nat} {packet found : AiSchedulePacket}
    (accepted : deserialize lib 64 (bufferOf memory len) = .ok packet)
    (proper : shorter < headerSize + packet.transHeader.bodyLen.toNat)
    (agree : ∀ index < shorter, other index = memory index) :
    deserialize lib 64 (bufferOf other shorter) ≠ .ok found := by
  intro early
  obtain ⟨_, whole, _⟩ := deserialize_eq_ok_iff.mp accepted
  obtain ⟨_, bounded, _⟩ := deserialize_eq_ok_iff.mp early
  rw [length_bufferOf] at whole bounded
  have le : shorter ≤ len := by omega
  obtain ⟨suffix, longer⟩ := bufferOf_eq_append memory le
  have extended := deserialize_append early suffix
  -- The whole buffer would then be the packet of its prefix, and so as short as that.
  rw [bufferOf_congr agree, ← longer, accepted] at extended
  cases extended
  omega

/-- No read leaves the buffer, and an accepted packet is the business of its own
`16 + body_len` bytes alone: bytes behind them change nothing, and fewer are refused. -/
theorem deserialize_framing_safe (lib : JsonLibrary) (memory : Nat → UInt8) (len : Nat) :
    (∀ index ∈ (deserializeAt lib 64 memory len).indices, index < len) ∧
    ∀ packet, (deserializeAt lib 64 memory len).outcome = .ok packet →
      headerSize + packet.transHeader.bodyLen.toNat ≤ len ∧
      (∀ other otherLen, headerSize + packet.transHeader.bodyLen.toNat ≤ otherLen →
        (∀ index < headerSize + packet.transHeader.bodyLen.toNat,
          other index = memory index) →
        (deserializeAt lib 64 other otherLen).outcome = .ok packet) ∧
      ∀ other shorter, shorter < headerSize + packet.transHeader.bodyLen.toNat →
        (∀ index < shorter, other index = memory index) →
        ∃ rejection, (deserializeAt lib 64 other shorter).outcome = .error rejection := by
  refine ⟨(within_deserialize lib memory len).inside, ?_⟩
  intro packet accepted
  rw [outcome_deserializeAt] at accepted
  obtain ⟨_, whole, _⟩ := deserialize_eq_ok_iff.mp accepted
  rw [length_bufferOf] at whole
  refine ⟨whole, ?_, ?_⟩
  · intro other otherLen long agree
    rw [outcome_deserializeAt]
    exact deserialize_of_agree accepted long agree
  · intro other shorter proper agree
    rw [outcome_deserializeAt]
    cases early : deserialize lib 64 (bufferOf other shorter) with
    | ok found => exact (not_deserialize_of_shorter accepted proper agree early).elim
    | error rejection => exact ⟨rejection, rfl⟩

end AiSchedulePacket

end TurboCore.AiDist
