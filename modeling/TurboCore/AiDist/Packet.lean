import Mathlib
import TurboCore.Foundation.Framing
import TurboCore.AiDist.Crc32
import TurboCore.AiDist.TransportHeader
import TurboCore.AiDist.Messages

/-!
# Packets on the wire

`AiSchedulePacket` with its frame encoder and decoder. `packetFraming` shows
that the decoder recognises self-delimiting frames, which is what both the
round trip below and the registry server's stream parser rest on.
-/

namespace TurboCore.AiDist

open Foundation Json TransportHeader

structure AiSchedulePacket where
  transHeader : TransportHeader
  baseHeader : BasePacket
  body : Json

namespace AiSchedulePacket

/-- The JSON object whose text is the frame's body. -/
def fullBody (packet : AiSchedulePacket) : Json :=
  ofFields [("base", packet.baseHeader.toJson), ("body", packet.body)]

/-- The header that `serialize` fills in for a body text. -/
def headerFor (bodyStr : List UInt8) : TransportHeader where
  magic := aiScheduleMagic
  version := aiScheduleProtocolVersion
  reserve := 0
  bodyLen := UInt32.ofNat bodyStr.length
  checksum := crc32 0 bodyStr

/-- `serialize(out_bytes)`: the header and the body text go behind what `out_bytes` holds. -/
def serialize (lib : JsonLibrary) (packet : AiSchedulePacket) (outBytes : List UInt8) :
    List UInt8 :=
  let bodyStr := lib.dump packet.fullBody
  serializeToBytes (headerFor bodyStr) outBytes ++ bodyStr

/-- `header_size() + body_len` in a `size_t` of `sizeBits` bits. -/
def frameLength (sizeBits : Nat) (bodyLen : UInt32) : Nat :=
  (headerSize + bodyLen.toNat) % 2 ^ sizeBits

/-- The bytes `buf[offset]` up to `buf[offset + count - 1]`. -/
def readRange (buf : List UInt8) (offset count : Nat) : Except Rejection (List UInt8) :=
  if offset + count ≤ buf.length then .ok ((buf.drop offset).take count)
  else .error .outOfBounds

/-- The `try` block of `deserialize`: parse the text and take the two members. -/
def decodeBody (lib : JsonLibrary) (bodyStr : List UInt8) :
    Except JsonError (BasePacket × Json) := do
  let fullJson ← lib.parse bodyStr
  let base ← BasePacket.fromJson (← fullJson.atKey "base")
  let body ← fullJson.atKey "body"
  return (base, body)

/-- `deserialize(buf, buf_len)` for a `size_t` of `sizeBits` bits. -/
def deserialize (lib : JsonLibrary) (sizeBits : Nat) (buf : List UInt8) :
    Except Rejection AiSchedulePacket := do
  let transHeader ← deserializeFromBytes buf
  if buf.length < frameLength sizeBits transHeader.bodyLen then .error .shortBody
  else do
    let bodyBuf ← readRange buf headerSize transHeader.bodyLen.toNat
    if crc32 0 bodyBuf ≠ transHeader.checksum then .error .wrongChecksum
    else
      match decodeBody lib bodyBuf with
      | .ok (baseHeader, body) => .ok { transHeader, baseHeader, body }
      | .error error => .error (.badJson error)

/-- `build<T>`. The transport header stays uninitialised in the source and is
never read from a built packet. -/
def build (seq : UInt64) (type : PacketType) (senderId : String) (kind : MessageKind)
    (value : kind.Value) : AiSchedulePacket where
  transHeader := ⟨0, 0, 0, 0, 0⟩
  baseHeader := { seq, type, senderId }
  body := kind.toJson value

/-- A frame length never wraps in a 64-bit `size_t`. -/
theorem frameLength_64 (bodyLen : UInt32) :
    frameLength 64 bodyLen = headerSize + bodyLen.toNat := by
  have bound := bodyLen.toNat_lt
  unfold frameLength headerSize
  omega

/-- What acceptance means on a platform with a 64-bit `size_t`. -/
theorem deserialize_eq_ok_iff {lib : JsonLibrary} {buf : List UInt8} {packet : AiSchedulePacket} :
    deserialize lib 64 buf = .ok packet ↔
      deserializeFromBytes buf = .ok packet.transHeader ∧
      headerSize + packet.transHeader.bodyLen.toNat ≤ buf.length ∧
      crc32 0 ((buf.drop headerSize).take packet.transHeader.bodyLen.toNat) =
        packet.transHeader.checksum ∧
      decodeBody lib ((buf.drop headerSize).take packet.transHeader.bodyLen.toNat) =
        .ok (packet.baseHeader, packet.body) := by
  obtain ⟨header, base, body⟩ := packet
  unfold deserialize
  cases decoded : deserializeFromBytes buf with
  | error rejection => simp [bind, Except.bind]
  | ok found =>
      simp only [bind, Except.bind, Except.ok.injEq, frameLength_64, readRange]
      constructor
      · intro accepted
        split_ifs at accepted with short inside
        · simp only at accepted
          split_ifs at accepted with wrong
          split at accepted
          · next base' body' parsed =>
              cases accepted
              exact ⟨rfl, inside, not_not.mp wrong, parsed⟩
          · cases accepted
      · rintro ⟨rfl, long, checksum, parsed⟩
        have notShort : ¬ buf.length < headerSize + found.bodyLen.toNat := Nat.not_lt.mpr long
        simp [notShort, long, checksum, parsed]

/-- A whole frame is refused for its checksum exactly when the sums differ. -/
theorem deserialize_eq_wrongChecksum_iff {lib : JsonLibrary} {buf : List UInt8}
    {header : TransportHeader} (decoded : deserializeFromBytes buf = .ok header)
    (whole : headerSize + header.bodyLen.toNat ≤ buf.length) :
    deserialize lib 64 buf = .error .wrongChecksum ↔
      crc32 0 ((buf.drop headerSize).take header.bodyLen.toNat) ≠ header.checksum := by
  simp only [deserialize, decoded, bind, Except.bind, frameLength_64, readRange, if_pos whole,
    if_neg (Nat.not_lt.mpr whole)]
  split_ifs with wrong
  · simp only [true_iff]
    exact wrong
  · split <;> simpa using not_not.mp wrong

/-- An accepted frame is accepted, as the same packet, whatever bytes follow it. -/
theorem deserialize_append {lib : JsonLibrary} {buf : List UInt8} {packet : AiSchedulePacket}
    (accepted : deserialize lib 64 buf = .ok packet) (suffix : List UInt8) :
    deserialize lib 64 (buf ++ suffix) = .ok packet := by
  obtain ⟨header, long, checksum, parsed⟩ := deserialize_eq_ok_iff.mp accepted
  have sixteen := headerSize_le_of_deserializeFromBytes header
  have sameBody : ((buf ++ suffix).drop headerSize).take packet.transHeader.bodyLen.toNat =
      (buf.drop headerSize).take packet.transHeader.bodyLen.toNat := by
    rw [List.drop_append_of_le_length sixteen, List.take_append_of_le_length]
    rw [List.length_drop]
    omega
  refine deserialize_eq_ok_iff.mpr ⟨?_, ?_, ?_, ?_⟩
  · rw [deserializeFromBytes_append sixteen, header]
  · rw [List.length_append]
    omega
  · rw [sameBody, checksum]
  · rw [sameBody, parsed]

/-- The first frame of a byte sequence, with its number of bytes. -/
def nextFrame (lib : JsonLibrary) (bytes : List UInt8) : Option (AiSchedulePacket × Nat) :=
  match deserialize lib 64 bytes with
  | .ok packet => some (packet, headerSize + packet.transHeader.bodyLen.toNat)
  | .error _ => none

theorem nextFrame_eq_some_iff {lib : JsonLibrary} {bytes : List UInt8}
    {packet : AiSchedulePacket} {count : Nat} :
    nextFrame lib bytes = some (packet, count) ↔
      deserialize lib 64 bytes = .ok packet ∧
        count = headerSize + packet.transHeader.bodyLen.toNat := by
  unfold nextFrame
  cases deserialize lib 64 bytes with
  | error rejection => simp
  | ok found =>
      simp only [Option.some.injEq, Prod.mk.injEq, Except.ok.injEq]
      constructor
      · rintro ⟨rfl, rfl⟩
        exact ⟨rfl, rfl⟩
      · rintro ⟨rfl, rfl⟩
        exact ⟨rfl, rfl⟩

/-- Fewer bytes than a header are no frame. -/
theorem nextFrame_of_short {lib : JsonLibrary} {bytes : List UInt8}
    (short : bytes.length < headerSize) : nextFrame lib bytes = none := by
  cases recognised : nextFrame lib bytes with
  | none => rfl
  | some found =>
      obtain ⟨accepted, _⟩ := nextFrame_eq_some_iff.mp recognised
      obtain ⟨header, _⟩ := deserialize_eq_ok_iff.mp accepted
      have sixteen := headerSize_le_of_deserializeFromBytes header
      omega

/-- The wire format as a framing: `deserialize` recognises the first frame. -/
def packetFraming (lib : JsonLibrary) : Framing UInt8 AiSchedulePacket where
  next := nextFrame lib
  positive := by
    intro bytes packet count recognised
    rw [(nextFrame_eq_some_iff.mp recognised).2]
    unfold headerSize
    omega
  bounded := by
    intro bytes packet count recognised
    obtain ⟨accepted, rfl⟩ := nextFrame_eq_some_iff.mp recognised
    exact (deserialize_eq_ok_iff.mp accepted).2.1
  stable := by
    intro bytes packet count suffix recognised
    obtain ⟨accepted, length⟩ := nextFrame_eq_some_iff.mp recognised
    exact nextFrame_eq_some_iff.mpr ⟨deserialize_append accepted suffix, length⟩

end AiSchedulePacket

end TurboCore.AiDist
