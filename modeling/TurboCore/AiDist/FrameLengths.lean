import Mathlib
import TurboCore.AiDist.BurstErrors
import TurboCore.AiDist.ReadBounds

/-!
# The length of a frame

A body length crosses three widths: `serialize` casts a `size_t` to the 32 bits of
`body_len`, and `deserialize` adds `body_len` to `header_size()` in a `size_t` again. The
cast loses the top of a text of 4 GiB, and on a platform with a 32-bit `size_t` the sum
wraps for the last sixteen lengths.
-/

namespace TurboCore.AiDist

open Foundation Recorded TransportHeader AiSchedulePacket

/-- The frame that `serialize` appends has a header whose `body_len` is the number of the
bytes behind it. -/
def DeclaresBody (lib : JsonLibrary) (packet : AiSchedulePacket) (outBytes : List UInt8) : Prop :=
  ∃ header,
    deserializeFromBytes ((packet.serialize lib outBytes).drop outBytes.length) = .ok header ∧
    outBytes.length + headerSize + header.bodyLen.toNat = (packet.serialize lib outBytes).length

/-- What the test `buf_len < header_size() + body_len` lets through lies in the buffer. -/
def LengthTestExact (sizeBits : Nat) (memory : Nat → UInt8) (len : Nat) : Prop :=
  ∀ header, deserializeFromBytes (bufferOf memory len) = .ok header →
    ¬ len < frameLength sizeBits header.bodyLen → headerSize + header.bodyLen.toNat ≤ len

/-- `deserialize`, its checksum loop and its copy of the body read only inside the buffer. -/
def ReadsInside (lib : JsonLibrary) (sizeBits : Nat) (memory : Nat → UInt8) (len : Nat) : Prop :=
  ∀ index ∈ (deserializeAt lib sizeBits memory len).indices, index < len

/-- The declared frame fits a `size_t`. -/
def FrameFits (sizeBits : Nat) (memory : Nat → UInt8) (len : Nat) : Prop :=
  ∀ header, deserializeFromBytes (bufferOf memory len) = .ok header →
    headerSize + header.bodyLen.toNat < 2 ^ sizeBits

theorem serialize_eq_append (lib : JsonLibrary) (packet : AiSchedulePacket)
    (outBytes : List UInt8) :
    packet.serialize lib outBytes =
      outBytes ++ (serializeToBytes (headerFor (lib.dump packet.fullBody)) [] ++
        lib.dump packet.fullBody) := by
  rw [serialize, serializeToBytes_append, List.append_assoc]

/-- The cast keeps the length of a text exactly when 32 bits hold it. -/
theorem declaresBody_iff (lib : JsonLibrary) (packet : AiSchedulePacket)
    (outBytes : List UInt8) :
    DeclaresBody lib packet outBytes ↔ (lib.dump packet.fullBody).length < 2 ^ 32 := by
  have decoded := deserializeFromBytes_serializeToBytes (headerFor (lib.dump packet.fullBody))
    (lib.dump packet.fullBody) rfl (by simp [headerFor])
  rw [DeclaresBody, serialize_eq_append, List.drop_left' rfl, decoded, List.length_append,
    List.length_append, length_serializeToBytes]
  simp only [Except.ok.injEq, exists_eq_left', toNat_bodyLen_headerFor, declaredLength]
  have cast := Nat.mod_lt (lib.dump packet.fullBody).length (show 0 < 2 ^ 32 by decide)
  constructor
  · intro counted
    omega
  · intro short
    rw [Nat.mod_eq_of_lt short]
    omega

/-- A sum that fits is not wrapped. -/
theorem frameLength_of_fits {sizeBits : Nat} {bodyLen : UInt32}
    (fits : headerSize + bodyLen.toNat < 2 ^ sizeBits) :
    frameLength sizeBits bodyLen = headerSize + bodyLen.toNat :=
  Nat.mod_eq_of_lt fits

/-- A sum that does not fit passes the test of every buffer that holds a header. -/
theorem frameLength_of_wraps {sizeBits : Nat} (width : sizeBits = 32 ∨ sizeBits = 64)
    {bodyLen : UInt32} (wraps : ¬ headerSize + bodyLen.toNat < 2 ^ sizeBits) :
    frameLength sizeBits bodyLen < headerSize := by
  have bound := bodyLen.toNat_lt
  rcases width with rfl | rfl
  · unfold frameLength headerSize at *
    omega
  · unfold headerSize at wraps
    omega

theorem lengthTestExact_iff {sizeBits : Nat} (width : sizeBits = 32 ∨ sizeBits = 64)
    {memory : Nat → UInt8} {len : Nat} (lenFits : len < 2 ^ sizeBits) :
    LengthTestExact sizeBits memory len ↔ FrameFits sizeBits memory len := by
  constructor
  · intro exact header decoded
    by_contra wraps
    have sixteen := headerSize_le_of_deserializeFromBytes decoded
    rw [length_bufferOf] at sixteen
    have passed := frameLength_of_wraps width wraps
    have inside := exact header decoded (by omega)
    omega
  · intro fits header decoded passed
    rw [frameLength_of_fits (fits header decoded)] at passed
    omega

/-- Once the test is passed the checksum loop reads the whole declared body. -/
theorem mem_indices_of_passed (lib : JsonLibrary) {sizeBits : Nat} {memory : Nat → UInt8}
    {len : Nat} {header : TransportHeader}
    (decoded : deserializeFromBytes (bufferOf memory len) = .ok header)
    (passed : ¬ len < frameLength sizeBits header.bodyLen) {index : Nat}
    (inBody : index ∈ List.range' headerSize header.bodyLen.toNat) :
    index ∈ (deserializeAt lib sizeBits memory len).indices := by
  have outcome := (within_deserializeFromBytes memory len).agrees
  rw [decoded] at outcome
  rw [deserializeAt, indices_bind outcome, if_neg passed]
  apply List.mem_append_right
  apply mem_indices_bind
  rw [crc32At]
  apply mem_indices_bind
  rw [indices_foldRange]
  exact inBody

theorem readsInside_iff (lib : JsonLibrary) {sizeBits : Nat}
    (width : sizeBits = 32 ∨ sizeBits = 64) {memory : Nat → UInt8} {len : Nat}
    (lenFits : len < 2 ^ sizeBits) :
    ReadsInside lib sizeBits memory len ↔ FrameFits sizeBits memory len := by
  constructor
  · intro inside header decoded
    by_contra wraps
    have sixteen := headerSize_le_of_deserializeFromBytes decoded
    rw [length_bufferOf] at sixteen
    have passed := frameLength_of_wraps width wraps
    -- the last byte of the declared body lies behind every buffer of this width
    have last := inside (headerSize + header.bodyLen.toNat - 1)
      (mem_indices_of_passed lib decoded (by omega) (by
        rw [List.mem_range'_1]
        omega))
    omega
  · intro fits
    exact (within_deserialize_of_noWrap lib sizeBits memory len fun header decoded =>
      frameLength_of_fits (fits header decoded)).inside

/-- A text of more than 4 GiB, and sixteen bytes on a platform with a 32-bit `size_t` that
declare a body of 2^32 - 8 bytes. -/
theorem oversized_text_and_wrapped_length :
    (¬ DeclaresBody removeLibrary (removeCallOf (longId (2 ^ 32))).packet []) ∧
    ¬ LengthTestExact 32 (fun index => ([0x41, 0x53, 0x43, 0x48, 0, 1, 0, 0,
      0xFF, 0xFF, 0xFF, 0xF8, 0, 0, 0, 0] : List UInt8).getD index 0) 16 := by
  constructor
  · rw [declaresBody_iff, dump_removeCallOf, length_removeTextOf_longId]
    omega
  · intro exact
    have inside := exact ⟨aiScheduleMagic, 1, 0, 0xFFFFFFF8, 0⟩ (by decide +kernel)
      (by decide +kernel)
    exact absurd inside (by decide +kernel)

/-- For every packet, every memory and both widths: the header declares the body exactly
when the text is shorter than 4 GiB, and the test keeps the frame and every read inside the
buffer exactly when the declared frame fits a `size_t`. -/
theorem frame_lengths_exact_iff (lib : JsonLibrary) (packet : AiSchedulePacket)
    (outBytes : List UInt8) (sizeBits : Nat) (width : sizeBits = 32 ∨ sizeBits = 64)
    (memory : Nat → UInt8) (len : Nat) (lenFits : len < 2 ^ sizeBits) :
    (DeclaresBody lib packet outBytes ↔ (lib.dump packet.fullBody).length < 2 ^ 32) ∧
    (LengthTestExact sizeBits memory len ↔ FrameFits sizeBits memory len) ∧
    (ReadsInside lib sizeBits memory len ↔ FrameFits sizeBits memory len) :=
  ⟨declaresBody_iff lib packet outBytes, lengthTestExact_iff width lenFits,
    readsInside_iff lib width lenFits⟩

/-- The sixteen hostile bytes leave a 32-bit buffer. -/
theorem sixteen_bytes_read_outside :
    ¬ ReadsInside removeLibrary 32 (fun index => ([0x41, 0x53, 0x43, 0x48, 0, 1, 0, 0,
      0xFF, 0xFF, 0xFF, 0xF8, 0, 0, 0, 0] : List UInt8).getD index 0) 16 := by
  rw [(frame_lengths_exact_iff removeLibrary (removeCallOf shortId).packet [] 32 (.inl rfl)
    _ 16 (by decide)).2.2]
  intro fits
  exact absurd (fits ⟨aiScheduleMagic, 1, 0, 0xFFFFFFF8, 0⟩ (by decide +kernel))
    (by decide +kernel)

end TurboCore.AiDist
