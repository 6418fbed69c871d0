import Mathlib
import TurboCore.AiDist.Crc32Bits
import TurboCore.AiDist.StreamRoundTrip

/-!
# Burst errors in a frame's body

A change of at most four consecutive bytes changes the checksum of every body. The header
declares the body's length modulo 2^32, so the receiver sums the whole body only when that
is its length; `detectsBursts_iff` says for which bodies every burst is noticed.
-/

namespace TurboCore.AiDist

open Foundation Json ShiftRegister TransportHeader AiSchedulePacket

/-- The bytes differ, in one window of at most four of them. -/
def Burst (body altered : List UInt8) : Prop :=
  ∃ before window changed behind, body = before ++ window ++ behind ∧
    altered = before ++ changed ++ behind ∧ window.length = changed.length ∧
    window.length ≤ 4 ∧ window ≠ changed

theorem Burst.length_eq {body altered : List UInt8} (burst : Burst body altered) :
    altered.length = body.length := by
  obtain ⟨before, window, changed, behind, rfl, rfl, lengths, _, _⟩ := burst
  simp [lengths]

/-! ## Bytes and their bits -/

@[simp] theorem bitsOf_append (first second : List UInt8) :
    bitsOf (first ++ second) = bitsOf first ++ bitsOf second :=
  List.flatMap_append

@[simp] theorem length_bitsOf (data : List UInt8) : (bitsOf data).length = 8 * data.length := by
  induction data with
  | nil => rfl
  | cons byte rest inductionHypothesis =>
      rw [bitsOf, List.flatMap_cons, List.length_append, length_bitsOfByte, ← bitsOf,
        inductionHypothesis, List.length_cons]
      omega

theorem bitsOfByte_injective : Function.Injective bitsOfByte := by
  intro left right same
  have words := congrArg (word 32) same
  rw [word_bitsOfByte, word_bitsOfByte, UInt32.toBitVec_inj] at words
  apply UInt8.toNat_inj.mp
  simpa using congrArg UInt32.toNat words

theorem bitsOf_injective : Function.Injective bitsOf := by
  intro left
  induction left with
  | nil =>
      intro right same
      have length := congrArg List.length same
      rw [length_bitsOf, length_bitsOf, List.length_nil] at length
      exact (List.length_eq_zero_iff.mp (by omega)).symm
  | cons byte rest inductionHypothesis =>
      intro right same
      cases right with
      | nil =>
          have length := congrArg List.length same
          rw [length_bitsOf, length_bitsOf] at length
          simp at length
      | cons other others =>
          simp only [bitsOf, List.flatMap_cons] at same
          obtain ⟨head, tail⟩ := List.append_inj same (by simp)
          rw [bitsOfByte_injective head, inductionHypothesis tail]

/-- Any eight bits are those of a byte. -/
theorem exists_bitsOfByte_eq {bits : List Bool} (length : bits.length = 8) :
    ∃ byte, bitsOfByte byte = bits := by
  refine ⟨⟨word 8 bits⟩, ?_⟩
  apply List.ext_getElem
  · rw [length_bitsOfByte, length]
  · intro i _ inside
    have below : i < 8 := by omega
    simp [bitsOfByte, below, inside]

/-- Any whole number of octets of bits is the bits of as many bytes. -/
theorem exists_bitsOf_eq (count : Nat) {bits : List Bool} (length : bits.length = 8 * count) :
    ∃ data : List UInt8, data.length = count ∧ bitsOf data = bits := by
  induction count generalizing bits with
  | zero => exact ⟨[], rfl, (List.length_eq_zero_iff.mp length).symm⟩
  | succ count inductionHypothesis =>
      have firstLength : (bits.take 8).length = 8 := by
        rw [List.length_take]
        omega
      have restOctets : (bits.drop 8).length = 8 * count := by
        rw [List.length_drop]
        omega
      obtain ⟨byte, first⟩ := exists_bitsOfByte_eq firstLength
      obtain ⟨rest, restLength, others⟩ := inductionHypothesis restOctets
      refine ⟨byte :: rest, by rw [List.length_cons, restLength], ?_⟩
      rw [bitsOf, List.flatMap_cons, first, ← bitsOf, others, List.take_append_drop]

/-! ## The checksum of an altered message -/

theorem toBitVec_crc32 (crc : UInt32) (data : List UInt8) :
    (crc32 crc data).toBitVec =
      feedAll poly (crc ^^^ 0xFFFFFFFF).toBitVec (bitsOf data) ^^^
        (0xFFFFFFFF : UInt32).toBitVec := by
  rw [crc32, UInt32.toBitVec_xor, toBitVec_foldl_crcByte]

/-- A burst changes the checksum, whatever the initial value and however long the message. -/
theorem crc32_ne_of_burst (crc : UInt32) {body altered : List UInt8}
    (burst : Burst body altered) : crc32 crc altered ≠ crc32 crc body := by
  obtain ⟨before, window, changed, behind, rfl, rfl, lengths, short, different⟩ := burst
  intro same
  have registers := congrArg UInt32.toBitVec same
  rw [toBitVec_crc32, toBitVec_crc32, BitVec.xor_left_inj] at registers
  simp only [bitsOf_append] at registers
  refine feedAll_ne_of_window poly_top _ _ _ ?_ ?_ ?_ registers.symm
  · simp [lengths]
  · rw [length_bitsOf]
    omega
  · exact fun bits => different (bitsOf_injective bits)

/-- Four bytes at the front can give a message every checksum. -/
theorem exists_crc32_eq (crc target : UInt32) (behind : List UInt8) :
    ∃ front : List UInt8, front.length = 4 ∧ crc32 crc (front ++ behind) = target := by
  have surjective := (Finite.injective_iff_bijective.mp
    (feedAll_injective poly_top (bitsOf behind))).surjective
  obtain ⟨register, reached⟩ := surjective (target ^^^ 0xFFFFFFFF).toBitVec
  obtain ⟨bits, length, steered⟩ :=
    exists_feedAll_eq poly_top (crc ^^^ 0xFFFFFFFF).toBitVec register
  obtain ⟨front, frontLength, frontBits⟩ := exists_bitsOf_eq 4 length
  refine ⟨front, frontLength, ?_⟩
  apply UInt32.eq_of_toBitVec_eq
  rw [toBitVec_crc32, bitsOf_append, feedAll_append, frontBits, steered]
  simp only at reached
  rw [reached, UInt32.toBitVec_xor, BitVec.xor_assoc, BitVec.xor_self]
  exact BitVec.xor_zero

/-! ## What the receiver makes of an altered frame -/

/-- The header of a packet's frame with other bytes behind it. -/
def alteredFrame (lib : JsonLibrary) (packet : AiSchedulePacket) (altered : List UInt8) :
    List UInt8 :=
  (packet.serialize lib []).take headerSize ++ altered

/-- The body length that the header declares. -/
def declaredLength (bodyStr : List UInt8) : Nat := bodyStr.length % 2 ^ 32

/-- The bytes of a body that the receiver sums. -/
def declaredBytes (bodyStr : List UInt8) : List UInt8 := bodyStr.take (declaredLength bodyStr)

@[simp] theorem length_declaredBytes (bodyStr : List UInt8) :
    (declaredBytes bodyStr).length = declaredLength bodyStr := by
  rw [declaredBytes, List.length_take, declaredLength, Nat.min_eq_left (Nat.mod_le _ _)]

/-- Every burst in the packet's body is refused by the comparison of the checksums. -/
def DetectsBursts (lib : JsonLibrary) (packet : AiSchedulePacket) : Prop :=
  ∀ altered, Burst (lib.dump packet.fullBody) altered →
    deserialize lib 64 (alteredFrame lib packet altered) = .error .wrongChecksum ∧
      crc32 0 altered ≠ (headerFor (lib.dump packet.fullBody)).checksum

/-- The header declares the whole body, or so few bytes of it that none have its checksum. -/
def SumsWholeBody (bodyStr : List UInt8) : Prop :=
  bodyStr.length < 2 ^ 32 ∨
    declaredLength bodyStr < 4 ∧
      ∀ bytes : List UInt8, bytes.length = declaredLength bodyStr →
        crc32 0 bytes ≠ crc32 0 bodyStr

section Receiver

variable {lib : JsonLibrary} {packet : AiSchedulePacket} {altered : List UInt8}

theorem alteredFrame_eq : alteredFrame lib packet altered =
    serializeToBytes (headerFor (lib.dump packet.fullBody)) [] ++ altered := by
  rw [alteredFrame, serialize, List.take_left' (length_serializeToBytes _)]

theorem deserializeFromBytes_alteredFrame :
    deserializeFromBytes (alteredFrame lib packet altered) =
      .ok (headerFor (lib.dump packet.fullBody)) := by
  rw [alteredFrame_eq]
  exact deserializeFromBytes_serializeToBytes _ _ rfl (by simp [headerFor])

theorem toNat_bodyLen_headerFor (bodyStr : List UInt8) :
    (headerFor bodyStr).bodyLen.toNat = declaredLength bodyStr :=
  UInt32.toNat_ofNat'

/-- With a body of the same length no declared byte is missing. -/
theorem alteredFrame_whole (sameLength : altered.length = (lib.dump packet.fullBody).length) :
    headerSize + (headerFor (lib.dump packet.fullBody)).bodyLen.toNat ≤
      (alteredFrame lib packet altered).length := by
  have inside : declaredLength (lib.dump packet.fullBody) ≤ altered.length := by
    rw [sameLength]
    exact Nat.mod_le _ _
  rw [alteredFrame_eq, List.length_append, length_serializeToBytes, toNat_bodyLen_headerFor]
  omega

theorem summed_alteredFrame :
    ((alteredFrame lib packet altered).drop headerSize).take
        (headerFor (lib.dump packet.fullBody)).bodyLen.toNat =
      altered.take (declaredLength (lib.dump packet.fullBody)) := by
  rw [alteredFrame_eq, List.drop_left' (length_serializeToBytes _), toNat_bodyLen_headerFor]

/-- Only the declared bytes are summed. -/
theorem deserialize_alteredFrame (sameLength : altered.length = (lib.dump packet.fullBody).length) :
    deserialize lib 64 (alteredFrame lib packet altered) = .error .wrongChecksum ↔
      crc32 0 (altered.take (declaredLength (lib.dump packet.fullBody))) ≠
        crc32 0 (lib.dump packet.fullBody) := by
  rw [deserialize_eq_wrongChecksum_iff deserializeFromBytes_alteredFrame
    (alteredFrame_whole sameLength), summed_alteredFrame]
  exact Iff.rfl

end Receiver

/-! ## Exactly which bodies are protected -/

theorem Burst.append {body altered : List UInt8} (burst : Burst body altered)
    (more : List UInt8) : Burst (body ++ more) (altered ++ more) := by
  obtain ⟨before, window, changed, behind, rfl, rfl, lengths, short, different⟩ := burst
  exact ⟨before, window, changed, behind ++ more, by simp, by simp, lengths, short, different⟩

/-- Other bytes in the place of at most four are a burst. -/
theorem burst_of_short {body altered : List UInt8} (lengths : altered.length = body.length)
    (short : body.length ≤ 4) (different : altered ≠ body) : Burst body altered :=
  ⟨[], body, altered, [], by simp, by simp, lengths.symm, short, different.symm⟩

/-- A change of the last byte is a burst that leaves the bytes before it. -/
theorem exists_burst_at_end {body : List UInt8} {count : Nat} (inside : count < body.length) :
    ∃ altered, Burst body altered ∧ altered.take count = body.take count := by
  have nonempty : body ≠ [] := by
    rintro rfl
    simp at inside
  have split : body.dropLast ++ [body.getLast nonempty] = body :=
    List.dropLast_append_getLast nonempty
  have flipped : body.getLast nonempty ≠ body.getLast nonempty ^^^ 1 := by
    intro same
    have one : (1 : UInt8) = 0 := by
      have cancelled := congrArg (body.getLast nonempty ^^^ ·) same
      simpa [← UInt8.xor_assoc] using cancelled.symm
    exact absurd one (by decide)
  refine ⟨body.dropLast ++ [body.getLast nonempty ^^^ 1],
    ⟨body.dropLast, [body.getLast nonempty], [body.getLast nonempty ^^^ 1], [], ?_, ?_, rfl,
      by simp, by simpa using flipped⟩, ?_⟩
  · rw [List.append_nil, split]
  · rw [List.append_nil]
  · have before : count ≤ body.dropLast.length := by
      rw [List.length_dropLast]
      omega
    rw [List.take_append_of_le_length before]
    conv_rhs => rw [← split, List.take_append_of_le_length before]

/-- Four of the declared bytes are enough to give them the checksum of the whole body. -/
theorem exists_front_of_crc32 (target : UInt32) {front : List UInt8} (long : 4 ≤ front.length) :
    ∃ forged, forged.length = front.length ∧ crc32 0 forged = target ∧
      (forged = front ∨ Burst front forged) := by
  obtain ⟨four, length, sum⟩ := exists_crc32_eq 0 target (front.drop 4)
  refine ⟨four ++ front.drop 4, ?_, sum, ?_⟩
  · rw [List.length_append, List.length_drop, length]
    omega
  · have taken : (front.take 4).length = 4 := by
      rw [List.length_take]
      omega
    by_cases same : four = front.take 4
    · left
      rw [same, List.take_append_drop]
    · right
      have burst := burst_of_short (length.trans taken.symm) taken.le same
      have appended := burst.append (front.drop 4)
      rwa [List.take_append_drop] at appended

/-- Declared bytes with the checksum of the whole body let a burst pass. -/
theorem not_detectsBursts_of_front {lib : JsonLibrary} {packet : AiSchedulePacket}
    {forged : List UInt8}
    (longer : declaredLength (lib.dump packet.fullBody) < (lib.dump packet.fullBody).length)
    (length : forged.length = declaredLength (lib.dump packet.fullBody))
    (sum : crc32 0 forged = crc32 0 (lib.dump packet.fullBody))
    (near : forged = declaredBytes (lib.dump packet.fullBody) ∨
      Burst (declaredBytes (lib.dump packet.fullBody)) forged) : ¬ DetectsBursts lib packet := by
  intro detects
  let body := lib.dump packet.fullBody
  have accepted : ∀ altered, Burst body altered →
      altered.take (declaredLength body) = forged → False := by
    intro altered burst front
    have refused := (deserialize_alteredFrame burst.length_eq).mp (detects altered burst).1
    exact refused (front ▸ sum)
  rcases near with same | burst
  · obtain ⟨altered, burst, front⟩ := exists_burst_at_end longer
    exact accepted altered burst (front.trans same.symm)
  · have whole := burst.append (body.drop (declaredLength body))
    rw [declaredBytes, List.take_append_drop] at whole
    exact accepted _ whole (List.take_left' length)

/-- Every burst of at most four bytes is noticed exactly in the bodies that the header
describes: those shorter than 2^32 bytes, and the few longer ones that no declared bytes
can stand for. -/
theorem detectsBursts_iff (lib : JsonLibrary) (packet : AiSchedulePacket) :
    DetectsBursts lib packet ↔ SumsWholeBody (lib.dump packet.fullBody) := by
  constructor
  · intro detects
    by_contra partly
    simp only [SumsWholeBody, not_or, Nat.not_lt, not_and, not_forall] at partly
    obtain ⟨huge, forgeable⟩ := partly
    have longer : declaredLength (lib.dump packet.fullBody) < (lib.dump packet.fullBody).length :=
      (Nat.mod_lt _ (by decide)).trans_le huge
    by_cases few : declaredLength (lib.dump packet.fullBody) < 4
    · obtain ⟨bytes, length, sum⟩ := forgeable few
      have lengths := length.trans (length_declaredBytes _).symm
      refine not_detectsBursts_of_front longer length (not_not.mp sum) ?_ detects
      by_cases same : bytes = declaredBytes (lib.dump packet.fullBody)
      · exact .inl same
      · exact .inr (burst_of_short lengths (by simpa using few.le) same)
    · obtain ⟨forged, length, sum, near⟩ := @exists_front_of_crc32
        (crc32 0 (lib.dump packet.fullBody)) (declaredBytes (lib.dump packet.fullBody))
        (by simpa using few)
      exact not_detectsBursts_of_front longer (length.trans (length_declaredBytes _)) sum near
        detects
  · intro sums altered burst
    have changed := crc32_ne_of_burst 0 burst
    refine ⟨(deserialize_alteredFrame burst.length_eq).mpr ?_, changed⟩
    rcases sums with whole | ⟨_, unforgeable⟩
    · rw [declaredLength, Nat.mod_eq_of_lt whole, ← burst.length_eq, List.take_length]
      exact changed
    · apply unforgeable
      rw [List.length_take, burst.length_eq, declaredLength, Nat.min_eq_left (Nat.mod_le _ _)]

/-! ## A body of 4 GiB -/

/-- A removal request. -/
def removeCallOf (nodeId : String) : BuildCall where
  seq := 8
  type := .workerRemove
  senderId := "w1"
  kind := .workerRemoveReq
  value := { nodeId }

def textBeforeId : List UInt8 := asciiBytes
  "\x7b\"base\":\x7b\"sender_id\":\"w1\",\"seq\":8,\"type\":7\x7d,\"body\":\x7b\"node_id\":\""

def textAfterId : List UInt8 := asciiBytes "\"\x7d\x7d"

/-- The text of a removal request whose id needs no escapes. -/
def removeTextOf (nodeId : String) : List UInt8 := textBeforeId ++ asciiBytes nodeId ++ textAfterId

/-- An id of twelve letters. -/
def shortId : String := "oojjinohomhh"

/-- The same letters and a run of one letter. -/
def longId (run : Nat) : String := String.ofList (shortId.toList ++ List.replicate run 'a')

/-- A text layer that prints removal requests as the JSON library does, and reads the one
of the short id. -/
def removeLibrary : JsonLibrary where
  dump json :=
    match json.atKey "body" >>= (·.atKey "node_id") >>= getString with
    | .ok nodeId => removeTextOf nodeId
    | .error _ => []
  parse text :=
    if text = removeTextOf shortId then .ok (removeCallOf shortId).packet.fullBody
    else .error .parseError
  what _ := "parse error"

theorem dump_removeCallOf (nodeId : String) :
    removeLibrary.dump (removeCallOf nodeId).packet.fullBody = removeTextOf nodeId := by
  simp [removeLibrary, removeCallOf, BuildCall.packet, build, fullBody, MessageKind.toJson,
    WorkerRemoveReq.toJson, ofFields]

theorem parse_shortText : removeLibrary.parse (removeTextOf shortId) =
    .ok (removeCallOf shortId).packet.fullBody := by
  simp only [removeLibrary, if_true]

theorem removeTextOf_longId (run : Nat) :
    removeTextOf (longId run) =
      textBeforeId ++ asciiBytes shortId ++ List.replicate run 0x61 ++ textAfterId := by
  simp only [removeTextOf, asciiBytes, longId, String.toList_ofList, List.map_append,
    List.map_replicate, List.append_assoc]
  rfl

/-- The register after the letters before the run is the one that the letter of the run
leaves as it is. -/
theorem foldl_crcByte_replicate (run : Nat) :
    (List.replicate run 0x61).foldl crcByte 0xf34a3b73 = 0xf34a3b73 := by
  have fixed : crcByte 0xf34a3b73 0x61 = 0xf34a3b73 := by decide +kernel
  induction run with
  | zero => rfl
  | succ run inductionHypothesis =>
      rw [List.replicate_succ, List.foldl_cons, fixed, inductionHypothesis]

/-- So the checksum does not depend on the length of the run. -/
theorem crc32_removeTextOf_longId (run : Nat) :
    crc32 0 (removeTextOf (longId run)) = crc32 0 (removeTextOf shortId) := by
  have before : (textBeforeId ++ asciiBytes shortId).foldl crcByte (0 ^^^ 0xFFFFFFFF) =
      0xf34a3b73 := by decide +kernel
  rw [removeTextOf_longId, removeTextOf, crc32, crc32]
  simp only [List.foldl_append] at before ⊢
  rw [before, foldl_crcByte_replicate]

theorem length_removeTextOf_longId (run : Nat) :
    (removeTextOf (longId run)).length = (removeTextOf shortId).length + run := by
  rw [removeTextOf_longId, removeTextOf]
  simp only [List.length_append, List.length_replicate]
  omega

/-- The short request's text, and the rest of a long one's behind it. -/
def cutText (run : Nat) : List UInt8 :=
  removeTextOf shortId ++ (List.replicate (run - 3) 0x61 ++ textAfterId)

/-- The first three letters of the run have become the end of the short text. -/
theorem burst_cutText {run : Nat} (long : 3 ≤ run) :
    Burst (removeTextOf (longId run)) (cutText run) := by
  refine ⟨textBeforeId ++ asciiBytes shortId, List.replicate 3 0x61, textAfterId,
    List.replicate (run - 3) 0x61 ++ textAfterId, ?_, ?_, by decide, by decide, by decide⟩
  · rw [removeTextOf_longId]
    simp only [List.append_assoc]
    rw [← List.append_assoc (List.replicate 3 _), List.replicate_append_replicate,
      Nat.add_sub_cancel' long]
  · simp only [cutText, removeTextOf, List.append_assoc]

/-- When the run adds nothing to the declared length, the altered frame is accepted as the
short request: its text has the declared length and the checksum of the long one. -/
theorem deserialize_cutText {run : Nat} (long : 3 ≤ run) (wraps : 2 ^ 32 ∣ run) :
    deserialize removeLibrary 64
        (alteredFrame removeLibrary (removeCallOf (longId run)).packet (cutText run)) =
      .ok { (removeCallOf shortId).packet with
        transHeader := headerFor (removeTextOf (longId run)) } := by
  have dumped : removeLibrary.dump (removeCallOf (longId run)).packet.fullBody =
      removeTextOf (longId run) := dump_removeCallOf _
  have sameLength : (cutText run).length =
      (removeLibrary.dump (removeCallOf (longId run)).packet.fullBody).length := by
    rw [dumped]
    exact (burst_cutText long).length_eq
  have declared : declaredLength (removeTextOf (longId run)) = (removeTextOf shortId).length := by
    obtain ⟨turns, rfl⟩ := wraps
    have short : (removeTextOf shortId).length < 2 ^ 32 := by decide +kernel
    rw [declaredLength, length_removeTextOf_longId, Nat.add_mul_mod_self_left,
      Nat.mod_eq_of_lt short]
  have summed := @summed_alteredFrame removeLibrary (removeCallOf (longId run)).packet (cutText run)
  rw [dumped, declared, cutText, List.take_left' rfl] at summed
  have whole := alteredFrame_whole sameLength
  have decoded := @deserializeFromBytes_alteredFrame removeLibrary
    (removeCallOf (longId run)).packet (cutText run)
  rw [dumped] at whole decoded
  have faithful : removeLibrary.parse (removeLibrary.dump (removeCallOf shortId).packet.fullBody) =
      .ok (removeCallOf shortId).packet.fullBody := by
    rw [dump_removeCallOf, parse_shortText]
  have body := decodeBody_dump faithful
  rw [dump_removeCallOf] at body
  refine deserialize_eq_ok_iff.mpr ⟨decoded, whole, ?_, ?_⟩
  · change crc32 0 (((alteredFrame _ _ _).drop headerSize).take
      (headerFor (removeTextOf (longId run))).bodyLen.toNat) = _
    rw [cutText, summed]
    exact (crc32_removeTextOf_longId run).symm
  · change decodeBody removeLibrary (((alteredFrame _ _ _).drop headerSize).take
      (headerFor (removeTextOf (longId run))).bodyLen.toNat) = _
    rw [cutText, summed]
    exact body

/-- A removal request with an id of 2^32 + 12 letters: three other bytes in its text make the
receiver accept the request of another worker. -/
theorem burst_accepted_in_oversized_body :
    ¬ ∀ (lib : JsonLibrary) (packet : AiSchedulePacket) (altered : List UInt8),
      Burst (lib.dump packet.fullBody) altered →
      ∃ rejection, deserialize lib 64 (alteredFrame lib packet altered) = .error rejection := by
  intro detected
  have long : 3 ≤ 2 ^ 32 := by decide
  have burst := burst_cutText long
  rw [← dump_removeCallOf] at burst
  obtain ⟨rejection, refused⟩ := detected _ _ _ burst
  rw [deserialize_cutText long (Nat.dvd_refl _)] at refused
  cases refused

end TurboCore.AiDist
