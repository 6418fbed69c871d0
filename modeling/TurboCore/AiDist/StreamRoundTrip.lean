import Mathlib
import TurboCore.AiDist.Packet

/-!
# A stream of packets decodes to the packets that were built

`deserialize_serialize` is the round trip of one frame; `stream_round_trip`
walks a whole output buffer, one accepted frame after the other.
-/

namespace TurboCore.AiDist

open Foundation Json TransportHeader AiSchedulePacket

/-- The body text decodes to the members it was made of when the text layer is
faithful on this one JSON value. -/
theorem decodeBody_dump {lib : JsonLibrary} {packet : AiSchedulePacket}
    (faithful : lib.parse (lib.dump packet.fullBody) = .ok packet.fullBody) :
    decodeBody lib (lib.dump packet.fullBody) = .ok (packet.baseHeader, packet.body) := by
  have base : packet.fullBody.atKey "base" = .ok packet.baseHeader.toJson := by
    simp [fullBody, ofFields]
  have body : packet.fullBody.atKey "body" = .ok packet.body := by
    simp [fullBody, ofFields]
  simp only [decodeBody, faithful, ok_bind, base, body, BasePacket.fromJson_toJson]
  rfl

/-- A frame and its suffix: the decoder returns the packet that was serialized. -/
theorem deserialize_serialize {lib : JsonLibrary} {packet : AiSchedulePacket}
    (faithful : lib.parse (lib.dump packet.fullBody) = .ok packet.fullBody)
    (short : (lib.dump packet.fullBody).length < 2 ^ 32) (suffix : List UInt8) :
    deserialize lib 64 (packet.serialize lib [] ++ suffix) =
      .ok { packet with transHeader := headerFor (lib.dump packet.fullBody) } := by
  have length : (headerFor (lib.dump packet.fullBody)).bodyLen.toNat =
      (lib.dump packet.fullBody).length := by
    simp only [headerFor, UInt32.toNat_ofNat']
    exact Nat.mod_eq_of_lt short
  have behind : (packet.serialize lib [] ++ suffix).drop headerSize =
      lib.dump packet.fullBody ++ suffix := by
    rw [serialize, List.append_assoc, List.drop_append_of_le_length (by simp),
      List.drop_of_length_le (by simp), List.nil_append]
  have body : ((packet.serialize lib [] ++ suffix).drop headerSize).take
      (headerFor (lib.dump packet.fullBody)).bodyLen.toNat = lib.dump packet.fullBody := by
    rw [behind, length, List.take_append_of_le_length (Nat.le_refl _), List.take_length]
  refine deserialize_eq_ok_iff.mpr ⟨?_, ?_, ?_, ?_⟩
  · rw [serialize, List.append_assoc]
    exact deserializeFromBytes_serializeToBytes _ _ rfl (by simp [headerFor])
  · simp only [serialize, List.length_append, length_serializeToBytes, length]
    omega
  · rw [body]
    rfl
  · rw [body]
    exact decodeBody_dump faithful

/-- A serialized packet is one whole frame. -/
theorem next_serialize {lib : JsonLibrary} {packet : AiSchedulePacket}
    (faithful : lib.parse (lib.dump packet.fullBody) = .ok packet.fullBody)
    (short : (lib.dump packet.fullBody).length < 2 ^ 32) :
    (packetFraming lib).next (packet.serialize lib []) =
      some ({ packet with transHeader := headerFor (lib.dump packet.fullBody) },
        (packet.serialize lib []).length) := by
  have accepted := deserialize_serialize faithful short []
  rw [List.append_nil] at accepted
  refine nextFrame_eq_some_iff.mpr ⟨accepted, ?_⟩
  simp only [serialize, List.length_append, length_serializeToBytes, headerFor,
    UInt32.toNat_ofNat']
  rw [Nat.mod_eq_of_lt short]

/-- One call of `build`: a message struct's value with its packet's header fields. -/
structure BuildCall where
  seq : UInt64
  type : PacketType
  senderId : String
  kind : MessageKind
  value : kind.Value

/-- The packet that the call builds. -/
def BuildCall.packet (call : BuildCall) : AiSchedulePacket :=
  build call.seq call.type call.senderId call.kind call.value

/-- All packets serialized one after another into the same `out_bytes`. -/
def serializeAll (lib : JsonLibrary) (calls : List BuildCall) : List UInt8 :=
  calls.foldl (fun outBytes call => call.packet.serialize lib outBytes) []

/-- Walk the bytes with `deserialize`, advancing 16 + `body_len` each time; `none`
when some step is refused or the walk does not end exactly at the end. -/
def walk (lib : JsonLibrary) (bytes : List UInt8) (offset : Nat) :
    Option (List AiSchedulePacket) :=
  if bytes.length ≤ offset then
    if offset = bytes.length then some [] else none
  else
    match deserialize lib 64 (bytes.drop offset) with
    | .ok packet =>
        (walk lib bytes (offset + headerSize + packet.transHeader.bodyLen.toNat)).map
          (packet :: ·)
    | .error _ => none
  termination_by bytes.length - offset
  decreasing_by
    unfold headerSize
    omega

/-- A decoded packet carries a call's header fields and its value. -/
def Carries (call : BuildCall) (packet : AiSchedulePacket) : Prop :=
  packet.baseHeader.seq = call.seq ∧ packet.baseHeader.type = call.type ∧
    packet.baseHeader.senderId = call.senderId ∧
    call.kind.fromJson packet.body = .ok call.value

/-- Serializing appends the frame that serializing into an empty buffer gives. -/
theorem serialize_append (lib : JsonLibrary) (packet : AiSchedulePacket)
    (outBytes : List UInt8) :
    packet.serialize lib outBytes = outBytes ++ packet.serialize lib [] := by
  simp only [serialize]
  rw [serializeToBytes_append, List.append_assoc]

theorem serializeAll_from (lib : JsonLibrary) (calls : List BuildCall) (outBytes : List UInt8) :
    calls.foldl (fun outBytes call => call.packet.serialize lib outBytes) outBytes =
      outBytes ++ calls.flatMap fun call => call.packet.serialize lib [] := by
  induction calls generalizing outBytes with
  | nil => simp
  | cons call rest inductionHypothesis =>
      rw [List.foldl_cons, inductionHypothesis, serialize_append, List.flatMap_cons,
        List.append_assoc]

/-- The walk decodes the frames of `calls` behind any bytes already walked over. -/
theorem walk_frames {lib : JsonLibrary} {calls : List BuildCall}
    (faithful : ∀ call ∈ calls,
      lib.parse (lib.dump call.packet.fullBody) = .ok call.packet.fullBody)
    (short : ∀ call ∈ calls, (lib.dump call.packet.fullBody).length < 2 ^ 32)
    (walked : List UInt8) :
    ∃ decoded,
      walk lib (walked ++ calls.flatMap fun call => call.packet.serialize lib [])
        walked.length = some decoded ∧ List.Forall₂ Carries calls decoded := by
  induction calls generalizing walked with
  | nil =>
      refine ⟨[], ?_, .nil⟩
      rw [walk]
      simp
  | cons call rest inductionHypothesis =>
      let frame := call.packet.serialize lib []
      let header := headerFor (lib.dump call.packet.fullBody)
      have shortHere := short call List.mem_cons_self
      have frameLength : frame.length = headerSize + header.bodyLen.toNat := by
        have length : header.bodyLen.toNat = (lib.dump call.packet.fullBody).length := by
          simp only [header, headerFor, UInt32.toNat_ofNat']
          exact Nat.mod_eq_of_lt shortHere
        simp [frame, serialize, length]
      have positive : 0 < (call.packet.serialize lib []).length := by
        change 0 < frame.length
        rw [frameLength]
        unfold headerSize
        omega
      obtain ⟨decoded, remaining, carried⟩ := inductionHypothesis
        (fun other member => faithful other (List.mem_cons_of_mem _ member))
        (fun other member => short other (List.mem_cons_of_mem _ member)) (walked ++ frame)
      have accepted := deserialize_serialize (faithful call List.mem_cons_self) shortHere
        (rest.flatMap fun call => call.packet.serialize lib [])
      refine ⟨{ call.packet with transHeader := header } :: decoded, ?_, .cons ?_ carried⟩
      · rw [List.flatMap_cons, walk, if_neg]
        · rw [List.drop_append_of_le_length (Nat.le_refl _), List.drop_length, List.nil_append,
            accepted]
          simp only
          rw [Nat.add_assoc, ← frameLength, ← List.length_append, ← List.append_assoc, remaining]
          rfl
        · simp only [List.length_append]
          omega
      · exact ⟨rfl, rfl, rfl, call.kind.fromJson_toJson call.value⟩

/-- Packets built from any message values and serialized into one buffer are
walked over frame by frame, come back in order with their header fields and
values, and fill the buffer exactly. -/
theorem stream_round_trip (lib : JsonLibrary) (calls : List BuildCall)
    (faithful : ∀ call ∈ calls,
      lib.parse (lib.dump call.packet.fullBody) = .ok call.packet.fullBody)
    (short : ∀ call ∈ calls, (lib.dump call.packet.fullBody).length < 2 ^ 32) :
    ∃ decoded, walk lib (serializeAll lib calls) 0 = some decoded ∧
      List.Forall₂ Carries calls decoded := by
  have walked := walk_frames faithful short []
  rw [serializeAll, serializeAll_from]
  exact walked

/-- The bytes of an ASCII text. -/
def asciiBytes (text : String) : List UInt8 := text.toList.map fun letter => UInt8.ofNat letter.toNat

/-- A worker's heartbeat as a call of `build`. -/
def heartbeatCall : BuildCall where
  seq := 7
  type := .heartbeat
  senderId := "w1"
  kind := .heartbeat
  value := { nodeId := "w1", availableMemoryMb := -1, onlineModels := ["m"] }

/-- Its removal request. -/
def removeCall : BuildCall where
  seq := 8
  type := .workerRemove
  senderId := "w1"
  kind := .workerRemoveReq
  value := { nodeId := "w1" }

def workerCalls : List BuildCall := [heartbeatCall, removeCall]

/-- The text of the heartbeat. -/
def heartbeatText : List UInt8 := asciiBytes
  ("\x7b\"base\":\x7b\"sender_id\":\"w1\",\"seq\":7,\"type\":2\x7d,\"body\":\x7b" ++
    "\"available_memory_mb\":-1,\"node_id\":\"w1\",\"online_models\":[\"m\"]\x7d\x7d")

/-- The text of the removal request. -/
def removeText : List UInt8 := asciiBytes
  ("\x7b\"base\":\x7b\"sender_id\":\"w1\",\"seq\":8,\"type\":7\x7d," ++
    "\"body\":\x7b\"node_id\":\"w1\"\x7d\x7d")

/-- A text layer with these two texts for the bodies of `workerCalls`, told apart
by their sequence number. -/
def twoTextLibrary (first second : List UInt8) : JsonLibrary where
  dump json :=
    match json.atKey "base" >>= (·.atKey "seq") >>= getUInt64 with
    | .ok 7 => first
    | _ => second
  parse text :=
    if text = first then .ok heartbeatCall.packet.fullBody
    else if text = second then .ok removeCall.packet.fullBody
    else .error .parseError
  what _ := "parse error"

/-- The text layer that prints and parses `workerCalls` as the JSON library does. -/
def workerLibrary : JsonLibrary := twoTextLibrary heartbeatText removeText

private theorem twoTextLibrary_faithful {first second : List UInt8} (different : second ≠ first) :
    ∀ call ∈ workerCalls,
      (twoTextLibrary first second).parse ((twoTextLibrary first second).dump
        call.packet.fullBody) = .ok call.packet.fullBody := by
  intro call member
  simp only [workerCalls, List.mem_cons, List.not_mem_nil, or_false] at member
  rcases member with rfl | rfl
  · exact if_pos rfl
  · exact (if_neg different).trans (if_pos rfl)

private theorem twoTextLibrary_short {first second : List UInt8}
    (firstShort : first.length < 2 ^ 32) (secondShort : second.length < 2 ^ 32) :
    ∀ call ∈ workerCalls,
      ((twoTextLibrary first second).dump call.packet.fullBody).length < 2 ^ 32 := by
  intro call member
  simp only [workerCalls, List.mem_cons, List.not_mem_nil, or_false] at member
  rcases member with rfl | rfl
  · exact firstShort
  · exact secondShort

theorem workerLibrary_faithful : ∀ call ∈ workerCalls,
    workerLibrary.parse (workerLibrary.dump call.packet.fullBody) = .ok call.packet.fullBody :=
  twoTextLibrary_faithful (by decide +kernel)

theorem workerLibrary_short : ∀ call ∈ workerCalls,
    (workerLibrary.dump call.packet.fullBody).length < 2 ^ 32 :=
  twoTextLibrary_short (by decide +kernel) (by decide +kernel)

/-- The round trip of a heartbeat followed by a removal request. -/
theorem stream_round_trip_worker :
    ∃ decoded, walk workerLibrary (serializeAll workerLibrary workerCalls) 0 = some decoded ∧
      List.Forall₂ Carries workerCalls decoded :=
  stream_round_trip workerLibrary workerCalls workerLibrary_faithful workerLibrary_short

end TurboCore.AiDist
