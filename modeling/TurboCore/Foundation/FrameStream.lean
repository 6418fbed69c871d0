import Mathlib
import TurboCore.Foundation.Framing

/-!
# Streams made of whole frames

A sender writes messages one after the other, each as one whole frame. Whatever part
of the stream has arrived, a reader has recognised the first messages and no other, and
all of them once the stream has arrived to its end.
-/

namespace TurboCore.Foundation.Framing

universe u v w

variable {Byte : Type u} {Frame : Type v} {Message : Type w} (framing : Framing Byte Frame)

/-- `encode` writes the message as one whole frame, which is read as `decoded`. -/
def Encodes (encode : Message → List Byte) (decoded : Message → Frame) (message : Message) :
    Prop :=
  framing.next (encode message) = some (decoded message, (encode message).length)

variable {framing} {encode : Message → List Byte} {decoded : Message → Frame}
  {messages : List Message}

/-- A whole frame in front of more bytes is read first. -/
theorem Encodes.frames_append {message : Message}
    (encodes : framing.Encodes encode decoded message) (behind : List Byte) :
    framing.frames (encode message ++ behind) = decoded message :: framing.frames behind := by
  rw [frames, framing.split_eq_of_some (framing.stable behind encodes), List.drop_left]

/-- What has arrived of the stream is read as the first messages. -/
theorem frames_of_arrived {arrived coming : List Byte}
    (encodes : ∀ message ∈ messages, framing.Encodes encode decoded message)
    (stream : arrived ++ coming = messages.flatMap encode) :
    ∃ count ≤ messages.length, framing.frames arrived = (messages.take count).map decoded ∧
      (coming = [] → count = messages.length) := by
  induction messages generalizing arrived with
  | nil =>
      obtain ⟨rfl, rfl⟩ := List.append_eq_nil_iff.mp stream
      exact ⟨0, Nat.le_refl 0, framing.frames_nil, fun _ => rfl⟩
  | cons message later inductionHypothesis =>
      have here := encodes message List.mem_cons_self
      rw [List.flatMap_cons] at stream
      by_cases whole : (encode message).length ≤ arrived.length
      · obtain ⟨behind, rfl⟩ : encode message <+: arrived :=
          List.prefix_of_prefix_length_le (List.prefix_append _ _)
            (stream ▸ List.prefix_append _ _) whole
        rw [List.append_assoc] at stream
        obtain ⟨count, inside, frames, all⟩ := inductionHypothesis
          (fun other member => encodes other (List.mem_cons_of_mem _ member))
          (List.append_cancel_left stream)
        refine ⟨count + 1, Nat.succ_le_succ inside, ?_, fun done => by rw [all done]; rfl⟩
        rw [here.frames_append, frames]
        rfl
      · -- the arrived bytes are a proper part of the first frame
        have part : arrived = (encode message).take arrived.length := by
          have front := congrArg (List.take arrived.length) stream
          rw [List.take_left, List.take_append_of_le_length (by omega)] at front
          exact front
        refine ⟨0, Nat.zero_le _, ?_, fun done => ?_⟩
        · rw [part]
          exact framing.frames_take_of_whole here (by omega)
        · have lengths := congrArg List.length stream
          simp only [done, List.append_nil, List.length_append] at lengths
          omega

end TurboCore.Foundation.Framing
