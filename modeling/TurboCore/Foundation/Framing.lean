import Mathlib

/-!
# Self-delimiting frames on a byte stream

A `Framing` recognises the first complete frame of a byte sequence. Its laws say
that a recognised frame is a nonempty part of the input and that more input
never changes it. From them follows that cutting a stream into chunks and
carrying the incomplete rest along recognises the same frames as reading the
whole stream at once.
-/

namespace TurboCore.Foundation

universe u v

/-- A recogniser for the first complete frame: the frame and its number of bytes. -/
structure Framing (Byte : Type u) (Frame : Type v) where
  next : List Byte → Option (Frame × Nat)
  positive : ∀ {bytes frame count}, next bytes = some (frame, count) → 0 < count
  bounded : ∀ {bytes frame count}, next bytes = some (frame, count) → count ≤ bytes.length
  stable : ∀ {bytes frame count} (suffix : List Byte),
    next bytes = some (frame, count) → next (bytes ++ suffix) = some (frame, count)

namespace Framing

variable {Byte : Type u} {Frame : Type v} (framing : Framing Byte Frame)

/-- All complete leading frames of a byte sequence and the bytes that remain. -/
def split (bytes : List Byte) : List Frame × List Byte :=
  match _recognised : framing.next bytes with
  | none => ([], bytes)
  | some (frame, count) =>
      let remaining := split (bytes.drop count)
      (frame :: remaining.1, remaining.2)
  termination_by bytes.length
  decreasing_by
    have positive := framing.positive _recognised
    have bounded := framing.bounded _recognised
    simp only [List.length_drop]
    omega

/-- The complete frames of a stream, in order. -/
def frames (bytes : List Byte) : List Frame := (framing.split bytes).1

/-- The incomplete rest of a stream after its complete frames. -/
def rest (bytes : List Byte) : List Byte := (framing.split bytes).2

theorem split_eq_of_none {bytes : List Byte} (incomplete : framing.next bytes = none) :
    framing.split bytes = ([], bytes) := by
  rw [split.eq_def]
  split
  · rfl
  · next found => rw [incomplete] at found; cases found

theorem split_eq_of_some {bytes : List Byte} {frame : Frame} {count : Nat}
    (recognised : framing.next bytes = some (frame, count)) :
    framing.split bytes =
      (frame :: framing.frames (bytes.drop count), framing.rest (bytes.drop count)) := by
  rw [split.eq_def]
  split
  · next missing => rw [recognised] at missing; cases missing
  · next found =>
      rw [recognised] at found
      cases found
      rfl

/-- A proper part of one whole frame holds no complete frame. -/
theorem frames_take_of_whole {bytes : List Byte} {frame : Frame} {count : Nat}
    (whole : framing.next bytes = some (frame, bytes.length)) (proper : count < bytes.length) :
    framing.frames (bytes.take count) = [] := by
  cases recognised : framing.next (bytes.take count) with
  | none => rw [frames, framing.split_eq_of_none recognised]
  | some found =>
      have extended := framing.stable (bytes.drop count) recognised
      rw [List.take_append_drop, whole] at extended
      have bounded := framing.bounded recognised
      have same : bytes.length = found.2 := congrArg Prod.snd (Option.some.inj extended)
      simp only [List.length_take] at bounded
      omega

/-- Reading more bytes continues from the rest: no frame already read changes. -/
theorem split_append (first second : List Byte) :
    framing.split (first ++ second) =
      (framing.frames first ++ framing.frames (framing.rest first ++ second),
        framing.rest (framing.rest first ++ second)) := by
  induction first using Framing.split.induct framing with
  | case1 first incomplete =>
      simp only [frames, rest, framing.split_eq_of_none incomplete, List.nil_append]
  | case2 first frame count recognised inductionHypothesis =>
      have extended := framing.stable second recognised
      have bounded := framing.bounded recognised
      rw [framing.split_eq_of_some extended, List.drop_append_of_le_length bounded]
      simp only [frames, rest, inductionHypothesis, framing.split_eq_of_some recognised,
        List.cons_append]

theorem frames_append (first second : List Byte) :
    framing.frames (first ++ second) =
      framing.frames first ++ framing.frames (framing.rest first ++ second) := by
  rw [frames, split_append]

theorem rest_append (first second : List Byte) :
    framing.rest (first ++ second) = framing.rest (framing.rest first ++ second) := by
  rw [rest, split_append]

/-- There is no frame in no bytes. -/
theorem next_nil : framing.next [] = none := by
  cases recognised : framing.next [] with
  | none => rfl
  | some found =>
      have positive := framing.positive recognised
      have bounded := framing.bounded recognised
      simp only [List.length_nil] at bounded
      omega

@[simp] theorem frames_nil : framing.frames [] = [] := by
  rw [frames, framing.split_eq_of_none framing.next_nil]

@[simp] theorem rest_nil : framing.rest [] = [] := by
  rw [rest, framing.split_eq_of_none framing.next_nil]

/-- One whole frame is read as itself. -/
theorem frames_of_whole {bytes : List Byte} {frame : Frame}
    (whole : framing.next bytes = some (frame, bytes.length)) :
    framing.frames bytes = [frame] := by
  rw [frames, framing.split_eq_of_some whole, List.drop_length, frames_nil]

/-- Nothing is left behind one whole frame. -/
theorem rest_of_whole {bytes : List Byte} {frame : Frame}
    (whole : framing.next bytes = some (frame, bytes.length)) : framing.rest bytes = [] := by
  rw [rest, framing.split_eq_of_some whole, List.drop_length, rest_nil]

end Framing

end TurboCore.Foundation
