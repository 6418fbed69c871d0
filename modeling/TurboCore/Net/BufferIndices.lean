import Mathlib
import TurboCore.Net.BufferWords

/-!
# The element indices of a buffer

`Peek`, `ReadFromFd` and `Prepend` write `&m_buf[index]`, where `Append` and `MakeSpace`
write `m_buf.begin() + index`. The first needs an element at the index; an index may be as
large as the array, when its last byte has been written or read. Whether it has been is
told here from the lengths that the calls take and from the room that they find.
-/

namespace TurboCore.Net

open Foundation

/-- So many bytes behind the content end at the last byte of the array, which is moved to the
front of or made longer for them where they do not fit. -/
def Layout.isFilledBy (layout : Layout) (len : Nat) : Bool :=
  len = layout.behind ∨ layout.behind < len ∧ layout.before + layout.behind ≤ len

namespace BufferAccess

/-- The indices that a call evaluates as elements of `m_buf`. -/
def elementIndices (buffer : RawBuffer) : BufferAccess → List Nat
  | retrieveUntil _ | retrieveAsString _ | retrieveAllAsString | peek | peekInt32 | findCRLF _
  | findEOL _ => [buffer.readIdx.toNat]
  | prepend data => [(buffer.readIdx - UInt64.ofNat data.length).toNat]
  | readFromFd _ | readFails _ => [buffer.writeIdx.toNat]
  | writeToFd _ => if buffer.readableBytes = 0 then [] else [buffer.readIdx.toNat]
  | append _ | appendInt32 _ | ensureWritableBytes _ | hasWritten _ | retrieve _ | retrieveAll => []

/-- Every one of them is the index of an element. -/
def InRange (buffer : RawBuffer) (access : BufferAccess) : Prop :=
  ∀ index ∈ access.elementIndices buffer, index < buffer.buf.length

/-- Whatever is called next, its indices are those of elements. -/
def EveryCallInRange (buffer : RawBuffer) : Prop :=
  ∀ access : BufferAccess, access.Asserted buffer → access.InRange buffer

/-- Whether the calls have filled the array to its last byte, and not given room back since. -/
def fullAfter (layout : Layout) (full : Bool) : BufferAccess → Bool
  | append data => layout.isFilledBy data.length
  | appendInt32 _ => layout.isFilledBy 4
  | readFromFd bytes => layout.isFilledBy bytes.length
  | readFails _ => true
  | hasWritten len => len.toNat = layout.behind
  | ensureWritableBytes len =>
      full && decide (len.toNat ≤ layout.behind) ||
        decide ((ensureWritableBytes len).Tears layout)
  | retrieveAll => layout.size = 0
  | prepend _ | retrieve _ | retrieveUntil _ | retrieveAsString _ | retrieveAllAsString | peek
  | peekInt32 | findCRLF _ | findEOL _ | writeToFd _ => full

/-- What a call needs of an array that the calls before it have filled: a byte to read, or for
a prepended header one of its own. A read from a socket needs an array that is not full. -/
def FindsByte (buffer : RawBuffer) (full : Bool) : BufferAccess → Prop
  | retrieveUntil _ | retrieveAsString _ | retrieveAllAsString | peek | peekInt32 | findCRLF _
  | findEOL _ => full = true → 0 < buffer.readableBytes
  | prepend data => full = true → 0 < buffer.readableBytes ∨ 0 < data.length
  | readFromFd _ | readFails _ => full = false
  | writeToFd _ | append _ | appendInt32 _ | ensureWritableBytes _ | hasWritten _ | retrieve _
  | retrieveAll => True

instance (buffer : RawBuffer) (access : BufferAccess) : Decidable (access.InRange buffer) :=
  inferInstanceAs (Decidable (∀ index ∈ access.elementIndices buffer, index < buffer.buf.length))

instance (buffer : RawBuffer) (full : Bool) : ∀ access : BufferAccess,
    Decidable (access.FindsByte buffer full)
  | retrieveUntil _ | retrieveAsString _ | retrieveAllAsString | peek | peekInt32 | findCRLF _
  | findEOL _ => inferInstanceAs (Decidable (full = true → 0 < buffer.readableBytes))
  | prepend data =>
      inferInstanceAs (Decidable (full = true → 0 < buffer.readableBytes ∨ 0 < data.length))
  | readFromFd _ | readFails _ => inferInstanceAs (Decidable (full = false))
  | writeToFd _ | append _ | appendInt32 _ | ensureWritableBytes _ | hasWritten _ | retrieve _
  | retrieveAll => isTrue trivial

/-- Every call of a sequence that is made with its assertion holding, in the buffer that the
calls before it have left and with what they have filled, has the property there. -/
def AllAlong (wild : WildCopy) (property : RawBuffer → Bool → BufferAccess → Prop) :
    RawBuffer → Bool → List BufferAccess → Prop
  | _, _, [] => True
  | buffer, full, access :: rest =>
      (access.Asserted buffer → property buffer full access) ∧
        ∀ next, (accessMachine wild).step buffer access = some next →
          AllAlong wild property next (access.fullAfter buffer.layout full) rest

instance decidableAllAlong {wild : WildCopy} {property : RawBuffer → Bool → BufferAccess → Prop}
    [decide : ∀ buffer full access, Decidable (property buffer full access)] :
    (buffer : RawBuffer) → (full : Bool) → (accesses : List BufferAccess) →
      Decidable (AllAlong wild property buffer full accesses)
  | _, _, [] => .isTrue trivial
  | buffer, full, access :: rest =>
      have later : Decidable (∀ next, (accessMachine wild).step buffer access = some next →
          AllAlong wild property next (access.fullAfter buffer.layout full) rest) :=
        match transition : (accessMachine wild).step buffer access with
        | none => .isTrue fun next possible => nomatch possible
        | some next =>
            have : Decidable
                (AllAlong wild property next (access.fullAfter buffer.layout full) rest) :=
              decidableAllAlong next (access.fullAfter buffer.layout full) rest
            decidable_of_iff
              (AllAlong wild property next (access.fullAfter buffer.layout full) rest)
              ⟨fun holds other possible => by cases possible; exact holds,
                fun holds => holds next rfl⟩
      inferInstanceAs (Decidable (_ ∧ _))

section

variable {wild : WildCopy} {buffer next : RawBuffer} {full : Bool} {access : BufferAccess}

/-- What has been filled is full. -/
theorem fullAfter_iff (ordered : buffer.Ordered) (tracked : full = true ↔ buffer.layout.behind = 0)
    (asserted : access.Asserted buffer) (kept : ¬ access.Tears buffer.layout) :
    access.fullAfter buffer.layout full = true ↔ (access.arrange buffer.layout).behind = 0 := by
  have taken : ∀ len, buffer.layout.isFilledBy len = true ↔
      (buffer.layout.takeIn len).behind = 0 := by
    intro len
    simp only [Layout.isFilledBy, Layout.takeIn, Layout.reserve, decide_eq_true_eq]
    split_ifs <;> simp only [Layout.advance] <;> omega
  cases access with
  | append data => exact taken data.length
  | appendInt32 x => exact taken 4
  | readFromFd bytes => exact taken bytes.length
  | readFails errno => exact iff_of_true rfl rfl
  | hasWritten len =>
      have room : len.toNat ≤ buffer.layout.behind := by
        rw [← ordered.toNat_writableBytes, ← UInt64.le_iff_toNat_le]
        exact asserted
      simp only [fullAfter, arrange, Layout.advance, decide_eq_true_eq]
      omega
  | ensureWritableBytes len =>
      simp only [fullAfter, arrange, Layout.reserve, kept, decide_false, Bool.or_false,
        Bool.and_eq_true, decide_eq_true_eq, tracked, apply_ite Layout.behind]
      split_ifs <;> omega
  | retrieveAll =>
      simp only [fullAfter, arrange, Layout.retrieveAll, decide_eq_true_eq]
  | prepend _ | retrieve _ | retrieveUntil _ | retrieveAsString _ | retrieveAllAsString | peek
  | peekInt32 | findCRLF _ | findEOL _ | writeToFd _ => exact tracked

theorem inRange_iff_findsByte (ordered : buffer.Ordered)
    (tracked : full = true ↔ buffer.layout.behind = 0) (asserted : access.Asserted buffer) :
    access.InRange buffer ↔ access.FindsByte buffer full := by
  have length := ordered.length_eq
  have index := ordered.writeIdx_eq
  have readIdx : buffer.readIdx.toNat = buffer.layout.before := rfl
  have readable : 0 < buffer.readableBytes ↔ 0 < buffer.layout.readable := by
    rw [UInt64.lt_iff_toNat_lt, ordered.toNat_readableBytes]
    rfl
  unfold Layout.size at length
  cases access with
  | retrieveUntil _ | retrieveAsString _ | retrieveAllAsString | peek | peekInt32 | findCRLF _
  | findEOL _ =>
      simp only [InRange, elementIndices, FindsByte, List.forall_mem_singleton, tracked, readable]
      omega
  | prepend data =>
      obtain ⟨known, room⟩ := asserted
      have len_eq := RawBuffer.toNat_ofNat_of_le known
      have front := UInt64.toNat_sub_of_le _ _ room
      rw [UInt64.le_iff_toNat_le, len_eq] at room
      change _ = buffer.readIdx.toNat - _ at front
      change _ ≤ buffer.readIdx.toNat at room
      rw [len_eq] at front
      simp only [InRange, elementIndices, FindsByte, List.forall_mem_singleton, tracked, readable]
      change (buffer.prependableBytes - UInt64.ofNat data.length).toNat < _ ↔ _
      omega
  | readFromFd _ | readFails _ =>
      simp only [InRange, elementIndices, FindsByte, List.forall_mem_singleton,
        ← Bool.not_eq_true, tracked]
      omega
  | writeToFd written =>
      simp only [InRange, elementIndices, FindsByte, iff_true]
      split_ifs with nothing
      · simp
      · rw [List.forall_mem_singleton]
        have some_ : 0 < buffer.readableBytes := UInt64.pos_iff_ne_zero.mpr nothing
        rw [readable] at some_
        omega
  | append _ | appendInt32 _ | ensureWritableBytes _ | hasWritten _ | retrieve _ | retrieveAll =>
      simp [InRange, elementIndices, FindsByte]

end

/-- An array with a byte behind the write index. -/
structure Roomy (buffer : RawBuffer) : Prop where
  ordered : buffer.Ordered
  room : buffer.layout.behind ≠ 0

section

variable {wild : WildCopy} {buffer next : RawBuffer} {access : BufferAccess}

theorem Roomy.everyCallInRange (roomy : Roomy buffer) : EveryCallInRange buffer := by
  intro access asserted
  rw [@inRange_iff_findsByte buffer false access roomy.ordered (by simp [roomy.room]) asserted]
  cases access <;> simp [FindsByte]

/-- A read from a socket needs a byte behind the write index. -/
theorem writeIdx_lt_of_everyCallInRange (inRange : EveryCallInRange buffer) :
    buffer.writeIdx.toNat < buffer.buf.length :=
  inRange (.readFails 0) trivial _ (List.mem_singleton_self _)

/-- A call that fills nothing leaves room. -/
theorem Roomy.step (roomy : Roomy buffer)
    (keeps : ∀ buf after, wild buf = some after → after.length = buf.length)
    (spares : access.fullAfter buffer.layout false = false)
    (transition : (accessMachine wild).step buffer access = some next) : Roomy next := by
  obtain ⟨asserted, returned⟩ := accessMachine_cases transition
  have kept : ¬ access.Tears buffer.layout := by
    intro tears
    cases access with
    | ensureWritableBytes len =>
        simp [fullAfter, tears] at spares
    | readFails errno => cases spares
    | _ => exact tears
  have tracked : false = true ↔ buffer.layout.behind = 0 := by simp [roomy.room]
  obtain ⟨ordered, layout⟩ := roomy.ordered.perform keeps asserted kept returned
  refine ⟨ordered, fun none => ?_⟩
  rw [layout, ← fullAfter_iff roomy.ordered tracked asserted kept, spares] at none
  cases none

/-- After a call that fills the array a read from a socket is out of range. -/
theorem Roomy.spares (roomy : Roomy buffer)
    (keeps : ∀ buf after, wild buf = some after → after.length = buf.length)
    (transition : (accessMachine wild).step buffer access = some next)
    (inRange : EveryCallInRange next) : access.fullAfter buffer.layout false = false := by
  obtain ⟨asserted, returned⟩ := accessMachine_cases transition
  have room := writeIdx_lt_of_everyCallInRange inRange
  refine Bool.eq_false_of_not_eq_true fun full => ?_
  by_cases tears : access.Tears buffer.layout
  · have torn := roomy.ordered.perform_tears keeps tears returned
    omega
  · have tracked : false = true ↔ buffer.layout.behind = 0 := by simp [roomy.room]
    rw [fullAfter_iff roomy.ordered tracked asserted tears] at full
    obtain ⟨ordered, layout⟩ := roomy.ordered.perform keeps asserted tears returned
    have none : next.buf.length - next.writeIdx.toNat = 0 :=
      (congrArg Layout.behind layout).trans full
    omega

end

/-- As long as no call tears the buffer, what the calls have filled is what is full. -/
theorem allAlong_inRange_iff {wild : WildCopy}
    (keeps : ∀ buf after, wild buf = some after → after.length = buf.length)
    {buffer : RawBuffer} {full : Bool} (ordered : buffer.Ordered)
    (tracked : full = true ↔ buffer.layout.behind = 0) {accesses : List BufferAccess}
    (untorn : AllAlong wild (fun buffer _ access => ¬ access.Tears buffer.layout) buffer full
      accesses) :
    AllAlong wild (fun buffer _ access => access.InRange buffer) buffer full accesses ↔
      AllAlong wild (fun buffer full access => access.FindsByte buffer full) buffer full
        accesses := by
  induction accesses generalizing buffer full with
  | nil => exact Iff.rfl
  | cons access rest inductionHypothesis =>
      obtain ⟨kept, later⟩ := untorn
      refine and_congr
        (forall_congr' fun asserted => inRange_iff_findsByte ordered tracked asserted)
        (forall_congr' fun next => forall_congr' fun transition => ?_)
      obtain ⟨asserted, returned⟩ := accessMachine_cases transition
      obtain ⟨order, layout⟩ := ordered.perform keeps asserted (kept asserted) returned
      refine inductionHypothesis order ?_ (later next transition)
      rw [layout]
      exact fullAfter_iff ordered tracked asserted (kept asserted)

end BufferAccess

end TurboCore.Net
