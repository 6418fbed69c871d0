import Mathlib
import TurboCore.Foundation.Execution
import TurboCore.Net.BufferRead

/-!
# The calls on a buffer, with machine words

Every call of `Buffer` over `size_t` indices that wrap modulo `2 ^ 64`. While the indices
are in order a buffer is three numbers, the bytes before, in and behind its content, and a
call is arithmetic on them. Two calls can leave that order: a `ReadFromFd` that fails and
comes back, and an `EnsureWritableBytes` whose target wraps.
-/

namespace TurboCore.Net

open Foundation

namespace RawBuffer

/-- `Buffer(initial_size)`. -/
def ofSize (size : Nat) : RawBuffer := ⟨List.replicate size 0, 0, 0⟩

variable (buffer : RawBuffer)

/-- `Retrieve(len)`. -/
def retrieve (len : UInt64) : RawBuffer := { buffer with readIdx := buffer.readIdx + len }

/-- `RetrieveAll`. -/
def retrieveAll : RawBuffer := { buffer with readIdx := 0, writeIdx := 0 }

/-- `HasWritten(len)`. -/
def hasWritten (len : UInt64) : RawBuffer := { buffer with writeIdx := buffer.writeIdx + len }

/-- `Prepend(data, len)` of a whole array. -/
def prepend (wild : WildCopy) (data : List UInt8) : Except ReadFailure RawBuffer :=
  let readIdx := buffer.readIdx - UInt64.ofNat data.length
  if readIdx.toNat + data.length ≤ buffer.buf.length then
    .ok { buffer with buf := overwrite buffer.buf readIdx.toNat data, readIdx }
  else
    match wild buffer.buf with
    | none => .error .crashed
    | some buf => .ok { buffer with buf, readIdx }

/-- A `readv` that stores these bytes: they are no more than its vectors hold. -/
def Receives (bytes : List UInt8) : Prop :=
  bytes.length ≤ buffer.writableBytes.toNat ∨
    buffer.writableBytes.toNat < extrabufSize ∧
      bytes.length ≤ buffer.writableBytes.toNat + extrabufSize

instance (bytes : List UInt8) : Decidable (buffer.Receives bytes) :=
  inferInstanceAs (Decidable (_ ∨ _ ∧ _))

end RawBuffer

/-- The calls on a buffer, those that only look included. Pointers are given as indices of
the array, and that of `RetrieveUntil` by its distance from `Peek()`. -/
inductive BufferAccess where
  | append (data : List UInt8)
  | appendInt32 (x : Int32)
  | prepend (data : List UInt8)
  | ensureWritableBytes (len : UInt64)
  | hasWritten (len : UInt64)
  | retrieve (len : UInt64)
  | retrieveUntil (offset : UInt64)
  | retrieveAll
  | retrieveAsString (len : UInt64)
  | retrieveAllAsString
  /-- `Peek` and `ReadBegin` -/
  | peek
  | peekInt32
  | findCRLF (start : Nat)
  | findEOL (start : Nat)
  /-- `ReadFromFd` with a `readv` that stores these bytes -/
  | readFromFd (bytes : List UInt8)
  /-- `ReadFromFd` with a `readv` that answers `-1` -/
  | readFails (errno : Int32)
  /-- `WriteToFd` with a `write` that takes so many bytes, none when it fails -/
  | writeToFd (written : UInt64)
deriving DecidableEq

namespace BufferAccess

/-- The preconditions that a call asserts, and what its arguments and the system calls are
promised to be. No array is longer than a vector can be. -/
def Asserted (buffer : RawBuffer) : BufferAccess → Prop
  | append data => data.length ≤ maxSize
  | prepend data =>
      data.length ≤ maxSize ∧ UInt64.ofNat data.length ≤ buffer.prependableBytes
  | hasWritten len => len ≤ buffer.writableBytes
  | retrieve len | retrieveUntil len | retrieveAsString len | writeToFd len =>
      len ≤ buffer.readableBytes
  | findCRLF start | findEOL start => buffer.readIdx.toNat ≤ start
  | readFromFd bytes => buffer.Receives bytes
  | appendInt32 _ | ensureWritableBytes _ | retrieveAll | retrieveAllAsString | peek | peekInt32
  | readFails _ => True

instance (buffer : RawBuffer) (access : BufferAccess) : Decidable (access.Asserted buffer) := by
  cases access <;> unfold Asserted <;> infer_instance

/-- What a call leaves behind, when it returns. -/
def perform (wild : WildCopy) (buffer : RawBuffer) :
    BufferAccess → Except ReadFailure RawBuffer
  | append data => buffer.append wild data (UInt64.ofNat data.length)
  | appendInt32 x => buffer.append wild (Buffer.hostToNetLong x.toUInt32) 4
  | prepend data => buffer.prepend wild data
  | ensureWritableBytes len => buffer.ensureWritableBytes len
  | hasWritten len => .ok (buffer.hasWritten len)
  | retrieve len | retrieveUntil len | retrieveAsString len | writeToFd len =>
      .ok (buffer.retrieve len)
  | retrieveAll => .ok buffer.retrieveAll
  | retrieveAllAsString => .ok (buffer.retrieve buffer.readableBytes)
  | peek | peekInt32 | findCRLF _ | findEOL _ => .ok buffer
  | readFromFd bytes =>
      (·.2.2) <$> buffer.readFromFd wild ⟨Int64.ofNat bytes.length, 0, bytes⟩ 0
  | readFails errno => (·.2.2) <$> buffer.readFromFd wild ⟨-1, errno, []⟩ 0

end BufferAccess

/-- The calls as steps; one whose assertion fails, or that does not return, is none. -/
def accessMachine (wild : WildCopy) : Machine RawBuffer BufferAccess where
  step buffer access :=
    if access.Asserted buffer then (access.perform wild buffer).toOption else none

/-- What a step has asserted and done. -/
theorem accessMachine_cases {wild : WildCopy} {buffer next : RawBuffer} {access : BufferAccess}
    (transition : (accessMachine wild).step buffer access = some next) :
    access.Asserted buffer ∧ access.perform wild buffer = .ok next := by
  simp only [accessMachine, Option.ite_none_right_eq_some] at transition
  obtain ⟨asserted, returned⟩ := transition
  refine ⟨asserted, ?_⟩
  cases performed : access.perform wild buffer with
  | error failure =>
      rw [performed] at returned
      cases returned
  | ok after =>
      rw [performed] at returned
      cases returned
      rfl

/-! ## The three numbers of a buffer in order -/

/-- The bytes before the content, in it and behind it. -/
@[ext]
structure Layout where
  before : Nat
  readable : Nat
  behind : Nat
deriving DecidableEq

namespace Layout

variable (layout : Layout)

/-- The length of the array. -/
def size : Nat := layout.before + layout.readable + layout.behind

/-- Room for some bytes, behind the content, at the front after a move, or by growing. -/
def reserve (len : Nat) : Layout :=
  if len ≤ layout.behind then layout
  else if len ≤ layout.before + layout.behind then
    ⟨0, layout.readable, layout.before + layout.behind⟩
  else ⟨layout.before, layout.readable, len⟩

/-- Bytes that stand behind the content become part of it. -/
def advance (len : Nat) : Layout :=
  ⟨layout.before, layout.readable + len, layout.behind - len⟩

/-- Bytes are put behind the content. -/
def takeIn (len : Nat) : Layout := (layout.reserve len).advance len

def retrieve (len : Nat) : Layout :=
  ⟨layout.before + len, layout.readable - len, layout.behind⟩

def prepend (len : Nat) : Layout :=
  ⟨layout.before - len, layout.readable + len, layout.behind⟩

def retrieveAll : Layout := ⟨0, 0, layout.size⟩

/-- A failed read cuts the array behind the content, and the last byte of the content. -/
def cut : Layout := ⟨layout.before, layout.readable - 1, 0⟩

theorem le_behind_reserve (len : Nat) : len ≤ (layout.reserve len).behind := by
  unfold reserve
  split_ifs with fits front
  · exact fits
  · exact front
  · exact Nat.le_refl len

/-- What does not fit behind the content may be taken in after the array is full. -/
theorem takeIn_advance {len : Nat} (beyond : layout.behind < len) :
    (layout.advance layout.behind).takeIn (len - layout.behind) = layout.takeIn len := by
  have short : ¬ len ≤ layout.behind := Nat.not_le.mpr beyond
  have rest : ¬ len - layout.behind ≤ 0 := by omega
  have front : len - layout.behind ≤ layout.before ↔
      len ≤ layout.before + layout.behind := by omega
  simp only [takeIn, reserve, advance, Nat.sub_self, Nat.add_zero, if_neg short, if_neg rest, front]
  split_ifs <;> refine Layout.ext ?_ ?_ ?_ <;> dsimp only <;> omega

end Layout

namespace BufferAccess

/-- What a call does to the three numbers. -/
def arrange (layout : Layout) : BufferAccess → Layout
  | append data => layout.takeIn data.length
  | appendInt32 _ => layout.takeIn 4
  | readFromFd bytes => layout.takeIn bytes.length
  | readFails _ => layout.cut
  | prepend data => layout.prepend data.length
  | ensureWritableBytes len => layout.reserve len.toNat
  | hasWritten len => layout.advance len.toNat
  | retrieve len | retrieveUntil len | retrieveAsString len | writeToFd len =>
      layout.retrieve len.toNat
  | retrieveAll => layout.retrieveAll
  | retrieveAllAsString => layout.retrieve layout.readable
  | peek | peekInt32 | findCRLF _ | findEOL _ => layout

/-- The call leaves the order of the indices, if it returns: a read fails when everything
written has been retrieved, or the array is to grow to a length that wraps. -/
def Tears (layout : Layout) : BufferAccess → Prop
  | readFails _ => layout.readable = 0
  | ensureWritableBytes len =>
      layout.before + layout.behind < len.toNat ∧
        2 ^ 64 ≤ layout.before + layout.readable + len.toNat
  | _ => False

instance (layout : Layout) (access : BufferAccess) : Decidable (access.Tears layout) := by
  cases access <;> unfold Tears <;> infer_instance

end BufferAccess

namespace RawBuffer

def layout (buffer : RawBuffer) : Layout where
  before := buffer.readIdx.toNat
  readable := buffer.writeIdx.toNat - buffer.readIdx.toNat
  behind := buffer.buf.length - buffer.writeIdx.toNat

/-- The indices are in order, inside an array that a vector can hold. -/
structure Ordered (buffer : RawBuffer) : Prop where
  ordered : buffer.readIdx.toNat ≤ buffer.writeIdx.toNat
  inside : buffer.writeIdx.toNat ≤ buffer.buf.length
  fits : buffer.buf.length ≤ maxSize

namespace Ordered

variable {buffer after : RawBuffer} {len : UInt64}

theorem ofSize {size : Nat} (fits : size ≤ maxSize) : (RawBuffer.ofSize size).Ordered where
  ordered := Nat.le_refl 0
  inside := Nat.zero_le _
  fits := by simpa [RawBuffer.ofSize] using fits

theorem writeIdx_eq (ordered : buffer.Ordered) :
    buffer.writeIdx.toNat = buffer.layout.before + buffer.layout.readable :=
  (Nat.add_sub_cancel' ordered.ordered).symm

theorem length_eq (ordered : buffer.Ordered) : buffer.buf.length = buffer.layout.size := by
  have inside := ordered.inside
  have order := ordered.ordered
  simp only [Layout.size, layout]
  omega

theorem lt_word (ordered : buffer.Ordered) : buffer.buf.length < 2 ^ 63 := by
  have fits := ordered.fits
  unfold maxSize at fits
  omega

theorem toNat_size (ordered : buffer.Ordered) : buffer.size.toNat = buffer.buf.length :=
  toNat_ofNat_of_le ordered.fits

theorem toNat_readableBytes (ordered : buffer.Ordered) :
    buffer.readableBytes.toNat = buffer.layout.readable :=
  UInt64.toNat_sub_of_le _ _ (UInt64.le_iff_toNat_le.mpr ordered.ordered)

theorem toNat_writableBytes (ordered : buffer.Ordered) :
    buffer.writableBytes.toNat = buffer.layout.behind := by
  have inside := ordered.inside
  rw [← ordered.toNat_size] at inside
  rw [writableBytes, UInt64.toNat_sub_of_le _ _ (UInt64.le_iff_toNat_le.mpr inside),
    ordered.toNat_size]
  rfl

/-- The free bytes on both sides, as `MakeSpace` adds them. -/
theorem toNat_free (ordered : buffer.Ordered) :
    (buffer.prependableBytes + buffer.writableBytes).toNat =
      buffer.layout.before + buffer.layout.behind := by
  have small := ordered.lt_word
  have length := ordered.length_eq
  unfold Layout.size at length
  rw [UInt64.toNat_add, ordered.toNat_writableBytes]
  change (buffer.layout.before + buffer.layout.behind) % 2 ^ 64 = _
  omega

/-- The indices and the length determine the rest. -/
theorem of_layout {layout : Layout} (readIdx : after.readIdx.toNat = layout.before)
    (writeIdx : after.writeIdx.toNat = layout.before + layout.readable)
    (length : after.buf.length = layout.size) (fits : layout.size ≤ maxSize) :
    after.Ordered ∧ after.layout = layout := by
  unfold Layout.size at *
  refine ⟨⟨by omega, by omega, by omega⟩, ?_⟩
  apply Layout.ext <;> simp only [RawBuffer.layout] <;> omega

/-- A buffer with other bytes in its array. -/
theorem of_eq (ordered : buffer.Ordered) (readIdx : after.readIdx = buffer.readIdx)
    (writeIdx : after.writeIdx = buffer.writeIdx)
    (length : after.buf.length = buffer.buf.length) :
    after.Ordered ∧ after.layout = buffer.layout := by
  refine of_layout ?_ ?_ ?_ ?_
  · rw [readIdx]
    rfl
  · rw [writeIdx, ordered.writeIdx_eq]
  · rw [length, ordered.length_eq]
  · rw [← ordered.length_eq]
    exact ordered.fits

/-- `EnsureWritableBytes` returns with room behind the content, unless its target wraps. -/
theorem ensureWritableBytes (ordered : buffer.Ordered)
    (ensured : buffer.ensureWritableBytes len = .ok after)
    (kept : ¬ (BufferAccess.ensureWritableBytes len).Tears buffer.layout) :
    after.Ordered ∧ after.layout = buffer.layout.reserve len.toNat := by
  have writable := ordered.toNat_writableBytes
  have free := ordered.toNat_free
  have length := ordered.length_eq
  have index := ordered.writeIdx_eq
  unfold RawBuffer.ensureWritableBytes at ensured
  split_ifs at ensured with enough
  · cases ensured
    rw [UInt64.le_iff_toNat_le, writable] at enough
    exact ⟨ordered, (if_pos enough).symm⟩
  rw [UInt64.le_iff_toNat_le, writable] at enough
  obtain ⟨made, space, asserted⟩ := bind_eq_ok.mp ensured
  split_ifs at asserted
  cases asserted
  unfold makeSpace at space
  rw [Layout.reserve, if_neg enough]
  split_ifs at space with front <;> rw [UInt64.le_iff_toNat_le, free] at front
  · -- the content moves to the front
    cases space
    rw [if_pos front]
    refine of_layout rfl ?_ ?_ ?_
    · rw [ordered.toNat_readableBytes, Nat.zero_add]
    · have content : ((buffer.buf.take buffer.writeIdx.toNat).drop
          buffer.readIdx.toNat).length ≤ buffer.buf.length := by
        rw [List.length_drop, List.length_take]
        omega
      rw [length_overwrite (by rwa [Nat.zero_add]), length]
      simp only [Layout.size]
      omega
    · have fits := ordered.fits
      simp only [Layout.size] at length ⊢
      omega
  · -- the array grows
    rw [if_neg front]
    have small := ordered.lt_word
    have target : (buffer.writeIdx + len).toNat =
        buffer.layout.before + buffer.layout.readable + len.toNat := by
      have unwrapped : buffer.layout.before + buffer.layout.readable + len.toNat < 2 ^ 64 :=
        Nat.lt_of_not_le fun wraps => kept ⟨Nat.lt_of_not_le front, wraps⟩
      rw [UInt64.toNat_add, index, Nat.mod_eq_of_lt unwrapped]
    unfold RawBuffer.resize at space
    split_ifs at space with long
    cases space
    rw [target] at long
    refine of_layout rfl index ?_ (Nat.le_of_not_lt long)
    rw [Buffer.length_resize, target]
    rfl

/-- An array whose target wraps is cut before the write index. -/
theorem ensureWritableBytes_wraps (ordered : buffer.Ordered)
    (ensured : buffer.ensureWritableBytes len = .ok after)
    (tears : (BufferAccess.ensureWritableBytes len).Tears buffer.layout) :
    after.readIdx = buffer.readIdx ∧ after.writeIdx = buffer.writeIdx ∧
      after.buf.length + 2 ^ 64 =
        buffer.layout.before + buffer.layout.readable + len.toNat := by
  obtain ⟨beyond, wraps⟩ := tears
  have small := ordered.lt_word
  have bound := len.toNat_lt
  have length := ordered.length_eq
  unfold Layout.size at length
  unfold RawBuffer.ensureWritableBytes at ensured
  rw [if_neg (by rw [UInt64.le_iff_toNat_le, ordered.toNat_writableBytes]; omega)] at ensured
  obtain ⟨made, space, asserted⟩ := bind_eq_ok.mp ensured
  split_ifs at asserted
  cases asserted
  unfold makeSpace RawBuffer.resize at space
  rw [if_neg (by rw [UInt64.le_iff_toNat_le, ordered.toNat_free]; omega)] at space
  split_ifs at space
  cases space
  refine ⟨rfl, rfl, ?_⟩
  rw [Buffer.length_resize, UInt64.toNat_add, ordered.writeIdx_eq]
  omega

/-- Room for `len` bytes, and their copy to the write index. -/
theorem copy {roomy : RawBuffer} (ordered : roomy.Ordered) {data : List UInt8}
    (room : data.length ≤ roomy.layout.behind) (len_eq : len.toNat = data.length) :
    let copied : RawBuffer :=
      { roomy with
        buf := overwrite roomy.buf roomy.writeIdx.toNat data
        writeIdx := roomy.writeIdx + len }
    copied.Ordered ∧ copied.layout = roomy.layout.advance data.length := by
  have small := ordered.lt_word
  have length := ordered.length_eq
  have index := ordered.writeIdx_eq
  have fits := ordered.fits
  unfold Layout.size at length
  refine of_layout rfl ?_ ?_ ?_
  · rw [UInt64.toNat_add, index, len_eq]
    simp only [Layout.advance]
    omega
  · rw [length_overwrite (by rw [index]; omega), length]
    simp only [Layout.size, Layout.advance]
    omega
  · simp only [Layout.size, Layout.advance]
    omega

/-- The kernel fills the array to its end, and the write index goes there. -/
theorem fill (ordered : buffer.Ordered) {bytes : List UInt8}
    (full : (bytes.take buffer.writableBytes.toNat).length ≤ buffer.layout.behind) :
    let filled := buffer.filled bytes
    let advanced : RawBuffer := { filled with writeIdx := filled.size }
    advanced.Ordered ∧ advanced.layout = buffer.layout.advance buffer.layout.behind := by
  have length := ordered.length_eq
  have fits := ordered.fits
  unfold Layout.size at length
  have kept : (buffer.filled bytes).buf.length = buffer.buf.length := by
    rw [filled, length_overwrite (by rw [ordered.writeIdx_eq]; omega)]
  refine of_layout rfl ?_ ?_ ?_
  · rw [size, kept, toNat_ofNat_of_le fits, length]
    simp only [Layout.advance]
    omega
  · rw [kept, length]
    simp only [Layout.size, Layout.advance]
    omega
  · simp only [Layout.size, Layout.advance]
    omega

/-- `Append` of the first bytes of an array. -/
theorem append (ordered : buffer.Ordered) {wild : WildCopy} {data : List UInt8}
    (available : len.toNat ≤ data.length) (known : len.toNat ≤ maxSize)
    (appended : buffer.append wild data len = .ok after) :
    after.Ordered ∧ after.layout = buffer.layout.takeIn len.toNat := by
  obtain ⟨roomy, ensured, copied⟩ := bind_eq_ok.mp appended
  have kept : ¬ (BufferAccess.ensureWritableBytes len).Tears buffer.layout := by
    rintro ⟨-, wraps⟩
    have small := ordered.lt_word
    have length := ordered.length_eq
    unfold Layout.size at length
    unfold maxSize at known
    omega
  obtain ⟨order, layout⟩ := ordered.ensureWritableBytes ensured kept
  have taken : (data.take len.toNat).length = len.toNat := by
    rw [List.length_take, Nat.min_eq_left available]
  have room : len.toNat ≤ roomy.layout.behind := by
    rw [layout]
    exact buffer.layout.le_behind_reserve _
  have inside : roomy.writeIdx.toNat + len.toNat ≤ roomy.buf.length := by
    rw [order.length_eq, order.writeIdx_eq, Layout.size]
    omega
  rw [if_pos ⟨available, inside⟩] at copied
  cases copied
  have done := order.copy (taken.symm ▸ room) taken.symm
  rw [taken] at done
  rw [Layout.takeIn, ← layout]
  exact done

/-- A `readv` that stores bytes. -/
theorem readFromFd (ordered : buffer.Ordered) {wild : WildCopy} {bytes : List UInt8}
    {result : Int64 × Int32 × RawBuffer} (received : buffer.Receives bytes)
    (read : buffer.readFromFd wild ⟨Int64.ofNat bytes.length, 0, bytes⟩ 0 = .ok result) :
    result.2.2.Ordered ∧ result.2.2.layout = buffer.layout.takeIn bytes.length := by
  obtain ⟨after, moved, returned⟩ := bind_eq_ok.mp read
  rw [pure_eq_ok] at returned
  subst returned
  have writable := ordered.toNat_writableBytes
  have small := ordered.lt_word
  have length := ordered.length_eq
  have index := ordered.writeIdx_eq
  have extra : extrabufSize = 65536 := rfl
  unfold Receives at received
  rw [writable] at received
  unfold Layout.size at length
  have count : (Int64.ofNat bytes.length).toUInt64 = UInt64.ofNat bytes.length := by
    rw [Int64.toUInt64_ofNat']
  have len_eq : (UInt64.ofNat bytes.length).toNat = bytes.length :=
    UInt64.toNat_ofNat_of_lt' (by rw [UInt64.size]; omega)
  simp only [takeIn, count] at moved
  split_ifs at moved with within
  · -- the bytes fit behind the content
    rw [UInt64.le_iff_toNat_le, len_eq, writable] at within
    cases moved
    have done := ordered.copy within len_eq
    have stays : buffer.layout.reserve bytes.length = buffer.layout := if_pos within
    have stored : bytes.take buffer.writableBytes.toNat = bytes :=
      List.take_of_length_le (writable.symm ▸ within)
    rw [Layout.takeIn, stays]
    simpa only [filled, stored] using done
  · -- the array is full, and the rest is appended
    rw [UInt64.le_iff_toNat_le, len_eq, writable] at within
    have front : (bytes.take buffer.writableBytes.toNat).length = buffer.layout.behind := by
      rw [List.length_take, writable, Nat.min_eq_left (by omega)]
    have rest : (UInt64.ofNat bytes.length - buffer.writableBytes).toNat =
        bytes.length - buffer.layout.behind := by
      rw [UInt64.toNat_sub_of_le _ _ (by rw [UInt64.le_iff_toNat_le, len_eq, writable]; omega),
        len_eq, writable]
    obtain ⟨full, layout⟩ := ordered.fill front.le
    have available : (buffer.extrabuf bytes).length = extrabufSize := by
      have room : (bytes.drop buffer.writableBytes.toNat).length ≤ extrabufSize := by
        rw [List.length_drop, writable]
        omega
      rw [extrabuf, length_overwrite] <;> rw [List.length_replicate]
      rwa [Nat.zero_add]
    have done := full.append (by rw [rest, available]; omega)
      (by rw [rest]; unfold maxSize; omega) moved
    rw [rest, layout, Layout.takeIn_advance _ (by omega)] at done
    exact done

/-- A `readv` that answers `-1` comes back only to a buffer that has been written to. It cuts
the array behind the last byte but one, and the write index goes there. -/
theorem readFails (ordered : buffer.Ordered) {wild : WildCopy}
    (keeps : ∀ buf after, wild buf = some after → after.length = buf.length) {errno : Int32}
    {result : Int64 × Int32 × RawBuffer}
    (read : buffer.readFromFd wild ⟨-1, errno, []⟩ 0 = .ok result) :
    result.2.2.readIdx = buffer.readIdx ∧
      result.2.2.writeIdx.toNat + 1 = buffer.writeIdx.toNat ∧
      result.2.2.buf.length + 1 = buffer.writeIdx.toNat := by
  obtain ⟨after, moved, returned⟩ := bind_eq_ok.mp read
  rw [pure_eq_ok] at returned
  subst returned
  have writable := ordered.toNat_writableBytes
  have small := ordered.lt_word
  have inside := ordered.inside
  have behind : buffer.layout.behind = buffer.buf.length - buffer.writeIdx.toNat := rfl
  have minusOne : ((-1 : Int64).toUInt64).toNat = 2 ^ 64 - 1 := by decide
  simp only [takeIn] at moved
  rw [if_neg (by rw [UInt64.le_iff_toNat_le, minusOne, writable]; omega)] at moved
  have rest : ((-1 : Int64).toUInt64 - buffer.writableBytes).toNat =
      2 ^ 64 - 1 - buffer.layout.behind := by
    rw [UInt64.toNat_sub_of_le _ _ (by rw [UInt64.le_iff_toNat_le, minusOne, writable]; omega),
      minusOne, writable]
  obtain ⟨full, layout⟩ := @fill buffer ordered [] (by simp)
  have held : buffer.writeIdx.toNat = buffer.layout.before + buffer.layout.readable :=
    ordered.writeIdx_eq
  have end_ : (buffer.layout.advance buffer.layout.behind).before +
      (buffer.layout.advance buffer.layout.behind).readable = buffer.buf.length := by
    simp only [Layout.advance]
    omega
  have beyond : (buffer.layout.advance buffer.layout.behind).before +
      (buffer.layout.advance buffer.layout.behind).behind < 2 ^ 64 - 1 - buffer.layout.behind := by
    simp only [Layout.advance]
    omega
  obtain ⟨roomy, ensured, copied⟩ := bind_eq_ok.mp moved
  have written : 0 < buffer.writeIdx.toNat := by
    -- otherwise the array would have to grow to `2 ^ 64 - 1` bytes
    by_contra none
    obtain ⟨order, grown⟩ := full.ensureWritableBytes ensured <| by
      rintro ⟨-, wraps⟩
      rw [layout, rest] at wraps
      omega
    have fits := order.fits
    rw [order.length_eq, grown, layout, rest, Layout.reserve, if_neg (by omega), if_neg (by omega)]
      at fits
    unfold Layout.size maxSize at fits
    dsimp only at fits
    omega
  obtain ⟨readIdx, writeIdx, length⟩ := full.ensureWritableBytes_wraps ensured <| by
    rw [BufferAccess.Tears, layout, rest]
    omega
  rw [layout, rest, end_] at length
  have available : (buffer.extrabuf []).length = extrabufSize := by
    rw [extrabuf, length_overwrite (by simp)]
    exact List.length_replicate
  rw [if_neg (by rw [rest, available, extrabufSize]; omega)] at copied
  split at copied
  · cases copied
  · next buf came =>
      cases copied
      refine ⟨readIdx, ?_, ?_⟩
      · dsimp only
        rw [writeIdx, UInt64.toNat_add, rest, full.writeIdx_eq, layout, end_]
        omega
      · dsimp only
        rw [keeps _ _ came]
        omega

/-- `Retrieve(len)`. -/
theorem retrieve (ordered : buffer.Ordered) (asserted : len.toNat ≤ buffer.layout.readable) :
    (buffer.retrieve len).Ordered ∧ (buffer.retrieve len).layout =
      buffer.layout.retrieve len.toNat := by
  have small := ordered.lt_word
  have fits := ordered.fits
  have index := ordered.writeIdx_eq
  have length := ordered.length_eq
  have readIdx : buffer.readIdx.toNat = buffer.layout.before := rfl
  unfold Layout.size at length
  refine of_layout ?_ ?_ ?_ ?_ <;>
    simp only [RawBuffer.retrieve, Layout.retrieve, Layout.size, UInt64.toNat_add] <;> omega

/-- `Prepend`, of no more bytes than stand before the content. -/
theorem prepend (ordered : buffer.Ordered) {wild : WildCopy} {data : List UInt8}
    (asserted : data.length ≤ buffer.layout.before)
    (prepended : buffer.prepend wild data = .ok after) :
    after.Ordered ∧ after.layout = buffer.layout.prepend data.length := by
  have small := ordered.lt_word
  have fits := ordered.fits
  have index := ordered.writeIdx_eq
  have length := ordered.length_eq
  have readIdx : buffer.readIdx.toNat = buffer.layout.before := rfl
  unfold Layout.size at length
  have len_eq : (UInt64.ofNat data.length).toNat = data.length :=
    toNat_ofNat_of_le (by omega)
  have front : (buffer.readIdx - UInt64.ofNat data.length).toNat =
      buffer.layout.before - data.length := by
    rw [UInt64.toNat_sub_of_le _ _ (by rw [UInt64.le_iff_toNat_le]; omega), len_eq]
    rfl
  unfold RawBuffer.prepend at prepended
  rw [if_pos (by rw [front]; omega)] at prepended
  cases prepended
  refine of_layout front ?_ ?_ ?_
  · simp only [Layout.prepend]
    omega
  · rw [length_overwrite (by rw [front]; omega), length]
    simp only [Layout.size, Layout.prepend]
    omega
  · simp only [Layout.size, Layout.prepend]
    omega

/-- A call on a buffer in order, as arithmetic on its three numbers. -/
theorem perform (ordered : buffer.Ordered) {wild : WildCopy}
    (keeps : ∀ buf after, wild buf = some after → after.length = buf.length)
    {access : BufferAccess} (asserted : access.Asserted buffer)
    (kept : ¬ access.Tears buffer.layout) (returned : access.perform wild buffer = .ok after) :
    after.Ordered ∧ after.layout = access.arrange buffer.layout := by
  have readable := ordered.toNat_readableBytes
  have small := ordered.lt_word
  have index := ordered.writeIdx_eq
  have length := ordered.length_eq
  have fits := ordered.fits
  unfold Layout.size at length
  cases access with
  | append data =>
      have len_eq : (UInt64.ofNat data.length).toNat = data.length := toNat_ofNat_of_le asserted
      have done := ordered.append len_eq.le (len_eq.symm ▸ asserted) returned
      rwa [len_eq] at done
  | appendInt32 x =>
      have four : (4 : UInt64).toNat = (Buffer.hostToNetLong x.toUInt32).length := by
        simp [Buffer.hostToNetLong]
      exact ordered.append four.le (by decide) returned
  | prepend data =>
      obtain ⟨known, room⟩ := asserted
      rw [UInt64.le_iff_toNat_le, toNat_ofNat_of_le known] at room
      exact ordered.prepend room returned
  | ensureWritableBytes len => exact ordered.ensureWritableBytes returned kept
  | hasWritten len =>
      have room : len.toNat ≤ buffer.layout.behind := by
        rw [← ordered.toNat_writableBytes, ← UInt64.le_iff_toNat_le]
        exact asserted
      cases returned
      refine of_layout rfl ?_ ?_ ?_ <;>
        simp only [hasWritten, BufferAccess.arrange, Layout.advance, Layout.size,
          UInt64.toNat_add] <;> omega
  | retrieve len | retrieveUntil len | retrieveAsString len | writeToFd len =>
      cases returned
      refine ordered.retrieve ?_
      rw [← readable, ← UInt64.le_iff_toNat_le]
      exact asserted
  | retrieveAll =>
      cases returned
      refine of_layout rfl rfl ?_ ?_ <;>
        simp only [retrieveAll, BufferAccess.arrange, Layout.retrieveAll, Layout.size] <;> omega
  | retrieveAllAsString =>
      cases returned
      have done := @retrieve buffer buffer.readableBytes ordered readable.le
      rwa [readable] at done
  | peek | peekInt32 | findCRLF _ | findEOL _ =>
      cases returned
      exact ⟨ordered, rfl⟩
  | readFromFd bytes =>
      obtain ⟨result, read, rfl⟩ := map_eq_ok.mp returned
      exact ordered.readFromFd asserted read
  | readFails errno =>
      obtain ⟨result, read, rfl⟩ := map_eq_ok.mp returned
      obtain ⟨readIdx, writeIdx, cut⟩ := ordered.readFails keeps read
      have held : 0 < buffer.layout.readable := Nat.pos_of_ne_zero kept
      refine of_layout ?_ ?_ ?_ ?_
      · rw [readIdx]
        rfl
      · simp only [BufferAccess.arrange, Layout.cut]
        omega
      · simp only [BufferAccess.arrange, Layout.cut, Layout.size]
        omega
      · simp only [BufferAccess.arrange, Layout.cut, Layout.size]
        omega

/-- A call that tears a buffer leaves no byte behind the write index. -/
theorem perform_tears (ordered : buffer.Ordered) {wild : WildCopy}
    (keeps : ∀ buf after, wild buf = some after → after.length = buf.length)
    {access : BufferAccess} (tears : access.Tears buffer.layout)
    (returned : access.perform wild buffer = .ok after) :
    after.buf.length ≤ after.writeIdx.toNat := by
  cases access with
  | ensureWritableBytes len =>
      obtain ⟨_, writeIdx, length⟩ := ordered.ensureWritableBytes_wraps returned tears
      have bound := len.toNat_lt
      rw [writeIdx, ordered.writeIdx_eq]
      omega
  | readFails errno =>
      obtain ⟨result, read, rfl⟩ := map_eq_ok.mp returned
      obtain ⟨_, writeIdx, length⟩ := ordered.readFails keeps read
      omega
  | _ => exact absurd tears id

end Ordered

end RawBuffer

end TurboCore.Net
