import Mathlib
import TurboCore.Net.BufferWords
import TurboCore.Net.ScatterRead

/-!
# How much memory a buffer takes

The array of a buffer grows only when the free bytes on both sides of the readable ones do
not suffice, and only a read that fails makes it shorter. So its length is bounded by what
the buffer ever held and was asked for at one time, however many bytes go through it.
-/

namespace TurboCore.Net

open Foundation

namespace Buffer

variable (buffer : Buffer)

/-- A buffer that grows has fewer free bytes than it is asked for. -/
theorem length_buf_ensureWritableBytes_le (len : Nat) :
    (buffer.ensureWritableBytes len).buf.length ≤
      max buffer.buf.length (buffer.readableBytes + 2 * len) := by
  have ordered := buffer.ordered
  have inside := buffer.inside
  unfold ensureWritableBytes makeSpace
  split_ifs with room moved
  · exact Nat.le_max_left _ _
  · simp only [List.length_append, length_content, List.length_drop, readableBytes]
    omega
  · simp only [prependableBytes, writableBytes, readableBytes] at *
    rw [length_resize]
    omega

theorem length_buf_append_le (data : List UInt8) :
    (buffer.append data).buf.length ≤
      max buffer.buf.length (buffer.readableBytes + 2 * data.length) := by
  rw [append, length_buf_copyIn _ _ (buffer.le_writableBytes_ensureWritableBytes _)]
  exact buffer.length_buf_ensureWritableBytes_le _

/-- A read that does not fit is appended to a full array, and is no longer than `extrabuf`. -/
theorem length_buf_readFromFd_le {bytes : List UInt8} (received : buffer.Receives bytes) :
    (buffer.readFromFd bytes).2.buf.length ≤
      max buffer.buf.length (buffer.readableBytes + 3 * extrabufSize) := by
  rw [buffer.readFromFd_eq received]
  by_cases within : bytes.length ≤ buffer.writableBytes
  · rw [if_pos within, length_buf_copyIn _ _ within]
    exact Nat.le_max_left _ _
  · have small : buffer.writableBytes < extrabufSize ∧
        bytes.length ≤ buffer.writableBytes + extrabufSize := by
      unfold Receives iovLengths at received
      split at received <;> simp only [List.sum_cons, List.sum_nil] at received <;> omega
    have front : (bytes.take buffer.writableBytes).length = buffer.writableBytes := by
      rw [List.length_take]
      omega
    have filled := buffer.length_buf_copyIn (bytes.take buffer.writableBytes) front.le
    have held : (buffer.copyIn (bytes.take buffer.writableBytes)).readableBytes =
        buffer.readableBytes + buffer.writableBytes := by
      rw [← length_content, content_copyIn, List.length_append, length_content, front]
    rw [if_neg within]
    refine (length_buf_append_le _ _).trans ?_
    rw [filled, held, List.length_drop]
    omega

end Buffer

namespace Layout

variable (layout : Layout)

/-- An array that grows has fewer free bytes than it is asked for. -/
theorem size_reserve_le (len : Nat) :
    (layout.reserve len).size ≤ max layout.size (layout.readable + 2 * len) := by
  unfold reserve size
  split_ifs
  · exact Nat.le_max_left _ _
  · dsimp only
    omega
  · dsimp only
    omega

theorem size_takeIn_le (len : Nat) :
    (layout.takeIn len).size ≤ max layout.size (layout.readable + 2 * len) := by
  have room := layout.le_behind_reserve len
  have same : (layout.takeIn len).size = (layout.reserve len).size := by
    simp only [takeIn, advance, size]
    omega
  rw [same]
  exact layout.size_reserve_le len

end Layout

namespace BufferAccess

/-- The bytes that a call asks the buffer to make room for. -/
def size : BufferAccess → Nat
  | append data | prepend data | readFromFd data => data.length
  | appendInt32 _ => 4
  | ensureWritableBytes len => len.toNat
  | hasWritten _ | retrieve _ | retrieveUntil _ | retrieveAll | retrieveAsString _
  | retrieveAllAsString | peek | peekInt32 | findCRLF _ | findEOL _ | readFails _
  | writeToFd _ => 0

/-- What a call makes the buffer hold or reserve: its readable bytes and twice the bytes that
the call asks room for. -/
def demand (buffer : RawBuffer) (access : BufferAccess) : Nat :=
  buffer.readableBytes.toNat + 2 * access.size

theorem size_arrange_le {buffer : RawBuffer} (ordered : buffer.Ordered) {access : BufferAccess}
    (asserted : access.Asserted buffer) :
    (access.arrange buffer.layout).size ≤ max buffer.layout.size (access.demand buffer) := by
  have readable := ordered.toNat_readableBytes
  have taken : ∀ len, access.size = len → (buffer.layout.takeIn len).size ≤
      max buffer.layout.size (access.demand buffer) := by
    rintro len rfl
    rw [demand, readable]
    exact buffer.layout.size_takeIn_le _
  have retrieved : ∀ len, len ≤ buffer.layout.readable →
      (buffer.layout.retrieve len).size ≤ buffer.layout.size := by
    intro len available
    simp only [Layout.retrieve, Layout.size]
    omega
  cases access with
  | append data => exact taken data.length rfl
  | appendInt32 x => exact taken 4 rfl
  | readFromFd bytes => exact taken bytes.length rfl
  | ensureWritableBytes len =>
      rw [demand, readable]
      exact buffer.layout.size_reserve_le len.toNat
  | prepend data =>
      obtain ⟨known, room⟩ := asserted
      rw [UInt64.le_iff_toNat_le, RawBuffer.toNat_ofNat_of_le known] at room
      have front : data.length ≤ buffer.layout.before := room
      refine le_max_of_le_left ?_
      simp only [arrange, Layout.prepend, Layout.size]
      omega
  | hasWritten len =>
      have room : len.toNat ≤ buffer.layout.behind := by
        rw [← ordered.toNat_writableBytes, ← UInt64.le_iff_toNat_le]
        exact asserted
      refine le_max_of_le_left ?_
      simp only [arrange, Layout.advance, Layout.size]
      omega
  | retrieve len | retrieveUntil len | retrieveAsString len | writeToFd len =>
      refine le_max_of_le_left (retrieved len.toNat ?_)
      rw [← readable, ← UInt64.le_iff_toNat_le]
      exact asserted
  | retrieveAllAsString => exact le_max_of_le_left (retrieved _ (Nat.le_refl _))
  | retrieveAll =>
      refine le_max_of_le_left ?_
      simp only [arrange, Layout.retrieveAll, Layout.size]
      omega
  | readFails errno =>
      refine le_max_of_le_left ?_
      simp only [arrange, Layout.cut, Layout.size]
      omega
  | peek | peekInt32 | findCRLF _ | findEOL _ => exact Nat.le_max_left _ _

end BufferAccess

/-- A buffer in order is one whose indices are numbers. -/
theorem RawBuffer.Ordered.eq_ofBuffer {buffer : RawBuffer} (ordered : buffer.Ordered) :
    ∃ numbers : Buffer, buffer = .ofBuffer numbers :=
  ⟨⟨buffer.buf, buffer.readIdx.toNat, buffer.writeIdx.toNat, ordered.ordered, ordered.inside⟩, by
    simp [RawBuffer.ofBuffer]⟩

/-- In every run of calls that leaves the indices in order, those that meet a socket included,
the array is no longer than it was at first or than the most that one call demanded. -/
theorem length_buf_le_demand {wild : WildCopy}
    (keeps : ∀ buf after, wild buf = some after → after.length = buf.length) {size : Nat}
    (fits : size ≤ maxSize) (bound : Nat) {accesses : List BufferAccess} {buffer : RawBuffer}
    (executed : (accessMachine wild).Run (fun buffer access =>
      access.demand buffer ≤ bound ∧ ¬ access.Tears buffer.layout) (.ofSize size) accesses
      buffer) :
    buffer.buf.length ≤ max size bound ∧ ∃ numbers : Buffer, buffer = .ofBuffer numbers := by
  have kept := executed.invariant
    (fun buffer => buffer.Ordered ∧ buffer.buf.length ≤ max size bound)
    ⟨.ofSize fits, by simp [RawBuffer.ofSize]⟩ <| by
      rintro here access next ⟨ordered, holds⟩ ⟨demanded, untorn⟩ transition
      obtain ⟨asserted, returned⟩ := accessMachine_cases transition
      obtain ⟨order, layout⟩ := ordered.perform keeps asserted untorn returned
      refine ⟨order, ?_⟩
      have grows := BufferAccess.size_arrange_le ordered asserted
      rw [order.length_eq, layout]
      rw [ordered.length_eq] at holds
      omega
  exact ⟨kept.2, kept.1.eq_ofBuffer⟩

/-- Ten bytes go from one socket through a buffer of four to another, two at a time. -/
def tenBytesThroughFour : List BufferAccess :=
  (List.replicate 5 [BufferAccess.readFromFd [1, 2], .writeToFd 2]).flatten

/-- The array stays at four bytes. -/
theorem tenBytesThroughFour_stays : ∃ buffer,
    (accessMachine some).exec (.ofSize 4) tenBytesThroughFour = some buffer ∧
      buffer.buf.length ≤ 4 := by
  have observed : (((accessMachine some).exec (.ofSize 4) tenBytesThroughFour).map
      (·.readableBytes)) = some 0 := by decide +kernel
  obtain ⟨buffer, executed, _⟩ := Option.map_eq_some_iff.mp observed
  have demanded : (accessMachine some).Guarded (fun buffer access =>
      access.demand buffer ≤ 4 ∧ ¬ access.Tears buffer.layout) (.ofSize 4)
      tenBytesThroughFour := by decide +kernel
  have keeps : ∀ buf after : List UInt8, some buf = some after → after.length = buf.length := by
    rintro buf after ⟨⟩
    rfl
  exact ⟨buffer, executed,
    (length_buf_le_demand keeps (by decide) 4 (Machine.run_of_guarded executed demanded)).1⟩

end TurboCore.Net
