import Mathlib
import TurboCore.Net.Buffer

/-!
# Reading into a buffer

`Buffer::ReadFromFd` on Linux for a `readv` that succeeds. The kernel fills the array
behind the write index first and a second array on the stack after it, and what is in the
second array is appended, which may move the content or grow the array.
-/

namespace TurboCore.Net

/-- `sizeof(extrabuf)`. -/
def extrabufSize : Nat := 65536

/-- What the kernel stores into each of several vectors of the given lengths: every one is
filled before the next. -/
def scatter : List Nat → List UInt8 → List (List UInt8)
  | [], _ => []
  | length :: lengths, bytes => bytes.take length :: scatter lengths (bytes.drop length)

namespace Buffer

/-- The lengths of the `iovcnt` vectors that `readv` is called with. -/
def iovLengths (buffer : Buffer) : List Nat :=
  if buffer.writableBytes < extrabufSize then [buffer.writableBytes, extrabufSize]
  else [buffer.writableBytes]

/-- A `readv` that stores these bytes: they are no more than the vectors hold. -/
def Receives (buffer : Buffer) (bytes : List UInt8) : Prop :=
  bytes.length ≤ buffer.iovLengths.sum

/-- The buffer with bytes stored behind the write index, which stays. -/
def fill (buffer : Buffer) (stored : List UInt8) : Buffer where
  buf := buffer.buf.take buffer.writeIdx ++ stored ++
    buffer.buf.drop (buffer.writeIdx + stored.length)
  readIdx := buffer.readIdx
  writeIdx := buffer.writeIdx
  ordered := buffer.ordered
  inside := by
    have inside := buffer.inside
    simp only [List.length_append, List.length_take]
    omega

/-- `m_write_idx += len`. -/
def advance (buffer : Buffer) (len : Nat) (inside : len ≤ buffer.writableBytes) : Buffer where
  buf := buffer.buf
  readIdx := buffer.readIdx
  writeIdx := buffer.writeIdx + len
  ordered := Nat.le_add_right_of_le buffer.ordered
  inside := by
    have inside' := buffer.inside
    unfold writableBytes at inside
    omega

/-- `m_write_idx = m_buf.size()`. -/
def advanceToEnd (buffer : Buffer) : Buffer where
  buf := buffer.buf
  readIdx := buffer.readIdx
  writeIdx := buffer.buf.length
  ordered := buffer.ordered.trans buffer.inside
  inside := Nat.le_refl _

theorem length_buf_fill (buffer : Buffer) {stored : List UInt8}
    (room : stored.length ≤ buffer.writableBytes) :
    (buffer.fill stored).buf.length = buffer.buf.length :=
  buffer.length_buf_copyIn stored room

theorem le_writableBytes_fill (buffer : Buffer) (stored : List UInt8) :
    buffer.writableBytes ≤ (buffer.fill stored).writableBytes := by
  simp only [writableBytes, fill, List.length_append, List.length_take, List.length_drop]
  omega

/-- `ReadFromFd` when `readv` stores `bytes`: the value it returns and the buffer after it.
`writable` is taken before `readv` runs. -/
def readFromFd (buffer : Buffer) (bytes : List UInt8) : Nat × Buffer :=
  let stored := scatter buffer.iovLengths bytes
  let filled := buffer.fill (stored.getD 0 [])
  let extrabuf := stored.getD 1 []
  let n := bytes.length
  if within : n ≤ buffer.writableBytes then
    (n, filled.advance n (within.trans (buffer.le_writableBytes_fill _)))
  else (n, filled.advanceToEnd.append (extrabuf.take (n - buffer.writableBytes)))

/-- With the array full the write index is behind the copied bytes. -/
theorem advanceToEnd_fill (buffer : Buffer) {stored : List UInt8}
    (full : stored.length = buffer.writableBytes) :
    (buffer.fill stored).advanceToEnd = buffer.copyIn stored := by
  have inside := buffer.inside
  have reached : (buffer.fill stored).buf.length = buffer.writeIdx + stored.length := by
    rw [buffer.length_buf_fill full.le, full, writableBytes, Nat.add_sub_cancel' inside]
  simp only [advanceToEnd, reached]
  rfl

/-- The first vector always takes what fits behind the write index. -/
theorem scatter_first (buffer : Buffer) (bytes : List UInt8) :
    (scatter buffer.iovLengths bytes).getD 0 [] = bytes.take buffer.writableBytes := by
  unfold iovLengths
  split <;> rfl

/-- The second vector takes the rest, and there is one whenever there is a rest. -/
theorem scatter_second (buffer : Buffer) {bytes : List UInt8} (received : buffer.Receives bytes)
    (beyond : buffer.writableBytes < bytes.length) :
    (scatter buffer.iovLengths bytes).getD 1 [] = bytes.drop buffer.writableBytes := by
  unfold Receives iovLengths at *
  split at received
  · next small =>
      simp only [List.sum_cons, List.sum_nil, Nat.add_zero] at received
      simp only [if_pos small, scatter, List.getD_cons_succ, List.getD_cons_zero]
      apply List.take_of_length_le
      rw [List.length_drop]
      omega
  · simp only [List.sum_cons, List.sum_nil, Nat.add_zero] at received
    omega

/-- The buffer after a read: a copy, and for what went into the second array an append. -/
theorem readFromFd_eq (buffer : Buffer) {bytes : List UInt8} (received : buffer.Receives bytes) :
    buffer.readFromFd bytes = (bytes.length,
      if bytes.length ≤ buffer.writableBytes then buffer.copyIn bytes
      else (buffer.copyIn (bytes.take buffer.writableBytes)).append
        (bytes.drop buffer.writableBytes)) := by
  rw [readFromFd]
  by_cases within : bytes.length ≤ buffer.writableBytes
  · have first := buffer.scatter_first bytes
    rw [List.take_of_length_le within] at first
    simp only [dif_pos within, if_pos within, first]
    rfl
  · have full : (bytes.take buffer.writableBytes).length = buffer.writableBytes := by
      rw [List.length_take]
      omega
    have rest : (bytes.drop buffer.writableBytes).take (bytes.length - buffer.writableBytes) =
        bytes.drop buffer.writableBytes := by
      rw [← List.length_drop, List.take_length]
    simp only [dif_neg within, if_neg within, buffer.scatter_first,
      buffer.scatter_second received (Nat.not_le.mp within), rest, buffer.advanceToEnd_fill full]

/-- The content grows by the received bytes, wherever they were put. -/
theorem content_readFromFd (buffer : Buffer) {bytes : List UInt8}
    (received : buffer.Receives bytes) :
    (buffer.readFromFd bytes).2.content = buffer.content ++ bytes := by
  rw [buffer.readFromFd_eq received]
  by_cases within : bytes.length ≤ buffer.writableBytes
  · rw [if_pos within, content_copyIn]
  · rw [if_neg within, content_append, content_copyIn, List.append_assoc, List.take_append_drop]

end Buffer

end TurboCore.Net
