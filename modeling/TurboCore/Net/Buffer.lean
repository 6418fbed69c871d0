import Mathlib
import TurboCore.Foundation.BigEndian

/-!
# The connection's byte buffer

`Buffer` keeps its readable bytes between two indices of one array. Appending may
move them to the front or grow the array; `content` is what a reader sees, and it
changes by appending, prepending and retrieving only.
-/

namespace TurboCore.Net

/-- `Buffer`, with the order of its indices that every operation asserts or keeps. -/
structure Buffer where
  buf : List UInt8
  readIdx : Nat
  writeIdx : Nat
  ordered : readIdx ≤ writeIdx
  inside : writeIdx ≤ buf.length

namespace Buffer

/-- `kInitialSize`. -/
def initialSize : Nat := 1024

/-- `Buffer(initial_size)`. -/
def ofSize (size : Nat) : Buffer where
  buf := List.replicate size 0
  readIdx := 0
  writeIdx := 0
  ordered := Nat.le_refl 0
  inside := Nat.zero_le _

def readableBytes (buffer : Buffer) : Nat := buffer.writeIdx - buffer.readIdx

def writableBytes (buffer : Buffer) : Nat := buffer.buf.length - buffer.writeIdx

def prependableBytes (buffer : Buffer) : Nat := buffer.readIdx

/-- The bytes that `Peek` and `ReadableBytes` delimit. -/
def content (buffer : Buffer) : List UInt8 :=
  (buffer.buf.take buffer.writeIdx).drop buffer.readIdx

@[simp] theorem length_content (buffer : Buffer) :
    buffer.content.length = buffer.readableBytes := by
  have inside := buffer.inside
  simp only [content, readableBytes, List.length_drop, List.length_take]
  omega

/-- `Retrieve(len)`, with its asserted precondition. -/
def retrieve (buffer : Buffer) (len : Nat) (asserted : len ≤ buffer.readableBytes) : Buffer where
  buf := buffer.buf
  readIdx := buffer.readIdx + len
  writeIdx := buffer.writeIdx
  ordered := by
    have ordered := buffer.ordered
    unfold readableBytes at asserted
    omega
  inside := buffer.inside

/-- `std::vector::resize`. -/
def resize (buf : List UInt8) (size : Nat) : List UInt8 :=
  buf.take size ++ List.replicate (size - buf.length) 0

@[simp] theorem length_resize (buf : List UInt8) (size : Nat) :
    (resize buf size).length = size := by
  simp only [resize, List.length_append, List.length_take, List.length_replicate]
  omega

/-- `MakeSpace(len)`: `std::copy` to the front when the free bytes on both sides
suffice, else `resize`. -/
def makeSpace (buffer : Buffer) (len : Nat) : Buffer :=
  if len ≤ buffer.prependableBytes + buffer.writableBytes then
    { buf := buffer.content ++ buffer.buf.drop buffer.readableBytes
      readIdx := 0
      writeIdx := buffer.readableBytes
      ordered := Nat.zero_le _
      inside := by simp }
  else
    { buf := resize buffer.buf (buffer.writeIdx + len)
      readIdx := buffer.readIdx
      writeIdx := buffer.writeIdx
      ordered := buffer.ordered
      inside := by simp }

/-- `EnsureWritableBytes(len)`. -/
def ensureWritableBytes (buffer : Buffer) (len : Nat) : Buffer :=
  if len ≤ buffer.writableBytes then buffer else buffer.makeSpace len

/-- Moving or growing the array leaves the readable bytes. -/
@[simp] theorem content_makeSpace (buffer : Buffer) (len : Nat) :
    (buffer.makeSpace len).content = buffer.content := by
  have inside := buffer.inside
  unfold makeSpace
  split
  · have moved := buffer.length_content
    simp only [content, List.drop_zero] at moved ⊢
    rw [← moved, List.take_append_of_le_length (Nat.le_refl _), List.take_length]
  · simp only [content, resize]
    rw [List.take_append_of_le_length (by simp; omega), List.take_take,
      Nat.min_eq_left (Nat.le_add_right _ _)]

@[simp] theorem content_ensureWritableBytes (buffer : Buffer) (len : Nat) :
    (buffer.ensureWritableBytes len).content = buffer.content := by
  unfold ensureWritableBytes
  split
  · rfl
  · exact content_makeSpace _ _

/-- The assertion at the end of `EnsureWritableBytes`. -/
theorem le_writableBytes_ensureWritableBytes (buffer : Buffer) (len : Nat) :
    len ≤ (buffer.ensureWritableBytes len).writableBytes := by
  have ordered := buffer.ordered
  have inside := buffer.inside
  unfold ensureWritableBytes
  split
  · assumption
  · unfold makeSpace
    split
    · next enough =>
        simp only [writableBytes, prependableBytes, readableBytes, List.length_append,
          length_content, List.length_drop] at enough ⊢
        omega
    · simp only [writableBytes, length_resize]
      omega

/-- `std::copy` to the write index of a buffer with room, and `m_write_idx += len`. -/
def copyIn (roomy : Buffer) (data : List UInt8) : Buffer where
  buf := roomy.buf.take roomy.writeIdx ++ data ++ roomy.buf.drop (roomy.writeIdx + data.length)
  readIdx := roomy.readIdx
  writeIdx := roomy.writeIdx + data.length
  ordered := Nat.le_add_right_of_le roomy.ordered
  inside := by
    have inside := roomy.inside
    simp only [List.length_append, List.length_take]
    omega

/-- `Append(data, len)`. -/
def append (buffer : Buffer) (data : List UInt8) : Buffer :=
  (buffer.ensureWritableBytes data.length).copyIn data

theorem content_copyIn (roomy : Buffer) (data : List UInt8) :
    (roomy.copyIn data).content = roomy.content ++ data := by
  have front : (roomy.buf.take roomy.writeIdx).length = roomy.writeIdx := by
    rw [List.length_take, Nat.min_eq_left roomy.inside]
  have written : (roomy.copyIn data).buf.take (roomy.writeIdx + data.length) =
      roomy.buf.take roomy.writeIdx ++ data := by
    refine List.take_left' ?_
    rw [List.length_append, front]
  calc (roomy.copyIn data).content
      = (roomy.buf.take roomy.writeIdx ++ data).drop roomy.readIdx := by
        rw [← written]
        rfl
    _ = roomy.content ++ data := by
        rw [List.drop_append_of_le_length (front.symm ▸ roomy.ordered)]
        rfl

@[simp] theorem content_append (buffer : Buffer) (data : List UInt8) :
    (buffer.append data).content = buffer.content ++ data := by
  rw [append, content_copyIn, content_ensureWritableBytes]

@[simp] theorem content_retrieve (buffer : Buffer) (len : Nat)
    (asserted : len ≤ buffer.readableBytes) :
    (buffer.retrieve len asserted).content = buffer.content.drop len := by
  simp only [content, retrieve, List.drop_drop]

theorem content_eq_nil_iff (buffer : Buffer) :
    buffer.content = [] ↔ buffer.readableBytes = 0 := by
  rw [← length_content, List.length_eq_zero_iff]

@[simp] theorem content_ofSize (size : Nat) : (ofSize size).content = [] := by
  simp [content, ofSize]

/-- `Prepend(data, len)`, with its asserted precondition. -/
def prepend (buffer : Buffer) (data : List UInt8)
    (asserted : data.length ≤ buffer.prependableBytes) : Buffer where
  buf :=
    buffer.buf.take (buffer.readIdx - data.length) ++ data ++ buffer.buf.drop buffer.readIdx
  readIdx := buffer.readIdx - data.length
  writeIdx := buffer.writeIdx
  ordered := (Nat.sub_le _ _).trans buffer.ordered
  inside := by
    have ordered := buffer.ordered
    have inside := buffer.inside
    unfold prependableBytes at asserted
    simp only [List.length_append, List.length_take, List.length_drop]
    omega

/-- `RetrieveAll`. -/
def retrieveAll (buffer : Buffer) : Buffer where
  buf := buffer.buf
  readIdx := 0
  writeIdx := 0
  ordered := Nat.le_refl 0
  inside := Nat.zero_le _

/-- `RetrieveUntil(Peek() + offset)`; both assertions have to hold. -/
def retrieveUntil (buffer : Buffer) (offset : Int)
    (asserted : 0 ≤ offset ∧ offset ≤ buffer.readableBytes) : Buffer :=
  buffer.retrieve offset.toNat (by omega)

/-- `RetrieveAsString(len)`: the `len` bytes from `Peek` on. -/
def retrieveAsString (buffer : Buffer) (len : Nat) (asserted : len ≤ buffer.readableBytes) :
    List UInt8 × Buffer :=
  ((buffer.buf.drop buffer.readIdx).take len, buffer.retrieve len asserted)

/-- `RetrieveAllAsString`. -/
def retrieveAllAsString (buffer : Buffer) : List UInt8 × Buffer :=
  buffer.retrieveAsString buffer.readableBytes (Nat.le_refl _)

/-- `HostToNetLong(host)`, as the bytes that it has in memory. -/
def hostToNetLong (host : UInt32) : List UInt8 :=
  [((host >>> 24) &&& 0xFF).toUInt8, ((host >>> 16) &&& 0xFF).toUInt8,
    ((host >>> 8) &&& 0xFF).toUInt8, (host &&& 0xFF).toUInt8]

/-- `NetToHostLong` of the word that four bytes in memory are. -/
def netToHostLong (b0 b1 b2 b3 : UInt8) : UInt32 :=
  (b0.toUInt32 <<< 24) ||| (b1.toUInt32 <<< 16) ||| (b2.toUInt32 <<< 8) ||| b3.toUInt32

/-- `AppendInt32(x)`. -/
def appendInt32 (buffer : Buffer) (x : Int32) : Buffer :=
  buffer.append (hostToNetLong x.toUInt32)

/-- The `memcpy` of four bytes from `Peek` on, which does not look at the write index. -/
def peekBytes (bytes : List UInt8) : Option Int32 :=
  match bytes with
  | b0 :: b1 :: b2 :: b3 :: _ => some (netToHostLong b0 b1 b2 b3).toInt32
  | _ => none

/-- `PeekInt32`; `none` is a read behind the array. -/
def peekInt32 (buffer : Buffer) : Option Int32 := peekBytes (buffer.buf.drop buffer.readIdx)

theorem content_prepend (buffer : Buffer) (data : List UInt8)
    (asserted : data.length ≤ buffer.prependableBytes) :
    (buffer.prepend data asserted).content = data ++ buffer.content := by
  have ordered := buffer.ordered
  have inside := buffer.inside
  unfold prependableBytes at asserted
  have front : (buffer.buf.take (buffer.readIdx - data.length)).length =
      buffer.readIdx - data.length := by
    rw [List.length_take]
    omega
  have tillWrite : (buffer.prepend data asserted).content =
      ((buffer.buf.take (buffer.readIdx - data.length) ++ (data ++
        buffer.buf.drop buffer.readIdx)).drop (buffer.readIdx - data.length)).take
          (buffer.writeIdx - (buffer.readIdx - data.length)) := by
    simp only [content, prepend, List.drop_take, List.append_assoc]
  rw [tillWrite, List.drop_left' front, List.take_append,
    List.take_of_length_le (by omega), content, List.drop_take]
  congr 2
  omega

@[simp] theorem content_retrieveAll (buffer : Buffer) : buffer.retrieveAll.content = [] := by
  simp [content, retrieveAll]

/-- What `RetrieveAsString` reads is the front of the readable bytes. -/
theorem retrieveAsString_eq (buffer : Buffer) (len : Nat)
    (asserted : len ≤ buffer.readableBytes) :
    buffer.retrieveAsString len asserted =
      (buffer.content.take len, buffer.retrieve len asserted) := by
  have text : (buffer.buf.drop buffer.readIdx).take len = buffer.content.take len := by
    unfold readableBytes at asserted
    rw [content, List.drop_take, List.take_take, Nat.min_eq_left asserted]
  rw [← text]
  rfl

theorem retrieveAllAsString_eq (buffer : Buffer) :
    buffer.retrieveAllAsString =
      (buffer.content, buffer.retrieve buffer.readableBytes (Nat.le_refl _)) := by
  rw [retrieveAllAsString, retrieveAsString_eq, List.take_of_length_le (by simp)]

/-- With four readable bytes `PeekInt32` reads only them. -/
theorem peekInt32_of_readable (buffer : Buffer) (readable : 4 ≤ buffer.readableBytes) :
    buffer.peekInt32 = peekBytes buffer.content := by
  obtain ⟨b0, b1, b2, b3, rest, bytes⟩ : ∃ b0 b1 b2 b3 rest,
      buffer.content = b0 :: b1 :: b2 :: b3 :: rest := by
    rw [← length_content] at readable
    match buffer.content, readable with
    | b0 :: b1 :: b2 :: b3 :: rest, _ => exact ⟨b0, b1, b2, b3, rest, rfl⟩
  have behind : buffer.buf.drop buffer.readIdx =
      buffer.content ++ (buffer.buf.drop buffer.readIdx).drop buffer.readableBytes := by
    rw [content, List.drop_take]
    exact (List.take_append_drop _ _).symm
  rw [peekInt32, behind, bytes]
  rfl

/-- `PeekInt32` undoes `AppendInt32`. -/
theorem peekBytes_hostToNetLong (x : Int32) (behind : List UInt8) :
    peekBytes (hostToNetLong x.toUInt32 ++ behind) = some x := by
  have joined := Foundation.joinBytes32 x.toUInt32
  simp only [hostToNetLong, List.cons_append, List.nil_append, peekBytes, netToHostLong, joined]
  rfl

/-! ### How much array the buffer holds -/

theorem length_buf_ensureWritableBytes (buffer : Buffer) (len : Nat) :
    (buffer.ensureWritableBytes len).buf.length ≤ buffer.buf.length + len := by
  have ordered := buffer.ordered
  have inside := buffer.inside
  unfold ensureWritableBytes
  split
  · exact Nat.le_add_right _ _
  · unfold makeSpace
    split
    · simp only [List.length_append, length_content, List.length_drop, readableBytes]
      omega
    · rw [length_resize]
      omega

/-- Copying into writable space does not change the array's length. -/
theorem length_buf_copyIn (roomy : Buffer) (data : List UInt8)
    (room : data.length ≤ roomy.writableBytes) :
    (roomy.copyIn data).buf.length = roomy.buf.length := by
  have inside := roomy.inside
  unfold writableBytes at room
  simp only [copyIn, List.length_append, List.length_take, List.length_drop]
  omega

theorem length_buf_append (buffer : Buffer) (data : List UInt8) :
    (buffer.append data).buf.length ≤ buffer.buf.length + data.length := by
  rw [append, length_buf_copyIn _ _ (buffer.le_writableBytes_ensureWritableBytes _)]
  exact buffer.length_buf_ensureWritableBytes _

theorem length_buf_prepend (buffer : Buffer) (data : List UInt8)
    (asserted : data.length ≤ buffer.prependableBytes) :
    (buffer.prepend data asserted).buf.length = buffer.buf.length := by
  have ordered := buffer.ordered
  have inside := buffer.inside
  unfold prependableBytes at asserted
  simp only [prepend, List.length_append, List.length_take, List.length_drop]
  omega

end Buffer

end TurboCore.Net
