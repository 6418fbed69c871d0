import Mathlib
import TurboCore.Foundation.Fallible
import TurboCore.Net.ScatterRead

/-!
# Reading into a buffer, with machine words

`Buffer::ReadFromFd` on Linux over `size_t` indices that wrap modulo `2 ^ 64`. The result
of `readv` is signed; the source converts it to `size_t` before it looks at its sign
again, so the words are kept here and not the numbers of `Buffer`.
-/

namespace TurboCore.Net

open Foundation

/-- `Buffer` as its members are: an array and two words. -/
@[ext]
structure RawBuffer where
  buf : List UInt8
  readIdx : UInt64
  writeIdx : UInt64
deriving DecidableEq

/-- How a call does not return. -/
inductive ReadFailure where
  /-- `std::length_error` of `resize` -/
  | lengthError
  /-- a failed `assert` -/
  | assertion
  /-- a `std::copy` beyond its arrays that ends the process -/
  | crashed
deriving DecidableEq

/-- What `readv` did: its result, `errno`, and the bytes it stored, in the order of the
two vectors. -/
structure Readv where
  result : Int64
  errno : Int32
  bytes : List UInt8

/-- What a `std::copy` that leaves its arrays makes of the destination, `none` if the
process does not survive it. The language says nothing about it. -/
abbrev WildCopy := List UInt8 → Option (List UInt8)

/-- `std::vector<char>::max_size()`. -/
def maxSize : Nat := 2 ^ 63 - 1

/-- Write bytes over an array from an index on. -/
def overwrite (buf : List UInt8) (index : Nat) (bytes : List UInt8) : List UInt8 :=
  buf.take index ++ bytes ++ buf.drop (index + bytes.length)

/-- A successful `readv` into a buffer's vectors: it stores as many bytes as its result
says, and no more than the vectors hold. -/
structure Readv.Delivers (readv : Readv) (buffer : Buffer) : Prop where
  result : readv.result.toUInt64 = UInt64.ofNat readv.bytes.length
  notNegative : ¬ readv.result < 0
  room : readv.bytes.length ≤ buffer.writableBytes ∨
    buffer.writableBytes < extrabufSize ∧
      readv.bytes.length ≤ buffer.writableBytes + extrabufSize

theorem Readv.Delivers.receives {readv : Readv} {buffer : Buffer}
    (delivers : readv.Delivers buffer) : buffer.Receives readv.bytes := by
  unfold Buffer.Receives Buffer.iovLengths
  split
  · have room := delivers.room
    simp only [List.sum_cons, List.sum_nil, Nat.add_zero]
    omega
  · have room := delivers.room
    simp only [List.sum_cons, List.sum_nil, Nat.add_zero]
    omega

namespace RawBuffer

def size (buffer : RawBuffer) : UInt64 := UInt64.ofNat buffer.buf.length

def readableBytes (buffer : RawBuffer) : UInt64 := buffer.writeIdx - buffer.readIdx

def writableBytes (buffer : RawBuffer) : UInt64 := buffer.size - buffer.writeIdx

def prependableBytes (buffer : RawBuffer) : UInt64 := buffer.readIdx

/-- `m_buf.resize(size)`. -/
def resize (buffer : RawBuffer) (size : UInt64) : Except ReadFailure RawBuffer :=
  if maxSize < size.toNat then .error .lengthError
  else .ok { buffer with buf := Buffer.resize buffer.buf size.toNat }

/-- `MakeSpace(len)`. -/
def makeSpace (buffer : RawBuffer) (len : UInt64) : Except ReadFailure RawBuffer :=
  if len ≤ buffer.prependableBytes + buffer.writableBytes then
    let readable := (buffer.buf.take buffer.writeIdx.toNat).drop buffer.readIdx.toNat
    .ok ⟨overwrite buffer.buf 0 readable, 0, buffer.readableBytes⟩
  else buffer.resize (buffer.writeIdx + len)

/-- `EnsureWritableBytes(len)`. -/
def ensureWritableBytes (buffer : RawBuffer) (len : UInt64) : Except ReadFailure RawBuffer :=
  if len ≤ buffer.writableBytes then .ok buffer
  else do
    let roomy ← buffer.makeSpace len
    if len ≤ roomy.writableBytes then .ok roomy else .error .assertion

/-- `Append(data, len)`, `data` pointing to an array that is given whole. -/
def append (wild : WildCopy) (buffer : RawBuffer) (data : List UInt8) (len : UInt64) :
    Except ReadFailure RawBuffer := do
  let roomy ← buffer.ensureWritableBytes len
  if len.toNat ≤ data.length ∧ roomy.writeIdx.toNat + len.toNat ≤ roomy.buf.length then
    .ok { roomy with
      buf := overwrite roomy.buf roomy.writeIdx.toNat (data.take len.toNat)
      writeIdx := roomy.writeIdx + len }
  else
    match wild roomy.buf with
    | none => .error .crashed
    | some buf => .ok { roomy with buf, writeIdx := roomy.writeIdx + len }

/-- `m_buf` after `readv`: the kernel fills it from the write index on. -/
def filled (buffer : RawBuffer) (bytes : List UInt8) : RawBuffer :=
  { buffer with
    buf := overwrite buffer.buf buffer.writeIdx.toNat (bytes.take buffer.writableBytes.toNat) }

/-- `extrabuf` after `readv`: the bytes that did not fit into `m_buf`. -/
def extrabuf (buffer : RawBuffer) (bytes : List UInt8) : List UInt8 :=
  overwrite (List.replicate extrabufSize 0) 0 (bytes.drop buffer.writableBytes.toNat)

/-- The end of `ReadFromFd`: with `n` as a `size_t`, either the write index moves or the
rest in `extrabuf` is appended. `writable` was taken before `readv`. -/
def takeIn (wild : WildCopy) (buffer : RawBuffer) (bytes : List UInt8) (n : Int64) :
    Except ReadFailure RawBuffer :=
  let writable := buffer.writableBytes
  let filled := buffer.filled bytes
  if n.toUInt64 ≤ writable then .ok { filled with writeIdx := filled.writeIdx + n.toUInt64 }
  else
    append wild { filled with writeIdx := filled.size } (buffer.extrabuf bytes)
      (n.toUInt64 - writable)

/-- `ReadFromFd(fd, saved_errno)`: the result, `*saved_errno` and the buffer after it. -/
def readFromFd (wild : WildCopy) (buffer : RawBuffer) (readv : Readv) (savedErrno : Int32) :
    Except ReadFailure (Int64 × Int32 × RawBuffer) := do
  let n := readv.result
  let savedErrno := if n < 0 then readv.errno else savedErrno
  let after ← buffer.takeIn wild readv.bytes n
  return (n, savedErrno, after)

/-- A buffer in good order, with its indices as words. -/
def ofBuffer (buffer : Buffer) : RawBuffer :=
  ⟨buffer.buf, UInt64.ofNat buffer.readIdx, UInt64.ofNat buffer.writeIdx⟩

section Agreement

variable {buffer : Buffer}

theorem length_overwrite {buf bytes : List UInt8} {index : Nat}
    (room : index + bytes.length ≤ buf.length) :
    (overwrite buf index bytes).length = buf.length := by
  simp only [overwrite, List.length_append, List.length_take, List.length_drop]
  omega

theorem toNat_ofNat_of_le {value : Nat} (fits : value ≤ maxSize) :
    (UInt64.ofNat value).toNat = value := by
  apply UInt64.toNat_ofNat_of_lt'
  simp only [maxSize, UInt64.size] at *
  omega

/-- The word arithmetic of a buffer in good order is that of its numbers. -/
theorem toNat_writableBytes (fits : buffer.buf.length ≤ maxSize) :
    (ofBuffer buffer).writableBytes.toNat = buffer.writableBytes := by
  have inside := buffer.inside
  have sizeWord := toNat_ofNat_of_le fits
  have indexWord := toNat_ofNat_of_le (inside.trans fits)
  unfold writableBytes Buffer.writableBytes size ofBuffer
  rw [UInt64.toNat_sub_of_le, sizeWord, indexWord]
  rw [UInt64.le_iff_toNat_le, sizeWord, indexWord]
  exact inside

/-- A comparison of words that stand for numbers below the limit. -/
theorem ofNat_le_iff {left : Nat} {right : UInt64} (fits : left ≤ maxSize) :
    UInt64.ofNat left ≤ right ↔ left ≤ right.toNat := by
  rw [UInt64.le_iff_toNat_le, toNat_ofNat_of_le fits]

theorem ofNat_sub_ofNat {whole part : Nat} (part_le : part ≤ whole) :
    UInt64.ofNat whole - UInt64.ofNat part = UInt64.ofNat (whole - part) :=
  (UInt64.ofNat_sub part_le).symm

/-- `MakeSpace`, as long as the grown array stays below the limit. -/
theorem makeSpace_ofBuffer {len : Nat} (fits : buffer.buf.length + len ≤ maxSize) :
    (ofBuffer buffer).makeSpace (UInt64.ofNat len) = .ok (ofBuffer (buffer.makeSpace len)) := by
  have ordered := buffer.ordered
  have inside := buffer.inside
  have limit : maxSize = 9223372036854775807 := by decide
  have readWord : (UInt64.ofNat buffer.readIdx).toNat = buffer.readIdx :=
    toNat_ofNat_of_le (by omega)
  have writeWord : (UInt64.ofNat buffer.writeIdx).toNat = buffer.writeIdx :=
    toNat_ofNat_of_le (by omega)
  have free : ((ofBuffer buffer).prependableBytes + (ofBuffer buffer).writableBytes).toNat =
      buffer.prependableBytes + buffer.writableBytes := by
    rw [UInt64.toNat_add, toNat_writableBytes (by omega)]
    simp only [prependableBytes, ofBuffer, readWord, Buffer.prependableBytes,
      Buffer.writableBytes]
    omega
  have words : UInt64.ofNat len ≤
      (ofBuffer buffer).prependableBytes + (ofBuffer buffer).writableBytes ↔ _ :=
    ofNat_le_iff (by omega)
  rw [free] at words
  unfold makeSpace Buffer.makeSpace
  by_cases front : len ≤ buffer.prependableBytes + buffer.writableBytes
  · rw [if_pos (words.mpr front), if_pos front]
    simp only [ofBuffer, readableBytes, readWord, writeWord, overwrite, List.take_zero,
      List.nil_append, Nat.zero_add, Except.ok.injEq, RawBuffer.mk.injEq]
    refine ⟨?_, rfl, (ofNat_sub_ofNat ordered)⟩
    rw [show (buffer.buf.take buffer.writeIdx).drop buffer.readIdx = buffer.content from rfl,
      Buffer.length_content]
  · rw [if_neg (fun less => front (words.mp less)), if_neg front]
    have target : ((ofBuffer buffer).writeIdx + UInt64.ofNat len).toNat =
        buffer.writeIdx + len := by
      rw [UInt64.toNat_add, toNat_ofNat_of_le (by omega)]
      simp only [ofBuffer, writeWord]
      omega
    rw [resize, target, if_neg (by omega)]
    rfl

theorem length_ensureWritableBytes {len : Nat} (fits : buffer.buf.length + len ≤ maxSize) :
    (buffer.ensureWritableBytes len).buf.length ≤ maxSize := by
  have ordered := buffer.ordered
  have inside := buffer.inside
  unfold Buffer.ensureWritableBytes Buffer.makeSpace
  split_ifs
  · omega
  · simp only [List.length_append, Buffer.length_content, List.length_drop,
      Buffer.readableBytes]
    omega
  · simp only [Buffer.length_resize]
    omega

theorem ensureWritableBytes_ofBuffer {len : Nat} (fits : buffer.buf.length + len ≤ maxSize) :
    (ofBuffer buffer).ensureWritableBytes (UInt64.ofNat len) =
      .ok (ofBuffer (buffer.ensureWritableBytes len)) := by
  have words : UInt64.ofNat len ≤ (ofBuffer buffer).writableBytes ↔ _ :=
    ofNat_le_iff (by omega)
  rw [toNat_writableBytes (by omega)] at words
  unfold ensureWritableBytes
  by_cases enough : len ≤ buffer.writableBytes
  · rw [if_pos (words.mpr enough), Buffer.ensureWritableBytes, if_pos enough]
  · rw [if_neg (fun less => enough (words.mp less)), makeSpace_ofBuffer fits]
    have asserted := buffer.le_writableBytes_ensureWritableBytes len
    have madeSpace : buffer.ensureWritableBytes len = buffer.makeSpace len := by
      rw [Buffer.ensureWritableBytes, if_neg enough]
    have length := length_ensureWritableBytes fits
    rw [madeSpace] at asserted length ⊢
    refine bind_eq_ok.mpr ⟨_, rfl, if_pos ?_⟩
    rw [ofNat_le_iff (by omega), toNat_writableBytes length]
    exact asserted

/-- `Append` of the first `len` bytes of an array. -/
theorem append_ofBuffer (wild : WildCopy) {array : List UInt8} {len : Nat}
    (available : len ≤ array.length) (fits : buffer.buf.length + len ≤ maxSize) :
    (ofBuffer buffer).append wild array (UInt64.ofNat len) =
      .ok (ofBuffer (buffer.append (array.take len))) := by
  have lenWord : (UInt64.ofNat len).toNat = len := toNat_ofNat_of_le (by omega)
  have taken : (array.take len).length = len := by
    rw [List.length_take]
    omega
  have asserted := buffer.le_writableBytes_ensureWritableBytes len
  have ordered := (buffer.ensureWritableBytes len).ordered
  have inside := (buffer.ensureWritableBytes len).inside
  have length := length_ensureWritableBytes fits
  have indexWord : (ofBuffer (buffer.ensureWritableBytes len)).writeIdx.toNat =
      (buffer.ensureWritableBytes len).writeIdx := toNat_ofNat_of_le (inside.trans length)
  refine bind_eq_ok.mpr ⟨_, ensureWritableBytes_ofBuffer fits, ?_⟩
  rw [lenWord, indexWord, if_pos]
  · unfold Buffer.append
    rw [taken]
    simp only [ofBuffer, Buffer.copyIn, overwrite, taken, UInt64.ofNat_add]
  · unfold Buffer.writableBytes at asserted
    exact ⟨available, by simp only [ofBuffer]; omega⟩

/-- The bytes that the kernel stores behind the write index keep the array's length. -/
theorem length_filled (fits : buffer.buf.length ≤ maxSize) (bytes : List UInt8) :
    ((ofBuffer buffer).filled bytes).buf.length = buffer.buf.length := by
  have inside := buffer.inside
  have indexWord : (ofBuffer buffer).writeIdx.toNat = buffer.writeIdx :=
    toNat_ofNat_of_le (inside.trans fits)
  unfold filled
  change (overwrite buffer.buf _ _).length = buffer.buf.length
  apply length_overwrite
  rw [toNat_writableBytes fits, indexWord, List.length_take, Buffer.writableBytes]
  omega

/-- The kernel fills the array with what fits, as a copy at the write index does. -/
theorem buf_filled (fits : buffer.buf.length ≤ maxSize) (bytes : List UInt8) :
    ((ofBuffer buffer).filled bytes).buf =
      (buffer.copyIn (bytes.take buffer.writableBytes)).buf := by
  have indexWord : (ofBuffer buffer).writeIdx.toNat = buffer.writeIdx :=
    toNat_ofNat_of_le (buffer.inside.trans fits)
  unfold filled
  rw [toNat_writableBytes fits, indexWord]
  rfl

/-- With more bytes than the array takes, its end is the new write index. -/
theorem filled_of_beyond (fits : buffer.buf.length ≤ maxSize) {bytes : List UInt8}
    (beyond : buffer.writableBytes < bytes.length) :
    ({ (ofBuffer buffer).filled bytes with
      writeIdx := ((ofBuffer buffer).filled bytes).size } : RawBuffer) =
      ofBuffer (buffer.copyIn (bytes.take buffer.writableBytes)) := by
  have inside := buffer.inside
  have reached : (buffer.copyIn (bytes.take buffer.writableBytes)).writeIdx =
      buffer.writeIdx + (bytes.take buffer.writableBytes).length := rfl
  have front : (bytes.take buffer.writableBytes).length = buffer.writableBytes := by
    rw [List.length_take]
    omega
  apply RawBuffer.ext
  · exact buf_filled fits bytes
  · rfl
  · change ((ofBuffer buffer).filled bytes).size = UInt64.ofNat _
    rw [size, length_filled fits, reached, front, Buffer.writableBytes,
      Nat.add_sub_cancel' inside]

/-- The other array holds the rest, and at least as many bytes. -/
theorem extrabuf_of_beyond (fits : buffer.buf.length ≤ maxSize) {bytes : List UInt8}
    (bound : bytes.length ≤ buffer.writableBytes + extrabufSize) :
    ((ofBuffer buffer).extrabuf bytes).take (bytes.length - buffer.writableBytes) =
        bytes.drop buffer.writableBytes ∧
      bytes.length - buffer.writableBytes ≤ ((ofBuffer buffer).extrabuf bytes).length := by
  have rest : (bytes.drop buffer.writableBytes).length = bytes.length - buffer.writableBytes :=
    List.length_drop
  rw [extrabuf, toNat_writableBytes fits]
  constructor
  · rw [overwrite, List.take_zero, List.nil_append, ← rest, List.take_left]
  · rw [length_overwrite] <;> simp only [List.length_replicate, rest] <;> omega

end Agreement

/-! ## A read that succeeds -/

/-- The words of a successful read are those of the read over numbers, and `*saved_errno`
stays. -/
theorem readFromFd_ofBuffer (wild : WildCopy) {buffer : Buffer}
    (fits : buffer.buf.length + extrabufSize ≤ maxSize) {readv : Readv}
    (delivers : readv.Delivers buffer) (savedErrno : Int32) :
    (ofBuffer buffer).readFromFd wild readv savedErrno =
      .ok (readv.result, savedErrno, ofBuffer (buffer.readFromFd readv.bytes).2) := by
  have inside := buffer.inside
  have small : extrabufSize = 65536 := rfl
  have arrayFits : buffer.buf.length ≤ maxSize := by omega
  have room : readv.bytes.length ≤ buffer.writableBytes + extrabufSize := by
    have room := delivers.room
    omega
  have writable : (ofBuffer buffer).writableBytes.toNat = buffer.writableBytes :=
    toNat_writableBytes arrayFits
  have words : UInt64.ofNat readv.bytes.length ≤ (ofBuffer buffer).writableBytes ↔
      readv.bytes.length ≤ buffer.writableBytes := by
    unfold Buffer.writableBytes at room
    rw [ofNat_le_iff (by omega), writable]
  simp only [readFromFd, if_neg delivers.notNegative, buffer.readFromFd_eq delivers.receives]
  refine bind_eq_ok.mpr ⟨_, ?_, rfl⟩
  by_cases within : readv.bytes.length ≤ buffer.writableBytes
  · simp only [takeIn, delivers.result, words.mpr within, if_pos within, if_true]
    have stored := buf_filled arrayFits readv.bytes
    rw [List.take_of_length_le within] at stored
    rw [stored]
    simp only [filled, ofBuffer, Buffer.copyIn, UInt64.ofNat_add]
  · -- the array is full, and the bytes beyond it come from `extrabuf`
    let full := buffer.copyIn (readv.bytes.take buffer.writableBytes)
    obtain ⟨extra, available⟩ := extrabuf_of_beyond arrayFits room
    have fullLength : full.buf.length = buffer.buf.length :=
      (congrArg List.length (buf_filled arrayFits readv.bytes)).symm.trans
        (length_filled arrayFits readv.bytes)
    have appended := append_ofBuffer wild available (by omega : full.buf.length + _ ≤ maxSize)
    rw [extra] at appended
    have wrapped : UInt64.ofNat readv.bytes.length - (ofBuffer buffer).writableBytes =
        UInt64.ofNat (readv.bytes.length - buffer.writableBytes) := by
      rw [← ofNat_sub_ofNat (by omega), ← writable, UInt64.ofNat_toNat]
    simp only [takeIn, delivers.result]
    rw [if_neg fun less => within (words.mp less), if_neg within, wrapped,
      filled_of_beyond arrayFits (by omega), appended]

/-- A successful read, in every regime: the received bytes stand in order behind the old
content, the indices are in order, and their number is returned. With words it is the same
read as long as the array and the second array together stay below the vector's limit. -/
theorem successful_read_appends_received (buffer : Buffer) (bytes : List UInt8)
    (received : buffer.Receives bytes) :
    (buffer.readFromFd bytes).1 = bytes.length ∧
      (buffer.readFromFd bytes).2.content = buffer.content ++ bytes ∧
      (buffer.readFromFd bytes).2.readIdx ≤ (buffer.readFromFd bytes).2.writeIdx ∧
      (buffer.readFromFd bytes).2.writeIdx ≤ (buffer.readFromFd bytes).2.buf.length ∧
      ∀ (wild : WildCopy) (readv : Readv) (savedErrno : Int32),
        readv.bytes = bytes → readv.Delivers buffer →
        buffer.buf.length + extrabufSize ≤ maxSize →
        (ofBuffer buffer).readFromFd wild readv savedErrno =
          .ok (readv.result, savedErrno, ofBuffer (buffer.readFromFd bytes).2) := by
  refine ⟨?_, buffer.content_readFromFd received, (buffer.readFromFd bytes).2.ordered,
    (buffer.readFromFd bytes).2.inside, ?_⟩
  · rw [buffer.readFromFd_eq received]
  · rintro wild readv savedErrno rfl delivers fits
    exact readFromFd_ofBuffer wild fits delivers savedErrno

/-- Ten bytes into four writable ones behind six read ones: the rest comes from the
second array, and the content moves to the front. -/
theorem read_beyond_array_appends :
    let buffer : Buffer := ⟨List.replicate 12 7, 6, 8, by decide, by decide⟩
    let bytes : List UInt8 := [1, 2, 3, 4, 5, 6, 7, 8, 9, 10]
    (buffer.readFromFd bytes).1 = 10 ∧
      (buffer.readFromFd bytes).2.content = [7, 7] ++ bytes :=
  have appended := successful_read_appends_received
    ⟨List.replicate 12 7, 6, 8, by decide, by decide⟩ [1, 2, 3, 4, 5, 6, 7, 8, 9, 10]
    (by unfold Buffer.Receives; decide)
  ⟨appended.1, appended.2.1⟩

/-! ## A read that fails -/

/-- An append moves the write index by the length, from where it was or, when the content
goes to the front, from the end of the content. -/
theorem writeIdx_append {wild : WildCopy} {buffer after : RawBuffer} {data : List UInt8}
    {len : UInt64} (appended : buffer.append wild data len = .ok after) :
    after.writeIdx = buffer.writeIdx + len ∨
      after.readIdx = 0 ∧ ¬ len ≤ buffer.writableBytes ∧
        len ≤ buffer.prependableBytes + buffer.writableBytes ∧
        after.writeIdx = buffer.readableBytes + len := by
  obtain ⟨roomy, ensured, copied⟩ := bind_eq_ok.mp appended
  have indices : after.readIdx = roomy.readIdx ∧ after.writeIdx = roomy.writeIdx + len := by
    split at copied
    · cases copied
      exact ⟨rfl, rfl⟩
    · split at copied <;> cases copied
      exact ⟨rfl, rfl⟩
  rw [indices.1, indices.2]
  unfold ensureWritableBytes at ensured
  split_ifs at ensured with enough
  · cases ensured
    exact .inl rfl
  · obtain ⟨made, space, asserted⟩ := bind_eq_ok.mp ensured
    split_ifs at asserted
    cases asserted
    unfold makeSpace resize at space
    split_ifs at space with front
    · cases space
      exact .inr ⟨rfl, enough, front, rfl⟩
    · cases space
      exact .inl rfl

/-- A negative result is not the word zero. -/
theorem toUInt64_ne_zero_of_neg {n : Int64} (negative : n < 0) : n.toUInt64 ≠ 0 := by
  intro zero
  have back := congrArg UInt64.toInt64 zero
  simp only [Int64.toInt64_toUInt64] at back
  subst back
  exact absurd negative (by decide)

/-- Whatever the buffer, the failure and the wild copy, a failed read never returns with
the buffer as it was: the write index moves by the negative result, or nothing returns. -/
theorem failed_read_never_leaves_buffer (wild : WildCopy) (buffer : Buffer)
    (fits : buffer.buf.length ≤ maxSize) (readv : Readv) (failed : readv.result < 0)
    (savedErrno : Int32) :
    (ofBuffer buffer).readFromFd wild readv savedErrno ≠
      .ok (readv.result, readv.errno, ofBuffer buffer) := by
  intro returned
  have nonzero := toUInt64_ne_zero_of_neg failed
  have sameSize : ((ofBuffer buffer).filled readv.bytes).size = (ofBuffer buffer).size := by
    rw [size, length_filled fits]
    rfl
  obtain ⟨after, moved, result⟩ := bind_eq_ok.mp returned
  rw [pure_eq_ok, Prod.mk.injEq, Prod.mk.injEq] at result
  obtain ⟨-, -, rfl⟩ := result
  simp only [takeIn] at moved
  split_ifs at moved with within
  · have index := congrArg RawBuffer.writeIdx (Except.ok.inj moved)
    -- the index itself moved by the negative result
    have stays : (ofBuffer buffer).writeIdx + readv.result.toUInt64 = (ofBuffer buffer).writeIdx :=
      index
    grind
  · rcases writeIdx_append moved with index | ⟨front, short, room, -⟩
    · -- the array was cut or grown to the index plus the negative result
      rw [sameSize, writableBytes] at index
      grind
    · -- the content would move only from behind a gap as wide as the wrapped length
      have start : (ofBuffer buffer).readIdx = 0 := front
      have noGap : ((ofBuffer buffer).filled readv.bytes).readIdx = 0 := start
      simp only [prependableBytes, writableBytes, size] at short room
      rw [noGap] at room
      grind

/-- A connection reset on a buffer that has received nothing: `ECONNRESET`. -/
def connectionReset : Readv := ⟨-1, 104, []⟩

/-- A reset before the first byte: `resize` is asked for `2 ^ 64 - 1` bytes and throws. -/
theorem reset_throws_from_read :
    ¬ ∀ (wild : WildCopy) (buffer : Buffer) (readv : Readv) (savedErrno : Int32),
      buffer.buf.length ≤ maxSize → readv.result < 0 →
      (ofBuffer buffer).readFromFd wild readv savedErrno =
        .ok (readv.result, readv.errno, ofBuffer buffer) := by
  intro always
  have returned := always (fun _ => none) (Buffer.ofSize Buffer.initialSize) connectionReset 0
    (by decide +kernel) (by decide)
  have thrown : ((ofBuffer (Buffer.ofSize Buffer.initialSize)).readFromFd (fun _ => none)
      connectionReset 0).toOption.isNone = true := by decide +kernel
  rw [returned] at thrown
  cases thrown

/-- The reset on a fresh buffer does not return with it. -/
theorem reset_never_leaves_fresh_buffer :
    (ofBuffer (Buffer.ofSize Buffer.initialSize)).readFromFd some connectionReset 0 ≠
      .ok (-1, 104, ofBuffer (Buffer.ofSize Buffer.initialSize)) :=
  failed_read_never_leaves_buffer some _ (by decide +kernel) connectionReset (by decide) 0

end RawBuffer

end TurboCore.Net
