import Mathlib
import TurboCore.Foundation.Simulation
import TurboCore.Net.Buffer

/-!
# The buffer as a byte queue

The purpose of `Buffer` is a queue of bytes that also grows at its front. The queue has
no indices and no capacity; the buffer simulates it through `content`, operation by
operation and answer by answer, and never holds more array than the sizes asked for.
-/

namespace TurboCore.Net

open Foundation

/-- The calls on a buffer. The `Append` overloads differ in the type of their bytes only,
and the pointer of `RetrieveUntil` is given by its distance from `Peek()`. -/
inductive BufferOp where
  | append (data : List UInt8)
  | appendInt32 (x : Int32)
  | prepend (data : List UInt8)
  | ensureWritableBytes (len : Nat)
  | retrieve (len : Nat)
  | retrieveUntil (offset : Int)
  | retrieveAll
  | retrieveAsString (len : Nat)
  | retrieveAllAsString
  | peekInt32
deriving DecidableEq

/-- What a call returns. -/
inductive BufferAnswer where
  | text (bytes : List UInt8)
  | int32 (x : Int32)
deriving DecidableEq

/-- The bytes that a call asks the buffer to make room for. -/
def BufferOp.size : BufferOp → Nat
  | append data | prepend data => data.length
  | appendInt32 _ => 4
  | ensureWritableBytes len => len
  | retrieve _ | retrieveUntil _ | retrieveAll | retrieveAsString _ | retrieveAllAsString
  | peekInt32 => 0

/-- A buffer, and what its calls have returned. -/
structure BufferRun where
  buffer : Buffer
  answers : List BufferAnswer

def BufferRun.ofSize (size : Nat) : BufferRun := ⟨.ofSize size, []⟩

/-- The calls whose asserted preconditions hold; `PeekInt32` needs four readable bytes. -/
def bufferMachine : Machine BufferRun BufferOp where
  step run
    | .append data => some { run with buffer := run.buffer.append data }
    | .appendInt32 x => some { run with buffer := run.buffer.appendInt32 x }
    | .prepend data =>
        if asserted : data.length ≤ run.buffer.prependableBytes then
          some { run with buffer := run.buffer.prepend data asserted }
        else none
    | .ensureWritableBytes len => some { run with buffer := run.buffer.ensureWritableBytes len }
    | .retrieve len =>
        if asserted : len ≤ run.buffer.readableBytes then
          some { run with buffer := run.buffer.retrieve len asserted }
        else none
    | .retrieveUntil offset =>
        if asserted : 0 ≤ offset ∧ offset ≤ run.buffer.readableBytes then
          some { run with buffer := run.buffer.retrieveUntil offset asserted }
        else none
    | .retrieveAll => some { run with buffer := run.buffer.retrieveAll }
    | .retrieveAsString len =>
        if asserted : len ≤ run.buffer.readableBytes then
          let retrieved := run.buffer.retrieveAsString len asserted
          some ⟨retrieved.2, run.answers ++ [.text retrieved.1]⟩
        else none
    | .retrieveAllAsString =>
        let retrieved := run.buffer.retrieveAllAsString
        some ⟨retrieved.2, run.answers ++ [.text retrieved.1]⟩
    | .peekInt32 =>
        if 4 ≤ run.buffer.readableBytes then
          run.buffer.peekInt32.map fun x => { run with answers := run.answers ++ [.int32 x] }
        else none

/-- The abstract queue, and what its calls have returned. -/
structure ByteQueue where
  bytes : List UInt8
  answers : List BufferAnswer

namespace ByteQueue

def empty : ByteQueue := ⟨[], []⟩

/-- Give the first bytes away, when there are that many. -/
def take (queue : ByteQueue) (len : Nat) : Option (List UInt8 × ByteQueue) :=
  if len ≤ queue.bytes.length then
    some (queue.bytes.take len, { queue with bytes := queue.bytes.drop len })
  else none

def answer (queue : ByteQueue) (answer : BufferAnswer) : ByteQueue :=
  { queue with answers := queue.answers ++ [answer] }

end ByteQueue

/-- What the calls mean for a queue of bytes. -/
def queueMachine : Machine ByteQueue BufferOp where
  step queue
    | .append data => some { queue with bytes := queue.bytes ++ data }
    | .appendInt32 x =>
        some { queue with bytes := queue.bytes ++ Buffer.hostToNetLong x.toUInt32 }
    | .prepend data => some { queue with bytes := data ++ queue.bytes }
    | .ensureWritableBytes _ => some queue
    | .retrieve len => (queue.take len).map Prod.snd
    | .retrieveUntil offset => if 0 ≤ offset then (queue.take offset.toNat).map Prod.snd else none
    | .retrieveAll => some { queue with bytes := [] }
    | .retrieveAsString len => (queue.take len).map fun (front, rest) => rest.answer (.text front)
    | .retrieveAllAsString => some ({ queue with bytes := [] }.answer (.text queue.bytes))
    | .peekInt32 => (Buffer.peekBytes queue.bytes).map fun x => queue.answer (.int32 x)

/-- The buffer's readable bytes and answers are the queue's. -/
def Represents (run : BufferRun) (queue : ByteQueue) : Prop :=
  queue = ⟨run.buffer.content, run.answers⟩

/-- Every call that the buffer takes is the call of the same name on the queue. -/
theorem queue_simulates_buffer : queueMachine.Simulates bufferMachine id Represents where
  step := by
    rintro run queue op next rfl transition
    refine ⟨_, ?_, rfl⟩
    cases op with
    | append data =>
        cases transition
        simp [queueMachine]
    | appendInt32 x =>
        cases transition
        simp [queueMachine, Buffer.appendInt32]
    | prepend data =>
        simp only [bufferMachine, Option.dite_none_right_eq_some, Option.some.injEq] at transition
        obtain ⟨asserted, rfl⟩ := transition
        simp [queueMachine, Buffer.content_prepend]
    | ensureWritableBytes len =>
        cases transition
        simp [queueMachine]
    | retrieve len =>
        simp only [bufferMachine, Option.dite_none_right_eq_some, Option.some.injEq] at transition
        obtain ⟨asserted, rfl⟩ := transition
        simp [queueMachine, ByteQueue.take, asserted]
    | retrieveUntil offset =>
        simp only [bufferMachine, Option.dite_none_right_eq_some, Option.some.injEq] at transition
        obtain ⟨asserted, rfl⟩ := transition
        simp [queueMachine, ByteQueue.take, Buffer.retrieveUntil, asserted.1, asserted.2]
    | retrieveAll =>
        cases transition
        simp [queueMachine]
    | retrieveAsString len =>
        simp only [bufferMachine, Option.dite_none_right_eq_some, Option.some.injEq] at transition
        obtain ⟨asserted, rfl⟩ := transition
        simp [queueMachine, ByteQueue.take, ByteQueue.answer, asserted,
          Buffer.retrieveAsString_eq]
    | retrieveAllAsString =>
        cases transition
        have nothing : run.buffer.content.drop run.buffer.readableBytes = [] :=
          List.drop_of_length_le (by simp)
        simp [queueMachine, ByteQueue.answer, Buffer.retrieveAllAsString_eq, nothing]
    | peekInt32 =>
        simp only [bufferMachine, Option.ite_none_right_eq_some, Option.map_eq_some_iff]
          at transition
        obtain ⟨readable, x, peeked, rfl⟩ := transition
        rw [Buffer.peekInt32_of_readable _ readable] at peeked
        simp [queueMachine, ByteQueue.answer, peeked]

/-- The array holds no more than the initial size and the sizes asked for. -/
theorem length_buf_le {size : Nat} {ops : List BufferOp} {run : BufferRun}
    (executed : bufferMachine.AnyRun (.ofSize size) ops run) :
    run.buffer.buf.length ≤ size + (ops.map BufferOp.size).sum := by
  induction executed with
  | nil => simp [BufferRun.ofSize, Buffer.ofSize]
  | @snoc _ run next op _ _ transition inductionHypothesis =>
      rw [List.map_append, List.sum_append, ← Nat.add_assoc]
      have grows : next.buffer.buf.length ≤ run.buffer.buf.length + op.size := by
        cases op with
        | append data =>
            cases transition
            exact run.buffer.length_buf_append data
        | appendInt32 x =>
            cases transition
            exact run.buffer.length_buf_append (Buffer.hostToNetLong x.toUInt32)
        | prepend data =>
            simp only [bufferMachine, Option.dite_none_right_eq_some, Option.some.injEq]
              at transition
            obtain ⟨asserted, rfl⟩ := transition
            rw [Buffer.length_buf_prepend]
            exact Nat.le_add_right _ _
        | ensureWritableBytes len =>
            cases transition
            exact run.buffer.length_buf_ensureWritableBytes len
        | retrieveAll | retrieveAllAsString =>
            cases transition
            exact Nat.le_add_right _ _
        | retrieve _ | retrieveUntil _ | retrieveAsString _ =>
            simp only [bufferMachine, Option.dite_none_right_eq_some, Option.some.injEq]
              at transition
            obtain ⟨_, rfl⟩ := transition
            exact Nat.le_add_right _ _
        | peekInt32 =>
            simp only [bufferMachine, Option.ite_none_right_eq_some, Option.map_eq_some_iff]
              at transition
            obtain ⟨_, _, _, rfl⟩ := transition
            exact Nat.le_add_right _ _
      simp only [List.map_cons, List.map_nil, List.sum_cons, List.sum_nil, Nat.add_zero]
      omega

/-- What the calls of a run have made of a buffer: its indices are in order inside an array
that is no longer than the sizes asked for, it has answered and it holds what the queue
does, it makes the room it is asked for, and of appended integers it shows the oldest. -/
structure RefinesQueue (size : Nat) (ops : List BufferOp) (run : BufferRun) : Prop where
  ordered : run.buffer.readIdx ≤ run.buffer.writeIdx
  inside : run.buffer.writeIdx ≤ run.buffer.buf.length
  fits : run.buffer.buf.length ≤ size + (ops.map BufferOp.size).sum
  queue : queueMachine.AnyRun .empty ops ⟨run.buffer.content, run.answers⟩
  writable : ∀ len, (run.buffer.ensureWritableBytes len).content = run.buffer.content ∧
    len ≤ (run.buffer.ensureWritableBytes len).writableBytes
  oldest : ∀ (xs : List Int32) (x : Int32),
    run.buffer.content = xs.flatMap (fun y => Buffer.hostToNetLong y.toUInt32) →
    (run.buffer.appendInt32 x).peekInt32 = (xs ++ [x]).head?

/-- `PeekInt32` after `AppendInt32(x)` on appended integers shows the oldest. -/
theorem peekInt32_appendInt32 {buffer : Buffer} {xs : List Int32} (x : Int32)
    (integers : buffer.content = xs.flatMap fun y => Buffer.hostToNetLong y.toUInt32) :
    (buffer.appendInt32 x).peekInt32 = (xs ++ [x]).head? := by
  have content : (buffer.appendInt32 x).content =
      (xs ++ [x]).flatMap fun y => Buffer.hostToNetLong y.toUInt32 := by
    rw [Buffer.appendInt32, Buffer.content_append, integers, List.flatMap_append,
      List.flatMap_singleton]
  have readable : 4 ≤ (buffer.appendInt32 x).readableBytes := by
    rw [← Buffer.length_content, content, List.flatMap_append, List.length_append,
      List.flatMap_singleton]
    exact Nat.le_add_left 4 _
  rw [Buffer.peekInt32_of_readable _ readable, content]
  cases xs with
  | nil => exact Buffer.peekBytes_hostToNetLong x []
  | cons oldest later =>
      rw [List.cons_append, List.flatMap_cons, Buffer.peekBytes_hostToNetLong]
      rfl

/-- Every run of calls whose assertions hold refines the queue. -/
theorem buffer_refinesQueue (size : Nat) {ops : List BufferOp} {run : BufferRun}
    (executed : bufferMachine.AnyRun (.ofSize size) ops run) : RefinesQueue size ops run := by
  obtain ⟨queue, queueRun, rfl⟩ := queue_simulates_buffer.run
    (show Represents (.ofSize size) .empty by
      simp [Represents, BufferRun.ofSize, ByteQueue.empty]) executed
  rw [List.map_id] at queueRun
  exact {
    ordered := run.buffer.ordered
    inside := run.buffer.inside
    fits := length_buf_le executed
    queue := queueRun
    writable := fun len => ⟨by simp, run.buffer.le_writableBytes_ensureWritableBytes len⟩
    oldest := fun xs x integers => peekInt32_appendInt32 x integers }

/-- A buffer of three bytes that grows, moves its bytes to the front and takes a header. -/
def growAndMove : List BufferOp :=
  [.append [1, 2], .retrieve 1, .append [3, 4], .retrieveUntil 2, .prepend [9],
    .retrieveAsString 2, .appendInt32 (-2), .appendInt32 7, .peekInt32, .retrieveAll,
    .ensureWritableBytes 20]

theorem growAndMove_refinesQueue : ∃ run,
    bufferMachine.exec (.ofSize 3) growAndMove = some run ∧
      run.answers = [.text [9, 4], .int32 (-2)] ∧ RefinesQueue 3 growAndMove run := by
  have observed : (bufferMachine.exec (.ofSize 3) growAndMove).map (·.answers) =
      some [.text [9, 4], .int32 (-2)] := by decide +kernel
  obtain ⟨run, executed, answers⟩ := Option.map_eq_some_iff.mp observed
  exact ⟨run, executed, answers, buffer_refinesQueue 3 (Machine.run_of_exec executed)⟩

end TurboCore.Net
