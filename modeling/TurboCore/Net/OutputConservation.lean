import Mathlib
import TurboCore.Foundation.Execution
import TurboCore.Net.TcpConnection

/-!
# Output of a connected connection

`SendInLoop` and `HandleWrite` alone, on the loop's thread. While the connection stays
connected, what the kernel took and what the buffer still holds are the payloads in
call order, whatever counts the kernel answers.
-/

namespace TurboCore.Net

open Foundation

/-- One `HandleWrite`: the bytes that `write` took, whether the output buffer is empty
after it, and whether it called the write-complete callback. -/
structure WriteRecord where
  taken : List UInt8
  emptied : Bool
  completed : Bool
deriving DecidableEq

/-- A connection on its loop, with the bytes the kernel accepted, the payloads of the
calls and the `HandleWrite`s so far. -/
structure OutputRun where
  attached : Attached
  accepted : List UInt8
  payloads : List (List UInt8)
  writes : List WriteRecord

inductive OutputEvent where
  | sendInLoop (data : List UInt8)
  | handleWrite (result : WriteResult)

namespace OutputRun

/-- The connection right after `ConnectEstablished`, on a loop with any poller. -/
def established (self : ConnId) (fd : Nat) (poller : EpollPoller) : OutputRun where
  attached := Attached.connectEstablished self ⟨.ofSocket fd, poller⟩
  accepted := []
  payloads := []
  writes := []

def sendInLoop (self : ConnId) (run : OutputRun) (data : List UInt8) : OutputRun :=
  { run with
    attached := run.attached.sendInLoop self data
    payloads := run.payloads ++ [data] }

/-- What `write` takes in a `HandleWrite`, by its answer: bytes from the front of the readable
ones. A connection that is not connected does not come to write. -/
def taken (run : OutputRun) : WriteResult → List UInt8
  | .wrote count =>
      if run.attached.conn.isConnected then run.attached.conn.outputBuffer.content.take count
      else []
  | .wouldBlock | .failed => []

/-- `HandleWrite`, with its `HandleClose`. -/
def handleWrite (self : ConnId) (run : OutputRun) (result : WriteResult) : OutputRun :=
  let effect := run.attached.handleWrite self result
  { run with
    attached :=
      if effect.closes then (effect.after.beginHandleClose self).closeSocket else effect.after
    accepted := run.accepted ++ run.taken result
    writes := run.writes ++
      [⟨run.taken result, effect.after.conn.outputBuffer.content = [], effect.completes⟩] }

/-- The kernel takes between one and all of the readable bytes, or would block. -/
def canAnswer (run : OutputRun) : WriteResult → Bool
  | .wrote count => 0 < count ∧ count ≤ run.attached.conn.outputBuffer.readableBytes
  | .wouldBlock => true
  | .failed => false

end OutputRun

def outputMachine (self : ConnId) : Machine OutputRun OutputEvent where
  step run
    | .sendInLoop data => some (run.sendInLoop self data)
    | .handleWrite result =>
        if run.canAnswer result then some (run.handleWrite self result) else none

/-- While the connection is connected nothing is lost, doubled or out of order, and the
write-complete callback runs on the writes that empty the buffer. -/
structure ConservesOutput (run : OutputRun) : Prop where
  bytes : run.attached.conn.state = .connected →
    run.accepted ++ run.attached.conn.outputBuffer.content = run.payloads.flatten
  completions : ∀ record ∈ run.writes,
    record.completed = true ↔ record.taken ≠ [] ∧ record.emptied = true

/-- The callback runs exactly after a positive write that leaves nothing. -/
theorem Attached.handleWrite_completes (self : ConnId) (attached : Attached)
    (result : WriteResult) :
    (attached.handleWrite self result).completes = true ↔
      (attached.handleWrite self result).sent ≠ [] ∧
        (attached.handleWrite self result).after.conn.outputBuffer.content = [] := by
  by_cases connected : attached.conn.isConnected = true
  · by_cases empty : attached.conn.outputBuffer.content = []
    · simp [handleWrite_of_empty self attached connected empty]
    · have nonempty : attached.conn.outputBuffer.readableBytes ≠ 0 := by
        rwa [Ne, ← Buffer.content_eq_nil_iff]
      cases result with
      | wouldBlock => simp [handleWrite_wouldBlock self attached empty]
      | failed => simp [handleWrite, connected, nonempty]
      | wrote count =>
          by_cases inside : 0 < count ∧ count ≤ attached.conn.outputBuffer.readableBytes
          · obtain ⟨_, sent, left⟩ :=
              handleWrite_wrote self attached connected inside.1 inside.2
            have fired : (attached.handleWrite self (.wrote count)).completes = decide
                ((attached.conn.outputBuffer.retrieve count inside.2).readableBytes = 0) := by
              simp [handleWrite, connected, nonempty, inside]
            have taken : attached.conn.outputBuffer.content.take count ≠ [] := by
              simp [List.take_eq_nil_iff, Nat.ne_of_gt inside.1, empty]
            rw [fired, sent, left, ← Buffer.content_retrieve _ _ inside.2,
              Buffer.content_eq_nil_iff, decide_eq_true_eq]
            exact (and_iff_right taken).symm
          · simp [handleWrite, connected, nonempty, inside]
  · simp [handleWrite, connected]

/-- The handler counts as sent what the kernel took. -/
theorem OutputRun.sent_eq_taken (self : ConnId) {run : OutputRun} {result : WriteResult}
    (answers : run.canAnswer result = true) :
    (run.attached.handleWrite self result).sent = run.taken result := by
  by_cases connected : run.attached.conn.isConnected = true
  · cases result with
    | failed => cases answers
    | wouldBlock =>
        simp only [Attached.handleWrite, taken, if_pos connected]
        split_ifs <;> rfl
    | wrote count =>
        simp only [canAnswer, Bool.decide_and, Bool.and_eq_true, decide_eq_true_eq] at answers
        obtain ⟨_, sent, _⟩ := Attached.handleWrite_wrote self run.attached connected
          answers.1 answers.2
        rw [sent, taken, if_pos connected]
  · cases result <;> simp [Attached.handleWrite, taken, connected]

namespace ConservesOutput

variable {self : ConnId} {run : OutputRun}

theorem established (self : ConnId) (fd : Nat) (poller : EpollPoller) :
    ConservesOutput (.established self fd poller) where
  bytes _ := by
    simp [OutputRun.established, Attached.connectEstablished, Attached.enableReading,
      Attached.setState, TcpConnection.ofSocket]
  completions _ member := by cases member

theorem sendInLoop (conserves : ConservesOutput run) (data : List UInt8) :
    ConservesOutput (run.sendInLoop self data) := by
  refine ⟨fun state => ?_, conserves.completions⟩
  have before : run.attached.conn.state = .connected := by
    simpa [OutputRun.sendInLoop] using state
  have connected : run.attached.conn.isConnected = true := by
    simp [TcpConnection.isConnected, before]
  have appended := Attached.content_sendInLoop self run.attached connected data
  calc run.accepted ++ (run.attached.sendInLoop self data).conn.outputBuffer.content
      = (run.accepted ++ run.attached.conn.outputBuffer.content) ++ data := by
        rw [appended, List.append_assoc]
    _ = (run.payloads ++ [data]).flatten := by
        rw [conserves.bytes before, List.flatten_append, List.flatten_singleton]

/-- A write that does not close moves bytes from the buffer's front to the kernel. -/
theorem handleWrite_bytes {attached : Attached} {result : WriteResult}
    (connected : attached.conn.isConnected = true)
    (opened : (attached.handleWrite self result).closes = false) :
    (attached.handleWrite self result).sent ++
      (attached.handleWrite self result).after.conn.outputBuffer.content =
        attached.conn.outputBuffer.content := by
  by_cases empty : attached.conn.outputBuffer.content = []
  · rw [Attached.handleWrite_of_empty self attached connected empty] at opened
    cases opened
  · cases result with
    | wouldBlock =>
        rw [Attached.handleWrite_wouldBlock self attached empty]
        rfl
    | failed =>
        rw [Buffer.content_eq_nil_iff] at empty
        simp [Attached.handleWrite, connected, empty] at opened
    | wrote count =>
        have nonempty : attached.conn.outputBuffer.readableBytes ≠ 0 := by
          rwa [Ne, ← Buffer.content_eq_nil_iff]
        by_cases inside : 0 < count ∧ count ≤ attached.conn.outputBuffer.readableBytes
        · obtain ⟨_, sent, left⟩ :=
            Attached.handleWrite_wrote self attached connected inside.1 inside.2
          rw [sent, left, List.take_append_drop]
        · simp [Attached.handleWrite, connected, nonempty, inside] at opened

theorem handleWrite (conserves : ConservesOutput run) {result : WriteResult}
    (answers : run.canAnswer result = true) :
    ConservesOutput (run.handleWrite self result) := by
  have sent := run.sent_eq_taken self answers
  constructor
  · intro state
    have opened : (run.attached.handleWrite self result).closes = false := by
      cases closes : (run.attached.handleWrite self result).closes with
      | false => rfl
      | true => simp [OutputRun.handleWrite, closes] at state
    have before : run.attached.conn.state = .connected := by
      simpa [OutputRun.handleWrite, opened] using state
    have connected : run.attached.conn.isConnected = true := by
      simp [TcpConnection.isConnected, before]
    have moved := @handleWrite_bytes self run.attached result connected opened
    calc (run.handleWrite self result).accepted ++
          (run.handleWrite self result).attached.conn.outputBuffer.content
        = run.accepted ++ ((run.attached.handleWrite self result).sent ++
            (run.attached.handleWrite self result).after.conn.outputBuffer.content) := by
          simp [OutputRun.handleWrite, opened, sent]
      _ = run.payloads.flatten := by
          rw [moved, conserves.bytes before]
  · intro record member
    rcases List.mem_append.mp member with earlier | last
    · exact conserves.completions record earlier
    · rw [List.mem_singleton] at last
      subst last
      simpa [← sent] using run.attached.handleWrite_completes self result

end ConservesOutput

/-- In every run of `SendInLoop`s and `HandleWrite`s output is conserved. -/
theorem output_conserved (self : ConnId) (fd : Nat) (poller : EpollPoller)
    {events : List OutputEvent} {run : OutputRun}
    (executed : (outputMachine self).AnyRun (.established self fd poller) events run) :
    ConservesOutput run := by
  refine executed.invariant ConservesOutput (.established self fd poller) ?_
  intro run event next conserves _ transition
  cases event with
  | sendInLoop data =>
      cases transition
      exact conserves.sendInLoop data
  | handleWrite result =>
      simp only [outputMachine, Option.ite_none_right_eq_some, Option.some.injEq] at transition
      obtain ⟨answers, rfl⟩ := transition
      exact conserves.handleWrite answers

/-- Two payloads, a partial write, a blocked one and the rest. -/
def sendAndDrain : List OutputEvent :=
  [.sendInLoop [1, 2, 3], .handleWrite (.wrote 2), .sendInLoop [4], .handleWrite .wouldBlock,
    .handleWrite (.wrote 2)]

/-- The connection is still connected, and the kernel has everything. -/
theorem sendAndDrain_conserved : ∃ run,
    (outputMachine 0).exec (.established 0 5 ∅) sendAndDrain = some run ∧
      run.attached.conn.state = .connected ∧ run.accepted = [1, 2, 3, 4] ∧
      run.writes.map (·.completed) = [false, false, true] ∧ ConservesOutput run := by
  have observed : ((outputMachine 0).exec (.established 0 5 ∅) sendAndDrain).map
      (fun run => (run.attached.conn.state, run.accepted, run.writes.map (·.completed))) =
        some (.connected, [1, 2, 3, 4], [false, false, true]) := by decide +kernel
  obtain ⟨run, executed, seen⟩ := Option.map_eq_some_iff.mp observed
  simp only [Prod.mk.injEq] at seen
  exact ⟨run, executed, seen.1, seen.2.1, seen.2.2,
    output_conserved 0 5 ∅ (Machine.run_of_exec executed)⟩

end TurboCore.Net
