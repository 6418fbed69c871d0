import Mathlib
import TurboCore.Foundation.Execution
import TurboCore.Net.TcpConnection

/-!
# The write interest of a connection

Sends on the loop's thread and the writable events of a healthy socket. The channel is
to ask for writable events exactly while there is output: an empty payload sent into an
empty buffer asks for them with nothing to write, and the next event closes the
connection.
-/

namespace TurboCore.Net

open Foundation

/-- A connection on its loop and how often it called `HandleClose`. -/
structure InterestRun where
  attached : Attached
  closes : Nat

inductive InterestEvent where
  | send (data : List UInt8)
  | sendInLoop (data : List UInt8)
  | writable (result : WriteResult)

namespace InterestRun

/-- The connection right after `ConnectEstablished`, on a loop with any poller. -/
def established (self : ConnId) (fd : Nat) (poller : EpollPoller) : InterestRun where
  attached := Attached.connectEstablished self ⟨.ofSocket fd, poller⟩
  closes := 0

/-- The readable bytes of `m_output_buffer`. -/
def output (run : InterestRun) : List UInt8 := run.attached.conn.outputBuffer.content

/-- `m_channel->IsWriting()`. -/
def isWriting (run : InterestRun) : Bool := run.attached.conn.channel.writing

def sendInLoop (self : ConnId) (run : InterestRun) (data : List UInt8) : InterestRun :=
  { run with attached := run.attached.sendInLoop self data }

/-- `Send(data, len)` on the loop's thread, where `RunInLoop` calls at once. -/
def send (self : ConnId) (run : InterestRun) (data : List UInt8) : InterestRun :=
  if run.attached.conn.isConnected then run.sendInLoop self data else run

/-- `HandleClose`, with its close callback left to the server. -/
def handleClose (self : ConnId) (run : InterestRun) : InterestRun where
  attached :=
    if run.attached.conn.state = .disconnected then run.attached
    else (run.attached.beginHandleClose self).closeSocket
  closes := run.closes + 1

/-- `HandleWrite`, with its `HandleClose`. -/
def handleWrite (self : ConnId) (run : InterestRun) (result : WriteResult) : InterestRun :=
  let effect := run.attached.handleWrite self result
  let after := { run with attached := effect.after }
  if effect.closes then after.handleClose self else after

/-- A write of a non-empty buffer takes at least one byte or would block. An empty buffer
is not written, so there the answer does not matter. -/
def answersWell (run : InterestRun) : WriteResult → Bool
  | .wrote count =>
      run.output = [] ∨ 0 < count ∧ count ≤ run.attached.conn.outputBuffer.readableBytes
  | .wouldBlock => true
  | .failed => run.output = []

end InterestRun

/-- The loop reports writable events only while the channel asks for them. -/
def interestMachine (self : ConnId) : Machine InterestRun InterestEvent where
  step run
    | .send data => some (run.send self data)
    | .sendInLoop data => some (run.sendInLoop self data)
    | .writable result =>
        if run.isWriting ∧ run.answersWell result then some (run.handleWrite self result)
        else none

/-- The channel asks for writable events exactly while there is output, and the
connection is connected and has never called `HandleClose`. -/
structure InterestMatches (run : InterestRun) : Prop where
  connected : run.attached.conn.state = .connected
  interest : run.isWriting = true ↔ run.output ≠ []
  neverClosed : run.closes = 0

/-- An empty payload is sent only while there is other output. -/
def SendsOutput (run : InterestRun) : InterestEvent → Prop
  | .send data | .sendInLoop data => data = [] → run.output ≠ []
  | .writable _ => True

namespace Attached

/-- After a send into a connected connection the channel asks for writable events. -/
theorem sendInLoop_writing (self : ConnId) (attached : Attached)
    (connected : attached.conn.isConnected = true) (data : List UInt8) :
    (attached.sendInLoop self data).conn.channel.writing = true := by
  unfold sendInLoop
  rw [if_pos connected]
  dsimp only
  split
  · assumption
  · exact EpollPoller.updateChannel_writing _ _ _

/-- A count of all the bytes ends the interest, a smaller one leaves it. -/
theorem handleWrite_writing (self : ConnId) (attached : Attached)
    (connected : attached.conn.isConnected = true) {count : Nat} (positive : 0 < count)
    (inside : count ≤ attached.conn.outputBuffer.readableBytes) :
    (attached.handleWrite self (.wrote count)).after.conn.channel.writing =
      (attached.conn.channel.writing &&
        decide (attached.conn.outputBuffer.content.drop count ≠ [])) := by
  have drained := (attached.conn.outputBuffer.retrieve count inside).content_eq_nil_iff
  rw [Buffer.content_retrieve] at drained
  rw [attached.handleWrite_of_wrote self connected positive inside]
  dsimp only
  by_cases empty : (attached.conn.outputBuffer.retrieve count inside).readableBytes = 0
  · rw [if_pos empty, drained.mpr empty]
    simp [disableWriting, updateChannel]
  · rw [if_neg empty]
    simp [mt drained.mp empty]

end Attached

namespace InterestMatches

variable {self : ConnId} {run : InterestRun}

theorem isConnected (interest : InterestMatches run) :
    run.attached.conn.isConnected = true := by
  simp [TcpConnection.isConnected, interest.connected]

theorem established (self : ConnId) (fd : Nat) (poller : EpollPoller) :
    InterestMatches (.established self fd poller) where
  connected := rfl
  interest := by
    have silent : (InterestRun.established self fd poller).isWriting = false :=
      EpollPoller.updateChannel_writing _ _ _
    have empty : (InterestRun.established self fd poller).output = [] :=
      Buffer.content_ofSize Buffer.initialSize
    simp [silent, empty]
  neverClosed := rfl

/-- What a send leaves: the interest bit is set, whatever was sent. -/
theorem of_sendInLoop (interest : InterestMatches run) (data : List UInt8) :
    InterestMatches (run.sendInLoop self data) ↔ (data = [] → run.output ≠ []) := by
  have writing := run.attached.sendInLoop_writing self interest.isConnected data
  have output := run.attached.content_sendInLoop self interest.isConnected data
  have left : (run.sendInLoop self data).output = run.output ++ data := output
  constructor
  · intro after empty
    have pending := after.interest.mp writing
    rwa [left, empty, List.append_nil] at pending
  · intro sends
    refine ⟨?_, ?_, interest.neverClosed⟩
    · rw [← interest.connected]
      exact run.attached.sendInLoop_state self data
    · rw [left]
      refine ⟨fun _ => ?_, fun _ => writing⟩
      by_cases empty : data = []
      · rw [empty, List.append_nil]
        exact sends empty
      · exact List.append_ne_nil_of_right_ne_nil _ empty

/-- A writable event of a channel whose interest matches finds output, and keeps the match. -/
theorem handleWrite (interest : InterestMatches run) {result : WriteResult}
    (writing : run.isWriting = true) (answers : run.answersWell result = true) :
    InterestMatches (run.handleWrite self result) := by
  have pending : run.output ≠ [] := interest.interest.mp writing
  cases result with
  | failed => exact (pending (by simpa [InterestRun.answersWell] using answers)).elim
  | wouldBlock =>
      rw [InterestRun.handleWrite, Attached.handleWrite_wouldBlock self _ pending]
      exact interest
  | wrote count =>
      obtain ⟨positive, inside⟩ :
          0 < count ∧ count ≤ run.attached.conn.outputBuffer.readableBytes := by
        simpa [InterestRun.answersWell, pending] using answers
      obtain ⟨stays, _, left⟩ :=
        run.attached.handleWrite_wrote self interest.isConnected positive inside
      have bit := run.attached.handleWrite_writing self interest.isConnected positive inside
      rw [InterestRun.handleWrite, if_neg (by rw [stays]; exact Bool.false_ne_true)]
      refine ⟨?_, ?_, interest.neverClosed⟩
      · rw [← interest.connected]
        exact run.attached.handleWrite_state self (.wrote count)
      · have set : run.attached.conn.channel.writing = true := writing
        rw [InterestRun.isWriting, InterestRun.output, bit, left, set, Bool.true_and,
          decide_eq_true_eq]

end InterestMatches

/-- An empty payload, then the writable event that its interest brings. -/
def sendNothing : List InterestEvent := [.send [], .writable .wouldBlock]

/-- The event finds nothing to write, takes that for an error and closes. -/
theorem empty_send_closes_connection :
    ¬ ∀ (self : ConnId) (fd : Nat) (poller : EpollPoller) (events : List InterestEvent),
      (interestMachine self).Throughout InterestMatches (.established self fd poller) events := by
  intro always
  have closed : ((interestMachine 0).exec (.established 0 5 ∅) sendNothing).map (·.closes) =
      some 1 := by decide +kernel
  obtain ⟨run, executed, closes⟩ := Option.map_eq_some_iff.mp closed
  have interest := (always 0 5 ∅ sendNothing).of_exec executed
  rw [interest.neverClosed] at closes
  cases closes

/-- In every run of sends and writable events the interest matches the output, and nothing
closes the connection, exactly when no empty payload is sent into an empty buffer. -/
theorem interestMatches_throughout_iff (self : ConnId) (fd : Nat) (poller : EpollPoller)
    (events : List InterestEvent) :
    (interestMachine self).Throughout InterestMatches (.established self fd poller) events ↔
      (interestMachine self).Guarded SendsOutput (.established self fd poller) events := by
  have sent : ∀ run : InterestRun, InterestMatches run → ∀ data,
      run.send self data = run.sendInLoop self data := by
    intro run interest data
    rw [InterestRun.send, if_pos interest.isConnected]
  refine Machine.throughout_iff_guarded (fun _ interest => interest) ?_ ?_
    (.established self fd poller) events
  · intro run event next interest sends transition
    cases event with
    | send data =>
        cases transition
        rw [sent run interest]
        exact (interest.of_sendInLoop data).mpr sends
    | sendInLoop data =>
        cases transition
        exact (interest.of_sendInLoop data).mpr sends
    | writable result =>
        simp only [interestMachine, Option.ite_none_right_eq_some, Option.some.injEq]
          at transition
        obtain ⟨⟨writing, answers⟩, rfl⟩ := transition
        exact interest.handleWrite writing answers
  · intro run event next interest transition after
    cases event with
    | send data =>
        cases transition
        rw [sent run interest] at after
        exact (interest.of_sendInLoop data).mp after
    | sendInLoop data =>
        cases transition
        exact (interest.of_sendInLoop data).mp after
    | writable result => trivial

end TurboCore.Net
