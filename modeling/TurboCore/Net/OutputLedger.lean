import Mathlib
import TurboCore.Net.OutputConservation
import TurboCore.Net.ScatterRead
import TurboCore.Net.WriteInterest

/-!
# Both directions of a connection

What a connection's handlers do to the bytes that go out and come in, whatever state it is
in: a send appends or is refused, a write moves bytes from the buffer to the kernel, and
a read moves bytes from the kernel into the buffer. The channel asks for writable events
exactly while there is output, as long as no payload is empty.
-/

namespace TurboCore.Net

namespace Attached

variable (self : ConnId) (attached : Attached)

/-- The readable bytes of `m_output_buffer`. -/
def output : List UInt8 := attached.conn.outputBuffer.content

/-- `Send(data, len)` on the loop's thread, where `RunInLoop` calls at once. -/
def send (data : List UInt8) : Attached :=
  if attached.conn.isConnected then attached.sendInLoop self data else attached

/-- `HandleClose`; its close callback is the owner's. -/
def handleClose : Attached :=
  if attached.conn.state = .disconnected then attached
  else (attached.beginHandleClose self).closeSocket

/-- `HandleWrite` with its `HandleClose`, and the bytes that `write` took. -/
def writeOut (result : WriteResult) : Attached × List UInt8 :=
  let effect := attached.handleWrite self result
  (if effect.closes then effect.after.handleClose self else effect.after, effect.sent)

/-- `write(2)` takes between one and all of the readable bytes, or fails. -/
def mayAnswer : WriteResult → Bool
  | .wrote count => 0 < count ∧ count ≤ attached.conn.outputBuffer.readableBytes
  | .wouldBlock | .failed => true

@[simp] theorem output_handleClose : (attached.handleClose self).output = attached.output := by
  unfold handleClose beginHandleClose output
  split
  · rfl
  · unfold removeIfAdded
    split <;> rfl

@[simp] theorem handleClose_disconnected :
    (attached.handleClose self).conn.state = .disconnected := by
  unfold handleClose
  split
  · assumption
  · simp

/-- A connection that closes asks for nothing any more. -/
theorem beginHandleClose_reading :
    (attached.beginHandleClose self).closeSocket.conn.channel.reading = false := by
  have silent : ((attached.setState .disconnected).disableAll self).conn.channel.reading = false :=
    EpollPoller.updateChannel_reading _ _ _
  change (attached.beginHandleClose self).conn.channel.reading = false
  unfold beginHandleClose removeIfAdded
  split
  · rw [← silent]
    exact EpollPoller.removeChannel_reading _ _
  · exact silent

/-- The packet is behind the others, or was refused. -/
theorem output_send (data : List UInt8) :
    (attached.send self data).output =
      attached.output ++ if attached.conn.isConnected then data else [] := by
  unfold send
  split
  · next connected => exact attached.content_sendInLoop self connected data
  · rw [List.append_nil]

@[simp] theorem send_state (data : List UInt8) :
    (attached.send self data).conn.state = attached.conn.state := by
  unfold send
  split
  · exact attached.sendInLoop_state self data
  · rfl

@[simp] theorem send_isConnected (data : List UInt8) :
    (attached.send self data).conn.isConnected = attached.conn.isConnected := by
  simp [TcpConnection.isConnected]

/-- A write that closes took nothing. -/
theorem handleWrite_of_closes {result : WriteResult}
    (closes : (attached.handleWrite self result).closes = true) :
    attached.handleWrite self result = ⟨attached, [], false, true⟩ := by
  unfold handleWrite at *
  cases result with
  | wrote count =>
      dsimp only at *
      split_ifs at * <;> rfl
  | wouldBlock | failed =>
      dsimp only at *
      split_ifs at * <;> rfl

/-- A write only ever moves bytes from the buffer's front to the kernel. -/
theorem writeOut_moves (result : WriteResult) :
    (attached.writeOut self result).2 ++ (attached.writeOut self result).1.output =
      attached.output := by
  cases closes : (attached.handleWrite self result).closes with
  | true =>
      simp [writeOut, attached.handleWrite_of_closes self closes]
  | false =>
      have opened : attached.writeOut self result =
          ((attached.handleWrite self result).after, (attached.handleWrite self result).sent) := by
        simp [writeOut, closes]
      rw [opened]
      by_cases connected : attached.conn.isConnected = true
      · exact ConservesOutput.handleWrite_bytes connected closes
      · rw [Bool.not_eq_true] at connected
        rw [attached.handleWrite_of_not_connected self connected result]
        rfl

/-- A count within the buffer: that many bytes go to the kernel. -/
theorem writeOut_wrote (connected : attached.conn.isConnected = true) {count : Nat}
    (positive : 0 < count) (inside : count ≤ attached.conn.outputBuffer.readableBytes) :
    (attached.writeOut self (.wrote count)).1.conn.isConnected = true ∧
      (attached.writeOut self (.wrote count)).1.output = attached.output.drop count ∧
      (attached.writeOut self (.wrote count)).2 = attached.output.take count := by
  obtain ⟨opened, sent, left⟩ := attached.handleWrite_wrote self connected positive inside
  simp only [writeOut, opened, Bool.false_eq_true, if_false]
  refine ⟨?_, left, sent⟩
  rw [TcpConnection.isConnected, handleWrite_state]
  exact connected

end Attached

/-- A function that does not close the connection leaves its interest in reading. -/
theorem Attached.WriteStep.reading {self : ConnId} {writing : Bool} {before after : Attached}
    (step : WriteStep self writing before after) :
    after.conn.channel.reading = before.conn.channel.reading := by
  cases step with
  | outside _ same => rw [same.channel]
  | interest middle same =>
      rw [← same.channel]
      exact EpollPoller.updateChannel_reading _ _ _

/-- A connection on which only payloads with bytes are sent: it reads exactly as long as it
is connected, and asks for writable events exactly while there is output. -/
structure Tended (attached : Attached) : Prop where
  state : attached.conn.state = .connected ∨ attached.conn.state = .disconnected
  reading : attached.conn.channel.reading = attached.conn.isConnected
  interest : attached.conn.isConnected = true →
    (attached.conn.channel.writing = true ↔ attached.output ≠ [])

namespace Tended

variable {self : ConnId} {attached : Attached}

theorem established (self : ConnId) (fd : Nat) (poller : EpollPoller) :
    Tended (.connectEstablished self ⟨.ofSocket fd, poller⟩) where
  state := .inl rfl
  reading := EpollPoller.updateChannel_reading _ _ _
  interest _ := by
    have silent : (Attached.connectEstablished self ⟨.ofSocket fd, poller⟩).conn.channel.writing =
        false := EpollPoller.updateChannel_writing _ _ _
    have empty : (Attached.connectEstablished self ⟨.ofSocket fd, poller⟩).output = [] :=
      Buffer.content_ofSize Buffer.initialSize
    simp [silent, empty]

theorem send (tended : Tended attached) {data : List UInt8} (bytes : data ≠ []) :
    Tended (attached.send self data) where
  state := by
    rw [Attached.send_state]
    exact tended.state
  reading := by
    rw [Attached.send_isConnected, ← tended.reading, Attached.send]
    split
    · exact (attached.writeStep_sendInLoop self data).reading
    · rfl
  interest connected := by
    rw [Attached.send_isConnected] at connected
    have writing := attached.sendInLoop_writing self connected data
    rw [Attached.output_send, if_pos connected, Attached.send, if_pos connected, writing]
    simp [bytes]

theorem handleClose (tended : Tended attached) : Tended (attached.handleClose self) := by
  have closed := attached.handleClose_disconnected self
  have gone : (attached.handleClose self).conn.isConnected = false := by
    simp [TcpConnection.isConnected]
  refine ⟨.inr closed, ?_, fun connected => ?_⟩
  · rw [gone]
    unfold Attached.handleClose
    split
    · next before => simp [tended.reading, TcpConnection.isConnected, before]
    · exact attached.beginHandleClose_reading self
  · rw [gone] at connected
    cases connected

/-- A writable event that the channel asked for. -/
theorem writeOut (tended : Tended attached) (asked : attached.conn.channel.writing = true)
    {result : WriteResult} (answers : attached.mayAnswer result = true) :
    Tended (attached.writeOut self result).1 := by
  unfold Attached.writeOut
  dsimp only
  cases closes : (attached.handleWrite self result).closes with
  | true =>
      rw [attached.handleWrite_of_closes self closes]
      exact tended.handleClose
  | false =>
      rw [if_neg Bool.false_ne_true]
      have step := attached.writeStep_handleWrite self result
      by_cases connected : attached.conn.isConnected = true
      · have pending := (tended.interest connected).mp asked
        cases result with
        | wouldBlock => rwa [attached.handleWrite_wouldBlock self pending]
        | failed =>
            rw [Attached.output, Ne, Buffer.content_eq_nil_iff] at pending
            simp [Attached.handleWrite, connected, pending] at closes
        | wrote count =>
            simp only [Attached.mayAnswer, Bool.decide_and, Bool.and_eq_true,
              decide_eq_true_eq] at answers
            obtain ⟨_, _, left⟩ :=
              attached.handleWrite_wrote self connected answers.1 answers.2
            refine ⟨?_, ?_, fun _ => ?_⟩
            · rw [step.state]
              exact tended.state
            · rw [step.reading, tended.reading, TcpConnection.isConnected,
                TcpConnection.isConnected,
                step.state]
            · rw [Attached.output, left,
                attached.handleWrite_writing self connected answers.1 answers.2, asked]
              simp
      · rw [Bool.not_eq_true] at connected
        rwa [attached.handleWrite_of_not_connected self connected result]

/-- Only a failed write closes the connection. -/
theorem writeOut_isConnected (tended : Tended attached)
    (asked : attached.conn.channel.writing = true) {result : WriteResult}
    (answers : attached.mayAnswer result = true) (healthy : result ≠ .failed)
    (connected : attached.conn.isConnected = true) :
    (attached.writeOut self result).1.conn.isConnected = true := by
  have pending := (tended.interest connected).mp asked
  cases result with
  | failed => exact absurd rfl healthy
  | wouldBlock =>
      rw [Attached.writeOut, attached.handleWrite_wouldBlock self pending]
      exact connected
  | wrote count =>
      simp only [Attached.mayAnswer, Bool.decide_and, Bool.and_eq_true,
        decide_eq_true_eq] at answers
      exact (attached.writeOut_wrote self connected answers.1 answers.2).1

/-- While there is output the channel asks to write, and `write` may take all of it. -/
theorem writeOut_all (tended : Tended attached) (connected : attached.conn.isConnected = true)
    (pending : attached.output ≠ []) :
    attached.conn.channel.writing = true ∧
      attached.mayAnswer (.wrote attached.conn.outputBuffer.readableBytes) = true ∧
      (attached.writeOut self (.wrote attached.conn.outputBuffer.readableBytes)).1.output = [] ∧
      (attached.writeOut self (.wrote attached.conn.outputBuffer.readableBytes)).2 =
        attached.output := by
  have some : 0 < attached.conn.outputBuffer.readableBytes := by
    rw [Attached.output, Ne, Buffer.content_eq_nil_iff] at pending
    omega
  have length : attached.output.length = attached.conn.outputBuffer.readableBytes :=
    attached.conn.outputBuffer.length_content
  obtain ⟨_, left, sent⟩ := attached.writeOut_wrote self connected some (Nat.le_refl _)
  refine ⟨(tended.interest connected).mpr pending, by simp [Attached.mayAnswer, some], ?_, ?_⟩
  · rw [left, ← length, List.drop_length]
  · rw [sent, ← length, List.take_length]

end Tended

end TurboCore.Net
