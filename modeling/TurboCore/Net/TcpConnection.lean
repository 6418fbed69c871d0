import Mathlib
import TurboCore.Net.Buffer
import TurboCore.Net.EpollPoller

/-!
# The connection's handlers

Every handler of `TcpConnection` runs on the connection's loop and touches the
connection and that loop's poller. The close callback is the server's and runs
between two parts of a handler, so `HandleClose` and `ForceCloseInLoop` are cut there.
-/

namespace TurboCore.Net

inductive ConnectionState where
  | connecting
  | connected
  | disconnecting
  | disconnected
deriving DecidableEq

/-- The order in which a connection goes through its states. -/
def ConnectionState.rank : ConnectionState → Nat
  | connecting => 0
  | connected => 1
  | disconnecting => 2
  | disconnected => 3

/-- `TcpConnection`: its socket's fd, its channel, its state and the bytes to send. -/
structure TcpConnection where
  socketFd : SocketType
  channel : Channel
  state : ConnectionState
  outputBuffer : Buffer

namespace TcpConnection

/-- A constructed connection for an accepted socket. -/
def ofSocket (fd : SocketType) : TcpConnection where
  socketFd := fd
  channel := .ofFd fd
  state := .connecting
  outputBuffer := .ofSize Buffer.initialSize

def isConnected (conn : TcpConnection) : Bool := conn.state = .connected

/-- `m_socket.Close()`. -/
def closeSocket (conn : TcpConnection) : TcpConnection := { conn with socketFd := invalidSocket }

end TcpConnection

/-- What `write(2)` answers for a nonempty buffer: a count, would-block, or another error. -/
inductive WriteResult where
  | wrote (count : Nat)
  | wouldBlock
  | failed
deriving DecidableEq

/-- A connection and the poller of its loop. -/
structure Attached where
  conn : TcpConnection
  poller : EpollPoller

namespace Attached

/-- `m_ownerLoop->UpdateChannel(this)` after a change of the channel's events. -/
def updateChannel (self : ConnId) (attached : Attached) (channel : Channel) : Attached :=
  let updated := attached.poller.updateChannel self channel
  { conn := { attached.conn with channel := updated.2 }
    poller := updated.1 }

def enableReading (self : ConnId) (attached : Attached) : Attached :=
  attached.updateChannel self { attached.conn.channel with reading := true }

def enableWriting (self : ConnId) (attached : Attached) : Attached :=
  attached.updateChannel self { attached.conn.channel with writing := true }

def disableWriting (self : ConnId) (attached : Attached) : Attached :=
  attached.updateChannel self { attached.conn.channel with writing := false }

def disableAll (self : ConnId) (attached : Attached) : Attached :=
  attached.updateChannel self { attached.conn.channel with reading := false, writing := false }

/-- `m_loop->RemoveChannel(m_channel.get())`, when the channel says it is added. -/
def removeIfAdded (attached : Attached) : Attached :=
  if attached.conn.channel.added then
    let removed := attached.poller.removeChannel attached.conn.channel
    { conn := { attached.conn with channel := removed.2 }
      poller := removed.1 }
  else attached

def setState (attached : Attached) (state : ConnectionState) : Attached :=
  { attached with conn := { attached.conn with state } }

def closeSocket (attached : Attached) : Attached :=
  { attached with conn := attached.conn.closeSocket }

/-- `ConnectEstablished`, whose assertion holds in a `Connecting` connection. -/
def connectEstablished (self : ConnId) (attached : Attached) : Attached :=
  (attached.setState .connected).enableReading self

/-- `ConnectDestroyed`. -/
def connectDestroyed (self : ConnId) (attached : Attached) : Attached :=
  if attached.conn.state = .connected ∨ attached.conn.state = .disconnecting then
    (((attached.setState .disconnected).disableAll self).removeIfAdded).closeSocket
  else attached

/-- `HandleClose` up to its close callback; the socket is closed after that. -/
def beginHandleClose (self : ConnId) (attached : Attached) : Attached :=
  ((attached.setState .disconnected).disableAll self).removeIfAdded

/-- `SendInLoop(data, len)` with the bytes it reads. -/
def sendInLoop (self : ConnId) (attached : Attached) (data : List UInt8) : Attached :=
  if attached.conn.isConnected then
    let appended : Attached :=
      { attached with
        conn := { attached.conn with outputBuffer := attached.conn.outputBuffer.append data } }
    if attached.conn.channel.writing then appended else appended.enableWriting self
  else attached

/-- `ShutdownInLoop`. -/
def shutdownInLoop (self : ConnId) (attached : Attached) : Attached :=
  if 0 < attached.conn.outputBuffer.readableBytes then
    if attached.conn.channel.writing then attached else attached.enableWriting self
  else attached.closeSocket.setState .disconnected

/-- `ForceCloseInLoop` up to its close callback, for a connection that is still open. -/
def beginForceClose (self : ConnId) (attached : Attached) : Attached :=
  ((attached.setState .disconnected).disableAll self).closeSocket

/-- What a `HandleWrite` does: the connection after it, the bytes that `write` took,
whether it calls the write-complete callback and whether it goes on to `HandleClose`. -/
structure WriteEffect where
  after : Attached
  sent : List UInt8
  completes : Bool
  closes : Bool

/-- `HandleWrite`. `WriteToFd` answers 0 without an error for an empty buffer, and an
answer that is neither positive nor would-block closes the connection. -/
def handleWrite (self : ConnId) (attached : Attached) (result : WriteResult) : WriteEffect :=
  if attached.conn.isConnected then
    if attached.conn.outputBuffer.readableBytes = 0 then ⟨attached, [], false, true⟩
    else
      match result with
      | .wouldBlock => ⟨attached, [], false, false⟩
      | .failed => ⟨attached, [], false, true⟩
      | .wrote count =>
          if inside : 0 < count ∧ count ≤ attached.conn.outputBuffer.readableBytes then
            let retrieved := attached.conn.outputBuffer.retrieve count inside.2
            let written : Attached :=
              { attached with conn := { attached.conn with outputBuffer := retrieved } }
            let drained := retrieved.readableBytes = 0
            ⟨if drained then written.disableWriting self else written,
              attached.conn.outputBuffer.content.take count, drained, false⟩
          else ⟨attached, [], false, true⟩
  else ⟨attached, [], false, false⟩

/-! ### Functions that go on with the connection -/

/-- Poller, channel, state and socket are the same. -/
structure SameRegistration (before after : Attached) : Prop where
  poller : after.poller = before.poller
  channel : after.conn.channel = before.conn.channel
  state : after.conn.state = before.conn.state
  socketFd : after.conn.socketFd = before.conn.socketFd

/-- What a function does that does not close the connection: it leaves the registration
alone, and may turn the channel's interest in writing to `writing` after that. -/
inductive WriteStep (self : ConnId) (writing : Bool) (before : Attached) : Attached → Prop where
  | outside (after : Attached) (same : SameRegistration before after) :
      WriteStep self writing before after
  | interest (middle : Attached) (same : SameRegistration before middle) :
      WriteStep self writing before
        (middle.updateChannel self { middle.conn.channel with writing := writing })

theorem WriteStep.state {self : ConnId} {writing : Bool} {before after : Attached}
    (step : WriteStep self writing before after) : after.conn.state = before.conn.state := by
  cases step with
  | outside _ same | interest _ same => exact same.state

theorem WriteStep.socketFd {self : ConnId} {writing : Bool} {before after : Attached}
    (step : WriteStep self writing before after) :
    after.conn.socketFd = before.conn.socketFd := by
  cases step with
  | outside _ same | interest _ same => exact same.socketFd

theorem writeStep_sendInLoop (self : ConnId) (attached : Attached) (data : List UInt8) :
    WriteStep self true attached (attached.sendInLoop self data) := by
  unfold sendInLoop
  split_ifs
  · exact .outside _ ⟨rfl, rfl, rfl, rfl⟩
  · exact .interest { attached with
      conn := { attached.conn with
        outputBuffer := attached.conn.outputBuffer.append data } } ⟨rfl, rfl, rfl, rfl⟩
  · exact .outside _ ⟨rfl, rfl, rfl, rfl⟩

/-- The end of the output ends the interest in writing. -/
theorem writeStep_handleWrite (self : ConnId) (attached : Attached) (result : WriteResult) :
    WriteStep self false attached (attached.handleWrite self result).after := by
  unfold handleWrite
  cases result with
  | wrote count =>
      dsimp only
      split_ifs with connected empty inside drained
      · exact .outside _ ⟨rfl, rfl, rfl, rfl⟩
      · exact .interest { attached with
          conn := { attached.conn with
            outputBuffer := attached.conn.outputBuffer.retrieve count inside.2 } }
          ⟨rfl, rfl, rfl, rfl⟩
      · exact .outside _ ⟨rfl, rfl, rfl, rfl⟩
      · exact .outside _ ⟨rfl, rfl, rfl, rfl⟩
      · exact .outside _ ⟨rfl, rfl, rfl, rfl⟩
  | wouldBlock | failed =>
      dsimp only
      split_ifs <;> exact .outside _ ⟨rfl, rfl, rfl, rfl⟩

/-- With bytes to send `ShutdownInLoop` only asks for writable events. -/
theorem writeStep_shutdownInLoop (self : ConnId) (attached : Attached)
    (output : attached.conn.outputBuffer.content ≠ []) :
    WriteStep self true attached (attached.shutdownInLoop self) := by
  rw [Ne, Buffer.content_eq_nil_iff] at output
  unfold shutdownInLoop
  rw [if_pos (Nat.pos_of_ne_zero output)]
  split
  · exact .outside _ ⟨rfl, rfl, rfl, rfl⟩
  · exact .interest attached ⟨rfl, rfl, rfl, rfl⟩

theorem shutdownInLoop_of_empty (self : ConnId) (attached : Attached)
    (empty : attached.conn.outputBuffer.content = []) :
    attached.shutdownInLoop self = attached.closeSocket.setState .disconnected := by
  rw [Buffer.content_eq_nil_iff] at empty
  simp [shutdownInLoop, empty]

/-- `ShutdownInLoop` waits for the output, or closes the socket. -/
theorem shutdownInLoop_cases (self : ConnId) (attached : Attached) :
    WriteStep self true attached (attached.shutdownInLoop self) ∨
      attached.shutdownInLoop self = attached.closeSocket.setState .disconnected := by
  by_cases empty : attached.conn.outputBuffer.content = []
  · exact .inr (attached.shutdownInLoop_of_empty self empty)
  · exact .inl (attached.writeStep_shutdownInLoop self empty)

/-! ### What the handlers leave alone -/

section Frames

variable (self : ConnId) (attached : Attached)

@[simp] theorem updateChannel_state (channel : Channel) :
    (attached.updateChannel self channel).conn.state = attached.conn.state := rfl

@[simp] theorem updateChannel_socketFd (channel : Channel) :
    (attached.updateChannel self channel).conn.socketFd = attached.conn.socketFd := rfl

@[simp] theorem updateChannel_outputBuffer (channel : Channel) :
    (attached.updateChannel self channel).conn.outputBuffer = attached.conn.outputBuffer := rfl

@[simp] theorem setState_state (state : ConnectionState) :
    (attached.setState state).conn.state = state := rfl

@[simp] theorem closeSocket_state : attached.closeSocket.conn.state = attached.conn.state := rfl

@[simp] theorem closeSocket_socketFd : attached.closeSocket.conn.socketFd = invalidSocket := rfl

@[simp] theorem removeIfAdded_state :
    attached.removeIfAdded.conn.state = attached.conn.state := by
  unfold removeIfAdded
  split <;> rfl

@[simp] theorem beginHandleClose_state :
    (attached.beginHandleClose self).conn.state = .disconnected := by
  simp [beginHandleClose, disableAll]

@[simp] theorem removeIfAdded_socketFd :
    attached.removeIfAdded.conn.socketFd = attached.conn.socketFd := by
  unfold removeIfAdded
  split <;> rfl

@[simp] theorem beginHandleClose_socketFd :
    (attached.beginHandleClose self).conn.socketFd = attached.conn.socketFd := by
  simp only [beginHandleClose, removeIfAdded_socketFd, disableAll, updateChannel_socketFd]
  rfl

@[simp] theorem beginForceClose_state :
    (attached.beginForceClose self).conn.state = .disconnected := rfl

@[simp] theorem sendInLoop_state (data : List UInt8) :
    (attached.sendInLoop self data).conn.state = attached.conn.state :=
  (writeStep_sendInLoop self attached data).state

@[simp] theorem sendInLoop_socketFd (data : List UInt8) :
    (attached.sendInLoop self data).conn.socketFd = attached.conn.socketFd :=
  (writeStep_sendInLoop self attached data).socketFd

@[simp] theorem handleWrite_state (result : WriteResult) :
    (attached.handleWrite self result).after.conn.state = attached.conn.state :=
  (writeStep_handleWrite self attached result).state

@[simp] theorem handleWrite_socketFd (result : WriteResult) :
    (attached.handleWrite self result).after.conn.socketFd = attached.conn.socketFd :=
  (writeStep_handleWrite self attached result).socketFd

/-- `ShutdownInLoop` leaves the state or disconnects. -/
theorem shutdownInLoop_state :
    (attached.shutdownInLoop self).conn.state = attached.conn.state ∨
      (attached.shutdownInLoop self).conn.state = .disconnected := by
  rcases attached.shutdownInLoop_cases self with waits | closed
  · exact .inl waits.state
  · exact .inr (by rw [closed, setState_state])

/-- `SendInLoop` appends in a connected connection. -/
theorem content_sendInLoop (connected : attached.conn.isConnected = true) (data : List UInt8) :
    (attached.sendInLoop self data).conn.outputBuffer.content =
      attached.conn.outputBuffer.content ++ data := by
  unfold sendInLoop
  rw [if_pos connected]
  dsimp only
  split <;> simp [enableWriting]

theorem handleWrite_of_not_connected (stopped : attached.conn.isConnected = false)
    (result : WriteResult) :
    attached.handleWrite self result = ⟨attached, [], false, false⟩ := by
  simp [handleWrite, stopped]

/-- With nothing to write the answer of `WriteToFd` counts as an error. -/
theorem handleWrite_of_empty (connected : attached.conn.isConnected = true)
    (empty : attached.conn.outputBuffer.content = []) (result : WriteResult) :
    attached.handleWrite self result = ⟨attached, [], false, true⟩ := by
  rw [Buffer.content_eq_nil_iff] at empty
  simp [handleWrite, connected, empty]

/-- A would-block answer changes nothing. -/
theorem handleWrite_wouldBlock (pending : attached.conn.outputBuffer.content ≠ []) :
    attached.handleWrite self .wouldBlock = ⟨attached, [], false, false⟩ := by
  rw [Ne, Buffer.content_eq_nil_iff] at pending
  simp [handleWrite, pending]

theorem handleWrite_of_wrote (connected : attached.conn.isConnected = true) {count : Nat}
    (positive : 0 < count) (inside : count ≤ attached.conn.outputBuffer.readableBytes) :
    attached.handleWrite self (.wrote count) =
      let retrieved := attached.conn.outputBuffer.retrieve count inside
      let written : Attached :=
        { attached with conn := { attached.conn with outputBuffer := retrieved } }
      let drained := retrieved.readableBytes = 0
      ⟨if drained then written.disableWriting self else written,
        attached.conn.outputBuffer.content.take count, drained, false⟩ := by
  have nonempty : attached.conn.outputBuffer.readableBytes ≠ 0 := by omega
  unfold handleWrite
  rw [if_pos connected, if_neg nonempty]
  dsimp only
  rw [dif_pos ⟨positive, inside⟩]

/-- A positive count moves that many bytes from the buffer to the kernel. -/
theorem handleWrite_wrote (connected : attached.conn.isConnected = true) {count : Nat}
    (positive : 0 < count) (inside : count ≤ attached.conn.outputBuffer.readableBytes) :
    let effect := attached.handleWrite self (.wrote count)
    effect.closes = false ∧ effect.sent = attached.conn.outputBuffer.content.take count ∧
      effect.after.conn.outputBuffer.content = attached.conn.outputBuffer.content.drop count := by
  intro effect
  have answer : effect = _ := attached.handleWrite_of_wrote self connected positive inside
  rw [answer]
  refine ⟨rfl, rfl, ?_⟩
  dsimp only
  split <;> simp [disableWriting]

end Frames

/-! ### What a handler can do to the poller -/

/-- A handler changes its poller under its own fd only, and registers only itself there. -/
structure Touches (who : ConnId) (before after : Attached) : Prop where
  fd : after.conn.channel.fd = before.conn.channel.fd
  elsewhere : ∀ fd, fd ≠ before.conn.channel.fd →
    after.poller.lookup fd = before.poller.lookup fd
  own : after.poller.lookup before.conn.channel.fd = none ∨
    after.poller.lookup before.conn.channel.fd = some who ∨
    after.poller.lookup before.conn.channel.fd = before.poller.lookup before.conn.channel.fd

namespace Touches

variable {who : ConnId} {before middle after attached : Attached}

theorem of_eq (fd : after.conn.channel.fd = before.conn.channel.fd)
    (poller : after.poller = before.poller) : Touches who before after :=
  ⟨fd, fun _ _ => by rw [poller], .inr (.inr (by rw [poller]))⟩

theorem trans (first : Touches who before middle) (second : Touches who middle after) :
    Touches who before after := by
  refine ⟨second.fd.trans first.fd, fun fd other => ?_, ?_⟩
  · rw [second.elsewhere fd (by rw [first.fd]; exact other), first.elsewhere fd other]
  · rcases second.own with absent | own | same
    · exact .inl (first.fd ▸ absent)
    · exact .inr (.inl (first.fd ▸ own))
    · rw [first.fd] at same
      rw [same]
      exact first.own

theorem updateChannel {channel : Channel} (fd : channel.fd = attached.conn.channel.fd) :
    Touches who attached (attached.updateChannel who channel) := by
  cases silent : channel.hasNoEvents with
  | true =>
      have lookups :=
        @EpollPoller.lookup_updateChannel_of_hasNoEvents attached.poller who channel silent
      refine ⟨(EpollPoller.updateChannel_fd _ _ _).trans fd, fun other different => ?_, .inl ?_⟩
      · rw [← fd] at different
        exact (lookups other).trans (if_neg different)
      · rw [← fd]
        exact (lookups channel.fd).trans (if_pos rfl)
  | false =>
      have lookups :=
        @EpollPoller.lookup_updateChannel_of_events attached.poller who channel silent
      refine ⟨(EpollPoller.updateChannel_fd _ _ _).trans fd, fun other different => ?_, .inr ?_⟩
      · rw [← fd] at different
        exact (lookups other).trans (if_neg different)
      · rw [← fd]
        have own := (lookups channel.fd).trans (if_pos rfl)
        cases found : attached.poller.lookup channel.fd with
        | none =>
            rw [found] at own
            exact .inl own
        | some other =>
            rw [found] at own
            exact .inr own

theorem removeIfAdded : Touches who attached attached.removeIfAdded := by
  unfold Attached.removeIfAdded
  split
  · have lookups := EpollPoller.lookup_removeChannel attached.poller attached.conn.channel
    refine ⟨EpollPoller.removeChannel_fd _ _, fun other different => ?_, .inl ?_⟩
    · exact (lookups other).trans (if_neg different)
    · exact (lookups _).trans (if_pos rfl)
  · exact of_eq rfl rfl

theorem connectEstablished : Touches who attached (attached.connectEstablished who) := by
  have opened : Touches who attached (attached.setState .connected) := of_eq rfl rfl
  exact opened.trans (updateChannel rfl)

theorem disableAll : Touches who attached (attached.disableAll who) := updateChannel rfl

theorem beginHandleClose : Touches who attached (attached.beginHandleClose who) := by
  have closed : Touches who attached (attached.setState .disconnected) := of_eq rfl rfl
  exact (closed.trans disableAll).trans removeIfAdded

theorem beginForceClose : Touches who attached (attached.beginForceClose who) := by
  have closed : Touches who attached (attached.setState .disconnected) := of_eq rfl rfl
  exact (closed.trans disableAll).trans (of_eq rfl rfl)

theorem of_writeStep {writing : Bool} (step : WriteStep who writing attached after) :
    Touches who attached after := by
  cases step with
  | outside _ same => exact of_eq (by rw [same.channel]) same.poller
  | interest middle same =>
      have outside : Touches who attached middle := of_eq (by rw [same.channel]) same.poller
      exact outside.trans (updateChannel rfl)

theorem sendInLoop (data : List UInt8) : Touches who attached (attached.sendInLoop who data) :=
  of_writeStep (attached.writeStep_sendInLoop who data)

theorem shutdownInLoop : Touches who attached (attached.shutdownInLoop who) := by
  rcases attached.shutdownInLoop_cases who with waits | closed
  · exact of_writeStep waits
  · rw [closed]
    exact of_eq rfl rfl

theorem handleWrite (result : WriteResult) :
    Touches who attached (attached.handleWrite who result).after :=
  of_writeStep (attached.writeStep_handleWrite who result)

end Touches

end Attached

end TurboCore.Net
