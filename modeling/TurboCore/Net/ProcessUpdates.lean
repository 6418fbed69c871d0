import Mathlib
import TurboCore.Net.ServerProcess
import TurboCore.Net.ServerQueues

/-!
# What the code of the process does to its server

Every function of the process is a sequence of a few kinds of updates. What an update
keeps, every handler, functor, call and destructor keeps.
-/

namespace TurboCore.Net

open Foundation TcpServer

/-- A handler moves its connection forward, under its own number in the poller, and keeps
the socket or closes it for good. -/
structure Attached.Moves (who : ConnId) (before after : Attached) : Prop where
  forward : before.conn.state.rank ≤ after.conn.state.rank
  touches : Attached.Touches who before after
  socket : after.conn.socketFd = before.conn.socketFd ∨
    after.conn.socketFd = invalidSocket ∧ after.conn.state = .disconnected

namespace Attached.Moves

variable {who : ConnId} {attached : Attached}

theorem beginHandleClose : Moves who attached (attached.beginHandleClose who) where
  forward := by simpa using WellQueued.rank_le_disconnected _
  touches := .beginHandleClose
  socket := .inl (by simp)

theorem beginForceClose : Moves who attached (attached.beginForceClose who) where
  forward := by simpa using WellQueued.rank_le_disconnected _
  touches := .beginForceClose
  socket := .inr ⟨rfl, rfl⟩

theorem closeSocket (state : attached.conn.state = .disconnected) :
    Moves who attached attached.closeSocket where
  forward := Nat.le_refl _
  touches := .of_eq rfl rfl
  socket := .inr ⟨rfl, state⟩

theorem sendInLoop (data : List UInt8) : Moves who attached (attached.sendInLoop who data) where
  forward := by simp
  touches := .sendInLoop data
  socket := .inl (by simp)

theorem handleWrite (result : WriteResult) :
    Moves who attached (attached.handleWrite who result).after where
  forward := by simp
  touches := .handleWrite result
  socket := .inl (by simp)

theorem shutdownInLoop : Moves who attached (attached.shutdownInLoop who) := by
  rcases attached.shutdownInLoop_cases who with waits | closed
  · exact ⟨by rw [waits.state], .shutdownInLoop, .inl waits.socketFd⟩
  · refine ⟨?_, .shutdownInLoop, .inr ?_⟩
    · rw [closed]
      exact WellQueued.rank_le_disconnected _
    · rw [closed]
      exact ⟨rfl, rfl⟩

theorem setDisconnecting
    (polled : attached.conn.state = .connected ∨ attached.conn.state = .disconnecting) :
    Moves who attached (attached.setState .disconnecting) where
  forward := by rcases polled with state | state <;> simp [state, ConnectionState.rank]
  touches := .of_eq rfl rfl
  socket := .inl rfl

end Attached.Moves

/-- What a new entry shares with the old one no connection loses. -/
theorem TcpServer.entry_withEntry {Field : Type} (field : ServerConnection → Field)
    {server : TcpServer} {self : ConnId} {entry : ServerConnection}
    (same : field entry = field (server.entry self)) (other : ConnId) :
    field ((server.withEntry self entry).entry other) = field (server.entry other) := by
  rw [withEntry_entry, Function.update_apply]
  split
  · next self_eq => rw [same, self_eq]
  · rfl

/-- The destructor of a connection keeps its state and closes its socket. -/
theorem TcpServer.destroy_eq (server : TcpServer) (self : ConnId) : ∃ attached : Attached,
    attached.conn.state = (server.conn self).state ∧ attached.conn.socketFd = invalidSocket ∧
      server.destroy self = (server.setAttached self attached).markDestroyed self := by
  refine ⟨_, ?_, ?_, rfl⟩
  · split <;> rfl
  · rfl

theorem TcpServer.state_destroy (server : TcpServer) (self other : ConnId) :
    ((server.destroy self).conn other).state = (server.conn other).state := by
  obtain ⟨attached, state, _, destroyed⟩ := destroy_eq server self
  rw [destroyed, conn_markDestroyed, conn_setAttached]
  split
  · next same => rw [state, same]
  · rfl

/-- The connection waits to be established, and no queue holds the functor for it. -/
structure TcpServer.Fresh (server : TcpServer) (who : ConnId) : Prop where
  known : who < server.created
  connecting : (server.conn who).state = .connecting
  taken : ∀ loop, .connectEstablished who ∉ server.pending loop

/-- Connections are added, stay on their loop and move forward. -/
structure Forward (before after : TcpServer) : Prop where
  created : before.created ≤ after.created
  loopOf : ∀ self, self < before.created → after.loopOf self = before.loopOf self
  rank : ∀ self, self < before.created →
    (before.conn self).state.rank ≤ (after.conn self).state.rank

namespace Forward

variable {before middle after server : TcpServer} {self : ConnId}

theorem refl (server : TcpServer) : Forward server server :=
  ⟨Nat.le_refl _, fun _ _ => rfl, fun _ _ => Nat.le_refl _⟩

theorem trans (first : Forward before middle) (second : Forward middle after) :
    Forward before after where
  created := first.created.trans second.created
  loopOf self known :=
    (second.loopOf self (known.trans_le first.created)).trans (first.loopOf self known)
  rank self known :=
    (first.rank self known).trans (second.rank self (known.trans_le first.created))

theorem of_conn_eq (created : after.created = before.created)
    (loopOf : ∀ self, after.loopOf self = before.loopOf self)
    (conn : ∀ self, after.conn self = before.conn self) : Forward before after :=
  ⟨created.ge, fun self _ => loopOf self, fun self _ => by rw [conn self]⟩

theorem setAttached {attached : Attached}
    (rank : (server.conn self).state.rank ≤ attached.conn.state.rank) :
    Forward server (server.setAttached self attached) := by
  refine ⟨Nat.le_refl _, fun other _ => by simp, fun other _ => ?_⟩
  rw [conn_setAttached]
  split
  · next same => exact same ▸ rank
  · exact Nat.le_refl _

theorem connectEstablished (fresh : server.Fresh self) :
    Forward server (server.connectEstablished self) := by
  have rank : (server.conn self).state.rank ≤
      ((server.attached self).connectEstablished self).conn.state.rank := by
    rw [fresh.connecting]
    exact Nat.zero_le _
  refine (Forward.setAttached rank).trans (.of_conn_eq rfl (fun _ => ?_) fun _ => ?_)
  · simp [TcpServer.connectEstablished]
  · simp [TcpServer.connectEstablished]

theorem destroy (self : ConnId) : Forward server (server.destroy self) where
  created := Nat.le_refl _
  loopOf other _ := by simp [TcpServer.destroy]
  rank other _ := by rw [state_destroy]

theorem addConnection (fd : Nat) : Forward server (server.addConnection fd) := by
  refine ⟨Nat.le_succ _, fun self known => ?_, fun self known => ?_⟩
  · simp [Nat.ne_of_lt known]
  · simp [Nat.ne_of_lt known]

theorem disconnected (forward : Forward before after) (known : self < before.created)
    (state : (before.conn self).state = .disconnected) :
    (after.conn self).state = .disconnected :=
  eq_disconnected_of_rank (forward.rank self known) state

/-- An established connection never is connecting again. -/
theorem started (forward : Forward before after) (known : self < before.created)
    (started : (before.conn self).state ≠ .connecting) :
    (after.conn self).state ≠ .connecting := by
  intro connecting
  have rank := forward.rank self known
  rw [connecting] at rank
  cases state : (before.conn self).state <;> rw [state] at rank started <;>
    simp [ConnectionState.rank] at rank started

end Forward

/-- `HandleNewConnection` is about to establish the connection. -/
def ServerProcess.Accepts (process : ServerProcess) (self : ConnId) : Prop :=
  ∃ active, process.phase 0 = .accepting self active

/-- One statement of the code, as far as it concerns the server. -/
inductive ServerUpdate (before : ServerProcess) : ServerProcess → Prop where
  | check (thread : ThreadId) (loop : LoopId) :
      ServerUpdate before (before.assertInLoopThread thread loop)
  | handle {self : ConnId} {attached : Attached} (known : self < before.server.created)
      (started : (before.server.conn self).state ≠ .connecting)
      (moves : Attached.Moves self (before.server.attached self) attached) :
      ServerUpdate before (before.withServer (before.server.setAttached self attached))
  | close {self : ConnId} {attached : Attached} (known : self < before.server.created)
      (started : (before.server.conn self).state ≠ .connecting)
      (opened : (before.server.conn self).state ≠ .disconnected)
      (moves : Attached.Moves self (before.server.attached self) attached)
      (closed : attached.conn.state = .disconnected) :
      ServerUpdate before
        (before.withServer ((before.server.setAttached self attached).countClose self))
  | closeElsewhere {self : ConnId} {attached : Attached} (known : self < before.server.created)
      (started : (before.server.conn self).state ≠ .connecting)
      (opened : (before.server.conn self).state ≠ .disconnected)
      (moves : Attached.Moves self (before.server.attached self) attached)
      (closed : attached.conn.state = .disconnected) (away : before.server.loopOf self ≠ 0) :
      ServerUpdate before
        (before.withServer (((before.server.setAttached self attached).countClose self).queueInLoop
          0 (.removeConnection self)))
  | erase {self : ConnId} (known : self < before.server.created)
      (closed : (before.server.conn self).state = .disconnected) :
      ServerUpdate before (before.eraseConnection self)
  | message (self : ConnId) :
      ServerUpdate before (before.withServer (before.server.callBack self .message))
  | queue {functor : ServerFunctor} (known : functor.conn < before.server.created)
      (fits : functor.fits (before.server.conn functor.conn).state)
      (established : ∀ self, functor ≠ .connectEstablished self)
      (removal : ∀ self, functor ≠ .removeConnection self) :
      ServerUpdate before
        (before.withServer (before.server.queueInLoop (before.server.homeOf functor) functor))
  | establish {self : ConnId} (fresh : before.server.Fresh self)
      (unaccepted : ¬ before.Accepts self)
      (runs : before.threadId (before.server.loopOf self) = runner (before.server.loopOf self)) :
      ServerUpdate before (before.withServer (before.server.connectEstablished self))
  | unqueue (loop : LoopId) : ServerUpdate before (before.withServer (before.server.unqueue loop))
  | destroy {self : ConnId} (thread : ThreadId) (known : self < before.server.created)
      (unlisted : ∀ fd, before.server.connections.lookup fd ≠ some self) :
      ServerUpdate before (before.destroy thread self)
  | clear (cleared : before.control.stage.isCleared = true) :
      ServerUpdate before (before.withServer { before.server with connections := ∅ })
  | dropQueue (loop : LoopId) :
      ServerUpdate before
        (before.withServer
          { before.server with pending := Function.update before.server.pending loop [] })

/-- A part of `HandleNewConnection`, with the place of the main loop in it. -/
inductive AcceptUpdate (before : ServerProcess) : ServerProcess → Prop where
  | add {fd : Nat} {active : List ReadyChannel} (phase : before.phase 0 = .handling active)
      (serving : before.control.stage = .serving) (free : before.server.isFree fd = true) :
      AcceptUpdate before
        ((before.withServer (before.server.addConnection fd)).setPhase 0
          (.accepting before.server.created active))
  | establish {self : ConnId} {active : List ReadyChannel}
      (phase : before.phase 0 = .accepting self active)
      (serving : before.control.stage = .serving) (fresh : before.server.Fresh self) :
      AcceptUpdate before
        ((before.withServer (before.server.connectEstablished self)).setPhase 0
          (.handling active))
  | queue {self : ConnId} {active : List ReadyChannel}
      (phase : before.phase 0 = .accepting self active)
      (serving : before.control.stage = .serving) (fresh : before.server.Fresh self)
      (away : before.threadId (before.server.loopOf self) ≠ .main) :
      AcceptUpdate before
        ((before.withServer
          (before.server.queueInLoop (before.server.loopOf self)
            (.connectEstablished self))).setPhase 0 (.handling active))

/-- The loops stay where they are, and the main thread does not enter `~TcpServer`; a
connection that it is done with there is closed, unless its loop's thread has to do it or
it was not established. -/
structure ServerProcess.Settles (process : ServerProcess) (control : ProcessControl) : Prop where
  threadId : ∀ loop, (control.loops loop).threadId = process.threadId loop
  phase : ∀ loop, (control.loops loop).phase = process.phase loop
  dying : control.dying = process.control.dying
  tornDown : control.tornDown = process.control.tornDown
  serving : control.stage = .serving ↔ process.control.stage = .serving
  cleared : process.control.stage.isCleared = true → control.stage.isCleared = true
  remaining : ∀ self ∈ control.stage.remaining, self ∈ process.control.stage.remaining
  closed : ∀ self ∈ process.control.stage.remaining, self ∉ control.stage.remaining →
    process.threadId (process.server.loopOf self) = .main →
      (process.server.conn self).state = .connecting ∨
        (process.server.conn self).state = .disconnected

/-- A change of what the threads do; `admits` holds where `~TcpServer` begins. -/
inductive ControlUpdate (admits : ServerProcess → Prop) (before : ServerProcess) :
    ServerProcess → Prop where
  | setPhase {loop : LoopId} {phase : LoopPhase} (running : before.phase loop ≠ .unstarted)
      (unaccepted : (before.phase loop).isAccepting = false) (runs : phase ≠ .unstarted)
      (unaccepting : phase.isAccepting = false)
      (active : ∀ ready ∈ phase.active, ready.conn < before.server.created ∧
        before.server.loopOf ready.conn = loop ∧
        (before.server.conn ready.conn).state ≠ .connecting) :
      ControlUpdate admits before (before.setPhase loop phase)
  | setLoop {loop : LoopId} {eventLoop : EventLoop} (sub : 0 < loop)
      (threads : eventLoop.threadId =
        if eventLoop.phase = .unstarted then .main else runner loop)
      (idle : eventLoop.phase.active = []) (unaccepting : eventLoop.phase.isAccepting = false) :
      ControlUpdate admits before
        (before.withControl
          { before.control with
            loops := Function.update before.control.loops loop eventLoop })
  | retire (thread : ThreadId) : ControlUpdate admits before (before.retire thread)
  | settle {control : ProcessControl} (settles : before.Settles control) :
      ControlUpdate admits before (before.withControl control)
  | begin (admitted : admits before) (serving : before.control.stage = .serving)
      (unaccepting : (before.phase 0).isAccepting = false) :
      ControlUpdate admits before before.beginDestructor

theorem ServerUpdate.control_eq {before after : ServerProcess}
    (update : ServerUpdate before after) : after.control = before.control := by
  cases update with
  | destroy thread _ _ =>
      simp only [ServerProcess.destroy]
      split <;> rfl
  | _ => rfl

theorem ServerUpdate.created_eq {before after : ServerProcess}
    (update : ServerUpdate before after) : after.server.created = before.server.created := by
  cases update <;> rfl

theorem ServerUpdate.threadNum_eq {before after : ServerProcess}
    (update : ServerUpdate before after) : after.server.threadNum = before.server.threadNum := by
  cases update <;> rfl

theorem ServerUpdate.forward {before after : ServerProcess}
    (update : ServerUpdate before after) : Forward before.server after.server := by
  cases update with
  | check thread loop => exact .refl _
  | handle known started moves => exact .setAttached moves.forward
  | close known started opened moves closed =>
      exact (Forward.setAttached moves.forward).trans
        (.of_conn_eq rfl (fun _ => by simp) fun _ => by simp)
  | closeElsewhere known started opened moves closed away =>
      exact (Forward.setAttached moves.forward).trans
        (.of_conn_eq rfl (fun _ => by simp) fun _ => by simp)
  | message self => exact .of_conn_eq rfl (fun _ => by simp) fun _ => by simp
  | establish fresh unaccepted runs => exact .connectEstablished fresh
  | destroy thread known unlisted => exact .destroy _
  | erase | queue | unqueue | clear | dropQueue =>
      exact .of_conn_eq rfl (fun _ => rfl) fun _ => rfl

/-- A function of the code that runs on one thread to its end. -/
abbrev ServerUpdates := Relation.ReflTransGen ServerUpdate

/-- One statement of an event. -/
inductive ProcessUpdate (admits : ServerProcess → Prop) (before after : ServerProcess) : Prop where
  | server (update : ServerUpdate before after)
  | accept (update : AcceptUpdate before after)
  | control (update : ControlUpdate admits before after)

/-- An event of the process, statement by statement. -/
abbrev ProcessUpdates (admits : ServerProcess → Prop) :=
  Relation.ReflTransGen (ProcessUpdate admits)

namespace ServerUpdates

variable {before after : ServerProcess}

theorem control_eq (updates : ServerUpdates before after) : after.control = before.control := by
  induction updates with
  | refl => rfl
  | tail _ update inductionHypothesis => exact update.control_eq.trans inductionHypothesis

theorem forward (updates : ServerUpdates before after) : Forward before.server after.server := by
  induction updates with
  | refl => exact .refl _
  | tail _ update inductionHypothesis => exact inductionHypothesis.trans update.forward

theorem processUpdates {admits : ServerProcess → Prop} (updates : ServerUpdates before after) :
    ProcessUpdates admits before after := by
  induction updates with
  | refl => exact .refl
  | tail _ update inductionHypothesis => exact inductionHypothesis.tail (.server update)

end ServerUpdates

theorem AcceptUpdate.forward {before after : ServerProcess} (update : AcceptUpdate before after) :
    Forward before.server after.server := by
  cases update with
  | add phase serving free => exact .addConnection _
  | establish phase serving fresh => exact .connectEstablished fresh
  | queue phase serving fresh away => exact .of_conn_eq rfl (fun _ => rfl) fun _ => rfl

theorem ControlUpdate.server_eq {admits : ServerProcess → Prop} {before after : ServerProcess}
    (update : ControlUpdate admits before after) : after.server = before.server := by
  cases update <;> rfl

namespace ProcessUpdates

variable {admits : ServerProcess → Prop} {before middle after : ServerProcess}

theorem server (updates : ProcessUpdates admits before middle)
    (update : ServerUpdate middle after) : ProcessUpdates admits before after :=
  updates.tail (.server update)

theorem accept (updates : ProcessUpdates admits before middle)
    (update : AcceptUpdate middle after) : ProcessUpdates admits before after :=
  updates.tail (.accept update)

theorem control (updates : ProcessUpdates admits before middle)
    (update : ControlUpdate admits middle after) : ProcessUpdates admits before after :=
  updates.tail (.control update)

theorem of_control (update : ControlUpdate admits before after) :
    ProcessUpdates admits before after :=
  .single (.control update)

end ProcessUpdates

namespace ServerProcess

variable {process : ServerProcess} {thread : ThreadId} {self : ConnId} {attached : Attached}

theorem phase_setPhase (loop target : LoopId) (phase : LoopPhase) :
    (process.setPhase loop phase).phase target =
      if target = loop then phase else process.phase target := by
  simp only [setPhase, ServerProcess.phase, withControl_control, Function.update_apply]
  split <;> rfl

@[simp] theorem threadId_setPhase (loop target : LoopId) (phase : LoopPhase) :
    (process.setPhase loop phase).threadId target = process.threadId target := by
  simp only [setPhase, threadId, withControl_control, Function.update_apply]
  split
  · next same => rw [same]
  · rfl

@[simp] theorem withServer_withServer (first second : TcpServer) :
    (process.withServer first).withServer second = process.withServer second := rfl

@[simp] theorem withServer_server_self : process.withServer process.server = process := rfl

@[simp] theorem threadId_withServer (server : TcpServer) (loop : LoopId) :
    (process.withServer server).threadId loop = process.threadId loop := rfl

@[simp] theorem phase_withServer (server : TcpServer) (loop : LoopId) :
    (process.withServer server).phase loop = process.phase loop := rfl

@[simp] theorem isInLoopThread_withServer (server : TcpServer) (loop : LoopId) :
    (process.withServer server).isInLoopThread thread loop =
      process.isInLoopThread thread loop := rfl

theorem updates_check (loop : LoopId) :
    ServerUpdates process (process.assertInLoopThread thread loop) :=
  .single (.check thread loop)

/-- `ConnectDestroyed` finds the connection closed and does nothing. -/
theorem connectDestroyed_of_closed (closed : (process.server.conn self).state = .disconnected) :
    process.connectDestroyed thread self =
      process.assertInLoopThread thread (process.server.loopOf self) := by
  unfold connectDestroyed
  rw [connectDestroyed_of_disconnected _ _ closed]
  rfl

theorem updates_connectDestroyed (closed : (process.server.conn self).state = .disconnected) :
    ServerUpdates process (process.connectDestroyed thread self) := by
  rw [connectDestroyed_of_closed closed]
  exact updates_check _

theorem updates_removeInLoop (known : self < process.server.created)
    (closed : (process.server.conn self).state = .disconnected) :
    ServerUpdates process (process.removeInLoop thread self) := by
  have erased : ServerUpdates process ((process.assertInLoopThread thread 0).eraseConnection self) :=
    (updates_check 0).tail (.erase known closed)
  unfold removeInLoop
  dsimp only
  split
  · exact erased.trans (updates_connectDestroyed closed)
  · refine erased.tail ?_
    exact @ServerUpdate.queue _ (.connectDestroyed self) known closed (by simp) (by simp)

/-- The close callback leaves the connections alone. -/
theorem conn_removeInLoop (closed : (process.server.conn self).state = .disconnected)
    (other : ConnId) :
    (process.removeInLoop thread self).server.conn other = process.server.conn other := by
  unfold removeInLoop
  dsimp only
  split
  · rw [connectDestroyed_of_closed (by exact closed)]
    rfl
  · rfl

theorem conn_handleRemoveConnection (closed : (process.server.conn self).state = .disconnected)
    (other : ConnId) :
    (process.handleRemoveConnection thread self).server.conn other = process.server.conn other := by
  unfold handleRemoveConnection
  dsimp only
  split
  · rw [conn_removeInLoop (by simpa using closed)]
    simp
  · simp

/-- A close that runs the close callback. -/
theorem updates_handleRemoveConnection (known : self < process.server.created)
    (started : (process.server.conn self).state ≠ .connecting)
    (opened : (process.server.conn self).state ≠ .disconnected)
    (home : process.threadId (process.server.loopOf self) = thread)
    (moves : Attached.Moves self (process.server.attached self) attached)
    (closed : attached.conn.state = .disconnected) :
    ServerUpdates process
      ((process.withServer (process.server.setAttached self attached)).handleRemoveConnection
        thread self) := by
  unfold handleRemoveConnection
  dsimp only
  split
  · have counted : ServerUpdates process
        (process.withServer ((process.server.setAttached self attached).countClose self)) :=
      .single (.close known started opened moves closed)
    exact counted.trans (updates_removeInLoop known (by simpa using closed))
  · next elsewhere =>
      refine .single (.closeElsewhere known started opened moves closed fun main => elsewhere ?_)
      rw [main] at home
      exact decide_eq_true home

theorem updates_closeSocket (known : self < process.server.created)
    (closed : (process.server.conn self).state = .disconnected) :
    ServerUpdates process (process.closeSocket self) :=
  .single (.handle known (by simp [closed]) (.closeSocket closed))

/-- What a handler needs: its connection is established and the loop's own. -/
structure Handles (process : ServerProcess) (thread : ThreadId) (who : ConnId) : Prop where
  known : who < process.server.created
  started : (process.server.conn who).state ≠ .connecting
  home : process.threadId (process.server.loopOf who) = thread

theorem Handles.updates {after : ServerProcess} (handles : process.Handles thread self)
    (updates : ServerUpdates process after) : after.Handles thread self where
  known := handles.known.trans_le updates.forward.created
  started := updates.forward.started handles.known handles.started
  home := by
    rw [threadId, updates.control_eq, updates.forward.loopOf self handles.known]
    exact handles.home

theorem updates_handleClose (handles : process.Handles thread self) :
    ServerUpdates process (process.handleClose thread self) := by
  have checked := @updates_check process thread (process.server.loopOf self)
  unfold handleClose
  dsimp only
  split
  · exact checked
  · next opened =>
      have here := handles.updates checked
      have told := checked.trans <| updates_handleRemoveConnection here.known here.started opened
        here.home .beginHandleClose (Attached.beginHandleClose_state _ _)
      have known := here.known.trans_le (ServerUpdates.forward told).created
      refine told.trans (updates_closeSocket known ?_)
      rw [conn_handleRemoveConnection (by simp)]
      simp

theorem updates_handleError (handles : process.Handles thread self) :
    ServerUpdates process (process.handleError thread self) :=
  updates_handleClose handles

theorem updates_handleRead (handles : process.Handles thread self) (result : ReadResult) :
    ServerUpdates process (process.handleRead thread self result) := by
  have checked := @updates_check process thread (process.server.loopOf self)
  have here := handles.updates checked
  unfold handleRead
  cases result with
  | bytes => exact checked.tail (.message self)
  | endOfFile | failed => exact checked.trans (updates_handleClose here)
  | wouldBlock => exact checked

theorem updates_handleWrite (handles : process.Handles thread self) (result : WriteResult) :
    ServerUpdates process (process.handleWrite thread self result) := by
  have checked := @updates_check process thread (process.server.loopOf self)
  have here := handles.updates checked
  have written := checked.tail (.handle here.known here.started (.handleWrite result))
  unfold handleWrite
  dsimp only
  split
  · exact written.trans (updates_handleClose (handles.updates written))
  · exact written

theorem updates_handleEvent {ready : ReadyChannel} (handles : process.Handles thread ready.conn)
    (read : ReadResult) (write : WriteResult) :
    ServerUpdates process (process.handleEvent thread ready read write) := by
  unfold handleEvent
  split
  · have failed := updates_handleError handles
    exact failed.trans (updates_handleClose (handles.updates failed))
  · split
    · exact updates_handleClose handles
    · have done : ServerUpdates process
          (if ready.readable then process.handleRead thread ready.conn read else process) := by
        split
        · exact updates_handleRead handles read
        · exact .refl
      dsimp only
      split
      · exact done.trans (updates_handleWrite (handles.updates done) write)
      · exact done

theorem updates_sendInLoop (handles : process.Handles thread self) (data : List UInt8) :
    ServerUpdates process (process.sendInLoop thread self data) := by
  have checked := @updates_check process thread (process.server.loopOf self)
  have here := handles.updates checked
  exact checked.tail (.handle here.known here.started (.sendInLoop data))

theorem updates_shutdownInLoop (handles : process.Handles thread self) :
    ServerUpdates process (process.shutdownInLoop thread self) := by
  have checked := @updates_check process thread (process.server.loopOf self)
  have here := handles.updates checked
  exact checked.tail (.handle here.known here.started .shutdownInLoop)

theorem updates_forceCloseInLoop (handles : process.Handles thread self) :
    ServerUpdates process (process.forceCloseInLoop thread self) := by
  have checked := @updates_check process thread (process.server.loopOf self)
  unfold forceCloseInLoop
  dsimp only
  split
  · next polled =>
      have here := handles.updates checked
      have opened : (process.server.conn self).state ≠ .disconnected := by
        rcases polled with state | state <;> simp [state]
      exact checked.trans <| updates_handleRemoveConnection here.known here.started opened
        here.home .beginForceClose rfl
  · exact checked

theorem updates_runFunctor {functor : ServerFunctor} (known : functor.conn < process.server.created)
    (fits : functor.fits (process.server.conn functor.conn).state)
    (home : process.threadId (process.server.homeOf functor) = thread)
    (fresh : ∀ self, functor = .connectEstablished self →
      process.server.Fresh self ∧ ¬ process.Accepts self ∧
        process.threadId (process.server.loopOf self) = runner (process.server.loopOf self)) :
    ServerUpdates process (process.runFunctor thread functor) := by
  cases functor with
  | connectEstablished self =>
      obtain ⟨waiting, unaccepted, runs⟩ := fresh self rfl
      exact (updates_check (process.server.loopOf self)).tail (.establish waiting unaccepted runs)
  | removeConnection self => exact updates_removeInLoop known fits
  | connectDestroyed self => exact updates_connectDestroyed fits
  | sendInLoop self data => exact updates_sendInLoop ⟨known, fits, home⟩ data
  | shutdownInLoop self => exact updates_shutdownInLoop ⟨known, fits, home⟩
  | forceCloseInLoop self => exact updates_forceCloseInLoop ⟨known, fits, home⟩

/-- A call runs on its loop's thread at once, or is queued. -/
theorem updates_runInLoop {functor : ServerFunctor} (known : functor.conn < process.server.created)
    (fits : functor.fits (process.server.conn functor.conn).state)
    (established : ∀ self, functor ≠ .connectEstablished self)
    (removal : ∀ self, functor ≠ .removeConnection self) :
    ServerUpdates process
      (process.runInLoop thread (process.server.homeOf functor) functor) := by
  unfold runInLoop
  split
  · next home =>
      exact updates_runFunctor known fits (of_decide_eq_true home)
        fun self same => absurd same (established self)
  · exact .single (.queue known fits established removal)

theorem updates_send (known : self < process.server.created) (data : List UInt8) :
    ServerUpdates process (process.send thread self data) := by
  unfold send
  split
  · next connected =>
      have state : (process.server.conn self).state = .connected := by
        simpa [TcpConnection.isConnected] using connected
      exact @updates_runInLoop process thread (.sendInLoop self data) known
        (by simp [ServerFunctor.fits, ServerFunctor.conn, state]) (by simp) (by simp)
  · exact .refl

/-- The call that `Shutdown` and `ForceClose` make after they left `Connected`. -/
theorem updates_setDisconnecting (known : self < process.server.created)
    (polled : (process.server.conn self).state = .connected ∨
      (process.server.conn self).state = .disconnecting) :
    ServerUpdates process (process.setDisconnecting self) := by
  refine .single (.handle known ?_ (.setDisconnecting polled))
  rcases polled with state | state <;> simp [state]

theorem updates_shutdown (known : self < process.server.created) :
    ServerUpdates process (process.shutdown thread self) := by
  unfold shutdown
  split
  · next state =>
      have left := updates_setDisconnecting known (.inl state)
      have called := @updates_runInLoop (process.setDisconnecting self) thread
        (.shutdownInLoop self) known
        (by simp [ServerFunctor.fits, ServerFunctor.conn, setDisconnecting]) (by simp) (by simp)
      simp only [TcpServer.homeOf, setDisconnecting, withServer_server, loopOf_setAttached]
        at called
      exact left.trans called
  · exact .refl

theorem updates_forceClose (known : self < process.server.created) :
    ServerUpdates process (process.forceClose thread self) := by
  unfold forceClose
  split
  · next polled =>
      have left := updates_setDisconnecting known polled
      have called := @updates_runInLoop (process.setDisconnecting self) thread
        (.forceCloseInLoop self) known
        (by simp [ServerFunctor.fits, ServerFunctor.conn, setDisconnecting]) (by simp) (by simp)
      simp only [TcpServer.homeOf, setDisconnecting, withServer_server, loopOf_setAttached]
        at called
      exact left.trans called
  · exact .refl

end ServerProcess

end TurboCore.Net
