import Mathlib
import TurboCore.Net.HandlerStack
import TurboCore.Net.LiveTable

/-!
# Who keeps a connection while its handlers run

A connection is attended while one of its handlers is on the stack of its loop, or waits for
its turn there. What keeps it then is the table, the member or the program; a lambda in its
loop's queue; a removal on its way through the main loop; or a call of the user's with the
connection as argument. A step spares the connections when it takes the last of these from
no attended one.
-/

namespace TurboCore.Net

open Foundation TcpServer

/-! ### Pollers and sockets -/

/-- The poller knows the channel under its own fd only, and only with events. -/
def Attached.Sound (who : ConnId) (attached : Attached) : Prop :=
  ∀ fd, attached.poller.lookup fd = some who →
    attached.conn.channel.fd = fd ∧ attached.conn.channel.hasNoEvents = false

/-- A function of the connection changes its poller soundly and opens no socket. -/
structure Attached.Serves (who : ConnId) (before after : Attached) : Prop where
  touches : Attached.Touches who before after
  sound : before.Sound who → after.Sound who
  socket : after.conn.socketFd = before.conn.socketFd ∨ after.conn.socketFd = invalidSocket

namespace Attached.Serves

variable {who : ConnId} {before middle after attached : Attached}

theorem of_eq (channel : after.conn.channel = before.conn.channel)
    (poller : after.poller = before.poller)
    (socket : after.conn.socketFd = before.conn.socketFd ∨ after.conn.socketFd = invalidSocket) :
    Serves who before after where
  touches := .of_eq (by rw [channel]) poller
  sound sound fd found := by
    rw [channel]
    exact sound fd (poller ▸ found)
  socket := socket

theorem trans (first : Serves who before middle) (second : Serves who middle after) :
    Serves who before after where
  touches := first.touches.trans second.touches
  sound sound := second.sound (first.sound sound)
  socket := by
    rcases second.socket with same | closed
    · rw [same]
      exact first.socket
    · exact .inr closed

theorem updateChannel {channel : Channel} (fd : channel.fd = attached.conn.channel.fd) :
    Serves who attached (attached.updateChannel who channel) where
  touches := .updateChannel fd
  socket := .inl rfl
  sound := by
    intro sound key found
    have sameFd : (attached.updateChannel who channel).conn.channel.fd = channel.fd :=
      EpollPoller.updateChannel_fd _ _ _
    have sameEvents : (attached.updateChannel who channel).conn.channel.hasNoEvents =
        channel.hasNoEvents := by
      simp only [Channel.hasNoEvents, Attached.updateChannel, EpollPoller.updateChannel_reading,
        EpollPoller.updateChannel_writing]
    rw [sameFd, sameEvents]
    have elsewhere : key ≠ channel.fd → attached.poller.lookup key ≠ some who := by
      intro different earlier
      exact different ((sound key earlier).1.symm.trans fd.symm)
    cases silent : channel.hasNoEvents with
    | true =>
        have lookups := @EpollPoller.lookup_updateChannel_of_hasNoEvents attached.poller who
          channel silent key
        rw [show (attached.updateChannel who channel).poller =
          (attached.poller.updateChannel who channel).1 from rfl, lookups] at found
        split at found
        · cases found
        · next different => exact absurd found (elsewhere different)
    | false =>
        have lookups := @EpollPoller.lookup_updateChannel_of_events attached.poller who
          channel silent key
        rw [show (attached.updateChannel who channel).poller =
          (attached.poller.updateChannel who channel).1 from rfl, lookups] at found
        split at found
        · next same => exact ⟨same.symm, rfl⟩
        · next different => exact absurd found (elsewhere different)

theorem removeIfAdded : Serves who attached attached.removeIfAdded where
  touches := .removeIfAdded
  socket := .inl (by simp)
  sound := by
    intro sound key found
    unfold Attached.removeIfAdded at found ⊢
    split at found
    · next added =>
        have lookups := EpollPoller.lookup_removeChannel attached.poller attached.conn.channel key
        rw [show _ = _ from lookups] at found
        split at found
        · cases found
        · next different => exact absurd (sound key found).1.symm different
    · next added =>
        rw [if_neg added]
        exact sound key found

theorem setState (state : ConnectionState) : Serves who attached (attached.setState state) :=
  of_eq rfl rfl (.inl rfl)

theorem closeSocket : Serves who attached attached.closeSocket := of_eq rfl rfl (.inr rfl)

theorem disableAll : Serves who attached (attached.disableAll who) := updateChannel rfl

theorem connectEstablished : Serves who attached (attached.connectEstablished who) :=
  (setState .connected).trans (updateChannel rfl)

theorem beginHandleClose : Serves who attached (attached.beginHandleClose who) :=
  ((setState .disconnected).trans disableAll).trans removeIfAdded

theorem beginForceClose : Serves who attached (attached.beginForceClose who) :=
  ((setState .disconnected).trans disableAll).trans closeSocket

theorem connectDestroyed : Serves who attached (attached.connectDestroyed who) := by
  unfold Attached.connectDestroyed
  split
  · exact (((setState .disconnected).trans disableAll).trans removeIfAdded).trans closeSocket
  · exact of_eq rfl rfl (.inl rfl)

theorem of_writeStep {writing : Bool} (step : WriteStep who writing attached after) :
    Serves who attached after := by
  cases step with
  | outside _ same => exact of_eq same.channel same.poller (.inl same.socketFd)
  | interest middle same =>
      have outside : Serves who attached middle :=
        of_eq same.channel same.poller (.inl same.socketFd)
      exact outside.trans (updateChannel rfl)

theorem sendInLoop (data : List UInt8) : Serves who attached (attached.sendInLoop who data) :=
  of_writeStep (attached.writeStep_sendInLoop who data)

theorem shutdownInLoop : Serves who attached (attached.shutdownInLoop who) := by
  rcases attached.shutdownInLoop_cases who with waits | closed
  · exact of_writeStep waits
  · rw [closed]
    exact closeSocket.trans (setState .disconnected)

theorem handleWrite (result : WriteResult) :
    Serves who attached (attached.handleWrite who result).after :=
  of_writeStep (attached.writeStep_handleWrite who result)

end Attached.Serves

/-- A poller knows channels of its own loop, under their own fd and with events. -/
def SoundPollers (server : TcpServer) : Prop :=
  ∀ loop fd self, (server.pollers loop).lookup fd = some self →
    self < server.created ∧ server.loopOf self = loop ∧
      (server.conn self).channel.fd = fd ∧ (server.conn self).channel.hasNoEvents = false

namespace SoundPollers

variable {server next : TcpServer} {self : ConnId}

theorem sound (sound : SoundPollers server) (self : ConnId) :
    (server.attached self).Sound self :=
  fun fd found => (sound (server.loopOf self) fd self found).2.2

theorem of_conn_eq (sound : SoundPollers server) (created : server.created ≤ next.created)
    (loopOf : ∀ self, self < server.created → next.loopOf self = server.loopOf self)
    (conn : ∀ self, self < server.created → next.conn self = server.conn self)
    (pollers : next.pollers = server.pollers) : SoundPollers next := by
  intro loop fd self found
  rw [pollers] at found
  obtain ⟨known, home, own, events⟩ := sound loop fd self found
  rw [conn self known, loopOf self known]
  exact ⟨known.trans_le created, home, own, events⟩

theorem setAttached (sound : SoundPollers server) (known : self < server.created)
    {attached : Attached} (serves : Attached.Serves self (server.attached self) attached) :
    SoundPollers (server.setAttached self attached) := by
  intro loop fd other found
  have after := serves.sound (sound.sound self)
  have mine : other = self → loop = server.loopOf self →
      other < (server.setAttached self attached).created ∧
      (server.setAttached self attached).loopOf other = loop ∧
      ((server.setAttached self attached).conn other).channel.fd = fd ∧
      ((server.setAttached self attached).conn other).channel.hasNoEvents = false := by
    rintro rfl rfl
    rw [conn_setAttached_self, loopOf_setAttached]
    simp only [setAttached_pollers, Function.update_self] at found
    exact ⟨known, rfl, after fd found⟩
  rcases serves.touches.lookup_setAttached found with ⟨same, atLoop⟩ | earlier
  · exact mine same atLoop
  · obtain ⟨knownOther, home, own, events⟩ := sound loop fd other earlier
    rcases eq_or_ne other self with same | different
    · exact mine same (same ▸ home.symm)
    · rw [conn_setAttached_of_ne different, loopOf_setAttached]
      exact ⟨knownOther, home, own, events⟩

/-- `~TcpConnection` takes the channel out of its poller. -/
theorem exists_destroyed (server : TcpServer) (self : ConnId) : ∃ attached : Attached,
    Attached.Serves self (server.attached self) attached ∧
      ((server.attached self).Sound self → ∀ fd, attached.poller.lookup fd ≠ some self) ∧
      server.destroy self = (server.setAttached self attached).markDestroyed self := by
  cases silent : (server.attached self).conn.channel.hasNoEvents with
  | true =>
      refine ⟨(server.attached self).closeSocket, .closeSocket, ?_, ?_⟩
      · intro sound fd found
        have events := (sound fd found).2
        rw [silent] at events
        cases events
      · simp only [TcpServer.destroy, silent, if_true]
  | false =>
      refine ⟨((server.attached self).disableAll self).closeSocket,
        Attached.Serves.disableAll.trans .closeSocket, ?_, ?_⟩
      · intro sound fd found
        have lookups := @EpollPoller.lookup_updateChannel_of_hasNoEvents
          (server.attached self).poller self
          { (server.attached self).conn.channel with reading := false, writing := false } rfl fd
        have gone := lookups.symm.trans found
        split at gone
        · cases gone
        · next different => exact different (sound fd gone).1.symm
      · simp only [TcpServer.destroy, silent, Bool.false_eq_true, if_false]

theorem destroy (sound : SoundPollers server) (known : self < server.created) :
    SoundPollers (server.destroy self) := by
  obtain ⟨attached, serves, _, same⟩ := exists_destroyed server self
  rw [same]
  exact (sound.setAttached known serves).of_conn_eq le_rfl (fun _ _ => by simp)
    (fun _ _ => by simp) rfl

/-- A destructor forgets its own channel and registers none. -/
theorem lookup_destroy (sound : SoundPollers server) {loop : LoopId} {fd : SocketType}
    {other : ConnId} (found : ((server.destroy self).pollers loop).lookup fd = some other) :
    (server.pollers loop).lookup fd = some other ∧ other ≠ self := by
  obtain ⟨attached, serves, gone, same⟩ := exists_destroyed server self
  rw [same] at found
  have inAttached : ((server.setAttached self attached).pollers loop).lookup fd = some other :=
    found
  have absent := gone (sound.sound self)
  rcases serves.touches.lookup_setAttached inAttached with ⟨rfl, rfl⟩ | earlier
  · simp only [setAttached_pollers, Function.update_self] at inAttached
    exact absurd inAttached (absent fd)
  · refine ⟨earlier, ?_⟩
    rintro rfl
    obtain ⟨_, home, _, _⟩ := sound loop fd other earlier
    rw [setAttached_pollers, home, Function.update_self] at inAttached
    exact absent fd inAttached

end SoundPollers

/-! ### What keeps a connection -/

/-- A call of the user's, with the connection as argument. -/
def Frame.isCallback : Frame → Bool
  | callback _ _ => true
  | _ => false

namespace HandlerRun

section Owners

variable (run : HandlerRun) (self : ConnId)

/-- A handler of the connection is on its loop's stack, or waits for its turn there. -/
def Attended : Prop :=
  (∃ frame ∈ run.stack (run.server.loopOf self), frame.isHandler = true ∧ frame.conn = self) ∨
    ∃ ready ∈ (run.stage (run.server.loopOf self)).active, ready.conn = self

/-- A lambda that owns the connection waits in its loop's queue, or its removal is on the
way there through the main loop. -/
def Queued : Prop :=
  (∃ functor ∈ run.server.pending (run.server.loopOf self), functor.owns self = true) ∨
    run.server.loopOf self ≠ 0 ∧
      (.removeConnection self ∈ run.server.pending 0 ++ (run.stage 0).functors ∨
        .handleRemoveConnection self ∈ run.stack (run.server.loopOf self))

/-- The main loop ran the connection's removal, and its batch has not ended. -/
def Removed : Prop :=
  run.server.loopOf self ≠ 0 ∧ .removeConnection self ∈ (run.stage 0).executed

/-- The connection is the argument of a call of the user's on its loop. -/
def Argued : Prop :=
  ∃ frame ∈ run.stack (run.server.loopOf self), frame.isCallback = true ∧ frame.conn = self

/-- The connection would be kept without the table and the member. -/
def KeptElsewhere : Prop :=
  0 < run.copies self ∨ run.Queued self ∨ run.Removed self ∨ run.Argued self

def Kept : Prop :=
  run.isHeld self = true ∨ run.Queued self ∨ run.Removed self ∨ run.Argued self

instance : Decidable (run.Attended self) := inferInstanceAs (Decidable (_ ∨ _))

instance : Decidable (run.Queued self) := inferInstanceAs (Decidable (_ ∨ _))

instance : Decidable (run.Removed self) := inferInstanceAs (Decidable (_ ∧ _))

instance : Decidable (run.Argued self) := inferInstanceAs (Decidable (∃ _, _))

instance : Decidable (run.KeptElsewhere self) := inferInstanceAs (Decidable (_ ∨ _))

end Owners

/-- What may not happen when nothing else keeps an attended connection: its entry is erased on
its own loop, replaced, reset or destroyed with the server or the client; a call of the
user's with it as argument returns; the program gives up its last copy; the main loop's
batch ends after the removal. -/
def Spares (run : HandlerRun) : HandlerEvent → Prop
  | .accept fd => ∀ other ∈ run.server.connections.lookup (fd : SocketType),
      run.Attended other → run.KeptElsewhere other
  | .connect _ result => ∀ side ∈ run.client, side.started = false → result ≠ .succeeded →
      ∀ other ∈ side.connection, run.Attended other → run.KeptElsewhere other
  | .advance loop _ _ => ∀ frame ∈ (run.stack loop).head?,
      (frame = .functor (.removeConnection frame.conn) → run.server.loopOf frame.conn = 0 →
        ∀ other ∈ run.server.connections.lookup (run.server.conn frame.conn).socketFd,
          run.Attended other → run.KeptElsewhere other) ∧
      (frame = .handleRemoveConnection frame.conn →
        ∀ side ∈ run.client, ∀ other ∈ side.connection, other ≠ frame.conn →
          run.Attended other → run.KeptElsewhere other)
  | .returns loop => ∀ self ∈ run.argument loop, run.Attended self →
      run.isHeld self = true ∨ run.Queued self ∨ run.Removed self ∨
        ∃ frame ∈ (run.stack loop).tail, frame.isCallback = true ∧ frame.conn = self
  | .drop _ self => run.copies self = 1 → run.Attended self →
      run.isListed self = true ∨ run.isMember self = true ∨ run.Queued self ∨
        run.Removed self ∨ run.Argued self
  | .endBatch loop => loop = 0 → ∀ functor ∈ (run.stage 0).executed,
      functor = .removeConnection functor.conn → run.Attended functor.conn →
        run.isHeld functor.conn = true ∨ run.Queued functor.conn ∨ run.Argued functor.conn
  | .finishDestructor =>
      (∀ slot ∈ run.server.connections.entries, run.Attended slot.2 → run.KeptElsewhere slot.2) ∧
        ∀ side ∈ run.client, ∀ other ∈ side.connection,
          run.Attended other → run.KeptElsewhere other
  | .poll _ _ | .dispatch _ | .swapFunctors _ | .functor _ | .reconnectTimer _ _
  | .disconnect _ | .setAutoReconnect _ | .send _ _ _ | .shutdown _ _ | .forceClose _ _
  | .retain _ _ | .beginDestructor | .closeNext | .quit => True

instance (run : HandlerRun) : (event : HandlerEvent) → Decidable (run.Spares event)
  | .accept _ => inferInstanceAs (Decidable (∀ _ ∈ _, _ → _))
  | .connect _ _ => inferInstanceAs (Decidable (∀ _ ∈ _, _ → _ → ∀ _ ∈ _, _ → _))
  | .advance _ _ _ => inferInstanceAs (Decidable (∀ _ ∈ _, (_ → _ → ∀ _ ∈ _, _ → _) ∧
      (_ → ∀ _ ∈ _, ∀ _ ∈ _, _ → _ → _)))
  | .returns _ => inferInstanceAs (Decidable (∀ _ ∈ _, _ → _))
  | .drop _ _ => inferInstanceAs (Decidable (_ → _ → _))
  | .endBatch _ => inferInstanceAs (Decidable (_ → ∀ _ ∈ _, _ → _ → _))
  | .finishDestructor =>
      inferInstanceAs (Decidable ((∀ _ ∈ _, _ → _) ∧ ∀ _ ∈ _, ∀ _ ∈ _, _ → _))
  | .poll _ _ | .dispatch _ | .swapFunctors _ | .functor _ | .reconnectTimer _ _
  | .disconnect _ | .setAutoReconnect _ | .send _ _ _ | .shutdown _ _ | .forceClose _ _
  | .retain _ _ | .beginDestructor | .closeNext | .quit => .isTrue trivial

/-- While a handler has steps to execute, its connection has an owner. -/
def OutlivesHandlers (run : HandlerRun) : Prop :=
  ∀ loop, ∀ frame ∈ run.stack loop, frame.isHandler = true → run.isOwned frame.conn = true

end HandlerRun

end TurboCore.Net
