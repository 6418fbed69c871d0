import Mathlib
import TurboCore.Net.ServerQueues

/-!
# Registration follows the connection's state

`HandleClose` and `ForceCloseInLoop` take the channel off its poller before the fd can be
reused. `ShutdownInLoop` closes the socket of a registered channel when nothing is
buffered, and registers a disconnected one when something is.
-/

namespace TurboCore.Net

open Foundation TcpServer

/-- The states in which a channel belongs in its poller. -/
def ConnectionState.Polled (state : ConnectionState) : Prop :=
  state = .connected ∨ state = .disconnecting

/-- No poller knows a disconnected connection, and the poller of a connected one's loop
maps its fd to it. -/
structure RegistrationFollows (server : TcpServer) : Prop where
  unregistered : ∀ loop fd self, (server.pollers loop).lookup fd = some self →
    (server.conn self).state ≠ .disconnected
  registered : ∀ self, self < server.created → (server.conn self).state = .connected →
    (server.pollers (server.loopOf self)).lookup (server.conn self).socketFd = some self

/-- The functor body that an event runs at once. -/
def TcpServer.runsNow (server : TcpServer) : ServerEvent → Option ServerFunctor
  | .functor loop => (server.pending loop).head?
  | .shutdown self true =>
      if (server.conn self).state = .connected then some (.shutdownInLoop self) else none
  | .forceClose self true =>
      if (server.conn self).state = .connected ∨ (server.conn self).state = .disconnecting then
        some (.forceCloseInLoop self)
      else none
  | _ => none

/-- The condition on a functor body. -/
def TcpServer.shutsDownInState (server : TcpServer) : Option ServerFunctor → Prop
  | some (.shutdownInLoop self) =>
      (server.conn self).outputBuffer.content = [] ↔ (server.conn self).state = .disconnected
  | _ => True

/-- `ShutdownInLoop` runs with bytes to send unless the connection is disconnected, and
without when it is. -/
def ShutsDownInState (server : TcpServer) (event : ServerEvent) : Prop :=
  server.shutsDownInState (server.runsNow event)

instance (server : TcpServer) :
    (functor : Option ServerFunctor) → Decidable (server.shutsDownInState functor)
  | some (.shutdownInLoop _) => inferInstanceAs (Decidable (_ ↔ _))
  | none | some (.connectEstablished _) | some (.removeConnection _)
  | some (.connectDestroyed _) | some (.sendInLoop _ _) | some (.forceCloseInLoop _) =>
      .isTrue trivial

instance (server : TcpServer) (event : ServerEvent) : Decidable (ShutsDownInState server event) :=
  inferInstanceAs (Decidable (server.shutsDownInState (server.runsNow event)))

/-- The invariant: open sockets are distinct, a channel asks for events while its
connection is polled, and the pollers hold exactly the channels of these. -/
structure FollowsState (server : TcpServer) : Prop where
  opened : ∀ self, self < server.created → (server.conn self).state ≠ .disconnected →
    (server.conn self).socketFd = (server.conn self).channel.fd ∧
      (server.conn self).socketFd ≠ invalidSocket
  distinct : DistinctSockets server
  silent : ∀ self, self < server.created → ¬ (server.conn self).state.Polled →
    (server.conn self).channel.hasNoEvents = true
  polled : ∀ self, self < server.created → (server.conn self).state.Polled →
    (server.conn self).channel.reading = true ∧
      (server.pollers (server.loopOf self)).lookup (server.conn self).channel.fd = some self
  sound : ∀ loop fd self, (server.pollers loop).lookup fd = some self →
    self < server.created ∧ loop = server.loopOf self ∧
      fd = (server.conn self).channel.fd ∧ (server.conn self).state.Polled

theorem ConnectionState.Polled.ne_disconnected {state : ConnectionState}
    (polled : state.Polled) : state ≠ .disconnected := by
  rcases polled with rfl | rfl <;> simp

theorem ConnectionState.Polled.ne_connecting {state : ConnectionState}
    (polled : state.Polled) : state ≠ .connecting := by
  rcases polled with rfl | rfl <;> simp

theorem FollowsState.registrationFollows {server : TcpServer} (follows : FollowsState server) :
    RegistrationFollows server := by
  constructor
  · intro loop fd self found
    exact (follows.sound loop fd self found).2.2.2.ne_disconnected
  · intro self known state
    have opened := follows.opened self known (by simp [state])
    rw [opened.1]
    exact (follows.polled self known (.inl state)).2

/-! ### What the handlers do to a registered connection -/

/-- The connection stays where it is in its poller, and keeps its state and socket. -/
structure Attached.Quiet (before after : Attached) : Prop where
  poller : after.poller = before.poller
  fd : after.conn.channel.fd = before.conn.channel.fd
  reading : after.conn.channel.reading = before.conn.channel.reading
  state : after.conn.state = before.conn.state
  socketFd : after.conn.socketFd = before.conn.socketFd

/-- The connection is off its poller, and nothing else is. -/
structure Attached.Closed (who : ConnId) (before after : Attached) : Prop where
  touches : Attached.Touches who before after
  state : after.conn.state = .disconnected
  silent : after.conn.channel.hasNoEvents = true
  gone : after.poller.lookup before.conn.channel.fd = none
  socketFd : after.conn.socketFd = before.conn.socketFd ∨ after.conn.socketFd = invalidSocket

namespace Attached

variable {self : ConnId} {attached : Attached}

/-- A registered channel that goes on reading stays registered. -/
theorem Quiet.updateChannel {channel : Channel} (fd : channel.fd = attached.conn.channel.fd)
    (reading : channel.reading = true) (before : attached.conn.channel.reading = true)
    (found : attached.poller.lookup attached.conn.channel.fd = some self) :
    Quiet attached (attached.updateChannel self channel) := by
  have events : channel.hasNoEvents = false := by simp [Channel.hasNoEvents, reading]
  have same := @EpollPoller.updateChannel_of_found attached.poller self channel events
    (by rw [fd, found]; rfl)
  unfold Attached.updateChannel
  rw [same]
  exact ⟨rfl, fd, reading.trans before.symm, rfl, rfl⟩

theorem Quiet.of_writeStep {after : Attached} {writing : Bool}
    (step : WriteStep self writing attached after)
    (reading : attached.conn.channel.reading = true)
    (found : attached.poller.lookup attached.conn.channel.fd = some self) :
    Quiet attached after := by
  cases step with
  | outside _ same =>
      exact ⟨same.poller, by rw [same.channel], by rw [same.channel], same.state, same.socketFd⟩
  | interest middle same =>
      have middleReading : middle.conn.channel.reading = true := by rw [same.channel, reading]
      have quiet := @Quiet.updateChannel self middle
        { middle.conn.channel with writing := writing } rfl middleReading middleReading
        (by rw [same.channel, same.poller, found])
      exact ⟨quiet.poller.trans same.poller, quiet.fd.trans (by rw [same.channel]),
        quiet.reading.trans (by rw [same.channel]), quiet.state.trans same.state,
        quiet.socketFd.trans same.socketFd⟩

theorem Quiet.sendInLoop (reading : attached.conn.channel.reading = true)
    (found : attached.poller.lookup attached.conn.channel.fd = some self) (data : List UInt8) :
    Quiet attached (attached.sendInLoop self data) :=
  of_writeStep (attached.writeStep_sendInLoop self data) reading found

theorem Quiet.handleWrite (reading : attached.conn.channel.reading = true)
    (found : attached.poller.lookup attached.conn.channel.fd = some self)
    (result : WriteResult) : Quiet attached (attached.handleWrite self result).after :=
  of_writeStep (attached.writeStep_handleWrite self result) reading found

/-- `ShutdownInLoop` with bytes to send. -/
theorem Quiet.shutdownInLoop (pending : attached.conn.outputBuffer.content ≠ [])
    (reading : attached.conn.channel.reading = true)
    (found : attached.poller.lookup attached.conn.channel.fd = some self) :
    Quiet attached (attached.shutdownInLoop self) :=
  of_writeStep (attached.writeStep_shutdownInLoop self pending) reading found

/-- `DisableAll` takes the channel off its poller. -/
theorem disableAll_gone (attached : Attached) :
    (attached.disableAll self).poller.lookup attached.conn.channel.fd = none := by
  have lookups := @EpollPoller.lookup_updateChannel_of_hasNoEvents attached.poller self
    { attached.conn.channel with reading := false, writing := false } rfl
  exact (lookups _).trans (if_pos rfl)

theorem disableAll_silent (attached : Attached) :
    (attached.disableAll self).conn.channel.hasNoEvents = true := by
  simp [disableAll, Attached.updateChannel, Channel.hasNoEvents]

theorem Closed.beginForceClose : Closed self attached (attached.beginForceClose self) where
  touches := .beginForceClose
  state := rfl
  silent := disableAll_silent (attached.setState .disconnected)
  gone := disableAll_gone (attached.setState .disconnected)
  socketFd := .inr rfl

theorem Closed.beginHandleClose : Closed self attached (attached.beginHandleClose self) where
  touches := .beginHandleClose
  state := beginHandleClose_state _ _
  silent := by
    have silent := @disableAll_silent self (attached.setState .disconnected)
    unfold Attached.beginHandleClose Attached.removeIfAdded
    split
    · simpa [Channel.hasNoEvents] using silent
    · exact silent
  gone := by
    have gone := @disableAll_gone self (attached.setState .disconnected)
    unfold Attached.beginHandleClose Attached.removeIfAdded
    split
    · have removed := EpollPoller.lookup_removeChannel
        ((attached.setState .disconnected).disableAll self).poller
        ((attached.setState .disconnected).disableAll self).conn.channel
      rw [removed]
      split
      · rfl
      · exact gone
    · exact gone
  socketFd := .inl (beginHandleClose_socketFd _ _)

end Attached

/-! ### What the server's steps do to the invariant -/

namespace FollowsState

variable {server after : TcpServer} {self : ConnId} {attached : Attached}

theorem start (threadNum : Nat) : FollowsState (.start threadNum) where
  opened _ known := absurd known (Nat.not_lt_zero _)
  distinct _ known := absurd known (Nat.not_lt_zero _)
  silent _ known := absurd known (Nat.not_lt_zero _)
  polled _ known := absurd known (Nat.not_lt_zero _)
  sound _ _ _ found := by cases found

theorem same (follows : FollowsState server) (created : after.created = server.created)
    (loopOf : ∀ self, after.loopOf self = server.loopOf self)
    (conn : ∀ self, after.conn self = server.conn self)
    (pollers : after.pollers = server.pollers) : FollowsState after := by
  constructor
  · intro self known
    rw [conn]
    exact follows.opened self (created ▸ known)
  · exact follows.distinct.of_socketFd created fun self _ => by rw [conn]
  · intro self known
    rw [conn]
    exact follows.silent self (created ▸ known)
  · intro self known
    rw [conn, loopOf, pollers]
    exact follows.polled self (created ▸ known)
  · intro loop fd self found
    rw [conn, loopOf, created]
    exact follows.sound loop fd self (pollers ▸ found)

theorem sameConnections (follows : FollowsState server) (same : SameConnections server after) :
    FollowsState after :=
  follows.same same.created same.loopOf same.conn same.pollers

/-- A step of a connection that leaves the poller as it is. -/
theorem unpolled (follows : FollowsState server)
    (poller : attached.poller = server.pollers (server.loopOf self))
    (fd : attached.conn.channel.fd = (server.conn self).channel.fd)
    (polled : attached.conn.state.Polled ↔ (server.conn self).state.Polled)
    (opened : attached.conn.state ≠ .disconnected → (server.conn self).state ≠ .disconnected ∧
      attached.conn.socketFd = (server.conn self).socketFd)
    (socketFd : attached.conn.socketFd = (server.conn self).socketFd ∨
      attached.conn.socketFd = invalidSocket)
    (silent : ¬ (server.conn self).state.Polled → attached.conn.channel.hasNoEvents = true)
    (reading : (server.conn self).state.Polled →
      attached.conn.channel.reading = (server.conn self).channel.reading) :
    FollowsState (server.setAttached self attached) := by
  have pollers : (server.setAttached self attached).pollers = server.pollers := by
    funext loop
    simp only [setAttached_pollers, Function.update_apply, poller]
    split
    · next atLoop => rw [atLoop]
    · rfl
  constructor
  · intro other known
    rcases eq_or_ne other self with rfl | different
    · rw [conn_setAttached_self]
      intro stays
      obtain ⟨before, same⟩ := opened stays
      rw [same, fd]
      exact follows.opened other known before
    · rw [conn_setAttached_of_ne different]
      exact follows.opened other known
  · exact follows.distinct.setAttached socketFd
  · intro other known
    rcases eq_or_ne other self with rfl | different
    · rw [conn_setAttached_self]
      exact fun quiet => silent (fun before => quiet (polled.mpr before))
    · rw [conn_setAttached_of_ne different]
      exact follows.silent other known
  · intro other known
    rw [pollers, loopOf_setAttached]
    rcases eq_or_ne other self with rfl | different
    · rw [conn_setAttached_self]
      intro now
      have before := polled.mp now
      rw [reading before, fd]
      exact follows.polled other known before
    · rw [conn_setAttached_of_ne different]
      exact follows.polled other known
  · intro loop fdFound other found
    rw [pollers] at found
    obtain ⟨known, home, own, before⟩ := follows.sound loop fdFound other found
    refine ⟨known, by rw [loopOf_setAttached]; exact home, ?_⟩
    rcases eq_or_ne other self with rfl | different
    · rw [conn_setAttached_self]
      exact ⟨own.trans fd.symm, polled.mpr before⟩
    · rw [conn_setAttached_of_ne different]
      exact ⟨own, before⟩

/-- A handler that keeps its registration. -/
theorem quiet (follows : FollowsState server)
    (quiet : Attached.Quiet (server.attached self) attached)
    (polled : (server.conn self).state.Polled) :
    FollowsState (server.setAttached self attached) := by
  refine follows.unpolled quiet.poller quiet.fd ?_ ?_ (.inl quiet.socketFd) ?_ ?_
  · rw [quiet.state]
    rfl
  · exact fun _ => ⟨polled.ne_disconnected, quiet.socketFd⟩
  · exact fun unpolled => absurd polled unpolled
  · exact fun _ => quiet.reading

/-- Another connection that is polled does not share the fd of an open one. -/
theorem fd_ne (follows : FollowsState server) {other : ConnId} (known : self < server.created)
    (opened : (server.conn self).state ≠ .disconnected) (knownOther : other < server.created)
    (openedOther : (server.conn other).state ≠ .disconnected) (different : other ≠ self) :
    (server.conn other).channel.fd ≠ (server.conn self).channel.fd := by
  intro same
  obtain ⟨own, valid⟩ := follows.opened self known opened
  obtain ⟨ownOther, _⟩ := follows.opened other knownOther openedOther
  exact different (follows.distinct self known other knownOther valid
    (by rw [own, ownOther, same])).symm

/-- A handler of an open connection that registers it or takes it off its poller. -/
theorem reattach (follows : FollowsState server) (known : self < server.created)
    (opened : (server.conn self).state ≠ .disconnected)
    (touches : Attached.Touches self (server.attached self) attached)
    (socketFd : attached.conn.socketFd = (server.conn self).socketFd ∨
      attached.conn.state = .disconnected ∧ attached.conn.socketFd = invalidSocket)
    (own : attached.conn.state.Polled ∧ attached.conn.channel.reading = true ∧
        attached.poller.lookup (server.conn self).channel.fd = some self ∨
      ¬ attached.conn.state.Polled ∧ attached.conn.channel.hasNoEvents = true ∧
        attached.poller.lookup (server.conn self).channel.fd = none) :
    FollowsState (server.setAttached self attached) := by
  have lookup : ∀ fd, fd ≠ (server.conn self).channel.fd →
      attached.poller.lookup fd = (server.pollers (server.loopOf self)).lookup fd :=
    touches.elsewhere
  have sameFd : attached.conn.channel.fd = (server.conn self).channel.fd := touches.fd
  constructor
  · intro other known
    rcases eq_or_ne other self with rfl | different
    · rw [conn_setAttached_self]
      intro stays
      have kept := socketFd.resolve_right fun closed => stays closed.1
      rw [kept, sameFd]
      exact follows.opened other known opened
    · rw [conn_setAttached_of_ne different]
      exact follows.opened other known
  · exact follows.distinct.setAttached (socketFd.imp_right (·.2))
  · intro other known
    rcases eq_or_ne other self with rfl | different
    · rw [conn_setAttached_self]
      intro unpolled
      rcases own with ⟨polled, _⟩ | ⟨_, silent, _⟩
      · exact absurd polled unpolled
      · exact silent
    · rw [conn_setAttached_of_ne different]
      exact follows.silent other known
  · intro other knownOther
    simp only [setAttached_pollers, Function.update_apply, loopOf_setAttached]
    rcases eq_or_ne other self with rfl | different
    · rw [conn_setAttached_self, if_pos rfl, sameFd]
      intro now
      rcases own with ⟨_, reading, found⟩ | ⟨unpolled, _⟩
      · exact ⟨reading, found⟩
      · exact absurd now unpolled
    · rw [conn_setAttached_of_ne different]
      intro polled
      obtain ⟨reading, found⟩ := follows.polled other knownOther polled
      refine ⟨reading, ?_⟩
      split
      · next atLoop =>
          rw [lookup _ (follows.fd_ne known opened knownOther polled.ne_disconnected different),
            ← atLoop]
          exact found
      · exact found
  · intro loop fd other found
    by_cases mine : loop = server.loopOf self ∧ fd = (server.conn self).channel.fd
    · obtain ⟨rfl, rfl⟩ := mine
      rw [setAttached_pollers, Function.update_self] at found
      rcases own with ⟨polled, _, registered⟩ | ⟨_, _, gone⟩
      · rw [registered] at found
        cases found
        rw [conn_setAttached_self, loopOf_setAttached]
        exact ⟨known, rfl, sameFd.symm, polled⟩
      · rw [gone] at found
        cases found
    · have earlier : (server.pollers loop).lookup fd = some other := by
        simp only [setAttached_pollers, Function.update_apply] at found
        split at found
        · next atLoop =>
            rw [lookup fd fun same => mine ⟨atLoop, same⟩] at found
            exact atLoop ▸ found
        · exact found
      have before := follows.sound loop fd other earlier
      have different : other ≠ self := by
        rintro rfl
        exact mine ⟨before.2.1, before.2.2.1⟩
      rw [conn_setAttached_of_ne different, loopOf_setAttached]
      exact before

/-- A handler that closes a polled connection. -/
theorem close (follows : FollowsState server) (known : self < server.created)
    (opened : (server.conn self).state ≠ .disconnected)
    (closed : Attached.Closed self (server.attached self) attached) :
    FollowsState (server.setAttached self attached) := by
  refine follows.reattach known opened closed.touches ?_ (.inr ⟨?_, closed.silent, closed.gone⟩)
  · exact closed.socketFd.imp_right fun invalid => ⟨closed.state, invalid⟩
  · intro now
    exact now.ne_disconnected closed.state

/-- `ConnectEstablished` of a connecting connection registers it. -/
theorem connectEstablished (follows : FollowsState server) (known : self < server.created)
    (state : (server.conn self).state = .connecting) :
    FollowsState (server.connectEstablished self) := by
  have opened : (server.conn self).state ≠ .disconnected := by simp [state]
  have absent : (server.pollers (server.loopOf self)).lookup (server.conn self).channel.fd =
      none := by
    cases found : (server.pollers (server.loopOf self)).lookup (server.conn self).channel.fd with
    | none => rfl
    | some other =>
        obtain ⟨knownOther, _, sameFd, polled⟩ := follows.sound _ _ _ found
        have different : other ≠ self := by
          rintro rfl
          exact polled.ne_connecting state
        exact absurd sameFd.symm
          (follows.fd_ne known opened knownOther polled.ne_disconnected different)
  have registered := @EpollPoller.lookup_updateChannel_of_events
    (server.pollers (server.loopOf self)) self { (server.conn self).channel with reading := true }
    (by simp [Channel.hasNoEvents]) (server.conn self).channel.fd
  rw [if_pos rfl, absent] at registered
  have established : FollowsState
      (server.setAttached self ((server.attached self).connectEstablished self)) := by
    refine follows.reattach known opened .connectEstablished (.inl rfl) (.inl ⟨.inl rfl, ?_, ?_⟩)
    · exact EpollPoller.updateChannel_reading _ _ _
    · exact registered
  exact established.same rfl (fun _ => by simp [TcpServer.connectEstablished])
    (fun _ => by simp [TcpServer.connectEstablished]) rfl

theorem handleClose (follows : FollowsState server) (known : self < server.created) :
    FollowsState (server.handleClose self) := by
  unfold TcpServer.handleClose
  split
  · exact follows
  · next opened =>
      have closed := follows.close known opened Attached.Closed.beginHandleClose
      have removed := closed.sameConnections
        (@SameConnections.handleRemoveConnection _ self (by simp))
      exact removed.same rfl (fun _ => rfl) (fun _ => rfl) rfl

theorem forceCloseInLoop (follows : FollowsState server) (known : self < server.created) :
    FollowsState (server.forceCloseInLoop self) := by
  unfold TcpServer.forceCloseInLoop
  split
  · next polled =>
      have opened : (server.conn self).state ≠ .disconnected :=
        ConnectionState.Polled.ne_disconnected polled
      have closed := follows.close known opened Attached.Closed.beginForceClose
      exact closed.sameConnections (.handleRemoveConnection (by simp))
  · exact follows

theorem sendInLoop (follows : FollowsState server) (known : self < server.created)
    (data : List UInt8) : FollowsState (server.sendInLoop self data) := by
  by_cases connected : (server.conn self).state = .connected
  · have polled : (server.conn self).state.Polled := .inl connected
    obtain ⟨reading, found⟩ := follows.polled self known polled
    exact follows.quiet (.sendInLoop reading found data) polled
  · have idle : (server.attached self).sendInLoop self data = server.attached self := by
      simp [Attached.sendInLoop, TcpConnection.isConnected, attached, connected]
    rw [TcpServer.sendInLoop, idle, setAttached_attached]
    exact follows

/-- A connection that is polled writes, or closes itself. -/
theorem handleWrite (follows : FollowsState server) (known : self < server.created)
    (polled : (server.conn self).state.Polled) (result : WriteResult) :
    FollowsState (server.handleWrite self result) := by
  obtain ⟨reading, found⟩ := follows.polled self known polled
  have written := follows.quiet (.handleWrite reading found result) polled
  unfold TcpServer.handleWrite
  dsimp only
  split
  · exact written.handleClose known
  · exact written

/-- A disconnected connection gives up its socket and nothing else. -/
theorem closeSocket (follows : FollowsState server) (known : self < server.created)
    (state : (server.conn self).state = .disconnected) :
    FollowsState (server.setAttached self (server.attached self).closeSocket) := by
  refine follows.unpolled rfl rfl Iff.rfl ?_ (.inr rfl) ?_ ?_
  · exact fun opened => absurd state opened
  · exact follows.silent self known
  · exact fun _ => rfl

/-- `ShutdownInLoop` where the state and the buffer agree. -/
theorem shutdownInLoop (follows : FollowsState server) (known : self < server.created)
    (started : (server.conn self).state ≠ .connecting)
    (agrees : (server.conn self).outputBuffer.content = [] ↔
      (server.conn self).state = .disconnected) :
    FollowsState (server.shutdownInLoop self) := by
  by_cases empty : (server.conn self).outputBuffer.content = []
  · have state := agrees.mp empty
    have nothing : ¬ 0 < (server.attached self).conn.outputBuffer.readableBytes := by
      have length := (Buffer.content_eq_nil_iff _).mp empty
      exact Nat.not_lt.mpr (Nat.le_of_eq length)
    have closes : (server.attached self).shutdownInLoop self =
        (server.attached self).closeSocket := by
      have same : (server.attached self).closeSocket.setState .disconnected =
          (server.attached self).closeSocket := by
        simp [Attached.setState, Attached.closeSocket, TcpConnection.closeSocket, attached,
          ← state]
      rw [Attached.shutdownInLoop, if_neg nothing, same]
    rw [TcpServer.shutdownInLoop, closes]
    exact follows.closeSocket known state
  · have polled : (server.conn self).state.Polled := by
      have opened : (server.conn self).state ≠ .disconnected :=
        fun closed => empty (agrees.mpr closed)
      unfold ConnectionState.Polled
      cases state : (server.conn self).state <;> simp_all
    obtain ⟨reading, found⟩ := follows.polled self known polled
    exact follows.quiet (.shutdownInLoop empty reading found) polled

/-- A functor body that runs where it fits and where the condition admits it. -/
theorem runFunctor (follows : FollowsState server) {functor : ServerFunctor}
    (known : functor.conn < server.created)
    (fits : functor.fits (server.conn functor.conn).state)
    (admitted : server.shutsDownInState (some functor)) :
    FollowsState (server.runFunctor functor) := by
  cases functor with
  | connectEstablished self => exact follows.connectEstablished known fits
  | removeConnection self => exact follows.sameConnections (.removeInLoop fits)
  | connectDestroyed self =>
      show FollowsState (server.connectDestroyed self)
      rw [connectDestroyed_of_disconnected server self fits]
      exact follows
  | sendInLoop self data => exact follows.sendInLoop known data
  | shutdownInLoop self => exact follows.shutdownInLoop known fits admitted
  | forceCloseInLoop self => exact follows.forceCloseInLoop known

theorem send (follows : FollowsState server) (known : self < server.created) (inLoop : Bool)
    (data : List UInt8) : FollowsState (server.send self inLoop data) := by
  unfold TcpServer.send
  split
  · cases inLoop with
    | true => exact follows.sendInLoop known data
    | false => exact follows.same rfl (fun _ => rfl) (fun _ => rfl) rfl
  · exact follows

/-- `Shutdown` and `ForceClose` change the state of a polled connection only. -/
theorem disconnecting (follows : FollowsState server)
    (polled : (server.conn self).state.Polled) :
    FollowsState (server.setAttached self ((server.attached self).setState .disconnecting)) := by
  refine follows.unpolled rfl rfl ?_ ?_ (.inl rfl) ?_ ?_
  · exact iff_of_true (.inr rfl) polled
  · exact fun _ => ⟨polled.ne_disconnected, rfl⟩
  · exact fun unpolled => absurd polled unpolled
  · exact fun _ => rfl

theorem shutdown (follows : FollowsState server) (known : self < server.created)
    {inLoop : Bool} (admitted : ShutsDownInState server (.shutdown self inLoop)) :
    FollowsState (server.shutdown self inLoop) := by
  unfold TcpServer.shutdown
  split
  · next connected =>
      have stopping := follows.disconnecting (.inl connected)
      cases inLoop with
      | true =>
          have agrees : (server.conn self).outputBuffer.content = [] ↔
              (server.conn self).state = .disconnected := by
            simpa [ShutsDownInState, runsNow, connected, shutsDownInState] using admitted
          refine stopping.shutdownInLoop known ?_ ?_
          · simp
          · simpa [connected, attached, Attached.setState] using agrees
      | false => exact stopping.same rfl (fun _ => rfl) (fun _ => rfl) rfl
  · exact follows

theorem forceClose (follows : FollowsState server) (known : self < server.created)
    (inLoop : Bool) : FollowsState (server.forceClose self inLoop) := by
  unfold TcpServer.forceClose
  split
  · next polled =>
      have stopping := follows.disconnecting polled
      cases inLoop with
      | true => exact stopping.forceCloseInLoop known
      | false => exact stopping.same rfl (fun _ => rfl) (fun _ => rfl) rfl
  · exact follows

theorem destroy (follows : FollowsState server) (known : self < server.created)
    (state : (server.conn self).state = .disconnected) : FollowsState (server.destroy self) := by
  have silent : (server.attached self).conn.channel.hasNoEvents = true :=
    follows.silent self known fun polled => polled.ne_disconnected state
  have closed := follows.closeSocket known state
  unfold TcpServer.destroy
  dsimp only
  rw [if_pos silent]
  exact closed.same rfl (fun _ => by simp) (fun _ => by simp) rfl

/-- A new connection gets a number that no open socket holds. -/
theorem addConnection (follows : FollowsState server) {fd : Nat} (free : server.isFree fd = true) :
    FollowsState (server.addConnection fd) := by
  constructor
  · intro self known
    rcases cases_addConnection known with rfl | ⟨earlier, different⟩
    · simp [TcpConnection.ofSocket, Channel.ofFd, ofNat_ne_invalidSocket]
    · simpa [different] using follows.opened self earlier
  · exact follows.distinct.addConnection free
  · intro self known
    rcases cases_addConnection known with rfl | ⟨earlier, different⟩
    · simp [TcpConnection.ofSocket, Channel.ofFd, Channel.hasNoEvents]
    · simpa [different] using follows.silent self earlier
  · intro self known
    rcases cases_addConnection known with rfl | ⟨earlier, different⟩
    · simp [TcpConnection.ofSocket, ConnectionState.Polled]
    · rw [conn_addConnection, loopOf_addConnection, if_neg different, if_neg different]
      exact follows.polled self earlier
  · intro loop fd self found
    have before := follows.sound loop fd self found
    have different : self ≠ server.created := Nat.ne_of_lt before.1
    refine ⟨Nat.lt_succ_of_lt before.1, ?_⟩
    simpa [different] using before.2

theorem handleNewConnection (follows : FollowsState server) {fd : Nat}
    (free : server.isFree fd = true) : FollowsState (server.handleNewConnection fd) := by
  have added := follows.addConnection free
  unfold TcpServer.handleNewConnection
  dsimp only
  split
  · refine added.connectEstablished (Nat.lt_succ_self _) ?_
    simp [TcpConnection.ofSocket]
  · exact added.same rfl (fun _ => rfl) (fun _ => rfl) rfl

/-- A connection that an event reaches is polled. -/
theorem polled_of_handles (follows : FollowsState server) (handles : server.Handles self) :
    (server.conn self).state.Polled :=
  (follows.sound _ _ _ handles.registered).2.2.2

/-- Every step that shuts down in state keeps the invariant. -/
theorem step {next : TcpServer} {event : ServerEvent} (follows : FollowsState server)
    (queued : WellQueued server) (admitted : ShutsDownInState server event)
    (step : ServerStep server event next) : FollowsState next := by
  cases step with
  | accept fd _ free => exact follows.handleNewConnection free
  | functor loop functor rest queue _ =>
      have member : functor ∈ server.pending loop := queue ▸ List.mem_cons_self
      have unqueued : FollowsState (server.unqueue loop) :=
        follows.same rfl (fun _ => rfl) (fun _ => rfl) rfl
      refine unqueued.runFunctor (queued.known loop functor member)
        (queued.fits loop functor member) ?_
      have here : server.shutsDownInState (some functor) := by
        simpa [ShutsDownInState, runsNow, queue] using admitted
      cases functor <;> exact here
  | readable self _ => exact follows.same rfl (fun _ => by simp) (fun _ => by simp) rfl
  | readClosed self handles | errorEvent self handles =>
      exact follows.handleClose handles.known
  | writable self result handles =>
      exact follows.handleWrite handles.known (follows.polled_of_handles handles) result
  | finishClose loop self running =>
      obtain ⟨known, _, state⟩ := queued.closing loop self running
      exact (follows.closeSocket known state).same rfl (fun _ => rfl) (fun _ => rfl) rfl
  | send self inLoop data called => exact follows.send called.known inLoop data
  | shutdown self inLoop called => exact follows.shutdown called.known admitted
  | forceClose self inLoop called => exact follows.forceClose called.known inLoop
  | destroy self known state _ => exact follows.destroy known state

end FollowsState

/-- In every run whose `ShutdownInLoop`s find buffer and state in agreement, registration
follows the connections' states. -/
theorem registration_follows (threadNum : Nat) {events : List ServerEvent} {server : TcpServer}
    (guarded : serverMachine.Run ShutsDownInState (.start threadNum) events server) :
    RegistrationFollows server := by
  have holds := guarded.invariant (fun server => WellQueued server ∧ FollowsState server)
    ⟨WellQueued.start threadNum, FollowsState.start threadNum⟩
    fun _ _ _ holds admitted transition =>
      ⟨holds.1.step (serverStep_cases transition),
        holds.2.step holds.1 admitted (serverStep_cases transition)⟩
  exact holds.2.registrationFollows

/-- A connection on the main loop sends, is closed by an end of file while a `ForceClose` of
another thread is queued, and its number is used again. -/
def closeAndReuse : List ServerEvent :=
  [.accept 5, .send 0 true [1, 2], .writable 0 (.wrote 2), .forceClose 0 false, .readClosed 0,
    .finishClose 0, .functor 0, .accept 5, .readable 1]

/-- The second connection is registered under the number of the first. -/
theorem closeAndReuse_registrationFollows : ∃ server,
    serverMachine.exec (.start 0) closeAndReuse = some server ∧
      (server.pollers 0).lookup 5 = some 1 ∧ RegistrationFollows server := by
  have observed : (serverMachine.exec (.start 0) closeAndReuse).map
      (fun server => (server.pollers 0).lookup 5) = some (some 1) := by decide +kernel
  obtain ⟨server, executed, found⟩ := Option.map_eq_some_iff.mp observed
  have guarded : serverMachine.Guarded ShutsDownInState (.start 0) closeAndReuse := by
    decide +kernel
  exact ⟨server, executed, found, registration_follows 0 (Machine.run_of_guarded executed guarded)⟩

/-- Not in every run does registration follow the state: `Shutdown` with nothing to send
leaves the channel of a disconnected connection in the poller. -/
theorem not_registration_follows :
    ¬ ∀ (threadNum : Nat) (events : List ServerEvent) (server : TcpServer),
      serverMachine.AnyRun (.start threadNum) events server → RegistrationFollows server := by
  intro always
  have observed : (serverMachine.exec (.start 0) [.accept 5, .shutdown 0 true]).map
      (fun server => ((server.pollers 0).lookup 5, (server.conn 0).state)) =
        some (some 0, .disconnected) := by decide +kernel
  obtain ⟨server, executed, seen⟩ := Option.map_eq_some_iff.mp observed
  rw [Prod.mk.injEq] at seen
  exact (always 0 _ server (Machine.run_of_exec executed)).unregistered 0 5 0 seen.1 seen.2

end TurboCore.Net
