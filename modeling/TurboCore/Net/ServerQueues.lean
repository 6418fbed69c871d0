import Mathlib
import TurboCore.Net.TcpServer

/-!
# What is queued on the loops

In every run a queued functor stands on its own loop, and its connection is in a state
in which the source queued it or a later one. A connection is established once and
never comes back from `Disconnected`.
-/

namespace TurboCore.Net

open Foundation TcpServer

/-- The states in which a functor may find its connection. -/
def ServerFunctor.fits : ServerFunctor → ConnectionState → Prop
  | connectEstablished _, state => state = .connecting
  | removeConnection _, state | connectDestroyed _, state => state = .disconnected
  | sendInLoop _ _, state | shutdownInLoop _, state | forceCloseInLoop _, state =>
      state ≠ .connecting

/-- The loop whose queue a functor belongs to. -/
def TcpServer.homeOf (server : TcpServer) : ServerFunctor → LoopId
  | .removeConnection _ => 0
  | .connectEstablished self | .connectDestroyed self | .sendInLoop self _
  | .shutdownInLoop self | .forceCloseInLoop self => server.loopOf self

theorem eq_disconnected_of_rank {before after : ConnectionState}
    (forward : before.rank ≤ after.rank) (state : before = .disconnected) :
    after = .disconnected := by
  subst state
  cases after <;> simp [ConnectionState.rank] at forward ⊢

/-- Connections only move forward, and none is established. -/
structure Advances (before after : TcpServer) : Prop where
  created : after.created = before.created
  loopOf : ∀ self, after.loopOf self = before.loopOf self
  connecting : ∀ self,
    (after.conn self).state = .connecting ↔ (before.conn self).state = .connecting
  forward : ∀ self, (before.conn self).state.rank ≤ (after.conn self).state.rank

namespace Advances

variable {before middle after server : TcpServer} {self : ConnId}

theorem refl (server : TcpServer) : Advances server server :=
  ⟨rfl, fun _ => rfl, fun _ => Iff.rfl, fun _ => Nat.le_refl _⟩

theorem of_conn_eq (created : after.created = before.created)
    (loopOf : ∀ self, after.loopOf self = before.loopOf self)
    (conn : ∀ self, after.conn self = before.conn self) : Advances before after :=
  ⟨created, loopOf, fun self => by rw [conn self], fun self => by rw [conn self]⟩

theorem trans (first : Advances before middle) (second : Advances middle after) :
    Advances before after :=
  ⟨second.created.trans first.created, fun self => (second.loopOf self).trans (first.loopOf self),
    fun self => (second.connecting self).trans (first.connecting self),
    fun self => (first.forward self).trans (second.forward self)⟩

theorem disconnected (advances : Advances before after)
    (state : (before.conn self).state = .disconnected) :
    (after.conn self).state = .disconnected :=
  eq_disconnected_of_rank (advances.forward self) state

/-- A connection that has been established moves forward in its handler. -/
theorem setAttached {attached : Attached} (started : (server.conn self).state ≠ .connecting)
    (forward : (server.conn self).state.rank ≤ attached.conn.state.rank) :
    Advances server (server.setAttached self attached) := by
  refine ⟨rfl, fun other => by simp, fun other => ?_, fun other => ?_⟩
  · rw [conn_setAttached]
    split
    · next same =>
        subst same
        refine iff_of_false (fun connecting => ?_) started
        rw [connecting] at forward
        cases state : (server.conn other).state <;> rw [state] at forward started <;>
          simp [ConnectionState.rank] at forward started
    · rfl
  · rw [conn_setAttached]
    split
    · next same =>
        subst same
        exact forward
    · exact Nat.le_refl _

/-- A change that leaves the state of the connection. -/
theorem of_state_eq {attached : Attached}
    (same : attached.conn.state = (server.conn self).state) :
    Advances server (server.setAttached self attached) := by
  have states : ∀ other, ((server.setAttached self attached).conn other).state =
      (server.conn other).state := by
    intro other
    rw [conn_setAttached]
    split
    · next self_eq => rw [self_eq, same]
    · rfl
  exact ⟨rfl, fun other => by simp, fun other => by rw [states other],
    fun other => by rw [states other]⟩

theorem fits (advances : Advances before after) {functor : ServerFunctor}
    (fits : functor.fits (before.conn functor.conn).state) :
    functor.fits (after.conn functor.conn).state := by
  cases functor with
  | connectEstablished self => exact (advances.connecting self).mpr fits
  | removeConnection self | connectDestroyed self => exact advances.disconnected fits
  | sendInLoop self _ | shutdownInLoop self | forceCloseInLoop self =>
      exact fun connecting => fits ((advances.connecting self).mp connecting)

theorem homeOf (advances : Advances before after) (functor : ServerFunctor) :
    after.homeOf functor = before.homeOf functor := by
  cases functor with
  | removeConnection self => rfl
  | connectEstablished self | connectDestroyed self | sendInLoop self _ | shutdownInLoop self
  | forceCloseInLoop self => exact advances.loopOf self

end Advances

/-- A handler registers its own connection at most. -/
theorem Attached.Touches.lookup_setAttached {server : TcpServer} {self other : ConnId}
    {attached : Attached} (touches : Attached.Touches self (server.attached self) attached)
    {loop : LoopId} {fd : SocketType}
    (found : ((server.setAttached self attached).pollers loop).lookup fd = some other) :
    (other = self ∧ loop = server.loopOf self) ∨
      (server.pollers loop).lookup fd = some other := by
  simp only [setAttached_pollers, Function.update_apply] at found
  split at found
  · next atLoop =>
      subst atLoop
      by_cases own : fd = (server.attached self).conn.channel.fd
      · subst own
        rcases touches.own with absent | mine | same
        · rw [absent] at found
          cases found
        · rw [mine] at found
          cases found
          exact .inl ⟨rfl, rfl⟩
        · rw [same] at found
          exact .inr found
      · rw [touches.elsewhere fd own] at found
        exact .inr found
  · exact .inr found

/-- Without events a channel takes its registration away and adds none. -/
theorem Attached.lookup_of_disableAll {attached : Attached} {self other : ConnId}
    {fd : SocketType} (found : (attached.disableAll self).poller.lookup fd = some other) :
    attached.poller.lookup fd = some other := by
  have lookups := @EpollPoller.lookup_updateChannel_of_hasNoEvents attached.poller self
    { attached.conn.channel with reading := false, writing := false } rfl fd
  have found' := lookups.symm.trans found
  split at found'
  · cases found'
  · exact found'

/-- The queues hold what the source can have put there, a loop inside `HandleClose` has
disconnected one of its own connections, and a poller knows established ones only. -/
structure WellQueued (server : TcpServer) : Prop where
  known : ∀ loop, ∀ functor ∈ server.pending loop, functor.conn < server.created
  home : ∀ loop, ∀ functor ∈ server.pending loop, loop = server.homeOf functor
  fits : ∀ loop, ∀ functor ∈ server.pending loop,
    functor.fits (server.conn functor.conn).state
  once : ∀ loop self, (server.pending loop).count (.connectEstablished self) ≤ 1
  closing : ∀ loop self, server.closing loop = some self →
    self < server.created ∧ server.loopOf self = loop ∧
      (server.conn self).state = .disconnected
  registered : ∀ loop fd self, (server.pollers loop).lookup fd = some self →
    self < server.created ∧ server.loopOf self = loop ∧ (server.conn self).state ≠ .connecting

namespace WellQueued

variable {server after : TcpServer} {self : ConnId} {loop : LoopId}

theorem start (threadNum : Nat) : WellQueued (.start threadNum) where
  known _ _ member := by cases member
  home _ _ member := by cases member
  fits _ _ member := by cases member
  once _ _ := Nat.zero_le 1
  closing _ _ running := by cases running
  registered _ _ _ found := by cases found

/-- Moving connections forward keeps the queues fit. -/
theorem advance (queued : WellQueued server) (advances : Advances server after)
    (pending : after.pending = server.pending) (closing : after.closing = server.closing)
    (pollers : ∀ loop fd self, (after.pollers loop).lookup fd = some self →
      (server.pollers loop).lookup fd = some self ∨ (self < server.created ∧
        server.loopOf self = loop ∧ (server.conn self).state ≠ .connecting)) :
    WellQueued after := by
  constructor
  · intro loop functor member
    rw [advances.created]
    exact queued.known loop functor (pending ▸ member)
  · intro loop functor member
    rw [advances.homeOf]
    exact queued.home loop functor (pending ▸ member)
  · intro loop functor member
    exact advances.fits (queued.fits loop functor (pending ▸ member))
  · intro loop self
    rw [pending]
    exact queued.once loop self
  · intro loop self running
    rw [closing] at running
    obtain ⟨known, home, state⟩ := queued.closing loop self running
    exact ⟨advances.created ▸ known, (advances.loopOf self).trans home,
      advances.disconnected state⟩
  · intro loop fd self found
    have before : self < server.created ∧ server.loopOf self = loop ∧
        (server.conn self).state ≠ .connecting := by
      rcases pollers loop fd self found with earlier | now
      · exact queued.registered loop fd self earlier
      · exact now
    obtain ⟨known, home, started⟩ := before
    exact ⟨advances.created ▸ known, (advances.loopOf self).trans home,
      fun connecting => started ((advances.connecting self).mp connecting)⟩

/-- Nothing but records and the table changed. -/
theorem of_conn_eq (queued : WellQueued server) (created : after.created = server.created)
    (loopOf : ∀ self, after.loopOf self = server.loopOf self)
    (conn : ∀ self, after.conn self = server.conn self)
    (pending : after.pending = server.pending) (closing : after.closing = server.closing)
    (pollers : after.pollers = server.pollers) : WellQueued after :=
  queued.advance (.of_conn_eq created loopOf conn) pending closing
    fun _ _ _ found => .inl (pollers ▸ found)

/-- A handler of an established connection moves it forward. -/
theorem setAttached (queued : WellQueued server) {attached : Attached}
    (known : self < server.created) (started : (server.conn self).state ≠ .connecting)
    (forward : (server.conn self).state.rank ≤ attached.conn.state.rank)
    (touches : Attached.Touches self (server.attached self) attached) :
    WellQueued (server.setAttached self attached) := by
  refine queued.advance (.setAttached started forward) rfl rfl fun loop fd other found => ?_
  rcases touches.lookup_setAttached found with ⟨rfl, rfl⟩ | earlier
  · exact .inr ⟨known, rfl, started⟩
  · exact .inl earlier

theorem queueInLoop (queued : WellQueued server) {functor : ServerFunctor}
    (known : functor.conn < server.created) (home : loop = server.homeOf functor)
    (fits : functor.fits (server.conn functor.conn).state)
    (fresh : ∀ self, functor = .connectEstablished self →
      .connectEstablished self ∉ server.pending loop) :
    WellQueued (server.queueInLoop loop functor) := by
  constructor
  · intro target other member
    rcases mem_pending_queueInLoop member with earlier | ⟨_, rfl⟩
    · exact queued.known target other earlier
    · exact known
  · intro target other member
    rcases mem_pending_queueInLoop member with earlier | ⟨rfl, rfl⟩
    · exact queued.home target other earlier
    · exact home
  · intro target other member
    rcases mem_pending_queueInLoop member with earlier | ⟨_, rfl⟩
    · exact queued.fits target other earlier
    · exact fits
  · intro target self
    simp only [queueInLoop_pending, Function.update_apply]
    split
    · next same =>
        subst same
        rw [List.count_append]
        by_cases established : functor = .connectEstablished self
        · have none := List.count_eq_zero.mpr (fresh self established)
          simp [none, established]
        · simpa [established] using queued.once target self
    · exact queued.once target self
  · exact queued.closing
  · exact queued.registered

/-- Taking functors off the queues keeps the rest fit. -/
theorem withPending (queued : WellQueued server) {pending : LoopId → List ServerFunctor}
    (sublist : ∀ target, (pending target).Sublist (server.pending target)) :
    WellQueued { server with pending } := by
  constructor
  · intro target functor member
    exact queued.known target functor ((sublist target).subset member)
  · intro target functor member
    exact queued.home target functor ((sublist target).subset member)
  · intro target functor member
    exact queued.fits target functor ((sublist target).subset member)
  · intro target self
    exact ((sublist target).count_le _).trans (queued.once target self)
  · exact queued.closing
  · exact queued.registered

theorem unqueue (queued : WellQueued server) : WellQueued (server.unqueue loop) := by
  refine queued.withPending fun target => ?_
  simp only [Function.update_apply]
  split
  · next same => exact same ▸ List.tail_sublist _
  · exact List.Sublist.refl _

/-- Once its functor is taken, nothing is left that establishes the connection again. -/
theorem not_mem_unqueue (queued : WellQueued server) {rest : List ServerFunctor}
    (queue : server.pending loop = .connectEstablished self :: rest) (target : LoopId) :
    .connectEstablished self ∉ (server.unqueue loop).pending target := by
  intro member
  have home := queued.home loop (.connectEstablished self) (queue ▸ List.mem_cons_self)
  have same := queued.unqueue.home target (.connectEstablished self) member
  have atLoop : target = loop := same.trans home.symm
  subst atLoop
  have once := queued.once target self
  rw [queue, List.count_cons_self] at once
  simp only [unqueue_pending, Function.update_self, queue, List.tail_cons] at member
  have again := List.count_pos_iff.mpr member
  omega

/-- A connecting connection for which nothing is queued is established. -/
theorem connectEstablished (queued : WellQueued server) (known : self < server.created)
    (state : (server.conn self).state = .connecting)
    (taken : ∀ target, .connectEstablished self ∉ server.pending target) :
    WellQueued (server.connectEstablished self) := by
  have elsewhere : ∀ loop functor, functor ∈ server.pending loop → functor.conn ≠ self := by
    rintro loop functor member rfl
    have fits := queued.fits loop functor member
    rw [state] at fits
    cases functor with
    | connectEstablished self => exact taken loop member
    | removeConnection _ | connectDestroyed _ => cases fits
    | sendInLoop _ _ | shutdownInLoop _ | forceCloseInLoop _ => exact fits rfl
  constructor
  · exact queued.known
  · intro loop functor member
    rw [queued.home loop functor member]
    cases functor <;> simp [TcpServer.homeOf, TcpServer.connectEstablished]
  · intro loop functor member
    have other := elsewhere loop functor member
    simpa [TcpServer.connectEstablished, other] using queued.fits loop functor member
  · exact queued.once
  · intro loop other running
    obtain ⟨known, home, closed⟩ := queued.closing loop other running
    have different : other ≠ self := by
      rintro rfl
      rw [state] at closed
      cases closed
    exact ⟨known, by simpa [TcpServer.connectEstablished] using home,
      by simpa [TcpServer.connectEstablished, different] using closed⟩
  · intro loop fd other found
    have touches := @Attached.Touches.connectEstablished self (server.attached self)
    rcases touches.lookup_setAttached found with ⟨rfl, rfl⟩ | earlier
    · refine ⟨known, by simp [TcpServer.connectEstablished], ?_⟩
      simp [TcpServer.connectEstablished, Attached.connectEstablished, Attached.enableReading]
    · obtain ⟨known, home, started⟩ := queued.registered loop fd other earlier
      have different : other ≠ self := by
        rintro rfl
        exact started state
      exact ⟨known, by simpa [TcpServer.connectEstablished] using home,
        by simpa [TcpServer.connectEstablished, different] using started⟩

theorem setClosing (queued : WellQueued server) (known : self < server.created)
    (state : (server.conn self).state = .disconnected) :
    WellQueued (server.setClosing (server.loopOf self) (some self)) := by
  refine ⟨queued.known, queued.home, queued.fits, queued.once, fun loop other running => ?_,
    queued.registered⟩
  simp only [setClosing_closing, Function.update_apply] at running
  split at running
  · next same =>
      cases running
      exact ⟨known, same.symm, state⟩
  · exact queued.closing loop other running

theorem unsetClosing (queued : WellQueued server) : WellQueued (server.setClosing loop none) := by
  refine ⟨queued.known, queued.home, queued.fits, queued.once, fun target other running => ?_,
    queued.registered⟩
  simp only [setClosing_closing, Function.update_apply] at running
  split at running
  · cases running
  · exact queued.closing target other running

end WellQueued

/-- No two open sockets have the same number. -/
def DistinctSockets (server : TcpServer) : Prop :=
  ∀ self, self < server.created → ∀ other, other < server.created →
    (server.conn self).socketFd ≠ invalidSocket →
    (server.conn self).socketFd = (server.conn other).socketFd → self = other

/-- The connections after an accept: the new one and the earlier ones. -/
theorem cases_addConnection {server : TcpServer} {fd : Nat} {self : ConnId}
    (known : self < (server.addConnection fd).created) :
    self = server.created ∨ self < server.created ∧ self ≠ server.created := by
  rcases Nat.lt_succ_iff_lt_or_eq.mp known with earlier | new
  · exact .inr ⟨earlier, Nat.ne_of_lt earlier⟩
  · exact .inl new

theorem socketFd_ne_of_isFree {server : TcpServer} {fd : Nat} {self : ConnId}
    (free : server.isFree fd = true) (known : self < server.created) :
    (server.conn self).socketFd ≠ fd := by
  simp only [isFree, decide_eq_true_eq] at free
  exact free self known

/-- A number that the kernel hands out is a valid one. -/
theorem ofNat_ne_invalidSocket (fd : Nat) : (fd : SocketType) ≠ invalidSocket := by
  show (fd : Int) ≠ -1
  omega

namespace DistinctSockets

variable {server after : TcpServer} {self : ConnId}

theorem of_socketFd (distinct : DistinctSockets server)
    (created : after.created = server.created)
    (socketFd : ∀ self, (after.conn self).socketFd ≠ invalidSocket →
      (after.conn self).socketFd = (server.conn self).socketFd) : DistinctSockets after := by
  intro first knownFirst second knownSecond opened equal
  have before := socketFd first opened
  refine distinct first (created ▸ knownFirst) second (created ▸ knownSecond)
    (before ▸ opened) ?_
  rw [← before, equal]
  exact socketFd second (equal ▸ opened)

/-- A socket that keeps its number or is closed. -/
theorem setAttached (distinct : DistinctSockets server) {attached : Attached}
    (socketFd : attached.conn.socketFd = (server.conn self).socketFd ∨
      attached.conn.socketFd = invalidSocket) :
    DistinctSockets (server.setAttached self attached) := by
  refine distinct.of_socketFd rfl fun other opened => ?_
  rcases eq_or_ne other self with rfl | different
  · rw [conn_setAttached_self] at opened ⊢
    exact socketFd.resolve_right opened
  · rw [conn_setAttached_of_ne different]

/-- The kernel hands out a number that no open socket holds. -/
theorem addConnection (distinct : DistinctSockets server) {fd : Nat}
    (free : server.isFree fd = true) : DistinctSockets (server.addConnection fd) := by
  intro self known other knownOther
  rcases cases_addConnection known with rfl | ⟨earlier, different⟩ <;>
    rcases cases_addConnection knownOther with rfl | ⟨earlierOther, differentOther⟩
  · exact fun _ _ => rfl
  · simp only [conn_addConnection, if_true, differentOther, if_false]
    exact fun _ same => absurd same.symm (socketFd_ne_of_isFree free earlierOther)
  · simp only [conn_addConnection, if_true, different, if_false]
    exact fun _ same => absurd same (socketFd_ne_of_isFree free earlier)
  · simpa [different, differentOther] using distinct self earlier other earlierOther

end DistinctSockets

/-- Only the table, the queues and records differ. -/
structure SameConnections (before after : TcpServer) : Prop where
  created : after.created = before.created
  loopOf : ∀ self, after.loopOf self = before.loopOf self
  conn : ∀ self, after.conn self = before.conn self
  pollers : after.pollers = before.pollers
  closing : after.closing = before.closing

namespace SameConnections

variable {server : TcpServer} {self : ConnId}

/-- The removal of a disconnected connection leaves all connections alone. -/
theorem removeInLoop (state : (server.conn self).state = .disconnected) :
    SameConnections server (server.removeInLoop self) := by
  unfold TcpServer.removeInLoop
  dsimp only
  split
  · rw [connectDestroyed_of_disconnected (server.eraseConnection _) self state]
    exact ⟨rfl, fun _ => rfl, fun _ => rfl, rfl, rfl⟩
  · exact ⟨rfl, fun _ => rfl, fun _ => rfl, rfl, rfl⟩

theorem handleRemoveConnection (state : (server.conn self).state = .disconnected) :
    SameConnections server (server.handleRemoveConnection self) := by
  unfold TcpServer.handleRemoveConnection
  dsimp only
  split
  · have removed := @removeInLoop (server.countClose self) self (by simpa using state)
    exact ⟨removed.created, fun other => (removed.loopOf other).trans (by simp),
      fun other => (removed.conn other).trans (by simp), removed.pollers, removed.closing⟩
  · exact ⟨rfl, fun other => by simp, fun other => by simp, rfl, rfl⟩

end SameConnections

namespace WellQueued

variable {server : TcpServer} {self : ConnId}

/-- A functor that does not establish a connection may be queued on its loop. -/
theorem queueCall (queued : WellQueued server) {functor : ServerFunctor}
    (known : functor.conn < server.created)
    (fits : functor.fits (server.conn functor.conn).state)
    (call : ∀ self, functor ≠ .connectEstablished self) :
    WellQueued (server.queueInLoop (server.homeOf functor) functor) :=
  queued.queueInLoop known rfl fits fun self same => absurd same (call self)

theorem removeInLoop (queued : WellQueued server) (known : self < server.created)
    (state : (server.conn self).state = .disconnected) :
    WellQueued (server.removeInLoop self) := by
  have erased : WellQueued (server.eraseConnection (server.conn self).socketFd) :=
    queued.of_conn_eq rfl (fun _ => rfl) (fun _ => rfl) rfl rfl rfl
  unfold TcpServer.removeInLoop
  dsimp only
  split
  · rw [connectDestroyed_of_disconnected (server.eraseConnection _) self state]
    exact erased
  · exact @queueCall _ erased (.connectDestroyed self) known state (by simp)

theorem handleRemoveConnection (queued : WellQueued server) (known : self < server.created)
    (state : (server.conn self).state = .disconnected) :
    WellQueued (server.handleRemoveConnection self) := by
  have counted : WellQueued (server.countClose self) :=
    queued.of_conn_eq rfl (fun _ => by simp) (fun _ => by simp) rfl rfl rfl
  have stateCounted : ((server.countClose self).conn self).state = .disconnected := by
    simpa using state
  unfold TcpServer.handleRemoveConnection
  dsimp only
  split
  · exact counted.removeInLoop known stateCounted
  · exact @queueCall _ counted (.removeConnection self) known stateCounted (by simp)

theorem rank_le_disconnected (state : ConnectionState) :
    state.rank ≤ ConnectionState.disconnected.rank := by
  cases state <;> simp [ConnectionState.rank]

theorem handleClose (queued : WellQueued server) (known : self < server.created)
    (started : (server.conn self).state ≠ .connecting) :
    WellQueued (server.handleClose self) := by
  unfold TcpServer.handleClose
  split
  · exact queued
  · have closed : WellQueued
        (server.setAttached self ((server.attached self).beginHandleClose self)) :=
      queued.setAttached known started (by simpa using rank_le_disconnected _)
        .beginHandleClose
    have state : ((server.setAttached self
        ((server.attached self).beginHandleClose self)).conn self).state = .disconnected := by
      simp
    have removal := SameConnections.handleRemoveConnection state
    have removed := closed.handleRemoveConnection known state
    have marked := removed.setClosing (removal.created ▸ known) (removal.conn self ▸ state)
    rw [removal.loopOf, loopOf_setAttached] at marked
    exact marked

theorem forceCloseInLoop (queued : WellQueued server) (known : self < server.created) :
    WellQueued (server.forceCloseInLoop self) := by
  unfold TcpServer.forceCloseInLoop
  split
  · next polled =>
      have started : (server.conn self).state ≠ .connecting := by
        rcases polled with state | state <;> simp [state]
      have closed : WellQueued
          (server.setAttached self ((server.attached self).beginForceClose self)) :=
        queued.setAttached known started (by simpa using rank_le_disconnected _)
          .beginForceClose
      exact closed.handleRemoveConnection known (by simp)
  · exact queued

theorem sendInLoop (queued : WellQueued server) (known : self < server.created)
    (started : (server.conn self).state ≠ .connecting) (data : List UInt8) :
    WellQueued (server.sendInLoop self data) :=
  queued.setAttached known started (by simp [attached]) (.sendInLoop data)

theorem shutdownInLoop (queued : WellQueued server) (known : self < server.created)
    (started : (server.conn self).state ≠ .connecting) :
    WellQueued (server.shutdownInLoop self) := by
  refine queued.setAttached known started ?_ .shutdownInLoop
  rcases (server.attached self).shutdownInLoop_state self with same | closed
  · rw [same]
    exact Nat.le_refl _
  · rw [closed]
    exact rank_le_disconnected _

theorem handleWrite (queued : WellQueued server) (known : self < server.created)
    (started : (server.conn self).state ≠ .connecting) (result : WriteResult) :
    WellQueued (server.handleWrite self result) := by
  have written : WellQueued
      (server.setAttached self ((server.attached self).handleWrite self result).after) :=
    queued.setAttached known started (by simp [attached]) (.handleWrite result)
  unfold TcpServer.handleWrite
  dsimp only
  split
  · exact written.handleClose known (by simpa [attached] using started)
  · exact written

/-- A functor that was queued runs; only its own queue had an establishing functor. -/
theorem runFunctor (queued : WellQueued server) {functor : ServerFunctor}
    (known : functor.conn < server.created)
    (fits : functor.fits (server.conn functor.conn).state)
    (taken : ∀ self, functor = .connectEstablished self →
      ∀ loop, .connectEstablished self ∉ server.pending loop) :
    WellQueued (server.runFunctor functor) := by
  cases functor with
  | connectEstablished self => exact queued.connectEstablished known fits (taken self rfl)
  | removeConnection self => exact queued.removeInLoop known fits
  | connectDestroyed self =>
      show WellQueued (server.connectDestroyed self)
      rw [connectDestroyed_of_disconnected server self fits]
      exact queued
  | sendInLoop self data => exact queued.sendInLoop known fits data
  | shutdownInLoop self => exact queued.shutdownInLoop known fits
  | forceCloseInLoop self => exact queued.forceCloseInLoop known

/-- A call runs its functor at once or queues it. -/
theorem runInLoop (queued : WellQueued server) {functor : ServerFunctor}
    (known : functor.conn < server.created)
    (fits : functor.fits (server.conn functor.conn).state)
    (call : ∀ self, functor ≠ .connectEstablished self)
    (home : server.homeOf functor = server.loopOf self) (inLoop : Bool) :
    WellQueued (server.runInLoop self inLoop functor) := by
  cases inLoop with
  | true => exact queued.runFunctor known fits fun self same => absurd same (call self)
  | false =>
      have result := queued.queueCall known fits call
      rw [home] at result
      exact result

theorem send (queued : WellQueued server) (known : self < server.created) (inLoop : Bool)
    (data : List UInt8) : WellQueued (server.send self inLoop data) := by
  unfold TcpServer.send
  split
  · next connected =>
      have state : (server.conn self).state = .connected := by
        simpa [TcpConnection.isConnected] using connected
      apply queued.runInLoop
      · exact known
      · simp [ServerFunctor.fits, ServerFunctor.conn, state]
      · simp
      · rfl
  · exact queued

/-- `Shutdown` and `ForceClose` leave `Connected` before they call the loop. -/
theorem disconnecting (queued : WellQueued server) (known : self < server.created)
    (polled : (server.conn self).state = .connected ∨
      (server.conn self).state = .disconnecting) :
    WellQueued (server.setAttached self ((server.attached self).setState .disconnecting)) := by
  refine queued.setAttached known ?_ ?_ (.of_eq rfl rfl)
  · rcases polled with state | state <;> simp [state]
  · rcases polled with state | state <;> simp [state, ConnectionState.rank]

theorem shutdown (queued : WellQueued server) (known : self < server.created)
    (inLoop : Bool) : WellQueued (server.shutdown self inLoop) := by
  unfold TcpServer.shutdown
  split
  · next state =>
      apply (queued.disconnecting known (.inl state)).runInLoop
      · exact known
      · simp [ServerFunctor.fits, ServerFunctor.conn]
      · simp
      · rfl
  · exact queued

theorem forceClose (queued : WellQueued server) (known : self < server.created)
    (inLoop : Bool) : WellQueued (server.forceClose self inLoop) := by
  unfold TcpServer.forceClose
  split
  · next polled =>
      apply (queued.disconnecting known polled).runInLoop
      · exact known
      · simp [ServerFunctor.fits, ServerFunctor.conn]
      · simp
      · rfl
  · exact queued

theorem finishClose (queued : WellQueued server) {loop : LoopId}
    (running : server.closing loop = some self) : WellQueued (server.finishClose self loop) := by
  obtain ⟨known, _, state⟩ := queued.closing loop self running
  have closed : WellQueued (server.setAttached self (server.attached self).closeSocket) :=
    queued.setAttached known (by simp [state]) (by simp [attached]) (.of_eq rfl rfl)
  exact closed.unsetClosing

/-- The destructor of a connection leaves its state, and at most takes a registration away. -/
theorem destroy (queued : WellQueued server) : WellQueued (server.destroy self) := by
  unfold TcpServer.destroy
  dsimp only
  have gone : WellQueued (server.setAttached self
      (if (server.attached self).conn.channel.hasNoEvents then server.attached self
        else (server.attached self).disableAll self).closeSocket) := by
    refine queued.advance (.of_state_eq ?_) rfl rfl fun loop fd other found => .inl ?_
    · split <;> rfl
    · simp only [setAttached_pollers, Function.update_apply] at found
      split at found
      · next atLoop =>
          subst atLoop
          split at found
          · exact found
          · exact Attached.lookup_of_disableAll found
      · exact found
  exact gone.of_conn_eq rfl (fun _ => by simp) (fun _ => by simp) rfl rfl rfl

/-- The entry of a new connection is referred to by nothing that is queued. -/
theorem addConnection (queued : WellQueued server) (fd : Nat) :
    WellQueued (server.addConnection fd) := by
  have others : ∀ {other : ConnId}, other < server.created → other ≠ server.created :=
    fun known => Nat.ne_of_lt known
  constructor
  · intro loop functor member
    exact Nat.lt_succ_of_lt (queued.known loop functor member)
  · intro loop functor member
    have different := others (queued.known loop functor member)
    rw [queued.home loop functor member]
    cases functor <;> simp_all [TcpServer.homeOf, ServerFunctor.conn]
  · intro loop functor member
    have different := others (queued.known loop functor member)
    simpa [different] using queued.fits loop functor member
  · exact queued.once
  · intro loop self running
    obtain ⟨known, home, state⟩ := queued.closing loop self running
    exact ⟨Nat.lt_succ_of_lt known, by simpa [others known] using home,
      by simpa [others known] using state⟩
  · intro loop fd self found
    obtain ⟨known, home, started⟩ := queued.registered loop fd self found
    exact ⟨Nat.lt_succ_of_lt known, by simpa [others known] using home,
      by simpa [others known] using started⟩

theorem handleNewConnection (queued : WellQueued server) (fd : Nat) :
    WellQueued (server.handleNewConnection fd) := by
  have added := queued.addConnection fd
  have known : server.created < (server.addConnection fd).created := Nat.lt_succ_self _
  have state : ((server.addConnection fd).conn server.created).state = .connecting := by
    simp [TcpConnection.ofSocket]
  have fresh : ∀ loop, .connectEstablished server.created ∉
      (server.addConnection fd).pending loop := by
    intro loop member
    exact Nat.lt_irrefl _ (queued.known loop _ member)
  unfold TcpServer.handleNewConnection
  dsimp only
  split
  · exact added.connectEstablished known state fresh
  · refine added.queueInLoop known ?_ state fun self same => ?_
    · simp [TcpServer.homeOf]
    · cases same
      exact fresh _

/-- A connection that an event reaches has been established. -/
theorem started (queued : WellQueued server) (handles : server.Handles self) :
    (server.conn self).state ≠ .connecting :=
  (queued.registered _ _ _ handles.registered).2.2

/-- Every step keeps the queues fit. -/
theorem step {next : TcpServer} {event : ServerEvent} (queued : WellQueued server)
    (step : ServerStep server event next) : WellQueued next := by
  cases step with
  | accept fd _ _ => exact queued.handleNewConnection fd
  | functor loop functor rest queue _ =>
      have member : functor ∈ server.pending loop := queue ▸ List.mem_cons_self
      refine queued.unqueue.runFunctor (queued.known loop functor member)
        (queued.fits loop functor member) ?_
      rintro self rfl
      exact queued.not_mem_unqueue queue
  | readable self _ =>
      exact queued.of_conn_eq rfl (fun _ => by simp) (fun _ => by simp) rfl rfl rfl
  | readClosed self handles | errorEvent self handles =>
      exact queued.handleClose handles.known (queued.started handles)
  | writable self result handles =>
      exact queued.handleWrite handles.known (queued.started handles) result
  | finishClose loop self running => exact queued.finishClose running
  | send self inLoop data called => exact queued.send called.known inLoop data
  | shutdown self inLoop called => exact queued.shutdown called.known inLoop
  | forceClose self inLoop called => exact queued.forceClose called.known inLoop
  | destroy self _ _ _ => exact queued.destroy

end WellQueued

end TurboCore.Net
