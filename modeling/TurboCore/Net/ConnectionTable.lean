import Mathlib
import TurboCore.Net.PollerRegistration

/-!
# Closed connections leave the table

`HandleRemoveConnection` erases under the fd that the connection has when the lambda
runs. It finds the entry when the lambda overtakes the `m_socket.Close()` of
`HandleClose`; `ForceCloseInLoop` closes first, and `ShutdownInLoop` removes nothing.
-/

namespace TurboCore.Net

open Foundation TcpServer

/-- Nothing is queued and no handler is half done. -/
def Settled (server : TcpServer) : Prop :=
  ∀ loop, server.pending loop = [] ∧ server.closing loop = none

/-- The assertion of `HandleRemoveConnection` held, and once everything queued has run
the entry of every disconnected connection was erased exactly once. -/
structure TableFollows (server : TcpServer) : Prop where
  assertion : server.assertionsHold = true
  erasedOnce : Settled server → ∀ self, self < server.created →
    (server.conn self).state = .disconnected →
    server.erased.count self = 1 ∧ ∀ fd, server.connections.lookup fd ≠ some self

/-- The condition on a functor body. -/
def TcpServer.closesThroughRemoval (server : TcpServer) : Option ServerFunctor → Prop
  | some (.shutdownInLoop self) =>
      (server.conn self).outputBuffer.content = [] → (server.conn self).state = .disconnected
  | some (.forceCloseInLoop self) => (server.conn self).state = .disconnected
  | _ => True

/-- `ForceCloseInLoop` and a `ShutdownInLoop` with nothing to send find the connection
disconnected, and `HandleClose` closes its socket after the removal has run. -/
def RemovesFirst (server : TcpServer) : ServerEvent → Prop
  | .finishClose loop =>
      (server.closing loop).all fun self => .removeConnection self ∉ server.pending 0
  | event => server.closesThroughRemoval (server.runsNow event)

instance (server : TcpServer) :
    (functor : Option ServerFunctor) → Decidable (server.closesThroughRemoval functor)
  | some (.shutdownInLoop _) => inferInstanceAs (Decidable (_ → _))
  | some (.forceCloseInLoop _) => inferInstanceAs (Decidable (_ = _))
  | none | some (.connectEstablished _) | some (.removeConnection _)
  | some (.connectDestroyed _) | some (.sendInLoop _ _) => .isTrue trivial

instance (server : TcpServer) : (event : ServerEvent) → Decidable (RemovesFirst server event)
  | .finishClose _ => inferInstanceAs (Decidable (_ = true))
  | .accept _ | .readable _ | .readClosed _ | .writable _ _ | .errorEvent _ | .send _ _ _
  | .destroy _ => .isTrue trivial
  | .functor loop =>
      inferInstanceAs (Decidable (server.closesThroughRemoval (server.runsNow (.functor loop))))
  | .shutdown self inLoop =>
      inferInstanceAs
        (Decidable (server.closesThroughRemoval (server.runsNow (.shutdown self inLoop))))
  | .forceClose self inLoop =>
      inferInstanceAs
        (Decidable (server.closesThroughRemoval (server.runsNow (.forceClose self inLoop))))

/-- How often the removal of a connection is queued. -/
def TcpServer.removals (server : TcpServer) (self : ConnId) : Nat :=
  (server.pending 0).count (.removeConnection self)

/-- The connection's entry stands under the fd of its open socket. -/
structure Listed (server : TcpServer) (who : ConnId) : Prop where
  opened : (server.conn who).socketFd ≠ invalidSocket
  entry : server.connections.lookup (server.conn who).socketFd = some who
  kept : server.erased.count who = 0

/-- The connection's entry was erased once. -/
structure Unlisted (server : TcpServer) (who : ConnId) : Prop where
  absent : ∀ fd, server.connections.lookup fd ≠ some who
  once : server.erased.count who = 1
  done : server.removals who = 0

/-- How far a connection is on its way out of the table. -/
inductive TablePhase (server : TcpServer) (self : ConnId) : Prop where
  | opened (state : (server.conn self).state ≠ .disconnected) (listed : Listed server self)
      (unasked : server.removals self = 0)
  | removing (state : (server.conn self).state = .disconnected) (listed : Listed server self)
      (asked : server.removals self = 1)
      (running : server.closing (server.loopOf self) = some self)
  | removed (state : (server.conn self).state = .disconnected) (unlisted : Unlisted server self)

/-- Open sockets are distinct, and the table maps fds to the open connections that have
them. -/
structure TableCore (server : TcpServer) : Prop where
  distinct : DistinctSockets server
  sound : ∀ fd self, server.connections.lookup fd = some self →
    self < server.created ∧ (server.conn self).socketFd = fd
  erasedKnown : ∀ self ∈ server.erased, self < server.created
  assertion : server.assertionsHold = true

/-- The invariant. -/
structure Tabled (server : TcpServer) : Prop extends TableCore server where
  phase : ∀ self, self < server.created → TablePhase server self

theorem Tabled.tableFollows {server : TcpServer} (tabled : Tabled server) :
    TableFollows server := by
  refine ⟨tabled.assertion, fun settled self known state => ?_⟩
  cases tabled.phase self known with
  | opened opened => exact absurd state opened
  | removing _ _ _ running =>
      rw [(settled _).2] at running
      cases running
  | removed _ unlisted => exact ⟨unlisted.once, unlisted.absent⟩

theorem TableCore.same {before after : TcpServer} (core : TableCore before)
    (created : after.created = before.created)
    (socketFd : ∀ self, (after.conn self).socketFd = (before.conn self).socketFd)
    (connections : after.connections = before.connections)
    (erased : after.erased = before.erased)
    (assertionsHold : after.assertionsHold = before.assertionsHold) : TableCore after := by
  constructor
  · exact core.distinct.of_socketFd created fun self _ => socketFd self
  · intro fd self found
    rw [created, socketFd]
    exact core.sound fd self (connections ▸ found)
  · intro self member
    rw [created]
    exact core.erasedKnown self (erased ▸ member)
  · rw [assertionsHold]
    exact core.assertion

/-- The connection stands at the same place of its way out. -/
structure SameTable (before after : TcpServer) (who : ConnId) : Prop where
  loopOf : after.loopOf who = before.loopOf who
  socketFd : (after.conn who).socketFd = (before.conn who).socketFd
  state : (after.conn who).state = .disconnected ↔ (before.conn who).state = .disconnected
  removals : after.removals who = before.removals who
  closing : after.closing = before.closing
  connections : after.connections = before.connections
  erased : after.erased = before.erased

section Same

variable {before after server : TcpServer} {self other : ConnId} {attached : Attached}

theorem SameTable.listed (same : SameTable before after self) (listed : Listed before self) :
    Listed after self := by
  constructor
  · rw [same.socketFd]
    exact listed.opened
  · rw [same.socketFd, same.connections]
    exact listed.entry
  · rw [same.erased]
    exact listed.kept

theorem SameTable.unlisted (same : SameTable before after self)
    (unlisted : Unlisted before self) : Unlisted after self := by
  constructor
  · rw [same.connections]
    exact unlisted.absent
  · rw [same.erased]
    exact unlisted.once
  · rw [same.removals]
    exact unlisted.done

theorem SameTable.phase (same : SameTable before after self) (phase : TablePhase before self) :
    TablePhase after self := by
  cases phase with
  | opened state listed unasked =>
      refine .opened ?_ (same.listed listed) ?_
      · rw [Ne, same.state]
        exact state
      · rw [same.removals]
        exact unasked
  | removing state listed asked running =>
      refine .removing (same.state.mpr state) (same.listed listed) ?_ ?_
      · rw [same.removals]
        exact asked
      · rw [same.closing, same.loopOf]
        exact running
  | removed state unlisted => exact .removed (same.state.mpr state) (same.unlisted unlisted)

theorem Tabled.same (tabled : Tabled before) (created : after.created = before.created)
    (same : ∀ self, SameTable before after self)
    (assertionsHold : after.assertionsHold = before.assertionsHold) : Tabled after :=
  ⟨tabled.toTableCore.same created (fun self => (same self).socketFd) (same 0).connections
    (same 0).erased assertionsHold,
    fun self known => (same self).phase (tabled.phase self (created ▸ known))⟩

/-- Nothing of the other connections changes. -/
theorem SameTable.setAttached_of_ne (different : other ≠ self) :
    SameTable server (server.setAttached self attached) other :=
  ⟨by simp, by rw [conn_setAttached_of_ne different], by rw [conn_setAttached_of_ne different],
    rfl, rfl, rfl, rfl⟩

theorem socketFd_setAttached (socketFd : attached.conn.socketFd = (server.conn self).socketFd)
    (other : ConnId) : ((server.setAttached self attached).conn other).socketFd =
      (server.conn other).socketFd := by
  rcases eq_or_ne other self with rfl | different
  · rw [conn_setAttached_self, socketFd]
  · rw [conn_setAttached_of_ne different]

/-- A handler that keeps the socket and does not disconnect. -/
theorem Tabled.setAttached (tabled : Tabled server)
    (socketFd : attached.conn.socketFd = (server.conn self).socketFd)
    (state : attached.conn.state = .disconnected ↔ (server.conn self).state = .disconnected) :
    Tabled (server.setAttached self attached) := by
  refine tabled.same rfl (fun other => ?_) rfl
  rcases eq_or_ne other self with rfl | different
  · refine ⟨by simp, socketFd_setAttached socketFd _, ?_, rfl, rfl, rfl, rfl⟩
    rw [conn_setAttached_self, state]
  · exact .setAttached_of_ne different

theorem SameTable.of_conn_eq (loopOf : after.loopOf self = before.loopOf self)
    (conn : after.conn self = before.conn self) (pending : after.pending = before.pending)
    (closing : after.closing = before.closing)
    (connections : after.connections = before.connections)
    (erased : after.erased = before.erased) : SameTable before after self :=
  ⟨loopOf, by rw [conn], by rw [conn], by
    unfold TcpServer.removals
    rw [pending], closing, connections,
    erased⟩

theorem Tabled.callBack (tabled : Tabled server) (callback : UserCallback) :
    Tabled (server.callBack self callback) :=
  tabled.same rfl (fun _ => .of_conn_eq (by simp) (by simp) rfl rfl rfl rfl) rfl

theorem removals_queueInLoop (loop : LoopId) (functor : ServerFunctor) (other : ConnId) :
    (server.queueInLoop loop functor).removals other = server.removals other +
      if loop = 0 ∧ functor = .removeConnection other then 1 else 0 := by
  unfold removals
  simp only [queueInLoop_pending, Function.update_apply]
  by_cases main : loop = 0
  · subst main
    simp [List.count_append, List.count_singleton]
  · simp [main, Ne.symm main]

/-- A functor other than a removal is queued. -/
theorem Tabled.queueInLoop (tabled : Tabled server) {loop : LoopId} {functor : ServerFunctor}
    (call : ∀ self, functor ≠ .removeConnection self) :
    Tabled (server.queueInLoop loop functor) :=
  tabled.same rfl (fun other => ⟨rfl, rfl, Iff.rfl, by simp [removals_queueInLoop, call other],
    rfl, rfl, rfl⟩) rfl

/-- Taking the first functor takes its removal. -/
theorem removals_unqueue {loop : LoopId} {functor : ServerFunctor} {rest : List ServerFunctor}
    (queue : server.pending loop = functor :: rest) (other : ConnId) :
    server.removals other = (server.unqueue loop).removals other +
      if loop = 0 ∧ functor = .removeConnection other then 1 else 0 := by
  unfold removals
  simp only [unqueue_pending, Function.update_apply]
  by_cases main : loop = 0
  · subst main
    simp [queue, List.count_cons]
  · simp [main, Ne.symm main]

/-- A functor other than a removal is taken. -/
theorem Tabled.unqueue (tabled : Tabled server) {loop : LoopId} {functor : ServerFunctor}
    {rest : List ServerFunctor} (queue : server.pending loop = functor :: rest)
    (call : ∀ self, functor ≠ .removeConnection self) : Tabled (server.unqueue loop) :=
  tabled.same rfl (fun other => ⟨rfl, rfl, Iff.rfl, by simp [removals_unqueue queue, call other],
    rfl, rfl, rfl⟩) rfl

/-- A handler may begin or end on a loop on which no removal is awaited. -/
theorem Tabled.setClosing (tabled : Tabled server) {loop : LoopId} {closing : Option ConnId}
    (unasked : ∀ other, server.closing loop = some other → server.removals other = 0) :
    Tabled (server.setClosing loop closing) := by
  refine ⟨tabled.toTableCore.same rfl (fun _ => rfl) rfl rfl rfl, fun other known => ?_⟩
  cases tabled.phase other known with
  | opened state listed none => exact .opened state ⟨listed.1, listed.2, listed.3⟩ none
  | removing state listed asked running =>
      refine .removing state ⟨listed.1, listed.2, listed.3⟩ asked ?_
      have elsewhere : server.loopOf other ≠ loop := by
        rintro rfl
        rw [unasked other running] at asked
        cases asked
      show Function.update server.closing loop closing (server.loopOf other) = some other
      rw [Function.update_of_ne elsewhere]
      exact running
  | removed state unlisted => exact .removed state ⟨unlisted.1, unlisted.2, unlisted.3⟩

end Same

/-- A connection that has disconnected and whose removal is not yet asked for; the others
stand where they should. -/
structure Leaving (server : TcpServer) (who : ConnId) : Prop extends TableCore server where
  known : who < server.created
  others : ∀ other, other < server.created → other ≠ who → TablePhase server other
  state : (server.conn who).state = .disconnected
  listed : Listed server who
  unasked : server.removals who = 0

namespace Leaving

variable {server after : TcpServer} {who : ConnId} {attached : Attached}

/-- An open connection that disconnects is leaving. -/
theorem of_tabled (tabled : Tabled server) (known : who < server.created)
    (opened : (server.conn who).state ≠ .disconnected)
    (socketFd : attached.conn.socketFd = (server.conn who).socketFd)
    (state : attached.conn.state = .disconnected) :
    Leaving (server.setAttached who attached) who := by
  cases tabled.phase who known with
  | opened _ listed unasked =>
      have sockets := socketFd_setAttached socketFd
      refine ⟨tabled.toTableCore.same rfl sockets rfl rfl rfl, known, ?_, ?_, ?_, unasked⟩
      · intro other knownOther different
        exact (SameTable.setAttached_of_ne different).phase (tabled.phase other knownOther)
      · rw [conn_setAttached_self]
        exact state
      · exact ⟨by rw [sockets]; exact listed.opened, by rw [sockets]; exact listed.entry,
          listed.kept⟩
  | removing closed => exact absurd closed opened
  | removed closed => exact absurd closed opened

theorem countClose (leaving : Leaving server who) : Leaving (server.countClose who) who := by
  have same : ∀ other, SameTable server (server.countClose who) other :=
    fun _ => .of_conn_eq (by simp) (by simp) rfl rfl rfl rfl
  exact ⟨leaving.toTableCore.same rfl (fun other => (same other).socketFd) rfl rfl rfl,
    leaving.known,
    fun other known different => (same other).phase (leaving.others other known different),
    (same who).state.mpr leaving.state, (same who).listed leaving.listed,
    (same who).removals.trans leaving.unasked⟩

/-- The lambda finds the entry and erases it. -/
theorem erase (leaving : Leaving server who) :
    Tabled (server.eraseConnection (server.conn who).socketFd) := by
  have lookup : ∀ fd, (server.eraseConnection (server.conn who).socketFd).connections.lookup fd =
      if fd = (server.conn who).socketFd then none else server.connections.lookup fd :=
    FiniteMap.lookup_erase _ _
  have erased : (server.eraseConnection (server.conn who).socketFd).erased =
      server.erased ++ [who] := by
    rw [eraseConnection_erased, leaving.listed.entry]
    rfl
  have absent : ∀ fd other, other ≠ who →
      server.connections.lookup fd = some other → fd ≠ (server.conn who).socketFd := by
    rintro fd other different found rfl
    rw [leaving.listed.entry] at found
    cases found
    exact different rfl
  constructor
  · constructor
    · exact leaving.distinct
    · intro fd other found
      rw [lookup] at found
      split at found
      · cases found
      · exact leaving.sound fd other found
    · intro other member
      rw [erased] at member
      rcases List.mem_append.mp member with earlier | last
      · exact leaving.erasedKnown other earlier
      · rw [List.mem_singleton.mp last]
        exact leaving.known
    · rw [eraseConnection_assertionsHold, leaving.listed.entry, leaving.assertion]
      rfl
  · intro other known
    rcases eq_or_ne other who with rfl | different
    · refine .removed leaving.state ⟨fun fd found => ?_, ?_, leaving.unasked⟩
      · rw [lookup] at found
        split at found
        · cases found
        · next elsewhere => exact elsewhere (leaving.sound fd other found).2.symm
      · rw [erased, List.count_append, leaving.listed.kept]
        simp
    · have counts : (server.eraseConnection (server.conn who).socketFd).erased.count other =
          server.erased.count other := by
        rw [erased, List.count_append]
        simp [different.symm]
      have listed : Listed server other →
          Listed (server.eraseConnection (server.conn who).socketFd) other := by
        intro listed
        refine ⟨listed.opened, ?_, counts.trans listed.kept⟩
        rw [lookup]
        exact (if_neg (absent _ other different listed.entry)).trans listed.entry
      cases leaving.others other known different with
      | opened state here unasked => exact .opened state (listed here) unasked
      | removing state here asked running => exact .removing state (listed here) asked running
      | removed state unlisted =>
          refine .removed state ⟨fun fd found => ?_, counts.trans unlisted.once, unlisted.done⟩
          rw [lookup] at found
          split at found
          · cases found
          · exact unlisted.absent fd found

theorem removeInLoop (leaving : Leaving server who) : Tabled (server.removeInLoop who) := by
  have erased := leaving.erase
  unfold TcpServer.removeInLoop
  dsimp only
  split
  · rw [connectDestroyed_of_disconnected (server.eraseConnection _) who leaving.state]
    exact erased
  · exact erased.queueInLoop (by simp)

/-- The removal is queued for the main loop while the handler has not closed the socket. -/
theorem ask (leaving : Leaving server who)
    (idle : server.closing (server.loopOf who) = none) :
    Tabled ((server.queueInLoop 0 (.removeConnection who)).setClosing (server.loopOf who)
      (some who)) := by
  refine ⟨leaving.toTableCore.same rfl (fun _ => rfl) rfl rfl rfl, fun other known => ?_⟩
  have counts := @removals_queueInLoop server 0 (.removeConnection who)
  rcases eq_or_ne other who with rfl | different
  · refine .removing leaving.state ⟨leaving.listed.1, leaving.listed.2, leaving.listed.3⟩ ?_ ?_
    · refine (counts other).trans ?_
      rw [leaving.unasked]
      simp
    · exact Function.update_self _ _ _
  · have count : (server.queueInLoop 0 (.removeConnection who)).removals other =
        server.removals other := by
      refine (counts other).trans ?_
      simp [different.symm]
    cases leaving.others other known different with
    | opened state listed unasked =>
        exact .opened state ⟨listed.1, listed.2, listed.3⟩ (count.trans unasked)
    | removing state listed asked running =>
        refine .removing state ⟨listed.1, listed.2, listed.3⟩ (count.trans asked) ?_
        have elsewhere : server.loopOf other ≠ server.loopOf who := by
          intro same
          rw [same, idle] at running
          cases running
        show Function.update server.closing _ _ (server.loopOf other) = some other
        rw [Function.update_of_ne elsewhere]
        exact running
    | removed state unlisted =>
        exact .removed state ⟨unlisted.1, unlisted.2, count.trans unlisted.3⟩

/-- The close callback and the mark that its handler still has to close the socket. -/
theorem handleRemoveConnection (leaving : Leaving server who)
    (idle : server.closing (server.loopOf who) = none) :
    Tabled ((server.handleRemoveConnection who).setClosing (server.loopOf who) (some who)) := by
  have counted := leaving.countClose
  have loop : (server.countClose who).loopOf who = server.loopOf who := by simp
  unfold TcpServer.handleRemoveConnection
  dsimp only
  split
  · refine counted.removeInLoop.setClosing fun other running => ?_
    have same := (SameConnections.removeInLoop counted.state).closing
    rw [same] at running
    exact absurd (idle.symm.trans running) (by simp)
  · have asked := counted.ask (loop ▸ idle)
    rw [loop] at asked
    exact asked

end Leaving

namespace Tabled

variable {server : TcpServer} {self : ConnId}

theorem start (threadNum : Nat) : Tabled (.start threadNum) where
  distinct _ known := absurd known (Nat.not_lt_zero _)
  sound _ _ found := by cases found
  erasedKnown _ member := by cases member
  assertion := rfl
  phase _ known := absurd known (Nat.not_lt_zero _)

theorem handleClose (tabled : Tabled server) (known : self < server.created)
    (idle : server.isIdle (server.loopOf self) = true) : Tabled (server.handleClose self) := by
  unfold TcpServer.handleClose
  split
  · exact tabled
  · next opened =>
      have closed : Attached.Closed self (server.attached self)
          ((server.attached self).beginHandleClose self) := .beginHandleClose
      have kept : ((server.attached self).beginHandleClose self).conn.socketFd =
          (server.conn self).socketFd := Attached.beginHandleClose_socketFd _ _
      have leaving := Leaving.of_tabled tabled known opened kept closed.state
      have result := leaving.handleRemoveConnection (by simpa [isIdle] using idle)
      rw [loopOf_setAttached] at result
      exact result

theorem handleWrite (tabled : Tabled server) (known : self < server.created)
    (idle : server.isIdle (server.loopOf self) = true) (result : WriteResult) :
    Tabled (server.handleWrite self result) := by
  have written : Tabled
      (server.setAttached self ((server.attached self).handleWrite self result).after) :=
    tabled.setAttached (Attached.handleWrite_socketFd _ _ _)
      (by rw [Attached.handleWrite_state]; rfl)
  unfold TcpServer.handleWrite
  dsimp only
  split
  · exact written.handleClose known (by rw [loopOf_setAttached]; exact idle)
  · exact written

theorem connectEstablished (tabled : Tabled server)
    (state : (server.conn self).state = .connecting) : Tabled (server.connectEstablished self) := by
  have established : Tabled
      (server.setAttached self ((server.attached self).connectEstablished self)) := by
    refine tabled.setAttached rfl (iff_of_false ?_ ?_)
    · exact fun closed => by cases closed
    · simp [state]
  exact established.callBack _

/-- A disconnected connection whose handler is not half done has been removed. -/
theorem removed_of_idle (tabled : Tabled server) (known : self < server.created)
    (state : (server.conn self).state = .disconnected)
    (idle : server.closing (server.loopOf self) = some self → server.removals self = 0) :
    Unlisted server self := by
  cases tabled.phase self known with
  | opened opened => exact absurd state opened
  | removing _ _ asked running =>
      rw [idle running] at asked
      cases asked
  | removed _ unlisted => exact unlisted

/-- A removed connection gives up its socket. -/
theorem closeSocket (tabled : Tabled server) {attached : Attached}
    (unlisted : Unlisted server self) (state : attached.conn.state = .disconnected)
    (closed : attached.conn.socketFd = invalidSocket) :
    Tabled (server.setAttached self attached) := by
  refine ⟨⟨tabled.distinct.setAttached (.inr closed), ?_, tabled.erasedKnown,
    tabled.assertion⟩, fun other known => ?_⟩
  · intro fd other found
    have different : other ≠ self := by
      rintro rfl
      exact unlisted.absent fd found
    rw [conn_setAttached_of_ne different]
    exact tabled.sound fd other found
  · rcases eq_or_ne other self with rfl | different
    · refine .removed ?_ ⟨unlisted.1, unlisted.2, unlisted.3⟩
      rw [conn_setAttached_self]
      exact state
    · exact (SameTable.setAttached_of_ne different).phase (tabled.phase other known)

theorem sendInLoop (tabled : Tabled server) (data : List UInt8) :
    Tabled (server.sendInLoop self data) :=
  tabled.setAttached (Attached.sendInLoop_socketFd _ _ _)
    (by rw [Attached.sendInLoop_state]; rfl)

/-- `ShutdownInLoop` with nothing to send finds a removed connection. -/
theorem shutdownInLoop (tabled : Tabled server) (known : self < server.created)
    (idle : server.isIdle (server.loopOf self) = true)
    (admitted : (server.conn self).outputBuffer.content = [] →
      (server.conn self).state = .disconnected) : Tabled (server.shutdownInLoop self) := by
  unfold TcpServer.shutdownInLoop
  by_cases empty : (server.conn self).outputBuffer.content = []
  · have unlisted := tabled.removed_of_idle known (admitted empty) fun running => by
      rw [isIdle, running] at idle
      cases idle
    have closes := Attached.shutdownInLoop_of_empty self (server.attached self) empty
    refine tabled.closeSocket unlisted ?_ ?_
    · rw [closes]
      rfl
    · rw [closes]
      rfl
  · have waits := Attached.writeStep_shutdownInLoop self (server.attached self) empty
    exact tabled.setAttached waits.socketFd (by rw [waits.state]; rfl)

theorem forceCloseInLoop (tabled : Tabled server)
    (state : (server.conn self).state = .disconnected) :
    Tabled (server.forceCloseInLoop self) := by
  unfold TcpServer.forceCloseInLoop
  rw [if_neg (by simp [state])]
  exact tabled

/-- The removal at the head of the main loop's queue runs. -/
theorem removeConnection (tabled : Tabled server) {rest : List ServerFunctor}
    (queue : server.pending 0 = .removeConnection self :: rest)
    (known : self < server.created) : Tabled ((server.unqueue 0).removeInLoop self) := by
  have counts := removals_unqueue queue
  have own : server.removals self = (server.unqueue 0).removals self + 1 := by
    simpa using counts self
  have leaving : Leaving (server.unqueue 0) self := by
    cases tabled.phase self known with
    | opened _ _ unasked => omega
    | removed _ unlisted =>
        have done := unlisted.done
        omega
    | removing state listed asked _ =>
        refine ⟨tabled.toTableCore.same rfl (fun _ => rfl) rfl rfl rfl, known, ?_, state,
          ⟨listed.1, listed.2, listed.3⟩, by omega⟩
        intro other knownOther different
        have same : SameTable server (server.unqueue 0) other := by
          refine ⟨rfl, rfl, Iff.rfl, ?_, rfl, rfl, rfl⟩
          have count := counts other
          rw [if_neg (by simp [different.symm])] at count
          exact count.symm
        exact same.phase (tabled.phase other knownOther)
  exact leaving.removeInLoop

/-- A functor body other than a removal. -/
theorem runFunctor (tabled : Tabled server) {functor : ServerFunctor}
    (call : ∀ self, functor ≠ .removeConnection self) (known : functor.conn < server.created)
    (idle : server.isIdle (server.loopOf functor.conn) = true)
    (fits : functor.fits (server.conn functor.conn).state)
    (admitted : server.closesThroughRemoval (some functor)) :
    Tabled (server.runFunctor functor) := by
  cases functor with
  | connectEstablished self => exact tabled.connectEstablished fits
  | removeConnection self => exact absurd rfl (call self)
  | connectDestroyed self =>
      show Tabled (server.connectDestroyed self)
      rw [connectDestroyed_of_disconnected server self fits]
      exact tabled
  | sendInLoop self data => exact tabled.sendInLoop data
  | shutdownInLoop self => exact tabled.shutdownInLoop known idle admitted
  | forceCloseInLoop self => exact tabled.forceCloseInLoop admitted

theorem send (tabled : Tabled server) (inLoop : Bool) (data : List UInt8) :
    Tabled (server.send self inLoop data) := by
  unfold TcpServer.send
  split
  · cases inLoop with
    | true => exact tabled.sendInLoop data
    | false => exact tabled.queueInLoop (by simp)
  · exact tabled

theorem disconnecting (tabled : Tabled server)
    (opened : (server.conn self).state ≠ .disconnected) :
    Tabled (server.setAttached self ((server.attached self).setState .disconnecting)) :=
  tabled.setAttached rfl (iff_of_false (by simp) opened)

theorem shutdown (tabled : Tabled server) {inLoop : Bool} (known : self < server.created)
    (idle : inLoop = true → server.isIdle (server.loopOf self) = true)
    (admitted : RemovesFirst server (.shutdown self inLoop)) :
    Tabled (server.shutdown self inLoop) := by
  unfold TcpServer.shutdown
  split
  · next connected =>
      have stopping := @disconnecting server self tabled (by simp [connected])
      cases inLoop with
      | true =>
          refine stopping.shutdownInLoop known ?_ ?_
          · rw [loopOf_setAttached]
            exact idle rfl
          · have pending : (server.conn self).outputBuffer.content ≠ [] := by
              simpa [RemovesFirst, runsNow, connected, closesThroughRemoval] using admitted
            rw [conn_setAttached_self]
            exact fun empty => absurd empty pending
      | false => exact stopping.queueInLoop (by simp)
  · exact tabled

theorem forceClose (tabled : Tabled server) {inLoop : Bool}
    (admitted : RemovesFirst server (.forceClose self inLoop)) :
    Tabled (server.forceClose self inLoop) := by
  unfold TcpServer.forceClose
  split
  · next polled =>
      have opened : (server.conn self).state ≠ .disconnected :=
        ConnectionState.Polled.ne_disconnected polled
      cases inLoop with
      | true =>
          have closed : (server.conn self).state = .disconnected := by
            simpa [RemovesFirst, runsNow, polled, closesThroughRemoval] using admitted
          exact absurd closed opened
      | false => exact (tabled.disconnecting opened).queueInLoop (by simp)
  · exact tabled

theorem finishClose (tabled : Tabled server) (queued : WellQueued server) {loop : LoopId}
    (running : server.closing loop = some self)
    (admitted : RemovesFirst server (.finishClose loop)) :
    Tabled (server.finishClose self loop) := by
  obtain ⟨known, _, state⟩ := queued.closing loop self running
  have unasked : server.removals self = 0 := by
    rw [TcpServer.removals, List.count_eq_zero]
    simpa [RemovesFirst, running] using admitted
  have unlisted := tabled.removed_of_idle known state fun _ => unasked
  have closed := @closeSocket server self tabled (server.attached self).closeSocket unlisted
    state rfl
  refine closed.setClosing fun other runningOther => ?_
  have same : other = self := by
    have both : server.closing loop = some other := runningOther
    rw [running] at both
    cases both
    rfl
  rw [same]
  exact unasked

theorem destroy (tabled : Tabled server) (known : self < server.created)
    (state : (server.conn self).state = .disconnected)
    (unreferenced : server.isReferenced self = false) : Tabled (server.destroy self) := by
  have absent : ∀ fd, server.connections.lookup fd ≠ some self := by
    intro fd found
    have member : (⟨fd, self⟩ : Sigma fun _ : SocketType => ConnId) ∈ server.connections.entries :=
      AList.mem_lookup_iff.mp found
    simp only [isReferenced, decide_eq_false_iff_not, not_or, not_exists, not_and] at unreferenced
    exact unreferenced.1 _ member rfl
  have unlisted : Unlisted server self := by
    cases tabled.phase self known with
    | opened opened => exact absurd state opened
    | removing _ listed => exact absurd listed.entry (absent _)
    | removed _ unlisted => exact unlisted
  unfold TcpServer.destroy
  dsimp only
  have gone : Tabled (server.setAttached self
      (if (server.attached self).conn.channel.hasNoEvents then server.attached self
        else (server.attached self).disableAll self).closeSocket) := by
    refine tabled.closeSocket unlisted ?_ rfl
    split <;> exact state
  exact gone.same rfl (fun _ => .of_conn_eq (by simp) (by simp) rfl rfl rfl rfl) rfl

/-- A new connection is listed under a number that no open socket holds. -/
theorem addConnection (tabled : Tabled server) (queued : WellQueued server) {fd : Nat}
    (free : server.isFree fd = true) : Tabled (server.addConnection fd) := by
  have lookup : ∀ key, (server.addConnection fd).connections.lookup key =
      if key = fd then some server.created else server.connections.lookup key :=
    fun key => FiniteMap.lookup_insert server.connections fd key server.created
  constructor
  · constructor
    · exact tabled.distinct.addConnection free
    · intro key self found
      rw [lookup] at found
      split at found
      · next own =>
          cases found
          refine ⟨Nat.lt_succ_self _, ?_⟩
          simp [TcpConnection.ofSocket, own]
      · obtain ⟨known, socketFd⟩ := tabled.sound key self found
        have different : self ≠ server.created := Nat.ne_of_lt known
        exact ⟨Nat.lt_succ_of_lt known, by simpa [different] using socketFd⟩
    · exact fun self member => Nat.lt_succ_of_lt (tabled.erasedKnown self member)
    · exact tabled.assertion
  · intro self known
    rcases cases_addConnection known with rfl | ⟨earlier, different⟩
    · refine .opened (by simp [TcpConnection.ofSocket]) ⟨?_, ?_, ?_⟩ ?_
      · rw [conn_addConnection, if_pos rfl]
        exact ofNat_ne_invalidSocket fd
      · rw [conn_addConnection, if_pos rfl, lookup]
        exact if_pos rfl
      · rw [List.count_eq_zero]
        exact fun member => Nat.lt_irrefl _ (tabled.erasedKnown _ member)
      · unfold removals
        rw [List.count_eq_zero]
        exact fun member => Nat.lt_irrefl _ (queued.known 0 _ member)
    · have conn : (server.addConnection fd).conn self = server.conn self := by simp [different]
      have listed : Listed server self → Listed (server.addConnection fd) self := by
        intro listed
        refine ⟨conn ▸ listed.opened, ?_, listed.kept⟩
        rw [conn, lookup, if_neg (socketFd_ne_of_isFree free earlier)]
        exact listed.entry
      cases tabled.phase self earlier with
      | opened state here unasked => exact .opened (conn ▸ state) (listed here) unasked
      | removing state here asked running =>
          refine .removing (conn ▸ state) (listed here) asked ?_
          simpa [different] using running
      | removed state unlisted =>
          refine .removed (conn ▸ state) ⟨fun key found => ?_, unlisted.once, unlisted.done⟩
          rw [lookup] at found
          split at found
          · cases found
            exact different rfl
          · exact unlisted.absent key found

theorem handleNewConnection (tabled : Tabled server) (queued : WellQueued server) {fd : Nat}
    (free : server.isFree fd = true) : Tabled (server.handleNewConnection fd) := by
  have added := tabled.addConnection queued free
  unfold TcpServer.handleNewConnection
  dsimp only
  split
  · refine added.connectEstablished ?_
    simp [TcpConnection.ofSocket]
  · exact added.queueInLoop (by simp)

/-- The functor at the head of a queue runs. -/
theorem functor (tabled : Tabled server) (queued : WellQueued server) {loop : LoopId}
    {functor : ServerFunctor} {rest : List ServerFunctor}
    (queue : server.pending loop = functor :: rest) (idle : server.isIdle loop = true)
    (admitted : server.closesThroughRemoval (some functor)) :
    Tabled ((server.unqueue loop).runFunctor functor) := by
  have member : functor ∈ server.pending loop := queue ▸ List.mem_cons_self
  have known := queued.known loop functor member
  have home := queued.home loop functor member
  by_cases removal : ∃ self, functor = .removeConnection self
  · obtain ⟨self, rfl⟩ := removal
    subst home
    exact tabled.removeConnection queue known
  · have call : ∀ self, functor ≠ .removeConnection self := fun self same => removal ⟨self, same⟩
    refine (tabled.unqueue queue call).runFunctor call known ?_
      (queued.fits loop functor member) ?_
    · have atHome : server.loopOf functor.conn = loop := by
        rw [home]
        cases functor with
        | removeConnection self => exact absurd rfl (call self)
        | _ => rfl
      rw [loopOf_unqueue, atHome]
      exact idle
    · cases functor <;> exact admitted

/-- Every step that removes first keeps the invariant. -/
theorem step {next : TcpServer} {event : ServerEvent} (tabled : Tabled server)
    (queued : WellQueued server) (admitted : RemovesFirst server event)
    (step : ServerStep server event next) : Tabled next := by
  cases step with
  | accept fd _ free => exact tabled.handleNewConnection queued free
  | functor loop functor rest queue idle =>
      refine tabled.functor queued queue idle ?_
      simpa [RemovesFirst, runsNow, queue] using admitted
  | readable self _ => exact tabled.callBack .message
  | readClosed self handles | errorEvent self handles =>
      exact tabled.handleClose handles.known handles.idle
  | writable self result handles => exact tabled.handleWrite handles.known handles.idle result
  | finishClose loop self running => exact tabled.finishClose queued running admitted
  | send self inLoop data _ => exact tabled.send inLoop data
  | shutdown self inLoop called => exact tabled.shutdown called.known called.idle admitted
  | forceClose self inLoop _ => exact tabled.forceClose admitted
  | destroy self known state unreferenced => exact tabled.destroy known state unreferenced

end Tabled

/-- In every run that removes first, the table follows the connections. -/
theorem table_follows (threadNum : Nat) {events : List ServerEvent} {server : TcpServer}
    (guarded : serverMachine.Run RemovesFirst (.start threadNum) events server) :
    TableFollows server := by
  have holds := guarded.invariant (fun server => WellQueued server ∧ Tabled server)
    ⟨WellQueued.start threadNum, Tabled.start threadNum⟩
    fun _ _ _ holds admitted transition =>
      ⟨holds.1.step (serverStep_cases transition),
        holds.2.step holds.1 admitted (serverStep_cases transition)⟩
  exact holds.2.tableFollows

/-- Two connections of two sub loops; the first is closed by its peer, and its removal runs
before its handler closes the socket. -/
def removeThenClose : List ServerEvent :=
  [.accept 5, .accept 6, .functor 1, .functor 2, .send 1 false [7], .functor 2, .readClosed 0,
    .functor 0, .finishClose 1, .functor 1]

/-- The entry of the first connection is gone and the second stays. -/
theorem removeThenClose_tableFollows : ∃ server,
    serverMachine.exec (.start 2) removeThenClose = some server ∧
      (server.conn 0).state = .disconnected ∧ server.erased = [0] ∧
      server.connections.lookup 6 = some 1 ∧ TableFollows server := by
  have observed : (serverMachine.exec (.start 2) removeThenClose).map
      (fun server => ((server.conn 0).state, server.erased, server.connections.lookup 6)) =
        some (.disconnected, [0], some 1) := by decide +kernel
  obtain ⟨server, executed, seen⟩ := Option.map_eq_some_iff.mp observed
  have guarded : serverMachine.Guarded RemovesFirst (.start 2) removeThenClose := by
    decide +kernel
  simp only [Prod.mk.injEq] at seen
  exact ⟨server, executed, seen.1, seen.2.1, seen.2.2,
    table_follows 2 (Machine.run_of_guarded executed guarded)⟩

/-- Not in every run does the table follow: with a sub loop, the peer's close that runs to
its end before the main loop's next functor makes the removal erase under fd -1. -/
theorem not_table_follows :
    ¬ ∀ (threadNum : Nat) (events : List ServerEvent) (server : TcpServer),
      serverMachine.AnyRun (.start threadNum) events server → TableFollows server := by
  intro always
  have observed : (serverMachine.exec (.start 1)
      [.accept 5, .functor 1, .readClosed 0, .finishClose 1, .functor 0]).map
        (·.assertionsHold) = some false := by decide +kernel
  obtain ⟨server, executed, failed⟩ := Option.map_eq_some_iff.mp observed
  rw [(always 1 _ server (Machine.run_of_exec executed)).assertion] at failed
  cases failed

end TurboCore.Net
