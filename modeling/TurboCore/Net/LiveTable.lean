import Mathlib
import TurboCore.Net.ProcessRuns

/-!
# Live connections are in the table

The kernel hands out a number only when no open socket has it, a connection that is not
closed has its socket open, and a removal erases under the number its connection has when
it runs. So a connection stays in the table, under its own number, until it is closed.
-/

namespace TurboCore.Net

open Foundation TcpServer

/-- Until `~TcpServer` clears the table, every connection that is not closed is in it under
its own fd, and what a removal has erased was the entry of its connection. -/
structure LiveConnectionsListed (process : ServerProcess) : Prop where
  listed : process.control.stage.isCleared = false → ∀ self, self < process.server.created →
    (process.server.conn self).state ≠ .disconnected →
      process.server.connections.lookup (process.server.conn self).socketFd = some self
  removals : ∀ removal ∈ process.removals, ∀ other, removal.erased = some other →
    other = removal.conn

/-- No entry stands under the number of another connection, and none under `-1`; unless
`cleared`, the connections that are not closed have theirs. -/
structure OwnEntries (server : TcpServer) (cleared : Bool) : Prop where
  distinct : DistinctSockets server
  own : ∀ self, self < server.created → ∀ other,
    server.connections.lookup (server.conn self).socketFd = some other → other = self
  valid : server.connections.lookup invalidSocket = none
  listed : cleared = false → ∀ self, self < server.created →
    (server.conn self).state ≠ .disconnected →
      server.connections.lookup (server.conn self).socketFd = some self

namespace OwnEntries

variable {server next : TcpServer} {cleared : Bool} {self : ConnId} {attached : Attached}

theorem start (threadNum : Nat) : OwnEntries (.start threadNum) false where
  distinct self known := absurd known (Nat.not_lt_zero self)
  own self known := absurd known (Nat.not_lt_zero self)
  valid := rfl
  listed _ self known := absurd known (Nat.not_lt_zero self)

/-- Sockets, states and the table are what matters. -/
theorem of_conn_eq (owns : OwnEntries server cleared) (created : next.created = server.created)
    (conn : ∀ self, next.conn self = server.conn self)
    (connections : next.connections = server.connections) : OwnEntries next cleared where
  distinct := owns.distinct.of_socketFd created fun self _ => by rw [conn self]
  own self known other found := by
    rw [conn, connections] at found
    exact owns.own self (created ▸ known) other found
  valid := by rw [connections, owns.valid]
  listed open_ self known opened := by
    rw [conn] at opened
    rw [conn, connections]
    exact owns.listed open_ self (created ▸ known) opened

/-- A connection keeps its socket, or closes it and is closed. -/
theorem setAttached (owns : OwnEntries server cleared)
    (socket : attached.conn.socketFd = (server.conn self).socketFd ∨
      attached.conn.socketFd = invalidSocket)
    (opened : cleared = false → attached.conn.state ≠ .disconnected →
      attached.conn.socketFd = (server.conn self).socketFd ∧
        (server.conn self).state ≠ .disconnected) :
    OwnEntries (server.setAttached self attached) cleared where
  distinct := owns.distinct.setAttached socket
  own other known entry found := by
    rcases eq_or_ne other self with rfl | different
    · rw [conn_setAttached_self] at found
      rcases socket with kept | closed
      · rw [kept] at found
        exact owns.own other known entry found
      · rw [closed] at found
        exact absurd (owns.valid.symm.trans found) (by simp)
    · rw [conn_setAttached_of_ne different] at found
      exact owns.own other known entry found
  valid := owns.valid
  listed open_ other known live := by
    rcases eq_or_ne other self with rfl | different
    · rw [conn_setAttached_self] at live ⊢
      obtain ⟨kept, before⟩ := opened open_ live
      rw [kept]
      exact owns.listed open_ other known before
    · rw [conn_setAttached_of_ne different] at live ⊢
      exact owns.listed open_ other known live

theorem moves (owns : OwnEntries server cleared)
    (moves : Attached.Moves self (server.attached self) attached) :
    OwnEntries (server.setAttached self attached) cleared := by
  refine owns.setAttached (moves.socket.imp_right And.left) fun _ opened => ⟨?_, fun closed => ?_⟩
  · exact moves.socket.resolve_right fun closed => opened closed.2
  · exact opened (eq_disconnected_of_rank moves.forward closed)

theorem connectEstablished (owns : OwnEntries server cleared) (fresh : server.Fresh self) :
    OwnEntries (server.connectEstablished self) cleared := by
  have established : OwnEntries (server.setAttached self
      ((server.attached self).connectEstablished self)) cleared :=
    owns.setAttached (.inl rfl) fun _ _ => ⟨rfl, by simp [fresh.connecting]⟩
  exact established.of_conn_eq rfl (fun _ => by simp [TcpServer.connectEstablished]) rfl

/-- Erasing under a number that no live connection has. -/
theorem erase (owns : OwnEntries server cleared) (fd : SocketType)
    (spared : cleared = false → ∀ self, self < server.created →
      (server.conn self).state ≠ .disconnected → (server.conn self).socketFd ≠ fd) :
    OwnEntries (server.eraseConnection fd) cleared := by
  have lookups := FiniteMap.lookup_erase server.connections fd
  constructor
  · exact owns.distinct.of_socketFd rfl fun _ _ => rfl
  · intro other knownOther entry found
    rw [eraseConnection_connections, lookups] at found
    split at found
    · cases found
    · exact owns.own other knownOther entry found
  · rw [eraseConnection_connections, lookups, owns.valid]
    split <;> rfl
  · intro open_ other knownOther live
    rw [eraseConnection_connections, lookups, if_neg]
    · exact owns.listed open_ other knownOther live
    · exact spared open_ other knownOther live

/-- A closed connection erases its own entry, or none. -/
theorem eraseConnection (owns : OwnEntries server cleared) (known : self < server.created)
    (closed : (server.conn self).state = .disconnected) :
    OwnEntries (server.eraseConnection (server.conn self).socketFd) cleared := by
  refine owns.erase _ fun open_ other knownOther live same => ?_
  have mine := owns.own self known other (same ▸ owns.listed open_ other knownOther live)
  subst mine
  exact live closed

/-- The new connection has a number that no open socket has. -/
theorem addConnection (owns : OwnEntries server cleared) {fd : Nat}
    (free : server.isFree fd = true) : OwnEntries (server.addConnection fd) cleared := by
  have lookups : ∀ key, (server.addConnection fd).connections.lookup key =
      if key = (fd : SocketType) then some server.created else server.connections.lookup key :=
    fun key => FiniteMap.lookup_insert server.connections _ key _
  constructor
  · exact owns.distinct.addConnection free
  · intro self known other found
    rw [lookups] at found
    rcases cases_addConnection known with rfl | ⟨earlier, different⟩
    · simp only [conn_addConnection, if_true, TcpConnection.ofSocket, Option.some.injEq] at found
      exact found.symm
    · rw [conn_addConnection, if_neg different, if_neg (socketFd_ne_of_isFree free earlier)]
        at found
      exact owns.own self earlier other found
  · rw [lookups, if_neg (ofNat_ne_invalidSocket fd).symm]
    exact owns.valid
  · intro open_ self known live
    rw [lookups]
    rcases cases_addConnection known with rfl | ⟨earlier, different⟩
    · simp [TcpConnection.ofSocket]
    · rw [conn_addConnection, if_neg different] at live ⊢
      rw [if_neg (socketFd_ne_of_isFree free earlier)]
      exact owns.listed open_ self earlier live

theorem destroy (owns : OwnEntries server cleared)
    (closed : cleared = false → (server.conn self).state = .disconnected) :
    OwnEntries (server.destroy self) cleared := by
  obtain ⟨attached, state, socketFd, same⟩ := destroy_eq server self
  have silenced : OwnEntries (server.setAttached self attached) cleared :=
    owns.setAttached (.inr socketFd) fun open_ opened =>
      absurd (state.trans (closed open_)) opened
  rw [same]
  exact silenced.of_conn_eq rfl (fun _ => by simp) rfl

/-- Once the table is cleared nothing is promised of what it lists. -/
theorem mono (owns : OwnEntries server cleared) {later : Bool}
    (cleared : cleared = true → later = true) : OwnEntries server later where
  distinct := owns.distinct
  own := owns.own
  valid := owns.valid
  listed open_ := owns.listed <| by
    refine Bool.eq_false_of_not_eq_true fun before => ?_
    cases (cleared before).symm.trans open_

/-- The destructor of a connection that is not in the table finds it closed. -/
theorem closed_of_unlisted (owns : OwnEntries server false) (known : self < server.created)
    (unlisted : ∀ fd, server.connections.lookup fd ≠ some self) :
    (server.conn self).state = .disconnected := by
  by_contra opened
  exact unlisted _ (owns.listed rfl self known opened)

end OwnEntries

/-- The invariant of the process. -/
structure LiveTable (process : ServerProcess) : Prop where
  owns : OwnEntries process.server process.control.stage.isCleared
  removals : ∀ removal ∈ process.removals, ∀ other, removal.erased = some other →
    other = removal.conn
  unclosed : process.control.stage.isCleared = false → process.unclosed = []

namespace LiveTable

variable {before after process : ServerProcess}

theorem start (threadNum : Nat) : LiveTable (.start threadNum) where
  owns := .start threadNum
  removals removal member := by cases member
  unclosed _ := rfl

theorem liveConnectionsListed (live : LiveTable process) : LiveConnectionsListed process :=
  ⟨live.owns.listed, live.removals⟩

theorem withServer (live : LiveTable process) {server : TcpServer}
    (owns : OwnEntries server process.control.stage.isCleared) :
    LiveTable (process.withServer server) :=
  ⟨owns, live.removals, live.unclosed⟩

theorem serverUpdate (live : LiveTable before) (update : ServerUpdate before after) :
    LiveTable after := by
  cases update with
  | check thread loop => exact ⟨live.owns, live.removals, live.unclosed⟩
  | handle known started moves => exact live.withServer (live.owns.moves moves)
  | close known started opened moves closed =>
      exact live.withServer <| (live.owns.moves moves).of_conn_eq rfl (fun _ => by simp) rfl
  | closeElsewhere known started opened moves closed away =>
      exact live.withServer <| (live.owns.moves moves).of_conn_eq rfl (fun _ => by simp) rfl
  | @erase self known closed =>
      refine ⟨live.owns.eraseConnection known closed, fun removal member => ?_, live.unclosed⟩
      rcases List.mem_append.mp member with earlier | last
      · exact live.removals removal earlier
      · rw [List.mem_singleton.mp last]
        exact live.owns.own self known
  | message self => exact live.withServer (live.owns.of_conn_eq rfl (fun _ => by simp) rfl)
  | establish fresh unaccepted runs => exact live.withServer (live.owns.connectEstablished fresh)
  | @destroy self thread known unlisted =>
      have control : (before.destroy thread self).control = before.control :=
        ServerUpdate.control_eq (.destroy thread known unlisted)
      have closed : before.control.stage.isCleared = false →
          (before.server.conn self).state = .disconnected := by
        intro open_
        have owns := live.owns
        rw [open_] at owns
        exact owns.closed_of_unlisted known unlisted
      refine ⟨?_, ?_, fun open_ => ?_⟩
      · rw [control]
        exact live.owns.destroy closed
      · unfold ServerProcess.destroy
        dsimp only
        split <;> exact live.removals
      · rw [control] at open_
        simp only [ServerProcess.destroy, closed open_, if_true]
        exact live.unclosed open_
  | clear cleared =>
      refine live.withServer ⟨live.owns.distinct, fun self known other found => ?_, rfl, ?_⟩
      · cases found
      · intro open_
        cases cleared.symm.trans open_
  | queue | unqueue | dropQueue =>
      exact live.withServer (live.owns.of_conn_eq rfl (fun _ => rfl) rfl)

theorem withControl (live : LiveTable process) {control : ProcessControl}
    (cleared : process.control.stage.isCleared = true → control.stage.isCleared = true) :
    LiveTable (process.withControl control) := by
  refine ⟨live.owns.mono cleared, live.removals, fun open_ => live.unclosed ?_⟩
  refine Bool.eq_false_of_not_eq_true fun before => ?_
  have after := cleared before
  cases after.symm.trans open_

theorem acceptUpdate (live : LiveTable before) (update : AcceptUpdate before after) :
    LiveTable after := by
  cases update with
  | add phase serving free =>
      exact (live.withServer (live.owns.addConnection free)).withControl id
  | establish phase serving fresh =>
      exact (live.withServer (live.owns.connectEstablished fresh)).withControl id
  | @queue self active phase serving fresh away =>
      have queued : OwnEntries (before.server.queueInLoop (before.server.loopOf self)
          (.connectEstablished self)) before.control.stage.isCleared :=
        live.owns.of_conn_eq rfl (fun _ => rfl) rfl
      exact (live.withServer queued).withControl id

theorem controlUpdate {admits : ServerProcess → Prop} (live : LiveTable before)
    (update : ControlUpdate admits before after) : LiveTable after := by
  cases update with
  | settle settles => exact live.withControl settles.cleared
  | begin admitted serving unaccepting =>
      refine live.withControl ?_
      rw [serving]
      exact fun cleared => nomatch cleared
  | setPhase | setLoop | retire => exact live.withControl id

theorem update {admits : ServerProcess → Prop} (live : LiveTable before)
    (update : ProcessUpdate admits before after) : LiveTable after := by
  cases update with
  | server update => exact live.serverUpdate update
  | accept update => exact live.acceptUpdate update
  | control update => exact live.controlUpdate update

end LiveTable

/-- In every run the live connections are in the table under their own fd, and no removal
erases the entry of another connection. -/
theorem live_connections_listed (threadNum : Nat) {events : List ProcessEvent}
    {process : ServerProcess} (run : serverProcess.AnyRun (.start threadNum) events process) :
    LiveConnectionsListed process :=
  (WellRun.run_keeps (.start threadNum) (LiveTable.start threadNum) run
    fun _ live update => live.update update).2.liveConnectionsListed

/-- A connection is closed by its peer, its number goes to a new connection, and its removal
runs after that. -/
def closeAndReplace : List ProcessEvent :=
  [.constructLoop, .startThread 1, .listen, .poll 0 [], .accept 7, .establish, .swapFunctors 0,
    .endBatch 0, .poll 1 [], .swapFunctors 1, .functor 1, .endBatch 1, .poll 0 [],
    .poll 1 [⟨0, false, false, true, false⟩], .handleEvent 1 .endOfFile .wouldBlock, .accept 7,
    .establish, .swapFunctors 0, .functor 0, .endBatch 0]

theorem closeAndReplace_listed : ∃ process,
    serverProcess.AnyRun (.start 1) closeAndReplace process ∧
      (process.server.conn 0).state = .disconnected ∧ process.removals = [⟨0, none⟩] ∧
      (process.server.conn 1).state = .connecting ∧
      process.server.connections.lookup 7 = some 1 ∧ LiveConnectionsListed process := by
  have observed : (serverProcess.exec (.start 1) closeAndReplace).map
      (fun process => ((process.server.conn 0).state, process.removals,
        (process.server.conn 1).state, process.server.connections.lookup 7)) =
      some (.disconnected, [⟨0, none⟩], .connecting, some 1) := by decide +kernel
  obtain ⟨process, executed, seen⟩ := Option.map_eq_some_iff.mp observed
  have run := Machine.run_of_exec executed
  simp only [Prod.mk.injEq] at seen
  exact ⟨process, run, seen.1, seen.2.1, seen.2.2.1, seen.2.2.2, live_connections_listed 1 run⟩

end TurboCore.Net
