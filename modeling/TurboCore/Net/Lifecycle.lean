import Mathlib
import TurboCore.Net.ProcessRuns

/-!
# The life of a connection

In every run a connection moves only forward through its states, and its close callback
is called at most once, since every path to it leaves a state before `Disconnected` behind.
-/

namespace TurboCore.Net

open Foundation TcpServer

/-- Every connection stays in its state or has moved forward. -/
def MovesForward (before after : TcpServer) : Prop :=
  ∀ self, self < before.created → (before.conn self).state.rank ≤ (after.conn self).state.rank

/-- No close callback has been called twice. -/
def ClosesAtMostOnce (server : TcpServer) : Prop :=
  ∀ self, (server.entry self).closeCallbacks ≤ 1

/-- The invariant: the close callback of a connection that is not closed has not been called. -/
structure ClosesOnce (server : TcpServer) : Prop where
  once : ClosesAtMostOnce server
  unclosed : ∀ self, (server.conn self).state ≠ .disconnected →
    (server.entry self).closeCallbacks = 0

namespace ClosesOnce

variable {server next : TcpServer} {self : ConnId} {attached : Attached}

theorem start (threadNum : Nat) : ClosesOnce (.start threadNum) where
  once _ := Nat.zero_le 1
  unclosed _ _ := rfl

theorem of_eq (closes : ClosesOnce server)
    (count : ∀ self, (next.entry self).closeCallbacks = (server.entry self).closeCallbacks)
    (state : ∀ self, (next.conn self).state = (server.conn self).state) : ClosesOnce next where
  once self := (count self).trans_le (closes.once self)
  unclosed self opened := (count self).trans (closes.unclosed self (state self ▸ opened))

theorem count_setAttached (other : ConnId) :
    ((server.setAttached self attached).entry other).closeCallbacks =
      (server.entry other).closeCallbacks :=
  entry_withEntry ServerConnection.closeCallbacks (by rfl) other

theorem setAttached (closes : ClosesOnce server)
    (forward : (server.conn self).state.rank ≤ attached.conn.state.rank) :
    ClosesOnce (server.setAttached self attached) where
  once other := (count_setAttached other).trans_le (closes.once other)
  unclosed other opened := by
    rw [count_setAttached]
    refine closes.unclosed other fun closed => opened ?_
    rw [conn_setAttached]
    split
    · next same => exact eq_disconnected_of_rank forward (same ▸ closed)
    · exact closed

/-- The close callback of a connection that was open, which is closed by now. -/
theorem close (closes : ClosesOnce server) (opened : (server.conn self).state ≠ .disconnected)
    (closed : attached.conn.state = .disconnected) :
    ClosesOnce ((server.setAttached self attached).countClose self) := by
  have count : ∀ other, (((server.setAttached self attached).countClose self).entry
      other).closeCallbacks =
        if other = self then 1 else (server.entry other).closeCallbacks := by
    intro other
    rw [countClose_entry, Function.update_apply]
    split
    · rw [count_setAttached, closes.unclosed self opened]
    · exact count_setAttached other
  constructor
  · intro other
    rw [count]
    split
    · exact Nat.le_refl 1
    · exact closes.once other
  · intro other opened'
    rw [conn_countClose, conn_setAttached] at opened'
    rw [count]
    split
    · next same =>
        rw [if_pos same] at opened'
        exact absurd closed opened'
    · next different =>
        rw [if_neg different] at opened'
        exact closes.unclosed other opened'

theorem connectEstablished (closes : ClosesOnce server) (fresh : server.Fresh self) :
    ClosesOnce (server.connectEstablished self) := by
  have established : ClosesOnce (server.setAttached self
      ((server.attached self).connectEstablished self)) := by
    refine closes.setAttached ?_
    rw [fresh.connecting]
    exact Nat.zero_le _
  exact established.of_eq (entry_withEntry ServerConnection.closeCallbacks (by rfl))
    fun other => by simp [TcpServer.connectEstablished]

theorem destroy (closes : ClosesOnce server) : ClosesOnce (server.destroy self) := by
  obtain ⟨attached, state, _, same⟩ := destroy_eq server self
  rw [same]
  exact (closes.setAttached (by rw [state])).of_eq
    (entry_withEntry ServerConnection.closeCallbacks (by rfl)) fun other => by simp

theorem addConnection (closes : ClosesOnce server) (fd : Nat) :
    ClosesOnce (server.addConnection fd) := by
  constructor
  · intro self
    simp only [addConnection_entry, Function.update_apply]
    split
    · exact Nat.zero_le 1
    · exact closes.once self
  · intro self opened
    simp only [addConnection_entry, Function.update_apply, conn_addConnection] at opened ⊢
    split
    · rfl
    · next different =>
        rw [if_neg different] at opened
        exact closes.unclosed self opened

theorem serverUpdate {before after : ServerProcess} (closes : ClosesOnce before.server)
    (update : ServerUpdate before after) : ClosesOnce after.server := by
  cases update with
  | check thread loop => exact closes
  | handle known started moves => exact closes.setAttached moves.forward
  | close known started opened moves closed => exact closes.close opened closed
  | closeElsewhere known started opened moves closed away =>
      exact (closes.close opened closed).of_eq (fun _ => rfl) fun _ => rfl
  | message self =>
      exact closes.of_eq (entry_withEntry ServerConnection.closeCallbacks (by rfl))
        fun other => by simp
  | establish fresh unaccepted runs => exact closes.connectEstablished fresh
  | destroy thread known unlisted => exact closes.destroy
  | erase | queue | unqueue | clear | dropQueue =>
      exact closes.of_eq (fun _ => rfl) fun _ => rfl

theorem update {admits : ServerProcess → Prop} {before after : ServerProcess}
    (closes : ClosesOnce before.server) (update : ProcessUpdate admits before after) :
    ClosesOnce after.server := by
  cases update with
  | server update => exact closes.serverUpdate update
  | accept update =>
      cases update with
      | add phase serving free => exact closes.addConnection _
      | establish phase serving fresh => exact closes.connectEstablished fresh
      | queue phase serving fresh away => exact closes.of_eq (fun _ => rfl) fun _ => rfl
  | control update => exact update.server_eq ▸ closes

end ClosesOnce

/-- Between any two states of a run every connection has moved forward, and no close
callback has been called twice. -/
theorem connections_moveForward_closeOnce (threadNum : Nat) {past future : List ProcessEvent}
    {earlier later : ServerProcess}
    (reached : serverProcess.AnyRun (.start threadNum) past earlier)
    (continued : serverProcess.AnyRun earlier future later) :
    MovesForward earlier.server later.server ∧ ClosesAtMostOnce later.server := by
  obtain ⟨well, closes⟩ := WellRun.run_keeps (.start threadNum) (.start threadNum) reached
    fun _ closes update => ClosesOnce.update closes update
  have moved := well.run_forward continued
  have closed := (WellRun.run_keeps well closes continued
    fun _ closes update => ClosesOnce.update closes update).2
  exact ⟨moved.rank, closed.once⟩

/-- Two connections of a sub loop are established. -/
def acceptTwo : List ProcessEvent :=
  [.constructLoop, .startThread 1, .listen, .poll 0 [], .accept 7, .establish, .swapFunctors 0,
    .endBatch 0, .poll 0 [], .accept 8, .establish, .poll 1 [], .swapFunctors 1, .functor 1,
    .functor 1, .endBatch 1]

/-- An error event of the first calls the error and the close callback; a force-close of the
second is queued before its end of file and runs after it. -/
def failAndForceClose : List ProcessEvent :=
  [.poll 1 [⟨0, true, false, false, false⟩, ⟨1, false, false, true, false⟩],
    .forceClose (.other 0) 1, .handleEvent 1 .failed .wouldBlock,
    .handleEvent 1 .endOfFile .wouldBlock, .swapFunctors 1, .functor 1, .endBatch 1]

theorem failAndForceClose_moves_closeOnce : ∃ earlier later,
    serverProcess.AnyRun (.start 1) acceptTwo earlier ∧
      serverProcess.AnyRun earlier failAndForceClose later ∧
      (later.server.entry 0).closeCallbacks = 1 ∧ (later.server.entry 1).closeCallbacks = 1 ∧
      MovesForward earlier.server later.server ∧ ClosesAtMostOnce later.server := by
  have executed : ((serverProcess.exec (.start 1) acceptTwo).bind fun earlier =>
      (serverProcess.exec earlier failAndForceClose).map fun later =>
        ((later.server.entry 0).closeCallbacks, (later.server.entry 1).closeCallbacks)) =
      some (1, 1) := by decide +kernel
  obtain ⟨earlier, accepted, rest⟩ := Option.bind_eq_some_iff.mp executed
  obtain ⟨later, closed, counts⟩ := Option.map_eq_some_iff.mp rest
  have reached := Machine.run_of_exec accepted
  have continued := Machine.run_of_exec closed
  rw [Prod.mk.injEq] at counts
  exact ⟨earlier, later, reached, continued, counts.1, counts.2,
    connections_moveForward_closeOnce 1 reached continued⟩

end TurboCore.Net
