import Mathlib
import TurboCore.Foundation.RoundRobin
import TurboCore.Net.ProcessRuns

/-!
# The sub loops share the connections

`NextLoop` deals the accepted connections out by a `size_t` that wraps. A connection stays
on the loop it was given, so in every run the loads of two sub loops differ by at most one
for each round of the counter that has begun.
-/

namespace TurboCore.Net

open Foundation TcpServer

/-- How many of the connections accepted so far were given to this loop. -/
def TcpServer.load (server : TcpServer) (loop : LoopId) : Nat :=
  Nat.count (fun self => server.loopOf self = loop) server.created

/-- The loop of the connection of this turn. -/
def TcpServer.dealtLoop (server : TcpServer) (turn : Nat) : LoopId :=
  if server.threadNum = 0 then 0 else dealtTo (2 ^ 64) server.threadNum turn + 1

/-- `m_next_loop_idx` has counted the connections, and each is where its turn put it. -/
structure Dealt (threadNum : Nat) (server : TcpServer) : Prop where
  threads : server.threadNum = threadNum
  counted : threadNum ≠ 0 → server.nextLoopIdx = server.created % 2 ^ 64
  placed : ∀ self, self < server.created → server.loopOf self = server.dealtLoop self

namespace Dealt

variable {threadNum : Nat} {server next : TcpServer}

theorem start (threadNum : Nat) : Dealt threadNum (.start threadNum) where
  threads := rfl
  counted _ := rfl
  placed self known := absurd known (Nat.not_lt_zero self)

/-- What neither accepts a connection nor moves one. -/
theorem of_forward (dealt : Dealt threadNum server) (forward : Forward server next)
    (threads : next.threadNum = server.threadNum) (index : next.nextLoopIdx = server.nextLoopIdx)
    (created : next.created = server.created) : Dealt threadNum next where
  threads := threads.trans dealt.threads
  counted threaded := by rw [index, created, dealt.counted threaded]
  placed self known := by
    rw [created] at known
    rw [forward.loopOf self known, dealt.placed self known, dealtLoop, dealtLoop, threads]

theorem addConnection (dealt : Dealt threadNum server) (fd : Nat) :
    Dealt threadNum (server.addConnection fd) where
  threads := dealt.threads
  counted threaded := by
    rw [addConnection_nextLoopIdx, addConnection_created, if_neg (dealt.threads ▸ threaded),
      dealt.counted threaded, Nat.mod_add_mod]
  placed self known := by
    rw [loopOf_addConnection]
    split
    · next last =>
        rw [last, nextLoop, dealtLoop, addConnection_threadNum]
        split
        · rfl
        · next threaded => rw [dealt.counted (dealt.threads ▸ threaded), dealtTo]
    · next different =>
        exact dealt.placed self (lt_of_le_of_ne (Nat.le_of_lt_succ known) different)

theorem serverUpdate {before after : ServerProcess} (dealt : Dealt threadNum before.server)
    (update : ServerUpdate before after) : Dealt threadNum after.server :=
  dealt.of_forward update.forward update.threadNum_eq (by cases update <;> rfl) update.created_eq

theorem update {admits : ServerProcess → Prop} {before after : ServerProcess}
    (dealt : Dealt threadNum before.server) (update : ProcessUpdate admits before after) :
    Dealt threadNum after.server := by
  cases update with
  | server update => exact dealt.serverUpdate update
  | accept update =>
      cases update with
      | add => exact dealt.addConnection _
      | establish phase serving fresh =>
          exact dealt.of_forward (.connectEstablished fresh) rfl rfl rfl
      | queue => exact dealt.of_forward (.of_conn_eq rfl (fun _ => rfl) fun _ => rfl) rfl rfl rfl
  | control update => exact update.server_eq ▸ dealt

/-- The connections of a sub loop are the turns of its slot. -/
theorem load_eq (dealt : Dealt threadNum server) (threaded : threadNum ≠ 0) (slot : Nat) :
    server.load (slot + 1) = turnsOf (2 ^ 64) threadNum slot server.created := by
  have same (self : ConnId) (known : self < server.created) :
      server.loopOf self = slot + 1 ↔ dealtTo (2 ^ 64) threadNum self = slot := by
    rw [dealt.placed self known, dealtLoop, dealt.threads, if_neg threaded, Nat.succ_inj]
  exact le_antisymm (Nat.count_mono_left fun self known => (same self known).mp)
    (Nat.count_mono_left fun self known => (same self known).mpr)

end Dealt

/-- In every run each connection is on the loop of its turn, and the loads of two sub loops
differ by at most one, and by one more for each time that the counter has wrapped. -/
theorem sub_loops_share_connections (threadNum : Nat) {events : List ProcessEvent}
    {process : ServerProcess} (run : serverProcess.AnyRun (.start threadNum) events process) :
    (∀ self < process.server.created,
      process.server.loopOf self = process.server.dealtLoop self) ∧
    ∀ slot < threadNum, ∀ other < threadNum,
      process.server.load (slot + 1) ≤
        process.server.load (other + 1) + 1 + process.server.created / 2 ^ 64 := by
  have dealt := (@WellRun.run_keeps _ _ _ _ (fun process => Dealt threadNum process.server)
    (.start threadNum) (.start threadNum) run fun _ dealt update => dealt.update update).2
  refine ⟨dealt.placed, fun slot inside other otherInside => ?_⟩
  have threaded : threadNum ≠ 0 := Nat.ne_of_gt (Nat.zero_lt_of_lt inside)
  rw [dealt.load_eq threaded, dealt.load_eq threaded]
  exact turnsOf_le (by decide) inside otherInside _

/-- Three connections for two sub loops. -/
def threeConnections : List ProcessEvent :=
  [.constructLoop, .constructLoop, .startThread 1, .startThread 2, .listen, .poll 0 [],
    .accept 7, .establish, .accept 8, .establish, .accept 9, .establish]

theorem three_connections_shared : ∃ process,
    serverProcess.AnyRun (.start 2) threeConnections process ∧ process.server.created = 3 ∧
      process.server.load 1 ≤ process.server.load 2 + 1 := by
  have observed : (serverProcess.exec (.start 2) threeConnections).map (·.server.created) =
      some 3 := by decide +kernel
  obtain ⟨process, executed, created⟩ := Option.map_eq_some_iff.mp observed
  have run := Machine.run_of_exec executed
  refine ⟨process, run, created, ?_⟩
  simpa [created] using
    (sub_loops_share_connections 2 run).2 0 (by decide) 1 (by decide)

end TurboCore.Net
