import Mathlib
import TurboCore.Net.ProcessRuns

/-!
# What the user is told

The header says of `ConnectDestroyed` that it calls the user back when the connection is
destroyed. The connection callback is called in `ConnectEstablished` and nowhere else.
-/

namespace TurboCore.Net

open Foundation TcpServer

/-- The user is told of the connection, of its messages, and of its end. -/
def Bracketed (callbacks : List UserCallback) : Prop :=
  ∃ messages : List UserCallback, (∀ callback ∈ messages, callback = .message) ∧
    callbacks = .connection true :: messages ++ [.connection false]

/-- The connection was established and is closed, and everything queued has run. -/
structure Ended (process : ServerProcess) (who : ConnId) : Prop where
  known : who < process.server.created
  established : .connection true ∈ (process.server.entry who).callbacks
  closed : (process.server.conn who).state = .disconnected
  settled : ∀ loop, loop ≤ process.server.threadNum → process.server.pending loop = []

/-- The user is told of no end. -/
def NeverDisconnects (server : TcpServer) : Prop :=
  ∀ self, .connection false ∉ (server.entry self).callbacks

namespace NeverDisconnects

variable {server next : TcpServer} {self : ConnId}

theorem start (threadNum : Nat) : NeverDisconnects (.start threadNum) := by
  intro self told
  cases told

theorem of_eq (never : NeverDisconnects server)
    (callbacks : ∀ self, (next.entry self).callbacks = (server.entry self).callbacks) :
    NeverDisconnects next := by
  intro self told
  rw [callbacks] at told
  exact never self told

theorem setAttached (never : NeverDisconnects server) (attached : Attached) :
    NeverDisconnects (server.setAttached self attached) :=
  never.of_eq (entry_withEntry ServerConnection.callbacks (by rfl))

theorem callBack (never : NeverDisconnects server) {callback : UserCallback}
    (other : callback ≠ .connection false) : NeverDisconnects (server.callBack self callback) := by
  intro who told
  rw [callBack_entry, Function.update_apply] at told
  split at told
  · rcases List.mem_append.mp told with earlier | last
    · exact never self earlier
    · exact other (List.mem_singleton.mp last).symm
  · exact never who told

theorem connectEstablished (never : NeverDisconnects server) :
    NeverDisconnects (server.connectEstablished self) :=
  (never.setAttached _).callBack (by simp)

theorem addConnection (never : NeverDisconnects server) (fd : Nat) :
    NeverDisconnects (server.addConnection fd) := by
  intro who told
  simp only [addConnection_entry, Function.update_apply] at told
  split at told
  · cases told
  · exact never who told

theorem serverUpdate {before after : ServerProcess} (never : NeverDisconnects before.server)
    (update : ServerUpdate before after) : NeverDisconnects after.server := by
  cases update with
  | handle known started moves => exact never.setAttached _
  | close known started opened moves closed | closeElsewhere known started opened moves closed _ =>
      exact (never.setAttached _).of_eq (entry_withEntry ServerConnection.callbacks (by rfl))
  | message self => exact never.callBack (by simp)
  | establish fresh unaccepted runs => exact never.connectEstablished
  | destroy thread known unlisted =>
      exact (never.setAttached _).of_eq (entry_withEntry ServerConnection.callbacks (by rfl))
  | check | erase | queue | unqueue | clear | dropQueue =>
      exact never.of_eq fun _ => rfl

theorem update {admits : ServerProcess → Prop} {before after : ServerProcess}
    (never : NeverDisconnects before.server) (update : ProcessUpdate admits before after) :
    NeverDisconnects after.server := by
  cases update with
  | server update => exact never.serverUpdate update
  | accept update =>
      cases update with
      | add phase serving free => exact never.addConnection _
      | establish phase serving fresh => exact never.connectEstablished
      | queue phase serving fresh away => exact never
  | control update => exact update.server_eq ▸ never

theorem not_bracketed (never : NeverDisconnects server) (self : ConnId) :
    ¬ Bracketed (server.entry self).callbacks := by
  rintro ⟨messages, _, same⟩
  apply never self
  rw [same]
  simp

end NeverDisconnects

/-- In no run is any connection bracketed. -/
theorem connections_never_bracketed (threadNum : Nat) {events : List ProcessEvent}
    {process : ServerProcess} (run : serverProcess.AnyRun (.start threadNum) events process)
    (self : ConnId) : ¬ Bracketed (process.server.entry self).callbacks := by
  have never := (@WellRun.run_keeps _ _ _ _ (fun process => NeverDisconnects process.server)
    (.start threadNum) (NeverDisconnects.start threadNum) run
    fun _ never update => never.update update).2
  exact never.not_bracketed self

/-- A connection is established, sends a message and is closed by its peer. -/
def greetAndLeave : List ProcessEvent :=
  [.constructLoop, .startThread 1, .listen, .poll 0 [], .accept 7, .establish, .poll 1 [],
    .swapFunctors 1, .functor 1, .endBatch 1, .poll 1 [⟨0, false, false, true, false⟩],
    .handleEvent 1 .bytes .wouldBlock, .swapFunctors 1, .endBatch 1,
    .poll 1 [⟨0, false, false, true, false⟩], .handleEvent 1 .endOfFile .wouldBlock,
    .swapFunctors 0, .functor 0, .endBatch 0, .swapFunctors 1, .functor 1, .endBatch 1]

/-- What is seen of `greetAndLeave`. -/
theorem exec_greetAndLeave : ∃ process,
    serverProcess.exec (.start 1) greetAndLeave = some process ∧ Ended process 0 ∧
      (process.server.entry 0).callbacks = [.connection true, .message] := by
  have observed : (serverProcess.exec (.start 1) greetAndLeave).map (fun process =>
      ((process.server.created, process.server.threadNum),
        (process.server.entry 0).callbacks, (process.server.conn 0).state,
        process.server.pending 0 ++ process.server.pending 1)) =
      some ((1, 1), [.connection true, .message], .disconnected, []) := by decide +kernel
  obtain ⟨process, executed, seen⟩ := Option.map_eq_some_iff.mp observed
  simp only [Prod.mk.injEq, List.append_eq_nil_iff] at seen
  obtain ⟨⟨created, threads⟩, callbacks, state, main, sub⟩ := seen
  have settled : ∀ loop, loop ≤ process.server.threadNum → process.server.pending loop = [] := by
    intro loop bound
    rw [threads] at bound
    interval_cases loop
    · exact main
    · exact sub
  have ended : Ended process 0 := ⟨by simp [created], by simp [callbacks], state, settled⟩
  exact ⟨process, executed, ended, callbacks⟩

theorem greetAndLeave_never_bracketed : ∃ process,
    serverProcess.AnyRun (.start 1) greetAndLeave process ∧ Ended process 0 ∧
      ¬ Bracketed (process.server.entry 0).callbacks := by
  obtain ⟨process, executed, ended, _⟩ := exec_greetAndLeave
  have run := Machine.run_of_exec executed
  exact ⟨process, run, ended, connections_never_bracketed 1 run 0⟩

/-- Not every connection that ends is bracketed: the user is not told that `greetAndLeave`
closed the connection. -/
theorem not_always_bracketed :
    ¬ ∀ (threadNum : Nat) (events : List ProcessEvent) (process : ServerProcess),
      serverProcess.AnyRun (.start threadNum) events process →
        ∀ self, Ended process self → Bracketed (process.server.entry self).callbacks := by
  intro always
  obtain ⟨process, executed, ended, callbacks⟩ := exec_greetAndLeave
  obtain ⟨messages, _, same⟩ :=
    always 1 greetAndLeave process (Machine.run_of_exec executed) 0 ended
  have told : .connection false ∈ (process.server.entry 0).callbacks := by
    rw [same]
    simp
  rw [callbacks] at told
  simp at told

end TurboCore.Net
