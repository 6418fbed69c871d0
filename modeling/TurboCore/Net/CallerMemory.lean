import Mathlib
import TurboCore.Net.ConnectionRun

/-!
# Sends and the caller's memory

The functor of a cross-thread `Send` reads the caller's memory when it runs. The bytes
it appends are those of the call as long as no caller stores into a region that a
queued functor still has to read.
-/

namespace TurboCore.Net

open Foundation ConnectionRun

/-- The region still holds what it held at the call. -/
def ConnectionFunctor.isCurrent (memory : Nat → UInt8) : ConnectionFunctor → Prop
  | sendInLoop data len atCall => readRegion memory data len = atCall
  | shutdownInLoop | forceCloseInLoop => True

theorem ConnectionFunctor.isCurrent_of_readsSame {memory other : Nat → UInt8}
    {functor : ConnectionFunctor} (same : functor.readsSame memory other = true)
    (current : functor.isCurrent memory) : functor.isCurrent other := by
  cases functor with
  | sendInLoop data len atCall =>
      simp only [readsSame, decide_eq_true_eq] at same
      exact same.trans current
  | shutdownInLoop => trivial
  | forceCloseInLoop => trivial

/-- Queued functors are current, and every append so far took the bytes of its call. -/
structure CarriesCalls (run : ConnectionRun) : Prop where
  queued : ∀ functor ∈ run.pending, functor.isCurrent run.memory
  appended : ∀ pair ∈ run.appended, pair.2 = pair.1

theorem CarriesCalls.established (fd : Nat) (memory : Nat → UInt8) :
    CarriesCalls (.established fd memory) := by
  constructor
  · intro functor member
    cases member
  · intro pair member
    cases member

/-- A current functor appends the bytes of its call. -/
theorem CarriesCalls.sendInLoop {run : ConnectionRun} (carries : CarriesCalls run)
    {data len : Nat} {atCall : List UInt8} (current : readRegion run.memory data len = atCall) :
    CarriesCalls (run.sendInLoop data len atCall) := by
  unfold ConnectionRun.sendInLoop
  by_cases connected : run.conn.isConnected = true
  · simp only [connected, if_true]
    refine ⟨carries.queued, fun pair member => ?_⟩
    rcases List.mem_append.mp member with earlier | last
    · exact carries.appended pair earlier
    · have content :=
        run.attached.content_sendInLoop 0 connected (readRegion run.memory data len)
      rw [List.mem_singleton] at last
      subst last
      show List.drop run.output.length _ = atCall
      rw [content, current]
      exact List.drop_left
  · simp only [connected, if_false, Bool.false_eq_true]
    exact ⟨carries.queued, carries.appended⟩

theorem CarriesCalls.runFunctor {run : ConnectionRun} (carries : CarriesCalls run)
    {functor : ConnectionFunctor} (current : functor.isCurrent run.memory) :
    CarriesCalls (run.runFunctor functor) := by
  cases functor with
  | sendInLoop data len atCall => exact carries.sendInLoop current
  | shutdownInLoop => exact ⟨carries.queued, carries.appended⟩
  | forceCloseInLoop =>
      unfold ConnectionRun.runFunctor forceCloseInLoop
      dsimp only
      split
      · exact ⟨carries.queued, carries.appended⟩
      · exact carries

theorem CarriesCalls.runInLoop {run : ConnectionRun} (carries : CarriesCalls run)
    {functor : ConnectionFunctor} (current : functor.isCurrent run.memory) (inLoop : Bool) :
    CarriesCalls (run.runInLoop inLoop functor) := by
  cases inLoop with
  | true => exact carries.runFunctor current
  | false =>
      refine ⟨fun other member => ?_, carries.appended⟩
      rcases List.mem_append.mp member with earlier | last
      · exact carries.queued other earlier
      · rw [List.mem_singleton.mp last]
        exact current

theorem CarriesCalls.handleClose {run : ConnectionRun} (carries : CarriesCalls run) :
    CarriesCalls run.handleClose := by
  unfold ConnectionRun.handleClose
  split
  · exact carries
  · exact ⟨carries.queued, carries.appended⟩

theorem CarriesCalls.handleWrite {run : ConnectionRun} (carries : CarriesCalls run)
    (result : WriteResult) : CarriesCalls (run.handleWrite result) := by
  unfold ConnectionRun.handleWrite
  dsimp only
  split
  · exact CarriesCalls.handleClose ⟨carries.queued, carries.appended⟩
  · exact ⟨carries.queued, carries.appended⟩

/-- Every step that keeps the pending bytes keeps what was carried. -/
theorem CarriesCalls.step {run next : ConnectionRun} {event : ConnectionEvent}
    (carries : CarriesCalls run) (kept : KeepsPendingBytes run event)
    (step : ConnectionStep run event next) : CarriesCalls next := by
  cases step with
  | send inLoop data len =>
      unfold ConnectionRun.send
      split
      · dsimp only
        refine CarriesCalls.runInLoop ?_ ?_ inLoop
        · exact ⟨carries.queued, carries.appended⟩
        · rfl
      · exact carries
  | shutdown inLoop =>
      unfold ConnectionRun.shutdown
      split
      · refine CarriesCalls.runInLoop ?_ ?_ inLoop
        · exact ⟨carries.queued, carries.appended⟩
        · trivial
      · exact carries
  | forceClose inLoop =>
      unfold ConnectionRun.forceClose
      split
      · refine CarriesCalls.runInLoop ?_ ?_ inLoop
        · exact ⟨carries.queued, carries.appended⟩
        · trivial
      · exact carries
  | store addr byte =>
      refine ⟨fun functor member => ?_, carries.appended⟩
      exact ConnectionFunctor.isCurrent_of_readsSame (List.all_eq_true.mp kept functor member)
        (carries.queued functor member)
  | functor functor rest queue =>
      have current := carries.queued functor (queue ▸ List.mem_cons_self)
      refine CarriesCalls.runFunctor ?_ current
      refine ⟨fun other member => ?_, carries.appended⟩
      exact carries.queued other (queue ▸ List.mem_cons_of_mem _ member)
  | writable result _ => exact carries.handleWrite result
  | readClosed => exact carries.handleClose
  | errorEvent => exact carries.handleClose.handleClose

/-- In every run in which callers leave the bytes of queued sends alone, every `SendInLoop`
appends exactly the bytes that the caller's region held at the call. -/
theorem appended_eq_atCall (fd : Nat) (memory : Nat → UInt8) {events : List ConnectionEvent}
    {run : ConnectionRun}
    (kept : connectionMachine.Run KeepsPendingBytes (.established fd memory) events run) :
    ∀ pair ∈ run.appended, pair.2 = pair.1 := by
  have carries := kept.invariant CarriesCalls (CarriesCalls.established fd memory)
    fun _ _ _ carries kept transition => carries.step kept (connectionStep_cases transition)
  exact carries.appended

/-- A cross-thread `Send` of two bytes whose region is reused once its functor has run. -/
def reuseAfterFunctor : List ConnectionEvent :=
  [.send false 0 2, .store 7 5, .functor, .store 0 9, .writable (.wrote 2)]

/-- The reuse after the functor leaves what was appended and written. -/
theorem reuseAfterFunctor_appended : ∃ run,
    connectionMachine.exec (.established 3 fun addr => addr.toUInt8) reuseAfterFunctor = some run ∧
      run.written = [0, 1] ∧ ∀ pair ∈ run.appended, pair.2 = pair.1 := by
  have written : (connectionMachine.exec (.established 3 fun addr => addr.toUInt8)
      reuseAfterFunctor).map (·.written) = some [0, 1] := by decide +kernel
  obtain ⟨run, executed, taken⟩ := Option.map_eq_some_iff.mp written
  have guarded : connectionMachine.Guarded KeepsPendingBytes
      (.established 3 fun addr => addr.toUInt8) reuseAfterFunctor := by decide +kernel
  exact ⟨run, executed, taken, appended_eq_atCall 3 _ (Machine.run_of_guarded executed guarded)⟩

/-- Not every run is such a run: a caller on another thread may reuse its buffer while
the functor of its `Send` is queued. -/
theorem not_appended_eq_atCall :
    ¬ ∀ (fd : Nat) (memory : Nat → UInt8) (events : List ConnectionEvent) (run : ConnectionRun),
      connectionMachine.AnyRun (.established fd memory) events run →
        ∀ pair ∈ run.appended, pair.2 = pair.1 := by
  intro copies
  have reused := copies 3 (fun _ => 0) [.send false 0 1, .store 0 1, .functor] _
    (Machine.run_of_exec rfl) ([0], [1]) (by decide +kernel)
  cases reused

end TurboCore.Net
