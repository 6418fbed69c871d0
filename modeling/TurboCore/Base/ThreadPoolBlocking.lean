import Mathlib
import TurboCore.Base.ThreadPool

/-!
# The pool and its own mutex

`CleanupExitedThreads` joins every joinable thread while it holds `m_queue_mutex`. A
thread that then still needs the mutex, or a notification, never leaves `WorkerLoop`.
The runs without such a wait are those in which every cleanup finds no thread
blocked, and every thread it still has to join leaves at its next shrink test.
-/

namespace TurboCore.Base

open Foundation PoolRun

/-- A thread inside a cleanup holds the mutex and waits in `join` for a worker that is
still in its loop and needs the mutex or a notification. -/
def BlocksItself (pool : PoolRun) : Prop :=
  ∃ caller call worker toVisit removed,
    pool.callerPc caller = .cleanupJoin call (worker :: toVisit) removed ∧
    pool.queueMutex = some (.caller caller) ∧ pool.joined worker = false ∧
    (pool.workerPc worker).isBlocked = true

/-- The threads that the cleanup holding the mutex has not visited yet. -/
def PoolRun.cleanupToVisit (pool : PoolRun) : List WorkerId :=
  match pool.queueMutex with
  | some (.caller caller) =>
      match pool.callerPc caller with
      | .cleanupJoin _ toVisit _ => toVisit
      | _ => []
  | _ => []

/-- A cleanup takes the mutex only when no joinable thread is blocked, and a thread that
a cleanup has still to join finds at its shrink test that it has to leave. -/
def LetsWorkersLeave (pool : PoolRun) : PoolEvent → Prop
  | .caller caller _ =>
      (pool.callerPc caller).isCleanupLock = true → ∀ worker ∈ pool.workers,
        pool.joined worker = false → (pool.workerPc worker).isBlocked = false
  | .worker worker =>
      pool.workerPc worker = .shrinkTest → worker ∈ pool.cleanupToVisit →
        pool.joined worker = false → pool.targetThreadNum < pool.workers.length
  | _ => True

instance (pool : PoolRun) : (event : PoolEvent) → Decidable (LetsWorkersLeave pool event)
  | .caller caller _ => inferInstanceAs (Decidable ((pool.callerPc caller).isCleanupLock = true → _))
  | .worker worker => inferInstanceAs (Decidable (pool.workerPc worker = .shrinkTest → _))
  | .commit _ _ | .resize _ _ | .shutdown _ | .spurious _ => .isTrue trivial

/-- Who stands where the mutex is held is its holder. -/
structure Exclusive (pool : PoolRun) : Prop where
  worker : ∀ worker, (pool.workerPc worker).holdsMutex = true →
    pool.queueMutex = some (.worker worker)
  caller : ∀ caller call toVisit removed,
    pool.callerPc caller = .cleanupJoin call toVisit removed →
    pool.queueMutex = some (.caller caller)

theorem Exclusive.start (threadNum : Nat) : Exclusive (.start threadNum) where
  worker worker held := by
    simp only [PoolRun.start] at held
    split at held <;> cases held
  caller caller _ _ _ position := by cases position

/-- A worker's step leaves the mutex to any other thread that holds it. -/
theorem Exclusive.kept_by_worker {pool next : PoolRun} {worker : WorkerId} {holder : MutexHolder}
    (exclusive : Exclusive pool) (step : WorkerStep pool worker next)
    (held : pool.queueMutex = some holder) (other : holder ≠ .worker worker) :
    next.queueMutex = some holder := by
  rcases step.queueMutex_cases with ⟨kept, _⟩ | ⟨free, _⟩ | ⟨own, _⟩
  · rw [kept, held]
  · rw [free] at held
    cases held
  · rw [exclusive.worker worker own] at held
    exact absurd (Option.some.inj held).symm other

/-- And so does a caller's. -/
theorem Exclusive.kept_by_caller {pool next : PoolRun} {caller : CallerId} {holder : MutexHolder}
    (exclusive : Exclusive pool) (step : CallerStep pool caller next)
    (held : pool.queueMutex = some holder) (other : holder ≠ .caller caller) :
    next.queueMutex = some holder := by
  rcases step.queueMutex_cases with ⟨kept, _⟩ | ⟨free, _⟩ | ⟨_, _, call, removed, position⟩
  · rw [kept, held]
  · rw [free] at held
    cases held
  · rw [exclusive.caller caller call [] removed position] at held
    exact absurd (Option.some.inj held).symm other

theorem Exclusive.workerStep {pool next : PoolRun} {worker : WorkerId}
    (exclusive : Exclusive pool) (step : WorkerStep pool worker next) : Exclusive next := by
  constructor
  · intro other held
    by_cases same : other = worker
    · subst same
      rcases step.queueMutex_cases with ⟨kept, before⟩ | ⟨_, taken⟩ | ⟨_, _, outside⟩
      · rw [kept]
        exact exclusive.worker other (before held)
      · exact taken
      · rw [outside] at held
        cases held
    · rw [step.workerPc_other same] at held
      have holder := exclusive.worker other held
      exact exclusive.kept_by_worker step holder (by simpa using same)
  · intro caller call toVisit removed position
    rw [step.frame.callerPc] at position
    have holder := exclusive.caller caller call toVisit removed position
    exact exclusive.kept_by_worker step holder (by simp)

theorem Exclusive.callerStep {pool next : PoolRun} {caller : CallerId}
    (exclusive : Exclusive pool) (step : CallerStep pool caller next) : Exclusive next := by
  constructor
  · intro worker held
    have before : (pool.workerPc worker).holdsMutex = true := by
      rcases step.workerPc_cases worker with same | ⟨_, woken⟩ | ⟨_, started, _⟩
      · rw [← same]
        exact held
      · rw [woken] at held
        cases held
      · rw [started] at held
        cases held
    have holder := exclusive.worker worker before
    exact exclusive.kept_by_caller step holder (by simp)
  · intro other call toVisit removed position
    by_cases same : other = caller
    · subst same
      rcases step.queueMutex_cases with ⟨kept, visiting⟩ | ⟨_, taken, _⟩ | ⟨_, outside, _⟩
      · obtain ⟨_, _, before, _⟩ := visiting call toVisit removed position
        rw [kept, exclusive.caller other _ _ _ before]
      · exact taken
      · rw [outside] at position
        cases position
    · rw [step.callerPc_other same] at position
      have holder := exclusive.caller other call toVisit removed position
      exact exclusive.kept_by_caller step holder (by simpa using same)

theorem Exclusive.step {pool next : PoolRun} {event : PoolEvent} (exclusive : Exclusive pool)
    (step : PoolStep pool event next) : Exclusive next := by
  cases step with
  | commit caller _ _ _ | resize caller _ _ | shutdown caller _ =>
      refine ⟨exclusive.worker, fun other call toVisit removed position => ?_⟩
      refine exclusive.caller other call toVisit removed ?_
      by_cases same : other = caller
      · simp [same] at position
      · simpa [same] using position
  | caller caller _ _ step => exact exclusive.callerStep step
  | worker worker _ step => exact exclusive.workerStep step
  | spurious worker asleep =>
      refine ⟨fun other held => exclusive.worker other ?_, exclusive.caller⟩
      by_cases same : other = worker
      · simp [same, WorkerPc.holdsMutex] at held
      · simpa [same] using held

/-- While a cleanup holds the mutex, no thread that it has still to join is blocked. -/
structure FreeToLeave (pool : PoolRun) : Prop extends Exclusive pool where
  free : ∀ caller call toVisit removed,
    pool.callerPc caller = .cleanupJoin call toVisit removed →
    ∀ worker ∈ toVisit, pool.joined worker = false → (pool.workerPc worker).isBlocked = false

theorem FreeToLeave.not_blocksItself {pool : PoolRun} (free : FreeToLeave pool) :
    ¬ BlocksItself pool := by
  rintro ⟨caller, call, worker, toVisit, removed, position, _, joinable, blocked⟩
  rw [free.free caller call _ removed position worker List.mem_cons_self joinable] at blocked
  cases blocked

/-- A worker that gets blocked in its step has found that it is needed. -/
theorem PoolRun.WorkerStep.isBlocked_cases {pool next : PoolRun} {worker : WorkerId}
    (step : WorkerStep pool worker next) (blocked : (next.workerPc worker).isBlocked = true) :
    (pool.workerPc worker = .shrinkTest ∧ pool.workers.length ≤ pool.targetThreadNum) ∨
      (pool.workerPc worker).holdsMutex = true := by
  cases step with
  | keepOn position needed => exact .inl ⟨position, needed⟩
  | sleep position => exact .inr (by rw [position]; rfl)
  | _ => simp [WorkerPc.isBlocked] at blocked

theorem FreeToLeave.workerStep {pool next : PoolRun} {worker : WorkerId}
    (free : FreeToLeave pool) (step : WorkerStep pool worker next)
    (guarded : LetsWorkersLeave pool (.worker worker)) : FreeToLeave next := by
  refine ⟨free.toExclusive.workerStep step, ?_⟩
  intro caller call toVisit removed position other member joinable
  rw [step.frame.callerPc] at position
  rw [step.frame.joined] at joinable
  have holder := free.caller caller call toVisit removed position
  by_cases same : other = worker
  · subst same
    by_contra blocked
    rcases step.isBlocked_cases (by simpa using blocked) with ⟨test, needed⟩ | own
    · have visiting : other ∈ pool.cleanupToVisit := by
        simpa [PoolRun.cleanupToVisit, holder, position] using member
      have surplus := guarded test visiting joinable
      omega
    · rw [free.worker other own] at holder
      cases holder
  · rw [step.workerPc_other same]
    exact free.free caller call toVisit removed position other member joinable

/-- A caller's step blocks no worker that was not blocked. -/
theorem PoolRun.CallerStep.isBlocked_of_isBlocked {pool next : PoolRun} {caller : CallerId}
    (step : CallerStep pool caller next) {worker : WorkerId}
    (blocked : (next.workerPc worker).isBlocked = true) :
    (pool.workerPc worker).isBlocked = true := by
  rcases step.workerPc_cases worker with same | ⟨asleep, _⟩ | ⟨_, started, _⟩
  · rw [← same]
    exact blocked
  · rw [asleep]
    rfl
  · rw [started] at blocked
    cases blocked

/-- Threads are joined and never become joinable again. -/
theorem PoolRun.CallerStep.joined_mono {pool next : PoolRun} {caller : CallerId}
    (step : CallerStep pool caller next) {worker : WorkerId}
    (joinable : next.joined worker = false) : pool.joined worker = false := by
  cases step with
  | notify _ notified _ woken | resizeWake _ notified _ woken =>
      rcases woken with rfl | ⟨_, _, rfl⟩
      · exact joinable
      · exact joinable
  | join call joining _ _ _ _ | shutdownJoin joining _ _ _ =>
      simp only at joinable
      split at joinable
      · cases joinable
      · exact joinable
  | _ => exact joinable

theorem FreeToLeave.callerStep {pool next : PoolRun} {caller : CallerId}
    {woken : Option WorkerId} (free : FreeToLeave pool) (step : CallerStep pool caller next)
    (guarded : LetsWorkersLeave pool (.caller caller woken)) : FreeToLeave next := by
  refine ⟨free.toExclusive.callerStep step, ?_⟩
  intro other call toVisit removed position worker member joinable
  by_contra blocked
  have before := step.isBlocked_of_isBlocked (by simpa using blocked)
  have joinableBefore := step.joined_mono joinable
  by_cases same : other = caller
  · subst same
    rcases step.queueMutex_cases with ⟨_, visiting⟩ | ⟨_, _, call', lock, join⟩ | ⟨_, outside, _⟩
    · obtain ⟨head, earlier, started, _⟩ := visiting call toVisit removed position
      rw [free.free other call _ _ started worker (List.mem_cons_of_mem _ member)
        joinableBefore] at before
      cases before
    · rw [join] at position
      cases position
      rw [guarded (by rw [lock]; rfl) worker member joinableBefore] at before
      cases before
    · rw [outside] at position
      cases position
  · rw [step.callerPc_other same] at position
    rw [free.free other call toVisit removed position worker member joinableBefore] at before
    cases before

/-- A guarded step lets every thread that has to be joined leave. -/
theorem FreeToLeave.step {pool next : PoolRun} {event : PoolEvent} (free : FreeToLeave pool)
    (guarded : LetsWorkersLeave pool event) (step : PoolStep pool event next) :
    FreeToLeave next := by
  cases step with
  | commit caller _ idle _ | resize caller _ idle | shutdown caller idle =>
      refine ⟨free.toExclusive.step (by constructor <;> assumption), ?_⟩
      intro other call toVisit removed position worker member joinable
      refine free.free other call toVisit removed ?_ worker member joinable
      by_cases same : other = caller
      · simp [same] at position
      · simpa [same] using position
  | caller caller _ _ step => exact free.callerStep step guarded
  | worker worker _ step => exact free.workerStep step guarded
  | spurious worker asleep =>
      refine ⟨free.toExclusive.step (.spurious worker asleep), ?_⟩
      intro caller call toVisit removed position other member joinable
      have before := free.free caller call toVisit removed position other member joinable
      by_cases same : other = worker
      · rw [same, asleep] at before
        cases before
      · simpa [same] using before

/-- In every run in which every cleanup lets the workers leave, no thread holds the mutex
and waits for a worker that is blocked. -/
theorem never_blocksItself (threadNum : Nat) {events : List PoolEvent} {pool : PoolRun}
    (guarded : poolMachine.Run LetsWorkersLeave (.start threadNum) events pool) :
    ¬ BlocksItself pool := by
  have initial : FreeToLeave (.start threadNum) :=
    ⟨Exclusive.start threadNum, fun _ _ _ _ position => by cases position⟩
  have free := guarded.invariant FreeToLeave initial fun _ _ _ free guard transition =>
    free.step guard (poolStep_cases transition)
  exact free.not_blocksItself

/-- A pool of one thread is resized to none while the thread is at its loop test. -/
def resizeToNone : List PoolEvent :=
  [.resize 0 0, .caller 0 none, .caller 0 none, .caller 0 none, .caller 0 none,
    .caller 0 none, .caller 0 none, .worker 0, .worker 0, .caller 0 none, .caller 0 none]

/-- The cleanup of `resizeToNone` joins the thread and returns. -/
theorem resizeToNone_not_blocksItself : ∃ pool,
    poolMachine.exec (.start 1) resizeToNone = some pool ∧ pool.callerPc 0 = .outside ∧
      pool.workers = [] ∧ ¬ BlocksItself pool :=
  ⟨_, rfl, rfl, rfl, never_blocksItself 1 (Machine.run_of_guarded rfl
    (by decide : poolMachine.Guarded LetsWorkersLeave (.start 1) resizeToNone))⟩

/-- One `Commit` on a pool of one thread that goes on to wait for its first task. -/
def commitToIdle : List PoolEvent :=
  [.commit 0 1, .caller 0 none, .caller 0 none, .caller 0 none, .worker 0, .worker 0,
    .caller 0 none]

/-- Not every run is free of such a wait: the cleanup of the first `Commit` holds the
mutex and joins a worker that is about to take it. -/
theorem not_never_blocksItself :
    ¬ ∀ (threadNum : Nat) (events : List PoolEvent) (pool : PoolRun),
      (∀ event ∈ events, ∀ caller, event ≠ .shutdown caller) →
      poolMachine.AnyRun (.start threadNum) events pool → ¬ BlocksItself pool := by
  intro never
  have calls : ∀ event ∈ commitToIdle, ∀ caller, event ≠ .shutdown caller := by
    simp [commitToIdle]
  refine never 1 commitToIdle _ calls (Machine.run_of_exec rfl) ?_
  exact ⟨0, .commit 1, 0, [], [], rfl, rfl, rfl, rfl⟩

end TurboCore.Base
