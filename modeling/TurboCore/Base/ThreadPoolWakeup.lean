import Mathlib
import TurboCore.Foundation.Progress
import TurboCore.Base.ThreadPoolBlocking

/-!
# Whether the pool's `Shutdown` comes back

As in the logger, the flag is cleared and the workers are notified without the mutex. A worker
that has found its predicate false and is not asleep yet misses the notification, and
`Shutdown` then joins a thread that nobody wakes: later calls are refused and notify no one.
With no other call under way this is the only way in which `Shutdown` can hang.
-/

namespace TurboCore.Base

open Foundation PoolRun

/-- The worker sleeps, or is about to. -/
def WorkerPc.isAsleep : WorkerPc → Bool
  | park | waiting => true
  | _ => false

/-- The caller is before the first test of its call, or in none. -/
def CallerPc.isAtDoor : CallerPc → Bool
  | outside | commitTest _ | resizeTest _ | shutdownTest => true
  | _ => false

/-- `Shutdown` has stored the flag. -/
def CallerPc.isPastStore : CallerPc → Bool
  | shutdownNotify | shutdownJoin _ | shutdownClear => true
  | _ => false

/-- Nobody wakes up by himself. -/
def PoolEvent.Notified : PoolEvent → Prop
  | spurious _ => False
  | _ => True

/-- `Shutdown` has notified and has still to join a worker that sleeps or is about to. -/
def PoolRun.LeftAsleep (pool : PoolRun) (caller : CallerId) : Prop :=
  ∃ toVisit, pool.callerPc caller = .shutdownJoin toVisit ∧
    ∃ worker ∈ toVisit, pool.joined worker = false ∧ (pool.workerPc worker).isAsleep = true

/-- The mutex is held by a thread that stands where it is held, the flag is down once it has
been stored, and the threads to join have been started. -/
structure Standing (pool : PoolRun) : Prop where
  worker : ∀ worker, pool.queueMutex = some (.worker worker) →
    (pool.workerPc worker).holdsMutex = true
  caller : ∀ caller, pool.queueMutex = some (.caller caller) →
    ∃ call toVisit removed, pool.callerPc caller = .cleanupJoin call toVisit removed
  stopped : ∀ caller, (pool.callerPc caller).isPastStore = true → pool.isRunning = false
  unstarted : ∀ worker, pool.started ≤ worker → pool.workerPc worker = .notStarted
  started : ∀ worker ∈ pool.workers, pool.workerPc worker ≠ .notStarted
  visited : ∀ caller toVisit, pool.callerPc caller = .shutdownJoin toVisit →
    ∀ worker ∈ toVisit, pool.workerPc worker ≠ .notStarted

namespace PoolRun.CallerStep

variable {pool next : PoolRun} {caller : CallerId}

/-- A cleanup that holds the mutex keeps it until its end. -/
theorem cleanup_goes_on (step : CallerStep pool caller next) {call : CleanupCall}
    {toVisit removed : List WorkerId}
    (position : pool.callerPc caller = .cleanupJoin call toVisit removed) :
    next.queueMutex = none ∨
      ∃ call toVisit removed, next.callerPc caller = .cleanupJoin call toVisit removed := by
  cases step with
  | erase => exact .inl rfl
  | skip | join => exact .inr ⟨_, _, _, if_pos rfl⟩
  | _ => simp_all

/-- Nobody raises the flag again. -/
theorem isRunning_false (step : CallerStep pool caller next) (stopped : pool.isRunning = false) :
    next.isRunning = false := by
  cases step with
  | notify _ _ _ woken | resizeWake _ _ _ woken =>
      rcases woken with rfl | ⟨_, _, rfl⟩
      · exact stopped
      · exact stopped
  | stop => rfl
  | _ => exact stopped

/-- Who is past the store of the flag has it down. -/
theorem isPastStore_cases (step : CallerStep pool caller next)
    (past : (next.callerPc caller).isPastStore = true) :
    next.isRunning = false ∨ (pool.callerPc caller).isPastStore = true := by
  cases step with
  | stop => exact .inl rfl
  | wakeAll position | allJoined position | shutdownSkip _ _ position _
  | shutdownJoin _ _ position _ => exact .inr (by rw [position]; rfl)
  | notify _ _ _ woken | resizeWake _ _ _ woken =>
      rcases woken with rfl | ⟨_, _, rfl⟩ <;> simp [CallerPc.isPastStore] at past
  | resizeOn target position =>
      rcases position with ⟨_, _, rfl⟩ | ⟨_, _, _, rfl⟩ | ⟨_, rfl⟩ <;>
        simp [CallerPc.isPastStore] at past
  | store _ _ target _ change =>
      rcases change with rfl | rfl <;> simp [CallerPc.isPastStore] at past
  | _ => simp [CallerPc.isPastStore] at past

/-- The list of threads only grows by the one that is started. -/
theorem workers_cases (step : CallerStep pool caller next) {worker : WorkerId}
    (member : worker ∈ next.workers) :
    worker ∈ pool.workers ∨ worker = pool.started ∧ next.workerPc worker = .loopTest := by
  cases step with
  | notify _ _ _ woken | resizeWake _ _ _ woken =>
      rcases woken with rfl | ⟨_, _, rfl⟩
      · exact .inl member
      · exact .inl member
  | spawn addNum position =>
      rcases List.mem_append.mp member with before | last
      · exact .inl before
      · have here := List.mem_singleton.mp last
        exact .inr ⟨here, by simp [here]⟩
  | erase => exact .inl (List.mem_filter.mp member).1
  | clear => cases member
  | _ => exact .inl member

/-- What is left to join was there before, or is the whole list. -/
theorem shutdownJoin_cases (step : CallerStep pool caller next) {toVisit : List WorkerId}
    (position : next.callerPc caller = .shutdownJoin toVisit) :
    toVisit = pool.workers ∨
      ∃ worker, pool.callerPc caller = .shutdownJoin (worker :: toVisit) := by
  cases step with
  | wakeAll => exact .inl (by simpa using position.symm)
  | shutdownSkip worker _ before _ | shutdownJoin worker _ before _ =>
      simp only [setCaller_callerPc, if_true, CallerPc.shutdownJoin.injEq] at position
      exact .inr ⟨worker, position ▸ before⟩
  | notify _ _ _ woken | resizeWake _ _ _ woken =>
      rcases woken with rfl | ⟨_, _, rfl⟩ <;> simp at position
  | resizeOn target before =>
      rcases before with ⟨_, _, rfl⟩ | ⟨_, _, _, rfl⟩ | ⟨_, rfl⟩ <;> simp at position
  | store _ _ target _ change => rcases change with rfl | rfl <;> simp at position
  | _ => simp at position

/-- The next worker to start has a number of its own. -/
theorem unstarted (step : CallerStep pool caller next)
    (before : ∀ worker, pool.started ≤ worker → pool.workerPc worker = .notStarted)
    (worker : WorkerId) (late : next.started ≤ worker) : next.workerPc worker = .notStarted := by
  have sleepers (sleeper : WorkerId) (asleep : pool.workerPc sleeper = .waiting)
      (late : pool.started ≤ worker) : worker ≠ sleeper := by
    rintro rfl
    rw [before worker late] at asleep
    cases asleep
  cases step with
  | notify _ _ _ woken | resizeWake _ _ _ woken =>
      rcases woken with rfl | ⟨sleeper, asleep, rfl⟩
      · exact before worker late
      · exact (if_neg (sleepers sleeper asleep late)).trans (before worker late)
  | spawn =>
      have later : pool.started + 1 ≤ worker := late
      exact (if_neg (Nat.ne_of_gt later)).trans (before worker (Nat.le_of_lt later))
  | wakeAll =>
      have absent := before worker late
      simp [absent]
  | _ => exact before worker late

end PoolRun.CallerStep

namespace Standing

variable {pool next : PoolRun}

theorem start (threadNum : Nat) : Standing (.start threadNum) where
  worker worker held := by cases held
  caller caller held := by cases held
  stopped caller position := by
    cases position
  unstarted worker late := if_neg (Nat.not_lt.mpr late)
  started worker member := by
    have known : worker < threadNum := List.mem_range.mp member
    simp [PoolRun.start, known]
  visited caller toVisit position := by cases position

theorem workerStep (standing : Standing pool) {worker : WorkerId}
    (step : WorkerStep pool worker next) : Standing next := by
  have awake (other : WorkerId) (known : pool.workerPc other ≠ .notStarted) :
      next.workerPc other ≠ .notStarted := by
    by_cases same : other = worker
    · subst same
      cases step <;> simp
    · rw [step.workerPc_other same]
      exact known
  refine ⟨?_, ?_, ?_, ?_, ?_, ?_⟩
  · intro other held
    cases step with
    | lock position free =>
        cases held
        simp [WorkerPc.holdsMutex]
    | sleep | leaveWait | take => cases held
    | ready position _ | idle position _ _ =>
        by_cases same : other = worker
        · simp [same, WorkerPc.holdsMutex]
        · simpa [same] using standing.worker other held
    | enterLoop position _ | leaveLoop position _ _ | shrink position _ | keepOn position _
    | finish _ position =>
        have holds := standing.worker other held
        by_cases same : other = worker
        · subst same
          rw [position] at holds
          cases holds
        · simpa [same] using holds
  · intro caller held
    rw [step.frame.callerPc]
    refine standing.caller caller ?_
    rcases step.queueMutex_cases with ⟨kept, _⟩ | ⟨_, taken⟩ | ⟨_, released, _⟩
    · exact kept.symm.trans held
    · cases taken.symm.trans held
    · cases released.symm.trans held
  · intro caller position
    rw [step.frame.callerPc] at position
    exact step.frame.isRunning.trans (standing.stopped caller position)
  · intro other late
    have before := standing.unstarted other (step.frame.started ▸ late)
    have different : other ≠ worker := by
      rintro rfl
      cases step <;> simp_all
    rw [step.workerPc_other different]
    exact before
  · intro other member
    rw [step.frame.workers] at member
    exact awake other (standing.started other member)
  · intro caller toVisit position other member
    rw [step.frame.callerPc] at position
    exact awake other (standing.visited caller toVisit position other member)

theorem callerStep (standing : Standing pool) {caller : CallerId}
    (step : CallerStep pool caller next) : Standing next := by
  have awake (worker : WorkerId) (known : pool.workerPc worker ≠ .notStarted) :
      next.workerPc worker ≠ .notStarted := by
    rcases step.workerPc_cases worker with same | ⟨_, woken⟩ | ⟨_, spawned, _⟩
    · rwa [same]
    · simp [woken]
    · simp [spawned]
  refine ⟨?_, ?_, ?_, ?_, ?_, ?_⟩
  · intro worker held
    have before : pool.queueMutex = some (.worker worker) := by
      rcases step.queueMutex_cases with ⟨kept, _⟩ | ⟨_, taken, _⟩ | ⟨released, _⟩
      · exact kept.symm.trans held
      · cases taken.symm.trans held
      · cases released.symm.trans held
    have holds := standing.worker worker before
    rcases step.workerPc_cases worker with same | ⟨asleep, _⟩ | ⟨_, _, _, _⟩
    · rwa [same]
    · rw [asleep] at holds
      cases holds
    · next first _ _ _ =>
        rw [first, standing.unstarted _ le_rfl] at holds
        cases holds
  · intro other held
    by_cases same : other = caller
    · subst same
      rcases step.queueMutex_cases with ⟨kept, _⟩ | ⟨_, _, _, _, joining⟩ | ⟨released, _⟩
      · obtain ⟨_, _, _, position⟩ := standing.caller other (kept.symm.trans held)
        refine (step.cleanup_goes_on position).resolve_left fun released => ?_
        cases released.symm.trans held
      · exact ⟨_, _, _, joining⟩
      · cases released.symm.trans held
    · rw [step.callerPc_other same]
      refine standing.caller other ?_
      rcases step.queueMutex_cases with ⟨kept, _⟩ | ⟨_, taken, _⟩ | ⟨released, _⟩
      · exact kept.symm.trans held
      · cases taken.symm.trans held
        exact absurd rfl same
      · cases released.symm.trans held
  · intro other past
    by_cases same : other = caller
    · subst same
      rcases step.isPastStore_cases past with stopped | before
      · exact stopped
      · exact step.isRunning_false (standing.stopped other before)
    · rw [step.callerPc_other same] at past
      exact step.isRunning_false (standing.stopped other past)
  · exact step.unstarted standing.unstarted
  · intro worker member
    rcases step.workers_cases member with before | ⟨_, looping⟩
    · exact awake worker (standing.started worker before)
    · simp [looping]
  · intro other toVisit position worker member
    by_cases same : other = caller
    · subst same
      rcases step.shutdownJoin_cases position with rfl | ⟨first, before⟩
      · exact awake worker (standing.started worker member)
      · exact awake worker (standing.visited other _ before worker (List.mem_cons_of_mem _ member))
    · rw [step.callerPc_other same] at position
      exact awake worker (standing.visited other toVisit position worker member)

/-- A thread that is in no call begins one. -/
theorem enter (standing : Standing pool) {caller : CallerId} {pc : CallerPc}
    (idle : pool.callerPc caller = .outside) (door : pc.isAtDoor = true) :
    Standing (pool.setCaller caller pc) where
  worker := standing.worker
  caller other held := by
    obtain ⟨call, toVisit, removed, position⟩ := standing.caller other held
    have different : other ≠ caller := by
      rintro rfl
      rw [idle] at position
      cases position
    exact ⟨call, toVisit, removed, (if_neg different).trans position⟩
  stopped other past := by
    simp only [setCaller_callerPc] at past
    split at past
    · cases pc <;> simp_all [CallerPc.isAtDoor, CallerPc.isPastStore]
    · exact standing.stopped other past
  unstarted := standing.unstarted
  started := standing.started
  visited other toVisit position := by
    simp only [setCaller_callerPc] at position
    split at position
    · rw [position] at door
      cases door
    · exact standing.visited other toVisit position

theorem step {event : PoolEvent} (standing : Standing pool) (step : PoolStep pool event next) :
    Standing next := by
  cases step with
  | worker _ _ step => exact standing.workerStep step
  | caller _ _ _ step => exact standing.callerStep step
  | commit caller task idle _ =>
      have entered : Standing (pool.setCaller caller (.commitTest task)) := standing.enter idle rfl
      exact ⟨entered.worker, entered.caller, entered.stopped, entered.unstarted, entered.started,
        entered.visited⟩
  | resize caller newThreadNum idle => exact standing.enter idle rfl
  | shutdown caller idle =>
      have entered : Standing (pool.setCaller caller .shutdownTest) := standing.enter idle rfl
      exact ⟨entered.worker, entered.caller, entered.stopped, entered.unstarted, entered.started,
        entered.visited⟩
  | spurious worker asleep =>
      have awake (other : WorkerId) (known : pool.workerPc other ≠ .notStarted) :
          (pool.setWorker worker .woken).workerPc other ≠ .notStarted := by
        simp only [setWorker_workerPc]
        split
        · simp
        · exact known
      refine ⟨fun other held => ?_, standing.caller, standing.stopped, fun other late => ?_,
        fun other member => awake other (standing.started other member),
        fun caller toVisit position other member =>
          awake other (standing.visited caller toVisit position other member)⟩
      · have holds := standing.worker other held
        have different : other ≠ worker := by
          rintro rfl
          rw [asleep] at holds
          cases holds
        exact (congrArg WorkerPc.holdsMutex (if_neg different)).trans holds
      · have absent := standing.unstarted other late
        have different : other ≠ worker := by
          rintro rfl
          rw [asleep] at absent
          cases absent
        exact (if_neg different).trans absent

end Standing

namespace PoolRun

variable {pool next : PoolRun}

/-- With the flag down no worker goes to sleep any more, except one that is about to. -/
theorem WorkerStep.isAsleep_of_isAsleep {worker : WorkerId} (step : WorkerStep pool worker next)
    (stopped : pool.isRunning = false) {other : WorkerId}
    (asleep : (next.workerPc other).isAsleep = true) : (pool.workerPc other).isAsleep = true := by
  by_cases same : other = worker
  · subst same
    cases step with
    | sleep position => rw [position]; rfl
    | idle _ running _ => simp [stopped] at running
    | _ => simp [WorkerPc.isAsleep] at asleep
  · rwa [step.workerPc_other same] at asleep

/-- And none that sleeps wakes up by a step of a worker. -/
theorem WorkerStep.isAsleep_kept {worker : WorkerId} (step : WorkerStep pool worker next)
    {other : WorkerId} (asleep : (pool.workerPc other).isAsleep = true) :
    (next.workerPc other).isAsleep = true := by
  by_cases same : other = worker
  · subst same
    cases step with
    | sleep => simp [WorkerPc.isAsleep]
    | lock position _ =>
        rcases position with position | position <;> simp [position, WorkerPc.isAsleep] at asleep
    | enterLoop position _ | leaveLoop position _ _ | shrink position _ | keepOn position _
    | ready position _ | idle position _ _ | leaveWait position _ _ | take _ _ position _
    | finish _ position => simp [position, WorkerPc.isAsleep] at asleep
  · rwa [step.workerPc_other same]

/-- With the flag down a call that has not begun to do anything is refused. -/
theorem callerStep_of_isAtDoor {caller : CallerId} {woken : Option WorkerId}
    (door : (pool.callerPc caller).isAtDoor = true) (stopped : pool.isRunning = false)
    (transition : pool.callerStep caller woken = some next) :
    next = pool.setCaller caller .outside ∨
      next = { pool.setCaller caller .outside with shutdownReturned := true } := by
  cases position : pool.callerPc caller with
  | outside => simp [callerStep, position] at transition
  | commitTest | resizeTest | shutdownTest =>
      simp only [callerStep, position, stopped, Bool.false_eq_true, if_false,
        Option.some.injEq] at transition
      simp [← transition]
  | _ => simp [position, CallerPc.isAtDoor] at door

end PoolRun

/-- All calls but that of `caller` have done nothing yet. -/
def PoolRun.Alone (pool : PoolRun) (caller : CallerId) : Prop :=
  ∀ other, other ≠ caller → (pool.callerPc other).isAtDoor = true

/-- `Shutdown` itself goes on to no further than the worker that it has left asleep. -/
theorem PoolRun.LeftAsleep.callerStep {pool next : PoolRun} {caller : CallerId}
    {woken : Option WorkerId} (left : pool.LeftAsleep caller) (alone : pool.Alone caller)
    (transition : pool.callerStep caller woken = some next) :
    next.LeftAsleep caller ∧ next.Alone caller := by
  obtain ⟨toVisit, joining, worker, member, joinable, asleep⟩ := left
  have moves (rest : List WorkerId) (known : worker ∈ rest)
      (unjoined : next.joined worker = false)
      (position : next.callerPc = (pool.setCaller caller (.shutdownJoin rest)).callerPc)
      (workers : next.workerPc = pool.workerPc) :
      next.LeftAsleep caller ∧ next.Alone caller := by
    refine ⟨⟨rest, by simp [position], worker, known, unjoined, by rwa [workers]⟩,
      fun another apart => ?_⟩
    rw [position]
    exact (congrArg CallerPc.isAtDoor (if_neg apart)).trans (alone another apart)
  cases toVisit with
  | nil => cases member
  | cons first rest =>
      simp only [PoolRun.callerStep, joining] at transition
      split at transition
      · next gone =>
          cases transition
          have apart : worker ≠ first := by
            rintro rfl
            simp [gone] at joinable
          exact moves rest ((List.mem_cons.mp member).resolve_left apart) joinable rfl rfl
      · split at transition
        · next exited =>
            cases transition
            have apart : worker ≠ first := by
              rintro rfl
              cases place : pool.workerPc worker <;>
                simp_all [WorkerPc.hasExited, WorkerPc.isAsleep]
            exact moves rest ((List.mem_cons.mp member).resolve_left apart)
              ((if_neg apart).trans joinable) rfl rfl
        · cases transition

/-- `Shutdown` stays where it is, next to a worker that it has left asleep. -/
theorem PoolRun.LeftAsleep.step {pool next : PoolRun} {caller : CallerId} {event : PoolEvent}
    (left : pool.LeftAsleep caller) (standing : Standing pool) (alone : pool.Alone caller)
    (notified : event.Notified) (transition : poolMachine.step pool event = some next) :
    next.LeftAsleep caller ∧ next.Alone caller := by
  obtain ⟨toVisit, joining, worker, member, joinable, asleep⟩ := left
  have stopped : pool.isRunning = false := standing.stopped caller (by rw [joining]; rfl)
  -- a call of another thread begins, or is refused
  have stays (other : CallerId) (pc : CallerPc) (door : pc.isAtDoor = true)
      (different : other ≠ caller) :
      (pool.setCaller other pc).LeftAsleep caller ∧ (pool.setCaller other pc).Alone caller := by
    refine ⟨⟨toVisit, (if_neg different.symm).trans joining, worker, member, joinable, asleep⟩,
      fun another apart => ?_⟩
    simp only [setCaller_callerPc]
    split
    · exact door
    · exact alone another apart
  have begins (other : CallerId) (idle : pool.callerPc other = .outside) : other ≠ caller := by
    rintro rfl
    rw [joining] at idle
    cases idle
  cases event with
  | spurious => cases notified
  | commit other task =>
      simp only [poolMachine, Option.ite_none_right_eq_some, Option.some.injEq] at transition
      obtain ⟨⟨idle, _⟩, rfl⟩ := transition
      exact stays other (.commitTest task) rfl (begins other idle)
  | resize other newThreadNum =>
      simp only [poolMachine, Option.ite_none_right_eq_some, Option.some.injEq] at transition
      obtain ⟨idle, rfl⟩ := transition
      exact stays other _ rfl (begins other idle)
  | shutdown other =>
      simp only [poolMachine, Option.ite_none_right_eq_some, Option.some.injEq] at transition
      obtain ⟨idle, rfl⟩ := transition
      exact stays other .shutdownTest rfl (begins other idle)
  | worker moving =>
      have step := workerStep_cases transition
      refine ⟨⟨toVisit, by rw [step.frame.callerPc, joining], worker, member,
        by rw [step.frame.joined, joinable], step.isAsleep_kept asleep⟩, fun other apart => ?_⟩
      rw [step.frame.callerPc]
      exact alone other apart
  | caller other woken =>
      by_cases same : other = caller
      · subst same
        exact PoolRun.LeftAsleep.callerStep ⟨toVisit, joining, worker, member, joinable, asleep⟩
          alone transition
      · have refused := stays other .outside rfl same
        rcases callerStep_of_isAtDoor (alone other same) stopped transition with rfl | rfl
        · exact refused
        · exact refused

/-- The steps that a worker needs at most to leave a pool that is stopped and has no task. -/
def WorkerPc.leaveRank : WorkerPc → Nat
  | process _ => 7
  | loopTest => 6
  | shrinkTest => 5
  | lockQueue | woken => 4
  | waitTest => 3
  | takeTask => 2
  | park => 1
  | waiting | notStarted | exited _ => 0

/-- The steps of `Shutdown` itself, the joins apart. -/
def CallerPc.shutdownRank : CallerPc → Nat
  | shutdownTest => 5
  | shutdownStore => 4
  | shutdownNotify => 3
  | shutdownJoin _ => 2
  | shutdownClear => 1
  | _ => 0

/-- The threads that `Shutdown` has still to visit. -/
def CallerPc.joining : CallerPc → List WorkerId
  | shutdownJoin toVisit => toVisit
  | _ => []

/-- The rank of the thread that is joined next. -/
def PoolRun.headRank (pool : PoolRun) (caller : CallerId) : Nat :=
  match (pool.callerPc caller).joining with
  | worker :: _ => (pool.workerPc worker).leaveRank
  | [] => 0

/-- The rank of the worker that holds the mutex. -/
def PoolRun.holderRank (pool : PoolRun) : Nat :=
  match pool.queueMutex with
  | some (.worker worker) => (pool.workerPc worker).leaveRank
  | _ => 0

/-- `Shutdown`, then the threads to join, then the tasks, then the thread to join next, and last
the worker that keeps the mutex from it. -/
def PoolRun.returnMeasure (caller : CallerId) (pool : PoolRun) : ℕ ×ₗ ℕ ×ₗ ℕ ×ₗ ℕ ×ₗ ℕ :=
  toLex ((pool.callerPc caller).shutdownRank,
    toLex ((pool.callerPc caller).joining.length,
      toLex (pool.tasks.length, toLex (pool.headRank caller, pool.holderRank))))

/-- A worker's step brings it nearer to its exit. -/
def PoolRun.Nearer (pool next : PoolRun) (worker : WorkerId) : Prop :=
  next.tasks.length < pool.tasks.length ∨
    next.tasks = pool.tasks ∧
      (next.workerPc worker).leaveRank < (pool.workerPc worker).leaveRank

section Progress

variable {pool next : PoolRun} {caller : CallerId} {worker : WorkerId}

/-- A worker that is not asleep can go on in a stopped pool, unless it needs the mutex of
another. -/
theorem worker_goes_on (stopped : pool.isRunning = false)
    (inLoop : (pool.workerPc worker).inLoop = true)
    (awake : pool.workerPc worker ≠ .waiting)
    (free : pool.queueMutex = none ∨ (pool.workerPc worker).isBlocked = false) :
    ∃ next, pool.workerStep worker = some next ∧ pool.Nearer next worker := by
  cases position : pool.workerPc worker with
  | notStarted | exited => simp [position, WorkerPc.inLoop] at inLoop
  | waiting => exact absurd position awake
  | loopTest =>
      by_cases drained : pool.tasks = []
      · exact ⟨pool.setWorker worker (.exited false),
          by simp [workerStep, position, stopped, drained],
          .inr ⟨rfl, by simp [position, WorkerPc.leaveRank]⟩⟩
      · exact ⟨pool.setWorker worker .shrinkTest, by simp [workerStep, position, drained],
          .inr ⟨rfl, by simp [position, WorkerPc.leaveRank]⟩⟩
  | shrinkTest =>
      by_cases surplus : pool.targetThreadNum < pool.workers.length
      · exact ⟨pool.setWorker worker (.exited true), by simp [workerStep, position, surplus],
          .inr ⟨rfl, by simp [position, WorkerPc.leaveRank]⟩⟩
      · exact ⟨pool.setWorker worker .lockQueue, by simp [workerStep, position, surplus],
          .inr ⟨rfl, by simp [position, WorkerPc.leaveRank]⟩⟩
  | lockQueue | woken =>
      have unheld := free.resolve_right (by simp [position, WorkerPc.isBlocked])
      exact ⟨{ pool.setWorker worker .waitTest with queueMutex := some (.worker worker) },
        by simp [workerStep, position, unheld],
        .inr ⟨rfl, by simp [position, WorkerPc.leaveRank]⟩⟩
  | waitTest =>
      exact ⟨pool.setWorker worker .takeTask, by simp [workerStep, position, stopped],
        .inr ⟨rfl, by simp [position, WorkerPc.leaveRank]⟩⟩
  | park =>
      exact ⟨{ pool.setWorker worker .waiting with queueMutex := none },
        by simp [workerStep, position], .inr ⟨rfl, by simp [position, WorkerPc.leaveRank]⟩⟩
  | takeTask =>
      cases queued : pool.tasks with
      | nil =>
          exact ⟨{ pool.setWorker worker (.exited false) with queueMutex := none },
            by simp [workerStep, position, stopped, queued],
            .inr ⟨rfl, by simp [position, WorkerPc.leaveRank]⟩⟩
      | cons task rest =>
          exact ⟨{ pool.setWorker worker (.process task) with
              queueMutex := none
              tasks := rest
              popped := pool.popped ++ [task] },
            by simp [workerStep, position, queued], .inl (by simp [queued])⟩
  | process task =>
      exact ⟨{ pool.setWorker worker .loopTest with executed := pool.executed ++ [task] },
        by simp [workerStep, position], .inr ⟨rfl, by simp [position, WorkerPc.leaveRank]⟩⟩

/-- What brings the next thread to join, or the holder of the mutex, nearer to its exit brings
`Shutdown` nearer to its end. -/
theorem Nearer.returnMeasure_lt (nearer : pool.Nearer next worker)
    (step : WorkerStep pool worker next)
    (concerned : (∃ rest, (pool.callerPc caller).joining = worker :: rest) ∨
      pool.queueMutex = some (.worker worker)) :
    next.returnMeasure caller < pool.returnMeasure caller := by
  rw [PoolRun.returnMeasure, PoolRun.returnMeasure, step.frame.callerPc]
  refine Prod.Lex.right _ (Prod.Lex.right _ ?_)
  rcases nearer with fewer | ⟨tasks, lower⟩
  · exact Prod.Lex.left _ _ fewer
  rw [tasks]
  refine Prod.Lex.right _ ?_
  by_cases head : ∃ rest, (pool.callerPc caller).joining = worker :: rest
  · obtain ⟨rest, joining⟩ := head
    refine Prod.Lex.left _ _ ?_
    simpa [PoolRun.headRank, step.frame.callerPc, joining] using lower
  · have held := concerned.resolve_left head
    have sameHead : next.headRank caller = pool.headRank caller := by
      rw [PoolRun.headRank, PoolRun.headRank, step.frame.callerPc]
      split
      · next other rest joining =>
          have apart : other ≠ worker := by
            rintro rfl
            exact head ⟨rest, joining⟩
          rw [step.workerPc_other apart]
      · rfl
    rw [sameHead]
    refine Prod.Lex.right _ ?_
    rcases step.queueMutex_cases with ⟨kept, _⟩ | ⟨free, _⟩ | ⟨_, released, _⟩
    · simpa [PoolRun.holderRank, kept, held] using lower
    · cases held.symm.trans free
    · simp only [PoolRun.holderRank, released, held]
      omega

end Progress

/-- The caller is in `Shutdown`, or back from it. -/
def CallerPc.isInShutdown : CallerPc → Bool
  | outside | shutdownTest | shutdownStore | shutdownNotify | shutdownJoin _ | shutdownClear => true
  | _ => false

/-- `Shutdown` is under way in a sound state, alone, and has left nobody asleep. -/
structure Returning (caller : CallerId) (pool : PoolRun) : Prop where
  exclusive : Exclusive pool
  standing : Standing pool
  alone : pool.Alone caller
  inside : (pool.callerPc caller).isInShutdown = true
  heard : ¬ pool.LeftAsleep caller

namespace Returning

variable {pool next : PoolRun} {caller : CallerId}

/-- Only a worker can hold the mutex. -/
theorem holder (returning : Returning caller pool) {holder : MutexHolder}
    (held : pool.queueMutex = some holder) :
    ∃ worker, holder = .worker worker ∧ (pool.workerPc worker).holdsMutex = true := by
  cases holder with
  | worker worker => exact ⟨worker, rfl, returning.standing.worker worker held⟩
  | caller other =>
      obtain ⟨call, toVisit, removed, position⟩ := returning.standing.caller other held
      by_cases same : other = caller
      · have inside := returning.inside
        rw [← same, position] at inside
        cases inside
      · have door := returning.alone other same
        rw [position] at door
        cases door

theorem workerStep (returning : Returning caller pool) {worker : WorkerId}
    (step : WorkerStep pool worker next) : Returning caller next where
  exclusive := returning.exclusive.workerStep step
  standing := returning.standing.workerStep step
  alone other apart := by
    rw [step.frame.callerPc]
    exact returning.alone other apart
  inside := by
    rw [step.frame.callerPc]
    exact returning.inside
  heard := by
    rintro ⟨toVisit, joining, other, member, joinable, asleep⟩
    rw [step.frame.callerPc] at joining
    rw [step.frame.joined] at joinable
    have stopped := returning.standing.stopped caller (by rw [joining]; rfl)
    exact returning.heard
      ⟨toVisit, joining, other, member, joinable, step.isAsleep_of_isAsleep stopped asleep⟩

theorem callerStep (returning : Returning caller pool) (step : CallerStep pool caller next)
    (inside : (next.callerPc caller).isInShutdown = true) (heard : ¬ next.LeftAsleep caller) :
    Returning caller next where
  exclusive := returning.exclusive.callerStep step
  standing := returning.standing.callerStep step
  alone other apart := by
    rw [step.callerPc_other apart]
    exact returning.alone other apart
  inside := inside
  heard := heard

/-- The worker that keeps the mutex, or the one that is joined next, goes on. -/
theorem worker_advances (returning : Returning caller pool) {worker : WorkerId}
    (stopped : pool.isRunning = false) (inLoop : (pool.workerPc worker).inLoop = true)
    (awake : pool.workerPc worker ≠ .waiting)
    (free : pool.queueMutex = none ∨ (pool.workerPc worker).isBlocked = false)
    (concerned : (∃ rest, (pool.callerPc caller).joining = worker :: rest) ∨
      pool.queueMutex = some (.worker worker)) :
    ∃ event next, PoolEvent.Notified event ∧ poolMachine.step pool event = some next ∧
      Returning caller next ∧ next.returnMeasure caller < pool.returnMeasure caller := by
  obtain ⟨next, transition, nearer⟩ := worker_goes_on stopped inLoop awake free
  have step := workerStep_cases transition
  exact ⟨.worker worker, next, trivial, transition, returning.workerStep step,
    Nearer.returnMeasure_lt nearer step concerned⟩

/-- Whoever holds the mutex gives it back. -/
theorem release (returning : Returning caller pool) (stopped : pool.isRunning = false)
    (held : pool.queueMutex ≠ none) :
    ∃ event next, PoolEvent.Notified event ∧ poolMachine.step pool event = some next ∧
      Returning caller next ∧ next.returnMeasure caller < pool.returnMeasure caller := by
  obtain ⟨holder, some⟩ := Option.ne_none_iff_exists'.mp held
  obtain ⟨worker, rfl, holds⟩ := returning.holder some
  refine returning.worker_advances stopped ?_ ?_ (.inr ?_) (.inr some)
  all_goals cases position : pool.workerPc worker <;>
    simp_all [WorkerPc.holdsMutex, WorkerPc.inLoop, WorkerPc.isBlocked]

/-- A step of `Shutdown` itself. -/
theorem caller_advances (returning : Returning caller pool)
    (transition : pool.callerStep caller none = some next)
    (inside : (next.callerPc caller).isInShutdown = true) (heard : ¬ next.LeftAsleep caller)
    (lower : (next.callerPc caller).shutdownRank < (pool.callerPc caller).shutdownRank ∨
      (next.callerPc caller).shutdownRank = (pool.callerPc caller).shutdownRank ∧
        (next.callerPc caller).joining.length < (pool.callerPc caller).joining.length) :
    ∃ event next, PoolEvent.Notified event ∧ poolMachine.step pool event = some next ∧
      Returning caller next ∧ next.returnMeasure caller < pool.returnMeasure caller := by
  refine ⟨.caller caller none, next, trivial, transition,
    returning.callerStep (callerStep_cases transition) inside heard, ?_⟩
  rcases lower with further | ⟨same, fewer⟩
  · exact Prod.Lex.left _ _ further
  · rw [returnMeasure, returnMeasure, same]
    exact Prod.Lex.right _ (Prod.Lex.left _ _ fewer)

/-- Nobody is left asleep before the joins begin, or after they end. -/
theorem not_leftAsleep (position : (pool.callerPc caller).joining = []) :
    ¬ pool.LeftAsleep caller := by
  rintro ⟨toVisit, joining, worker, member, _⟩
  rw [joining] at position
  cases position
  cases member

/-- The thread that is joined next is gone, or nearer to its exit, or another one gives the
mutex back. -/
theorem join_advances (returning : Returning caller pool) {worker : WorkerId}
    {toVisit : List WorkerId} (joining : pool.callerPc caller = .shutdownJoin (worker :: toVisit)) :
    ∃ event next, PoolEvent.Notified event ∧ poolMachine.step pool event = some next ∧
      Returning caller next ∧ next.returnMeasure caller < pool.returnMeasure caller := by
  have stopped := returning.standing.stopped caller (by rw [joining]; rfl)
  have later : ¬ (pool.setCaller caller (.shutdownJoin toVisit)).LeftAsleep caller := by
    rintro ⟨rest, position, other, member, joinable, asleep⟩
    simp only [setCaller_callerPc, if_true, CallerPc.shutdownJoin.injEq] at position
    exact returning.heard ⟨_, joining, other, List.mem_cons_of_mem _ (position ▸ member),
      joinable, asleep⟩
  by_cases joined : pool.joined worker = true
  · have transition : pool.callerStep caller none =
        some (pool.setCaller caller (.shutdownJoin toVisit)) := by
      simp [PoolRun.callerStep, joining, joined]
    refine returning.caller_advances transition ?_ later (.inr ?_)
    · simp [CallerPc.isInShutdown]
    · simp [joining, CallerPc.shutdownRank, CallerPc.joining]
  have joinable : pool.joined worker = false := Bool.eq_false_of_not_eq_true joined
  have awake : (pool.workerPc worker).isAsleep = false := by
    refine Bool.eq_false_of_not_eq_true fun asleep => ?_
    exact returning.heard ⟨_, joining, worker, List.mem_cons_self, joinable, asleep⟩
  by_cases exited : (pool.workerPc worker).hasExited = true
  · have transition : pool.callerStep caller none =
        some { pool.setCaller caller (.shutdownJoin toVisit) with
          joined := fun other => if other = worker then true else pool.joined other } := by
      simp [PoolRun.callerStep, joining, joinable, exited]
    refine returning.caller_advances transition ?_ ?_ (.inr ?_)
    · simp [CallerPc.isInShutdown]
    · rintro ⟨rest, position, other, member, unjoined, asleep⟩
      refine later ⟨rest, position, other, member, ?_, asleep⟩
      simp only at unjoined
      split at unjoined
      · cases unjoined
      · exact unjoined
    · simp [joining, CallerPc.shutdownRank, CallerPc.joining]
  have known := returning.standing.visited caller _ joining worker List.mem_cons_self
  by_cases free : pool.queueMutex = none ∨ (pool.workerPc worker).isBlocked = false
  · refine returning.worker_advances stopped ?_ ?_ free (.inl ⟨toVisit, by rw [joining]; rfl⟩)
    · cases position : pool.workerPc worker <;>
        simp_all [WorkerPc.hasExited, WorkerPc.inLoop]
    · intro waiting
      simp [waiting, WorkerPc.isAsleep] at awake
  · exact returning.release stopped fun unheld => free (.inl unheld)

/-- A step of `Shutdown` to a place where it joins nobody. -/
theorem moves_on (returning : Returning caller pool) {pc : CallerPc}
    (transition : pool.callerStep caller none = some next) (arrived : next.callerPc caller = pc)
    (inside : pc.isInShutdown = true) (alone : pc.joining = [])
    (lower : pc.shutdownRank < (pool.callerPc caller).shutdownRank) :
    ∃ event next, PoolEvent.Notified event ∧ poolMachine.step pool event = some next ∧
      Returning caller next ∧ next.returnMeasure caller < pool.returnMeasure caller := by
  subst arrived
  exact returning.caller_advances transition inside (not_leftAsleep alone) (.inl lower)

/-- Until it is back, something brings `Shutdown` nearer to its end. -/
theorem advances (caller : CallerId) :
    poolMachine.Advances PoolEvent.Notified (Returning caller)
      (fun final => final.callerPc caller = .outside) (returnMeasure caller) := by
  intro pool returning unreturned
  have past (position : (pool.callerPc caller).isPastStore = true) :=
    returning.standing.stopped caller position
  cases position : pool.callerPc caller with
  | outside => exact absurd position unreturned
  | shutdownTest =>
      by_cases running : pool.isRunning = true
      · have transition : pool.callerStep caller none =
            some (pool.setCaller caller .shutdownStore) := by
          simp [PoolRun.callerStep, position, running]
        exact returning.moves_on transition (if_pos rfl) rfl rfl (by rw [position]; decide)
      · have transition : pool.callerStep caller none =
            some { pool.setCaller caller .outside with shutdownReturned := true } := by
          simp [PoolRun.callerStep, position, running]
        exact returning.moves_on transition (if_pos rfl) rfl rfl (by rw [position]; decide)
  | shutdownStore =>
      have transition : pool.callerStep caller none =
          some { pool.setCaller caller .shutdownNotify with isRunning := false } := by
        simp [PoolRun.callerStep, position]
      exact returning.moves_on transition (if_pos rfl) rfl rfl (by rw [position]; decide)
  | shutdownNotify =>
      -- a worker that is about to sleep holds the mutex: it does so before it is notified
      by_cases held : pool.queueMutex = none
      · have transition : pool.callerStep caller none =
            some (pool.notifyAll.setCaller caller (.shutdownJoin pool.workers)) := by
          simp [PoolRun.callerStep, position]
        refine returning.caller_advances transition ?_ ?_ (.inl ?_)
        · simp [CallerPc.isInShutdown]
        · rintro ⟨toVisit, _, worker, _, _, asleep⟩
          have unparked : pool.workerPc worker ≠ .park := by
            intro parked
            have holds := returning.exclusive.worker worker (by rw [parked]; rfl)
            rw [held] at holds
            cases holds
          simp only [setCaller_workerPc, notifyAll_workerPc] at asleep
          split at asleep
          · cases asleep
          · cases place : pool.workerPc worker <;> simp_all [WorkerPc.isAsleep]
        · simp [position, CallerPc.shutdownRank]
      · exact returning.release (past (by rw [position]; rfl)) held
  | shutdownJoin toVisit =>
      cases toVisit with
      | nil =>
          have transition : pool.callerStep caller none =
              some (pool.setCaller caller .shutdownClear) := by
            simp [PoolRun.callerStep, position]
          exact returning.moves_on transition (if_pos rfl) rfl rfl (by rw [position]; decide)
      | cons worker toVisit => exact returning.join_advances position
  | shutdownClear =>
      by_cases held : pool.queueMutex = none
      · have transition : pool.callerStep caller none =
            some { pool.setCaller caller .outside with
              tasks := []
              popped := pool.popped ++ pool.tasks
              discarded := pool.discarded ++ pool.tasks
              workers := []
              shutdownReturned := true } := by
          simp [PoolRun.callerStep, position, held]
        exact returning.moves_on transition (if_pos rfl) rfl rfl (by rw [position]; decide)
      · exact returning.release (past (by rw [position]; rfl)) held
  | commitTest | commitPush | commitNotify | resizeTest | resizeLoad | resizeStore | resizeSpawn
  | resizeNotify | cleanupLock | cleanupJoin =>
      have inside := returning.inside
      rw [position] at inside
      cases inside

end Returning

/-- In every run, once a thread is in `Shutdown` and no other call has done anything yet: the call
can return without a spurious wake-up if and only if it has not left a worker asleep that it has
still to join. -/
theorem pool_shutdown_can_return_iff (threadNum : Nat) {events : List PoolEvent} {pool : PoolRun}
    (executed : poolMachine.AnyRun (.start threadNum) events pool) {caller : CallerId}
    (inside : (pool.callerPc caller).isInShutdown = true) (alone : pool.Alone caller) :
    poolMachine.Reaches PoolEvent.Notified pool (fun final => final.callerPc caller = .outside) ↔
      ¬ pool.LeftAsleep caller := by
  obtain ⟨exclusive, standing⟩ := executed.invariant
    (fun pool => Exclusive pool ∧ Standing pool) ⟨.start threadNum, .start threadNum⟩
    fun _ _ _ sound _ transition =>
      ⟨sound.1.step (poolStep_cases transition), sound.2.step (poolStep_cases transition)⟩
  constructor
  · intro reaches left
    refine Machine.not_reaches_of_kept
      (fun _ _ _ (holds : Standing _ ∧ PoolRun.LeftAsleep _ caller ∧ PoolRun.Alone _ caller)
          notified transition =>
        ⟨holds.1.step (poolStep_cases transition),
          holds.2.1.step holds.1 holds.2.2 notified transition⟩)
      (fun _ holds outside => ?_) ⟨standing, left, alone⟩ reaches
    obtain ⟨_, joining, _⟩ := holds.2.1
    rw [joining] at outside
    cases outside
  · intro heard
    have returning : Returning caller pool := ⟨exclusive, standing, alone, inside, heard⟩
    exact ((Returning.advances caller).reaches returning).trans fun _ reached => .refl reached.2

/-- The only worker finds the queue empty, and `Shutdown` stores and notifies before it has gone
to sleep. -/
def unheardShutdown : List PoolEvent :=
  [.worker 0, .worker 0, .worker 0, .worker 0, .shutdown 0, .caller 0 none, .caller 0 none,
    .caller 0 none]

/-- The pool's `Shutdown` can hang. -/
theorem unheardShutdown_hangs : ∃ pool,
    poolMachine.exec (.start 1) unheardShutdown = some pool ∧
      ¬ poolMachine.Reaches PoolEvent.Notified pool
        (fun final => final.callerPc 0 = .outside) := by
  refine ⟨_, rfl, fun reaches => ?_⟩
  refine (@pool_shutdown_can_return_iff 1 unheardShutdown _ (Machine.run_of_exec rfl) 0 rfl
    fun other apart => ?_).mp reaches ⟨[0], rfl, 0, List.mem_singleton_self 0, rfl, rfl⟩
  simp [apart, start, CallerPc.isAtDoor]

end TurboCore.Base
