import Mathlib
import TurboCore.Foundation.Execution

/-!
# The thread pool

`ThreadPool` under an arbitrary schedule. Each step of a thread is one atomic
access of the source: a test of the flags, taking `m_queue_mutex`, one `join`.
Code that holds the mutex and touches nothing else that other threads read is one
step. A worker is where it stands in `WorkerLoop`, a caller is where it stands in
`Commit`, `Resize`, `Shutdown` or `CleanupExitedThreads`.
-/

namespace TurboCore.Base

open Foundation

abbrev WorkerId := Nat

abbrev CallerId := Nat

/-- A committed task, by the identity of its `packaged_task`. -/
abbrev Task := Nat

/-- Where a thread stands in `WorkerLoop`. -/
inductive WorkerPc where
  | notStarted
  /-- `while (m_is_running.load() || !m_tasks.empty())` -/
  | loopTest
  /-- `if (m_workers.size() > m_target_thread_num.load())` -/
  | shrinkTest
  /-- `std::unique_lock<std::mutex> lock(m_queue_mutex)` -/
  | lockQueue
  /-- inside `m_cv.wait`, holding the mutex, before the predicate -/
  | waitTest
  /-- the predicate was false: about to give up the mutex and sleep, in one step -/
  | park
  /-- asleep on `m_cv` -/
  | waiting
  /-- awake again, about to take the mutex back -/
  | woken
  /-- after `m_cv.wait`, holding the mutex -/
  | takeTask
  | process (task : Task)
  /-- left `WorkerLoop`, by the shrink test or by one of the other two exits -/
  | exited (forShrink : Bool)
deriving DecidableEq

namespace WorkerPc

/-- The thread runs and has not left `WorkerLoop`. -/
def inLoop : WorkerPc → Bool
  | notStarted | exited _ => false
  | _ => true

/-- The thread needs `m_queue_mutex` or a notification on `m_cv` to go on. -/
def isBlocked : WorkerPc → Bool
  | lockQueue | waiting | woken => true
  | _ => false

/-- The thread holds `m_queue_mutex`. -/
def holdsMutex : WorkerPc → Bool
  | waitTest | park | takeTask => true
  | _ => false

def hasExited : WorkerPc → Bool
  | exited _ => true
  | _ => false

end WorkerPc

/-- The call that a `CleanupExitedThreads` is part of. -/
inductive CleanupCall where
  | commit (task : Task)
  | resize
deriving DecidableEq

/-- What the call hands back when its cleanup is done. -/
def CleanupCall.futures : CleanupCall → List Task
  | .commit task => [task]
  | .resize => []

/-- Where a calling thread stands in the pool's interface. -/
inductive CallerPc where
  | outside
  | commitTest (task : Task)
  | commitPush (task : Task)
  | commitNotify (task : Task)
  | resizeTest (newThreadNum : Nat)
  | resizeLoad (newThreadNum : Nat)
  | resizeStore (newThreadNum oldThreadNum : Nat)
  | resizeSpawn (addNum : Nat)
  | resizeNotify (removeNum : Nat)
  | cleanupLock (call : CleanupCall)
  /-- in `remove_if`, holding the mutex: the threads still to visit and those to remove -/
  | cleanupJoin (call : CleanupCall) (toVisit removed : List WorkerId)
  | shutdownTest
  | shutdownStore
  | shutdownNotify
  | shutdownJoin (toVisit : List WorkerId)
  | shutdownClear
deriving DecidableEq

def CallerPc.isCleanupLock : CallerPc → Bool
  | cleanupLock _ => true
  | _ => false

def CallerPc.isCommitPush : CallerPc → Bool
  | commitPush _ => true
  | _ => false

/-- Who holds `m_queue_mutex`. -/
inductive MutexHolder where
  | worker (worker : WorkerId)
  | caller (caller : CallerId)
deriving DecidableEq

/-- The pool, the positions of all threads, and what happened to each task. -/
structure PoolRun where
  workers : List WorkerId
  tasks : List Task
  isRunning : Bool
  targetThreadNum : Nat
  queueMutex : Option MutexHolder
  /-- the `std::thread` object is no longer joinable -/
  joined : WorkerId → Bool
  started : Nat
  workerPc : WorkerId → WorkerPc
  callerPc : CallerId → CallerPc
  /-- tasks of all `Commit` calls begun -/
  issued : List Task
  /-- tasks put into the queue, in order -/
  pushed : List Task
  /-- tasks taken out of the queue, in order -/
  popped : List Task
  /-- tasks executed to the end, in order -/
  executed : List Task
  /-- tasks that `Shutdown` took out of the queue -/
  discarded : List Task
  /-- tasks whose `Commit` has returned a future -/
  accepted : List Task
  /-- the thread that called `Shutdown`, and whether that call has returned -/
  shutdownCaller : Option CallerId
  shutdownReturned : Bool

namespace PoolRun

/-- A constructed pool of `threadNum` threads. -/
def start (threadNum : Nat) : PoolRun where
  workers := List.range threadNum
  tasks := []
  isRunning := true
  targetThreadNum := threadNum
  queueMutex := none
  joined := fun _ => false
  started := threadNum
  workerPc := fun worker => if worker < threadNum then .loopTest else .notStarted
  callerPc := fun _ => .outside
  issued := []
  pushed := []
  popped := []
  executed := []
  discarded := []
  accepted := []
  shutdownCaller := none
  shutdownReturned := false

@[simps] def setWorker (pool : PoolRun) (worker : WorkerId) (pc : WorkerPc) : PoolRun :=
  { pool with workerPc := fun other => if other = worker then pc else pool.workerPc other }

@[simps] def setCaller (pool : PoolRun) (caller : CallerId) (pc : CallerPc) : PoolRun :=
  { pool with callerPc := fun other => if other = caller then pc else pool.callerPc other }

/-- `m_cv.notify_one()`: wakes a sleeping worker of the schedule's choice, if there is one. -/
def notifyOne (pool : PoolRun) : Option WorkerId → Option PoolRun
  | some worker =>
      if pool.workerPc worker = .waiting then some (pool.setWorker worker .woken) else none
  | none => if ∀ worker < pool.started, pool.workerPc worker ≠ .waiting then some pool else none

/-- `m_cv.notify_all()`. -/
@[simps] def notifyAll (pool : PoolRun) : PoolRun :=
  { pool with
    workerPc := fun worker =>
      if pool.workerPc worker = .waiting then .woken else pool.workerPc worker }

attribute [grind =] setWorker_workers setWorker_tasks setWorker_isRunning setWorker_targetThreadNum
  setWorker_queueMutex setWorker_joined setWorker_started setWorker_workerPc setWorker_callerPc
  setWorker_issued setWorker_pushed setWorker_popped setWorker_executed setWorker_discarded
  setWorker_accepted setWorker_shutdownCaller setWorker_shutdownReturned

attribute [grind =] setCaller_workers setCaller_tasks setCaller_isRunning setCaller_targetThreadNum
  setCaller_queueMutex setCaller_joined setCaller_started setCaller_workerPc setCaller_callerPc
  setCaller_issued setCaller_pushed setCaller_popped setCaller_executed setCaller_discarded
  setCaller_accepted setCaller_shutdownCaller setCaller_shutdownReturned

attribute [grind =] notifyAll_workers notifyAll_tasks notifyAll_isRunning notifyAll_targetThreadNum
  notifyAll_queueMutex notifyAll_joined notifyAll_started notifyAll_workerPc notifyAll_callerPc
  notifyAll_issued notifyAll_pushed notifyAll_popped notifyAll_executed notifyAll_discarded
  notifyAll_accepted notifyAll_shutdownCaller notifyAll_shutdownReturned

/-- One step of a worker in `WorkerLoop`. -/
def workerStep (pool : PoolRun) (worker : WorkerId) : Option PoolRun :=
  match pool.workerPc worker with
  | .notStarted => none
  | .loopTest =>
      if pool.isRunning ∨ pool.tasks ≠ [] then some (pool.setWorker worker .shrinkTest)
      else some (pool.setWorker worker (.exited false))
  | .shrinkTest =>
      if pool.targetThreadNum < pool.workers.length then
        some (pool.setWorker worker (.exited true))
      else some (pool.setWorker worker .lockQueue)
  | .lockQueue =>
      if pool.queueMutex = none then
        some { pool.setWorker worker .waitTest with queueMutex := some (.worker worker) }
      else none
  | .waitTest =>
      if pool.isRunning = false ∨ pool.tasks ≠ [] then some (pool.setWorker worker .takeTask)
      else some (pool.setWorker worker .park)
  | .park => some { pool.setWorker worker .waiting with queueMutex := none }
  | .waiting => none
  | .woken =>
      if pool.queueMutex = none then
        some { pool.setWorker worker .waitTest with queueMutex := some (.worker worker) }
      else none
  | .takeTask =>
      if pool.isRunning = false ∧ pool.tasks = [] then
        some { pool.setWorker worker (.exited false) with queueMutex := none }
      else
        match pool.tasks with
        | [] => none
        | task :: rest =>
            some { pool.setWorker worker (.process task) with
              queueMutex := none
              tasks := rest
              popped := pool.popped ++ [task] }
  | .process task =>
      some { pool.setWorker worker .loopTest with executed := pool.executed ++ [task] }
  | .exited _ => none

/-- One step of a calling thread; `woken` is the schedule's choice in a `notify_one`. -/
def callerStep (pool : PoolRun) (caller : CallerId) (woken : Option WorkerId) :
    Option PoolRun :=
  match pool.callerPc caller with
  | .outside => none
  | .commitTest task =>
      if pool.isRunning then some (pool.setCaller caller (.commitPush task))
      else some (pool.setCaller caller .outside)
  | .commitPush task =>
      if pool.queueMutex = none then
        some { pool.setCaller caller (.commitNotify task) with
          tasks := pool.tasks ++ [task]
          pushed := pool.pushed ++ [task] }
      else none
  | .commitNotify task =>
      (pool.notifyOne woken).map (·.setCaller caller (.cleanupLock (.commit task)))
  | .resizeTest newThreadNum =>
      if pool.isRunning then some (pool.setCaller caller (.resizeLoad newThreadNum))
      else some (pool.setCaller caller .outside)
  | .resizeLoad newThreadNum =>
      if newThreadNum = pool.targetThreadNum then some (pool.setCaller caller .outside)
      else some (pool.setCaller caller (.resizeStore newThreadNum pool.targetThreadNum))
  | .resizeStore newThreadNum oldThreadNum =>
      let stored := { pool with targetThreadNum := newThreadNum }
      if oldThreadNum < newThreadNum then
        some (stored.setCaller caller (.resizeSpawn (newThreadNum - oldThreadNum)))
      else some (stored.setCaller caller (.resizeNotify (oldThreadNum - newThreadNum)))
  | .resizeSpawn 0 => some (pool.setCaller caller (.cleanupLock .resize))
  | .resizeSpawn (addNum + 1) =>
      some { (pool.setWorker pool.started .loopTest).setCaller caller (.resizeSpawn addNum) with
        workers := pool.workers ++ [pool.started]
        started := pool.started + 1 }
  | .resizeNotify 0 => some (pool.setCaller caller (.cleanupLock .resize))
  | .resizeNotify (removeNum + 1) =>
      (pool.notifyOne woken).map (·.setCaller caller (.resizeNotify removeNum))
  | .cleanupLock call =>
      if pool.queueMutex = none then
        some { pool.setCaller caller (.cleanupJoin call pool.workers []) with
          queueMutex := some (.caller caller) }
      else none
  | .cleanupJoin call [] removed =>
      some { pool.setCaller caller .outside with
        queueMutex := none
        workers := pool.workers.filter (· ∉ removed)
        accepted := pool.accepted ++ call.futures }
  | .cleanupJoin call (worker :: toVisit) removed =>
      if pool.joined worker then some (pool.setCaller caller (.cleanupJoin call toVisit removed))
      else if (pool.workerPc worker).hasExited then
        some { pool.setCaller caller (.cleanupJoin call toVisit (worker :: removed)) with
          joined := fun other => if other = worker then true else pool.joined other }
      else none
  | .shutdownTest =>
      if pool.isRunning then some (pool.setCaller caller .shutdownStore)
      else some { pool.setCaller caller .outside with shutdownReturned := true }
  | .shutdownStore => some { pool.setCaller caller .shutdownNotify with isRunning := false }
  | .shutdownNotify => some (pool.notifyAll.setCaller caller (.shutdownJoin pool.workers))
  | .shutdownJoin [] => some (pool.setCaller caller .shutdownClear)
  | .shutdownJoin (worker :: toVisit) =>
      if pool.joined worker then some (pool.setCaller caller (.shutdownJoin toVisit))
      else if (pool.workerPc worker).hasExited then
        some { pool.setCaller caller (.shutdownJoin toVisit) with
          joined := fun other => if other = worker then true else pool.joined other }
      else none
  | .shutdownClear =>
      if pool.queueMutex = none then
        some { pool.setCaller caller .outside with
          tasks := []
          popped := pool.popped ++ pool.tasks
          discarded := pool.discarded ++ pool.tasks
          workers := []
          shutdownReturned := true }
      else none

/-- What a worker's step can be. -/
inductive WorkerStep (pool : PoolRun) (worker : WorkerId) : PoolRun → Prop where
  | enterLoop (position : pool.workerPc worker = .loopTest)
      (more : pool.isRunning = true ∨ pool.tasks ≠ []) :
      WorkerStep pool worker (pool.setWorker worker .shrinkTest)
  | leaveLoop (position : pool.workerPc worker = .loopTest)
      (stopped : pool.isRunning = false) (drained : pool.tasks = []) :
      WorkerStep pool worker (pool.setWorker worker (.exited false))
  | shrink (position : pool.workerPc worker = .shrinkTest)
      (surplus : pool.targetThreadNum < pool.workers.length) :
      WorkerStep pool worker (pool.setWorker worker (.exited true))
  | keepOn (position : pool.workerPc worker = .shrinkTest)
      (needed : pool.workers.length ≤ pool.targetThreadNum) :
      WorkerStep pool worker (pool.setWorker worker .lockQueue)
  | lock (position : pool.workerPc worker = .lockQueue ∨ pool.workerPc worker = .woken)
      (free : pool.queueMutex = none) :
      WorkerStep pool worker
        { pool.setWorker worker .waitTest with queueMutex := some (.worker worker) }
  | ready (position : pool.workerPc worker = .waitTest)
      (predicate : pool.isRunning = false ∨ pool.tasks ≠ []) :
      WorkerStep pool worker (pool.setWorker worker .takeTask)
  | idle (position : pool.workerPc worker = .waitTest)
      (running : pool.isRunning = true) (empty : pool.tasks = []) :
      WorkerStep pool worker (pool.setWorker worker .park)
  | sleep (position : pool.workerPc worker = .park) :
      WorkerStep pool worker { pool.setWorker worker .waiting with queueMutex := none }
  | leaveWait (position : pool.workerPc worker = .takeTask)
      (stopped : pool.isRunning = false) (drained : pool.tasks = []) :
      WorkerStep pool worker { pool.setWorker worker (.exited false) with queueMutex := none }
  | take (task : Task) (rest : List Task) (position : pool.workerPc worker = .takeTask)
      (queued : pool.tasks = task :: rest) :
      WorkerStep pool worker
        { pool.setWorker worker (.process task) with
          queueMutex := none
          tasks := rest
          popped := pool.popped ++ [task] }
  | finish (task : Task) (position : pool.workerPc worker = .process task) :
      WorkerStep pool worker
        { pool.setWorker worker .loopTest with executed := pool.executed ++ [task] }

theorem workerStep_cases {pool next : PoolRun} {worker : WorkerId}
    (transition : pool.workerStep worker = some next) : WorkerStep pool worker next := by
  unfold workerStep at transition
  split at transition
  case h_1 => cases transition
  case h_2 position =>
    split at transition
    · next more => cases transition; exact .enterLoop position more
    · next last =>
        simp only [not_or, Bool.not_eq_true, not_not] at last
        cases transition
        exact .leaveLoop position last.1 last.2
  case h_3 position =>
    split at transition
    · next surplus => cases transition; exact .shrink position surplus
    · next needed => cases transition; exact .keepOn position (Nat.le_of_not_lt needed)
  case h_4 position =>
    split at transition
    · next free => cases transition; exact .lock (.inl position) free
    · cases transition
  case h_5 position =>
    split at transition
    · next predicate => cases transition; exact .ready position predicate
    · next nothing =>
        simp only [not_or, Bool.not_eq_false, not_not] at nothing
        cases transition
        exact .idle position nothing.1 nothing.2
  case h_6 position => cases transition; exact .sleep position
  case h_7 => cases transition
  case h_8 position =>
    split at transition
    · next free => cases transition; exact .lock (.inr position) free
    · cases transition
  case h_9 position =>
    split at transition
    · next last => cases transition; exact .leaveWait position last.1 last.2
    · split at transition
      · cases transition
      · next task rest queued => cases transition; exact .take task rest position queued
  case h_10 task position => cases transition; exact .finish task position
  case h_11 => cases transition

/-- What a notification can change: one sleeping worker is awake, or nothing. -/
theorem notifyOne_cases {pool next : PoolRun} {woken : Option WorkerId}
    (notified : pool.notifyOne woken = some next) :
    next = pool ∨ ∃ worker, pool.workerPc worker = .waiting ∧
      next = pool.setWorker worker .woken := by
  cases woken with
  | none =>
      simp only [notifyOne, Option.ite_none_right_eq_some, Option.some.injEq] at notified
      exact .inl notified.2.symm
  | some worker =>
      simp only [notifyOne, Option.ite_none_right_eq_some, Option.some.injEq] at notified
      exact .inr ⟨worker, notified.1, notified.2.symm⟩

/-- What a calling thread's step can be. -/
inductive CallerStep (pool : PoolRun) (caller : CallerId) : PoolRun → Prop where
  /-- a refused or finished `Commit` or `Resize`, before any cleanup -/
  | giveUp (position : (∃ task, pool.callerPc caller = .commitTest task ∧
        pool.isRunning = false) ∨ (∃ newThreadNum, pool.callerPc caller = .resizeTest newThreadNum)
        ∨ ∃ newThreadNum, pool.callerPc caller = .resizeLoad newThreadNum) :
      CallerStep pool caller (pool.setCaller caller .outside)
  | pass (task : Task) (position : pool.callerPc caller = .commitTest task)
      (running : pool.isRunning = true) :
      CallerStep pool caller (pool.setCaller caller (.commitPush task))
  | push (task : Task) (position : pool.callerPc caller = .commitPush task)
      (free : pool.queueMutex = none) :
      CallerStep pool caller
        { pool.setCaller caller (.commitNotify task) with
          tasks := pool.tasks ++ [task]
          pushed := pool.pushed ++ [task] }
  | notify (task : Task) (notified : PoolRun)
      (position : pool.callerPc caller = .commitNotify task)
      (woken : notified = pool ∨ ∃ worker, pool.workerPc worker = .waiting ∧
        notified = pool.setWorker worker .woken) :
      CallerStep pool caller (notified.setCaller caller (.cleanupLock (.commit task)))
  /-- a step of `Resize` that only moves on -/
  | resizeOn (target : CallerPc) (position : (∃ newThreadNum,
        pool.callerPc caller = .resizeTest newThreadNum ∧ target = .resizeLoad newThreadNum) ∨
        (∃ newThreadNum oldThreadNum, pool.callerPc caller = .resizeLoad newThreadNum ∧
          target = .resizeStore newThreadNum oldThreadNum) ∨
        ((pool.callerPc caller = .resizeSpawn 0 ∨ pool.callerPc caller = .resizeNotify 0) ∧
          target = .cleanupLock .resize)) :
      CallerStep pool caller (pool.setCaller caller target)
  | store (newThreadNum oldThreadNum : Nat) (target : CallerPc)
      (position : pool.callerPc caller = .resizeStore newThreadNum oldThreadNum)
      (change : target = .resizeSpawn (newThreadNum - oldThreadNum) ∨
        target = .resizeNotify (oldThreadNum - newThreadNum)) :
      CallerStep pool caller
        ({ pool with targetThreadNum := newThreadNum }.setCaller caller target)
  | spawn (addNum : Nat) (position : pool.callerPc caller = .resizeSpawn (addNum + 1)) :
      CallerStep pool caller
        { (pool.setWorker pool.started .loopTest).setCaller caller (.resizeSpawn addNum) with
          workers := pool.workers ++ [pool.started]
          started := pool.started + 1 }
  | resizeWake (removeNum : Nat) (notified : PoolRun)
      (position : pool.callerPc caller = .resizeNotify (removeNum + 1))
      (woken : notified = pool ∨ ∃ worker, pool.workerPc worker = .waiting ∧
        notified = pool.setWorker worker .woken) :
      CallerStep pool caller (notified.setCaller caller (.resizeNotify removeNum))
  | lockCleanup (call : CleanupCall) (position : pool.callerPc caller = .cleanupLock call)
      (free : pool.queueMutex = none) :
      CallerStep pool caller
        { pool.setCaller caller (.cleanupJoin call pool.workers []) with
          queueMutex := some (.caller caller) }
  | erase (call : CleanupCall) (removed : List WorkerId)
      (position : pool.callerPc caller = .cleanupJoin call [] removed) :
      CallerStep pool caller
        { pool.setCaller caller .outside with
          queueMutex := none
          workers := pool.workers.filter (· ∉ removed)
          accepted := pool.accepted ++ call.futures }
  | skip (call : CleanupCall) (worker : WorkerId) (toVisit removed : List WorkerId)
      (position : pool.callerPc caller = .cleanupJoin call (worker :: toVisit) removed)
      (joined : pool.joined worker = true) :
      CallerStep pool caller (pool.setCaller caller (.cleanupJoin call toVisit removed))
  | join (call : CleanupCall) (worker : WorkerId) (toVisit removed : List WorkerId)
      (position : pool.callerPc caller = .cleanupJoin call (worker :: toVisit) removed)
      (exited : (pool.workerPc worker).hasExited = true) :
      CallerStep pool caller
        { pool.setCaller caller (.cleanupJoin call toVisit (worker :: removed)) with
          joined := fun other => if other = worker then true else pool.joined other }
  | beginShutdown (position : pool.callerPc caller = .shutdownTest)
      (running : pool.isRunning = true) :
      CallerStep pool caller (pool.setCaller caller .shutdownStore)
  | alreadyShutdown (position : pool.callerPc caller = .shutdownTest)
      (stopped : pool.isRunning = false) :
      CallerStep pool caller { pool.setCaller caller .outside with shutdownReturned := true }
  | stop (position : pool.callerPc caller = .shutdownStore) :
      CallerStep pool caller { pool.setCaller caller .shutdownNotify with isRunning := false }
  | wakeAll (position : pool.callerPc caller = .shutdownNotify) :
      CallerStep pool caller (pool.notifyAll.setCaller caller (.shutdownJoin pool.workers))
  | allJoined (position : pool.callerPc caller = .shutdownJoin []) :
      CallerStep pool caller (pool.setCaller caller .shutdownClear)
  | shutdownSkip (worker : WorkerId) (toVisit : List WorkerId)
      (position : pool.callerPc caller = .shutdownJoin (worker :: toVisit))
      (joined : pool.joined worker = true) :
      CallerStep pool caller (pool.setCaller caller (.shutdownJoin toVisit))
  | shutdownJoin (worker : WorkerId) (toVisit : List WorkerId)
      (position : pool.callerPc caller = .shutdownJoin (worker :: toVisit))
      (exited : (pool.workerPc worker).hasExited = true) :
      CallerStep pool caller
        { pool.setCaller caller (.shutdownJoin toVisit) with
          joined := fun other => if other = worker then true else pool.joined other }
  | clear (position : pool.callerPc caller = .shutdownClear) (free : pool.queueMutex = none) :
      CallerStep pool caller
        { pool.setCaller caller .outside with
          tasks := []
          popped := pool.popped ++ pool.tasks
          discarded := pool.discarded ++ pool.tasks
          workers := []
          shutdownReturned := true }

theorem callerStep_cases {pool next : PoolRun} {caller : CallerId} {woken : Option WorkerId}
    (transition : pool.callerStep caller woken = some next) : CallerStep pool caller next := by
  cases position : pool.callerPc caller with
  | outside => simp only [callerStep, position, reduceCtorEq] at transition
  | commitTest task =>
      simp only [callerStep, position] at transition
      split at transition
      · next running => cases transition; exact .pass task position running
      · next stopped =>
          cases transition
          exact .giveUp (.inl ⟨task, position, Bool.not_eq_true _ ▸ stopped⟩)
  | commitPush task =>
      simp only [callerStep, position, Option.ite_none_right_eq_some,
        Option.some.injEq] at transition
      obtain ⟨free, rfl⟩ := transition
      exact .push task position free
  | commitNotify task =>
      simp only [callerStep, position, Option.map_eq_some_iff] at transition
      obtain ⟨notified, woken, rfl⟩ := transition
      exact .notify task notified position (notifyOne_cases woken)
  | resizeTest newThreadNum =>
      simp only [callerStep, position] at transition
      split at transition
      · cases transition; exact .resizeOn _ (.inl ⟨newThreadNum, position, rfl⟩)
      · cases transition; exact .giveUp (.inr (.inl ⟨newThreadNum, position⟩))
  | resizeLoad newThreadNum =>
      simp only [callerStep, position] at transition
      split at transition
      · cases transition; exact .giveUp (.inr (.inr ⟨newThreadNum, position⟩))
      · cases transition; exact .resizeOn _ (.inr (.inl ⟨newThreadNum, _, position, rfl⟩))
  | resizeStore newThreadNum oldThreadNum =>
      simp only [callerStep, position] at transition
      split at transition
      · cases transition; exact .store newThreadNum oldThreadNum _ position (.inl rfl)
      · cases transition; exact .store newThreadNum oldThreadNum _ position (.inr rfl)
  | resizeSpawn addNum =>
      cases addNum with
      | zero =>
          simp only [callerStep, position, Option.some.injEq] at transition
          cases transition
          exact .resizeOn _ (.inr (.inr ⟨.inl position, rfl⟩))
      | succ addNum =>
          simp only [callerStep, position, Option.some.injEq] at transition
          cases transition
          exact .spawn addNum position
  | resizeNotify removeNum =>
      cases removeNum with
      | zero =>
          simp only [callerStep, position, Option.some.injEq] at transition
          cases transition
          exact .resizeOn _ (.inr (.inr ⟨.inr position, rfl⟩))
      | succ removeNum =>
          simp only [callerStep, position, Option.map_eq_some_iff] at transition
          obtain ⟨notified, woken, rfl⟩ := transition
          exact .resizeWake removeNum notified position (notifyOne_cases woken)
  | cleanupLock call =>
      simp only [callerStep, position, Option.ite_none_right_eq_some,
        Option.some.injEq] at transition
      obtain ⟨free, rfl⟩ := transition
      exact .lockCleanup call position free
  | cleanupJoin call toVisit removed =>
      cases toVisit with
      | nil =>
          simp only [callerStep, position, Option.some.injEq] at transition
          cases transition
          exact .erase call removed position
      | cons worker toVisit =>
          simp only [callerStep, position] at transition
          split at transition
          · next joined => cases transition; exact .skip call worker toVisit removed position joined
          · split at transition
            · next exited =>
                cases transition
                exact .join call worker toVisit removed position exited
            · cases transition
  | shutdownTest =>
      simp only [callerStep, position] at transition
      split at transition
      · next running => cases transition; exact .beginShutdown position running
      · next stopped =>
          cases transition
          exact .alreadyShutdown position (Bool.not_eq_true _ ▸ stopped)
  | shutdownStore =>
      simp only [callerStep, position, Option.some.injEq] at transition
      cases transition
      exact .stop position
  | shutdownNotify =>
      simp only [callerStep, position, Option.some.injEq] at transition
      cases transition
      exact .wakeAll position
  | shutdownJoin toVisit =>
      cases toVisit with
      | nil =>
          simp only [callerStep, position, Option.some.injEq] at transition
          cases transition
          exact .allJoined position
      | cons worker toVisit =>
          simp only [callerStep, position] at transition
          split at transition
          · next joined => cases transition; exact .shutdownSkip worker toVisit position joined
          · split at transition
            · next exited => cases transition; exact .shutdownJoin worker toVisit position exited
            · cases transition
  | shutdownClear =>
      simp only [callerStep, position, Option.ite_none_right_eq_some,
        Option.some.injEq] at transition
      obtain ⟨free, rfl⟩ := transition
      exact .clear position free

/-- What no worker's step changes. -/
structure WorkerFrame (pool next : PoolRun) : Prop where
  callerPc : next.callerPc = pool.callerPc
  workers : next.workers = pool.workers
  joined : next.joined = pool.joined
  started : next.started = pool.started
  isRunning : next.isRunning = pool.isRunning
  targetThreadNum : next.targetThreadNum = pool.targetThreadNum
  issued : next.issued = pool.issued
  pushed : next.pushed = pool.pushed
  discarded : next.discarded = pool.discarded
  accepted : next.accepted = pool.accepted
  shutdownCaller : next.shutdownCaller = pool.shutdownCaller
  shutdownReturned : next.shutdownReturned = pool.shutdownReturned

theorem WorkerStep.frame {pool next : PoolRun} {worker : WorkerId}
    (step : WorkerStep pool worker next) : WorkerFrame pool next := by
  cases step <;> constructor <;> rfl

theorem WorkerStep.workerPc_other {pool next : PoolRun} {worker other : WorkerId}
    (step : WorkerStep pool worker next) (different : other ≠ worker) :
    next.workerPc other = pool.workerPc other := by
  cases step <;> exact if_neg different

/-- A worker's step keeps the mutex where it is, takes it, or gives it back. -/
theorem WorkerStep.queueMutex_cases {pool next : PoolRun} {worker : WorkerId}
    (step : WorkerStep pool worker next) :
    (next.queueMutex = pool.queueMutex ∧
      ((next.workerPc worker).holdsMutex = true → (pool.workerPc worker).holdsMutex = true)) ∨
    (pool.queueMutex = none ∧ next.queueMutex = some (.worker worker)) ∨
    ((pool.workerPc worker).holdsMutex = true ∧ next.queueMutex = none ∧
      (next.workerPc worker).holdsMutex = false) := by
  cases step with
  | lock position free => exact .inr (.inl ⟨free, rfl⟩)
  | sleep position | leaveWait position _ _ | take _ _ position _ =>
      exact .inr (.inr ⟨by rw [position]; rfl, rfl, by simp [WorkerPc.holdsMutex]⟩)
  | ready position _ | idle position _ _ =>
      exact .inl ⟨rfl, fun _ => by rw [position]; rfl⟩
  | enterLoop | leaveLoop | shrink | keepOn | finish =>
      refine .inl ⟨rfl, fun held => ?_⟩
      simp [WorkerPc.holdsMutex] at held

theorem CallerStep.callerPc_other {pool next : PoolRun} {caller other : CallerId}
    (step : CallerStep pool caller next) (different : other ≠ caller) :
    next.callerPc other = pool.callerPc other := by
  cases step with
  | notify _ notified _ woken | resizeWake _ notified _ woken =>
      rcases woken with rfl | ⟨worker, _, rfl⟩
      · exact if_neg different
      · exact if_neg different
  | _ => exact if_neg different

/-- A caller wakes sleeping workers and starts new ones; every other worker stays put. -/
theorem CallerStep.workerPc_cases {pool next : PoolRun} {caller : CallerId}
    (step : CallerStep pool caller next) (worker : WorkerId) :
    next.workerPc worker = pool.workerPc worker ∨
    (pool.workerPc worker = .waiting ∧ next.workerPc worker = .woken) ∨
    (worker = pool.started ∧ next.workerPc worker = .loopTest ∧
      ∃ addNum, pool.callerPc caller = .resizeSpawn (addNum + 1)) := by
  cases step with
  | notify _ notified _ woken | resizeWake _ notified _ woken =>
      rcases woken with rfl | ⟨sleeper, asleep, rfl⟩
      · exact .inl rfl
      · by_cases same : worker = sleeper
        · subst same
          exact .inr (.inl ⟨asleep, if_pos rfl⟩)
        · exact .inl (if_neg same)
  | spawn addNum position =>
      by_cases same : worker = pool.started
      · exact .inr (.inr ⟨same, if_pos same, addNum, position⟩)
      · exact .inl (if_neg same)
  | wakeAll _ =>
      by_cases asleep : pool.workerPc worker = .waiting
      · exact .inr (.inl ⟨asleep, if_pos asleep⟩)
      · exact .inl (if_neg asleep)
  | _ => exact .inl rfl

/-- A caller keeps the mutex where it is, takes it for a cleanup, or gives it back after one. -/
theorem CallerStep.queueMutex_cases {pool next : PoolRun} {caller : CallerId}
    (step : CallerStep pool caller next) :
    (next.queueMutex = pool.queueMutex ∧ ∀ call toVisit removed,
      next.callerPc caller = .cleanupJoin call toVisit removed →
      ∃ worker before, pool.callerPc caller = .cleanupJoin call (worker :: toVisit) before ∧
        removed ⊆ worker :: before) ∨
    (pool.queueMutex = none ∧ next.queueMutex = some (.caller caller) ∧
      ∃ call, pool.callerPc caller = .cleanupLock call ∧
        next.callerPc caller = .cleanupJoin call pool.workers []) ∨
    (next.queueMutex = none ∧ next.callerPc caller = .outside ∧
      ∃ call removed, pool.callerPc caller = .cleanupJoin call [] removed) := by
  cases step with
  | lockCleanup call position free =>
      exact .inr (.inl ⟨free, rfl, call, position, if_pos rfl⟩)
  | erase call removed position => exact .inr (.inr ⟨rfl, if_pos rfl, call, removed, position⟩)
  | notify _ notified _ woken | resizeWake _ notified _ woken =>
      rcases woken with rfl | ⟨worker, _, rfl⟩
      · exact .inl ⟨rfl, by simp⟩
      · exact .inl ⟨rfl, by simp⟩
  | skip call worker toVisit removed position _ =>
      refine .inl ⟨rfl, fun _ _ _ now => ?_⟩
      simp only [setCaller_callerPc, if_true, CallerPc.cleanupJoin.injEq] at now
      obtain ⟨rfl, rfl, rfl⟩ := now
      exact ⟨worker, _, position, List.subset_cons_self _ _⟩
  | join call worker toVisit removed position _ =>
      refine .inl ⟨rfl, fun _ _ _ now => ?_⟩
      simp only [setCaller_callerPc, if_true, CallerPc.cleanupJoin.injEq] at now
      obtain ⟨rfl, rfl, rfl⟩ := now
      exact ⟨worker, _, position, List.Subset.refl _⟩
  | resizeOn target position =>
      rcases position with ⟨_, _, rfl⟩ | ⟨_, _, _, rfl⟩ | ⟨_, rfl⟩ <;> exact .inl ⟨rfl, by simp⟩
  | store _ _ target _ change =>
      rcases change with rfl | rfl <;> exact .inl ⟨rfl, by simp⟩
  | _ => exact .inl ⟨rfl, by simp⟩

end PoolRun

/-- What the schedule does next. -/
inductive PoolEvent where
  | commit (caller : CallerId) (task : Task)
  | resize (caller : CallerId) (newThreadNum : Nat)
  | shutdown (caller : CallerId)
  | caller (caller : CallerId) (woken : Option WorkerId)
  | worker (worker : WorkerId)
  /-- a wake-up of `m_cv` without a notification -/
  | spurious (worker : WorkerId)

/-- All threads of a pool; a thread makes one call at a time, and every `Commit`
has a task of its own. -/
def poolMachine : Machine PoolRun PoolEvent where
  step pool
    | .commit caller task =>
        if pool.callerPc caller = .outside ∧ task ∉ pool.issued then
          some { pool.setCaller caller (.commitTest task) with issued := task :: pool.issued }
        else none
    | .resize caller newThreadNum =>
        if pool.callerPc caller = .outside then
          some (pool.setCaller caller (.resizeTest newThreadNum))
        else none
    | .shutdown caller =>
        if pool.callerPc caller = .outside then
          some { pool.setCaller caller .shutdownTest with shutdownCaller := some caller }
        else none
    | .caller caller woken => pool.callerStep caller woken
    | .worker worker => pool.workerStep worker
    | .spurious worker =>
        if pool.workerPc worker = .waiting then some (pool.setWorker worker .woken) else none

/-- What a step of the machine can be. -/
inductive PoolStep (pool : PoolRun) : PoolEvent → PoolRun → Prop where
  | commit (caller : CallerId) (task : Task) (idle : pool.callerPc caller = .outside)
      (fresh : task ∉ pool.issued) :
      PoolStep pool (.commit caller task)
        { pool.setCaller caller (.commitTest task) with issued := task :: pool.issued }
  | resize (caller : CallerId) (newThreadNum : Nat) (idle : pool.callerPc caller = .outside) :
      PoolStep pool (.resize caller newThreadNum)
        (pool.setCaller caller (.resizeTest newThreadNum))
  | shutdown (caller : CallerId) (idle : pool.callerPc caller = .outside) :
      PoolStep pool (.shutdown caller)
        { pool.setCaller caller .shutdownTest with shutdownCaller := some caller }
  | caller (caller : CallerId) (woken : Option WorkerId) (next : PoolRun)
      (step : pool.CallerStep caller next) : PoolStep pool (.caller caller woken) next
  | worker (worker : WorkerId) (next : PoolRun) (step : pool.WorkerStep worker next) :
      PoolStep pool (.worker worker) next
  | spurious (worker : WorkerId) (asleep : pool.workerPc worker = .waiting) :
      PoolStep pool (.spurious worker) (pool.setWorker worker .woken)

theorem poolStep_cases {pool next : PoolRun} {event : PoolEvent}
    (transition : poolMachine.step pool event = some next) : PoolStep pool event next := by
  cases event with
  | commit caller task =>
      simp only [poolMachine, Option.ite_none_right_eq_some, Option.some.injEq] at transition
      obtain ⟨⟨idle, fresh⟩, rfl⟩ := transition
      exact .commit caller task idle fresh
  | resize caller newThreadNum =>
      simp only [poolMachine, Option.ite_none_right_eq_some, Option.some.injEq] at transition
      obtain ⟨idle, rfl⟩ := transition
      exact .resize caller newThreadNum idle
  | shutdown caller =>
      simp only [poolMachine, Option.ite_none_right_eq_some, Option.some.injEq] at transition
      obtain ⟨idle, rfl⟩ := transition
      exact .shutdown caller idle
  | caller caller woken => exact .caller caller woken next (PoolRun.callerStep_cases transition)
  | worker worker => exact .worker worker next (PoolRun.workerStep_cases transition)
  | spurious worker =>
      simp only [poolMachine, Option.ite_none_right_eq_some, Option.some.injEq] at transition
      obtain ⟨asleep, rfl⟩ := transition
      exact .spurious worker asleep

end TurboCore.Base
