import Mathlib
import TurboCore.Base.ThreadPool

/-!
# What becomes of a committed task

Runs with any number of `Commit` calls and one `Shutdown`. A task is queued, in a
worker's hands, executed, or thrown away by `Shutdown`, and never twice. It is
executed before `Shutdown` returns exactly when some worker was still in its loop at
the moment the task was put into the queue.
-/

namespace TurboCore.Base

open Foundation PoolRun

/-- No `Resize` is called, and `Shutdown` at most once. -/
def OneShutdown (pool : PoolRun) : PoolEvent → Prop
  | .resize _ _ => False
  | .shutdown _ => pool.shutdownCaller = none
  | _ => True

instance (pool : PoolRun) : (event : PoolEvent) → Decidable (OneShutdown pool event)
  | .resize _ _ => .isFalse id
  | .shutdown _ => inferInstanceAs (Decidable (pool.shutdownCaller = none))
  | .commit _ _ | .caller _ _ | .worker _ | .spurious _ => .isTrue trivial

/-- Some worker of the pool has not left its loop. -/
def PoolRun.Attended (pool : PoolRun) : Prop :=
  ∃ worker ∈ pool.workers, (pool.workerPc worker).inLoop = true

instance (pool : PoolRun) : Decidable pool.Attended :=
  inferInstanceAs (Decidable (∃ worker ∈ pool.workers, _))

/-- A task is put into the queue only while some worker has not left its loop. -/
def PushesAttended (pool : PoolRun) : PoolEvent → Prop
  | .caller caller _ => (pool.callerPc caller).isCommitPush = true → pool.Attended
  | _ => True

instance (pool : PoolRun) : (event : PoolEvent) → Decidable (PushesAttended pool event)
  | .caller caller _ =>
      inferInstanceAs (Decidable ((pool.callerPc caller).isCommitPush = true → _))
  | .commit _ _ | .resize _ _ | .shutdown _ | .worker _ | .spurious _ => .isTrue trivial

/-- No task is executed twice; an accepted task is queued, in a worker's hands or executed,
and never thrown away; and each has been executed when `Shutdown` has returned. -/
structure Graceful (pool : PoolRun) : Prop where
  once : ∀ task, pool.executed.count task ≤ 1
  held : ∀ task ∈ pool.accepted, task ∈ pool.tasks ∨
    (∃ worker, pool.workerPc worker = .process task) ∨ task ∈ pool.executed
  kept : ∀ task ∈ pool.accepted, task ∉ pool.discarded
  done : pool.shutdownReturned = true → ∀ task ∈ pool.accepted, pool.executed.count task = 1

/-- `Shutdown` and every other call have returned. -/
def Settled (pool : PoolRun) : Prop :=
  pool.shutdownReturned = true ∧ ∀ caller, pool.callerPc caller = .outside

/-- The task of a `Commit` that has not put it into the queue yet. -/
def CallerPc.unpushed : CallerPc → Option Task
  | commitTest task | commitPush task => some task
  | _ => none

/-- The task of a `Commit` that has put it into the queue and not returned yet. -/
def CallerPc.unreturned : CallerPc → Option Task
  | commitNotify task | cleanupLock (.commit task) | cleanupJoin (.commit task) _ _ => some task
  | _ => none

/-- Inside `Resize`. -/
def CallerPc.inResize : CallerPc → Bool
  | resizeTest _ | resizeLoad _ | resizeStore _ _ | resizeSpawn _ | resizeNotify _ => true
  | _ => false

/-- Inside `Shutdown`. -/
def CallerPc.inShutdown : CallerPc → Bool
  | shutdownTest | shutdownStore | shutdownNotify | shutdownJoin _ | shutdownClear => true
  | _ => false

/-- Without `Resize` a caller's step only wakes sleeping workers. -/
theorem PoolRun.CallerStep.workerPc_of_not_inResize {pool next : PoolRun} {caller : CallerId}
    (step : CallerStep pool caller next) (outside : (pool.callerPc caller).inResize = false)
    (worker : WorkerId) :
    next.workerPc worker = pool.workerPc worker ∨
      (pool.workerPc worker = .waiting ∧ next.workerPc worker = .woken) := by
  rcases step.workerPc_cases worker with same | woken | ⟨_, _, addNum, position⟩
  · exact .inl same
  · exact .inr woken
  · rw [position] at outside
    cases outside

/-- What a worker's step does to the tasks: it takes one, finishes one, or neither. -/
theorem PoolRun.WorkerStep.tasks_cases {pool next : PoolRun} {worker : WorkerId}
    (step : WorkerStep pool worker next) :
    (∃ task, pool.tasks = task :: next.tasks ∧ next.popped = pool.popped ++ [task] ∧
      next.executed = pool.executed ∧ next.workerPc worker = .process task ∧
      ∀ other, pool.workerPc worker ≠ .process other) ∨
    (∃ task, pool.workerPc worker = .process task ∧ next.workerPc worker = .loopTest ∧
      next.tasks = pool.tasks ∧ next.popped = pool.popped ∧
      next.executed = pool.executed ++ [task]) ∨
    (next.tasks = pool.tasks ∧ next.popped = pool.popped ∧ next.executed = pool.executed ∧
      ∀ task, pool.workerPc worker ≠ .process task ∧ next.workerPc worker ≠ .process task) := by
  cases step with
  | take task rest position queued =>
      exact .inl ⟨task, queued, rfl, rfl, if_pos rfl, fun other => by rw [position]; simp⟩
  | finish task position => exact .inr (.inl ⟨task, position, if_pos rfl, rfl, rfl, rfl⟩)
  | lock position _ =>
      refine .inr (.inr ⟨rfl, rfl, rfl, fun task => ⟨?_, by simp⟩⟩)
      rcases position with position | position <;> rw [position] <;> simp
  | enterLoop position _ | leaveLoop position _ _ | shrink position _ | keepOn position _
  | ready position _ | idle position _ _ | sleep position | leaveWait position _ _ =>
      exact .inr (.inr ⟨rfl, rfl, rfl, fun task => ⟨by rw [position]; simp, by simp⟩⟩)

/-- What a caller's step does to the tasks: it queues one, clears the queue, or neither. -/
theorem PoolRun.CallerStep.tasks_cases {pool next : PoolRun} {caller : CallerId}
    (step : CallerStep pool caller next) :
    (∃ task, pool.callerPc caller = .commitPush task ∧
      next.callerPc caller = .commitNotify task ∧ next.tasks = pool.tasks ++ [task] ∧
      next.pushed = pool.pushed ++ [task] ∧ next.popped = pool.popped ∧
      next.discarded = pool.discarded) ∨
    (pool.callerPc caller = .shutdownClear ∧ next.callerPc caller = .outside ∧ next.tasks = [] ∧
      next.pushed = pool.pushed ∧ next.popped = pool.popped ++ pool.tasks ∧
      next.discarded = pool.discarded ++ pool.tasks) ∨
    (next.tasks = pool.tasks ∧ next.pushed = pool.pushed ∧ next.popped = pool.popped ∧
      next.discarded = pool.discarded ∧
      ∀ task, (next.callerPc caller).unpushed = some task →
        (pool.callerPc caller).unpushed = some task) := by
  cases step with
  | push task position _ => exact .inl ⟨task, position, if_pos rfl, rfl, rfl, rfl, rfl⟩
  | clear position _ => exact .inr (.inl ⟨position, if_pos rfl, rfl, rfl, rfl, rfl⟩)
  | pass task position _ =>
      refine .inr (.inr ⟨rfl, rfl, rfl, rfl, fun other now => ?_⟩)
      simpa [position, CallerPc.unpushed] using now
  | notify _ notified _ woken | resizeWake _ notified _ woken =>
      rcases woken with rfl | ⟨worker, _, rfl⟩
      · exact .inr (.inr ⟨rfl, rfl, rfl, rfl, by simp [CallerPc.unpushed]⟩)
      · exact .inr (.inr ⟨rfl, rfl, rfl, rfl, by simp [CallerPc.unpushed]⟩)
  | resizeOn target position =>
      rcases position with ⟨_, _, rfl⟩ | ⟨_, _, _, rfl⟩ | ⟨_, rfl⟩ <;>
        exact .inr (.inr ⟨rfl, rfl, rfl, rfl, by simp [CallerPc.unpushed]⟩)
  | store _ _ target _ change =>
      rcases change with rfl | rfl <;>
        exact .inr (.inr ⟨rfl, rfl, rfl, rfl, by simp [CallerPc.unpushed]⟩)
  | _ => exact .inr (.inr ⟨rfl, rfl, rfl, rfl, by simp [CallerPc.unpushed]⟩)

theorem PoolRun.CallerStep.executed_eq {pool next : PoolRun} {caller : CallerId}
    (step : CallerStep pool caller next) :
    next.executed = pool.executed ∧ next.issued = pool.issued := by
  cases step with
  | notify _ notified _ woken | resizeWake _ notified _ woken =>
      rcases woken with rfl | ⟨worker, _, rfl⟩
      · exact ⟨rfl, rfl⟩
      · exact ⟨rfl, rfl⟩
  | _ => exact ⟨rfl, rfl⟩

/-- The queue holds the pushed tasks in order, and every task is pushed once. -/
structure Queued (pool : PoolRun) : Prop where
  queue : pool.pushed = pool.popped ++ pool.tasks
  distinct : pool.pushed.Nodup
  issued : ∀ task ∈ pool.pushed, task ∈ pool.issued
  unpushed : ∀ caller task, (pool.callerPc caller).unpushed = some task →
    task ∈ pool.issued ∧ task ∉ pool.pushed
  owner : ∀ first second task, (pool.callerPc first).unpushed = some task →
    (pool.callerPc second).unpushed = some task → first = second

/-- A popped task is in one worker's hands, or executed, or thrown away. -/
structure Conserved (pool : PoolRun) : Prop extends Queued pool where
  processed : ∀ worker task, pool.workerPc worker = .process task →
    task ∈ pool.popped ∧ task ∉ pool.executed ∧ task ∉ pool.discarded
  single : ∀ first second task, pool.workerPc first = .process task →
    pool.workerPc second = .process task → first = second
  executed : pool.executed.Nodup ∧
    ∀ task ∈ pool.executed, task ∈ pool.popped ∧ task ∉ pool.discarded
  discarded : ∀ task ∈ pool.discarded, task ∈ pool.popped
  taken : ∀ task ∈ pool.popped, task ∈ pool.executed ∨ task ∈ pool.discarded ∨
    ∃ worker, pool.workerPc worker = .process task

theorem Conserved.start (threadNum : Nat) : Conserved (.start threadNum) := by
  have nobody : ∀ worker task, (PoolRun.start threadNum).workerPc worker ≠ .process task := by
    intro worker task
    simp only [PoolRun.start]
    split <;> simp
  refine ⟨⟨rfl, List.nodup_nil, ?_, ?_, ?_⟩, ?_, ?_, ⟨List.nodup_nil, ?_⟩, ?_, ?_⟩
  · intro task member
    cases member
  · intro caller task position
    cases position
  · intro first second task position
    cases position
  · intro worker task position
    exact absurd position (nobody worker task)
  · intro first second task position
    exact absurd position (nobody first task)
  · intro task member
    cases member
  · intro task member
    cases member
  · intro task member
    cases member

/-- A queued task has not been popped. -/
theorem Queued.not_popped {pool : PoolRun} (queued : Queued pool) {task : Task}
    (member : task ∈ pool.tasks) : task ∉ pool.popped := by
  intro popped
  have distinct := queued.distinct
  rw [queued.queue] at distinct
  exact (List.nodup_append.mp distinct).2.2 task popped task member rfl

/-- Nothing is pushed, and no call takes up a task. -/
theorem Queued.of_unpushed {pool next : PoolRun} (queued : Queued pool)
    (pushed : next.pushed = pool.pushed)
    (queue : next.popped ++ next.tasks = pool.popped ++ pool.tasks)
    (issued : next.issued = pool.issued)
    (unpushed : ∀ caller task, (next.callerPc caller).unpushed = some task →
      (pool.callerPc caller).unpushed = some task) : Queued next where
  queue := by rw [pushed, queue, queued.queue]
  distinct := pushed ▸ queued.distinct
  issued := by
    rw [pushed, issued]
    exact queued.issued
  unpushed caller task position := by
    rw [issued, pushed]
    exact queued.unpushed caller task (unpushed caller task position)
  owner first second task firstPosition secondPosition :=
    queued.owner first second task (unpushed first task firstPosition)
      (unpushed second task secondPosition)

/-- A task that no other call commits goes to the end of the queue. -/
theorem Queued.push {pool next : PoolRun} (queued : Queued pool) {caller : CallerId} {task : Task}
    (before : (pool.callerPc caller).unpushed = some task)
    (now : (next.callerPc caller).unpushed = none)
    (others : ∀ other, other ≠ caller → next.callerPc other = pool.callerPc other)
    (tasks : next.tasks = pool.tasks ++ [task]) (pushed : next.pushed = pool.pushed ++ [task])
    (popped : next.popped = pool.popped) (issued : next.issued = pool.issued) : Queued next := by
  obtain ⟨known, fresh⟩ := queued.unpushed caller task before
  have elsewhere : ∀ {other found}, (next.callerPc other).unpushed = some found →
      other ≠ caller ∧ (pool.callerPc other).unpushed = some found := by
    intro other found position
    have different : other ≠ caller := by
      rintro rfl
      rw [now] at position
      cases position
    exact ⟨different, others other different ▸ position⟩
  constructor
  · rw [pushed, popped, tasks, queued.queue, List.append_assoc]
  · rw [pushed]
    exact queued.distinct.append (List.nodup_singleton task) (by simpa using fresh)
  · intro found member
    rw [pushed] at member
    rw [issued]
    rcases List.mem_append.mp member with earlier | last
    · exact queued.issued found earlier
    · exact List.mem_singleton.mp last ▸ known
  · intro other found position
    obtain ⟨different, held⟩ := elsewhere position
    have apart : found ≠ task := by
      rintro rfl
      exact different (queued.owner other caller found held before)
    obtain ⟨foundIssued, foundFresh⟩ := queued.unpushed other found held
    rw [issued, pushed]
    exact ⟨foundIssued, by simp [foundFresh, apart]⟩
  · intro first second found firstPosition secondPosition
    exact queued.owner first second found (elsewhere firstPosition).2 (elsewhere secondPosition).2

/-- The tasks that are popped stay where they are. -/
theorem Conserved.of_hands {pool next : PoolRun} (conserved : Conserved pool)
    (queued : Queued next)
    (hands : ∀ worker task,
      next.workerPc worker = .process task ↔ pool.workerPc worker = .process task)
    (popped : next.popped = pool.popped) (executed : next.executed = pool.executed)
    (discarded : next.discarded = pool.discarded) : Conserved next where
  toQueued := queued
  processed := by simpa only [hands, popped, executed, discarded] using conserved.processed
  single := by simpa only [hands] using conserved.single
  executed := by simpa only [popped, executed, discarded] using conserved.executed
  discarded := by simpa only [popped, discarded] using conserved.discarded
  taken := by simpa only [hands, popped, executed, discarded] using conserved.taken

theorem Conserved.workerStep {pool next : PoolRun} {worker : WorkerId}
    (conserved : Conserved pool) (step : WorkerStep pool worker next) : Conserved next := by
  have frame := step.frame
  have others : ∀ other, other ≠ worker → next.workerPc other = pool.workerPc other :=
    fun other different => step.workerPc_other different
  have whole := conserved
  have queued := conserved.toQueued
  obtain ⟨_, processed, single, executed, discarded, taken⟩ := conserved
  have queueKept : next.popped ++ next.tasks = pool.popped ++ pool.tasks := by
    rcases step.tasks_cases with ⟨task, head, popped, _⟩ | ⟨_, _, _, sameTasks, popped, _⟩ |
      ⟨sameTasks, popped, _⟩
    · rw [head, popped, List.append_assoc, List.singleton_append]
    · rw [sameTasks, popped]
    · rw [sameTasks, popped]
  have queuedNext : Queued next := queued.of_unpushed frame.pushed queueKept frame.issued
    fun caller task position => frame.callerPc ▸ position
  rcases step.tasks_cases with ⟨task, head, popped, sameExecuted, now, before⟩ |
    ⟨task, before, now, _, popped, done⟩ | ⟨_, popped, sameExecuted, neither⟩
  · -- The head of the queue goes into this worker's hands.
    have notPopped := queued.not_popped (head ▸ List.mem_cons_self : task ∈ pool.tasks)
    refine ⟨queuedNext, ?_, ?_, ?_, ?_, ?_⟩
    · grind [frame.discarded]
    · grind
    · grind [frame.discarded]
    · grind [frame.discarded]
    · grind [frame.discarded]
  · -- This worker's task is executed to the end.
    refine ⟨queuedNext, ?_, ?_, ?_, ?_, ?_⟩
    · grind [frame.discarded]
    · grind
    · grind [frame.discarded]
    · grind [frame.discarded]
    · grind [frame.discarded]
  · refine whole.of_hands queuedNext (fun other task => ?_) popped sameExecuted frame.discarded
    by_cases same : other = worker
    · subst same
      exact iff_of_false (neither task).2 (neither task).1
    · rw [others other same]

theorem Conserved.callerStep {pool next : PoolRun} {caller : CallerId}
    (conserved : Conserved pool) (step : CallerStep pool caller next)
    (noResize : (pool.callerPc caller).inResize = false) : Conserved next := by
  have whole := conserved
  have queued := conserved.toQueued
  obtain ⟨_, processed, single, executed, discarded, taken⟩ := conserved
  obtain ⟨sameExecuted, sameIssued⟩ := step.executed_eq
  have others : ∀ other, other ≠ caller → next.callerPc other = pool.callerPc other :=
    fun other different => step.callerPc_other different
  have hands : ∀ worker task,
      next.workerPc worker = .process task ↔ pool.workerPc worker = .process task := by
    intro worker task
    rcases step.workerPc_of_not_inResize noResize worker with same | ⟨asleep, woken⟩
    · rw [same]
    · simp [asleep, woken]
  rcases step.tasks_cases with ⟨task, before, now, tasks, pushed, popped, sameDiscarded⟩ |
    ⟨before, now, tasks, pushed, popped, thrown⟩ |
    ⟨tasks, pushed, popped, sameDiscarded, unpushedBefore⟩
  · refine whole.of_hands ?_ hands popped sameExecuted sameDiscarded
    exact queued.push (by rw [before]; rfl) (by rw [now]; rfl) others tasks pushed popped sameIssued
  · -- What is left in the queue is thrown away.
    have leftOver : ∀ task ∈ pool.tasks, task ∉ pool.popped := fun _ => queued.not_popped
    have unpushed : ∀ other task, (next.callerPc other).unpushed = some task →
        (pool.callerPc other).unpushed = some task := by
      intro other task position
      by_cases same : other = caller
      · rw [same, now] at position
        cases position
      · rw [← others other same]
        exact position
    have emptied : next.popped ++ next.tasks = pool.popped ++ pool.tasks := by
      rw [popped, tasks, List.append_nil]
    refine ⟨queued.of_unpushed pushed emptied sameIssued unpushed, ?_, ?_, ?_, ?_, ?_⟩
    · intro worker task position
      obtain ⟨member, notExecuted, notDiscarded⟩ :=
        processed worker task ((hands worker task).mp position)
      rw [popped, sameExecuted, thrown]
      refine ⟨List.mem_append_left _ member, notExecuted, fun inThrown => ?_⟩
      rcases List.mem_append.mp inThrown with before | left
      · exact notDiscarded before
      · exact leftOver task left member
    · simpa only [hands] using single
    · rw [sameExecuted, popped, thrown]
      refine ⟨executed.1, fun task member => ?_⟩
      obtain ⟨wasPopped, notDiscarded⟩ := executed.2 task member
      refine ⟨List.mem_append_left _ wasPopped, fun inThrown => ?_⟩
      rcases List.mem_append.mp inThrown with before | left
      · exact notDiscarded before
      · exact leftOver task left wasPopped
    · intro task member
      rw [thrown] at member
      rw [popped]
      rcases List.mem_append.mp member with before | left
      · exact List.mem_append_left _ (discarded task before)
      · exact List.mem_append_right _ left
    · intro task member
      simp only [hands, sameExecuted, thrown]
      rw [popped] at member
      rcases List.mem_append.mp member with before | left
      · rcases taken task before with done | gone | held
        · exact .inl done
        · exact .inr (.inl (List.mem_append_left _ gone))
        · exact .inr (.inr held)
      · exact .inr (.inl (List.mem_append_right _ left))
  · have unpushed : ∀ other task, (next.callerPc other).unpushed = some task →
        (pool.callerPc other).unpushed = some task := by
      intro other task position
      by_cases same : other = caller
      · subst same
        exact unpushedBefore task position
      · rw [← others other same]
        exact position
    refine whole.of_hands ?_ hands popped sameExecuted sameDiscarded
    exact queued.of_unpushed pushed (by rw [popped, tasks]) sameIssued unpushed

theorem Conserved.step {pool next : PoolRun} {event : PoolEvent} (conserved : Conserved pool)
    (step : PoolStep pool event next) (environment : OneShutdown pool event)
    (noResize : ∀ caller, (pool.callerPc caller).inResize = false) : Conserved next := by
  cases step with
  | commit caller task idle fresh =>
      obtain ⟨queued, processed, single, executed, discarded, taken⟩ := conserved
      refine ⟨⟨queued.queue, queued.distinct, ?_, ?_, ?_⟩, processed, single, executed,
        discarded, taken⟩
      · intro other member
        exact List.mem_cons_of_mem _ (queued.issued other member)
      · intro other found position
        by_cases same : other = caller
        · simp only [same, setCaller_callerPc, if_true, CallerPc.unpushed,
            Option.some.injEq] at position
          subst position
          exact ⟨List.mem_cons_self, fun member => fresh (queued.issued task member)⟩
        · simp only [setCaller_callerPc, same, if_false] at position
          obtain ⟨issued, notPushed⟩ := queued.unpushed other found position
          exact ⟨List.mem_cons_of_mem _ issued, notPushed⟩
      · -- The new call's task is new, and the others had different ones before.
        have own : ∀ other found, other ≠ caller →
            (pool.callerPc other).unpushed = some found → found ≠ task := by
          rintro other found different position rfl
          exact fresh (queued.unpushed other found position).1
        intro first second found firstPosition secondPosition
        by_cases firstSame : first = caller
        · by_cases secondSame : second = caller
          · rw [firstSame, secondSame]
          · simp only [setCaller_callerPc, secondSame, if_false] at secondPosition
            simp only [firstSame, setCaller_callerPc, if_true, CallerPc.unpushed,
              Option.some.injEq] at firstPosition
            exact absurd firstPosition.symm (own second found secondSame secondPosition)
        · simp only [setCaller_callerPc, firstSame, if_false] at firstPosition
          by_cases secondSame : second = caller
          · simp only [secondSame, setCaller_callerPc, if_true, CallerPc.unpushed,
              Option.some.injEq] at secondPosition
            exact absurd secondPosition.symm (own first found firstSame firstPosition)
          · simp only [setCaller_callerPc, secondSame, if_false] at secondPosition
            exact queued.owner first second found firstPosition secondPosition
  | resize caller newThreadNum idle => exact environment.elim
  | shutdown caller idle =>
      refine conserved.of_hands (conserved.toQueued.of_unpushed rfl rfl rfl ?_) (fun _ _ => Iff.rfl)
        rfl rfl rfl
      intro other found position
      by_cases same : other = caller
      · simp [same, CallerPc.unpushed] at position
      · simpa [same] using position
  | caller caller woken next step => exact conserved.callerStep step (noResize caller)
  | worker worker next step => exact conserved.workerStep step
  | spurious worker asleep =>
      refine conserved.of_hands (conserved.toQueued.of_unpushed rfl rfl rfl fun _ _ => id) ?_
        rfl rfl rfl
      intro other task
      by_cases same : other = worker
      · simp [same, asleep]
      · simp [same]

/-- What a caller's step can change of the threads and of the shutdown, when it is not
inside `Resize`. -/
structure PoolRun.CallerEffect (pool : PoolRun) (caller : CallerId) (next : PoolRun) : Prop where
  target : next.targetThreadNum = pool.targetThreadNum
  workers : next.workers = pool.workers ∨
    (∃ call removed, pool.callerPc caller = .cleanupJoin call [] removed ∧
      next.workers = pool.workers.filter (· ∉ removed)) ∨
    (pool.callerPc caller = .shutdownClear ∧ next.workers = [])
  joined : ∀ worker, next.joined worker = true →
    pool.joined worker = true ∨ (pool.workerPc worker).hasExited = true
  removed : ∀ call toVisit removed, next.callerPc caller = .cleanupJoin call toVisit removed →
    removed = [] ∨ ∃ toVisit' removed', pool.callerPc caller = .cleanupJoin call toVisit' removed' ∧
      ∀ worker ∈ removed, worker ∈ removed' ∨ (pool.workerPc worker).hasExited = true
  resize : (next.callerPc caller).inResize = false
  shutdown : (next.callerPc caller).inShutdown = true → (pool.callerPc caller).inShutdown = true
  shutdownCaller : next.shutdownCaller = pool.shutdownCaller
  tested : next.callerPc caller ≠ .shutdownTest
  running : next.isRunning = pool.isRunning ∨ pool.callerPc caller = .shutdownStore
  joining : ∀ toVisit, next.callerPc caller = .shutdownJoin toVisit →
    (pool.callerPc caller = .shutdownNotify ∧ toVisit = pool.workers) ∨
    ∃ worker, pool.callerPc caller = .shutdownJoin (worker :: toVisit) ∧
      (pool.joined worker = true ∨ (pool.workerPc worker).hasExited = true)
  clearing : next.callerPc caller = .shutdownClear → pool.callerPc caller = .shutdownJoin []
  returned : next.shutdownReturned = true → pool.shutdownReturned = true ∨
    pool.callerPc caller = .shutdownClear ∨
    (pool.callerPc caller = .shutdownTest ∧ pool.isRunning = false)

theorem PoolRun.CallerStep.effect {pool next : PoolRun} {caller : CallerId}
    (step : CallerStep pool caller next) (noResize : (pool.callerPc caller).inResize = false) :
    CallerEffect pool caller next := by
  cases step with
  | notify task notified position woken =>
      rcases woken with rfl | ⟨worker, _, rfl⟩
      · constructor <;> simp +contextual [CallerPc.inResize, CallerPc.inShutdown]
      · constructor <;> simp +contextual [CallerPc.inResize, CallerPc.inShutdown]
  | resizeOn target position =>
      rcases position with ⟨_, position, _⟩ | ⟨_, _, position, _⟩ | ⟨position | position, _⟩
      all_goals
        rw [position] at noResize
        cases noResize
  | store _ _ _ position _ | spawn _ position | resizeWake _ _ position _ =>
      rw [position] at noResize
      cases noResize
  | _ => constructor <;> simp_all [CallerPc.inResize, CallerPc.inShutdown]

/-- Once out of its loop a worker never runs again. -/
theorem PoolRun.CallerStep.inLoop_eq {pool next : PoolRun} {caller : CallerId}
    (step : CallerStep pool caller next) (noResize : (pool.callerPc caller).inResize = false)
    (worker : WorkerId) : (next.workerPc worker).inLoop = (pool.workerPc worker).inLoop := by
  rcases step.workerPc_of_not_inResize noResize worker with same | ⟨asleep, woken⟩
  · rw [same]
  · rw [asleep, woken]
    rfl

/-- A worker that moves is in its loop, and leaves it only with the queue empty and the
pool stopped, or at a shrink test. -/
theorem PoolRun.WorkerStep.inLoop_cases {pool next : PoolRun} {worker : WorkerId}
    (step : WorkerStep pool worker next) : (pool.workerPc worker).inLoop = true ∧
      ((next.workerPc worker).inLoop = true ∨ (pool.tasks = [] ∧ next.tasks = []) ∨
        pool.targetThreadNum < pool.workers.length) := by
  cases step with
  | leaveLoop position _ drained | leaveWait position _ drained =>
      exact ⟨by rw [position]; rfl, .inr (.inl ⟨drained, drained⟩)⟩
  | shrink position surplus => exact ⟨by rw [position]; rfl, .inr (.inr surplus)⟩
  | lock position _ =>
      refine ⟨?_, .inl (by simp [WorkerPc.inLoop])⟩
      rcases position with position | position
      · rw [position]
        rfl
      · rw [position]
        rfl
  | enterLoop position _ | keepOn position _ | ready position _ | idle position _ _
  | sleep position | take _ _ position _ | finish _ position =>
      exact ⟨by rw [position]; rfl, .inl (by simp [WorkerPc.inLoop])⟩

/-- What `Shutdown` and the cleanups know about the workers, in runs without `Resize`. -/
structure Supervised (pool : PoolRun) : Prop where
  noResize : ∀ caller, (pool.callerPc caller).inResize = false
  size : pool.workers.length ≤ pool.targetThreadNum
  absent : ∀ worker, worker ∉ pool.workers → (pool.workerPc worker).inLoop = false
  joined : ∀ worker, pool.joined worker = true → (pool.workerPc worker).inLoop = false
  removed : ∀ caller call toVisit removed,
    pool.callerPc caller = .cleanupJoin call toVisit removed →
    ∀ worker ∈ removed, (pool.workerPc worker).inLoop = false
  shutdown : ∀ caller, (pool.callerPc caller).inShutdown = true →
    pool.shutdownCaller = some caller
  stopped : pool.isRunning = false →
    ∃ caller, pool.shutdownCaller = some caller ∧ pool.callerPc caller ≠ .shutdownTest
  joining : ∀ caller toVisit, pool.callerPc caller = .shutdownJoin toVisit →
    ∀ worker, (pool.workerPc worker).inLoop = true → worker ∈ toVisit
  clearing : ∀ caller, pool.callerPc caller = .shutdownClear →
    ∀ worker, (pool.workerPc worker).inLoop = false
  returned : pool.shutdownReturned = true → ∀ worker, (pool.workerPc worker).inLoop = false

theorem Supervised.start (threadNum : Nat) : Supervised (.start threadNum) where
  noResize _ := rfl
  size := by simp [PoolRun.start]
  absent worker missing := by
    simp only [PoolRun.start, List.mem_range] at missing ⊢
    rw [if_neg missing]
    rfl
  joined _ joined := by cases joined
  removed _ _ _ _ position := by cases position
  shutdown _ inside := by cases inside
  stopped stopped := by cases stopped
  joining _ _ position := by cases position
  clearing _ position := by cases position
  returned returned := by cases returned

theorem WorkerPc.inLoop_of_hasExited {pc : WorkerPc} (exited : pc.hasExited = true) :
    pc.inLoop = false := by
  cases pc with
  | exited _ => rfl
  | _ => cases exited

theorem Supervised.workerStep {pool next : PoolRun} {worker : WorkerId}
    (supervised : Supervised pool) (step : WorkerStep pool worker next) : Supervised next := by
  have frame := step.frame
  have earlier : ∀ other, (next.workerPc other).inLoop = true →
      (pool.workerPc other).inLoop = true := by
    intro other alive
    by_cases same : other = worker
    · rw [same]
      exact step.inLoop_cases.1
    · rwa [step.workerPc_other same] at alive
  have gone : ∀ other, (pool.workerPc other).inLoop = false →
      (next.workerPc other).inLoop = false := by
    intro other out
    by_contra alive
    rw [earlier other (by simpa using alive)] at out
    cases out
  constructor
  · rw [frame.callerPc]
    exact supervised.noResize
  · rw [frame.workers, frame.targetThreadNum]
    exact supervised.size
  · rw [frame.workers]
    exact fun other missing => gone other (supervised.absent other missing)
  · rw [frame.joined]
    exact fun other joined => gone other (supervised.joined other joined)
  · rw [frame.callerPc]
    exact fun caller call toVisit removed position other member =>
      gone other (supervised.removed caller call toVisit removed position other member)
  · rw [frame.callerPc, frame.shutdownCaller]
    exact supervised.shutdown
  · rw [frame.isRunning, frame.callerPc, frame.shutdownCaller]
    exact supervised.stopped
  · rw [frame.callerPc]
    exact fun caller toVisit position other alive =>
      supervised.joining caller toVisit position other (earlier other alive)
  · rw [frame.callerPc]
    exact fun caller position other => gone other (supervised.clearing caller position other)
  · rw [frame.shutdownReturned]
    exact fun returned other => gone other (supervised.returned returned other)

theorem Supervised.callerStep {pool next : PoolRun} {caller : CallerId}
    (supervised : Supervised pool) (step : CallerStep pool caller next) : Supervised next := by
  have effect := step.effect (supervised.noResize caller)
  have others : ∀ other, other ≠ caller → next.callerPc other = pool.callerPc other :=
    fun other different => step.callerPc_other different
  have alive := step.inLoop_eq (supervised.noResize caller)
  constructor
  · intro other
    by_cases same : other = caller
    · rw [same]
      exact effect.resize
    · rw [others other same]
      exact supervised.noResize other
  · rw [effect.target]
    rcases effect.workers with same | ⟨_, _, _, erased⟩ | ⟨_, cleared⟩
    · rw [same]
      exact supervised.size
    · rw [erased]
      exact (List.length_filter_le _ _).trans supervised.size
    · rw [cleared]
      exact Nat.zero_le _
  · intro worker missing
    rw [alive worker]
    rcases effect.workers with same | ⟨call, removed, position, erased⟩ | ⟨position, _⟩
    · rw [same] at missing
      exact supervised.absent worker missing
    · by_cases member : worker ∈ removed
      · exact supervised.removed caller call [] removed position worker member
      · refine supervised.absent worker fun inside => missing ?_
        rw [erased, List.mem_filter]
        exact ⟨inside, by simpa using member⟩
    · exact supervised.clearing caller position worker
  · intro worker joined
    rw [alive worker]
    rcases effect.joined worker joined with before | exited
    · exact supervised.joined worker before
    · exact WorkerPc.inLoop_of_hasExited exited
  · intro other call toVisit removed position worker member
    rw [alive worker]
    by_cases same : other = caller
    · subst same
      rcases effect.removed call toVisit removed position with
        rfl | ⟨toVisit', removed', before, new⟩
      · cases member
      · rcases new worker member with old | exited
        · exact supervised.removed other call toVisit' removed' before worker old
        · exact WorkerPc.inLoop_of_hasExited exited
    · rw [others other same] at position
      exact supervised.removed other call toVisit removed position worker member
  · intro other inside
    rw [effect.shutdownCaller]
    by_cases same : other = caller
    · subst same
      exact supervised.shutdown other (effect.shutdown inside)
    · rw [others other same] at inside
      exact supervised.shutdown other inside
  · intro stopped
    rw [effect.shutdownCaller]
    rcases effect.running with same | position
    · rw [same] at stopped
      obtain ⟨owner, owned, passed⟩ := supervised.stopped stopped
      refine ⟨owner, owned, ?_⟩
      by_cases own : owner = caller
      · rw [own]
        exact effect.tested
      · rw [others owner own]
        exact passed
    · exact ⟨caller, supervised.shutdown caller (by rw [position]; rfl), effect.tested⟩
  · intro other toVisit position worker running
    rw [alive worker] at running
    by_cases same : other = caller
    · subst same
      rcases effect.joining toVisit position with ⟨_, rfl⟩ | ⟨head, before, out⟩
      · by_contra missing
        rw [supervised.absent worker missing] at running
        cases running
      · have member := supervised.joining other _ before worker running
        rcases List.mem_cons.mp member with rfl | later
        · rcases out with joined | exited
          · rw [supervised.joined worker joined] at running
            cases running
          · rw [WorkerPc.inLoop_of_hasExited exited] at running
            cases running
        · exact later
    · rw [others other same] at position
      exact supervised.joining other toVisit position worker running
  · intro other position worker
    rw [alive worker]
    by_cases same : other = caller
    · subst same
      by_contra running
      have member := supervised.joining other [] (effect.clearing position) worker
        (by simpa using running)
      cases member
    · rw [others other same] at position
      exact supervised.clearing other position worker
  · intro returned worker
    rw [alive worker]
    rcases effect.returned returned with before | position | ⟨position, stopped⟩
    · exact supervised.returned before worker
    · exact supervised.clearing caller position worker
    · -- The one caller of `Shutdown` is past its test when the pool is stopped.
      obtain ⟨owner, owned, passed⟩ := supervised.stopped stopped
      rw [supervised.shutdown caller (by rw [position]; rfl)] at owned
      cases owned
      exact absurd position passed

/-- A thread outside the pool calls `Commit` or `Shutdown`. -/
theorem Supervised.enter {pool : PoolRun} (supervised : Supervised pool) {caller : CallerId}
    {pc : CallerPc} {owner : Option CallerId}
    (entry : (∃ task, pc = .commitTest task ∧ owner = pool.shutdownCaller) ∨
      (pc = .shutdownTest ∧ owner = some caller ∧ pool.shutdownCaller = none))
    (issued : List Task) :
    Supervised { pool.setCaller caller pc with issued, shutdownCaller := owner } := by
  have noResize : pc.inResize = false := by
    rcases entry with ⟨task, rfl, _⟩ | ⟨rfl, _⟩ <;> rfl
  have noJoin : (∀ call toVisit removed, pc ≠ .cleanupJoin call toVisit removed) ∧
      (∀ toVisit, pc ≠ .shutdownJoin toVisit) ∧ pc ≠ .shutdownClear := by
    rcases entry with ⟨task, rfl, _⟩ | ⟨rfl, _⟩ <;> simp
  have before : ∀ other target, target ≠ pc →
      (pool.setCaller caller pc).callerPc other = target → pool.callerPc other = target := by
    intro other target different position
    by_cases same : other = caller
    · simp only [same, setCaller_callerPc, if_true] at position
      exact absurd position.symm different
    · simpa only [setCaller_callerPc, same, if_false] using position
  constructor
  · intro other
    by_cases same : other = caller
    · simpa [same] using noResize
    · simpa [same] using supervised.noResize other
  · exact supervised.size
  · exact supervised.absent
  · exact supervised.joined
  · intro other call toVisit removed position
    exact supervised.removed other call toVisit removed
      (before other _ (Ne.symm (noJoin.1 _ _ _)) position)
  · intro other inside
    by_cases same : other = caller
    · rcases entry with ⟨task, rfl, _⟩ | ⟨_, rfl, _⟩
      · simp [same, CallerPc.inShutdown] at inside
      · rw [same]
    · have owned := supervised.shutdown other (by simpa [same] using inside)
      rcases entry with ⟨_, _, rfl⟩ | ⟨_, _, nobody⟩
      · exact owned
      · rw [nobody] at owned
        cases owned
  · intro stopped
    obtain ⟨other, owned, passed⟩ := supervised.stopped stopped
    rcases entry with ⟨task, rfl, rfl⟩ | ⟨_, _, nobody⟩
    · exact ⟨other, owned, fun position => passed (before other _ (by simp) position)⟩
    · rw [nobody] at owned
      cases owned
  · intro other toVisit position
    exact supervised.joining other toVisit (before other _ (Ne.symm (noJoin.2.1 _)) position)
  · intro other position
    exact supervised.clearing other (before other _ (Ne.symm noJoin.2.2) position)
  · exact supervised.returned

theorem Supervised.step {pool next : PoolRun} {event : PoolEvent} (supervised : Supervised pool)
    (step : PoolStep pool event next) (environment : OneShutdown pool event) :
    Supervised next := by
  cases step with
  | commit caller task idle fresh =>
      exact supervised.enter (.inl ⟨task, rfl, rfl⟩) (task :: pool.issued)
  | resize caller newThreadNum idle => exact environment.elim
  | shutdown caller idle =>
      exact supervised.enter (.inr ⟨rfl, rfl, environment⟩) pool.issued
  | caller caller woken next step => exact supervised.callerStep step
  | worker worker next step => exact supervised.workerStep step
  | spurious worker asleep =>
      have alive : ∀ other, ((pool.setWorker worker .woken).workerPc other).inLoop =
          (pool.workerPc other).inLoop := by
        intro other
        by_cases same : other = worker
        · simp [same, asleep, WorkerPc.inLoop]
        · simp [same]
      obtain ⟨noResize, size, absent, joined, removed, shutdown, stopped, joining, clearing,
        returned⟩ := supervised
      constructor
      · exact noResize
      · exact size
      · simp only [alive]
        exact absent
      · simp only [alive]
        exact joined
      · simp only [alive]
        exact removed
      · exact shutdown
      · exact stopped
      · simp only [alive]
        exact joining
      · simp only [alive]
        exact clearing
      · simp only [alive]
        exact returned

/-- A queued task has a worker to take it, and nothing was thrown away. -/
structure Served (pool : PoolRun) : Prop where
  served : pool.tasks ≠ [] → ∃ worker, (pool.workerPc worker).inLoop = true
  kept : pool.discarded = []

theorem Served.workerStep {pool next : PoolRun} {worker : WorkerId} (served : Served pool)
    (supervised : Supervised pool) (step : WorkerStep pool worker next) : Served next := by
  constructor
  · intro queued
    rcases step.inLoop_cases with ⟨_, running | ⟨_, empty⟩ | surplus⟩
    · exact ⟨worker, running⟩
    · exact absurd empty queued
    · exact absurd supervised.size (Nat.not_le.mpr surplus)
  · rw [step.frame.discarded]
    exact served.kept

theorem Served.callerStep {pool next : PoolRun} {caller : CallerId} {woken : Option WorkerId}
    (served : Served pool) (supervised : Supervised pool) (step : CallerStep pool caller next)
    (attended : PushesAttended pool (.caller caller woken)) : Served next := by
  have alive := step.inLoop_eq (supervised.noResize caller)
  constructor
  · intro queued
    simp only [alive]
    rcases step.tasks_cases with ⟨task, position, _⟩ | ⟨_, _, empty, _⟩ | ⟨same, _⟩
    · obtain ⟨worker, _, running⟩ := attended (by rw [position]; rfl)
      exact ⟨worker, running⟩
    · exact absurd empty queued
    · rw [same] at queued
      exact served.served queued
  · rcases step.tasks_cases with ⟨_, _, _, _, _, _, same⟩ | ⟨position, _, _, _, _, thrown⟩ |
      ⟨_, _, _, same, _⟩
    · rw [same]
      exact served.kept
    · -- The queue is cleared when no worker is left, so it is empty already.
      have empty : pool.tasks = [] := by
        by_contra queued
        obtain ⟨worker, running⟩ := served.served queued
        rw [supervised.clearing caller position worker] at running
        cases running
      rw [thrown, empty, served.kept]
      rfl
    · rw [same]
      exact served.kept

theorem Served.step {pool next : PoolRun} {event : PoolEvent} (served : Served pool)
    (supervised : Supervised pool) (step : PoolStep pool event next)
    (attended : PushesAttended pool event) : Served next := by
  cases step with
  | commit caller _ _ _ | resize caller _ _ | shutdown caller _ =>
      exact ⟨served.served, served.kept⟩
  | caller caller woken next step => exact served.callerStep supervised step attended
  | worker worker next step => exact served.workerStep supervised step
  | spurious worker asleep =>
      refine ⟨fun queued => ?_, served.kept⟩
      obtain ⟨other, running⟩ := served.served queued
      refine ⟨other, ?_⟩
      by_cases same : other = worker
      · simp [same, WorkerPc.inLoop]
      · simpa [same] using running

/-- A `Commit` returns exactly the tasks it has pushed. -/
structure Answered (pool : PoolRun) : Prop where
  accepted : ∀ task ∈ pool.accepted, task ∈ pool.pushed
  unreturned : ∀ caller task, (pool.callerPc caller).unreturned = some task →
    task ∈ pool.pushed
  pushed : ∀ task ∈ pool.pushed, task ∈ pool.accepted ∨
    ∃ caller, (pool.callerPc caller).unreturned = some task

/-- What a caller's step does to the answers: it pushes a task, hands one back, or neither. -/
theorem PoolRun.CallerStep.accepted_cases {pool next : PoolRun} {caller : CallerId}
    (step : CallerStep pool caller next) :
    (∃ task, next.pushed = pool.pushed ++ [task] ∧ next.accepted = pool.accepted ∧
      (next.callerPc caller).unreturned = some task ∧
      (pool.callerPc caller).unreturned = none) ∨
    (next.pushed = pool.pushed ∧ (next.callerPc caller).unreturned = none ∧
      next.accepted = pool.accepted ++ (pool.callerPc caller).unreturned.toList) ∨
    (next.pushed = pool.pushed ∧ next.accepted = pool.accepted ∧
      (next.callerPc caller).unreturned = (pool.callerPc caller).unreturned) := by
  cases step with
  | push task position _ =>
      exact .inl ⟨task, rfl, rfl, by simp [CallerPc.unreturned], by rw [position]; rfl⟩
  | erase call removed position =>
      refine .inr (.inl ⟨rfl, by simp [CallerPc.unreturned], ?_⟩)
      rw [position]
      cases call <;> rfl
  | notify task notified position woken =>
      rcases woken with rfl | ⟨worker, _, rfl⟩
      · exact .inr (.inr ⟨rfl, rfl, by simp [position, CallerPc.unreturned]⟩)
      · exact .inr (.inr ⟨rfl, rfl, by simp [position, CallerPc.unreturned]⟩)
  | resizeWake _ notified position woken =>
      rcases woken with rfl | ⟨worker, _, rfl⟩
      · exact .inr (.inr ⟨rfl, rfl, by simp [position, CallerPc.unreturned]⟩)
      · exact .inr (.inr ⟨rfl, rfl, by simp [position, CallerPc.unreturned]⟩)
  | lockCleanup call position _ | skip call _ _ _ position _ | join call _ _ _ position _ =>
      refine .inr (.inr ⟨rfl, rfl, ?_⟩)
      rw [position]
      cases call <;> simp [CallerPc.unreturned]
  | giveUp position =>
      refine .inr (.inr ⟨rfl, rfl, ?_⟩)
      rcases position with ⟨_, position, _⟩ | ⟨_, position⟩ | ⟨_, position⟩
      all_goals simp [position, CallerPc.unreturned]
  | resizeOn target position =>
      refine .inr (.inr ⟨rfl, rfl, ?_⟩)
      rcases position with ⟨_, position, rfl⟩ | ⟨_, _, position, rfl⟩ | ⟨position | position, rfl⟩
      all_goals simp [position, CallerPc.unreturned]
  | store _ _ target position change =>
      refine .inr (.inr ⟨rfl, rfl, ?_⟩)
      rcases change with rfl | rfl
      all_goals simp [position, CallerPc.unreturned]
  | pass _ position _ | spawn _ position | beginShutdown position _
  | alreadyShutdown position _ | stop position | wakeAll position | allJoined position
  | shutdownSkip _ _ position _ | shutdownJoin _ _ position _ | clear position _ =>
      exact .inr (.inr ⟨rfl, rfl, by simp [position, CallerPc.unreturned]⟩)

theorem Answered.callerStep {pool next : PoolRun} {caller : CallerId}
    (answered : Answered pool) (step : CallerStep pool caller next) : Answered next := by
  have others : ∀ other, other ≠ caller →
      (next.callerPc other).unreturned = (pool.callerPc other).unreturned :=
    fun other different => by rw [step.callerPc_other different]
  obtain ⟨accepted, unreturned, pushed⟩ := answered
  rcases step.accepted_cases with ⟨task, pushedNow, same, now, before⟩ |
    ⟨pushedSame, now, acceptedNow⟩ | ⟨pushedSame, same, kept⟩
  · refine ⟨?_, ?_, ?_⟩
    · grind
    · grind
    · intro found member
      rw [pushedNow, List.mem_append, List.mem_singleton] at member
      rw [same]
      rcases member with member | rfl
      · rcases pushed found member with done | ⟨other, position⟩
        · exact .inl done
        · have different : other ≠ caller := by
            rintro rfl
            rw [before] at position
            cases position
          exact .inr ⟨other, (others other different).trans position⟩
      · exact .inr ⟨caller, now⟩
  · refine ⟨?_, ?_, ?_⟩
    · intro task member
      rw [acceptedNow, List.mem_append, Option.mem_toList] at member
      rw [pushedSame]
      rcases member with member | returned
      · exact accepted task member
      · exact unreturned caller task returned
    · grind
    · intro found member
      rw [pushedSame] at member
      rw [acceptedNow]
      rcases pushed found member with done | ⟨other, position⟩
      · exact .inl (List.mem_append_left _ done)
      · by_cases own : other = caller
        · subst own
          exact .inl (List.mem_append_right _ (by simp [position]))
        · exact .inr ⟨other, (others other own).trans position⟩
  · have all : ∀ other,
        (next.callerPc other).unreturned = (pool.callerPc other).unreturned := by
      intro other
      by_cases own : other = caller
      · rw [own]
        exact kept
      · exact others other own
    constructor
    · simpa only [same, pushedSame] using accepted
    · simpa only [all, pushedSame] using unreturned
    · simpa only [all, same, pushedSame] using pushed

theorem Answered.step {pool next : PoolRun} {event : PoolEvent} (answered : Answered pool)
    (step : PoolStep pool event next) : Answered next := by
  have entered : ∀ (caller : CallerId) (pc : CallerPc), pc.unreturned = none →
      pool.callerPc caller = .outside → ∀ other,
      ((pool.setCaller caller pc).callerPc other).unreturned =
        (pool.callerPc other).unreturned := by
    intro caller pc nothing idle other
    by_cases same : other = caller
    · rw [same, idle, setCaller_callerPc, if_pos rfl, nothing]
      rfl
    · rw [setCaller_callerPc, if_neg same]
  obtain ⟨accepted, unreturned, pushed⟩ := answered
  cases step with
  | commit caller task idle fresh =>
      refine ⟨accepted, ?_, ?_⟩
      · simp only [entered caller (.commitTest task) rfl idle]
        exact unreturned
      · simp only [entered caller (.commitTest task) rfl idle]
        exact pushed
  | resize caller newThreadNum idle =>
      refine ⟨accepted, ?_, ?_⟩
      · simp only [entered caller (.resizeTest newThreadNum) rfl idle]
        exact unreturned
      · simp only [entered caller (.resizeTest newThreadNum) rfl idle]
        exact pushed
  | shutdown caller idle =>
      refine ⟨accepted, ?_, ?_⟩
      · simp only [entered caller .shutdownTest rfl idle]
        exact unreturned
      · simp only [entered caller .shutdownTest rfl idle]
        exact pushed
  | caller caller woken next step =>
      exact Answered.callerStep ⟨accepted, unreturned, pushed⟩ step
  | worker worker next step =>
      have frame := step.frame
      constructor
      · simpa only [frame.accepted, frame.pushed] using accepted
      · simpa only [frame.callerPc, frame.pushed] using unreturned
      · simpa only [frame.callerPc, frame.accepted, frame.pushed] using pushed
  | spurious worker asleep => exact ⟨accepted, unreturned, pushed⟩

/-- What every run without `Resize` and with one `Shutdown` keeps. -/
structure Tracked (pool : PoolRun) : Prop where
  conserved : Conserved pool
  supervised : Supervised pool
  answered : Answered pool

theorem Tracked.start (threadNum : Nat) : Tracked (.start threadNum) where
  conserved := .start threadNum
  supervised := .start threadNum
  answered := by
    refine ⟨?_, ?_, ?_⟩
    · intro task member
      cases member
    · intro caller task position
      cases position
    · intro task member
      cases member

theorem Tracked.step {pool next : PoolRun} {event : PoolEvent} (tracked : Tracked pool)
    (environment : OneShutdown pool event) (step : PoolStep pool event next) : Tracked next where
  conserved := tracked.conserved.step step environment tracked.supervised.noResize
  supervised := tracked.supervised.step step environment
  answered := tracked.answered.step step

/-- A task without a worker: queued, not executed, and nobody left to take it. -/
structure Deserted (pool : PoolRun) (task : Task) : Prop where
  pushed : task ∈ pool.pushed
  pending : task ∉ pool.executed
  nobody : ∀ worker, (pool.workerPc worker).inLoop = false

theorem Deserted.step {pool next : PoolRun} {event : PoolEvent} {task : Task}
    (deserted : Deserted pool task) (supervised : Supervised pool)
    (environment : OneShutdown pool event) (step : PoolStep pool event next) :
    Deserted next task := by
  obtain ⟨pushed, pending, nobody⟩ := deserted
  cases step with
  | commit caller _ _ _ | shutdown caller _ => exact ⟨pushed, pending, nobody⟩
  | resize caller newThreadNum idle => exact environment.elim
  | caller caller woken next step =>
      refine ⟨?_, ?_, ?_⟩
      · rcases step.tasks_cases with ⟨_, _, _, _, more, _⟩ | ⟨_, _, _, same, _⟩ | ⟨_, same, _⟩
        · rw [more]
          exact List.mem_append_left _ pushed
        · rwa [same]
        · rwa [same]
      · rwa [step.executed_eq.1]
      · intro worker
        rw [step.inLoop_eq (supervised.noResize caller) worker]
        exact nobody worker
  | worker worker next step =>
      have running := step.inLoop_cases.1
      rw [nobody worker] at running
      cases running
  | spurious worker asleep =>
      have out := nobody worker
      rw [asleep] at out
      cases out

theorem Graceful.of_served {pool : PoolRun} (tracked : Tracked pool) (served : Served pool) :
    Graceful pool := by
  obtain ⟨conserved, supervised, answered⟩ := tracked
  have held : ∀ task ∈ pool.accepted, task ∈ pool.tasks ∨
      (∃ worker, pool.workerPc worker = .process task) ∨ task ∈ pool.executed := by
    intro task accepted
    have pushed := answered.accepted task accepted
    rw [conserved.queue, List.mem_append] at pushed
    rcases pushed with popped | queued
    · rcases conserved.taken task popped with executed | gone | processed
      · exact .inr (.inr executed)
      · rw [served.kept] at gone
        cases gone
      · exact .inr (.inl processed)
    · exact .inl queued
  refine ⟨fun task => List.nodup_iff_count_le_one.mp conserved.executed.1 task, held, ?_, ?_⟩
  · intro task _ member
    rw [served.kept] at member
    cases member
  · intro returned task accepted
    have nobody := supervised.returned returned
    rcases held task accepted with queued | ⟨worker, position⟩ | executed
    · obtain ⟨worker, running⟩ := served.served (List.ne_nil_of_mem queued)
      rw [nobody worker] at running
      cases running
    · have out := nobody worker
      rw [position] at out
      cases out
    · exact conserved.executed.1.count.trans (if_pos executed)

/-- A deserted task is accepted and not executed in every settled state that follows. -/
theorem not_graceful_of_deserted {pool final : PoolRun} {task : Task} {events : List PoolEvent}
    (tracked : Tracked pool) (deserted : Deserted pool task)
    (run : poolMachine.Run OneShutdown pool events final) (settled : Settled final) :
    ¬ Graceful final := by
  intro graceful
  have kept : Tracked final ∧ Deserted final task := by
    refine run.invariant (fun state => Tracked state ∧ Deserted state task)
      ⟨tracked, deserted⟩ ?_
    rintro state event next ⟨tracked, deserted⟩ environment transition
    have step := poolStep_cases transition
    exact ⟨tracked.step environment step, deserted.step tracked.supervised environment step⟩
  have accepted : task ∈ final.accepted := by
    rcases kept.1.answered.pushed task kept.2.pushed with accepted | ⟨caller, position⟩
    · exact accepted
    · rw [settled.2 caller] at position
      cases position
  have once := graceful.done settled.1 task accepted
  rw [List.count_eq_zero_of_not_mem kept.2.pending] at once
  cases once

/-- A push that finds no worker in its loop deserts its task. -/
theorem deserted_of_push {pool next : PoolRun} {caller : CallerId} (tracked : Tracked pool)
    (step : CallerStep pool caller next)
    (push : (pool.callerPc caller).isCommitPush = true) (unattended : ¬ pool.Attended) :
    ∃ task, Deserted next task := by
  obtain ⟨task, position⟩ : ∃ task, pool.callerPc caller = .commitPush task := by
    cases position : pool.callerPc caller with
    | commitPush task => exact ⟨task, rfl⟩
    | _ => rw [position] at push; cases push
  have fresh := (tracked.conserved.unpushed caller task (by rw [position]; rfl)).2
  refine ⟨task, ?_, ?_, ?_⟩
  · have more : next.pushed = pool.pushed ++ [task] := by
      cases step with
      | push other before free =>
          rw [position] at before
          cases before
          rfl
      | _ => simp_all
    rw [more]
    exact List.mem_append_right _ List.mem_cons_self
  · rw [step.executed_eq.1]
    intro executed
    refine fresh ?_
    rw [tracked.conserved.queue]
    exact List.mem_append_left _ (tracked.conserved.executed.2 task executed).1
  · intro worker
    rw [step.inLoop_eq (tracked.supervised.noResize caller) worker]
    by_contra running
    by_cases member : worker ∈ pool.workers
    · exact unattended ⟨worker, member, by simpa using running⟩
    · exact running (tracked.supervised.absent worker member)

/-- In a settled run whose tasks were all executed, every push found a worker in its loop. -/
theorem pushesAttended_of_graceful {pool final : PoolRun} {events : List PoolEvent}
    (tracked : Tracked pool) (executed : poolMachine.exec pool events = some final)
    (environment : poolMachine.Guarded OneShutdown pool events) (settled : Settled final)
    (graceful : Graceful final) : poolMachine.Guarded PushesAttended pool events := by
  induction events generalizing pool with
  | nil => trivial
  | cons event rest inductionHypothesis =>
      intro next transition
      obtain ⟨admitted, later⟩ := environment next transition
      have remaining : poolMachine.exec next rest = some final := by
        simpa only [Machine.exec, transition, Option.bind_some] using executed
      have trackedNext := tracked.step admitted (poolStep_cases transition)
      refine ⟨?_, inductionHypothesis trackedNext remaining later⟩
      cases poolStep_cases transition with
      | caller caller woken next step =>
          intro push
          by_contra unattended
          obtain ⟨task, deserted⟩ := deserted_of_push tracked step push unattended
          exact not_graceful_of_deserted trackedNext deserted
            (Machine.run_of_guarded remaining later) settled graceful
      | commit | resize | shutdown | worker | spurious => trivial

/-- With one `Shutdown` and no `Resize`: if every task is put into the queue while some
worker has not left its loop, the pool is graceful in every state; and in a settled
state it is graceful only then. -/
theorem graceful_iff_pushesAttended (threadNum : Nat) {events : List PoolEvent}
    {pool : PoolRun} (executed : poolMachine.exec (.start threadNum) events = some pool)
    (environment : poolMachine.Guarded OneShutdown (.start threadNum) events) :
    (poolMachine.Guarded PushesAttended (.start threadNum) events → Graceful pool) ∧
      (Settled pool → Graceful pool →
        poolMachine.Guarded PushesAttended (.start threadNum) events) := by
  constructor
  · intro attended
    have run := Machine.run_of_guarded executed (Machine.guarded_and environment attended)
    have kept : Tracked pool ∧ Served pool := by
      refine run.invariant (fun state => Tracked state ∧ Served state)
        ⟨Tracked.start threadNum, ?_, rfl⟩ ?_
      · intro queued
        exact absurd rfl queued
      · rintro state event next ⟨tracked, served⟩ ⟨admitted, attended⟩ transition
        have step := poolStep_cases transition
        exact ⟨tracked.step admitted step, served.step tracked.supervised step attended⟩
    exact .of_served kept.1 kept.2
  · intro settled graceful
    exact pushesAttended_of_graceful (Tracked.start threadNum) executed environment settled
      graceful

/-- A task committed to a pool of one thread and taken by it before `Shutdown` stops the
pool; the cleanup of the `Commit` joins the thread. -/
def commitThenShutdown : List PoolEvent :=
  [.commit 0 7, .caller 0 none, .caller 0 none, .caller 0 none, .worker 0, .worker 0, .worker 0,
    .worker 0, .worker 0, .caller 0 none, .shutdown 1, .caller 1 none, .caller 1 none,
    .caller 1 none, .worker 0, .worker 0, .caller 0 none, .caller 0 none, .caller 1 none,
    .caller 1 none, .caller 1 none]

/-- The task of `commitThenShutdown` is executed. -/
theorem graceful_commitThenShutdown : ∃ pool,
    poolMachine.exec (.start 1) commitThenShutdown = some pool ∧ pool.accepted = [7] ∧
      pool.shutdownReturned = true ∧ Graceful pool :=
  ⟨_, rfl, rfl, rfl, (graceful_iff_pushesAttended 1 rfl
    (by decide : poolMachine.Guarded OneShutdown (.start 1) commitThenShutdown)).1 (by decide)⟩

/-- A `Commit` that has found the pool running puts its task into the queue after
`Shutdown` has returned. -/
def commitAcrossShutdown : List PoolEvent :=
  [.commit 0 7, .caller 0 none, .shutdown 1, .caller 1 none, .caller 1 none, .caller 1 none,
    .worker 0, .caller 1 none, .caller 1 none, .caller 1 none, .caller 0 none, .caller 0 none,
    .caller 0 none, .caller 0 none]

/-- Not every run is graceful: the task of `commitAcrossShutdown` is accepted, and both
calls have returned, but no worker is left to execute it. -/
theorem not_always_graceful :
    ¬ ∀ (threadNum : Nat) (events : List PoolEvent) (pool : PoolRun),
      poolMachine.exec (.start threadNum) events = some pool →
      poolMachine.Guarded OneShutdown (.start threadNum) events → Graceful pool := by
  intro always
  have graceful := always 1 commitAcrossShutdown _ rfl (by decide)
  have once := graceful.done rfl 7 (by decide)
  revert once
  decide

end TurboCore.Base
