import Mathlib
import TurboCore.Base.ThreadPool

/-!
# Shrinking the thread pool

`Resize` to fewer threads only stores the new target and wakes as many threads as are
surplus. Every thread then decides on its own, by comparing the size of `m_workers` with
the target, and that size changes only when a cleanup has joined all threads it finds.
So each shrink test made against the new target makes its thread leave, and the count is
right exactly while no more threads make the test than are surplus.
-/

namespace TurboCore.Base

open Foundation PoolRun

/-- The caller is in `Resize`, its `CleanupExitedThreads` included. -/
def CallerPc.isResizing : CallerPc → Bool
  | resizeTest _ | resizeLoad _ | resizeStore _ _ | resizeSpawn _ | resizeNotify _
  | cleanupLock .resize | cleanupJoin .resize _ _ => true
  | _ => false

/-- No shutdown and no `Resize` ahead of its cleanup; a cleanup under way has joined no
thread yet. -/
def CallerPc.isSteady (workers : List WorkerId) : CallerPc → Prop
  | outside | commitTest _ | commitPush _ | commitNotify _ | cleanupLock _ => True
  | cleanupJoin _ toVisit _ => workers ⊆ toVisit
  | _ => False

/-- A running pool whose threads, idle or busy, are all in `WorkerLoop`. -/
structure Steady (pool : PoolRun) : Prop where
  running : pool.isRunning = true
  target : pool.targetThreadNum = pool.workers.length
  distinct : pool.workers.Nodup
  inLoop : ∀ worker, worker ∈ pool.workers ↔ (pool.workerPc worker).inLoop = true
  joinable : ∀ worker ∈ pool.workers, pool.joined worker = false
  caller : ∀ caller, (pool.callerPc caller).isSteady pool.workers

theorem Steady.start (threadNum : Nat) : Steady (.start threadNum) where
  running := rfl
  target := by simp [PoolRun.start]
  distinct := List.nodup_range
  inLoop worker := by
    by_cases started : worker < threadNum <;> simp [PoolRun.start, started, WorkerPc.inLoop]
  joinable _ _ := rfl
  caller _ := trivial

/-- A pool that is resized once. -/
structure ShrinkRun where
  pool : PoolRun
  /-- the thread that called `Resize` -/
  resizer : Option CallerId
  /-- the shrink tests made since the new target was stored -/
  tests : Nat

/-- The event is a worker's shrink test against the new target. -/
def PoolRun.isShrinkTest (pool : PoolRun) (newThreadNum : Nat) : PoolEvent → Bool
  | .worker worker =>
      pool.workerPc worker = .shrinkTest ∧ pool.targetThreadNum = newThreadNum
  | _ => false

/-- All threads of a pool with one call of `Resize` and no shutdown. -/
def shrinkMachine (newThreadNum : Nat) : Machine ShrinkRun PoolEvent where
  step run event :=
    match event with
    | .shutdown _ => none
    | .resize caller threadNum =>
        if run.resizer = none ∧ threadNum = newThreadNum then
          (poolMachine.step run.pool event).map fun pool =>
            { run with pool := pool, resizer := some caller }
        else none
    | _ =>
        (poolMachine.step run.pool event).map fun pool =>
          { run with
            pool := pool
            tests := if run.pool.isShrinkTest newThreadNum event then run.tests + 1
              else run.tests }

/-- The threads that left `WorkerLoop` by the shrink test. -/
def PoolRun.leavers (pool : PoolRun) (members : List WorkerId) : Nat :=
  members.countP fun worker => pool.workerPc worker = .exited true

/-- The threads still in `WorkerLoop`. -/
def PoolRun.remaining (pool : PoolRun) (members : List WorkerId) : Nat :=
  members.countP fun worker => (pool.workerPc worker).inLoop

/-- No more threads than surplus have left, and enough are there when `Resize` is over. -/
structure ShrinksRight (members : List WorkerId) (newThreadNum : Nat) (run : ShrinkRun) :
    Prop where
  leavers : run.pool.leavers members ≤ members.length - newThreadNum
  remaining : ∀ caller, run.resizer = some caller →
    (run.pool.callerPc caller).isResizing = false → newThreadNum ≤ run.pool.remaining members

/-- A worker makes the shrink test against the new target only while fewer tests than
surplus threads were made. -/
def TestsSurplusOnly (members : List WorkerId) (newThreadNum : Nat) (run : ShrinkRun)
    (event : PoolEvent) : Prop :=
  run.pool.isShrinkTest newThreadNum event = true → run.tests < members.length - newThreadNum

instance (members : List WorkerId) (newThreadNum : Nat) (run : ShrinkRun) (event : PoolEvent) :
    Decidable (TestsSurplusOnly members newThreadNum run event) :=
  inferInstanceAs (Decidable (_ → _))

/-- What may be said of a caller while the pool shrinks: the resizer alone is ahead of the
store, and a cleanup still has to join every thread that is in its loop. -/
def CallerShrinks (members : List WorkerId) (newThreadNum : Nat) (run : ShrinkRun)
    (caller : CallerId) : CallerPc → Prop
  | .outside | .commitTest _ | .commitPush _ | .commitNotify _ | .cleanupLock _
  | .resizeNotify _ => True
  | .resizeTest threadNum | .resizeLoad threadNum =>
      threadNum = newThreadNum ∧ run.pool.targetThreadNum = members.length ∧
        run.resizer = some caller
  | .resizeStore threadNum oldThreadNum =>
      threadNum = newThreadNum ∧ oldThreadNum = members.length ∧ run.resizer = some caller ∧
        run.pool.targetThreadNum = members.length
  | .cleanupJoin _ toVisit _ =>
      ∀ worker ∈ members, worker ∈ toVisit ∨ run.pool.workerPc worker = .exited true
  | _ => False

/-- What holds of a caller goes on to hold while threads leave, and to the resizer the
target and its own call stay the same. -/
theorem CallerShrinks.carry {members : List WorkerId} {newThreadNum : Nat}
    {run after : ShrinkRun} {caller : CallerId} {position : CallerPc}
    (left : ∀ worker, run.pool.workerPc worker = .exited true →
      after.pool.workerPc worker = .exited true)
    (same : run.resizer = some caller →
      after.pool.targetThreadNum = run.pool.targetThreadNum ∧ after.resizer = run.resizer)
    (here : CallerShrinks members newThreadNum run caller position) :
    CallerShrinks members newThreadNum after caller position := by
  cases position with
  | cleanupJoin call toVisit removed =>
      exact fun worker member => (here worker member).imp_right (left worker)
  | resizeTest threadNum | resizeLoad threadNum =>
      obtain ⟨equal, target, resizing⟩ := here
      obtain ⟨sameTarget, sameResizer⟩ := same resizing
      exact ⟨equal, sameTarget.trans target, sameResizer.trans resizing⟩
  | resizeStore threadNum oldThreadNum =>
      obtain ⟨equal, old, resizing, target⟩ := here
      obtain ⟨sameTarget, sameResizer⟩ := same resizing
      exact ⟨equal, old, sameResizer.trans resizing, sameTarget.trans target⟩
  | _ => exact here

/-- Every thread of the pool is in its loop or has left it by a shrink test that counts. -/
structure Shrinking (members : List WorkerId) (newThreadNum : Nat) (run : ShrinkRun) :
    Prop where
  workers : run.pool.workers = members
  running : run.pool.isRunning = true
  target : run.pool.targetThreadNum = newThreadNum ∨
    run.pool.targetThreadNum = members.length ∧ run.tests = 0
  leavers : run.pool.leavers members = run.tests
  tests : run.tests ≤ members.length - newThreadNum
  member_of_inLoop : ∀ worker, (run.pool.workerPc worker).inLoop = true → worker ∈ members
  member : ∀ worker ∈ members, (run.pool.workerPc worker).inLoop = true ∨
    run.pool.workerPc worker = .exited true
  joined : ∀ worker ∈ members, run.pool.joined worker = true →
    run.pool.workerPc worker = .exited true
  caller : ∀ caller, CallerShrinks members newThreadNum run caller (run.pool.callerPc caller)
  resizer : ∀ caller, run.resizer = some caller →
    (run.pool.callerPc caller).isResizing = true
  before : run.resizer = none → run.pool.targetThreadNum = members.length

theorem Steady.shrinking {pool : PoolRun} (steady : Steady pool) (newThreadNum : Nat) :
    Shrinking pool.workers newThreadNum ⟨pool, none, 0⟩ where
  workers := rfl
  running := steady.running
  target := .inr ⟨steady.target, rfl⟩
  leavers := by
    refine List.countP_eq_zero.mpr fun worker member => ?_
    have inLoop := (steady.inLoop worker).mp member
    intro left
    rw [of_decide_eq_true left] at inLoop
    cases inLoop
  tests := Nat.zero_le _
  member_of_inLoop worker inLoop := (steady.inLoop worker).mpr inLoop
  member worker member := .inl ((steady.inLoop worker).mp member)
  joined worker member joined := by
    rw [steady.joinable worker member] at joined
    cases joined
  caller caller := by
    have steadyCaller := steady.caller caller
    cases position : pool.callerPc caller <;> rw [position] at steadyCaller
    case cleanupJoin call toVisit removed =>
        exact fun worker member => .inl (steadyCaller member)
    all_goals trivial
  resizer caller resizing := by cases resizing
  before _ := steady.target

section Counting

variable {members : List WorkerId} {pool next : PoolRun}

/-- The count only depends on who has left. -/
theorem PoolRun.leavers_congr
    (same : ∀ worker ∈ members,
      next.workerPc worker = .exited true ↔ pool.workerPc worker = .exited true) :
    next.leavers members = pool.leavers members :=
  List.countP_congr fun worker member => by simpa using same worker member

/-- One more thread has left. -/
theorem PoolRun.leavers_succ {worker : WorkerId} (distinct : members.Nodup)
    (member : worker ∈ members) (before : pool.workerPc worker ≠ .exited true)
    (after : next.workerPc worker = .exited true)
    (others : ∀ other, other ≠ worker → next.workerPc other = pool.workerPc other) :
    next.leavers members = pool.leavers members + 1 := by
  have split := List.perm_cons_erase member
  have rest : (members.erase worker).countP (fun other => next.workerPc other = .exited true)
      = (members.erase worker).countP (fun other => pool.workerPc other = .exited true) := by
    refine List.countP_congr fun other present => ?_
    rw [others other (distinct.mem_erase_iff.mp present).1]
  calc next.leavers members
      = (worker :: members.erase worker).countP
          (fun other => next.workerPc other = .exited true) := split.countP_eq _
    _ = (members.erase worker).countP (fun other => pool.workerPc other = .exited true) + 1 := by
        rw [List.countP_cons_of_pos (by simpa using after), rest]
    _ = (worker :: members.erase worker).countP
          (fun other => pool.workerPc other = .exited true) + 1 := by
        rw [List.countP_cons_of_neg (by simpa using before)]
    _ = pool.leavers members + 1 := by rw [PoolRun.leavers, split.countP_eq]

/-- A member that has not left is in its loop. -/
theorem Shrinking.members_length {newThreadNum : Nat} {run : ShrinkRun}
    (shrinking : Shrinking members newThreadNum run) :
    run.pool.leavers members + run.pool.remaining members = members.length := by
  have rest : run.pool.remaining members =
      members.countP fun worker => ¬ run.pool.workerPc worker = .exited true := by
    refine List.countP_congr fun worker member => ?_
    rcases shrinking.member worker member with inLoop | left
    · simp only [inLoop, true_iff, decide_eq_true_eq]
      intro left
      rw [left] at inLoop
      cases inLoop
    · simp [left, WorkerPc.inLoop]
  rw [rest, List.length_eq_countP_add_countP
    (fun worker => run.pool.workerPc worker = .exited true)]
  simp [PoolRun.leavers]

end Counting

section Steps

variable {members : List WorkerId} {newThreadNum : Nat} {run : ShrinkRun} {next : PoolRun}

/-- A worker's step is a shrink test against the new target, which it leaves by, or stays
in the loop. -/
theorem Shrinking.worker_cases {worker : WorkerId} (surplus : newThreadNum < members.length)
    (shrinking : Shrinking members newThreadNum run) (step : WorkerStep run.pool worker next) :
    (run.pool.workerPc worker).inLoop = true ∧
      (run.pool.isShrinkTest newThreadNum (.worker worker) = true ∧
          next.workerPc worker = .exited true ∨
        run.pool.isShrinkTest newThreadNum (.worker worker) = false ∧
          (next.workerPc worker).inLoop = true) := by
  have size : run.pool.workers.length = members.length := congrArg List.length shrinking.workers
  cases step with
  | shrink position tooMany =>
      have stored : run.pool.targetThreadNum = newThreadNum := by
        rcases shrinking.target with stored | ⟨same, _⟩
        · exact stored
        · omega
      exact ⟨by rw [position]; rfl, .inl ⟨by simp [isShrinkTest, position, stored], if_pos rfl⟩⟩
  | keepOn position needed =>
      have unchanged : run.pool.targetThreadNum ≠ newThreadNum := by omega
      exact ⟨by rw [position]; rfl, .inr ⟨by simp [isShrinkTest, unchanged],
        by simp [WorkerPc.inLoop]⟩⟩
  | leaveLoop _ stopped _ | leaveWait _ stopped _ =>
      rw [shrinking.running] at stopped
      cases stopped
  | lock position _ =>
      rcases position with position | position <;>
        exact ⟨by rw [position]; rfl, .inr ⟨by simp [isShrinkTest, position],
          by simp [WorkerPc.inLoop]⟩⟩
  | enterLoop position | ready position _ | idle position _ _ | sleep position
  | take _ _ position _ | finish _ position =>
      exact ⟨by rw [position]; rfl, .inr ⟨by simp [isShrinkTest, position],
        by simp [WorkerPc.inLoop]⟩⟩

theorem Shrinking.workerStep {worker : WorkerId} (distinct : members.Nodup)
    (surplus : newThreadNum < members.length) (shrinking : Shrinking members newThreadNum run)
    (guarded : TestsSurplusOnly members newThreadNum run (.worker worker))
    (step : WorkerStep run.pool worker next) :
    Shrinking members newThreadNum { run with
      pool := next
      tests := if run.pool.isShrinkTest newThreadNum (.worker worker) then run.tests + 1
        else run.tests } := by
  have frame := step.frame
  obtain ⟨inLoop, outcome⟩ := shrinking.worker_cases surplus step
  have own := shrinking.member_of_inLoop worker inLoop
  have staying : run.pool.workerPc worker ≠ .exited true := by
    intro left
    rw [left] at inLoop
    cases inLoop
  have left : ∀ other, run.pool.workerPc other = .exited true →
      next.workerPc other = .exited true := by
    intro other gone
    have different : other ≠ worker := by
      rintro rfl
      exact staying gone
    rw [step.workerPc_other different, gone]
  constructor
  case workers => exact frame.workers.trans shrinking.workers
  case running => exact frame.isRunning.trans shrinking.running
  case target =>
    rw [frame.targetThreadNum]
    rcases shrinking.target with stored | ⟨same, none⟩
    · exact .inl stored
    · refine .inr ⟨same, ?_⟩
      have notTest : run.pool.isShrinkTest newThreadNum (.worker worker) = false := by
        simp only [isShrinkTest, decide_eq_false_iff_not, not_and]
        omega
      simpa [notTest] using none
  case leavers =>
    rcases outcome with ⟨test, gone⟩ | ⟨test, inside⟩
    · simp only [test, if_true]
      rw [← shrinking.leavers]
      exact leavers_succ distinct own staying gone fun other different =>
        step.workerPc_other different
    · simp only [test, Bool.false_eq_true, if_false]
      rw [← shrinking.leavers]
      refine leavers_congr fun other _ => ?_
      by_cases same : other = worker
      · subst same
        refine iff_of_false (fun gone => ?_) staying
        rw [gone] at inside
        cases inside
      · rw [step.workerPc_other same]
  case tests =>
    rcases outcome with ⟨test, _⟩ | ⟨test, _⟩
    · simpa [test] using guarded test
    · simpa [test] using shrinking.tests
  case member_of_inLoop =>
    intro other inside
    by_cases same : other = worker
    · exact same ▸ own
    · rw [step.workerPc_other same] at inside
      exact shrinking.member_of_inLoop other inside
  case member =>
    intro other present
    by_cases same : other = worker
    · subst same
      exact outcome.elim (fun test => .inr test.2) fun stays => .inl stays.2
    · rw [step.workerPc_other same]
      exact shrinking.member other present
  case joined =>
    intro other present joined
    rw [frame.joined] at joined
    exact left other (shrinking.joined other present joined)
  case caller =>
    intro caller
    rw [frame.callerPc]
    exact (shrinking.caller caller).carry left fun _ => ⟨frame.targetThreadNum, rfl⟩
  case resizer =>
    intro caller resizing
    rw [frame.callerPc]
    exact shrinking.resizer caller resizing
  case before =>
    intro none
    exact frame.targetThreadNum.trans (shrinking.before none)

/-- Waking sleeping threads, joining threads that have left and moving callers to where
they may stand change nothing that counts. -/
theorem Shrinking.of_frame
    (shrinking : Shrinking members newThreadNum run)
    (workers : next.workers = run.pool.workers) (running : next.isRunning = run.pool.isRunning)
    (target : next.targetThreadNum = run.pool.targetThreadNum)
    (workerPc : ∀ worker, next.workerPc worker = run.pool.workerPc worker ∨
      run.pool.workerPc worker = .waiting ∧ next.workerPc worker = .woken)
    (joined : ∀ worker ∈ members, next.joined worker = true →
      run.pool.joined worker = true ∨ run.pool.workerPc worker = .exited true)
    (callers : ∀ caller, next.callerPc caller = run.pool.callerPc caller ∨
      CallerShrinks members newThreadNum { run with pool := next } caller
          (next.callerPc caller) ∧
        (run.resizer = some caller → (next.callerPc caller).isResizing = true)) :
    Shrinking members newThreadNum { run with pool := next } := by
  have inLoop : ∀ worker,
      (next.workerPc worker).inLoop = (run.pool.workerPc worker).inLoop := by
    intro worker
    rcases workerPc worker with same | ⟨asleep, awake⟩
    · rw [same]
    · rw [asleep, awake]
      rfl
  have left : ∀ worker, next.workerPc worker = .exited true ↔
      run.pool.workerPc worker = .exited true := by
    intro worker
    rcases workerPc worker with same | ⟨asleep, awake⟩
    · rw [same]
    · simp [asleep, awake]
  constructor
  case workers => exact workers.trans shrinking.workers
  case running => exact running.trans shrinking.running
  case target => simpa only [target] using shrinking.target
  case leavers => exact (leavers_congr fun worker _ => left worker).trans shrinking.leavers
  case tests => exact shrinking.tests
  case member_of_inLoop =>
    intro worker inside
    rw [inLoop] at inside
    exact shrinking.member_of_inLoop worker inside
  case member =>
    intro worker present
    rw [inLoop, left]
    exact shrinking.member worker present
  case joined =>
    intro worker present done
    rw [left]
    exact (joined worker present done).elim (shrinking.joined worker present) id
  case caller =>
    intro caller
    rcases callers caller with same | ⟨own, _⟩
    · rw [same]
      exact (shrinking.caller caller).carry (fun worker => (left worker).mpr)
        fun _ => ⟨target, rfl⟩
    · exact own
  case resizer =>
    intro caller resizing
    rcases callers caller with same | ⟨_, inResize⟩
    · rw [same]
      exact shrinking.resizer caller resizing
    · exact inResize resizing
  case before =>
    intro none
    exact target.trans (shrinking.before none)

/-- A step of one caller. -/
theorem Shrinking.of_caller {caller : CallerId}
    (shrinking : Shrinking members newThreadNum run)
    (workers : next.workers = run.pool.workers) (running : next.isRunning = run.pool.isRunning)
    (target : next.targetThreadNum = run.pool.targetThreadNum)
    (workerPc : ∀ worker, next.workerPc worker = run.pool.workerPc worker ∨
      run.pool.workerPc worker = .waiting ∧ next.workerPc worker = .woken)
    (joined : ∀ worker ∈ members, next.joined worker = true →
      run.pool.joined worker = true ∨ run.pool.workerPc worker = .exited true)
    (others : ∀ other, other ≠ caller → next.callerPc other = run.pool.callerPc other)
    (own : CallerShrinks members newThreadNum { run with pool := next } caller
      (next.callerPc caller))
    (resizer : run.resizer = some caller → (next.callerPc caller).isResizing = true) :
    Shrinking members newThreadNum { run with pool := next } := by
  refine shrinking.of_frame workers running target workerPc joined fun other => ?_
  by_cases same : other = caller
  · subst same
    exact .inr ⟨own, resizer⟩
  · exact .inl (others other same)

/-- `m_target_thread_num = new_thread_num`: from here on every shrink test counts. -/
theorem Shrinking.store {caller : CallerId} {removeNum : Nat}
    (shrinking : Shrinking members newThreadNum run) (resizing : run.resizer = some caller) :
    Shrinking members newThreadNum { run with
      pool := { run.pool with targetThreadNum := newThreadNum }.setCaller caller
        (.resizeNotify removeNum) } := by
  refine { shrinking with target := .inl rfl, caller := ?_, resizer := ?_, before := ?_ }
  · intro other
    by_cases same : other = caller
    · simp [same, CallerShrinks]
    · simp only [setCaller_callerPc, same, if_false]
      refine (shrinking.caller other).carry ?_ ?_
      · exact fun _ gone => gone
      · intro isResizer
        exact absurd (Option.some.inj (isResizer.symm.trans resizing)) same
  · intro other isResizer
    have same : other = caller := Option.some.inj (isResizer.symm.trans resizing)
    simp [same, CallerPc.isResizing]
  · intro none
    rw [resizing] at none
    cases none

/-- Some thread has not left, so no cleanup gets to the end of its list. -/
theorem Shrinking.exists_staying (positive : 0 < newThreadNum)
    (surplus : newThreadNum < members.length) (shrinking : Shrinking members newThreadNum run) :
    ∃ worker ∈ members, run.pool.workerPc worker ≠ .exited true := by
  by_contra! everyone
  have all : run.pool.leavers members = members.length :=
    List.countP_eq_length.mpr fun worker member => decide_eq_true (everyone worker member)
  have counted := shrinking.leavers
  have tests := shrinking.tests
  omega

/-- A thread of the pool that is not in its loop has left it by the shrink test. -/
theorem Shrinking.left_of_hasExited {worker : WorkerId}
    (shrinking : Shrinking members newThreadNum run) (member : worker ∈ members)
    (exited : (run.pool.workerPc worker).hasExited = true) :
    run.pool.workerPc worker = .exited true := by
  refine (shrinking.member worker member).resolve_left fun inLoop => ?_
  cases position : run.pool.workerPc worker <;>
    simp [position, WorkerPc.hasExited, WorkerPc.inLoop] at exited inLoop

/-- A caller's step that changes nothing but where it stands. -/
theorem Shrinking.move {caller : CallerId} {target : CallerPc}
    (shrinking : Shrinking members newThreadNum run)
    (own : CallerShrinks members newThreadNum { run with pool := run.pool.setCaller caller target }
      caller target)
    (resizer : run.resizer = some caller → target.isResizing = true) :
    Shrinking members newThreadNum { run with pool := run.pool.setCaller caller target } :=
  shrinking.of_caller rfl rfl rfl (fun _ => .inl rfl) (fun _ _ joined => .inl joined)
    (fun _ different => if_neg different) (by simpa using own) (by simpa using resizer)

/-- `notify_one`. -/
theorem Shrinking.notify {caller : CallerId} {woken : Option WorkerId} {middle : PoolRun}
    {target : CallerPc} (shrinking : Shrinking members newThreadNum run)
    (notified : run.pool.notifyOne woken = some middle)
    (own : CallerShrinks members newThreadNum { run with pool := middle.setCaller caller target }
      caller target)
    (resizer : run.resizer = some caller → target.isResizing = true) :
    Shrinking members newThreadNum { run with pool := middle.setCaller caller target } := by
  rcases notifyOne_cases notified with rfl | ⟨worker, asleep, rfl⟩
  · exact shrinking.move own resizer
  · refine shrinking.of_caller rfl rfl rfl (fun other => ?_) (fun _ _ joined => .inl joined)
      (fun _ different => if_neg different) (by simpa using own) (by simpa using resizer)
    by_cases same : other = worker
    · exact .inr ⟨same ▸ asleep, if_pos same⟩
    · exact .inl (if_neg same)

/-- The thread that a cleanup visits next has left when the cleanup goes on. -/
theorem Shrinking.visited {caller : CallerId} {worker : WorkerId} {toVisit : List WorkerId}
    {call : CleanupCall} {removed : List WorkerId}
    (shrinking : Shrinking members newThreadNum run)
    (position : run.pool.callerPc caller = .cleanupJoin call (worker :: toVisit) removed)
    (done : run.pool.joined worker = true ∨ (run.pool.workerPc worker).hasExited = true) :
    ∀ other ∈ members, other ∈ toVisit ∨ run.pool.workerPc other = .exited true := by
  intro other member
  have here := shrinking.caller caller
  rw [position] at here
  rcases here other member with visiting | left
  · rcases List.mem_cons.mp visiting with rfl | later
    · rcases done with joined | exited
      · exact .inr (shrinking.joined other member joined)
      · exact .inr (shrinking.left_of_hasExited member exited)
    · exact .inl later
  · exact .inr left

/-- One step of `remove_if`. -/
theorem Shrinking.cleanupStep {caller : CallerId} {woken : Option WorkerId} {call : CleanupCall}
    {toVisit removed : List WorkerId} (positive : 0 < newThreadNum)
    (surplus : newThreadNum < members.length) (shrinking : Shrinking members newThreadNum run)
    (position : run.pool.callerPc caller = .cleanupJoin call toVisit removed)
    (transition : run.pool.callerStep caller woken = some next) :
    Shrinking members newThreadNum { run with pool := next } := by
  have resizer := shrinking.resizer caller
  rw [position] at resizer
  have inResize : ∀ rest removed', run.resizer = some caller →
      (CallerPc.cleanupJoin call rest removed').isResizing = true := by
    intro rest removed' resizing
    have before := resizer resizing
    cases call with
    | commit => cases before
    | resize => rfl
  cases toVisit with
  | nil =>
      -- every thread would have left
      obtain ⟨worker, member, staying⟩ := shrinking.exists_staying positive surplus
      have here := shrinking.caller caller
      rw [position] at here
      rcases here worker member with visiting | left
      · cases visiting
      · exact absurd left staying
  | cons worker toVisit =>
      simp only [PoolRun.callerStep, position] at transition
      split at transition
      · next joined =>
          cases transition
          exact shrinking.move (shrinking.visited position (.inl joined)) (inResize _ _)
      · split at transition
        · next exited =>
            cases transition
            refine shrinking.of_caller rfl rfl rfl (fun _ => .inl rfl) ?_
              (fun _ different => if_neg different) ?_ (by simpa using inResize _ _)
            · intro other member done
              by_cases same : other = worker
              · exact .inr (shrinking.left_of_hasExited member (same ▸ exited))
              · exact .inl (by simpa [same] using done)
            · rw [setCaller_callerPc, if_pos rfl]
              exact shrinking.visited position (.inr exited)
        · cases transition

theorem Shrinking.callerStep {caller : CallerId} {woken : Option WorkerId}
    (positive : 0 < newThreadNum) (surplus : newThreadNum < members.length)
    (shrinking : Shrinking members newThreadNum run)
    (transition : run.pool.callerStep caller woken = some next) :
    Shrinking members newThreadNum { run with pool := next } := by
  have here := shrinking.caller caller
  have resizer := shrinking.resizer caller
  cases position : run.pool.callerPc caller with
  | outside => simp only [PoolRun.callerStep, position, reduceCtorEq] at transition
  | commitTest task =>
      simp only [PoolRun.callerStep, position, shrinking.running, if_true,
        Option.some.injEq] at transition
      subst transition
      rw [position] at resizer
      exact shrinking.move trivial resizer
  | commitPush task =>
      simp only [PoolRun.callerStep, position, Option.ite_none_right_eq_some,
        Option.some.injEq] at transition
      obtain ⟨_, rfl⟩ := transition
      rw [position] at resizer
      exact shrinking.of_caller rfl rfl rfl (fun _ => .inl rfl) (fun _ _ joined => .inl joined)
        (fun _ different => if_neg different) (by simp [CallerShrinks])
        (by simpa [CallerPc.isResizing] using resizer)
  | commitNotify task =>
      simp only [PoolRun.callerStep, position, Option.map_eq_some_iff] at transition
      obtain ⟨middle, wake, rfl⟩ := transition
      rw [position] at resizer
      exact shrinking.notify wake trivial resizer
  | resizeTest threadNum =>
      simp only [PoolRun.callerStep, position, shrinking.running, if_true,
        Option.some.injEq] at transition
      subst transition
      rw [position] at here
      exact shrinking.move here fun _ => rfl
  | resizeLoad threadNum =>
      rw [position] at here
      obtain ⟨rfl, target, resizing⟩ := here
      have differs : threadNum ≠ run.pool.targetThreadNum := by omega
      simp only [PoolRun.callerStep, position, differs, if_false, Option.some.injEq] at transition
      subst transition
      exact shrinking.move ⟨rfl, target, resizing, target⟩ fun _ => rfl
  | resizeStore threadNum oldThreadNum =>
      rw [position] at here
      obtain ⟨rfl, rfl, resizing, target⟩ := here
      have fewer : ¬ members.length < threadNum := by omega
      simp only [PoolRun.callerStep, position, fewer, if_false, Option.some.injEq] at transition
      subst transition
      exact shrinking.store resizing
  | resizeSpawn addNum =>
      rw [position] at here
      exact here.elim
  | resizeNotify removeNum =>
      cases removeNum with
      | zero =>
          simp only [PoolRun.callerStep, position, Option.some.injEq] at transition
          subst transition
          exact shrinking.move trivial fun _ => rfl
      | succ removeNum =>
          simp only [PoolRun.callerStep, position, Option.map_eq_some_iff] at transition
          obtain ⟨middle, wake, rfl⟩ := transition
          exact shrinking.notify wake trivial fun _ => rfl
  | cleanupLock call =>
      simp only [PoolRun.callerStep, position, Option.ite_none_right_eq_some,
        Option.some.injEq] at transition
      obtain ⟨_, rfl⟩ := transition
      rw [position] at resizer
      refine shrinking.of_caller rfl rfl rfl (fun _ => .inl rfl) (fun _ _ joined => .inl joined)
        (fun _ different => if_neg different) ?_ ?_
      · rw [setCaller_callerPc, if_pos rfl]
        exact fun worker member => .inl (shrinking.workers ▸ member)
      · intro resizing
        have inResize := resizer resizing
        cases call with
        | commit => cases inResize
        | resize => simp [CallerPc.isResizing]
  | cleanupJoin call toVisit removed =>
      exact shrinking.cleanupStep positive surplus position transition
  | shutdownTest | shutdownStore | shutdownNotify | shutdownJoin | shutdownClear =>
      rw [position] at here
      exact here.elim

/-- A call begins. -/
theorem Shrinking.commit {caller : CallerId} {task : Task}
    (shrinking : Shrinking members newThreadNum run) (idle : run.pool.callerPc caller = .outside) :
    Shrinking members newThreadNum { run with
      pool := { run.pool.setCaller caller (.commitTest task) with
        issued := task :: run.pool.issued } } := by
  have resizer := shrinking.resizer caller
  rw [idle] at resizer
  exact shrinking.of_caller rfl rfl rfl (fun _ => .inl rfl) (fun _ _ joined => .inl joined)
    (fun _ different => if_neg different) (by simp [CallerShrinks])
    (by simpa [CallerPc.isResizing] using resizer)

theorem Shrinking.resize {caller : CallerId} (shrinking : Shrinking members newThreadNum run)
    (first : run.resizer = none) :
    Shrinking members newThreadNum { run with
      pool := run.pool.setCaller caller (.resizeTest newThreadNum)
      resizer := some caller } := by
  have target := shrinking.before first
  refine { shrinking with caller := ?_, resizer := ?_, before := ?_ }
  · intro other
    by_cases same : other = caller
    · subst same
      rw [setCaller_callerPc, if_pos rfl]
      exact ⟨rfl, target, rfl⟩
    · simp only [setCaller_callerPc, same, if_false]
      refine (shrinking.caller other).carry ?_ ?_
      · exact fun _ gone => gone
      · intro isResizer
        rw [first] at isResizer
        cases isResizer
  · intro other isResizer
    have same : other = caller := (Option.some.inj isResizer).symm
    simp [same, CallerPc.isResizing]
  · intro none
    cases none

theorem Shrinking.spurious {worker : WorkerId} (shrinking : Shrinking members newThreadNum run)
    (asleep : run.pool.workerPc worker = .waiting) :
    Shrinking members newThreadNum { run with pool := run.pool.setWorker worker .woken } := by
  refine shrinking.of_frame rfl rfl rfl (fun other => ?_) (fun _ _ joined => .inl joined)
    fun _ => .inl rfl
  by_cases same : other = worker
  · exact .inr ⟨same ▸ asleep, if_pos same⟩
  · exact .inl (if_neg same)

/-- A step of the pool in which no more shrink tests than surplus are made. -/
theorem Shrinking.step {next : ShrinkRun} {event : PoolEvent} (distinct : members.Nodup)
    (positive : 0 < newThreadNum) (surplus : newThreadNum < members.length)
    (shrinking : Shrinking members newThreadNum run)
    (guarded : TestsSurplusOnly members newThreadNum run event)
    (transition : (shrinkMachine newThreadNum).step run event = some next) :
    Shrinking members newThreadNum next := by
  cases event with
  | shutdown caller => cases transition
  | resize caller threadNum =>
      simp only [shrinkMachine, Option.ite_none_right_eq_some, Option.map_eq_some_iff]
        at transition
      obtain ⟨⟨first, rfl⟩, pool, poolStep, rfl⟩ := transition
      cases poolStep_cases poolStep with
      | resize _ _ idle => exact shrinking.resize first
  | commit caller task =>
      simp only [shrinkMachine, Option.map_eq_some_iff] at transition
      obtain ⟨pool, poolStep, rfl⟩ := transition
      cases poolStep_cases poolStep with
      | commit _ _ idle fresh => exact shrinking.commit idle
  | caller caller woken =>
      simp only [shrinkMachine, Option.map_eq_some_iff] at transition
      obtain ⟨pool, poolStep, rfl⟩ := transition
      exact shrinking.callerStep positive surplus poolStep
  | worker worker =>
      simp only [shrinkMachine, Option.map_eq_some_iff] at transition
      obtain ⟨pool, poolStep, rfl⟩ := transition
      cases poolStep_cases poolStep with
      | worker _ _ step => exact shrinking.workerStep distinct surplus guarded step
  | spurious worker =>
      simp only [shrinkMachine, Option.map_eq_some_iff] at transition
      obtain ⟨pool, poolStep, rfl⟩ := transition
      cases poolStep_cases poolStep with
      | spurious _ asleep => exact shrinking.spurious asleep

theorem Shrinking.shrinksRight (surplus : newThreadNum < members.length)
    (shrinking : Shrinking members newThreadNum run) :
    ShrinksRight members newThreadNum run where
  leavers := shrinking.leavers ▸ shrinking.tests
  remaining _ _ _ := by
    have counted := shrinking.members_length
    rw [shrinking.leavers] at counted
    have tests := shrinking.tests
    omega

/-- One shrink test too many makes one thread too many leave. -/
theorem Shrinking.testsSurplusOnly {next : ShrinkRun} {event : PoolEvent}
    (distinct : members.Nodup) (surplus : newThreadNum < members.length)
    (shrinking : Shrinking members newThreadNum run)
    (transition : (shrinkMachine newThreadNum).step run event = some next)
    (right : ShrinksRight members newThreadNum next) :
    TestsSurplusOnly members newThreadNum run event := by
  intro test
  cases event with
  | worker worker =>
      simp only [shrinkMachine, Option.map_eq_some_iff] at transition
      obtain ⟨pool, poolStep, rfl⟩ := transition
      cases poolStep_cases poolStep with
      | worker _ _ step =>
          obtain ⟨inLoop, outcome⟩ := shrinking.worker_cases surplus step
          rcases outcome with ⟨_, left⟩ | ⟨noTest, _⟩
          · have staying : run.pool.workerPc worker ≠ .exited true := by
              intro gone
              rw [gone] at inLoop
              cases inLoop
            have one := leavers_succ distinct (shrinking.member_of_inLoop worker inLoop) staying
              left fun other different => step.workerPc_other different
            have bound := right.leavers
            have counted := shrinking.leavers
            simp only at bound
            omega
          · rw [noTest] at test
            cases test
  | _ => cases test

end Steps

/-- While a pool is resized to fewer threads, no more threads than surplus leave and
enough are left, throughout exactly the schedules in which no more workers than surplus
make the shrink test after the new target was stored. -/
theorem shrinksRight_iff {pool : PoolRun} {newThreadNum : Nat} (steady : Steady pool)
    (positive : 1 ≤ newThreadNum) (surplus : newThreadNum < pool.workers.length)
    (events : List PoolEvent) :
    (shrinkMachine newThreadNum).Throughout (ShrinksRight pool.workers newThreadNum)
        ⟨pool, none, 0⟩ events ↔
      (shrinkMachine newThreadNum).Guarded (TestsSurplusOnly pool.workers newThreadNum)
        ⟨pool, none, 0⟩ events :=
  Machine.throughout_iff_guarded (fun _ shrinking => shrinking.shrinksRight surplus)
    (fun _ _ _ shrinking guarded transition =>
      shrinking.step steady.distinct positive surplus guarded transition)
    (fun _ _ _ shrinking transition right =>
      shrinking.testsSurplusOnly steady.distinct surplus transition right)
    (steady.shrinking newThreadNum) events

/-- In these schedules `Resize` does not return: its cleanup waits for a thread that stays. -/
theorem resize_never_returns {pool : PoolRun} {newThreadNum : Nat} (steady : Steady pool)
    (positive : 1 ≤ newThreadNum) (surplus : newThreadNum < pool.workers.length)
    {events : List PoolEvent} {run : ShrinkRun}
    (guarded : (shrinkMachine newThreadNum).Run
      (TestsSurplusOnly pool.workers newThreadNum) ⟨pool, none, 0⟩ events run) :
    ∀ caller, run.resizer = some caller → (run.pool.callerPc caller).isResizing = true := by
  have shrinking := guarded.invariant (Shrinking pool.workers newThreadNum)
    (steady.shrinking newThreadNum) fun _ _ _ shrinking admitted transition =>
      shrinking.step steady.distinct positive surplus admitted transition
  exact shrinking.resizer

/-- Of two threads one is in a task, and the other leaves. -/
def oneLeaves : List PoolEvent :=
  [.commit 1 7, .caller 1 none, .caller 1 none, .worker 1, .worker 1, .worker 1, .worker 1,
    .worker 1, .resize 0 1, .caller 0 none, .caller 0 none, .caller 0 none, .caller 0 none,
    .worker 0, .worker 0, .caller 0 none]

theorem oneLeaves_shrinksRight :
    (shrinkMachine 1).Throughout (ShrinksRight (PoolRun.start 2).workers 1)
      ⟨.start 2, none, 0⟩ oneLeaves :=
  (shrinksRight_iff (Steady.start 2) (by decide) (by decide) oneLeaves).mpr
    (by decide +kernel)

/-- Two threads at their loop test while the pool is resized to one. -/
def bothLeave : List PoolEvent :=
  [.resize 0 1, .caller 0 none, .caller 0 none, .caller 0 none, .worker 0, .worker 0,
    .worker 1, .worker 1]

/-- Both threads find the vector larger than the target and leave. -/
theorem shrinking_to_one_leaves_none :
    ¬ ∀ (oldThreadNum newThreadNum : Nat) (events : List PoolEvent) (run : ShrinkRun),
      1 ≤ newThreadNum → newThreadNum < oldThreadNum →
      (shrinkMachine newThreadNum).AnyRun ⟨.start oldThreadNum, none, 0⟩ events run →
      ShrinksRight (PoolRun.start oldThreadNum).workers newThreadNum run := by
  intro always
  have right := always 2 1 bothLeave _ (by decide) (by decide) (Machine.run_of_exec rfl)
  exact absurd right.leavers (by decide +kernel)

end TurboCore.Base
