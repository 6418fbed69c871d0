import Mathlib
import TurboCore.Foundation.PriorityQueue
import TurboCore.Net.EventLoop

/-!
# The timers of an event loop

`EventLoop::RunAfter` from any thread at any moment, against the rounds of
`ProcessDelayedTasks`, over the loop of `TaskLoop`. A `RunAfter` reads the clock and fixes
the deadline in one step and pushes the task under `m_mutex` in another; a round takes the
due tasks under the mutex with one reading of the clock and calls them one by one after it.
Callbacks call `RunAfter` like any other code.
-/

namespace TurboCore.Net

open Foundation

variable {Double Functor Thread : Type}

/-- `EventLoop::DelayedTask`; `call` counts the `RunAfter` calls and tells tasks apart. -/
structure DelayedTask (Double Functor : Type) where
  seconds : Double
  expireTime : Int
  /-- `none` is an empty `std::function` -/
  cb : Option Functor
  call : Nat
deriving DecidableEq

/-- `DelayedTaskCompare`: the other way round, for a queue with the earliest on top. -/
def delayedTaskCompare (a b : DelayedTask Double Functor) : Bool := b.expireTime < a.expireTime

/-- The `std::priority_queue` of the loop. -/
abbrev TaskHeap (Double Functor : Type) : Type 1 :=
  PriorityQueue.{0, 0} (DelayedTask Double Functor) delayedTaskCompare

/-- `steady_clock::now() + milliseconds(ms)` in the 64-bit nanosecond ticks of the clock. -/
def addMilliseconds (now ms : Int) : Int := (now + ms * 1000000).bmod (2 ^ 64)

/-- Where the loop thread stands in the part of an iteration after `DoPendingFunctors`. -/
inductive TimerPhase where
  /-- not yet in `ProcessDelayedTasks` in this iteration -/
  | before
  /-- in the `for` over `ready_tasks`, between two tasks -/
  | betweenTasks
  /-- in `task.cb()` -/
  | inCallback
  /-- `ProcessDelayedTasks` has returned -/
  | done
deriving DecidableEq

/-- The delayed tasks of a loop, wherever they are. -/
structure Timers (heap : TaskHeap Double Functor) (Thread : Type) where
  delayedTasks : heap.Queue
  /-- the local `task` of each `RunAfter` under way, with the calling thread -/
  arming : List (Thread × DelayedTask Double Functor)
  /-- what the `for` over `ready_tasks` has left -/
  readyTasks : List (DelayedTask Double Functor)
  /-- the tasks that the `for` has come to, each with the clock at that time -/
  served : List (DelayedTask Double Functor × Int)
  /-- calls of `RunAfter` -/
  calls : Nat

/-- `EventLoop` with its timers. -/
structure TimerLoop (heap : TaskHeap Double Functor) (Thread : Type) where
  tasks : TaskLoop Functor
  /-- `steady_clock::now()` -/
  now : Int
  timers : Timers heap Thread
  timerPhase : TimerPhase

inductive TimerAction (Double Functor Thread : Type) where
  | loop (action : LoopAction Functor)
  /-- time passes -/
  | tick (elapsed : Nat)
  /-- `RunAfter` up to the lock -/
  | runAfter (thread : Thread) (delaySeconds : Double) (cb : Option Functor)
  /-- `RunAfter` from the lock on -/
  | pushTask (thread : Thread)
  /-- the locked part of `ProcessDelayedTasks` -/
  | takeReady
  /-- the next round of the `for` over `ready_tasks` -/
  | serveNext
  | callbackReturns
  | leaveTimers

def TimerAction.isTakeReady : TimerAction Double Functor Thread → Bool
  | takeReady => true
  | _ => false

namespace Timers

variable {heap : TaskHeap Double Functor}

/-- The calls whose tasks are on their way: being armed, queued, ready, and served. -/
def ledger (timers : Timers heap Thread) : Multiset Nat :=
  ↑(timers.arming.map (·.2.call)) + (heap.elements timers.delayedTasks).map (·.call) +
    ↑(timers.readyTasks.map (·.call)) + ↑(timers.served.map (·.1.call))

/-- The tasks that were taken out of the queue. -/
def taken (timers : Timers heap Thread) : List (DelayedTask Double Functor) :=
  timers.served.map (·.1) ++ timers.readyTasks

/-- The tasks whose callbacks were called, each with the clock at the call. -/
def executed (timers : Timers heap Thread) : List (DelayedTask Double Functor × Int) :=
  timers.served.filter (·.1.cb.isSome)

end Timers

namespace TimerLoop

variable {heap : TaskHeap Double Functor}

def initial (heap : TaskHeap Double Functor) (Thread : Type) (now : Int) :
    TimerLoop heap Thread where
  tasks := .initial
  now := now
  timers := ⟨heap.empty, [], [], [], 0⟩
  timerPhase := .before

/-- The locked part of `ProcessDelayedTasks`. -/
def takeReady (loop : TimerLoop heap Thread) : TimerLoop heap Thread :=
  let popped := heap.popWhile (·.expireTime ≤ loop.now) loop.timers.delayedTasks
  { loop with
    timers := { loop.timers with readyTasks := popped.1, delayedTasks := popped.2 }
    timerPhase := .betweenTasks }

@[simp] theorem takeReady_arming (loop : TimerLoop heap Thread) :
    loop.takeReady.timers.arming = loop.timers.arming := rfl

@[simp] theorem takeReady_served (loop : TimerLoop heap Thread) :
    loop.takeReady.timers.served = loop.timers.served := rfl

@[simp] theorem takeReady_calls (loop : TimerLoop heap Thread) :
    loop.takeReady.timers.calls = loop.timers.calls := rfl

variable [DecidableEq Thread]

/-- The thread is not inside a `RunAfter`. -/
def isFree (loop : TimerLoop heap Thread) (thread : Thread) : Bool :=
  loop.timers.arming.all (·.1 ≠ thread)

/-- The loop thread is in code that may call the loop: an I/O handler, a functor, a timer's
callback, or what it runs outside `Loop`. -/
def inUserCode (loop : TimerLoop heap Thread) : Bool :=
  match loop.timerPhase with
  | .before =>
      match loop.tasks.phase with
      | .idle | .handlers true | .inFunctor => true
      | _ => false
  | .inCallback => true
  | .betweenTasks | .done => false

/-- Where the loop thread has to stand for an action of the rest of the loop. -/
def admits (loop : TimerLoop heap Thread) (loopThread : Thread) : LoopAction Functor → Bool
  | .queueInLoop inLoop _ | .runInLoop inLoop _ | .requestQuit inLoop =>
      !inLoop || loop.isFree loopThread && loop.inUserCode
  | .endIteration => loop.timerPhase = .done
  | _ => loop.isFree loopThread && loop.timerPhase = .before

/-- `RunAfter` up to the lock: the task with its deadline, in the local `task`. -/
def runAfter (milliseconds : Double → Int) (loop : TimerLoop heap Thread) (thread : Thread)
    (delaySeconds : Double) (cb : Option Functor) : TimerLoop heap Thread :=
  let task : DelayedTask Double Functor :=
    { seconds := delaySeconds
      expireTime := addMilliseconds loop.now (milliseconds delaySeconds)
      cb := cb
      call := loop.timers.calls }
  { loop with timers := { loop.timers with
      arming := (thread, task) :: loop.timers.arming
      calls := loop.timers.calls + 1 } }

/-- `RunAfter` from the lock on: the push, then a wake-up where one is needed. -/
def pushTask (loop : TimerLoop heap Thread) (loopThread thread : Thread) :
    Option (TimerLoop heap Thread) :=
  match loop.timers.arming.find? (·.1 = thread) with
  | none => none
  | some (_, task) =>
      some { loop with
        timers := { loop.timers with
          arming := loop.timers.arming.eraseP (·.1 = thread)
          delayedTasks := heap.push loop.timers.delayedTasks task }
        tasks := if thread ≠ loopThread ∨ loop.tasks.callingPendingFunctors = true then
          loop.tasks.wakeup else loop.tasks }

/-- One step of some thread; `none` where the thread stands elsewhere. `milliseconds` is
`static_cast<int64_t>(delay_seconds * 1000)`. -/
def step (milliseconds : Double → Int) (loopThread : Thread) (loop : TimerLoop heap Thread) :
    TimerAction Double Functor Thread → Option (TimerLoop heap Thread)
  | .loop action =>
      if loop.admits loopThread action then
        (TaskLoop.machine.step loop.tasks action).map fun tasks =>
          { loop with
            tasks := tasks
            timerPhase := match action with
              | .endIteration => .before
              | _ => loop.timerPhase }
      else none
  | .tick elapsed => some { loop with now := loop.now + elapsed }
  | .runAfter thread delaySeconds cb =>
      if loop.isFree thread && (thread ≠ loopThread || loop.inUserCode) then
        some (loop.runAfter milliseconds thread delaySeconds cb)
      else none
  | .pushTask thread => loop.pushTask loopThread thread
  | .takeReady =>
      match loop.timerPhase, loop.tasks.phase with
      | .before, .handlers false => some loop.takeReady
      | _, _ => none
  | .serveNext =>
      match loop.timerPhase, loop.timers.readyTasks with
      | .betweenTasks, task :: rest =>
          some { loop with
            timers := { loop.timers with
              readyTasks := rest
              served := loop.timers.served ++ [(task, loop.now)] }
            timerPhase := if task.cb.isSome then .inCallback else .betweenTasks }
      | _, _ => none
  | .callbackReturns =>
      if loop.isFree loopThread ∧ loop.timerPhase = .inCallback then
        some { loop with timerPhase := .betweenTasks }
      else none
  | .leaveTimers =>
      match loop.timerPhase, loop.timers.readyTasks with
      | .betweenTasks, [] => some { loop with timerPhase := .done }
      | _, _ => none

def machine (milliseconds : Double → Int) (loopThread : Thread) :
    Machine (TimerLoop heap Thread) (TimerAction Double Functor Thread) :=
  ⟨step milliseconds loopThread⟩

/-- What one step does to the delayed tasks. -/
inductive TimerStep (loop : TimerLoop heap Thread) :
    TimerAction Double Functor Thread → TimerLoop heap Thread → Prop where
  /-- every other step, of the loop or of the clock, moves none -/
  | other (action : TimerAction Double Functor Thread) (next : TimerLoop heap Thread)
      (notTaking : action.isTakeReady = false) (same : next.timers = loop.timers)
      (clock : loop.now ≤ next.now)
      (round : next.timerPhase = loop.timerPhase ∨ next.timerPhase = .betweenTasks ∨
        loop.timerPhase = .done ∨ loop.timers.readyTasks = []) :
      TimerStep loop action next
  | runAfter (thread : Thread) (delaySeconds : Double) (cb : Option Functor)
      (milliseconds : Double → Int) :
      TimerStep loop (.runAfter thread delaySeconds cb)
        (loop.runAfter milliseconds thread delaySeconds cb)
  | pushTask (thread : Thread) (task : DelayedTask Double Functor) (tasks : TaskLoop Functor)
      (found : loop.timers.arming.find? (·.1 = thread) = some (thread, task)) :
      TimerStep loop (.pushTask thread)
        { loop with
          timers := { loop.timers with
            arming := loop.timers.arming.eraseP (·.1 = thread)
            delayedTasks := heap.push loop.timers.delayedTasks task }
          tasks := tasks }
  | takeReady (phase : loop.timerPhase = .before) : TimerStep loop .takeReady loop.takeReady
  | serve (task : DelayedTask Double Functor) (rest : List (DelayedTask Double Functor))
      (timerPhase : TimerPhase) (phase : loop.timerPhase = .betweenTasks)
      (ready : loop.timers.readyTasks = task :: rest)
      (inRound : timerPhase = .betweenTasks ∨ timerPhase = .inCallback) :
      TimerStep loop .serveNext
        { loop with
          timers := { loop.timers with
            readyTasks := rest
            served := loop.timers.served ++ [(task, loop.now)] }
          timerPhase := timerPhase }

theorem timerStep_cases {milliseconds : Double → Int} {loopThread : Thread}
    {loop next : TimerLoop heap Thread} {action : TimerAction Double Functor Thread}
    (transition : (machine milliseconds loopThread).step loop action = some next) :
    TimerStep loop action next := by
  cases action with
  | loop action =>
      simp only [machine, step, Option.ite_none_right_eq_some, Option.map_eq_some_iff]
        at transition
      obtain ⟨admitted, tasks, _, rfl⟩ := transition
      refine .other _ _ rfl rfl le_rfl ?_
      cases action with
      | endIteration => exact .inr (.inr (.inl (of_decide_eq_true admitted)))
      | _ => exact .inl rfl
  | tick elapsed =>
      simp only [machine, step, Option.some.injEq] at transition
      subst transition
      exact .other _ _ rfl rfl (by simp) (.inl rfl)
  | runAfter thread delaySeconds cb =>
      simp only [machine, step, Option.ite_none_right_eq_some, Option.some.injEq] at transition
      obtain ⟨_, rfl⟩ := transition
      exact .runAfter thread delaySeconds cb milliseconds
  | pushTask thread =>
      simp only [machine, step, TimerLoop.pushTask] at transition
      split at transition
      · cases transition
      · next owner task found =>
          have same : owner = thread := by simpa using List.find?_some found
          subst same
          cases transition
          exact .pushTask owner task _ found
  | takeReady =>
      simp only [machine, step] at transition
      split at transition
      · next phase _ => cases transition; exact .takeReady phase
      · cases transition
  | serveNext =>
      simp only [machine, step] at transition
      split at transition
      · next task rest phase ready =>
          cases transition
          refine .serve task rest _ phase ready ?_
          cases task.cb <;> simp
      · cases transition
  | callbackReturns =>
      simp only [machine, step, Option.ite_none_right_eq_some, Option.some.injEq] at transition
      obtain ⟨_, rfl⟩ := transition
      exact .other _ _ rfl rfl le_rfl (.inr (.inl rfl))
  | leaveTimers =>
      simp only [machine, step] at transition
      split at transition
      · next _ ready =>
          cases transition
          exact .other _ _ rfl rfl le_rfl (.inr (.inr (.inr ready)))
      · cases transition

/-- What holds between any two steps: every call's task is in one place, what the round has
left is due, what was served was due, and outside a round none is left. -/
structure OnTime (loop : TimerLoop heap Thread) : Prop where
  ledger : loop.timers.ledger = Multiset.range loop.timers.calls
  due : ∀ task ∈ loop.timers.readyTasks, task.expireTime ≤ loop.now
  served : ∀ entry ∈ loop.timers.served, entry.1.expireTime ≤ entry.2
  round : loop.timerPhase = .betweenTasks ∨ loop.timerPhase = .inCallback ∨
    loop.timers.readyTasks = []

omit [DecidableEq Thread] in
theorem OnTime.initial (heap : TaskHeap Double Functor) (now : Int) :
    OnTime (initial heap Thread now) where
  ledger := by simp [TimerLoop.initial, Timers.ledger, heap.elements_empty]
  due _ member := by cases member
  served _ member := by cases member
  round := .inr (.inr rfl)

/-- The task found for a thread is taken out of the tasks being armed. -/
theorem perm_eraseP_of_find? {thread : Thread}
    {arming : List (Thread × DelayedTask Double Functor)}
    {entry : Thread × DelayedTask Double Functor}
    (found : arming.find? (·.1 = thread) = some entry) :
    arming.Perm (entry :: arming.eraseP (·.1 = thread)) := by
  induction arming with
  | nil => cases found
  | cons head rest inductionHypothesis =>
      by_cases own : head.1 = thread
      · rw [List.find?_cons_of_pos (by simpa using own), Option.some.injEq] at found
        rw [List.eraseP_cons_of_pos (by simpa using own), found]
      · rw [List.find?_cons_of_neg (by simpa using own)] at found
        rw [List.eraseP_cons_of_neg (by simpa using own)]
        exact ((inductionHypothesis found).cons head).trans (List.Perm.swap _ _ _)

omit [DecidableEq Thread] in
/-- The locked part of a round splits the queue at the clock. -/
theorem takeReady_spec (loop : TimerLoop heap Thread) :
    heap.elements loop.timers.delayedTasks =
        ↑loop.takeReady.timers.readyTasks + heap.elements loop.takeReady.timers.delayedTasks ∧
      (∀ task ∈ loop.takeReady.timers.readyTasks, task.expireTime ≤ loop.now) ∧
      (∀ task ∈ heap.elements loop.takeReady.timers.delayedTasks, loop.now < task.expireTime) ∧
      loop.takeReady.timers.readyTasks.Pairwise
        (fun first second => first.expireTime ≤ second.expireTime) := by
  have closed : ∀ first second : DelayedTask Double Functor,
      delayedTaskCompare first second = false → decide (second.expireTime ≤ loop.now) = true →
      decide (first.expireTime ≤ loop.now) = true := by
    intro first second inOrder due
    simp only [delayedTaskCompare, decide_eq_false_iff_not, not_lt, decide_eq_true_eq]
      at inOrder due ⊢
    exact inOrder.trans due
  obtain ⟨split, ready, waiting, inOrder⟩ := heap.popWhile_spec _ closed loop.timers.delayedTasks
  refine ⟨split.symm, fun task member => of_decide_eq_true (ready task member), ?_, ?_⟩
  · intro task member
    simpa using waiting task member
  · refine inOrder.imp fun {first second} before => ?_
    simpa [delayedTaskCompare] using before

/-- A step leaves every call's task in one place, and a new call adds its own. -/
theorem TimerStep.ledger_cases {loop next : TimerLoop heap Thread}
    {action : TimerAction Double Functor Thread} (step : TimerStep loop action next)
    (outside : loop.timerPhase = .before → loop.timers.readyTasks = []) :
    (next.timers.calls = loop.timers.calls ∧ next.timers.ledger = loop.timers.ledger) ∨
      (next.timers.calls = loop.timers.calls + 1 ∧
        next.timers.ledger = loop.timers.calls ::ₘ loop.timers.ledger) := by
  cases step with
  | other action next _ same _ _ => exact .inl ⟨by rw [same], by rw [same]⟩
  | runAfter thread delaySeconds cb milliseconds =>
      refine .inr ⟨rfl, ?_⟩
      simp only [TimerLoop.runAfter, Timers.ledger, List.map_cons, ← Multiset.cons_coe,
        Multiset.cons_add]
  | pushTask thread task tasks found =>
      refine .inl ⟨rfl, ?_⟩
      have armed := Multiset.coe_eq_coe.mpr ((perm_eraseP_of_find? found).map (·.2.call))
      simp only [Timers.ledger]
      rw [armed, heap.elements_push, List.map_cons, ← Multiset.cons_coe, Multiset.map_cons]
      simp only [Multiset.cons_add, Multiset.add_cons]
  | takeReady phase =>
      obtain ⟨split, _⟩ := loop.takeReady_spec
      refine .inl ⟨rfl, ?_⟩
      rw [Timers.ledger, Timers.ledger, takeReady_arming, takeReady_served, split, outside phase]
      simp only [Multiset.map_add, Multiset.map_coe, List.map_nil, Multiset.coe_nil, add_zero]
      abel
  | serve task rest timerPhase phase ready _ =>
      refine .inl ⟨rfl, ?_⟩
      simp only [Timers.ledger, ready, List.map_cons, List.map_append, List.map_nil,
        ← Multiset.coe_add, ← Multiset.cons_coe]
      simp only [Multiset.add_cons, Multiset.cons_add, Multiset.coe_nil, add_zero]

omit [DecidableEq Thread] in
theorem OnTime.none_outside {loop : TimerLoop heap Thread} (onTime : OnTime loop)
    (outside : loop.timerPhase = .before ∨ loop.timerPhase = .done) :
    loop.timers.readyTasks = [] := by
  have round := onTime.round
  rcases outside with here | here <;> simpa [here] using round

/-- One step keeps every task in one place and takes none early. -/
theorem OnTime.step {loop next : TimerLoop heap Thread}
    {action : TimerAction Double Functor Thread} (onTime : OnTime loop)
    (step : TimerStep loop action next) : OnTime next := by
  have ledger : next.timers.ledger = Multiset.range next.timers.calls := by
    rcases step.ledger_cases fun before => onTime.none_outside (.inl before) with
      ⟨calls, same⟩ | ⟨calls, more⟩
    · rw [calls, same, onTime.ledger]
    · rw [calls, more, Multiset.range_succ, onTime.ledger]
  cases step with
  | other action next _ same clock round =>
      refine ⟨ledger, ?_, ?_, ?_⟩
      · rw [same]
        exact fun task member => (onTime.due task member).trans clock
      · rw [same]
        exact onTime.served
      · rw [same]
        rcases round with unchanged | between | done | nothing
        · rw [unchanged]
          exact onTime.round
        · exact .inl between
        · exact .inr (.inr (onTime.none_outside (.inr done)))
        · exact .inr (.inr nothing)
  | runAfter | pushTask => exact ⟨ledger, onTime.due, onTime.served, onTime.round⟩
  | takeReady phase =>
      obtain ⟨_, due, _, _⟩ := loop.takeReady_spec
      exact ⟨ledger, due, onTime.served, .inl rfl⟩
  | serve task rest timerPhase phase ready inRound =>
      have due := onTime.due
      rw [ready] at due
      refine ⟨ledger, ?_, ?_, ?_⟩
      · exact fun later member => due later (List.mem_cons_of_mem task member)
      · intro entry member
        rcases List.mem_append.mp member with earlier | last
        · exact onTime.served entry earlier
        · rw [List.mem_singleton] at last
          subst last
          exact due task List.mem_cons_self
      · exact inRound.imp_right .inl

theorem onTime_run {milliseconds : Double → Int} {loopThread : Thread} {now : Int}
    {loop : TimerLoop heap Thread} {actions : List (TimerAction Double Functor Thread)}
    (run : (machine milliseconds loopThread).AnyRun (initial heap Thread now) actions loop) :
    OnTime loop :=
  run.invariant OnTime (OnTime.initial heap now) fun _ _ _ onTime _ transition =>
    onTime.step (timerStep_cases transition)

/-- Between two rounds nothing more is taken, and the queue only grows. -/
theorem taken_run {milliseconds : Double → Int} {loopThread : Thread}
    {start loop : TimerLoop heap Thread} {actions : List (TimerAction Double Functor Thread)}
    (run : (machine milliseconds loopThread).AnyRun start actions loop)
    (sameRound : ∀ action ∈ actions, action.isTakeReady = false) :
    loop.timers.taken = start.timers.taken ∧
      heap.elements start.timers.delayedTasks ≤ heap.elements loop.timers.delayedTasks := by
  induction run with
  | nil => exact ⟨rfl, le_rfl⟩
  | @snoc actions state next action prior _ transition inductionHypothesis =>
      obtain ⟨same, grown⟩ :=
        inductionHypothesis fun action member => sameRound action (by simp [member])
      have notTaking := sameRound action (by simp)
      rw [← same]
      cases timerStep_cases transition with
      | other _ _ _ unchanged _ _ => exact ⟨by rw [unchanged], by rw [unchanged]; exact grown⟩
      | runAfter _ _ _ _ => exact ⟨rfl, grown⟩
      | pushTask _ task _ _ =>
          refine ⟨rfl, grown.trans ?_⟩
          rw [heap.elements_push]
          exact Multiset.le_cons_self _ task
      | takeReady _ => cases notTaking
      | serve task rest _ _ ready _ => exact ⟨by simp [Timers.taken, ready], grown⟩

omit [DecidableEq Thread] in
theorem OnTime.call_lt_of_served {loop : TimerLoop heap Thread} (onTime : OnTime loop) :
    ∀ entry ∈ loop.timers.served, entry.1.call < loop.timers.calls := by
  intro entry member
  have inLedger : entry.1.call ∈ loop.timers.ledger :=
    Multiset.mem_add.mpr (.inr (Multiset.mem_coe.mpr (List.mem_map_of_mem member)))
  rw [onTime.ledger] at inLedger
  exact Multiset.mem_range.mp inLedger

omit [DecidableEq Thread] in
theorem OnTime.call_lt_of_queued {loop : TimerLoop heap Thread} (onTime : OnTime loop) :
    ∀ task ∈ heap.elements loop.timers.delayedTasks, task.call < loop.timers.calls := by
  intro task member
  have inLedger : task.call ∈ loop.timers.ledger := by
    refine Multiset.mem_add.mpr (.inl (Multiset.mem_add.mpr (.inl (Multiset.mem_add.mpr ?_))))
    exact .inr (Multiset.mem_map_of_mem _ member)
  rw [onTime.ledger] at inLedger
  exact Multiset.mem_range.mp inLedger

omit [DecidableEq Thread] in
/-- Of the tasks served, those with a callback were executed. -/
theorem executed_tasks (timers : Timers heap Thread) :
    timers.executed.map (·.1) = (timers.served.map (·.1)).filter (·.cb.isSome) := by
  rw [Timers.executed, List.filter_map]
  rfl

/-- After every run, the tasks of all calls of `RunAfter` are in one place each, no callback
was called twice and none before its deadline; and the round under way or last took exactly
the tasks that were queued and due at its one reading of the clock, serves them in the order
of their deadlines, leaves the others queued, and serves none of a later call. -/
theorem timers_run_once_when_due {milliseconds : Double → Int} {loopThread : Thread} {now : Int}
    {loop : TimerLoop heap Thread} {actions : List (TimerAction Double Functor Thread)}
    (run : (machine milliseconds loopThread).AnyRun (initial heap Thread now) actions loop) :
    loop.timers.ledger = Multiset.range loop.timers.calls ∧
      (loop.timers.executed.map (·.1.call)).Nodup ∧
      (∀ entry ∈ loop.timers.executed, entry.1.expireTime ≤ entry.2) ∧
      ∀ before round, actions = before ++ .takeReady :: round →
        (∀ action ∈ round, action.isTakeReady = false) →
        ∃ (atTake : TimerLoop heap Thread) (ready : List (DelayedTask Double Functor))
          (waiting : Multiset (DelayedTask Double Functor)),
          (machine milliseconds loopThread).AnyRun (initial heap Thread now) before atTake ∧
          heap.elements atTake.timers.delayedTasks = ↑ready + waiting ∧
          (∀ task ∈ ready, task.expireTime ≤ atTake.now) ∧
          (∀ task ∈ waiting, atTake.now < task.expireTime) ∧
          ready.Pairwise (fun first second => first.expireTime ≤ second.expireTime) ∧
          loop.timers.served.map (·.1) ++ loop.timers.readyTasks =
            atTake.timers.served.map (·.1) ++ ready ∧
          (loop.timerPhase = .before ∨ loop.timerPhase = .done →
            loop.timers.executed.map (·.1) =
              atTake.timers.executed.map (·.1) ++ ready.filter (·.cb.isSome)) ∧
          waiting ≤ heap.elements loop.timers.delayedTasks ∧
          ∀ entry ∈ loop.timers.served, entry.1.call < atTake.timers.calls := by
  have onTime := onTime_run run
  have distinct : (loop.timers.served.map (·.1.call)).Nodup := by
    have all : loop.timers.ledger.Nodup := onTime.ledger ▸ Multiset.nodup_range _
    exact Multiset.coe_nodup.mp (Multiset.nodup_of_le (Multiset.le_add_left _ _) all)
  refine ⟨onTime.ledger, ?_, ?_, fun before round split sameRound => ?_⟩
  · exact (List.Sublist.map _ List.filter_sublist).nodup distinct
  · exact fun entry member => onTime.served entry (List.mem_of_mem_filter member)
  · subst split
    obtain ⟨atTake, prior, later⟩ := run.of_append
    obtain ⟨_, _, transition, rest⟩ := later.of_cons
    cases timerStep_cases transition with
    | other _ _ notTaking => cases notTaking
    | takeReady phase =>
        obtain ⟨same, grown⟩ := taken_run rest sameRound
        obtain ⟨elements, due, notDue, inOrder⟩ := atTake.takeReady_spec
        have atTakeOnTime := onTime_run prior
        have served : loop.timers.served.map (·.1) ++ loop.timers.readyTasks =
            atTake.timers.served.map (·.1) ++ atTake.takeReady.timers.readyTasks := same
        refine ⟨atTake, _, _, prior, elements, due, notDue, inOrder, served, ?_, grown, ?_⟩
        · intro finished
          rw [onTime.none_outside finished, List.append_nil] at served
          rw [executed_tasks, executed_tasks, served, List.filter_append]
        · intro entry member
          have known : entry.1 ∈ atTake.timers.served.map (·.1) ++
              atTake.takeReady.timers.readyTasks := by
            rw [← served]
            exact List.mem_append_left _ (List.mem_map_of_mem member)
          rcases List.mem_append.mp known with earlier | taken
          · obtain ⟨other, present, same⟩ := List.mem_map.mp earlier
            rw [← same]
            exact atTakeOnTime.call_lt_of_served other present
          · refine atTakeOnTime.call_lt_of_queued entry.1 ?_
            rw [elements]
            exact Multiset.mem_add.mpr (.inl (Multiset.mem_coe.mpr taken))

/-- Whole seconds stand for the delays. A second task is queued for later, and the callback
of the first one arms itself again without delay. -/
def rearming : List (TimerAction Int Nat Bool) :=
  [.runAfter false 0 (some 7), .pushTask false, .runAfter false 5 (some 8), .pushTask false,
      .loop .startLoop, .loop .testQuit, .loop .enterRound, .loop .swap, .loop .leaveRound] ++
    .takeReady :: [.serveNext, .runAfter true 0 (some 7), .pushTask true, .callbackReturns,
      .leaveTimers]

/-- The task armed again waits for the next round. -/
theorem rearmed_task_waits :
    ∃ loop : TimerLoop (PriorityQueue.sortedBy DelayedTask.expireTime : TaskHeap Int Nat) Bool,
      (machine (· * 1000) true).AnyRun (initial _ Bool 0) rearming loop ∧
      loop.timers.executed.map (·.1.call) = [0] ∧ loop.timers.ledger = Multiset.range 3 ∧
      ∀ entry ∈ loop.timers.executed, entry.1.expireTime ≤ entry.2 := by
  have run : (machine (· * 1000) true).AnyRun
      (initial (PriorityQueue.sortedBy DelayedTask.expireTime : TaskHeap Int Nat) Bool 0)
      rearming _ := Machine.run_of_exec rfl
  obtain ⟨all, _, early, _⟩ := timers_run_once_when_due run
  exact ⟨_, run, rfl, all, early⟩

end TimerLoop

end TurboCore.Net
