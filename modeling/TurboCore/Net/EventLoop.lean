import Mathlib
import TurboCore.Foundation.Execution

/-!
# The task queue of an event loop

`EventLoop::QueueInLoop` from any thread at any moment, against the rounds of
`DoPendingFunctors`. Each step is one access under `m_mutex`, one call of a functor or
one return; what a functor or an I/O handler queues is a step of its own between them.
-/

namespace TurboCore.Net

open Foundation

variable {Functor : Type}

/-- Where the loop thread stands. -/
inductive RoundPhase where
  /-- outside `Loop` -/
  | idle
  /-- `while (!m_quit)` -/
  | loopTest
  /-- in `Poll`, the handlers of the active channels, or `ProcessDelayedTasks` -/
  | handlers (beforeRound : Bool)
  /-- in `DoPendingFunctors`, before the swap -/
  | beforeSwap
  /-- in the `for` of `DoPendingFunctors`, between two functors -/
  | betweenFunctors
  | inFunctor
deriving DecidableEq

/-- `EventLoop`: its queue, the locals of `DoPendingFunctors`, and the functors that
`DoPendingFunctors` has called, oldest first. -/
structure TaskLoop (Functor : Type) where
  quit : Bool
  callingPendingFunctors : Bool
  pendingFunctors : List Functor
  /-- what the `for` over the local `functors` has left -/
  functors : List Functor
  phase : RoundPhase
  /-- calls of `Wakeup` -/
  wakeups : Nat
  executed : List Functor
deriving DecidableEq

/-- What a thread does; `inLoop` is the caller's answer to `IsInLoopThread()`. -/
inductive LoopAction (Functor : Type) where
  | queueInLoop (inLoop : Bool) (cb : Functor)
  | runInLoop (inLoop : Bool) (cb : Functor)
  | requestQuit (inLoop : Bool)
  | startLoop
  | testQuit
  | enterRound
  | swap
  | callFunctor
  | functorReturns
  | leaveRound
  | endIteration

namespace TaskLoop

def initial : TaskLoop Functor := ⟨false, false, [], [], .idle, 0, []⟩

/-- `Wakeup`. -/
def wakeup (loop : TaskLoop Functor) : TaskLoop Functor :=
  { loop with wakeups := loop.wakeups + 1 }

/-- `QueueInLoop`: the push under the mutex, then a wake-up where one is needed. -/
def queueInLoop (loop : TaskLoop Functor) (inLoop : Bool) (cb : Functor) : TaskLoop Functor :=
  let loop := { loop with pendingFunctors := loop.pendingFunctors ++ [cb] }
  if !inLoop || loop.callingPendingFunctors then loop.wakeup else loop

/-- `RunInLoop`: on the loop thread the functor runs at once and never enters the queue. -/
def runInLoop (loop : TaskLoop Functor) (inLoop : Bool) (cb : Functor) : TaskLoop Functor :=
  if inLoop then loop else loop.queueInLoop inLoop cb

/-- `Quit`. -/
def requestQuit (loop : TaskLoop Functor) (inLoop : Bool) : TaskLoop Functor :=
  let loop := { loop with quit := true }
  if inLoop then loop else loop.wakeup

/-- One step of some thread; `none` where the loop thread stands elsewhere. -/
def step (loop : TaskLoop Functor) : LoopAction Functor → Option (TaskLoop Functor)
  | .queueInLoop inLoop cb => some (loop.queueInLoop inLoop cb)
  | .runInLoop inLoop cb => some (loop.runInLoop inLoop cb)
  | .requestQuit inLoop => some (loop.requestQuit inLoop)
  | .startLoop =>
      match loop.phase with
      | .idle => some { loop with quit := false, phase := .loopTest }
      | _ => none
  | .testQuit =>
      match loop.phase with
      | .loopTest => some { loop with phase := if loop.quit then .idle else .handlers true }
      | _ => none
  | .enterRound =>
      match loop.phase with
      | .handlers true => some { loop with callingPendingFunctors := true, phase := .beforeSwap }
      | _ => none
  | .swap =>
      match loop.phase with
      | .beforeSwap =>
          some { loop with
            functors := loop.pendingFunctors, pendingFunctors := [], phase := .betweenFunctors }
      | _ => none
  | .callFunctor =>
      match loop.phase, loop.functors with
      | .betweenFunctors, functor :: rest =>
          some { loop with
            functors := rest, phase := .inFunctor, executed := loop.executed ++ [functor] }
      | _, _ => none
  | .functorReturns =>
      match loop.phase with
      | .inFunctor => some { loop with phase := .betweenFunctors }
      | _ => none
  | .leaveRound =>
      match loop.phase, loop.functors with
      | .betweenFunctors, [] =>
          some { loop with callingPendingFunctors := false, phase := .handlers false }
      | _, _ => none
  | .endIteration =>
      match loop.phase with
      | .handlers false => some { loop with phase := .loopTest }
      | _ => none

def machine : Machine (TaskLoop Functor) (LoopAction Functor) := ⟨step⟩

end TaskLoop

namespace LoopAction

/-- The functor that an action puts into the queue. -/
def queued? : LoopAction Functor → Option Functor
  | queueInLoop _ cb => some cb
  | runInLoop inLoop cb => if inLoop then none else some cb
  | _ => none

/-- All functors queued by a list of actions, in queueing order. -/
def queuedBy (actions : List (LoopAction Functor)) : List Functor :=
  actions.filterMap queued?

def isSwap : LoopAction Functor → Bool
  | swap => true
  | _ => false

def isCall : LoopAction Functor → Bool
  | callFunctor => true
  | _ => false

@[simp] theorem queuedBy_append (first second : List (LoopAction Functor)) :
    queuedBy (first ++ second) = queuedBy first ++ queuedBy second := by
  simp [queuedBy]

theorem queuedBy_singleton (action : LoopAction Functor) :
    queuedBy [action] = action.queued?.toList := by
  cases found : action.queued? <;> simp [queuedBy, found]

end LoopAction

namespace TaskLoop

open LoopAction

/-- The functors on their way, oldest first: called, left of the round, and pending. -/
def ledger (loop : TaskLoop Functor) : List Functor :=
  loop.executed ++ loop.functors ++ loop.pendingFunctors

/-- The functors of the queue that have left it. -/
def taken (loop : TaskLoop Functor) : List Functor := loop.executed ++ loop.functors

/-- What one step does to the functors: a queueing appends to the queue, a swap takes the
whole queue, a call moves the head of the round to the executed ones, and every other
step moves none. -/
theorem step_functors {loop next : TaskLoop Functor} {action : LoopAction Functor}
    (transition : machine.step loop action = some next) :
    (action.isSwap = false ∧ action.isCall = false ∧ next.executed = loop.executed ∧
      next.functors = loop.functors ∧
      next.pendingFunctors = loop.pendingFunctors ++ action.queued?.toList) ∨
    (action = .swap ∧ loop.phase = .beforeSwap ∧ next.executed = loop.executed ∧
      next.functors = loop.pendingFunctors ∧ next.pendingFunctors = []) ∨
    (action = .callFunctor ∧ ∃ functor, loop.functors = functor :: next.functors ∧
      next.executed = loop.executed ++ [functor] ∧
      next.pendingFunctors = loop.pendingFunctors) := by
  cases action with
  | queueInLoop inLoop cb =>
      left
      simp only [machine, step, queueInLoop, Option.some.injEq] at transition
      subst transition
      split_ifs <;> simp [isSwap, isCall, queued?, wakeup]
  | runInLoop inLoop cb =>
      left
      simp only [machine, step, runInLoop, queueInLoop, Option.some.injEq] at transition
      subst transition
      cases inLoop <;> simp [isSwap, isCall, queued?, wakeup]
  | requestQuit inLoop =>
      left
      simp only [machine, step, requestQuit, Option.some.injEq] at transition
      subst transition
      split_ifs <;> simp [isSwap, isCall, queued?, wakeup]
  | swap =>
      right; left
      simp only [machine, step] at transition
      split at transition <;> cases transition
      exact ⟨rfl, ‹_›, rfl, rfl, rfl⟩
  | callFunctor =>
      right; right
      simp only [machine, step] at transition
      split at transition <;> cases transition
      exact ⟨rfl, _, ‹_›, rfl, rfl⟩
  | startLoop | testQuit | enterRound | functorReturns | leaveRound | endIteration =>
      left
      simp only [machine, step] at transition
      split at transition <;> cases transition
      exact ⟨rfl, rfl, rfl, rfl, by simp [queued?]⟩

/-- Where the loop thread may stand with a part of a round left. -/
def InRound (phase : RoundPhase) : Prop := phase = .betweenFunctors ∨ phase = .inFunctor

/-- Outside a round nothing of one is left. -/
def RoundDone (loop : TaskLoop Functor) : Prop := InRound loop.phase ∨ loop.functors = []

/-- A swap finds no round left, so it overwrites nothing. -/
theorem RoundDone.functors_eq_nil {loop : TaskLoop Functor} (done : loop.RoundDone)
    (phase : loop.phase = .beforeSwap) : loop.functors = [] := by
  rcases done with inRound | nothing
  · rw [phase] at inRound
    rcases inRound with impossible | impossible <;> cases impossible
  · exact nothing

theorem roundDone_step {loop next : TaskLoop Functor} {action : LoopAction Functor}
    (done : loop.RoundDone) (transition : machine.step loop action = some next) :
    next.RoundDone := by
  cases action with
  | queueInLoop inLoop cb =>
      simp only [machine, step, queueInLoop, Option.some.injEq] at transition
      subst transition
      split_ifs <;> exact done
  | runInLoop inLoop cb =>
      simp only [machine, step, runInLoop, queueInLoop, Option.some.injEq] at transition
      subst transition
      split_ifs <;> exact done
  | requestQuit inLoop =>
      simp only [machine, step, requestQuit, Option.some.injEq] at transition
      subst transition
      split_ifs <;> exact done
  | swap | functorReturns =>
      simp only [machine, step] at transition
      split at transition <;> cases transition
      exact .inl (.inl rfl)
  | callFunctor =>
      simp only [machine, step] at transition
      split at transition <;> cases transition
      exact .inl (.inr rfl)
  | leaveRound =>
      simp only [machine, step] at transition
      split at transition <;> cases transition
      exact .inr ‹_›
  | startLoop | testQuit | enterRound | endIteration =>
      simp only [machine, step] at transition
      split at transition <;> cases transition
      rcases done with inRound | nothing
      · rcases inRound with here | here <;> simp_all
      · exact .inr nothing

theorem roundDone_run {loop : TaskLoop Functor} {actions : List (LoopAction Functor)}
    (run : machine.AnyRun initial actions loop) : loop.RoundDone :=
  run.invariant RoundDone (.inr rfl) fun _ _ _ done _ transition => roundDone_step done transition

/-- One step lengthens the ledger by what it queues. -/
theorem ledger_step {loop next : TaskLoop Functor} {action : LoopAction Functor}
    (done : loop.RoundDone) (transition : machine.step loop action = some next) :
    next.ledger = loop.ledger ++ action.queued?.toList := by
  unfold ledger
  rcases step_functors transition with ⟨_, _, executed, functors, pending⟩ |
    ⟨rfl, phase, executed, functors, pending⟩ | ⟨rfl, functor, functors, executed, pending⟩
  · rw [executed, functors, pending]
    simp
  · rw [executed, functors, pending, done.functors_eq_nil phase]
    simp [queued?]
  · rw [executed, functors, pending]
    simp [queued?]

/-- The ledger is the list of all functors ever queued. -/
theorem ledger_run {loop : TaskLoop Functor} {actions : List (LoopAction Functor)}
    (run : machine.AnyRun initial actions loop) : loop.ledger = queuedBy actions := by
  induction run with
  | nil => rfl
  | snoc prior _ transition inductionHypothesis =>
      rw [ledger_step (roundDone_run prior) transition, inductionHypothesis, queuedBy_append,
        queuedBy_singleton]

/-- Between two swaps no functor enters the round: calls use it up. -/
theorem taken_run {start loop : TaskLoop Functor} {actions : List (LoopAction Functor)}
    (run : machine.AnyRun start actions loop)
    (sameRound : ∀ action ∈ actions, action.isSwap = false) :
    loop.taken = start.taken ∧
      actions.countP isCall + loop.functors.length = start.functors.length := by
  induction run with
  | nil => exact ⟨rfl, by simp⟩
  | snoc prior _ transition inductionHypothesis =>
      obtain ⟨same, count⟩ :=
        inductionHypothesis fun action member => sameRound action (by simp [member])
      have notSwap := sameRound _ (List.mem_append_right _ (List.mem_singleton_self _))
      rw [← same]
      rcases step_functors transition with ⟨_, notCall, executed, functors, _⟩ |
        ⟨rfl, _⟩ | ⟨rfl, functor, functors, executed, _⟩
      · refine ⟨by rw [taken, taken, executed, functors], ?_⟩
        rw [List.countP_append, functors]
        simpa [notCall] using count
      · cases notSwap
      · refine ⟨by simp [taken, executed, functors], ?_⟩
        rw [functors, List.length_cons] at count
        rw [List.countP_append]
        simp only [List.countP_singleton, isCall, if_true]
        omega

/-- After every run, the functors called, the rest of the round and the queue are all
functors ever queued, in queueing order; and the calls since the last swap are of
functors queued before it, at most as many as the swap took. -/
theorem tasks_run_once_in_order {loop : TaskLoop Functor}
    {actions : List (LoopAction Functor)} (run : machine.AnyRun initial actions loop) :
    loop.executed ++ loop.functors ++ loop.pendingFunctors = queuedBy actions ∧
      ∀ before round, actions = before ++ .swap :: round →
        (∀ action ∈ round, action.isSwap = false) →
        ∃ atSwap, machine.AnyRun initial before atSwap ∧
          loop.executed ++ loop.functors = queuedBy before ∧
          atSwap.executed ++ atSwap.pendingFunctors = queuedBy before ∧
          round.countP isCall + loop.functors.length = atSwap.pendingFunctors.length := by
  refine ⟨ledger_run run, fun before round split sameRound => ?_⟩
  subst split
  obtain ⟨atSwap, prior, later⟩ := run.of_append
  obtain ⟨swapped, _, transition, rest⟩ := later.of_cons
  obtain ⟨same, count⟩ := taken_run rest sameRound
  have queuedBefore := ledger_run prior
  rcases step_functors transition with ⟨notSwap, _⟩ |
    ⟨_, phase, executed, functors, pending⟩ | ⟨notSwap, _⟩
  · cases notSwap
  · rw [ledger, (roundDone_run prior).functors_eq_nil phase, List.append_nil] at queuedBefore
    refine ⟨atSwap, prior, ?_, queuedBefore, ?_⟩
    · rw [taken, taken, executed, functors, queuedBefore] at same
      exact same
    · rw [functors] at count
      exact count
  · cases notSwap

/-- A functor queues another while it runs, and a second thread a third: both wait for the
next round. -/
theorem requeued_functors_wait :
    ∃ loop : TaskLoop Nat, machine.AnyRun initial
        ([.queueInLoop false 1, .startLoop, .testQuit, .enterRound] ++ .swap ::
          [.callFunctor, .queueInLoop true 2, .functorReturns, .queueInLoop false 3]) loop ∧
      loop.executed ++ loop.functors ++ loop.pendingFunctors = [1, 2, 3] ∧
      loop.executed ++ loop.functors = [1] := by
  have run : machine.AnyRun (initial : TaskLoop Nat)
      ([.queueInLoop false 1, .startLoop, .testQuit, .enterRound] ++ .swap ::
        [.callFunctor, .queueInLoop true 2, .functorReturns, .queueInLoop false 3])
      ⟨false, true, [2, 3], [], .betweenFunctors, 3, [1]⟩ :=
    Machine.run_of_exec (by decide)
  obtain ⟨all, rounds⟩ := tasks_run_once_in_order run
  obtain ⟨_, _, taken, _⟩ := rounds _ _ rfl (by decide)
  exact ⟨_, run, all, taken⟩

end TaskLoop

end TurboCore.Net
