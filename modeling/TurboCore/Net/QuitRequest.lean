import Mathlib
import TurboCore.Net.EventLoop

/-!
# Quitting an auto-started loop

`EventLoop(true)` starts a thread whose lambda calls `Loop`, and its constructor returns
without waiting for it. `m_quit` is cleared by the constructor and once more at the entry
of `Loop`, and set by `Quit` on any thread. Each step below is one of these accesses, a
step of the loop thread inside `Loop`, or a call of another thread.
-/

namespace TurboCore.Net

open Foundation

variable {Functor : Type}

/-- The threads that an auto-started loop meets. -/
inductive LoopCaller where
  /-- the thread that runs the constructor -/
  | creator
  /-- `m_thread` -/
  | loopThread
  | other (id : Nat)
deriving DecidableEq

/-- How far `m_thread` has come. -/
inductive ThreadStage where
  /-- before `std::thread` -/
  | absent
  /-- in the lambda, `Loop` not yet entered -/
  | started
  | looping
  /-- the lambda has returned, so `join` returns -/
  | ended
deriving DecidableEq

/-- A call that any thread may make. -/
inductive LoopCall (Functor : Type) where
  | queueInLoop (cb : Functor)
  | runInLoop (cb : Functor)
  | requestQuit

namespace LoopCall

/-- The call with the caller's answer to `IsInLoopThread()`. -/
def toAction (inLoop : Bool) : LoopCall Functor → LoopAction Functor
  | queueInLoop cb => .queueInLoop inLoop cb
  | runInLoop cb => .runInLoop inLoop cb
  | requestQuit => .requestQuit inLoop

def isQuit : LoopCall Functor → Bool
  | requestQuit => true
  | _ => false

end LoopCall

/-- What the loop thread does between two tests of `while (!m_quit)`. -/
inductive IterationStep where
  | enterRound
  | swap
  | callFunctor
  | functorReturns
  | leaveRound
  | endIteration
deriving DecidableEq

def IterationStep.toAction : IterationStep → LoopAction Functor
  | enterRound => .enterRound
  | swap => .swap
  | callFunctor => .callFunctor
  | functorReturns => .functorReturns
  | leaveRound => .leaveRound
  | endIteration => .endIteration

/-- An `EventLoop` constructed with `auto_start`. -/
structure StartedLoop (Functor : Type) where
  tasks : TaskLoop Functor
  /-- `m_threadId` -/
  threadId : LoopCaller
  stage : ThreadStage
  /-- the constructor has returned -/
  constructed : Bool
  /-- some `Quit` has stored its `true` -/
  quitRequested : Bool
  /-- iterations of `Loop` begun since -/
  lateIterations : Nat
deriving DecidableEq

inductive StartAction (Functor : Type) where
  /-- `m_thread = std::thread(...)` -/
  | spawn
  | constructorReturns
  /-- the lambda's `m_threadId = std::this_thread::get_id()` -/
  | identify
  /-- the lambda's call of `Loop`, up to `m_quit = false` -/
  | enterLoop
  /-- `while (!m_quit)` -/
  | testQuit
  | iterate (step : IterationStep)
  | call (caller : LoopCaller) (call : LoopCall Functor)

namespace StartedLoop

def initial : StartedLoop Functor := ⟨.initial, .creator, .absent, false, false, 0⟩

/-- Other threads have the loop once the constructor has returned; the loop thread calls
from handlers, functors and delayed tasks. -/
def mayCall (loop : StartedLoop Functor) : LoopCaller → Bool
  | .loopThread => loop.stage = .looping &&
      match loop.tasks.phase with
      | .handlers _ | .inFunctor => true
      | _ => false
  | _ => loop.constructed

/-- One step of some thread; `none` where the thread stands elsewhere. -/
def step (loop : StartedLoop Functor) : StartAction Functor → Option (StartedLoop Functor)
  | .spawn =>
      match loop.stage with
      | .absent => some { loop with stage := .started }
      | _ => none
  | .constructorReturns =>
      match loop.stage with
      | .absent => none
      | _ => some { loop with constructed := true }
  | .identify =>
      match loop.stage, loop.threadId with
      | .started, .creator => some { loop with threadId := .loopThread }
      | _, _ => none
  | .enterLoop =>
      match loop.stage, loop.threadId with
      | .started, .loopThread =>
          (loop.tasks.step .startLoop).map fun tasks =>
            { loop with tasks := tasks, stage := .looping }
      | _, _ => none
  | .testQuit =>
      match loop.stage with
      | .looping =>
          (loop.tasks.step .testQuit).map fun tasks =>
            if loop.tasks.quit then { loop with tasks := tasks, stage := .ended }
            else
              { loop with
                tasks := tasks
                lateIterations := loop.lateIterations + if loop.quitRequested then 1 else 0 }
      | _ => none
  | .iterate step =>
      match loop.stage with
      | .looping => (loop.tasks.step step.toAction).map fun tasks => { loop with tasks := tasks }
      | _ => none
  | .call caller call =>
      if loop.mayCall caller then
        (loop.tasks.step (call.toAction (loop.threadId = caller))).map fun tasks =>
          { loop with
            tasks := tasks
            quitRequested := loop.quitRequested || call.isQuit }
      else none

def machine : Machine (StartedLoop Functor) (StartAction Functor) := ⟨step⟩

/-- No request has been lost: the flag still holds it, no iteration has been begun since,
and at the next test the loop thread ends. -/
structure QuitKept (loop : StartedLoop Functor) : Prop where
  flag : loop.quitRequested = true → loop.tasks.quit = true
  noLateIteration : loop.lateIterations = 0
  joins : loop.quitRequested = true →
    ∀ next, machine.step loop .testQuit = some next → next.stage = .ended

/-- `Loop` is entered before anybody has asked to quit. -/
def EntersBeforeQuit (loop : StartedLoop Functor) (action : StartAction Functor) : Prop :=
  match action with
  | .enterLoop => loop.quitRequested = false
  | _ => True

instance decidableEntersBeforeQuit (loop : StartedLoop Functor) :
    (action : StartAction Functor) → Decidable (loop.EntersBeforeQuit action)
  | .enterLoop => inferInstanceAs (Decidable (loop.quitRequested = false))
  | .spawn | .constructorReturns | .identify | .testQuit | .iterate _ | .call _ _ =>
      .isTrue trivial

/-- Inside an iteration the flag is left alone. -/
theorem quit_of_iterate {tasks next : TaskLoop Functor} {step : IterationStep}
    (transition : tasks.step step.toAction = some next) : next.quit = tasks.quit := by
  cases step <;>
    · simp only [IterationStep.toAction, TaskLoop.step] at transition
      split at transition <;> cases transition
      rfl

/-- A call leaves the flag alone, or sets it if it is a `Quit`. -/
theorem quit_of_call {tasks next : TaskLoop Functor} {inLoop : Bool} {call : LoopCall Functor}
    (transition : tasks.step (call.toAction inLoop) = some next) :
    next.quit = (tasks.quit || call.isQuit) := by
  cases call with
  | queueInLoop cb =>
      simp only [LoopCall.toAction, TaskLoop.step, TaskLoop.queueInLoop,
        Option.some.injEq] at transition
      subst transition
      split_ifs <;> simp [TaskLoop.wakeup, LoopCall.isQuit]
  | runInLoop cb =>
      simp only [LoopCall.toAction, TaskLoop.step, TaskLoop.runInLoop, TaskLoop.queueInLoop,
        Option.some.injEq] at transition
      subst transition
      split_ifs <;> simp [TaskLoop.wakeup, LoopCall.isQuit]
  | requestQuit =>
      simp only [LoopCall.toAction, TaskLoop.step, TaskLoop.requestQuit,
        Option.some.injEq] at transition
      subst transition
      split_ifs <;> simp [TaskLoop.wakeup, LoopCall.isQuit]

/-- What a step does to the flag and to what is recorded about requests: the entry of
`Loop` clears the flag, a test begins an iteration where the flag is clear, a `Quit` sets
the flag and is recorded, and no other step touches either. -/
theorem step_quit {loop next : StartedLoop Functor} {action : StartAction Functor}
    (transition : machine.step loop action = some next) :
    (action = .enterLoop ∧ next.tasks.quit = false ∧
      next.quitRequested = loop.quitRequested ∧ next.lateIterations = loop.lateIterations) ∨
    (action = .testQuit ∧ next.tasks.quit = loop.tasks.quit ∧
      next.quitRequested = loop.quitRequested ∧
      (loop.tasks.quit = true → next.stage = .ended) ∧
      next.lateIterations = loop.lateIterations +
        if loop.tasks.quit = false ∧ loop.quitRequested = true then 1 else 0) ∨
    (action ≠ .enterLoop ∧ ∃ requests : Bool,
      next.tasks.quit = (loop.tasks.quit || requests) ∧
      next.quitRequested = (loop.quitRequested || requests) ∧
      next.lateIterations = loop.lateIterations) := by
  cases action with
  | spawn | constructorReturns | identify =>
      right; right
      simp only [machine, step] at transition
      split at transition <;> cases transition
      exact ⟨by simp, false, by simp, by simp, rfl⟩
  | enterLoop =>
      left
      simp only [machine, step] at transition
      split at transition
      · obtain ⟨tasks, started, rfl⟩ := Option.map_eq_some_iff.mp transition
        simp only [TaskLoop.step] at started
        split at started <;> cases started
        exact ⟨rfl, rfl, rfl, rfl⟩
      · cases transition
  | testQuit =>
      right; left
      simp only [machine, step] at transition
      split at transition
      · obtain ⟨tasks, tested, rfl⟩ := Option.map_eq_some_iff.mp transition
        simp only [TaskLoop.step] at tested
        split at tested <;> cases tested
        cases asked : loop.tasks.quit <;> simp
      · cases transition
  | iterate step =>
      right; right
      simp only [machine, StartedLoop.step] at transition
      split at transition
      · obtain ⟨tasks, iterated, rfl⟩ := Option.map_eq_some_iff.mp transition
        exact ⟨by simp, false, by simp [quit_of_iterate iterated], by simp, rfl⟩
      · cases transition
  | call caller call =>
      right; right
      simp only [machine, step] at transition
      split_ifs at transition
      obtain ⟨tasks, called, rfl⟩ := Option.map_eq_some_iff.mp transition
      exact ⟨by simp, call.isQuit, quit_of_call called, rfl, rfl⟩

/-- With the flag holding every request the loop thread ends at its next test. -/
theorem quitKept_of_flag {loop : StartedLoop Functor}
    (flag : loop.quitRequested = true → loop.tasks.quit = true)
    (noLateIteration : loop.lateIterations = 0) : loop.QuitKept where
  flag := flag
  noLateIteration := noLateIteration
  joins := by
    intro requested next transition
    rcases step_quit transition with ⟨impossible, _⟩ | ⟨_, _, _, ends, _⟩ | ⟨_, _⟩
    · cases impossible
    · exact ends (flag requested)
    · simp only [machine, step] at transition
      split at transition
      · obtain ⟨tasks, _, rfl⟩ := Option.map_eq_some_iff.mp transition
        simp [flag requested]
      · cases transition

/-- A step that does not clear a requested flag keeps the request. -/
theorem quitKept_step {loop next : StartedLoop Functor} {action : StartAction Functor}
    (kept : loop.QuitKept) (admitted : loop.EntersBeforeQuit action)
    (transition : machine.step loop action = some next) : next.QuitKept := by
  rcases step_quit transition with ⟨rfl, _, requested, late⟩ |
    ⟨_, flag, requested, _, late⟩ | ⟨_, requests, flag, requested, late⟩
  · apply quitKept_of_flag
    · intro asked
      rw [requested] at asked
      rw [EntersBeforeQuit, asked] at admitted
      cases admitted
    · rw [late, kept.noLateIteration]
  · apply quitKept_of_flag
    · rw [flag, requested]
      exact kept.flag
    · rw [late, kept.noLateIteration, if_neg]
      rintro ⟨clear, asked⟩
      rw [kept.flag asked] at clear
      cases clear
  · apply quitKept_of_flag
    · intro asked
      rw [requested, Bool.or_eq_true] at asked
      rw [flag, Bool.or_eq_true]
      exact asked.imp_left kept.flag
    · rw [late, kept.noLateIteration]

/-- Quitting right after the constructor has returned: the new thread clears the flag and
begins an iteration. -/
theorem early_quit_lost :
    ¬ ∀ actions : List (StartAction Nat), machine.Throughout QuitKept initial actions := by
  intro always
  have executed : machine.exec (initial : StartedLoop Nat) [.spawn, .constructorReturns,
      .call .creator .requestQuit, .identify, .enterLoop, .testQuit] =
      some ⟨⟨false, false, [], [], .handlers true, 0, []⟩, .loopThread, .looping, true, true, 1⟩ :=
    by decide
  have lost := (always _).of_exec executed
  exact absurd lost.noLateIteration (by decide)

/-- In every interleaving: the requests are kept throughout exactly when `Loop` is entered
before the first of them. -/
theorem quit_kept_iff_loop_entered_first (actions : List (StartAction Functor)) :
    machine.Throughout QuitKept initial actions ↔
      machine.Guarded EntersBeforeQuit initial actions := by
  refine Machine.throughout_iff_guarded (fun _ kept => kept)
    (fun _ _ _ kept admitted transition => quitKept_step kept admitted transition) ?_
    (quitKept_of_flag (fun asked => by cases asked) rfl) actions
  intro loop action next kept transition after
  cases action with
  | enterLoop =>
      rcases step_quit transition with ⟨_, clear, requested, _⟩ | ⟨impossible, _⟩ |
        ⟨impossible, _⟩
      · cases asked : loop.quitRequested with
        | false => exact asked
        | true =>
            rw [asked] at requested
            rw [after.flag requested] at clear
            cases clear
      · cases impossible
      · exact absurd rfl impossible
  | spawn | constructorReturns | identify | testQuit | iterate _ | call _ _ => trivial

end StartedLoop

end TurboCore.Net
