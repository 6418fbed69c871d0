import Mathlib
import TurboCore.Net.DelayedTasks

/-!
# The wake-up descriptor of an event loop

`QueueInLoop` pushes under `m_mutex` and writes to the wake-up descriptor afterwards, where
it does so at all; `HandleWakeupRead` drains it. The loop of `TimerLoop` is taken with the
call of `Poll` as steps of its own, and with `QueueInLoop` in two steps, so that every
thread may stand between the push and the write.
-/

namespace TurboCore.Net

open Foundation

variable {Double Functor Thread : Type}

/-- `CreateWakeupPair`: what one `read` or `recv` of 8 bytes leaves of the unread writes. -/
inductive WakeupPair where
  /-- a read takes the whole count -/
  | eventfd
  /-- `_WIN32`: a read takes the bytes of one `Wakeup` -/
  | socketPair
deriving DecidableEq

def WakeupPair.afterRead : WakeupPair → Nat → Nat
  | eventfd, _ => 0
  | socketPair, unread => unread - 1

/-- How far the iteration has come with `m_poller->Poll(10, m_activeChannels)`. -/
inductive PollStage where
  | before
  | waiting
  | returned
deriving DecidableEq

/-- `EventLoop` with its wake-up descriptor. -/
structure WakingLoop (heap : TaskHeap Double Functor) (Thread : Type) where
  timer : TimerLoop heap Thread
  /-- `m_threadId` -/
  threadId : Thread
  /-- calls of `Wakeup` that are not read yet: the descriptor is readable where there are any -/
  unread : Nat
  /-- threads inside `QueueInLoop`, after the push, with their functor still in the queue -/
  queueing : List Thread
  /-- threads there whose functor a swap has taken since -/
  overtaken : List Thread
  pollStage : PollStage
  /-- `m_wakeupChannel` is among `m_activeChannels` -/
  wakeupActive : Bool

inductive WakingAction (Double Functor Thread : Type) where
  /-- the lambda's `m_threadId = std::this_thread::get_id()` -/
  | identify
  /-- a step of the loop thread, of `RunAfter` or of the clock -/
  | timed (action : TimerAction Double Functor Thread)
  /-- the call of `Poll` -/
  | poll
  | pollReturns (wakeupActive : Bool)
  /-- one `read` of `HandleWakeupRead` -/
  | readWakeup
  /-- `QueueInLoop` up to the end of its lock; also `RunInLoop` from another thread -/
  | pushFunctor (thread : Thread) (cb : Functor)
  /-- `QueueInLoop` from there on -/
  | finishQueueing (thread : Thread)
  | requestQuit (thread : Thread)

/-- The thread that takes a step; `none` for the clock and for the calls that have actions
of their own. -/
def TimerAction.taker? (loopThread : Thread) : TimerAction Double Functor Thread → Option Thread
  | tick _ => none
  | runAfter thread _ _ | pushTask thread => some thread
  | loop _ | takeReady | serveNext | callbackReturns | leaveTimers => some loopThread

/-- A call of `QueueInLoop`, `RunInLoop` or `Quit`. -/
def LoopAction.isRequest : LoopAction Functor → Bool
  | queueInLoop _ _ | runInLoop _ _ | requestQuit _ => true
  | _ => false

def TimerAction.isSwap : TimerAction Double Functor Thread → Bool
  | loop action => action.isSwap
  | _ => false

def TimerAction.isRequest : TimerAction Double Functor Thread → Bool
  | loop action => action.isRequest
  | _ => false

namespace WakingLoop

variable {heap : TaskHeap Double Functor}

/-- The loop as its constructor leaves it; `creator` runs the constructor. -/
def initial (heap : TaskHeap Double Functor) (creator : Thread) (now : Int) :
    WakingLoop heap Thread where
  timer := .initial heap Thread now
  threadId := creator
  unread := 0
  queueing := []
  overtaken := []
  pollStage := .before
  wakeupActive := false

/-- `Wakeup`. -/
def wakeup (loop : WakingLoop heap Thread) : WakingLoop heap Thread :=
  { loop with
    timer := { loop.timer with tasks := loop.timer.tasks.wakeup }
    unread := loop.unread + 1 }

/-- The iteration has begun its `Poll`, and its `DoPendingFunctors` is still to swap. -/
def aheadOfSwap (loop : WakingLoop heap Thread) : Bool :=
  match loop.timer.tasks.phase with
  | .handlers true => loop.pollStage ≠ .before
  | .beforeSwap => true
  | _ => false

variable [DecidableEq Thread]

/-- The thread is not inside `QueueInLoop`, and if it is the loop thread, it knows itself as
such and is not in `Poll`. -/
def mayAct (loopThread : Thread) (loop : WakingLoop heap Thread) (thread : Thread) : Bool :=
  thread ∉ loop.queueing && thread ∉ loop.overtaken &&
    (thread ≠ loopThread || loop.threadId = loopThread &&
      (loop.timer.tasks.phase ≠ .handlers true || loop.pollStage = .returned))

/-- The thread may call a function of the loop. -/
def mayCall (loopThread : Thread) (loop : WakingLoop heap Thread) (thread : Thread) : Bool :=
  loop.mayAct loopThread thread && loop.timer.isFree thread &&
    (thread ≠ loopThread || loop.timer.inUserCode)

/-- The locked part of `QueueInLoop`. -/
def pushFunctor (loop : WakingLoop heap Thread) (thread : Thread) (cb : Functor) :
    WakingLoop heap Thread :=
  { loop with
    timer := { loop.timer with tasks := { loop.timer.tasks with
      pendingFunctors := loop.timer.tasks.pendingFunctors ++ [cb] } }
    queueing := thread :: loop.queueing }

/-- `if (!IsInLoopThread() || m_callingPendingFunctors) Wakeup();` -/
def finishQueueing (loop : WakingLoop heap Thread) (thread : Thread) : WakingLoop heap Thread :=
  let loop := { loop with
    queueing := loop.queueing.erase thread, overtaken := loop.overtaken.erase thread }
  if thread ≠ loop.threadId ∨ loop.timer.tasks.callingPendingFunctors = true then loop.wakeup
  else loop

/-- One step of some thread; `none` where the thread stands elsewhere. -/
def step (pair : WakeupPair) (milliseconds : Double → Int) (loopThread : Thread)
    (loop : WakingLoop heap Thread) :
    WakingAction Double Functor Thread → Option (WakingLoop heap Thread)
  | .identify =>
      match loop.timer.tasks.phase with
      | .idle => some { loop with threadId := loopThread }
      | _ => none
  | .timed action =>
      if !action.isRequest && (action.taker? loopThread).all (loop.mayAct loopThread) then
        (loop.timer.step milliseconds loop.threadId action).map fun timer =>
          { loop with
            timer := timer
            unread := loop.unread + (timer.tasks.wakeups - loop.timer.tasks.wakeups)
            queueing := if action.isSwap then [] else loop.queueing
            overtaken := if action.isSwap then loop.queueing ++ loop.overtaken else loop.overtaken
            pollStage := match action with
              | .loop .testQuit => .before
              | _ => loop.pollStage }
      else none
  | .poll =>
      if loop.threadId = loopThread ∧ loopThread ∉ loop.queueing ∧ loopThread ∉ loop.overtaken ∧
          loop.timer.tasks.phase = .handlers true ∧ loop.pollStage = .before then
        some { loop with pollStage := .waiting }
      else none
  | .pollReturns wakeupActive =>
      if loop.pollStage = .waiting ∧ (wakeupActive = true → 0 < loop.unread) then
        some { loop with pollStage := .returned, wakeupActive := wakeupActive }
      else none
  | .readWakeup =>
      if loop.mayAct loopThread loopThread ∧ loop.timer.tasks.phase = .handlers true ∧
          loop.wakeupActive = true then
        some { loop with unread := pair.afterRead loop.unread }
      else none
  | .pushFunctor thread cb =>
      if loop.mayCall loopThread thread then some (loop.pushFunctor thread cb) else none
  | .finishQueueing thread =>
      if thread ∈ loop.queueing ∨ thread ∈ loop.overtaken then
        some (loop.finishQueueing thread)
      else none
  | .requestQuit thread =>
      if loop.mayCall loopThread thread then
        let tasks := loop.timer.tasks.requestQuit (loop.threadId = thread)
        some { loop with
          timer := { loop.timer with tasks := tasks }
          unread := loop.unread + (tasks.wakeups - loop.timer.tasks.wakeups) }
      else none

def machine (pair : WakeupPair) (milliseconds : Double → Int) (loopThread : Thread) :
    Machine (WakingLoop heap Thread) (WakingAction Double Functor Thread) :=
  ⟨step pair milliseconds loopThread⟩

/-- The two parts of `QueueInLoop` without a step between them are `TaskLoop.queueInLoop`. -/
theorem finishQueueing_pushFunctor (loop : WakingLoop heap Thread) (thread : Thread)
    (cb : Functor) :
    ((loop.pushFunctor thread cb).finishQueueing thread).timer.tasks =
      loop.timer.tasks.queueInLoop (loop.threadId = thread) cb := by
  by_cases own : thread = loop.threadId
  · cases calling : loop.timer.tasks.callingPendingFunctors <;>
      simp [finishQueueing, pushFunctor, TaskLoop.queueInLoop, wakeup, own, calling]
  · simp [finishQueueing, pushFunctor, TaskLoop.queueInLoop, wakeup, own, Ne.symm own]

/-- Queueing is announced: whoever the loop takes for its own thread queues from a handler of
an iteration that is still to swap, from a functor, or with the descriptor readable already;
and `Poll` is not called with nothing to read between another thread's push and its write. -/
def Announces (loop : WakingLoop heap Thread) (action : WakingAction Double Functor Thread) :
    Prop :=
  match action with
  | .pushFunctor thread _ => thread = loop.threadId → loop.aheadOfSwap = true ∨
      loop.timer.tasks.callingPendingFunctors = true ∨ 0 < loop.unread
  | .poll => loop.queueing = [] ∨ 0 < loop.unread
  | _ => True

/-- A call of `Poll` finds no functor pending, or the descriptor readable. -/
def AwakeAtPoll (loop : WakingLoop heap Thread) (action : WakingAction Double Functor Thread) :
    Prop :=
  match action with
  | .poll => loop.timer.tasks.pendingFunctors = [] ∨ 0 < loop.unread
  | _ => True

/-- Between any two steps, what is pending has a reader: the descriptor, a thread that is
about to write to it, or the swap ahead. -/
structure Awake (loopThread : Thread) (loop : WakingLoop heap Thread) : Prop where
  pending : loop.timer.tasks.pendingFunctors = [] ∨ 0 < loop.unread ∨ loop.queueing ≠ [] ∨
    loop.aheadOfSwap = true
  /-- the one thread that may go on without a write needs none -/
  silent : loop.threadId ∈ loop.queueing → loop.aheadOfSwap = true ∨
    loop.timer.tasks.callingPendingFunctors = true ∨ 0 < loop.unread
  unidentified : loop.threadId ≠ loopThread → loopThread ∉ loop.queueing

omit [DecidableEq Thread] in
theorem Awake.initial (heap : TaskHeap Double Functor) (loopThread creator : Thread) (now : Int) :
    Awake loopThread (initial heap creator now) where
  pending := .inl rfl
  silent member := by cases member
  unidentified _ member := by cases member

omit [DecidableEq Thread] in
/-- In the loop, between two calls of other functions, functors only leave the queue, and an
iteration with its handlers done goes to its swap. -/
theorem pending_of_step {tasks next : TaskLoop Functor} {action : LoopAction Functor}
    (own : action.isRequest = false) (transition : tasks.step action = some next) :
    next.pendingFunctors = [] ∨ action.isSwap = false ∧
      next.pendingFunctors = tasks.pendingFunctors ∧
      (tasks.phase = .handlers true → next.phase = .beforeSwap) ∧ tasks.phase ≠ .beforeSwap := by
  cases action with
  | queueInLoop | runInLoop | requestQuit => cases own
  | swap =>
      simp only [TaskLoop.step] at transition
      split at transition <;> cases transition
      exact .inl rfl
  | startLoop | testQuit | enterRound | callFunctor | functorReturns | leaveRound
    | endIteration =>
      simp only [TaskLoop.step] at transition
      split at transition <;> cases transition
      simp_all [LoopAction.isSwap]

/-- What a step of the timers or the loop does to the queue. -/
theorem timed_cases {milliseconds : Double → Int} {threadId : Thread}
    {timer next : TimerLoop heap Thread} {action : TimerAction Double Functor Thread}
    (own : action.isRequest = false)
    (transition : timer.step milliseconds threadId action = some next) :
    (∃ loopAction, action = .loop loopAction ∧ loopAction.isRequest = false ∧
      timer.tasks.step loopAction = some next.tasks) ∨
    ((∀ loopAction, action ≠ .loop loopAction) ∧
      next.tasks.pendingFunctors = timer.tasks.pendingFunctors ∧
      next.tasks.phase = timer.tasks.phase ∧
      next.tasks.callingPendingFunctors = timer.tasks.callingPendingFunctors) := by
  cases action with
  | loop loopAction =>
      simp only [TimerLoop.step, Option.ite_none_right_eq_some, Option.map_eq_some_iff]
        at transition
      obtain ⟨_, tasks, stepped, rfl⟩ := transition
      exact .inl ⟨loopAction, rfl, own, stepped⟩
  | pushTask thread =>
      simp only [TimerLoop.step, TimerLoop.pushTask] at transition
      split at transition
      · cases transition
      · cases transition
        right
        split_ifs <;> simp [TaskLoop.wakeup]
  | tick elapsed =>
      simp only [TimerLoop.step, Option.some.injEq] at transition
      subst transition
      exact .inr ⟨by simp, rfl, rfl, rfl⟩
  | runAfter | takeReady | serveNext | callbackReturns | leaveTimers =>
      right
      simp only [TimerLoop.step] at transition
      split at transition <;> cases transition
      exact ⟨by simp, rfl, rfl, rfl⟩

omit [DecidableEq Thread] in
/-- A step that leaves the loop where it is and only adds writes. -/
theorem Awake.of_sameLoop {loopThread : Thread} {loop next : WakingLoop heap Thread}
    (awake : Awake loopThread loop)
    (pending : next.timer.tasks.pendingFunctors = loop.timer.tasks.pendingFunctors)
    (ahead : next.aheadOfSwap = loop.aheadOfSwap)
    (calling : next.timer.tasks.callingPendingFunctors = loop.timer.tasks.callingPendingFunctors)
    (threadId : next.threadId = loop.threadId) (queueing : next.queueing = loop.queueing)
    (unread : loop.unread ≤ next.unread) : Awake loopThread next := by
  refine ⟨?_, ?_, ?_⟩
  · rw [pending, queueing, ahead]
    exact awake.pending.imp_right (Or.imp_left unread.trans_lt')
  · rw [threadId, queueing, ahead, calling]
    exact fun member => (awake.silent member).imp_right (Or.imp_right unread.trans_lt')
  · rw [threadId, queueing]
    exact awake.unidentified

omit [DecidableEq Thread] in
/-- A step of the loop thread, which is then in no `QueueInLoop`: it needs a reason to be awake
only for what it leaves pending past the swap. -/
theorem Awake.of_loopThread {loopThread : Thread} {loop next : WakingLoop heap Thread}
    (awake : Awake loopThread loop) (known : loop.threadId = loopThread)
    (free : loopThread ∉ loop.queueing) (threadId : next.threadId = loop.threadId)
    (queueing : next.queueing ⊆ loop.queueing)
    (pending : next.timer.tasks.pendingFunctors = [] ∨ next.aheadOfSwap = true ∨
      loop.aheadOfSwap = false ∧ loop.unread ≤ next.unread ∧ next.queueing = loop.queueing ∧
        next.timer.tasks.pendingFunctors = loop.timer.tasks.pendingFunctors) :
    Awake loopThread next := by
  refine ⟨?_, ?_, ?_⟩
  · rcases pending with nothing | ahead | ⟨behind, unread, unmoved, same⟩
    · exact .inl nothing
    · exact .inr (.inr (.inr ahead))
    · rcases awake.pending with nothing | readable | others | ahead
      · exact .inl (same.trans nothing)
      · exact .inr (.inl (readable.trans_le unread))
      · exact .inr (.inr (.inl (unmoved ▸ others)))
      · rw [behind] at ahead
        cases ahead
  · intro member
    rw [threadId, known] at member
    exact absurd (queueing member) free
  · intro other
    exact absurd (threadId.trans known) other

/-- A step of the loop or of its timers. -/
theorem Awake.timed {pair : WakeupPair} {milliseconds : Double → Int} {loopThread : Thread}
    {loop next : WakingLoop heap Thread} {action : TimerAction Double Functor Thread}
    (awake : Awake loopThread loop)
    (transition : (machine pair milliseconds loopThread).step loop (.timed action) = some next) :
    Awake loopThread next := by
  simp only [machine, step, Bool.and_eq_true, Bool.not_eq_true', Option.ite_none_right_eq_some,
    Option.map_eq_some_iff] at transition
  obtain ⟨⟨own, may⟩, timer, stepped, rfl⟩ := transition
  rcases timed_cases own stepped with ⟨loopAction, rfl, ownLoop, inLoop⟩ |
    ⟨notLoop, pending, phase, calling⟩
  · simp only [TimerAction.taker?, Option.all_some, mayAct, Bool.and_eq_true, decide_eq_true_eq,
      ne_eq, not_true_eq_false, decide_false, Bool.false_or, Bool.or_eq_true] at may
    obtain ⟨⟨free, _⟩, known, _⟩ := may
    refine awake.of_loopThread known free rfl ?_ ?_
    · dsimp only
      split_ifs
      · exact List.nil_subset _
      · exact List.Subset.refl _
    rcases pending_of_step ownLoop inLoop with nothing | ⟨notSwap, same, enters, swapped⟩
    · exact .inl nothing
    · by_cases inHandlers : loop.timer.tasks.phase = .handlers true
      · exact .inr (.inl (by simp [aheadOfSwap, enters inHandlers]))
      · refine .inr (.inr ⟨?_, Nat.le_add_right _ _, by simp [TimerAction.isSwap, notSwap], same⟩)
        unfold aheadOfSwap
        split
        · exact absurd ‹_› inHandlers
        · exact absurd ‹_› swapped
        · rfl
  · cases action with
    | loop loopAction => exact absurd rfl (notLoop loopAction)
    | _ =>
        exact awake.of_sameLoop pending (by simp only [aheadOfSwap, phase]) calling rfl rfl
          (Nat.le_add_right _ _)

/-- A thread that finishes has written to the descriptor, or is the one that needs not. -/
theorem Awake.finishQueueing {loopThread thread : Thread} {loop : WakingLoop heap Thread}
    (awake : Awake loopThread loop) : Awake loopThread (loop.finishQueueing thread) := by
  simp only [WakingLoop.finishQueueing]
  split_ifs with writes
  · have written : 0 < loop.unread + 1 := Nat.succ_pos _
    exact ⟨.inr (.inl written), fun _ => .inr (.inr written),
      fun unknown left => awake.unidentified unknown (List.mem_of_mem_erase left)⟩
  · by_cases member : thread ∈ loop.queueing
    · obtain ⟨own, notCalling⟩ := not_or.mp writes
      have known : thread = loop.threadId := not_ne_iff.mp own
      have reason : loop.aheadOfSwap = true ∨ 0 < loop.unread := by
        rcases awake.silent (known ▸ member) with ahead | calling | readable
        · exact .inl ahead
        · exact absurd calling notCalling
        · exact .inr readable
      refine ⟨?_, fun _ => reason.imp_right .inr, ?_⟩
      · rcases reason with ahead | readable
        · exact .inr (.inr (.inr ahead))
        · exact .inr (.inl readable)
      · exact fun unknown left => awake.unidentified unknown (List.mem_of_mem_erase left)
    · exact awake.of_sameLoop rfl rfl rfl rfl (List.erase_of_not_mem member) le_rfl

/-- Announced queueing keeps every pending functor with a reader. -/
theorem Awake.step {pair : WakeupPair} {milliseconds : Double → Int} {loopThread : Thread}
    {loop next : WakingLoop heap Thread} {action : WakingAction Double Functor Thread}
    (awake : Awake loopThread loop) (announced : loop.Announces action)
    (transition : (machine pair milliseconds loopThread).step loop action = some next) :
    Awake loopThread next := by
  cases action with
  | timed action => exact awake.timed transition
  | identify =>
      simp only [machine, WakingLoop.step] at transition
      split at transition <;> cases transition
      refine ⟨awake.pending, ?_, fun other => absurd rfl other⟩
      intro member
      by_cases known : loop.threadId = loopThread
      · exact awake.silent (known ▸ member)
      · exact absurd member (awake.unidentified known)
  | poll =>
      simp only [machine, WakingLoop.step, Option.ite_none_right_eq_some, Option.some.injEq]
        at transition
      obtain ⟨⟨known, free, _, phase, _⟩, rfl⟩ := transition
      exact awake.of_loopThread known free rfl (List.Subset.refl _)
        (.inr (.inl (by simp [aheadOfSwap, phase])))
  | pollReturns wakeupActive =>
      simp only [machine, WakingLoop.step, Option.ite_none_right_eq_some, Option.some.injEq]
        at transition
      obtain ⟨⟨waiting, _⟩, rfl⟩ := transition
      exact awake.of_sameLoop rfl (by simp [aheadOfSwap, waiting]) rfl rfl rfl le_rfl
  | readWakeup =>
      simp only [machine, WakingLoop.step, Option.ite_none_right_eq_some, Option.some.injEq]
        at transition
      obtain ⟨⟨may, phase, _⟩, rfl⟩ := transition
      simp only [mayAct, phase, Bool.and_eq_true, Bool.or_eq_true, decide_eq_true_eq, ne_eq,
        not_true_eq_false, decide_false, false_or, Bool.false_eq_true] at may
      obtain ⟨⟨free, _⟩, known, returned⟩ := may
      exact awake.of_loopThread known free rfl (List.Subset.refl _)
        (.inr (.inl (by simp [aheadOfSwap, phase, returned])))
  | pushFunctor thread cb =>
      simp only [machine, WakingLoop.step, Option.ite_none_right_eq_some, Option.some.injEq]
        at transition
      obtain ⟨may, rfl⟩ := transition
      refine ⟨.inr (.inr (.inl (List.cons_ne_nil _ _))), ?_, ?_⟩
      · intro member
        rcases List.mem_cons.mp member with own | earlier
        · exact announced own.symm
        · exact awake.silent earlier
      · intro unknown member
        rcases List.mem_cons.mp member with own | earlier
        · subst own
          simp only [mayCall, mayAct, ne_eq, not_true_eq_false, decide_false, Bool.false_or,
            Bool.and_eq_true, decide_eq_true_eq] at may
          exact unknown may.1.1.2.1
        · exact awake.unidentified unknown earlier
  | finishQueueing thread =>
      simp only [machine, WakingLoop.step, Option.ite_none_right_eq_some, Option.some.injEq]
        at transition
      obtain ⟨_, rfl⟩ := transition
      exact awake.finishQueueing
  | requestQuit thread =>
      simp only [machine, WakingLoop.step, Option.ite_none_right_eq_some, Option.some.injEq]
        at transition
      obtain ⟨_, rfl⟩ := transition
      refine awake.of_sameLoop ?_ ?_ ?_ rfl rfl (Nat.le_add_right _ _)
      all_goals simp only [aheadOfSwap, TaskLoop.requestQuit]; split_ifs <;> rfl

instance decidableAnnounces (loop : WakingLoop heap Thread) :
    (action : WakingAction Double Functor Thread) → Decidable (loop.Announces action)
  | .pushFunctor thread _ => inferInstanceAs (Decidable (thread = loop.threadId →
      loop.aheadOfSwap = true ∨ loop.timer.tasks.callingPendingFunctors = true ∨
        0 < loop.unread))
  | .poll => inferInstanceAs (Decidable (loop.queueing = [] ∨ 0 < loop.unread))
  | .identify | .timed _ | .pollReturns _ | .readWakeup | .finishQueueing _ | .requestQuit _ =>
      .isTrue trivial

instance decidableAwakeAtPoll (loop : WakingLoop heap Thread) [DecidableEq Functor] :
    (action : WakingAction Double Functor Thread) → Decidable (loop.AwakeAtPoll action)
  | .poll => inferInstanceAs (Decidable
      (loop.timer.tasks.pendingFunctors = [] ∨ 0 < loop.unread))
  | .identify | .timed _ | .pollReturns _ | .readWakeup | .pushFunctor _ _ | .finishQueueing _
    | .requestQuit _ => .isTrue trivial

/-- A sorted list for the delayed tasks. -/
abbrev sortedTasks : TaskHeap Int Nat := PriorityQueue.sortedBy DelayedTask.expireTime

/-- A delayed task is due at once, and its callback queues a functor: the iteration ends
with it, and the next one calls `Poll` with nothing to read. -/
def queueingCallback : List (WakingAction Int Nat Bool) :=
  [.timed (.runAfter true 0 (some 7)), .timed (.pushTask true), .timed (.loop .startLoop),
    .timed (.loop .testQuit), .poll, .pollReturns false, .timed (.loop .enterRound),
    .timed (.loop .swap), .timed (.loop .leaveRound), .timed .takeReady, .timed .serveNext,
    .pushFunctor true 8, .finishQueueing true, .timed .callbackReturns, .timed .leaveTimers,
    .timed (.loop .endIteration), .timed (.loop .testQuit)]

theorem asleep_after_queueing_callback :
    ¬ ∀ actions : List (WakingAction Int Nat Bool),
      (machine .eventfd (· * 1000) true).Guarded AwakeAtPoll (initial sortedTasks true 0)
        actions := by
  intro always
  exact absurd (always (queueingCallback ++ [.poll])) (by decide +kernel)

/-- In every run in which queueing is announced, every call of `Poll` finds no functor
pending, or the wake-up descriptor readable. -/
theorem polls_awake_when_announced {pair : WakeupPair} {milliseconds : Double → Int}
    {loopThread creator : Thread} {now : Int}
    {actions : List (WakingAction Double Functor Thread)}
    (announced : (machine pair milliseconds loopThread).Guarded Announces
      (initial heap creator now) actions) :
    (machine pair milliseconds loopThread).Guarded AwakeAtPoll (initial heap creator now)
      actions := by
  refine announced.of_invariant (fun _ _ _ awake admitted transition =>
    awake.step admitted transition) ?_ (Awake.initial heap loopThread creator now)
  intro loop action next awake admitted transition
  cases action with
  | poll =>
      simp only [machine, WakingLoop.step, Option.ite_none_right_eq_some] at transition
      obtain ⟨⟨_, _, _, phase, before⟩, _⟩ := transition
      rcases awake.pending with nothing | readable | others | ahead
      · exact .inl nothing
      · exact .inr readable
      · exact admitted.elim (fun none => absurd none others) .inr
      · simp [aheadOfSwap, phase, before] at ahead
  | identify | timed _ | pollReturns _ | readWakeup | pushFunctor _ _ | finishQueueing _
    | requestQuit _ => trivial

/-- A handler and another thread queue in time for the swap, a functor and a third thread for
the next `Poll`. -/
def announcedQueueing : List (WakingAction Int Nat Nat) :=
  [.identify, .timed (.loop .startLoop), .timed (.loop .testQuit), .poll, .pushFunctor 2 5,
    .finishQueueing 2, .pollReturns true, .readWakeup, .pushFunctor 1 6, .finishQueueing 1,
    .timed (.loop .enterRound), .timed (.loop .swap), .timed (.loop .callFunctor),
    .pushFunctor 1 7, .finishQueueing 1, .timed (.loop .functorReturns),
    .timed (.loop .callFunctor), .timed (.loop .functorReturns), .timed (.loop .leaveRound),
    .pushFunctor 3 8, .timed .takeReady, .timed .leaveTimers, .timed (.loop .endIteration),
    .timed (.loop .testQuit), .poll, .finishQueueing 3]

theorem announced_queueing_awake :
    ∃ loop, (machine .eventfd (· * 1000) 1).Run AwakeAtPoll (initial sortedTasks 0 0)
        announcedQueueing loop ∧
      loop.timer.tasks.pendingFunctors = [7, 8] ∧ loop.unread = 2 := by
  have executed : (machine .eventfd (· * 1000) 1).exec (initial sortedTasks 0 0)
      announcedQueueing = some _ := rfl
  have announced : (machine .eventfd (· * 1000) 1).Guarded Announces (initial sortedTasks 0 0)
      announcedQueueing := by decide +kernel
  exact ⟨_, Machine.run_of_guarded executed (polls_awake_when_announced announced), rfl, rfl⟩

end WakingLoop

end TurboCore.Net
