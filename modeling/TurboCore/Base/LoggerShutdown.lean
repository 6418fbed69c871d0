import Mathlib
import TurboCore.Base.Logger

/-!
# What `Shutdown` leaves behind

The log thread drains the queue before its own test of `m_is_running`, but not before the
test of its outer loop: an event pushed between the two is discarded when `Shutdown`
clears the flag in that gap. The events pushed before the call reach every appender once
and in order in exactly the runs in which the outer loop's failing test leaves no such
event in the queue.
-/

namespace TurboCore.Base

open Foundation

namespace LoggerRun

/-- Of two splits of one list, the first part of one is a prefix of the first part of the
other just when the rest of that other is a suffix of its own rest. -/
theorem prefix_iff_suffix {α : Type} {taken queue accepted late : List α}
    (split : taken ++ queue = accepted ++ late) : accepted <+: taken ↔ queue <:+ late := by
  constructor
  · rintro ⟨more, rfl⟩
    rw [List.append_assoc] at split
    exact ⟨more, List.append_cancel_left split⟩
  · rintro ⟨more, rfl⟩
    rw [← List.append_assoc] at split
    exact ⟨more, (List.append_cancel_right split).symm⟩

theorem LogLoopPc.holdsMutex_of_hasDrained {pc : LogLoopPc} (drained : pc.hasDrained = true) :
    pc.holdsMutex = true := by
  cases pc <;> simp_all [LogLoopPc.hasDrained, LogLoopPc.holdsMutex]

/-- What holds of the mutex, the queue and the history at every moment of a run. -/
structure Ledger (slots : Nat) (run : LoggerRun) : Prop where
  writerHolds : ∀ writer, (run.writerPc writer).holdsMutex = true →
    run.queueMutex = some (.writer writer)
  loopHolds : run.logLoopPc.holdsMutex = true → run.queueMutex = some .logLoop
  shutdownHolds : run.shutdownPc = .discard → run.queueMutex = some .shutdown
  drained : run.logLoopPc.hasDrained = true → run.logQueue = []
  called : run.isRunning = false → run.shutdownPc ≠ .notCalled
  stopped : run.logLoopPc = .exited → run.isRunning = false
  joined : run.shutdownPc.hasJoined = true → run.logLoopPc = .exited
  onTime : run.shutdownPc = .notCalled → run.late = []
  sized : run.shutdownPc ≠ .returned → run.appenders.length = slots
  queued : run.shutdownPc ≠ .returned → run.taken ++ run.logQueue = run.accepted ++ run.late
  inOrder : run.taken <+: run.accepted ++ run.late
  passed : ∀ slot < slots, run.received slot ++ run.logLoopPc.toAppend slot = run.taken

namespace Ledger

variable {slots : Nat} {run next : LoggerRun}

theorem init (added : List Appender) (minLevel : LogLevel) (logBasePath : String) :
    Ledger (initialAppenders added logBasePath).length (init added minLevel logBasePath) where
  writerHolds _ held := by cases held
  loopHolds held := by cases held
  shutdownHolds position := by cases position
  drained _ := rfl
  called stopped := by cases stopped
  stopped exited := by cases exited
  joined waited := by cases waited
  onTime _ := rfl
  sized _ := rfl
  queued _ := rfl
  inOrder := List.nil_prefix
  passed _ _ := rfl

/-- Nobody writes while the mutex is free or held by one of the other two threads. -/
theorem no_writer (ledger : Ledger slots run) {mutex : Option LogThread}
    (held : run.queueMutex = mutex) (other : ∀ writer, mutex ≠ some (.writer writer))
    (writer : WriterId) (writing : (run.writerPc writer).holdsMutex = true) : False := by
  have holder := ledger.writerHolds writer writing
  rw [held] at holder
  exact other writer holder

/-- While the log thread runs, `Shutdown` has not joined it. -/
theorem not_joined (ledger : Ledger slots run) (active : run.logLoopPc ≠ .exited) :
    run.shutdownPc.hasJoined = false := by
  cases joined : run.shutdownPc.hasJoined with
  | false => rfl
  | true => exact absurd (ledger.joined joined) active

theorem not_discarding (ledger : Ledger slots run) (active : run.logLoopPc ≠ .exited) :
    run.shutdownPc ≠ .discard := by
  intro discarding
  have waiting := ledger.not_joined active
  rw [discarding] at waiting
  cases waiting

theorem not_returned (ledger : Ledger slots run) (active : run.logLoopPc ≠ .exited) :
    run.shutdownPc ≠ .returned := by
  intro returned
  have waiting := ledger.not_joined active
  rw [returned] at waiting
  cases waiting

/-- A writing thread that does not take the mutex changes nothing else. -/
theorem setWriter (ledger : Ledger slots run) (writer : WriterId) {pc : WriterPc}
    (quiet : pc.holdsMutex = false) : Ledger slots (run.setWriter writer pc) where
  writerHolds other held := by
    simp only [LoggerRun.setWriter] at held
    split at held
    · rw [quiet] at held
      cases held
    · exact ledger.writerHolds other held
  loopHolds := ledger.loopHolds
  shutdownHolds := ledger.shutdownHolds
  drained := ledger.drained
  called := ledger.called
  stopped := ledger.stopped
  joined := ledger.joined
  onTime := ledger.onTime
  sized := ledger.sized
  queued := ledger.queued
  inOrder := ledger.inOrder
  passed := ledger.passed

/-- The log thread moves on with all it has taken handed over. -/
theorem loopTo (ledger : Ledger slots run) (active : run.logLoopPc ≠ .exited) {pc : LogLoopPc}
    {mutex : Option LogThread}
    (writers : ∀ writer, (run.writerPc writer).holdsMutex = true → mutex = some (.writer writer))
    (holds : pc.holdsMutex = true → mutex = some .logLoop)
    (drained : pc.hasDrained = true → run.logQueue = [])
    (stopped : pc = .exited → run.isRunning = false)
    (before : ∀ slot < slots, run.logLoopPc.toAppend slot = [])
    (after : ∀ slot, pc.toAppend slot = []) :
    Ledger slots { run with logLoopPc := pc, queueMutex := mutex } where
  writerHolds := writers
  loopHolds := holds
  shutdownHolds discarding := absurd discarding (ledger.not_discarding active)
  drained := drained
  called := ledger.called
  stopped := stopped
  joined joined := by
    rw [ledger.not_joined active] at joined
    cases joined
  onTime := ledger.onTime
  sized := ledger.sized
  queued := ledger.queued
  inOrder := ledger.inOrder
  passed slot inside := by
    rw [after slot, ← before slot inside]
    exact ledger.passed slot inside

theorem wake (ledger : Ledger slots run) (waiting : run.logLoopPc = .waiting) :
    Ledger slots { run with logLoopPc := .woken } := by
  refine ledger.loopTo (by simp [waiting]) ledger.writerHolds ?_ ?_ ?_ ?_ ?_
  · intro held
    cases held
  · intro drained
    cases drained
  · intro exited
    cases exited
  · intro slot _
    rw [waiting]
    rfl
  · exact fun _ => rfl

theorem notifyOne (ledger : Ledger slots run) : Ledger slots run.notifyOne := by
  by_cases waiting : run.logLoopPc = .waiting
  · rw [LoggerRun.notifyOne, if_pos waiting]
    exact ledger.wake waiting
  · rw [LoggerRun.notifyOne, if_neg waiting]
    exact ledger

theorem pushEvent_history (run : LoggerRun) (event : LogEvent)
    (onTime : run.shutdownPc = .notCalled → run.late = []) :
    (run.pushEvent event).accepted ++ (run.pushEvent event).late =
      run.accepted ++ run.late ++ [event] := by
  simp only [pushEvent]
  split
  · next early => rw [onTime early, List.append_nil, List.append_nil]
  · rw [List.append_assoc]

theorem writerStep (ledger : Ledger slots run) {writer : WriterId}
    (step : WriterStep run writer next) : Ledger slots next := by
  cases step with
  | move pc _ after => exact ledger.setWriter writer after
  | lock event position free =>
      have nobody := ledger.no_writer free (by simp)
      exact
        { ledger with
          writerHolds := by
            intro other held
            simp only [LoggerRun.setWriter] at held
            split at held
            · next same => rw [same]
            · exact (nobody other held).elim
          loopHolds := by
            intro held
            rw [ledger.loopHolds held] at free
            cases free
          shutdownHolds := by
            intro position
            rw [ledger.shutdownHolds position] at free
            cases free }
  | push event position =>
      have holder := ledger.writerHolds writer (by rw [position]; rfl)
      have loopAway : ∀ {goal : Prop}, run.logLoopPc.holdsMutex = true → goal := by
        intro goal held
        rw [ledger.loopHolds held] at holder
        cases holder
      have history := pushEvent_history run event ledger.onTime
      exact
        { called := ledger.called
          stopped := ledger.stopped
          joined := ledger.joined
          sized := ledger.sized
          passed := ledger.passed
          writerHolds := by
            intro other held
            simp only [LoggerRun.setWriter] at held
            split at held
            · cases held
            · next different =>
                have also := ledger.writerHolds other held
                rw [holder] at also
                cases also
                exact absurd rfl different
          loopHolds := loopAway
          shutdownHolds := by
            intro discarding
            rw [ledger.shutdownHolds discarding] at holder
            cases holder
          drained := fun drained => loopAway (LogLoopPc.holdsMutex_of_hasDrained drained)
          onTime := by
            intro early
            exact (if_pos early).trans (ledger.onTime early)
          queued := by
            intro notReturned
            change run.taken ++ (run.logQueue ++ [event]) = _
            rw [← List.append_assoc, ledger.queued notReturned]
            exact history.symm
          inOrder := by
            change run.taken <+: (run.pushEvent event).accepted ++ (run.pushEvent event).late
            rw [history]
            exact ledger.inOrder.trans (List.prefix_append _ _) }
  | notify position => exact ledger.notifyOne.setWriter writer rfl

theorem handed_all (ledger : Ledger slots run) (active : run.logLoopPc ≠ .exited)
    {event : LogEvent} {next : Nat} (position : run.logLoopPc = .append event next)
    (outside : run.appenders.length ≤ next) :
    ∀ slot < slots, run.logLoopPc.toAppend slot = [] := by
  intro slot inside
  rw [ledger.sized (ledger.not_returned active)] at outside
  rw [position, LogLoopPc.toAppend, if_neg (by omega)]

/-- Taking an event out of the queue: every appender is still to be handed it. -/
theorem take (ledger : Ledger slots run) {event : LogEvent} {rest : List LogEvent}
    (position : run.logLoopPc = .drainTest) (queued : run.logQueue = event :: rest) :
    Ledger slots
      { run with
        logLoopPc := .append event 0
        logQueue := rest
        taken := run.taken ++ [event]
        queueMutex := none } := by
  have holder := ledger.loopHolds (by rw [position]; rfl)
  have active : run.logLoopPc ≠ .exited := by simp [position]
  have history := ledger.queued (ledger.not_returned active)
  have moved : (run.taken ++ [event]) ++ rest = run.accepted ++ run.late := by
    rw [← history, queued, List.append_assoc, List.singleton_append]
  exact
    { called := ledger.called
      onTime := ledger.onTime
      sized := ledger.sized
      writerHolds := fun writer held => (ledger.no_writer holder (by simp) writer held).elim
      loopHolds := fun held => by cases held
      shutdownHolds := fun discarding => absurd discarding (ledger.not_discarding active)
      drained := fun drained => by cases drained
      stopped := fun exited => by cases exited
      joined := by
        intro joined
        rw [ledger.not_joined active] at joined
        cases joined
      queued := fun _ => moved
      inOrder := ⟨rest, moved⟩
      passed := by
        intro slot inside
        have before := ledger.passed slot inside
        rw [position] at before
        change run.received slot ++ [event] = run.taken ++ [event]
        rw [← before]
        exact congrArg (· ++ [event]) (List.append_nil _).symm }

/-- Handing the event to the next appender. -/
theorem hand (ledger : Ledger slots run) {event : LogEvent} {next : Nat}
    (position : run.logLoopPc = .append event next) :
    Ledger slots { run.handTo next event with logLoopPc := .append event (next + 1) } := by
  have active : run.logLoopPc ≠ .exited := by simp [position]
  exact
    { writerHolds := ledger.writerHolds
      called := ledger.called
      onTime := ledger.onTime
      sized := ledger.sized
      queued := ledger.queued
      inOrder := ledger.inOrder
      loopHolds := fun held => by cases held
      shutdownHolds := fun discarding => absurd discarding (ledger.not_discarding active)
      drained := fun drained => by cases drained
      stopped := fun exited => by cases exited
      joined := by
        intro joined
        rw [show (run.handTo next event).shutdownPc = run.shutdownPc from rfl,
          ledger.not_joined active] at joined
        cases joined
      passed := by
        intro slot inside
        have before := ledger.passed slot inside
        rw [position] at before
        simp only [LogLoopPc.toAppend, handTo] at before ⊢
        rcases Nat.lt_trichotomy slot next with earlier | here | later
        · rw [if_neg (by omega), if_neg (by omega)]
          rw [if_neg (by omega)] at before
          exact before
        · subst here
          rw [if_pos rfl, if_neg (by omega), List.append_nil]
          rw [if_pos (Nat.le_refl _)] at before
          exact before
        · rw [if_neg (by omega), if_pos (by omega)]
          rw [if_pos (by omega)] at before
          exact before }

section LogLoop

variable (ledger : Ledger slots run) (active : run.logLoopPc ≠ .exited) {pc : LogLoopPc}
  (before : ∀ slot < slots, run.logLoopPc.toAppend slot = []) (after : ∀ slot, pc.toAppend slot = [])

include ledger active before after

/-- The log thread takes the mutex. -/
theorem loopLock (free : run.queueMutex = none) (undrained : pc.hasDrained = false)
    (stays : pc ≠ .exited) :
    Ledger slots { run with logLoopPc := pc, queueMutex := some .logLoop } := by
  refine ledger.loopTo active ?_ (fun _ => rfl) ?_ (fun exited => absurd exited stays) before after
  · intro writer held
    exact (ledger.no_writer free (by simp) writer held).elim
  · rw [undrained]
    intro drained
    cases drained

/-- It goes on with the mutex. -/
theorem loopHold (holds : run.logLoopPc.holdsMutex = true)
    (drained : pc.hasDrained = true → run.logQueue = []) (stays : pc ≠ .exited) :
    Ledger slots { run with logLoopPc := pc } :=
  ledger.loopTo active ledger.writerHolds (fun _ => ledger.loopHolds holds) drained
    (fun exited => absurd exited stays) before after

/-- It gives the mutex back. -/
theorem loopUnlock (holds : run.logLoopPc.holdsMutex = true) (released : pc.holdsMutex = false)
    (undrained : pc.hasDrained = false) (stopped : pc = .exited → run.isRunning = false) :
    Ledger slots { run with logLoopPc := pc, queueMutex := none } := by
  refine ledger.loopTo active ?_ ?_ ?_ stopped before after
  · intro writer held
    exact (ledger.no_writer (ledger.loopHolds holds) (by simp) writer held).elim
  · rw [released]
    intro held
    cases held
  · rw [undrained]
    intro drained
    cases drained

end LogLoop

theorem logLoopStep (ledger : Ledger slots run) (step : LogLoopStep run next) :
    Ledger slots next := by
  cases step with
  | enterLoop position _ =>
      exact ledger.loopTo (by simp [position]) ledger.writerHolds (by simp [LogLoopPc.holdsMutex])
        (by simp [LogLoopPc.hasDrained]) (by simp) (by simp [position, LogLoopPc.toAppend])
        (fun _ => rfl)
  | leaveLoop position stopped =>
      exact ledger.loopTo (by simp [position]) ledger.writerHolds (by simp [LogLoopPc.holdsMutex])
        (by simp [LogLoopPc.hasDrained]) (fun _ => stopped)
        (by simp [position, LogLoopPc.toAppend]) (fun _ => rfl)
  | lock position free =>
      have quiet : ∀ slot, run.logLoopPc.toAppend slot = [] := by
        rcases position with position | position <;> simp [position, LogLoopPc.toAppend]
      exact ledger.loopLock (by rcases position with position | position <;> simp [position])
        (fun slot _ => quiet slot) (fun _ => rfl) free rfl (by simp)
  | ready position | idle position =>
      exact ledger.loopHold (by simp [position]) (by simp [position, LogLoopPc.toAppend])
        (fun _ => rfl) (by rw [position]; rfl) (by simp [LogLoopPc.hasDrained]) (by simp)
  | sleep position =>
      exact ledger.loopUnlock (by simp [position]) (by simp [position, LogLoopPc.toAppend])
        (fun _ => rfl) (by rw [position]; rfl) rfl rfl (by simp)
  | drained position empty =>
      exact ledger.loopHold (by simp [position]) (by simp [position, LogLoopPc.toAppend])
        (fun _ => rfl) (by rw [position]; rfl) (fun _ => empty) (by simp)
  | take event rest position queued => exact ledger.take position queued
  | hand event next position inside => exact ledger.hand position
  | handed event next position outside =>
      have active : run.logLoopPc ≠ .exited := by simp [position]
      exact ledger.loopTo active ledger.writerHolds (by simp [LogLoopPc.holdsMutex])
        (by simp [LogLoopPc.hasDrained]) (by simp) (ledger.handed_all active position outside)
        (fun _ => rfl)
  | relock position free =>
      exact ledger.loopLock (by simp [position]) (by simp [position, LogLoopPc.toAppend])
        (fun _ => rfl) free rfl (by simp)
  | flushed position =>
      have empty := ledger.drained (by rw [position]; rfl)
      exact ledger.loopHold (by simp [position]) (by simp [position, LogLoopPc.toAppend])
        (fun _ => rfl) (by rw [position]; rfl) (fun _ => empty) (by simp)
  | leave position stopped =>
      exact ledger.loopUnlock (by simp [position]) (by simp [position, LogLoopPc.toAppend])
        (fun _ => rfl) (by rw [position]; rfl) rfl rfl (fun _ => stopped)
  | again position _ =>
      exact ledger.loopUnlock (by simp [position]) (by simp [position, LogLoopPc.toAppend])
        (fun _ => rfl) (by rw [position]; rfl) rfl rfl (by simp)

/-- `Shutdown` moves on before it joins the log thread. -/
theorem shutdownTo (ledger : Ledger slots run) {pc : ShutdownPc} {running : Bool}
    (early : run.shutdownPc.hasJoined = false) (waiting : pc.hasJoined = false)
    (begun : pc ≠ .notCalled) (stops : running = false ∨ running = run.isRunning) :
    Ledger slots { run with shutdownPc := pc, isRunning := running } where
  writerHolds := ledger.writerHolds
  loopHolds := ledger.loopHolds
  shutdownHolds discarding := by
    have here : pc = .discard := discarding
    rw [here] at waiting
    cases waiting
  drained := ledger.drained
  called _ := begun
  stopped exited := by
    rcases stops with stopped | same
    · exact stopped
    · exact same.trans (ledger.stopped exited)
  joined joined := by
    have here : pc.hasJoined = true := joined
    rw [waiting] at here
    cases here
  onTime notCalled := absurd notCalled begun
  sized _ := ledger.sized (by intro returned; rw [returned] at early; cases early)
  queued _ := ledger.queued (by intro returned; rw [returned] at early; cases early)
  inOrder := ledger.inOrder
  passed := ledger.passed

theorem shutdownStep (ledger : Ledger slots run) (step : ShutdownStep run next) :
    Ledger slots next := by
  cases step with
  | call position =>
      exact ledger.shutdownTo (by rw [position]; rfl) rfl (by simp) (.inr rfl)
  | store position =>
      exact ledger.shutdownTo (by rw [position]; rfl) rfl (by simp) (.inl rfl)
  | notify position =>
      have before : run.notifyOne.shutdownPc = .notify := position
      exact ledger.notifyOne.shutdownTo (by rw [before]; rfl) rfl (by simp) (.inr rfl)
  | join position exited =>
      exact
        { ledger with
          shutdownHolds := by simp
          called := fun _ => by simp
          joined := fun _ => exited
          onTime := by simp
          sized := fun _ => ledger.sized (by simp [position])
          queued := fun _ => ledger.queued (by simp [position]) }
  | lock position free =>
      have exited := ledger.joined (by rw [position]; rfl)
      exact
        { ledger with
          writerHolds := fun writer held => (ledger.no_writer free (by simp) writer held).elim
          loopHolds := by simp [exited, LogLoopPc.holdsMutex]
          shutdownHolds := fun _ => rfl
          called := fun _ => by simp
          joined := fun _ => exited
          onTime := by simp
          sized := fun _ => ledger.sized (by simp [position])
          queued := fun _ => ledger.queued (by simp [position]) }
  | discard position =>
      have holder := ledger.shutdownHolds position
      have exited := ledger.joined (by rw [position]; rfl)
      exact
        { ledger with
          writerHolds := fun writer held => (ledger.no_writer holder (by simp) writer held).elim
          loopHolds := by simp [exited, LogLoopPc.holdsMutex]
          shutdownHolds := by simp
          drained := fun _ => rfl
          called := fun _ => by simp
          joined := fun _ => exited
          onTime := by simp
          sized := by simp
          queued := by simp }

theorem step {event : LoggerEvent} (ledger : Ledger slots run)
    (step : LoggerStep run event next) : Ledger slots next := by
  cases step with
  | writer _ writer _ _ step => exact ledger.writerStep step
  | logLoop _ step => exact ledger.logLoopStep step
  | spurious waiting => exact ledger.wake waiting
  | shutdown _ _ _ step => exact ledger.shutdownStep step

end Ledger

/-- Once the log thread is gone, it has taken every event pushed before the call. -/
def Settled (run : LoggerRun) : Prop :=
  run.logLoopPc = .exited → run.accepted <+: run.taken

/-- When the outer loop of `LogLoop` finds `m_is_running` false, the queue holds no event
that was pushed before `Shutdown` was called. -/
def LeavesNothingBehind (run : LoggerRun) : LoggerEvent → Prop
  | .logLoop => run.logLoopPc = .whileTest → run.isRunning = false → run.logQueue <:+ run.late
  | _ => True

instance (run : LoggerRun) : (event : LoggerEvent) → Decidable (run.LeavesNothingBehind event)
  | .logLoop => inferInstanceAs (Decidable (run.logLoopPc = .whileTest → _))
  | .write _ _ | .writer _ _ | .spurious | .callShutdown | .shutdown => .isTrue trivial

variable {slots : Nat} {run next : LoggerRun} {event : LoggerEvent}

/-- After the log thread is gone, both histories stand still. -/
theorem LoggerStep.frozen (ledger : Ledger slots run) (step : LoggerStep run event next)
    (exited : run.logLoopPc = .exited) :
    next.logLoopPc = .exited ∧ next.accepted = run.accepted ∧ next.taken = run.taken := by
  have called := ledger.called (ledger.stopped exited)
  have asleep : run.notifyOne.logLoopPc = .exited := by simp [LoggerRun.notifyOne, exited]
  cases step with
  | writer _ writer _ _ step =>
      cases step with
      | move => exact ⟨exited, rfl, rfl⟩
      | lock => exact ⟨exited, rfl, rfl⟩
      | push => exact ⟨exited, if_neg called, rfl⟩
      | notify => exact ⟨asleep, rfl, rfl⟩
  | logLoop _ step =>
      cases step with
      | lock position _ => rcases position with position | position <;> simp [exited] at position
      | take _ _ position _ | hand _ _ position _ | handed _ _ position _ =>
          simp [exited] at position
      | _ position => simp [exited] at position
  | spurious waiting => simp [exited] at waiting
  | shutdown _ _ _ step =>
      cases step with
      | notify => exact ⟨asleep, rfl, rfl⟩
      | _ => exact ⟨exited, rfl, rfl⟩

/-- The log thread leaves by one of its two tests of `m_is_running`. -/
theorem LoggerStep.exits (step : LoggerStep run event next) (active : run.logLoopPc ≠ .exited)
    (exited : next.logLoopPc = .exited) :
    event = .logLoop ∧ (run.logLoopPc = .whileTest ∧ run.isRunning = false ∨
      run.logLoopPc = .breakTest) ∧ next.accepted = run.accepted ∧ next.taken = run.taken := by
  have awake : run.notifyOne.logLoopPc ≠ .exited := by
    simp only [LoggerRun.notifyOne]
    split
    · simp
    · exact active
  cases step with
  | writer _ writer _ _ step =>
      cases step with
      | notify => exact absurd exited awake
      | _ => exact absurd exited active
  | logLoop _ step =>
      cases step with
      | leaveLoop position stopped => exact ⟨rfl, .inl ⟨position, stopped⟩, rfl, rfl⟩
      | leave position => exact ⟨rfl, .inr position, rfl, rfl⟩
      | _ => cases exited
  | spurious => cases exited
  | shutdown _ _ _ step =>
      cases step with
      | notify => exact absurd exited awake
      | _ => exact absurd exited active

/-- A step that leaves nothing behind keeps the log thread's account settled. -/
theorem Settled.step (ledger : Ledger slots run) (settled : Settled run)
    (guarded : run.LeavesNothingBehind event) (step : LoggerStep run event next) :
    Settled next := by
  intro exitedNext
  by_cases exited : run.logLoopPc = .exited
  · obtain ⟨_, acceptedEq, takenEq⟩ := step.frozen ledger exited
    rw [acceptedEq, takenEq]
    exact settled exited
  · obtain ⟨rfl, position, acceptedEq, takenEq⟩ := step.exits exited exitedNext
    have history := ledger.queued (ledger.not_returned exited)
    rw [acceptedEq, takenEq, prefix_iff_suffix history]
    rcases position with ⟨outer, stopped⟩ | inner
    · exact guarded outer stopped
    · rw [ledger.drained (by rw [inner]; rfl)]
      exact List.nil_suffix

/-- A step after which the account is settled left nothing behind. -/
theorem Settled.guarded (ledger : Ledger slots run) (step : LoggerStep run event next)
    (settled : Settled next) : run.LeavesNothingBehind event := by
  cases event with
  | logLoop =>
      intro outer stopped
      have active : run.logLoopPc ≠ .exited := by simp [outer]
      have history := ledger.queued (ledger.not_returned active)
      have left : next = { run with logLoopPc := .exited } := by
        cases step with
        | writer _ _ _ other => exact absurd rfl other
        | shutdown _ _ other => exact absurd rfl other
        | logLoop _ step =>
            cases step with
            | leaveLoop => rfl
            | enterLoop _ running => simp [stopped] at running
            | lock position => rcases position with position | position <;> simp [outer] at position
            | take _ _ position _ | hand _ _ position _ | handed _ _ position _ =>
                simp [outer] at position
            | _ position => simp [outer] at position
      subst left
      exact (prefix_iff_suffix history).mp (settled rfl)
  | _ => trivial

/-- An event left behind stays behind. -/
theorem Settled.of_next (ledger : Ledger slots run) (step : LoggerStep run event next)
    (settled : Settled next) : Settled run := by
  intro exited
  obtain ⟨exitedNext, acceptedEq, takenEq⟩ := step.frozen ledger exited
  rw [← acceptedEq, ← takenEq]
  exact settled exitedNext

/-- Every appender was handed each event pushed before the call of `Shutdown` once, in the
order of the queue, and after these only the first of the later events. -/
def Delivered (slots : Nat) (run : LoggerRun) : Prop :=
  ∀ slot < slots, ∃ handled, handled <+: run.late ∧ run.received slot = run.accepted ++ handled

theorem Ledger.delivered_iff (ledger : Ledger slots run) (some : 0 < slots)
    (returned : run.shutdownPc = .returned) : Delivered slots run ↔ Settled run := by
  have exited := ledger.joined (by rw [returned]; rfl)
  have passed : ∀ slot < slots, run.received slot = run.taken := by
    intro slot inside
    have handed := ledger.passed slot inside
    rw [exited] at handed
    exact (List.append_nil _).symm.trans handed
  constructor
  · intro delivered _
    obtain ⟨handled, _, received⟩ := delivered 0 some
    rw [← passed 0 some, received]
    exact List.prefix_append _ _
  · intro settled slot inside
    obtain ⟨handled, taken⟩ := settled exited
    refine ⟨handled, ?_, (passed slot inside).trans taken.symm⟩
    have inOrder := ledger.inOrder
    rw [← taken] at inOrder
    exact (List.prefix_append_right_inj _).mp inOrder

/-- Every execution of the logger, its writers and one `Shutdown`, for every set of
appenders: when `Shutdown` has returned, each event pushed before the call has been handed
to every appender once and in order if and only if no failing test of the outer loop left
such an event in the queue. -/
theorem events_reach_appenders_iff (putTime : Int → String) (added : List Appender)
    (minLevel : LogLevel) (logBasePath : String) (events : List LoggerEvent) (final : LoggerRun)
    (executed : (logger putTime).exec (init added minLevel logBasePath) events = some final)
    (returned : final.shutdownPc = .returned) :
    Delivered (initialAppenders added logBasePath).length final ↔
      (logger putTime).Guarded LeavesNothingBehind (init added minLevel logBasePath) events := by
  have initial := Ledger.init added minLevel logBasePath
  have settled : Settled (init added minLevel logBasePath) := fun exited => by cases exited
  have steps := @step_cases putTime
  have ledgerEnd : Ledger (initialAppenders added logBasePath).length final :=
    (Machine.run_of_exec executed).invariant _ initial
      fun _ _ _ ledger _ transition => ledger.step (steps transition)
  have some : 0 < (initialAppenders added logBasePath).length := by simp [initialAppenders]
  have throughout := @Machine.throughout_iff_guarded _ _ (logger putTime)
    (fun run => Ledger (initialAppenders added logBasePath).length run ∧ Settled run)
    Settled LeavesNothingBehind (fun _ both => both.2)
    (fun _ _ _ both guarded transition =>
      ⟨both.1.step (steps transition), both.2.step both.1 guarded (steps transition)⟩)
    (fun _ _ _ both transition after => after.guarded both.1 (steps transition))
    _ ⟨initial, settled⟩ events
  rw [ledgerEnd.delivered_iff some returned, ← throughout]
  constructor
  · exact Machine.Throughout.of_last initial
      (fun _ _ _ ledger transition => ledger.step (steps transition))
      (fun _ _ _ ledger transition after => after.of_next ledger (steps transition)) executed
  · exact fun visited => visited.of_exec executed

/-- One event is written, the log thread hands it to the three appenders and sleeps, and
`Shutdown` wakes it. -/
def drainedRun : List LoggerEvent :=
  [.write 0 (Logger.Info "started"), .writer 0 1700000000123, .writer 0 1700000000123,
    .writer 0 1700000000123, .writer 0 1700000000123, .writer 0 1700000000123,
    .logLoop, .logLoop, .logLoop, .logLoop, .logLoop, .logLoop, .logLoop, .logLoop, .logLoop,
    .logLoop, .logLoop, .logLoop, .logLoop, .logLoop, .logLoop, .logLoop,
    .callShutdown, .shutdown, .shutdown, .logLoop, .logLoop, .logLoop, .logLoop, .logLoop,
    .shutdown, .shutdown, .shutdown]

/-- The run that drains its queue hands its one event to the three appenders. -/
theorem drained_event_reaches_appenders :
    ∃ final, (logger fun _ => "2023-11-14 22:13:20").exec (init [] .DEBUG "logs") drainedRun =
        some final ∧
      final.shutdownPc = .returned ∧ final.accepted.length = 1 ∧
      Delivered (initialAppenders [] "logs").length final := by
  have observed : ((logger fun _ => "2023-11-14 22:13:20").exec (init [] .DEBUG "logs")
      drainedRun).map (fun run => (run.shutdownPc, run.accepted.length)) = some (.returned, 1) := by
    decide +kernel
  obtain ⟨final, executed, seen⟩ := Option.map_eq_some_iff.mp observed
  obtain ⟨returned, accepted⟩ := Prod.ext_iff.mp seen
  refine ⟨final, executed, returned, accepted, ?_⟩
  apply (events_reach_appenders_iff _ [] .DEBUG "logs" drainedRun final executed returned).mpr
  decide +kernel

/-- One event is written, and `Shutdown` clears the flag before the log thread's first test. -/
def lostRun : List LoggerEvent :=
  [.write 0 (Logger.Info "started"), .writer 0 1700000000123, .writer 0 1700000000123,
    .writer 0 1700000000123, .writer 0 1700000000123, .writer 0 1700000000123,
    .callShutdown, .shutdown, .logLoop, .shutdown, .shutdown, .shutdown, .shutdown]

/-- The logger does lose an event that was pushed before `Shutdown` was called. -/
theorem shutdown_discards_accepted_event :
    ¬ ∀ (putTime : Int → String) (added : List Appender) (minLevel : LogLevel)
      (logBasePath : String) (events : List LoggerEvent) (final : LoggerRun),
      (logger putTime).exec (init added minLevel logBasePath) events = some final →
      final.shutdownPc = .returned →
      Delivered (initialAppenders added logBasePath).length final := by
  intro delivered
  have observed : ((logger fun _ => "2023-11-14 22:13:20").exec (init [] .DEBUG "logs")
      lostRun).map (fun run => (run.shutdownPc, run.accepted.length, run.received 0)) =
      some (.returned, 1, []) := by
    decide +kernel
  obtain ⟨final, executed, seen⟩ := Option.map_eq_some_iff.mp observed
  simp only [Prod.mk.injEq] at seen
  obtain ⟨returned, accepted, received⟩ := seen
  obtain ⟨handled, _, all⟩ :=
    delivered _ [] .DEBUG "logs" lostRun final executed returned 0 (by decide)
  have lengths := congrArg List.length (received.symm.trans all)
  rw [List.length_append, accepted, List.length_nil] at lengths
  omega

end LoggerRun

end TurboCore.Base
