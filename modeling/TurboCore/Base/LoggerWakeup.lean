import Mathlib
import TurboCore.Foundation.Progress
import TurboCore.Base.LoggerShutdown

/-!
# Whether `Shutdown` comes back

`Shutdown` clears `m_is_running` and notifies without holding `m_queue_mtx`. The log thread
that has found the predicate of its wait false, and has not gone to sleep yet, misses both;
`join` then waits for a thread that only a writer can wake, and writers that see the cleared
flag no longer notify. This is the only way in which `Shutdown` can hang.
-/

namespace TurboCore.Base

open Foundation

namespace LoggerRun

/-- The writing thread is past both of its tests: it will push its event and notify. -/
def WillNotify (run : LoggerRun) (writer : WriterId) : Prop :=
  match run.writerPc writer with
  | .levelTest call => run.minLevel.value ≤ call.level.value
  | .lockQueue _ | .push _ | .notify => True
  | .outside | .runningTest _ => False

/-- The log thread sleeps, or is about to. -/
def isAsleep (run : LoggerRun) : Bool :=
  match run.logLoopPc with
  | .park | .waiting => true
  | _ => false

/-- `Shutdown` has notified and waits in `join`, the log thread sleeps or is about to, and no
writer is on its way to a notification. -/
structure Abandoned (run : LoggerRun) : Prop where
  joining : run.shutdownPc = .join
  asleep : run.isAsleep = true
  silent : ∀ writer, ¬ run.WillNotify writer

/-- The mutex is held by a thread whose place in the code says so, and the flag is down once
`Shutdown` has stored it. -/
structure Holders (run : LoggerRun) : Prop where
  writer : ∀ writer, run.queueMutex = some (.writer writer) →
    ∃ event, run.writerPc writer = .push event
  logLoop : run.queueMutex = some .logLoop → run.logLoopPc.holdsMutex = true
  shutdown : run.queueMutex = some .shutdown → run.shutdownPc = .discard
  stopping : run.shutdownPc ≠ .notCalled → run.shutdownPc ≠ .store → run.isRunning = false

namespace Holders

variable {run next : LoggerRun}

theorem init (added : List Appender) (minLevel : LogLevel) (logBasePath : String) :
    Holders (init added minLevel logBasePath) where
  writer _ held := by cases held
  logLoop held := by cases held
  shutdown held := by cases held
  stopping called := absurd rfl called

theorem notifyOne (holders : Holders run) : Holders run.notifyOne where
  writer := holders.writer
  logLoop held := by
    have holds := holders.logLoop held
    simp only [LoggerRun.notifyOne]
    split
    · next waiting =>
        rw [waiting] at holds
        cases holds
    · exact holds
  shutdown := holders.shutdown
  stopping := holders.stopping

/-- A writing thread that does not hold the mutex moves on without it. -/
theorem setWriter (holders : Holders run) (writer : WriterId) {pc : WriterPc}
    (quiet : ∀ event, run.writerPc writer ≠ .push event) : Holders (run.setWriter writer pc) where
  writer other held := by
    obtain ⟨event, position⟩ := holders.writer other held
    have different : other ≠ writer := by
      rintro rfl
      exact quiet event position
    exact ⟨event, (if_neg different).trans position⟩
  logLoop := holders.logLoop
  shutdown := holders.shutdown
  stopping := holders.stopping

theorem writerStep (holders : Holders run) {writer : WriterId}
    (step : WriterStep run writer next) : Holders next := by
  cases step with
  | move pc before _ =>
      refine holders.setWriter writer fun event position => ?_
      rw [position] at before
      cases before
  | lock event position free =>
      refine ⟨?_, by simp, by simp, holders.stopping⟩
      intro other held
      cases held
      exact ⟨event, if_pos rfl⟩
  | push event position => exact ⟨by simp, by simp, by simp, holders.stopping⟩
  | notify position =>
      exact holders.notifyOne.setWriter writer fun event held => by
        have here : run.writerPc writer = .push event := held
        rw [position] at here
        cases here

/-- The log thread goes on, and holds the mutex afterwards if it did before. -/
theorem loopTo (holders : Holders run) {pc : LogLoopPc}
    (keeps : run.logLoopPc.holdsMutex = true → pc.holdsMutex = true) :
    Holders { run with logLoopPc := pc } where
  writer := holders.writer
  logLoop held := keeps (holders.logLoop held)
  shutdown := holders.shutdown
  stopping := holders.stopping

theorem logLoopStep (holders : Holders run) (step : LogLoopStep run next) : Holders next := by
  cases step with
  | enterLoop position _ | leaveLoop position _ | handed _ _ position _ =>
      exact holders.loopTo fun holds => by rw [position] at holds; cases holds
  | ready | idle | drained | flushed => exact holders.loopTo fun _ => rfl
  | lock | relock => exact ⟨by simp, fun _ => rfl, by simp, holders.stopping⟩
  | sleep | take | leave | again => exact ⟨by simp, by simp, by simp, holders.stopping⟩
  | hand event next position _ =>
      refine ⟨holders.writer, fun held => ?_, holders.shutdown, holders.stopping⟩
      have holds := holders.logLoop held
      rw [position] at holds
      cases holds

theorem shutdownStep (holders : Holders run) (step : ShutdownStep run next) : Holders next := by
  have unheld : run.shutdownPc ≠ .discard → run.queueMutex ≠ some .shutdown :=
    fun outside held => outside (holders.shutdown held)
  cases step with
  | call position =>
      exact ⟨holders.writer, holders.logLoop, fun held => absurd held (unheld (by simp [position])),
        by simp⟩
  | store position =>
      exact ⟨holders.writer, holders.logLoop, fun held => absurd held (unheld (by simp [position])),
        fun _ _ => rfl⟩
  | notify position =>
      exact ⟨holders.writer, holders.notifyOne.logLoop,
        fun held => absurd held (unheld (by simp [position])),
        fun _ _ => holders.stopping (by simp [position]) (by simp [position])⟩
  | join position =>
      exact ⟨holders.writer, holders.logLoop, fun held => absurd held (unheld (by simp [position])),
        fun _ _ => holders.stopping (by simp [position]) (by simp [position])⟩
  | lock position =>
      exact ⟨by simp, by simp, fun _ => rfl,
        fun _ _ => holders.stopping (by simp [position]) (by simp [position])⟩
  | discard position =>
      exact ⟨by simp, by simp, by simp,
        fun _ _ => holders.stopping (by simp [position]) (by simp [position])⟩

theorem step {event : LoggerEvent} (holders : Holders run)
    (step : LoggerStep run event next) : Holders next := by
  cases step with
  | writer _ _ _ _ step => exact holders.writerStep step
  | logLoop _ step => exact holders.logLoopStep step
  | spurious waiting => exact holders.loopTo fun holds => by rw [waiting] at holds; cases holds
  | shutdown _ _ _ step => exact holders.shutdownStep step

end Holders

/-- A step of a writer that will not notify leads outside and changes nothing else. -/
theorem writerStep_of_silent {putTime : Int → String} {run next : LoggerRun} {writer : WriterId}
    {now : Int} (stopped : run.isRunning = false) (silent : ¬ run.WillNotify writer)
    (transition : run.writerStep putTime writer now = some next) :
    next = run.setWriter writer .outside := by
  unfold WillNotify at silent
  unfold LoggerRun.writerStep at transition
  cases position : run.writerPc writer with
  | outside => simp [position] at transition
  | runningTest call =>
      simp only [position, stopped, Bool.false_eq_true, if_false, Option.some.injEq] at transition
      exact transition.symm
  | levelTest call =>
      simp only [position] at silent transition
      rw [if_neg silent, Option.some.injEq] at transition
      exact transition.symm
  | lockQueue | push | notify => simp [position] at silent

section Progress

variable {putTime : Int → String} {slots : Nat} {run next : LoggerRun}

/-- Once the log thread is abandoned, only a spurious wake-up changes that. -/
theorem Abandoned.step {event : LoggerEvent} (holders : Holders run) (abandoned : Abandoned run)
    (notified : event ≠ .spurious) (transition : (logger putTime).step run event = some next) :
    Abandoned next := by
  have stopped : run.isRunning = false :=
    holders.stopping (by simp [abandoned.joining]) (by simp [abandoned.joining])
  have outside (writer : WriterId) (pc : WriterPc)
      (silent : ∀ run : LoggerRun, ¬ (run.setWriter writer pc).WillNotify writer) :
      Abandoned (run.setWriter writer pc) := by
    refine ⟨abandoned.joining, abandoned.asleep, fun other => ?_⟩
    by_cases same : other = writer
    · exact same ▸ silent run
    · have unchanged : (run.setWriter writer pc).writerPc other = run.writerPc other := if_neg same
      rw [WillNotify, unchanged]
      exact abandoned.silent other
  cases event with
  | spurious => exact absurd rfl notified
  | write writer call =>
      simp only [logger, LoggerRun.step, Option.ite_none_right_eq_some, Option.some.injEq]
        at transition
      obtain ⟨_, rfl⟩ := transition
      exact outside writer _ fun run => by simp [WillNotify, LoggerRun.setWriter]
  | writer writer now =>
      rw [writerStep_of_silent stopped (abandoned.silent writer) transition]
      exact outside writer _ fun run => by simp [WillNotify, LoggerRun.setWriter]
  | logLoop =>
      have asleep := abandoned.asleep
      simp only [isAsleep] at asleep
      simp only [logger, LoggerRun.step, LoggerRun.logLoopStep] at transition
      split at asleep
      · next position =>
          simp only [position, Option.some.injEq] at transition
          subst transition
          exact ⟨abandoned.joining, rfl, abandoned.silent⟩
      · next position => simp [position] at transition
      · cases asleep
  | callShutdown =>
      simp [logger, LoggerRun.step, abandoned.joining] at transition
  | shutdown =>
      have awake : run.logLoopPc ≠ .exited := by
        intro exited
        have asleep := abandoned.asleep
        simp [isAsleep, exited] at asleep
      simp [logger, LoggerRun.step, LoggerRun.shutdownStep, abandoned.joining, awake] at transition

/-- Both invariants go with every step. -/
theorem sound_step {event : LoggerEvent} (sound : Ledger slots run ∧ Holders run)
    (transition : (logger putTime).step run event = some next) :
    Ledger slots next ∧ Holders next :=
  ⟨sound.1.step (step_cases transition), sound.2.step (step_cases transition)⟩

/-- The writer that holds the mutex can push its event and give the mutex back. -/
theorem Holders.release (holders : Holders run) {writer : WriterId}
    (held : run.queueMutex = some (.writer writer)) :
    ∃ event, (logger putTime).step run (.writer writer 0) =
      some { (run.pushEvent event).setWriter writer .notify with queueMutex := none } := by
  obtain ⟨event, position⟩ := holders.writer writer held
  exact ⟨event, by simp [logger, LoggerRun.step, LoggerRun.writerStep, position]⟩

/-- The steps of a writer up to its notification. -/
def writerRank : WriterPc → Nat
  | .levelTest _ => 4
  | .lockQueue _ => 3
  | .push _ => 2
  | .notify => 1
  | .outside | .runningTest _ => 0

/-- The step of the log thread into its sleep, those of the writer before it notifies, and that
of another writer that holds the mutex. -/
def wakeMeasure (writer : WriterId) (run : LoggerRun) : ℕ ×ₗ ℕ ×ₗ ℕ :=
  toLex (if run.logLoopPc = .park then 1 else 0,
    toLex (writerRank (run.writerPc writer), if run.queueMutex = none then 0 else 1))

/-- Something other than a spurious wake-up brings the writer nearer to its notification of a
log thread that sleeps. -/
def WakesSooner (putTime : Int → String) (writer : WriterId) (run : LoggerRun) : Prop :=
  ∃ event next, event ≠ .spurious ∧ (logger putTime).step run event = some next ∧
    next.shutdownPc = .join ∧ (next.isAsleep = true → next.WillNotify writer) ∧
    next.wakeMeasure writer < run.wakeMeasure writer

namespace WakesSooner

variable {writer : WriterId}

/-- The log thread goes to sleep before it is notified. -/
theorem sleep (joining : run.shutdownPc = .join) (willNotify : run.WillNotify writer)
    (parked : run.logLoopPc = .park) : WakesSooner putTime writer run := by
  refine ⟨.logLoop, { run with logLoopPc := .waiting, queueMutex := none }, by simp, ?_, joining,
    fun _ => willNotify, ?_⟩
  · simp [logger, LoggerRun.step, LoggerRun.logLoopStep, parked]
  · simp [wakeMeasure, Prod.Lex.toLex_lt_toLex, parked]

/-- The writer takes the mutex, or the writer that has it gives it back. -/
theorem lockQueue (holders : Holders run) (joining : run.shutdownPc = .join)
    (waiting : run.logLoopPc = .waiting) {event : LogEvent}
    (position : run.writerPc writer = .lockQueue event) : WakesSooner putTime writer run := by
  cases held : run.queueMutex with
  | none =>
      refine ⟨.writer writer 0,
        { run.setWriter writer (.push event) with queueMutex := some (.writer writer) },
        by simp, ?_, joining, fun _ => ?_, ?_⟩
      · simp [logger, LoggerRun.step, LoggerRun.writerStep, position, held]
      · simp [WillNotify, LoggerRun.setWriter]
      · simp [wakeMeasure, writerRank, Prod.Lex.toLex_lt_toLex, LoggerRun.setWriter, position,
          waiting]
  | some holder =>
      cases holder with
      | logLoop =>
          have holds := holders.logLoop held
          rw [waiting] at holds
          cases holds
      | shutdown =>
          have discarding := holders.shutdown held
          rw [joining] at discarding
          cases discarding
      | writer other =>
          obtain ⟨pushed, transition⟩ := @Holders.release putTime run holders other held
          have different : writer ≠ other := by
            rintro rfl
            obtain ⟨_, pushing⟩ := holders.writer writer held
            simp [position] at pushing
          refine ⟨_, _, by simp, transition, joining, fun _ => ?_, ?_⟩
          · simp [WillNotify, LoggerRun.setWriter, pushEvent, different, position]
          · simp [wakeMeasure, Prod.Lex.toLex_lt_toLex, LoggerRun.setWriter, pushEvent,
              different, held]

end WakesSooner

/-- A writer that will notify can bring the log thread out of its sleep. -/
theorem wakes (writer : WriterId) :
    (logger putTime).Advances (· ≠ .spurious)
      (fun run => (Ledger slots run ∧ Holders run) ∧ run.shutdownPc = .join ∧
        (run.isAsleep = true → run.WillNotify writer))
      (fun run => run.isAsleep = false) (wakeMeasure writer) := by
  rintro run ⟨sound, joining, notifies⟩ sleeps
  have asleep : run.isAsleep = true := Bool.eq_true_of_not_eq_false sleeps
  have willNotify := notifies asleep
  suffices WakesSooner putTime writer run by
    obtain ⟨event, next, notified, transition, joins, still, lower⟩ := this
    exact ⟨event, next, notified, transition, ⟨sound_step sound transition, joins, still⟩, lower⟩
  by_cases parked : run.logLoopPc = .park
  · exact .sleep joining willNotify parked
  have waiting : run.logLoopPc = .waiting := by
    simp only [isAsleep] at asleep
    split at asleep
    · next here => exact absurd here parked
    · next here => exact here
    · cases asleep
  cases position : run.writerPc writer with
  | outside | runningTest => simp [WillNotify, position] at willNotify
  | levelTest call =>
      have passes : run.minLevel.value ≤ call.level.value := by
        simpa [WillNotify, position] using willNotify
      refine ⟨.writer writer 0,
        run.setWriter writer (.lockQueue (Logger.BuildLogMeta putTime 0 call)), by simp, ?_,
        joining, fun _ => ?_, ?_⟩
      · simp [logger, LoggerRun.step, LoggerRun.writerStep, position, passes]
      · simp [WillNotify, LoggerRun.setWriter]
      · simp [wakeMeasure, writerRank, Prod.Lex.toLex_lt_toLex, LoggerRun.setWriter, position,
          waiting]
  | lockQueue event => exact .lockQueue sound.2 joining waiting position
  | push event =>
      refine ⟨.writer writer 0,
        { (run.pushEvent event).setWriter writer .notify with queueMutex := none }, by simp, ?_,
        joining, fun _ => ?_, ?_⟩
      · simp [logger, LoggerRun.step, LoggerRun.writerStep, position]
      · simp [WillNotify, LoggerRun.setWriter]
      · simp [wakeMeasure, writerRank, Prod.Lex.toLex_lt_toLex, LoggerRun.setWriter, pushEvent,
          position, waiting]
  | notify =>
      refine ⟨.writer writer 0, run.notifyOne.setWriter writer .outside, by simp, ?_, joining,
        fun still => ?_, ?_⟩
      · simp [logger, LoggerRun.step, LoggerRun.writerStep, position]
      · simp [isAsleep, LoggerRun.setWriter, LoggerRun.notifyOne, waiting] at still
      · simp [wakeMeasure, writerRank, Prod.Lex.toLex_lt_toLex, LoggerRun.setWriter,
          LoggerRun.notifyOne, position, waiting]

/-- The steps of `Shutdown` until it returns. -/
def shutdownRank : ShutdownPc → Nat
  | .notCalled => 6
  | .store => 5
  | .notify => 4
  | .join => 3
  | .lockQueue => 2
  | .discard => 1
  | .returned => 0

/-- The steps of the log thread until it has found the flag down or the queue non-empty, with
this many appenders to serve. -/
def logLoopRank (appenders : Nat) : LogLoopPc → Nat
  | .exited | .waiting => 0
  | .park | .whileTest | .breakTest => 1
  | .flush => 2
  | .drainTest => 3
  | .waitTest | .relock => 4
  | .lockQueue | .woken => 5
  | .append _ next => 5 + (appenders - next)

/-- The work of the log thread: first the events in the queue. -/
def loopMeasure (run : LoggerRun) : ℕ ×ₗ ℕ :=
  toLex (run.logQueue.length, logLoopRank run.appenders.length run.logLoopPc)

/-- With the flag down and the mutex not in its way, the log thread makes for its exit. -/
theorem logLoop_advances (holders : Holders run) (stopped : run.isRunning = false)
    (awake : run.isAsleep = false) (active : run.logLoopPc ≠ .exited)
    (free : run.queueMutex = none ∨ run.queueMutex = some .logLoop) :
    ∃ next, (logger putTime).step run .logLoop = some next ∧
      next.shutdownPc = run.shutdownPc ∧ next.isAsleep = false ∧
      (next.queueMutex = none ∨ next.queueMutex = some .logLoop) ∧
      next.loopMeasure < run.loopMeasure := by
  have unheld : run.logLoopPc.holdsMutex = false → run.queueMutex = none := by
    intro released
    rcases free with free | held
    · exact free
    · rw [holders.logLoop held] at released
      cases released
  simp only [logger, LoggerRun.step, LoggerRun.logLoopStep]
  cases position : run.logLoopPc with
  | exited => exact absurd position active
  | park | waiting => simp [isAsleep, position] at awake
  | whileTest =>
      refine ⟨{ run with logLoopPc := .exited }, by simp [stopped], rfl, rfl, free, ?_⟩
      simp [loopMeasure, logLoopRank, Prod.Lex.toLex_lt_toLex, position]
  | lockQueue | woken =>
      refine ⟨{ run with logLoopPc := .waitTest, queueMutex := some .logLoop }, ?_, rfl, rfl,
        .inr rfl, ?_⟩
      · simp [unheld (by rw [position]; rfl)]
      · simp [loopMeasure, logLoopRank, Prod.Lex.toLex_lt_toLex, position]
  | waitTest =>
      refine ⟨{ run with logLoopPc := .drainTest }, by simp [stopped], rfl, rfl, free, ?_⟩
      simp [loopMeasure, logLoopRank, Prod.Lex.toLex_lt_toLex, position]
  | drainTest =>
      cases queued : run.logQueue with
      | nil =>
          refine ⟨{ run with logLoopPc := .flush }, by simp [queued], rfl, rfl, free, ?_⟩
          simp [loopMeasure, logLoopRank, Prod.Lex.toLex_lt_toLex, position]
      | cons event rest =>
          refine ⟨_, rfl, rfl, rfl, .inl rfl, ?_⟩
          simp [loopMeasure, Prod.Lex.toLex_lt_toLex, queued]
  | append event next =>
      by_cases inside : next < run.appenders.length
      · refine ⟨{ run.handTo next event with logLoopPc := .append event (next + 1) },
          by simp [inside], rfl, rfl, free, Prod.Lex.right _ ?_⟩
        simp only [logLoopRank, position, handTo]
        omega
      · refine ⟨{ run with logLoopPc := .relock }, by simp [inside], rfl, rfl, free,
          Prod.Lex.right _ ?_⟩
        simp only [logLoopRank, position]
        omega
  | relock =>
      refine ⟨{ run with logLoopPc := .drainTest, queueMutex := some .logLoop }, ?_, rfl, rfl,
        .inr rfl, ?_⟩
      · simp [unheld (by rw [position]; rfl)]
      · simp [loopMeasure, logLoopRank, Prod.Lex.toLex_lt_toLex, position]
  | flush =>
      refine ⟨{ run with logLoopPc := .breakTest }, by simp, rfl, rfl, free, ?_⟩
      simp [loopMeasure, logLoopRank, Prod.Lex.toLex_lt_toLex, position]
  | breakTest =>
      refine ⟨{ run with logLoopPc := .exited, queueMutex := none }, by simp [stopped], rfl, rfl,
        .inl rfl, ?_⟩
      simp [loopMeasure, logLoopRank, Prod.Lex.toLex_lt_toLex, position]

/-- First `Shutdown`, then a writer that holds the mutex, then the log thread. -/
def returnMeasure (run : LoggerRun) : ℕ ×ₗ ℕ ×ₗ ℕ ×ₗ ℕ :=
  toLex (shutdownRank run.shutdownPc,
    toLex (if run.queueMutex = none ∨ run.queueMutex = some .logLoop then 0 else 1,
      run.loopMeasure))

/-- `Shutdown` is under way and has not notified in vain. -/
def Heard (run : LoggerRun) : Prop :=
  run.shutdownPc ≠ .notCalled ∧ (run.shutdownPc = .join → run.isAsleep = false)

theorem isAsleep_notifyOne (unparked : run.logLoopPc ≠ .park) :
    run.notifyOne.isAsleep = false := by
  simp only [isAsleep, LoggerRun.notifyOne]
  split_ifs with waiting
  · rfl
  · split
    · next parked => exact absurd parked unparked
    · next here => exact absurd here waiting
    · rfl

/-- Something other than a spurious wake-up brings `Shutdown` nearer to its return. -/
def ReturnsSooner (putTime : Int → String) (run : LoggerRun) : Prop :=
  ∃ event next, event ≠ .spurious ∧ (logger putTime).step run event = some next ∧
    next.Heard ∧ next.returnMeasure < run.returnMeasure

namespace ReturnsSooner

/-- `Shutdown` itself goes on. -/
theorem shutdown (transition : run.shutdownStep = some next) (heard : next.Heard)
    (lower : shutdownRank next.shutdownPc < shutdownRank run.shutdownPc) :
    ReturnsSooner putTime run :=
  ⟨.shutdown, next, by simp, transition, heard, Prod.Lex.left _ _ lower⟩

/-- The log thread goes to sleep before it is notified. -/
theorem sleep (ledger : Ledger slots run) (heard : run.Heard) (parked : run.logLoopPc = .park)
    (early : run.shutdownPc ≠ .join) : ReturnsSooner putTime run := by
  have held := ledger.loopHolds (by rw [parked]; rfl)
  refine ⟨.logLoop, { run with logLoopPc := .waiting, queueMutex := none }, by simp, ?_,
    ⟨heard.1, fun joining => absurd joining early⟩, ?_⟩
  · simp [logger, LoggerRun.step, LoggerRun.logLoopStep, parked]
  · simp [returnMeasure, loopMeasure, logLoopRank, Prod.Lex.toLex_lt_toLex, held, parked]

/-- A writer that holds the mutex gives it back. -/
theorem release (holders : Holders run) (heard : run.Heard) {writer : WriterId}
    (held : run.queueMutex = some (.writer writer)) : ReturnsSooner putTime run := by
  obtain ⟨pushed, transition⟩ := @Holders.release putTime run holders writer held
  refine ⟨_, _, by simp, transition, heard, Prod.Lex.right _ (Prod.Lex.left _ _ ?_)⟩
  simp [held]

/-- The log thread, awake, makes for its exit. -/
theorem logLoop (holders : Holders run) (heard : run.Heard) (joining : run.shutdownPc = .join)
    (active : run.logLoopPc ≠ .exited)
    (free : run.queueMutex = none ∨ run.queueMutex = some .logLoop) :
    ReturnsSooner putTime run := by
  have stopped := holders.stopping heard.1 (by simp [joining])
  obtain ⟨next, transition, same, awake, freeThen, lower⟩ :=
    @logLoop_advances putTime run holders stopped (heard.2 joining) active free
  refine ⟨.logLoop, next, by simp, transition, ⟨same ▸ heard.1, fun _ => awake⟩, ?_⟩
  rw [returnMeasure, returnMeasure, same, if_pos free, if_pos freeThen]
  exact Prod.Lex.right _ (Prod.Lex.right _ lower)

/-- In `join` it is the log thread that moves, or the writer in its way. -/
theorem join (holders : Holders run) (heard : run.Heard) (joining : run.shutdownPc = .join) :
    ReturnsSooner putTime run := by
  by_cases exited : run.logLoopPc = .exited
  · have transition : run.shutdownStep = some { run with shutdownPc := .lockQueue } := by
      simp [LoggerRun.shutdownStep, joining, exited]
    exact shutdown transition ⟨by simp, by simp⟩ (by simp [shutdownRank, joining])
  cases held : run.queueMutex with
  | none => exact logLoop holders heard joining exited (.inl held)
  | some holder =>
      cases holder with
      | logLoop => exact logLoop holders heard joining exited (.inr held)
      | writer writer => exact release holders heard held
      | shutdown =>
          have discarding := holders.shutdown held
          rw [joining] at discarding
          cases discarding

/-- After `join` only a writer can hold the mutex that `Shutdown` takes. -/
theorem lockQueue (ledger : Ledger slots run) (holders : Holders run) (heard : run.Heard)
    (locking : run.shutdownPc = .lockQueue) : ReturnsSooner putTime run := by
  have exited := ledger.joined (by rw [locking]; rfl)
  cases held : run.queueMutex with
  | none =>
      have transition : run.shutdownStep =
          some { run with shutdownPc := .discard, queueMutex := some .shutdown } := by
        simp [LoggerRun.shutdownStep, locking, held]
      exact shutdown transition ⟨by simp, by simp⟩ (by simp [shutdownRank, locking])
  | some holder =>
      cases holder with
      | writer writer => exact release holders heard held
      | logLoop =>
          have holds := holders.logLoop held
          rw [exited] at holds
          cases holds
      | shutdown =>
          have discarding := holders.shutdown held
          rw [locking] at discarding
          cases discarding

end ReturnsSooner

/-- Unless it has notified in vain, `Shutdown` can return. -/
theorem returns :
    (logger putTime).Advances (· ≠ .spurious)
      (fun run => (Ledger slots run ∧ Holders run) ∧ run.Heard)
      (fun run => run.shutdownPc = .returned) returnMeasure := by
  rintro run ⟨sound, heard⟩ unreturned
  suffices ReturnsSooner putTime run by
    obtain ⟨event, next, notified, transition, still, lower⟩ := this
    exact ⟨event, next, notified, transition, ⟨sound_step sound transition, still⟩, lower⟩
  cases position : run.shutdownPc with
  | notCalled => exact absurd position heard.1
  | returned => exact absurd position unreturned
  | store =>
      by_cases parked : run.logLoopPc = .park
      · exact .sleep sound.1 heard parked (by simp [position])
      · have transition : run.shutdownStep =
            some { run with shutdownPc := .notify, isRunning := false } := by
          simp [LoggerRun.shutdownStep, position]
        exact .shutdown transition ⟨by simp, by simp⟩ (by simp [shutdownRank, position])
  | notify =>
      by_cases parked : run.logLoopPc = .park
      · exact .sleep sound.1 heard parked (by simp [position])
      · have transition : run.shutdownStep = some { run.notifyOne with shutdownPc := .join } := by
          simp [LoggerRun.shutdownStep, position]
        exact .shutdown transition ⟨by simp, fun _ => isAsleep_notifyOne parked⟩
          (by simp [shutdownRank, position])
  | join => exact .join sound.2 heard position
  | lockQueue => exact .lockQueue sound.1 sound.2 heard position
  | discard =>
      have transition : run.shutdownStep = some { run with
          shutdownPc := .returned
          logQueue := []
          appenders := []
          queueMutex := none } := by
        simp [LoggerRun.shutdownStep, position]
      exact .shutdown transition ⟨by simp, by simp⟩ (by simp [shutdownRank, position])

end Progress

/-- From every state after the call of `Shutdown`, in every schedule of any number of writers:
the call can return without a spurious wake-up if and only if the log thread is not asleep, or
about to be, after the notification with no writer that will notify it. -/
theorem shutdown_can_return_iff (putTime : Int → String) (added : List Appender)
    (minLevel : LogLevel) (logBasePath : String) {events : List LoggerEvent} {run : LoggerRun}
    (executed : (logger putTime).AnyRun (init added minLevel logBasePath) events run)
    (called : run.shutdownPc ≠ .notCalled) :
    (logger putTime).Reaches (· ≠ .spurious) run (fun final => final.shutdownPc = .returned) ↔
      ¬ run.Abandoned := by
  have sound := executed.invariant
    (fun run => Ledger (initialAppenders added logBasePath).length run ∧ Holders run)
    ⟨.init added minLevel logBasePath, .init added minLevel logBasePath⟩
    fun _ _ _ sound _ transition => sound_step sound transition
  constructor
  · intro reaches abandoned
    refine Machine.not_reaches_of_kept
      (fun _ _ _ (holds : Holders _ ∧ Abandoned _) notified transition =>
        ⟨holds.1.step (step_cases transition), holds.2.step holds.1 notified transition⟩)
      (fun _ holds returned => ?_) ⟨sound.2, abandoned⟩ reaches
    rw [holds.2.joining] at returned
    cases returned
  · intro waited
    have onwards {state : LoggerRun}
        (sound : Ledger (initialAppenders added logBasePath).length state ∧ Holders state)
        (heard : state.Heard) : (logger putTime).Reaches (· ≠ .spurious) state
          (fun final => final.shutdownPc = .returned) :=
      (returns.reaches ⟨sound, heard⟩).trans fun _ reached => .refl reached.2
    by_cases heard : run.Heard
    · exact onwards sound heard
    · obtain ⟨joining, asleep⟩ : run.shutdownPc = .join ∧ run.isAsleep = true := by
        simpa [Heard, called] using heard
      obtain ⟨writer, notifies⟩ : ∃ writer, run.WillNotify writer := by
        by_contra silent
        exact waited ⟨joining, asleep, not_exists.mp silent⟩
      refine ((wakes writer).reaches ⟨sound, joining, fun _ => notifies⟩).trans ?_
      rintro woken ⟨⟨soundThen, joiningThen, _⟩, awake⟩
      exact onwards soundThen ⟨by simp [joiningThen], fun _ => awake⟩

/-- The log thread finds the predicate false, and `Shutdown` stores and notifies before it has
gone to sleep. -/
def unheardRun : List LoggerEvent :=
  [.logLoop, .logLoop, .logLoop, .callShutdown, .shutdown, .shutdown]

/-- `Shutdown` can hang. -/
theorem unheard_shutdown_hangs : ∃ run,
    (logger fun _ => "2023-11-14 22:13:20").exec (init [] .DEBUG "logs") unheardRun = some run ∧
      ¬ (logger fun _ => "2023-11-14 22:13:20").Reaches (· ≠ .spurious) run
        (fun final => final.shutdownPc = .returned) := by
  refine ⟨_, rfl, fun reaches => ?_⟩
  exact (@shutdown_can_return_iff _ [] .DEBUG "logs" unheardRun _ (Machine.run_of_exec rfl)
    (by decide)).mp reaches ⟨rfl, rfl, fun _ => id⟩

end LoggerRun

end TurboCore.Base
