import Mathlib
import TurboCore.Foundation.Execution

/-!
# The asynchronous logger

`Logger` after `Init`, under an arbitrary schedule of any number of writing threads, the
thread in `LogLoop` and one call of `Shutdown`. As for the thread pool, each step is one
atomic access of the source, and code that holds `m_queue_mtx` and touches nothing that
others read is one step. What an appender does with an event it is handed is its own
business: the model records the calls of `Append`.
-/

namespace TurboCore.Base

open Foundation

inductive LogLevel where
  | DEBUG
  | INFO
  | WARN
  | ERROR
  | FATAL
deriving DecidableEq

/-- The enumerator's value. -/
def LogLevel.value : LogLevel → Nat
  | DEBUG => 0
  | INFO => 1
  | WARN => 2
  | ERROR => 3
  | FATAL => 4

structure LogEvent where
  level : LogLevel
  content : String
  timeStr : String
  timestamp : Int
deriving DecidableEq

/-- A call of one of the five writing functions. -/
structure LogCall where
  level : LogLevel
  content : String
deriving DecidableEq

namespace Logger

def Debug (content : String) : LogCall := ⟨.DEBUG, content⟩

def Info (content : String) : LogCall := ⟨.INFO, content⟩

def Warn (content : String) : LogCall := ⟨.WARN, content⟩

def Error (content : String) : LogCall := ⟨.ERROR, content⟩

def Fatal (content : String) : LogCall := ⟨.FATAL, content⟩

/-- `std::setw(3) << std::setfill('0')` on a number. -/
def padMillis (millis : Int) : String :=
  String.ofList ((toString millis).toList.leftpad 3 '0')

/-- `BuildLogMeta` at the time `now`, in milliseconds since the epoch; `putTime` stands
for `localtime_r` and `std::put_time` on whole seconds. -/
def BuildLogMeta (putTime : Int → String) (now : Int) (call : LogCall) : LogEvent where
  level := call.level
  content := call.content
  timeStr := putTime (now.tdiv 1000) ++ "." ++ padMillis (now.tmod 1000)
  timestamp := now

end Logger

/-- An object behind one of the `m_appenders`. -/
inductive Appender where
  | console
  | file (basePath : String)
  | errorFile (basePath : String)
  /-- an object of the user's own, added before `Init` -/
  | added (object : Nat)
deriving DecidableEq

abbrev WriterId := Nat

/-- Where a thread stands in `Debug`, `Info`, `Warn`, `Error` or `Fatal`. -/
inductive WriterPc where
  | outside
  /-- `if (!m_is_running.load()) return` -/
  | runningTest (call : LogCall)
  /-- the level test, and `BuildLogMeta` if it succeeds -/
  | levelTest (call : LogCall)
  | lockQueue (event : LogEvent)
  /-- holding the mutex -/
  | push (event : LogEvent)
  | notify
deriving DecidableEq

/-- The thread holds `m_queue_mtx`. -/
def WriterPc.holdsMutex : WriterPc → Bool
  | push _ => true
  | _ => false

/-- Where the log thread stands in `LogLoop`. -/
inductive LogLoopPc where
  /-- `while (m_is_running.load())` -/
  | whileTest
  | lockQueue
  /-- inside `m_cv.wait`, holding the mutex, before the predicate -/
  | waitTest
  /-- the predicate was false: about to give up the mutex and sleep, in one step -/
  | park
  /-- asleep on `m_cv` -/
  | waiting
  /-- awake again, about to take the mutex back -/
  | woken
  /-- `while (!m_log_queue.empty())`, holding the mutex -/
  | drainTest
  /-- handing the event to the appenders, the `next`-th one first -/
  | append (event : LogEvent) (next : Nat)
  /-- `lock.lock()` at the end of the inner loop -/
  | relock
  /-- the calls of `Flush`, holding the mutex -/
  | flush
  /-- `if (!m_is_running.load()) break`, holding the mutex -/
  | breakTest
  | exited
deriving DecidableEq

namespace LogLoopPc

def holdsMutex : LogLoopPc → Bool
  | waitTest | park | drainTest | flush | breakTest => true
  | _ => false

/-- The thread has found the queue empty and still holds the mutex. -/
def hasDrained : LogLoopPc → Bool
  | flush | breakTest => true
  | _ => false

/-- The event that the appender at this place of the vector is still to be handed. -/
def toAppend (slot : Nat) : LogLoopPc → List LogEvent
  | append event next => if next ≤ slot then [event] else []
  | _ => []

end LogLoopPc

/-- Where the call of `Shutdown` stands. -/
inductive ShutdownPc where
  | notCalled
  /-- `m_is_running = false` -/
  | store
  | notify
  /-- `m_log_thread.join()`, and the calls of `Flush` -/
  | join
  | lockQueue
  /-- popping what is left and clearing the appenders, holding the mutex -/
  | discard
  | returned
deriving DecidableEq

def ShutdownPc.hasJoined : ShutdownPc → Bool
  | lockQueue | discard | returned => true
  | _ => false

inductive LogThread where
  | writer (writer : WriterId)
  | logLoop
  | shutdown
deriving DecidableEq

/-- The logger, the positions of all threads, and what happened to each event. -/
structure LoggerRun where
  minLevel : LogLevel
  appenders : List Appender
  logQueue : List LogEvent
  queueMutex : Option LogThread
  isRunning : Bool
  writerPc : WriterId → WriterPc
  logLoopPc : LogLoopPc
  shutdownPc : ShutdownPc
  /-- events handed to `Append` of the appender at each place of the vector, in order -/
  received : Nat → List LogEvent
  /-- events that `LogLoop` took out of the queue, in order -/
  taken : List LogEvent
  /-- events pushed before `Shutdown` was called, in order -/
  accepted : List LogEvent
  /-- events pushed after that, in order -/
  late : List LogEvent

namespace LoggerRun

/-- The appenders after `Init`, on a logger to which the user had added some. -/
def initialAppenders (added : List Appender) (logBasePath : String) : List Appender :=
  added ++ [.console, .file (logBasePath ++ "/tcframe"),
    .errorFile (logBasePath ++ "/tcframe.error")]

/-- A logger whose `Init` has just started the log thread. -/
def init (added : List Appender) (minLevel : LogLevel) (logBasePath : String) : LoggerRun where
  minLevel := minLevel
  appenders := initialAppenders added logBasePath
  logQueue := []
  queueMutex := none
  isRunning := true
  writerPc := fun _ => .outside
  logLoopPc := .whileTest
  shutdownPc := .notCalled
  received := fun _ => []
  taken := []
  accepted := []
  late := []

def setWriter (run : LoggerRun) (writer : WriterId) (pc : WriterPc) : LoggerRun :=
  { run with writerPc := fun other => if other = writer then pc else run.writerPc other }

/-- `m_cv.notify_one()`: the log thread is the only one that ever waits. -/
def notifyOne (run : LoggerRun) : LoggerRun :=
  { run with logLoopPc := if run.logLoopPc = .waiting then .woken else run.logLoopPc }

/-- `m_log_queue.push(event)`. -/
def pushEvent (run : LoggerRun) (event : LogEvent) : LoggerRun :=
  { run with
    logQueue := run.logQueue ++ [event]
    accepted := if run.shutdownPc = .notCalled then run.accepted ++ [event] else run.accepted
    late := if run.shutdownPc = .notCalled then run.late else run.late ++ [event] }

/-- `appender->Append(event)` for the appender at this place. -/
def handTo (run : LoggerRun) (slot : Nat) (event : LogEvent) : LoggerRun :=
  { run with
    received := fun other =>
      if other = slot then run.received slot ++ [event] else run.received other }

/-- One step of a writing thread, at the time `now`. -/
def writerStep (putTime : Int → String) (run : LoggerRun) (writer : WriterId) (now : Int) :
    Option LoggerRun :=
  match run.writerPc writer with
  | .outside => none
  | .runningTest call =>
      if run.isRunning then some (run.setWriter writer (.levelTest call))
      else some (run.setWriter writer .outside)
  | .levelTest call =>
      if run.minLevel.value ≤ call.level.value then
        some (run.setWriter writer (.lockQueue (Logger.BuildLogMeta putTime now call)))
      else some (run.setWriter writer .outside)
  | .lockQueue event =>
      if run.queueMutex = none then
        some { run.setWriter writer (.push event) with queueMutex := some (.writer writer) }
      else none
  | .push event =>
      some { (run.pushEvent event).setWriter writer .notify with queueMutex := none }
  | .notify => some (run.notifyOne.setWriter writer .outside)

/-- One step of the log thread in `LogLoop`. -/
def logLoopStep (run : LoggerRun) : Option LoggerRun :=
  match run.logLoopPc with
  | .whileTest =>
      if run.isRunning then some { run with logLoopPc := .lockQueue }
      else some { run with logLoopPc := .exited }
  | .lockQueue | .woken =>
      if run.queueMutex = none then
        some { run with logLoopPc := .waitTest, queueMutex := some .logLoop }
      else none
  | .waitTest =>
      if run.logQueue ≠ [] ∨ run.isRunning = false then
        some { run with logLoopPc := .drainTest }
      else some { run with logLoopPc := .park }
  | .park => some { run with logLoopPc := .waiting, queueMutex := none }
  | .waiting => none
  | .drainTest =>
      match run.logQueue with
      | [] => some { run with logLoopPc := .flush }
      | event :: rest =>
          some { run with
            logLoopPc := .append event 0
            logQueue := rest
            taken := run.taken ++ [event]
            queueMutex := none }
  | .append event next =>
      if next < run.appenders.length then
        some { run.handTo next event with logLoopPc := .append event (next + 1) }
      else some { run with logLoopPc := .relock }
  | .relock =>
      if run.queueMutex = none then
        some { run with logLoopPc := .drainTest, queueMutex := some .logLoop }
      else none
  | .flush => some { run with logLoopPc := .breakTest }
  | .breakTest =>
      if run.isRunning = false then
        some { run with logLoopPc := .exited, queueMutex := none }
      else some { run with logLoopPc := .whileTest, queueMutex := none }
  | .exited => none

/-- One step of `Shutdown`, once it is called. -/
def shutdownStep (run : LoggerRun) : Option LoggerRun :=
  match run.shutdownPc with
  | .notCalled => none
  | .store => some { run with shutdownPc := .notify, isRunning := false }
  | .notify => some { run.notifyOne with shutdownPc := .join }
  | .join =>
      if run.logLoopPc = .exited then some { run with shutdownPc := .lockQueue } else none
  | .lockQueue =>
      if run.queueMutex = none then
        some { run with shutdownPc := .discard, queueMutex := some .shutdown }
      else none
  | .discard =>
      some { run with shutdownPc := .returned, logQueue := [], appenders := [], queueMutex := none }
  | .returned => none

end LoggerRun

/-- The schedule: whose step is next, and the calls from outside. -/
inductive LoggerEvent where
  | write (writer : WriterId) (call : LogCall)
  | writer (writer : WriterId) (now : Int)
  | logLoop
  /-- the log thread wakes up without a notification -/
  | spurious
  | callShutdown
  | shutdown
deriving DecidableEq

/-- One step of the logger. -/
def LoggerRun.step (putTime : Int → String) (run : LoggerRun) : LoggerEvent → Option LoggerRun
  | .write writer call =>
      if run.writerPc writer = .outside then some (run.setWriter writer (.runningTest call))
      else none
  | .writer writer now => run.writerStep putTime writer now
  | .logLoop => run.logLoopStep
  | .spurious =>
      if run.logLoopPc = .waiting then some { run with logLoopPc := .woken } else none
  | .callShutdown =>
      if run.shutdownPc = .notCalled then some { run with shutdownPc := .store } else none
  | .shutdown => run.shutdownStep

def logger (putTime : Int → String) : Machine LoggerRun LoggerEvent :=
  ⟨fun run event => run.step putTime event⟩

namespace LoggerRun

/-- What a writing thread's step can be. -/
inductive WriterStep (run : LoggerRun) (writer : WriterId) : LoggerRun → Prop where
  /-- a step that reads shared data only: a test, or the time -/
  | move (pc : WriterPc) (before : (run.writerPc writer).holdsMutex = false)
      (after : pc.holdsMutex = false) : WriterStep run writer (run.setWriter writer pc)
  | lock (event : LogEvent) (position : run.writerPc writer = .lockQueue event)
      (free : run.queueMutex = none) :
      WriterStep run writer
        { run.setWriter writer (.push event) with queueMutex := some (.writer writer) }
  | push (event : LogEvent) (position : run.writerPc writer = .push event) :
      WriterStep run writer
        { (run.pushEvent event).setWriter writer .notify with queueMutex := none }
  | notify (position : run.writerPc writer = .notify) :
      WriterStep run writer (run.notifyOne.setWriter writer .outside)

theorem writerStep_cases {putTime : Int → String} {run next : LoggerRun} {writer : WriterId}
    {now : Int} (transition : run.writerStep putTime writer now = some next) :
    WriterStep run writer next := by
  unfold writerStep at transition
  split at transition
  case h_1 => cases transition
  case h_2 call position =>
    split at transition <;> cases transition <;> exact .move _ (by rw [position]; rfl) rfl
  case h_3 call position =>
    split at transition <;> cases transition <;> exact .move _ (by rw [position]; rfl) rfl
  case h_4 event position =>
    split at transition
    · next free => cases transition; exact .lock event position free
    · cases transition
  case h_5 event position => cases transition; exact .push event position
  case h_6 position => cases transition; exact .notify position

/-- What a step of the log thread can be. -/
inductive LogLoopStep (run : LoggerRun) : LoggerRun → Prop where
  | enterLoop (position : run.logLoopPc = .whileTest) (running : run.isRunning = true) :
      LogLoopStep run { run with logLoopPc := .lockQueue }
  | leaveLoop (position : run.logLoopPc = .whileTest) (stopped : run.isRunning = false) :
      LogLoopStep run { run with logLoopPc := .exited }
  | lock (position : run.logLoopPc = .lockQueue ∨ run.logLoopPc = .woken)
      (free : run.queueMutex = none) :
      LogLoopStep run { run with logLoopPc := .waitTest, queueMutex := some .logLoop }
  | ready (position : run.logLoopPc = .waitTest) :
      LogLoopStep run { run with logLoopPc := .drainTest }
  | idle (position : run.logLoopPc = .waitTest) : LogLoopStep run { run with logLoopPc := .park }
  | sleep (position : run.logLoopPc = .park) :
      LogLoopStep run { run with logLoopPc := .waiting, queueMutex := none }
  | drained (position : run.logLoopPc = .drainTest) (empty : run.logQueue = []) :
      LogLoopStep run { run with logLoopPc := .flush }
  | take (event : LogEvent) (rest : List LogEvent) (position : run.logLoopPc = .drainTest)
      (queued : run.logQueue = event :: rest) :
      LogLoopStep run
        { run with
          logLoopPc := .append event 0
          logQueue := rest
          taken := run.taken ++ [event]
          queueMutex := none }
  | hand (event : LogEvent) (next : Nat) (position : run.logLoopPc = .append event next)
      (inside : next < run.appenders.length) :
      LogLoopStep run { run.handTo next event with logLoopPc := .append event (next + 1) }
  | handed (event : LogEvent) (next : Nat) (position : run.logLoopPc = .append event next)
      (outside : run.appenders.length ≤ next) :
      LogLoopStep run { run with logLoopPc := .relock }
  | relock (position : run.logLoopPc = .relock) (free : run.queueMutex = none) :
      LogLoopStep run { run with logLoopPc := .drainTest, queueMutex := some .logLoop }
  | flushed (position : run.logLoopPc = .flush) :
      LogLoopStep run { run with logLoopPc := .breakTest }
  | leave (position : run.logLoopPc = .breakTest) (stopped : run.isRunning = false) :
      LogLoopStep run { run with logLoopPc := .exited, queueMutex := none }
  | again (position : run.logLoopPc = .breakTest) (running : run.isRunning = true) :
      LogLoopStep run { run with logLoopPc := .whileTest, queueMutex := none }

theorem logLoopStep_cases {run next : LoggerRun} (transition : run.logLoopStep = some next) :
    LogLoopStep run next := by
  unfold logLoopStep at transition
  split at transition
  case h_1 position =>
    split at transition
    · next running => cases transition; exact .enterLoop position running
    · next stopped =>
        cases transition
        exact .leaveLoop position (Bool.eq_false_of_not_eq_true stopped)
  case h_2 position =>
    split at transition
    · next free => cases transition; exact .lock (.inl position) free
    · cases transition
  case h_3 position =>
    split at transition
    · next free => cases transition; exact .lock (.inr position) free
    · cases transition
  case h_4 position =>
    split at transition
    · cases transition; exact .ready position
    · cases transition; exact .idle position
  case h_5 position => cases transition; exact .sleep position
  case h_6 => cases transition
  case h_7 position =>
    split at transition
    · next empty => cases transition; exact .drained position empty
    · next event rest queued => cases transition; exact .take event rest position queued
  case h_8 event next position =>
    split at transition
    · next inside => cases transition; exact .hand event next position inside
    · next outside =>
        cases transition
        exact .handed event next position (Nat.le_of_not_lt outside)
  case h_9 position =>
    split at transition
    · next free => cases transition; exact .relock position free
    · cases transition
  case h_10 position => cases transition; exact .flushed position
  case h_11 position =>
    split at transition
    · next stopped => cases transition; exact .leave position stopped
    · next running =>
        cases transition
        exact .again position (Bool.eq_true_of_not_eq_false running)
  case h_12 => cases transition

/-- What a step of `Shutdown`, the call included, can be. -/
inductive ShutdownStep (run : LoggerRun) : LoggerRun → Prop where
  | call (position : run.shutdownPc = .notCalled) :
      ShutdownStep run { run with shutdownPc := .store }
  | store (position : run.shutdownPc = .store) :
      ShutdownStep run { run with shutdownPc := .notify, isRunning := false }
  | notify (position : run.shutdownPc = .notify) :
      ShutdownStep run { run.notifyOne with shutdownPc := .join }
  | join (position : run.shutdownPc = .join) (exited : run.logLoopPc = .exited) :
      ShutdownStep run { run with shutdownPc := .lockQueue }
  | lock (position : run.shutdownPc = .lockQueue) (free : run.queueMutex = none) :
      ShutdownStep run { run with shutdownPc := .discard, queueMutex := some .shutdown }
  | discard (position : run.shutdownPc = .discard) :
      ShutdownStep run
        { run with
          shutdownPc := .returned
          logQueue := []
          appenders := []
          queueMutex := none }

theorem shutdownStep_cases {run next : LoggerRun} (transition : run.shutdownStep = some next) :
    ShutdownStep run next := by
  unfold shutdownStep at transition
  split at transition
  case h_1 => cases transition
  case h_2 position => cases transition; exact .store position
  case h_3 position => cases transition; exact .notify position
  case h_4 position =>
    split at transition
    · next exited => cases transition; exact .join position exited
    · cases transition
  case h_5 position =>
    split at transition
    · next free => cases transition; exact .lock position free
    · cases transition
  case h_6 position => cases transition; exact .discard position
  case h_7 => cases transition

/-- What any step can be. -/
inductive LoggerStep (run : LoggerRun) : LoggerEvent → LoggerRun → Prop where
  | writer (event : LoggerEvent) (writer : WriterId) (next : LoggerRun)
      (notLogLoop : event ≠ .logLoop) (step : WriterStep run writer next) :
      LoggerStep run event next
  | logLoop (next : LoggerRun) (step : LogLoopStep run next) : LoggerStep run .logLoop next
  | spurious (waiting : run.logLoopPc = .waiting) :
      LoggerStep run .spurious { run with logLoopPc := .woken }
  | shutdown (event : LoggerEvent) (next : LoggerRun) (notLogLoop : event ≠ .logLoop)
      (step : ShutdownStep run next) : LoggerStep run event next

theorem step_cases {putTime : Int → String} {run next : LoggerRun} {event : LoggerEvent}
    (transition : (logger putTime).step run event = some next) : LoggerStep run event next := by
  cases event with
  | write writer call =>
      simp only [logger, step, Option.ite_none_right_eq_some, Option.some.injEq] at transition
      obtain ⟨position, rfl⟩ := transition
      exact .writer _ writer _ (by simp) (.move _ (by rw [position]; rfl) rfl)
  | writer writer now => exact .writer _ writer _ (by simp) (writerStep_cases transition)
  | logLoop => exact .logLoop _ (logLoopStep_cases transition)
  | spurious =>
      simp only [logger, step, Option.ite_none_right_eq_some, Option.some.injEq] at transition
      obtain ⟨waiting, rfl⟩ := transition
      exact .spurious waiting
  | callShutdown =>
      simp only [logger, step, Option.ite_none_right_eq_some, Option.some.injEq] at transition
      obtain ⟨position, rfl⟩ := transition
      exact .shutdown _ _ (by simp) (.call position)
  | shutdown => exact .shutdown _ _ (by simp) (shutdownStep_cases transition)

end LoggerRun

end TurboCore.Base
