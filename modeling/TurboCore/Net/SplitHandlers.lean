import Mathlib
import TurboCore.Net.LiveTable

/-!
# Handlers in parts

A handler that closes a connection of a sub loop stops between the assignment to `m_state`
and the close callback, and `HandleClose` again before it closes the socket; `Shutdown` and
`ForceClose` stop after their test of `m_state` and after their assignment. What the other
threads do meanwhile is a step of the process, or another such part.
-/

namespace TurboCore.Net

open Foundation TcpServer ServerProcess

/-- The functions of a connection that test `m_state`, assign to it and call `RunInLoop`. -/
inductive Request where
  | shutdown
  | forceClose
deriving DecidableEq

namespace Request

def functor : Request → ConnId → ServerFunctor
  | shutdown, self => .shutdownInLoop self
  | forceClose, self => .forceCloseInLoop self

/-- The test of `m_state`. -/
def passes : Request → ConnectionState → Bool
  | shutdown, state => state = .connected
  | forceClose, state => state = .connected ∨ state = .disconnecting

end Request

/-- Where a thread stands in a function of a connection: before the close callback, before
the `m_socket.Close()` of `HandleClose`, after the test of `m_state`, or after the assignment
to it. -/
inductive Pause where
  | callBack (self : ConnId) (closesSocket : Bool)
  | closeSocket (self : ConnId)
  | tested (request : Request) (self : ConnId)
  | assigned (request : Request) (self : ConnId)
deriving DecidableEq

/-- A connection is closed, and its close callback has still to be called. -/
def Pause.isBeforeCallBack : Pause → Bool
  | callBack _ _ => true
  | closeSocket _ | tested _ _ | assigned _ _ => false

/-- The process, and the threads that stand inside a function. -/
structure SplitProcess where
  process : ServerProcess
  paused : List (ThreadId × Pause)

namespace ServerProcess

variable (process : ServerProcess) (thread : ThreadId) (self : ConnId)

/-! ### Handlers, up to the close callback

There is nothing to stop at where the handler does not call it. -/

def beginHandleClose : Option ServerProcess :=
  if (process.server.conn self).state = .disconnected then none
  else
    some <| (process.assertInLoopThread thread (process.server.loopOf self)).withServer
      (process.server.setAttached self ((process.server.attached self).beginHandleClose self))

def beginHandleRead : ReadResult → Option ServerProcess
  | .endOfFile | .failed =>
      (process.assertInLoopThread thread (process.server.loopOf self)).beginHandleClose thread self
  | .bytes | .wouldBlock => none

def beginHandleWrite (result : WriteResult) : Option ServerProcess :=
  let checked := process.assertInLoopThread thread (process.server.loopOf self)
  let effect := (process.server.attached self).handleWrite self result
  if effect.closes then
    (checked.withServer (process.server.setAttached self effect.after)).beginHandleClose thread self
  else none

/-- After an error or a hang-up nothing but `HandleClose` is called; the read may close, or
else the write. -/
def beginHandleEvent (ready : ReadyChannel) (read : ReadResult) (write : WriteResult) :
    Option ServerProcess :=
  if ready.error ∨ ready.hangUp then process.beginHandleClose thread ready.conn
  else
    let done := if ready.readable then process.handleRead thread ready.conn read else process
    (if ready.readable then process.beginHandleRead thread ready.conn read else none).or
      (if ready.writable then done.beginHandleWrite thread ready.conn write else none)

def beginForceCloseInLoop : Option ServerProcess :=
  if (process.server.conn self).state = .connected ∨
      (process.server.conn self).state = .disconnecting then
    some <| (process.assertInLoopThread thread (process.server.loopOf self)).withServer
      (process.server.setAttached self ((process.server.attached self).beginForceClose self))
  else none

/-- `HandleClose` is its parts one after the other. -/
theorem handleClose_eq_parts :
    process.handleClose thread self =
      (process.beginHandleClose thread self).elim
        (process.assertInLoopThread thread (process.server.loopOf self))
        fun begun => (begun.handleRemoveConnection thread self).closeSocket self := by
  unfold handleClose beginHandleClose
  dsimp only
  split <;> rfl

/-- So is `ForceCloseInLoop`. -/
theorem forceCloseInLoop_eq_parts :
    process.forceCloseInLoop thread self =
      (process.beginForceCloseInLoop thread self).elim
        (process.assertInLoopThread thread (process.server.loopOf self))
        fun begun => begun.handleRemoveConnection thread self := by
  unfold forceCloseInLoop beginForceCloseInLoop
  dsimp only
  split <;> rfl

end ServerProcess

/-- The thread that takes the step; any thread may copy a pointer. -/
def ProcessEvent.thread : ProcessEvent → Option ThreadId
  | .startThread loop | .poll loop _ | .handleEvent loop _ _ | .swapFunctors loop
  | .functor loop | .endBatch loop | .exitLoop loop => some (runner loop)
  | .send thread _ _ | .shutdown thread _ | .forceClose thread _ | .release thread _
  | .destroy thread _ => some thread
  | .constructLoop | .listen | .accept _ | .establish | .beginDestructor | .closeNext _
  | .endClosing | .quitLoop _ | .joinLoop _ | .clear | .destroyAcceptor | .destroyLoop _
  | .finish => some .main
  | .retain _ => none

inductive SplitEvent where
  | whole (event : ProcessEvent)
  | beginEvent (loop : LoopId) (read : ReadResult) (write : WriteResult)
  | beginFunctor (loop : LoopId)
  | beginForceClose (loop : LoopId) (self : ConnId)
  | callBack (thread : ThreadId)
  | closeSocket (thread : ThreadId)
  | test (thread : ThreadId) (request : Request) (self : ConnId)
  | assign (thread : ThreadId)
  | request (thread : ThreadId)

namespace SplitProcess

variable (split : SplitProcess) (thread : ThreadId)

def start (threadNum : Nat) : SplitProcess := ⟨.start threadNum, []⟩

/-- Where the thread stands. -/
def pause : Option Pause := split.paused.lookup thread

def isFree : Bool := (split.pause thread).isNone

/-- The thread goes on to the next stop. -/
def advance (process : ServerProcess) (pause : Pause) : SplitProcess :=
  ⟨process, (thread, pause) :: split.paused.filter fun entry => entry.1 ≠ thread⟩

/-- The thread leaves the function. -/
def leave (process : ServerProcess) : SplitProcess :=
  ⟨process.retire thread, split.paused.filter fun entry => entry.1 ≠ thread⟩

/-- The connection may still be used. -/
def mayUse (self : ConnId) : Bool :=
  split.process.isAlive self ∧
    split.process.phase (split.process.server.loopOf self) ≠ .destroyed

end SplitProcess

open SplitProcess in
/-- The machine. A thread that stands in a function takes no other step before it has left
it; on the main loop no destructor can come between the parts of a handler. -/
def splitProcess : Machine SplitProcess SplitEvent where
  step split
    | .whole event =>
        if ∀ thread, event.thread = some thread → split.isFree thread then
          (serverProcess.step split.process event).map fun next => { split with process := next }
        else none
    | .beginEvent loop read write =>
        match split.process.phase loop with
        | .handling (ready :: active) =>
            if 0 < loop ∧ split.isFree (runner loop) ∧ split.process.mayLoop loop ∧
                split.process.isAlive ready.conn ∧ split.process.canRead ready.conn read ∧
                split.process.server.canAnswer ready.conn write then
              (split.process.beginHandleEvent (runner loop) ready read write).map fun begun =>
                split.advance (runner loop) (begun.setPhase loop (.handling active))
                  (.callBack ready.conn true)
            else none
        | _ => none
    | .beginFunctor loop =>
        match split.process.phase loop, split.process.server.pending loop with
        | .draining (left + 1) executed, .forceCloseInLoop self :: _ =>
            if 0 < loop ∧ split.isFree (runner loop) ∧ split.process.mayLoop loop ∧
                split.process.isAlive self then
              let taken := split.process.withServer (split.process.server.unqueue loop)
              (taken.beginForceCloseInLoop (runner loop) self).map fun begun =>
                split.advance (runner loop)
                  (begun.setPhase loop (.draining left (executed ++ [.forceCloseInLoop self])))
                  (.callBack self false)
            else none
        | _, _ => none
    | .beginForceClose loop self =>
        if 0 < loop ∧ split.isFree (runner loop) ∧ split.process.server.loopOf self = loop ∧
            split.process.mayCallConnection (runner loop) self ∧
            Request.forceClose.passes (split.process.server.conn self).state then
          ((split.process.setDisconnecting self).beginForceCloseInLoop (runner loop) self).map
            fun begun => split.advance (runner loop) begun (.callBack self false)
        else none
    | .callBack thread =>
        match split.pause thread with
        | some (.callBack self closesSocket) =>
            if split.process.isAlive self then
              let told := split.process.handleRemoveConnection thread self
              if closesSocket then some (split.advance thread told (.closeSocket self))
              else some (split.leave thread told)
            else none
        | _ => none
    | .closeSocket thread =>
        match split.pause thread with
        | some (.closeSocket self) =>
            if split.process.isAlive self then
              some (split.leave thread (split.process.closeSocket self))
            else none
        | _ => none
    | .test thread request self =>
        if split.isFree thread ∧ split.process.mayCallConnection thread self ∧
            request.passes (split.process.server.conn self).state then
          some (split.advance thread split.process (.tested request self))
        else none
    | .assign thread =>
        match split.pause thread with
        | some (.tested request self) =>
            if split.mayUse self then
              some (split.advance thread (split.process.setDisconnecting self)
                (.assigned request self))
            else none
        | _ => none
    | .request thread =>
        match split.pause thread with
        | some (.assigned request self) =>
            if split.mayUse self then
              some <| split.leave thread
                (split.process.runInLoop thread (split.process.server.loopOf self)
                  (request.functor self))
            else none
        | _ => none

/-! ### What the parts do -/

namespace ServerProcess

variable {process begun : ServerProcess} {thread : ThreadId} {self : ConnId}

/-- The handler has found its connection open, and has closed it. -/
structure BeginsClose (before after : ServerProcess) (who : ConnId) : Prop where
  updates : ServerUpdates before after
  opened : (before.server.conn who).state ≠ .disconnected
  closed : (after.server.conn who).state = .disconnected

/-- What the handler did before leaves a closed connection closed. -/
theorem BeginsClose.after {middle : ServerProcess} (closes : BeginsClose middle begun self)
    (earlier : ServerUpdates process middle) (known : self < process.server.created) :
    BeginsClose process begun self where
  updates := earlier.trans closes.updates
  opened closed := closes.opened (earlier.forward.disconnected known closed)
  closed := closes.closed

theorem beginsClose_handleClose (handles : process.Handles thread self)
    (begins : process.beginHandleClose thread self = some begun) :
    BeginsClose process begun self := by
  unfold beginHandleClose at begins
  split at begins
  · cases begins
  · next opened =>
      cases begins
      have checked := @updates_check process thread (process.server.loopOf self)
      have here := handles.updates checked
      exact ⟨checked.tail (.handle here.known here.started .beginHandleClose), opened, by simp⟩

theorem beginsClose_handleRead (handles : process.Handles thread self) {result : ReadResult}
    (begins : process.beginHandleRead thread self result = some begun) :
    BeginsClose process begun self := by
  have checked := @updates_check process thread (process.server.loopOf self)
  cases result with
  | endOfFile | failed =>
      exact (beginsClose_handleClose (handles.updates checked) begins).after checked handles.known
  | bytes | wouldBlock => cases begins

theorem beginsClose_handleWrite (handles : process.Handles thread self) {result : WriteResult}
    (begins : process.beginHandleWrite thread self result = some begun) :
    BeginsClose process begun self := by
  have checked := @updates_check process thread (process.server.loopOf self)
  have here := handles.updates checked
  have written := checked.tail (.handle here.known here.started (.handleWrite result))
  unfold beginHandleWrite at begins
  dsimp only at begins
  split at begins
  · exact (beginsClose_handleClose (handles.updates written) begins).after written handles.known
  · cases begins

theorem beginsClose_handleEvent {ready : ReadyChannel} (handles : process.Handles thread ready.conn)
    {read : ReadResult} {write : WriteResult}
    (begins : process.beginHandleEvent thread ready read write = some begun) :
    BeginsClose process begun ready.conn := by
  unfold beginHandleEvent at begins
  dsimp only at begins
  split at begins
  · exact beginsClose_handleClose handles begins
  · rw [Option.or_eq_some_iff] at begins
    rcases begins with reads | ⟨_, writes⟩
    · split at reads
      · exact beginsClose_handleRead handles reads
      · cases reads
    · have done : ServerUpdates process
          (if ready.readable then process.handleRead thread ready.conn read else process) := by
        split
        · exact updates_handleRead handles read
        · exact .refl
      split at writes
      · exact (beginsClose_handleWrite (handles.updates done) writes).after done handles.known
      · cases writes

theorem beginsClose_forceCloseInLoop (handles : process.Handles thread self)
    (begins : process.beginForceCloseInLoop thread self = some begun) :
    BeginsClose process begun self := by
  unfold beginForceCloseInLoop at begins
  split at begins
  · next polled =>
      cases begins
      have checked := @updates_check process thread (process.server.loopOf self)
      have here := handles.updates checked
      refine ⟨checked.tail (.handle here.known here.started .beginForceClose), ?_, by simp⟩
      rcases polled with state | state <;> simp [state]
  · cases begins

/-- The thread of a sub loop that runs the user's code has entered `Loop()`. -/
theorem running_of_mayCallConnection {loop : LoopId} (sub : 0 < loop)
    (may : process.mayCallConnection (runner loop) self = true) :
    process.phase loop ≠ .unstarted := by
  intro unstarted
  cases loop with
  | zero => exact Nat.lt_irrefl 0 sub
  | succ loop =>
      simp [mayCallConnection, mayCall, runner, unstarted, LoopPhase.isCalling] at may

/-- A thread of a sub loop queues the removal on the main loop. -/
theorem handleRemoveConnection_of_sub (well : WellRun process) (sub : thread ≠ .main) :
    process.handleRemoveConnection thread self =
      process.withServer
        ((process.server.countClose self).queueInLoop 0 (.removeConnection self)) := by
  have away : process.isInLoopThread thread 0 = false := by
    refine decide_eq_false fun here => sub ?_
    rw [← here, well.threadId_main]
  simp [handleRemoveConnection, away]

end ServerProcess

namespace WellRun

variable {process : ServerProcess} {self : ConnId}

/-- The close callback by itself. -/
theorem queueRemoval (well : WellRun process) (known : self < process.server.created)
    (closed : (process.server.conn self).state = .disconnected) :
    WellRun (process.withServer
      ((process.server.countClose self).queueInLoop 0 (.removeConnection self))) where
  queued := by
    have counted : WellQueued (process.server.countClose self) :=
      well.queued.of_conn_eq rfl (fun _ => by simp) (fun _ => by simp) rfl rfl rfl
    exact @WellQueued.queueCall _ counted (.removeConnection self) known
      (by simpa [ServerFunctor.fits, ServerFunctor.conn] using closed) (by simp)
  threads := well.threads
  active loop ready member := by simpa using well.active loop ready member
  accepted other accepts := by
    have fresh := well.accepted other accepts
    refine ⟨fresh.known, by simpa using fresh.connecting, fun loop member => ?_⟩
    rcases mem_pending_queueInLoop member with earlier | ⟨_, same⟩
    · exact fresh.taken loop earlier
    · cases same
  dying := well.dying
  tabled := well.tabled
  remaining := well.remaining

end WellRun

/-! ### What a thread that stands in a function relies on -/

/-- Between the close and its callback the connection is closed, its loop is a sub loop, and
`~TcpServer` has not begun. -/
def Pause.Fits (process : ServerProcess) (thread : ThreadId) : Pause → Prop
  | callBack self _ =>
      process.control.stage = .serving ∧ thread ≠ .main ∧ process.server.loopOf self ≠ 0 ∧
        self < process.server.created ∧ (process.server.conn self).state = .disconnected
  | closeSocket self =>
      self < process.server.created ∧ (process.server.conn self).state = .disconnected
  | tested _ self | assigned _ self =>
      self < process.server.created ∧ (process.server.conn self).state ≠ .connecting

theorem Pause.Fits.forward {before after : ServerProcess} {thread : ThreadId} {pause : Pause}
    (fits : pause.Fits before thread) (forward : Forward before.server after.server)
    (serving : pause.isBeforeCallBack = true → before.control.stage = .serving →
      after.control.stage = .serving) : pause.Fits after thread := by
  cases pause with
  | callBack self closesSocket =>
      obtain ⟨stage, sub, away, known, closed⟩ := fits
      refine ⟨serving rfl stage, sub, ?_, known.trans_le forward.created,
        forward.disconnected known closed⟩
      rwa [forward.loopOf self known]
  | closeSocket self =>
      exact ⟨fits.1.trans_le forward.created, forward.disconnected fits.1 fits.2⟩
  | tested request self | assigned request self =>
      exact ⟨fits.1.trans_le forward.created, forward.started fits.1 fits.2⟩

theorem ProcessUpdates.forward {admits : ServerProcess → Prop} {before after : ServerProcess}
    (updates : ProcessUpdates admits before after) : Forward before.server after.server := by
  induction updates with
  | refl => exact .refl _
  | tail _ update inductionHypothesis => exact inductionHypothesis.trans update.forward

/-- The main thread enters `~TcpServer` nowhere else. -/
theorem ProcessUpdates.serving {admits : ServerProcess → Prop} {before after : ServerProcess}
    (updates : ProcessUpdates admits before after) (never : ∀ process, ¬ admits process)
    (serving : before.control.stage = .serving) : after.control.stage = .serving := by
  induction updates with
  | refl => exact serving
  | tail _ update inductionHypothesis =>
      cases update with
      | server update => exact update.control_eq ▸ inductionHypothesis
      | accept update => cases update <;> exact inductionHypothesis
      | control update =>
          cases update with
          | setPhase | setLoop | retire => exact inductionHypothesis
          | settle settles => exact settles.serving.mpr inductionHypothesis
          | begin admitted => exact absurd admitted (never _)

/-- A step of the process that does not enter `~TcpServer`. -/
theorem ProcessStep.serving {before after : ServerProcess} {event : ProcessEvent}
    (step : ProcessStep before event after) (well : WellRun before)
    (other : event ≠ .beginDestructor) (serving : before.control.stage = .serving) :
    after.control.stage = .serving :=
  (@WellRun.updates_of_step before after (fun _ event => event ≠ .beginDestructor) event well other
    step).serving (fun _ begins => begins rfl) serving

end TurboCore.Net
