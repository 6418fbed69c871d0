import Mathlib
import TurboCore.Net.TcpServer

/-!
# The server among its threads

The server with the threads that run its loops, from its constructor to the end of its
destructor. A handler, a functor, a call of a user's or a statement of the destructor is
one step, and every step says on which thread it runs. What `AssertInLoopThread` compares
is recorded, and the code goes on; so is what a removal erased.
-/

namespace TurboCore.Net

open Foundation

/-- A thread of the process. -/
inductive ThreadId where
  | main
  | sub (loop : LoopId)
  | other (index : Nat)
deriving DecidableEq

/-- The thread that calls `Loop()`. -/
def runner : LoopId → ThreadId
  | 0 => .main
  | loop + 1 => .sub (loop + 1)

theorem runner_ne_main {loop : LoopId} (sub : 0 < loop) : runner loop ≠ .main := by
  cases loop with
  | zero => exact absurd sub (Nat.lt_irrefl 0)
  | succ loop => exact fun same => nomatch same

/-- What `ReadFromFd` answers: a positive count, 0, would-block, or another error. -/
inductive ReadResult where
  | bytes
  | endOfFile
  | wouldBlock
  | failed
deriving DecidableEq

/-- A member of `m_activeChannels` with its `m_revents`. -/
structure ReadyChannel where
  conn : ConnId
  error : Bool
  hangUp : Bool
  readable : Bool
  writable : Bool
deriving DecidableEq

/-- Where the thread of a loop stands in `Loop()`. `accepting` is the main loop inside
`HandleNewConnection`, after the assignment to the table, which may end another
connection. The functors that `DoPendingFunctors` has swapped out are the first `left`
ones of the queue; `executed` are those it has run, which it keeps until the batch ends. -/
inductive LoopPhase where
  | unstarted
  | testing
  | handling (active : List ReadyChannel)
  | accepting (self : ConnId) (active : List ReadyChannel)
  | draining (left : Nat) (executed : List ServerFunctor)
  | stopped
  | destroyed
deriving DecidableEq

/-- `EventLoop`, but for its poller and its queue. -/
structure EventLoop where
  threadId : ThreadId
  quit : Bool
  phase : LoopPhase

/-- Where the main thread stands in `~TcpServer` and in the destructors of the members. -/
inductive Stage where
  | serving
  | closing (remaining : List ConnId)
  | quitting (loop : LoopId)
  | joining (loop : LoopId)
  | cleared
  | dismantling (loop : LoopId)
  | finished
deriving DecidableEq

/-- What the threads do. `held` are the connections to which the user's code keeps a
pointer, `dying` those whose last reference is gone, with the thread that dropped it, and
`tornDown` those that `~TcpServer` found in the table. -/
structure ProcessControl where
  constructed : Nat
  listening : Bool
  loops : LoopId → EventLoop
  stage : Stage
  held : List ConnId
  dying : List (ConnId × ThreadId)
  tornDown : List ConnId

/-- A comparison of `AssertInLoopThread`. -/
structure LoopCheck where
  loop : LoopId
  threadId : ThreadId
  thread : ThreadId
deriving DecidableEq

/-- What the removal of a connection took out of the table. -/
structure Removal where
  conn : ConnId
  erased : Option ConnId
deriving DecidableEq

/-- The process. `unclosed` are the connections whose destructor did not find them in
`Disconnected`. -/
structure ServerProcess where
  server : TcpServer
  control : ProcessControl
  checks : List LoopCheck
  removals : List Removal
  unclosed : List ConnId

/-- The lambda holds a pointer to the connection; the others capture a bare `this`. -/
def ServerFunctor.owns : ServerFunctor → ConnId → Bool
  | .connectEstablished self, other | .removeConnection self, other
  | .connectDestroyed self, other => self = other
  | .sendInLoop _ _, _ | .shutdownInLoop _, _ | .forceCloseInLoop _, _ => false

namespace LoopPhase

/-- The functors whose lambdas the running batch keeps. -/
def executed : LoopPhase → List ServerFunctor
  | draining _ executed => executed
  | unstarted | testing | handling _ | accepting _ _ | stopped | destroyed => []

/-- The channels whose turn is still to come. -/
def active : LoopPhase → List ReadyChannel
  | handling active | accepting _ active => active
  | unstarted | testing | draining _ _ | stopped | destroyed => []

def isAccepting : LoopPhase → Bool
  | accepting _ _ => true
  | unstarted | testing | handling _ | draining _ _ | stopped | destroyed => false

/-- The loop's thread handles events or runs functors. -/
def isCalling : LoopPhase → Bool
  | handling _ | draining _ _ => true
  | unstarted | testing | accepting _ _ | stopped | destroyed => false

end LoopPhase

namespace Stage

/-- The table is cleared. -/
def isCleared : Stage → Bool
  | cleared | dismantling _ | finished => true
  | serving | closing _ | quitting _ | joining _ => false

/-- The connections that the loop of `~TcpServer` has still to close. -/
def remaining : Stage → List ConnId
  | closing remaining => remaining
  | serving | quitting _ | joining _ | cleared | dismantling _ | finished => []

end Stage

namespace ServerProcess

/-- The process when the constructor of a server has its arguments. The main loop exists. -/
def start (threadNum : Nat) : ServerProcess where
  server := .start threadNum
  control :=
    { constructed := 0
      listening := false
      loops := fun loop => ⟨.main, false, if loop = 0 then .testing else .unstarted⟩
      stage := .serving
      held := []
      dying := []
      tornDown := [] }
  checks := []
  removals := []
  unclosed := []

variable (process : ServerProcess) (thread : ThreadId) (self : ConnId)

@[simps]
def withServer (server : TcpServer) : ServerProcess := { process with server }

@[simps]
def withControl (control : ProcessControl) : ServerProcess := { process with control }

@[simps! server checks removals unclosed]
def setPhase (loop : LoopId) (phase : LoopPhase) : ServerProcess :=
  process.withControl
    { process.control with
      loops :=
        Function.update process.control.loops loop { process.control.loops loop with phase } }

@[simps! server checks removals unclosed]
def setStage (stage : Stage) : ServerProcess :=
  process.withControl { process.control with stage }

/-- `m_threadId`. -/
def threadId (loop : LoopId) : ThreadId := (process.control.loops loop).threadId

def phase (loop : LoopId) : LoopPhase := (process.control.loops loop).phase

def isInLoopThread (loop : LoopId) : Bool := process.threadId loop = thread

@[simps]
def assertInLoopThread (loop : LoopId) : ServerProcess :=
  { process with checks := process.checks ++ [⟨loop, process.threadId loop, thread⟩] }

/-! ### The handlers, on a thread

A function that begins with `AssertInLoopThread` calls `UpdateChannel` and `RemoveChannel`
on the same loop and thread only, so that one comparison stands for all of them. -/

def connectEstablished : ServerProcess :=
  (process.assertInLoopThread thread (process.server.loopOf self)).withServer
    (process.server.connectEstablished self)

def connectDestroyed : ServerProcess :=
  (process.assertInLoopThread thread (process.server.loopOf self)).withServer
    (process.server.connectDestroyed self)

/-- `m_connections.erase(fd)` for the fd that the connection has now. -/
@[simps]
def eraseConnection : ServerProcess :=
  let fd := (process.server.conn self).socketFd
  { process with
    server := process.server.eraseConnection fd
    removals := process.removals ++ [⟨self, process.server.connections.lookup fd⟩] }

/-- The lambda of `HandleRemoveConnection`. -/
def removeInLoop : ServerProcess :=
  let removed := (process.assertInLoopThread thread 0).eraseConnection self
  let loop := process.server.loopOf self
  if removed.isInLoopThread thread loop then removed.connectDestroyed thread self
  else removed.withServer (removed.server.queueInLoop loop (.connectDestroyed self))

/-- The close callback. -/
def handleRemoveConnection : ServerProcess :=
  let counted := process.withServer (process.server.countClose self)
  if process.isInLoopThread thread 0 then counted.removeInLoop thread self
  else counted.withServer (counted.server.queueInLoop 0 (.removeConnection self))

def closeSocket : ServerProcess :=
  process.withServer (process.server.setAttached self (process.server.attached self).closeSocket)

def handleClose : ServerProcess :=
  let checked := process.assertInLoopThread thread (process.server.loopOf self)
  if (process.server.conn self).state = .disconnected then checked
  else
    let closed := (process.server.attached self).beginHandleClose self
    ((checked.withServer (process.server.setAttached self closed)).handleRemoveConnection
      thread self).closeSocket self

/-- `HandleError` logs and closes. -/
def handleError : ServerProcess := process.handleClose thread self

def handleRead (result : ReadResult) : ServerProcess :=
  let checked := process.assertInLoopThread thread (process.server.loopOf self)
  match result with
  | .bytes => checked.withServer (process.server.callBack self .message)
  | .endOfFile | .failed => checked.handleClose thread self
  | .wouldBlock => checked

def handleWrite (result : WriteResult) : ServerProcess :=
  let checked := process.assertInLoopThread thread (process.server.loopOf self)
  let effect := (process.server.attached self).handleWrite self result
  let written := checked.withServer (process.server.setAttached self effect.after)
  if effect.closes then written.handleClose thread self else written

/-- `Channel::HandleEvent`; an error calls the error callback and the close callback. -/
def handleEvent (ready : ReadyChannel) (read : ReadResult) (write : WriteResult) :
    ServerProcess :=
  if ready.error then
    (process.handleError thread ready.conn).handleClose thread ready.conn
  else if ready.hangUp then process.handleClose thread ready.conn
  else
    let done := if ready.readable then process.handleRead thread ready.conn read else process
    if ready.writable then done.handleWrite thread ready.conn write else done

def sendInLoop (data : List UInt8) : ServerProcess :=
  (process.assertInLoopThread thread (process.server.loopOf self)).withServer
    (process.server.sendInLoop self data)

def shutdownInLoop : ServerProcess :=
  (process.assertInLoopThread thread (process.server.loopOf self)).withServer
    (process.server.shutdownInLoop self)

def forceCloseInLoop : ServerProcess :=
  let checked := process.assertInLoopThread thread (process.server.loopOf self)
  if (process.server.conn self).state = .connected ∨
      (process.server.conn self).state = .disconnecting then
    let closed := (process.server.attached self).beginForceClose self
    (checked.withServer (process.server.setAttached self closed)).handleRemoveConnection thread self
  else checked

def runFunctor : ServerFunctor → ServerProcess
  | .connectEstablished self => process.connectEstablished thread self
  | .removeConnection self => process.removeInLoop thread self
  | .connectDestroyed self => process.connectDestroyed thread self
  | .sendInLoop self data => process.sendInLoop thread self data
  | .shutdownInLoop self => process.shutdownInLoop thread self
  | .forceCloseInLoop self => process.forceCloseInLoop thread self

/-- `RunInLoop`. -/
def runInLoop (loop : LoopId) (functor : ServerFunctor) : ServerProcess :=
  if process.isInLoopThread thread loop then process.runFunctor thread functor
  else process.withServer (process.server.queueInLoop loop functor)

def send (data : List UInt8) : ServerProcess :=
  if (process.server.conn self).isConnected then
    process.runInLoop thread (process.server.loopOf self) (.sendInLoop self data)
  else process

/-- `m_state = ConnectionState::Disconnecting`. -/
def setDisconnecting : ServerProcess :=
  process.withServer
    (process.server.setAttached self ((process.server.attached self).setState .disconnecting))

def shutdown : ServerProcess :=
  if (process.server.conn self).state = .connected then
    (process.setDisconnecting self).runInLoop thread (process.server.loopOf self)
      (.shutdownInLoop self)
  else process

def forceClose : ServerProcess :=
  if (process.server.conn self).state = .connected ∨
      (process.server.conn self).state = .disconnecting then
    (process.setDisconnecting self).runInLoop thread (process.server.loopOf self)
      (.forceCloseInLoop self)
  else process

/-- `HandleAccept`, with `HandleNewConnection` up to the assignment to the table. -/
def acceptConnection (fd : Nat) : ServerProcess :=
  (process.assertInLoopThread .main 0).withServer (process.server.addConnection fd)

/-- The rest of `HandleNewConnection`. -/
def establishAccepted : ServerProcess :=
  process.runInLoop .main (process.server.loopOf self) (.connectEstablished self)

/-! ### References -/

/-- The table, a lambda or the user's code holds a pointer to the connection. -/
def isHeld : Bool :=
  self ∈ process.control.held ∨ (∃ slot ∈ process.server.connections.entries, slot.2 = self) ∨
    ∃ loop < process.server.threadNum + 1,
      ∃ functor ∈ process.server.pending loop ++ (process.phase loop).executed,
        functor.owns self = true

/-- The connection exists, and its destructor has not been entered. -/
def isAlive : Bool :=
  self < process.server.created ∧ self ∉ process.control.dying.map Prod.fst

/-- The destructors of connections are next on the thread. -/
def isReleasing : Bool :=
  ∃ last ∈ process.control.dying, last.2 = thread ∧ (process.server.entry last.1).destroyed = false

/-- The thread has dropped the last reference to the connections that nothing holds now. -/
@[simps! server checks removals unclosed]
def retire : ServerProcess :=
  let dropped := (List.range process.server.created).filter fun self =>
    process.isAlive self && !process.isHeld self
  process.withControl
    { process.control with
      dying := process.control.dying ++ dropped.map fun self => (self, thread) }

/-- `~TcpConnection`, with `~Channel` and `~Socket`. -/
def destroy : ServerProcess :=
  let checked :=
    if (process.server.conn self).channel.hasNoEvents then process
    else process.assertInLoopThread thread (process.server.loopOf self)
  { checked with
    server := process.server.destroy self
    unclosed :=
      if (process.server.conn self).state = .disconnected then process.unclosed
      else process.unclosed ++ [self] }

/-! ### The loops -/

/-- `Poll` may report the channel. -/
def canPoll (loop : LoopId) (ready : ReadyChannel) : Bool :=
  ready.conn < process.server.created ∧
    (process.server.pollers loop).lookup (process.server.conn ready.conn).channel.fd =
      some ready.conn ∧
    (ready.readable → (process.server.conn ready.conn).channel.reading) ∧
    (ready.writable → (process.server.conn ready.conn).channel.writing)

/-- What the kernel can answer to a `read`; a closed socket has no number to read from. -/
def canRead (result : ReadResult) : Bool :=
  (process.server.conn self).socketFd = invalidSocket → result = .failed

/-- The thread may be in the middle of `Loop()`. The main thread leaves it for good when it
enters `~TcpServer`. -/
def mayLoop (loop : LoopId) : Bool :=
  process.isReleasing (runner loop) = false ∧ (loop = 0 → process.control.stage = .serving)

/-- The thread may run the user's code; the main thread also does so before and after `Loop()`,
which it leaves at a test of `m_quit`. -/
def mayCall : Bool :=
  !process.isReleasing thread &&
    match thread with
    | .main => process.control.stage = .serving && !(process.phase 0).isAccepting
    | .sub loop => (process.phase loop).isCalling
    | .other _ => true

/-- The user's code may call the connection. -/
def mayCallConnection : Bool :=
  process.mayCall thread ∧ process.isAlive self ∧
    process.phase (process.server.loopOf self) ≠ .destroyed

/-- The main thread may go on in the destructor. -/
def mayDismantle (stage : Stage) : Bool :=
  process.isReleasing .main = false ∧ process.control.stage = stage

/-- `Loop()` in a new thread, up to its first test of `m_quit`. -/
def startThread (loop : LoopId) : ServerProcess :=
  (process.withControl
    { process.control with
      loops := Function.update process.control.loops loop ⟨runner loop, false, .testing⟩ })
    |>.assertInLoopThread (runner loop) loop

/-- The constructor of a sub loop, which enables reading on its wakeup channel. -/
def constructLoop : ServerProcess :=
  let loop := process.control.constructed + 1
  (process.withControl
    { process.control with
      constructed := loop
      loops := Function.update process.control.loops loop ⟨.main, false, .unstarted⟩ })
    |>.assertInLoopThread .main loop

/-- `Start`. -/
def listen : ServerProcess :=
  (process.assertInLoopThread .main 0).withControl { process.control with listening := true }

/-- `~TcpServer` finds these connections in the table. -/
def beginDestructor : ServerProcess :=
  let found := process.server.connections.entries.map fun slot => slot.2
  process.withControl { process.control with stage := .closing found, tornDown := found }

/-- `Quit`, which the destructor calls on a sub loop. -/
def quit (loop : LoopId) : ServerProcess :=
  process.withControl
    { process.control with
      stage := .joining loop
      loops :=
        Function.update process.control.loops loop
          { process.control.loops loop with quit := true } }

/-- `m_connections.clear()`. -/
def clear : ServerProcess :=
  (process.withServer { process.server with connections := ∅ }).setStage .cleared

/-- `~Acceptor` calls `DisableAll` and `RemoveChannel`. -/
def destroyAcceptor : ServerProcess :=
  ((process.assertInLoopThread .main 0).assertInLoopThread .main 0).setStage (.dismantling 1)

/-- `~EventLoop` calls `DisableAll` and `RemoveChannel`; the queue is a member. -/
def destroyLoop (loop : LoopId) : ServerProcess :=
  let checked := (process.assertInLoopThread .main loop).assertInLoopThread .main loop
  let emptied : TcpServer :=
    { process.server with pending := Function.update process.server.pending loop [] }
  ((checked.withServer emptied).setPhase loop .destroyed).setStage (.dismantling (loop + 1))

end ServerProcess

inductive ProcessEvent where
  | constructLoop
  | startThread (loop : LoopId)
  | listen
  | accept (fd : Nat)
  | establish
  | poll (loop : LoopId) (active : List ReadyChannel)
  | handleEvent (loop : LoopId) (read : ReadResult) (write : WriteResult)
  | swapFunctors (loop : LoopId)
  | functor (loop : LoopId)
  | endBatch (loop : LoopId)
  | exitLoop (loop : LoopId)
  | send (thread : ThreadId) (self : ConnId) (data : List UInt8)
  | shutdown (thread : ThreadId) (self : ConnId)
  | forceClose (thread : ThreadId) (self : ConnId)
  | retain (self : ConnId)
  | release (thread : ThreadId) (self : ConnId)
  | destroy (thread : ThreadId) (self : ConnId)
  | beginDestructor
  | closeNext (self : ConnId)
  | endClosing
  | quitLoop (loop : LoopId)
  | joinLoop (loop : LoopId)
  | clear
  | destroyAcceptor
  | destroyLoop (loop : LoopId)
  | finish

open ServerProcess in
/-- The machine of the process. `poll` is the loop's test of `m_quit` with the `Poll` after
it, `exitLoop` the test that ends it; a channel may be polled and closed before its turn,
and may be listed twice, so that the user's code can come between its read and its write. -/
def serverProcess : Machine ServerProcess ProcessEvent where
  step process
    | .constructLoop =>
        if process.control.constructed < process.server.threadNum then
          some process.constructLoop
        else none
    | .startThread loop =>
        if 0 < loop ∧ loop ≤ process.control.constructed ∧ process.phase loop = .unstarted then
          some (process.startThread loop)
        else none
    | .listen =>
        if process.mayCall .main ∧ process.control.listening = false ∧
            process.control.constructed = process.server.threadNum then
          some process.listen
        else none
    | .accept fd =>
        match process.phase 0 with
        | .handling active =>
            if process.mayLoop 0 ∧ process.control.listening ∧ process.server.isFree fd then
              some <| ((process.acceptConnection fd).setPhase 0
                (.accepting process.server.created active)).retire .main
            else none
        | _ => none
    | .establish =>
        match process.phase 0 with
        | .accepting self active =>
            if process.mayLoop 0 then
              some (((process.setPhase 0 (.handling active)).establishAccepted self).retire .main)
            else none
        | _ => none
    | .poll loop active =>
        if process.phase loop = .testing ∧ process.mayLoop loop ∧
            (process.control.loops loop).quit = false ∧
            ∀ ready ∈ active, process.canPoll loop ready then
          some (process.setPhase loop (.handling active))
        else none
    | .handleEvent loop read write =>
        match process.phase loop with
        | .handling (ready :: active) =>
            if process.mayLoop loop ∧ process.isAlive ready.conn ∧
                process.canRead ready.conn read ∧ process.server.canAnswer ready.conn write then
              some <| ((process.handleEvent (runner loop) ready read write).setPhase loop
                (.handling active)).retire (runner loop)
            else none
        | _ => none
    | .swapFunctors loop =>
        if process.phase loop = .handling [] ∧ process.mayLoop loop then
          some (process.setPhase loop (.draining (process.server.pending loop).length []))
        else none
    | .functor loop =>
        match process.phase loop, process.server.pending loop with
        | .draining (left + 1) executed, functor :: _ =>
            if process.mayLoop loop ∧ process.isAlive functor.conn then
              some <| (((process.withServer (process.server.unqueue loop)).runFunctor
                (runner loop) functor).setPhase loop (.draining left (executed ++ [functor]))).retire
                (runner loop)
            else none
        | _, _ => none
    | .endBatch loop =>
        match process.phase loop with
        | .draining 0 _ =>
            if process.mayLoop loop then
              some ((process.setPhase loop .testing).retire (runner loop))
            else none
        | _ => none
    | .exitLoop loop =>
        if process.phase loop = .testing ∧ process.mayLoop loop ∧
            (process.control.loops loop).quit = true then
          some (process.setPhase loop .stopped)
        else none
    | .send thread self data =>
        if process.mayCallConnection thread self then
          some ((process.send thread self data).retire thread)
        else none
    | .shutdown thread self =>
        if process.mayCallConnection thread self then
          some ((process.shutdown thread self).retire thread)
        else none
    | .forceClose thread self =>
        if process.mayCallConnection thread self then
          some ((process.forceClose thread self).retire thread)
        else none
    | .retain self =>
        if process.isAlive self then
          some <| process.withControl
            { process.control with held := self :: process.control.held }
        else none
    | .release thread self =>
        if process.mayCall thread then
          some <| (process.withControl
            { process.control with held := process.control.held.erase self }).retire thread
        else none
    | .destroy thread self =>
        if (self, thread) ∈ process.control.dying ∧
            (process.server.entry self).destroyed = false then
          some (process.destroy thread self)
        else none
    | .beginDestructor =>
        if process.mayCall .main ∧
            process.control.constructed = process.server.threadNum then
          some process.beginDestructor
        else none
    | .closeNext self =>
        match process.control.stage with
        | .closing remaining =>
            if self ∈ remaining ∧ process.isReleasing .main = false then
              some <| ((process.forceClose .main self).setStage
                (.closing (remaining.erase self))).retire .main
            else none
        | _ => none
    | .endClosing =>
        if process.mayDismantle (.closing []) then some (process.setStage (.quitting 1)) else none
    | .quitLoop loop =>
        if process.mayDismantle (.quitting loop) ∧ 0 < loop ∧ loop ≤ process.server.threadNum then
          some (process.quit loop)
        else none
    | .joinLoop loop =>
        if process.mayDismantle (.joining loop) ∧ process.phase loop = .stopped then
          some (process.setStage (.quitting (loop + 1)))
        else none
    | .clear =>
        if process.mayDismantle (.quitting (process.server.threadNum + 1)) then
          some (process.clear.retire .main)
        else none
    | .destroyAcceptor =>
        if process.mayDismantle .cleared then some process.destroyAcceptor else none
    | .destroyLoop loop =>
        if process.mayDismantle (.dismantling loop) ∧
            (0 < loop ∧ loop ≤ process.server.threadNum) ∧ process.phase loop = .stopped then
          some ((process.destroyLoop loop).retire .main)
        else none
    | .finish =>
        if process.mayDismantle (.dismantling (process.server.threadNum + 1)) then
          some (process.setStage .finished)
        else none

/-- What each event does, and what it needs. -/
inductive ProcessStep (process : ServerProcess) : ProcessEvent → ServerProcess → Prop where
  | constructLoop : ProcessStep process .constructLoop process.constructLoop
  | startThread (loop : LoopId) (sub : 0 < loop) (unstarted : process.phase loop = .unstarted) :
      ProcessStep process (.startThread loop) (process.startThread loop)
  | listen : ProcessStep process .listen process.listen
  | accept (fd : Nat) (active : List ReadyChannel) (phase : process.phase 0 = .handling active)
      (serving : process.control.stage = .serving) (free : process.server.isFree fd = true) :
      ProcessStep process (.accept fd)
        (((process.acceptConnection fd).setPhase 0
          (.accepting process.server.created active)).retire .main)
  | establish (self : ConnId) (active : List ReadyChannel)
      (phase : process.phase 0 = .accepting self active)
      (serving : process.control.stage = .serving) :
      ProcessStep process .establish
        (((process.setPhase 0 (.handling active)).establishAccepted self).retire .main)
  | poll (loop : LoopId) (active : List ReadyChannel) (phase : process.phase loop = .testing)
      (polled : ∀ ready ∈ active, process.canPoll loop ready = true) :
      ProcessStep process (.poll loop active) (process.setPhase loop (.handling active))
  | handleEvent (loop : LoopId) (read : ReadResult) (write : WriteResult) (ready : ReadyChannel)
      (active : List ReadyChannel) (phase : process.phase loop = .handling (ready :: active))
      (may : process.mayLoop loop = true) (alive : process.isAlive ready.conn = true) :
      ProcessStep process (.handleEvent loop read write)
        (((process.handleEvent (runner loop) ready read write).setPhase loop
          (.handling active)).retire (runner loop))
  | swapFunctors (loop : LoopId) (phase : process.phase loop = .handling []) :
      ProcessStep process (.swapFunctors loop)
        (process.setPhase loop (.draining (process.server.pending loop).length []))
  | functor (loop : LoopId) (left : Nat) (executed : List ServerFunctor) (functor : ServerFunctor)
      (rest : List ServerFunctor) (phase : process.phase loop = .draining (left + 1) executed)
      (queue : process.server.pending loop = functor :: rest)
      (may : process.mayLoop loop = true) (alive : process.isAlive functor.conn = true) :
      ProcessStep process (.functor loop)
        ((((process.withServer (process.server.unqueue loop)).runFunctor (runner loop)
          functor).setPhase loop (.draining left (executed ++ [functor]))).retire (runner loop))
  | endBatch (loop : LoopId) (executed : List ServerFunctor)
      (phase : process.phase loop = .draining 0 executed) :
      ProcessStep process (.endBatch loop) ((process.setPhase loop .testing).retire (runner loop))
  | exitLoop (loop : LoopId) (phase : process.phase loop = .testing) :
      ProcessStep process (.exitLoop loop) (process.setPhase loop .stopped)
  | send (thread : ThreadId) (self : ConnId) (data : List UInt8)
      (may : process.mayCallConnection thread self = true) :
      ProcessStep process (.send thread self data) ((process.send thread self data).retire thread)
  | shutdown (thread : ThreadId) (self : ConnId)
      (may : process.mayCallConnection thread self = true) :
      ProcessStep process (.shutdown thread self) ((process.shutdown thread self).retire thread)
  | forceClose (thread : ThreadId) (self : ConnId)
      (may : process.mayCallConnection thread self = true) :
      ProcessStep process (.forceClose thread self) ((process.forceClose thread self).retire thread)
  | retain (self : ConnId) :
      ProcessStep process (.retain self)
        (process.withControl { process.control with held := self :: process.control.held })
  | release (thread : ThreadId) (self : ConnId) :
      ProcessStep process (.release thread self)
        ((process.withControl
          { process.control with held := process.control.held.erase self }).retire thread)
  | destroy (thread : ThreadId) (self : ConnId) (dying : (self, thread) ∈ process.control.dying) :
      ProcessStep process (.destroy thread self) (process.destroy thread self)
  | beginDestructor (serving : process.control.stage = .serving)
      (unaccepting : (process.phase 0).isAccepting = false) :
      ProcessStep process .beginDestructor process.beginDestructor
  | closeNext (self : ConnId) (remaining : List ConnId)
      (closing : process.control.stage = .closing remaining) (member : self ∈ remaining) :
      ProcessStep process (.closeNext self)
        (((process.forceClose .main self).setStage (.closing (remaining.erase self))).retire .main)
  | endClosing (closing : process.control.stage = .closing []) :
      ProcessStep process .endClosing (process.setStage (.quitting 1))
  | quitLoop (loop : LoopId) (quitting : process.control.stage = .quitting loop) :
      ProcessStep process (.quitLoop loop) (process.quit loop)
  | joinLoop (loop : LoopId) (joining : process.control.stage = .joining loop) :
      ProcessStep process (.joinLoop loop) (process.setStage (.quitting (loop + 1)))
  | clear (quitting : process.control.stage = .quitting (process.server.threadNum + 1)) :
      ProcessStep process .clear (process.clear.retire .main)
  | destroyAcceptor (cleared : process.control.stage = .cleared) :
      ProcessStep process .destroyAcceptor process.destroyAcceptor
  | destroyLoop (loop : LoopId) (dismantling : process.control.stage = .dismantling loop)
      (sub : 0 < loop) (stopped : process.phase loop = .stopped) :
      ProcessStep process (.destroyLoop loop) ((process.destroyLoop loop).retire .main)
  | finish (dismantling : process.control.stage = .dismantling (process.server.threadNum + 1)) :
      ProcessStep process .finish (process.setStage .finished)

theorem processStep_cases {process next : ServerProcess} {event : ProcessEvent}
    (transition : serverProcess.step process event = some next) :
    ProcessStep process event next := by
  have serving : process.mayLoop 0 = true → process.control.stage = .serving := by
    intro may
    simp only [ServerProcess.mayLoop, decide_eq_true_eq] at may
    exact may.2 trivial
  have called : process.mayCall .main = true →
      process.control.stage = .serving ∧ (process.phase 0).isAccepting = false := by
    intro may
    simp only [ServerProcess.mayCall, Bool.and_eq_true, decide_eq_true_eq,
      Bool.not_eq_true'] at may
    exact may.2
  have stage : ∀ {stage}, process.mayDismantle stage = true → process.control.stage = stage := by
    intro stage may
    simp only [ServerProcess.mayDismantle, decide_eq_true_eq] at may
    exact may.2
  cases event with
  | accept fd =>
      cases phase : process.phase 0 <;>
        simp only [serverProcess, phase, reduceCtorEq, Option.ite_none_right_eq_some,
          Option.some.injEq] at transition
      obtain ⟨condition, rfl⟩ := transition
      exact .accept fd _ phase (serving condition.1) condition.2.2
  | establish =>
      cases phase : process.phase 0 <;>
        simp only [serverProcess, phase, reduceCtorEq, Option.ite_none_right_eq_some,
          Option.some.injEq] at transition
      obtain ⟨condition, rfl⟩ := transition
      exact .establish _ _ phase (serving condition)
  | handleEvent loop read write =>
      simp only [serverProcess] at transition
      split at transition
      · next ready active phase =>
          simp only [Option.ite_none_right_eq_some, Option.some.injEq] at transition
          obtain ⟨condition, rfl⟩ := transition
          exact .handleEvent loop read write ready active phase condition.1 condition.2.1
      · cases transition
  | functor loop =>
      simp only [serverProcess] at transition
      split at transition
      · next left executed functor rest phase queue =>
          simp only [Option.ite_none_right_eq_some, Option.some.injEq] at transition
          obtain ⟨condition, rfl⟩ := transition
          exact .functor loop left executed functor rest phase queue condition.1 condition.2
      · cases transition
  | endBatch loop =>
      simp only [serverProcess] at transition
      split at transition
      · next executed phase =>
          simp only [Option.ite_none_right_eq_some, Option.some.injEq] at transition
          obtain ⟨_, rfl⟩ := transition
          exact .endBatch loop executed phase
      · cases transition
  | closeNext self =>
      simp only [serverProcess] at transition
      split at transition
      · next remaining closing =>
          simp only [Option.ite_none_right_eq_some, Option.some.injEq] at transition
          obtain ⟨condition, rfl⟩ := transition
          exact .closeNext self remaining closing condition.1
      · cases transition
  | _ =>
      simp only [serverProcess, Option.ite_none_right_eq_some, Option.some.injEq] at transition
      obtain ⟨condition, rfl⟩ := transition
      first
        | exact .constructLoop
        | exact .startThread _ condition.1 condition.2.2
        | exact .listen
        | exact .poll _ _ condition.1 condition.2.2.2
        | exact .swapFunctors _ condition.1
        | exact .exitLoop _ condition.1
        | exact .send _ _ _ condition
        | exact .shutdown _ _ condition
        | exact .forceClose _ _ condition
        | exact .retain _
        | exact .release _ _
        | exact .destroy _ _ condition.1
        | exact .beginDestructor (called condition.1).1 (called condition.1).2
        | exact .endClosing (stage condition)
        | exact .quitLoop _ (stage condition.1)
        | exact .joinLoop _ (stage condition.1)
        | exact .clear (stage condition)
        | exact .destroyAcceptor (stage condition)
        | exact .destroyLoop _ (stage condition.1) condition.2.1.1 condition.2.2
        | exact .finish (stage condition)

end TurboCore.Net
