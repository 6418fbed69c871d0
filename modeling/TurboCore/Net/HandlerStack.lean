import Mathlib
import TurboCore.Foundation.Execution
import TurboCore.Net.ServerProcess
import TurboCore.Net.TcpClient

/-!
# Handlers on their stacks and the owners of connections

A server, or a client, down to the single calls of its handlers, until its destructor has
run. Each loop thread has a stack of what its functions have still to do, topmost first,
with the `shared_ptr` temporaries among it; a connection dies with the last of its owners.
Owners are the server's table or the client's `m_connection`, the lambdas that captured a
pointer, the temporaries, and the copies that the program keeps. The user's functions call
the connections they can reach as often as they like. What follows a step of a function of
a dead connection, of a dead server or of a dead client is undefined and not modelled; a
failing `AssertInLoopThread` would end the process, and the model goes on.
-/

namespace TurboCore.Net

open Foundation

/-- The callbacks of the user's. -/
inductive CallbackKind where
  | connection
  | message
  | writeComplete
  | close
deriving DecidableEq

/-- What a function on a stack has still to do. -/
inductive Frame where
  | handleEvent (ready : ReadyChannel)
  /-- `HandleEvent` after the error callback -/
  | closeAfterError (self : ConnId)
  /-- `HandleEvent` after the test of the read event -/
  | writeAfterRead (ready : ReadyChannel)
  | handleRead (self : ConnId)
  | handleWrite (self : ConnId)
  /-- `HandleWrite` after the write-complete callback -/
  | writeDone (self : ConnId)
  | handleError (self : ConnId)
  | handleClose (self : ConnId)
  /-- `HandleClose` after the close callback -/
  | finishClose (self : ConnId)
  /-- a function of the user's, with the connection as its argument -/
  | callback (self : ConnId) (kind : CallbackKind)
  /-- the end of a `shared_ptr` temporary: an argument, or the lambda of an inline call -/
  | release (self : ConnId)
  /-- `HandleRemoveConnection` of the server or the client -/
  | handleRemoveConnection (self : ConnId)
  /-- the client's `HandleRemoveConnection` after its close callback -/
  | scheduleReconnect (self : ConnId)
  /-- the body of a lambda handed to a loop -/
  | functor (lambda : ServerFunctor)
deriving DecidableEq

namespace Frame

def conn : Frame → ConnId
  | handleEvent ready | writeAfterRead ready => ready.conn
  | closeAfterError self | handleRead self | handleWrite self | writeDone self
  | handleError self | handleClose self | finishClose self | callback self _ | release self
  | handleRemoveConnection self | scheduleReconnect self => self
  | functor lambda => lambda.conn

/-- A step of `HandleRead`, `HandleWrite`, `HandleClose`, `HandleError` or `HandleEvent`. -/
def isHandler : Frame → Bool
  | handleEvent _ | closeAfterError _ | writeAfterRead _ | handleRead _ | handleWrite _
  | writeDone _ | handleError _ | handleClose _ | finishClose _ => true
  | callback _ _ | release _ | handleRemoveConnection _ | scheduleReconnect _ | functor _ => false

/-- The rest of the function touches its connection. -/
def touchesConnection : Frame → Bool
  | callback _ _ | release _ | scheduleReconnect _ => false
  | _ => true

/-- The rest of the function touches the server or the client. -/
def touchesComponent : Frame → Bool
  | handleRemoveConnection _ | scheduleReconnect _ | functor (.removeConnection _) => true
  | _ => false

end Frame

/-- Where a loop's thread stands in `Loop()`. Timers run in `polling`, before the `Poll`;
`executed` are the functors of the batch that have run, kept until it ends. -/
inductive LoopStage where
  | polling
  | handling (active : List ReadyChannel)
  | draining (functors executed : List ServerFunctor)
  | stopped
deriving DecidableEq

namespace LoopStage

def active : LoopStage → List ReadyChannel
  | handling active => active
  | polling | draining _ _ | stopped => []

def functors : LoopStage → List ServerFunctor
  | draining functors _ => functors
  | polling | handling _ | stopped => []

def executed : LoopStage → List ServerFunctor
  | draining _ executed => executed
  | polling | handling _ | stopped => []

end LoopStage

structure LoopThread where
  stage : LoopStage
  stack : List Frame

/-- `TcpClient`, but for its socket while it connects. -/
structure ClientSide where
  started : Bool
  connecting : Bool
  autoReconnect : Bool
  timers : Nat
  connection : Option ConnId

/-- Where the destructor of the server or the client stands: in its loop over the
connections it found, or before the `Quit` of a sub loop. -/
inductive Teardown where
  | alive
  | closing (remaining : List ConnId)
  | quitting (loop : LoopId)
  | destroyed
deriving DecidableEq

/-- The server, or the client with the connections and the loop it uses, whose table stays
empty; the threads of the loops; how many copies of its pointer the program keeps; the
destructor and `m_quit` of each loop. -/
structure HandlerRun where
  server : TcpServer
  client : Option ClientSide
  loops : LoopId → LoopThread
  copies : ConnId → Nat
  teardown : Teardown
  quits : LoopId → Bool

inductive Component where
  | server (threadNum : Nat)
  | client

namespace HandlerRun

def start : Component → HandlerRun
  | .server threadNum =>
      { server := .start threadNum
        client := none
        loops := fun _ => ⟨.polling, []⟩
        copies := fun _ => 0
        teardown := .alive
        quits := fun _ => false }
  | .client =>
      { server := .start 0
        client := some ⟨false, false, false, 0, none⟩
        loops := fun _ => ⟨.polling, []⟩
        copies := fun _ => 0
        teardown := .alive
        quits := fun _ => false }

variable (run : HandlerRun) (loop : LoopId) (self : ConnId)

def stage : LoopStage := (run.loops loop).stage

def stack : List Frame := (run.loops loop).stack

/-- A thread: the one of a loop, or another one of the program's. -/
abbrev Thread := Option LoopId

/-! ### Owners -/

/-- The lambdas that the loop keeps. -/
def lambdas : List ServerFunctor :=
  run.server.pending loop ++ (run.stage loop).functors ++ (run.stage loop).executed

def isListed : Bool := ∃ slot ∈ run.server.connections.entries, slot.2 = self

def isMember : Bool := ∃ side ∈ run.client, side.connection = some self

/-- The table, the client's member or the program owns the connection. -/
def isHeld : Bool := run.isListed self ∨ run.isMember self ∨ 0 < run.copies self

def isOwned : Bool :=
  run.isHeld self ∨ ∃ loop < run.server.threadNum + 1,
    (∃ functor ∈ run.lambdas loop, functor.owns self = true) ∨ .release self ∈ run.stack loop

/-! ### Primitive changes -/

@[simps]
def setStack (frames : List Frame) : HandlerRun :=
  { run with loops := Function.update run.loops loop { run.loops loop with stack := frames } }

@[simps]
def setStage (stage : LoopStage) : HandlerRun :=
  { run with loops := Function.update run.loops loop { run.loops loop with stage } }

@[simps]
def withServer (server : TcpServer) : HandlerRun := { run with server }

@[simps]
def setCopies (count : Nat) : HandlerRun :=
  { run with copies := Function.update run.copies self count }

section Views

variable (other : LoopId)

@[simp] theorem stack_setStack (frames : List Frame) :
    (run.setStack loop frames).stack other = if other = loop then frames else run.stack other := by
  simp only [stack, setStack_loops, Function.update_apply]
  split <;> rfl

@[simp] theorem stage_setStack (frames : List Frame) :
    (run.setStack loop frames).stage other = run.stage other := by
  simp only [stage, setStack_loops, Function.update_apply]
  split
  · next same => rw [same]
  · rfl

@[simp] theorem stage_setStage (stage : LoopStage) :
    (run.setStage loop stage).stage other = if other = loop then stage else run.stage other := by
  simp only [HandlerRun.stage, setStage_loops, Function.update_apply]
  split <;> rfl

@[simp] theorem stack_setStage (stage : LoopStage) :
    (run.setStage loop stage).stack other = run.stack other := by
  simp only [stack, setStage_loops, Function.update_apply]
  split
  · next same => rw [same]
  · rfl

@[simp] theorem stack_withServer (server : TcpServer) :
    (run.withServer server).stack other = run.stack other := rfl

@[simp] theorem stage_withServer (server : TcpServer) :
    (run.withServer server).stage other = run.stage other := rfl

end Views

/-- The topmost function goes on as `frames`. -/
@[simps! server client copies]
def goOn (frames : List Frame) : HandlerRun :=
  run.setStack loop (frames ++ (run.stack loop).tail)

/-- A call from the topmost function. -/
@[simps! server client copies]
def call (frames : List Frame) : HandlerRun := run.setStack loop (frames ++ run.stack loop)

section Views

variable (other : LoopId) (frames : List Frame)

@[simp] theorem stack_goOn : (run.goOn loop frames).stack other =
    if other = loop then frames ++ (run.stack loop).tail else run.stack other :=
  stack_setStack run loop other _

@[simp] theorem stage_goOn : (run.goOn loop frames).stage other = run.stage other :=
  stage_setStack run loop other _

@[simp] theorem stack_call : (run.call loop frames).stack other =
    if other = loop then frames ++ run.stack loop else run.stack other :=
  stack_setStack run loop other _

@[simp] theorem stage_call : (run.call loop frames).stage other = run.stage other :=
  stage_setStack run loop other _

end Views

/-- A statement of one of the connection's own functions. -/
@[simps! server client copies]
def attach (attached : Attached) : HandlerRun :=
  run.withServer (run.server.setAttached self attached)

@[simps! server client copies]
def queueInLoop (functor : ServerFunctor) : HandlerRun :=
  run.withServer (run.server.queueInLoop loop functor)

/-- Connections without owners are destroyed; one that is destroyed stays as it is. -/
def collect : HandlerRun :=
  run.withServer <| (List.range run.server.created).foldl
    (fun server self => if run.isOwned self then server else server.destroy self) run.server

/-! ### Functions of the source -/

/-- The lambda of the server's `HandleRemoveConnection`. -/
def removeInLoop : HandlerRun :=
  let erased := run.withServer (run.server.eraseConnection (run.server.conn self).socketFd)
  if run.server.loopOf self = 0 then
    erased.goOn 0 [.functor (.connectDestroyed self), .release self]
  else (erased.queueInLoop (run.server.loopOf self) (.connectDestroyed self)).goOn 0 []

/-- `HandleRemoveConnection` on the connection's loop. -/
def handleRemoveConnection : HandlerRun :=
  let counted := run.withServer (run.server.countClose self)
  match run.client with
  | none =>
      if run.server.loopOf self = 0 then
        counted.goOn loop [.functor (.removeConnection self), .release self]
      else (counted.queueInLoop 0 (.removeConnection self)).goOn loop []
  | some side =>
      { counted with client := some { side with connection := none } }.goOn loop
        [.callback self .close, .scheduleReconnect self]

/-- The end of the client's `HandleRemoveConnection`. -/
def scheduleReconnect : HandlerRun :=
  { run with
    client := run.client.map fun (side : ClientSide) =>
      if side.autoReconnect ∧ side.started then
        { side with connecting := false, timers := side.timers + 1 }
      else { side with started := false } }.goOn loop []

def runFunctor : ServerFunctor → HandlerRun
  | .connectEstablished self =>
      (run.attach self ((run.server.attached self).connectEstablished self)).goOn loop
        [.callback self .connection, .release self]
  | .removeConnection self => run.removeInLoop self
  | .connectDestroyed self =>
      (run.attach self ((run.server.attached self).connectDestroyed self)).goOn loop []
  | .sendInLoop self data =>
      (run.attach self ((run.server.attached self).sendInLoop self data)).goOn loop []
  | .shutdownInLoop self =>
      (run.attach self ((run.server.attached self).shutdownInLoop self)).goOn loop []
  | .forceCloseInLoop self =>
      if (run.server.conn self).state = .connected ∨
          (run.server.conn self).state = .disconnecting then
        (run.attach self ((run.server.attached self).beginForceClose self)).goOn loop
          [.handleRemoveConnection self, .release self]
      else run.goOn loop []

/-- One step of the topmost function, but for the user's; `read` and `write` are the
kernel's answers. -/
def runFrame (read : ReadResult) (write : WriteResult) : Frame → HandlerRun
  | .handleEvent ready =>
      if ready.error then
        run.goOn loop [.handleError ready.conn, .closeAfterError ready.conn]
      else if ready.hangUp then run.goOn loop [.handleClose ready.conn]
      else if ready.readable then
        run.goOn loop [.handleRead ready.conn, .writeAfterRead ready]
      else run.goOn loop [.writeAfterRead ready]
  | .closeAfterError self => run.goOn loop [.handleClose self]
  | .writeAfterRead ready =>
      if ready.writable then run.goOn loop [.handleWrite ready.conn] else run.goOn loop []
  | .handleRead self =>
      match read with
      | .bytes => run.goOn loop [.callback self .message, .release self]
      | .endOfFile | .failed => run.goOn loop [.handleClose self]
      | .wouldBlock => run.goOn loop []
  | .handleWrite self =>
      let effect := (run.server.attached self).handleWrite self write
      let written := run.attach self effect.after
      if effect.completes then
        written.goOn loop [.callback self .writeComplete, .release self, .writeDone self]
      else if effect.closes then written.goOn loop [.handleClose self]
      else written.goOn loop []
  -- `err` is still 0: `WriteToFd` sets it for a negative count only.
  | .writeDone _ => run.goOn loop []
  | .handleError self => run.goOn loop [.handleClose self]
  | .handleClose self =>
      if (run.server.conn self).state = .disconnected then run.goOn loop []
      else
        (run.attach self ((run.server.attached self).beginHandleClose self)).goOn loop
          [.handleRemoveConnection self, .release self, .finishClose self]
  | .finishClose self => (run.attach self (run.server.attached self).closeSocket).goOn loop []
  | .callback _ _ => run
  | .release _ => run.goOn loop []
  | .handleRemoveConnection self => run.handleRemoveConnection loop self
  | .scheduleReconnect _ => run.scheduleReconnect loop
  | .functor functor => run.runFunctor loop functor

/-- `RunInLoop` on the loop of the functor's connection. -/
def runInLoop (thread : Thread) (functor : ServerFunctor) : HandlerRun :=
  let loop := run.server.loopOf functor.conn
  if thread = some loop then run.call loop [.functor functor] else run.queueInLoop loop functor

def setDisconnecting : HandlerRun :=
  run.attach self ((run.server.attached self).setState .disconnecting)

def send (thread : Thread) (data : List UInt8) : HandlerRun :=
  if (run.server.conn self).isConnected then run.runInLoop thread (.sendInLoop self data) else run

def shutdown (thread : Thread) : HandlerRun :=
  if (run.server.conn self).state = .connected then
    (run.setDisconnecting self).runInLoop thread (.shutdownInLoop self)
  else run

def forceClose (thread : Thread) : HandlerRun :=
  if (run.server.conn self).state = .connected ∨ (run.server.conn self).state = .disconnecting then
    (run.setDisconnecting self).runInLoop thread (.forceCloseInLoop self)
  else run

/-- `HandleNewConnection`. Its own pointer matters only where it calls `ConnectEstablished`
itself: elsewhere the table, which nobody else changes meanwhile, has the connection too. -/
def handleNewConnection (fd : Nat) : HandlerRun :=
  let self := run.server.created
  let added := run.withServer (run.server.addConnection fd)
  if run.server.nextLoop = 0 then
    added.call 0 [.functor (.connectEstablished self), .release self]
  else added.queueInLoop run.server.nextLoop (.connectEstablished self)

/-- The constructor of a client's connection. -/
def construct (socketFd : SocketType) : HandlerRun :=
  let entry : ServerConnection :=
    { loop := 0
      conn := .ofSocket socketFd
      callbacks := []
      closeCallbacks := 0
      destroyed := false }
  run.withServer
    { run.server.withEntry run.server.created entry with created := run.server.created + 1 }

/-- `Connect`. The `bool` that `Socket::Connect` returns is compared with 0, so that
`HandleConnect` runs when it fails; it never equals `kConnectInProgress`. -/
def connect (side : ClientSide) (fd : Nat) (result : ConnectResult) : HandlerRun :=
  let socketFd : SocketType := if result = .noSocket then invalidSocket else fd
  if side.started then { run with client := some side }
  else if Socket.connect socketFd result then
    { run with client := some { side with connecting := false, started := false } }
  else
    let opened := { side with started := true, connecting := false }
    { run.construct socketFd with
      client := some { opened with connection := some run.server.created } }.call 0
        [.functor (.connectEstablished run.server.created), .release run.server.created]

/-- `DoReconnect`, when its timer expires. -/
def doReconnect (side : ClientSide) (fd : Nat) (result : ConnectResult) : HandlerRun :=
  let expired := { side with timers := side.timers - 1 }
  let connected := side.connection.any fun self => (run.server.conn self).isConnected
  if side.started ∧ ¬ side.connecting ∧ ¬ connected then run.connect expired fd result
  else { run with client := some expired }

/-- `Disconnect`. -/
def disconnect (side : ClientSide) (thread : Thread) : HandlerRun :=
  let stopped :=
    { run with client := some { side with autoReconnect := false, started := false } }
  match side.connection with
  | none => stopped
  | some self => stopped.shutdown self thread

/-! ### The destructor of the server or the client -/

/-- The connections that the destructor closes. With one loop each `ForceClose` erases an
entry of the table that the source iterates over; the model goes on with this list. -/
def found : List ConnId :=
  match run.client with
  | none => run.server.connections.entries.map fun slot => slot.2
  | some side => side.connection.toList

/-- `ForceClose` of the next connection. The server's destructor has a copy of the pointer,
which matters only where the call is inline. -/
def closeNext (remaining : List ConnId) : HandlerRun :=
  let closing := { run with teardown := .closing remaining }
  if run.client = none ∧ run.server.loopOf self = 0 then
    (closing.call 0 [.release self]).forceClose self (some 0)
  else closing.forceClose self (some 0)

/-- `Quit` of a sub loop. -/
def quit (loop : LoopId) : HandlerRun :=
  { run with teardown := .quitting (loop + 1), quits := Function.update run.quits loop true }

/-- The end of the destructor: the table or the member goes, and so do the sub loops with
their queues. -/
def finishDestructor : HandlerRun :=
  { run with
    server :=
      { run.server with
        connections := ∅
        pending := fun loop => if loop = 0 then run.server.pending 0 else [] }
    client := run.client.map fun (side : ClientSide) => { side with connection := none }
    teardown := .destroyed }

/-! ### What is possible -/

/-- `Poll` may report the channel: the poller knows it, and it asks for the event. -/
def canPoll (ready : ReadyChannel) : Bool :=
  ready.conn < run.server.created ∧
    (run.server.pollers loop).lookup (run.server.conn ready.conn).channel.fd = some ready.conn ∧
    (ready.readable → (run.server.conn ready.conn).channel.reading) ∧
    (ready.writable → (run.server.conn ready.conn).channel.writing)

/-- What the kernel can answer to a `read`; a closed socket has no number to read from. -/
def canRead (read : ReadResult) : Bool :=
  (run.server.conn self).socketFd = invalidSocket → read = .failed

/-- The destructor is running, on the main loop's thread. -/
def isDestructing : Bool := run.teardown ≠ .alive ∧ run.teardown ≠ .destroyed

/-- The loop's thread is between two handlers, functors or timers. -/
def isFree : Bool :=
  loop < run.server.threadNum + 1 ∧ run.stack loop = [] ∧ run.stage loop ≠ .stopped ∧
    (loop = 0 → run.isDestructing = false)

/-- The sub loops have left `Loop()`, and their threads are joined. -/
def areJoined : Bool :=
  ∀ loop < run.server.threadNum + 1, 0 < loop → run.stage loop = .stopped ∧ run.stack loop = []

/-- The argument of the topmost function, when that is the user's. -/
def argument : Option ConnId :=
  match run.stack loop with
  | .callback self _ :: _ => some self
  | _ => none

/-- The thread may run code of the user's: a callback, or functors, timers and channels of
the program's own between those of the connections. -/
def mayRun : Thread → Bool
  | none => true
  | some loop => run.isFree loop || (run.argument loop).isSome

/-- The user's code on the thread can reach the connection, and its loop exists. -/
def mayUse (thread : Thread) : Bool :=
  run.mayRun thread ∧ (run.teardown = .destroyed → run.server.loopOf self = 0) ∧
    (0 < run.copies self ∨ run.isMember self ∨ ∃ loop ∈ thread, run.argument loop = some self)

end HandlerRun

inductive HandlerEvent where
  | poll (loop : LoopId) (active : List ReadyChannel)
  | dispatch (loop : LoopId)
  | swapFunctors (loop : LoopId)
  | functor (loop : LoopId)
  | endBatch (loop : LoopId)
  | advance (loop : LoopId) (read : ReadResult) (write : WriteResult)
  /-- the topmost function, which is the user's, returns -/
  | returns (loop : LoopId)
  | accept (fd : Nat)
  | connect (fd : Nat) (result : ConnectResult)
  | reconnectTimer (fd : Nat) (result : ConnectResult)
  | disconnect (thread : HandlerRun.Thread)
  | setAutoReconnect (enable : Bool)
  | send (thread : HandlerRun.Thread) (self : ConnId) (data : List UInt8)
  | shutdown (thread : HandlerRun.Thread) (self : ConnId)
  | forceClose (thread : HandlerRun.Thread) (self : ConnId)
  | retain (thread : HandlerRun.Thread) (self : ConnId)
  | drop (thread : HandlerRun.Thread) (self : ConnId)
  | beginDestructor
  | closeNext
  | quit
  | finishDestructor

namespace HandlerRun

variable (run : HandlerRun)

/-- The step before the destructors. -/
def act : HandlerEvent → Option HandlerRun
  | .poll loop active =>
      if run.isFree loop ∧ run.stage loop = .polling ∧
          ∀ ready ∈ active, run.canPoll loop ready then
        some (run.setStage loop (.handling active))
      else none
  | .dispatch loop =>
      match run.stage loop with
      | .handling (ready :: active) =>
          if run.isFree loop then
            some ((run.setStage loop (.handling active)).call loop [.handleEvent ready])
          else none
      | _ => none
  | .swapFunctors loop =>
      if run.isFree loop ∧ run.stage loop = .handling [] then
        some <| (run.withServer
          { run.server with pending := Function.update run.server.pending loop [] }).setStage loop
            (.draining (run.server.pending loop) [])
      else none
  | .functor loop =>
      match run.stage loop with
      | .draining (functor :: functors) executed =>
          if run.isFree loop then
            some <| (run.setStage loop (.draining functors (executed ++ [functor]))).call loop
              [.functor functor]
          else none
      | _ => none
  | .endBatch loop =>
      match run.stage loop with
      | .draining [] _ =>
          if run.isFree loop then
            some (run.setStage loop (if run.quits loop then .stopped else .polling))
          else none
      | _ => none
  | .advance loop read write =>
      match run.stack loop with
      | [] | .callback _ _ :: _ => none
      | frame :: _ =>
          if (frame.touchesConnection → run.isOwned frame.conn) ∧
              (frame.touchesComponent → run.teardown ≠ .destroyed) ∧
              run.canRead frame.conn read ∧ run.server.canAnswer frame.conn write then
            some (run.runFrame loop read write frame)
          else none
  | .returns loop =>
      match run.stack loop with
      | .callback _ _ :: _ => some (run.goOn loop [])
      | _ => none
  | .accept fd =>
      match run.client, run.stage 0 with
      | none, .handling _ =>
          if run.isFree 0 ∧ run.teardown = .alive ∧ run.server.isFree fd then
            some (run.handleNewConnection fd)
          else none
      | _, _ => none
  | .connect fd result =>
      match run.client with
      | some side =>
          if run.mayRun (some 0) ∧ run.teardown = .alive ∧ run.server.isFree fd then
            some (run.connect side fd result)
          else none
      | none => none
  | .reconnectTimer fd result =>
      match run.client with
      | some side =>
          if run.isFree 0 ∧ run.stage 0 = .polling ∧ run.teardown = .alive ∧ 0 < side.timers ∧
              run.server.isFree fd then
            some (run.doReconnect side fd result)
          else none
      | none => none
  | .disconnect thread =>
      match run.client with
      | some side =>
          if run.mayRun thread ∧ run.teardown = .alive then some (run.disconnect side thread)
          else none
      | none => none
  | .setAutoReconnect enable =>
      match run.client with
      | some side => some { run with client := some { side with autoReconnect := enable } }
      | none => none
  | .send thread self data =>
      if run.mayUse self thread then some (run.send self thread data) else none
  | .shutdown thread self =>
      if run.mayUse self thread then some (run.shutdown self thread) else none
  | .forceClose thread self =>
      if run.mayUse self thread then some (run.forceClose self thread) else none
  | .retain thread self =>
      if run.mayUse self thread then some (run.setCopies self (run.copies self + 1)) else none
  | .drop thread self =>
      if run.mayRun thread ∧ 0 < run.copies self then
        some (run.setCopies self (run.copies self - 1))
      else none
  | .beginDestructor =>
      if run.isFree 0 ∧ run.teardown = .alive then
        some { run with teardown := .closing run.found }
      else none
  | .closeNext =>
      match run.teardown with
      | .closing (self :: remaining) =>
          if run.stack 0 = [] ∧ run.isOwned self then some (run.closeNext self remaining) else none
      | _ => none
  | .quit =>
      match run.teardown with
      | .closing [] =>
          if run.stack 0 = [] ∧ 0 < run.server.threadNum then some (run.quit 1) else none
      | .quitting loop =>
          if loop < run.server.threadNum + 1 ∧ run.stage (loop - 1) = .stopped then
            some (run.quit loop)
          else none
      | _ => none
  | .finishDestructor =>
      let closed := run.teardown = .closing [] ∧ run.server.threadNum = 0
      if (closed ∨ run.teardown = .quitting (run.server.threadNum + 1)) ∧ run.stack 0 = [] ∧
          run.areJoined then
        some run.finishDestructor
      else none

/-- What the step of an event can be. -/
inductive Acts (run : HandlerRun) : HandlerEvent → HandlerRun → Prop where
  | poll (loop : LoopId) (active : List ReadyChannel) (free : run.isFree loop = true)
      (polling : run.stage loop = .polling)
      (reported : ∀ ready ∈ active, run.canPoll loop ready = true) :
      Acts run (.poll loop active) (run.setStage loop (.handling active))
  | dispatch (loop : LoopId) (ready : ReadyChannel) (active : List ReadyChannel)
      (free : run.isFree loop = true) (handling : run.stage loop = .handling (ready :: active)) :
      Acts run (.dispatch loop)
        ((run.setStage loop (.handling active)).call loop [.handleEvent ready])
  | swapFunctors (loop : LoopId) (free : run.isFree loop = true)
      (handled : run.stage loop = .handling []) :
      Acts run (.swapFunctors loop)
        ((run.withServer
          { run.server with pending := Function.update run.server.pending loop [] }).setStage loop
            (.draining (run.server.pending loop) []))
  | functor (loop : LoopId) (functor : ServerFunctor) (functors executed : List ServerFunctor)
      (free : run.isFree loop = true)
      (draining : run.stage loop = .draining (functor :: functors) executed) :
      Acts run (.functor loop)
        ((run.setStage loop (.draining functors (executed ++ [functor]))).call loop
          [.functor functor])
  | endBatch (loop : LoopId) (executed : List ServerFunctor) (free : run.isFree loop = true)
      (drained : run.stage loop = .draining [] executed) :
      Acts run (.endBatch loop)
        (run.setStage loop (if run.quits loop then .stopped else .polling))
  | advance (loop : LoopId) (read : ReadResult) (write : WriteResult) (frame : Frame)
      (rest : List Frame) (top : run.stack loop = frame :: rest)
      (notCallback : ∀ self kind, frame ≠ .callback self kind)
      (reaches : frame.touchesConnection → run.isOwned frame.conn)
      (stands : frame.touchesComponent → run.teardown ≠ .destroyed)
      (readable : run.canRead frame.conn read)
      (answered : run.server.canAnswer frame.conn write) :
      Acts run (.advance loop read write) (run.runFrame loop read write frame)
  | returns (loop : LoopId) (self : ConnId) (kind : CallbackKind) (rest : List Frame)
      (top : run.stack loop = .callback self kind :: rest) :
      Acts run (.returns loop) (run.goOn loop [])
  | accept (fd : Nat) (active : List ReadyChannel) (server : run.client = none)
      (handling : run.stage 0 = .handling active) (free : run.isFree 0 = true)
      (alive : run.teardown = .alive) (unused : run.server.isFree fd = true) :
      Acts run (.accept fd) (run.handleNewConnection fd)
  | connect (fd : Nat) (result : ConnectResult) (side : ClientSide)
      (client : run.client = some side) (may : run.mayRun (some 0) = true)
      (alive : run.teardown = .alive) (unused : run.server.isFree fd = true) :
      Acts run (.connect fd result) (run.connect side fd result)
  | reconnectTimer (fd : Nat) (result : ConnectResult) (side : ClientSide)
      (client : run.client = some side) (free : run.isFree 0 = true)
      (polling : run.stage 0 = .polling) (alive : run.teardown = .alive)
      (armed : 0 < side.timers) (unused : run.server.isFree fd = true) :
      Acts run (.reconnectTimer fd result) (run.doReconnect side fd result)
  | disconnect (thread : Thread) (side : ClientSide) (client : run.client = some side)
      (may : run.mayRun thread = true) (alive : run.teardown = .alive) :
      Acts run (.disconnect thread) (run.disconnect side thread)
  | setAutoReconnect (enable : Bool) (side : ClientSide) (client : run.client = some side) :
      Acts run (.setAutoReconnect enable)
        { run with client := some { side with autoReconnect := enable } }
  | send (thread : Thread) (self : ConnId) (data : List UInt8)
      (may : run.mayUse self thread = true) :
      Acts run (.send thread self data) (run.send self thread data)
  | shutdown (thread : Thread) (self : ConnId) (may : run.mayUse self thread = true) :
      Acts run (.shutdown thread self) (run.shutdown self thread)
  | forceClose (thread : Thread) (self : ConnId) (may : run.mayUse self thread = true) :
      Acts run (.forceClose thread self) (run.forceClose self thread)
  | retain (thread : Thread) (self : ConnId) (may : run.mayUse self thread = true) :
      Acts run (.retain thread self) (run.setCopies self (run.copies self + 1))
  | drop (thread : Thread) (self : ConnId) (may : run.mayRun thread = true)
      (kept : 0 < run.copies self) :
      Acts run (.drop thread self) (run.setCopies self (run.copies self - 1))
  | beginDestructor (free : run.isFree 0 = true) (alive : run.teardown = .alive) :
      Acts run .beginDestructor { run with teardown := .closing run.found }
  | closeNext (self : ConnId) (remaining : List ConnId)
      (closing : run.teardown = .closing (self :: remaining)) (idle : run.stack 0 = [])
      (owned : run.isOwned self = true) :
      Acts run .closeNext (run.closeNext self remaining)
  | quit (loop : LoopId) (next : loop < run.server.threadNum + 1)
      (reached : run.teardown = .closing [] ∧ run.stack 0 = [] ∧ loop = 1 ∨
        run.teardown = .quitting loop ∧ run.stage (loop - 1) = .stopped) :
      Acts run .quit (run.quit loop)
  | finishDestructor
      (reached : run.teardown = .closing [] ∧ run.server.threadNum = 0 ∨
        run.teardown = .quitting (run.server.threadNum + 1))
      (idle : run.stack 0 = []) (joined : run.areJoined = true) :
      Acts run .finishDestructor run.finishDestructor

variable {run} in
theorem act_cases {next : HandlerRun} {event : HandlerEvent}
    (possible : run.act event = some next) : run.Acts event next := by
  cases event with
  | poll loop active =>
      simp only [act, Option.ite_none_right_eq_some, Option.some.injEq] at possible
      obtain ⟨⟨free, polling, reported⟩, rfl⟩ := possible
      exact .poll loop active free polling reported
  | dispatch loop =>
      simp only [act] at possible
      split at possible
      · next ready active handling =>
          simp only [Option.ite_none_right_eq_some, Option.some.injEq] at possible
          obtain ⟨free, rfl⟩ := possible
          exact .dispatch loop ready active free handling
      · cases possible
  | swapFunctors loop =>
      simp only [act, Option.ite_none_right_eq_some, Option.some.injEq] at possible
      obtain ⟨⟨free, handled⟩, rfl⟩ := possible
      exact .swapFunctors loop free handled
  | functor loop =>
      simp only [act] at possible
      split at possible
      · next functor functors executed draining =>
          simp only [Option.ite_none_right_eq_some, Option.some.injEq] at possible
          obtain ⟨free, rfl⟩ := possible
          exact .functor loop functor functors executed free draining
      · cases possible
  | endBatch loop =>
      simp only [act] at possible
      split at possible
      · next executed drained =>
          simp only [Option.ite_none_right_eq_some, Option.some.injEq] at possible
          obtain ⟨free, rfl⟩ := possible
          exact .endBatch loop executed free drained
      · cases possible
  | advance loop read write =>
      simp only [act] at possible
      split at possible
      · cases possible
      · cases possible
      · next frame rest notCallback top =>
          simp only [Option.ite_none_right_eq_some, Option.some.injEq] at possible
          obtain ⟨⟨reaches, stands, readable, answered⟩, rfl⟩ := possible
          exact .advance loop read write frame rest top notCallback reaches stands readable answered
  | returns loop =>
      simp only [act] at possible
      split at possible
      · next self kind rest top =>
          cases possible
          exact .returns loop self kind rest top
      · cases possible
  | accept fd =>
      simp only [act] at possible
      split at possible
      · next active server handling =>
          simp only [Option.ite_none_right_eq_some, Option.some.injEq] at possible
          obtain ⟨⟨free, alive, unused⟩, rfl⟩ := possible
          exact .accept fd active server handling free alive unused
      · cases possible
  | connect fd result =>
      simp only [act] at possible
      split at possible
      · next side client =>
          simp only [Option.ite_none_right_eq_some, Option.some.injEq] at possible
          obtain ⟨⟨may, alive, unused⟩, rfl⟩ := possible
          exact .connect fd result side client may alive unused
      · cases possible
  | reconnectTimer fd result =>
      simp only [act] at possible
      split at possible
      · next side client =>
          simp only [Option.ite_none_right_eq_some, Option.some.injEq] at possible
          obtain ⟨⟨free, polling, alive, armed, unused⟩, rfl⟩ := possible
          exact .reconnectTimer fd result side client free polling alive armed unused
      · cases possible
  | disconnect thread =>
      simp only [act] at possible
      split at possible
      · next side client =>
          simp only [Option.ite_none_right_eq_some, Option.some.injEq] at possible
          obtain ⟨⟨may, alive⟩, rfl⟩ := possible
          exact .disconnect thread side client may alive
      · cases possible
  | setAutoReconnect enable =>
      simp only [act] at possible
      split at possible
      · next side client =>
          cases possible
          exact .setAutoReconnect enable side client
      · cases possible
  | send thread self data =>
      simp only [act, Option.ite_none_right_eq_some, Option.some.injEq] at possible
      obtain ⟨may, rfl⟩ := possible
      exact .send thread self data may
  | shutdown thread self =>
      simp only [act, Option.ite_none_right_eq_some, Option.some.injEq] at possible
      obtain ⟨may, rfl⟩ := possible
      exact .shutdown thread self may
  | forceClose thread self =>
      simp only [act, Option.ite_none_right_eq_some, Option.some.injEq] at possible
      obtain ⟨may, rfl⟩ := possible
      exact .forceClose thread self may
  | retain thread self =>
      simp only [act, Option.ite_none_right_eq_some, Option.some.injEq] at possible
      obtain ⟨may, rfl⟩ := possible
      exact .retain thread self may
  | drop thread self =>
      simp only [act, Option.ite_none_right_eq_some, Option.some.injEq] at possible
      obtain ⟨⟨may, kept⟩, rfl⟩ := possible
      exact .drop thread self may kept
  | beginDestructor =>
      simp only [act, Option.ite_none_right_eq_some, Option.some.injEq] at possible
      obtain ⟨⟨free, alive⟩, rfl⟩ := possible
      exact .beginDestructor free alive
  | closeNext =>
      simp only [act] at possible
      split at possible
      · next self remaining closing =>
          simp only [Option.ite_none_right_eq_some, Option.some.injEq] at possible
          obtain ⟨⟨idle, owned⟩, rfl⟩ := possible
          exact .closeNext self remaining closing idle owned
      · cases possible
  | quit =>
      simp only [act] at possible
      split at possible
      · next closing =>
          simp only [Option.ite_none_right_eq_some, Option.some.injEq] at possible
          obtain ⟨⟨idle, several⟩, rfl⟩ := possible
          exact .quit 1 (Nat.succ_lt_succ several) (.inl ⟨closing, idle, rfl⟩)
      · next loop quitting =>
          simp only [Option.ite_none_right_eq_some, Option.some.injEq] at possible
          obtain ⟨⟨next, stopped⟩, rfl⟩ := possible
          exact .quit loop next (.inr ⟨quitting, stopped⟩)
      · cases possible
  | finishDestructor =>
      simp only [act, Option.ite_none_right_eq_some, Option.some.injEq] at possible
      obtain ⟨⟨reached, idle, joined⟩, rfl⟩ := possible
      exact .finishDestructor reached idle joined

end HandlerRun

/-- The machine: the last owner of a connection destroys it. -/
def handlerMachine : Machine HandlerRun HandlerEvent :=
  ⟨fun run event => (run.act event).map HandlerRun.collect⟩

end TurboCore.Net
