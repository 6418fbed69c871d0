import Mathlib
import TurboCore.Foundation.Execution
import TurboCore.Net.TcpConnection

/-!
# The server and its loops

Connections, the table of the main loop, and one poller and one functor queue per loop.
A handler or a functor is one step, but for `HandleClose`: its socket is closed in a step
of its own, since the close callback before it hands the connection to another thread.
-/

namespace TurboCore.Net

open Foundation

/-- Loop 0 is the main loop, loop `i + 1` the sub loop `i`. -/
abbrev LoopId := Nat

/-- What the user's callbacks see. -/
inductive UserCallback where
  | connection (isConnected : Bool)
  | message
deriving DecidableEq

/-- A connection with its loop, and a record of its callbacks. -/
structure ServerConnection where
  loop : LoopId
  conn : TcpConnection
  callbacks : List UserCallback
  closeCallbacks : Nat
  destroyed : Bool

/-- The lambdas that are queued, by the connection they captured. -/
inductive ServerFunctor where
  | connectEstablished (self : ConnId)
  | removeConnection (self : ConnId)
  | connectDestroyed (self : ConnId)
  | sendInLoop (self : ConnId) (data : List UInt8)
  | shutdownInLoop (self : ConnId)
  | forceCloseInLoop (self : ConnId)
deriving DecidableEq

def ServerFunctor.conn : ServerFunctor → ConnId
  | connectEstablished self | removeConnection self | connectDestroyed self
  | sendInLoop self _ | shutdownInLoop self | forceCloseInLoop self => self

/-- The server. `entry` is meaningful below `created`; `closing` is the connection whose
`HandleClose` has called the close callback and not yet closed the socket; `erased` lists
the connections whose table entries were erased. A failed assertion is recorded and the
code goes on, as it does under `NDEBUG`. -/
structure TcpServer where
  threadNum : Nat
  nextLoopIdx : Nat
  created : Nat
  entry : ConnId → ServerConnection
  connections : FiniteMap SocketType ConnId
  pollers : LoopId → EpollPoller
  pending : LoopId → List ServerFunctor
  closing : LoopId → Option ConnId
  erased : List ConnId
  assertionsHold : Bool

inductive ServerEvent where
  | accept (fd : Nat)
  | functor (loop : LoopId)
  | readable (self : ConnId)
  | readClosed (self : ConnId)
  | writable (self : ConnId) (result : WriteResult)
  | errorEvent (self : ConnId)
  | finishClose (loop : LoopId)
  | send (self : ConnId) (inLoop : Bool) (data : List UInt8)
  | shutdown (self : ConnId) (inLoop : Bool)
  | forceClose (self : ConnId) (inLoop : Bool)
  | destroy (self : ConnId)

namespace TcpServer

/-- A slot of the connection store that nothing was constructed in. -/
def unused : ServerConnection where
  loop := 0
  conn := { TcpConnection.ofSocket invalidSocket with state := .disconnected }
  callbacks := []
  closeCallbacks := 0
  destroyed := true

/-- A started server. -/
def start (threadNum : Nat) : TcpServer where
  threadNum := threadNum
  nextLoopIdx := 0
  created := 0
  entry _ := unused
  connections := ∅
  pollers _ := ∅
  pending _ := []
  closing _ := none
  erased := []
  assertionsHold := true

variable (server : TcpServer) (self : ConnId)

def loopOf : LoopId := (server.entry self).loop

def conn : TcpConnection := (server.entry self).conn

/-- The connection with the poller of its loop. -/
def attached : Attached := ⟨server.conn self, server.pollers (server.loopOf self)⟩

@[simps]
def withEntry (entry : ServerConnection) : TcpServer :=
  { server with entry := Function.update server.entry self entry }

@[simps!]
def setAttached (attached : Attached) : TcpServer :=
  { server.withEntry self { server.entry self with conn := attached.conn } with
    pollers := Function.update server.pollers (server.loopOf self) attached.poller }

/-- Record a callback of the user's. -/
@[simps!]
def callBack (callback : UserCallback) : TcpServer :=
  let entry := server.entry self
  server.withEntry self { entry with callbacks := entry.callbacks ++ [callback] }

/-- Record a call of the close callback. -/
@[simps!]
def countClose : TcpServer :=
  let entry := server.entry self
  server.withEntry self { entry with closeCallbacks := entry.closeCallbacks + 1 }

@[simps]
def queueInLoop (loop : LoopId) (functor : ServerFunctor) : TcpServer :=
  { server with
    pending := Function.update server.pending loop (server.pending loop ++ [functor]) }

/-- Take the first functor of a loop off its queue. -/
@[simps]
def unqueue (loop : LoopId) : TcpServer :=
  { server with pending := Function.update server.pending loop (server.pending loop).tail }

/-- Mark whether the loop's thread is between a close callback and the end of its handler. -/
@[simps]
def setClosing (loop : LoopId) (closing : Option ConnId) : TcpServer :=
  { server with closing := Function.update server.closing loop closing }

/-- `ConnectEstablished`; the callback sees a connected connection. -/
def connectEstablished : TcpServer :=
  (server.setAttached self ((server.attached self).connectEstablished self)).callBack self
    (.connection true)

def connectDestroyed : TcpServer :=
  server.setAttached self ((server.attached self).connectDestroyed self)

/-- `m_connections.erase(fd)`, with the assertion that it erased one entry. -/
@[simps]
def eraseConnection (fd : SocketType) : TcpServer :=
  { server with
    connections := server.connections.erase fd
    erased := server.erased ++ (server.connections.lookup fd).toList
    assertionsHold := server.assertionsHold && (server.connections.lookup fd).isSome }

/-- The lambda of `HandleRemoveConnection`, on the main loop. -/
def removeInLoop : TcpServer :=
  let removed := server.eraseConnection (server.conn self).socketFd
  if server.loopOf self = 0 then removed.connectDestroyed self
  else removed.queueInLoop (server.loopOf self) (.connectDestroyed self)

/-- The close callback, which is `HandleRemoveConnection`, on the connection's loop. -/
def handleRemoveConnection : TcpServer :=
  let counted := server.countClose self
  if server.loopOf self = 0 then counted.removeInLoop self
  else counted.queueInLoop 0 (.removeConnection self)

/-- `HandleClose` up to `m_socket.Close()`. -/
def handleClose : TcpServer :=
  if (server.conn self).state = .disconnected then server
  else
    (server.setAttached self ((server.attached self).beginHandleClose self))
      |>.handleRemoveConnection self
      |>.setClosing (server.loopOf self) (some self)

/-- The end of `HandleClose`. -/
def finishClose (loop : LoopId) : TcpServer :=
  (server.setAttached self (server.attached self).closeSocket).setClosing loop none

def forceCloseInLoop : TcpServer :=
  if (server.conn self).state = .connected ∨ (server.conn self).state = .disconnecting then
    (server.setAttached self ((server.attached self).beginForceClose self))
      |>.handleRemoveConnection self
  else server

def sendInLoop (data : List UInt8) : TcpServer :=
  server.setAttached self ((server.attached self).sendInLoop self data)

def shutdownInLoop : TcpServer :=
  server.setAttached self ((server.attached self).shutdownInLoop self)

def handleWrite (result : WriteResult) : TcpServer :=
  let effect := (server.attached self).handleWrite self result
  let written := server.setAttached self effect.after
  if effect.closes then written.handleClose self else written

def runFunctor : ServerFunctor → TcpServer
  | .connectEstablished self => server.connectEstablished self
  | .removeConnection self => server.removeInLoop self
  | .connectDestroyed self => server.connectDestroyed self
  | .sendInLoop self data => server.sendInLoop self data
  | .shutdownInLoop self => server.shutdownInLoop self
  | .forceCloseInLoop self => server.forceCloseInLoop self

/-- `m_loop->RunInLoop(functor)`, called on the connection's loop or on another thread. -/
def runInLoop (inLoop : Bool) (functor : ServerFunctor) : TcpServer :=
  if inLoop then server.runFunctor functor
  else server.queueInLoop (server.loopOf self) functor

def send (inLoop : Bool) (data : List UInt8) : TcpServer :=
  if (server.conn self).isConnected then server.runInLoop self inLoop (.sendInLoop self data)
  else server

def shutdown (inLoop : Bool) : TcpServer :=
  if (server.conn self).state = .connected then
    (server.setAttached self ((server.attached self).setState .disconnecting))
      |>.runInLoop self inLoop (.shutdownInLoop self)
  else server

def forceClose (inLoop : Bool) : TcpServer :=
  if (server.conn self).state = .connected ∨ (server.conn self).state = .disconnecting then
    (server.setAttached self ((server.attached self).setState .disconnecting))
      |>.runInLoop self inLoop (.forceCloseInLoop self)
  else server

/-- `NextLoop`; the index is a `size_t`. -/
def nextLoop : LoopId :=
  if server.threadNum = 0 then 0 else server.nextLoopIdx % server.threadNum + 1

/-- `HandleNewConnection` up to the entry in the table. -/
@[simps!]
def addConnection (fd : Nat) : TcpServer :=
  let entry : ServerConnection :=
    { loop := server.nextLoop
      conn := .ofSocket fd
      callbacks := []
      closeCallbacks := 0
      destroyed := false }
  { server.withEntry server.created entry with
    nextLoopIdx :=
      if server.threadNum = 0 then server.nextLoopIdx else (server.nextLoopIdx + 1) % 2 ^ 64
    created := server.created + 1
    connections := server.connections.insert fd server.created }

/-- `HandleNewConnection`. -/
def handleNewConnection (fd : Nat) : TcpServer :=
  let self := server.created
  let loop := server.nextLoop
  if loop = 0 then (server.addConnection fd).connectEstablished self
  else (server.addConnection fd).queueInLoop loop (.connectEstablished self)

@[simps!]
def markDestroyed : TcpServer :=
  server.withEntry self { server.entry self with destroyed := true }

/-- `~TcpConnection`: `~Channel` drops the events it still has, `~Socket` closes the fd. -/
def destroy : TcpServer :=
  let attached := server.attached self
  let silenced := if attached.conn.channel.hasNoEvents then attached else attached.disableAll self
  (server.setAttached self silenced.closeSocket).markDestroyed self

/-- No open socket holds the number, so the kernel may hand it out. -/
def isFree (fd : Nat) : Bool := ∀ self < server.created, (server.conn self).socketFd ≠ fd

/-- The poller of the connection's loop would hand an event on its fd to its channel. -/
def isRegistered : Bool :=
  self < server.created ∧
    (server.pollers (server.loopOf self)).lookup (server.conn self).channel.fd = some self

/-- No handler of the loop stands between its close callback and the end. -/
def isIdle (loop : LoopId) : Bool := (server.closing loop).isNone

/-- The table, a functor or a running handler refers to the connection. The functors of `Send`,
`Shutdown` and `ForceClose` capture a bare `this` and own nothing; they count here as owners, so
no connection goes away under a functor that is still to run. -/
def isReferenced : Bool :=
  (∃ slot ∈ server.connections.entries, slot.2 = self) ∨
    ∃ loop < server.threadNum + 1,
      server.closing loop = some self ∨ ∃ functor ∈ server.pending loop, functor.conn = self

/-- A thread may call the connection: it exists, and the loop's thread is not in a handler. -/
def mayCall (inLoop : Bool) : Bool :=
  self < server.created ∧ (server.entry self).destroyed = false ∧
    (inLoop → server.isIdle (server.loopOf self))

/-- What the kernel can answer to a `write` of the readable bytes. -/
def canAnswer : WriteResult → Bool
  | .wrote count => 0 < count ∧ count ≤ (server.conn self).outputBuffer.readableBytes
  | .wouldBlock | .failed => true

/-! ### Connections and loops after the updates -/

section Views

variable (other : ConnId)

variable {server} in
/-- A queue holds what it held, and at its end what is put into it. -/
theorem mem_pending_queueInLoop {loop target : LoopId} {functor queued : ServerFunctor}
    (member : queued ∈ (server.queueInLoop loop functor).pending target) :
    queued ∈ server.pending target ∨ target = loop ∧ queued = functor := by
  rw [queueInLoop_pending, Function.update_apply] at member
  split at member
  · next same =>
      subst same
      rcases List.mem_append.mp member with earlier | last
      · exact .inl earlier
      · exact .inr ⟨rfl, List.mem_singleton.mp last⟩
  · exact .inl member

theorem conn_withEntry (entry : ServerConnection) :
    (server.withEntry self entry).conn other =
      if other = self then entry.conn else server.conn other := by
  simp only [conn, withEntry_entry, Function.update_apply]
  split <;> rfl

theorem loopOf_withEntry (entry : ServerConnection) :
    (server.withEntry self entry).loopOf other =
      if other = self then entry.loop else server.loopOf other := by
  simp only [loopOf, withEntry_entry, Function.update_apply]
  split <;> rfl

/-- A new entry around the same connection does not change it. -/
theorem conn_withEntry_of_conn {entry : ServerConnection} (same : entry.conn = server.conn self) :
    (server.withEntry self entry).conn other = server.conn other := by
  rw [conn_withEntry, same]
  split
  · next self_eq => rw [self_eq]
  · rfl

/-- A connection stays on its loop. -/
theorem loopOf_withEntry_of_loop {entry : ServerConnection}
    (same : entry.loop = server.loopOf self) :
    (server.withEntry self entry).loopOf other = server.loopOf other := by
  rw [loopOf_withEntry, same]
  split
  · next self_eq => rw [self_eq]
  · rfl

@[simp] theorem conn_setAttached (attached : Attached) :
    (server.setAttached self attached).conn other =
      if other = self then attached.conn else server.conn other :=
  server.conn_withEntry self other _

theorem conn_setAttached_self (attached : Attached) :
    (server.setAttached self attached).conn self = attached.conn := by
  simp

variable {server self other} in
theorem conn_setAttached_of_ne {attached : Attached} (different : other ≠ self) :
    (server.setAttached self attached).conn other = server.conn other := by
  simp [different]

@[simp] theorem loopOf_setAttached (attached : Attached) :
    (server.setAttached self attached).loopOf other = server.loopOf other := by
  apply loopOf_withEntry_of_loop
  rfl

@[simp] theorem conn_callBack (callback : UserCallback) :
    (server.callBack self callback).conn other = server.conn other := by
  apply conn_withEntry_of_conn
  rfl

@[simp] theorem loopOf_callBack (callback : UserCallback) :
    (server.callBack self callback).loopOf other = server.loopOf other := by
  apply loopOf_withEntry_of_loop
  rfl

@[simp] theorem conn_countClose : (server.countClose self).conn other = server.conn other := by
  apply conn_withEntry_of_conn
  rfl

@[simp] theorem loopOf_countClose :
    (server.countClose self).loopOf other = server.loopOf other := by
  apply loopOf_withEntry_of_loop
  rfl

@[simp] theorem conn_markDestroyed :
    (server.markDestroyed self).conn other = server.conn other := by
  apply conn_withEntry_of_conn
  rfl

@[simp] theorem loopOf_markDestroyed :
    (server.markDestroyed self).loopOf other = server.loopOf other := by
  apply loopOf_withEntry_of_loop
  rfl

@[simp] theorem conn_addConnection (fd : Nat) :
    (server.addConnection fd).conn other =
      if other = server.created then .ofSocket fd else server.conn other :=
  server.conn_withEntry server.created other _

@[simp] theorem loopOf_addConnection (fd : Nat) :
    (server.addConnection fd).loopOf other =
      if other = server.created then server.nextLoop else server.loopOf other :=
  server.loopOf_withEntry server.created other _

@[simp] theorem conn_queueInLoop (loop : LoopId) (functor : ServerFunctor) :
    (server.queueInLoop loop functor).conn other = server.conn other := rfl

@[simp] theorem loopOf_queueInLoop (loop : LoopId) (functor : ServerFunctor) :
    (server.queueInLoop loop functor).loopOf other = server.loopOf other := rfl

@[simp] theorem conn_unqueue (loop : LoopId) :
    (server.unqueue loop).conn other = server.conn other := rfl

@[simp] theorem loopOf_unqueue (loop : LoopId) :
    (server.unqueue loop).loopOf other = server.loopOf other := rfl

@[simp] theorem conn_setClosing (loop : LoopId) (closing : Option ConnId) :
    (server.setClosing loop closing).conn other = server.conn other := rfl

@[simp] theorem loopOf_setClosing (loop : LoopId) (closing : Option ConnId) :
    (server.setClosing loop closing).loopOf other = server.loopOf other := rfl

@[simp] theorem conn_eraseConnection (fd : SocketType) :
    (server.eraseConnection fd).conn other = server.conn other := rfl

@[simp] theorem loopOf_eraseConnection (fd : SocketType) :
    (server.eraseConnection fd).loopOf other = server.loopOf other := rfl

@[simp] theorem setAttached_attached : server.setAttached self (server.attached self) = server := by
  cases server
  simp [setAttached, withEntry, attached, conn, loopOf]

/-- `ConnectDestroyed` of a disconnected connection does nothing. -/
theorem connectDestroyed_of_disconnected (state : (server.conn self).state = .disconnected) :
    server.connectDestroyed self = server := by
  have idle : (server.attached self).connectDestroyed self = server.attached self := by
    simp [Attached.connectDestroyed, attached, state]
  rw [connectDestroyed, idle, setAttached_attached]

end Views

end TcpServer

open TcpServer in
/-- The server's machine. `readClosed` is a read of zero bytes or a failed read, and
`errorEvent` an error or a hang-up; the second `HandleClose` of an error does nothing. -/
def serverMachine : Machine TcpServer ServerEvent where
  step server
    | .accept fd =>
        if server.isIdle 0 ∧ server.isFree fd then some (server.handleNewConnection fd) else none
    | .functor loop =>
        match server.pending loop with
        | [] => none
        | functor :: _ =>
            if server.isIdle loop then some ((server.unqueue loop).runFunctor functor) else none
    | .readable self =>
        if server.isRegistered self ∧ server.isIdle (server.loopOf self) ∧
            (server.conn self).channel.reading then
          some (server.callBack self .message)
        else none
    | .readClosed self =>
        if server.isRegistered self ∧ server.isIdle (server.loopOf self) ∧
            (server.conn self).channel.reading then
          some (server.handleClose self)
        else none
    | .writable self result =>
        if server.isRegistered self ∧ server.isIdle (server.loopOf self) ∧
            (server.conn self).channel.writing ∧ server.canAnswer self result then
          some (server.handleWrite self result)
        else none
    | .errorEvent self =>
        if server.isRegistered self ∧ server.isIdle (server.loopOf self) then
          some (server.handleClose self)
        else none
    | .finishClose loop => (server.closing loop).map fun self => server.finishClose self loop
    | .send self inLoop data =>
        if server.mayCall self inLoop then some (server.send self inLoop data) else none
    | .shutdown self inLoop =>
        if server.mayCall self inLoop then some (server.shutdown self inLoop) else none
    | .forceClose self inLoop =>
        if server.mayCall self inLoop then some (server.forceClose self inLoop) else none
    | .destroy self =>
        if self < server.created ∧ (server.entry self).destroyed = false ∧
            (server.conn self).state = .disconnected ∧ server.isReferenced self = false then
          some (server.destroy self)
        else none

/-- An event of the connection reaches its channel. -/
structure TcpServer.Handles (server : TcpServer) (who : ConnId) : Prop where
  known : who < server.created
  registered : (server.pollers (server.loopOf who)).lookup (server.conn who).channel.fd = some who
  idle : server.isIdle (server.loopOf who) = true

/-- A thread calls the connection. -/
structure TcpServer.Called (server : TcpServer) (who : ConnId) (inLoop : Bool) : Prop where
  known : who < server.created
  alive : (server.entry who).destroyed = false
  idle : inLoop = true → server.isIdle (server.loopOf who) = true

/-- What each event does, and what it needs. -/
inductive ServerStep (server : TcpServer) : ServerEvent → TcpServer → Prop where
  | accept (fd : Nat) (idle : server.isIdle 0 = true) (free : server.isFree fd = true) :
      ServerStep server (.accept fd) (server.handleNewConnection fd)
  | functor (loop : LoopId) (functor : ServerFunctor) (rest : List ServerFunctor)
      (queue : server.pending loop = functor :: rest) (idle : server.isIdle loop = true) :
      ServerStep server (.functor loop) ((server.unqueue loop).runFunctor functor)
  | readable (self : ConnId) (handles : server.Handles self) :
      ServerStep server (.readable self) (server.callBack self .message)
  | readClosed (self : ConnId) (handles : server.Handles self) :
      ServerStep server (.readClosed self) (server.handleClose self)
  | writable (self : ConnId) (result : WriteResult) (handles : server.Handles self) :
      ServerStep server (.writable self result) (server.handleWrite self result)
  | errorEvent (self : ConnId) (handles : server.Handles self) :
      ServerStep server (.errorEvent self) (server.handleClose self)
  | finishClose (loop : LoopId) (self : ConnId) (running : server.closing loop = some self) :
      ServerStep server (.finishClose loop) (server.finishClose self loop)
  | send (self : ConnId) (inLoop : Bool) (data : List UInt8) (called : server.Called self inLoop) :
      ServerStep server (.send self inLoop data) (server.send self inLoop data)
  | shutdown (self : ConnId) (inLoop : Bool) (called : server.Called self inLoop) :
      ServerStep server (.shutdown self inLoop) (server.shutdown self inLoop)
  | forceClose (self : ConnId) (inLoop : Bool) (called : server.Called self inLoop) :
      ServerStep server (.forceClose self inLoop) (server.forceClose self inLoop)
  | destroy (self : ConnId) (known : self < server.created)
      (state : (server.conn self).state = .disconnected)
      (unreferenced : server.isReferenced self = false) :
      ServerStep server (.destroy self) (server.destroy self)

theorem serverStep_cases {server next : TcpServer} {event : ServerEvent}
    (transition : serverMachine.step server event = some next) :
    ServerStep server event next := by
  have handles : ∀ {self}, server.isRegistered self = true →
      server.isIdle (server.loopOf self) = true → server.Handles self := by
    intro self registered idle
    simp only [TcpServer.isRegistered, decide_eq_true_eq] at registered
    exact ⟨registered.1, registered.2, idle⟩
  have called : ∀ {self inLoop}, server.mayCall self inLoop = true →
      server.Called self inLoop := by
    intro self inLoop may
    simp only [TcpServer.mayCall, decide_eq_true_eq] at may
    exact ⟨may.1, may.2.1, may.2.2⟩
  cases event with
  | functor loop =>
      cases queue : server.pending loop with
      | nil => simp [serverMachine, queue] at transition
      | cons functor rest =>
          simp only [serverMachine, queue, Option.ite_none_right_eq_some,
            Option.some.injEq] at transition
          obtain ⟨idle, rfl⟩ := transition
          exact .functor loop functor rest queue idle
  | finishClose loop =>
      simp only [serverMachine, Option.map_eq_some_iff] at transition
      obtain ⟨self, running, rfl⟩ := transition
      exact .finishClose loop self running
  | _ =>
      simp only [serverMachine, Option.ite_none_right_eq_some, Option.some.injEq] at transition
      obtain ⟨condition, rfl⟩ := transition
      first
        | exact .accept _ condition.1 condition.2
        | exact .readable _ (handles condition.1 condition.2.1)
        | exact .readClosed _ (handles condition.1 condition.2.1)
        | exact .writable _ _ (handles condition.1 condition.2.1)
        | exact .errorEvent _ (handles condition.1 condition.2)
        | exact .send _ _ _ (called condition)
        | exact .shutdown _ _ (called condition)
        | exact .forceClose _ _ (called condition)
        | exact .destroy _ condition.1 condition.2.2.1 condition.2.2.2

end TurboCore.Net
