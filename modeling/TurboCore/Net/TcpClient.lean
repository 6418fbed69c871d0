import Mathlib
import TurboCore.Foundation.Execution
import TurboCore.Net.TcpConnection

/-!
# The client

`TcpClient` opens one socket at a time, hands it to a `TcpConnection` and reconnects by
timers. All its operations run on its loop, so every call, event and timer is one step;
the kernel's answers come with the labels.
-/

namespace TurboCore.Net

open Foundation

/-- What creating a socket and `connect(2)` on it come to. -/
inductive ConnectResult where
  | noSocket
  | succeeded
  | inProgress
  | failed
deriving DecidableEq

/-- `Socket::Connect`. -/
def Socket.connect (socketFd : SocketType) (result : ConnectResult) : Bool :=
  socketFd ≠ invalidSocket ∧ result = .succeeded

/-- `SocketUtils::kConnectInProgress`. -/
def SocketUtils.kConnectInProgress : Int := -1

/-- What becomes of an attempt: `HandleConnect` runs, it is reported as failed, or it waits
for its write event. The socket error is the one that the write event read. -/
inductive AttemptReport where
  | connected (result : ConnectResult) (socketError : Option Nat)
  | failed (result : ConnectResult) (socketError : Option Nat)
  | waits (result : ConnectResult)
deriving DecidableEq

/-- The connection that `m_connection` points to, and its channel's identity. -/
structure ClientConnection where
  id : ConnId
  conn : TcpConnection

/-- `TcpClient` and its loop's poller and timers. `watch` is the socket whose write event
the channel of an attempt awaits; `opened` counts the sockets opened, `reports` and
`missedReconnects` record what attempts and timers led to. -/
structure TcpClient where
  connecting : Bool
  started : Bool
  autoReconnect : Bool
  socket : Option SocketType
  connection : Option ClientConnection
  poller : EpollPoller
  watch : Option (SocketType × ConnectResult)
  timers : Nat
  opened : Nat
  reports : List AttemptReport
  missedReconnects : Nat

inductive ClientEvent where
  | connect (fd : Nat) (result : ConnectResult)
  | writeEvent (socketError : Nat)
  | reconnectTimer (fd : Nat) (result : ConnectResult)
  | disconnect
  | setAutoReconnect (enable : Bool)
  | send (data : List UInt8)
  | writable (result : WriteResult)
  | closeEvent
  | shutdownConnection
  | forceCloseConnection

namespace TcpClient

/-- A constructed client. -/
def start : TcpClient where
  connecting := false
  started := false
  autoReconnect := false
  socket := none
  connection := none
  poller := ∅
  watch := none
  timers := 0
  opened := 0
  reports := []
  missedReconnects := 0

variable (client : TcpClient)

def isConnected : Bool := client.connection.any (·.conn.isConnected)

/-- There is no connection, or it is disconnected. -/
def isClosed : Bool := client.connection.all (·.conn.state = .disconnected)

def report (report : AttemptReport) : TcpClient :=
  { client with reports := client.reports ++ [report] }

/-- A handler of the connection has run. -/
@[simps]
def withAttached (id : ConnId) (attached : Attached) : TcpClient :=
  { client with connection := some ⟨id, attached.conn⟩, poller := attached.poller }

/-- The last reference goes: `~Channel` drops the events it still has. -/
def dropConnection : TcpClient :=
  match client.connection with
  | none => client
  | some held =>
      let attached : Attached := ⟨held.conn, client.poller⟩
      let silenced := if held.conn.channel.hasNoEvents then attached else attached.disableAll held.id
      { client with connection := none, poller := silenced.poller }

/-- `HandleConnect`, which also takes the socket out of `m_socket`. -/
def handleConnect (socketFd : SocketType) (result : ConnectResult) (socketError : Option Nat) :
    TcpClient :=
  let dropped := { client with connecting := false }.dropConnection
  let established := Attached.connectEstablished client.opened ⟨.ofSocket socketFd, dropped.poller⟩
  ({ dropped with socket := none }.withAttached client.opened established).report
    (.connected result socketError)

/-- The branch of `Connect` for an attempt in progress. The channel that it registers is
destroyed at the end of the branch, and its callback with it. -/
def waitForConnect (socketFd : SocketType) (result : ConnectResult) : TcpClient :=
  let added := client.poller.updateChannel client.opened { Channel.ofFd socketFd with writing := true }
  let again := added.1.updateChannel client.opened added.2
  let gone := again.1.updateChannel client.opened { again.2 with writing := false }
  { client with poller := gone.1, watch := none }.report (.waits result)

/-- `m_loop->RunAfter(m_reconnect_delay_ms / 1000.0, DoReconnect)`. -/
def reconnectLater : TcpClient := { client with timers := client.timers + 1 }

/-- `Connect`, on a socket with number `fd` when one could be created. -/
def connect (fd : Nat) (result : ConnectResult) : TcpClient :=
  if client.started then client
  else
    let socketFd : SocketType := if result = .noSocket then invalidSocket else fd
    let opening :=
      { client with
        started := true
        connecting := true
        socket := some socketFd
        opened := client.opened + 1 }
    -- `int ret` is the `bool` that `Socket::Connect` returns.
    let ret : Int := if Socket.connect socketFd result then 1 else 0
    if ret = 0 then opening.handleConnect socketFd result none
    else if ret = SocketUtils.kConnectInProgress then opening.waitForConnect socketFd result
    else
      { opening with connecting := false, started := false, socket := none }.report
        (.failed result none)

/-- The write callback of an attempt's channel. -/
def completeConnect (fd : SocketType) (result : ConnectResult) (socketError : Nat) : TcpClient :=
  let unwatched := { client with watch := none }
  let completed :=
    if socketError = 0 then unwatched.handleConnect fd result (some socketError)
    else
      let failed :=
        { unwatched with connecting := false }.report (.failed result (some socketError))
      if client.autoReconnect ∧ client.started then failed.reconnectLater else failed
  { completed with poller := (completed.poller.removeChannel (.ofFd fd)).1 }

/-- `HandleRemoveConnection`, the connection's close callback. -/
def handleRemoveConnection : TcpClient :=
  let removed := { client with connection := none }
  if client.autoReconnect ∧ client.started then
    { removed with connecting := false }.reconnectLater
  else { removed with started := false }

/-- `HandleClose` of the connection. -/
def handleClose (held : ClientConnection) : TcpClient :=
  if held.conn.state = .disconnected then client
  else
    (client.withAttached held.id
      (Attached.beginHandleClose held.id ⟨held.conn, client.poller⟩)).handleRemoveConnection

/-- `DoReconnect`. -/
def doReconnect (fd : Nat) (result : ConnectResult) : TcpClient :=
  if client.started ∧ ¬ client.connecting ∧ ¬ client.isConnected then client.connect fd result
  else client

/-- The connection was lost and is to be opened again. -/
def awaitsReconnect : Bool :=
  client.autoReconnect ∧ client.started ∧ ¬ client.connecting ∧ client.isClosed

/-- A reconnect timer expires. -/
def reconnectTimer (fd : Nat) (result : ConnectResult) : TcpClient :=
  let expired := { client with timers := client.timers - 1 }
  let after := expired.doReconnect fd result
  let missed := expired.awaitsReconnect ∧ after.opened = expired.opened
  { after with missedReconnects := after.missedReconnects + if missed then 1 else 0 }

/-- `Shutdown` of the connection, on its loop. -/
def shutdown (held : ClientConnection) : TcpClient :=
  if held.conn.state = .connected then
    client.withAttached held.id
      ((Attached.setState ⟨held.conn, client.poller⟩ .disconnecting).shutdownInLoop held.id)
  else client

/-- `Disconnect`. -/
def disconnect : TcpClient :=
  let stopped := { client with autoReconnect := false, started := false }
  match client.connection with
  | none => stopped
  | some held => stopped.shutdown held

/-- `ForceClose` of the connection, on its loop. -/
def forceClose (held : ClientConnection) : TcpClient :=
  if held.conn.state = .connected ∨ held.conn.state = .disconnecting then
    (client.withAttached held.id
      (Attached.beginForceClose held.id ⟨held.conn, client.poller⟩)).handleRemoveConnection
  else client

/-- `Send` of the connection, on its loop. -/
def send (held : ClientConnection) (data : List UInt8) : TcpClient :=
  client.withAttached held.id (Attached.sendInLoop held.id ⟨held.conn, client.poller⟩ data)

/-- `HandleWrite` of the connection. -/
def handleWrite (held : ClientConnection) (result : WriteResult) : TcpClient :=
  let effect := Attached.handleWrite held.id ⟨held.conn, client.poller⟩ result
  let written := client.withAttached held.id effect.after
  if effect.closes then written.handleClose ⟨held.id, effect.after.conn⟩ else written

/-- The poller would hand an event on the connection's fd to its channel. -/
def isRegistered (held : ClientConnection) : Bool :=
  client.poller.lookup held.conn.channel.fd = some held.id

/-- What the kernel can answer to a `write` of the readable bytes. -/
def canAnswer (held : ClientConnection) : WriteResult → Bool
  | .wrote count => 0 < count ∧ count ≤ held.conn.outputBuffer.readableBytes
  | .wouldBlock | .failed => true

/-! ### What the operations leave alone -/

@[simp] theorem reports_dropConnection :
    client.dropConnection.reports = client.reports := by
  unfold dropConnection
  split <;> rfl

@[simp] theorem watch_dropConnection :
    client.dropConnection.watch = client.watch := by
  unfold dropConnection
  split <;> rfl

@[simp] theorem missedReconnects_dropConnection :
    client.dropConnection.missedReconnects = client.missedReconnects := by
  unfold dropConnection
  split <;> rfl

variable {client} in
theorem connect_of_started (started : client.started = true) (fd : Nat)
    (result : ConnectResult) : client.connect fd result = client := by
  simp [connect, started]

/-- `DoReconnect` calls `Connect` on a started client, which ignores the call. -/
theorem doReconnect_eq (fd : Nat) (result : ConnectResult) :
    client.doReconnect fd result = client := by
  unfold doReconnect
  split
  · next ready => exact connect_of_started ready.1 fd result
  · rfl

end TcpClient

/-- The client's machine. A close event is an end of file, a failed read, an error or a
hang-up of the connection. -/
def clientMachine : Machine TcpClient ClientEvent where
  step client
    | .connect fd result => some (client.connect fd result)
    | .writeEvent socketError =>
        client.watch.map fun (fd, result) => client.completeConnect fd result socketError
    | .reconnectTimer fd result =>
        if 0 < client.timers then some (client.reconnectTimer fd result) else none
    | .disconnect => some client.disconnect
    | .setAutoReconnect enable => some { client with autoReconnect := enable }
    | .send data => client.connection.map fun held => client.send held data
    | .writable result =>
        (client.connection.filter fun held =>
          client.isRegistered held ∧ held.conn.channel.writing ∧
            TcpClient.canAnswer held result).map fun held => client.handleWrite held result
    | .closeEvent =>
        (client.connection.filter fun held => client.isRegistered held).map fun held =>
          client.handleClose held
    | .shutdownConnection => client.connection.map fun held => client.shutdown held
    | .forceCloseConnection => client.connection.map fun held => client.forceClose held

/-- What each event does, and what it needs. -/
inductive ClientStep (client : TcpClient) : ClientEvent → TcpClient → Prop where
  | connect (fd : Nat) (result : ConnectResult) :
      ClientStep client (.connect fd result) (client.connect fd result)
  | writeEvent (socketError : Nat) (fd : SocketType) (result : ConnectResult)
      (watched : client.watch = some (fd, result)) :
      ClientStep client (.writeEvent socketError) (client.completeConnect fd result socketError)
  | reconnectTimer (fd : Nat) (result : ConnectResult) (pending : 0 < client.timers) :
      ClientStep client (.reconnectTimer fd result) (client.reconnectTimer fd result)
  | disconnect : ClientStep client .disconnect client.disconnect
  | setAutoReconnect (enable : Bool) :
      ClientStep client (.setAutoReconnect enable) { client with autoReconnect := enable }
  | send (data : List UInt8) (held : ClientConnection) (holds : client.connection = some held) :
      ClientStep client (.send data) (client.send held data)
  | writable (result : WriteResult) (held : ClientConnection)
      (holds : client.connection = some held) :
      ClientStep client (.writable result) (client.handleWrite held result)
  | closeEvent (held : ClientConnection) (holds : client.connection = some held) :
      ClientStep client .closeEvent (client.handleClose held)
  | shutdownConnection (held : ClientConnection) (holds : client.connection = some held) :
      ClientStep client .shutdownConnection (client.shutdown held)
  | forceCloseConnection (held : ClientConnection) (holds : client.connection = some held) :
      ClientStep client .forceCloseConnection (client.forceClose held)

theorem clientStep_cases {client next : TcpClient} {event : ClientEvent}
    (transition : clientMachine.step client event = some next) :
    ClientStep client event next := by
  cases event with
  | connect fd result =>
      cases transition
      exact .connect fd result
  | writeEvent socketError =>
      simp only [clientMachine, Option.map_eq_some_iff] at transition
      obtain ⟨⟨fd, result⟩, watched, rfl⟩ := transition
      exact .writeEvent socketError fd result watched
  | reconnectTimer fd result =>
      simp only [clientMachine, Option.ite_none_right_eq_some, Option.some.injEq] at transition
      obtain ⟨pending, rfl⟩ := transition
      exact .reconnectTimer fd result pending
  | disconnect =>
      cases transition
      exact .disconnect
  | setAutoReconnect enable =>
      cases transition
      exact .setAutoReconnect enable
  | send data =>
      simp only [clientMachine, Option.map_eq_some_iff] at transition
      obtain ⟨held, holds, rfl⟩ := transition
      exact .send data held holds
  | writable result =>
      simp only [clientMachine, Option.map_eq_some_iff, Option.filter_eq_some_iff] at transition
      obtain ⟨held, ⟨holds, _⟩, rfl⟩ := transition
      exact .writable result held holds
  | closeEvent =>
      simp only [clientMachine, Option.map_eq_some_iff, Option.filter_eq_some_iff] at transition
      obtain ⟨held, ⟨holds, _⟩, rfl⟩ := transition
      exact .closeEvent held holds
  | shutdownConnection =>
      simp only [clientMachine, Option.map_eq_some_iff] at transition
      obtain ⟨held, holds, rfl⟩ := transition
      exact .shutdownConnection held holds
  | forceCloseConnection =>
      simp only [clientMachine, Option.map_eq_some_iff] at transition
      obtain ⟨held, holds, rfl⟩ := transition
      exact .forceCloseConnection held holds

end TurboCore.Net
