import Mathlib
import TurboCore.Foundation.Execution
import TurboCore.Net.TcpConnection

/-!
# Runs of one connection

An established connection, its loop and the threads that call it. A call on the loop's
thread runs its `InLoop` part at once; a call on another thread queues a functor that
holds the caller's pointer and not the bytes behind it. One API call, one functor and
one channel event are one step each.
-/

namespace TurboCore.Net

open Foundation

/-- The bytes behind a caller's pointer. -/
def readRegion (memory : Nat → UInt8) (data len : Nat) : List UInt8 :=
  (List.range len).map fun offset => memory (data + offset)

/-- What the API calls queue. `atCall` is no part of the lambda: it records the bytes
that the region held when `Send` was called. -/
inductive ConnectionFunctor where
  | sendInLoop (data len : Nat) (atCall : List UInt8)
  | shutdownInLoop
  | forceCloseInLoop
deriving DecidableEq

/-- The bytes a queued functor is meant to append. -/
def ConnectionFunctor.payload : ConnectionFunctor → List UInt8
  | sendInLoop _ _ atCall => atCall
  | shutdownInLoop | forceCloseInLoop => []

/-- The region a queued functor reads holds the same bytes in both memories. -/
def ConnectionFunctor.readsSame (memory other : Nat → UInt8) : ConnectionFunctor → Bool
  | sendInLoop data len _ => readRegion other data len = readRegion memory data len
  | shutdownInLoop | forceCloseInLoop => true

/-- A connection, the functors queued for it, the callers' memory, and a record of what
happened: the bytes the kernel took, the payloads sent while connected, each payload with
the bytes appended for it, the payloads dropped, the writable events of a disconnecting
connection that did not write, and the calls of the close callback. -/
structure ConnectionRun where
  attached : Attached
  pending : List ConnectionFunctor
  memory : Nat → UInt8
  written : List UInt8
  sent : List (List UInt8)
  appended : List (List UInt8 × List UInt8)
  discarded : List (List UInt8)
  missedWrites : Nat
  closeCallbacks : Nat

inductive ConnectionEvent where
  | send (inLoop : Bool) (data len : Nat)
  | shutdown (inLoop : Bool)
  | forceClose (inLoop : Bool)
  | store (addr : Nat) (byte : UInt8)
  | functor
  | writable (result : WriteResult)
  | readClosed
  | errorEvent

namespace ConnectionRun

/-- The connection after `ConnectEstablished`, with the fd that `accept` returned. -/
def established (fd : Nat) (memory : Nat → UInt8) : ConnectionRun where
  attached := Attached.connectEstablished 0 ⟨.ofSocket fd, ∅⟩
  pending := []
  memory := memory
  written := []
  sent := []
  appended := []
  discarded := []
  missedWrites := 0
  closeCallbacks := 0

def conn (run : ConnectionRun) : TcpConnection := run.attached.conn

/-- The readable bytes of `m_output_buffer`. -/
def output (run : ConnectionRun) : List UInt8 := run.conn.outputBuffer.content

/-- `SendInLoop` on the region as it is now. -/
def sendInLoop (run : ConnectionRun) (data len : Nat) (atCall : List UInt8) : ConnectionRun :=
  let after := run.attached.sendInLoop 0 (readRegion run.memory data len)
  if run.conn.isConnected then
    let grown := after.conn.outputBuffer.content.drop run.output.length
    { run with attached := after, appended := run.appended ++ [(atCall, grown)] }
  else { run with attached := after, discarded := run.discarded ++ [atCall] }

def shutdownInLoop (run : ConnectionRun) : ConnectionRun :=
  { run with attached := run.attached.shutdownInLoop 0 }

/-- `ForceCloseInLoop`: the close callback runs after the socket is closed. -/
def forceCloseInLoop (run : ConnectionRun) : ConnectionRun :=
  if run.conn.state = .connected ∨ run.conn.state = .disconnecting then
    { run with
      attached := run.attached.beginForceClose 0
      closeCallbacks := run.closeCallbacks + 1 }
  else run

def runFunctor (run : ConnectionRun) : ConnectionFunctor → ConnectionRun
  | .sendInLoop data len atCall => run.sendInLoop data len atCall
  | .shutdownInLoop => run.shutdownInLoop
  | .forceCloseInLoop => run.forceCloseInLoop

/-- `RunInLoop`. -/
def runInLoop (run : ConnectionRun) (inLoop : Bool) (functor : ConnectionFunctor) :
    ConnectionRun :=
  if inLoop then run.runFunctor functor
  else { run with pending := run.pending ++ [functor] }

/-- `Send(data, len)`; `Send(message)` is the same with the string's own region. -/
def send (run : ConnectionRun) (inLoop : Bool) (data len : Nat) : ConnectionRun :=
  if run.conn.isConnected then
    let payload := readRegion run.memory data len
    runInLoop { run with sent := run.sent ++ [payload] } inLoop (.sendInLoop data len payload)
  else run

/-- `Shutdown`. -/
def shutdown (run : ConnectionRun) (inLoop : Bool) : ConnectionRun :=
  if run.conn.state = .connected then
    runInLoop { run with attached := run.attached.setState .disconnecting } inLoop .shutdownInLoop
  else run

/-- `ForceClose`. -/
def forceClose (run : ConnectionRun) (inLoop : Bool) : ConnectionRun :=
  if run.conn.state = .connected ∨ run.conn.state = .disconnecting then
    runInLoop { run with attached := run.attached.setState .disconnecting } inLoop
      .forceCloseInLoop
  else run

/-- `HandleClose`: the close callback runs before the socket is closed. -/
def handleClose (run : ConnectionRun) : ConnectionRun :=
  if run.conn.state = .disconnected then run
  else
    { run with
      attached := (run.attached.beginHandleClose 0).closeSocket
      closeCallbacks := run.closeCallbacks + 1 }

/-- A disconnecting connection got room for `count` bytes and they were not written. -/
def missesWrite (run : ConnectionRun) (effect : Attached.WriteEffect) : WriteResult → Bool
  | .wrote count =>
      run.conn.state = .disconnecting ∧ run.output ≠ [] ∧
        ¬ (effect.sent = run.output.take count ∧
          effect.after.conn.outputBuffer.content = run.output.drop count)
  | .wouldBlock | .failed => false

/-- `HandleWrite`, with its `HandleClose`. -/
def handleWrite (run : ConnectionRun) (result : WriteResult) : ConnectionRun :=
  let effect := run.attached.handleWrite 0 result
  let after :=
    { run with
      attached := effect.after
      written := run.written ++ effect.sent
      missedWrites := run.missedWrites + if run.missesWrite effect result then 1 else 0 }
  if effect.closes then after.handleClose else after

/-- The poller's table maps the connection's fd to its channel. -/
def isRegistered (run : ConnectionRun) : Bool :=
  run.attached.poller.lookup run.conn.channel.fd = some 0

/-- What the kernel can answer to a `write` of the readable bytes. -/
def canAnswer (run : ConnectionRun) : WriteResult → Bool
  | .wrote count => 0 < count ∧ count ≤ run.output.length
  | .wouldBlock | .failed => true

end ConnectionRun

/-- The connection's machine. An error event runs `HandleError`, which is `HandleClose`,
and then the close callback of the channel, which is `HandleClose` again. -/
def connectionMachine : Machine ConnectionRun ConnectionEvent where
  step run
    | .send inLoop data len => some (run.send inLoop data len)
    | .shutdown inLoop => some (run.shutdown inLoop)
    | .forceClose inLoop => some (run.forceClose inLoop)
    | .store addr byte => some { run with memory := Function.update run.memory addr byte }
    | .functor =>
        match run.pending with
        | [] => none
        | functor :: rest => some ({ run with pending := rest }.runFunctor functor)
    | .writable result =>
        if run.isRegistered ∧ run.conn.channel.writing ∧ run.canAnswer result then
          some (run.handleWrite result)
        else none
    | .readClosed =>
        if run.isRegistered ∧ run.conn.channel.reading then some run.handleClose else none
    | .errorEvent => if run.isRegistered then some run.handleClose.handleClose else none

/-- What each event does, and what it needs. -/
inductive ConnectionStep (run : ConnectionRun) : ConnectionEvent → ConnectionRun → Prop where
  | send (inLoop : Bool) (data len : Nat) :
      ConnectionStep run (.send inLoop data len) (run.send inLoop data len)
  | shutdown (inLoop : Bool) : ConnectionStep run (.shutdown inLoop) (run.shutdown inLoop)
  | forceClose (inLoop : Bool) : ConnectionStep run (.forceClose inLoop) (run.forceClose inLoop)
  | store (addr : Nat) (byte : UInt8) :
      ConnectionStep run (.store addr byte)
        { run with memory := Function.update run.memory addr byte }
  | functor (functor : ConnectionFunctor) (rest : List ConnectionFunctor)
      (queue : run.pending = functor :: rest) :
      ConnectionStep run .functor ({ run with pending := rest }.runFunctor functor)
  | writable (result : WriteResult) (answers : run.canAnswer result = true) :
      ConnectionStep run (.writable result) (run.handleWrite result)
  | readClosed : ConnectionStep run .readClosed run.handleClose
  | errorEvent : ConnectionStep run .errorEvent run.handleClose.handleClose

theorem connectionStep_cases {run next : ConnectionRun} {event : ConnectionEvent}
    (transition : connectionMachine.step run event = some next) :
    ConnectionStep run event next := by
  cases event with
  | send inLoop data len =>
      cases transition
      exact .send inLoop data len
  | shutdown inLoop =>
      cases transition
      exact .shutdown inLoop
  | forceClose inLoop =>
      cases transition
      exact .forceClose inLoop
  | store addr byte =>
      cases transition
      exact .store addr byte
  | functor =>
      cases queue : run.pending with
      | nil => simp [connectionMachine, queue] at transition
      | cons functor rest =>
          simp only [connectionMachine, queue, Option.some.injEq] at transition
          subst transition
          exact .functor functor rest queue
  | writable result =>
      simp only [connectionMachine, Option.ite_none_right_eq_some, Option.some.injEq] at transition
      obtain ⟨⟨_, _, answers⟩, rfl⟩ := transition
      exact .writable result answers
  | readClosed =>
      simp only [connectionMachine, Option.ite_none_right_eq_some, Option.some.injEq] at transition
      obtain ⟨_, rfl⟩ := transition
      exact .readClosed
  | errorEvent =>
      simp only [connectionMachine, Option.ite_none_right_eq_some, Option.some.injEq] at transition
      obtain ⟨_, rfl⟩ := transition
      exact .errorEvent

/-- No store changes bytes that a queued `SendInLoop` still has to read. -/
def KeepsPendingBytes (run : ConnectionRun) : ConnectionEvent → Prop
  | .store addr byte =>
      run.pending.all fun functor =>
        functor.readsSame run.memory (Function.update run.memory addr byte)
  | _ => True

instance (run : ConnectionRun) : (event : ConnectionEvent) → Decidable (KeepsPendingBytes run event)
  | .store _ _ => inferInstanceAs (Decidable (_ = true))
  | .send _ _ _ | .shutdown _ | .forceClose _ | .functor | .writable _ | .readClosed
  | .errorEvent => .isTrue trivial

end TurboCore.Net
