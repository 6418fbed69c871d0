import Mathlib
import TurboCore.AiDist.StreamRoundTrip
import TurboCore.Foundation.FrameStream
import TurboCore.Net.BufferMemory
import TurboCore.Net.OutputLedger
import TurboCore.Registry.Server

/-!
# A client's session with the registry server

One client and the server, each behind its `TcpConnection`. Packets go through the
sender's output buffer, the kernel in pieces of any size, the receiver's input buffer
and the parser, and the server's responses go back the same way. Whatever the pieces,
the server handles the client's packets one at a time in the order of the calls of
`Send`: registry and responses are those of the packets alone. Reads of the server's that
fail or would block are left out.
-/

namespace TurboCore.Registry

open Foundation AiDist AiSchedulePacket Net

/-- The text layer prints the packet and reads it back, and its text has a length that the
frame's header can hold. -/
def Printed (lib : JsonLibrary) (packet : AiSchedulePacket) : Prop :=
  lib.parse (lib.dump packet.fullBody) = .ok packet.fullBody ∧
    (lib.dump packet.fullBody).length < 2 ^ 32

/-- The packet as `deserialize` returns it. -/
def asRead (lib : JsonLibrary) (packet : AiSchedulePacket) : AiSchedulePacket :=
  { packet with transHeader := headerFor (lib.dump packet.fullBody) }

/-- A serialized packet is one whole frame. -/
theorem Printed.encodes {lib : JsonLibrary} {packet : AiSchedulePacket}
    (printed : Printed lib packet) :
    (packetFraming lib).Encodes (fun packet => packet.serialize lib []) (asRead lib) packet :=
  next_serialize printed.1 printed.2

theorem serialize_ne_nil (lib : JsonLibrary) (packet : AiSchedulePacket) :
    packet.serialize lib [] ≠ [] := by
  intro empty
  have lengths := congrArg List.length empty
  simp only [serialize, List.length_append, TransportHeader.length_serializeToBytes,
    TransportHeader.headerSize, List.length_nil] at lengths
  omega

namespace RegistryServer

variable {lib : JsonLibrary} {parser : PacketParser lib}

/-- `SendResponse`: serialize into an empty buffer and `Send` it. -/
def sendResponse (lib : JsonLibrary) (self : ConnId) (attached : Attached)
    (response : AiSchedulePacket) : Attached :=
  attached.send self (response.serialize lib [])

/-- Handling two batches of packets one after the other. -/
theorem dispatchAll_append (sort : StdSort RegistryNodeInfo) (clock : Nat → ClockReadings)
    (conn : ConnId) (manager : RegistryManager) (first second : List AiSchedulePacket) :
    dispatchAll lib sort clock conn manager (first ++ second) =
      let before := dispatchAll lib sort clock conn manager first
      let after := dispatchAll lib sort (fun i => clock (first.length + i)) conn before.1 second
      (after.1, before.2 ++ after.2) := by
  induction first generalizing clock manager with
  | nil => simp [dispatchAll]
  | cons packet rest inductionHypothesis =>
      have later : (fun i => clock (rest.length + i + 1)) =
          fun i => clock (rest.length + 1 + i) := by
        funext i
        rw [Nat.add_right_comm]
      simp only [List.cons_append, dispatchAll, inductionHypothesis, List.length_cons, later]

theorem length_dispatchAll (sort : StdSort RegistryNodeInfo) (clock : Nat → ClockReadings)
    (conn : ConnId) (manager : RegistryManager) (packets : List AiSchedulePacket) :
    (dispatchAll lib sort clock conn manager packets).2.length = packets.length := by
  have tagged := congrArg List.length (@map_dispatchAll lib sort clock conn manager packets)
  rwa [List.length_map, List.length_map] at tagged

/-- One message call handles the frames that its data completes. -/
theorem onMessage_eq (sort : StdSort RegistryNodeInfo) (clock : Nat → ClockReadings)
    (server : RegistryServer parser) (conn : ConnId) (data : List UInt8) :
    ((server.onMessage sort clock conn data).1.registryManager,
        (server.onMessage sort clock conn data).2) =
      dispatchAll lib sort clock conn server.registryManager
        ((packetFraming lib).frames (parser.buffer server.parserState ++ data)) := by
  rw [← parser.buffer_feed, ← parser.parseAll_packets]
  unfold onMessage
  simp only
  split
  · next none =>
      rw [List.length_eq_zero_iff.mp none]
      rfl
  · rfl

end RegistryServer

open RegistryServer (Dispatch dispatchAll sendResponse)

/-- The client's connection and the server's, the bytes that the kernels carry in each
direction, and the packets of the session so far. -/
structure Session {lib : JsonLibrary} (parser : PacketParser lib) where
  client : Attached
  /-- taken by `write` on the client's side and not yet read by the server -/
  upstream : List UInt8
  conn : Attached
  inputBuffer : Buffer
  server : RegistryServer parser
  /-- taken by `write` on the server's side, all of it -/
  downstream : List UInt8
  /-- packets that the client's connection did not refuse -/
  requested : List AiSchedulePacket
  dispatched : List Dispatch
  /-- responses that the server's connection did not refuse -/
  replied : List AiSchedulePacket

inductive SessionEvent where
  /-- the client serializes a packet and sends it -/
  | request (packet : AiSchedulePacket)
  | clientWrite (result : WriteResult)
  | clientClose
  /-- `HandleRead` with a `readv` that stores this many bytes -/
  | serverRead (count : Nat)
  | serverWrite (result : WriteResult)
  | serverClose

namespace Session

variable {lib : JsonLibrary} {parser : PacketParser lib}

/-- Both ends after `ConnectEstablished`, and the server's `OnConnection`. -/
def start (self : ConnId) (clientFd connFd : Nat) (clientPoller poller : EpollPoller)
    (server : RegistryServer parser) : Session parser where
  client := .connectEstablished self ⟨.ofSocket clientFd, clientPoller⟩
  upstream := []
  conn := .connectEstablished self ⟨.ofSocket connFd, poller⟩
  inputBuffer := .ofSize Buffer.initialSize
  server := server.onConnection true
  downstream := []
  requested := []
  dispatched := []
  replied := []

def request (self : ConnId) (session : Session parser) (packet : AiSchedulePacket) :
    Session parser :=
  { session with
    client := session.client.send self (packet.serialize lib [])
    requested := session.requested ++
      if session.client.conn.isConnected then [packet] else [] }

def clientWrite (self : ConnId) (session : Session parser) (result : WriteResult) :
    Session parser :=
  let written := session.client.writeOut self result
  { session with client := written.1, upstream := session.upstream ++ written.2 }

def serverWrite (self : ConnId) (session : Session parser) (result : WriteResult) :
    Session parser :=
  let written := session.conn.writeOut self result
  { session with conn := written.1, downstream := session.downstream ++ written.2 }

/-- `HandleRead`: `ReadFromFd` and `OnMessage`, which takes all readable bytes out of the
buffer and sends the responses. The `i`-th handler call of the session reads `clock i`. -/
def serverRead (sort : StdSort RegistryNodeInfo) (clock : Nat → ClockReadings) (self : ConnId)
    (session : Session parser) (count : Nat) : Session parser :=
  let input := (session.inputBuffer.readFromFd (session.upstream.take count)).2
  let handled := session.server.onMessage sort
    (fun i => clock (session.dispatched.length + i)) self input.content
  let responses := handled.2.filterMap (·.response)
  { session with
    upstream := session.upstream.drop count
    conn := responses.foldl (sendResponse lib self) session.conn
    inputBuffer := input.retrieve input.readableBytes (Nat.le_refl _)
    server := handled.1
    dispatched := session.dispatched ++ handled.2
    replied := session.replied ++ if session.conn.conn.isConnected then responses else [] }

end Session

/-- Handlers run on events that the channel asks for, and `readv` stores at least one of
the bytes that have arrived and no more than its vectors hold. A `readv` that fails or would
block is no event here: it leaves an input buffer whose indices are not in order. -/
def sessionMachine {lib : JsonLibrary} {parser : PacketParser lib}
    (sort : StdSort RegistryNodeInfo) (clock : Nat → ClockReadings) (self : ConnId) :
    Machine (Session parser) SessionEvent where
  step session
    | .request packet => some (session.request self packet)
    | .clientWrite result =>
        if session.client.conn.channel.writing ∧ session.client.mayAnswer result then
          some (session.clientWrite self result)
        else none
    | .clientClose => some { session with client := session.client.handleClose self }
    | .serverRead count =>
        if session.conn.conn.channel.reading ∧ 0 < count ∧ count ≤ session.upstream.length ∧
            count ≤ session.inputBuffer.iovLengths.sum then
          some (session.serverRead sort clock self count)
        else none
    | .serverWrite result =>
        if session.conn.conn.channel.writing ∧ session.conn.mayAnswer result then
          some (session.serverWrite self result)
        else none
    | .serverClose => some { session with conn := session.conn.handleClose self }

namespace RegistryServer

variable {lib : JsonLibrary} (self : ConnId) (attached : Attached)
  (responses : List AiSchedulePacket)

theorem responses_isConnected :
    (responses.foldl (sendResponse lib self) attached).conn.isConnected =
      attached.conn.isConnected := by
  induction responses generalizing attached with
  | nil => rfl
  | cons response later inductionHypothesis =>
      rw [List.foldl_cons, inductionHypothesis, sendResponse, Attached.send_isConnected]

/-- The responses go behind the output, one frame each, unless the connection refuses them. -/
theorem output_responses :
    (responses.foldl (sendResponse lib self) attached).output =
      attached.output ++ if attached.conn.isConnected then
        responses.flatMap fun response => response.serialize lib [] else [] := by
  induction responses generalizing attached with
  | nil => simp
  | cons response later inductionHypothesis =>
      rw [List.foldl_cons, inductionHypothesis, sendResponse, Attached.send_isConnected,
        Attached.output_send]
      split <;> simp

variable {attached}

theorem tended_responses (tended : Tended attached) :
    Tended (responses.foldl (sendResponse lib self) attached) := by
  induction responses generalizing attached with
  | nil => exact tended
  | cons response later inductionHypothesis =>
      exact inductionHypothesis (tended.send (serialize_ne_nil lib response))

end RegistryServer

namespace Session

variable {lib : JsonLibrary} {parser : PacketParser lib}

/-- The frames of the packets, one after the other. -/
def wire (lib : JsonLibrary) (packets : List AiSchedulePacket) : List UInt8 :=
  packets.flatMap fun packet => packet.serialize lib []

@[simp] theorem wire_append (first second : List AiSchedulePacket) :
    wire lib (first ++ second) = wire lib first ++ wire lib second :=
  List.flatMap_append

/-- What holds at every moment of a session that began with this registry. -/
structure InOrder (sort : StdSort RegistryNodeInfo) (clock : Nat → ClockReadings)
    (who : ConnId) (origin : RegistryManager) (session : Session parser) : Prop where
  client : Tended session.client
  conn : Tended session.conn
  /-- the bytes that the parser has been fed, those on their way and those to be written are
  the packets of the client; registry and responses are those of the packets fed -/
  upward : ∃ fed, fed ++ (session.upstream ++ session.client.output) = wire lib session.requested ∧
    parser.buffer session.server.parserState = (packetFraming lib).rest fed ∧
    dispatchAll lib sort clock who origin ((packetFraming lib).frames fed) =
      (session.server.registryManager, session.dispatched)
  input : session.inputBuffer.content = []
  downward : session.downstream ++ session.conn.output = wire lib session.replied
  replies : session.replied = session.dispatched.filterMap (·.response)

namespace InOrder

variable {sort : StdSort RegistryNodeInfo} {clock : Nat → ClockReadings} {self : ConnId}
  {origin : RegistryManager} {session : Session parser}

theorem start (clientFd connFd : Nat) (clientPoller poller : EpollPoller)
    (server : RegistryServer parser) :
    InOrder sort clock self server.registryManager
      (.start self clientFd connFd clientPoller poller server) where
  client := .established self clientFd clientPoller
  conn := .established self connFd poller
  upward := by
    have empty : (Attached.connectEstablished self ⟨.ofSocket clientFd, clientPoller⟩).output =
        [] := Buffer.content_ofSize Buffer.initialSize
    refine ⟨[], ?_, ?_, ?_⟩
    · simp [Session.start, empty, wire]
    · rw [Framing.rest_nil]
      exact parser.buffer_reset _
    · rw [Framing.frames_nil]
      rfl
  input := Buffer.content_ofSize Buffer.initialSize
  downward := Buffer.content_ofSize Buffer.initialSize
  replies := rfl

theorem request (inOrder : InOrder sort clock self origin session)
    (packet : AiSchedulePacket) : InOrder sort clock self origin (session.request self packet) :=
  { inOrder with
    client := inOrder.client.send (serialize_ne_nil lib packet)
    upward := by
      obtain ⟨fed, stream, state⟩ := inOrder.upward
      refine ⟨fed, ?_, state⟩
      simp only [Session.request, Attached.output_send, wire_append, ← stream, List.append_assoc]
      split <;> simp [wire] }

theorem clientWrite (inOrder : InOrder sort clock self origin session)
    (asked : session.client.conn.channel.writing = true) {result : WriteResult}
    (answers : session.client.mayAnswer result = true) :
    InOrder sort clock self origin (session.clientWrite self result) :=
  { inOrder with
    client := inOrder.client.writeOut asked answers
    upward := by
      obtain ⟨fed, stream, state⟩ := inOrder.upward
      refine ⟨fed, ?_, state⟩
      simp only [Session.clientWrite, List.append_assoc, Attached.writeOut_moves]
      exact stream }

theorem serverWrite (inOrder : InOrder sort clock self origin session)
    (asked : session.conn.conn.channel.writing = true) {result : WriteResult}
    (answers : session.conn.mayAnswer result = true) :
    InOrder sort clock self origin (session.serverWrite self result) :=
  { inOrder with
    conn := inOrder.conn.writeOut asked answers
    downward := by
      simp only [Session.serverWrite, List.append_assoc, Attached.writeOut_moves]
      exact inOrder.downward }

/-- A read feeds the parser the next bytes of the client's stream. -/
theorem serverRead (inOrder : InOrder sort clock self origin session)
    (asked : session.conn.conn.channel.reading = true) {count : Nat}
    (arrived : count ≤ session.upstream.length)
    (fits : count ≤ session.inputBuffer.iovLengths.sum) :
    InOrder sort clock self origin (session.serverRead sort clock self count) := by
  have connected : session.conn.conn.isConnected = true := inOrder.conn.reading ▸ asked
  have received : session.inputBuffer.Receives (session.upstream.take count) := by
    rwa [Buffer.Receives, List.length_take, Nat.min_eq_left arrived]
  have input : (session.inputBuffer.readFromFd (session.upstream.take count)).2.content =
      session.upstream.take count := by
    rw [Buffer.content_readFromFd _ received, inOrder.input, List.nil_append]
  obtain ⟨fed, stream, buffered, handled⟩ := inOrder.upward
  have fedSoFar := congrArg (fun state => state.2.length) handled
  simp only [RegistryServer.length_dispatchAll] at fedSoFar
  have batch := session.server.onMessage_eq sort
    (fun i => clock (session.dispatched.length + i)) self (session.upstream.take count)
  have left := RegistryServer.buffer_onMessage sort
    (fun i => clock (session.dispatched.length + i)) session.server self
    (session.upstream.take count)
  rw [buffered] at batch left
  refine ⟨inOrder.client, ?_, ⟨fed ++ session.upstream.take count, ?_, ?_, ?_⟩, ?_, ?_, ?_⟩
  · exact RegistryServer.tended_responses self _ inOrder.conn
  · refine Eq.trans ?_ stream
    simp only [Session.serverRead, List.append_assoc]
    rw [← List.append_assoc (session.upstream.take count), List.take_append_drop]
  · simp only [Session.serverRead, input]
    rw [left, ← Framing.rest_append]
  · rw [Framing.frames_append, RegistryServer.dispatchAll_append, handled]
    simp only [Session.serverRead, input, fedSoFar]
    rw [← batch]
  · simp [Session.serverRead]
  · simp only [Session.serverRead, RegistryServer.output_responses, connected, if_true, wire_append,
      ← inOrder.downward, List.append_assoc]
    rfl
  · simp only [Session.serverRead, connected, if_true, List.filterMap_append, inOrder.replies]

theorem step {event : SessionEvent} {next : Session parser}
    (inOrder : InOrder sort clock self origin session)
    (transition : (sessionMachine sort clock self).step session event = some next) :
    InOrder sort clock self origin next := by
  cases event with
  | request packet =>
      cases transition
      exact inOrder.request packet
  | clientWrite result =>
      simp only [sessionMachine, Option.ite_none_right_eq_some, Option.some.injEq] at transition
      obtain ⟨⟨asked, answers⟩, rfl⟩ := transition
      exact inOrder.clientWrite asked answers
  | clientClose =>
      cases transition
      exact { inOrder with
        client := inOrder.client.handleClose
        upward := by simpa using inOrder.upward }
  | serverRead count =>
      simp only [sessionMachine, Option.ite_none_right_eq_some, Option.some.injEq] at transition
      obtain ⟨⟨asked, _, arrived, fits⟩, rfl⟩ := transition
      exact inOrder.serverRead asked arrived fits
  | serverWrite result =>
      simp only [sessionMachine, Option.ite_none_right_eq_some, Option.some.injEq] at transition
      obtain ⟨⟨asked, answers⟩, rfl⟩ := transition
      exact inOrder.serverWrite asked answers
  | serverClose =>
      cases transition
      exact { inOrder with
        conn := inOrder.conn.handleClose
        downward := by simpa using inOrder.downward }

/-- Of the bytes fed to the parser come the first packets of the client. -/
theorem served (inOrder : InOrder sort clock self origin session)
    (printed : ∀ packet ∈ session.requested, Printed lib packet) :
    ∃ count ≤ session.requested.length,
      dispatchAll lib sort clock self origin ((session.requested.take count).map (asRead lib)) =
        (session.server.registryManager, session.dispatched) ∧
      (session.upstream = [] → session.client.output = [] →
        count = session.requested.length) := by
  obtain ⟨fed, stream, _, handled⟩ := inOrder.upward
  obtain ⟨count, inside, frames, all⟩ := Framing.frames_of_arrived
    (fun packet member => (printed packet member).encodes) stream
  refine ⟨count, inside, frames ▸ handled, fun arrived written => all ?_⟩
  rw [arrived, written, List.nil_append]

end InOrder

/-- Only packets of `request` calls are requested. -/
theorem mem_requested {sort : StdSort RegistryNodeInfo} {clock : Nat → ClockReadings}
    {self : ConnId} {initial session : Session parser} {events : List SessionEvent}
    (fresh : initial.requested = [])
    (executed : (sessionMachine sort clock self).AnyRun initial events session) :
    ∀ packet ∈ session.requested, .request packet ∈ events := by
  induction executed with
  | nil => simp [fresh]
  | @snoc events session next event _ _ transition inductionHypothesis =>
      intro packet member
      have before : packet ∈ session.requested → SessionEvent.request packet ∈ events ++ [event] :=
        fun earlier => List.mem_append_left _ (inductionHypothesis packet earlier)
      cases event with
      | request requested =>
          cases transition
          rcases List.mem_append.mp member with earlier | last
          · exact before earlier
          · split at last
            · rw [List.mem_singleton.mp last]
              simp
            · cases last
      | clientClose | serverClose =>
          cases transition
          exact before member
      | clientWrite _ | serverRead _ | serverWrite _ =>
          simp only [sessionMachine, Option.ite_none_right_eq_some, Option.some.injEq]
            at transition
          obtain ⟨_, rfl⟩ := transition
          exact before member

end Session

/-- In every run of a session in which every read of the server's stores bytes, whatever else
the kernels and the timing do, the registry and the handled packets are those of serving the
first packets of the client one at a time, in the order of its sends; and of all of them once
nothing is on the way any more. -/
theorem session_serves_in_order {lib : JsonLibrary} {parser : PacketParser lib}
    (sort : StdSort RegistryNodeInfo) (clock : Nat → ClockReadings) (self : ConnId)
    (clientFd connFd : Nat) (clientPoller poller : EpollPoller) (server : RegistryServer parser)
    {events : List SessionEvent} {session : Session parser}
    (executed : (sessionMachine sort clock self).AnyRun
      (.start self clientFd connFd clientPoller poller server) events session)
    (printed : ∀ packet ∈ session.requested, Printed lib packet) :
    ∃ count ≤ session.requested.length,
      dispatchAll lib sort clock self server.registryManager
          ((session.requested.take count).map (asRead lib)) =
        (session.server.registryManager, session.dispatched) ∧
      (session.upstream = [] → session.client.output = [] →
        count = session.requested.length) := by
  have inOrder := executed.invariant (Session.InOrder sort clock self server.registryManager)
    (.start clientFd connFd clientPoller poller server)
    fun _ _ _ inOrder _ transition => inOrder.step transition
  exact inOrder.served printed

/-- Two packets that arrive in three pieces, cut anywhere. -/
def twoRequestsInPieces : List SessionEvent :=
  [.request heartbeatCall.packet, .request removeCall.packet, .clientWrite (.wrote 20),
    .serverRead 7, .clientWrite .wouldBlock, .clientWrite (.wrote 195), .serverRead 108,
    .serverRead 100]

/-- A server that has just started, with a text layer for these two packets. -/
abbrev workerServer : RegistryServer (PacketParser.buffering workerLibrary) := .start

theorem printed_workerCalls {packet : AiSchedulePacket}
    (call : packet = heartbeatCall.packet ∨ packet = removeCall.packet) :
    Printed workerLibrary packet := by
  rcases call with rfl | rfl
  · exact ⟨workerLibrary_faithful heartbeatCall (by simp [workerCalls]),
      workerLibrary_short heartbeatCall (by simp [workerCalls])⟩
  · exact ⟨workerLibrary_faithful removeCall (by simp [workerCalls]),
      workerLibrary_short removeCall (by simp [workerCalls])⟩

/-- The kernels have carried everything, and the server has handled both packets. -/
theorem session_serves_two_requests : ∃ session,
    (sessionMachine (.merge _) (fun _ => ⟨0, 0⟩) 0).exec (.start 0 4 5 ∅ ∅ workerServer)
        twoRequestsInPieces = some session ∧
      session.requested.length = 2 ∧ session.dispatched.length = 2 ∧
      dispatchAll workerLibrary (.merge _) (fun _ => ⟨0, 0⟩) 0 .empty
          (session.requested.map (asRead workerLibrary)) =
        (session.server.registryManager, session.dispatched) := by
  have observed : ((sessionMachine (.merge _) (fun _ => ⟨0, 0⟩) 0).exec
      (.start 0 4 5 ∅ ∅ workerServer) twoRequestsInPieces).map (fun session =>
        (session.upstream, session.client.output, session.requested.length,
          session.dispatched.length)) = some ([], [], 2, 2) := by decide +kernel
  obtain ⟨session, executed, seen⟩ := Option.map_eq_some_iff.mp observed
  simp only [Prod.mk.injEq] at seen
  have run := Machine.run_of_exec executed
  have printed : ∀ packet ∈ session.requested, Printed workerLibrary packet := by
    intro packet member
    have sent := Session.mem_requested rfl run packet member
    simp only [twoRequestsInPieces, List.mem_cons, SessionEvent.request.injEq, reduceCtorEq,
      List.not_mem_nil, or_false] at sent
    exact printed_workerCalls sent
  obtain ⟨count, _, handled, all⟩ := session_serves_in_order (.merge _) (fun _ => ⟨0, 0⟩) 0 4 5 ∅ ∅
    workerServer run printed
  rw [all seen.1 seen.2.1, List.take_length] at handled
  exact ⟨session, executed, seen.2.2.1, seen.2.2.2, handled⟩

/-- However much the client sends, and in whatever pieces it arrives, as long as every read
stores bytes the server's input buffer is empty between two events and its array holds no more
than three times `extrabuf`. -/
theorem session_input_bounded {lib : JsonLibrary} {parser : PacketParser lib}
    (sort : StdSort RegistryNodeInfo) (clock : Nat → ClockReadings) (self : ConnId)
    (clientFd connFd : Nat) (clientPoller poller : EpollPoller) (server : RegistryServer parser)
    {events : List SessionEvent} {session : Session parser}
    (executed : (sessionMachine sort clock self).AnyRun
      (.start self clientFd connFd clientPoller poller server) events session) :
    session.inputBuffer.content = [] ∧ session.inputBuffer.buf.length ≤ 3 * extrabufSize := by
  refine executed.invariant (fun session => session.inputBuffer.content = [] ∧
    session.inputBuffer.buf.length ≤ 3 * extrabufSize) ?_ ?_
  · refine ⟨Buffer.content_ofSize _, ?_⟩
    change (List.replicate Buffer.initialSize (0 : UInt8)).length ≤ _
    rw [List.length_replicate]
    decide
  rintro session event next ⟨empty, bounded⟩ _ transition
  cases event with
  | request _ | clientClose | serverClose =>
      cases transition
      exact ⟨empty, bounded⟩
  | clientWrite _ | serverWrite _ =>
      simp only [sessionMachine, Option.ite_none_right_eq_some, Option.some.injEq] at transition
      obtain ⟨_, rfl⟩ := transition
      exact ⟨empty, bounded⟩
  | serverRead count =>
      simp only [sessionMachine, Option.ite_none_right_eq_some, Option.some.injEq] at transition
      obtain ⟨⟨_, _, arrived, fits⟩, rfl⟩ := transition
      have received : session.inputBuffer.Receives (session.upstream.take count) := by
        rwa [Buffer.Receives, List.length_take, Nat.min_eq_left arrived]
      have grows := session.inputBuffer.length_buf_readFromFd_le received
      rw [Buffer.content_eq_nil_iff] at empty
      refine ⟨by simp [Session.serverRead], ?_⟩
      change (session.inputBuffer.readFromFd (session.upstream.take count)).2.buf.length ≤ _
      omega

/-- After the two requests the buffer is empty again, and small. -/
theorem two_requests_input_bounded : ∃ session,
    (sessionMachine (.merge _) (fun _ => ⟨0, 0⟩) 0).exec (.start 0 4 5 ∅ ∅ workerServer)
        twoRequestsInPieces = some session ∧
      session.inputBuffer.content = [] ∧ session.inputBuffer.buf.length ≤ 3 * extrabufSize := by
  have observed : ((sessionMachine (.merge _) (fun _ => ⟨0, 0⟩) 0).exec
      (.start 0 4 5 ∅ ∅ workerServer) twoRequestsInPieces).isSome = true := by decide +kernel
  obtain ⟨session, executed⟩ := Option.isSome_iff_exists.mp observed
  exact ⟨session, executed, session_input_bounded (.merge _) (fun _ => ⟨0, 0⟩) 0 4 5 ∅ ∅
    workerServer (Machine.run_of_exec executed)⟩

end TurboCore.Registry
