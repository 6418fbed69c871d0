import Mathlib
import TurboCore.AiDist.Packet
import TurboCore.Registry.Manager

/-!
# The registry server

The packet handlers of `RegistryServer` and its two connection callbacks. All
connections share one `PacketParser`, the member `m_parser`.
-/

namespace TurboCore.Registry

open Foundation AiDist

/-- The clock readings of one handler call: `HandleRegister` stamps the record
with the first, `RegisterWorker` builds the id from the second. -/
structure ClockReadings where
  first : Int
  second : Int

/-- The packet that `SendResponse` serializes and sends. -/
def responsePacket (reqSeq : UInt64) (respType : PacketType) (body : Json) :
    AiSchedulePacket where
  transHeader := ⟨0, 0, 0, 0, 0⟩
  baseHeader := { seq := reqSeq, type := respType, senderId := "registry_server" }
  body := body

/-- The record that `HandleRegister` fills in. Its `node_id` is never assigned
and stays the empty string. -/
def registeredNode (req : WorkerRegisterReq) (now : Int) : RegistryNodeInfo where
  nodeId := ""
  nodeAddr := req.nodeAddr
  supportModels := req.supportModels
  totalMemoryMb := req.totalMemoryMb
  availableMemoryMb := req.totalMemoryMb
  weight := req.weight
  lastHeartbeat := now

def handleRegister (lib : JsonLibrary) (clock : ClockReadings) (packet : AiSchedulePacket)
    (manager : RegistryManager) : RegistryManager × Option AiSchedulePacket :=
  match WorkerRegisterReq.fromJson packet.body with
  | .error error =>
      let resp : WorkerRegisterResp :=
        { success := false, nodeId := "", message := "parse failed: " ++ lib.what error }
      (manager, some (responsePacket packet.baseHeader.seq .registerResp resp.toJson))
  | .ok req =>
      let registered := manager.registerWorker (registeredNode req clock.first) clock.second
      let resp : WorkerRegisterResp :=
        { success := true, nodeId := registered.2, message := "register success" }
      (registered.1, some (responsePacket packet.baseHeader.seq .registerResp resp.toJson))

def handleHeartbeat (clock : ClockReadings) (packet : AiSchedulePacket)
    (manager : RegistryManager) : RegistryManager × Option AiSchedulePacket :=
  match Heartbeat.fromJson packet.body with
  | .error _ => (manager, none)
  | .ok hb =>
      (manager.updateHeartbeat hb.nodeId hb.availableMemoryMb hb.onlineModels clock.first, none)

/-- One element of the query's response array. -/
def nodeJson (node : RegistryNodeInfo) : Json :=
  Json.ofFields [("node_id", .string node.nodeId), ("node_addr", .string node.nodeAddr),
    ("available_memory_mb", Json.ofInt32 node.availableMemoryMb),
    ("weight", Json.ofInt32 node.weight)]

def handleQuery (sort : StdSort RegistryNodeInfo) (clock : ClockReadings)
    (packet : AiSchedulePacket) (manager : RegistryManager) :
    RegistryManager × Option AiSchedulePacket :=
  match TaskQueryReq.fromJson packet.body with
  | .error _ => (manager, none)
  | .ok req =>
      let nodes := manager.getOnlineNodesByModel sort req.taskId clock.first
      (manager, some (responsePacket packet.baseHeader.seq .taskQuery
        (.array (nodes.map nodeJson))))

def handleRemove (packet : AiSchedulePacket) (manager : RegistryManager) :
    RegistryManager × Option AiSchedulePacket :=
  match WorkerRemoveReq.fromJson packet.body with
  | .error _ => (manager, none)
  | .ok req => (manager.removeWorker req.nodeId, none)

/-- The registry after a packet, and the response sent for it. -/
def handlePacket (lib : JsonLibrary) (sort : StdSort RegistryNodeInfo) (clock : ClockReadings)
    (packet : AiSchedulePacket) (manager : RegistryManager) :
    RegistryManager × Option AiSchedulePacket :=
  match packet.baseHeader.type with
  | .registerWorker => handleRegister lib clock packet manager
  | .heartbeat => handleHeartbeat clock packet manager
  | .taskQuery => handleQuery sort clock packet manager
  | .workerRemove => handleRemove packet manager
  | _ => (manager, none)

/-- A `PacketParser`. The class is not part of the repository: its state is
abstract, and the laws are what the server relies on. `Feed` appends to a byte
buffer, `ParseAll` takes all complete leading frames out of it, `Reset` empties it. -/
structure PacketParser (lib : JsonLibrary) where
  State : Type
  init : State
  feed : State → List UInt8 → State
  parseAll : State → State × List AiSchedulePacket
  reset : State → State
  buffer : State → List UInt8
  buffer_init : buffer init = []
  buffer_feed : ∀ state data, buffer (feed state data) = buffer state ++ data
  parseAll_packets : ∀ state,
    (parseAll state).2 = (AiSchedulePacket.packetFraming lib).frames (buffer state)
  buffer_parseAll : ∀ state,
    buffer (parseAll state).1 = (AiSchedulePacket.packetFraming lib).rest (buffer state)
  buffer_reset : ∀ state, buffer (reset state) = []

/-- A parser whose state is its byte buffer. -/
def PacketParser.buffering (lib : JsonLibrary) : PacketParser lib where
  State := List UInt8
  init := []
  feed pending data := pending ++ data
  parseAll pending := ((AiSchedulePacket.packetFraming lib).rest pending,
    (AiSchedulePacket.packetFraming lib).frames pending)
  reset _ := []
  buffer pending := pending
  buffer_init := rfl
  buffer_feed _ _ := rfl
  parseAll_packets _ := rfl
  buffer_parseAll _ := rfl
  buffer_reset _ := rfl

/-- The server's own state: the one parser of all connections and the registry. -/
structure RegistryServer {lib : JsonLibrary} (parser : PacketParser lib) where
  parserState : parser.State
  registryManager : RegistryManager

namespace RegistryServer

/-- A connection of the server, by its identity. -/
abbrev ConnId := Nat

/-- A handled packet: the connection it was dispatched with, and the response. -/
structure Dispatch where
  conn : ConnId
  packet : AiSchedulePacket
  response : Option AiSchedulePacket

variable {lib : JsonLibrary} {parser : PacketParser lib}

/-- A constructed server. -/
def start : RegistryServer parser := ⟨parser.init, .empty⟩

def onConnection (server : RegistryServer parser) (isConnected : Bool) : RegistryServer parser :=
  if isConnected then { server with parserState := parser.reset server.parserState } else server

/-- The loop over the parsed packets; the `i`-th handler call takes the readings `clock i`. -/
def dispatchAll (lib : JsonLibrary) (sort : StdSort RegistryNodeInfo)
    (clock : Nat → ClockReadings) (conn : ConnId) (manager : RegistryManager) :
    List AiSchedulePacket → RegistryManager × List Dispatch
  | [] => (manager, [])
  | packet :: packets =>
      let handled := handlePacket lib sort (clock 0) packet manager
      let rest := dispatchAll lib sort (fun i => clock (i + 1)) conn handled.1 packets
      (rest.1, ⟨conn, packet, handled.2⟩ :: rest.2)

/-- `OnMessage`: `data` is the whole readable content of the connection's buffer. -/
def onMessage (sort : StdSort RegistryNodeInfo) (clock : Nat → ClockReadings)
    (server : RegistryServer parser) (conn : ConnId) (data : List UInt8) :
    RegistryServer parser × List Dispatch :=
  let parsed := parser.parseAll (parser.feed server.parserState data)
  if parsed.2.length = 0 then ({ server with parserState := parsed.1 }, [])
  else
    let handled := dispatchAll lib sort clock conn server.registryManager parsed.2
    (⟨parsed.1, handled.1⟩, handled.2)

/-- Every parsed packet is dispatched, with the connection whose bytes were fed last. -/
theorem map_dispatchAll (sort : StdSort RegistryNodeInfo) (clock : Nat → ClockReadings)
    (conn : ConnId) (manager : RegistryManager) (packets : List AiSchedulePacket) :
    (dispatchAll lib sort clock conn manager packets).2.map (fun d => (d.conn, d.packet)) =
      packets.map fun packet => (conn, packet) := by
  induction packets generalizing clock manager with
  | nil => rfl
  | cons packet rest inductionHypothesis =>
      simp only [dispatchAll, List.map_cons, inductionHypothesis]

/-- The packets that one message call dispatches. -/
theorem map_onMessage (sort : StdSort RegistryNodeInfo) (clock : Nat → ClockReadings)
    (server : RegistryServer parser) (conn : ConnId) (data : List UInt8) :
    (server.onMessage sort clock conn data).2.map (fun d => (d.conn, d.packet)) =
      ((AiSchedulePacket.packetFraming lib).frames
        (parser.buffer server.parserState ++ data)).map fun packet => (conn, packet) := by
  rw [← parser.buffer_feed, ← parser.parseAll_packets]
  unfold onMessage
  simp only
  split
  · next none =>
      rw [List.length_eq_zero_iff.mp none]
      rfl
  · exact map_dispatchAll sort clock conn _ _

/-- What stays in the parser's buffer after a message call. -/
theorem buffer_onMessage (sort : StdSort RegistryNodeInfo) (clock : Nat → ClockReadings)
    (server : RegistryServer parser) (conn : ConnId) (data : List UInt8) :
    parser.buffer (server.onMessage sort clock conn data).1.parserState =
      (AiSchedulePacket.packetFraming lib).rest (parser.buffer server.parserState ++ data) := by
  rw [← parser.buffer_feed, ← parser.buffer_parseAll]
  unfold onMessage
  simp only
  split <;> rfl

end RegistryServer

end TurboCore.Registry
