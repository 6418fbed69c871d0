import Mathlib
import TurboCore.Foundation.Progress
import TurboCore.Registry.Session

/-!
# The responses of a session

What the client can decode from the bytes that the server's kernel took. The responses
are those to the client's register requests and readable queries, in the order of the
requests and each with the number of its own; and as long as nobody closes a connection
and no write fails, a session can always be brought to its end.
-/

namespace TurboCore.Registry

open Foundation AiDist AiSchedulePacket Net

open RegistryServer (Dispatch dispatchAll sendResponse)

/-- The server answers a register request, and a query that it can read. -/
def wantsAnswer (packet : AiSchedulePacket) : Bool :=
  match packet.baseHeader.type with
  | .registerWorker => true
  | .taskQuery => (TaskQueryReq.fromJson packet.body).toOption.isSome
  | _ => false

/-- The packet type of the answer to a packet of this type. -/
def answerType : PacketType → PacketType
  | .registerWorker => .registerResp
  | _ => .taskQuery

/-- The header of the answer to a packet. -/
def answerHeader (packet : AiSchedulePacket) : BasePacket where
  seq := packet.baseHeader.seq
  type := answerType packet.baseHeader.type
  senderId := "registry_server"

@[simp] theorem wantsAnswer_asRead (lib : JsonLibrary) (packet : AiSchedulePacket) :
    wantsAnswer (asRead lib packet) = wantsAnswer packet := rfl

@[simp] theorem answerHeader_asRead (lib : JsonLibrary) (packet : AiSchedulePacket) :
    answerHeader (asRead lib packet) = answerHeader packet := rfl

/-- A handled packet has an answer exactly when it wants one, with its own number. -/
theorem handlePacket_answers (lib : JsonLibrary) (sort : StdSort RegistryNodeInfo)
    (clock : ClockReadings) (packet : AiSchedulePacket) (manager : RegistryManager) :
    (handlePacket lib sort clock packet manager).2.map (·.baseHeader) =
      if wantsAnswer packet then some (answerHeader packet) else none := by
  unfold handlePacket wantsAnswer answerHeader
  cases type : packet.baseHeader.type with
  | registerWorker =>
      simp only [handleRegister]
      split <;> rfl
  | taskQuery =>
      simp only [handleQuery]
      split
      · next unread => rw [unread]; rfl
      · next req read => rw [read]; rfl
  | heartbeat =>
      simp only [handleHeartbeat]
      split <;> rfl
  | workerRemove =>
      simp only [handleRemove]
      split <;> rfl
  | registerResp | submitTask | taskDispatch | taskResultReport | unnamed => rfl

/-- The answers to a batch are those its packets want, in order. -/
theorem dispatchAll_answers (lib : JsonLibrary) (sort : StdSort RegistryNodeInfo)
    (clock : Nat → ClockReadings) (conn : Net.ConnId) (manager : RegistryManager)
    (packets : List AiSchedulePacket) :
    ((dispatchAll lib sort clock conn manager packets).2.filterMap (·.response)).map
        (·.baseHeader) =
      (packets.filter wantsAnswer).map answerHeader := by
  induction packets generalizing clock manager with
  | nil => rfl
  | cons packet later inductionHypothesis =>
      have here := handlePacket_answers lib sort (clock 0) packet manager
      simp only [dispatchAll, List.filterMap_cons, List.filter_cons]
      cases response : (handlePacket lib sort (clock 0) packet manager).2 with
      | none =>
          rw [response, Option.map_none] at here
          split_ifs at here with wants
          rw [if_neg wants]
          exact inductionHypothesis _ _
      | some answer =>
          rw [response, Option.map_some] at here
          split_ifs at here with wants
          rw [if_pos wants, List.map_cons, List.map_cons, Option.some.inj here,
            inductionHypothesis]

namespace Session.InOrder

variable {lib : JsonLibrary} {parser : PacketParser lib} {sort : StdSort RegistryNodeInfo}
  {clock : Nat → ClockReadings} {self : Net.ConnId} {origin : RegistryManager}
  {session : Session parser}

theorem of_run {events : List SessionEvent} {clientFd connFd : Nat}
    {clientPoller poller : EpollPoller} {server : RegistryServer parser}
    (executed : (sessionMachine sort clock self).AnyRun
      (.start self clientFd connFd clientPoller poller server) events session) :
    InOrder sort clock self server.registryManager session :=
  executed.invariant _ (.start clientFd connFd clientPoller poller server)
    fun _ _ _ inOrder _ transition => inOrder.step transition

/-- What the kernel took from the server is read as the first responses. -/
theorem decoded (inOrder : InOrder sort clock self origin session)
    (printed : ∀ packet ∈ session.replied, Printed lib packet) :
    ∃ count ≤ session.replied.length,
      (packetFraming lib).frames session.downstream =
        (session.replied.take count).map (asRead lib) ∧
      (session.conn.output = [] → count = session.replied.length) :=
  Framing.frames_of_arrived (fun packet member => (printed packet member).encodes)
    inOrder.downward

/-- The headers of the responses are the answers to the packets served. -/
theorem answers (inOrder : InOrder sort clock self origin session) {count : Nat}
    (handled : dispatchAll lib sort clock self origin
        ((session.requested.take count).map (asRead lib)) =
      (session.server.registryManager, session.dispatched)) :
    session.replied.map (·.baseHeader) =
      ((session.requested.take count).filter wantsAnswer).map answerHeader := by
  have headers := dispatchAll_answers lib sort clock self origin
    ((session.requested.take count).map (asRead lib))
  rw [handled, ← inOrder.replies, List.filter_map, List.map_map] at headers
  exact headers

end Session.InOrder

/-- In every run of a session in which every read of the server's stores bytes, the client
reads, from what the server's kernel took, answers to its own requests only: the `i`-th response
has the number of the `i`-th packet that wants an answer. Once nothing is on the way in either
direction each of them has been answered. -/
theorem session_answers_in_order {lib : JsonLibrary} {parser : PacketParser lib}
    (sort : StdSort RegistryNodeInfo) (clock : Nat → ClockReadings) (self : Net.ConnId)
    (clientFd connFd : Nat) (clientPoller poller : EpollPoller) (server : RegistryServer parser)
    {events : List SessionEvent} {session : Session parser}
    (executed : (sessionMachine sort clock self).AnyRun
      (.start self clientFd connFd clientPoller poller server) events session)
    (printed : ∀ packet ∈ session.requested ++ session.replied, Printed lib packet) :
    ((packetFraming lib).frames session.downstream).map (·.baseHeader) <+:
        (session.requested.filter wantsAnswer).map answerHeader ∧
      (session.upstream = [] → session.client.output = [] → session.conn.output = [] →
        ((packetFraming lib).frames session.downstream).map (·.baseHeader) =
          (session.requested.filter wantsAnswer).map answerHeader) := by
  have inOrder := Session.InOrder.of_run executed
  obtain ⟨served, _, handled, allServed⟩ := inOrder.served fun packet member =>
    printed packet (List.mem_append_left _ member)
  obtain ⟨count, _, frames, allRead⟩ := inOrder.decoded fun packet member =>
    printed packet (List.mem_append_right _ member)
  have answers := inOrder.answers handled
  have headers : ((packetFraming lib).frames session.downstream).map (·.baseHeader) =
      (session.replied.map (·.baseHeader)).take count := by
    rw [frames, List.map_map, ← List.map_take]
    rfl
  constructor
  · rw [headers, answers]
    refine (List.take_prefix _ _).trans ?_
    exact ((List.take_prefix _ _).filter _).map _
  · intro arrived requestsWritten answersWritten
    rw [headers, allRead answersWritten, ← List.length_map (·.baseHeader), List.take_length,
      answers,
      allServed arrived requestsWritten, List.take_length]

/-- A query that no worker matches, and its answer. -/
def queryCall : BuildCall where
  seq := 9
  type := .taskQuery
  senderId := "u1"
  kind := .taskQueryReq
  value := { taskId := "m" }

/-- The text of the query. -/
def queryText : List UInt8 := asciiBytes
  ("\x7b\"base\":\x7b\"sender_id\":\"u1\",\"seq\":9,\"type\":6\x7d," ++
    "\"body\":\x7b\"task_id\":\"m\"\x7d\x7d")

/-- The text of the answer: an empty array. -/
def noWorkersText : List UInt8 := asciiBytes
  ("\x7b\"base\":\x7b\"sender_id\":\"registry_server\",\"seq\":9,\"type\":6\x7d," ++
    "\"body\":[]\x7d")

/-- The answer's packet. -/
def noWorkers : AiSchedulePacket := responsePacket 9 .taskQuery (.array [])

/-- The text layer that prints and parses these two packets as the JSON library does. -/
def queryLibrary : JsonLibrary where
  dump json :=
    match json.atKey "base" >>= (·.atKey "sender_id") >>= (·.getString) with
    | .ok "u1" => queryText
    | _ => noWorkersText
  parse text :=
    if text = queryText then .ok queryCall.packet.fullBody
    else if text = noWorkersText then .ok noWorkers.fullBody
    else .error .parseError
  what _ := "parse error"

/-- A query, and its answer on the way back in two pieces. -/
def queryAndAnswer : List SessionEvent :=
  [.request queryCall.packet, .clientWrite (.wrote 83), .serverRead 30, .serverRead 53,
    .serverWrite (.wrote 11), .serverWrite (.wrote 72)]

/-- A server that has just started, with this text layer. -/
abbrev queryServer : RegistryServer (PacketParser.buffering queryLibrary) := .start

private theorem printed_query : Printed queryLibrary queryCall.packet := by
  have text : queryLibrary.dump queryCall.packet.fullBody = queryText := by decide +kernel
  rw [Printed, text]
  exact ⟨by simp [queryLibrary], by decide +kernel⟩

private theorem printed_noWorkers : Printed queryLibrary noWorkers := by
  have text : queryLibrary.dump noWorkers.fullBody = noWorkersText := by decide +kernel
  have other : noWorkersText ≠ queryText := by decide +kernel
  rw [Printed, text]
  exact ⟨by simp [queryLibrary, other], by decide +kernel⟩

/-- The client reads the one answer, with the number of its query. -/
theorem query_is_answered : ∃ session,
    (sessionMachine (.merge _) (fun _ => ⟨0, 0⟩) 0).exec (.start 0 4 5 ∅ ∅ queryServer)
        queryAndAnswer = some session ∧
      ((packetFraming queryLibrary).frames session.downstream).map (·.baseHeader) =
        [answerHeader queryCall.packet] := by
  have observed : ((sessionMachine (.merge _) (fun _ => ⟨0, 0⟩) 0).exec
      (.start 0 4 5 ∅ ∅ queryServer) queryAndAnswer).map (fun session =>
        (session.upstream, session.client.output, session.conn.output,
          session.requested.length)) = some ([], [], [], 1) := by decide +kernel
  obtain ⟨session, executed, seen⟩ := Option.map_eq_some_iff.mp observed
  simp only [Prod.mk.injEq] at seen
  obtain ⟨arrived, requestsWritten, answersWritten, one⟩ := seen
  have run := Machine.run_of_exec executed
  obtain ⟨packet, requested⟩ := List.length_eq_one_iff.mp one
  have sent := Session.mem_requested rfl run packet (by simp [requested])
  obtain rfl : packet = queryCall.packet := by simpa [queryAndAnswer] using sent
  have printed : ∀ packet ∈ session.requested, Printed queryLibrary packet := by
    simpa [requested] using printed_query
  have inOrder := Session.InOrder.of_run run
  obtain ⟨count, _, handled, all⟩ := inOrder.served printed
  rw [all arrived requestsWritten, List.take_length, requested] at handled
  have replied : session.replied = [noWorkers] := by
    have dispatched : _ = session.dispatched := congrArg Prod.snd handled
    have nobody : RegistryManager.empty.getOnlineNodesByModel (.merge _) "m" 0 = [] :=
      List.mergeSort_nil
    rw [inOrder.replies, ← dispatched]
    simp [dispatchAll, handlePacket, handleQuery, asRead, queryCall, BuildCall.packet, build,
      MessageKind.toJson, RegistryServer.start, nobody, noWorkers]
  have answered := (session_answers_in_order (.merge _) (fun _ => ⟨0, 0⟩) 0 4 5 ∅ ∅ queryServer run
    (by simpa [requested, replied] using ⟨printed_query, printed_noWorkers⟩)).2
      arrived requestsWritten answersWritten
  rw [requested] at answered
  exact ⟨session, executed, answered⟩

end TurboCore.Registry
