import Mathlib
import TurboCore.AiDist.StreamRoundTrip
import TurboCore.Foundation.Execution
import TurboCore.Registry.Server

/-!
# The streams of several connections in one parser

Connections come up, send chunks and go down in any order; every callback is one
step. A connection is mid-frame when its stream ends in an incomplete frame. The
shared parser keeps the streams apart in the runs in which no chunk arrives and no
connection comes up while some other connection is mid-frame.
-/

namespace TurboCore.Registry.StreamIsolation

open Foundation AiDist AiSchedulePacket RegistryServer

/-- A callback of the server. -/
inductive StreamEvent where
  | connectionUp (conn : ConnId)
  | connectionDown (conn : ConnId)
  | message (conn : ConnId) (chunk : List UInt8) (clock : Nat → ClockReadings)

/-- The server with what the environment has seen of it: the bytes each connection
sent, the connections that are up, those that went down before the latest connection
came up, and all handled packets. -/
structure ServerRun {lib : JsonLibrary} (parser : PacketParser lib) where
  server : RegistryServer parser
  received : ConnId → List UInt8
  connected : ConnId → Bool
  superseded : ConnId → Bool
  dispatched : List Dispatch

variable {lib : JsonLibrary} {parser : PacketParser lib}

namespace ServerRun

def start : ServerRun parser := ⟨.start, fun _ => [], fun _ => false, fun _ => false, []⟩

/-- The packets dispatched with one connection, in order. -/
def packetsOf (run : ServerRun parser) (conn : ConnId) : List AiSchedulePacket :=
  (run.dispatched.filter fun dispatch => dispatch.conn = conn).map (·.packet)

/-- The bytes of the incomplete frame at the end of a connection's stream. -/
def partialFrame (run : ServerRun parser) (conn : ConnId) : List UInt8 :=
  (packetFraming lib).rest (run.received conn)

/-- The connection is mid-frame and no `Reset` has come since it went down. -/
def MidFrame (run : ServerRun parser) (conn : ConnId) : Prop :=
  run.partialFrame conn ≠ [] ∧ run.superseded conn = false

/-- `OnConnection` of a connection that is up. -/
def connectionUp (run : ServerRun parser) (conn : ConnId) : ServerRun parser :=
  { run with
    server := run.server.onConnection true
    connected := Function.update run.connected conn true
    superseded := fun other =>
      decide (other ≠ conn) && (run.superseded other || !run.connected other) }

/-- `OnConnection` of a connection that went down. -/
def connectionDown (run : ServerRun parser) (conn : ConnId) : ServerRun parser :=
  { run with
    server := run.server.onConnection false
    connected := Function.update run.connected conn false }

/-- `OnMessage` with a chunk of a connection's stream. -/
def message (sort : StdSort RegistryNodeInfo) (run : ServerRun parser) (conn : ConnId)
    (chunk : List UInt8) (clock : Nat → ClockReadings) : ServerRun parser :=
  let handled := run.server.onMessage sort clock conn chunk
  { run with
    server := handled.1
    received := Function.update run.received conn (run.received conn ++ chunk)
    dispatched := run.dispatched ++ handled.2 }

end ServerRun

open ServerRun

/-- The callbacks as a machine; a connection comes up once and sends only while it is up. -/
def streamMachine (sort : StdSort RegistryNodeInfo) :
    Machine (ServerRun parser) StreamEvent where
  step run
    | .connectionUp conn =>
        if run.connected conn = false ∧ run.received conn = [] then some (run.connectionUp conn)
        else none
    | .connectionDown conn =>
        if run.connected conn then some (run.connectionDown conn) else none
    | .message conn chunk clock =>
        if run.connected conn then some (run.message sort conn chunk clock) else none

/-- Each connection got exactly the packets of its own stream, in order, each once. -/
def Isolated (run : ServerRun parser) : Prop :=
  ∀ conn, run.packetsOf conn = (packetFraming lib).frames (run.received conn)

/-- No connection comes up while a connected one is mid-frame, and no chunk arrives
while another connection is mid-frame. -/
def NoOtherMidFrame (run : ServerRun parser) : StreamEvent → Prop
  | .connectionUp _ => ∀ other, run.connected other = true → run.partialFrame other = []
  | .connectionDown _ => True
  | .message conn _ _ => ∀ other, other ≠ conn → ¬ run.MidFrame other

/-- The parser's buffer is the partial frame of the one connection that is mid-frame. -/
structure OneOwner (run : ServerRun parser) : Prop where
  isolated : Isolated run
  down : ∀ conn, run.superseded conn = true → run.connected conn = false
  single : ∀ first second, run.MidFrame first → run.MidFrame second → first = second
  owned : ∀ conn, run.MidFrame conn →
    parser.buffer run.server.parserState = run.partialFrame conn
  unowned : (∀ conn, ¬ run.MidFrame conn) → parser.buffer run.server.parserState = []

theorem OneOwner.start : OneOwner (.start : ServerRun parser) where
  isolated conn := by simp [ServerRun.packetsOf, ServerRun.start]
  down conn superseded := by simp [ServerRun.start] at superseded
  single first second midFrame := by
    simp [ServerRun.MidFrame, ServerRun.partialFrame, ServerRun.start] at midFrame
  owned conn midFrame := by
    simp [ServerRun.MidFrame, ServerRun.partialFrame, ServerRun.start] at midFrame
  unowned _ := parser.buffer_init

theorem OneOwner.live {run : ServerRun parser} (owner : OneOwner run) {conn : ConnId}
    (up : run.connected conn = true) : run.superseded conn = false := by
  by_contra superseded
  have down := owner.down conn (by simpa using superseded)
  rw [up] at down
  cases down

/-- Where only `conn` may be mid-frame, the buffer is its partial frame. -/
theorem OneOwner.buffer_eq {run : ServerRun parser} (owner : OneOwner run) {conn : ConnId}
    (up : run.connected conn = true) (alone : ∀ other, other ≠ conn → ¬ run.MidFrame other) :
    parser.buffer run.server.parserState = run.partialFrame conn := by
  by_cases midFrame : run.MidFrame conn
  · exact owner.owned conn midFrame
  · have live := owner.live up
    have complete : run.partialFrame conn = [] := by
      by_contra nonempty
      exact midFrame ⟨nonempty, live⟩
    have nobody : ∀ other, ¬ run.MidFrame other := by
      intro other
      by_cases same : other = conn
      · exact same ▸ midFrame
      · exact alone other same
    rw [owner.unowned nobody, complete]

/-- The dispatches of one message call, seen from every connection. -/
theorem packetsOf_onMessage (sort : StdSort RegistryNodeInfo) (clock : Nat → ClockReadings)
    (server : RegistryServer parser) (conn other : ConnId) (chunk : List UInt8) :
    (((server.onMessage sort clock conn chunk).2.filter
        fun dispatch => dispatch.conn = other).map (·.packet)) =
      if other = conn then
        (packetFraming lib).frames (parser.buffer server.parserState ++ chunk)
      else [] := by
  have tagged := map_onMessage sort clock server conn chunk
  have untagged : ∀ (dispatches : List Dispatch) (packets : List AiSchedulePacket),
      dispatches.map (fun d => (d.conn, d.packet)) = packets.map (fun packet => (conn, packet)) →
      (dispatches.filter fun dispatch => dispatch.conn = other).map (·.packet) =
        if other = conn then packets else [] := by
    intro dispatches
    induction dispatches with
    | nil =>
        intro packets same
        cases packets with
        | nil => simp
        | cons _ _ => simp at same
    | cons head tail inductionHypothesis =>
        intro packets same
        cases packets with
        | nil => simp at same
        | cons packet rest =>
            simp only [List.map_cons, List.cons.injEq, Prod.mk.injEq] at same
            obtain ⟨⟨sameConn, samePacket⟩, sameTail⟩ := same
            have remaining := inductionHypothesis rest sameTail
            by_cases own : other = conn
            · subst own
              simpa [sameConn, samePacket] using remaining
            · have skipped : head.conn ≠ other := fun equal => own (equal.symm.trans sameConn)
              simpa [skipped, own] using remaining
  exact untagged _ _ tagged

/-- A chunk adds to its own connection what the parser's buffer and the chunk make up. -/
theorem packetsOf_message (sort : StdSort RegistryNodeInfo) (run : ServerRun parser)
    (conn other : ConnId) (chunk : List UInt8) (clock : Nat → ClockReadings) :
    (run.message sort conn chunk clock).packetsOf other =
      run.packetsOf other ++ if other = conn then
        (packetFraming lib).frames (parser.buffer run.server.parserState ++ chunk) else [] := by
  simp only [ServerRun.packetsOf, ServerRun.message]
  rw [List.filter_append, List.map_append, packetsOf_onMessage]

/-- A reset while no connected connection is mid-frame leaves nobody mid-frame. -/
theorem OneOwner.connectionUp {run : ServerRun parser} (owner : OneOwner run) {conn : ConnId}
    (silent : run.received conn = [])
    (guarded : ∀ other, run.connected other = true → run.partialFrame other = []) :
    OneOwner (run.connectionUp conn) := by
  have nobody : ∀ other, ¬ (run.connectionUp conn).MidFrame other := by
    rintro other ⟨nonempty, live⟩
    by_cases same : other = conn
    · subst same
      simp [ServerRun.partialFrame, ServerRun.connectionUp, silent] at nonempty
    · simp only [ServerRun.connectionUp, same, ne_eq, not_false_eq_true, decide_true,
        Bool.true_and, Bool.or_eq_false_iff, Bool.not_eq_false'] at live
      exact nonempty (guarded other live.2)
  refine ⟨owner.isolated, ?_, ?_, ?_, ?_⟩
  · intro other superseded
    simp only [ServerRun.connectionUp, Bool.and_eq_true, decide_eq_true_eq, Bool.or_eq_true,
      Bool.not_eq_true'] at superseded ⊢
    obtain ⟨different, before⟩ := superseded
    rw [Function.update_of_ne different]
    rcases before with superseded | down
    · exact owner.down other superseded
    · exact down
  · intro first second midFrame
    exact absurd midFrame (nobody first)
  · intro other midFrame
    exact absurd midFrame (nobody other)
  · intro _
    exact parser.buffer_reset _

theorem OneOwner.connectionDown {run : ServerRun parser} (owner : OneOwner run)
    (conn : ConnId) : OneOwner (run.connectionDown conn) := by
  refine ⟨owner.isolated, ?_, owner.single, owner.owned, owner.unowned⟩
  intro other superseded
  have down := owner.down other superseded
  by_cases same : other = conn
  · simp [ServerRun.connectionDown, same]
  · simpa [ServerRun.connectionDown, Function.update_of_ne same] using down

/-- A chunk of `conn` while nobody else is mid-frame: the parser continues `conn`'s stream. -/
theorem OneOwner.message {sort : StdSort RegistryNodeInfo} {run : ServerRun parser}
    (owner : OneOwner run) {conn : ConnId} (up : run.connected conn = true)
    (guarded : ∀ other, other ≠ conn → ¬ run.MidFrame other)
    (chunk : List UInt8) (clock : Nat → ClockReadings) :
    OneOwner (run.message sort conn chunk clock) := by
  have before : parser.buffer run.server.parserState =
      (packetFraming lib).rest (run.received conn) := owner.buffer_eq up guarded
  have onlyConn : ∀ other, (run.message sort conn chunk clock).MidFrame other →
      other = conn := by
    rintro other ⟨nonempty, live⟩
    by_contra different
    refine guarded other different ⟨?_, live⟩
    simpa [ServerRun.partialFrame, ServerRun.message, Function.update_of_ne different]
      using nonempty
  have partialAfter : (run.message sort conn chunk clock).partialFrame conn =
      (packetFraming lib).rest (run.received conn ++ chunk) := by
    simp [ServerRun.partialFrame, ServerRun.message]
  have after : parser.buffer (run.message sort conn chunk clock).server.parserState =
      (packetFraming lib).rest (run.received conn ++ chunk) := by
    rw [ServerRun.message, buffer_onMessage, before, ← Framing.rest_append]
  refine ⟨?_, owner.down, ?_, ?_, ?_⟩
  · intro other
    rw [packetsOf_message, owner.isolated other]
    by_cases same : other = conn
    · subst same
      simp only [ServerRun.message, if_true, Function.update_self]
      rw [before, ← Framing.frames_append]
    · simp [ServerRun.message, same]
  · intro first second firstMid secondMid
    rw [onlyConn first firstMid, onlyConn second secondMid]
  · intro other midFrame
    have same := onlyConn other midFrame
    subst same
    rw [after, partialAfter]
  · intro nobody
    have live := owner.live up
    rw [after]
    by_contra nonempty
    exact nobody conn ⟨partialAfter ▸ nonempty, live⟩

/-- A guarded callback keeps the buffer with its one owner. -/
theorem OneOwner.step {sort : StdSort RegistryNodeInfo} {run next : ServerRun parser}
    {event : StreamEvent} (owner : OneOwner run) (guarded : NoOtherMidFrame run event)
    (transition : (streamMachine sort).step run event = some next) : OneOwner next := by
  cases event with
  | connectionUp conn =>
      simp only [streamMachine, Option.ite_none_right_eq_some, Option.some.injEq] at transition
      obtain ⟨⟨_, silent⟩, rfl⟩ := transition
      exact owner.connectionUp silent guarded
  | connectionDown conn =>
      simp only [streamMachine, Option.ite_none_right_eq_some, Option.some.injEq] at transition
      obtain ⟨_, rfl⟩ := transition
      exact owner.connectionDown conn
  | message conn chunk clock =>
      simp only [streamMachine, Option.ite_none_right_eq_some, Option.some.injEq] at transition
      obtain ⟨up, rfl⟩ := transition
      exact owner.message up guarded chunk clock

/-- In every run in which no connection comes up and no chunk arrives while another
connection is mid-frame, each connection gets exactly the packets of its own stream. -/
theorem isolated_of_noOtherMidFrame (sort : StdSort RegistryNodeInfo) {events : List StreamEvent}
    {run : ServerRun parser}
    (guarded : (streamMachine sort).Run NoOtherMidFrame .start events run) : Isolated run := by
  have owner : OneOwner run := guarded.invariant OneOwner OneOwner.start
    fun _ _ _ owner guard transition => owner.step guard transition
  exact owner.isolated

def heartbeatFrame : List UInt8 := heartbeatCall.packet.serialize workerLibrary []

theorem rest_heartbeatFrame : (packetFraming workerLibrary).rest heartbeatFrame = [] := by
  have first : heartbeatCall ∈ workerCalls := List.mem_cons_self
  exact Framing.rest_of_whole _
    (next_serialize (workerLibrary_faithful _ first) (workerLibrary_short _ first))

/-- Two clients are up. The first sends a heartbeat packet in two chunks, the second one
packet before and one behind it. -/
def heartbeatInTwoChunks : List StreamEvent :=
  [.connectionUp 1, .connectionUp 2, .message 2 heartbeatFrame fun _ => ⟨0, 0⟩,
    .message 1 (heartbeatFrame.take 20) fun _ => ⟨0, 0⟩,
    .message 1 (heartbeatFrame.drop 20) fun _ => ⟨0, 0⟩,
    .message 2 heartbeatFrame fun _ => ⟨0, 0⟩]

/-- The streams of `heartbeatInTwoChunks` are dispatched as they were sent. -/
theorem isolated_heartbeatInTwoChunks : ∃ run : ServerRun (PacketParser.buffering workerLibrary),
    (streamMachine (.merge _)).exec .start heartbeatInTwoChunks = some run ∧ Isolated run := by
  have guarded : (streamMachine (.merge _)).Guarded NoOtherMidFrame
      (.start : ServerRun (PacketParser.buffering workerLibrary)) heartbeatInTwoChunks := by
    rintro _ ⟨⟩
    refine ⟨fun other up => absurd up Bool.false_ne_true, ?_⟩
    rintro _ ⟨⟩
    refine ⟨fun other _ => Framing.rest_nil _, ?_⟩
    rintro _ ⟨⟩
    refine ⟨fun other _ midFrame => midFrame.1 (Framing.rest_nil _), ?_⟩
    -- the second client's stream ends with its packet
    rintro _ ⟨⟩
    refine ⟨fun other different midFrame => midFrame.1 ?_, ?_⟩
    · by_cases second : other = 2
      · subst second
        exact rest_heartbeatFrame
      · simp [ServerRun.partialFrame, ServerRun.message, ServerRun.connectionUp, ServerRun.start,
          second]
    rintro _ ⟨⟩
    refine ⟨fun other different midFrame => midFrame.1 ?_, ?_⟩
    · by_cases second : other = 2
      · subst second
        exact rest_heartbeatFrame
      · simp [ServerRun.partialFrame, ServerRun.message, ServerRun.connectionUp, ServerRun.start,
          second, different]
    -- and so does the first client's
    rintro _ ⟨⟩
    refine ⟨fun other different midFrame => midFrame.1 ?_, trivial⟩
    by_cases first : other = 1
    · subst first
      simp [ServerRun.partialFrame, ServerRun.message, ServerRun.connectionUp, ServerRun.start,
        rest_heartbeatFrame]
    · simp [ServerRun.partialFrame, ServerRun.message, ServerRun.connectionUp, ServerRun.start,
        different, first]
  exact ⟨_, rfl, isolated_of_noOtherMidFrame (.merge _) (Machine.run_of_guarded rfl guarded)⟩

/-- A client sends a packet in two chunks, and another client connects in between. -/
def splitPacket (clock : Nat → ClockReadings) (first second : List UInt8) : List StreamEvent :=
  [.connectionUp 1, .message 1 first clock, .connectionUp 2, .message 1 second clock]

/-- When the second chunk of a whole frame is shorter than a header, neither chunk
alone holds a frame, and the packet is lost. -/
theorem splitPacket_not_isolated (sort : StdSort RegistryNodeInfo)
    (clock : Nat → ClockReadings) {frame : List UInt8} {packet : AiSchedulePacket}
    (whole : (packetFraming lib).next frame = some (packet, frame.length)) :
    ∃ run : ServerRun (PacketParser.buffering lib),
      (streamMachine sort).AnyRun .start
        (splitPacket clock (frame.take (frame.length - 1)) (frame.drop (frame.length - 1))) run ∧
      ¬ Isolated run := by
  have positive := (packetFraming lib).positive whole
  let first := frame.take (frame.length - 1)
  let second := frame.drop (frame.length - 1)
  let before : ServerRun (PacketParser.buffering lib) :=
    ((ServerRun.start.connectionUp 1).message sort 1 first clock).connectionUp 2
  refine ⟨before.message sort 1 second clock, ?_, ?_⟩
  · apply Machine.run_of_exec
    simp [Machine.exec, splitPacket, streamMachine, ServerRun.start, ServerRun.connectionUp,
      ServerRun.message, before, first, second]
  · intro isolated
    have noFirst : (packetFraming lib).frames first = [] :=
      (packetFraming lib).frames_take_of_whole whole (by omega)
    have noSecond : (packetFraming lib).frames second = [] := by
      have short : second.length < TransportHeader.headerSize := by
        simp only [second, List.length_drop, TransportHeader.headerSize]
        omega
      rw [Framing.frames, Framing.split_eq_of_none _ (nextFrame_of_short short)]
    have started : (PacketParser.buffering lib).buffer
        ((ServerRun.start.connectionUp 1 : ServerRun (PacketParser.buffering lib))
          ).server.parserState = [] := rfl
    have reset : (PacketParser.buffering lib).buffer before.server.parserState = [] := rfl
    have dispatchedFirst : before.packetsOf 1 = [] := by
      change ((ServerRun.start.connectionUp 1).message sort 1 first clock).packetsOf 1 = []
      rw [packetsOf_message, started, List.nil_append, noFirst]
      rfl
    have dispatched : (before.message sort 1 second clock).packetsOf 1 = [] := by
      rw [packetsOf_message, reset, List.nil_append, noSecond, dispatchedFirst]
      rfl
    have received : (before.message sort 1 second clock).received 1 = frame := by
      change [] ++ first ++ second = frame
      exact List.take_append_drop _ frame
    have complete := isolated 1
    rw [dispatched, received, (packetFraming lib).frames_of_whole whole] at complete
    cases complete

/-- Not every run keeps the streams apart: the reset for the second client drops the
first chunk of the first client's packet, which is then never dispatched. -/
theorem streams_not_always_isolated :
    ¬ ∀ (lib : JsonLibrary) (parser : PacketParser lib) (sort : StdSort RegistryNodeInfo)
      (events : List StreamEvent) (run : ServerRun parser),
      (streamMachine sort).AnyRun .start events run → Isolated run := by
  intro always
  have first : heartbeatCall ∈ workerCalls := List.mem_cons_self
  obtain ⟨run, split, mixed⟩ := splitPacket_not_isolated (.merge RegistryNodeInfo)
    (fun _ => ⟨0, 0⟩)
    (next_serialize (workerLibrary_faithful _ first) (workerLibrary_short _ first))
  exact mixed (always workerLibrary _ _ _ run split)

end TurboCore.Registry.StreamIsolation
