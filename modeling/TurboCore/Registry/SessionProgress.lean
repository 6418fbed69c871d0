import Mathlib
import TurboCore.Foundation.Progress
import TurboCore.Registry.SessionReplies

/-!
# A session can always be brought to its end

The code closes no connection of its own accord: while nobody closes one, no write fails
and every read stores bytes, both stay connected. From every such moment the handlers
alone, called for events that the channels ask for, carry every packet to the server and
every response back.
-/

namespace TurboCore.Registry

open Foundation AiDist AiSchedulePacket Net

open RegistryServer (dispatchAll)

/-- Nobody closes a connection, and no write fails. -/
def SessionEvent.Healthy : SessionEvent → Prop
  | .request _ | .serverRead _ => True
  | .clientWrite result | .serverWrite result => result ≠ .failed
  | .clientClose | .serverClose => False

instance : DecidablePred SessionEvent.Healthy
  | .request _ | .serverRead _ => .isTrue trivial
  | .clientWrite result | .serverWrite result => inferInstanceAs (Decidable (result ≠ .failed))
  | .clientClose | .serverClose => .isFalse id

/-- A handler that moves bytes. -/
def SessionEvent.Transfers : SessionEvent → Prop
  | .clientWrite (.wrote _) | .serverRead _ | .serverWrite (.wrote _) => True
  | _ => False

namespace Session

variable {lib : JsonLibrary} {parser : PacketParser lib} {sort : StdSort RegistryNodeInfo}
  {clock : Nat → ClockReadings} {self : Net.ConnId} {origin : RegistryManager}
  {session next : Session parser}

/-- Both ends are connected. -/
structure Up (session : Session parser) : Prop where
  client : session.client.conn.isConnected = true
  conn : session.conn.conn.isConnected = true

/-- Nothing is on the way in either direction. -/
structure Finished (session : Session parser) : Prop where
  requestsWritten : session.client.output = []
  arrived : session.upstream = []
  answersWritten : session.conn.output = []

theorem Up.step {event : SessionEvent} (up : session.Up)
    (inOrder : InOrder sort clock self origin session) (healthy : event.Healthy)
    (transition : (sessionMachine sort clock self).step session event = some next) :
    next.Up := by
  cases event with
  | request packet =>
      cases transition
      exact ⟨(Attached.send_isConnected _ _ _).trans up.client, up.conn⟩
  | clientWrite result =>
      simp only [sessionMachine, Option.ite_none_right_eq_some, Option.some.injEq] at transition
      obtain ⟨⟨asked, answers⟩, rfl⟩ := transition
      exact ⟨inOrder.client.writeOut_isConnected asked answers healthy up.client, up.conn⟩
  | serverRead count =>
      simp only [sessionMachine, Option.ite_none_right_eq_some, Option.some.injEq] at transition
      obtain ⟨_, rfl⟩ := transition
      exact ⟨up.client, (RegistryServer.responses_isConnected _ _ _).trans up.conn⟩
  | serverWrite result =>
      simp only [sessionMachine, Option.ite_none_right_eq_some, Option.some.injEq] at transition
      obtain ⟨⟨asked, answers⟩, rfl⟩ := transition
      exact ⟨up.client, inOrder.conn.writeOut_isConnected asked answers healthy up.conn⟩
  | clientClose | serverClose => cases healthy

/-- The bytes that the client has still to get to the server, and those of the responses. -/
def remaining (session : Session parser) : ℕ ×ₗ ℕ :=
  toLex (2 * session.client.output.length + session.upstream.length, session.conn.output.length)

/-- The vectors of a read hold at least one byte. -/
theorem iovLengths_pos (buffer : Buffer) : 0 < buffer.iovLengths.sum := by
  unfold Buffer.iovLengths extrabufSize
  split
  · simp
  · simp only [List.sum_cons, List.sum_nil]
    omega

/-- While something is on the way, a handler whose channel asks for it moves some of it. -/
theorem advances (requested : List AiSchedulePacket) :
    (sessionMachine sort clock self).Advances SessionEvent.Transfers
      (fun session => InOrder sort clock self origin session ∧ session.Up ∧
        session.requested = requested) Finished (@remaining lib parser) := by
  rintro session ⟨inOrder, up, same⟩ unfinished
  -- a transfer keeps the invariant, so each case names its event and the bytes it moves
  suffices ∃ event next, event.Transfers ∧ event.Healthy ∧
      (sessionMachine sort clock self).step session event = some next ∧
      next.requested = session.requested ∧ next.remaining < session.remaining by
    obtain ⟨event, next, transfers, healthy, transition, kept, lower⟩ := this
    exact ⟨event, next, transfers, transition,
      ⟨inOrder.step transition, up.step inOrder healthy transition, kept.trans same⟩, lower⟩
  by_cases requests : session.client.output = []
  · by_cases arriving : session.upstream = []
    · have pending : session.conn.output ≠ [] := fun answers =>
        unfinished ⟨requests, arriving, answers⟩
      obtain ⟨asked, answers, empty, _⟩ := @Tended.writeOut_all self _ inOrder.conn up.conn pending
      refine ⟨.serverWrite (.wrote session.conn.conn.outputBuffer.readableBytes), _, trivial,
        by simp [SessionEvent.Healthy], if_pos ⟨asked, answers⟩, rfl, ?_⟩
      have some := List.length_pos_of_ne_nil pending
      refine Prod.Lex.right _ ?_
      simpa [serverWrite, empty] using some
    · have some := List.length_pos_of_ne_nil arriving
      have reading : session.conn.conn.channel.reading = true := inOrder.conn.reading.trans up.conn
      refine ⟨.serverRead 1, _, trivial, trivial,
        if_pos ⟨reading, Nat.one_pos, some, iovLengths_pos _⟩, rfl, Prod.Lex.left _ _ ?_⟩
      simp only [serverRead, List.length_drop]
      omega
  · obtain ⟨asked, answers, empty, taken⟩ :=
      @Tended.writeOut_all self _ inOrder.client up.client requests
    refine ⟨.clientWrite (.wrote session.client.conn.outputBuffer.readableBytes), _, trivial,
      by simp [SessionEvent.Healthy], if_pos ⟨asked, answers⟩, rfl, Prod.Lex.left _ _ ?_⟩
    have some := List.length_pos_of_ne_nil requests
    simp only [clientWrite, empty, taken, List.length_append, List.length_nil]
    omega

end Session

/-- In every run in which nobody closes a connection, no write fails and every read of the
server's stores bytes, both ends stay connected, and from every moment of it handlers that only
move bytes, on events that their channels ask for, bring the session to an end at which every
packet of the client has been handled and the server's kernel has taken every response. -/
theorem session_can_finish {lib : JsonLibrary} {parser : PacketParser lib}
    (sort : StdSort RegistryNodeInfo) (clock : Nat → ClockReadings) (self : Net.ConnId)
    (clientFd connFd : Nat) (clientPoller poller : EpollPoller) (server : RegistryServer parser)
    {events : List SessionEvent} {session : Session parser}
    (executed : (sessionMachine sort clock self).Run (fun _ event => event.Healthy)
      (.start self clientFd connFd clientPoller poller server) events session)
    (printed : ∀ packet ∈ session.requested, Printed lib packet) :
    session.Up ∧ ∃ more final, (∀ event ∈ more, event.Transfers) ∧
      (sessionMachine sort clock self).exec session more = some final ∧ final.Up ∧
      dispatchAll lib sort clock self server.registryManager
          (session.requested.map (asRead lib)) =
        (final.server.registryManager, final.dispatched) ∧
      final.downstream = Session.wire lib (final.dispatched.filterMap (·.response)) := by
  obtain ⟨inOrder, up⟩ := executed.invariant
    (fun session => Session.InOrder sort clock self server.registryManager session ∧ session.Up)
    ⟨.start clientFd connFd clientPoller poller server, rfl, rfl⟩
    fun _ _ _ holds healthy transition =>
      ⟨holds.1.step transition, holds.2.step holds.1 healthy transition⟩
  obtain ⟨more, final, transfers, continued, ⟨inOrderThen, upThen, requested⟩, finished⟩ :=
    (Session.advances session.requested).reaches ⟨inOrder, up, rfl⟩
  refine ⟨up, more, final, transfers, continued, upThen, ?_, ?_⟩
  · obtain ⟨count, _, handled, all⟩ := inOrderThen.served (requested ▸ printed)
    rwa [all finished.arrived finished.requestsWritten, List.take_length, requested] at handled
  · have downward := inOrderThen.downward
    rwa [finished.answersWritten, List.append_nil, inOrderThen.replies] at downward

/-- Half of two packets is on the way, and the kernel takes no more for the moment. -/
def twoRequestsHalfway : List SessionEvent :=
  [.request heartbeatCall.packet, .request removeCall.packet, .clientWrite (.wrote 20),
    .serverRead 7, .clientWrite .wouldBlock]

/-- Nothing has been handled yet, and both packets can be. -/
theorem two_requests_can_finish : ∃ session more final,
    (sessionMachine (.merge _) (fun _ => ⟨0, 0⟩) 0).exec (.start 0 4 5 ∅ ∅ workerServer)
        twoRequestsHalfway = some session ∧ session.dispatched.length = 0 ∧
      (sessionMachine (.merge _) (fun _ => ⟨0, 0⟩) 0).exec session more = some final ∧
      final.dispatched.length = 2 := by
  have observed : ((sessionMachine (.merge _) (fun _ => ⟨0, 0⟩) 0).exec
      (.start 0 4 5 ∅ ∅ workerServer) twoRequestsHalfway).map (fun session =>
        (session.requested.length, session.dispatched.length)) = some (2, 0) := by decide +kernel
  have healthy : (sessionMachine (.merge _) (fun _ => ⟨0, 0⟩) 0).Guarded
      (fun _ event => event.Healthy) (.start 0 4 5 ∅ ∅ workerServer) twoRequestsHalfway := by
    decide +kernel
  obtain ⟨session, executed, seen⟩ := Option.map_eq_some_iff.mp observed
  simp only [Prod.mk.injEq] at seen
  have printed : ∀ packet ∈ session.requested, Printed workerLibrary packet := by
    intro packet member
    have sent := Session.mem_requested rfl (Machine.run_of_exec executed) packet member
    simp only [twoRequestsHalfway, List.mem_cons, SessionEvent.request.injEq, reduceCtorEq,
      List.not_mem_nil, or_false] at sent
    exact printed_workerCalls sent
  obtain ⟨_, more, final, _, continued, _, handled, _⟩ :=
    session_can_finish (.merge _) (fun _ => ⟨0, 0⟩) 0 4 5 ∅ ∅ workerServer
      (Machine.run_of_guarded executed healthy) printed
  have lengths := congrArg (fun state => state.2.length) handled
  simp only [RegistryServer.length_dispatchAll, List.length_map, seen.1] at lengths
  exact ⟨session, more, final, executed, seen.2, continued, lengths.symm⟩

end TurboCore.Registry
