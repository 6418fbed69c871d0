import Mathlib
import TurboCore.Net.CallerMemory

/-!
# Shutdown after sends

`HandleWrite` and `SendInLoop` act in a `Connected` connection only, and `Shutdown`
leaves that state in the caller. Nothing is lost in the runs in which `Shutdown` finds
everything sent already written.
-/

namespace TurboCore.Net

open Foundation ConnectionRun

/-- One thread, the loop's own or another, sends from stable memory and shuts down; no
write fails, the peer does not close and nobody forces the connection to close. -/
def Undisturbed (inLoop : Bool) (run : ConnectionRun) : ConnectionEvent → Prop
  | .send caller _ _ | .shutdown caller => caller = inLoop
  | .store addr byte => KeepsPendingBytes run (.store addr byte)
  | .writable result => result ≠ .failed
  | .functor => True
  | .forceClose _ | .readClosed | .errorEvent => False

instance (inLoop : Bool) (run : ConnectionRun) :
    (event : ConnectionEvent) → Decidable (Undisturbed inLoop run event)
  | .send caller _ _ | .shutdown caller => inferInstanceAs (Decidable (caller = inLoop))
  | .store addr byte => inferInstanceAs (Decidable (KeepsPendingBytes run (.store addr byte)))
  | .writable result => inferInstanceAs (Decidable (result ≠ .failed))
  | .functor => .isTrue trivial
  | .forceClose _ | .readClosed | .errorEvent => .isFalse id

/-- A connected connection is shut down when nothing is buffered or queued, and a
writable event finds its buffer empty only when nothing is queued. -/
def ShutsDownDrained (run : ConnectionRun) : ConnectionEvent → Prop
  | .shutdown _ => run.conn.state = .connected → run.output = [] ∧ run.pending = []
  | .writable _ => run.conn.state = .connected → run.output = [] → run.pending = []
  | _ => True

instance (run : ConnectionRun) : (event : ConnectionEvent) → Decidable (ShutsDownDrained run event)
  | .shutdown _ => inferInstanceAs (Decidable (_ → _))
  | .writable _ => inferInstanceAs (Decidable (_ → _))
  | .send _ _ _ | .store _ _ | .functor | .forceClose _ | .readClosed | .errorEvent =>
      .isTrue trivial

/-- No payload is dropped, a disconnecting connection writes what it can, its socket is
closed once the buffer is empty, and a closed socket took all payloads in order. -/
structure LosesNothing (run : ConnectionRun) : Prop where
  discarded : run.discarded = []
  missedWrites : run.missedWrites = 0
  closes : run.conn.state = .disconnecting ∨ run.conn.state = .disconnected →
    run.pending = [] → run.output = [] → run.conn.socketFd = invalidSocket
  complete : run.conn.socketFd = invalidSocket → run.written = run.sent.flatten

/-- Where a connection that is shut down drained can stand, and what it still holds. -/
inductive DrainPhase (run : ConnectionRun) : Prop where
  | connected (state : run.conn.state = .connected)
      (opened : run.conn.socketFd ≠ invalidSocket)
      (sends : ∀ functor ∈ run.pending, ∃ data len atCall, functor = .sendInLoop data len atCall)
      (conserved : run.written ++ run.output ++ (run.pending.map (·.payload)).flatten =
        run.sent.flatten)
  | disconnecting (state : run.conn.state = .disconnecting)
      (opened : run.conn.socketFd ≠ invalidSocket)
      (queued : run.pending = [.shutdownInLoop]) (empty : run.output = [])
      (complete : run.written = run.sent.flatten)
  | disconnected (state : run.conn.state = .disconnected)
      (closed : run.conn.socketFd = invalidSocket) (nothingQueued : run.pending = [])
      (complete : run.written = run.sent.flatten)

/-- The invariant of drained shutdowns; a call on the loop's own thread queues nothing. -/
structure Drains (inLoop : Bool) (run : ConnectionRun) : Prop where
  phase : DrainPhase run
  inline : inLoop = true → run.pending = []
  discarded : run.discarded = []
  missedWrites : run.missedWrites = 0

theorem Drains.losesNothing {inLoop : Bool} {run : ConnectionRun} (drains : Drains inLoop run) :
    LosesNothing run := by
  refine ⟨drains.discarded, drains.missedWrites, ?_, ?_⟩
  · intro stopping nothingQueued _
    cases drains.phase with
    | connected state => rcases stopping with other | other <;> rw [state] at other <;> cases other
    | disconnecting _ _ queued =>
        rw [queued] at nothingQueued
        cases nothingQueued
    | disconnected _ closed => exact closed
  · intro closed
    cases drains.phase with
    | connected _ opened => exact absurd closed opened
    | disconnecting _ opened => exact absurd closed opened
    | disconnected _ _ _ complete => exact complete

theorem Drains.established (inLoop : Bool) (fd : Nat) (memory : Nat → UInt8) :
    Drains inLoop (.established fd memory) where
  phase := by
    refine .connected rfl ?_ ?_ ?_
    · show ((fd : Int) : SocketType) ≠ -1
      omega
    · intro functor member
      cases member
    · show [] ++ (Buffer.ofSize Buffer.initialSize).content ++ [] = []
      rw [Buffer.content_ofSize]
      rfl
  inline _ := rfl
  discarded := rfl
  missedWrites := rfl

/-- The environment's part that `CarriesCalls` needs. -/
theorem Undisturbed.keepsPendingBytes {inLoop : Bool} {run : ConnectionRun}
    {event : ConnectionEvent} (undisturbed : Undisturbed inLoop run event) :
    KeepsPendingBytes run event := by
  cases event with
  | store addr byte => exact undisturbed
  | _ => trivial

section Effects

variable {run : ConnectionRun}

theorem isConnected_of_state (state : run.conn.state = .connected) :
    run.conn.isConnected = true := by
  simp [TcpConnection.isConnected, state]

theorem isConnected_of_other_state (state : run.conn.state ≠ .connected) :
    run.conn.isConnected = false := by
  simp [TcpConnection.isConnected, state]

/-- `SendInLoop` of current bytes adds them to a connected connection's output. -/
theorem sendInLoop_effect (state : run.conn.state = .connected) {data len : Nat}
    {atCall : List UInt8} (current : readRegion run.memory data len = atCall) :
    ∃ attached appended, run.sendInLoop data len atCall = { run with attached, appended } ∧
      attached.conn.state = .connected ∧ attached.conn.socketFd = run.conn.socketFd ∧
      attached.conn.outputBuffer.content = run.output ++ atCall := by
  have connected := isConnected_of_state state
  refine ⟨_, _, if_pos connected, ?_, Attached.sendInLoop_socketFd _ _ _, ?_⟩
  · exact (Attached.sendInLoop_state _ _ _).trans state
  · rw [run.attached.content_sendInLoop 0 connected, current]
    rfl

/-- `ShutdownInLoop` of a drained connection closes it. -/
theorem shutdownInLoop_effect (empty : run.output = []) :
    run.shutdownInLoop.conn.state = .disconnected ∧
      run.shutdownInLoop.conn.socketFd = invalidSocket := by
  have nothing : run.attached.conn.outputBuffer.readableBytes = 0 :=
    (Buffer.content_eq_nil_iff _).mp empty
  unfold ConnectionRun.shutdownInLoop ConnectionRun.conn Attached.shutdownInLoop
  simp only [nothing, Nat.lt_irrefl, if_false]
  exact ⟨rfl, rfl⟩

/-- `HandleClose` of an open connection disconnects it and closes its socket. -/
theorem handleClose_effect (opened : run.conn.state ≠ .disconnected) :
    ∃ attached closeCallbacks, run.handleClose = { run with attached, closeCallbacks } ∧
      attached.conn.state = .disconnected ∧ attached.conn.socketFd = invalidSocket := by
  refine ⟨_, _, if_neg opened, ?_, rfl⟩
  exact run.attached.beginHandleClose_state 0

/-- A writable event does nothing to a connection that is not connected. -/
theorem handleWrite_of_stopped (stopped : run.conn.state ≠ .connected) (result : WriteResult)
    (settled : run.conn.state = .disconnected ∨ run.output = []) :
    run.handleWrite result = run := by
  have unconnected := isConnected_of_other_state stopped
  have effect := run.attached.handleWrite_of_not_connected 0 unconnected result
  have misses : run.missesWrite ⟨run.attached, [], false, false⟩ result = false := by
    cases result with
    | wrote count => rcases settled with state | empty <;> simp [missesWrite, *]
    | wouldBlock => rfl
    | failed => rfl
  simp [ConnectionRun.handleWrite, effect, misses]

/-- A writable event of a connected connection with nothing to write closes it. -/
theorem handleWrite_of_drained (state : run.conn.state = .connected) (empty : run.output = [])
    (result : WriteResult) : run.handleWrite result = run.handleClose := by
  have connected := isConnected_of_state state
  have effect := run.attached.handleWrite_of_empty 0 connected empty result
  have misses : run.missesWrite ⟨run.attached, [], false, true⟩ result = false := by
    cases result with
    | wrote count => simp [missesWrite, state]
    | wouldBlock => rfl
    | failed => rfl
  simp [ConnectionRun.handleWrite, effect, misses]

/-- Otherwise it moves a prefix of the output to the kernel. -/
theorem handleWrite_of_output (state : run.conn.state = .connected) (output : run.output ≠ [])
    {result : WriteResult} (succeeds : result ≠ .failed) (answers : run.canAnswer result = true) :
    ∃ attached written, run.handleWrite result = { run with attached, written } ∧
      attached.conn.state = .connected ∧ attached.conn.socketFd = run.conn.socketFd ∧
      written ++ attached.conn.outputBuffer.content = run.written ++ run.output := by
  have connected := isConnected_of_state state
  cases result with
  | failed => exact absurd rfl succeeds
  | wouldBlock =>
      refine ⟨run.attached, run.written, ?_, state, rfl, rfl⟩
      have effect := run.attached.handleWrite_wouldBlock 0 output
      simp [ConnectionRun.handleWrite, effect, missesWrite]
  | wrote count =>
      simp only [canAnswer, ConnectionRun.output, Buffer.length_content,
        decide_eq_true_eq] at answers
      obtain ⟨stays, sent, content⟩ :=
        run.attached.handleWrite_wrote 0 connected answers.1 answers.2
      have stateAfter := run.attached.handleWrite_state 0 (.wrote count)
      have socketAfter := run.attached.handleWrite_socketFd 0 (.wrote count)
      refine ⟨_, run.written ++ run.output.take count, ?_, stateAfter.trans state, socketAfter, ?_⟩
      · simp [ConnectionRun.handleWrite, stays, sent, missesWrite, state]
        rfl
      · rw [content, List.append_assoc]
        exact congrArg _ (List.take_append_drop _ _)

end Effects

section Steps

variable {inLoop : Bool} {run : ConnectionRun}

/-- A `SendInLoop` that finds the bytes of its call moves them into the output. -/
theorem Drains.sendInLoop {data len : Nat} {atCall : List UInt8}
    (state : run.conn.state = .connected) (opened : run.conn.socketFd ≠ invalidSocket)
    (sends : ∀ functor ∈ run.pending, ∃ data len atCall, functor = .sendInLoop data len atCall)
    (current : readRegion run.memory data len = atCall)
    (conserved : run.written ++ run.output ++ atCall ++
      (run.pending.map (·.payload)).flatten = run.sent.flatten)
    (inline : inLoop = true → run.pending = []) (discarded : run.discarded = [])
    (missedWrites : run.missedWrites = 0) : Drains inLoop (run.sendInLoop data len atCall) := by
  obtain ⟨attached, appended, effect, stays, socket, content⟩ := sendInLoop_effect state current
  rw [effect]
  refine ⟨.connected stays ?_ sends ?_, inline, discarded, missedWrites⟩
  · show attached.conn.socketFd ≠ invalidSocket
    rw [socket]
    exact opened
  · show run.written ++ attached.conn.outputBuffer.content ++ _ = _
    rw [content, ← List.append_assoc]
    exact conserved

theorem Drains.send (drains : Drains inLoop run) (data len : Nat) :
    Drains inLoop (run.send inLoop data len) := by
  cases drains.phase with
  | connected state opened sends conserved =>
      rw [ConnectionRun.send, if_pos (isConnected_of_state state)]
      cases inLoop with
      | true =>
          have nothingQueued := drains.inline rfl
          show Drains true (ConnectionRun.sendInLoop _ data len _)
          apply Drains.sendInLoop
          · exact state
          · exact opened
          · exact sends
          · rfl
          · simp only [nothingQueued, List.map_nil, List.flatten_nil, List.append_nil] at conserved ⊢
            rw [List.flatten_concat, ← conserved]
            rfl
          · exact drains.inline
          · exact drains.discarded
          · exact drains.missedWrites
      | false =>
          refine ⟨.connected state opened ?_ ?_, ?_, drains.discarded, drains.missedWrites⟩
          · intro functor member
            rcases List.mem_append.mp member with earlier | last
            · exact sends functor earlier
            · exact ⟨data, len, _, List.mem_singleton.mp last⟩
          · show run.written ++ run.output ++
              ((run.pending ++ [_]).map ConnectionFunctor.payload).flatten =
                (run.sent ++ [_]).flatten
            rw [List.map_append, List.flatten_append, ← List.append_assoc, conserved,
              List.flatten_concat]
            simp [ConnectionFunctor.payload]
          · intro inline
            cases inline
  | disconnecting state _ _ _ _ | disconnected state _ _ _ =>
      have unconnected := @isConnected_of_other_state run (by simp [state])
      rw [ConnectionRun.send, if_neg (by simp [unconnected])]
      exact drains

theorem Drains.shutdown (drains : Drains inLoop run)
    (drained : run.conn.state = .connected → run.output = [] ∧ run.pending = []) :
    Drains inLoop (run.shutdown inLoop) := by
  cases drains.phase with
  | connected state opened sends conserved =>
      obtain ⟨empty, nothingQueued⟩ := drained state
      have complete : run.written = run.sent.flatten := by
        simpa [empty, nothingQueued] using conserved
      rw [ConnectionRun.shutdown, if_pos state]
      cases inLoop with
      | true =>
          have closes := @shutdownInLoop_effect
            { run with attached := run.attached.setState .disconnecting } empty
          exact ⟨.disconnected closes.1 closes.2 nothingQueued complete, drains.inline,
            drains.discarded, drains.missedWrites⟩
      | false =>
          refine ⟨.disconnecting rfl opened ?_ empty complete, ?_, drains.discarded,
            drains.missedWrites⟩
          · show run.pending ++ [_] = _
            rw [nothingQueued]
            rfl
          · intro inline
            cases inline
  | disconnecting state _ _ _ _ | disconnected state _ _ _ =>
      rw [ConnectionRun.shutdown, if_neg (by simp [state])]
      exact drains

theorem Drains.functor {functor : ConnectionFunctor} {rest : List ConnectionFunctor}
    (drains : Drains inLoop run) (carries : CarriesCalls run)
    (queue : run.pending = functor :: rest) :
    Drains inLoop ({ run with pending := rest }.runFunctor functor) := by
  have crossThread : inLoop ≠ true := by
    intro inline
    rw [drains.inline inline] at queue
    cases queue
  cases drains.phase with
  | connected state opened sends conserved =>
      obtain ⟨data, len, atCall, rfl⟩ := sends functor (queue ▸ List.mem_cons_self)
      have current : readRegion run.memory data len = atCall :=
        carries.queued (.sendInLoop data len atCall) (queue ▸ List.mem_cons_self)
      show Drains inLoop (ConnectionRun.sendInLoop _ data len atCall)
      apply Drains.sendInLoop
      · exact state
      · exact opened
      · intro functor member
        exact sends functor (queue ▸ List.mem_cons_of_mem _ member)
      · exact current
      · rw [queue] at conserved
        rw [List.append_assoc]
        exact conserved
      · intro inline
        exact absurd inline crossThread
      · exact drains.discarded
      · exact drains.missedWrites
  | disconnecting state opened queued empty complete =>
      rw [queue] at queued
      cases queued
      have closes := @shutdownInLoop_effect { run with pending := [] } empty
      exact ⟨.disconnected closes.1 closes.2 rfl complete, fun _ => rfl, drains.discarded,
        drains.missedWrites⟩
  | disconnected _ _ nothingQueued _ =>
      rw [queue] at nothingQueued
      cases nothingQueued

theorem Drains.handleWrite {result : WriteResult} (drains : Drains inLoop run)
    (drained : run.conn.state = .connected → run.output = [] → run.pending = [])
    (succeeds : result ≠ .failed) (answers : run.canAnswer result = true) :
    Drains inLoop (run.handleWrite result) := by
  cases drains.phase with
  | connected state opened sends conserved =>
      by_cases empty : run.output = []
      · have nothingQueued := drained state empty
        have complete : run.written = run.sent.flatten := by
          simpa [empty, nothingQueued] using conserved
        obtain ⟨attached, closeCallbacks, effect, stateAfter, closed⟩ :=
          @handleClose_effect run (by simp [state])
        rw [handleWrite_of_drained state empty, effect]
        exact ⟨.disconnected stateAfter closed nothingQueued complete, drains.inline,
          drains.discarded, drains.missedWrites⟩
      · obtain ⟨attached, written, effect, stays, socket, moved⟩ :=
          handleWrite_of_output state empty succeeds answers
        rw [effect]
        refine ⟨.connected stays ?_ sends ?_, drains.inline, drains.discarded,
          drains.missedWrites⟩
        · show attached.conn.socketFd ≠ invalidSocket
          rw [socket]
          exact opened
        · show written ++ attached.conn.outputBuffer.content ++ _ = _
          rw [moved]
          exact conserved
  | disconnecting state _ _ empty _ =>
      rw [handleWrite_of_stopped (by simp [state]) result (.inr empty)]
      exact drains
  | disconnected state _ _ _ =>
      rw [handleWrite_of_stopped (by simp [state]) result (.inl state)]
      exact drains

/-- Every undisturbed step that shuts down drained keeps the invariant. -/
theorem Drains.step {next : ConnectionRun} {event : ConnectionEvent}
    (drains : Drains inLoop run) (carries : CarriesCalls run)
    (undisturbed : Undisturbed inLoop run event) (drained : ShutsDownDrained run event)
    (step : ConnectionStep run event next) : Drains inLoop next := by
  cases step with
  | send caller data len =>
      rw [show caller = inLoop from undisturbed]
      exact drains.send data len
  | shutdown caller =>
      rw [show caller = inLoop from undisturbed]
      exact drains.shutdown drained
  | store addr byte =>
      refine ⟨?_, drains.inline, drains.discarded, drains.missedWrites⟩
      cases drains.phase with
      | connected state opened sends conserved => exact .connected state opened sends conserved
      | disconnecting state opened queued empty complete =>
          exact .disconnecting state opened queued empty complete
      | disconnected state closed nothingQueued complete =>
          exact .disconnected state closed nothingQueued complete
  | functor functor rest queue => exact drains.functor carries queue
  | writable result answers => exact drains.handleWrite drained undisturbed answers
  | forceClose _ => exact undisturbed.elim
  | readClosed => exact undisturbed.elim
  | errorEvent => exact undisturbed.elim

end Steps

/-- In every undisturbed run that shuts down drained, nothing is lost. -/
theorem shutdown_losesNothing (inLoop : Bool) (fd : Nat) (memory : Nat → UInt8)
    {events : List ConnectionEvent} {run : ConnectionRun}
    (guarded : connectionMachine.Run
      (fun run event => Undisturbed inLoop run event ∧ ShutsDownDrained run event)
      (.established fd memory) events run) : LosesNothing run := by
  have holds := guarded.invariant (fun run => CarriesCalls run ∧ Drains inLoop run)
    ⟨CarriesCalls.established fd memory, Drains.established inLoop fd memory⟩
    fun _ _ _ holds guard transition =>
      ⟨holds.1.step guard.1.keepsPendingBytes (connectionStep_cases transition),
        holds.2.step holds.1 guard.1 guard.2 (connectionStep_cases transition)⟩
  exact holds.2.losesNothing

/-- Three bytes sent from another thread, written in two parts, and then a shutdown. -/
def drainThenShutdown : List ConnectionEvent :=
  [.send false 0 3, .functor, .writable (.wrote 2), .writable .wouldBlock, .writable (.wrote 1),
    .shutdown false, .functor]

/-- The shutdown after the last byte closes a socket that took all of them. -/
theorem drainThenShutdown_losesNothing : ∃ run,
    connectionMachine.exec (.established 3 fun addr => addr.toUInt8) drainThenShutdown = some run ∧
      run.conn.socketFd = invalidSocket ∧ run.written = [0, 1, 2] ∧ LosesNothing run := by
  have observed : (connectionMachine.exec (.established 3 fun addr => addr.toUInt8)
      drainThenShutdown).map (fun run => (run.conn.socketFd, run.written)) =
        some (invalidSocket, [0, 1, 2]) := by decide +kernel
  obtain ⟨run, executed, seen⟩ := Option.map_eq_some_iff.mp observed
  have guarded : connectionMachine.Guarded
      (fun run event => Undisturbed false run event ∧ ShutsDownDrained run event)
      (.established 3 fun addr => addr.toUInt8) drainThenShutdown := by decide +kernel
  rw [Prod.mk.injEq] at seen
  exact ⟨run, executed, seen.1, seen.2,
    shutdown_losesNothing false 3 _ (Machine.run_of_guarded executed guarded)⟩

/-- A byte is sent and the connection shut down before the byte is written: on the loop's
thread `HandleWrite` then leaves it, on another thread `SendInLoop` drops it. -/
def shutdownTooSoon : Bool → List ConnectionEvent
  | true => [.send true 0 1, .shutdown true, .writable (.wrote 1)]
  | false => [.send false 0 1, .shutdown false, .functor]

/-- From neither kind of thread do all undisturbed runs lose nothing. -/
theorem not_shutdown_losesNothing :
    ¬ ∃ inLoop, ∀ (fd : Nat) (memory : Nat → UInt8) (events : List ConnectionEvent)
      (run : ConnectionRun),
      connectionMachine.Run (Undisturbed inLoop) (.established fd memory) events run →
        LosesNothing run := by
  rintro ⟨inLoop, graceful⟩
  have observed : (connectionMachine.exec (.established 3 fun _ => 0)
      (shutdownTooSoon inLoop)).map (fun run => (run.missedWrites, run.discarded)) =
        some (if inLoop then (1, []) else (0, [[0]])) := by
    cases inLoop <;> decide +kernel
  obtain ⟨run, executed, seen⟩ := Option.map_eq_some_iff.mp observed
  have guarded : connectionMachine.Guarded (Undisturbed inLoop) (.established 3 fun _ => 0)
      (shutdownTooSoon inLoop) := by
    cases inLoop <;> decide +kernel
  have nothing := graceful 3 _ _ run (Machine.run_of_guarded executed guarded)
  rw [nothing.missedWrites, nothing.discarded] at seen
  cases inLoop <;> cases seen

end TurboCore.Net
