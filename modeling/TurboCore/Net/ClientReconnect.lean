import Mathlib
import TurboCore.Net.TcpClient

/-!
# A client that can always go on

A client whose attempts, connection and timers have all ended has to be stopped, so that
the next `Connect` opens a socket. `DoReconnect` asks a started client to connect, which
`Connect` ignores, and a connection that shuts down by itself does not tell its client.
-/

namespace TurboCore.Net

open Foundation TcpClient

/-- With no attempt, no open connection and no timer the client is stopped, and no timer
that was to reopen a lost connection opened nothing. -/
structure NeverStuck (client : TcpClient) : Prop where
  restarts : client.connecting = false → client.isClosed = true → client.timers = 0 →
    client.started = false
  reconnects : client.missedReconnects = 0

/-- No timer expires on a started client without a connection while auto-reconnect is on or
no other timer is left, and the connection of such a client does not shut down with nothing
to send. -/
def KeepsGoing (client : TcpClient) : ClientEvent → Prop
  | .reconnectTimer _ _ =>
      ¬ (client.started ∧ ¬ client.connecting ∧ client.isClosed ∧
        (client.autoReconnect ∨ client.timers = 1))
  | .shutdownConnection =>
      ¬ (client.started ∧ ¬ client.connecting ∧ client.timers = 0 ∧
        client.connection.any fun held =>
          held.conn.state = .connected ∧ held.conn.outputBuffer.content = [])
  | _ => True

/-- The invariant: nothing watches for a write event. -/
structure Resumes (client : TcpClient) : Prop extends NeverStuck client where
  watch : client.watch = none

@[simp] theorem isClosed_withAttached (client : TcpClient) (id : ConnId) (attached : Attached) :
    (client.withAttached id attached).isClosed = decide (attached.conn.state = .disconnected) := by
  simp [TcpClient.isClosed, withAttached]

theorem isClosed_of_connection {client : TcpClient} {held : ClientConnection}
    (holds : client.connection = some held) :
    client.isClosed = decide (held.conn.state = .disconnected) := by
  simp [TcpClient.isClosed, holds]

namespace Resumes

variable {client next : TcpClient} {held : ClientConnection}

/-- A stopped client is not stuck. -/
theorem of_stopped (resumes : Resumes client) (stopped : next.started = false)
    (missed : next.missedReconnects = client.missedReconnects)
    (watch : next.watch = client.watch) : Resumes next where
  restarts _ _ _ := stopped
  reconnects := missed.trans resumes.reconnects
  watch := watch.trans resumes.watch

/-- A client with an open connection is not stuck. -/
theorem of_opened (resumes : Resumes client) (opened : next.isClosed = false)
    (missed : next.missedReconnects = client.missedReconnects)
    (watch : next.watch = client.watch) : Resumes next where
  restarts _ closed _ := by
    rw [opened] at closed
    cases closed
  reconnects := missed.trans resumes.reconnects
  watch := watch.trans resumes.watch

/-- The flags, the timers and the end of the connection are the same. -/
theorem of_same (resumes : Resumes client) (connecting : next.connecting = client.connecting)
    (closed : next.isClosed = client.isClosed) (timers : next.timers = client.timers)
    (started : next.started = client.started)
    (missed : next.missedReconnects = client.missedReconnects)
    (watch : next.watch = client.watch) : Resumes next where
  restarts := by
    rw [connecting, closed, timers, started]
    exact resumes.restarts
  reconnects := missed.trans resumes.reconnects
  watch := watch.trans resumes.watch

/-- A client that lost its connection stops or has a timer. -/
theorem handleRemoveConnection (missed : client.missedReconnects = 0)
    (watch : client.watch = none) : Resumes client.handleRemoveConnection := by
  unfold TcpClient.handleRemoveConnection
  dsimp only
  split
  · exact ⟨⟨fun _ _ none => absurd none (Nat.succ_ne_zero _), missed⟩, watch⟩
  · exact ⟨⟨fun _ _ _ => rfl, missed⟩, watch⟩

theorem handleClose (resumes : Resumes client) (held : ClientConnection) :
    Resumes (client.handleClose held) := by
  unfold TcpClient.handleClose
  split
  · exact resumes
  · exact handleRemoveConnection resumes.reconnects resumes.watch

theorem connect (resumes : Resumes client) (fd : Nat) (result : ConnectResult) :
    Resumes (client.connect fd result) := by
  cases started : client.started with
  | true =>
      rw [connect_of_started started]
      exact resumes
  | false =>
      unfold TcpClient.connect
      rw [if_neg (by simp [started])]
      dsimp only
      -- The `bool` is 0 or 1, so the branch for an attempt in progress is never taken.
      cases Socket.connect (if result = .noSocket then invalidSocket else fd) result with
      | true => exact resumes.of_stopped rfl rfl rfl
      | false =>
          refine resumes.of_opened ?_ ?_ ?_
          · simp [handleConnect, TcpClient.report, withAttached, TcpClient.isClosed,
              Attached.connectEstablished, Attached.enableReading]
          · simp [handleConnect, TcpClient.report, withAttached]
          · simp [handleConnect, TcpClient.report, withAttached]

/-- A timer that the condition admits leaves a stopped client or another timer. -/
theorem reconnectTimer (resumes : Resumes client) {fd : Nat} {result : ConnectResult}
    (pending : 0 < client.timers) (admitted : KeepsGoing client (.reconnectTimer fd result)) :
    Resumes (client.reconnectTimer fd result) := by
  simp only [KeepsGoing, not_and, not_or, Bool.not_eq_true] at admitted
  simp only [TcpClient.reconnectTimer, doReconnect_eq]
  refine ⟨⟨fun connecting closed timers => ?_, ?_⟩, resumes.watch⟩
  · by_contra started
    rw [Bool.not_eq_false] at started
    have last : client.timers = 1 := by
      have none : client.timers - 1 = 0 := timers
      omega
    exact (admitted started connecting closed).2 last
  · have admits : TcpClient.awaitsReconnect { client with timers := client.timers - 1 } = false := by
      simp only [TcpClient.awaitsReconnect, decide_eq_false_iff_not]
      rintro ⟨auto, started, connecting, closed⟩
      have off := (admitted started (by simpa using connecting) closed).1
      rw [off] at auto
      cases auto
    simpa [admits] using resumes.reconnects

/-- A connection that the condition lets shut down leaves its client open or with a timer. -/
theorem shutdown (resumes : Resumes client) (holds : client.connection = some held)
    (admitted : KeepsGoing client .shutdownConnection) : Resumes (client.shutdown held) := by
  unfold TcpClient.shutdown
  split
  · next connected =>
      by_cases empty : held.conn.outputBuffer.content = []
      · refine ⟨⟨fun connecting _ timers => ?_, resumes.reconnects⟩, resumes.watch⟩
        by_contra started
        simp only [KeepsGoing, holds, Option.any_some, not_and] at admitted
        exact admitted (by simpa [withAttached] using started) (by simpa using connecting) timers
          (by simp [connected, empty])
      · have waits := Attached.writeStep_shutdownInLoop held.id
          (Attached.setState ⟨held.conn, client.poller⟩ .disconnecting) empty
        refine resumes.of_opened ?_ rfl rfl
        rw [isClosed_withAttached, waits.state]
        rfl
  · exact resumes

theorem disconnect (resumes : Resumes client) : Resumes client.disconnect := by
  unfold TcpClient.disconnect
  dsimp only
  split
  · exact resumes.of_stopped rfl rfl rfl
  · unfold TcpClient.shutdown
    split <;> exact resumes.of_stopped rfl rfl rfl

/-- A handler that keeps the state of the connection. -/
theorem withAttached (resumes : Resumes client) (holds : client.connection = some held)
    {attached : Attached} (state : attached.conn.state = held.conn.state) :
    Resumes (client.withAttached held.id attached) := by
  refine resumes.of_same rfl ?_ rfl rfl rfl rfl
  rw [isClosed_withAttached, isClosed_of_connection holds, state]

/-- Every step that the condition admits keeps the invariant. -/
theorem step {event : ClientEvent} (resumes : Resumes client)
    (admitted : KeepsGoing client event) (step : ClientStep client event next) :
    Resumes next := by
  cases step with
  | connect fd result => exact resumes.connect fd result
  | writeEvent socketError fd result watched =>
      rw [resumes.watch] at watched
      cases watched
  | reconnectTimer fd result pending => exact resumes.reconnectTimer pending admitted
  | disconnect => exact resumes.disconnect
  | setAutoReconnect enable => exact resumes.of_same rfl rfl rfl rfl rfl rfl
  | send data held holds => exact resumes.withAttached holds (by simp)
  | writable result held holds =>
      have written := @withAttached client held resumes holds
        (Attached.handleWrite held.id ⟨held.conn, client.poller⟩ result).after (by simp)
      unfold TcpClient.handleWrite
      dsimp only
      split
      · exact written.handleClose _
      · exact written
  | closeEvent held _ => exact resumes.handleClose held
  | shutdownConnection held holds => exact resumes.shutdown holds admitted
  | forceCloseConnection held _ =>
      unfold TcpClient.forceClose
      split
      · exact handleRemoveConnection resumes.reconnects resumes.watch
      · exact resumes

/-- A step that the condition excludes leaves the client stuck. -/
theorem keepsGoing {event : ClientEvent} (step : ClientStep client event next)
    (lively : NeverStuck next) : KeepsGoing client event := by
  cases step with
  | reconnectTimer fd result pending =>
      rintro ⟨started, connecting, closed, auto | last⟩
      · have awaits :
            TcpClient.awaitsReconnect { client with timers := client.timers - 1 } = true := by
          simp only [TcpClient.awaitsReconnect, decide_eq_true_eq]
          exact ⟨auto, started, connecting, closed⟩
        have missed := lively.reconnects
        simp [TcpClient.reconnectTimer, doReconnect_eq, awaits] at missed
      · have stopped := lively.restarts
        simp only [TcpClient.reconnectTimer, doReconnect_eq] at stopped
        have contradiction := stopped (by simpa using connecting) closed (by simp [last])
        rw [started] at contradiction
        cases contradiction
  | shutdownConnection held holds =>
      rintro ⟨started, connecting, timers, silent⟩
      simp only [holds, Option.any_some, decide_eq_true_eq] at silent
      have closes := Attached.shutdownInLoop_of_empty held.id
        (Attached.setState ⟨held.conn, client.poller⟩ .disconnecting) silent.2
      have stopped := lively.restarts
      unfold TcpClient.shutdown at stopped
      rw [if_pos silent.1, closes, isClosed_withAttached] at stopped
      have contradiction := stopped (by simpa using connecting) (by simp) timers
      have same : client.started = false := contradiction
      rw [started] at same
      cases same
  | _ => trivial

end Resumes

/-- Along any sequence of events of a new client, it is never stuck if and only if every
event keeps it going. -/
theorem neverStuck_iff_keepsGoing (events : List ClientEvent) :
    clientMachine.Throughout NeverStuck .start events ↔
      clientMachine.Guarded KeepsGoing .start events := by
  refine @Machine.throughout_iff_guarded _ _ _ Resumes _ _ (fun _ resumes => resumes.toNeverStuck)
    (fun _ _ _ resumes admitted transition =>
      resumes.step admitted (clientStep_cases transition))
    (fun _ _ _ _ transition lively =>
      Resumes.keepsGoing (clientStep_cases transition) lively) _ ?_ events
  exact ⟨⟨fun _ _ _ => rfl, rfl⟩, rfl⟩

/-- A connection is lost with auto-reconnect on, and its timer expires. -/
def loseAndReconnect : List ClientEvent :=
  [.connect 5 .inProgress, .setAutoReconnect true, .closeEvent, .reconnectTimer 6 .succeeded]

/-- Not every run keeps the client going: the timer of `loseAndReconnect` opens nothing. -/
theorem not_always_neverStuck :
    ¬ ∀ events, clientMachine.Throughout NeverStuck .start events := by
  intro always
  have lively : NeverStuck _ := (always loseAndReconnect).of_exec rfl
  have missed : _ = 0 := lively.reconnects
  exact absurd missed (by decide)

end TurboCore.Net
