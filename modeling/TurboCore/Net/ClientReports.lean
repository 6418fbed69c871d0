import Mathlib
import TurboCore.Net.TcpClient

/-!
# What a client reports about its attempts

`Socket::Connect` answers with a `bool` and `Connect` reads it as an error code, so an
immediate success counts as a failure and everything else as a success. No attempt is
reported as it went.
-/

namespace TurboCore.Net

open Foundation TcpClient

/-- `HandleConnect` ran on a socket that connected at once or completed without an error,
a reported failure was one, and what waits for its write event is in progress. -/
def AttemptReport.Honest : AttemptReport → Prop
  | connected result none => result = .succeeded
  | connected _ (some socketError) => socketError = 0
  | failed result none => result = .noSocket ∨ result = .failed
  | failed result (some socketError) => result = .inProgress ∧ socketError ≠ 0
  | waits result => result = .inProgress

/-- Every report so far is honest. -/
def HonestReports (client : TcpClient) : Prop := ∀ report ∈ client.reports, report.Honest

/-- The event opens no socket: a `Connect` finds the client started. -/
def MakesNoAttempt (client : TcpClient) : ClientEvent → Prop
  | .connect _ _ => client.started = true
  | _ => True

/-- Nothing was reported and nothing can still be. -/
structure Silent (client : TcpClient) : Prop where
  reports : client.reports = []
  watch : client.watch = none

/-- The report of an attempt, which never is the one that its result calls for. -/
def reportOf : ConnectResult → AttemptReport
  | .succeeded => .failed .succeeded none
  | result => .connected result none

theorem not_honest_reportOf (result : ConnectResult) : ¬ (reportOf result).Honest := by
  cases result <;> simp [reportOf, AttemptReport.Honest]

/-- An attempt makes one report. -/
theorem reports_connect {client : TcpClient} (stopped : client.started = false) (fd : Nat)
    (result : ConnectResult) :
    (client.connect fd result).reports = client.reports ++ [reportOf result] := by
  have valid : (fd : SocketType) ≠ invalidSocket := by
    show (fd : Int) ≠ -1
    omega
  cases result <;>
    simp [TcpClient.connect, stopped, Socket.connect, valid, handleConnect, withAttached,
      TcpClient.report, reportOf, SocketUtils.kConnectInProgress]

namespace Silent

variable {client next : TcpClient}

theorem honestReports (silent : Silent client) : HonestReports client := by
  intro report member
  rw [silent.reports] at member
  cases member

theorem of_eq (silent : Silent client) (reports : next.reports = client.reports)
    (watch : next.watch = client.watch) : Silent next :=
  ⟨reports.trans silent.reports, watch.trans silent.watch⟩

theorem handleRemoveConnection (silent : Silent client) :
    Silent client.handleRemoveConnection := by
  unfold TcpClient.handleRemoveConnection
  dsimp only
  split <;> exact silent.of_eq rfl rfl

theorem handleClose (silent : Silent client) (held : ClientConnection) :
    Silent (client.handleClose held) := by
  unfold TcpClient.handleClose
  split
  · exact silent
  · have closed : Silent (client.withAttached held.id
        (Attached.beginHandleClose held.id ⟨held.conn, client.poller⟩)) := silent.of_eq rfl rfl
    exact closed.handleRemoveConnection

theorem shutdown (silent : Silent client) (held : ClientConnection) :
    Silent (client.shutdown held) := by
  unfold TcpClient.shutdown
  split <;> exact silent.of_eq rfl rfl

/-- A step that makes no attempt reports nothing. -/
theorem step {event : ClientEvent} (silent : Silent client)
    (idle : MakesNoAttempt client event) (step : ClientStep client event next) :
    Silent next := by
  cases step with
  | connect fd result =>
      rw [connect_of_started idle]
      exact silent
  | writeEvent socketError fd result watched =>
      rw [silent.watch] at watched
      cases watched
  | reconnectTimer fd result _ =>
      simp only [TcpClient.reconnectTimer, doReconnect_eq]
      exact silent.of_eq rfl rfl
  | disconnect =>
      have stopped : Silent { client with autoReconnect := false, started := false } :=
        silent.of_eq rfl rfl
      unfold TcpClient.disconnect
      dsimp only
      split
      · exact stopped
      · exact stopped.shutdown _
  | setAutoReconnect enable => exact silent.of_eq rfl rfl
  | send data held _ => exact silent.of_eq rfl rfl
  | writable result held _ =>
      have written : Silent (client.withAttached held.id
          (Attached.handleWrite held.id ⟨held.conn, client.poller⟩ result).after) :=
        silent.of_eq rfl rfl
      unfold TcpClient.handleWrite
      dsimp only
      split
      · exact written.handleClose _
      · exact written
  | closeEvent held _ => exact silent.handleClose held
  | shutdownConnection held _ => exact silent.shutdown held
  | forceCloseConnection held _ =>
      have closed : Silent (client.withAttached held.id
          (Attached.beginForceClose held.id ⟨held.conn, client.poller⟩)) := silent.of_eq rfl rfl
      unfold TcpClient.forceClose
      split
      · exact closed.handleRemoveConnection
      · exact silent

end Silent

/-- Along any sequence of events of a new client, the reports are honest in every state if
and only if no attempt is made. -/
theorem honestReports_iff_makesNoAttempt (events : List ClientEvent) :
    clientMachine.Throughout HonestReports .start events ↔
      clientMachine.Guarded MakesNoAttempt .start events := by
  refine @Machine.throughout_iff_guarded _ _ _ Silent _ _ (fun _ silent => silent.honestReports)
    (fun _ _ _ silent idle transition => silent.step idle (clientStep_cases transition))
    ?_ _ ⟨rfl, rfl⟩ events
  intro client event next silent transition honest
  cases event with
  | connect fd result =>
      by_contra attempted
      cases transition
      have stopped : client.started = false := by simpa [MakesNoAttempt] using attempted
      have reported : reportOf result ∈ (client.connect fd result).reports := by
        rw [reports_connect stopped]
        exact List.mem_append_right _ (List.mem_singleton_self _)
      exact not_honest_reportOf result (honest _ reported)
  | _ => trivial

/-- Not every run reports honestly: an attempt in progress is handled as connected. -/
theorem not_always_honestReports :
    ¬ ∀ events, clientMachine.Throughout HonestReports .start events := by
  intro always
  have honest : HonestReports (TcpClient.start.connect 5 .inProgress) :=
    (always [.connect 5 .inProgress]).of_exec rfl
  have reported : AttemptReport.connected .inProgress none ∈
      (TcpClient.start.connect 5 .inProgress).reports := by decide
  cases honest _ reported

end TurboCore.Net
