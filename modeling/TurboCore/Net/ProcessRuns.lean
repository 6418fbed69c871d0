import Mathlib
import TurboCore.Foundation.FiniteMap
import TurboCore.Net.ProcessUpdates

/-!
# Runs of the process

In every run the queues are fit, a loop that has started runs on its own thread, a channel
that waits for its turn is an established connection of its loop, and a connection whose
last reference is gone is not in the table. Every event is a sequence of updates.
-/

namespace TurboCore.Net

open Foundation TcpServer ServerProcess

/-- The invariant of the process. -/
structure WellRun (process : ServerProcess) : Prop where
  queued : WellQueued process.server
  threads : ∀ loop, process.threadId loop =
    if process.phase loop = .unstarted then .main else runner loop
  active : ∀ loop, ∀ ready ∈ (process.phase loop).active,
    ready.conn < process.server.created ∧ process.server.loopOf ready.conn = loop ∧
      (process.server.conn ready.conn).state ≠ .connecting
  accepted : ∀ self, process.Accepts self → process.server.Fresh self
  dying : ∀ last ∈ process.control.dying, last.1 < process.server.created ∧
    ∀ fd, process.server.connections.lookup fd ≠ some last.1
  tabled : ∀ fd self, process.server.connections.lookup fd = some self →
    self < process.server.created
  remaining : ∀ self ∈ process.control.stage.remaining, self < process.server.created

namespace ServerUpdate

variable {before after : ServerProcess}

theorem wellQueued (update : ServerUpdate before after) (queued : WellQueued before.server) :
    WellQueued after.server := by
  cases update with
  | check thread loop => exact queued
  | handle known started moves => exact queued.setAttached known started moves.forward moves.touches
  | close known started opened moves closed =>
      exact (queued.setAttached known started moves.forward moves.touches).of_conn_eq rfl
        (fun _ => by simp) (fun _ => by simp) rfl rfl rfl
  | @closeElsewhere self attached known started opened moves closed away =>
      have counted : WellQueued ((before.server.setAttached self attached).countClose self) :=
        (queued.setAttached known started moves.forward moves.touches).of_conn_eq rfl
          (fun _ => by simp) (fun _ => by simp) rfl rfl rfl
      have state : (((before.server.setAttached self attached).countClose self).conn self).state =
          .disconnected := by simpa using closed
      exact @WellQueued.queueCall _ counted (.removeConnection self) known state (by simp)
  | erase known closed => exact queued.of_conn_eq rfl (fun _ => rfl) (fun _ => rfl) rfl rfl rfl
  | message self =>
      exact queued.of_conn_eq rfl (fun _ => by simp) (fun _ => by simp) rfl rfl rfl
  | queue known fits established removal => exact queued.queueCall known fits established
  | establish fresh unaccepted runs =>
      exact queued.connectEstablished fresh.known fresh.connecting fresh.taken
  | unqueue loop => exact queued.unqueue
  | destroy thread known unlisted => exact queued.destroy
  | clear cleared => exact queued.of_conn_eq rfl (fun _ => rfl) (fun _ => rfl) rfl rfl rfl
  | dropQueue loop =>
      refine queued.withPending fun target => ?_
      rw [Function.update_apply]
      split
      · exact List.nil_sublist _
      · exact List.Sublist.refl _

/-- No handler, functor or call puts a connection into the table. -/
theorem lookup_of_lookup (update : ServerUpdate before after) {self : ConnId} {fd : SocketType}
    (found : after.server.connections.lookup fd = some self) :
    before.server.connections.lookup fd = some self := by
  cases update with
  | erase _ closed =>
      have lookup := found
      simp only [ServerProcess.eraseConnection_server, eraseConnection_connections] at lookup
      rw [FiniteMap.lookup_erase] at lookup
      split at lookup
      · cases lookup
      · exact lookup
  | clear cleared => cases found
  | _ => exact found

/-- What a statement puts into a queue: the removal of a connection of a sub loop that it has
closed, or a call. -/
theorem pending_cases (update : ServerUpdate before after) {loop : LoopId}
    {functor : ServerFunctor} (member : functor ∈ after.server.pending loop) :
    functor ∈ before.server.pending loop ∨
      (∃ self, functor = .removeConnection self ∧ self < before.server.created ∧
        (before.server.conn self).state ≠ .disconnected ∧ before.server.loopOf self ≠ 0) ∨
      (∀ self, functor ≠ .connectEstablished self) ∧ ∀ self, functor ≠ .removeConnection self := by
  cases update with
  | @closeElsewhere self attached known started opened moves closed away =>
      rcases mem_pending_queueInLoop member with earlier | ⟨_, rfl⟩
      · exact .inl earlier
      · exact .inr (.inl ⟨self, rfl, known, opened, away⟩)
  | queue known fits established removal =>
      rcases mem_pending_queueInLoop member with earlier | ⟨_, rfl⟩
      · exact .inl earlier
      · exact .inr (.inr ⟨established, removal⟩)
  | unqueue target =>
      simp only [withServer_server, unqueue_pending, Function.update_apply] at member
      split at member
      · next same => exact .inl (same ▸ List.mem_of_mem_tail member)
      · exact .inl member
  | dropQueue target =>
      simp only [withServer_server, Function.update_apply] at member
      split at member
      · cases member
      · exact .inl member
  | _ => exact .inl member

/-- Only `HandleNewConnection` ends the wait of the connection that it is about to establish. -/
theorem connecting (update : ServerUpdate before after) {self : ConnId}
    (waiting : (before.server.conn self).state = .connecting) (accepts : before.Accepts self) :
    (after.server.conn self).state = .connecting := by
  have different : ∀ {other}, (before.server.conn other).state ≠ .connecting → self ≠ other := by
    rintro other started rfl
    exact started waiting
  cases update with
  | handle known started moves => simpa [different started] using waiting
  | close known started opened moves closed => simpa [different started] using waiting
  | closeElsewhere known started opened moves closed away =>
      simpa [different started] using waiting
  | message other => simpa using waiting
  | @establish other fresh unaccepted runs =>
      have apart : self ≠ other := by
        rintro rfl
        exact unaccepted accepts
      simpa [TcpServer.connectEstablished, apart] using waiting
  | destroy thread known unlisted => exact (state_destroy _ _ _).trans waiting
  | check | erase | queue | unqueue | clear | dropQueue => exact waiting

/-- A connection that waits to be established goes on waiting. -/
theorem fresh (update : ServerUpdate before after) {self : ConnId}
    (fresh : before.server.Fresh self) (accepts : before.Accepts self) :
    after.server.Fresh self where
  known := update.created_eq ▸ fresh.known
  connecting := update.connecting fresh.connecting accepts
  taken loop member := by
    rcases update.pending_cases member with earlier | ⟨other, removal, _⟩ | ⟨established, _⟩
    · exact fresh.taken loop earlier
    · cases removal
    · exact established self rfl

end ServerUpdate

namespace WellRun

variable {before after process : ServerProcess}

theorem serverUpdate (well : WellRun before) (update : ServerUpdate before after) :
    WellRun after := by
  have control := update.control_eq
  have phase : after.phase = before.phase := by
    funext loop
    rw [ServerProcess.phase, control]
    rfl
  have accepts : ∀ self, after.Accepts self → before.Accepts self := by
    rintro self ⟨active, accepting⟩
    exact ⟨active, phase ▸ accepting⟩
  constructor
  · exact update.wellQueued well.queued
  · intro loop
    rw [ServerProcess.threadId, control, phase]
    exact well.threads loop
  · intro loop ready member
    obtain ⟨known, home, started⟩ := well.active loop ready (phase ▸ member)
    have forward := update.forward
    exact ⟨known.trans_le forward.created, (forward.loopOf _ known).trans home,
      forward.started known started⟩
  · intro self accepting
    exact update.fresh (well.accepted self (accepts self accepting)) (accepts self accepting)
  · intro last member
    obtain ⟨known, unlisted⟩ := well.dying last (control ▸ member)
    exact ⟨known.trans_le update.forward.created,
      fun fd found => unlisted fd (update.lookup_of_lookup found)⟩
  · intro fd self found
    exact (well.tabled fd self (update.lookup_of_lookup found)).trans_le update.forward.created
  · intro self member
    rw [control] at member
    exact (well.remaining self member).trans_le update.forward.created

/-- What holds the connection is not the table. -/
theorem unlisted_of_not_isHeld {self : ConnId} (unheld : process.isHeld self = false)
    (fd : SocketType) : process.server.connections.lookup fd ≠ some self := by
  intro found
  have member := AList.mem_lookup_iff.mp found
  simp only [ServerProcess.isHeld, decide_eq_false_iff_not, not_or, not_exists, not_and] at unheld
  exact unheld.2.1 _ member rfl

/-- The main loop moves on inside `HandleNewConnection`, with the same channels to come. -/
theorem accepting (well : WellRun before) {server : TcpServer} {phase : LoopPhase}
    (queued : WellQueued server) (forward : Forward before.server server)
    (running : before.phase 0 ≠ .unstarted) (runs : phase ≠ .unstarted)
    (active : phase.active = (before.phase 0).active)
    (accepted : ∀ self active, phase = .accepting self active → server.Fresh self)
    (lookup : ∀ fd self, server.connections.lookup fd = some self →
      before.server.connections.lookup fd = some self ∨
        before.server.created ≤ self ∧ self < server.created) :
    WellRun ((before.withServer server).setPhase 0 phase) := by
  constructor
  · exact queued
  · intro loop
    rw [threadId_setPhase, phase_setPhase]
    have threads : before.threadId loop = _ := well.threads loop
    by_cases main : loop = 0
    · subst main
      rw [if_neg running] at threads
      simpa [runs] using threads
    · simpa [main] using threads
  · intro loop ready member
    have earlier : ready ∈ (before.phase loop).active := by
      rw [phase_setPhase] at member
      split at member
      · next main => exact main ▸ active ▸ member
      · exact member
    obtain ⟨known, home, started⟩ := well.active loop ready earlier
    exact ⟨known.trans_le forward.created, (forward.loopOf _ known).trans home,
      forward.started known started⟩
  · rintro self ⟨rest, accepting⟩
    rw [phase_setPhase, if_pos rfl] at accepting
    exact accepted self rest accepting
  · intro last member
    obtain ⟨known, unlisted⟩ := well.dying last member
    refine ⟨known.trans_le forward.created, fun fd found => ?_⟩
    rcases lookup fd last.1 found with earlier | ⟨new, _⟩
    · exact unlisted fd earlier
    · exact absurd known (Nat.not_lt.mpr new)
  · intro fd self found
    rcases lookup fd self found with earlier | ⟨_, known⟩
    · exact (well.tabled fd self earlier).trans_le forward.created
    · exact known
  · intro self member
    exact (well.remaining self member).trans_le forward.created

theorem acceptUpdate (well : WellRun before) (update : AcceptUpdate before after) :
    WellRun after := by
  cases update with
  | @add fd active phase serving free =>
      refine well.accepting (well.queued.addConnection fd) (.addConnection fd) (by simp [phase])
        (by simp) (by rw [phase]; rfl) ?_ ?_
      · intro self rest accepting
        cases accepting
        refine ⟨Nat.lt_succ_self _, by simp [TcpConnection.ofSocket], fun loop member => ?_⟩
        exact Nat.lt_irrefl _ (well.queued.known loop _ member)
      · intro key self found
        have lookup : (AList.insert _ _ before.server.connections).lookup key = some self := found
        rw [FiniteMap.lookup_insert] at lookup
        split at lookup
        · cases lookup
          exact .inr ⟨Nat.le_refl _, Nat.lt_succ_self _⟩
        · exact .inl lookup
  | establish phase serving fresh =>
      exact well.accepting (well.queued.connectEstablished fresh.known fresh.connecting fresh.taken)
        (.connectEstablished fresh) (by simp [phase]) (by simp) (by rw [phase]; rfl) (by simp)
        fun _ _ found => .inl found
  | queue phase serving fresh away =>
      refine well.accepting (well.queued.queueInLoop fresh.known rfl fresh.connecting ?_)
        (.of_conn_eq rfl (fun _ => rfl) fun _ => rfl) (by simp [phase]) (by simp)
        (by rw [phase]; rfl) (by simp) fun _ _ found => .inl found
      rintro other same
      cases same
      exact fresh.taken _

/-- The server stays, and a loop stays where it was or leaves for a place where it accepts
nothing and has established connections of its own to handle. -/
theorem of_phase (well : WellRun before) (server : after.server = before.server)
    (threads : ∀ loop, after.threadId loop =
      if after.phase loop = .unstarted then .main else runner loop)
    (phase : ∀ loop, after.phase loop = before.phase loop ∨
      (after.phase loop).isAccepting = false ∧
        ∀ ready ∈ (after.phase loop).active, ready.conn < before.server.created ∧
          before.server.loopOf ready.conn = loop ∧
          (before.server.conn ready.conn).state ≠ .connecting)
    (dying : after.control.dying = before.control.dying)
    (remaining : ∀ self ∈ after.control.stage.remaining,
      self ∈ before.control.stage.remaining) : WellRun after := by
  constructor
  · exact server ▸ well.queued
  · exact threads
  · intro loop ready member
    rw [server]
    rcases phase loop with same | ⟨_, active⟩
    · exact well.active loop ready (same ▸ member)
    · exact active ready member
  · rintro self ⟨rest, accepting⟩
    rw [server]
    rcases phase 0 with same | ⟨unaccepting, _⟩
    · exact well.accepted self ⟨rest, same ▸ accepting⟩
    · rw [accepting] at unaccepting
      cases unaccepting
  · rw [server, dying]
    exact well.dying
  · exact server ▸ well.tabled
  · rw [server]
    exact fun self member => well.remaining self (remaining self member)

theorem controlUpdate {admits : ServerProcess → Prop} (well : WellRun before)
    (update : ControlUpdate admits before after) : WellRun after := by
  cases update with
  | @setPhase loop phase running unaccepted runs unaccepting active =>
      refine well.of_phase rfl (fun target => ?_) (fun target => ?_) rfl fun _ member => member
      · rw [threadId_setPhase, phase_setPhase, well.threads target]
        by_cases same : target = loop
        · subst same
          simp [running, runs]
        · simp [same]
      · rw [phase_setPhase]
        split
        · next same => exact .inr ⟨unaccepting, same ▸ active⟩
        · exact .inl rfl
  | @setLoop loop eventLoop sub threads idle unaccepting =>
      refine well.of_phase rfl (fun target => ?_) (fun target => ?_) rfl fun _ member => member
      · simp only [ServerProcess.threadId, ServerProcess.phase, withControl_control,
          Function.update_apply]
        split
        · next same => exact same ▸ threads
        · exact well.threads target
      · simp only [ServerProcess.phase, withControl_control, Function.update_apply]
        split
        · refine .inr ⟨unaccepting, fun ready member => ?_⟩
          rw [idle] at member
          cases member
        · exact .inl rfl
  | retire thread =>
      refine ⟨well.queued, well.threads, well.active, well.accepted, fun last member => ?_,
        well.tabled, well.remaining⟩
      simp only [ServerProcess.retire, ServerProcess.withControl_control, List.mem_append,
        List.mem_map, List.mem_filter, List.mem_range, Bool.and_eq_true, Bool.not_eq_true']
        at member
      rcases member with earlier | ⟨self, ⟨known, _, unheld⟩, rfl⟩
      · exact well.dying last earlier
      · exact ⟨known, unlisted_of_not_isHeld unheld⟩
  | @settle control settles =>
      refine well.of_phase rfl (fun loop => ?_) (fun loop => .inl (settles.phase loop))
        settles.dying settles.remaining
      have phase : (before.withControl control).phase loop = before.phase loop :=
        settles.phase loop
      rw [phase]
      exact (settles.threadId loop).trans (well.threads loop)
  | begin admitted serving unaccepting =>
      refine ⟨well.queued, well.threads, well.active, well.accepted, well.dying, well.tabled,
        fun self member => ?_⟩
      obtain ⟨slot, listed, rfl⟩ := List.mem_map.mp member
      exact well.tabled slot.1 slot.2 (AList.mem_lookup_iff.mpr listed)

theorem update {admits : ServerProcess → Prop} (well : WellRun before)
    (update : ProcessUpdate admits before after) : WellRun after := by
  cases update with
  | server update => exact well.serverUpdate update
  | accept update => exact well.acceptUpdate update
  | control update => exact well.controlUpdate update

theorem updates {admits : ServerProcess → Prop} (well : WellRun before)
    (updates : ProcessUpdates admits before after) : WellRun after := by
  induction updates with
  | refl => exact well
  | tail _ update inductionHypothesis => exact inductionHypothesis.update update

theorem start (threadNum : Nat) : WellRun (.start threadNum) where
  queued := .start threadNum
  threads loop := by
    by_cases main : loop = 0
    · subst main
      rfl
    · simp [ServerProcess.start, ServerProcess.threadId, ServerProcess.phase, main]
  active loop ready member := by
    by_cases main : loop = 0 <;>
      simp [ServerProcess.start, ServerProcess.phase, main, LoopPhase.active] at member
  accepted self accepts := by
    obtain ⟨active, accepting⟩ := accepts
    simp [ServerProcess.start, ServerProcess.phase] at accepting
  dying last member := by cases member
  tabled fd self found := by cases found
  remaining self member := by cases member

/-- A loop that has started runs on the thread that its `m_threadId` names. -/
theorem threadId_of_running (well : WellRun process) {loop : LoopId}
    (running : process.phase loop ≠ .unstarted) : process.threadId loop = runner loop := by
  rw [well.threads loop, if_neg running]

theorem threadId_main (well : WellRun process) : process.threadId 0 = .main := by
  rw [well.threads 0]
  split <;> rfl

/-- The functor that a loop takes from its queue is its own. -/
theorem threadId_homeOf (well : WellRun process) {loop : LoopId} {functor : ServerFunctor}
    {rest : List ServerFunctor} (running : process.phase loop ≠ .unstarted)
    (queue : process.server.pending loop = functor :: rest) :
    process.threadId ((process.server.unqueue loop).homeOf functor) = runner loop := by
  have home : loop = process.server.homeOf functor :=
    well.queued.home loop functor (queue ▸ List.mem_cons_self)
  have same : (process.server.unqueue loop).homeOf functor = loop := by
    rw [home]
    cases functor <;> rfl
  rw [same]
  exact well.threadId_of_running running

theorem handles (well : WellRun process) {loop : LoopId} {ready : ReadyChannel}
    (member : ready ∈ (process.phase loop).active) :
    process.Handles (runner loop) ready.conn := by
  obtain ⟨known, home, started⟩ := well.active loop ready member
  have running : process.phase loop ≠ .unstarted := by
    intro unstarted
    rw [unstarted] at member
    cases member
  refine ⟨known, started, ?_⟩
  rw [home]
  exact well.threadId_of_running running

end WellRun

/-! ### Every event is a sequence of updates -/

namespace ServerProcess

variable {process before after : ServerProcess} {admits : ServerProcess → Prop}

/-- Nothing changes but what the user holds, what is built and whether it listens. -/
theorem Settles.sameStage {control : ProcessControl} (loops : control.loops = process.control.loops)
    (dying : control.dying = process.control.dying)
    (tornDown : control.tornDown = process.control.tornDown)
    (stage : control.stage = process.control.stage) : process.Settles control where
  threadId _ := by rw [loops]; rfl
  phase _ := by rw [loops]; rfl
  dying := dying
  tornDown := tornDown
  serving := by rw [stage]
  cleared := by rw [stage]; exact id
  remaining := by rw [stage]; exact fun _ => id
  closed self member gone := by
    rw [stage] at gone
    exact absurd member gone

/-- The main thread moves on in the destructor, with no connection left to close. -/
theorem Settles.nextStage {stage next : Stage} (at_ : process.control.stage = stage)
    (begun : stage ≠ .serving) (later : next ≠ .serving)
    (cleared : stage.isCleared = true → next.isCleared = true)
    (closed : stage.remaining = []) (left : next.remaining = []) :
    process.Settles { process.control with stage := next } where
  threadId _ := rfl
  phase _ := rfl
  dying := rfl
  tornDown := rfl
  serving := by rw [at_]; exact iff_of_false later begun
  cleared := by rw [at_]; exact cleared
  remaining := by rw [left]; exact fun _ member => nomatch member
  closed := by rw [at_, closed]; exact fun _ member => nomatch member

/-- A running loop takes a function of the code and goes to its next phase. -/
theorem updates_moving (well : WellRun before) (updates : ServerUpdates before after)
    {loop : LoopId} {phase : LoopPhase} (running : before.phase loop ≠ .unstarted)
    (unaccepted : (before.phase loop).isAccepting = false) (runs : phase ≠ .unstarted)
    (unaccepting : phase.isAccepting = false)
    (active : ∀ ready ∈ phase.active, ready ∈ (before.phase loop).active) :
    ProcessUpdates admits before (after.setPhase loop phase) := by
  have same : after.phase loop = before.phase loop := by
    rw [ServerProcess.phase, updates.control_eq]
    rfl
  have done : ProcessUpdates admits before after := updates.processUpdates
  have here := well.updates done
  refine done.control (.setPhase ?_ ?_ runs unaccepting ?_)
  · exact same ▸ running
  · exact same ▸ unaccepted
  · exact fun ready member => here.active loop ready (same ▸ active ready member)

/-- An event of a running loop: a function of the code, the next phase, and the pointers
that the thread has dropped. -/
theorem updates_running (well : WellRun before) (updates : ServerUpdates before after)
    {loop : LoopId} {phase : LoopPhase} (running : before.phase loop ≠ .unstarted)
    (unaccepted : (before.phase loop).isAccepting = false) (runs : phase ≠ .unstarted)
    (unaccepting : phase.isAccepting = false)
    (active : ∀ ready ∈ phase.active, ready ∈ (before.phase loop).active) :
    ProcessUpdates admits before ((after.setPhase loop phase).retire (runner loop)) :=
  (updates_moving well updates running unaccepted runs unaccepting active).control (.retire _)

/-- A loop goes on without any new channel to handle. -/
theorem updates_nextPhase {loop : LoopId} {phase : LoopPhase}
    (running : process.phase loop ≠ .unstarted)
    (unaccepted : (process.phase loop).isAccepting = false) (runs : phase ≠ .unstarted)
    (unaccepting : phase.isAccepting = false) (idle : phase.active = []) :
    ProcessUpdates admits process (process.setPhase loop phase) := by
  refine .of_control (.setPhase running unaccepted runs unaccepting ?_)
  rw [idle]
  exact fun _ member => nomatch member

theorem known_of_isAlive {self : ConnId} (alive : process.isAlive self = true) :
    self < process.server.created := by
  simp only [isAlive, decide_eq_true_eq] at alive
  exact alive.1

theorem known_of_mayCallConnection {thread : ThreadId} {self : ConnId}
    (may : process.mayCallConnection thread self = true) : self < process.server.created := by
  simp only [mayCallConnection, decide_eq_true_eq] at may
  exact known_of_isAlive may.2.1

theorem updates_accept {fd : Nat} {active : List ReadyChannel}
    (phase : process.phase 0 = .handling active) (serving : process.control.stage = .serving)
    (free : process.server.isFree fd = true) :
    ProcessUpdates admits process
      (((process.acceptConnection fd).setPhase 0
        (.accepting process.server.created active)).retire .main) := by
  have checked : ProcessUpdates admits process (process.assertInLoopThread .main 0) :=
    (updates_check 0).processUpdates
  exact (checked.accept (.add phase serving free)).control (.retire .main)

theorem updates_establish (well : WellRun process) {self : ConnId} {active : List ReadyChannel}
    (phase : process.phase 0 = .accepting self active)
    (serving : process.control.stage = .serving) :
    ProcessUpdates admits process
      (((process.setPhase 0 (.handling active)).establishAccepted self).retire .main) := by
  have fresh := well.accepted self ⟨active, phase⟩
  suffices established : ProcessUpdates admits process
      ((process.setPhase 0 (.handling active)).establishAccepted self) from
    established.control (.retire .main)
  unfold establishAccepted runInLoop
  split
  · have done : ProcessUpdates admits process
        ((process.withServer (process.server.connectEstablished self)).setPhase 0
          (.handling active)) :=
      .single (.accept (.establish phase serving fresh))
    exact done.server (.check .main (process.server.loopOf self))
  · next elsewhere =>
      refine .single (.accept (.queue phase serving fresh fun main => elsewhere ?_))
      exact decide_eq_true (by simpa using main)

theorem updates_poll (well : WellRun process) {loop : LoopId} {active : List ReadyChannel}
    (phase : process.phase loop = .testing)
    (polled : ∀ ready ∈ active, process.canPoll loop ready = true) :
    ProcessUpdates admits process (process.setPhase loop (.handling active)) := by
  refine .of_control (.setPhase (by simp [phase]) (by rw [phase]; rfl) (by simp) rfl ?_)
  intro ready member
  have can := polled ready member
  simp only [canPoll, decide_eq_true_eq] at can
  exact well.queued.registered loop _ ready.conn can.2.1

theorem updates_functor (well : WellRun process) {loop : LoopId} {left : Nat}
    {executed rest : List ServerFunctor} {functor : ServerFunctor}
    (phase : process.phase loop = .draining (left + 1) executed)
    (queue : process.server.pending loop = functor :: rest) :
    ServerUpdates process
      ((process.withServer (process.server.unqueue loop)).runFunctor (runner loop) functor) := by
  have member : functor ∈ process.server.pending loop := queue ▸ List.mem_cons_self
  have taken : ServerUpdates process (process.withServer (process.server.unqueue loop)) :=
    .single (.unqueue loop)
  refine taken.trans (updates_runFunctor (well.queued.known loop functor member)
    (well.queued.fits loop functor member) (well.threadId_homeOf (by simp [phase]) queue) ?_)
  · rintro self rfl
    refine ⟨⟨well.queued.known loop _ member, well.queued.fits loop _ member,
      well.queued.not_mem_unqueue queue⟩, ?_, ?_⟩
    · rintro ⟨active, accepting⟩
      exact (well.accepted self ⟨active, accepting⟩).taken loop member
    · have home : loop = process.server.loopOf self := well.queued.home loop _ member
      have running : process.phase loop ≠ .unstarted := by simp [phase]
      exact home ▸ well.threadId_of_running running

/-- What `ForceClose` on the loop's own thread leaves behind. -/
theorem closed_forceClose {thread : ThreadId} {self : ConnId}
    (home : process.threadId (process.server.loopOf self) = thread) :
    ((process.forceClose thread self).server.conn self).state = .connecting ∨
      ((process.forceClose thread self).server.conn self).state = .disconnected := by
  unfold forceClose
  split
  · have inLoop : (process.setDisconnecting self).isInLoopThread thread
        (process.server.loopOf self) = true := decide_eq_true home
    have state : ((process.setDisconnecting self).server.conn self).state = .disconnecting := by
      simp [setDisconnecting]
    right
    rw [runInLoop, if_pos inLoop]
    show (((process.setDisconnecting self).forceCloseInLoop thread self).server.conn self).state =
      .disconnected
    rw [forceCloseInLoop, if_pos (.inr state), conn_handleRemoveConnection (by simp)]
    simp
  · next closed =>
      cases state : (process.server.conn self).state with
      | connecting => exact .inl rfl
      | disconnected => exact .inr rfl
      | connected => exact absurd (.inl state) closed
      | disconnecting => exact absurd (.inr state) closed

theorem updates_closeNext (well : WellRun process) {self : ConnId} {remaining : List ConnId}
    (closing : process.control.stage = .closing remaining) (member : self ∈ remaining) :
    ProcessUpdates admits process
      (((process.forceClose .main self).setStage (.closing (remaining.erase self))).retire
        .main) := by
  have known : self < process.server.created := by
    refine well.remaining self ?_
    rw [closing]
    exact member
  have closed : ServerUpdates process (process.forceClose .main self) := updates_forceClose known
  have stage : (process.forceClose .main self).control.stage = .closing remaining := by
    rw [closed.control_eq, closing]
  have settles : (process.forceClose .main self).Settles
      { (process.forceClose .main self).control with
        stage := .closing (remaining.erase self) } := by
    refine ⟨fun _ => rfl, fun _ => rfl, rfl, rfl, ?_, ?_, ?_, ?_⟩
    · simp [stage]
    · simp [stage, Stage.isCleared]
    · rw [stage]
      exact fun other listed => List.mem_of_mem_erase listed
    · rw [stage]
      intro other listed gone home
      have same : other = self := by
        by_contra different
        exact gone ((List.mem_erase_of_ne different).mpr listed)
      subst same
      rw [threadId, closed.control_eq, closed.forward.loopOf other known] at home
      exact closed_forceClose home
  exact (closed.processUpdates.control (.settle settles)).control (.retire .main)

theorem updates_quit {loop : LoopId} (quitting : process.control.stage = .quitting loop) :
    ProcessUpdates admits process (process.quit loop) := by
  refine .of_control (.settle ⟨fun target => ?_, fun target => ?_, rfl, rfl, ?_, ?_, ?_, ?_⟩)
  · dsimp only
    rw [Function.update_apply]
    split
    · next same => rw [same]; rfl
    · rfl
  · dsimp only
    rw [Function.update_apply]
    split
    · next same => rw [same]; rfl
    · rfl
  · simp [quitting]
  · simp [quitting, Stage.isCleared]
  · exact fun _ member => nomatch member
  · rw [quitting]
    exact fun _ member => nomatch member

end ServerProcess

namespace WellRun

variable {before after process : ServerProcess}

/-- Every event is a sequence of updates, and only `beginDestructor` begins the destructor. -/
theorem updates_of_step {guard : ServerProcess → ProcessEvent → Prop} {event : ProcessEvent}
    (well : WellRun before) (admitted : guard before event)
    (step : ProcessStep before event after) :
    ProcessUpdates (fun process => guard process .beginDestructor) before after := by
  cases step with
  | constructLoop =>
      let loops := Function.update before.control.loops (before.control.constructed + 1)
        ⟨.main, false, .unstarted⟩
      have built : ProcessUpdates (fun process => guard process .beginDestructor) before
          (before.withControl { before.control with loops }) :=
        .of_control (.setLoop (Nat.succ_pos _) rfl rfl rfl)
      have counted := built.control (.settle <|
        @Settles.sameStage (before.withControl { before.control with loops })
          before.constructLoop.control rfl rfl rfl rfl)
      exact counted.server (.check .main (before.control.constructed + 1))
  | startThread loop sub unstarted =>
      exact (ProcessUpdates.of_control (.setLoop sub rfl rfl rfl)).server (.check (runner loop) loop)
  | listen =>
      have checked : ProcessUpdates (fun process => guard process .beginDestructor) before
          (before.assertInLoopThread .main 0) :=
        (updates_check 0).processUpdates
      exact checked.control (.settle (.sameStage rfl rfl rfl rfl))
  | accept fd active phase serving free => exact updates_accept phase serving free
  | establish self active phase serving => exact updates_establish well phase serving
  | poll loop active phase polled => exact updates_poll well phase polled
  | handleEvent loop read write ready active phase may alive =>
      have member : ready ∈ (before.phase loop).active := by
        rw [phase]
        exact List.mem_cons_self
      have handled := updates_handleEvent (well.handles member) read write
      refine updates_running well handled (by simp [phase]) (by rw [phase]; rfl) (by simp) rfl ?_
      intro other later
      rw [phase]
      exact List.mem_cons_of_mem _ later
  | swapFunctors loop phase =>
      exact updates_nextPhase (by simp [phase]) (by rw [phase]; rfl) (by simp) rfl rfl
  | functor loop left executed functor rest phase queue may alive =>
      exact updates_running well (updates_functor well phase queue) (by simp [phase])
        (by rw [phase]; rfl) (by simp) rfl fun _ member => nomatch member
  | endBatch loop executed phase =>
      exact updates_running well .refl (by simp [phase]) (by rw [phase]; rfl) (by simp) rfl
        fun _ member => nomatch member
  | exitLoop loop phase =>
      exact updates_nextPhase (by simp [phase]) (by rw [phase]; rfl) (by simp) rfl rfl
  | send thread self data may =>
      exact (updates_send (known_of_mayCallConnection may) data).processUpdates.control
        (.retire thread)
  | shutdown thread self may =>
      exact (updates_shutdown (known_of_mayCallConnection may)).processUpdates.control
        (.retire thread)
  | forceClose thread self may =>
      exact (updates_forceClose (known_of_mayCallConnection may)).processUpdates.control
        (.retire thread)
  | retain self => exact .of_control (.settle (.sameStage rfl rfl rfl rfl))
  | release thread self =>
      have released : ProcessUpdates (fun process => guard process .beginDestructor) before
          (before.withControl
            { before.control with held := before.control.held.erase self }) :=
        .of_control (.settle (.sameStage rfl rfl rfl rfl))
      exact released.control (.retire thread)
  | destroy thread self dying =>
      obtain ⟨known, unlisted⟩ := well.dying _ dying
      exact .single (.server (.destroy thread known unlisted))
  | beginDestructor serving unaccepting =>
      exact .of_control (.begin admitted serving unaccepting)
  | closeNext self remaining closing member => exact updates_closeNext well closing member
  | endClosing closing =>
      exact .of_control (.settle (.nextStage closing (by simp) (by simp) (by simp [Stage.isCleared])
        rfl rfl))
  | quitLoop loop quitting => exact updates_quit quitting
  | joinLoop loop joining =>
      exact .of_control (.settle (.nextStage joining (by simp) (by simp) (by simp [Stage.isCleared])
        rfl rfl))
  | clear quitting =>
      have staged : ProcessUpdates (fun process => guard process .beginDestructor) before
          (before.setStage .cleared) :=
        .of_control (.settle (.nextStage quitting (by simp) (by simp) (fun _ => rfl) rfl rfl))
      exact (staged.server (.clear rfl)).control (.retire .main)
  | destroyAcceptor cleared =>
      have checked := (@updates_check before .main 0).tail (.check .main 0)
      exact (ServerUpdates.processUpdates checked).control
        (.settle (.nextStage cleared (by simp) (by simp) (fun _ => rfl) rfl rfl))
  | destroyLoop loop dismantling sub stopped =>
      have checked := (@updates_check before .main loop).tail (.check .main loop)
      have dropped := @ServerUpdates.processUpdates _ _
        (fun process => guard process .beginDestructor) (checked.tail (.dropQueue loop))
      have running : before.phase loop ≠ .unstarted := by simp [stopped]
      have unaccepted : (before.phase loop).isAccepting = false := by rw [stopped]; rfl
      have gone := dropped.control (@ControlUpdate.setPhase _ _ loop .destroyed running unaccepted
        (by simp) rfl (by simp [LoopPhase.active]))
      exact (gone.control (.settle (.nextStage dismantling (by simp) (by simp) (fun _ => rfl) rfl
        rfl))).control (.retire .main)
  | finish dismantling =>
      exact .of_control (.settle (.nextStage dismantling (by simp) (by simp) (fun _ => rfl) rfl rfl))

theorem step {event : ProcessEvent} (well : WellRun before)
    (step : ProcessStep before event after) : WellRun after :=
  well.updates (@updates_of_step _ _ (fun _ _ => True) event well trivial step)

/-- What every update keeps, a run keeps. -/
theorem run_keeps {guard : ServerProcess → ProcessEvent → Prop} {events : List ProcessEvent}
    {holds : ServerProcess → Prop} (well : WellRun before) (initial : holds before)
    (run : serverProcess.Run guard before events after)
    (kept : ∀ {before after}, WellRun before → holds before →
      ProcessUpdate (fun process => guard process .beginDestructor) before after → holds after) :
    WellRun after ∧ holds after := by
  refine run.invariant (fun process => WellRun process ∧ holds process) ⟨well, initial⟩ ?_
  rintro process event next ⟨here, prior⟩ admitted transition
  have updates := here.updates_of_step admitted (processStep_cases transition)
  clear transition admitted
  induction updates with
  | refl => exact ⟨here, prior⟩
  | tail _ update inductionHypothesis =>
      exact ⟨inductionHypothesis.1.update update,
        kept inductionHypothesis.1 inductionHypothesis.2 update⟩

end WellRun

theorem ProcessUpdate.forward {admits : ServerProcess → Prop} {before after : ServerProcess}
    (update : ProcessUpdate admits before after) : Forward before.server after.server := by
  cases update with
  | server update => exact update.forward
  | accept update => exact update.forward
  | control update =>
      rw [update.server_eq]
      exact .refl _

namespace WellRun

variable {before after : ServerProcess}

theorem run_forward {guard : ServerProcess → ProcessEvent → Prop} {events : List ProcessEvent}
    (well : WellRun before) (run : serverProcess.Run guard before events after) :
    Forward before.server after.server :=
  (@run_keeps _ _ _ _ (fun process => Forward before.server process.server) well (.refl _) run
    fun _ prior update => prior.trans update.forward).2

end WellRun

end TurboCore.Net
