import Mathlib
import TurboCore.Net.SplitHandlers

/-!
# The end of the server

`~TcpServer` force-closes what it finds in the table. On the main loop a force-close is a
call and closes the connection there; on a sub loop it is a functor, which the loop may
leave in its queue, and which otherwise queues the removal on the main loop. So does a
handler of a sub loop that has closed its connection and has still to call back. So the
teardown is clean when nothing is left to close or to report on a sub loop.
-/

namespace TurboCore.Net

open Foundation TcpServer ServerProcess

/-- The lambda captures the `this` of the server. -/
def ServerFunctor.capturesServer : ServerFunctor → Bool
  | .removeConnection _ => true
  | .connectEstablished _ | .connectDestroyed _ | .sendInLoop _ _ | .shutdownInLoop _
  | .forceCloseInLoop _ => false

/-- No functor of the main loop has captured the server. -/
def CapturesNothing (server : TcpServer) : Prop :=
  ∀ functor ∈ server.pending 0, functor.capturesServer = false

/-- The connections that `~TcpServer` found are closed, the assertion of `~TcpConnection`
has held for every connection that is gone, and no functor of the main loop has captured
the server. -/
structure CleanTeardown (process : ServerProcess) : Prop where
  closed : ∀ self ∈ process.control.tornDown, (process.server.conn self).state = .disconnected
  asserted : process.unclosed = []
  captures : CapturesNothing process.server

/-- `~TcpServer` begins without sub loops, or with every connection in the table closed and
no removal in the queue of the main loop. -/
def FindsClosed (process : ServerProcess) : Prop :=
  process.server.threadNum = 0 ∨
    (∀ slot ∈ process.server.connections.entries,
      (process.server.conn slot.2).state = .disconnected) ∧
    CapturesNothing process.server

/-- A close has overtaken the `Shutdown` or `ForceClose` of the thread, which is about to
assign `Disconnecting`. -/
def SplitProcess.isOvertaken (split : SplitProcess) (thread : ThreadId) : Bool :=
  match split.pause thread with
  | some (.tested _ self) => (split.process.server.conn self).state = .disconnected
  | _ => false

/-- `~TcpServer` moreover begins with no sub loop between a close and its callback, and no
`Shutdown` or `ForceClose` is overtaken. -/
def BeginsClosed (split : SplitProcess) : SplitEvent → Prop
  | .whole .beginDestructor =>
      FindsClosed split.process ∧ ∀ entry ∈ split.paused, entry.2.isBeforeCallBack = false
  | .assign thread => split.isOvertaken thread = false
  | _ => True

instance (server : TcpServer) : Decidable (CapturesNothing server) :=
  inferInstanceAs (Decidable (∀ functor ∈ server.pending 0, functor.capturesServer = false))

instance (process : ServerProcess) : Decidable (FindsClosed process) :=
  inferInstanceAs (Decidable (_ ∨ (_ ∧ _)))

instance (split : SplitProcess) (event : SplitEvent) : Decidable (BeginsClosed split event) := by
  unfold BeginsClosed
  split <;> infer_instance

/-- Without sub loops every connection is on the main loop, and it is established before
`HandleNewConnection` returns. -/
structure OnMainLoop (process : ServerProcess) : Prop where
  home : ∀ self, self < process.server.created → process.server.loopOf self = 0
  established : ∀ self, self < process.server.created →
    (process.server.conn self).state = .connecting → process.Accepts self
  captures : CapturesNothing process.server

/-- In `~TcpServer` nothing is open but what the main thread has still to close. -/
structure Closing (process : ServerProcess) : Prop where
  unaccepting : ∀ self, ¬ process.Accepts self
  closed : ∀ self, self < process.server.created →
    (process.server.conn self).state ≠ .disconnected →
      process.server.threadNum = 0 ∧ self ∈ process.control.stage.remaining
  captures : CapturesNothing process.server
  tornDown : ∀ self ∈ process.control.tornDown, self < process.server.created

/-- The invariant. -/
structure TearsDown (process : ServerProcess) : Prop where
  live : LiveTable process
  alone : process.server.threadNum = 0 → OnMainLoop process
  closing : process.control.stage ≠ .serving → Closing process
  unclosed : process.unclosed = []

namespace ServerUpdate

variable {before after : ServerProcess}

theorem accepts_iff (update : ServerUpdate before after) (self : ConnId) :
    after.Accepts self ↔ before.Accepts self := by
  unfold ServerProcess.Accepts ServerProcess.phase
  rw [update.control_eq]

/-- Only a connection of a sub loop queues its removal. -/
theorem capturesNothing (update : ServerUpdate before after)
    (captures : CapturesNothing before.server)
    (home : ∀ self, self < before.server.created →
      (before.server.conn self).state ≠ .disconnected → before.server.loopOf self = 0) :
    CapturesNothing after.server := by
  intro functor member
  rcases update.pending_cases member with earlier | ⟨self, rfl, known, opened, away⟩ | ⟨_, call⟩
  · exact captures functor earlier
  · exact absurd (home self known opened) away
  · cases functor with
    | removeConnection self => exact absurd rfl (call self)
    | _ => rfl

end ServerUpdate

namespace OnMainLoop

variable {before after : ServerProcess}

theorem serverUpdate (alone : OnMainLoop before) (update : ServerUpdate before after) :
    OnMainLoop after where
  home self known := by
    rw [update.created_eq] at known
    rw [update.forward.loopOf self known, alone.home self known]
  established self known connecting := by
    rw [update.created_eq] at known
    refine (update.accepts_iff self).mpr (alone.established self known ?_)
    by_contra started
    exact update.forward.started known started connecting
  captures := update.capturesNothing alone.captures fun self known _ => alone.home self known

/-- A new connection goes to the main loop, and is established on the spot. -/
theorem acceptUpdate (alone : OnMainLoop before) (well : WellRun before)
    (single : before.server.threadNum = 0) (update : AcceptUpdate before after) :
    OnMainLoop after := by
  cases update with
  | @add fd active phase serving free =>
      have unaccepting : ∀ self, ¬ before.Accepts self := by
        rintro self ⟨rest, accepting⟩
        rw [phase] at accepting
        cases accepting
      refine ⟨fun self known => ?_, fun self known connecting => ?_, alone.captures⟩
      · rcases cases_addConnection known with rfl | ⟨earlier, different⟩
        · simp [TcpServer.nextLoop, single]
        · simpa [Nat.ne_of_lt earlier] using alone.home self earlier
      · rcases cases_addConnection known with rfl | ⟨earlier, different⟩
        · exact ⟨active, by rw [phase_setPhase, if_pos rfl]⟩
        · refine absurd (alone.established self earlier ?_) (unaccepting self)
          simpa [Nat.ne_of_lt earlier] using connecting
  | @establish self active phase serving fresh =>
      have forward : Forward before.server (before.server.connectEstablished self) :=
        .connectEstablished fresh
      refine ⟨fun other known => ?_, fun other known connecting => ?_, alone.captures⟩
      · exact (forward.loopOf other known).trans (alone.home other known)
      · have waiting : (before.server.conn other).state = .connecting := by
          by_contra started
          exact forward.started known started connecting
        obtain ⟨rest, accepting⟩ := alone.established other known waiting
        rw [phase] at accepting
        cases accepting
        have connected :
            ((before.server.connectEstablished self).conn self).state = .connected := by
          simp only [TcpServer.connectEstablished, conn_callBack, conn_setAttached_self]
          rfl
        cases connected.symm.trans connecting
  | @queue self active phase serving fresh away =>
      refine absurd ?_ away
      rw [alone.home self fresh.known]
      exact well.threadId_main

/-- The place of the main loop in `HandleNewConnection` and the connections are what matters. -/
theorem of_eq (alone : OnMainLoop before) (server : after.server = before.server)
    (accepts : ∀ self, before.Accepts self → after.Accepts self) : OnMainLoop after where
  home := server ▸ alone.home
  established self known connecting := by
    rw [server] at known connecting
    exact accepts self (alone.established self known connecting)
  captures := server ▸ alone.captures

end OnMainLoop

namespace Closing

variable {before after : ServerProcess}

/-- What is still open is on the main loop. -/
theorem home (closing : Closing before)
    (alone : before.server.threadNum = 0 → OnMainLoop before) (self : ConnId)
    (known : self < before.server.created)
    (opened : (before.server.conn self).state ≠ .disconnected) :
    before.server.loopOf self = 0 :=
  (alone (closing.closed self known opened).1).home self known

theorem serverUpdate (closing : Closing before)
    (alone : before.server.threadNum = 0 → OnMainLoop before)
    (update : ServerUpdate before after) : Closing after where
  unaccepting self accepts := closing.unaccepting self ((update.accepts_iff self).mp accepts)
  closed self known opened := by
    rw [update.created_eq] at known
    rw [update.threadNum_eq, update.control_eq]
    exact closing.closed self known fun closed => opened (update.forward.disconnected known closed)
  captures := update.capturesNothing closing.captures (closing.home alone)
  tornDown self member := by
    rw [update.control_eq] at member
    rw [update.created_eq]
    exact closing.tornDown self member

/-- A force-close of the main thread has closed its connection. -/
theorem settle (closing : Closing before) (well : WellRun before)
    (alone : before.server.threadNum = 0 → OnMainLoop before) {control : ProcessControl}
    (settles : before.Settles control) : Closing (before.withControl control) where
  unaccepting := by
    rintro self ⟨active, accepting⟩
    exact closing.unaccepting self ⟨active, (settles.phase 0).symm.trans accepting⟩
  closed self known opened := by
    obtain ⟨single, remains⟩ := closing.closed self known opened
    refine ⟨single, ?_⟩
    by_contra settled
    have main : before.threadId (before.server.loopOf self) = .main := by
      rw [closing.home alone self known opened]
      exact well.threadId_main
    rcases settles.closed self remains settled main with connecting | closed
    · exact closing.unaccepting self ((alone single).established self known connecting)
    · exact opened closed
  captures := closing.captures
  tornDown := by
    rw [withControl_control, settles.tornDown]
    exact closing.tornDown

/-- `~TcpServer` finds every connection that is open. -/
theorem of_begin (well : WellRun before) (live : LiveTable before)
    (alone : before.server.threadNum = 0 → OnMainLoop before)
    (admitted : FindsClosed before) (serving : before.control.stage = .serving)
    (unaccepting : (before.phase 0).isAccepting = false) : Closing before.beginDestructor := by
  have listed : ∀ self, self < before.server.created →
      (before.server.conn self).state ≠ .disconnected →
        ∃ fd, ⟨fd, self⟩ ∈ before.server.connections.entries := by
    intro self known opened
    refine ⟨_, AList.mem_lookup_iff.mp (live.owns.listed ?_ self known opened)⟩
    rw [serving]
    rfl
  refine ⟨?_, fun self known opened => ?_, ?_, fun self member => ?_⟩
  · rintro self ⟨active, accepting⟩
    have phase : before.phase 0 = .accepting self active := accepting
    rw [phase] at unaccepting
    cases unaccepting
  · obtain ⟨fd, member⟩ := listed self known opened
    rcases admitted with single | ⟨closed, _⟩
    · exact ⟨single, List.mem_map.mpr ⟨_, member, rfl⟩⟩
    · exact absurd (closed _ member) opened
  · rcases admitted with single | ⟨_, captures⟩
    · exact (alone single).captures
    · exact captures
  · obtain ⟨slot, listed, rfl⟩ := List.mem_map.mp member
    exact well.tabled slot.1 slot.2 (AList.mem_lookup_iff.mpr listed)

end Closing

namespace TearsDown

variable {before after process : ServerProcess}

theorem start (threadNum : Nat) : TearsDown (.start threadNum) where
  live := .start threadNum
  alone _ := ⟨fun self known => absurd known (Nat.not_lt_zero self),
    fun self known => absurd known (Nat.not_lt_zero self), fun _ member => nomatch member⟩
  closing begun := absurd rfl begun
  unclosed := rfl

/-- A destructor finds its connection closed. -/
theorem closed_of_unlisted (tears : TearsDown process) {self : ConnId}
    (known : self < process.server.created)
    (unlisted : ∀ fd, process.server.connections.lookup fd ≠ some self) :
    (process.server.conn self).state = .disconnected := by
  have owns := tears.live.owns
  cases cleared : process.control.stage.isCleared with
  | false =>
      rw [cleared] at owns
      exact owns.closed_of_unlisted known unlisted
  | true =>
      by_contra opened
      have begun : process.control.stage ≠ .serving := by
        intro serving
        rw [serving] at cleared
        cases cleared
      have remains := ((tears.closing begun).closed self known opened).2
      cases stage : process.control.stage with
      | closing remaining =>
          rw [stage] at cleared
          cases cleared
      | _ =>
          rw [stage] at remains
          cases remains

theorem serverUpdate (tears : TearsDown before) (update : ServerUpdate before after) :
    TearsDown after where
  live := tears.live.serverUpdate update
  alone single := (tears.alone (update.threadNum_eq ▸ single)).serverUpdate update
  closing begun := by
    rw [update.control_eq] at begun
    exact (tears.closing begun).serverUpdate tears.alone update
  unclosed := by
    have unclosed := tears.unclosed
    cases update with
    | destroy thread known unlisted =>
        simpa [ServerProcess.destroy, tears.closed_of_unlisted known unlisted] using unclosed
    | _ => exact unclosed

theorem acceptUpdate (tears : TearsDown before) (well : WellRun before)
    (update : AcceptUpdate before after) : TearsDown after where
  live := tears.live.acceptUpdate update
  alone single := by
    have same : after.server.threadNum = before.server.threadNum := by
      cases update <;> rfl
    rw [same] at single
    exact (tears.alone single).acceptUpdate well single update
  closing begun := by
    cases update with
    | add phase serving free | establish phase serving fresh | queue phase serving fresh away =>
        exact absurd serving begun
  unclosed := by
    cases update <;> exact tears.unclosed

/-- An update of the threads that leaves the server and the destructor alone. -/
theorem of_eq (tears : TearsDown before) (live : LiveTable after)
    (server : after.server = before.server) (unclosed : after.unclosed = before.unclosed)
    (stage : after.control.stage = before.control.stage)
    (tornDown : after.control.tornDown = before.control.tornDown)
    (phase : after.phase 0 = before.phase 0 ∨
      (before.phase 0).isAccepting = false ∧ (after.phase 0).isAccepting = false) :
    TearsDown after := by
  have accepts : ∀ self, after.Accepts self ↔ before.Accepts self := by
    intro self
    unfold ServerProcess.Accepts
    rcases phase with same | ⟨earlier, later⟩
    · rw [same]
    · refine iff_of_false ?_ ?_ <;> rintro ⟨active, accepting⟩
      · rw [accepting] at later
        cases later
      · rw [accepting] at earlier
        cases earlier
  refine ⟨live, fun single => ?_, fun begun => ?_, unclosed.trans tears.unclosed⟩
  · exact (tears.alone (server ▸ single)).of_eq server fun self => (accepts self).mpr
  · have closing := tears.closing (stage ▸ begun)
    refine ⟨fun self => ?_, ?_, ?_, ?_⟩
    · rw [accepts]
      exact closing.unaccepting self
    · rw [server, stage]
      exact closing.closed
    · exact server ▸ closing.captures
    · rw [server, tornDown]
      exact closing.tornDown

theorem controlUpdate {admits : ServerProcess → Prop} (tears : TearsDown before)
    (well : WellRun before) (finds : ∀ process, admits process → FindsClosed process)
    (update : ControlUpdate admits before after) : TearsDown after := by
  have live := tears.live.controlUpdate update
  cases update with
  | @setPhase loop phase running unaccepted runs unaccepting active =>
      refine tears.of_eq live rfl rfl rfl rfl ?_
      rw [phase_setPhase]
      split
      · next main => exact .inr ⟨main ▸ unaccepted, unaccepting⟩
      · exact .inl rfl
  | @setLoop loop eventLoop sub threads idle unaccepting =>
      refine tears.of_eq live rfl rfl rfl rfl (.inl ?_)
      simp only [ServerProcess.phase, withControl_control]
      rw [Function.update_of_ne (Nat.ne_of_lt sub)]
  | retire thread => exact tears.of_eq live rfl rfl rfl rfl (.inl rfl)
  | settle settles =>
      refine ⟨live, fun single => ?_, fun begun => ?_, tears.unclosed⟩
      · refine (tears.alone single).of_eq rfl ?_
        rintro self ⟨active, accepting⟩
        exact ⟨active, (settles.phase 0).trans accepting⟩
      · have earlier : before.control.stage ≠ .serving := fun serving =>
          begun (settles.serving.mpr serving)
        exact (tears.closing earlier).settle well tears.alone settles
  | begin admitted serving unaccepting =>
      refine ⟨live, fun single => ?_, fun _ => ?_, tears.unclosed⟩
      · exact (tears.alone single).of_eq rfl fun _ accepts => accepts
      · exact .of_begin well tears.live tears.alone (finds _ admitted) serving unaccepting

theorem updates {admits : ServerProcess → Prop} (tears : TearsDown before)
    (well : WellRun before) (finds : ∀ process, admits process → FindsClosed process)
    (updates : ProcessUpdates admits before after) : WellRun after ∧ TearsDown after := by
  induction updates with
  | refl => exact ⟨well, tears⟩
  | tail _ update inductionHypothesis =>
      obtain ⟨here, prior⟩ := inductionHypothesis
      refine ⟨here.update update, ?_⟩
      cases update with
      | server update => exact prior.serverUpdate update
      | accept update => exact prior.acceptUpdate here update
      | control update => exact prior.controlUpdate here finds update

/-- The close callback of a sub loop, before `~TcpServer`. -/
theorem queueRemoval (tears : TearsDown process) {self : ConnId}
    (serving : process.control.stage = .serving) (known : self < process.server.created)
    (away : process.server.loopOf self ≠ 0) :
    TearsDown (process.withServer
      ((process.server.countClose self).queueInLoop 0 (.removeConnection self))) where
  live := tears.live.withServer (tears.live.owns.of_conn_eq rfl (fun _ => by simp) rfl)
  alone single := absurd ((tears.alone single).home self known) away
  closing begun := absurd serving begun
  unclosed := tears.unclosed

/-- After `~TcpServer` has begun nothing is open on a sub loop. -/
theorem serving_of_opened (tears : TearsDown process) {self : ConnId}
    (known : self < process.server.created) (away : process.server.loopOf self ≠ 0)
    (opened : (process.server.conn self).state ≠ .disconnected) :
    process.control.stage = .serving := by
  by_contra begun
  exact away ((tears.closing begun).home tears.alone self known opened)

/-- When the destructor is finished, it has closed all. -/
theorem cleanTeardown (tears : TearsDown process) (finished : process.control.stage = .finished) :
    CleanTeardown process := by
  have closing := tears.closing (by simp [finished])
  refine ⟨fun self member => ?_, tears.unclosed, closing.captures⟩
  by_contra opened
  have remains := (closing.closed self (closing.tornDown self member) opened).2
  rw [finished] at remains
  cases remains

end TearsDown

/-- The invariant of the process with its threads inside functions. -/
structure SplitTearsDown (split : SplitProcess) : Prop where
  well : WellRun split.process
  tears : TearsDown split.process
  paused : ∀ entry ∈ split.paused, entry.2.Fits split.process entry.1

namespace SplitTearsDown

variable {split next : SplitProcess} {thread : ThreadId} {pause : Pause}
  {process : ServerProcess} {self : ConnId}

theorem start (threadNum : Nat) : SplitTearsDown (.start threadNum) where
  well := .start threadNum
  tears := .start threadNum
  paused _ member := nomatch member

theorem fits (inv : SplitTearsDown split) (stands : split.pause thread = some pause) :
    pause.Fits split.process thread := by
  obtain ⟨before, after, entries, -⟩ := List.lookup_eq_some_iff.mp stands
  exact inv.paused (thread, pause) (by simp [entries])

/-- The other threads stand where they stood. -/
theorem kept {admits : ServerProcess → Prop} (inv : SplitTearsDown split)
    (updates : ProcessUpdates admits split.process process) (never : ∀ process, ¬ admits process) :
    ∀ entry ∈ split.paused, entry.2.Fits process entry.1 :=
  fun entry member => (inv.paused entry member).forward updates.forward
    fun _ => updates.serving never

theorem advance (well : WellRun process) (tears : TearsDown process)
    (kept : ∀ entry ∈ split.paused, entry.2.Fits process entry.1)
    (fits : pause.Fits process thread) : SplitTearsDown (split.advance thread process pause) where
  well := well
  tears := tears
  paused entry member := by
    rcases List.mem_cons.mp member with rfl | earlier
    · exact fits
    · exact kept entry (List.mem_of_mem_filter earlier)

theorem leave (well : WellRun process) (tears : TearsDown process)
    (kept : ∀ entry ∈ split.paused, entry.2.Fits process entry.1) :
    SplitTearsDown (split.leave thread process) := by
  have retired : ProcessUpdates (fun _ => False) process (process.retire thread) :=
    .of_control (.retire thread)
  obtain ⟨after, torn⟩ := tears.updates well (fun _ => False.elim) retired
  refine ⟨after, torn, fun entry member => ?_⟩
  exact (kept entry (List.mem_of_mem_filter member)).forward retired.forward
    fun _ => retired.serving fun _ => id

/-- A function of the code, whatever thread runs it. -/
theorem serverUpdates (inv : SplitTearsDown split)
    (updates : ServerUpdates split.process process) :
    WellRun process ∧ TearsDown process ∧ ∀ entry ∈ split.paused, entry.2.Fits process entry.1 := by
  have statements : ProcessUpdates (fun _ => False) split.process process := updates.processUpdates
  obtain ⟨well, tears⟩ := inv.tears.updates inv.well (fun _ => False.elim) statements
  exact ⟨well, tears, inv.kept statements fun _ => id⟩

/-- A handler of a sub loop has closed its connection. -/
theorem begins (inv : SplitTearsDown split) {closesSocket : Bool}
    (updates : ProcessUpdates (fun _ => False) split.process process) (sub : thread ≠ .main)
    (known : self < split.process.server.created) (away : split.process.server.loopOf self ≠ 0)
    (opened : (split.process.server.conn self).state ≠ .disconnected)
    (closed : (process.server.conn self).state = .disconnected) :
    SplitTearsDown (split.advance thread process (.callBack self closesSocket)) := by
  obtain ⟨well, tears⟩ := inv.tears.updates inv.well (fun _ => False.elim) updates
  have serving := inv.tears.serving_of_opened known away opened
  refine advance well tears (inv.kept updates fun _ => id) ⟨?_, sub, ?_, ?_, closed⟩
  · exact updates.serving (fun _ => id) serving
  · rwa [updates.forward.loopOf self known]
  · exact known.trans_le updates.forward.created

theorem whole (inv : SplitTearsDown split) {event : ProcessEvent}
    (admitted : BeginsClosed split (.whole event))
    (transition : serverProcess.step split.process event = some process) :
    SplitTearsDown { split with process } := by
  have step := processStep_cases transition
  have finds : event = .beginDestructor → FindsClosed split.process := by
    rintro rfl
    exact admitted.1
  have updates := @WellRun.updates_of_step _ _
    (fun process event => event = .beginDestructor → FindsClosed process) event inv.well finds step
  obtain ⟨well, tears⟩ := inv.tears.updates inv.well (fun _ found => found rfl) updates
  refine ⟨well, tears, fun entry member => ?_⟩
  refine (inv.paused entry member).forward updates.forward fun waiting serving => ?_
  refine step.serving inv.well ?_ serving
  rintro rfl
  exact Bool.false_ne_true ((admitted.2 entry member).symm.trans waiting)

theorem step {event : SplitEvent} (inv : SplitTearsDown split)
    (admitted : BeginsClosed split event)
    (transition : splitProcess.step split event = some next) : SplitTearsDown next := by
  cases event with
  | whole event =>
      simp only [splitProcess, Option.ite_none_right_eq_some, Option.map_eq_some_iff] at transition
      obtain ⟨-, process, stepped, rfl⟩ := transition
      exact inv.whole admitted stepped
  | beginEvent loop read write =>
      simp only [splitProcess] at transition
      split at transition
      · next ready active phase =>
          simp only [Option.ite_none_right_eq_some, Option.map_eq_some_iff] at transition
          obtain ⟨⟨sub, -⟩, begun, begins, rfl⟩ := transition
          have member : ready ∈ (split.process.phase loop).active := by
            rw [phase]
            exact List.mem_cons_self
          have handles := inv.well.handles member
          have closes := beginsClose_handleEvent handles begins
          refine inv.begins (updates_moving inv.well closes.updates (by simp [phase])
            (by rw [phase]; rfl) (by simp) rfl ?_) (runner_ne_main sub) handles.known ?_
            closes.opened closes.closed
          · rw [phase]
            exact fun other later => List.mem_cons_of_mem _ later
          · rw [(inv.well.active loop ready member).2.1]
            exact Nat.ne_of_gt sub
      · cases transition
  | beginFunctor loop =>
      simp only [splitProcess] at transition
      split at transition
      · next left executed self rest phase queue =>
          simp only [Option.ite_none_right_eq_some, Option.map_eq_some_iff] at transition
          obtain ⟨⟨sub, -⟩, begun, begins, rfl⟩ := transition
          have member : .forceCloseInLoop self ∈ split.process.server.pending loop :=
            queue ▸ List.mem_cons_self
          have known := inv.well.queued.known loop _ member
          have home : loop = split.process.server.loopOf self := inv.well.queued.home loop _ member
          have taken : ServerUpdates split.process
              (split.process.withServer (split.process.server.unqueue loop)) :=
            .single (.unqueue loop)
          have handles : (split.process.withServer (split.process.server.unqueue loop)).Handles
              (runner loop) self :=
            ⟨known, inv.well.queued.fits loop _ member,
              inv.well.threadId_homeOf (by simp [phase]) queue⟩
          have closes := (beginsClose_forceCloseInLoop handles begins).after taken known
          exact inv.begins (updates_moving inv.well closes.updates (by simp [phase])
            (by rw [phase]; rfl) (by simp) rfl fun _ member => nomatch member)
            (runner_ne_main sub) known (home ▸ Nat.ne_of_gt sub) closes.opened closes.closed
      · cases transition
  | beginForceClose loop self =>
      simp only [splitProcess, Option.ite_none_right_eq_some, Option.map_eq_some_iff] at transition
      obtain ⟨⟨sub, -, home, may, passes⟩, begun, begins, rfl⟩ := transition
      have known := known_of_mayCallConnection may
      have polled : (split.process.server.conn self).state = .connected ∨
          (split.process.server.conn self).state = .disconnecting := by
        simpa [Request.passes] using passes
      have left := updates_setDisconnecting known polled
      have running := running_of_mayCallConnection sub may
      have handles : (split.process.setDisconnecting self).Handles (runner loop) self := by
        refine ⟨known, by simp [setDisconnecting], ?_⟩
        simpa [setDisconnecting, home] using inv.well.threadId_of_running running
      have closes := (beginsClose_forceCloseInLoop handles begins).after left known
      exact inv.begins closes.updates.processUpdates (runner_ne_main sub) known
        (home ▸ Nat.ne_of_gt sub) closes.opened closes.closed
  | callBack thread =>
      simp only [splitProcess] at transition
      split at transition
      · next self closesSocket stands =>
          simp only [Option.ite_none_right_eq_some] at transition
          obtain ⟨-, told⟩ := transition
          obtain ⟨serving, sub, away, known, closed⟩ := inv.fits stands
          rw [handleRemoveConnection_of_sub inv.well sub] at told
          have well := inv.well.queueRemoval known closed
          have tears := inv.tears.queueRemoval serving known away
          have kept : ∀ entry ∈ split.paused, entry.2.Fits (split.process.withServer
              ((split.process.server.countClose self).queueInLoop 0 (.removeConnection self)))
              entry.1 :=
            fun entry member => (inv.paused entry member).forward
              (.of_conn_eq rfl (fun _ => by simp) fun _ => by simp) fun _ => id
          split at told
          · cases told
            exact advance well tears kept ⟨known, by simpa using closed⟩
          · cases told
            exact leave well tears kept
      · cases transition
  | closeSocket thread =>
      simp only [splitProcess] at transition
      split at transition
      · next self stands =>
          simp only [Option.ite_none_right_eq_some, Option.some.injEq] at transition
          obtain ⟨-, rfl⟩ := transition
          obtain ⟨known, closed⟩ := inv.fits stands
          obtain ⟨well, tears, kept⟩ := inv.serverUpdates (updates_closeSocket known closed)
          exact leave well tears kept
      · cases transition
  | test thread request self =>
      simp only [splitProcess, Option.ite_none_right_eq_some, Option.some.injEq] at transition
      obtain ⟨⟨-, may, passes⟩, rfl⟩ := transition
      refine advance inv.well inv.tears inv.paused ⟨known_of_mayCallConnection may, ?_⟩
      intro waiting
      cases request <;> simp [Request.passes, waiting] at passes
  | assign thread =>
      simp only [splitProcess] at transition
      split at transition
      · next request self stands =>
          simp only [Option.ite_none_right_eq_some, Option.some.injEq] at transition
          obtain ⟨-, rfl⟩ := transition
          obtain ⟨known, started⟩ := inv.fits stands
          have opened : (split.process.server.conn self).state ≠ .disconnected := by
            simpa [BeginsClosed, SplitProcess.isOvertaken, stands] using admitted
          have polled : (split.process.server.conn self).state = .connected ∨
              (split.process.server.conn self).state = .disconnecting := by
            cases state : (split.process.server.conn self).state <;>
              simp [state] at started opened ⊢
          obtain ⟨well, tears, kept⟩ := inv.serverUpdates (updates_setDisconnecting known polled)
          exact advance well tears kept ⟨known, by simp [setDisconnecting]⟩
      · cases transition
  | request thread =>
      simp only [splitProcess] at transition
      split at transition
      · next request self stands =>
          simp only [Option.ite_none_right_eq_some, Option.some.injEq] at transition
          obtain ⟨-, rfl⟩ := transition
          obtain ⟨known, started⟩ := inv.fits stands
          have updates : ServerUpdates split.process (split.process.runInLoop thread
              (split.process.server.loopOf self) (request.functor self)) := by
            cases request with
            | shutdown =>
                exact @updates_runInLoop split.process thread (.shutdownInLoop self) known started
                  (by simp) (by simp)
            | forceClose =>
                exact @updates_runInLoop split.process thread (.forceCloseInLoop self) known started
                  (by simp) (by simp)
          obtain ⟨well, tears, kept⟩ := inv.serverUpdates updates
          exact leave well tears kept
      · cases transition

end SplitTearsDown

/-- Without sub loops, the only connection is open when the destructor begins. -/
def destroyOpen : List SplitEvent :=
  [.whole .listen, .whole (.poll 0 []), .whole (.accept 7), .whole .establish,
    .whole (.swapFunctors 0), .whole (.endBatch 0), .whole .beginDestructor, .whole (.closeNext 0),
    .whole .endClosing, .whole .clear, .whole (.destroy .main 0), .whole .destroyAcceptor,
    .whole .finish]

/-- One sub loop, and a connection that the user's code keeps. -/
def connectOne : List SplitEvent :=
  [.whole .constructLoop, .whole (.startThread 1), .whole .listen, .whole (.poll 0 []),
    .whole (.accept 7), .whole .establish, .whole (.swapFunctors 0), .whole (.endBatch 0),
    .whole (.poll 1 []), .whole (.swapFunctors 1), .whole (.functor 1), .whole (.endBatch 1),
    .whole (.retain 0)]

/-- The peer closes, and the main loop runs the removal. The destructor begins before
`HandleClose` has closed the socket. -/
def closeAndDestroy : List SplitEvent :=
  connectOne ++
    [.whole (.poll 1 [⟨0, false, false, true, false⟩]), .beginEvent 1 .endOfFile .wouldBlock,
      .whole (.poll 0 []), .callBack (.sub 1), .whole (.swapFunctors 0), .whole (.functor 0),
      .whole (.endBatch 0), .whole .beginDestructor, .closeSocket (.sub 1), .whole .endClosing,
      .whole (.quitLoop 1), .whole (.swapFunctors 1), .whole (.functor 1), .whole (.endBatch 1),
      .whole (.exitLoop 1), .whole (.joinLoop 1), .whole .clear, .whole (.release (.other 0) 0),
      .whole (.destroy (.other 0) 0), .whole .destroyAcceptor, .whole (.destroyLoop 1),
      .whole .finish]

/-- The only connection is open when the destructor begins, and the sub loop quits before it
runs the force-close. -/
def quitBeforeDraining : List SplitEvent :=
  [.whole .constructLoop, .whole (.startThread 1), .whole .listen, .whole (.poll 0 []),
    .whole (.accept 7), .whole .establish, .whole (.swapFunctors 0), .whole (.endBatch 0),
    .whole (.poll 1 []), .whole (.swapFunctors 1), .whole (.functor 1), .whole (.endBatch 1),
    .whole .beginDestructor, .whole (.closeNext 0), .whole .endClosing, .whole (.quitLoop 1),
    .whole (.exitLoop 1), .whole (.joinLoop 1), .whole .clear, .whole (.destroy .main 0),
    .whole .destroyAcceptor, .whole (.destroyLoop 1), .whole .finish]

/-- The destructor begins before the handler that has closed the only connection calls
back. -/
def callBackLate : List SplitEvent :=
  connectOne ++
    [.whole (.poll 1 [⟨0, false, false, true, false⟩]), .beginEvent 1 .endOfFile .wouldBlock,
      .whole (.poll 0 []), .whole (.swapFunctors 0), .whole (.endBatch 0), .whole .beginDestructor,
      .callBack (.sub 1), .closeSocket (.sub 1), .whole (.closeNext 0), .whole .endClosing,
      .whole (.quitLoop 1), .whole (.swapFunctors 1), .whole (.endBatch 1), .whole (.exitLoop 1),
      .whole (.joinLoop 1), .whole .clear, .whole .destroyAcceptor, .whole (.destroyLoop 1),
      .whole .finish]

/-- Its removal stays in the queue of the main loop. -/
example : (splitProcess.exec (.start 1) callBackLate).map (fun split =>
      (split.process.control.stage, split.process.unclosed,
        decide (CapturesNothing split.process.server))) =
    some (.finished, [], false) := by decide +kernel

end TurboCore.Net
