import Mathlib
import TurboCore.Net.ProcessRuns

/-!
# Loops and their threads

A handler or a functor runs on the thread of its loop, and `RunInLoop` queues what another
thread asks for. Before the thread of a sub loop enters `Loop()`, `m_threadId` names the
main thread, which builds the loop and may establish a connection on it. Destructors run
where the last reference is dropped: a sub loop is destroyed on the main thread, and so may
a connection be that still has events.
-/

namespace TurboCore.Net

open Foundation TcpServer

/-- The call is made on the thread that runs the loop, and `AssertInLoopThread` does not
abort. -/
def LoopCheck.IsAffine (check : LoopCheck) : Prop :=
  check.thread = runner check.loop ∧ check.threadId = check.thread

/-- So are all calls after the first `seen` ones. -/
def AffineSince (seen : Nat) (process : ServerProcess) : Prop :=
  ∀ check ∈ process.checks.drop seen, check.IsAffine

/-- Every call that the step makes is made on the thread that runs the loop. -/
def CallsOnThread (process : ServerProcess) (event : ProcessEvent) : Prop :=
  ∀ next, serverProcess.step process event = some next → AffineSince process.checks.length next

/-- No sub loop is built or destroyed, `HandleNewConnection` does not establish a connection
on a loop whose thread has not entered `Loop()`, and a connection whose channel has events is
destroyed on its loop's thread. -/
def StaysOnThread (process : ServerProcess) : ProcessEvent → Prop
  | .constructLoop => False
  | .establish =>
      ∀ self, process.Accepts self → process.phase (process.server.loopOf self) ≠ .unstarted
  | .destroy thread self =>
      (process.server.conn self).channel.hasNoEvents = true ∨
        thread = runner (process.server.loopOf self)
  | .destroyLoop _ => False
  | _ => True

/-! ### Connections of a loop without a thread -/

/-- Nothing has established the connection. -/
def TcpConnection.IsUntouched (conn : TcpConnection) : Prop :=
  conn.state = .connecting ∧ conn.channel.hasNoEvents = true

/-- Connections come after the sub loops, and whatever is established has a loop that its own
thread runs. -/
structure Homed (process : ServerProcess) : Prop where
  served : process.server.created ≠ 0 → process.control.listening = true
  built : process.control.listening = true →
    process.control.constructed = process.server.threadNum
  home : ∀ self < process.server.created, (process.server.conn self).IsUntouched ∨
    process.threadId (process.server.loopOf self) = runner (process.server.loopOf self)

@[simp] theorem ServerProcess.threadId_assertInLoopThread (process : ServerProcess)
    (thread : ThreadId) (loop target : LoopId) :
    (process.assertInLoopThread thread loop).threadId target = process.threadId target := rfl

@[simp] theorem ServerProcess.threadId_retire (process : ServerProcess) (thread : ThreadId)
    (target : LoopId) : (process.retire thread).threadId target = process.threadId target := rfl

namespace Homed

variable {before middle after process : ServerProcess} {self : ConnId}

theorem start (threadNum : Nat) : Homed (.start threadNum) where
  served grown := absurd rfl grown
  built listening := nomatch listening
  home self known := absurd known (Nat.not_lt_zero self)

/-- A connection that is not connecting is at home. -/
theorem of_started (homed : Homed process) (known : self < process.server.created)
    (started : (process.server.conn self).state ≠ .connecting) :
    process.threadId (process.server.loopOf self) = runner (process.server.loopOf self) :=
  (homed.home self known).resolve_left fun untouched => started untouched.1

/-- The server and the threads stay. -/
theorem of_eq (homed : Homed before) (server : after.server = before.server)
    (threads : ∀ loop, after.threadId loop = before.threadId loop)
    (listening : after.control.listening = before.control.listening)
    (constructed : after.control.constructed = before.control.constructed) : Homed after where
  served := by
    rw [server, listening]
    exact homed.served
  built := by
    rw [server, listening, constructed]
    exact homed.built
  home self known := by
    rw [server] at known ⊢
    rw [threads]
    exact homed.home self known

/-- The connection itself is at home, and the others are left alone. -/
theorem of_conn (homed : Homed before) (control : after.control = before.control)
    (created : after.server.created = before.server.created)
    (threadNum : after.server.threadNum = before.server.threadNum)
    (forward : Forward before.server after.server)
    (kept : ∀ other < before.server.created, (before.server.conn other).IsUntouched →
      (after.server.conn other).IsUntouched ∨
        before.threadId (before.server.loopOf other) = runner (before.server.loopOf other)) :
    Homed after where
  served := by
    rw [created, control]
    exact homed.served
  built := by
    rw [control, threadNum]
    exact homed.built
  home self known := by
    rw [created] at known
    rw [ServerProcess.threadId, control, forward.loopOf self known]
    rcases homed.home self known with untouched | home
    · exact kept self known untouched
    · exact .inr home

/-- Only its loop's thread establishes a connection from a queue, and the other statements
leave a connection alone that is not established. -/
theorem serverUpdate (homed : Homed before) (update : ServerUpdate before after) :
    Homed after := by
  refine homed.of_conn update.control_eq update.created_eq update.threadNum_eq update.forward ?_
  intro other known untouched
  have different : ∀ {self}, (before.server.conn self).state ≠ .connecting → other ≠ self := by
    rintro self started rfl
    exact started untouched.1
  cases update with
  | handle _ started moves => exact .inl (by simpa [different started] using untouched)
  | close _ started opened moves closed =>
      exact .inl (by simpa [different started] using untouched)
  | closeElsewhere _ started opened moves closed away =>
      exact .inl (by simpa [different started] using untouched)
  | message self => exact .inl (by simpa using untouched)
  | @establish self fresh unaccepted runs =>
      by_cases same : other = self
      · exact .inr (same ▸ runs)
      · exact .inl (by simpa [TcpServer.connectEstablished, same] using untouched)
  | @destroy self thread _ unlisted =>
      left
      by_cases same : other = self
      · subst same
        have silent : (before.server.attached other).conn.channel.hasNoEvents = true :=
          untouched.2
        have closed : (before.destroy thread other).server.conn other =
            (before.server.attached other).closeSocket.conn := by
          simp [ServerProcess.destroy, TcpServer.destroy, silent]
        rw [closed]
        exact ⟨untouched.1, silent⟩
      · have kept : ((before.destroy thread self).server.conn other) =
            before.server.conn other := by
          simp [ServerProcess.destroy, TcpServer.destroy, same]
        exact kept ▸ untouched
  | check | erase | queue | unqueue | clear | dropQueue => exact .inl untouched

theorem serverUpdates (homed : Homed before) (updates : ServerUpdates before after) :
    Homed after := by
  induction updates with
  | refl => exact homed
  | tail _ update inductionHypothesis => exact inductionHypothesis.serverUpdate update

/-- A function of the code, and a move of its thread. -/
theorem of_updates (homed : Homed before) (updates : ServerUpdates before middle)
    (server : after.server = middle.server)
    (threads : ∀ loop, after.threadId loop = middle.threadId loop)
    (listening : after.control.listening = middle.control.listening)
    (constructed : after.control.constructed = middle.control.constructed) : Homed after :=
  (homed.serverUpdates updates).of_eq server threads listening constructed

/-- `HandleNewConnection` establishes the connection where it is at home, or queues that. -/
theorem establishAccepted (homed : Homed process) (fresh : process.server.Fresh self)
    (unaccepted : ¬ process.Accepts self)
    (runs : process.threadId (process.server.loopOf self) =
      runner (process.server.loopOf self)) : Homed (process.establishAccepted self) := by
  unfold ServerProcess.establishAccepted ServerProcess.runInLoop
  split
  · have checked := homed.serverUpdate (.check .main (process.server.loopOf self))
    exact checked.serverUpdate (.establish fresh unaccepted runs)
  · exact homed.of_conn rfl rfl rfl (.of_conn_eq rfl (fun _ => rfl) fun _ => rfl)
      fun other _ untouched => .inl untouched

end Homed

/-! ### What the functions of the code call -/

namespace AffineSince

variable {process : ServerProcess} {seen : Nat} {thread : ThreadId} {self : ConnId}

theorem refl (process : ServerProcess) : AffineSince process.checks.length process := by
  intro check member
  rw [List.drop_length] at member
  cases member

theorem check (affine : AffineSince seen process) {loop : LoopId}
    (home : process.threadId loop = runner loop) (runs : thread = runner loop) :
    AffineSince seen (process.assertInLoopThread thread loop) := by
  intro check member
  rw [ServerProcess.assertInLoopThread_checks, List.drop_append] at member
  rcases List.mem_append.mp member with earlier | last
  · exact affine check earlier
  · rw [List.mem_singleton.mp (List.mem_of_mem_drop last)]
    exact ⟨runs, home.trans runs.symm⟩

theorem connectDestroyed (affine : AffineSince seen process)
    (home : process.threadId (process.server.loopOf self) = runner (process.server.loopOf self))
    (runs : thread = runner (process.server.loopOf self)) :
    AffineSince seen (process.connectDestroyed thread self) :=
  affine.check home runs

/-- The removal hands the connection to its loop. -/
theorem removeInLoop (affine : AffineSince seen process) (main : process.threadId 0 = .main)
    (home : process.threadId (process.server.loopOf self) = runner (process.server.loopOf self))
    (runs : thread = .main) : AffineSince seen (process.removeInLoop thread self) := by
  have checked : AffineSince seen
      ((process.assertInLoopThread thread 0).eraseConnection self) :=
    affine.check main runs
  unfold ServerProcess.removeInLoop
  dsimp only
  split
  · next here =>
      have own : process.threadId (process.server.loopOf self) = thread := of_decide_eq_true here
      exact checked.connectDestroyed home (own.symm.trans home)
  · exact checked

/-- The close callback hands the connection to the main loop. -/
theorem handleRemoveConnection (affine : AffineSince seen process)
    (main : process.threadId 0 = .main)
    (home : process.threadId (process.server.loopOf self) =
      runner (process.server.loopOf self)) :
    AffineSince seen (process.handleRemoveConnection thread self) := by
  have counted : AffineSince seen (process.withServer (process.server.countClose self)) := affine
  unfold ServerProcess.handleRemoveConnection
  dsimp only
  split
  · next here =>
      have own : process.threadId 0 = thread := of_decide_eq_true here
      refine counted.removeInLoop main ?_ (own.symm.trans main)
      simpa using home
  · exact counted

theorem handleClose (affine : AffineSince seen process) (main : process.threadId 0 = .main)
    (home : process.threadId (process.server.loopOf self) = runner (process.server.loopOf self))
    (runs : thread = runner (process.server.loopOf self)) :
    AffineSince seen (process.handleClose thread self) := by
  have checked := affine.check home runs
  unfold ServerProcess.handleClose
  dsimp only
  split
  · exact checked
  · refine @handleRemoveConnection (ServerProcess.withServer _ _) seen thread self checked main ?_
    simpa using home

theorem handleRead (affine : AffineSince seen process) (main : process.threadId 0 = .main)
    (home : process.threadId (process.server.loopOf self) = runner (process.server.loopOf self))
    (runs : thread = runner (process.server.loopOf self)) (result : ReadResult) :
    AffineSince seen (process.handleRead thread self result) := by
  have checked := affine.check home runs
  cases result with
  | endOfFile | failed => exact checked.handleClose main home runs
  | bytes | wouldBlock => exact checked

theorem handleWrite (affine : AffineSince seen process) (main : process.threadId 0 = .main)
    (home : process.threadId (process.server.loopOf self) = runner (process.server.loopOf self))
    (runs : thread = runner (process.server.loopOf self)) (result : WriteResult) :
    AffineSince seen (process.handleWrite thread self result) := by
  have checked := affine.check home runs
  unfold ServerProcess.handleWrite
  dsimp only
  split
  · refine @handleClose (ServerProcess.withServer _ _) seen thread self checked main ?_ ?_
    · simpa using home
    · simpa using runs
  · exact checked

theorem forceCloseInLoop (affine : AffineSince seen process)
    (main : process.threadId 0 = .main)
    (home : process.threadId (process.server.loopOf self) = runner (process.server.loopOf self))
    (runs : thread = runner (process.server.loopOf self)) :
    AffineSince seen (process.forceCloseInLoop thread self) := by
  have checked := affine.check home runs
  unfold ServerProcess.forceCloseInLoop
  dsimp only
  split
  · refine @handleRemoveConnection (ServerProcess.withServer _ _) seen thread self checked main ?_
    simpa using home
  · exact checked

/-- A functor runs on the thread of the loop whose queue it was in. -/
theorem runFunctor (affine : AffineSince seen process) (main : process.threadId 0 = .main)
    {functor : ServerFunctor}
    (home : process.threadId (process.server.loopOf functor.conn) =
      runner (process.server.loopOf functor.conn))
    (runs : thread = runner (process.server.homeOf functor)) :
    AffineSince seen (process.runFunctor thread functor) := by
  cases functor with
  | removeConnection self => exact affine.removeInLoop main home runs
  | forceCloseInLoop self => exact affine.forceCloseInLoop main home runs
  | connectEstablished self | connectDestroyed self | sendInLoop self data
  | shutdownInLoop self => exact affine.check home runs

/-- A call of a loop's own connection. -/
theorem runInLoop (affine : AffineSince seen process) (main : process.threadId 0 = .main)
    {functor : ServerFunctor} {loop : LoopId} (own : loop = process.server.homeOf functor)
    (same : loop = process.server.loopOf functor.conn)
    (home : process.threadId loop = runner loop) :
    AffineSince seen (process.runInLoop thread loop functor) := by
  unfold ServerProcess.runInLoop
  split
  · next here =>
      have runs : process.threadId loop = thread := of_decide_eq_true here
      exact affine.runFunctor main (same ▸ home) (own ▸ runs.symm.trans home)
  · exact affine

theorem send (affine : AffineSince seen process) (well : WellRun process)
    (homed : Homed process) (known : self < process.server.created) (data : List UInt8) :
    AffineSince seen (process.send thread self data) := by
  unfold ServerProcess.send
  split
  · next connected =>
      have state : (process.server.conn self).state = .connected := by
        simpa [TcpConnection.isConnected] using connected
      exact affine.runInLoop well.threadId_main rfl rfl (homed.of_started known (by simp [state]))
  · exact affine

theorem shutdown (affine : AffineSince seen process) (well : WellRun process)
    (homed : Homed process) (known : self < process.server.created) :
    AffineSince seen (process.shutdown thread self) := by
  unfold ServerProcess.shutdown
  split
  · next state =>
      have home := homed.of_started known (by simp [state])
      have left : AffineSince seen (process.setDisconnecting self) := affine
      exact left.runInLoop well.threadId_main
        (by simp [TcpServer.homeOf, ServerProcess.setDisconnecting])
        (by simp [ServerFunctor.conn, ServerProcess.setDisconnecting]) home
  · exact affine

theorem forceClose (affine : AffineSince seen process) (well : WellRun process)
    (homed : Homed process) (known : self < process.server.created) :
    AffineSince seen (process.forceClose thread self) := by
  unfold ServerProcess.forceClose
  split
  · next polled =>
      have home := homed.of_started known (by rcases polled with state | state <;> simp [state])
      have left : AffineSince seen (process.setDisconnecting self) := affine
      exact left.runInLoop well.threadId_main
        (by simp [TcpServer.homeOf, ServerProcess.setDisconnecting])
        (by simp [ServerFunctor.conn, ServerProcess.setDisconnecting]) home
  · exact affine

/-- The two callbacks of an error event run on the same thread. -/
theorem handleEvent {loop : LoopId} {ready : ReadyChannel} (affine : AffineSince seen process)
    (main : process.threadId 0 = .main) (handles : process.Handles (runner loop) ready.conn)
    (own : process.server.loopOf ready.conn = loop) (read : ReadResult) (write : WriteResult) :
    AffineSince seen (process.handleEvent (runner loop) ready read write) := by
  have home : ∀ {after : ServerProcess}, ServerUpdates process after →
      after.threadId 0 = .main ∧
        after.threadId (after.server.loopOf ready.conn) =
            runner (after.server.loopOf ready.conn) ∧
          runner loop = runner (after.server.loopOf ready.conn) := by
    intro after updates
    have there := (handles.updates updates).home
    have same := (updates.forward.loopOf _ handles.known).trans own
    rw [same] at there ⊢
    refine ⟨?_, there, rfl⟩
    rw [ServerProcess.threadId, updates.control_eq]
    exact main
  obtain ⟨-, here, runs⟩ := home .refl
  unfold ServerProcess.handleEvent
  split
  · obtain ⟨main', here', runs'⟩ := home (ServerProcess.updates_handleError handles)
    exact (affine.handleClose main here runs).handleClose main' here' runs'
  · split
    · exact affine.handleClose main here runs
    · have done : AffineSince seen (if ready.readable then
            process.handleRead (runner loop) ready.conn read else process) ∧
          ServerUpdates process (if ready.readable then
            process.handleRead (runner loop) ready.conn read else process) := by
        split
        · exact ⟨affine.handleRead main here runs read,
            ServerProcess.updates_handleRead handles read⟩
        · exact ⟨affine, .refl⟩
      dsimp only
      split
      · obtain ⟨main', here', runs'⟩ := home done.2
        exact done.1.handleWrite main' here' runs' write
      · exact done.1

end AffineSince

/-! ### Steps -/

/-- The invariant. -/
structure Affine (process : ServerProcess) : Prop extends WellRun process, Homed process

namespace Affine

variable {process next : ServerProcess}

theorem start (threadNum : Nat) : Affine (.start threadNum) where
  toWellRun := .start threadNum
  toHomed := .start threadNum

/-- Sub loops are built before there is a connection, and a connection that is established
where it is accepted is at home. -/
theorem homed {event : ProcessEvent} (affine : Affine process)
    (admitted : event ≠ .constructLoop → StaysOnThread process event)
    (transition : serverProcess.step process event = some next) : Homed next := by
  have here := affine.toHomed
  have well := affine.toWellRun
  have step := processStep_cases transition
  cases step with
  | constructLoop =>
      simp only [serverProcess, Option.ite_none_right_eq_some] at transition
      have none : process.server.created = 0 := by
        by_contra grown
        exact Nat.ne_of_lt transition.1 (here.built (here.served grown))
      refine ⟨fun grown => absurd none grown, fun listening => ?_, fun self known => ?_⟩
      · exact absurd (here.built listening) (Nat.ne_of_lt transition.1)
      · exact absurd known (none ▸ Nat.not_lt_zero self)
  | startThread loop sub unstarted =>
      refine ⟨here.served, here.built, fun self known => ?_⟩
      refine (here.home self known).imp_right fun home => ?_
      simp only [ServerProcess.startThread, ServerProcess.threadId,
        ServerProcess.assertInLoopThread_control, ServerProcess.withControl_control,
        Function.update_apply]
      split
      · next same => rw [same]
      · exact home
  | listen =>
      simp only [serverProcess, Option.ite_none_right_eq_some] at transition
      exact ⟨fun _ => rfl, fun _ => transition.1.2.2, here.home⟩
  | accept fd active phase serving free =>
      simp only [serverProcess, phase, Option.ite_none_right_eq_some] at transition
      refine ⟨fun _ => transition.1.2.1, here.built, fun self known => ?_⟩
      rcases cases_addConnection known with rfl | ⟨earlier, different⟩
      · left
        simp [ServerProcess.acceptConnection, TcpConnection.IsUntouched, TcpConnection.ofSocket,
          Channel.hasNoEvents, Channel.ofFd]
      · simpa [ServerProcess.acceptConnection, different] using here.home self earlier
  | establish self active phase serving =>
      have running := admitted (by simp) self ⟨active, phase⟩
      have handling : Homed (process.setPhase 0 (.handling active)) :=
        here.of_eq rfl (fun _ => by simp) rfl rfl
      have unaccepted : ¬ (process.setPhase 0 (.handling active)).Accepts self := by
        rintro ⟨rest, accepting⟩
        simp [ServerProcess.phase_setPhase] at accepting
      have established := handling.establishAccepted (well.accepted self ⟨active, phase⟩)
        unaccepted (by simpa using well.threadId_of_running running)
      exact established.of_eq rfl (fun _ => rfl) rfl rfl
  | poll => exact here.of_updates .refl rfl (fun _ => by simp) rfl rfl
  | handleEvent loop read write ready active phase may alive =>
      have member : ready ∈ (process.phase loop).active := by
        rw [phase]
        exact List.mem_cons_self
      exact here.of_updates (ServerProcess.updates_handleEvent (well.handles member) read write)
        rfl (fun target => ServerProcess.threadId_setPhase loop target _) rfl rfl
  | swapFunctors => exact here.of_updates .refl rfl (fun _ => by simp) rfl rfl
  | functor loop left executed functor rest phase queue may alive =>
      exact here.of_updates (ServerProcess.updates_functor well phase queue)
        rfl (fun target => ServerProcess.threadId_setPhase loop target _) rfl rfl
  | endBatch loop executed phase =>
      exact here.of_updates .refl rfl (fun target => ServerProcess.threadId_setPhase loop target _)
        rfl rfl
  | exitLoop => exact here.of_updates .refl rfl (fun _ => by simp) rfl rfl
  | send thread self data may =>
      have known := ServerProcess.known_of_mayCallConnection may
      exact here.of_updates (ServerProcess.updates_send known data) rfl (fun _ => rfl) rfl rfl
  | shutdown thread self may =>
      have known := ServerProcess.known_of_mayCallConnection may
      exact here.of_updates (ServerProcess.updates_shutdown known) rfl (fun _ => rfl) rfl rfl
  | forceClose thread self may =>
      have known := ServerProcess.known_of_mayCallConnection may
      exact here.of_updates (ServerProcess.updates_forceClose known) rfl (fun _ => rfl) rfl rfl
  | destroy thread self dying =>
      obtain ⟨known, unlisted⟩ := well.dying _ dying
      exact here.serverUpdate (.destroy thread known unlisted)
  | closeNext self remaining closing member =>
      have known : self < process.server.created := well.remaining self (closing ▸ member)
      exact here.of_updates (ServerProcess.updates_forceClose known) rfl (fun _ => rfl) rfl rfl
  | clear quitting =>
      refine ⟨here.served, here.built, here.home⟩
  | destroyLoop loop dismantling sub stopped => exact absurd (admitted (by simp)) id
  | quitLoop loop quitting =>
      refine here.of_updates .refl rfl (fun target => ?_) rfl rfl
      simp only [ServerProcess.quit, ServerProcess.threadId, ServerProcess.withControl_control,
        Function.update_apply]
      split
      · next same => rw [same]
      · rfl
  | retain | release | beginDestructor | endClosing | joinLoop | destroyAcceptor | finish =>
      exact here.of_updates .refl rfl (fun _ => rfl) rfl rfl

theorem step {event : ProcessEvent} (affine : Affine process)
    (admitted : event ≠ .constructLoop → StaysOnThread process event)
    (transition : serverProcess.step process event = some next) : Affine next where
  toWellRun := affine.toWellRun.step (processStep_cases transition)
  toHomed := affine.homed admitted transition

/-- Every step that the condition admits makes its calls on the loops' own threads. -/
theorem callsOnThread {event : ProcessEvent} (affine : Affine process)
    (admitted : StaysOnThread process event) : CallsOnThread process event := by
  intro next transition
  have well := affine.toWellRun
  have homed := affine.toHomed
  have here := AffineSince.refl process
  have main : process.threadId 0 = .main := well.threadId_main
  cases processStep_cases transition with
  | constructLoop => exact absurd admitted id
  | startThread loop sub unstarted =>
      refine AffineSince.check (by exact here) ?_ rfl
      simp [ServerProcess.threadId]
  | listen => exact here.check main rfl
  | accept fd active phase serving free => exact here.check main rfl
  | establish self active phase serving =>
      have home := well.threadId_of_running (admitted self ⟨active, phase⟩)
      have moved : AffineSince process.checks.length (process.setPhase 0 (.handling active)) := here
      exact moved.runInLoop (by simpa using main) rfl rfl (by simpa using home)
  | handleEvent loop read write ready active phase may alive =>
      have member : ready ∈ (process.phase loop).active := by
        rw [phase]
        exact List.mem_cons_self
      exact here.handleEvent main (well.handles member) (well.active loop ready member).2.1 read
        write
  | functor loop left executed functor rest phase queue may alive =>
      have member : functor ∈ process.server.pending loop := queue ▸ List.mem_cons_self
      have running : process.phase loop ≠ .unstarted := by simp [phase]
      have own : loop = process.server.homeOf functor := well.queued.home loop functor member
      have home : process.threadId (process.server.loopOf functor.conn) =
          runner (process.server.loopOf functor.conn) := by
        cases functor with
        | connectEstablished self =>
            rw [own] at running
            exact well.threadId_of_running running
        | removeConnection self | connectDestroyed self | sendInLoop self data
        | shutdownInLoop self | forceCloseInLoop self =>
            have fits := well.queued.fits loop _ member
            refine homed.of_started (well.queued.known loop _ member) fun waiting => ?_
            simp [ServerFunctor.fits, waiting] at fits
      have taken : AffineSince process.checks.length
          (process.withServer (process.server.unqueue loop)) := here
      exact taken.runFunctor main home (by rw [own]; cases functor <;> rfl)
  | send thread self data may =>
      exact here.send well homed (ServerProcess.known_of_mayCallConnection may) data
  | shutdown thread self may =>
      exact here.shutdown well homed (ServerProcess.known_of_mayCallConnection may)
  | forceClose thread self may =>
      exact here.forceClose well homed (ServerProcess.known_of_mayCallConnection may)
  | destroy thread self dying =>
      have known := (well.dying _ dying).1
      unfold ServerProcess.destroy
      dsimp only
      split
      · exact here
      · next events =>
          have runs := admitted.resolve_left events
          have home := (homed.home self known).resolve_left fun untouched => events untouched.2
          exact here.check home runs
  | closeNext self remaining closing member =>
      have known : self < process.server.created := well.remaining self (closing ▸ member)
      exact here.forceClose well homed known
  | destroyAcceptor cleared => exact (here.check main rfl).check main rfl
  | destroyLoop loop dismantling sub stopped => exact absurd admitted id
  | poll | swapFunctors | endBatch | exitLoop | retain | release | beginDestructor | endClosing
  | quitLoop | joinLoop | clear | finish => exact here

/-- A step that the condition excludes calls a loop from another thread. -/
theorem staysOnThread {event : ProcessEvent} (affine : Affine process)
    (transition : serverProcess.step process event = some next)
    (calls : CallsOnThread process event) : StaysOnThread process event := by
  have made := calls next transition
  cases processStep_cases transition with
  | constructLoop =>
      have call := made ⟨process.control.constructed + 1, .main, .main⟩
        (by simp [ServerProcess.constructLoop, ServerProcess.threadId])
      exact runner_ne_main (Nat.succ_pos _) call.1.symm
  | establish self active phase serving =>
      rintro other ⟨rest, accepting⟩ unstarted
      rw [phase] at accepting
      cases accepting
      have built : process.threadId (process.server.loopOf self) = .main := by
        rw [affine.threads, if_pos unstarted]
      have sub : 0 < process.server.loopOf self := by
        refine Nat.pos_of_ne_zero fun zero => ?_
        rw [zero, phase] at unstarted
        cases unstarted
      have call := made ⟨process.server.loopOf self, .main, .main⟩ (by
        simp [ServerProcess.establishAccepted, ServerProcess.runInLoop, built,
          ServerProcess.isInLoopThread, ServerProcess.runFunctor,
          ServerProcess.connectEstablished])
      exact runner_ne_main sub call.1.symm
  | destroy thread self dying =>
      refine or_iff_not_imp_left.mpr fun events => ?_
      have call := made ⟨process.server.loopOf self,
        process.threadId (process.server.loopOf self), thread⟩
        (by simp [ServerProcess.destroy, events])
      exact call.1
  | destroyLoop loop dismantling sub stopped =>
      have call := made ⟨loop, process.threadId loop, .main⟩
        (by simp [ServerProcess.destroyLoop])
      exact runner_ne_main sub call.1.symm
  | _ => trivial

end Affine

/-- A server with one sub loop, up to the destructor of the loop. -/
def startAndDestroy : List ProcessEvent :=
  [.constructLoop, .startThread 1, .beginDestructor, .endClosing, .quitLoop 1, .exitLoop 1,
    .joinLoop 1, .clear, .destroyAcceptor]

end TurboCore.Net
