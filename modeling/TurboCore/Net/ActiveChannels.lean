import Mathlib
import TurboCore.Net.HandlerStack

/-!
# The channels that wait for their events

The list of active channels is fixed by `Poll`, and the handlers of its first channels run
before those of the others. A handler that closes a connection further down the list takes
its channel out of the poller, and `Loop` calls `HandleEvent` on it all the same. While no
step silences or destroys a connection whose channel waits in the list, every call is made
on a registered channel.
-/

namespace TurboCore.Net

open Foundation TcpServer

/-! ### Functions that leave the poller's entries -/

/-- A function of a connection takes nothing out of the poller's table. -/
structure Attached.Keeps (before after : Attached) : Prop where
  fd : after.conn.channel.fd = before.conn.channel.fd
  kept : ∀ fd other, before.poller.lookup fd = some other → after.poller.lookup fd = some other

namespace Attached.Keeps

variable {who : ConnId} {before middle after attached : Attached}

theorem of_eq (channel : after.conn.channel = before.conn.channel)
    (poller : after.poller = before.poller) : Keeps before after where
  fd := by rw [channel]
  kept fd other found := poller ▸ found

theorem trans (first : Keeps before middle) (second : Keeps middle after) :
    Keeps before after where
  fd := second.fd.trans first.fd
  kept fd other found := second.kept fd other (first.kept fd other found)

/-- An update of a channel that asks for events adds an entry or leaves the table. -/
theorem updateChannel {channel : Channel} (fd : channel.fd = attached.conn.channel.fd)
    (events : channel.hasNoEvents = false) :
    Keeps attached (attached.updateChannel who channel) where
  fd := (EpollPoller.updateChannel_fd _ _ _).trans fd
  kept key other found := by
    have lookups := @EpollPoller.lookup_updateChannel_of_events attached.poller who channel
      events key
    refine lookups.trans ?_
    split
    · next same => rw [← same, found, Option.getD_some]
    · exact found

theorem setState (state : ConnectionState) : Keeps attached (attached.setState state) :=
  of_eq rfl rfl

theorem closeSocket : Keeps attached attached.closeSocket := of_eq rfl rfl

theorem connectEstablished : Keeps attached (attached.connectEstablished who) :=
  (setState .connected).trans (updateChannel rfl rfl)

/-- A channel that reads, or is to write, stays where it is. -/
theorem of_writeStep {writing : Bool} (step : WriteStep who writing attached after)
    (events : writing = true ∨ attached.conn.channel.reading = true) :
    Keeps attached after := by
  cases step with
  | outside _ same => exact of_eq same.channel same.poller
  | interest middle same =>
      have outside : Keeps attached middle := of_eq same.channel same.poller
      refine outside.trans (updateChannel rfl ?_)
      rcases events with write | read <;> simp [Channel.hasNoEvents, same.channel, *]

theorem sendInLoop (data : List UInt8) : Keeps attached (attached.sendInLoop who data) :=
  of_writeStep (attached.writeStep_sendInLoop who data) (.inl rfl)

theorem shutdownInLoop : Keeps attached (attached.shutdownInLoop who) := by
  rcases attached.shutdownInLoop_cases who with waits | closed
  · exact of_writeStep waits (.inl rfl)
  · rw [closed]
    exact closeSocket.trans (setState .disconnected)

/-- The end of the output ends the interest in writing; one in reading stays. -/
theorem handleWrite (reading : attached.conn.channel.reading = true) (result : WriteResult) :
    Keeps attached (attached.handleWrite who result).after :=
  of_writeStep (attached.writeStep_handleWrite who result) (.inr reading)

end Attached.Keeps

namespace HandlerRun

section Waiting

variable (run : HandlerRun)

/-- A channel with the connection's fd waits in the active list of its loop. -/
def isWaiting (self : ConnId) : Bool :=
  ∃ ready ∈ (run.stage (run.server.loopOf self)).active,
    (run.server.conn ready.conn).channel.fd = (run.server.conn self).channel.fd

/-- The connection whose channel a step of its own functions may leave without events: the
step is that of `HandleClose`, `ForceCloseInLoop` or `ConnectDestroyed` with `DisableAll`, or
a `HandleWrite` although the channel asks for no read events. -/
def silences : Frame → Option ConnId
  | .handleWrite self => if (run.server.conn self).channel.reading then none else some self
  | .handleClose self =>
      if (run.server.conn self).state = .disconnected then none else some self
  | .functor (.forceCloseInLoop self) | .functor (.connectDestroyed self) =>
      if (run.server.conn self).state = .connected ∨
          (run.server.conn self).state = .disconnecting then
        some self
      else none
  | _ => none

/-- The connection that the event's step may silence: that of the topmost function. -/
def silenced : HandlerEvent → Option ConnId
  | .advance loop _ _ => (run.stack loop).head?.bind run.silences
  | _ => none

/-- A connection without owners, whose destructor is next, has events to disable, and a
channel with its fd waits. -/
def destroysWaiting : Bool :=
  ∃ self < run.server.created, run.isOwned self = false ∧
    (run.server.conn self).channel.hasNoEvents = false ∧ run.isWaiting self = true

/-- The step neither silences nor destroys a connection with the fd of a waiting channel. -/
def SparesWaiting (event : HandlerEvent) : Prop :=
  (∀ self ∈ run.silenced event, run.isWaiting self = false) ∧
    ∀ next ∈ run.act event, next.destroysWaiting = false

instance (event : HandlerEvent) : Decidable (run.SparesWaiting event) :=
  inferInstanceAs (Decidable (_ ∧ _))

/-- Whenever `Loop` can call `HandleEvent`, the poller knows the channel under its fd. -/
def DispatchesRegistered : Prop :=
  ∀ loop ready active, run.stage loop = .handling (ready :: active) → run.isFree loop = true →
    (run.server.pollers loop).lookup (run.server.conn ready.conn).channel.fd = some ready.conn

/-- The waiting channels are registered. -/
def ActiveRegistered : Prop :=
  ∀ loop, ∀ ready ∈ (run.stage loop).active,
    ready.conn < run.server.created ∧
      (run.server.pollers loop).lookup (run.server.conn ready.conn).channel.fd = some ready.conn

/-- A step that changes no channel and no poller, and makes no channel wait. -/
structure Settles (next : HandlerRun) : Prop where
  created : run.server.created ≤ next.server.created
  conn : ∀ self, self < run.server.created → next.server.conn self = run.server.conn self
  pollers : next.server.pollers = run.server.pollers
  active : ∀ loop, (next.stage loop).active ⊆ (run.stage loop).active

end Waiting

variable {run middle next : HandlerRun} {loop : LoopId} {self : ConnId} {frames : List Frame}

theorem ActiveRegistered.dispatchesRegistered (active : run.ActiveRegistered) :
    run.DispatchesRegistered := by
  intro loop ready waiting handling _
  refine (active loop ready ?_).2
  rw [handling]
  exact List.mem_cons_self

namespace Settles

theorem trans (first : run.Settles middle) (second : middle.Settles next) : run.Settles next where
  created := first.created.trans second.created
  conn self known :=
    (second.conn self (known.trans_le first.created)).trans (first.conn self known)
  pollers := second.pollers.trans first.pollers
  active loop := List.Subset.trans (second.active loop) (first.active loop)

/-- The stacks, the client, the copies and the destructor do not matter. -/
theorem of_server (server : next.server = run.server)
    (stage : ∀ loop, (next.stage loop).active ⊆ (run.stage loop).active) :
    run.Settles next where
  created := by rw [server]
  conn self _ := by rw [server]
  pollers := by rw [server]
  active := stage

theorem refl : run.Settles run := of_server rfl fun _ => List.Subset.refl _

theorem goOn : run.Settles (run.goOn loop frames) :=
  of_server rfl fun other => by rw [stage_goOn]; exact List.Subset.refl _

theorem call : run.Settles (run.call loop frames) :=
  of_server rfl fun other => by rw [stage_call]; exact List.Subset.refl _

theorem setStage {stage : LoopStage} (active : stage.active ⊆ (run.stage loop).active) :
    run.Settles (run.setStage loop stage) := by
  refine of_server rfl fun other => ?_
  rw [stage_setStage]
  split
  · next same => exact same ▸ active
  · exact List.Subset.refl _

/-- Changes of the table and the queues. -/
theorem withServer {server : TcpServer} (created : run.server.created ≤ server.created)
    (conn : ∀ self, self < run.server.created → server.conn self = run.server.conn self)
    (pollers : server.pollers = run.server.pollers) : run.Settles (run.withServer server) where
  created := created
  conn := conn
  pollers := pollers
  active _ := List.Subset.refl _

theorem queueInLoop {functor : ServerFunctor} : run.Settles (run.queueInLoop loop functor) :=
  withServer le_rfl (fun _ _ => rfl) rfl

theorem countClose : run.Settles (run.withServer (run.server.countClose self)) :=
  withServer le_rfl (fun _ _ => by simp) rfl

theorem eraseConnection {fd : SocketType} :
    run.Settles (run.withServer (run.server.eraseConnection fd)) :=
  withServer le_rfl (fun _ _ => rfl) rfl

theorem runInLoop (thread : Thread) (functor : ServerFunctor) :
    run.Settles (run.runInLoop thread functor) := by
  unfold HandlerRun.runInLoop
  dsimp only
  split
  · exact call
  · exact queueInLoop

end Settles

namespace ActiveRegistered

theorem settle (active : run.ActiveRegistered) (settles : run.Settles next) :
    next.ActiveRegistered := by
  intro loop ready waiting
  obtain ⟨known, found⟩ := active loop ready (settles.active loop waiting)
  refine ⟨known.trans_le settles.created, ?_⟩
  rw [settles.pollers, settles.conn ready.conn known]
  exact found

/-- A waiting channel keeps its fd, and its entry, if the function keeps those of its loop. -/
private theorem attach_of_kept (active : run.ActiveRegistered) {attached : Attached}
    (fd : attached.conn.channel.fd = (run.server.conn self).channel.fd)
    (kept : ∀ ready ∈ (run.stage (run.server.loopOf self)).active,
      attached.poller.lookup (run.server.conn ready.conn).channel.fd = some ready.conn) :
    (run.attach self attached).ActiveRegistered := by
  intro loop ready waiting
  obtain ⟨known, found⟩ := active loop ready waiting
  refine ⟨known, ?_⟩
  have sameFd : ((run.server.setAttached self attached).conn ready.conn).channel.fd =
      (run.server.conn ready.conn).channel.fd := by
    rw [conn_setAttached]
    split
    · next same => rw [fd, same]
    · rfl
  change ((run.server.setAttached self attached).pollers loop).lookup
    ((run.server.setAttached self attached).conn ready.conn).channel.fd = some ready.conn
  rw [sameFd, setAttached_pollers, Function.update_apply]
  split
  · next same => exact kept ready (same ▸ waiting)
  · exact found

theorem attach (active : run.ActiveRegistered) {attached : Attached}
    (keeps : Attached.Keeps (run.server.attached self) attached) :
    (run.attach self attached).ActiveRegistered :=
  active.attach_of_kept keeps.fd fun ready waiting =>
    keeps.kept _ _ (active _ ready waiting).2

/-- Any function of a connection leaves the entries of the other fds. -/
theorem attach_silenced (active : run.ActiveRegistered) {attached : Attached}
    (touches : Attached.Touches self (run.server.attached self) attached)
    (spared : run.isWaiting self = false) : (run.attach self attached).ActiveRegistered := by
  refine active.attach_of_kept touches.fd fun ready waiting => ?_
  have different : (run.server.conn ready.conn).channel.fd ≠
      (run.server.conn self).channel.fd := by
    intro same
    have waits : run.isWaiting self = true := decide_eq_true ⟨ready, waiting, same⟩
    rw [spared] at waits
    cases waits
  rw [touches.elsewhere _ different]
  exact (active _ ready waiting).2

end ActiveRegistered

end HandlerRun

end TurboCore.Net
