import Mathlib
import TurboCore.Net.HandlerLifetime
import TurboCore.Net.ActiveChannels

/-!
# Dispatching over whole runs

Every step of the machine but three kinds leaves the entries of the waiting channels: the
functions that disable all events, a `HandleWrite` that ends the last interest of a channel,
and the destructors. Sparing the waiting channels from these, every run of a server or of a
client dispatches to registered channels only.
-/

namespace TurboCore.Net

open Foundation TcpServer

namespace HandlerRun

variable {run next : HandlerRun} {loop : LoopId} {self : ConnId}

namespace Settles

/-! ### Steps that leave the channels -/

theorem removeInLoop : run.Settles (run.removeInLoop self) := by
  unfold HandlerRun.removeInLoop
  dsimp only
  split
  · exact eraseConnection.trans goOn
  · exact (eraseConnection.trans queueInLoop).trans goOn

theorem handleRemoveConnection : run.Settles (run.handleRemoveConnection loop self) := by
  unfold HandlerRun.handleRemoveConnection
  dsimp only
  split
  · split
    · exact countClose.trans goOn
    · exact (countClose.trans queueInLoop).trans goOn
  · refine trans ?_ goOn
    exact countClose.trans (of_server rfl fun _ => List.Subset.refl _)

theorem scheduleReconnect : run.Settles (run.scheduleReconnect loop) := by
  refine trans ?_ goOn
  exact of_server rfl fun _ => List.Subset.refl _

theorem handleNewConnection (fd : Nat) : run.Settles (run.handleNewConnection fd) := by
  have added : run.Settles (run.withServer (run.server.addConnection fd)) := by
    refine withServer (Nat.le_succ _) (fun self known => ?_) rfl
    rw [conn_addConnection, if_neg (Nat.ne_of_lt known)]
  unfold HandlerRun.handleNewConnection
  dsimp only
  split
  · exact added.trans call
  · exact added.trans queueInLoop

theorem construct (socketFd : SocketType) : run.Settles (run.construct socketFd) := by
  refine withServer (Nat.le_succ _) (fun self known => ?_) rfl
  change (run.server.withEntry run.server.created _).conn self = run.server.conn self
  rw [conn_withEntry, if_neg (Nat.ne_of_lt known)]

theorem withClient (client : Option ClientSide) : run.Settles { run with client } :=
  of_server rfl fun _ => List.Subset.refl _

theorem connect (side : ClientSide) (fd : Nat) (result : ConnectResult) :
    run.Settles (run.connect side fd result) := by
  unfold HandlerRun.connect
  generalize (if result = .noSocket then invalidSocket else (fd : SocketType)) = socketFd
  dsimp only
  split
  · exact withClient _
  · split
    · exact withClient _
    · exact ((construct socketFd).trans (withClient _)).trans call

theorem doReconnect (side : ClientSide) (fd : Nat) (result : ConnectResult) :
    run.Settles (run.doReconnect side fd result) := by
  unfold HandlerRun.doReconnect
  dsimp only
  split
  · exact connect _ _ _
  · exact withClient _

theorem send (thread : Thread) (data : List UInt8) : run.Settles (run.send self thread data) := by
  unfold HandlerRun.send
  split
  · exact runInLoop _ _
  · exact refl

end Settles

namespace ActiveRegistered

/-! ### Functions on the stacks -/

theorem setDisconnecting (active : run.ActiveRegistered) :
    (run.setDisconnecting self).ActiveRegistered :=
  active.attach (.setState .disconnecting)

theorem shutdown (active : run.ActiveRegistered) (thread : Thread) :
    (run.shutdown self thread).ActiveRegistered := by
  unfold HandlerRun.shutdown
  split
  · exact active.setDisconnecting.settle (.runInLoop _ _)
  · exact active

theorem forceClose (active : run.ActiveRegistered) (thread : Thread) :
    (run.forceClose self thread).ActiveRegistered := by
  unfold HandlerRun.forceClose
  split
  · exact active.setDisconnecting.settle (.runInLoop _ _)
  · exact active

theorem runFunctor (active : run.ActiveRegistered) {functor : ServerFunctor}
    (spared : ∀ self ∈ run.silences (.functor functor), run.isWaiting self = false) :
    (run.runFunctor loop functor).ActiveRegistered := by
  cases functor with
  | connectEstablished who => exact (active.attach .connectEstablished).settle .goOn
  | removeConnection who => exact active.settle .removeInLoop
  | connectDestroyed who =>
      refine settle ?_ .goOn
      by_cases open_ : (run.server.conn who).state = .connected ∨
          (run.server.conn who).state = .disconnecting
      · rw [silences, if_pos open_] at spared
        exact active.attach_silenced Attached.Serves.connectDestroyed.touches (spared who rfl)
      · have same : Attached.connectDestroyed who (run.server.attached who) =
            run.server.attached who := if_neg open_
        rw [same]
        exact active.attach (.of_eq rfl rfl)
  | sendInLoop who data => exact (active.attach (.sendInLoop data)).settle .goOn
  | shutdownInLoop who => exact (active.attach .shutdownInLoop).settle .goOn
  | forceCloseInLoop who =>
      rw [HandlerRun.runFunctor]
      split
      · next open_ =>
          rw [silences, if_pos open_] at spared
          exact (active.attach_silenced .beginForceClose (spared who rfl)).settle .goOn
      · exact active.settle .goOn

theorem handleWrite (active : run.ActiveRegistered) (write : WriteResult)
    (spared : ∀ who ∈ run.silences (.handleWrite self), run.isWaiting who = false) :
    (run.attach self
      ((run.server.attached self).handleWrite self write).after).ActiveRegistered := by
  by_cases reading : (run.server.conn self).channel.reading = true
  · exact active.attach (.handleWrite reading write)
  · rw [silences, if_neg reading] at spared
    exact active.attach_silenced (.handleWrite write) (spared self rfl)

/-- A step of the topmost function, which is not the user's. -/
theorem runFrame (active : run.ActiveRegistered) {frame : Frame} {read : ReadResult}
    {write : WriteResult}
    (spared : ∀ self ∈ run.silences frame, run.isWaiting self = false) :
    (run.runFrame loop read write frame).ActiveRegistered := by
  cases frame with
  | handleEvent ready =>
      simp only [HandlerRun.runFrame]
      split_ifs <;> exact active.settle .goOn
  | writeAfterRead ready =>
      simp only [HandlerRun.runFrame]
      split_ifs <;> exact active.settle .goOn
  | closeAfterError who | writeDone who | handleError who | release who =>
      exact active.settle .goOn
  | handleRead who => cases read <;> exact active.settle .goOn
  | handleWrite who =>
      have written := active.handleWrite write spared
      simp only [HandlerRun.runFrame]
      split_ifs <;> exact written.settle .goOn
  | handleClose who =>
      simp only [HandlerRun.runFrame]
      split
      · exact active.settle .goOn
      · next open_ =>
          rw [silences, if_neg open_] at spared
          exact (active.attach_silenced .beginHandleClose (spared who rfl)).settle .goOn
  | finishClose who => exact (active.attach .closeSocket).settle .goOn
  | callback who kind => exact active
  | handleRemoveConnection who => exact active.settle .handleRemoveConnection
  | scheduleReconnect who => exact active.settle .scheduleReconnect
  | functor lambda => exact active.runFunctor spared

/-! ### Steps of the machine -/

theorem poll (active : run.ActiveRegistered) {reported : List ReadyChannel}
    (possible : ∀ ready ∈ reported, run.canPoll loop ready = true) :
    (run.setStage loop (.handling reported)).ActiveRegistered := by
  intro other ready waiting
  rw [stage_setStage] at waiting
  split at waiting
  · next same =>
      have may := possible ready waiting
      simp only [canPoll, decide_eq_true_eq] at may
      exact ⟨may.1, same ▸ may.2.1⟩
  · exact active other ready waiting

theorem closeNext (active : run.ActiveRegistered) (remaining : List ConnId) :
    (run.closeNext self remaining).ActiveRegistered := by
  have closing : run.Settles { run with teardown := .closing remaining } :=
    .of_server rfl fun _ => List.Subset.refl _
  unfold HandlerRun.closeNext
  dsimp only
  split
  · exact ((active.settle closing).settle .call).forceClose (some 0)
  · exact (active.settle closing).forceClose (some 0)

theorem act (active : run.ActiveRegistered) {event : HandlerEvent}
    (spared : ∀ self ∈ run.silenced event, run.isWaiting self = false)
    (acts : run.Acts event next) : next.ActiveRegistered := by
  cases acts with
  | advance loop read write frame rest top =>
      rw [silenced, top] at spared
      exact active.runFrame spared
  | poll loop reported free polling may => exact active.poll may
  | dispatch loop ready waiting free handling =>
      refine (active.settle (.setStage ?_)).settle .call
      rw [handling]
      exact List.subset_cons_self ready waiting
  | swapFunctors loop =>
      refine (active.settle ?_).settle (.setStage (List.nil_subset _))
      exact .withServer le_rfl (fun _ _ => rfl) rfl
  | functor loop => exact (active.settle (.setStage (List.nil_subset _))).settle .call
  | endBatch loop =>
      refine active.settle (.setStage ?_)
      split <;> exact List.nil_subset _
  | returns loop => exact active.settle .goOn
  | accept fd => exact active.settle (.handleNewConnection fd)
  | connect fd result => exact active.settle (.connect _ fd result)
  | reconnectTimer fd result => exact active.settle (.doReconnect _ fd result)
  | disconnect thread =>
      unfold HandlerRun.disconnect
      dsimp only
      split
      · exact active.settle (.withClient _)
      · exact (active.settle (.withClient _)).shutdown thread
  | setAutoReconnect enable => exact active.settle (.withClient _)
  | send thread self data => exact active.settle (.send thread data)
  | shutdown thread self => exact active.shutdown thread
  | forceClose thread self => exact active.forceClose thread
  | retain | drop | beginDestructor | quit =>
      exact active.settle (.of_server rfl fun _ => List.Subset.refl _)
  | closeNext self remaining => exact active.closeNext remaining
  | finishDestructor =>
      exact active.settle ⟨le_rfl, fun _ _ => rfl, rfl, fun _ => List.Subset.refl _⟩

end ActiveRegistered

/-! ### The destructors of the connections -/

/-- The connections below `count` without owners are destroyed: the waiting channels are
registered still, and the connections from `count` on are as they were. -/
structure ClearedTo (run : HandlerRun) (count : Nat) (server : TcpServer) : Prop where
  active : (run.withServer server).ActiveRegistered
  loopOf : ∀ self, server.loopOf self = run.server.loopOf self
  fd : ∀ self, (server.conn self).channel.fd = (run.server.conn self).channel.fd
  conn : ∀ self, count ≤ self → server.conn self = run.server.conn self

namespace ClearedTo

variable {count : Nat} {server : TcpServer}

theorem isWaiting (cleared : run.ClearedTo count server) :
    (run.withServer server).isWaiting self = run.isWaiting self := by
  simp only [HandlerRun.isWaiting, withServer_server, stage_withServer, cleared.loopOf, cleared.fd]

/-- `~TcpConnection` leaves its channel's fd, and the entries of the waiting channels. -/
theorem exists_attached (cleared : run.ClearedTo count server)
    (spared : (run.server.conn count).channel.hasNoEvents = false →
      run.isWaiting count = false) : ∃ attached : Attached,
    attached.conn.channel.fd = (server.conn count).channel.fd ∧
      ((run.withServer server).attach count attached).ActiveRegistered ∧
      server.destroy count = (server.setAttached count attached).markDestroyed count := by
  cases silent : (server.attached count).conn.channel.hasNoEvents with
  | true =>
      refine ⟨(server.attached count).closeSocket, rfl, ?_, ?_⟩
      · exact cleared.active.attach .closeSocket
      · simp only [TcpServer.destroy, silent, if_true]
  | false =>
      have touches : Attached.Touches count (server.attached count)
          ((server.attached count).disableAll count).closeSocket :=
        Attached.Touches.disableAll.trans (.of_eq rfl rfl)
      refine ⟨((server.attached count).disableAll count).closeSocket, touches.fd, ?_, ?_⟩
      · refine cleared.active.attach_silenced touches ?_
        rw [cleared.isWaiting]
        refine spared ?_
        rw [← cleared.conn count le_rfl]
        exact silent
      · simp only [TcpServer.destroy, silent, Bool.false_eq_true, if_false]

theorem destroy (cleared : run.ClearedTo count server)
    (spared : (run.server.conn count).channel.hasNoEvents = false →
      run.isWaiting count = false) : run.ClearedTo (count + 1) (server.destroy count) := by
  obtain ⟨attached, sameFd, active, same⟩ := cleared.exists_attached spared
  rw [same]
  refine ⟨?_, fun self => ?_, fun self => ?_, fun self later => ?_⟩
  · refine active.settle (.withServer le_rfl (fun self _ => ?_) rfl)
    exact conn_markDestroyed _ _ _
  · rw [loopOf_markDestroyed, loopOf_setAttached, cleared.loopOf]
  · rw [conn_markDestroyed, conn_setAttached, ← cleared.fd]
    split
    · next mine => rw [sameFd, mine]
    · rfl
  · have different : self ≠ count := by omega
    rw [conn_markDestroyed, conn_setAttached_of_ne different, cleared.conn self (by omega)]

end ClearedTo

/-- With the waiting channels spared, the last owners may go. -/
theorem ActiveRegistered.collect (active : run.ActiveRegistered)
    (spared : run.destroysWaiting = false) : run.collect.ActiveRegistered := by
  have unshared : ∀ self < run.server.created, run.isOwned self = false →
      (run.server.conn self).channel.hasNoEvents = false → run.isWaiting self = false := by
    intro self known unowned events
    simp only [destroysWaiting, decide_eq_false_iff_not, not_exists, not_and] at spared
    exact Bool.eq_false_iff.mpr (spared self known unowned events)
  have cleared : ∀ count ≤ run.server.created, run.ClearedTo count
      ((List.range count).foldl
        (fun server self => if run.isOwned self then server else server.destroy self)
        run.server) := by
    intro count
    induction count with
    | zero => exact fun _ => ⟨active, fun _ => rfl, fun _ => rfl, fun _ _ => rfl⟩
    | succ count inductionHypothesis =>
        intro known
        have before := inductionHypothesis (Nat.le_of_succ_le known)
        rw [List.range_succ, List.foldl_append, List.foldl_cons, List.foldl_nil]
        split
        · exact ⟨before.active, before.loopOf, before.fd,
            fun self later => before.conn self (Nat.le_of_succ_le later)⟩
        · next unowned =>
            exact before.destroy (unshared count known (Bool.eq_false_iff.mpr unowned))
  exact (cleared run.server.created le_rfl).active

theorem ActiveRegistered.start (component : Component) :
    (HandlerRun.start component).ActiveRegistered := by
  intro loop ready waiting
  cases component <;> cases waiting

end HandlerRun

/-- In every run of a server or of a client in which no step silences or destroys a
connection with the fd of a waiting channel, `Loop` calls `HandleEvent` on registered
channels only. -/
theorem dispatches_registered (component : Component) {events : List HandlerEvent}
    {final : HandlerRun}
    (run : handlerMachine.Run HandlerRun.SparesWaiting (.start component) events final) :
    final.DispatchesRegistered := by
  have active : final.ActiveRegistered := by
    refine run.invariant HandlerRun.ActiveRegistered (.start component) ?_
    rintro state event next active ⟨unsilenced, undestroyed⟩ transition
    obtain ⟨acted, possible, rfl⟩ := Option.map_eq_some_iff.mp transition
    have next := active.act unsilenced (HandlerRun.act_cases possible)
    exact next.collect (undestroyed acted possible)
  exact active.dispatchesRegistered

/-- A server with one loop accepts two connections, and the program keeps the second one's
pointer; then both have bytes to read, and the first one's message callback is called. -/
def readTwo : List HandlerEvent :=
  [.poll 0 [], .accept 5, advance 0, .returns 0, advance 0, advance 0,
    .accept 6, advance 0, .retain (some 0) 1, .returns 0, advance 0, advance 0,
    .swapFunctors 0, .endBatch 0,
    .poll 0 [⟨0, false, false, true, false⟩, ⟨1, false, false, true, false⟩], .dispatch 0,
    advance 0, .advance 0 .bytes .wouldBlock]

/-- The callback closes a connection inline and returns, and `HandleEvent` ends. -/
def closeInCallback (self : ConnId) : List HandlerEvent :=
  .forceClose (some 0) self :: List.replicate 7 (.advance 0 .failed .wouldBlock) ++
    [.returns 0, .advance 0 .failed .wouldBlock, .advance 0 .failed .wouldBlock]

/-- A callback may close its own connection: the other one is still registered. -/
theorem own_close_dispatches_registered : ∃ final,
    handlerMachine.Run HandlerRun.SparesWaiting (.start (.server 0))
        (readTwo ++ closeInCallback 0) final ∧
      (final.server.pollers 0).lookup 5 = none ∧
      final.stage 0 = .handling [⟨1, false, false, true, false⟩] ∧
      final.DispatchesRegistered := by
  have observed : (handlerMachine.exec (.start (.server 0)) (readTwo ++ closeInCallback 0)).map
      (fun final => ((final.server.pollers 0).lookup 5, final.stage 0)) =
        some (none, .handling [⟨1, false, false, true, false⟩]) := by decide +kernel
  have guarded : handlerMachine.Guarded HandlerRun.SparesWaiting (.start (.server 0))
      (readTwo ++ closeInCallback 0) := by decide +kernel
  obtain ⟨final, executed, seen⟩ := Option.map_eq_some_iff.mp observed
  simp only [Prod.mk.injEq] at seen
  have run := Machine.run_of_guarded executed guarded
  exact ⟨final, run, seen.1, seen.2, dispatches_registered (.server 0) run⟩

/-- When it closes the other one, whose channel waits behind its own, `Loop` calls
`HandleEvent` on a channel that the poller no longer knows. -/
theorem closed_channel_is_dispatched : ¬ ∀ component events final,
    handlerMachine.AnyRun (.start component) events final → final.DispatchesRegistered := by
  intro registered
  have observed : (handlerMachine.exec (.start (.server 0)) (readTwo ++ closeInCallback 1)).map
      (fun final => (final.stage 0, final.isFree 0,
        (final.server.pollers 0).lookup (final.server.conn 1).channel.fd)) =
        some (.handling [⟨1, false, false, true, false⟩], true, none) := by decide +kernel
  obtain ⟨final, executed, seen⟩ := Option.map_eq_some_iff.mp observed
  simp only [Prod.mk.injEq] at seen
  have found := registered _ _ final (Machine.run_of_exec executed) 0 _ _ seen.1 seen.2.1
  rw [seen.2.2] at found
  cases found

end TurboCore.Net
