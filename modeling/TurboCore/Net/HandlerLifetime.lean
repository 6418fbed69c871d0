import Mathlib
import TurboCore.Net.HandlerSteps

/-!
# A connection outlives its running handlers

While no step takes an attended connection's last keeper away, every connection with a
handler on a stack has an owner. A server with one loop, and a client, do take it away: the
close callback erases the table's entry, or resets `m_connection`, inside of `HandleClose`,
which has still the socket to close.
-/

namespace TurboCore.Net

open Foundation TcpServer

namespace HandlerRun

variable {run : HandlerRun} {loop : LoopId} {self : ConnId}

/-! ### Steps of a loop between its handlers -/

theorem Tended.poll (tended : run.Tended) (owned : run.PolledOwned)
    {active : List ReadyChannel} (free : run.isFree loop = true)
    (polling : run.stage loop = .polling)
    (reported : ∀ ready ∈ active, run.canPoll loop ready = true) :
    (run.setStage loop (.handling active)).Tended := by
  have empty := stack_of_isFree free
  have registered : ∀ ready ∈ active,
      (run.server.pollers loop).lookup (run.server.conn ready.conn).channel.fd =
        some ready.conn := by
    intro ready member
    have may := reported ready member
    simp only [canPoll, decide_eq_true_eq] at may
    exact may.2.1
  have atLoop : ∀ ready ∈ active,
      ready.conn < run.server.created ∧ run.server.loopOf ready.conn = loop := by
    intro ready member
    obtain ⟨known, home, _⟩ := tended.pollers loop _ _ (registered ready member)
    exact ⟨known, home⟩
  refine ⟨tended.toSited.setStage atLoop (List.nil_subset _) ?_, tended.pollers, tended.own, ?_⟩
  · rw [empty]
    trivial
  · intro who attended
    have kept : run.Kept who := by
      by_cases ready : ∃ ready ∈ active, ready.conn = who
      · obtain ⟨ready, member, rfl⟩ := ready
        have home := (atLoop ready member).2
        exact tended.kept_of_isOwned (home ▸ empty) (home ▸ polling)
          (owned loop _ _ (registered ready member))
      · refine tended.kept who (attended_of_setStage attended fun other member same => ?_)
        exact absurd ⟨other, member, same⟩ ready
    refine kept.setStage fun _ removal => ?_
    rw [polling] at removal
    cases removal

theorem call_setStage (frames : List Frame) (stage : LoopStage) :
    (run.setStage loop stage).call loop frames = (run.call loop frames).setStage loop stage := by
  rw [call, call, stack_setStage]
  simp [setStage, setStack]

/-- Nothing new waits for its turn. -/
theorem Tended.setStage (tended : run.Tended) {stage : LoopStage}
    (active : stage.active ⊆ (run.stage loop).active)
    (lambdas : stage.functors ++ stage.executed ⊆ run.lambdas loop)
    (backed : BackedStack stage.executed (run.stack loop))
    (keeps : ∀ self, run.Attended self → run.Kept self → (run.setStage loop stage).Kept self) :
    (run.setStage loop stage).Tended where
  toSited := tended.toSited.setStage (fun ready member => tended.active loop ready (active member))
    lambdas backed
  pollers := tended.pollers
  own := tended.own
  kept self attended := by
    have before : run.Attended self := by
      refine attended_of_setStage attended fun ready member same => .inr ⟨ready, ?_, same⟩
      rw [← same, (tended.active loop ready (active member)).2]
      exact active member
    exact keeps self before (tended.kept self before)

theorem Tended.dispatch (tended : run.Tended) {ready : ReadyChannel} {active : List ReadyChannel}
    (handling : run.stage loop = .handling (ready :: active)) :
    ((run.setStage loop (.handling active)).call loop [.handleEvent ready]).Tended := by
  have here : ready ∈ (run.stage loop).active := by
    rw [handling]
    exact List.mem_cons_self
  obtain ⟨known, home⟩ := tended.active loop ready here
  have called : (run.call loop [.handleEvent ready]).Tended := by
    refine tended.call ?_ ?_ ⟨trivial, tended.backed loop⟩
    · intro new member
      rw [List.mem_singleton.mp member]
      exact ⟨known, home⟩
    · intro new member _
      rw [List.mem_singleton.mp member]
      exact .inr ⟨ready, home ▸ here, rfl⟩
  rw [call_setStage]
  have same : (run.call loop [.handleEvent ready]).stage loop = .handling (ready :: active) := by
    rw [stage_call, handling]
  refine called.setStage ?_ (List.nil_subset _) ?_ fun self _ kept => kept.setStage fun _ => ?_
  · rw [same]
    exact List.subset_cons_self ready active
  · have backed := called.backed loop
    rw [same] at backed
    exact backed
  · rw [same]
    exact id

/-- The lambdas of the batch are destroyed. -/
theorem Tended.endBatch (tended : run.Tended) {executed : List ServerFunctor}
    {stage : LoopStage} (idle : stage.active = [] ∧ stage.functors = [] ∧ stage.executed = [])
    (free : run.isFree loop = true) (drained : run.stage loop = .draining [] executed)
    (spared : loop = 0 → ∀ functor ∈ (run.stage 0).executed,
      functor = .removeConnection functor.conn → run.Attended functor.conn →
        run.isHeld functor.conn = true ∨ run.Queued functor.conn ∨ run.Argued functor.conn) :
    (run.setStage loop stage).Tended := by
  obtain ⟨inactive, untaken, dropped⟩ := idle
  refine tended.setStage ?_ ?_ ?_ fun self attended kept => ?_
  · rw [inactive]
    exact List.nil_subset _
  · rw [untaken, dropped]
    exact List.nil_subset _
  · rw [stack_of_isFree free]
    trivial
  by_cases ran : loop = 0 ∧ run.Removed self
  · obtain ⟨rfl, away, member⟩ := ran
    have keeps : run.isHeld self = true ∨ run.Queued self ∨ run.Argued self :=
      spared rfl _ member rfl attended
    rcases keeps with held | queued | argued
    · exact .inl held
    · refine .inr (.inl (queued.setStage fun _ taken => ?_))
      rw [drained] at taken
      cases taken
    · exact .inr (.inr (.inr argued.setStage))
  · refine kept.setStage fun away removal => ?_
    have member : .removeConnection self ∈ run.lambdas loop := by
      simp only [HandlerRun.lambdas, List.mem_append] at removal ⊢
      tauto
    obtain rfl : 0 = loop := (tended.lambdas loop _ member).2
    rw [drained, LoopStage.functors, List.nil_append] at removal
    exact absurd ⟨rfl, away, by rw [drained]; exact removal⟩ ran

/-- The first functor of the batch runs, and counts as executed. -/
theorem Tended.functor (tended : run.Tended) {functor : ServerFunctor}
    {functors executed : List ServerFunctor}
    (draining : run.stage loop = .draining (functor :: functors) executed) :
    ((run.setStage loop (.draining functors (executed ++ [functor]))).call loop
      [.functor functor]).Tended := by
  have lambdas : functors ++ (executed ++ [functor]) ⊆ run.lambdas loop := by
    intro other member
    simp only [HandlerRun.lambdas, draining, LoopStage.functors, LoopStage.executed,
      List.mem_append, List.mem_cons, List.not_mem_nil, or_false] at member ⊢
    tauto
  obtain ⟨known, home⟩ := tended.lambdas loop functor (lambdas (by simp))
  have staged : (run.setStage loop (.draining functors (executed ++ [functor]))).Tended := by
    refine tended.setStage (List.nil_subset _) lambdas ?_ fun self _ kept => ?_
    · have backed := tended.backed loop
      rw [draining] at backed
      exact backed.mono (List.subset_append_left _ _)
    · -- The removal goes from those that wait to those that ran.
      refine kept.setStage fun _ removal => ?_
      simp only [draining, LoopStage.functors, LoopStage.executed, List.mem_append,
        List.mem_cons, List.not_mem_nil, or_false] at removal ⊢
      tauto
  refine staged.call ?_ ?_ ⟨?_, staged.backed loop⟩
  · intro new member
    rw [List.mem_singleton.mp member]
    exact ⟨known, home⟩
  · intro new member handler
    rw [List.mem_singleton.mp member] at handler
    cases handler
  · rw [stage_setStage, if_pos rfl]
    cases functor with
    | removeConnection who => exact .inr (List.mem_append_right _ List.mem_cons_self)
    | connectEstablished | connectDestroyed | sendInLoop | shutdownInLoop
    | forceCloseInLoop => trivial

/-- `DoPendingFunctors` takes the queue. -/
theorem Sited.swapFunctors (sited : run.Sited) (free : run.isFree loop = true) :
    ((run.withServer
      { run.server with pending := Function.update run.server.pending loop [] }).setStage loop
        (.draining (run.server.pending loop) [])).Sited := by
  refine ⟨sited.home, ?_, ?_, ?_, ?_, sited.held, sited.single⟩
  · intro other frame member
    rw [stack_setStage] at member
    exact sited.frames other frame member
  · intro other ready member
    rw [stage_setStage] at member
    split at member
    · cases member
    · exact sited.active other ready member
  · intro other functor member
    refine sited.lambdas other functor ?_
    simp only [HandlerRun.lambdas, setStage_server, stage_setStage, withServer_server,
      Function.update_apply] at member ⊢
    split at member
    · next same =>
        rw [List.nil_append, LoopStage.executed, List.append_nil, LoopStage.functors] at member
        rw [same]
        exact List.mem_append_left _ (List.mem_append_left _ member)
    · exact member
  · intro other
    rw [stack_setStage, stage_setStage]
    split
    · next same =>
        rw [same, stack_withServer, stack_of_isFree free]
        trivial
    · exact sited.backed other

/-- The connections of the other loops are kept as before. -/
theorem Kept.swapFunctors (kept : run.Kept self) (handled : run.stage loop = .handling [])
    (elsewhere : run.server.loopOf self ≠ loop) :
    ((run.withServer
      { run.server with pending := Function.update run.server.pending loop [] }).setStage loop
        (.draining (run.server.pending loop) [])).Kept self := by
  rcases kept with held | (⟨functor, member, owns⟩ | ⟨away, waiting | closing⟩) | ⟨away, ran⟩ |
    argued
  · exact .inl held
  · have untouched : functor ∈
        Function.update run.server.pending loop [] (run.server.loopOf self) := by
      rw [Function.update_of_ne elsewhere]
      exact member
    exact .inr (.inl (.inl ⟨functor, untouched, owns⟩))
  · refine .inr (.inl (.inr ⟨away, .inl ?_⟩))
    have waits : Function.update run.server.pending loop [] 0 ++
        (if 0 = loop then LoopStage.draining (run.server.pending loop) []
          else run.stage 0).functors = run.server.pending 0 ++ (run.stage 0).functors := by
      split
      · next same =>
          subst same
          simp [handled, LoopStage.functors]
      · next different => rw [Function.update_of_ne different]
    rw [stage_setStage]
    exact waits ▸ waiting
  · refine .inr (.inl (.inr ⟨away, .inr ?_⟩))
    rw [stack_setStage]
    exact closing
  · refine .inr (.inr (.inl ⟨away, ?_⟩))
    rw [stage_setStage, if_neg]
    · exact ran
    · rintro rfl
      rw [handled] at ran
      cases ran
  · obtain ⟨frame, member, callback⟩ := argued
    refine .inr (.inr (.inr ⟨frame, ?_, callback⟩))
    rw [stack_setStage]
    exact member

theorem Tended.swapFunctors (tended : run.Tended) (free : run.isFree loop = true)
    (handled : run.stage loop = .handling []) :
    ((run.withServer
      { run.server with pending := Function.update run.server.pending loop [] }).setStage loop
        (.draining (run.server.pending loop) [])).Tended := by
  refine ⟨tended.toSited.swapFunctors free, ?_, ?_, fun self attended => ?_⟩
  · exact tended.pollers.of_conn_eq le_rfl (fun _ _ => rfl) (fun _ _ => rfl) rfl
  · exact fun server => (tended.own server).of_conn_eq rfl (fun _ => rfl) rfl
  · have before : run.Attended self := by
      refine attended_of_setStage attended fun ready member _ => ?_
      cases member
    -- Nothing of an attended connection waits here: this loop has no handlers now.
    refine (tended.kept self before).swapFunctors handled ?_
    rintro rfl
    rcases before with ⟨frame, member, _⟩ | ⟨ready, member, _⟩
    · rw [stack_of_isFree free] at member
      cases member
    · rw [handled] at member
      cases member

/-! ### The destructors of the connections -/

theorem Extends.trans {before middle after : TcpServer} (first : Extends before middle)
    (second : Extends middle after) : Extends before after where
  threadNum := second.threadNum.trans first.threadNum
  created := first.created.trans second.created
  loopOf self known :=
    (second.loopOf self (known.trans_le first.created)).trans (first.loopOf self known)
  pending loop := List.Subset.trans (first.pending loop) (second.pending loop)

theorem Extends.markDestroyed {server : TcpServer} :
    Extends server (server.markDestroyed self) := by
  refine .of_entry ?_ rfl rfl (markDestroyed_entry server self) rfl
  rfl

theorem isOwned_withServer {server : TcpServer}
    (threadNum : server.threadNum = run.server.threadNum)
    (connections : server.connections = run.server.connections)
    (pending : server.pending = run.server.pending) :
    (run.withServer server).isOwned self = run.isOwned self := by
  have held := isHeld_withServer connections self
  rw [Bool.eq_iff_iff]
  simp only [isOwned, decide_eq_true_eq]
  simp only [held, HandlerRun.lambdas, withServer_server, stack_withServer, stage_withServer,
    threadNum, pending]

/-- The connections below `count` without owners are destroyed, and nothing else. -/
structure CollectedTo (run : HandlerRun) (count : Nat) (server : TcpServer) : Prop where
  extended : Extends run.server server
  created : server.created = run.server.created
  connections : server.connections = run.server.connections
  pending : server.pending = run.server.pending
  pollers : SoundPollers server
  own : run.client = none → OwnEntries server true
  owned : ∀ loop fd self, (server.pollers loop).lookup fd = some self → self < count →
    run.isOwned self = true

theorem CollectedTo.destroy {count : Nat} {server : TcpServer}
    (collected : run.CollectedTo count server) (known : count < run.server.created) :
    run.CollectedTo (count + 1) (server.destroy count) := by
  obtain ⟨attached, _, _, same⟩ := SoundPollers.exists_destroyed server count
  have extended : Extends server (server.destroy count) := by
    rw [same]
    exact (Extends.setAttached attached).trans .markDestroyed
  refine ⟨collected.extended.trans extended, ?_, ?_, ?_, ?_, ?_, fun loop fd self found below => ?_⟩
  · rw [same]
    exact collected.created
  · rw [same]
    exact collected.connections
  · rw [same]
    exact collected.pending
  · exact collected.pollers.destroy (collected.created ▸ known)
  · exact fun none_ => (collected.own none_).destroy fun open_ => nomatch open_
  · obtain ⟨earlier, different⟩ := collected.pollers.lookup_destroy found
    have before : self < count := lt_of_le_of_ne (Nat.lt_succ_iff.mp below) different
    exact collected.owned loop fd self earlier before

theorem Tended.collectedTo (tended : run.Tended) {count : Nat}
    (known : count ≤ run.server.created) :
    run.CollectedTo count ((List.range count).foldl
      (fun server self => if run.isOwned self then server else server.destroy self)
      run.server) := by
  induction count with
  | zero =>
      exact ⟨.of_eq rfl rfl rfl rfl, rfl, rfl, rfl, tended.pollers, tended.own,
        fun _ _ self _ below => absurd below (Nat.not_lt_zero self)⟩
  | succ count inductionHypothesis =>
      have collected := inductionHypothesis (Nat.le_of_succ_le known)
      rw [List.range_succ, List.foldl_append, List.foldl_cons, List.foldl_nil]
      split
      · next owned =>
          refine { collected with owned := fun loop fd self found below => ?_ }
          rcases Nat.lt_succ_iff_lt_or_eq.mp below with earlier | rfl
          · exact collected.owned loop fd self found earlier
          · exact owned
      · exact collected.destroy known

theorem Tended.collect (tended : run.Tended) : run.collect.Tended ∧ run.collect.PolledOwned := by
  have collected := tended.collectedTo (Nat.le_refl _)
  constructor
  · refine tended.withServer collected.extended collected.created collected.connections
      (fun loop functor member => .inl ?_) collected.pollers collected.own
    rw [← collected.pending]
    exact member
  · intro loop fd self found
    have known := (collected.pollers loop fd self found).1
    rw [collected.created] at known
    exact (isOwned_withServer collected.extended.threadNum collected.connections
      collected.pending).trans (collected.owned loop fd self found known)

/-! ### Runs -/

/-- A step of the topmost function, which is not the user's. -/
theorem Tended.runFrame (tended : run.Tended) {frame : Frame} {rest : List Frame}
    {read : ReadResult} {write : WriteResult} (top : run.stack loop = frame :: rest)
    (spared : run.Spares (.advance loop read write)) (notCallback : frame.isCallback = false) :
    (run.runFrame loop read write frame).Tended := by
  have guarded := spared frame (by rw [top]; rfl)
  by_cases handler : frame.isHandler = true
  · exact tended.runFrame_handler top handler read write
  · cases frame with
    | callback => cases notCallback
    | release who => exact tended.release top
    | scheduleReconnect who => exact tended.scheduleReconnect top
    | handleRemoveConnection who =>
        cases client : run.client with
        | none => exact tended.handleRemoveConnection_server top client
        | some side =>
            exact tended.handleRemoveConnection_client top client (guarded.2 rfl side client)
    | functor lambda =>
        exact tended.runFunctor top fun removal => guarded.1 (congrArg Frame.functor removal)
    | handleEvent | closeAfterError | writeAfterRead | handleRead | handleWrite | writeDone
    | handleError | handleClose | finishClose => exact absurd rfl handler

theorem Tended.act (tended : run.Tended) (owned : run.PolledOwned) {event : HandlerEvent}
    {next : HandlerRun} (spared : run.Spares event) (acts : run.Acts event next) :
    next.Tended := by
  cases acts with
  | advance loop read write frame rest top notCallback =>
      refine tended.runFrame top spared ?_
      cases frame with
      | callback who kind => exact absurd rfl (notCallback who kind)
      | handleEvent | closeAfterError | writeAfterRead | handleRead | handleWrite | writeDone
      | handleError | handleClose | finishClose | release | handleRemoveConnection
      | scheduleReconnect | functor => rfl
  | poll loop active free polling reported => exact tended.poll owned free polling reported
  | dispatch loop ready active free handling => exact tended.dispatch handling
  | swapFunctors loop free handled => exact tended.swapFunctors free handled
  | functor loop functor functors executed free draining => exact tended.functor draining
  | endBatch loop executed free drained =>
      refine tended.endBatch ?_ free drained spared
      split <;> exact ⟨rfl, rfl, rfl⟩
  | returns loop self kind rest top =>
      have argument : run.argument loop = some self := by rw [argument, top]
      have guarded := spared self argument
      rw [top] at guarded
      exact tended.returns top guarded
  | accept fd active server handling free alive unused =>
      exact tended.handleNewConnection server unused spared
  | connect fd result side client => exact tended.connect client rfl (spared side client)
  | reconnectTimer fd result side client free polling =>
      exact tended.doReconnect client free polling
  | disconnect thread side client => exact tended.disconnect client thread
  | setAutoReconnect enable side client => exact tended.setClient client rfl
  | send thread self data may => exact tended.send (tended.known_of_mayUse may) thread data
  | shutdown thread self may => exact tended.shutdown (tended.known_of_mayUse may) thread
  | forceClose thread self may => exact tended.forceClose (tended.known_of_mayUse may) thread
  | retain thread self may => exact tended.retain (tended.known_of_mayUse may)
  | drop thread self => exact tended.drop spared
  | beginDestructor => exact tended.withTeardown _ run.quits
  | closeNext self remaining closing idle alive =>
      exact tended.closeNext (tended.known_of_isOwned alive) remaining
  | quit => exact tended.withTeardown _ _
  | finishDestructor reached idle joined => exact tended.finishDestructor joined spared

theorem Tended.start (component : Component) : (HandlerRun.start component).Tended := by
  have nothing : (HandlerRun.start component).server.created = 0 := by cases component <;> rfl
  have silent : ∀ loop, (HandlerRun.start component).stage loop = .polling ∧
      (HandlerRun.start component).stack loop = [] ∧
      (HandlerRun.start component).server.pending loop = [] := by
    intro loop
    cases component <;> exact ⟨rfl, rfl, rfl⟩
  have unlisted : ∀ self, (HandlerRun.start component).isHeld self = false := by
    intro self
    cases component <;> rfl
  refine ⟨⟨?_, ?_, ?_, ?_, ?_, ?_, ?_⟩, ?_, ?_, ?_⟩
  · intro self known
    rw [nothing] at known
    cases known
  · intro loop frame member
    rw [(silent loop).2.1] at member
    cases member
  · intro loop ready member
    rw [(silent loop).1] at member
    cases member
  · intro loop functor member
    rw [lambdas, (silent loop).1, (silent loop).2.2] at member
    cases member
  · intro loop
    rw [(silent loop).2.1]
    trivial
  · intro self held
    rw [unlisted] at held
    cases held
  · intro client
    cases component with
    | server threadNum => cases client
    | client => rfl
  · intro loop fd self found
    cases component <;> cases found
  · intro server
    cases component with
    | server threadNum => exact (OwnEntries.start threadNum).mono (fun _ => rfl)
    | client => cases server
  · intro self attended
    rw [Attended, (silent _).2.1, (silent _).1] at attended
    rcases attended with ⟨_, member, _⟩ | ⟨_, member, _⟩
    · cases member
    · cases member

theorem PolledOwned.start (component : Component) : (HandlerRun.start component).PolledOwned := by
  intro loop fd self found
  cases component <;> cases found

end HandlerRun

/-- In every run of a server or of a client that spares the keepers of attended connections,
a connection with a handler on a stack has an owner. -/
theorem connections_outlive_handlers (component : Component) {events : List HandlerEvent}
    {final : HandlerRun}
    (run : handlerMachine.Run HandlerRun.Spares (.start component) events final) :
    final.OutlivesHandlers := by
  have invariant : final.Tended ∧ final.PolledOwned := by
    refine run.invariant (fun run => run.Tended ∧ run.PolledOwned)
      ⟨.start component, .start component⟩ ?_
    rintro state event next ⟨tended, owned⟩ spared transition
    obtain ⟨acted, possible, rfl⟩ := Option.map_eq_some_iff.mp transition
    exact (tended.act owned spared (HandlerRun.act_cases possible)).collect
  exact invariant.1.outlivesHandlers

/-- A step of the topmost function on a loop. -/
def advance (loop : LoopId) : HandlerEvent := .advance loop .wouldBlock .wouldBlock

/-- A server with a sub loop accepts a connection, its peer hangs up, and the main loop
removes it before `HandleClose` has closed the socket. -/
def hangUpOnSubLoop : List HandlerEvent :=
  [.poll 0 [], .accept 7, .swapFunctors 0, .endBatch 0, .poll 1 [], .swapFunctors 1, .functor 1,
    advance 1, .returns 1, advance 1, .endBatch 1, .poll 1 [⟨0, false, true, false, false⟩],
    .dispatch 1, advance 1, advance 1, advance 1, advance 1, .poll 0 [], .swapFunctors 0,
    .functor 0, advance 0, .endBatch 0]

theorem queued_removal_outlives_handler : ∃ final,
    handlerMachine.Run HandlerRun.Spares (.start (.server 1)) hangUpOnSubLoop final ∧
      final.stack 1 = [.finishClose 0] ∧ final.isListed 0 = false ∧ final.OutlivesHandlers := by
  have observed : (handlerMachine.exec (.start (.server 1)) hangUpOnSubLoop).map
      (fun final => (final.stack 1, final.isListed 0)) = some ([.finishClose 0], false) := by
    decide +kernel
  have guarded : handlerMachine.Guarded HandlerRun.Spares (.start (.server 1))
      hangUpOnSubLoop := by decide +kernel
  obtain ⟨final, executed, seen⟩ := Option.map_eq_some_iff.mp observed
  have run := Machine.run_of_guarded executed guarded
  simp only [Prod.mk.injEq] at seen
  exact ⟨final, run, seen.1, seen.2, connections_outlive_handlers (.server 1) run⟩

/-- A server with one loop accepts a connection, and its peer hangs up. -/
def hangUpOnMainLoop : List HandlerEvent :=
  [.poll 0 [], .accept 7, advance 0, .returns 0, advance 0, advance 0, .swapFunctors 0,
    .endBatch 0, .poll 0 [⟨0, false, true, false, false⟩], .dispatch 0] ++
    List.replicate 8 (advance 0)

/-- The removal runs inside of the close callback, and `HandleClose` goes on without an
owner of its connection. -/
theorem inline_removal_leaves_no_owner : ¬ ∀ component events final,
    handlerMachine.AnyRun (.start component) events final → final.OutlivesHandlers := by
  intro outlives
  have observed : (handlerMachine.exec (.start (.server 0)) hangUpOnMainLoop).map
      (fun final => (final.stack 0, final.isOwned 0)) = some ([.finishClose 0], false) := by
    decide +kernel
  obtain ⟨final, executed, seen⟩ := Option.map_eq_some_iff.mp observed
  simp only [Prod.mk.injEq] at seen
  have onStack : .finishClose 0 ∈ final.stack 0 := seen.1 ▸ List.mem_cons_self
  have owned := outlives _ _ final (Machine.run_of_exec executed) 0 _ onStack rfl
  exact absurd (seen.2.symm.trans owned) Bool.false_ne_true

end TurboCore.Net
