import Mathlib
import TurboCore.Net.ConnectionOwners

/-!
# Where handlers, lambdas and pointers stand

Every frame runs on the loop of its connection, but for the lambda that erases the table's
entry, which runs on the main loop. The pointer of a call of the user's, and of the close
callback, is a copy of one further down the stack, or of the lambda that runs. Every
primitive change of the machine keeps this, and the keepers of the attended connections,
given what it may take away.
-/

namespace TurboCore.Net

open Foundation TcpServer

theorem TcpServer.nextLoop_lt (server : TcpServer) : server.nextLoop < server.threadNum + 1 := by
  unfold nextLoop
  split
  · exact Nat.succ_pos _
  · next several => exact Nat.succ_lt_succ (Nat.mod_lt _ (Nat.pos_of_ne_zero several))

namespace Frame

/-- The loop whose thread has the frame on its stack. -/
def home (server : TcpServer) : Frame → LoopId
  | functor lambda => server.homeOf lambda
  | frame => server.loopOf frame.conn

theorem home_of_isHandler {server : TcpServer} {frame : Frame} (handler : frame.isHandler = true) :
    frame.home server = server.loopOf frame.conn := by
  cases frame <;> first | rfl | cases handler

/-- What the pointer of the frame was copied from is below it, or among the functors of the
batch that ran. -/
def Backed (executed : List ServerFunctor) (rest : List Frame) : Frame → Prop
  | callback self _ | handleRemoveConnection self => .release self ∈ rest
  | functor (.removeConnection self) =>
      .release self ∈ rest ∨ .removeConnection self ∈ executed
  | _ => True

theorem Backed.mono {executed more : List ServerFunctor} {rest longer : List Frame} {frame : Frame}
    (backed : frame.Backed executed rest) (executedSubset : executed ⊆ more)
    (restSubset : rest ⊆ longer) : frame.Backed more longer := by
  cases frame with
  | callback self kind => exact restSubset backed
  | handleRemoveConnection self => exact restSubset backed
  | functor lambda =>
      cases lambda with
      | removeConnection self => exact backed.imp (@restSubset _) (@executedSubset _)
      | connectEstablished | connectDestroyed | sendInLoop | shutdownInLoop
      | forceCloseInLoop => trivial
  | handleEvent | closeAfterError | writeAfterRead | handleRead | handleWrite | writeDone
  | handleError | handleClose | finishClose | release | scheduleReconnect => trivial

/-- The frame is one of those that keep an attended connection. -/
def Upholds (server : TcpServer) (frame : Frame) : Prop :=
  frame.isCallback = true ∨
    server.loopOf frame.conn ≠ 0 ∧ frame = handleRemoveConnection frame.conn

end Frame

/-- Every frame of the stack has its pointer below it. -/
def BackedStack (executed : List ServerFunctor) : List Frame → Prop
  | [] => True
  | frame :: rest => frame.Backed executed rest ∧ BackedStack executed rest

namespace BackedStack

variable {executed more : List ServerFunctor} {frames : List Frame} {frame : Frame}

theorem mono (backed : BackedStack executed frames) (subset : executed ⊆ more) :
    BackedStack more frames := by
  induction frames with
  | nil => trivial
  | cons frame rest inductionHypothesis =>
      exact ⟨backed.1.mono subset (List.Subset.refl _), inductionHypothesis backed.2⟩

theorem of_mem (backed : BackedStack executed frames) (member : frame ∈ frames) :
    frame.Backed executed frames := by
  induction frames with
  | nil => cases member
  | cons top rest inductionHypothesis =>
      have longer : rest ⊆ top :: rest := List.subset_cons_self top rest
      rcases List.mem_cons.mp member with same | below
      · rw [same]
        exact backed.1.mono (List.Subset.refl _) longer
      · exact (inductionHypothesis backed.2 below).mono (List.Subset.refl _) longer

end BackedStack

namespace HandlerRun

/-- A lambda in its queue, about a connection that exists. -/
def Placed (server : TcpServer) (loop : LoopId) (functor : ServerFunctor) : Prop :=
  functor.conn < server.created ∧ server.homeOf functor = loop

/-- Everything stands on the loop it belongs to, and is about a connection that exists. -/
structure Sited (run : HandlerRun) : Prop where
  home : ∀ self, self < run.server.created →
    run.server.loopOf self < run.server.threadNum + 1
  frames : ∀ loop, ∀ frame ∈ run.stack loop,
    frame.conn < run.server.created ∧ frame.home run.server = loop
  active : ∀ loop, ∀ ready ∈ (run.stage loop).active,
    ready.conn < run.server.created ∧ run.server.loopOf ready.conn = loop
  lambdas : ∀ loop, ∀ functor ∈ run.lambdas loop, Placed run.server loop functor
  backed : ∀ loop, BackedStack (run.stage loop).executed (run.stack loop)
  held : ∀ self, run.isHeld self = true → self < run.server.created
  single : run.client.isSome = true → run.server.threadNum = 0

/-- The invariant of the machine. -/
structure Tended (run : HandlerRun) : Prop extends Sited run where
  pollers : SoundPollers run.server
  own : run.client = none → OwnEntries run.server true
  kept : ∀ self, run.Attended self → run.Kept self

/-- What `Poll` may report has an owner. -/
def PolledOwned (run : HandlerRun) : Prop :=
  ∀ loop fd self, (run.server.pollers loop).lookup fd = some self → run.isOwned self = true

variable {run : HandlerRun} {loop : LoopId} {self : ConnId}

theorem stack_of_isFree (free : run.isFree loop = true) : run.stack loop = [] := by
  simp only [isFree, decide_eq_true_eq] at free
  exact free.2.1

theorem isListed_iff :
    run.isListed self = true ↔ ∃ fd, run.server.connections.lookup fd = some self := by
  simp only [isListed, decide_eq_true_eq]
  constructor
  · rintro ⟨⟨fd, other⟩, member, same⟩
    subst same
    exact ⟨fd, AList.mem_lookup_iff.mpr member⟩
  · rintro ⟨fd, found⟩
    exact ⟨⟨fd, self⟩, AList.mem_lookup_iff.mp found, rfl⟩

theorem Sited.known_of_attended (sited : run.Sited) {other : LoopId}
    (attended : (∃ frame ∈ run.stack other, frame.isHandler = true ∧ frame.conn = self) ∨
      ∃ ready ∈ (run.stage other).active, ready.conn = self) : self < run.server.created := by
  rcases attended with ⟨frame, member, _, rfl⟩ | ⟨ready, member, rfl⟩
  · exact (sited.frames _ frame member).1
  · exact (sited.active _ ready member).1

/-- Whoever keeps an attended connection owns it. -/
theorem Sited.isOwned_of_kept (sited : run.Sited) (known : self < run.server.created)
    (kept : run.Kept self) : run.isOwned self = true := by
  have owned : ∀ loop, loop < run.server.threadNum + 1 →
      ((∃ functor ∈ run.lambdas loop, functor.owns self = true) ∨
        .release self ∈ run.stack loop) → run.isOwned self = true := by
    intro loop inRange owner
    simp only [isOwned, decide_eq_true_eq]
    exact .inr ⟨loop, inRange, owner⟩
  have atHome := sited.home self known
  have removal : .removeConnection self ∈ run.lambdas 0 → run.isOwned self = true := by
    intro member
    exact owned 0 (Nat.succ_pos _) (.inl ⟨_, member, by simp [ServerFunctor.owns]⟩)
  rcases kept with held | (⟨functor, pending, owns⟩ | ⟨_, waiting | closing⟩) | ⟨_, ran⟩ |
    ⟨frame, member, callback, rfl⟩
  · simp only [isOwned, decide_eq_true_eq]
    exact .inl held
  · exact owned _ atHome (.inl ⟨functor, by simp [HandlerRun.lambdas, pending], owns⟩)
  · exact removal (List.mem_append_left _ waiting)
  · exact owned _ atHome (.inr ((sited.backed _).of_mem closing))
  · exact removal (List.mem_append_right _ ran)
  · have below := (sited.backed _).of_mem member
    cases frame with
    | callback self kind => exact owned _ atHome (.inr below)
    | handleEvent | closeAfterError | writeAfterRead | handleRead | handleWrite | writeDone
    | handleError | handleClose | finishClose | release | handleRemoveConnection
    | scheduleReconnect | functor => cases callback

theorem Tended.outlivesHandlers (tended : run.Tended) : run.OutlivesHandlers := by
  intro loop frame member handler
  obtain ⟨known, home⟩ := tended.frames loop frame member
  rw [Frame.home_of_isHandler handler] at home
  refine tended.isOwned_of_kept known (tended.kept _ (.inl ⟨frame, ?_, handler, rfl⟩))
  rw [home]
  exact member

/-! ### Changes that leave the threads alone -/

section SameLoops

variable {next : HandlerRun} (loops : next.loops = run.loops)

include loops

theorem stack_of_loops (loop : LoopId) : next.stack loop = run.stack loop := by
  rw [stack, stack, loops]

theorem stage_of_loops (loop : LoopId) : next.stage loop = run.stage loop := by
  rw [stage, stage, loops]

theorem attended_of_loops (loopOf : next.server.loopOf self = run.server.loopOf self) :
    next.Attended self ↔ run.Attended self := by
  rw [Attended, Attended, loopOf, stack_of_loops loops, stage_of_loops loops]

theorem argued_of_loops (loopOf : next.server.loopOf self = run.server.loopOf self) :
    next.Argued self ↔ run.Argued self := by
  rw [Argued, Argued, loopOf, stack_of_loops loops]

theorem Queued.of_loops (queued : run.Queued self)
    (loopOf : next.server.loopOf self = run.server.loopOf self)
    (pending : ∀ loop, run.server.pending loop ⊆ next.server.pending loop) :
    next.Queued self := by
  rw [Queued, loopOf, stack_of_loops loops, stage_of_loops loops]
  refine queued.imp ?_ (And.imp_right (Or.imp_left fun waiting => ?_))
  · rintro ⟨functor, member, owns⟩
    exact ⟨functor, pending _ member, owns⟩
  · exact (List.mem_append.mp waiting).elim
      (fun queued => List.mem_append_left _ (pending 0 queued)) (List.mem_append_right _)

theorem removed_of_loops (loopOf : next.server.loopOf self = run.server.loopOf self) :
    next.Removed self ↔ run.Removed self := by
  rw [Removed, Removed, loopOf, stage_of_loops loops]

/-- What keeps a connection apart from its holders. -/
theorem kept_of_loops
    (kept : run.Queued self ∨ run.Removed self ∨ run.Argued self)
    (loopOf : next.server.loopOf self = run.server.loopOf self)
    (pending : ∀ loop, run.server.pending loop ⊆ next.server.pending loop) :
    next.Queued self ∨ next.Removed self ∨ next.Argued self :=
  kept.imp (fun queued => queued.of_loops loops loopOf pending)
    (Or.imp (removed_of_loops loops loopOf).mpr (argued_of_loops loops loopOf).mpr)

theorem KeptElsewhere.of_loops (kept : run.KeptElsewhere self)
    (loopOf : next.server.loopOf self = run.server.loopOf self)
    (pending : ∀ loop, run.server.pending loop ⊆ next.server.pending loop)
    (copies : next.copies = run.copies) : next.KeptElsewhere self := by
  rcases kept with copied | elsewhere
  · exact .inl (copies ▸ copied)
  · exact .inr (kept_of_loops loops elsewhere loopOf pending)

end SameLoops

/-- Connections stay on their loops, and queues only grow. -/
structure Extends (before after : TcpServer) : Prop where
  threadNum : after.threadNum = before.threadNum
  created : before.created ≤ after.created
  loopOf : ∀ self, self < before.created → after.loopOf self = before.loopOf self
  pending : ∀ loop, before.pending loop ⊆ after.pending loop

namespace Extends

variable {before after server : TcpServer}

theorem of_entry {entry : ServerConnection} (loop : entry.loop = server.loopOf self)
    (threadNum : after.threadNum = server.threadNum) (created : after.created = server.created)
    (entries : ∀ other, after.entry other = Function.update server.entry self entry other)
    (pending : after.pending = server.pending) : Extends server after where
  threadNum := threadNum
  created := created.ge
  loopOf other _ := by
    rw [TcpServer.loopOf, entries]
    exact server.loopOf_withEntry_of_loop self other loop
  pending loop := by rw [pending]; exact List.Subset.refl _

theorem setAttached (attached : Attached) : Extends server (server.setAttached self attached) := by
  refine of_entry ?_ rfl rfl (setAttached_entry server self attached) rfl
  rfl

theorem countClose : Extends server (server.countClose self) := by
  refine of_entry ?_ rfl rfl (countClose_entry server self) rfl
  rfl

theorem of_eq (threadNum : after.threadNum = before.threadNum)
    (created : after.created = before.created) (entries : after.entry = before.entry)
    (pending : after.pending = before.pending) : Extends before after where
  threadNum := threadNum
  created := created.ge
  loopOf _ _ := by rw [TcpServer.loopOf, entries, TcpServer.loopOf]
  pending loop := by rw [pending]; exact List.Subset.refl _

/-- A new connection gets the next entry. -/
theorem of_fresh {entry : ServerConnection} (threadNum : after.threadNum = server.threadNum)
    (created : after.created = server.created + 1)
    (entries : after.entry = Function.update server.entry server.created entry)
    (pending : after.pending = server.pending) : Extends server after where
  threadNum := threadNum
  created := created ▸ Nat.le_succ _
  loopOf other known := by
    rw [TcpServer.loopOf, TcpServer.loopOf, entries, Function.update_of_ne known.ne]
  pending loop := by rw [pending]; exact List.Subset.refl _

theorem queueInLoop (loop : LoopId) (functor : ServerFunctor) :
    Extends server (server.queueInLoop loop functor) where
  threadNum := rfl
  created := Nat.le_refl _
  loopOf _ _ := rfl
  pending other := by
    rw [queueInLoop_pending, Function.update_apply]
    split
    · next same => rw [same]; exact List.subset_append_left _ _
    · exact List.Subset.refl _

theorem homeOf (extended : Extends before after) {functor : ServerFunctor}
    (known : functor.conn < before.created) : after.homeOf functor = before.homeOf functor := by
  cases functor with
  | removeConnection self => rfl
  | connectEstablished self | connectDestroyed self | sendInLoop self _ | shutdownInLoop self
  | forceCloseInLoop self => exact extended.loopOf self known

theorem frameHome (extended : Extends before after) {frame : Frame}
    (known : frame.conn < before.created) : frame.home after = frame.home before := by
  cases frame with
  | functor lambda => exact extended.homeOf known
  | handleEvent | closeAfterError | writeAfterRead | handleRead | handleWrite | writeDone
  | handleError | handleClose | finishClose | callback | release | handleRemoveConnection
  | scheduleReconnect => exact extended.loopOf _ known

end Extends

section Extended

variable {next : HandlerRun} (extended : Extends run.server next.server)
  (loops : next.loops = run.loops)

include extended loops

/-- What is new stands where it belongs. -/
theorem Sited.extend (sited : run.Sited)
    (client : next.client.isSome = true → run.client.isSome = true)
    (home : ∀ self, run.server.created ≤ self → self < next.server.created →
      next.server.loopOf self < next.server.threadNum + 1)
    (queued : ∀ loop, ∀ functor ∈ next.server.pending loop,
      functor ∈ run.server.pending loop ∨ Placed next.server loop functor)
    (held : ∀ self, next.isHeld self = true →
      run.isHeld self = true ∨ self < next.server.created) : next.Sited where
  home self known := by
    rcases lt_or_ge self run.server.created with earlier | fresh
    · rw [extended.loopOf self earlier, extended.threadNum]
      exact sited.home self earlier
    · exact home self fresh known
  frames loop frame member := by
    rw [stack_of_loops loops] at member
    obtain ⟨known, atLoop⟩ := sited.frames loop frame member
    exact ⟨known.trans_le extended.created, (extended.frameHome known).trans atLoop⟩
  active loop ready member := by
    rw [stage_of_loops loops] at member
    obtain ⟨known, atLoop⟩ := sited.active loop ready member
    exact ⟨known.trans_le extended.created, (extended.loopOf _ known).trans atLoop⟩
  lambdas loop functor member := by
    have earlier : functor ∈ run.lambdas loop → Placed next.server loop functor := by
      intro before
      obtain ⟨known, atLoop⟩ := sited.lambdas loop functor before
      exact ⟨known.trans_le extended.created, (extended.homeOf known).trans atLoop⟩
    simp only [HandlerRun.lambdas, stage_of_loops loops, List.mem_append] at member earlier
    rcases member with (pending | taken) | ran
    · exact (queued loop functor pending).elim (fun before => earlier (.inl (.inl before))) id
    · exact earlier (.inl (.inr taken))
    · exact earlier (.inr ran)
  backed loop := by
    rw [stack_of_loops loops, stage_of_loops loops]
    exact sited.backed loop
  held self held_ := (held self held_).elim
    (fun before => (sited.held self before).trans_le extended.created) id
  single present := extended.threadNum.trans (sited.single (client present))

/-- A connection that was attended keeps what kept it, or gets something else. -/
theorem Tended.kept_extend (tended : run.Tended)
    (spared : ∀ self, run.Attended self → run.isHeld self = true →
      next.isHeld self = true ∨ run.Queued self ∨ run.Removed self ∨ run.Argued self) :
    ∀ self, next.Attended self → next.Kept self := by
  intro self attended
  have known : self < run.server.created := by
    rw [Attended, stack_of_loops loops, stage_of_loops loops] at attended
    exact tended.known_of_attended attended
  have loopOf := extended.loopOf self known
  have before := (attended_of_loops loops loopOf).mp attended
  have elsewhere : run.Queued self ∨ run.Removed self ∨ run.Argued self → next.Kept self :=
    fun kept => .inr (kept_of_loops loops kept loopOf extended.pending)
  rcases tended.kept self before with held | other
  · exact (spared self before held).elim .inl elsewhere
  · exact elsewhere other

end Extended

theorem isHeld_withServer {server : TcpServer}
    (connections : server.connections = run.server.connections) (self : ConnId) :
    (run.withServer server).isHeld self = run.isHeld self := by
  rw [Bool.eq_iff_iff]
  simp only [isHeld, isListed, isMember, decide_eq_true_eq, withServer_server,
    withServer_client, withServer_copies, connections]

/-- The server changes, and neither the table nor the number of connections. -/
theorem Tended.withServer (tended : run.Tended) {server : TcpServer}
    (extended : Extends run.server server) (created : server.created = run.server.created)
    (connections : server.connections = run.server.connections)
    (queued : ∀ loop, ∀ functor ∈ server.pending loop,
      functor ∈ run.server.pending loop ∨ Placed server loop functor)
    (pollers : SoundPollers server) (own : run.client = none → OwnEntries server true) :
    (run.withServer server).Tended where
  toSited := by
    refine @Sited.extend _ (run.withServer server) extended rfl tended.toSited id ?_ queued ?_
    · intro self unknown known
      rw [withServer_server, created] at known
      exact absurd known unknown.not_gt
    · intro self held
      exact .inl (isHeld_withServer connections self ▸ held)
  pollers := pollers
  own := own
  kept := @Tended.kept_extend _ (run.withServer server) extended rfl tended fun self _ held =>
    .inl ((isHeld_withServer connections self).trans held)

theorem Tended.attach (tended : run.Tended) (known : self < run.server.created)
    {attached : Attached} (serves : Attached.Serves self (run.server.attached self) attached) :
    (run.attach self attached).Tended :=
  tended.withServer (.setAttached attached) rfl rfl (fun _ _ => .inl)
    (tended.pollers.setAttached known serves)
    fun server => (tended.own server).setAttached serves.socket (fun cleared => nomatch cleared)

theorem Tended.countClose (tended : run.Tended) :
    (run.withServer (run.server.countClose self)).Tended :=
  tended.withServer .countClose rfl rfl (fun _ _ => .inl)
    (tended.pollers.of_conn_eq le_rfl (fun _ _ => by simp) (fun _ _ => by simp) rfl)
    fun server => (tended.own server).of_conn_eq rfl (fun _ => by simp) rfl

theorem Tended.queueInLoop (tended : run.Tended) {functor : ServerFunctor}
    (placed : Placed run.server loop functor) : (run.queueInLoop loop functor).Tended := by
  refine tended.withServer (.queueInLoop loop functor) rfl rfl ?_
    (tended.pollers.of_conn_eq le_rfl (fun _ _ => rfl) (fun _ _ => rfl) rfl)
    fun server => (tended.own server).of_conn_eq rfl (fun _ => rfl) rfl
  intro other queued member
  rcases mem_pending_queueInLoop member with earlier | ⟨rfl, rfl⟩
  · exact .inl earlier
  · exact .inr placed

theorem isMember_iff :
    run.isMember self = true ↔ run.client.bind ClientSide.connection = some self := by
  simp [isMember, Option.bind_eq_some_iff]

theorem isHeld_iff : run.isHeld self = true ↔
    (∃ fd, run.server.connections.lookup fd = some self) ∨ run.isMember self = true ∨
      0 < run.copies self := by
  rw [← isListed_iff]
  simp only [isHeld, decide_eq_true_eq]

/-- Who is not in the slot of the number is held as before. -/
theorem isHeld_or_kept {next : HandlerRun} {fd : SocketType} (client : next.client = run.client)
    (copies : next.copies = run.copies)
    (others : ∀ key, key ≠ fd →
      next.server.connections.lookup key = run.server.connections.lookup key)
    (spared : run.server.connections.lookup fd = some self → run.KeptElsewhere self)
    (held : run.isHeld self = true) :
    next.isHeld self = true ∨ run.Queued self ∨ run.Removed self ∨ run.Argued self := by
  have member : next.isMember self = run.isMember self := by rw [isMember, isMember, client]
  rw [isHeld_iff, member, copies]
  rcases isHeld_iff.mp held with ⟨key, found⟩ | other
  · by_cases same : key = fd
    · rcases spared (same ▸ found) with copied | kept
      · exact .inl (.inr (.inr copied))
      · exact .inr kept
    · exact .inl (.inl ⟨key, (others key same).trans found⟩)
  · exact .inl (.inr other)

/-- The entry under a number is erased, and no attended connection depends on it. -/
theorem Tended.eraseConnection (tended : run.Tended) {fd : SocketType}
    (spared : ∀ other, run.server.connections.lookup fd = some other → run.Attended other →
      run.KeptElsewhere other) : (run.withServer (run.server.eraseConnection fd)).Tended := by
  have lookups := FiniteMap.lookup_erase run.server.connections fd
  have extended : Extends run.server (run.server.eraseConnection fd) := .of_eq rfl rfl rfl rfl
  constructor
  · refine @Sited.extend _ (run.withServer (run.server.eraseConnection fd)) extended rfl
      tended.toSited id ?_ (fun _ _ => .inl) fun self held => .inl ?_
    · intro self unknown known
      exact absurd known unknown.not_gt
    · rw [isHeld_iff] at held ⊢
      refine held.imp_left fun ⟨key, found⟩ => ⟨key, ?_⟩
      rw [withServer_server, eraseConnection_connections, lookups] at found
      split at found
      · cases found
      · exact found
  · exact tended.pollers.of_conn_eq le_rfl (fun _ _ => rfl) (fun _ _ => rfl) rfl
  · exact fun server => (tended.own server).erase fd (fun open_ => nomatch open_)
  · refine @Tended.kept_extend _ (run.withServer (run.server.eraseConnection fd)) extended rfl
      tended fun self attended => isHeld_or_kept rfl rfl (fun key different => ?_)
        fun found => spared self found attended
    rw [withServer_server, eraseConnection_connections, lookups, if_neg different]

/-- A new connection, in the place of the one that had the number. -/
theorem Tended.addConnection (tended : run.Tended) (server : run.client = none) {fd : Nat}
    (free : run.server.isFree fd = true)
    (spared : ∀ other, run.server.connections.lookup (fd : SocketType) = some other →
      run.Attended other → run.KeptElsewhere other) :
    (run.withServer (run.server.addConnection fd)).Tended := by
  have lookups : ∀ key, (run.server.addConnection fd).connections.lookup key =
      if key = (fd : SocketType) then some run.server.created
      else run.server.connections.lookup key :=
    fun key => FiniteMap.lookup_insert run.server.connections _ key _
  have extended : Extends run.server (run.server.addConnection fd) := .of_fresh rfl rfl rfl rfl
  constructor
  · refine @Sited.extend _ (run.withServer (run.server.addConnection fd)) extended rfl
      tended.toSited id ?_ (fun _ _ => .inl) fun self held => ?_
    · intro self unknown known
      have new : self = run.server.created := le_antisymm (Nat.lt_succ_iff.mp known) unknown
      rw [withServer_server, loopOf_addConnection, if_pos new]
      exact run.server.nextLoop_lt
    · rw [isHeld_iff] at held ⊢
      rcases held with ⟨key, found⟩ | other
      · rw [withServer_server, lookups] at found
        split at found
        · cases found
          exact .inr (Nat.lt_succ_self _)
        · exact .inl (.inl ⟨key, found⟩)
      · exact .inl (.inr other)
  · refine tended.pollers.of_conn_eq (Nat.le_succ _) (fun self known => ?_)
      (fun self known => ?_) rfl
    · rw [withServer_server, loopOf_addConnection, if_neg known.ne]
    · rw [withServer_server, conn_addConnection, if_neg known.ne]
  · exact fun _ => (tended.own server).addConnection free
  · refine @Tended.kept_extend _ (run.withServer (run.server.addConnection fd)) extended rfl
      tended fun self attended => isHeld_or_kept rfl rfl (fun key different => ?_)
        fun found => spared self found attended
    rw [withServer_server, lookups, if_neg different]

/-- The client's pointers and the program's change, and no attended connection depends on
what is given up. -/
theorem Tended.reheld (tended : run.Tended) {client : Option ClientSide} {copies : ConnId → Nat}
    (present : client.isSome = run.client.isSome)
    (held : ∀ self, ({ run with client, copies }).isHeld self = true →
      run.isHeld self = true ∨ self < run.server.created)
    (spared : ∀ self, run.Attended self → run.isHeld self = true →
      ({ run with client, copies }).isHeld self = true ∨ run.Queued self ∨ run.Removed self ∨
        run.Argued self) :
    ({ run with client, copies }).Tended where
  toSited := by
    refine @Sited.extend run { run with client, copies } (.of_eq rfl rfl rfl rfl) rfl
      tended.toSited (fun some_ => present ▸ some_) ?_ (fun _ _ => .inl) held
    intro self unknown known
    exact absurd known unknown.not_gt
  pollers := tended.pollers
  own none_ := by
    refine tended.own (Option.isSome_eq_false_iff.mp ?_ |> Option.isNone_iff_eq_none.mp)
    rw [← present, show client = none from none_, Option.isSome_none]
  kept := @Tended.kept_extend run { run with client, copies } (.of_eq rfl rfl rfl rfl) rfl tended
    spared

/-- The client's flags change, and its connection does not. -/
theorem Tended.withClient (tended : run.Tended) {client : Option ClientSide}
    (present : client.isSome = run.client.isSome)
    (same : client.bind ClientSide.connection = run.client.bind ClientSide.connection) :
    ({ run with client }).Tended := by
  have held : ∀ self, ({ run with client }).isHeld self = run.isHeld self := by
    intro self
    rw [Bool.eq_iff_iff, isHeld_iff, isHeld_iff, isMember_iff, isMember_iff, same]
  refine tended.reheld present (fun self before => .inl ?_) fun self _ before => .inl ?_
  · exact (held self).symm.trans before
  · exact (held self).trans before

/-- The client's connection exists. -/
theorem Sited.known_of_client (sited : run.Sited) {side : ClientSide}
    (client : run.client = some side) (current : self ∈ side.connection) :
    self < run.server.created := by
  refine sited.held self (isHeld_iff.mpr (.inr (.inl ?_)))
  rw [isMember_iff, client]
  exact current

/-- A connection of the client's is constructed, and held by nothing yet. -/
theorem Tended.construct (tended : run.Tended) (client : run.client.isSome = true)
    (socketFd : SocketType) : (run.construct socketFd).Tended := by
  have extended : Extends run.server (run.construct socketFd).server :=
    .of_fresh rfl rfl rfl rfl
  have entries : (run.construct socketFd).server.entry =
      Function.update run.server.entry run.server.created _ := rfl
  have sameHeld : ∀ self, (run.construct socketFd).isHeld self = run.isHeld self :=
    isHeld_withServer rfl
  constructor
  · refine @Sited.extend _ (run.construct socketFd) extended rfl tended.toSited id ?_
      (fun _ _ => .inl) fun self held => .inl (sameHeld self ▸ held)
    intro self unknown known
    have new : self = run.server.created := le_antisymm (Nat.lt_succ_iff.mp known) unknown
    rw [new, TcpServer.loopOf, entries, Function.update_self]
    exact Nat.succ_pos _
  · refine tended.pollers.of_conn_eq (Nat.le_succ _) (fun self known => ?_)
      (fun self known => ?_) rfl
    · exact extended.loopOf self known
    · rw [TcpServer.conn, TcpServer.conn, entries, Function.update_of_ne known.ne]
  · intro none_
    rw [show run.client = none from none_] at client
    cases client
  · exact @Tended.kept_extend _ (run.construct socketFd) extended rfl tended
      fun self _ held => .inl ((sameHeld self).trans held)

/-! ### Changes of a stack -/

section Stacks

variable {frames rest : List Frame} {frame : Frame}

theorem attended_of_setStack (attended : (run.setStack loop frames).Attended self)
    (handlers : ∀ new ∈ frames, new.isHandler = true → new.conn = self → run.Attended self) :
    run.Attended self := by
  simp only [HandlerRun.Attended, setStack_server, stack_setStack, stage_setStack] at attended
  rcases attended with ⟨new, member, handler, same⟩ | ready
  · split at member
    · exact handlers new member handler same
    · exact .inl ⟨new, member, handler, same⟩
  · exact .inr ready

theorem mem_setStack {other : LoopId} (member : frame ∈ run.stack other)
    (keeps : frame ∈ run.stack loop → frame ∈ frames) :
    frame ∈ (run.setStack loop frames).stack other := by
  rw [stack_setStack]
  split
  · next same => exact keeps (same ▸ member)
  · exact member

theorem Queued.setStack (queued : run.Queued self)
    (keeps : ∀ frame ∈ run.stack loop, frame.conn = self → frame.isCallback = false →
      frame.Upholds run.server → frame ∈ frames) : (run.setStack loop frames).Queued self := by
  rcases queued with atHome | ⟨away, waiting | closing⟩
  · exact .inl atHome
  · refine .inr ⟨away, .inl ?_⟩
    rw [stage_setStack]
    exact waiting
  · refine .inr ⟨away, .inr (mem_setStack closing fun member => ?_)⟩
    exact keeps _ member rfl rfl (.inr ⟨away, rfl⟩)

theorem Removed.setStack (removed : run.Removed self) :
    (run.setStack loop frames).Removed self := by
  rw [Removed, stage_setStack]
  exact removed

theorem Argued.setStack (argued : run.Argued self)
    (keeps : ∀ frame ∈ run.stack loop, frame.conn = self → frame.isCallback = true →
      frame ∈ frames) : (run.setStack loop frames).Argued self := by
  obtain ⟨frame, member, callback, same⟩ := argued
  exact ⟨frame, mem_setStack member fun here => keeps frame here same callback, callback, same⟩

theorem Kept.setStack (kept : run.Kept self)
    (keeps : ∀ frame ∈ run.stack loop, frame.conn = self → frame.Upholds run.server →
      frame ∈ frames) : (run.setStack loop frames).Kept self := by
  rcases kept with held | queued | removed | argued
  · exact .inl held
  · exact .inr (.inl (queued.setStack fun frame member same _ => keeps frame member same))
  · exact .inr (.inr (.inl removed.setStack))
  · exact .inr (.inr (.inr (argued.setStack fun frame member same callback =>
      keeps frame member same (.inl callback))))

theorem Sited.setStack (sited : run.Sited)
    (placed : ∀ new ∈ frames,
      new.conn < run.server.created ∧ new.home run.server = loop)
    (backed : BackedStack (run.stage loop).executed frames) :
    (run.setStack loop frames).Sited where
  home := sited.home
  frames other frame member := by
    rw [stack_setStack] at member
    split at member
    · next same => exact same ▸ placed frame member
    · exact sited.frames other frame member
  active other ready member := by
    rw [stage_setStack] at member
    exact sited.active other ready member
  lambdas other functor member := by
    simp only [HandlerRun.lambdas, stage_setStack] at member
    exact sited.lambdas other functor member
  backed other := by
    rw [stack_setStack, stage_setStack]
    split
    · next same => exact same ▸ backed
    · exact sited.backed other
  held := sited.held
  single := sited.single

/-- The topmost function goes on, with the same connection. -/
theorem Tended.goOn (tended : run.Tended) (top : run.stack loop = frame :: rest)
    (placed : ∀ new ∈ frames, new.conn = frame.conn ∧ new.home run.server = loop)
    (handlers : ∀ new ∈ frames, new.isHandler = true → frame.isHandler = true)
    (backed : BackedStack (run.stage loop).executed (frames ++ rest))
    (spared : frame.Upholds run.server → run.Attended frame.conn →
      (run.goOn loop frames).Kept frame.conn) : (run.goOn loop frames).Tended := by
  have same : run.goOn loop frames = run.setStack loop (frames ++ rest) := by
    rw [HandlerRun.goOn, top, List.tail_cons]
  have here := tended.frames loop frame (top ▸ List.mem_cons_self)
  rw [same] at spared ⊢
  refine ⟨tended.toSited.setStack ?_ backed, tended.pollers, tended.own, fun self attended => ?_⟩
  · intro new member
    rcases List.mem_append.mp member with added | below
    · obtain ⟨conn, home⟩ := placed new added
      exact ⟨conn ▸ here.1, home⟩
    · exact tended.frames loop new (top ▸ List.mem_cons_of_mem frame below)
  · have before : run.Attended self := by
      refine attended_of_setStack attended fun new member handler conn => ?_
      rcases List.mem_append.mp member with added | below
      · obtain ⟨sameConn, _⟩ := placed new added
        have topHandler := handlers new added handler
        rw [Frame.home_of_isHandler topHandler, ← sameConn, conn] at here
        exact .inl ⟨frame, here.2 ▸ top ▸ List.mem_cons_self, topHandler, sameConn ▸ conn⟩
      · have there := tended.frames loop new (top ▸ List.mem_cons_of_mem frame below)
        rw [Frame.home_of_isHandler handler, conn] at there
        exact .inl ⟨new, there.2 ▸ top ▸ List.mem_cons_of_mem frame below, handler, conn⟩
    by_cases upheld : frame.conn = self ∧ frame.Upholds run.server
    · obtain ⟨rfl, upholds⟩ := upheld
      exact spared upholds before
    · refine (tended.kept self before).setStack fun other member conn upholds => ?_
      rw [top] at member
      rcases List.mem_cons.mp member with rfl | below
      · exact absurd ⟨conn, upholds⟩ upheld
      · exact List.mem_append_right _ below

/-- The topmost function calls another one. -/
theorem Tended.call (tended : run.Tended)
    (placed : ∀ new ∈ frames, new.conn < run.server.created ∧ new.home run.server = loop)
    (handlers : ∀ new ∈ frames, new.isHandler = true → run.Attended new.conn)
    (backed : BackedStack (run.stage loop).executed (frames ++ run.stack loop)) :
    (run.call loop frames).Tended := by
  refine ⟨tended.toSited.setStack ?_ backed, tended.pollers, tended.own, fun self attended => ?_⟩
  · intro new member
    rcases List.mem_append.mp member with added | below
    · exact placed new added
    · exact tended.frames loop new below
  · have before : run.Attended self := by
      refine attended_of_setStack attended fun new member handler conn => ?_
      rcases List.mem_append.mp member with added | below
      · exact conn ▸ handlers new added handler
      · have there := tended.frames loop new below
        rw [Frame.home_of_isHandler handler, conn] at there
        exact .inl ⟨new, there.2 ▸ below, handler, conn⟩
    exact (tended.kept self before).setStack fun _ member _ _ => List.mem_append_right _ member

end Stacks

/-! ### Changes of a stage -/

section Stages

variable {stage : LoopStage}

theorem attended_of_setStage (attended : (run.setStage loop stage).Attended self)
    (ready : ∀ ready ∈ stage.active, ready.conn = self → run.Attended self) :
    run.Attended self := by
  simp only [HandlerRun.Attended, setStage_server, stack_setStage, stage_setStage] at attended
  rcases attended with frame | ⟨other, member, same⟩
  · exact .inl frame
  · split at member
    · exact ready other member same
    · exact .inr ⟨other, member, same⟩

theorem Queued.setStage (queued : run.Queued self)
    (keeps : run.server.loopOf self ≠ 0 → .removeConnection self ∈ (run.stage loop).functors →
      .removeConnection self ∈ stage.functors) : (run.setStage loop stage).Queued self := by
  rcases queued with atHome | ⟨away, waiting | closing⟩
  · exact .inl atHome
  · refine .inr ⟨away, .inl ?_⟩
    rw [stage_setStage]
    rcases List.mem_append.mp waiting with pending | taken
    · exact List.mem_append_left _ pending
    · refine List.mem_append_right _ ?_
      split
      · next same => exact keeps away (same ▸ taken)
      · exact taken
  · refine .inr ⟨away, .inr ?_⟩
    rw [stack_setStage]
    exact closing

theorem Argued.setStage (argued : run.Argued self) : (run.setStage loop stage).Argued self := by
  obtain ⟨frame, member, callback⟩ := argued
  refine ⟨frame, ?_, callback⟩
  rw [stack_setStage]
  exact member

/-- No removal is forgotten, whether it waits or ran. -/
theorem Kept.setStage (kept : run.Kept self)
    (keeps : run.server.loopOf self ≠ 0 →
      .removeConnection self ∈ (run.stage loop).functors ++ (run.stage loop).executed →
        .removeConnection self ∈ stage.functors ++ stage.executed) :
    (run.setStage loop stage).Kept self := by
  have staged : run.server.loopOf self ≠ 0 →
      .removeConnection self ∈ (run.stage 0).functors ++ (run.stage 0).executed →
        (run.setStage loop stage).Kept self := by
    intro away member
    have after : .removeConnection self ∈ ((run.setStage loop stage).stage 0).functors ++
        ((run.setStage loop stage).stage 0).executed := by
      rw [stage_setStage]
      split
      · next same => exact keeps away (same ▸ member)
      · exact member
    rcases List.mem_append.mp after with taken | ran
    · exact .inr (.inl (.inr ⟨away, .inl (List.mem_append_right _ taken)⟩))
    · exact .inr (.inr (.inl ⟨away, ran⟩))
  rcases kept with held | (atHome | ⟨away, waiting | closing⟩) | ⟨away, ran⟩ | argued
  · exact .inl held
  · exact .inr (.inl (.inl atHome))
  · rcases List.mem_append.mp waiting with pending | taken
    · exact .inr (.inl (.inr ⟨away, .inl (List.mem_append_left _ pending)⟩))
    · exact staged away (List.mem_append_left _ taken)
  · refine .inr (.inl (.inr ⟨away, .inr ?_⟩))
    rw [stack_setStage]
    exact closing
  · exact staged away (List.mem_append_right _ ran)
  · exact .inr (.inr (.inr argued.setStage))

theorem Sited.setStage (sited : run.Sited)
    (active : ∀ ready ∈ stage.active,
      ready.conn < run.server.created ∧ run.server.loopOf ready.conn = loop)
    (lambdas : stage.functors ++ stage.executed ⊆ run.lambdas loop)
    (backed : BackedStack stage.executed (run.stack loop)) : (run.setStage loop stage).Sited where
  home := sited.home
  frames other frame member := by
    rw [stack_setStage] at member
    exact sited.frames other frame member
  active other ready member := by
    rw [stage_setStage] at member
    split at member
    · next same => exact same ▸ active ready member
    · exact sited.active other ready member
  lambdas other functor member := by
    refine sited.lambdas other functor ?_
    simp only [HandlerRun.lambdas, setStage_server, stage_setStage, List.append_assoc,
      List.mem_append] at member ⊢
    rcases member with pending | staged
    · exact .inl pending
    · split at staged
      · next same =>
          have before := lambdas (List.mem_append.mpr staged)
          simp only [HandlerRun.lambdas, List.append_assoc, List.mem_append] at before
          exact same ▸ before
      · exact .inr staged
  backed other := by
    rw [stack_setStage, stage_setStage]
    split
    · next same => exact same ▸ backed
    · exact sited.backed other
  held := sited.held
  single := sited.single

/-- While its loop waits, an owner of a connection is one that keeps it. -/
theorem Sited.kept_of_isOwned (sited : run.Sited)
    (free : run.stack (run.server.loopOf self) = [])
    (polling : run.stage (run.server.loopOf self) = .polling)
    (owned : run.isOwned self = true) : run.Kept self := by
  simp only [isOwned, decide_eq_true_eq] at owned
  rcases owned with held | ⟨other, _, ⟨functor, member, owns⟩ | released⟩
  · exact .inl held
  · have home := (sited.lambdas other functor member).2
    have atHome : run.server.loopOf self = other → run.Kept self := by
      rintro rfl
      refine .inr (.inl (.inl ⟨functor, ?_, owns⟩))
      simpa [HandlerRun.lambdas, polling, LoopStage.functors, LoopStage.executed] using member
    cases functor with
    | connectEstablished who | connectDestroyed who =>
        obtain rfl : who = self := by simpa [ServerFunctor.owns] using owns
        exact atHome home
    | removeConnection who =>
        obtain rfl : who = self := by simpa [ServerFunctor.owns] using owns
        obtain rfl : 0 = other := home
        by_cases away : run.server.loopOf who = 0
        · exact atHome away
        · rcases List.mem_append.mp member with waiting | ran
          · exact .inr (.inl (.inr ⟨away, .inl waiting⟩))
          · exact .inr (.inr (.inl ⟨away, ran⟩))
    | sendInLoop | shutdownInLoop | forceCloseInLoop => cases owns
  · obtain rfl : run.server.loopOf self = other := (sited.frames other _ released).2
    rw [free] at released
    cases released

end Stages

end HandlerRun

end TurboCore.Net
