import Mathlib
import TurboCore.Net.HandlerSites

/-!
# Steps of the handlers and calls of the user's

Each function of the machine keeps the invariant, given what the guard asks of it. The
removal that runs on another loop than its connection's needs nothing: its lambda and the
functor it queues keep the connection until the closing handler is done.
-/

namespace TurboCore.Net

open Foundation TcpServer

namespace HandlerRun

variable {run : HandlerRun} {loop : LoopId} {self : ConnId}

/-! ### Steps of the functions -/

section Frames

variable {frame : Frame} {rest frames : List Frame}

theorem Tended.known_of_top (tended : run.Tended) (top : run.stack loop = frame :: rest) :
    frame.conn < run.server.created :=
  (tended.frames loop frame (top ▸ List.mem_cons_self)).1

theorem Tended.home_of_top (tended : run.Tended) (top : run.stack loop = frame :: rest) :
    frame.home run.server = loop :=
  (tended.frames loop frame (top ▸ List.mem_cons_self)).2

theorem Tended.backed_of_top (tended : run.Tended) (top : run.stack loop = frame :: rest) :
    frame.Backed (run.stage loop).executed rest ∧ BackedStack (run.stage loop).executed rest := by
  have backed := tended.backed loop
  rw [top] at backed
  exact backed

theorem not_upholds_of_isHandler {server : TcpServer} (handler : frame.isHandler = true) :
    ¬ frame.Upholds server := by
  have calls : frame.isCallback = false := by
    cases frame <;> first | rfl | cases handler
  rintro (callback | ⟨_, closing⟩)
  · rw [calls] at callback
    cases callback
  · rw [closing] at handler
    cases handler

theorem Tended.goOn_handler (tended : run.Tended) (top : run.stack loop = frame :: rest)
    (handler : frame.isHandler = true)
    (placed : ∀ new ∈ frames,
      new.conn = frame.conn ∧ new.home run.server = run.server.loopOf frame.conn)
    (backed : BackedStack (run.stage loop).executed rest →
      BackedStack (run.stage loop).executed (frames ++ rest)) :
    (run.goOn loop frames).Tended := by
  refine tended.goOn top (fun new member => ?_) (fun _ _ _ => handler)
    (backed (tended.backed_of_top top).2) fun upholds => ?_
  · obtain ⟨conn, home⟩ := placed new member
    rw [Frame.home_of_isHandler handler |>.symm.trans (tended.home_of_top top)] at home
    exact ⟨conn, home⟩
  · exact absurd upholds (not_upholds_of_isHandler handler)

/-- A step of one of the connection's own functions. -/
theorem Tended.runFrame_handler (tended : run.Tended) (top : run.stack loop = frame :: rest)
    (handler : frame.isHandler = true) (read : ReadResult) (write : WriteResult) :
    (run.runFrame loop read write frame).Tended := by
  have known := tended.known_of_top top
  cases frame with
  | handleEvent ready =>
      simp only [runFrame]
      split_ifs <;> refine tended.goOn_handler top rfl (by simp [Frame.conn, Frame.home]) ?_ <;>
        simp [BackedStack, Frame.Backed]
  | closeAfterError who | handleError who | writeDone who =>
      refine tended.goOn_handler top rfl (by simp [Frame.conn, Frame.home]) ?_
      simp [BackedStack, Frame.Backed]
  | writeAfterRead ready =>
      simp only [runFrame]
      split_ifs <;> refine tended.goOn_handler top rfl (by simp [Frame.conn, Frame.home]) ?_ <;>
        simp [BackedStack, Frame.Backed]
  | handleRead who =>
      cases read <;> refine tended.goOn_handler top rfl (by simp [Frame.conn, Frame.home]) ?_ <;>
        simp [BackedStack, Frame.Backed]
  | handleWrite who =>
      have written := tended.attach known (.handleWrite write)
      simp only [runFrame]
      split_ifs <;> refine written.goOn_handler top rfl (by simp [Frame.conn, Frame.home]) ?_ <;>
        simp [BackedStack, Frame.Backed]
  | handleClose who =>
      simp only [runFrame]
      split_ifs
      · exact tended.goOn_handler top rfl (by simp) id
      · refine (tended.attach known .beginHandleClose).goOn_handler top rfl
          (by simp [Frame.conn, Frame.home]) ?_
        simp [BackedStack, Frame.Backed]
  | finishClose who =>
      exact (tended.attach known .closeSocket).goOn_handler top rfl (by simp) id
  | callback | release | handleRemoveConnection | scheduleReconnect | functor => cases handler

/-- The topmost function ends, and kept nothing. -/
theorem Tended.goOn_nil (tended : run.Tended) (top : run.stack loop = frame :: rest)
    (spared : frame.Upholds run.server → run.Attended frame.conn →
      (run.goOn loop []).Kept frame.conn) : (run.goOn loop []).Tended :=
  tended.goOn top (by simp) (by simp) (tended.backed_of_top top).2 spared

theorem Tended.release (tended : run.Tended) (top : run.stack loop = .release self :: rest) :
    (run.goOn loop []).Tended := by
  refine tended.goOn_nil top fun upholds => ?_
  rcases upholds with callback | ⟨_, closing⟩
  · cases callback
  · cases closing

theorem Tended.scheduleReconnect (tended : run.Tended)
    (top : run.stack loop = .scheduleReconnect self :: rest) :
    (run.scheduleReconnect loop).Tended := by
  have ended : (run.goOn loop []).Tended := by
    refine tended.goOn_nil top fun upholds => ?_
    rcases upholds with callback | ⟨_, closing⟩
    · cases callback
    · cases closing
  refine ended.withClient Option.isSome_map ?_
  have kept : ∀ side : ClientSide, (if side.autoReconnect ∧ side.started then
      { side with connecting := false, timers := side.timers + 1 }
      else { side with started := false }).connection = side.connection := by
    intro side
    split <;> rfl
  simp only [goOn_client, Option.bind_map]
  simp [kept]

/-- The close callback of the server's connections. -/
theorem Tended.handleRemoveConnection_server (tended : run.Tended)
    (top : run.stack loop = .handleRemoveConnection self :: rest) (server : run.client = none) :
    (run.handleRemoveConnection loop self).Tended := by
  have known : self < run.server.created := tended.known_of_top top
  have home : run.server.loopOf self = loop := tended.home_of_top top
  have counted := @Tended.countClose _ self tended
  simp only [HandlerRun.handleRemoveConnection, server]
  split
  · next atMain =>
      refine counted.goOn top ?_ (by simp [Frame.isHandler]) ?_ ?_
      · simp [Frame.conn, Frame.home, ServerFunctor.conn, homeOf, home, ← atMain]
      · exact ⟨.inl List.mem_cons_self, trivial, (tended.backed_of_top top).2⟩
      · rintro (callback | ⟨away, _⟩)
        · cases callback
        · exact absurd atMain (by simpa [Frame.conn] using away)
  · next away =>
      have placed : Placed (run.server.countClose self) 0 (.removeConnection self) := by
        exact ⟨known, rfl⟩
      refine (counted.queueInLoop placed).goOn_nil top fun _ _ => .inr (.inl (.inr ⟨?_, .inl ?_⟩))
      · simpa [Frame.conn, HandlerRun.queueInLoop] using away
      · simp [HandlerRun.queueInLoop, Frame.conn]

/-- What keeps the other connections stays when the topmost function goes on. -/
theorem KeptElsewhere.goOn (kept : run.KeptElsewhere self) (top : run.stack loop = frame :: rest)
    (different : frame.conn ≠ self) : (run.goOn loop frames).KeptElsewhere self := by
  have below : ∀ other ∈ run.stack loop, other.conn = self →
      other ∈ frames ++ (run.stack loop).tail := by
    intro other member conn
    rw [top] at member ⊢
    rcases List.mem_cons.mp member with rfl | later
    · exact absurd conn different
    · exact List.mem_append_right _ later
  rcases kept with copied | queued | removed | argued
  · exact .inl copied
  · exact .inr (.inl (queued.setStack fun other member conn _ _ => below other member conn))
  · exact .inr (.inr (.inl removed.setStack))
  · exact .inr (.inr (.inr (argued.setStack fun other member conn _ => below other member conn)))

theorem Sited.attended_of_goOn (sited : run.Sited) (top : run.stack loop = frame :: rest)
    (handlers : ∀ new ∈ frames, new.isHandler = false)
    (attended : (run.goOn loop frames).Attended self) : run.Attended self := by
  refine attended_of_setStack attended fun new member handler conn => ?_
  rcases List.mem_append.mp member with added | below
  · rw [handlers new added] at handler
    cases handler
  · rw [top, List.tail_cons] at below
    have there := sited.frames loop new (top ▸ List.mem_cons_of_mem frame below)
    rw [Frame.home_of_isHandler handler, conn] at there
    exact .inl ⟨new, there.2 ▸ top ▸ List.mem_cons_of_mem frame below, handler, conn⟩

/-- Another connection, or none, becomes the client's, and nothing attended depends on the
one before. -/
theorem Tended.replaceMember (tended : run.Tended) {before after : ClientSide}
    (client : run.client = some before)
    (known : ∀ self ∈ after.connection, self < run.server.created)
    (spared : ∀ other ∈ before.connection, run.Attended other → run.KeptElsewhere other) :
    ({ run with client := some after }).Tended := by
  refine tended.reheld ?_ (fun self held => ?_) fun self attended held => ?_
  · rw [client]
    rfl
  · rw [isHeld_iff] at held ⊢
    rcases held with listed | member | copied
    · exact .inl (.inl listed)
    · exact .inr (known self (isMember_iff.mp member))
    · exact .inl (.inr (.inr copied))
  · rw [isHeld_iff] at held ⊢
    rcases held with listed | member | copied
    · exact .inl (.inl listed)
    · rw [isMember_iff, client] at member
      rcases spared self member attended with copied | elsewhere
      · exact .inl (.inr (.inr copied))
      · exact .inr elsewhere
    · exact .inl (.inr (.inr copied))

/-- The close callback of the client's connections: the member is reset, and its close
callback called. -/
theorem Tended.handleRemoveConnection_client (tended : run.Tended)
    (top : run.stack loop = .handleRemoveConnection self :: rest) {side : ClientSide}
    (client : run.client = some side)
    (spared : ∀ other ∈ side.connection, other ≠ self → run.Attended other →
      run.KeptElsewhere other) : (run.handleRemoveConnection loop self).Tended := by
  have home : run.server.loopOf self = loop := tended.home_of_top top
  have counted := @Tended.countClose _ self tended
  obtain ⟨released, below⟩ := counted.backed_of_top top
  have called : ((run.withServer (run.server.countClose self)).goOn loop
      [.callback self .close, .scheduleReconnect self]).Tended := by
    refine counted.goOn top ?_ (by simp [Frame.isHandler]) ?_ ?_
    · simp [Frame.conn, Frame.home, home]
    · exact ⟨List.mem_cons_of_mem _ released, trivial, below⟩
    · intro _ _
      refine .inr (.inr (.inr ⟨.callback self .close, ?_, rfl, rfl⟩))
      simp [home, Frame.conn]
  simp only [HandlerRun.handleRemoveConnection, client]
  refine called.replaceMember client (by simp) fun other current attended => ?_
  by_cases mine : other = self
  · subst mine
    refine .inr (.inr (.inr ⟨.callback other .close, ?_, rfl, rfl⟩))
    simp [home]
  · have during := counted.attended_of_goOn top (by simp [Frame.isHandler]) attended
    have before : run.Attended other := (attended_of_loops (by rfl) (by simp)).mp during
    have kept : (run.withServer (run.server.countClose self)).KeptElsewhere other :=
      (spared other current mine before).of_loops (by rfl) (by simp)
        (fun _ => List.Subset.refl _) rfl
    exact kept.goOn top (Ne.symm mine)

/-- A client has the main loop only. -/
theorem Sited.client_of_away (sited : run.Sited) (known : self < run.server.created)
    (away : run.server.loopOf self ≠ 0) : run.client = none := by
  by_contra present
  have single := sited.single (Option.isSome_iff_ne_none.mpr present)
  have inRange := sited.home self known
  rw [single, Nat.lt_one_iff] at inRange
  exact away inRange

/-- The lambda that erases the table's entry. From another loop it erases the entry of its
connection, which its own frame keeps, and the functor queued next. -/
theorem Tended.removeInLoop (tended : run.Tended)
    (top : run.stack loop = .functor (.removeConnection self) :: rest)
    (spared : run.server.loopOf self = 0 →
      ∀ other ∈ run.server.connections.lookup (run.server.conn self).socketFd,
        run.Attended other → run.KeptElsewhere other) : (run.removeInLoop self).Tended := by
  have known : self < run.server.created := tended.known_of_top top
  obtain rfl : 0 = loop := tended.home_of_top top
  have erased : (run.withServer
      (run.server.eraseConnection (run.server.conn self).socketFd)).Tended := by
    refine tended.eraseConnection fun other found attended => ?_
    by_cases atMain : run.server.loopOf self = 0
    · exact spared atMain other found attended
    · have owns := tended.own (tended.client_of_away known atMain)
      obtain rfl := owns.own self known other found
      refine .inr (.inr (.inl ⟨atMain, ?_⟩))
      refine (tended.backed_of_top top).1.resolve_left fun below => atMain ?_
      exact (tended.frames 0 _ (top ▸ List.mem_cons_of_mem _ below)).2
  unfold HandlerRun.removeInLoop
  dsimp only
  split
  · next atMain =>
      refine erased.goOn top ?_ (by simp [Frame.isHandler]) ?_ ?_
      · simp [Frame.conn, Frame.home, ServerFunctor.conn, homeOf, atMain]
      · exact ⟨trivial, trivial, (erased.backed_of_top top).2⟩
      · rintro (callback | ⟨away, _⟩)
        · cases callback
        · exact absurd atMain away
  · next away =>
      have placed : Placed (run.server.eraseConnection (run.server.conn self).socketFd)
          (run.server.loopOf self) (.connectDestroyed self) :=
        ⟨known, rfl⟩
      refine (erased.queueInLoop placed).goOn_nil top fun _ _ => .inr (.inl (.inl ?_))
      refine ⟨.connectDestroyed self, ?_, by simp [ServerFunctor.owns, Frame.conn,
        ServerFunctor.conn]⟩
      simp [Frame.conn, ServerFunctor.conn]

theorem not_upholds_functor {server : TcpServer} {functor : ServerFunctor} :
    ¬ (Frame.functor functor).Upholds server := by
  rintro (callback | ⟨_, closing⟩)
  · cases callback
  · cases closing

theorem Tended.runFunctor (tended : run.Tended) {functor : ServerFunctor}
    (top : run.stack loop = .functor functor :: rest)
    (spared : functor = .removeConnection functor.conn → run.server.loopOf functor.conn = 0 →
      ∀ other ∈ run.server.connections.lookup (run.server.conn functor.conn).socketFd,
        run.Attended other → run.KeptElsewhere other) :
    (run.runFunctor loop functor).Tended := by
  have known : functor.conn < run.server.created := tended.known_of_top top
  have home : run.server.homeOf functor = loop := tended.home_of_top top
  cases functor with
  | removeConnection who => exact tended.removeInLoop top (spared rfl)
  | connectEstablished who =>
      refine (tended.attach known .connectEstablished).goOn top ?_ (by simp [Frame.isHandler]) ?_
        fun upholds => absurd upholds not_upholds_functor
      · have atLoop : run.server.loopOf who = loop := home
        simp [Frame.conn, Frame.home, ServerFunctor.conn, atLoop]
      · exact ⟨List.mem_cons_self, trivial, (tended.backed_of_top top).2⟩
  | connectDestroyed who =>
      exact (tended.attach known .connectDestroyed).goOn_nil top
        fun upholds => absurd upholds not_upholds_functor
  | sendInLoop who data =>
      exact (tended.attach known (.sendInLoop data)).goOn_nil top
        fun upholds => absurd upholds not_upholds_functor
  | shutdownInLoop who =>
      exact (tended.attach known .shutdownInLoop).goOn_nil top
        fun upholds => absurd upholds not_upholds_functor
  | forceCloseInLoop who =>
      simp only [HandlerRun.runFunctor]
      split
      · refine (tended.attach known .beginForceClose).goOn top ?_ (by simp [Frame.isHandler]) ?_
          fun upholds => absurd upholds not_upholds_functor
        · have atLoop : run.server.loopOf who = loop := home
          simp [Frame.conn, Frame.home, ServerFunctor.conn, atLoop]
        · exact ⟨List.mem_cons_self, trivial, (tended.backed_of_top top).2⟩
      · exact tended.goOn_nil top fun upholds => absurd upholds not_upholds_functor

/-- A call of the user's returns. -/
theorem Tended.returns (tended : run.Tended) {kind : CallbackKind}
    (top : run.stack loop = .callback self kind :: rest)
    (spared : run.Attended self → run.isHeld self = true ∨ run.Queued self ∨ run.Removed self ∨
      ∃ frame ∈ rest, frame.isCallback = true ∧ frame.conn = self) :
    (run.goOn loop []).Tended := by
  have home : run.server.loopOf self = loop := tended.home_of_top top
  refine tended.goOn_nil top fun _ attended => ?_
  rcases spared attended with held | queued | removed | ⟨frame, below, callback, conn⟩
  · exact .inl held
  · refine .inr (.inl (queued.setStack fun other member _ notCallback _ => ?_))
    rw [top] at member ⊢
    rcases List.mem_cons.mp member with rfl | below
    · cases notCallback
    · exact below
  · exact .inr (.inr (.inl removed.setStack))
  · refine .inr (.inr (.inr ⟨frame, ?_, callback, conn⟩))
    simp [Frame.conn, home, top, below]

end Frames

/-! ### Calls of the user's -/

theorem Tended.runInLoop (tended : run.Tended) (thread : Thread) {functor : ServerFunctor}
    (known : functor.conn < run.server.created)
    (home : run.server.homeOf functor = run.server.loopOf functor.conn)
    (other : functor ≠ .removeConnection functor.conn) : (run.runInLoop thread functor).Tended := by
  unfold HandlerRun.runInLoop
  dsimp only
  split
  · refine tended.call ?_ (by simp [Frame.isHandler]) ⟨?_, tended.backed _⟩
    · intro new member
      rw [List.mem_singleton.mp member]
      exact ⟨known, home⟩
    · cases functor with
      | removeConnection who => exact absurd rfl other
      | connectEstablished | connectDestroyed | sendInLoop | shutdownInLoop
      | forceCloseInLoop => trivial
  · exact tended.queueInLoop ⟨known, home⟩

theorem Tended.setDisconnecting (tended : run.Tended) (known : self < run.server.created) :
    (run.setDisconnecting self).Tended :=
  tended.attach known (.setState .disconnecting)

theorem Tended.send (tended : run.Tended) (known : self < run.server.created) (thread : Thread)
    (data : List UInt8) : (run.send self thread data).Tended := by
  unfold HandlerRun.send
  split
  · exact tended.runInLoop thread known rfl (by simp)
  · exact tended

theorem Tended.shutdown (tended : run.Tended) (known : self < run.server.created)
    (thread : Thread) : (run.shutdown self thread).Tended := by
  unfold HandlerRun.shutdown
  split
  · exact (tended.setDisconnecting known).runInLoop thread known rfl (by simp)
  · exact tended

theorem Tended.forceClose (tended : run.Tended) (known : self < run.server.created)
    (thread : Thread) : (run.forceClose self thread).Tended := by
  unfold HandlerRun.forceClose
  split
  · exact (tended.setDisconnecting known).runInLoop thread known rfl (by simp)
  · exact tended

/-- The user's code reaches connections that exist. -/
theorem Sited.known_of_mayUse (sited : run.Sited) {thread : Thread}
    (may : run.mayUse self thread = true) : self < run.server.created := by
  simp only [mayUse, decide_eq_true_eq] at may
  rcases may.2.2 with copied | member | ⟨loop, _, argument⟩
  · exact sited.held self (isHeld_iff.mpr (.inr (.inr copied)))
  · exact sited.held self (isHeld_iff.mpr (.inr (.inl member)))
  · unfold HandlerRun.argument at argument
    split at argument
    · next top =>
        cases argument
        exact (sited.frames loop _ (top ▸ List.mem_cons_self)).1
    · cases argument

/-- The program takes another copy of a connection's pointer. -/
theorem Tended.retain (tended : run.Tended) (known : self < run.server.created) :
    (run.setCopies self (run.copies self + 1)).Tended := by
  refine tended.reheld rfl (fun other held => ?_) fun other _ held => .inl ?_
  · by_cases same : other = self
    · exact .inr (same ▸ known)
    · rw [isHeld_iff] at held ⊢
      refine .inl (held.imp_right (Or.imp_right fun copied => ?_))
      simpa [same] using copied
  · rw [isHeld_iff] at held ⊢
    refine held.imp_right (Or.imp_right fun copied => ?_)
    by_cases same : other = self
    · simp [same]
    · simpa [same] using copied

/-- The program gives up a copy. -/
theorem Tended.drop (tended : run.Tended)
    (spared : run.copies self = 1 → run.Attended self →
      run.isListed self = true ∨ run.isMember self = true ∨ run.Queued self ∨
        run.Removed self ∨ run.Argued self) :
    (run.setCopies self (run.copies self - 1)).Tended := by
  refine tended.reheld rfl (fun other held => .inl ?_) fun other attended held => ?_
  · rw [isHeld_iff] at held ⊢
    refine held.imp_right (Or.imp_right fun copied => ?_)
    by_cases same : other = self
    · subst same
      simp only [Function.update_self] at copied
      omega
    · simpa [same] using copied
  · by_cases last : other = self ∧ run.copies self = 1
    · obtain ⟨rfl, single⟩ := last
      rcases spared single attended with listed | member | elsewhere
      · exact .inl (isHeld_iff.mpr (.inl (isListed_iff.mp listed)))
      · exact .inl (isHeld_iff.mpr (.inr (.inl member)))
      · exact .inr elsewhere
    · rw [isHeld_iff] at held ⊢
      refine .inl (held.imp_right (Or.imp_right fun copied => ?_))
      by_cases same : other = self
      · subst same
        have several : run.copies other ≠ 1 := fun single => last ⟨rfl, single⟩
        have positive : 0 < run.copies other := copied
        show 0 < Function.update run.copies other (run.copies other - 1) other
        rw [Function.update_self]
        omega
      · simpa [same] using copied

/-! ### New connections -/

/-- `ConnectEstablished` is called inline. -/
theorem Tended.establish (tended : run.Tended) (known : self < run.server.created)
    (home : run.server.loopOf self = loop) :
    (run.call loop [.functor (.connectEstablished self), .release self]).Tended := by
  refine tended.call (fun new member => ?_) (by simp [Frame.isHandler])
    ⟨trivial, trivial, tended.backed loop⟩
  rcases List.mem_cons.mp member with rfl | last
  · exact ⟨known, home⟩
  · rw [List.mem_singleton.mp last]
    exact ⟨known, home⟩

theorem Tended.handleNewConnection (tended : run.Tended) (server : run.client = none) {fd : Nat}
    (free : run.server.isFree fd = true)
    (spared : ∀ other ∈ run.server.connections.lookup (fd : SocketType), run.Attended other →
      run.KeptElsewhere other) : (run.handleNewConnection fd).Tended := by
  have added := tended.addConnection server free spared
  have known : run.server.created < (run.server.addConnection fd).created := Nat.lt_succ_self _
  have home : (run.server.addConnection fd).loopOf run.server.created = run.server.nextLoop := by
    simp
  unfold HandlerRun.handleNewConnection
  dsimp only
  split
  · next atMain => exact added.establish known (home.trans atMain)
  · exact added.queueInLoop ⟨known, home⟩

theorem Tended.setClient (tended : run.Tended) {before after : ClientSide}
    (client : run.client = some before) (same : after.connection = before.connection) :
    ({ run with client := some after }).Tended :=
  tended.withClient (by simp [client]) (by simp [client, same])

theorem Tended.disconnect (tended : run.Tended) {side : ClientSide} (client : run.client = some side)
    (thread : Thread) : (run.disconnect side thread).Tended := by
  have stopped := @Tended.setClient _ tended side
    { side with autoReconnect := false, started := false } client rfl
  unfold HandlerRun.disconnect
  dsimp only
  split
  · exact stopped
  · next self connection =>
      exact stopped.shutdown (tended.known_of_client client connection) thread

/-- `HandleConnect` constructs a connection and replaces `m_connection`. -/
theorem Tended.connect (tended : run.Tended) {before side : ClientSide} {fd : Nat}
    {result : ConnectResult} (client : run.client = some before)
    (same : side.connection = before.connection)
    (spared : side.started = false → result ≠ .succeeded → ∀ other ∈ before.connection,
      run.Attended other → run.KeptElsewhere other) : (run.connect side fd result).Tended := by
  have unsuccessful : ¬ Socket.connect (if result = .noSocket then invalidSocket else fd) result →
      result ≠ .succeeded := by
    rintro refused rfl
    simp [Socket.connect, ofNat_ne_invalidSocket] at refused
  unfold HandlerRun.connect
  generalize (if result = .noSocket then invalidSocket else (fd : SocketType)) = socketFd
    at unsuccessful ⊢
  dsimp only
  split
  · exact tended.setClient client same
  · next unstarted =>
    split
    · exact tended.setClient client same
    · next refused =>
        have extended : Extends run.server (run.construct socketFd).server :=
          .of_fresh rfl rfl rfl rfl
        have known : run.server.created < (run.construct socketFd).server.created :=
          Nat.lt_succ_self _
        have replaced : ({ run.construct socketFd with
            client := some { side with started := true, connecting := false,
                                       connection := some run.server.created } }).Tended := by
          refine (tended.construct (by simp [client]) socketFd).replaceMember client ?_ ?_
          · intro self member
            rw [← Option.some.inj member]
            exact known
          · intro other current attended
            have loopOf := extended.loopOf other (tended.known_of_client client current)
            have attendedBefore := (attended_of_loops (by rfl) loopOf).mp attended
            exact (spared (by simpa using unstarted) (unsuccessful refused) other current
              attendedBefore).of_loops (by rfl) loopOf (fun _ => List.Subset.refl _) rfl
        have entries : (run.construct socketFd).server.entry =
          Function.update run.server.entry run.server.created _ := rfl
        have home : (run.construct socketFd).server.loopOf run.server.created = 0 := by
          rw [TcpServer.loopOf, entries, Function.update_self]
        exact replaced.establish known home

/-- The reconnect timer runs while no connection of the client's is attended. -/
theorem Tended.doReconnect (tended : run.Tended) {side : ClientSide} {fd : Nat}
    {result : ConnectResult} (client : run.client = some side) (free : run.isFree 0 = true)
    (polling : run.stage 0 = .polling) : (run.doReconnect side fd result).Tended := by
  have unattended : ∀ self, self < run.server.created → ¬ run.Attended self := by
    intro self known attended
    have inRange := tended.home self known
    rw [tended.single (by simp [client]), Nat.lt_one_iff] at inRange
    rw [Attended, inRange, stack_of_isFree free, polling] at attended
    rcases attended with ⟨_, member, _⟩ | ⟨_, member, _⟩
    · cases member
    · cases member
  unfold HandlerRun.doReconnect
  dsimp only
  split
  · refine tended.connect client rfl fun _ _ other current attended => ?_
    exact absurd attended (unattended other (tended.known_of_client client current))
  · exact tended.setClient client rfl

/-! ### The destructor of the server or the client -/

/-- The destructor and the flags of the loops keep nothing. -/
theorem Tended.withTeardown (tended : run.Tended) (teardown : Teardown) (quits : LoopId → Bool) :
    ({ run with teardown, quits }).Tended where
  home := tended.home
  frames := tended.frames
  active := tended.active
  lambdas := tended.lambdas
  backed := tended.backed
  held := tended.held
  single := tended.single
  pollers := tended.pollers
  own := tended.own
  kept := tended.kept

theorem Sited.known_of_isOwned (sited : run.Sited) (owned : run.isOwned self = true) :
    self < run.server.created := by
  simp only [isOwned, decide_eq_true_eq] at owned
  rcases owned with held | ⟨other, _, ⟨functor, member, owns⟩ | released⟩
  · exact sited.held self held
  · have known := (sited.lambdas other functor member).1
    cases functor with
    | connectEstablished who | removeConnection who | connectDestroyed who =>
        obtain rfl : who = self := by simpa [ServerFunctor.owns] using owns
        exact known
    | sendInLoop | shutdownInLoop | forceCloseInLoop => cases owns
  · exact (sited.frames other _ released).1

theorem Tended.closeNext (tended : run.Tended) (known : self < run.server.created)
    (remaining : List ConnId) : (run.closeNext self remaining).Tended := by
  have closing := tended.withTeardown (.closing remaining) run.quits
  unfold HandlerRun.closeNext
  dsimp only
  split
  · next inline =>
      have copied : ({ run with teardown := .closing remaining }.call 0 [.release self]).Tended := by
        refine closing.call (fun new member => ?_) (by simp [Frame.isHandler])
          ⟨trivial, closing.backed 0⟩
        rw [List.mem_singleton.mp member]
        exact ⟨known, inline.2⟩
      exact copied.forceClose known (some 0)
  · exact closing.forceClose known (some 0)

/-- The threads of the sub loops are joined, so only connections of the main loop can be
attended when the table goes. -/
theorem Sited.atMain_of_attended (sited : run.Sited) (joined : run.areJoined = true)
    (known : self < run.server.created) (attended : run.Attended self) :
    run.server.loopOf self = 0 := by
  simp only [areJoined, decide_eq_true_eq] at joined
  by_contra away
  obtain ⟨stopped, empty⟩ := joined _ (sited.home self known) (Nat.pos_of_ne_zero away)
  rw [Attended, stopped, empty] at attended
  rcases attended with ⟨_, member, _⟩ | ⟨_, member, _⟩
  · cases member
  · cases member

theorem isHeld_finishDestructor :
    run.finishDestructor.isHeld self = true ↔ 0 < run.copies self := by
  rw [isHeld_iff, isMember_iff]
  constructor
  · rintro (⟨fd, found⟩ | member | copied)
    · cases found
    · cases client : run.client <;> simp [finishDestructor, client] at member
    · exact copied
  · exact fun copied => .inr (.inr copied)

theorem Sited.finishDestructor (sited : run.Sited) : run.finishDestructor.Sited where
  home := sited.home
  frames := sited.frames
  active := sited.active
  lambdas loop functor member := by
    refine sited.lambdas loop functor ?_
    have pending : run.finishDestructor.server.pending loop ⊆ run.server.pending loop := by
      intro queued inside
      simp only [HandlerRun.finishDestructor] at inside
      split at inside
      · next main => rw [main]; exact inside
      · cases inside
    simp only [HandlerRun.lambdas, List.append_assoc, List.mem_append] at member ⊢
    exact member.imp_left (@pending _)
  backed := sited.backed
  held self held := by
    have copied := isHeld_finishDestructor.mp held
    exact sited.held self (isHeld_iff.mpr (.inr (.inr copied)))
  single present := by
    refine sited.single ?_
    rw [HandlerRun.finishDestructor, Option.isSome_map] at present
    exact present

theorem Tended.finishDestructor (tended : run.Tended) (joined : run.areJoined = true)
    (spared : (∀ slot ∈ run.server.connections.entries, run.Attended slot.2 →
      run.KeptElsewhere slot.2) ∧ ∀ side ∈ run.client, ∀ other ∈ side.connection,
        run.Attended other → run.KeptElsewhere other) : run.finishDestructor.Tended := by
  refine ⟨tended.toSited.finishDestructor, ?_, ?_, fun self attended => ?_⟩
  · exact tended.pollers.of_conn_eq le_rfl (fun _ _ => rfl) (fun _ _ => rfl) rfl
  · intro server
    have before : run.client = none := by
      rw [HandlerRun.finishDestructor, Option.map_eq_none_iff] at server
      exact server
    refine ⟨(tended.own before).distinct.of_socketFd rfl fun _ _ => rfl, ?_, rfl, ?_⟩
    · intro self known other found
      cases found
    · intro open_
      cases open_
  · have before : run.Attended self := attended
    have atMain := tended.atMain_of_attended joined (tended.known_of_attended before) before
    have kept : run.KeptElsewhere self := by
      rcases tended.kept self before with held | elsewhere
      · rcases isHeld_iff.mp held with ⟨fd, found⟩ | member | copied
        · exact spared.1 ⟨fd, self⟩ (AList.mem_lookup_iff.mp found) before
        · obtain ⟨side, client, current⟩ := Option.bind_eq_some_iff.mp (isMember_iff.mp member)
          exact spared.2 side client self current before
        · exact .inl copied
      · exact .inr elsewhere
    rcases kept with copied | (⟨functor, pending, owns⟩ | ⟨away, _⟩) | ⟨away, _⟩ | argued
    · exact .inl (isHeld_finishDestructor.mpr copied)
    · have untouched : functor ∈ (fun loop => if loop = 0 then run.server.pending 0 else [])
          (run.server.loopOf self) := by
        rw [atMain] at pending ⊢
        exact pending
      exact .inr (.inl (.inl ⟨functor, untouched, owns⟩))
    · exact absurd atMain away
    · exact absurd atMain away
    · exact .inr (.inr (.inr argued))

end HandlerRun

end TurboCore.Net
