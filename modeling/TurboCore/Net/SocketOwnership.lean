import Mathlib
import TurboCore.Foundation.Execution
import TurboCore.Net.EpollPoller

/-!
# Who closes a descriptor

The `Socket` objects of a process beside the kernel's table of open descriptors. Numbers are
used again, so a second `close` of a number can hit a descriptor of somebody else, and a
number that no object holds any more is leaked. Construction, moves, `Close` and destruction
keep one owner for each descriptor as long as `Socket(SocketType)` is given descriptors that
no `Socket` holds.
-/

namespace TurboCore.Net

open Foundation

/-- The identity of a `Socket` object. -/
abbrev SocketId := Nat

structure Socket where
  sockfd : SocketType
deriving DecidableEq

namespace Socket

/-- `IsValid`. -/
def isValid (socket : Socket) : Bool := socket.sockfd != invalidSocket

/-- What `Close` leaves of the object. -/
def closed (socket : Socket) : Socket :=
  if socket.isValid then ⟨invalidSocket⟩ else socket

@[simp] theorem sockfd_closed (socket : Socket) : socket.closed.sockfd = invalidSocket := by
  unfold closed isValid
  split
  · rfl
  · next invalid => simpa using invalid

end Socket

/-- Who opened a descriptor: a descriptor is handed to the sockets by a constructor. -/
inductive Holder where
  | sockets
  | others
deriving DecidableEq

/-- The live objects, the open descriptors, and the calls of `close(2)` on a number that was
not open, or not theirs. -/
structure SocketProcess where
  sockets : SocketId → Option Socket
  descriptor : SocketType → Option Holder
  strayCloses : Nat

namespace SocketProcess

/-- No objects yet, and descriptors of others only. -/
def start (isOpen : SocketType → Bool) : SocketProcess where
  sockets := fun _ => none
  descriptor := fun fd => if isOpen fd ∧ fd ≠ invalidSocket then some .others else none
  strayCloses := 0

section Calls

variable (process : SocketProcess)

def setSocket (who : SocketId) (socket : Option Socket) : SocketProcess :=
  { process with sockets := Function.update process.sockets who socket }

/-- `SocketUtils::CloseSocket`. -/
def closeSocket (fd : SocketType) : SocketProcess :=
  { process with
    descriptor := Function.update process.descriptor fd none
    strayCloses :=
      if process.descriptor fd = some .sockets then process.strayCloses
      else process.strayCloses + 1 }

/-- `Socket(SocketType)`: what others opened is the object's from now on. -/
def adopt (who : SocketId) (fd : SocketType) : SocketProcess :=
  { process.setSocket who (some ⟨fd⟩) with
    descriptor :=
      if process.descriptor fd = some .others then
        Function.update process.descriptor fd (some .sockets)
      else process.descriptor }

/-- An object for a descriptor that the kernel has just handed out. -/
def construct (who : SocketId) (fd : SocketType) : SocketProcess :=
  { process.setSocket who (some ⟨fd⟩) with
    descriptor := Function.update process.descriptor fd (some .sockets) }

/-- `Socket()`, with the answer of `CreateTcpSocket`. -/
def create (who : SocketId) : Option SocketType → SocketProcess
  | none => process.setSocket who (some ⟨invalidSocket⟩)
  | some fd => process.construct who fd

/-- `CreateNonBlocking`: the object returned is the caller's. -/
def createNonBlocking (who : SocketId) : Option SocketType → SocketProcess
  | none => process.setSocket who (some ⟨invalidSocket⟩)
  | some fd => process.construct who fd

/-- `Accept` on a listening object; no object where it returns null. -/
def accept (listener : Socket) (who : SocketId) : Option SocketType → SocketProcess
  | none => process
  | some fd => if listener.isValid then process.construct who fd else process

/-- `Socket(Socket&&)`. -/
def moveConstruct (target : SocketId) (source : SocketId) (socket : Socket) : SocketProcess :=
  (process.setSocket target (some socket)).setSocket source (some ⟨invalidSocket⟩)

/-- `Close`. -/
def close (who : SocketId) (socket : Socket) : SocketProcess :=
  if socket.isValid then
    (process.closeSocket socket.sockfd).setSocket who (some socket.closed)
  else process

/-- `operator=(Socket&&)`: the target closes what it has, and the two objects swap. -/
def moveAssign (target : SocketId) (own : Socket) (source : SocketId) (other : Socket) :
    SocketProcess :=
  if target = source then process
  else ((process.close target own).setSocket target (some other)).setSocket source (some own.closed)

/-- `~Socket`. -/
def destroy (who : SocketId) (socket : Socket) : SocketProcess :=
  (process.close who socket).setSocket who none

end Calls

end SocketProcess

inductive SocketEvent where
  | adopt (who : SocketId) (fd : SocketType)
  | create (who : SocketId) (answer : Option SocketType)
  | createNonBlocking (who : SocketId) (answer : Option SocketType)
  | accept (listener who : SocketId) (answer : Option SocketType)
  | moveConstruct (target source : SocketId)
  | moveAssign (target source : SocketId)
  | close (who : SocketId)
  | destroy (who : SocketId)
  /-- the rest of the process opens a descriptor, or closes one of its own -/
  | openOther (fd : SocketType)
  | closeOther (fd : SocketType)
deriving DecidableEq

namespace SocketProcess

/-- The kernel hands out valid numbers that are not open. -/
def mayAnswer (process : SocketProcess) (answer : Option SocketType) : Bool :=
  match answer with
  | none => true
  | some fd => process.descriptor fd = none ∧ fd ≠ invalidSocket

/-- One call on an object, or one step of the rest of the process. -/
def step (process : SocketProcess) : SocketEvent → Option SocketProcess
  | .adopt who fd =>
      if process.sockets who = none then some (process.adopt who fd) else none
  | .create who answer =>
      if process.sockets who = none ∧ process.mayAnswer answer then
        some (process.create who answer)
      else none
  | .createNonBlocking who answer =>
      if process.sockets who = none ∧ process.mayAnswer answer then
        some (process.createNonBlocking who answer)
      else none
  | .accept listener who answer =>
      if process.sockets who = none ∧ process.mayAnswer answer then
        (process.sockets listener).map (process.accept · who answer)
      else none
  | .moveConstruct target source =>
      if process.sockets target = none then
        (process.sockets source).map (process.moveConstruct target source ·)
      else none
  | .moveAssign target source =>
      match process.sockets target, process.sockets source with
      | some own, some other => some (process.moveAssign target own source other)
      | _, _ => none
  | .close who => (process.sockets who).map (process.close who ·)
  | .destroy who => (process.sockets who).map (process.destroy who ·)
  | .openOther fd =>
      if process.mayAnswer (some fd) then
        some { process with descriptor := Function.update process.descriptor fd (some .others) }
      else none
  | .closeOther fd =>
      if process.descriptor fd = some .others then
        some { process with descriptor := Function.update process.descriptor fd none }
      else none

end SocketProcess

def socketMachine : Machine SocketProcess SocketEvent :=
  ⟨fun process event => process.step event⟩

namespace SocketProcess

/-- The object would close this descriptor. -/
def Holds (process : SocketProcess) (who : SocketId) (fd : SocketType) : Prop :=
  process.sockets who = some ⟨fd⟩ ∧ fd ≠ invalidSocket

/-- Every descriptor handed to the sockets is open and held by exactly one object, and no
`close(2)` has ever hit another one. -/
structure Owned (process : SocketProcess) : Prop where
  held : ∀ who fd, process.Holds who fd → process.descriptor fd = some .sockets
  owner : ∀ fd, process.descriptor fd = some .sockets → ∃ who, process.Holds who fd
  alone : ∀ fd who other, process.Holds who fd → process.Holds other fd → who = other
  valid : process.descriptor invalidSocket = none
  exact : process.strayCloses = 0

variable {process : SocketProcess} {who other target source : SocketId} {fd : SocketType}

theorem holds_setSocket {socket : Option Socket} :
    (process.setSocket who socket).Holds other fd ↔
      if other = who then socket = some ⟨fd⟩ ∧ fd ≠ invalidSocket else process.Holds other fd := by
  by_cases same : other = who
  · subst same
    simp [Holds, setSocket]
  · simp [Holds, setSocket, same]

@[simp] theorem descriptor_setSocket {socket : Option Socket} :
    (process.setSocket who socket).descriptor = process.descriptor := rfl

namespace Owned

theorem start (isOpen : SocketType → Bool) : Owned (start isOpen) where
  held who fd holds := by cases holds.1
  owner fd open_ := by
    simp only [SocketProcess.start] at open_
    split at open_ <;> cases open_
  alone fd who other holds := by cases holds.1
  valid := by simp [SocketProcess.start]
  exact := rfl

/-- An object that neither held a descriptor nor holds one now. -/
theorem setSocket (owned : Owned process) {socket : Option Socket}
    (before : ∀ fd, ¬ process.Holds who fd)
    (after : ∀ fd, fd ≠ invalidSocket → socket ≠ some ⟨fd⟩) :
    Owned (process.setSocket who socket) := by
  have same (other : SocketId) (fd : SocketType) :
      (process.setSocket who socket).Holds other fd ↔ process.Holds other fd := by
    rw [holds_setSocket]
    split
    · next here =>
        subst here
        exact ⟨fun holds => absurd holds.1 (after fd holds.2),
          fun holds => absurd holds (before fd)⟩
    · rfl
  exact
    { held := fun other fd holds => owned.held other fd ((same other fd).mp holds)
      owner := fun fd open_ => (owned.owner fd open_).imp fun other => (same other fd).mpr
      alone := fun fd who other first second =>
        owned.alone fd who other ((same who fd).mp first) ((same other fd).mp second)
      valid := owned.valid
      exact := owned.exact }

/-- A new object takes over a descriptor that no object holds. -/
theorem gain (owned : Owned process) (fresh : process.sockets who = none)
    (unheld : process.descriptor fd ≠ some .sockets) (valid : fd ≠ invalidSocket) :
    Owned (process.construct who fd) := by
  have nobody (other : SocketId) : ¬ process.Holds other fd :=
    fun holds => unheld (owned.held other fd holds)
  have holds (other : SocketId) (number : SocketType) :
      (process.setSocket who (some ⟨fd⟩)).Holds other number ↔
        if other = who then number = fd else process.Holds other number := by
    rw [holds_setSocket]
    split
    · simp only [Option.some.injEq, Socket.mk.injEq]
      exact ⟨fun here => here.1.symm, fun here => ⟨here.symm, here ▸ valid⟩⟩
    · rfl
  refine ⟨?_, ?_, ?_, ?_, owned.exact⟩
  · intro other number held
    have here := (holds other number).mp held
    by_cases same : number = fd
    · exact same ▸ Function.update_self _ _ _
    · refine (Function.update_of_ne same _ _).trans ?_
      split at here
      · exact absurd here same
      · exact owned.held other number here
  · intro number open_
    by_cases same : number = fd
    · exact ⟨who, (holds who number).mpr (by rw [if_pos rfl]; exact same)⟩
    · obtain ⟨other, here⟩ :=
        owned.owner number ((Function.update_of_ne same _ _).symm.trans open_)
      have different : other ≠ who := by
        rintro rfl
        rw [here.1] at fresh
        cases fresh
      exact ⟨other, (holds other number).mpr (by rw [if_neg different]; exact here)⟩
  · intro number first second heldFirst heldSecond
    have one := (holds first number).mp heldFirst
    have two := (holds second number).mp heldSecond
    split at one <;> split at two
    · next here there => exact here.trans there.symm
    · exact absurd (one ▸ two) (nobody second)
    · exact absurd (two ▸ one) (nobody first)
    · exact owned.alone number first second one two
  · exact (Function.update_of_ne (Ne.symm valid) _ _).trans owned.valid

/-- What the source holds passes to a target that holds nothing. -/
theorem transfer (owned : Owned process) {socket emptied : Socket} (different : target ≠ source)
    (empty : ∀ fd, ¬ process.Holds target fd) (here : process.sockets source = some socket)
    (invalid : emptied.sockfd = invalidSocket) :
    Owned ((process.setSocket target (some socket)).setSocket source (some emptied)) := by
  have holds (other : SocketId) (fd : SocketType) :
      ((process.setSocket target (some socket)).setSocket source (some emptied)).Holds other fd ↔
        other ≠ source ∧ process.Holds (if other = target then source else other) fd := by
    rw [holds_setSocket, holds_setSocket]
    by_cases giving : other = source
    · subst giving
      simp only [if_true, ne_eq, not_true_eq_false, false_and, iff_false, not_and, not_not,
        Option.some.injEq]
      rintro rfl
      exact invalid
    · by_cases taking : other = target
      · subst taking
        simp [Holds, here, giving]
      · simp [giving, taking]
  refine ⟨?_, ?_, ?_, owned.valid, owned.exact⟩
  · exact fun other fd held => owned.held _ fd ((holds other fd).mp held).2
  · intro fd open_
    obtain ⟨other, held⟩ := owned.owner fd open_
    by_cases giving : other = source
    · exact ⟨target, (holds target fd).mpr ⟨different, by rw [if_pos rfl]; exact giving ▸ held⟩⟩
    · have elsewhere : other ≠ target := fun taking => empty fd (taking ▸ held)
      exact ⟨other, (holds other fd).mpr ⟨giving, by rw [if_neg elsewhere]; exact held⟩⟩
  · intro fd first second heldFirst heldSecond
    obtain ⟨notFirst, one⟩ := (holds first fd).mp heldFirst
    obtain ⟨notSecond, two⟩ := (holds second fd).mp heldSecond
    have same := owned.alone fd _ _ one two
    split_ifs at same with one two two
    · exact one.trans two.symm
    · exact absurd same.symm notSecond
    · exact absurd same notFirst
    · exact same

/-- `Close` gives the descriptor back, and the object holds none after it. -/
theorem close (owned : Owned process) {socket : Socket} (here : process.sockets who = some socket) :
    Owned (process.close who socket) ∧ ∀ fd, ¬ (process.close who socket).Holds who fd := by
  unfold SocketProcess.close
  split
  · next valid =>
      have mine : process.Holds who socket.sockfd := ⟨here, by simpa [Socket.isValid] using valid⟩
      have open_ := owned.held who _ mine
      have holds (other : SocketId) (fd : SocketType) :
          ((process.closeSocket socket.sockfd).setSocket who (some socket.closed)).Holds other fd ↔
            other ≠ who ∧ process.Holds other fd := by
        rw [holds_setSocket]
        split
        · next same =>
            simp only [same, ne_eq, not_true_eq_false, false_and, iff_false, not_and, not_not,
              Option.some.injEq]
            intro closed
            exact (congrArg Socket.sockfd closed).symm.trans socket.sockfd_closed
        · next different => exact ⟨fun held => ⟨different, held⟩, And.right⟩
      refine ⟨⟨?_, ?_, ?_, ?_, ?_⟩, fun fd held => ((holds who fd).mp held).1 rfl⟩
      · intro other fd held
        obtain ⟨different, before⟩ := (holds other fd).mp held
        have another : fd ≠ socket.sockfd := by
          rintro rfl
          exact different (owned.alone _ other who before mine)
        exact (Function.update_of_ne another _ _).trans (owned.held other fd before)
      · intro fd stillOpen
        have another : fd ≠ socket.sockfd := by
          rintro rfl
          simp [closeSocket] at stillOpen
        obtain ⟨other, before⟩ := owned.owner fd ((Function.update_of_ne another _ _).symm.trans
          stillOpen)
        have different : other ≠ who := by
          rintro rfl
          have same := before.1.symm.trans here
          simp only [Option.some.injEq] at same
          exact another (congrArg Socket.sockfd same)
        exact ⟨other, (holds other fd).mpr ⟨different, before⟩⟩
      · exact fun fd first second one two =>
          owned.alone fd first second ((holds first fd).mp one).2 ((holds second fd).mp two).2
      · exact (Function.update_of_ne (Ne.symm mine.2) _ _).trans owned.valid
      · exact (if_pos open_).trans owned.exact
  · next invalid =>
      refine ⟨owned, fun fd held => ?_⟩
      have same := held.1.symm.trans here
      simp only [Option.some.injEq] at same
      simp [Socket.isValid, ← same, held.2] at invalid

/-- A descriptor that the sockets neither had nor get. -/
theorem elsewhere (owned : Owned process) {holder : Option Holder}
    (before : process.descriptor fd ≠ some .sockets) (after : holder ≠ some .sockets)
    (valid : fd ≠ invalidSocket) :
    Owned { process with descriptor := Function.update process.descriptor fd holder } where
  held other number held := by
    have open_ := owned.held other number held
    have another : number ≠ fd := by
      rintro rfl
      exact before open_
    exact (Function.update_of_ne another _ _).trans open_
  owner number open_ := by
    have another : number ≠ fd := by
      rintro rfl
      exact after ((Function.update_self number holder process.descriptor).symm.trans open_)
    exact owned.owner number ((Function.update_of_ne another _ _).symm.trans open_)
  alone := owned.alone
  valid := (Function.update_of_ne (Ne.symm valid) _ _).trans owned.valid
  exact := owned.exact

/-- The answer of the kernel becomes an object's, or there is an object without one. -/
theorem fromKernel (owned : Owned process) (fresh : process.sockets who = none)
    {answer : Option SocketType} (answers : process.mayAnswer answer = true) :
    Owned (process.create who answer) := by
  have nothing : ∀ fd, ¬ process.Holds who fd := fun fd holds => by simp [Holds, fresh] at holds
  cases answer with
  | none => exact owned.setSocket nothing (by simp [eq_comm])
  | some fd =>
      simp only [mayAnswer, decide_eq_true_eq] at answers
      exact owned.gain fresh (by simp [answers.1]) answers.2

end Owned

end SocketProcess

open SocketProcess

/-- `Socket(SocketType)` is given a descriptor that no object holds, or none at all. -/
def AdoptsUnowned (process : SocketProcess) : SocketEvent → Prop
  | .adopt _ fd => fd = invalidSocket ∨ process.descriptor fd = some .others
  | _ => True

instance (process : SocketProcess) : (event : SocketEvent) → Decidable (AdoptsUnowned process event)
  | .adopt _ fd => inferInstanceAs (Decidable (fd = invalidSocket ∨ _))
  | .create _ _ | .createNonBlocking _ _ | .accept _ _ _ | .moveConstruct _ _ | .moveAssign _ _
  | .close _ | .destroy _ | .openOther _ | .closeOther _ => .isTrue trivial

namespace SocketProcess

namespace Owned

variable {process next : SocketProcess} {event : SocketEvent}

theorem step (owned : Owned process) (adopts : AdoptsUnowned process event)
    (transition : socketMachine.step process event = some next) : Owned next := by
  simp only [socketMachine] at transition
  have absent {who : SocketId} (fresh : process.sockets who = none) :
      ∀ fd, ¬ process.Holds who fd := fun fd holds => by simp [Holds, fresh] at holds
  cases event with
  | adopt who fd =>
      simp only [SocketProcess.step, Option.ite_none_right_eq_some, Option.some.injEq]
        at transition
      obtain ⟨fresh, rfl⟩ := transition
      by_cases valid : fd = invalidSocket
      · subst valid
        have unchanged : process.adopt who invalidSocket =
            process.setSocket who (some ⟨invalidSocket⟩) := by
          simp [SocketProcess.adopt, owned.valid, SocketProcess.setSocket]
        rw [unchanged]
        exact owned.setSocket (absent fresh) (by simp [eq_comm])
      · have others := adopts.resolve_left valid
        have handed : process.adopt who fd = process.construct who fd := by
          simp [SocketProcess.adopt, others, SocketProcess.construct]
        rw [handed]
        exact owned.gain fresh (by simp [others]) valid
  | create who answer =>
      simp only [SocketProcess.step, Option.ite_none_right_eq_some, Option.some.injEq]
        at transition
      obtain ⟨⟨fresh, answers⟩, rfl⟩ := transition
      exact owned.fromKernel fresh answers
  | createNonBlocking who answer =>
      simp only [SocketProcess.step, Option.ite_none_right_eq_some, Option.some.injEq]
        at transition
      obtain ⟨⟨fresh, answers⟩, rfl⟩ := transition
      exact owned.fromKernel fresh answers
  | accept listener who answer =>
      simp only [SocketProcess.step, Option.ite_none_right_eq_some, Option.map_eq_some_iff]
        at transition
      obtain ⟨⟨fresh, answers⟩, socket, _, rfl⟩ := transition
      cases answer with
      | none => exact owned
      | some fd =>
          simp only [SocketProcess.accept]
          split
          · exact owned.fromKernel fresh answers
          · exact owned
  | moveConstruct target source =>
      simp only [SocketProcess.step, Option.ite_none_right_eq_some, Option.map_eq_some_iff]
        at transition
      obtain ⟨fresh, socket, here, rfl⟩ := transition
      refine owned.transfer ?_ (absent fresh) here rfl
      rintro rfl
      simp [fresh] at here
  | moveAssign target source =>
      simp only [SocketProcess.step] at transition
      split at transition
      · next own other here there =>
          cases transition
          unfold SocketProcess.moveAssign
          split
          · exact owned
          · next different =>
              obtain ⟨closed, empty⟩ := owned.close here
              refine closed.transfer different empty ?_ own.sockfd_closed
              unfold SocketProcess.close
              split
              · exact (Function.update_of_ne (Ne.symm different) _ _).trans there
              · exact there
      · cases transition
  | close who =>
      simp only [SocketProcess.step, Option.map_eq_some_iff] at transition
      obtain ⟨socket, here, rfl⟩ := transition
      exact (owned.close here).1
  | destroy who =>
      simp only [SocketProcess.step, Option.map_eq_some_iff] at transition
      obtain ⟨socket, here, rfl⟩ := transition
      obtain ⟨closed, empty⟩ := owned.close here
      exact closed.setSocket empty (by simp)
  | openOther fd =>
      simp only [SocketProcess.step, Option.ite_none_right_eq_some, Option.some.injEq, mayAnswer,
        decide_eq_true_eq] at transition
      obtain ⟨⟨free, valid⟩, rfl⟩ := transition
      exact owned.elsewhere (by simp [free]) (by simp) valid
  | closeOther fd =>
      simp only [SocketProcess.step, Option.ite_none_right_eq_some, Option.some.injEq] at transition
      obtain ⟨others, rfl⟩ := transition
      refine owned.elsewhere (by simp [others]) (by simp) ?_
      rintro rfl
      simp [owned.valid] at others

/-- After any other adoption two objects hold one descriptor, or one holds none. -/
theorem adopts (owned : Owned process)
    (transition : socketMachine.step process event = some next) (after : Owned next) :
    AdoptsUnowned process event := by
  cases event with
  | adopt who fd =>
      simp only [socketMachine, SocketProcess.step, Option.ite_none_right_eq_some,
        Option.some.injEq] at transition
      obtain ⟨fresh, rfl⟩ := transition
      by_contra otherwise
      obtain ⟨valid, notOthers⟩ := not_or.mp otherwise
      have same : (process.adopt who fd).descriptor = process.descriptor := if_neg notOthers
      have mine : (process.adopt who fd).Holds who fd := ⟨Function.update_self _ _ _, valid⟩
      have open_ := after.held who fd mine
      rw [same] at open_
      obtain ⟨other, holds⟩ := owned.owner fd open_
      have different : other ≠ who := by
        rintro rfl
        simp [Holds, fresh] at holds
      exact different <| after.alone fd other who
        ⟨(Function.update_of_ne different _ _).trans holds.1, valid⟩ mine
  | _ => trivial

end Owned

end SocketProcess

/-- Throughout a run of `Socket` objects, whatever they are moved to and however numbers are
used again, every descriptor handed to them is open and held by exactly one, and none of them
closes another's, if and only if `Socket(SocketType)` is given only descriptors that no object
holds. -/
theorem owned_throughout_iff (isOpen : SocketType → Bool) (events : List SocketEvent) :
    socketMachine.Throughout Owned (.start isOpen) events ↔
      socketMachine.Guarded AdoptsUnowned (.start isOpen) events :=
  Machine.throughout_iff_guarded (fun _ owned => owned)
    (fun _ _ _ owned adopts transition => owned.step adopts transition)
    (fun _ _ _ owned transition after => owned.adopts transition after)
    (.start isOpen) events

/-- The places in the library that make, move and end `Socket` objects. -/
inductive SocketSite where
  /-- `Acceptor::Acceptor`, `Acceptor::~Acceptor` -/
  | acceptor (listener : SocketId) (answer : Option SocketType)
  | acceptorEnd (listener : SocketId)
  /-- `HandleAccept` with the server's callback, down to the constructor of the connection -/
  | handleAccept (listener accepted argument conn : SocketId) (answer : Option SocketType)
  /-- `HandleAccept` without a callback -/
  | refuse (listener accepted : SocketId) (answer : Option SocketType)
  /-- `TcpClient::Connect`, replacing the object of an earlier attempt -/
  | connect (attempt : SocketId) (earlier : Option SocketId) (answer : Option SocketType)
      (nonBlocking : Bool)
  /-- `HandleConnect` and the `reset` after it -/
  | handleConnect (attempt argument conn : SocketId)
  /-- `m_socket.reset()` after a connect that failed at once -/
  | giveUp (attempt : SocketId)
  /-- `m_socket.Close()` of a connection, `TcpConnection::~TcpConnection` -/
  | closeSocket (conn : SocketId)
  | connectionEnd (conn : SocketId)

namespace SocketSite

/-- `SocketUtils::CreateNonBlockingSocket` and the object made for its result. -/
def adoptNonBlocking (attempt : SocketId) : Option SocketType → Bool → List SocketEvent
  | none, _ => [.adopt attempt invalidSocket]
  | some fd, true => [.openOther fd, .adopt attempt fd]
  | some fd, false => [.openOther fd, .closeOther fd, .adopt attempt invalidSocket]

/-- An object that passes through a by-value parameter into the member of a connection. -/
def intoConnection (source argument conn : SocketId) : List SocketEvent :=
  [.moveConstruct argument source, .moveConstruct conn argument, .destroy argument,
    .destroy source]

/-- What the place does with `Socket` objects, in order. -/
def events : SocketSite → List SocketEvent
  | acceptor listener answer => [.createNonBlocking listener answer]
  | acceptorEnd listener => [.destroy listener]
  | handleAccept listener accepted _ _ none => [.accept listener accepted none]
  | handleAccept listener accepted argument conn (some fd) =>
      .accept listener accepted (some fd) :: intoConnection accepted argument conn
  | refuse listener accepted none => [.accept listener accepted none]
  | refuse listener accepted (some fd) =>
      [.accept listener accepted (some fd), .close accepted, .destroy accepted]
  | connect attempt earlier answer nonBlocking =>
      adoptNonBlocking attempt answer nonBlocking ++ (earlier.toList.map .destroy)
  | handleConnect attempt argument conn => intoConnection attempt argument conn
  | giveUp attempt => [.destroy attempt]
  | closeSocket conn => [.close conn]
  | connectionEnd conn => [.destroy conn]

end SocketSite

/-- Calls other than `Socket(SocketType)` are always admitted. -/
theorem guarded_of_no_adopt {process : SocketProcess} {events : List SocketEvent}
    (none : ∀ who fd, .adopt who fd ∉ events) :
    socketMachine.Guarded AdoptsUnowned process events := by
  induction events generalizing process with
  | nil => trivial
  | cons event rest inductionHypothesis =>
      refine fun next _ => ⟨?_, inductionHypothesis fun who fd later =>
        none who fd (List.mem_cons_of_mem _ later)⟩
      cases event with
      | adopt who fd => exact absurd List.mem_cons_self (none who fd)
      | _ => trivial

/-- The client adopts what it has just opened, or nothing. -/
theorem guarded_adoptNonBlocking (process : SocketProcess) (attempt : SocketId)
    (answer : Option SocketType) (nonBlocking : Bool) :
    socketMachine.Guarded AdoptsUnowned process
      (SocketSite.adoptNonBlocking attempt answer nonBlocking) := by
  cases answer with
  | none => exact fun _ _ => ⟨.inl rfl, trivial⟩
  | some fd =>
      cases nonBlocking with
      | false => exact fun _ _ => ⟨trivial, fun _ _ => ⟨trivial, fun _ _ => ⟨.inl rfl, trivial⟩⟩⟩
      | true =>
          refine fun opened transition => ⟨trivial, fun _ _ => ⟨.inr ?_, trivial⟩⟩
          simp only [socketMachine, step, Option.ite_none_right_eq_some, Option.some.injEq]
            at transition
          obtain ⟨_, rfl⟩ := transition
          exact Function.update_self fd (some Holder.others) process.descriptor

theorem SocketSite.guarded (site : SocketSite) (process : SocketProcess) :
    socketMachine.Guarded AdoptsUnowned process site.events := by
  cases site with
  | connect attempt earlier answer nonBlocking =>
      refine (guarded_adoptNonBlocking process attempt answer nonBlocking).append fun _ _ => ?_
      exact guarded_of_no_adopt (by simp)
  | handleAccept _ _ _ _ answer | refuse _ _ answer =>
      cases answer <;> exact guarded_of_no_adopt (by simp [events, intoConnection])
  | _ => exact guarded_of_no_adopt (by simp [events, intoConnection])

theorem SocketSite.guarded_flatMap (sites : List SocketSite) (start : SocketProcess) :
    socketMachine.Guarded AdoptsUnowned start (sites.flatMap (·.events)) := by
  induction sites generalizing start with
  | nil => trivial
  | cons site rest inductionHypothesis =>
      rw [List.flatMap_cons]
      exact (site.guarded start).append fun middle _ => inductionHypothesis middle

/-- However the library's own places for sockets follow one another, every open descriptor that
was handed to a `Socket` has exactly one object that will close it, every object's descriptor
is open, and no `close(2)` has hit another descriptor. -/
theorem library_sockets_owned (isOpen : SocketType → Bool) (sites : List SocketSite)
    {process : SocketProcess}
    (executed : socketMachine.exec (.start isOpen) (sites.flatMap (·.events)) = some process) :
    process.strayCloses = 0 ∧
      (∀ fd, process.descriptor fd = some .sockets → ∃! who, process.Holds who fd) ∧
      ∀ who fd, process.Holds who fd → process.descriptor fd = some .sockets := by
  have run := Machine.run_of_guarded executed (SocketSite.guarded_flatMap sites _)
  have owned := run.invariant Owned (.start isOpen)
    fun _ _ _ owned adopts transition => owned.step adopts transition
  refine ⟨owned.exact, fun fd open_ => ?_, owned.held⟩
  obtain ⟨who, holds⟩ := owned.owner fd open_
  exact ⟨who, holds, fun other held => owned.alone fd other who held holds⟩

/-- A connection closes its descriptor, the next one gets the number, and then the first is
destroyed. -/
def closeThenReuse : List SocketSite :=
  [.acceptor 0 (some 3), .handleAccept 0 1 2 10 (some 4), .closeSocket 10,
    .handleAccept 0 1 2 11 (some 4), .connectionEnd 10]

/-- The second connection keeps the number that both had. -/
theorem reused_number_has_one_owner : ∃ process,
    socketMachine.exec (.start fun _ => false) (closeThenReuse.flatMap (·.events)) = some process ∧
      process.descriptor 4 = some .sockets ∧ ∃! who, process.Holds who 4 := by
  have observed : (socketMachine.exec (.start fun _ => false)
      (closeThenReuse.flatMap (·.events))).map (·.descriptor 4) = some (some .sockets) := by
    decide +kernel
  obtain ⟨process, executed, seen⟩ := Option.map_eq_some_iff.mp observed
  exact ⟨process, executed, seen, (library_sockets_owned _ closeThenReuse executed).2.1 4 seen⟩

end TurboCore.Net
