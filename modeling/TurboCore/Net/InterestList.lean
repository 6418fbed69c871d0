import Mathlib
import TurboCore.Foundation.Execution
import TurboCore.Net.WSPollPoller

/-!
# The kernel's interest list under closed descriptors

`EpollPoller` with the kernel's side of it: which descriptors are open, which of them the
epoll instance lists, and which calls of `epoll_ctl` fail. Closing a descriptor takes it
off the list without a word to the poller, so table and list stay in step in exactly the
runs in which no registered descriptor is closed; after that the number is deaf until it
is removed from the table.
-/

namespace TurboCore.Net

open Foundation

/-- The poller, the open descriptors, the channels, and how many calls of `epoll_ctl` failed. -/
structure EpollProcess where
  poller : EpollInstance
  isOpen : SocketType → Bool
  channelOf : ChannelId → Channel
  failures : Nat

namespace EpollProcess

/-- A poller just created, and channels that it has not seen. -/
def start (isOpen : SocketType → Bool) (fdOf : ChannelId → SocketType) : EpollProcess where
  poller := .empty
  isOpen := isOpen
  channelOf := fun who => Channel.ofFd (fdOf who)
  failures := 0

section Calls

variable (process : EpollProcess)

/-- The fd is in `m_fd_to_channel`. -/
def isRegistered (fd : SocketType) : Bool := (process.poller.fdToChannel.lookup fd).isSome

/-- The kernel watches the fd. -/
def isListed (fd : SocketType) : Bool := (process.poller.interestList.lookup fd).isSome

/-- `EBADF`, `EEXIST` and `ENOENT`. -/
def ctlFails (op : EpollOp) (fd : SocketType) : Bool :=
  !process.isOpen fd || if op = .add then process.isListed fd else !process.isListed fd

/-- `UpdateEpoll`; a failure is logged. -/
def updateEpoll (op : EpollOp) (channel : Channel) : EpollProcess :=
  if process.ctlFails op channel.fd then { process with failures := process.failures + 1 }
  else { process with poller := process.poller.updateEpoll op channel }

/-- `RemoveChannel`. -/
def removeChannel (channel : Channel) : EpollProcess × Channel :=
  if process.isRegistered channel.fd then
    let updated := process.updateEpoll .delete channel
    ({ updated with
        poller := { updated.poller with
          fdToChannel := updated.poller.fdToChannel.erase channel.fd } },
      { channel with added := false })
  else (process, channel)

/-- `UpdateChannel`. -/
def updateChannel (who : ChannelId) (channel : Channel) : EpollProcess × Channel :=
  if channel.hasNoEvents then
    if process.isRegistered channel.fd then process.removeChannel channel else (process, channel)
  else if process.isRegistered channel.fd then (process.updateEpoll .modify channel, channel)
  else
    let inserted := { process with
      poller := { process.poller with
        fdToChannel := process.poller.fdToChannel.insert channel.fd who } }
    (inserted.updateEpoll .add channel, { channel with added := true })

/-- Keep what a call returned for its channel. -/
def store (who : ChannelId) (result : EpollProcess × Channel) : EpollProcess :=
  { result.1 with channelOf := Function.update result.1.channelOf who result.2 }

/-- `Channel` and `Poller` functions. -/
def call : PollerCall → EpollProcess
  | .setEvents who events =>
      { process with
        channelOf := Function.update process.channelOf who
          { process.channelOf who with reading := events.reading, writing := events.writing } }
  | .updateChannel who => store who (process.updateChannel who (process.channelOf who))
  | .removeChannel who => store who (process.removeChannel (process.channelOf who))

/-- `close(2)`: the kernel drops the descriptor and its place in the interest list. -/
def close (fd : SocketType) : EpollProcess :=
  { process with
    isOpen := Function.update process.isOpen fd false
    poller := { process.poller with interestList := process.poller.interestList.erase fd } }

end Calls

end EpollProcess

inductive EpollEvent where
  | call (call : PollerCall)
  /-- `socket(2)` or `accept(2)` hands out the number -/
  | opened (fd : SocketType)
  | closed (fd : SocketType)

/-- Any calls and descriptors; the kernel hands out free numbers only. -/
def epollMachine : Machine EpollProcess EpollEvent where
  step process
    | .call call => some (process.call call)
    | .opened fd =>
        if process.isOpen fd then none
        else some { process with isOpen := Function.update process.isOpen fd true }
    | .closed fd => if process.isOpen fd then some (process.close fd) else none

namespace EpollProcess

variable {process next : EpollProcess} {fdOf : ChannelId → SocketType}

/-- Table and list have the same fds, and no call of `epoll_ctl` has failed. -/
structure InStep (process : EpollProcess) : Prop where
  listed : ∀ fd, process.isListed fd = process.isRegistered fd
  failures : process.failures = 0

/-- No registered descriptor is closed, and none is registered that is not open. -/
def KeepsOpen (process : EpollProcess) : EpollEvent → Prop
  | .closed fd => process.isRegistered fd = false
  | .call (.updateChannel who) =>
      (process.channelOf who).hasNoEvents = true ∨
        process.isOpen (process.channelOf who).fd = true
  | _ => True

/-- What the kernel watches is open and registered, with the channel of its fd. -/
structure Backed (fdOf : ChannelId → SocketType) (process : EpollProcess) : Prop where
  fds : ∀ who, (process.channelOf who).fd = fdOf who
  owner : ∀ fd who, process.poller.fdToChannel.lookup fd = some who → fdOf who = fd
  listed : ∀ fd, process.isListed fd = true → process.isRegistered fd = true
  opened : ∀ fd, process.isListed fd = true → process.isOpen fd = true

/-! ### What a call does to table, list and failures -/

theorem Backed.unlisted (backed : Backed fdOf process) {fd : SocketType}
    (unregistered : process.isRegistered fd = false) : process.isListed fd = false := by
  by_contra listed
  rw [backed.listed fd (by simpa using listed)] at unregistered
  cases unregistered

/-- A modification or deletion fails for unlisted fds only. -/
theorem Backed.ctlFails_of_ne_add (backed : Backed fdOf process) {op : EpollOp} (other : op ≠ .add)
    (fd : SocketType) : process.ctlFails op fd = !process.isListed fd := by
  unfold ctlFails
  rw [if_neg other]
  cases listed : process.isListed fd with
  | false => simp
  | true => simp [backed.opened fd listed]

/-- The kernel does not read `m_fd_to_channel`. -/
theorem ctlFails_table (process : EpollProcess) (table : AList fun _ : SocketType => ChannelId)
    (op : EpollOp) (fd : SocketType) :
    ctlFails { process with poller := { process.poller with fdToChannel := table } } op fd =
      process.ctlFails op fd := rfl

/-- The addition of an unregistered fd fails for closed fds only. -/
theorem Backed.ctlFails_add (backed : Backed fdOf process) {fd : SocketType}
    (unregistered : process.isRegistered fd = false) :
    process.ctlFails .add fd = !process.isOpen fd := by
  simp [ctlFails, backed.unlisted unregistered]

/-- What a call can leave alone. -/
structure SameKernel (before after : EpollProcess) : Prop where
  isOpen : after.isOpen = before.isOpen
  channelOf : after.channelOf = before.channelOf

/-- A removal takes the fd out of table and list, and fails where it was not listed. -/
theorem Backed.removeChannel (backed : Backed fdOf process) (channel : Channel) :
    let after := (process.removeChannel channel).1
    SameKernel process after ∧
      (∀ fd, after.poller.fdToChannel.lookup fd =
        if fd = channel.fd then none else process.poller.fdToChannel.lookup fd) ∧
      (∀ fd, after.isListed fd = if fd = channel.fd then false else process.isListed fd) ∧
      after.failures = process.failures +
        if process.isRegistered channel.fd && !process.isListed channel.fd then 1 else 0 := by
  cases registered : process.isRegistered channel.fd with
  | false =>
      have absent : process.poller.fdToChannel.lookup channel.fd = none := by
        simpa [isRegistered] using registered
      have unlisted := backed.unlisted registered
      have same : process.removeChannel channel = (process, channel) := by
        simp [EpollProcess.removeChannel, registered]
      rw [same]
      refine ⟨⟨rfl, rfl⟩, FiniteMap.lookup_eq_ite absent, fun fd => ?_, by simp⟩
      split_ifs with equal
      · rw [equal, unlisted]
      · rfl
  | true =>
      have fails := backed.ctlFails_of_ne_add (by decide : EpollOp.delete ≠ .add) channel.fd
      unfold EpollProcess.removeChannel updateEpoll
      rw [if_pos registered, fails]
      cases listed : process.isListed channel.fd with
      | false =>
          simp only [Bool.not_false, if_true, Bool.and_true]
          refine ⟨⟨rfl, rfl⟩, fun fd => FiniteMap.lookup_erase _ _ _, fun fd => ?_, trivial⟩
          split_ifs with equal
          · rw [equal]
            exact listed
          · rfl
      | true =>
          simp only [Bool.not_true, Bool.false_eq_true, if_false, Bool.and_false, Nat.add_zero]
          refine ⟨⟨rfl, rfl⟩, fun fd => FiniteMap.lookup_erase _ _ _, fun fd => ?_, trivial⟩
          simp only [isListed, EpollInstance.updateEpoll, epollCtl, FiniteMap.lookup_erase]
          split_ifs <;> rfl

/-- An update of a known fd changes neither table: `EPOLL_CTL_MOD` fails if the fd is not
listed. -/
theorem Backed.updateChannel_of_registered (backed : Backed fdOf process) (who : ChannelId)
    {channel : Channel} (events : channel.hasNoEvents = false)
    (registered : process.isRegistered channel.fd = true) :
    let after := (process.updateChannel who channel).1
    SameKernel process after ∧
      (∀ fd, after.poller.fdToChannel.lookup fd = process.poller.fdToChannel.lookup fd) ∧
      (∀ fd, after.isListed fd = process.isListed fd) ∧
      after.failures = process.failures + if process.isListed channel.fd then 0 else 1 := by
  have fails := backed.ctlFails_of_ne_add (by decide : EpollOp.modify ≠ .add) channel.fd
  cases listed : process.isListed channel.fd with
  | false =>
      have result : (process.updateChannel who channel).1 =
          { process with failures := process.failures + 1 } := by
        simp [EpollProcess.updateChannel, updateEpoll, events, registered, fails, listed]
      rw [result]
      exact ⟨⟨rfl, rfl⟩, fun fd => rfl, fun fd => rfl, rfl⟩
  | true =>
      have result : (process.updateChannel who channel).1 =
          { process with poller := process.poller.updateEpoll .modify channel } := by
        simp [EpollProcess.updateChannel, updateEpoll, events, registered, fails, listed]
      rw [result]
      refine ⟨⟨rfl, rfl⟩, fun fd => rfl, fun fd => ?_, rfl⟩
      have present : (process.poller.interestList.lookup channel.fd).isSome = true := listed
      simp only [isListed, EpollInstance.updateEpoll, epollCtl, present, if_true,
        FiniteMap.lookup_insert]
      split_ifs with equal
      · rw [equal, present]
        rfl
      · rfl

/-- An update of a new fd registers it, and `EPOLL_CTL_ADD` lists it if it is open. -/
theorem Backed.updateChannel_of_new (backed : Backed fdOf process) (who : ChannelId)
    {channel : Channel} (events : channel.hasNoEvents = false)
    (unregistered : process.isRegistered channel.fd = false) :
    let after := (process.updateChannel who channel).1
    SameKernel process after ∧
      (∀ fd, after.poller.fdToChannel.lookup fd =
        if fd = channel.fd then some who else process.poller.fdToChannel.lookup fd) ∧
      (∀ fd, after.isListed fd =
        if fd = channel.fd then process.isOpen fd else process.isListed fd) ∧
      after.failures = process.failures + if process.isOpen channel.fd then 0 else 1 := by
  have unlisted := backed.unlisted unregistered
  have fails := backed.ctlFails_add unregistered
  cases opened : process.isOpen channel.fd with
  | false =>
      have result : (process.updateChannel who channel).1 =
          { process with
            poller := { process.poller with
              fdToChannel := process.poller.fdToChannel.insert channel.fd who }
            failures := process.failures + 1 } := by
        simp [EpollProcess.updateChannel, updateEpoll, ctlFails_table, events, unregistered, fails,
          opened]
      rw [result]
      refine ⟨⟨rfl, rfl⟩, fun fd => FiniteMap.lookup_insert _ _ _ _, fun fd => ?_, rfl⟩
      split_ifs with equal
      · rw [equal, opened]
        exact unlisted
      · rfl
  | true =>
      have result : (process.updateChannel who channel).1 =
          { process with
            poller := { process.poller with
              fdToChannel := process.poller.fdToChannel.insert channel.fd who
            }.updateEpoll .add channel } := by
        simp [EpollProcess.updateChannel, updateEpoll, ctlFails_table, events, unregistered, fails,
          opened]
      rw [result]
      refine ⟨⟨rfl, rfl⟩, fun fd => ?_, fun fd => ?_, rfl⟩
      · exact FiniteMap.lookup_insert _ _ _ _
      have absent : process.poller.interestList.lookup channel.fd = none := by
        simpa [isListed] using unlisted
      simp only [isListed, EpollInstance.updateEpoll, epollCtl, absent, Option.isSome_none,
        Bool.false_eq_true, if_false, FiniteMap.lookup_insert]
      split_ifs with equal
      · rw [equal, opened]
        rfl
      · rfl

/-- An update with events registers the fd. The kernel lists it if it is new and open, and the
call fails if it is new and closed, or known and not listed. -/
theorem Backed.updateChannel (backed : Backed fdOf process) (who : ChannelId) {channel : Channel}
    (events : channel.hasNoEvents = false) :
    let after := (process.updateChannel who channel).1
    SameKernel process after ∧
      (∀ fd, after.poller.fdToChannel.lookup fd =
        if fd = channel.fd then some ((process.poller.fdToChannel.lookup fd).getD who)
        else process.poller.fdToChannel.lookup fd) ∧
      (∀ fd, after.isListed fd =
        if fd = channel.fd ∧ process.isRegistered fd = false then process.isOpen fd
        else process.isListed fd) ∧
      after.failures = process.failures +
        if (if process.isRegistered channel.fd then process.isListed channel.fd
          else process.isOpen channel.fd) then 0 else 1 := by
  cases registered : process.isRegistered channel.fd with
  | true =>
      obtain ⟨kernel, table, list, failures⟩ :=
        backed.updateChannel_of_registered who events registered
      obtain ⟨held, found⟩ := Option.isSome_iff_exists.mp registered
      refine ⟨kernel, fun fd => ?_, fun fd => ?_, failures⟩
      · rw [table fd]
        split_ifs with equal
        · rw [equal, found, Option.getD_some]
        · rfl
      · rw [list fd, if_neg]
        rintro ⟨rfl, unregistered⟩
        rw [registered] at unregistered
        cases unregistered
  | false =>
      obtain ⟨kernel, table, list, failures⟩ := backed.updateChannel_of_new who events registered
      have absent : process.poller.fdToChannel.lookup channel.fd = none := by
        simpa [isRegistered] using registered
      refine ⟨kernel, fun fd => ?_, fun fd => ?_, failures⟩
      · rw [table fd]
        split_ifs with equal
        · rw [equal, absent, Option.getD_none]
        · rfl
      · rw [list fd]
        by_cases equal : fd = channel.fd
        · rw [if_pos equal, if_pos ⟨equal, equal ▸ registered⟩]
        · rw [if_neg equal, if_neg (fun both => equal both.1)]

@[simp] theorem removeChannel_fd (process : EpollProcess) (channel : Channel) :
    (process.removeChannel channel).2.fd = channel.fd := by
  unfold EpollProcess.removeChannel
  split_ifs <;> rfl

@[simp] theorem updateChannel_fd (process : EpollProcess) (who : ChannelId) (channel : Channel) :
    (process.updateChannel who channel).2.fd = channel.fd := by
  unfold EpollProcess.updateChannel
  split_ifs
  · exact removeChannel_fd process channel
  all_goals rfl

/-- A channel without events is removed. -/
theorem updateChannel_of_hasNoEvents (who : ChannelId) {channel : Channel}
    (silent : channel.hasNoEvents = true) :
    process.updateChannel who channel = process.removeChannel channel := by
  unfold EpollProcess.updateChannel EpollProcess.removeChannel
  rw [if_pos silent]
  split_ifs <;> rfl

/-! ### What every run keeps -/

theorem Backed.start (isOpen : SocketType → Bool) (fdOf : ChannelId → SocketType) :
    Backed fdOf (.start isOpen fdOf) where
  fds _ := rfl
  owner _ _ found := by cases found
  listed _ listed := by cases listed
  opened _ listed := by cases listed

/-- The call's result is backed when its table and list are. -/
theorem Backed.of_result (backed : Backed fdOf process) {who : ChannelId}
    {result : EpollProcess × Channel} (fd : result.2.fd = fdOf who)
    (kernel : SameKernel process result.1)
    (owner : ∀ fd who, result.1.poller.fdToChannel.lookup fd = some who → fdOf who = fd)
    (listed : ∀ fd, result.1.isListed fd = true → result.1.isRegistered fd = true)
    (opened : ∀ fd, result.1.isListed fd = true → process.isOpen fd = true) :
    Backed fdOf (store who result) where
  fds := by
    intro other
    simp only [EpollProcess.store, kernel.channelOf]
    rcases eq_or_ne other who with rfl | distinct
    · rw [Function.update_self, fd]
    · rw [Function.update_of_ne distinct, backed.fds]
  owner := owner
  listed := listed
  opened fd isListed := by
    change result.1.isOpen fd = true
    rw [kernel.isOpen]
    exact opened fd isListed

theorem Backed.callRemove (backed : Backed fdOf process) (who : ChannelId) :
    Backed fdOf (store who (process.removeChannel (process.channelOf who))) := by
  obtain ⟨kernel, table, list, _⟩ := backed.removeChannel (process.channelOf who)
  refine backed.of_result (by simp [backed.fds]) kernel ?_ ?_ ?_
  · intro fd other found
    rw [table fd] at found
    split_ifs at found
    exact backed.owner fd other found
  · intro fd listed
    rw [list fd] at listed
    split_ifs at listed with removed
    have registered := backed.listed fd listed
    rw [isRegistered, table fd, if_neg removed]
    exact registered
  · intro fd listed
    rw [list fd] at listed
    split_ifs at listed
    exact backed.opened fd listed

theorem Backed.callUpdate (backed : Backed fdOf process) (who : ChannelId) :
    Backed fdOf (store who (process.updateChannel who (process.channelOf who))) := by
  cases silent : (process.channelOf who).hasNoEvents with
  | true =>
      rw [updateChannel_of_hasNoEvents who silent]
      exact backed.callRemove who
  | false =>
      obtain ⟨kernel, table, list, _⟩ := backed.updateChannel who silent
      refine backed.of_result (by simp [backed.fds]) kernel ?_ ?_ ?_
      · intro fd other found
        rw [table fd] at found
        split_ifs at found with updated
        · cases held : process.poller.fdToChannel.lookup fd with
          | none =>
              rw [held, Option.getD_none, Option.some.injEq] at found
              rw [← found, ← backed.fds who, updated]
          | some owner =>
              rw [held, Option.getD_some, Option.some.injEq] at found
              exact backed.owner fd other (found ▸ held)
        · exact backed.owner fd other found
      · intro fd listed
        rw [list fd] at listed
        rw [isRegistered, table fd]
        split_ifs with updated
        · rfl
        · rw [if_neg fun known => updated known.1] at listed
          exact backed.listed fd listed
      · intro fd listed
        rw [list fd] at listed
        split_ifs at listed
        · exact listed
        · exact backed.opened fd listed

theorem Backed.step (backed : Backed fdOf process) {event : EpollEvent}
    (transition : epollMachine.step process event = some next) : Backed fdOf next := by
  cases event with
  | call call =>
      cases transition
      cases call with
      | setEvents who events =>
          refine ⟨fun other => ?_, backed.owner, backed.listed, backed.opened⟩
          simp only [EpollProcess.call]
          rcases eq_or_ne other who with rfl | distinct
          · rw [Function.update_self, backed.fds]
          · rw [Function.update_of_ne distinct, backed.fds]
      | updateChannel who => exact backed.callUpdate who
      | removeChannel who => exact backed.callRemove who
  | opened fd =>
      simp only [epollMachine, Option.ite_none_left_eq_some, Option.some.injEq] at transition
      obtain ⟨_, rfl⟩ := transition
      refine ⟨backed.fds, backed.owner, backed.listed, fun other listed => ?_⟩
      have before := backed.opened other listed
      by_cases same : other = fd <;> simp [same, before]
  | closed fd =>
      simp only [epollMachine, Option.ite_none_right_eq_some, Option.some.injEq] at transition
      obtain ⟨_, rfl⟩ := transition
      have list : ∀ other, (process.close fd).isListed other = true →
          other ≠ fd ∧ process.isListed other = true := by
        intro other listed
        simp only [isListed, close, FiniteMap.lookup_erase] at listed
        split_ifs at listed with same
        · cases listed
        · exact ⟨same, listed⟩
      refine ⟨backed.fds, backed.owner,
        fun other listed => backed.listed other (list other listed).2,
        fun other listed => ?_⟩
      obtain ⟨different, before⟩ := list other listed
      change Function.update process.isOpen fd false other = true
      rw [Function.update_of_ne different]
      exact backed.opened other before

/-! ### Table and list in step -/

theorem InStep.start (isOpen : SocketType → Bool) (fdOf : ChannelId → SocketType) :
    InStep (.start isOpen fdOf) where
  listed _ := rfl
  failures := rfl

/-- A removal keeps table and list in step. -/
theorem InStep.callRemove (inStep : InStep process) (backed : Backed fdOf process)
    (who : ChannelId) :
    InStep (EpollProcess.store who (process.removeChannel (process.channelOf who))) := by
  obtain ⟨_, table, list, failures⟩ := backed.removeChannel (process.channelOf who)
  constructor
  · intro fd
    change (process.removeChannel (process.channelOf who)).1.isListed fd = Option.isSome _
    rw [list fd]
    change _ = (AList.lookup fd
      (process.removeChannel (process.channelOf who)).1.poller.fdToChannel).isSome
    rw [table fd]
    split_ifs
    · rfl
    · exact inStep.listed fd
  · refine failures.trans ?_
    rw [inStep.listed, inStep.failures]
    simp

/-- An update with events on an open fd does. -/
theorem InStep.callUpdate (inStep : InStep process) (backed : Backed fdOf process)
    (who : ChannelId) (silentOrOpen : (process.channelOf who).hasNoEvents = true ∨
      process.isOpen (process.channelOf who).fd = true) :
    InStep (EpollProcess.store who (process.updateChannel who (process.channelOf who))) := by
  cases silent : (process.channelOf who).hasNoEvents with
  | true =>
      rw [updateChannel_of_hasNoEvents who silent]
      exact inStep.callRemove backed who
  | false =>
      have opened : process.isOpen (process.channelOf who).fd = true := by
        simpa [silent] using silentOrOpen
      obtain ⟨_, table, list, failures⟩ := backed.updateChannel who silent
      constructor
      · intro fd
        change (process.updateChannel who (process.channelOf who)).1.isListed fd =
          (AList.lookup fd
            (process.updateChannel who (process.channelOf who)).1.poller.fdToChannel).isSome
        rw [list fd, table fd]
        by_cases updated : fd = (process.channelOf who).fd
        · subst updated
          cases registered : process.isRegistered (process.channelOf who).fd with
          | false => simpa using opened
          | true => simpa [registered] using inStep.listed (process.channelOf who).fd
        · rw [if_neg fun known => updated known.1, if_neg updated]
          exact inStep.listed fd
      · refine failures.trans ?_
        rw [inStep.listed, inStep.failures, opened]
        simp

theorem InStep.step (inStep : InStep process) (backed : Backed fdOf process)
    {event : EpollEvent} (keepsOpen : process.KeepsOpen event)
    (transition : epollMachine.step process event = some next) : InStep next := by
  cases event with
  | call call =>
      cases transition
      cases call with
      | setEvents who events => exact ⟨inStep.listed, inStep.failures⟩
      | updateChannel who => exact inStep.callUpdate backed who keepsOpen
      | removeChannel who => exact inStep.callRemove backed who
  | opened fd =>
      simp only [epollMachine, Option.ite_none_left_eq_some, Option.some.injEq] at transition
      obtain ⟨_, rfl⟩ := transition
      exact ⟨inStep.listed, inStep.failures⟩
  | closed fd =>
      simp only [epollMachine, Option.ite_none_right_eq_some, Option.some.injEq] at transition
      obtain ⟨_, rfl⟩ := transition
      refine ⟨fun other => ?_, inStep.failures⟩
      simp only [isListed, close, FiniteMap.lookup_erase]
      split_ifs with same
      · rw [same]
        exact (show process.isRegistered fd = false from keepsOpen).symm
      · exact inStep.listed other

/-- A step that closes a registered descriptor, or registers one that is not open, puts table
and list out of step. -/
theorem InStep.keepsOpen (inStep : InStep process) (backed : Backed fdOf process)
    {event : EpollEvent} (transition : epollMachine.step process event = some next)
    (after : InStep next) : process.KeepsOpen event := by
  cases event with
  | opened fd => trivial
  | closed fd =>
      simp only [epollMachine, Option.ite_none_right_eq_some, Option.some.injEq] at transition
      obtain ⟨_, rfl⟩ := transition
      have gone : (process.close fd).isListed fd = false := by
        simp [isListed, close]
      exact (after.listed fd).symm.trans gone
  | call call =>
      cases transition
      cases call with
      | setEvents who events | removeChannel who => trivial
      | updateChannel who =>
          cases silent : (process.channelOf who).hasNoEvents with
          | true => exact .inl silent
          | false =>
              obtain ⟨_, _, _, failures⟩ := backed.updateChannel who silent
              have none : _ = 0 := failures.symm.trans after.failures
              rw [inStep.failures, inStep.listed] at none
              right
              by_contra closed
              rw [Bool.not_eq_true] at closed
              cases registered : process.isRegistered (process.channelOf who).fd with
              | true =>
                  have listed := (inStep.listed _).trans registered
                  rw [backed.opened _ listed] at closed
                  cases closed
              | false => simp [registered, closed] at none

/-- No call and no descriptor makes the kernel watch a number that the table has. -/
theorem Backed.stays_deaf (backed : Backed fdOf process) {fd : SocketType} {event : EpollEvent}
    (registered : process.isRegistered fd = true) (deaf : process.isListed fd = false)
    (transition : epollMachine.step process event = some next) : next.isListed fd = false := by
  cases event with
  | opened other =>
      simp only [epollMachine, Option.ite_none_left_eq_some, Option.some.injEq] at transition
      obtain ⟨_, rfl⟩ := transition
      exact deaf
  | closed other =>
      simp only [epollMachine, Option.ite_none_right_eq_some, Option.some.injEq] at transition
      obtain ⟨_, rfl⟩ := transition
      simp only [isListed, close, FiniteMap.lookup_erase]
      split_ifs
      · rfl
      · exact deaf
  | call call =>
      cases transition
      have removed : ∀ who, (process.removeChannel (process.channelOf who)).1.isListed fd =
          false := by
        intro who
        rw [(backed.removeChannel (process.channelOf who)).2.2.1 fd, deaf, ite_self]
      cases call with
      | setEvents who events => exact deaf
      | removeChannel who => exact removed who
      | updateChannel who =>
          change (process.updateChannel who (process.channelOf who)).1.isListed fd = false
          cases silent : (process.channelOf who).hasNoEvents with
          | true =>
              rw [updateChannel_of_hasNoEvents who silent]
              exact removed who
          | false =>
              rw [(backed.updateChannel who silent).2.2.1 fd, registered, deaf]
              simp

/-- The entry of a number stays, whoever uses it. -/
def StaysRegistered (fd : SocketType) (process : EpollProcess) (event : EpollEvent) : Prop :=
  ∀ next ∈ epollMachine.step process event, next.isRegistered fd = true

instance (fd : SocketType) (process : EpollProcess) (event : EpollEvent) :
    Decidable (StaysRegistered fd process event) :=
  inferInstanceAs (Decidable (∀ next ∈ _, _))

end EpollProcess

open EpollProcess

/-- In every run of channels and descriptors the kernel reports fds only that the poller knows,
with a channel of that fd: neither assertion of `Poll` fails. -/
theorem listed_fds_have_channels (isOpen : SocketType → Bool) (fdOf : ChannelId → SocketType)
    {events : List EpollEvent} {process : EpollProcess}
    (executed : epollMachine.AnyRun (.start isOpen fdOf) events process) :
    ∀ fd, process.isListed fd = true →
      ∃ who, process.poller.fdToChannel.lookup fd = some who ∧ (process.channelOf who).fd = fd := by
  have backed := executed.invariant (Backed fdOf) (.start isOpen fdOf)
    fun _ _ _ backed _ transition => backed.step transition
  intro fd listed
  obtain ⟨who, found⟩ := Option.isSome_iff_exists.mp (backed.listed fd listed)
  exact ⟨who, found, (backed.fds who).trans (backed.owner fd who found)⟩

/-- Throughout a run the kernel watches exactly the registered fds, and no call of `epoll_ctl`
fails, if and only if no registered descriptor is closed and none is registered that is not
open. -/
theorem inStep_throughout_iff (isOpen : SocketType → Bool) (fdOf : ChannelId → SocketType)
    (events : List EpollEvent) :
    epollMachine.Throughout InStep (.start isOpen fdOf) events ↔
      epollMachine.Guarded KeepsOpen (.start isOpen fdOf) events :=
  @Machine.throughout_iff_guarded _ _ epollMachine
    (fun process => Backed fdOf process ∧ InStep process) _ _ (fun _ holds => holds.2)
    (fun _ _ _ holds keepsOpen transition =>
      ⟨holds.1.step transition, holds.2.step holds.1 keepsOpen transition⟩)
    (fun _ _ _ holds transition after => holds.2.keepsOpen holds.1 transition after)
    _ ⟨.start isOpen fdOf, .start isOpen fdOf⟩ events

/-- A number that the table has and the kernel does not watch stays so as long as its entry
stays, whatever channels of that number ask for and however often it is opened again. -/
theorem deaf_until_removed (isOpen : SocketType → Bool) (fdOf : ChannelId → SocketType)
    {before after : List EpollEvent} {process final : EpollProcess} (fd : SocketType)
    (executed : epollMachine.AnyRun (.start isOpen fdOf) before process)
    (registered : process.isRegistered fd = true) (deaf : process.isListed fd = false)
    (continued : epollMachine.Run (StaysRegistered fd) process after final) :
    final.isRegistered fd = true ∧ final.isListed fd = false := by
  have backed := executed.invariant (Backed fdOf) (.start isOpen fdOf)
    fun _ _ _ backed _ transition => backed.step transition
  have kept := continued.invariant
    (fun process => Backed fdOf process ∧ process.isRegistered fd = true ∧
      process.isListed fd = false) ⟨backed, registered, deaf⟩
    fun _ _ _ holds stays transition => ⟨holds.1.step transition, stays _ transition,
      holds.1.stays_deaf holds.2.1 holds.2.2 transition⟩
  exact kept.2

/-- A connection's socket is closed while its channel is registered, as `ShutdownInLoop` does,
and the next accepted socket gets the number. -/
def closeAndAcceptAgain : List EpollEvent :=
  [.opened 7, .call (.setEvents 0 ⟨true, false⟩), .call (.updateChannel 0), .closed 7, .opened 7]

/-- The new connection asks for its events. -/
def newConnectionAsks : List EpollEvent :=
  [.call (.setEvents 1 ⟨true, false⟩), .call (.updateChannel 1),
    .call (.setEvents 1 ⟨true, true⟩), .call (.updateChannel 1)]

/-- Then the old channel is removed, and the new connection asks once more. -/
def oldChannelRemoved : List EpollEvent :=
  closeAndAcceptAgain ++ newConnectionAsks ++ [.call (.removeChannel 0), .call (.updateChannel 1)]

/-- After calls that fail for a closed and reused number, what the kernel reports of it has
its channel. -/
theorem registered_fd_has_channel : ∃ process,
    epollMachine.exec (.start (fun _ => false) fun _ => 7) oldChannelRemoved = some process ∧
      process.failures = 3 ∧
      ∃ who, process.poller.fdToChannel.lookup 7 = some who ∧ (process.channelOf who).fd = 7 := by
  have observed : (epollMachine.exec (.start (fun _ => false) fun _ => 7) oldChannelRemoved).map
      (fun process => (process.isListed 7, process.failures)) = some (true, 3) := by
    decide +kernel
  obtain ⟨process, executed, seen⟩ := Option.map_eq_some_iff.mp observed
  simp only [Prod.mk.injEq] at seen
  exact ⟨process, executed, seen.2,
    listed_fds_have_channels _ _ (Machine.run_of_exec executed) 7 seen.1⟩

/-- The kernel never watches the new connection, for all it asks. -/
theorem new_connection_stays_deaf : ∃ process final,
    epollMachine.exec (.start (fun _ => false) fun _ => 7) closeAndAcceptAgain = some process ∧
      epollMachine.exec process newConnectionAsks = some final ∧
      (final.channelOf 1).reading = true ∧ final.isOpen 7 = true ∧
      final.isRegistered 7 = true ∧ final.isListed 7 = false := by
  obtain ⟨process, executed⟩ : ∃ process, epollMachine.exec (.start (fun _ => false) fun _ => 7)
      closeAndAcceptAgain = some process := Option.isSome_iff_exists.mp (by decide +kernel)
  have observed : ∀ process ∈ epollMachine.exec (.start (fun _ => false) fun _ => 7)
      closeAndAcceptAgain, process.isRegistered 7 = true ∧ process.isListed 7 = false ∧
        epollMachine.Guarded (StaysRegistered 7) process newConnectionAsks ∧
        (epollMachine.exec process newConnectionAsks).map
          (fun final => ((final.channelOf 1).reading, final.isOpen 7)) = some (true, true) := by
    decide +kernel
  obtain ⟨registered, deaf, stays, asked⟩ := observed process executed
  obtain ⟨final, continued, seen⟩ := Option.map_eq_some_iff.mp asked
  simp only [Prod.mk.injEq] at seen
  exact ⟨process, final, executed, continued, seen.1, seen.2,
    deaf_until_removed _ _ 7 (Machine.run_of_exec executed) registered deaf
      (Machine.run_of_guarded continued stays)⟩

end TurboCore.Net
