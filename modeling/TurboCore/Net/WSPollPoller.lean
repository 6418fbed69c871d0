import Mathlib
import TurboCore.Foundation.IndexedList
import TurboCore.Foundation.Simulation
import TurboCore.Net.EpollPoller

/-!
# The two pollers implement one registration table

`WSPollPoller` keeps `m_pollfds`, `m_channels` and `m_fd_to_idx` and deletes by swapping
the last element into the hole; `EpollPoller` keeps one map and the kernel's interest
list. Both are run on the same calls, each with its own copy of the channels, and stay
readable as the same finite maps.
-/

namespace TurboCore.Net

open Foundation Foundation.IndexedList

/-- A `Channel*`. -/
abbrev ChannelId := ConnId

/-- The events asked for: `POLLIN` and `POLLOUT`. -/
structure Interest where
  reading : Bool
  writing : Bool
deriving DecidableEq

def Channel.interest (channel : Channel) : Interest := ⟨channel.reading, channel.writing⟩

/-! ## `WSPollPoller` -/

/-- `WSAPOLLFD`; `revents` is written by `WSAPoll` and read by `Poll` only. -/
structure WSAPollFd where
  fd : SocketType
  events : Interest
deriving DecidableEq

structure WSPollPoller where
  pollfds : List WSAPollFd
  channels : List ChannelId
  fdToIdx : FiniteMap SocketType Nat

namespace WSPollPoller

/-- `WSPollPoller(loop)`. -/
def empty : WSPollPoller := ⟨[], [], ∅⟩

/-- `RemoveChannel`. `none`: an assertion fails or a vector is indexed out of range. -/
def removeChannel (poller : WSPollPoller) (channel : Channel) :
    Option (WSPollPoller × Channel) :=
  match poller.fdToIdx.lookup channel.fd with
  | none => some (poller, channel)
  | some idx =>
      if idx < poller.pollfds.length ∧ idx < poller.channels.length then
        let lastIdx := poller.pollfds.length - 1
        if idx ≠ lastIdx then
          if lastIdx < poller.channels.length then
            let pollfds := swapAt poller.pollfds idx lastIdx
            let channels := swapAt poller.channels idx lastIdx
            (pollfds[idx]?).map fun last =>
              (⟨pollfds.dropLast, channels.dropLast,
                (poller.fdToIdx.insert last.fd idx).erase channel.fd⟩,
                { channel with added := false })
          else none
        else
          some (⟨poller.pollfds.dropLast, poller.channels.dropLast,
            poller.fdToIdx.erase channel.fd⟩, { channel with added := false })
      else none

/-- `UpdateChannel`. -/
def updateChannel (poller : WSPollPoller) (who : ChannelId) (channel : Channel) :
    Option (WSPollPoller × Channel) :=
  let idx := poller.fdToIdx.lookup channel.fd
  if channel.hasNoEvents then
    if idx.isSome then poller.removeChannel channel else some (poller, channel)
  else
    let pfd : WSAPollFd := ⟨channel.fd, channel.interest⟩
    match idx with
    | none =>
        let pollfds := poller.pollfds ++ [pfd]
        some (⟨pollfds, poller.channels ++ [who],
          poller.fdToIdx.insert channel.fd (pollfds.length - 1)⟩, { channel with added := true })
    | some idx =>
        if idx < poller.pollfds.length then
          some ({ poller with pollfds := poller.pollfds.set idx pfd }, channel)
        else none

/-- The keys of the parallel vectors. -/
def fds (poller : WSPollPoller) : List SocketType := poller.pollfds.map WSAPollFd.fd

/-- The channel registered under an fd, as `Poll` finds it. -/
def channelAt (poller : WSPollPoller) (fd : SocketType) : Option ChannelId :=
  through poller.fdToIdx poller.channels fd

/-- The events `WSAPoll` is asked for under an fd. -/
def interestAt (poller : WSPollPoller) (fd : SocketType) : Option Interest :=
  (through poller.fdToIdx poller.pollfds fd).map WSAPollFd.events

/-- The three structures are aligned, `fdOf` being the constant fds of the channels. -/
structure Aligned (fdOf : ChannelId → SocketType) (poller : WSPollPoller) : Prop where
  index : Indexes poller.fds poller.fdToIdx
  channelFds : poller.channels.map fdOf = poller.fds

variable {fdOf : ChannelId → SocketType} {poller : WSPollPoller}

theorem aligned_empty : Aligned fdOf empty where
  index := Indexes.nil
  channelFds := rfl

@[simp] theorem length_fds (poller : WSPollPoller) :
    poller.fds.length = poller.pollfds.length := by
  simp [fds]

theorem Aligned.lengths (aligned : poller.Aligned fdOf) :
    poller.channels.length = poller.pollfds.length := by
  have lengths := congrArg List.length aligned.channelFds
  simpa using lengths

/-- A removal of a registered fd: both vectors lose the slot, and the key that moved is
filed at the hole. -/
theorem removeChannel_of_found (aligned : poller.Aligned fdOf) {channel : Channel} {idx : Nat}
    (found : poller.fdToIdx.lookup channel.fd = some idx) :
    poller.removeChannel channel =
      some (⟨swapPop poller.pollfds idx, swapPop poller.channels idx,
        repair poller.fdToIdx poller.fds channel.fd idx⟩, { channel with added := false }) := by
  have inside := aligned.index.lt found
  rw [length_fds] at inside
  unfold removeChannel swapPop repair
  simp only [found, aligned.lengths, inside, and_self, if_true, length_fds]
  by_cases atEnd : idx = poller.pollfds.length - 1
  · simp [atEnd]
  · have last : poller.pollfds.length - 1 < poller.pollfds.length := by omega
    have notLast : idx ≠ poller.pollfds.length - 1 := atEnd
    rw [if_pos notLast, if_pos last, if_pos notLast, if_pos notLast, if_pos notLast,
      getElem?_swapAt_last inside, if_neg notLast, if_pos rfl, fds, List.getElem?_map,
      List.getElem?_eq_getElem last]
    rfl

theorem removeChannel_of_absent {channel : Channel}
    (absent : poller.fdToIdx.lookup channel.fd = none) :
    poller.removeChannel channel = some (poller, channel) := by
  unfold removeChannel
  rw [absent]

/-- Removal keeps the vectors aligned and clears the slot of the fd, and no other. -/
theorem removeChannel_spec (aligned : poller.Aligned fdOf) (channel : Channel) :
    ∃ after, poller.removeChannel channel =
        some (after, if (poller.fdToIdx.lookup channel.fd).isSome then
          { channel with added := false } else channel) ∧
      after.Aligned fdOf ∧
      (∀ fd, after.channelAt fd = if fd = channel.fd then none else poller.channelAt fd) ∧
      ∀ fd, after.interestAt fd = if fd = channel.fd then none else poller.interestAt fd := by
  cases found : poller.fdToIdx.lookup channel.fd with
  | none =>
      refine ⟨poller, removeChannel_of_absent found, aligned, ?_, ?_⟩
      · intro fd
        split_ifs with same
        · rw [channelAt, same, through_of_absent found]
        · rfl
      · intro fd
        split_ifs with same
        · rw [interestAt, same, through_of_absent found]
          rfl
        · rfl
  | some idx =>
      have lengths : poller.channels.length = poller.fds.length := by
        rw [aligned.lengths, length_fds]
      have pollfdLengths : poller.pollfds.length = poller.fds.length := by rw [length_fds]
      refine ⟨_, removeChannel_of_found aligned found, ?_, ?_, ?_⟩
      · constructor
        · simp only [fds, map_swapPop]
          exact aligned.index.swapPop found
        · simp only [fds, map_swapPop]
          rw [aligned.channelFds, fds]
      · intro fd
        exact through_swapPop aligned.index lengths found fd
      · intro fd
        unfold interestAt
        rw [through_swapPop aligned.index pollfdLengths found fd]
        split_ifs <;> rfl

/-- A channel without events leaves no slot under its fd. -/
theorem updateChannel_of_hasNoEvents (who : ChannelId) {channel : Channel}
    (silent : channel.hasNoEvents = true) :
    poller.updateChannel who channel = poller.removeChannel channel := by
  unfold updateChannel
  cases found : poller.fdToIdx.lookup channel.fd with
  | none => simp [silent, removeChannel_of_absent found]
  | some idx => simp [silent]

/-- A channel with events leaves a slot with them under its fd; the channel of the slot
stays if there was one. -/
theorem updateChannel_of_events (aligned : poller.Aligned fdOf) {who : ChannelId}
    {channel : Channel} (own : fdOf who = channel.fd) (events : channel.hasNoEvents = false) :
    ∃ after, poller.updateChannel who channel =
        some (after, if (poller.fdToIdx.lookup channel.fd).isSome then channel else
          { channel with added := true }) ∧
      after.Aligned fdOf ∧
      (∀ fd, after.channelAt fd =
        if fd = channel.fd then some ((poller.channelAt fd).getD who)
        else poller.channelAt fd) ∧
      ∀ fd, after.interestAt fd =
        if fd = channel.fd then some channel.interest else poller.interestAt fd := by
  have lengths : poller.channels.length = poller.fds.length := by
    rw [aligned.lengths, length_fds]
  have pollfdLengths : poller.pollfds.length = poller.fds.length := by rw [length_fds]
  cases found : poller.fdToIdx.lookup channel.fd with
  | none =>
      refine ⟨⟨poller.pollfds ++ [⟨channel.fd, channel.interest⟩], poller.channels ++ [who],
        poller.fdToIdx.insert channel.fd poller.pollfds.length⟩,
        by simp [updateChannel, events, found], ?_, ?_, ?_⟩
      · constructor
        · simp only [fds, List.map_append, List.map_cons, List.map_nil]
          have pushed := aligned.index.push found
          rw [length_fds] at pushed
          exact pushed
        · simp only [fds, List.map_append, List.map_cons, List.map_nil, own]
          rw [aligned.channelFds, fds]
      · intro fd
        have pushed := through_push aligned.index lengths channel.fd who fd
        rw [length_fds] at pushed
        unfold channelAt
        rw [pushed]
        split_ifs with same
        · rw [same, through_of_absent found]
          rfl
        · rfl
      · intro fd
        have pushed := through_push aligned.index pollfdLengths channel.fd
          (⟨channel.fd, channel.interest⟩ : WSAPollFd) fd
        rw [length_fds] at pushed
        unfold interestAt
        rw [pushed]
        split_ifs <;> rfl
  | some idx =>
      have inside := aligned.index.lt found
      rw [length_fds] at inside
      have replaced : (poller.pollfds.set idx ⟨channel.fd, channel.interest⟩).map WSAPollFd.fd =
          poller.fds := by
        have atIdx := (aligned.index _ _).mp found
        obtain ⟨before, held⟩ := List.getElem?_eq_some_iff.mp atIdx
        rw [List.map_set, ← fds, ← held]
        exact List.set_getElem_self before
      refine ⟨⟨poller.pollfds.set idx ⟨channel.fd, channel.interest⟩, poller.channels,
        poller.fdToIdx⟩, by simp [updateChannel, events, found, inside], ?_, ?_, ?_⟩
      · constructor
        · rw [fds, replaced]
          exact aligned.index
        · rw [fds, replaced]
          exact aligned.channelFds
      · intro fd
        split_ifs with same
        · have registered := aligned.index.isSome_through lengths channel.fd
          rw [found] at registered
          obtain ⟨held, through_eq⟩ := Option.isSome_iff_exists.mp registered
          simp [channelAt, same, through_eq]
        · rfl
      · intro fd
        unfold interestAt
        rw [through_set aligned.index pollfdLengths found]
        split_ifs <;> rfl

end WSPollPoller

/-! ## `EpollPoller` with the kernel's interest list -/

/-- `EPOLL_CTL_ADD`, `EPOLL_CTL_MOD`, `EPOLL_CTL_DEL`. -/
inductive EpollOp where
  | add | modify | delete
deriving DecidableEq

/-- `epoll_ctl` on the interest list. Adding a listed fd and modifying or deleting an
unlisted one fail, which `UpdateEpoll` logs; it has no other failure here. -/
def epollCtl (interestList : FiniteMap SocketType Interest) (op : EpollOp) (fd : SocketType)
    (events : Interest) : FiniteMap SocketType Interest :=
  match op with
  | .add => if (interestList.lookup fd).isSome then interestList else interestList.insert fd events
  | .modify =>
      if (interestList.lookup fd).isSome then interestList.insert fd events else interestList
  | .delete => interestList.erase fd

/-- `m_fd_to_channel` and what the epoll instance `m_epoll_fd` holds. -/
structure EpollInstance where
  fdToChannel : EpollPoller
  interestList : FiniteMap SocketType Interest

namespace EpollInstance

/-- `EpollPoller(loop)`. -/
def empty : EpollInstance := ⟨∅, ∅⟩

/-- `UpdateEpoll`. -/
def updateEpoll (epoll : EpollInstance) (op : EpollOp) (channel : Channel) : EpollInstance :=
  { epoll with interestList := epollCtl epoll.interestList op channel.fd channel.interest }

/-- `RemoveChannel`. -/
def removeChannel (epoll : EpollInstance) (channel : Channel) : EpollInstance × Channel :=
  if (epoll.fdToChannel.lookup channel.fd).isSome then
    let epoll := epoll.updateEpoll .delete channel
    ({ epoll with fdToChannel := epoll.fdToChannel.erase channel.fd },
      { channel with added := false })
  else (epoll, channel)

/-- `UpdateChannel`. -/
def updateChannel (epoll : EpollInstance) (who : ChannelId) (channel : Channel) :
    EpollInstance × Channel :=
  if channel.hasNoEvents then
    if (epoll.fdToChannel.lookup channel.fd).isSome then epoll.removeChannel channel
    else (epoll, channel)
  else if (epoll.fdToChannel.lookup channel.fd).isSome then
    (epoll.updateEpoll .modify channel, channel)
  else
    let epoll := { epoll with fdToChannel := epoll.fdToChannel.insert channel.fd who }
    (epoll.updateEpoll .add channel, { channel with added := true })

/-- The map and the flag are those of the poller without the interest list. -/
theorem removeChannel_forget (epoll : EpollInstance) (channel : Channel) :
    ((epoll.removeChannel channel).1.fdToChannel, (epoll.removeChannel channel).2) =
      epoll.fdToChannel.removeChannel channel := by
  unfold removeChannel EpollPoller.removeChannel updateEpoll
  split_ifs <;> rfl

theorem updateChannel_forget (epoll : EpollInstance) (who : ChannelId) (channel : Channel) :
    ((epoll.updateChannel who channel).1.fdToChannel, (epoll.updateChannel who channel).2) =
      epoll.fdToChannel.updateChannel who channel := by
  unfold updateChannel EpollPoller.updateChannel
  split_ifs <;> first | rfl | exact removeChannel_forget epoll channel

/-- The kernel lists exactly the fds of the map. -/
def Listed (epoll : EpollInstance) : Prop :=
  ∀ fd, (epoll.interestList.lookup fd).isSome = (epoll.fdToChannel.lookup fd).isSome

variable {epoll : EpollInstance}

theorem updateChannel_of_hasNoEvents (who : ChannelId) {channel : Channel}
    (silent : channel.hasNoEvents = true) :
    epoll.updateChannel who channel = epoll.removeChannel channel := by
  unfold updateChannel removeChannel
  rw [if_pos silent]
  split_ifs <;> rfl

/-- An fd that the map does not have is not listed either. -/
theorem Listed.absent (listed : epoll.Listed) {fd : SocketType}
    (absent : epoll.fdToChannel.lookup fd = none) : epoll.interestList.lookup fd = none := by
  have same := listed fd
  rw [absent] at same
  simpa using same

/-- Removal clears the slot of the fd in both tables. -/
theorem lookup_removeChannel (listed : epoll.Listed) (channel : Channel) (fd : SocketType) :
    (epoll.removeChannel channel).1.fdToChannel.lookup fd =
        (if fd = channel.fd then none else epoll.fdToChannel.lookup fd) ∧
      (epoll.removeChannel channel).1.interestList.lookup fd =
        if fd = channel.fd then none else epoll.interestList.lookup fd := by
  constructor
  · have forget := congrArg Prod.fst (epoll.removeChannel_forget channel)
    rw [show (epoll.removeChannel channel).1.fdToChannel =
      (epoll.fdToChannel.removeChannel channel).1 from forget]
    exact EpollPoller.lookup_removeChannel _ channel fd
  · unfold removeChannel
    cases found : epoll.fdToChannel.lookup channel.fd with
    | none =>
        simp only [Option.isSome_none, Bool.false_eq_true, if_false]
        split_ifs with same
        · rw [same]
          exact listed.absent found
        · rfl
    | some held => exact FiniteMap.lookup_erase _ _ _

/-- An update with events files them under the fd, for the channel that was there. -/
theorem lookup_updateChannel (listed : epoll.Listed) (who : ChannelId) {channel : Channel}
    (events : channel.hasNoEvents = false) (fd : SocketType) :
    (epoll.updateChannel who channel).1.fdToChannel.lookup fd =
        (if fd = channel.fd then some ((epoll.fdToChannel.lookup fd).getD who)
          else epoll.fdToChannel.lookup fd) ∧
      (epoll.updateChannel who channel).1.interestList.lookup fd =
        if fd = channel.fd then some channel.interest else epoll.interestList.lookup fd := by
  constructor
  · have forget := congrArg Prod.fst (epoll.updateChannel_forget who channel)
    rw [show (epoll.updateChannel who channel).1.fdToChannel =
      (epoll.fdToChannel.updateChannel who channel).1 from forget,
      EpollPoller.lookup_updateChannel_of_events events]
    split_ifs with same
    · rw [same]
    · rfl
  · have sameListed := listed channel.fd
    unfold updateChannel updateEpoll epollCtl
    rw [if_neg (by simp [events])]
    cases found : epoll.fdToChannel.lookup channel.fd with
    | none =>
        rw [found] at sameListed
        simp only [sameListed, Option.isSome_none, Bool.false_eq_true, if_false,
          FiniteMap.lookup_insert]
    | some held =>
        rw [found] at sameListed
        simp only [sameListed, Option.isSome_some, if_true, FiniteMap.lookup_insert]

end EpollInstance

/-! ## Both pollers on the same calls -/

/-- A change of what a channel asks for, and the two calls of `Poller`. -/
inductive PollerCall where
  | setEvents (who : ChannelId) (events : Interest)
  | updateChannel (who : ChannelId)
  | removeChannel (who : ChannelId)

/-- One platform's poller with its channels. -/
structure Platform (Poller : Type) where
  poller : Poller
  channelOf : ChannelId → Channel

namespace Platform

variable {Poller : Type}

/-- A poller just created, and channels that no poller has seen. -/
def start (poller : Poller) (fdOf : ChannelId → SocketType) : Platform Poller :=
  ⟨poller, fun who => Channel.ofFd (fdOf who)⟩

/-- Store what a call returned for its channel. -/
def store (platform : Platform Poller) (who : ChannelId) (result : Poller × Channel) :
    Platform Poller :=
  ⟨result.1, Function.update platform.channelOf who result.2⟩

/-- One call, on a poller given by its two functions. -/
def step (update : Poller → ChannelId → Channel → Option (Poller × Channel))
    (remove : Poller → Channel → Option (Poller × Channel)) (platform : Platform Poller) :
    PollerCall → Option (Platform Poller)
  | .setEvents who events =>
      some { platform with
        channelOf := Function.update platform.channelOf who
          { platform.channelOf who with reading := events.reading, writing := events.writing } }
  | .updateChannel who =>
      (update platform.poller who (platform.channelOf who)).map (platform.store who)
  | .removeChannel who => (remove platform.poller (platform.channelOf who)).map (platform.store who)

end Platform

/-- The Windows build. -/
def windows : Machine (Platform WSPollPoller) PollerCall where
  step := Platform.step WSPollPoller.updateChannel WSPollPoller.removeChannel

/-- The Linux build. -/
def linux : Machine (Platform EpollInstance) PollerCall where
  step := Platform.step (fun epoll who channel => some (epoll.updateChannel who channel))
    fun epoll channel => some (epoll.removeChannel channel)

/-- The same channels, and both pollers readable as the same table. -/
structure TablesAgree (fdOf : ChannelId → SocketType) (onWindows : Platform WSPollPoller)
    (onLinux : Platform EpollInstance) : Prop where
  aligned : onWindows.poller.Aligned fdOf
  fds : ∀ who, (onWindows.channelOf who).fd = fdOf who
  channelOf : onWindows.channelOf = onLinux.channelOf
  channel : ∀ fd, onWindows.poller.channelAt fd = onLinux.poller.fdToChannel.lookup fd
  interest : ∀ fd, onWindows.poller.interestAt fd = onLinux.poller.interestList.lookup fd

namespace TablesAgree

variable {fdOf : ChannelId → SocketType} {onWindows : Platform WSPollPoller}
  {onLinux : Platform EpollInstance}

theorem initial (fdOf : ChannelId → SocketType) :
    TablesAgree fdOf (.start .empty fdOf) (.start .empty fdOf) where
  aligned := WSPollPoller.aligned_empty
  fds := fun _ => rfl
  channelOf := rfl
  channel := fun _ => rfl
  interest := fun _ => rfl

/-- The two pollers know the same fds. -/
theorem registered (same : TablesAgree fdOf onWindows onLinux) (fd : SocketType) :
    (onWindows.poller.fdToIdx.lookup fd).isSome =
      (onLinux.poller.fdToChannel.lookup fd).isSome := by
  have parallel : onWindows.poller.channels.length = onWindows.poller.fds.length := by
    rw [same.aligned.lengths, WSPollPoller.length_fds]
  rw [← same.aligned.index.isSome_through parallel, ← same.channel fd]
  rfl

theorem listed (same : TablesAgree fdOf onWindows onLinux) : onLinux.poller.Listed := by
  intro fd
  have parallel : onWindows.poller.pollfds.length = onWindows.poller.fds.length := by
    rw [WSPollPoller.length_fds]
  rw [← same.interest fd, ← same.registered fd, WSPollPoller.interestAt, Option.isSome_map,
    same.aligned.index.isSome_through parallel]

/-- The results of one call, stored on both sides, agree again. -/
theorem store (same : TablesAgree fdOf onWindows onLinux) (who : ChannelId)
    {poller : WSPollPoller} {result : EpollInstance × Channel}
    (own : result.2.fd = fdOf who) (aligned : poller.Aligned fdOf)
    (channels : ∀ fd, poller.channelAt fd = result.1.fdToChannel.lookup fd)
    (interests : ∀ fd, poller.interestAt fd = result.1.interestList.lookup fd) :
    TablesAgree fdOf (onWindows.store who (poller, result.2)) (onLinux.store who result) where
  aligned := aligned
  fds := by
    intro other
    rcases eq_or_ne other who with rfl | distinct
    · simpa [Platform.store] using own
    · simpa [Platform.store, Function.update_of_ne distinct] using same.fds other
  channelOf := by
    simp only [Platform.store, same.channelOf]
  channel := channels
  interest := interests

theorem removeChannel (same : TablesAgree fdOf onWindows onLinux) (who : ChannelId) :
    ∃ next, windows.step onWindows (.removeChannel who) = some next ∧
      ∃ other, linux.step onLinux (.removeChannel who) = some other ∧
        TablesAgree fdOf next other := by
  obtain ⟨after, removed, aligned, channels, interests⟩ :=
    WSPollPoller.removeChannel_spec same.aligned (onWindows.channelOf who)
  refine ⟨_, congrArg (Option.map (onWindows.store who)) removed,
    onLinux.store who (onLinux.poller.removeChannel (onLinux.channelOf who)), rfl, ?_⟩
  have flag : (onLinux.poller.removeChannel (onLinux.channelOf who)).2 =
      if (onWindows.poller.fdToIdx.lookup (onWindows.channelOf who).fd).isSome then
        { onWindows.channelOf who with added := false } else onWindows.channelOf who := by
    rw [same.registered, same.channelOf]
    unfold EpollInstance.removeChannel
    split_ifs <;> rfl
  have cleared := fun fd =>
    EpollInstance.lookup_removeChannel same.listed (onLinux.channelOf who) fd
  rw [← flag]
  refine same.store who ?_ aligned (fun fd => ?_) fun fd => ?_
  · rw [flag]
    split_ifs <;> exact same.fds who
  · rw [channels fd, (cleared fd).1, same.channelOf, same.channel fd]
  · rw [interests fd, (cleared fd).2, same.channelOf, same.interest fd]

theorem updateChannel (same : TablesAgree fdOf onWindows onLinux) (who : ChannelId) :
    ∃ next, windows.step onWindows (.updateChannel who) = some next ∧
      ∃ other, linux.step onLinux (.updateChannel who) = some other ∧
        TablesAgree fdOf next other := by
  cases silent : (onWindows.channelOf who).hasNoEvents with
  | true =>
      have silentThere : (onLinux.channelOf who).hasNoEvents = true := same.channelOf ▸ silent
      obtain ⟨next, stepped, other, steppedThere, relates⟩ := same.removeChannel who
      refine ⟨next, ?_, other, ?_, relates⟩
      · simpa only [windows, Platform.step,
          WSPollPoller.updateChannel_of_hasNoEvents who silent] using stepped
      · simpa only [linux, Platform.step,
          EpollInstance.updateChannel_of_hasNoEvents who silentThere] using steppedThere
  | false =>
      have events : (onLinux.channelOf who).hasNoEvents = false := same.channelOf ▸ silent
      obtain ⟨after, updated, aligned, channels, interests⟩ :=
        WSPollPoller.updateChannel_of_events same.aligned (same.fds who).symm silent
      refine ⟨_, congrArg (Option.map (onWindows.store who)) updated,
        onLinux.store who (onLinux.poller.updateChannel who (onLinux.channelOf who)), rfl, ?_⟩
      have flag : (onLinux.poller.updateChannel who (onLinux.channelOf who)).2 =
          if (onWindows.poller.fdToIdx.lookup (onWindows.channelOf who).fd).isSome then
            onWindows.channelOf who else { onWindows.channelOf who with added := true } := by
        rw [same.registered, same.channelOf]
        unfold EpollInstance.updateChannel
        rw [if_neg (by simp [events])]
        split_ifs <;> rfl
      have filed := fun fd =>
        EpollInstance.lookup_updateChannel same.listed who events fd
      rw [← flag]
      refine same.store who ?_ aligned (fun fd => ?_) fun fd => ?_
      · rw [flag]
        split_ifs <;> exact same.fds who
      · rw [channels fd, (filed fd).1, same.channelOf, same.channel fd]
      · rw [interests fd, (filed fd).2, same.channelOf, same.interest fd]

/-- One call keeps the two pollers together, and neither side gets stuck on it. -/
theorem step (same : TablesAgree fdOf onWindows onLinux) (call : PollerCall) :
    ∃ next other, windows.step onWindows call = some next ∧
      linux.step onLinux call = some other ∧ TablesAgree fdOf next other := by
  cases call with
  | setEvents who events =>
      refine ⟨_, _, rfl, rfl, ⟨same.aligned, ?_, ?_, same.channel, same.interest⟩⟩
      · intro other
        rcases eq_or_ne other who with rfl | distinct
        · simpa using same.fds other
        · simpa [Function.update_of_ne distinct] using same.fds other
      · simp only [same.channelOf]
  | updateChannel who =>
      obtain ⟨next, stepped, other, steppedThere, relates⟩ := same.updateChannel who
      exact ⟨next, other, stepped, steppedThere, relates⟩
  | removeChannel who =>
      obtain ⟨next, stepped, other, steppedThere, relates⟩ := same.removeChannel who
      exact ⟨next, other, stepped, steppedThere, relates⟩

end TablesAgree

/-- Whatever calls arrive, no assertion or index of `WSPollPoller` fails, both pollers
hold the same fds with the same channel and the same events, every channel has the same
flag, and the three structures stay aligned. -/
theorem pollers_hold_one_table (fdOf : ChannelId → SocketType) (calls : List PollerCall) :
    ∃ onWindows onLinux, windows.exec (.start .empty fdOf) calls = some onWindows ∧
      linux.exec (.start .empty fdOf) calls = some onLinux ∧
      (∀ fd, (onWindows.poller.fdToIdx.lookup fd).isSome =
        (onLinux.poller.fdToChannel.lookup fd).isSome) ∧
      (∀ fd, onWindows.poller.channelAt fd = onLinux.poller.fdToChannel.lookup fd) ∧
      (∀ fd, onWindows.poller.interestAt fd = onLinux.poller.interestList.lookup fd) ∧
      (∀ who, (onWindows.channelOf who).added = (onLinux.channelOf who).added) ∧
      onWindows.poller.channels.length = onWindows.poller.pollfds.length ∧
      (∀ fd idx, onWindows.poller.fdToIdx.lookup fd = some idx →
        idx < onWindows.poller.pollfds.length) ∧
      (∀ idx, idx < onWindows.poller.pollfds.length →
        ∃! fd, onWindows.poller.fdToIdx.lookup fd = some idx) ∧
      ∀ idx pfd who, onWindows.poller.pollfds[idx]? = some pfd →
        onWindows.poller.channels[idx]? = some who →
        pfd.fd = (onWindows.channelOf who).fd ∧
          onWindows.poller.fdToIdx.lookup pfd.fd = some idx := by
  obtain ⟨onWindows, onLinux, executed, executedThere, same⟩ :=
    Machine.exec_related (fun _ _ call same => TablesAgree.step same call)
      (TablesAgree.initial fdOf) calls
  rw [List.map_id'] at executedThere
  refine ⟨onWindows, onLinux, executed, executedThere, same.registered, same.channel,
    same.interest, fun who => by rw [same.channelOf], same.aligned.lengths, ?_, ?_, ?_⟩
  · intro fd idx found
    have inside := same.aligned.index.lt found
    rwa [WSPollPoller.length_fds] at inside
  · intro idx inside
    rw [← WSPollPoller.length_fds] at inside
    exact same.aligned.index.existsUnique inside
  · intro idx pfd who atIdx channelAtIdx
    have key : onWindows.poller.fds[idx]? = some pfd.fd := by
      rw [WSPollPoller.fds, List.getElem?_map, atIdx]
      rfl
    have own : onWindows.poller.fds[idx]? = some (fdOf who) := by
      rw [← same.aligned.channelFds, List.getElem?_map, channelAtIdx]
      rfl
    refine ⟨?_, (same.aligned.index _ _).mpr key⟩
    rw [same.fds who]
    exact Option.some.inj (key.symm.trans own)

end TurboCore.Net
