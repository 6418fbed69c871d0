import Mathlib
import TurboCore.Net.ServerProcess
import TurboCore.Net.WSPollPoller

/-!
# One `Poll` on both platforms

`epoll_wait` answers with some of the descriptors that are ready, `WSAPoll` marks all of
them in the array it is given, and each platform has its own event bits. After the same
calls both find the same channels with the same events for `HandleEvent`, except that the
Linux build leaves those that do not fit into `m_events` for a later round.
-/

namespace TurboCore.Net

open Foundation

/-- What the kernel finds on a socket. -/
structure Readiness where
  input : Bool
  output : Bool
  error : Bool
  hangUp : Bool
deriving DecidableEq

/-- Event words, wide enough for both platforms. -/
abbrev EventBits := BitVec 32

/-- The constants of a platform's poll interface. -/
structure PollBits where
  pollIn : EventBits
  pollOut : EventBits
  pollErr : EventBits
  pollHup : EventBits

/-- `POLLIN` and the like of Linux, and the words of the same name for `epoll`. -/
def linuxBits : PollBits := ⟨0x001, 0x004, 0x008, 0x010⟩

/-- `EPOLLRDHUP`, which no channel asks for. -/
def epollRdHup : EventBits := 0x2000

/-- The constants of Winsock; `POLLIN` is `POLLRDNORM | POLLRDBAND`. -/
def windowsBits : PollBits := ⟨0x300, 0x010, 0x001, 0x002⟩

/-- `if (events & mask) revents |= bits`. -/
def setIf (events mask bits revents : EventBits) : EventBits :=
  if events &&& mask ≠ 0 then revents ||| bits else revents

/-- The first four tests of `TransRevents`, on either platform. -/
def transBits (bits : PollBits) (events : EventBits) : EventBits :=
  setIf events bits.pollHup bits.pollHup <| setIf events bits.pollErr bits.pollErr <|
    setIf events bits.pollOut bits.pollOut <| setIf events bits.pollIn bits.pollIn 0

/-- `EpollPoller::TransRevents`. -/
def EpollPoller.transRevents (events : EventBits) : EventBits :=
  setIf events epollRdHup linuxBits.pollHup (transBits linuxBits events)

/-- `WSPollPoller::TransRevents`; Winsock has no `POLLRDHUP`. -/
def WSPollPoller.transRevents (events : EventBits) : EventBits := transBits windowsBits events

/-- The tests of `HandleEvent` on `m_revents`. -/
def readyChannel (bits : PollBits) (who : ChannelId) (revents : EventBits) : ReadyChannel where
  conn := who
  error := revents &&& bits.pollErr ≠ 0
  hangUp := revents &&& bits.pollHup ≠ 0
  readable := revents &&& bits.pollIn ≠ 0
  writable := revents &&& bits.pollOut ≠ 0

/-- What is to be handled of a socket's readiness: input and output if the channel asks for
them, errors and hang-ups always. -/
def Readiness.asked (ready : Readiness) (interest : Interest) : Readiness :=
  ⟨ready.input && interest.reading, ready.output && interest.writing, ready.error, ready.hangUp⟩

/-- Nothing is to be handled. -/
def Readiness.isSilent (ready : Readiness) : Bool :=
  !ready.input && !ready.output && !ready.error && !ready.hangUp

/-- The event word of a kernel; Winsock reports normal input as `POLLRDNORM`. -/
def Readiness.word (ready : Readiness) (inputBit : EventBits) (bits : PollBits) : EventBits :=
  (if ready.input then inputBit else 0) ||| (if ready.output then bits.pollOut else 0) |||
    (if ready.error then bits.pollErr else 0) ||| if ready.hangUp then bits.pollHup else 0

def Readiness.epollWord (ready : Readiness) : EventBits := ready.word linuxBits.pollIn linuxBits

def Readiness.wsaWord (ready : Readiness) : EventBits := ready.word 0x100 windowsBits

/-- The channel that `HandleEvent` sees. -/
def Readiness.channel (ready : Readiness) (who : ChannelId) : ReadyChannel :=
  ⟨who, ready.error, ready.hangUp, ready.input, ready.output⟩

/-- Through `epoll`'s bits and `TransRevents` the handlers see the readiness. -/
theorem readyChannel_epoll (ready : Readiness) (who : ChannelId) :
    readyChannel linuxBits who (EpollPoller.transRevents ready.epollWord) = ready.channel who := by
  obtain ⟨input, output, error, hangUp⟩ := ready
  cases input <;> cases output <;> cases error <;> cases hangUp <;> rfl

/-- Through Winsock's too. -/
theorem readyChannel_wsa (ready : Readiness) (who : ChannelId) :
    readyChannel windowsBits who (WSPollPoller.transRevents ready.wsaWord) = ready.channel who := by
  obtain ⟨input, output, error, hangUp⟩ := ready
  cases input <;> cases output <;> cases error <;> cases hangUp <;> rfl

theorem wsaWord_ne_zero (ready : Readiness) : ready.wsaWord ≠ 0 ↔ ready.isSilent = false := by
  obtain ⟨input, output, error, hangUp⟩ := ready
  cases input <;> cases output <;> cases error <;> cases hangUp <;> decide

/-! ## The Linux build -/

/-- What `epoll_wait` stores into `m_events`: distinct listed descriptors with their event
words, no more than fit, and all that have one if there is room left. -/
structure EpollWaits (epoll : EpollInstance) (maxEvents : Nat) (ready : SocketType → Readiness)
    (answer : List (SocketType × EventBits)) : Prop where
  distinct : (answer.map Prod.fst).Nodup
  fits : answer.length ≤ maxEvents
  truthful : ∀ event ∈ answer, ∃ interest, epoll.interestList.lookup event.1 = some interest ∧
    ((ready event.1).asked interest).isSilent = false ∧
    event.2 = ((ready event.1).asked interest).epollWord
  complete : answer.length < maxEvents → ∀ fd interest,
    epoll.interestList.lookup fd = some interest →
    ((ready fd).asked interest).isSilent = false → fd ∈ answer.map Prod.fst

/-- The loop of `EpollPoller::Poll` over the answer of `epoll_wait`. `none`: an assertion
fails. -/
def epollPollLoop (fdToChannel : EpollPoller) (channelOf : ChannelId → Channel) :
    List (SocketType × EventBits) → Option (List ReadyChannel)
  | [] => some []
  | (fd, events) :: answer =>
      match fdToChannel.lookup fd with
      | some who =>
          if (channelOf who).fd = fd then
            (epollPollLoop fdToChannel channelOf answer).map
              (readyChannel linuxBits who (EpollPoller.transRevents events) :: ·)
          else none
      | none => none

/-- `EpollPoller::Poll`: the active channels with their `m_revents`, and the size of `m_events`
after it, which doubles when it was full. -/
def Platform.epollPoll (platform : Platform EpollInstance) (maxEvents : Nat)
    (answer : List (SocketType × EventBits)) : Option (List ReadyChannel × Nat) :=
  (epollPollLoop platform.poller.fdToChannel platform.channelOf answer).map fun active =>
    (active, if answer.length = maxEvents then maxEvents * 2 else maxEvents)

/-! ## The Windows build -/

/-- The loop of `WSPollPoller::Poll` over `m_pollfds` and `m_channels`, which `WSAPoll` has
marked with the words `revents`. `none`: an assertion fails, or `m_channels` is too short. -/
def wsaPollLoop (channelOf : ChannelId → Channel) (revents : WSAPollFd → EventBits) :
    List WSAPollFd → List ChannelId → Option (List ReadyChannel)
  | [], _ => some []
  | pfd :: pollfds, channels =>
      if revents pfd ≠ 0 then
        match channels with
        | who :: channels =>
            if (channelOf who).fd = pfd.fd then
              (wsaPollLoop channelOf revents pollfds channels).map
                (readyChannel windowsBits who (WSPollPoller.transRevents (revents pfd)) :: ·)
            else none
        | [] => none
      else wsaPollLoop channelOf revents pollfds channels.tail

/-- `WSAPoll`'s word for one element of the array. -/
def wsaRevents (ready : SocketType → Readiness) (pfd : WSAPollFd) : EventBits :=
  ((ready pfd.fd).asked pfd.events).wsaWord

def Platform.wsaPoll (platform : Platform WSPollPoller) (ready : SocketType → Readiness) :
    Option (List ReadyChannel) :=
  wsaPollLoop platform.channelOf (wsaRevents ready) platform.poller.pollfds
    platform.poller.channels

/-! ## Both builds -/

/-- What `HandleEvent` is to see of the channel under an fd, if anything. -/
def sees (table : SocketType → Option ChannelId) (interestAt : SocketType → Option Interest)
    (ready : SocketType → Readiness) (fd : SocketType) : Option ReadyChannel :=
  match table fd, interestAt fd with
  | some who, some interest =>
      if ((ready fd).asked interest).isSilent then none
      else some (((ready fd).asked interest).channel who)
  | _, _ => none

section Loops

variable {channelOf : ChannelId → Channel} {ready : SocketType → Readiness}
  {table : SocketType → Option ChannelId} {interestAt : SocketType → Option Interest}

/-- The Linux loop sees the channels of the answer's fds. -/
theorem epollPollLoop_eq {fdToChannel : EpollPoller} {answer : List (SocketType × EventBits)}
    (known : ∀ event ∈ answer, ∃ who interest, fdToChannel.lookup event.1 = some who ∧
      (channelOf who).fd = event.1 ∧ interestAt event.1 = some interest ∧
      ((ready event.1).asked interest).isSilent = false ∧
      event.2 = ((ready event.1).asked interest).epollWord) :
    epollPollLoop fdToChannel channelOf answer =
      some ((answer.map Prod.fst).filterMap (sees fdToChannel.lookup interestAt ready)) := by
  induction answer with
  | nil => rfl
  | cons event answer inductionHypothesis =>
      obtain ⟨fd, events⟩ := event
      obtain ⟨who, interest, found, own, asked, some, word⟩ := known _ List.mem_cons_self
      simp only at found own asked some word
      have here : sees fdToChannel.lookup interestAt ready fd =
          Option.some (((ready fd).asked interest).channel who) := by
        simp [sees, found, asked, some]
      rw [epollPollLoop, found]
      simp only
      rw [if_pos own, inductionHypothesis fun other member =>
        known other (List.mem_cons_of_mem _ member), List.map_cons, List.filterMap_cons, here, word,
        readyChannel_epoll]
      rfl

/-- The Windows loop sees the channels of all fds of the array. -/
theorem wsaPollLoop_eq {pollfds : List WSAPollFd} {channels : List ChannelId}
    (aligned : channels.map (fun who => (channelOf who).fd) = pollfds.map WSAPollFd.fd)
    (known : ∀ pfd who, (pfd, who) ∈ pollfds.zip channels →
      table pfd.fd = some who ∧ interestAt pfd.fd = some pfd.events) :
    wsaPollLoop channelOf (wsaRevents ready) pollfds channels =
      some ((pollfds.map WSAPollFd.fd).filterMap (sees table interestAt ready)) := by
  induction pollfds generalizing channels with
  | nil => rfl
  | cons pfd pollfds inductionHypothesis =>
      cases channels with
      | nil => simp at aligned
      | cons who channels =>
          simp only [List.map_cons, List.cons.injEq] at aligned
          obtain ⟨found, asked⟩ := known pfd who (by simp)
          have later := inductionHypothesis aligned.2 fun other holder member =>
            known other holder (by simp [member])
          rw [wsaPollLoop, List.map_cons, List.filterMap_cons]
          have marked := wsaWord_ne_zero ((ready pfd.fd).asked pfd.events)
          by_cases silent : ((ready pfd.fd).asked pfd.events).isSilent = true
          · have unmarked : ¬ wsaRevents ready pfd ≠ 0 := by
              rw [wsaRevents, marked, silent]
              simp
            rw [if_neg unmarked, List.tail_cons, later]
            simp [sees, found, asked, silent]
          · rw [Bool.not_eq_true] at silent
            rw [if_pos (show wsaRevents ready pfd ≠ 0 from marked.mpr silent), if_pos aligned.1,
              later, wsaRevents, readyChannel_wsa]
            simp [sees, found, asked, silent]

end Loops

/-- Sublists up to order are kept by a partial map. -/
private theorem subperm_filterMap {α β : Type} {first second : List α} (image : α → Option β)
    (part : first.Subperm second) :
    (first.filterMap image).Subperm (second.filterMap image) := by
  obtain ⟨middle, same, inside⟩ := part
  exact ⟨middle.filterMap image, same.filterMap image, inside.filterMap image⟩

namespace TablesAgree

variable {fdOf : ChannelId → SocketType} {onWindows : Platform WSPollPoller}
  {onLinux : Platform EpollInstance} {ready : SocketType → Readiness}

/-- The elements of the two vectors at one place are registered together. -/
theorem of_mem_zip (same : TablesAgree fdOf onWindows onLinux) {pfd : WSAPollFd}
    {who : ChannelId}
    (member : (pfd, who) ∈ onWindows.poller.pollfds.zip onWindows.poller.channels) :
    onLinux.poller.fdToChannel.lookup pfd.fd = some who ∧
      onLinux.poller.interestList.lookup pfd.fd = some pfd.events := by
  obtain ⟨idx, inside, at_idx⟩ := List.mem_iff_getElem.mp member
  rw [List.length_zip, lt_min_iff] at inside
  rw [List.getElem_zip, Prod.mk.injEq] at at_idx
  have key : onWindows.poller.fds[idx]? = some pfd.fd := by
    rw [WSPollPoller.fds, List.getElem?_map, List.getElem?_eq_getElem inside.1, at_idx.1]
    rfl
  have filed := (same.aligned.index _ _).mpr key
  constructor
  · rw [← same.channel, WSPollPoller.channelAt, IndexedList.through, filed, Option.bind_some,
      List.getElem?_eq_getElem inside.2, at_idx.2]
  · rw [← same.interest, WSPollPoller.interestAt, IndexedList.through, filed, Option.bind_some,
      List.getElem?_eq_getElem inside.1, at_idx.1]
    rfl

theorem wsaPoll_eq (same : TablesAgree fdOf onWindows onLinux) :
    onWindows.wsaPoll ready = some (onWindows.poller.fds.filterMap
      (sees onLinux.poller.fdToChannel.lookup onLinux.poller.interestList.lookup ready)) := by
  refine wsaPollLoop_eq ?_ fun pfd who member => same.of_mem_zip member
  simp only [same.fds]
  exact same.aligned.channelFds

/-- Every listed fd is the fd of one channel of the array. -/
theorem mem_fds (same : TablesAgree fdOf onWindows onLinux) {fd : SocketType}
    {interest : Interest} (listed : onLinux.poller.interestList.lookup fd = some interest) :
    fd ∈ onWindows.poller.fds ∧ ∃ who, onLinux.poller.fdToChannel.lookup fd = some who ∧
      (onLinux.channelOf who).fd = fd := by
  have known : (onLinux.poller.fdToChannel.lookup fd).isSome = true := by
    rw [← same.listed fd, listed]
    rfl
  obtain ⟨who, found⟩ := Option.isSome_iff_exists.mp known
  have through := found
  rw [← same.channel, WSPollPoller.channelAt, IndexedList.through, Option.bind_eq_some_iff]
    at through
  obtain ⟨idx, filed, held⟩ := through
  have key := (same.aligned.index _ _).mp filed
  have own : onWindows.poller.fds[idx]? = some (fdOf who) := by
    rw [← same.aligned.channelFds, List.getElem?_map, held]
    rfl
  refine ⟨List.mem_of_getElem? key, who, found, ?_⟩
  rw [← same.channelOf, same.fds who]
  exact Option.some.inj (own.symm.trans key)

/-- No fd is in the array twice. -/
theorem nodup_fds (same : TablesAgree fdOf onWindows onLinux) : onWindows.poller.fds.Nodup := by
  rw [List.nodup_iff_injective_get]
  intro first second equal
  have firstFiled := (same.aligned.index _ _).mpr (List.getElem?_eq_getElem first.isLt)
  have secondFiled := (same.aligned.index _ _).mpr (List.getElem?_eq_getElem second.isLt)
  rw [List.get_eq_getElem, List.get_eq_getElem] at equal
  rw [equal, secondFiled] at firstFiled
  exact Fin.ext (Option.some.inj firstFiled).symm

/-- The Linux build finds, of the channels that the Windows build does, those of the answer. -/
theorem polls (same : TablesAgree fdOf onWindows onLinux) {maxEvents : Nat}
    {answer : List (SocketType × EventBits)}
    (waits : EpollWaits onLinux.poller maxEvents ready answer) :
    ∃ onWindowsActive onLinuxActive,
      onWindows.wsaPoll ready = some onWindowsActive ∧
      onLinux.epollPoll maxEvents answer = some (onLinuxActive,
        if answer.length = maxEvents then maxEvents * 2 else maxEvents) ∧
      onLinuxActive.Subperm onWindowsActive ∧
      (answer.length < maxEvents → onLinuxActive.Perm onWindowsActive) := by
  let found := sees onLinux.poller.fdToChannel.lookup onLinux.poller.interestList.lookup ready
  have loop : epollPollLoop onLinux.poller.fdToChannel onLinux.channelOf answer =
      some ((answer.map Prod.fst).filterMap found) := by
    refine epollPollLoop_eq fun event member => ?_
    obtain ⟨interest, listed, some, word⟩ := waits.truthful event member
    obtain ⟨_, who, registered, own⟩ := same.mem_fds listed
    exact ⟨who, interest, registered, own, listed, some, word⟩
  have part : (answer.map Prod.fst).Subperm onWindows.poller.fds := by
    refine List.subperm_of_subset waits.distinct fun fd member => ?_
    obtain ⟨event, answered, rfl⟩ := List.mem_map.mp member
    obtain ⟨interest, listed, _⟩ := waits.truthful event answered
    exact (same.mem_fds listed).1
  refine ⟨onWindows.poller.fds.filterMap found, (answer.map Prod.fst).filterMap found,
    same.wsaPoll_eq, by rw [Platform.epollPoll, loop]; rfl, subperm_filterMap found part, ?_⟩
  intro room
  -- with room left the answer has every fd under which something is seen
  have seen : ∀ fd, (found fd).isSome = true → fd ∈ answer.map Prod.fst := by
    intro fd isSome
    simp only [found, sees] at isSome
    split at isSome
    · next who interest _ listed =>
        split at isSome
        · cases isSome
        · next some => exact waits.complete room fd interest listed (by simpa using some)
    · cases isSome
  have only : (onWindows.poller.fds.filter fun fd => (found fd).isSome).filterMap found =
      onWindows.poller.fds.filterMap found := by
    rw [List.filterMap_filter]
    congr 1
    funext fd
    cases found fd <;> rfl
  have whole : (onWindows.poller.fds.filter fun fd => (found fd).isSome).Subperm
      (answer.map Prod.fst) := by
    refine List.subperm_of_subset (same.nodup_fds.filter _) fun fd member => ?_
    exact seen fd (List.mem_filter.mp member).2
  have back := subperm_filterMap found whole
  rw [only] at back
  exact (subperm_filterMap found part).antisymm back

end TablesAgree

/-- After any calls both builds poll without a failed assertion: what the Linux build hands to
`HandleEvent` is part of what the Windows build does, and all of it unless `m_events` was
full, in which case `m_events` doubles. -/
theorem builds_poll_alike (fdOf : ChannelId → SocketType) (calls : List PollerCall) :
    ∃ onWindows onLinux, windows.exec (.start .empty fdOf) calls = some onWindows ∧
      linux.exec (.start .empty fdOf) calls = some onLinux ∧
      ∀ ready maxEvents answer, EpollWaits onLinux.poller maxEvents ready answer →
        ∃ onWindowsActive onLinuxActive,
          onWindows.wsaPoll ready = some onWindowsActive ∧
          onLinux.epollPoll maxEvents answer = some (onLinuxActive,
            if answer.length = maxEvents then maxEvents * 2 else maxEvents) ∧
          onLinuxActive.Subperm onWindowsActive ∧
          (answer.length < maxEvents → onLinuxActive.Perm onWindowsActive) := by
  obtain ⟨onWindows, onLinux, executed, executedThere, same⟩ :=
    Machine.exec_related (fun _ _ call same => TablesAgree.step same call)
      (TablesAgree.initial fdOf) calls
  rw [List.map_id'] at executedThere
  exact ⟨onWindows, onLinux, executed, executedThere, fun _ _ _ waits => same.polls waits⟩

/-- Two channels that read, the second of which writes too. -/
def readAndWrite : List PollerCall :=
  [.setEvents 0 ⟨true, false⟩, .updateChannel 0, .setEvents 1 ⟨true, true⟩, .updateChannel 1]

/-- The first has input, the second has room for output and is hung up. -/
def inputAndHangUp (fd : SocketType) : Readiness :=
  if fd = 10 then ⟨true, false, false, false⟩ else ⟨false, true, false, true⟩

/-- Both are reported, in the order of the kernel. -/
theorem both_channels_polled : ∃ onWindows onLinux,
    windows.exec (.start .empty fun who => 10 + who) readAndWrite = some onWindows ∧
      linux.exec (.start .empty fun who => 10 + who) readAndWrite = some onLinux ∧
      ∃ onWindowsActive onLinuxActive,
        onWindows.wsaPoll inputAndHangUp = some onWindowsActive ∧
        onLinux.epollPoll 128 [(11, 0x014), (10, 0x001)] = some (onLinuxActive, 128) ∧
        onLinuxActive.Perm onWindowsActive := by
  obtain ⟨onWindows, onLinux, executed, executedThere, polls⟩ :=
    builds_poll_alike (fun who => 10 + who) readAndWrite
  have observed : (linux.exec (.start .empty fun who => 10 + who) readAndWrite).map
      (fun platform => (platform.poller.interestList.lookup 10,
        platform.poller.interestList.lookup 11, platform.poller.interestList.keys)) =
      some (some ⟨true, false⟩, some ⟨true, true⟩, [11, 10]) := by decide +kernel
  rw [executedThere, Option.map_some, Option.some.injEq, Prod.mk.injEq, Prod.mk.injEq] at observed
  obtain ⟨first, second, keys⟩ := observed
  have waits : EpollWaits onLinux.poller 128 inputAndHangUp [(11, 0x014), (10, 0x001)] := by
    refine ⟨by decide, by decide, fun event member => ?_, fun _ fd interest listed _ => ?_⟩
    · simp only [List.mem_cons, List.not_mem_nil, or_false] at member
      rcases member with rfl | rfl
      · exact ⟨_, second, by decide, by decide⟩
      · exact ⟨_, first, by decide, by decide⟩
    · have member : fd ∈ onLinux.poller.interestList.keys := by
        rw [← AList.mem_keys, ← AList.lookup_isSome, listed]
        rfl
      rwa [keys] at member
  obtain ⟨onWindowsActive, onLinuxActive, polled, polledThere, _, all⟩ := polls _ _ _ waits
  exact ⟨onWindows, onLinux, executed, executedThere, onWindowsActive, onLinuxActive, polled,
    polledThere, all (by decide)⟩

end TurboCore.Net
