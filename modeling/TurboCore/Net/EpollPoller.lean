import Mathlib
import TurboCore.Foundation.FiniteMap

/-!
# Channels and the poller's table

`EpollPoller` keeps one table from fd numbers to channels. It tells channels apart
only by their fd: an update of a number that is in the table keeps the channel that
is registered under it.
-/

namespace TurboCore.Net

open Foundation

/-- `SocketType` on Linux. -/
abbrev SocketType := Int

/-- `INVALID_SOCKET_VALUE`. -/
def invalidSocket : SocketType := -1

/-- A connection, and with it its one `Channel`, by identity. -/
abbrev ConnId := Nat

/-- `Channel`; its fd never changes, and its events are the read and the write bit. -/
structure Channel where
  fd : SocketType
  reading : Bool
  writing : Bool
  added : Bool
deriving DecidableEq

namespace Channel

/-- `Channel(loop, fd)`. -/
def ofFd (fd : SocketType) : Channel := ⟨fd, false, false, false⟩

def hasNoEvents (channel : Channel) : Bool := !channel.reading && !channel.writing

end Channel

/-- `m_fd_to_channel`. -/
abbrev EpollPoller := FiniteMap SocketType ConnId

namespace EpollPoller

/-- `RemoveChannel`: whatever is registered under the channel's fd goes. -/
def removeChannel (poller : EpollPoller) (channel : Channel) : EpollPoller × Channel :=
  if (poller.lookup channel.fd).isSome then
    (poller.erase channel.fd, { channel with added := false })
  else (poller, channel)

/-- `UpdateChannel` of the channel of connection `self`. -/
def updateChannel (poller : EpollPoller) (self : ConnId) (channel : Channel) :
    EpollPoller × Channel :=
  if channel.hasNoEvents then
    if (poller.lookup channel.fd).isSome then poller.removeChannel channel else (poller, channel)
  else if (poller.lookup channel.fd).isSome then (poller, channel)
  else (poller.insert channel.fd self, { channel with added := true })

theorem lookup_removeChannel (poller : EpollPoller) (channel : Channel) (fd : SocketType) :
    (poller.removeChannel channel).1.lookup fd =
      if fd = channel.fd then none else poller.lookup fd := by
  unfold removeChannel
  cases found : poller.lookup channel.fd with
  | none => exact FiniteMap.lookup_eq_ite found fd
  | some other =>
      simp only [Option.isSome_some, if_true]
      exact FiniteMap.lookup_erase _ _ _

/-- A channel without events leaves no entry under its fd. -/
theorem lookup_updateChannel_of_hasNoEvents {poller : EpollPoller} {self : ConnId}
    {channel : Channel} (silent : channel.hasNoEvents = true) (fd : SocketType) :
    (poller.updateChannel self channel).1.lookup fd =
      if fd = channel.fd then none else poller.lookup fd := by
  unfold updateChannel
  rw [if_pos silent]
  cases found : poller.lookup channel.fd with
  | none => exact FiniteMap.lookup_eq_ite found fd
  | some other => exact poller.lookup_removeChannel channel fd

/-- A channel with events has an entry under its fd: its own, or the one that was there. -/
theorem lookup_updateChannel_of_events {poller : EpollPoller} {self : ConnId}
    {channel : Channel} (events : channel.hasNoEvents = false) (fd : SocketType) :
    (poller.updateChannel self channel).1.lookup fd =
      if fd = channel.fd then some ((poller.lookup channel.fd).getD self)
      else poller.lookup fd := by
  unfold updateChannel
  rw [if_neg (by simp [events])]
  cases found : poller.lookup channel.fd with
  | none =>
      simp only [Option.isSome_none, Bool.false_eq_true, if_false, Option.getD_none]
      exact FiniteMap.lookup_insert _ _ _ _
  | some other => exact FiniteMap.lookup_eq_ite found fd

/-- An update under a number that is in the table modifies the epoll interest only. -/
theorem updateChannel_of_found {poller : EpollPoller} {self : ConnId} {channel : Channel}
    (events : channel.hasNoEvents = false) (found : (poller.lookup channel.fd).isSome = true) :
    poller.updateChannel self channel = (poller, channel) := by
  unfold updateChannel
  rw [if_neg (by simp [events]), if_pos found]

/-- Neither operation changes what the channel itself asks for. -/
@[simp] theorem updateChannel_fd (poller : EpollPoller) (self : ConnId) (channel : Channel) :
    (poller.updateChannel self channel).2.fd = channel.fd := by
  unfold updateChannel removeChannel
  split_ifs <;> rfl

@[simp] theorem updateChannel_reading (poller : EpollPoller) (self : ConnId)
    (channel : Channel) : (poller.updateChannel self channel).2.reading = channel.reading := by
  unfold updateChannel removeChannel
  split_ifs <;> rfl

@[simp] theorem updateChannel_writing (poller : EpollPoller) (self : ConnId)
    (channel : Channel) : (poller.updateChannel self channel).2.writing = channel.writing := by
  unfold updateChannel removeChannel
  split_ifs <;> rfl

@[simp] theorem removeChannel_fd (poller : EpollPoller) (channel : Channel) :
    (poller.removeChannel channel).2.fd = channel.fd := by
  unfold removeChannel
  split_ifs <;> rfl

@[simp] theorem removeChannel_reading (poller : EpollPoller) (channel : Channel) :
    (poller.removeChannel channel).2.reading = channel.reading := by
  unfold removeChannel
  split_ifs <;> rfl

@[simp] theorem removeChannel_writing (poller : EpollPoller) (channel : Channel) :
    (poller.removeChannel channel).2.writing = channel.writing := by
  unfold removeChannel
  split_ifs <;> rfl

end EpollPoller

end TurboCore.Net
