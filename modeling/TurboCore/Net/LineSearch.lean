import Mathlib
import TurboCore.Foundation.FirstMatch
import TurboCore.Net.Buffer

/-!
# Searching a buffer for line ends

`FindCRLF` lets `memchr` jump from one carriage return to the next inside the readable
bytes, and `FindEOL` is one `memchr`. Pointers into the array are written as its indices.
-/

namespace TurboCore.Net

open Foundation

/-- `memchr(buf + position, byte, count)`: the index of the first such byte. -/
def memchr (buf : List UInt8) (byte : UInt8) : Nat → Nat → Option Nat
  | _, 0 => none
  | position, count + 1 =>
      if buf[position]? = some byte then some position else memchr buf byte (position + 1) count

/-- `memchr` finds the first byte of its kind among `count` of them. -/
theorem isFirst_memchr (buf : List UInt8) (byte : UInt8) (position count : Nat) :
    IsFirst (fun index => buf[index]? = some byte) position (position + count)
      (memchr buf byte position count) := by
  induction count generalizing position with
  | zero => exact IsFirst.empty (Nat.le_refl _)
  | succ count inductionHypothesis =>
      rw [memchr]
      by_cases hit : buf[position]? = some byte
      · rw [if_pos hit]
        exact IsFirst.here (by omega) hit
      · rw [if_neg hit]
        have rest := inductionHypothesis (position + 1)
        rw [show position + 1 + count = position + (count + 1) by omega] at rest
        refine rest.skip ?_ (Nat.le_succ _)
        intro index above below
        rwa [Nat.le_antisymm (Nat.lt_succ_iff.mp below) above]

theorem memchr_bounds {buf : List UInt8} {byte : UInt8} {position count hit : Nat}
    (found : memchr buf byte position count = some hit) :
    position ≤ hit ∧ hit < position + count := by
  have first := isFirst_memchr buf byte position count
  rw [found] at first
  exact ⟨first.1, first.2.1⟩

/-- `'\r'` and `'\n'`. -/
def carriageReturn : UInt8 := 0x0D

def lineFeed : UInt8 := 0x0A

namespace Buffer

/-- The `while` of `FindCRLF` from `position` on, up to `end`. Each turn starts behind the
carriage return of the one before. -/
def findCRLFLoop (buf : List UInt8) (stop position : Nat) : Option Nat :=
  match found : memchr buf carriageReturn position (stop - position) with
  | none => none
  | some hit =>
      if hit + 1 < stop ∧ buf[hit + 1]? = some lineFeed then some hit
      else findCRLFLoop buf stop (hit + 1)
termination_by stop - position
decreasing_by
  have bounds := memchr_bounds found
  omega

/-- `FindCRLF(start)`, `start` at or behind `Peek()`. -/
def findCRLFFrom (buffer : Buffer) (start : Nat) : Option Nat :=
  findCRLFLoop buffer.buf buffer.writeIdx start

/-- `FindCRLF()`. -/
def findCRLF (buffer : Buffer) : Option Nat := buffer.findCRLFFrom buffer.readIdx

/-- `FindEOL(start)`. -/
def findEOLFrom (buffer : Buffer) (start : Nat) : Option Nat :=
  memchr buffer.buf lineFeed start (buffer.writeIdx - start)

/-- `FindEOL()`. -/
def findEOL (buffer : Buffer) : Option Nat := buffer.findEOLFrom buffer.readIdx

/-- `FindEOL` finds the first line feed among the readable bytes behind its start. -/
theorem isFirst_findEOLFrom (buffer : Buffer) {start : Nat} (high : start ≤ buffer.writeIdx) :
    IsFirst (fun index => buffer.buf[index]? = some lineFeed) start buffer.writeIdx
      (buffer.findEOLFrom start) := by
  have first := isFirst_memchr buffer.buf lineFeed start (buffer.writeIdx - start)
  rwa [Nat.add_sub_cancel' high] at first

/-- A carriage return and a line feed behind it, both before `stop`. -/
def CRLFAt (buf : List UInt8) (stop position : Nat) : Prop :=
  position + 1 < stop ∧ buf[position]? = some carriageReturn ∧
    buf[position + 1]? = some lineFeed

/-- The loop finds the first line end, wherever it starts in front of `stop`. -/
theorem isFirst_findCRLFLoop (buf : List UInt8) {stop position : Nat} (inside : position ≤ stop) :
    IsFirst (CRLFAt buf stop) position stop (findCRLFLoop buf stop position) := by
  have returns : ∀ index, CRLFAt buf stop index → buf[index]? = some carriageReturn :=
    fun _ crlf => crlf.2.1
  have searched := isFirst_memchr buf carriageReturn position (stop - position)
  rw [Nat.add_sub_cancel' inside] at searched
  fun_induction findCRLFLoop buf stop position with
  | case1 position found =>
      rw [found] at searched
      exact searched.none_of_coarse returns
  | case2 position hit found feed =>
      rw [found] at searched
      exact searched.some_of_coarse returns ⟨feed.1, searched.2.2.1, feed.2⟩
  | case3 position hit found noFeed inductionHypothesis =>
      rw [found] at searched
      have behind : hit + 1 ≤ stop := searched.2.1
      have rest := isFirst_memchr buf carriageReturn (hit + 1) (stop - (hit + 1))
      rw [Nat.add_sub_cancel' behind] at rest
      refine searched.skip_coarse returns ?_ (inductionHypothesis behind rest)
      exact fun crlf => noFeed ⟨crlf.1, crlf.2.2⟩

/-- Between its indices the array holds the content. -/
theorem getElem?_buf (buffer : Buffer) {index : Nat} (low : buffer.readIdx ≤ index)
    (high : index < buffer.writeIdx) :
    buffer.buf[index]? = buffer.content[index - buffer.readIdx]? := by
  rw [content, List.getElem?_drop, Nat.add_sub_cancel' low, List.getElem?_take_of_lt high]

/-- Line ends in the readable bytes are a matter of the content. -/
theorem crlfAt_congr {buffer twin : Buffer} (sameRead : twin.readIdx = buffer.readIdx)
    (sameWrite : twin.writeIdx = buffer.writeIdx) (sameContent : twin.content = buffer.content)
    {position : Nat} (low : buffer.readIdx ≤ position) :
    CRLFAt buffer.buf buffer.writeIdx position ↔ CRLFAt twin.buf twin.writeIdx position := by
  have sameByte : ∀ index, buffer.readIdx ≤ index → index < buffer.writeIdx →
      twin.buf[index]? = buffer.buf[index]? := by
    intro index above below
    rw [twin.getElem?_buf (sameRead ▸ above) (sameWrite ▸ below), buffer.getElem?_buf above below,
      sameContent, sameRead]
  rw [CRLFAt, CRLFAt, sameWrite]
  refine and_congr_right fun inside => ?_
  rw [sameByte position low (by omega), sameByte (position + 1) (by omega) inside]

/-- For every content and every start among the readable bytes: what `FindCRLF` returns is
the first line end at or behind the start, it returns null exactly when there is none, and
a buffer with the same indices and content gives the same answer, whatever else the array
holds. -/
theorem findCRLF_returns_first (buffer : Buffer) (start : Nat) (low : buffer.readIdx ≤ start)
    (high : start ≤ buffer.writeIdx) :
    (∀ position, buffer.findCRLFFrom start = some position ↔
      start ≤ position ∧ CRLFAt buffer.buf buffer.writeIdx position ∧
        ∀ earlier, start ≤ earlier → earlier < position →
          ¬ CRLFAt buffer.buf buffer.writeIdx earlier) ∧
    (buffer.findCRLFFrom start = none ↔
      ∀ position, start ≤ position → ¬ CRLFAt buffer.buf buffer.writeIdx position) ∧
    ∀ twin : Buffer, twin.readIdx = buffer.readIdx → twin.writeIdx = buffer.writeIdx →
      twin.content = buffer.content → twin.findCRLFFrom start = buffer.findCRLFFrom start := by
  have first := isFirst_findCRLFLoop buffer.buf high
  refine ⟨fun position => ⟨fun found => ?_, fun found => ?_⟩,
    ⟨fun nothing => ?_, fun nothing => ?_⟩, ?_⟩
  · rw [findCRLFFrom] at found
    rw [found] at first
    exact ⟨first.1, first.2.2.1, first.2.2.2⟩
  · obtain ⟨above, crlf, least⟩ := found
    have inside : position < buffer.writeIdx := Nat.lt_of_succ_lt crlf.1
    have answer : IsFirst (CRLFAt buffer.buf buffer.writeIdx) start buffer.writeIdx
        (some position) := ⟨above, inside, crlf, least⟩
    exact first.unique answer
  · rw [findCRLFFrom] at nothing
    rw [nothing] at first
    intro position above crlf
    exact first position above (Nat.lt_of_succ_lt crlf.1) crlf
  · have answer : IsFirst (CRLFAt buffer.buf buffer.writeIdx) start buffer.writeIdx none :=
      fun position above _ => nothing position above
    exact first.unique answer
  · intro twin sameRead sameWrite sameContent
    have other := isFirst_findCRLFLoop twin.buf (sameWrite.symm ▸ high)
    rw [sameWrite] at other
    rw [findCRLFFrom, findCRLFFrom, sameWrite]
    refine other.unique (first.congr fun position above _ => ?_)
    have agree := crlfAt_congr sameRead sameWrite sameContent (low.trans above)
    rwa [sameWrite] at agree

/-- Two carriage returns before the line feed, one as the last readable byte, and a stale
line feed behind it. -/
theorem first_line_end_among_returns :
    let buffer : Buffer := ⟨[0x61, 0x0D, 0x0D, 0x0A, 0x0D, 0x0A], 1, 5, by decide, by decide⟩
    buffer.findCRLFFrom 1 = some 2 ∧ buffer.findCRLFFrom 3 = none := by
  intro buffer
  have fromStart := (findCRLF_returns_first buffer 1 (by decide) (by decide)).1 2
  have behind := (findCRLF_returns_first buffer 3 (by decide) (by decide)).2.1
  constructor
  · refine fromStart.mpr ⟨by decide, by unfold CRLFAt; decide, ?_⟩
    intro earlier above below crlf
    have one : earlier = 1 := by omega
    subst one
    exact absurd crlf.2.2 (by decide)
  · refine behind.mpr ?_
    intro position above crlf
    have three : position = 3 := by
      have inside := crlf.1
      change position + 1 < 5 at inside
      omega
    subst three
    exact absurd crlf.2.1 (by decide)

end Buffer

end TurboCore.Net
