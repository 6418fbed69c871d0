import Mathlib

/-!
# Buffered streams and files that are rolled over

A stream collects what is written to it and hands it on to its file now and then. What counts
is what the file shows after a flush. A writer that keeps a file for each key opens the next one
whenever the key changes: what a failed opening costs are all writes up to the next change.
-/

namespace TurboCore.Foundation

universe u v

/-- What a target that is there holds afterwards, with more at its end. -/
def appendAt {Path : Type u} {Item : Type v} [DecidableEq Path] (store : Path → List Item)
    (target : Option Path) (items : List Item) : Path → List Item :=
  fun path => if target = some path then store path ++ items else store path

/-- A buffered stream, and the file it is open on. -/
structure OutStream (Path : Type u) (Item : Type v) where
  target : Option Path
  pending : List Item

namespace OutStream

variable {Path : Type u} {Item : Type v}

def closed : OutStream Path Item := ⟨none, []⟩

def isOpen (stream : OutStream Path Item) : Bool := stream.target.isSome

/-- Open a closed stream for appending; the file system tells whether it can. -/
def openAt (path : Path) (opens : Bool) : OutStream Path Item :=
  ⟨if opens then some path else none, []⟩

def write (stream : OutStream Path Item) (items : List Item) : OutStream Path Item :=
  { stream with pending := stream.pending ++ items }

variable [DecidableEq Path]

/-- The buffer gives its first items to the file. -/
def spill (stream : OutStream Path Item) (store : Path → List Item) (count : Nat) :
    OutStream Path Item × (Path → List Item) :=
  ({ stream with pending := stream.pending.drop count },
    appendAt store stream.target (stream.pending.take count))

def flush (stream : OutStream Path Item) (store : Path → List Item) :
    OutStream Path Item × (Path → List Item) :=
  ({ stream with pending := [] }, appendAt store stream.target stream.pending)

def close (stream : OutStream Path Item) (store : Path → List Item) :
    OutStream Path Item × (Path → List Item) :=
  (closed, appendAt store stream.target stream.pending)

/-- What the files show once this stream has been flushed. -/
def visible (stream : OutStream Path Item) (store : Path → List Item) : Path → List Item :=
  appendAt store stream.target stream.pending

end OutStream

section Streams

variable {Path : Type u} {Item : Type v} [DecidableEq Path] {store : Path → List Item}

@[simp] theorem appendAt_none (items : List Item) : appendAt store none items = store := by
  funext path
  exact if_neg (by simp)

@[simp] theorem appendAt_nil (target : Option Path) : appendAt store target [] = store := by
  funext path
  simp [appendAt]

@[simp] theorem appendAt_append (target : Option Path) (first second : List Item) :
    appendAt (appendAt store target first) target second =
      appendAt store target (first ++ second) := by
  funext path
  by_cases same : target = some path <;> simp [appendAt, same]

theorem appendAt_of_ne {target : Option Path} {path : Path} (other : target ≠ some path)
    (items : List Item) : appendAt store target items path = store path := if_neg other

namespace OutStream

variable (stream : OutStream Path Item)

@[simp] theorem visible_spill (count : Nat) :
    (stream.spill store count).1.visible (stream.spill store count).2 = stream.visible store := by
  simp [visible, spill]

@[simp] theorem visible_flush :
    (stream.flush store).1.visible (stream.flush store).2 = stream.visible store := by
  simp [visible, flush]

@[simp] theorem visible_close :
    (stream.close store).1.visible (stream.close store).2 = stream.visible store := by
  simp [visible, close, closed]

@[simp] theorem visible_openAt (path : Path) (opens : Bool) :
    (openAt path opens : OutStream Path Item).visible store = store := by
  simp [visible, openAt]

theorem visible_write (items : List Item) :
    (stream.write items).visible store = appendAt (stream.visible store) stream.target items := by
  simp [visible, write]

/-- What happens to the file of another stream does not show in the files of this one. -/
theorem visible_congr {other : Path → List Item} {path : Path}
    (same : other path = store path) : stream.visible other path = stream.visible store path := by
  simp [visible, appendAt, same]

end OutStream

end Streams

/-- A write under a key, and whether the file of that key could be opened at that moment. -/
structure Keyed (Key : Type u) (Item : Type v) where
  key : Key
  opens : Bool
  items : List Item
deriving DecidableEq

namespace Keyed

variable {Key : Type u} {Item : Type v} [DecidableEq Key]

/-- The writes in stretches of one key. -/
def stretches (writes : List (Keyed Key Item)) : List (List (Keyed Key Item)) :=
  writes.splitBy fun first second => decide (first.key = second.key)

/-- The first write of a stretch could open the file. -/
def opened (stretch : List (Keyed Key Item)) : Bool := stretch.head?.any opens

/-- The writes of the stretches whose first one could open the file. -/
def kept (writes : List (Keyed Key Item)) : List (Keyed Key Item) :=
  ((stretches writes).filter opened).flatten

/-- The last stretch has its file open. -/
def lastOpened (writes : List (Keyed Key Item)) : Bool := (stretches writes).getLast?.any opened

/-- What has been kept under a key. -/
def contents (writes : List (Keyed Key Item)) (key : Key) : List Item :=
  ((kept writes).filter (·.key = key)).flatMap items

theorem stretches_concat_other {writes : List (Keyed Key Item)} {write : Keyed Key Item}
    (other : ∀ last ∈ writes.getLast?, last.key ≠ write.key) :
    stretches (writes ++ [write]) = stretches writes ++ [[write]] := by
  refine (List.splitBy_append_cons [] fun last ends => ?_).trans ?_
  · exact decide_eq_false (other last ends)
  · rfl

/-- A write under the same key belongs to the last stretch. -/
theorem stretches_concat_same {writes : List (Keyed Key Item)} {last write : Keyed Key Item}
    (ends : writes.getLast? = some last) (same : last.key = write.key) :
    ∃ before stretch, stretch ≠ [] ∧ stretches writes = before ++ [stretch] ∧
      stretches (writes ++ [write]) = before ++ [stretch ++ [write]] := by
  have parts : stretches writes ≠ [] := by
    rw [stretches, List.splitBy_ne_nil]
    rintro rfl
    cases ends
  obtain ⟨before, stretch, split⟩ := (List.eq_nil_or_concat _).resolve_left parts
  rw [List.concat_eq_append] at split
  obtain ⟨joined, full, chained, apart⟩ := List.splitBy_eq_iff.mp split
  have filled : stretch ≠ [] := by
    rintro rfl
    simp at full
  have endsHere : stretch.getLast? = some last := by
    rw [← ends, joined]
    simp [List.getLast?_append_of_ne_nil _ filled]
  refine ⟨before, stretch, filled, split, List.splitBy_eq_iff.mpr ⟨?_, ?_, ?_, ?_⟩⟩
  · simp [joined]
  · simp only [List.mem_append, List.mem_singleton, not_or] at full ⊢
    exact ⟨full.1, by simp⟩
  · intro part member
    rcases List.mem_append.mp member with earlier | here
    · exact chained part (List.mem_append_left _ earlier)
    · rw [List.mem_singleton.mp here, List.isChain_append]
      refine ⟨chained stretch (by simp), List.isChain_singleton _,
        fun first isLast second isHead => ?_⟩
      rw [endsHere] at isLast
      simp only [List.head?_cons, Option.mem_def, Option.some.injEq] at isLast isHead
      simp [← isLast, ← isHead, same]
  · rw [List.isChain_append] at apart ⊢
    refine ⟨apart.1, List.isChain_singleton _, fun first isLast second isHead => ?_⟩
    obtain ⟨firstFilled, _, different⟩ := apart.2.2 first isLast stretch rfl
    simp only [List.head?_cons, Option.mem_def, Option.some.injEq] at isHead
    subst isHead
    refine ⟨firstFilled, by simp, ?_⟩
    rwa [List.head_append_of_ne_nil filled]

/-- The file that a write finds open, or opens. -/
def opensFor (writes : List (Keyed Key Item)) (write : Keyed Key Item) : Bool :=
  if writes.getLast?.any (·.key = write.key) then lastOpened writes else write.opens

/-- One more write keeps what has been kept, and adds itself if its file is open. -/
theorem kept_concat (writes : List (Keyed Key Item)) (write : Keyed Key Item) :
    kept (writes ++ [write]) = kept writes ++ if opensFor writes write then [write] else [] := by
  cases ends : writes.getLast? with
  | none =>
      have other := @stretches_concat_other _ _ _ writes write (by simp [ends])
      cases able : write.opens <;> simp [kept, other, opensFor, ends, opened, able]
  | some last =>
      by_cases same : last.key = write.key
      · obtain ⟨before, stretch, filled, split, longer⟩ := stretches_concat_same ends same
        have sameStart : opened (stretch ++ [write]) = opened stretch := by
          simp [opened, List.head?_append_of_ne_nil _ filled]
        cases able : opened stretch <;>
          simp [kept, split, longer, opensFor, ends, same, lastOpened, sameStart, able]
      · have other := @stretches_concat_other _ _ _ writes write (by simp [ends, same])
        cases able : write.opens <;> simp [kept, other, opensFor, ends, same, opened, able]

/-- And leaves its file as it found it. -/
theorem lastOpened_concat (writes : List (Keyed Key Item)) (write : Keyed Key Item) :
    lastOpened (writes ++ [write]) = opensFor writes write := by
  cases ends : writes.getLast? with
  | none =>
      have other := @stretches_concat_other _ _ _ writes write (by simp [ends])
      simp [lastOpened, other, opensFor, ends, opened]
  | some last =>
      by_cases same : last.key = write.key
      · obtain ⟨before, stretch, filled, split, longer⟩ := stretches_concat_same ends same
        simp [lastOpened, split, longer, opensFor, ends, same, opened,
          List.head?_append_of_ne_nil _ filled]
      · have other := @stretches_concat_other _ _ _ writes write (by simp [ends, same])
        simp [lastOpened, other, opensFor, ends, same, opened]

theorem contents_concat (writes : List (Keyed Key Item)) (write : Keyed Key Item) (key : Key) :
    contents (writes ++ [write]) key =
      contents writes key ++
        if opensFor writes write = true ∧ write.key = key then write.items else [] := by
  cases able : opensFor writes write with
  | false => simp [contents, kept_concat, able]
  | true => by_cases same : write.key = key <;> simp [contents, kept_concat, able, same]

/-- Where every opening succeeds nothing is lost. -/
theorem kept_of_opens {writes : List (Keyed Key Item)} (able : ∀ write ∈ writes, write.opens) :
    kept writes = writes := by
  have all : (stretches writes).filter opened = stretches writes := by
    rw [List.filter_eq_self]
    intro stretch member
    have filled := List.ne_nil_of_mem_splitBy member
    obtain ⟨first, rest, rfl⟩ := List.exists_cons_of_ne_nil filled
    have known : first ∈ writes := by
      rw [← List.flatten_splitBy (fun first second => decide (first.key = second.key)) writes]
      exact List.mem_flatten.mpr ⟨_, member, List.mem_cons_self⟩
    exact able first known
  rw [kept, all]
  exact List.flatten_splitBy _ writes

end Keyed

end TurboCore.Foundation
