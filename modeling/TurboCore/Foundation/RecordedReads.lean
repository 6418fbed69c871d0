import Mathlib

/-!
# Computations that record their reads

A computation over a byte memory without bounds, together with every index it reads.
`Within` says that all of them lie below a length and what the computation returns; it
is proved by composition, read by read.
-/

namespace TurboCore.Foundation

/-- The outcome of a computation and the indices it read, in order. -/
structure Recorded (failure value : Type) where
  indices : List Nat
  outcome : Except failure value

namespace Recorded

variable {failure byte state value result : Type}

/-- Read one place of the memory. -/
def read (memory : Nat → byte) (index : Nat) : Recorded failure byte :=
  ⟨[index], .ok (memory index)⟩

/-- Stop with a failure. -/
def fail (reason : failure) : Recorded failure value := ⟨[], .error reason⟩

/-- Continue with the value, if there is one; the reads of both parts are recorded. -/
def andThen (first : Recorded failure value) (next : value → Recorded failure result) :
    Recorded failure result :=
  match first.outcome with
  | .error reason => ⟨first.indices, .error reason⟩
  | .ok found => ⟨first.indices ++ (next found).indices, (next found).outcome⟩

instance : Monad (Recorded failure) where
  pure found := ⟨[], .ok found⟩
  bind := andThen

/-- A loop over `count` places from `offset` on, reading one at a time. -/
def foldRange (memory : Nat → byte) (step : state → byte → state) :
    Nat → Nat → state → Recorded failure state
  | _, 0, current => pure current
  | offset, count + 1, current => do
      let found ← read memory offset
      foldRange memory step (offset + 1) count (step current found)

/-- The reads of a part with a value, and behind them those of what follows. -/
theorem indices_bind {first : Recorded failure value} {next : value → Recorded failure result}
    {found : value} (has : first.outcome = .ok found) :
    (first >>= next).indices = first.indices ++ (next found).indices := by
  have unfolded : first >>= next = andThen first next := rfl
  rw [unfolded, andThen, has]

/-- The reads of the first part are reads of the whole. -/
theorem mem_indices_bind {first : Recorded failure value} {next : value → Recorded failure result}
    {index : Nat} (member : index ∈ first.indices) : index ∈ (first >>= next).indices := by
  cases outcome : first.outcome with
  | error reason =>
      have unfolded : first >>= next = andThen first next := rfl
      rw [unfolded, andThen, outcome]
      exact member
  | ok found =>
      rw [indices_bind outcome]
      exact List.mem_append_left _ member

/-- A loop reads every place of its range. -/
theorem indices_foldRange (memory : Nat → byte) (step : state → byte → state)
    (offset count : Nat) (current : state) :
    (foldRange memory step offset count current : Recorded failure state).indices =
      List.range' offset count := by
  induction count generalizing offset current with
  | zero => rfl
  | succ count inductionHypothesis =>
      rw [foldRange, List.range'_succ]
      exact congrArg (offset :: ·) (inductionHypothesis (offset + 1) _)

/-- Every read lies below `len`, and `outcome` is what comes back. -/
structure Within (len : Nat) (run : Recorded failure value) (outcome : Except failure value) :
    Prop where
  inside : ∀ index ∈ run.indices, index < len
  agrees : run.outcome = outcome

namespace Within

variable {len : Nat}

theorem pure (found : value) :
    Within len (Pure.pure found : Recorded failure value) (.ok found) :=
  ⟨fun _ member => (List.not_mem_nil member).elim, rfl⟩

theorem fail (reason : failure) :
    Within len (Recorded.fail reason : Recorded failure value) (.error reason) :=
  ⟨fun _ member => (List.not_mem_nil member).elim, rfl⟩

theorem read (memory : Nat → byte) {index : Nat} (below : index < len) :
    Within len (Recorded.read memory index : Recorded failure byte) (.ok (memory index)) := by
  refine ⟨?_, rfl⟩
  intro other member
  rw [List.mem_singleton.mp member]
  exact below

/-- Bounded parts make a bounded whole; the second part matters only where it runs. -/
theorem bind {first : Recorded failure value} {next : value → Recorded failure result}
    {outcome : Except failure value} {continued : value → Except failure result}
    (firstWithin : Within len first outcome)
    (nextWithin : ∀ found, outcome = .ok found → Within len (next found) (continued found)) :
    Within len (first >>= next) (outcome >>= continued) := by
  obtain ⟨inside, agrees⟩ := firstWithin
  have unfolded : first >>= next = andThen first next := rfl
  rw [unfolded, andThen]
  cases outcome with
  | error reason =>
      rw [agrees]
      exact ⟨inside, rfl⟩
  | ok found =>
      obtain ⟨nextInside, nextAgrees⟩ := nextWithin found rfl
      rw [agrees]
      refine ⟨?_, nextAgrees⟩
      intro index member
      cases List.mem_append.mp member with
      | inl early => exact inside index early
      | inr late => exact nextInside index late

/-- What follows a part that always has a value. -/
theorem bind_ok {first : Recorded failure value} {next : value → Recorded failure result}
    {found : value} {outcome : Except failure result} (firstWithin : Within len first (.ok found))
    (nextWithin : Within len (next found) outcome) : Within len (first >>= next) outcome := by
  have joined : Within len (first >>= next)
      ((.ok found : Except failure value) >>= fun _ => outcome) := by
    refine firstWithin.bind fun other same => ?_
    cases same
    exact nextWithin
  exact joined

theorem ite {condition : Prop} [Decidable condition] {yes no : Recorded failure value}
    {yesOutcome noOutcome : Except failure value}
    (yesWithin : condition → Within len yes yesOutcome)
    (noWithin : ¬ condition → Within len no noOutcome) :
    Within len (if condition then yes else no) (if condition then yesOutcome else noOutcome) := by
  by_cases holds : condition
  · simpa only [if_pos holds] using yesWithin holds
  · simpa only [if_neg holds] using noWithin holds

/-- A loop over places below `len` folds over what stands there. -/
theorem foldRange (memory : Nat → byte) (step : state → byte → state) {offset count : Nat}
    (below : offset + count ≤ len) (current : state) :
    Within len (Recorded.foldRange memory step offset count current : Recorded failure state)
      (.ok (((List.range' offset count).map memory).foldl step current)) := by
  induction count generalizing offset current with
  | zero => exact Within.pure current
  | succ count inductionHypothesis =>
      rw [List.range'_succ, List.map_cons, List.foldl_cons]
      have here : offset < len := by omega
      have behind : offset + 1 + count ≤ len := by omega
      exact (Within.read memory here).bind_ok
        (inductionHypothesis behind (step current (memory offset)))

end Within

/-- The bytes from `offset` on, as a list. -/
theorem take_drop_range_map (memory : Nat → byte) {len offset count : Nat}
    (below : offset + count ≤ len) :
    (((List.range len).map memory).drop offset).take count =
      (List.range' offset count).map memory := by
  apply List.ext_getElem
  · simp only [List.length_take, List.length_drop, List.length_map, List.length_range,
      List.length_range']
    omega
  · intro i _ _
    simp

end Recorded

end TurboCore.Foundation
