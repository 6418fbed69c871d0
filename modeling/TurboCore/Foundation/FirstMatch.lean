import Mathlib

/-!
# First matches in a range of positions

What a search over `[start, stop)` for the first position with a property has to return,
and how such searches are composed: a step at a time, and by a coarser search whose false
hits are passed over.
-/

namespace TurboCore.Foundation

/-- The answer of a search for the first position of `[start, stop)` that `holds`. -/
def IsFirst (holds : Nat → Prop) (start stop : Nat) : Option Nat → Prop
  | some found =>
      start ≤ found ∧ found < stop ∧ holds found ∧
        ∀ position, start ≤ position → position < found → ¬ holds position
  | none => ∀ position, start ≤ position → position < stop → ¬ holds position

namespace IsFirst

variable {holds coarse : Nat → Prop} {start stop : Nat} {answer : Option Nat}

/-- Nothing is found in an empty range. -/
theorem empty (reached : stop ≤ start) : IsFirst holds start stop none := by
  intro position above below
  omega

theorem here (inside : start < stop) (found : holds start) :
    IsFirst holds start stop (some start) := by
  refine ⟨Nat.le_refl _, inside, found, ?_⟩
  intro position above below
  omega

/-- The search goes on behind positions without the property. -/
theorem skip {later : Nat} (passed : ∀ position, start ≤ position → position < later →
      ¬ holds position) (behind : start ≤ later) (rest : IsFirst holds later stop answer) :
    IsFirst holds start stop answer := by
  cases answer with
  | none =>
      intro position above below
      by_cases reached : later ≤ position
      · exact rest position reached below
      · exact passed position above (Nat.not_le.mp reached)
  | some found =>
      obtain ⟨low, high, match_, least⟩ := rest
      refine ⟨behind.trans low, high, match_, ?_⟩
      intro position above below
      by_cases reached : later ≤ position
      · exact least position reached below
      · exact passed position above (Nat.not_le.mp reached)

/-- A coarser search that finds nothing settles the finer one. -/
theorem none_of_coarse (finer : ∀ position, holds position → coarse position)
    (searched : IsFirst coarse start stop none) : IsFirst holds start stop none := by
  intro position above below found
  exact searched position above below (finer position found)

/-- A hit of the coarser search that has the property is the answer of the finer one. -/
theorem some_of_coarse {hit : Nat} (finer : ∀ position, holds position → coarse position)
    (searched : IsFirst coarse start stop (some hit)) (found : holds hit) :
    IsFirst holds start stop (some hit) := by
  obtain ⟨low, high, _, least⟩ := searched
  exact ⟨low, high, found, fun position above below match_ =>
    least position above below (finer position match_)⟩

/-- A false hit of the coarser search is passed over. -/
theorem skip_coarse {hit : Nat} (finer : ∀ position, holds position → coarse position)
    (searched : IsFirst coarse start stop (some hit)) (falseHit : ¬ holds hit)
    (rest : IsFirst holds (hit + 1) stop answer) : IsFirst holds start stop answer := by
  obtain ⟨low, _, _, least⟩ := searched
  refine rest.skip ?_ (by omega)
  intro position above below match_
  rcases Nat.lt_succ_iff_lt_or_eq.mp below with earlier | rfl
  · exact least position above earlier (finer position match_)
  · exact falseHit match_

/-- There is only one right answer. -/
theorem unique {other : Option Nat} (first : IsFirst holds start stop answer)
    (second : IsFirst holds start stop other) : answer = other := by
  cases answer with
  | none =>
      cases other with
      | none => rfl
      | some found => exact absurd second.2.2.1 (first found second.1 second.2.1)
  | some found =>
      cases other with
      | none => exact absurd first.2.2.1 (second found first.1 first.2.1)
      | some twin =>
          have notBefore : ¬ found < twin := fun earlier => second.2.2.2 found first.1 earlier
            first.2.2.1
          have notAfter : ¬ twin < found := fun earlier => first.2.2.2 twin second.1 earlier
            second.2.2.1
          rw [Nat.le_antisymm (Nat.not_lt.mp notAfter) (Nat.not_lt.mp notBefore)]

/-- Properties that agree on the range have the same first match. -/
theorem congr {others : Nat → Prop}
    (agree : ∀ position, start ≤ position → position < stop → (holds position ↔ others position))
    (first : IsFirst holds start stop answer) : IsFirst others start stop answer := by
  cases answer with
  | none =>
      intro position above below
      rw [← agree position above below]
      exact first position above below
  | some found =>
      obtain ⟨low, high, match_, least⟩ := first
      refine ⟨low, high, (agree found low high).mp match_, ?_⟩
      intro position above below
      rw [← agree position above (below.trans high)]
      exact least position above below

end IsFirst

end TurboCore.Foundation
