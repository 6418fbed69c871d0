import Mathlib

/-!
# Round robin with a counter that wraps

A counter that goes up by one each turn, modulo `wrap`, deals the turns out to `slots`
slots. Two slots differ by at most one turn for each time that the counter has started over,
and by one more.
-/

namespace TurboCore.Foundation

/-- The slot that gets a turn. -/
def dealtTo (wrap slots turn : Nat) : Nat := turn % wrap % slots

/-- The turns a slot has got. -/
def turnsOf (wrap slots slot turns : Nat) : Nat :=
  Nat.count (fun turn => dealtTo wrap slots turn = slot) turns

variable {wrap slots turns : Nat}

/-- Before the counter wraps it deals the turns out in order. -/
theorem turnsOf_of_le (within : turns ≤ wrap) {slot : Nat} (inside : slot < slots) :
    turnsOf wrap slots slot turns = turns / slots + if slot < turns % slots then 1 else 0 := by
  have same : turnsOf wrap slots slot turns = Nat.count (· ≡ slot [MOD slots]) turns := by
    refine le_antisymm (Nat.count_mono_left fun turn before dealt => ?_)
      (Nat.count_mono_left fun turn before congruent => ?_)
    · rw [dealtTo, Nat.mod_eq_of_lt (before.trans_le within)] at dealt
      rw [Nat.ModEq, dealt, Nat.mod_eq_of_lt inside]
    · rw [Nat.ModEq, Nat.mod_eq_of_lt inside] at congruent
      rw [dealtTo, Nat.mod_eq_of_lt (before.trans_le within), congruent]
  rw [same, Nat.count_modEq_card _ (Nat.zero_lt_of_lt inside), Nat.mod_eq_of_lt inside]

/-- Within one round no slot is more than one turn ahead of another. -/
theorem turnsOf_le_of_le (within : turns ≤ wrap) {slot other : Nat} (inside : slot < slots)
    (otherInside : other < slots) :
    turnsOf wrap slots slot turns ≤ turnsOf wrap slots other turns + 1 := by
  rw [turnsOf_of_le within inside, turnsOf_of_le within otherInside]
  split <;> split <;> omega

/-- After it has wrapped it deals as from the beginning. -/
theorem turnsOf_wrap_add (slot : Nat) :
    turnsOf wrap slots slot (wrap + turns) =
      turnsOf wrap slots slot wrap + turnsOf wrap slots slot turns := by
  rw [turnsOf, Nat.count_add]
  simp only [dealtTo, Nat.add_mod_left]
  rfl

/-- No slot is more than one turn ahead of another for each round of the counter begun. -/
theorem turnsOf_le (positive : 0 < wrap) {slot other : Nat} (inside : slot < slots)
    (otherInside : other < slots) (turns : Nat) :
    turnsOf wrap slots slot turns ≤ turnsOf wrap slots other turns + 1 + turns / wrap := by
  induction turns using Nat.strong_induction_on with
  | h turns inductionHypothesis =>
      rcases Nat.lt_or_ge turns wrap with early | late
      · exact (turnsOf_le_of_le early.le inside otherInside).trans (Nat.le_add_right _ _)
      · obtain ⟨rest, rfl⟩ := Nat.exists_eq_add_of_le late
        have fewer := inductionHypothesis rest (by omega)
        have round := turnsOf_le_of_le (le_refl wrap) inside otherInside
        rw [turnsOf_wrap_add, turnsOf_wrap_add, Nat.add_div_left rest positive]
        omega

end TurboCore.Foundation
