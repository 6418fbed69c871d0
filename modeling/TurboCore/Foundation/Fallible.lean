import Mathlib

/-!
# Fallible computations

How a computation that may throw is taken apart: a sequence returns exactly when its
first part returns and the rest does on what it returned.
-/

namespace TurboCore.Foundation

universe u v

variable {Error : Type u} {First Second : Type v}

theorem bind_eq_ok {computation : Except Error First} {rest : First → Except Error Second}
    {result : Second} :
    (computation >>= rest) = .ok result ↔
      ∃ value, computation = .ok value ∧ rest value = .ok result := by
  cases computation with
  | error failure =>
      constructor
      · intro returned
        cases returned
      · rintro ⟨value, returned, _⟩
        cases returned
  | ok value =>
      constructor
      · intro returned
        exact ⟨value, rfl, returned⟩
      · rintro ⟨_, same, returned⟩
        cases same
        exact returned

theorem pure_eq_ok {value result : First} :
    (pure value : Except Error First) = .ok result ↔ value = result := by
  constructor
  · intro returned
    cases returned
    rfl
  · rintro rfl
    rfl

theorem map_eq_ok {computation : Except Error First} {change : First → Second}
    {result : Second} :
    (change <$> computation) = .ok result ↔
      ∃ value, computation = .ok value ∧ change value = result := by
  rw [map_eq_pure_bind, bind_eq_ok]
  simp only [pure_eq_ok]

/-- A list is mapped exactly when every element is, in order. -/
theorem mapM_eq_ok {change : First → Except Error Second} {inputs : List First}
    {results : List Second} :
    inputs.mapM change = .ok results ↔
      List.Forall₂ (fun input result => change input = .ok result) inputs results := by
  induction inputs generalizing results with
  | nil =>
      rw [List.mapM_nil, pure_eq_ok, List.forall₂_nil_left_iff]
      exact eq_comm
  | cons input rest inductionHypothesis =>
      rw [List.mapM_cons, bind_eq_ok]
      constructor
      · rintro ⟨first, changed, remaining⟩
        obtain ⟨others, restChanged, result⟩ := bind_eq_ok.mp remaining
        rw [pure_eq_ok] at result
        subst result
        exact .cons changed (inductionHypothesis.mp restChanged)
      · intro all
        cases all with
        | cons changed others =>
            refine ⟨_, changed, bind_eq_ok.mpr ⟨_, inductionHypothesis.mpr others, rfl⟩⟩

/-- Of two lists related member by member, every member of the first has its partner. -/
theorem exists_partner {Left Right : Type v} {related : Left → Right → Prop} {lefts : List Left}
    {rights : List Right} (all : List.Forall₂ related lefts rights) {left : Left}
    (member : left ∈ lefts) : ∃ right ∈ rights, related left right := by
  induction all with
  | nil => cases member
  | cons here _ inductionHypothesis =>
      rcases List.mem_cons.mp member with rfl | later
      · exact ⟨_, List.mem_cons_self, here⟩
      · obtain ⟨right, inside, partner⟩ := inductionHypothesis later
        exact ⟨right, List.mem_cons_of_mem _ inside, partner⟩

/-- Every input of a mapped list has its result there. -/
theorem exists_result_of_mapM {change : First → Except Error Second} {inputs : List First}
    {results : List Second} (mapped : inputs.mapM change = .ok results) {input : First}
    (member : input ∈ inputs) : ∃ result ∈ results, change input = .ok result := by
  have all := mapM_eq_ok.mp mapped
  exact exists_partner all member

/-- Every result of a mapped list is one of some input. -/
theorem exists_input_of_mapM {change : First → Except Error Second} {inputs : List First}
    {results : List Second} (mapped : inputs.mapM change = .ok results) {result : Second}
    (member : result ∈ results) : ∃ input ∈ inputs, change input = .ok result := by
  have all := (mapM_eq_ok.mp mapped).flip
  exact exists_partner all member

end TurboCore.Foundation
