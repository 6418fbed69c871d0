import Mathlib

/-!
# Separated concatenations

Lists written one after the other with a separator that does not occur in them can be
told apart again. A head may hold the separator when the last one decides; a list of
segments may hold it nowhere.
-/

namespace TurboCore.Foundation

variable {α : Type}

/-- The last separator decides where a concatenation is split. -/
theorem append_separator_inj {separator : α} {head otherHead tail otherTail : List α}
    (absent : separator ∉ tail) (otherAbsent : separator ∉ otherTail) :
    head ++ separator :: tail = otherHead ++ separator :: otherTail ↔
      head = otherHead ∧ tail = otherTail := by
  constructor
  · intro same
    rcases List.append_eq_append_iff.mp same with ⟨between, heads, tails⟩ | ⟨between, heads, tails⟩
    · cases between with
      | nil => simp_all
      | cons first rest =>
          refine absurd ?_ absent
          rw [(List.cons_eq_cons.mp tails).2]
          simp
    · cases between with
      | nil => simp_all
      | cons first rest =>
          refine absurd ?_ otherAbsent
          rw [(List.cons_eq_cons.mp tails).2]
          simp
  · rintro ⟨rfl, rfl⟩
    rfl

/-- Every segment behind a separator of its own. -/
def delimit (separator : α) (segments : List (List α)) : List α :=
  segments.flatMap fun segment => separator :: segment

@[simp] theorem delimit_nil (separator : α) : delimit separator [] = [] := rfl

@[simp] theorem delimit_cons (separator : α) (segment : List α) (segments : List (List α)) :
    delimit separator (segment :: segments) =
      separator :: (segment ++ delimit separator segments) := by
  simp [delimit]

theorem delimit_concat (separator : α) (segments : List (List α)) (segment : List α) :
    delimit separator (segments ++ [segment]) =
      delimit separator segments ++ separator :: segment := by
  simp [delimit]

/-- Segments that hold no separator are read back from their concatenation: the last one
first, by the last separator. -/
theorem delimit_injective {separator : α} {segments others : List (List α)}
    (absent : ∀ segment ∈ segments, separator ∉ segment)
    (otherAbsent : ∀ segment ∈ others, separator ∉ segment)
    (same : delimit separator segments = delimit separator others) : segments = others := by
  induction segments using List.reverseRecOn generalizing others with
  | nil =>
      cases others with
      | nil => rfl
      | cons segment others =>
          rw [delimit_cons] at same
          cases same
  | append_singleton segments segment inductionHypothesis =>
      rcases List.eq_nil_or_concat others with rfl | ⟨front, last, rfl⟩
      · rw [delimit_concat] at same
        simp at same
      · rw [List.concat_eq_append] at same otherAbsent ⊢
        rw [delimit_concat, delimit_concat] at same
        have parts := (append_separator_inj
          (absent segment (by simp)) (otherAbsent last (by simp))).mp same
        rw [parts.2, inductionHypothesis (fun other member => absent other (by simp [member]))
          (fun other member => otherAbsent other (by simp [member])) parts.1]

/-- A separator between the segments is one behind the first and then one before each. -/
theorem intercalate_cons (separator : α) (segment : List α) (segments : List (List α)) :
    [separator].intercalate (segment :: segments) = segment ++ delimit separator segments := by
  induction segments generalizing segment with
  | nil => simp
  | cons next rest inductionHypothesis =>
      rw [List.intercalate_cons_cons, inductionHypothesis, delimit_cons]
      simp

end TurboCore.Foundation
