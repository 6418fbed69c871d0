import Mathlib

/-!
# Longest accepted prefixes

What a prefix parser converts: of all prefixes of a text that a language contains, the
longest one.
-/

namespace TurboCore.Foundation

universe u

variable {Symbol : Type u} (accepts : List Symbol → Bool)

/-- The longest prefix of a text in a language, if any prefix is in it. -/
def longestPrefix (text : List Symbol) : Option (List Symbol) :=
  (text.inits.filter fun candidate => accepts candidate).getLast?

variable {accepts} {text : List Symbol}

/-- The prefixes are listed by length, the text itself last. -/
theorem exists_inits_eq (text : List Symbol) : ∃ shorter, text.inits = shorter ++ [text] := by
  induction text with
  | nil => exact ⟨[], rfl⟩
  | cons symbol rest inductionHypothesis =>
      obtain ⟨shorter, listed⟩ := inductionHypothesis
      refine ⟨[] :: shorter.map (symbol :: ·), ?_⟩
      rw [List.inits_cons, listed, List.map_append]
      rfl

/-- A text of the language is its own longest prefix. -/
theorem longestPrefix_self (whole : accepts text = true) :
    longestPrefix accepts text = some text := by
  obtain ⟨shorter, listed⟩ := exists_inits_eq text
  rw [longestPrefix, listed, List.filter_append]
  simp [whole]

end TurboCore.Foundation
