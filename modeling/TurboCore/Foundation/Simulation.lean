import Mathlib
import TurboCore.Foundation.Execution

/-!
# Simulations between machines

A machine simulates another when a relation between their states carries every step of
the concrete machine to a step of the abstract one; then it carries whole runs. When
neither side can refuse a label, it carries whole executions of label lists.
-/

namespace TurboCore.Foundation

namespace Machine

universe u v w x

variable {State : Type u} {Label : Type v} {AbstractState : Type w} {AbstractLabel : Type x}

/-- Every concrete step from related states has an abstract step under the label's image,
to related states. -/
structure Simulates (abstract : Machine AbstractState AbstractLabel)
    (concrete : Machine State Label) (image : Label → AbstractLabel)
    (related : State → AbstractState → Prop) : Prop where
  step : ∀ state abstractState label next, related state abstractState →
    concrete.step state label = some next →
    ∃ abstractNext, abstract.step abstractState (image label) = some abstractNext ∧
      related next abstractNext

variable {abstract : Machine AbstractState AbstractLabel} {concrete : Machine State Label}
  {image : Label → AbstractLabel} {related : State → AbstractState → Prop}

/-- Related starts lead to related ends: the abstract run takes the images of the labels. -/
theorem Simulates.run (simulates : abstract.Simulates concrete image related)
    {start state : State} {abstractStart : AbstractState} {labels : List Label}
    (initial : related start abstractStart) (run : concrete.AnyRun start labels state) :
    ∃ abstractState, abstract.AnyRun abstractStart (labels.map image) abstractState ∧
      related state abstractState := by
  induction run with
  | nil => exact ⟨abstractStart, .nil, initial⟩
  | snoc _ _ transition inductionHypothesis =>
      obtain ⟨abstractState, prior, relates⟩ := inductionHypothesis
      obtain ⟨abstractNext, step, relatesNext⟩ :=
        simulates.step _ _ _ _ relates transition
      refine ⟨abstractNext, ?_, relatesNext⟩
      rw [List.map_append]
      exact .snoc prior trivial step

/-- When every label is enabled on both sides of related states and leads to related
states, every list of labels executes on both sides, and the ends are related. -/
theorem exec_related
    (lockstep : ∀ state abstractState label, related state abstractState →
      ∃ next abstractNext, concrete.step state label = some next ∧
        abstract.step abstractState (image label) = some abstractNext ∧
        related next abstractNext)
    {start : State} {abstractStart : AbstractState} (initial : related start abstractStart)
    (labels : List Label) :
    ∃ final abstractFinal, concrete.exec start labels = some final ∧
      abstract.exec abstractStart (labels.map image) = some abstractFinal ∧
      related final abstractFinal := by
  induction labels generalizing start abstractStart with
  | nil => exact ⟨start, abstractStart, rfl, rfl, initial⟩
  | cons label rest inductionHypothesis =>
      obtain ⟨next, abstractNext, step, abstractStep, relates⟩ :=
        lockstep start abstractStart label initial
      obtain ⟨final, abstractFinal, executed, abstractExecuted, relatesFinal⟩ :=
        inductionHypothesis relates
      refine ⟨final, abstractFinal, ?_, ?_, relatesFinal⟩
      · rw [exec, step]
        exact executed
      · rw [List.map_cons, exec, abstractStep]
        exact abstractExecuted

end Machine

end TurboCore.Foundation
