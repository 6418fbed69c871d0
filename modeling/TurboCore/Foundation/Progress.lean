import Mathlib
import TurboCore.Foundation.Execution

/-!
# Progress by a measure

A machine that can always take an admitted step on which a measure goes down, until it
has reached its goal, can reach it: the admitted steps make up an execution. It cannot
where the admitted steps keep an invariant that excludes the goal.
-/

namespace TurboCore.Foundation.Machine

universe u v w

variable {State : Type u} {Label : Type v} {Measure : Type w} [LT Measure]
  {machine : Machine State Label}

/-- Some execution of admitted steps ends in the goal. -/
def Reaches (machine : Machine State Label) (admitted : Label → Prop) (start : State)
    (goal : State → Prop) : Prop :=
  ∃ labels final, (∀ label ∈ labels, admitted label) ∧
    machine.exec start labels = some final ∧ goal final

theorem Reaches.refl {admitted : Label → Prop} {start : State} {goal : State → Prop}
    (reached : goal start) : machine.Reaches admitted start goal :=
  ⟨[], start, by simp, rfl, reached⟩

/-- An admitted step in front. -/
theorem Reaches.cons {admitted : Label → Prop} {start next : State} {goal : State → Prop}
    {label : Label} (admits : admitted label) (transition : machine.step start label = some next)
    (rest : machine.Reaches admitted next goal) : machine.Reaches admitted start goal := by
  obtain ⟨labels, final, admitsAll, executed, reached⟩ := rest
  refine ⟨label :: labels, final, ?_, ?_, reached⟩
  · intro other member
    rcases List.mem_cons.mp member with rfl | later
    · exact admits
    · exact admitsAll other later
  · rw [exec, transition]
    exact executed

/-- A goal from all of whose states a second one can be reached. -/
theorem Reaches.trans {admitted : Label → Prop} {start : State} {between goal : State → Prop}
    (first : machine.Reaches admitted start between)
    (second : ∀ state, between state → machine.Reaches admitted state goal) :
    machine.Reaches admitted start goal := by
  obtain ⟨labels, middle, admitsAll, executed, reached⟩ := first
  have onwards := second middle reached
  clear second reached
  induction labels generalizing start with
  | nil =>
      simp only [exec, Option.some.injEq] at executed
      exact executed ▸ onwards
  | cons label rest inductionHypothesis =>
      simp only [exec, Option.bind_eq_some_iff] at executed
      obtain ⟨next, transition, remaining⟩ := executed
      exact .cons (admitsAll label List.mem_cons_self) transition <|
        inductionHypothesis (fun other later => admitsAll other (List.mem_cons_of_mem _ later))
          remaining

/-- What admitted steps keep and the goal excludes keeps the goal out of reach. -/
theorem not_reaches_of_kept {admitted : Label → Prop} {holds goal : State → Prop}
    (kept : ∀ state label next, holds state → admitted label →
      machine.step state label = some next → holds next)
    (excluded : ∀ state, holds state → ¬ goal state) {start : State} (initial : holds start) :
    ¬ machine.Reaches admitted start goal := by
  rintro ⟨labels, final, admitsAll, executed, reached⟩
  refine excluded final ?_ reached
  clear reached
  induction labels generalizing start with
  | nil =>
      simp only [exec, Option.some.injEq] at executed
      exact executed ▸ initial
  | cons label rest inductionHypothesis =>
      simp only [exec, Option.bind_eq_some_iff] at executed
      obtain ⟨next, transition, remaining⟩ := executed
      exact inductionHypothesis (kept _ _ _ initial (admitsAll label List.mem_cons_self) transition)
        (fun other later => admitsAll other (List.mem_cons_of_mem _ later)) remaining

/-- While the goal is not reached, some admitted step keeps the invariant and lowers the
measure. -/
def Advances (machine : Machine State Label) (admitted : Label → Prop)
    (holds goal : State → Prop) (measure : State → Measure) : Prop :=
  ∀ state, holds state → ¬ goal state →
    ∃ label next, admitted label ∧ machine.step state label = some next ∧ holds next ∧
      measure next < measure state

/-- The goal can be reached from every state with the invariant, by admitted steps only. -/
theorem Advances.reaches [WellFoundedLT Measure] {admitted : Label → Prop}
    {holds goal : State → Prop} {measure : State → Measure}
    (advances : machine.Advances admitted holds goal measure) {start : State}
    (initial : holds start) :
    machine.Reaches admitted start (fun final => holds final ∧ goal final) := by
  induction start using (InvImage.wf measure wellFounded_lt).induction with
  | h start inductionHypothesis =>
      by_cases reached : goal start
      · exact .refl ⟨initial, reached⟩
      · obtain ⟨label, next, admits, transition, kept, lower⟩ := advances start initial reached
        exact .cons admits transition (inductionHypothesis next lower kept)

end TurboCore.Foundation.Machine
