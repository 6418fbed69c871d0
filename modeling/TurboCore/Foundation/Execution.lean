import Mathlib

/-!
# Machines, runs and guarded runs

A `Machine` is a partial step function on explicit states; everything the
environment decides (schedule, kernel answers, inputs) is carried by the label.
`Machine.Run` restricts every step of a run by a guard on the state before the
step and its label, so that "every run whose steps all meet the condition" is a
type of runs and not a side remark.
-/

namespace TurboCore.Foundation

universe u v

/-- A labelled transition system given by its partial step function. -/
structure Machine (State : Type u) (Label : Type v) where
  step : State → Label → Option State

namespace Machine

variable {State : Type u} {Label : Type v} (machine : Machine State Label)

/-- Finite runs in which every step meets `guard` in the state it starts from. -/
inductive Run (guard : State → Label → Prop) (start : State) : List Label → State → Prop where
  | nil : Run guard start [] start
  | snoc {labels : List Label} {state next : State} {label : Label}
      (prior : Run guard start labels state) (admitted : guard state label)
      (transition : machine.step state label = some next) :
      Run guard start (labels ++ [label]) next

/-- Runs without any condition on their steps. -/
abbrev AnyRun (start : State) : List Label → State → Prop :=
  machine.Run (fun _ _ => True) start

/-- Execute a list of labels; `none` when some label is not enabled. -/
def exec (start : State) : List Label → Option State
  | [] => some start
  | label :: rest => (machine.step start label).bind fun next => exec next rest

variable {machine}

/-- A property of the start that every guarded step keeps holds after every guarded run. -/
theorem Run.invariant {guard : State → Label → Prop} {start state : State} {labels : List Label}
    (run : machine.Run guard start labels state) (holds : State → Prop) (initial : holds start)
    (preserved : ∀ state label next, holds state → guard state label →
      machine.step state label = some next → holds next) : holds state := by
  induction run with
  | nil => exact initial
  | snoc prior admitted transition inductionHypothesis =>
      exact preserved _ _ _ inductionHypothesis admitted transition

/-- Prefixing a run by one admitted step gives a run. -/
theorem Run.cons {guard : State → Label → Prop} {start next final : State} {label : Label}
    {labels : List Label} (admitted : guard start label)
    (transition : machine.step start label = some next)
    (rest : machine.Run guard next labels final) :
    machine.Run guard start (label :: labels) final := by
  induction rest with
  | nil => exact .snoc .nil admitted transition
  | snoc prior admitted' transition' inductionHypothesis =>
      simpa using Run.snoc inductionHypothesis admitted' transition'

/-- A run without labels goes nowhere. -/
theorem Run.of_nil {guard : State → Label → Prop} {start final : State}
    (run : machine.Run guard start [] final) : final = start := by
  generalize labelsEq : ([] : List Label) = labels at run
  cases run with
  | nil => rfl
  | snoc => simp at labelsEq

/-- The last step of a run. -/
theorem Run.of_snoc {guard : State → Label → Prop} {start final : State} {label : Label}
    {labels : List Label} (run : machine.Run guard start (labels ++ [label]) final) :
    ∃ state, machine.Run guard start labels state ∧ guard state label ∧
      machine.step state label = some final := by
  generalize labelsEq : labels ++ [label] = all at run
  cases run with
  | nil => simp at labelsEq
  | snoc prior admitted transition =>
      obtain ⟨priorEq, lastEq⟩ := List.append_inj' labelsEq rfl
      cases lastEq
      subst priorEq
      exact ⟨_, prior, admitted, transition⟩

/-- A run can be cut at any point of its list of labels. -/
theorem Run.of_append {guard : State → Label → Prop} {start final : State}
    {first second : List Label} (run : machine.Run guard start (first ++ second) final) :
    ∃ middle, machine.Run guard start first middle ∧ machine.Run guard middle second final := by
  induction second using List.reverseRecOn generalizing final with
  | nil =>
      rw [List.append_nil] at run
      exact ⟨final, run, .nil⟩
  | append_singleton rest label inductionHypothesis =>
      rw [← List.append_assoc] at run
      obtain ⟨state, prior, admitted, transition⟩ := run.of_snoc
      obtain ⟨middle, before, after⟩ := inductionHypothesis prior
      exact ⟨middle, before, .snoc after admitted transition⟩

/-- The first step of a run. -/
theorem Run.of_cons {guard : State → Label → Prop} {start final : State} {label : Label}
    {labels : List Label} (run : machine.Run guard start (label :: labels) final) :
    ∃ next, guard start label ∧ machine.step start label = some next ∧
      machine.Run guard next labels final := by
  have split : machine.Run guard start ([label] ++ labels) final := run
  obtain ⟨next, first, rest⟩ := split.of_append
  have single : machine.Run guard start ([] ++ [label]) next := first
  obtain ⟨state, none, admitted, transition⟩ := single.of_snoc
  rw [none.of_nil] at admitted transition
  exact ⟨next, admitted, transition, rest⟩

variable (machine)

/-- Every state that the labels visit, the first and the last included, has the property. -/
def Throughout (property : State → Prop) : State → List Label → Prop
  | state, [] => property state
  | state, label :: rest =>
      property state ∧ ∀ next, machine.step state label = some next → Throughout property next rest

/-- Every step that the labels take meets the guard. -/
def Guarded (guard : State → Label → Prop) : State → List Label → Prop
  | _, [] => True
  | state, label :: rest =>
      ∀ next, machine.step state label = some next →
        guard state label ∧ Guarded guard next rest

/-- Guardedness of a given list is decided by executing it. -/
instance decidableGuarded {guard : State → Label → Prop}
    [decide : ∀ state label, Decidable (guard state label)] :
    (start : State) → (labels : List Label) → Decidable (machine.Guarded guard start labels)
  | _, [] => .isTrue trivial
  | start, label :: rest =>
      match transition : machine.step start label with
      | none => .isTrue fun next possible => by rw [transition] at possible; cases possible
      | some next =>
          have : Decidable (machine.Guarded guard next rest) := decidableGuarded next rest
          decidable_of_iff (guard start label ∧ machine.Guarded guard next rest) <| by
            constructor
            · intro guarded other possible
              rw [transition] at possible
              cases possible
              exact guarded
            · intro guarded
              exact guarded next transition

variable {machine}

/-- Executing a guarded list of labels yields a guarded run. -/
theorem run_of_guarded {guard : State → Label → Prop} {start final : State} {labels : List Label}
    (executed : machine.exec start labels = some final)
    (guarded : machine.Guarded guard start labels) : machine.Run guard start labels final := by
  induction labels generalizing start with
  | nil =>
      simp only [exec, Option.some.injEq] at executed
      exact executed ▸ .nil
  | cons label rest inductionHypothesis =>
      simp only [exec, Option.bind_eq_some_iff] at executed
      obtain ⟨next, transition, remaining⟩ := executed
      obtain ⟨admitted, later⟩ := guarded next transition
      exact Run.cons admitted transition (inductionHypothesis remaining later)

/-- A guard that always holds guards every list. -/
theorem guarded_of_forall {guard : State → Label → Prop}
    (always : ∀ state label, guard state label) (start : State) (labels : List Label) :
    machine.Guarded guard start labels := by
  induction labels generalizing start with
  | nil => trivial
  | cons label rest inductionHypothesis =>
      exact fun next _ => ⟨always start label, inductionHypothesis next⟩

/-- A guarded list can be followed by one that is guarded wherever the first ends. -/
theorem Guarded.append {guard : State → Label → Prop} {start : State} {first second : List Label}
    (before : machine.Guarded guard start first)
    (after : ∀ middle, machine.exec start first = some middle →
      machine.Guarded guard middle second) :
    machine.Guarded guard start (first ++ second) := by
  induction first generalizing start with
  | nil => exact after start rfl
  | cons label rest inductionHypothesis =>
      intro next transition
      obtain ⟨admitted, later⟩ := before next transition
      refine ⟨admitted, inductionHypothesis later fun middle executed => after middle ?_⟩
      rw [exec, transition]
      exact executed

/-- The last step of a guarded list meets the guard. -/
theorem Guarded.last {guard : State → Label → Prop} {start middle next : State}
    {labels : List Label} {label : Label}
    (guarded : machine.Guarded guard start (labels ++ [label]))
    (executed : machine.exec start labels = some middle)
    (transition : machine.step middle label = some next) : guard middle label := by
  induction labels generalizing start with
  | nil =>
      simp only [exec, Option.some.injEq] at executed
      subst executed
      exact (guarded next transition).1
  | cons first rest inductionHypothesis =>
      simp only [exec, Option.bind_eq_some_iff] at executed
      obtain ⟨after, here, remaining⟩ := executed
      exact inductionHypothesis (guarded after here).2 remaining

/-- Executing a list of labels yields the run with these labels. -/
theorem run_of_exec {start final : State} {labels : List Label}
    (executed : machine.exec start labels = some final) : machine.AnyRun start labels final :=
  run_of_guarded executed (guarded_of_forall (fun _ _ => trivial) start labels)

theorem Throughout.start {property : State → Prop} {start : State} {labels : List Label}
    (visited : machine.Throughout property start labels) : property start := by
  cases labels with
  | nil => exact visited
  | cons label rest => exact visited.1

/-- A property of every state that a run visits is one of its last state. -/
theorem Throughout.of_exec {property : State → Prop} {start final : State} {labels : List Label}
    (visited : machine.Throughout property start labels)
    (executed : machine.exec start labels = some final) : property final := by
  induction labels generalizing start with
  | nil =>
      simp only [exec, Option.some.injEq] at executed
      exact executed ▸ visited
  | cons label rest inductionHypothesis =>
      simp only [exec, Option.bind_eq_some_iff] at executed
      obtain ⟨next, transition, remaining⟩ := executed
      exact inductionHypothesis (visited.2 next transition) remaining

/-- A property that no step restores once it fails holds throughout an execution at whose
end it holds. -/
theorem Throughout.of_last {holds property : State → Prop} {start final : State}
    {labels : List Label} (initial : holds start)
    (kept : ∀ state label next, holds state → machine.step state label = some next → holds next)
    (lasting : ∀ state label next, holds state → machine.step state label = some next →
      property next → property state)
    (executed : machine.exec start labels = some final) (last : property final) :
    machine.Throughout property start labels := by
  suffices ∀ labels start, holds start → machine.exec start labels = some final →
      property start ∧ machine.Throughout property start labels from
    (this labels start initial executed).2
  intro labels
  induction labels with
  | nil =>
      intro start _ executed
      simp only [exec, Option.some.injEq] at executed
      subst executed
      exact ⟨last, last⟩
  | cons label rest inductionHypothesis =>
      intro start here executed
      simp only [exec, Option.bind_eq_some_iff] at executed
      obtain ⟨next, transition, remaining⟩ := executed
      have after := inductionHypothesis next (kept _ _ _ here transition) remaining
      have before := lasting _ _ _ here transition after.1
      refine ⟨before, before, fun other possible => ?_⟩
      rw [transition] at possible
      cases possible
      exact after.2

/-- What an invariant and the guard together imply of a step holds at every step of a guarded
list. -/
theorem Guarded.of_invariant {holds : State → Prop} {guard property : State → Label → Prop}
    (kept : ∀ state label next, holds state → guard state label →
      machine.step state label = some next → holds next)
    (sound : ∀ state label next, holds state → guard state label →
      machine.step state label = some next → property state label)
    {start : State} {labels : List Label} (initial : holds start)
    (guarded : machine.Guarded guard start labels) : machine.Guarded property start labels := by
  induction labels generalizing start with
  | nil => trivial
  | cons label rest inductionHypothesis =>
      intro next transition
      obtain ⟨admitted, later⟩ := guarded next transition
      have after := kept start label next initial admitted transition
      exact ⟨sound start label next initial admitted transition, inductionHypothesis after later⟩

/-- Two guards that a list meets are met together. -/
theorem guarded_and {first second : State → Label → Prop} {start : State} {labels : List Label}
    (firstGuarded : machine.Guarded first start labels)
    (secondGuarded : machine.Guarded second start labels) :
    machine.Guarded (fun state label => first state label ∧ second state label) start labels := by
  induction labels generalizing start with
  | nil => trivial
  | cons label rest inductionHypothesis =>
      intro next transition
      obtain ⟨firstHere, firstLater⟩ := firstGuarded next transition
      obtain ⟨secondHere, secondLater⟩ := secondGuarded next transition
      exact ⟨⟨firstHere, secondHere⟩, inductionHypothesis firstLater secondLater⟩

/-- Two guards that agree under an invariant, which steps that meet the second keep, guard the
same lists. -/
theorem guarded_iff_guarded {holds : State → Prop} {first second : State → Label → Prop}
    (kept : ∀ state label next, holds state → second state label →
      machine.step state label = some next → holds next)
    (same : ∀ state label next, holds state → machine.step state label = some next →
      (first state label ↔ second state label))
    {start : State} (initial : holds start) (labels : List Label) :
    machine.Guarded first start labels ↔ machine.Guarded second start labels := by
  induction labels generalizing start with
  | nil => exact Iff.rfl
  | cons label rest inductionHypothesis =>
      constructor
      · intro guarded next transition
        obtain ⟨met, later⟩ := guarded next transition
        have admitted := (same start label next initial transition).mp met
        have after := kept start label next initial admitted transition
        exact ⟨admitted, (inductionHypothesis after).mp later⟩
      · intro guarded next transition
        obtain ⟨admitted, later⟩ := guarded next transition
        have after := kept start label next initial admitted transition
        have met := (same start label next initial transition).mpr admitted
        exact ⟨met, (inductionHypothesis after).mpr later⟩

/-- A guard is exact for a property when an invariant implies the property, guarded
steps keep the invariant, and no unguarded step from the invariant reaches the
property: then the property holds throughout exactly the guarded label lists. -/
theorem throughout_iff_guarded {holds property : State → Prop} {guard : State → Label → Prop}
    (sound : ∀ state, holds state → property state)
    (kept : ∀ state label next, holds state → guard state label →
      machine.step state label = some next → holds next)
    (sharp : ∀ state label next, holds state → machine.step state label = some next →
      property next → guard state label)
    {start : State} (initial : holds start) (labels : List Label) :
    machine.Throughout property start labels ↔ machine.Guarded guard start labels := by
  induction labels generalizing start with
  | nil => simp [Throughout, Guarded, sound start initial]
  | cons label rest inductionHypothesis =>
      constructor
      · rintro ⟨_, visited⟩ next transition
        have after := visited next transition
        have first : property next := by
          cases rest with
          | nil => exact after
          | cons _ _ => exact after.1
        have admitted := sharp start label next initial transition first
        exact ⟨admitted, (inductionHypothesis (kept _ _ _ initial admitted transition)).mp after⟩
      · intro guarded
        refine ⟨sound start initial, fun next transition => ?_⟩
        obtain ⟨admitted, remaining⟩ := guarded next transition
        exact (inductionHypothesis (kept _ _ _ initial admitted transition)).mpr remaining

end Machine

end TurboCore.Foundation
