import Mathlib
import TurboCore.Foundation.Execution
import TurboCore.Registry.Manager

/-!
# Ids in the model index

`RemoveWorker` cleans the lists of the models that the worker's record names when it
runs. The registry stands here next to the models under which each id was pushed, and
the index keeps no id of an absent worker exactly when every removal of a present one
finds all of these models in the record.
-/

namespace TurboCore.Registry

open Foundation

/-- The models that the registrations of a present id named, repetitions included. -/
abbrev PushedModels := String → List String

/-- The pushes after a call: a registration adds its list, a removal forgets the id. -/
def PushedModels.push (pushed : PushedModels) : RegistryOp → PushedModels
  | .registerWorker info now =>
      let nodeId := RegistryManager.assignedId info now
      Function.update pushed nodeId (pushed nodeId ++ info.supportModels)
  | .updateHeartbeat _ _ _ _ => pushed
  | .removeWorker nodeId => Function.update pushed nodeId []

/-- A registry together with the pushes made to its index. -/
structure PushedRegistry where
  manager : RegistryManager
  pushed : PushedModels

def PushedRegistry.start : PushedRegistry := ⟨.empty, fun _ => []⟩

/-- Every call is one step, from any state. -/
def indexMachine : Machine PushedRegistry RegistryOp where
  step registry op := some ⟨registry.manager.apply op, registry.pushed.push op⟩

/-- Every id in a list of `m_model_to_nodes` is a key of `m_nodes`. -/
def NoDanglingIds (registry : PushedRegistry) : Prop :=
  ∀ modelName, ∀ nodeId ∈ registry.manager.modelToNodes.bucket modelName,
    (registry.manager.nodes.lookup nodeId).isSome = true

/-- A removal finds in the record every model under which the id was registered. -/
def RemovesEveryPush (registry : PushedRegistry) : RegistryOp → Prop
  | .removeWorker nodeId =>
      ∀ info, registry.manager.nodes.lookup nodeId = some info →
        registry.pushed nodeId ⊆ info.supportModels
  | .registerWorker _ _ | .updateHeartbeat _ _ _ _ => True

/-- The index holds the pushes, and nothing was pushed for an absent id. -/
structure PushesIndexed (registry : PushedRegistry) : Prop where
  listed : ∀ modelName nodeId,
    registry.manager.listed modelName nodeId = (registry.pushed nodeId).count modelName
  absent : ∀ nodeId, registry.manager.nodes.lookup nodeId = none → registry.pushed nodeId = []

namespace PushesIndexed

variable {registry : PushedRegistry}

theorem start : PushesIndexed .start where
  listed modelName nodeId := by
    simp [PushedRegistry.start, RegistryManager.empty, RegistryManager.listed]
  absent nodeId _ := rfl

theorem noDanglingIds (indexed : PushesIndexed registry) : NoDanglingIds registry := by
  intro modelName nodeId member
  have positive : 0 < registry.manager.listed modelName nodeId := List.count_pos_iff.mpr member
  rw [indexed.listed] at positive
  cases found : registry.manager.nodes.lookup nodeId with
  | none =>
      rw [indexed.absent nodeId found] at positive
      exact absurd positive (Nat.lt_irrefl 0)
  | some info => rfl

/-- A removal that finds every push leaves none behind. -/
theorem apply (indexed : PushesIndexed registry) {op : RegistryOp}
    (removes : RemovesEveryPush registry op) :
    PushesIndexed ⟨registry.manager.apply op, registry.pushed.push op⟩ := by
  cases op with
  | registerWorker info now =>
      constructor
      · intro modelName nodeId
        simp only [RegistryManager.apply, PushedModels.push, Function.update_apply,
          RegistryManager.listed_registerWorker, indexed.listed]
        split
        · next same => rw [same, List.count_append]
        · rw [Nat.add_zero]
      · intro nodeId missing
        simp only [RegistryManager.apply, RegistryManager.lookup_registerWorker] at missing
        split at missing
        · cases missing
        · next other =>
            simp only [PushedModels.push, Function.update_of_ne other]
            exact indexed.absent nodeId missing
  | updateHeartbeat target availableMemoryMb onlineModels now =>
      constructor
      · intro modelName nodeId
        simp only [RegistryManager.apply, RegistryManager.listed_updateHeartbeat]
        exact indexed.listed modelName nodeId
      · intro nodeId missing
        exact indexed.absent nodeId (RegistryManager.absent_of_updateHeartbeat missing)
  | removeWorker target =>
      constructor
      · intro modelName nodeId
        simp only [RegistryManager.apply, PushedModels.push, Function.update_apply]
        cases found : registry.manager.nodes.lookup target with
        | none =>
            rw [RegistryManager.removeWorker_of_absent _ found, indexed.listed]
            split
            · next same => rw [same, indexed.absent target found]
            · rfl
        | some info =>
            rw [RegistryManager.listed_removeWorker _ found]
            by_cases same : nodeId = target
            · subst same
              rw [if_pos rfl, List.count_nil, indexed.listed]
              split
              · rfl
              · next unnamed =>
                  have unpushed : modelName ∉ registry.pushed nodeId := fun member =>
                    unnamed ⟨rfl, removes info found member⟩
                  exact List.count_eq_zero.mpr unpushed
            · rw [if_neg same, if_neg fun both => same both.1, indexed.listed]
      · intro nodeId missing
        simp only [PushedModels.push, Function.update_apply]
        split
        · rfl
        · next other =>
            simp only [RegistryManager.apply, RegistryManager.lookup_removeWorker,
              if_neg other] at missing
            exact indexed.absent nodeId missing

/-- A removal that misses a push leaves the id in that model's list. -/
theorem removesEveryPush (indexed : PushesIndexed registry) {op : RegistryOp}
    (clean : NoDanglingIds ⟨registry.manager.apply op, registry.pushed.push op⟩) :
    RemovesEveryPush registry op := by
  cases op with
  | registerWorker info now => trivial
  | updateHeartbeat nodeId availableMemoryMb onlineModels now => trivial
  | removeWorker nodeId =>
      intro info found modelName member
      by_contra unnamed
      have stays : (registry.manager.removeWorker nodeId).listed modelName nodeId =
          (registry.pushed nodeId).count modelName := by
        rw [RegistryManager.listed_removeWorker _ found, if_neg fun both => unnamed both.2,
          indexed.listed]
      have positive : 0 < (registry.manager.removeWorker nodeId).listed modelName nodeId := by
        rw [stays]
        exact List.count_pos_iff.mpr member
      have present := clean modelName nodeId (List.count_pos_iff.mp positive)
      simp [RegistryManager.apply] at present

end PushesIndexed

/-- Along any sequence of calls from an empty registry, the index names present workers
only in every state if and only if every removal finds every push. -/
theorem noDanglingIds_iff_removesEveryPush (ops : List RegistryOp) :
    indexMachine.Throughout NoDanglingIds .start ops ↔
      indexMachine.Guarded RemovesEveryPush .start ops := by
  refine Machine.throughout_iff_guarded (fun _ indexed => indexed.noDanglingIds) ?_ ?_
    PushesIndexed.start ops
  · intro registry op next indexed removes transition
    cases transition
    exact indexed.apply removes
  · intro registry op next indexed transition clean
    cases transition
    exact indexed.removesEveryPush clean

/-- A worker that changes its models by a heartbeat and is removed. -/
def changeAndRemove : List RegistryOp :=
  [.registerWorker ⟨"", "10.0.0.1:90", ["a"], 8, 8, 1, 0⟩ 0,
    .updateHeartbeat "10.0.0.1:90_0" 8 ["b"] 1, .removeWorker "10.0.0.1:90_0"]

/-- Not in every run does the index name present workers only: the worker that
`changeAndRemove` removes stays in the list of the model it was registered with. -/
theorem not_always_noDanglingIds :
    ¬ ∀ ops, indexMachine.Throughout NoDanglingIds .start ops := by
  intro always
  obtain ⟨_, registered⟩ := always changeAndRemove
  obtain ⟨_, changed⟩ := registered _ rfl
  obtain ⟨_, removed⟩ := changed _ rfl
  have clean : NoDanglingIds _ := removed _ rfl
  have present := clean "a" "10.0.0.1:90_0" (by decide)
  exact absurd present (by decide)

end TurboCore.Registry
