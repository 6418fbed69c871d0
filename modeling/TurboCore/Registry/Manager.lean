import Mathlib
import TurboCore.Foundation.BucketIndex

/-!
# The registry manager

`RegistryManager` keeps the worker table `m_nodes` and the model index
`m_model_to_nodes`. Every operation runs under `m_mutex`, so each is one state
change; the reading of `steady_clock` that a call takes is an argument.
-/

namespace TurboCore.Registry

open Foundation

/-- `RegistryNodeInfo`; the time point is in nanoseconds of the steady clock. -/
structure RegistryNodeInfo where
  nodeId : String
  nodeAddr : String
  supportModels : List String
  totalMemoryMb : Int32
  availableMemoryMb : Int32
  weight : Int32
  lastHeartbeat : Int
deriving DecidableEq

/-- `duration_cast<seconds>(now - last_heartbeat).count() < 30`, rounding towards zero. -/
def RegistryNodeInfo.isOnline (info : RegistryNodeInfo) (now : Int) : Bool :=
  (now - info.lastHeartbeat).tdiv 1000000000 < 30

/-- `std::sort`: some permutation in the comparator's order, ties in any order. -/
structure StdSort (α : Type) where
  sort : (α → α → Bool) → List α → List α
  perm : ∀ less values, (sort less values).Perm values
  ordered : ∀ (less : α → α → Bool) values,
    (∀ a b c, less b a = false → less c b = false → less c a = false) →
    (∀ a b, less a b = true → less b a = false) →
    (sort less values).Pairwise fun a b => less b a = false

/-- Merge sort is one implementation of `std::sort`. -/
def StdSort.merge (α : Type) : StdSort α where
  sort less values := values.mergeSort fun a b => !less b a
  perm _ values := List.mergeSort_perm values _
  ordered := by
    intro less values transitive asymmetric
    have sorted := @List.pairwise_mergeSort α (fun a b => !less b a)
      (fun a b c first second => by
        simp only [Bool.not_eq_true'] at first second ⊢
        exact transitive a b c first second)
      (fun a b => by
        cases forward : less a b with
        | false => simp
        | true => simp [asymmetric a b forward]) values
    exact sorted.imp (by simp)

structure RegistryManager where
  nodes : FiniteMap String RegistryNodeInfo
  modelToNodes : BucketIndex String String

namespace RegistryManager

/-- A default-constructed manager. -/
def empty : RegistryManager := ⟨∅, ∅⟩

/-- The id that `RegisterWorker` assigns at a clock reading. -/
def assignedId (info : RegistryNodeInfo) (now : Int) : String :=
  info.nodeAddr ++ "_" ++ toString now

def registerWorker (manager : RegistryManager) (info : RegistryNodeInfo) (now : Int) :
    RegistryManager × String :=
  let nodeId := assignedId info now
  ({ nodes := manager.nodes.insert nodeId info
     modelToNodes :=
      info.supportModels.foldl (BucketIndex.push nodeId) manager.modelToNodes }, nodeId)

def updateHeartbeat (manager : RegistryManager) (nodeId : String) (availableMemoryMb : Int32)
    (onlineModels : List String) (now : Int) : RegistryManager :=
  match manager.nodes.lookup nodeId with
  | none => manager
  | some info =>
      { manager with
        nodes := manager.nodes.insert nodeId
          { info with
            lastHeartbeat := now
            availableMemoryMb
            supportModels := onlineModels } }

def removeWorker (manager : RegistryManager) (nodeId : String) : RegistryManager :=
  match manager.nodes.lookup nodeId with
  | none => manager
  | some info =>
      { nodes := manager.nodes.erase nodeId
        modelToNodes :=
          info.supportModels.foldl (BucketIndex.remove nodeId) manager.modelToNodes }

/-- The entries that the query's loop pushes, each with the id it was found under. -/
def onlineEntries (manager : RegistryManager) (modelName : String) (now : Int) :
    List (String × RegistryNodeInfo) :=
  (manager.modelToNodes.bucket modelName).filterMap fun nodeId =>
    match manager.nodes.lookup nodeId with
    | none => none
    | some info => if info.isOnline now then some (nodeId, info) else none

/-- `a.available_memory_mb > b.available_memory_mb`. -/
def moreMemory (a b : RegistryNodeInfo) : Bool := b.availableMemoryMb < a.availableMemoryMb

/-- The query evaluated at one clock reading. -/
def getOnlineNodesByModel (sort : StdSort RegistryNodeInfo) (manager : RegistryManager)
    (modelName : String) (now : Int) : List RegistryNodeInfo :=
  sort.sort moreMemory ((manager.onlineEntries modelName now).map Prod.snd)

@[simp] theorem lookup_registerWorker (manager : RegistryManager) (info : RegistryNodeInfo)
    (now : Int) (query : String) :
    (manager.registerWorker info now).1.nodes.lookup query =
      if query = assignedId info now then some info else manager.nodes.lookup query :=
  FiniteMap.lookup_insert _ _ _ _

/-- After a registration a record is the new one under its id, or was there before. -/
theorem registered_or_kept {manager : RegistryManager} {info record : RegistryNodeInfo}
    {now : Int} {nodeId : String}
    (found : (manager.registerWorker info now).1.nodes.lookup nodeId = some record) :
    nodeId = assignedId info now ∧ record = info ∨
      manager.nodes.lookup nodeId = some record := by
  rw [lookup_registerWorker] at found
  split_ifs at found with same
  · cases found
    exact .inl ⟨same, rfl⟩
  · exact .inr found

@[simp] theorem lookup_updateHeartbeat (manager : RegistryManager) (nodeId : String)
    (availableMemoryMb : Int32) (onlineModels : List String) (now : Int) (query : String) :
    (manager.updateHeartbeat nodeId availableMemoryMb onlineModels now).nodes.lookup query =
      if query = nodeId then
        (manager.nodes.lookup nodeId).map fun info =>
          { info with lastHeartbeat := now, availableMemoryMb, supportModels := onlineModels }
      else manager.nodes.lookup query := by
  unfold updateHeartbeat
  cases found : manager.nodes.lookup nodeId with
  | none => exact FiniteMap.lookup_eq_ite found query
  | some info => exact FiniteMap.lookup_insert _ _ _ _

/-- A heartbeat adds no node. -/
theorem absent_of_updateHeartbeat {manager : RegistryManager} {nodeId : String}
    {availableMemoryMb : Int32} {onlineModels : List String} {now : Int} {query : String}
    (missing : (manager.updateHeartbeat nodeId availableMemoryMb onlineModels now).nodes.lookup
      query = none) : manager.nodes.lookup query = none := by
  rw [lookup_updateHeartbeat] at missing
  split at missing
  · next same =>
      subst same
      simpa using missing
  · exact missing

@[simp] theorem lookup_removeWorker (manager : RegistryManager) (nodeId query : String) :
    (manager.removeWorker nodeId).nodes.lookup query =
      if query = nodeId then none else manager.nodes.lookup query := by
  unfold removeWorker
  cases found : manager.nodes.lookup nodeId with
  | none => exact FiniteMap.lookup_eq_ite found query
  | some info => exact FiniteMap.lookup_erase _ _ _

/-- Every entry of an answer is the table's record of the id it was found under. -/
theorem lookup_of_mem_onlineEntries {manager : RegistryManager} {modelName : String} {now : Int}
    {nodeId : String} {info : RegistryNodeInfo}
    (member : (nodeId, info) ∈ manager.onlineEntries modelName now) :
    manager.nodes.lookup nodeId = some info := by
  simp only [onlineEntries, List.mem_filterMap] at member
  obtain ⟨candidate, _, kept⟩ := member
  cases found : manager.nodes.lookup candidate with
  | none => rw [found] at kept; cases kept
  | some record =>
      rw [found] at kept
      simp only [Option.ite_none_right_eq_some, Option.some.injEq, Prod.mk.injEq] at kept
      obtain ⟨_, rfl, rfl⟩ := kept
      exact found

/-- The answer holds the records of the entries and nothing else. -/
theorem mem_getOnlineNodesByModel {sort : StdSort RegistryNodeInfo} {manager : RegistryManager}
    {modelName : String} {now : Int} {info : RegistryNodeInfo} :
    info ∈ manager.getOnlineNodesByModel sort modelName now ↔
      ∃ nodeId, (nodeId, info) ∈ manager.onlineEntries modelName now := by
  unfold getOnlineNodesByModel
  rw [(sort.perm _ _).mem_iff, List.mem_map]
  constructor
  · rintro ⟨⟨nodeId, record⟩, member, rfl⟩
    exact ⟨nodeId, member⟩
  · rintro ⟨nodeId, member⟩
    exact ⟨(nodeId, info), member, rfl⟩

/-- How often an id stands in the list of a model. -/
def listed (manager : RegistryManager) (modelName nodeId : String) : Nat :=
  (manager.modelToNodes.bucket modelName).count nodeId

theorem listed_registerWorker (manager : RegistryManager) (info : RegistryNodeInfo) (now : Int)
    (modelName query : String) :
    (manager.registerWorker info now).1.listed modelName query =
      manager.listed modelName query +
        if query = assignedId info now then info.supportModels.count modelName else 0 :=
  BucketIndex.count_foldl_push _ _ _ _ _

theorem listed_updateHeartbeat (manager : RegistryManager) (nodeId : String)
    (availableMemoryMb : Int32) (onlineModels : List String) (now : Int)
    (modelName query : String) :
    (manager.updateHeartbeat nodeId availableMemoryMb onlineModels now).listed modelName query =
      manager.listed modelName query := by
  unfold updateHeartbeat
  split <;> rfl

theorem listed_removeWorker (manager : RegistryManager) {nodeId : String}
    {info : RegistryNodeInfo} (found : manager.nodes.lookup nodeId = some info)
    (modelName query : String) :
    (manager.removeWorker nodeId).listed modelName query =
      if query = nodeId ∧ modelName ∈ info.supportModels then 0
      else manager.listed modelName query := by
  unfold removeWorker
  rw [found]
  exact BucketIndex.count_foldl_remove _ _ _ _ _

theorem removeWorker_of_absent (manager : RegistryManager) {nodeId : String}
    (absent : manager.nodes.lookup nodeId = none) : manager.removeWorker nodeId = manager := by
  unfold removeWorker
  rw [absent]

/-- An id's entries in a query's answer: as many as its index entries when the
worker is present and online, none otherwise. -/
theorem count_onlineEntries (manager : RegistryManager) (modelName nodeId : String) (now : Int) :
    ((manager.onlineEntries modelName now).map Prod.fst).count nodeId =
      if (manager.nodes.lookup nodeId).any (·.isOnline now) then
        manager.listed modelName nodeId
      else 0 := by
  unfold onlineEntries listed
  induction manager.modelToNodes.bucket modelName with
  | nil => simp
  | cons head rest inductionHypothesis =>
      rw [List.filterMap_cons]
      cases found : manager.nodes.lookup head with
      | none =>
          by_cases same : head = nodeId
          · subst same
            simp only [found, Option.any_none, Bool.false_eq_true, if_false] at inductionHypothesis ⊢
            exact inductionHypothesis
          · rw [List.count_cons_of_ne same]
            exact inductionHypothesis
      | some info =>
          by_cases online : info.isOnline now = true
          · simp only [online, if_true, List.map_cons]
            by_cases same : head = nodeId
            · subst same
              simp only [found, Option.any_some, online, if_true] at inductionHypothesis ⊢
              rw [List.count_cons_self, List.count_cons_self, inductionHypothesis]
            · rw [List.count_cons_of_ne same, List.count_cons_of_ne same]
              exact inductionHypothesis
          · simp only [online, Bool.false_eq_true, if_false]
            by_cases same : head = nodeId
            · subst same
              simp only [found, Option.any_some, online, Bool.false_eq_true, if_false]
                at inductionHypothesis ⊢
              exact inductionHypothesis
            · rw [List.count_cons_of_ne same]
              exact inductionHypothesis

end RegistryManager

/-- The calls that change a registry, with the clock readings they take. -/
inductive RegistryOp where
  | registerWorker (info : RegistryNodeInfo) (now : Int)
  | updateHeartbeat (nodeId : String) (availableMemoryMb : Int32) (onlineModels : List String)
      (now : Int)
  | removeWorker (nodeId : String)

/-- The state after a call. -/
def RegistryManager.apply (manager : RegistryManager) : RegistryOp → RegistryManager
  | .registerWorker info now => (manager.registerWorker info now).1
  | .updateHeartbeat nodeId availableMemoryMb onlineModels now =>
      manager.updateHeartbeat nodeId availableMemoryMb onlineModels now
  | .removeWorker nodeId => manager.removeWorker nodeId

end TurboCore.Registry
