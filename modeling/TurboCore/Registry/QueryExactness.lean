import Mathlib
import TurboCore.Foundation.Execution
import TurboCore.Registry.Manager

/-!
# When queries answer with exactly the reporting workers

The registry next to what its callers last reported. The model index is exact
as long as no call makes a report that the index does not follow: that
condition on single calls, `KeepsIndex`, is equivalent to exact answers in every
state of a run.
-/

namespace TurboCore.Registry

open Foundation

/-- The model list last reported for each registered id. -/
abbrev ModelReports := String → Option (List String)

/-- The reports after a call: a registration and an accepted heartbeat replace
the list, a removal forgets it. -/
def ModelReports.report (reports : ModelReports) : RegistryOp → ModelReports
  | .registerWorker info now =>
      Function.update reports (RegistryManager.assignedId info now) (some info.supportModels)
  | .updateHeartbeat nodeId _ onlineModels _ =>
      if (reports nodeId).isSome then Function.update reports nodeId (some onlineModels)
      else reports
  | .removeWorker nodeId => Function.update reports nodeId none

/-- A registry together with the reports made to it. -/
structure TrackedRegistry where
  manager : RegistryManager
  reported : ModelReports

/-- Every call is one step, from any state. -/
def registryMachine : Machine TrackedRegistry RegistryOp where
  step tracked op := some ⟨tracked.manager.apply op, tracked.reported.report op⟩

/-- A fresh registry, nothing reported. -/
def TrackedRegistry.start : TrackedRegistry := ⟨.empty, fun _ => none⟩

/-- The workers a query has to answer with: present, heard of within 30 s, and
reporting the model. -/
def TrackedRegistry.Serves (tracked : TrackedRegistry) (modelName : String) (now : Int)
    (nodeId : String) : Prop :=
  (∃ info, tracked.manager.nodes.lookup nodeId = some info ∧ info.isOnline now = true) ∧
    ∃ models, tracked.reported nodeId = some models ∧ modelName ∈ models

/-- Every query answers with exactly the workers that serve the model, each once. -/
def QueryExact (tracked : TrackedRegistry) : Prop :=
  ∀ modelName now,
    ((tracked.manager.onlineEntries modelName now).map Prod.fst).Nodup ∧
    ∀ nodeId, nodeId ∈ (tracked.manager.onlineEntries modelName now).map Prod.fst ↔
      tracked.Serves modelName now nodeId

/-- The calls that the model index follows: a registration with a list without
repetitions and an id that is new (or whose record lists no model), and a
heartbeat that reports the models the record already has. -/
def KeepsIndex (tracked : TrackedRegistry) : RegistryOp → Prop
  | .registerWorker info now =>
      info.supportModels.Nodup ∧
        ∀ old, tracked.manager.nodes.lookup (RegistryManager.assignedId info now) = some old →
          old.supportModels = []
  | .updateHeartbeat nodeId _ onlineModels _ =>
      ∀ old, tracked.manager.nodes.lookup nodeId = some old →
        ∀ modelName, modelName ∈ onlineModels ↔ modelName ∈ old.supportModels
  | .removeWorker _ => True

/-- Table, reports and index agree: an id stands once in the list of each model
its record has, and nowhere else. -/
structure Indexed (tracked : TrackedRegistry) : Prop where
  reports : ∀ nodeId, tracked.reported nodeId =
    (tracked.manager.nodes.lookup nodeId).map (·.supportModels)
  absent : ∀ nodeId modelName, tracked.manager.nodes.lookup nodeId = none →
    tracked.manager.listed modelName nodeId = 0
  present : ∀ nodeId info modelName, tracked.manager.nodes.lookup nodeId = some info →
    tracked.manager.listed modelName nodeId = if modelName ∈ info.supportModels then 1 else 0

theorem Indexed.start : Indexed .start where
  reports nodeId := by simp [TrackedRegistry.start, RegistryManager.empty]
  absent nodeId modelName _ := by
    simp [TrackedRegistry.start, RegistryManager.empty, RegistryManager.listed]
  present nodeId info modelName found := by
    simp [TrackedRegistry.start, RegistryManager.empty] at found

/-- With reports that mirror the table, exact answers say how often each present
id stands in each list. -/
theorem queryExact_iff_listed {tracked : TrackedRegistry}
    (reports : ∀ nodeId, tracked.reported nodeId =
      (tracked.manager.nodes.lookup nodeId).map (·.supportModels)) :
    QueryExact tracked ↔ ∀ nodeId info modelName,
      tracked.manager.nodes.lookup nodeId = some info →
      tracked.manager.listed modelName nodeId =
        if modelName ∈ info.supportModels then 1 else 0 := by
  have serves : ∀ nodeId info modelName now,
      tracked.manager.nodes.lookup nodeId = some info →
      (tracked.Serves modelName now nodeId ↔
        info.isOnline now = true ∧ modelName ∈ info.supportModels) := by
    intro nodeId info modelName now found
    simp [TrackedRegistry.Serves, reports, found]
  constructor
  · intro answers nodeId info modelName found
    -- At the record's own heartbeat the worker is online, so the answer shows its list entries.
    have online : info.isOnline info.lastHeartbeat = true := by
      simp [RegistryNodeInfo.isOnline]
    obtain ⟨distinct, members⟩ := answers modelName info.lastHeartbeat
    have counted := tracked.manager.count_onlineEntries modelName nodeId info.lastHeartbeat
    simp only [found, Option.any_some, online, if_true] at counted
    rw [← counted, distinct.count]
    have member := (members nodeId).trans (serves nodeId info modelName _ found)
    by_cases listed : modelName ∈ info.supportModels
    · simp [member.mpr ⟨online, listed⟩, listed]
    · have notMember : nodeId ∉
          (tracked.manager.onlineEntries modelName info.lastHeartbeat).map Prod.fst :=
        fun inside => listed (member.mp inside).2
      rw [if_neg notMember, if_neg listed]
  · intro counts modelName now
    have occurrences : ∀ nodeId,
        ((tracked.manager.onlineEntries modelName now).map Prod.fst).count nodeId ≤ 1 ∧
        (0 < ((tracked.manager.onlineEntries modelName now).map Prod.fst).count nodeId ↔
          tracked.Serves modelName now nodeId) := by
      intro nodeId
      rw [tracked.manager.count_onlineEntries]
      cases found : tracked.manager.nodes.lookup nodeId with
      | none => simp [TrackedRegistry.Serves, found]
      | some info =>
          rw [serves nodeId info modelName now found, counts nodeId info modelName found]
          by_cases online : info.isOnline now = true
          · by_cases listed : modelName ∈ info.supportModels
            · simp [online, listed]
            · simp [online, listed]
          · simp [online]
    refine ⟨List.nodup_iff_count_le_one.mpr fun nodeId => (occurrences nodeId).1,
      fun nodeId => ?_⟩
    rw [← (occurrences nodeId).2, List.count_pos_iff]

/-- Consistent states answer exactly. -/
theorem Indexed.queryExact {tracked : TrackedRegistry} (indexed : Indexed tracked) :
    QueryExact tracked :=
  (queryExact_iff_listed indexed.reports).mpr indexed.present

/-- The reports mirror the table's records across every call. -/
theorem reports_apply {tracked : TrackedRegistry} (op : RegistryOp)
    (reports : ∀ nodeId, tracked.reported nodeId =
      (tracked.manager.nodes.lookup nodeId).map (·.supportModels)) (nodeId : String) :
    tracked.reported.report op nodeId =
      ((tracked.manager.apply op).nodes.lookup nodeId).map (·.supportModels) := by
  cases op with
  | registerWorker info now =>
      simp only [ModelReports.report, RegistryManager.apply, RegistryManager.lookup_registerWorker,
        Function.update_apply]
      split
      · rfl
      · exact reports nodeId
  | updateHeartbeat target availableMemoryMb onlineModels now =>
      simp only [ModelReports.report, RegistryManager.apply, RegistryManager.lookup_updateHeartbeat,
        reports target]
      cases found : tracked.manager.nodes.lookup target with
      | none =>
          by_cases same : nodeId = target
          · subst same
            simp [reports, found]
          · simp [same, reports]
      | some info =>
          by_cases same : nodeId = target
          · simp [same]
          · simp [same, reports]
  | removeWorker target =>
      simp only [ModelReports.report, RegistryManager.apply, RegistryManager.lookup_removeWorker,
        Function.update_apply]
      split
      · rfl
      · exact reports nodeId

theorem Indexed.registerWorker {tracked : TrackedRegistry} (indexed : Indexed tracked)
    {info : RegistryNodeInfo} {now : Int} (keeps : KeepsIndex tracked (.registerWorker info now)) :
    Indexed ⟨tracked.manager.apply (.registerWorker info now),
      tracked.reported.report (.registerWorker info now)⟩ := by
  refine ⟨reports_apply (.registerWorker info now) indexed.reports, ?_, ?_⟩
  · intro nodeId modelName missing
    simp only [RegistryManager.apply, RegistryManager.lookup_registerWorker] at missing
    split at missing
    · cases missing
    · next other =>
        simp only [RegistryManager.apply, RegistryManager.listed_registerWorker, if_neg other]
        exact indexed.absent nodeId modelName missing
  · intro nodeId record modelName found
    obtain ⟨distinct, fresh⟩ := keeps
    simp only [RegistryManager.apply, RegistryManager.lookup_registerWorker] at found
    simp only [RegistryManager.apply, RegistryManager.listed_registerWorker]
    split at found
    · next same =>
        cases found
        subst same
        have before : tracked.manager.listed modelName
            (RegistryManager.assignedId info now) = 0 := by
          cases old : tracked.manager.nodes.lookup (RegistryManager.assignedId info now) with
          | none => exact indexed.absent _ modelName old
          | some oldInfo =>
              rw [indexed.present _ oldInfo modelName old, fresh oldInfo old]
              simp
        rw [before, if_pos rfl, distinct.count, Nat.zero_add]
    · next other =>
        rw [if_neg other, Nat.add_zero]
        exact indexed.present nodeId record modelName found

theorem Indexed.updateHeartbeat {tracked : TrackedRegistry} (indexed : Indexed tracked)
    {target : String} {availableMemoryMb : Int32} {onlineModels : List String} {now : Int}
    (keeps : KeepsIndex tracked (.updateHeartbeat target availableMemoryMb onlineModels now)) :
    Indexed ⟨tracked.manager.apply (.updateHeartbeat target availableMemoryMb onlineModels now),
      tracked.reported.report (.updateHeartbeat target availableMemoryMb onlineModels now)⟩ := by
  refine ⟨reports_apply (.updateHeartbeat target availableMemoryMb onlineModels now)
    indexed.reports, ?_, ?_⟩
  · intro nodeId modelName missing
    simp only [RegistryManager.apply, RegistryManager.listed_updateHeartbeat]
    exact indexed.absent nodeId modelName (RegistryManager.absent_of_updateHeartbeat missing)
  · intro nodeId record modelName found
    simp only [RegistryManager.apply, RegistryManager.listed_updateHeartbeat]
    simp only [RegistryManager.apply, RegistryManager.lookup_updateHeartbeat] at found
    split at found
    · next same =>
        subst same
        obtain ⟨old, oldFound, rfl⟩ := Option.map_eq_some_iff.mp found
        rw [indexed.present nodeId old modelName oldFound]
        simp only [keeps old oldFound modelName]
    · exact indexed.present nodeId record modelName found

/-- The removal takes a node out of the lists of its models. -/
theorem Indexed.removeWorker {tracked : TrackedRegistry} (indexed : Indexed tracked)
    (target : String) :
    Indexed ⟨tracked.manager.apply (.removeWorker target),
      tracked.reported.report (.removeWorker target)⟩ := by
  refine ⟨reports_apply (.removeWorker target) indexed.reports, ?_, ?_⟩
  · intro nodeId modelName missing
    cases found : tracked.manager.nodes.lookup target with
    | none =>
        simp only [RegistryManager.apply,
          RegistryManager.removeWorker_of_absent _ found] at missing ⊢
        exact indexed.absent nodeId modelName missing
    | some info =>
        simp only [RegistryManager.apply, RegistryManager.listed_removeWorker _ found]
        by_cases same : nodeId = target
        · subst same
          rw [indexed.present nodeId info modelName found]
          by_cases member : modelName ∈ info.supportModels
          · simp [member]
          · simp [member]
        · simp only [RegistryManager.apply, RegistryManager.lookup_removeWorker,
            if_neg same] at missing
          simp [same, indexed.absent nodeId modelName missing]
  · intro nodeId record modelName found
    simp only [RegistryManager.apply, RegistryManager.lookup_removeWorker] at found
    split at found
    · cases found
    · next other =>
        cases removed : tracked.manager.nodes.lookup target with
        | none =>
            simp only [RegistryManager.apply, RegistryManager.removeWorker_of_absent _ removed]
            exact indexed.present nodeId record modelName found
        | some info =>
            simp only [RegistryManager.apply, RegistryManager.listed_removeWorker _ removed]
            rw [if_neg (fun both => other both.1)]
            exact indexed.present nodeId record modelName found

/-- A call that the index follows keeps table, reports and index in agreement. -/
theorem Indexed.apply {tracked : TrackedRegistry} (indexed : Indexed tracked) {op : RegistryOp}
    (keeps : KeepsIndex tracked op) :
    Indexed ⟨tracked.manager.apply op, tracked.reported.report op⟩ := by
  cases op with
  | registerWorker info now => exact indexed.registerWorker keeps
  | updateHeartbeat target availableMemoryMb onlineModels now => exact indexed.updateHeartbeat keeps
  | removeWorker target => exact indexed.removeWorker target

/-- From a consistent state, a call after which answers are exact is one that the
index follows. -/
theorem Indexed.keepsIndex_of_exact {tracked : TrackedRegistry} (indexed : Indexed tracked)
    {op : RegistryOp}
    (answers : QueryExact ⟨tracked.manager.apply op, tracked.reported.report op⟩) :
    KeepsIndex tracked op := by
  have listed := (queryExact_iff_listed (reports_apply op indexed.reports)).mp answers
  cases op with
  | registerWorker info now =>
      have counts : ∀ modelName,
          tracked.manager.listed modelName (RegistryManager.assignedId info now) +
            info.supportModels.count modelName =
              if modelName ∈ info.supportModels then 1 else 0 := by
        intro modelName
        have after := listed (RegistryManager.assignedId info now) info modelName
          (by simp [RegistryManager.apply])
        simpa [RegistryManager.apply, RegistryManager.listed_registerWorker] using after
      constructor
      · rw [List.nodup_iff_count_le_one]
        intro modelName
        have total := counts modelName
        split at total <;> omega
      · intro old found
        by_contra nonempty
        obtain ⟨modelName, member⟩ := List.exists_mem_of_ne_nil _ nonempty
        have total := counts modelName
        rw [indexed.present _ old modelName found, if_pos member] at total
        by_cases again : modelName ∈ info.supportModels
        · have positive := List.count_pos_iff.mpr again
          rw [if_pos again] at total
          omega
        · rw [if_neg again] at total
          omega
  | updateHeartbeat target availableMemoryMb onlineModels now =>
      intro old found modelName
      have after := listed target _ modelName (by
        simp only [RegistryManager.apply, RegistryManager.lookup_updateHeartbeat, found, if_true]
        rfl)
      simp only [RegistryManager.apply, RegistryManager.listed_updateHeartbeat,
        indexed.present target old modelName found] at after
      by_cases inOld : modelName ∈ old.supportModels
      · by_cases inNew : modelName ∈ onlineModels
        · simp [inOld, inNew]
        · simp [inOld, inNew] at after
      · by_cases inNew : modelName ∈ onlineModels
        · simp [inOld, inNew] at after
        · simp [inOld, inNew]
  | removeWorker target => trivial

/-- Along any sequence of calls from an empty registry, queries are exact in
every state if and only if every call is one that the index follows. -/
theorem query_exact_iff_keepsIndex (ops : List RegistryOp) :
    registryMachine.Throughout QueryExact .start ops ↔
      registryMachine.Guarded KeepsIndex .start ops := by
  refine Machine.throughout_iff_guarded (fun _ indexed => indexed.queryExact) ?_ ?_
    Indexed.start ops
  · intro tracked op next indexed keeps transition
    cases transition
    exact indexed.apply keeps
  · intro tracked op next indexed transition answers
    cases transition
    exact indexed.keepsIndex_of_exact answers

/-- A worker that changes its models by a heartbeat. -/
def modelChange : List RegistryOp :=
  [.registerWorker ⟨"", "10.0.0.1:90", ["a"], 8, 8, 1, 0⟩ 0,
    .updateHeartbeat "10.0.0.1:90_0" 8 ["b"] 1]

/-- Not every run has exact queries: after the heartbeat of `modelChange` the
worker is still listed under the model it no longer reports. -/
theorem query_not_always_exact :
    ¬ ∀ ops, registryMachine.Throughout QueryExact .start ops := by
  intro always
  obtain ⟨_, first⟩ := always modelChange
  obtain ⟨_, second⟩ := first _ rfl
  have answers := second _ rfl
  have stale := (answers "a" 1).2 "10.0.0.1:90_0"
  have answered : "10.0.0.1:90_0" ∈
      ((RegistryManager.apply (RegistryManager.apply .empty modelChange[0])
        modelChange[1]).onlineEntries "a" 1).map Prod.fst := by
    decide
  obtain ⟨_, models, reported, member⟩ := stale.mp answered
  have reported' : some ["b"] = some models := by
    rw [← reported]
    decide
  cases reported'
  exact absurd member (by decide)

end TurboCore.Registry
