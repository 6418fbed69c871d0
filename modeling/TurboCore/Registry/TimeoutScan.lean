import Mathlib
import TurboCore.Foundation.NonRecursiveMutex
import TurboCore.Registry.Manager

/-!
# The timeout scan

`ScanTimeoutNodes` collects the timed-out workers and calls `RemoveWorker` for each, all
under its own guard on `m_mutex`. `RemoveWorker` takes the same mutex again, so the scan
returns only when it has collected nobody. The removals themselves would leave exactly
the workers that the scan is meant to keep, and no query would see the difference.
-/

namespace TurboCore.Registry

open Foundation

/-- `duration_cast<seconds>(now - last_heartbeat).count() >= 30`. -/
def RegistryNodeInfo.isTimedOut (info : RegistryNodeInfo) (now : Int) : Bool :=
  30 ≤ (now - info.lastHeartbeat).tdiv 1000000000

/-- The scan's test and the query's test divide the workers between them. -/
theorem RegistryNodeInfo.isTimedOut_eq (info : RegistryNodeInfo) (now : Int) :
    info.isTimedOut now = !info.isOnline now := by
  rw [isTimedOut, isOnline, ← decide_not, decide_eq_decide]
  omega

namespace RegistryManager

/-- The first loop of the scan. The clock is read again at every worker; `clock` gives
the reading taken when the worker of an id is looked at. -/
def collectTimedOut (manager : RegistryManager) (clock : String → Int) : List String :=
  manager.nodes.entries.filterMap fun entry =>
    if entry.2.isTimedOut (clock entry.1) then some entry.1 else none

/-- The call `RemoveWorker(node_id)` with its guard on `m_mutex`. -/
def removeWorkerCall (nodeId : String) : Procedure RegistryManager :=
  Procedure.lockGuard (Procedure.modify fun manager => manager.removeWorker nodeId)

/-- The call `ScanTimeoutNodes()`: both loops run under the scan's own guard. -/
def scanTimeoutNodes (clock : String → Int) : Procedure RegistryManager :=
  Procedure.lockGuard fun locked =>
    Procedure.forEach removeWorkerCall (locked.data.collectTimedOut clock) locked

/-- The scan's removals, without the locks. -/
def removeTimedOut (manager : RegistryManager) (clock : String → Int) : RegistryManager :=
  (manager.collectTimedOut clock).foldl removeWorker manager

theorem mem_collectTimedOut {manager : RegistryManager} {clock : String → Int}
    {nodeId : String} :
    nodeId ∈ manager.collectTimedOut clock ↔
      ∃ info, manager.nodes.lookup nodeId = some info ∧ info.isTimedOut (clock nodeId) = true := by
  simp only [collectTimedOut, List.mem_filterMap, Option.ite_none_right_eq_some,
    Option.some.injEq]
  constructor
  · rintro ⟨⟨found, info⟩, member, timedOut, rfl⟩
    exact ⟨info, AList.mem_lookup_iff.mpr member, timedOut⟩
  · rintro ⟨info, found, timedOut⟩
    exact ⟨⟨nodeId, info⟩, AList.mem_lookup_iff.mp found, timedOut, rfl⟩

/-- A sequence of removals takes away the named workers and no other. -/
theorem lookup_foldl_removeWorker (nodeIds : List String) (manager : RegistryManager)
    (query : String) :
    (nodeIds.foldl removeWorker manager).nodes.lookup query =
      if query ∈ nodeIds then none else manager.nodes.lookup query := by
  induction nodeIds generalizing manager with
  | nil => rfl
  | cons nodeId nodeIds inductionHypothesis =>
      rw [List.foldl_cons, inductionHypothesis, lookup_removeWorker]
      by_cases same : query = nodeId
      · simp [same]
      · simp [same]

/-- Without the second lock the scan would keep the online workers, records unchanged. -/
theorem lookup_removeTimedOut (manager : RegistryManager) (clock : String → Int)
    (query : String) :
    (manager.removeTimedOut clock).nodes.lookup query =
      (manager.nodes.lookup query).filter fun info => info.isOnline (clock query) := by
  rw [removeTimedOut, lookup_foldl_removeWorker]
  cases found : manager.nodes.lookup query with
  | none => simp
  | some info =>
      simp only [mem_collectTimedOut, found, Option.some.injEq, exists_eq_left',
        RegistryNodeInfo.isTimedOut_eq]
      by_cases online : info.isOnline (clock query) = true
      · simp [online, Option.filter_some]
      · simp [online, Option.filter_some]

/-- The scan of a thread that does not hold the mutex returns when it has collected
nobody, and then it has changed nothing. -/
theorem scanTimeoutNodes_eq (manager : RegistryManager) (clock : String → Int) :
    scanTimeoutNodes clock ⟨manager, false⟩ =
      if manager.collectTimedOut clock = [] then some ⟨manager, false⟩ else none := by
  rw [scanTimeoutNodes, Procedure.lockGuard_of_free _ rfl,
    Procedure.forEach_of_held removeWorkerCall _ fun nodeId => Procedure.lockGuard_of_held _ rfl]
  split <;> rfl

/-- The scan returns, and `m_nodes` holds exactly the workers whose last heartbeat is less
than 30 whole seconds old, each with its record. -/
def ScansExactly (manager : RegistryManager) (clock : String → Int) : Prop :=
  ∃ after, scanTimeoutNodes clock ⟨manager, false⟩ = some after ∧
    ∀ query, after.data.nodes.lookup query =
      (manager.nodes.lookup query).filter fun info => info.isOnline (clock query)

/-- One worker whose heartbeat is 30 seconds old stops the scan for ever. -/
theorem scan_stuck_on_timedOut_worker :
    ¬ ∀ (manager : RegistryManager) (now : Int), manager.ScansExactly fun _ => now := by
  intro always
  obtain ⟨after, returned, _⟩ := always
    (empty.registerWorker ⟨"", "10.0.0.1:90", ["a"], 16, 8, 1, 0⟩ 0).1 30000000000
  have stuck : scanTimeoutNodes (fun _ => 30000000000)
      ⟨(empty.registerWorker ⟨"", "10.0.0.1:90", ["a"], 16, 8, 1, 0⟩ 0).1, false⟩ = none := by
    decide +kernel
  rw [stuck] at returned
  cases returned

/-- The scan does what it is for exactly when nobody has timed out. -/
theorem scansExactly_iff (manager : RegistryManager) (clock : String → Int) :
    manager.ScansExactly clock ↔
      ∀ nodeId info, manager.nodes.lookup nodeId = some info →
        info.isOnline (clock nodeId) = true := by
  rw [ScansExactly, scanTimeoutNodes_eq]
  constructor
  · rintro ⟨after, returned, _⟩ nodeId info found
    split at returned
    · next nobody =>
        have kept : nodeId ∉ manager.collectTimedOut clock := by
          rw [nobody]
          exact List.not_mem_nil
        rw [mem_collectTimedOut] at kept
        cases online : info.isOnline (clock nodeId) with
        | true => rfl
        | false =>
            refine (kept ⟨info, found, ?_⟩).elim
            rw [RegistryNodeInfo.isTimedOut_eq, online]
            rfl
    · cases returned
  · intro online
    have nobody : manager.collectTimedOut clock = [] := by
      rw [List.eq_nil_iff_forall_not_mem]
      intro nodeId member
      obtain ⟨info, found, timedOut⟩ := mem_collectTimedOut.mp member
      rw [RegistryNodeInfo.isTimedOut_eq, online nodeId info found] at timedOut
      cases timedOut
    rw [if_pos nobody]
    refine ⟨_, rfl, ?_⟩
    intro query
    cases found : manager.nodes.lookup query with
    | none => rfl
    | some info => rw [Option.filter_some, if_pos (online query info found)]

/-- What the query's loop pushes for one index entry. -/
def onlineEntry (manager : RegistryManager) (now : Int) (nodeId : String) :
    Option (String × RegistryNodeInfo) :=
  ((manager.nodes.lookup nodeId).filter fun info => info.isOnline now).map fun info =>
    (nodeId, info)

theorem onlineEntries_eq_filterMap (manager : RegistryManager) (modelName : String) (now : Int) :
    manager.onlineEntries modelName now =
      (manager.modelToNodes.bucket modelName).filterMap (manager.onlineEntry now) := by
  rw [onlineEntries]
  apply List.filterMap_congr
  intro nodeId _
  rw [onlineEntry]
  cases manager.nodes.lookup nodeId with
  | none => rfl
  | some info =>
      by_cases online : info.isOnline now = true
      · simp [online, Option.filter_some]
      · simp [online, Option.filter_some]

/-- Removing a worker that is not online changes no entry that a query would push. -/
theorem onlineEntry_removeWorker (manager : RegistryManager) {nodeId : String} {now : Int}
    (skipped : manager.onlineEntry now nodeId = none) :
    (manager.removeWorker nodeId).onlineEntry now = manager.onlineEntry now := by
  funext query
  rw [onlineEntry, lookup_removeWorker]
  by_cases same : query = nodeId
  · rw [if_pos same, same, skipped]
    rfl
  · rw [if_neg same, onlineEntry]

/-- Nor does it change the order of the entries, wherever the worker's id still stands in
the index. -/
theorem onlineEntries_removeWorker (manager : RegistryManager) {nodeId : String} {now : Int}
    (skipped : manager.onlineEntry now nodeId = none) (modelName : String) :
    (manager.removeWorker nodeId).onlineEntries modelName now =
      manager.onlineEntries modelName now := by
  rw [onlineEntries_eq_filterMap, onlineEntries_eq_filterMap,
    onlineEntry_removeWorker manager skipped]
  cases found : manager.nodes.lookup nodeId with
  | none => rw [removeWorker_of_absent manager found]
  | some info =>
      rw [removeWorker, found]
      exact BucketIndex.filterMap_foldl_remove _ _ _ _ _ skipped

/-- A sequence of removals of workers that are not online leaves every answer alone. -/
theorem onlineEntries_foldl_removeWorker (nodeIds : List String) (manager : RegistryManager)
    {now : Int} (skipped : ∀ nodeId ∈ nodeIds, manager.onlineEntry now nodeId = none)
    (modelName : String) :
    (nodeIds.foldl removeWorker manager).onlineEntries modelName now =
      manager.onlineEntries modelName now := by
  induction nodeIds generalizing manager with
  | nil => rfl
  | cons nodeId nodeIds inductionHypothesis =>
      have headSkipped := skipped nodeId List.mem_cons_self
      rw [List.foldl_cons, inductionHypothesis]
      · exact onlineEntries_removeWorker manager headSkipped modelName
      · intro query member
        rw [onlineEntry_removeWorker manager headSkipped]
        exact skipped query (List.mem_cons_of_mem _ member)

/-- What the scan collects, the query at the same clock reading skips. -/
theorem onlineEntry_of_mem_collectTimedOut {manager : RegistryManager} {now : Int}
    {nodeId : String} (collected : nodeId ∈ manager.collectTimedOut fun _ => now) :
    manager.onlineEntry now nodeId = none := by
  obtain ⟨info, found, timedOut⟩ := mem_collectTimedOut.mp collected
  rw [RegistryNodeInfo.isTimedOut_eq, Bool.not_eq_true'] at timedOut
  simp [onlineEntry, found, Option.filter_some, timedOut]

/-- The scan and the query agree on every worker: the scan collects exactly the ones whose
records the query's filter skips, its removals take exactly these out of the table, and a
query gives the same list whether or not the removals at its own clock reading come first. -/
theorem getOnlineNodesByModel_removeTimedOut (sort : StdSort RegistryNodeInfo)
    (manager : RegistryManager) (modelName : String) (now : Int) :
    (∀ nodeId, nodeId ∈ manager.collectTimedOut (fun _ => now) ↔
      ∃ info, manager.nodes.lookup nodeId = some info ∧ info.isOnline now = false) ∧
    (∀ nodeId, (manager.removeTimedOut fun _ => now).nodes.lookup nodeId =
      (manager.nodes.lookup nodeId).filter fun info => info.isOnline now) ∧
    (manager.removeTimedOut fun _ => now).getOnlineNodesByModel sort modelName now =
      manager.getOnlineNodesByModel sort modelName now := by
  refine ⟨fun nodeId => ?_, manager.lookup_removeTimedOut _, ?_⟩
  · simp only [mem_collectTimedOut, RegistryNodeInfo.isTimedOut_eq, Bool.not_eq_true']
  · rw [getOnlineNodesByModel, getOnlineNodesByModel, removeTimedOut,
      onlineEntries_foldl_removeWorker]
    intro nodeId collected
    exact onlineEntry_of_mem_collectTimedOut collected

/-- Two workers of one model. The first has been silent for 40 seconds, and stands in the
index twice, since it registered with a repeated model. -/
def oneSilent : RegistryManager :=
  ((empty.registerWorker ⟨"", "10.0.0.1:90", ["llama", "llama"], 16, 8, 1, 0⟩ 0).1.registerWorker
    ⟨"", "10.0.0.2:90", ["llama"], 16, 4, 1, 30000000000⟩ 30000000000).1

/-- The scan at second 40 takes the first worker away, and the answer stays. -/
theorem silent_worker_scanned :
    "10.0.0.1:90_0" ∈ oneSilent.collectTimedOut (fun _ => 40000000000) ∧
    (oneSilent.removeTimedOut fun _ => 40000000000).nodes.lookup "10.0.0.1:90_0" = none ∧
    (oneSilent.removeTimedOut fun _ => 40000000000).nodes.lookup "10.0.0.2:90_30000000000" =
      oneSilent.nodes.lookup "10.0.0.2:90_30000000000" ∧
    (oneSilent.modelToNodes.bucket "llama").count "10.0.0.1:90_0" = 2 ∧
    (oneSilent.removeTimedOut fun _ => 40000000000).getOnlineNodesByModel (StdSort.merge _)
      "llama" 40000000000 =
      oneSilent.getOnlineNodesByModel (StdSort.merge _) "llama" 40000000000 := by
  obtain ⟨collects, removes, answer⟩ :=
    getOnlineNodesByModel_removeTimedOut (StdSort.merge _) oneSilent "llama" 40000000000
  refine ⟨(collects _).mpr ⟨⟨"", "10.0.0.1:90", ["llama", "llama"], 16, 8, 1, 0⟩, ?_, ?_⟩, ?_, ?_,
    ?_, answer⟩
  · decide +kernel
  · decide
  · rw [removes]
    decide +kernel
  · rw [removes]
    decide +kernel
  · decide +kernel

end RegistryManager

end TurboCore.Registry
