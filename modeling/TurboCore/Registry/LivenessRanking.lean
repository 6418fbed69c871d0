import Mathlib
import TurboCore.Foundation.Execution
import TurboCore.Registry.Server

/-!
# Liveness and ranking of query answers

What a query answers, in terms of the history of calls alone: the abstract registry is
the last accepted report of each worker id, and the table refines it.
-/

namespace TurboCore.Registry

open Foundation AiDist

/-- The calls of the handlers, with the clock readings they take: `HandleRegister` stamps
the record before `RegisterWorker` reads the clock for the id. -/
inductive WorkerCall where
  | register (req : WorkerRegisterReq) (stamp now : Int)
  | heartbeat (nodeId : String) (availableMemoryMb : Int32) (onlineModels : List String)
      (now : Int)
  | remove (nodeId : String)

namespace WorkerCall

/-- The call of the manager. -/
def toOp : WorkerCall → RegistryOp
  | register req stamp now => .registerWorker (registeredNode req stamp) now
  | heartbeat nodeId availableMemoryMb onlineModels now =>
      .updateHeartbeat nodeId availableMemoryMb onlineModels now
  | remove nodeId => .removeWorker nodeId

/-- The readings, the last one under the lock. -/
def readings : WorkerCall → List Int
  | register _ stamp now => [stamp, now]
  | heartbeat _ _ _ now => [now]
  | remove _ => []

/-- The clock after the call. -/
def clockAfter (clock : Int) : WorkerCall → Int
  | register _ _ now => now
  | heartbeat _ _ _ now => now
  | remove _ => clock

/-- A non-decreasing clock: the reading under the lock is not before the last such
reading, and the stamp, taken before the lock, is not after it. -/
def readsForward (clock : Int) : WorkerCall → Bool
  | register _ stamp now => decide (clock ≤ now ∧ stamp ≤ now)
  | heartbeat _ _ _ now => decide (clock ≤ now)
  | remove _ => true

end WorkerCall

/-- The manager and the last clock reading under its lock. -/
structure TimedRegistry where
  manager : RegistryManager
  clock : Int

/-- One call under the lock. -/
def timedMachine : Machine TimedRegistry WorkerCall where
  step timed call :=
    if call.readsForward timed.clock then
      some ⟨timed.manager.apply call.toOp, call.clockAfter timed.clock⟩
    else none

/-! ## The history of a worker id -/

/-- What the last accepted registration or heartbeat of an id said, and when. -/
structure WorkerReport where
  time : Int
  availableMemoryMb : Int32
deriving DecidableEq

namespace WorkerReport

/-- Less than 30 whole seconds before `now`. -/
def live (report : WorkerReport) (now : Int) : Bool := now - report.time < 30 * 1000000000

end WorkerReport

/-- The last accepted report of an id in a history, most recent call first: `none` for an
id that was never registered or was removed since. A heartbeat of such an id is not
accepted. -/
def lastReport (nodeId : String) : List WorkerCall → Option WorkerReport
  | [] => none
  | .register req stamp now :: earlier =>
      if nodeId = RegistryManager.assignedId (registeredNode req stamp) now then
        some ⟨stamp, req.totalMemoryMb⟩
      else lastReport nodeId earlier
  | .heartbeat sender availableMemoryMb _ now :: earlier =>
      if nodeId = sender then
        (lastReport nodeId earlier).map fun _ => ⟨now, availableMemoryMb⟩
      else lastReport nodeId earlier
  | .remove removed :: earlier => if nodeId = removed then none else lastReport nodeId earlier

/-- The part of a record that reports set. -/
def RegistryNodeInfo.report (info : RegistryNodeInfo) : WorkerReport :=
  ⟨info.lastHeartbeat, info.availableMemoryMb⟩

/-- `duration_cast` to whole seconds rounds towards zero, so the bound on the seconds is
one on the nanoseconds, for negative durations too. -/
theorem tdiv_second_lt_iff (duration : Int) :
    duration.tdiv 1000000000 < 30 ↔ duration < 30 * 1000000000 := by
  rw [Int.tdiv_eq_ediv]
  split_ifs with exact
  · omega
  · have negative : duration < 0 := by
      by_contra nonneg
      exact exact (.inl (by omega))
    simp only [Int.sign_eq_one_of_pos (show (0 : Int) < 1000000000 by decide)]
    omega

/-- The query's test is the liveness of the record's report, for every clock reading. -/
theorem RegistryNodeInfo.isOnline_eq_live (info : RegistryNodeInfo) (now : Int) :
    info.isOnline now = info.report.live now := by
  unfold isOnline WorkerReport.live report
  rw [decide_eq_decide]
  exact tdiv_second_lt_iff _

namespace TimedRegistry

/-- The table refines the history: each record carries the last accepted report of its
id, and no report is from the future. -/
structure Tracks (timed : TimedRegistry) (history : List WorkerCall) : Prop where
  reports : ∀ nodeId,
    (timed.manager.nodes.lookup nodeId).map RegistryNodeInfo.report = lastReport nodeId history
  past : ∀ nodeId report, lastReport nodeId history = some report → report.time ≤ timed.clock

theorem tracks_empty (clock : Int) : Tracks ⟨.empty, clock⟩ [] where
  reports _ := rfl
  past _ _ found := by cases found

variable {timed next : TimedRegistry} {history : List WorkerCall} {call : WorkerCall}

/-- One call makes in the table the change it makes in the history. -/
theorem Tracks.step (tracks : timed.Tracks history)
    (transition : timedMachine.step timed call = some next) : next.Tracks (call :: history) := by
  simp only [timedMachine, Option.ite_none_right_eq_some, Option.some.injEq] at transition
  obtain ⟨forward, rfl⟩ := transition
  cases call with
  | register req stamp now =>
      simp only [WorkerCall.readsForward, decide_eq_true_eq] at forward
      constructor
      · intro nodeId
        simp only [RegistryManager.apply, WorkerCall.toOp,
          RegistryManager.lookup_registerWorker, lastReport]
        split_ifs with same
        · rfl
        · exact tracks.reports nodeId
      · intro nodeId report found
        simp only [lastReport] at found
        split_ifs at found with same
        · cases found
          exact forward.2
        · exact (tracks.past nodeId report found).trans forward.1
  | heartbeat sender availableMemoryMb onlineModels now =>
      simp only [WorkerCall.readsForward, decide_eq_true_eq] at forward
      constructor
      · intro nodeId
        simp only [RegistryManager.apply, WorkerCall.toOp,
          RegistryManager.lookup_updateHeartbeat, lastReport]
        split_ifs with same
        · rw [same, ← tracks.reports sender, Option.map_map, Option.map_map]
          rfl
        · exact tracks.reports nodeId
      · intro nodeId report found
        simp only [lastReport] at found
        split_ifs at found with same
        · obtain ⟨_, _, rfl⟩ := Option.map_eq_some_iff.mp found
          exact le_rfl
        · exact (tracks.past nodeId report found).trans forward
  | remove removed =>
      constructor
      · intro nodeId
        simp only [RegistryManager.apply, WorkerCall.toOp,
          RegistryManager.lookup_removeWorker, lastReport]
        split_ifs with same
        · rfl
        · exact tracks.reports nodeId
      · intro nodeId report found
        simp only [lastReport] at found
        split_ifs at found with same
        exact tracks.past nodeId report found

theorem Tracks.run {clock : Int} {calls : List WorkerCall}
    (run : timedMachine.AnyRun ⟨.empty, clock⟩ calls timed) : timed.Tracks calls.reverse := by
  induction run with
  | nil => exact tracks_empty clock
  | snoc _ _ transition inductionHypothesis =>
      rw [List.reverse_append]
      exact inductionHypothesis.step transition

end TimedRegistry

/-! ## The answer -/

namespace RegistryManager

/-- The ids behind the answer are the ids of the index list that pass the test on their
record, in the order of the list. -/
theorem ids_onlineEntries (manager : RegistryManager) (modelName : String) (now : Int) :
    (manager.onlineEntries modelName now).map Prod.fst =
      (manager.modelToNodes.bucket modelName).filter fun nodeId =>
        (manager.nodes.lookup nodeId).any (·.isOnline now) := by
  unfold onlineEntries
  induction manager.modelToNodes.bucket modelName with
  | nil => rfl
  | cons head rest inductionHypothesis =>
      rw [List.filterMap_cons, List.filter_cons]
      cases found : manager.nodes.lookup head with
      | none => simpa using inductionHypothesis
      | some info =>
          cases online : info.isOnline now with
          | true => simpa [online] using inductionHypothesis
          | false => simpa [online] using inductionHypothesis

/-- The comparator is a strict weak order, so the answer is ranked. -/
theorem ranked_getOnlineNodesByModel (sort : StdSort RegistryNodeInfo)
    (manager : RegistryManager) (modelName : String) (now : Int) :
    (manager.getOnlineNodesByModel sort modelName now).Pairwise fun a b =>
      b.availableMemoryMb ≤ a.availableMemoryMb := by
  have ordered := sort.ordered moreMemory ((manager.onlineEntries modelName now).map Prod.snd)
    (fun a b c first second => by
      simp only [moreMemory, decide_eq_false_iff_not, Int32.not_lt] at first second ⊢
      exact Int32.le_trans second first)
    (fun a b less => by
      simp only [moreMemory, decide_eq_true_eq, decide_eq_false_iff_not] at less ⊢
      exact Int32.lt_asymm less)
  refine ordered.imp fun {a b} notMore => ?_
  simpa [moreMemory, Int32.not_lt] using notMore

/-- The answer in its own order, with the id each record was found under. -/
theorem exists_entries (sort : StdSort RegistryNodeInfo) (manager : RegistryManager)
    (modelName : String) (now : Int) :
    ∃ entries : List (String × RegistryNodeInfo),
      manager.getOnlineNodesByModel sort modelName now = entries.map Prod.snd ∧
        entries.Perm (manager.onlineEntries modelName now) := by
  have sorted := sort.perm moreMemory ((manager.onlineEntries modelName now).map Prod.snd)
  have pulled : Relation.Comp (· = List.map Prod.snd ·) List.Perm
      (manager.getOnlineNodesByModel sort modelName now)
      (manager.onlineEntries modelName now) := by
    rw [List.eq_map_comp_perm]
    exact sorted
  exact pulled

end RegistryManager

/-- What an answer has to be, after a history of calls (most recent first) and for the
model's index list: records of ids whose last accepted report is less than 30 whole
seconds old, with that report's memory, ranked by it, and for all such ids of the list. -/
structure AnswersLive (history : List WorkerCall) (indexList : List String) (now : Int)
    (entries : List (String × RegistryNodeInfo)) : Prop where
  reported : ∀ nodeId info, (nodeId, info) ∈ entries → ∃ report,
    lastReport nodeId history = some report ∧ report.time ≤ now ∧
      now - report.time < 30 * 1000000000 ∧ info.availableMemoryMb = report.availableMemoryMb
  ranked : entries.Pairwise fun a b => b.2.availableMemoryMb ≤ a.2.availableMemoryMb
  complete : (entries.map Prod.fst).Perm
    (indexList.filter fun nodeId => (lastReport nodeId history).any (·.live now))

/-- Every answer, at a time not before the last clock reading of the calls, ranks the
live workers of the model's index list. -/
theorem query_answers_live_workers_ranked (sort : StdSort RegistryNodeInfo) {start now : Int}
    {calls : List WorkerCall} {timed : TimedRegistry}
    (run : timedMachine.AnyRun ⟨.empty, start⟩ calls timed) (later : timed.clock ≤ now)
    (modelName : String) :
    ∃ entries : List (String × RegistryNodeInfo),
      timed.manager.getOnlineNodesByModel sort modelName now = entries.map Prod.snd ∧
        AnswersLive calls.reverse (timed.manager.modelToNodes.bucket modelName) now entries := by
  have tracks := TimedRegistry.Tracks.run run
  obtain ⟨entries, answer, perm⟩ :=
    RegistryManager.exists_entries sort timed.manager modelName now
  have liveIds : ∀ nodeId, (timed.manager.nodes.lookup nodeId).any (·.isOnline now) =
      (lastReport nodeId calls.reverse).any (·.live now) := by
    intro nodeId
    rw [← tracks.reports nodeId, Option.any_map]
    congr 1
    funext info
    exact info.isOnline_eq_live now
  have ids : (entries.map Prod.fst).Perm ((timed.manager.modelToNodes.bucket modelName).filter
      fun nodeId => (lastReport nodeId calls.reverse).any (·.live now)) := by
    have found := perm.map Prod.fst
    rw [RegistryManager.ids_onlineEntries] at found
    simpa only [liveIds] using found
  refine ⟨entries, answer, ?_, ?_, ids⟩
  · intro nodeId info member
    have record := RegistryManager.lookup_of_mem_onlineEntries (perm.mem_iff.mp member)
    have reported := tracks.reports nodeId
    rw [record, Option.map_some] at reported
    have live : (lastReport nodeId calls.reverse).any (·.live now) = true := by
      have member : nodeId ∈ entries.map Prod.fst := List.mem_map_of_mem member
      exact (List.mem_filter.mp (ids.mem_iff.mp member)).2
    rw [← reported, Option.any_some, WorkerReport.live, decide_eq_true_eq] at live
    have past := (tracks.past nodeId _ reported.symm).trans later
    exact ⟨info.report, reported.symm, past, live, rfl⟩
  · have ranked := RegistryManager.ranked_getOnlineNodesByModel sort timed.manager modelName now
    rw [answer] at ranked
    exact List.pairwise_map.mp ranked

/-- A worker with two models, registered at second 0 and heard of at second 25. -/
def gpuCalls : List WorkerCall :=
  [.register ⟨"10.0.0.7:9000", ["llama", "qwen"], 24576, 1⟩ 0 100,
    .heartbeat "10.0.0.7:9000_100" 8192 ["llama", "qwen"] 25000000000]

/-- At second 40 the worker is answered, once, with the memory of its heartbeat. -/
theorem heartbeat_keeps_worker_in_answer :
    ∃ timed, timedMachine.AnyRun ⟨.empty, 0⟩ gpuCalls timed ∧
      ∃ entries : List (String × RegistryNodeInfo),
        timed.manager.getOnlineNodesByModel (StdSort.merge _) "llama" 40000000000 =
            entries.map Prod.snd ∧
          AnswersLive gpuCalls.reverse (timed.manager.modelToNodes.bucket "llama")
            40000000000 entries ∧
          entries.map Prod.fst = ["10.0.0.7:9000_100"] ∧
          ∀ entry ∈ entries, entry.2.availableMemoryMb = 8192 := by
  have executed : timedMachine.exec ⟨.empty, 0⟩ gpuCalls = some
      ⟨(RegistryManager.empty.apply (gpuCalls.head (by decide)).toOp).apply
        (gpuCalls.getLast (by decide)).toOp, 25000000000⟩ := rfl
  have run := Machine.run_of_exec executed
  obtain ⟨entries, answer, live⟩ :=
    query_answers_live_workers_ranked (StdSort.merge _) run
      (by decide : (25000000000 : Int) ≤ 40000000000) "llama"
  have ids : entries.map Prod.fst = ["10.0.0.7:9000_100"] :=
    List.perm_singleton.mp (live.complete.trans (by decide +kernel))
  refine ⟨_, run, entries, answer, live, ids, fun entry member => ?_⟩
  have named : entry.1 = "10.0.0.7:9000_100" := by
    have listed : entry.1 ∈ entries.map Prod.fst := List.mem_map_of_mem member
    simpa [ids] using listed
  obtain ⟨report, reported, _, _, memory⟩ := live.reported entry.1 entry.2 member
  rw [named] at reported
  have last : (lastReport "10.0.0.7:9000_100" gpuCalls.reverse).map (·.availableMemoryMb) =
      some 8192 := by decide +kernel
  rw [reported, Option.map_some, Option.some.injEq] at last
  rw [memory, last]

end TurboCore.Registry
