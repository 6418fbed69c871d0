import Mathlib
import TurboCore.DistTask.JobManager

/-!
# The jobs that the manager knows

`GetJob` and `GetAllEnableJobs`, told by the calls that came before them. The last call that
stores or removes an id decides what is known under it, and the list of enabled jobs is the one
that a caller would get by asking for every id.
-/

namespace TurboCore.DistTask

open Foundation

namespace JobManager

/-- What a call leaves under an id, if it stores or removes it. -/
def Call.leaves? (jobId : String) : Call → Option (Option JobInfo)
  | addOrUpdateJob jobInfo => if jobInfo.jobId = jobId then some (some jobInfo) else none
  | removeJob removed => if removed = jobId then some none else none
  | saveJobResult _ => none

/-- What the last call left that stored or removed the id. -/
def lastStored (jobId : String) (calls : List Call) : Option JobInfo :=
  (calls.reverse.findSome? (Call.leaves? jobId)).join

theorem lastStored_concat (jobId : String) (calls : List Call) (call : Call) :
    lastStored jobId (calls ++ [call]) =
      (call.leaves? jobId).getD (lastStored jobId calls) := by
  rw [lastStored, List.reverse_concat, List.findSome?_cons]
  cases call.leaves? jobId <;> rfl

theorem jobs_removeJob (manager : JobManager) (jobId : String) :
    (manager.removeJob jobId).jobs = manager.jobs.erase jobId := by
  simp only [removeJob]
  split_ifs <;> rfl

/-- One call changes what is known under an id as it says. -/
theorem getJob_apply (manager : JobManager) (call : Call) (jobId : String) :
    (manager.apply call).getJob jobId = (call.leaves? jobId).getD (manager.getJob jobId) := by
  cases call with
  | addOrUpdateJob jobInfo =>
      simp only [apply, addOrUpdateJob, getJob, FiniteMap.lookup_insert, Call.leaves?]
      by_cases same : jobInfo.jobId = jobId
      · simp [same]
      · simp [same, Ne.symm same]
  | removeJob removed =>
      simp only [apply, getJob, jobs_removeJob, FiniteMap.lookup_erase, Call.leaves?]
      by_cases same : removed = jobId
      · simp [same]
      · simp [same, Ne.symm same]
  | saveJobResult jobResult => rfl

theorem getJob_run {calls : List Call} {manager : JobManager}
    (run : machine.AnyRun initial calls manager) (jobId : String) :
    manager.getJob jobId = lastStored jobId calls := by
  induction run with
  | nil => rfl
  | snoc _ _ transition inductionHypothesis =>
      cases transition
      rw [getJob_apply, lastStored_concat, inductionHypothesis]

/-- Every job is kept under its own id. -/
def KeptUnderOwnId (manager : JobManager) : Prop :=
  ∀ jobId jobInfo, manager.getJob jobId = some jobInfo → jobInfo.jobId = jobId

theorem KeptUnderOwnId.apply {manager : JobManager} (kept : manager.KeptUnderOwnId)
    (call : Call) : (manager.apply call).KeptUnderOwnId := by
  intro jobId jobInfo found
  rw [getJob_apply] at found
  cases call with
  | addOrUpdateJob stored =>
      simp only [Call.leaves?] at found
      split at found
      · next same =>
          cases found
          exact same
      · exact kept jobId jobInfo found
  | removeJob removed =>
      simp only [Call.leaves?] at found
      split at found
      · cases found
      · exact kept jobId jobInfo found
  | saveJobResult _ => exact kept jobId jobInfo found

theorem mem_getAllEnableJobs {manager : JobManager} (kept : manager.KeptUnderOwnId)
    (jobInfo : JobInfo) :
    jobInfo ∈ manager.getAllEnableJobs ↔
      manager.getJob jobInfo.jobId = some jobInfo ∧ jobInfo.status = .enabled := by
  have entry (jobId : String) (stored : JobInfo) :
      (⟨jobId, stored⟩ : Sigma fun _ : String => JobInfo) ∈ manager.jobs.entries ↔
        manager.getJob jobId = some stored := AList.mem_lookup_iff.symm
  simp only [getAllEnableJobs, List.mem_filter, List.mem_map, decide_eq_true_eq]
  refine and_congr_left fun _ => ?_
  constructor
  · rintro ⟨⟨jobId, stored⟩, member, rfl⟩
    have found := (entry jobId stored).mp member
    rwa [kept jobId stored found]
  · exact fun found => ⟨⟨jobInfo.jobId, jobInfo⟩, (entry _ _).mpr found, rfl⟩

/-- No id occurs twice among the enabled jobs. -/
theorem nodup_getAllEnableJobs {manager : JobManager} (kept : manager.KeptUnderOwnId) :
    (manager.getAllEnableJobs.map JobInfo.jobId).Nodup := by
  have ids : (manager.jobs.entries.map Sigma.snd).map JobInfo.jobId =
      manager.jobs.entries.map Sigma.fst := by
    rw [List.map_map]
    refine List.map_congr_left fun entry member => ?_
    exact kept entry.1 entry.2 (AList.mem_lookup_iff.mpr member)
  have distinct : ((manager.jobs.entries.map Sigma.snd).map JobInfo.jobId).Nodup := by
    rw [ids]
    exact manager.jobs.nodupKeys
  exact distinct.sublist (List.filter_sublist.map _)

/-- After every sequence of calls: a job is known as it was stored last, unless its id has been
removed since, and the enabled ones among the jobs so known are listed, each once. -/
theorem job_table_by_history {calls : List Call} {manager : JobManager}
    (run : machine.AnyRun initial calls manager) :
    (∀ jobId, manager.getJob jobId = lastStored jobId calls) ∧
      (∀ jobInfo, jobInfo ∈ manager.getAllEnableJobs ↔
        lastStored jobInfo.jobId calls = some jobInfo ∧ jobInfo.status = .enabled) ∧
      (manager.getAllEnableJobs.map JobInfo.jobId).Nodup := by
  have kept : manager.KeptUnderOwnId := run.invariant KeptUnderOwnId
    (fun jobId jobInfo found => by simp [initial, getJob] at found)
    fun _ _ _ before _ transition => by
      cases transition
      exact before.apply _
  refine ⟨getJob_run run, fun jobInfo => ?_, nodup_getAllEnableJobs kept⟩
  rw [mem_getAllEnableJobs kept, getJob_run run]

/-- A job is stored, disabled by an update, removed and stored again. -/
theorem nightly_is_listed_again :
    ∃ manager, machine.AnyRun initial [.addOrUpdateJob nightly,
        .addOrUpdateJob { nightly with status := .disable }, .removeJob "nightly",
        .addOrUpdateJob nightly] manager ∧
      nightly ∈ manager.getAllEnableJobs := by
  have run : machine.AnyRun initial [.addOrUpdateJob nightly,
      .addOrUpdateJob { nightly with status := .disable }, .removeJob "nightly",
      .addOrUpdateJob nightly] _ := Machine.run_of_exec rfl
  exact ⟨_, run, ((job_table_by_history run).2.1 nightly).mpr ⟨rfl, rfl⟩⟩

end JobManager

end TurboCore.DistTask
