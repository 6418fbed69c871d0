import Mathlib
import TurboCore.Foundation.Execution
import TurboCore.Foundation.FiniteMap

/-!
# Jobs and their results

`JobManager` keeps `m_jobs` and `m_job_results` under one mutex, so its calls take effect
one after the other. `RemoveJob` clears both maps; `SaveJobResult` asks neither.
-/

namespace TurboCore.DistTask

open Foundation

inductive JobStatus where
  | disable
  | enabled
deriving DecidableEq

structure JobInfo where
  jobId : String
  jobName : String
  cronExpr : String
  handlerName : String
  jobParams : String
  status : JobStatus := .enabled
  timeoutSeconds : Int32 := 500
  maxRetryTimes : Int32 := 3
  createTime : Int64
  updateTime : Int64
deriving DecidableEq

structure JobResult where
  resultId : String
  jobId : String
  nodeId : String
  success : Bool
  output : String
  exitCode : Int32
  costMs : Int64
  executeTime : Int64
deriving DecidableEq

structure JobManager where
  jobs : FiniteMap String JobInfo
  jobResults : FiniteMap String (List JobResult)

namespace JobManager

def initial : JobManager := ⟨∅, ∅⟩

/-- `AddOrUpdateJob`. -/
def addOrUpdateJob (manager : JobManager) (jobInfo : JobInfo) : JobManager :=
  { manager with jobs := manager.jobs.insert jobInfo.jobId jobInfo }

/-- `RemoveJob`. -/
def removeJob (manager : JobManager) (jobId : String) : JobManager :=
  let manager := { manager with jobs := manager.jobs.erase jobId }
  if (manager.jobResults.lookup jobId).isSome then
    { manager with jobResults := manager.jobResults.erase jobId }
  else manager

/-- `GetJob`; `none` is the `std::out_of_range` of `at`. -/
def getJob (manager : JobManager) (jobId : String) : Option JobInfo :=
  manager.jobs.lookup jobId

/-- `GetAllEnableJobs`, in the order of the map. -/
def getAllEnableJobs (manager : JobManager) : List JobInfo :=
  (manager.jobs.entries.map Sigma.snd).filter fun job => job.status = .enabled

/-- `SaveJobResult`: `operator[]` creates the list of an unknown id. -/
def saveJobResult (manager : JobManager) (jobResult : JobResult) : JobManager :=
  { manager with
    jobResults := manager.jobResults.insert jobResult.jobId
      ((manager.jobResults.lookup jobResult.jobId).getD [] ++ [jobResult]) }

/-- `GetJobResults`: the last `maxCount` results, all of them unless it is positive. -/
def getJobResults (manager : JobManager) (jobId : String) (maxCount : Int32) : List JobResult :=
  match manager.jobResults.lookup jobId with
  | none => []
  | some allResults =>
      if allResults.length ≤ (maxCount.toInt % 2 ^ 64).toNat ∨ maxCount.toInt ≤ 0 then allResults
      else allResults.drop (allResults.length - maxCount.toInt.toNat)

/-- A call that changes the manager. -/
inductive Call where
  | addOrUpdateJob (jobInfo : JobInfo)
  | removeJob (jobId : String)
  | saveJobResult (jobResult : JobResult)
deriving DecidableEq

def apply (manager : JobManager) : Call → JobManager
  | .addOrUpdateJob jobInfo => manager.addOrUpdateJob jobInfo
  | .removeJob jobId => manager.removeJob jobId
  | .saveJobResult jobResult => manager.saveJobResult jobResult

def machine : Machine JobManager Call where
  step manager call := some (manager.apply call)

def hasJob (manager : JobManager) (jobId : String) : Bool := (manager.jobs.lookup jobId).isSome

def hasResults (manager : JobManager) (jobId : String) : Bool :=
  (manager.jobResults.lookup jobId).isSome

@[simp] theorem hasJob_addOrUpdateJob (manager : JobManager) (jobInfo : JobInfo)
    (jobId : String) :
    (manager.addOrUpdateJob jobInfo).hasJob jobId =
      (decide (jobId = jobInfo.jobId) || manager.hasJob jobId) := by
  simp only [hasJob, addOrUpdateJob, FiniteMap.lookup_insert]
  split_ifs with same <;> simp [same]

@[simp] theorem hasJob_removeJob (manager : JobManager) (removed jobId : String) :
    (manager.removeJob removed).hasJob jobId =
      (decide (jobId ≠ removed) && manager.hasJob jobId) := by
  have jobs : (manager.removeJob removed).jobs = manager.jobs.erase removed := by
    simp only [removeJob]
    split_ifs <;> rfl
  simp only [hasJob, jobs, FiniteMap.lookup_erase]
  split_ifs with same <;> simp [same]

@[simp] theorem hasResults_removeJob (manager : JobManager) (removed jobId : String) :
    (manager.removeJob removed).hasResults jobId =
      (decide (jobId ≠ removed) && manager.hasResults jobId) := by
  simp only [hasResults, removeJob]
  split_ifs with present
  · rw [FiniteMap.lookup_erase]
    split_ifs with same <;> simp [same]
  · rcases eq_or_ne jobId removed with rfl | distinct
    · simpa using present
    · simp [distinct]

@[simp] theorem hasResults_saveJobResult (manager : JobManager) (jobResult : JobResult)
    (jobId : String) :
    (manager.saveJobResult jobResult).hasResults jobId =
      (decide (jobId = jobResult.jobId) || manager.hasResults jobId) := by
  simp only [hasResults, saveJobResult, FiniteMap.lookup_insert]
  split_ifs with same <;> simp [same]

/-- Every key of `m_job_results` is a key of `m_jobs`. -/
def ResultsBelong (manager : JobManager) : Prop :=
  ∀ jobId, manager.hasResults jobId = true → manager.hasJob jobId = true

/-- A job added under an id that `m_jobs` does not have starts without results. -/
def FreshJobsStartEmpty (manager : JobManager) : Prop :=
  ∀ jobInfo maxCount, manager.hasJob jobInfo.jobId = false →
    (manager.addOrUpdateJob jobInfo).getJobResults jobInfo.jobId maxCount = []

/-- A result is saved for a job that exists. -/
def ResultForJob (manager : JobManager) : Call → Prop
  | .saveJobResult jobResult => manager.hasJob jobResult.jobId = true
  | _ => True

instance (manager : JobManager) : (call : Call) → Decidable (manager.ResultForJob call)
  | .addOrUpdateJob _ => .isTrue trivial
  | .removeJob _ => .isTrue trivial
  | .saveJobResult jobResult => inferInstanceAs (Decidable (manager.hasJob jobResult.jobId = true))

theorem resultsBelong_initial : initial.ResultsBelong := by
  intro jobId present
  cases present

theorem ResultsBelong.freshJobsStartEmpty {manager : JobManager}
    (belong : manager.ResultsBelong) : manager.FreshJobsStartEmpty := by
  intro jobInfo maxCount absent
  have noResults : manager.jobResults.lookup jobInfo.jobId = none := by
    by_contra present
    have job := belong jobInfo.jobId (Option.isSome_iff_ne_none.mpr present)
    rw [absent] at job
    cases job
  simp only [getJobResults, addOrUpdateJob, noResults]

/-- A call keeps the keys together if it saves no result for an absent job. -/
theorem ResultsBelong.apply {manager : JobManager} {call : Call}
    (belong : manager.ResultsBelong) (admitted : manager.ResultForJob call) :
    (manager.apply call).ResultsBelong := by
  intro jobId present
  have before := belong jobId
  cases call with
  | addOrUpdateJob jobInfo =>
      have job := before present
      simp [JobManager.apply, job]
  | removeJob removed =>
      simp only [JobManager.apply, hasResults_removeJob, hasJob_removeJob,
        Bool.and_eq_true] at present ⊢
      exact ⟨present.1, before present.2⟩
  | saveJobResult jobResult =>
      simp only [JobManager.apply, hasResults_saveJobResult, Bool.or_eq_true,
        decide_eq_true_eq] at present
      rcases present with rfl | present
      · exact admitted
      · exact before present

/-- A saved result has a key, so the keys stay together only if its job exists. -/
theorem resultForJob_of_belong {manager : JobManager} {call : Call}
    (after : (manager.apply call).ResultsBelong) : manager.ResultForJob call := by
  cases call with
  | addOrUpdateJob jobInfo => trivial
  | removeJob jobId => trivial
  | saveJobResult jobResult => exact after jobResult.jobId (by simp [JobManager.apply])

/-- Along a list of calls, results belong to existing jobs and jobs added anew start
without results exactly if every result was saved while its job existed. -/
theorem results_belong_iff (calls : List Call) :
    machine.Throughout (fun manager => manager.ResultsBelong ∧ manager.FreshJobsStartEmpty)
        initial calls ↔
      machine.Guarded ResultForJob initial calls := by
  refine Machine.throughout_iff_guarded (?_ : ∀ manager, ResultsBelong manager → _) ?_ ?_
    resultsBelong_initial calls
  · intro manager belong
    exact ⟨belong, belong.freshJobsStartEmpty⟩
  · intro manager call next belong admitted transition
    cases transition
    exact belong.apply admitted
  · intro manager call next _ transition after
    cases transition
    exact resultForJob_of_belong after.1

/-- A job that the run below adds, removes and adds again. -/
def nightly : JobInfo where
  jobId := "nightly"
  jobName := "report"
  cronExpr := "0 0 * * *"
  handlerName := "report"
  jobParams := "{}"
  createTime := 0
  updateTime := 0

/-- Its result, sent before the removal and received after it. -/
def lateResult : JobResult := ⟨"r1", "nightly", "worker-1", true, "done", 0, 12, 1⟩

/-- A late result gets a key of its own, and the job added again under the id inherits it. -/
theorem late_result_outlives_job :
    ¬ ∀ calls manager, machine.AnyRun initial calls manager →
      manager.ResultsBelong ∧ manager.FreshJobsStartEmpty := by
  intro always
  have run : machine.AnyRun initial
      [.addOrUpdateJob nightly, .removeJob "nightly", .saveJobResult lateResult]
      (((initial.addOrUpdateJob nightly).removeJob "nightly").saveJobResult lateResult) :=
    Machine.run_of_exec rfl
  have job := (always _ _ run).1 "nightly" (by decide)
  revert job
  decide

end JobManager

end TurboCore.DistTask
