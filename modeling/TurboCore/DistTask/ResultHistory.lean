import Mathlib
import TurboCore.DistTask.JobManager

/-!
# The history of a job's results

What `GetJobResults` answers, told by the calls that came before it: the results saved
under an id since its last removal, cut to the newest ones.
-/

namespace TurboCore.DistTask

open Foundation

namespace JobManager

namespace Call

/-- The id that a call is about. -/
def jobId : Call → String
  | addOrUpdateJob jobInfo => jobInfo.jobId
  | removeJob jobId => jobId
  | saveJobResult jobResult => jobResult.jobId

/-- The result that a call saves under an id. -/
def savedFor? (jobId : String) : Call → Option JobResult
  | saveJobResult jobResult => if jobResult.jobId = jobId then some jobResult else none
  | _ => none

end Call

/-- The results saved under an id since it was last removed, oldest first. -/
def savedSinceRemoval (jobId : String) (calls : List Call) : List JobResult :=
  (calls.rtakeWhile fun call => call ≠ .removeJob jobId).filterMap (Call.savedFor? jobId)

theorem savedSinceRemoval_concat (jobId : String) (calls : List Call) (call : Call) :
    savedSinceRemoval jobId (calls ++ [call]) =
      if call = .removeJob jobId then []
      else savedSinceRemoval jobId calls ++ (call.savedFor? jobId).toList := by
  rw [savedSinceRemoval, List.rtakeWhile_concat]
  by_cases removal : call = .removeJob jobId
  · simp [removal]
  · cases saved : call.savedFor? jobId with
    | none => simp [removal, saved, savedSinceRemoval]
    | some jobResult => simp [removal, saved, savedSinceRemoval]

/-- The list that the manager keeps for an id; an unknown id has none. -/
def resultsOf (manager : JobManager) (jobId : String) : List JobResult :=
  (manager.jobResults.lookup jobId).getD []

/-- One call either removes the id or appends what it saves under it. -/
theorem resultsOf_apply (manager : JobManager) (call : Call) (jobId : String) :
    (manager.apply call).resultsOf jobId =
      if call = .removeJob jobId then []
      else manager.resultsOf jobId ++ (call.savedFor? jobId).toList := by
  cases call with
  | addOrUpdateJob jobInfo => simp [apply, addOrUpdateJob, resultsOf, Call.savedFor?]
  | removeJob removed =>
      simp only [apply, removeJob, resultsOf, Call.removeJob.injEq, Call.savedFor?,
        Option.toList_none, List.append_nil]
      split_ifs with present same same
      · rw [FiniteMap.lookup_erase, if_pos same.symm]
        rfl
      · rw [FiniteMap.lookup_erase, if_neg (Ne.symm same)]
      · subst same
        rw [Option.not_isSome_iff_eq_none.mp present]
        rfl
      · rfl
  | saveJobResult jobResult =>
      simp only [apply, saveJobResult, resultsOf, FiniteMap.lookup_insert, Call.savedFor?,
        reduceCtorEq, if_false]
      by_cases same : jobResult.jobId = jobId
      · subst same
        simp
      · simp [same, Ne.symm same]

/-- After every run the manager keeps the results saved since the last removal. -/
theorem resultsOf_run {calls : List Call} {manager : JobManager}
    (run : machine.AnyRun initial calls manager) (jobId : String) :
    manager.resultsOf jobId = savedSinceRemoval jobId calls := by
  induction run with
  | nil => rfl
  | snoc _ _ transition inductionHypothesis =>
      cases transition
      rw [resultsOf_apply, savedSinceRemoval_concat, inductionHypothesis]

/-- The last entries of a list, all of them unless the bound is positive. -/
def window (maxCount : Int32) (results : List JobResult) : List JobResult :=
  if maxCount.toInt ≤ 0 then results
  else results.rtake (min maxCount.toInt.toNat results.length)

/-- The answer is a window of the list, whatever the conversion of the bound to `size_t`
makes of a negative one. -/
theorem getJobResults_eq (manager : JobManager) (jobId : String) (maxCount : Int32) :
    manager.getJobResults jobId maxCount = window maxCount (manager.resultsOf jobId) := by
  rw [getJobResults, resultsOf, window]
  cases manager.jobResults.lookup jobId with
  | none => simp
  | some allResults =>
      rw [Option.getD_some]
      by_cases everything : maxCount.toInt ≤ 0
      · rw [if_pos everything]
        exact if_pos (.inr everything)
      · have converted : (maxCount.toInt % 2 ^ 64).toNat = maxCount.toInt.toNat := by
          have bound := maxCount.toInt_lt
          omega
        rw [if_neg everything]
        simp only [converted, everything, or_false, List.rtake]
        split_ifs with whole
        · rw [Nat.min_eq_right whole, Nat.sub_self, List.drop_zero]
        · rw [Nat.min_eq_left (Nat.le_of_not_le whole)]

/-- Calls about other ids leave the history of an id alone. -/
theorem savedSinceRemoval_filter (jobId : String) (calls : List Call) :
    savedSinceRemoval jobId (calls.filter fun call => call.jobId = jobId) =
      savedSinceRemoval jobId calls := by
  induction calls using List.reverseRecOn with
  | nil => rfl
  | append_singleton calls call inductionHypothesis =>
      rw [List.filter_append, savedSinceRemoval_concat]
      by_cases same : call.jobId = jobId
      · have kept : [call].filter (fun call => call.jobId = jobId) = [call] := by simp [same]
        rw [kept, savedSinceRemoval_concat, inductionHypothesis]
      · have notRemoval : call ≠ .removeJob jobId := by
          rintro rfl
          exact same rfl
        have savesNothing : call.savedFor? jobId = none := by
          cases call with
          | addOrUpdateJob _ | removeJob _ => rfl
          | saveJobResult jobResult => exact if_neg same
        have dropped : [call].filter (fun call => call.jobId = jobId) = [] := by simp [same]
        rw [dropped, List.append_nil, if_neg notRemoval, savesNothing, Option.toList_none,
          List.append_nil, inductionHypothesis]

/-- After every sequence of calls, for every id and every bound: the answer is the window
of the results saved under the id since its last removal, and the calls about other ids
have no part in it. -/
theorem getJobResults_eq_window {calls : List Call} {manager : JobManager}
    (run : machine.AnyRun initial calls manager) (jobId : String) (maxCount : Int32) :
    manager.getJobResults jobId maxCount = window maxCount (savedSinceRemoval jobId calls) ∧
    ∀ only, machine.AnyRun initial (calls.filter fun call => call.jobId = jobId) only →
      only.getJobResults jobId maxCount = manager.getJobResults jobId maxCount := by
  have answer := manager.getJobResults_eq jobId maxCount
  rw [resultsOf_run run] at answer
  refine ⟨answer, fun only ownRun => ?_⟩
  rw [answer, getJobResults_eq, resultsOf_run ownRun, savedSinceRemoval_filter]

/-- A result of a job in a run. -/
def resultNamed (resultId jobId : String) : JobResult :=
  ⟨resultId, jobId, "worker-1", true, "done", 0, 12, 1⟩

/-- Three results behind a removal, with one of another job between them: a bound of two
leaves the last two. -/
theorem two_newest_after_removal :
    ∃ manager, machine.AnyRun initial [.saveJobResult (resultNamed "r0" "nightly"),
        .removeJob "nightly", .saveJobResult (resultNamed "r1" "nightly"),
        .saveJobResult (resultNamed "s1" "hourly"), .saveJobResult (resultNamed "r2" "nightly"),
        .saveJobResult (resultNamed "r3" "nightly")] manager ∧
      manager.getJobResults "nightly" 2 =
        [resultNamed "r2" "nightly", resultNamed "r3" "nightly"] := by
  have run : machine.AnyRun initial [.saveJobResult (resultNamed "r0" "nightly"),
      .removeJob "nightly", .saveJobResult (resultNamed "r1" "nightly"),
      .saveJobResult (resultNamed "s1" "hourly"), .saveJobResult (resultNamed "r2" "nightly"),
      .saveJobResult (resultNamed "r3" "nightly")] _ := Machine.run_of_exec rfl
  refine ⟨_, run, ?_⟩
  rw [(getJobResults_eq_window run "nightly" 2).1]
  decide

end JobManager

end TurboCore.DistTask
