import HobitQueue.Queue.InStep
import HobitQueue.Service.FinishChecks

/-!
# Finishes and the run they name

A finish names a run. The task is ended in any case; the link of the run is ended only if
there is one, and whether it is still running is not asked. So a finish ends exactly the run
it names as long as that run is going on, and otherwise it ends the attempt of somebody else.

## Main results

* `finishes_end_named_run_iff` — along every history the two conditions on the steps agree.
-/

namespace HobitQueue

open Concurrent StoreProg Relational Machine

/-- A running link of the named run of the task. -/
def IsRunningRun (n : FinishAssignedAgentQueueTaskRunInput) (link : AgentQueueTaskRunLinkRow) :
    Prop :=
  ofNamedRun n link = true ∧ link.status = "running"

instance (n : FinishAssignedAgentQueueTaskRunInput) (link : AgentQueueTaskRunLinkRow) :
    Decidable (IsRunningRun n link) :=
  inferInstanceAs (Decidable (_ ∧ _))

/-- A finish that succeeds found a running link of the named run, and ended this link and the
task; a finish that fails leaves the store unchanged. Steps of other kinds are not judged. -/
def FinishEndsNamedRun (s : SqliteStore) : Op → Prop
  | .finishAssigned d input =>
      match exec (finishAssignedAgentQueueTaskRun d input) s with
      | (.error _, t) => t = s
      | (.ok _, t) => ∃ n queueStatus, checkedFinish input = .ok (n, queueStatus) ∧
          ∃ link ∈ s.agentQueueTaskRunLinks, IsRunningRun n link ∧
            t = s.ended d n queueStatus (·.linkId == link.linkId)
  | _ => True

/-- A finish that the checks accept names a run of the task that is running. -/
def FinishNamesRunningRun (s : SqliteStore) : Op → Prop
  | .finishAssigned _ input => ∀ n queueStatus, checkedFinish input = .ok (n, queueStatus) →
      s.acceptsFinish n = true → ∃ link ∈ s.agentQueueTaskRunLinks, IsRunningRun n link
  | _ => True

/-- The links of a named run are the one link with its id. -/
theorem ended_named_run {s : SqliteStore} {d : Draws} {n : FinishAssignedAgentQueueTaskRunInput}
    {queueStatus : AgentQueueTaskLifecycleStatus} {link : AgentQueueTaskRunLinkRow}
    (hmem : link ∈ s.agentQueueTaskRunLinks) (hlink : ofNamedRun n link = true) :
    s.ended d n queueStatus (ofNamedRun n) = s.ended d n queueStatus (·.linkId == link.linkId) := by
  have hsame : ∀ r ∈ s.agentQueueTaskRunLinks, ofNamedRun n r = (r.linkId == link.linkId) := by
    intro r hr
    by_cases hid : r.linkId = link.linkId
    · have hclash : Clash r link :=
        ⟨("link_id", [r.linkId]), by simp [Row.keys], by simp [Row.keys, hid]⟩
      rw [Table.eq_of_clash hr hmem hclash, hlink, beq_self_eq_true]
    · rw [beq_false_of_ne hid]
      by_contra hnamed
      have hrun : ofNamedRun n r = true := by simpa using hnamed
      simp only [ofNamedRun, Bool.and_eq_true, beq_iff_eq] at hrun hlink
      have hclash : Clash r link := ⟨("direct_work_run_id", [r.directWorkRunId]),
        by simp [Row.keys], by simp [Row.keys, hrun.2, hlink.2]⟩
      exact hid (congrArg (·.linkId) (Table.eq_of_clash hr hmem hclash))
  unfold SqliteStore.ended
  congr 1
  exact Table.update_congr hsame

theorem finish_ends_named_run_iff (s : SqliteStore) (op : Op) :
    FinishEndsNamedRun s op ↔ FinishNamesRunningRun s op := by
  cases op with
  | finishAssigned d input =>
    simp only [FinishEndsNamedRun, FinishNamesRunningRun]
    rcases hn : checkedFinish input with e | ⟨n, queueStatus⟩
    · rw [exec_finish_of_error hn]
      exact iff_of_true rfl (by rintro n queueStatus ⟨⟩)
    by_cases haccept : s.acceptsFinish n = true
    · obtain ⟨summary, hrun⟩ := exec_finish_of_accepted (d := d) hn haccept
      rw [hrun]
      constructor
      · rintro ⟨n', queueStatus', hn', link, hmem, hlink, -⟩ m queueStatus'' hm -
        cases hn'
        cases hm
        exact ⟨link, hmem, hlink⟩
      · intro hcond
        obtain ⟨link, hmem, hlink⟩ := hcond n queueStatus rfl haccept
        exact ⟨n, queueStatus, rfl, link, hmem, hlink, ended_named_run hmem hlink.1⟩
    · obtain ⟨e, hrun⟩ := exec_finish_of_refused (d := d) hn (by simpa using haccept)
      rw [hrun]
      refine iff_of_true rfl ?_
      rintro m queueStatus' hm haccept'
      cases hm
      exact absurd haccept' haccept
  | _ => exact Iff.rfl

/-- **The finishes of a history end the runs they name if and only if each of them is refused
or names a run that is running.** -/
theorem finishes_end_named_run_iff (s : SqliteStore) (history : List Op) :
    Along perform FinishEndsNamedRun s history ↔ Along perform FinishNamesRunningRun s history :=
  ⟨Along.mono fun s op => (finish_ends_named_run_iff s op).1,
    Along.mono fun s op => (finish_ends_named_run_iff s op).2⟩

/-- An accepted finish of a run that is not running ends something else. -/
theorem not_ends_named_run {s : SqliteStore} {d : Draws}
    {input n : FinishAssignedAgentQueueTaskRunInput} {queueStatus : AgentQueueTaskLifecycleStatus}
    (hn : checkedFinish input = .ok (n, queueStatus)) (haccept : s.acceptsFinish n = true)
    (hnone : ∀ link ∈ s.agentQueueTaskRunLinks, ¬ IsRunningRun n link) :
    ¬ FinishEndsNamedRun s (.finishAssigned d input) := by
  intro h
  rw [finish_ends_named_run_iff] at h
  obtain ⟨link, hmem, hlink⟩ := h n queueStatus hn haccept
  exact hnone link hmem hlink

/-- A finish of the first task by the local backend. -/
def finishedFirstTask (runId : String) : FinishAssignedAgentQueueTaskRunInput :=
  ⟨"w", firstTask, queueLocalBackendExecutionTargetId, runId, "completed"⟩

theorem checkedFinish_firstTask (runId : String)
    (h : Text.trim runId = runId ∧ runId ≠ "") :
    checkedFinish (finishedFirstTask runId) = .ok (finishedFirstTask runId, .completed) := by
  have hws : requiredInput "w" "workspace id" = .ok "w" := by decide +kernel
  have htask : requiredInput firstTask "queue item id" = .ok firstTask := by decide +kernel
  have hexecutor : requiredInput queueLocalBackendExecutionTargetId "executor widget instance id" =
      .ok queueLocalBackendExecutionTargetId := by decide +kernel
  have hrun : requiredInput runId "run id" = .ok runId := requiredInput_ok.2 ⟨h.1.symm, h.2⟩
  have hstatus : requiredInput "completed" "direct work status" = .ok "completed" := by
    decide +kernel
  simp only [checkedFinish, normalizeFinishAssignedAgentQueueTaskRunInput, finishedFirstTask, hws,
    htask, hexecutor, hrun, hstatus, bind, Except.bind, pure, Except.pure]
  rfl

/-- The first run ended without success, and a second one is going on. -/
def secondRunGoingOn : List Op :=
  firstTaskQueued ++
    [startFirstTask 2, reportFirstTask 3 "queue-run_2000000002_2" "not_completed",
      startFirstTask 4]

/-- While the second run is going on, a late finish of the first run and a finish of a run that
nobody has started both end the task, and the link of the second run stays running. -/
theorem late_finish_ends_other_attempt :
    let s := after perform (oneWorkspace "w") secondRunGoingOn
    let late := Op.finishAssigned (drawsAt 5) (finishedFirstTask "queue-run_2000000002_2")
    ¬ FinishEndsNamedRun s late ∧
    ¬ FinishEndsNamedRun s (.finishAssigned (drawsAt 5) (finishedFirstTask "unknown")) ∧
    (∀ task ∈ (perform s late).agentQueueTasks, task.status ≠ "running") ∧
    ∃ link ∈ (perform s late).agentQueueTaskRunLinks,
      link.directWorkRunId = "queue-run_4000000002_2" ∧ link.status = "running" := by
  have hstate : let s := after perform (oneWorkspace "w") secondRunGoingOn
      let late := Op.finishAssigned (drawsAt 5) (finishedFirstTask "queue-run_2000000002_2")
      (∀ runId ∈ ["queue-run_2000000002_2", "unknown"],
        (Text.trim runId = runId ∧ runId ≠ "") ∧ s.acceptsFinish (finishedFirstTask runId) = true ∧
          ∀ link ∈ s.agentQueueTaskRunLinks, ¬ IsRunningRun (finishedFirstTask runId) link) ∧
      (∀ task ∈ (perform s late).agentQueueTasks, task.status ≠ "running") ∧
      ∃ link ∈ (perform s late).agentQueueTaskRunLinks,
        link.directWorkRunId = "queue-run_4000000002_2" ∧ link.status = "running" := by
    decide +kernel
  obtain ⟨hruns, htask, hlink⟩ := hstate
  have hnot : ∀ runId ∈ ["queue-run_2000000002_2", "unknown"],
      ¬ FinishEndsNamedRun (after perform (oneWorkspace "w") secondRunGoingOn)
        (.finishAssigned (drawsAt 5) (finishedFirstTask runId)) := by
    intro runId hrunId
    obtain ⟨htrim, haccept, hnone⟩ := hruns runId hrunId
    exact not_ends_named_run (checkedFinish_firstTask runId htrim) haccept hnone
  exact ⟨hnot _ (by simp), hnot _ (by simp), htask, hlink⟩

end HobitQueue
