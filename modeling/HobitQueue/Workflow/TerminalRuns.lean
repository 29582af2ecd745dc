import HobitQueue.Queue.History
import HobitQueue.Workflow.RunSteps

/-!
# Runs that have ended

A run ends when it completes or is cancelled. A cancellation, a task slot and a review that
goes on look at the end of a run first. A runner report does not, and a review or a
finalization that is refused writes `blocked` into the run it was refused for.
-/

namespace HobitQueue

open Concurrent StoreProg Relational
open WorkflowReview (BlockedReview ReviewStepRefusal resolveQueueWorkflowReviewStep)
open WorkflowFinalization (BlockedFinalization FinalizationStepRefusal
  FinalizationStepResolution NormalizedFinalizationStepRequest finalizationTransition
  checkFinalizableRun checkResolution resolveQueueWorkflowFinalizationStep)

/-- The run has completed or has been cancelled. -/
def AgentQueueWorkflowRunRow.Ended (row : AgentQueueWorkflowRunRow) : Prop :=
  row.status = QueueWorkflowRunStatus.completed.asStr ∨
    row.status = QueueWorkflowRunStatus.cancelled.asStr

instance (row : AgentQueueWorkflowRunRow) : Decidable row.Ended :=
  inferInstanceAs (Decidable (_ ∨ _))

/-! ## What a command comes to -/

/-- The report that is written, the run it is written into, and what it writes. -/
def SqliteStore.acceptedReport (s : SqliteStore)
    (request : QueueWorkflowRecordRunnerReportRequest) :
    Option (RunnerReportHead × AgentQueueWorkflowRunRow × PreparedRunnerReport) :=
  match runnerReportHead request with
  | .error _ => none
  | .ok head =>
      match s.getAgentQueueWorkflowRun head.workspaceId head.workflowRunId with
      | none => none
      | some row =>
          match prepareRunnerReport row head.workflowRunId request with
          | .error _ => none
          | .ok prepared =>
              if s.agreesWithActions head.workflowRunId prepared.actions then
                some (head, row, prepared)
              else none

theorem AcceptedReport.eq_some {s : SqliteStore}
    {request : QueueWorkflowRecordRunnerReportRequest} {head : RunnerReportHead}
    {row : AgentQueueWorkflowRunRow} {prepared : PreparedRunnerReport}
    (h : AcceptedReport s request head row prepared) :
    s.acceptedReport request = some (head, row, prepared) := by
  simp only [SqliteStore.acceptedReport, h.head_ok, h.found, h.prepared_ok, h.agrees, if_true]

/-- The refusal of a review that is written into the run it names. -/
def WorkflowReview.blockedReview {α : Type} : Except ReviewStepRefusal α → Option BlockedReview
  | .error (.blocked blocked) => some blocked
  | _ => none

/-- The refusal of a finalization that is written into the run it names. -/
def WorkflowFinalization.blockedFinalization {α : Type} :
    Except FinalizationStepRefusal α → Option BlockedFinalization
  | .error (.blocked blocked) => some blocked
  | _ => none

/-- A report leaves the end of an ended run alone when it repeats its status and phase. -/
def ReportKeepsEnded (s : SqliteStore) (request : QueueWorkflowRecordRunnerReportRequest) :
    Prop :=
  ∀ accepted ∈ s.acceptedReport request, accepted.2.1.Ended →
    accepted.1.status.asStr = accepted.2.1.status ∧
      accepted.1.phase.getD accepted.2.1.phase = accepted.2.1.phase

/-- A review leaves the end of an ended run alone when it is not refused for its state. -/
def ReviewKeepsEnded (s : SqliteStore)
    (request : WorkflowReview.QueueWorkflowReviewStepRequest) : Prop :=
  ∀ blocked ∈ WorkflowReview.blockedReview (resolveQueueWorkflowReviewStep s request true),
    ¬ blocked.workflowRun.Ended

/-- So does a finalization, which goes on only where it finds the run closed. -/
def FinalizationKeepsEnded (s : SqliteStore)
    (request : WorkflowFinalization.QueueWorkflowFinalizationStepRequest) : Prop :=
  (∀ blocked ∈ WorkflowFinalization.blockedFinalization
      (resolveQueueWorkflowFinalizationStep s request true), ¬ blocked.workflowRun.Ended) ∧
    ∀ resolved, resolveQueueWorkflowFinalizationStep s request true = .ok resolved →
      resolved.workflowRun.Ended → resolved.workflowRun.phase = workflowPhaseClosed

/-- The command leaves the end of an ended run alone. -/
def KeepsEnded (s : SqliteStore) : WorkflowCommand → Prop
  | .report _ request => ReportKeepsEnded s request
  | .review _ request => ReviewKeepsEnded s request
  | .finalize _ request => FinalizationKeepsEnded s request
  | .start _ _ | .cancel _ _ | .materialize _ _ => True

instance (s : SqliteStore) (request : QueueWorkflowRecordRunnerReportRequest) :
    Decidable (ReportKeepsEnded s request) :=
  inferInstanceAs (Decidable (∀ accepted ∈ s.acceptedReport request, _ → _ ∧ _))

instance (s : SqliteStore) (request : WorkflowReview.QueueWorkflowReviewStepRequest) :
    Decidable (ReviewKeepsEnded s request) :=
  inferInstanceAs (Decidable (∀ blocked ∈ WorkflowReview.blockedReview _, ¬ _))

instance (s : SqliteStore) (request : WorkflowFinalization.QueueWorkflowFinalizationStepRequest) :
    Decidable (FinalizationKeepsEnded s request) :=
  inferInstanceAs (Decidable ((∀ blocked ∈ WorkflowFinalization.blockedFinalization
      (resolveQueueWorkflowFinalizationStep s request true), ¬ blocked.workflowRun.Ended) ∧
    ∀ resolved, resolveQueueWorkflowFinalizationStep s request true = .ok resolved →
      resolved.workflowRun.Ended → resolved.workflowRun.phase = workflowPhaseClosed))

instance decidableKeepsEnded (s : SqliteStore) : (op : WorkflowCommand) →
    Decidable (KeepsEnded s op)
  | .report _ request => inferInstanceAs (Decidable (ReportKeepsEnded s request))
  | .review _ request => inferInstanceAs (Decidable (ReviewKeepsEnded s request))
  | .finalize _ request => inferInstanceAs (Decidable (FinalizationKeepsEnded s request))
  | .start _ _ | .cancel _ _ | .materialize _ _ => isTrue trivial

/-! ## The checks on the end of a run -/

theorem checkCancel_ok {row : AgentQueueWorkflowRunRow} (h : checkCancel (some row) = .ok ()) :
    ¬ row.Ended := by
  rintro (hended | hended)
  · rw [checkCancel, hended] at h
    cases h
  · rw [checkCancel, hended] at h
    cases h

theorem finalizationTransition_ok {request : NormalizedFinalizationStepRequest}
    {run : AgentQueueWorkflowRunRow}
    {transition : WorkflowFinalization.QueueWorkflowFinalizationStepTransition}
    (h : finalizationTransition request run = .ok transition) :
    run.status ≠ QueueWorkflowRunStatus.cancelled.asStr := by
  rw [finalizationTransition, refuseIf_bind_ok] at h
  obtain ⟨-, h⟩ := h
  -- the check stands after each of the two workflows that have a transition
  split at h
  · have hcancelled := (refuseIf_bind_ok.1 h).1
    simpa using hcancelled
  · have hcancelled := (refuseIf_bind_ok.1 h).1
    simpa using hcancelled
  · cases h

/-- The finalization of a completed run finds its decision. -/
theorem checkResolution_completed {resolved : FinalizationStepResolution}
    {requireAuthority : Bool} (h : checkResolution resolved requireAuthority = .ok ())
    (hcompleted : resolved.workflowRun.status = QueueWorkflowRunStatus.completed.asStr) :
    resolved.decided = true := by
  rw [checkResolution] at h
  rw [except_bind_ok] at h
  obtain ⟨_, -, h⟩ := h
  rw [except_bind_ok] at h
  obtain ⟨_, -, h⟩ := h
  rw [except_bind_ok] at h
  obtain ⟨_, hrun, -⟩ := h
  rw [checkFinalizableRun, refuseIf_bind_ok] at hrun
  obtain ⟨-, hrun⟩ := hrun
  rw [refuseIf_bind_ok] at hrun
  obtain ⟨-, hrun⟩ := hrun
  rw [refuseIf_bind_ok, hcompleted] at hrun
  simpa using hrun.1

/-- An ended run whose finalization goes on has completed, and its decision is there. -/
theorem finalization_of_ended {s : SqliteStore}
    {request : WorkflowFinalization.QueueWorkflowFinalizationStepRequest}
    {resolved : FinalizationStepResolution}
    (hresolve : resolveQueueWorkflowFinalizationStep s request true = .ok resolved)
    (hended : resolved.workflowRun.Ended) :
    resolved.workflowRun.status = QueueWorkflowRunStatus.completed.asStr ∧
      resolved.decided = true := by
  have hrun := (WorkflowFinalization.resolveQueueWorkflowFinalizationStep_ok hresolve).2.2
  obtain ⟨transition, slotBindings, binding, taskId, facts, htransition, -, -, -, hcheck, -⟩ :=
    WorkflowFinalization.resolveFinalizationOfRun_ok.1 hrun
  have hopen := finalizationTransition_ok htransition
  have hcompleted : resolved.workflowRun.status = QueueWorkflowRunStatus.completed.asStr :=
    hended.resolve_right hopen
  exact ⟨hcompleted, checkResolution_completed hcheck hcompleted⟩

/-! ## Ended runs -/

/-- A command that leaves the end of a run alone rewrites no status and no phase of one. -/
theorem rowStep_ended {s : SqliteStore} {row row' : AgentQueueWorkflowRunRow}
    {op : WorkflowCommand} (hkeeps : KeepsEnded s op) (hended : row.Ended)
    (hstep : RowStep s row op row') : row'.status = row.status ∧ row'.phase = row.phase := by
  cases hstep with
  | same => exact ⟨rfl, rfl⟩
  | cancelled d request hcheck => exact absurd hended (checkCancel_ok hcheck)
  | reported d request head prepared haccepted =>
    exact hkeeps _ haccepted.eq_some hended
  | materialized d request normalized plan hplan hrow =>
    have hopen := (planTaskSlot_ok hplan).2
    rw [hrow] at hopen
    rcases hended with hstatus | hstatus
    · rw [hstatus] at hopen
      cases hopen
    · rw [hstatus] at hopen
      cases hopen
  | reviewed d request resolved update hresolve hrow hupdate =>
    obtain ⟨-, -, hcompleted, hcancelled, -⟩ :=
      WorkflowReview.resolveQueueWorkflowReviewStep_ok hresolve
    rw [hrow] at hcompleted hcancelled
    exact absurd hended (not_or.2 ⟨hcompleted, hcancelled⟩)
  | reviewBlocked d request blocked hresolve hrow =>
    have hopen : ¬ blocked.workflowRun.Ended := hkeeps blocked (by rw [hresolve]; rfl)
    exact absurd (hrow ▸ hended) hopen
  | finalized d request resolved update hresolve hrow hdecides hupdate =>
    have hended' : resolved.workflowRun.Ended := hrow ▸ hended
    have hclosed := hkeeps.2 resolved hresolve hended'
    have hcompleted := (finalization_of_ended hresolve hended').1
    rw [hrow] at hclosed hcompleted
    obtain ⟨now, v, b, m, k, a, rfl⟩ := hupdate
    exact ⟨hcompleted.symm, hclosed.symm⟩
  | finalizationBlocked d request blocked hresolve hrow =>
    have hopen : ¬ blocked.workflowRun.Ended := hkeeps.1 blocked (by rw [hresolve]; rfl)
    exact absurd (hrow ▸ hended) hopen
  | decisionBlocked d request resolved mapped blocker now hresolve hrow hundecided =>
    have hdecided := (finalization_of_ended hresolve (hrow ▸ hended)).2
    rw [hundecided] at hdecided
    cases hdecided
  | finalizationFailed d request resolved message now hresolve hrow hundecided =>
    have hdecided := (finalization_of_ended hresolve (hrow ▸ hended)).2
    rw [hundecided] at hdecided
    cases hdecided

/-- The named run is there with the status and the phase of the row. -/
def EndedAs (row : AgentQueueWorkflowRunRow) (w i : String) (s : SqliteStore) : Prop :=
  ∃ row', s.getAgentQueueWorkflowRun w i = some row' ∧
    row'.status = row.status ∧ row'.phase = row.phase

/-- **Along commands that leave the ends of runs alone, an ended run keeps its status and
its phase.** -/
theorem ended_runs_stay {s : SqliteStore} {history : List WorkflowCommand}
    (hhistory : Machine.Along performWorkflow KeepsEnded s history) {w i : String}
    {row : AgentQueueWorkflowRunRow} (hrow : s.getAgentQueueWorkflowRun w i = some row)
    (hended : row.Ended) :
    EndedAs row w i (Machine.after performWorkflow s history) := by
  have hstep : ∀ (t : SqliteStore) (op : WorkflowCommand), EndedAs row w i t →
      KeepsEnded t op → EndedAs row w i (performWorkflow t op) := by
    rintro t op ⟨found, hfound, hstatus, hphase⟩ hkeeps
    obtain ⟨row', hrow', hstep⟩ := performWorkflow_row op hfound
    have hended' : found.Ended := by
      rw [AgentQueueWorkflowRunRow.Ended, hstatus]
      exact hended
    obtain ⟨hsame, hsame'⟩ := rowStep_ended hkeeps hended' hstep
    exact ⟨row', hrow', hsame.trans hstatus, hsame'.trans hphase⟩
  exact Machine.invariant_after hstep ⟨row, hrow, rfl, rfl⟩ hhistory

/-! ## Two runs -/

/-- The run that the first start of a history makes. -/
def firstRun : String := "queue-workflow-run-1000000000_0"

def startFirstRun (workflowId : String) (slotBindings : Option Json) : WorkflowCommand :=
  .start (drawsAt 1)
    { workspaceId := "w"
      workflowId := workflowId
      requestId := "request"
      phase := none
      currentStep := none
      actorId := none
      inputsSnapshot := none
      grantSummary := none
      variablesValue := none
      slotBindings := slotBindings
      mutationRefs := none
      idempotencyKeys := none
      actionLogSummary := none }

/-- A report on the first run with a status, and nothing else. -/
def reportFirstRun (second : ℕ) (status : String) (blockerReason : Option String) :
    WorkflowCommand :=
  .report (drawsAt second)
    { workspaceId := "w"
      workflowRunId := firstRun
      status := status
      phase := none
      currentStep := none
      pauseReason := none
      blockerReason := blockerReason
      variablesValue := none
      slotBindings := none
      mutationRefs := none
      idempotencyKeys := none
      actionLogSummary := none
      actions := [] }

/-- A review of the upstream slot of the first run. -/
def reviewFirstRun (second : ℕ) : WorkflowCommand :=
  .review (drawsAt second)
    { workspaceId := "w"
      workflowRunId := firstRun
      slot := none
      actorId := none
      requestId := none
      grantSummary := none }

/-- The column of the first run, when it is there. -/
def SqliteStore.firstRunColumn {α : Type} (s : SqliteStore)
    (column : AgentQueueWorkflowRunRow → α) : Option α :=
  (s.getAgentQueueWorkflowRun "w" firstRun).map column

/-- A run that is completed by a report. -/
def completedFirstRun : SqliteStore :=
  Machine.after performWorkflow (oneWorkspace "w")
    [startFirstRun "dependency_acceptance_smoke" none, reportFirstRun 2 "completed" none]

theorem ended_runs_stay_completedFirstRun :
    ∃ row, EndedAs row "w" firstRun
      (Machine.after performWorkflow completedFirstRun [reportFirstRun 3 "completed" none]) := by
  have hhistory : Machine.Along performWorkflow KeepsEnded completedFirstRun
      [reportFirstRun 3 "completed" none] := by
    decide +kernel
  have hrow : ∃ row ∈ completedFirstRun.getAgentQueueWorkflowRun "w" firstRun, row.Ended := by
    decide +kernel
  obtain ⟨row, hfound, hended⟩ := hrow
  exact ⟨row, ended_runs_stay hhistory hfound hended⟩

/-- A late report takes a completed run back to `running`, a refused review to `blocked`. -/
theorem ended_run_revived :
    completedFirstRun.firstRunColumn (·.status) = some "completed" ∧
      (performWorkflow completedFirstRun (reportFirstRun 3 "running" none)).firstRunColumn
        (·.status) = some "running" ∧
      (performWorkflow completedFirstRun (reviewFirstRun 3)).firstRunColumn (·.status) =
        some "blocked" := by
  decide +kernel

end HobitQueue
