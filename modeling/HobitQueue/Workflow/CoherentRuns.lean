import HobitQueue.Workflow.TerminalRuns

/-!
# The columns of a run fit its status

A run has an end when its status is a terminal one, and only then, and a completed run names
no blocker. The updates of a run keep a column when they give it no value, so the commands
that leave a terminal status, or complete a blocked run, carry the old columns along.
-/

namespace HobitQueue

open Concurrent StoreProg Relational
open WorkflowReview (resolveQueueWorkflowReviewStep)
open WorkflowFinalization (resolveQueueWorkflowFinalizationStep FinalizationStepResolution
  MappedCommandResult)

/-- The end of a run is set when its status is terminal, and a completed run has no
blocker. -/
structure AgentQueueWorkflowRunRow.Coherent (row : AgentQueueWorkflowRunRow) : Prop where
  ended_iff : row.completedAt.isSome = terminalWorkflowStatus row.status
  no_blocker : row.status = QueueWorkflowRunStatus.completed.asStr → row.blockerReason = none

theorem terminalWorkflowStatus_asStr (status : QueueWorkflowRunStatus) :
    terminalWorkflowStatus status.asStr = status.isTerminal := by
  cases status <;> rfl

theorem asStr_inj {status status' : QueueWorkflowRunStatus} (h : status.asStr = status'.asStr) :
    status = status' := by
  have hread := congrArg QueueWorkflowRunStatus.fromStr h
  simpa using hread

/-- A row whose status is not terminal is coherent when it has no end. -/
theorem coherent_of_open {row : AgentQueueWorkflowRunRow} (status : QueueWorkflowRunStatus)
    (hstatus : row.status = status.asStr) (hopen : status.isTerminal = false)
    (hend : row.completedAt = none) : row.Coherent where
  ended_iff := by rw [hend, hstatus, terminalWorkflowStatus_asStr, hopen]; rfl
  no_blocker hcompleted := by
    rw [hstatus] at hcompleted
    rw [asStr_inj hcompleted] at hopen
    cases hopen

/-- A row that ends without having completed is coherent. -/
theorem coherent_of_ended {row : AgentQueueWorkflowRunRow} (status : QueueWorkflowRunStatus)
    (hstatus : row.status = status.asStr) (hterminal : status.isTerminal = true)
    (hcompleted : status ≠ .completed) (hend : row.completedAt.isSome = true) :
    row.Coherent where
  ended_iff := by rw [hend, hstatus, terminalWorkflowStatus_asStr, hterminal]
  no_blocker h := by
    rw [hstatus] at h
    exact absurd (asStr_inj h) hcompleted

/-! ## Commands that keep runs coherent -/

/-- A report that does not end its run finds no end in it, and one that completes it finds
and gives no blocker. -/
def ReportKeepsCoherent (s : SqliteStore) (request : QueueWorkflowRecordRunnerReportRequest) :
    Prop :=
  ∀ accepted ∈ s.acceptedReport request,
    (accepted.1.status.isTerminal = false → accepted.2.1.completedAt = none) ∧
      (accepted.1.status = .completed →
        accepted.1.blockerReason.or accepted.2.1.blockerReason = none)

/-- A review that is refused for the state of its run finds no end in it. -/
def ReviewKeepsCoherent (s : SqliteStore)
    (request : WorkflowReview.QueueWorkflowReviewStepRequest) : Prop :=
  ∀ blocked ∈ WorkflowReview.blockedReview (resolveQueueWorkflowReviewStep s request true),
    blocked.workflowRun.completedAt = none

/-- A finalization that completes its run finds no blocker in it, and one that is refused,
by its own checks or by the decision command, finds no end. -/
def FinalizationKeepsCoherent (s : SqliteStore) (d : Draws)
    (request : WorkflowFinalization.QueueWorkflowFinalizationStepRequest) : Prop :=
  (∀ blocked ∈ WorkflowFinalization.blockedFinalization
      (resolveQueueWorkflowFinalizationStep s request true),
    blocked.workflowRun.completedAt = none) ∧
  ∀ resolved, resolveQueueWorkflowFinalizationStep s request true = .ok resolved →
    (resolved.decided = true → resolved.workflowRun.blockerReason = none) ∧
    ∀ mapped, s.decisionAnswer d resolved = .ok mapped →
      (mapped.status = .executed ∨ mapped.status = .alreadyApplied →
        resolved.workflowRun.blockerReason = none) ∧
      (mapped.status = .invalidInput ∨ mapped.status = .blockedPrecondition →
        resolved.workflowRun.completedAt = none)

/-- What the command writes fits the columns it keeps. -/
def KeepsCoherent (s : SqliteStore) : WorkflowCommand → Prop
  | .report _ request => ReportKeepsCoherent s request
  | .review _ request => ReviewKeepsCoherent s request
  | .finalize d request => FinalizationKeepsCoherent s d request
  | .start _ _ | .cancel _ _ | .materialize _ _ => True

instance (s : SqliteStore) (request : QueueWorkflowRecordRunnerReportRequest) :
    Decidable (ReportKeepsCoherent s request) :=
  inferInstanceAs (Decidable (∀ accepted ∈ s.acceptedReport request, (_ → _) ∧ (_ → _)))

instance (s : SqliteStore) (request : WorkflowReview.QueueWorkflowReviewStepRequest) :
    Decidable (ReviewKeepsCoherent s request) :=
  inferInstanceAs (Decidable (∀ blocked ∈ WorkflowReview.blockedReview _, _))

instance (s : SqliteStore) (d : Draws)
    (request : WorkflowFinalization.QueueWorkflowFinalizationStepRequest) :
    Decidable (FinalizationKeepsCoherent s d request) :=
  inferInstanceAs (Decidable ((∀ blocked ∈ WorkflowFinalization.blockedFinalization _, _) ∧
    ∀ resolved, resolveQueueWorkflowFinalizationStep s request true = .ok resolved →
      (_ → _) ∧ ∀ mapped, s.decisionAnswer d resolved = .ok mapped → (_ → _) ∧ (_ → _)))

instance decidableKeepsCoherent (s : SqliteStore) : (op : WorkflowCommand) →
    Decidable (KeepsCoherent s op)
  | .report _ request => inferInstanceAs (Decidable (ReportKeepsCoherent s request))
  | .review _ request => inferInstanceAs (Decidable (ReviewKeepsCoherent s request))
  | .finalize d request => inferInstanceAs (Decidable (FinalizationKeepsCoherent s d request))
  | .start _ _ | .cancel _ _ | .materialize _ _ => isTrue trivial

/-! ## Coherent runs -/

theorem coherent_newWorkflowRun (d : Draws) (start : StartWorkflow)
    (prepared : PreparedWorkflowSnapshots) : (newWorkflowRun d start prepared).Coherent :=
  coherent_of_open .created rfl rfl rfl

/-- A report keeps its row coherent when it fits the columns it keeps. -/
theorem coherent_reported {d : Draws} {head : RunnerReportHead}
    {prepared : PreparedRunnerReport} {row : AgentQueueWorkflowRunRow}
    (hopen : head.status.isTerminal = false → row.completedAt = none)
    (hcompleted : head.status = .completed → head.blockerReason.or row.blockerReason = none) :
    ((runnerReportUpdate d head prepared).apply row).Coherent where
  ended_iff := by
    simp only [AgentQueueWorkflowRunReportUpdate.apply, runnerReportUpdate,
      terminalWorkflowStatus_asStr]
    by_cases hterminal : head.status.isTerminal = true
    · simp [hterminal]
    · rw [Bool.not_eq_true] at hterminal
      simp [hterminal, hopen hterminal]
  no_blocker h := hcompleted (asStr_inj h)

/-- A completed run that had no blocker is coherent. -/
theorem coherent_completed {row : AgentQueueWorkflowRunRow} {now : String}
    {v b m k a : JsonText} (hblocker : row.blockerReason = none) :
    ((WorkflowFinalization.completedRunUpdate now v b m k a).apply row).Coherent where
  ended_iff := rfl
  no_blocker _ := hblocker

/-- A run that is blocked and had no end is coherent. -/
theorem coherent_blocked {row : AgentQueueWorkflowRunRow} {phase step now : String}
    {blocker : QueueWorkflowCommandBlocker} (hend : row.completedAt = none) :
    ((WorkflowReview.blockRunUpdate phase step blocker now).apply row).Coherent :=
  coherent_of_open .blocked rfl rfl hend

/-- A command whose write fits the columns it keeps, keeps a coherent run coherent. -/
theorem rowStep_coherent {s : SqliteStore} {row row' : AgentQueueWorkflowRunRow}
    {op : WorkflowCommand} (hkeeps : KeepsCoherent s op) (hrow : row.Coherent)
    (hstep : RowStep s row op row') : row'.Coherent := by
  cases hstep with
  | same => exact hrow
  | cancelled d request hcheck => exact coherent_of_ended .cancelled rfl rfl nofun rfl
  | reported d request head prepared haccepted =>
    have hfits := hkeeps _ haccepted.eq_some
    exact coherent_reported hfits.1 hfits.2
  | materialized d request normalized plan hplan hplanned =>
    have hstatus : plan.run.status = row.status := congrArg _ hplanned
    refine ⟨?_, ?_⟩
    · simp only [AgentQueueWorkflowRunReportUpdate.apply, slotBindingsUpdate, hstatus]
      exact hrow.ended_iff
    · simp only [AgentQueueWorkflowRunReportUpdate.apply, slotBindingsUpdate, hstatus]
      exact hrow.no_blocker
  | reviewed d request resolved update hresolve hresolved hupdate =>
    obtain ⟨b, m, k, a, v, rfl⟩ := hupdate
    exact coherent_of_open .paused rfl rfl rfl
  | reviewBlocked d request blocked hresolve hblocked =>
    have hend : blocked.workflowRun.completedAt = none := hkeeps blocked (by rw [hresolve]; rfl)
    exact coherent_blocked (hblocked ▸ hend)
  | finalized d request resolved update hresolve hresolved hdecides hupdate =>
    have hfits := hkeeps.2 resolved hresolve
    have hblocker : resolved.workflowRun.blockerReason = none := by
      rcases hdecides with hdecided | ⟨mapped, hanswer, hstatus⟩
      · exact hfits.1 hdecided
      · exact (hfits.2 mapped hanswer).1 hstatus
    obtain ⟨now, v, b, m, k, a, rfl⟩ := hupdate
    exact coherent_completed (hresolved ▸ hblocker)
  | finalizationBlocked d request blocked hresolve hblocked =>
    have hend : blocked.workflowRun.completedAt = none :=
      hkeeps.1 blocked (by rw [hresolve]; rfl)
    exact coherent_blocked (hblocked ▸ hend)
  | decisionBlocked d request resolved mapped blocker now hresolve hresolved hundecided hanswer
      hstatus =>
    have hend := ((hkeeps.2 resolved hresolve).2 mapped hanswer).2 hstatus
    exact coherent_blocked (hresolved ▸ hend)
  | finalizationFailed => exact coherent_of_ended .failed rfl rfl nofun rfl

/-- Every run of the store is coherent. -/
def CoherentRuns (s : SqliteStore) : Prop :=
  ∀ w i row, s.getAgentQueueWorkflowRun w i = some row → row.Coherent

theorem coherentRuns_step {s : SqliteStore} {op : WorkflowCommand} (hs : CoherentRuns s)
    (hkeeps : KeepsCoherent s op) : CoherentRuns (performWorkflow s op) := by
  intro w i row hrow
  cases hold : s.getAgentQueueWorkflowRun w i with
  | none =>
    obtain ⟨d, request, start, prepared, -, -, -, rfl⟩ := performWorkflow_new op hold hrow
    exact coherent_newWorkflowRun d start prepared
  | some old =>
    obtain ⟨row', hrow', hstep⟩ := performWorkflow_row op hold
    obtain rfl := Option.some.inj (hrow.symm.trans hrow')
    exact rowStep_coherent hkeeps (hs w i old hold) hstep

/-- **Along commands whose writes fit the columns they keep, every run is coherent.** -/
theorem runs_coherent_after {s : SqliteStore} {history : List WorkflowCommand}
    (hs : CoherentRuns s)
    (hhistory : Machine.Along performWorkflow KeepsCoherent s history) :
    CoherentRuns (Machine.after performWorkflow s history) :=
  Machine.invariant_after (fun _ _ hinv hkeeps => coherentRuns_step hinv hkeeps) hs hhistory

/-! ## A run that is blocked, completed and taken up again -/

theorem coherentRuns_oneWorkspace (id : String) : CoherentRuns (oneWorkspace id) :=
  fun _ _ _ h => by cases h

theorem runs_coherent_completedFirstRun :
    CoherentRuns (Machine.after performWorkflow (oneWorkspace "w")
      [startFirstRun "dependency_acceptance_smoke" none, reportFirstRun 2 "completed" none]) :=
  runs_coherent_after (coherentRuns_oneWorkspace "w") (by decide +kernel)

/-- A run that is reported blocked and then completed keeps its blocker. One that is
completed and then reported running keeps its end. -/
theorem columns_carried_along :
    (Machine.after performWorkflow (oneWorkspace "w")
        [startFirstRun "dependency_acceptance_smoke" none,
          reportFirstRun 2 "blocked" (some "no worker"),
          reportFirstRun 3 "completed" none]).firstRunColumn
        (fun row => (row.status, row.blockerReason)) = some ("completed", some "no worker") ∧
      (performWorkflow completedFirstRun (reportFirstRun 3 "running" none)).firstRunColumn
        (fun row => (row.status, row.completedAt.isSome)) = some ("running", true) := by
  decide +kernel

end HobitQueue
