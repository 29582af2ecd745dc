import HobitQueue.Lib.Run
import HobitQueue.Workflow.Resolution
import HobitQueue.Workflow.RunEffects

/-!
# What the workflow commands do to one run

A command that finds a run leaves it as it is, or rewrites its row in one of nine ways.
Every fact about a run over a history of commands is a fact about these ways.
-/

namespace HobitQueue

open Concurrent StoreProg Relational
open WorkflowReview (QueueWorkflowReviewStepRequest ReviewStepResolution BlockedReview
  resolveQueueWorkflowReviewStep executeQueueWorkflowReviewStep reviewedRunUpdate
  updateBindingWithReview blockRunUpdate)
open WorkflowFinalization (QueueWorkflowFinalizationStepRequest FinalizationStepResolution
  BlockedFinalization resolveQueueWorkflowFinalizationStep
  executeQueueWorkflowFinalizationStep completedRunUpdate updateBindingWithFinalization
  failedRunUpdate)

/-! ## Reading a run back -/

theorem namedRun_iff {workspaceId workflowRunId : String} {row : AgentQueueWorkflowRunRow} :
    namedRun workspaceId workflowRunId row = true ↔
      row.workspaceId = workspaceId ∧ row.workflowRunId = workflowRunId := by
  simp [namedRun]

variable {s t : SqliteStore} {w i : String} {row : AgentQueueWorkflowRunRow}

theorem named_of_found (h : s.getAgentQueueWorkflowRun w i = some row) :
    row.workspaceId = w ∧ row.workflowRunId = i :=
  namedRun_iff.1 (Table.sat_of_find h)

/-- A run that is named is the run that was found. -/
theorem found_of_named {w' i' : String} (h : s.getAgentQueueWorkflowRun w i = some row)
    (hnamed : namedRun w' i' row = true) : w' = w ∧ i' = i := by
  have hfound := named_of_found h
  have hrow := namedRun_iff.1 hnamed
  exact ⟨hrow.1.symm.trans hfound.1, hrow.2.symm.trans hfound.2⟩

theorem getRun_of_runs_eq (h : t.agentQueueWorkflowRuns = s.agentQueueWorkflowRuns) :
    t.getAgentQueueWorkflowRun w i = s.getAgentQueueWorkflowRun w i := by
  rw [SqliteStore.getAgentQueueWorkflowRun, h]
  rfl

/-- An `UPDATE` of a run rewrites it when it is the named one. -/
theorem getRun_update {ref : WorkflowRunRef}
    {f : AgentQueueWorkflowRunRow → AgentQueueWorkflowRunRow}
    {hf : ∀ r, Row.keys (f r) = Row.keys r}
    (hid : ∀ r, (f r).workspaceId = r.workspaceId ∧ (f r).workflowRunId = r.workflowRunId)
    (h : t.agentQueueWorkflowRuns =
      s.agentQueueWorkflowRuns.update (namedRun ref.workspaceId ref.workflowRunId) f hf) :
    t.getAgentQueueWorkflowRun w i = (s.getAgentQueueWorkflowRun w i).map fun r =>
      if namedRun ref.workspaceId ref.workflowRunId r then f r else r := by
  rw [SqliteStore.getAgentQueueWorkflowRun, h]
  exact Table.find_update fun r => by rw [(hid r).1, (hid r).2]

/-! ## The ways a row is rewritten -/

/-- How a command rewrites the row of a run. -/
inductive RowStep (s : SqliteStore) (row : AgentQueueWorkflowRunRow) :
    WorkflowCommand → AgentQueueWorkflowRunRow → Prop
  | same (op : WorkflowCommand) : RowStep s row op row
  | cancelled (d : Draws) (request : QueueWorkflowCancelRequest)
      (hcheck : checkCancel (some row) = .ok ()) :
      RowStep s row (.cancel d request) ((cancelUpdate d request).apply row)
  | reported (d : Draws) (request : QueueWorkflowRecordRunnerReportRequest)
      (head : RunnerReportHead) (prepared : PreparedRunnerReport)
      (haccepted : AcceptedReport s request head row prepared) :
      RowStep s row (.report d request) ((runnerReportUpdate d head prepared).apply row)
  | materialized (d : Draws) (request : QueueWorkflowMaterializeTaskSlotRequest)
      (normalized : NormalizedMaterializeTaskSlotRequest) (plan : TaskSlotPlan)
      (hplan : s.planTaskSlot d normalized = .ok plan) (hrow : plan.run = row) :
      RowStep s row (.materialize d request) ((slotBindingsUpdate d plan).apply row)
  | reviewed (d : Draws) (request : QueueWorkflowReviewStepRequest)
      (resolved : ReviewStepResolution) (update : AgentQueueWorkflowRunReportUpdate)
      (hresolve : resolveQueueWorkflowReviewStep s request true = .ok resolved)
      (hrow : resolved.workflowRun = row)
      (hupdate : ∃ b m k a v, update = reviewedRunUpdate d b m k a v) :
      RowStep s row (.review d request) (update.reopen WorkflowReview.workflowPhaseReview row)
  | reviewBlocked (d : Draws) (request : QueueWorkflowReviewStepRequest)
      (blocked : BlockedReview)
      (hresolve : resolveQueueWorkflowReviewStep s request true = .error (.blocked blocked))
      (hrow : blocked.workflowRun = row) :
      RowStep s row (.review d request) ((blockRunUpdate WorkflowReview.workflowPhaseReview
        "review_blocked" blocked.blocker (d.timestamp 2)).apply row)
  | finalized (d : Draws) (request : QueueWorkflowFinalizationStepRequest)
      (resolved : FinalizationStepResolution) (update : AgentQueueWorkflowRunReportUpdate)
      (hresolve : resolveQueueWorkflowFinalizationStep s request true = .ok resolved)
      (hrow : resolved.workflowRun = row) (hdecides : s.Decides d resolved)
      (hupdate : ∃ now v b m k a, update = completedRunUpdate now v b m k a) :
      RowStep s row (.finalize d request) (update.apply row)
  | finalizationBlocked (d : Draws) (request : QueueWorkflowFinalizationStepRequest)
      (blocked : BlockedFinalization)
      (hresolve : resolveQueueWorkflowFinalizationStep s request true =
        .error (.blocked blocked))
      (hrow : blocked.workflowRun = row) :
      RowStep s row (.finalize d request)
        ((blockRunUpdate WorkflowFinalization.workflowPhaseFinalization "finalization_blocked"
          blocked.blocker (d.timestamp 2)).apply row)
  | decisionBlocked (d : Draws) (request : QueueWorkflowFinalizationStepRequest)
      (resolved : FinalizationStepResolution)
      (mapped : WorkflowFinalization.MappedCommandResult)
      (blocker : QueueWorkflowCommandBlocker) (now : String)
      (hresolve : resolveQueueWorkflowFinalizationStep s request true = .ok resolved)
      (hrow : resolved.workflowRun = row) (hundecided : resolved.decided = false)
      (hanswer : s.decisionAnswer d resolved = .ok mapped)
      (hstatus : mapped.status = .invalidInput ∨ mapped.status = .blockedPrecondition) :
      RowStep s row (.finalize d request)
        ((blockRunUpdate WorkflowFinalization.workflowPhaseFinalization "finalization_blocked"
          blocker now).apply row)
  | finalizationFailed (d : Draws) (request : QueueWorkflowFinalizationStepRequest)
      (resolved : FinalizationStepResolution) (message now : String)
      (hresolve : resolveQueueWorkflowFinalizationStep s request true = .ok resolved)
      (hrow : resolved.workflowRun = row) (hundecided : resolved.decided = false) :
      RowStep s row (.finalize d request) ((failedRunUpdate message now).apply row)

/-- The run a planned slot was planned for, which has not ended. -/
theorem planTaskSlot_ok {d : Draws} {request : NormalizedMaterializeTaskSlotRequest}
    {plan : TaskSlotPlan} (h : s.planTaskSlot d request = .ok plan) :
    s.getAgentQueueWorkflowRun request.workspaceId request.workflowRunId = some plan.run ∧
      terminalWorkflowStatus plan.run.status = false := by
  rw [SqliteStore.planTaskSlot] at h
  split at h
  · cases h
  rename_i run hrun
  rw [refuseIf_bind_ok] at h
  obtain ⟨hopen, h⟩ := h
  rw [except_bind_ok] at h
  obtain ⟨slotBindings, -, h⟩ := h
  dsimp only at h
  split at h
  · cases h
  rw [except_bind_ok] at h
  obtain ⟨resolved, -, h⟩ := h
  rw [except_bind_ok] at h
  obtain ⟨_, -, h⟩ := h
  rw [refuseIf_bind_ok] at h
  obtain ⟨-, h⟩ := h
  obtain rfl := Except.ok.inj h
  exact ⟨hrun, hopen⟩

/-- A rewriting of the named run, seen at the run that was found. -/
theorem row_of_update {op : WorkflowCommand} {ref : WorkflowRunRef}
    {f : AgentQueueWorkflowRunRow → AgentQueueWorkflowRunRow}
    {hf : ∀ r, Row.keys (f r) = Row.keys r}
    (hruns : t.agentQueueWorkflowRuns =
      s.agentQueueWorkflowRuns.update (namedRun ref.workspaceId ref.workflowRunId) f hf)
    (hid : ∀ r, (f r).workspaceId = r.workspaceId ∧ (f r).workflowRunId = r.workflowRunId)
    (hrow : s.getAgentQueueWorkflowRun w i = some row)
    (hstep : s.getAgentQueueWorkflowRun ref.workspaceId ref.workflowRunId = some row →
      RowStep s row op (f row)) :
    ∃ row', t.getAgentQueueWorkflowRun w i = some row' ∧ RowStep s row op row' := by
  rw [getRun_update hid hruns, hrow, Option.map_some]
  by_cases hnamed : namedRun ref.workspaceId ref.workflowRunId row = true
  · obtain ⟨hw, hi⟩ := found_of_named hrow hnamed
    refine ⟨f row, by rw [if_pos hnamed], hstep ?_⟩
    rw [hw, hi]
    exact hrow
  · exact ⟨row, by rw [if_neg hnamed], .same op⟩

/-- A report of the named run, seen at the run that was found. -/
theorem row_of_report {op : WorkflowCommand} {ref : WorkflowRunRef}
    {update : AgentQueueWorkflowRunReportUpdate}
    (hruns : t.agentQueueWorkflowRuns = reportedRuns ref update s.agentQueueWorkflowRuns)
    (hrow : s.getAgentQueueWorkflowRun w i = some row)
    (hstep : s.getAgentQueueWorkflowRun ref.workspaceId ref.workflowRunId = some row →
      RowStep s row op (update.apply row)) :
    ∃ row', t.getAgentQueueWorkflowRun w i = some row' ∧ RowStep s row op row' :=
  row_of_update hruns (fun _ => ⟨rfl, rfl⟩) hrow hstep

/-- The run stays when the table of runs does. -/
theorem row_of_runs_eq {op : WorkflowCommand}
    (hruns : t.agentQueueWorkflowRuns = s.agentQueueWorkflowRuns)
    (hrow : s.getAgentQueueWorkflowRun w i = some row) :
    ∃ row', t.getAgentQueueWorkflowRun w i = some row' ∧ RowStep s row op row' :=
  ⟨row, (getRun_of_runs_eq hruns).trans hrow, .same op⟩

theorem review_row {d : Draws} {request : QueueWorkflowReviewStepRequest}
    (heffect : ReviewEffect s d request t.agentQueueWorkflowRuns)
    (hrow : s.getAgentQueueWorkflowRun w i = some row) :
    ∃ row', t.getAgentQueueWorkflowRun w i = some row' ∧
      RowStep s row (.review d request) row' := by
  generalize hruns : t.agentQueueWorkflowRuns = runs at heffect
  cases heffect with
  | unchanged => exact row_of_runs_eq hruns hrow
  | reviewed resolved message createAction ackAction ackKey m k a v hresolve =>
    refine row_of_update hruns (fun _ => ⟨rfl, rfl⟩) hrow fun hrow' => ?_
    have hfound := (WorkflowReview.resolveQueueWorkflowReviewStep_ok hresolve).2.1
    exact .reviewed d request resolved _ hresolve (Option.some.inj (hfound.symm.trans hrow'))
      ⟨_, m, k, a, v, rfl⟩
  | blocked blocked hresolve =>
    refine row_of_report hruns hrow fun hrow' => ?_
    have hfound := (WorkflowReview.resolveQueueWorkflowReviewStep_blocked hresolve).2
    exact .reviewBlocked d request blocked hresolve (Option.some.inj (hfound.symm.trans hrow'))

theorem finalize_row {d : Draws} {request : QueueWorkflowFinalizationStepRequest}
    (heffect : FinalizationEffect s d request t.agentQueueWorkflowRuns)
    (hrow : s.getAgentQueueWorkflowRun w i = some row) :
    ∃ row', t.getAgentQueueWorkflowRun w i = some row' ∧
      RowStep s row (.finalize d request) row' := by
  have hfound : ∀ {resolved : FinalizationStepResolution},
      resolveQueueWorkflowFinalizationStep s request true = .ok resolved →
      s.getAgentQueueWorkflowRun resolved.request.workspaceId
        resolved.request.workflowRunId = some row → resolved.workflowRun = row :=
    fun hresolve hrow' => Option.some.inj
      ((WorkflowFinalization.resolveQueueWorkflowFinalizationStep_ok hresolve).2.1.symm.trans hrow')
  generalize hruns : t.agentQueueWorkflowRuns = runs at heffect
  cases heffect with
  | unchanged => exact row_of_runs_eq hruns hrow
  | completed resolved decisions action now v m k a hresolve hdecides =>
    refine row_of_report hruns hrow fun hrow' => ?_
    exact .finalized d request resolved _ hresolve (hfound hresolve hrow') hdecides
      ⟨now, v, _, m, k, a, rfl⟩
  | blocked blocked hresolve =>
    refine row_of_report hruns hrow fun hrow' => ?_
    have hblocked :=
      (WorkflowFinalization.resolveQueueWorkflowFinalizationStep_blocked hresolve).2
    exact .finalizationBlocked d request blocked hresolve
      (Option.some.inj (hblocked.symm.trans hrow'))
  | decisionBlocked resolved mapped blocker now hresolve hundecided hanswer hstatus =>
    refine row_of_report hruns hrow fun hrow' => ?_
    exact .decisionBlocked d request resolved mapped blocker now hresolve
      (hfound hresolve hrow') hundecided hanswer hstatus
  | failed resolved message now hresolve hundecided =>
    refine row_of_report hruns hrow fun hrow' => ?_
    exact .finalizationFailed d request resolved message now hresolve (hfound hresolve hrow')
      hundecided

/-- **Every command leaves a run as it is, or rewrites it in one of these ways.** -/
theorem performWorkflow_row (op : WorkflowCommand)
    (hrow : s.getAgentQueueWorkflowRun w i = some row) :
    ∃ row', (performWorkflow s op).getAgentQueueWorkflowRun w i = some row' ∧
      RowStep s row op row' := by
  have heffect := performWorkflow_runs s op
  generalize performWorkflow s op = t at heffect ⊢
  generalize hruns : t.agentQueueWorkflowRuns = runs at heffect
  cases heffect with
  | unchanged => exact row_of_runs_eq hruns hrow
  | started d request start prepared runs' hstart hprepared hinsert =>
    refine ⟨row, ?_, .same _⟩
    have hfind := Table.find_insert (p := namedRun w i) hinsert
    have hrow' : s.agentQueueWorkflowRuns.find (namedRun w i) = some row := hrow
    rw [hrow', Option.some_or, ← hruns] at hfind
    exact hfind
  | cancelled d request ref found href hfound hcheck =>
    refine row_of_update hruns (fun _ => ⟨rfl, rfl⟩) hrow fun hrow' => ?_
    obtain rfl := Option.some.inj (hrow'.symm.trans hfound)
    exact .cancelled d request hcheck
  | reported d request head found prepared haccepted =>
    refine row_of_report hruns hrow fun hrow' => ?_
    obtain rfl := Option.some.inj (hrow'.symm.trans haccepted.found)
    exact .reported d request head prepared haccepted
  | materialized d request normalized plan hnormalized hplan =>
    refine row_of_report hruns hrow fun hrow' => ?_
    have hrun := Option.some.inj ((planTaskSlot_ok hplan).1.symm.trans hrow')
    exact .materialized d request normalized plan hplan hrun
  | reviewed d request runs' heffect =>
    rw [← hruns] at heffect
    exact review_row heffect hrow
  | finalized d request runs' heffect =>
    rw [← hruns] at heffect
    exact finalize_row heffect hrow

/-! ## New runs -/

theorem none_of_update {ref : WorkflowRunRef}
    {f : AgentQueueWorkflowRunRow → AgentQueueWorkflowRunRow}
    {hf : ∀ r, Row.keys (f r) = Row.keys r}
    (hruns : t.agentQueueWorkflowRuns =
      s.agentQueueWorkflowRuns.update (namedRun ref.workspaceId ref.workflowRunId) f hf)
    (hid : ∀ r, (f r).workspaceId = r.workspaceId ∧ (f r).workflowRunId = r.workflowRunId)
    (hnone : s.getAgentQueueWorkflowRun w i = none) : t.getAgentQueueWorkflowRun w i = none := by
  rw [getRun_update hid hruns, hnone, Option.map_none]

/-- **A run that was not there is a new run.** -/
theorem performWorkflow_new (op : WorkflowCommand)
    (hnone : s.getAgentQueueWorkflowRun w i = none)
    (hrow : (performWorkflow s op).getAgentQueueWorkflowRun w i = some row) :
    ∃ d request start prepared, op = .start d request ∧ startWorkflow request = .ok start ∧
      prepareStart start request = .ok prepared ∧ row = newWorkflowRun d start prepared := by
  have heffect := performWorkflow_runs s op
  generalize performWorkflow s op = t at heffect hrow
  have hold : t.getAgentQueueWorkflowRun w i ≠ none := by simp [hrow]
  generalize hruns : t.agentQueueWorkflowRuns = runs at heffect
  cases heffect with
  | unchanged => exact absurd ((getRun_of_runs_eq hruns).trans hnone) hold
  | started d request start prepared runs' hstart hprepared hinsert =>
    have hfind := Table.find_insert (p := namedRun w i) hinsert
    have hnone' : s.agentQueueWorkflowRuns.find (namedRun w i) = none := hnone
    rw [hnone', Option.none_or, ← hruns] at hfind
    have hnew := hrow.symm.trans hfind
    split at hnew
    · exact ⟨d, request, start, prepared, rfl, hstart, hprepared, Option.some.inj hnew⟩
    · cases hnew
  | cancelled d request ref found href hfound hcheck =>
    exact absurd (none_of_update hruns (fun _ => ⟨rfl, rfl⟩) hnone) hold
  | reported d request head found prepared haccepted =>
    exact absurd (none_of_update hruns (fun _ => ⟨rfl, rfl⟩) hnone) hold
  | materialized d request normalized plan hnormalized hplan =>
    exact absurd (none_of_update hruns (fun _ => ⟨rfl, rfl⟩) hnone) hold
  | reviewed d request runs' heffect =>
    cases heffect with
    | unchanged => exact absurd ((getRun_of_runs_eq hruns).trans hnone) hold
    | reviewed resolved message createAction ackAction ackKey m k a v hresolve =>
      exact absurd (none_of_update hruns (fun _ => ⟨rfl, rfl⟩) hnone) hold
    | blocked blocked hresolve =>
      exact absurd (none_of_update hruns (fun _ => ⟨rfl, rfl⟩) hnone) hold
  | finalized d request runs' heffect =>
    cases heffect with
    | unchanged => exact absurd ((getRun_of_runs_eq hruns).trans hnone) hold
    | completed resolved decisions action now v m k a hresolve hdecides =>
      exact absurd (none_of_update hruns (fun _ => ⟨rfl, rfl⟩) hnone) hold
    | blocked blocked hresolve =>
      exact absurd (none_of_update hruns (fun _ => ⟨rfl, rfl⟩) hnone) hold
    | decisionBlocked resolved mapped blocker now hresolve hundecided hanswer hstatus =>
      exact absurd (none_of_update hruns (fun _ => ⟨rfl, rfl⟩) hnone) hold
    | failed resolved message now hresolve hundecided =>
      exact absurd (none_of_update hruns (fun _ => ⟨rfl, rfl⟩) hnone) hold

end HobitQueue
