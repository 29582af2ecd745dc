import HobitQueue.Workflow.Materialization
import HobitQueue.Workflow.Report
import HobitQueue.Workflow.WriteFrames

/-!
# What the workflow commands do to the runs

Six commands write the table of workflow runs. Each of them leaves the table as it found
it, or makes one of eleven writes, and which one is decided by what its checks come to in
the store it finds.
-/

namespace HobitQueue

open Concurrent StoreProg Relational
open WorkflowReview (QueueWorkflowReviewStepRequest ReviewStepResolution BlockedReview
  NormalizedReviewStepRequest resolveQueueWorkflowReviewStep executeQueueWorkflowReviewStep
  reviewedRunUpdate updateBindingWithReview blockRunUpdate)
open WorkflowFinalization (QueueWorkflowFinalizationStepRequest FinalizationStepResolution
  BlockedFinalization NormalizedFinalizationStepRequest resolveQueueWorkflowFinalizationStep
  executeQueueWorkflowFinalizationStep completedRunUpdate updateBindingWithFinalization
  failedRunUpdate)

/-! ## The commands -/

inductive WorkflowCommand where
  | start (d : Draws) (request : QueueWorkflowStartRequest)
  | cancel (d : Draws) (request : QueueWorkflowCancelRequest)
  | report (d : Draws) (request : QueueWorkflowRecordRunnerReportRequest)
  | materialize (d : Draws) (request : QueueWorkflowMaterializeTaskSlotRequest)
  | review (d : Draws) (request : QueueWorkflowReviewStepRequest)
  | finalize (d : Draws) (request : QueueWorkflowFinalizationStepRequest)

/-- The store a command leaves. -/
def performWorkflow (s : SqliteStore) : WorkflowCommand → SqliteStore
  | .start d request => (exec (startQueueWorkflow d request) s).2
  | .cancel d request => (exec (cancelQueueWorkflowRun d request) s).2
  | .report d request => (exec (recordQueueWorkflowRunnerReport d request) s).2
  | .materialize d request => (exec (materializeAgentQueueWorkflowTaskSlot d request) s).2
  | .review d request => (exec (executeQueueWorkflowReviewStep d request) s).2
  | .finalize d request => (exec (executeQueueWorkflowFinalizationStep d request) s).2

/-! ## Writes on the runs -/

abbrev WorkflowRuns := Table AgentQueueWorkflowRunRow

/-- The runs after an `UPDATE` of the named run. -/
theorem AgentQueueWorkflowRunReportUpdate.keys_apply (update : AgentQueueWorkflowRunReportUpdate)
    (r : AgentQueueWorkflowRunRow) : Row.keys (update.apply r) = Row.keys r := rfl

theorem AgentQueueWorkflowRunReportUpdate.keys_reopen (update : AgentQueueWorkflowRunReportUpdate)
    (phase : String) (r : AgentQueueWorkflowRunRow) :
    Row.keys (update.reopen phase r) = Row.keys r := rfl

theorem AgentQueueWorkflowRunStatusUpdate.keys_apply (update : AgentQueueWorkflowRunStatusUpdate)
    (r : AgentQueueWorkflowRunRow) : Row.keys (update.apply r) = Row.keys r := rfl

def reportedRuns (ref : WorkflowRunRef) (update : AgentQueueWorkflowRunReportUpdate)
    (runs : WorkflowRuns) : WorkflowRuns :=
  runs.update (namedRun ref.workspaceId ref.workflowRunId) update.apply update.keys_apply

def reopenedRuns (ref : WorkflowRunRef) (update : AgentQueueWorkflowRunReportUpdate)
    (phase : String) (runs : WorkflowRuns) : WorkflowRuns :=
  runs.update (namedRun ref.workspaceId ref.workflowRunId) (update.reopen phase)
    (update.keys_reopen phase)

def statusRuns (ref : WorkflowRunRef) (update : AgentQueueWorkflowRunStatusUpdate)
    (runs : WorkflowRuns) : WorkflowRuns :=
  runs.update (namedRun ref.workspaceId ref.workflowRunId) update.apply update.keys_apply

/-! ### What keeps the runs -/

theorem keepsRuns_withImmediateTransaction {α : Type} {p : Sqlite α}
    {mapErr : StorageError → WorkspaceServiceError}
    (hp : p.Keeps SqliteStore.agentQueueWorkflowRuns) :
    (withImmediateTransaction mapErr p).Keeps SqliteStore.agentQueueWorkflowRuns :=
  hp.atomically.mapErr

theorem runs_of_actions (s : SqliteStore) (actions : Table AgentQueueWorkflowActionRow) :
    { s with agentQueueWorkflowActions := actions }.agentQueueWorkflowRuns =
      s.agentQueueWorkflowRuns := rfl

theorem runs_of_workspaces (s : SqliteStore) (workspaces : Table WorkspaceRow) :
    { s with workspaces := workspaces }.agentQueueWorkflowRuns = s.agentQueueWorkflowRuns := rfl

/-- The `UPDATE` of a run moves the runs, and nothing that reads its row back does. -/
theorem movesRuns_update {ref : WorkflowRunRef}
    (f : AgentQueueWorkflowRunRow → AgentQueueWorkflowRunRow)
    (hf : ∀ r, Row.keys (f r) = Row.keys r) :
    (do
      let updated ← execute fun s => s.updateWorkflowRunRow ref.workspaceId ref.workflowRunId f hf
      rowOrNoRows updated : Sqlite _).Moves SqliteStore.agentQueueWorkflowRuns fun runs runs' =>
        runs' = runs.update (namedRun ref.workspaceId ref.workflowRunId) f hf := by
  refine Moves.bind_keeps (moves_execute fun s a t h => ?_) fun updated =>
    keeps_rowOrNoRows updated
  obtain ⟨rfl, -⟩ := SqliteStore.updateWorkflowRunRow_ok.1 h
  rfl

theorem movesRuns_report (ref : WorkflowRunRef) (update : AgentQueueWorkflowRunReportUpdate) :
    (do
      let updated ← execute fun s =>
        s.updateAgentQueueWorkflowRunReport ref.workspaceId ref.workflowRunId update
      rowOrNoRows updated : Sqlite _).Moves SqliteStore.agentQueueWorkflowRuns
        fun runs runs' => runs' = reportedRuns ref update runs :=
  movesRuns_update _ _

/-- A run is reopened with the phase of the update. -/
theorem movesRuns_reopen (ref : WorkflowRunRef) (update : AgentQueueWorkflowRunReportUpdate)
    {phase : String} (hphase : update.phase = some phase) :
    (do
      let updated ← execute fun s =>
        s.updateAgentQueueWorkflowRunReportReopened ref.workspaceId ref.workflowRunId update
      rowOrNoRows updated : Sqlite _).Moves SqliteStore.agentQueueWorkflowRuns
        fun runs runs' => runs' = reopenedRuns ref update phase runs := by
  simp only [SqliteStore.updateAgentQueueWorkflowRunReportReopened, hphase]
  exact movesRuns_update _ _

/-! ## Start, cancel, report -/

theorem startQueueWorkflow_runs {d : Draws} {request : QueueWorkflowStartRequest}
    {s t : SqliteStore} {r : Except WorkspaceServiceError QueueWorkflowStartResult}
    (h : exec (startQueueWorkflow d request) s = (r, t)) :
    t.agentQueueWorkflowRuns = s.agentQueueWorkflowRuns ∨
      ∃ start prepared, startWorkflow request = .ok start ∧
        prepareStart start request = .ok prepared ∧
        s.agentQueueWorkflowRuns.insert (newWorkflowRun d start prepared) =
          some t.agentQueueWorkflowRuns := by
  unfold startQueueWorkflow at h
  split at h
  · exact Or.inl (by rw [(Prod.mk.inj h).2])
  rename_i start hstart
  rw [exec_query_bind] at h
  split at h
  · exact Or.inl (by rw [(Prod.mk.inj h).2])
  · exact Or.inl (by rw [(Prod.mk.inj h).2])
  rename_i prepared _ hprepared
  rw [exec_query_bind] at h
  split at h
  · exact Or.inl (by rw [(Prod.mk.inj h).2])
  rw [exec_bind_eq] at h
  have hinsert : ∀ {r' : Except WorkspaceServiceError AgentQueueWorkflowRunRow} {u : SqliteStore},
      exec (insertWorkflowRun d start prepared) s = (r', u) →
        u.agentQueueWorkflowRuns = s.agentQueueWorkflowRuns ∨
          s.agentQueueWorkflowRuns.insert (newWorkflowRun d start prepared) =
            some u.agentQueueWorkflowRuns := by
    intro r' u hrun
    rcases exec_withImmediateTransaction hrun with ⟨row, -, hrow⟩ | ⟨-, rfl⟩
    · obtain ⟨row', v, hins, hrow⟩ := exec_bind_ok.1 hrow
      rw [exec_execute_ok, SqliteStore.insertAgentQueueWorkflowRun, SqliteStore.inserted_ok]
        at hins
      obtain ⟨-, -, runs', hruns, rfl⟩ := hins
      have hkeep := ((keeps_touch runs_of_workspaces start.workspaceId (d.timestamp 2)).bind
        fun _ => keeps_pure row').of_exec hrow
      exact Or.inr (by rw [hkeep, hruns])
    · exact Or.inl rfl
  obtain ⟨e, hrun, -⟩ | ⟨row, u, hrun, h⟩ := h
  · exact (hinsert hrun).imp_right fun hins => ⟨start, prepared, hstart, hprepared, hins⟩
  · obtain rfl := (Prod.mk.inj h).2
    exact (hinsert hrun).imp_right fun hins => ⟨start, prepared, hstart, hprepared, hins⟩

theorem cancelQueueWorkflowRun_runs {d : Draws} {request : QueueWorkflowCancelRequest}
    {s t : SqliteStore} {r : Except WorkspaceServiceError QueueWorkflowCancelResult}
    (h : exec (cancelQueueWorkflowRun d request) s = (r, t)) :
    t.agentQueueWorkflowRuns = s.agentQueueWorkflowRuns ∨
      ∃ ref row, cancelRef request = .ok ref ∧
        s.getAgentQueueWorkflowRun ref.workspaceId ref.workflowRunId = some row ∧
        checkCancel (some row) = .ok () ∧
        t.agentQueueWorkflowRuns =
          statusRuns ref (cancelUpdate d request) s.agentQueueWorkflowRuns := by
  unfold cancelQueueWorkflowRun at h
  split at h
  · exact Or.inl (by rw [(Prod.mk.inj h).2])
  rename_i ref href
  rw [exec_query_bind] at h
  split at h
  · exact Or.inl (by rw [(Prod.mk.inj h).2])
  rename_i hcheck
  cases hget : s.getAgentQueueWorkflowRun ref.workspaceId ref.workflowRunId with
  | none =>
    rw [hget] at hcheck
    cases hcheck
  | some row =>
    rw [hget] at hcheck
    have hstore : ∀ {r' : Except WorkspaceServiceError AgentQueueWorkflowRunRow} {u : SqliteStore},
        exec (storeCancel d ref request) s = (r', u) →
          u.agentQueueWorkflowRuns = s.agentQueueWorkflowRuns ∨ u.agentQueueWorkflowRuns =
            statusRuns ref (cancelUpdate d request) s.agentQueueWorkflowRuns := by
      intro r' u hrun
      rcases exec_withImmediateTransaction hrun with ⟨row, -, hrow⟩ | ⟨-, rfl⟩
      · obtain ⟨updated, v, hupdate, hrow⟩ := exec_bind_ok.1 hrow
        obtain ⟨rfl, -⟩ := SqliteStore.updateWorkflowRunRow_ok.1 (exec_execute_ok.1 hupdate)
        have hkeep := ((keeps_rowOrNoRows updated).bind fun row' =>
          (keeps_touch runs_of_workspaces ref.workspaceId (d.timestamp 1)).bind
            fun _ => keeps_pure row').of_exec hrow
        exact Or.inr hkeep
      · exact Or.inl rfl
    rw [exec_bind_eq] at h
    obtain ⟨e, hrun, -⟩ | ⟨row', u, hrun, h⟩ := h
    · exact (hstore hrun).imp_right fun hruns => ⟨ref, row, href, hget, hcheck, hruns⟩
    · obtain rfl := (Prod.mk.inj h).2
      exact (hstore hrun).imp_right fun hruns => ⟨ref, row, href, hget, hcheck, hruns⟩

/-- The reported actions agree with the ones that are stored under their keys. -/
def SqliteStore.agreesWithActions (s : SqliteStore) (workflowRunId : String)
    (actions : List PreparedRunnerReportAction) : Bool :=
  actions.all fun action =>
    (s.getAgentQueueWorkflowActionByIdempotencyKey workflowRunId action.idempotencyKey).all
      (workflowReportActionMatchesPrepared · action)

theorem exec_findActionConflict (workflowRunId : String)
    (actions : List PreparedRunnerReportAction) (s : SqliteStore) :
    ∃ conflict, exec (findActionConflict workflowRunId actions) s = (.ok conflict, s) ∧
      (conflict = none → s.agreesWithActions workflowRunId actions = true) := by
  induction actions with
  | nil => exact ⟨none, rfl, fun _ => rfl⟩
  | cons action rest ih =>
    simp only [findActionConflict, exec_query_bind, SqliteStore.agreesWithActions, List.all_cons,
      Bool.and_eq_true] at ih ⊢
    cases hget : s.getAgentQueueWorkflowActionByIdempotencyKey workflowRunId
        action.idempotencyKey with
    | none =>
      obtain ⟨conflict, hrun, hagree⟩ := ih
      exact ⟨conflict, hrun, fun hnone => ⟨rfl, hagree hnone⟩⟩
    | some existing =>
      by_cases hmatch : workflowReportActionMatchesPrepared existing action = true
      · obtain ⟨conflict, hrun, hagree⟩ := ih
        refine ⟨conflict, ?_, fun hnone => ⟨hmatch, hagree hnone⟩⟩
        simp only [hmatch, ↓reduceIte]
        exact hrun
      · refine ⟨some (existing, action), ?_, nofun⟩
        simp only [hmatch, Bool.false_eq_true, ↓reduceIte]
        rfl

/-- A runner report that is written: its content fits the run it found, and its actions
agree with the stored ones. -/
structure AcceptedReport (s : SqliteStore) (request : QueueWorkflowRecordRunnerReportRequest)
    (head : RunnerReportHead) (row : AgentQueueWorkflowRunRow) (prepared : PreparedRunnerReport) :
    Prop where
  head_ok : runnerReportHead request = .ok head
  found : s.getAgentQueueWorkflowRun head.workspaceId head.workflowRunId = some row
  prepared_ok : prepareRunnerReport row head.workflowRunId request = .ok prepared
  agrees : s.agreesWithActions head.workflowRunId prepared.actions = true

theorem keepsRuns_insertReportedActions (d : Draws) (ref : WorkflowRunRef)
    (actions : List PreparedRunnerReportAction) (place : ℕ) :
    (insertReportedActions d ref place actions).Keeps SqliteStore.agentQueueWorkflowRuns := by
  induction actions generalizing place with
  | nil => exact keeps_pure ()
  | cons action rest ih => exact (keeps_insertAction runs_of_actions _).bind fun _ => ih (place + 1)

theorem storeRunnerReport_runs {d : Draws} {head : RunnerReportHead}
    {prepared : PreparedRunnerReport} {s t : SqliteStore}
    {r : Except WorkspaceServiceError AgentQueueWorkflowRunRow}
    (h : exec (storeRunnerReport d head prepared) s = (r, t)) :
    t.agentQueueWorkflowRuns = s.agentQueueWorkflowRuns ∨ t.agentQueueWorkflowRuns =
      reportedRuns head.toWorkflowRunRef (runnerReportUpdate d head prepared)
        s.agentQueueWorkflowRuns := by
  rcases exec_withImmediateTransaction h with ⟨row, -, hrow⟩ | ⟨-, rfl⟩
  · obtain ⟨updated, v, hupdate, hrow⟩ := exec_bind_ok.1 hrow
    obtain ⟨rfl, -⟩ := SqliteStore.updateWorkflowRunRow_ok.1 (exec_execute_ok.1 hupdate)
    have hkeep := ((keeps_rowOrNoRows updated).bind fun row' =>
      (keepsRuns_insertReportedActions d head.toWorkflowRunRef prepared.actions 1).bind
        fun _ => (keeps_touch runs_of_workspaces head.workspaceId _).bind
          fun _ => keeps_pure row').of_exec hrow
    exact Or.inr hkeep
  · exact Or.inl rfl

theorem recordQueueWorkflowRunnerReport_runs {d : Draws}
    {request : QueueWorkflowRecordRunnerReportRequest} {s t : SqliteStore}
    {r : Except WorkspaceServiceError QueueWorkflowRecordRunnerReportResult}
    (h : exec (recordQueueWorkflowRunnerReport d request) s = (r, t)) :
    t.agentQueueWorkflowRuns = s.agentQueueWorkflowRuns ∨
      ∃ head row prepared, AcceptedReport s request head row prepared ∧
        t.agentQueueWorkflowRuns = reportedRuns head.toWorkflowRunRef
          (runnerReportUpdate d head prepared) s.agentQueueWorkflowRuns := by
  unfold recordQueueWorkflowRunnerReport at h
  split at h
  · exact Or.inl (by rw [(Prod.mk.inj h).2])
  rename_i head hhead
  rw [exec_query_bind] at h
  split at h
  · exact Or.inl (by rw [(Prod.mk.inj h).2])
  rename_i row hrow
  unfold recordReportOfRun at h
  split at h
  · exact Or.inl (by rw [(Prod.mk.inj h).2])
  rename_i prepared hprepared
  obtain ⟨conflict, hconflict, hagree⟩ :=
    exec_findActionConflict head.workflowRunId prepared.actions s
  rw [exec_bind, hconflict] at h
  cases conflict with
  | some conflict => exact Or.inl (by rw [(Prod.mk.inj h).2])
  | none =>
    have haccepted : AcceptedReport s request head row prepared :=
      ⟨hhead, hrow, hprepared, hagree rfl⟩
    rw [exec_bind_eq] at h
    obtain ⟨e, hrun, -⟩ | ⟨row', u, hrun, h⟩ := h
    · exact (storeRunnerReport_runs hrun).imp_right fun hruns =>
        ⟨head, row, prepared, haccepted, hruns⟩
    · rw [exec_query_bind] at h
      obtain rfl := (Prod.mk.inj h).2
      exact (storeRunnerReport_runs hrun).imp_right fun hruns =>
        ⟨head, row, prepared, haccepted, hruns⟩

/-! ## Materialization -/

theorem keepsRuns_createTask (row : AgentQueueTaskRow) :
    (execute fun s => s.createAgentQueueTask row : Sqlite _).Keeps
      SqliteStore.agentQueueWorkflowRuns := by
  refine keeps_execute fun s a t h => ?_
  rw [SqliteStore.createAgentQueueTask, SqliteStore.inserted_ok] at h
  obtain ⟨-, -, tasks', -, rfl⟩ := h
  rfl

theorem keepsRuns_materializedTask (d : Draws) (request : NormalizedMaterializeTaskSlotRequest)
    (plan : TaskSlotPlan) :
    (materializedTask d request plan).Keeps SqliteStore.agentQueueWorkflowRuns := by
  refine (keeps_query _).bind fun existing => ?_
  cases existing with
  | none => exact (keepsRuns_createTask _).bind fun _ => keeps_pure _
  | some existing =>
    dsimp only
    split
    · exact keeps_pure _
    · split
      · exact keeps_pure _
      · exact keeps_pure _

/-- The run of a planned slot gets its new bindings. -/
theorem movesRuns_materializePlannedSlot (d : Draws)
    (request : NormalizedMaterializeTaskSlotRequest) (plan : TaskSlotPlan) :
    (materializePlannedSlot d request plan).Moves SqliteStore.agentQueueWorkflowRuns
      fun runs runs' => runs' = runs ∨
        runs' = reportedRuns request.toWorkflowRunRef (slotBindingsUpdate d plan) runs := by
  intro s answer t h
  rw [materializePlannedSlot, exec_bind_ok] at h
  obtain ⟨_, u, hdeps, h⟩ := h
  obtain ⟨rfl, -⟩ := exec_validateCreateDependencies.1 hdeps
  rw [exec_bind_ok] at h
  obtain ⟨found, v, hfound, h⟩ := h
  have hkept := (keepsRuns_materializedTask d request plan).of_exec hfound
  cases found with
  | error answer' =>
    obtain rfl := (Prod.mk.inj h).2
    exact Or.inl hkept
  | ok made =>
    obtain ⟨task, wasCreated⟩ := made
    rw [exec_bind_ok] at h
    obtain ⟨action, w, haction, h⟩ := h
    have hkept' := (keeps_insertAction runs_of_actions _).of_exec haction
    rw [exec_bind_ok] at h
    obtain ⟨updated, x, hupdate, h⟩ := h
    obtain ⟨rfl, -⟩ := SqliteStore.updateWorkflowRunRow_ok.1 (exec_execute_ok.1 hupdate)
    have hrest := ((keeps_rowOrNoRows updated).bind fun _ =>
      (keeps_touch runs_of_workspaces request.workspaceId (d.timestamp 2)).bind fun _ =>
        keeps_pure _).of_exec h
    rw [hrest]
    refine Or.inr ?_
    rw [← hkept, ← hkept']
    rfl

theorem materializeAgentQueueWorkflowTaskSlot_runs {d : Draws}
    {request : QueueWorkflowMaterializeTaskSlotRequest} {s t : SqliteStore}
    {r : Except WorkspaceServiceError QueueWorkflowMaterializeTaskSlotResult}
    (h : exec (materializeAgentQueueWorkflowTaskSlot d request) s = (r, t)) :
    t.agentQueueWorkflowRuns = s.agentQueueWorkflowRuns ∨
      ∃ normalized plan, normalizeMaterializeTaskSlotRequest request = .ok normalized ∧
        s.planTaskSlot d normalized = .ok plan ∧
        t.agentQueueWorkflowRuns = reportedRuns normalized.toWorkflowRunRef
          (slotBindingsUpdate d plan) s.agentQueueWorkflowRuns := by
  unfold materializeAgentQueueWorkflowTaskSlot at h
  split at h
  · exact Or.inl (by rw [(Prod.mk.inj h).2])
  rename_i normalized hnormalized
  rcases exec_withImmediateTransaction h with ⟨answer, -, hrun⟩ | ⟨-, rfl⟩
  · rw [materializeTaskSlotInStore, exec_query_bind] at hrun
    split at hrun
    · exact Or.inl (by rw [(Prod.mk.inj hrun).2])
    · rename_i plan hplan
      exact (movesRuns_materializePlannedSlot d normalized plan s answer t hrun).imp_right
        fun hruns => ⟨normalized, plan, hnormalized, hplan, hruns⟩
  · exact Or.inl rfl

/-! ## The review step -/

/-- The runs after the review step. -/
inductive ReviewEffect (s : SqliteStore) (d : Draws) (request : QueueWorkflowReviewStepRequest) :
    WorkflowRuns → Prop
  | unchanged : ReviewEffect s d request s.agentQueueWorkflowRuns
  | reviewed (resolved : ReviewStepResolution) (message : AgentQueueReviewMessageRow)
      (createAction ackAction : AgentQueueWorkflowActionRow) (ackKey : String)
      (mutationRefs idempotencyKeys actionLogSummary variablesJson : JsonText)
      (hresolve : resolveQueueWorkflowReviewStep s request true = .ok resolved) :
      ReviewEffect s d request (reopenedRuns resolved.request.toWorkflowRunRef
        (reviewedRunUpdate d (.value (.obj (updateBindingWithReview resolved.slotBindings
          resolved.request.slot message createAction ackAction resolved.createIdempotencyKey
          ackKey))) mutationRefs idempotencyKeys actionLogSummary variablesJson)
        WorkflowReview.workflowPhaseReview s.agentQueueWorkflowRuns)
  | blocked (blocked : BlockedReview)
      (hresolve : resolveQueueWorkflowReviewStep s request true = .error (.blocked blocked)) :
      ReviewEffect s d request (reportedRuns blocked.request.toWorkflowRunRef
        (blockRunUpdate WorkflowReview.workflowPhaseReview "review_blocked" blocked.blocker
          (d.timestamp 2)) s.agentQueueWorkflowRuns)

theorem keepsRuns_createdMessage (d : Draws) (resolved : ReviewStepResolution) :
    (WorkflowReview.createdMessage d resolved).Keeps SqliteStore.agentQueueWorkflowRuns := by
  unfold WorkflowReview.createdMessage
  split
  · exact keeps_pure _
  · refine keeps_execute fun s a t h => ?_
    rw [SqliteStore.insertAgentQueueReviewMessage, SqliteStore.inserted_ok] at h
    obtain ⟨-, -, messages', -, rfl⟩ := h
    rfl

theorem keepsRuns_acknowledgedMessage (d : Draws) (resolved : ReviewStepResolution)
    (message : AgentQueueReviewMessageRow) :
    (WorkflowReview.acknowledgedMessage d resolved message).Keeps
      SqliteStore.agentQueueWorkflowRuns := by
  unfold WorkflowReview.acknowledgedMessage
  split
  · exact keeps_pure _
  · refine Keeps.bind ?_ fun _ => (keeps_query _).bind fun _ => keeps_rowOrNoRows _
    refine keeps_execute fun s a t h => ?_
    simp only [SqliteStore.ackAgentQueueReviewMessage, Except.ok.injEq, Prod.mk.injEq] at h
    obtain ⟨-, rfl⟩ := h
    rfl

theorem keepsRuns_createReview (d : Draws) (resolved : ReviewStepResolution) :
    (WorkflowReview.createReview d resolved).Keeps SqliteStore.agentQueueWorkflowRuns :=
  (WorkflowReview.keeps_openReviewAction runs_of_actions _ _ _ _ _ _ _ _).bind fun _ =>
    (keepsRuns_createdMessage _ _).bind fun _ =>
      (WorkflowReview.keeps_completeReviewAction runs_of_actions _ _ _ _ _).bind fun _ =>
        keeps_pure _

theorem keepsRuns_ackReview (d : Draws) (resolved : ReviewStepResolution)
    (message : AgentQueueReviewMessageRow) (ackKey : String) :
    (WorkflowReview.ackReview d resolved message ackKey).Keeps
      SqliteStore.agentQueueWorkflowRuns :=
  (WorkflowReview.keeps_openReviewAction runs_of_actions _ _ _ _ _ _ _ _).bind fun _ =>
    (keepsRuns_acknowledgedMessage _ _ _).bind fun _ =>
      (WorkflowReview.keeps_completeReviewAction runs_of_actions _ _ _ _ _).bind fun _ =>
        keeps_pure _

/-- A text that fits its column is the text of the value, and nothing is written. -/
theorem boundedJson_bind_ok {α : Type} {value : Json} {maxBytes : ℕ} {fieldName : String}
    {rest : JsonText → Sqlite α} {s t : SqliteStore} {a : α}
    (h : exec (WorkflowReview.boundedJson value maxBytes fieldName >>= rest) s = (.ok a, t)) :
    ∃ text, text = .value value ∧ exec (rest text) s = (.ok a, t) := by
  rw [exec_bind_ok] at h
  obtain ⟨text, u, hbound, h⟩ := h
  unfold WorkflowReview.boundedJson at hbound
  split at hbound
  · cases (Prod.mk.inj hbound).1
  · obtain ⟨htext, rfl⟩ := Prod.mk.inj hbound
    exact ⟨text, (Except.ok.inj htext).symm, h⟩

theorem movesRuns_storeReviewedRun (d : Draws) (resolved : ReviewStepResolution)
    (message : AgentQueueReviewMessageRow) (createAction ackAction : AgentQueueWorkflowActionRow)
    (ackKey : String) :
    (WorkflowReview.storeReviewedRun d resolved message createAction ackAction ackKey).Moves
      SqliteStore.agentQueueWorkflowRuns fun runs runs' =>
        ∃ mutationRefs idempotencyKeys actionLogSummary variablesJson,
          runs' = reopenedRuns resolved.request.toWorkflowRunRef
            (reviewedRunUpdate d (.value (.obj (updateBindingWithReview resolved.slotBindings
              resolved.request.slot message createAction ackAction resolved.createIdempotencyKey
              ackKey))) mutationRefs idempotencyKeys actionLogSummary variablesJson)
            WorkflowReview.workflowPhaseReview runs := by
  intro s row t h
  rw [WorkflowReview.storeReviewedRun] at h
  obtain ⟨slotBindings, rfl, h⟩ := boundedJson_bind_ok h
  obtain ⟨mutationRefs, -, h⟩ := boundedJson_bind_ok h
  obtain ⟨idempotencyKeys, -, h⟩ := boundedJson_bind_ok h
  obtain ⟨actionLogSummary, -, h⟩ := boundedJson_bind_ok h
  obtain ⟨variablesJson, -, h⟩ := boundedJson_bind_ok h
  exact ⟨mutationRefs, idempotencyKeys, actionLogSummary, variablesJson,
    movesRuns_reopen _ _ rfl _ _ _ h⟩

theorem movesRuns_recordBlockedReview (d : Draws) (blocked : BlockedReview) :
    (WorkflowReview.recordBlockedReview d blocked).Moves SqliteStore.agentQueueWorkflowRuns
      fun runs runs' => runs' = reportedRuns blocked.request.toWorkflowRunRef
        (blockRunUpdate WorkflowReview.workflowPhaseReview "review_blocked" blocked.blocker
          (d.timestamp 2)) runs := by
  have hblock := movesRuns_report blocked.request.toWorkflowRunRef
    (blockRunUpdate WorkflowReview.workflowPhaseReview "review_blocked" blocked.blocker
      (d.timestamp 2))
  unfold WorkflowReview.recordBlockedReview
  cases blocked.targetRefs with
  | none => exact (keeps_pure _).bind_moves fun _ => hblock.bind_keeps fun _ => keeps_pure _
  | some targetRefs =>
    exact (WorkflowReview.keeps_recordBlockedReviewAction runs_of_actions _ _ _ _ _).bind_moves
      fun _ => (keeps_pure _).bind_moves fun _ => hblock.bind_keeps fun _ => keeps_pure _

theorem executeQueueWorkflowReviewStep_runs {d : Draws} {request : QueueWorkflowReviewStepRequest}
    {s t : SqliteStore}
    {r : Except WorkspaceServiceError WorkflowReview.QueueWorkflowReviewStepResult}
    (h : exec (executeQueueWorkflowReviewStep d request) s = (r, t)) :
    ReviewEffect s d request t.agentQueueWorkflowRuns := by
  rcases exec_withImmediateTransaction h with ⟨answer, -, hrun⟩ | ⟨-, rfl⟩
  · rw [exec_query_bind] at hrun
    cases hresolve : resolveQueueWorkflowReviewStep s request true with
    | ok resolved =>
      rw [hresolve] at hrun
      rw [WorkflowReview.executeReviewStepResolution, WorkflowReview.executeReadyReviewStep,
        exec_bind_ok] at hrun
      obtain ⟨⟨created, createAction⟩, u, hcreate, hrun⟩ := hrun
      have hcreated := (keepsRuns_createReview d resolved).of_exec hcreate
      rw [exec_bind_ok] at hrun
      obtain ⟨⟨message, ackAction⟩, v, hack, hrun⟩ := hrun
      have hacked := (keepsRuns_ackReview d resolved created _).of_exec hack
      rw [exec_bind_ok] at hrun
      obtain ⟨row, w, hstore, hrun⟩ := hrun
      obtain ⟨mutationRefs, idempotencyKeys, actionLogSummary, variablesJson, hruns⟩ :=
        movesRuns_storeReviewedRun d resolved message createAction ackAction _ v row w hstore
      have hrest := ((keeps_touch runs_of_workspaces _ _).bind fun _ => keeps_pure _).of_exec hrun
      rw [hrest, hruns, hacked, hcreated]
      exact .reviewed resolved message createAction ackAction _ mutationRefs idempotencyKeys
        actionLogSummary variablesJson hresolve
    | error refusal =>
      rw [hresolve] at hrun
      cases refusal with
      | blocked blocked =>
        rw [movesRuns_recordBlockedReview d blocked s answer t hrun]
        exact .blocked blocked hresolve
      | conflict run createAction ackAction conflict blocker =>
        rw [← (Prod.mk.inj hrun).2]
        exact .unchanged
      | notFound normalized blocker =>
        rw [← (Prod.mk.inj hrun).2]
        exact .unchanged
      | invalidInput workflowRunId blocker =>
        rw [← (Prod.mk.inj hrun).2]
        exact .unchanged
  · exact .unchanged

/-! ## The finalization step -/

open WorkflowFinalization in
/-- What the decision command of a finalization comes to, given in the store its action was
opened in. -/
def SqliteStore.decisionAnswer (s : SqliteStore) (d : Draws)
    (resolved : FinalizationStepResolution) : Except WorkspaceServiceError MappedCommandResult :=
  let opened := (exec (withImmediateTransaction mapStorageAgentQueueTaskError
    (openFinalizationAction d resolved)) s).2
  (exec (finalizationCommand (d.drop 2) resolved) opened).1.map (mapCommandResult resolved)

/-- The decision of the task is there, or the decision command made it. -/
def SqliteStore.Decides (s : SqliteStore) (d : Draws) (resolved : FinalizationStepResolution) :
    Prop :=
  resolved.decided = true ∨
  ∃ mapped, s.decisionAnswer d resolved = .ok mapped ∧
    (mapped.status = .executed ∨ mapped.status = .alreadyApplied)

/-- The runs after the finalization step. -/
inductive FinalizationEffect (s : SqliteStore) (d : Draws)
    (request : QueueWorkflowFinalizationStepRequest) : WorkflowRuns → Prop
  | unchanged : FinalizationEffect s d request s.agentQueueWorkflowRuns
  | completed (resolved : FinalizationStepResolution)
      (decisions : WorkflowFinalization.FinalDecisions) (action : AgentQueueWorkflowActionRow)
      (now : String)
      (variablesJson mutationRefs idempotencyKeys actionLogSummary : JsonText)
      (hresolve : resolveQueueWorkflowFinalizationStep s request true = .ok resolved)
      (hdecides : s.Decides d resolved) :
      FinalizationEffect s d request (reportedRuns resolved.request.toWorkflowRunRef
        (completedRunUpdate now variablesJson
          (.value (.obj (updateBindingWithFinalization resolved decisions action now)))
          mutationRefs idempotencyKeys actionLogSummary) s.agentQueueWorkflowRuns)
  | blocked (blocked : BlockedFinalization)
      (hresolve : resolveQueueWorkflowFinalizationStep s request true =
        .error (.blocked blocked)) :
      FinalizationEffect s d request (reportedRuns blocked.request.toWorkflowRunRef
        (blockRunUpdate WorkflowFinalization.workflowPhaseFinalization "finalization_blocked"
          blocked.blocker (d.timestamp 2)) s.agentQueueWorkflowRuns)
  | decisionBlocked (resolved : FinalizationStepResolution)
      (mapped : WorkflowFinalization.MappedCommandResult)
      (blocker : QueueWorkflowCommandBlocker) (now : String)
      (hresolve : resolveQueueWorkflowFinalizationStep s request true = .ok resolved)
      (hundecided : resolved.decided = false)
      (hanswer : s.decisionAnswer d resolved = .ok mapped)
      (hstatus : mapped.status = .invalidInput ∨ mapped.status = .blockedPrecondition) :
      FinalizationEffect s d request (reportedRuns resolved.request.toWorkflowRunRef
        (blockRunUpdate WorkflowFinalization.workflowPhaseFinalization "finalization_blocked"
          blocker now) s.agentQueueWorkflowRuns)
  | failed (resolved : FinalizationStepResolution) (message now : String)
      (hresolve : resolveQueueWorkflowFinalizationStep s request true = .ok resolved)
      (hundecided : resolved.decided = false) :
      FinalizationEffect s d request (reportedRuns resolved.request.toWorkflowRunRef
        (failedRunUpdate message now) s.agentQueueWorkflowRuns)

namespace WorkflowFinalization

theorem keepsRuns_finalizationCommand (d : Draws) (resolved : FinalizationStepResolution) :
    (finalizationCommand d resolved).Keeps SqliteStore.agentQueueWorkflowRuns := by
  unfold finalizationCommand
  split
  · refine Keeps.bind (fun s => ?_) fun _ => keeps_pure _
    rcases markAgentQueueItemDone_effect (Prod.mk.eta.symm : exec _ s = _) with h | ⟨_, -, h⟩
    · rw [h]
    · obtain ⟨_, _, _, _, _, -, -, -, -, h⟩ := h
      rw [h]
  · refine Keeps.bind (fun s => ?_) fun _ => keeps_pure _
    rcases failAgentQueueItem_effect (Prod.mk.eta.symm : exec _ s = _) with h | ⟨_, _, _, -, h⟩
    · rw [h]
    · obtain ⟨_, _, -, h⟩ := h
      rw [h]

theorem movesRuns_storeFinalizedRun (d : Draws) (resolved : FinalizationStepResolution)
    (decisions : FinalDecisions) (action : AgentQueueWorkflowActionRow)
    (status : QueueWorkflowFinalizationStepResultStatus) :
    (storeFinalizedRun d resolved decisions action status).Moves
      SqliteStore.agentQueueWorkflowRuns fun runs runs' =>
        ∃ variablesJson mutationRefs idempotencyKeys actionLogSummary,
          runs' = reportedRuns resolved.request.toWorkflowRunRef
            (completedRunUpdate (d.timestamp 0) variablesJson
              (.value (.obj (updateBindingWithFinalization resolved decisions action
                (d.timestamp 0)))) mutationRefs idempotencyKeys actionLogSummary) runs := by
  intro s row t h
  rw [storeFinalizedRun] at h
  obtain ⟨slotBindings, rfl, h⟩ := boundedJson_bind_ok h
  obtain ⟨mutationRefs, -, h⟩ := boundedJson_bind_ok h
  obtain ⟨idempotencyKeys, -, h⟩ := boundedJson_bind_ok h
  obtain ⟨actionLogSummary, -, h⟩ := boundedJson_bind_ok h
  obtain ⟨variablesJson, -, h⟩ := boundedJson_bind_ok h
  exact ⟨variablesJson, mutationRefs, idempotencyKeys, actionLogSummary,
    movesRuns_report _ _ _ _ _ h⟩

/-- The run of a finished finalization is completed. -/
theorem movesRuns_completeWorkflowTerminal (d : Draws) (resolved : FinalizationStepResolution)
    (action : AgentQueueWorkflowActionRow)
    (status : QueueWorkflowFinalizationStepResultStatus) :
    (completeWorkflowTerminal d resolved action status).Moves
      SqliteStore.agentQueueWorkflowRuns fun runs runs' =>
        ∃ decisions completed variablesJson mutationRefs idempotencyKeys actionLogSummary,
          runs' = reportedRuns resolved.request.toWorkflowRunRef
            (completedRunUpdate (d.timestamp 0) variablesJson
              (.value (.obj (updateBindingWithFinalization resolved decisions completed
                (d.timestamp 0)))) mutationRefs idempotencyKeys actionLogSummary) runs := by
  refine (keeps_query _).bind_moves fun aggregate =>
    (keeps_completeFinalizationAction runs_of_actions _ _ _ _ _).bind_moves fun completed =>
      Moves.bind_keeps ?_ fun run => (keeps_touch runs_of_workspaces _ _).bind fun _ => keeps_pure _
  refine (movesRuns_storeFinalizedRun d resolved (finalDecisions resolved) completed status).mono
    fun runs runs' hruns => ?_
  obtain ⟨variablesJson, mutationRefs, idempotencyKeys, actionLogSummary, rfl⟩ := hruns
  exact ⟨_, completed, variablesJson, mutationRefs, idempotencyKeys, actionLogSummary, rfl⟩

theorem movesRuns_recordBlockedFinalization (d : Draws) (blocked : BlockedFinalization) :
    (recordBlockedFinalization d blocked).Moves SqliteStore.agentQueueWorkflowRuns
      fun runs runs' => runs' = reportedRuns blocked.request.toWorkflowRunRef
        (blockRunUpdate workflowPhaseFinalization "finalization_blocked" blocked.blocker
          (d.timestamp 2)) runs := by
  have hblock := movesRuns_report blocked.request.toWorkflowRunRef
    (blockRunUpdate workflowPhaseFinalization "finalization_blocked" blocked.blocker
      (d.timestamp 2))
  unfold recordBlockedFinalization
  cases blocked.targetRefs with
  | none => exact (keeps_pure _).bind_moves fun _ => hblock.bind_keeps fun _ => keeps_pure _
  | some targetRefs =>
    cases blocked.transition with
    | none => exact (keeps_pure _).bind_moves fun _ => hblock.bind_keeps fun _ => keeps_pure _
    | some transition =>
      exact (keeps_recordBlockedFinalizationAction runs_of_actions _ _ _ _ _ _).bind_moves fun _ =>
        (keeps_pure _).bind_moves fun _ => hblock.bind_keeps fun _ => keeps_pure _

theorem movesRuns_blockDecidedRun (d : Draws) (resolved : FinalizationStepResolution)
    (action : AgentQueueWorkflowActionRow)
    (status : QueueWorkflowFinalizationStepResultStatus)
    (blocker : QueueWorkflowCommandBlocker) :
    (blockDecidedRun d resolved action status blocker).Moves SqliteStore.agentQueueWorkflowRuns
      fun runs runs' => runs' = reportedRuns resolved.request.toWorkflowRunRef
        (blockRunUpdate workflowPhaseFinalization "finalization_blocked" blocker
          (d.timestamp 2)) runs :=
  (keeps_recordBlockedFinalizationAction runs_of_actions _ _ _ _ _ _).bind_moves fun _ =>
    (movesRuns_report resolved.request.toWorkflowRunRef _).bind_keeps fun _ => keeps_pure _

theorem movesRuns_failedUnexpectedResult (d : Draws) (resolved : FinalizationStepResolution)
    (action : AgentQueueWorkflowActionRow) (message : String) :
    (failedUnexpectedResult d resolved action message).Moves SqliteStore.agentQueueWorkflowRuns
      fun runs runs' => runs' = reportedRuns resolved.request.toWorkflowRunRef
        (failedRunUpdate message (d.timestamp 0)) runs := by
  intro s answer t h
  rw [failedUnexpectedResult, exec_bind_ok] at h
  obtain ⟨updated, u, hupdate, h⟩ := h
  have hkept := (keeps_updateAction runs_of_actions _ _ _ _ _).of_exec hupdate
  rw [exec_bind_ok] at h
  obtain ⟨failedAction, v, hrow, h⟩ := h
  have hkept' : v.agentQueueWorkflowRuns = u.agentQueueWorkflowRuns :=
    (keeps_rowOrNoRows updated).of_exec hrow
  rw [exec_bind_ok] at h
  obtain ⟨updatedRun, w, hrun, h⟩ := h
  obtain ⟨rfl, -⟩ := SqliteStore.updateWorkflowRunRow_ok.1 (exec_execute_ok.1 hrun)
  have hrest : t.agentQueueWorkflowRuns = SqliteStore.agentQueueWorkflowRuns _ :=
    ((keeps_rowOrNoRows updatedRun).bind fun _ => keeps_pure _).of_exec h
  rw [hrest, ← hkept, ← hkept']
  rfl

/-- The runs after the decision command has answered. -/
inductive AnsweredEffect (resolved : FinalizationStepResolution) (mapped : MappedCommandResult)
    (runs : WorkflowRuns) : WorkflowRuns → Prop
  | unchanged : AnsweredEffect resolved mapped runs runs
  | completed (decisions : FinalDecisions) (action : AgentQueueWorkflowActionRow) (now : String)
      (variablesJson mutationRefs idempotencyKeys actionLogSummary : JsonText)
      (hstatus : mapped.status = .executed ∨ mapped.status = .alreadyApplied) :
      AnsweredEffect resolved mapped runs (reportedRuns resolved.request.toWorkflowRunRef
        (completedRunUpdate now variablesJson
          (.value (.obj (updateBindingWithFinalization resolved decisions action now)))
          mutationRefs idempotencyKeys actionLogSummary) runs)
  | blocked (blocker : QueueWorkflowCommandBlocker) (now : String)
      (hstatus : mapped.status = .invalidInput ∨ mapped.status = .blockedPrecondition) :
      AnsweredEffect resolved mapped runs (reportedRuns resolved.request.toWorkflowRunRef
        (blockRunUpdate workflowPhaseFinalization "finalization_blocked" blocker now) runs)
  | failed (message now : String) :
      AnsweredEffect resolved mapped runs (reportedRuns resolved.request.toWorkflowRunRef
        (failedRunUpdate message now) runs)

/-- The run of a decided task is completed, whatever decisions were read for it. -/
theorem completeDecided_runs {d : Draws} {resolved resolved' : FinalizationStepResolution}
    (hrequest : resolved'.request = resolved.request)
    (hbindings : resolved'.slotBindings = resolved.slotBindings)
    (hkey : resolved'.actionIdempotencyKey = resolved.actionIdempotencyKey)
    (htransition : resolved'.transition = resolved.transition)
    {action : AgentQueueWorkflowActionRow} {mapped : MappedCommandResult}
    (hstatus : mapped.status = .executed ∨ mapped.status = .alreadyApplied)
    {s t : SqliteStore} {answer : QueueWorkflowFinalizationStepResult}
    (h : exec (completeWorkflowTerminal d resolved' action mapped.status) s = (.ok answer, t)) :
    AnsweredEffect resolved mapped s.agentQueueWorkflowRuns t.agentQueueWorkflowRuns := by
  obtain ⟨decisions, completed, v, m, i, a, hruns⟩ :=
    movesRuns_completeWorkflowTerminal d resolved' action mapped.status s answer t h
  rw [updateBindingWithFinalization, hrequest, hbindings, hkey, htransition] at hruns
  rw [hruns]
  exact .completed decisions completed (d.timestamp 0) v m i a hstatus

theorem completeWorkflowFromCommand_runs {d : Draws} {resolved : FinalizationStepResolution}
    {action : AgentQueueWorkflowActionRow} {commandResult : FinalizationCommandResult}
    {s t : SqliteStore} {answer : QueueWorkflowFinalizationStepResult}
    (h : exec (completeWorkflowFromCommand d resolved action commandResult) s =
      (.ok answer, t)) :
    AnsweredEffect resolved (mapCommandResult resolved commandResult) s.agentQueueWorkflowRuns
      t.agentQueueWorkflowRuns := by
  rw [completeWorkflowFromCommand] at h
  dsimp only at h
  generalize mapCommandResult resolved commandResult = mapped at h ⊢
  split at h
  · rename_i hstatus
    rw [exec_query_bind, exec_query_bind] at h
    refine completeDecided_runs ?_ ?_ ?_ ?_ (Or.inl hstatus) h <;> rfl
  · rename_i hstatus
    rw [exec_query_bind, exec_query_bind] at h
    refine completeDecided_runs ?_ ?_ ?_ ?_ (Or.inr hstatus) h <;> rfl
  · rw [← (Prod.mk.inj h).2]
    exact .unchanged
  · rename_i blocker hstatus hblocker
    rw [movesRuns_blockDecidedRun d resolved action _ blocker s answer t h]
    exact .blocked blocker _ (Or.inl hstatus)
  · rename_i blocker hstatus hblocker
    rw [movesRuns_blockDecidedRun d resolved action _ blocker s answer t h]
    exact .blocked blocker _ (Or.inr hstatus)
  · cases (Prod.mk.inj h).1
  · cases (Prod.mk.inj h).1
  · rw [movesRuns_failedUnexpectedResult d resolved action _ s answer t h]
    exact .failed _ _

end WorkflowFinalization

open WorkflowFinalization in
/-- A finalization that gives its decision command: the action is opened, the command
answers, and the run gets what the answer comes to. -/
theorem executeDecidingFinalizationStep_runs {d : Draws}
    {request : QueueWorkflowFinalizationStepRequest} {resolved : FinalizationStepResolution}
    {s t : SqliteStore} {r : Except WorkspaceServiceError QueueWorkflowFinalizationStepResult}
    (hresolve : resolveQueueWorkflowFinalizationStep s request true = .ok resolved)
    (hundecided : resolved.decided = false)
    (h : exec (executeDecidingFinalizationStep d resolved) s = (r, t)) :
    FinalizationEffect s d request t.agentQueueWorkflowRuns := by
  rw [executeDecidingFinalizationStep, exec_bind_eq] at h
  obtain ⟨e, hopen, -⟩ | ⟨opened, u, hopen, h⟩ := h
  · rw [(keepsRuns_withImmediateTransaction
      (keeps_openFinalizationAction runs_of_actions d resolved)).of_exec hopen]
    exact .unchanged
  have hopened := (keepsRuns_withImmediateTransaction
    (keeps_openFinalizationAction runs_of_actions d resolved)).of_exec hopen
  rw [exec_attempt_bind] at h
  have hcommand := keepsRuns_finalizationCommand (d.drop 2) resolved u
  have hanswer : s.decisionAnswer d resolved =
      (exec (finalizationCommand (d.drop 2) resolved) u).1.map (mapCommandResult resolved) := by
    rw [SqliteStore.decisionAnswer, hopen]
  rw [hopened] at hcommand
  cases hrun : (exec (finalizationCommand (d.drop 2) resolved) u).1 with
  | error error =>
    rw [hrun] at h
    rcases exec_withImmediateTransaction h with ⟨answer, -, hend⟩ | ⟨-, rfl⟩
    · rw [movesRuns_failedUnexpectedResult _ _ _ _ _ answer t hend, hcommand]
      exact .failed resolved _ _ hresolve hundecided
    · rw [hcommand]
      exact .unchanged
  | ok commandResult =>
    rw [hrun] at h hanswer
    rcases exec_withImmediateTransaction h with ⟨answer, -, hend⟩ | ⟨-, rfl⟩
    · have heffect := completeWorkflowFromCommand_runs hend
      rw [hcommand] at heffect
      generalize t.agentQueueWorkflowRuns = runs' at heffect ⊢
      cases heffect with
      | unchanged => exact .unchanged
      | completed decisions action now v m i a hstatus =>
        exact .completed resolved decisions action now v m i a hresolve
          (Or.inr ⟨_, hanswer, hstatus⟩)
      | blocked blocker now hstatus =>
        exact .decisionBlocked resolved _ blocker now hresolve hundecided hanswer hstatus
      | failed message now => exact .failed resolved message now hresolve hundecided
    · rw [hcommand]
      exact .unchanged

open WorkflowFinalization in
theorem executeQueueWorkflowFinalizationStep_runs {d : Draws}
    {request : QueueWorkflowFinalizationStepRequest} {s t : SqliteStore}
    {r : Except WorkspaceServiceError QueueWorkflowFinalizationStepResult}
    (h : exec (executeQueueWorkflowFinalizationStep d request) s = (r, t)) :
    FinalizationEffect s d request t.agentQueueWorkflowRuns := by
  rw [executeQueueWorkflowFinalizationStep, exec_query_bind] at h
  cases hresolve : resolveQueueWorkflowFinalizationStep s request true with
  | ok resolved =>
    rw [hresolve] at h
    rw [executeFinalizationStepResolution, executeReadyFinalizationStep] at h
    by_cases hdecided : resolved.decided = true
    · rw [if_pos hdecided] at h
      rcases exec_withImmediateTransaction h with ⟨answer, -, hrun⟩ | ⟨-, rfl⟩
      · rw [completeWorkflowFromExistingDecision, exec_bind_ok] at hrun
        obtain ⟨action, u, hopen, hrun⟩ := hrun
        obtain ⟨decisions, completed, v, m, i, a, hruns⟩ :=
          movesRuns_completeWorkflowTerminal _ resolved action _ u answer t hrun
        rw [hruns, (keeps_openFinalizationAction runs_of_actions d resolved).of_exec hopen]
        exact .completed resolved decisions completed _ v m i a hresolve (Or.inl hdecided)
      · exact .unchanged
    · rw [if_neg hdecided] at h
      have hundecided : resolved.decided = false := by simpa using hdecided
      exact executeDecidingFinalizationStep_runs hresolve hundecided h
  | error refusal =>
    rw [hresolve] at h
    rcases exec_withImmediateTransaction h with ⟨answer, -, hrun⟩ | ⟨-, rfl⟩
    · cases refusal with
      | blocked blocked =>
        rw [movesRuns_recordBlockedFinalization d blocked s answer t hrun]
        exact .blocked blocked hresolve
      | conflict run action transition conflict blocker =>
        rw [← (Prod.mk.inj hrun).2]
        exact .unchanged
      | notFound normalized blocker =>
        rw [← (Prod.mk.inj hrun).2]
        exact .unchanged
      | invalidInput workflowRunId transition blocker =>
        rw [← (Prod.mk.inj hrun).2]
        exact .unchanged
    · exact .unchanged

/-! ## All commands -/

/-- The runs after a command. -/
inductive RunsEffect (s : SqliteStore) : WorkflowCommand → WorkflowRuns → Prop
  | unchanged (op : WorkflowCommand) : RunsEffect s op s.agentQueueWorkflowRuns
  | started (d : Draws) (request : QueueWorkflowStartRequest) (start : StartWorkflow)
      (prepared : PreparedWorkflowSnapshots) (runs' : WorkflowRuns)
      (hstart : startWorkflow request = .ok start)
      (hprepared : prepareStart start request = .ok prepared)
      (hinsert : s.agentQueueWorkflowRuns.insert (newWorkflowRun d start prepared) = some runs') :
      RunsEffect s (.start d request) runs'
  | cancelled (d : Draws) (request : QueueWorkflowCancelRequest) (ref : WorkflowRunRef)
      (row : AgentQueueWorkflowRunRow) (href : cancelRef request = .ok ref)
      (hfound : s.getAgentQueueWorkflowRun ref.workspaceId ref.workflowRunId = some row)
      (hcheck : checkCancel (some row) = .ok ()) :
      RunsEffect s (.cancel d request)
        (statusRuns ref (cancelUpdate d request) s.agentQueueWorkflowRuns)
  | reported (d : Draws) (request : QueueWorkflowRecordRunnerReportRequest)
      (head : RunnerReportHead) (row : AgentQueueWorkflowRunRow) (prepared : PreparedRunnerReport)
      (haccepted : AcceptedReport s request head row prepared) :
      RunsEffect s (.report d request) (reportedRuns head.toWorkflowRunRef
        (runnerReportUpdate d head prepared) s.agentQueueWorkflowRuns)
  | materialized (d : Draws) (request : QueueWorkflowMaterializeTaskSlotRequest)
      (normalized : NormalizedMaterializeTaskSlotRequest) (plan : TaskSlotPlan)
      (hnormalized : normalizeMaterializeTaskSlotRequest request = .ok normalized)
      (hplan : s.planTaskSlot d normalized = .ok plan) :
      RunsEffect s (.materialize d request) (reportedRuns normalized.toWorkflowRunRef
        (slotBindingsUpdate d plan) s.agentQueueWorkflowRuns)
  | reviewed (d : Draws) (request : QueueWorkflowReviewStepRequest) (runs' : WorkflowRuns)
      (heffect : ReviewEffect s d request runs') : RunsEffect s (.review d request) runs'
  | finalized (d : Draws) (request : QueueWorkflowFinalizationStepRequest) (runs' : WorkflowRuns)
      (heffect : FinalizationEffect s d request runs') : RunsEffect s (.finalize d request) runs'

/-- **Every command makes one of these writes, or none.** -/
theorem performWorkflow_runs (s : SqliteStore) (op : WorkflowCommand) :
    RunsEffect s op (performWorkflow s op).agentQueueWorkflowRuns := by
  cases op with
  | start d request =>
    dsimp only [performWorkflow]
    rcases startQueueWorkflow_runs (Prod.mk.eta.symm : exec _ s = _) with
      hruns | ⟨start, prepared, hstart, hprepared, hinsert⟩
    · rw [hruns]
      exact .unchanged _
    · exact .started d request start prepared _ hstart hprepared hinsert
  | cancel d request =>
    dsimp only [performWorkflow]
    rcases cancelQueueWorkflowRun_runs (Prod.mk.eta.symm : exec _ s = _) with
      hruns | ⟨ref, row, href, hfound, hcheck, hruns⟩
    · rw [hruns]
      exact .unchanged _
    · rw [hruns]
      exact .cancelled d request ref row href hfound hcheck
  | report d request =>
    dsimp only [performWorkflow]
    rcases recordQueueWorkflowRunnerReport_runs (Prod.mk.eta.symm : exec _ s = _) with
      hruns | ⟨head, row, prepared, haccepted, hruns⟩
    · rw [hruns]
      exact .unchanged _
    · rw [hruns]
      exact .reported d request head row prepared haccepted
  | materialize d request =>
    dsimp only [performWorkflow]
    rcases materializeAgentQueueWorkflowTaskSlot_runs (Prod.mk.eta.symm : exec _ s = _) with
      hruns | ⟨normalized, plan, hnormalized, hplan, hruns⟩
    · rw [hruns]
      exact .unchanged _
    · rw [hruns]
      exact .materialized d request normalized plan hnormalized hplan
  | review d request =>
    dsimp only [performWorkflow]
    exact .reviewed d request _
      (executeQueueWorkflowReviewStep_runs (Prod.mk.eta.symm : exec _ s = _))
  | finalize d request =>
    dsimp only [performWorkflow]
    exact .finalized d request _
      (executeQueueWorkflowFinalizationStep_runs (Prod.mk.eta.symm : exec _ s = _))

end HobitQueue
