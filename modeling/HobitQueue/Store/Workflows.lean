import HobitQueue.Store.Sqlite

/-!
# Workflow runs in the store

The statements on the tables of workflow runs and workflow actions. Three different
`UPDATE`s write a run: two of them keep a column whose new value is `NULL`, the third
one reopens the run and clears its blocker and its end. Every `UPDATE` of a run counts
its version up.
-/

namespace HobitQueue

open Relational

/-! ## Updates of a row -/

/-- The columns that set the status of a run; the optional ones are `COALESCE`d. -/
structure AgentQueueWorkflowRunStatusUpdate where
  status : String
  phase : Option String
  currentStep : Option String
  pauseReason : Option String
  blockerReason : Option String
  updatedAt : String
  completedAt : Option String

def AgentQueueWorkflowRunStatusUpdate.apply (update : AgentQueueWorkflowRunStatusUpdate)
    (r : AgentQueueWorkflowRunRow) : AgentQueueWorkflowRunRow :=
  { r with
    status := update.status
    phase := update.phase.getD r.phase
    currentStep := update.currentStep.or r.currentStep
    pauseReason := update.pauseReason.or r.pauseReason
    blockerReason := update.blockerReason.or r.blockerReason
    completedAt := update.completedAt.or r.completedAt
    updatedAt := update.updatedAt
    version := r.version + 1 }

/-- The columns a report writes. -/
structure AgentQueueWorkflowRunReportUpdate where
  status : String
  phase : Option String
  currentStep : Option String
  pauseReason : Option String
  blockerReason : Option String
  variablesJson : Option JsonText
  slotBindingsJson : Option JsonText
  mutationRefsJson : Option JsonText
  idempotencyKeysJson : Option JsonText
  actionLogSummaryJson : Option JsonText
  updatedAt : String
  completedAt : Option String

/-- A report: the optional columns are `COALESCE`d. -/
def AgentQueueWorkflowRunReportUpdate.apply (update : AgentQueueWorkflowRunReportUpdate)
    (r : AgentQueueWorkflowRunRow) : AgentQueueWorkflowRunRow :=
  { r with
    status := update.status
    phase := update.phase.getD r.phase
    currentStep := update.currentStep.or r.currentStep
    pauseReason := update.pauseReason.or r.pauseReason
    blockerReason := update.blockerReason.or r.blockerReason
    variablesJson := update.variablesJson.or r.variablesJson
    slotBindingsJson := update.slotBindingsJson.or r.slotBindingsJson
    mutationRefsJson := update.mutationRefsJson.or r.mutationRefsJson
    idempotencyKeysJson := update.idempotencyKeysJson.or r.idempotencyKeysJson
    actionLogSummaryJson := update.actionLogSummaryJson.or r.actionLogSummaryJson
    completedAt := update.completedAt.or r.completedAt
    updatedAt := update.updatedAt
    version := r.version + 1 }

/-- A report that reopens its run: the step and the pause are the given ones, the blocker
and the end are cleared. -/
def AgentQueueWorkflowRunReportUpdate.reopen (update : AgentQueueWorkflowRunReportUpdate)
    (phase : String) (r : AgentQueueWorkflowRunRow) : AgentQueueWorkflowRunRow :=
  { r with
    status := update.status
    phase := phase
    currentStep := update.currentStep
    pauseReason := update.pauseReason
    blockerReason := none
    variablesJson := update.variablesJson.or r.variablesJson
    slotBindingsJson := update.slotBindingsJson.or r.slotBindingsJson
    mutationRefsJson := update.mutationRefsJson.or r.mutationRefsJson
    idempotencyKeysJson := update.idempotencyKeysJson.or r.idempotencyKeysJson
    actionLogSummaryJson := update.actionLogSummaryJson.or r.actionLogSummaryJson
    completedAt := none
    updatedAt := update.updatedAt
    version := r.version + 1 }

/-- The resolution of an action replaced: its refs and its blocker are the given ones. -/
def AgentQueueWorkflowActionUpdate.replace (update : AgentQueueWorkflowActionUpdate)
    (r : AgentQueueWorkflowActionRow) : AgentQueueWorkflowActionRow :=
  { r with
    status := update.status
    resultRefsJson := update.resultRefsJson
    blockerCode := update.blockerCode
    blockerMessage := update.blockerMessage
    attemptCount := update.attemptCount.getD r.attemptCount
    startedAt := update.startedAt.or r.startedAt
    completedAt := update.completedAt.or r.completedAt
    updatedAt := update.updatedAt }

/-- `ORDER BY created_at, action_id`, read downwards. -/
def workflowActionOrder :
    SortKey AgentQueueWorkflowActionRow ((String ×ₗ String)ᵒᵈ) where
  rank r := OrderDual.toDual (toLex (r.createdAt, r.actionId))
  clash_of_rank_eq a b h := by
    simp only [EmbeddingLike.apply_eq_iff_eq, Prod.mk.injEq] at h
    exact ⟨("action_id", [a.actionId]), by simp [Row.keys], by simp [Row.keys, h]⟩

/-- `WHERE workspace_id = … AND workflow_run_id = …`. -/
def namedRun (workspaceId workflowRunId : String) (r : AgentQueueWorkflowRunRow) : Bool :=
  r.workspaceId == workspaceId && r.workflowRunId == workflowRunId

/-- `WHERE workspace_id = … AND workflow_run_id = … AND idempotency_key = …`. -/
def namedAction (workspaceId workflowRunId idempotencyKey : String)
    (r : AgentQueueWorkflowActionRow) : Bool :=
  r.workspaceId == workspaceId && r.workflowRunId == workflowRunId &&
    r.idempotencyKey == idempotencyKey

namespace SqliteStore

variable (s : SqliteStore)

/-! ## Reads -/

def getAgentQueueWorkflowRunByRequest (workspaceId requestId : String) :
    Option AgentQueueWorkflowRunRow :=
  s.agentQueueWorkflowRuns.find fun r => r.workspaceId == workspaceId && r.requestId == requestId

def listAgentQueueWorkflowActions (workspaceId workflowRunId : String) :
    List AgentQueueWorkflowActionRow :=
  s.agentQueueWorkflowActions.select
    (fun r => r.workspaceId == workspaceId && r.workflowRunId == workflowRunId)
    workflowActionOrder

/-- `ORDER BY created_at DESC, message_id DESC`. -/
def listAgentQueueReviewMessages (workspaceId queueTaskId : String) :
    List AgentQueueReviewMessageRow :=
  s.agentQueueReviewMessages.select
    (fun r => r.workspaceId == workspaceId && r.queueTaskId == queueTaskId)
    latestReviewMessageOrder

def getAgentQueueWorkerEvidenceBundleById (workspaceId bundleId : String) :
    Option AgentQueueWorkerEvidenceBundleRow :=
  s.agentQueueWorkerEvidenceBundles.find fun r =>
    r.workspaceId == workspaceId && r.bundleId == bundleId

/-! ## Runs -/

def insertAgentQueueWorkflowRun (row : AgentQueueWorkflowRunRow) :
    Except StorageError (AgentQueueWorkflowRunRow × SqliteStore) :=
  inserted (s.hasWorkspace row.workspaceId) s.agentQueueWorkflowRuns row
    fun t => { s with agentQueueWorkflowRuns := t }

/-- The `UPDATE` of the run with the given id, and the row read back. -/
def updateWorkflowRunRow (workspaceId workflowRunId : String)
    (f : AgentQueueWorkflowRunRow → AgentQueueWorkflowRunRow)
    (hf : ∀ r, Row.keys (f r) = Row.keys r) :
    Except StorageError (Option AgentQueueWorkflowRunRow × SqliteStore) :=
  let s' := { s with
    agentQueueWorkflowRuns :=
      s.agentQueueWorkflowRuns.update (namedRun workspaceId workflowRunId) f hf }
  .ok (s'.getAgentQueueWorkflowRun workspaceId workflowRunId, s')

def updateAgentQueueWorkflowRunStatus (workspaceId workflowRunId : String)
    (update : AgentQueueWorkflowRunStatusUpdate) :
    Except StorageError (Option AgentQueueWorkflowRunRow × SqliteStore) :=
  s.updateWorkflowRunRow workspaceId workflowRunId update.apply fun _ => rfl

def updateAgentQueueWorkflowRunReport (workspaceId workflowRunId : String)
    (update : AgentQueueWorkflowRunReportUpdate) :
    Except StorageError (Option AgentQueueWorkflowRunRow × SqliteStore) :=
  s.updateWorkflowRunRow workspaceId workflowRunId update.apply fun _ => rfl

/-- The phase is set as it is given, and the column is `NOT NULL`. -/
def updateAgentQueueWorkflowRunReportReopened (workspaceId workflowRunId : String)
    (update : AgentQueueWorkflowRunReportUpdate) :
    Except StorageError (Option AgentQueueWorkflowRunRow × SqliteStore) :=
  match update.phase with
  | some phase =>
      s.updateWorkflowRunRow workspaceId workflowRunId (update.reopen phase) fun _ => rfl
  | none =>
      if (s.getAgentQueueWorkflowRun workspaceId workflowRunId).isSome then
        .error (.constraintViolation "NOT NULL constraint failed: agent_queue_workflow_runs.phase")
      else .ok (none, s)

/-! ## Actions -/

/-- The `UPDATE` of the action with the given key, and the row read back. -/
def updateWorkflowActionRow (workspaceId workflowRunId idempotencyKey : String)
    (f : AgentQueueWorkflowActionRow → AgentQueueWorkflowActionRow)
    (hf : ∀ r, Row.keys (f r) = Row.keys r) :
    Except StorageError (Option AgentQueueWorkflowActionRow × SqliteStore) :=
  let named := namedAction workspaceId workflowRunId idempotencyKey
  let s' := { s with
    agentQueueWorkflowActions := s.agentQueueWorkflowActions.update named f hf }
  if (s.agentQueueWorkflowActions.find named).isSome then
    .ok (s'.getAgentQueueWorkflowActionByIdempotencyKey workflowRunId idempotencyKey, s')
  else .ok (none, s')

def replaceAgentQueueWorkflowActionResolution (workspaceId workflowRunId idempotencyKey : String)
    (update : AgentQueueWorkflowActionUpdate) :
    Except StorageError (Option AgentQueueWorkflowActionRow × SqliteStore) :=
  s.updateWorkflowActionRow workspaceId workflowRunId idempotencyKey update.replace fun _ => rfl

def replaceAgentQueueWorkflowActionRefsAndResolution
    (workspaceId workflowRunId idempotencyKey : String) (targetRefsJson : Option JsonText)
    (update : AgentQueueWorkflowActionUpdate) :
    Except StorageError (Option AgentQueueWorkflowActionRow × SqliteStore) :=
  s.updateWorkflowActionRow workspaceId workflowRunId idempotencyKey
    (fun r => { update.replace r with targetRefsJson := targetRefsJson }) fun _ => rfl

/-! ## What the statements do -/

variable {s}

@[simp] theorem updateWorkflowRunRow_ok {workspaceId workflowRunId : String}
    {f : AgentQueueWorkflowRunRow → AgentQueueWorkflowRunRow}
    {hf : ∀ r, Row.keys (f r) = Row.keys r} {row : Option AgentQueueWorkflowRunRow}
    {t : SqliteStore} :
    s.updateWorkflowRunRow workspaceId workflowRunId f hf = .ok (row, t) ↔
      t = { s with
        agentQueueWorkflowRuns :=
          s.agentQueueWorkflowRuns.update (namedRun workspaceId workflowRunId) f hf } ∧
      row = t.getAgentQueueWorkflowRun workspaceId workflowRunId := by
  simp only [updateWorkflowRunRow, Except.ok.injEq, Prod.mk.injEq]
  constructor
  · rintro ⟨rfl, rfl⟩
    exact ⟨rfl, rfl⟩
  · rintro ⟨rfl, rfl⟩
    exact ⟨rfl, rfl⟩

/-- An `UPDATE` of an action changes nothing but the table of actions. -/
theorem updateWorkflowActionRow_ok {workspaceId workflowRunId idempotencyKey : String}
    {f : AgentQueueWorkflowActionRow → AgentQueueWorkflowActionRow}
    {hf : ∀ r, Row.keys (f r) = Row.keys r} {row : Option AgentQueueWorkflowActionRow}
    {t : SqliteStore}
    (h : s.updateWorkflowActionRow workspaceId workflowRunId idempotencyKey f hf = .ok (row, t)) :
    t = { s with
      agentQueueWorkflowActions := s.agentQueueWorkflowActions.update
        (namedAction workspaceId workflowRunId idempotencyKey) f hf } := by
  simp only [updateWorkflowActionRow] at h
  split at h
  · exact (Prod.mk.inj (Except.ok.inj h)).2.symm
  · exact (Prod.mk.inj (Except.ok.inj h)).2.symm

/-- An action recorded is a new row, or the one that is there under the same key. -/
theorem insertAgentQueueWorkflowAction_ok {row row' : AgentQueueWorkflowActionRow}
    {t : SqliteStore} (h : s.insertAgentQueueWorkflowAction row = .ok (row', t)) :
    ∃ actions', t = { s with agentQueueWorkflowActions := actions' } := by
  simp only [insertAgentQueueWorkflowAction] at h
  split at h
  · cases h
  split at h
  · cases h
  split at h
  · split at h
    · obtain ⟨-, rfl⟩ := Prod.mk.inj (Except.ok.inj h)
      exact ⟨_, rfl⟩
    · cases h
  · obtain ⟨-, -, actions', -, rfl⟩ := inserted_ok.1 h
    exact ⟨actions', rfl⟩

end SqliteStore
end HobitQueue
