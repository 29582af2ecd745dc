import HobitQueue.Lib.Json
import HobitQueue.Lib.Table
import Mathlib.Data.String.Basic

/-!
# The Queue tables

The rows of the SQLite store as the Queue services read and write them, with the
`PRIMARY KEY` and `UNIQUE` constraints of the schema. A column that no modelled
service reads is left out. A JSON column is a `JsonText`.
-/

namespace HobitQueue

open Relational

structure WorkspaceRow where
  id : String
  rootPath : Option String
  updatedAt : String
  deriving DecidableEq

instance : Row WorkspaceRow where
  keys r := [("id", [r.id])]

structure WorkspaceWorkbenchRow where
  id : String
  workspaceId : String
  deriving DecidableEq

instance : Row WorkspaceWorkbenchRow where
  keys r := [("id", [r.id])]

structure WidgetInstanceRow where
  id : String
  workspaceId : String
  workbenchId : String
  definitionId : String
  deriving DecidableEq

instance : Row WidgetInstanceRow where
  keys r := [("id", [r.id])]

structure WidgetRunRow where
  id : String
  widgetInstanceId : String
  status : String
  commandKind : Option String
  startedAt : String
  finishedAt : Option String
  summary : Option String
  deriving DecidableEq

instance : Row WidgetRunRow where
  keys r := [("id", [r.id])]

structure AgentQueueTaskRow where
  queueItemId : String
  workspaceId : String
  title : String
  description : String
  prompt : String
  status : String
  priority : ℤ
  dependsOn : JsonText
  executionPolicy : String
  executionWorkspace : Option String
  codexExecutable : Option String
  sandbox : Option String
  approvalPolicy : Option String
  contextJson : Option JsonText
  assignedExecutorWidgetId : Option String
  createdAt : String
  updatedAt : String
  deriving DecidableEq

instance : Row AgentQueueTaskRow where
  keys r := [("queue_item_id", [r.queueItemId])]

structure AgentQueueTaskRunLinkRow where
  linkId : String
  workspaceId : String
  queueTaskId : String
  executorWidgetId : String
  directWorkRunId : String
  source : String
  status : String
  startedAt : String
  completedAt : Option String
  validationStatus : Option String
  reviewStatus : Option String
  createdAt : String
  updatedAt : String
  deriving DecidableEq

instance : Row AgentQueueTaskRunLinkRow where
  keys r := [("link_id", [r.linkId]), ("direct_work_run_id", [r.directWorkRunId])]

structure AgentQueueReviewMessageRow where
  messageId : String
  workspaceId : String
  queueTaskId : String
  runId : Option String
  runLinkId : Option String
  actorId : String
  messageBody : String
  status : String
  createdAt : String
  ackedAt : Option String
  ackActorId : Option String
  metadataJson : Option String
  updatedAt : String
  deriving DecidableEq

instance : Row AgentQueueReviewMessageRow where
  keys r := [("message_id", [r.messageId])]

structure AgentQueueWorkerEvidenceBundleRow where
  bundleId : String
  workspaceId : String
  queueTaskId : String
  runId : String
  runLinkId : Option String
  executorWidgetId : Option String
  workerId : Option String
  source : String
  outcome : String
  summary : String
  changedFilesJson : JsonText
  changedFilesCount : ℤ
  changedFilesSummary : Option String
  validationSummary : Option String
  errorSummary : Option String
  metadataJson : Option String
  createdAt : String
  updatedAt : String
  deriving DecidableEq

instance : Row AgentQueueWorkerEvidenceBundleRow where
  keys r :=
    [("bundle_id", [r.bundleId]),
      ("workspace_id, queue_task_id, run_id", [r.workspaceId, r.queueTaskId, r.runId])]

structure AgentQueueCompletionDecisionRow where
  decisionId : String
  workspaceId : String
  queueTaskId : String
  runId : Option String
  runLinkId : Option String
  reviewMessageId : Option String
  actorId : String
  decision : String
  reason : Option String
  metadataJson : Option String
  createdAt : String
  deriving DecidableEq

instance : Row AgentQueueCompletionDecisionRow where
  keys r :=
    [("decision_id", [r.decisionId]),
      ("workspace_id, queue_task_id", [r.workspaceId, r.queueTaskId])]

structure AgentQueueFailureDecisionRow where
  decisionId : String
  workspaceId : String
  queueTaskId : String
  runId : Option String
  runLinkId : Option String
  evidenceBundleId : Option String
  reviewMessageId : Option String
  actorId : String
  decision : String
  reason : String
  metadataJson : Option String
  createdAt : String
  deriving DecidableEq

instance : Row AgentQueueFailureDecisionRow where
  keys r :=
    [("decision_id", [r.decisionId]),
      ("workspace_id, queue_task_id", [r.workspaceId, r.queueTaskId])]

structure AgentQueueControlStateRow where
  workspaceId : String
  status : String
  version : ℤ
  updatedByActorId : Option String
  reason : Option String
  createdAt : String
  updatedAt : String
  deriving DecidableEq

instance : Row AgentQueueControlStateRow where
  keys r := [("workspace_id", [r.workspaceId])]

structure AgentQueueWorkflowRunRow where
  workflowRunId : String
  workspaceId : String
  workflowId : String
  requestId : String
  requestHash : String
  status : String
  phase : String
  currentStep : Option String
  pauseReason : Option String
  blockerReason : Option String
  actorId : Option String
  inputsSnapshotJson : Option JsonText
  grantSummaryJson : Option JsonText
  variablesJson : Option JsonText
  slotBindingsJson : Option JsonText
  mutationRefsJson : Option JsonText
  idempotencyKeysJson : Option JsonText
  actionLogSummaryJson : Option JsonText
  version : ℤ
  schemaVersion : ℤ
  createdAt : String
  updatedAt : String
  completedAt : Option String
  deriving DecidableEq

instance : Row AgentQueueWorkflowRunRow where
  keys r :=
    [("workflow_run_id", [r.workflowRunId]),
      ("workspace_id, request_id", [r.workspaceId, r.requestId])]

structure AgentQueueWorkflowActionRow where
  actionId : String
  workflowRunId : String
  workspaceId : String
  stepId : String
  actionType : String
  idempotencyKey : String
  status : String
  targetRefsJson : Option JsonText
  resultRefsJson : Option JsonText
  blockerCode : Option String
  blockerMessage : Option String
  attemptCount : ℤ
  startedAt : Option String
  completedAt : Option String
  createdAt : String
  updatedAt : String
  deriving DecidableEq

instance : Row AgentQueueWorkflowActionRow where
  keys r :=
    [("action_id", [r.actionId]),
      ("workflow_run_id, idempotency_key", [r.workflowRunId, r.idempotencyKey])]

/-! ## Sort orders

Every order ends in the primary key, so it has no ties. -/

/-- `ORDER BY priority, updated_at, created_at, queue_item_id`. -/
def taskOrder : SortKey AgentQueueTaskRow (ℤ ×ₗ String ×ₗ String ×ₗ String) where
  rank r := toLex (r.priority, toLex (r.updatedAt, toLex (r.createdAt, r.queueItemId)))
  clash_of_rank_eq a b h := by
    simp only [EmbeddingLike.apply_eq_iff_eq, Prod.mk.injEq] at h
    exact ⟨_, List.mem_singleton.2 rfl, by simp [Row.keys, h]⟩

/-- `ORDER BY started_at, created_at, link_id`. -/
def latestRunLinkOrder : SortKey AgentQueueTaskRunLinkRow (String ×ₗ String ×ₗ String) where
  rank r := toLex (r.startedAt, toLex (r.createdAt, r.linkId))
  clash_of_rank_eq a b h := by
    simp only [EmbeddingLike.apply_eq_iff_eq, Prod.mk.injEq] at h
    exact ⟨("link_id", [a.linkId]), by simp [Row.keys], by simp [Row.keys, h]⟩

/-- `ORDER BY updated_at, created_at, bundle_id`. -/
def latestEvidenceOrder :
    SortKey AgentQueueWorkerEvidenceBundleRow (String ×ₗ String ×ₗ String) where
  rank r := toLex (r.updatedAt, toLex (r.createdAt, r.bundleId))
  clash_of_rank_eq a b h := by
    simp only [EmbeddingLike.apply_eq_iff_eq, Prod.mk.injEq] at h
    exact ⟨("bundle_id", [a.bundleId]), by simp [Row.keys], by simp [Row.keys, h]⟩

/-- `ORDER BY created_at, message_id`. -/
def latestReviewMessageOrder : SortKey AgentQueueReviewMessageRow (String ×ₗ String) where
  rank r := toLex (r.createdAt, r.messageId)
  clash_of_rank_eq a b h := by
    simp only [EmbeddingLike.apply_eq_iff_eq, Prod.mk.injEq] at h
    exact ⟨("message_id", [a.messageId]), by simp [Row.keys], by simp [Row.keys, h]⟩

/-- `ORDER BY created_at, decision_id`. -/
def latestCompletionDecisionOrder :
    SortKey AgentQueueCompletionDecisionRow (String ×ₗ String) where
  rank r := toLex (r.createdAt, r.decisionId)
  clash_of_rank_eq a b h := by
    simp only [EmbeddingLike.apply_eq_iff_eq, Prod.mk.injEq] at h
    exact ⟨("decision_id", [a.decisionId]), by simp [Row.keys], by simp [Row.keys, h]⟩

/-- `ORDER BY created_at, decision_id`. -/
def latestFailureDecisionOrder :
    SortKey AgentQueueFailureDecisionRow (String ×ₗ String) where
  rank r := toLex (r.createdAt, r.decisionId)
  clash_of_rank_eq a b h := by
    simp only [EmbeddingLike.apply_eq_iff_eq, Prod.mk.injEq] at h
    exact ⟨("decision_id", [a.decisionId]), by simp [Row.keys], by simp [Row.keys, h]⟩

/-- The store. -/
structure SqliteStore where
  workspaces : Table WorkspaceRow
  workspaceWorkbenches : Table WorkspaceWorkbenchRow
  widgetInstances : Table WidgetInstanceRow
  widgetRuns : Table WidgetRunRow
  agentQueueTasks : Table AgentQueueTaskRow
  agentQueueTaskRunLinks : Table AgentQueueTaskRunLinkRow
  agentQueueReviewMessages : Table AgentQueueReviewMessageRow
  agentQueueWorkerEvidenceBundles : Table AgentQueueWorkerEvidenceBundleRow
  agentQueueCompletionDecisions : Table AgentQueueCompletionDecisionRow
  agentQueueFailureDecisions : Table AgentQueueFailureDecisionRow
  agentQueueControlStates : Table AgentQueueControlStateRow
  agentQueueWorkflowRuns : Table AgentQueueWorkflowRunRow
  agentQueueWorkflowActions : Table AgentQueueWorkflowActionRow

end HobitQueue
