import HobitQueue.Lib.Program
import HobitQueue.Store.Rows

/-!
# Statements of the SQLite store

Each read is a function of the store; each write is a function from the store to
its answer and the next store, or to the error SQLite reports. Foreign keys are
enforced: an `INSERT` needs its parents, and a `DELETE` of a task cascades to the
rows that belong to it and clears the references to what it removed.
-/

namespace HobitQueue

open Relational Concurrent

/-- The errors of a statement. `invalidParameterName` also carries the messages
of service checks made inside a transaction. -/
inductive StorageError where
  | invalidParameterName (message : String)
  | queryReturnedNoRows
  | constraintViolation (message : String)
  deriving DecidableEq, Repr

/-- A program over the store that fails with storage errors. -/
abbrev Sqlite (α : Type) : Type := StoreProg SqliteStore StorageError α

/-! ## Updates of a row -/

/-- The columns an `UPDATE` of a task writes; the optional ones are `COALESCE`d. -/
structure AgentQueueTaskUpdate where
  title : String
  description : String
  prompt : String
  status : String
  priority : ℤ
  dependsOn : Option JsonText
  executionPolicy : Option String
  executionWorkspace : Option String
  codexExecutable : Option String
  sandbox : Option String
  approvalPolicy : Option String
  contextJson : Option JsonText
  updatedAt : String

def AgentQueueTaskUpdate.apply (update : AgentQueueTaskUpdate) (r : AgentQueueTaskRow) :
    AgentQueueTaskRow :=
  { r with
    title := update.title
    description := update.description
    prompt := update.prompt
    status := update.status
    priority := update.priority
    dependsOn := update.dependsOn.getD r.dependsOn
    executionPolicy := update.executionPolicy.getD r.executionPolicy
    executionWorkspace := update.executionWorkspace
    codexExecutable := update.codexExecutable
    sandbox := update.sandbox
    approvalPolicy := update.approvalPolicy
    contextJson := update.contextJson.or r.contextJson
    updatedAt := update.updatedAt }

theorem AgentQueueTaskUpdate.keys_apply (update : AgentQueueTaskUpdate) (r : AgentQueueTaskRow) :
    Row.keys (update.apply r) = Row.keys r := rfl

/-- The columns that end a run link; the optional ones are `COALESCE`d. -/
structure AgentQueueTaskRunLinkFinalUpdate where
  status : String
  completedAt : Option String
  validationStatus : Option String
  reviewStatus : Option String
  updatedAt : String

/-- A run link ended by an update: its identity, its task and its place in the
order of runs are the ones it had. -/
def AgentQueueTaskRunLinkFinalUpdate.apply (update : AgentQueueTaskRunLinkFinalUpdate)
    (r : AgentQueueTaskRunLinkRow) : AgentQueueTaskRunLinkRow :=
  { r with
    status := update.status
    completedAt := update.completedAt.or r.completedAt
    validationStatus := update.validationStatus.or r.validationStatus
    reviewStatus := update.reviewStatus.or r.reviewStatus
    updatedAt := update.updatedAt }

theorem AgentQueueTaskRunLinkFinalUpdate.keys_apply (update : AgentQueueTaskRunLinkFinalUpdate)
    (r : AgentQueueTaskRunLinkRow) : Row.keys (update.apply r) = Row.keys r := rfl

/-- The columns an `ON CONFLICT DO UPDATE` takes from the row that was offered;
the bundle keeps its id and the time it was created. -/
def AgentQueueWorkerEvidenceBundleRow.supersede (new r : AgentQueueWorkerEvidenceBundleRow) :
    AgentQueueWorkerEvidenceBundleRow :=
  { new with
    bundleId := r.bundleId
    workspaceId := r.workspaceId
    queueTaskId := r.queueTaskId
    runId := r.runId
    createdAt := r.createdAt }

theorem AgentQueueWorkerEvidenceBundleRow.keys_supersede
    (new r : AgentQueueWorkerEvidenceBundleRow) :
    Row.keys (new.supersede r) = Row.keys r := rfl

/-- The columns that resolve an action; the optional ones are `COALESCE`d. -/
structure AgentQueueWorkflowActionUpdate where
  status : String
  resultRefsJson : Option JsonText
  blockerCode : Option String
  blockerMessage : Option String
  attemptCount : Option ℤ
  startedAt : Option String
  completedAt : Option String
  updatedAt : String

def AgentQueueWorkflowActionUpdate.apply (update : AgentQueueWorkflowActionUpdate)
    (r : AgentQueueWorkflowActionRow) : AgentQueueWorkflowActionRow :=
  { r with
    status := update.status
    resultRefsJson := update.resultRefsJson.or r.resultRefsJson
    blockerCode := update.blockerCode.or r.blockerCode
    blockerMessage := update.blockerMessage.or r.blockerMessage
    attemptCount := update.attemptCount.getD r.attemptCount
    startedAt := update.startedAt.or r.startedAt
    completedAt := update.completedAt.or r.completedAt
    updatedAt := update.updatedAt }

theorem WorkspaceRow.keys_touch (updatedAt : String) (r : WorkspaceRow) :
    Row.keys { r with updatedAt := updatedAt } = Row.keys r := rfl

namespace SqliteStore

variable (s : SqliteStore)

/-! ## Reads -/

def getWorkspace (id : String) : Option WorkspaceRow := s.workspaces.find (·.id == id)

def getWidgetInstance (id : String) : Option WidgetInstanceRow :=
  s.widgetInstances.find (·.id == id)

def getWidgetRun (id : String) : Option WidgetRunRow := s.widgetRuns.find (·.id == id)

def getAgentQueueTask (workspaceId queueItemId : String) : Option AgentQueueTaskRow :=
  s.agentQueueTasks.find fun r => r.workspaceId == workspaceId && r.queueItemId == queueItemId

def getAgentQueueTaskById (queueItemId : String) : Option AgentQueueTaskRow :=
  s.agentQueueTasks.find (·.queueItemId == queueItemId)

def listAgentQueueTasks (workspaceId : String) : List AgentQueueTaskRow :=
  s.agentQueueTasks.select (·.workspaceId == workspaceId) taskOrder

def getAgentQueueTaskRunLink (workspaceId linkId : String) : Option AgentQueueTaskRunLinkRow :=
  s.agentQueueTaskRunLinks.find fun r => r.workspaceId == workspaceId && r.linkId == linkId

def getLatestAgentQueueTaskRunLink (workspaceId queueTaskId : String) :
    Option AgentQueueTaskRunLinkRow :=
  s.agentQueueTaskRunLinks.latest
    (fun r => r.workspaceId == workspaceId && r.queueTaskId == queueTaskId) latestRunLinkOrder

def getAgentQueueTaskRunLinkByRunId (workspaceId directWorkRunId : String) :
    Option AgentQueueTaskRunLinkRow :=
  s.agentQueueTaskRunLinks.find fun r =>
    r.workspaceId == workspaceId && r.directWorkRunId == directWorkRunId

def getAgentQueueReviewMessage (workspaceId queueTaskId messageId : String) :
    Option AgentQueueReviewMessageRow :=
  s.agentQueueReviewMessages.find fun r =>
    r.workspaceId == workspaceId && r.queueTaskId == queueTaskId && r.messageId == messageId

def getLatestAgentQueueReviewMessage (workspaceId queueTaskId : String) :
    Option AgentQueueReviewMessageRow :=
  s.agentQueueReviewMessages.latest
    (fun r => r.workspaceId == workspaceId && r.queueTaskId == queueTaskId)
    latestReviewMessageOrder

def getAgentQueueWorkerEvidenceBundle (workspaceId queueTaskId runId : String) :
    Option AgentQueueWorkerEvidenceBundleRow :=
  s.agentQueueWorkerEvidenceBundles.find fun r =>
    r.workspaceId == workspaceId && r.queueTaskId == queueTaskId && r.runId == runId

def getLatestAgentQueueWorkerEvidenceBundle (workspaceId queueTaskId : String) :
    Option AgentQueueWorkerEvidenceBundleRow :=
  s.agentQueueWorkerEvidenceBundles.latest
    (fun r => r.workspaceId == workspaceId && r.queueTaskId == queueTaskId) latestEvidenceOrder

def getLatestAgentQueueCompletionDecision (workspaceId queueTaskId : String) :
    Option AgentQueueCompletionDecisionRow :=
  s.agentQueueCompletionDecisions.latest
    (fun r => r.workspaceId == workspaceId && r.queueTaskId == queueTaskId)
    latestCompletionDecisionOrder

def getLatestAgentQueueFailureDecision (workspaceId queueTaskId : String) :
    Option AgentQueueFailureDecisionRow :=
  s.agentQueueFailureDecisions.latest
    (fun r => r.workspaceId == workspaceId && r.queueTaskId == queueTaskId)
    latestFailureDecisionOrder

def getAgentQueueControlState (workspaceId : String) : Option AgentQueueControlStateRow :=
  s.agentQueueControlStates.find (·.workspaceId == workspaceId)

def getAgentQueueWorkflowRunById (workflowRunId : String) : Option AgentQueueWorkflowRunRow :=
  s.agentQueueWorkflowRuns.find (·.workflowRunId == workflowRunId)

def getAgentQueueWorkflowRun (workspaceId workflowRunId : String) :
    Option AgentQueueWorkflowRunRow :=
  s.agentQueueWorkflowRuns.find fun r =>
    r.workspaceId == workspaceId && r.workflowRunId == workflowRunId

/-- The lookup by key is not limited to a workspace. -/
def getAgentQueueWorkflowActionByIdempotencyKey (workflowRunId idempotencyKey : String) :
    Option AgentQueueWorkflowActionRow :=
  s.agentQueueWorkflowActions.find fun r =>
    r.workflowRunId == workflowRunId && r.idempotencyKey == idempotencyKey

/-! ## Constraints -/

/-- A reference is satisfied when it is `NULL` or names a parent. -/
def references (parent : String → Bool) (column : Option String) : Bool := column.all parent

def hasWorkspace (id : String) : Bool := (s.getWorkspace id).isSome
def hasWidgetInstance (id : String) : Bool := (s.getWidgetInstance id).isSome
def hasTask (id : String) : Bool := (s.getAgentQueueTaskById id).isSome
def hasRunLink (id : String) : Bool := (s.agentQueueTaskRunLinks.find (·.linkId == id)).isSome
def hasReviewMessage (id : String) : Bool :=
  (s.agentQueueReviewMessages.find (·.messageId == id)).isSome
def hasEvidenceBundle (id : String) : Bool :=
  (s.agentQueueWorkerEvidenceBundles.find (·.bundleId == id)).isSome
def hasWorkflowRun (id : String) : Bool := (s.getAgentQueueWorkflowRunById id).isSome

/-- The answer of an `INSERT`: the row and the store with the new table, unless a
parent is missing or a uniqueness constraint is violated. -/
def inserted {ρ : Type} [Row ρ] (parents : Bool) (t : Table ρ) (row : ρ)
    (put : Table ρ → SqliteStore) : Except StorageError (ρ × SqliteStore) :=
  if parents then
    match t.insert row with
    | some t' => .ok (row, put t')
    | none => .error (.constraintViolation "UNIQUE constraint failed")
  else .error (.constraintViolation "FOREIGN KEY constraint failed")

theorem inserted_ok {ρ : Type} [Row ρ] {parents : Bool} {t : Table ρ} {row r : ρ}
    {put : Table ρ → SqliteStore} {s' : SqliteStore} :
    inserted parents t row put = .ok (r, s') ↔
      parents = true ∧ r = row ∧ ∃ t', t.insert row = some t' ∧ s' = put t' := by
  unfold inserted
  by_cases h : parents
  · cases hi : t.insert row with
    | none => simp [h]
    | some t' =>
      simp only [h, ↓reduceIte, Except.ok.injEq, Prod.mk.injEq, Option.some.injEq,
        exists_eq_left', true_and]
      exact ⟨fun hx => ⟨hx.1.symm, hx.2.symm⟩, fun hx => ⟨hx.1.symm, hx.2.symm⟩⟩
  · simp [h]

/-! ## Inserts -/

def insertWidgetRun (row : WidgetRunRow) : Except StorageError (WidgetRunRow × SqliteStore) :=
  inserted (s.hasWidgetInstance row.widgetInstanceId) s.widgetRuns row
    fun t => { s with widgetRuns := t }

def createAgentQueueTask (row : AgentQueueTaskRow) :
    Except StorageError (AgentQueueTaskRow × SqliteStore) :=
  inserted (s.hasWorkspace row.workspaceId) s.agentQueueTasks row
    fun t => { s with agentQueueTasks := t }

def insertAgentQueueTaskRunLink (row : AgentQueueTaskRunLinkRow) :
    Except StorageError (AgentQueueTaskRunLinkRow × SqliteStore) :=
  inserted (s.hasWorkspace row.workspaceId && s.hasTask row.queueTaskId)
    s.agentQueueTaskRunLinks row fun t => { s with agentQueueTaskRunLinks := t }

def insertAgentQueueReviewMessage (row : AgentQueueReviewMessageRow) :
    Except StorageError (AgentQueueReviewMessageRow × SqliteStore) :=
  inserted
    (s.hasWorkspace row.workspaceId && s.hasTask row.queueTaskId &&
      references s.hasRunLink row.runLinkId)
    s.agentQueueReviewMessages row fun t => { s with agentQueueReviewMessages := t }

def insertAgentQueueCompletionDecision (row : AgentQueueCompletionDecisionRow) :
    Except StorageError (AgentQueueCompletionDecisionRow × SqliteStore) :=
  inserted
    (s.hasWorkspace row.workspaceId && s.hasTask row.queueTaskId &&
      references s.hasRunLink row.runLinkId &&
      references s.hasReviewMessage row.reviewMessageId)
    s.agentQueueCompletionDecisions row fun t => { s with agentQueueCompletionDecisions := t }

def insertAgentQueueFailureDecision (row : AgentQueueFailureDecisionRow) :
    Except StorageError (AgentQueueFailureDecisionRow × SqliteStore) :=
  inserted
    (s.hasWorkspace row.workspaceId && s.hasTask row.queueTaskId &&
      references s.hasRunLink row.runLinkId &&
      references s.hasEvidenceBundle row.evidenceBundleId &&
      references s.hasReviewMessage row.reviewMessageId)
    s.agentQueueFailureDecisions row fun t => { s with agentQueueFailureDecisions := t }

def insertAgentQueueControlState (row : AgentQueueControlStateRow) :
    Except StorageError (AgentQueueControlStateRow × SqliteStore) :=
  inserted (s.hasWorkspace row.workspaceId) s.agentQueueControlStates row
    fun t => { s with agentQueueControlStates := t }

def ensureAgentQueueControlState (row : AgentQueueControlStateRow) :
    Except StorageError (AgentQueueControlStateRow × SqliteStore) :=
  match s.getAgentQueueControlState row.workspaceId with
  | some existing => .ok (existing, s)
  | none => s.insertAgentQueueControlState row

/-! ## Updates -/

def touchWorkspace (workspaceId updatedAt : String) : Except StorageError (Unit × SqliteStore) :=
  .ok ((), { s with
    workspaces := s.workspaces.update (·.id == workspaceId)
      (fun r => { r with updatedAt := updatedAt }) fun _ => rfl })

/-- The `UPDATE` of the task with the given id, and the row read back. -/
def updateTaskRow (workspaceId queueItemId : String) (f : AgentQueueTaskRow → AgentQueueTaskRow)
    (hf : ∀ r, Row.keys (f r) = Row.keys r) :
    Except StorageError (Option AgentQueueTaskRow × SqliteStore) :=
  let s' := { s with
    agentQueueTasks := s.agentQueueTasks.update
      (fun r => r.workspaceId == workspaceId && r.queueItemId == queueItemId) f hf }
  .ok (s'.getAgentQueueTask workspaceId queueItemId, s')

def updateAgentQueueTask (workspaceId queueItemId : String) (update : AgentQueueTaskUpdate) :
    Except StorageError (Option AgentQueueTaskRow × SqliteStore) :=
  s.updateTaskRow workspaceId queueItemId update.apply fun _ => rfl

def updateAgentQueueTaskStatus (workspaceId queueItemId status updatedAt : String) :
    Except StorageError (Option AgentQueueTaskRow × SqliteStore) :=
  s.updateTaskRow workspaceId queueItemId
    (fun r => { r with status := status, updatedAt := updatedAt }) fun _ => rfl

def assignAgentQueueTaskToExecutor
    (workspaceId queueItemId executorWidgetInstanceId updatedAt : String) :
    Except StorageError (Option AgentQueueTaskRow × SqliteStore) :=
  if s.hasWidgetInstance executorWidgetInstanceId then
    s.updateTaskRow workspaceId queueItemId
      (fun r => { r with
        assignedExecutorWidgetId := some executorWidgetInstanceId
        updatedAt := updatedAt })
      fun _ => rfl
  else .error (.constraintViolation "FOREIGN KEY constraint failed")

def clearAgentQueueTaskAssignment (workspaceId queueItemId updatedAt : String) :
    Except StorageError (Option AgentQueueTaskRow × SqliteStore) :=
  s.updateTaskRow workspaceId queueItemId
    (fun r => { r with assignedExecutorWidgetId := none, updatedAt := updatedAt }) fun _ => rfl

def updateAgentQueueTaskRunLinkFinalStatus (workspaceId queueTaskId directWorkRunId : String)
    (update : AgentQueueTaskRunLinkFinalUpdate) :
    Except StorageError (Option AgentQueueTaskRunLinkRow × SqliteStore) :=
  let named := fun (r : AgentQueueTaskRunLinkRow) =>
    r.workspaceId == workspaceId && r.queueTaskId == queueTaskId &&
      r.directWorkRunId == directWorkRunId
  let s' := { s with
    agentQueueTaskRunLinks := s.agentQueueTaskRunLinks.update named update.apply fun _ => rfl }
  if (s.agentQueueTaskRunLinks.find named).isSome then
    .ok (s'.getAgentQueueTaskRunLinkByRunId workspaceId directWorkRunId, s')
  else .ok (none, s')

/-- The answer is the row read back; a run that is not there is an error. -/
def finishWidgetRun (runId status finishedAt : String) (summary : Option String) :
    Except StorageError (WidgetRunRow × SqliteStore) :=
  let s' := { s with
    widgetRuns := s.widgetRuns.update (·.id == runId)
      (fun r => { r with
        status := status, finishedAt := some finishedAt, summary := summary.or r.summary })
      fun _ => rfl }
  match s'.getWidgetRun runId with
  | some run => .ok (run, s')
  | none => .error .queryReturnedNoRows

/-- The `UPDATE` of an acknowledgement; the answer is whether there was a row for it. -/
def ackAgentQueueReviewMessage (workspaceId queueTaskId messageId : String)
    (status actorId ackedAt updatedAt : String) : Except StorageError (Bool × SqliteStore) :=
  let s' := { s with
    agentQueueReviewMessages := s.agentQueueReviewMessages.update
      (fun r => r.workspaceId == workspaceId && r.queueTaskId == queueTaskId &&
        r.messageId == messageId)
      (fun r => { r with
        status := status
        ackedAt := some ackedAt
        ackActorId := some actorId
        updatedAt := updatedAt })
      fun _ => rfl }
  .ok ((s.getAgentQueueReviewMessage workspaceId queueTaskId messageId).isSome, s')

def updateAgentQueueControlState (workspaceId status : String)
    (updatedByActorId reason : Option String) (updatedAt : String) :
    Except StorageError (Option AgentQueueControlStateRow × SqliteStore) :=
  let s' := { s with
    agentQueueControlStates := s.agentQueueControlStates.update (·.workspaceId == workspaceId)
      (fun r => { r with
        status := status
        version := r.version + 1
        updatedByActorId := updatedByActorId
        reason := reason
        updatedAt := updatedAt })
      fun _ => rfl }
  .ok (s'.getAgentQueueControlState workspaceId, s')

/-! ## Worker evidence -/

/-- `INSERT … ON CONFLICT(workspace_id, queue_task_id, run_id) DO UPDATE`. -/
def upsertAgentQueueWorkerEvidenceBundle (row : AgentQueueWorkerEvidenceBundleRow) :
    Except StorageError (AgentQueueWorkerEvidenceBundleRow × SqliteStore) :=
  let parents := s.hasWorkspace row.workspaceId && s.hasTask row.queueTaskId &&
    references s.hasRunLink row.runLinkId && references s.hasWidgetInstance row.executorWidgetId
  match s.getAgentQueueWorkerEvidenceBundle row.workspaceId row.queueTaskId row.runId with
  | none =>
      inserted parents s.agentQueueWorkerEvidenceBundles row
        fun t => { s with agentQueueWorkerEvidenceBundles := t }
  | some existing =>
      if parents then
        .ok (row.supersede existing, { s with
          agentQueueWorkerEvidenceBundles := s.agentQueueWorkerEvidenceBundles.update
            (fun r => r.workspaceId == row.workspaceId && r.queueTaskId == row.queueTaskId &&
              r.runId == row.runId)
            row.supersede fun _ => rfl })
      else .error (.constraintViolation "FOREIGN KEY constraint failed")

/-! ## Workflow actions -/

def workflowActionMatchesInput (existing input : AgentQueueWorkflowActionRow) : Bool :=
  existing.workspaceId == input.workspaceId && existing.workflowRunId == input.workflowRunId &&
    existing.stepId == input.stepId && existing.actionType == input.actionType &&
    existing.targetRefsJson == input.targetRefsJson &&
    existing.resultRefsJson == input.resultRefsJson

def insertAgentQueueWorkflowAction (row : AgentQueueWorkflowActionRow) :
    Except StorageError (AgentQueueWorkflowActionRow × SqliteStore) :=
  match s.getAgentQueueWorkflowRunById row.workflowRunId with
  | none =>
      .error (.invalidParameterName ("workflow run not found: " ++ row.workflowRunId))
  | some parent =>
    if parent.workspaceId != row.workspaceId then
      .error (.invalidParameterName
        ("workflow action workspace_id does not match parent run: " ++ row.workflowRunId))
    else
      match s.getAgentQueueWorkflowActionByIdempotencyKey row.workflowRunId
          row.idempotencyKey with
      | some existing =>
          if workflowActionMatchesInput existing row then .ok (existing, s)
          else .error (.invalidParameterName
            ("conflicting workflow action idempotency key: " ++ row.idempotencyKey))
      | none =>
          inserted (s.hasWorkflowRun row.workflowRunId && s.hasWorkspace row.workspaceId)
            s.agentQueueWorkflowActions row fun t => { s with agentQueueWorkflowActions := t }

def updateAgentQueueWorkflowAction (workspaceId workflowRunId idempotencyKey : String)
    (update : AgentQueueWorkflowActionUpdate) :
    Except StorageError (Option AgentQueueWorkflowActionRow × SqliteStore) :=
  let named := fun (r : AgentQueueWorkflowActionRow) =>
    r.workspaceId == workspaceId && r.workflowRunId == workflowRunId &&
      r.idempotencyKey == idempotencyKey
  let s' := { s with
    agentQueueWorkflowActions :=
      s.agentQueueWorkflowActions.update named update.apply fun _ => rfl }
  if (s.agentQueueWorkflowActions.find named).isSome then
    .ok (s'.getAgentQueueWorkflowActionByIdempotencyKey workflowRunId idempotencyKey, s')
  else .ok (none, s')

/-! ## Deletion -/

/-- A reference after the rows with the ids in `removed` are gone
(`ON DELETE SET NULL`). -/
def setNull (removed : String → Bool) (column : Option String) : Option String :=
  column.filter fun id => !removed id

/-- The store without a task: its links, messages, bundles and decisions go with
it (`ON DELETE CASCADE`). The `depends_on` lists of other tasks are text, and stay. -/
def withoutTask (queueItemId : String) : SqliteStore :=
  let link := fun id =>
    (s.agentQueueTaskRunLinks.find
      fun r => r.linkId == id && r.queueTaskId == queueItemId).isSome
  let message := fun id =>
    (s.agentQueueReviewMessages.find
      fun r => r.messageId == id && r.queueTaskId == queueItemId).isSome
  let bundle := fun id =>
    (s.agentQueueWorkerEvidenceBundles.find
      fun r => r.bundleId == id && r.queueTaskId == queueItemId).isSome
  { s with
    agentQueueTasks := s.agentQueueTasks.delete (·.queueItemId == queueItemId)
    agentQueueTaskRunLinks := s.agentQueueTaskRunLinks.delete (·.queueTaskId == queueItemId)
    agentQueueReviewMessages :=
      (s.agentQueueReviewMessages.delete (·.queueTaskId == queueItemId)).update
        (fun _ => true) (fun r => { r with runLinkId := setNull link r.runLinkId })
        fun _ => rfl
    agentQueueWorkerEvidenceBundles :=
      (s.agentQueueWorkerEvidenceBundles.delete (·.queueTaskId == queueItemId)).update
        (fun _ => true) (fun r => { r with runLinkId := setNull link r.runLinkId })
        fun _ => rfl
    agentQueueCompletionDecisions :=
      (s.agentQueueCompletionDecisions.delete (·.queueTaskId == queueItemId)).update
        (fun _ => true)
        (fun r => { r with
          runLinkId := setNull link r.runLinkId
          reviewMessageId := setNull message r.reviewMessageId })
        fun _ => rfl
    agentQueueFailureDecisions :=
      (s.agentQueueFailureDecisions.delete (·.queueTaskId == queueItemId)).update
        (fun _ => true)
        (fun r => { r with
          runLinkId := setNull link r.runLinkId
          reviewMessageId := setNull message r.reviewMessageId
          evidenceBundleId := setNull bundle r.evidenceBundleId })
        fun _ => rfl }

/-! ### Rows after a deletion -/

section WithoutTask

variable {s : SqliteStore} {queueItemId : String}

theorem completion_withoutTask {a : AgentQueueCompletionDecisionRow}
    (ha : a ∈ s.agentQueueCompletionDecisions) (hother : a.queueTaskId ≠ queueItemId) :
    ∃ b ∈ (s.withoutTask queueItemId).agentQueueCompletionDecisions, ∃ link message,
      b = { a with runLinkId := link, reviewMessageId := message } := by
  have hkept : (a.queueTaskId == queueItemId) = false := by simpa using hother
  simp only [withoutTask, Table.mem_update, Table.mem_delete]
  exact ⟨_, ⟨a, ⟨ha, hkept⟩, rfl⟩, _, _, rfl⟩

theorem completion_of_withoutTask {b : AgentQueueCompletionDecisionRow}
    (hb : b ∈ (s.withoutTask queueItemId).agentQueueCompletionDecisions) :
    ∃ a ∈ s.agentQueueCompletionDecisions, a.queueTaskId ≠ queueItemId ∧ ∃ link message,
      b = { a with runLinkId := link, reviewMessageId := message } := by
  simp only [withoutTask, Table.mem_update, Table.mem_delete] at hb
  obtain ⟨a, ⟨ha, hkept⟩, rfl⟩ := hb
  exact ⟨a, ha, by simpa using hkept, _, _, rfl⟩

theorem failure_withoutTask {a : AgentQueueFailureDecisionRow}
    (ha : a ∈ s.agentQueueFailureDecisions) (hother : a.queueTaskId ≠ queueItemId) :
    ∃ b ∈ (s.withoutTask queueItemId).agentQueueFailureDecisions, ∃ link message bundle,
      b = { a with
        runLinkId := link, reviewMessageId := message, evidenceBundleId := bundle } := by
  have hkept : (a.queueTaskId == queueItemId) = false := by simpa using hother
  simp only [withoutTask, Table.mem_update, Table.mem_delete]
  exact ⟨_, ⟨a, ⟨ha, hkept⟩, rfl⟩, _, _, _, rfl⟩

theorem message_of_withoutTask {b : AgentQueueReviewMessageRow}
    (hb : b ∈ (s.withoutTask queueItemId).agentQueueReviewMessages) :
    ∃ a ∈ s.agentQueueReviewMessages, a.queueTaskId ≠ queueItemId ∧ ∃ link,
      b = { a with runLinkId := link } := by
  simp only [withoutTask, Table.mem_update, Table.mem_delete] at hb
  obtain ⟨a, ⟨ha, hkept⟩, rfl⟩ := hb
  exact ⟨a, ha, by simpa using hkept, _, rfl⟩

theorem evidence_of_withoutTask {b : AgentQueueWorkerEvidenceBundleRow}
    (hb : b ∈ (s.withoutTask queueItemId).agentQueueWorkerEvidenceBundles) :
    ∃ a ∈ s.agentQueueWorkerEvidenceBundles, a.queueTaskId ≠ queueItemId ∧ ∃ link,
      b = { a with runLinkId := link } ∧ ∀ id ∈ link, a.runLinkId = some id := by
  simp only [withoutTask, Table.mem_update, Table.mem_delete] at hb
  obtain ⟨a, ⟨ha, hkept⟩, rfl⟩ := hb
  refine ⟨a, ha, by simpa using hkept, _, rfl, ?_⟩
  intro id hid
  exact (Option.filter_eq_some_iff.1 hid).1

/-- A bundle whose link is not one of the deleted task stays as it is. -/
theorem evidence_withoutTask {a : AgentQueueWorkerEvidenceBundleRow}
    (ha : a ∈ s.agentQueueWorkerEvidenceBundles) (hother : a.queueTaskId ≠ queueItemId)
    (hlink : ∀ id ∈ a.runLinkId, ∀ link ∈ s.agentQueueTaskRunLinks, link.linkId = id →
      link.queueTaskId ≠ queueItemId) :
    a ∈ (s.withoutTask queueItemId).agentQueueWorkerEvidenceBundles := by
  have hkept : (a.queueTaskId == queueItemId) = false := by simpa using hother
  simp only [withoutTask, Table.mem_update, Table.mem_delete]
  refine ⟨a, ⟨ha, hkept⟩, ?_⟩
  rw [if_pos trivial]
  refine congrArg (fun link => { a with runLinkId := link }) (?_ : _ = a.runLinkId)
  cases hid : a.runLinkId with
  | none => rfl
  | some id =>
    have hnone : s.agentQueueTaskRunLinks.find
        (fun r => r.linkId == id && r.queueTaskId == queueItemId) = none := by
      rw [Table.find_eq_none]
      intro link hmem
      by_contra hsel
      simp only [Bool.not_eq_false, Bool.and_eq_true, beq_iff_eq] at hsel
      exact hlink id hid link hmem hsel.1 hsel.2
    simp [setNull, hnone]

end WithoutTask

/-- The delete of a task, which takes its records along. -/
def deleteAgentQueueTask (workspaceId queueItemId : String) :
    Except StorageError (Bool × SqliteStore) :=
  match s.getAgentQueueTask workspaceId queueItemId with
  | none => .ok (false, s)
  | some _ => .ok (true, s.withoutTask queueItemId)

/-! ## Frames -/

/-- Two stores agree on the records of what was done with the tasks: run links,
review messages, evidence and decisions. -/
structure SameRecords (s t : SqliteStore) : Prop where
  runLinks : t.agentQueueTaskRunLinks = s.agentQueueTaskRunLinks
  reviewMessages : t.agentQueueReviewMessages = s.agentQueueReviewMessages
  evidence : t.agentQueueWorkerEvidenceBundles = s.agentQueueWorkerEvidenceBundles
  completions : t.agentQueueCompletionDecisions = s.agentQueueCompletionDecisions
  failures : t.agentQueueFailureDecisions = s.agentQueueFailureDecisions

end SqliteStore

/-! ## Lookups by key -/

/-- A task is found under its id in its workspace. -/
theorem getAgentQueueTask_eq_some {s : SqliteStore} {w q : String} {row : AgentQueueTaskRow} :
    s.getAgentQueueTask w q = some row ↔
      row ∈ s.agentQueueTasks ∧ row.workspaceId = w ∧ row.queueItemId = q := by
  rw [SqliteStore.getAgentQueueTask, Table.find_eq_some]
  · simp
  · intro a b ha hb
    simp only [Bool.and_eq_true, beq_iff_eq] at ha hb
    exact ⟨("queue_item_id", [a.queueItemId]), by simp [Row.keys],
      by simp [Row.keys, ha.2, hb.2]⟩

/-- A task is found under its id. -/
theorem getAgentQueueTaskById_eq_some {s : SqliteStore} {q : String} {row : AgentQueueTaskRow} :
    s.getAgentQueueTaskById q = some row ↔ row ∈ s.agentQueueTasks ∧ row.queueItemId = q := by
  rw [SqliteStore.getAgentQueueTaskById, Table.find_eq_some]
  · simp
  · intro a b ha hb
    simp only [beq_iff_eq] at ha hb
    exact ⟨("queue_item_id", [a.queueItemId]), by simp [Row.keys], by simp [Row.keys, ha, hb]⟩

end HobitQueue
