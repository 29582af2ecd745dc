import HobitQueue.Service.Completion

/-!
# Terminal failure

An operator gives up a task whose review message is acknowledged. The decision names
the run of the latest evidence, the evidence and the message; the transaction that
inserts it also sets the task to failed.
-/

namespace HobitQueue

open Concurrent StoreProg Relational

def agentQueueFailureConfirmationToken : String := "operator-confirmed"
def agentQueueFailureDecisionFailed : String := "failed"

structure FailAgentQueueItemInput where
  workspaceId : String
  queueItemId : String
  actorId : String
  confirmationToken : String
  reason : String
  runId : Option String
  evidenceBundleId : Option String
  reviewMessageId : Option String

structure AgentQueueFailureDecisionSummary where
  decisionId : String
  workspaceId : String
  queueItemId : String
  runId : Option String
  runLinkId : Option String
  evidenceBundleId : Option String
  reviewMessageId : Option String
  actorId : String
  decision : String
  reason : String
  metadataJson : Option String
  createdAt : String
  deriving DecidableEq

inductive AgentQueueFailureCommandStatus where
  | succeeded | blocked | invalidInput | alreadyDone | alreadyFailed | preconditionFailed
  deriving DecidableEq, Repr

abbrev AgentQueueFailureCommandBlocker := OperatorCommandBlocker

structure AgentQueueFailureCommandResult where
  status : AgentQueueFailureCommandStatus
  workspaceId : String
  queueItemId : String
  runId : Option String
  reviewMessageId : Option String
  evidenceBundleId : Option String
  decisionId : Option String
  durable : Bool
  failureDecision : Option AgentQueueFailureDecisionSummary
  aggregate : Option QueueItemAggregate
  blocker : Option AgentQueueFailureCommandBlocker
  deriving DecidableEq

def agentQueueFailureDecisionSummary (row : AgentQueueFailureDecisionRow) :
    AgentQueueFailureDecisionSummary :=
  { row with queueItemId := row.queueTaskId }

/-! ## Refusals -/

/-- A refusal before the aggregate is read. -/
def failureRefused (status : AgentQueueFailureCommandStatus)
    (workspaceId queueItemId code message : String)
    (missingRequiredField nextSuggestedCapability : Option String) :
    AgentQueueFailureCommandResult :=
  { status := status
    workspaceId := workspaceId
    queueItemId := queueItemId
    runId := none
    reviewMessageId := none
    evidenceBundleId := none
    decisionId := none
    durable := false
    failureDecision := none
    aggregate := none
    blocker := some (blockerWithoutAggregate queueItemId code message missingRequiredField
      nextSuggestedCapability) }

def failureInvalidInput (workspaceId queueItemId missingRequiredField message : String) :
    AgentQueueFailureCommandResult :=
  failureRefused .invalidInput workspaceId queueItemId ("missing_" ++ missingRequiredField)
    message (some missingRequiredField) none

def failureBlockedWithoutAggregate (status : AgentQueueFailureCommandStatus)
    (workspaceId queueItemId code message : String) (nextSuggestedCapability : Option String) :
    AgentQueueFailureCommandResult :=
  failureRefused status workspaceId queueItemId code message none nextSuggestedCapability

def failureBlockedFromAggregate (task : OperatorTask) (view : OperatorView)
    (status : AgentQueueFailureCommandStatus) (code message nextSuggestedCapability : String) :
    AgentQueueFailureCommandResult :=
  { status := status
    workspaceId := task.workspaceId
    queueItemId := task.queueItemId
    runId := view.runId
    reviewMessageId := view.reviewMessageId
    evidenceBundleId := view.evidenceBundleId
    decisionId := none
    durable := false
    failureDecision := none
    aggregate := some view.aggregate
    blocker := some (view.blocker task.queueItemId code message nextSuggestedCapability) }

def failureAlreadyDone (task : OperatorTask) (aggregate : Option QueueItemAggregate) :
    AgentQueueFailureCommandResult :=
  { status := .alreadyDone
    workspaceId := task.workspaceId
    queueItemId := task.queueItemId
    runId := none
    reviewMessageId := none
    evidenceBundleId := none
    decisionId := none
    durable := false
    failureDecision := none
    aggregate := aggregate
    blocker := none }

def failureAlreadyFailed (task : OperatorTask) (decision : AgentQueueFailureDecisionRow)
    (aggregate : Option QueueItemAggregate) : AgentQueueFailureCommandResult :=
  { status := .alreadyFailed
    workspaceId := task.workspaceId
    queueItemId := task.queueItemId
    runId := decision.runId
    reviewMessageId := decision.reviewMessageId
    evidenceBundleId := decision.evidenceBundleId
    decisionId := some decision.decisionId
    durable := true
    failureDecision := some (agentQueueFailureDecisionSummary decision)
    aggregate := aggregate
    blocker := none }

/-! ## Preconditions -/

/-- The checks on the state of the task, before its evidence is looked at. -/
def validateFailState (task : OperatorTask) (view : OperatorView) :
    Except AgentQueueFailureCommandResult Unit := do
  let aggregate := view.aggregate
  let blocked := failureBlockedFromAggregate task view
  refuseIf (aggregate.ticketState = .draft)
    (blocked .preconditionFailed "task_is_draft"
      "Draft Queue tasks cannot be failed by queue.item.fail." "queue.item.updateRunSettings")
  refuseIf (workerNotStarted aggregate)
    (blocked .blocked "task_is_queued"
      ("Queue tasks require durable worker evidence and ACKed review before " ++
        "queue.item.fail.") "queue.item.startRun")
  refuseIf (workerStillRunning aggregate)
    (blocked .blocked "worker_running"
      "Queue worker run is still active; terminal failure cannot be recorded."
      "queue.lifecycle.get")

/-- The checks on the evidence; its outcome does not matter. -/
def validateFailedEvidence (task : OperatorTask) (view : OperatorView)
    (requestedRunId requestedEvidenceBundleId : Option String) :
    Except AgentQueueFailureCommandResult AgentQueueWorkerEvidenceBundleRow :=
  let blocked := failureBlockedFromAggregate task view
  match view.evidence with
  | none => .error (blocked .blocked "durable_worker_evidence_required"
      "Durable worker evidence is required before queue.item.fail."
      "queue.lifecycle.agentFinished")
  | some evidence => do
      refuseIf (requestedRunId.any (evidence.runId != ·))
        (blocked .preconditionFailed "run_id_mismatch" ("The supplied runId does not match the " ++
          "latest durable worker evidence for this Queue task.")
          "queue.review.getEvidenceBundle")
      refuseIf (requestedEvidenceBundleId.any (evidence.bundleId != ·))
        (blocked .preconditionFailed "evidence_bundle_id_mismatch" ("The supplied " ++
          "evidenceBundleId does not match the latest durable worker evidence for this Queue " ++
          "task.") "queue.review.getEvidenceBundle")
      pure evidence

/-- The checks on the review message. -/
def validateFailedReview (task : OperatorTask) (view : OperatorView)
    (requestedReviewMessageId : Option String) :
    Except AgentQueueFailureCommandResult AgentQueueReviewMessageRow :=
  let blocked := failureBlockedFromAggregate task view
  match view.reviewMessage with
  | none => .error (blocked .blocked "review_message_required"
      "A backend review message must exist before queue.item.fail." "queue.review.createMessage")
  | some message => do
      refuseIf (requestedReviewMessageId.any (message.messageId != ·))
        (blocked .preconditionFailed "message_id_mismatch" ("The supplied messageId does not " ++
          "match the latest backend review message for this Queue task.")
          "queue.lifecycle.get")
      refuseIf (message.status ≠ reviewMessageStatusAcknowledged)
        (blocked .blocked "review_not_acked"
          "The backend review message must be ACKed before queue.item.fail."
          "queue.review.ack")
      pure message

/-- The checks of the command, and the evidence and the message it goes on with. -/
def validateFailPrecondition (task : OperatorTask) (view : OperatorView)
    (requestedRunId requestedEvidenceBundleId requestedReviewMessageId : Option String) :
    Except AgentQueueFailureCommandResult
      (AgentQueueWorkerEvidenceBundleRow × AgentQueueReviewMessageRow) := do
  let aggregate := view.aggregate
  let blocked := failureBlockedFromAggregate task view
  validateFailState task view
  let evidence ← validateFailedEvidence task view requestedRunId requestedEvidenceBundleId
  let message ← validateFailedReview task view requestedReviewMessageId
  refuseIf (aggregate.evidenceState ≠ .available)
    (blocked .blocked "durable_worker_evidence_required"
      "Durable worker evidence is required before queue.item.fail."
      "queue.lifecycle.agentFinished")
  refuseIf (aggregate.ticketState ≠ .inReview ∨ aggregate.reviewState ≠ .inReview)
    (blocked .preconditionFailed "failure_precondition_failed"
      ("queue.item.fail requires backend aggregate state in_review with ACKed durable " ++
        "review evidence.") "queue.lifecycle.get")
  pure (evidence, message)

/-! ## The command -/

/-- The trimmed input. -/
structure FailRequest extends OperatorTask where
  actorId : String
  reason : String
  requestedRunId : Option String
  requestedEvidenceBundleId : Option String
  requestedReviewMessageId : Option String

/-- The request to fail a task, checked. -/
def failRequest (input : FailAgentQueueItemInput) :
    Except AgentQueueFailureCommandResult FailRequest := do
  let invalid := failureInvalidInput (Text.trim input.workspaceId) (Text.trim input.queueItemId)
  let task ← operatorTask input.workspaceId input.queueItemId invalid
  let actorId := Text.trim input.actorId
  let reason := Text.trim input.reason
  refuseIf (actorId == "") (invalid "actorId" "actorId is required.")
  refuseIf (Text.trim input.confirmationToken != agentQueueFailureConfirmationToken)
    (invalid "confirmationToken" "Exact structured confirmationToken is required.")
  refuseIf (reason == "") (invalid "reason" "A visible failure reason is required.")
  pure {
    task with
    actorId := actorId
    reason := reason
    requestedRunId := Text.optionalTrimmed input.runId
    requestedEvidenceBundleId := Text.optionalTrimmed input.evidenceBundleId
    requestedReviewMessageId := Text.optionalTrimmed input.reviewMessageId }

/-- The decision: it names the run of the evidence, the evidence and the message. -/
def failureDecision (d : Draws) (request : FailRequest)
    (evidence : AgentQueueWorkerEvidenceBundleRow) (message : AgentQueueReviewMessageRow) :
    AgentQueueFailureDecisionRow :=
  { decisionId := d.placeholderId "queue-failure-decision-" 1
    workspaceId := request.workspaceId
    queueTaskId := request.queueItemId
    runId := some evidence.runId
    runLinkId := evidence.runLinkId
    evidenceBundleId := some evidence.bundleId
    reviewMessageId := some message.messageId
    actorId := request.actorId
    decision := agentQueueFailureDecisionFailed
    reason := request.reason
    metadataJson := none
    createdAt := d.timestamp 0 }

/-- The transaction that records the decision and sets the task to failed. -/
def recordFailure (d : Draws) (request : FailRequest)
    (evidence : AgentQueueWorkerEvidenceBundleRow) (message : AgentQueueReviewMessageRow) :
    Service AgentQueueFailureDecisionRow :=
  withImmediateTransaction mapStorageAgentQueueTaskError do
    let row ← execute fun s => s.insertAgentQueueFailureDecision
      (failureDecision d request evidence message)
    let _ ← execute fun s => s.updateAgentQueueTaskStatus request.workspaceId
      request.queueItemId AgentQueueTaskLifecycleStatus.failed.asStr (d.timestamp 0)
    execute fun s => s.touchWorkspace request.workspaceId (d.timestamp 2)
    pure row

/-- The answer to a recorded failure. -/
def failureAnswer (request : FailRequest) (row : AgentQueueFailureDecisionRow) :
    Service AgentQueueFailureCommandResult := do
  let refreshed ← requireQueueItemAggregate request.workspaceId request.queueItemId
  pure {
    status := .succeeded
    workspaceId := request.workspaceId
    queueItemId := request.queueItemId
    runId := row.runId
    reviewMessageId := row.reviewMessageId
    evidenceBundleId := row.evidenceBundleId
    decisionId := some row.decisionId
    durable := true
    failureDecision := some (agentQueueFailureDecisionSummary row)
    aggregate := some refreshed
    blocker := none }

/-- The answer to a task that is decided already. -/
def failureOfDecidedTask (task : OperatorTask)
    (existing : Option AgentQueueFailureDecisionRow) :
    Service AgentQueueFailureCommandResult := do
  let refreshed ← getQueueItemAggregate task.workspaceId task.queueItemId
  match existing with
  | none => pure (failureAlreadyDone task refreshed)
  | some existing => pure (failureAlreadyFailed task existing refreshed)

/-- The command on a task that was found. -/
def failTask (d : Draws) (request : FailRequest) : Service AgentQueueFailureCommandResult := do
  let view ← readOperatorView request.toOperatorTask
  let latestCompletion ← query fun s =>
    s.getLatestAgentQueueCompletionDecision request.workspaceId request.queueItemId
  let latestFailure ← query fun s =>
    s.getLatestAgentQueueFailureDecision request.workspaceId request.queueItemId
  match latestCompletion, latestFailure, validateFailPrecondition request.toOperatorTask view
      request.requestedRunId request.requestedEvidenceBundleId
      request.requestedReviewMessageId with
  | some _, _, _ => failureOfDecidedTask request.toOperatorTask none
  | none, some existing, _ => failureOfDecidedTask request.toOperatorTask (some existing)
  | none, none, .error blocked => pure blocked
  | none, none, .ok (evidence, message) => do
      let row ← recordFailure d request evidence message
      failureAnswer request row

/-- The command that fails a task. -/
def failAgentQueueItem (d : Draws) (input : FailAgentQueueItemInput) :
    Service AgentQueueFailureCommandResult :=
  match failRequest input with
  | .error answer => pure answer
  | .ok request => withOperatorTask request.toOperatorTask "queue.item.fail"
      (failureBlockedWithoutAggregate .invalidInput request.workspaceId request.queueItemId)
      (failTask d request)

/-! ## What the command does -/

theorem validateFailPrecondition_ok {task : OperatorTask} {view : OperatorView}
    {requestedRunId requestedEvidenceBundleId requestedReviewMessageId : Option String}
    {evidence : AgentQueueWorkerEvidenceBundleRow} {message : AgentQueueReviewMessageRow}
    (h : validateFailPrecondition task view requestedRunId requestedEvidenceBundleId
      requestedReviewMessageId = .ok (evidence, message)) :
    view.aggregate.ticketState = .inReview := by
  simp only [validateFailPrecondition] at h
  rw [except_bind_ok] at h
  obtain ⟨_, -, h⟩ := h
  rw [except_bind_ok] at h
  obtain ⟨found, -, h⟩ := h
  rw [except_bind_ok] at h
  obtain ⟨review, -, h⟩ := h
  rw [refuseIf_bind_ok, refuseIf_bind_ok] at h
  obtain ⟨-, hticket, -⟩ := h
  have hticket' := not_or.1 (of_decide_eq_false hticket)
  exact not_not.1 hticket'.1

/-- A failure was recorded: the decision is new, and the task is failed. -/
def FailsTask (d : Draws) (request : FailRequest)
    (evidence : AgentQueueWorkerEvidenceBundleRow) (message : AgentQueueReviewMessageRow)
    (s t : SqliteStore) : Prop :=
  ∃ decisions' workspaces',
    s.agentQueueFailureDecisions.insert (failureDecision d request evidence message) =
      some decisions' ∧
    t = { s with
      agentQueueFailureDecisions := decisions'
      agentQueueTasks := s.agentQueueTasks.update
        (fun r => r.workspaceId == request.workspaceId && r.queueItemId == request.queueItemId)
        (setStatus "failed" (d.timestamp 0)) fun _ => rfl
      workspaces := workspaces' }

theorem recordFailure_effect {d : Draws} {request : FailRequest}
    {evidence : AgentQueueWorkerEvidenceBundleRow} {message : AgentQueueReviewMessageRow}
    {s t : SqliteStore} {r : Except WorkspaceServiceError AgentQueueFailureDecisionRow}
    (h : exec (recordFailure d request evidence message) s = (r, t)) :
    ((∃ e, r = .error e) ∧ t = s) ∨ FailsTask d request evidence message s t := by
  rcases exec_withImmediateTransaction h with ⟨row, -, hrun⟩ | ⟨⟨e, rfl⟩, rfl⟩
  · simp only [exec_bind_ok, exec_execute_ok, SqliteStore.insertAgentQueueFailureDecision,
      SqliteStore.inserted_ok, SqliteStore.updateAgentQueueTaskStatus,
      SqliteStore.updateTaskRow, SqliteStore.touchWorkspace, exec_pure, Except.ok.injEq,
      Prod.mk.injEq] at hrun
    obtain ⟨_, _, ⟨-, -, decisions', hins, rfl⟩, _, _, ⟨-, rfl⟩, _, _, ⟨-, rfl⟩, -, rfl⟩ := hrun
    exact Or.inr ⟨decisions', _, hins, rfl⟩
  · exact Or.inl ⟨⟨e, rfl⟩, rfl⟩

theorem readOnly_failureAnswer (request : FailRequest) (row : AgentQueueFailureDecisionRow) :
    (failureAnswer request row).ReadOnly :=
  (readOnly_requireQueueItemAggregate _ _).bind fun _ => readOnly_pure _

theorem readOnly_failureOfDecidedTask (task : OperatorTask)
    (existing : Option AgentQueueFailureDecisionRow) :
    (failureOfDecidedTask task existing).ReadOnly := by
  refine (readOnly_getQueueItemAggregate _ _).bind fun _ => ?_
  cases existing with
  | none => exact readOnly_pure _
  | some existing => exact readOnly_pure _

theorem failAgentQueueItem_effect {d : Draws} {input : FailAgentQueueItemInput}
    {s t : SqliteStore} {r : Except WorkspaceServiceError AgentQueueFailureCommandResult}
    (h : exec (failAgentQueueItem d input) s = (r, t)) :
    t = s ∨ ∃ request evidence message, failRequest input = .ok request ∧
      FailsTask d request evidence message s t := by
  unfold failAgentQueueItem at h
  split at h
  · exact Or.inl (Prod.mk.inj h).2.symm
  rename_i request hrequest
  rcases withOperatorTask_effect h with rfl | h
  · exact Or.inl rfl
  rcases (readOnly_readOperatorView _).exec_bind h with rfl | ⟨view, -, h⟩
  · exact Or.inl rfl
  rw [exec_query_bind, exec_query_bind] at h
  split at h
  · exact Or.inl ((readOnly_failureOfDecidedTask _ _).state h)
  · exact Or.inl ((readOnly_failureOfDecidedTask _ _).state h)
  · exact Or.inl (Prod.mk.inj h).2.symm
  rename_i evidence message _ _ _
  rw [exec_bind_eq] at h
  obtain ⟨e, hrecord, -⟩ | ⟨decision, u, hrecord, h⟩ := h
  · rcases recordFailure_effect hrecord with ⟨-, rfl⟩ | hfails
    · exact Or.inl rfl
    · exact Or.inr ⟨request, evidence, message, hrequest, hfails⟩
  obtain rfl := (readOnly_failureAnswer _ _).state h
  rcases recordFailure_effect hrecord with ⟨⟨_, he⟩, -⟩ | hfails
  · cases he
  · exact Or.inr ⟨request, evidence, message, hrequest, hfails⟩

end HobitQueue
