import HobitQueue.Service.Review
import HobitQueue.Service.WorkerEvidence

/-!
# Accepted completion

An operator accepts the result of a run: its evidence says that the work is
completed, and the review message of the task is acknowledged. The decision names
the run of the evidence and the message. Everything is read and checked first; one
transaction then inserts the decision.
-/

namespace HobitQueue

open Concurrent StoreProg Relational

def agentQueueAcceptedCompletionConfirmationToken : String := "operator-confirmed"
def agentQueueCompletionDecisionAccepted : String := "accepted"

structure MarkAgentQueueItemDoneInput where
  workspaceId : String
  queueItemId : String
  actorId : String
  confirmationToken : String
  reason : Option String
  runId : Option String
  reviewMessageId : Option String

structure AgentQueueCompletionDecisionSummary where
  decisionId : String
  workspaceId : String
  queueItemId : String
  runId : Option String
  runLinkId : Option String
  reviewMessageId : Option String
  actorId : String
  decision : String
  reason : Option String
  metadataJson : Option String
  createdAt : String
  deriving DecidableEq

inductive AgentQueueCompletionCommandStatus where
  | succeeded | blocked | invalidInput | alreadyDone | preconditionFailed
  deriving DecidableEq, Repr

abbrev AgentQueueCompletionCommandBlocker := OperatorCommandBlocker

structure AgentQueueCompletionCommandResult where
  status : AgentQueueCompletionCommandStatus
  workspaceId : String
  queueItemId : String
  runId : Option String
  reviewMessageId : Option String
  evidenceBundleId : Option String
  decisionId : Option String
  durable : Bool
  completionDecision : Option AgentQueueCompletionDecisionSummary
  aggregate : Option QueueItemAggregate
  blocker : Option AgentQueueCompletionCommandBlocker
  deriving DecidableEq

def agentQueueCompletionDecisionSummary (row : AgentQueueCompletionDecisionRow) :
    AgentQueueCompletionDecisionSummary :=
  { row with queueItemId := row.queueTaskId }

/-! ## Refusals -/

/-- A refusal before the aggregate is read. -/
def completionRefused (status : AgentQueueCompletionCommandStatus)
    (workspaceId queueItemId code message : String)
    (missingRequiredField nextSuggestedCapability : Option String) :
    AgentQueueCompletionCommandResult :=
  { status := status
    workspaceId := workspaceId
    queueItemId := queueItemId
    runId := none
    reviewMessageId := none
    evidenceBundleId := none
    decisionId := none
    durable := false
    completionDecision := none
    aggregate := none
    blocker := some (blockerWithoutAggregate queueItemId code message missingRequiredField
      nextSuggestedCapability) }

def completionInvalidInput (workspaceId queueItemId missingRequiredField message : String) :
    AgentQueueCompletionCommandResult :=
  completionRefused .invalidInput workspaceId queueItemId ("missing_" ++ missingRequiredField)
    message (some missingRequiredField) none

def completionBlockedWithoutAggregate (status : AgentQueueCompletionCommandStatus)
    (workspaceId queueItemId code message : String) (nextSuggestedCapability : Option String) :
    AgentQueueCompletionCommandResult :=
  completionRefused status workspaceId queueItemId code message none nextSuggestedCapability

def completionBlockedFromAggregate (task : OperatorTask) (view : OperatorView)
    (status : AgentQueueCompletionCommandStatus) (code message nextSuggestedCapability : String) :
    AgentQueueCompletionCommandResult :=
  { status := status
    workspaceId := task.workspaceId
    queueItemId := task.queueItemId
    runId := view.runId
    reviewMessageId := view.reviewMessageId
    evidenceBundleId := view.evidenceBundleId
    decisionId := none
    durable := false
    completionDecision := none
    aggregate := some view.aggregate
    blocker := some (view.blocker task.queueItemId code message nextSuggestedCapability) }

def completionAlreadyDone (task : OperatorTask) (decision : AgentQueueCompletionDecisionRow)
    (aggregate : Option QueueItemAggregate) : AgentQueueCompletionCommandResult :=
  { status := .alreadyDone
    workspaceId := task.workspaceId
    queueItemId := task.queueItemId
    runId := decision.runId
    reviewMessageId := decision.reviewMessageId
    evidenceBundleId := none
    decisionId := some decision.decisionId
    durable := true
    completionDecision := some (agentQueueCompletionDecisionSummary decision)
    aggregate := aggregate
    blocker := none }

/-! ## Preconditions -/

/-- What the state of the dependencies says against accepting a result. -/
def completionDependencyBlocker :
    QueueItemAggregateDependencyState →
      Option (AgentQueueCompletionCommandStatus × String × String)
  | .waiting => some (.blocked, "dependency_waiting",
      "Queue task dependencies must reach accepted completion first.")
  | .blocked => some (.blocked, "dependency_blocked", "Queue task dependencies are blocked.")
  | .failedUpstream => some (.preconditionFailed, "dependency_failed",
      "At least one Queue task dependency failed before accepted completion.")
  | .unknown => some (.blocked, "dependency_unknown", "Queue task dependency state is unknown.")
  | .none | .ready => none

/-- The checks on the state of the task, before its evidence is looked at. -/
def validateMarkDoneState (task : OperatorTask) (view : OperatorView) :
    Except AgentQueueCompletionCommandResult Unit := do
  let aggregate := view.aggregate
  let blocked := completionBlockedFromAggregate task view
  refuseIf (aggregate.ticketState = .draft)
    (blocked .preconditionFailed "task_is_draft" "Draft Queue tasks cannot be marked done."
      "queue.item.updateRunSettings")
  refuseIf (workerNotStarted aggregate)
    (blocked .blocked "worker_not_started"
      "Queue worker completion evidence is required before queue.item.markDone."
      "queue.item.startRun")
  refuseIf (workerStillRunning aggregate)
    (blocked .blocked "worker_running"
      "Queue worker run is still active; accepted completion cannot be recorded."
      "queue.lifecycle.get")
  refuseIf (aggregate.ticketState = .failure)
    (blocked .preconditionFailed "task_failed" "Failed Queue tasks cannot be marked done."
      "queue.lifecycle.get")
  match completionDependencyBlocker aggregate.dependencyState with
  | some (status, code, message) => .error (blocked status code message "queue.lifecycle.get")
  | none => .ok ()

/-- The checks on the evidence. -/
def validateAcceptedEvidence (task : OperatorTask) (view : OperatorView)
    (requestedRunId : Option String) :
    Except AgentQueueCompletionCommandResult AgentQueueWorkerEvidenceBundleRow :=
  let blocked := completionBlockedFromAggregate task view
  match view.evidence with
  | none => .error (blocked .blocked "durable_worker_evidence_required"
      "Durable worker evidence is required before queue.item.markDone."
      "queue.lifecycle.agentFinished")
  | some evidence => do
      refuseIf (evidence.outcome ≠ agentQueueWorkerEvidenceOutcomeCompleted)
        (blocked .preconditionFailed "worker_outcome_not_completed"
          "Only completed worker evidence can be accepted as done." "queue.lifecycle.get")
      refuseIf (requestedRunId.any (evidence.runId != ·))
        (blocked .preconditionFailed "run_id_mismatch" ("The supplied runId does not match the " ++
          "latest durable worker evidence for this Queue task.")
          "queue.review.getEvidenceBundle")
      pure evidence

/-- The checks on the review message. -/
def validateAcceptedReview (task : OperatorTask) (view : OperatorView)
    (requestedReviewMessageId : Option String) :
    Except AgentQueueCompletionCommandResult AgentQueueReviewMessageRow :=
  let blocked := completionBlockedFromAggregate task view
  match view.reviewMessage with
  | none => .error (blocked .blocked "review_message_required"
      "A backend review message must exist before queue.item.markDone."
      "queue.review.createMessage")
  | some message => do
      refuseIf (requestedReviewMessageId.any (message.messageId != ·))
        (blocked .preconditionFailed "review_message_id_mismatch" ("The supplied " ++
          "reviewMessageId does not match the latest backend review message for this Queue " ++
          "task.") "queue.lifecycle.get")
      refuseIf (message.status ≠ reviewMessageStatusAcknowledged)
        (blocked .blocked "review_not_acked"
          "The backend review message must be ACKed before queue.item.markDone."
          "queue.review.ack")
      pure message

/-- The checks of the command, and the evidence and the message it goes on with. -/
def validateMarkDonePrecondition (task : OperatorTask) (view : OperatorView)
    (requestedRunId requestedReviewMessageId : Option String) :
    Except AgentQueueCompletionCommandResult
      (AgentQueueWorkerEvidenceBundleRow × AgentQueueReviewMessageRow) := do
  let aggregate := view.aggregate
  let blocked := completionBlockedFromAggregate task view
  validateMarkDoneState task view
  let evidence ← validateAcceptedEvidence task view requestedRunId
  let message ← validateAcceptedReview task view requestedReviewMessageId
  refuseIf (aggregate.workerRunState ≠ .completed)
    (blocked .preconditionFailed "worker_not_completed"
      "Queue worker state must be completed before queue.item.markDone." "queue.lifecycle.get")
  refuseIf (aggregate.evidenceState ≠ .available)
    (blocked .blocked "durable_worker_evidence_required"
      "Durable worker evidence is required before queue.item.markDone."
      "queue.lifecycle.agentFinished")
  refuseIf (aggregate.ticketState ≠ .inReview ∨ aggregate.reviewState ≠ .inReview)
    (blocked .preconditionFailed "accepted_completion_precondition_failed"
      ("queue.item.markDone requires backend aggregate state in_review with ACKed durable " ++
        "review evidence.") "queue.lifecycle.get")
  pure (evidence, message)

/-! ## The command -/

/-- The trimmed input. -/
structure MarkDoneRequest extends OperatorTask where
  actorId : String
  reason : Option String
  requestedRunId : Option String
  requestedReviewMessageId : Option String

/-- The request to mark a task done, checked. -/
def markDoneRequest (input : MarkAgentQueueItemDoneInput) :
    Except AgentQueueCompletionCommandResult MarkDoneRequest := do
  let invalid := completionInvalidInput (Text.trim input.workspaceId)
    (Text.trim input.queueItemId)
  let task ← operatorTask input.workspaceId input.queueItemId invalid
  let actorId := Text.trim input.actorId
  refuseIf (actorId == "") (invalid "actorId" "actorId is required.")
  refuseIf (Text.trim input.confirmationToken != agentQueueAcceptedCompletionConfirmationToken)
    (invalid "confirmationToken" "Exact structured confirmationToken is required.")
  pure {
    task with
    actorId := actorId
    reason := Text.optionalTrimmed input.reason
    requestedRunId := Text.optionalTrimmed input.runId
    requestedReviewMessageId := Text.optionalTrimmed input.reviewMessageId }

/-- The decision: it names the run of the evidence, and the message. -/
def completionDecision (d : Draws) (request : MarkDoneRequest)
    (evidence : AgentQueueWorkerEvidenceBundleRow) (message : AgentQueueReviewMessageRow) :
    AgentQueueCompletionDecisionRow :=
  { decisionId := d.placeholderId "queue-completion-decision-" 1
    workspaceId := request.workspaceId
    queueTaskId := request.queueItemId
    runId := some evidence.runId
    runLinkId := evidence.runLinkId
    reviewMessageId := some message.messageId
    actorId := request.actorId
    decision := agentQueueCompletionDecisionAccepted
    reason := request.reason
    metadataJson := none
    createdAt := d.timestamp 0 }

/-- The transaction that records the decision. -/
def recordCompletion (d : Draws) (request : MarkDoneRequest)
    (evidence : AgentQueueWorkerEvidenceBundleRow) (message : AgentQueueReviewMessageRow) :
    Service AgentQueueCompletionDecisionRow :=
  withImmediateTransaction mapStorageAgentQueueTaskError do
    let row ← execute fun s => s.insertAgentQueueCompletionDecision
      (completionDecision d request evidence message)
    execute fun s => s.touchWorkspace request.workspaceId (d.timestamp 2)
    pure row

/-- The answer to an accepted result. -/
def completionAnswer (request : MarkDoneRequest)
    (evidence : AgentQueueWorkerEvidenceBundleRow) (row : AgentQueueCompletionDecisionRow) :
    Service AgentQueueCompletionCommandResult := do
  let refreshed ← requireQueueItemAggregate request.workspaceId request.queueItemId
  pure {
    status := .succeeded
    workspaceId := request.workspaceId
    queueItemId := request.queueItemId
    runId := row.runId
    reviewMessageId := row.reviewMessageId
    evidenceBundleId := some evidence.bundleId
    decisionId := some row.decisionId
    durable := true
    completionDecision := some (agentQueueCompletionDecisionSummary row)
    aggregate := some refreshed
    blocker := none }

/-- The command on a task that was found. -/
def markTaskDone (d : Draws) (request : MarkDoneRequest) :
    Service AgentQueueCompletionCommandResult := do
  let view ← readOperatorView request.toOperatorTask
  let latestCompletion ← query fun s =>
    s.getLatestAgentQueueCompletionDecision request.workspaceId request.queueItemId
  match latestCompletion, validateMarkDonePrecondition request.toOperatorTask view
      request.requestedRunId request.requestedReviewMessageId with
  | some existing, _ => do
      let refreshed ← getQueueItemAggregate request.workspaceId request.queueItemId
      pure (completionAlreadyDone request.toOperatorTask existing refreshed)
  | none, .error blocked => pure blocked
  | none, .ok (evidence, message) => do
      let row ← recordCompletion d request evidence message
      completionAnswer request evidence row

/-- The command that accepts a task. -/
def markAgentQueueItemDone (d : Draws) (input : MarkAgentQueueItemDoneInput) :
    Service AgentQueueCompletionCommandResult :=
  match markDoneRequest input with
  | .error answer => pure answer
  | .ok request => withOperatorTask request.toOperatorTask "queue.item.markDone"
      (completionBlockedWithoutAggregate .invalidInput request.workspaceId request.queueItemId)
      (markTaskDone d request)

/-! ## What the command does -/

theorem validateAcceptedEvidence_ok {task : OperatorTask} {view : OperatorView}
    {requestedRunId : Option String} {evidence : AgentQueueWorkerEvidenceBundleRow}
    (h : validateAcceptedEvidence task view requestedRunId = .ok evidence) :
    view.evidence = some evidence ∧ evidence.outcome = "completed" := by
  simp only [validateAcceptedEvidence] at h
  split at h
  · cases h
  rename_i found hfound
  rw [refuseIf_bind_ok, refuseIf_bind_ok] at h
  obtain ⟨houtcome, -, h⟩ := h
  obtain rfl := Except.ok.inj h
  have houtcome' := of_decide_eq_false houtcome
  exact ⟨hfound, not_not.1 houtcome'⟩

theorem validateAcceptedReview_ok {task : OperatorTask} {view : OperatorView}
    {requestedReviewMessageId : Option String} {message : AgentQueueReviewMessageRow}
    (h : validateAcceptedReview task view requestedReviewMessageId = .ok message) :
    view.reviewMessage = some message ∧ message.status = "acknowledged" := by
  simp only [validateAcceptedReview] at h
  split at h
  · cases h
  rename_i found hfound
  rw [refuseIf_bind_ok, refuseIf_bind_ok] at h
  obtain ⟨-, hstatus, h⟩ := h
  obtain rfl := Except.ok.inj h
  have hstatus' := of_decide_eq_false hstatus
  exact ⟨hfound, not_not.1 hstatus'⟩

/-- **What an accepted view looks like**: completed evidence, an acknowledged message, a
completed worker, and a ticket in review. -/
theorem validateMarkDonePrecondition_ok {task : OperatorTask} {view : OperatorView}
    {requestedRunId requestedReviewMessageId : Option String}
    {evidence : AgentQueueWorkerEvidenceBundleRow} {message : AgentQueueReviewMessageRow}
    (h : validateMarkDonePrecondition task view requestedRunId requestedReviewMessageId =
      .ok (evidence, message)) :
    view.evidence = some evidence ∧ evidence.outcome = "completed" ∧
      view.reviewMessage = some message ∧ message.status = "acknowledged" ∧
      view.aggregate.workerRunState = .completed ∧ view.aggregate.ticketState = .inReview := by
  simp only [validateMarkDonePrecondition] at h
  rw [except_bind_ok] at h
  obtain ⟨_, -, h⟩ := h
  rw [except_bind_ok] at h
  obtain ⟨found, hfound, h⟩ := h
  rw [except_bind_ok] at h
  obtain ⟨review, hreview, h⟩ := h
  rw [refuseIf_bind_ok, refuseIf_bind_ok, refuseIf_bind_ok] at h
  obtain ⟨hworker, -, hticket, h⟩ := h
  obtain ⟨rfl, rfl⟩ := Prod.mk.inj (Except.ok.inj h)
  obtain ⟨hevidence, houtcome⟩ := validateAcceptedEvidence_ok hfound
  obtain ⟨hmessage, hstatus⟩ := validateAcceptedReview_ok hreview
  have hticket' := not_or.1 (of_decide_eq_false hticket)
  exact ⟨hevidence, houtcome, hmessage, hstatus, not_not.1 (of_decide_eq_false hworker),
    not_not.1 hticket'.1⟩

theorem recordCompletion_effect {d : Draws} {request : MarkDoneRequest}
    {evidence : AgentQueueWorkerEvidenceBundleRow} {message : AgentQueueReviewMessageRow}
    {s t : SqliteStore} {r : Except WorkspaceServiceError AgentQueueCompletionDecisionRow}
    (h : exec (recordCompletion d request evidence message) s = (r, t)) :
    ((∃ e, r = .error e) ∧ t = s) ∨ ∃ decisions' workspaces',
      s.agentQueueCompletionDecisions.insert (completionDecision d request evidence message) =
        some decisions' ∧
      t = { s with
        agentQueueCompletionDecisions := decisions', workspaces := workspaces' } := by
  rcases exec_withImmediateTransaction h with ⟨row, -, hrun⟩ | ⟨⟨e, rfl⟩, rfl⟩
  · simp only [exec_bind_ok, exec_execute_ok, SqliteStore.insertAgentQueueCompletionDecision,
      SqliteStore.inserted_ok, SqliteStore.touchWorkspace, exec_pure, Except.ok.injEq,
      Prod.mk.injEq] at hrun
    obtain ⟨_, _, ⟨-, -, decisions', hins, rfl⟩, _, _, ⟨-, rfl⟩, -, rfl⟩ := hrun
    exact Or.inr ⟨decisions', _, hins, rfl⟩
  · exact Or.inl ⟨⟨e, rfl⟩, rfl⟩

theorem readOnly_completionAnswer (request : MarkDoneRequest)
    (evidence : AgentQueueWorkerEvidenceBundleRow) (row : AgentQueueCompletionDecisionRow) :
    (completionAnswer request evidence row).ReadOnly :=
  (readOnly_requireQueueItemAggregate _ _).bind fun _ => readOnly_pure _

/-- A task was accepted: the decision is new, and the view of the store the command found
passed its checks. -/
def AcceptsTask (d : Draws) (request : MarkDoneRequest) (s t : SqliteStore) : Prop :=
  ∃ row evidence message decisions' workspaces',
    s.getAgentQueueTask request.workspaceId request.queueItemId = some row ∧
    validateMarkDonePrecondition request.toOperatorTask
      (s.operatorView request.toOperatorTask row) request.requestedRunId
      request.requestedReviewMessageId = .ok (evidence, message) ∧
    s.getLatestAgentQueueCompletionDecision request.workspaceId request.queueItemId = none ∧
    s.agentQueueCompletionDecisions.insert (completionDecision d request evidence message) =
      some decisions' ∧
    t = { s with agentQueueCompletionDecisions := decisions', workspaces := workspaces' }

theorem markAgentQueueItemDone_effect {d : Draws} {input : MarkAgentQueueItemDoneInput}
    {s t : SqliteStore} {r : Except WorkspaceServiceError AgentQueueCompletionCommandResult}
    (h : exec (markAgentQueueItemDone d input) s = (r, t)) :
    t = s ∨ ∃ request, markDoneRequest input = .ok request ∧ AcceptsTask d request s t := by
  unfold markAgentQueueItemDone at h
  split at h
  · exact Or.inl (Prod.mk.inj h).2.symm
  rename_i request hrequest
  rcases withOperatorTask_effect h with rfl | h
  · exact Or.inl rfl
  rcases (readOnly_readOperatorView _).exec_bind h with rfl | ⟨view, hview, h⟩
  · exact Or.inl rfl
  obtain ⟨-, row, hrow, rfl⟩ := readOperatorView_ok hview
  rw [exec_query_bind] at h
  split at h
  · exact Or.inl (((readOnly_getQueueItemAggregate _ _).bind fun _ => readOnly_pure _).state h)
  · exact Or.inl (Prod.mk.inj h).2.symm
  rename_i evidence message hnone hvalid
  rw [exec_bind_eq] at h
  obtain ⟨e, hrecord, -⟩ | ⟨decision, u, hrecord, h⟩ := h
  · rcases recordCompletion_effect hrecord with ⟨-, rfl⟩ | ⟨decisions', workspaces', hins, rfl⟩
    · exact Or.inl rfl
    · exact Or.inr ⟨request, hrequest, row, evidence, message, decisions', workspaces', hrow,
        hvalid, hnone, hins, rfl⟩
  obtain rfl := (readOnly_completionAnswer _ _ _).state h
  rcases recordCompletion_effect hrecord with ⟨⟨_, he⟩, -⟩ | ⟨decisions', workspaces', hins, rfl⟩
  · cases he
  · exact Or.inr ⟨request, hrequest, row, evidence, message, decisions', workspaces', hrow,
      hvalid, hnone, hins, rfl⟩

end HobitQueue
