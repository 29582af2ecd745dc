import HobitQueue.Service.Operator

/-!
# Review messages

A finished run waits for a review. A review message is created once durable worker
evidence is there, and acknowledged by the operator; a task has at most one.
-/

namespace HobitQueue

open Concurrent StoreProg Relational

def reviewMessageStatusCreated : String := "created"
def reviewMessageStatusAcknowledged : String := "acknowledged"

structure CreateAgentQueueReviewMessageInput where
  workspaceId : String
  queueItemId : String
  actorId : String
  messageBody : Option String
  runId : Option String
  evidenceBundleId : Option String

structure AckAgentQueueReviewMessageInput where
  workspaceId : String
  queueItemId : String
  messageId : String
  actorId : String

structure AgentQueueReviewMessageSummary where
  messageId : String
  workspaceId : String
  queueItemId : String
  runId : Option String
  runLinkId : Option String
  actorId : String
  messageBody : String
  status : String
  createdAt : String
  ackedAt : Option String
  ackActorId : Option String
  metadataJson : Option String
  updatedAt : String
  deriving DecidableEq

structure AgentQueueReviewCommandResult where
  workspaceId : String
  queueItemId : String
  messageId : String
  durable : Bool
  reviewMessage : AgentQueueReviewMessageSummary
  aggregate : QueueItemAggregate
  deriving DecidableEq

inductive AgentQueueReviewCreateMessageStatus where
  | succeeded | blocked | invalidInput | alreadyExists | preconditionFailed
  deriving DecidableEq, Repr

structure AgentQueueReviewCreateMessageBlocker where
  blockerCode : String
  blockerMessage : String
  missingRequiredField : Option String
  taskId : String
  runId : Option String
  evidenceBundleId : Option String
  runIdRequired : Bool
  evidenceBundleIdRequired : Bool
  durableEvidenceRequired : Bool
  reviewMessageAlreadyExists : Bool
  existingMessageId : Option String
  ticketState : Option String
  workerRunState : Option String
  reviewState : Option String
  evidenceState : Option String
  nextSuggestedCapability : Option String
  deriving DecidableEq

structure AgentQueueReviewCreateMessageResult where
  status : AgentQueueReviewCreateMessageStatus
  workspaceId : String
  queueItemId : String
  runId : Option String
  evidenceBundleId : Option String
  messageId : Option String
  durable : Bool
  reviewMessage : Option AgentQueueReviewMessageSummary
  aggregate : Option QueueItemAggregate
  blocker : Option AgentQueueReviewCreateMessageBlocker
  deriving DecidableEq

def agentQueueReviewMessageSummary (row : AgentQueueReviewMessageRow) :
    AgentQueueReviewMessageSummary :=
  { row with queueItemId := row.queueTaskId }

/-! ## Refusals -/

/-- A refusal before the aggregate is read. -/
def createMessageRefused (status : AgentQueueReviewCreateMessageStatus)
    (workspaceId queueItemId code message : String)
    (missingRequiredField nextSuggestedCapability : Option String) :
    AgentQueueReviewCreateMessageResult :=
  { status := status
    workspaceId := workspaceId
    queueItemId := queueItemId
    runId := none
    evidenceBundleId := none
    messageId := none
    durable := false
    reviewMessage := none
    aggregate := none
    blocker := some {
      blockerCode := code
      blockerMessage := message
      missingRequiredField := missingRequiredField
      taskId := queueItemId
      runId := none
      evidenceBundleId := none
      runIdRequired := false
      evidenceBundleIdRequired := false
      durableEvidenceRequired := true
      reviewMessageAlreadyExists := false
      existingMessageId := none
      ticketState := none
      workerRunState := none
      reviewState := none
      evidenceState := none
      nextSuggestedCapability := nextSuggestedCapability } }

def createMessageInvalidInput (workspaceId queueItemId missingRequiredField message : String) :
    AgentQueueReviewCreateMessageResult :=
  createMessageRefused .invalidInput workspaceId queueItemId ("missing_" ++ missingRequiredField)
    message (some missingRequiredField) none

def createMessageBlockedWithoutAggregate (status : AgentQueueReviewCreateMessageStatus)
    (workspaceId queueItemId code message : String) (nextSuggestedCapability : Option String) :
    AgentQueueReviewCreateMessageResult :=
  createMessageRefused status workspaceId queueItemId code message none nextSuggestedCapability

/-- A refusal that shows the aggregate; `existing` is the message that is in the way. -/
def createMessageBlockedFromAggregate (status : AgentQueueReviewCreateMessageStatus)
    (task : OperatorTask) (view : OperatorView) (existing : Option AgentQueueReviewMessageRow)
    (code message : String) (nextSuggestedCapability : Option String) :
    AgentQueueReviewCreateMessageResult :=
  { status := status
    workspaceId := task.workspaceId
    queueItemId := task.queueItemId
    runId := view.runId
    evidenceBundleId := view.evidenceBundleId
    messageId := existing.map (·.messageId)
    durable := false
    reviewMessage := existing.map agentQueueReviewMessageSummary
    aggregate := some view.aggregate
    blocker := some {
      blockerCode := code
      blockerMessage := message
      missingRequiredField := none
      taskId := task.queueItemId
      runId := view.runId
      evidenceBundleId := view.evidenceBundleId
      runIdRequired := false
      evidenceBundleIdRequired := false
      durableEvidenceRequired := true
      reviewMessageAlreadyExists := existing.isSome
      existingMessageId := existing.map (·.messageId)
      ticketState := some view.aggregate.ticketState.asStr
      workerRunState := some view.aggregate.workerRunState.asStr
      reviewState := some view.aggregate.reviewState.asStr
      evidenceState := some view.aggregate.evidenceState.asStr
      nextSuggestedCapability := nextSuggestedCapability } }

/-! ## Preconditions -/

/-- The refusal because of a message that is there. -/
def existingReviewMessageBlocker (task : OperatorTask) (view : OperatorView)
    (existing : AgentQueueReviewMessageRow) : AgentQueueReviewCreateMessageResult :=
  if existing.status = reviewMessageStatusCreated then
    createMessageBlockedFromAggregate .alreadyExists task view (some existing)
      "review_message_already_exists" ("A Queue review message already exists and must be " ++
        "acknowledged before creating another.") (some "queue.review.ack")
  else
    createMessageBlockedFromAggregate .alreadyExists task view (some existing)
      "review_message_already_exists"
      "A Queue review message already exists for this Queue item." (some "queue.lifecycle.get")

/-- A given id that is not the one of the latest evidence. -/
def mismatches (requested actual : Option String) : Bool :=
  requested.any fun requested => actual.any fun actual => actual != requested

/-- What the aggregate must look like before a review is asked for. -/
def validateCreateReviewMessagePrecondition (task : OperatorTask) (view : OperatorView)
    (requestedRunId requestedEvidenceBundleId : Option String) :
    Except AgentQueueReviewCreateMessageResult Unit :=
  match view.reviewMessage with
  | some existing => .error (existingReviewMessageBlocker task view existing)
  | none => do
      let blocked := fun status code message next =>
        createMessageBlockedFromAggregate status task view none code message (some next)
      refuseIf (mismatches requestedRunId (view.evidence.map (·.runId)))
        (blocked .preconditionFailed "run_id_mismatch" ("The supplied runId does not match the " ++
          "latest durable worker evidence for this Queue task.")
          "queue.review.getEvidenceBundle")
      refuseIf (mismatches requestedEvidenceBundleId view.evidenceBundleId)
        (blocked .preconditionFailed "evidence_bundle_id_mismatch" ("The supplied " ++
          "evidenceBundleId does not match the latest durable worker evidence for this Queue " ++
          "task.") "queue.review.getEvidenceBundle")
      refuseIf (view.aggregate.workerRunState = .running)
        (blocked .blocked "worker_running" ("The Queue worker run is still active; create a " ++
          "review message after durable worker evidence is available.") "queue.lifecycle.get")
      refuseIf (view.aggregate.ticketState = .draft)
        (blocked .preconditionFailed "task_is_draft"
          "Draft Queue tasks cannot create review messages." "queue.item.updateRunSettings")
      refuseIf (view.aggregate.evidenceState ≠ .available ∨ view.evidence.isNone)
        (blocked .blocked "durable_worker_evidence_required" ("Durable worker evidence is " ++
          "required before queue.review.createMessage can create a review message.")
          (if view.aggregate.latestRun.isSome then "queue.lifecycle.agentFinished"
            else "queue.lifecycle.get"))
      -- a running worker and a draft were refused above, so one code is left
      refuseIf (¬ (view.aggregate.ticketState = .awaitingReview ∧
          view.aggregate.reviewState = .awaitingReview))
        (blocked .preconditionFailed "review_precondition_failed" ("Queue review message " ++
          "cannot be created from the current backend aggregate state.") "queue.lifecycle.get")

/-- What the aggregate must look like before a review is acknowledged. -/
def validateAckReviewPrecondition (aggregate : QueueItemAggregate) :
    Except WorkspaceServiceError Unit :=
  if aggregate.ticketState = .awaitingReview ∧ aggregate.reviewState = .reviewMessageCreated then
    .ok ()
  else .error (.invalidInput ("queue review message cannot be acknowledged while ticket_state=" ++
    aggregate.ticketState.asStr ++ " review_state=" ++ aggregate.reviewState.asStr))

/-! ## The text of a message -/

def defaultReviewMessageBody : String :=
  "Queue worker result is ready for explicit operator review."

def reviewMessageBodyCap : ℕ := 4000

/-- The trimmed text, cut to the cap: a text of at most that many bytes stays whole. -/
def nonEmptyBounded (value : String) : Option String :=
  (Text.trimmedNonEmpty value).map fun trimmed =>
    if trimmed.utf8ByteSize ≤ reviewMessageBodyCap then trimmed
    else String.ofList (trimmed.toList.take reviewMessageBodyCap)

def reviewMessageBody (body : Option String) (aggregate : QueueItemAggregate) : String :=
  ((body.bind nonEmptyBounded).or
    ((aggregate.evidenceSummary.bind (·.summary)).bind nonEmptyBounded)).getD
      defaultReviewMessageBody

/-! ## The commands -/

/-- The trimmed input of a new message. -/
structure CreateReviewMessageRequest extends OperatorTask where
  actorId : String
  messageBody : Option String
  requestedRunId : Option String
  requestedEvidenceBundleId : Option String

def createReviewMessageRequest (input : CreateAgentQueueReviewMessageInput) :
    Except AgentQueueReviewCreateMessageResult CreateReviewMessageRequest := do
  let task ← operatorTask input.workspaceId input.queueItemId
    (createMessageInvalidInput (Text.trim input.workspaceId) (Text.trim input.queueItemId))
  pure {
    task with
    actorId := Text.visibleValue input.actorId "workspace-agent"
    messageBody := input.messageBody
    requestedRunId := Text.optionalTrimmed input.runId
    requestedEvidenceBundleId := Text.optionalTrimmed input.evidenceBundleId }

/-- The new message: it speaks of the latest run of the task. -/
def newReviewMessage (d : Draws) (request : CreateReviewMessageRequest) (view : OperatorView) :
    AgentQueueReviewMessageRow :=
  { messageId := d.placeholderId "queue-review-message-" 1
    workspaceId := request.workspaceId
    queueTaskId := request.queueItemId
    runId := view.aggregate.latestRun.map (·.runId)
    runLinkId := view.aggregate.latestRun.map (·.runLinkId)
    actorId := request.actorId
    messageBody := reviewMessageBody request.messageBody view.aggregate
    status := reviewMessageStatusCreated
    createdAt := d.timestamp 0
    ackedAt := none
    ackActorId := none
    metadataJson := none
    updatedAt := d.timestamp 0 }

def buildReviewCommandResult (workspaceId queueItemId : String)
    (row : AgentQueueReviewMessageRow) : Service AgentQueueReviewCommandResult := do
  let aggregate ← requireQueueItemAggregate workspaceId queueItemId
  pure {
    workspaceId := workspaceId
    queueItemId := queueItemId
    messageId := row.messageId
    durable := true
    reviewMessage := agentQueueReviewMessageSummary row
    aggregate := aggregate }

/-- The message is inserted by a statement of its own, and read back by another one. -/
def storeReviewMessage (row : AgentQueueReviewMessageRow) :
    Service AgentQueueReviewMessageRow := do
  let _ ← (execute fun s => s.insertAgentQueueReviewMessage row).mapErr .storage
  let stored ← query fun s =>
    s.getAgentQueueReviewMessage row.workspaceId row.queueTaskId row.messageId
  match stored with
  | some stored => pure stored
  | none => throw (.storage .queryReturnedNoRows)

/-- A new message is stored and answered with the view of its task. -/
def insertReviewMessage (d : Draws) (request : CreateReviewMessageRequest)
    (view : OperatorView) : Service AgentQueueReviewCreateMessageResult := do
  let row ← storeReviewMessage (newReviewMessage d request view)
  let result ← buildReviewCommandResult request.workspaceId request.queueItemId row
  pure {
    status := .succeeded
    workspaceId := request.workspaceId
    queueItemId := request.queueItemId
    runId := view.evidence.map (·.runId)
    evidenceBundleId := view.evidenceBundleId
    messageId := some result.messageId
    durable := result.durable
    reviewMessage := some result.reviewMessage
    aggregate := some result.aggregate
    blocker := none }

def createReviewMessageOfTask (d : Draws) (request : CreateReviewMessageRequest) :
    Service AgentQueueReviewCreateMessageResult := do
  let view ← readOperatorView request.toOperatorTask
  match validateCreateReviewMessagePrecondition request.toOperatorTask view
      request.requestedRunId request.requestedEvidenceBundleId with
  | .error blocked => pure blocked
  | .ok () => insertReviewMessage d request view

/-- The command writes with one statement, without a transaction. -/
def createAgentQueueReviewMessage (d : Draws) (input : CreateAgentQueueReviewMessageInput) :
    Service AgentQueueReviewCreateMessageResult :=
  match createReviewMessageRequest input with
  | .error answer => pure answer
  | .ok request => withOperatorTask request.toOperatorTask "queue.review.createMessage"
      (createMessageBlockedWithoutAggregate .invalidInput request.workspaceId
        request.queueItemId)
      (createReviewMessageOfTask d request)

def normalizeAckReviewMessageInput (input : AckAgentQueueReviewMessageInput) :
    Except WorkspaceServiceError AckAgentQueueReviewMessageInput := do
  let workspaceId ← requiredInput input.workspaceId "workspace id"
  let queueItemId ← requiredInput input.queueItemId "queue item id"
  let messageId ← requiredInput input.messageId "review message id"
  let actorId ← requiredInput input.actorId "review actor id"
  pure ⟨workspaceId, queueItemId, messageId, actorId⟩

def reviewMessageNotFound (messageId : String) : WorkspaceServiceError :=
  .invalidInput ("queue review message not found: " ++ messageId)

/-- The check that the message may be acknowledged. -/
def checkAckedMessage (messageId : String) (existing : Option AgentQueueReviewMessageRow) :
    Except WorkspaceServiceError Unit :=
  match existing with
  | none => .error (reviewMessageNotFound messageId)
  | some existing =>
      if existing.status ≠ reviewMessageStatusCreated then .error (.invalidInput
        ("queue review message cannot be acknowledged from status " ++ existing.status))
      else .ok ()

/-- A message is acknowledged by a statement of its own, and read back by another one. -/
def storeAck (d : Draws) (input : AckAgentQueueReviewMessageInput) :
    Service (Option AgentQueueReviewMessageRow) := do
  let found ← (execute fun s => s.ackAgentQueueReviewMessage input.workspaceId
    input.queueItemId input.messageId reviewMessageStatusAcknowledged input.actorId
    (d.timestamp 0) (d.timestamp 0)).mapErr .storage
  if found then
    query fun s => s.getAgentQueueReviewMessage input.workspaceId input.queueItemId
      input.messageId
  else pure none

/-- The acknowledgement of a message that may be acknowledged, and the answer. -/
def ackCheckedMessage (d : Draws) (input : AckAgentQueueReviewMessageInput) :
    Service AgentQueueReviewCommandResult := do
  let row ← storeAck d input
  match row with
  | none => throw (reviewMessageNotFound input.messageId)
  | some row => buildReviewCommandResult input.workspaceId input.queueItemId row

/-- The command writes with one statement, without a transaction. -/
def ackAgentQueueReviewMessage (d : Draws) (input : AckAgentQueueReviewMessageInput) :
    Service AgentQueueReviewCommandResult := do
  let input ← check (normalizeAckReviewMessageInput input)
  validateAgentQueueTaskWorkspaceAccess input.workspaceId input.queueItemId
  let aggregate ← requireQueueItemAggregate input.workspaceId input.queueItemId
  check (validateAckReviewPrecondition aggregate)
  let existing ← query fun s => s.getAgentQueueReviewMessage input.workspaceId
    input.queueItemId input.messageId
  check (checkAckedMessage input.messageId existing)
  ackCheckedMessage d input

/-! ## What the commands do -/

theorem validateCreateReviewMessagePrecondition_ok {task : OperatorTask} {view : OperatorView}
    {requestedRunId requestedEvidenceBundleId : Option String} {u : Unit}
    (h : validateCreateReviewMessagePrecondition task view requestedRunId
      requestedEvidenceBundleId = .ok u) : view.reviewMessage = none := by
  unfold validateCreateReviewMessagePrecondition at h
  split at h
  · cases h
  · assumption

theorem readOnly_buildReviewCommandResult (workspaceId queueItemId : String)
    (row : AgentQueueReviewMessageRow) :
    (buildReviewCommandResult workspaceId queueItemId row).ReadOnly :=
  (readOnly_requireQueueItemAggregate _ _).bind fun _ => readOnly_pure _

theorem storeReviewMessage_effect {row : AgentQueueReviewMessageRow} {s t : SqliteStore}
    {r : Except WorkspaceServiceError AgentQueueReviewMessageRow}
    (h : exec (storeReviewMessage row) s = (r, t)) :
    t = s ∨ ∃ messages', s.agentQueueReviewMessages.insert row = some messages' ∧
      t = { s with agentQueueReviewMessages := messages' } := by
  rw [storeReviewMessage, exec_bind_eq] at h
  obtain ⟨e, hinsert, -⟩ | ⟨_, u, hinsert, h⟩ := h
  · rw [exec_mapErr, exec_execute] at hinsert
    split at hinsert
    · cases (Prod.mk.inj hinsert).1
    · exact Or.inl (Prod.mk.inj hinsert).2.symm
  rw [exec_mapErr_ok, exec_execute_ok] at hinsert
  obtain ⟨-, -, messages', hins, rfl⟩ := SqliteStore.inserted_ok.1 hinsert
  rw [exec_query_bind] at h
  refine Or.inr ⟨messages', hins, ?_⟩
  split at h <;> exact (Prod.mk.inj h).2.symm

theorem insertReviewMessage_effect {d : Draws} {request : CreateReviewMessageRequest}
    {view : OperatorView} {s t : SqliteStore}
    {r : Except WorkspaceServiceError AgentQueueReviewCreateMessageResult}
    (h : exec (insertReviewMessage d request view) s = (r, t)) :
    t = s ∨ ∃ messages',
      s.agentQueueReviewMessages.insert (newReviewMessage d request view) = some messages' ∧
      t = { s with agentQueueReviewMessages := messages' } := by
  rw [insertReviewMessage, exec_bind_eq] at h
  obtain ⟨e, hstore, -⟩ | ⟨row, u, hstore, h⟩ := h
  · exact storeReviewMessage_effect hstore
  obtain rfl := ((readOnly_buildReviewCommandResult _ _ _).bind fun _ =>
    readOnly_pure _).state h
  exact storeReviewMessage_effect hstore

/-- A review message is created for a task that has none, about its latest run. -/
theorem createAgentQueueReviewMessage_effect {d : Draws}
    {input : CreateAgentQueueReviewMessageInput} {s t : SqliteStore}
    {r : Except WorkspaceServiceError AgentQueueReviewCreateMessageResult}
    (h : exec (createAgentQueueReviewMessage d input) s = (r, t)) :
    t = s ∨ ∃ request row messages', createReviewMessageRequest input = .ok request ∧
      s.getAgentQueueTask request.workspaceId request.queueItemId = some row ∧
      s.getLatestAgentQueueReviewMessage request.workspaceId request.queueItemId = none ∧
      s.agentQueueReviewMessages.insert (newReviewMessage d request
        (s.operatorView request.toOperatorTask row)) = some messages' ∧
      t = { s with agentQueueReviewMessages := messages' } := by
  unfold createAgentQueueReviewMessage at h
  split at h
  · exact Or.inl (Prod.mk.inj h).2.symm
  rename_i request hrequest
  rcases withOperatorTask_effect h with rfl | h
  · exact Or.inl rfl
  rcases (readOnly_readOperatorView _).exec_bind h with rfl | ⟨view, hview, h⟩
  · exact Or.inl rfl
  obtain ⟨-, row, hrow, rfl⟩ := readOperatorView_ok hview
  split at h
  · exact Or.inl (Prod.mk.inj h).2.symm
  rename_i hvalid
  rcases insertReviewMessage_effect h with rfl | ⟨messages', hins, rfl⟩
  · exact Or.inl rfl
  · exact Or.inr ⟨request, row, messages', hrequest, hrow,
      validateCreateReviewMessagePrecondition_ok hvalid, hins, rfl⟩

/-- The rewriting of a message that is acknowledged. -/
def acknowledge (actorId ackedAt : String) (r : AgentQueueReviewMessageRow) :
    AgentQueueReviewMessageRow :=
  { r with
    status := reviewMessageStatusAcknowledged
    ackedAt := some ackedAt
    ackActorId := some actorId
    updatedAt := ackedAt }

theorem storeAck_effect {d : Draws} {input : AckAgentQueueReviewMessageInput}
    {s t : SqliteStore} {r : Except WorkspaceServiceError (Option AgentQueueReviewMessageRow)}
    (h : exec (storeAck d input) s = (r, t)) :
    t = { s with
      agentQueueReviewMessages := s.agentQueueReviewMessages.update
        (fun r => r.workspaceId == input.workspaceId && r.queueTaskId == input.queueItemId &&
          r.messageId == input.messageId)
        (acknowledge input.actorId (d.timestamp 0)) fun _ => rfl } := by
  rw [storeAck, exec_bind_eq] at h
  obtain ⟨e, hack, -⟩ | ⟨found, u, hack, h⟩ := h
  · rw [exec_mapErr, exec_execute] at hack
    cases (Prod.mk.inj hack).1
  rw [exec_mapErr_ok, exec_execute_ok] at hack
  obtain ⟨-, rfl⟩ := Prod.mk.inj (Except.ok.inj hack)
  split at h <;> exact (Prod.mk.inj h).2.symm

theorem ackCheckedMessage_effect {d : Draws} {input : AckAgentQueueReviewMessageInput}
    {s t : SqliteStore} {r : Except WorkspaceServiceError AgentQueueReviewCommandResult}
    (h : exec (ackCheckedMessage d input) s = (r, t)) :
    t = { s with
      agentQueueReviewMessages := s.agentQueueReviewMessages.update
        (fun r => r.workspaceId == input.workspaceId && r.queueTaskId == input.queueItemId &&
          r.messageId == input.messageId)
        (acknowledge input.actorId (d.timestamp 0)) fun _ => rfl } := by
  rw [ackCheckedMessage, exec_bind_eq] at h
  obtain ⟨e, hack, -⟩ | ⟨row, u, hack, h⟩ := h
  · exact storeAck_effect hack
  obtain rfl := storeAck_effect hack
  split at h
  · exact (Prod.mk.inj h).2.symm
  · exact (readOnly_buildReviewCommandResult _ _ _).state h

theorem ackAgentQueueReviewMessage_effect {d : Draws}
    {input : AckAgentQueueReviewMessageInput} {s t : SqliteStore}
    {r : Except WorkspaceServiceError AgentQueueReviewCommandResult}
    (h : exec (ackAgentQueueReviewMessage d input) s = (r, t)) :
    t = s ∨ ∃ n, normalizeAckReviewMessageInput input = .ok n ∧ t = { s with
      agentQueueReviewMessages := s.agentQueueReviewMessages.update
        (fun r => r.workspaceId == n.workspaceId && r.queueTaskId == n.queueItemId &&
          r.messageId == n.messageId)
        (acknowledge n.actorId (d.timestamp 0)) fun _ => rfl } := by
  rw [ackAgentQueueReviewMessage, exec_check_bind] at h
  cases hn : normalizeAckReviewMessageInput input with
  | error e =>
    rw [hn] at h
    exact Or.inl (Prod.mk.inj h).2.symm
  | ok n =>
    simp only [hn] at h
    rcases (readOnly_validateAgentQueueTaskWorkspaceAccess _ _).exec_bind h with
      rfl | ⟨_, -, h⟩
    · exact Or.inl rfl
    rcases (readOnly_requireQueueItemAggregate _ _).exec_bind h with rfl | ⟨aggregate, -, h⟩
    · exact Or.inl rfl
    rw [exec_check_bind] at h
    split at h
    · rw [exec_query_bind, exec_check_bind] at h
      split at h
      · exact Or.inr ⟨n, rfl, ackCheckedMessage_effect h⟩
      · exact Or.inl (Prod.mk.inj h).2.symm
    · exact Or.inl (Prod.mk.inj h).2.symm

end HobitQueue
