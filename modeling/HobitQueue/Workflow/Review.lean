import HobitQueue.Service.Review
import HobitQueue.Workflow.Runs

/-!
# The review step of a workflow

The review step creates the review message of the upstream task and acknowledges it, in
one transaction with the two actions that record it and the run that pauses for its
finalization. A request that is refused for the state it finds blocks the run.
-/

namespace HobitQueue.WorkflowReview

open Concurrent StoreProg

def createReviewActionType : String := "queue.review.createMessage"
def ackReviewActionType : String := "queue.review.ack"
def createReviewStepId : String := "review.create"
def ackReviewStepId : String := "review.ack"
def workflowPhaseReview : String := "review"
def workflowStepAwaitingFinalization : String := "awaiting_finalization"
def pauseReasonAwaitingFinalization : String := "awaiting_finalization"
def defaultReviewMessageBody : String :=
  "Queue worker result is ready for explicit operator review."

structure QueueWorkflowReviewStepRequest where
  workspaceId : String
  workflowRunId : String
  slot : Option String
  actorId : Option String
  requestId : Option String
  grantSummary : Option Json

inductive QueueWorkflowReviewStepResultStatus where
  | executed | alreadyApplied | blockedPrecondition | invalidInput | conflict | notFound
  deriving DecidableEq, Repr

structure QueueWorkflowReviewBindingSummary where
  slot : String
  taskId : String
  runId : String
  evidenceBundleId : String
  messageId : String
  createActionId : Option String
  createActionIdempotencyKey : String
  ackActionId : Option String
  ackActionIdempotencyKey : String
  ackStatus : String
  reviewCreatedAt : Option String
  reviewAckedAt : Option String
  deriving DecidableEq

structure QueueWorkflowReviewStepResult where
  workflowRunId : String
  status : QueueWorkflowReviewStepResultStatus
  createAction : Option AgentQueueWorkflowActionRow
  ackAction : Option AgentQueueWorkflowActionRow
  messageId : Option String
  ackStatus : Option String
  binding : Option QueueWorkflowReviewBindingSummary
  workflowRun : Option AgentQueueWorkflowRunRow
  nextPhase : Option String
  nextStep : Option String
  blockers : List QueueWorkflowCommandBlocker
  conflict : Option QueueWorkflowConflict
  deriving DecidableEq

structure NormalizedReviewStepRequest extends WorkflowRunRef where
  slot : String
  actorId : String
  grantSummary : Option Json

/-- What a request that goes on has found. -/
structure ReviewStepResolution where
  request : NormalizedReviewStepRequest
  workflowRun : AgentQueueWorkflowRunRow
  slotBindings : List (String × Json)
  taskId : String
  runId : String
  evidence : AgentQueueWorkerEvidenceBundleRow
  runLink : AgentQueueTaskRunLinkRow
  existingMessage : Option AgentQueueReviewMessageRow
  createAction : Option AgentQueueWorkflowActionRow
  ackAction : Option AgentQueueWorkflowActionRow
  createIdempotencyKey : String
  ackIdempotencyKey : Option String
  createTargetRefs : Json
  ackTargetRefs : Option Json
  retryableFailedReviewBeforeMutation : Bool

/-- A request that is refused for the state of its run: the source names the request and
the run in every one of these. -/
structure BlockedReview where
  request : NormalizedReviewStepRequest
  workflowRun : AgentQueueWorkflowRunRow
  createAction : Option AgentQueueWorkflowActionRow
  ackAction : Option AgentQueueWorkflowActionRow
  targetRefs : Option Json
  blocker : QueueWorkflowCommandBlocker
  retryableFailedReviewBeforeMutation : Bool

/-- The ways a request ends before it writes a review. -/
inductive ReviewStepRefusal where
  | blocked (blocked : BlockedReview)
  | conflict (workflowRun : AgentQueueWorkflowRunRow)
      (createAction ackAction : Option AgentQueueWorkflowActionRow)
      (conflict : QueueWorkflowConflict) (blocker : QueueWorkflowCommandBlocker)
  | notFound (request : NormalizedReviewStepRequest) (blocker : QueueWorkflowCommandBlocker)
  | invalidInput (workflowRunId : String) (blocker : QueueWorkflowCommandBlocker)

/-! ## The request -/

def required (value field : String) : Except QueueWorkflowCommandBlocker String :=
  if Text.trim value = "" then .error (invalidFieldBlocker field (field ++ " is required."))
  else .ok (Text.trim value)

def normalizeReviewStepRequest (request : QueueWorkflowReviewStepRequest) :
    Except QueueWorkflowCommandBlocker NormalizedReviewStepRequest := do
  let workspaceId ← required request.workspaceId "workspaceId"
  let workflowRunId ← required request.workflowRunId "workflowRunId"
  let slot := (Text.optionalTrimmed request.slot).getD "upstream"
  refuseIf (slot != "upstream") (workflowBlocker "unsupported_slot"
    "Queue dependency workflow review currently supports only the upstream slot." (some "slot"))
  pure {
    workspaceId := workspaceId
    workflowRunId := workflowRunId
    slot := slot
    actorId := (Text.optionalTrimmed request.actorId).getD "workspace-agent"
    grantSummary := request.grantSummary }

/-- `blocked`. -/
def refuse (request : NormalizedReviewStepRequest) (workflowRun : AgentQueueWorkflowRunRow)
    (blocker : QueueWorkflowCommandBlocker) : ReviewStepRefusal :=
  .blocked {
    request := request
    workflowRun := workflowRun
    createAction := none
    ackAction := none
    targetRefs := none
    blocker := blocker
    retryableFailedReviewBeforeMutation := false }

/-- `conflict`. -/
def refuseConflict (workflowRun : AgentQueueWorkflowRunRow)
    (createAction ackAction : Option AgentQueueWorkflowActionRow) (code message : String)
    (existing requested : Option String) : ReviewStepRefusal :=
  .conflict workflowRun createAction ackAction
    { conflictCode := code
      conflictMessage := message
      existingWorkflowRunId := some workflowRun.workflowRunId
      existingRequestHash := existing
      requestedRequestHash := requested }
    (workflowBlocker code message none)

/-- A conflict that names no run. -/
def factConflict (code message : String) (existing requested : Option String) :
    QueueWorkflowConflict :=
  { conflictCode := code
    conflictMessage := message
    existingWorkflowRunId := none
    existingRequestHash := existing
    requestedRequestHash := requested }

/-- The slot bindings as the review reads them: a blank text counts as empty, `null` does
not. -/
def parseSlotBindings (slotBindingsJson : Option JsonText) :
    Except QueueWorkflowCommandBlocker (List (String × Json)) :=
  match slotBindingsJson with
  | none => .ok []
  | some raw =>
      if raw.isBlank (Text.trim · == "") then .ok []
      else
        match raw.parse with
        | none => .error (workflowBlocker "invalid_slot_bindings_json"
            "Queue workflow slotBindings JSON could not be parsed." (some "slotBindings"))
        | some (.obj members) => .ok members
        | some _ => .error (workflowBlocker "invalid_slot_bindings_json"
            "Queue workflow slotBindings must be a JSON object." (some "slotBindings"))

/-! ## The run and its binding -/

/-- The run may be reviewed as far as its workflow and its end go. -/
def checkReviewedRun (request : NormalizedReviewStepRequest) (run : AgentQueueWorkflowRunRow) :
    Except ReviewStepRefusal Unit := do
  refuseIf (run.workflowId ∉ ["dependency_acceptance_smoke", "dependency_failure_smoke"] : Bool)
    (refuse request run (workflowBlocker "unsupported_workflow"
      "Queue workflow review is currently supported only for dependency Queue workflows."
      (some "workflowId")))
  refuseIf (run.status == QueueWorkflowRunStatus.completed.asStr ||
      run.status == QueueWorkflowRunStatus.cancelled.asStr)
    (refuse request run (workflowBlocker "workflow_run_terminal"
      "Completed and cancelled Queue workflow runs cannot execute review." (some "status")))

/-- The binding of the slot, and its task, which is in the workspace. -/
def reviewedBinding (s : SqliteStore) (request : NormalizedReviewStepRequest)
    (run : AgentQueueWorkflowRunRow) (slotBindings : List (String × Json)) :
    Except ReviewStepRefusal (Json × String) :=
  match slotBindings.lookup request.slot with
  | none => .error (refuse request run (workflowBlocker "missing_slot_binding"
      "Queue workflow review requires an existing upstream slot binding."
      (some "slotBindings.upstream")))
  | some binding =>
      match jsonStringField binding "taskId" with
      | none => .error (refuse request run (workflowBlocker "missing_task_binding"
          "Queue workflow review requires slotBindings.upstream.taskId."
          (some "slotBindings.taskId")))
      | some taskId => do
          refuseIf (s.getAgentQueueTask request.workspaceId taskId).isNone
            (refuse request run (workflowBlocker "task_missing"
              "Queue workflow review task binding does not exist in the requested workspace."
              (some "taskId")))
          pure (binding, taskId)

/-- The evidence the binding names, or the latest one of its task. -/
def evidenceForBinding (s : SqliteStore) (request : NormalizedReviewStepRequest)
    (run : AgentQueueWorkflowRunRow) (taskId : String) (binding : Json) :
    Except ReviewStepRefusal AgentQueueWorkerEvidenceBundleRow :=
  let evidence :=
    match jsonStringField binding "evidenceBundleId" with
    | some bundleId => s.getAgentQueueWorkerEvidenceBundleById request.workspaceId bundleId
    | none => s.getLatestAgentQueueWorkerEvidenceBundle request.workspaceId taskId
  match evidence with
  | none => .error (refuse request run (workflowBlocker "evidence_missing"
      "Queue workflow review requires durable worker evidence." (some "evidenceBundleId")))
  | some evidence => do
      refuseIf (evidence.queueTaskId != taskId) (.conflict run none none
        (factConflict "review_evidence_task_mismatch"
          "Queue workflow review evidence belongs to a different Queue task."
          (some evidence.queueTaskId) (some taskId))
        (workflowBlocker "review_evidence_task_mismatch"
          "Queue workflow review evidence belongs to a different Queue task."
          (some "evidenceBundleId")))
      pure evidence

/-- The run link of the evidence. -/
def runLinkOfEvidence (s : SqliteStore) (request : NormalizedReviewStepRequest)
    (run : AgentQueueWorkflowRunRow) (taskId : String) (binding : Json)
    (evidence : AgentQueueWorkerEvidenceBundleRow) :
    Except ReviewStepRefusal AgentQueueTaskRunLinkRow := do
  refuseIf ((jsonStringField binding "runId").any (· != evidence.runId))
    (refuseConflict run none none "review_run_mismatch"
      "Queue workflow review runId does not match the durable evidence runId."
      (jsonStringField binding "runId") (some evidence.runId))
  match s.getAgentQueueTaskRunLinkByRunId request.workspaceId evidence.runId with
  | none => .error (refuse request run (workflowBlocker "run_missing"
      "Queue workflow review runId was not found in the requested workspace." (some "runId")))
  | some runLink => do
      refuseIf (runLink.queueTaskId != taskId)
        (refuseConflict run none none "review_run_task_mismatch"
          "Queue workflow review runId belongs to a different Queue task."
          (some runLink.queueTaskId) (some taskId))
      refuseIf (evidence.runLinkId.any (· != runLink.linkId))
        (refuseConflict run none none "review_evidence_run_link_mismatch"
          "Queue workflow review evidence runLinkId does not match the durable run link."
          evidence.runLinkId (some runLink.linkId))
      pure runLink

/-- Another slot of the run has a run, in its binding or in the store. -/
def downstreamHasStarted (s : SqliteStore) (workspaceId : String)
    (slotBindings : List (String × Json)) (targetSlot : String) : Bool :=
  slotBindings.any fun (slot, binding) =>
    slot != targetSlot &&
      ((jsonStringField binding "runId").isSome ||
        (jsonStringField binding "taskId").any fun taskId =>
          (s.getLatestAgentQueueTaskRunLink workspaceId taskId).isSome)

/-- The task is not decided, and no other slot has started. -/
def checkUndecided (s : SqliteStore) (request : NormalizedReviewStepRequest)
    (run : AgentQueueWorkflowRunRow) (taskId : String) (slotBindings : List (String × Json)) :
    Except ReviewStepRefusal Unit := do
  refuseIf ((s.getLatestAgentQueueCompletionDecision request.workspaceId taskId).isSome ||
      (s.getLatestAgentQueueFailureDecision request.workspaceId taskId).isSome)
    (refuse request run (workflowBlocker "terminal_decision_exists" ("Queue workflow review " ++
      "cannot run after a task completion or failure decision exists.") (some "taskId")))
  refuseIf (downstreamHasStarted s request.workspaceId slotBindings request.slot)
    (refuse request run (workflowBlocker "downstream_already_started"
      "Queue workflow review cannot run when downstream work has already started."
      (some "slotBindings.downstream.runId")))

/-- The review message the binding names, or the latest one. -/
def reviewMessageForBinding (request : NormalizedReviewStepRequest)
    (run : AgentQueueWorkflowRunRow) (binding : Json)
    (reviewMessages : List AgentQueueReviewMessageRow) (runId : String) :
    Except ReviewStepRefusal (Option AgentQueueReviewMessageRow) := do
  let message ← match jsonStringField binding "messageId" with
    | none => pure reviewMessages.head?
    | some messageId =>
        match reviewMessages.find? (·.messageId == messageId) with
        | some message => pure (some message)
        | none => .error (refuse request run (workflowBlocker "review_message_missing"
            "Persisted Queue workflow review messageId does not exist." (some "messageId")))
  match message with
  | none => pure none
  | some message => do
      refuseIf (message.runId.any (· != runId)) (.conflict run none none
        (factConflict "review_message_run_mismatch"
          "Existing Queue review message is bound to a different runId." message.runId (some runId))
        (workflowBlocker "review_message_run_mismatch"
          "Existing Queue review message is bound to a different runId." (some "messageId")))
      refuseIf (message.status != reviewMessageStatusCreated &&
          message.status != reviewMessageStatusAcknowledged)
        (refuse request run (workflowBlocker "review_message_status_not_ackable"
          "Existing Queue review message is not in an ACKable status." (some "messageId")))
      pure (some message)

/-! ## Retries of a failed review -/

def actionResultStringField (action : AgentQueueWorkflowActionRow) (field : String) :
    Option String :=
  ((JsonText.members action.resultRefsJson).lookup field).bind Json.asStr

def actionResultMessageId (action : AgentQueueWorkflowActionRow) : Option String :=
  actionResultStringField action "messageId"

def messageIdsBySlotEmpty (raw : Option JsonText) (slot : String) : Bool :=
  (((JsonText.members raw).lookup "messageIdsBySlot").bind Json.asObject).all fun messages =>
    (messages.lookup slot).isNone && messages.isEmpty

def isReviewMutationOrPartialResultAction (action : AgentQueueWorkflowActionRow) : Bool :=
  (action.actionType ∈ [createReviewActionType, ackReviewActionType, "create_review_message",
    "ack_review_message"] : Bool) || (actionResultMessageId action).isSome

def isCompletedWorkerEvidenceActionForBinding (action : AgentQueueWorkflowActionRow)
    (binding : Json) : Bool :=
  action.actionType == "record_worker_evidence" &&
    action.status == QueueWorkflowActionStatus.completed.asStr &&
    (jsonStringField binding "evidenceBundleId").any fun evidenceBundleId =>
      actionResultStringField action "evidenceBundleId" == some evidenceBundleId

def isSafeFailedReviewRetryHistoryAction (action : AgentQueueWorkflowActionRow)
    (binding : Json) : Bool :=
  match action.actionType with
  | "create_task" | "update_run_settings" | "promote_task" | "start_worker" => true
  | "record_worker_evidence" => isCompletedWorkerEvidenceActionForBinding action binding
  | "queue.lifecycle.get" | "queue.evidence.lookup" =>
      action.status == QueueWorkflowActionStatus.completed.asStr
  | _ => false

def isRetryableReviewFailureBeforeMutation (run : AgentQueueWorkflowRunRow)
    (actions : List AgentQueueWorkflowActionRow) (slotBindings : List (String × Json))
    (slot : String) (reviewMessages : List AgentQueueReviewMessageRow) : Bool :=
  run.status == QueueWorkflowRunStatus.failed.asStr && run.phase == workflowPhaseReview &&
    run.currentStep == some "review_failed_unexpected" &&
    ((slotBindings.lookup slot).bind (jsonStringField · "messageId")).isNone &&
    messageIdsBySlotEmpty run.variablesJson slot && reviewMessages.isEmpty &&
    (slotBindings.lookup slot).any fun binding =>
      !actions.any isReviewMutationOrPartialResultAction &&
        actions.any (isCompletedWorkerEvidenceActionForBinding · binding) &&
        actions.all (isSafeFailedReviewRetryHistoryAction · binding)

/-- The status and the phase of the run allow a review. -/
def checkReviewableRun (s : SqliteStore) (request : NormalizedReviewStepRequest)
    (run : AgentQueueWorkflowRunRow) (slotBindings : List (String × Json))
    (reviewMessages : List AgentQueueReviewMessageRow) : Except ReviewStepRefusal Unit := do
  let actions := s.listAgentQueueWorkflowActions request.workspaceId request.workflowRunId
  refuseIf (run.status == QueueWorkflowRunStatus.failed.asStr &&
      !isRetryableReviewFailureBeforeMutation run actions slotBindings request.slot
        reviewMessages)
    (refuse request run (workflowBlocker "review_reentry_not_retryable" ("Queue workflow review " ++
      "re-entry is allowed only for a proven review failure before durable review mutation.")
      (some "workflowRunId")))
  refuseIf (run.status ∉ ["created", "running", "paused", "blocked", "failed"] : Bool)
    (refuse request run (workflowBlocker "workflow_run_status_not_reviewable"
      "Queue workflow review cannot run from the current workflow status." (some "status")))
  refuseIf (run.phase ∉ ["worker_evidence", "review", "decision", "finalization"] : Bool)
    (refuse request run (workflowBlocker "workflow_phase_not_reviewable"
      "Queue workflow review cannot run from the current workflow phase." (some "phase")))

/-! ## Actions of the step -/

def createReviewIdempotencyKey (workflowRunId slot taskId runId evidenceBundleId : String) :
    String :=
  workflowRunId ++ ":create_review_message:" ++ slot ++ ":" ++ taskId ++ ":" ++ runId ++ ":" ++
    evidenceBundleId

def ackReviewIdempotencyKey (workflowRunId slot messageId : String) : String :=
  workflowRunId ++ ":ack_review_message:" ++ slot ++ ":" ++ messageId

def reviewTargetRefs (request : NormalizedReviewStepRequest)
    (taskId runId evidenceBundleId : String) : Json :=
  .obj [("evidenceBundleId", .str evidenceBundleId),
    ("runId", .str runId),
    ("slot", .str request.slot),
    ("taskId", .str taskId),
    ("workflowRunId", .str request.workflowRunId)]

def ackTargetRefs (request : NormalizedReviewStepRequest) (messageId taskId : String) : Json :=
  .obj [("messageId", .str messageId),
    ("slot", .str request.slot),
    ("taskId", .str taskId),
    ("workflowRunId", .str request.workflowRunId)]

/-- The create action that is there names these refs, and the message that was found. -/
def checkCreateAction (request : NormalizedReviewStepRequest) (run : AgentQueueWorkflowRunRow)
    (createTargetRefs : Json) (existingMessage : Option AgentQueueReviewMessageRow)
    (createAction : Option AgentQueueWorkflowActionRow) : Except ReviewStepRefusal Unit :=
  match createAction with
  | none => .ok ()
  | some action => do
      refuseIf (action.targetRefsJson != some (.value createTargetRefs))
        (refuseConflict run createAction none "create_review_message_action_ref_conflict"
          "Existing Queue workflow create-review action has different typed refs."
          (action.targetRefsJson.map JsonText.text) (some createTargetRefs.canonicalString))
      refuseIf ((actionResultMessageId action).isSome &&
          existingMessage.all fun message =>
            some message.messageId != actionResultMessageId action)
        (refuse request run (workflowBlocker "create_review_message_action_state_unknown"
          ("Existing create-review action contains message refs that do not match durable " ++
            "review state.") (some "createReviewMessage.resultRefs.messageId")))

/-- The acknowledgement of a message that was found: its key, its refs and its action. -/
structure ReviewAck where
  idempotencyKey : String
  targetRefs : Json
  action : Option AgentQueueWorkflowActionRow

/-- The acknowledgement of the message, with its action if there is one. -/
def findReviewAck (s : SqliteStore) (request : NormalizedReviewStepRequest)
    (run : AgentQueueWorkflowRunRow) (taskId : String)
    (createAction : Option AgentQueueWorkflowActionRow)
    (existingMessage : Option AgentQueueReviewMessageRow) :
    Except ReviewStepRefusal (Option ReviewAck) :=
  match existingMessage with
  | none => .ok none
  | some message => do
      let key := ackReviewIdempotencyKey request.workflowRunId request.slot message.messageId
      let target := ackTargetRefs request message.messageId taskId
      let action := s.getAgentQueueWorkflowActionByIdempotencyKey request.workflowRunId key
      refuseIf (action.any fun action => action.targetRefsJson != some (.value target))
        (refuseConflict run createAction action "ack_review_message_action_ref_conflict"
          "Existing Queue workflow ACK-review action has different typed refs."
          ((action.bind (·.targetRefsJson)).map JsonText.text) (some target.canonicalString))
      pure (some { idempotencyKey := key, targetRefs := target, action := action })

def freshReviewGrantBlocker (grantSummary : Option Json) : Option QueueWorkflowCommandBlocker :=
  match grantSummary with
  | none => some (workflowBlocker "review_grant_required"
      "Queue workflow review execution requires a fresh structured Queue workflow grant."
      (some "grant"))
  | some grant =>
      if ((grant.field "constraints").bind (·.field "noDownstreamAutoStart")) =
          some (.bool true) then none
      else some (workflowBlocker "review_constraints_missing" ("Queue workflow review execution " ++
        "requires grant.constraints.noDownstreamAutoStart=true.")
        (some "grant.constraints.noDownstreamAutoStart"))

/-- What a request comes to in a store. -/
def resolveQueueWorkflowReviewStep (s : SqliteStore) (request : QueueWorkflowReviewStepRequest)
    (requireFreshGrant : Bool) : Except ReviewStepRefusal ReviewStepResolution := do
  let request ← (normalizeReviewStepRequest request).mapError (.invalidInput "")
  match s.getAgentQueueWorkflowRun request.workspaceId request.workflowRunId with
  | none => .error (.notFound request (workflowBlocker "workflow_run_not_found"
      "Queue workflow run was not found." (some "workflowRunId")))
  | some run => do
      checkReviewedRun request run
      let slotBindings ← (parseSlotBindings run.slotBindingsJson).mapError
        (.invalidInput run.workflowRunId)
      let (binding, taskId) ← reviewedBinding s request run slotBindings
      let evidence ← evidenceForBinding s request run taskId binding
      let runLink ← runLinkOfEvidence s request run taskId binding evidence
      checkUndecided s request run taskId slotBindings
      let reviewMessages := s.listAgentQueueReviewMessages request.workspaceId taskId
      let existingMessage ←
        reviewMessageForBinding request run binding reviewMessages evidence.runId
      checkReviewableRun s request run slotBindings reviewMessages
      let createKey := createReviewIdempotencyKey request.workflowRunId request.slot taskId
        evidence.runId evidence.bundleId
      let createTargetRefs := reviewTargetRefs request taskId evidence.runId evidence.bundleId
      let createAction :=
        s.getAgentQueueWorkflowActionByIdempotencyKey request.workflowRunId createKey
      checkCreateAction request run createTargetRefs existingMessage createAction
      let ack ← findReviewAck s request run taskId createAction existingMessage
      let retryable := run.status == QueueWorkflowRunStatus.failed.asStr
      match (freshReviewGrantBlocker request.grantSummary).filter fun _ => requireFreshGrant with
      | some blocker => .error (.blocked {
          request := request
          workflowRun := run
          createAction := createAction
          ackAction := ack.bind (·.action)
          targetRefs := some createTargetRefs
          blocker := blocker
          retryableFailedReviewBeforeMutation := retryable })
      | none => pure {
          request := request
          workflowRun := run
          slotBindings := slotBindings
          taskId := taskId
          runId := evidence.runId
          evidence := evidence
          runLink := runLink
          existingMessage := existingMessage
          createAction := createAction
          ackAction := ack.bind (·.action)
          createIdempotencyKey := createKey
          ackIdempotencyKey := ack.map (·.idempotencyKey)
          createTargetRefs := createTargetRefs
          ackTargetRefs := ack.map (·.targetRefs)
          retryableFailedReviewBeforeMutation := retryable }

/-! ## Writing actions -/

/-- The row of an action that the step opens. -/
def openedActionRow (request : NormalizedReviewStepRequest)
    (actionId stepId actionType idempotencyKey : String) (targetRefs : Json) (now : String) :
    AgentQueueWorkflowActionRow :=
  { actionId := actionId
    workflowRunId := request.workflowRunId
    workspaceId := request.workspaceId
    stepId := stepId
    actionType := actionType
    idempotencyKey := idempotencyKey
    status := QueueWorkflowActionStatus.running.asStr
    targetRefsJson := some (.value targetRefs)
    resultRefsJson := none
    blockerCode := none
    blockerMessage := none
    attemptCount := 1
    startedAt := some now
    completedAt := none
    createdAt := now
    updatedAt := now }

/-- An action taken up again. -/
def reopenActionUpdate (action : AgentQueueWorkflowActionRow) (now : String) :
    AgentQueueWorkflowActionUpdate :=
  { status := QueueWorkflowActionStatus.running.asStr
    resultRefsJson := none
    blockerCode := none
    blockerMessage := none
    attemptCount := some (action.attemptCount + 1)
    startedAt := action.startedAt.or (some now)
    completedAt := none
    updatedAt := now }

def openReviewAction (request : NormalizedReviewStepRequest)
    (existingAction : Option AgentQueueWorkflowActionRow)
    (actionId stepId actionType idempotencyKey : String) (targetRefs : Json) (now : String) :
    Sqlite AgentQueueWorkflowActionRow :=
  match existingAction with
  | some action =>
      if action.status = QueueWorkflowActionStatus.completed.asStr then pure action
      else do
        let updated ← execute fun s => s.replaceAgentQueueWorkflowActionRefsAndResolution
          request.workspaceId request.workflowRunId idempotencyKey (some (.value targetRefs))
          (reopenActionUpdate action now)
        rowOrNoRows updated
  | none => execute fun s => s.insertAgentQueueWorkflowAction
      (openedActionRow request actionId stepId actionType idempotencyKey targetRefs now)

def completeActionUpdate (action : AgentQueueWorkflowActionRow) (resultRefs : JsonText)
    (now : String) : AgentQueueWorkflowActionUpdate :=
  { status := QueueWorkflowActionStatus.completed.asStr
    resultRefsJson := some resultRefs
    blockerCode := none
    blockerMessage := none
    attemptCount := some action.attemptCount
    startedAt := action.startedAt.or (some now)
    completedAt := some now
    updatedAt := now }

def completeReviewAction (request : NormalizedReviewStepRequest)
    (action : AgentQueueWorkflowActionRow) (idempotencyKey : String) (resultRefs : JsonText)
    (now : String) : Sqlite AgentQueueWorkflowActionRow :=
  if action.status = QueueWorkflowActionStatus.completed.asStr then
    if action.resultRefsJson ≠ some resultRefs then
      throw (.invalidParameterName ("Existing Queue workflow review action result refs do not " ++
        "match durable review state."))
    else pure action
  else do
    let updated ← execute fun s => s.replaceAgentQueueWorkflowActionResolution
      request.workspaceId request.workflowRunId idempotencyKey
      (completeActionUpdate action resultRefs now)
    rowOrNoRows updated

def fallbackCreateKeyFromTarget (targetRefs : Json) : Option String := do
  let workflowRunId ← rawStringField targetRefs "workflowRunId"
  let slot ← rawStringField targetRefs "slot"
  let taskId ← rawStringField targetRefs "taskId"
  let runId ← rawStringField targetRefs "runId"
  let evidenceBundleId ← rawStringField targetRefs "evidenceBundleId"
  some (createReviewIdempotencyKey workflowRunId slot taskId runId evidenceBundleId)

def blockedResultRefs (blocker : QueueWorkflowCommandBlocker) : JsonText :=
  .value (.obj [("commandStatus", .str "blocked_precondition"),
    ("status", .str blocker.blockerCode)])

/-- An action blocked: its refs are the ones of the request that was refused. -/
def blockedActionUpdate (action : AgentQueueWorkflowActionRow)
    (blocker : QueueWorkflowCommandBlocker) (now : String) : AgentQueueWorkflowActionUpdate :=
  { status := QueueWorkflowActionStatus.blocked.asStr
    resultRefsJson := some (blockedResultRefs blocker)
    blockerCode := some blocker.blockerCode
    blockerMessage := some blocker.blockerMessage
    attemptCount := some (action.attemptCount + 1)
    startedAt := action.startedAt
    completedAt := some now
    updatedAt := now }

/-- The row of an action that is blocked from the start. -/
def blockedActionRow (ref : WorkflowRunRef) (actionId stepId actionType idempotencyKey : String)
    (targetRefs : Json) (blocker : QueueWorkflowCommandBlocker) (now : String) :
    AgentQueueWorkflowActionRow :=
  { actionId := actionId
    workflowRunId := ref.workflowRunId
    workspaceId := ref.workspaceId
    stepId := stepId
    actionType := actionType
    idempotencyKey := idempotencyKey
    status := QueueWorkflowActionStatus.blocked.asStr
    targetRefsJson := some (.value targetRefs)
    resultRefsJson := some (blockedResultRefs blocker)
    blockerCode := some blocker.blockerCode
    blockerMessage := some blocker.blockerMessage
    attemptCount := 1
    startedAt := some now
    completedAt := some now
    createdAt := now
    updatedAt := now }

def recordBlockedReviewAction (d : Draws) (request : NormalizedReviewStepRequest)
    (existingAction : Option AgentQueueWorkflowActionRow) (targetRefs : Json)
    (blocker : QueueWorkflowCommandBlocker) : Sqlite AgentQueueWorkflowActionRow :=
  match existingAction with
  | some action => do
      let updated ← execute fun s => s.replaceAgentQueueWorkflowActionRefsAndResolution
        request.workspaceId request.workflowRunId action.idempotencyKey (some (.value targetRefs))
        (blockedActionUpdate action blocker (d.timestamp 0))
      rowOrNoRows updated
  | none => execute fun s => s.insertAgentQueueWorkflowAction
      (blockedActionRow request.toWorkflowRunRef (d.placeholderId "queue-workflow-action-" 1)
        createReviewStepId createReviewActionType
        ((fallbackCreateKeyFromTarget targetRefs).getD
          (request.workflowRunId ++ ":create_review_message:blocked"))
        targetRefs blocker (d.timestamp 0))

/-! ## Writing the run -/

/-- The columns of a run that is blocked in a phase. -/
def blockRunUpdate (phase currentStep : String) (blocker : QueueWorkflowCommandBlocker)
    (now : String) : AgentQueueWorkflowRunReportUpdate :=
  { status := QueueWorkflowRunStatus.blocked.asStr
    phase := some phase
    currentStep := some currentStep
    pauseReason := none
    blockerReason := some blocker.blockerMessage
    variablesJson := none
    slotBindingsJson := none
    mutationRefsJson := none
    idempotencyKeysJson := none
    actionLogSummaryJson := none
    updatedAt := now
    completedAt := none }

def blockWorkflowRunForReview (d : Draws) (request : NormalizedReviewStepRequest)
    (blocker : QueueWorkflowCommandBlocker) : Sqlite AgentQueueWorkflowRunRow := do
  let updated ← execute fun s => s.updateAgentQueueWorkflowRunReport request.workspaceId
    request.workflowRunId
    (blockRunUpdate workflowPhaseReview "review_blocked" blocker (d.timestamp 2))
  rowOrNoRows updated

def boundedJson (value : Json) (maxBytes : ℕ) (fieldName : String) : Sqlite JsonText :=
  if maxBytes < utf8Length value.canonicalString then
    throw (.invalidParameterName
      ("Queue workflow " ++ fieldName ++ " JSON exceeds the configured byte limit."))
  else pure (.value value)

def updateBindingWithReview (slotBindings : List (String × Json)) (slot : String)
    (message : AgentQueueReviewMessageRow) (createAction ackAction : AgentQueueWorkflowActionRow)
    (createKey ackKey : String) : List (String × Json) :=
  Json.updateEntry slot (Json.insertMembers (presentMembers [
    ("messageId", some (.str message.messageId)),
    ("reviewCreateActionId", some (.str createAction.actionId)),
    ("reviewCreateActionIdempotencyKey", some (.str createKey)),
    ("reviewAckActionId", some (.str ackAction.actionId)),
    ("reviewAckActionIdempotencyKey", some (.str ackKey)),
    ("reviewStatus", some (.str message.status)),
    ("reviewAckedAt", message.ackedAt.map .str)])) slotBindings

def mutationRefs (existing : Option JsonText) (request : NormalizedReviewStepRequest)
    (message : AgentQueueReviewMessageRow) (evidence : AgentQueueWorkerEvidenceBundleRow) : Json :=
  .obj (Json.insertMember "review" (.obj [
    ("evidenceBundleId", .str evidence.bundleId),
    ("messageId", .str message.messageId),
    ("runId", .str evidence.runId),
    ("slot", .str request.slot),
    ("status", .str message.status),
    ("taskId", .str evidence.queueTaskId)]) (JsonText.members existing))

def idempotencyKeys (existing : Option JsonText) (createKey ackKey : String) : Json :=
  .obj (Json.insertMember "review" (.obj [
    ("ackReviewMessage", .str ackKey),
    ("createReviewMessage", .str createKey)]) (JsonText.members existing))

def actionLogSummary (existing : Option JsonText) (request : NormalizedReviewStepRequest)
    (message : AgentQueueReviewMessageRow) : Json :=
  .obj (Json.insertMember "review" (.obj [
    ("ackStatus", .str message.status),
    ("messageId", .str message.messageId),
    ("slot", .str request.slot)]) (JsonText.members existing))

def variablesObject (existing : Option JsonText) (request : NormalizedReviewStepRequest)
    (message : AgentQueueReviewMessageRow) (evidence : AgentQueueWorkerEvidenceBundleRow) : Json :=
  let merge := fun (members : List (String × Json)) (entry : String × String) =>
    Json.mergeStringMember members entry.1 request.slot entry.2
  let merged := [("messageIdsBySlot", message.messageId),
    ("evidenceBundleIdsBySlot", evidence.bundleId),
    ("runIdsBySlot", evidence.runId),
    ("taskIdsBySlot", evidence.queueTaskId)].foldl merge (JsonText.members existing)
  .obj (Json.insertMember "reviewAcknowledgedBySlot" (.obj [(request.slot, .bool true)]) merged)

def reviewMessageBody (evidence : AgentQueueWorkerEvidenceBundleRow) : String :=
  if Text.trim evidence.summary = "" then defaultReviewMessageBody
  else String.ofList ((Text.trim evidence.summary).toList.take 4000)

def newReviewMessage (d : Draws) (resolved : ReviewStepResolution) : AgentQueueReviewMessageRow :=
  { messageId := d.placeholderId "queue-review-message-" 2
    workspaceId := resolved.request.workspaceId
    queueTaskId := resolved.taskId
    runId := some resolved.runId
    runLinkId := some resolved.runLink.linkId
    actorId := resolved.request.actorId
    messageBody := reviewMessageBody resolved.evidence
    status := reviewMessageStatusCreated
    createdAt := d.timestamp 0
    ackedAt := none
    ackActorId := none
    metadataJson := none
    updatedAt := d.timestamp 0 }

/-! ## The step -/

def reviewCreateRefsMatch (rawRefs : JsonText) (evidenceBundleId messageId runId : String) :
    Bool :=
  match rawRefs.parse with
  | none => false
  | some refs =>
      jsonStringField refs "evidenceBundleId" == some evidenceBundleId &&
        jsonStringField refs "messageId" == some messageId &&
        jsonStringField refs "runId" == some runId

/-- The refs a completed action has keep standing when they name the same message. -/
def reviewCreateResultRefs (action : AgentQueueWorkflowActionRow)
    (evidenceBundleId messageId runId : String) (hadMessage : Bool) : JsonText :=
  let fresh : JsonText := .value (.obj [
    ("evidenceBundleId", .str evidenceBundleId),
    ("messageId", .str messageId),
    ("runId", .str runId),
    ("status", .str (if hadMessage then "reused" else "created"))])
  if action.status = QueueWorkflowActionStatus.completed.asStr then
    (action.resultRefsJson.filter
      (reviewCreateRefsMatch · evidenceBundleId messageId runId)).getD fresh
  else fresh

def reviewAckRefsMatch (rawRefs : JsonText) (messageId : String) : Bool :=
  match rawRefs.parse with
  | none => false
  | some refs =>
      jsonStringField refs "messageId" == some messageId &&
        jsonStringField refs "status" == some reviewMessageStatusAcknowledged

def reviewAckResultRefs (action : AgentQueueWorkflowActionRow) (messageId : String)
    (hadAck : Bool) : JsonText :=
  let fresh : JsonText := .value (.obj [
    ("ackStatus", .str (if hadAck then "already_acknowledged" else "acknowledged")),
    ("messageId", .str messageId),
    ("status", .str "acknowledged")])
  if action.status = QueueWorkflowActionStatus.completed.asStr then
    (action.resultRefsJson.filter (reviewAckRefsMatch · messageId)).getD fresh
  else fresh

/-- The message of the task: the one that was found, or a new one. -/
def createdMessage (d : Draws) (resolved : ReviewStepResolution) :
    Sqlite AgentQueueReviewMessageRow :=
  match resolved.existingMessage with
  | some message => pure message
  | none => execute fun s => s.insertAgentQueueReviewMessage (newReviewMessage d resolved)

/-- The message acknowledged, unless it is already. -/
def acknowledgedMessage (d : Draws) (resolved : ReviewStepResolution)
    (message : AgentQueueReviewMessageRow) : Sqlite AgentQueueReviewMessageRow :=
  if message.status = reviewMessageStatusAcknowledged then pure message
  else do
    let _ ← execute fun s => s.ackAgentQueueReviewMessage resolved.request.workspaceId
      resolved.taskId message.messageId reviewMessageStatusAcknowledged resolved.request.actorId
      (d.timestamp 0) (d.timestamp 0)
    let row ← query fun s => s.getAgentQueueReviewMessage resolved.request.workspaceId
      resolved.taskId message.messageId
    rowOrNoRows row

/-- The run as it pauses after the review. -/
def reviewedRunUpdate (d : Draws)
    (slotBindings mutationRefs idempotencyKeys actionLogSummary variablesJson : JsonText) :
    AgentQueueWorkflowRunReportUpdate :=
  { status := QueueWorkflowRunStatus.paused.asStr
    phase := some workflowPhaseReview
    currentStep := some workflowStepAwaitingFinalization
    pauseReason := some pauseReasonAwaitingFinalization
    blockerReason := none
    variablesJson := some variablesJson
    slotBindingsJson := some slotBindings
    mutationRefsJson := some mutationRefs
    idempotencyKeysJson := some idempotencyKeys
    actionLogSummaryJson := some actionLogSummary
    updatedAt := d.timestamp 0
    completedAt := none }

/-- The review written into the run. -/
def storeReviewedRun (d : Draws) (resolved : ReviewStepResolution)
    (message : AgentQueueReviewMessageRow) (createAction ackAction : AgentQueueWorkflowActionRow)
    (ackKey : String) : Sqlite AgentQueueWorkflowRunRow := do
  let run := resolved.workflowRun
  let slotBindings ← boundedJson (.obj (updateBindingWithReview resolved.slotBindings
    resolved.request.slot message createAction ackAction resolved.createIdempotencyKey ackKey))
    maxWorkflowSlotBindingsJsonBytes "slotBindings"
  let mutationRefs ← boundedJson
    (mutationRefs run.mutationRefsJson resolved.request message resolved.evidence)
    maxWorkflowMutationRefsJsonBytes "mutationRefs"
  let idempotencyKeys ← boundedJson
    (idempotencyKeys run.idempotencyKeysJson resolved.createIdempotencyKey ackKey)
    maxWorkflowIdempotencyKeysJsonBytes "idempotencyKeys"
  let actionLogSummary ← boundedJson
    (actionLogSummary run.actionLogSummaryJson resolved.request message)
    maxWorkflowActionLogSummaryJsonBytes "actionLogSummary"
  let variablesJson ← boundedJson
    (variablesObject run.variablesJson resolved.request message resolved.evidence)
    maxWorkflowVariablesJsonBytes "variables"
  let updated ← execute fun s => s.updateAgentQueueWorkflowRunReportReopened
    resolved.request.workspaceId resolved.request.workflowRunId
    (reviewedRunUpdate d slotBindings mutationRefs idempotencyKeys actionLogSummary variablesJson)
  rowOrNoRows updated

/-- The answer to a review. -/
def reviewAnswer (resolved : ReviewStepResolution) (message : AgentQueueReviewMessageRow)
    (createAction ackAction : AgentQueueWorkflowActionRow) (ackKey : String)
    (updatedRun : AgentQueueWorkflowRunRow) (hadMessage hadAck : Bool) :
    QueueWorkflowReviewStepResult :=
  { workflowRunId := resolved.request.workflowRunId
    status := if hadMessage && hadAck then .alreadyApplied else .executed
    createAction := some createAction
    ackAction := some ackAction
    messageId := some message.messageId
    ackStatus := some reviewMessageStatusAcknowledged
    binding := some {
      slot := resolved.request.slot
      taskId := resolved.taskId
      runId := resolved.runId
      evidenceBundleId := resolved.evidence.bundleId
      messageId := message.messageId
      createActionId := some createAction.actionId
      createActionIdempotencyKey := resolved.createIdempotencyKey
      ackActionId := some ackAction.actionId
      ackActionIdempotencyKey := ackKey
      ackStatus := message.status
      reviewCreatedAt := some message.createdAt
      reviewAckedAt := message.ackedAt }
    workflowRun := some updatedRun
    nextPhase := some "finalization"
    nextStep := some workflowStepAwaitingFinalization
    blockers := []
    conflict := none }

/-- The message created and its action completed. -/
def createReview (d : Draws) (resolved : ReviewStepResolution) :
    Sqlite (AgentQueueReviewMessageRow × AgentQueueWorkflowActionRow) := do
  let now := d.timestamp 0
  let createAction ← openReviewAction resolved.request resolved.createAction
    (d.placeholderId "queue-workflow-action-" 1) createReviewStepId createReviewActionType
    resolved.createIdempotencyKey resolved.createTargetRefs now
  let message ← createdMessage d resolved
  let createAction ← completeReviewAction resolved.request createAction
    resolved.createIdempotencyKey (reviewCreateResultRefs createAction
      resolved.evidence.bundleId message.messageId resolved.runId resolved.existingMessage.isSome)
    now
  pure (message, createAction)

/-- The message acknowledged and its action completed. -/
def ackReview (d : Draws) (resolved : ReviewStepResolution)
    (message : AgentQueueReviewMessageRow) (ackKey : String) :
    Sqlite (AgentQueueReviewMessageRow × AgentQueueWorkflowActionRow) := do
  let now := d.timestamp 0
  let hadAck := message.status == reviewMessageStatusAcknowledged
  let ackAction ← openReviewAction resolved.request resolved.ackAction
    (d.placeholderId "queue-workflow-action-" 3) ackReviewStepId ackReviewActionType ackKey
    (resolved.ackTargetRefs.getD
      (ackTargetRefs resolved.request message.messageId resolved.taskId)) now
  let message ← acknowledgedMessage d resolved message
  let ackAction ← completeReviewAction resolved.request ackAction ackKey
    (reviewAckResultRefs ackAction message.messageId hadAck) now
  pure (message, ackAction)

/-- What a review that may go on writes. -/
def executeReadyReviewStep (d : Draws) (resolved : ReviewStepResolution) :
    Sqlite QueueWorkflowReviewStepResult := do
  let (created, createAction) ← createReview d resolved
  let ackKey := resolved.ackIdempotencyKey.getD (ackReviewIdempotencyKey
    resolved.request.workflowRunId resolved.request.slot created.messageId)
  let (message, ackAction) ← ackReview d resolved created ackKey
  let updatedRun ← storeReviewedRun d resolved message createAction ackAction ackKey
  execute fun s => s.touchWorkspace resolved.request.workspaceId (d.timestamp 4)
  pure (reviewAnswer resolved message createAction ackAction ackKey updatedRun
    resolved.existingMessage.isSome (created.status == reviewMessageStatusAcknowledged))

/-- The answer to a request that is refused. -/
def refusedAnswer (workflowRunId : String) (status : QueueWorkflowReviewStepResultStatus)
    (createAction ackAction : Option AgentQueueWorkflowActionRow)
    (workflowRun : Option AgentQueueWorkflowRunRow) (nextStep : Option String)
    (blocker : QueueWorkflowCommandBlocker) (conflict : Option QueueWorkflowConflict) :
    QueueWorkflowReviewStepResult :=
  { workflowRunId := workflowRunId
    status := status
    createAction := createAction
    ackAction := ackAction
    messageId := none
    ackStatus := none
    binding := none
    workflowRun := workflowRun
    nextPhase := some workflowPhaseReview
    nextStep := nextStep
    blockers := [blocker]
    conflict := conflict }

/-- A refusal for the state of the run is recorded in the run, and in the action when its
refs are known. -/
def recordBlockedReview (d : Draws) (blocked : BlockedReview) :
    Sqlite QueueWorkflowReviewStepResult := do
  let action ← match blocked.targetRefs with
    | some targetRefs => do
        let action ← recordBlockedReviewAction d blocked.request blocked.createAction targetRefs
          blocked.blocker
        pure (some action)
    | none => pure blocked.createAction
  let run ← blockWorkflowRunForReview d blocked.request blocked.blocker
  pure (refusedAnswer blocked.request.workflowRunId .blockedPrecondition action blocked.ackAction
    (some run) (some "review_blocked") blocked.blocker none)

/-- What the command writes. -/
def executeReviewStepResolution (d : Draws) :
    Except ReviewStepRefusal ReviewStepResolution → Sqlite QueueWorkflowReviewStepResult
  | .ok resolved => executeReadyReviewStep d resolved
  | .error (.blocked blocked) => recordBlockedReview d blocked
  | .error (.conflict run createAction ackAction conflict blocker) =>
      pure (refusedAnswer run.workflowRunId .conflict createAction ackAction (some run)
        (some "review_blocked") blocker (some conflict))
  | .error (.notFound request blocker) =>
      pure (refusedAnswer request.workflowRunId .notFound none none none none blocker none)
  | .error (.invalidInput workflowRunId blocker) =>
      pure (refusedAnswer workflowRunId .invalidInput none none none none blocker none)

/-- The command that reviews the task of a slot. -/
def executeQueueWorkflowReviewStep (d : Draws) (request : QueueWorkflowReviewStepRequest) :
    Service QueueWorkflowReviewStepResult :=
  withImmediateTransaction mapStorageAgentQueueTaskError do
    let resolution ← query fun s => resolveQueueWorkflowReviewStep s request true
    executeReviewStepResolution d resolution

end HobitQueue.WorkflowReview
