import HobitQueue.Workflow.Review

/-!
# The finalization step of a workflow

The finalization step decides the upstream task of a workflow and closes its run. A request
is checked against the run, the binding of its slot, the evidence, the review and the
decisions of the task, the downstream task and the actions of the run, in this order.
-/

namespace HobitQueue.WorkflowFinalization

open Concurrent StoreProg
open WorkflowReview (required factConflict)

def workflowPhaseFinalization : String := "finalization"
def finalizationConfirmationToken : String := "operator-confirmed"

structure QueueWorkflowFinalizationStepRequest where
  workspaceId : String
  workflowRunId : String
  slot : Option String
  actorId : Option String
  requestId : Option String
  grantSummary : Option Json
  confirmationToken : Option String
  failureReason : Option String
  expectedVersion : Option ℤ

inductive QueueWorkflowFinalizationStepTransition where
  | finalizeDone | finalizeFail
  deriving DecidableEq, Repr

namespace QueueWorkflowFinalizationStepTransition

def asStr : QueueWorkflowFinalizationStepTransition → String
  | finalizeDone => "finalize_done"
  | finalizeFail => "finalize_fail"

def actionType : QueueWorkflowFinalizationStepTransition → String
  | finalizeDone => "queue.item.markDone"
  | finalizeFail => "queue.item.fail"

def stepId : QueueWorkflowFinalizationStepTransition → String
  | finalizeDone => "finalization.mark_done"
  | finalizeFail => "finalization.fail"

end QueueWorkflowFinalizationStepTransition

structure QueueWorkflowFinalizationDownstreamVerification where
  downstreamTaskId : Option String
  dependencyState : Option String
  ticketState : Option String
  workerRunState : Option String
  latestRunId : Option String
  expectedDependencyState : String
  dependencyVerified : Bool
  notAutoStartedVerified : Bool
  verificationMissing : Bool
  deriving DecidableEq

structure NormalizedFinalizationStepRequest extends WorkflowRunRef where
  slot : String
  actorId : String
  grantSummary : Option Json
  confirmationToken : Option String
  failureReason : Option String
  expectedVersion : Option ℤ

structure FinalizationFacts where
  runId : String
  evidence : AgentQueueWorkerEvidenceBundleRow
  runLink : AgentQueueTaskRunLinkRow
  reviewMessage : AgentQueueReviewMessageRow

/-- What a request that goes on has found. -/
structure FinalizationStepResolution where
  request : NormalizedFinalizationStepRequest
  workflowRun : AgentQueueWorkflowRunRow
  slotBindings : List (String × Json)
  taskId : String
  facts : FinalizationFacts
  completionDecision : Option AgentQueueCompletionDecisionRow
  failureDecision : Option AgentQueueFailureDecisionRow
  action : Option AgentQueueWorkflowActionRow
  actionIdempotencyKey : String
  targetRefs : Json
  transition : QueueWorkflowFinalizationStepTransition
  downstreamVerification : QueueWorkflowFinalizationDownstreamVerification
  retryableFailedFinalizationBeforeMutation : Bool

/-- A request that is refused for the state of its run: the source names the request and
the run in every one of these. -/
structure BlockedFinalization where
  request : NormalizedFinalizationStepRequest
  workflowRun : AgentQueueWorkflowRunRow
  action : Option AgentQueueWorkflowActionRow
  targetRefs : Option Json
  transition : Option QueueWorkflowFinalizationStepTransition
  blocker : QueueWorkflowCommandBlocker
  retryableFailedFinalizationBeforeMutation : Bool

/-- The ways a request ends before it decides. -/
inductive FinalizationStepRefusal where
  | blocked (blocked : BlockedFinalization)
  | conflict (workflowRun : AgentQueueWorkflowRunRow)
      (action : Option AgentQueueWorkflowActionRow)
      (transition : Option QueueWorkflowFinalizationStepTransition)
      (conflict : QueueWorkflowConflict) (blocker : QueueWorkflowCommandBlocker)
  | notFound (request : NormalizedFinalizationStepRequest)
      (blocker : QueueWorkflowCommandBlocker)
  | invalidInput (workflowRunId : String)
      (transition : Option QueueWorkflowFinalizationStepTransition)
      (blocker : QueueWorkflowCommandBlocker)

/-! ## The request -/

/-- The finalization request, trimmed and checked. -/
def normalizeFinalizationStepRequest (request : QueueWorkflowFinalizationStepRequest) :
    Except QueueWorkflowCommandBlocker NormalizedFinalizationStepRequest := do
  let workspaceId ← required request.workspaceId "workspaceId"
  let workflowRunId ← required request.workflowRunId "workflowRunId"
  let slot := (Text.optionalTrimmed request.slot).getD "upstream"
  refuseIf (slot != "upstream") (workflowBlocker "unsupported_slot"
    "Queue dependency workflow finalization currently supports only the upstream slot."
    (some "slot"))
  pure {
    workspaceId := workspaceId
    workflowRunId := workflowRunId
    slot := slot
    actorId := (Text.optionalTrimmed request.actorId).getD "workspace-agent"
    grantSummary := request.grantSummary
    confirmationToken := Text.optionalTrimmed request.confirmationToken
    failureReason := Text.optionalTrimmed request.failureReason
    expectedVersion := request.expectedVersion }

/-- `blocked`. -/
def refuse (request : NormalizedFinalizationStepRequest) (workflowRun : AgentQueueWorkflowRunRow)
    (transition : Option QueueWorkflowFinalizationStepTransition)
    (blocker : QueueWorkflowCommandBlocker) : FinalizationStepRefusal :=
  .blocked {
    request := request
    workflowRun := workflowRun
    action := none
    targetRefs := none
    transition := transition
    blocker := blocker
    retryableFailedFinalizationBeforeMutation := false }

/-- `conflict`. -/
def refuseConflict (workflowRun : AgentQueueWorkflowRunRow)
    (action : Option AgentQueueWorkflowActionRow)
    (transition : Option QueueWorkflowFinalizationStepTransition) (code message : String)
    (existing requested : Option String) : FinalizationStepRefusal :=
  .conflict workflowRun action transition
    { conflictCode := code
      conflictMessage := message
      existingWorkflowRunId := some workflowRun.workflowRunId
      existingRequestHash := existing
      requestedRequestHash := requested }
    (workflowBlocker code message none)

/-- The slot bindings as the finalization reads them: neither a blank text nor `null`
counts as empty. -/
def parseSlotBindings (slotBindingsJson : Option JsonText) :
    Except QueueWorkflowCommandBlocker (List (String × Json)) :=
  match slotBindingsJson with
  | none => .ok []
  | some raw =>
      match raw.parse with
      | none => .error (workflowBlocker "invalid_slot_bindings_json"
          "Queue workflow slotBindings JSON could not be parsed." (some "slotBindings"))
      | some (.obj members) => .ok members
      | some _ => .error (workflowBlocker "invalid_slot_bindings_json"
          "Queue workflow slotBindings must be a JSON object." (some "slotBindings"))

/-! ## The run and its binding -/

/-- The version and the workflow of a run, and the transition its workflow ends with. -/
def finalizationTransition (request : NormalizedFinalizationStepRequest)
    (run : AgentQueueWorkflowRunRow) :
    Except FinalizationStepRefusal QueueWorkflowFinalizationStepTransition := do
  refuseIf (request.expectedVersion.any (run.version != ·))
    (refuseConflict run none none "workflow_version_conflict" ("Queue workflow finalization " ++
      "expectedVersion does not match the durable workflow version.")
      (some (toString run.version)) (request.expectedVersion.map toString))
  let transition ← match run.workflowId with
    | "dependency_acceptance_smoke" => pure .finalizeDone
    | "dependency_failure_smoke" => pure .finalizeFail
    | _ => .error (refuse request run none (workflowBlocker "unsupported_workflow"
        "Queue workflow finalization is supported only for dependency Queue workflows."
        (some "workflowId")))
  refuseIf (run.status == QueueWorkflowRunStatus.cancelled.asStr)
    (refuse request run (some transition) (workflowBlocker "workflow_run_cancelled"
      "Cancelled Queue workflow runs cannot execute finalization." (some "status")))
  pure transition

/-- The binding of the slot, and its task, which is in the workspace. -/
def finalizedBinding (s : SqliteStore) (request : NormalizedFinalizationStepRequest)
    (run : AgentQueueWorkflowRunRow) (transition : QueueWorkflowFinalizationStepTransition)
    (slotBindings : List (String × Json)) : Except FinalizationStepRefusal (Json × String) :=
  match slotBindings.lookup request.slot with
  | none => .error (refuse request run (some transition) (workflowBlocker "missing_slot_binding"
      "Queue workflow finalization requires an existing upstream slot binding."
      (some "slotBindings.upstream")))
  | some binding =>
      match jsonStringField binding "taskId" with
      | none => .error (refuse request run (some transition) (workflowBlocker
          "missing_task_binding"
          "Queue workflow finalization requires slotBindings.upstream.taskId."
          (some "slotBindings.taskId")))
      | some taskId => do
          refuseIf (s.getAgentQueueTask request.workspaceId taskId).isNone
            (refuse request run (some transition) (workflowBlocker "task_missing" ("Queue " ++
              "workflow finalization task binding does not exist in the requested workspace.")
              (some "taskId")))
          pure (binding, taskId)

/-- A fact that contradicts the others: it is named by the field it was read from. -/
def factMismatch (run : AgentQueueWorkflowRunRow)
    (transition : QueueWorkflowFinalizationStepTransition) (code message field : String)
    (existing requested : Option String) : FinalizationStepRefusal :=
  .conflict run none (some transition) (factConflict code message existing requested)
    (workflowBlocker code message (some field))

/-- The evidence the binding names, or the latest one of its task. -/
def evidenceForBinding (s : SqliteStore) (request : NormalizedFinalizationStepRequest)
    (run : AgentQueueWorkflowRunRow) (transition : QueueWorkflowFinalizationStepTransition)
    (binding : Json) (taskId : String) :
    Except FinalizationStepRefusal AgentQueueWorkerEvidenceBundleRow :=
  let evidence :=
    match jsonStringField binding "evidenceBundleId" with
    | some bundleId => s.getAgentQueueWorkerEvidenceBundleById request.workspaceId bundleId
    | none => s.getLatestAgentQueueWorkerEvidenceBundle request.workspaceId taskId
  match evidence with
  | none => .error (refuse request run (some transition) (workflowBlocker "evidence_missing"
      "Queue workflow finalization requires durable worker evidence." (some "evidenceBundleId")))
  | some evidence => do
      refuseIf (evidence.queueTaskId != taskId)
        (factMismatch run transition "finalization_evidence_task_mismatch"
          "Queue workflow finalization evidence belongs to a different Queue task."
          "evidenceBundleId" (some evidence.queueTaskId) (some taskId))
      pure evidence

/-- The run link of the evidence. -/
def runLinkOfEvidence (s : SqliteStore) (request : NormalizedFinalizationStepRequest)
    (run : AgentQueueWorkflowRunRow) (transition : QueueWorkflowFinalizationStepTransition)
    (binding : Json) (taskId : String) (evidence : AgentQueueWorkerEvidenceBundleRow) :
    Except FinalizationStepRefusal AgentQueueTaskRunLinkRow := do
  refuseIf ((jsonStringField binding "runId").any (· != evidence.runId))
    (factMismatch run transition "finalization_run_mismatch"
      "Queue workflow finalization runId does not match durable evidence runId." "runId"
      (jsonStringField binding "runId") (some evidence.runId))
  match s.getAgentQueueTaskRunLinkByRunId request.workspaceId evidence.runId with
  | none => .error (refuse request run (some transition) (workflowBlocker "run_missing"
      "Queue workflow finalization runId was not found in the requested workspace."
      (some "runId")))
  | some runLink => do
      refuseIf (runLink.queueTaskId != taskId)
        (factMismatch run transition "finalization_run_task_mismatch"
          "Queue workflow finalization runId belongs to a different Queue task." "runId"
          (some runLink.queueTaskId) (some taskId))
      refuseIf (evidence.runLinkId.any (· != runLink.linkId))
        (factMismatch run transition "finalization_evidence_run_link_mismatch" ("Queue workflow " ++
          "finalization evidence runLinkId does not match the durable run link.") "runLinkId"
          evidence.runLinkId (some runLink.linkId))
      pure runLink

/-- The acknowledged message the binding names, or the latest one. -/
def acknowledgedReview (s : SqliteStore) (request : NormalizedFinalizationStepRequest)
    (run : AgentQueueWorkflowRunRow) (transition : QueueWorkflowFinalizationStepTransition)
    (binding : Json) (taskId runId : String) :
    Except FinalizationStepRefusal AgentQueueReviewMessageRow :=
  let reviewMessages := s.listAgentQueueReviewMessages request.workspaceId taskId
  let reviewMessage :=
    match jsonStringField binding "messageId" with
    | some messageId => reviewMessages.find? fun (message : AgentQueueReviewMessageRow) =>
        message.messageId == messageId
    | none => reviewMessages.head?
  match reviewMessage with
  | none => .error (refuse request run (some transition) (workflowBlocker
      "review_message_missing"
      "Queue workflow finalization requires a durable backend review message."
      (some "messageId")))
  | some message => do
      refuseIf (message.runId.any (· != runId))
        (factMismatch run transition "finalization_review_message_run_mismatch"
          "Queue workflow finalization review message belongs to a different runId." "messageId"
          message.runId (some runId))
      refuseIf (message.status != reviewMessageStatusAcknowledged)
        (refuse request run (some transition) (workflowBlocker "review_not_acked"
          "Queue workflow finalization requires an ACKed durable review message."
          (some "messageId")))
      pure message

/-- The evidence, the run link and the review of the task. -/
def resolveFinalizationFacts (s : SqliteStore) (request : NormalizedFinalizationStepRequest)
    (run : AgentQueueWorkflowRunRow) (transition : QueueWorkflowFinalizationStepTransition)
    (binding : Json) (taskId : String) : Except FinalizationStepRefusal FinalizationFacts := do
  let evidence ← evidenceForBinding s request run transition binding taskId
  let runLink ← runLinkOfEvidence s request run transition binding taskId evidence
  let reviewMessage ← acknowledgedReview s request run transition binding taskId evidence.runId
  pure {
    runId := evidence.runId
    evidence := evidence
    runLink := runLink
    reviewMessage := reviewMessage }

/-! ## Decisions and the downstream task -/

def matchingDecision (transition : QueueWorkflowFinalizationStepTransition)
    (completionDecision : Option AgentQueueCompletionDecisionRow)
    (failureDecision : Option AgentQueueFailureDecisionRow) : Option String :=
  match transition with
  | .finalizeDone => completionDecision.map (·.decisionId)
  | .finalizeFail => failureDecision.map (·.decisionId)

/-- `decision_conflict_or_already_applied`: the field and the id of an opposite decision. -/
def oppositeDecision (transition : QueueWorkflowFinalizationStepTransition)
    (completionDecision : Option AgentQueueCompletionDecisionRow)
    (failureDecision : Option AgentQueueFailureDecisionRow) : Option (String × String) :=
  match transition with
  | .finalizeDone => failureDecision.map fun decision => ("failureDecisionId", decision.decisionId)
  | .finalizeFail =>
      completionDecision.map fun decision => ("completionDecisionId", decision.decisionId)

/-- The opposite decision is not recorded yet. -/
def checkOppositeDecision (run : AgentQueueWorkflowRunRow)
    (transition : QueueWorkflowFinalizationStepTransition)
    (completionDecision : Option AgentQueueCompletionDecisionRow)
    (failureDecision : Option AgentQueueFailureDecisionRow) :
    Except FinalizationStepRefusal Unit :=
  match oppositeDecision transition completionDecision failureDecision with
  | none => .ok ()
  | some (field, decisionId) => .error (.conflict run none (some transition)
      { conflictCode := "opposite_terminal_decision_exists"
        conflictMessage := "Queue workflow finalization conflicts with an existing opposite " ++
          "terminal decision."
        existingWorkflowRunId := some run.workflowRunId
        existingRequestHash := some decisionId
        requestedRequestHash := none }
      (workflowBlocker "opposite_terminal_decision_exists" ("Queue workflow finalization " ++
        "conflicts with an existing opposite terminal decision.") (some field)))

/-- The first other slot that is bound to a task, and whether that task has a run. -/
def downstreamVerification (s : SqliteStore) (workspaceId : String)
    (slotBindings : List (String × Json)) (targetSlot : String)
    (transition : QueueWorkflowFinalizationStepTransition) :
    QueueWorkflowFinalizationDownstreamVerification :=
  let downstreamTaskId := slotBindings.findSome? fun (slot, binding) =>
    if slot = targetSlot then none else jsonStringField binding "taskId"
  let latestRun := downstreamTaskId.bind (s.getLatestAgentQueueTaskRunLink workspaceId)
  { downstreamTaskId := downstreamTaskId
    dependencyState := none
    ticketState := none
    workerRunState := none
    latestRunId := latestRun.map (·.directWorkRunId)
    expectedDependencyState :=
      match transition with
      | .finalizeDone => "ready"
      | .finalizeFail => "failed_upstream"
    dependencyVerified := false
    notAutoStartedVerified := downstreamTaskId.isSome && latestRun.isNone
    verificationMissing := downstreamTaskId.isNone }

/-- The downstream task is bound and has not started, unless the decision is there. -/
def checkDownstream (request : NormalizedFinalizationStepRequest)
    (run : AgentQueueWorkflowRunRow) (transition : QueueWorkflowFinalizationStepTransition)
    (verification : QueueWorkflowFinalizationDownstreamVerification)
    (requireAuthority alreadyApplied : Bool) : Except FinalizationStepRefusal Unit := do
  refuseIf (verification.verificationMissing && requireAuthority && !alreadyApplied)
    (refuse request run (some transition) (workflowBlocker "downstream_binding_missing"
      ("Queue workflow finalization requires a downstream dependency binding to verify no " ++
        "auto-start.") (some "slotBindings.downstream.taskId")))
  refuseIf (!verification.verificationMissing && !verification.notAutoStartedVerified &&
      !alreadyApplied)
    (refuse request run (some transition) (workflowBlocker "downstream_already_started"
      "Queue workflow finalization cannot run when downstream work has already started."
      (some "slotBindings.downstream.runId")))

/-- The actions that may stand in the history of a finalization that is tried again. -/
def isSafeFailedFinalizationRetryHistoryAction (action : AgentQueueWorkflowActionRow) : Bool :=
  action.actionType ∈ ["create_task", "update_run_settings", "promote_task", "start_worker",
    "record_worker_evidence", "queue.review.createMessage", "queue.review.ack",
    "queue.lifecycle.get", "queue.evidence.lookup", "queue.workflow.runner"]

/-- When a failed run is taken up again. -/
def isRetryableFinalizationFailureBeforeMutation (run : AgentQueueWorkflowRunRow)
    (actions : List AgentQueueWorkflowActionRow) (slotBindings : List (String × Json))
    (slot : String) (completionDecision : Option AgentQueueCompletionDecisionRow)
    (failureDecision : Option AgentQueueFailureDecisionRow)
    (verification : QueueWorkflowFinalizationDownstreamVerification) : Bool :=
  run.status == QueueWorkflowRunStatus.failed.asStr && run.phase == workflowPhaseFinalization &&
    run.currentStep == some "finalization_failed_unexpected" && completionDecision.isNone &&
    failureDecision.isNone && verification.notAutoStartedVerified &&
    (slotBindings.lookup slot).any fun binding =>
      (jsonStringField binding "completionDecisionId").isNone &&
        (jsonStringField binding "failureDecisionId").isNone &&
        actions.all isSafeFailedFinalizationRetryHistoryAction

/-- The status and the phase of the run allow a finalization. -/
def checkFinalizableRun (request : NormalizedFinalizationStepRequest)
    (run : AgentQueueWorkflowRunRow) (transition : QueueWorkflowFinalizationStepTransition)
    (retryable alreadyApplied : Bool) : Except FinalizationStepRefusal Unit := do
  refuseIf (run.status == QueueWorkflowRunStatus.failed.asStr && !retryable)
    (refuse request run (some transition) (workflowBlocker "finalization_reentry_not_retryable"
      ("Queue workflow finalization re-entry is allowed only for a proven finalization failure " ++
        "before durable decision mutation.") (some "workflowRunId")))
  refuseIf (run.status ∉ ["created", "running", "paused", "blocked", "failed", "completed"] : Bool)
    (refuse request run (some transition) (workflowBlocker "workflow_run_status_not_finalizable"
      "Queue workflow finalization cannot run from the current workflow status."
      (some "status")))
  refuseIf (run.status == QueueWorkflowRunStatus.completed.asStr && !alreadyApplied)
    (refuse request run (some transition) (workflowBlocker
      "workflow_completed_without_matching_decision" ("Completed Queue workflow runs cannot " ++
        "re-enter finalization without the matching durable decision.") (some "status")))
  refuseIf (run.phase ∉ ["review", "decision", "finalization", "closed"] : Bool)
    (refuse request run (some transition) (workflowBlocker "workflow_phase_not_finalizable"
      "Queue workflow finalization cannot run from the current workflow phase." (some "phase")))

/-- A failure names its reason, an acceptance has none. -/
def checkFailureReason (request : NormalizedFinalizationStepRequest)
    (run : AgentQueueWorkflowRunRow) (transition : QueueWorkflowFinalizationStepTransition) :
    Except FinalizationStepRefusal Unit := do
  refuseIf (transition == .finalizeDone && request.failureReason.isSome)
    (.invalidInput run.workflowRunId (some transition) (workflowBlocker
      "failure_reason_unsupported"
      "Accepted dependency finalization does not accept failureReason." (some "failureReason")))
  refuseIf (transition == .finalizeFail && request.failureReason.isNone)
    (.invalidInput run.workflowRunId (some transition) (workflowBlocker "failure_reason_missing"
      "Dependency failure finalization requires a typed non-empty failureReason."
      (some "failureReason")))

/-! ## The action of the step -/

def finalizationIdempotencyKey (workflowRunId : String)
    (transition : QueueWorkflowFinalizationStepTransition) (slot taskId : String) : String :=
  match transition with
  | .finalizeDone => workflowRunId ++ ":mark_done:" ++ slot ++ ":" ++ taskId
  | .finalizeFail => workflowRunId ++ ":fail_item:" ++ slot ++ ":" ++ taskId

def finalizationTargetRefs (request : NormalizedFinalizationStepRequest)
    (transition : QueueWorkflowFinalizationStepTransition) (taskId : String)
    (facts : FinalizationFacts) : Json :=
  .obj [("evidenceBundleId", .str facts.evidence.bundleId),
    ("messageId", .str facts.reviewMessage.messageId),
    ("runId", .str facts.runId),
    ("slot", .str request.slot),
    ("taskId", .str taskId),
    ("transition", .str transition.asStr),
    ("workflowRunId", .str request.workflowRunId)]

/-- The action that is there names these refs. -/
def checkFinalizationAction (run : AgentQueueWorkflowRunRow)
    (transition : QueueWorkflowFinalizationStepTransition) (targetRefs : Json)
    (action : Option AgentQueueWorkflowActionRow) : Except FinalizationStepRefusal Unit :=
  refuseIf (action.any (·.targetRefsJson != some (.value targetRefs)))
    (refuseConflict run action (some transition) "finalization_action_ref_conflict"
      "Existing Queue workflow finalization action has different typed refs."
      ((action.bind (·.targetRefsJson)).map JsonText.text) (some targetRefs.canonicalString))

/-- What the grant of the request lacks. -/
def freshFinalizationGrantBlocker (grantSummary : Option Json) :
    Option QueueWorkflowCommandBlocker :=
  match grantSummary with
  | none => some (workflowBlocker "finalization_grant_required"
      "Queue workflow finalization requires a fresh structured Queue workflow grant."
      (some "grant"))
  | some grant =>
      if ((grant.field "constraints").bind (·.field "noDownstreamAutoStart")) ≠
          some (.bool true) then
        some (workflowBlocker "finalization_constraints_missing" ("Queue workflow finalization " ++
          "requires grant.constraints.noDownstreamAutoStart=true.")
          (some "grant.constraints.noDownstreamAutoStart"))
      else if rawStringField grant "expiresAt" = some "expired" then
        some (workflowBlocker "grant_expired"
          "Queue workflow finalization grant is stale or expired." (some "grant.expiresAt"))
      else none

/-- A decision that is not there yet needs a grant and a confirmation. -/
def checkAuthority (resolved : FinalizationStepResolution) (needed : Bool) :
    Except FinalizationStepRefusal Unit :=
  if needed then
    match freshFinalizationGrantBlocker resolved.request.grantSummary with
    | some blocker => .error (.blocked {
        request := resolved.request
        workflowRun := resolved.workflowRun
        action := resolved.action
        targetRefs := some resolved.targetRefs
        transition := some resolved.transition
        blocker := blocker
        retryableFailedFinalizationBeforeMutation :=
          resolved.retryableFailedFinalizationBeforeMutation })
    | none =>
        refuseIf (resolved.request.confirmationToken != some finalizationConfirmationToken)
          (.invalidInput resolved.workflowRun.workflowRunId (some resolved.transition)
            (workflowBlocker "fresh_confirmation_required" ("A fresh exact structured " ++
              "confirmationToken is required for Queue workflow finalization.")
              (some "confirmationToken")))
  else .ok ()

/-- What is read for a request once its facts are known. -/
def finalizationResolution (s : SqliteStore) (request : NormalizedFinalizationStepRequest)
    (run : AgentQueueWorkflowRunRow) (transition : QueueWorkflowFinalizationStepTransition)
    (slotBindings : List (String × Json)) (taskId : String) (facts : FinalizationFacts) :
    FinalizationStepResolution :=
  let completionDecision := s.getLatestAgentQueueCompletionDecision request.workspaceId taskId
  let failureDecision := s.getLatestAgentQueueFailureDecision request.workspaceId taskId
  let verification :=
    downstreamVerification s request.workspaceId slotBindings request.slot transition
  let key := finalizationIdempotencyKey request.workflowRunId transition request.slot taskId
  { request := request
    workflowRun := run
    slotBindings := slotBindings
    taskId := taskId
    facts := facts
    completionDecision := completionDecision
    failureDecision := failureDecision
    action := s.getAgentQueueWorkflowActionByIdempotencyKey request.workflowRunId key
    actionIdempotencyKey := key
    targetRefs := finalizationTargetRefs request transition taskId facts
    transition := transition
    downstreamVerification := verification
    retryableFailedFinalizationBeforeMutation := isRetryableFinalizationFailureBeforeMutation run
      (s.listAgentQueueWorkflowActions request.workspaceId request.workflowRunId) slotBindings
      request.slot completionDecision failureDecision verification }

/-- The matching decision is there already. -/
def FinalizationStepResolution.decided (resolved : FinalizationStepResolution) : Bool :=
  (matchingDecision resolved.transition resolved.completionDecision
    resolved.failureDecision).isSome

/-- The checks on what was read. -/
def checkResolution (resolved : FinalizationStepResolution) (requireAuthority : Bool) :
    Except FinalizationStepRefusal Unit := do
  let request := resolved.request
  let run := resolved.workflowRun
  checkOppositeDecision run resolved.transition resolved.completionDecision
    resolved.failureDecision
  checkDownstream request run resolved.transition resolved.downstreamVerification
    requireAuthority resolved.decided
  checkFinalizableRun request run resolved.transition
    resolved.retryableFailedFinalizationBeforeMutation resolved.decided
  checkFailureReason request run resolved.transition
  checkFinalizationAction run resolved.transition resolved.targetRefs resolved.action
  checkAuthority resolved (requireAuthority && !resolved.decided)

/-- What a request comes to in a store, its run found. -/
def resolveFinalizationOfRun (s : SqliteStore) (request : NormalizedFinalizationStepRequest)
    (requireAuthority : Bool) (run : AgentQueueWorkflowRunRow) :
    Except FinalizationStepRefusal FinalizationStepResolution := do
  let transition ← finalizationTransition request run
  let slotBindings ← (parseSlotBindings run.slotBindingsJson).mapError
    (.invalidInput run.workflowRunId (some transition))
  let (binding, taskId) ← finalizedBinding s request run transition slotBindings
  let facts ← resolveFinalizationFacts s request run transition binding taskId
  let resolved := finalizationResolution s request run transition slotBindings taskId facts
  checkResolution resolved requireAuthority
  pure resolved

/-- What a request comes to in a store. -/
def resolveQueueWorkflowFinalizationStep (s : SqliteStore)
    (request : QueueWorkflowFinalizationStepRequest) (requireAuthority : Bool) :
    Except FinalizationStepRefusal FinalizationStepResolution := do
  let request ← (normalizeFinalizationStepRequest request).mapError (.invalidInput "" none)
  match s.getAgentQueueWorkflowRun request.workspaceId request.workflowRunId with
  | none => .error (.notFound request (workflowBlocker "workflow_run_not_found"
      "Queue workflow run was not found." (some "workflowRunId")))
  | some run => resolveFinalizationOfRun s request requireAuthority run

end HobitQueue.WorkflowFinalization
