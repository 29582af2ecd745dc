import HobitQueue.Service.Completion
import HobitQueue.Service.Failure
import HobitQueue.Workflow.Finalization

/-!
# How a finalization is carried out

A finalization runs in three transactions: it opens its action, it gives the decision
command, and it completes the action and the run. A request that is refused for the state
it finds blocks the run; a decision command that comes back with an error fails it.
-/

namespace HobitQueue.WorkflowFinalization

open Concurrent StoreProg
open WorkflowReview (reopenActionUpdate completeActionUpdate blockedActionRow blockRunUpdate
  boundedJson)

def workflowStepFinalizationComplete : String := "finalization_complete"
def acceptedFinalizationReason : String :=
  "Accepted through backend-owned Queue workflow finalization."

inductive QueueWorkflowFinalizationStepResultStatus where
  | executed | alreadyApplied | blockedPrecondition | invalidInput | conflict | failedUnexpected
  deriving DecidableEq, Repr

def QueueWorkflowFinalizationStepResultStatus.asStr :
    QueueWorkflowFinalizationStepResultStatus → String
  | executed => "executed"
  | alreadyApplied => "already_applied"
  | blockedPrecondition => "blocked_precondition"
  | invalidInput => "invalid_input"
  | conflict => "conflict"
  | failedUnexpected => "failed_unexpected"

structure QueueWorkflowFinalizationBindingSummary where
  slot : String
  taskId : String
  runId : String
  evidenceBundleId : String
  messageId : String
  completionDecisionId : Option String
  failureDecisionId : Option String
  finalizationActionId : Option String
  actionIdempotencyKey : String
  terminalStatus : String
  finalizedAt : Option String
  deriving DecidableEq

structure QueueWorkflowFinalizationStepResult where
  workflowRunId : String
  workflowId : Option String
  transition : QueueWorkflowFinalizationStepTransition
  status : QueueWorkflowFinalizationStepResultStatus
  action : Option AgentQueueWorkflowActionRow
  completionDecisionId : Option String
  failureDecisionId : Option String
  binding : Option QueueWorkflowFinalizationBindingSummary
  workflowRun : Option AgentQueueWorkflowRunRow
  downstreamVerification : Option QueueWorkflowFinalizationDownstreamVerification
  nextPhase : Option String
  nextStep : Option String
  terminalStatus : Option String
  blockers : List QueueWorkflowCommandBlocker
  conflict : Option QueueWorkflowConflict
  deriving DecidableEq

/-! ## The end of a run -/

/-- The answer to a request that is refused. -/
def refusedAnswer (workflowRunId : String) (workflowRun : Option AgentQueueWorkflowRunRow)
    (transition : Option QueueWorkflowFinalizationStepTransition)
    (status : QueueWorkflowFinalizationStepResultStatus)
    (action : Option AgentQueueWorkflowActionRow) (nextStep : Option String)
    (blocker : QueueWorkflowCommandBlocker) (conflict : Option QueueWorkflowConflict) :
    QueueWorkflowFinalizationStepResult :=
  { workflowRunId := workflowRunId
    workflowId := workflowRun.map (·.workflowId)
    transition := transition.getD .finalizeDone
    status := status
    action := action
    completionDecisionId := none
    failureDecisionId := none
    binding := none
    workflowRun := workflowRun
    downstreamVerification := none
    nextPhase := some workflowPhaseFinalization
    nextStep := nextStep
    terminalStatus := none
    blockers := [blocker]
    conflict := conflict }

/-- The answer of a finalization that went as far as the decision command. -/
def decidedAnswer (resolved : FinalizationStepResolution)
    (status : QueueWorkflowFinalizationStepResultStatus) (action : AgentQueueWorkflowActionRow)
    (workflowRun : AgentQueueWorkflowRunRow) (nextStep : String) (terminalStatus : Option String)
    (blocker : QueueWorkflowCommandBlocker) (conflict : Option QueueWorkflowConflict) :
    QueueWorkflowFinalizationStepResult :=
  { refusedAnswer resolved.request.workflowRunId (some workflowRun) (some resolved.transition)
      status (some action) (some nextStep) blocker conflict with
    workflowId := some resolved.workflowRun.workflowId
    downstreamVerification := some resolved.downstreamVerification
    terminalStatus := terminalStatus }

def recordBlockedFinalizationAction (d : Draws) (request : NormalizedFinalizationStepRequest)
    (existingAction : Option AgentQueueWorkflowActionRow) (targetRefs : Json)
    (transition : QueueWorkflowFinalizationStepTransition)
    (blocker : QueueWorkflowCommandBlocker) : Sqlite AgentQueueWorkflowActionRow :=
  match existingAction with
  | some action => do
      let updated ← execute fun s => s.replaceAgentQueueWorkflowActionRefsAndResolution
        request.workspaceId request.workflowRunId action.idempotencyKey (some (.value targetRefs))
        (WorkflowReview.blockedActionUpdate action blocker (d.timestamp 0))
      rowOrNoRows updated
  | none => execute fun s => s.insertAgentQueueWorkflowAction
      (blockedActionRow request.toWorkflowRunRef (d.placeholderId "queue-workflow-action-" 1)
        transition.stepId transition.actionType
        (finalizationIdempotencyKey request.workflowRunId transition request.slot
          ((rawStringField targetRefs "taskId").getD "unknown-task"))
        targetRefs blocker (d.timestamp 0))

def blockWorkflowRunForFinalization (d : Draws) (request : NormalizedFinalizationStepRequest)
    (blocker : QueueWorkflowCommandBlocker) : Sqlite AgentQueueWorkflowRunRow := do
  let updated ← execute fun s => s.updateAgentQueueWorkflowRunReport request.workspaceId
    request.workflowRunId
    (blockRunUpdate workflowPhaseFinalization "finalization_blocked" blocker (d.timestamp 2))
  rowOrNoRows updated

/-- A refusal for the state of the run is recorded in the run, and in the action when its
refs are known. -/
def recordBlockedFinalization (d : Draws) (blocked : BlockedFinalization) :
    Sqlite QueueWorkflowFinalizationStepResult := do
  let action ← match blocked.targetRefs, blocked.transition with
    | some targetRefs, some transition => do
        let action ← recordBlockedFinalizationAction d blocked.request blocked.action targetRefs
          transition blocked.blocker
        pure (some action)
    | _, _ => pure blocked.action
  let run ← blockWorkflowRunForFinalization d blocked.request blocked.blocker
  pure (refusedAnswer blocked.request.workflowRunId (some run) blocked.transition
    .blockedPrecondition action (some "finalization_blocked") blocked.blocker none)

/-- `non_ready_result`. -/
def nonReadyResult (d : Draws) : FinalizationStepRefusal →
    Sqlite QueueWorkflowFinalizationStepResult
  | .blocked blocked => recordBlockedFinalization d blocked
  | .conflict run action transition conflict blocker =>
      pure (refusedAnswer run.workflowRunId (some run) transition .conflict action
        (some "finalization_conflict") blocker (some conflict))
  | .notFound request blocker =>
      pure (refusedAnswer request.workflowRunId none none .invalidInput none none blocker none)
  | .invalidInput workflowRunId transition blocker =>
      pure (refusedAnswer workflowRunId none transition .invalidInput none none blocker none)

/-- The row of the action that the step opens. -/
def openedActionRow (d : Draws) (resolved : FinalizationStepResolution) :
    AgentQueueWorkflowActionRow :=
  { actionId := d.placeholderId "queue-workflow-action-" 1
    workflowRunId := resolved.request.workflowRunId
    workspaceId := resolved.request.workspaceId
    stepId := resolved.transition.stepId
    actionType := resolved.transition.actionType
    idempotencyKey := resolved.actionIdempotencyKey
    status := QueueWorkflowActionStatus.running.asStr
    targetRefsJson := some (.value resolved.targetRefs)
    resultRefsJson := none
    blockerCode := none
    blockerMessage := none
    attemptCount := 1
    startedAt := some (d.timestamp 0)
    completedAt := none
    createdAt := d.timestamp 0
    updatedAt := d.timestamp 0 }

def openFinalizationAction (d : Draws) (resolved : FinalizationStepResolution) :
    Sqlite AgentQueueWorkflowActionRow :=
  match resolved.action with
  | some action =>
      if action.status = QueueWorkflowActionStatus.completed.asStr then pure action
      else do
        let updated ← execute fun s => s.replaceAgentQueueWorkflowActionRefsAndResolution
          resolved.request.workspaceId resolved.request.workflowRunId
          resolved.actionIdempotencyKey (some (.value resolved.targetRefs))
          (reopenActionUpdate action (d.timestamp 0))
        rowOrNoRows updated
  | none => execute fun s => s.insertAgentQueueWorkflowAction (openedActionRow d resolved)

def completeFinalizationAction (request : NormalizedFinalizationStepRequest)
    (action : AgentQueueWorkflowActionRow) (idempotencyKey : String) (resultRefs : JsonText)
    (now : String) : Sqlite AgentQueueWorkflowActionRow :=
  if action.status = QueueWorkflowActionStatus.completed.asStr ∧
      action.resultRefsJson = some resultRefs then pure action
  else do
    let updated ← execute fun s => s.replaceAgentQueueWorkflowActionResolution
      request.workspaceId request.workflowRunId idempotencyKey
      (completeActionUpdate action resultRefs now)
    rowOrNoRows updated

/-- The action of a decision command that came back with an error. -/
def failedActionUpdate (action : AgentQueueWorkflowActionRow) (message now : String) :
    AgentQueueWorkflowActionUpdate :=
  { status := QueueWorkflowActionStatus.failed.asStr
    resultRefsJson := some (.value (.obj [("commandStatus", .str "failed_unexpected"),
      ("status", .str "failed_unexpected")]))
    blockerCode := some "failed_unexpected"
    blockerMessage := some message
    attemptCount := some action.attemptCount
    startedAt := action.startedAt.or (some now)
    completedAt := some now
    updatedAt := now }

def failedRunUpdate (message now : String) : AgentQueueWorkflowRunReportUpdate :=
  { status := QueueWorkflowRunStatus.failed.asStr
    phase := some workflowPhaseFinalization
    currentStep := some "finalization_failed_unexpected"
    pauseReason := none
    blockerReason := some message
    variablesJson := none
    slotBindingsJson := none
    mutationRefsJson := none
    idempotencyKeysJson := none
    actionLogSummaryJson := none
    updatedAt := now
    completedAt := some now }

/-- How a run ends when the decision command answers with an error. -/
def failedUnexpectedResult (d : Draws) (resolved : FinalizationStepResolution)
    (action : AgentQueueWorkflowActionRow) (message : String) :
    Sqlite QueueWorkflowFinalizationStepResult := do
  let failedAction ← execute fun s => s.replaceAgentQueueWorkflowActionResolution
    resolved.request.workspaceId resolved.request.workflowRunId resolved.actionIdempotencyKey
    (failedActionUpdate action message (d.timestamp 0))
  let failedAction ← rowOrNoRows failedAction
  let failedRun ← execute fun s => s.updateAgentQueueWorkflowRunReport
    resolved.request.workspaceId resolved.request.workflowRunId
    (failedRunUpdate message (d.timestamp 0))
  let failedRun ← rowOrNoRows failedRun
  pure (decidedAnswer resolved .failedUnexpected failedAction failedRun
    "finalization_failed_unexpected" (some QueueWorkflowRunStatus.failed.asStr)
    (workflowBlocker "failed_unexpected" message none) none)

/-! ## Completing the run -/

/-- A text, or `null`. -/
def textOrNull (text : Option String) : Json := (text.map Json.str).getD .null

/-- What a finished finalization knows of the decisions. -/
structure FinalDecisions where
  completionDecisionId : Option String
  failureDecisionId : Option String

def finalDecisions (resolved : FinalizationStepResolution) : FinalDecisions :=
  ⟨resolved.completionDecision.map (·.decisionId), resolved.failureDecision.map (·.decisionId)⟩

/-- The aggregate of the downstream task, folded into what was verified before. -/
def downstreamFromAggregate (aggregate : Option QueueItemAggregate)
    (snapshot : QueueWorkflowFinalizationDownstreamVerification) :
    QueueWorkflowFinalizationDownstreamVerification :=
  match aggregate with
  | none => snapshot
  | some aggregate =>
      { snapshot with
        dependencyState := some aggregate.dependencyState.asStr
        ticketState := some aggregate.ticketState.asStr
        workerRunState := some aggregate.workerRunState.asStr
        latestRunId := aggregate.latestRun.map (·.runId)
        dependencyVerified :=
          aggregate.dependencyState.asStr == snapshot.expectedDependencyState
        notAutoStartedVerified := aggregate.latestRun.isNone }

/-- The aggregate of the downstream task; an error counts as none. -/
def SqliteStore.downstreamAggregate (s : SqliteStore) (resolved : FinalizationStepResolution) :
    Option QueueItemAggregate :=
  resolved.downstreamVerification.downstreamTaskId.bind fun taskId =>
    match (exec (getQueueItemAggregate resolved.request.workspaceId taskId) s).1 with
    | .ok aggregate => aggregate
    | .error _ => none

def finalizationResultRefs (resolved : FinalizationStepResolution) (decisions : FinalDecisions)
    (verification : QueueWorkflowFinalizationDownstreamVerification)
    (status : QueueWorkflowFinalizationStepResultStatus) : JsonText :=
  .value (.obj [("commandStatus", .str status.asStr),
    ("completionDecisionId", textOrNull decisions.completionDecisionId),
    ("confirmationAccepted",
      .bool (resolved.request.confirmationToken == some finalizationConfirmationToken)),
    ("downstreamVerification", .obj [
      ("dependencyState", textOrNull verification.dependencyState),
      ("downstreamTaskId", textOrNull verification.downstreamTaskId),
      ("expectedDependencyState", .str verification.expectedDependencyState),
      ("notAutoStartedVerified", .bool verification.notAutoStartedVerified)]),
    ("evidenceBundleId", .str resolved.facts.evidence.bundleId),
    ("failureDecisionId", textOrNull decisions.failureDecisionId),
    ("messageId", .str resolved.facts.reviewMessage.messageId),
    ("runId", .str resolved.facts.runId),
    ("status", .str status.asStr),
    ("transition", .str resolved.transition.asStr)])

def updateBindingWithFinalization (resolved : FinalizationStepResolution)
    (decisions : FinalDecisions) (action : AgentQueueWorkflowActionRow) (finalizedAt : String) :
    List (String × Json) :=
  Json.updateEntry resolved.request.slot (Json.insertMembers (presentMembers [
    ("finalizationActionId", some (.str action.actionId)),
    ("finalizationActionIdempotencyKey", some (.str resolved.actionIdempotencyKey)),
    ("finalizationTransition", some (.str resolved.transition.asStr)),
    ("finalizedAt", some (.str finalizedAt)),
    ("completionDecisionId", decisions.completionDecisionId.map .str),
    ("failureDecisionId", decisions.failureDecisionId.map .str)])) resolved.slotBindings

def mutationRefs (resolved : FinalizationStepResolution) (decisions : FinalDecisions)
    (action : AgentQueueWorkflowActionRow) : Json :=
  .obj (Json.insertMember "finalization" (.obj [
    ("actionId", .str action.actionId),
    ("completionDecisionId", textOrNull decisions.completionDecisionId),
    ("evidenceBundleId", .str resolved.facts.evidence.bundleId),
    ("failureDecisionId", textOrNull decisions.failureDecisionId),
    ("messageId", .str resolved.facts.reviewMessage.messageId),
    ("runId", .str resolved.facts.runId),
    ("slot", .str resolved.request.slot),
    ("taskId", .str resolved.taskId),
    ("transition", .str resolved.transition.asStr)])
    (JsonText.members resolved.workflowRun.mutationRefsJson))

def idempotencyKeys (resolved : FinalizationStepResolution) : Json :=
  .obj (Json.insertMember "finalization" (.obj [("action", .str resolved.actionIdempotencyKey)])
    (JsonText.members resolved.workflowRun.idempotencyKeysJson))

def actionLogSummary (resolved : FinalizationStepResolution) (decisions : FinalDecisions)
    (status : QueueWorkflowFinalizationStepResultStatus) : Json :=
  .obj (Json.insertMember "finalization" (.obj [
    ("completionDecisionId", textOrNull decisions.completionDecisionId),
    ("failureDecisionId", textOrNull decisions.failureDecisionId),
    ("slot", .str resolved.request.slot),
    ("status", .str status.asStr),
    ("transition", .str resolved.transition.asStr)])
    (JsonText.members resolved.workflowRun.actionLogSummaryJson))

def variablesObject (resolved : FinalizationStepResolution) (decisions : FinalDecisions) : Json :=
  let merge := fun (field : String) (decisionId : Option String)
      (members : List (String × Json)) =>
    match decisionId with
    | some decisionId => Json.mergeStringMember members field resolved.request.slot decisionId
    | none => members
  .obj (Json.insertMember "finalizationCompletedBySlot"
    (.obj [(resolved.request.slot, .bool true)])
    (merge "failureDecisionIdsBySlot" decisions.failureDecisionId
      (merge "completionDecisionIdsBySlot" decisions.completionDecisionId
        (JsonText.members resolved.workflowRun.variablesJson))))

/-- The run as it ends; its blocker is kept. -/
def completedRunUpdate (now : String)
    (variablesJson slotBindings mutationRefs idempotencyKeys actionLogSummary : JsonText) :
    AgentQueueWorkflowRunReportUpdate :=
  { status := QueueWorkflowRunStatus.completed.asStr
    phase := some workflowPhaseClosed
    currentStep := some workflowStepFinalizationComplete
    pauseReason := none
    blockerReason := none
    variablesJson := some variablesJson
    slotBindingsJson := some slotBindings
    mutationRefsJson := some mutationRefs
    idempotencyKeysJson := some idempotencyKeys
    actionLogSummaryJson := some actionLogSummary
    updatedAt := now
    completedAt := some now }

/-- The finalization written into the run. -/
def storeFinalizedRun (d : Draws) (resolved : FinalizationStepResolution)
    (decisions : FinalDecisions) (action : AgentQueueWorkflowActionRow)
    (status : QueueWorkflowFinalizationStepResultStatus) : Sqlite AgentQueueWorkflowRunRow := do
  let slotBindings ← boundedJson
    (.obj (updateBindingWithFinalization resolved decisions action (d.timestamp 0)))
    maxWorkflowSlotBindingsJsonBytes "slotBindings"
  let mutationRefs ← boundedJson (mutationRefs resolved decisions action)
    maxWorkflowMutationRefsJsonBytes "mutationRefs"
  let idempotencyKeys ← boundedJson (idempotencyKeys resolved)
    maxWorkflowIdempotencyKeysJsonBytes "idempotencyKeys"
  let actionLogSummary ← boundedJson (actionLogSummary resolved decisions status)
    maxWorkflowActionLogSummaryJsonBytes "actionLogSummary"
  let variablesJson ← boundedJson (variablesObject resolved decisions)
    maxWorkflowVariablesJsonBytes "variables"
  let updated ← execute fun s => s.updateAgentQueueWorkflowRunReport resolved.request.workspaceId
    resolved.request.workflowRunId
    (completedRunUpdate (d.timestamp 0) variablesJson slotBindings mutationRefs idempotencyKeys
      actionLogSummary)
  rowOrNoRows updated

/-- The answer to a finished finalization. -/
def finalizedAnswer (resolved : FinalizationStepResolution) (decisions : FinalDecisions)
    (action : AgentQueueWorkflowActionRow) (run : AgentQueueWorkflowRunRow)
    (verification : QueueWorkflowFinalizationDownstreamVerification)
    (status : QueueWorkflowFinalizationStepResultStatus) (now : String) :
    QueueWorkflowFinalizationStepResult :=
  { workflowRunId := resolved.request.workflowRunId
    workflowId := some resolved.workflowRun.workflowId
    transition := resolved.transition
    status := status
    action := some action
    completionDecisionId := decisions.completionDecisionId
    failureDecisionId := decisions.failureDecisionId
    binding := some {
      slot := resolved.request.slot
      taskId := resolved.taskId
      runId := resolved.facts.runId
      evidenceBundleId := resolved.facts.evidence.bundleId
      messageId := resolved.facts.reviewMessage.messageId
      completionDecisionId := decisions.completionDecisionId
      failureDecisionId := decisions.failureDecisionId
      finalizationActionId := some action.actionId
      actionIdempotencyKey := resolved.actionIdempotencyKey
      terminalStatus := QueueWorkflowRunStatus.completed.asStr
      finalizedAt := some now }
    workflowRun := some run
    downstreamVerification := some verification
    nextPhase := some workflowPhaseClosed
    nextStep := some workflowStepFinalizationComplete
    terminalStatus := some QueueWorkflowRunStatus.completed.asStr
    blockers := []
    conflict := none }

/-- How a run ends. -/
def completeWorkflowTerminal (d : Draws) (resolved : FinalizationStepResolution)
    (action : AgentQueueWorkflowActionRow)
    (status : QueueWorkflowFinalizationStepResultStatus) :
    Sqlite QueueWorkflowFinalizationStepResult := do
  let decisions := finalDecisions resolved
  let aggregate ← query fun s => SqliteStore.downstreamAggregate s resolved
  let verification := downstreamFromAggregate aggregate resolved.downstreamVerification
  let action ← completeFinalizationAction resolved.request action resolved.actionIdempotencyKey
    (finalizationResultRefs resolved decisions verification status) (d.timestamp 0)
  let run ← storeFinalizedRun d resolved decisions action status
  execute fun s => s.touchWorkspace resolved.request.workspaceId (d.timestamp 1)
  pure (finalizedAnswer resolved decisions action run verification status (d.timestamp 0))

/-! ## The decision command -/

inductive FinalizationCommandResult where
  | completion (result : AgentQueueCompletionCommandResult)
  | failure (result : AgentQueueFailureCommandResult)

structure MappedCommandResult where
  status : QueueWorkflowFinalizationStepResultStatus
  blocker : Option QueueWorkflowCommandBlocker
  conflict : Option QueueWorkflowConflict

/-- `completion_blocker`, `failure_blocker`. -/
def commandBlocker (blocker : OperatorCommandBlocker) : QueueWorkflowCommandBlocker :=
  { blockerCode := blocker.blockerCode
    blockerMessage := blocker.blockerMessage
    missingRequiredField := blocker.missingRequiredField }

/-- The answer of the decision command as a status of the step. -/
def mapCommandResult (resolved : FinalizationStepResolution) :
    FinalizationCommandResult → MappedCommandResult
  | .completion result =>
      { status :=
          match result.status with
          | .succeeded => .executed
          | .alreadyDone => .alreadyApplied
          | .invalidInput => .invalidInput
          | .blocked | .preconditionFailed => .blockedPrecondition
        blocker := result.blocker.map commandBlocker
        conflict := none }
  | .failure result =>
      match result.status with
      | .alreadyDone =>
          { status := .conflict
            blocker := some (workflowBlocker "opposite_terminal_decision_exists" ("Queue " ++
              "workflow failure finalization conflicts with an existing completion decision.")
              (some "completionDecisionId"))
            conflict := some {
              conflictCode := "opposite_terminal_decision_exists"
              conflictMessage := "Queue workflow failure finalization conflicts with an " ++
                "existing completion decision."
              existingWorkflowRunId := some resolved.request.workflowRunId
              existingRequestHash := none
              requestedRequestHash := some resolved.transition.asStr } }
      | .succeeded =>
          { status := .executed, blocker := result.blocker.map commandBlocker, conflict := none }
      | .alreadyFailed =>
          { status := .alreadyApplied
            blocker := result.blocker.map commandBlocker
            conflict := none }
      | .invalidInput =>
          { status := .invalidInput
            blocker := result.blocker.map commandBlocker
            conflict := none }
      | .blocked | .preconditionFailed =>
          { status := .blockedPrecondition
            blocker := result.blocker.map commandBlocker
            conflict := none }

/-- The decision command refused: the action and the run are blocked. -/
def blockDecidedRun (d : Draws) (resolved : FinalizationStepResolution)
    (action : AgentQueueWorkflowActionRow)
    (status : QueueWorkflowFinalizationStepResultStatus)
    (blocker : QueueWorkflowCommandBlocker) : Sqlite QueueWorkflowFinalizationStepResult := do
  let action ← recordBlockedFinalizationAction d resolved.request (some action)
    resolved.targetRefs resolved.transition blocker
  let run ← blockWorkflowRunForFinalization d resolved.request blocker
  pure (decidedAnswer resolved status action run "finalization_blocked" none blocker none)

/-- The transaction after the decision command answered. -/
def completeWorkflowFromCommand (d : Draws) (resolved : FinalizationStepResolution)
    (action : AgentQueueWorkflowActionRow) (commandResult : FinalizationCommandResult) :
    Sqlite QueueWorkflowFinalizationStepResult := do
  let mapped := mapCommandResult resolved commandResult
  match mapped.status, mapped.blocker with
  | .executed, _ | .alreadyApplied, _ => do
      let completionDecision ← query fun s => s.getLatestAgentQueueCompletionDecision
        resolved.request.workspaceId resolved.taskId
      let failureDecision ← query fun s => s.getLatestAgentQueueFailureDecision
        resolved.request.workspaceId resolved.taskId
      completeWorkflowTerminal d
        { resolved with
          completionDecision := completionDecision, failureDecision := failureDecision }
        action mapped.status
  | .conflict, blocker =>
      pure {
        refusedAnswer resolved.request.workflowRunId (some resolved.workflowRun)
          (some resolved.transition) .conflict (some action) (some "finalization_conflict")
          (workflowBlocker "" "" none) mapped.conflict with
        downstreamVerification := some resolved.downstreamVerification
        blockers := blocker.toList }
  | .invalidInput, some blocker | .blockedPrecondition, some blocker =>
      blockDecidedRun d resolved action mapped.status blocker
  | .invalidInput, none | .blockedPrecondition, none =>
      -- a refusal always carries its blocker: the source panics here
      throw (.invalidParameterName "blocker for blocked command")
  | .failedUnexpected, _ =>
      failedUnexpectedResult d resolved action "Queue workflow finalization failed unexpectedly."

def completeWorkflowFromExistingDecision (d : Draws) (resolved : FinalizationStepResolution) :
    Sqlite QueueWorkflowFinalizationStepResult := do
  let action ← openFinalizationAction d resolved
  completeWorkflowTerminal (d.drop 2) resolved action .alreadyApplied

/-- The decision command of a workflow, its answer or its error. -/
def finalizationCommand (d : Draws) (resolved : FinalizationStepResolution) :
    Service FinalizationCommandResult :=
  match resolved.transition with
  | .finalizeDone => do
      let result ← markAgentQueueItemDone d {
        workspaceId := resolved.request.workspaceId
        queueItemId := resolved.taskId
        actorId := resolved.request.actorId
        confirmationToken := resolved.request.confirmationToken.getD ""
        reason := some acceptedFinalizationReason
        runId := some resolved.facts.runId
        reviewMessageId := some resolved.facts.reviewMessage.messageId }
      pure (.completion result)
  | .finalizeFail => do
      let result ← failAgentQueueItem d {
        workspaceId := resolved.request.workspaceId
        queueItemId := resolved.taskId
        actorId := resolved.request.actorId
        confirmationToken := resolved.request.confirmationToken.getD ""
        reason := resolved.request.failureReason.getD ""
        runId := some resolved.facts.runId
        evidenceBundleId := some resolved.facts.evidence.bundleId
        reviewMessageId := some resolved.facts.reviewMessage.messageId }
      pure (.failure result)

/-- The three transactions of a finalization that decides
(`execute_acceptance_finalization_step`, `execute_failure_finalization_step`). -/
def executeDecidingFinalizationStep (d : Draws) (resolved : FinalizationStepResolution) :
    Service QueueWorkflowFinalizationStepResult := do
  let openedAction ← withImmediateTransaction mapStorageAgentQueueTaskError
    (openFinalizationAction d resolved)
  let commandResult ← (finalizationCommand (d.drop 2) resolved).attempt
  match commandResult with
  | .ok commandResult =>
      withImmediateTransaction mapStorageAgentQueueTaskError
        (completeWorkflowFromCommand (d.drop 5) resolved openedAction commandResult)
  | .error error =>
      withImmediateTransaction mapStorageAgentQueueTaskError
        (failedUnexpectedResult (d.drop 5) resolved openedAction
          ("Queue workflow finalization failed unexpectedly: " ++ error.message))

def executeReadyFinalizationStep (d : Draws) (resolved : FinalizationStepResolution) :
    Service QueueWorkflowFinalizationStepResult :=
  if resolved.decided then
    withImmediateTransaction mapStorageAgentQueueTaskError
      (completeWorkflowFromExistingDecision d resolved)
  else executeDecidingFinalizationStep d resolved

def executeFinalizationStepResolution (d : Draws) :
    Except FinalizationStepRefusal FinalizationStepResolution →
      Service QueueWorkflowFinalizationStepResult
  | .ok resolved => executeReadyFinalizationStep d resolved
  | .error refusal =>
      withImmediateTransaction mapStorageAgentQueueTaskError (nonReadyResult d refusal)

/-- The command that finalizes a run. -/
def executeQueueWorkflowFinalizationStep (d : Draws)
    (request : QueueWorkflowFinalizationStepRequest) :
    Service QueueWorkflowFinalizationStepResult := do
  let resolution ← query fun s => resolveQueueWorkflowFinalizationStep s request true
  executeFinalizationStepResolution d resolution

end HobitQueue.WorkflowFinalization
