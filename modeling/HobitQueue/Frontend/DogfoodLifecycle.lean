import HobitQueue.Frontend.Tasks

/-!
# The dogfood lifecycle of a Queue item

A Queue item moves from draft through running and review to done, failure or blocked. What
the agent, the reviewer and the coordinator leave behind is appended to lists of the item;
a follow-up prompt sends an item in review back to running and keeps all the lists.
-/

namespace HobitQueue.Frontend

open JavaScript

/-! ## Records -/

inductive SmartQueueDogfoodTicketState where
  | draft | queued | blocked | running | awaitingReview | inReview | done | failure
  deriving DecidableEq

inductive SmartQueueDogfoodAgentPromptState where
  | idle | running | completed | notCompleted | failed | additionalPromptRunning
  deriving DecidableEq

inductive SmartQueueDogfoodReviewOutcome where
  | completed | notCompleted | failed
  deriving DecidableEq

inductive SmartQueueCoordinatorReviewDecisionKind where
  | approveValidation | requestCommit | attachCommitResult | markDone | addFollowUpPrompt
  | returnToRunningAddedPrompt | blockTask | failTask
  deriving DecidableEq

inductive SmartQueueCommitResultStatus where
  | success | failed
  deriving DecidableEq

/-- What a review message quotes of a worker's evidence. -/
structure QueueWorkerEvidenceBundle where
  humanSummary : String

structure SmartQueueReviewMessage where
  messageId : String
  taskId : String
  attemptId : Option String
  fromQueueItemId : String
  toCoordinatorAgentId : String
  reviewOutcome : SmartQueueDogfoodReviewOutcome
  finalAgentMessage : String
  evidenceSummary : Option String
  validationSummary : Option String
  changedFilesSummary : Option String
  workerEvidenceBundle : Option QueueWorkerEvidenceBundle
  createdAt : String
  productSummary : String

structure SmartQueueReviewAck where
  ackId : String
  messageId : String
  coordinatorAgentId : String
  receivedAt : String

structure SmartQueueCoordinatorReviewDecision where
  decisionId : String
  taskId : String
  kind : SmartQueueCoordinatorReviewDecisionKind
  createdAt : String
  coordinatorAgentId : Option String
  reason : String
  validationApprovalId : Option String := none
  commitRequestId : Option String := none
  commitResultId : Option String := none
  followUpPromptId : Option String := none

structure SmartQueueFollowUpPrompt where
  followUpPromptId : String
  taskId : String
  parentAttemptId : Option String
  threadId : Option String
  prompt : String
  createdByCoordinatorAgentId : String
  createdAt : String

structure SmartQueueCommitRequest where
  commitRequestId : String
  taskId : String
  requestedByCoordinatorAgentId : String
  reason : String
  createdAt : String
  deriving DecidableEq

structure SmartQueueCommitResult where
  commitResultId : String
  taskId : String
  commitRequestId : Option String
  status : SmartQueueCommitResultStatus
  commitHash : Option String
  summary : String
  attachedAt : String
  deriving DecidableEq

structure SmartQueueValidationApproval where
  validationApprovalId : String
  taskId : String
  approvedByCoordinatorAgentId : String
  summary : String
  approvedAt : String

/-- The item with its records. -/
structure SmartQueueDogfoodLifecycleItem where
  taskId : String
  title : Option String
  originalPrompt : Option String
  currentRunnablePrompt : Option String
  ticketState : SmartQueueDogfoodTicketState
  agentPromptState : SmartQueueDogfoodAgentPromptState
  reviewOutcome : Option SmartQueueDogfoodReviewOutcome
  additionalPromptCount : ℕ
  currentAttemptId : Option String
  currentThreadId : Option String
  finalAgentMessage : Option String
  validationSummary : Option String
  changedFilesSummary : Option String
  workerEvidenceBundle : Option QueueWorkerEvidenceBundle
  blockedReason : Option String
  failureReason : Option String
  followUpPrompts : List SmartQueueFollowUpPrompt
  reviewMessages : List SmartQueueReviewMessage
  reviewAcks : List SmartQueueReviewAck
  coordinatorDecisions : List SmartQueueCoordinatorReviewDecision
  validationApprovals : List SmartQueueValidationApproval
  commitRequests : List SmartQueueCommitRequest
  commitResults : List SmartQueueCommitResult
  createdAt : String
  updatedAt : String

/-! ## Results -/

inductive SmartQueueLifecycleTransitionErrorCode where
  | emptyPrompt | invalidCommitResult | invalidFollowUpPrompt | invalidState
  | missingCommitRequest | missingCommitResult | missingFinalAgentMessage
  | missingReviewMessage | missingReviewOutcome | missingValidationApproval | terminalState
  | wrongReviewAckTarget
  deriving DecidableEq

structure SmartQueueLifecycleTransitionError where
  code : SmartQueueLifecycleTransitionErrorCode
  action : String
  message : String
  currentTicketState : SmartQueueDogfoodTicketState
  currentAgentPromptState : SmartQueueDogfoodAgentPromptState
  expectedTicketStates : Option (List SmartQueueDogfoodTicketState)

/-- A transition answers with the item after it, or with the item as it was and why. -/
inductive SmartQueueLifecycleTransitionResult where
  | success (item : SmartQueueDogfoodLifecycleItem)
  | failure (item : SmartQueueDogfoodLifecycleItem) (error : SmartQueueLifecycleTransitionError)

/-- The item after a transition that succeeded. -/
def SmartQueueLifecycleTransitionResult.ok? :
    SmartQueueLifecycleTransitionResult → Option SmartQueueDogfoodLifecycleItem
  | .success item => some item
  | .failure _ _ => none

open SmartQueueLifecycleTransitionResult (success failure)

def ticketStateLabel : SmartQueueDogfoodTicketState → String
  | .draft => "Draft"
  | .queued => "Queued"
  | .blocked => "Blocked"
  | .running => "Running"
  | .awaitingReview => "Awaiting review"
  | .inReview => "In review"
  | .done => "Done"
  | .failure => "Failure"

def reviewOutcomeLabel : SmartQueueDogfoodReviewOutcome → String
  | .completed => "Agent completed"
  | .notCompleted => "Agent not completed"
  | .failed => "Agent failed"

def transitionError (action : String) (code : SmartQueueLifecycleTransitionErrorCode)
    (item : SmartQueueDogfoodLifecycleItem) (message : String)
    (expectedTicketStates : Option (List SmartQueueDogfoodTicketState) := none) :
    SmartQueueLifecycleTransitionError :=
  { code, action, message, expectedTicketStates
    currentTicketState := item.ticketState
    currentAgentPromptState := item.agentPromptState }

def assertTicketState (item : SmartQueueDogfoodLifecycleItem) (action : String)
    (expectedTicketStates : List SmartQueueDogfoodTicketState) :
    Option SmartQueueLifecycleTransitionError :=
  if item.ticketState = .done ∨ item.ticketState = .failure then
    some (transitionError action .terminalState item
      (ticketStateLabel item.ticketState ++ " is terminal in the MVP lifecycle model.")
      (some expectedTicketStates))
  else if item.ticketState ∉ expectedTicketStates then
    some (transitionError action .invalidState item
      (action ++ " cannot run from " ++ ticketStateLabel item.ticketState ++ ".")
      (some expectedTicketStates))
  else none

/-- A transition that runs from one ticket state only. -/
def fromTicketState (item : SmartQueueDogfoodLifecycleItem) (action : String)
    (expected : SmartQueueDogfoodTicketState)
    (body : SmartQueueLifecycleTransitionResult) : SmartQueueLifecycleTransitionResult :=
  match assertTicketState item action [expected] with
  | some stateError => failure item stateError
  | none => body

def cleanText (value : Option String) : String := ((value.map trim).getD "")

def cleanOptionalText (value : Option String) : Option String :=
  if cleanText value = "" then none else some (cleanText value)

/-- `cleanText(value) || fallback`. -/
def cleanTextOr (value : Option String) (fallback : String) : String :=
  (cleanOptionalText value).getD fallback

def decisionReason : SmartQueueCoordinatorReviewDecisionKind → String
  | .approveValidation => "Validation approved."
  | .requestCommit => "Commit requested."
  | .attachCommitResult => "Commit result attached."
  | .markDone => "Marked done."
  | .addFollowUpPrompt => "Follow-up prompt added."
  | .returnToRunningAddedPrompt => "Returned to running with added prompt."
  | .blockTask => "Blocked by coordinator decision."
  | .failTask => "Failed by coordinator decision."

def coordinatorDecision (input : SmartQueueCoordinatorReviewDecision) :
    SmartQueueCoordinatorReviewDecision :=
  { input with reason := cleanTextOr (some input.reason) (decisionReason input.kind) }

/-! ## Draft to running -/

structure CreateDogfoodLifecycleItemInput where
  taskId : String
  title : Option String
  originalPrompt : Option String
  createdAt : String

/-- A new item, in draft. -/
def createDogfoodLifecycleItem (input : CreateDogfoodLifecycleItemInput) :
    SmartQueueDogfoodLifecycleItem :=
  { taskId := input.taskId
    title := input.title
    originalPrompt := input.originalPrompt
    currentRunnablePrompt := input.originalPrompt
    ticketState := .draft
    agentPromptState := .idle
    reviewOutcome := none
    additionalPromptCount := 0
    currentAttemptId := none
    currentThreadId := none
    finalAgentMessage := none
    validationSummary := none
    changedFilesSummary := none
    workerEvidenceBundle := none
    blockedReason := none
    failureReason := none
    followUpPrompts := []
    reviewMessages := []
    reviewAcks := []
    coordinatorDecisions := []
    validationApprovals := []
    commitRequests := []
    commitResults := []
    createdAt := input.createdAt
    updatedAt := input.createdAt }

def queueDogfoodLifecycleItem (item : SmartQueueDogfoodLifecycleItem) (queuedAt : String) :
    SmartQueueLifecycleTransitionResult :=
  fromTicketState item "queueDogfoodLifecycleItem" .draft <|
    success { item with ticketState := .queued, updatedAt := queuedAt }

structure StartQueueItemRunInput where
  attemptId : Option String
  threadId : Option String
  runnablePrompt : Option String
  startedAt : String

def startQueueItemRun (item : SmartQueueDogfoodLifecycleItem) (input : StartQueueItemRunInput) :
    SmartQueueLifecycleTransitionResult :=
  fromTicketState item "startQueueItemRun" .queued <|
    let runnablePrompt := cleanText
      (input.runnablePrompt <|> item.currentRunnablePrompt <|> item.originalPrompt)
    if runnablePrompt = "" then
      failure item (transitionError "startQueueItemRun" .emptyPrompt item
        "A queued item needs a runnable prompt before it can enter Running.")
    else
      success { item with
        agentPromptState := .running
        currentAttemptId := input.attemptId <|> item.currentAttemptId
        currentRunnablePrompt := some runnablePrompt
        currentThreadId := input.threadId <|> item.currentThreadId
        ticketState := .running
        updatedAt := input.startedAt }

/-! ## The agent has finished -/

structure FinishAgentPromptInput where
  agentPromptState : SmartQueueDogfoodAgentPromptState
  attemptId : Option String
  changedFilesSummary : Option String
  finalAgentMessage : String
  finishedAt : String
  reviewOutcome : SmartQueueDogfoodReviewOutcome
  threadId : Option String
  transitionAction : String
  validationSummary : Option String
  workerEvidenceBundle : Option QueueWorkerEvidenceBundle

/-- A prompt of the agent has ended. -/
def finishAgentPrompt (item : SmartQueueDogfoodLifecycleItem) (input : FinishAgentPromptInput) :
    SmartQueueLifecycleTransitionResult :=
  fromTicketState item input.transitionAction .running <|
    let finalAgentMessage := cleanText (some input.finalAgentMessage)
    if finalAgentMessage = "" then
      failure item (transitionError input.transitionAction .missingFinalAgentMessage item
        "Agent prompt completion needs a final agent message.")
    else
      success { item with
        agentPromptState := input.agentPromptState
        changedFilesSummary := cleanOptionalText input.changedFilesSummary
        currentAttemptId := input.attemptId <|> item.currentAttemptId
        currentThreadId := input.threadId <|> item.currentThreadId
        finalAgentMessage := some finalAgentMessage
        reviewOutcome := some input.reviewOutcome
        ticketState := .awaitingReview
        updatedAt := input.finishedAt
        validationSummary := cleanOptionalText input.validationSummary
        workerEvidenceBundle := input.workerEvidenceBundle }

structure ApplyAgentFinishedInput where
  attemptId : Option String
  changedFilesSummary : Option String
  finalAgentMessage : String
  finishedAt : String
  outcome : SmartQueueDogfoodReviewOutcome
  threadId : Option String
  validationSummary : Option String
  workerEvidenceBundle : Option QueueWorkerEvidenceBundle

/-- The three endings of an agent prompt differ in their name and in the state they leave. -/
def finishWith (item : SmartQueueDogfoodLifecycleItem) (input : ApplyAgentFinishedInput)
    (transitionAction : String) (agentPromptState : SmartQueueDogfoodAgentPromptState)
    (reviewOutcome : SmartQueueDogfoodReviewOutcome) : SmartQueueLifecycleTransitionResult :=
  finishAgentPrompt item
    { agentPromptState, reviewOutcome, transitionAction
      attemptId := input.attemptId
      changedFilesSummary := input.changedFilesSummary
      finalAgentMessage := input.finalAgentMessage
      finishedAt := input.finishedAt
      threadId := input.threadId
      validationSummary := input.validationSummary
      workerEvidenceBundle := input.workerEvidenceBundle }

def completeAgentPrompt (item : SmartQueueDogfoodLifecycleItem)
    (input : ApplyAgentFinishedInput) : SmartQueueLifecycleTransitionResult :=
  finishWith item input "completeAgentPrompt" .completed .completed

def markAgentPromptNotCompleted (item : SmartQueueDogfoodLifecycleItem)
    (input : ApplyAgentFinishedInput) : SmartQueueLifecycleTransitionResult :=
  finishWith item input "markAgentPromptNotCompleted" .notCompleted .notCompleted

def failAgentPrompt (item : SmartQueueDogfoodLifecycleItem)
    (input : ApplyAgentFinishedInput) : SmartQueueLifecycleTransitionResult :=
  finishWith item input "failAgentPrompt" .failed .failed

def applyAgentFinishedToQueueLifecycle (item : SmartQueueDogfoodLifecycleItem)
    (input : ApplyAgentFinishedInput) : SmartQueueLifecycleTransitionResult :=
  match input.outcome with
  | .completed => completeAgentPrompt item input
  | .notCompleted => markAgentPromptNotCompleted item input
  | .failed => failAgentPrompt item input

/-! ## Review -/

structure CreateReviewMessageInput where
  messageId : String
  toCoordinatorAgentId : String
  createdAt : String
  attemptId : Option String
  evidenceSummary : Option String
  finalAgentMessage : Option String
  validationSummary : Option String
  changedFilesSummary : Option String
  workerEvidenceBundle : Option QueueWorkerEvidenceBundle

def productSummaryForReviewMessage (evidenceSummary : Option String) (finalAgentMessage : String)
    (reviewOutcome : SmartQueueDogfoodReviewOutcome) : String :=
  let base := reviewOutcomeLabel reviewOutcome ++ ": " ++ finalAgentMessage
  match evidenceSummary with
  | some evidence => base ++ ". Evidence: " ++ evidence
  | none => base

/-- The finished item asks for a review. -/
def createReviewMessage (item : SmartQueueDogfoodLifecycleItem)
    (input : CreateReviewMessageInput) : SmartQueueLifecycleTransitionResult :=
  fromTicketState item "createReviewMessage" .awaitingReview <|
    match item.reviewOutcome with
    | none =>
      failure item (transitionError "createReviewMessage" .missingReviewOutcome item
        "A review message needs the agent review outcome.")
    | some reviewOutcome =>
      let finalAgentMessage := cleanText (input.finalAgentMessage <|> item.finalAgentMessage)
      if finalAgentMessage = "" then
        failure item (transitionError "createReviewMessage" .missingFinalAgentMessage item
          "A review message needs the final agent message.")
      else
        let evidenceSummary := cleanOptionalText
          (input.evidenceSummary <|> item.workerEvidenceBundle.map (·.humanSummary))
        let message : SmartQueueReviewMessage :=
          { messageId := input.messageId
            taskId := item.taskId
            attemptId := input.attemptId <|> item.currentAttemptId
            fromQueueItemId := item.taskId
            toCoordinatorAgentId := input.toCoordinatorAgentId
            reviewOutcome, finalAgentMessage, evidenceSummary
            validationSummary := cleanOptionalText
              (input.validationSummary <|> item.validationSummary)
            changedFilesSummary := cleanOptionalText
              (input.changedFilesSummary <|> item.changedFilesSummary)
            workerEvidenceBundle := input.workerEvidenceBundle <|> item.workerEvidenceBundle
            createdAt := input.createdAt
            productSummary := productSummaryForReviewMessage evidenceSummary finalAgentMessage
              reviewOutcome }
        success { item with
          reviewMessages := item.reviewMessages ++ [message]
          updatedAt := input.createdAt }

structure AcknowledgeReviewMessageInput where
  ackId : String
  messageId : String
  coordinatorAgentId : String
  receivedAt : String

/-- The message is looked up by its id among all the messages of the item. -/
def acknowledgeReviewMessage (item : SmartQueueDogfoodLifecycleItem)
    (input : AcknowledgeReviewMessageInput) : SmartQueueLifecycleTransitionResult :=
  fromTicketState item "acknowledgeReviewMessage" .awaitingReview <|
    match item.reviewMessages.find? (·.messageId = input.messageId) with
    | none =>
      failure item (transitionError "acknowledgeReviewMessage" .missingReviewMessage item
        "Review ACK failed because the review message was not found.")
    | some message =>
      if message.taskId ≠ item.taskId ∨ message.fromQueueItemId ≠ item.taskId ∨
          message.toCoordinatorAgentId ≠ input.coordinatorAgentId then
        failure item (transitionError "acknowledgeReviewMessage" .wrongReviewAckTarget item
          "Review ACK failed because the message target does not match this task and coordinator.")
      else
        success { item with
          reviewAcks := item.reviewAcks ++ [
            { ackId := input.ackId
              messageId := input.messageId
              coordinatorAgentId := input.coordinatorAgentId
              receivedAt := input.receivedAt }]
          ticketState := .inReview
          updatedAt := input.receivedAt }

/-! ## Decisions of the coordinator -/

structure ApproveValidationInput where
  validationApprovalId : String
  approvedByCoordinatorAgentId : String
  summary : String
  approvedAt : String
  decisionId : Option String

/-- The validation is approved. -/
def approveValidation (item : SmartQueueDogfoodLifecycleItem) (input : ApproveValidationInput) :
    SmartQueueLifecycleTransitionResult :=
  fromTicketState item "approveValidation" .inReview <|
    let validationApproval : SmartQueueValidationApproval :=
      { validationApprovalId := input.validationApprovalId
        taskId := item.taskId
        approvedByCoordinatorAgentId := input.approvedByCoordinatorAgentId
        summary := cleanTextOr (some input.summary) "Validation approved."
        approvedAt := input.approvedAt }
    let decision := coordinatorDecision
      { decisionId := input.decisionId.getD ("decision:" ++ input.validationApprovalId)
        taskId := item.taskId
        kind := .approveValidation
        createdAt := input.approvedAt
        coordinatorAgentId := some input.approvedByCoordinatorAgentId
        reason := validationApproval.summary
        validationApprovalId := some validationApproval.validationApprovalId }
    success { item with
      coordinatorDecisions := item.coordinatorDecisions ++ [decision]
      updatedAt := input.approvedAt
      validationApprovals := item.validationApprovals ++ [validationApproval] }

structure RequestCommitInput where
  commitRequestId : String
  requestedByCoordinatorAgentId : String
  reason : String
  createdAt : String
  decisionId : Option String

/-- A commit is asked for. -/
def requestCommit (item : SmartQueueDogfoodLifecycleItem) (input : RequestCommitInput) :
    SmartQueueLifecycleTransitionResult :=
  fromTicketState item "requestCommit" .inReview <|
    if item.validationApprovals = [] then
      failure item (transitionError "requestCommit" .missingValidationApproval item
        "Commit request requires an explicit validation approval record.")
    else
      let commitRequest : SmartQueueCommitRequest :=
        { commitRequestId := input.commitRequestId
          taskId := item.taskId
          requestedByCoordinatorAgentId := input.requestedByCoordinatorAgentId
          reason := cleanTextOr (some input.reason) "Commit requested."
          createdAt := input.createdAt }
      let decision := coordinatorDecision
        { decisionId := input.decisionId.getD ("decision:" ++ input.commitRequestId)
          taskId := item.taskId
          kind := .requestCommit
          createdAt := input.createdAt
          coordinatorAgentId := some input.requestedByCoordinatorAgentId
          reason := commitRequest.reason
          commitRequestId := some commitRequest.commitRequestId }
      success { item with
        commitRequests := item.commitRequests ++ [commitRequest]
        coordinatorDecisions := item.coordinatorDecisions ++ [decision]
        updatedAt := input.createdAt }

structure AttachCommitResultInput where
  commitResultId : String
  commitRequestId : Option String
  status : SmartQueueCommitResultStatus
  commitHash : Option String
  summary : String
  attachedAt : String
  coordinatorAgentId : Option String
  decisionId : Option String

def defaultCommitResultSummary : SmartQueueCommitResultStatus → String
  | .success => "Fake commit result succeeded."
  | .failed => "Fake commit result failed."

/-- The commit request a result is for: the one it names, or else the last one. -/
def resolvedCommitRequestId (item : SmartQueueDogfoodLifecycleItem)
    (input : AttachCommitResultInput) : Option String :=
  input.commitRequestId <|> item.commitRequests.getLast?.map (·.commitRequestId)

/-- The result of a requested commit. -/
def attachCommitResult (item : SmartQueueDogfoodLifecycleItem) (input : AttachCommitResultInput) :
    SmartQueueLifecycleTransitionResult :=
  fromTicketState item "attachCommitResult" .inReview <|
    if item.commitRequests = [] then
      failure item (transitionError "attachCommitResult" .missingCommitRequest item
        "A fake commit result can be attached only after a commit request record exists.")
    else
      let commitRequestId := resolvedCommitRequestId item input
      -- an empty id counts as no id and is not looked up
      if commitRequestId ≠ none ∧ commitRequestId ≠ some "" ∧
          ¬ item.commitRequests.any fun request =>
            some request.commitRequestId = commitRequestId then
        failure item (transitionError "attachCommitResult" .invalidCommitResult item
          "Commit result references an unknown commit request.")
      else
        let commitResult : SmartQueueCommitResult :=
          { commitResultId := input.commitResultId
            taskId := item.taskId
            commitRequestId
            status := input.status
            commitHash := cleanOptionalText input.commitHash
            summary := cleanTextOr (some input.summary) (defaultCommitResultSummary input.status)
            attachedAt := input.attachedAt }
        let decision := coordinatorDecision
          { decisionId := input.decisionId.getD ("decision:" ++ input.commitResultId)
            taskId := item.taskId
            kind := .attachCommitResult
            createdAt := input.attachedAt
            coordinatorAgentId := input.coordinatorAgentId
            reason := commitResult.summary
            commitRequestId
            commitResultId := some commitResult.commitResultId }
        success { item with
          commitResults := item.commitResults ++ [commitResult]
          coordinatorDecisions := item.coordinatorDecisions ++ [decision]
          updatedAt := input.attachedAt }

structure MarkDoneInput where
  decisionId : String
  coordinatorAgentId : String
  reason : String
  completedAt : String

/-- Every guard asks whether some record exists, whichever attempt it is from. -/
def markQueueItemDone (item : SmartQueueDogfoodLifecycleItem) (input : MarkDoneInput) :
    SmartQueueLifecycleTransitionResult :=
  fromTicketState item "markQueueItemDone" .inReview <|
    if item.reviewOutcome ≠ some .completed then
      failure item (transitionError "markQueueItemDone" .missingReviewOutcome item
        "Done requires a completed agent review outcome.")
    else if item.validationApprovals = [] then
      failure item (transitionError "markQueueItemDone" .missingValidationApproval item
        "Done requires an explicit validation approval record.")
    else if ¬ item.commitResults.any (·.status = .success) then
      failure item (transitionError "markQueueItemDone" .missingCommitResult item
        "Done requires a successful commit result placeholder in this MVP model.")
    else
      let decision := coordinatorDecision
        { decisionId := input.decisionId
          taskId := item.taskId
          kind := .markDone
          createdAt := input.completedAt
          coordinatorAgentId := some input.coordinatorAgentId
          reason := cleanTextOr (some input.reason) "Queue item done." }
      success { item with
        coordinatorDecisions := item.coordinatorDecisions ++ [decision]
        ticketState := .done
        updatedAt := input.completedAt }

structure AddFollowUpPromptInput where
  followUpPromptId : String
  prompt : String
  createdByCoordinatorAgentId : String
  createdAt : String
  parentAttemptId : Option String
  threadId : Option String
  decisionId : Option String

/-- The coordinator sends the item back with a prompt. -/
def returnToRunningWithAddedPrompt (item : SmartQueueDogfoodLifecycleItem)
    (followUpPrompt : SmartQueueFollowUpPrompt) (coordinatorAgentId decisionId : Option String) :
    SmartQueueLifecycleTransitionResult :=
  fromTicketState item "returnToRunningWithAddedPrompt" .inReview <|
    if followUpPrompt.taskId ≠ item.taskId ∨ cleanText (some followUpPrompt.prompt) = "" then
      failure item (transitionError "returnToRunningWithAddedPrompt" .invalidFollowUpPrompt item
        "Follow-up prompt must target this Queue item and include runnable prompt text.")
    else
      let coordinator := coordinatorAgentId.getD followUpPrompt.createdByCoordinatorAgentId
      let decision := coordinatorDecision
        { decisionId := decisionId.getD ("decision:" ++ followUpPrompt.followUpPromptId)
          taskId := item.taskId
          kind := .addFollowUpPrompt
          createdAt := followUpPrompt.createdAt
          coordinatorAgentId := some coordinator
          reason := "Follow-up prompt added."
          followUpPromptId := some followUpPrompt.followUpPromptId }
      let runningDecision := coordinatorDecision
        { decisionId := decision.decisionId ++ ":return-to-running"
          taskId := item.taskId
          kind := .returnToRunningAddedPrompt
          createdAt := followUpPrompt.createdAt
          coordinatorAgentId := some coordinator
          reason := "Returned to running with added prompt."
          followUpPromptId := some followUpPrompt.followUpPromptId }
      success { item with
        additionalPromptCount := item.additionalPromptCount + 1
        agentPromptState := .additionalPromptRunning
        coordinatorDecisions := item.coordinatorDecisions ++ [decision, runningDecision]
        currentRunnablePrompt := some followUpPrompt.prompt
        currentThreadId := followUpPrompt.threadId <|> item.currentThreadId
        followUpPrompts := item.followUpPrompts ++ [followUpPrompt]
        ticketState := .running
        updatedAt := followUpPrompt.createdAt }

def addFollowUpPrompt (item : SmartQueueDogfoodLifecycleItem) (input : AddFollowUpPromptInput) :
    SmartQueueLifecycleTransitionResult :=
  returnToRunningWithAddedPrompt item
    { followUpPromptId := input.followUpPromptId
      taskId := item.taskId
      parentAttemptId := input.parentAttemptId <|> item.currentAttemptId
      threadId := input.threadId <|> item.currentThreadId
      prompt := cleanText (some input.prompt)
      createdByCoordinatorAgentId := input.createdByCoordinatorAgentId
      createdAt := input.createdAt }
    (some input.createdByCoordinatorAgentId)
    (some (input.decisionId.getD ("decision:" ++ input.followUpPromptId)))

/-- The input of the two decisions that give an item up. -/
structure GiveUpInput where
  decisionId : String
  coordinatorAgentId : String
  reason : String
  decidedAt : String

def blockQueueItem (item : SmartQueueDogfoodLifecycleItem) (input : GiveUpInput) :
    SmartQueueLifecycleTransitionResult :=
  fromTicketState item "blockQueueItem" .inReview <|
    let reason := cleanTextOr (some input.reason) "Blocked by coordinator decision."
    let decision := coordinatorDecision
      { decisionId := input.decisionId
        taskId := item.taskId
        kind := .blockTask
        createdAt := input.decidedAt
        coordinatorAgentId := some input.coordinatorAgentId
        reason }
    success { item with
      blockedReason := some reason
      coordinatorDecisions := item.coordinatorDecisions ++ [decision]
      ticketState := .blocked
      updatedAt := input.decidedAt }

def failQueueItem (item : SmartQueueDogfoodLifecycleItem) (input : GiveUpInput) :
    SmartQueueLifecycleTransitionResult :=
  fromTicketState item "failQueueItem" .inReview <|
    let reason := cleanTextOr (some input.reason) "Failed by coordinator decision."
    let decision := coordinatorDecision
      { decisionId := input.decisionId
        taskId := item.taskId
        kind := .failTask
        createdAt := input.decidedAt
        coordinatorAgentId := some input.coordinatorAgentId
        reason }
    success { item with
      failureReason := some reason
      coordinatorDecisions := item.coordinatorDecisions ++ [decision]
      ticketState := .failure
      updatedAt := input.decidedAt }

end HobitQueue.Frontend
