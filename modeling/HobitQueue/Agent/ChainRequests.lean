import HobitQueue.Lib.CanonicalJson
import HobitQueue.Lib.Run
import HobitQueue.Agent.NextActions

/-!
# The requests of a chain of actions

An agent asks for one action at a time. The state of its chain counts the requests and remembers
them, so that none is made twice, and keeps the next action that the last answer named; a request
for this action gets the confirmation of the operator's grant. The operator starts and clears
chains; outputs and answers come in any order, also when the chain that asked is over and another
one is kept.
-/

namespace HobitQueue.Agent

open JavaScript

/-! ## Requests -/

inductive RequestIdSource where
  | derived | explicit
  deriving DecidableEq

/-- A request for an action. -/
structure ActionRequest where
  agentId : String
  capabilityId : String
  confirmationToken : Option String
  createdAt : String
  dryRun : Bool
  input : Json
  reason : Option String
  rawRequestId : Option String
  requestId : String
  requestIdSource : RequestIdSource
  deriving DecidableEq

structure HobitAgentActionRequestEnvelope where
  capabilityId : String
  confirmationToken : Option String
  dryRun : Bool
  input : Json
  reason : Option String
  requestId : Option String
  deriving DecidableEq

/-- `createHobitAgentActionRequestFromEnvelope`, with `createActionRequest`. -/
def createHobitAgentActionRequestFromEnvelope (agentId createdAt : String)
    (derivedRequestId : Option String) (envelope : HobitAgentActionRequestEnvelope) :
    ActionRequest :=
  let explicitRequestId := nonEmptyTrim envelope.requestId
  let fallbackRequestId := (nonEmptyTrim derivedRequestId).getD
    (envelope.capabilityId ++ ":workspace-agent-action")
  { agentId, createdAt
    capabilityId := envelope.capabilityId
    confirmationToken := envelope.confirmationToken
    dryRun := envelope.dryRun
    input := envelope.input
    reason := envelope.reason
    rawRequestId := envelope.requestId
    requestId := explicitRequestId.getD fallbackRequestId
    requestIdSource := if explicitRequestId.isSome then .explicit else .derived }

/-- `stableStringify`. The texts are only compared, so the order it sorts the members of an object
in does not show. -/
def stableStringify (value : Json) : String := value.canonicalString

def workspaceAgentBrokerActionFingerprintFromParts (capabilityId : String) (dryRun : Bool)
    (input : Json) : String :=
  stableStringify
    (.obj [("capabilityId", .str capabilityId), ("dryRun", .bool dryRun), ("input", input)])

def workspaceAgentBrokerActionFingerprint (request : ActionRequest) : String :=
  workspaceAgentBrokerActionFingerprintFromParts request.capabilityId request.dryRun request.input

/-! ## The state of a chain -/

structure WorkspaceAgentBrokerContinuationState where
  actionCount : ℕ
  autonomyGrantRejectionReasons : List String
  chainId : String
  maxActions : ℕ
  pendingNextAction : Option Members
  protocolRepairAttempted : Bool
  queueAutonomyGrant : Option QueueAutonomyGrant
  queueAutonomyPolicy : QueueAutonomyPolicy
  seenRequestFingerprints : List String
  seenRequestIds : List String
  deriving DecidableEq

/-- What the chains take from outside: the finite numbers that numerals stand for, and the tables
of the check of a next action. -/
structure Setting where
  number : String → Option ℚ
  tables : NextActionTables

def policyOf (grant : Option QueueAutonomyGrant) : QueueAutonomyPolicy :=
  match grant with
  | some grant => createQueueAutonomyPolicy grant
  | none => createDefaultQueueAutonomyPolicy

/-- A new chain, with its budget and its grant. -/
def createWorkspaceAgentBrokerContinuationState (setting : Setting) (chainId : String)
    (queueAutonomyGrant : Json := .null) (autonomyGrantRejectionReasons : List String := [])
    (maxActions : ℕ := workspaceAgentBrokerContinuationMaxActions) :
    WorkspaceAgentBrokerContinuationState :=
  let structuredGrant := normalizeWorkspaceAgentQueueAutonomyGrant setting.number queueAutonomyGrant
  let policy := policyOf structuredGrant
  { actionCount := 0
    autonomyGrantRejectionReasons, chainId
    maxActions := min maxActions
      (min (policy.maxActions.getD workspaceAgentBrokerContinuationMaxActions)
        workspaceAgentBrokerContinuationMaxActions)
    pendingNextAction := none
    protocolRepairAttempted := false
    queueAutonomyGrant := structuredGrant
    queueAutonomyPolicy := policy
    seenRequestFingerprints := []
    seenRequestIds := [] }

inductive StopReason where
  | maxActionCountReached | protocolError | repeatedRequestFingerprint | repeatedRequestId
  deriving DecidableEq

/-! ## Making a request -/

inductive Attempt where
  | ok (actionIndex : ℕ) (fingerprint : String)
  | stopped (actionIndex : ℕ) (stopReason : StopReason)
  deriving DecidableEq

/-- Whether a request is made. -/
def evaluateWorkspaceAgentBrokerContinuationAttempt
    (state : WorkspaceAgentBrokerContinuationState) (request : ActionRequest) : Attempt :=
  let actionIndex := state.actionCount + 1
  let fingerprint := workspaceAgentBrokerActionFingerprint request
  if state.actionCount ≥ state.maxActions then .stopped actionIndex .maxActionCountReached
  else if request.requestIdSource ≠ .derived ∧ request.requestId ∈ state.seenRequestIds then
    .stopped actionIndex .repeatedRequestId
  else if fingerprint ∈ state.seenRequestFingerprints then
    .stopped actionIndex .repeatedRequestFingerprint
  else .ok actionIndex fingerprint

def deriveWorkspaceAgentBrokerContinuationRequestId (actionIndex : ℕ)
    (capabilityId chainId : String) : String :=
  chainId ++ ":action-" ++ toString actionIndex ++ ":" ++ capabilityId

/-- `values.slice(-count)`; minus zero is zero. -/
def sliceLast {α : Type} (count : ℕ) (values : List α) : List α :=
  if count = 0 then values else values.drop (values.length - count)

def recordWorkspaceAgentBrokerContinuationAttempt (state : WorkspaceAgentBrokerContinuationState)
    (request : ActionRequest) (fingerprint : String) : WorkspaceAgentBrokerContinuationState :=
  { state with
    actionCount := state.actionCount + 1
    seenRequestFingerprints :=
      sliceLast state.maxActions (state.seenRequestFingerprints ++ [fingerprint])
    seenRequestIds := sliceLast state.maxActions (state.seenRequestIds ++ [request.requestId])
    pendingNextAction := none }

def recordWorkspaceAgentBrokerContinuationProtocolRepair
    (state : WorkspaceAgentBrokerContinuationState) : WorkspaceAgentBrokerContinuationState :=
  { state with protocolRepairAttempted := true }

def actionRequestMatchesNextAction (request : ActionRequest) (nextAction : Members) : Bool :=
  nextAction.lookup "capabilityId" = some (.str request.capabilityId) ∧
    (nextAction.lookup "input").any fun input =>
      stableStringify request.input = stableStringify input

/-- The request with the confirmation that the grant supplies, and whether it was supplied. -/
def applyWorkspaceAgentQueueAutonomyGrantToActionRequest
    (state : WorkspaceAgentBrokerContinuationState) (request : ActionRequest) :
    Bool × ActionRequest :=
  if request.confirmationToken.any (· ≠ "") ∨
      state.queueAutonomyPolicy.confirmationToken ≠ some queueStartRunConfirmationToken ∨
      !state.pendingNextAction.any (actionRequestMatchesNextAction request) then
    (false, request)
  else
    match queueCapabilityContractById request.capabilityId with
    | none => (false, request)
    | some contract =>
      if contract.confirmation.isRequired then
        match decideQueueAutonomyForCapability request.capabilityId contract
          state.queueAutonomyPolicy with
        | .allowed true _ =>
          (true, { request with confirmationToken := some queueStartRunConfirmationToken })
        | _ => (false, request)
      else (false, request)

/-- The next action that the output of an answer names. -/
def queueResultNextAction (output : Option Json) : Option Members :=
  recordField (output.bind Json.asObject) "nextAction"

def prepareWorkspaceAgentBrokerContinuationStateForResult (setting : Setting)
    (state : WorkspaceAgentBrokerContinuationState) (output : Option Json) :
    WorkspaceAgentBrokerContinuationState :=
  { state with
    pendingNextAction :=
      (queueResultNextAction output).filter (validateHobitNextAction setting.tables) }

/-! ## Sessions -/

/-- An output that asks for an action. -/
structure AskedAction where
  agentId : String
  createdAt : String
  derivedChainId : String
  envelope : HobitAgentActionRequestEnvelope
  deriving DecidableEq

/-- What happens. The operator starts a run or the chain is cleared, as it also is by an output
that ends it; an answer ends the chain or the agent goes on, and from which answers it goes on is
left open. -/
inductive Op where
  | run (chainId : String) (queueAutonomyGrant : Json)
      (autonomyGrantRejectionReasons : List String)
  | clear
  | request (input : AskedAction)
  | unreadable (continuationThreadId : Option String)
  | answer (output : Option Json) (goesOn : Bool)

/-- An event of a chain: its start with the grant, a request with whether its confirmation was
supplied, an answer that the agent went on from, a turn to repair the output. -/
inductive ChainEvent where
  | started (grant : Option QueueAutonomyGrant)
  | invoked (confirmationInjected : Bool) (request : ActionRequest)
  | answered (output : Option Json)
  | repaired
  deriving DecidableEq

/-- The state that is kept, and the events of its chain or, when none is kept, of the last one. -/
structure Session where
  chain : Option WorkspaceAgentBrokerContinuationState := none
  log : List ChainEvent := []
  deriving DecidableEq

section Step

variable (setting : Setting)

def Session.started (chainId : String) (queueAutonomyGrant : Json)
    (autonomyGrantRejectionReasons : List String) : Session :=
  let state := createWorkspaceAgentBrokerContinuationState setting chainId queueAutonomyGrant
    autonomyGrantRejectionReasons
  { chain := some state, log := [.started state.queueAutonomyGrant] }

/-- The request of an output in the state of the chain. -/
def baseActionRequest (state : WorkspaceAgentBrokerContinuationState) (input : AskedAction) :
    ActionRequest :=
  createHobitAgentActionRequestFromEnvelope input.agentId input.createdAt
    (if (nonEmptyTrim input.envelope.requestId).isSome then none
      else some (deriveWorkspaceAgentBrokerContinuationRequestId (state.actionCount + 1)
        input.envelope.capabilityId state.chainId)) input.envelope

/-- `runActionRequestResult` for a chain that is kept. -/
def runActionRequest (state : WorkspaceAgentBrokerContinuationState) (log : List ChainEvent)
    (input : AskedAction) : Session :=
  let applied := applyWorkspaceAgentQueueAutonomyGrantToActionRequest state
    (baseActionRequest state input)
  match evaluateWorkspaceAgentBrokerContinuationAttempt state applied.2 with
  | .stopped _ _ => { chain := none, log }
  | .ok _ fingerprint =>
    { chain := some (recordWorkspaceAgentBrokerContinuationAttempt state applied.2 fingerprint)
      log := log ++ [.invoked applied.1 applied.2] }

/-- `runActionRequestResult`: without a chain one is created, without a grant. -/
def runActionRequestResult (s : Session) (input : AskedAction) : Session :=
  match s.chain with
  | some state => runActionRequest state s.log input
  | none =>
    runActionRequest (createWorkspaceAgentBrokerContinuationState setting input.derivedChainId)
      [.started none] input

/-- An output that is no request: the provider is asked once to repair it, in its thread. -/
def runProtocolRepair (s : Session) (continuationThreadId : Option String) : Session :=
  match s.chain with
  | none => s
  | some state =>
    if !state.protocolRepairAttempted ∧ (nonEmptyTrim continuationThreadId).isSome then
      { chain := some (recordWorkspaceAgentBrokerContinuationProtocolRepair state)
        log := s.log ++ [.repaired] }
    else { s with chain := none }

/-- `runBrokerActionResult`: the state of a chain that goes on is prepared for the next action. -/
def runBrokerActionResult (s : Session) (output : Option Json) (goesOn : Bool) : Session :=
  match s.chain, goesOn with
  | some state, true =>
    { chain := some (prepareWorkspaceAgentBrokerContinuationStateForResult setting state output)
      log := s.log ++ [.answered output] }
  | _, _ => { s with chain := none }

def Session.perform (s : Session) : Op → Session
  | .run chainId queueAutonomyGrant autonomyGrantRejectionReasons =>
    Session.started setting chainId queueAutonomyGrant autonomyGrantRejectionReasons
  | .clear => { s with chain := none }
  | .request input => runActionRequestResult setting s input
  | .unreadable continuationThreadId => runProtocolRepair s continuationThreadId
  | .answer output goesOn => runBrokerActionResult setting s output goesOn

end Step

end HobitQueue.Agent
