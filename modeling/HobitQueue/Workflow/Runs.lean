import HobitQueue.Lib.CanonicalJson
import HobitQueue.Service.StartContext
import HobitQueue.Store.Workflows

/-!
# Workflow runs

A workflow run is started once for each request of a workspace, and cancelled while it
is not ended. What the caller hands over is stored as bounded canonical JSON; a
confirmation token is never stored.
-/

namespace HobitQueue

open Concurrent StoreProg

def maxWorkflowInputsJsonBytes : ℕ := 32768
def maxWorkflowGrantSummaryJsonBytes : ℕ := 8192
def maxWorkflowVariablesJsonBytes : ℕ := 16384
def maxWorkflowSlotBindingsJsonBytes : ℕ := 16384
def maxWorkflowMutationRefsJsonBytes : ℕ := 16384
def maxWorkflowIdempotencyKeysJsonBytes : ℕ := 16384
def maxWorkflowActionLogSummaryJsonBytes : ℕ := 16384

def queueWorkflowSchemaVersion : ℤ := 1
def queueWorkflowInitialVersion : ℤ := 1
def workflowPhaseIntake : String := "intake"
def workflowPhaseClosed : String := "closed"
def workflowStepCreated : String := "created"
def workflowStepCancelled : String := "cancelled"
def workflowCancelReason : String := "cancelled_by_operator"

/-! ## Statuses -/

inductive QueueWorkflowRunStatus where
  | created | running | paused | blocked | completed | failed | cancelled
  deriving DecidableEq, Repr

namespace QueueWorkflowRunStatus

def asStr : QueueWorkflowRunStatus → String
  | created => "created"
  | running => "running"
  | paused => "paused"
  | blocked => "blocked"
  | completed => "completed"
  | failed => "failed"
  | cancelled => "cancelled"

def fromStr : String → Option QueueWorkflowRunStatus
  | "created" => some created
  | "running" => some running
  | "paused" => some paused
  | "blocked" => some blocked
  | "completed" => some completed
  | "failed" => some failed
  | "cancelled" => some cancelled
  | _ => none

def isTerminal (status : QueueWorkflowRunStatus) : Bool :=
  status == completed || status == failed || status == cancelled

@[simp] theorem fromStr_asStr (status : QueueWorkflowRunStatus) :
    fromStr status.asStr = some status := by
  cases status <;> rfl

end QueueWorkflowRunStatus

/-- The statuses of an action. -/
inductive QueueWorkflowActionStatus where
  | created | running | completed | blocked | failed | cancelled
  deriving DecidableEq, Repr

namespace QueueWorkflowActionStatus

def asStr : QueueWorkflowActionStatus → String
  | created => "created"
  | running => "running"
  | completed => "completed"
  | blocked => "blocked"
  | failed => "failed"
  | cancelled => "cancelled"

def fromStr : String → Option QueueWorkflowActionStatus
  | "created" => some created
  | "running" => some running
  | "completed" => some completed
  | "blocked" => some blocked
  | "failed" => some failed
  | "cancelled" => some cancelled
  | _ => none

end QueueWorkflowActionStatus

/-- The phases a caller may name. -/
def isSupportedPhase (value : String) : Bool :=
  value ∈ ["intake", "setup", "run_start", "worker_evidence", "review", "decision", "closed"]

/-! ## Answers -/

structure QueueWorkflowCommandBlocker where
  blockerCode : String
  blockerMessage : String
  missingRequiredField : Option String
  deriving DecidableEq

structure QueueWorkflowConflict where
  conflictCode : String
  conflictMessage : String
  existingWorkflowRunId : Option String
  existingRequestHash : Option String
  requestedRequestHash : Option String
  deriving DecidableEq

/-- The blocker of a field that is missing or not accepted. -/
def invalidFieldBlocker (field message : String) : QueueWorkflowCommandBlocker :=
  { blockerCode := "missing_" ++ field
    blockerMessage := message
    missingRequiredField := some field }

def workflowBlocker (code message : String) (field : Option String) :
    QueueWorkflowCommandBlocker :=
  { blockerCode := code, blockerMessage := message, missingRequiredField := field }

/-! ## What may be stored -/

/-- The canonical JSON of a value within a limit; `null` counts as absent. -/
def boundedCanonicalJson (value : Option Json) (fieldName : String) (maxBytes : ℕ) :
    Except QueueWorkflowCommandBlocker (Option JsonText) :=
  match value with
  | none => .ok none
  | some value =>
      if value.isNull then .ok none
      else if maxBytes < utf8Length value.canonicalString then
        .error (workflowBlocker "workflow_json_too_large"
          (fieldName ++ " exceeds the configured byte limit.") (some fieldName))
      else .ok (some (.value value))

mutual

def containsConfirmationToken : Json → Bool
  | .obj members => anyMemberContainsConfirmationToken members
  | .arr items => anyItemContainsConfirmationToken items
  | _ => false

def anyMemberContainsConfirmationToken : List (String × Json) → Bool
  | [] => false
  | (key, value) :: rest =>
      key == "confirmationToken" || containsConfirmationToken value ||
        anyMemberContainsConfirmationToken rest

def anyItemContainsConfirmationToken : List Json → Bool
  | [] => false
  | value :: rest => containsConfirmationToken value || anyItemContainsConfirmationToken rest

end

/-- The members of a grant that are stored, in key order. -/
def grantSummaryKeys : List String :=
  ["actorId", "allowedRiskClasses", "constraints", "consumedActionCount", "expiresAt",
    "issuedAt", "maxActions", "mode", "restartPolicy", "scope"]

/-- What may be stored of a grant. -/
def safeGrantSummary (value : Json) : Except QueueWorkflowCommandBlocker Json :=
  if containsConfirmationToken value then
    .error (workflowBlocker "confirmation_token_not_persistable"
      "confirmationToken must not be persisted as reusable workflow permission."
      (some "grantSummary.confirmationToken"))
  else
    match value.asObject with
    | none => .error (workflowBlocker "invalid_grant_summary"
        "grantSummary must be a JSON object." (some "grantSummary"))
    | some members =>
        .ok (.obj (grantSummaryKeys.filterMap fun key =>
          (members.lookup key).map (key, ·)))

def stableFnv1a64Hash (hashPrefix canonicalJson : String) : String :=
  hashPrefix ++ ":" ++ hex16 (fnv1a64 canonicalJson)

def stableRequestHash (canonicalJson : String) : String :=
  stableFnv1a64Hash "fnv1a64" canonicalJson

/-! ## Start -/

structure QueueWorkflowStartRequest where
  workspaceId : String
  workflowId : String
  requestId : String
  phase : Option String
  currentStep : Option String
  actorId : Option String
  inputsSnapshot : Option Json
  grantSummary : Option Json
  variablesValue : Option Json
  slotBindings : Option Json
  mutationRefs : Option Json
  idempotencyKeys : Option Json
  actionLogSummary : Option Json

inductive QueueWorkflowStartStatus where
  | succeeded | alreadyExists | conflict | invalidInput
  deriving DecidableEq, Repr

structure QueueWorkflowStartResult where
  status : QueueWorkflowStartStatus
  workflowRun : Option AgentQueueWorkflowRunRow
  conflict : Option QueueWorkflowConflict
  blocker : Option QueueWorkflowCommandBlocker
  deriving DecidableEq

structure PreparedWorkflowSnapshots where
  requestHash : String
  inputsSnapshotJson : Option JsonText
  grantSummaryJson : Option JsonText
  variablesJson : Option JsonText
  slotBindingsJson : Option JsonText
  mutationRefsJson : Option JsonText
  idempotencyKeysJson : Option JsonText
  actionLogSummaryJson : Option JsonText

/-- What identifies the content of a start request. -/
def startHashValue (workflowId : String) (inputsSnapshot grantSummary : Option Json) : Json :=
  .obj [("grantSummary", grantSummary.getD .null),
    ("inputsSnapshot", inputsSnapshot.getD .null),
    ("workflowId", .str workflowId)]

/-- The texts of a new run in their bounds. -/
def prepareWorkflowSnapshots (workflowId : String) (request : QueueWorkflowStartRequest) :
    Except QueueWorkflowCommandBlocker PreparedWorkflowSnapshots := do
  let inputsSnapshotJson ← boundedCanonicalJson request.inputsSnapshot "inputsSnapshot"
    maxWorkflowInputsJsonBytes
  let grantSummaryValue ← request.grantSummary.mapM safeGrantSummary
  let grantSummaryJson ← boundedCanonicalJson grantSummaryValue "grantSummary"
    maxWorkflowGrantSummaryJsonBytes
  let variablesJson ← boundedCanonicalJson request.variablesValue "variables"
    maxWorkflowVariablesJsonBytes
  let slotBindingsJson ← boundedCanonicalJson request.slotBindings "slotBindings"
    maxWorkflowSlotBindingsJsonBytes
  let mutationRefsJson ← boundedCanonicalJson request.mutationRefs "mutationRefs"
    maxWorkflowMutationRefsJsonBytes
  let idempotencyKeysJson ← boundedCanonicalJson request.idempotencyKeys "idempotencyKeys"
    maxWorkflowIdempotencyKeysJsonBytes
  let actionLogSummaryJson ← boundedCanonicalJson request.actionLogSummary "actionLogSummary"
    maxWorkflowActionLogSummaryJsonBytes
  pure {
    requestHash := stableRequestHash
      (startHashValue workflowId request.inputsSnapshot grantSummaryValue).canonicalString
    inputsSnapshotJson := inputsSnapshotJson
    grantSummaryJson := grantSummaryJson
    variablesJson := variablesJson
    slotBindingsJson := slotBindingsJson
    mutationRefsJson := mutationRefsJson
    idempotencyKeysJson := idempotencyKeysJson
    actionLogSummaryJson := actionLogSummaryJson }

def startRefused (blocker : QueueWorkflowCommandBlocker) : QueueWorkflowStartResult :=
  { status := .invalidInput, workflowRun := none, conflict := none, blocker := some blocker }

def startInvalidInput (field message : String) : QueueWorkflowStartResult :=
  startRefused (invalidFieldBlocker field message)

/-- The trimmed request. -/
structure StartWorkflow where
  workspaceId : String
  workflowId : String
  requestId : String
  actorId : Option String
  phase : String
  currentStep : String

/-- The checks before the store is read. -/
def startWorkflow (request : QueueWorkflowStartRequest) :
    Except QueueWorkflowStartResult StartWorkflow := do
  let start : StartWorkflow := {
    workspaceId := Text.trim request.workspaceId
    workflowId := Text.trim request.workflowId
    requestId := Text.trim request.requestId
    actorId := Text.optionalTrimmed request.actorId
    phase := (Text.optionalTrimmed request.phase).getD workflowPhaseIntake
    currentStep := (Text.optionalTrimmed request.currentStep).getD workflowStepCreated }
  refuseIf (start.workspaceId == "") (startInvalidInput "workspaceId" "workspaceId is required.")
  refuseIf (start.workflowId == "") (startInvalidInput "workflowId" "workflowId is required.")
  refuseIf (start.requestId == "") (startInvalidInput "requestId" "requestId is required.")
  pure start

/-- The checks after the workspace was found. -/
def prepareStart (start : StartWorkflow) (request : QueueWorkflowStartRequest) :
    Except QueueWorkflowStartResult PreparedWorkflowSnapshots := do
  refuseIf (!isSupportedPhase start.phase)
    (startInvalidInput "phase" "Queue workflow phase is not supported.")
  (prepareWorkflowSnapshots start.workflowId request).mapError startRefused

/-- The answer when the request was made before. -/
def startOfExistingRun (start : StartWorkflow) (prepared : PreparedWorkflowSnapshots)
    (existing : AgentQueueWorkflowRunRow) : QueueWorkflowStartResult :=
  if existing.requestHash = prepared.requestHash ∧ existing.workflowId = start.workflowId then
    { status := .alreadyExists
      workflowRun := some existing
      conflict := none
      blocker := none }
  else
    { status := .conflict
      workflowRun := some existing
      conflict := some {
        conflictCode := "request_id_hash_conflict"
        conflictMessage := "A Queue workflow run already exists for this workspace/requestId " ++
          "with different typed request content."
        existingWorkflowRunId := some existing.workflowRunId
        existingRequestHash := some existing.requestHash
        requestedRequestHash := some prepared.requestHash }
      blocker := none }

/-- The row of a new run. -/
def newWorkflowRun (d : Draws) (start : StartWorkflow) (prepared : PreparedWorkflowSnapshots) :
    AgentQueueWorkflowRunRow :=
  { workflowRunId := d.placeholderId "queue-workflow-run-" 0
    workspaceId := start.workspaceId
    workflowId := start.workflowId
    requestId := start.requestId
    requestHash := prepared.requestHash
    status := QueueWorkflowRunStatus.created.asStr
    phase := start.phase
    currentStep := some start.currentStep
    pauseReason := none
    blockerReason := none
    actorId := start.actorId
    inputsSnapshotJson := prepared.inputsSnapshotJson
    grantSummaryJson := prepared.grantSummaryJson
    variablesJson := prepared.variablesJson
    slotBindingsJson := prepared.slotBindingsJson
    mutationRefsJson := prepared.mutationRefsJson
    idempotencyKeysJson := prepared.idempotencyKeysJson
    actionLogSummaryJson := prepared.actionLogSummaryJson
    version := queueWorkflowInitialVersion
    schemaVersion := queueWorkflowSchemaVersion
    createdAt := d.timestamp 1
    updatedAt := d.timestamp 1
    completedAt := none }

/-- The transaction that stores a new run. -/
def insertWorkflowRun (d : Draws) (start : StartWorkflow)
    (prepared : PreparedWorkflowSnapshots) : Service AgentQueueWorkflowRunRow :=
  withImmediateTransaction mapStorageAgentQueueTaskError do
    let row ← execute fun s => s.insertAgentQueueWorkflowRun (newWorkflowRun d start prepared)
    execute fun s => s.touchWorkspace start.workspaceId (d.timestamp 2)
    pure row

/-- A run is created, or the one of the request id is compared. -/
def startQueueWorkflow (d : Draws) (request : QueueWorkflowStartRequest) :
    Service QueueWorkflowStartResult :=
  match startWorkflow request with
  | .error answer => pure answer
  | .ok start => do
      let workspace ← query fun s => s.getWorkspace start.workspaceId
      match workspace, prepareStart start request with
      | none, _ => pure (startInvalidInput "workspaceId"
          "Workspace was not found for queue.workflow.start.")
      | some _, .error answer => pure answer
      | some _, .ok prepared => do
          let existing ← query fun s =>
            s.getAgentQueueWorkflowRunByRequest start.workspaceId start.requestId
          match existing with
          | some existing => pure (startOfExistingRun start prepared existing)
          | none => do
              let row ← insertWorkflowRun d start prepared
              pure {
                status := .succeeded
                workflowRun := some row
                conflict := none
                blocker := none }

/-! ## Cancel -/

structure QueueWorkflowCancelRequest where
  workspaceId : String
  workflowRunId : String
  actorId : Option String
  reason : Option String

inductive QueueWorkflowCancelStatus where
  | cancelled | alreadyCancelled | alreadyTerminal | notFound | invalidInput
  deriving DecidableEq, Repr

structure QueueWorkflowCancelResult where
  status : QueueWorkflowCancelStatus
  workflowRun : Option AgentQueueWorkflowRunRow
  blocker : Option QueueWorkflowCommandBlocker
  deriving DecidableEq

def cancelInvalidInput (field message : String) : QueueWorkflowCancelResult :=
  { status := .invalidInput
    workflowRun := none
    blocker := some (invalidFieldBlocker field message) }

/-- The ids a request names. -/
structure WorkflowRunRef where
  workspaceId : String
  workflowRunId : String

def cancelRef (request : QueueWorkflowCancelRequest) :
    Except QueueWorkflowCancelResult WorkflowRunRef := do
  let ref : WorkflowRunRef := ⟨Text.trim request.workspaceId, Text.trim request.workflowRunId⟩
  refuseIf (ref.workspaceId == "") (cancelInvalidInput "workspaceId" "workspaceId is required.")
  refuseIf (ref.workflowRunId == "")
    (cancelInvalidInput "workflowRunId" "workflowRunId is required.")
  pure ref

def workflowRunNotFoundBlocker : QueueWorkflowCommandBlocker :=
  workflowBlocker "workflow_run_not_found" "Queue workflow run was not found." none

/-- What the run that was found says against cancelling it; a status without a name counts
as `failed`. -/
def checkCancel (existing : Option AgentQueueWorkflowRunRow) :
    Except QueueWorkflowCancelResult Unit :=
  match existing with
  | none =>
      .error {
        status := .notFound
        workflowRun := none
        blocker := some workflowRunNotFoundBlocker }
  | some existing => do
      let existingStatus := (QueueWorkflowRunStatus.fromStr existing.status).getD .failed
      refuseIf (existingStatus == .cancelled)
        { status := .alreadyCancelled, workflowRun := some existing, blocker := none }
      refuseIf existingStatus.isTerminal {
        status := .alreadyTerminal
        workflowRun := some existing
        blocker := some (workflowBlocker "workflow_run_already_terminal"
          "Completed or failed Queue workflow runs cannot be cancelled." none) }

def cancelUpdate (d : Draws) (request : QueueWorkflowCancelRequest) :
    AgentQueueWorkflowRunStatusUpdate :=
  { status := QueueWorkflowRunStatus.cancelled.asStr
    phase := some workflowPhaseClosed
    currentStep := some workflowStepCancelled
    pauseReason := none
    blockerReason := some ((Text.optionalTrimmed request.reason).getD workflowCancelReason)
    updatedAt := d.timestamp 0
    completedAt := some (d.timestamp 0) }

/-- A row that must be there. -/
def rowOrNoRows {α : Type} (row : Option α) : Sqlite α :=
  match row with
  | some row => pure row
  | none => throw .queryReturnedNoRows

/-- The transaction that cancels a run. -/
def storeCancel (d : Draws) (ref : WorkflowRunRef) (request : QueueWorkflowCancelRequest) :
    Service AgentQueueWorkflowRunRow :=
  withImmediateTransaction mapStorageAgentQueueTaskError do
    let updated ← execute fun s => s.updateAgentQueueWorkflowRunStatus ref.workspaceId
      ref.workflowRunId (cancelUpdate d request)
    let row ← rowOrNoRows updated
    execute fun s => s.touchWorkspace ref.workspaceId (d.timestamp 1)
    pure row

def cancelQueueWorkflowRun (d : Draws) (request : QueueWorkflowCancelRequest) :
    Service QueueWorkflowCancelResult :=
  match cancelRef request with
  | .error answer => pure answer
  | .ok ref => do
      let existing ← query fun s =>
        s.getAgentQueueWorkflowRun ref.workspaceId ref.workflowRunId
      match checkCancel existing with
      | .error answer => pure answer
      | .ok () => do
          let row ← storeCancel d ref request
          pure { status := .cancelled, workflowRun := some row, blocker := none }

end HobitQueue
