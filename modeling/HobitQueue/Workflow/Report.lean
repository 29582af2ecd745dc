import HobitQueue.Workflow.Runs

/-!
# Runner reports

A runner reports the status of a workflow run, what it bound to the slots, and the
actions it took. The slot bindings of a report are merged into the stored ones: a field
that is there already must be the same. The run is read, the report is checked against
it, and one transaction writes the run and its actions.
-/

namespace HobitQueue

open Concurrent StoreProg

structure QueueWorkflowRecordRunnerAction where
  stepId : String
  actionType : String
  idempotencyKey : String
  status : String
  targetRefs : Option Json
  resultRefs : Option Json
  blockerCode : Option String
  blockerMessage : Option String

structure QueueWorkflowRecordRunnerReportRequest where
  workspaceId : String
  workflowRunId : String
  status : String
  phase : Option String
  currentStep : Option String
  pauseReason : Option String
  blockerReason : Option String
  variablesValue : Option Json
  slotBindings : Option Json
  mutationRefs : Option Json
  idempotencyKeys : Option Json
  actionLogSummary : Option Json
  actions : List QueueWorkflowRecordRunnerAction

inductive QueueWorkflowRecordRunnerReportStatus where
  | recorded | conflict | notFound | invalidInput
  deriving DecidableEq, Repr

structure QueueWorkflowRecordRunnerReportResult where
  status : QueueWorkflowRecordRunnerReportStatus
  workflowRun : Option AgentQueueWorkflowRunRow
  actions : List AgentQueueWorkflowActionRow
  blocker : Option QueueWorkflowCommandBlocker
  conflict : Option QueueWorkflowConflict
  deriving DecidableEq

/-! ## Snapshots and actions -/

def boundedReportJson (value : Option Json) (fieldName : String) (maxBytes : ℕ) :
    Except QueueWorkflowCommandBlocker (Option JsonText) :=
  if value.any containsConfirmationToken then
    .error (workflowBlocker "confirmation_token_not_persistable"
      "confirmationToken must not be persisted in Queue workflow runner reports."
      (some fieldName))
  else boundedCanonicalJson value fieldName maxBytes

structure PreparedRunnerReportSnapshots where
  variablesJson : Option JsonText
  slotBindingsJson : Option JsonText
  mutationRefsJson : Option JsonText
  idempotencyKeysJson : Option JsonText
  actionLogSummaryJson : Option JsonText

/-- The reported texts in their bounds. -/
def prepareRunnerReportSnapshots (request : QueueWorkflowRecordRunnerReportRequest) :
    Except QueueWorkflowCommandBlocker PreparedRunnerReportSnapshots := do
  let variablesJson ← boundedReportJson request.variablesValue "variables"
    maxWorkflowVariablesJsonBytes
  let slotBindingsJson ← boundedReportJson request.slotBindings "slotBindings"
    maxWorkflowSlotBindingsJsonBytes
  let mutationRefsJson ← boundedReportJson request.mutationRefs "mutationRefs"
    maxWorkflowMutationRefsJsonBytes
  let idempotencyKeysJson ← boundedReportJson request.idempotencyKeys "idempotencyKeys"
    maxWorkflowIdempotencyKeysJsonBytes
  let actionLogSummaryJson ← boundedReportJson request.actionLogSummary "actionLogSummary"
    maxWorkflowActionLogSummaryJsonBytes
  pure {
    variablesJson := variablesJson
    slotBindingsJson := slotBindingsJson
    mutationRefsJson := mutationRefsJson
    idempotencyKeysJson := idempotencyKeysJson
    actionLogSummaryJson := actionLogSummaryJson }

structure PreparedRunnerReportAction where
  stepId : String
  actionType : String
  idempotencyKey : String
  status : QueueWorkflowActionStatus
  targetRefsJson : Option JsonText
  resultRefsJson : Option JsonText
  blockerCode : Option String
  blockerMessage : Option String

/-- A reported action, trimmed and bounded. -/
def prepareRunnerReportAction (workflowRunId : String)
    (action : QueueWorkflowRecordRunnerAction) :
    Except QueueWorkflowCommandBlocker PreparedRunnerReportAction := do
  let stepId := Text.trim action.stepId
  let actionType := Text.trim action.actionType
  let idempotencyKey := Text.trim action.idempotencyKey
  refuseIf (stepId == "") (workflowBlocker "missing_stepId"
    "Workflow runner action stepId is required." (some "actions.stepId"))
  refuseIf (actionType == "") (workflowBlocker "missing_actionType"
    "Workflow runner action actionType is required." (some "actions.actionType"))
  refuseIf (idempotencyKey == "") (workflowBlocker "missing_idempotencyKey"
    "Workflow runner action idempotencyKey is required." (some "actions.idempotencyKey"))
  refuseIf (!containsText idempotencyKey workflowRunId) (workflowBlocker "invalid_idempotencyKey"
    "Workflow runner action idempotencyKey must include workflowRunId."
    (some "actions.idempotencyKey"))
  match QueueWorkflowActionStatus.fromStr (Text.trim action.status) with
  | none => .error (workflowBlocker "invalid_action_status"
      "Workflow runner action status is not supported." (some "actions.status"))
  | some status => do
      let targetRefsJson ← boundedReportJson action.targetRefs "actions.targetRefs"
        maxWorkflowMutationRefsJsonBytes
      let resultRefsJson ← boundedReportJson action.resultRefs "actions.resultRefs"
        maxWorkflowMutationRefsJsonBytes
      pure {
        stepId := stepId
        actionType := actionType
        idempotencyKey := idempotencyKey
        status := status
        targetRefsJson := targetRefsJson
        resultRefsJson := resultRefsJson
        blockerCode := Text.optionalTrimmed action.blockerCode
        blockerMessage := Text.optionalTrimmed action.blockerMessage }

def prepareRunnerReportActions (workflowRunId : String)
    (actions : List QueueWorkflowRecordRunnerAction) :
    Except QueueWorkflowCommandBlocker (List PreparedRunnerReportAction) :=
  actions.mapM (prepareRunnerReportAction workflowRunId)

def workflowReportActionMatchesPrepared (existing : AgentQueueWorkflowActionRow)
    (prepared : PreparedRunnerReportAction) : Bool :=
  existing.stepId == prepared.stepId && existing.actionType == prepared.actionType &&
    existing.targetRefsJson == prepared.targetRefsJson &&
    existing.resultRefsJson == prepared.resultRefsJson

def terminalActionStatus (status : QueueWorkflowActionStatus) : Bool :=
  status == .completed || status == .blocked || status == .failed || status == .cancelled

/-! ## Slot bindings -/

inductive RunnerReportSlotBindingMergeError where
  | invalid (blocker : QueueWorkflowCommandBlocker)
  | conflict (conflict : QueueWorkflowConflict)

def invalidSlotBindings (code message : String) : RunnerReportSlotBindingMergeError :=
  .invalid (workflowBlocker code message (some "slotBindings"))

def slotBindingMergeConflict (workflowRunId slot field : String)
    (existingValue incomingValue : Json) : QueueWorkflowConflict :=
  { conflictCode := "workflow_slot_binding_conflict"
    conflictMessage := "Queue workflow runner report slotBindings." ++ slot ++ "." ++ field ++
      " conflicts with an existing backend-owned binding field."
    existingWorkflowRunId := some workflowRunId
    existingRequestHash := some existingValue.canonicalString
    requestedRequestHash := some incomingValue.canonicalString }

/-- The fields of a binding with the incoming ones added, and whether one was added. A field
that is stored stays, and conflicts with a different one unless it is `null`. -/
def mergeBindingFields (workflowRunId slot : String) :
    List (String × Json) → List (String × Json) × Bool →
      Except RunnerReportSlotBindingMergeError (List (String × Json) × Bool)
  | [], merged => .ok merged
  | (field, incoming) :: rest, (fields, changed) =>
      if incoming.isNull then mergeBindingFields workflowRunId slot rest (fields, changed)
      else
        match fields.lookup field with
        | some existing =>
            if !existing.isNull && existing.canonicalString != incoming.canonicalString then
              .error (.conflict
                (slotBindingMergeConflict workflowRunId slot field existing incoming))
            else mergeBindingFields workflowRunId slot rest (fields, changed)
        | none => mergeBindingFields workflowRunId slot rest
            (Json.insertMember field incoming fields, true)

/-- The bindings with the incoming ones merged in, slot by slot. -/
def mergeSlotBindings (workflowRunId : String) :
    List (String × Json) → List (String × Json) × Bool →
      Except RunnerReportSlotBindingMergeError (List (String × Json) × Bool)
  | [], merged => .ok merged
  | (slot, incoming) :: rest, (bindings, changed) =>
      match incoming.asObject with
      | none => .error (invalidSlotBindings "invalid_slot_binding"
          "Each Queue workflow runner report slot binding must be an object.")
      | some [] => mergeSlotBindings workflowRunId rest (bindings, changed)
      | some incomingFields =>
          match ((bindings.lookup slot).getD (.obj [])).asObject with
          | none => .error (invalidSlotBindings "invalid_existing_slot_binding" ("Persisted " ++
              "Queue workflow slot binding is not an object and cannot be merged safely."))
          | some existingFields => do
              let (fields, changed) ←
                mergeBindingFields workflowRunId slot incomingFields (existingFields, changed)
              mergeSlotBindings workflowRunId rest
                (Json.insertMember slot (.obj fields) bindings, changed)

/-- The stored bindings a report is merged into. -/
def existingSlotBindings (existingJson : Option JsonText) :
    Except RunnerReportSlotBindingMergeError (List (String × Json)) :=
  match existingJson with
  | none => .ok []
  | some raw =>
      if raw.isBlank (Text.trim · == "") then .ok []
      else
        match raw.parse with
        | none => .error (invalidSlotBindings "invalid_existing_slot_bindings_json"
            "Persisted Queue workflow slotBindings must contain valid JSON for merge.")
        | some .null => .ok []
        | some (.obj members) => .ok members
        | some _ => .error (invalidSlotBindings "invalid_existing_slot_bindings_json"
            ("Persisted Queue workflow slotBindings are not an object and cannot be merged " ++
              "safely."))

/-- The bindings to store; nothing when the report adds none. -/
def mergeRunnerReportSlotBindings (workflowRunId : String)
    (existingJson incomingJson : Option JsonText) :
    Except RunnerReportSlotBindingMergeError (Option JsonText) :=
  match incomingJson with
  | none => .ok none
  | some raw =>
      if raw.isBlank (Text.trim · == "") then .ok none
      else
        match raw.parse with
        | none => .error (invalidSlotBindings "invalid_slot_bindings_json"
            "Queue workflow runner report slotBindings must contain valid JSON.")
        | some .null | some (.obj []) => .ok none
        | some (.obj incoming) => do
            let existing ← existingSlotBindings existingJson
            let (merged, changed) ← mergeSlotBindings workflowRunId incoming (existing, false)
            if !changed then .ok none
            else if maxWorkflowSlotBindingsJsonBytes <
                utf8Length (Json.obj merged).canonicalString then
              .error (invalidSlotBindings "workflow_json_too_large" ("Queue workflow merged " ++
                "slotBindings JSON exceeds the configured byte limit."))
            else .ok (some (.value (.obj merged)))
        | some _ => .error (invalidSlotBindings "invalid_slot_bindings_json" ("Queue workflow " ++
            "runner report slotBindings must be an object keyed by explicit slot."))

/-! ## The report -/

def recordInvalidInput (field message : String) : QueueWorkflowRecordRunnerReportResult :=
  { status := .invalidInput
    workflowRun := none
    actions := []
    blocker := some (invalidFieldBlocker field message)
    conflict := none }

/-- A report refused for its content. -/
def recordRefused (existingRun : AgentQueueWorkflowRunRow)
    (blocker : QueueWorkflowCommandBlocker) : QueueWorkflowRecordRunnerReportResult :=
  { status := .invalidInput
    workflowRun := some existingRun
    actions := []
    blocker := some blocker
    conflict := none }

def recordConflict (existingRun : AgentQueueWorkflowRunRow)
    (actions : List AgentQueueWorkflowActionRow) (conflict : QueueWorkflowConflict) :
    QueueWorkflowRecordRunnerReportResult :=
  { status := .conflict
    workflowRun := some existingRun
    actions := actions
    blocker := none
    conflict := some conflict }

def recordNotFound : QueueWorkflowRecordRunnerReportResult :=
  { status := .notFound
    workflowRun := none
    actions := []
    blocker := some workflowRunNotFoundBlocker
    conflict := none }

/-- The trimmed head of a report. -/
structure RunnerReportHead extends WorkflowRunRef where
  status : QueueWorkflowRunStatus
  phase : Option String
  currentStep : Option String
  pauseReason : Option String
  blockerReason : Option String

/-- The checks before the store is read. -/
def runnerReportHead (request : QueueWorkflowRecordRunnerReportRequest) :
    Except QueueWorkflowRecordRunnerReportResult RunnerReportHead := do
  let workspaceId := Text.trim request.workspaceId
  let workflowRunId := Text.trim request.workflowRunId
  let phase := Text.optionalTrimmed request.phase
  refuseIf (workspaceId == "") (recordInvalidInput "workspaceId" "workspaceId is required.")
  refuseIf (workflowRunId == "")
    (recordInvalidInput "workflowRunId" "workflowRunId is required.")
  match QueueWorkflowRunStatus.fromStr (Text.trim request.status) with
  | none => .error (recordInvalidInput "status"
      "Queue workflow runner report status is not supported.")
  | some status => do
      refuseIf (phase.any (!isSupportedPhase ·))
        (recordInvalidInput "phase" "Queue workflow runner report phase is not supported.")
      pure {
        workspaceId := workspaceId
        workflowRunId := workflowRunId
        status := status
        phase := phase
        currentStep := Text.optionalTrimmed request.currentStep
        pauseReason := Text.optionalTrimmed request.pauseReason
        blockerReason := Text.optionalTrimmed request.blockerReason }

/-- What a report writes. -/
structure PreparedRunnerReport where
  snapshots : PreparedRunnerReportSnapshots
  actions : List PreparedRunnerReportAction
  mergedSlotBindingsJson : Option JsonText

/-- The checks on the content of a report, against the run that was found. -/
def prepareRunnerReport (existingRun : AgentQueueWorkflowRunRow) (workflowRunId : String)
    (request : QueueWorkflowRecordRunnerReportRequest) :
    Except QueueWorkflowRecordRunnerReportResult PreparedRunnerReport := do
  let snapshots ← (prepareRunnerReportSnapshots request).mapError (recordRefused existingRun)
  let actions ← (prepareRunnerReportActions workflowRunId request.actions).mapError
    (recordRefused existingRun)
  match mergeRunnerReportSlotBindings workflowRunId existingRun.slotBindingsJson
      snapshots.slotBindingsJson with
  | .error (.invalid blocker) => .error (recordRefused existingRun blocker)
  | .error (.conflict conflict) => .error (recordConflict existingRun [] conflict)
  | .ok merged =>
      .ok { snapshots := snapshots, actions := actions, mergedSlotBindingsJson := merged }

/-- The first action of a report that is stored with other refs under its key. -/
def findActionConflict (workflowRunId : String) :
    List PreparedRunnerReportAction →
      Service (Option (AgentQueueWorkflowActionRow × PreparedRunnerReportAction))
  | [] => pure none
  | action :: rest => do
      let existing ← query fun s =>
        s.getAgentQueueWorkflowActionByIdempotencyKey workflowRunId action.idempotencyKey
      match existing with
      | none => findActionConflict workflowRunId rest
      | some existing =>
          if workflowReportActionMatchesPrepared existing action then
            findActionConflict workflowRunId rest
          else pure (some (existing, action))

def actionConflict (existing : AgentQueueWorkflowActionRow)
    (action : PreparedRunnerReportAction) : QueueWorkflowConflict :=
  { conflictCode := "workflow_action_idempotency_conflict"
    conflictMessage := "A Queue workflow action already exists for this idempotency key with " ++
      "different explicit refs."
    existingWorkflowRunId := some existing.workflowRunId
    existingRequestHash := some existing.idempotencyKey
    requestedRequestHash := some action.idempotencyKey }

/-- The run ends with a report of a terminal status, and only then. -/
def runnerReportUpdate (d : Draws) (head : RunnerReportHead) (prepared : PreparedRunnerReport) :
    AgentQueueWorkflowRunReportUpdate :=
  { status := head.status.asStr
    phase := head.phase
    currentStep := head.currentStep
    pauseReason := head.pauseReason
    blockerReason := head.blockerReason
    variablesJson := prepared.snapshots.variablesJson
    slotBindingsJson := prepared.mergedSlotBindingsJson
    mutationRefsJson := prepared.snapshots.mutationRefsJson
    idempotencyKeysJson := prepared.snapshots.idempotencyKeysJson
    actionLogSummaryJson := prepared.snapshots.actionLogSummaryJson
    updatedAt := d.timestamp 0
    completedAt := if head.status.isTerminal then some (d.timestamp 0) else none }

/-- The row of a reported action. -/
def reportedActionRow (d : Draws) (ref : WorkflowRunRef) (place : ℕ)
    (action : PreparedRunnerReportAction) : AgentQueueWorkflowActionRow :=
  { actionId := d.placeholderId "queue-workflow-action-" place
    workflowRunId := ref.workflowRunId
    workspaceId := ref.workspaceId
    stepId := action.stepId
    actionType := action.actionType
    idempotencyKey := action.idempotencyKey
    status := action.status.asStr
    targetRefsJson := action.targetRefsJson
    resultRefsJson := action.resultRefsJson
    blockerCode := action.blockerCode
    blockerMessage := action.blockerMessage
    attemptCount := 1
    startedAt := some (d.timestamp 0)
    completedAt := if terminalActionStatus action.status then some (d.timestamp 0) else none
    createdAt := d.timestamp 0
    updatedAt := d.timestamp 0 }

/-- The reported actions, each with an id of its own. -/
def insertReportedActions (d : Draws) (ref : WorkflowRunRef) (place : ℕ) :
    List PreparedRunnerReportAction → Sqlite Unit
  | [] => pure ()
  | action :: rest => do
      let _ ← execute fun s =>
        s.insertAgentQueueWorkflowAction (reportedActionRow d ref place action)
      insertReportedActions d ref (place + 1) rest

/-- The transaction that writes a report. -/
def storeRunnerReport (d : Draws) (head : RunnerReportHead) (prepared : PreparedRunnerReport) :
    Service AgentQueueWorkflowRunRow :=
  withImmediateTransaction mapStorageAgentQueueTaskError do
    let updated ← execute fun s => s.updateAgentQueueWorkflowRunReport head.workspaceId
      head.workflowRunId (runnerReportUpdate d head prepared)
    let row ← rowOrNoRows updated
    insertReportedActions d head.toWorkflowRunRef 1 prepared.actions
    execute fun s => s.touchWorkspace head.workspaceId
      (d.timestamp (1 + prepared.actions.length))
    pure row

/-- The report of a run that was found. -/
def recordReportOfRun (d : Draws) (head : RunnerReportHead)
    (request : QueueWorkflowRecordRunnerReportRequest) (existingRun : AgentQueueWorkflowRunRow) :
    Service QueueWorkflowRecordRunnerReportResult :=
  match prepareRunnerReport existingRun head.workflowRunId request with
  | .error answer => pure answer
  | .ok prepared => do
      let conflict ← findActionConflict head.workflowRunId prepared.actions
      match conflict with
      | some (existing, action) =>
          pure (recordConflict existingRun [existing] (actionConflict existing action))
      | none => do
          let updatedRun ← storeRunnerReport d head prepared
          let actions ← query fun s =>
            s.listAgentQueueWorkflowActions head.workspaceId head.workflowRunId
          pure {
            status := .recorded
            workflowRun := some updatedRun
            actions := actions
            blocker := none
            conflict := none }

/-- The command that records a report of the runner. -/
def recordQueueWorkflowRunnerReport (d : Draws)
    (request : QueueWorkflowRecordRunnerReportRequest) :
    Service QueueWorkflowRecordRunnerReportResult :=
  match runnerReportHead request with
  | .error answer => pure answer
  | .ok head => do
      let existing ← query fun s =>
        s.getAgentQueueWorkflowRun head.workspaceId head.workflowRunId
      match existing with
      | none => pure recordNotFound
      | some existingRun => recordReportOfRun d head request existingRun

end HobitQueue
