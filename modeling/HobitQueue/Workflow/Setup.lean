import HobitQueue.Workflow.Materialization

/-!
# Run settings of a task slot

A slot that was materialized gets the settings its task is run with. They are written into
the draft task once, and into the binding of the slot with every call; other settings for
the slot are a conflict.
-/

namespace HobitQueue

open Concurrent StoreProg

def updateRunSettingsActionType : String := "update_run_settings"
def updateRunSettingsStepId : String := "update_run_settings"

structure QueueWorkflowExecutionTarget where
  kind : String
  providerId : String
  queueOwnerWidgetInstanceId : Option String
  executorWidgetId : Option String

structure QueueWorkflowRunSettings where
  executionWorkspace : String
  codexExecutable : String
  sandbox : String
  approvalPolicy : String
  executionPolicy : String
  executionTarget : Option QueueWorkflowExecutionTarget
  executorWidgetId : String

structure QueueWorkflowApplyRunSettingsRequest where
  workspaceId : String
  workflowRunId : String
  slot : String
  taskId : Option String
  runSettings : QueueWorkflowRunSettings
  settingsHash : Option String
  actorId : Option String
  actionIdempotencyKey : Option String

inductive QueueWorkflowApplyRunSettingsStatus where
  | applied | reused | conflict | blocked | notFound | invalidInput
  deriving DecidableEq, Repr

structure QueueWorkflowRunSettingsBindingSummary where
  slot : String
  taskId : String
  settingsHash : String
  executionTargetKind : String
  providerId : String
  queueOwnerWidgetInstanceId : Option String
  executorWidgetId : String
  executionTargetHash : String
  updateRunSettingsActionId : Option String
  updateRunSettingsActionIdempotencyKey : String
  deriving DecidableEq

structure QueueWorkflowApplyRunSettingsResult where
  status : QueueWorkflowApplyRunSettingsStatus
  workflowRun : Option AgentQueueWorkflowRunRow
  task : Option AgentQueueTaskSummary
  action : Option AgentQueueWorkflowActionRow
  binding : Option QueueWorkflowRunSettingsBindingSummary
  blocker : Option QueueWorkflowCommandBlocker
  conflict : Option QueueWorkflowConflict
  deriving DecidableEq

/-! ## Settings -/

/-- A target: a Queue with an optional owner, or the executor that is named. -/
inductive CanonicalQueueWorkflowExecutionTarget where
  | queueLocal (providerId : String) (queueOwnerWidgetInstanceId : Option String)
  | agentExecutor (providerId executorWidgetId : String)
  deriving DecidableEq

namespace CanonicalQueueWorkflowExecutionTarget

def kind : CanonicalQueueWorkflowExecutionTarget → String
  | queueLocal _ _ => "queue_local"
  | agentExecutor _ _ => "agent_executor"

def providerId : CanonicalQueueWorkflowExecutionTarget → String
  | queueLocal providerId _ => providerId
  | agentExecutor providerId _ => providerId

def queueOwnerWidgetInstanceId : CanonicalQueueWorkflowExecutionTarget → Option String
  | queueLocal _ owner => owner
  | agentExecutor _ _ => none

/-- The widget that owns the run; a Queue without an owner has none. -/
def directWorkOwnerWidgetId : CanonicalQueueWorkflowExecutionTarget → String
  | queueLocal _ owner => owner.getD ""
  | agentExecutor _ executorWidgetId => executorWidgetId

def targetExecutorWidgetIdForHash : CanonicalQueueWorkflowExecutionTarget → Option String
  | queueLocal _ _ => none
  | agentExecutor _ executorWidgetId => some executorWidgetId

end CanonicalQueueWorkflowExecutionTarget

structure CanonicalQueueWorkflowRunSettings where
  executionWorkspace : String
  codexExecutable : String
  sandbox : String
  approvalPolicy : String
  executionPolicy : String
  executionTarget : CanonicalQueueWorkflowExecutionTarget
  deriving DecidableEq

/-- The executor of the settings is the owner of their target. -/
def CanonicalQueueWorkflowRunSettings.executorWidgetId
    (settings : CanonicalQueueWorkflowRunSettings) : String :=
  settings.executionTarget.directWorkOwnerWidgetId

/-- `required_owned` of the setup commands. -/
def requiredSetupField (value field : String) : Except QueueWorkflowCommandBlocker String :=
  if Text.trim value = "" then
    .error (invalidFieldBlocker field
      "Queue workflow setup request is missing a required field.")
  else .ok (Text.trim value)

def normalizeSetupSlot (slot field : String) : Except QueueWorkflowCommandBlocker String := do
  let slot ← requiredSetupField slot field
  refuseIf (maxWorkflowTaskSlotChars < slot.length : Bool) (workflowBlocker
    "workflow_task_slot_too_large"
    "Queue workflow task slot exceeds the configured character limit." (some field))
  refuseIf (!validSlot slot) (workflowBlocker "invalid_task_slot" ("Queue workflow task slot " ++
    "must start with a letter and contain only letters, numbers, underscore, or hyphen.")
    (some field))
  pure slot

def normalizeWorkflowTarget (target : QueueWorkflowExecutionTarget) :
    Except QueueWorkflowCommandBlocker CanonicalQueueWorkflowExecutionTarget := do
  let kind ← requiredSetupField target.kind "runSettings.executionTarget.kind"
  let providerId ← requiredSetupField target.providerId "runSettings.executionTarget.providerId"
  refuseIf (providerId != "codex") (workflowBlocker "unsupported_execution_target_provider"
    "Queue workflow setup only accepts the codex provider for executionTarget."
    (some "runSettings.executionTarget.providerId"))
  match kind with
  | "queue_local" => do
      refuseIf (Text.optionalTrimmed target.executorWidgetId).isSome
        (workflowBlocker "invalid_execution_target"
          "Queue-local workflow executionTarget must not include executorWidgetId."
          (some "runSettings.executionTarget.executorWidgetId"))
      pure (.queueLocal providerId (Text.optionalTrimmed target.queueOwnerWidgetInstanceId))
  | "agent_executor" =>
      match Text.optionalTrimmed target.executorWidgetId with
      | none => .error (workflowBlocker "missing_execution_target_executor"
          "Legacy agent_executor workflow executionTarget requires executorWidgetId."
          (some "runSettings.executionTarget.executorWidgetId"))
      | some executorWidgetId => do
          refuseIf (Text.optionalTrimmed target.queueOwnerWidgetInstanceId).isSome
            (workflowBlocker "invalid_execution_target" ("Legacy agent_executor workflow " ++
              "executionTarget must not include queueOwnerWidgetInstanceId.")
              (some "runSettings.executionTarget.queueOwnerWidgetInstanceId"))
          pure (.agentExecutor providerId executorWidgetId)
  | _ => .error (workflowBlocker "unsupported_execution_target_kind" ("Queue workflow setup " ++
      "only accepts queue_local or agent_executor executionTarget.kind.")
      (some "runSettings.executionTarget.kind"))

/-- `normalize_execution_target`: settings without a target name an executor. -/
def normalizeWorkflowExecutionTarget (target : Option QueueWorkflowExecutionTarget)
    (legacyExecutorWidgetId : String) :
    Except QueueWorkflowCommandBlocker CanonicalQueueWorkflowExecutionTarget :=
  match target with
  | some target => normalizeWorkflowTarget target
  | none => do
      let executorWidgetId ←
        requiredSetupField legacyExecutorWidgetId "runSettings.executorWidgetId"
      pure (.agentExecutor "codex" executorWidgetId)

/-- The run settings, each field there and of a known value. -/
def normalizeWorkflowRunSettings (settings : QueueWorkflowRunSettings) :
    Except QueueWorkflowCommandBlocker CanonicalQueueWorkflowRunSettings := do
  let executionWorkspace ←
    requiredSetupField settings.executionWorkspace "runSettings.executionWorkspace"
  let codexExecutable ←
    requiredSetupField settings.codexExecutable "runSettings.codexExecutable"
  let sandbox ← requiredSetupField settings.sandbox "runSettings.sandbox"
  refuseIf (sandbox ∉ ["read_only", "workspace_write", "danger_full_access"] : Bool)
    (workflowBlocker "unsupported_task_sandbox"
      "Queue workflow run settings include an unsupported sandbox value."
      (some "runSettings.sandbox"))
  let approvalPolicy ← requiredSetupField settings.approvalPolicy "runSettings.approvalPolicy"
  refuseIf (approvalPolicy ∉ ["never", "on_request", "untrusted"] : Bool)
    (workflowBlocker "unsupported_task_approval_policy"
      "Queue workflow run settings include an unsupported approvalPolicy value."
      (some "runSettings.approvalPolicy"))
  let executionPolicy ←
    requiredSetupField settings.executionPolicy "runSettings.executionPolicy"
  refuseIf (executionPolicy != "manual")
    (workflowBlocker "unsupported_workflow_execution_policy"
      "Queue workflow setup only accepts manual executionPolicy in this phase."
      (some "runSettings.executionPolicy"))
  let executionTarget ←
    normalizeWorkflowExecutionTarget settings.executionTarget settings.executorWidgetId
  pure {
    executionWorkspace := executionWorkspace
    codexExecutable := codexExecutable
    sandbox := sandbox
    approvalPolicy := approvalPolicy
    executionPolicy := executionPolicy
    executionTarget := executionTarget }

def workflowRunSettingsHash (settings : CanonicalQueueWorkflowRunSettings) : String :=
  QueueWorkerStartSettingsSnapshot.stableHash {
    executionWorkspace := settings.executionWorkspace
    codexExecutable := settings.codexExecutable
    sandbox := settings.sandbox
    approvalPolicy := settings.approvalPolicy
    executionPolicy := settings.executionPolicy
    executionTargetKind := settings.executionTarget.kind
    providerId := settings.executionTarget.providerId
    queueOwnerWidgetInstanceId := settings.executionTarget.queueOwnerWidgetInstanceId
    executorWidgetId := settings.executionTarget.targetExecutorWidgetIdForHash.getD "" }

def workflowExecutionTargetHash (target : CanonicalQueueWorkflowExecutionTarget) : String :=
  QueueExecutionTargetSnapshot.stableHash {
    executionTargetKind := target.kind
    providerId := target.providerId
    queueOwnerWidgetInstanceId := target.queueOwnerWidgetInstanceId
    executorWidgetId := target.targetExecutorWidgetIdForHash }

/-! ## The request -/

structure NormalizedApplyRunSettingsRequest extends WorkflowRunRef where
  slot : String
  taskId : Option String
  runSettings : CanonicalQueueWorkflowRunSettings
  settingsHash : String
  actorId : Option String
  actionIdempotencyKey : String

/-- The request to apply run settings, checked. -/
def normalizeApplyRunSettingsRequest (request : QueueWorkflowApplyRunSettingsRequest) :
    Except QueueWorkflowCommandBlocker NormalizedApplyRunSettingsRequest := do
  let workspaceId ← requiredSetupField request.workspaceId "workspaceId"
  let workflowRunId ← requiredSetupField request.workflowRunId "workflowRunId"
  let slot ← normalizeSetupSlot request.slot "slot"
  let runSettings ← normalizeWorkflowRunSettings request.runSettings
  let settingsHash := workflowRunSettingsHash runSettings
  refuseIf ((Text.optionalTrimmed request.settingsHash).any (· != settingsHash))
    (workflowBlocker "settings_hash_mismatch"
      "Provided settingsHash does not match canonical typed runSettings." (some "settingsHash"))
  let actionIdempotencyKey := workflowRunId ++ ":" ++ updateRunSettingsActionType ++ ":" ++
    slot ++ ":" ++ settingsHash
  refuseIf ((Text.optionalTrimmed request.actionIdempotencyKey).any (· != actionIdempotencyKey))
    (workflowBlocker "invalid_action_idempotency_key" ("Queue workflow run settings " ++
      "idempotency key must be workflowRunId:update_run_settings:slot:settingsHash.")
      (some "actionIdempotencyKey"))
  pure {
    workspaceId := workspaceId
    workflowRunId := workflowRunId
    slot := slot
    taskId := Text.optionalTrimmed request.taskId
    runSettings := runSettings
    settingsHash := settingsHash
    actorId := Text.optionalTrimmed request.actorId
    actionIdempotencyKey := actionIdempotencyKey }

/-! ## Answers -/

def applyInvalidInput (run : Option AgentQueueWorkflowRunRow)
    (task : Option AgentQueueTaskSummary) (action : Option AgentQueueWorkflowActionRow)
    (blocker : QueueWorkflowCommandBlocker) : QueueWorkflowApplyRunSettingsResult :=
  { status := .invalidInput
    workflowRun := run
    task := task
    action := action
    binding := none
    blocker := some blocker
    conflict := none }

def applyNotFound : QueueWorkflowApplyRunSettingsResult :=
  { status := .notFound
    workflowRun := none
    task := none
    action := none
    binding := none
    blocker := some (workflowBlocker "workflow_run_not_found"
      "Queue workflow run was not found for run settings setup." (some "workflowRunId"))
    conflict := none }

def applyBlocked (run : AgentQueueWorkflowRunRow) (task : Option AgentQueueTaskSummary)
    (action : Option AgentQueueWorkflowActionRow) (blocker : QueueWorkflowCommandBlocker) :
    QueueWorkflowApplyRunSettingsResult :=
  { status := .blocked
    workflowRun := some run
    task := task
    action := action
    binding := none
    blocker := some blocker
    conflict := none }

def applyConflict (run : AgentQueueWorkflowRunRow)
    (action : Option AgentQueueWorkflowActionRow) (conflict : QueueWorkflowConflict) :
    QueueWorkflowApplyRunSettingsResult :=
  { status := .conflict
    workflowRun := some run
    task := none
    action := action
    binding := none
    blocker := none
    conflict := some conflict }

def settingsConflict (request : NormalizedApplyRunSettingsRequest) (code message : String)
    (existingHash : Option String) : QueueWorkflowConflict :=
  { conflictCode := code
    conflictMessage := message
    existingWorkflowRunId := some request.workflowRunId
    existingRequestHash := existingHash
    requestedRequestHash := some request.settingsHash }

/-! ## Checks against the store -/

/-- The first action of a type that names the slot with another hash. -/
def SqliteStore.sameSlotActionConflict (s : SqliteStore) (ref : WorkflowRunRef)
    (actionType slot hashField expectedHash conflictCode conflictMessage : String) :
    Option QueueWorkflowConflict :=
  ((s.listAgentQueueWorkflowActions ref.workspaceId ref.workflowRunId).find? fun action =>
    action.actionType == actionType &&
      ((action.targetRefsJson.bind JsonText.parse).filter isObject).any fun targetRefs =>
        rawStringField targetRefs "slot" == some slot &&
          (rawStringField targetRefs hashField).any (· != expectedHash)).map fun action =>
    { conflictCode := conflictCode
      conflictMessage := conflictMessage
      existingWorkflowRunId := some ref.workflowRunId
      existingRequestHash := action.targetRefsJson.map JsonText.text
      requestedRequestHash := some expectedHash }

def optionalStringJson (value : Option String) : Json := (value.map Json.str).getD .null

def runSettingsTargetRefsJson (request : NormalizedApplyRunSettingsRequest) (taskId : String) :
    Json :=
  let target := request.runSettings.executionTarget
  .obj [("executionTargetHash", .str (workflowExecutionTargetHash target)),
    ("executionTargetKind", .str target.kind),
    ("providerId", .str target.providerId),
    ("queueOwnerWidgetInstanceId", optionalStringJson target.queueOwnerWidgetInstanceId),
    ("settingsHash", .str request.settingsHash),
    ("slot", .str request.slot),
    ("taskId", .str taskId),
    ("workflowRunId", .str request.workflowRunId)]

def runSettingsResultRefsJson (request : NormalizedApplyRunSettingsRequest) (taskId : String) :
    Json :=
  let target := request.runSettings.executionTarget
  .obj [("executionTargetHash", .str (workflowExecutionTargetHash target)),
    ("executionTargetKind", .str target.kind),
    ("executorWidgetId", .str request.runSettings.executorWidgetId),
    ("providerId", .str target.providerId),
    ("queueOwnerWidgetInstanceId", optionalStringJson target.queueOwnerWidgetInstanceId),
    ("result", .str "applied"),
    ("settingsHash", .str request.settingsHash),
    ("taskId", .str taskId)]

def workflowActionTargetMatches (action : AgentQueueWorkflowActionRow) (ref : WorkflowRunRef)
    (stepId actionType : String) (targetRefs : Json) : Bool :=
  action.workspaceId == ref.workspaceId && action.workflowRunId == ref.workflowRunId &&
    action.stepId == stepId && action.actionType == actionType &&
    action.targetRefsJson == some (.value targetRefs)

/-- `workflow_action_matches`: the result refs are the same too. -/
def workflowActionMatches (action : AgentQueueWorkflowActionRow) (ref : WorkflowRunRef)
    (stepId actionType : String) (targetRefs resultRefs : Json) : Bool :=
  workflowActionTargetMatches action ref stepId actionType targetRefs &&
    action.resultRefsJson == some (.value resultRefs)

def checkExistingSettingsAction (request : NormalizedApplyRunSettingsRequest)
    (run : AgentQueueWorkflowRunRow) (targetRefs resultRefs : Json)
    (existing : Option AgentQueueWorkflowActionRow) :
    Except QueueWorkflowApplyRunSettingsResult Unit :=
  match existing with
  | none => .ok ()
  | some action => do
      refuseIf (!workflowActionMatches action request.toWorkflowRunRef updateRunSettingsStepId
          updateRunSettingsActionType targetRefs resultRefs)
        (applyConflict run (some action) (settingsConflict request
          "update_run_settings_action_ref_conflict" ("A Queue workflow update_run_settings " ++
            "action already exists for this idempotency key with different typed refs.") none))
      refuseIf (action.status != QueueWorkflowActionStatus.completed.asStr)
        (applyBlocked run none (some action) (workflowBlocker
          "update_run_settings_action_not_completed" ("Existing Queue workflow " ++
            "update_run_settings action is not completed and will not be retried blindly.") none))

/-- The columns of a task that differ from the settings. -/
def durableSettingsMismatch (task : AgentQueueTaskRow)
    (settings : CanonicalQueueWorkflowRunSettings) : Option QueueWorkflowCommandBlocker :=
  let columns := [
    ("runSettings.executionWorkspace", task.executionWorkspace, settings.executionWorkspace),
    ("runSettings.codexExecutable", task.codexExecutable, settings.codexExecutable),
    ("runSettings.sandbox", task.sandbox, settings.sandbox),
    ("runSettings.approvalPolicy", task.approvalPolicy, settings.approvalPolicy)]
  match columns.find? fun (_, durable, expected) => durable != some expected with
  | some (field, _, _) => some (workflowBlocker "settings_durable_mismatch"
      "Durable task run settings no longer match the workflow settingsHash." (some field))
  | none =>
      if task.executionPolicy ≠ settings.executionPolicy then
        some (workflowBlocker "settings_durable_mismatch"
          "Durable task executionPolicy no longer matches the workflow settingsHash."
          (some "runSettings.executionPolicy"))
      else if task.assignedExecutorWidgetId.getD "" ≠ settings.executorWidgetId then
        some (workflowBlocker "executor_widget_mismatch"
          "Durable task executor assignment no longer matches the workflow settingsHash."
          (some "runSettings.executorWidgetId"))
      else none

/-- A draft task may be configured when what it has already is the same. -/
def validateTaskConfigurableForRunSettings (task : AgentQueueTaskRow)
    (settings : CanonicalQueueWorkflowRunSettings) : Option QueueWorkflowCommandBlocker :=
  let columns := [
    ("runSettings.executionWorkspace", "executionWorkspace", task.executionWorkspace,
      settings.executionWorkspace),
    ("runSettings.codexExecutable", "codexExecutable", task.codexExecutable,
      settings.codexExecutable),
    ("runSettings.sandbox", "sandbox", task.sandbox, settings.sandbox),
    ("runSettings.approvalPolicy", "approvalPolicy", task.approvalPolicy,
      settings.approvalPolicy)]
  let differs := fun (label : String) =>
    "Durable task " ++ label ++ " already differs from workflow run settings."
  if task.status ≠ "draft" then
    if (durableSettingsMismatch task settings).isNone then none
    else some (workflowBlocker "task_not_configurable" ("Workflow run settings can only " ++
      "configure draft tasks unless the same settings are already durable.")
      (some "task.status"))
  else
    match columns.find? fun (_, _, durable, expected) => durable.any (· != expected) with
    | some (field, label, _, _) =>
        some (workflowBlocker "run_settings_conflict" (differs label) (some field))
    | none =>
        if task.executionPolicy ≠ settings.executionPolicy then
          some (workflowBlocker "run_settings_conflict" (differs "executionPolicy")
            (some "runSettings.executionPolicy"))
        else if task.assignedExecutorWidgetId.any (· != settings.executorWidgetId) then
          some (workflowBlocker "executor_assignment_conflict" (differs "executor assignment")
            (some "runSettings.executorWidgetId"))
        else none

/-- What a request comes to before it writes. -/
structure RunSettingsPlan where
  run : AgentQueueWorkflowRunRow
  slotBindings : List (String × Json)
  binding : Json
  taskId : String
  task : AgentQueueTaskRow
  existingAction : Option AgentQueueWorkflowActionRow

/-- What the binding of the slot says against the request; else the task it names. -/
def checkSettingsBinding (request : NormalizedApplyRunSettingsRequest)
    (run : AgentQueueWorkflowRunRow) (slotBindings : List (String × Json)) :
    Except QueueWorkflowApplyRunSettingsResult (Json × String) :=
  match slotBindings.lookup request.slot with
  | none => .error (applyBlocked run none none (workflowBlocker "slot_binding_missing"
      "Queue workflow slot must be materialized before run settings are applied."
      (some "slot")))
  | some binding =>
      match jsonStringField binding "taskId" with
      | none => .error (applyBlocked run none none (workflowBlocker
          "slot_binding_missing_task_id" "Queue workflow slot binding is missing taskId."
          (some "slotBindings.taskId")))
      | some taskId => do
          refuseIf (request.taskId.any (· != taskId)) (applyBlocked run none none
            (workflowBlocker "task_id_mismatch"
              "Provided taskId does not match the materialized workflow slot binding."
              (some "taskId")))
          let existingHash := jsonStringField binding "settingsHash"
          refuseIf (existingHash.any (· != request.settingsHash)) (applyConflict run none
            (settingsConflict request "slot_settings_hash_conflict"
              "Queue workflow slot already has different run settingsHash." existingHash))
          pure (binding, taskId)

/-- What a request comes to in a store, before it writes. -/
def SqliteStore.planRunSettings (s : SqliteStore) (request : NormalizedApplyRunSettingsRequest) :
    Except QueueWorkflowApplyRunSettingsResult RunSettingsPlan :=
  match s.getAgentQueueWorkflowRun request.workspaceId request.workflowRunId with
  | none => .error applyNotFound
  | some run => do
      refuseIf (terminalWorkflowStatus run.status) (applyBlocked run none none
        (workflowBlocker "workflow_run_terminal" ("Queue workflow run settings cannot be " ++
          "applied after the workflow is terminal.") none))
      let slotBindings ← (materializedSlotBindings run.slotBindingsJson).mapError
        (applyInvalidInput (some run) none none)
      let (binding, taskId) ← checkSettingsBinding request run slotBindings
      match s.sameSlotActionConflict request.toWorkflowRunRef updateRunSettingsActionType
          request.slot "settingsHash" request.settingsHash
          "update_run_settings_action_ref_conflict" ("A Queue workflow update_run_settings " ++
            "action already exists for this slot with different typed refs.") with
      | some conflict => .error (applyConflict run none conflict)
      | none => do
          let existingAction := s.getAgentQueueWorkflowActionByIdempotencyKey
            request.workflowRunId request.actionIdempotencyKey
          checkExistingSettingsAction request run (runSettingsTargetRefsJson request taskId)
            (runSettingsResultRefsJson request taskId) existingAction
          match s.getAgentQueueTask request.workspaceId taskId with
          | none => .error (applyBlocked run none none (workflowBlocker "bound_task_missing"
              "Materialized Queue task was not found in the workflow workspace."
              (some "taskId")))
          | some task =>
              match validateTaskConfigurableForRunSettings task request.runSettings with
              | some blocker =>
                  .error (applyBlocked run (some (agentQueueTaskSummary task)) none blocker)
              | none => .ok {
                  run := run
                  slotBindings := slotBindings
                  binding := binding
                  taskId := taskId
                  task := task
                  existingAction := existingAction }

/-! ## The command -/

/-- The owner of a target must be a widget of its kind in the workspace. -/
def validateWorkflowExecutionTargetOwner (workspaceId : String) :
    CanonicalQueueWorkflowExecutionTarget → Sqlite Unit
  | .queueLocal _ none => pure ()
  | .queueLocal _ (some owner) => do
      let widget ← query fun s => s.getWidgetInstance owner
      match widget with
      | none => throw (storageInvalidInput ("queue owner widget not found: " ++ owner))
      | some widget => do
          failIf (widget.workspaceId != workspaceId) (storageInvalidInput
            ("queue owner widget does not belong to workspace: " ++ owner))
          failIf (widget.definitionId != agentQueueWidgetDefinitionId) (storageInvalidInput
            ("queue-local execution target is not an Agent Queue widget: " ++ owner))
  | .agentExecutor _ executorWidgetId => do
      let _ ← loadAgentExecutorWidget workspaceId executorWidgetId
      pure ()

def runSettingsTaskUpdate (d : Draws) (task : AgentQueueTaskRow)
    (settings : CanonicalQueueWorkflowRunSettings) : AgentQueueTaskUpdate :=
  { title := task.title
    description := task.description
    prompt := task.prompt
    status := task.status
    priority := task.priority
    dependsOn := some task.dependsOn
    executionPolicy := some settings.executionPolicy
    executionWorkspace := some settings.executionWorkspace
    codexExecutable := some settings.codexExecutable
    sandbox := some settings.sandbox
    approvalPolicy := some settings.approvalPolicy
    contextJson := none
    updatedAt := d.timestamp 1 }

def runSettingsActionRow (d : Draws) (request : NormalizedApplyRunSettingsRequest)
    (taskId : String) : AgentQueueWorkflowActionRow :=
  { actionId := d.placeholderId "queue-workflow-action-" 0
    workflowRunId := request.workflowRunId
    workspaceId := request.workspaceId
    stepId := updateRunSettingsStepId
    actionType := updateRunSettingsActionType
    idempotencyKey := request.actionIdempotencyKey
    status := QueueWorkflowActionStatus.completed.asStr
    targetRefsJson := some (.value (runSettingsTargetRefsJson request taskId))
    resultRefsJson := some (.value (runSettingsResultRefsJson request taskId))
    blockerCode := none
    blockerMessage := none
    attemptCount := 1
    startedAt := some (d.timestamp 1)
    completedAt := some (d.timestamp 1)
    createdAt := d.timestamp 1
    updatedAt := d.timestamp 1 }

/-- The task with the settings and its executor. -/
def configuredTask (d : Draws) (request : NormalizedApplyRunSettingsRequest)
    (plan : RunSettingsPlan) : Sqlite AgentQueueTaskRow := do
  let updated ← execute fun s => s.updateAgentQueueTask request.workspaceId plan.taskId
    (runSettingsTaskUpdate d plan.task request.runSettings)
  let task ← rowOrNoRows updated
  let executorWidgetId := request.runSettings.executorWidgetId
  if executorWidgetId = "" ∨ task.assignedExecutorWidgetId = some executorWidgetId then
    pure task
  else do
    let assigned ← execute fun s => s.assignAgentQueueTaskToExecutor request.workspaceId
      plan.taskId executorWidgetId (d.timestamp 1)
    rowOrNoRows assigned

/-- The task and the action of the slot, and the status of the answer; or the answer when
the task has other settings than the action. -/
def configuredSlot (d : Draws) (request : NormalizedApplyRunSettingsRequest)
    (plan : RunSettingsPlan) :
    Sqlite (Except QueueWorkflowApplyRunSettingsResult
      (AgentQueueTaskRow × AgentQueueWorkflowActionRow × QueueWorkflowApplyRunSettingsStatus)) :=
  match plan.existingAction with
  | some action =>
      match durableSettingsMismatch plan.task request.runSettings with
      | some blocker => pure (.error (applyBlocked plan.run
          (some (agentQueueTaskSummary plan.task)) (some action) blocker))
      | none => pure (.ok (plan.task, action, .reused))
  | none => do
      let task ← configuredTask d request plan
      let action ← execute fun s =>
        s.insertAgentQueueWorkflowAction (runSettingsActionRow d request plan.taskId)
      pure (.ok (task, action, .applied))

def settingsBindingSummary (request : NormalizedApplyRunSettingsRequest)
    (taskId actionId : String) : QueueWorkflowRunSettingsBindingSummary :=
  let target := request.runSettings.executionTarget
  { slot := request.slot
    taskId := taskId
    settingsHash := request.settingsHash
    executionTargetKind := target.kind
    providerId := target.providerId
    queueOwnerWidgetInstanceId := target.queueOwnerWidgetInstanceId
    executorWidgetId := request.runSettings.executorWidgetId
    executionTargetHash := workflowExecutionTargetHash target
    updateRunSettingsActionId := some actionId
    updateRunSettingsActionIdempotencyKey := request.actionIdempotencyKey }

def executionTargetJson : CanonicalQueueWorkflowExecutionTarget → Json
  | .queueLocal providerId owner =>
      .obj [("kind", .str "queue_local"), ("providerId", .str providerId),
        ("queueOwnerWidgetInstanceId", optionalStringJson owner)]
  | .agentExecutor providerId executorWidgetId =>
      .obj [("executorWidgetId", .str executorWidgetId), ("kind", .str "agent_executor"),
        ("providerId", .str providerId)]

/-- The members that settings write into a binding. -/
def runSettingsMembers (request : NormalizedApplyRunSettingsRequest)
    (summary : QueueWorkflowRunSettingsBindingSummary) : List (String × Json) :=
  presentMembers [
    ("settingsHash", some (.str summary.settingsHash)),
    ("executionTargetKind", some (.str summary.executionTargetKind)),
    ("providerId", some (.str summary.providerId)),
    ("queueOwnerWidgetInstanceId",
      some (optionalStringJson summary.queueOwnerWidgetInstanceId)),
    ("executorWidgetId", some (.str summary.executorWidgetId)),
    ("executionTargetHash", some (.str summary.executionTargetHash)),
    ("runSettings", some (.obj [
      ("approvalPolicy", .str request.runSettings.approvalPolicy),
      ("codexExecutable", .str request.runSettings.codexExecutable),
      ("executionPolicy", .str request.runSettings.executionPolicy),
      ("executionTarget", executionTargetJson request.runSettings.executionTarget),
      ("executionWorkspace", .str request.runSettings.executionWorkspace),
      ("executorWidgetId", .str request.runSettings.executorWidgetId),
      ("sandbox", .str request.runSettings.sandbox)])),
    ("updateRunSettingsActionId", summary.updateRunSettingsActionId.map .str),
    ("updateRunSettingsActionIdempotencyKey",
      some (.str summary.updateRunSettingsActionIdempotencyKey)),
    ("settingsAppliedByActorId", request.actorId.map .str)]

/-- The members of a binding; another value counts as an empty one. -/
def bindingMembers (binding : Json) : List (String × Json) := binding.asObject.getD []

def applyRunSettingsToBinding (binding : Json) (request : NormalizedApplyRunSettingsRequest)
    (summary : QueueWorkflowRunSettingsBindingSummary) : Json :=
  .obj (Json.insertMembers (runSettingsMembers request summary) (bindingMembers binding))

/-- A new text of the bindings keeps the rest of a run. -/
def bindingsOnlyUpdate (status : String) (slotBindingsJson : JsonText) (now : String) :
    AgentQueueWorkflowRunReportUpdate :=
  { status := status
    phase := none
    currentStep := none
    pauseReason := none
    blockerReason := none
    variablesJson := none
    slotBindingsJson := some slotBindingsJson
    mutationRefsJson := none
    idempotencyKeysJson := none
    actionLogSummaryJson := none
    updatedAt := now
    completedAt := none }

/-- The writes of a request that passed its checks. A binding that is too large leaves the
task and the action written. -/
def applyPlannedSettings (d : Draws) (request : NormalizedApplyRunSettingsRequest)
    (plan : RunSettingsPlan) : Sqlite QueueWorkflowApplyRunSettingsResult := do
  validateWorkflowExecutionTargetOwner request.workspaceId request.runSettings.executionTarget
  let configured ← configuredSlot d request plan
  match configured with
  | .error answer => pure answer
  | .ok (task, action, status) =>
      let summary := settingsBindingSummary request plan.taskId action.actionId
      let slotBindingsValue := Json.obj (Json.insertMember request.slot
        (applyRunSettingsToBinding plan.binding request summary) plan.slotBindings)
      if maxWorkflowSlotBindingsJsonBytes < utf8Length slotBindingsValue.canonicalString then
        pure (applyInvalidInput (some plan.run) (some (agentQueueTaskSummary task)) (some action)
          (workflowBlocker "slot_bindings_too_large"
            "Queue workflow slot bindings exceed the configured byte limit."
            (some "slotBindings")))
      else do
        let updated ← execute fun s => s.updateAgentQueueWorkflowRunReport request.workspaceId
          request.workflowRunId
          (bindingsOnlyUpdate plan.run.status (.value slotBindingsValue) (d.timestamp 1))
        let updatedRun ← rowOrNoRows updated
        execute fun s => s.touchWorkspace request.workspaceId (d.timestamp 2)
        pure {
          status := status
          workflowRun := some updatedRun
          task := some (agentQueueTaskSummary task)
          action := some action
          binding := some summary
          blocker := none
          conflict := none }

/-- The transaction of the settings. -/
def applyRunSettingsInStore (d : Draws) (request : NormalizedApplyRunSettingsRequest) :
    Sqlite QueueWorkflowApplyRunSettingsResult := do
  let plan ← query fun s => s.planRunSettings request
  match plan with
  | .error answer => pure answer
  | .ok plan => applyPlannedSettings d request plan

/-- The command that writes run settings to the task of a slot. -/
def applyAgentQueueWorkflowRunSettings (d : Draws)
    (request : QueueWorkflowApplyRunSettingsRequest) :
    Service QueueWorkflowApplyRunSettingsResult :=
  match normalizeApplyRunSettingsRequest request with
  | .error blocker => pure (applyInvalidInput none none none blocker)
  | .ok request => withImmediateTransaction mapStorageAgentQueueTaskError
      (applyRunSettingsInStore d request)

end HobitQueue
