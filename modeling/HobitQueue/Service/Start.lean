import HobitQueue.Service.Control
import HobitQueue.Service.StartContext

/-!
# Starting the assigned worker of a task

One transaction checks the control state, the task, its dependencies and its
settings, starts the run and links it to the task. With a workflow context the
start is recorded as an action under an idempotency key, and a later start with
the same key is answered from the record.
-/

namespace HobitQueue

open Concurrent StoreProg

structure AssignedAgentQueueTaskStartSummary where
  workspaceId : String
  queueItemId : String
  workbenchId : String
  executorWidgetInstanceId : String
  runId : String
  status : String
  directWorkInput : RunCodexDirectWorkInput
  workflowRunId : Option String
  workflowActionId : Option String
  actionIdempotencyKey : Option String
  settingsHash : Option String
  currentRunState : Option String
  blocker : Option QueueWorkerStartBlocker
  deriving DecidableEq

inductive StartTransactionResult where
  | started (summary : AssignedAgentQueueTaskStartSummary)
  | blocked (blocker : QueueWorkerStartBlocker)
  deriving DecidableEq

/-! ## Owners -/

inductive QueueDirectWorkOwner where
  | widget (row : WidgetInstanceRow)
  | backendQueueLocal

namespace QueueDirectWorkOwner

def id : QueueDirectWorkOwner → String
  | widget row => row.id
  | backendQueueLocal => queueLocalBackendExecutionTargetId

def workbenchId : QueueDirectWorkOwner → String
  | widget row => row.workbenchId
  | backendQueueLocal => queueLocalBackendWorkbenchId

def isBackendQueueLocal : QueueDirectWorkOwner → Bool
  | widget _ => false
  | backendQueueLocal => true

end QueueDirectWorkOwner

/-- A widget of the workspace of an accepted kind. -/
def loadOwnerWidget (workspaceId widgetInstanceId : String) (accepts : String → Bool)
    (wrongKind : String) : Sqlite WidgetInstanceRow := do
  let widget ← query fun s => s.getWidgetInstance widgetInstanceId
  match widget with
  | none => throw (storageInvalidInput
      ("queue local executor owner not found: " ++ widgetInstanceId))
  | some widget => do
      failIf (widget.workspaceId != workspaceId) (storageInvalidInput
        ("queue local executor owner does not belong to workspace: " ++ widgetInstanceId))
      failIf (!accepts widget.definitionId) (storageInvalidInput
        ("queue local executor owner is not " ++ wrongKind ++ ": " ++ widgetInstanceId))
      pure widget

/-- The owner that is named by the Queue widget of the input. -/
def loadAgentQueueDirectWorkOwner (workspaceId queueOwnerWidgetInstanceId : String) :
    Sqlite WidgetInstanceRow :=
  loadOwnerWidget workspaceId queueOwnerWidgetInstanceId (· == agentQueueWidgetDefinitionId)
    "an Agent Queue widget"

def loadAgentQueueDirectWorkOwnerById (workspaceId widgetInstanceId : String) :
    Sqlite WidgetInstanceRow :=
  loadOwnerWidget workspaceId widgetInstanceId
    (fun definitionId => definitionId == agentQueueWidgetDefinitionId ||
      definitionId == agentRunWidgetDefinitionId)
    "a Direct Work owner"

/-- A slot binding that hands the task to the backend's own executor. -/
def backendQueueLocalBinding (input : NormalizedStartAssignedAgentQueueTaskInput)
    (context : NormalizedQueueWorkerStartContext) (executionTargetHash : String)
    (binding : Json) : Bool :=
  isObject binding &&
    rawStringField binding "taskId" == some input.queueItemId &&
    rawStringField binding "settingsHash" == some context.settingsHash &&
    rawStringField binding "executionTargetHash" == some executionTargetHash &&
    rawStringField binding "executionTargetKind" == some "queue_local" &&
    rawStringField binding "providerId" == some "codex" &&
    (binding.field "queueOwnerWidgetInstanceId").any Json.isNull &&
    (rawStringField binding "executorWidgetId").all (· == "")

def SqliteStore.backendQueueLocalWorkflowContextMatches (s : SqliteStore)
    (input : NormalizedStartAssignedAgentQueueTaskInput)
    (context : NormalizedQueueWorkerStartContext) : Bool :=
  match context.executionTargetHash,
      (s.getAgentQueueWorkflowRun input.workspaceId context.workflowRunId).bind slotBindings with
  | some hash, some bindings =>
      bindings.any fun entry => backendQueueLocalBinding input context hash entry.2
  | _, _ => false

/-- Who runs the worker. -/
def resolveAgentQueueDirectWorkOwner (input : NormalizedStartAssignedAgentQueueTaskInput)
    (task : AgentQueueTaskRow) : Sqlite QueueDirectWorkOwner :=
  match input.queueOwnerWidgetInstanceId, task.assignedExecutorWidgetId with
  | some queueOwnerWidgetInstanceId, _ => do
      let widget ← loadAgentQueueDirectWorkOwner input.workspaceId queueOwnerWidgetInstanceId
      pure (.widget widget)
  | none, some assignedExecutorWidgetId => do
      let widget ← loadAgentExecutorWidget input.workspaceId assignedExecutorWidgetId
      pure (.widget widget)
  | none, none => do
      let backend ← query fun s =>
        input.workflowStartContext.any (s.backendQueueLocalWorkflowContextMatches input)
      failIf (!backend) (storageInvalidInput
        "queue task needs a Queue-owned local executor before running")
      pure .backendQueueLocal

/-- The settings of the run, which must pass the checks of Direct Work. -/
def buildDirectWorkInput (input : NormalizedStartAssignedAgentQueueTaskInput)
    (owner : QueueDirectWorkOwner) (task : AgentQueueTaskRow) :
    Except WorkspaceServiceError (RunCodexDirectWorkInput × NormalizedDirectWorkInput) := do
  let operatorPrompt ← operatorPromptForQueueTask task
  let directWorkInput : RunCodexDirectWorkInput := {
    workspaceId := input.workspaceId
    workbenchId := owner.workbenchId
    widgetInstanceId := owner.id
    codexExecutable := input.codexExecutable
    repoRoot := input.repoRoot
    operatorPrompt := operatorPrompt
    codexThreadId := none
    sandbox := input.sandbox
    approvalPolicy := input.approvalPolicy
    skipGitRepoCheck := true
    timeoutMs := input.timeoutMs
    stdoutCapBytes := input.stdoutCapBytes
    stderrCapBytes := input.stderrCapBytes }
  let normalized ← normalizeDirectWorkInput directWorkInput
  pure (directWorkInput, normalized)

/-! ## Records of a workflow start -/

def workflowStartBlockerWithWorkflowRefs (blocker : QueueWorkerStartBlocker)
    (context : NormalizedQueueWorkerStartContext) : QueueWorkerStartBlocker :=
  { blocker with
    workflowRunId := some context.workflowRunId
    workflowActionId := context.workflowActionId
    actionIdempotencyKey := some context.actionIdempotencyKey
    taskId := blocker.taskId.or (some context.taskId)
    executorWidgetId := blocker.executorWidgetId.or context.executorWidgetId
    expectedSettingsHash := blocker.expectedSettingsHash.or (some context.settingsHash) }

/-- The start action of a context in its first state. -/
def workflowStartActionRow (context : NormalizedQueueWorkerStartContext)
    (workspaceId generatedActionId : String) (targetRefs : Json) (status now : String)
    (completedAt blockerCode blockerMessage : Option String) : AgentQueueWorkflowActionRow :=
  { actionId := context.workflowActionId.getD generatedActionId
    workflowRunId := context.workflowRunId
    workspaceId := workspaceId
    stepId := queueWorkerStartStepId
    actionType := queueWorkerStartActionType
    idempotencyKey := context.actionIdempotencyKey
    status := status
    targetRefsJson := some (.value targetRefs)
    resultRefsJson := none
    blockerCode := blockerCode
    blockerMessage := blockerMessage
    attemptCount := 1
    startedAt := some now
    completedAt := completedAt
    createdAt := now
    updatedAt := now }

/-- The update that marks an existing action as blocked; what it recorded stays. -/
def blockedActionUpdate (existing : AgentQueueWorkflowActionRow)
    (blocker : QueueWorkerStartBlocker) (now : String) : AgentQueueWorkflowActionUpdate :=
  { status := "blocked"
    resultRefsJson := none
    blockerCode := some blocker.blockerCode
    blockerMessage := some blocker.blockerMessage
    attemptCount := some (max existing.attemptCount 1)
    startedAt := existing.startedAt.or (some now)
    completedAt := some now
    updatedAt := now }

/-- The record of a start that was refused. -/
def recordWorkflowStartBlocked (d : Draws) (input : NormalizedStartAssignedAgentQueueTaskInput)
    (context : NormalizedQueueWorkerStartContext) (blocker : QueueWorkerStartBlocker) :
    Sqlite StartTransactionResult := do
  let blocker := workflowStartBlockerWithWorkflowRefs blocker context
  let targetRefs ← query fun s => s.workflowStartTargetRefsJson input context none
  let now := d.timestamp 2
  let existing ← query fun s => s.getAgentQueueWorkflowActionByIdempotencyKey
    context.workflowRunId context.actionIdempotencyKey
  match existing with
  | some existing => do
      if workflowStartActionMatchesTarget existing input.workspaceId targetRefs then
        let _ ← execute fun s => s.updateAgentQueueWorkflowAction input.workspaceId
          context.workflowRunId context.actionIdempotencyKey
          (blockedActionUpdate existing blocker now)
      pure (.blocked blocker)
  | none => do
      let _ ← execute fun s => s.insertAgentQueueWorkflowAction
        (workflowStartActionRow context input.workspaceId
          (d.placeholderId "queue-workflow-action-" 3) targetRefs "blocked" now (some now)
          (some blocker.blockerCode) (some blocker.blockerMessage))
      pure (.blocked blocker)

/-- The record of a start. -/
def insertWorkflowStartAction (d : Draws) (context : NormalizedQueueWorkerStartContext)
    (workspaceId : String) (targetRefs : Json) (now : String) :
    Sqlite AgentQueueWorkflowActionRow :=
  execute fun s => s.insertAgentQueueWorkflowAction
    (workflowStartActionRow context workspaceId (d.placeholderId "queue-workflow-action-" 4)
      targetRefs "running" now none none none)

/-! ## An existing action -/

def SqliteStore.currentStartRunState (s : SqliteStore) (workspaceId runId : String) :
    Option String :=
  match s.getAgentQueueTaskRunLinkByRunId workspaceId runId with
  | some link => some link.status
  | none => (s.getWidgetRun runId).map (·.status)

/-- The owner of a recorded start: the executor the context names, if it names one. -/
def existingStartOwner (input : NormalizedStartAssignedAgentQueueTaskInput)
    (context : NormalizedQueueWorkerStartContext) (task : AgentQueueTaskRow) :
    Sqlite QueueDirectWorkOwner :=
  match context.executorWidgetId with
  | some executorWidgetId => do
      let widget ← loadAgentQueueDirectWorkOwnerById input.workspaceId executorWidgetId
      pure (.widget widget)
  | none => resolveAgentQueueDirectWorkOwner input task

/-- The answer for a run that was started under the same key. -/
def workflowStartExistingSummary (input : NormalizedStartAssignedAgentQueueTaskInput)
    (context : NormalizedQueueWorkerStartContext) (runId currentRunState : String) :
    Sqlite AssignedAgentQueueTaskStartSummary := do
  let task ← loadAgentQueueTask input.workspaceId input.queueItemId
  let executor ← existingStartOwner input context task
  let directWork ← storageCheck (buildDirectWorkInput input executor task)
  pure {
    workspaceId := task.workspaceId
    queueItemId := task.queueItemId
    workbenchId := executor.workbenchId
    executorWidgetInstanceId := executor.id
    runId := runId
    status := "already_started"
    directWorkInput := directWork.1
    workflowRunId := some context.workflowRunId
    workflowActionId := context.workflowActionId
    actionIdempotencyKey := some context.actionIdempotencyKey
    settingsHash := some context.settingsHash
    currentRunState := some currentRunState
    blocker := none }

/-- A blocker that names the task, the executor and the expected version of a context. -/
def contextBlocker (input : NormalizedStartAssignedAgentQueueTaskInput)
    (context : NormalizedQueueWorkerStartContext) (code message : String)
    (runId currentRunState missingRequiredField : Option String) : QueueWorkerStartBlocker :=
  workflowStartBlocker code message (some input.queueItemId) context.executorWidgetId runId
    currentRunState context.expectedQueueControlVersion none missingRequiredField

/-- The answer of a completed start action. -/
def resolveCompletedWorkflowStart (d : Draws)
    (input : NormalizedStartAssignedAgentQueueTaskInput)
    (context : NormalizedQueueWorkerStartContext) (runId : Option String) :
    Sqlite StartTransactionResult :=
  match runId with
  | none => recordWorkflowStartBlocked d input context (contextBlocker input context
      "orphaned_start" "workflow worker start action completed without a recorded runId."
      none none none)
  | some runId => do
      let state ← query fun s => s.currentStartRunState input.workspaceId runId
      match state with
      | none => recordWorkflowStartBlocked d input context (contextBlocker input context
          "start_state_unknown" ("workflow worker start has a runId, but the run link/runtime " ++
            "state could not be verified; operator review is required before retry.")
          (some runId) none none)
      | some state => do
          let summary ← workflowStartExistingSummary input context runId state
          pure (.started summary)

/-- The answer from an existing action. -/
def resolveExistingWorkflowStart (d : Draws)
    (input : NormalizedStartAssignedAgentQueueTaskInput)
    (context : NormalizedQueueWorkerStartContext) (existing : AgentQueueWorkflowActionRow) :
    Sqlite StartTransactionResult := do
  let targetRefs ← query fun s => s.workflowStartTargetRefsJson input context none
  let runId := workflowActionResultRunId existing
  if !workflowStartActionMatchesTarget existing input.workspaceId targetRefs then
    pure (.blocked (workflowStartBlockerWithWorkflowRefs (contextBlocker input context
      "workflow_action_idempotency_conflict" ("A Queue worker start action already exists " ++
        "for this idempotency key with different explicit refs.")
      runId none (some "action_idempotency_key")) context))
  else if existing.status = "completed" then
    resolveCompletedWorkflowStart d input context runId
  else if existing.status ∈ ["blocked", "failed", "cancelled"] then
    pure (.blocked (workflowStartBlockerWithWorkflowRefs (contextBlocker input context
      (existing.blockerCode.getD "workflow_start_blocked")
      (existing.blockerMessage.getD
        "workflow worker start action is already blocked or terminal.")
      runId (some existing.status) none) context))
  else
    recordWorkflowStartBlocked d input context (contextBlocker input context
      (if runId.isSome then "orphaned_start" else "start_state_unknown")
      ("workflow worker start action is incomplete; retry is blocked to avoid a " ++
        "duplicate worker.")
      runId (some existing.status) none)

/-! ## Checks of a new start -/

/-- What the control state says against the start. -/
def startControlBlocker (input : NormalizedStartAssignedAgentQueueTaskInput)
    (control : AgentQueueControlStateRow) : Option QueueWorkerStartBlocker :=
  let executorWidgetId := input.workflowStartContext.bind (·.executorWidgetId)
  let expectedVersion := input.workflowStartContext.bind (·.expectedQueueControlVersion)
  if expectedVersion.any (· ≠ control.version) then
    some (workflowStartBlocker "version_conflict"
      ("Queue control state version conflict: expected " ++
        toString (expectedVersion.getD 0) ++ ", actual " ++ toString control.version ++ ".")
      (some input.queueItemId) executorWidgetId none (some control.status) expectedVersion
      (some control.version) (some "expected_queue_control_version"))
  else if control.status ≠ agentQueueControlStatusManualEnabled then
    some (workflowStartBlocker "blocked_control_disabled" ("Queue control state is disabled; " ++
        "enable manual Queue control before starting workers.")
      (some input.queueItemId) executorWidgetId none (some control.status) expectedVersion
      (some control.version) none)
  else none

/-- What the task itself says against a start with a workflow context. -/
def SqliteStore.workflowStartTaskBlocker (s : SqliteStore)
    (input : NormalizedStartAssignedAgentQueueTaskInput)
    (context : NormalizedQueueWorkerStartContext) (task : AgentQueueTaskRow) :
    Option QueueWorkerStartBlocker :=
  if !isRunnableAgentQueueTaskStatus task.status then
    match s.latestActiveTaskRunLink input.workspaceId input.queueItemId with
    | some activeLink => some (workflowStartBlocker "active_run_conflict" ("queue task already " ++
          "has an active run that is not owned by this workflow start action.")
        (some input.queueItemId) (some activeLink.executorWidgetId)
        (some activeLink.directWorkRunId) (some activeLink.status)
        context.expectedQueueControlVersion none none)
    | none => some (contextBlocker input context "task_not_ready"
        ("queue task status cannot be run: " ++ task.status) none (some task.status)
        (some "task_status"))
  else if Text.trim task.prompt = "" then
    some (contextBlocker input context "task_not_ready"
      "queue task prompt must not be empty before running" none (some task.status)
      (some "prompt"))
  else none

/-- The task of a start without a workflow context. -/
def loadRunnableAgentQueueTask (workspaceId queueItemId : String) :
    Sqlite AgentQueueTaskRow := do
  let task ← loadAgentQueueTask workspaceId queueItemId
  failIf (!isRunnableAgentQueueTaskStatus task.status)
    (storageInvalidInput ("queue task status cannot be run: " ++ task.status))
  failIf (Text.trim task.prompt == "")
    (storageInvalidInput "queue task prompt must not be empty before running")
  pure task

def effectiveWorkerStartSettings (input : NormalizedStartAssignedAgentQueueTaskInput)
    (task : AgentQueueTaskRow) (owner : QueueDirectWorkOwner) :
    QueueWorkerStartSettingsSnapshot :=
  let queueLocalTarget := input.queueOwnerWidgetInstanceId.isSome || owner.isBackendQueueLocal
  { executionWorkspace := task.executionWorkspace.getD input.repoRoot
    codexExecutable := task.codexExecutable.getD input.codexExecutable
    sandbox := task.sandbox.getD input.sandbox
    approvalPolicy := task.approvalPolicy.getD input.approvalPolicy
    executionPolicy := task.executionPolicy
    executionTargetKind := if queueLocalTarget then "queue_local" else "agent_executor"
    providerId := "codex"
    queueOwnerWidgetInstanceId := input.queueOwnerWidgetInstanceId
    executorWidgetId := if queueLocalTarget then "" else owner.id }

/-- A blocker over the settings, with both hashes. -/
def settingsBlocker (input : NormalizedStartAssignedAgentQueueTaskInput)
    (context : NormalizedQueueWorkerStartContext) (actualSettingsHash code message fieldName :
      String) : QueueWorkerStartBlocker :=
  { contextBlocker input context code message none none (some fieldName) with
    expectedSettingsHash := some context.settingsHash
    actualSettingsHash := some actualSettingsHash }

/-- The settings of the start are those of the task. -/
def validateWorkflowStartRunSettings (input : NormalizedStartAssignedAgentQueueTaskInput)
    (task : AgentQueueTaskRow) (context : NormalizedQueueWorkerStartContext)
    (actualSettingsHash : String) : Option QueueWorkerStartBlocker :=
  if context.settingsHash ≠ actualSettingsHash then
    some (settingsBlocker input context actualSettingsHash "settings_hash_mismatch"
      "workflow worker start settingsHash does not match durable task run settings."
      "settings_hash")
  else
    let settings : List (String × Option String × String) := [
      ("execution_workspace", task.executionWorkspace, input.repoRoot),
      ("codex_executable", task.codexExecutable, input.codexExecutable),
      ("sandbox", task.sandbox, input.sandbox),
      ("approval_policy", task.approvalPolicy, input.approvalPolicy),
      ("execution_policy", some task.executionPolicy,
        AgentQueueTaskExecutionPolicy.manual.asStr)]
    (settings.find? fun (_, expected, actual) => expected.any (· != actual)).map
      fun (fieldName, _, _) => settingsBlocker input context actualSettingsHash
        "run_settings_mismatch" ("workflow worker start " ++ fieldName ++
          " does not match durable task run settings.") fieldName

/-- What the executor, the settings and a run in progress say against the start. -/
def SqliteStore.workflowStartSettingsBlocker (s : SqliteStore)
    (input : NormalizedStartAssignedAgentQueueTaskInput)
    (context : NormalizedQueueWorkerStartContext) (control : AgentQueueControlStateRow)
    (task : AgentQueueTaskRow) (executor : QueueDirectWorkOwner) (settingsHash : String) :
    Option QueueWorkerStartBlocker :=
  if context.executorWidgetId.any (· != executor.id) then
    some (workflowStartBlocker "executor_binding_mismatch" ("workflow worker start " ++
        "executorWidgetId does not match the task's explicit executor binding.")
      (some input.queueItemId) context.executorWidgetId none none
      context.expectedQueueControlVersion (some control.version) (some "executor_widget_id"))
  else
    (validateWorkflowStartRunSettings input task context settingsHash).or
      ((s.latestActiveTaskRunLink input.workspaceId input.queueItemId).map fun activeLink =>
        workflowStartBlocker "active_run_conflict" ("queue task already has an active run " ++
            "that is not owned by this workflow start action.")
          (some input.queueItemId) (some activeLink.executorWidgetId)
          (some activeLink.directWorkRunId) (some activeLink.status)
          context.expectedQueueControlVersion (some control.version) none)

/-! ## The start -/

/-- The run of the worker: the backend runs its own under a fresh id, a widget's run
is inserted. -/
def startDirectWork (d : Draws) (executor : QueueDirectWorkOwner)
    (directWork : NormalizedDirectWorkInput) : Sqlite CodexDirectWorkStreamStartSummary :=
  if executor.isBackendQueueLocal then
    pure ⟨d.placeholderId "queue-run_" 5, "started"⟩
  else do
    let start ← insertCodexDirectWorkStreamStart d 5 directWork
    match start with
    | some start => pure start
    | none => throw (storageInvalidInput "assigned Agent Executor could not start Direct Work")

/-- The update that completes a start action. -/
def completedActionUpdate (runId now : String) : AgentQueueWorkflowActionUpdate :=
  { status := "completed"
    resultRefsJson :=
      some (.value (workflowStartResultRefsJson runId AgentQueueTaskRunStatus.running.asStr))
    blockerCode := none
    blockerMessage := none
    attemptCount := some 1
    startedAt := some now
    completedAt := some now
    updatedAt := now }

def completeWorkflowStartAction (d : Draws)
    (input : NormalizedStartAssignedAgentQueueTaskInput) (runId : String) : Sqlite Unit :=
  match input.workflowStartContext with
  | none => pure ()
  | some context => do
      let action ← execute fun s => s.updateAgentQueueWorkflowAction input.workspaceId
        context.workflowRunId context.actionIdempotencyKey
        (completedActionUpdate runId (d.timestamp 0))
      failIf action.isNone
        (storageInvalidInput "workflow start action was not found after worker start")

/-- The last part of a start: run the worker, link it, mark the task as running, and
complete the action. -/
def launchWorker (d : Draws) (input : NormalizedStartAssignedAgentQueueTaskInput)
    (source : AgentQueueTaskRunSource) (task : AgentQueueTaskRow)
    (executor : QueueDirectWorkOwner) (settingsHash : String) :
    Sqlite StartTransactionResult := do
  let directWork ← storageCheck (buildDirectWorkInput input executor task)
  let start ← startDirectWork d executor directWork.2
  let _ ← recordAgentQueueTaskRunStartedInStore d 8 input.workspaceId input.queueItemId
    executor.id start.runId source
  let updated ← execute fun s => s.updateAgentQueueTaskStatus input.workspaceId
    input.queueItemId AgentQueueTaskLifecycleStatus.running.asStr (d.timestamp 0)
  let task ← rowOrNotFound updated
  execute fun s => s.touchWorkspace input.workspaceId (d.timestamp 10)
  completeWorkflowStartAction d input start.runId
  pure (.started {
    workspaceId := task.workspaceId
    queueItemId := task.queueItemId
    workbenchId := executor.workbenchId
    executorWidgetInstanceId := executor.id
    runId := start.runId
    status := "started"
    directWorkInput := directWork.1
    workflowRunId := input.workflowStartContext.map (·.workflowRunId)
    workflowActionId := input.workflowStartContext.bind (·.workflowActionId)
    actionIdempotencyKey := input.workflowStartContext.map (·.actionIdempotencyKey)
    settingsHash := input.workflowStartContext.map fun _ => settingsHash
    currentRunState := some AgentQueueTaskRunStatus.running.asStr
    blocker := none })

/-- A new start without a workflow context; the control state is enabled. -/
def startPlain (d : Draws) (input : NormalizedStartAssignedAgentQueueTaskInput)
    (source : AgentQueueTaskRunSource) : Sqlite StartTransactionResult := do
  let task ← loadRunnableAgentQueueTask input.workspaceId input.queueItemId
  let ready ← query fun s => s.validateQueueTaskDependenciesReady input.workspaceId task
  check (ready.mapError workflowStartStorageError)
  let executor ← resolveAgentQueueDirectWorkOwner input task
  launchWorker d input source task executor
    (effectiveWorkerStartSettings input task executor).stableHash

/-- A new start under the key of a workflow context; the control state is enabled. -/
def startWithContext (d : Draws) (input : NormalizedStartAssignedAgentQueueTaskInput)
    (source : AgentQueueTaskRunSource) (control : AgentQueueControlStateRow)
    (context : NormalizedQueueWorkerStartContext) : Sqlite StartTransactionResult := do
  let task ← loadAgentQueueTask input.workspaceId input.queueItemId
  let notReady ← query fun s => s.workflowStartTaskBlocker input context task
  let dependencies ← query fun s => s.validateQueueTaskDependenciesReady input.workspaceId task
  match notReady, dependencies with
  | some blocker, _ => recordWorkflowStartBlocked d input context blocker
  | none, .error blocker => recordWorkflowStartBlocked d input context blocker
  | none, .ok () => do
      let executor ← resolveAgentQueueDirectWorkOwner input task
      let settings := effectiveWorkerStartSettings input task executor
      let blocker ← query fun s =>
        s.workflowStartSettingsBlocker input context control task executor settings.stableHash
      match blocker with
      | some blocker => recordWorkflowStartBlocked d input context blocker
      | none => do
          let targetRefs ← query fun s =>
            s.workflowStartTargetRefsJson input context (some settings)
          let _ ← insertWorkflowStartAction d context input.workspaceId targetRefs
            (d.timestamp 0)
          launchWorker d input source task executor settings.stableHash

/-- A start that no existing action answers. -/
def startNew (d : Draws) (input : NormalizedStartAssignedAgentQueueTaskInput)
    (source : AgentQueueTaskRunSource) : Sqlite StartTransactionResult := do
  let control ← ensureDefaultControlState input.workspaceId (d.timestamp 1)
  match startControlBlocker input control, input.workflowStartContext with
  | some blocker, some context => recordWorkflowStartBlocked d input context blocker
  | some blocker, none => pure (.blocked blocker)
  | none, some context => startWithContext d input source control context
  | none, none => startPlain d input source

/-- The transaction of a start. -/
def startTransaction (d : Draws) (input : NormalizedStartAssignedAgentQueueTaskInput)
    (source : AgentQueueTaskRunSource) : Sqlite StartTransactionResult := do
  let existing ← query fun s => input.workflowStartContext.bind fun context =>
    s.getAgentQueueWorkflowActionByIdempotencyKey context.workflowRunId
      context.actionIdempotencyKey
  match input.workflowStartContext, existing with
  | some context, some existing => resolveExistingWorkflowStart d input context existing
  | _, _ => startNew d input source

/-- The answer of a start; a blocker is reported as invalid input. -/
def startAnswer : StartTransactionResult → Except WorkspaceServiceError
    AssignedAgentQueueTaskStartSummary
  | .started summary => .ok summary
  | .blocked blocker => .error (.invalidInput (workflowStartBlockerMessage blocker))

/-- The command that starts a task, with the source of its run. -/
def startAssignedAgentQueueTaskWithRunSource (d : Draws)
    (input : StartAssignedAgentQueueTaskInput) (source : AgentQueueTaskRunSource) :
    Service AssignedAgentQueueTaskStartSummary := do
  let input ← check (normalizeStartAssignedAgentQueueTaskInput input)
  let result ← withImmediateTransaction mapStorageAgentQueueTaskError
    (startTransaction d input source)
  check (startAnswer result)

def startAssignedAgentQueueTask (d : Draws) (input : StartAssignedAgentQueueTaskInput) :
    Service AssignedAgentQueueTaskStartSummary :=
  startAssignedAgentQueueTaskWithRunSource d input .manual

end HobitQueue
