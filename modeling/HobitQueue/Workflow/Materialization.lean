import HobitQueue.Service.Tasks
import HobitQueue.Workflow.Runs

/-!
# Task slots

A workflow names its tasks by slots. Materializing a slot creates the draft task of its
spec, or finds the one that was created before: the id of the task is a hash of the run,
the slot and the spec. The binding of the slot, the action and the task are written in
one transaction.
-/

namespace HobitQueue

open Concurrent StoreProg

def createTaskActionType : String := "create_task"
def createTaskStepId : String := "create_task"
def maxWorkflowTaskTitleChars : ℕ := 160
def maxWorkflowTaskDescriptionChars : ℕ := 4096
def maxWorkflowTaskPromptChars : ℕ := 16384
def maxWorkflowTaskSlotChars : ℕ := 96
def maxWorkflowTaskDependencySlots : ℕ := 64
def defaultWorkflowTaskPriority : ℤ := 0

structure QueueWorkflowTaskSpec where
  title : String
  prompt : String
  description : Option String
  status : Option String
  priority : Option ℤ

structure QueueWorkflowMaterializeTaskSlotRequest where
  workspaceId : String
  workflowRunId : String
  slot : String
  taskSpec : QueueWorkflowTaskSpec
  taskSpecHash : Option String
  dependsOnSlots : List String
  actorId : Option String
  actionIdempotencyKey : Option String

inductive QueueWorkflowMaterializeTaskSlotStatus where
  | created | reused | conflict | blocked | notFound | invalidInput
  deriving DecidableEq, Repr

structure QueueWorkflowTaskSlotBindingSummary where
  slot : String
  taskId : String
  taskSpecHash : String
  dependencySpecHash : String
  dependencyEdgeHash : String
  dependsOnSlots : List String
  dependencyTaskIds : List String
  createTaskActionId : Option String
  createTaskActionIdempotencyKey : String
  deriving DecidableEq

structure QueueWorkflowMaterializeTaskSlotResult where
  status : QueueWorkflowMaterializeTaskSlotStatus
  workflowRun : Option AgentQueueWorkflowRunRow
  task : Option AgentQueueTaskSummary
  action : Option AgentQueueWorkflowActionRow
  binding : Option QueueWorkflowTaskSlotBindingSummary
  blocker : Option QueueWorkflowCommandBlocker
  conflict : Option QueueWorkflowConflict
  deriving DecidableEq

structure CanonicalQueueWorkflowTaskSpec where
  title : String
  prompt : String
  description : String
  status : String
  priority : ℤ

/-! ## The request -/

/-- `required_owned`. -/
def requiredSlotField (value field : String) : Except QueueWorkflowCommandBlocker String :=
  if Text.trim value = "" then
    .error (invalidFieldBlocker field
      "Queue workflow task materialization request is missing a required field.")
  else .ok (Text.trim value)

def boundedSpecField (value field : String) (maxChars : ℕ) :
    Except QueueWorkflowCommandBlocker String :=
  if maxChars < value.length then
    .error (workflowBlocker "workflow_task_spec_field_too_large"
      "Queue workflow taskSpec field exceeds the configured character limit." (some field))
  else .ok value

def requiredBoundedString (value field : String) (maxChars : ℕ) :
    Except QueueWorkflowCommandBlocker String := do
  let value ← requiredSlotField value field
  boundedSpecField value field maxChars

def boundedOptionalString (value : Option String) (field : String) (maxChars : ℕ) :
    Except QueueWorkflowCommandBlocker (Option String) :=
  (Text.optionalTrimmed value).mapM fun value => boundedSpecField value field maxChars

/-- A letter, then letters, digits, underscores and hyphens. -/
def validSlot (slot : String) : Bool :=
  match slot.toList with
  | [] => false
  | first :: rest =>
      first.isAlpha && rest.all fun c => c.isAlphanum || c == '_' || c == '-'

def normalizeSlot (slot field : String) : Except QueueWorkflowCommandBlocker String := do
  let slot ← requiredBoundedString slot field maxWorkflowTaskSlotChars
  refuseIf (!validSlot slot) (workflowBlocker "invalid_task_slot" ("Queue workflow task slot " ++
    "must start with a letter and contain only letters, numbers, underscore, or hyphen.")
    (some field))
  pure slot

/-- The dependency slots with the ones that were seen so far. -/
def normalizeDependencySlotsFrom (materializedSlot : Option String) (seen : List String) :
    List String → Except QueueWorkflowCommandBlocker (List String)
  | [] => .ok seen
  | dependencySlot :: rest => do
      let dependencySlot ← normalizeSlot dependencySlot "dependsOnSlots"
      refuseIf (materializedSlot == some dependencySlot) (workflowBlocker "self_dependency_slot"
        "Queue workflow task slot cannot depend on itself." (some "dependsOnSlots"))
      refuseIf (seen.contains dependencySlot) (workflowBlocker "duplicate_dependency_slot"
        "Queue workflow task dependsOnSlots must not include duplicates." (some "dependsOnSlots"))
      normalizeDependencySlotsFrom materializedSlot (dependencySlot :: seen) rest

/-- Strings in order. -/
def sortedStrings (strings : List String) : List String :=
  strings.insertionSort fun a b => a ≤ b

def normalizeDependencySlots (dependencySlots : List String) (materializedSlot : Option String) :
    Except QueueWorkflowCommandBlocker (List String) := do
  refuseIf (maxWorkflowTaskDependencySlots < dependencySlots.length : Bool)
    (workflowBlocker "too_many_dependency_slots" ("Queue workflow task materialization received " ++
      "too many dependsOnSlots entries.") (some "dependsOnSlots"))
  let slots ← normalizeDependencySlotsFrom materializedSlot [] dependencySlots
  pure (sortedStrings slots)

def normalizeTaskSpec (taskSpec : QueueWorkflowTaskSpec) :
    Except QueueWorkflowCommandBlocker CanonicalQueueWorkflowTaskSpec := do
  let title ← requiredBoundedString taskSpec.title "taskSpec.title" maxWorkflowTaskTitleChars
  let prompt ← requiredBoundedString taskSpec.prompt "taskSpec.prompt" maxWorkflowTaskPromptChars
  let description ← boundedOptionalString taskSpec.description "taskSpec.description"
    maxWorkflowTaskDescriptionChars
  let status := (Text.optionalTrimmed taskSpec.status).getD "draft"
  refuseIf (status != "draft") (workflowBlocker "unsupported_initial_task_status"
    "Queue workflow task slot materialization only creates draft Queue tasks in this phase."
    (some "taskSpec.status"))
  let priority := taskSpec.priority.getD defaultWorkflowTaskPriority
  refuseIf (priority < 0 || 5 < priority) (workflowBlocker "invalid_task_priority"
    "Queue workflow task priority must be between 0 and 5." (some "taskSpec.priority"))
  pure {
    title := title
    prompt := prompt
    description := description.getD ""
    status := status
    priority := priority }

def workflowTaskSpecHash (taskSpec : CanonicalQueueWorkflowTaskSpec)
    (dependsOnSlots : List String) : String :=
  stableFnv1a64Hash "queue-task-spec-fnv1a64" (Json.canonicalString (.obj [
    ("dependsOnSlots", Json.ofStrings dependsOnSlots),
    ("description", .str taskSpec.description),
    ("priority", .num (toString taskSpec.priority)),
    ("prompt", .str taskSpec.prompt),
    ("status", .str taskSpec.status),
    ("title", .str taskSpec.title)]))

def workflowDependencySpecHash (dependsOnSlots : List String) : String :=
  stableFnv1a64Hash "queue-dependency-spec-fnv1a64" (Json.canonicalString (.obj [
    ("dependsOnSlots", Json.ofStrings dependsOnSlots)]))

def workflowDependencyEdgeHash (dependencyTaskIds : List String) : String :=
  stableFnv1a64Hash "queue-dependency-edge-fnv1a64" (Json.canonicalString (.obj [
    ("dependencyTaskIds", Json.ofStrings (sortedStrings dependencyTaskIds))]))

structure NormalizedMaterializeTaskSlotRequest extends WorkflowRunRef where
  slot : String
  taskSpec : CanonicalQueueWorkflowTaskSpec
  taskSpecHash : String
  dependencySpecHash : String
  dependsOnSlots : List String
  actorId : Option String
  actionIdempotencyKey : String

/-- The checked request and its hashes. -/
def normalizeMaterializeTaskSlotRequest (request : QueueWorkflowMaterializeTaskSlotRequest) :
    Except QueueWorkflowCommandBlocker NormalizedMaterializeTaskSlotRequest := do
  let workspaceId ← requiredSlotField request.workspaceId "workspaceId"
  let workflowRunId ← requiredSlotField request.workflowRunId "workflowRunId"
  let slot ← normalizeSlot request.slot "slot"
  let taskSpec ← normalizeTaskSpec request.taskSpec
  let dependsOnSlots ← normalizeDependencySlots request.dependsOnSlots (some slot)
  let computedTaskSpecHash := workflowTaskSpecHash taskSpec dependsOnSlots
  refuseIf ((Text.optionalTrimmed request.taskSpecHash).any (· != computedTaskSpecHash))
    (workflowBlocker "task_spec_hash_mismatch"
      "Provided taskSpecHash does not match the canonical typed taskSpec." (some "taskSpecHash"))
  let actionIdempotencyKey := workflowRunId ++ ":" ++ createTaskActionType ++ ":" ++ slot ++ ":" ++
    computedTaskSpecHash
  refuseIf ((Text.optionalTrimmed request.actionIdempotencyKey).any (· != actionIdempotencyKey))
    (workflowBlocker "invalid_action_idempotency_key" ("Queue workflow task materialization " ++
      "idempotency key must be workflowRunId:create_task:slot:taskSpecHash.")
      (some "actionIdempotencyKey"))
  pure {
    workspaceId := workspaceId
    workflowRunId := workflowRunId
    slot := slot
    taskSpec := taskSpec
    taskSpecHash := computedTaskSpecHash
    dependencySpecHash := workflowDependencySpecHash dependsOnSlots
    dependsOnSlots := dependsOnSlots
    actorId := Text.optionalTrimmed request.actorId
    actionIdempotencyKey := actionIdempotencyKey }

/-! ## Answers -/

def materializeInvalidInput (run : Option AgentQueueWorkflowRunRow)
    (blocker : QueueWorkflowCommandBlocker) : QueueWorkflowMaterializeTaskSlotResult :=
  { status := .invalidInput
    workflowRun := run
    task := none
    action := none
    binding := none
    blocker := some blocker
    conflict := none }

def materializeNotFound : QueueWorkflowMaterializeTaskSlotResult :=
  { status := .notFound
    workflowRun := none
    task := none
    action := none
    binding := none
    blocker := some (workflowBlocker "workflow_run_not_found"
      "Queue workflow run was not found for task slot materialization." (some "workflowRunId"))
    conflict := none }

def materializeBlocked (run : AgentQueueWorkflowRunRow) (task : Option AgentQueueTaskSummary)
    (action : Option AgentQueueWorkflowActionRow) (blocker : QueueWorkflowCommandBlocker) :
    QueueWorkflowMaterializeTaskSlotResult :=
  { status := .blocked
    workflowRun := some run
    task := task
    action := action
    binding := none
    blocker := some blocker
    conflict := none }

def materializeConflict (run : AgentQueueWorkflowRunRow) (conflict : QueueWorkflowConflict) :
    QueueWorkflowMaterializeTaskSlotResult :=
  { status := .conflict
    workflowRun := some run
    task := none
    action := none
    binding := none
    blocker := none
    conflict := some conflict }

def slotConflict (request : NormalizedMaterializeTaskSlotRequest) (code message : String)
    (existing requested : Option String) : QueueWorkflowConflict :=
  { conflictCode := code
    conflictMessage := message
    existingWorkflowRunId := some request.workflowRunId
    existingRequestHash := existing
    requestedRequestHash := requested }

/-! ## Checks against the store -/

def terminalWorkflowStatus (status : String) : Bool :=
  status == "completed" || status == "failed" || status == "cancelled"

/-- The slot bindings as the materialization reads them: a blank text and `null` count as
empty. -/
def materializedSlotBindings (slotBindingsJson : Option JsonText) :
    Except QueueWorkflowCommandBlocker (List (String × Json)) :=
  match slotBindingsJson with
  | none => .ok []
  | some raw =>
      if raw.isBlank (Text.trim · == "") then .ok []
      else
        match raw.parse with
        | none => .error (workflowBlocker "invalid_slot_bindings_json"
            "Queue workflow slotBindings JSON could not be parsed." (some "slotBindings"))
        | some .null => .ok []
        | some (.obj members) => .ok members
        | some _ => .error (workflowBlocker "invalid_slot_bindings_json"
            "Queue workflow slotBindings must be a JSON object." (some "slotBindings"))

/-- What the binding of the slot says against the request. -/
def existingBindingConflict (request : NormalizedMaterializeTaskSlotRequest)
    (existing : Json) : Option QueueWorkflowConflict :=
  match jsonStringField existing "taskSpecHash" with
  | none => some (slotConflict request "slot_binding_missing_task_spec_hash" ("Existing Queue " ++
      "workflow slot binding does not include taskSpecHash and cannot be reused safely.")
      none (some request.taskSpecHash))
  | some existingHash =>
      if existingHash ≠ request.taskSpecHash then
        some (slotConflict request "slot_task_spec_hash_conflict"
          "Queue workflow slot already has a task binding with a different taskSpecHash."
          (some existingHash) (some request.taskSpecHash))
      else if (jsonStringField existing "taskId").isNone then
        some (slotConflict request "slot_binding_missing_task_id"
          "Existing Queue workflow slot binding is missing taskId and cannot be reused safely."
          (some existingHash) (some request.taskSpecHash))
      else none

structure ResolvedDependencySlots where
  dependencyTaskIds : List String
  dependencyEdgeHash : String

/-- The task of one upstream slot. -/
def SqliteStore.resolveDependencySlot (s : SqliteStore) (workspaceId : String)
    (slotBindings : List (String × Json)) (dependencySlot : String) :
    Except QueueWorkflowCommandBlocker String :=
  match slotBindings.lookup dependencySlot with
  | none => .error (workflowBlocker "missing_upstream_slot_binding" ("Upstream dependency slot " ++
      "must have a durable taskId before downstream task materialization.")
      (some "dependsOnSlots"))
  | some binding =>
      match jsonStringField binding "taskId" with
      | none => .error (workflowBlocker "missing_upstream_task_id"
          "Upstream dependency slot binding is missing taskId." (some "slotBindings.taskId"))
      | some taskId =>
          if (s.getAgentQueueTask workspaceId taskId).isSome then .ok taskId
          else .error (workflowBlocker "upstream_task_missing"
            "Upstream dependency task was not found in the workflow workspace."
            (some "dependsOnSlots"))

def SqliteStore.resolveDependencySlots (s : SqliteStore)
    (request : NormalizedMaterializeTaskSlotRequest) (slotBindings : List (String × Json)) :
    Except QueueWorkflowCommandBlocker ResolvedDependencySlots := do
  let taskIds ← request.dependsOnSlots.mapM
    (s.resolveDependencySlot request.workspaceId slotBindings)
  pure {
    dependencyTaskIds := taskIds
    dependencyEdgeHash := workflowDependencyEdgeHash taskIds }

def deterministicWorkflowTaskId (workflowRunId slot taskSpecHash : String) : String :=
  "queue_task_wf_" ++ hex16 (fnv1a64 (Json.canonicalString (.obj [
    ("slot", .str slot),
    ("taskSpecHash", .str taskSpecHash),
    ("workflowRunId", .str workflowRunId)])))

def materializeTargetRefsJson (request : NormalizedMaterializeTaskSlotRequest) : Json :=
  .obj [("dependencySpecHash", .str request.dependencySpecHash),
    ("dependsOnSlots", Json.ofStrings request.dependsOnSlots),
    ("slot", .str request.slot),
    ("taskSpecHash", .str request.taskSpecHash),
    ("workflowRunId", .str request.workflowRunId)]

def materializeResultRefsJson (taskId : String) (resolved : ResolvedDependencySlots)
    (status : String) : Json :=
  .obj [("dependencyEdgeHash", .str resolved.dependencyEdgeHash),
    ("dependencyTaskIds", Json.ofStrings resolved.dependencyTaskIds),
    ("status", .str status),
    ("taskId", .str taskId)]

def workflowActionMatchesRefs (action : AgentQueueWorkflowActionRow)
    (request : NormalizedMaterializeTaskSlotRequest) (targetRefs resultRefs : Json) : Bool :=
  action.workspaceId == request.workspaceId && action.workflowRunId == request.workflowRunId &&
    action.stepId == createTaskStepId && action.actionType == createTaskActionType &&
    action.targetRefsJson == some (.value targetRefs) &&
    action.resultRefsJson == some (.value resultRefs)

/-- What an action that is there under the key says against the request. -/
def checkExistingAction (request : NormalizedMaterializeTaskSlotRequest)
    (run : AgentQueueWorkflowRunRow) (targetRefs resultRefs : Json)
    (existing : Option AgentQueueWorkflowActionRow) :
    Except QueueWorkflowMaterializeTaskSlotResult Unit :=
  match existing with
  | none => .ok ()
  | some action => do
      refuseIf (!workflowActionMatchesRefs action request targetRefs resultRefs)
        (materializeConflict run (slotConflict request "create_task_action_ref_conflict"
          ("A Queue workflow create_task action already exists for this idempotency key with " ++
            "different typed refs.")
          (action.targetRefsJson.map JsonText.text) (some targetRefs.canonicalString)))
      refuseIf (action.status != QueueWorkflowActionStatus.completed.asStr)
        (materializeBlocked run none (some action) (workflowBlocker
          "create_task_action_not_completed" ("Existing Queue workflow create_task action is " ++
            "not completed and will not be retried blindly.") none))

/-- The binding as it is stored: the members in key order. -/
def bindingValue (binding : QueueWorkflowTaskSlotBindingSummary)
    (request : NormalizedMaterializeTaskSlotRequest) : Json :=
  .obj (presentMembers [
    ("createTaskActionId", binding.createTaskActionId.map .str),
    ("createTaskActionIdempotencyKey", some (.str binding.createTaskActionIdempotencyKey)),
    ("createdByActorId", request.actorId.map .str),
    ("dependencyEdgeHash", some (.str binding.dependencyEdgeHash)),
    ("dependencySpecHash", some (.str binding.dependencySpecHash)),
    ("dependencyTaskIds", some (Json.ofStrings binding.dependencyTaskIds)),
    ("dependsOnSlots", some (Json.ofStrings binding.dependsOnSlots)),
    ("slot", some (.str binding.slot)),
    ("taskId", some (.str binding.taskId)),
    ("taskSpecHash", some (.str binding.taskSpecHash))])

/-- What a request comes to before it writes. -/
structure TaskSlotPlan where
  run : AgentQueueWorkflowRunRow
  taskId : String
  resolved : ResolvedDependencySlots
  targetRefs : Json
  resultRefs : Json
  binding : QueueWorkflowTaskSlotBindingSummary
  slotBindingsJson : JsonText

/-- The checks on the run and its bindings, up to the first write. -/
def SqliteStore.planTaskSlot (s : SqliteStore) (d : Draws)
    (request : NormalizedMaterializeTaskSlotRequest) :
    Except QueueWorkflowMaterializeTaskSlotResult TaskSlotPlan :=
  match s.getAgentQueueWorkflowRun request.workspaceId request.workflowRunId with
  | none => .error materializeNotFound
  | some run => do
      refuseIf (terminalWorkflowStatus run.status) (materializeBlocked run none none
        (workflowBlocker "workflow_run_terminal" ("Queue workflow task slots cannot be " ++
          "materialized after the workflow is terminal.") none))
      let slotBindings ← (materializedSlotBindings run.slotBindingsJson).mapError
        (materializeInvalidInput (some run))
      let existingBinding := slotBindings.lookup request.slot
      match existingBinding.bind (existingBindingConflict request) with
      | some conflict => .error (materializeConflict run conflict)
      | none => do
          let resolved ← (s.resolveDependencySlots request slotBindings).mapError
            (materializeBlocked run none none)
          let taskId := (existingBinding.bind (jsonStringField · "taskId")).getD
            (deterministicWorkflowTaskId request.workflowRunId request.slot request.taskSpecHash)
          let targetRefs := materializeTargetRefsJson request
          let resultRefs := materializeResultRefsJson taskId resolved "completed"
          let existingAction := s.getAgentQueueWorkflowActionByIdempotencyKey
            request.workflowRunId request.actionIdempotencyKey
          checkExistingAction request run targetRefs resultRefs existingAction
          let binding : QueueWorkflowTaskSlotBindingSummary := {
            slot := request.slot
            taskId := taskId
            taskSpecHash := request.taskSpecHash
            dependencySpecHash := request.dependencySpecHash
            dependencyEdgeHash := resolved.dependencyEdgeHash
            dependsOnSlots := request.dependsOnSlots
            dependencyTaskIds := resolved.dependencyTaskIds
            createTaskActionId := some ((existingAction.map (·.actionId)).getD
              (d.placeholderId "queue-workflow-action-" 0))
            createTaskActionIdempotencyKey := request.actionIdempotencyKey }
          let slotBindingsValue := Json.obj
            (Json.insertMember request.slot (bindingValue binding request) slotBindings)
          refuseIf
            (maxWorkflowSlotBindingsJsonBytes < utf8Length slotBindingsValue.canonicalString : Bool)
            (materializeInvalidInput (some run) (workflowBlocker "slot_bindings_too_large"
              "Queue workflow slot bindings exceed the configured byte limit."
              (some "slotBindings")))
          pure {
            run := run
            taskId := taskId
            resolved := resolved
            targetRefs := targetRefs
            resultRefs := resultRefs
            binding := binding
            slotBindingsJson := .value slotBindingsValue }

/-- What the task that is there under the id says against the request. -/
def validateExistingMaterializedTask (task : AgentQueueTaskRow)
    (request : NormalizedMaterializeTaskSlotRequest) (dependsOnJson : JsonText) :
    Option QueueWorkflowCommandBlocker :=
  if task.title ≠ request.taskSpec.title ∨ task.description ≠ request.taskSpec.description ∨
      task.prompt ≠ request.taskSpec.prompt ∨ task.status ≠ request.taskSpec.status ∨
      task.priority ≠ request.taskSpec.priority ∨ task.executionPolicy ≠ "manual" ∨
      task.executionWorkspace.isSome ∨ task.codexExecutable.isSome ∨ task.sandbox.isSome ∨
      task.approvalPolicy.isSome then
    some (workflowBlocker "task_spec_state_mismatch"
      "Existing materialized Queue task no longer matches the workflow taskSpecHash." none)
  else if task.dependsOn ≠ dependsOnJson then
    some (workflowBlocker "dependency_edge_missing"
      "Existing materialized Queue task dependency edge does not match explicit dependsOnSlots."
      (some "dependsOnSlots"))
  else none

/-- The draft task of a slot. -/
def materializedTaskRow (d : Draws) (request : NormalizedMaterializeTaskSlotRequest)
    (taskId : String) (dependsOnJson : JsonText) : AgentQueueTaskRow :=
  { queueItemId := taskId
    workspaceId := request.workspaceId
    title := request.taskSpec.title
    description := request.taskSpec.description
    prompt := request.taskSpec.prompt
    status := request.taskSpec.status
    priority := request.taskSpec.priority
    dependsOn := dependsOnJson
    executionPolicy := "manual"
    executionWorkspace := none
    codexExecutable := none
    sandbox := none
    approvalPolicy := none
    contextJson := none
    assignedExecutorWidgetId := none
    createdAt := d.timestamp 1
    updatedAt := d.timestamp 1 }

/-! ## The command -/

/-- The task of the slot, and whether it was created just now; or the answer when the task
that is there is another one. -/
def materializedTask (d : Draws) (request : NormalizedMaterializeTaskSlotRequest)
    (plan : TaskSlotPlan) :
    Sqlite (Except QueueWorkflowMaterializeTaskSlotResult (AgentQueueTaskRow × Bool)) := do
  let dependsOnJson := dependenciesJson plan.resolved.dependencyTaskIds
  let existing ← query fun s => s.getAgentQueueTaskById plan.taskId
  match existing with
  | some existing =>
      if existing.workspaceId ≠ request.workspaceId then
        pure (.error (materializeConflict plan.run (slotConflict request
          "workflow_task_id_workspace_conflict"
          "Deterministic Queue workflow task id already belongs to a different workspace."
          (some existing.workspaceId) (some request.workspaceId))))
      else
        match validateExistingMaterializedTask existing request dependsOnJson with
        | some blocker => pure (.error (materializeBlocked plan.run
            (some (agentQueueTaskSummary existing)) none blocker))
        | none => pure (.ok (existing, false))
  | none => do
      let task ← execute fun s =>
        s.createAgentQueueTask (materializedTaskRow d request plan.taskId dependsOnJson)
      pure (.ok (task, true))

/-- The action of a slot. -/
def createTaskActionRow (d : Draws) (request : NormalizedMaterializeTaskSlotRequest)
    (plan : TaskSlotPlan) : AgentQueueWorkflowActionRow :=
  { actionId := d.placeholderId "queue-workflow-action-" 0
    workflowRunId := request.workflowRunId
    workspaceId := request.workspaceId
    stepId := createTaskStepId
    actionType := createTaskActionType
    idempotencyKey := request.actionIdempotencyKey
    status := QueueWorkflowActionStatus.completed.asStr
    targetRefsJson := some (.value plan.targetRefs)
    resultRefsJson := some (.value plan.resultRefs)
    blockerCode := none
    blockerMessage := none
    attemptCount := 1
    startedAt := some (d.timestamp 1)
    completedAt := some (d.timestamp 1)
    createdAt := d.timestamp 1
    updatedAt := d.timestamp 1 }

/-- A materialization keeps the status and the phase of its run. -/
def slotBindingsUpdate (d : Draws) (plan : TaskSlotPlan) : AgentQueueWorkflowRunReportUpdate :=
  { status := plan.run.status
    phase := none
    currentStep := none
    pauseReason := none
    blockerReason := none
    variablesJson := none
    slotBindingsJson := some plan.slotBindingsJson
    mutationRefsJson := none
    idempotencyKeysJson := none
    actionLogSummaryJson := none
    updatedAt := d.timestamp 1
    completedAt := none }

/-- The writes of a request that passed its checks. -/
def materializePlannedSlot (d : Draws) (request : NormalizedMaterializeTaskSlotRequest)
    (plan : TaskSlotPlan) : Sqlite QueueWorkflowMaterializeTaskSlotResult := do
  validateCreateDependencies request.workspaceId plan.resolved.dependencyTaskIds
  let found ← materializedTask d request plan
  match found with
  | .error answer => pure answer
  | .ok (task, wasCreated) => do
      let action ← execute fun s =>
        s.insertAgentQueueWorkflowAction (createTaskActionRow d request plan)
      let updated ← execute fun s => s.updateAgentQueueWorkflowRunReport request.workspaceId
        request.workflowRunId (slotBindingsUpdate d plan)
      let updatedRun ← rowOrNoRows updated
      execute fun s => s.touchWorkspace request.workspaceId (d.timestamp 2)
      pure {
        status := if wasCreated then .created else .reused
        workflowRun := some updatedRun
        task := some (agentQueueTaskSummary task)
        action := some action
        binding := some plan.binding
        blocker := none
        conflict := none }

/-- The transaction of a materialization. -/
def materializeTaskSlotInStore (d : Draws) (request : NormalizedMaterializeTaskSlotRequest) :
    Sqlite QueueWorkflowMaterializeTaskSlotResult := do
  let plan ← query fun s => s.planTaskSlot d request
  match plan with
  | .error answer => pure answer
  | .ok plan => materializePlannedSlot d request plan

/-- The command that makes the task of a slot. -/
def materializeAgentQueueWorkflowTaskSlot (d : Draws)
    (request : QueueWorkflowMaterializeTaskSlotRequest) :
    Service QueueWorkflowMaterializeTaskSlotResult :=
  match normalizeMaterializeTaskSlotRequest request with
  | .error blocker => pure (materializeInvalidInput none blocker)
  | .ok request => withImmediateTransaction mapStorageAgentQueueTaskError
      (materializeTaskSlotInStore d request)

end HobitQueue
