import HobitQueue.Workflow.Setup

/-!
# Promotion of a task slot

A slot with run settings is promoted: its draft task is queued once, an action records it,
and the binding of the slot says so with every call. The settings of the binding must still
be those of the task.
-/

namespace HobitQueue

open Concurrent StoreProg

def promoteTaskActionType : String := "promote_task"
def promoteTaskStepId : String := "promote_task"

structure QueueWorkflowPromoteTaskSlotRequest where
  workspaceId : String
  workflowRunId : String
  slot : String
  taskId : Option String
  taskSpecHash : String
  settingsHash : String
  actorId : Option String
  actionIdempotencyKey : Option String

inductive QueueWorkflowPromoteTaskSlotStatus where
  | promoted | reused | conflict | blocked | notFound | invalidInput
  deriving DecidableEq, Repr

structure QueueWorkflowPromoteTaskSlotBindingSummary where
  slot : String
  taskId : String
  taskSpecHash : String
  settingsHash : String
  promoted : Bool
  taskStatus : String
  promoteActionId : Option String
  promoteActionIdempotencyKey : String
  deriving DecidableEq

structure QueueWorkflowPromoteTaskSlotResult where
  status : QueueWorkflowPromoteTaskSlotStatus
  workflowRun : Option AgentQueueWorkflowRunRow
  task : Option AgentQueueTaskSummary
  action : Option AgentQueueWorkflowActionRow
  binding : Option QueueWorkflowPromoteTaskSlotBindingSummary
  blocker : Option QueueWorkflowCommandBlocker
  conflict : Option QueueWorkflowConflict
  deriving DecidableEq

/-! ## The request -/

structure NormalizedPromoteTaskSlotRequest extends WorkflowRunRef where
  slot : String
  taskId : Option String
  taskSpecHash : String
  settingsHash : String
  actorId : Option String
  actionIdempotencyKey : String

/-- The request to promote a slot, checked. -/
def normalizePromoteTaskSlotRequest (request : QueueWorkflowPromoteTaskSlotRequest) :
    Except QueueWorkflowCommandBlocker NormalizedPromoteTaskSlotRequest := do
  let workspaceId ← requiredSetupField request.workspaceId "workspaceId"
  let workflowRunId ← requiredSetupField request.workflowRunId "workflowRunId"
  let slot ← normalizeSetupSlot request.slot "slot"
  let taskSpecHash ← requiredSetupField request.taskSpecHash "taskSpecHash"
  let settingsHash ← requiredSetupField request.settingsHash "settingsHash"
  let actionIdempotencyKey := workflowRunId ++ ":" ++ promoteTaskActionType ++ ":" ++ slot ++
    ":" ++ taskSpecHash ++ ":" ++ settingsHash
  refuseIf ((Text.optionalTrimmed request.actionIdempotencyKey).any (· != actionIdempotencyKey))
    (workflowBlocker "invalid_action_idempotency_key" ("Queue workflow promote idempotency " ++
      "key must be workflowRunId:promote_task:slot:taskSpecHash:settingsHash.")
      (some "actionIdempotencyKey"))
  pure {
    workspaceId := workspaceId
    workflowRunId := workflowRunId
    slot := slot
    taskId := Text.optionalTrimmed request.taskId
    taskSpecHash := taskSpecHash
    settingsHash := settingsHash
    actorId := Text.optionalTrimmed request.actorId
    actionIdempotencyKey := actionIdempotencyKey }

/-! ## Answers -/

def promoteInvalidInput (run : Option AgentQueueWorkflowRunRow)
    (task : Option AgentQueueTaskSummary) (action : Option AgentQueueWorkflowActionRow)
    (blocker : QueueWorkflowCommandBlocker) : QueueWorkflowPromoteTaskSlotResult :=
  { status := .invalidInput
    workflowRun := run
    task := task
    action := action
    binding := none
    blocker := some blocker
    conflict := none }

def promoteNotFound : QueueWorkflowPromoteTaskSlotResult :=
  { status := .notFound
    workflowRun := none
    task := none
    action := none
    binding := none
    blocker := some (workflowBlocker "workflow_run_not_found"
      "Queue workflow run was not found for task promotion." (some "workflowRunId"))
    conflict := none }

def promoteBlocked (run : AgentQueueWorkflowRunRow) (task : Option AgentQueueTaskSummary)
    (action : Option AgentQueueWorkflowActionRow) (blocker : QueueWorkflowCommandBlocker) :
    QueueWorkflowPromoteTaskSlotResult :=
  { status := .blocked
    workflowRun := some run
    task := task
    action := action
    binding := none
    blocker := some blocker
    conflict := none }

def promoteConflictResult (run : AgentQueueWorkflowRunRow) (task : Option AgentQueueTaskSummary)
    (action : Option AgentQueueWorkflowActionRow) (conflict : QueueWorkflowConflict) :
    QueueWorkflowPromoteTaskSlotResult :=
  { status := .conflict
    workflowRun := some run
    task := task
    action := action
    binding := none
    blocker := none
    conflict := some conflict }

def promoteConflict (request : NormalizedPromoteTaskSlotRequest) (code message : String)
    (existingHash requestedHash : Option String) : QueueWorkflowConflict :=
  { conflictCode := code
    conflictMessage := message
    existingWorkflowRunId := some request.workflowRunId
    existingRequestHash := existingHash
    requestedRequestHash := requestedHash.or (some request.settingsHash) }

/-! ## The settings of a binding -/

/-- A text field of an object that may be absent or blank. -/
def optionalStringField (members : List (String × Json)) (field : String) : Option String :=
  jsonStringField (.obj members) field

/-- The target that settings in a binding name; without one they name an executor. -/
def executionTargetFromBoundRunSettings (settings : List (String × Json)) :
    Option CanonicalQueueWorkflowExecutionTarget :=
  match (settings.lookup "executionTarget").bind Json.asObject with
  | some target =>
      match optionalStringField target "kind", optionalStringField target "providerId" with
      | some kind, some providerId =>
          if providerId ≠ "codex" then none
          else
            match kind with
            | "queue_local" =>
                some (.queueLocal providerId
                  (optionalStringField target "queueOwnerWidgetInstanceId"))
            | "agent_executor" =>
                (optionalStringField target "executorWidgetId").map (.agentExecutor providerId)
            | _ => none
      | _, _ => none
  | none => (optionalStringField settings "executorWidgetId").map (.agentExecutor "codex")

/-- The settings that a binding holds. -/
def runSettingsFromBinding (binding : Json) : Option CanonicalQueueWorkflowRunSettings := do
  let settings ← (binding.field "runSettings").bind Json.asObject
  let executionTarget ← executionTargetFromBoundRunSettings settings
  let executionWorkspace ← optionalStringField settings "executionWorkspace"
  let codexExecutable ← optionalStringField settings "codexExecutable"
  let sandbox ← optionalStringField settings "sandbox"
  let approvalPolicy ← optionalStringField settings "approvalPolicy"
  let executionPolicy ← optionalStringField settings "executionPolicy"
  pure {
    executionWorkspace := executionWorkspace
    codexExecutable := codexExecutable
    sandbox := sandbox
    approvalPolicy := approvalPolicy
    executionPolicy := executionPolicy
    executionTarget := executionTarget }

/-- What differs between the settings of a binding, the task and the request. -/
def durablePromoteSettingsMismatch (task : AgentQueueTaskRow) (binding : Json)
    (request : NormalizedPromoteTaskSlotRequest) : Option QueueWorkflowCommandBlocker :=
  match runSettingsFromBinding binding with
  | none => some (workflowBlocker "run_settings_binding_missing"
      "Workflow slot binding is missing the bounded runSettings snapshot." (some "runSettings"))
  | some settings =>
      if settings.executorWidgetId ≠ task.assignedExecutorWidgetId.getD "" then
        some (workflowBlocker "executor_widget_mismatch"
          "Workflow slot executorWidgetId does not match durable task assignment."
          (some "executorWidgetId"))
      else if workflowRunSettingsHash settings ≠ request.settingsHash then
        some (workflowBlocker "settings_hash_mismatch"
          "Workflow slot settingsHash does not match durable task run settings."
          (some "settingsHash"))
      else durableSettingsMismatch task settings

/-! ## Checks against the store -/

def promoteTargetRefsJson (request : NormalizedPromoteTaskSlotRequest) (taskId : String) : Json :=
  .obj [("settingsHash", .str request.settingsHash),
    ("slot", .str request.slot),
    ("taskId", .str taskId),
    ("taskSpecHash", .str request.taskSpecHash),
    ("workflowRunId", .str request.workflowRunId)]

def promoteResultRefsJson (taskId taskState status : String) : Json :=
  .obj [("result", .str status), ("taskId", .str taskId), ("taskState", .str taskState)]

/-- What the binding of the slot says against the request; else the task it names. -/
def checkPromotionBinding (request : NormalizedPromoteTaskSlotRequest)
    (run : AgentQueueWorkflowRunRow) (slotBindings : List (String × Json)) :
    Except QueueWorkflowPromoteTaskSlotResult (Json × String) :=
  match slotBindings.lookup request.slot with
  | none => .error (promoteBlocked run none none (workflowBlocker "slot_binding_missing"
      "Queue workflow slot must be materialized before promotion." (some "slot")))
  | some binding =>
      match jsonStringField binding "taskId" with
      | none => .error (promoteBlocked run none none (workflowBlocker
          "slot_binding_missing_task_id" "Queue workflow slot binding is missing taskId."
          (some "slotBindings.taskId")))
      | some taskId => do
          refuseIf (request.taskId.any (· != taskId)) (promoteBlocked run none none
            (workflowBlocker "task_id_mismatch"
              "Provided taskId does not match the materialized workflow slot binding."
              (some "taskId")))
          let specHash := jsonStringField binding "taskSpecHash"
          refuseIf (specHash.any (· != request.taskSpecHash)) (promoteConflictResult run none none
            (promoteConflict request "task_spec_hash_conflict"
              "Provided taskSpecHash does not match the materialized slot binding." specHash
              (some request.taskSpecHash)))
          let settingsHash := jsonStringField binding "settingsHash"
          refuseIf (settingsHash.any (· != request.settingsHash))
            (promoteConflictResult run none none (promoteConflict request "settings_hash_conflict"
              "Provided settingsHash does not match the workflow slot settings binding."
              settingsHash (some request.settingsHash)))
          refuseIf settingsHash.isNone (promoteBlocked run none none (workflowBlocker
            "run_settings_missing"
            "Queue workflow slot must have applied run settings before promotion."
            (some "settingsHash")))
          pure (binding, taskId)

/-- A task is promoted with the settings of its slot, while it is a draft or queued. -/
def checkPromotableTask (request : NormalizedPromoteTaskSlotRequest)
    (run : AgentQueueWorkflowRunRow) (binding : Json) (task : AgentQueueTaskRow) :
    Except QueueWorkflowPromoteTaskSlotResult Unit :=
  match durablePromoteSettingsMismatch task binding request with
  | some blocker => .error (promoteBlocked run (some (agentQueueTaskSummary task)) none blocker)
  | none => refuseIf (task.status ∉ ["draft", "queued", "ready"] : Bool)
      (promoteBlocked run (some (agentQueueTaskSummary task)) none (workflowBlocker
        "task_not_promotable"
        "Workflow task promotion only accepts draft, queued, or ready tasks."
        (some "task.status")))

def checkExistingPromotion (request : NormalizedPromoteTaskSlotRequest)
    (run : AgentQueueWorkflowRunRow) (task : AgentQueueTaskRow) (targetRefs : Json)
    (existing : Option AgentQueueWorkflowActionRow) :
    Except QueueWorkflowPromoteTaskSlotResult Unit :=
  match existing with
  | none => .ok ()
  | some action => do
      refuseIf (!workflowActionTargetMatches action request.toWorkflowRunRef promoteTaskStepId
          promoteTaskActionType targetRefs)
        (promoteConflictResult run (some (agentQueueTaskSummary task)) (some action)
          (promoteConflict request "promote_task_action_ref_conflict" ("A Queue workflow " ++
            "promote_task action already exists for this idempotency key with different typed " ++
            "refs.") none none))
      refuseIf (action.status != QueueWorkflowActionStatus.completed.asStr)
        (promoteBlocked run (some (agentQueueTaskSummary task)) (some action) (workflowBlocker
          "promote_task_action_not_completed" ("Existing Queue workflow promote_task action is " ++
            "not completed and will not be retried blindly.") none))

/-- What a request comes to before it writes. -/
structure PromotionPlan where
  run : AgentQueueWorkflowRunRow
  slotBindings : List (String × Json)
  binding : Json
  taskId : String
  task : AgentQueueTaskRow
  existingAction : Option AgentQueueWorkflowActionRow

/-- What a request comes to in a store, before it writes. -/
def SqliteStore.planPromotion (s : SqliteStore) (request : NormalizedPromoteTaskSlotRequest) :
    Except QueueWorkflowPromoteTaskSlotResult PromotionPlan :=
  match s.getAgentQueueWorkflowRun request.workspaceId request.workflowRunId with
  | none => .error promoteNotFound
  | some run => do
      refuseIf (terminalWorkflowStatus run.status) (promoteBlocked run none none
        (workflowBlocker "workflow_run_terminal" ("Queue workflow tasks cannot be promoted " ++
          "after the workflow is terminal.") none))
      let slotBindings ← (materializedSlotBindings run.slotBindingsJson).mapError
        (promoteInvalidInput (some run) none none)
      let (binding, taskId) ← checkPromotionBinding request run slotBindings
      match s.sameSlotActionConflict request.toWorkflowRunRef promoteTaskActionType request.slot
          "settingsHash" request.settingsHash "promote_task_action_ref_conflict" ("A Queue " ++
            "workflow promote_task action already exists for this slot with different typed " ++
            "refs.") with
      | some conflict => .error (promoteConflictResult run none none conflict)
      | none =>
          match s.getAgentQueueTask request.workspaceId taskId with
          | none => .error (promoteBlocked run none none (workflowBlocker "bound_task_missing"
              "Materialized Queue task was not found in the workflow workspace."
              (some "taskId")))
          | some task => do
              checkPromotableTask request run binding task
              let existingAction := s.getAgentQueueWorkflowActionByIdempotencyKey
                request.workflowRunId request.actionIdempotencyKey
              checkExistingPromotion request run task (promoteTargetRefsJson request taskId)
                existingAction
              pure {
                run := run
                slotBindings := slotBindings
                binding := binding
                taskId := taskId
                task := task
                existingAction := existingAction }

/-! ## The command -/

/-- The action a promotion records. -/
def promoteActionRow (d : Draws) (request : NormalizedPromoteTaskSlotRequest)
    (taskId taskState promoteStatus : String) : AgentQueueWorkflowActionRow :=
  { actionId := d.placeholderId "queue-workflow-action-" 0
    workflowRunId := request.workflowRunId
    workspaceId := request.workspaceId
    stepId := promoteTaskStepId
    actionType := promoteTaskActionType
    idempotencyKey := request.actionIdempotencyKey
    status := QueueWorkflowActionStatus.completed.asStr
    targetRefsJson := some (.value (promoteTargetRefsJson request taskId))
    resultRefsJson := some (.value (promoteResultRefsJson taskId taskState promoteStatus))
    blockerCode := none
    blockerMessage := none
    attemptCount := 1
    startedAt := some (d.timestamp 1)
    completedAt := some (d.timestamp 1)
    createdAt := d.timestamp 1
    updatedAt := d.timestamp 1 }

/-- The task of the slot, queued when it is a draft, and what became of it. -/
def promotedTask (d : Draws) (request : NormalizedPromoteTaskSlotRequest)
    (plan : PromotionPlan) : Sqlite (AgentQueueTaskRow × String) :=
  if plan.task.status = "draft" then do
    let updated ← execute fun s => s.updateAgentQueueTaskStatus request.workspaceId plan.taskId
      "queued" (d.timestamp 1)
    let task ← rowOrNoRows updated
    pure (task, "promoted")
  else pure (plan.task, "already_promoted")

/-- What a promotion made of the slot. -/
structure PromotedSlot where
  task : AgentQueueTaskRow
  action : AgentQueueWorkflowActionRow
  status : QueueWorkflowPromoteTaskSlotStatus
  promoteStatus : String

/-- The task and the action of the slot; an action that is there already is reused. -/
def promotedSlot (d : Draws) (request : NormalizedPromoteTaskSlotRequest)
    (plan : PromotionPlan) : Sqlite PromotedSlot :=
  match plan.existingAction with
  | some action => pure ⟨plan.task, action, .reused, "reused"⟩
  | none => do
      let (task, promoteStatus) ← promotedTask d request plan
      let action ← execute fun s => s.insertAgentQueueWorkflowAction
        (promoteActionRow d request plan.taskId task.status promoteStatus)
      pure ⟨task, action, .promoted, promoteStatus⟩

def promotionBindingSummary (request : NormalizedPromoteTaskSlotRequest)
    (taskId taskStatus actionId : String) : QueueWorkflowPromoteTaskSlotBindingSummary :=
  { slot := request.slot
    taskId := taskId
    taskSpecHash := request.taskSpecHash
    settingsHash := request.settingsHash
    promoted := true
    taskStatus := taskStatus
    promoteActionId := some actionId
    promoteActionIdempotencyKey := request.actionIdempotencyKey }

/-- The members that a promotion writes into a binding. -/
def promotionMembers (request : NormalizedPromoteTaskSlotRequest)
    (summary : QueueWorkflowPromoteTaskSlotBindingSummary) (promoteStatus promotedAt : String) :
    List (String × Json) :=
  presentMembers [
    ("promoted", some (.bool true)),
    ("promoteStatus", some (.str promoteStatus)),
    ("promotedTaskStatus", some (.str summary.taskStatus)),
    ("promotedAt", some (.str promotedAt)),
    ("promoteActionId", summary.promoteActionId.map .str),
    ("promoteActionIdempotencyKey", some (.str summary.promoteActionIdempotencyKey)),
    ("promotedByActorId", request.actorId.map .str)]

def applyPromoteToBinding (binding : Json) (request : NormalizedPromoteTaskSlotRequest)
    (summary : QueueWorkflowPromoteTaskSlotBindingSummary) (promoteStatus promotedAt : String) :
    Json :=
  .obj (Json.insertMembers (promotionMembers request summary promoteStatus promotedAt)
    (bindingMembers binding))

/-- The bindings of the run with the promotion of the slot. -/
def promotedBindings (d : Draws) (request : NormalizedPromoteTaskSlotRequest)
    (plan : PromotionPlan) (taskStatus actionId promoteStatus : String) : Json :=
  .obj (Json.insertMember request.slot (applyPromoteToBinding plan.binding request
    (promotionBindingSummary request plan.taskId taskStatus actionId) promoteStatus
    (d.timestamp 1)) plan.slotBindings)

/-- The writes of a request that passed its checks. A binding that is too large leaves the
task and the action written. -/
def applyPlannedPromotion (d : Draws) (request : NormalizedPromoteTaskSlotRequest)
    (plan : PromotionPlan) : Sqlite QueueWorkflowPromoteTaskSlotResult := do
  let slot ← promotedSlot d request plan
  let slotBindingsValue := promotedBindings d request plan slot.task.status slot.action.actionId
    slot.promoteStatus
  if maxWorkflowSlotBindingsJsonBytes < utf8Length slotBindingsValue.canonicalString then
    pure (promoteInvalidInput (some plan.run) (some (agentQueueTaskSummary slot.task))
      (some slot.action) (workflowBlocker "slot_bindings_too_large"
        "Queue workflow slot bindings exceed the configured byte limit." (some "slotBindings")))
  else do
    let updated ← execute fun s => s.updateAgentQueueWorkflowRunReport request.workspaceId
      request.workflowRunId
      (bindingsOnlyUpdate plan.run.status (.value slotBindingsValue) (d.timestamp 1))
    let updatedRun ← rowOrNoRows updated
    execute fun s => s.touchWorkspace request.workspaceId (d.timestamp 2)
    pure {
      status := slot.status
      workflowRun := some updatedRun
      task := some (agentQueueTaskSummary slot.task)
      action := some slot.action
      binding := some (promotionBindingSummary request plan.taskId slot.task.status
        slot.action.actionId)
      blocker := none
      conflict := none }

/-- The transaction of a promotion. -/
def promoteTaskSlotInStore (d : Draws) (request : NormalizedPromoteTaskSlotRequest) :
    Sqlite QueueWorkflowPromoteTaskSlotResult := do
  let plan ← query fun s => s.planPromotion request
  match plan with
  | .error answer => pure answer
  | .ok plan => applyPlannedPromotion d request plan

/-- The command that promotes the task of a slot. -/
def promoteAgentQueueWorkflowTaskSlot (d : Draws)
    (request : QueueWorkflowPromoteTaskSlotRequest) :
    Service QueueWorkflowPromoteTaskSlotResult :=
  match normalizePromoteTaskSlotRequest request with
  | .error blocker => pure (promoteInvalidInput none none none blocker)
  | .ok request => withImmediateTransaction mapStorageAgentQueueTaskError
      (promoteTaskSlotInStore d request)

end HobitQueue
