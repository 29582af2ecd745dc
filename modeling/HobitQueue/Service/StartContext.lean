import HobitQueue.Service.Context
import HobitQueue.Service.StartGate

/-!
# The workflow context of a start

A start may carry a workflow context: the workflow run, the idempotency key of
its action, and hashes of the settings and the target the operator confirmed. The
refs of the target are stored with the action and compared when the same key
comes again.
-/

namespace HobitQueue

def queueWorkerStartActionType : String := "start_worker"
def queueWorkerStartStepId : String := "start_worker"
def queueWorkerStartConfirmationToken : String := "operator-confirmed"
def queueLocalBackendWorkbenchId : String := "queue_local_backend"

/-! ## Input -/

structure QueueWorkerStartContext where
  workflowRunId : String
  workflowActionId : Option String
  actionIdempotencyKey : Option String
  slot : Option String
  taskId : String
  executorWidgetId : Option String
  settingsHash : String
  executionTargetHash : Option String
  expectedQueueControlVersion : Option ℤ
  actorId : Option String
  confirmationToken : Option String

structure StartAssignedAgentQueueTaskInput where
  workspaceId : String
  queueItemId : String
  queueOwnerWidgetInstanceId : Option String
  codexExecutable : String
  repoRoot : String
  sandbox : String
  approvalPolicy : String
  timeoutMs : Option ℕ
  stdoutCapBytes : Option ℕ
  stderrCapBytes : Option ℕ
  workflowStartContext : Option QueueWorkerStartContext

structure NormalizedQueueWorkerStartContext where
  workflowRunId : String
  workflowActionId : Option String
  actionIdempotencyKey : String
  slot : Option String
  taskId : String
  executorWidgetId : Option String
  settingsHash : String
  executionTargetHash : Option String
  expectedQueueControlVersion : Option ℤ
  actorId : Option String
  confirmationToken : String

/-- The checked input of a start. -/
structure NormalizedStartAssignedAgentQueueTaskInput where
  workspaceId : String
  queueItemId : String
  queueOwnerWidgetInstanceId : Option String
  codexExecutable : String
  repoRoot : String
  sandbox : String
  approvalPolicy : String
  timeoutMs : Option ℕ
  stdoutCapBytes : Option ℕ
  stderrCapBytes : Option ℕ
  workflowStartContext : Option NormalizedQueueWorkerStartContext

def workflowStartIdempotencyKey (workflowRunId taskId : String)
    (executorWidgetId executionTargetHash : Option String) (settingsHash : String) : String :=
  let targetRef :=
    (executionTargetHash.or executorWidgetId).getD queueLocalBackendExecutionTargetId
  workflowRunId ++ ":start_worker:" ++ taskId ++ ":" ++ targetRef ++ ":" ++ settingsHash

/-- The start context of a workflow, with its ids trimmed. -/
def normalizeQueueWorkerStartContext (context : QueueWorkerStartContext)
    (inputQueueItemId : String) :
    Except WorkspaceServiceError NormalizedQueueWorkerStartContext := do
  let workflowRunId ← requiredInput context.workflowRunId "workflow run id"
  let workflowActionId := Text.optionalTrimmed context.workflowActionId
  let explicitIdempotencyKey := Text.optionalTrimmed context.actionIdempotencyKey
  if workflowActionId.isNone && explicitIdempotencyKey.isNone then
    .error (.invalidInput
      "workflow worker start requires workflowActionId or actionIdempotencyKey")
  else
    let taskId ← requiredInput context.taskId "workflow worker start task id"
    if taskId ≠ inputQueueItemId then
      .error (.invalidInput "workflow worker start taskId must match queueItemId")
    else
      let executorWidgetId := Text.optionalTrimmed context.executorWidgetId
      let settingsHash ←
        requiredInput context.settingsHash "workflow worker start settings hash"
      let executionTargetHash := Text.optionalTrimmed context.executionTargetHash
      let confirmationToken ← requiredInput (context.confirmationToken.getD "")
        "workflow worker start confirmation token"
      if confirmationToken ≠ queueWorkerStartConfirmationToken then
        .error (.invalidInput ("workflow worker start confirmation token does not match " ++
          "the required operator confirmation"))
      else if context.expectedQueueControlVersion.any (· < 0) then
        .error (.invalidInput "expected queue control version must not be negative")
      else if executorWidgetId.isNone && executionTargetHash.isNone then
        .error (.invalidInput
          "workflow worker start requires executorWidgetId or executionTargetHash")
      else
        .ok {
          workflowRunId := workflowRunId
          workflowActionId := workflowActionId
          actionIdempotencyKey := explicitIdempotencyKey.getD
            (workflowStartIdempotencyKey workflowRunId taskId executorWidgetId
              executionTargetHash settingsHash)
          slot := Text.optionalTrimmed context.slot
          taskId := taskId
          executorWidgetId := executorWidgetId
          settingsHash := settingsHash
          executionTargetHash := executionTargetHash
          expectedQueueControlVersion := context.expectedQueueControlVersion
          actorId := Text.optionalTrimmed context.actorId
          confirmationToken := confirmationToken }

def normalizeOptionalQueueWorkerStartContext (context : Option QueueWorkerStartContext)
    (inputQueueItemId : String) :
    Except WorkspaceServiceError (Option NormalizedQueueWorkerStartContext) :=
  match context with
  | none => .ok none
  | some context => (normalizeQueueWorkerStartContext context inputQueueItemId).map some

def normalizeStartAssignedAgentQueueTaskInput (input : StartAssignedAgentQueueTaskInput) :
    Except WorkspaceServiceError NormalizedStartAssignedAgentQueueTaskInput :=
  if input.repoRoot = "" then .error (.invalidInput "repo root must not be empty")
  else do
    let queueItemId ← requiredInput input.queueItemId "queue item id"
    let context ←
      normalizeOptionalQueueWorkerStartContext input.workflowStartContext queueItemId
    let workspaceId ← requiredInput input.workspaceId "workspace id"
    let codexExecutable ← requiredInput input.codexExecutable "codex executable"
    let sandbox ← requiredInput input.sandbox "direct work sandbox"
    let approvalPolicy ← requiredInput input.approvalPolicy "direct work approval policy"
    pure {
      workspaceId := workspaceId
      queueItemId := queueItemId
      queueOwnerWidgetInstanceId := Text.optionalTrimmed input.queueOwnerWidgetInstanceId
      codexExecutable := codexExecutable
      repoRoot := input.repoRoot
      sandbox := sandbox
      approvalPolicy := approvalPolicy
      timeoutMs := input.timeoutMs
      stdoutCapBytes := input.stdoutCapBytes
      stderrCapBytes := input.stderrCapBytes
      workflowStartContext := context }

/-! ## Hashes -/

/-- The 64-bit FNV-1a hash of the UTF-8 bytes of a text. -/
def fnv1a64 (input : String) : ℕ :=
  (input.toList.flatMap String.utf8EncodeChar).foldl
    (fun hash byte => (hash ^^^ byte.toNat) * 0x100000001b3 % 2 ^ 64) 0xcbf29ce484222325

/-- Sixteen hexadecimal digits. -/
def hex16 (n : ℕ) : String :=
  let digits := Nat.toDigits 16 n
  String.ofList (List.replicate (16 - digits.length) '0' ++ digits)

/-- The fields of a snapshot, each with its length and the length of its name. -/
def canonicalFields (fields : List (String × String)) : String :=
  "|".intercalate (fields.map fun (key, value) =>
    Nat.repr key.utf8ByteSize ++ ":" ++ key ++ Nat.repr value.utf8ByteSize ++ ":" ++ value)

/-- The settings of a run, with their hash. -/
structure QueueWorkerStartSettingsSnapshot where
  executionWorkspace : String
  codexExecutable : String
  sandbox : String
  approvalPolicy : String
  executionPolicy : String
  executionTargetKind : String
  providerId : String
  queueOwnerWidgetInstanceId : Option String
  executorWidgetId : String

def QueueWorkerStartSettingsSnapshot.stableHash (snapshot : QueueWorkerStartSettingsSnapshot) :
    String :=
  "queue-settings-fnv1a64:" ++ hex16 (fnv1a64 (canonicalFields [
    ("approval_policy", snapshot.approvalPolicy),
    ("codex_executable", snapshot.codexExecutable),
    ("execution_policy", snapshot.executionPolicy),
    ("execution_target_kind", snapshot.executionTargetKind),
    ("execution_workspace", snapshot.executionWorkspace),
    ("executor_widget_id", snapshot.executorWidgetId),
    ("provider_id", snapshot.providerId),
    ("queue_owner_widget_instance_id",
      snapshot.queueOwnerWidgetInstanceId.getD "<queue-owner:null>"),
    ("sandbox", snapshot.sandbox)]))

structure QueueExecutionTargetSnapshot where
  executionTargetKind : String
  providerId : String
  queueOwnerWidgetInstanceId : Option String
  executorWidgetId : Option String

def QueueExecutionTargetSnapshot.stableHash (snapshot : QueueExecutionTargetSnapshot) : String :=
  "queue-execution-target-fnv1a64:" ++ hex16 (fnv1a64 (canonicalFields [
    ("execution_target_kind", snapshot.executionTargetKind),
    ("executor_widget_id", snapshot.executorWidgetId.getD "<executor:null>"),
    ("provider_id", snapshot.providerId),
    ("queue_owner_widget_instance_id",
      snapshot.queueOwnerWidgetInstanceId.getD "<queue-owner:null>")]))

/-! ## Target refs -/

/-- The trimmed text of a field, unless it is empty or no text. -/
def jsonStringField (object : Json) (fieldName : String) : Option String :=
  ((object.field fieldName).bind Json.asStr).bind Text.trimmedNonEmpty

structure WorkflowStartBindingRefs where
  slot : Option String
  executionTargetKind : Option String
  providerId : Option String
  queueOwnerWidgetInstanceId : Option String
  executorWidgetId : Option String

/-- The refs without a binding. -/
def WorkflowStartBindingRefs.ofSlot (slot : Option String) : WorkflowStartBindingRefs :=
  ⟨slot, none, none, none, none⟩

/-- `binding` is an object when it is given. -/
def workflowStartBindingRefsFromObject (slot : String) (binding : Option Json) :
    WorkflowStartBindingRefs :=
  { slot := some slot
    executionTargetKind := binding.bind (jsonStringField · "executionTargetKind")
    providerId := binding.bind (jsonStringField · "providerId")
    queueOwnerWidgetInstanceId := binding.bind (jsonStringField · "queueOwnerWidgetInstanceId")
    executorWidgetId := binding.bind (jsonStringField · "executorWidgetId") }

def isObject (v : Json) : Bool := v.asObject.isSome

/-- The text of a field, untrimmed. -/
def rawStringField (object : Json) (fieldName : String) : Option String :=
  (object.field fieldName).bind Json.asStr

/-- The slot bindings of a workflow run, when they are an object. -/
def slotBindings (run : AgentQueueWorkflowRunRow) : Option (List (String × Json)) :=
  (run.slotBindingsJson.bind JsonText.parse).bind Json.asObject

/-- The refs of the binding of a slot, or of the only slot bound to the task. -/
def bindingRefs (context : NormalizedQueueWorkerStartContext)
    (bindings : List (String × Json)) : WorkflowStartBindingRefs :=
  match context.slot with
  | some slot =>
      let binding := (bindings.lookup slot).filter isObject
      if (binding.bind (rawStringField · "taskId")).all (· == context.taskId) then
        workflowStartBindingRefsFromObject slot binding
      else WorkflowStartBindingRefs.ofSlot (some slot)
  | none =>
      match bindings.filter fun entry =>
          isObject entry.2 && rawStringField entry.2 "taskId" == some context.taskId with
      | [(slot, binding)] => workflowStartBindingRefsFromObject slot (some binding)
      | _ => WorkflowStartBindingRefs.ofSlot none

namespace SqliteStore

variable (s : SqliteStore)

def workflowStartBindingRefs (input : NormalizedStartAssignedAgentQueueTaskInput)
    (context : NormalizedQueueWorkerStartContext) : WorkflowStartBindingRefs :=
  match s.getAgentQueueWorkflowRun input.workspaceId context.workflowRunId with
  | none => WorkflowStartBindingRefs.ofSlot none
  | some run =>
      match slotBindings run with
      | none => WorkflowStartBindingRefs.ofSlot context.slot
      | some bindings => bindingRefs context bindings

end SqliteStore

/-- The kind of target a start has when neither its settings nor its binding say so. -/
def inferredExecutionTargetKind (input : NormalizedStartAssignedAgentQueueTaskInput)
    (context : NormalizedQueueWorkerStartContext) : Option String :=
  if input.queueOwnerWidgetInstanceId.isSome then some "queue_local"
  else if context.executorWidgetId.isNone && context.executionTargetHash.isSome then
    some "queue_local"
  else if context.executorWidgetId.isSome then some "agent_executor"
  else none

/-- The members of an object that are there. -/
def presentMembers (members : List (String × Option Json)) : List (String × Json) :=
  members.filterMap fun (key, value) => value.map (key, ·)

/-- The refs, with the members in key order. -/
def SqliteStore.workflowStartTargetRefsJson (s : SqliteStore)
    (input : NormalizedStartAssignedAgentQueueTaskInput)
    (context : NormalizedQueueWorkerStartContext)
    (settings : Option QueueWorkerStartSettingsSnapshot) : Json :=
  let binding := s.workflowStartBindingRefs input context
  let slot := context.slot.or binding.slot
  let kind := ((settings.map (·.executionTargetKind)).or binding.executionTargetKind).or
    (inferredExecutionTargetKind input context)
  let provider := ((settings.map (·.providerId)).or binding.providerId).or
    (kind.map fun _ => "codex")
  let queueOwner := ((settings.bind (·.queueOwnerWidgetInstanceId)).or
    binding.queueOwnerWidgetInstanceId).or input.queueOwnerWidgetInstanceId
  let executor :=
    match kind with
    | some "queue_local" => none
    | some "agent_executor" =>
        (context.executorWidgetId.or
          ((settings.map (·.executorWidgetId)).filter (· != ""))).or binding.executorWidgetId
    | _ => context.executorWidgetId.or binding.executorWidgetId
  let targetHash := context.executionTargetHash.or (do
    let kind ← kind
    let provider ← provider
    some (QueueExecutionTargetSnapshot.stableHash
      { executionTargetKind := kind
        providerId := provider
        queueOwnerWidgetInstanceId := queueOwner
        executorWidgetId := if kind = "queue_local" then none else executor }))
  Json.obj (presentMembers [
    ("executionTargetHash", targetHash.map Json.str),
    ("executionTargetKind", kind.map Json.str),
    ("executorWidgetId", executor.map Json.str),
    ("providerId", provider.map Json.str),
    ("queueOwnerWidgetInstanceId", queueOwner.map Json.str),
    ("settingsHash", some (Json.str context.settingsHash)),
    ("slot", slot.map Json.str),
    ("taskId", some (Json.str context.taskId)),
    ("workflowActionId", some ((context.workflowActionId.map Json.str).getD Json.null)),
    ("workflowRunId", some (Json.str context.workflowRunId))])

/-! ## Comparison with a stored action -/

/-- A field that must be the same. -/
def sameField (actual expected : Json) (fieldName : String) : Bool :=
  jsonStringField actual fieldName == jsonStringField expected fieldName

/-- A field that must be the same when the stored refs have it. -/
def agreesWhenStored (actual expected : Json) (fieldName : String) : Bool :=
  (jsonStringField actual fieldName).isNone || sameField actual expected fieldName

/-- The stored refs may lack the target hash when both name the same executor. -/
def targetHashMatches (actual expected : Json) : Bool :=
  agreesWhenStored actual expected "executionTargetHash" &&
    (!((jsonStringField expected "executionTargetHash").isSome &&
        (jsonStringField actual "executionTargetHash").isNone) ||
      ((jsonStringField actual "executorWidgetId").isSome &&
        sameField actual expected "executorWidgetId"))

/-- The stored refs may not lack an executor that is expected. -/
def executorMatches (actual expected : Json) : Bool :=
  agreesWhenStored actual expected "executorWidgetId" &&
    !((jsonStringField expected "executorWidgetId").isSome &&
      (jsonStringField actual "executorWidgetId").isNone)

/-- Whether a stored action has the same target. -/
def workflowStartActionMatchesTarget (action : AgentQueueWorkflowActionRow)
    (workspaceId : String) (targetRefs : Json) : Bool :=
  action.workspaceId == workspaceId && action.stepId == queueWorkerStartStepId &&
    action.actionType == queueWorkerStartActionType &&
    (action.targetRefsJson == some (.value targetRefs) ||
      match action.targetRefsJson.bind JsonText.parse with
      | none => false
      | some actual =>
          isObject actual &&
            (["taskId", "settingsHash"].all (sameField actual targetRefs)) &&
            agreesWhenStored actual targetRefs "workflowRunId" &&
            targetHashMatches actual targetRefs && executorMatches actual targetRefs &&
            (["slot", "executionTargetKind", "providerId", "queueOwnerWidgetInstanceId"].all
              (agreesWhenStored actual targetRefs)))

/-- The run a start action recorded. -/
def workflowActionResultRunId (action : AgentQueueWorkflowActionRow) : Option String :=
  (action.resultRefsJson.bind JsonText.parse).bind (rawStringField · "runId")

def workflowStartResultRefsJson (runId currentRunState : String) : Json :=
  Json.obj [("currentRunState", Json.str currentRunState), ("runId", Json.str runId)]

@[simp] theorem rawStringField_workflowStartResultRefsJson (runId state : String) :
    rawStringField (workflowStartResultRefsJson runId state) "runId" = some runId := rfl

end HobitQueue
