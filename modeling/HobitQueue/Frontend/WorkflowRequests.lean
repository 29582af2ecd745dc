import HobitQueue.Lib.CycleReports
import HobitQueue.Lib.JavaScript
import HobitQueue.Lib.Json

/-!
# Queue workflow requests

An agent asks for a Queue workflow with a grant and inputs that are untrusted JSON. The request
of a dependency smoke either continues a run that has started or starts one, and one that starts
a run lists the templates of its tasks: their slots, texts and the slots they depend on. Each
thing that is wrong is an issue at the path of its field.
-/

namespace HobitQueue.Frontend

open JavaScript

/-! ## Issues and results -/

inductive QueueWorkflowRequestValidationStatus where
  | workflowValidNotExecutable | inputValidationDeferred | invalidWorkflowInput
  | invalidWorkflowGrant | missingRequiredInputs | unsupportedWorkflow
  deriving DecidableEq

inductive QueueWorkflowRequestValidationReasonCode where
  | dependencyCycle | duplicateTaskSlot | inputValidationDeferred | invalidApprovalPolicy
  | invalidRunSettings | invalidSandbox | invalidTaskDependency | invalidTaskSlot
  | invalidWorkflowConstraint | invalidWorkflowGrant | invalidWorkflowInput
  | invalidWorkflowGrantMode | missingGrant | missingRequiredConstraint | missingRequiredInput
  | unsupportedRunSettingsField | unsupportedTaskField | unsupportedWorkflow
  deriving DecidableEq

structure QueueWorkflowRequestValidationIssue where
  fieldPath : String
  message : String
  reasonCode : QueueWorkflowRequestValidationReasonCode
  deriving DecidableEq

/-- The result; one with issues repeats the path, the message and the code of the first. -/
structure QueueWorkflowRequestValidationResult where
  fieldPaths : List String
  issues : List QueueWorkflowRequestValidationIssue
  ok : Bool
  reasons : List String
  status : QueueWorkflowRequestValidationStatus
  firstIssue : Option QueueWorkflowRequestValidationIssue
  workflowId : String

structure QueueWorkflowRequestValidationInput where
  grant : Option Json
  inputs : Option Json
  moduleId : String
  workflowId : String

def issueReason (item : QueueWorkflowRequestValidationIssue) : String :=
  item.fieldPath ++ ": " ++ item.message

def invalidReasonCode (reasonCode : QueueWorkflowRequestValidationReasonCode) :
    QueueWorkflowRequestValidationReasonCode :=
  if reasonCode = .inputValidationDeferred then .invalidWorkflowInput else reasonCode

def statusForIssues (issues : List QueueWorkflowRequestValidationIssue) :
    QueueWorkflowRequestValidationStatus :=
  if issues.any fun item => [.invalidWorkflowGrant, .invalidWorkflowGrantMode,
      .invalidWorkflowConstraint, .missingGrant, .missingRequiredConstraint].contains
        item.reasonCode then .invalidWorkflowGrant
  else if issues.any (·.reasonCode == .missingRequiredInput) then .missingRequiredInputs
  else if issues.any (·.reasonCode == .unsupportedWorkflow) then .unsupportedWorkflow
  else .invalidWorkflowInput

def invalidResult (issues : List QueueWorkflowRequestValidationIssue)
    (status : QueueWorkflowRequestValidationStatus) (workflowId : String) :
    QueueWorkflowRequestValidationResult :=
  let firstIssue := issues.head?.getD
    { fieldPath := "$", message := "Queue workflow request is invalid."
      reasonCode := .invalidWorkflowInput }
  { fieldPaths := issues.map (·.fieldPath)
    issues := issues
    ok := false
    reasons := issues.map issueReason
    status := status
    firstIssue := some
      { firstIssue with reasonCode := invalidReasonCode firstIssue.reasonCode }
    workflowId := workflowId }

def validNotExecutableResult (workflowId : String) : QueueWorkflowRequestValidationResult :=
  { fieldPaths := []
    issues := []
    ok := true
    reasons :=
      ["Queue workflow request validated; supported QueueWorkflowRunner phases can run through " ++
          "the runtime adapter when explicit typed Queue inputs are supplied.",
        "Validation itself does not call Queue capabilities or mutate Queue state.",
        "Runtime workflow integration is limited to typed create/setup/start, worker-evidence, " ++
          "read, review, and finalization ports; validation, Git, rollback, Terminal, and " ++
          "downstream auto-start are not performed."]
    status := .workflowValidNotExecutable
    firstIssue := none
    workflowId := workflowId }

/-! ## Untrusted values -/

/-- A text with something in it but white space. -/
def nonEmptyString : Option Json → Bool
  | some (.str value) => trim value != ""
  | _ => false

/-- `isRecord(value)`, with its members. -/
def recordMembers : Option Json → Option (List (String × Json))
  | some (.obj members) => some members
  | _ => none

/-- One issue unless the condition holds. -/
def issueUnless (condition : Bool) (fieldPath message : String)
    (reasonCode : QueueWorkflowRequestValidationReasonCode) :
    List QueueWorkflowRequestValidationIssue :=
  if condition then [] else [{ fieldPath, message, reasonCode }]

/-- One issue for every member whose name is not supported. -/
def unsupportedFields (supported : List String) (members : List (String × Json))
    (path : String) (message : String → String)
    (reasonCode : QueueWorkflowRequestValidationReasonCode) :
    List QueueWorkflowRequestValidationIssue :=
  members.flatMap fun field =>
    issueUnless (supported.contains field.1) (path ++ "." ++ field.1) (message field.1) reasonCode

/-! ## The grant -/

def acceptanceGrantModes : List String := ["queue_acceptance_smoke", "queue_operator_flow"]

def failureGrantModes : List String := ["queue_failure_smoke", "queue_operator_flow"]

def reviewGrantModes : List String :=
  ["queue_acceptance_smoke", "queue_failure_smoke", "queue_operator_flow"]

def terminalFailureGrantModes : List String := ["queue_failure_smoke", "queue_operator_flow"]

def requiredSafetyConstraints : List String :=
  ["noGit", "noValidationExecution", "noRollback", "noTerminal", "noDelete",
    "noDownstreamAutoStart"]

def constraintIssues (constraints : List (String × Json)) (constraint : String) :
    List QueueWorkflowRequestValidationIssue :=
  match constraints.lookup constraint with
  | none =>
    [{ fieldPath := "$.grant.constraints." ++ constraint
       message := constraint ++ " must be explicitly true for Queue workflow validation."
       reasonCode := .missingRequiredConstraint }]
  | some value =>
    issueUnless (value = .bool true) ("$.grant.constraints." ++ constraint)
      (constraint ++ " must be exactly true for Queue workflow validation.")
      .invalidWorkflowConstraint

/-- A text without white space at its ends, and an empty one for any other value. -/
def trimmedText : Option Json → String
  | some (.str value) => trim value
  | _ => ""

def grantModeIssues (mode : String) (requiredGrantModes : List String) :
    List QueueWorkflowRequestValidationIssue :=
  if mode = "" then
    [{ fieldPath := "$.grant.mode"
       message := "Queue workflow grant mode is required. Allowed modes: " ++
         ", ".intercalate requiredGrantModes ++ "."
       reasonCode := .invalidWorkflowGrantMode }]
  else
    issueUnless (requiredGrantModes.contains mode) "$.grant.mode"
      ("Queue workflow grant mode must be one of " ++ ", ".intercalate requiredGrantModes ++ ".")
      .invalidWorkflowGrantMode

def validateGrant (grant : Option Json) (requiredGrantModes : List String) :
    List QueueWorkflowRequestValidationIssue :=
  match recordMembers grant with
  | none =>
    [{ fieldPath := "$.grant"
       message := "Queue workflow grant is required and must be a JSON object with " ++
         "permission/scope metadata."
       reasonCode := .missingGrant }]
  | some members =>
    grantModeIssues (trimmedText (members.lookup "mode")) requiredGrantModes ++
      match recordMembers (members.lookup "constraints") with
      | none =>
        [{ fieldPath := "$.grant.constraints"
           message := "Queue workflow grant constraints are required and must be a JSON object."
           reasonCode := .missingRequiredConstraint }]
      | some constraints => requiredSafetyConstraints.flatMap (constraintIssues constraints)

/-! ## Run settings -/

def queueRunSandboxValues : List String :=
  ["read_only", "workspace_write", "danger_full_access"]

def queueRunApprovalPolicyValues : List String := ["never", "on_request", "untrusted"]

def supportedRunSettingsFields : List String :=
  ["approvalPolicy", "codexExecutable", "executionPolicy", "executionTarget", "executorWidgetId",
    "sandbox", "workspaceRoot"]

def supportedExecutionTargetFields : List String :=
  ["executorWidgetId", "kind", "providerId", "queueOwnerWidgetInstanceId"]

/-- `values.includes(value)`. -/
def isOneOf (values : List String) : Option Json → Bool
  | some (.str value) => values.contains value
  | _ => false

def executionTargetPath : String := "$.inputs.runSettings.executionTarget"

/-- What the kind of a target asks of its other fields. -/
def executionTargetKindIssues (target : List (String × Json)) :
    List QueueWorkflowRequestValidationIssue :=
  let owner := target.lookup "queueOwnerWidgetInstanceId"
  let executor := target.lookup "executorWidgetId"
  if target.lookup "kind" = some (.str "queue_local") then
    issueUnless (owner.isNone || nonEmptyString owner)
        (executionTargetPath ++ ".queueOwnerWidgetInstanceId")
        ("queue_local executionTarget.queueOwnerWidgetInstanceId must be a non-empty string " ++
          "when supplied.") .invalidRunSettings ++
      issueUnless executor.isNone (executionTargetPath ++ ".executorWidgetId")
        "queue_local executionTarget must not include executorWidgetId." .invalidRunSettings
  else if target.lookup "kind" = some (.str "agent_executor") then
    issueUnless (nonEmptyString executor) (executionTargetPath ++ ".executorWidgetId")
        "legacy agent_executor executionTarget requires executorWidgetId."
        .missingRequiredInput ++
      issueUnless owner.isNone (executionTargetPath ++ ".queueOwnerWidgetInstanceId")
        "legacy agent_executor executionTarget must not include queueOwnerWidgetInstanceId."
        .invalidRunSettings
  else
    [{ fieldPath := executionTargetPath ++ ".kind"
       message := "inputs.runSettings.executionTarget.kind must be queue_local or agent_executor."
       reasonCode := .invalidRunSettings }]

def validateExecutionTarget (executionTarget legacyExecutorWidgetId : Option Json) :
    List QueueWorkflowRequestValidationIssue :=
  match executionTarget with
  | none =>
    issueUnless (nonEmptyString legacyExecutorWidgetId) executionTargetPath
      ("inputs.runSettings.executionTarget is required unless legacy executorWidgetId is " ++
        "supplied.") .missingRequiredInput
  | some (.obj target) =>
    unsupportedFields supportedExecutionTargetFields target executionTargetPath
        (fun fieldName => "executionTarget field " ++ fieldName ++
          " is not supported by Queue workflow validation.") .unsupportedRunSettingsField ++
      issueUnless (target.lookup "providerId" = some (.str "codex"))
        (executionTargetPath ++ ".providerId")
        ("inputs.runSettings.executionTarget.providerId must be codex for this Queue workflow " ++
          "MVP.") .invalidRunSettings ++
      executionTargetKindIssues target
  | some _ =>
    [{ fieldPath := executionTargetPath
       message := "inputs.runSettings.executionTarget must be a typed JSON object."
       reasonCode := .invalidRunSettings }]

def validateRunSettings (value : Option Json) : List QueueWorkflowRequestValidationIssue :=
  match recordMembers value with
  | none =>
    [{ fieldPath := "$.inputs.runSettings"
       message := "inputs.runSettings is required and must contain codexExecutable, " ++
         "workspaceRoot, sandbox, approvalPolicy, executionPolicy, and a typed executionTarget " ++
         "or legacy executorWidgetId."
       reasonCode := .missingRequiredInput }]
  | some settings =>
    unsupportedFields supportedRunSettingsFields settings "$.inputs.runSettings"
        (fun fieldName => "runSettings field " ++ fieldName ++
          " is not supported by Queue workflow validation.") .unsupportedRunSettingsField ++
      issueUnless (nonEmptyString (settings.lookup "codexExecutable"))
        "$.inputs.runSettings.codexExecutable"
        "inputs.runSettings.codexExecutable must be a non-empty string." .missingRequiredInput ++
      issueUnless (nonEmptyString (settings.lookup "workspaceRoot"))
        "$.inputs.runSettings.workspaceRoot"
        "inputs.runSettings.workspaceRoot must be a non-empty string." .missingRequiredInput ++
      issueUnless (isOneOf queueRunSandboxValues (settings.lookup "sandbox"))
        "$.inputs.runSettings.sandbox"
        ("inputs.runSettings.sandbox must be one of " ++
          ", ".intercalate queueRunSandboxValues ++ ".") .invalidSandbox ++
      issueUnless (isOneOf queueRunApprovalPolicyValues (settings.lookup "approvalPolicy"))
        "$.inputs.runSettings.approvalPolicy"
        ("inputs.runSettings.approvalPolicy must be one of " ++
          ", ".intercalate queueRunApprovalPolicyValues ++ ".") .invalidApprovalPolicy ++
      issueUnless (settings.lookup "executionPolicy" = some (.str "manual"))
        "$.inputs.runSettings.executionPolicy"
        "inputs.runSettings.executionPolicy must be manual." .invalidRunSettings ++
      validateExecutionTarget (settings.lookup "executionTarget")
        (settings.lookup "executorWidgetId")

/-! ## Task templates -/

structure ValidatedTaskTemplate where
  dependsOnSlots : List String
  index : ℕ
  slot : String

def supportedTaskTemplateFields : List String := ["dependsOnSlots", "prompt", "slot", "title"]

def dependencySmokeRequiredSlots : List String := ["upstream", "downstream"]

/-- `SLOT_PATTERN`: a letter, then letters, digits, underscores and hyphens. -/
def isSlotIdentifier (slot : String) : Bool :=
  match slot.toList with
  | [] => false
  | first :: rest => first.isAlpha && rest.all fun c => c.isAlphanum || c == '_' || c == '-'

def taskPath (index : ℕ) : String := "$.inputs.tasks[" ++ toString index ++ "]"

/-- The slots of a list of dependencies, and the issues of its entries. -/
def validateDependsOnSlots (value : Option Json) (taskIndex : ℕ) :
    List QueueWorkflowRequestValidationIssue × List String :=
  match value with
  | none => ([], [])
  | some (.arr items) =>
    (items.zipIdx.flatMap fun entry =>
      issueUnless (isSlotIdentifier (trimmedText (some entry.1)))
        (taskPath taskIndex ++ ".dependsOnSlots[" ++ toString entry.2 ++ "]")
        "dependsOnSlots entries must be stable task slot identifiers." .invalidTaskDependency,
      (items.map fun item => trimmedText (some item)).filter isSlotIdentifier)
  | some _ =>
    ([{ fieldPath := taskPath taskIndex ++ ".dependsOnSlots"
        message := "dependsOnSlots must be an array of task slot identifiers."
        reasonCode := .invalidTaskDependency }], [])

/-- The issue of a slot, where the indices of the slots before are known. -/
def slotIssues (slots : List (String × ℕ)) (slot : String) (index : ℕ) :
    List QueueWorkflowRequestValidationIssue :=
  if slot = "" then
    [{ fieldPath := taskPath index ++ ".slot"
       message := "Task template slot is required."
       reasonCode := .missingRequiredInput }]
  else if isSlotIdentifier slot = false then
    [{ fieldPath := taskPath index ++ ".slot"
       message := "Task template slot must be a stable identifier using letters, numbers, " ++
         "underscore, or hyphen and must start with a letter."
       reasonCode := .invalidTaskSlot }]
  else
    match mapGet slots slot with
    | some existingIndex =>
      [{ fieldPath := taskPath index ++ ".slot"
         message := "Task template slot " ++ slot ++ " duplicates " ++ taskPath existingIndex ++
           ".slot."
         reasonCode := .duplicateTaskSlot }]
    | none => []

/-- The slots that are known after a task. -/
def withSlot (slots : List (String × ℕ)) (slot : String) (index : ℕ) : List (String × ℕ) :=
  if isSlotIdentifier slot && (mapGet slots slot).isNone then mapSet slots slot index else slots

/-- The issues of one template that is an object. -/
def templateIssues (slots : List (String × ℕ)) (task : List (String × Json)) (index : ℕ) :
    List QueueWorkflowRequestValidationIssue :=
  unsupportedFields supportedTaskTemplateFields task (taskPath index)
      (fun fieldName => "Task template field " ++ fieldName ++
        " is not supported by Queue workflow validation.") .unsupportedTaskField ++
    slotIssues slots (trimmedText (task.lookup "slot")) index ++
    issueUnless (nonEmptyString (task.lookup "title")) (taskPath index ++ ".title")
      "Task template title must be a non-empty string." .missingRequiredInput ++
    issueUnless (nonEmptyString (task.lookup "prompt")) (taskPath index ++ ".prompt")
      "Task template prompt must be a non-empty string." .missingRequiredInput ++
    (validateDependsOnSlots (task.lookup "dependsOnSlots") index).1

/-- The templates one after the other: their issues, and those that have a slot. -/
def validateTemplates (slots : List (String × ℕ)) (index : ℕ) :
    List Json → List QueueWorkflowRequestValidationIssue × List ValidatedTaskTemplate
  | [] => ([], [])
  | .obj task :: rest =>
    let slot := trimmedText (task.lookup "slot")
    let others := validateTemplates (withSlot slots slot index) (index + 1) rest
    (templateIssues slots task index ++ others.1,
      if isSlotIdentifier slot then
        { dependsOnSlots := (validateDependsOnSlots (task.lookup "dependsOnSlots") index).2
          index := index
          slot := slot } :: others.2
      else others.2)
  | _ :: rest =>
    let others := validateTemplates slots (index + 1) rest
    ({ fieldPath := taskPath index
       message := "Queue workflow task template must be a JSON object."
       reasonCode := .invalidWorkflowInput } :: others.1, others.2)

def validateDependencyReferences (tasks : List ValidatedTaskTemplate) :
    List QueueWorkflowRequestValidationIssue :=
  tasks.flatMap fun task => task.dependsOnSlots.flatMap fun dependencySlot =>
    issueUnless (dependencySlot != task.slot) (taskPath task.index ++ ".dependsOnSlots")
        ("Task slot " ++ task.slot ++ " cannot depend on itself.") .invalidTaskDependency ++
      issueUnless ((tasks.map (·.slot)).contains dependencySlot)
        (taskPath task.index ++ ".dependsOnSlots")
        ("dependsOnSlots references unknown task slot " ++ dependencySlot ++ ".")
        .invalidTaskDependency

def taskBySlot (tasks : List ValidatedTaskTemplate) (slot : String) :
    Option ValidatedTaskTemplate :=
  mapGet (tasks.map fun task => (task.slot, task)) slot

def validateRequiredDependencySmokeSlots (tasks : List ValidatedTaskTemplate) :
    List QueueWorkflowRequestValidationIssue :=
  dependencySmokeRequiredSlots.flatMap (fun slot =>
      issueUnless (taskBySlot tasks slot).isSome "$.inputs.tasks"
        ("dependency smoke workflows require task slot " ++ slot ++ ".")
        .missingRequiredInput) ++
    match taskBySlot tasks "downstream" with
    | none => []
    | some downstream =>
      issueUnless (downstream.dependsOnSlots.contains "upstream")
        (taskPath downstream.index ++ ".dependsOnSlots")
        "dependency smoke workflows require downstream.dependsOnSlots to include upstream."
        .invalidTaskDependency

/-- The slots that the last template of a slot depends on. -/
def dependencySlotsOf (tasks : List ValidatedTaskTemplate) (slot : String) : List String :=
  ((taskBySlot tasks slot).map (·.dependsOnSlots)).getD []

def cycleMessage (cycle : String) : String := "Task dependency cycle detected: " ++ cycle ++ "."

/-- What the search keeps of its reports: their texts, and the issues. -/
structure CycleReports where
  reported : List String
  issues : List QueueWorkflowRequestValidationIssue

/-- A cycle is reported once, at the task that closes it. -/
def reportCycle (tasks : List ValidatedTaskTemplate) (path : List String)
    (reports : CycleReports) : CycleReports :=
  let cycle := " -> ".intercalate path
  if cycle ∈ reports.reported then reports
  else
    { reported := reports.reported ++ [cycle]
      issues := reports.issues ++
        [{ fieldPath := match (path.getLast?.bind (taskBySlot tasks)) with
             | some task => taskPath task.index ++ ".dependsOnSlots"
             | none => "$.inputs.tasks"
           message := cycleMessage cycle
           reasonCode := .dependencyCycle }] }

/-- The search keeps the slots of its path and those it has left. -/
def validateDependencyCycles (tasks : List ValidatedTaskTemplate) :
    List QueueWorkflowRequestValidationIssue :=
  (Search.visitEachReporting (tasks.map (·.slot)) (dependencySlotsOf tasks) (reportCycle tasks)
    (tasks.map (·.slot)) { reported := [], issues := [] }).2.issues

/-- The issues of the task templates, in passes over slots, references, required slots and cycles.
-/
def validateTasks (value : Option Json) : List QueueWorkflowRequestValidationIssue :=
  match value with
  | some (.arr (first :: rest)) =>
    let templates := validateTemplates [] 0 (first :: rest)
    if templates.2 = [] then templates.1
    else
      templates.1 ++ validateDependencyReferences templates.2 ++
        validateRequiredDependencySmokeSlots templates.2 ++ validateDependencyCycles templates.2
  | _ =>
    [{ fieldPath := "$.inputs.tasks"
       message := "inputs.tasks is required and must be a non-empty array."
       reasonCode := .missingRequiredInput }]

/-! ## Requests -/

def isWorkerEvidenceContinuation (inputs : Option Json) : Bool :=
  match recordMembers inputs with
  | none => false
  | some members =>
    members.lookup "phase" = some (.str "worker_evidence") ||
      (recordMembers (members.lookup "workerEvidence")).isSome

def isDependencySmokeContinuation (inputs : Option Json) : Bool :=
  match recordMembers inputs with
  | none => false
  | some members =>
    members.lookup "phase" = some (.str "review") ||
      members.lookup "phase" = some (.str "finalization")

/-- An array of texts, or no value. -/
def isTextArrayIfAny : Option Json → Bool
  | none => true
  | some (.arr items) => items.all fun item => item.asStr.isSome
  | some _ => false

/-- The issues of the evidence itself. -/
def workerEvidenceIssues (evidence : List (String × Json)) :
    List QueueWorkflowRequestValidationIssue :=
  issueUnless (evidence.lookup "slot" = some (.str "upstream")) "$.inputs.workerEvidence.slot"
      "inputs.workerEvidence.slot must be upstream." .invalidWorkflowInput ++
    issueUnless (nonEmptyString (evidence.lookup "taskId")) "$.inputs.workerEvidence.taskId"
      "inputs.workerEvidence.taskId must be a non-empty string." .missingRequiredInput ++
    issueUnless (nonEmptyString (evidence.lookup "runId")) "$.inputs.workerEvidence.runId"
      "inputs.workerEvidence.runId must be a non-empty string." .missingRequiredInput ++
    issueUnless (isOneOf ["completed", "not_completed", "failed"] (evidence.lookup "outcome"))
      "$.inputs.workerEvidence.outcome"
      "inputs.workerEvidence.outcome must be completed, not_completed, or failed."
      .invalidWorkflowInput ++
    issueUnless (isTextArrayIfAny (evidence.lookup "changedFiles"))
      "$.inputs.workerEvidence.changedFiles"
      "inputs.workerEvidence.changedFiles must be an array of strings." .invalidWorkflowInput

def validateWorkerEvidenceContinuationInputs (inputs : Option Json) :
    List QueueWorkflowRequestValidationIssue :=
  let members := (recordMembers inputs).getD []
  if members.lookup "phase" = some (.str "worker_evidence") ∧
      members.lookup "workerEvidence" = none then []
  else
    match recordMembers (members.lookup "workerEvidence") with
    | none =>
      [{ fieldPath := "$.inputs.workerEvidence"
         message := "inputs.workerEvidence is required for Queue worker evidence recording."
         reasonCode := .missingRequiredInput }]
    | some evidence => workerEvidenceIssues evidence

def validateCommonDependencyInputs (inputs : Option Json) :
    List QueueWorkflowRequestValidationIssue :=
  match recordMembers inputs with
  | none =>
    [{ fieldPath := "$.inputs"
       message := "Queue workflow inputs are required and must be a JSON object."
       reasonCode := .missingRequiredInput }]
  | some members =>
    validateRunSettings (members.lookup "runSettings") ++ validateTasks (members.lookup "tasks")

def validateFailureReason (inputs : Option Json) : List QueueWorkflowRequestValidationIssue :=
  issueUnless (nonEmptyString (((recordMembers inputs).getD []).lookup "failureReason"))
    "$.inputs.failureReason" "inputs.failureReason is required for dependency_failure_smoke."
    .missingRequiredInput

/-- A request without issues is valid. -/
def resultForIssues (issues : List QueueWorkflowRequestValidationIssue) (workflowId : String) :
    QueueWorkflowRequestValidationResult :=
  if issues.length > 0 then invalidResult issues (statusForIssues issues) workflowId
  else validNotExecutableResult workflowId

def validateDependencySmokeWorkflow (grant inputs : Option Json) (requiredGrantModes : List String)
    (requireFailureReason : Bool) (workflowId : String) : QueueWorkflowRequestValidationResult :=
  if isWorkerEvidenceContinuation inputs then
    resultForIssues (validateGrant grant requiredGrantModes ++
      validateWorkerEvidenceContinuationInputs inputs) workflowId
  else if isDependencySmokeContinuation inputs then
    resultForIssues (validateGrant grant requiredGrantModes) workflowId
  else
    resultForIssues (validateGrant grant requiredGrantModes ++
      validateCommonDependencyInputs inputs ++
      if requireFailureReason then validateFailureReason inputs else []) workflowId

def validateDeferredWorkflow (grant : Option Json) (requiredGrantModes : List String)
    (workflowId : String) : QueueWorkflowRequestValidationResult :=
  let grantIssues := validateGrant grant requiredGrantModes
  if grantIssues.length > 0 then invalidResult grantIssues .invalidWorkflowGrant workflowId
  else
    { fieldPaths := ["$.inputs"]
      issues := []
      ok := false
      reasons :=
        [workflowId ++ " is declared, but Queue workflow input validation is deferred until the " ++
            "typed runner/input contract is narrowed.",
          "No Queue workflow phase is executed and no Queue state is mutated."]
      status := .inputValidationDeferred
      firstIssue := none
      workflowId := workflowId }

def queueModuleId : String := "queue"

/-- What is wrong with a request, field by field. -/
def validateQueueWorkflowRequest (request : QueueWorkflowRequestValidationInput) :
    QueueWorkflowRequestValidationResult :=
  if request.moduleId ≠ queueModuleId then
    invalidResult
      [{ fieldPath := "$.moduleId"
         message := "Queue workflow validation only supports moduleId queue."
         reasonCode := .unsupportedWorkflow }] .unsupportedWorkflow request.workflowId
  else if request.workflowId = "dependency_acceptance_smoke" then
    validateDependencySmokeWorkflow request.grant request.inputs acceptanceGrantModes false
      request.workflowId
  else if request.workflowId = "dependency_failure_smoke" then
    validateDependencySmokeWorkflow request.grant request.inputs failureGrantModes false
      request.workflowId
  else if request.workflowId = "review_acceptance" then
    validateDeferredWorkflow request.grant reviewGrantModes request.workflowId
  else if request.workflowId = "terminal_failure" then
    validateDeferredWorkflow request.grant terminalFailureGrantModes request.workflowId
  else
    invalidResult
      [{ fieldPath := "$.workflowId"
         message := request.workflowId ++ " is not a supported Queue workflow id."
         reasonCode := .unsupportedWorkflow }] .unsupportedWorkflow request.workflowId

end HobitQueue.Frontend
