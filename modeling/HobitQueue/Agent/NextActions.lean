import HobitQueue.Agent.AutonomyGrants

/-!
# The check of a next action

An answer may name the action that is to come next. It is checked against the capability it
names, the module that owns the capability and, for a capability of the Queue, its contract. A
chain asks only whether a reason was found against it, so the reasons are left out.
-/

namespace HobitQueue.Agent

open JavaScript

structure HobitAgentCapabilityInputSchema where
  acceptedFields : List String
  requiredFields : List String

/-- What the check reads of a capability. -/
structure HobitAgentCapability where
  id : String
  inputSchema : Option HobitAgentCapabilityInputSchema

/-- What the check reads of a capability of a module, with `confirmation?.required`. -/
structure ModuleControlSurfaceCapability where
  capabilityId : String
  confirmationRequired : Bool
  confirmationRequirement : String
  riskClass : String

structure ModuleControlSurface where
  moduleId : String
  capabilities : List ModuleControlSurfaceCapability

/-- What only this check reads of a contract. -/
structure QueueContractFields where
  autoContinuationSafe : Bool
  enumFields : List (String × List String)
  fieldPolicies : List (String × String)
  requiredIds : List (String × Bool)

/-- The registries of capabilities and modules, and the rest of the contracts. -/
structure NextActionTables where
  registry : List HobitAgentCapability
  moduleSurfaces : List ModuleControlSurface
  queueFields : QueueCapabilityContract → QueueContractFields

def nextActionTopLevelFields : List String :=
  ["autoContinuationSafe", "capabilityId", "confirmation", "confirmationRequired", "input",
    "moduleId", "reason", "reasonCode", "reasonMessage", "requiresConfirmation", "riskClass",
    "source", "targetIds"]

def nextActionSources : List String :=
  ["backend_aggregate", "capability_result", "policy", "workflow_runner"]

def targetIdFields : List String :=
  ["evidenceBundleId", "executorWidgetId", "messageId", "runId", "taskId"]

def isBoolean (value : Json) : Bool := value matches .bool _

/-- A text that is not blank. -/
def isVisible (value : Json) : Bool := (nonEmptyTrim value.asStr).isSome

/-- No field is an `unsupportedFields`. -/
def hasOnly (value : Members) (acceptedFields : List String) : Bool :=
  value.all (·.1 ∈ acceptedFields)

/-- A member is of a kind where it is there. -/
def memberIs (value : Members) (fieldName : String) (kind : Json → Bool) : Bool :=
  (value.lookup fieldName).all kind

def validateConfirmationMetadata (value : Json) : Bool :=
  value.asObject.any fun value =>
    hasOnly value ["required", "tokenField", "tokenValuePresent"] &&
      memberIs value "required" isBoolean && memberIs value "tokenField" (·.asStr.isSome) &&
      memberIs value "tokenValuePresent" isBoolean

def validateConfirmationRequired (value : Json) : Bool :=
  value.asObject.any fun value => hasOnly value ["field", "value"] &&
    (value.lookup "field").any isVisible && (value.lookup "value").any isVisible

def validateTargetIds (value : Json) : Bool :=
  value.asObject.any fun value => hasOnly value targetIdFields && value.all (isVisible ·.2)

/-- A field path up to its first dot, without a `[]` at the end. -/
def topLevelFieldName (fieldName : String) : String :=
  let topLevel := fieldName.toList.takeWhile (· ≠ '.')
  String.ofList (if "[]".toList.isSuffixOf topLevel then topLevel.dropLast.dropLast else topLevel)

def hasPresentInputValue (input : Members) (fieldName : String) : Bool :=
  match input.lookup fieldName with
  | none | some .null => false
  | some (.arr items) => !items.isEmpty
  | some (.str text) => isVisible (.str text)
  | some _ => true

def validateInputAgainstSchema (input : Members) (schema : HobitAgentCapabilityInputSchema) :
    Bool :=
  hasOnly input (schema.acceptedFields.map topLevelFieldName) &&
    schema.requiredFields.all fun fieldName => "top-level ".toList.isPrefixOf fieldName.toList ||
      hasPresentInputValue input (topLevelFieldName fieldName)

/-- The input has the fields of the contract. -/
def fitsContract (input : Members) (fields : QueueContractFields) : Bool :=
  hasOnly input (fields.fieldPolicies.map fun entry => topLevelFieldName entry.1) &&
    fields.fieldPolicies.all (fun entry => entry.2 != "model_required" ||
      hasPresentInputValue input (topLevelFieldName entry.1)) &&
    fields.requiredIds.all (fun entry => !entry.2 || hasPresentInputValue input entry.1) &&
    fields.enumFields.all fun (fieldName, values) =>
      memberIs input fieldName fun value => value = .null ∨ value.asStr.any (· ∈ values)

/-- What the contract adds; the fields, the source, the metadata and the target ids, which it
checks as well, are checked for every action. -/
def validateQueueCapabilityNextAction (tables : NextActionTables)
    (contract : QueueCapabilityContract) (candidate : Members) : Bool :=
  let fields := tables.queueFields contract
  let safe := candidate.lookup "autoContinuationSafe"
  let confirm := candidate.lookup "requiresConfirmation"
  (recordField (some candidate) "input").any (fitsContract · fields) &&
    memberIs candidate "moduleId" (· = .str "queue") &&
    memberIs candidate "riskClass" (· = .str contract.riskClass.text) &&
    safe.any isBoolean &&
    (safe = some (.bool false) ∨ fields.autoContinuationSafe ∧ confirm ≠ some (.bool true)) &&
    match contract.confirmation with
    | .required field value =>
      confirm = some (.bool true) && (recordField (some candidate) "confirmationRequired").any
        fun record => record.lookup "field" = some (.str field) ∧
          record.lookup "value" = some (.str value)
    | .notRequired =>
      confirm = some (.bool false) && (candidate.lookup "confirmationRequired").isNone

def resolveModuleControlSurfaceCapability (surfaces : List ModuleControlSurface)
    (capabilityId : String) (moduleId : Option String) : Option ModuleControlSurfaceCapability :=
  let find (surface : ModuleControlSurface) :=
    surface.capabilities.find? (·.capabilityId = capabilityId)
  match moduleId with
  | some moduleId => (surfaces.find? (·.moduleId = moduleId)).bind find
  | none => surfaces.findSome? find

/-- The action says of its risk and its confirmation what the module says. -/
def agreesWithModule (candidate : Members) (capability : ModuleControlSurfaceCapability) : Bool :=
  let confirm := candidate.lookup "requiresConfirmation"
  memberIs candidate "riskClass" (· = .str capability.riskClass) &&
    if capability.confirmationRequired ∨ capability.confirmationRequirement = "required" then
      confirm = some (.bool true) ∧ candidate.lookup "autoContinuationSafe" ≠ some (.bool true)
    else capability.confirmationRequirement ≠ "none" ∨ confirm ≠ some (.bool true)

/-- `validateHobitNextAction(candidate).ok`. -/
def validateHobitNextAction (tables : NextActionTables) (candidate : Members) : Bool :=
  let moduleId := stringField (some candidate) "moduleId"
  (stringField (some candidate) "capabilityId").any fun capabilityId =>
    (tables.registry.find? (·.id = capabilityId)).any fun capability =>
      hasOnly candidate nextActionTopLevelFields && memberIs candidate "moduleId" isVisible &&
        (recordField (some candidate) "input").any (fun input =>
          capability.inputSchema.all (validateInputAgainstSchema input)) &&
        memberIs candidate "requiresConfirmation" isBoolean &&
        memberIs candidate "autoContinuationSafe" isBoolean &&
        memberIs candidate "source" (·.asStr.any (· ∈ nextActionSources)) &&
        memberIs candidate "confirmation" validateConfirmationMetadata &&
        memberIs candidate "confirmationRequired" validateConfirmationRequired &&
        memberIs candidate "targetIds" validateTargetIds &&
        (resolveModuleControlSurfaceCapability tables.moduleSurfaces capabilityId moduleId).any
          (agreesWithModule candidate) &&
        (queueCapabilityContractById capabilityId).all
          (validateQueueCapabilityNextAction tables · candidate)

end HobitQueue.Agent
