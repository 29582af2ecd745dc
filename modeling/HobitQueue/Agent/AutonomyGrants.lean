import HobitQueue.Lib.JavaScript
import HobitQueue.Lib.Json
import Mathlib.Algebra.Order.Ring.Unbundled.Rat

/-!
# Grants of bounded autonomy

An operator may grant an agent bounded autonomy over the Queue: a mode, a number of actions, a
scope, lists of capabilities and the confirmation that is then supplied for the agent. A grant is
a structured object; it is read strictly, and a policy is made from it. Without a grant a default
policy allows reading and reviewing.

## Main results

* `supplied_of_decide` — the requests that a grant may confirm, and the modes that do.
-/

namespace HobitQueue.Agent

open JavaScript

/-! ## Members of a record

A value that is no object has no members. A member that is `undefined` is not listed. -/

abbrev Members := List (String × Json)

def member (record : Option Members) (fieldName : String) : Option Json :=
  record.bind (·.lookup fieldName)

def recordField (record : Option Members) (fieldName : String) : Option Members :=
  (member record fieldName).bind Json.asObject

/-- The trimmed text of a member; nothing for a blank one. -/
def stringField (record : Option Members) (fieldName : String) : Option String :=
  nonEmptyTrim ((member record fieldName).bind Json.asStr)

/-- `Array.from(new Set(values))`. -/
def uniqueStrings (values : List String) : List String := values.foldl setAdd []

/-- The issue of a member that is there and of another kind. -/
def kindIssue (value : Members) (fieldName : String) (kind : Json → Bool) (issue : String) :
    List String :=
  match value.lookup fieldName with
  | none => []
  | some v => if kind v then [] else [issue]

/-! ## Contracts -/

inductive QueueCapabilityBacking where
  | backendBacked | bridgeBacked | modelPreview | transitionalFrontendOverlay
  deriving DecidableEq

inductive QueueCapabilityRiskClass where
  | read | setup | runStart | workerEvidence | review | finalAccept | terminalFail | block
  | followUp | validationDecision | forbidden
  deriving DecidableEq

def QueueCapabilityRiskClass.text : QueueCapabilityRiskClass → String
  | read => "read"
  | setup => "setup"
  | runStart => "run_start"
  | workerEvidence => "worker_evidence"
  | review => "review"
  | finalAccept => "final_accept"
  | terminalFail => "terminal_fail"
  | block => "block"
  | followUp => "follow_up"
  | validationDecision => "validation_decision"
  | forbidden => "forbidden"

inductive QueueCapabilityConfirmationContract where
  | notRequired
  | required (field value : String)
  deriving DecidableEq

def QueueCapabilityConfirmationContract.isRequired : QueueCapabilityConfirmationContract → Bool
  | notRequired => false
  | required _ _ => true

/-- What the policies read of a contract. -/
structure QueueCapabilityContract where
  capabilityId : String
  backing : QueueCapabilityBacking
  confirmation : QueueCapabilityConfirmationContract
  riskClass : QueueCapabilityRiskClass
  deriving DecidableEq

def queueStartRunConfirmationField : String := "confirmationToken"

def queueStartRunConfirmationToken : String := "operator-confirmed"

def startRunConfirmation : QueueCapabilityConfirmationContract :=
  .required queueStartRunConfirmationField queueStartRunConfirmationToken

def queueCapabilityContractInventory : List QueueCapabilityContract :=
  [ ⟨"queue.coordinator.addFollowUpPrompt", .transitionalFrontendOverlay, .notRequired, .followUp⟩,
    ⟨"queue.coordinator.approveValidation", .transitionalFrontendOverlay, .notRequired,
      .validationDecision⟩,
    ⟨"queue.control.get", .backendBacked, .notRequired, .read⟩,
    ⟨"queue.control.setManualEnabled", .backendBacked, .notRequired, .setup⟩,
    ⟨"queue.createItem", .bridgeBacked, .notRequired, .setup⟩,
    ⟨"queue.createItems", .bridgeBacked, .notRequired, .setup⟩,
    ⟨"queue.enable", .bridgeBacked, .notRequired, .setup⟩,
    ⟨"queue.importPromptPack", .bridgeBacked, startRunConfirmation, .setup⟩,
    ⟨"queue.item.block", .transitionalFrontendOverlay, .notRequired, .block⟩,
    ⟨"queue.item.fail", .backendBacked, startRunConfirmation, .terminalFail⟩,
    ⟨"queue.item.markDone", .backendBacked, startRunConfirmation, .finalAccept⟩,
    ⟨"queue.item.promoteDraft", .bridgeBacked, .notRequired, .setup⟩,
    ⟨"queue.item.startRun", .bridgeBacked, startRunConfirmation, .runStart⟩,
    ⟨"queue.item.updateRunSettings", .bridgeBacked, .notRequired, .setup⟩,
    ⟨"queue.items.list", .backendBacked, .notRequired, .read⟩,
    ⟨"queue.workflow.get", .backendBacked, .notRequired, .read⟩,
    ⟨"queue.workflow.list", .backendBacked, .notRequired, .read⟩,
    ⟨"queue.workflow.getReport", .backendBacked, .notRequired, .read⟩,
    ⟨"queue.workflow.planResume", .backendBacked, .notRequired, .read⟩,
    ⟨"queue.workflow.readActionLog", .backendBacked, .notRequired, .read⟩,
    ⟨"queue.lifecycle.agentFinished", .backendBacked, .notRequired, .workerEvidence⟩,
    ⟨"queue.lifecycle.get", .backendBacked, .notRequired, .read⟩,
    ⟨"queue.preparePromptPackPreview", .modelPreview, .notRequired, .read⟩,
    ⟨"queue.review.ack", .backendBacked, .notRequired, .review⟩,
    ⟨"queue.review.createMessage", .backendBacked, .notRequired, .review⟩,
    ⟨"queue.review.getEvidenceBundle", .backendBacked, .notRequired, .read⟩,
    ⟨"queue.selfTest", .modelPreview, .notRequired, .read⟩,
    ⟨"queue.targetSingletonQueue", .bridgeBacked, .notRequired, .read⟩]

/-- `queueCapabilityContractById.get`. -/
def queueCapabilityContractById (capabilityId : String) : Option QueueCapabilityContract :=
  mapGet (queueCapabilityContractInventory.map fun contract => (contract.capabilityId, contract))
    capabilityId

theorem contract_of_id {capabilityId : String} {contract : QueueCapabilityContract}
    (h : queueCapabilityContractById capabilityId = some contract) :
    contract ∈ queueCapabilityContractInventory ∧ contract.capabilityId = capabilityId := by
  have hmem := mem_of_mapGet h
  obtain ⟨found, hfound, heq⟩ := List.mem_map.1 hmem
  obtain ⟨hid, rfl⟩ := Prod.mk.inj heq
  exact ⟨hfound, hid⟩

/-! ## Grants and policies -/

def workspaceAgentBrokerContinuationMaxActions : ℕ := 16

def queueAutonomyGrantType : String := "hobit.queue.autonomyGrant"

inductive QueueAutonomyMode where
  | none | readOnly | queueSmoke | queueAcceptanceSmoke | queueFailureSmoke | queueOperatorFlow
  deriving DecidableEq

def QueueAutonomyMode.text : QueueAutonomyMode → String
  | none => "none"
  | readOnly => "read_only"
  | queueSmoke => "queue_smoke"
  | queueAcceptanceSmoke => "queue_acceptance_smoke"
  | queueFailureSmoke => "queue_failure_smoke"
  | queueOperatorFlow => "queue_operator_flow"

def queueAutonomyGrantModeValues : List QueueAutonomyMode :=
  [.none, .readOnly, .queueSmoke, .queueAcceptanceSmoke, .queueFailureSmoke, .queueOperatorFlow]

/-- `isQueueAutonomyMode`, with the mode. -/
def queueAutonomyModeOf (text : String) : Option QueueAutonomyMode :=
  queueAutonomyGrantModeValues.find? (·.text = text)

def queueAutonomyGrantConstraintKeys : List String :=
  ["noGit", "noValidationExecution", "noRollback", "noTerminal", "noDelete",
    "noDownstreamAutoStart"]

structure QueueAutonomyConstraints where
  noGit : Bool
  noValidationExecution : Bool
  noRollback : Bool
  noTerminal : Bool
  noDelete : Bool
  noDownstreamAutoStart : Bool
  deriving DecidableEq

def defaultQueueAutonomyConstraints : QueueAutonomyConstraints :=
  { noGit := true, noValidationExecution := true, noRollback := true, noTerminal := true
    noDelete := true, noDownstreamAutoStart := true }

structure QueueAutonomyScope where
  queueTargetId : Option String
  runIds : Option (List String)
  taskIds : Option (List String)
  workspaceRoot : Option String
  deriving DecidableEq

structure QueueAutonomyGrant where
  allowedCapabilities : Option (List String)
  confirmationToken : Option String
  constraints : QueueAutonomyConstraints
  deniedCapabilities : Option (List String)
  maxActions : Option ℕ
  mode : QueueAutonomyMode
  scope : Option QueueAutonomyScope
  deriving DecidableEq

structure QueueAutonomyPolicy where
  active : Bool
  allowedCapabilities : Option (List String)
  allowedRiskClasses : List QueueCapabilityRiskClass
  confirmationToken : Option String
  constraints : QueueAutonomyConstraints
  deniedCapabilities : List String
  maxActions : Option ℕ
  mode : QueueAutonomyMode
  scope : Option QueueAutonomyScope
  deriving DecidableEq

/-! ## Reading a grant -/

/-- One item of a field of capability ids. -/
def readCapabilityId (fieldName : String) (value : Json) : Except String String :=
  match nonEmptyTrim value.asStr with
  | none => .error ("Queue autonomy grant " ++ fieldName ++ " must contain strings.")
  | some capabilityId =>
    if (queueCapabilityContractById capabilityId).isSome then .ok capabilityId
    else .error ("Queue autonomy grant " ++ fieldName ++ " contains unsupported capability " ++
      capabilityId ++ ".")

def reasonOf {α : Type} : Except String α → Option String
  | .error reason => some reason
  | .ok _ => none

/-- A field of capability ids: the ids that were read, if the field is a list, and the reasons. -/
def optionalCapabilityIdList (record : Members) (fieldName : String) :
    Option (List String) × List String :=
  match record.lookup fieldName with
  | none => (none, [])
  | some (.arr items) =>
    let read := items.map (readCapabilityId fieldName)
    (some (uniqueStrings (read.filterMap Except.toOption)), read.filterMap reasonOf)
  | some _ =>
    (none, ["Queue autonomy grant " ++ fieldName ++ " must be a string array."])

/-- A list of ids of the scope. -/
def optionalStringArray (record : Members) (fieldName : String) :
    Option (List String) × List String :=
  match record.lookup fieldName with
  | none => (none, [])
  | some (.arr items) =>
    let values := items.filterMap fun item => nonEmptyTrim item.asStr
    (some (uniqueStrings values),
      if values.length = items.length then []
      else ["Queue autonomy grant scope." ++ fieldName ++ " must contain strings."])
  | some _ =>
    (none, ["Queue autonomy grant scope." ++ fieldName ++ " must be a string array."])

/-- The reasons of the constraints; the constraints that are read are the default ones. -/
def normalizeQueueAutonomyConstraints (candidate : Option Members) :
    QueueAutonomyConstraints × List String :=
  (defaultQueueAutonomyConstraints,
    queueAutonomyGrantConstraintKeys.flatMap fun key =>
      match member candidate key with
      | none | some (.bool true) => []
      | some (.bool false) =>
        ["Queue autonomy constraint " ++ key ++ "=false is not supported in this MVP."]
      | some _ => ["Queue autonomy constraint " ++ key ++ " must be boolean."])

def normalizeQueueAutonomyScope (candidate : Option Members) :
    Option QueueAutonomyScope × List String :=
  match candidate with
  | none => (none, [])
  | some record =>
    let taskIds := optionalStringArray record "taskIds"
    let runIds := optionalStringArray record "runIds"
    let scope : QueueAutonomyScope :=
      { queueTargetId := stringField candidate "queueTargetId"
        runIds := runIds.1
        taskIds := taskIds.1
        workspaceRoot := stringField candidate "workspaceRoot" }
    (if scope = ⟨none, none, none, none⟩ then none else some scope, taskIds.2 ++ runIds.2)

/-- The reason of a field that is there and no object. -/
def objectReason (record : Members) (fieldName reason : String) : List String :=
  kindIssue record fieldName (fun value => value.asObject.isSome) reason

section Read

variable (number : String → Option ℚ)

/-- `numberField`; a numeral stands for a finite number or for none. -/
def numberField (record : Members) (fieldName : String) : Option (Option ℚ) :=
  match record.lookup fieldName with
  | some (.num numeral) => some (number numeral)
  | _ => none

/-- The count a positive whole number stands for. -/
def positiveInteger (value : Option ℚ) : Option ℕ :=
  value.bind fun value => if value.den = 1 ∧ 0 < value then some value.num.toNat else none

/-- The grant of an object, or the reasons against it. -/
def normalizeWorkspaceAgentQueueAutonomyGrantWithReasons (candidate : Json) :
    Except (List String) QueueAutonomyGrant :=
  match candidate with
  | .obj record =>
    if record.lookup "type" ≠ some (.str queueAutonomyGrantType) then
      .error ["Queue autonomy grant must be a structured JSON object."]
    else
      let mode := (stringField (some record) "mode").bind queueAutonomyModeOf
      let maxActions := numberField number record "maxActions"
      let confirmationToken := stringField (some record) "confirmationToken"
      let allowedCapabilities := optionalCapabilityIdList record "allowedCapabilities"
      let deniedCapabilities := optionalCapabilityIdList record "deniedCapabilities"
      let constraints := normalizeQueueAutonomyConstraints (recordField (some record) "constraints")
      let scope := normalizeQueueAutonomyScope (recordField (some record) "scope")
      let reasons :=
        (if mode.isNone then ["Queue autonomy grant mode is unsupported."] else []) ++
        (if maxActions.any fun value => (positiveInteger value).isNone then
          ["Queue autonomy grant maxActions must be a positive integer."] else []) ++
        (if confirmationToken.any (· ≠ queueStartRunConfirmationToken) then
          ["Queue autonomy grant confirmationToken must exactly equal " ++
            queueStartRunConfirmationToken ++ "."] else []) ++
        allowedCapabilities.2 ++ deniedCapabilities.2 ++
        objectReason record "constraints" "Queue autonomy grant constraints must be an object." ++
        constraints.2 ++
        objectReason record "scope" "Queue autonomy grant scope must be an object." ++
        scope.2
      match mode, reasons with
      | some mode, [] =>
        .ok
          { allowedCapabilities := allowedCapabilities.1
            confirmationToken
            constraints := constraints.1
            deniedCapabilities := deniedCapabilities.1
            maxActions := maxActions.bind positiveInteger
            mode
            scope := scope.1 }
      | _, reasons => .error reasons
  | _ => .error ["Queue autonomy grant must be a structured JSON object."]

def normalizeWorkspaceAgentQueueAutonomyGrant (candidate : Json) : Option QueueAutonomyGrant :=
  (normalizeWorkspaceAgentQueueAutonomyGrantWithReasons number candidate).toOption

end Read

/-! ## Policies -/

def queueAutonomyAlwaysBlockedRiskClasses : List QueueCapabilityRiskClass :=
  [.block, .followUp, .validationDecision, .forbidden]

def queueAutonomyConfirmationInjectionRiskClasses : List QueueCapabilityRiskClass :=
  [.runStart, .finalAccept, .terminalFail]

def defaultAutoContinuationRiskClasses : List QueueCapabilityRiskClass := [.read, .review]

def queueAutonomyModeRiskClasses : QueueAutonomyMode → List QueueCapabilityRiskClass
  | .none => []
  | .readOnly => [.read]
  | .queueSmoke => [.read, .setup, .runStart, .workerEvidence, .review]
  | .queueAcceptanceSmoke => [.read, .setup, .runStart, .workerEvidence, .review, .finalAccept]
  | .queueFailureSmoke => [.read, .setup, .runStart, .workerEvidence, .review, .terminalFail]
  | .queueOperatorFlow =>
    [.read, .setup, .runStart, .workerEvidence, .review, .finalAccept, .terminalFail]

/-- The policy that a grant stands for. -/
def createQueueAutonomyPolicy (grant : QueueAutonomyGrant) : QueueAutonomyPolicy :=
  { active := grant.mode ≠ .none
    allowedCapabilities := grant.allowedCapabilities.map uniqueStrings
    allowedRiskClasses := (queueAutonomyModeRiskClasses grant.mode).filter fun riskClass =>
      riskClass ∉ queueAutonomyAlwaysBlockedRiskClasses
    confirmationToken := grant.confirmationToken
    constraints := grant.constraints
    deniedCapabilities := uniqueStrings (grant.deniedCapabilities.getD [])
    maxActions := grant.maxActions.map (min · workspaceAgentBrokerContinuationMaxActions)
    mode := grant.mode
    scope := grant.scope }

/-- The policy where the operator has set none. -/
def createDefaultQueueAutonomyPolicy : QueueAutonomyPolicy :=
  { active := false
    allowedCapabilities := none
    allowedRiskClasses := defaultAutoContinuationRiskClasses
    confirmationToken := none
    constraints := defaultQueueAutonomyConstraints
    deniedCapabilities := []
    maxActions := none
    mode := .none
    scope := none }

/-! ## What a policy says -/

inductive QueueAutonomyDecision where
  | allowed (confirmationInjectionAllowed : Bool) (riskClass : QueueCapabilityRiskClass)
  | refused (reason : String) (riskClass : QueueCapabilityRiskClass)
  deriving DecidableEq

/-- What a policy says of a capability. -/
def decideQueueAutonomyForCapability (capabilityId : String) (contract : QueueCapabilityContract)
    (policy : QueueAutonomyPolicy) : QueueAutonomyDecision :=
  if contract.riskClass ∈ queueAutonomyAlwaysBlockedRiskClasses then
    .refused (capabilityId ++ " risk class " ++ contract.riskClass.text ++
      " is blocked for bounded Queue autonomy.") contract.riskClass
  else if contract.backing = .transitionalFrontendOverlay ∨ contract.backing = .modelPreview then
    .refused (capabilityId ++ " is not backend-backed for bounded Queue autonomy.")
      contract.riskClass
  else if capabilityId ∈ policy.deniedCapabilities then
    .refused (capabilityId ++ " is denied by the Queue autonomy grant.") contract.riskClass
  else if policy.allowedCapabilities.any fun allowed => capabilityId ∉ allowed then
    .refused (capabilityId ++ " is not included in allowedCapabilities.") contract.riskClass
  else if contract.riskClass ∉ policy.allowedRiskClasses then
    .refused (capabilityId ++ " risk class " ++ contract.riskClass.text ++
      " is not allowed for broker auto-continuation.") contract.riskClass
  else
    .allowed
      (policy.active && contract.confirmation.isRequired &&
        decide (contract.riskClass ∈ queueAutonomyConfirmationInjectionRiskClasses))
      contract.riskClass

/-- A policy permits a capability. -/
structure Permits (policy : QueueAutonomyPolicy) (capabilityId : String)
    (contract : QueueCapabilityContract) : Prop where
  backed : contract.backing = .backendBacked ∨ contract.backing = .bridgeBacked
  notDenied : capabilityId ∉ policy.deniedCapabilities
  listed : ∀ allowed, policy.allowedCapabilities = some allowed → capabilityId ∈ allowed
  riskAllowed : contract.riskClass ∈ policy.allowedRiskClasses

theorem permits_of_decide {policy : QueueAutonomyPolicy} {capabilityId : String}
    {contract : QueueCapabilityContract} {injection : Bool} {riskClass : QueueCapabilityRiskClass}
    (h : decideQueueAutonomyForCapability capabilityId contract policy =
      .allowed injection riskClass) :
    Permits policy capabilityId contract ∧
      injection = (policy.active && contract.confirmation.isRequired &&
        decide (contract.riskClass ∈ queueAutonomyConfirmationInjectionRiskClasses)) := by
  unfold decideQueueAutonomyForCapability at h
  split_ifs at h with hblocked hbacking hdenied hallowed hrisk
  have hinjection := (QueueAutonomyDecision.allowed.inj h).1
  refine ⟨⟨?_, hdenied, fun allowed heq => ?_, by simpa using hrisk⟩, hinjection.symm⟩
  · cases hcase : contract.backing <;> simp [hcase] at hbacking ⊢
  · by_contra hnot
    simp [heq, hnot] at hallowed

/-- The confirmations that a grant may supply, with the modes that do. -/
def suppliedConfirmations : List (String × List QueueAutonomyMode) :=
  [("queue.item.startRun",
      [.queueSmoke, .queueAcceptanceSmoke, .queueFailureSmoke, .queueOperatorFlow]),
    ("queue.item.markDone", [.queueAcceptanceSmoke, .queueOperatorFlow]),
    ("queue.item.fail", [.queueFailureSmoke, .queueOperatorFlow])]

theorem supplied_of_risk : ∀ contract ∈ queueCapabilityContractInventory,
    ∀ mode ∈ queueAutonomyGrantModeValues, contract.confirmation.isRequired = true →
      contract.riskClass ∈ queueAutonomyConfirmationInjectionRiskClasses →
      contract.riskClass ∈ queueAutonomyModeRiskClasses mode →
      ∃ entry ∈ suppliedConfirmations, entry.1 = contract.capabilityId ∧ mode ∈ entry.2 := by
  decide +kernel

theorem mem_modes (mode : QueueAutonomyMode) : mode ∈ queueAutonomyGrantModeValues := by
  cases mode <;> simp [queueAutonomyGrantModeValues]

theorem supplied_of_decide {grant : QueueAutonomyGrant} {capabilityId : String}
    {contract : QueueCapabilityContract} {riskClass : QueueCapabilityRiskClass}
    (hcontract : queueCapabilityContractById capabilityId = some contract)
    (h : decideQueueAutonomyForCapability capabilityId contract (createQueueAutonomyPolicy grant) =
      .allowed true riskClass) :
    ∃ entry ∈ suppliedConfirmations, entry.1 = capabilityId ∧ grant.mode ∈ entry.2 := by
  obtain ⟨hmem, hid⟩ := contract_of_id hcontract
  obtain ⟨hpermits, hinjection⟩ := permits_of_decide h
  rw [eq_comm, Bool.and_eq_true, Bool.and_eq_true, decide_eq_true_eq] at hinjection
  have hrisk := List.mem_of_mem_filter hpermits.riskAllowed
  have hsupplied := supplied_of_risk contract hmem grant.mode (mem_modes _) hinjection.1.2
    hinjection.2 hrisk
  rwa [hid] at hsupplied

end HobitQueue.Agent
