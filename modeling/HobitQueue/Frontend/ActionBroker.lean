import HobitQueue.Lib.JavaScript

/-!
# The action broker

An agent asks for a capability, and the broker decides whether its handler is called: the
request must be well formed, the capability registered, available and allowed for the role,
and the policy may ask for a confirmation or for a dry run. The broker keeps nothing between
two requests; handlers may.

## Main results

* `session_is_gated` — in a session a handler is called exactly for the requests that satisfy
  the gate, and synchronous handlers answer the same on both ways.
-/

namespace HobitQueue.Frontend.Broker

open JavaScript

/-! ## Values of a request -/

/-- A value of a request, as far as the broker looks at it. A number or an object has a truth
value and a text. -/
inductive JsValue where
  | undefined | null
  | boolean (value : Bool)
  | string (value : String)
  | other (truthy : Bool) (text : String)
  deriving DecidableEq

namespace JsValue

def truthy : JsValue → Bool
  | undefined | null => false
  | boolean value => value
  | string value => value != ""
  | other truthy _ => truthy

/-- The text in a template. -/
def text : JsValue → String
  | undefined => "undefined"
  | null => "null"
  | boolean value => if value then "true" else "false"
  | string value => value
  | other _ text => text

/-- `value ?? next`. -/
def orElse (value next : JsValue) : JsValue :=
  if value = undefined ∨ value = null then next else value

/-- A parameter that was not given takes its default. -/
def withDefault (value default : JsValue) : JsValue := if value = undefined then default else value

end JsValue

/-! ## Capabilities, requests and results -/

inductive HobitAgentCapabilitySideEffect where
  | read | write | execute | destructive
  deriving DecidableEq

inductive HobitAgentConfirmationRequirement where
  | none | recommended | required
  deriving DecidableEq

inductive HobitAgentCapabilityAvailability where
  | available
  | unavailable (reason : String)
  deriving DecidableEq

/-- What the broker reads of a capability. -/
structure HobitAgentCapability where
  id : String
  allowedAgentRoles : List String
  availability : HobitAgentCapabilityAvailability
  confirmationRequirement : HobitAgentConfirmationRequirement
  restricted : Bool
  sideEffectLevel : HobitAgentCapabilitySideEffect
  supportsDryRun : Bool
  deriving DecidableEq

/-- A request; an input that is not given is `none`. -/
structure HobitAgentActionRequest (ι : Type) where
  requestId : JsValue
  agentId : JsValue
  agentRole : JsValue
  agentRoleId : JsValue
  capabilityId : JsValue
  confirmationToken : JsValue
  createdAt : JsValue
  requestedAt : JsValue
  dryRun : JsValue
  input : Option ι
  deriving DecidableEq

inductive HobitAgentPolicyStatus where
  | allowed | unavailable | blocked | requiresConfirmation | requiresDryRun
  deriving DecidableEq

structure HobitAgentPolicyDecision where
  allowed : Bool
  capability : Option HobitAgentCapability
  reasons : List String
  requiresConfirmation : Bool
  requiresDryRun : Bool
  status : HobitAgentPolicyStatus
  deriving DecidableEq

inductive HobitAgentActionStatus where
  | succeeded | blocked | blockedActionable | invalidInput | needsConfirmation | alreadyExists
  | alreadyDone | alreadyFailed | preconditionFailed | policyBlocked | unavailable | paused
  | failedUnexpected | dryRunRequired | failed
  deriving DecidableEq

structure HobitAgentAuditEvent where
  actorAgentId : JsValue
  actorRoleId : JsValue
  capabilityId : JsValue
  dryRun : JsValue
  eventName : String
  message : String
  requestId : JsValue
  sideEffectLevel : HobitAgentCapabilitySideEffect
  timestamp : JsValue
  deriving DecidableEq

structure HobitAgentActionResult (ο : Type) where
  auditEvents : List HobitAgentAuditEvent
  capabilityId : JsValue
  dryRun : JsValue
  fieldPath : Option String := none
  fieldPaths : List String := []
  message : String
  ok : Bool
  output : Option ο := none
  policyDecision : Option HobitAgentPolicyDecision
  policyReasons : List String
  reasonCode : Option String := none
  requestId : JsValue
  status : HobitAgentActionStatus
  unavailableReason : Option String := none
  deriving DecidableEq

structure HobitAgentBrokerResult (ι ο : Type) where
  policyDecision : HobitAgentPolicyDecision
  request : HobitAgentActionRequest ι
  result : HobitAgentActionResult ο
  status : HobitAgentActionStatus
  deriving DecidableEq

structure HobitAgentActionHandlerContext (ι : Type) where
  auditEvents : List HobitAgentAuditEvent
  capability : HobitAgentCapability
  policyDecision : HobitAgentPolicyDecision
  registry : List HobitAgentCapability
  request : HobitAgentActionRequest ι
  deriving DecidableEq

/-- How a handler ends: an error that is no `Error` has no message. -/
inductive Settled (ο : Type) where
  | returns (result : HobitAgentActionResult ο)
  | throws (message : Option String)

/-- What a handler gives back at once. -/
inductive HandlerOutcome (ο : Type) where
  | sync (outcome : Settled ο)
  | promise (outcome : Settled ο)

structure HobitAgentActionBrokerPolicyOptions where
  allowRestrictedExecuteCapabilities : Bool := false
  requireDryRunBeforeSideEffectingInvoke : Bool := true

/-- A broker; its handlers work on a state of their own. -/
structure HobitAgentActionBroker (σ ι ο : Type) where
  registry : List HobitAgentCapability
  handlers : String → Option (HobitAgentActionHandlerContext ι → σ → HandlerOutcome ο × σ)
  policyOptions : HobitAgentActionBrokerPolicyOptions

variable {σ ι ο : Type}

/-! ## Results -/

def hobitAgentActionStatusIsOk (status : HobitAgentActionStatus) : Bool :=
  status == .succeeded || status == .alreadyExists || status == .alreadyDone ||
    status == .alreadyFailed

/-- `createActionResult` and its siblings, with the defaults of the parameters. -/
def createActionResult (request : HobitAgentActionRequest ι) (message : String)
    (policyDecision : HobitAgentPolicyDecision) (policyReasons : List String)
    (reasonCode : String) (status : HobitAgentActionStatus)
    (auditEvents : List HobitAgentAuditEvent) (unavailableReason : Option String := none) :
    HobitAgentActionResult ο :=
  { auditEvents, message, policyReasons, status, unavailableReason
    capabilityId := request.capabilityId
    dryRun := request.dryRun.withDefault (.boolean false)
    ok := hobitAgentActionStatusIsOk status
    policyDecision := some policyDecision
    reasonCode := some reasonCode
    requestId := request.requestId.withDefault (.string (request.capabilityId.text ++ ":request")) }

def createBrokerAuditEvent (eventName message : String) (request : HobitAgentActionRequest ι)
    (sideEffectLevel : HobitAgentCapabilitySideEffect) : HobitAgentAuditEvent :=
  { actorAgentId := request.agentId
    actorRoleId := request.agentRole.orElse request.agentRoleId
    capabilityId := request.capabilityId
    dryRun := request.dryRun
    eventName, message
    requestId := request.requestId
    sideEffectLevel
    timestamp := request.createdAt }

/-- A result without a call of the handler. -/
def brokerResult (request : HobitAgentActionRequest ι)
    (policyDecision : HobitAgentPolicyDecision) (result : HobitAgentActionResult ο) :
    HobitAgentBrokerResult ι ο :=
  { policyDecision, request, result, status := result.status }

def createBrokerUnavailableResult (auditEvents : List HobitAgentAuditEvent)
    (policyDecision : HobitAgentPolicyDecision) (reason : String)
    (request : HobitAgentActionRequest ι) : HobitAgentBrokerResult ι ο :=
  brokerResult request policyDecision
    (createActionResult request reason policyDecision [reason] "capability_unavailable"
      .unavailable auditEvents (some reason))

def createBrokerPolicyBlockedResult (auditEvents : List HobitAgentAuditEvent)
    (policyDecision : HobitAgentPolicyDecision) (request : HobitAgentActionRequest ι) :
    HobitAgentBrokerResult ι ο :=
  brokerResult request policyDecision
    (createActionResult request
      (policyDecision.reasons.head?.getD "Capability was blocked by policy.")
      policyDecision policyDecision.reasons "policy_denied" .policyBlocked auditEvents)

def createBrokerNeedsConfirmationResult (auditEvents : List HobitAgentAuditEvent)
    (policyDecision : HobitAgentPolicyDecision) (request : HobitAgentActionRequest ι) :
    HobitAgentBrokerResult ι ο :=
  brokerResult request policyDecision
    (createActionResult request
      (policyDecision.reasons.head?.getD (request.capabilityId.text ++ " requires confirmation."))
      policyDecision policyDecision.reasons "confirmation_required" .needsConfirmation auditEvents)

def createBrokerDryRunRequiredResult (auditEvents : List HobitAgentAuditEvent)
    (policyDecision : HobitAgentPolicyDecision) (request : HobitAgentActionRequest ι) :
    HobitAgentBrokerResult ι ο :=
  brokerResult request policyDecision
    (createActionResult request
      (policyDecision.reasons.head?.getD
        (request.capabilityId.text ++ " requires dry-run before invocation."))
      policyDecision policyDecision.reasons "precondition_failed" .dryRunRequired auditEvents)

def createBrokerInvalidInputResult (auditEvents : List HobitAgentAuditEvent)
    (reasons : List String) (request : HobitAgentActionRequest ι) : HobitAgentBrokerResult ι ο :=
  let policyDecision : HobitAgentPolicyDecision :=
    { allowed := false, capability := none, reasons
      requiresConfirmation := false, requiresDryRun := false, status := .blocked }
  brokerResult request policyDecision
    (createActionResult request (reasons.head?.getD "Action request input is invalid.")
      policyDecision reasons "invalid_payload" .invalidInput auditEvents)

/-! ## The decision -/

/-- Why a field that must hold a text does not. -/
def requiredStringReason (value : JsValue) (fieldName : String) : Option String :=
  match value with
  | .string s => if trim s = "" then some (fieldName ++ " is required.") else none
  | _ => some (fieldName ++ " is required.")

/-- The reasons against a request; none when it is well formed. -/
def validateActionRequest (request : HobitAgentActionRequest ι) : List String :=
  [requiredStringReason request.requestId "requestId",
    requiredStringReason request.agentId "agentId",
    requiredStringReason (request.agentRole.orElse request.agentRoleId) "agentRole",
    requiredStringReason request.capabilityId "capabilityId",
    requiredStringReason (request.createdAt.orElse request.requestedAt) "createdAt",
    match request.dryRun with
      | .boolean _ => none
      | _ => some "dryRun must be a boolean.",
    if request.input.isNone then some "input is required." else none].filterMap id

def findCapability (registry : List HobitAgentCapability) (capabilityId : JsValue) :
    Option HobitAgentCapability :=
  registry.find? fun capability => .string capability.id = capabilityId

def brokerRequiresConfirmation (capability : HobitAgentCapability) : Bool :=
  capability.confirmationRequirement == .required || capability.sideEffectLevel == .destructive

def brokerRequiresDryRunBeforeInvoke (capability : HobitAgentCapability) : Bool :=
  capability.sideEffectLevel != .read && capability.supportsDryRun

/-- What the broker decides about a request. -/
def evaluateBrokerPolicy (registry : List HobitAgentCapability)
    (request : HobitAgentActionRequest ι) (policyOptions : HobitAgentActionBrokerPolicyOptions) :
    HobitAgentPolicyDecision :=
  match findCapability registry request.capabilityId with
  | none =>
    { allowed := false, capability := none
      reasons := ["Capability " ++ request.capabilityId.text ++ " is not registered."]
      requiresConfirmation := false, requiresDryRun := false, status := .unavailable }
  | some capability =>
    let refused (reason : String) (status : HobitAgentPolicyStatus)
        (requiresConfirmation requiresDryRun : Bool := false) : HobitAgentPolicyDecision :=
      { allowed := false, capability := some capability, reasons := [reason]
        requiresConfirmation, requiresDryRun, status }
    let agentRole := request.agentRole.orElse request.agentRoleId
    match capability.availability with
    | .unavailable reason => refused reason .unavailable
    | .available =>
      if ¬capability.allowedAgentRoles.any fun role => .string role = agentRole then
        refused ("Role " ++ agentRole.text ++ " cannot use " ++ request.capabilityId.text ++ ".")
          .blocked
      else if capability.restricted ∧ ¬policyOptions.allowRestrictedExecuteCapabilities then
        refused (request.capabilityId.text ++
            " is a restricted execute capability and is not a default Hobit app-action path.")
          .blocked (capability.confirmationRequirement == .required)
      else if request.dryRun.truthy ∧ ¬capability.supportsDryRun then
        refused (request.capabilityId.text ++ " does not support dry-run.") .blocked
      else if brokerRequiresConfirmation capability ∧ ¬request.confirmationToken.truthy then
        refused (request.capabilityId.text ++ " requires confirmation.") .requiresConfirmation true
      else if policyOptions.requireDryRunBeforeSideEffectingInvoke ∧
          brokerRequiresDryRunBeforeInvoke capability ∧ ¬request.dryRun.truthy then
        refused (request.capabilityId.text ++ " requires dry-run before invocation.")
          .requiresDryRun false true
      else
        { allowed := true, capability := some capability, reasons := []
          requiresConfirmation := false, requiresDryRun := false, status := .allowed }

/-! ## The two ways to ask -/

/-- What both ways do before the handler: an answer without it, or its call. -/
def admitRequest (broker : HobitAgentActionBroker σ ι ο) (request : HobitAgentActionRequest ι) :
    Except (HobitAgentBrokerResult ι ο)
      ((HobitAgentActionHandlerContext ι → σ → HandlerOutcome ο × σ) ×
        HobitAgentActionHandlerContext ι) :=
  let validationEvents := [createBrokerAuditEvent "capability.validation.started"
    ("Validating " ++ request.capabilityId.text ++ ".") request .read]
  let reasons := validateActionRequest request
  if reasons ≠ [] then
    .error (createBrokerInvalidInputResult
      (validationEvents ++ [createBrokerAuditEvent "capability.policy.blocked"
        (reasons.head?.getD "Action request is invalid.") request .read]) reasons request)
  else
    let policyDecision := evaluateBrokerPolicy broker.registry request broker.policyOptions
    let sideEffectLevel := (policyDecision.capability.map (·.sideEffectLevel)).getD .read
    let policyEvent := createBrokerAuditEvent
      (if policyDecision.allowed then "capability.policy.allowed" else "capability.policy.blocked")
      (if policyDecision.allowed then
        request.capabilityId.text ++ " was allowed by broker policy."
      else policyDecision.reasons.head?.getD
        (request.capabilityId.text ++ " was blocked by broker policy."))
      request sideEffectLevel
    let auditEvents := validationEvents ++ [policyEvent]
    if policyDecision.status = .unavailable then
      .error (createBrokerUnavailableResult auditEvents policyDecision
        (policyDecision.reasons.head?.getD (request.capabilityId.text ++ " is unavailable."))
        request)
    else if policyDecision.status = .requiresConfirmation then
      .error (createBrokerNeedsConfirmationResult auditEvents policyDecision request)
    else if policyDecision.status = .requiresDryRun then
      .error (createBrokerDryRunRequiredResult auditEvents policyDecision request)
    else if policyDecision.status = .blocked ∨ ¬policyDecision.allowed then
      .error (createBrokerPolicyBlockedResult auditEvents policyDecision request)
    else
      match broker.handlers request.capabilityId.text, policyDecision.capability with
      | some handler, some capability =>
        .ok (handler,
          { auditEvents, capability, policyDecision, registry := broker.registry, request })
      | _, _ =>
        .error (createBrokerUnavailableResult
          (auditEvents ++ [createBrokerAuditEvent "capability.invoke.unavailable"
            (request.capabilityId.text ++ " has no broker handler in this frontend model.")
            request sideEffectLevel])
          policyDecision
          (request.capabilityId.text ++ " is not implemented by this Action Broker MVP.") request)

/-- The result of a handler that failed, or that may not be used this way. -/
def failedUnexpectedly (context : HobitAgentActionHandlerContext ι) (message : String) :
    HobitAgentBrokerResult ι ο :=
  brokerResult context.request context.policyDecision
    (createActionResult context.request message context.policyDecision [message]
      "unexpected_error" .failedUnexpected
      (context.auditEvents ++ [createBrokerAuditEvent "capability.invoke.completed" message
        context.request context.capability.sideEffectLevel]))

/-- The result of a handler that has ended. -/
def settledResult (context : HobitAgentActionHandlerContext ι) :
    Settled ο → HobitAgentBrokerResult ι ο
  | .throws message =>
    failedUnexpectedly context (message.getD "Action handler failed unexpectedly.")
  | .returns result =>
    brokerResult context.request context.policyDecision
      { result with
        auditEvents := context.auditEvents ++ result.auditEvents ++ [createBrokerAuditEvent
          (if context.request.dryRun.truthy then "capability.dryRun.completed"
            else "capability.invoke.completed")
          result.message context.request context.capability.sideEffectLevel]
        policyDecision := some context.policyDecision }

/-- An answer with the call of the handler that was made for it. -/
structure Reply (ι ο : Type) where
  result : HobitAgentBrokerResult ι ο
  handlerCall : Option (HobitAgentActionHandlerContext ι)

/-- A request that is carried out, with the call of its handler. -/
def invoke (broker : HobitAgentActionBroker σ ι ο) (request : HobitAgentActionRequest ι) (s : σ) :
    Reply ι ο × σ :=
  match admitRequest broker request with
  | .error result => (⟨result, none⟩, s)
  | .ok (handler, context) =>
    match handler context s with
    | (.sync outcome, t) => (⟨settledResult context outcome, some context⟩, t)
    | (.promise _, t) =>
      (⟨failedUnexpectedly context (request.capabilityId.text ++
        " uses an async handler and must be invoked with invokeAsync."), some context⟩, t)

/-- The value of the promise is the one it settles with. -/
def invokeAsync (broker : HobitAgentActionBroker σ ι ο) (request : HobitAgentActionRequest ι)
    (s : σ) : Reply ι ο × σ :=
  match admitRequest broker request with
  | .error result => (⟨result, none⟩, s)
  | .ok (handler, context) =>
    match handler context s with
    | (.sync outcome, t) | (.promise outcome, t) =>
      (⟨settledResult context outcome, some context⟩, t)

/-! ## The gate -/

/-- A text that is not blank. -/
def isText (value : JsValue) : Prop := ∃ s, value = .string s ∧ trim s ≠ ""

/-- A request that passes the check of its shape. -/
structure WellFormed (request : HobitAgentActionRequest ι) : Prop where
  requestId : isText request.requestId
  agentId : isText request.agentId
  agentRole : isText (request.agentRole.orElse request.agentRoleId)
  capabilityId : isText request.capabilityId
  createdAt : isText (request.createdAt.orElse request.requestedAt)
  dryRun : ∃ value, request.dryRun = .boolean value
  input : request.input.isSome

/-- What a request must satisfy apart from the order of dry runs. -/
structure Admissible (broker : HobitAgentActionBroker σ ι ο) (request : HobitAgentActionRequest ι)
    (capability : HobitAgentCapability) : Prop where
  wellFormed : WellFormed request
  registered : findCapability broker.registry request.capabilityId = some capability
  available : capability.availability = .available
  handled : (broker.handlers request.capabilityId.text).isSome
  role : ∃ role ∈ capability.allowedAgentRoles,
    .string role = request.agentRole.orElse request.agentRoleId
  restricted : capability.restricted = true →
    broker.policyOptions.allowRestrictedExecuteCapabilities = true
  dryRun : request.dryRun = .boolean true → capability.supportsDryRun = true
  confirmed : capability.confirmationRequirement = .required ∨
      capability.sideEffectLevel = .destructive → request.confirmationToken.truthy = true

/-- The broker asks for a dry run in place of the request. -/
def DryRunFirst (broker : HobitAgentActionBroker σ ι ο) (capability : HobitAgentCapability) :
    Prop :=
  broker.policyOptions.requireDryRunBeforeSideEffectingInvoke = true ∧
    capability.sideEffectLevel ≠ .read ∧ capability.supportsDryRun = true

/-- The gate of the broker. -/
def Gate (broker : HobitAgentActionBroker σ ι ο) (request : HobitAgentActionRequest ι) : Prop :=
  ∃ capability, Admissible broker request capability ∧
    (DryRunFirst broker capability → request.dryRun = .boolean true)

theorem requiredStringReason_eq_none {value : JsValue} {fieldName : String} :
    requiredStringReason value fieldName = none ↔ isText value := by
  cases value <;> simp [requiredStringReason, isText]

theorem validateActionRequest_eq_nil {request : HobitAgentActionRequest ι} :
    validateActionRequest request = [] ↔ WellFormed request := by
  simp only [validateActionRequest, List.filterMap_eq_nil_iff, List.forall_mem_cons, id_eq,
    requiredStringReason_eq_none, List.not_mem_nil, false_imp_iff, implies_true, and_true]
  constructor
  · rintro ⟨h₁, h₂, h₃, h₄, h₅, hdry, hinput⟩
    refine ⟨h₁, h₂, h₃, h₄, h₅, ?_, ?_⟩
    · cases hd : request.dryRun <;> simp [hd] at hdry ⊢
    · cases hi : request.input <;> simp [hi] at hinput ⊢
  · rintro ⟨h₁, h₂, h₃, h₄, h₅, ⟨value, hdry⟩, hinput⟩
    refine ⟨h₁, h₂, h₃, h₄, h₅, by simp [hdry], ?_⟩
    cases hi : request.input <;> simp [hi] at hinput ⊢

/-- **The decision allows exactly what passes its five tests**, and says so in its status. -/
theorem evaluateBrokerPolicy_allowed {registry : List HobitAgentCapability}
    {request : HobitAgentActionRequest ι} {policyOptions : HobitAgentActionBrokerPolicyOptions}
    {capability : HobitAgentCapability}
    (hfound : findCapability registry request.capabilityId = some capability) :
    (evaluateBrokerPolicy registry request policyOptions).status = .allowed ↔
      capability.availability = .available ∧
      (∃ role ∈ capability.allowedAgentRoles,
        .string role = request.agentRole.orElse request.agentRoleId) ∧
      (capability.restricted = true → policyOptions.allowRestrictedExecuteCapabilities = true) ∧
      (request.dryRun.truthy = true → capability.supportsDryRun = true) ∧
      (brokerRequiresConfirmation capability = true → request.confirmationToken.truthy = true) ∧
      (policyOptions.requireDryRunBeforeSideEffectingInvoke = true →
        brokerRequiresDryRunBeforeInvoke capability = true → request.dryRun.truthy = true) := by
  simp only [evaluateBrokerPolicy, hfound]
  cases hav : capability.availability with
  | unavailable reason => simp
  | available =>
    simp only [List.any_eq_true, decide_eq_true_eq]
    split_ifs with h₁ h₂ h₃ h₄ h₅ <;> simp_all

/-- What the decision says about a registered capability. -/
theorem evaluateBrokerPolicy_fields {registry : List HobitAgentCapability}
    {request : HobitAgentActionRequest ι} {policyOptions : HobitAgentActionBrokerPolicyOptions} :
    ((evaluateBrokerPolicy registry request policyOptions).allowed = true ↔
      (evaluateBrokerPolicy registry request policyOptions).status = .allowed) ∧
    (evaluateBrokerPolicy registry request policyOptions).capability =
      findCapability registry request.capabilityId := by
  unfold evaluateBrokerPolicy
  cases hfound : findCapability registry request.capabilityId with
  | none => simp
  | some capability =>
    cases hav : capability.availability with
    | unavailable reason => simp [hav]
    | available =>
      simp only [hav]
      split_ifs <;> simp

/-- The truth value of a well-formed `dryRun`. -/
theorem WellFormed.dryRun_truthy {request : HobitAgentActionRequest ι} (h : WellFormed request) :
    request.dryRun.truthy = true ↔ request.dryRun = .boolean true := by
  obtain ⟨value, hvalue⟩ := h.dryRun
  simp [hvalue, JsValue.truthy]

/-- The cascade passes what is well formed, allowed and handled. -/
theorem admitRequest_ok {broker : HobitAgentActionBroker σ ι ο}
    {request : HobitAgentActionRequest ι} :
    (∃ call, admitRequest broker request = .ok call) ↔
      WellFormed request ∧
      (evaluateBrokerPolicy broker.registry request broker.policyOptions).status = .allowed ∧
      (broker.handlers request.capabilityId.text).isSome ∧
      (findCapability broker.registry request.capabilityId).isSome := by
  obtain ⟨hallowed, hcapability⟩ := @evaluateBrokerPolicy_fields _ broker.registry request
    broker.policyOptions
  rw [← validateActionRequest_eq_nil, ← hcapability]
  simp only [admitRequest]
  by_cases hvalid : validateActionRequest request = []
  · cases hstatus : (evaluateBrokerPolicy broker.registry request broker.policyOptions).status
    case allowed =>
      rw [hstatus] at hallowed
      cases hhandler : broker.handlers request.capabilityId.text <;>
        cases hcap : (evaluateBrokerPolicy broker.registry request
          broker.policyOptions).capability <;>
        simp [hvalid, hallowed]
    all_goals simp [hvalid]
  · simp [hvalid]

/-- **A request is admitted exactly when it satisfies the gate.** -/
theorem admitRequest_gate {broker : HobitAgentActionBroker σ ι ο}
    {request : HobitAgentActionRequest ι} :
    (∃ call, admitRequest broker request = .ok call) ↔ Gate broker request := by
  rw [admitRequest_ok]
  constructor
  · rintro ⟨hwf, hallowed, hhandler, hsome⟩
    obtain ⟨capability, hfound⟩ := Option.isSome_iff_exists.1 hsome
    obtain ⟨hav, hrole, hrestricted, hdry, hconfirm, hfirst⟩ :=
      (evaluateBrokerPolicy_allowed hfound).1 hallowed
    refine ⟨capability, ⟨hwf, hfound, hav, hhandler, hrole, hrestricted, ?_, ?_⟩, ?_⟩
    · exact fun h => hdry (hwf.dryRun_truthy.2 h)
    · intro h
      exact hconfirm (by simpa [brokerRequiresConfirmation] using h)
    · rintro ⟨hoption, hlevel, hsupports⟩
      exact hwf.dryRun_truthy.1
        (hfirst hoption (by simp [brokerRequiresDryRunBeforeInvoke, hlevel, hsupports]))
  · rintro ⟨capability, h, hfirst⟩
    refine ⟨h.wellFormed, ?_, h.handled, by simp [h.registered]⟩
    refine (evaluateBrokerPolicy_allowed h.registered).2
      ⟨h.available, h.role, h.restricted, ?_, ?_, ?_⟩
    · exact fun hdry => h.dryRun (h.wellFormed.dryRun_truthy.1 hdry)
    · intro hconfirm
      exact h.confirmed (by simpa [brokerRequiresConfirmation] using hconfirm)
    · intro hoption hrequires
      simp only [brokerRequiresDryRunBeforeInvoke, Bool.and_eq_true, bne_iff_ne] at hrequires
      exact h.wellFormed.dryRun_truthy.2 (hfirst ⟨hoption, hrequires⟩)

/-- The handler that is called is the one of the capability, and it gets the request. -/
theorem admitRequest_call {broker : HobitAgentActionBroker σ ι ο}
    {request : HobitAgentActionRequest ι}
    {handler : HobitAgentActionHandlerContext ι → σ → HandlerOutcome ο × σ}
    {context : HobitAgentActionHandlerContext ι}
    (h : admitRequest broker request = .ok (handler, context)) :
    broker.handlers request.capabilityId.text = some handler ∧ context.request = request := by
  unfold admitRequest at h
  extract_lets validationEvents reasons at h
  -- the five checks in a row, and then the handler of the capability
  iterate 5
    split at h
    · cases h
  split at h
  · rename_i hhandler _
    obtain ⟨rfl, rfl⟩ := Prod.mk.inj (Except.ok.inj h)
    exact ⟨hhandler, rfl⟩
  · cases h

/-! ## Sessions -/

/-- One request of a session and the way it is made. -/
structure SessionCall (ι : Type) where
  async : Bool
  request : HobitAgentActionRequest ι

def answer (broker : HobitAgentActionBroker σ ι ο) (call : SessionCall ι) (s : σ) :
    Reply ι ο × σ :=
  if call.async then invokeAsync broker call.request s else invoke broker call.request s

/-- The replies of a session, one after another over the state of the handlers. -/
def runSession (broker : HobitAgentActionBroker σ ι ο) : List (SessionCall ι) → σ →
    List (Reply ι ο) × σ
  | [], s => ([], s)
  | call :: rest, s =>
    let (reply, t) := answer broker call s
    let (replies, u) := runSession broker rest t
    (reply :: replies, u)

theorem runSession_cons {broker : HobitAgentActionBroker σ ι ο} {call : SessionCall ι}
    {rest : List (SessionCall ι)} {s : σ} :
    runSession broker (call :: rest) s =
      ((answer broker call s).1 :: (runSession broker rest (answer broker call s).2).1,
        (runSession broker rest (answer broker call s).2).2) :=
  rfl

/-- A handler that gives back its result, or throws. -/
def IsSynchronous (handler : HobitAgentActionHandlerContext ι → σ → HandlerOutcome ο × σ) :
    Prop :=
  ∀ context s, ∃ outcome, (handler context s).1 = .sync outcome

/-- The step lemma: one request calls its handler exactly when it satisfies the gate. -/
theorem answer_handlerCall {broker : HobitAgentActionBroker σ ι ο} {call : SessionCall ι}
    {s : σ} :
    ((answer broker call s).1.handlerCall.isSome ↔ Gate broker call.request) ∧
      ∀ context, (answer broker call s).1.handlerCall = some context →
        context.request = call.request := by
  rw [← admitRequest_gate]
  simp only [answer, invoke, invokeAsync]
  cases hadmit : admitRequest broker call.request with
  | error result => split_ifs <;> simp
  | ok admitted =>
    obtain ⟨handler, context⟩ := admitted
    obtain ⟨-, hrequest⟩ := admitRequest_call hadmit
    rcases houtcome : handler context s with ⟨_ | _, t⟩ <;> split_ifs <;>
      simp [houtcome, hrequest]

/-- The step lemma for the two ways. -/
theorem invoke_eq_invokeAsync {broker : HobitAgentActionBroker σ ι ο}
    {request : HobitAgentActionRequest ι} {s : σ}
    (hsync : ∀ handler, broker.handlers request.capabilityId.text = some handler →
      IsSynchronous handler) :
    invoke broker request s = invokeAsync broker request s := by
  unfold invoke invokeAsync
  cases hadmit : admitRequest broker request with
  | error result => rfl
  | ok admitted =>
    obtain ⟨handler, context⟩ := admitted
    obtain ⟨outcome, houtcome⟩ := hsync handler (admitRequest_call hadmit).1 context s
    rcases hrun : handler context s with ⟨_ | _, t⟩
    · simp [hrun]
    · rw [hrun] at houtcome
      cases houtcome

/-- **The broker is a gate over whole sessions, and remembers nothing**: each reply comes with
a call of the handler exactly when its own request satisfies the gate, and a session whose
handlers are synchronous does not depend on the ways its requests are made. -/
theorem session_is_gated (broker : HobitAgentActionBroker σ ι ο) (calls : List (SessionCall ι))
    (s : σ) :
    List.Forall₂ (fun call reply => (reply.handlerCall.isSome ↔ Gate broker call.request) ∧
      ∀ context, reply.handlerCall = some context → context.request = call.request)
      calls (runSession broker calls s).1 ∧
    ∀ others : List (SessionCall ι), others.map (·.request) = calls.map (·.request) →
      (∀ call ∈ calls, ∀ handler,
        broker.handlers call.request.capabilityId.text = some handler → IsSynchronous handler) →
      runSession broker others s = runSession broker calls s := by
  induction calls generalizing s with
  | nil =>
    refine ⟨List.Forall₂.nil, fun others hothers _ => ?_⟩
    simp only [List.map_nil, List.map_eq_nil_iff] at hothers
    rw [hothers]
  | cons call calls ih =>
    obtain ⟨hgated, hways⟩ := ih (answer broker call s).2
    refine ⟨List.Forall₂.cons answer_handlerCall hgated, fun others hothers hsync => ?_⟩
    obtain _ | ⟨other, others⟩ := others
    · simp at hothers
    · simp only [List.map_cons, List.cons.injEq] at hothers
      have hsame : answer broker other s = answer broker call s := by
        have hboth := @invoke_eq_invokeAsync _ _ _ broker call.request s
          (hsync call List.mem_cons_self)
        simp only [answer, hothers.1, hboth, ite_self]
      have hrest := hways others hothers.2 fun c hc => hsync c (List.mem_cons_of_mem _ hc)
      rw [runSession_cons, runSession_cons, hsame, hrest]

/-! ## A dry run is forgotten -/

def writeCapability : HobitAgentCapability :=
  { id := "queue.createItems", allowedAgentRoles := ["coordinator"], availability := .available
    confirmationRequirement := .none, restricted := false, sideEffectLevel := .write
    supportsDryRun := true }

/-- A broker whose one handler reports success and does nothing. -/
def writeBroker : HobitAgentActionBroker Unit Unit Unit :=
  { registry := [writeCapability]
    handlers := fun id =>
      if id = "queue.createItems" then
        some fun context s =>
          (.sync (.returns
            { auditEvents := [], capabilityId := context.request.capabilityId
              dryRun := context.request.dryRun, message := "Done.", ok := true
              policyDecision := none, policyReasons := []
              requestId := context.request.requestId, status := .succeeded }), s)
      else none
    policyOptions := {} }

def writeRequest (requestId : String) (dryRun : Bool) : HobitAgentActionRequest Unit :=
  { requestId := .string requestId, agentId := .string "agent-1"
    agentRole := .string "coordinator", agentRoleId := .string "coordinator"
    capabilityId := .string "queue.createItems", confirmationToken := .null
    createdAt := .string "2026-01-01", requestedAt := .undefined, dryRun := .boolean dryRun
    input := some () }

/-- A dry run, the real write after it, and a request for a capability that is not registered. -/
def writeSession : List (SessionCall Unit) :=
  [⟨false, writeRequest "1" true⟩, ⟨false, writeRequest "2" false⟩,
    ⟨false, { writeRequest "3" true with capabilityId := .string "queue.unknown" }⟩]

/-- The same session on the other way. -/
theorem session_is_gated_write :
    List.Forall₂ (fun call reply =>
      (reply.handlerCall.isSome ↔ Gate writeBroker call.request) ∧
        ∀ context, reply.handlerCall = some context → context.request = call.request)
      writeSession (runSession writeBroker writeSession ()).1 ∧
    runSession writeBroker (writeSession.map fun call => { call with async := true }) () =
      runSession writeBroker writeSession () := by
  obtain ⟨hgated, hways⟩ := session_is_gated writeBroker writeSession ()
  refine ⟨hgated, hways _ rfl ?_⟩
  intro call _ handler hhandler context s
  simp only [writeBroker] at hhandler
  split_ifs at hhandler
  obtain rfl := Option.some.inj hhandler
  exact ⟨_, rfl⟩

theorem dry_run_is_forgotten :
    Admissible writeBroker (writeRequest "2" false) writeCapability ∧
      (runSession writeBroker [⟨false, writeRequest "1" true⟩, ⟨false, writeRequest "2" false⟩]
        ()).1.map (fun reply => (reply.handlerCall.isSome, reply.result.status)) =
        [(true, .succeeded), (false, .dryRunRequired)] := by
  refine ⟨⟨⟨?_, ?_, ?_, ?_, ?_, ⟨false, rfl⟩, rfl⟩, by decide, rfl, rfl, ⟨"coordinator", by decide⟩,
    by decide, by decide, by simp [writeCapability]⟩, by decide +kernel⟩
  · exact ⟨"2", rfl, by decide +kernel⟩
  · exact ⟨"agent-1", rfl, by decide +kernel⟩
  · exact ⟨"coordinator", rfl, by decide +kernel⟩
  · exact ⟨"queue.createItems", rfl, by decide +kernel⟩
  · exact ⟨"2026-01-01", rfl, by decide +kernel⟩

end HobitQueue.Frontend.Broker
