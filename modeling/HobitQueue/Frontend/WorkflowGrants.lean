import HobitQueue.Frontend.WorkflowRequests
import HobitQueue.Lib.JsonParts
import Mathlib.Algebra.Order.Ring.Rat

/-!
# Grants of workflow requests

An agent's request for a workflow separates the permissions it asks for, its grant, from the
data the workflow works on, its inputs. A grant is walked twice: at every depth outside its scope
for members that are named like workflow data, and member by member for the kinds of its fields.

## Main results

* `collect_eq_nil` — the walk finds nothing exactly when no name of the kind is at any depth.
* `validateGrant_eq_nil` — a grant without issues.
* `workflow_grant_carries_permissions_only` — the accepted envelopes.
-/

namespace HobitQueue.Frontend.WorkflowGrantInputSplit

open JavaScript

/-! ## Issues and results -/

inductive WorkflowGrantInputSplitReasonCode where
  | invalidGrantField | invalidGrantScope | malformedGrant | malformedInputs
  | productInputInGrant
  deriving DecidableEq

structure WorkflowGrantInputSplitIssue where
  fieldPath : String
  message : String
  reasonCode : WorkflowGrantInputSplitReasonCode
  deriving DecidableEq

inductive WorkflowGrantInputSplitValidationResult where
  | valid (grant inputs : Option Json)
  | invalid (fieldPath message : String) (reasonCode : WorkflowGrantInputSplitReasonCode)
      (issues : List WorkflowGrantInputSplitIssue)
  deriving DecidableEq

/-! ## Field names -/

def grantFields : List String := ["confirmationToken", "constraints", "maxActions", "mode", "scope"]

def productInputFields : List String :=
  ["approvalPolicy", "codexExecutable", "dependsOn", "dependsOnSlots", "evidenceBundleId",
    "executorWidgetId", "inputs", "messageId", "prompt", "prompts", "runId", "runSettings",
    "sandbox", "task", "taskId", "tasks", "title", "workflowInputs", "workspaceRoot"]

def scopeIdFields : List String :=
  ["capabilityIds", "evidenceBundleIds", "executorWidgetIds", "messageIds", "moduleIds", "runIds",
    "taskIds"]

def scopeFieldForSingularIdEntries : List (String × String) :=
  [("evidenceBundleId", "evidenceBundleIds"), ("executorWidgetId", "executorWidgetIds"),
    ("messageId", "messageIds"), ("runId", "runIds"), ("taskId", "taskIds")]

/-- What the validation takes from the language: the finite number that a numeral is read as, and
the text of what an object literal inherits under a name such as `constructor`. -/
structure Language where
  number : String → Option ℚ
  inherited : String → Option String

variable (language : Language)

/-- `SCOPE_FIELD_FOR_SINGULAR_ID[fieldName]`. -/
def scopeFieldForSingularId (fieldName : String) : Option String :=
  scopeFieldForSingularIdEntries.lookup fieldName <|> language.inherited fieldName

/-! ## Messages -/

def productInputMessage (fieldName : String) : String :=
  match scopeFieldForSingularId language fieldName with
  | some scopeField =>
    "Workflow grant cannot contain direct " ++ fieldName ++ ". Use $.grant.scope." ++ scopeField ++
      " for permission scope, or put workflow data under $.inputs."
  | none =>
    "Workflow grant cannot contain workflow data field " ++ fieldName ++
      ". Put workflow data under $.inputs."

def scopeFieldMessage (fieldName : String) : String :=
  match scopeFieldForSingularId language fieldName with
  | some scopeField => "Workflow grant scope uses " ++ scopeField ++ ", not " ++ fieldName ++ "."
  | none =>
    "Workflow grant scope field " ++ fieldName ++
      " is not supported. Scope ids must use explicit *Ids arrays."

/-! ## The walk at every depth -/

mutual

/-- The issues of the members named like workflow data, outside the scope. -/
def collectProductInputFieldsInGrant (value : Json) (fieldPath : String) :
    List WorkflowGrantInputSplitIssue :=
  if fieldPath = "$.grant.scope" then []
  else
    match value with
    | .arr items => collectInItems items fieldPath 0
    | .obj members => collectInMembers members fieldPath
    | _ => []

def collectInItems (items : List Json) (fieldPath : String) (index : ℕ) :
    List WorkflowGrantInputSplitIssue :=
  match items with
  | [] => []
  | item :: items =>
    collectProductInputFieldsInGrant item (fieldPath ++ "[" ++ toString index ++ "]") ++
      collectInItems items fieldPath (index + 1)

def collectInMembers (members : List (String × Json)) (fieldPath : String) :
    List WorkflowGrantInputSplitIssue :=
  match members with
  | [] => []
  | (fieldName, fieldValue) :: members =>
    (if productInputFields.contains fieldName then
      [{ fieldPath := fieldPath ++ "." ++ fieldName
         message := productInputMessage language fieldName
         reasonCode := .productInputInGrant }]
    else if scopeIdFields.contains fieldName ∧ fieldPath ≠ "$.grant" ∧
        fieldPath ≠ "$.grant.scope" then
      [{ fieldPath := fieldPath ++ "." ++ fieldName
         message := "Scope ids belong under $.grant.scope." ++ fieldName ++ "."
         reasonCode := .invalidGrantScope }]
    else collectProductInputFieldsInGrant fieldValue (fieldPath ++ "." ++ fieldName)) ++
      collectInMembers members fieldPath

end

/-! ## The kinds of the fields -/

def stringArray : Json → Bool
  | .arr items => items.all fun item => nonEmptyString (some item)
  | _ => false

/-- A finite whole number above zero. -/
def positiveInteger : Json → Bool
  | .num numeral =>
    match language.number numeral with
    | some value => value.den == 1 && decide (0 < value)
    | none => false
  | _ => false

/-- What is wrong with the scope of a grant. -/
def validateGrantScope (value : Json) : List WorkflowGrantInputSplitIssue :=
  match value.asObject with
  | none =>
    [{ fieldPath := "$.grant.scope"
       message := "Workflow grant scope must be a JSON object."
       reasonCode := .invalidGrantScope }]
  | some members => members.flatMap fun (fieldName, fieldValue) =>
    if !scopeIdFields.contains fieldName then
      [{ fieldPath := "$.grant.scope." ++ fieldName
         message := scopeFieldMessage language fieldName
         reasonCode := .invalidGrantScope }]
    else if !stringArray fieldValue then
      [{ fieldPath := "$.grant.scope." ++ fieldName
         message := "Workflow grant scope " ++ fieldName ++
           " must be an array of non-empty strings."
         reasonCode := .invalidGrantScope }]
    else []

/-- What is wrong with a field of a grant. -/
def validateGrantField (fieldName : String) (value : Json) : List WorkflowGrantInputSplitIssue :=
  if fieldName = "confirmationToken" ∨ fieldName = "mode" then
    if !nonEmptyString (some value) then
      [{ fieldPath := "$.grant." ++ fieldName
         message := "Workflow grant " ++ fieldName ++ " must be a non-empty string."
         reasonCode := .invalidGrantField }]
    else []
  else if fieldName = "maxActions" then
    if !positiveInteger language value then
      [{ fieldPath := "$.grant.maxActions"
         message := "Workflow grant maxActions must be a positive integer."
         reasonCode := .invalidGrantField }]
    else []
  else if fieldName = "constraints" then
    if value.asObject.isNone then
      [{ fieldPath := "$.grant.constraints"
         message := "Workflow grant constraints must be a JSON object."
         reasonCode := .invalidGrantField }]
    else []
  else if fieldName = "scope" then validateGrantScope language value
  else []

/-! ## The validation -/

/-- The issues of one member of the grant; the walk has reported the names of workflow data. -/
def validateGrantMember (fieldName : String) (fieldValue : Json) :
    List WorkflowGrantInputSplitIssue :=
  if productInputFields.contains fieldName then []
  else if scopeIdFields.contains fieldName then
    [{ fieldPath := "$.grant." ++ fieldName
       message := "Scope ids belong under $.grant.scope." ++ fieldName ++ "."
       reasonCode := .invalidGrantScope }]
  else if !grantFields.contains fieldName then
    [{ fieldPath := "$.grant." ++ fieldName
       message := "Workflow grant field " ++ fieldName ++
         " is not supported. Grants may contain only permission and scope metadata."
       reasonCode := .invalidGrantField }]
  else validateGrantField language fieldName fieldValue

def validateGrant (value : Json) : List WorkflowGrantInputSplitIssue :=
  match value.asObject with
  | none =>
    [{ fieldPath := "$.grant"
       message := "Workflow grant must be a JSON object."
       reasonCode := .malformedGrant }]
  | some members =>
    collectProductInputFieldsInGrant language value "$.grant" ++
      members.flatMap fun (fieldName, fieldValue) =>
        validateGrantMember language fieldName fieldValue

def validateInputs (value : Json) : List WorkflowGrantInputSplitIssue :=
  if value.asObject.isNone then
    [{ fieldPath := "$.inputs"
       message := "Workflow inputs must be a JSON object."
       reasonCode := .malformedInputs }]
  else []

/-- The issues of an envelope, the grant's before the inputs'. -/
def grantAndInputsIssues (envelope : List (String × Json)) : List WorkflowGrantInputSplitIssue :=
  (match envelope.lookup "grant" with
    | some grant => validateGrant language grant
    | none => []) ++
  (match envelope.lookup "inputs" with
    | some inputs => validateInputs inputs
    | none => [])

/-- What is wrong with an envelope of a grant and inputs. -/
def validateWorkflowGrantAndInputsSplit (envelope : List (String × Json)) :
    WorkflowGrantInputSplitValidationResult :=
  match grantAndInputsIssues language envelope with
  | [] => .valid (envelope.lookup "grant") (envelope.lookup "inputs")
  | firstIssue :: issues =>
    .invalid firstIssue.fieldPath firstIssue.message firstIssue.reasonCode (firstIssue :: issues)

/-! ## What a grant may be -/

/-- A name of workflow data: a product input or a list of scope ids. -/
def WorkflowDataName (name : String) : Prop := name ∈ productInputFields ∨ name ∈ scopeIdFields

/-- A text that is not blank. -/
def NonBlankText (value : Json) : Prop := ∃ text, value = .str text ∧ trim text ≠ ""

/-- The scope has lists of ids only, and an id is a text that is not blank. -/
def ScopeKind (value : Json) : Prop :=
  ∃ members, value = .obj members ∧ ∀ field ∈ members, field.1 ∈ scopeIdFields ∧
    ∃ ids, field.2 = .arr ids ∧ ∀ id ∈ ids, NonBlankText id

/-- The kind that a field of a grant is required to have. -/
def RequiredKind (fieldName : String) (value : Json) : Prop :=
  if fieldName = "confirmationToken" ∨ fieldName = "mode" then NonBlankText value
  else if fieldName = "maxActions" then
    ∃ numeral, ∃ n : ℕ, value = .num numeral ∧ language.number numeral = some (n : ℚ) ∧ 0 < n
  else if fieldName = "constraints" then ∃ members, value = .obj members
  else if fieldName = "scope" then ScopeKind value
  else False

/-- The values that are inside a grant but not inside its scope. -/
inductive OutsideScope (members : List (String × Json)) : Json → Prop where
  | grant : OutsideScope members (.obj members)
  | field {field : String × Json} {part : Json} (hfield : field ∈ members)
      (hscope : field.1 ≠ "scope") (hpart : part.Part field.2) : OutsideScope members part

/-- A grant of permissions: known fields of their kinds and no name of workflow data at any
depth outside the scope. -/
structure PermissionsOnly (members : List (String × Json)) : Prop where
  known : ∀ field ∈ members, field.1 ∈ grantFields
  kinds : ∀ field ∈ members, RequiredKind language field.1 field.2
  noData : ∀ inner, OutsideScope members (.obj inner) →
    ∀ field ∈ inner, ¬ WorkflowDataName field.1

/-! ## The walk finds every name -/

variable {language : Language}

/-- A path below a field of the grant that is not its scope. -/
def OffScope (path : String) : Prop := ∃ rest, path = "$.grant." ++ rest ∧ rest ≠ "scope"

theorem OffScope.ne_scope {path : String} (h : OffScope path) : path ≠ "$.grant.scope" := by
  obtain ⟨rest, rfl, hrest⟩ := h
  intro heq
  have hsplit : "$.grant." ++ rest = "$.grant." ++ "scope" := heq
  rw [String.append_right_inj] at hsplit
  exact hrest hsplit

theorem OffScope.ne_grant {path : String} (h : OffScope path) : path ≠ "$.grant" := by
  obtain ⟨rest, rfl, -⟩ := h
  intro heq
  have hlength := congrArg String.length heq
  have hgrant : "$.grant".length = 7 := rfl
  have hdot : "$.grant.".length = 8 := rfl
  rw [String.length_append, hgrant, hdot] at hlength
  omega

/-- A path that goes on behind a mark that `scope` has not got stays off the scope. -/
theorem OffScope.append {path mark more : String} {c : Char} (h : OffScope path)
    (hmark : c ∈ mark.toList) (hscope : c ∉ "scope".toList) : OffScope (path ++ mark ++ more) := by
  obtain ⟨rest, rfl, -⟩ := h
  refine ⟨rest ++ mark ++ more, by simp only [String.append_assoc], ?_⟩
  intro heq
  rw [← heq] at hscope
  simp [hmark] at hscope

theorem OffScope.member {path fieldName : String} (h : OffScope path) :
    OffScope (path ++ "." ++ fieldName) := h.append (c := '.') (by decide) (by decide)

theorem OffScope.item {path : String} {index : ℕ} (h : OffScope path) :
    OffScope (path ++ "[" ++ toString index ++ "]") := by
  rw [String.append_assoc]
  exact h.append (c := '[') (by decide) (by decide)

theorem collectInItems_eq_nil {items : List Json} {path : String} {clean : Json → Prop}
    (hitem : ∀ item ∈ items, ∀ index : ℕ, collectProductInputFieldsInGrant language item
      (path ++ "[" ++ toString index ++ "]") = [] ↔ clean item) {n : ℕ} :
    collectInItems language items path n = [] ↔ ∀ item ∈ items, clean item := by
  induction items generalizing n with
  | nil => simp [collectInItems]
  | cons item items ih =>
    have hhead := hitem item List.mem_cons_self n
    have htail := ih (fun item hmem => hitem item (List.mem_cons_of_mem _ hmem)) (n := n + 1)
    rw [collectInItems, List.append_eq_nil_iff, hhead, htail, List.forall_mem_cons]

theorem collectInMembers_eq_nil {members : List (String × Json)} {path : String} :
    collectInMembers language members path = [] ↔ ∀ field ∈ members,
      field.1 ∉ productInputFields ∧
      ¬ (field.1 ∈ scopeIdFields ∧ path ≠ "$.grant" ∧ path ≠ "$.grant.scope") ∧
      collectProductInputFieldsInGrant language field.2 (path ++ "." ++ field.1) = [] := by
  induction members with
  | nil => simp [collectInMembers]
  | cons field members ih =>
    rw [collectInMembers, List.append_eq_nil_iff, ih, List.forall_mem_cons]
    refine and_congr_left fun _ => ?_
    simp only [List.contains_iff_mem]
    split_ifs with hproduct hscope
    · simp [hproduct]
    · simp [hscope]
    · simp only [hproduct, hscope, not_false_eq_true, true_and]

/-- Off the scope the walk finds nothing exactly when there is no name of workflow data. -/
theorem collect_eq_nil {value : Json} {path : String} (hpath : OffScope path) :
    collectProductInputFieldsInGrant language value path = [] ↔
      value.NoMember WorkflowDataName := by
  induction value using Json.induction_on generalizing path with
  | null => simp [collectProductInputFieldsInGrant]
  | bool b => simp [collectProductInputFieldsInGrant]
  | num numeral => simp [collectProductInputFieldsInGrant]
  | str s => simp [collectProductInputFieldsInGrant]
  | arr items ih =>
    rw [collectProductInputFieldsInGrant, if_neg hpath.ne_scope, Json.noMember_arr]
    exact collectInItems_eq_nil fun item hitem index => ih item hitem hpath.item
  | obj members ih =>
    rw [collectProductInputFieldsInGrant, if_neg hpath.ne_scope, Json.noMember_obj]
    simp only [collectInMembers_eq_nil]
    refine forall₂_congr fun field hfield => ?_
    rw [ih field hfield hpath.member]
    simp only [WorkflowDataName, hpath.ne_grant, hpath.ne_scope, ne_eq, not_false_eq_true,
      and_true, not_or, and_assoc]

/-- From the grant itself the walk passes over the scope and finds every other name. -/
theorem collect_grant_eq_nil {members : List (String × Json)} :
    collectProductInputFieldsInGrant language (.obj members) "$.grant" = [] ↔
      ∀ field ∈ members, field.1 ∉ productInputFields ∧
        (field.1 ≠ "scope" → field.2.NoMember WorkflowDataName) := by
  rw [collectProductInputFieldsInGrant, if_neg (by decide)]
  simp only [collectInMembers_eq_nil, ne_eq, not_true_eq_false, false_and, and_false,
    not_false_eq_true, true_and]
  refine forall₂_congr fun field _ => and_congr_right fun _ => ?_
  by_cases hscope : field.1 = "scope"
  · have hskip : "$.grant" ++ "." ++ "scope" = "$.grant.scope" := by decide
    rw [hscope, hskip, collectProductInputFieldsInGrant.eq_def]
    simp
  · have hpath : OffScope ("$.grant" ++ "." ++ field.1) := ⟨field.1, rfl, hscope⟩
    rw [collect_eq_nil hpath]
    simp [hscope]

/-! ## The fields have their kinds -/

theorem nonEmptyString_iff {value : Json} :
    nonEmptyString (some value) = true ↔ NonBlankText value := by
  cases value <;> simp [nonEmptyString, NonBlankText]

theorem stringArray_iff {value : Json} :
    stringArray value = true ↔ ∃ ids, value = .arr ids ∧ ∀ id ∈ ids, NonBlankText id := by
  cases value <;> simp [stringArray, nonEmptyString_iff]

theorem positiveInteger_iff {value : Json} :
    positiveInteger language value = true ↔ ∃ numeral, ∃ n : ℕ, value = .num numeral ∧
      language.number numeral = some (n : ℚ) ∧ 0 < n := by
  cases value with
  | num numeral =>
    rw [positiveInteger]
    cases hnumber : language.number numeral with
    | none => simp [hnumber]
    | some q =>
      simp only [Bool.and_eq_true, beq_iff_eq, decide_eq_true_eq, Json.num.injEq,
        exists_and_left, exists_eq_left', hnumber, Option.some.injEq]
      constructor
      · rintro ⟨hden, hpos⟩
        have hnum : 0 < q.num := Rat.num_pos.2 hpos
        have hvalue : q = (q.num.toNat : ℚ) := calc
          q = (q.num : ℚ) := (Rat.coe_int_num_of_den_eq_one hden).symm
          _ = ((q.num.toNat : ℤ) : ℚ) := by rw [Int.toNat_of_nonneg hnum.le]
          _ = (q.num.toNat : ℚ) := Int.cast_natCast _
        exact ⟨q.num.toNat, hvalue, by omega⟩
      · rintro ⟨n, rfl, hpos⟩
        exact ⟨Rat.den_natCast n, by exact_mod_cast hpos⟩
  | _ => simp [positiveInteger]

theorem validateGrantScope_eq_nil {value : Json} :
    validateGrantScope language value = [] ↔ ScopeKind value := by
  cases value with
  | obj members =>
    simp only [validateGrantScope, Json.asObject, List.flatMap_eq_nil_iff, ScopeKind,
      Json.obj.injEq, exists_eq_left', ← stringArray_iff]
    refine forall₂_congr fun field _ => ?_
    by_cases hknown : field.1 ∈ scopeIdFields
    · simp [hknown]
    · simp [hknown]
  | _ => simp [validateGrantScope, Json.asObject, ScopeKind]

theorem one_issue_eq_nil {condition : Bool} {issue : WorkflowGrantInputSplitIssue} :
    (if condition then [issue] else []) = [] ↔ condition = false := by
  cases condition <;> simp

theorem asObject_isNone_eq_false {value : Json} :
    value.asObject.isNone = false ↔ ∃ members, value = .obj members := by
  cases value <;> simp [Json.asObject]

theorem validateGrantField_eq_nil {fieldName : String} {value : Json}
    (hknown : fieldName ∈ grantFields) :
    validateGrantField language fieldName value = [] ↔ RequiredKind language fieldName value := by
  unfold validateGrantField RequiredKind
  by_cases htext : fieldName = "confirmationToken" ∨ fieldName = "mode"
  · rw [if_pos htext, if_pos htext, one_issue_eq_nil, Bool.not_eq_false', nonEmptyString_iff]
  rw [if_neg htext, if_neg htext]
  by_cases hcount : fieldName = "maxActions"
  · rw [if_pos hcount, if_pos hcount, one_issue_eq_nil, Bool.not_eq_false', positiveInteger_iff]
  rw [if_neg hcount, if_neg hcount]
  by_cases hconstraints : fieldName = "constraints"
  · rw [if_pos hconstraints, if_pos hconstraints, one_issue_eq_nil, asObject_isNone_eq_false]
  rw [if_neg hconstraints, if_neg hconstraints]
  have hscope : fieldName = "scope" := by
    simp only [grantFields, List.mem_cons, List.not_mem_nil, or_false] at hknown
    tauto
  rw [if_pos hscope, if_pos hscope, validateGrantScope_eq_nil]

theorem not_workflowDataName_of_known {fieldName : String} (h : fieldName ∈ grantFields) :
    ¬ WorkflowDataName fieldName := by
  have hall : ∀ name ∈ grantFields, name ∉ productInputFields ∧ name ∉ scopeIdFields := by
    decide
  exact not_or.2 (hall fieldName h)

/-- A member that is no product input raises no issue exactly when it is a known field of its
kind. -/
theorem validateGrantMember_eq_nil {fieldName : String} {value : Json}
    (hproduct : fieldName ∉ productInputFields) :
    validateGrantMember language fieldName value = [] ↔
      fieldName ∈ grantFields ∧ RequiredKind language fieldName value := by
  by_cases hknown : fieldName ∈ grantFields
  · have hdata := not_workflowDataName_of_known hknown
    have hscope : fieldName ∉ scopeIdFields := fun h => hdata (Or.inr h)
    have hfield := @validateGrantField_eq_nil language fieldName value hknown
    simp [validateGrantMember, hproduct, hscope, hknown, hfield]
  · by_cases hscope : fieldName ∈ scopeIdFields
    · simp [validateGrantMember, hproduct, hscope, hknown]
    · simp [validateGrantMember, hproduct, hscope, hknown]

/-! ## The accepted grants -/

/-- The names of workflow data are at no depth outside the scope exactly when no field has such a
name and nothing is inside a field that is not the scope. -/
theorem noData_iff {members : List (String × Json)} :
    (∀ inner, OutsideScope members (.obj inner) → ∀ field ∈ inner, ¬ WorkflowDataName field.1) ↔
      ∀ field ∈ members, ¬ WorkflowDataName field.1 ∧
        (field.1 ≠ "scope" → field.2.NoMember WorkflowDataName) := by
  constructor
  · intro h field hfield
    refine ⟨h members .grant field hfield, ?_⟩
    intro hscope inner hpart
    exact h inner (.field hfield hscope hpart)
  · intro h inner hinner
    cases hinner with
    | grant => exact fun field hfield => (h field hfield).1
    | field hfield hscope hpart => exact (h _ hfield).2 hscope inner hpart

theorem permissionsOnly_iff {members : List (String × Json)} :
    PermissionsOnly language members ↔ ∀ field ∈ members, field.1 ∈ grantFields ∧
      RequiredKind language field.1 field.2 ∧
      (field.1 ≠ "scope" → field.2.NoMember WorkflowDataName) := by
  constructor
  · intro h field hfield
    exact ⟨h.known field hfield, h.kinds field hfield, (noData_iff.1 h.noData field hfield).2⟩
  · intro h
    have hdata := noData_iff.2 fun field hfield =>
      ⟨not_workflowDataName_of_known (h field hfield).1, (h field hfield).2.2⟩
    exact ⟨fun field hfield => (h field hfield).1, fun field hfield => (h field hfield).2.1, hdata⟩

/-- The walk and the check of each field together leave no issue exactly for a grant of
permissions. -/
theorem validateGrant_eq_nil {value : Json} :
    validateGrant language value = [] ↔
      ∃ members, value = .obj members ∧ PermissionsOnly language members := by
  cases value with
  | obj members =>
    simp only [validateGrant, Json.asObject, List.append_eq_nil_iff, collect_grant_eq_nil,
      List.flatMap_eq_nil_iff, Json.obj.injEq, exists_eq_left', permissionsOnly_iff]
    rw [← forall₂_and]
    refine forall₂_congr fun field _ => ?_
    constructor
    · rintro ⟨⟨hproduct, hclean⟩, hmember⟩
      have hfield := (validateGrantMember_eq_nil hproduct).1 hmember
      exact ⟨hfield.1, hfield.2, hclean⟩
    · rintro ⟨hknown, hkind, hclean⟩
      have hproduct : field.1 ∉ productInputFields := fun h =>
        not_workflowDataName_of_known hknown (Or.inl h)
      exact ⟨⟨hproduct, hclean⟩, (validateGrantMember_eq_nil hproduct).2 ⟨hknown, hkind⟩⟩
  | _ => simp [validateGrant, Json.asObject]

theorem validateInputs_eq_nil {value : Json} :
    validateInputs value = [] ↔ ∃ members, value = .obj members := by
  rw [validateInputs, one_issue_eq_nil, asObject_isNone_eq_false]

/-- A grant of permissions has no product input at any depth, its scope included. -/
theorem PermissionsOnly.noMember {members : List (String × Json)}
    (h : PermissionsOnly language members) :
    (Json.obj members).NoMember (· ∈ productInputFields) := by
  rw [Json.noMember_obj]
  intro field hfield
  obtain ⟨hknown, hkind, hclean⟩ := permissionsOnly_iff.1 h field hfield
  refine ⟨fun hproduct => not_workflowDataName_of_known hknown (Or.inl hproduct), ?_⟩
  by_cases hscope : field.1 = "scope"
  · rw [hscope] at hkind
    obtain ⟨lists, hlists, hids⟩ := hkind
    rw [hlists, Json.noMember_obj]
    intro list hlist
    obtain ⟨hname, ids, hvalue, htexts⟩ := hids list hlist
    have hdisjoint : ∀ name ∈ scopeIdFields, name ∉ productInputFields := by decide
    refine ⟨hdisjoint list.1 hname, ?_⟩
    rw [hvalue, Json.noMember_arr]
    intro id hid
    obtain ⟨text, rfl, -⟩ := htexts id hid
    exact Json.noMember_str
  · exact (hclean hscope).mono fun name hname => Or.inl hname

/-- The validation answers that an envelope is valid. -/
def WorkflowGrantInputSplitValidationResult.Valid :
    WorkflowGrantInputSplitValidationResult → Prop
  | .valid .. => True
  | .invalid .. => False

theorem valid_iff {envelope : List (String × Json)} :
    (validateWorkflowGrantAndInputsSplit language envelope).Valid ↔
      (∀ grant, envelope.lookup "grant" = some grant → validateGrant language grant = []) ∧
      ∀ inputs, envelope.lookup "inputs" = some inputs → validateInputs inputs = [] := by
  have hissues : (validateWorkflowGrantAndInputsSplit language envelope).Valid ↔
      grantAndInputsIssues language envelope = [] := by
    unfold validateWorkflowGrantAndInputsSplit
    cases grantAndInputsIssues language envelope <;>
      simp [WorkflowGrantInputSplitValidationResult.Valid]
  rw [hissues, grantAndInputsIssues, List.append_eq_nil_iff]
  cases envelope.lookup "grant" <;> cases envelope.lookup "inputs" <;> simp

/-- An envelope is accepted exactly when its grant carries permissions only and its inputs are an
object, and then no product input is at any depth of the grant. -/
theorem workflow_grant_carries_permissions_only (language : Language)
    (envelope : List (String × Json)) :
    ((validateWorkflowGrantAndInputsSplit language envelope).Valid ↔
      (∀ grant, envelope.lookup "grant" = some grant →
        ∃ members, grant = .obj members ∧ PermissionsOnly language members) ∧
      ∀ inputs, envelope.lookup "inputs" = some inputs → ∃ members, inputs = .obj members) ∧
    ((validateWorkflowGrantAndInputsSplit language envelope).Valid →
      ∀ grant, envelope.lookup "grant" = some grant →
        grant.NoMember (· ∈ productInputFields)) := by
  have hvalid := @valid_iff language envelope
  simp only [validateGrant_eq_nil, validateInputs_eq_nil] at hvalid
  refine ⟨hvalid, ?_⟩
  intro hanswer grant hgrant
  obtain ⟨members, rfl, hmembers⟩ := (hvalid.1 hanswer).1 grant hgrant
  exact hmembers.noMember

-- The walk skips the grant's own scope only, not a member of that name further down.
example : validateGrant ⟨fun _ => none, fun _ => none⟩
    (.obj [("constraints", .obj [("scope", .obj [("taskIds", .arr [])])])]) =
      [{ fieldPath := "$.grant.constraints.scope.taskIds"
         message := "Scope ids belong under $.grant.scope.taskIds."
         reasonCode := .invalidGrantScope }] := by
  decide +kernel

end HobitQueue.Frontend.WorkflowGrantInputSplit
