import HobitQueue.Lib.JsonDocument
import HobitQueue.Lib.Text

/-!
# The payload of a prompt pack

A prompt pack comes as a JSON text. Before it is read as a pack its keys are looked
at: keys that would leave the workspace or carry a confirmation are refused wherever
they stand, unknown fields and missing ones are named by their path, and only then the
value is read as the input of version 1.
-/

namespace HobitQueue

/-- What is wrong with a pack, and where. -/
structure AgentQueuePromptPackPreviewDiagnostic where
  code : String
  message : String
  path : Option String
  deriving DecidableEq

/-- The request of a preview; the one of a materialization has the same fields. The
payload is the document as it is written. -/
structure AgentQueuePromptPackPreviewRequest where
  workspaceId : String
  jsonPayload : JsonText

abbrev AgentQueuePromptPackMaterializeRequest := AgentQueuePromptPackPreviewRequest

def diagnostic (code message : String) (path : Option String) :
    AgentQueuePromptPackPreviewDiagnostic := ⟨code, message, path⟩

/-! ## Keys -/

def joinObjectPath (parent key : String) : String := parent ++ "." ++ key

def indexedPath (parent : String) (index : ℕ) : String :=
  parent ++ "[" ++ Nat.repr index ++ "]"

def forbiddenKey (key path : String) : Option AgentQueuePromptPackPreviewDiagnostic :=
  if key = "confirmationToken" then
    some (diagnostic "confirmation_token_rejected"
      "Prompt pack JSON must not contain a confirmationToken object key." (some path))
  else if key = "workspaceId" ∨ key = "workspaceRoot" ∨ key = "executionWorkspace" then
    some (diagnostic "workspace_scope_rejected"
      "Prompt pack JSON must not define workspace scope or execution workspace fields."
      (some path))
  else none

mutual

/-- The first forbidden key of a value, in the order of its members and items. -/
def findForbiddenKey : Json → String → Option AgentQueuePromptPackPreviewDiagnostic
  | .obj members, path => findForbiddenMember members path
  | .arr items, path => findForbiddenItem items path 0
  | _, _ => none

def findForbiddenMember :
    List (String × Json) → String → Option AgentQueuePromptPackPreviewDiagnostic
  | [], _ => none
  | (key, child) :: rest, path =>
      match forbiddenKey key (joinObjectPath path key) with
      | some error => some error
      | none =>
          match findForbiddenKey child (joinObjectPath path key) with
          | some error => some error
          | none => findForbiddenMember rest path

def findForbiddenItem :
    List Json → String → ℕ → Option AgentQueuePromptPackPreviewDiagnostic
  | [], _, _ => none
  | item :: rest, path, index =>
      match findForbiddenKey item (indexedPath path index) with
      | some error => some error
      | none => findForbiddenItem rest path (index + 1)

end

def validateObjectFields (members : List (String × Json)) (path : String)
    (allowedFields : List String) : Option AgentQueuePromptPackPreviewDiagnostic :=
  (members.find? fun entry => !allowedFields.contains entry.1).map fun entry =>
    diagnostic "unsupported_field"
      ("Prompt pack field \"" ++ entry.1 ++ "\" is not supported.")
      (some (joinObjectPath path entry.1))

def validateNestedObjectFields (value : Json) (path : String) (allowedFields : List String) :
    Option AgentQueuePromptPackPreviewDiagnostic :=
  value.asObject.bind fun members => validateObjectFields members path allowedFields

/-- The items of an array with their places. -/
def indexedItems (value : Option Json) : List (Json × ℕ) :=
  match value with
  | some (.arr items) => items.zipIdx
  | _ => []

def promptPackFields : List String :=
  ["version", "packId", "title", "description", "defaults", "runSettings", "constraints", "tasks"]

def promptPackDefaultsFields : List String := ["status", "priority"]

def promptPackRunSettingsFields : List String :=
  ["executionTarget", "executionPolicy", "sandbox", "approvalPolicy"]

def promptPackExecutionTargetFields : List String := ["kind", "providerId"]

def promptPackConstraintsFields : List String := ["noAutoRun"]

def promptPackTaskFields : List String :=
  ["id", "title", "prompt", "dependsOn", "tags", "priority", "expectedOutput", "safety"]

def promptPackSafetyFields : List String := ["notes", "sensitiveTextWarning"]

/-- The unknown fields of a member that is there. -/
def validateMemberFields (value : Json) (key path : String) (allowedFields : List String) :
    Option AgentQueuePromptPackPreviewDiagnostic :=
  (value.field key).bind fun member => validateNestedObjectFields member path allowedFields

def validateTaskShape (task : Json) (index : ℕ) :
    Option AgentQueuePromptPackPreviewDiagnostic :=
  let path := indexedPath "$.tasks" index
  (validateNestedObjectFields task path promptPackTaskFields).or
    (validateMemberFields task "safety" (path ++ ".safety") promptPackSafetyFields)

/-- The check of the keys, all the way down. -/
def validateJsonShape (value : Json) : Option AgentQueuePromptPackPreviewDiagnostic :=
  (validateNestedObjectFields value "$" promptPackFields).or <|
  (validateMemberFields value "defaults" "$.defaults" promptPackDefaultsFields).or <|
  (validateMemberFields value "runSettings" "$.runSettings" promptPackRunSettingsFields).or <|
  ((value.field "runSettings").bind fun runSettings =>
    validateMemberFields runSettings "executionTarget" "$.runSettings.executionTarget"
      promptPackExecutionTargetFields).or <|
  (validateMemberFields value "constraints" "$.constraints" promptPackConstraintsFields).or <|
  (indexedItems (value.field "tasks")).findSome? fun entry =>
    validateTaskShape entry.1 entry.2

/-- The first of some keys that an object lacks, as it is reported. -/
def validateKeys (value : Json) (path : String) (keys : List (String × String × String)) :
    Option AgentQueuePromptPackPreviewDiagnostic :=
  value.asObject.bind fun members =>
    (keys.find? fun entry => (members.lookup entry.1).isNone).map fun entry =>
      diagnostic entry.2.1 entry.2.2 (some (joinObjectPath path entry.1))

/-- The check of the keys that must be there. -/
def validateRequiredKeys (value : Json) : Option AgentQueuePromptPackPreviewDiagnostic :=
  (validateKeys value "$" [
    ("version", "missing_version", "Prompt pack version is required."),
    ("packId", "missing_pack_id", "Prompt pack packId is required."),
    ("title", "missing_title", "Prompt pack title is required."),
    ("tasks", "missing_tasks", "Prompt pack tasks are required.")]).or <|
  (indexedItems (value.field "tasks")).findSome? fun entry =>
    validateKeys entry.1 (indexedPath "$.tasks" entry.2) [
      ("id", "missing_task_id", "Prompt pack task id is required."),
      ("title", "missing_task_title", "Prompt pack task title is required."),
      ("prompt", "missing_prompt", "Prompt pack task prompt is required.")]

/-! ## The input -/

structure PromptPackDefaultsInput where
  status : Option String
  priority : Option ℤ
  deriving DecidableEq

structure PromptPackExecutionTargetInput where
  kind : Option String
  providerId : Option String
  deriving DecidableEq

structure PromptPackRunSettingsInput where
  executionTarget : Option PromptPackExecutionTargetInput
  executionPolicy : Option String
  sandbox : Option String
  approvalPolicy : Option String
  deriving DecidableEq

structure PromptPackConstraintsInput where
  noAutoRun : Option Bool
  deriving DecidableEq

structure PromptPackSafetyInput where
  notes : Option String
  sensitiveTextWarning : Option Bool
  deriving DecidableEq

structure PromptPackTaskInput where
  id : String
  title : String
  prompt : String
  dependsOn : List String
  tags : List String
  priority : Option ℤ
  expectedOutput : Option String
  safety : Option PromptPackSafetyInput
  deriving DecidableEq

/-- A prompt pack as it is read. -/
structure PromptPackInput where
  version : ℕ
  packId : String
  title : String
  description : Option String
  defaults : Option PromptPackDefaultsInput
  runSettings : Option PromptPackRunSettingsInput
  constraints : Option PromptPackConstraintsInput
  tasks : List PromptPackTaskInput
  deriving DecidableEq

open Json

def readPromptPackDefaults (v : Json) : Except String PromptPackDefaultsInput := do
  let v ← v.declared promptPackDefaultsFields
  return { status := ← v.optional readStr "status"
           priority := ← v.optional readInt "priority" }

def readPromptPackExecutionTarget (v : Json) : Except String PromptPackExecutionTargetInput := do
  let v ← v.declared promptPackExecutionTargetFields
  return { kind := ← v.optional readStr "kind"
           providerId := ← v.optional readStr "providerId" }

def readPromptPackRunSettings (v : Json) : Except String PromptPackRunSettingsInput := do
  let v ← v.declared promptPackRunSettingsFields
  return { executionTarget := ← v.optional readPromptPackExecutionTarget "executionTarget"
           executionPolicy := ← v.optional readStr "executionPolicy"
           sandbox := ← v.optional readStr "sandbox"
           approvalPolicy := ← v.optional readStr "approvalPolicy" }

def readPromptPackConstraints (v : Json) : Except String PromptPackConstraintsInput := do
  let v ← v.declared promptPackConstraintsFields
  return { noAutoRun := ← v.optional readBool "noAutoRun" }

def readPromptPackSafety (v : Json) : Except String PromptPackSafetyInput := do
  let v ← v.declared promptPackSafetyFields
  return { notes := ← v.optional readStr "notes"
           sensitiveTextWarning := ← v.optional readBool "sensitiveTextWarning" }

def readPromptPackTask (v : Json) : Except String PromptPackTaskInput := do
  let v ← v.declared promptPackTaskFields
  return { id := ← v.required readStr "id"
           title := ← v.required readStr "title"
           prompt := ← v.required readStr "prompt"
           dependsOn := ← v.defaulted (readList readStr) "dependsOn"
           tags := ← v.defaulted (readList readStr) "tags"
           priority := ← v.optional readInt "priority"
           expectedOutput := ← v.optional readStr "expectedOutput"
           safety := ← v.optional readPromptPackSafety "safety" }

/-- `serde_json::from_value::<PromptPackInput>`. -/
def readPromptPackInput (v : Json) : Except String PromptPackInput := do
  let v ← v.declared promptPackFields
  return { version := ← v.required readU32 "version"
           packId := ← v.required readStr "packId"
           title := ← v.required readStr "title"
           description := ← v.optional readStr "description"
           defaults := ← v.optional readPromptPackDefaults "defaults"
           runSettings := ← v.optional readPromptPackRunSettings "runSettings"
           constraints := ← v.optional readPromptPackConstraints "constraints"
           tasks := ← v.required (readList readPromptPackTask) "tasks" }

end HobitQueue
