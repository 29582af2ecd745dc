import HobitQueue.Lib.CanonicalJson
import HobitQueue.Service.Context
import HobitQueue.Service.Tasks

/-!
# Attaching knowledge and skills to a Queue task

Four commands rewrite the `context_json` of a task: it is read into the members the context
has, one reference is taken out or replaced, and the members are written back as the whole
document. The knowledge documents and the skills belong to other services, so a command is
given the ones that are stored when it runs.
-/

namespace HobitQueue

open Concurrent StoreProg

def knowledgeDocumentExcerptChars : ℕ := 2200
def skillInstructionChars : ℕ := 1800
def largeKnowledgeContentChars : ℕ := 100000
def maxAgentQueueTaskContextJsonBytes : ℕ := 64 * 1024

structure KnowledgeDocumentRow where
  knowledgeDocumentId : String
  title : String
  quickSummary : String
  content : String
  scope : String
  sourceLabel : String
  lifecycleStatus : String
  enabled : Bool
  searchable : Bool
  updatedAt : String

structure SkillRow where
  skillId : String
  title : String
  whenToUse : String
  prerequisites : String
  steps : String
  validation : String
  risks : String
  tags : String
  reviewStatus : String
  updatedAt : String

/-! ## Warnings -/

def contextWarningMessage (refItem : QueueTaskContextRef) (code : String) : String :=
  match code with
  | "stale" => refItem.title ++ " is stale. Review before materialization."
  | "draft" => refItem.title ++ " is draft context. It is not reviewed project knowledge."
  | "needs_review" =>
      refItem.title ++ " needs review before it is treated as reliable guidance."
  | "archived" => refItem.title ++ " is archived. Review before materialization."
  | "summary_missing" => refItem.title ++ " has a summary missing warning. Add a quick " ++
      "summary before relying on this Knowledge context."
  | "content_capped" =>
      refItem.title ++ " was capped to a bounded excerpt before Queue materialization."
  | "large_content" =>
      refItem.title ++ " is large and was materialized only as a bounded excerpt."
  | "possible_secret" => refItem.title ++ " may contain an obvious credential or token. " ++
      "Redact before relying on this context."
  | code => refItem.title ++ " has a context warning: " ++ code ++ "."

def contextWarning (refItem : QueueTaskContextRef) (severity code createdAt : String) :
    QueueTaskContextWarning :=
  { id := refItem.kind ++ ":" ++ refItem.id ++ ":" ++ code
    sourceRefId := refItem.id
    severity := severity
    code := code
    message := contextWarningMessage refItem code
    createdAt := createdAt }

/-- `str::to_ascii_lowercase`. -/
def toAsciiLowercase (text : String) : String :=
  String.ofList (text.toList.map fun c =>
    if 'A' ≤ c ∧ c ≤ 'Z' then Char.ofNat (c.toNat + 32) else c)

def hasAssignmentAfterKey (tail : List Char) : Bool :=
  match tail.dropWhile Text.isWhiteSpace with
  | c :: _ => c == '=' || c == ':'
  | [] => false

/-- A key of a credential with an assignment behind it. -/
def secretAssignmentPresent (text : String) : Bool :=
  ["password", "passwd", "pwd", "api_key", "api-key", "secret", "token", "access_key",
    "access-key"].any fun key =>
      text.toList.tails.any fun tail =>
        key.toList.isPrefixOf tail && hasAssignmentAfterKey (tail.drop key.length)

def containsPossibleSecret (text : String) : Bool :=
  let lowered := toAsciiLowercase text
  containsText lowered "-----begin private key-----" ||
    containsText lowered "aws_secret_access_key" || containsText lowered "aws-secret-access-key" ||
    containsText text "AKIA" || secretAssignmentPresent lowered

def knowledgeContentWarnings (content : String) (refItem : QueueTaskContextRef)
    (createdAt : String) : List QueueTaskContextWarning :=
  (if largeKnowledgeContentChars < content.length then
    [contextWarning refItem "warning" "large_content" createdAt]
  else if knowledgeDocumentExcerptChars < content.length then
    [contextWarning refItem "warning" "content_capped" createdAt]
  else []) ++
  if containsPossibleSecret content then
    [contextWarning refItem "warning" "possible_secret" createdAt]
  else []

def knowledgeDocumentWarnings (document : KnowledgeDocumentRow) (refItem : QueueTaskContextRef)
    (createdAt : String) : List QueueTaskContextWarning :=
  (if Text.trim document.quickSummary = "" then
    [contextWarning refItem "warning" "summary_missing" createdAt]
  else []) ++
  (if document.lifecycleStatus ∈ ["stale", "draft", "archived"] then
    [contextWarning refItem "warning" document.lifecycleStatus createdAt]
  else []) ++
  knowledgeContentWarnings document.content refItem createdAt

def skillWarnings (skill : SkillRow) (refItem : QueueTaskContextRef) (createdAt : String) :
    List QueueTaskContextWarning :=
  if skill.reviewStatus = "reviewed" then []
  else [contextWarning refItem "warning" skill.reviewStatus createdAt]

/-! ## Snapshots -/

/-- `snapshot`. -/
def contextSnapshot (kind : String) (refItem : QueueTaskContextRef) (content : String)
    (capped : Bool) (materializedAt : String) : QueueTaskContextSnapshot :=
  { capped := capped
    content := content
    id := "snapshot:" ++ kind ++ ":" ++ refItem.id ++ ":" ++ materializedAt
    kind := kind
    materializedAt := materializedAt
    scope := refItem.scope
    source := refItem.source
    sourceRefId := refItem.id
    status := refItem.status
    title := refItem.title
    tokenEstimate := estimateTokens content
    version := refItem.version }

/-- A line that stands there unless its text is blank. -/
def sectionUnlessBlank (heading text : String) : List String :=
  if Text.trim text = "" then [] else [heading ++ Text.trim text]

def knowledgeDocumentSnapshot (document : KnowledgeDocumentRow)
    (refItem : QueueTaskContextRef) (materializedAt : String) : QueueTaskContextSnapshot :=
  let excerpt := boundedText document.content knowledgeDocumentExcerptChars
  let content := "\n".intercalate ([
    "Knowledge Document: " ++ refItem.title,
    "Scope: " ++ refItem.scope,
    "Source: " ++ refItem.source,
    "Version: " ++ Text.visibleValue refItem.version "Unknown",
    "Status: " ++ refItem.status,
    "Summary: " ++ refItem.quickSummary] ++
    if excerpt.1 = "" then [] else ["Bounded excerpt:\n" ++ excerpt.1])
  contextSnapshot "knowledge_document" refItem content excerpt.2 materializedAt

def skillSnapshot (skill : SkillRow) (refItem : QueueTaskContextRef) (materializedAt : String) :
    QueueTaskContextSnapshot :=
  let body := "\n".intercalate ([
    "Skill Instructions: " ++ refItem.title,
    "Scope: " ++ refItem.scope,
    "Source: " ++ refItem.source,
    "Version: " ++ Text.visibleValue refItem.version "Unknown",
    "Review status: " ++ refItem.status,
    "When to use: " ++ Text.visibleValue skill.whenToUse "Summary missing."] ++
    sectionUnlessBlank "Prerequisites:\n" skill.prerequisites ++
    sectionUnlessBlank "Steps:\n" skill.steps ++
    sectionUnlessBlank "Validation:\n" skill.validation ++
    sectionUnlessBlank "Risks:\n" skill.risks ++
    sectionUnlessBlank "Tags: " skill.tags)
  let bounded := boundedText body skillInstructionChars
  contextSnapshot "skill" refItem bounded.1 bounded.2 materializedAt

/-! ## Changes of a context -/

/-- `refresh_context_budget`, after the time of the last snapshot is set. -/
def refreshContext (context : QueueTaskContext) : QueueTaskContext :=
  let estimatedTokens := (context.attachedKnowledgeSnapshots.map (·.tokenEstimate)).sum
  { context with
    materializedAt := context.attachedKnowledgeSnapshots.getLast?.map (·.materializedAt)
    contextTokenBudget :=
      ⟨estimatedTokens, contextTokenBudget, decide (contextTokenBudget < estimatedTokens)⟩ }

/-- A reference taken out of a context. -/
def detachContextRef (context : QueueTaskContext) (sourceRefId : String) : QueueTaskContext :=
  refreshContext { context with
    attachedKnowledgeRefs := context.attachedKnowledgeRefs.filter (·.id != sourceRefId)
    attachedSkillRefs := context.attachedSkillRefs.filter (·.id != sourceRefId)
    attachedKnowledgeSnapshots :=
      context.attachedKnowledgeSnapshots.filter (·.sourceRefId != sourceRefId)
    contextWarnings := context.contextWarnings.filter (·.sourceRefId != sourceRefId) }

/-- The reference takes the place of an older one with its id. -/
def mergeContext (context : QueueTaskContext) (refItem : QueueTaskContextRef)
    (snapshot : QueueTaskContextSnapshot) (warnings : List QueueTaskContextWarning) :
    QueueTaskContext :=
  let context := detachContextRef context refItem.id
  let isSkill := refItem.kind == "skill"
  refreshContext { context with
    attachedSkillRefs := context.attachedSkillRefs ++ if isSkill then [refItem] else []
    attachedKnowledgeRefs := context.attachedKnowledgeRefs ++ if isSkill then [] else [refItem]
    attachedKnowledgeSnapshots := context.attachedKnowledgeSnapshots ++ [snapshot]
    contextWarnings := context.contextWarnings ++ warnings }

/-- A document attached to a context. -/
def attachDocumentContext (context : QueueTaskContext) (document : KnowledgeDocumentRow)
    (attachedAt : String) : Except String QueueTaskContext := do
  refuseIf (!document.enabled) "disabled Knowledge cannot attach to Queue tasks"
  refuseIf (!document.searchable) "non-searchable Knowledge cannot attach to Queue tasks"
  refuseIf (document.lifecycleStatus == "rejected")
    "rejected Knowledge cannot attach to Queue tasks"
  let refItem : QueueTaskContextRef := {
    attachedAt := attachedAt
    id := document.knowledgeDocumentId
    kind := "knowledge_document"
    quickSummary := Text.visibleValue document.quickSummary "Summary missing."
    scope := if document.scope = "global" then "global" else "workspace-local"
    source := Text.visibleValue document.sourceLabel "Knowledge Document"
    status := document.lifecycleStatus
    title := Text.visibleValue document.title "Untitled document"
    version := document.updatedAt }
  pure (mergeContext context refItem (knowledgeDocumentSnapshot document refItem attachedAt)
    (knowledgeDocumentWarnings document refItem attachedAt))

/-- A skill attached to a context. -/
def attachSkillContext (context : QueueTaskContext) (skill : SkillRow) (attachedAt : String) :
    Except String QueueTaskContext := do
  refuseIf (skill.reviewStatus == "deprecated") "deprecated Skill cannot attach to Queue tasks"
  let refItem : QueueTaskContextRef := {
    attachedAt := attachedAt
    id := skill.skillId
    kind := "skill"
    quickSummary := Text.visibleValue skill.whenToUse "Summary missing."
    scope := "workspace-local"
    source := "Workspace Skill"
    status := skill.reviewStatus
    title := Text.visibleValue skill.title "Untitled skill"
    version := skill.updatedAt }
  pure (mergeContext context refItem (skillSnapshot skill refItem attachedAt)
    (skillWarnings skill refItem attachedAt))

/-! ## The document that is written -/

def contextRefValue (r : QueueTaskContextRef) : Json :=
  .obj [("attachedAt", .str r.attachedAt), ("id", .str r.id), ("kind", .str r.kind),
    ("quickSummary", .str r.quickSummary), ("scope", .str r.scope), ("source", .str r.source),
    ("status", .str r.status), ("title", .str r.title), ("version", .str r.version)]

def contextSnapshotValue (r : QueueTaskContextSnapshot) : Json :=
  .obj [("capped", .bool r.capped), ("content", .str r.content), ("id", .str r.id),
    ("kind", .str r.kind), ("materializedAt", .str r.materializedAt), ("scope", .str r.scope),
    ("source", .str r.source), ("sourceRefId", .str r.sourceRefId), ("status", .str r.status),
    ("title", .str r.title), ("tokenEstimate", .num (toString r.tokenEstimate)),
    ("version", .str r.version)]

def contextWarningValue (r : QueueTaskContextWarning) : Json :=
  .obj [("code", .str r.code), ("createdAt", .str r.createdAt), ("id", .str r.id),
    ("message", .str r.message), ("severity", .str r.severity),
    ("sourceRefId", .str r.sourceRefId)]

/-- The context as it is written. -/
def taskContextValue (context : QueueTaskContext) : Json :=
  .obj [("attachedKnowledgeRefs", .arr (context.attachedKnowledgeRefs.map contextRefValue)),
    ("attachedKnowledgeSnapshots",
      .arr (context.attachedKnowledgeSnapshots.map contextSnapshotValue)),
    ("attachedSkillRefs", .arr (context.attachedSkillRefs.map contextRefValue)),
    ("contextTokenBudget", .obj [
      ("estimatedTokens", .num (toString context.contextTokenBudget.estimatedTokens)),
      ("maxTokens", .num (toString context.contextTokenBudget.maxTokens)),
      ("overBudget", .bool context.contextTokenBudget.overBudget)]),
    ("contextWarnings", .arr (context.contextWarnings.map contextWarningValue)),
    ("materializedAt", (context.materializedAt.map Json.str).getD .null)]

/-- The order of the members does not change the size that is bounded. -/
def serializeTaskContext (context : QueueTaskContext) : Except String JsonText := do
  refuseIf (decide (maxAgentQueueTaskContextJsonBytes <
      utf8Length (taskContextValue context).canonicalString))
    ("queue task context json must be at most " ++ toString maxAgentQueueTaskContextJsonBytes ++
      " bytes")
  pure (.value (taskContextValue context))

/-! ## The commands -/

/-- The stored document with its context changed. -/
def changedContextJson (change : QueueTaskContext → Except String QueueTaskContext)
    (contextJson : Option JsonText) : Except String JsonText := do
  let context ← parseTaskContext contextJson
  let context ← change context
  serializeTaskContext context

def SqliteStore.updateAgentQueueTaskContext (s : SqliteStore) (workspaceId queueItemId : String)
    (contextJson : Option JsonText) (updatedAt : String) :
    Except StorageError (Option AgentQueueTaskRow × SqliteStore) :=
  s.updateTaskRow workspaceId queueItemId
    (fun r => { r with contextJson := contextJson, updatedAt := updatedAt }) fun _ => rfl

/-- The transaction the four commands share: the task is loaded, what is attached is looked
up, and the changed document is written. -/
def rewriteTaskContext (d : Draws) (workspaceId queueItemId : String)
    (change : Except StorageError (QueueTaskContext → Except String QueueTaskContext)) :
    Service AgentQueueTaskRow :=
  withImmediateTransaction mapStorageAgentQueueTaskError do
    let task ← loadAgentQueueTask workspaceId queueItemId
    let change ← StoreProg.check change
    let contextJson ← StoreProg.check
      ((changedContextJson change task.contextJson).mapError .invalidParameterName)
    let updated ← execute fun s =>
      s.updateAgentQueueTaskContext workspaceId queueItemId (some contextJson) (d.timestamp 0)
    match updated with
    | none => throw .queryReturnedNoRows
    | some task => do
        execute fun s => s.touchWorkspace workspaceId (d.timestamp 1)
        pure task

/-- The input of the four commands: the workspace, the task, and the document or skill. -/
structure QueueTaskContextInput where
  workspaceId : String
  queueItemId : String
  sourceId : String

/-- The trimmed input; the label is that of the document or skill. -/
def normalizeContextInput (label : String) (input : QueueTaskContextInput) :
    Except WorkspaceServiceError QueueTaskContextInput := do
  let workspaceId ← requiredInput input.workspaceId "workspace id"
  let queueItemId ← requiredInput input.queueItemId "queue item id"
  let sourceId ← requiredInput input.sourceId label
  pure ⟨workspaceId, queueItemId, sourceId⟩

/-- What attaching a document does, unless it is not there. -/
def attachDocumentChange (d : Draws) (knowledgeId : String)
    (document : Option KnowledgeDocumentRow) :
    Except StorageError (QueueTaskContext → Except String QueueTaskContext) :=
  match document with
  | none => .error (.invalidParameterName
      ("knowledge document not found or not allowed for workspace: " ++ knowledgeId))
  | some document => .ok (attachDocumentContext · document (d.timestamp 0))

def attachSkillChange (d : Draws) (skillId : String) (skill : Option SkillRow) :
    Except StorageError (QueueTaskContext → Except String QueueTaskContext) :=
  match skill with
  | none => .error (.invalidParameterName
      ("skill not found or not allowed for workspace: " ++ skillId))
  | some skill => .ok (attachSkillContext · skill (d.timestamp 0))

def detachChange (sourceRefId : String) :
    Except StorageError (QueueTaskContext → Except String QueueTaskContext) :=
  .ok fun context => .ok (detachContextRef context sourceRefId)

def attachKnowledgeToQueueTask (d : Draws)
    (getKnowledgeDocument : String → String → Option KnowledgeDocumentRow)
    (input : QueueTaskContextInput) : Service AgentQueueTaskRow := do
  let input ← StoreProg.check (normalizeContextInput "knowledge id" input)
  rewriteTaskContext d input.workspaceId input.queueItemId
    (attachDocumentChange d input.sourceId (getKnowledgeDocument input.workspaceId input.sourceId))

def detachKnowledgeFromQueueTask (d : Draws) (input : QueueTaskContextInput) :
    Service AgentQueueTaskRow := do
  let input ← StoreProg.check (normalizeContextInput "knowledge id" input)
  rewriteTaskContext d input.workspaceId input.queueItemId (detachChange input.sourceId)

def attachSkillToQueueTask (d : Draws) (getSkill : String → String → Option SkillRow)
    (input : QueueTaskContextInput) : Service AgentQueueTaskRow := do
  let input ← StoreProg.check (normalizeContextInput "skill id" input)
  rewriteTaskContext d input.workspaceId input.queueItemId
    (attachSkillChange d input.sourceId (getSkill input.workspaceId input.sourceId))

def detachSkillFromQueueTask (d : Draws) (input : QueueTaskContextInput) :
    Service AgentQueueTaskRow := do
  let input ← StoreProg.check (normalizeContextInput "skill id" input)
  rewriteTaskContext d input.workspaceId input.queueItemId (detachChange input.sourceId)

end HobitQueue
