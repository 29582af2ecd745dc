import HobitQueue.Service.Basic

/-!
# The prompt of a Queue task

A task may carry attached knowledge and skills in its `context_json`. Before a
worker starts, the prompt is built from the snapshots of what is attached, cut to
a budget, and the task's own prompt. Blocked attachments stop the start.
-/

namespace HobitQueue

def contextTokenBudget : ℤ := 1600
def contextCharBudget : ℕ := 1600 * 4

structure QueueTaskContextRef where
  attachedAt : String
  id : String
  kind : String
  quickSummary : String
  scope : String
  source : String
  status : String
  title : String
  version : String

structure QueueTaskContextSnapshot where
  capped : Bool
  content : String
  id : String
  kind : String
  materializedAt : String
  scope : String
  source : String
  sourceRefId : String
  status : String
  title : String
  tokenEstimate : ℤ
  version : String

structure QueueTaskContextWarning where
  id : String
  sourceRefId : String
  severity : String
  code : String
  message : String
  createdAt : String

structure QueueTaskContextTokenBudget where
  estimatedTokens : ℤ
  maxTokens : ℤ
  overBudget : Bool

/-- The context that is attached to a task. -/
structure QueueTaskContext where
  attachedKnowledgeRefs : List QueueTaskContextRef
  attachedSkillRefs : List QueueTaskContextRef
  attachedKnowledgeSnapshots : List QueueTaskContextSnapshot
  contextWarnings : List QueueTaskContextWarning
  contextTokenBudget : QueueTaskContextTokenBudget
  materializedAt : Option String

/-- `QueueTaskContext::default`. -/
def defaultTaskContext : QueueTaskContext :=
  { attachedKnowledgeRefs := []
    attachedSkillRefs := []
    attachedKnowledgeSnapshots := []
    contextWarnings := []
    contextTokenBudget := ⟨0, contextTokenBudget, false⟩
    materializedAt := none }

/-! ## Reading the stored context -/

def readContextRef (v : Json) : Except String QueueTaskContextRef := do
  let v ← v.asRecord ["attachedAt", "id", "kind", "quickSummary", "scope", "source", "status",
    "title", "version"]
  let attachedAt ← v.required Json.readStr "attachedAt"
  let id ← v.required Json.readStr "id"
  let kind ← v.required Json.readStr "kind"
  let quickSummary ← v.required Json.readStr "quickSummary"
  let scope ← v.required Json.readStr "scope"
  let source ← v.required Json.readStr "source"
  let status ← v.required Json.readStr "status"
  let title ← v.required Json.readStr "title"
  let version ← v.required Json.readStr "version"
  pure ⟨attachedAt, id, kind, quickSummary, scope, source, status, title, version⟩

/-- A snapshot of the context read from its text. -/
def readContextSnapshot (v : Json) : Except String QueueTaskContextSnapshot := do
  let v ← v.asRecord ["capped", "content", "id", "kind", "materializedAt", "scope", "source",
    "sourceRefId", "status", "title", "tokenEstimate", "version"]
  let capped ← v.required Json.readBool "capped"
  let content ← v.required Json.readStr "content"
  let id ← v.required Json.readStr "id"
  let kind ← v.required Json.readStr "kind"
  let materializedAt ← v.required Json.readStr "materializedAt"
  let scope ← v.required Json.readStr "scope"
  let source ← v.required Json.readStr "source"
  let sourceRefId ← v.required Json.readStr "sourceRefId"
  let status ← v.required Json.readStr "status"
  let title ← v.required Json.readStr "title"
  let tokenEstimate ← v.required Json.readInt "tokenEstimate"
  let version ← v.required Json.readStr "version"
  pure ⟨capped, content, id, kind, materializedAt, scope, source, sourceRefId, status, title,
    tokenEstimate, version⟩

def readContextWarning (v : Json) : Except String QueueTaskContextWarning := do
  let v ← v.asRecord ["id", "sourceRefId", "severity", "code", "message", "createdAt"]
  let id ← v.required Json.readStr "id"
  let sourceRefId ← v.required Json.readStr "sourceRefId"
  let severity ← v.required Json.readStr "severity"
  let code ← v.required Json.readStr "code"
  let message ← v.required Json.readStr "message"
  let createdAt ← v.required Json.readStr "createdAt"
  pure ⟨id, sourceRefId, severity, code, message, createdAt⟩

def readContextTokenBudget (v : Json) : Except String QueueTaskContextTokenBudget := do
  let v ← v.asRecord ["estimatedTokens", "maxTokens", "overBudget"]
  let estimatedTokens ← v.required Json.readInt "estimatedTokens"
  let maxTokens ← v.required Json.readInt "maxTokens"
  let overBudget ← v.required Json.readBool "overBudget"
  pure ⟨estimatedTokens, maxTokens, overBudget⟩

/-- The members of a stored context, in the order they are declared. -/
def contextFields : List String :=
  ["attachedKnowledgeRefs", "attachedSkillRefs", "attachedKnowledgeSnapshots", "contextWarnings",
    "contextTokenBudget", "materializedAt"]

def readTaskContext (v : Json) : Except String QueueTaskContext := do
  let v ← v.asRecord contextFields
  let knowledgeRefs ← v.required (Json.readList readContextRef) "attachedKnowledgeRefs"
  let skillRefs ← v.required (Json.readList readContextRef) "attachedSkillRefs"
  let snapshots ← v.required (Json.readList readContextSnapshot) "attachedKnowledgeSnapshots"
  let warnings ← v.required (Json.readList readContextWarning) "contextWarnings"
  let budget ← v.required readContextTokenBudget "contextTokenBudget"
  let materializedAt ← v.optional Json.readStr "materializedAt"
  pure ⟨knowledgeRefs, skillRefs, snapshots, warnings, budget, materializedAt⟩

/-- An absent or blank column is an empty context. -/
def parseTaskContext (raw : Option JsonText) : Except String QueueTaskContext :=
  match raw with
  | none => .ok defaultTaskContext
  | some (.malformed text) =>
      if Text.trim text = "" then .ok defaultTaskContext
      else .error "queue task context json is invalid: expected value"
  | some (.value v) =>
      (readTaskContext v).mapError fun e => "queue task context json is invalid: " ++ e

/-! ## Checks and budget -/

/-- Blocked when rejected or disabled, and a skill also when deprecated. -/
def isBlockedStatus (kind status : String) : Bool :=
  status == "rejected" || status == "disabled" || (kind == "skill" && status == "deprecated")

/-- Why a context may not be used. -/
def blockedContextReason (context : QueueTaskContext) : Option String :=
  let blockedWarnings := context.contextWarnings.filter (·.severity == "blocked")
  let blockedRefs := (context.attachedKnowledgeRefs ++ context.attachedSkillRefs).filter
    fun r => isBlockedStatus r.kind r.status
  let blockedSnapshots := context.attachedKnowledgeSnapshots.filter
    fun r => isBlockedStatus r.kind r.status
  if !blockedWarnings.isEmpty then
    some ("queue task context has blocked warnings: " ++
      ", ".intercalate (blockedWarnings.map (·.id)))
  else if !blockedRefs.isEmpty then
    some ("queue task context has blocked refs: " ++
      ", ".intercalate (blockedRefs.map fun r => r.kind ++ ":" ++ r.id))
  else if !blockedSnapshots.isEmpty then
    some ("queue task context has blocked snapshots: " ++
      ", ".intercalate (blockedSnapshots.map (·.id)))
  else none

def truncatedMark : String := "\n[truncated]"

/-- The trimmed text, cut to about `maxChars` characters, and whether it was cut. -/
def boundedText (value : String) (maxChars : ℕ) : String × Bool :=
  let text := Text.trim value
  if text.length ≤ maxChars then (text, false)
  else
    (Text.trimEnd (String.ofList (text.toList.take (maxChars - 12))) ++ truncatedMark, true)

def estimateTokens (value : String) : ℤ := max 1 ((value.utf8ByteSize + 3) / 4 : ℕ)

/-- The snapshots in order, each cut to what is left of the budget. -/
def cappedSnapshotsFrom (usedChars : ℕ) :
    List QueueTaskContextSnapshot → List QueueTaskContextSnapshot
  | [] => []
  | snapshot :: rest =>
      if contextCharBudget ≤ usedChars then []
      else
        let bounded := boundedText snapshot.content (contextCharBudget - usedChars)
        { snapshot with
          capped := snapshot.capped || bounded.2
          content := bounded.1
          tokenEstimate := estimateTokens bounded.1 } ::
          cappedSnapshotsFrom (usedChars + bounded.1.utf8ByteSize) rest

/-- The snapshots within the budget. -/
def cappedSnapshotsForPrompt :
    List QueueTaskContextSnapshot → List QueueTaskContextSnapshot :=
  cappedSnapshotsFrom 0

/-! ## The prompt -/

def snapshotPromptBlock (snapshot : QueueTaskContextSnapshot) : String :=
  "\n".intercalate ([
    "[" ++ snapshot.kind ++ "] " ++ snapshot.title,
    "Ref: " ++ snapshot.sourceRefId,
    "Scope: " ++ snapshot.scope,
    "Source: " ++ snapshot.source,
    "Version: " ++ Text.visibleValue snapshot.version "Unknown",
    "Snapshot: " ++ snapshot.id,
    snapshot.content] ++ if snapshot.capped then ["[Capped excerpt]"] else [])

/-- The blocks of the snapshots of one kind under their heading. -/
def promptKindSection (snapshots : List QueueTaskContextSnapshot) (kind heading : String) :
    List String :=
  let selected := snapshots.filter (·.kind == kind)
  if selected.isEmpty then [] else heading :: selected.map snapshotPromptBlock

def promptContextSection (snapshots : List QueueTaskContextSnapshot) : String :=
  "\n\n".intercalate ([
    "Knowledge / Skills context",
    "Only this visible, bounded Queue-owned task context is included.",
    "This context is saved on the Queue task until removed."] ++
    promptKindSection snapshots "skill" "Visible Skill Instructions" ++
    promptKindSection snapshots "knowledge_document" "Visible Knowledge Document Excerpts")

def refsForKind (snapshots : List QueueTaskContextSnapshot) (kind : String) : List String :=
  (snapshots.filter (·.kind == kind)).map fun snapshot =>
    snapshot.sourceRefId ++ "@" ++ Text.visibleValue snapshot.version "unknown"

/-- The values in order of first occurrence. -/
def uniqueSnapshotValues (snapshots : List QueueTaskContextSnapshot)
    (value : QueueTaskContextSnapshot → String) : List String :=
  snapshots.foldl (fun values snapshot =>
    if value snapshot ∈ values then values else values ++ [value snapshot]) []

def noneOrJoin (values : List String) : String :=
  if values.isEmpty then "None" else ", ".intercalate values

def promptEvidenceSection (queueItemId : String) (snapshots : List QueueTaskContextSnapshot)
    (warnings : List QueueTaskContextWarning) : String :=
  "\n".intercalate [
    "Context used",
    "Queue task id: " ++ queueItemId,
    "Context storage: durable Queue task context.",
    "Included in this run prompt: yes.",
    "Snapshot ids used: " ++ ", ".intercalate (snapshots.map (·.id)),
    "Knowledge refs used: " ++ noneOrJoin (refsForKind snapshots "knowledge_document"),
    "Skill refs used: " ++ noneOrJoin (refsForKind snapshots "skill"),
    "Materialized at: " ++ (snapshots.head?.map (·.materializedAt)).getD "Not materialized",
    "Context token estimate: " ++ toString (snapshots.map (·.tokenEstimate)).sum,
    "Context warning ids: " ++ noneOrJoin (warnings.map (·.id)),
    "Source scopes: " ++ ", ".intercalate (uniqueSnapshotValues snapshots (·.scope)),
    "Source labels: " ++ ", ".intercalate (uniqueSnapshotValues snapshots (·.source))]

/-- The prompt with the attached context in front. -/
def materializeQueueTaskContextPrompt (task : AgentQueueTaskRow) :
    Except String (Option String) := do
  let context ← parseTaskContext task.contextJson
  if context.attachedKnowledgeSnapshots.isEmpty then .ok none
  else
    match blockedContextReason context with
    | some reason => .error reason
    | none =>
        let snapshots := cappedSnapshotsForPrompt context.attachedKnowledgeSnapshots
        if snapshots.isEmpty then .ok none
        else
          let sections := [promptContextSection snapshots, Text.trim task.prompt,
            promptEvidenceSection task.queueItemId snapshots context.contextWarnings]
          .ok (some ("\n\n".intercalate (sections.filter fun section_ => Text.trim section_ != "")))

/-- The prompt that a worker gets for a task. -/
def operatorPromptForQueueTask (task : AgentQueueTaskRow) :
    Except WorkspaceServiceError String :=
  ((materializeQueueTaskContextPrompt task).mapError .invalidInput).map
    fun prompt => prompt.getD task.prompt

/-- A task without context runs with its own prompt. -/
@[simp] theorem operatorPromptForQueueTask_of_none {task : AgentQueueTaskRow}
    (h : task.contextJson = none) : operatorPromptForQueueTask task = .ok task.prompt := by
  simp [operatorPromptForQueueTask, materializeQueueTaskContextPrompt, parseTaskContext, h,
    defaultTaskContext, Except.mapError, Except.map, bind, Except.bind]

end HobitQueue
