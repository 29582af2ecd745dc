import HobitQueue.Lib.Search
import HobitQueue.PromptPack.Input
import HobitQueue.Workflow.Materialization

/-!
# Prompt packs, normalized

A pack is normalized into its preview: texts are bounded, ids are slugs, tags are
trimmed and lower-cased, and tags and dependencies are kept in text order. The
preview carries five hashes, of each task, of the dependencies, of the run settings,
of the whole pack and of the preview, each taken of a canonical text.
-/

namespace HobitQueue

def maxPackIdChars : ℕ := 96
def maxTaskIdChars : ℕ := 96
def maxTasks : ℕ := 100
def maxDependencyEdges : ℕ := 1000
def maxTitleChars : ℕ := 200
def maxPromptChars : ℕ := 100000
def maxTags : ℕ := 20
def maxTagChars : ℕ := 64
def maxDescriptionChars : ℕ := 4000
def maxExpectedOutputChars : ℕ := 8000
def maxSafetyNotesChars : ℕ := 4000
def minPriority : ℤ := 0
def maxPriority : ℤ := 5
def defaultPriority : ℤ := 3

/-! ## The preview -/

inductive PromptPackMaterializationStatus where
  | notEvaluated | notMaterialized | reusable | conflict
  deriving DecidableEq, Repr

def PromptPackMaterializationStatus.asStr : PromptPackMaterializationStatus → String
  | notEvaluated => "not_evaluated"
  | notMaterialized => "not_materialized"
  | reusable => "reusable"
  | conflict => "conflict"

structure AgentQueuePromptPackDefaultsPreview where
  status : String
  priority : ℤ
  deriving DecidableEq

structure AgentQueuePromptPackConstraintsPreview where
  noAutoRun : Bool
  deriving DecidableEq

structure AgentQueuePromptPackMetadataPreview where
  version : ℕ
  packId : String
  title : String
  description : Option String
  defaults : AgentQueuePromptPackDefaultsPreview
  constraints : AgentQueuePromptPackConstraintsPreview
  deriving DecidableEq

structure AgentQueuePromptPackExecutionTargetPreview where
  kind : String
  providerId : String
  deriving DecidableEq

structure AgentQueuePromptPackRunSettingsPreview where
  executionTarget : Option AgentQueuePromptPackExecutionTargetPreview
  executionPolicy : String
  sandbox : Option String
  approvalPolicy : Option String
  deriving DecidableEq

structure AgentQueuePromptPackSafetyPreview where
  notes : Option String
  sensitiveTextWarning : Option Bool
  deriving DecidableEq

/-- What a materialization would do; a preview starts with nothing evaluated. -/
structure PromptPackOutlook where
  wouldCreate : Bool
  wouldReuse : Bool
  wouldConflict : Bool
  materializationStatus : PromptPackMaterializationStatus
  deriving DecidableEq

def PromptPackOutlook.unevaluated : PromptPackOutlook := ⟨false, false, false, .notEvaluated⟩

structure AgentQueuePromptPackTaskPreview extends PromptPackOutlook where
  id : String
  queueTaskId : Option String
  title : String
  prompt : String
  dependsOn : List String
  tags : List String
  priority : ℤ
  status : String
  expectedOutput : Option String
  safety : Option AgentQueuePromptPackSafetyPreview
  taskSpecHash : String
  dependencyQueueTaskIds : List String
  deriving DecidableEq

/-- A pack, and what would become of it. -/
structure AgentQueuePromptPackPreview extends PromptPackOutlook where
  workspaceId : String
  pack : AgentQueuePromptPackMetadataPreview
  runSettings : AgentQueuePromptPackRunSettingsPreview
  taskCount : ℕ
  dependencyCount : ℕ
  tasks : List AgentQueuePromptPackTaskPreview
  packSpecHash : String
  runSettingsHash : String
  dependencySpecHash : String
  fullPreviewHash : String
  blockers : List AgentQueuePromptPackPreviewDiagnostic
  deriving DecidableEq

/-! ## Checks of texts -/

/-- A check of a pack fails with one diagnostic. -/
abbrev PackCheck (α : Type) : Type := Except AgentQueuePromptPackPreviewDiagnostic α

/-- A label in a code: `str::replace` of one character by an underscore. -/
def underscored (mark : Char) (label : String) : String :=
  String.ofList (label.toList.map fun c => if c = mark then '_' else c)

def boundedMessage (label : String) (maxChars : ℕ) : String :=
  "Prompt pack " ++ label ++ " must be " ++ Nat.repr maxChars ++ " characters or fewer."

def validateRequiredBoundedString (value label path : String) (maxChars : ℕ) :
    PackCheck Unit := do
  refuseIf (Text.trim value == "") (diagnostic ("missing_" ++ underscored ' ' label)
    ("Prompt pack " ++ label ++ " is required.") (some path))
  refuseIf (maxChars < value.length) (diagnostic ("oversized_" ++ underscored ' ' label)
    (boundedMessage label maxChars) (some path))

def validateOptionalBoundedString (value label path : String) (maxChars : ℕ) :
    PackCheck Unit :=
  refuseIf (maxChars < value.length) (diagnostic ("oversized_" ++ underscored '.' label)
    (boundedMessage label maxChars) (some path))

/-- The check of a text that may be absent. -/
def validateOptionalText (value : Option String) (label path : String) (maxChars : ℕ) :
    PackCheck Unit :=
  match value with
  | some text => validateOptionalBoundedString text label path maxChars
  | none => .ok ()

def isSlugChar (c : Char) : Bool := c.isLower || c.isDigit

def isSlugLike (value : String) : Bool :=
  value.toList.head?.any isSlugChar && value.toList.getLast?.any isSlugChar &&
    value.toList.all fun c => isSlugChar c || c == '-'

def validateSlug (value label path : String) (maxChars : ℕ) : PackCheck Unit := do
  refuseIf (value == "") (diagnostic ("missing_" ++ underscored ' ' label)
    ("Prompt pack " ++ label ++ " is required.") (some path))
  refuseIf (maxChars < value.length) (diagnostic ("oversized_" ++ underscored ' ' label)
    (boundedMessage label maxChars) (some path))
  refuseIf (!isSlugLike value) (diagnostic ("malformed_" ++ underscored ' ' label)
    ("Prompt pack " ++ label ++ " must be lower-case slug-like ASCII.") (some path))

def validatePrompt (prompt path : String) : PackCheck Unit := do
  refuseIf (prompt == "") (diagnostic "missing_prompt" "Prompt pack task prompt is required."
    (some path))
  refuseIf (maxPromptChars < prompt.length) (diagnostic "oversized_prompt"
    (boundedMessage "task prompt" maxPromptChars) (some path))

def validatePriority (priority : ℤ) (path : String) : PackCheck Unit :=
  refuseIf (priority < minPriority || maxPriority < priority) (diagnostic "invalid_priority"
    ("Prompt pack priority must be between " ++ toString minPriority ++ " and " ++
      toString maxPriority ++ ".") (some path))

/-! ## Lists without repetitions -/

/-- The texts of a list as a check normalizes them, in their order; a text that was seen
before is refused. -/
def collectDistinct (check : ℕ → String → PackCheck String)
    (duplicate : ℕ → String → AgentQueuePromptPackPreviewDiagnostic) :
    ℕ → List String → List String → PackCheck (List String)
  | _, _, [] => .ok []
  | index, seen, value :: rest => do
      let text ← check index value
      refuseIf (seen.contains text) (duplicate index text)
      let texts ← collectDistinct check duplicate (index + 1) (text :: seen) rest
      pure (text :: texts)

/-- `str::to_ascii_lowercase` of the trimmed tag. -/
def normalizedTag (tag : String) : String :=
  String.ofList ((Text.trim tag).toList.map Char.toLower)

def checkTag (path : String) (index : ℕ) (tag : String) : PackCheck String := do
  refuseIf (normalizedTag tag == "") (diagnostic "missing_tag"
    "Prompt pack task tags must not be empty." (some (indexedPath path index)))
  refuseIf (maxTagChars < (normalizedTag tag).length) (diagnostic "oversized_tag"
    (boundedMessage "task tags" maxTagChars) (some (indexedPath path index)))
  pure (normalizedTag tag)

def duplicateTag (path : String) (index : ℕ) (tag : String) :
    AgentQueuePromptPackPreviewDiagnostic :=
  diagnostic "duplicate_tag" ("Prompt pack task contains duplicate tag \"" ++ tag ++
    "\" after normalization.") (some (indexedPath path index))

def normalizeTags (tags : List String) (taskIndex : ℕ) : PackCheck (List String) := do
  let path := indexedPath "$.tasks" taskIndex ++ ".tags"
  refuseIf (maxTags < tags.length) (diagnostic "too_many_tags"
    ("Prompt pack task tags exceed the limit of " ++ Nat.repr maxTags ++ ".") (some path))
  let normalized ← collectDistinct (checkTag path) (duplicateTag path) 0 [] tags
  pure (sortedStrings normalized)

def checkDependency (path taskId : String) (knownTaskIds : List String) (index : ℕ)
    (dependencyId : String) : PackCheck String := do
  validateSlug dependencyId "dependency id" (indexedPath path index) maxTaskIdChars
  refuseIf (dependencyId == taskId) (diagnostic "self_dependency"
    ("Prompt pack task \"" ++ taskId ++ "\" must not depend on itself.")
    (some (indexedPath path index)))
  refuseIf (!knownTaskIds.contains dependencyId) (diagnostic "unknown_dependency"
    ("Prompt pack task \"" ++ taskId ++ "\" depends on unknown task \"" ++ dependencyId ++
      "\".") (some (indexedPath path index)))
  pure dependencyId

def duplicateDependency (path taskId : String) (index : ℕ) (dependencyId : String) :
    AgentQueuePromptPackPreviewDiagnostic :=
  diagnostic "duplicate_dependency" ("Prompt pack task \"" ++ taskId ++
    "\" contains duplicate dependency \"" ++ dependencyId ++ "\".")
    (some (indexedPath path index))

def normalizeDependencies (dependencies : List String) (taskId : String)
    (knownTaskIds : List String) (taskIndex : ℕ) : PackCheck (List String) := do
  let path := indexedPath "$.tasks" taskIndex ++ ".dependsOn"
  let normalized ← collectDistinct (checkDependency path taskId knownTaskIds)
    (duplicateDependency path taskId) 0 [] dependencies
  pure (sortedStrings normalized)

def checkTaskId (index : ℕ) (taskId : String) : PackCheck String := do
  validateSlug taskId "task id" (indexedPath "$.tasks" index ++ ".id") maxTaskIdChars
  pure taskId

def duplicateTaskId (index : ℕ) (taskId : String) : AgentQueuePromptPackPreviewDiagnostic :=
  diagnostic "duplicate_task_id" ("Prompt pack contains duplicate task id \"" ++ taskId ++
    "\".") (some (indexedPath "$.tasks" index ++ ".id"))

/-! ## Settings -/

def normalizeDefaults (input : Option PromptPackDefaultsInput) :
    PackCheck AgentQueuePromptPackDefaultsPreview := do
  let status := (input.bind (·.status)).getD "draft"
  refuseIf (status != "draft") (diagnostic "unsupported_default_status"
    "Prompt pack defaults.status must be draft for preview MVP." (some "$.defaults.status"))
  let priority := (input.bind (·.priority)).getD defaultPriority
  validatePriority priority "$.defaults.priority"
  pure ⟨status, priority⟩

def normalizeConstraints (input : Option PromptPackConstraintsInput) :
    PackCheck AgentQueuePromptPackConstraintsPreview := do
  refuseIf (input.bind (·.noAutoRun) == some false) (diagnostic "auto_run_not_allowed"
    "Prompt pack constraints.noAutoRun must be true when present."
    (some "$.constraints.noAutoRun"))
  pure ⟨true⟩

def normalizeExecutionTarget (input : PromptPackExecutionTargetInput) :
    PackCheck AgentQueuePromptPackExecutionTargetPreview :=
  match Text.optionalTrimmed input.kind, Text.optionalTrimmed input.providerId with
  | none, _ => .error (diagnostic "missing_execution_target_kind"
      ("Prompt pack runSettings.executionTarget.kind is required when executionTarget is " ++
        "present.") (some "$.runSettings.executionTarget.kind"))
  | some _, none => .error (diagnostic "missing_execution_target_provider"
      ("Prompt pack runSettings.executionTarget.providerId is required when " ++
        "executionTarget is present.") (some "$.runSettings.executionTarget.providerId"))
  | some kind, some providerId =>
      if kind ≠ "queue_local" ∨ providerId ≠ "codex" then
        .error (diagnostic "unsupported_execution_target"
          ("Prompt pack executionTarget must be \x7b kind: \"queue_local\", " ++
            "providerId: \"codex\" \x7d.") (some "$.runSettings.executionTarget"))
      else .ok ⟨kind, providerId⟩

def normalizeRunSettings (input : Option PromptPackRunSettingsInput) :
    PackCheck AgentQueuePromptPackRunSettingsPreview := do
  let executionPolicy :=
    (Text.optionalTrimmed (input.bind (·.executionPolicy))).getD "manual"
  refuseIf (executionPolicy != "manual") (diagnostic "unsupported_execution_policy"
    "Prompt pack runSettings.executionPolicy must be manual."
    (some "$.runSettings.executionPolicy"))
  let executionTarget ← (input.bind (·.executionTarget)).mapM normalizeExecutionTarget
  let sandbox := Text.optionalTrimmed (input.bind (·.sandbox))
  refuseIf (sandbox.any fun sandbox => sandbox != "read_only" && sandbox != "workspace_write")
    (diagnostic "unsupported_sandbox"
      "Prompt pack runSettings.sandbox must be read_only or workspace_write."
      (some "$.runSettings.sandbox"))
  let approvalPolicy := Text.optionalTrimmed (input.bind (·.approvalPolicy))
  refuseIf (approvalPolicy.any (· != "never")) (diagnostic "unsupported_approval_policy"
    "Prompt pack runSettings.approvalPolicy must be never for preview MVP."
    (some "$.runSettings.approvalPolicy"))
  pure ⟨executionTarget, executionPolicy, sandbox, approvalPolicy⟩

def normalizeSafety (safety : Option PromptPackSafetyInput) (taskIndex : ℕ) :
    PackCheck (Option AgentQueuePromptPackSafetyPreview) :=
  match safety with
  | none => .ok none
  | some safety => do
      validateOptionalText safety.notes "safety.notes"
        (indexedPath "$.tasks" taskIndex ++ ".safety.notes") maxSafetyNotesChars
      pure (some ⟨safety.notes, safety.sensitiveTextWarning⟩)

/-! ## Hashes -/

def hashValue (hashPrefix : String) (value : Json) : String :=
  stableFnv1a64Hash hashPrefix value.canonicalString

/-- An optional value in a hash: absent ones are `null`. -/
def optionalJson {α : Type} (toJson : α → Json) (value : Option α) : Json :=
  (value.map toJson).getD .null

def safetyHashValue (safety : AgentQueuePromptPackSafetyPreview) : Json :=
  .obj [("notes", optionalJson .str safety.notes),
    ("sensitiveTextWarning", optionalJson .bool safety.sensitiveTextWarning)]

def executionTargetHashValue (target : AgentQueuePromptPackExecutionTargetPreview) : Json :=
  .obj [("kind", .str target.kind), ("providerId", .str target.providerId)]

def taskSpecHash (task : AgentQueuePromptPackTaskPreview) : String :=
  hashValue "prompt_pack_task_spec" (.obj [
    ("expectedOutput", optionalJson .str task.expectedOutput),
    ("id", .str task.id),
    ("priority", .num (toString task.priority)),
    ("prompt", .str task.prompt),
    ("safety", optionalJson safetyHashValue task.safety),
    ("schema", .str "hobit.queue.promptPack.task.v1"),
    ("status", .str task.status),
    ("tags", Json.ofStrings task.tags),
    ("title", .str task.title)])

/-- A map of pack tasks, as an ordered map lists it. -/
def orderedByTask {α : Type} (entries : List (String × α)) : List (String × α) :=
  entries.insertionSort fun a b => a.1 ≤ b.1

def dependencySpecHash (dependenciesByTask : List (String × List String)) : String :=
  let edges := dependenciesByTask.flatMap fun entry => entry.2.map fun dependencyId =>
    Json.obj [("dependsOn", .str dependencyId), ("taskId", .str entry.1)]
  hashValue "prompt_pack_dependency_spec" (.obj [
    ("edges", .arr edges),
    ("schema", .str "hobit.queue.promptPack.dependencies.v1")])

def runSettingsHash (settings : AgentQueuePromptPackRunSettingsPreview) : String :=
  hashValue "prompt_pack_run_settings" (.obj [
    ("approvalPolicy", optionalJson .str settings.approvalPolicy),
    ("executionPolicy", .str settings.executionPolicy),
    ("executionTarget", optionalJson executionTargetHashValue settings.executionTarget),
    ("sandbox", optionalJson .str settings.sandbox),
    ("schema", .str "hobit.queue.promptPack.runSettings.v1")])

/-- The hash of a pack with its tasks. -/
def packSpecHash (pack : AgentQueuePromptPackMetadataPreview)
    (tasks : List AgentQueuePromptPackTaskPreview)
    (dependencySpecHash runSettingsHash : String) : String :=
  let taskSpecHashes := (orderedByTask (tasks.map fun task => (task.id, task.taskSpecHash))).map
    fun entry => Json.obj [("taskId", .str entry.1), ("taskSpecHash", .str entry.2)]
  hashValue "prompt_pack_spec" (.obj [
    ("constraints", .obj [("noAutoRun", .bool pack.constraints.noAutoRun)]),
    ("defaults", .obj [("priority", .num (toString pack.defaults.priority)),
      ("status", .str pack.defaults.status)]),
    ("dependencySpecHash", .str dependencySpecHash),
    ("description", optionalJson .str pack.description),
    ("packId", .str pack.packId),
    ("runSettingsHash", .str runSettingsHash),
    ("schema", .str "hobit.queue.promptPack.pack.v1"),
    ("taskSpecHashes", .arr taskSpecHashes),
    ("title", .str pack.title),
    ("version", .num (Nat.repr pack.version))])

def fullPreviewHash (packSpecHash : String) : String :=
  hashValue "prompt_pack_preview" (.obj [
    ("materializationStatus", .str PromptPackMaterializationStatus.notEvaluated.asStr),
    ("packSpecHash", .str packSpecHash),
    ("schema", .str "hobit.queue.promptPack.preview.v1"),
    ("wouldCreateRunLinks", .bool false),
    ("wouldMutateQueue", .bool false),
    ("wouldStartWorkers", .bool false)])

/-! ## Cycles -/

inductive VisitState where
  | visiting | visited
  deriving DecidableEq

/-- Does a walk along the dependencies of a task come back to a task it is still at?
`fuel` bounds the depth; every call enters a task that has no state yet. -/
def visitDependencyNode (dependenciesByTask : List (String × List String)) :
    ℕ → String → List (String × VisitState) → Bool × List (String × VisitState)
  | 0, _, states => (false, states)
  | fuel + 1, taskId, states =>
      match states.lookup taskId with
      | some .visiting => (true, states)
      | some .visited => (false, states)
      | none =>
          match Search.anyFrom (visitDependencyNode dependenciesByTask fuel)
              ((dependenciesByTask.lookup taskId).getD []) ((taskId, .visiting) :: states) with
          | (true, states) => (true, states)
          | (false, states) => (false, (taskId, .visited) :: states)

def detectDependencyCycle (dependenciesByTask : List (String × List String)) :
    PackCheck Unit :=
  let visit := visitDependencyNode dependenciesByTask (dependenciesByTask.length + 1)
  refuseIf (Search.anyFrom visit (dependenciesByTask.map Prod.fst) []).1
    (diagnostic "dependency_cycle" "Prompt pack dependencies must not contain a cycle."
      (some "$.tasks"))

/-! ## The pack -/

/-- A task of a pack, checked and trimmed. -/
def normalizeTask (defaults : AgentQueuePromptPackDefaultsPreview) (knownTaskIds : List String)
    (index : ℕ) (task : PromptPackTaskInput) : PackCheck AgentQueuePromptPackTaskPreview := do
  let path := indexedPath "$.tasks" index
  validateRequiredBoundedString task.title "task title" (path ++ ".title") maxTitleChars
  validatePrompt task.prompt (path ++ ".prompt")
  let tags ← normalizeTags task.tags index
  let priority := task.priority.getD defaults.priority
  validatePriority priority (path ++ ".priority")
  validateOptionalText task.expectedOutput "expectedOutput" (path ++ ".expectedOutput")
    maxExpectedOutputChars
  let safety ← normalizeSafety task.safety index
  let dependsOn ← normalizeDependencies task.dependsOn task.id knownTaskIds index
  let preview : AgentQueuePromptPackTaskPreview := {
    PromptPackOutlook.unevaluated with
    id := task.id
    queueTaskId := none
    title := task.title
    prompt := task.prompt
    dependsOn := dependsOn
    tags := tags
    priority := priority
    status := defaults.status
    expectedOutput := task.expectedOutput
    safety := safety
    taskSpecHash := ""
    dependencyQueueTaskIds := [] }
  pure { preview with taskSpecHash := taskSpecHash preview }

/-- The tasks one after the other; `count` is the number of dependencies so far. -/
def normalizeTasks (defaults : AgentQueuePromptPackDefaultsPreview) (knownTaskIds : List String) :
    ℕ → ℕ → List PromptPackTaskInput → PackCheck (List AgentQueuePromptPackTaskPreview)
  | _, _, [] => .ok []
  | index, count, task :: rest => do
      let preview ← normalizeTask defaults knownTaskIds index task
      refuseIf (maxDependencyEdges < count + preview.dependsOn.length)
        (diagnostic "too_many_dependencies" ("Prompt pack dependencies exceed the limit of " ++
          Nat.repr maxDependencyEdges ++ ".") (some "$.tasks"))
      let previews ← normalizeTasks defaults knownTaskIds (index + 1)
        (count + preview.dependsOn.length) rest
      pure (preview :: previews)

/-- The dependencies of the tasks, as an ordered map lists them. -/
def dependenciesByTask (tasks : List AgentQueuePromptPackTaskPreview) :
    List (String × List String) :=
  orderedByTask (tasks.map fun task => (task.id, task.dependsOn))

/-- The checks of a pack in their order, and its hashes. -/
def normalizePromptPack (workspaceId : String) (input : PromptPackInput) :
    PackCheck AgentQueuePromptPackPreview := do
  refuseIf (input.version != 1) (diagnostic "unsupported_version"
    "Prompt pack version must be exactly 1." (some "$.version"))
  validateSlug input.packId "packId" "$.packId" maxPackIdChars
  validateRequiredBoundedString input.title "title" "$.title" maxTitleChars
  validateOptionalText input.description "description" "$.description" maxDescriptionChars
  refuseIf input.tasks.isEmpty (diagnostic "missing_tasks"
    "Prompt pack tasks must contain at least one task." (some "$.tasks"))
  refuseIf (maxTasks < input.tasks.length) (diagnostic "too_many_tasks"
    ("Prompt pack tasks exceed the limit of " ++ Nat.repr maxTasks ++ ".") (some "$.tasks"))
  let defaults ← normalizeDefaults input.defaults
  let constraints ← normalizeConstraints input.constraints
  let runSettings ← normalizeRunSettings input.runSettings
  let knownTaskIds ← collectDistinct checkTaskId duplicateTaskId 0 []
    (input.tasks.map (·.id))
  let tasks ← normalizeTasks defaults knownTaskIds 0 0 input.tasks
  detectDependencyCycle (dependenciesByTask tasks)
  let pack : AgentQueuePromptPackMetadataPreview :=
    ⟨input.version, input.packId, input.title, input.description, defaults, constraints⟩
  let dependencyHash := dependencySpecHash (dependenciesByTask tasks)
  let settingsHash := runSettingsHash runSettings
  let packHash := packSpecHash pack tasks dependencyHash settingsHash
  pure {
    PromptPackOutlook.unevaluated with
    workspaceId := workspaceId
    pack := pack
    runSettings := runSettings
    taskCount := tasks.length
    dependencyCount := (tasks.map (·.dependsOn.length)).sum
    tasks := tasks
    packSpecHash := packHash
    runSettingsHash := settingsHash
    dependencySpecHash := dependencyHash
    fullPreviewHash := fullPreviewHash packHash
    blockers := [] }

/-! ## From the payload to the preview -/

inductive PromptPackPreviewStatus where
  | succeeded | invalid
  deriving DecidableEq, Repr

structure AgentQueuePromptPackPreviewResult where
  status : PromptPackPreviewStatus
  preview : Option AgentQueuePromptPackPreview
  errors : List AgentQueuePromptPackPreviewDiagnostic
  deriving DecidableEq

def invalidResult (error : AgentQueuePromptPackPreviewDiagnostic) :
    AgentQueuePromptPackPreviewResult := ⟨.invalid, none, [error]⟩

/-- A check that may find something wrong. -/
def refuseSome (error : Option AgentQueuePromptPackPreviewDiagnostic) : PackCheck Unit :=
  match error with
  | some error => .error error
  | none => .ok ()

/-- The preview of a pack that is accepted. -/
def parsePromptPack (request : AgentQueuePromptPackPreviewRequest) :
    PackCheck AgentQueuePromptPackPreview := do
  let workspaceId := Text.trim request.workspaceId
  refuseIf (workspaceId == "") (diagnostic "missing_workspace_id"
    "Prompt pack preview requires a workspaceId supplied by the backend request context."
    (some "$.workspaceId"))
  match request.jsonPayload.parse with
  | none => .error (diagnostic "invalid_json" "Prompt pack JSON is invalid." none)
  | some document => do
      let value := document.ofDocument
      refuseIf value.asObject.isNone (diagnostic "invalid_json_object"
        "Prompt pack JSON must be an object." (some "$"))
      refuseSome (findForbiddenKey value "$")
      refuseSome (validateJsonShape value)
      refuseSome (validateRequiredKeys value)
      match readPromptPackInput value with
      | .error error => .error (diagnostic "invalid_schema"
          ("Prompt pack JSON does not match the v1 schema: " ++ error) none)
      | .ok input => normalizePromptPack workspaceId input

/-- From the payload to the preview. -/
def parseAndPreviewAgentQueuePromptPack (request : AgentQueuePromptPackPreviewRequest) :
    AgentQueuePromptPackPreviewResult :=
  match parsePromptPack request with
  | .ok preview => ⟨.succeeded, some preview, []⟩
  | .error error => invalidResult error

end HobitQueue
