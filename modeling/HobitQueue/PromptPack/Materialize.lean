import HobitQueue.PromptPack.Normalize
import HobitQueue.Service.Dependencies
import HobitQueue.Store.PromptPacks

/-!
# Previewing and materializing a prompt pack

A pack that is stored already is compared with its preview: hashes, mappings, the Queue
tasks and their dependencies. The preview reports what the comparison says; a
materialization acts on it in one transaction, and creates the Queue tasks of a pack that
is not stored.
-/

namespace HobitQueue

open Concurrent

/-! ## The comparison -/

structure ValidatedPromptPackMaterialization where
  queueTaskIdsByPackTaskId : List (String × String)
  dependencyQueueTaskIdsByPackTaskId : List (String × List String)
  deriving DecidableEq

inductive PromptPackMaterializationState where
  | notMaterialized
  | reusable (validated : ValidatedPromptPackMaterialization)
  | conflict (error : AgentQueuePromptPackPreviewDiagnostic)
  deriving DecidableEq

def mappingConflict (message : String) : AgentQueuePromptPackPreviewDiagnostic :=
  diagnostic "prompt_pack_mapping_integrity_conflict" message (some "$.packId")

def dependencyQueueTaskIds (task : AgentQueuePromptPackTaskPreview)
    (queueTaskIds : List (String × String)) : Except StorageError (List String) :=
  task.dependsOn.mapM fun dependencyPackTaskId =>
    match queueTaskIds.lookup dependencyPackTaskId with
    | some queueTaskId => .ok queueTaskId
    | none => .error (storageInvalidInput
        ("missing queue task id for dependency pack task " ++ dependencyPackTaskId))

def parseQueueTaskDependencyIds (dependsOn : JsonText) : Except StorageError (List String) :=
  match dependsOn.parseStrings with
  | some dependencies => .ok dependencies
  | none => .error (storageInvalidInput
      "queue task dependencies could not be parsed during prompt pack materialization")

/-- `error.to_string()` of a message from inside a transaction. -/
def storageMessage : StorageError → String
  | .invalidParameterName message => "Invalid parameter name: " ++ message
  | .queryReturnedNoRows => "Query returned no rows"
  | .constraintViolation message => message

def validateDurableTaskMatchesPreview (preview : AgentQueuePromptPackPreview)
    (task : AgentQueuePromptPackTaskPreview) (durableTask : AgentQueueTaskRow) : Bool :=
  durableTask.title == task.title && durableTask.prompt == task.prompt &&
    durableTask.priority == task.priority && durableTask.executionPolicy == "manual" &&
    durableTask.executionWorkspace.isNone && durableTask.codexExecutable.isNone &&
    durableTask.sandbox == preview.runSettings.sandbox &&
    durableTask.approvalPolicy == preview.runSettings.approvalPolicy

/-- A task of a stored pack with its Queue task. -/
structure MappedPackTask where
  task : AgentQueuePromptPackTaskPreview
  queueTaskId : String
  durableTask : AgentQueueTaskRow

/-- A task of a stored pack, checked against its mapping. -/
def mappedPackTask (ps : PromptPackStore) (preview : AgentQueuePromptPackPreview)
    (mappings : List AgentQueuePromptPackTaskMappingRow)
    (task : AgentQueuePromptPackTaskPreview) : PackCheck MappedPackTask :=
  match mappings.find? (·.packTaskId == task.id) with
  | none => .error (mappingConflict
      ("prompt pack task mapping is missing for pack task " ++ task.id))
  | some mapping =>
      if mapping.taskSpecHash ≠ task.taskSpecHash then
        .error (mappingConflict
          ("prompt pack task mapping hash differs for pack task " ++ task.id))
      else
        match ps.store.getAgentQueueTask preview.workspaceId mapping.queueTaskId with
        | none => .error (mappingConflict
            ("prompt pack mapped queue task is missing: " ++ mapping.queueTaskId))
        | some durableTask =>
            if validateDurableTaskMatchesPreview preview task durableTask then
              .ok ⟨task, mapping.queueTaskId, durableTask⟩
            else .error (mappingConflict
              ("prompt pack mapped queue task no longer matches pack task " ++ task.id))

/-- The dependencies of a task as the pack has them, when the Queue task has the same. -/
def mappedDependencies (queueTaskIds : List (String × String)) (mapped : MappedPackTask) :
    PackCheck (String × List String) := do
  let expected ← (dependencyQueueTaskIds mapped.task queueTaskIds).mapError
    fun error => mappingConflict (storageMessage error)
  let actual ← (parseQueueTaskDependencyIds mapped.durableTask.dependsOn).mapError
    fun error => mappingConflict (storageMessage error)
  refuseIf (sortedStrings actual != expected) (mappingConflict
    ("prompt pack mapped queue task dependencies differ for pack task " ++ mapped.task.id))
  pure (mapped.task.id, expected)

def validateExistingMaterialization (ps : PromptPackStore)
    (preview : AgentQueuePromptPackPreview) : PackCheck ValidatedPromptPackMaterialization := do
  let mappings := ps.listTaskMappings preview.workspaceId preview.pack.packId
  refuseIf (mappings.length != preview.taskCount) (mappingConflict
    "Prompt pack task mapping count does not match materialized pack task count.")
  let mapped ← preview.tasks.mapM (mappedPackTask ps preview mappings)
  let queueTaskIds := mapped.map fun entry => (entry.task.id, entry.queueTaskId)
  let dependencies ← mapped.mapM (mappedDependencies queueTaskIds)
  pure ⟨queueTaskIds, dependencies⟩

/-- The record of the pack has the hashes of the preview. -/
def sameMaterializationHashes (existing : AgentQueuePromptPackMaterializationRow)
    (preview : AgentQueuePromptPackPreview) : Bool :=
  existing.runSettingsHash == preview.runSettingsHash &&
    existing.dependencySpecHash == preview.dependencySpecHash &&
    existing.fullPreviewHash == preview.fullPreviewHash &&
    existing.taskCount == preview.taskCount

/-- The comparison of a preview with the store. -/
def materializationState (ps : PromptPackStore) (preview : AgentQueuePromptPackPreview) :
    PromptPackMaterializationState :=
  match ps.getMaterialization preview.workspaceId preview.pack.packId with
  | none => .notMaterialized
  | some existing =>
      if existing.packSpecHash ≠ preview.packSpecHash then
        .conflict (diagnostic "prompt_pack_spec_conflict"
          ("Prompt pack has already been materialized in this workspace with a different " ++
            "spec hash.") (some "$.packId"))
      else if sameMaterializationHashes existing preview then
        match validateExistingMaterialization ps preview with
        | .ok validated => .reusable validated
        | .error error => .conflict error
      else
        .conflict (mappingConflict ("Prompt pack materialization record is inconsistent with " ++
          "the current preview hashes."))

/-! ## The preview -/

def PromptPackOutlook.notMaterialized : PromptPackOutlook := ⟨true, false, false, .notMaterialized⟩
def PromptPackOutlook.reusable : PromptPackOutlook := ⟨false, true, false, .reusable⟩
def PromptPackOutlook.conflict : PromptPackOutlook := ⟨false, false, true, .conflict⟩

/-- The preview with what a materialization would answer. -/
def evaluatePromptPackPreviewState (ps : PromptPackStore)
    (preview : AgentQueuePromptPackPreview) : AgentQueuePromptPackPreview :=
  match materializationState ps preview with
  | .notMaterialized => {
      preview with
      toPromptPackOutlook := .notMaterialized
      tasks := preview.tasks.map fun task => {
        task with
        toPromptPackOutlook := .notMaterialized
        queueTaskId := none
        dependencyQueueTaskIds := [] } }
  | .reusable validated => {
      preview with
      toPromptPackOutlook := .reusable
      tasks := preview.tasks.map fun task => {
        task with
        toPromptPackOutlook := .reusable
        queueTaskId := validated.queueTaskIdsByPackTaskId.lookup task.id
        dependencyQueueTaskIds :=
          (validated.dependencyQueueTaskIdsByPackTaskId.lookup task.id).getD [] } }
  | .conflict error => {
      preview with
      toPromptPackOutlook := .conflict
      blockers := preview.blockers ++ [error]
      tasks := preview.tasks.map fun task => {
        task with
        toPromptPackOutlook := .conflict
        queueTaskId := none
        dependencyQueueTaskIds := [] } }

/-- The preview of a payload on a store; it only reads, and does not fail. -/
def previewAgentQueuePromptPack (ps : PromptPackStore)
    (request : AgentQueuePromptPackPreviewRequest) : AgentQueuePromptPackPreviewResult :=
  let result := parseAndPreviewAgentQueuePromptPack request
  { result with preview := result.preview.map (evaluatePromptPackPreviewState ps) }

/-! ## Results -/

inductive PromptPackMaterializeStatus where
  | created | reused | conflict | failed
  deriving DecidableEq, Repr

structure AgentQueuePromptPackMaterializedTaskResult where
  packTaskId : String
  queueTaskId : Option String
  taskSpecHash : String
  status : PromptPackMaterializeStatus
  dependencyQueueTaskIds : List String
  deriving DecidableEq

structure AgentQueuePromptPackMaterializeResult where
  status : PromptPackMaterializeStatus
  packId : Option String
  packSpecHash : Option String
  runSettingsHash : Option String
  dependencySpecHash : Option String
  fullPreviewHash : Option String
  taskCount : ℕ
  createdCount : ℕ
  reusedCount : ℕ
  conflictCount : ℕ
  tasks : List AgentQueuePromptPackMaterializedTaskResult
  errors : List AgentQueuePromptPackPreviewDiagnostic
  wouldMutateQueue : Bool
  deriving DecidableEq

def materializeSuccessResult (preview : AgentQueuePromptPackPreview)
    (status : PromptPackMaterializeStatus) (createdCount reusedCount : ℕ)
    (wouldMutateQueue : Bool) (materialized : ValidatedPromptPackMaterialization) :
    AgentQueuePromptPackMaterializeResult where
  status := status
  packId := some preview.pack.packId
  packSpecHash := some preview.packSpecHash
  runSettingsHash := some preview.runSettingsHash
  dependencySpecHash := some preview.dependencySpecHash
  fullPreviewHash := some preview.fullPreviewHash
  taskCount := preview.taskCount
  createdCount := createdCount
  reusedCount := reusedCount
  conflictCount := 0
  tasks := preview.tasks.map fun task => {
    packTaskId := task.id
    queueTaskId := materialized.queueTaskIdsByPackTaskId.lookup task.id
    taskSpecHash := task.taskSpecHash
    status := status
    dependencyQueueTaskIds :=
      (materialized.dependencyQueueTaskIdsByPackTaskId.lookup task.id).getD [] }
  errors := []
  wouldMutateQueue := wouldMutateQueue

def materializeCreatedResult (preview : AgentQueuePromptPackPreview)
    (materialized : ValidatedPromptPackMaterialization) :
    AgentQueuePromptPackMaterializeResult :=
  materializeSuccessResult preview .created preview.taskCount 0 true materialized

def materializeReusedResult (preview : AgentQueuePromptPackPreview)
    (materialized : ValidatedPromptPackMaterialization) :
    AgentQueuePromptPackMaterializeResult :=
  materializeSuccessResult preview .reused 0 preview.taskCount false materialized

def materializeConflictResult (preview : AgentQueuePromptPackPreview)
    (error : AgentQueuePromptPackPreviewDiagnostic) :
    AgentQueuePromptPackMaterializeResult where
  status := .conflict
  packId := some preview.pack.packId
  packSpecHash := some preview.packSpecHash
  runSettingsHash := some preview.runSettingsHash
  dependencySpecHash := some preview.dependencySpecHash
  fullPreviewHash := some preview.fullPreviewHash
  taskCount := preview.taskCount
  createdCount := 0
  reusedCount := 0
  conflictCount := preview.taskCount
  tasks := preview.tasks.map fun task => ⟨task.id, none, task.taskSpecHash, .conflict, []⟩
  errors := [error]
  wouldMutateQueue := false

def materializeFailedResult (errors : List AgentQueuePromptPackPreviewDiagnostic) :
    AgentQueuePromptPackMaterializeResult where
  status := .failed
  packId := none
  packSpecHash := none
  runSettingsHash := none
  dependencySpecHash := none
  fullPreviewHash := none
  taskCount := 0
  createdCount := 0
  reusedCount := 0
  conflictCount := 0
  tasks := []
  errors := errors
  wouldMutateQueue := false

/-! ## The materialization -/

/-- The context of a pack's task. -/
def promptPackTaskContextJson (preview : AgentQueuePromptPackPreview)
    (task : AgentQueuePromptPackTaskPreview) : JsonText :=
  .value (.obj (
    [("attachedKnowledgeRefs", .arr []), ("attachedKnowledgeSnapshots", .arr []),
      ("attachedSkillRefs", .arr []),
      ("contextTokenBudget", .obj [("estimatedTokens", .num "0"), ("maxTokens", .num "1600"),
        ("overBudget", .bool false)]),
      ("contextWarnings", .arr []), ("dependencySpecHash", .str preview.dependencySpecHash)] ++
    (preview.runSettings.executionTarget.map fun target =>
      ("executionTarget", executionTargetHashValue target)).toList ++
    [("expectedOutput", optionalJson .str task.expectedOutput),
      ("fullPreviewHash", .str preview.fullPreviewHash), ("materializedAt", .null),
      ("packId", .str preview.pack.packId), ("packSpecHash", .str preview.packSpecHash),
      ("packTaskId", .str task.id), ("runSettingsHash", .str preview.runSettingsHash),
      ("safety", optionalJson safetyHashValue task.safety), ("source", .str "prompt_pack"),
      ("tags", Json.ofStrings task.tags), ("taskSpecHash", .str task.taskSpecHash)]))

def newMaterializationRow (preview : AgentQueuePromptPackPreview) (createdAt : String) :
    AgentQueuePromptPackMaterializationRow where
  workspaceId := preview.workspaceId
  packId := preview.pack.packId
  title := preview.pack.title
  description := preview.pack.description
  packSpecHash := preview.packSpecHash
  runSettingsHash := preview.runSettingsHash
  dependencySpecHash := preview.dependencySpecHash
  fullPreviewHash := preview.fullPreviewHash
  taskCount := preview.taskCount
  createdAt := createdAt
  updatedAt := createdAt

/-- The Queue task created for a task of a pack. -/
def newPackTaskRow (preview : AgentQueuePromptPackPreview)
    (task : AgentQueuePromptPackTaskPreview) (queueTaskId createdAt : String) :
    AgentQueueTaskRow where
  queueItemId := queueTaskId
  workspaceId := preview.workspaceId
  title := task.title
  description := ""
  prompt := task.prompt
  status := task.status
  priority := task.priority
  dependsOn := dependenciesJson []
  executionPolicy := "manual"
  executionWorkspace := none
  codexExecutable := none
  sandbox := preview.runSettings.sandbox
  approvalPolicy := preview.runSettings.approvalPolicy
  contextJson := some (promptPackTaskContextJson preview task)
  assignedExecutorWidgetId := none
  createdAt := createdAt
  updatedAt := createdAt

def newTaskMappingRow (preview : AgentQueuePromptPackPreview)
    (task : AgentQueuePromptPackTaskPreview) (queueTaskId createdAt : String) :
    AgentQueuePromptPackTaskMappingRow where
  workspaceId := preview.workspaceId
  packId := preview.pack.packId
  packTaskId := task.id
  queueTaskId := queueTaskId
  taskSpecHash := task.taskSpecHash
  createdAt := createdAt
  updatedAt := createdAt

def packTaskUpdate (preview : AgentQueuePromptPackPreview)
    (task : AgentQueuePromptPackTaskPreview) (dependencies : List String) (createdAt : String) :
    AgentQueueTaskUpdate where
  title := task.title
  description := ""
  prompt := task.prompt
  status := task.status
  priority := task.priority
  dependsOn := some (dependenciesJson dependencies)
  executionPolicy := some "manual"
  executionWorkspace := none
  codexExecutable := none
  sandbox := preview.runSettings.sandbox
  approvalPolicy := preview.runSettings.approvalPolicy
  contextJson := some (promptPackTaskContextJson preview task)
  updatedAt := createdAt

/-- The id drawn for the task at a place of the sorted list. -/
def packQueueTaskId (d : Draws) (index : ℕ) : String :=
  d.placeholderId "queue_task_prompt_pack_" (index + 1)

/-- A Queue task and a mapping for each task of a list, from a place of the sorted list on. -/
def insertPackTasks (d : Draws) (preview : AgentQueuePromptPackPreview) :
    ℕ → List AgentQueuePromptPackTaskPreview → PackSqlite (List (String × String))
  | _, [] => pure []
  | index, task :: rest => do
      let queueTaskId := packQueueTaskId d index
      let _ ← StoreProg.execute (PromptPackStore.onStore fun s =>
        s.createAgentQueueTask (newPackTaskRow preview task queueTaskId (d.timestamp 0)))
      let _ ← StoreProg.execute (PromptPackStore.insertTaskMapping
        (newTaskMappingRow preview task queueTaskId (d.timestamp 0)))
      let queueTaskIds ← insertPackTasks d preview (index + 1) rest
      pure ((task.id, queueTaskId) :: queueTaskIds)

/-- The dependencies of each task of a list, written into its Queue task. -/
def linkPackTasks (d : Draws) (preview : AgentQueuePromptPackPreview)
    (queueTaskIds : List (String × String)) :
    List AgentQueuePromptPackTaskPreview → PackSqlite (List (String × List String))
  | [] => pure []
  | task :: rest => do
      let queueTaskId ← StoreProg.check <|
        match queueTaskIds.lookup task.id with
        | some queueTaskId => .ok queueTaskId
        | none => .error (storageInvalidInput ("missing queue task id for " ++ task.id))
      let dependencies ← StoreProg.check (dependencyQueueTaskIds task queueTaskIds)
      let updated ← StoreProg.execute (PromptPackStore.onStore fun s =>
        s.updateAgentQueueTask preview.workspaceId queueTaskId
          (packTaskUpdate preview task dependencies (d.timestamp 0)))
      StoreProg.failIf updated.isNone (storageInvalidInput
        ("created prompt pack queue task disappeared before dependency update: " ++
          queueTaskId))
      let linked ← linkPackTasks d preview queueTaskIds rest
      pure ((task.id, dependencies) :: linked)

/-- The tasks in the order of their ids, in which their Queue ids are drawn. -/
def sortedPackTasks (tasks : List AgentQueuePromptPackTaskPreview) :
    List AgentQueuePromptPackTaskPreview :=
  tasks.insertionSort fun a b => a.id ≤ b.id

/-- The rows of a new pack. -/
def insertPromptPack (d : Draws) (preview : AgentQueuePromptPackPreview) :
    PackSqlite ValidatedPromptPackMaterialization := do
  StoreProg.execute (PromptPackStore.insertMaterialization
    (newMaterializationRow preview (d.timestamp 0)))
  let sortedTasks := sortedPackTasks preview.tasks
  let queueTaskIds ← insertPackTasks d preview 0 sortedTasks
  let dependencies ← linkPackTasks d preview queueTaskIds sortedTasks
  StoreProg.execute (PromptPackStore.onStore fun s =>
    s.touchWorkspace preview.workspaceId (d.timestamp (sortedTasks.length + 1)))
  pure ⟨queueTaskIds, dependencies⟩

/-- The Queue tasks of a new pack, in the order of their ids. -/
def createPromptPackTasks (d : Draws) (preview : AgentQueuePromptPackPreview) :
    PackSqlite AgentQueuePromptPackMaterializeResult := do
  let created ← insertPromptPack d preview
  pure (materializeCreatedResult preview created)

def materializePromptPackInTransaction (d : Draws) (preview : AgentQueuePromptPackPreview) :
    PackSqlite AgentQueuePromptPackMaterializeResult := do
  let workspace ← StoreProg.query fun ps => ps.store.getWorkspace preview.workspaceId
  if workspace.isNone then
    pure (materializeConflictResult preview (diagnostic "workspace_not_found"
      "Prompt pack materialization requires an existing workspace." (some "$.workspaceId")))
  else
    let state ← StoreProg.query fun ps => materializationState ps preview
    match state with
    | .reusable validated => pure (materializeReusedResult preview validated)
    | .conflict error => pure (materializeConflictResult preview error)
    | .notMaterialized => createPromptPackTasks d preview

/-- The command that creates the tasks of a pack. -/
def materializeAgentQueuePromptPack (d : Draws)
    (request : AgentQueuePromptPackMaterializeRequest) :
    StoreProg PromptPackStore WorkspaceServiceError AgentQueuePromptPackMaterializeResult :=
  let parsed := parseAndPreviewAgentQueuePromptPack request
  match parsed.preview with
  | none => pure (materializeFailedResult parsed.errors)
  | some preview =>
      (StoreProg.atomically (materializePromptPackInTransaction d preview)).mapErr
        mapStorageAgentQueueTaskError

end HobitQueue
