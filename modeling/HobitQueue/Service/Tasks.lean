import HobitQueue.Service.Dependencies
import HobitQueue.Service.Lifecycle

/-!
# Task commands

Creating, editing, assigning and deleting Queue tasks. Every command checks its
input first, then works in one transaction.
-/

namespace HobitQueue

open Concurrent StoreProg

def agentRunWidgetDefinitionId : String := "agent-run"
def agentQueueWidgetDefinitionId : String := "agent-queue"
def coordinatorChatWidgetDefinitionId : String := "interactive-agent"

def minAgentQueueTaskPriority : ℤ := 0
def maxAgentQueueTaskPriority : ℤ := 5

structure AgentQueueTaskSummary where
  queueItemId : String
  workspaceId : String
  title : String
  description : String
  prompt : String
  status : String
  priority : ℤ
  dependsOn : List String
  executionPolicy : String
  executionWorkspace : Option String
  codexExecutable : Option String
  sandbox : Option String
  approvalPolicy : Option String
  contextJson : Option JsonText
  assignedExecutorWidgetId : Option String
  createdAt : String
  updatedAt : String
  deriving DecidableEq

def agentQueueTaskSummary (row : AgentQueueTaskRow) : AgentQueueTaskSummary :=
  { row with dependsOn := rowDependencyIds row }

/-! ## Input -/

structure CreateAgentQueueTaskInput where
  workspaceId : String
  title : String
  description : String
  prompt : String
  status : String
  priority : ℤ
  dependsOn : Option (List String)
  executionPolicy : Option String
  executionWorkspace : Option String
  codexExecutable : Option String
  sandbox : Option String
  approvalPolicy : Option String

structure UpdateAgentQueueTaskInput extends CreateAgentQueueTaskInput where
  queueItemId : String

structure AssignAgentQueueTaskToExecutorInput where
  workspaceId : String
  queueItemId : String
  executorWidgetInstanceId : String

/-- The input of the commands that name a task and nothing else. -/
structure AgentQueueTaskRef where
  workspaceId : String
  queueItemId : String

/-- The checked input of a new task. -/
structure NormalizedCreateAgentQueueTaskInput where
  workspaceId : String
  title : String
  description : String
  prompt : String
  status : String
  priority : ℤ
  dependsOn : List String
  executionPolicy : String
  executionWorkspace : Option String
  codexExecutable : Option String
  sandbox : Option String
  approvalPolicy : Option String

/-- The checked input of an edit: what is `none` stays as it is. -/
structure NormalizedUpdateAgentQueueTaskInput where
  workspaceId : String
  queueItemId : String
  title : String
  description : String
  prompt : String
  status : String
  priority : ℤ
  dependsOn : Option (List String)
  executionPolicy : Option String
  executionWorkspace : Option String
  codexExecutable : Option String
  sandbox : Option String
  approvalPolicy : Option String

def normalizeStatus (status : String) : Except WorkspaceServiceError String := do
  let status ← requiredInput status "queue task status"
  match AgentQueueTaskLifecycleStatus.fromCurrentStatus status with
  | some _ => .ok status
  | none => .error (.invalidInput ("unsupported queue task status: " ++ status))

def normalizePrompt (prompt status : String) : Except WorkspaceServiceError String :=
  let prompt := Text.trim prompt
  let requiresPrompt := ((AgentQueueTaskLifecycleStatus.fromCurrentStatus status).map
    AgentQueueTaskLifecycleStatus.requiresPrompt).getD true
  if requiresPrompt && prompt == "" then
    .error (.invalidInput "queue task prompt must not be empty unless status is draft")
  else .ok prompt

def normalizePriority (priority : ℤ) : Except WorkspaceServiceError ℤ :=
  if minAgentQueueTaskPriority ≤ priority ∧ priority ≤ maxAgentQueueTaskPriority then
    .ok priority
  else .error (.invalidInput "queue task priority must be between 0 and 5")

def normalizeOptionalExecutionPolicy (executionPolicy : Option String) :
    Except WorkspaceServiceError (Option String) :=
  match executionPolicy with
  | none => .ok none
  | some executionPolicy => do
      let executionPolicy ← requiredInput executionPolicy "queue task execution policy"
      match AgentQueueTaskExecutionPolicy.fromCurrentPolicy executionPolicy with
      | some _ => .ok (some executionPolicy)
      | none => .error (.invalidInput
          ("unsupported queue task execution policy: " ++ executionPolicy))

def normalizeExecutionPolicy (executionPolicy : Option String) :
    Except WorkspaceServiceError String :=
  (normalizeOptionalExecutionPolicy executionPolicy).map fun policy =>
    policy.getD AgentQueueTaskExecutionPolicy.defaultForNewTask.asStr

/-- An optional setting, trimmed, that must be one of the supported values. -/
def normalizeOptionalSetting (label : String) (supported : List String)
    (value : Option String) : Except WorkspaceServiceError (Option String) :=
  match Text.optionalTrimmed value with
  | none => .ok none
  | some value =>
      if value ∈ supported then .ok (some value)
      else .error (.invalidInput ("unsupported task " ++ label ++ ": " ++ value))

def normalizeOptionalSandbox : Option String → Except WorkspaceServiceError (Option String) :=
  normalizeOptionalSetting "sandbox" ["read_only", "workspace_write", "danger_full_access"]

def normalizeOptionalApprovalPolicy :
    Option String → Except WorkspaceServiceError (Option String) :=
  normalizeOptionalSetting "approval policy" ["never", "on_request", "untrusted"]

/-- The values of a new task, checked. -/
def normalizeCreateAgentQueueTaskInput (input : CreateAgentQueueTaskInput) :
    Except WorkspaceServiceError NormalizedCreateAgentQueueTaskInput := do
  let status ← normalizeStatus input.status
  let prompt ← normalizePrompt input.prompt status
  let workspaceId ← requiredInput input.workspaceId "workspace id"
  let title ← requiredInput input.title "queue task title"
  let priority ← normalizePriority input.priority
  let dependsOn ← normalizeOptionalDependencyIds input.dependsOn
  let executionPolicy ← normalizeExecutionPolicy input.executionPolicy
  let sandbox ← normalizeOptionalSandbox input.sandbox
  let approvalPolicy ← normalizeOptionalApprovalPolicy input.approvalPolicy
  pure {
    workspaceId := workspaceId
    title := title
    description := Text.trim input.description
    prompt := prompt
    status := status
    priority := priority
    dependsOn := dependsOn.getD []
    executionPolicy := executionPolicy
    executionWorkspace := Text.optionalTrimmed input.executionWorkspace
    codexExecutable := Text.optionalTrimmed input.codexExecutable
    sandbox := sandbox
    approvalPolicy := approvalPolicy }

/-- The new values of a task, checked. -/
def normalizeUpdateAgentQueueTaskInput (input : UpdateAgentQueueTaskInput) :
    Except WorkspaceServiceError NormalizedUpdateAgentQueueTaskInput := do
  let status ← normalizeStatus input.status
  let prompt ← normalizePrompt input.prompt status
  let workspaceId ← requiredInput input.workspaceId "workspace id"
  let queueItemId ← requiredInput input.queueItemId "queue item id"
  let title ← requiredInput input.title "queue task title"
  let priority ← normalizePriority input.priority
  let dependsOn ← normalizeOptionalDependencyIds input.dependsOn
  let executionPolicy ← normalizeOptionalExecutionPolicy input.executionPolicy
  let sandbox ← normalizeOptionalSandbox input.sandbox
  let approvalPolicy ← normalizeOptionalApprovalPolicy input.approvalPolicy
  pure {
    workspaceId := workspaceId
    queueItemId := queueItemId
    title := title
    description := Text.trim input.description
    prompt := prompt
    status := status
    priority := priority
    dependsOn := dependsOn
    executionPolicy := executionPolicy
    executionWorkspace := Text.optionalTrimmed input.executionWorkspace
    codexExecutable := Text.optionalTrimmed input.codexExecutable
    sandbox := sandbox
    approvalPolicy := approvalPolicy }

/-- **The dependencies of a checked input name no task twice.** -/
theorem nodup_dependsOn_of_normalizeCreate {input : CreateAgentQueueTaskInput}
    {n : NormalizedCreateAgentQueueTaskInput}
    (h : normalizeCreateAgentQueueTaskInput input = .ok n) : n.dependsOn.Nodup := by
  simp only [normalizeCreateAgentQueueTaskInput, except_bind_ok] at h
  obtain ⟨_, -, _, -, _, -, _, -, _, -, ids, hids, _, -, _, -, _, -, hn⟩ := h
  obtain rfl := Except.ok.inj hn
  exact nodup_of_normalizeOptionalDependencyIds hids

theorem nodup_dependsOn_of_normalizeUpdate {input : UpdateAgentQueueTaskInput}
    {n : NormalizedUpdateAgentQueueTaskInput} {ids : List String}
    (h : normalizeUpdateAgentQueueTaskInput input = .ok n) (hids : n.dependsOn = some ids) :
    ids.Nodup := by
  simp only [normalizeUpdateAgentQueueTaskInput, except_bind_ok] at h
  obtain ⟨_, -, _, -, _, -, _, -, _, -, _, -, ids', hids', _, -, _, -, _, -, hn⟩ := h
  obtain rfl := Except.ok.inj hn
  have hnodup := nodup_of_normalizeOptionalDependencyIds hids'
  simp only at hids
  rwa [hids] at hnodup

def normalizeAssignAgentQueueTaskInput (input : AssignAgentQueueTaskToExecutorInput) :
    Except WorkspaceServiceError AssignAgentQueueTaskToExecutorInput := do
  let workspaceId ← requiredInput input.workspaceId "workspace id"
  let queueItemId ← requiredInput input.queueItemId "queue item id"
  let executorWidgetInstanceId ←
    requiredInput input.executorWidgetInstanceId "executor widget instance id"
  pure ⟨workspaceId, queueItemId, executorWidgetInstanceId⟩

/-- The check of a task reference, which clearing and deleting share. -/
def normalizeAgentQueueTaskRef (input : AgentQueueTaskRef) :
    Except WorkspaceServiceError AgentQueueTaskRef := do
  let workspaceId ← requiredInput input.workspaceId "workspace id"
  let queueItemId ← requiredInput input.queueItemId "queue item id"
  pure ⟨workspaceId, queueItemId⟩

/-! ## Lookups -/

def loadOptionalAgentQueueTask (workspaceId queueItemId : String) :
    Sqlite (Option AgentQueueTaskRow) := do
  let workspace ← query fun s => s.getWorkspace workspaceId
  failIf workspace.isNone (storageInvalidInput ("workspace not found: " ++ workspaceId))
  let task ← query fun s => s.getAgentQueueTaskById queueItemId
  match task with
  | none => pure none
  | some task =>
      failIf (task.workspaceId != workspaceId)
        (storageInvalidInput ("queue task does not belong to workspace: " ++ queueItemId))
      pure (some task)

/-- The lookup that other commands share. -/
def loadAgentQueueTask (workspaceId queueItemId : String) : Sqlite AgentQueueTaskRow := do
  let task ← loadOptionalAgentQueueTask workspaceId queueItemId
  match task with
  | some task => pure task
  | none => throw (storageInvalidInput ("queue task not found: " ++ queueItemId))

def loadClearableAgentQueueTask (workspaceId queueItemId : String) :
    Sqlite AgentQueueTaskRow := do
  let task ← loadAgentQueueTask workspaceId queueItemId
  failIf (!statusAllows AgentQueueTaskLifecycleStatus.allowsAssignmentClear task.status)
    (storageInvalidInput "queue task assignment cannot be cleared while status is running")
  pure task

def loadAssignableAgentQueueTask (workspaceId queueItemId : String) :
    Sqlite AgentQueueTaskRow := do
  let task ← loadAgentQueueTask workspaceId queueItemId
  failIf (!statusAllows AgentQueueTaskLifecycleStatus.allowsAssignment task.status)
    (storageInvalidInput ("queue task status cannot be assigned: " ++ task.status))
  pure task

def loadAgentExecutorWidget (workspaceId executorWidgetInstanceId : String) :
    Sqlite WidgetInstanceRow := do
  let widget ← query fun s => s.getWidgetInstance executorWidgetInstanceId
  match widget with
  | none =>
      throw (storageInvalidInput ("executor widget not found: " ++ executorWidgetInstanceId))
  | some widget =>
      failIf (widget.workspaceId != workspaceId) (storageInvalidInput
        ("executor widget does not belong to workspace: " ++ executorWidgetInstanceId))
      failIf (widget.definitionId != agentRunWidgetDefinitionId) (storageInvalidInput
        ("assigned widget is not an Agent Executor: " ++ executorWidgetInstanceId))
      pure widget

/-- `ok_or(QueryReturnedNoRows)`: the row an `UPDATE` read back. -/
def rowOrNotFound {α : Type} : Option α → Sqlite α
  | some row => pure row
  | none => throw .queryReturnedNoRows

def validateAgentQueueTaskWorkspaceAccess (workspaceId queueItemId : String) :
    Service Unit := do
  let workspace ← query fun s => s.getWorkspace workspaceId
  failIf workspace.isNone (.invalidInput ("workspace not found: " ++ workspaceId))
  let task ← query fun s => s.getAgentQueueTaskById queueItemId
  match task with
  | none => pure ()
  | some task =>
      failIf (task.workspaceId != workspaceId)
        (.invalidInput ("queue task does not belong to workspace: " ++ queueItemId))

/-! ## Commands -/

/-- The row of a new task. -/
def newAgentQueueTaskRow (input : NormalizedCreateAgentQueueTaskInput)
    (queueItemId createdAt : String) : AgentQueueTaskRow :=
  { queueItemId := queueItemId
    workspaceId := input.workspaceId
    title := input.title
    description := input.description
    prompt := input.prompt
    status := input.status
    priority := input.priority
    dependsOn := dependenciesJson input.dependsOn
    executionPolicy := input.executionPolicy
    executionWorkspace := input.executionWorkspace
    codexExecutable := input.codexExecutable
    sandbox := input.sandbox
    approvalPolicy := input.approvalPolicy
    contextJson := none
    assignedExecutorWidgetId := none
    createdAt := createdAt
    updatedAt := createdAt }

def createAgentQueueTask (d : Draws) (input : CreateAgentQueueTaskInput) :
    Service AgentQueueTaskSummary := do
  let input ← check (normalizeCreateAgentQueueTaskInput input)
  let queueItemId := d.placeholderId "queue_task_" 0
  let createdAt := d.timestamp 1
  let task ← withImmediateTransaction mapStorageAgentQueueTaskError do
    let workspace ← query fun s => s.getWorkspace input.workspaceId
    failIf workspace.isNone (.invalidParameterName ("workspace not found: " ++ input.workspaceId))
    validateCreateDependencies input.workspaceId input.dependsOn
    let task ← execute fun s =>
      s.createAgentQueueTask (newAgentQueueTaskRow input queueItemId createdAt)
    execute fun s => s.touchWorkspace input.workspaceId (d.timestamp 2)
    pure task
  pure (agentQueueTaskSummary task)

/-- The columns an edit writes. -/
def agentQueueTaskUpdate (input : NormalizedUpdateAgentQueueTaskInput) (updatedAt : String) :
    AgentQueueTaskUpdate :=
  { title := input.title
    description := input.description
    prompt := input.prompt
    status := input.status
    priority := input.priority
    dependsOn := input.dependsOn.map dependenciesJson
    executionPolicy := input.executionPolicy
    executionWorkspace := input.executionWorkspace
    codexExecutable := input.codexExecutable
    sandbox := input.sandbox
    approvalPolicy := input.approvalPolicy
    contextJson := none
    updatedAt := updatedAt }

def updateAgentQueueTask (d : Draws) (input : UpdateAgentQueueTaskInput) :
    Service (Option AgentQueueTaskSummary) := do
  let input ← check (normalizeUpdateAgentQueueTaskInput input)
  validateAgentQueueTaskWorkspaceAccess input.workspaceId input.queueItemId
  let updatedAt := d.timestamp 0
  let task ← withImmediateTransaction .storage do
    validateDependencyUpdate input.workspaceId input.queueItemId input.dependsOn
    let task ← execute fun s =>
      s.updateAgentQueueTask input.workspaceId input.queueItemId
        (agentQueueTaskUpdate input updatedAt)
    if task.isSome then
      execute fun s => s.touchWorkspace input.workspaceId (d.timestamp 1)
    pure task
  pure (task.map agentQueueTaskSummary)

def assignAgentQueueTaskToExecutor (d : Draws) (input : AssignAgentQueueTaskToExecutorInput) :
    Service AgentQueueTaskSummary := do
  let input ← check (normalizeAssignAgentQueueTaskInput input)
  let updatedAt := d.timestamp 0
  let task ← withImmediateTransaction mapStorageAgentQueueTaskError do
    let task ← loadAssignableAgentQueueTask input.workspaceId input.queueItemId
    let executor ← loadAgentExecutorWidget input.workspaceId input.executorWidgetInstanceId
    let task ← execute fun s =>
      s.assignAgentQueueTaskToExecutor input.workspaceId task.queueItemId executor.id updatedAt
    let task ← rowOrNotFound task
    execute fun s => s.touchWorkspace input.workspaceId (d.timestamp 1)
    pure task
  pure (agentQueueTaskSummary task)

def clearAgentQueueTaskAssignment (d : Draws) (input : AgentQueueTaskRef) :
    Service AgentQueueTaskSummary := do
  let input ← check (normalizeAgentQueueTaskRef input)
  let updatedAt := d.timestamp 0
  let task ← withImmediateTransaction mapStorageAgentQueueTaskError do
    let task ← loadClearableAgentQueueTask input.workspaceId input.queueItemId
    let task ← execute fun s =>
      s.clearAgentQueueTaskAssignment input.workspaceId task.queueItemId updatedAt
    let task ← rowOrNotFound task
    execute fun s => s.touchWorkspace input.workspaceId (d.timestamp 1)
    pure task
  pure (agentQueueTaskSummary task)

/-- A task that is not running is deleted. -/
def deleteAgentQueueTask (d : Draws) (input : AgentQueueTaskRef) : Service Bool := do
  let input ← check (normalizeAgentQueueTaskRef input)
  let deleted ← withImmediateTransaction mapStorageAgentQueueTaskError do
    let task ← loadOptionalAgentQueueTask input.workspaceId input.queueItemId
    match task with
    | none => pure false
    | some task =>
        failIf (!statusAllows AgentQueueTaskLifecycleStatus.allowsDeletion task.status)
          (storageInvalidInput "queue task cannot be deleted while status is running")
        let deleted ← execute fun s =>
          s.deleteAgentQueueTask input.workspaceId input.queueItemId
        if deleted then
          execute fun s => s.touchWorkspace input.workspaceId (d.timestamp 0)
        pure deleted
  pure deleted

/-! ## What the commands do -/

open SqliteStore

theorem loadOptionalAgentQueueTask_ok {workspaceId queueItemId : String} {s t : SqliteStore}
    {o : Option AgentQueueTaskRow}
    (h : exec (loadOptionalAgentQueueTask workspaceId queueItemId) s = (.ok o, t)) :
    t = s ∧ s.getAgentQueueTaskById queueItemId = o ∧
      ∀ task, o = some task → task.workspaceId = workspaceId := by
  simp only [loadOptionalAgentQueueTask, exec_query_bind, exec_failIf_bind, guard_ok] at h
  cases hfind : s.getAgentQueueTaskById queueItemId with
  | none =>
    simp only [hfind, exec_pure, Prod.mk.injEq, Except.ok.injEq] at h
    obtain ⟨-, rfl, rfl⟩ := h
    simp
  | some task =>
    simp only [hfind, exec_failIf_bind, guard_ok, exec_pure, Prod.mk.injEq, Except.ok.injEq] at h
    obtain ⟨-, hws, rfl, rfl⟩ := h
    simpa using hws

/-- A loaded task is the stored task with the given id, in the given workspace. -/
theorem loadAgentQueueTask_ok {workspaceId queueItemId : String} {s t : SqliteStore}
    {task : AgentQueueTaskRow}
    (h : exec (loadAgentQueueTask workspaceId queueItemId) s = (.ok task, t)) :
    t = s ∧ task ∈ s.agentQueueTasks ∧ task.workspaceId = workspaceId ∧
      task.queueItemId = queueItemId := by
  simp only [loadAgentQueueTask, exec_bind_ok] at h
  obtain ⟨o, u, hload, h⟩ := h
  obtain ⟨rfl, hfind, hws⟩ := loadOptionalAgentQueueTask_ok hload
  cases o with
  | none => simp at h
  | some task' =>
    simp only [exec_pure, Prod.mk.injEq, Except.ok.injEq] at h
    obtain ⟨rfl, rfl⟩ := h
    have hid := Relational.Table.sat_of_find hfind
    exact ⟨rfl, Relational.Table.mem_of_find hfind, hws _ rfl, by simpa using hid⟩

/-- A check that passed on the way of a longer program leaves the store alone. -/
theorem loadAssignableAgentQueueTask_ok {workspaceId queueItemId : String} {s t : SqliteStore}
    {task : AgentQueueTaskRow}
    (h : exec (loadAssignableAgentQueueTask workspaceId queueItemId) s = (.ok task, t)) :
    t = s ∧ task ∈ s.agentQueueTasks ∧ task.workspaceId = workspaceId ∧
      task.queueItemId = queueItemId := by
  simp only [loadAssignableAgentQueueTask, exec_bind_ok, exec_failIf_bind, guard_ok,
    exec_pure, Prod.mk.injEq, Except.ok.injEq] at h
  obtain ⟨task', u, hload, -, rfl, rfl⟩ := h
  exact loadAgentQueueTask_ok hload

theorem loadClearableAgentQueueTask_ok {workspaceId queueItemId : String} {s t : SqliteStore}
    {task : AgentQueueTaskRow}
    (h : exec (loadClearableAgentQueueTask workspaceId queueItemId) s = (.ok task, t)) :
    t = s ∧ task ∈ s.agentQueueTasks ∧ task.workspaceId = workspaceId ∧
      task.queueItemId = queueItemId := by
  simp only [loadClearableAgentQueueTask, exec_bind_ok, exec_failIf_bind, guard_ok,
    exec_pure, Prod.mk.injEq, Except.ok.injEq] at h
  obtain ⟨task', u, hload, -, rfl, rfl⟩ := h
  exact loadAgentQueueTask_ok hload

theorem loadAgentExecutorWidget_ok {workspaceId widgetId : String} {s t : SqliteStore}
    {widget : WidgetInstanceRow}
    (h : exec (loadAgentExecutorWidget workspaceId widgetId) s = (.ok widget, t)) : t = s := by
  simp only [loadAgentExecutorWidget, exec_query_bind] at h
  cases hfind : s.getWidgetInstance widgetId with
  | none => simp [hfind] at h
  | some row =>
    simp only [hfind, exec_failIf_bind, guard_ok, exec_pure, Prod.mk.injEq] at h
    exact h.2.2.2.symm

theorem rowOrNotFound_ok {α : Type} {o : Option α} {s t : SqliteStore} {a : α}
    (h : exec (rowOrNotFound o) s = (.ok a, t)) : o = some a ∧ t = s := by
  cases o with
  | none => simp [rowOrNotFound] at h
  | some b =>
    simp only [rowOrNotFound, exec_pure, Prod.mk.injEq, Except.ok.injEq] at h
    exact ⟨congrArg some h.1, h.2.symm⟩

/-- What the edits of one task have in common: the row with the given id is
rewritten, and nothing else changes but the time of the workspace. -/
def RewritesTask (workspaceId queueItemId : String) (f : AgentQueueTaskRow → AgentQueueTaskRow)
    (s t : SqliteStore) : Prop :=
  ∃ (hf : ∀ r, Relational.Row.keys (f r) = Relational.Row.keys r)
    (workspaces' : Relational.Table WorkspaceRow),
    t = { s with
      agentQueueTasks := s.agentQueueTasks.update
        (fun r => r.workspaceId == workspaceId && r.queueItemId == queueItemId) f hf
      workspaces := workspaces' }

/-- A row after the rewriting of one task is that task rewritten, or the row it was. -/
theorem rewritten_or_same {workspaceId queueItemId : String}
    {f : AgentQueueTaskRow → AgentQueueTaskRow} {old task : AgentQueueTaskRow}
    (h : (if (old.workspaceId == workspaceId && old.queueItemId == queueItemId) = true
      then f old else old) = task) :
    (old.workspaceId = workspaceId ∧ old.queueItemId = queueItemId ∧ task = f old) ∨
      (¬ (old.workspaceId = workspaceId ∧ old.queueItemId = queueItemId) ∧ task = old) := by
  by_cases hsel : (old.workspaceId == workspaceId && old.queueItemId == queueItemId) = true
  · rw [if_pos hsel] at h
    simp only [Bool.and_eq_true, beq_iff_eq] at hsel
    exact Or.inl ⟨hsel.1, hsel.2, h.symm⟩
  · rw [if_neg hsel] at h
    exact Or.inr ⟨by simpa using hsel, h.symm⟩

theorem createAgentQueueTask_effect {d : Draws} {input : CreateAgentQueueTaskInput}
    {s t : SqliteStore} {r : Except WorkspaceServiceError AgentQueueTaskSummary}
    (h : exec (createAgentQueueTask d input) s = (r, t)) :
    t = s ∨ ∃ n tasks' workspaces', normalizeCreateAgentQueueTaskInput input = .ok n ∧
      (∀ id ∈ n.dependsOn, (s.getAgentQueueTask n.workspaceId id).isSome) ∧
      s.agentQueueTasks.insert (newAgentQueueTaskRow n (d.placeholderId "queue_task_" 0)
        (d.timestamp 1)) = some tasks' ∧
      t = { s with agentQueueTasks := tasks', workspaces := workspaces' } := by
  rcases exec_command h with ⟨-, rfl⟩ | ⟨n, row, hn, hrun, -⟩
  · exact Or.inl rfl
  simp only [exec_query_bind, exec_failIf_bind, guard_ok, exec_bind_ok, exec_execute_ok,
    SqliteStore.createAgentQueueTask, inserted_ok, touchWorkspace, exec_pure, Prod.mk.injEq,
    Except.ok.injEq] at hrun
  obtain ⟨-, ⟨⟩, u, hdeps, _, v, ⟨-, -, tasks', hins, rfl⟩, ⟨⟩, _, ⟨-, rfl⟩, -, rfl⟩ := hrun
  obtain ⟨rfl, hdeps⟩ := exec_validateCreateDependencies.1 hdeps
  exact Or.inr ⟨n, tasks', _, hn, hdeps, hins, rfl⟩

theorem readOnly_validateAgentQueueTaskWorkspaceAccess (workspaceId queueItemId : String) :
    (validateAgentQueueTaskWorkspaceAccess workspaceId queueItemId).ReadOnly := by
  refine (readOnly_query _).bind fun _ => (readOnly_failIf _ _).bind fun _ =>
    (readOnly_query _).bind fun task => ?_
  cases task with
  | none => exact readOnly_pure ()
  | some task => exact readOnly_failIf _ _

theorem validateDependencyUpdate_ok {workspaceId queueItemId : String}
    {ids : Option (List String)} {s t : SqliteStore} {u : Unit}
    (h : exec (validateDependencyUpdate workspaceId queueItemId ids) s = (.ok u, t)) : t = s := by
  cases ids with
  | none => exact (Prod.mk.inj h).2.symm
  | some ids => exact (exec_validateDependencyUpdate_some h).1

theorem updateAgentQueueTask_effect {d : Draws} {input : UpdateAgentQueueTaskInput}
    {s t : SqliteStore} {r : Except WorkspaceServiceError (Option AgentQueueTaskSummary)}
    (h : exec (updateAgentQueueTask d input) s = (r, t)) :
    t = s ∨ ∃ n, normalizeUpdateAgentQueueTaskInput input = .ok n ∧
      exec (validateDependencyUpdate n.workspaceId n.queueItemId n.dependsOn) s = (.ok (), s) ∧
      RewritesTask n.workspaceId n.queueItemId (agentQueueTaskUpdate n (d.timestamp 0)).apply
        s t := by
  rw [updateAgentQueueTask, exec_check_bind] at h
  cases hn : normalizeUpdateAgentQueueTaskInput input with
  | error e =>
    rw [hn] at h
    exact Or.inl (Prod.mk.inj h).2.symm
  | ok n =>
    simp only [hn] at h
    rcases (readOnly_validateAgentQueueTaskWorkspaceAccess _ _).exec_bind h with
      rfl | ⟨_, -, h⟩
    · exact Or.inl rfl
    rw [exec_bind_eq] at h
    obtain ⟨e, htx, -⟩ | ⟨task, v, htx, hret⟩ := h
    · rcases exec_withImmediateTransaction htx with ⟨_, he, -⟩ | ⟨-, rfl⟩
      · cases he
      · exact Or.inl rfl
    obtain ⟨-, rfl⟩ := Prod.mk.inj hret
    rcases exec_withImmediateTransaction htx with ⟨row, -, hrun⟩ | ⟨⟨_, he⟩, -⟩
    · rw [exec_bind_ok] at hrun
      obtain ⟨⟨⟩, w, hdeps, hrun⟩ := hrun
      obtain rfl := validateDependencyUpdate_ok hdeps
      simp only [exec_bind_ok, exec_execute_ok, SqliteStore.updateAgentQueueTask, updateTaskRow,
        Except.ok.injEq, Prod.mk.injEq] at hrun
      obtain ⟨row', w', ⟨-, rfl⟩, hrun⟩ := hrun
      refine Or.inr ⟨n, rfl, hdeps, fun _ => rfl, ?_⟩
      split at hrun
      · simp only [exec_bind_ok, exec_execute_ok, touchWorkspace, exec_pure, Except.ok.injEq,
          Prod.mk.injEq] at hrun
        obtain ⟨_, _, ⟨-, rfl⟩, -, rfl⟩ := hrun
        exact ⟨_, rfl⟩
      · simp only [exec_pure, Prod.mk.injEq] at hrun
        obtain ⟨-, rfl⟩ := hrun
        exact ⟨_, rfl⟩
    · cases he

theorem assignAgentQueueTaskToExecutor_effect {d : Draws}
    {input : AssignAgentQueueTaskToExecutorInput} {s t : SqliteStore}
    {r : Except WorkspaceServiceError AgentQueueTaskSummary}
    (h : exec (assignAgentQueueTaskToExecutor d input) s = (r, t)) :
    t = s ∨ ∃ workspaceId queueItemId widgetId,
      RewritesTask workspaceId queueItemId (fun r => { r with
        assignedExecutorWidgetId := some widgetId, updatedAt := d.timestamp 0 }) s t := by
  rcases exec_command h with ⟨-, rfl⟩ | ⟨n, row, hn, hrun, -⟩
  · exact Or.inl rfl
  rw [exec_bind_ok] at hrun
  obtain ⟨task, u, hload, hrun⟩ := hrun
  obtain ⟨rfl, -⟩ := loadAssignableAgentQueueTask_ok hload
  rw [exec_bind_ok] at hrun
  obtain ⟨executor, v, hwidget, hrun⟩ := hrun
  obtain rfl := loadAgentExecutorWidget_ok hwidget
  simp only [exec_bind_ok, exec_execute_ok, SqliteStore.assignAgentQueueTaskToExecutor,
    updateTaskRow, touchWorkspace, exec_pure, Except.ok.injEq, Prod.mk.injEq] at hrun
  obtain ⟨row', w, hassign, row'', w', hrow, _, _, ⟨-, rfl⟩, -, rfl⟩ := hrun
  obtain ⟨-, rfl⟩ := rowOrNotFound_ok hrow
  split at hassign
  · obtain ⟨-, rfl⟩ := Prod.mk.inj (Except.ok.inj hassign)
    exact Or.inr ⟨_, _, executor.id, fun _ => rfl, _, rfl⟩
  · cases hassign

theorem clearAgentQueueTaskAssignment_effect {d : Draws} {input : AgentQueueTaskRef}
    {s t : SqliteStore} {r : Except WorkspaceServiceError AgentQueueTaskSummary}
    (h : exec (clearAgentQueueTaskAssignment d input) s = (r, t)) :
    t = s ∨ ∃ workspaceId queueItemId,
      RewritesTask workspaceId queueItemId (fun r => { r with
        assignedExecutorWidgetId := none, updatedAt := d.timestamp 0 }) s t := by
  rcases exec_command h with ⟨-, rfl⟩ | ⟨n, row, hn, hrun, -⟩
  · exact Or.inl rfl
  rw [exec_bind_ok] at hrun
  obtain ⟨task, u, hload, hrun⟩ := hrun
  obtain ⟨rfl, -⟩ := loadClearableAgentQueueTask_ok hload
  simp only [exec_bind_ok, exec_execute_ok, SqliteStore.clearAgentQueueTaskAssignment,
    updateTaskRow, touchWorkspace, exec_pure, Except.ok.injEq, Prod.mk.injEq] at hrun
  obtain ⟨row', w, ⟨-, rfl⟩, row'', w', hrow, _, _, ⟨-, rfl⟩, -, rfl⟩ := hrun
  obtain ⟨-, rfl⟩ := rowOrNotFound_ok hrow
  exact Or.inr ⟨_, _, fun _ => rfl, _, rfl⟩

theorem deleteAgentQueueTask_effect {d : Draws} {input : AgentQueueTaskRef}
    {s t : SqliteStore} {r : Except WorkspaceServiceError Bool}
    (h : exec (deleteAgentQueueTask d input) s = (r, t)) :
    t = s ∨ ∃ n workspaces', normalizeAgentQueueTaskRef input = .ok n ∧
      t = { s.withoutTask n.queueItemId with workspaces := workspaces' } := by
  rcases exec_plain_command h with ⟨-, rfl⟩ | ⟨n, row, hn, hrun, -⟩
  · exact Or.inl rfl
  rw [exec_bind_ok] at hrun
  obtain ⟨task, u, hload, hrun⟩ := hrun
  obtain ⟨rfl, hfind, hws⟩ := loadOptionalAgentQueueTask_ok hload
  cases task with
  | none =>
    simp only [exec_pure, Prod.mk.injEq] at hrun
    exact Or.inl hrun.2.symm
  | some task =>
    simp only [exec_failIf_bind, guard_ok, exec_bind_ok, exec_execute_ok] at hrun
    obtain ⟨-, deleted, v, hdelete, hrun⟩ := hrun
    unfold SqliteStore.deleteAgentQueueTask at hdelete
    split at hdelete
    · obtain ⟨rfl, rfl⟩ := Prod.mk.inj (Except.ok.inj hdelete)
      exact Or.inl (Prod.mk.inj hrun).2.symm
    · obtain ⟨rfl, rfl⟩ := Prod.mk.inj (Except.ok.inj hdelete)
      simp only [↓reduceIte, exec_bind_ok, exec_execute_ok, touchWorkspace, exec_pure,
        Except.ok.injEq, Prod.mk.injEq] at hrun
      obtain ⟨_, _, ⟨-, rfl⟩, -, rfl⟩ := hrun
      exact Or.inr ⟨n, _, hn, rfl⟩

end HobitQueue
