import HobitQueue.Service.StartEffect

/-!
# Starting and retrying a selected task on the local backend

An unassigned task can be started, and a failed one retried, on the backend's own
executor. The gate answers with a summary: launched, already running, or blocked.
-/

namespace HobitQueue

open Concurrent StoreProg Relational

structure StartSelectedAgentQueueTaskLocalInput where
  workspaceId : String
  queueItemId : String

inductive SelectedQueueLocalStartMode where
  | start | retryFailed
  deriving DecidableEq, Repr

structure SelectedAgentQueueTaskLocalStartSummary where
  workspaceId : String
  queueItemId : String
  workbenchId : String
  executorWidgetInstanceId : String
  runId : Option String
  runLinkId : Option String
  status : String
  directWorkInput : Option RunCodexDirectWorkInput
  currentRunState : Option String
  blocker : Option QueueWorkerStartBlocker
  createdRunLink : Bool
  createdWidgetRun : Bool
  usedWorkflowSlot : Bool
  usedWidgetIdentity : Bool
  deriving DecidableEq

structure SelectedQueueLocalRunSettings where
  executionWorkspace : String
  sandbox : String
  approvalPolicy : String

def normalizeStartSelectedAgentQueueTaskLocalInput
    (input : StartSelectedAgentQueueTaskLocalInput) :
    Except WorkspaceServiceError StartSelectedAgentQueueTaskLocalInput := do
  let workspaceId ← requiredInput input.workspaceId "workspace id"
  let queueItemId ← requiredInput input.queueItemId "queue item id"
  pure ⟨workspaceId, queueItemId⟩

/-! ## Blockers -/

def selectedQueueLocalBlocker (blockerCode blockerMessage taskId : String)
    (currentRunState missingRequiredField : Option String) : QueueWorkerStartBlocker :=
  workflowStartBlocker blockerCode blockerMessage (some taskId) none none currentRunState none
    none missingRequiredField

def selectedQueueLocalBlockedSummary (input : StartSelectedAgentQueueTaskLocalInput)
    (blocker : QueueWorkerStartBlocker) : SelectedAgentQueueTaskLocalStartSummary :=
  { workspaceId := input.workspaceId
    queueItemId := input.queueItemId
    workbenchId := queueLocalBackendWorkbenchId
    executorWidgetInstanceId := queueLocalBackendExecutionTargetId
    runId := blocker.runId
    runLinkId := none
    status := "blocked"
    directWorkInput := none
    currentRunState := blocker.currentRunState
    blocker := some blocker
    createdRunLink := false
    createdWidgetRun := false
    usedWorkflowSlot := false
    usedWidgetIdentity := false }

def selectedQueueLocalAlreadyRunningSummary (task : AgentQueueTaskRow)
    (activeLink : AgentQueueTaskRunLinkRow) : SelectedAgentQueueTaskLocalStartSummary :=
  { workspaceId := task.workspaceId
    queueItemId := task.queueItemId
    workbenchId := queueLocalBackendWorkbenchId
    executorWidgetInstanceId := queueLocalBackendExecutionTargetId
    runId := some activeLink.directWorkRunId
    runLinkId := some activeLink.linkId
    status := "already_running"
    directWorkInput := none
    currentRunState := some activeLink.status
    blocker := some (selectedQueueLocalBlocker "active_run_conflict"
      "queue task already has an active queue_local run" task.queueItemId
      (some activeLink.status) none)
    createdRunLink := false
    createdWidgetRun := false
    usedWorkflowSlot := false
    usedWidgetIdentity := false }

/-! ## The states of the task -/

/-- The execution target a context names must be the local backend. -/
def validateExecutionTarget (task : AgentQueueTaskRow) (target : Json) :
    Option QueueWorkerStartBlocker :=
  if target.isNull then none
  else if !isObject target then
    some (selectedQueueLocalBlocker "unsupported_execution_target"
      "Queue task executionTarget context must be an object" task.queueItemId
      (some task.status) (some "context_json.executionTarget"))
  else if (rawStringField target "kind").getD "" = "queue_local" ∧
      (rawStringField target "providerId").getD "" = "codex" then none
  else some (selectedQueueLocalBlocker "unsupported_execution_target"
    "selected Queue task must target queue_local/codex execution" task.queueItemId
    (some task.status) (some "context_json.executionTarget"))

def validateSelectedQueueLocalContext (task : AgentQueueTaskRow) :
    Option QueueWorkerStartBlocker :=
  match task.contextJson with
  | none => none
  | some raw =>
      match raw.parse.filter isObject with
      | none => some (selectedQueueLocalBlocker "invalid_task_context"
          "Queue task context_json is not valid JSON for selected queue_local start"
          task.queueItemId (some task.status) (some "context_json"))
      | some context => (context.field "executionTarget").bind (validateExecutionTarget task)

/-- What the prompt, the policy and the context say, in the words of the command. -/
def validateSelectedQueueLocalPrompt (task : AgentQueueTaskRow) (verb noun : String) :
    Option QueueWorkerStartBlocker :=
  if Text.trim task.prompt = "" then
    some (selectedQueueLocalBlocker "task_not_ready"
      ("queue task prompt must not be empty before " ++ verb) task.queueItemId
      (some task.status) (some "prompt"))
  else if task.executionPolicy ≠ AgentQueueTaskExecutionPolicy.manual.asStr then
    some (selectedQueueLocalBlocker "unsupported_execution_policy"
      ("selected queue_local " ++ noun ++ " supports only manual Queue task execution policy")
      task.queueItemId (some task.executionPolicy) (some "execution_policy"))
  else validateSelectedQueueLocalContext task

def selectedStartStatuses : List String := ["draft", "queued", "ready", "review_needed"]

def validateSelectedQueueLocalTaskState (task : AgentQueueTaskRow) :
    Option QueueWorkerStartBlocker :=
  if task.assignedExecutorWidgetId.isSome then
    some (selectedQueueLocalBlocker "unsupported_execution_target"
      "selected queue_local start requires an unassigned Queue-owned task" task.queueItemId
      (some task.status) (some "assigned_executor_widget_id"))
  else if task.status ∉ selectedStartStatuses then
    some (selectedQueueLocalBlocker "task_not_ready"
      ("queue task status cannot be run: " ++ task.status) task.queueItemId
      (some task.status) (some "task_status"))
  else validateSelectedQueueLocalPrompt task "running" "start"

/-- A retry needs a failed task whose last run failed. -/
def SqliteStore.validateSelectedQueueLocalRetryState (s : SqliteStore) (workspaceId : String)
    (task : AgentQueueTaskRow) : Option QueueWorkerStartBlocker :=
  if task.assignedExecutorWidgetId.isSome then
    some (selectedQueueLocalBlocker "unsupported_execution_target"
      "selected queue_local retry requires an unassigned Queue-owned task" task.queueItemId
      (some task.status) (some "assigned_executor_widget_id"))
  else if task.status ≠ "failed" then
    some (selectedQueueLocalBlocker "not_retryable_task_status"
      ("queue task status cannot be retried: " ++ task.status) task.queueItemId
      (some task.status) (some "task_status"))
  else
    match s.getLatestAgentQueueTaskRunLink workspaceId task.queueItemId with
    | none => some (selectedQueueLocalBlocker "missing_failed_run_link"
        "failed selected Queue task has no failed run link to retry" task.queueItemId
        (some task.status) (some "run_link_id"))
    | some link =>
        if link.status ≠ AgentQueueTaskRunStatus.failed.asStr then
          some (selectedQueueLocalBlocker "not_retryable_run_link_status"
            ("latest queue_local run link cannot be retried: " ++ link.status)
            task.queueItemId (some link.status) (some "run_link_status"))
        else validateSelectedQueueLocalPrompt task "retrying" "retry"

def SqliteStore.selectedQueueLocalStateBlocker (s : SqliteStore)
    (mode : SelectedQueueLocalStartMode) (workspaceId : String) (task : AgentQueueTaskRow) :
    Option QueueWorkerStartBlocker :=
  match mode with
  | .start => validateSelectedQueueLocalTaskState task
  | .retryFailed => s.validateSelectedQueueLocalRetryState workspaceId task

/-- The trimmed value of a durable setting, or the blocker that it is missing. -/
def durableSetting (task : AgentQueueTaskRow) (value : Option String)
    (code message fieldName : String) : Except QueueWorkerStartBlocker String :=
  match value with
  | some value => .ok value
  | none => .error (selectedQueueLocalBlocker code message task.queueItemId (some task.status)
      (some fieldName))

/-- The durable settings of the run. -/
def selectedQueueLocalRunSettings (workspaceRootPath : Option String)
    (task : AgentQueueTaskRow) :
    Except QueueWorkerStartBlocker SelectedQueueLocalRunSettings := do
  let executionWorkspace ← durableSetting task
    ((Text.optionalTrimmed task.executionWorkspace).or (Text.optionalTrimmed workspaceRootPath))
    "missing_workspace" ("selected queue_local start requires a durable task execution " ++
      "workspace or Workspace root path") "execution_workspace"
  let sandbox ← durableSetting task (Text.optionalTrimmed task.sandbox) "missing_sandbox"
    "selected queue_local start requires durable task sandbox settings" "sandbox"
  if sandbox ∉ ["read_only", "workspace_write"] then
    .error (selectedQueueLocalBlocker "unsupported_sandbox"
      "selected queue_local start supports only read_only or workspace_write sandbox"
      task.queueItemId (some sandbox) (some "sandbox"))
  else
    let approvalPolicy ← durableSetting task (Text.optionalTrimmed task.approvalPolicy)
      "missing_approval_policy"
      "selected queue_local start requires durable task approval policy settings"
      "approval_policy"
    if approvalPolicy ≠ "never" then
      .error (selectedQueueLocalBlocker "unsupported_approval_policy"
        "selected queue_local start supports only approval policy never for MVP"
        task.queueItemId (some approvalPolicy) (some "approval_policy"))
    else .ok ⟨executionWorkspace, sandbox, approvalPolicy⟩

/-! ## The command -/

/-- What the store says against the start of a task that is not busy; the control
state is enabled. -/
def SqliteStore.selectedQueueLocalGate (s : SqliteStore) (mode : SelectedQueueLocalStartMode)
    (workspace : WorkspaceRow) (task : AgentQueueTaskRow) :
    Except QueueWorkerStartBlocker SelectedQueueLocalRunSettings :=
  match s.selectedQueueLocalStateBlocker mode workspace.id task with
  | some blocker => .error blocker
  | none => do
      s.validateQueueTaskDependenciesReady workspace.id task
      selectedQueueLocalRunSettings workspace.rootPath task

/-- The Direct Work input of a selected task. -/
def selectedDirectWorkInput (input : StartSelectedAgentQueueTaskLocalInput)
    (settings : SelectedQueueLocalRunSettings) (operatorPrompt : String) :
    RunCodexDirectWorkInput :=
  { workspaceId := input.workspaceId
    workbenchId := queueLocalBackendWorkbenchId
    widgetInstanceId := queueLocalBackendExecutionTargetId
    codexExecutable := "codex"
    repoRoot := settings.executionWorkspace
    operatorPrompt := operatorPrompt
    codexThreadId := none
    sandbox := settings.sandbox
    approvalPolicy := settings.approvalPolicy
    skipGitRepoCheck := true
    timeoutMs := none
    stdoutCapBytes := none
    stderrCapBytes := none }

/-- The last part of a start: link the backend's run and mark the task as running. -/
def launchSelected (d : Draws) (input : StartSelectedAgentQueueTaskLocalInput)
    (task : AgentQueueTaskRow) (settings : SelectedQueueLocalRunSettings) :
    Sqlite SelectedAgentQueueTaskLocalStartSummary := do
  let operatorPrompt ← storageCheck (operatorPromptForQueueTask task)
  let directWorkInput := selectedDirectWorkInput input settings operatorPrompt
  let _ ← storageCheck (normalizeDirectWorkInput directWorkInput)
  let runId := d.placeholderId "queue-run_" 2
  let link ← recordAgentQueueTaskRunStartedInStore d 3 input.workspaceId input.queueItemId
    queueLocalBackendExecutionTargetId runId .manual
  let updated ← execute fun s => s.updateAgentQueueTaskStatus input.workspaceId
    input.queueItemId AgentQueueTaskLifecycleStatus.running.asStr (d.timestamp 0)
  let task ← rowOrNotFound updated
  execute fun s => s.touchWorkspace input.workspaceId (d.timestamp 5)
  pure {
    workspaceId := task.workspaceId
    queueItemId := task.queueItemId
    workbenchId := queueLocalBackendWorkbenchId
    executorWidgetInstanceId := queueLocalBackendExecutionTargetId
    runId := some runId
    runLinkId := some link.linkId
    status := "launched"
    directWorkInput := some directWorkInput
    currentRunState := some AgentQueueTaskRunStatus.running.asStr
    blocker := none
    createdRunLink := true
    createdWidgetRun := false
    usedWorkflowSlot := false
    usedWidgetIdentity := false }

/-- The start of a task that is there and not busy. -/
def startSelectedTask (d : Draws) (mode : SelectedQueueLocalStartMode)
    (input : StartSelectedAgentQueueTaskLocalInput) (workspace : WorkspaceRow)
    (task : AgentQueueTaskRow) : Sqlite SelectedAgentQueueTaskLocalStartSummary := do
  let control ← ensureDefaultControlState input.workspaceId (d.timestamp 1)
  if control.status ≠ agentQueueControlStatusManualEnabled then
    pure (selectedQueueLocalBlockedSummary input (selectedQueueLocalBlocker
      "blocked_control_disabled" ("Queue control state is disabled; enable manual Queue " ++
        "control before starting selected tasks.")
      input.queueItemId (some control.status) (some "queue_control")))
  else do
    let gate ← query fun s => s.selectedQueueLocalGate mode workspace task
    match gate with
    | .error blocker => pure (selectedQueueLocalBlockedSummary input blocker)
    | .ok settings => launchSelected d input task settings

/-- The transaction of a start or a retry. -/
def startSelectedTransaction (d : Draws) (mode : SelectedQueueLocalStartMode)
    (input : StartSelectedAgentQueueTaskLocalInput) :
    Sqlite SelectedAgentQueueTaskLocalStartSummary := do
  let workspace ← query fun s => s.getWorkspace input.workspaceId
  let task ← query fun s => s.getAgentQueueTaskById input.queueItemId
  match workspace, task with
  | none, _ => pure (selectedQueueLocalBlockedSummary input (selectedQueueLocalBlocker
      "workspace_not_found" ("workspace not found: " ++ input.workspaceId) input.queueItemId
      none (some "workspace_id")))
  | some _, none => pure (selectedQueueLocalBlockedSummary input (selectedQueueLocalBlocker
      "task_not_found" ("queue task not found: " ++ input.queueItemId) input.queueItemId none
      (some "queue_item_id")))
  | some workspace, some task =>
      if task.workspaceId ≠ input.workspaceId then
        pure (selectedQueueLocalBlockedSummary input (selectedQueueLocalBlocker
          "workspace_mismatch" "queue task does not belong to the requested workspace"
          input.queueItemId (some task.status) (some "workspace_id")))
      else do
        let active ← query fun s =>
          s.latestActiveTaskRunLink input.workspaceId input.queueItemId
        match active with
        | some activeLink => pure (selectedQueueLocalAlreadyRunningSummary task activeLink)
        | none => startSelectedTask d mode input workspace task

/-- The command that starts or retries a selected task. -/
def startSelectedAgentQueueTaskLocalWithMode (d : Draws) (mode : SelectedQueueLocalStartMode)
    (input : StartSelectedAgentQueueTaskLocalInput) :
    Service SelectedAgentQueueTaskLocalStartSummary := do
  let input ← check (normalizeStartSelectedAgentQueueTaskLocalInput input)
  withImmediateTransaction mapStorageAgentQueueTaskError (startSelectedTransaction d mode input)

def startSelectedAgentQueueTaskLocal (d : Draws)
    (input : StartSelectedAgentQueueTaskLocalInput) :
    Service SelectedAgentQueueTaskLocalStartSummary :=
  startSelectedAgentQueueTaskLocalWithMode d .start input

def retrySelectedAgentQueueTaskLocal (d : Draws)
    (input : StartSelectedAgentQueueTaskLocalInput) :
    Service SelectedAgentQueueTaskLocalStartSummary :=
  startSelectedAgentQueueTaskLocalWithMode d .retryFailed input

/-! ## What the command does -/

theorem launchSelected_ok {d : Draws} {input : StartSelectedAgentQueueTaskLocalInput}
    {task : AgentQueueTaskRow} {settings : SelectedQueueLocalRunSettings} {s t : SqliteStore}
    {summary : SelectedAgentQueueTaskLocalStartSummary}
    (h : exec (launchSelected d input task settings) s = (.ok summary, t)) :
    Launched (startedRunLink d 3 input.workspaceId input.queueItemId
      queueLocalBackendExecutionTargetId (d.placeholderId "queue-run_" 2) .manual)
      (d.timestamp 0) s t := by
  simp only [launchSelected, exec_bind_ok] at h
  obtain ⟨prompt, u₁, hprompt, _, u₂, hwork, link, u₃, hlink, h⟩ := h
  obtain ⟨-, rfl⟩ := exec_storageCheck_ok.1 hprompt
  obtain ⟨-, rfl⟩ := exec_storageCheck_ok.1 hwork
  obtain ⟨links', hins, rfl⟩ := recordAgentQueueTaskRunStartedInStore_ok hlink
  simp only [exec_execute_ok, SqliteStore.updateAgentQueueTaskStatus,
    SqliteStore.updateTaskRow, SqliteStore.touchWorkspace, exec_pure, Except.ok.injEq,
    Prod.mk.injEq] at h
  obtain ⟨updated, u₄, ⟨-, rfl⟩, task', u₅, hrow, _, _, ⟨-, rfl⟩, -, rfl⟩ := h
  obtain ⟨-, rfl⟩ := rowOrNotFound_ok hrow
  exact ⟨links', _, _, _, _, hins, Or.inl rfl, KeepsActions.refl _, rfl⟩

/-- The outcome of a start or retry on the local backend: at most a control state, or
a launched worker of a task that is not busy and is in a state the gate allows. -/
def StartsSelected (d : Draws) (mode : SelectedQueueLocalStartMode)
    (input : StartSelectedAgentQueueTaskLocalInput) (s t : SqliteStore) : Prop :=
  ControlOnly s t ∨
    Launched (startedRunLink d 3 input.workspaceId input.queueItemId
      queueLocalBackendExecutionTargetId (d.placeholderId "queue-run_" 2) .manual)
      (d.timestamp 0) s t ∧
    s.latestActiveTaskRunLink input.workspaceId input.queueItemId = none ∧
    ∃ task ∈ s.agentQueueTasks, task.workspaceId = input.workspaceId ∧
      task.queueItemId = input.queueItemId ∧
      s.selectedQueueLocalStateBlocker mode input.workspaceId task = none

theorem selectedQueueLocalGate_ok {s : SqliteStore} {mode : SelectedQueueLocalStartMode}
    {workspace : WorkspaceRow} {task : AgentQueueTaskRow}
    {settings : SelectedQueueLocalRunSettings}
    (h : s.selectedQueueLocalGate mode workspace task = .ok settings) :
    s.selectedQueueLocalStateBlocker mode workspace.id task = none := by
  unfold SqliteStore.selectedQueueLocalGate at h
  split at h
  · cases h
  · assumption

theorem startSelectedTask_ok {d : Draws} {mode : SelectedQueueLocalStartMode}
    {input : StartSelectedAgentQueueTaskLocalInput} {workspace : WorkspaceRow}
    {task : AgentQueueTaskRow} {s t : SqliteStore}
    {summary : SelectedAgentQueueTaskLocalStartSummary}
    (hmem : task ∈ s.agentQueueTasks) (hws : task.workspaceId = input.workspaceId)
    (hid : task.queueItemId = input.queueItemId) (hworkspace : workspace.id = input.workspaceId)
    (hidle : s.latestActiveTaskRunLink input.workspaceId input.queueItemId = none)
    (h : exec (startSelectedTask d mode input workspace task) s = (.ok summary, t)) :
    StartsSelected d mode input s t := by
  rw [startSelectedTask, exec_bind_ok] at h
  obtain ⟨control, u, hcontrol, h⟩ := h
  have hcontrolOnly := ensureDefaultControlState_ok hcontrol
  split at h
  · rw [exec_pure] at h
    obtain ⟨-, rfl⟩ := Prod.mk.inj h
    exact Or.inl hcontrolOnly
  rw [exec_query_bind] at h
  split at h
  · rw [exec_pure] at h
    obtain ⟨-, rfl⟩ := Prod.mk.inj h
    exact Or.inl hcontrolOnly
  · rename_i settings hgate
    have hlaunched := launchSelected_ok h
    have hstate := selectedQueueLocalGate_ok hgate
    obtain ⟨controls, rfl⟩ := hcontrolOnly
    obtain ⟨links', runs', controls', actions', workspaces', hins, hrun, hkeep, rfl⟩ := hlaunched
    rw [hworkspace] at hstate
    exact Or.inr ⟨⟨links', runs', controls', actions', workspaces', hins, hrun, hkeep, rfl⟩,
      hidle, task, hmem, hws, hid, hstate⟩

theorem startSelectedTransaction_ok {d : Draws} {mode : SelectedQueueLocalStartMode}
    {input : StartSelectedAgentQueueTaskLocalInput} {s t : SqliteStore}
    {summary : SelectedAgentQueueTaskLocalStartSummary}
    (h : exec (startSelectedTransaction d mode input) s = (.ok summary, t)) :
    StartsSelected d mode input s t := by
  rw [startSelectedTransaction, exec_query_bind, exec_query_bind] at h
  have hpure : ∀ {r : SelectedAgentQueueTaskLocalStartSummary},
      exec (pure r : Sqlite SelectedAgentQueueTaskLocalStartSummary) s = (.ok summary, t) →
      StartsSelected d mode input s t := by
    intro r hr
    rw [exec_pure] at hr
    obtain ⟨-, rfl⟩ := Prod.mk.inj hr
    exact Or.inl (ControlOnly.refl s)
  split at h
  · exact hpure h
  · exact hpure h
  rename_i workspace task hworkspace htask
  split at h
  · exact hpure h
  rename_i hws
  rw [exec_query_bind] at h
  split at h
  · exact hpure h
  rename_i hidle
  have hworkspaceId := Table.sat_of_find hworkspace
  have htaskId := Table.sat_of_find htask
  simp only [beq_iff_eq] at hworkspaceId htaskId
  exact startSelectedTask_ok (Table.mem_of_find htask) (not_not.1 hws) htaskId hworkspaceId
    hidle h

theorem startSelectedAgentQueueTaskLocalWithMode_effect {d : Draws}
    {mode : SelectedQueueLocalStartMode} {input : StartSelectedAgentQueueTaskLocalInput}
    {s t : SqliteStore} {r : Except WorkspaceServiceError SelectedAgentQueueTaskLocalStartSummary}
    (h : exec (startSelectedAgentQueueTaskLocalWithMode d mode input) s = (r, t)) :
    t = s ∨ ∃ n, normalizeStartSelectedAgentQueueTaskLocalInput input = .ok n ∧
      StartsSelected d mode n s t := by
  rcases exec_plain_command h with ⟨-, rfl⟩ | ⟨n, summary, hn, hrun, -⟩
  · exact Or.inl rfl
  · exact Or.inr ⟨n, hn, startSelectedTransaction_ok hrun⟩

end HobitQueue
