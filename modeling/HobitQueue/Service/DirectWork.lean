import HobitQueue.Service.Tasks

/-!
# Direct Work runs

A worker is a Direct Work run of a widget. Starting one checks the settings,
checks that the widget belongs to the workbench and may initiate Direct Work, and
inserts the widget run.
-/

namespace HobitQueue

open Concurrent StoreProg

def codexDirectWorkCommandKind : String := "codex_direct_work"
def defaultCodexDirectRunTimeoutMs : ℕ := 10 * 60 * 1000
def defaultCodexDirectRunStdoutCapBytes : ℕ := 256 * 1024
def defaultCodexDirectRunStderrCapBytes : ℕ := 128 * 1024

inductive CodexSandboxMode where
  | readOnly | workspaceWrite | dangerFullAccess
  deriving DecidableEq, Repr

inductive CodexApprovalPolicy where
  | never | onRequest | untrusted
  deriving DecidableEq, Repr

structure RunCodexDirectWorkInput where
  workspaceId : String
  workbenchId : String
  widgetInstanceId : String
  codexExecutable : String
  repoRoot : String
  operatorPrompt : String
  codexThreadId : Option String
  sandbox : String
  approvalPolicy : String
  skipGitRepoCheck : Bool
  timeoutMs : Option ℕ
  stdoutCapBytes : Option ℕ
  stderrCapBytes : Option ℕ
  deriving DecidableEq

structure NormalizedDirectWorkInput where
  workspaceId : String
  workbenchId : String
  widgetInstanceId : String
  codexExecutable : String
  repoRoot : String
  operatorPrompt : String
  codexThreadId : Option String
  sandbox : CodexSandboxMode
  approvalPolicy : CodexApprovalPolicy
  skipGitRepoCheck : Bool
  timeoutMs : ℕ
  stdoutCapBytes : ℕ
  stderrCapBytes : ℕ
  deriving DecidableEq

def parseDirectWorkSandbox (value : String) :
    Except WorkspaceServiceError CodexSandboxMode := do
  let value ← requiredInput value "direct work sandbox"
  match value with
  | "read_only" => .ok .readOnly
  | "workspace_write" => .ok .workspaceWrite
  | "danger_full_access" => .ok .dangerFullAccess
  | value => .error (.invalidInput ("unsupported direct work sandbox: " ++ value))

def parseDirectWorkApprovalPolicy (value : String) :
    Except WorkspaceServiceError CodexApprovalPolicy := do
  let value ← requiredInput value "direct work approval policy"
  match value with
  | "never" => .ok .never
  | "on_request" => .ok .onRequest
  | "untrusted" => .ok .untrusted
  | value => .error (.invalidInput ("unsupported direct work approval policy: " ++ value))

/-- The checked settings of a run. -/
def normalizeDirectWorkInput (input : RunCodexDirectWorkInput) :
    Except WorkspaceServiceError NormalizedDirectWorkInput :=
  if input.repoRoot = "" then .error (.invalidInput "repo root must not be empty")
  else do
    let workspaceId ← requiredInput input.workspaceId "workspace id"
    let workbenchId ← requiredInput input.workbenchId "workbench id"
    let widgetInstanceId ← requiredInput input.widgetInstanceId "widget instance id"
    let codexExecutable ← requiredInput input.codexExecutable "codex executable"
    let operatorPrompt ← requiredInput input.operatorPrompt "operator prompt"
    let sandbox ← parseDirectWorkSandbox input.sandbox
    let approvalPolicy ← parseDirectWorkApprovalPolicy input.approvalPolicy
    pure {
      workspaceId := workspaceId
      workbenchId := workbenchId
      widgetInstanceId := widgetInstanceId
      codexExecutable := codexExecutable
      repoRoot := input.repoRoot
      operatorPrompt := operatorPrompt
      codexThreadId := Text.optionalTrimmed input.codexThreadId
      sandbox := sandbox
      approvalPolicy := approvalPolicy
      skipGitRepoCheck := input.skipGitRepoCheck
      timeoutMs := input.timeoutMs.getD defaultCodexDirectRunTimeoutMs
      stdoutCapBytes := input.stdoutCapBytes.getD defaultCodexDirectRunStdoutCapBytes
      stderrCapBytes := input.stderrCapBytes.getD defaultCodexDirectRunStderrCapBytes }

def canInitiateDirectWork (definitionId : String) : Bool :=
  definitionId == agentRunWidgetDefinitionId || definitionId == agentQueueWidgetDefinitionId ||
    definitionId == coordinatorChatWidgetDefinitionId

/-! ## Ownership -/

/-- The widget, when it lies in the workbench and the workbench in the workspace. -/
def SqliteStore.validateWidgetOwnership (s : SqliteStore)
    (workspaceId workbenchId widgetInstanceId : String) : Option WidgetInstanceRow := do
  let workspace ← s.getWorkspace workspaceId
  let workbench ← s.workspaceWorkbenches.find fun r =>
    r.workspaceId == workspace.id && r.id == workbenchId
  let widget ← s.getWidgetInstance widgetInstanceId
  if widget.workspaceId = workspace.id ∧ widget.workbenchId = workbench.id then some widget
  else none

/-- The widget and its run. -/
def SqliteStore.validateWidgetRunOwnership (s : SqliteStore)
    (workspaceId workbenchId widgetInstanceId runId : String) :
    Option (WidgetInstanceRow × WidgetRunRow) := do
  let widget ← s.validateWidgetOwnership workspaceId workbenchId widgetInstanceId
  let run ← s.getWidgetRun runId
  if run.widgetInstanceId = widget.id then some (widget, run) else none

/-! ## Start -/

structure CodexDirectWorkStreamStartSummary where
  runId : String
  status : String
  deriving DecidableEq

/-- The run of a widget that was just started. -/
def startedWidgetRun (d : Draws) (i : ℕ) (widgetInstanceId : String) : WidgetRunRow :=
  { id := d.placeholderId "wrun_" i
    widgetInstanceId := widgetInstanceId
    status := "running"
    commandKind := some codexDirectWorkCommandKind
    startedAt := d.seconds (i + 1)
    finishedAt := none
    summary := some "Codex Direct Work stream running" }

/-- The draws of the command are those from place `i` on; the two log entries it
appends are not read by any Queue command. -/
def insertCodexDirectWorkStreamStart (d : Draws) (i : ℕ) (input : NormalizedDirectWorkInput) :
    Sqlite (Option CodexDirectWorkStreamStartSummary) := do
  let owned ← query fun s =>
    s.validateWidgetOwnership input.workspaceId input.workbenchId input.widgetInstanceId
  match owned.filter fun widget => canInitiateDirectWork widget.definitionId with
  | none => pure none
  | some widget => do
      let run ← execute fun s => s.insertWidgetRun (startedWidgetRun d i widget.id)
      execute fun s => s.touchWorkspace input.workspaceId (d.timestamp (i + 2))
      pure (some ⟨run.id, "started"⟩)

/-- A started run is a new widget run, and nothing else changes but the time of
the workspace. -/
theorem insertCodexDirectWorkStreamStart_ok {d : Draws} {i : ℕ}
    {input : NormalizedDirectWorkInput} {s t : SqliteStore}
    {start : CodexDirectWorkStreamStartSummary}
    (h : exec (insertCodexDirectWorkStreamStart d i input) s = (.ok (some start), t)) :
    ∃ widgetId runs' workspaces',
      s.widgetRuns.insert (startedWidgetRun d i widgetId) = some runs' ∧
      start.runId = (startedWidgetRun d i widgetId).id ∧
      t = { s with widgetRuns := runs', workspaces := workspaces' } := by
  rw [insertCodexDirectWorkStreamStart, exec_query_bind] at h
  split at h
  · simp at h
  · rename_i widget _
    simp only [exec_bind_ok, exec_execute_ok, SqliteStore.insertWidgetRun,
      SqliteStore.inserted_ok, SqliteStore.touchWorkspace, exec_pure, Except.ok.injEq,
      Prod.mk.injEq, Option.some.injEq] at h
    obtain ⟨_, _, ⟨-, rfl, runs', hins, rfl⟩, _, _, ⟨-, rfl⟩, rfl, rfl⟩ := h
    exact ⟨widget.id, runs', _, hins, rfl, rfl⟩

end HobitQueue
