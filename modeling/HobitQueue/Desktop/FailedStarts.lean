import HobitQueue.Desktop.RunnerCommands

/-!
# Starts that fail

The start command arms a session before it looks for a task. Whatever fails afterwards has to
take the session back: a worker that does not start does, tasks that cannot be listed do not.

## Main results

* `failed_start_leaves_no_session_iff` — a failed start leaves no session behind exactly if the
  tasks could be listed.
-/

namespace HobitQueue

open Concurrent

/-- `start_session`: a session without a runtime configuration. -/
def QueueRunnerSessionState.startSession (s : QueueRunnerSessionState)
    (workspaceId executorWidgetInstanceId : String) (policy : QueueRunnerPolicy) :
    Except String QueueRunnerSnapshot × QueueRunnerSessionState :=
  s.startSessionWithRuntimeConfig workspaceId executorWidgetInstanceId policy
    { codexExecutable := ""
      repoRoot := ""
      sandbox := ""
      approvalPolicy := ""
      timeoutMs := none
      stdoutCapBytes := none
      stderrCapBytes := none }

/-- The start command, without other callers in between. -/
def startAlone (outside : ℕ → RunnerOutside) (request : StartAgentQueueRunnerSessionRequest)
    (w : QueueRunnerWorld) : Except String QueueRunnerSnapshot × QueueRunnerWorld :=
  let r := (startAgentQueueRunnerSessionOnce request).alone QueueRunnerWorld.handle outside 0 w
  (r.1, r.2.2)

/-- After a start that failed the registry has no active session, and a session with a valid
policy is accepted. -/
def LeavesNoSession (outside : ℕ → RunnerOutside)
    (request : StartAgentQueueRunnerSessionRequest) (w : QueueRunnerWorld) : Prop :=
  ∀ error w', startAlone outside request w = (.error error, w') →
    w'.registry.snapshot.status.isActive = false ∧
      ∀ workspaceId executorWidgetInstanceId policy,
        Text.trim workspaceId ≠ "" → Text.trim executorWidgetInstanceId ≠ "" →
        validateStartPolicy policy = .ok () →
        ∃ snapshot, (w'.registry.startSession workspaceId executorWidgetInstanceId policy).1 =
          .ok snapshot

/-- The request names a workspace and an executor and has a runtime configuration, and the store
cannot be opened or does not list its tasks. -/
def ListingFails (outside : ℕ → RunnerOutside)
    (request : StartAgentQueueRunnerSessionRequest) : Prop :=
  Text.trim request.workspaceId ≠ "" ∧ Text.trim request.executorWidgetInstanceId ≠ "" ∧
    runtimeConfigIsMissing (runtimeConfigFromRequest request) = false ∧
    ∃ error, (outside 1).listAgentQueueTasks request.workspaceId = .error error

theorem accepts_of_inactive {s : QueueRunnerSessionState}
    (h : s.snapshot.status.isActive = false) {workspaceId executorWidgetInstanceId : String}
    {policy : QueueRunnerPolicy} {config : QueueRunnerRuntimeConfig}
    (hworkspace : Text.trim workspaceId ≠ "") (hexecutor : Text.trim executorWidgetInstanceId ≠ "")
    (hpolicy : validateStartPolicy policy = .ok ()) :
    s.startSessionWithRuntimeConfig workspaceId executorWidgetInstanceId policy config =
      let t := s.armed (Text.trim workspaceId) (Text.trim executorWidgetInstanceId) policy config
      (.ok t.snapshot, t) := by
  simp [QueueRunnerSessionState.startSessionWithRuntimeConfig, requiredValue, hworkspace,
    hexecutor, hpolicy, h, bind, Except.bind, pure, Except.pure]

theorem rejects_of_blank {s : QueueRunnerSessionState}
    {workspaceId executorWidgetInstanceId : String} {policy : QueueRunnerPolicy}
    {config : QueueRunnerRuntimeConfig}
    (h : Text.trim workspaceId = "" ∨ Text.trim executorWidgetInstanceId = "") :
    ∃ error, s.startSessionWithRuntimeConfig workspaceId executorWidgetInstanceId policy config =
      (.error error, s) := by
  by_cases hworkspace : Text.trim workspaceId = ""
  · refine ⟨"workspace id must not be empty", ?_⟩
    simp [QueueRunnerSessionState.startSessionWithRuntimeConfig, requiredValue, hworkspace, bind,
      Except.bind]
  · have hexecutor := h.resolve_left hworkspace
    refine ⟨"executor widget instance id must not be empty", ?_⟩
    simp [QueueRunnerSessionState.startSessionWithRuntimeConfig, requiredValue, hworkspace,
      hexecutor, bind, Except.bind]

/-- The policy of a request is one that may start. -/
theorem validateStartPolicy_request (policy : Option StartAgentQueueRunnerPolicyRequest) :
    validateStartPolicy ((policy.map QueueRunnerPolicy.ofRequest).getD {}) = .ok () := by
  cases policy with
  | none => rfl
  | some policy => rfl

/-- The registry once the session of a request is armed. -/
def armedWorld (request : StartAgentQueueRunnerSessionRequest) (w : QueueRunnerWorld) :
    QueueRunnerWorld where
  registry :=
    w.registry.armed (Text.trim request.workspaceId) (Text.trim request.executorWidgetInstanceId)
      ((request.policy.map QueueRunnerPolicy.ofRequest).getD {}) (runtimeConfigFromRequest request)
  nextIdSuffix := w.nextIdSuffix

section Start

variable {outside : ℕ → RunnerOutside} {request : StartAgentQueueRunnerSessionRequest}
  {w w' : QueueRunnerWorld} {error : String}

theorem startAlone_of_blank
    (h : Text.trim request.workspaceId = "" ∨ Text.trim request.executorWidgetInstanceId = "")
    (hstart : startAlone outside request w = (.error error, w')) : w' = w := by
  obtain ⟨reason, hreject⟩ := @rejects_of_blank w.registry _ _
    ((request.policy.map QueueRunnerPolicy.ofRequest).getD {}) (runtimeConfigFromRequest request) h
  rw [startAlone, startAgentQueueRunnerSessionOnce] at hstart
  simp only [ask, Script.alone_perform_bind, QueueRunnerWorld.handle, QueueRunnerWorld.method,
    hreject, Script.alone_pure, Prod.mk.injEq] at hstart
  exact hstart.2.symm

/-- A start that arms a session goes on with the tasks it finds. -/
theorem startAlone_of_listed (hinactive : w.registry.snapshot.status.isActive = false)
    (hworkspace : Text.trim request.workspaceId ≠ "")
    (hexecutor : Text.trim request.executorWidgetInstanceId ≠ "")
    (hconfig : runtimeConfigIsMissing (runtimeConfigFromRequest request) = false)
    {tasks : List AgentQueueTaskRow}
    (htasks : (outside 1).listAgentQueueTasks request.workspaceId = .ok tasks)
    (hstart : startAlone outside request w = (.error error, w')) :
    w'.registry.snapshot.status.isActive = false := by
  have haccept := @accepts_of_inactive _ hinactive _ _ _ (runtimeConfigFromRequest request)
    hworkspace hexecutor (validateStartPolicy_request request.policy)
  rw [startAlone, startAgentQueueRunnerSessionOnce] at hstart
  simp only [ask, Script.alone_perform_bind, QueueRunnerWorld.handle, QueueRunnerWorld.method,
    haccept, hconfig, Bool.false_eq_true, if_false, htasks] at hstart
  cases hselect : selectNextAutorunTask tasks request.executorWidgetInstanceId with
  | stop reason =>
    simp only [hselect, Script.alone_perform_bind, Script.alone_pure] at hstart
    cases (Prod.mk.inj hstart).1
  | start queueItemId =>
    simp only [hselect, Script.alone_perform_bind, QueueRunnerWorld.handle] at hstart
    cases hworker : (outside 2).startAssignedAgentQueueTask
        (startWorkerRequest request.workspaceId queueItemId
          (runtimeConfigFromRequest request)) with
    | error reason =>
      -- the worker that did not start stops the session
      simp only [hworker, Script.alone_perform_bind, QueueRunnerWorld.handle,
        QueueRunnerWorld.method, Script.alone_pure, Prod.mk.injEq] at hstart
      rw [← hstart.2]
      rfl
    | ok worker =>
      simp only [hworker, Script.alone_perform_bind, Script.alone_pure] at hstart
      cases (Prod.mk.inj hstart).1

theorem startAlone_of_missing (hinactive : w.registry.snapshot.status.isActive = false)
    (hworkspace : Text.trim request.workspaceId ≠ "")
    (hexecutor : Text.trim request.executorWidgetInstanceId ≠ "")
    (hmissing : runtimeConfigIsMissing (runtimeConfigFromRequest request) = true) :
    startAlone outside request w ≠ (.error error, w') := by
  have haccept := @accepts_of_inactive _ hinactive _ _ _ (runtimeConfigFromRequest request)
    hworkspace hexecutor (validateStartPolicy_request request.policy)
  intro hstart
  rw [startAlone, startAgentQueueRunnerSessionOnce] at hstart
  simp only [ask, Script.alone_perform_bind, QueueRunnerWorld.handle, QueueRunnerWorld.method,
    haccept, hmissing, if_true, Script.alone_pure] at hstart
  cases (Prod.mk.inj hstart).1

theorem startAlone_of_unlisted (hinactive : w.registry.snapshot.status.isActive = false)
    (hworkspace : Text.trim request.workspaceId ≠ "")
    (hexecutor : Text.trim request.executorWidgetInstanceId ≠ "")
    (hconfig : runtimeConfigIsMissing (runtimeConfigFromRequest request) = false)
    (htasks : (outside 1).listAgentQueueTasks request.workspaceId = .error error) :
    startAlone outside request w = (.error error, armedWorld request w) := by
  have haccept := @accepts_of_inactive _ hinactive _ _ _ (runtimeConfigFromRequest request)
    hworkspace hexecutor (validateStartPolicy_request request.policy)
  rw [startAlone, startAgentQueueRunnerSessionOnce]
  simp only [ask, Script.alone_perform_bind, QueueRunnerWorld.handle, QueueRunnerWorld.method,
    haccept, hconfig, Bool.false_eq_true, if_false, htasks, Script.alone_pure]
  rfl

end Start

/-- **A start that fails leaves no session behind, exactly if its tasks could be listed.** -/
theorem failed_start_leaves_no_session_iff (outside : ℕ → RunnerOutside)
    (request : StartAgentQueueRunnerSessionRequest) (w : QueueRunnerWorld)
    (h : w.registry.snapshot.status.isActive = false) :
    LeavesNoSession outside request w ↔ ¬ ListingFails outside request := by
  constructor
  · rintro hleaves ⟨hworkspace, hexecutor, hconfig, error, htasks⟩
    have hinactive := (hleaves error _
      (startAlone_of_unlisted h hworkspace hexecutor hconfig htasks)).1
    cases hinactive
  · intro hlisted error w' hstart
    have hinactive : w'.registry.snapshot.status.isActive = false := by
      by_cases hblank : Text.trim request.workspaceId = "" ∨
          Text.trim request.executorWidgetInstanceId = ""
      · rw [startAlone_of_blank hblank hstart]
        exact h
      · obtain ⟨hworkspace, hexecutor⟩ := not_or.mp hblank
        cases hconfig : runtimeConfigIsMissing (runtimeConfigFromRequest request) with
        | true => exact absurd hstart (startAlone_of_missing h hworkspace hexecutor hconfig)
        | false =>
          cases htasks : (outside 1).listAgentQueueTasks request.workspaceId with
          | error reason => exact absurd ⟨hworkspace, hexecutor, hconfig, reason, htasks⟩ hlisted
          | ok tasks => exact startAlone_of_listed h hworkspace hexecutor hconfig htasks hstart
    refine ⟨hinactive, ?_⟩
    intro workspaceId executorWidgetInstanceId policy hworkspace hexecutor hpolicy
    exact ⟨_, by rw [QueueRunnerSessionState.startSession,
      accepts_of_inactive hinactive hworkspace hexecutor hpolicy]⟩

/-- A store that cannot be opened. -/
def closedStore : RunnerOutside where
  now := "1"
  getWidgetRun _ := .error ()
  listAgentQueueTasks _ := .error "unable to open database file"
  startAssignedAgentQueueTask _ := .error "unable to open database file"

def plainStartRequest : StartAgentQueueRunnerSessionRequest where
  workspaceId := "workspace"
  executorWidgetInstanceId := "executor"
  codexExecutable := "codex"
  repoRoot := "repo"
  sandbox := "workspace-write"
  approvalPolicy := "never"
  timeoutMs := none
  stdoutCapBytes := none
  stderrCapBytes := none
  policy := none

/-- A store that cannot be opened leaves the session armed. -/
theorem closed_store_leaves_session :
    ¬ LeavesNoSession (fun _ => closedStore) plainStartRequest ⟨{}, 0⟩ := by
  intro h
  have hstart : (startAlone (fun _ => closedStore) plainStartRequest ⟨{}, 0⟩).1 =
      .error "unable to open database file" := by decide +kernel
  have hactive : (startAlone (fun _ => closedStore) plainStartRequest
      ⟨{}, 0⟩).2.registry.snapshot.status.isActive = true := by decide +kernel
  have hinactive := (h _ _ (Prod.ext hstart rfl)).1
  exact Bool.noConfusion (hactive.symm.trans hinactive)

/-- A task that the runner would start. -/
def runnableTask : AgentQueueTaskRow :=
  { queueItemId := "task", workspaceId := "workspace", title := "Next", description := ""
    prompt := "Go on.", status := "ready", priority := 0, dependsOn := .value (.arr [])
    executionPolicy := "auto", executionWorkspace := none, codexExecutable := none
    sandbox := none, approvalPolicy := none, contextJson := none
    assignedExecutorWidgetId := some "executor", createdAt := "0", updatedAt := "0" }

/-- A store that lists a task, and a worker that does not start on it. -/
def brokenWorker : RunnerOutside :=
  { closedStore with listAgentQueueTasks := fun _ => .ok [runnableTask] }

/-- The start fails when the worker does not start, and takes the session back. -/
theorem failed_start_leaves_no_session_idle :
    (startAlone (fun _ => brokenWorker) plainStartRequest ⟨{}, 0⟩).1 =
        .error "unable to open database file" ∧
      LeavesNoSession (fun _ => brokenWorker) plainStartRequest ⟨{}, 0⟩ := by
  refine ⟨by decide +kernel, (failed_start_leaves_no_session_iff _ _ _ rfl).2 ?_⟩
  rintro ⟨-, -, -, error, htasks⟩
  cases htasks

end HobitQueue
