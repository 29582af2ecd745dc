import HobitQueue.Service.RunLinks

/-!
# The start gate

What keeps a worker from being started: a blocker with a code and a message. The
gate over the dependencies lets a task start when every upstream task is accepted.
-/

namespace HobitQueue

/-- A reason that a start is refused. -/
structure QueueWorkerStartBlocker where
  blockerCode : String
  blockerMessage : String
  taskId : Option String
  executorWidgetId : Option String
  runId : Option String
  workflowRunId : Option String
  workflowActionId : Option String
  actionIdempotencyKey : Option String
  currentRunState : Option String
  expectedQueueControlVersion : Option ℤ
  actualQueueControlVersion : Option ℤ
  expectedSettingsHash : Option String
  actualSettingsHash : Option String
  missingRequiredField : Option String
  deriving DecidableEq

def workflowStartBlocker (blockerCode blockerMessage : String)
    (taskId executorWidgetId runId currentRunState : Option String)
    (expectedQueueControlVersion actualQueueControlVersion : Option ℤ)
    (missingRequiredField : Option String) : QueueWorkerStartBlocker :=
  { blockerCode := blockerCode
    blockerMessage := blockerMessage
    taskId := taskId
    executorWidgetId := executorWidgetId
    runId := runId
    workflowRunId := none
    workflowActionId := none
    actionIdempotencyKey := none
    currentRunState := currentRunState
    expectedQueueControlVersion := expectedQueueControlVersion
    actualQueueControlVersion := actualQueueControlVersion
    expectedSettingsHash := none
    actualSettingsHash := none
    missingRequiredField := missingRequiredField }

def workflowStartBlockerMessage (blocker : QueueWorkerStartBlocker) : String :=
  blocker.blockerCode ++ ": " ++ blocker.blockerMessage

def workflowStartStorageError (blocker : QueueWorkerStartBlocker) : StorageError :=
  storageInvalidInput (workflowStartBlockerMessage blocker)

/-! ## Dependencies -/

/-- A blocker of the dependency gate: it names the task and the state of the
upstream task. -/
def dependencyBlocker (code message queueItemId : String) (upstreamStatus : Option String) :
    QueueWorkerStartBlocker :=
  workflowStartBlocker code message (some queueItemId) none none upstreamStatus none none none

namespace SqliteStore

variable (s : SqliteStore)

/-- One dependency: accepted, or the blocker it gives rise to. -/
def dependencyReady (workspaceId queueItemId dependencyId : String) :
    Except QueueWorkerStartBlocker Unit :=
  match s.getAgentQueueTask workspaceId dependencyId with
  | none => .error (dependencyBlocker "dependency_unknown"
      ("queue task dependency not found in workspace: " ++ dependencyId) queueItemId none)
  | some upstream =>
      if (s.getLatestAgentQueueCompletionDecision workspaceId dependencyId).isSome then .ok ()
      else if (s.getLatestAgentQueueFailureDecision workspaceId dependencyId).isSome ||
          upstream.status == "cancelled" then
        .error (dependencyBlocker "dependency_failed"
          "At least one dependency failed before accepted completion." queueItemId
          (some upstream.status))
      else if upstream.status == "blocked" then
        .error (dependencyBlocker "dependency_blocked" "At least one dependency is blocked."
          queueItemId (some upstream.status))
      else
        .error (dependencyBlocker "dependency_waiting"
          "At least one dependency has not reached accepted completion." queueItemId
          (some upstream.status))

/-- The loop over the dependencies stops at the first one that is not accepted. -/
def dependenciesReady (workspaceId queueItemId : String) :
    List String → Except QueueWorkerStartBlocker Unit
  | [] => .ok ()
  | dependencyId :: rest => do
      s.dependencyReady workspaceId queueItemId dependencyId
      dependenciesReady workspaceId queueItemId rest

/-- The gate that the dependencies of a task must pass. -/
def validateQueueTaskDependenciesReady (workspaceId : String) (task : AgentQueueTaskRow) :
    Except QueueWorkerStartBlocker Unit :=
  s.dependenciesReady workspaceId task.queueItemId (rowDependencyIds task)

/-! ## Active runs -/

def latestActiveTaskRunLink (workspaceId queueItemId : String) :
    Option AgentQueueTaskRunLinkRow :=
  (s.getLatestAgentQueueTaskRunLink workspaceId queueItemId).filter
    fun link => link.status == AgentQueueTaskRunStatus.running.asStr

end SqliteStore

/-- The states a start is allowed in. -/
def isRunnableAgentQueueTaskStatus : String → Bool :=
  statusAllows AgentQueueTaskLifecycleStatus.allowsExplicitAssignedStart

/-- The latest link of a task that is not busy is no running link. -/
theorem latestActiveTaskRunLink_eq_none {s : SqliteStore} {workspaceId queueItemId : String} :
    s.latestActiveTaskRunLink workspaceId queueItemId = none ↔
      ∀ link, s.getLatestAgentQueueTaskRunLink workspaceId queueItemId = some link →
        link.status ≠ "running" := by
  unfold SqliteStore.latestActiveTaskRunLink
  cases s.getLatestAgentQueueTaskRunLink workspaceId queueItemId with
  | none => simp
  | some link => simp [Option.filter, AgentQueueTaskRunStatus.asStr]

end HobitQueue
