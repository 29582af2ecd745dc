import HobitQueue.Desktop.RunnerRegistry
import HobitQueue.Lib.Script
import HobitQueue.Service.RunLinks
import HobitQueue.Service.StartContext

/-!
# The autorun commands

The commands of the autorun runner and its tick loop are scripts: between two calls of the
registry they read the store, or start a worker, and everything else may happen. What the
store answers is left open; the ids of the runs that are started come from the counter of
the process.
-/

namespace HobitQueue

open Concurrent

/-! ## Calls -/

/-- What the runner reads of a widget run. -/
structure ObservedWidgetRun where
  status : String
  finishedAt : Option String

structure StartAssignedAgentQueueTaskResponse where
  queueItemId : String
  runId : String

/-- The calls of the commands: the methods of the registry, the reads of the store, and the
start of a worker. -/
inductive QueueRunnerCall where
  | startSessionWithRuntimeConfig (workspaceId executorWidgetInstanceId : String)
      (policy : QueueRunnerPolicy) (runtimeConfig : QueueRunnerRuntimeConfig)
  | stopSession
  | stopWithReason (reason : QueueRunnerStopReason)
  | stopAfterFinalStatus (reason : QueueRunnerStopReason)
  | completeWithoutContinuation (reason : QueueRunnerStopReason)
  | waitingForExecutor (queueItemId runId : String)
  | waitingForExecutorAfterContinuation (queueItemId runId : String)
  | observeWaitingRunForReconciliation (runId status : String) (isFinished : Bool)
  | observeMissingWaitingRun (runId : String)
  | tryMarkContinuationStarting (sessionId : QueueRunnerSessionId)
  | tryClaimTickLoop
  | releaseTickLoop (sessionId : QueueRunnerSessionId)
  | tickLoopShouldContinue (sessionId : QueueRunnerSessionId)
  | snapshot
  | startRequest
  | getWidgetRun (runId : String)
  | recordAgentQueueTaskRunFinalStatus (input : RecordAgentQueueTaskRunFinalStatusInput)
  | listAgentQueueTasks (workspaceId : String)
  | startAssignedAgentQueueTask (request : StartAssignedAgentQueueTaskInput)

/-- What a call is answered with. -/
abbrev QueueRunnerCall.Answer : QueueRunnerCall → Type
  | startSessionWithRuntimeConfig .. => Except String QueueRunnerSnapshot
  | stopSession | stopWithReason _ | stopAfterFinalStatus _ | completeWithoutContinuation _
  | waitingForExecutor .. | waitingForExecutorAfterContinuation ..
  | observeMissingWaitingRun _ | snapshot => QueueRunnerSnapshot
  | observeWaitingRunForReconciliation .. => QueueRunnerReconciliationObservation
  | tryMarkContinuationStarting _ => Option QueueRunnerSnapshot
  | tryClaimTickLoop => Option QueueRunnerSessionId
  | releaseTickLoop _ | recordAgentQueueTaskRunFinalStatus _ => Unit
  | tickLoopShouldContinue _ => Bool
  | startRequest => Option QueueRunnerStartRequest
  | getWidgetRun _ => Except Unit (Option ObservedWidgetRun)
  | listAgentQueueTasks _ => Except String (List AgentQueueTaskRow)
  | startAssignedAgentQueueTask _ => Except String StartAssignedAgentQueueTaskResponse

/-- The registry, and the counter that ids are drawn from (`NEXT_ID_SUFFIX`). -/
structure QueueRunnerWorld where
  registry : QueueRunnerSessionState
  nextIdSuffix : ℕ

/-- A worker that could be started: its run id is the prefix of the kind of worker, the clock
and the counter, from which other ids may have been drawn before. -/
structure StartedWorker where
  queueItemId : String
  idPrefix : String
  unixNanos : ℕ
  drawnBefore : ℕ

/-- The clock, the store and the workers as a call finds them. -/
structure RunnerOutside where
  now : String
  getWidgetRun : String → Except Unit (Option ObservedWidgetRun)
  listAgentQueueTasks : String → Except String (List AgentQueueTaskRow)
  startAssignedAgentQueueTask : StartAssignedAgentQueueTaskInput → Except String StartedWorker

namespace QueueRunnerWorld

/-- A method of the registry. -/
def method {α : Type} (w : QueueRunnerWorld)
    (f : QueueRunnerSessionState → α × QueueRunnerSessionState) : α × QueueRunnerWorld :=
  ((f w.registry).1, { w with registry := (f w.registry).2 })

/-- The run of a worker, with a new id. -/
def startWorker (w : QueueRunnerWorld) (worker : StartedWorker) :
    StartAssignedAgentQueueTaskResponse × QueueRunnerWorld :=
  let suffix := w.nextIdSuffix + worker.drawnBefore
  (⟨worker.queueItemId, placeholderId worker.idPrefix worker.unixNanos suffix⟩,
    { w with nextIdSuffix := suffix + 1 })

/-- What a call does. -/
def handle (o : RunnerOutside) (c : QueueRunnerCall) (w : QueueRunnerWorld) :
    c.Answer × QueueRunnerWorld :=
  match c with
  | .startSessionWithRuntimeConfig workspaceId executorWidgetInstanceId policy runtimeConfig =>
      w.method (·.startSessionWithRuntimeConfig workspaceId executorWidgetInstanceId policy
        runtimeConfig)
  | .stopSession => w.method (·.stopSession)
  | .stopWithReason reason => w.method (·.stopWithReason reason)
  | .stopAfterFinalStatus reason => w.method (·.stopAfterFinalStatus reason)
  | .completeWithoutContinuation reason => w.method (·.completeWithoutContinuation reason)
  | .waitingForExecutor queueItemId runId => w.method (·.waitingForExecutor queueItemId runId)
  | .waitingForExecutorAfterContinuation queueItemId runId =>
      w.method (·.waitingForExecutorAfterContinuation queueItemId runId)
  | .observeWaitingRunForReconciliation runId status isFinished =>
      w.method (·.observeWaitingRunForReconciliation o.now runId status isFinished)
  | .observeMissingWaitingRun runId => w.method (·.observeMissingWaitingRun o.now runId)
  | .tryMarkContinuationStarting sessionId =>
      w.method (·.tryMarkContinuationStarting sessionId)
  | .tryClaimTickLoop => w.method (·.tryClaimTickLoop)
  | .releaseTickLoop sessionId => w.method (·.releaseTickLoop sessionId)
  | .tickLoopShouldContinue sessionId => w.method (·.tickLoopShouldContinue sessionId)
  | .snapshot => (w.registry.snapshot, w)
  | .startRequest => (w.registry.startRequest, w)
  | .getWidgetRun runId => (o.getWidgetRun runId, w)
  | .recordAgentQueueTaskRunFinalStatus _ => ((), w)
  | .listAgentQueueTasks workspaceId => (o.listAgentQueueTasks workspaceId, w)
  | .startAssignedAgentQueueTask request =>
      match o.startAssignedAgentQueueTask request with
      | .error e => (.error e, w)
      | .ok worker => ((w.startWorker worker).1 |> .ok, (w.startWorker worker).2)

end QueueRunnerWorld

/-! ## Selection -/

inductive QueueAutorunTaskSelection where
  | start (queueItemId : String)
  | stop (reason : QueueRunnerStopReason)
  deriving DecidableEq

inductive QueueAutorunSelectionMode where
  | initialStart | afterSuccessfulTask
  deriving DecidableEq

def isAutorunRunnableStatus (status : String) : Bool :=
  status == "queued" || status == "ready" || status == "review_needed"

/-- The first task that may run decides: it is started, or it says why not. -/
def selectNextAutorunTaskForMode (tasks : List AgentQueueTaskRow)
    (executorWidgetInstanceId : String) (mode : QueueAutorunSelectionMode) :
    QueueAutorunTaskSelection :=
  match tasks.find? fun task => isAutorunRunnableStatus task.status with
  | none => .stop .noRunnableTasks
  | some task =>
    if Text.trim task.prompt = "" then .stop .missingPrompt
    else if task.executionPolicy = "manual" then .stop .manualTaskRequiresOperator
    else if task.executionPolicy = "after_previous_success" ∧ mode ≠ .afterSuccessfulTask then
      .stop .previousSuccessRequired
    else if task.executionPolicy ≠ "after_previous_success" ∧ task.executionPolicy ≠ "auto" then
      .stop .invalidConfig
    else match task.assignedExecutorWidgetId with
      | none => .stop .missingExecutor
      | some assignedExecutorWidgetId =>
        if assignedExecutorWidgetId ≠ executorWidgetInstanceId then
          .stop .assignedToDifferentExecutor
        else .start task.queueItemId

def selectNextAutorunTask (tasks : List AgentQueueTaskRow)
    (executorWidgetInstanceId : String) : QueueAutorunTaskSelection :=
  selectNextAutorunTaskForMode tasks executorWidgetInstanceId .initialStart

def selectNextAutorunTaskAfterSuccess (tasks : List AgentQueueTaskRow)
    (executorWidgetInstanceId : String) : QueueAutorunTaskSelection :=
  selectNextAutorunTaskForMode tasks executorWidgetInstanceId .afterSuccessfulTask

/-! ## Requests -/

structure StartAgentQueueRunnerPolicyRequest where
  stopOnFailure : Option Bool
  stopOnReviewNeeded : Option Bool
  stopOnCancel : Option Bool

def QueueRunnerPolicy.ofRequest (request : StartAgentQueueRunnerPolicyRequest) :
    QueueRunnerPolicy :=
  { stopOnFailure := request.stopOnFailure.getD true
    stopOnReviewNeeded := request.stopOnReviewNeeded.getD true
    stopOnCancel := request.stopOnCancel.getD true }

structure StartAgentQueueRunnerSessionRequest where
  workspaceId : String
  executorWidgetInstanceId : String
  codexExecutable : String
  repoRoot : String
  sandbox : String
  approvalPolicy : String
  timeoutMs : Option ℕ
  stdoutCapBytes : Option ℕ
  stderrCapBytes : Option ℕ
  policy : Option StartAgentQueueRunnerPolicyRequest

def runtimeConfigFromRequest (request : StartAgentQueueRunnerSessionRequest) :
    QueueRunnerRuntimeConfig :=
  { codexExecutable := request.codexExecutable
    repoRoot := request.repoRoot
    sandbox := request.sandbox
    approvalPolicy := request.approvalPolicy
    timeoutMs := request.timeoutMs
    stdoutCapBytes := request.stdoutCapBytes
    stderrCapBytes := request.stderrCapBytes }

/-- `runtime_config_is_missing` and `stored_runtime_config_is_missing`. -/
def runtimeConfigIsMissing (config : QueueRunnerRuntimeConfig) : Bool :=
  Text.trim config.codexExecutable = "" ∨ Text.trim config.repoRoot = "" ∨
    Text.trim config.sandbox = "" ∨ Text.trim config.approvalPolicy = ""

/-- The request to start a worker, at the first start and at a continuation. -/
def startWorkerRequest (workspaceId queueItemId : String) (config : QueueRunnerRuntimeConfig) :
    StartAssignedAgentQueueTaskInput :=
  { workspaceId := workspaceId
    queueItemId := queueItemId
    queueOwnerWidgetInstanceId := none
    codexExecutable := config.codexExecutable
    repoRoot := config.repoRoot
    sandbox := config.sandbox
    approvalPolicy := config.approvalPolicy
    timeoutMs := config.timeoutMs
    stdoutCapBytes := config.stdoutCapBytes
    stderrCapBytes := config.stderrCapBytes
    workflowStartContext := none }

def stopReasonForStartError (error : String) : QueueRunnerStopReason :=
  if containsText error "active Direct Work run" then .executorBusy
  else if containsText error "prompt must not be empty" then .missingPrompt
  else if containsText error "assigned to an Agent Executor" ||
      containsText error "executor widget not found" ||
      containsText error "assigned widget is not an Agent Executor" then .missingExecutor
  else .invalidConfig

/-! ## Scripts -/

/-- A script of the runner. -/
abbrev RunnerScript (α : Type) : Type := Script QueueRunnerCall QueueRunnerCall.Answer α

def ask (c : QueueRunnerCall) : RunnerScript c.Answer := Script.perform c

/-- The start command arms a session, picks its first task and starts a worker. -/
def startAgentQueueRunnerSessionOnce (request : StartAgentQueueRunnerSessionRequest) :
    RunnerScript (Except String QueueRunnerSnapshot) := do
  let policy := (request.policy.map QueueRunnerPolicy.ofRequest).getD {}
  let config := runtimeConfigFromRequest request
  match ← ask (.startSessionWithRuntimeConfig request.workspaceId
      request.executorWidgetInstanceId policy config) with
  | .error e => pure (.error e)
  | .ok _ =>
    if runtimeConfigIsMissing config then
      return .ok (← ask (.stopWithReason .invalidConfig))
    match ← ask (.listAgentQueueTasks request.workspaceId) with
    | .error e => pure (.error e)
    | .ok tasks =>
      match selectNextAutorunTask tasks request.executorWidgetInstanceId with
      | .stop reason => return .ok (← ask (.stopWithReason reason))
      | .start queueItemId =>
        match ← ask (.startAssignedAgentQueueTask
            (startWorkerRequest request.workspaceId queueItemId config)) with
        | .error e =>
          let _ ← ask (.stopWithReason (stopReasonForStartError e))
          pure (.error e)
        | .ok response =>
          return .ok (← ask (.waitingForExecutor response.queueItemId response.runId))

/-- A caller that was told to go on claims the continuation, and starts one worker. -/
def continueAgentQueueRunnerAfterSuccess : RunnerScript QueueRunnerSnapshot := do
  match ← ask .startRequest with
  | none => ask (.stopAfterFinalStatus .invalidConfig)
  | some startRequest =>
    match ← ask (.tryMarkContinuationStarting startRequest.sessionId) with
    | none => ask .snapshot
    | some _ =>
      if runtimeConfigIsMissing startRequest.runtimeConfig then
        return ← ask (.stopAfterFinalStatus .invalidConfig)
      match ← ask (.listAgentQueueTasks startRequest.workspaceId) with
      | .error _ => ask (.stopAfterFinalStatus .invalidConfig)
      | .ok tasks =>
        match selectNextAutorunTaskAfterSuccess tasks startRequest.executorWidgetInstanceId with
        | .stop .noRunnableTasks => ask (.completeWithoutContinuation .noRunnableTasks)
        | .stop reason => ask (.stopAfterFinalStatus reason)
        | .start queueItemId =>
          match ← ask (.startAssignedAgentQueueTask (startWorkerRequest
              startRequest.workspaceId queueItemId startRequest.runtimeConfig)) with
          | .error e => ask (.stopAfterFinalStatus (stopReasonForStartError e))
          | .ok response =>
            ask (.waitingForExecutorAfterContinuation response.queueItemId response.runId)

def recordAutorunRunLinkFinalStatus (startRequest : QueueRunnerStartRequest)
    (snapshot : QueueRunnerSnapshot) (runId status : String) (completedAt : Option String) :
    RunnerScript Unit :=
  match snapshot.activeQueueItemId with
  | none => pure ()
  | some queueItemId =>
    ask (.recordAgentQueueTaskRunFinalStatus {
      workspaceId := startRequest.workspaceId
      queueTaskId := queueItemId
      executorWidgetId := startRequest.executorWidgetInstanceId
      directWorkRunId := runId
      status := status
      completedAt := completedAt
      validationStatus := none
      reviewStatus := some .reviewNeeded })

/-- The final status of a finished run is recorded for the session there is by now. -/
def recordFinishedRun (snapshot : QueueRunnerSnapshot) (runId : String)
    (run : ObservedWidgetRun) : RunnerScript Unit :=
  if run.finishedAt.isSome then do
    match ← ask .startRequest with
    | none => pure ()
    | some startRequest =>
      recordAutorunRunLinkFinalStatus startRequest snapshot runId run.status run.finishedAt
  else pure ()

/-- The reconciliation of a snapshot that waits on a run. -/
def reconcileWaitingRun (snapshot : QueueRunnerSnapshot) (runId : String) :
    RunnerScript QueueRunnerSnapshot := do
  match ← ask (.getWidgetRun runId) with
  | .error _ => pure snapshot
  | .ok none => ask (.observeMissingWaitingRun runId)
  | .ok (some run) =>
    let observed ← ask
      (.observeWaitingRunForReconciliation runId run.status run.finishedAt.isSome)
    recordFinishedRun snapshot runId run
    if observed.shouldContinueAfterSuccess then continueAgentQueueRunnerAfterSuccess
    else pure observed.snapshot

def reconcileAgentQueueRunnerSnapshotFromRegistry : RunnerScript QueueRunnerSnapshot := do
  let snapshot ← ask .snapshot
  if snapshot.status ≠ .waitingForExecutor then return snapshot
  match snapshot.waitingRunId with
  | none => pure snapshot
  | some runId => reconcileWaitingRun snapshot runId

/-- The tick loop of a session; the app ends after so many ticks at the latest. -/
def tickLoop (sessionId : QueueRunnerSessionId) : ℕ → RunnerScript Unit
  | 0 => pure ()
  | ticks + 1 => do
    if !(← ask (.tickLoopShouldContinue sessionId)) then
      return ← ask (.releaseTickLoop sessionId)
    let _ ← reconcileAgentQueueRunnerSnapshotFromRegistry
    if !(← ask (.tickLoopShouldContinue sessionId)) then
      return ← ask (.releaseTickLoop sessionId)
    tickLoop sessionId ticks

def spawnAgentQueueRunnerTickLoopIfActive (ticks : ℕ) : RunnerScript Unit := do
  match ← ask .tryClaimTickLoop with
  | none => pure ()
  | some sessionId => tickLoop sessionId ticks

/-- The start command, and the tick loop that it leaves behind. -/
def startAgentQueueRunnerSession (request : StartAgentQueueRunnerSessionRequest) (ticks : ℕ) :
    RunnerScript Unit := do
  match ← startAgentQueueRunnerSessionOnce request with
  | .error _ => pure ()
  | .ok _ => spawnAgentQueueRunnerTickLoopIfActive ticks

/-- The stop command of the operator. -/
def stopAgentQueueRunnerSession : RunnerScript Unit := do
  let _ ← ask .stopSession
  pure ()

/-- The command that shows the state of the runner. -/
def getAgentQueueRunnerSnapshot : RunnerScript Unit := do
  let _ ← reconcileAgentQueueRunnerSnapshotFromRegistry
  pure ()

/-- A caller of the runner. -/
inductive RunnerCommand where
  | start (request : StartAgentQueueRunnerSessionRequest) (ticks : ℕ)
  | stop
  | getSnapshot

def RunnerCommand.script : RunnerCommand → RunnerScript Unit
  | start request ticks => startAgentQueueRunnerSession request ticks
  | stop => stopAgentQueueRunnerSession
  | getSnapshot => getAgentQueueRunnerSnapshot

end HobitQueue
