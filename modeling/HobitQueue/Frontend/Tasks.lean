import HobitQueue.Lib.JavaScript

/-!
# Queue tasks in the frontend

The frontend keeps its own record of a Queue task: optional fields, statuses that may be
texts it does not know, and for each status a function that reads an unknown one as the
weakest of its kind.
-/

namespace HobitQueue.Frontend

open JavaScript

/-! ## Statuses -/

inductive AgentQueueTaskStatus where
  | draft | queued | ready | running | completed | failed | cancelled | reviewNeeded
  /-- A text that is none of the declared statuses. -/
  | other (value : String)
  deriving DecidableEq

inductive AgentQueueTaskExecutionPolicy where
  | manual | auto | afterPreviousSuccess
  | other (value : String)
  deriving DecidableEq

inductive AgentQueueTaskValidationStatus where
  | notStarted | validating | passed | failed | needsReview
  | other (value : String)
  deriving DecidableEq

inductive AgentQueueCoordinatorStatus where
  | notReported | workerReported | awaitingValidation | awaitingCoordinatorReview
  | readyForFinalization | finalized | needsChanges | followUpRequired | blocked | failed
  | rollbackRequired
  | other (value : String)
  deriving DecidableEq

inductive AgentQueueClosureState where
  | closureRequired | commitRequired | commitCreated | noChangeAccepted | followUpCreated
  | closureBlocked
  deriving DecidableEq

inductive AgentQueueGlobalExecutionState where
  | started | stopped | stopKillRequested
  deriving DecidableEq

/-- What the Queue reads of a worker's report. -/
structure AgentQueueWorkerExecutionReport where
  summary : String
  changedFiles : List String
  validationResult : Option String
  deriving DecidableEq

/-- A Queue task as the frontend holds it. -/
structure AgentQueueTask where
  queueItemId : String
  title : String
  prompt : String
  status : AgentQueueTaskStatus
  priority : ℤ
  orderIndex : Option ℤ
  dependsOn : Option (List String)
  executionPolicy : Option AgentQueueTaskExecutionPolicy
  executionWorkspace : Option String
  codexExecutable : Option String
  queueTagId : Option String
  queueTagName : Option String
  validationStatus : Option AgentQueueTaskValidationStatus
  assignedWorkerId : Option String
  workerExecutionReports : List AgentQueueWorkerExecutionReport
  coordinatorStatus : Option AgentQueueCoordinatorStatus
  closureState : Option AgentQueueClosureState
  assignedExecutorWidgetId : Option String
  createdAt : String
  updatedAt : String
  deriving DecidableEq

/-! ## Reading statuses -/

def defaultTaskTitle : String := "New task"

def displayTaskTitle (task : AgentQueueTask) : String :=
  (nonEmptyTrim (some task.title)).getD defaultTaskTitle

/-- An unknown status reads as a known one. -/
def normalizeTaskStatus : AgentQueueTaskStatus → AgentQueueTaskStatus
  | .other _ => .draft
  | status => status

def normalizeCoordinatorStatus : Option AgentQueueCoordinatorStatus → AgentQueueCoordinatorStatus
  | none | some (.other _) => .notReported
  | some status => status

def normalizeValidationStatus :
    Option AgentQueueTaskValidationStatus → AgentQueueTaskValidationStatus
  | none | some (.other _) => .notStarted
  | some status => status

/-- Coordinator work that is under way keeps a task from being started. -/
def coordinatorStatusBlocksNewWork (status : Option AgentQueueCoordinatorStatus) : Bool :=
  match normalizeCoordinatorStatus status with
  | .finalized | .notReported | .other _ => false
  | _ => true

def queueGlobalExecutionStateBlocksNewWork (state : AgentQueueGlobalExecutionState) : Bool :=
  state != .started

/-! ## Execution policy -/

inductive QueueRunnerPreviousTaskStatus where
  | completed | failed | cancelled | timedOut
  deriving DecidableEq

inductive QueueRunnerPolicyDecision where
  | run | stopForManual | stopWaitingForPreviousSuccess | stopPreviousTaskNotSuccessful
  | skipNotRunnableStatus | skipMissingPrompt
  deriving DecidableEq

def normalizeQueueExecutionPolicy :
    Option AgentQueueTaskExecutionPolicy → AgentQueueTaskExecutionPolicy
  | none | some (.other _) => .manual
  | some policy => policy

def isQueueTaskRunnableStatus (status : AgentQueueTaskStatus) : Bool :=
  status == .queued || status == .ready || status == .reviewNeeded

def hasQueueTaskRunnablePrompt (prompt : String) : Bool := trim prompt != ""

/-- The order of the tests matters: a manual task stops the runner whatever its status. -/
def getQueueRunnerPolicyDecision (executionPolicy : Option AgentQueueTaskExecutionPolicy)
    (previousTaskStatus : Option QueueRunnerPreviousTaskStatus) (prompt : String)
    (status : AgentQueueTaskStatus) : QueueRunnerPolicyDecision :=
  let policy := normalizeQueueExecutionPolicy executionPolicy
  if policy = .manual then .stopForManual
  else if !isQueueTaskRunnableStatus status then .skipNotRunnableStatus
  else if !hasQueueTaskRunnablePrompt prompt then .skipMissingPrompt
  else if policy = .auto then .run
  else
    match previousTaskStatus with
    | none => .stopWaitingForPreviousSuccess
    | some .completed => .run
    | some _ => .stopPreviousTaskNotSuccessful

end HobitQueue.Frontend
