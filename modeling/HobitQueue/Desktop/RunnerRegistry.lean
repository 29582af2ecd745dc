import HobitQueue.Lib.Text

/-!
# The autorun session registry

The desktop app keeps one autorun session in memory, behind a lock. Every method of the
registry takes the lock once: it is a function of the state under the lock. Some methods
check the session or the run they are about, others overwrite the snapshot.
-/

namespace HobitQueue

/-! ## Types -/

structure QueueRunnerSessionId where
  value : String
  deriving DecidableEq, Repr

inductive QueueRunnerStatus where
  | idle | armed | selectingTask | assigningTask | startingTask | waitingForExecutor
  | stopping | stopped | completed | error
  deriving DecidableEq, Repr

def QueueRunnerStatus.isActive : QueueRunnerStatus → Bool
  | armed | selectingTask | assigningTask | startingTask | waitingForExecutor | stopping => true
  | idle | stopped | completed | error => false

structure QueueRunnerPolicy where
  requireOperatorStart : Bool := true
  oneTaskAtATime : Bool := true
  stopOnFailure : Bool := true
  stopOnReviewNeeded : Bool := true
  stopOnCancel : Bool := true
  allowHiddenExecution : Bool := false
  durableResume : Bool := false
  deriving DecidableEq, Repr

structure QueueRunnerRuntimeConfig where
  codexExecutable : String
  repoRoot : String
  sandbox : String
  approvalPolicy : String
  timeoutMs : Option ℕ
  stdoutCapBytes : Option ℕ
  stderrCapBytes : Option ℕ
  deriving DecidableEq, Repr

inductive QueueRunnerStopReason where
  | operatorStopped | noRunnableTasks | manualTaskRequiresOperator | previousSuccessRequired
  | previousTaskNotSuccessful | assignedToDifferentExecutor | executorBusy | missingExecutor
  | missingPrompt | invalidConfig | taskFailed | reviewNeeded | taskCancelled | taskKilled
  | unknownFinalStatus | appSessionEnded
  deriving DecidableEq, Repr

structure QueueRunnerStartRequest where
  sessionId : QueueRunnerSessionId
  workspaceId : String
  executorWidgetInstanceId : String
  policy : QueueRunnerPolicy
  runtimeConfig : QueueRunnerRuntimeConfig
  deriving DecidableEq, Repr

structure QueueRunnerSnapshot where
  sessionId : Option QueueRunnerSessionId := none
  status : QueueRunnerStatus := .idle
  policy : QueueRunnerPolicy := {}
  activeQueueItemId : Option String := none
  waitingRunId : Option String := none
  finalRunStatus : Option String := none
  lastReconciledAt : Option String := none
  stopReason : Option QueueRunnerStopReason := none
  deriving DecidableEq, Repr

/-- The state under the lock. -/
structure QueueRunnerSessionState where
  nextSessionSequence : ℕ := 0
  snapshot : QueueRunnerSnapshot := {}
  startRequest : Option QueueRunnerStartRequest := none
  activeTickLoopSessionId : Option QueueRunnerSessionId := none
  deriving DecidableEq, Repr

/-! ## Observations of runs -/

structure QueueRunnerFinalRunObservation where
  status : QueueRunnerStatus
  safeStatus : String
  stopReason : Option QueueRunnerStopReason

/-- What the status of a run means for the session that waits on it; nothing while the run
goes on. -/
def QueueRunnerFinalRunObservation.fromRunStatus (status : String) (isFinished : Bool) :
    Option QueueRunnerFinalRunObservation :=
  match status with
  | "completed" | "succeeded" => some ⟨.completed, "completed", none⟩
  | "failed" => some ⟨.stopped, "failed", some .taskFailed⟩
  | "timed_out" => some ⟨.stopped, "timed_out", some .taskFailed⟩
  | "cancelled" => some ⟨.stopped, "cancelled", some .taskCancelled⟩
  | "force_killed" => some ⟨.stopped, "force_killed", some .taskKilled⟩
  | "review_needed" => some ⟨.stopped, "review_needed", some .reviewNeeded⟩
  -- `running` and `started` go on until they are finished; so does any unknown status
  | _ => if isFinished then some ⟨.stopped, "unknown", some .unknownFinalStatus⟩ else none

/-- A run that was observed is over: the session stops, or it may go on. -/
theorem QueueRunnerFinalRunObservation.status_of_fromRunStatus {status : String}
    {isFinished : Bool} {observation : QueueRunnerFinalRunObservation}
    (h : fromRunStatus status isFinished = some observation) :
    observation.status = .completed ∨ observation.status = .stopped := by
  unfold fromRunStatus at h
  split at h
  all_goals first
    | exact Or.inl (congrArg QueueRunnerFinalRunObservation.status (Option.some.inj h)).symm
    | exact Or.inr (congrArg QueueRunnerFinalRunObservation.status (Option.some.inj h)).symm
    | skip
  split at h
  · exact Or.inr (congrArg QueueRunnerFinalRunObservation.status (Option.some.inj h)).symm
  · cases h

structure QueueRunnerReconciliationObservation where
  snapshot : QueueRunnerSnapshot
  shouldContinueAfterSuccess : Bool
  deriving DecidableEq, Repr

/-! ## Methods -/

def requiredValue (value label : String) : Except String String :=
  let value := Text.trim value
  if value = "" then .error (label ++ " must not be empty") else .ok value

def validateStartPolicy (policy : QueueRunnerPolicy) : Except String Unit :=
  if !policy.requireOperatorStart then
    .error "Queue runner requires explicit operator start"
  else if !policy.oneTaskAtATime then
    .error "Queue runner must run one task at a time"
  else if policy.allowHiddenExecution then
    .error "Queue runner cannot allow hidden execution"
  else if policy.durableResume then
    .error "Queue runner durable resume is not implemented"
  else .ok ()

namespace QueueRunnerSessionState

/-- `u64::saturating_add`. -/
def saturatingAdd (n m : ℕ) : ℕ := min (n + m) (2 ^ 64 - 1)

/-- The id of the session that a sequence number names. -/
def sessionIdOf (sequence : ℕ) : QueueRunnerSessionId :=
  ⟨"queue_runner_session_" ++ Nat.repr sequence⟩

variable (s : QueueRunnerSessionState)

/-- The state of a session that was just armed. -/
def armed (workspaceId executorWidgetInstanceId : String) (policy : QueueRunnerPolicy)
    (runtimeConfig : QueueRunnerRuntimeConfig) : QueueRunnerSessionState :=
  let sequence := saturatingAdd s.nextSessionSequence 1
  { s with
    nextSessionSequence := sequence
    startRequest := some ⟨sessionIdOf sequence, workspaceId, executorWidgetInstanceId, policy,
      runtimeConfig⟩
    snapshot := { sessionId := some (sessionIdOf sequence), status := .armed, policy := policy } }

/-- A session is started, unless one is active. -/
def startSessionWithRuntimeConfig (workspaceId executorWidgetInstanceId : String)
    (policy : QueueRunnerPolicy) (runtimeConfig : QueueRunnerRuntimeConfig) :
    Except String QueueRunnerSnapshot × QueueRunnerSessionState :=
  match (do
    let workspaceId ← requiredValue workspaceId "workspace id"
    let executorWidgetInstanceId ←
      requiredValue executorWidgetInstanceId "executor widget instance id"
    validateStartPolicy policy
    pure (workspaceId, executorWidgetInstanceId)) with
  | .error e => (.error e, s)
  | .ok (workspaceId, executorWidgetInstanceId) =>
    if s.snapshot.status.isActive then
      (.error ("Queue runner session is already active. Stop it before arming another " ++
        "session."), s)
    else
      let t := s.armed workspaceId executorWidgetInstanceId policy runtimeConfig
      (.ok t.snapshot, t)

/-- The state without a session. -/
def cleared : QueueRunnerSessionState :=
  { s with snapshot := {}, startRequest := none, activeTickLoopSessionId := none }

def stopSession : QueueRunnerSnapshot × QueueRunnerSessionState :=
  let t :=
    if s.snapshot.sessionId.isNone ∨ s.snapshot.status = .idle then s.cleared
    else if s.snapshot.status ≠ .stopped then
      { s with snapshot :=
        { s.snapshot with status := .stopped, stopReason := some .operatorStopped } }
    else s
  (t.snapshot, t)

/-- The methods that end a session overwrite the snapshot, if there is a session at all. -/
def ended (snapshot : QueueRunnerSnapshot) : QueueRunnerSnapshot × QueueRunnerSessionState :=
  let t := if s.snapshot.sessionId.isNone then s.cleared else { s with snapshot := snapshot }
  (t.snapshot, t)

def stopWithReason (reason : QueueRunnerStopReason) :
    QueueRunnerSnapshot × QueueRunnerSessionState :=
  s.ended { s.snapshot with
    status := .stopped
    stopReason := some reason
    activeQueueItemId := none
    waitingRunId := none
    finalRunStatus := none
    lastReconciledAt := none }

def stopAfterFinalStatus (reason : QueueRunnerStopReason) :
    QueueRunnerSnapshot × QueueRunnerSessionState :=
  s.ended { s.snapshot with
    status := .stopped
    stopReason := some reason
    activeQueueItemId := none
    waitingRunId := none }

def completeWithoutContinuation (reason : QueueRunnerStopReason) :
    QueueRunnerSnapshot × QueueRunnerSessionState :=
  s.ended { s.snapshot with
    status := .completed
    stopReason := some reason
    activeQueueItemId := none
    waitingRunId := none }

def waitingForExecutor (queueItemId runId : String) :
    QueueRunnerSnapshot × QueueRunnerSessionState :=
  let t := { s with snapshot := { s.snapshot with
    status := .waitingForExecutor
    activeQueueItemId := some queueItemId
    waitingRunId := some runId
    finalRunStatus := none
    lastReconciledAt := none
    stopReason := none } }
  (t.snapshot, t)

def waitingForExecutorAfterContinuation (queueItemId runId : String) :
    QueueRunnerSnapshot × QueueRunnerSessionState :=
  let t := { s with snapshot := { s.snapshot with
    status := .waitingForExecutor
    activeQueueItemId := some queueItemId
    waitingRunId := some runId
    stopReason := none } }
  (t.snapshot, t)

/-- The session waits on this run. -/
def WaitsOn (runId : String) : Prop :=
  s.snapshot.status = .waitingForExecutor ∧ s.snapshot.waitingRunId = some runId

instance (runId : String) : Decidable (s.WaitsOn runId) := inferInstanceAs (Decidable (_ ∧ _))

def observeWaitingRunForReconciliation (now runId status : String) (isFinished : Bool) :
    QueueRunnerReconciliationObservation × QueueRunnerSessionState :=
  if ¬ s.WaitsOn runId then (⟨s.snapshot, false⟩, s)
  else
    let snapshot := { s.snapshot with lastReconciledAt := some now }
    match QueueRunnerFinalRunObservation.fromRunStatus status isFinished with
    | none => (⟨snapshot, false⟩, { s with snapshot := snapshot })
    | some observation =>
      let shouldContinueAfterSuccess := observation.status = .completed
      let snapshot := { snapshot with
        finalRunStatus := some observation.safeStatus
        stopReason := observation.stopReason
        status := if shouldContinueAfterSuccess then .selectingTask else observation.status }
      (⟨snapshot, shouldContinueAfterSuccess⟩, { s with snapshot := snapshot })

def observeMissingWaitingRun (now runId : String) :
    QueueRunnerSnapshot × QueueRunnerSessionState :=
  let t :=
    if ¬ s.WaitsOn runId then s
    else { s with snapshot := { s.snapshot with
      status := .stopped
      finalRunStatus := some "unknown"
      lastReconciledAt := some now
      stopReason := some .unknownFinalStatus } }
  (t.snapshot, t)

def tryMarkContinuationStarting (sessionId : QueueRunnerSessionId) :
    Option QueueRunnerSnapshot × QueueRunnerSessionState :=
  if s.snapshot.sessionId ≠ some sessionId ∨ s.snapshot.status ≠ .selectingTask then (none, s)
  else
    let t := { s with snapshot := { s.snapshot with status := .startingTask } }
    (some t.snapshot, t)

def tryClaimTickLoop : Option QueueRunnerSessionId × QueueRunnerSessionState :=
  match s.snapshot.sessionId with
  | none => (none, s)
  | some sessionId =>
    if !s.snapshot.status.isActive then (none, s)
    else if s.activeTickLoopSessionId = some sessionId then (none, s)
    else (some sessionId, { s with activeTickLoopSessionId := some sessionId })

def releaseTickLoop (sessionId : QueueRunnerSessionId) : Unit × QueueRunnerSessionState :=
  ((), if s.activeTickLoopSessionId = some sessionId then
    { s with activeTickLoopSessionId := none } else s)

def tickLoopShouldContinue (sessionId : QueueRunnerSessionId) :
    Bool × QueueRunnerSessionState :=
  (s.snapshot.sessionId = some sessionId ∧ s.snapshot.status.isActive, s)

end QueueRunnerSessionState

end HobitQueue
