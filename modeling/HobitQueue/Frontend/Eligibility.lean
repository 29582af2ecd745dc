import HobitQueue.Frontend.SmartGate

/-!
# What may start

Two models of the frontend decide what the scheduler may start: one reads the stored fields
of a task, the other a lifecycle derived from them. Both take the dependency gate of the smart
model, over dependencies merged under a text key.

## Main results

* `eligibility_agrees_iff` — where the two agree and neither starts a task that ran.
-/

namespace HobitQueue.Frontend

open JavaScript

/-! ## Shared types -/

inductive SmartQueueState where
  | paused | active | draining | stopped
  deriving DecidableEq

inductive SmartQueueTaskHumanStatus where
  | ready | waitingDependency | running | review | needsDecision | blocked | failed | closed
  | cancelled
  deriving DecidableEq

/-- An extra dependency between two tasks. -/
structure QueueTaskDependency where
  dependencyId : String
  upstreamTaskId : String
  downstreamTaskId : String

structure QueueTaskBlocker where
  kind : SmartQueueBlockerKind
  message : String
  taskId : String
  upstreamTaskId : Option String
  deriving DecidableEq

/-- The failed and the blocked upstream tasks as blockers. -/
def dependencyBlockersForGate (taskId : String) (gate : SmartQueueDependencyGate) :
    List SmartQueueBlocker :=
  gate.failedTaskIds.map (fun upstreamTaskId =>
      { kind := .dependencyFailed
        reason := "dependency failed"
        taskId := some taskId
        upstreamTaskId := some upstreamTaskId
        rootCauseTaskIds := gate.rootFailedTaskIds }) ++
    gate.blockedTaskIds.map fun upstreamTaskId =>
      { kind := .dependencyBlocked
        reason := "dependency blocked"
        taskId := some taskId
        upstreamTaskId := some upstreamTaskId
        rootCauseTaskIds := gate.rootBlockedTaskIds }

/-! ## Stored fields -/

def isTaskClosedSuccessfully (task : AgentQueueTask) : Bool :=
  task.coordinatorStatus == some .finalized || task.closureState == some .noChangeAccepted ||
    task.closureState == some .commitCreated

def isTaskFailed (task : AgentQueueTask) : Bool :=
  task.status == .failed || task.coordinatorStatus == some .failed

def isTaskBlocked (task : AgentQueueTask) : Bool :=
  task.coordinatorStatus == some .blocked || task.coordinatorStatus == some .rollbackRequired ||
    task.closureState == some .closureBlocked

def hasRequiredRunConfig (task : AgentQueueTask) : Bool :=
  (nonEmptyTrim task.executionWorkspace).isSome && (nonEmptyTrim task.codexExecutable).isSome

def isDecisionBlockerKind (kind : SmartQueueBlockerKind) : Bool :=
  kind == .validationRequiresDecision || kind == .requiresHumanInput

/-! ## Images in the smart model -/

def smartLifecycleForQueueTask (task : AgentQueueTask) : SmartQueueTaskLifecycle :=
  if isTaskClosedSuccessfully task then .closed
  else if isTaskFailed task then .failed
  else if isTaskBlocked task then .blocked
  else
    match task.status with
    | .draft => .draft
    | .queued => .queued
    | .ready => .ready
    | .running => .running
    | .failed => .failed
    | .cancelled => .cancelled
    | .completed | .reviewNeeded => .review
    | .other _ => .ready

/-- The four reasons a task carries itself, each with the text its model gives it. -/
def ownBlockers {β : Type} (task : AgentQueueTask) (blocker : SmartQueueBlockerKind → String → β)
    (prompt config validation decision : String) : List β :=
  (if trim task.prompt = "" then [blocker .missingPrompt prompt] else []) ++
    (if hasRequiredRunConfig task then [] else [blocker .missingConfig config]) ++
    (if task.validationStatus = some .needsReview then
      [blocker .validationRequiresDecision validation] else []) ++
    if task.coordinatorStatus = some .awaitingCoordinatorReview then
      [blocker .requiresHumanInput decision] else []

def smartBlockersForQueueTask (task : AgentQueueTask) : List SmartQueueBlocker :=
  ownBlockers task
    (fun kind reason =>
      { kind, reason, taskId := some task.queueItemId, upstreamTaskId := none
        rootCauseTaskIds := [] })
    "missing prompt" "missing config" "validation requires decision"
    "coordinator decision required"

/-- The image of a task in the smart model. -/
def smartTaskInputForQueueTask (task : AgentQueueTask) : SmartQueueTaskInput :=
  { taskId := task.queueItemId
    title := task.title
    lifecycle := smartLifecycleForQueueTask task
    blockers := smartBlockersForQueueTask task }

/-- One dependency recorded under the text key of its two ends. -/
def recordDependency (byKey : List (String × SmartQueueDependency))
    (dependency : SmartQueueDependency) : List (String × SmartQueueDependency) :=
  mapSet byKey (dependency.upstreamTaskId ++ "->" ++ dependency.downstreamTaskId) dependency

/-- The dependencies a task declares itself. -/
def declaredDependencies (task : AgentQueueTask) : List SmartQueueDependency :=
  ((task.dependsOn.getD []).filterMap fun upstream => nonEmptyTrim (some upstream)).map
    fun upstreamTaskId => { upstreamTaskId, downstreamTaskId := task.queueItemId }

def QueueTaskDependency.toSmart (dependency : QueueTaskDependency) : SmartQueueDependency :=
  { upstreamTaskId := dependency.upstreamTaskId, downstreamTaskId := dependency.downstreamTaskId }

/-- The image of the dependencies in the smart model. -/
def smartDependenciesForQueueTasks (tasks : List AgentQueueTask)
    (dependencies : List QueueTaskDependency) : List SmartQueueDependency :=
  ((tasks.flatMap declaredDependencies ++ dependencies.map (·.toSmart)).foldl
    recordDependency []).map (·.2)

/-! ## The model over stored fields -/

namespace QueueModel

structure QueueDependencyGate where
  gate : SmartQueueDependencyGateValue
  waitingOnTaskIds : List String
  failedTaskIds : List String
  blockedTaskIds : List String
  missingTaskIds : List String
  satisfiedTaskIds : List String

structure QueueTaskEligibility where
  canAutoStart : Bool
  blockers : List QueueTaskBlocker
  dependencyGate : SmartQueueDependencyGateValue
  humanStatus : SmartQueueTaskHumanStatus
  reason : String

def computeDependencyGate (task : AgentQueueTask) (tasks : List AgentQueueTask)
    (dependencies : List QueueTaskDependency) : QueueDependencyGate :=
  let smartTasks := tasks.map smartTaskInputForQueueTask
  let smartTask := (smartTasks.find? (·.taskId = task.queueItemId)).getD
    (smartTaskInputForQueueTask task)
  let smartGate := computeSmartQueueDependencyGate smartTask smartTasks
    (smartDependenciesForQueueTasks tasks dependencies)
  { gate := smartGate.gate
    waitingOnTaskIds := smartGate.waitingTaskIds
    failedTaskIds := smartGate.failedTaskIds
    blockedTaskIds := smartGate.blockedTaskIds
    missingTaskIds := smartGate.missingTaskIds
    satisfiedTaskIds := smartGate.satisfiedTaskIds }

/-- What keeps a task from being started. -/
def computeTaskBlockers (task : AgentQueueTask) (gate : QueueDependencyGate) :
    List QueueTaskBlocker :=
  (dependencyBlockersForGate task.queueItemId
    { gate := gate.gate
      upstreamTaskIds := gate.waitingOnTaskIds ++ gate.failedTaskIds ++ gate.blockedTaskIds ++
        gate.missingTaskIds ++ gate.satisfiedTaskIds
      waitingTaskIds := gate.waitingOnTaskIds
      satisfiedTaskIds := gate.satisfiedTaskIds
      failedTaskIds := gate.failedTaskIds
      blockedTaskIds := gate.blockedTaskIds
      missingTaskIds := gate.missingTaskIds
      rootFailedTaskIds := gate.failedTaskIds
      rootBlockedTaskIds := gate.blockedTaskIds }).map (fun blocker =>
    { kind := blocker.kind
      message :=
        if blocker.kind = .dependencyFailed then
          "Dependency " ++ blocker.upstreamTaskId.getD "dependency" ++ " failed."
        else "Dependency " ++ blocker.upstreamTaskId.getD "dependency" ++ " is blocked."
      taskId := task.queueItemId
      upstreamTaskId := blocker.upstreamTaskId }) ++
  ownBlockers task
    (fun kind message => { kind, message, taskId := task.queueItemId, upstreamTaskId := none })
    "Task is missing a prompt." "Task is missing required run configuration."
    "Validation requires a coordinator decision." "Task requires a coordinator decision."

/-- The numeral of a `task-12`, `task_12` or `task12`, in letters of either case. -/
def formatTaskId (taskId : String) : String :=
  let rest := taskId.toList.drop 4
  let digits := if rest.head? = some '-' ∨ rest.head? = some '_' then rest.drop 1 else rest
  if (taskId.toList.take 4).map Char.toLower = "task".toList ∧ digits ≠ [] ∧
      digits.all Char.isDigit then
    "Task " ++ String.ofList digits
  else taskId

def formatWaitingTaskList (taskIds : List String) : String :=
  if taskIds = [] then "dependencies" else ", ".intercalate (taskIds.map formatTaskId)

def formatDependencySummary (taskIds : List String) (fallback : String) : String :=
  if taskIds.length ≤ 1 then fallback
  else fallback ++ " (" ++ formatWaitingTaskList taskIds ++ ")"

def computeHumanQueueStatus (task : AgentQueueTask) (queueState : SmartQueueState)
    (gate : QueueDependencyGate) : SmartQueueTaskHumanStatus × String :=
  let blockers := computeTaskBlockers task gate
  if task.status = .running then (.running, "Running")
  else if isTaskClosedSuccessfully task then (.closed, "Closed")
  else if isTaskFailed task then (.failed, "Failed")
  else if task.status = .cancelled then (.cancelled, "Closed")
  else if blockers.any (·.kind = .dependencyFailed) then
    (.blocked, "Blocked: " ++ formatDependencySummary gate.failedTaskIds "dependency failed")
  else if blockers.any (·.kind = .dependencyBlocked) then
    (.blocked, "Blocked: " ++ formatDependencySummary gate.blockedTaskIds "dependency blocked")
  else if gate.gate = .waiting then
    (.waitingDependency,
      "Waiting for " ++ formatWaitingTaskList (gate.waitingOnTaskIds ++ gate.missingTaskIds))
  else if task.status = .reviewNeeded then (.needsDecision, "Needs decision")
  else if task.coordinatorStatus = some .awaitingCoordinatorReview then
    (.needsDecision, "Needs decision")
  else if blockers.any (isDecisionBlockerKind ·.kind) then (.needsDecision, "Needs decision")
  else if blockers ≠ [] ∨ isTaskBlocked task then
    (.blocked, "Blocked: " ++ (blockers.head?.map (·.message)).getD "needs decision")
  else (.ready, if queueState = .paused then "Ready (Queue paused)" else "Ready")

/-- Whether a task may start, by its stored fields. -/
def computeTaskEligibility (task : AgentQueueTask) (queueState : SmartQueueState)
    (gate : QueueDependencyGate) (availableSlots : ℤ) : QueueTaskEligibility :=
  let humanStatus := computeHumanQueueStatus task queueState gate
  let blockers := computeTaskBlockers task gate
  let answer (canAutoStart : Bool) (blockers : List QueueTaskBlocker) (reason : String) :
      QueueTaskEligibility :=
    { canAutoStart, blockers, reason
      dependencyGate := gate.gate, humanStatus := humanStatus.1 }
  if queueState ≠ .active then
    answer false blockers (if queueState = .paused then "Queue Paused" else "Queue is not active")
  else if humanStatus.1 ≠ .ready then answer false blockers humanStatus.2
  else if gate.gate ≠ .none ∧ gate.gate ≠ .satisfied then answer false blockers humanStatus.2
  else if blockers ≠ [] then
    answer false blockers ((blockers.head?.map (·.message)).getD "Task has blockers")
  else if availableSlots ≤ 0 then
    answer false
      (blockers ++ [
        { kind := .workerUnavailable
          message := "No worker capacity is available."
          taskId := task.queueItemId
          upstreamTaskId := none }])
      "No worker capacity is available."
  else answer true blockers "Eligible"

end QueueModel

/-! ## The model over lifecycles -/

namespace Smart

structure SmartQueueHumanStatus where
  status : SmartQueueTaskHumanStatus
  label : String
  reason : Option String
  text : String

structure SmartQueueEligibility where
  autoEligibleToStart : Bool
  blockers : List SmartQueueBlocker
  dependencyGate : SmartQueueDependencyGate
  humanStatus : SmartQueueHumanStatus
  reason : String

def humanStatus (status : SmartQueueTaskHumanStatus) (label : String)
    (reason : Option String := none) : SmartQueueHumanStatus :=
  { status, label, reason, text := reason.getD label }

def formatTaskId (taskId : String) : String :=
  (nonEmptyTrim (some taskId)).getD "dependency"

def formatDependencyList (taskIds : List String) : String :=
  if taskIds = [] then "dependencies" else ", ".intercalate (taskIds.map formatTaskId)

def defaultBlockerReason : SmartQueueBlockerKind → String
  | .dependencyFailed => "dependency failed"
  | .dependencyBlocked => "dependency blocked"
  | .missingConfig => "missing config"
  | .validationRequiresDecision => "validation requires decision"
  | .workerUnavailable => "worker unavailable"
  | .dirtyWorktree => "dirty worktree"
  | .missingPrompt => "missing prompt"
  | .requiresHumanInput => "human input required"

def shortReason : Option SmartQueueBlocker → String
  | none => "needs intervention"
  | some blocker =>
    (nonEmptyTrim (some blocker.reason)).getD (defaultBlockerReason blocker.kind)

def computeTaskBlockers (task : SmartQueueTaskInput) (gate : SmartQueueDependencyGate) :
    List SmartQueueBlocker :=
  dependencyBlockersForGate task.taskId gate ++ task.blockers

def computeHumanQueueStatus (task : SmartQueueTaskInput) (gate : SmartQueueDependencyGate) :
    SmartQueueHumanStatus :=
  if task.lifecycle = .running then humanStatus .running "Running"
  else if task.lifecycle = .closed then humanStatus .closed "Closed"
  else if task.lifecycle = .failed then humanStatus .failed "Failed"
  else if task.lifecycle = .cancelled then humanStatus .cancelled "Cancelled"
  else if gate.gate = .failed then humanStatus .blocked "Blocked: dependency failed"
  else if gate.gate = .blocked then humanStatus .blocked "Blocked: dependency blocked"
  else if gate.gate = .waiting then
    humanStatus .waitingDependency "Waiting dependency"
      (some ("Waiting for: " ++ formatDependencyList gate.waitingTaskIds))
  else
    match task.blockers.find? (isDecisionBlockerKind ·.kind) with
    | some decisionBlocker =>
      humanStatus .needsDecision ("Needs decision: " ++ shortReason (some decisionBlocker))
    | none =>
      if task.lifecycle = .blocked ∨ task.blockers ≠ [] then
        humanStatus .blocked ("Blocked: " ++ shortReason task.blockers.head?)
      else if task.lifecycle = .review then humanStatus .review "Review"
      else humanStatus .ready "Ready"

/-- Whether a task may start, by its lifecycle. -/
def computeTaskEligibility (task : SmartQueueTaskInput) (tasks : List SmartQueueTaskInput)
    (dependencies : List SmartQueueDependency) (queueState : SmartQueueState)
    (capacityAvailable : Bool) : SmartQueueEligibility :=
  let dependencyGate := computeSmartQueueDependencyGate task tasks dependencies
  let blockers := computeTaskBlockers task dependencyGate
  let status := computeHumanQueueStatus { task with blockers } dependencyGate
  let answer (autoEligibleToStart : Bool) (blockers : List SmartQueueBlocker) (reason : String) :
      SmartQueueEligibility :=
    { autoEligibleToStart, blockers, reason, dependencyGate, humanStatus := status }
  if status.status ≠ .ready then answer false blockers status.text
  else if dependencyGate.gate ≠ .none ∧ dependencyGate.gate ≠ .satisfied then
    answer false blockers status.text
  else if blockers ≠ [] then
    answer false blockers ("Blocked: " ++ shortReason blockers.head?)
  else if queueState ≠ .active then
    answer false blockers (if queueState = .paused then "Queue Paused" else "Queue is not active")
  else if capacityAvailable = false then
    answer false
      (blockers ++ [
        { kind := .workerUnavailable
          reason := "worker unavailable"
          taskId := some task.taskId
          upstreamTaskId := none
          rootCauseTaskIds := [] }])
      "No worker capacity is available"
  else answer true blockers "Eligible"

end Smart

/-! ## Where the two agree -/

/-- Nothing but its stored status keeps the task from being started. -/
structure FreeToStart (tasks : List AgentQueueTask) (dependencies : List QueueTaskDependency)
    (task : AgentQueueTask) (queueState : SmartQueueState) (availableSlots : ℤ) : Prop where
  active : queueState = .active
  capacity : 0 < availableSlots
  upstream : ∀ id ∈ dependencyMap (smartDependenciesForQueueTasks tasks dependencies)
    task.queueItemId, ∃ t, taskById (tasks.map smartTaskInputForQueueTask) id = some t ∧
      t.lifecycle = .closed
  notClosed : isTaskClosedSuccessfully task = false
  notFailed : isTaskFailed task = false
  notBlocked : isTaskBlocked task = false
  prompt : trim task.prompt ≠ ""
  config : hasRequiredRunConfig task = true
  validation : task.validationStatus ≠ some .needsReview
  decision : task.coordinatorStatus ≠ some .awaitingCoordinatorReview

theorem ownBlockers_eq_nil {β : Type} {task : AgentQueueTask}
    {blocker : SmartQueueBlockerKind → String → β} {prompt config validation decision : String} :
    ownBlockers task blocker prompt config validation decision = [] ↔
      trim task.prompt ≠ "" ∧ hasRequiredRunConfig task = true ∧
        task.validationStatus ≠ some .needsReview ∧
        task.coordinatorStatus ≠ some .awaitingCoordinatorReview := by
  simp only [ownBlockers, List.append_eq_nil_iff, ite_eq_right_iff, ite_eq_left_iff,
    List.cons_ne_nil, imp_false, and_assoc, Bool.not_eq_true, Bool.not_eq_false]

/-- The blockers its upstream tasks give a task are gone exactly with the two lists. -/
theorem dependencyBlockersForGate_eq_nil {taskId : String} {gate : SmartQueueDependencyGate} :
    dependencyBlockersForGate taskId gate = [] ↔
      gate.failedTaskIds = [] ∧ gate.blockedTaskIds = [] := by
  simp [dependencyBlockersForGate]

theorem gateForUpstreams_opens_clear {ids : List String}
    {stateOf : String → Option UpstreamDependencyState}
    (h : (gateForUpstreams ids stateOf).gate.opens = true) :
    (gateForUpstreams ids stateOf).failedTaskIds = [] ∧
      (gateForUpstreams ids stateOf).blockedTaskIds = [] := by
  rw [gateForUpstreams] at h ⊢
  by_cases hids : ids = []
  · simp [hids, emptyDependencyGate]
  · simp only [if_neg hids] at h ⊢
    split_ifs at h ⊢ <;>
      simp_all [DependencyBuckets.toGate, SmartQueueDependencyGateValue.opens]

/-- The gate both models take for a task. -/
def smartGateForQueueTask (tasks : List AgentQueueTask) (dependencies : List QueueTaskDependency)
    (task : AgentQueueTask) : SmartQueueDependencyGate :=
  computeSmartQueueDependencyGate (smartTaskInputForQueueTask task)
    (tasks.map smartTaskInputForQueueTask) (smartDependenciesForQueueTasks tasks dependencies)

theorem find_taskId {images : List SmartQueueTaskInput} {task : SmartQueueTaskInput} :
    ((images.find? (·.taskId = task.taskId)).getD task).taskId = task.taskId := by
  cases hfound : images.find? (·.taskId = task.taskId) with
  | none => rfl
  | some found => simpa using List.find?_some hfound

theorem opens_smartGateForQueueTask {tasks : List AgentQueueTask}
    {dependencies : List QueueTaskDependency} {task : AgentQueueTask} :
    (smartGateForQueueTask tasks dependencies task).gate.opens = true ↔
      ∀ id ∈ dependencyMap (smartDependenciesForQueueTasks tasks dependencies) task.queueItemId,
        ∃ t, taskById (tasks.map smartTaskInputForQueueTask) id = some t ∧
          t.lifecycle = .closed :=
  opens_computeSmartQueueDependencyGate

theorem opens_eq_true {gate : SmartQueueDependencyGateValue} :
    gate.opens = true ↔ ¬(gate ≠ .none ∧ gate ≠ .satisfied) := by
  cases gate <;> simp [SmartQueueDependencyGateValue.opens]

/-- A gate that opens puts no blocker on its task. -/
theorem smartGateForQueueTask_clear {tasks : List AgentQueueTask}
    {dependencies : List QueueTaskDependency} {task : AgentQueueTask}
    (h : (smartGateForQueueTask tasks dependencies task).gate.opens = true) :
    (smartGateForQueueTask tasks dependencies task).failedTaskIds = [] ∧
      (smartGateForQueueTask tasks dependencies task).blockedTaskIds = [] :=
  gateForUpstreams_opens_clear h

section

variable {tasks : List AgentQueueTask} {dependencies : List QueueTaskDependency}
  {task : AgentQueueTask} {queueState : SmartQueueState} {availableSlots : ℤ}

namespace QueueModel

/-- The gate in this model's own record, with the task looked up among the images. -/
theorem computeDependencyGate_eq :
    computeDependencyGate task tasks dependencies =
      { gate := (smartGateForQueueTask tasks dependencies task).gate
        waitingOnTaskIds := (smartGateForQueueTask tasks dependencies task).waitingTaskIds
        failedTaskIds := (smartGateForQueueTask tasks dependencies task).failedTaskIds
        blockedTaskIds := (smartGateForQueueTask tasks dependencies task).blockedTaskIds
        missingTaskIds := (smartGateForQueueTask tasks dependencies task).missingTaskIds
        satisfiedTaskIds := (smartGateForQueueTask tasks dependencies task).satisfiedTaskIds } := by
  have hid : (((tasks.map smartTaskInputForQueueTask).find?
      (·.taskId = task.queueItemId)).getD (smartTaskInputForQueueTask task)).taskId =
        (smartTaskInputForQueueTask task).taskId :=
    @find_taskId _ (smartTaskInputForQueueTask task)
  simp only [computeDependencyGate, smartGateForQueueTask, computeSmartQueueDependencyGate, hid]

/-- A task that is free of blockers under an open gate is the model's ready task. -/
theorem computeHumanQueueStatus_ready {gate : QueueDependencyGate}
    (hgate : gate.gate.opens = true) (hblockers : computeTaskBlockers task gate = []) :
    (computeHumanQueueStatus task queueState gate).1 = .ready ↔
      (isTaskClosedSuccessfully task = false ∧ isTaskFailed task = false ∧
        isTaskBlocked task = false ∧ task.coordinatorStatus ≠ some .awaitingCoordinatorReview) ∧
      task.status ≠ .running ∧ task.status ≠ .cancelled ∧ task.status ≠ .reviewNeeded := by
  have hwait : gate.gate ≠ .waiting := by
    rintro heq
    simp [heq, SmartQueueDependencyGateValue.opens] at hgate
  -- the texts of the answers are dropped before the tests are told apart
  simp only [computeHumanQueueStatus, hblockers, hwait, List.any_nil, if_false,
    apply_ite Prod.fst]
  split_ifs <;> simp_all

/-- The five tests in a row. -/
theorem computeTaskEligibility_canAutoStart {gate : QueueDependencyGate} :
    (computeTaskEligibility task queueState gate availableSlots).canAutoStart = true ↔
      queueState = .active ∧ (computeHumanQueueStatus task queueState gate).1 = .ready ∧
        gate.gate.opens = true ∧ computeTaskBlockers task gate = [] ∧ 0 < availableSlots := by
  rw [opens_eq_true]
  simp only [computeTaskEligibility]
  split_ifs with h₁ h₂ h₃ h₄ h₅ <;> simp_all

theorem computeTaskBlockers_eq_nil {gate : QueueDependencyGate}
    (hfailed : gate.failedTaskIds = []) (hblocked : gate.blockedTaskIds = []) :
    computeTaskBlockers task gate = [] ↔
      trim task.prompt ≠ "" ∧ hasRequiredRunConfig task = true ∧
        task.validationStatus ≠ some .needsReview ∧
        task.coordinatorStatus ≠ some .awaitingCoordinatorReview := by
  rw [computeTaskBlockers, List.append_eq_nil_iff, List.map_eq_nil_iff,
    dependencyBlockersForGate_eq_nil, ownBlockers_eq_nil]
  simp [hfailed, hblocked]

theorem canAutoStart_iff :
    (computeTaskEligibility task queueState (computeDependencyGate task tasks dependencies)
        availableSlots).canAutoStart = true ↔
      FreeToStart tasks dependencies task queueState availableSlots ∧
        task.status ≠ .running ∧ task.status ≠ .cancelled ∧ task.status ≠ .reviewNeeded := by
  rw [computeTaskEligibility_canAutoStart]
  constructor
  · rintro ⟨hactive, hready, hopens, hblockers, hslots⟩
    rw [computeHumanQueueStatus_ready hopens hblockers] at hready
    obtain ⟨⟨hclosed, hfailed, hblocked, hdecision⟩, hstatus⟩ := hready
    rw [computeDependencyGate_eq] at hopens hblockers
    have hclear := smartGateForQueueTask_clear hopens
    obtain ⟨hprompt, hconfig, hvalidation, -⟩ :=
      (computeTaskBlockers_eq_nil hclear.1 hclear.2).1 hblockers
    exact ⟨⟨hactive, hslots, opens_smartGateForQueueTask.1 hopens, hclosed, hfailed, hblocked,
      hprompt, hconfig, hvalidation, hdecision⟩, hstatus⟩
  · rintro ⟨hfree, hstatus⟩
    have hopens := opens_smartGateForQueueTask.2 hfree.upstream
    have hclear := smartGateForQueueTask_clear hopens
    have hblockers : computeTaskBlockers task (computeDependencyGate task tasks dependencies) =
        [] := by
      rw [computeDependencyGate_eq]
      exact (computeTaskBlockers_eq_nil hclear.1 hclear.2).2
        ⟨hfree.prompt, hfree.config, hfree.validation, hfree.decision⟩
    have hgate : (computeDependencyGate task tasks dependencies).gate.opens = true := by
      rw [computeDependencyGate_eq]
      exact hopens
    exact ⟨hfree.active, (computeHumanQueueStatus_ready hgate hblockers).2
      ⟨⟨hfree.notClosed, hfree.notFailed, hfree.notBlocked, hfree.decision⟩, hstatus⟩,
      hgate, hblockers, hfree.capacity⟩

end QueueModel

namespace Smart

/-- The lifecycles a task can start from. -/
theorem smartLifecycleForQueueTask_startable (hclosed : isTaskClosedSuccessfully task = false)
    (hfailed : isTaskFailed task = false) (hblocked : isTaskBlocked task = false) :
    (smartLifecycleForQueueTask task ≠ .running ∧ smartLifecycleForQueueTask task ≠ .cancelled ∧
        smartLifecycleForQueueTask task ≠ .review) ↔
      task.status ≠ .running ∧ task.status ≠ .cancelled ∧ task.status ≠ .reviewNeeded ∧
        task.status ≠ .completed := by
  simp only [smartLifecycleForQueueTask, hclosed, hfailed, hblocked, Bool.false_eq_true,
    if_false]
  cases task.status <;> simp

theorem computeHumanQueueStatus_ready {input : SmartQueueTaskInput}
    {gate : SmartQueueDependencyGate} (hgate : gate.gate.opens = true)
    (hblockers : input.blockers = []) :
    (computeHumanQueueStatus input gate).status = .ready ↔
      (input.lifecycle ≠ .closed ∧ input.lifecycle ≠ .failed ∧ input.lifecycle ≠ .blocked) ∧
        input.lifecycle ≠ .running ∧ input.lifecycle ≠ .cancelled ∧
          input.lifecycle ≠ .review := by
  have hclear : gate.gate ≠ .failed ∧ gate.gate ≠ .blocked ∧ gate.gate ≠ .waiting := by
    cases hg : gate.gate <;> simp [hg, SmartQueueDependencyGateValue.opens] at hgate ⊢
  simp only [computeHumanQueueStatus, hclear, hblockers, List.find?_nil, if_false]
  cases input.lifecycle <;> simp [humanStatus]

theorem computeTaskEligibility_autoEligible {input : SmartQueueTaskInput}
    {inputs : List SmartQueueTaskInput} {edges : List SmartQueueDependency} {capacity : Bool} :
    (computeTaskEligibility input inputs edges queueState capacity).autoEligibleToStart = true ↔
      (computeHumanQueueStatus
          { input with
            blockers := computeTaskBlockers input
              (computeSmartQueueDependencyGate input inputs edges) }
          (computeSmartQueueDependencyGate input inputs edges)).status = .ready ∧
        (computeSmartQueueDependencyGate input inputs edges).gate.opens = true ∧
        computeTaskBlockers input (computeSmartQueueDependencyGate input inputs edges) = [] ∧
        queueState = .active ∧ capacity = true := by
  rw [opens_eq_true]
  simp only [computeTaskEligibility]
  split_ifs with h₁ h₂ h₃ h₄ h₅ <;> simp_all

theorem computeTaskBlockers_eq_nil {gate : SmartQueueDependencyGate}
    (hfailed : gate.failedTaskIds = []) (hblocked : gate.blockedTaskIds = []) :
    computeTaskBlockers (smartTaskInputForQueueTask task) gate = [] ↔
      trim task.prompt ≠ "" ∧ hasRequiredRunConfig task = true ∧
        task.validationStatus ≠ some .needsReview ∧
        task.coordinatorStatus ≠ some .awaitingCoordinatorReview := by
  have hown : (smartTaskInputForQueueTask task).blockers = smartBlockersForQueueTask task := rfl
  rw [computeTaskBlockers, List.append_eq_nil_iff, dependencyBlockersForGate_eq_nil, hown,
    smartBlockersForQueueTask, ownBlockers_eq_nil]
  simp [hfailed, hblocked]

/-- The images of closed, failed and blocked tasks. -/
theorem smartLifecycleForQueueTask_open :
    (smartLifecycleForQueueTask task ≠ .closed ∧ smartLifecycleForQueueTask task ≠ .failed ∧
        smartLifecycleForQueueTask task ≠ .blocked) ↔
      isTaskClosedSuccessfully task = false ∧ isTaskFailed task = false ∧
        isTaskBlocked task = false := by
  simp only [smartLifecycleForQueueTask]
  split_ifs with h₁ h₂ h₃
  · simp [h₁]
  · simp [h₂]
  · simp [h₃]
  · have hstatus : task.status ≠ .failed := by
      intro heq
      simp [isTaskFailed, heq] at h₂
    cases hs : task.status <;> simp_all

theorem autoEligibleToStart_iff :
    (computeTaskEligibility (smartTaskInputForQueueTask task)
        (tasks.map smartTaskInputForQueueTask) (smartDependenciesForQueueTasks tasks dependencies)
        queueState (decide (0 < availableSlots))).autoEligibleToStart = true ↔
      FreeToStart tasks dependencies task queueState availableSlots ∧
        task.status ≠ .running ∧ task.status ≠ .cancelled ∧ task.status ≠ .reviewNeeded ∧
          task.status ≠ .completed := by
  rw [computeTaskEligibility_autoEligible, decide_eq_true_iff]
  change (Smart.computeHumanQueueStatus { smartTaskInputForQueueTask task with
      blockers := computeTaskBlockers (smartTaskInputForQueueTask task)
        (smartGateForQueueTask tasks dependencies task) }
      (smartGateForQueueTask tasks dependencies task)).status = .ready ∧
    (smartGateForQueueTask tasks dependencies task).gate.opens = true ∧
    computeTaskBlockers (smartTaskInputForQueueTask task)
      (smartGateForQueueTask tasks dependencies task) = [] ∧ _ ↔ _
  constructor
  · rintro ⟨hready, hopens, hblockers, hactive, hslots⟩
    rw [computeHumanQueueStatus_ready hopens hblockers] at hready
    obtain ⟨hclosed, hfailed, hblocked⟩ := smartLifecycleForQueueTask_open.1 hready.1
    have hclear := smartGateForQueueTask_clear hopens
    obtain ⟨hprompt, hconfig, hvalidation, hdecision⟩ :=
      (computeTaskBlockers_eq_nil hclear.1 hclear.2).1 hblockers
    exact ⟨⟨hactive, hslots, opens_smartGateForQueueTask.1 hopens, hclosed, hfailed, hblocked,
      hprompt, hconfig, hvalidation, hdecision⟩,
      (smartLifecycleForQueueTask_startable hclosed hfailed hblocked).1 hready.2⟩
  · rintro ⟨hfree, hstatus⟩
    have hopens := opens_smartGateForQueueTask.2 hfree.upstream
    have hclear := smartGateForQueueTask_clear hopens
    have hblockers := (computeTaskBlockers_eq_nil hclear.1 hclear.2).2
      ⟨hfree.prompt, hfree.config, hfree.validation, hfree.decision⟩
    refine ⟨(computeHumanQueueStatus_ready hopens hblockers).2 ⟨?_, ?_⟩, hopens, hblockers,
      hfree.active, hfree.capacity⟩
    · exact smartLifecycleForQueueTask_open.2
        ⟨hfree.notClosed, hfree.notFailed, hfree.notBlocked⟩
    · exact (smartLifecycleForQueueTask_startable hfree.notClosed hfree.notFailed
        hfree.notBlocked).2 hstatus

end Smart

end

/-- The two models give one answer, and neither starts a task that runs or ran. -/
def EligibilityAgrees (tasks : List AgentQueueTask) (dependencies : List QueueTaskDependency)
    (task : AgentQueueTask) (queueState : SmartQueueState) (availableSlots : ℤ) : Prop :=
  let stored := (QueueModel.computeTaskEligibility task queueState
    (QueueModel.computeDependencyGate task tasks dependencies) availableSlots).canAutoStart
  let derived := (Smart.computeTaskEligibility (smartTaskInputForQueueTask task)
    (tasks.map smartTaskInputForQueueTask) (smartDependenciesForQueueTasks tasks dependencies)
    queueState (decide (0 < availableSlots))).autoEligibleToStart
  (stored = true ↔ derived = true) ∧
    (task.status ∈ [.running, .completed, .reviewNeeded, .failed, .cancelled] →
      stored = false ∧ derived = false)

/-- **The models part exactly at a completed task that nothing else holds back**: the stored
fields know no review for it, its lifecycle does. -/
theorem eligibility_agrees_iff (tasks : List AgentQueueTask)
    (dependencies : List QueueTaskDependency) (task : AgentQueueTask)
    (queueState : SmartQueueState) (availableSlots : ℤ) :
    EligibilityAgrees tasks dependencies task queueState availableSlots ↔
      ¬(task.status = .completed ∧
        FreeToStart tasks dependencies task queueState availableSlots) := by
  simp only [EligibilityAgrees, ← Bool.not_eq_true, QueueModel.canAutoStart_iff,
    Smart.autoEligibleToStart_iff]
  by_cases hfree : FreeToStart tasks dependencies task queueState availableSlots
  · have hfailed : task.status ≠ .failed := by
      intro heq
      simpa [isTaskFailed, heq] using hfree.notFailed
    cases hstatus : task.status <;> simp_all
  · simp [hfree]

def completedTask : AgentQueueTask :=
  { queueItemId := "task-1", title := "Tidy up", prompt := "Tidy up.", status := .completed
    priority := 0, orderIndex := none, dependsOn := none, executionPolicy := some .auto
    executionWorkspace := some "/work", codexExecutable := some "codex", queueTagId := none
    queueTagName := none, validationStatus := none, assignedWorkerId := none
    workerExecutionReports := [], coordinatorStatus := none, closureState := none
    assignedExecutorWidgetId := none, createdAt := "1", updatedAt := "1" }

theorem completed_task_starts_again :
    completedTask ∈ [completedTask] ∧
      ¬EligibilityAgrees [completedTask] [] completedTask .active 1 := by
  refine ⟨by simp, fun hagrees => ?_⟩
  have hstored : (QueueModel.computeTaskEligibility completedTask .active
      (QueueModel.computeDependencyGate completedTask [completedTask] []) 1).canAutoStart =
        true := by
    decide +kernel
  exact absurd hstored (by simp [(hagrees.2 (by simp [completedTask])).1])

end HobitQueue.Frontend
