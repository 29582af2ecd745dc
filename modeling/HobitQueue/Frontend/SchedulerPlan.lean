import HobitQueue.Frontend.WorkerRouting

/-!
# The scheduler's plan

The plan is a dry run. It looks at the Queue twice: for each worker, at the items it could take
and the first of them in the routing order; for each item, at the workers that could take it and
at what keeps the others from it. No worker's recommendation takes an item from another worker.
-/

namespace HobitQueue.Frontend

open JavaScript Comparator

/-! ## Reasons -/

inductive AgentQueueSchedulerBlockedReasonCode where
  | routing (code : AgentQueueRoutingBlockedReasonCode)
  | assignedWorkerDisabled | noAvailableWorker | noWorkerConfigured | workerAlreadyRunning
  deriving DecidableEq

structure AgentQueueSchedulerBlockedReason where
  code : AgentQueueSchedulerBlockedReasonCode
  label : String

def schedulerBlockedReasonLabel : AgentQueueSchedulerBlockedReasonCode → String
  | .assignedWorkerDisabled => "Assigned worker is disabled"
  | .routing .itemAwaitingCoordinatorReview => "Awaiting coordinator review"
  | .routing .itemDependencyGraphInvalid => "Dependency graph is invalid"
  | .routing .itemMissingPrompt => "Missing prompt"
  | .routing .itemValidationInProgress => "Validation is in progress"
  | .noAvailableWorker => "No available worker can take this item"
  | .noWorkerConfigured => "No worker configured"
  | .routing .queueStopped => "Queue is disabled"
  | .routing .queueStopKillRequested => "Stop + kill running requested"
  | .routing .queueTagPaused => "Tag is paused"
  | .workerAlreadyRunning => "Worker is already running an item"
  | .routing .workerDisabled => "Worker is disabled"
  | .routing .workerScopeMismatch => "Worker scoped to another tag"
  | .routing .waitingForDependencies => "Waiting for dependencies"
  | .routing code => (routingBlockedReason code).label

def schedulerReason (code : AgentQueueSchedulerBlockedReasonCode) :
    AgentQueueSchedulerBlockedReason :=
  { code, label := schedulerBlockedReasonLabel code }

def toSchedulerReason (reason : AgentQueueRoutingBlockedReason) :
    AgentQueueSchedulerBlockedReason :=
  schedulerReason (.routing reason.code)

/-- The text of a code. -/
def AgentQueueRoutingBlockedReasonCode.text : AgentQueueRoutingBlockedReasonCode → String
  | assignedWorkerUnavailable => "assigned_worker_unavailable"
  | assignedToAnotherWorker => "assigned_to_another_worker"
  | itemAwaitingCoordinatorReview => "item_awaiting_coordinator_review"
  | itemDependencyGraphInvalid => "item_dependency_graph_invalid"
  | itemMissingPrompt => "item_missing_prompt"
  | itemNotRunnableStatus => "item_not_runnable_status"
  | itemValidationInProgress => "item_validation_in_progress"
  | queueStopKillRequested => "queue_stop_kill_requested"
  | queueStopped => "queue_stopped"
  | queueTagPaused => "queue_tag_paused"
  | workerDisabled => "worker_disabled"
  | workerScopeMismatch => "worker_scope_mismatch"
  | waitingForDependencies => "waiting_for_dependencies"

def AgentQueueSchedulerBlockedReasonCode.text : AgentQueueSchedulerBlockedReasonCode → String
  | routing code => code.text
  | assignedWorkerDisabled => "assigned_worker_disabled"
  | noAvailableWorker => "no_available_worker"
  | noWorkerConfigured => "no_worker_configured"
  | workerAlreadyRunning => "worker_already_running"

def uniqueSchedulerReasons (reasons : List AgentQueueSchedulerBlockedReason) :
    List AgentQueueSchedulerBlockedReason :=
  (reasons.foldl (fun byCode reason => mapSet byCode reason.code reason) []).map (·.2)

/-! ## The global state -/

structure AgentQueueSchedulerGlobalState where
  affectedRunningItemIds : List String
  allowsScheduling : Bool
  code : AgentQueueGlobalExecutionState
  explanation : String
  label : String
  runningItemCount : ℕ

def queueGlobalExecutionStateLabel : AgentQueueGlobalExecutionState → String
  | .started => "Active"
  | .stopKillRequested => "STOP + KILL RUNNING"
  | .stopped => "Disabled"

def queueGlobalExecutionStateAllowsScheduling (state : AgentQueueGlobalExecutionState) : Bool :=
  state == .started

def schedulerGlobalState (globalExecutionState : AgentQueueGlobalExecutionState)
    (tasks : List AgentQueueTask) : AgentQueueSchedulerGlobalState :=
  let affectedRunningItemIds := (tasks.filter (·.status = .running)).map (·.queueItemId)
  { affectedRunningItemIds := affectedRunningItemIds
    allowsScheduling := queueGlobalExecutionStateAllowsScheduling globalExecutionState
    code := globalExecutionState
    explanation :=
      if globalExecutionState = .stopKillRequested then
        "STOP + KILL RUNNING requested. No new work is recommended; affected running items " ++
          "need local executor and coordinator review."
      else if !queueGlobalExecutionStateAllowsScheduling globalExecutionState then
        "Queue is disabled. No new work is recommended."
      else
        "Queue is enabled. Dry-run recommendations show what would run without starting work."
    label := queueGlobalExecutionStateLabel globalExecutionState
    runningItemCount := affectedRunningItemIds.length }

/-! ## The plan of a worker -/

structure AgentQueueSchedulerRecommendation where
  explanation : String
  queueItemId : String
  title : String
  workerId : String
  workerName : String

structure AgentQueueWorkerPlan where
  bestNextItem : Option AgentQueueSchedulerRecommendation
  blockedReasonSummary : Option String
  eligibleItemCount : ℕ
  idleReason : Option String
  isAvailable : Bool
  workerId : String
  workerName : String

section Planning

variable (locale : Locale) (globalState : AgentQueueSchedulerGlobalState)
  (routingContext : AgentQueueRoutingContext)

def workerBlockedReasonSummary (worker : AgentWorker) : String :=
  if !globalState.allowsScheduling then globalState.explanation
  else if !worker.enabled then schedulerBlockedReasonLabel (.routing .workerDisabled)
  else if worker.status = .running then schedulerBlockedReasonLabel .workerAlreadyRunning
  else
    let uniqueReasons := uniqueSchedulerReasons (routingContext.tasks.flatMap fun task =>
      (getWorkerItemBlockedReasons locale worker.toAgentWorkerSummary task routingContext).map
        toSchedulerReason)
    let summary := "; ".intercalate ((uniqueReasons.take 2).map (·.label))
    if summary = "" then "No eligible item" else summary

def workerIdleReason (worker : AgentWorker) : String :=
  if !globalState.allowsScheduling then
    if globalState.code = .stopKillRequested then "STOP + KILL RUNNING requested"
    else "Queue is disabled"
  else if !worker.enabled then "Worker is disabled"
  else if worker.status = .running then "Worker is already running an item"
  else workerBlockedReasonSummary locale globalState routingContext worker

def workerIsAvailable (worker : AgentWorker) : Bool :=
  globalState.allowsScheduling && worker.enabled && worker.status != .running

def recommendationFor (worker : AgentWorker) (task : AgentQueueTask) :
    AgentQueueSchedulerRecommendation :=
  { explanation := worker.name ++ " would take " ++ displayTaskTitle task ++ "."
    queueItemId := task.queueItemId
    title := displayTaskTitle task
    workerId := worker.workerId
    workerName := worker.name }

/-- The plan of a worker. -/
def workerPlanFor (worker : AgentWorker) : AgentQueueWorkerPlan :=
  let isAvailable := workerIsAvailable globalState worker
  let eligibleItems :=
    if isAvailable then
      getEligibleItemsForWorker locale worker.toAgentWorkerSummary routingContext.tasks
        routingContext
    else []
  let bestNextItem := eligibleItems.head?.map (recommendationFor worker)
  { bestNextItem := bestNextItem
    blockedReasonSummary :=
      if bestNextItem.isSome then none
      else some (workerBlockedReasonSummary locale globalState routingContext worker)
    eligibleItemCount := eligibleItems.length
    idleReason :=
      if bestNextItem.isSome then none
      else some (workerIdleReason locale globalState routingContext worker)
    isAvailable := isAvailable
    workerId := worker.workerId
    workerName := worker.name }

/-! ## The view of an item -/

structure AgentQueueItemEligibility where
  blockedReasons : List AgentQueueSchedulerBlockedReason
  eligibleWorkerIds : List String
  eligibleWorkerNames : List String
  isSchedulable : Bool
  queueItemId : String
  title : String

def itemLevelSchedulerReasons (task : AgentQueueTask) (workers : List AgentWorker) :
    List AgentQueueSchedulerBlockedReason :=
  (if workers = [] then [schedulerReason .noWorkerConfigured] else []) ++
    match (assignedWorkerIdOf task).bind fun id => workers.find? (·.workerId = id) with
    | some assignedWorker =>
      if assignedWorker.enabled then [] else [schedulerReason .assignedWorkerDisabled]
    | none => []

/-- What keeps a worker from an item: the reasons of the routing, and that it is running one. -/
def workerItemReasons (task : AgentQueueTask) (worker : AgentWorker) :
    List AgentQueueSchedulerBlockedReason :=
  (getWorkerItemBlockedReasons locale worker.toAgentWorkerSummary task routingContext).map
      toSchedulerReason ++
    if worker.status = .running then [schedulerReason .workerAlreadyRunning] else []

def eligibleWorkersFor (workers : List AgentWorker) (task : AgentQueueTask) : List AgentWorker :=
  if globalState.allowsScheduling then
    workers.filter fun worker => worker.enabled && worker.status != .running &&
      (workerItemReasons locale routingContext task worker).isEmpty
  else []

/-- The view of an item. -/
def itemEligibilityFor (workers : List AgentWorker) (task : AgentQueueTask) :
    AgentQueueItemEligibility :=
  let eligibleWorkers := eligibleWorkersFor locale globalState routingContext workers task
  { blockedReasons := uniqueSchedulerReasons
      (workers.flatMap (workerItemReasons locale routingContext task) ++
        itemLevelSchedulerReasons task workers)
    eligibleWorkerIds := eligibleWorkers.map (·.workerId)
    eligibleWorkerNames := eligibleWorkers.map (·.name)
    isSchedulable := !eligibleWorkers.isEmpty
    queueItemId := task.queueItemId
    title := displayTaskTitle task }

end Planning

/-! ## The plan -/

structure AgentQueueBlockedItemSummary where
  explanation : String
  queueItemId : String
  reasonCodes : List AgentQueueSchedulerBlockedReasonCode
  reasonLabels : List String
  title : String

structure TopBlockedReason where
  code : AgentQueueSchedulerBlockedReasonCode
  count : ℕ
  label : String

structure AgentQueueSchedulerPlan where
  blockedItems : List AgentQueueBlockedItemSummary
  explanation : String
  globalState : AgentQueueSchedulerGlobalState
  itemEligibility : List AgentQueueItemEligibility
  recommendations : List AgentQueueSchedulerRecommendation
  schedulableItemCount : ℕ
  topBlockedReasons : List TopBlockedReason
  unassignedEligibleItems : List AgentQueueItemEligibility
  workerPlans : List AgentQueueWorkerPlan

structure BuildAgentQueueSchedulerPlanInput where
  dependencyStates : Option (List (String × AgentQueueDependencyState)) := none
  globalExecutionState : AgentQueueGlobalExecutionState
  pausedQueueTagIds : List String := []
  tasks : List AgentQueueTask
  workers : List AgentWorker

def isFinalQueueTaskStatus (status : AgentQueueTaskStatus) : Bool :=
  status == .completed || status == .failed || status == .cancelled

def queueDependencyStatesByTask (tasks : List AgentQueueTask) :
    List (String × AgentQueueDependencyState) :=
  tasks.map fun task => (task.queueItemId, getQueueTaskDependencyState task tasks)

def blockedItemSummary (eligibility : AgentQueueItemEligibility) : AgentQueueBlockedItemSummary :=
  { explanation := (eligibility.blockedReasons.head?.map (·.label)).getD
      "No available worker can take this item"
    queueItemId := eligibility.queueItemId
    reasonCodes := eligibility.blockedReasons.map (·.code)
    reasonLabels := eligibility.blockedReasons.map (·.label)
    title := eligibility.title }

/-- How often each first reason occurs: the most frequent three. -/
def topBlockedReasons (locale : Locale) (blockedItems : List AgentQueueBlockedItemSummary) :
    List TopBlockedReason :=
  let counts := blockedItems.foldl (fun counts item =>
    let firstReasonCode := item.reasonCodes.head?.getD .noAvailableWorker
    mapSet counts firstReasonCode ((mapGet counts firstReasonCode).getD 0 + 1)) []
  ((sort (fun first second : AgentQueueSchedulerBlockedReasonCode × ℕ =>
      orNext (second.2 - first.2) (locale.localeCompare first.1.text second.1.text))
    counts).take 3).map fun e =>
      { code := e.1, count := e.2, label := schedulerBlockedReasonLabel e.1 }

def planExplanation (globalState : AgentQueueSchedulerGlobalState) (recommendationCount : ℕ) :
    String :=
  if !globalState.allowsScheduling then
    globalState.explanation ++ " Dry-run only; no work is started."
  else if recommendationCount = 0 then
    "Queue is enabled, but no worker has an eligible next item. Dry-run only; no work is started."
  else
    "Queue is enabled. " ++ toString recommendationCount ++ " worker recommendation" ++
      (if recommendationCount = 1 then "" else "s") ++
      " available. Dry-run only; no work is started."

def routingContextOf (input : BuildAgentQueueSchedulerPlanInput) : AgentQueueRoutingContext :=
  { globalExecutionState := input.globalExecutionState
    pausedQueueTagIds := input.pausedQueueTagIds
    tasks := input.tasks
    dependencyStates := input.dependencyStates.getD (queueDependencyStatesByTask input.tasks) }

/-- `tasks.find((candidate) => candidate.queueItemId === eligibility.queueItemId)`. -/
def taskOfEligibility (tasks : List AgentQueueTask) (eligibility : AgentQueueItemEligibility) :
    Option AgentQueueTask :=
  tasks.find? (·.queueItemId = eligibility.queueItemId)

def isBlockedItem (tasks : List AgentQueueTask) (eligibility : AgentQueueItemEligibility) : Bool :=
  match taskOfEligibility tasks eligibility with
  | some task => !isFinalQueueTaskStatus task.status && !eligibility.isSchedulable
  | none => false

/-- What each worker would take, and the view of each item. -/
def buildAgentQueueSchedulerPlan (locale : Locale) (input : BuildAgentQueueSchedulerPlanInput) :
    AgentQueueSchedulerPlan :=
  let globalState := schedulerGlobalState input.globalExecutionState input.tasks
  let routingContext := routingContextOf input
  let workerPlans := (sort compareWorkers input.workers).map
    (workerPlanFor locale globalState routingContext)
  let itemEligibility := input.tasks.map
    (itemEligibilityFor locale globalState routingContext input.workers)
  let blockedItems := (itemEligibility.filter (isBlockedItem input.tasks)).map blockedItemSummary
  let recommendations := workerPlans.filterMap (·.bestNextItem)
  { blockedItems := blockedItems
    explanation := planExplanation globalState recommendations.length
    globalState := globalState
    itemEligibility := itemEligibility
    recommendations := recommendations
    schedulableItemCount := (itemEligibility.filter (·.isSchedulable)).length
    topBlockedReasons := topBlockedReasons locale blockedItems
    unassignedEligibleItems := itemEligibility.filter fun eligibility =>
      eligibility.isSchedulable &&
        ((taskOfEligibility input.tasks eligibility).bind assignedWorkerIdOf).isNone
    workerPlans := workerPlans }

end HobitQueue.Frontend
