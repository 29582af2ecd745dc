import HobitQueue.Frontend.SchedulerPlan
import HobitQueue.Lib.Depths

/-!
# The flow map

The flow map shows every task in one place of the Queue: the tasks that wait for work in columns
by the depth of their dependencies, those that are worked on in the lanes of the executors, and
those with results in groups by tag. What stands where is decided by a zone each task has; the
lanes are filled from the side of the workers.
-/

namespace HobitQueue.Frontend

open JavaScript Comparator

/-! ## Blocks -/

inductive QueueFlowPrimaryZone where
  | blocked | executor | results | waiting | work
  deriving DecidableEq

/-- What the map shows of a task, before its zone. -/
structure QueueFlowItem where
  assignedWorkerLabel : Option String
  blockedReasons : List String
  dependencyStatus : AgentQueueDependencyStatus
  dependsOn : List String
  hasWorkerReport : Bool
  coordinatorStatus : AgentQueueCoordinatorStatus
  queueItemId : String
  queueTagId : String
  queueTagName : String
  status : AgentQueueTaskStatus
  routingBlockedReasonCodes : List AgentQueueRoutingBlockedReasonCode
  title : String

structure QueueFlowItemBlock extends QueueFlowItem where
  primaryZone : QueueFlowPrimaryZone

def hasWorkerReport (task : AgentQueueTask) : Bool := !task.workerExecutionReports.isEmpty

def realBlockerReasonCodes : List AgentQueueRoutingBlockedReasonCode :=
  [.assignedToAnotherWorker, .itemAwaitingCoordinatorReview, .itemDependencyGraphInvalid,
    .queueTagPaused, .workerDisabled, .workerScopeMismatch, .waitingForDependencies]

def waitingReasonCodes : List AgentQueueRoutingBlockedReasonCode :=
  [.assignedWorkerUnavailable, .itemMissingPrompt, .itemNotRunnableStatus,
    .itemValidationInProgress, .queueStopKillRequested, .queueStopped]

def isExecutorFlowBlock (item : QueueFlowItem) : Bool := item.status == .running

def isBlockedFlowBlock (item : QueueFlowItem) : Bool :=
  item.coordinatorStatus == .blocked ||
    coordinatorStatusBlocksNewWork (some item.coordinatorStatus) ||
    item.dependencyStatus != .ready ||
    item.routingBlockedReasonCodes.any fun code => realBlockerReasonCodes.contains code

def isWaitingFlowBlock (item : QueueFlowItem) : Bool :=
  item.status == .draft ||
    item.routingBlockedReasonCodes.any fun code => waitingReasonCodes.contains code

/-- The zone of a task. -/
def queueFlowPrimaryZone (item : QueueFlowItem) : QueueFlowPrimaryZone :=
  if isFinalQueueTaskStatus item.status || item.hasWorkerReport then .results
  else if isExecutorFlowBlock item then .executor
  else if isBlockedFlowBlock item then .blocked
  else if isWaitingFlowBlock item then .waiting
  else .work

def queueDependencyBlockedSummary (dependencyState : AgentQueueDependencyState) : String :=
  if dependencyState.status = .ready then "Dependencies ready."
  else
    let blockedBy := ", ".intercalate (dependencyState.blockedBy.map (·.title))
    if blockedBy = "" then "Dependencies are blocked." else "Blocked by: " ++ blockedBy

/-- The reasons of a worker that cannot take the item. -/
def routingBlockedReasons (routingState : Option AgentQueueAssignedWorkerRoutingState) :
    List AgentQueueRoutingBlockedReason :=
  match routingState with
  | some state => if state.canTake then [] else state.blockedReasons
  | none => []

/-- The block of a task. -/
def queueFlowItemBlock (locale : Locale) (dependencyState : Option AgentQueueDependencyState)
    (pausedQueueTagIds : List String)
    (routingState : Option AgentQueueAssignedWorkerRoutingState) (task : AgentQueueTask) :
    QueueFlowItemBlock :=
  let queueTag := normalizeQueueTag locale task
  let normalizedDependencyState := dependencyState.getD
    { blockedBy := [], dependsOn := normalizeTaskDependencies task.dependsOn, status := .ready }
  let routingReasons := routingBlockedReasons routingState
  let block : QueueFlowItem :=
    { assignedWorkerLabel := (routingState.bind (·.assignedWorker)).map (·.name)
      blockedReasons :=
        ((if pausedQueueTagIds.contains queueTag.queueTagId then ["Queue tag is paused"] else []) ++
          (if normalizedDependencyState.dependsOn ≠ [] ∧ normalizedDependencyState.status ≠ .ready
            then [queueDependencyBlockedSummary normalizedDependencyState] else []) ++
          (routingReasons.head?.map (·.label)).toList).filter (· ≠ "")
      dependencyStatus := normalizedDependencyState.status
      dependsOn := normalizedDependencyState.dependsOn
      hasWorkerReport := hasWorkerReport task
      coordinatorStatus := normalizeCoordinatorStatus task.coordinatorStatus
      queueItemId := task.queueItemId
      queueTagId := queueTag.queueTagId
      queueTagName := queueTag.queueTagName
      status := task.status
      routingBlockedReasonCodes := routingReasons.map (·.code)
      title := displayTaskTitle task }
  { block with primaryZone := queueFlowPrimaryZone block }

/-! ## Groups -/

structure QueueFlowGroup where
  id : String
  items : List QueueFlowItemBlock
  queueTagId : String
  queueTagName : String

/-- A block joins the group of its tag, or starts it. -/
def addToGroup (groups : List QueueFlowGroup) (block : QueueFlowItemBlock) : List QueueFlowGroup :=
  match groups with
  | [] =>
    [{ id := "tag-" ++ block.queueTagId
       items := [block]
       queueTagId := block.queueTagId
       queueTagName := block.queueTagName }]
  | group :: rest =>
    if group.queueTagId = block.queueTagId then
      { group with items := group.items ++ [block] } :: rest
    else group :: addToGroup rest block

def groupBlocksByTag (locale : Locale) (blocks : List QueueFlowItemBlock) : List QueueFlowGroup :=
  sort (fun first second => locale.localeCompare first.queueTagName second.queueTagName)
    (blocks.foldl addToGroup [])

/-! ## Depths -/

/-- The task of an id, with the fact that it is one of the list. -/
def listedTask (tasks : List AgentQueueTask) (queueItemId : String) : Option (Depths.Node tasks) :=
  (tasksById tasks queueItemId).pmap (fun task h => ⟨task, h⟩) fun task h => by
    obtain ⟨candidate, hcandidate, heq⟩ := List.mem_map.1 (mem_of_mapGet h)
    rw [← (Prod.mk.inj heq).2]
    exact hcandidate

/-- The tasks of the list that a task depends on. -/
def listedDependencies (tasks : List AgentQueueTask) (task : Depths.Node tasks) :
    List (Depths.Node tasks) :=
  (normalizeTaskDependencies task.1.dependsOn).filterMap (listedTask tasks)

/-- The entries of the map by item id. -/
def dependencyDepths (tasks : List AgentQueueTask) : List (String × ℕ) :=
  Depths.visitEach (·.queueItemId) (listedDependencies tasks) tasks.attach

/-- `depths.get(task.queueItemId) ?? 0`. -/
def depthIn (depths : List (String × ℕ)) (task : AgentQueueTask) : ℕ :=
  (mapGet depths task.queueItemId).getD 0

/-! ## Columns -/

structure QueueFlowBarrier where
  afterDepth : ℕ
  blockedItemIds : List String
  blockedSummary : String
  blockingItemIds : List String
  blockingSummary : String
  id : String
  label : String

structure QueueFlowColumn where
  barriersAfter : List QueueFlowBarrier
  depth : ℕ
  groups : List QueueFlowGroup
  id : String
  label : String

def compactTitleSummary (fallback : String) (totalCount : ℕ) (visibleTitles : List String) :
    String :=
  if visibleTitles = [] then fallback
  else if visibleTitles.length < totalCount then
    ", ".intercalate visibleTitles ++ " and " ++
      toString (totalCount - visibleTitles.length) ++ " more"
  else ", ".intercalate visibleTitles

/-- The titles of the first three items that have one. -/
def visibleTitles (itemBlocksById : String → Option QueueFlowItemBlock) (ids : List String) :
    List String :=
  ((ids.filterMap fun id => (itemBlocksById id).map (·.title)).filter (· ≠ "")).take 3

/-- The barrier between two layers of tasks. -/
def barrierAfterDepth (currentDepth : ℕ) (depths : List (String × ℕ))
    (itemBlocksById : String → Option QueueFlowItemBlock) (nextDepth : Option ℕ)
    (tasks : List AgentQueueTask) : List QueueFlowBarrier :=
  match nextDepth with
  | none => []
  | some nextDepth =>
    let currentLayerItemIds :=
      (tasks.filter (depthIn depths · = currentDepth)).map (·.queueItemId)
    let layerDependencies (task : AgentQueueTask) :=
      (normalizeTaskDependencies task.dependsOn).filter (· ∈ currentLayerItemIds)
    let blockedTasks := tasks.filter fun task =>
      depthIn depths task = nextDepth ∧ layerDependencies task ≠ []
    let blockedItemIds := blockedTasks.map (·.queueItemId)
    let blockingItemIds := (blockedTasks.flatMap layerDependencies).foldl setAdd []
    if blockedItemIds = [] ∨ blockingItemIds = [] then []
    else
      [{ afterDepth := currentDepth
         blockedItemIds := blockedItemIds
         blockedSummary := compactTitleSummary
           ("Dependency lane " ++ toString nextDepth ++ " work") blockedItemIds.length
           (visibleTitles itemBlocksById blockedItemIds)
         blockingItemIds := blockingItemIds
         blockingSummary := compactTitleSummary
           ("Backlog lane " ++ toString currentDepth ++ " work") blockingItemIds.length
           (visibleTitles itemBlocksById blockingItemIds)
         id := "barrier-" ++ toString currentDepth ++ "-" ++ toString nextDepth
         label := "Dependency barrier" }]

def filterFlowColumns (columns : List QueueFlowColumn) (itemPredicate : QueueFlowItemBlock → Bool)
    (includeMatchingBarriers : Bool) : List QueueFlowColumn :=
  (columns.map fun column =>
    let groups := (column.groups.map fun group =>
      { group with items := group.items.filter itemPredicate }).filter (·.items ≠ [])
    let itemIds := groups.flatMap fun group => group.items.map (·.queueItemId)
    { column with
      barriersAfter :=
        if includeMatchingBarriers then
          column.barriersAfter.filter fun barrier => barrier.blockedItemIds.any (· ∈ itemIds)
        else []
      groups := groups }).filter (·.groups ≠ [])

def isIntakeFlowZone (zone : Option QueueFlowPrimaryZone) : Bool :=
  zone == some .blocked || zone == some .waiting || zone == some .work

/-! ## Lanes -/

structure QueueExecutorLane where
  activeItem : Option QueueFlowItemBlock
  idleReason : Option String
  id : String
  isWorking : Bool
  label : String
  nextItemTitle : Option String
  reviewMessage : Option String
  status : WorkerStatus
  workerId : String

/-- The running task that a running worker reports as its current one. -/
def currentTaskOf (tasks : List AgentQueueTask) (worker : AgentWorker) : Option AgentQueueTask :=
  if worker.status = .running then
    (worker.currentItemId.filter (· ≠ "")).bind fun currentItemId =>
      tasks.find? fun task => task.queueItemId = currentItemId ∧ task.status = .running
  else none

/-- The current task of a worker, and else the first running one assigned to it. -/
def runningTaskForWorker (tasks : List AgentQueueTask) (worker : AgentWorker) :
    Option AgentQueueTask :=
  (currentTaskOf tasks worker).or (tasks.find? fun task => task.status = .running ∧
    (task.assignedWorkerId = some worker.workerId ∨
      task.assignedExecutorWidgetId = some worker.workerId))

def reviewMessageFor (schedulerPlan : Option AgentQueueSchedulerPlan)
    (activeItem : Option QueueFlowItemBlock) : Option String :=
  if activeItem.isSome ∧ schedulerPlan.map (·.globalState.code) = some .stopKillRequested then
    some "Termination requested / coordinator review needed"
  else none

section Lanes

variable (itemBlocksById : String → Option QueueFlowItemBlock)
  (schedulerPlan : Option AgentQueueSchedulerPlan) (tasks : List AgentQueueTask)

def laneOfWorker (worker : AgentWorker) : QueueExecutorLane :=
  let activeItem := (runningTaskForWorker tasks worker).bind fun runningTask =>
    itemBlocksById runningTask.queueItemId
  let workerPlan := schedulerPlan.bind fun plan =>
    plan.workerPlans.find? (·.workerId = worker.workerId)
  { activeItem := activeItem
    idleReason := workerPlan.bind (·.idleReason)
    id := "executor-" ++ worker.workerId
    isWorking := activeItem.isSome
    label := worker.name
    nextItemTitle := (workerPlan.bind (·.bestNextItem)).map (·.title)
    reviewMessage := reviewMessageFor schedulerPlan activeItem
    status := worker.status
    workerId := worker.workerId }

def laneOfRunningTask (task : AgentQueueTask) : QueueExecutorLane :=
  let activeItem := itemBlocksById task.queueItemId
  { activeItem := activeItem
    idleReason := none
    id := "executor-running-" ++ task.queueItemId
    isWorking := activeItem.isSome
    label := (activeItem.bind (·.assignedWorkerLabel)).getD "Working executor"
    nextItemTitle := none
    reviewMessage := reviewMessageFor schedulerPlan activeItem
    status := .running
    workerId := (task.assignedWorkerId.or task.assignedExecutorWidgetId).getD
      ("running-" ++ task.queueItemId) }

/-- The lanes of the workers, and of the tasks that are worked on and in none of them. -/
def executorLanes (locale : Locale) (workers : List AgentWorker) : List QueueExecutorLane :=
  let lanes := (sort compareWorkers workers).map (laneOfWorker itemBlocksById schedulerPlan tasks)
  let renderedExecutorItemIds := lanes.filterMap fun lane => lane.activeItem.map (·.queueItemId)
  let unmatched := tasks.filter fun task =>
    (itemBlocksById task.queueItemId).map (·.primaryZone) = some .executor ∧
      task.queueItemId ∉ renderedExecutorItemIds
  lanes ++ (sort (compareQueueRoutingItems locale) unmatched).map
    (laneOfRunningTask itemBlocksById schedulerPlan)

end Lanes

/-! ## The map -/

structure QueueFlowMap where
  blockedColumns : List QueueFlowColumn
  columns : List QueueFlowColumn
  executorLanes : List QueueExecutorLane
  resultGroups : List QueueFlowGroup
  waitingColumns : List QueueFlowColumn
  workColumns : List QueueFlowColumn

structure BuildQueueFlowMapInput where
  dependencyStates : List (String × AgentQueueDependencyState)
  pausedQueueTagIds : List String := []
  routingStates : List (String × AgentQueueAssignedWorkerRoutingState)
  schedulerPlan : Option AgentQueueSchedulerPlan := none
  tasks : List AgentQueueTask
  workers : List AgentWorker

def flowBlockOf (locale : Locale) (input : BuildQueueFlowMapInput) (task : AgentQueueTask) :
    QueueFlowItemBlock :=
  queueFlowItemBlock locale (mapGet input.dependencyStates task.queueItemId)
    input.pausedQueueTagIds (mapGet input.routingStates task.queueItemId) task

def itemBlocksById (locale : Locale) (input : BuildQueueFlowMapInput) (queueItemId : String) :
    Option QueueFlowItemBlock :=
  mapGet (input.tasks.map fun task => (task.queueItemId, flowBlockOf locale input task)) queueItemId

/-- The zone of a task of the list. -/
def zoneById (locale : Locale) (input : BuildQueueFlowMapInput) (task : AgentQueueTask) :
    Option QueueFlowPrimaryZone :=
  (itemBlocksById locale input task.queueItemId).map (·.primaryZone)

/-- The depths of the tasks that wait for work, each once and in order. -/
def activeDepthsOf (depths : List (String × ℕ)) (activeTasks : List AgentQueueTask) : List ℕ :=
  sort (fun first second : ℕ => (first : ℤ) - second)
    ((activeTasks.map (depthIn depths)).foldl setAdd [])

def flowColumn (locale : Locale) (input : BuildQueueFlowMapInput) (depths : List (String × ℕ))
    (activeTasks : List AgentQueueTask) (depth : ℕ) (nextDepth : Option ℕ) : QueueFlowColumn :=
  let layerTasks := sort (compareQueueRoutingItems locale)
    (activeTasks.filter (depthIn depths · = depth))
  { barriersAfter := barrierAfterDepth depth depths (itemBlocksById locale input) nextDepth
      activeTasks
    depth := depth
    groups := groupBlocksByTag locale
      (layerTasks.filterMap fun task => itemBlocksById locale input task.queueItemId)
    id := "layer-" ++ toString depth
    label := if depth = 0 then "Backlog lane" else "Dependency lane " ++ toString depth }

/-- The zones of the map, with the blocks in each. -/
def buildQueueFlowMap (locale : Locale) (input : BuildQueueFlowMapInput) : QueueFlowMap :=
  let activeTasks := input.tasks.filter fun task => isIntakeFlowZone (zoneById locale input task)
  let resultTasks := input.tasks.filter fun task => zoneById locale input task = some .results
  let depths := dependencyDepths input.tasks
  let activeDepths := activeDepthsOf depths activeTasks
  let columns := activeDepths.mapIdx fun index depth =>
    flowColumn locale input depths activeTasks depth activeDepths[index + 1]?
  { blockedColumns := filterFlowColumns columns (·.primaryZone = .blocked) true
    columns := columns
    executorLanes := executorLanes (itemBlocksById locale input) input.schedulerPlan input.tasks
      locale input.workers
    resultGroups := (groupBlocksByTag locale
      ((sort (compareQueueRoutingItems locale) resultTasks).filterMap fun task =>
        itemBlocksById locale input task.queueItemId)).map fun group =>
          { group with id := "results-" ++ group.queueTagId }
    waitingColumns := filterFlowColumns columns (·.primaryZone = .waiting) false
    workColumns := filterFlowColumns columns (·.primaryZone = .work) false }

end HobitQueue.Frontend
