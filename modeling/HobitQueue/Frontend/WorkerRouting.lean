import HobitQueue.Frontend.QueueRunner
import HobitQueue.Lib.Comparators

/-!
# Routing of items to workers

A worker can take an item when nothing blocks it. What it can take stands in the routing order:
by priority, by the index the operator gave, by age and by id. An item that is assigned asks the
worker it is assigned to.

## Main results

* `consistent_compareQueueRoutingItems` — the routing order is one when the language
  environment's is.
-/

namespace HobitQueue.Frontend

open JavaScript Comparator

inductive WorkerStatus where
  | idle | running | paused | failed
  deriving DecidableEq

/-- A worker with what planning reads of it beside its routing. -/
structure AgentWorker extends AgentWorkerSummary where
  name : String
  status : WorkerStatus
  currentItemId : Option String
  displayOrder : ℤ

/-- `worker.displayOrder` as an order. -/
def compareWorkers (first second : AgentWorker) : ℤ := first.displayOrder - second.displayOrder

def canWorkerTakeQueueItem (locale : Locale) (worker : AgentWorkerSummary) (item : AgentQueueTask)
    (context : AgentQueueRoutingContext) : Bool :=
  (getWorkerItemBlockedReasons locale worker item context).isEmpty

/-- The order in which a worker takes items. -/
def compareQueueRoutingItems (locale : Locale) (first second : AgentQueueTask) : ℤ :=
  orNext (normalizeTaskPriority second.priority - normalizeTaskPriority first.priority) <|
    orNext (orderIndexDifference first.orderIndex second.orderIndex) <|
      orNext (locale.localeCompare first.createdAt second.createdAt)
        (locale.localeCompare first.queueItemId second.queueItemId)

/-- The items that a worker may take, in order. -/
def getEligibleItemsForWorker (locale : Locale) (worker : AgentWorkerSummary)
    (items : List AgentQueueTask) (context : AgentQueueRoutingContext) : List AgentQueueTask :=
  sort (compareQueueRoutingItems locale)
    (items.filter fun item => canWorkerTakeQueueItem locale worker item context)

/-! ## Assigned items -/

structure AgentQueueAssignedWorkerRoutingState where
  assignedWorker : Option AgentWorker
  blockedReasons : List AgentQueueRoutingBlockedReason
  canTake : Bool

/-- `item.assignedWorkerId ?? item.assignedExecutorWidgetId`, where an empty text is none. -/
def assignedWorkerIdOf (item : AgentQueueTask) : Option String :=
  (item.assignedWorkerId.or item.assignedExecutorWidgetId).filter (· ≠ "")

/-- What the assigned worker says. -/
def getAssignedWorkerRoutingState (locale : Locale) (item : AgentQueueTask)
    (workers : List AgentWorker) (context : AgentQueueRoutingContext) :
    AgentQueueAssignedWorkerRoutingState :=
  match assignedWorkerIdOf item with
  | none => { assignedWorker := none, blockedReasons := [], canTake := false }
  | some assignedWorkerId =>
    match workers.find? (·.workerId = assignedWorkerId) with
    | none =>
      { assignedWorker := none
        blockedReasons := [routingBlockedReason .assignedWorkerUnavailable]
        canTake := false }
    | some assignedWorker =>
      let blockedReasons :=
        getWorkerItemBlockedReasons locale assignedWorker.toAgentWorkerSummary item context
      { assignedWorker := some assignedWorker
        blockedReasons := blockedReasons
        canTake := blockedReasons.isEmpty }

/-- The entries of the map by item id. -/
def getAssignedWorkerRoutingStates (locale : Locale) (items : List AgentQueueTask)
    (workers : List AgentWorker) (context : AgentQueueRoutingContext) :
    List (String × AgentQueueAssignedWorkerRoutingState) :=
  items.map fun item =>
    (item.queueItemId, getAssignedWorkerRoutingState locale item workers context)

/-! ## The order -/

theorem consistent_orderIndexDifference : Consistent orderIndexDifference := by
  refine ⟨fun a b => ?_, fun {a b c} hab hbc => ?_⟩
  · cases a <;> cases b <;> simp only [orderIndexDifference] <;> omega
  · cases a <;> cases b <;> cases c <;> simp only [orderIndexDifference] at hab hbc ⊢ <;> omega

theorem consistent_compareQueueRoutingItems {locale : Locale}
    (h : Consistent locale.localeCompare) : Consistent (compareQueueRoutingItems locale) :=
  (consistent_sub.flip.comap fun task : AgentQueueTask =>
      normalizeTaskPriority task.priority).lex <|
    (consistent_orderIndexDifference.comap AgentQueueTask.orderIndex).lex <|
      (h.comap AgentQueueTask.createdAt).lex (h.comap AgentQueueTask.queueItemId)

end HobitQueue.Frontend
