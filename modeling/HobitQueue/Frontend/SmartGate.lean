import HobitQueue.Frontend.Tasks
import HobitQueue.Lib.CycleSearch

/-!
# The smart dependency gate

The gate of a task is computed from the states of its upstream tasks, and the state of an
open upstream task from its own gate in turn. A task that is met again on the way counts as
blocked, so the walk ends on every graph.

## Main results

* `opens_computeSmartQueueDependencyGate` — the gate opens exactly when every upstream task
  is there and closed.
-/

namespace HobitQueue.Frontend

open JavaScript

/-! ## Tasks, dependencies and gates -/

inductive SmartQueueTaskLifecycle where
  | draft | queued | ready | running | review | closed | failed | cancelled | blocked
  deriving DecidableEq

inductive SmartQueueBlockerKind where
  | dependencyFailed | dependencyBlocked | missingConfig | validationRequiresDecision
  | workerUnavailable | dirtyWorktree | missingPrompt | requiresHumanInput
  deriving DecidableEq

structure SmartQueueBlocker where
  kind : SmartQueueBlockerKind
  reason : String
  taskId : Option String
  upstreamTaskId : Option String
  rootCauseTaskIds : List String
  deriving DecidableEq

structure SmartQueueTaskInput where
  taskId : String
  title : String
  lifecycle : SmartQueueTaskLifecycle
  blockers : List SmartQueueBlocker
  deriving DecidableEq

structure SmartQueueDependency where
  upstreamTaskId : String
  downstreamTaskId : String
  deriving DecidableEq

inductive SmartQueueDependencyGateValue where
  | none | waiting | satisfied | failed | blocked
  deriving DecidableEq

structure SmartQueueDependencyGate where
  gate : SmartQueueDependencyGateValue
  upstreamTaskIds : List String
  waitingTaskIds : List String
  satisfiedTaskIds : List String
  failedTaskIds : List String
  blockedTaskIds : List String
  missingTaskIds : List String
  rootFailedTaskIds : List String
  rootBlockedTaskIds : List String
  deriving DecidableEq

inductive SmartQueueDependencyPropagationState where
  | dependencyFailed | dependencyBlocked | waitingDependency | satisfied
  deriving DecidableEq

structure UpstreamDependencyState where
  state : SmartQueueDependencyPropagationState
  rootBlockedTaskIds : List String
  rootFailedTaskIds : List String

def emptyDependencyGate (gate : SmartQueueDependencyGateValue) (upstreamTaskIds : List String) :
    SmartQueueDependencyGate :=
  { gate, upstreamTaskIds
    waitingTaskIds := [], satisfiedTaskIds := [], failedTaskIds := [], blockedTaskIds := []
    missingTaskIds := [], rootFailedTaskIds := [], rootBlockedTaskIds := [] }

/-- The upstream ids of a task, each once, in the order they first occur. -/
def dependencyMap (dependencies : List SmartQueueDependency) (taskId : String) : List String :=
  ((dependencies.filter (·.downstreamTaskId = taskId)).map (·.upstreamTaskId)).foldl setAdd []

/-- A task of the list under its id; the last one where an id occurs twice. -/
def taskById (tasks : List SmartQueueTaskInput) (taskId : String) : Option SmartQueueTaskInput :=
  mapGet (tasks.map fun t => (t.taskId, t)) taskId

theorem mem_of_taskById {tasks : List SmartQueueTaskInput} {taskId : String}
    {t : SmartQueueTaskInput} (h : taskById tasks taskId = some t) : t ∈ tasks := by
  obtain ⟨u, hu, heq⟩ := List.mem_map.1 (mem_of_mapGet h)
  obtain ⟨-, rfl⟩ := Prod.mk.inj heq
  exact hu

/-! ## One task's gate from the states of its upstream tasks -/

/-- The upstream ids sorted by state. -/
structure DependencyBuckets where
  waitingTaskIds : List String := []
  satisfiedTaskIds : List String := []
  failedTaskIds : List String := []
  blockedTaskIds : List String := []
  missingTaskIds : List String := []
  rootFailedTaskIds : List String := []
  rootBlockedTaskIds : List String := []

/-- One turn of the loop; no state means that the task is missing. -/
def DependencyBuckets.add (b : DependencyBuckets) (id : String) :
    Option UpstreamDependencyState → DependencyBuckets
  | none =>
    { b with
      missingTaskIds := b.missingTaskIds ++ [id]
      blockedTaskIds := b.blockedTaskIds ++ [id]
      rootBlockedTaskIds := setAdd b.rootBlockedTaskIds id }
  | some upstream =>
    match upstream.state with
    | .satisfied => { b with satisfiedTaskIds := b.satisfiedTaskIds ++ [id] }
    | .dependencyFailed =>
      { b with
        failedTaskIds := b.failedTaskIds ++ [id]
        rootFailedTaskIds := upstream.rootFailedTaskIds.foldl setAdd b.rootFailedTaskIds }
    | .dependencyBlocked =>
      { b with
        blockedTaskIds := b.blockedTaskIds ++ [id]
        rootBlockedTaskIds :=
          upstream.rootBlockedTaskIds.foldl setAdd (setAdd b.rootBlockedTaskIds id) }
    | .waitingDependency => { b with waitingTaskIds := b.waitingTaskIds ++ [id] }

/-- The gate the buckets stand for, with the roots it reports. -/
def DependencyBuckets.toGate (b : DependencyBuckets) (upstreamTaskIds : List String)
    (gate : SmartQueueDependencyGateValue) (rootBlocked rootFailed : List String) :
    SmartQueueDependencyGate :=
  { gate, upstreamTaskIds
    waitingTaskIds := b.waitingTaskIds
    satisfiedTaskIds := b.satisfiedTaskIds
    failedTaskIds := b.failedTaskIds
    blockedTaskIds := b.blockedTaskIds
    missingTaskIds := b.missingTaskIds
    rootFailedTaskIds := rootFailed
    rootBlockedTaskIds := rootBlocked }

def gateForUpstreams (upstreamTaskIds : List String)
    (stateOf : String → Option UpstreamDependencyState) : SmartQueueDependencyGate :=
  if upstreamTaskIds = [] then emptyDependencyGate .none upstreamTaskIds
  else
    let b := upstreamTaskIds.foldl (fun (b : DependencyBuckets) id => b.add id (stateOf id)) {}
    if b.failedTaskIds ≠ [] then
      b.toGate upstreamTaskIds .failed b.rootBlockedTaskIds b.rootFailedTaskIds
    else if b.blockedTaskIds ≠ [] then
      b.toGate upstreamTaskIds .blocked b.rootBlockedTaskIds b.rootFailedTaskIds
    else if b.waitingTaskIds ≠ [] then b.toGate upstreamTaskIds .waiting [] []
    else b.toGate upstreamTaskIds .satisfied [] []

/-! ## The walk -/

/-- The state of an upstream task of the list; `visiting` are the tasks on the way to it. -/
def computeUpstreamDependencyState (tasks : List SmartQueueTaskInput)
    (upstreamIds : String → List String) (visiting : List String)
    (upstream : SmartQueueTaskInput) (_hmem : upstream ∈ tasks) : UpstreamDependencyState :=
  if upstream.lifecycle = .closed then ⟨.satisfied, [], []⟩
  else if upstream.lifecycle = .failed ∨ upstream.lifecycle = .cancelled then
    ⟨.dependencyFailed, [], [upstream.taskId]⟩
  else if upstream.lifecycle = .blocked then ⟨.dependencyBlocked, [upstream.taskId], []⟩
  else if _hvisit : upstream.taskId ∈ visiting then ⟨.dependencyBlocked, [upstream.taskId], []⟩
  else
    let upstreamGate := gateForUpstreams (upstreamIds upstream.taskId) fun id =>
      match hid : taskById tasks id with
      | none => none
      | some next =>
        some (computeUpstreamDependencyState tasks upstreamIds (upstream.taskId :: visiting) next
          (mem_of_taskById hid))
    if upstreamGate.gate = .failed ∨ upstreamGate.gate = .blocked then
      ⟨.dependencyBlocked, [upstream.taskId], []⟩
    else ⟨.waitingDependency, [], []⟩
termination_by Search.offPath (tasks.map (·.taskId)) visiting
decreasing_by exact Search.offPath_lt _hvisit (List.mem_map_of_mem _hmem)

def computeSmartQueueDependencyGateForTaskId (taskId : String) (tasks : List SmartQueueTaskInput)
    (upstreamIds : String → List String) : SmartQueueDependencyGate :=
  gateForUpstreams (upstreamIds taskId) fun id =>
    match hid : taskById tasks id with
    | none => none
    | some next =>
      some (computeUpstreamDependencyState tasks upstreamIds [] next (mem_of_taskById hid))

/-- The walk over the dependencies of a task. -/
def computeSmartQueueDependencyGate (task : SmartQueueTaskInput)
    (tasks : List SmartQueueTaskInput) (dependencies : List SmartQueueDependency) :
    SmartQueueDependencyGate :=
  computeSmartQueueDependencyGateForTaskId task.taskId tasks (dependencyMap dependencies)

/-- The gate lets a task start. -/
def SmartQueueDependencyGateValue.opens (gate : SmartQueueDependencyGateValue) : Bool :=
  gate == .none || gate == .satisfied

/-! ## When the gate opens -/

theorem computeUpstreamDependencyState_satisfied {tasks : List SmartQueueTaskInput}
    {upstreamIds : String → List String} {visiting : List String} {t : SmartQueueTaskInput}
    {hmem : t ∈ tasks} :
    (computeUpstreamDependencyState tasks upstreamIds visiting t hmem).state = .satisfied ↔
      t.lifecycle = .closed := by
  rw [computeUpstreamDependencyState]
  by_cases hclosed : t.lifecycle = .closed
  · simp [hclosed]
  · simp only [hclosed, if_false, iff_false]
    split_ifs <;> simp

/-- Nothing is put aside exactly when every upstream task is satisfied. -/
theorem add_foldl_clear {stateOf : String → Option UpstreamDependencyState} {ids : List String}
    {b : DependencyBuckets} :
    ((ids.foldl (fun (b : DependencyBuckets) id => b.add id (stateOf id)) b).failedTaskIds = [] ∧
      (ids.foldl (fun (b : DependencyBuckets) id => b.add id (stateOf id)) b).blockedTaskIds = [] ∧
      (ids.foldl (fun (b : DependencyBuckets) id => b.add id (stateOf id)) b).waitingTaskIds = []) ↔
    (b.failedTaskIds = [] ∧ b.blockedTaskIds = [] ∧ b.waitingTaskIds = []) ∧
      ∀ id ∈ ids, ∃ u, stateOf id = some u ∧ u.state = .satisfied := by
  induction ids generalizing b with
  | nil => simp
  | cons id ids ih =>
    rw [List.foldl_cons, ih]
    have hone : ((b.add id (stateOf id)).failedTaskIds = [] ∧
        (b.add id (stateOf id)).blockedTaskIds = [] ∧
        (b.add id (stateOf id)).waitingTaskIds = []) ↔
        (b.failedTaskIds = [] ∧ b.blockedTaskIds = [] ∧ b.waitingTaskIds = []) ∧
          ∃ u, stateOf id = some u ∧ u.state = .satisfied := by
      cases hs : stateOf id with
      | none => simp [DependencyBuckets.add]
      | some u => cases hu : u.state <;> simp [DependencyBuckets.add, hu]
    rw [hone, List.forall_mem_cons, and_assoc]

theorem opens_gateForUpstreams {ids : List String}
    {stateOf : String → Option UpstreamDependencyState} :
    (gateForUpstreams ids stateOf).gate.opens = true ↔
      ∀ id ∈ ids, ∃ u, stateOf id = some u ∧ u.state = .satisfied := by
  have hclear := @add_foldl_clear stateOf ids {}
  simp only [true_and, and_self] at hclear
  rw [← hclear, gateForUpstreams]
  by_cases hids : ids = []
  · simp [hids, emptyDependencyGate, SmartQueueDependencyGateValue.opens]
  · rw [if_neg hids]
    simp only []
    split_ifs with h₁ h₂ h₃ <;>
      simp_all [DependencyBuckets.toGate, SmartQueueDependencyGateValue.opens]

/-- **The gate opens exactly when every upstream task is there and closed.** -/
theorem opens_computeSmartQueueDependencyGate {taskId : String}
    {tasks : List SmartQueueTaskInput} {upstreamIds : String → List String} :
    (computeSmartQueueDependencyGateForTaskId taskId tasks upstreamIds).gate.opens = true ↔
      ∀ id ∈ upstreamIds taskId, ∃ t, taskById tasks id = some t ∧ t.lifecycle = .closed := by
  rw [computeSmartQueueDependencyGateForTaskId, opens_gateForUpstreams]
  refine forall₂_congr fun id _ => ?_
  split
  · rename_i hnone
    simp [hnone]
  · rename_i next hnext
    simp [hnext, computeUpstreamDependencyState_satisfied]

end HobitQueue.Frontend
