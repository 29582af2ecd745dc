import HobitQueue.Frontend.FlowMapPlaces
import HobitQueue.Frontend.PlanViews
import Mathlib.Order.Bounds.Defs

/-!
# The depths of the flow map

The search gives every task a depth on any dependencies. Where they have no cycle the depth is
one more than the greatest of the depths of the listed dependencies, and the order of the tasks
does not matter.

## Main results

* `depthsAreSound` — the depths of every list of tasks with distinct ids.
* `buildQueueFlowMap_partitions_iff` — when the map shows every task once and layers it soundly.
* `rerun_task_shown_twice` — a task with a report that runs again stands in two places.
-/

namespace HobitQueue.Frontend

open JavaScript

/-- The tasks of both ids are in the list, and the first depends on the second. -/
def DependsOnListed (tasks : List AgentQueueTask) (queueItemId dependencyId : String) : Prop :=
  ∃ task ∈ tasks, ∃ dependency ∈ tasks, task.queueItemId = queueItemId ∧
    dependency.queueItemId = dependencyId ∧
      dependencyId ∈ normalizeTaskDependencies task.dependsOn

/-- The depth of a task without listed dependencies, and of one with them. -/
structure IsTaskDepth (tasks : List AgentQueueTask) (depth : String → ℕ) (task : AgentQueueTask) :
    Prop where
  backlog : (∀ id, ¬ DependsOnListed tasks task.queueItemId id) → depth task.queueItemId = 0
  layered : (∃ id, DependsOnListed tasks task.queueItemId id) →
    IsGreatest {d | ∃ id, DependsOnListed tasks task.queueItemId id ∧ d = depth id + 1}
      (depth task.queueItemId)

/-- Every task has a depth. Without cycles it is the length of the longest chain of listed
dependencies, in whatever order the tasks are. -/
structure DepthsAreSound (tasks : List AgentQueueTask) : Prop where
  total : ∀ task ∈ tasks, (mapGet (dependencyDepths tasks) task.queueItemId).isSome
  layered : Search.Acyclic (DependsOnListed tasks) → ∃ depth : String → ℕ,
    (∀ task ∈ tasks, IsTaskDepth tasks depth task) ∧
    ∀ tasks', tasks'.Perm tasks → ∀ task ∈ tasks,
      mapGet (dependencyDepths tasks') task.queueItemId = some (depth task.queueItemId)

section Listed

variable {tasks : List AgentQueueTask}

/-- The id of a task of the list, and nothing else, finds one of its tasks. -/
theorem listedTask_spec {id : String} :
    (∀ node, listedTask tasks id = some node → node.1.queueItemId = id) ∧
      ((listedTask tasks id).isSome ↔ id ∈ tasks.map (·.queueItemId)) := by
  constructor
  · intro node hnode
    obtain ⟨task, _, hget, rfl⟩ := Option.pmap_eq_some_iff.1 hnode
    obtain ⟨candidate, -, heq⟩ := List.mem_map.1 (mem_of_mapGet hget)
    obtain ⟨hid, rfl⟩ := Prod.mk.inj heq
    exact hid
  · rw [listedTask, Option.isSome_pmap, ← Option.ne_none_iff_isSome, tasksById, Ne,
      mapGet_eq_none]
    simp

theorem listedDependencies_keys (task : Depths.Node tasks) :
    (listedDependencies tasks task).map (·.1.queueItemId) =
      (normalizeTaskDependencies task.1.dependsOn).filter (· ∈ tasks.map (·.queueItemId)) := by
  rw [listedDependencies, List.map_filterMap, ← List.filterMap_eq_filter]
  refine List.filterMap_congr fun id _ => ?_
  obtain ⟨hid, hsome⟩ := @listedTask_spec tasks id
  cases hlisted : listedTask tasks id with
  | none =>
    rw [hlisted] at hsome
    simpa [Option.guard] using hsome
  | some dependency =>
    rw [hlisted] at hsome
    have hmem : id ∈ tasks.map (·.queueItemId) := hsome.1 rfl
    rw [Option.map_some, hid dependency hlisted, Option.guard, if_pos (decide_eq_true hmem)]

/-- The search follows the dependencies between tasks of the list. -/
theorem dependsOnListed_iff {queueItemId dependencyId : String} :
    DependsOnListed tasks queueItemId dependencyId ↔
      Depths.Edge (·.queueItemId) (listedDependencies tasks) queueItemId dependencyId := by
  have hmem : ∀ task : Depths.Node tasks,
      dependencyId ∈ (listedDependencies tasks task).map (·.1.queueItemId) ↔
        dependencyId ∈ normalizeTaskDependencies task.1.dependsOn ∧
          dependencyId ∈ tasks.map (·.queueItemId) := by
    intro task
    rw [listedDependencies_keys, List.mem_filter, decide_eq_true_eq]
  constructor
  · rintro ⟨task, htask, dependency, hdependency, rfl, rfl, hdepends⟩
    have hlisted := (hmem ⟨task, htask⟩).2 ⟨hdepends, List.mem_map_of_mem hdependency⟩
    obtain ⟨next, hnext, hid⟩ := List.mem_map.1 hlisted
    exact ⟨⟨task, htask⟩, next, hnext, rfl, hid⟩
  · rintro ⟨task, next, hnext, rfl, rfl⟩
    have hdepends := ((hmem task).1 (List.mem_map_of_mem hnext)).1
    exact ⟨task.1, task.2, next.1, next.2, rfl, rfl, hdepends⟩

/-- Tasks with the same id are the same, and depend on the same. -/
theorem keyed_listedDependencies (htasks : (tasks.map (·.queueItemId)).Nodup) :
    Depths.Keyed (·.queueItemId) (listedDependencies tasks) := by
  intro task task' hid
  rw [Subtype.ext (List.inj_on_of_nodup_map htasks task.2 task'.2 hid)]

/-- Depths of the tasks are depths of them in any order. -/
theorem isDepth_of_perm {tasks' : List AgentQueueTask} (hperm : tasks'.Perm tasks)
    {depth : String → ℕ} (h : Depths.IsDepth (·.queueItemId) (listedDependencies tasks) depth) :
    Depths.IsDepth (·.queueItemId) (listedDependencies tasks') depth := by
  intro task
  have htask := h ⟨task.1, hperm.mem_iff.1 task.2⟩
  have hids : ∀ id, id ∈ tasks'.map (·.queueItemId) ↔ id ∈ tasks.map (·.queueItemId) :=
    fun id => (hperm.map _).mem_iff
  rw [Depths.greatest_eq_foldl, listedDependencies_keys] at htask ⊢
  simp only [hids]
  exact htask

/-- What the equation of the depths says of a task. -/
theorem isTaskDepth_of_isDepth (htasks : (tasks.map (·.queueItemId)).Nodup) {depth : String → ℕ}
    (h : Depths.IsDepth (·.queueItemId) (listedDependencies tasks) depth)
    {task : AgentQueueTask} (htask : task ∈ tasks) : IsTaskDepth tasks depth task := by
  have hnode := h ⟨task, htask⟩
  have hedge : ∀ id, DependsOnListed tasks task.queueItemId id ↔
      ∃ next ∈ listedDependencies tasks ⟨task, htask⟩, next.1.queueItemId = id := by
    intro id
    rw [dependsOnListed_iff]
    constructor
    · rintro ⟨node, next, hnext, hid, rfl⟩
      rw [keyed_listedDependencies htasks node ⟨task, htask⟩ hid] at hnext
      exact ⟨next, hnext, rfl⟩
    · rintro ⟨next, hnext, rfl⟩
      exact ⟨⟨task, htask⟩, next, hnext, rfl, rfl⟩
  have hcases := @Depths.greatest_cases _ _ (·.queueItemId) _ depth
    (listedDependencies tasks ⟨task, htask⟩) 0
  rw [← hnode] at hcases
  constructor
  · intro hnone
    rcases hcases with hzero | ⟨next, hnext, -⟩
    · exact hzero
    · exact absurd ((hedge _).2 ⟨next, hnext, rfl⟩) (hnone _)
  · rintro ⟨id, hid⟩
    obtain ⟨next, hnext, -⟩ := (hedge id).1 hid
    have hbound : ∀ next ∈ listedDependencies tasks ⟨task, htask⟩,
        depth next.1.queueItemId + 1 ≤ depth task.queueItemId := fun next hnext => h.lt hnext
    constructor
    · rcases hcases with hzero | ⟨other, hother, heq⟩
      · have hle := hbound next hnext
        have hzero : depth task.queueItemId = 0 := hzero
        omega
      · exact ⟨_, (hedge _).2 ⟨other, hother, rfl⟩, heq⟩
    · rintro _ ⟨id, hid, rfl⟩
      obtain ⟨other, hother, rfl⟩ := (hedge id).1 hid
      exact hbound other hother

end Listed

/-- The depths of every list of tasks with distinct ids. -/
theorem depthsAreSound {tasks : List AgentQueueTask} (htasks : (tasks.map (·.queueItemId)).Nodup) :
    DepthsAreSound tasks := by
  constructor
  · intro task htask
    exact Depths.visitEach_knows (List.mem_attach tasks ⟨task, htask⟩)
  · intro hacyclic
    have hedges : Search.Acyclic (Depths.Edge (·.queueItemId) (listedDependencies tasks)) := by
      have hedge : DependsOnListed tasks =
          Depths.Edge (·.queueItemId) (listedDependencies tasks) :=
        funext fun _ => funext fun _ => propext dependsOnListed_iff
      rw [← hedge]
      exact hacyclic
    obtain ⟨depth, hdepth⟩ := Depths.exists_isDepth (keyed_listedDependencies htasks) hedges
    refine ⟨depth, fun task htask => isTaskDepth_of_isDepth htasks hdepth htask, ?_⟩
    intro tasks' hperm task htask
    have htask' := hperm.mem_iff.2 htask
    exact Depths.visitEach_spec (isDepth_of_perm hperm hdepth)
      (List.mem_attach tasks' ⟨task, htask'⟩)

/-- The map shows every task once, and layers the tasks soundly, exactly when the lanes are
exclusive. -/
theorem buildQueueFlowMap_partitions_iff {locale : Locale} {input : BuildQueueFlowMapInput}
    (htasks : (input.tasks.map (·.queueItemId)).Nodup) :
    ((buildQueueFlowMap locale input).shownBlocks.map (·.queueItemId)).Perm
        (input.tasks.map (·.queueItemId)) ∧ DepthsAreSound input.tasks ↔
      LanesAreExclusive input.tasks input.workers := by
  rw [shown_perm_iff htasks]
  exact and_iff_left (depthsAreSound htasks)

/-! ## A task that runs again -/

/-- The states are the ones computed from the tasks and the workers. -/
structure BuildQueueFlowMapInput.IsComputed (locale : Locale) (input : BuildQueueFlowMapInput) :
    Prop where
  dependencyStates : input.dependencyStates = queueDependencyStatesByTask input.tasks
  routingStates : ∃ globalExecutionState, input.routingStates =
    getAssignedWorkerRoutingStates locale input.tasks input.workers
      { globalExecutionState, tasks := input.tasks, pausedQueueTagIds := input.pausedQueueTagIds
        dependencyStates := input.dependencyStates }

/-- A task that runs on a worker, with what an earlier run reported. -/
def rerunTask : AgentQueueTask :=
  { completedTask with
    queueItemId := "queue-1", status := .running, assignedWorkerId := some "worker-1"
    workerExecutionReports :=
      [{ summary := "First attempt.", changedFiles := [], validationResult := none }] }

def runningWorker : AgentWorker :=
  { idleWorker "worker-1" 0 with status := .running, currentItemId := some "queue-1" }

def computedFlowMapInput (locale : Locale) (tasks : List AgentQueueTask)
    (workers : List AgentWorker) : BuildQueueFlowMapInput :=
  { dependencyStates := queueDependencyStatesByTask tasks
    routingStates := getAssignedWorkerRoutingStates locale tasks workers
      { globalExecutionState := .started, pausedQueueTagIds := [], tasks := tasks
        dependencyStates := queueDependencyStatesByTask tasks }
    tasks := tasks
    workers := workers }

/-- A task that runs on a worker for the first time. -/
def firstRunTask : AgentQueueTask :=
  { rerunTask with queueItemId := "queue-3", workerExecutionReports := [] }

/-- A ready task, one that it blocks, one that runs and one with a report. -/
def stagedTasks : List AgentQueueTask :=
  [readyTask, { readyTask with queueItemId := "queue-2", dependsOn := some ["queue-1"] },
    firstRunTask, { rerunTask with queueItemId := "queue-4", status := .reviewNeeded }]

def stagedWorkers : List AgentWorker :=
  [{ runningWorker with currentItemId := some "queue-3" }, idleWorker "worker-2" 1]

/-- Only the running task is worked on, and only by the first worker. -/
theorem lanesAreExclusive_staged : LanesAreExclusive stagedTasks stagedWorkers := by
  have hrunning : ∀ worker task, WorksOn stagedTasks worker task → task = firstRunTask := by
    intro worker task hworks
    have hlisted : task ∈ stagedTasks ∧ task.status = .running := by
      rcases hworks with ⟨hmem, -, -, -, hstatus⟩ | ⟨-, before, after, htasks, hassigned, -⟩
      · exact ⟨hmem, hstatus⟩
      · exact ⟨htasks ▸ by simp, hassigned.1⟩
    have honly : ∀ task ∈ stagedTasks, task.status = .running → task = firstRunTask := by decide
    exact honly task hlisted.1 hlisted.2
  constructor
  · intro worker _ task hworks
    rw [hrunning worker task hworks]
    rfl
  · refine List.pairwise_pair.2 fun task _ hworks => ?_
    rcases hworks with ⟨-, hstatus, -⟩ | ⟨-, -, -, -, hassigned, -⟩
    · cases hstatus
    · rw [hrunning _ task ‹_›] at hassigned
      exact absurd hassigned.2 (by decide)

/-- Four tasks in four places, one of them a layer below another. -/
theorem buildQueueFlowMap_partitions_staged :
    ((buildQueueFlowMap plainLocale (computedFlowMapInput plainLocale stagedTasks
        stagedWorkers)).shownBlocks.map (·.queueItemId)).Perm
        ["queue-1", "queue-2", "queue-3", "queue-4"] ∧
      DepthsAreSound stagedTasks :=
  (@buildQueueFlowMap_partitions_iff plainLocale
    (computedFlowMapInput plainLocale stagedTasks stagedWorkers) (by decide)).2
    lanesAreExclusive_staged

/-- The task stands in the lane of the worker and with the results. -/
theorem rerun_task_shown_twice :
    ¬ ∀ (locale : Locale) (input : BuildQueueFlowMapInput),
      (input.tasks.map (·.queueItemId)).Nodup → input.IsComputed locale →
      ((buildQueueFlowMap locale input).shownBlocks.map (·.queueItemId)).Perm
          (input.tasks.map (·.queueItemId)) ∧ DepthsAreSound input.tasks := by
  intro h
  have hnodup : ([rerunTask].map (·.queueItemId)).Nodup := by decide
  have hperm := (h plainLocale (computedFlowMapInput plainLocale [rerunTask] [runningWorker])
    hnodup ⟨rfl, .started, rfl⟩).1
  have hlanes := (shown_perm_iff hnodup).1 hperm
  have hworks : WorksOn [rerunTask] runningWorker rerunTask :=
    .inl ⟨List.mem_singleton.2 rfl, rfl, rfl, by decide, rfl⟩
  have hreport := hlanes.unreported runningWorker (List.mem_singleton.2 rfl) rerunTask hworks
  exact absurd hreport (by decide)

end HobitQueue.Frontend
