import HobitQueue.Frontend.SchedulerPlan

/-!
# The two views of the plan agree

Whether a worker can take an item is one question, which the plan asks twice. The answer does
not depend on the side it is asked from, so the counts agree; and the first item of a worker
stands before its others in the routing order.

## Main results

* `buildAgentQueueSchedulerPlan_views` — they do in every plan.
-/

namespace HobitQueue.Frontend

open JavaScript Comparator

/-- Whether the plan lets a worker take an item. -/
def mayTake (locale : Locale) (input : BuildAgentQueueSchedulerPlanInput) (worker : AgentWorker)
    (task : AgentQueueTask) : Bool :=
  workerIsAvailable (schedulerGlobalState input.globalExecutionState input.tasks) worker &&
    canWorkerTakeQueueItem locale worker.toAgentWorkerSummary task (routingContextOf input)

/-- The view of an item in the plan. -/
def itemView (locale : Locale) (input : BuildAgentQueueSchedulerPlanInput)
    (task : AgentQueueTask) : AgentQueueItemEligibility :=
  itemEligibilityFor locale (schedulerGlobalState input.globalExecutionState input.tasks)
    (routingContextOf input) input.workers task

/-- The view of a worker in the plan. -/
def workerView (locale : Locale) (input : BuildAgentQueueSchedulerPlanInput)
    (worker : AgentWorker) : AgentQueueWorkerPlan :=
  workerPlanFor locale (schedulerGlobalState input.globalExecutionState input.tasks)
    (routingContextOf input) worker

/-- The plan's view of the item lists the worker. -/
def AgentQueueSchedulerPlan.lists (plan : AgentQueueSchedulerPlan) (workerId : String)
    (task : AgentQueueTask) : Prop :=
  ∃ e ∈ plan.itemEligibility, e.queueItemId = task.queueItemId ∧ workerId ∈ e.eligibleWorkerIds

/-- How the view of the workers and the view of the items fit together. -/
structure PlanViewsAgree (locale : Locale) (tasks : List AgentQueueTask)
    (workers : List AgentWorker) (plan : AgentQueueSchedulerPlan) : Prop where
  workerPlans : (plan.workerPlans.map (·.workerId)).Perm (workers.map (·.workerId))
  itemEligibility : plan.itemEligibility.map (·.queueItemId) = tasks.map (·.queueItemId)
  count : ∀ p ∈ plan.workerPlans, p.eligibleItemCount =
    (plan.itemEligibility.filter fun e => decide (p.workerId ∈ e.eligibleWorkerIds)).length
  recommends : ∀ p ∈ plan.workerPlans, p.bestNextItem.isSome ↔ 0 < p.eligibleItemCount
  /-- The recommended item lists the worker and precedes the other items that do. -/
  first : ∀ p ∈ plan.workerPlans, ∀ r, p.bestNextItem = some r → r.workerId = p.workerId ∧
    ∃ before task after, tasks = before ++ task :: after ∧ r.queueItemId = task.queueItemId ∧
      plan.lists p.workerId task ∧
      (∀ t ∈ before, plan.lists p.workerId t → compareQueueRoutingItems locale task t < 0) ∧
      ∀ t ∈ after, plan.lists p.workerId t → compareQueueRoutingItems locale task t ≤ 0
  recommendations : plan.recommendations = plan.workerPlans.filterMap (·.bestNextItem)
  /-- The blocked items are the unfinished ones that no worker is eligible for. -/
  blocked : ∀ id, id ∈ plan.blockedItems.map (·.queueItemId) ↔
    ∃ task ∈ tasks, task.queueItemId = id ∧ isFinalQueueTaskStatus task.status = false ∧
      ∀ e ∈ plan.itemEligibility, e.queueItemId = id → e.eligibleWorkerIds = []
  blockedOnce : (plan.blockedItems.map (·.queueItemId)).Nodup

section Views

variable {locale : Locale} {input : BuildAgentQueueSchedulerPlanInput}

theorem eligibleWorkersFor_eq (task : AgentQueueTask) :
    eligibleWorkersFor locale (schedulerGlobalState input.globalExecutionState input.tasks)
        (routingContextOf input) input.workers task =
      input.workers.filter fun worker => mayTake locale input worker task := by
  unfold eligibleWorkersFor
  split_ifs with hallows
  · refine List.filter_congr fun worker _ => ?_
    rw [mayTake, workerIsAvailable, hallows, canWorkerTakeQueueItem, workerItemReasons]
    by_cases hrunning : worker.status = .running
    · simp [hrunning]
    · simp [hrunning]
  · symm
    rw [List.filter_eq_nil_iff]
    intro worker _
    simp [mayTake, workerIsAvailable, hallows]

theorem eligibleItems_eq (worker : AgentWorker) :
    (if workerIsAvailable (schedulerGlobalState input.globalExecutionState input.tasks) worker then
      getEligibleItemsForWorker locale worker.toAgentWorkerSummary input.tasks
        (routingContextOf input)
    else []) = sort (compareQueueRoutingItems locale)
      (input.tasks.filter fun task => mayTake locale input worker task) := by
  unfold mayTake getEligibleItemsForWorker
  split_ifs with havailable
  · simp only [havailable, Bool.true_and]
  · simp only [Bool.not_eq_true] at havailable
    simp [havailable, sort]

theorem workerView_eq (worker : AgentWorker) :
    (workerView locale input worker).bestNextItem =
      (sort (compareQueueRoutingItems locale)
        (input.tasks.filter fun task => mayTake locale input worker task)).head?.map
          (recommendationFor worker) ∧
    (workerView locale input worker).eligibleItemCount =
      (input.tasks.filter fun task => mayTake locale input worker task).length := by
  have hitems := @eligibleItems_eq locale input worker
  refine ⟨?_, ?_⟩
  · rw [← hitems]
    rfl
  · rw [← @length_sort _ (compareQueueRoutingItems locale), ← hitems]
    rfl

theorem mem_workerPlans {p : AgentQueueWorkerPlan} :
    p ∈ (buildAgentQueueSchedulerPlan locale input).workerPlans ↔
      ∃ worker ∈ input.workers, workerView locale input worker = p := by
  simp only [buildAgentQueueSchedulerPlan, workerView, List.mem_map, mem_sort]

theorem itemEligibility_eq : (buildAgentQueueSchedulerPlan locale input).itemEligibility =
    input.tasks.map (itemView locale input) := rfl

theorem blockedItems_eq : (buildAgentQueueSchedulerPlan locale input).blockedItems =
    ((input.tasks.map (itemView locale input)).filter (isBlockedItem input.tasks)).map
      blockedItemSummary := rfl

variable (hworkers : (input.workers.map (·.workerId)).Nodup)
  (htasks : (input.tasks.map (·.queueItemId)).Nodup)

include hworkers in
/-- The item lists the workers that may take it. -/
theorem mem_eligibleWorkerIds {worker : AgentWorker} (hworker : worker ∈ input.workers)
    (task : AgentQueueTask) :
    worker.workerId ∈ (itemView locale input task).eligibleWorkerIds ↔
      mayTake locale input worker task = true := by
  simp only [itemView, itemEligibilityFor, eligibleWorkersFor_eq, List.mem_map, List.mem_filter]
  constructor
  · rintro ⟨other, ⟨hother, htake⟩, hid⟩
    obtain rfl := List.inj_on_of_nodup_map hworkers hother hworker hid
    exact htake
  · intro htake
    exact ⟨worker, ⟨hworker, htake⟩, rfl⟩

include hworkers htasks in
theorem lists_iff {worker : AgentWorker} (hworker : worker ∈ input.workers)
    {task : AgentQueueTask} (htask : task ∈ input.tasks) :
    (buildAgentQueueSchedulerPlan locale input).lists worker.workerId task ↔
      mayTake locale input worker task = true := by
  rw [← mem_eligibleWorkerIds hworkers hworker]
  constructor
  · rintro ⟨e, he, hid, hlisted⟩
    obtain ⟨other, hother, rfl⟩ := List.mem_map.1 he
    obtain rfl := List.inj_on_of_nodup_map htasks hother htask hid
    exact hlisted
  · intro hlisted
    exact ⟨_, List.mem_map_of_mem htask, rfl, hlisted⟩

include htasks in
theorem taskOfEligibility_eq {task : AgentQueueTask} (htask : task ∈ input.tasks)
    (e : AgentQueueItemEligibility) (he : e.queueItemId = task.queueItemId) :
    taskOfEligibility input.tasks e = some task := by
  unfold taskOfEligibility
  cases hfound : input.tasks.find? (·.queueItemId = e.queueItemId) with
  | none =>
    have hnone := List.find?_eq_none.1 hfound task htask
    simp [he] at hnone
  | some found =>
    have hid : found.queueItemId = task.queueItemId := by
      have hsome := List.find?_some hfound
      rw [decide_eq_true_eq] at hsome
      exact hsome.trans he
    rw [List.inj_on_of_nodup_map htasks (List.mem_of_find?_eq_some hfound) htask hid]

/-- The first item a worker may take, in the routing order and then in the order of the list. -/
theorem first_of_head {worker : AgentWorker} {task : AgentQueueTask}
    (hlocale : Consistent locale.localeCompare)
    (hhead : (sort (compareQueueRoutingItems locale)
      (input.tasks.filter fun task => mayTake locale input worker task)).head? = some task) :
    ∃ before after, input.tasks = before ++ task :: after ∧
      mayTake locale input worker task = true ∧
      (∀ t ∈ before, mayTake locale input worker t = true →
        compareQueueRoutingItems locale task t < 0) ∧
      ∀ t ∈ after, mayTake locale input worker t = true →
        compareQueueRoutingItems locale task t ≤ 0 := by
  obtain ⟨rest, hsort⟩ := List.head?_eq_some_iff.1 hhead
  obtain ⟨before, after, hfilter, hbefore, hafter⟩ :=
    head_sort (consistent_compareQueueRoutingItems hlocale) hsort
  obtain ⟨front, back, htasks, rfl, hback⟩ := List.filter_eq_append_iff.1 hfilter
  obtain ⟨skipped, last, rfl, hskipped, htake, rfl⟩ := List.filter_eq_cons_iff.1 hback
  refine ⟨front ++ skipped, last, by rw [htasks, List.append_assoc], htake, ?_, ?_⟩
  · intro t ht htakes
    rcases List.mem_append.1 ht with hfront | hin
    · exact hbefore t (List.mem_filter.2 ⟨hfront, htakes⟩)
    · exact absurd htakes (hskipped t hin)
  · intro t ht htakes
    exact hafter t (List.mem_filter.2 ⟨ht, htakes⟩)

include htasks in
theorem isBlockedItem_iff {task : AgentQueueTask} (htask : task ∈ input.tasks) :
    isBlockedItem input.tasks (itemView locale input task) = true ↔
      isFinalQueueTaskStatus task.status = false ∧
        (itemView locale input task).eligibleWorkerIds = [] := by
  rw [isBlockedItem, taskOfEligibility_eq htasks htask _ rfl]
  simp [itemView, itemEligibilityFor]

end Views

/-- In every plan over workers and tasks with distinct ids the two views agree. -/
theorem buildAgentQueueSchedulerPlan_views {locale : Locale}
    {input : BuildAgentQueueSchedulerPlanInput} (hlocale : Consistent locale.localeCompare)
    (hworkers : (input.workers.map (·.workerId)).Nodup)
    (htasks : (input.tasks.map (·.queueItemId)).Nodup) :
    PlanViewsAgree locale input.tasks input.workers
      (buildAgentQueueSchedulerPlan locale input) where
  workerPlans := by
    simp only [buildAgentQueueSchedulerPlan, List.map_map]
    exact (sort_perm compareWorkers input.workers).map _
  itemEligibility := by
    rw [itemEligibility_eq, List.map_map]
    rfl
  count := by
    intro p hp
    obtain ⟨worker, hworker, rfl⟩ := mem_workerPlans.1 hp
    rw [(workerView_eq worker).2]
    rw [itemEligibility_eq, List.filter_map, List.length_map]
    refine congrArg List.length (List.filter_congr fun task _ => ?_)
    have hlisted := @mem_eligibleWorkerIds locale _ hworkers _ hworker task
    rw [Bool.eq_iff_iff, ← hlisted, Function.comp_apply, decide_eq_true_eq]
    rfl
  recommends := by
    intro p hp
    obtain ⟨worker, -, rfl⟩ := mem_workerPlans.1 hp
    rw [(workerView_eq worker).1, (workerView_eq worker).2, Option.isSome_map,
      ← @length_sort _ (compareQueueRoutingItems locale), List.isSome_head?,
      List.length_pos_iff]
  first := by
    intro p hp r hr
    obtain ⟨worker, hworker, rfl⟩ := mem_workerPlans.1 hp
    rw [(workerView_eq worker).1, Option.map_eq_some_iff] at hr
    obtain ⟨task, hhead, rfl⟩ := hr
    obtain ⟨before, after, hsplit, htake, hbefore, hafter⟩ := first_of_head hlocale hhead
    have hlists : ∀ t ∈ input.tasks,
        (buildAgentQueueSchedulerPlan locale input).lists worker.workerId t →
          mayTake locale input worker t = true :=
      fun t ht => (lists_iff hworkers htasks hworker ht).1
    have htask : task ∈ input.tasks := by simp [hsplit]
    refine ⟨rfl, before, task, after, hsplit, rfl,
      (lists_iff hworkers htasks hworker htask).2 htake, fun t ht hlisted => ?_,
      fun t ht hlisted => ?_⟩
    · exact hbefore t ht (hlists t (by simp [hsplit, ht]) hlisted)
    · exact hafter t ht (hlists t (by simp [hsplit, ht]) hlisted)
  recommendations := rfl
  blocked := by
    intro id
    rw [blockedItems_eq, itemEligibility_eq]
    constructor
    · intro hid
      obtain ⟨summary, hsummary, rfl⟩ := List.mem_map.1 hid
      obtain ⟨e, he, rfl⟩ := List.mem_map.1 hsummary
      obtain ⟨hview, hblocked⟩ := List.mem_filter.1 he
      obtain ⟨task, htask, rfl⟩ := List.mem_map.1 hview
      obtain ⟨hunfinished, hnone⟩ := (isBlockedItem_iff htasks htask).1 hblocked
      refine ⟨task, htask, rfl, hunfinished, fun e he heq => ?_⟩
      obtain ⟨other, hother, rfl⟩ := List.mem_map.1 he
      obtain rfl := List.inj_on_of_nodup_map htasks hother htask heq
      exact hnone
    · rintro ⟨task, htask, rfl, hunfinished, hnone⟩
      have hview := List.mem_map_of_mem (f := itemView locale input) htask
      have hblocked := (isBlockedItem_iff htasks htask).2 ⟨hunfinished, hnone _ hview rfl⟩
      exact List.mem_map.2 ⟨_, List.mem_map_of_mem (List.mem_filter.2 ⟨hview, hblocked⟩), rfl⟩
  blockedOnce := by
    have hids : (((input.tasks.map (itemView locale input)).filter
        (isBlockedItem input.tasks)).map (·.queueItemId)).Sublist
          (input.tasks.map (·.queueItemId)) := by
      have hsub := (List.filter_sublist (p := isBlockedItem input.tasks) (l := input.tasks.map
        (itemView locale input))).map AgentQueueItemEligibility.queueItemId
      rwa [List.map_map] at hsub
    rw [blockedItems_eq, List.map_map]
    exact htasks.sublist hids

/-! ## Two idle workers and one item -/

def readyTask : AgentQueueTask :=
  { completedTask with queueItemId := "queue-1", status := .ready }

def idleWorker (workerId : String) (displayOrder : ℤ) : AgentWorker :=
  { workerId, enabled := true, scope := .all, name := workerId, status := .idle
    currentItemId := none, displayOrder }

def twoIdleWorkers : BuildAgentQueueSchedulerPlanInput :=
  { globalExecutionState := .started
    tasks := [readyTask]
    workers := [idleWorker "worker-1" 0, idleWorker "worker-2" 1] }

theorem workerView_idleWorker (workerId : String) (displayOrder : ℤ)
    (htake : mayTake plainLocale twoIdleWorkers (idleWorker workerId displayOrder) readyTask) :
    (workerView plainLocale twoIdleWorkers (idleWorker workerId displayOrder)).bestNextItem =
      some (recommendationFor (idleWorker workerId displayOrder) readyTask) := by
  have hfilter : twoIdleWorkers.tasks.filter (fun task =>
      mayTake plainLocale twoIdleWorkers (idleWorker workerId displayOrder) task) =
        [readyTask] := by
    have htasks : twoIdleWorkers.tasks = [readyTask] := rfl
    rw [htasks, List.filter_cons_of_pos htake, List.filter_nil]
  rw [(workerView_eq _).1, hfilter, sort, List.mergeSort_singleton]
  rfl

/-- The same item is recommended to both workers. -/
theorem recommended_to_two_workers :
    ¬ ∀ (locale : Locale) (input : BuildAgentQueueSchedulerPlanInput),
      Consistent locale.localeCompare → (input.workers.map (·.workerId)).Nodup →
      (input.tasks.map (·.queueItemId)).Nodup →
      ((buildAgentQueueSchedulerPlan locale input).recommendations.map (·.queueItemId)).Nodup := by
  intro h
  have hworkers : sort compareWorkers twoIdleWorkers.workers = twoIdleWorkers.workers :=
    List.mergeSort_of_pairwise (by simp [twoIdleWorkers, idleWorker, notAfter, compareWorkers])
  have hplans : (buildAgentQueueSchedulerPlan plainLocale twoIdleWorkers).workerPlans =
      twoIdleWorkers.workers.map (workerView plainLocale twoIdleWorkers) := by
    rw [← hworkers]
    rfl
  have htwice : (buildAgentQueueSchedulerPlan plainLocale twoIdleWorkers).recommendations.map
      (·.queueItemId) = ["queue-1", "queue-1"] := by
    have hrecommendations : (buildAgentQueueSchedulerPlan plainLocale
        twoIdleWorkers).recommendations = (buildAgentQueueSchedulerPlan plainLocale
          twoIdleWorkers).workerPlans.filterMap (·.bestNextItem) := rfl
    have hlist : twoIdleWorkers.workers = [idleWorker "worker-1" 0, idleWorker "worker-2" 1] :=
      rfl
    have hfirst := workerView_idleWorker "worker-1" 0 (by decide +kernel)
    have hsecond := workerView_idleWorker "worker-2" 1 (by decide +kernel)
    rw [hrecommendations, hplans, hlist, List.map_cons, List.map_cons, List.map_nil,
      List.filterMap_cons_some hfirst, List.filterMap_cons_some hsecond]
    rfl
  have hnodup := h plainLocale twoIdleWorkers consistent_ofOrder (by decide) (by decide)
  rw [htwice] at hnodup
  exact absurd hnodup (by decide)

/-- The views of the plan with two idle workers. -/
theorem twoIdleWorkers_views : Consistent plainLocale.localeCompare ∧
    (twoIdleWorkers.workers.map (·.workerId)).Nodup ∧
    (twoIdleWorkers.tasks.map (·.queueItemId)).Nodup ∧
    PlanViewsAgree plainLocale twoIdleWorkers.tasks twoIdleWorkers.workers
      (buildAgentQueueSchedulerPlan plainLocale twoIdleWorkers) :=
  ⟨consistent_ofOrder, by decide, by decide,
    buildAgentQueueSchedulerPlan_views consistent_ofOrder (by decide) (by decide)⟩

end HobitQueue.Frontend
