import HobitQueue.Frontend.FlowMap

/-!
# Where the flow map shows a task

The columns and the result groups follow the zones of the tasks, so that each task stands in one
of them or belongs into a lane. The lanes follow the workers. They agree with the zones when no
two workers work on the same task and none works on a task with a report.

## Main results

* `shown_perm_iff` — every task is shown once exactly when the lanes are exclusive.
-/

namespace HobitQueue.Frontend

open JavaScript Comparator

/-! ## Blocks of the map -/

def blocksOfColumns (columns : List QueueFlowColumn) : List QueueFlowItemBlock :=
  columns.flatMap fun column => column.groups.flatMap (·.items)

/-- The blocks of the work, waiting and blocked columns, of the lanes and of the results. -/
def QueueFlowMap.shownBlocks (map : QueueFlowMap) : List QueueFlowItemBlock :=
  blocksOfColumns map.workColumns ++ blocksOfColumns map.waitingColumns ++
    blocksOfColumns map.blockedColumns ++ map.executorLanes.filterMap (·.activeItem) ++
    map.resultGroups.flatMap (·.items)

theorem flatMap_filter_ne_nil {α β : Type*} (l : List α) (f : α → List β) (p : α → Bool)
    (h : ∀ a ∈ l, p a = false → f a = []) : (l.filter p).flatMap f = l.flatMap f := by
  induction l with
  | nil => rfl
  | cons a l ih =>
    have hrest := ih fun b hb => h b (List.mem_cons_of_mem a hb)
    cases hp : p a with
    | true => rw [List.filter_cons_of_pos hp, List.flatMap_cons, List.flatMap_cons, hrest]
    | false =>
      rw [List.filter_cons_of_neg (by simp [hp]), List.flatMap_cons, h a List.mem_cons_self hp,
        List.nil_append, hrest]

/-- Filtering the columns filters their blocks. -/
theorem blocksOfColumns_filterFlowColumns (columns : List QueueFlowColumn)
    (itemPredicate : QueueFlowItemBlock → Bool) (includeMatchingBarriers : Bool) :
    blocksOfColumns (filterFlowColumns columns itemPredicate includeMatchingBarriers) =
      (blocksOfColumns columns).filter itemPredicate := by
  unfold blocksOfColumns filterFlowColumns
  rw [flatMap_filter_ne_nil]
  · rw [List.flatMap_map, List.filter_flatMap]
    refine congrArg (List.flatMap · columns) (funext fun column => ?_)
    rw [flatMap_filter_ne_nil]
    · rw [List.flatMap_map, List.filter_flatMap]
    · intro group _ hempty
      simpa using hempty
  · intro column _ hempty
    have hnil : column.groups = [] := by simpa using hempty
    rw [hnil, List.flatMap_nil]

/-- Grouping keeps the blocks. -/
theorem addToGroup_perm (groups : List QueueFlowGroup) (block : QueueFlowItemBlock) :
    ((addToGroup groups block).flatMap (·.items)).Perm (groups.flatMap (·.items) ++ [block]) := by
  induction groups with
  | nil => simp [addToGroup]
  | cons group rest ih =>
    rw [addToGroup]
    split_ifs with htag
    · rw [List.flatMap_cons, List.flatMap_cons, List.append_assoc, List.append_assoc]
      exact (List.perm_append_comm).append_left _
    · rw [List.flatMap_cons, List.flatMap_cons, List.append_assoc]
      exact ih.append_left _

theorem groupBlocksByTag_perm (locale : Locale) (blocks : List QueueFlowItemBlock) :
    ((groupBlocksByTag locale blocks).flatMap (·.items)).Perm blocks := by
  have hfold : ∀ (blocks : List QueueFlowItemBlock) (groups : List QueueFlowGroup),
      ((blocks.foldl addToGroup groups).flatMap (·.items)).Perm
        (groups.flatMap (·.items) ++ blocks) := by
    intro blocks
    induction blocks with
    | nil => intro groups; simp
    | cons block rest ih =>
      intro groups
      have hrest := ih (addToGroup groups block)
      have hblock := (addToGroup_perm groups block).append_right rest
      rw [List.append_assoc, List.singleton_append] at hblock
      exact hrest.trans hblock
  have hsorted := (sort_perm (fun first second : QueueFlowGroup =>
    locale.localeCompare first.queueTagName second.queueTagName)
      (blocks.foldl addToGroup [])).flatMap_right (·.items)
  exact hsorted.trans (hfold blocks [])

theorem flatMap_mapIdx {α β γ : Type*} (l : List α) (g : ℕ → α → β) (f : β → List γ)
    (h : α → List γ) (hg : ∀ i a, f (g i a) = h a) : (l.mapIdx g).flatMap f = l.flatMap h := by
  induction l generalizing g with
  | nil => rfl
  | cons a l ih =>
    rw [List.mapIdx_cons, List.flatMap_cons, List.flatMap_cons, hg, ih _ fun i a => hg (i + 1) a]

theorem nodup_foldl_setAdd {α : Type*} [DecidableEq α] {values more : List α}
    (h : values.Nodup) : (more.foldl setAdd values).Nodup := by
  induction more generalizing values with
  | nil => exact h
  | cons value more ih =>
    refine ih ?_
    unfold setAdd
    split_ifs with hmem
    · exact h
    · exact List.nodup_append.2 ⟨h, List.nodup_singleton value, fun a ha b hb => by
        rintro rfl
        rw [List.mem_singleton.1 hb] at ha
        exact hmem ha⟩

/-- Layers by a key that together have every key. -/
theorem flatMap_filter_perm {α κ : Type*} [DecidableEq κ] (l : List α) (key : α → κ) {keys : List κ}
    (hnodup : keys.Nodup) (hkeys : ∀ a ∈ l, key a ∈ keys) :
    (keys.flatMap fun k => l.filter (key · = k)).Perm l := by
  induction keys generalizing l with
  | nil =>
    have hnil : l = [] := List.eq_nil_iff_forall_not_mem.2 fun a ha => by simpa using hkeys a ha
    simp [hnil]
  | cons k keys ih =>
    obtain ⟨hk, hrest⟩ := List.nodup_cons.1 hnodup
    have hothers := ih (l.filter (key · ≠ k)) hrest fun a ha => by
      obtain ⟨hal, hne⟩ := List.mem_filter.1 ha
      have hmem := hkeys a hal
      simp only [ne_eq, decide_not, Bool.not_eq_true', decide_eq_false_iff_not] at hne
      exact (List.mem_cons.1 hmem).resolve_left hne
    have hsame : keys.flatMap (fun j => (l.filter (key · ≠ k)).filter (key · = j)) =
        keys.flatMap fun j => l.filter (key · = j) := by
      refine List.flatMap_congr fun j hj => ?_
      rw [List.filter_filter]
      refine List.filter_congr fun a _ => ?_
      have hjk : j ≠ k := fun heq => hk (heq ▸ hj)
      by_cases haj : key a = j
      · simp [haj, hjk]
      · simp [haj]
    rw [hsame] at hothers
    rw [List.flatMap_cons]
    refine (hothers.append_left _).trans ?_
    have hsplit := List.filter_append_perm (key · = k) l
    simpa using hsplit

/-! ## Zones -/

section Zones

variable {locale : Locale} {input : BuildQueueFlowMapInput}

/-- The tasks of a zone. -/
def tasksInZone (locale : Locale) (input : BuildQueueFlowMapInput) (zone : QueueFlowPrimaryZone) :
    List AgentQueueTask :=
  input.tasks.filter fun task => (flowBlockOf locale input task).primaryZone = zone

/-- A task is shown with its results when it is finished or has a report, and in a lane when it
runs without one. -/
theorem primaryZone_flowBlockOf (task : AgentQueueTask) :
    (flowBlockOf locale input task).primaryZone = .executor ↔
      task.status = .running ∧ hasWorkerReport task = false := by
  have hitem : (flowBlockOf locale input task).primaryZone =
      queueFlowPrimaryZone (flowBlockOf locale input task).toQueueFlowItem := rfl
  have hstatus : (flowBlockOf locale input task).status = task.status := rfl
  have hreport : (flowBlockOf locale input task).hasWorkerReport = hasWorkerReport task := rfl
  rw [hitem, queueFlowPrimaryZone, isExecutorFlowBlock, hstatus, hreport]
  by_cases hrunning : task.status = .running
  · cases hasWorkerReport task <;> simp [hrunning, isFinalQueueTaskStatus]
  · simp only [hrunning, false_and, iff_false, beq_iff_eq, if_false]
    split_ifs <;> simp

variable (htasks : (input.tasks.map (·.queueItemId)).Nodup)

include htasks

theorem itemBlocksById_eq {task : AgentQueueTask} (htask : task ∈ input.tasks) :
    itemBlocksById locale input task.queueItemId = some (flowBlockOf locale input task) := by
  unfold itemBlocksById
  cases hget : mapGet (input.tasks.map fun task =>
      (task.queueItemId, flowBlockOf locale input task)) task.queueItemId with
  | none =>
    have hnone := mapGet_eq_none.1 hget _ (List.mem_map_of_mem htask)
    exact absurd rfl hnone
  | some block =>
    obtain ⟨other, hother, heq⟩ := List.mem_map.1 (mem_of_mapGet hget)
    obtain ⟨hid, rfl⟩ := Prod.mk.inj heq
    rw [List.inj_on_of_nodup_map htasks hother htask hid]

theorem zoneById_eq {task : AgentQueueTask} (htask : task ∈ input.tasks) :
    zoneById locale input task = some (flowBlockOf locale input task).primaryZone := by
  rw [zoneById, itemBlocksById_eq htasks htask, Option.map_some]

/-- The blocks of tasks of the list. -/
theorem filterMap_itemBlocksById {tasks : List AgentQueueTask}
    (hsub : ∀ task ∈ tasks, task ∈ input.tasks) :
    (tasks.filterMap fun task => itemBlocksById locale input task.queueItemId) =
      tasks.map (flowBlockOf locale input) := by
  rw [← List.filterMap_eq_map]
  refine List.filterMap_congr fun task htask => ?_
  rw [itemBlocksById_eq htasks (hsub task htask), Function.comp_apply]

theorem resultGroups_perm : ((buildQueueFlowMap locale input).resultGroups.flatMap (·.items)).Perm
    ((tasksInZone locale input .results).map (flowBlockOf locale input)) := by
  have hzone : (input.tasks.filter fun task => zoneById locale input task = some .results) =
      tasksInZone locale input .results := by
    refine List.filter_congr fun task htask => ?_
    rw [zoneById_eq htasks htask]
    simp
  simp only [buildQueueFlowMap, List.flatMap_map, hzone]
  refine (groupBlocksByTag_perm locale _).trans ?_
  rw [filterMap_itemBlocksById htasks]
  · exact (sort_perm _ _).map _
  · intro task htask
    exact List.mem_of_mem_filter (mem_sort.1 htask)

/-- The tasks that wait for work. -/
def intakeTasks (locale : Locale) (input : BuildQueueFlowMapInput) : List AgentQueueTask :=
  input.tasks.filter fun task => isIntakeFlowZone (zoneById locale input task)

omit htasks in
theorem nodup_activeDepthsOf (depths : List (String × ℕ)) (activeTasks : List AgentQueueTask) :
    (activeDepthsOf depths activeTasks).Nodup :=
  (sort_perm _ _).nodup_iff.2 (nodup_foldl_setAdd List.nodup_nil)

theorem columns_perm : (blocksOfColumns (buildQueueFlowMap locale input).columns).Perm
    ((intakeTasks locale input).map (flowBlockOf locale input)) := by
  have hlayer : ∀ depth, ((groupBlocksByTag locale ((sort (compareQueueRoutingItems locale)
      ((intakeTasks locale input).filter
        (depthIn (dependencyDepths input.tasks) · = depth))).filterMap fun task =>
          itemBlocksById locale input task.queueItemId)).flatMap (·.items)).Perm
      (((intakeTasks locale input).filter
        (depthIn (dependencyDepths input.tasks) · = depth)).map (flowBlockOf locale input)) := by
    intro depth
    refine (groupBlocksByTag_perm locale _).trans ?_
    rw [filterMap_itemBlocksById htasks]
    · exact (sort_perm _ _).map _
    · intro task htask
      exact List.mem_of_mem_filter (List.mem_of_mem_filter (mem_sort.1 htask))
  have hcolumns : blocksOfColumns (buildQueueFlowMap locale input).columns =
      (activeDepthsOf (dependencyDepths input.tasks) (intakeTasks locale input)).flatMap
        fun depth => (groupBlocksByTag locale ((sort (compareQueueRoutingItems locale)
          ((intakeTasks locale input).filter
            (depthIn (dependencyDepths input.tasks) · = depth))).filterMap fun task =>
              itemBlocksById locale input task.queueItemId)).flatMap (·.items) :=
    flatMap_mapIdx _ _ _ _ fun _ _ => rfl
  rw [hcolumns]
  refine (List.Perm.flatMap_left _ fun depth _ => hlayer depth).trans ?_
  rw [← List.map_flatMap]
  refine (flatMap_filter_perm _ _ (nodup_activeDepthsOf _ _) fun task htask => ?_).map _
  rw [activeDepthsOf, mem_sort, mem_foldl_setAdd]
  exact .inr (List.mem_map_of_mem htask)

/-- The columns of a zone show the tasks of the zone. -/
theorem zoneColumns_perm {zone : QueueFlowPrimaryZone} (hzone : isIntakeFlowZone (some zone))
    (includeMatchingBarriers : Bool) :
    (blocksOfColumns (filterFlowColumns (buildQueueFlowMap locale input).columns
      (·.primaryZone = zone) includeMatchingBarriers)).Perm
      ((tasksInZone locale input zone).map (flowBlockOf locale input)) := by
  rw [blocksOfColumns_filterFlowColumns]
  refine ((columns_perm htasks).filter _).trans ?_
  rw [List.filter_map, intakeTasks, List.filter_filter]
  have hsame : (input.tasks.filter fun task =>
      ((fun block : QueueFlowItemBlock => decide (block.primaryZone = zone)) ∘
        flowBlockOf locale input) task && isIntakeFlowZone (zoneById locale input task)) =
      tasksInZone locale input zone := by
    refine List.filter_congr fun task htask => ?_
    rw [zoneById_eq htasks htask, Function.comp_apply]
    by_cases heq : (flowBlockOf locale input task).primaryZone = zone
    · simp [heq, hzone]
    · simp [heq]
  rw [hsame]

/-- The tasks the workers work on, a task once for each worker. -/
def workedTasks (tasks : List AgentQueueTask) (workers : List AgentWorker) :
    List AgentQueueTask :=
  workers.filterMap (runningTaskForWorker tasks)

omit htasks in
theorem mem_of_runningTaskForWorker {tasks : List AgentQueueTask} {worker : AgentWorker}
    {task : AgentQueueTask} (h : runningTaskForWorker tasks worker = some task) :
    task ∈ tasks ∧ task.status = .running := by
  have hfound : ∀ {p : AgentQueueTask → Bool},
      tasks.find? p = some task → task ∈ tasks ∧ p task = true :=
    fun hfind => ⟨List.mem_of_find?_eq_some hfind, List.find?_some hfind⟩
  rw [runningTaskForWorker, Option.or_eq_some_iff] at h
  rcases h with hcurrent | ⟨-, hassigned⟩
  · rw [currentTaskOf] at hcurrent
    split_ifs at hcurrent
    obtain ⟨currentItemId, -, hfind⟩ := Option.bind_eq_some_iff.1 hcurrent
    obtain ⟨hmem, hcurrent⟩ := hfound hfind
    exact ⟨hmem, (of_decide_eq_true hcurrent).2⟩
  · obtain ⟨hmem, hassigned⟩ := hfound hassigned
    exact ⟨hmem, (of_decide_eq_true hassigned).1⟩

/-- The running tasks without a report that no worker works on. -/
def unmatchedTasks (locale : Locale) (input : BuildQueueFlowMapInput) : List AgentQueueTask :=
  (tasksInZone locale input .executor).filter fun task =>
    task.queueItemId ∉ (workedTasks input.tasks input.workers).map (·.queueItemId)

theorem lanes_perm :
    ((buildQueueFlowMap locale input).executorLanes.filterMap (·.activeItem)).Perm
      ((workedTasks input.tasks input.workers ++ unmatchedTasks locale input).map
        (flowBlockOf locale input)) := by
  have hlane : ∀ workers : List AgentWorker,
      (workers.map (laneOfWorker (itemBlocksById locale input) input.schedulerPlan
        input.tasks)).filterMap (·.activeItem) =
      (workedTasks input.tasks workers).map (flowBlockOf locale input) := by
    intro workers
    rw [List.filterMap_map, workedTasks, List.map_filterMap]
    refine List.filterMap_congr fun worker _ => ?_
    rw [Function.comp_apply, laneOfWorker]
    cases hrunning : runningTaskForWorker input.tasks worker with
    | none => rfl
    | some task =>
      exact itemBlocksById_eq htasks (mem_of_runningTaskForWorker hrunning).1
  have hworked : (workedTasks input.tasks (sort compareWorkers input.workers)).Perm
      (workedTasks input.tasks input.workers) :=
    (sort_perm _ _).filterMap _
  have hrendered : ((sort compareWorkers input.workers).map (laneOfWorker
      (itemBlocksById locale input) input.schedulerPlan input.tasks)).filterMap
        (fun lane => lane.activeItem.map (·.queueItemId)) =
      (workedTasks input.tasks (sort compareWorkers input.workers)).map (·.queueItemId) := by
    have hids := congrArg (List.map fun block : QueueFlowItemBlock => block.queueItemId)
      (hlane (sort compareWorkers input.workers))
    rw [List.map_filterMap, List.map_map] at hids
    exact hids
  have hunmatched : (input.tasks.filter fun task =>
      ((itemBlocksById locale input task.queueItemId).map (·.primaryZone) = some .executor ∧
        task.queueItemId ∉
          (workedTasks input.tasks (sort compareWorkers input.workers)).map (·.queueItemId) :
        Bool)) = unmatchedTasks locale input := by
    rw [unmatchedTasks, tasksInZone, List.filter_filter]
    refine List.filter_congr fun task htask => ?_
    have hmem := (hworked.map AgentQueueTask.queueItemId).mem_iff (a := task.queueItemId)
    rw [itemBlocksById_eq htasks htask, Bool.eq_iff_iff]
    simp only [Bool.and_eq_true, decide_eq_true_eq, hmem, Option.map_some, Option.some.injEq]
    exact and_comm
  simp only [buildQueueFlowMap, executorLanes, List.filterMap_append, hlane, hrendered, hunmatched,
    List.map_append]
  refine (hworked.map _).append ?_
  rw [List.filterMap_map]
  have hsub : ∀ task ∈ sort (compareQueueRoutingItems locale) (unmatchedTasks locale input),
      task ∈ input.tasks := fun task htask =>
    List.mem_of_mem_filter (List.mem_of_mem_filter (mem_sort.1 htask))
  have hblocks := @filterMap_itemBlocksById locale _ htasks _ hsub
  exact hblocks ▸ (sort_perm _ _).map _

/-- The tasks of the map, zone by zone, with what the workers work on. -/
def shownTasks (locale : Locale) (input : BuildQueueFlowMapInput) : List AgentQueueTask :=
  tasksInZone locale input .work ++ tasksInZone locale input .waiting ++
    tasksInZone locale input .blocked ++
    (workedTasks input.tasks input.workers ++ unmatchedTasks locale input) ++
    tasksInZone locale input .results

theorem shownBlocks_perm : (buildQueueFlowMap locale input).shownBlocks.Perm
    ((shownTasks locale input).map (flowBlockOf locale input)) := by
  have hcolumns := fun zone => @zoneColumns_perm locale input htasks zone
  have hwork := hcolumns .work rfl false
  have hwaiting := hcolumns .waiting rfl false
  have hblocked := hcolumns .blocked rfl true
  have hlanes := @lanes_perm locale input htasks
  have hresults := @resultGroups_perm locale input htasks
  have hall := (((hwork.append hwaiting).append hblocked).append hlanes).append hresults
  simp only [← List.map_append] at hall
  exact hall

omit htasks in
/-- Every task has one zone. -/
theorem zones_perm : (tasksInZone locale input .work ++ tasksInZone locale input .waiting ++
    tasksInZone locale input .blocked ++ tasksInZone locale input .executor ++
    tasksInZone locale input .results).Perm input.tasks := by
  have hzones := @flatMap_filter_perm _ _ _ input.tasks
    (fun task => (flowBlockOf locale input task).primaryZone)
    [.work, .waiting, .blocked, .executor, .results] (by decide) fun task _ => by
      cases (flowBlockOf locale input task).primaryZone <;> decide
  simpa only [tasksInZone, List.flatMap_cons, List.flatMap_nil, List.append_nil,
    List.append_assoc] using hzones

/-- What is shown is the tasks when the lanes have the tasks that run without a report. -/
theorem shownBlocks_perm_iff_lanes :
    ((buildQueueFlowMap locale input).shownBlocks.map (·.queueItemId)).Perm
        (input.tasks.map (·.queueItemId)) ↔
      ((workedTasks input.tasks input.workers ++ unmatchedTasks locale input).map
        (·.queueItemId)).Perm ((tasksInZone locale input .executor).map (·.queueItemId)) := by
  have hshown := (@shownBlocks_perm locale input htasks).map
    fun block : QueueFlowItemBlock => block.queueItemId
  rw [List.map_map] at hshown
  have hzones := (@zones_perm locale input).map fun task : AgentQueueTask => task.queueItemId
  have hids : ((fun block : QueueFlowItemBlock => block.queueItemId) ∘ flowBlockOf locale input) =
      fun task => task.queueItemId := rfl
  rw [hids] at hshown
  rw [hshown.congr_left, ← hzones.congr_right, shownTasks]
  simp only [List.map_append, List.perm_append_right_iff, List.perm_append_left_iff]

end Zones

/-! ## Lanes -/

/-- The running worker reports the running task as its current one. -/
def ReportsCurrent (worker : AgentWorker) (task : AgentQueueTask) : Prop :=
  worker.status = .running ∧ worker.currentItemId = some task.queueItemId ∧
    task.queueItemId ≠ "" ∧ task.status = .running

/-- The running task is assigned to the worker. -/
def IsAssignedTo (worker : AgentWorker) (task : AgentQueueTask) : Prop :=
  task.status = .running ∧ (task.assignedWorkerId = some worker.workerId ∨
    task.assignedExecutorWidgetId = some worker.workerId)

/-- The worker reports the task, or it reports none and the task is the first that is assigned
to it. -/
def WorksOn (tasks : List AgentQueueTask) (worker : AgentWorker) (task : AgentQueueTask) : Prop :=
  (task ∈ tasks ∧ ReportsCurrent worker task) ∨
    (∀ t ∈ tasks, ¬ ReportsCurrent worker t) ∧ ∃ before after,
      tasks = before ++ task :: after ∧ IsAssignedTo worker task ∧
        ∀ t ∈ before, ¬ IsAssignedTo worker t

/-- No worker works on a task with a report, and no two on the same task. -/
structure LanesAreExclusive (tasks : List AgentQueueTask) (workers : List AgentWorker) : Prop where
  unreported : ∀ worker ∈ workers, ∀ task, WorksOn tasks worker task → hasWorkerReport task = false
  apart : workers.Pairwise fun worker worker' =>
    ∀ task, WorksOn tasks worker task → ¬ WorksOn tasks worker' task

theorem currentTaskOf_eq_some {tasks : List AgentQueueTask}
    (htasks : (tasks.map (·.queueItemId)).Nodup) {worker : AgentWorker} {task : AgentQueueTask} :
    currentTaskOf tasks worker = some task ↔ task ∈ tasks ∧ ReportsCurrent worker task := by
  unfold currentTaskOf
  constructor
  · intro h
    split_ifs at h with hworker
    obtain ⟨currentItemId, hcurrent, hfind⟩ := Option.bind_eq_some_iff.1 h
    obtain ⟨hid, hne⟩ := Option.filter_eq_some_iff.1 hcurrent
    have hfound := List.find?_some hfind
    rw [decide_eq_true_eq] at hfound
    refine ⟨List.mem_of_find?_eq_some hfind, hworker, ?_, ?_, hfound.2⟩
    · rw [hid, hfound.1]
    · rw [hfound.1]
      simpa using hne
  · rintro ⟨htask, hworker, hcurrent, hne, hrunning⟩
    rw [if_pos hworker, hcurrent, Option.filter_some_pos (by simpa using hne), Option.bind_some]
    cases hfind : tasks.find? (fun t => decide (t.queueItemId = task.queueItemId ∧
        t.status = .running)) with
    | none =>
      have hnone := List.find?_eq_none.1 hfind task htask
      simp [hrunning] at hnone
    | some found =>
      have hfound := List.find?_some hfind
      rw [decide_eq_true_eq] at hfound
      rw [List.inj_on_of_nodup_map htasks (List.mem_of_find?_eq_some hfind) htask hfound.1]

theorem runningTaskForWorker_eq_some {tasks : List AgentQueueTask}
    (htasks : (tasks.map (·.queueItemId)).Nodup) {worker : AgentWorker} {task : AgentQueueTask} :
    runningTaskForWorker tasks worker = some task ↔ WorksOn tasks worker task := by
  have hnone : currentTaskOf tasks worker = none ↔ ∀ t ∈ tasks, ¬ ReportsCurrent worker t := by
    rw [Option.eq_none_iff_forall_ne_some]
    simp only [Ne, currentTaskOf_eq_some htasks, not_and]
  rw [runningTaskForWorker, Option.or_eq_some_iff, currentTaskOf_eq_some htasks, hnone, WorksOn]
  refine or_congr_right (and_congr_right fun _ => ?_)
  rw [List.find?_eq_some_iff_append]
  constructor
  · rintro ⟨hassigned, before, after, hsplit, hbefore⟩
    rw [decide_eq_true_eq] at hassigned
    refine ⟨before, after, hsplit, hassigned, fun t ht => ?_⟩
    have hnot := hbefore t ht
    rw [Bool.not_eq_true', decide_eq_false_iff_not] at hnot
    exact hnot
  · rintro ⟨before, after, hsplit, hassigned, hbefore⟩
    refine ⟨?_, before, after, hsplit, fun t ht => ?_⟩
    · rw [decide_eq_true_eq]
      exact hassigned
    rw [Bool.not_eq_true', decide_eq_false_iff_not]
    exact hbefore t ht

/-- Every task is shown once exactly when the lanes are exclusive. -/
theorem shown_perm_iff {locale : Locale} {input : BuildQueueFlowMapInput}
    (htasks : (input.tasks.map (·.queueItemId)).Nodup) :
    ((buildQueueFlowMap locale input).shownBlocks.map (·.queueItemId)).Perm
        (input.tasks.map (·.queueItemId)) ↔ LanesAreExclusive input.tasks input.workers := by
  rw [shownBlocks_perm_iff_lanes htasks]
  have hexecutor : ((tasksInZone locale input .executor).map (·.queueItemId)).Nodup :=
    htasks.sublist (List.filter_sublist.map _)
  have hworked : ∀ task, task ∈ workedTasks input.tasks input.workers ↔
      ∃ worker ∈ input.workers, WorksOn input.tasks worker task := by
    intro task
    simp only [workedTasks, List.mem_filterMap, runningTaskForWorker_eq_some htasks]
  have hmem : ∀ task ∈ workedTasks input.tasks input.workers,
      task ∈ input.tasks ∧ task.status = .running := by
    intro task htask
    obtain ⟨worker, -, hworks⟩ := List.mem_filterMap.1 htask
    exact mem_of_runningTaskForWorker hworks
  have hids : ((workedTasks input.tasks input.workers).map (·.queueItemId)).Nodup ↔
      input.workers.Pairwise fun worker worker' =>
        ∀ task, WorksOn input.tasks worker task → ¬ WorksOn input.tasks worker' task := by
    rw [workedTasks, List.map_filterMap, List.Nodup, List.pairwise_filterMap]
    simp only [Option.map_eq_some_iff, runningTaskForWorker_eq_some htasks]
    refine List.Pairwise.iff_of_mem fun {worker worker'} hworker hworker' => ?_
    constructor
    · intro hne task hworks hworks'
      exact hne _ ⟨task, hworks, rfl⟩ _ ⟨task, hworks', rfl⟩ rfl
    · rintro hapart _ ⟨task, hworks, rfl⟩ _ ⟨task', hworks', rfl⟩ heq
      have htask := (hmem task ((hworked task).2 ⟨worker, hworker, hworks⟩)).1
      have htask' := (hmem task' ((hworked task').2 ⟨worker', hworker', hworks'⟩)).1
      obtain rfl := List.inj_on_of_nodup_map htasks htask htask' heq
      exact hapart task hworks hworks'
  constructor
  · intro hperm
    rw [List.map_append] at hperm
    have hnodup := hperm.nodup_iff.2 hexecutor
    refine ⟨fun worker hworker task hworks => ?_, hids.1 (List.nodup_append.1 hnodup).1⟩
    have htask := (hworked task).2 ⟨worker, hworker, hworks⟩
    have hin := hperm.mem_iff.1 (List.mem_append_left _ (List.mem_map_of_mem htask))
    obtain ⟨other, hother, heq⟩ := List.mem_map.1 hin
    obtain ⟨hlisted, hzone⟩ := List.mem_filter.1 hother
    obtain rfl := List.inj_on_of_nodup_map htasks hlisted (hmem task htask).1 heq
    exact ((primaryZone_flowBlockOf other).1 (of_decide_eq_true hzone)).2
  · intro hlanes
    have hlane : ∀ task ∈ workedTasks input.tasks input.workers,
        task ∈ tasksInZone locale input .executor := by
      intro task htask
      obtain ⟨worker, hworker, hworks⟩ := (hworked task).1 htask
      refine List.mem_filter.2 ⟨(hmem task htask).1, decide_eq_true ?_⟩
      exact (primaryZone_flowBlockOf task).2
        ⟨(hmem task htask).2, hlanes.unreported worker hworker task hworks⟩
    rw [List.map_append]
    refine (List.perm_ext_iff_of_nodup ?_ hexecutor).2 fun id => ?_
    · refine List.nodup_append.2 ⟨hids.2 hlanes.apart, ?_, ?_⟩
      · exact hexecutor.sublist (List.filter_sublist.map _)
      · rintro id hid _ hid' rfl
        obtain ⟨task, htask, rfl⟩ := List.mem_map.1 hid'
        exact of_decide_eq_true (List.mem_filter.1 htask).2 hid
    · rw [List.mem_append]
      constructor
      · rintro (hid | hid)
        · obtain ⟨task, htask, rfl⟩ := List.mem_map.1 hid
          exact List.mem_map_of_mem (hlane task htask)
        · obtain ⟨task, htask, rfl⟩ := List.mem_map.1 hid
          exact List.mem_map_of_mem (List.mem_of_mem_filter htask)
      · intro hid
        by_cases hworked : id ∈ (workedTasks input.tasks input.workers).map (·.queueItemId)
        · exact .inl hworked
        · obtain ⟨task, htask, rfl⟩ := List.mem_map.1 hid
          exact .inr (List.mem_map_of_mem (List.mem_filter.2 ⟨htask, decide_eq_true hworked⟩))

end HobitQueue.Frontend
