import HobitQueue.Queue.History

/-!
# The dependency graph over a history

Only three operations touch the graph: a new task brings its own edges, an update may
replace the edges of a task, and a deletion takes a task away but not the edges that
lead to it. New edges lead to tasks that exist, so a new task closes no cycle as long
as its id is really new; and an id that leads nowhere is the trace of a deletion.
-/

namespace HobitQueue

open Concurrent StoreProg Relational Machine

/-- Two rows of the same task with the same edges. -/
structure SameEdges (r r' : AgentQueueTaskRow) : Prop where
  workspaceId : r'.workspaceId = r.workspaceId
  queueItemId : r'.queueItemId = r.queueItemId
  dependsOn : r'.dependsOn = r.dependsOn

theorem SameEdges.refl (r : AgentQueueTaskRow) : SameEdges r r := ⟨rfl, rfl, rfl⟩

theorem SameEdges.rowDependencyIds {r r' : AgentQueueTaskRow} (h : SameEdges r r') :
    rowDependencyIds r' = rowDependencyIds r := by
  unfold HobitQueue.rowDependencyIds
  rw [h.dependsOn]

/-- What an operation does to the dependency graph. -/
inductive GraphEffect (s : SqliteStore) : Op → SqliteStore → Prop
  | kept {op : Op} {t : SqliteStore}
      (h : Table.Related SameEdges s.agentQueueTasks t.agentQueueTasks) : GraphEffect s op t
  | created {d : Draws} {input : CreateAgentQueueTaskInput} {t : SqliteStore}
      {n : NormalizedCreateAgentQueueTaskInput}
      (hn : normalizeCreateAgentQueueTaskInput input = .ok n)
      (hdeps : ∀ id ∈ n.dependsOn, (s.getAgentQueueTask n.workspaceId id).isSome)
      (hins : s.agentQueueTasks.insert (newAgentQueueTaskRow n
        (d.placeholderId "queue_task_" 0) (d.timestamp 1)) = some t.agentQueueTasks) :
      GraphEffect s (.createTask d input) t
  | replaced {d : Draws} {input : UpdateAgentQueueTaskInput} {t : SqliteStore}
      {n : NormalizedUpdateAgentQueueTaskInput} {ids : List String}
      (hf : ∀ r, Row.keys ((agentQueueTaskUpdate n (d.timestamp 0)).apply r) = Row.keys r)
      (hn : normalizeUpdateAgentQueueTaskInput input = .ok n) (hids : n.dependsOn = some ids)
      (hdeps : exec (validateDependencyUpdate n.workspaceId n.queueItemId (some ids)) s =
        (.ok (), s))
      (htasks : t.agentQueueTasks = s.agentQueueTasks.update
        (fun r => r.workspaceId == n.workspaceId && r.queueItemId == n.queueItemId)
        (agentQueueTaskUpdate n (d.timestamp 0)).apply hf) :
      GraphEffect s (.updateTask d input) t
  | deleted {d : Draws} {input n : AgentQueueTaskRef} {t : SqliteStore}
      (hn : normalizeAgentQueueTaskRef input = .ok n)
      (htasks : t.agentQueueTasks =
        s.agentQueueTasks.delete (·.queueItemId == n.queueItemId)) :
      GraphEffect s (.deleteTask d input) t

/-- Rewriting other columns keeps the graph. -/
theorem related_sameEdges_update {tasks : Table AgentQueueTaskRow} {p : AgentQueueTaskRow → Bool}
    {f : AgentQueueTaskRow → AgentQueueTaskRow} (hf : ∀ r, Row.keys (f r) = Row.keys r)
    (h : ∀ r, SameEdges r (f r)) : Table.Related SameEdges tasks (tasks.update p f hf) :=
  Table.related_update SameEdges.refl fun r _ => h r

theorem related_sameEdges_markRunning (tasks : Table AgentQueueTaskRow)
    (p : AgentQueueTaskRow → Bool) (updatedAt : String) :
    Table.Related SameEdges tasks (tasks.update p (markRunning updatedAt) fun _ => rfl) :=
  related_sameEdges_update _ fun _ => ⟨rfl, rfl, rfl⟩

theorem related_sameEdges_setStatus (tasks : Table AgentQueueTaskRow)
    (p : AgentQueueTaskRow → Bool) (status updatedAt : String) :
    Table.Related SameEdges tasks (tasks.update p (setStatus status updatedAt) fun _ => rfl) :=
  related_sameEdges_update _ fun _ => ⟨rfl, rfl, rfl⟩

/-- **What an operation does to the graph.** -/
theorem graphEffect_perform (s : SqliteStore) (op : Op) : GraphEffect s op (perform s op) := by
  have hsame : Table.Related SameEdges s.agentQueueTasks s.agentQueueTasks :=
    Table.Related.refl SameEdges.refl _
  have heffect := perform_effect s op
  generalize perform s op = t at heffect
  cases heffect with
  | created hn hdeps hins => exact .created hn hdeps hins
  | @updated _ _ _ n hn hdeps h =>
    obtain ⟨hf, _, rfl⟩ := h
    cases hids : n.dependsOn with
    | none =>
      refine .kept (related_sameEdges_update hf fun r => ⟨rfl, rfl, ?_⟩)
      simp [AgentQueueTaskUpdate.apply, agentQueueTaskUpdate, hids]
    | some ids => exact .replaced hf hn hids (hids ▸ hdeps) rfl
  | reassigned _ h =>
    obtain ⟨hf, _, rfl⟩ := h
    exact .kept (related_sameEdges_update hf fun _ => ⟨rfl, rfl, rfl⟩)
  | deleted hn => exact .deleted hn rfl
  | bookkeeping h =>
    obtain ⟨_, _, _, rfl⟩ := h
    exact .kept hsame
  | launched _ h =>
    obtain ⟨_, _, _, _, _, _, _, _, rfl⟩ := h
    exact .kept (related_sameEdges_markRunning _ _ _)
  | launchedSelected _ h =>
    obtain ⟨_, _, _, _, _, _, _, _, rfl⟩ := h
    exact .kept (related_sameEdges_markRunning _ _ _)
  | finished _ h =>
    obtain ⟨_, _, _, rfl⟩ := h
    exact .kept (related_sameEdges_setStatus _ _ _ _)
  | recovered _ _ _ h =>
    obtain ⟨_, _, _, _, _, rfl⟩ := h
    exact .kept (related_sameEdges_setStatus _ _ _ _)
  | reported _ h =>
    obtain ⟨_, _, _, _, _, rfl⟩ := h
    exact .kept (related_sameEdges_setStatus _ _ _ _)
  | linkEnded _ h =>
    obtain ⟨_, rfl⟩ := h
    exact .kept hsame
  | accepted _ h =>
    obtain ⟨_, _, _, _, _, _, _, _, _, rfl⟩ := h
    exact .kept hsame
  | gaveUp _ h =>
    obtain ⟨_, _, _, rfl⟩ := h
    exact .kept (related_sameEdges_setStatus _ _ _ _)
  | idle => exact .kept hsame
  | linked => exact .kept hsame
  | messageCreated => exact .kept hsame
  | messageAcked => exact .kept hsame
  | others => exact .kept hsame

/-! ## Edges after an operation -/

theorem dependsOn_of_related {s t : SqliteStore} {workspaceId v w : String}
    (h : Table.Related SameEdges s.agentQueueTasks t.agentQueueTasks)
    (hvw : DependsOn t workspaceId v w) : DependsOn s workspaceId v w := by
  obtain ⟨task', htask', hws, hid, hdep⟩ := hvw
  obtain ⟨task, htask, hsame⟩ := h.1 task' htask'
  exact ⟨task, htask, hsame.workspaceId ▸ hws, hsame.queueItemId ▸ hid,
    hsame.rowDependencyIds ▸ hdep⟩

theorem getAgentQueueTask_of_related {s t : SqliteStore} {workspaceId id : String}
    (h : Table.Related SameEdges s.agentQueueTasks t.agentQueueTasks)
    (hsome : (s.getAgentQueueTask workspaceId id).isSome) :
    (t.getAgentQueueTask workspaceId id).isSome := by
  obtain ⟨task, htask, hws, hid⟩ := isSome_getAgentQueueTask.1 hsome
  obtain ⟨task', htask', hsame⟩ := h.2 task htask
  exact isSome_getAgentQueueTask.2
    ⟨task', htask', hsame.workspaceId.trans hws, hsame.queueItemId.trans hid⟩

@[simp] theorem rowDependencyIds_newAgentQueueTaskRow (n : NormalizedCreateAgentQueueTaskInput)
    (queueItemId createdAt : String) :
    rowDependencyIds (newAgentQueueTaskRow n queueItemId createdAt) = n.dependsOn := by
  simp [rowDependencyIds, newAgentQueueTaskRow]

/-- A row after an update of its dependencies names the new ones. -/
theorem rowDependencyIds_apply {n : NormalizedUpdateAgentQueueTaskInput} {ids : List String}
    (hids : n.dependsOn = some ids) (updatedAt : String) (r : AgentQueueTaskRow) :
    rowDependencyIds ((agentQueueTaskUpdate n updatedAt).apply r) = ids := by
  simp [rowDependencyIds, agentQueueTaskUpdate, AgentQueueTaskUpdate.apply, hids]

/-- Each row after an update of one task's dependencies is that task with the new ones, or
it is an old row. -/
theorem mem_update_dependencies {tasks : Table AgentQueueTaskRow}
    {n : NormalizedUpdateAgentQueueTaskInput} {ids : List String} {updatedAt : String}
    {hf : ∀ r, Row.keys ((agentQueueTaskUpdate n updatedAt).apply r) = Row.keys r}
    (hids : n.dependsOn = some ids) {task : AgentQueueTaskRow}
    (htask : task ∈ tasks.update
      (fun r => r.workspaceId == n.workspaceId && r.queueItemId == n.queueItemId)
      (agentQueueTaskUpdate n updatedAt).apply hf) :
    (task.workspaceId = n.workspaceId ∧ task.queueItemId = n.queueItemId ∧
        rowDependencyIds task = ids ∧ ∃ old ∈ tasks, old.workspaceId = n.workspaceId ∧
          old.queueItemId = n.queueItemId) ∨
      (task ∈ tasks ∧ ¬ (task.workspaceId = n.workspaceId ∧ task.queueItemId = n.queueItemId)) := by
  obtain ⟨old, hold, hrow⟩ := Table.mem_update.1 htask
  rcases rewritten_or_same hrow with ⟨hws, hself, rfl⟩ | ⟨hother, rfl⟩
  · exact Or.inl ⟨hws, hself, rowDependencyIds_apply hids _ _, old, hold, hws, hself⟩
  · exact Or.inr ⟨hold, hother⟩

theorem updatedDependsOn_of_dependsOn {s t : SqliteStore}
    {n : NormalizedUpdateAgentQueueTaskInput} {ids : List String} {updatedAt : String}
    {hf : ∀ r, Row.keys ((agentQueueTaskUpdate n updatedAt).apply r) = Row.keys r}
    (hids : n.dependsOn = some ids)
    (htasks : t.agentQueueTasks = s.agentQueueTasks.update
      (fun r => r.workspaceId == n.workspaceId && r.queueItemId == n.queueItemId)
      (agentQueueTaskUpdate n updatedAt).apply hf) {v w : String}
    (h : DependsOn t n.workspaceId v w) :
    UpdatedDependsOn s n.workspaceId n.queueItemId ids v w := by
  obtain ⟨task, htask, hws, rfl, hdep⟩ := h
  rw [htasks] at htask
  unfold UpdatedDependsOn
  rcases mem_update_dependencies hids htask with ⟨-, hself, hnew, -⟩ | ⟨hold, hother⟩
  · rw [if_pos hself]
    exact hnew ▸ hdep
  · rw [if_neg fun hself => hother ⟨hws, hself⟩]
    exact ⟨task, hold, hws, rfl, hdep⟩

/-! ## No cycles -/

/-- The draw a new task gets its id from: the clock and the id counter. -/
def Op.taskDraw : Op → Option (ℕ × ℕ)
  | .createTask d _ => some (d.clock 0, d.suffix 0)
  | _ => none

def taskId (draw : ℕ × ℕ) : String := placeholderId "queue_task_" draw.1 draw.2

theorem taskId_injective : Function.Injective taskId := by
  intro a b h
  obtain ⟨hclock, hsuffix⟩ := placeholderId_inj h
  exact Prod.ext hclock hsuffix

/-- Every id the stored tasks mention comes from one of the draws. -/
def DrawnFrom (draws : List (ℕ × ℕ)) (s : SqliteStore) : Prop :=
  ∀ task ∈ s.agentQueueTasks, ∀ id ∈ task.queueItemId :: rowDependencyIds task,
    id ∈ draws.map taskId

/-- No cycles, and no id twice in one list. -/
structure WellFormedGraph (s : SqliteStore) : Prop where
  acyclic : ∀ workspaceId, Search.Acyclic (DependsOn s workspaceId)
  nodup : ∀ task ∈ s.agentQueueTasks, (rowDependencyIds task).Nodup

theorem DrawnFrom.mem_of_isSome {draws : List (ℕ × ℕ)} {s : SqliteStore}
    {workspaceId id : String} (h : DrawnFrom draws s)
    (hsome : (s.getAgentQueueTask workspaceId id).isSome) : id ∈ draws.map taskId := by
  obtain ⟨task, htask, -, rfl⟩ := isSome_getAgentQueueTask.1 hsome
  exact h task htask _ List.mem_cons_self

theorem drawnFrom_perform {draws : List (ℕ × ℕ)} {s : SqliteStore} (h : DrawnFrom draws s)
    (op : Op) : DrawnFrom (draws ++ op.taskDraw.toList) (perform s op) := by
  have hgrow : ∀ id, id ∈ draws.map taskId → id ∈ (draws ++ op.taskDraw.toList).map taskId := by
    intro id hid
    rw [List.map_append]
    exact List.mem_append_left _ hid
  have heffect := graphEffect_perform s op
  generalize perform s op = t at heffect
  intro task htask id hid
  cases heffect with
  | kept hkept =>
    obtain ⟨old, hold, hsame⟩ := hkept.1 task htask
    rw [hsame.queueItemId, hsame.rowDependencyIds] at hid
    exact hgrow id (h old hold id hid)
  | created hn hdeps hins =>
    rcases (Table.mem_insert hins task).1 htask with hold | rfl
    · exact hgrow id (h task hold id hid)
    rw [rowDependencyIds_newAgentQueueTaskRow] at hid
    rcases List.mem_cons.1 hid with rfl | hdep
    · simp [Op.taskDraw, taskId, newAgentQueueTaskRow, Draws.placeholderId]
    · exact hgrow id (h.mem_of_isSome (hdeps id hdep))
  | replaced hf hn hids hdeps htasks =>
    rw [htasks] at htask
    rcases mem_update_dependencies hids htask with ⟨-, hself, hnew, old, hold, -, hold'⟩ | ⟨hold, -⟩
    · rw [hnew, hself] at hid
      rcases List.mem_cons.1 hid with rfl | hdep
      · exact hgrow _ (h old hold _ (hold' ▸ List.mem_cons_self))
      · exact hgrow id (h.mem_of_isSome ((exec_validateDependencyUpdate_some hdeps).2.1 id hdep).2)
    · exact hgrow id (h task hold id hid)
  | deleted hn htasks =>
    rw [htasks] at htask
    exact hgrow id (h task (Table.mem_delete.1 htask).1 id hid)

/-- **No operation closes a cycle**, as long as a new task gets an id that no draw before
it made. -/
theorem wellFormedGraph_perform {draws : List (ℕ × ℕ)} {s : SqliteStore} {op : Op}
    (hdrawn : DrawnFrom draws s) (hwf : WellFormedGraph s)
    (hnew : ∀ draw, op.taskDraw = some draw → draw ∉ draws) : WellFormedGraph (perform s op) := by
  have heffect := graphEffect_perform s op
  generalize perform s op = t at heffect
  cases heffect with
  | kept hkept =>
    constructor
    · intro workspaceId
      exact (hwf.acyclic workspaceId).mono fun v w => dependsOn_of_related hkept
    · intro task htask
      obtain ⟨old, hold, hsame⟩ := hkept.1 task htask
      exact hsame.rowDependencyIds ▸ hwf.nodup old hold
  | @created d _ _ n hn hdeps hins =>
    have hfresh : d.placeholderId "queue_task_" 0 ∉ draws.map taskId := by
      intro hmem
      obtain ⟨draw, hdraw, hid⟩ := List.mem_map.1 hmem
      rw [show d.placeholderId "queue_task_" 0 = taskId (d.clock 0, d.suffix 0) from rfl] at hid
      exact hnew _ rfl (taskId_injective hid ▸ hdraw)
    constructor
    · intro workspaceId
      refine (hwf.acyclic workspaceId).replace
        (a := d.placeholderId "queue_task_" 0) ?_ ?_
      · rintro v w hv ⟨task, htask, hws, hid, hdep⟩
        rcases (Table.mem_insert hins task).1 htask with hold | rfl
        · exact ⟨task, hold, hws, hid, hdep⟩
        · exact absurd hid.symm hv
      · -- nothing leads to the new task, so no dependency of it does
        rintro b ⟨task, htask, hws, hid, hdep⟩ hpath
        have hb : b ∈ draws.map taskId := by
          rcases (Table.mem_insert hins task).1 htask with hold | rfl
          · exact hdrawn task hold b (List.mem_cons_of_mem _ hdep)
          · rw [rowDependencyIds_newAgentQueueTaskRow] at hdep
            exact hdrawn.mem_of_isSome (hdeps b hdep)
        rcases Relation.ReflTransGen.cases_tail hpath with heq | ⟨v, -, hlast⟩
        · exact hfresh (heq ▸ hb)
        obtain ⟨other, hother, -, -, hto⟩ := hlast
        rcases (Table.mem_insert hins other).1 hother with hold | rfl
        · exact hfresh (hdrawn other hold _ (List.mem_cons_of_mem _ hto))
        · rw [rowDependencyIds_newAgentQueueTaskRow] at hto
          exact hfresh (hdrawn.mem_of_isSome (hdeps _ hto))
    · intro task htask
      rcases (Table.mem_insert hins task).1 htask with hold | rfl
      · exact hwf.nodup task hold
      · rw [rowDependencyIds_newAgentQueueTaskRow]
        exact nodup_dependsOn_of_normalizeCreate hn
  | @replaced _ _ _ n ids hf hn hids hdeps htasks =>
    obtain ⟨-, -, hpaths⟩ := exec_validateDependencyUpdate_some hdeps
    constructor
    · intro workspaceId
      by_cases hws : workspaceId = n.workspaceId
      · subst hws
        have hnewGraph : Search.Acyclic (UpdatedDependsOn s n.workspaceId n.queueItemId ids) := by
          refine (hwf.acyclic n.workspaceId).replace (a := n.queueItemId) ?_ ?_
          · intro v w hv hvw
            rwa [UpdatedDependsOn, if_neg hv] at hvw
          · intro b hb
            rw [UpdatedDependsOn, if_pos rfl] at hb
            exact hpaths b hb
        exact hnewGraph.mono fun v w => updatedDependsOn_of_dependsOn hids htasks
      · refine (hwf.acyclic workspaceId).mono ?_
        rintro v w ⟨task, htask, htaskWs, hid, hdep⟩
        rw [htasks] at htask
        rcases mem_update_dependencies hids htask with ⟨hself, -⟩ | ⟨hold, -⟩
        · exact absurd (htaskWs.symm.trans hself) hws
        · exact ⟨task, hold, htaskWs, hid, hdep⟩
    · intro task htask
      rw [htasks] at htask
      rcases mem_update_dependencies hids htask with ⟨-, -, hnew, -⟩ | ⟨hold, -⟩
      · exact hnew ▸ nodup_dependsOn_of_normalizeUpdate hn hids
      · exact hwf.nodup task hold
  | deleted hn htasks =>
    constructor
    · intro workspaceId
      refine (hwf.acyclic workspaceId).mono ?_
      rintro v w ⟨task, htask, hws, hid, hdep⟩
      rw [htasks] at htask
      exact ⟨task, (Table.mem_delete.1 htask).1, hws, hid, hdep⟩
    · intro task htask
      rw [htasks] at htask
      exact hwf.nodup task (Table.mem_delete.1 htask).1

/-- The induction over a history: the draws so far account for every id, and the graph
is well formed. -/
theorem wellFormedGraph_after {s : SqliteStore} (hs : Empty s) {history : List Op}
    (hdraws : (history.filterMap Op.taskDraw).Nodup) :
    DrawnFrom (history.filterMap Op.taskDraw) (after perform s history) ∧
      WellFormedGraph (after perform s history) := by
  induction history using List.reverseRecOn with
  | nil =>
    constructor
    · intro task htask
      exact absurd htask (hs.tasks task)
    · constructor
      · intro workspaceId v hv
        obtain ⟨w, ⟨task, htask, -⟩, -⟩ := Relation.TransGen.head'_iff.1 hv
        exact hs.tasks task htask
      · intro task htask
        exact absurd htask (hs.tasks task)
  | append_singleton history op ih =>
    rw [List.filterMap_append, List.nodup_append] at hdraws
    obtain ⟨hbefore, -, hnew⟩ := hdraws
    obtain ⟨hdrawn, hwf⟩ := ih hbefore
    have hop : [op].filterMap Op.taskDraw = op.taskDraw.toList := by
      cases h : op.taskDraw <;> simp [h]
    rw [after_concat, List.filterMap_append, hop]
    refine ⟨drawnFrom_perform hdrawn op, wellFormedGraph_perform hdrawn hwf ?_⟩
    intro draw hdraw hmem
    exact hnew draw hmem draw (by simp [hdraw]) rfl

/-- **The dependency graph of every workspace is acyclic**, and no task names itself or
another task twice. -/
theorem dependency_graph_acyclic {s : SqliteStore} (hs : Empty s) {history : List Op}
    (hdraws : (history.filterMap Op.taskDraw).Nodup) (workspaceId : String) :
    Search.Acyclic (DependsOn (after perform s history) workspaceId) ∧
      ∀ task ∈ (after perform s history).agentQueueTasks,
        task.queueItemId ∉ rowDependencyIds task ∧ (rowDependencyIds task).Nodup := by
  obtain ⟨-, hwf⟩ := wellFormedGraph_after hs hdraws
  refine ⟨hwf.acyclic workspaceId, ?_⟩
  intro task htask
  refine ⟨?_, hwf.nodup task htask⟩
  intro hself
  exact hwf.acyclic task.workspaceId task.queueItemId
    (Relation.TransGen.single ⟨task, htask, rfl, rfl, hself⟩)

/-- An update that makes the first task wait for the second one, which already waits for
the first, between two that are accepted. -/
def updatesOfTwoTasks : List Op :=
  [.createTask (drawsAt 1) (taskInput "w" "queued" []),
    .createTask (drawsAt 2) (taskInput "w" "queued" ["queue_task_1000000000_0"]),
    .updateTask (drawsAt 3) (taskUpdate "w" "queue_task_1000000000_0" "queued"
      ["queue_task_2000000000_0"]),
    .updateTask (drawsAt 4) (taskUpdate "w" "queue_task_2000000000_0" "queued" []),
    .updateTask (drawsAt 5) (taskUpdate "w" "queue_task_1000000000_0" "queued"
      ["queue_task_2000000000_0"])]

theorem dependency_graph_acyclic_updatesOfTwoTasks :
    Search.Acyclic (DependsOn (after perform (oneWorkspace "w") updatesOfTwoTasks) "w") ∧
      ∀ task ∈ (after perform (oneWorkspace "w") updatesOfTwoTasks).agentQueueTasks,
        task.queueItemId ∉ rowDependencyIds task ∧ (rowDependencyIds task).Nodup :=
  dependency_graph_acyclic (empty_oneWorkspace "w") (by decide) "w"

/-! ## Dangling ids -/

/-- The task was there until a deletion in the history. -/
def DeletedIn (s : SqliteStore) (history : List Op) (workspaceId id : String) : Prop :=
  ∃ before d input later, history = before ++ .deleteTask d input :: later ∧
    ((after perform s before).getAgentQueueTask workspaceId id).isSome ∧
    (perform (after perform s before) (.deleteTask d input)).getAgentQueueTask workspaceId id =
      none

theorem DeletedIn.concat {s : SqliteStore} {history : List Op} {workspaceId id : String}
    (h : DeletedIn s history workspaceId id) (op : Op) :
    DeletedIn s (history ++ [op]) workspaceId id := by
  obtain ⟨before, d, input, later, rfl, hthere, hgone⟩ := h
  exact ⟨before, d, input, later ++ [op], by simp, hthere, hgone⟩

/-- A task that is there is still there after an operation, or the operation deletes it. -/
theorem isSome_or_deleted {s : SqliteStore} {workspaceId id : String} (op : Op)
    (h : (s.getAgentQueueTask workspaceId id).isSome) :
    ((perform s op).getAgentQueueTask workspaceId id).isSome ∨ ∃ d input,
      op = .deleteTask d input ∧ (perform s op).getAgentQueueTask workspaceId id = none := by
  have heffect := graphEffect_perform s op
  generalize perform s op = t at heffect
  obtain ⟨task, htask, hws, hid⟩ := isSome_getAgentQueueTask.1 h
  cases heffect with
  | kept hkept => exact Or.inl (getAgentQueueTask_of_related hkept h)
  | created hn hdeps hins =>
    left
    exact isSome_getAgentQueueTask.2
      ⟨task, (Table.mem_insert hins task).2 (Or.inl htask), hws, hid⟩
  | replaced hf hn hids hdeps htasks =>
    left
    refine isSome_getAgentQueueTask.2 ⟨_, htasks ▸ Table.mem_update.2 ⟨task, htask, rfl⟩, ?_, ?_⟩
    · split <;> exact hws
    · split <;> exact hid
  | deleted hn htasks =>
    cases hgone : t.getAgentQueueTask workspaceId id with
    | none => exact Or.inr ⟨_, _, rfl, rfl⟩
    | some row => exact Or.inl rfl

/-- The dependencies of a task after an operation were there before it. -/
theorem dependency_isSome_or_old {s : SqliteStore} {op : Op} {task : AgentQueueTaskRow}
    {id : String} (htask : task ∈ (perform s op).agentQueueTasks)
    (hid : id ∈ rowDependencyIds task) :
    (s.getAgentQueueTask task.workspaceId id).isSome ∨
      ∃ old ∈ s.agentQueueTasks, old.workspaceId = task.workspaceId ∧
        id ∈ rowDependencyIds old := by
  have heffect := graphEffect_perform s op
  generalize perform s op = t at heffect htask
  cases heffect with
  | kept hkept =>
    obtain ⟨old, hold, hsame⟩ := hkept.1 task htask
    exact Or.inr ⟨old, hold, hsame.workspaceId.symm, hsame.rowDependencyIds ▸ hid⟩
  | created hn hdeps hins =>
    rcases (Table.mem_insert hins task).1 htask with hold | rfl
    · exact Or.inr ⟨task, hold, rfl, hid⟩
    · rw [rowDependencyIds_newAgentQueueTaskRow] at hid
      exact Or.inl (hdeps id hid)
  | replaced hf hn hids hdeps htasks =>
    rw [htasks] at htask
    rcases mem_update_dependencies hids htask with ⟨hws, -, hnew, -⟩ | ⟨hold, -⟩
    · rw [hnew] at hid
      exact Or.inl (hws ▸ ((exec_validateDependencyUpdate_some hdeps).2.1 id hid).2)
    · exact Or.inr ⟨task, hold, rfl, hid⟩
  | deleted hn htasks =>
    rw [htasks] at htask
    exact Or.inr ⟨task, (Table.mem_delete.1 htask).1, rfl, hid⟩

/-- **Every dependency names a task of the same workspace, or one that was there until it
was deleted.** -/
theorem dependency_exists_or_deleted {s : SqliteStore} (hs : Empty s) (history : List Op)
    {task : AgentQueueTaskRow} (htask : task ∈ (after perform s history).agentQueueTasks)
    {id : String} (hid : id ∈ rowDependencyIds task) :
    ((after perform s history).getAgentQueueTask task.workspaceId id).isSome ∨
      DeletedIn s history task.workspaceId id := by
  induction history using List.reverseRecOn generalizing task with
  | nil => exact absurd htask (hs.tasks task)
  | append_singleton history op ih =>
    rw [after_concat] at htask ⊢
    have hbefore : ((after perform s history).getAgentQueueTask task.workspaceId id).isSome ∨
        DeletedIn s history task.workspaceId id := by
      rcases dependency_isSome_or_old htask hid with hthere | ⟨old, hold, hws, hdep⟩
      · exact Or.inl hthere
      · exact hws ▸ ih hold hdep
    rcases hbefore with hthere | hdeleted
    · rcases isSome_or_deleted op hthere with hstill | ⟨d, input, rfl, hgone⟩
      · exact Or.inl hstill
      · exact Or.inr ⟨history, d, input, [], rfl, hthere, hgone⟩
    · exact Or.inr (hdeleted.concat op)

/-- The deletion of a task that another one waits for. -/
def deletionOfUpstream : List Op :=
  [.createTask (drawsAt 1) (taskInput "w" "queued" []),
    .createTask (drawsAt 2) (taskInput "w" "queued" ["queue_task_1000000000_0"]),
    .deleteTask (drawsAt 3) ⟨"w", "queue_task_1000000000_0"⟩]

/-- The task that is left names no task that exists. -/
theorem dangling_dependency_deletionOfUpstream :
    ∃ task ∈ (after perform (oneWorkspace "w") deletionOfUpstream).listAgentQueueTasks "w",
      ∃ id ∈ rowDependencyIds task,
        (after perform (oneWorkspace "w") deletionOfUpstream).getAgentQueueTask "w" id = none := by
  decide +kernel

theorem dependency_exists_or_deleted_deletionOfUpstream :
    ∃ task ∈ (after perform (oneWorkspace "w") deletionOfUpstream).agentQueueTasks,
      ∃ id ∈ rowDependencyIds task,
        ((after perform (oneWorkspace "w") deletionOfUpstream).getAgentQueueTask
          task.workspaceId id).isSome ∨
        DeletedIn (oneWorkspace "w") deletionOfUpstream task.workspaceId id := by
  have hleft : ∃ task ∈
      (after perform (oneWorkspace "w") deletionOfUpstream).listAgentQueueTasks "w",
      ∃ id ∈ rowDependencyIds task, id = "queue_task_1000000000_0" := by
    decide +kernel
  obtain ⟨task, htask, id, hid, -⟩ := hleft
  have hstored := (mem_listAgentQueueTasks.1 htask).1
  exact ⟨task, hstored, id, hid,
    dependency_exists_or_deleted (empty_oneWorkspace "w") deletionOfUpstream hstored hid⟩

end HobitQueue
