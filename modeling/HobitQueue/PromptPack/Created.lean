import HobitQueue.PromptPack.Materialize
import HobitQueue.PromptPack.WellFormed

/-!
# What a materialization creates

A pack that is materialized gets a row, and each of its tasks a Queue task and a mapping.
The ids are drawn in the order of the task ids; the dependencies of a task are written
afterwards as the ids drawn for them, in the order of their task ids.

## Main results

* `insertPackTasks_ok`, `linkPackTasks_ok` — the tasks with their mappings, and their dependencies.
* `createPromptPackTasks_ok` — what a materialization creates, and that it keeps what was there.
-/

namespace HobitQueue

open Concurrent StoreProg Relational

/-! ## Places and ids -/

/-- The Queue id drawn for a task of a pack: the one drawn at the place of its id. -/
def drawnQueueTaskId (d : Draws) (preview : AgentQueuePromptPackPreview)
    (packTaskId : String) : String :=
  packQueueTaskId d (((sortedPackTasks preview.tasks).map (·.id)).idxOf packTaskId)

theorem mem_sortedPackTasks {task : AgentQueuePromptPackTaskPreview}
    {tasks : List AgentQueuePromptPackTaskPreview} :
    task ∈ sortedPackTasks tasks ↔ task ∈ tasks :=
  (List.perm_insertionSort _ tasks).mem_iff

theorem sortedPackTasks_perm (tasks : List AgentQueuePromptPackTaskPreview) :
    (sortedPackTasks tasks).Perm tasks := List.perm_insertionSort _ tasks

/-- What is computed from the tasks and their places is computed from their ids. -/
theorem map_zipIdx_sorted {β : Type} {d : Draws} {preview : AgentQueuePromptPackPreview}
    (hp : preview.WellFormed) (g : AgentQueuePromptPackTaskPreview → String → β) :
    ((sortedPackTasks preview.tasks).zipIdx.map fun e => g e.1 (packQueueTaskId d e.2)) =
      (sortedPackTasks preview.tasks).map fun task =>
        g task (drawnQueueTaskId d preview task.id) := by
  have hids : ((sortedPackTasks preview.tasks).map (·.id)).Nodup :=
    ((sortedPackTasks_perm preview.tasks).map (·.id)).nodup_iff.2 hp.ids
  refine List.ext_getElem (by simp) ?_
  intro i hi hi'
  have hlen : i < ((sortedPackTasks preview.tasks).map (·.id)).length := by simpa using hi
  have hplace := hids.idxOf_getElem i hlen
  rw [List.getElem_map] at hplace
  simp [drawnQueueTaskId, hplace]

/-! ## The writes one by one -/

/-- A Queue task is created beside the packs. -/
theorem onStore_createTask {row a : AgentQueueTaskRow} {s u : PromptPackStore}
    (h : s.onStore (fun st => st.createAgentQueueTask row) = .ok (a, u)) :
    u.materializations = s.materializations ∧ u.taskMappings = s.taskMappings ∧
      ∃ tasks, s.store.agentQueueTasks.insert row = some tasks ∧
        u.store = { s.store with agentQueueTasks := tasks } := by
  obtain ⟨st, hst, rfl⟩ := PromptPackStore.onStore_ok.1 h
  rw [SqliteStore.createAgentQueueTask, SqliteStore.inserted_ok] at hst
  obtain ⟨-, -, tasks, hins, rfl⟩ := hst
  have htask : ∀ id, s.store.hasTask id = true →
      (tasks.find (·.queueItemId == id)).isSome = true := by
    intro id hid
    rw [Table.find_insert hins, Option.isSome_or]
    rw [SqliteStore.hasTask, SqliteStore.getAgentQueueTaskById] at hid
    rw [hid, Bool.true_or]
  obtain ⟨hm, ht⟩ := @PromptPackStore.withStore_tables s
    { s.store with agentQueueTasks := tasks } (fun _ hid => hid) htask
  exact ⟨hm, ht, tasks, hins, rfl⟩

/-- The Queue tasks after the update of one of them. -/
def updatedTasks (s : SqliteStore) (workspaceId queueTaskId : String)
    (update : AgentQueueTaskUpdate) : Table AgentQueueTaskRow :=
  s.agentQueueTasks.update
    (fun r => r.workspaceId == workspaceId && r.queueItemId == queueTaskId) update.apply
    update.keys_apply

/-- A Queue task is updated beside the packs. -/
theorem onStore_updateTask {workspaceId queueTaskId : String} {update : AgentQueueTaskUpdate}
    {row : Option AgentQueueTaskRow} {s u : PromptPackStore}
    (h : s.onStore (fun st => st.updateAgentQueueTask workspaceId queueTaskId update) =
      .ok (row, u)) :
    u.materializations = s.materializations ∧ u.taskMappings = s.taskMappings ∧
      (∃ tasks, u.store = { s.store with agentQueueTasks := tasks }) ∧
      ∀ ws id, u.store.getAgentQueueTask ws id =
        (s.store.getAgentQueueTask ws id).map fun r =>
          if r.workspaceId == workspaceId && r.queueItemId == queueTaskId then update.apply r
          else r := by
  obtain ⟨st, hst, rfl⟩ := PromptPackStore.onStore_ok.1 h
  have hfind : ∀ p : AgentQueueTaskRow → Bool, (∀ r, p (update.apply r) = p r) →
      (updatedTasks s.store workspaceId queueTaskId update).find p =
        (s.store.agentQueueTasks.find p).map fun r =>
          if r.workspaceId == workspaceId && r.queueItemId == queueTaskId then update.apply r
          else r := fun p hp => Table.find_update hp
  have hst : st = { s.store with
      agentQueueTasks := updatedTasks s.store workspaceId queueTaskId update } :=
    (congrArg Prod.snd (Except.ok.inj hst)).symm
  subst hst
  have htask : ∀ id, s.store.hasTask id = true →
      ((updatedTasks s.store workspaceId queueTaskId update).find
        (·.queueItemId == id)).isSome = true := by
    intro id hid
    rw [hfind _ fun _ => rfl, Option.isSome_map]
    exact hid
  obtain ⟨hm, ht⟩ := @PromptPackStore.withStore_tables s
    { s.store with agentQueueTasks := updatedTasks s.store workspaceId queueTaskId update }
    (fun _ hid => hid) htask
  refine ⟨hm, ht, ⟨_, rfl⟩, ?_⟩
  intro ws id
  exact hfind _ fun _ => rfl

def touchedWorkspaces (s : SqliteStore) (workspaceId updatedAt : String) :
    Table WorkspaceRow :=
  s.workspaces.update (·.id == workspaceId) (fun r => { r with updatedAt := updatedAt })
    (WorkspaceRow.keys_touch updatedAt)

/-- The workspace is touched beside the packs. -/
theorem onStore_touchWorkspace {workspaceId updatedAt : String} {s u : PromptPackStore}
    (h : s.onStore (fun st => st.touchWorkspace workspaceId updatedAt) = .ok ((), u)) :
    u.materializations = s.materializations ∧ u.taskMappings = s.taskMappings ∧
      u.store.agentQueueTasks = s.store.agentQueueTasks ∧
      ∀ id, s.store.hasWorkspace id = true → u.store.hasWorkspace id = true := by
  obtain ⟨st, hst, rfl⟩ := PromptPackStore.onStore_ok.1 h
  have hst : st = { s.store with
      workspaces := touchedWorkspaces s.store workspaceId updatedAt } :=
    (congrArg Prod.snd (Except.ok.inj hst)).symm
  subst hst
  have hws : ∀ id, s.store.hasWorkspace id = true →
      ((touchedWorkspaces s.store workspaceId updatedAt).find (·.id == id)).isSome = true := by
    intro id hid
    rw [touchedWorkspaces, Table.find_update, Option.isSome_map]
    · exact hid
    · exact fun _ => rfl
  obtain ⟨hm, ht⟩ := @PromptPackStore.withStore_tables s
    { s.store with workspaces := touchedWorkspaces s.store workspaceId updatedAt } hws
    fun _ hid => hid
  exact ⟨hm, ht, rfl, hws⟩

/-! ## The tasks of a pack -/

section Tasks

variable {d : Draws} {preview : AgentQueuePromptPackPreview}

/-- What the first pass over the tasks does to the tables. -/
theorem insertPackTasks_ok {index : ℕ} {tasks : List AgentQueuePromptPackTaskPreview}
    {s t : PromptPackStore} {ids : List (String × String)}
    (h : exec (insertPackTasks d preview index tasks) s = (.ok ids, t)) :
    (ids = (tasks.zipIdx index).map fun e => (e.1.id, packQueueTaskId d e.2)) ∧
      t.materializations = s.materializations ∧
      (t.taskMappings.rows = s.taskMappings.rows ++ (tasks.zipIdx index).map fun e =>
        newTaskMappingRow preview e.1 (packQueueTaskId d e.2) (d.timestamp 0)) ∧
      ∃ table, t.store = { s.store with agentQueueTasks := table } ∧
        table.rows = s.store.agentQueueTasks.rows ++ (tasks.zipIdx index).map fun e =>
          newPackTaskRow preview e.1 (packQueueTaskId d e.2) (d.timestamp 0) := by
  induction tasks generalizing index s ids with
  | nil =>
    obtain ⟨hids, rfl⟩ := Prod.mk.inj h
    obtain rfl := Except.ok.inj hids
    exact ⟨rfl, rfl, by simp, _, rfl, by simp⟩
  | cons task rest ih =>
    rw [insertPackTasks, exec_bind_ok] at h
    obtain ⟨row, u, hcreate, h⟩ := h
    rw [exec_bind_ok] at h
    obtain ⟨_, v, hmap, h⟩ := h
    rw [exec_bind_ok] at h
    obtain ⟨later, w, hrest, hret⟩ := h
    obtain ⟨hids, rfl⟩ := Prod.mk.inj hret
    obtain rfl := Except.ok.inj hids
    obtain ⟨hum, hut, table, hins, hus⟩ := onStore_createTask (exec_execute_ok.1 hcreate)
    obtain ⟨hvs, hvm, hvt⟩ := PromptPackStore.insertTaskMapping_ok (exec_execute_ok.1 hmap)
    obtain ⟨rfl, hwm, hwt, table', hws, hrows⟩ := ih hrest
    refine ⟨by simp [List.zipIdx_cons], hwm.trans (hvm.trans hum), ?_, table', ?_, ?_⟩
    · rw [hwt, Table.rows_insert hvt, hut, List.zipIdx_cons, List.map_cons,
        List.append_assoc]
      rfl
    · rw [hws, hvs, hus]
    · rw [hrows, hvs, hus, Table.rows_insert hins, List.zipIdx_cons, List.map_cons,
        List.append_assoc]
      rfl

/-- The dependencies of a task as the ids of a map. -/
def mappedIds (ids : List (String × String)) (task : AgentQueuePromptPackTaskPreview) :
    List String := ((dependencyQueueTaskIds task ids).toOption).getD []

/-- What the second pass over the tasks does to the Queue tasks: each one gets its
dependencies, and the other rows stay as they are. -/
theorem linkPackTasks_ok {ids : List (String × String)}
    {tasks : List AgentQueuePromptPackTaskPreview} {s t : PromptPackStore}
    {linked : List (String × List String)}
    (hdistinct : (tasks.map fun task => ids.lookup task.id).Nodup)
    (h : exec (linkPackTasks d preview ids tasks) s = (.ok linked, t)) :
    (linked = tasks.map fun task => (task.id, mappedIds ids task)) ∧
      t.materializations = s.materializations ∧ t.taskMappings = s.taskMappings ∧
      (∃ table, t.store = { s.store with agentQueueTasks := table }) ∧
      (∀ task ∈ tasks, ∃ queueTaskId, ids.lookup task.id = some queueTaskId ∧
        t.store.getAgentQueueTask preview.workspaceId queueTaskId =
          (s.store.getAgentQueueTask preview.workspaceId queueTaskId).map
            (packTaskUpdate preview task (mappedIds ids task) (d.timestamp 0)).apply) ∧
      ∀ ws id, (∀ task ∈ tasks, ids.lookup task.id ≠ some id) →
        t.store.getAgentQueueTask ws id = s.store.getAgentQueueTask ws id := by
  induction tasks generalizing s linked with
  | nil =>
    obtain ⟨hlinked, rfl⟩ := Prod.mk.inj h
    obtain rfl := Except.ok.inj hlinked
    exact ⟨rfl, rfl, rfl, ⟨_, rfl⟩, by simp, fun _ _ _ => rfl⟩
  | cons task rest ih =>
    rw [List.map_cons, List.nodup_cons] at hdistinct
    rw [linkPackTasks, exec_bind_ok] at h
    obtain ⟨queueTaskId, u₀, hlookup, h⟩ := h
    obtain ⟨hq, rfl⟩ := Prod.mk.inj hlookup
    rw [exec_bind_ok] at h
    obtain ⟨deps, u₁, hcheck, h⟩ := h
    obtain ⟨hdeps, rfl⟩ := Prod.mk.inj hcheck
    rw [exec_bind_ok] at h
    obtain ⟨row, u, hupdate, h⟩ := h
    rw [exec_failIf_bind, guard_ok] at h
    obtain ⟨-, h⟩ := h
    rw [exec_bind_ok] at h
    obtain ⟨later, v, hrest, hret⟩ := h
    obtain ⟨hlinked, rfl⟩ := Prod.mk.inj hret
    obtain rfl := Except.ok.inj hlinked
    have hid : ids.lookup task.id = some queueTaskId := by
      cases hl : ids.lookup task.id with
      | none =>
        rw [hl] at hq
        cases hq
      | some id =>
        rw [hl] at hq
        exact congrArg some (Except.ok.inj hq)
    have hmapped : mappedIds ids task = deps := by
      rw [mappedIds, hdeps]
      rfl
    obtain ⟨hum, hut, ⟨table, hus⟩, hget⟩ := onStore_updateTask (exec_execute_ok.1 hupdate)
    obtain ⟨rfl, hvm, hvt, ⟨table', hvs⟩, heach, hframe⟩ := ih hdistinct.2 hrest
    have hother : ∀ ws id, id ≠ queueTaskId →
        u.store.getAgentQueueTask ws id = s.store.getAgentQueueTask ws id := by
      intro ws id hne
      rw [hget]
      cases hrow : s.store.getAgentQueueTask ws id with
      | none => rfl
      | some r =>
        have hrid : r.queueItemId = id := by
          have hsat := Table.sat_of_find hrow
          simp only [Bool.and_eq_true, beq_iff_eq] at hsat
          exact hsat.2
        have hr : (r.queueItemId == queueTaskId) = false := by
          rw [hrid]
          simpa using hne
        rw [Option.map_some, hr, Bool.and_false]
        rfl
    refine ⟨by rw [List.map_cons, hmapped], hvm.trans hum, hvt.trans hut,
      ⟨table', by rw [hvs, hus]⟩, ?_, ?_⟩
    · intro other hmem
      rcases List.mem_cons.1 hmem with rfl | hmem
      · refine ⟨queueTaskId, hid, ?_⟩
        rw [hframe _ _ fun later hlater heq => hdistinct.1
          (List.mem_map.2 ⟨later, hlater, heq.trans hid.symm⟩), hget, hmapped]
        cases hrow : s.store.getAgentQueueTask preview.workspaceId queueTaskId with
        | none => rfl
        | some r =>
          have hsat := Table.sat_of_find hrow
          rw [Option.map_some, Option.map_some, if_pos hsat]
      · obtain ⟨q, hlq, hrow⟩ := heach other hmem
        refine ⟨q, hlq, ?_⟩
        have hne : q ≠ queueTaskId := by
          rintro rfl
          exact hdistinct.1 (List.mem_map.2 ⟨other, hmem, hlq.trans hid.symm⟩)
        rw [hrow, hother _ _ hne]
    · intro ws id hnone
      rw [hframe ws id fun later hlater => hnone later (List.mem_cons_of_mem _ hlater)]
      refine hother ws id ?_
      rintro rfl
      exact hnone task List.mem_cons_self hid

end Tasks

/-! ## What a materialization keeps -/

/-- What one database held of packs and Queue tasks, another holds. -/
structure PromptPackStore.Keeps (s t : PromptPackStore) : Prop where
  workspace : ∀ id, s.store.hasWorkspace id = true → t.store.hasWorkspace id = true
  tasks : ∀ ws id row, s.store.getAgentQueueTask ws id = some row →
    t.store.getAgentQueueTask ws id = some row
  record : ∀ ws pack row, s.getMaterialization ws pack = some row →
    t.getMaterialization ws pack = some row
  mappings : ∀ ws pack row, s.getMaterialization ws pack = some row →
    t.listTaskMappings ws pack = s.listTaskMappings ws pack

theorem PromptPackStore.Keeps.refl (s : PromptPackStore) : s.Keeps s :=
  ⟨fun _ h => h, fun _ _ _ h => h, fun _ _ _ h => h, fun _ _ _ _ => rfl⟩

/-- The state of the tables after the creation of a pack, table by table. -/
structure CreatedPack (d : Draws) (preview : AgentQueuePromptPackPreview)
    (s t : PromptPackStore) : Prop where
  workspace : ∀ id, s.store.hasWorkspace id = true → t.store.hasWorkspace id = true
  record : s.materializations.insert (newMaterializationRow preview (d.timestamp 0)) =
    some t.materializations
  mappings : t.taskMappings.rows = s.taskMappings.rows ++
    (sortedPackTasks preview.tasks).map fun task => newTaskMappingRow preview task
      (drawnQueueTaskId d preview task.id) (d.timestamp 0)
  fresh : ∀ row ∈ s.store.agentQueueTasks, ∀ task ∈ preview.tasks,
    row.queueItemId ≠ drawnQueueTaskId d preview task.id
  distinct : ((sortedPackTasks preview.tasks).map fun task =>
    drawnQueueTaskId d preview task.id).Nodup
  tasks : ∀ task ∈ preview.tasks,
    t.store.getAgentQueueTask preview.workspaceId (drawnQueueTaskId d preview task.id) =
      some ((packTaskUpdate preview task
        (task.dependsOn.map (drawnQueueTaskId d preview)) (d.timestamp 0)).apply
        (newPackTaskRow preview task (drawnQueueTaskId d preview task.id) (d.timestamp 0)))
  others : ∀ ws id row, s.store.getAgentQueueTask ws id = some row →
    t.store.getAgentQueueTask ws id = some row

/-- The map of the drawn ids. -/
def drawnIds (d : Draws) (preview : AgentQueuePromptPackPreview) : List (String × String) :=
  (sortedPackTasks preview.tasks).map fun task =>
    (task.id, drawnQueueTaskId d preview task.id)

section Created

variable {d : Draws} {preview : AgentQueuePromptPackPreview}

theorem lookup_drawnIds (hp : preview.WellFormed) {id : String}
    (hid : id ∈ preview.tasks.map (·.id)) :
    (drawnIds d preview).lookup id = some (drawnQueueTaskId d preview id) := by
  obtain ⟨task, htask, rfl⟩ := List.mem_map.1 hid
  have hids : ((sortedPackTasks preview.tasks).map (·.id)).Nodup :=
    ((sortedPackTasks_perm preview.tasks).map (·.id)).nodup_iff.2 hp.ids
  exact Checks.lookup_map hids (fun task => drawnQueueTaskId d preview task.id)
    (mem_sortedPackTasks.2 htask)

/-- The dependencies of a task as the ids drawn for them. -/
theorem dependencyQueueTaskIds_eq {ids : List (String × String)} {queueTaskId : String → String}
    {task : AgentQueuePromptPackTaskPreview}
    (h : ∀ dep ∈ task.dependsOn, ids.lookup dep = some (queueTaskId dep)) :
    dependencyQueueTaskIds task ids = .ok (task.dependsOn.map queueTaskId) := by
  refine Checks.mapM_eq_map ?_
  intro dep hdep
  rw [h dep hdep]

theorem mappedIds_drawnIds (hp : preview.WellFormed) {task : AgentQueuePromptPackTaskPreview}
    (htask : task ∈ preview.tasks) :
    mappedIds (drawnIds d preview) task = task.dependsOn.map (drawnQueueTaskId d preview) := by
  rw [mappedIds, dependencyQueueTaskIds_eq fun dep hdep =>
    lookup_drawnIds hp (hp.known task htask dep hdep)]
  rfl

/-- **What the creation of a pack does to the tables**, and its answer. -/
theorem createPromptPackTasks_ok (hp : preview.WellFormed) {s t : PromptPackStore}
    {result : AgentQueuePromptPackMaterializeResult}
    (h : exec (createPromptPackTasks d preview) s = (.ok result, t)) :
    CreatedPack d preview s t ∧
      result = materializeCreatedResult preview ⟨drawnIds d preview,
        (sortedPackTasks preview.tasks).map fun task =>
          (task.id, task.dependsOn.map (drawnQueueTaskId d preview))⟩ := by
  rw [createPromptPackTasks, exec_bind_ok] at h
  obtain ⟨created, u₀, h, hpure⟩ := h
  obtain ⟨hanswer, rfl⟩ := Prod.mk.inj hpure
  obtain rfl := Except.ok.inj hanswer
  rw [insertPromptPack, exec_bind_ok] at h
  obtain ⟨_, s₁, hrecord, h⟩ := h
  rw [exec_bind_ok] at h
  obtain ⟨ids, u, hinsert, h⟩ := h
  rw [exec_bind_ok] at h
  obtain ⟨linked, v, hlink, h⟩ := h
  rw [exec_bind_ok] at h
  obtain ⟨_, w, htouch, hret⟩ := h
  obtain ⟨hcreated, rfl⟩ := Prod.mk.inj hret
  obtain rfl := Except.ok.inj hcreated
  obtain ⟨h₁s, h₁t, h₁m⟩ := PromptPackStore.insertMaterialization_ok (exec_execute_ok.1 hrecord)
  obtain ⟨hids, hum, hut, table, hus, hrows⟩ := insertPackTasks_ok hinsert
  rw [map_zipIdx_sorted hp fun task id => newTaskMappingRow preview task id (d.timestamp 0)]
    at hut
  rw [map_zipIdx_sorted hp fun task id => newPackTaskRow preview task id (d.timestamp 0),
    h₁s] at hrows
  rw [map_zipIdx_sorted hp fun task id => (task.id, id)] at hids
  change ids = drawnIds d preview at hids
  subst hids
  have hpairs := hrows ▸ table.unique
  obtain ⟨-, hnew, hcross⟩ := List.pairwise_append.1 hpairs
  have hfresh : ∀ row ∈ s.store.agentQueueTasks, ∀ task ∈ preview.tasks,
      row.queueItemId ≠ drawnQueueTaskId d preview task.id := by
    intro row hrow task htask heq
    refine hcross row hrow _ (List.mem_map_of_mem (mem_sortedPackTasks.2 htask)) ?_
    exact ⟨("queue_item_id", [row.queueItemId]), List.mem_singleton.2 rfl,
      by simp [Row.keys, newPackTaskRow, heq]⟩
  have hdistinct : ((sortedPackTasks preview.tasks).map fun task =>
      drawnQueueTaskId d preview task.id).Nodup := by
    rw [List.Nodup, List.pairwise_map]
    rw [List.pairwise_map] at hnew
    refine hnew.imp fun hclash heq => hclash ?_
    exact ⟨("queue_item_id", [_]), List.mem_singleton.2 rfl,
      by simp [Row.keys, newPackTaskRow, heq]⟩
  have hlookup : ∀ task ∈ preview.tasks, (drawnIds d preview).lookup task.id =
      some (drawnQueueTaskId d preview task.id) := fun task htask =>
    lookup_drawnIds hp (List.mem_map_of_mem htask)
  have hkeys : ((sortedPackTasks preview.tasks).map fun task =>
      (drawnIds d preview).lookup task.id).Nodup := by
    rw [List.map_congr_left fun task htask => hlookup task (mem_sortedPackTasks.1 htask)]
    simpa [List.Nodup, List.pairwise_map] using hdistinct
  obtain ⟨rfl, hvm, hvt, ⟨table', hvs⟩, heach, hframe⟩ := linkPackTasks_ok hkeys hlink
  obtain ⟨hwm, hwt, hwtasks, hwws⟩ := onStore_touchWorkspace (exec_execute_ok.1 htouch)
  have hget : ∀ ws id, w.store.getAgentQueueTask ws id = v.store.getAgentQueueTask ws id := by
    intro ws id
    rw [SqliteStore.getAgentQueueTask, hwtasks]
    rfl
  have hugetrows : ∀ ws id, u.store.getAgentQueueTask ws id =
      table.rows.find? fun r => r.workspaceId == ws && r.queueItemId == id := by
    intro ws id
    rw [hus]
    rfl
  refine ⟨⟨?_, ?_, ?_, hfresh, hdistinct, ?_, ?_⟩, ?_⟩
  · intro id hid
    refine hwws id ?_
    rw [hvs, hus, h₁s]
    exact hid
  · rw [hwm, hvm, hum]
    exact h₁m
  · rw [hwt, hvt, hut, h₁t]
  · intro task htask
    obtain ⟨queueTaskId, hid, hrow⟩ := heach task (mem_sortedPackTasks.2 htask)
    rw [hlookup task htask] at hid
    obtain rfl := Option.some.inj hid
    rw [hget, hrow, mappedIds_drawnIds hp htask]
    have hfound : u.store.getAgentQueueTask preview.workspaceId
        (drawnQueueTaskId d preview task.id) =
        some (newPackTaskRow preview task (drawnQueueTaskId d preview task.id)
          (d.timestamp 0)) := by
      rw [getAgentQueueTask_eq_some]
      refine ⟨?_, rfl, rfl⟩
      rw [hus]
      change _ ∈ table.rows
      rw [hrows]
      exact List.mem_append_right _ (List.mem_map_of_mem (mem_sortedPackTasks.2 htask))
    rw [hfound]
    rfl
  · intro ws id row hrow
    obtain ⟨hmem, -, hid⟩ := getAgentQueueTask_eq_some.1 hrow
    rw [hget, hframe ws id, hugetrows, hrows, List.find?_append]
    · have hold : s.store.agentQueueTasks.rows.find?
          (fun r => r.workspaceId == ws && r.queueItemId == id) = some row := hrow
      rw [hold]
      rfl
    · intro task htask heq
      rw [hlookup task (mem_sortedPackTasks.1 htask)] at heq
      exact hfresh row hmem task (mem_sortedPackTasks.1 htask)
        (hid.trans (Option.some.inj heq).symm)
  · refine congrArg (fun deps => materializeCreatedResult preview ⟨drawnIds d preview, deps⟩) ?_
    refine List.map_congr_left fun task htask => ?_
    rw [mappedIds_drawnIds hp (mem_sortedPackTasks.1 htask)]

end Created

end HobitQueue
