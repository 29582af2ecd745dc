import HobitQueue.PromptPack.Created

/-!
# Packs that are stored

A pack is stored with its Queue tasks when its row has the hashes of the preview, each of
its tasks has a mapping, and each mapped Queue task is the task of the pack, with the
dependencies in the order in which they were written. The comparison of such a pack comes
out as reusable exactly when that order is also the order of the Queue ids.

## Main results

* `StoredPack.state` — the comparison of a stored pack.
* `CreatedPack.stored`, `CreatedPack.keeps` — what the creation of a pack leaves.
* `materializeAgentQueuePromptPack_keeps` — every materialization keeps what was there.
-/

namespace HobitQueue

open Concurrent StoreProg Relational

/-- A database holds a pack, and for each of its tasks the Queue task of the given id. -/
structure StoredPack (preview : AgentQueuePromptPackPreview) (queueTaskId : String → String)
    (ps : PromptPackStore) : Prop where
  workspace : ps.store.hasWorkspace preview.workspaceId = true
  record : ∃ row, ps.getMaterialization preview.workspaceId preview.pack.packId = some row ∧
    row.packSpecHash = preview.packSpecHash ∧ sameMaterializationHashes row preview = true
  count : (ps.listTaskMappings preview.workspaceId preview.pack.packId).length =
    preview.taskCount
  mapping : ∀ task ∈ preview.tasks, ∃ row,
    (ps.listTaskMappings preview.workspaceId preview.pack.packId).find?
      (·.packTaskId == task.id) = some row ∧
    row.queueTaskId = queueTaskId task.id ∧ row.taskSpecHash = task.taskSpecHash
  only : ∀ row ∈ ps.listTaskMappings preview.workspaceId preview.pack.packId,
    ∃ task ∈ preview.tasks, row.queueTaskId = queueTaskId task.id
  task : ∀ task ∈ preview.tasks, ∃ row,
    ps.store.getAgentQueueTask preview.workspaceId (queueTaskId task.id) = some row ∧
    validateDurableTaskMatchesPreview preview task row = true ∧
    row.dependsOn = dependenciesJson (task.dependsOn.map queueTaskId)

/-- The dependencies of every task, in the order of their pack ids, are in the order of
their Queue ids. -/
def SortsAlike (queueTaskId : String → String) (preview : AgentQueuePromptPackPreview) : Prop :=
  ∀ task ∈ preview.tasks, (task.dependsOn.map queueTaskId).Pairwise (· ≤ ·)

instance (queueTaskId : String → String) (preview : AgentQueuePromptPackPreview) :
    Decidable (SortsAlike queueTaskId preview) :=
  inferInstanceAs (Decidable (∀ task ∈ preview.tasks, _))

/-- The Queue ids of a stored pack, task by task. -/
def storedIds (preview : AgentQueuePromptPackPreview) (queueTaskId : String → String) :
    ValidatedPromptPackMaterialization where
  queueTaskIdsByPackTaskId := preview.tasks.map fun task => (task.id, queueTaskId task.id)
  dependencyQueueTaskIdsByPackTaskId :=
    preview.tasks.map fun task => (task.id, task.dependsOn.map queueTaskId)

theorem sortedStrings_eq_self {texts : List String} :
    sortedStrings texts = texts ↔ texts.Pairwise (· ≤ ·) := by
  constructor
  · intro h
    rw [← h]
    exact List.pairwise_insertionSort _ texts
  · intro h
    exact h.insertionSort_eq

section State

variable {preview : AgentQueuePromptPackPreview} {queueTaskId : String → String}
  {ps : PromptPackStore}

/-- The mapped tasks of a stored pack. -/
theorem StoredPack.mapped (h : StoredPack preview queueTaskId ps) :
    ∃ row : AgentQueuePromptPackTaskPreview → AgentQueueTaskRow,
      (∀ task ∈ preview.tasks,
        (row task).dependsOn = dependenciesJson (task.dependsOn.map queueTaskId)) ∧
      preview.tasks.mapM (mappedPackTask ps preview
          (ps.listTaskMappings preview.workspaceId preview.pack.packId)) =
        .ok (preview.tasks.map fun task => ⟨task, queueTaskId task.id, row task⟩) := by
  have hrow : ∀ task : AgentQueuePromptPackTaskPreview, ∃ row : AgentQueueTaskRow,
      task ∈ preview.tasks →
        row.dependsOn = dependenciesJson (task.dependsOn.map queueTaskId) ∧
        mappedPackTask ps preview
          (ps.listTaskMappings preview.workspaceId preview.pack.packId) task =
            .ok ⟨task, queueTaskId task.id, row⟩ := by
    intro task
    by_cases htask : task ∈ preview.tasks
    · obtain ⟨mapping, hfind, hid, hhash⟩ := h.mapping task htask
      obtain ⟨row, hget, hmatch, hdeps⟩ := h.task task htask
      refine ⟨row, fun _ => ⟨hdeps, ?_⟩⟩
      rw [mappedPackTask, hfind]
      simp only
      rw [if_neg (not_not.2 hhash), hid, hget]
      simp only
      rw [if_pos hmatch]
    · exact ⟨newPackTaskRow preview task "" "", fun hmem => absurd hmem htask⟩
  choose row hrow using hrow
  refine ⟨row, fun task htask => (hrow task htask).1, ?_⟩
  exact Checks.mapM_eq_map fun task htask => (hrow task htask).2

/-- The dependency check of a task whose Queue task has its dependencies. -/
theorem mappedDependencies_eq {ids : List (String × String)} {mapped : MappedPackTask}
    (hids : ∀ dep ∈ mapped.task.dependsOn, ids.lookup dep = some (queueTaskId dep))
    (hdeps : mapped.durableTask.dependsOn =
      dependenciesJson (mapped.task.dependsOn.map queueTaskId)) :
    mappedDependencies ids mapped =
      if sortedStrings (mapped.task.dependsOn.map queueTaskId) ≠
          mapped.task.dependsOn.map queueTaskId then
        .error (mappingConflict ("prompt pack mapped queue task dependencies differ for " ++
          "pack task " ++ mapped.task.id))
      else .ok (mapped.task.id, mapped.task.dependsOn.map queueTaskId) := by
  have hparse : parseQueueTaskDependencyIds mapped.durableTask.dependsOn =
      .ok (mapped.task.dependsOn.map queueTaskId) := by
    rw [hdeps, parseQueueTaskDependencyIds, dependenciesJson, JsonText.parseStrings_ofStrings]
  rw [mappedDependencies, dependencyQueueTaskIds_eq hids, hparse]
  by_cases hsorted : sortedStrings (mapped.task.dependsOn.map queueTaskId) =
      mapped.task.dependsOn.map queueTaskId
  · rw [if_neg (not_not.2 hsorted)]
    simp only [Except.mapError, bind, Except.bind, refuseIf, hsorted, bne_self_eq_false,
      Bool.false_eq_true, ↓reduceIte]
    rfl
  · rw [if_pos hsorted]
    have hne : (sortedStrings (mapped.task.dependsOn.map queueTaskId) !=
        mapped.task.dependsOn.map queueTaskId) = true := by simpa using hsorted
    simp only [Except.mapError, bind, Except.bind, refuseIf, hne, ↓reduceIte]
    rfl

/-- The hashes of a stored pack agree, so that its tasks decide. -/
theorem StoredPack.state_eq (h : StoredPack preview queueTaskId ps) :
    materializationState ps preview =
      match validateExistingMaterialization ps preview with
      | .ok validated => .reusable validated
      | .error error => .conflict error := by
  obtain ⟨record, hrecord, hhash, hhashes⟩ := h.record
  rw [materializationState, hrecord]
  simp only
  exact (if_neg (not_not.2 hhash)).trans (if_pos hhashes)

/-- **The comparison of a stored pack**: it is reusable when the orders of the two kinds
of ids agree, and in conflict otherwise. -/
theorem StoredPack.state (hp : preview.WellFormed) (h : StoredPack preview queueTaskId ps) :
    (SortsAlike queueTaskId preview →
      materializationState ps preview = .reusable (storedIds preview queueTaskId)) ∧
    (¬ SortsAlike queueTaskId preview →
      ∃ error, materializationState ps preview = .conflict error) := by
  obtain ⟨row, hdeps, hmapped⟩ := h.mapped
  have hstate := h.state_eq
  have hids : (preview.tasks.map fun task : AgentQueuePromptPackTaskPreview =>
      (⟨task, queueTaskId task.id, row task⟩ : MappedPackTask)).map
        (fun entry => (entry.task.id, entry.queueTaskId)) =
      preview.tasks.map fun task => (task.id, queueTaskId task.id) := by
    rw [List.map_map]
    rfl
  have hlookup : ∀ id ∈ preview.tasks.map (·.id),
      (preview.tasks.map fun task => (task.id, queueTaskId task.id)).lookup id =
        some (queueTaskId id) := by
    intro id hid
    obtain ⟨task, htask, rfl⟩ := List.mem_map.1 hid
    exact Checks.lookup_map hp.ids (fun task => queueTaskId task.id) htask
  have hvalidate : validateExistingMaterialization ps preview =
      ((preview.tasks.map fun task : AgentQueuePromptPackTaskPreview =>
        (⟨task, queueTaskId task.id, row task⟩ : MappedPackTask)).mapM
          (mappedDependencies (preview.tasks.map fun task =>
            (task.id, queueTaskId task.id)))).bind fun dependencies =>
        .ok ⟨preview.tasks.map fun task => (task.id, queueTaskId task.id), dependencies⟩ := by
    rw [validateExistingMaterialization, h.count, hmapped, hids.symm]
    simp only [bne_self_eq_false, refuseIf, Bool.false_eq_true, ↓reduceIte, bind, Except.bind]
    rfl
  have hcheck : ∀ task ∈ preview.tasks,
      mappedDependencies (preview.tasks.map fun task => (task.id, queueTaskId task.id))
          ⟨task, queueTaskId task.id, row task⟩ =
        if sortedStrings (task.dependsOn.map queueTaskId) ≠ task.dependsOn.map queueTaskId then
          .error (mappingConflict ("prompt pack mapped queue task dependencies differ for " ++
            "pack task " ++ task.id))
        else .ok (task.id, task.dependsOn.map queueTaskId) := by
    intro task htask
    refine mappedDependencies_eq ?_ (hdeps task htask)
    intro dep hdep
    exact hlookup dep (hp.known task htask dep hdep)
  rw [hstate, hvalidate]
  constructor
  · intro hsorted
    have hall : (preview.tasks.map fun task : AgentQueuePromptPackTaskPreview =>
        (⟨task, queueTaskId task.id, row task⟩ : MappedPackTask)).mapM
          (mappedDependencies (preview.tasks.map fun task =>
            (task.id, queueTaskId task.id))) =
        .ok ((preview.tasks.map fun task : AgentQueuePromptPackTaskPreview =>
          (⟨task, queueTaskId task.id, row task⟩ : MappedPackTask)).map fun entry =>
            (entry.task.id, entry.task.dependsOn.map queueTaskId)) := by
      refine Checks.mapM_eq_map ?_
      intro entry hentry
      obtain ⟨task, htask, rfl⟩ := List.mem_map.1 hentry
      rw [hcheck task htask, if_neg (not_not.2 (sortedStrings_eq_self.2 (hsorted task htask)))]
    rw [hall, List.map_map]
    rfl
  · intro hnot
    cases hall : (preview.tasks.map fun task : AgentQueuePromptPackTaskPreview =>
        (⟨task, queueTaskId task.id, row task⟩ : MappedPackTask)).mapM
          (mappedDependencies (preview.tasks.map fun task =>
            (task.id, queueTaskId task.id))) with
    | error e => exact ⟨e, rfl⟩
    | ok deps =>
      refine absurd ?_ hnot
      intro task htask
      have hentry := Checks.exists_mapM_ok.1 ⟨deps, hall⟩ _ (List.mem_map_of_mem htask)
      obtain ⟨b, hb⟩ := hentry
      rw [hcheck task htask] at hb
      by_contra hunsorted
      rw [if_pos fun heq => hunsorted (sortedStrings_eq_self.1 heq)] at hb
      cases hb

end State

/-! ## After a materialization -/

namespace PromptPackStore

theorem getMaterialization_eq_some {ps : PromptPackStore} {ws pack : String}
    {row : AgentQueuePromptPackMaterializationRow} :
    ps.getMaterialization ws pack = some row ↔
      row ∈ ps.materializations ∧ row.workspaceId = ws ∧ row.packId = pack := by
  rw [getMaterialization, Table.find_eq_some]
  · simp
  · intro a b ha hb
    simp only [Bool.and_eq_true, beq_iff_eq] at ha hb
    exact ⟨("pack", [a.workspaceId, a.packId]), List.mem_singleton.2 rfl,
      by simp [Row.keys, ha, hb]⟩

theorem mem_listTaskMappings {ps : PromptPackStore} {ws pack : String}
    {row : AgentQueuePromptPackTaskMappingRow} :
    row ∈ ps.listTaskMappings ws pack ↔
      row ∈ ps.taskMappings ∧ row.workspaceId = ws ∧ row.packId = pack := by
  rw [listTaskMappings, (List.perm_insertionSort _ _).mem_iff, List.mem_filter]
  simp [Table.mem_def]

/-- Mappings of other packs do not show in the list of a pack. -/
theorem listTaskMappings_append {s t : PromptPackStore}
    {new : List AgentQueuePromptPackTaskMappingRow}
    (hrows : t.taskMappings.rows = s.taskMappings.rows ++ new) {ws pack : String}
    (hother : ∀ row ∈ new, ¬ (row.workspaceId = ws ∧ row.packId = pack)) :
    t.listTaskMappings ws pack = s.listTaskMappings ws pack := by
  have hnone : new.filter (fun m => m.workspaceId == ws && m.packId == pack) = [] := by
    rw [List.filter_eq_nil_iff]
    intro row hrow
    simpa using hother row hrow
  rw [listTaskMappings, hrows, List.filter_append, hnone, List.append_nil, listTaskMappings]

end PromptPackStore

section Created

variable {d : Draws} {preview : AgentQueuePromptPackPreview} {s t : PromptPackStore}

/-- A pack that is created was not there. -/
theorem CreatedPack.new (c : CreatedPack d preview s t) :
    ∀ row ∈ s.materializations,
      ¬ (row.workspaceId = preview.workspaceId ∧ row.packId = preview.pack.packId) := by
  rintro row hrow ⟨hws, hpack⟩
  refine Table.not_clash_of_insert c.record hrow ?_
  exact ⟨("pack", [row.workspaceId, row.packId]), List.mem_singleton.2 rfl,
    by simp [Row.keys, newMaterializationRow, hws, hpack]⟩

/-- The mappings of a pack that was created. -/
theorem CreatedPack.mem_mappings (c : CreatedPack d preview s t)
    {row : AgentQueuePromptPackTaskMappingRow} :
    row ∈ t.listTaskMappings preview.workspaceId preview.pack.packId ↔
      ∃ task ∈ preview.tasks, row = newTaskMappingRow preview task
        (drawnQueueTaskId d preview task.id) (d.timestamp 0) := by
  rw [PromptPackStore.mem_listTaskMappings, Table.mem_def, c.mappings, List.mem_append]
  constructor
  · rintro ⟨hold | hnew, hws, hpack⟩
    · obtain ⟨-, record, hrecord, hrws, hrpack⟩ := s.mapped row hold
      exact absurd ⟨hrws.trans hws, hrpack.trans hpack⟩ (c.new record hrecord)
    · obtain ⟨task, htask, rfl⟩ := List.mem_map.1 hnew
      exact ⟨task, mem_sortedPackTasks.1 htask, rfl⟩
  · rintro ⟨task, htask, rfl⟩
    exact ⟨Or.inr (List.mem_map_of_mem (mem_sortedPackTasks.2 htask)), rfl, rfl⟩

/-- **A pack that was created is stored**, with the Queue ids that were drawn for it. -/
theorem CreatedPack.stored (hp : preview.WellFormed) (c : CreatedPack d preview s t) :
    StoredPack preview (drawnQueueTaskId d preview) t := by
  have hrecord : newMaterializationRow preview (d.timestamp 0) ∈ t.materializations :=
    (Table.mem_insert c.record _).2 (Or.inr rfl)
  refine ⟨t.workspaces _ hrecord, ⟨_, PromptPackStore.getMaterialization_eq_some.2
    ⟨hrecord, rfl, rfl⟩, rfl, by simp [sameMaterializationHashes, newMaterializationRow]⟩,
    ?_, ?_, ?_, ?_⟩
  · have hold : s.taskMappings.rows.filter (fun m => m.workspaceId == preview.workspaceId &&
        m.packId == preview.pack.packId) = [] := by
      rw [List.filter_eq_nil_iff]
      intro m hm
      obtain ⟨-, record, hmem, hrws, hrpack⟩ := s.mapped m hm
      have hnot := c.new record hmem
      rw [hrws, hrpack] at hnot
      simpa using hnot
    have hnew : ((sortedPackTasks preview.tasks).map fun task =>
        newTaskMappingRow preview task (drawnQueueTaskId d preview task.id)
          (d.timestamp 0)).filter (fun m => m.workspaceId == preview.workspaceId &&
            m.packId == preview.pack.packId) =
        (sortedPackTasks preview.tasks).map fun task =>
          newTaskMappingRow preview task (drawnQueueTaskId d preview task.id)
            (d.timestamp 0) := by
      rw [List.filter_eq_self]
      intro m hm
      obtain ⟨task, -, rfl⟩ := List.mem_map.1 hm
      simp [newTaskMappingRow]
    rw [PromptPackStore.listTaskMappings, List.length_insertionSort, c.mappings,
      List.filter_append, hold, hnew, List.nil_append, List.length_map, hp.taskCount]
    exact (sortedPackTasks_perm preview.tasks).length_eq
  · intro task htask
    have hrow := c.mem_mappings.2 ⟨task, htask, rfl⟩
    cases hfind : (t.listTaskMappings preview.workspaceId preview.pack.packId).find?
        (·.packTaskId == task.id) with
    | none =>
      have hnone := List.find?_eq_none.1 hfind _ hrow
      simp [newTaskMappingRow] at hnone
    | some row =>
      obtain ⟨other, hother, rfl⟩ := c.mem_mappings.1 (List.mem_of_find?_eq_some hfind)
      have hid : other.id = task.id := by
        have hsat := List.find?_some hfind
        simpa [newTaskMappingRow] using hsat
      obtain rfl := List.inj_on_of_nodup_map hp.ids hother htask hid
      exact ⟨_, rfl, rfl, rfl⟩
  · intro row hrow
    obtain ⟨task, htask, rfl⟩ := c.mem_mappings.1 hrow
    exact ⟨task, htask, rfl⟩
  · intro task htask
    refine ⟨_, c.tasks task htask, ?_, rfl⟩
    simp [validateDurableTaskMatchesPreview, AgentQueueTaskUpdate.apply, packTaskUpdate]

theorem CreatedPack.keeps (c : CreatedPack d preview s t) : s.Keeps t := by
  refine ⟨c.workspace, c.others, ?_, ?_⟩
  · intro ws pack row hrow
    rw [PromptPackStore.getMaterialization_eq_some] at hrow ⊢
    exact ⟨(Table.mem_insert c.record row).2 (Or.inl hrow.1), hrow.2⟩
  · intro ws pack row hrow
    obtain ⟨hmem, rfl, rfl⟩ := PromptPackStore.getMaterialization_eq_some.1 hrow
    refine PromptPackStore.listTaskMappings_append c.mappings ?_
    intro m hm
    obtain ⟨task, -, rfl⟩ := List.mem_map.1 hm
    rintro ⟨hws, hpack⟩
    exact c.new row hmem ⟨hws.symm, hpack.symm⟩

end Created

/-! ## The commands -/

/-- A materialization in its transaction, case by case. -/
theorem exec_materializePromptPack {d : Draws} {preview : AgentQueuePromptPackPreview}
    {s : PromptPackStore} :
    exec (materializePromptPackInTransaction d preview) s =
      if s.store.hasWorkspace preview.workspaceId then
        match materializationState s preview with
        | .reusable validated => (.ok (materializeReusedResult preview validated), s)
        | .conflict error => (.ok (materializeConflictResult preview error), s)
        | .notMaterialized => exec (createPromptPackTasks d preview) s
      else (.ok (materializeConflictResult preview (diagnostic "workspace_not_found"
        "Prompt pack materialization requires an existing workspace."
        (some "$.workspaceId"))), s) := by
  rw [materializePromptPackInTransaction, exec_query_bind, exec_ite]
  cases hws : s.store.getWorkspace preview.workspaceId with
  | none => simp [SqliteStore.hasWorkspace, hws]
  | some row =>
    simp only [SqliteStore.hasWorkspace, hws, Option.isNone_some, Option.isSome_some,
      Bool.false_eq_true, ↓reduceIte]
    rw [exec_query_bind]
    cases materializationState s preview <;> rfl

/-- A materialization of an invalid payload, and of a valid one. -/
theorem exec_materializeAgentQueuePromptPack {d : Draws}
    {request : AgentQueuePromptPackMaterializeRequest} {s : PromptPackStore} :
    exec (materializeAgentQueuePromptPack d request) s =
      match parsePromptPack request with
      | .error error => (.ok (materializeFailedResult [error]), s)
      | .ok preview =>
          exec ((StoreProg.atomically (materializePromptPackInTransaction d preview)).mapErr
            mapStorageAgentQueueTaskError) s := by
  rw [materializeAgentQueuePromptPack, parseAndPreviewAgentQueuePromptPack]
  cases parsePromptPack request <;> rfl

/-- **Every materialization keeps the packs and the Queue tasks that were there.** -/
theorem materializeAgentQueuePromptPack_keeps {d : Draws}
    {request : AgentQueuePromptPackMaterializeRequest} {s t : PromptPackStore}
    {r : Except WorkspaceServiceError AgentQueuePromptPackMaterializeResult}
    (h : exec (materializeAgentQueuePromptPack d request) s = (r, t)) : s.Keeps t := by
  rw [exec_materializeAgentQueuePromptPack] at h
  cases hparse : parsePromptPack request with
  | error error =>
    rw [hparse] at h
    obtain ⟨-, rfl⟩ := Prod.mk.inj h
    exact PromptPackStore.Keeps.refl s
  | ok preview =>
    rw [hparse] at h
    simp only at h
    rw [exec_mapErr] at h
    obtain ⟨hr, ht⟩ := Prod.mk.inj h
    rcases hrun : exec (StoreProg.atomically (materializePromptPackInTransaction d preview)) s
      with ⟨e | result, u⟩
    · rw [hrun] at ht
      obtain rfl : u = t := ht
      rw [StoreProg.exec_atomically_error hrun]
      exact PromptPackStore.Keeps.refl s
    · rw [hrun] at ht
      obtain rfl : u = t := ht
      have htx := StoreProg.exec_atomically_ok.1 hrun
      rw [exec_materializePromptPack] at htx
      split at htx
      · split at htx
        · obtain ⟨-, rfl⟩ := Prod.mk.inj htx
          exact PromptPackStore.Keeps.refl s
        · obtain ⟨-, rfl⟩ := Prod.mk.inj htx
          exact PromptPackStore.Keeps.refl s
        · exact (createPromptPackTasks_ok (parsePromptPack_wellFormed hparse) htx).1.keeps
      · obtain ⟨-, rfl⟩ := Prod.mk.inj htx
        exact PromptPackStore.Keeps.refl s

end HobitQueue
