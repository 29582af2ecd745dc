import HobitQueue.PromptPack.Stored

/-!
# When a pack can be created

The creation of a pack that is not stored fails only when an id that is drawn for it is
taken: everything else that the database checks is there by the time it is needed.

## Main results

* `exists_createPromptPackTasks` — with fresh ids the creation succeeds.
* `freshIds_of_created` — and with other ids it does not.
-/

namespace HobitQueue

open Concurrent StoreProg Relational

/-- The ids drawn for a pack differ, and no Queue task has one of them. -/
def FreshIds (d : Draws) (preview : AgentQueuePromptPackPreview) (s : SqliteStore) : Prop :=
  ((sortedPackTasks preview.tasks).map fun task =>
    drawnQueueTaskId d preview task.id).Nodup ∧
  ∀ row ∈ s.agentQueueTasks, ∀ task ∈ preview.tasks,
    row.queueItemId ≠ drawnQueueTaskId d preview task.id

instance (d : Draws) (preview : AgentQueuePromptPackPreview) (s : SqliteStore) :
    Decidable (FreshIds d preview s) :=
  inferInstanceAs (Decidable (_ ∧ ∀ row ∈ s.agentQueueTasks, ∀ task ∈ preview.tasks, _))

section Possible

variable {d : Draws} {preview : AgentQueuePromptPackPreview}

/-- The first pass over the tasks succeeds with ids that are not taken. -/
theorem exists_insertPackTasks {tasks : List AgentQueuePromptPackTaskPreview} {index : ℕ}
    {s : PromptPackStore} (hws : s.store.hasWorkspace preview.workspaceId = true)
    (hpack : ∃ r ∈ s.materializations,
      r.workspaceId = preview.workspaceId ∧ r.packId = preview.pack.packId)
    (hnew : ∀ m ∈ s.taskMappings, m.workspaceId = preview.workspaceId →
      m.packId = preview.pack.packId → ∀ task ∈ tasks, m.packTaskId ≠ task.id)
    (hids : (tasks.map (·.id)).Nodup)
    (hfresh : ∀ row ∈ s.store.agentQueueTasks, ∀ e ∈ tasks.zipIdx index,
      row.queueItemId ≠ packQueueTaskId d e.2)
    (hdistinct : ((tasks.zipIdx index).map fun e => packQueueTaskId d e.2).Nodup) :
    ∃ ids t, exec (insertPackTasks d preview index tasks) s = (.ok ids, t) := by
  induction tasks generalizing index s with
  | nil => exact ⟨[], s, rfl⟩
  | cons task rest ih =>
    rw [List.map_cons, List.nodup_cons] at hids
    rw [List.zipIdx_cons, List.map_cons, List.nodup_cons] at hdistinct
    rw [List.zipIdx_cons] at hfresh
    have hfree : ∀ row ∈ s.store.agentQueueTasks, ¬ Clash row
        (newPackTaskRow preview task (packQueueTaskId d index) (d.timestamp 0)) := by
      rintro row hrow ⟨key, hkey, hkey'⟩
      simp only [Row.keys, List.mem_singleton, newPackTaskRow] at hkey hkey'
      rw [hkey, Prod.mk.injEq, List.cons.injEq] at hkey'
      exact hfresh row hrow (task, index) List.mem_cons_self hkey'.2.1
    obtain ⟨table, hins⟩ := Table.exists_insert hfree
    have hcreate : ∃ row u, s.onStore (fun st => st.createAgentQueueTask
        (newPackTaskRow preview task (packQueueTaskId d index) (d.timestamp 0))) =
          .ok (row, u) :=
      ⟨_, _, PromptPackStore.onStore_ok.2
        ⟨_, SqliteStore.inserted_ok.2 ⟨hws, rfl, table, hins, rfl⟩, rfl⟩⟩
    obtain ⟨row, u, hcreate⟩ := hcreate
    obtain ⟨hum, hut, table', hins', hus⟩ := onStore_createTask hcreate
    have hparents : u.HasParents (newTaskMappingRow preview task (packQueueTaskId d index)
        (d.timestamp 0)) := by
      refine ⟨?_, by simpa [hum, newTaskMappingRow] using hpack⟩
      have hmem : newPackTaskRow preview task (packQueueTaskId d index) (d.timestamp 0) ∈
          u.store.agentQueueTasks := by
        rw [hus]
        exact (Table.mem_insert hins' _).2 (Or.inr rfl)
      have hfound := getAgentQueueTaskById_eq_some.2 ⟨hmem, rfl⟩
      rw [SqliteStore.hasTask]
      exact Option.isSome_iff_exists.2 ⟨_, hfound⟩
    have hunmapped : ∀ m ∈ u.taskMappings, ¬ Clash m (newTaskMappingRow preview task
        (packQueueTaskId d index) (d.timestamp 0)) := by
      rw [hut]
      rintro m hm ⟨key, hkey, hkey'⟩
      simp only [Row.keys, List.mem_cons, List.not_mem_nil, or_false, newTaskMappingRow]
        at hkey hkey'
      rcases hkey with rfl | rfl <;> rcases hkey' with hkey' | hkey' <;>
        simp only [Prod.mk.injEq, List.cons.injEq, reduceCtorEq, and_true, true_and]
          at hkey'
      · exact hnew m hm hkey'.1 hkey'.2.1 task List.mem_cons_self hkey'.2.2
      · exact absurd hkey'.1 (by decide)
      · exact absurd hkey'.1 (by decide)
      · obtain ⟨found, hfound⟩ := Option.isSome_iff_exists.1 (s.mapped m hm).1
        obtain ⟨hmem, hid⟩ := getAgentQueueTaskById_eq_some.1 hfound
        exact hfresh found hmem (task, index) List.mem_cons_self (hid.trans hkey'.2)
    obtain ⟨v, hmap⟩ := PromptPackStore.exists_insertTaskMapping hparents hunmapped
    obtain ⟨hvs, hvm, hvt⟩ := PromptPackStore.insertTaskMapping_ok hmap
    have hrest : ∃ ids t, exec (insertPackTasks d preview (index + 1) rest) v =
        (.ok ids, t) := by
      refine ih ?_ ?_ ?_ hids.2 ?_ hdistinct.2
      · rw [hvs, hus]
        exact hws
      · rw [hvm, hum]
        exact hpack
      · intro m hm hmws hmpack other hother
        rcases (Table.mem_insert hvt m).1 hm with hm | rfl
        · rw [hut] at hm
          exact hnew m hm hmws hmpack other (List.mem_cons_of_mem _ hother)
        · intro heq
          exact hids.1 (List.mem_map.2 ⟨other, hother, heq.symm⟩)
      · intro r hr e he
        rw [hvs, hus] at hr
        rcases (Table.mem_insert hins' r).1 hr with hr | rfl
        · exact hfresh r hr e (List.mem_cons_of_mem _ he)
        · intro heq
          exact hdistinct.1 (List.mem_map.2 ⟨e, he, heq.symm⟩)
    obtain ⟨ids, t, hrest⟩ := hrest
    refine ⟨(task.id, packQueueTaskId d index) :: ids, t, ?_⟩
    rw [insertPackTasks, exec_bind_ok]
    refine ⟨row, u, exec_execute_ok.2 hcreate, ?_⟩
    rw [exec_bind_ok]
    refine ⟨(), v, exec_execute_ok.2 hmap, ?_⟩
    rw [exec_bind_ok]
    exact ⟨ids, t, hrest, rfl⟩

/-- The second pass succeeds when the Queue tasks are there. -/
theorem exists_linkPackTasks {ids : List (String × String)}
    {tasks : List AgentQueuePromptPackTaskPreview} {s : PromptPackStore}
    (hthere : ∀ task ∈ tasks, ∃ queueTaskId, ids.lookup task.id = some queueTaskId ∧
      (s.store.getAgentQueueTask preview.workspaceId queueTaskId).isSome = true)
    (hdeps : ∀ task ∈ tasks, ∃ deps, dependencyQueueTaskIds task ids = .ok deps) :
    ∃ linked t, exec (linkPackTasks d preview ids tasks) s = (.ok linked, t) := by
  induction tasks generalizing s with
  | nil => exact ⟨[], s, rfl⟩
  | cons task rest ih =>
    obtain ⟨queueTaskId, hid, hrow⟩ := hthere task List.mem_cons_self
    obtain ⟨deps, hdep⟩ := hdeps task List.mem_cons_self
    have hupdate : ∃ u, s.onStore (fun st => st.updateAgentQueueTask preview.workspaceId
        queueTaskId (packTaskUpdate preview task deps (d.timestamp 0))) =
          .ok (u.store.getAgentQueueTask preview.workspaceId queueTaskId, u) :=
      ⟨_, PromptPackStore.onStore_ok.2 ⟨_, rfl, rfl⟩⟩
    obtain ⟨u, hupdate⟩ := hupdate
    obtain ⟨-, -, -, hget⟩ := onStore_updateTask hupdate
    have hkept : ∀ id, (s.store.getAgentQueueTask preview.workspaceId id).isSome = true →
        (u.store.getAgentQueueTask preview.workspaceId id).isSome = true := by
      intro id h
      rw [hget, Option.isSome_map, h]
    obtain ⟨linked, t, hrest⟩ := @ih u
      (fun other hother => by
        obtain ⟨q, hq, hr⟩ := hthere other (List.mem_cons_of_mem _ hother)
        exact ⟨q, hq, hkept q hr⟩)
      (fun other hother => hdeps other (List.mem_cons_of_mem _ hother))
    refine ⟨(task.id, deps) :: linked, t, ?_⟩
    rw [linkPackTasks, exec_bind_ok]
    refine ⟨queueTaskId, s, by rw [exec_check, hid], ?_⟩
    rw [exec_bind_ok]
    refine ⟨deps, s, by rw [exec_check, hdep], ?_⟩
    rw [exec_bind_ok]
    refine ⟨_, u, exec_execute_ok.2 hupdate, ?_⟩
    have hsome : (u.store.getAgentQueueTask preview.workspaceId queueTaskId).isNone = false := by
      rw [Option.isNone_eq_false_iff]
      exact hkept queueTaskId hrow
    rw [hsome, exec_failIf_bind, if_neg (by decide), exec_bind_ok]
    exact ⟨linked, t, hrest, rfl⟩

/-- **A pack that is not stored is created** in its workspace when the ids that are drawn
for it are fresh. -/
theorem exists_createPromptPackTasks (hp : preview.WellFormed) {s : PromptPackStore}
    (hws : s.store.hasWorkspace preview.workspaceId = true)
    (hnew : s.getMaterialization preview.workspaceId preview.pack.packId = none)
    (hfresh : FreshIds d preview s.store) :
    ∃ result t, exec (createPromptPackTasks d preview) s = (.ok result, t) := by
  have hnopack : ∀ r ∈ s.materializations,
      ¬ (r.workspaceId = preview.workspaceId ∧ r.packId = preview.pack.packId) := by
    rintro r hr ⟨hrws, hrpack⟩
    rw [PromptPackStore.getMaterialization_eq_some.2 ⟨hr, hrws, hrpack⟩] at hnew
    cases hnew
  have hfree : ∀ r ∈ s.materializations, ¬ Clash r
      (newMaterializationRow preview (d.timestamp 0)) := by
    rintro r hr ⟨key, hkey, hkey'⟩
    simp only [Row.keys, List.mem_singleton, newMaterializationRow] at hkey hkey'
    rw [hkey, Prod.mk.injEq, List.cons.injEq, List.cons.injEq] at hkey'
    exact hnopack r hr ⟨hkey'.2.1, hkey'.2.2.1⟩
  obtain ⟨s₁, hrecord⟩ := @PromptPackStore.exists_insertMaterialization
    (newMaterializationRow preview (d.timestamp 0)) s hws hfree
  obtain ⟨h₁s, h₁t, h₁m⟩ := PromptPackStore.insertMaterialization_ok hrecord
  have hids : ((sortedPackTasks preview.tasks).map (·.id)).Nodup :=
    ((sortedPackTasks_perm preview.tasks).map (·.id)).nodup_iff.2 hp.ids
  have hplaces := map_zipIdx_sorted (d := d) hp fun _ id => id
  have hplace : ∀ e ∈ (sortedPackTasks preview.tasks).zipIdx, ∃ task ∈ preview.tasks,
      packQueueTaskId d e.2 = drawnQueueTaskId d preview task.id := by
    intro e he
    have hmem := List.mem_map_of_mem (f := fun e => packQueueTaskId d e.2) he
    rw [hplaces] at hmem
    obtain ⟨task, htask, heq⟩ := List.mem_map.1 hmem
    exact ⟨task, mem_sortedPackTasks.1 htask, heq.symm⟩
  have hinsert : ∃ ids u, exec (insertPackTasks d preview 0 (sortedPackTasks preview.tasks)) s₁ =
      (.ok ids, u) := by
    refine exists_insertPackTasks ?_ ?_ ?_ hids ?_ (by rw [hplaces]; exact hfresh.1)
    · rw [h₁s]
      exact hws
    · exact ⟨_, (Table.mem_insert h₁m _).2 (Or.inr rfl), rfl, rfl⟩
    · intro m hm hmws hmpack
      rw [h₁t] at hm
      obtain ⟨-, r, hr, hrws, hrpack⟩ := s.mapped m hm
      exact absurd ⟨hrws.trans hmws, hrpack.trans hmpack⟩ (hnopack r hr)
    · intro row hrow e he
      rw [h₁s] at hrow
      obtain ⟨task, htask, heq⟩ := hplace e he
      rw [heq]
      exact hfresh.2 row hrow task htask
  obtain ⟨ids, u, hinsert⟩ := hinsert
  obtain ⟨hids', -, -, table, hus, hrows⟩ := insertPackTasks_ok hinsert
  rw [map_zipIdx_sorted hp fun task id => (task.id, id)] at hids'
  change ids = drawnIds d preview at hids'
  subst hids'
  rw [map_zipIdx_sorted hp fun task id => newPackTaskRow preview task id (d.timestamp 0)]
    at hrows
  have hlink : ∃ linked v, exec (linkPackTasks d preview (drawnIds d preview)
      (sortedPackTasks preview.tasks)) u = (.ok linked, v) := by
    refine exists_linkPackTasks ?_ ?_
    · intro task htask
      have hmem := mem_sortedPackTasks.1 htask
      refine ⟨_, lookup_drawnIds hp (List.mem_map_of_mem hmem), ?_⟩
      have hrow : newPackTaskRow preview task (drawnQueueTaskId d preview task.id)
          (d.timestamp 0) ∈ u.store.agentQueueTasks := by
        rw [hus]
        change _ ∈ table.rows
        rw [hrows]
        exact List.mem_append_right _ (List.mem_map_of_mem htask)
      exact Option.isSome_iff_exists.2 ⟨_, getAgentQueueTask_eq_some.2 ⟨hrow, rfl, rfl⟩⟩
    · intro task htask
      exact ⟨_, dependencyQueueTaskIds_eq fun dep hdep =>
        lookup_drawnIds hp (hp.known task (mem_sortedPackTasks.1 htask) dep hdep)⟩
  obtain ⟨linked, v, hlink⟩ := hlink
  have htouch : ∃ w, v.onStore (fun st => st.touchWorkspace preview.workspaceId
      (d.timestamp ((sortedPackTasks preview.tasks).length + 1))) = .ok ((), w) :=
    ⟨_, PromptPackStore.onStore_ok.2 ⟨_, rfl, rfl⟩⟩
  obtain ⟨w, htouch⟩ := htouch
  refine ⟨materializeCreatedResult preview ⟨drawnIds d preview, linked⟩, w, ?_⟩
  rw [createPromptPackTasks, exec_bind_ok]
  refine ⟨⟨drawnIds d preview, linked⟩, w, ?_, rfl⟩
  rw [insertPromptPack, exec_bind_ok]
  refine ⟨(), s₁, exec_execute_ok.2 hrecord, ?_⟩
  rw [exec_bind_ok]
  refine ⟨_, u, hinsert, ?_⟩
  rw [exec_bind_ok]
  refine ⟨linked, v, hlink, ?_⟩
  rw [exec_bind_ok]
  exact ⟨(), w, exec_execute_ok.2 htouch, rfl⟩

/-- Readings of the counter that differ give ids that differ. -/
theorem drawnQueueTaskId_nodup (hp : preview.WellFormed) (hd : Function.Injective d.suffix) :
    ((sortedPackTasks preview.tasks).map fun task =>
      drawnQueueTaskId d preview task.id).Nodup := by
  rw [← map_zipIdx_sorted (d := d) hp fun _ id => id, List.Nodup, List.pairwise_map]
  have hplaces : (sortedPackTasks preview.tasks).zipIdx.Pairwise fun a b => a.2 ≠ b.2 := by
    rw [← List.pairwise_map (f := Prod.snd), List.zipIdx_map_snd]
    exact List.nodup_range'
  refine hplaces.imp ?_
  intro a b hne heq
  have hsuffix := hd (placeholderId_inj heq).2
  omega

/-- The ids of a pack that was created were fresh. -/
theorem freshIds_of_created {s t : PromptPackStore} (c : CreatedPack d preview s t) :
    FreshIds d preview s.store := ⟨c.distinct, c.fresh⟩

end Possible

end HobitQueue
