import HobitQueue.Store.Sqlite

/-!
# The tables of prompt packs

A materialized prompt pack is a row of its own, with a mapping from each of its tasks
to the Queue task that was created for it. The rows refer to the workspace and to the
Queue tasks, and go with them (`ON DELETE CASCADE`).
-/

namespace HobitQueue

open Relational Concurrent

structure AgentQueuePromptPackMaterializationRow where
  workspaceId : String
  packId : String
  title : String
  description : Option String
  packSpecHash : String
  runSettingsHash : String
  dependencySpecHash : String
  fullPreviewHash : String
  taskCount : ℤ
  createdAt : String
  updatedAt : String
  deriving DecidableEq

instance : Row AgentQueuePromptPackMaterializationRow where
  keys r := [("pack", [r.workspaceId, r.packId])]

structure AgentQueuePromptPackTaskMappingRow where
  workspaceId : String
  packId : String
  packTaskId : String
  queueTaskId : String
  taskSpecHash : String
  createdAt : String
  updatedAt : String
  deriving DecidableEq

instance : Row AgentQueuePromptPackTaskMappingRow where
  keys r := [("pack_task", [r.workspaceId, r.packId, r.packTaskId]),
    ("queue_task", [r.workspaceId, r.queueTaskId])]

/-- The database as prompt packs see it. Every pack has its workspace, and every mapping
its pack and its Queue task. -/
structure PromptPackStore where
  store : SqliteStore
  materializations : Table AgentQueuePromptPackMaterializationRow
  taskMappings : Table AgentQueuePromptPackTaskMappingRow
  workspaces : ∀ r ∈ materializations, store.hasWorkspace r.workspaceId = true
  mapped : ∀ m ∈ taskMappings, store.hasTask m.queueTaskId = true ∧
    ∃ r ∈ materializations, r.workspaceId = m.workspaceId ∧ r.packId = m.packId

/-- A program over the database that fails with storage errors. -/
abbrev PackSqlite (α : Type) : Type := StoreProg PromptPackStore StorageError α

namespace PromptPackStore

/-! ## Reads -/

section Reads

variable (ps : PromptPackStore)

def getMaterialization (workspaceId packId : String) :
    Option AgentQueuePromptPackMaterializationRow :=
  ps.materializations.find fun r => r.workspaceId == workspaceId && r.packId == packId

/-- `ORDER BY pack_task_id ASC`. -/
def listTaskMappings (workspaceId packId : String) : List AgentQueuePromptPackTaskMappingRow :=
  (ps.taskMappings.rows.filter fun m => m.workspaceId == workspaceId && m.packId == packId)
    |>.insertionSort fun a b => a.packTaskId ≤ b.packTaskId

end Reads

/-! ## The cascade -/

/-- The database with the other tables changed: packs go with their workspace, mappings
with their pack or their Queue task. -/
def withStore (ps : PromptPackStore) (s : SqliteStore) : PromptPackStore where
  store := s
  materializations := ps.materializations.delete fun r => !s.hasWorkspace r.workspaceId
  taskMappings := ps.taskMappings.delete fun m =>
    !(s.hasWorkspace m.workspaceId && s.hasTask m.queueTaskId)
  workspaces r hr := by simpa using (Table.mem_delete.1 hr).2
  mapped m hm := by
    obtain ⟨hold, hkept⟩ := Table.mem_delete.1 hm
    simp only [Bool.not_eq_false', Bool.and_eq_true] at hkept
    obtain ⟨r, hr, hws, hpack⟩ := (ps.mapped m hold).2
    refine ⟨hkept.2, r, Table.mem_delete.2 ⟨hr, ?_⟩, hws, hpack⟩
    rw [hws, hkept.1, Bool.not_true]

/-- A change that removes no workspace and no Queue task leaves the packs alone. -/
theorem withStore_tables {ps : PromptPackStore} {s : SqliteStore}
    (hws : ∀ id, ps.store.hasWorkspace id = true → s.hasWorkspace id = true)
    (htask : ∀ id, ps.store.hasTask id = true → s.hasTask id = true) :
    (ps.withStore s).materializations = ps.materializations ∧
      (ps.withStore s).taskMappings = ps.taskMappings := by
  constructor
  · refine Table.delete_eq_self fun r hr => ?_
    rw [hws _ (ps.workspaces r hr), Bool.not_true]
  · refine Table.delete_eq_self fun m hm => ?_
    obtain ⟨hmtask, r, hr, hrws, -⟩ := ps.mapped m hm
    rw [← hrws, hws _ (ps.workspaces r hr), htask _ hmtask, Bool.and_true, Bool.not_true]

/-- A statement on the other tables. -/
def onStore {α : Type} (statement : SqliteStore → Except StorageError (α × SqliteStore))
    (ps : PromptPackStore) : Except StorageError (α × PromptPackStore) :=
  match statement ps.store with
  | .ok (a, s) => .ok (a, ps.withStore s)
  | .error e => .error e

theorem onStore_ok {α : Type} {statement : SqliteStore → Except StorageError (α × SqliteStore)}
    {ps t : PromptPackStore} {a : α} :
    ps.onStore statement = .ok (a, t) ↔
      ∃ s, statement ps.store = .ok (a, s) ∧ t = ps.withStore s := by
  unfold onStore
  rcases statement ps.store with e | ⟨b, s⟩
  · simp
  · simp only [Except.ok.injEq, Prod.mk.injEq]
    constructor
    · rintro ⟨rfl, rfl⟩
      exact ⟨s, ⟨rfl, rfl⟩, rfl⟩
    · rintro ⟨u, ⟨rfl, rfl⟩, rfl⟩
      exact ⟨rfl, rfl⟩

/-! ## Writes -/

def insertMaterialization (row : AgentQueuePromptPackMaterializationRow)
    (ps : PromptPackStore) : Except StorageError (Unit × PromptPackStore) :=
  if hws : ps.store.hasWorkspace row.workspaceId = true then
    match h : ps.materializations.insert row with
    | some rows => .ok ((), {
        ps with
        materializations := rows
        workspaces := by
          intro r hr
          rcases (Table.mem_insert h r).1 hr with hr | rfl
          · exact ps.workspaces r hr
          · exact hws
        mapped := by
          intro m hm
          obtain ⟨htask, r, hr, hsame⟩ := ps.mapped m hm
          exact ⟨htask, r, (Table.mem_insert h r).2 (Or.inl hr), hsame⟩ })
    | none => .error (.constraintViolation "UNIQUE constraint failed")
  else .error (.constraintViolation "FOREIGN KEY constraint failed")

/-- The parents of a mapping are there. -/
def HasParents (ps : PromptPackStore) (row : AgentQueuePromptPackTaskMappingRow) : Prop :=
  ps.store.hasTask row.queueTaskId = true ∧
    ∃ r ∈ ps.materializations, r.workspaceId = row.workspaceId ∧ r.packId = row.packId

instance (ps : PromptPackStore) (row : AgentQueuePromptPackTaskMappingRow) :
    Decidable (ps.HasParents row) :=
  inferInstanceAs (Decidable (_ ∧ ∃ r ∈ ps.materializations, _))

def insertTaskMapping (row : AgentQueuePromptPackTaskMappingRow) (ps : PromptPackStore) :
    Except StorageError (Unit × PromptPackStore) :=
  if hparents : ps.HasParents row then
    match h : ps.taskMappings.insert row with
    | some rows => .ok ((), {
        ps with
        taskMappings := rows
        mapped := by
          intro m hm
          rcases (Table.mem_insert h m).1 hm with hm | rfl
          · exact ps.mapped m hm
          · exact hparents })
    | none => .error (.constraintViolation "UNIQUE constraint failed")
  else .error (.constraintViolation "FOREIGN KEY constraint failed")

/-- What an accepted pack row does to the database. -/
theorem insertMaterialization_ok {row : AgentQueuePromptPackMaterializationRow}
    {ps t : PromptPackStore} (h : ps.insertMaterialization row = .ok ((), t)) :
    t.store = ps.store ∧ t.taskMappings = ps.taskMappings ∧
      ps.materializations.insert row = some t.materializations := by
  unfold insertMaterialization at h
  split at h
  · split at h
    · rename_i rows hins
      simp only [Except.ok.injEq, Prod.mk.injEq, true_and] at h
      subst h
      exact ⟨rfl, rfl, hins⟩
    · cases h
  · cases h

/-- A pack row is accepted when its workspace is there and no row clashes with it. -/
theorem exists_insertMaterialization {row : AgentQueuePromptPackMaterializationRow}
    {ps : PromptPackStore} (hws : ps.store.hasWorkspace row.workspaceId = true)
    (hnew : ∀ r ∈ ps.materializations, ¬ Clash r row) :
    ∃ t, ps.insertMaterialization row = .ok ((), t) := by
  obtain ⟨rows, hins⟩ := Table.exists_insert hnew
  unfold insertMaterialization
  rw [dif_pos hws]
  split
  · exact ⟨_, rfl⟩
  · rename_i hnone
    rw [hins] at hnone
    cases hnone

theorem insertTaskMapping_ok {row : AgentQueuePromptPackTaskMappingRow}
    {ps t : PromptPackStore} (h : ps.insertTaskMapping row = .ok ((), t)) :
    t.store = ps.store ∧ t.materializations = ps.materializations ∧
      ps.taskMappings.insert row = some t.taskMappings := by
  unfold insertTaskMapping at h
  split at h
  · split at h
    · rename_i rows hins
      simp only [Except.ok.injEq, Prod.mk.injEq, true_and] at h
      subst h
      exact ⟨rfl, rfl, hins⟩
    · cases h
  · cases h

theorem exists_insertTaskMapping {row : AgentQueuePromptPackTaskMappingRow}
    {ps : PromptPackStore} (hparents : ps.HasParents row)
    (hnew : ∀ m ∈ ps.taskMappings, ¬ Clash m row) :
    ∃ t, ps.insertTaskMapping row = .ok ((), t) := by
  obtain ⟨rows, hins⟩ := Table.exists_insert hnew
  unfold insertTaskMapping
  rw [dif_pos hparents]
  split
  · exact ⟨_, rfl⟩
  · rename_i hnone
    rw [hins] at hnone
    cases hnone

end PromptPackStore
end HobitQueue
