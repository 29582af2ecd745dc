import HobitQueue.Lib.Search
import HobitQueue.Service.Basic

/-!
# Dependencies of Queue tasks

A task names the tasks it waits for in its `depends_on` list. The list is checked
when a task is created or updated: every id names a task of the workspace, no id
is the task itself or comes twice, and the new edges close no cycle.
-/

namespace HobitQueue

open Concurrent StoreProg

/-- `normalize_dependency_ids`, with the ids that were seen so far. -/
def normalizeDependencyIdsFrom (seen : List String) :
    List String → Except WorkspaceServiceError (List String)
  | [] => .ok seen.reverse
  | dependencyId :: rest => do
      let dependencyId ← requiredInput dependencyId "queue task dependency id"
      if dependencyId ∈ seen then
        .error (.invalidInput ("duplicate queue task dependency id: " ++ dependencyId))
      else normalizeDependencyIdsFrom (dependencyId :: seen) rest

/-- The dependencies as they are stored. -/
def normalizeDependencyIds (dependencyIds : List String) :
    Except WorkspaceServiceError (List String) :=
  normalizeDependencyIdsFrom [] dependencyIds

def normalizeOptionalDependencyIds (dependencyIds : Option (List String)) :
    Except WorkspaceServiceError (Option (List String)) :=
  match dependencyIds with
  | none => .ok none
  | some ids => (normalizeDependencyIds ids).map some

def dependenciesJson (dependencyIds : List String) : JsonText :=
  .value (Json.ofStrings dependencyIds)

/-- The stored list; a text that is no list of strings counts as empty. -/
def rowDependencyIds (row : AgentQueueTaskRow) : List String :=
  row.dependsOn.parseStrings.getD []

/-- Every dependency of a new task names a task of the workspace. -/
def validateCreateDependencies (workspaceId : String) : List String → Sqlite Unit
  | [] => pure ()
  | dependencyId :: rest => do
      let task ← query fun s => s.getAgentQueueTask workspaceId dependencyId
      failIf task.isNone (storageInvalidInput
        ("queue task dependency not found in workspace: " ++ dependencyId))
      validateCreateDependencies workspaceId rest

/-- A dependency graph: each task of a workspace with the ids it depends on. -/
abbrev DependencyGraph : Type := List (String × List String)

namespace DependencyGraph

def containsKey (graph : DependencyGraph) (id : String) : Bool := (graph.lookup id).isSome

/-- `HashMap::insert`. -/
def insert (graph : DependencyGraph) (id : String) (ids : List String) : DependencyGraph :=
  (id, ids) :: graph

/-- The ids a task depends on; an id without an entry has none. -/
def get (graph : DependencyGraph) (id : String) : List String := (graph.lookup id).getD []

/-- Every id the graph mentions. -/
def ids (graph : DependencyGraph) : List String := graph.flatMap fun entry => entry.1 :: entry.2

end DependencyGraph

/-- The depth-first search of `dependency_path_reaches`, begun with an empty
visited set. The search enters each id once, so its depth is bounded by the ids
the graph mentions. -/
def dependencyPathReaches (graph : DependencyGraph) (currentId targetId : String) : Bool :=
  (Search.reaches graph.get targetId (graph.ids.length + 1) currentId []).1

/-- The graph of the stored tasks of a workspace. -/
def workspaceGraph (tasks : List AgentQueueTaskRow) : DependencyGraph :=
  tasks.map fun task => (task.queueItemId, rowDependencyIds task)

/-- Each new dependency is another task of the graph. -/
def validateDependencyTargets (graph : DependencyGraph) (queueItemId : String) :
    List String → Except StorageError Unit
  | [] => .ok ()
  | dependencyId :: rest =>
      if dependencyId = queueItemId then
        .error (storageInvalidInput "queue task cannot depend on itself")
      else if !graph.containsKey dependencyId then
        .error (storageInvalidInput
          ("queue task dependency not found in workspace: " ++ dependencyId))
      else validateDependencyTargets graph queueItemId rest

/-- No new dependency leads back to the task. -/
def validateDependencyPaths (graph : DependencyGraph) (queueItemId : String) :
    List String → Except StorageError Unit
  | [] => .ok ()
  | dependencyId :: rest =>
      if dependencyPathReaches graph dependencyId queueItemId then
        .error (storageInvalidInput ("queue task dependency would create a cycle: " ++
          queueItemId ++ " -> " ++ dependencyId))
      else validateDependencyPaths graph queueItemId rest

/-- The check of new dependencies of a task. -/
def validateDependencyUpdate (workspaceId queueItemId : String)
    (dependencyIds : Option (List String)) : Sqlite Unit :=
  match dependencyIds with
  | none => pure ()
  | some dependencyIds => do
      let tasks ← query fun s => s.listAgentQueueTasks workspaceId
      let graph := workspaceGraph tasks
      failIf (!graph.containsKey queueItemId)
        (storageInvalidInput ("queue task not found: " ++ queueItemId))
      check (validateDependencyTargets graph queueItemId dependencyIds)
      check (validateDependencyPaths (graph.insert queueItemId dependencyIds)
        queueItemId dependencyIds)

/-! ## What the checks establish -/

private theorem normalizeDependencyIdsFrom_nodup {seen ids out : List String}
    (hseen : seen.Nodup) (h : normalizeDependencyIdsFrom seen ids = .ok out) : out.Nodup := by
  induction ids generalizing seen with
  | nil =>
    simp only [normalizeDependencyIdsFrom, Except.ok.injEq] at h
    exact h ▸ List.nodup_reverse.2 hseen
  | cons id ids ih =>
    simp only [normalizeDependencyIdsFrom] at h
    cases hreq : requiredInput id "queue task dependency id" with
    | error e => rw [hreq] at h; cases h
    | ok id' =>
      rw [hreq] at h
      simp only [bind, Except.bind] at h
      split at h
      · cases h
      · rename_i hnew
        exact ih (List.nodup_cons.2 ⟨hnew, hseen⟩) h

/-- An accepted list names no task twice. -/
theorem nodup_of_normalizeDependencyIds {ids out : List String}
    (h : normalizeDependencyIds ids = .ok out) : out.Nodup :=
  normalizeDependencyIdsFrom_nodup List.nodup_nil h

theorem nodup_of_normalizeOptionalDependencyIds {ids out : Option (List String)}
    (h : normalizeOptionalDependencyIds ids = .ok out) : (out.getD []).Nodup := by
  cases ids with
  | none =>
    obtain rfl := Except.ok.inj h
    exact List.nodup_nil
  | some ids =>
    rw [normalizeOptionalDependencyIds] at h
    cases hids : normalizeDependencyIds ids with
    | error e =>
      rw [hids] at h
      cases h
    | ok out' =>
      rw [hids] at h
      obtain rfl := Except.ok.inj h
      exact nodup_of_normalizeDependencyIds hids

/-- A stored list reads back as it was written. -/
@[simp] theorem parseStrings_dependenciesJson (ids : List String) :
    (dependenciesJson ids).parseStrings = some ids :=
  JsonText.parseStrings_ofStrings ids

/-- A new task passes when each of its dependencies is a task of the workspace. -/
theorem exec_validateCreateDependencies {workspaceId : String} {ids : List String}
    {s t : SqliteStore} :
    exec (validateCreateDependencies workspaceId ids) s = (.ok (), t) ↔
      t = s ∧ ∀ id ∈ ids, (s.getAgentQueueTask workspaceId id).isSome := by
  induction ids with
  | nil => 
    simp only [validateCreateDependencies, exec_pure, Prod.mk.injEq, true_and,
      List.not_mem_nil, false_implies, implies_true, and_true]
    exact eq_comm
  | cons id ids ih =>
    simp only [validateCreateDependencies, exec_query_bind, exec_failIf_bind]
    cases hfind : s.getAgentQueueTask workspaceId id with
    | none => simp [hfind]
    | some task => simp [hfind, ih]

theorem validateDependencyTargets_ok {graph : DependencyGraph} {queueItemId : String}
    {ids : List String} :
    validateDependencyTargets graph queueItemId ids = .ok () ↔
      ∀ id ∈ ids, id ≠ queueItemId ∧ graph.containsKey id = true := by
  induction ids with
  | nil => simp [validateDependencyTargets]
  | cons id ids ih =>
    by_cases hself : id = queueItemId
    · simp [validateDependencyTargets, hself]
    · by_cases hkey : graph.containsKey id = true
      · simp [validateDependencyTargets, hself, hkey, ih]
      · simp [validateDependencyTargets, hself, hkey]

theorem validateDependencyPaths_ok {graph : DependencyGraph} {queueItemId : String}
    {ids : List String} :
    validateDependencyPaths graph queueItemId ids = .ok () ↔
      ∀ id ∈ ids, dependencyPathReaches graph id queueItemId = false := by
  induction ids with
  | nil => simp [validateDependencyPaths]
  | cons id ids ih =>
    by_cases hpath : dependencyPathReaches graph id queueItemId = true
    · simp [validateDependencyPaths, hpath]
    · simp [validateDependencyPaths, hpath, ih]

theorem DependencyGraph.mem_ids_of_lookup {graph : DependencyGraph} {id : String}
    {deps : List String} (h : graph.lookup id = some deps) :
    id ∈ graph.ids ∧ ∀ dep ∈ deps, dep ∈ graph.ids := by
  have hmem : (id, deps) ∈ graph := by
    have := List.lookup_eq_some_iff.1 h
    obtain ⟨l₁, l₂, rfl, -⟩ := this
    simp
  refine ⟨List.mem_flatMap.2 ⟨_, hmem, List.mem_cons_self⟩, ?_⟩
  intro dep hdep
  exact List.mem_flatMap.2 ⟨_, hmem, List.mem_cons_of_mem _ hdep⟩

/-- **The search of a dependency graph is exact** on the ids the graph mentions. -/
theorem dependencyPathReaches_iff {graph : DependencyGraph} {currentId targetId : String}
    (h : currentId ∈ graph.ids) :
    dependencyPathReaches graph currentId targetId = true ↔
      Relation.ReflTransGen (Search.Edge graph.get) currentId targetId := by
  refine Search.reaches_iff (U := graph.ids.toFinset) ?_ ?_ (List.mem_toFinset.2 h)
  · intro v _ w hw
    unfold DependencyGraph.get at hw
    cases hl : graph.lookup v with
    | none => simp [hl] at hw
    | some deps =>
      rw [hl] at hw
      exact List.mem_toFinset.2 ((DependencyGraph.mem_ids_of_lookup hl).2 w hw)
  · exact lt_of_le_of_lt (List.toFinset_card_le _) (Nat.lt_succ_self _)


/-! ## The stored graph -/

/-- One stored dependency: a task of the workspace names another id. -/
def DependsOn (s : SqliteStore) (workspaceId v w : String) : Prop :=
  ∃ task ∈ s.agentQueueTasks, task.workspaceId = workspaceId ∧ task.queueItemId = v ∧
    w ∈ rowDependencyIds task

theorem mem_listAgentQueueTasks {s : SqliteStore} {workspaceId : String}
    {task : AgentQueueTaskRow} :
    task ∈ s.listAgentQueueTasks workspaceId ↔
      task ∈ s.agentQueueTasks ∧ task.workspaceId = workspaceId := by
  simp [SqliteStore.listAgentQueueTasks]

theorem isSome_getAgentQueueTask {s : SqliteStore} {workspaceId id : String} :
    (s.getAgentQueueTask workspaceId id).isSome ↔
      ∃ task ∈ s.agentQueueTasks, task.workspaceId = workspaceId ∧ task.queueItemId = id := by
  constructor
  · intro h
    obtain ⟨task, htask⟩ := Option.isSome_iff_exists.1 h
    have hsat := Relational.Table.sat_of_find htask
    simp only [Bool.and_eq_true, beq_iff_eq] at hsat
    exact ⟨task, Relational.Table.mem_of_find htask, hsat⟩
  · rintro ⟨task, htask, hws, hid⟩
    by_contra hnone
    have hall := Relational.Table.find_eq_none.1 (Option.not_isSome_iff_eq_none.1 hnone)
    simpa [hws, hid] using hall task htask

/-- The stored tasks have one entry each in the graph of their workspace. -/
theorem lookup_workspaceGraph {s : SqliteStore} {workspaceId id : String}
    {deps : List String} :
    (workspaceGraph (s.listAgentQueueTasks workspaceId)).lookup id = some deps ↔
      ∃ task ∈ s.agentQueueTasks, task.workspaceId = workspaceId ∧
        task.queueItemId = id ∧ rowDependencyIds task = deps := by
  constructor
  · intro h
    obtain ⟨l₁, l₂, hgraph, -⟩ := List.lookup_eq_some_iff.1 h
    have hmem : (id, deps) ∈ workspaceGraph (s.listAgentQueueTasks workspaceId) := by
      simp [hgraph]
    obtain ⟨task, htask, heq⟩ := List.mem_map.1 hmem
    obtain ⟨htask, hws⟩ := mem_listAgentQueueTasks.1 htask
    obtain ⟨hid, hdeps⟩ := Prod.mk.inj heq
    exact ⟨task, htask, hws, hid, hdeps⟩
  · rintro ⟨task, htask, hws, rfl, rfl⟩
    have hlisted := mem_listAgentQueueTasks.2 ⟨htask, hws⟩
    cases hl : (workspaceGraph (s.listAgentQueueTasks workspaceId)).lookup task.queueItemId with
    | none =>
      have hnone := List.lookup_eq_none_iff.1 hl
      have := hnone _ (List.mem_map_of_mem hlisted)
      simp at this
    | some deps =>
      obtain ⟨l₁, l₂, hgraph, -⟩ := List.lookup_eq_some_iff.1 hl
      have hmem : (task.queueItemId, deps) ∈
          workspaceGraph (s.listAgentQueueTasks workspaceId) := by simp [hgraph]
      obtain ⟨other, hother, heq⟩ := List.mem_map.1 hmem
      obtain ⟨hid, hdeps⟩ := Prod.mk.inj heq
      have hsame : other = task :=
        Relational.Table.eq_of_clash (mem_listAgentQueueTasks.1 hother).1 htask
          ⟨_, List.mem_singleton.2 rfl, by simp [Relational.Row.keys, hid]⟩
      rw [← hdeps, hsame]

theorem edge_workspaceGraph {s : SqliteStore} {workspaceId v w : String} :
    Search.Edge (workspaceGraph (s.listAgentQueueTasks workspaceId)).get v w ↔
      DependsOn s workspaceId v w := by
  unfold Search.Edge DependencyGraph.get DependsOn
  constructor
  · intro h
    cases hl : (workspaceGraph (s.listAgentQueueTasks workspaceId)).lookup v with
    | none => simp [hl] at h
    | some deps =>
      rw [hl] at h
      obtain ⟨task, htask, hws, hid, hdeps⟩ := lookup_workspaceGraph.1 hl
      exact ⟨task, htask, hws, hid, hdeps ▸ h⟩
  · rintro ⟨task, htask, hws, hid, hdep⟩
    rw [lookup_workspaceGraph.2 ⟨task, htask, hws, hid, rfl⟩]
    exact hdep

/-- The edges after a task's dependencies are replaced. -/
def UpdatedDependsOn (s : SqliteStore) (workspaceId queueItemId : String)
    (dependencyIds : List String) (v w : String) : Prop :=
  if v = queueItemId then w ∈ dependencyIds else DependsOn s workspaceId v w

theorem edge_insert_workspaceGraph {s : SqliteStore} {workspaceId queueItemId v w : String}
    {ids : List String} :
    Search.Edge ((workspaceGraph (s.listAgentQueueTasks workspaceId)).insert queueItemId ids).get
        v w ↔ UpdatedDependsOn s workspaceId queueItemId ids v w := by
  unfold UpdatedDependsOn
  by_cases hv : v = queueItemId
  · subst hv
    simp [Search.Edge, DependencyGraph.get, DependencyGraph.insert]
  · rw [if_neg hv, ← edge_workspaceGraph]
    have hne : (v == queueItemId) = false := by simpa using hv
    simp [Search.Edge, DependencyGraph.get, DependencyGraph.insert, List.lookup_cons, hne]

/-- **An accepted update of the dependencies** names other tasks of the workspace,
and no new edge leads back to the task. -/
theorem exec_validateDependencyUpdate_some {s t : SqliteStore}
    {workspaceId queueItemId : String} {ids : List String}
    (h : exec (validateDependencyUpdate workspaceId queueItemId (some ids)) s = (.ok (), t)) :
    t = s ∧ (∀ id ∈ ids, id ≠ queueItemId ∧ (s.getAgentQueueTask workspaceId id).isSome) ∧
      ∀ id ∈ ids, ¬ Relation.ReflTransGen (UpdatedDependsOn s workspaceId queueItemId ids)
        id queueItemId := by
  simp only [validateDependencyUpdate, exec_query_bind, exec_failIf_bind, guard_ok,
    exec_bind_ok] at h
  obtain ⟨-, ⟨⟩, u, htargets, hpaths⟩ := h
  simp only [exec_check, Prod.mk.injEq] at htargets hpaths
  obtain ⟨htargets, rfl⟩ := htargets
  obtain ⟨hpaths, rfl⟩ := hpaths
  have htarget := validateDependencyTargets_ok.1 htargets
  refine ⟨rfl, ?_, ?_⟩
  · intro id hid
    obtain ⟨hne, hkey⟩ := htarget id hid
    obtain ⟨deps, hdeps⟩ := Option.isSome_iff_exists.1 hkey
    obtain ⟨task, htask, hws, rfl, -⟩ := lookup_workspaceGraph.1 hdeps
    exact ⟨hne, isSome_getAgentQueueTask.2 ⟨task, htask, hws, rfl⟩⟩
  · intro id hid hpath
    have hmem : id ∈ ((workspaceGraph (s.listAgentQueueTasks workspaceId)).insert
        queueItemId ids).ids :=
      List.mem_flatMap.2 ⟨(queueItemId, ids), List.mem_cons_self, List.mem_cons_of_mem _ hid⟩
    have hfree := validateDependencyPaths_ok.1 hpaths id hid
    rw [Bool.eq_false_iff, ne_eq, dependencyPathReaches_iff hmem] at hfree
    exact hfree (Relation.ReflTransGen.mono (fun v w => edge_insert_workspaceGraph.2) _ _ hpath)

end HobitQueue
