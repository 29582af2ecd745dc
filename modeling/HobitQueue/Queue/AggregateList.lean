import HobitQueue.Queue.DependencyGraph
import HobitQueue.Queue.DependencyStates

/-!
# The list of aggregates

The list projects every task of a workspace at once, from maps it fills in one pass over
the tasks; the single projection reads the rows of its own task. Both read the same
rows, so an element of the list is what the single projection answers for its task.
-/

namespace HobitQueue

open Concurrent StoreProg Relational Machine

/-! ## The pass over the tasks -/

/-- The rows of the tasks of a workspace, by task; the widget runs by run. -/
structure AggregateMaps where
  links : List (String × AgentQueueTaskRunLinkRow)
  reviewMessages : List (String × AgentQueueReviewMessageRow)
  evidenceBundles : List (String × AgentQueueWorkerEvidenceBundleRow)
  completions : List (String × AgentQueueCompletionDecisionRow)
  failures : List (String × AgentQueueFailureDecisionRow)
  widgetRuns : List (String × WidgetRunRow)

def AggregateMaps.empty : AggregateMaps := ⟨[], [], [], [], [], []⟩

/-- The rows of one task added to the maps; a later entry of a key hides an earlier one. -/
def AggregateMaps.insert (maps : AggregateMaps) (taskId : String) (rows : LatestRows) :
    AggregateMaps :=
  { links := insertSome taskId rows.link maps.links
    reviewMessages := insertSome taskId rows.reviewMessage maps.reviewMessages
    evidenceBundles := insertSome taskId rows.evidenceBundle maps.evidenceBundles
    completions := insertSome taskId rows.completionDecision maps.completions
    failures := insertSome taskId rows.failureDecision maps.failures
    widgetRuns := rows.link.elim maps.widgetRuns fun link =>
      insertSome link.directWorkRunId rows.widgetRun maps.widgetRuns }

/-- The entries of a task. -/
def AggregateMaps.rows (maps : AggregateMaps) (taskId : String) : LatestRows :=
  { link := maps.links.lookup taskId
    reviewMessage := maps.reviewMessages.lookup taskId
    evidenceBundle := maps.evidenceBundles.lookup taskId
    completionDecision := maps.completions.lookup taskId
    failureDecision := maps.failures.lookup taskId
    widgetRun := (maps.links.lookup taskId).bind fun link =>
      maps.widgetRuns.lookup link.directWorkRunId }

def readLatestRows (workspaceId taskId : String) : Service LatestRows := do
  let link ← query fun s => s.getLatestAgentQueueTaskRunLink workspaceId taskId
  let reviewMessage ← query fun s => s.getLatestAgentQueueReviewMessage workspaceId taskId
  let evidenceBundle ← query fun s =>
    s.getLatestAgentQueueWorkerEvidenceBundle workspaceId taskId
  let completionDecision ← query fun s =>
    s.getLatestAgentQueueCompletionDecision workspaceId taskId
  let failureDecision ← query fun s => s.getLatestAgentQueueFailureDecision workspaceId taskId
  let widgetRun ← readWidgetRun link
  pure ⟨link, reviewMessage, evidenceBundle, completionDecision, failureDecision, widgetRun⟩

/-- The loop that fills the maps. -/
def readAggregateMaps (workspaceId : String) :
    List AgentQueueTaskRow → AggregateMaps → Service AggregateMaps
  | [], maps => pure maps
  | task :: rest, maps => do
      let rows ← readLatestRows workspaceId task.queueItemId
      readAggregateMaps workspaceId rest (maps.insert task.queueItemId rows)

def buildQueueItemAggregates (tasks : List AgentQueueTaskRow) (maps : AggregateMaps) :
    List QueueItemAggregate :=
  tasks.map fun task =>
    buildQueueItemAggregate task tasks ⟨maps.completions, maps.failures⟩
      (maps.rows task.queueItemId)

/-- The projections of all tasks, made in one pass. -/
def listQueueItemAggregates (workspaceId : String) : Service (List QueueItemAggregate) := do
  let workspaceId ← check (requiredInput workspaceId "workspace id")
  let workspace ← query fun s => s.getWorkspace workspaceId
  failIf workspace.isNone (.invalidInput ("workspace not found: " ++ workspaceId))
  let tasks ← query fun s => s.listAgentQueueTasks workspaceId
  let maps ← readAggregateMaps workspaceId tasks AggregateMaps.empty
  pure (buildQueueItemAggregates tasks maps)

/-! ## What the maps hold -/

theorem lookup_insertSome {α : Type} (key id : String) (row : Option α)
    (entries : List (String × α)) :
    (insertSome key row entries).lookup id =
      if id = key then row.or (entries.lookup id) else entries.lookup id := by
  by_cases hkey : id = key
  · subst hkey
    cases row <;> simp [insertSome]
  · have hne : (id == key) = false := by simpa using hkey
    cases row <;> simp [insertSome, List.lookup_cons, hne, hkey]

/-- A map that is filled with one read a key holds the reads of these keys. -/
theorem lookup_foldl_insertSome {α : Type} (read : String → Option α) (keys : List String)
    (entries : List (String × α)) (id : String) :
    (keys.foldl (fun entries key => insertSome key (read key) entries) entries).lookup id =
      if id ∈ keys then (read id).or (entries.lookup id) else entries.lookup id := by
  induction keys generalizing entries with
  | nil => simp
  | cons key keys ih =>
    rw [List.foldl_cons, ih, lookup_insertSome]
    by_cases hkey : id = key
    · subst hkey
      cases read id <;> simp
    · simp [hkey]

namespace SqliteStore

variable (s : SqliteStore) (workspaceId : String)

/-- The maps of some tasks. -/
def aggregateMaps (tasks : List AgentQueueTaskRow) (maps : AggregateMaps) : AggregateMaps :=
  tasks.foldl (fun maps task =>
    maps.insert task.queueItemId (s.latestRows workspaceId task.queueItemId)) maps

/-- A map by task is filled with the reads of the tasks. -/
theorem lookup_aggregateMaps {α : Type} (field : AggregateMaps → List (String × α))
    (read : String → Option α)
    (hfield : ∀ maps taskId, field (maps.insert taskId (s.latestRows workspaceId taskId)) =
      insertSome taskId (read taskId) (field maps))
    (hempty : field AggregateMaps.empty = []) {tasks : List AgentQueueTaskRow}
    {task : AgentQueueTaskRow} (htask : task ∈ tasks) :
    (field (s.aggregateMaps workspaceId tasks AggregateMaps.empty)).lookup task.queueItemId =
      read task.queueItemId := by
  have hfold : field (s.aggregateMaps workspaceId tasks AggregateMaps.empty) =
      (tasks.map (·.queueItemId)).foldl (fun entries key => insertSome key (read key) entries)
        [] := by
    rw [aggregateMaps, List.foldl_map, ← hempty]
    exact (List.foldl_hom field fun maps task => (hfield maps task.queueItemId).symm).symm
  have hmem : task.queueItemId ∈ tasks.map (·.queueItemId) := List.mem_map_of_mem htask
  rw [hfold, lookup_foldl_insertSome, if_pos hmem]
  simp

/-- The widget runs are those of the latest links. -/
theorem lookup_widgetRuns {tasks : List AgentQueueTaskRow} {task : AgentQueueTaskRow}
    (htask : task ∈ tasks) {link : AgentQueueTaskRunLinkRow}
    (hlink : s.getLatestAgentQueueTaskRunLink workspaceId task.queueItemId = some link) :
    (s.aggregateMaps workspaceId tasks AggregateMaps.empty).widgetRuns.lookup
      link.directWorkRunId = s.getWidgetRun link.directWorkRunId := by
  let runOf (task : AgentQueueTaskRow) : Option String :=
    (s.getLatestAgentQueueTaskRunLink workspaceId task.queueItemId).map (·.directWorkRunId)
  have hfold : (s.aggregateMaps workspaceId tasks AggregateMaps.empty).widgetRuns =
      (tasks.filterMap runOf).foldl
        (fun entries key => insertSome key (s.getWidgetRun key) entries) [] := by
    rw [aggregateMaps, List.foldl_filterMap]
    refine (List.foldl_hom AggregateMaps.widgetRuns fun maps task => ?_).symm
    simp only [AggregateMaps.insert, latestRows, runOf]
    cases s.getLatestAgentQueueTaskRunLink workspaceId task.queueItemId <;> rfl
  have hmem : link.directWorkRunId ∈ tasks.filterMap runOf :=
    List.mem_filterMap.2 ⟨task, htask, by simp [runOf, hlink]⟩
  rw [hfold, lookup_foldl_insertSome, if_pos hmem]
  simp

/-- The entries of a task are its latest rows. -/
theorem rows_aggregateMaps {tasks : List AgentQueueTaskRow} {task : AgentQueueTaskRow}
    (htask : task ∈ tasks) :
    (s.aggregateMaps workspaceId tasks AggregateMaps.empty).rows task.queueItemId =
      s.latestRows workspaceId task.queueItemId := by
  have hlink := s.lookup_aggregateMaps workspaceId AggregateMaps.links _ (fun _ _ => rfl) rfl htask
  have hmessage :=
    s.lookup_aggregateMaps workspaceId AggregateMaps.reviewMessages _ (fun _ _ => rfl) rfl htask
  have hevidence :=
    s.lookup_aggregateMaps workspaceId AggregateMaps.evidenceBundles _ (fun _ _ => rfl) rfl htask
  have hcompletion :=
    s.lookup_aggregateMaps workspaceId AggregateMaps.completions _ (fun _ _ => rfl) rfl htask
  have hfailure :=
    s.lookup_aggregateMaps workspaceId AggregateMaps.failures _ (fun _ _ => rfl) rfl htask
  simp only [AggregateMaps.rows, hlink, hmessage, hevidence, hcompletion, hfailure]
  simp only [latestRows, LatestRows.mk.injEq, true_and]
  cases hlatest : s.getLatestAgentQueueTaskRunLink workspaceId task.queueItemId with
  | none => rfl
  | some link => exact s.lookup_widgetRuns workspaceId htask hlatest

end SqliteStore

/-! ## The projections -/

/-- The projection looks at the decisions of the tasks only to see which there are. -/
theorem dependencyStateFrom_congr {allTasks : List AgentQueueTaskRow}
    {decisions decisions' : DecisionMaps}
    (hcompletions : ∀ task ∈ allTasks, containsKey decisions.completions task.queueItemId =
      containsKey decisions'.completions task.queueItemId)
    (hfailures : ∀ task ∈ allTasks, containsKey decisions.failures task.queueItemId =
      containsKey decisions'.failures task.queueItemId) (allReady : Bool) (ids : List String) :
    dependencyStateFrom allTasks decisions allReady ids =
      dependencyStateFrom allTasks decisions' allReady ids := by
  induction ids generalizing allReady with
  | nil => rfl
  | cons id ids ih =>
    rw [dependencyStateFrom, dependencyStateFrom]
    cases hfind : allTasks.find? (·.queueItemId == id) with
    | none => rfl
    | some upstream =>
      have hmem := List.mem_of_find?_eq_some hfind
      have hid : upstream.queueItemId = id := by simpa using List.find?_some hfind
      simp only [← hid, hcompletions upstream hmem, hfailures upstream hmem, ih]

theorem buildQueueItemAggregate_congr {task : AgentQueueTaskRow}
    {allTasks : List AgentQueueTaskRow} {decisions decisions' : DecisionMaps} {rows : LatestRows}
    (hcompletions : ∀ task ∈ allTasks, containsKey decisions.completions task.queueItemId =
      containsKey decisions'.completions task.queueItemId)
    (hfailures : ∀ task ∈ allTasks, containsKey decisions.failures task.queueItemId =
      containsKey decisions'.failures task.queueItemId) :
    buildQueueItemAggregate task allTasks decisions rows =
      buildQueueItemAggregate task allTasks decisions' rows := by
  have hstate : dependencyState task allTasks decisions =
      dependencyState task allTasks decisions' := by
    rw [dependencyState, dependencyState]
    split
    · rfl
    · exact dependencyStateFrom_congr hcompletions hfailures _ _
  simp only [buildQueueItemAggregate, hstate]

/-- **The list holds the projections of the stored tasks.** -/
theorem buildQueueItemAggregates_eq (s : SqliteStore) (workspaceId : String) :
    let tasks := s.listAgentQueueTasks workspaceId
    buildQueueItemAggregates tasks (s.aggregateMaps workspaceId tasks AggregateMaps.empty) =
      tasks.map (s.queueItemAggregate workspaceId) := by
  intro tasks
  refine List.map_congr_left fun task htask => ?_
  rw [s.rows_aggregateMaps workspaceId htask, SqliteStore.queueItemAggregate]
  have hlisted : ∀ upstream ∈ tasks, tasks.any (·.queueItemId == upstream.queueItemId) = true :=
    fun upstream hupstream => List.any_eq_true.2 ⟨upstream, hupstream, by simp⟩
  refine buildQueueItemAggregate_congr (fun upstream hupstream => ?_) fun upstream hupstream => ?_
  · have hentry := s.lookup_aggregateMaps workspaceId AggregateMaps.completions _
      (fun _ _ => rfl) rfl hupstream
    refine (congrArg Option.isSome hentry).trans (Eq.symm ?_)
    refine
      (containsKey_foldr (s.getLatestAgentQueueCompletionDecision workspaceId) tasks _).trans ?_
    rw [hlisted upstream hupstream, Bool.and_true]
    rfl
  · have hentry := s.lookup_aggregateMaps workspaceId AggregateMaps.failures _
      (fun _ _ => rfl) rfl hupstream
    refine (congrArg Option.isSome hentry).trans (Eq.symm ?_)
    refine (containsKey_foldr (s.getLatestAgentQueueFailureDecision workspaceId) tasks _).trans ?_
    rw [hlisted upstream hupstream, Bool.and_true]
    rfl

theorem exec_readLatestRows (workspaceId taskId : String) (s : SqliteStore) :
    exec (readLatestRows workspaceId taskId) s = (.ok (s.latestRows workspaceId taskId), s) := by
  simp only [readLatestRows, exec_query_bind, readWidgetRun, SqliteStore.latestRows]
  cases s.getLatestAgentQueueTaskRunLink workspaceId taskId <;> simp [exec_bind]

theorem exec_readAggregateMaps (workspaceId : String) (tasks : List AgentQueueTaskRow)
    (maps : AggregateMaps) (s : SqliteStore) :
    exec (readAggregateMaps workspaceId tasks maps) s =
      (.ok (s.aggregateMaps workspaceId tasks maps), s) := by
  induction tasks generalizing maps with
  | nil => rfl
  | cons task rest ih =>
    rw [readAggregateMaps, exec_bind, exec_readLatestRows]
    exact ih _

/-- What the list says about a task, against the single projection of the task. -/
structure AgreesWithGet (s : SqliteStore) (workspaceId : String) (task : AgentQueueTaskRow)
    (aggregate : QueueItemAggregate) : Prop where
  taskId : aggregate.taskId = task.queueItemId
  get : requiredInput task.queueItemId "queue item id" = .ok task.queueItemId →
    exec (getQueueItemAggregate workspaceId task.queueItemId) s = (.ok (some aggregate), s)

/-- Task ids are unique across workspaces. -/
theorem clash_of_queueItemId {a b : AgentQueueTaskRow} (h : a.queueItemId = b.queueItemId) :
    Clash a b :=
  ⟨("queue_item_id", [a.queueItemId]), by simp [Row.keys], by simp [Row.keys, h]⟩

theorem getAgentQueueTask_of_mem {s : SqliteStore} {task : AgentQueueTaskRow}
    (h : task ∈ s.agentQueueTasks) :
    s.getAgentQueueTask task.workspaceId task.queueItemId = some task := by
  obtain ⟨found, hfound⟩ := Option.isSome_iff_exists.1
    (isSome_getAgentQueueTask.2 ⟨task, h, rfl, rfl⟩)
  have hsat := Table.sat_of_find hfound
  simp only [Bool.and_eq_true, beq_iff_eq] at hsat
  rw [hfound, Table.eq_of_clash (Table.mem_of_find hfound) h (clash_of_queueItemId hsat.2)]

/-- The access check passes for a task of the workspace. -/
theorem exec_validateAccess_of_mem {s : SqliteStore} {task : AgentQueueTaskRow}
    (hworkspace : (s.getWorkspace task.workspaceId).isSome) (htask : task ∈ s.agentQueueTasks) :
    exec (validateQueueItemAggregateAccess task.workspaceId task.queueItemId) s = (.ok (), s) := by
  have hnone : (s.getWorkspace task.workspaceId).isNone = false := by simpa using hworkspace
  simp only [validateQueueItemAggregateAccess, validateAgentQueueTaskWorkspaceAccess,
    exec_query_bind, exec_failIf_bind]
  rw [hnone]
  cases hbyId : s.getAgentQueueTaskById task.queueItemId with
  | none => rfl
  | some found =>
    have hid : found.queueItemId = task.queueItemId := by simpa using Table.sat_of_find hbyId
    have hfound := Table.eq_of_clash (Table.mem_of_find hbyId) htask (clash_of_queueItemId hid)
    simp [hfound, exec_failIf]

theorem agreesWithGet {s : SqliteStore} {workspaceId : String} {task : AgentQueueTaskRow}
    (hw : requiredInput workspaceId "workspace id" = .ok task.workspaceId)
    (hworkspace : (s.getWorkspace task.workspaceId).isSome) (htask : task ∈ s.agentQueueTasks) :
    AgreesWithGet s workspaceId task (s.queueItemAggregate task.workspaceId task) := by
  refine ⟨rfl, fun hid => ?_⟩
  simp only [getQueueItemAggregate, exec_check_bind, hw, hid]
  rw [exec_bind, exec_validateAccess_of_mem hworkspace htask]
  simp only [exec_query_bind, getAgentQueueTask_of_mem htask]
  rw [exec_bind, exec_readQueueItemAggregate]
  rfl

/-- A missing workspace fails every single projection. -/
theorem getQueueItemAggregate_of_missing {s : SqliteStore} {workspaceId taskId w i : String}
    (hw : requiredInput workspaceId "workspace id" = .ok w)
    (hi : requiredInput taskId "queue item id" = .ok i) (hnone : s.getWorkspace w = none) :
    exec (getQueueItemAggregate workspaceId taskId) s =
      (.error (.invalidInput ("workspace not found: " ++ w)), s) := by
  simp only [getQueueItemAggregate, exec_check_bind, hw, hi]
  rw [exec_bind]
  simp only [validateQueueItemAggregateAccess, validateAgentQueueTaskWorkspaceAccess,
    exec_query_bind, exec_failIf_bind, hnone, Option.isNone_none, ↓reduceIte]

/-- **The list agrees with the single projections**: it fails where they all fail, and else
it holds one aggregate for each task of the workspace, in the order of the store. -/
theorem listed_aggregates_agree (s : SqliteStore) (workspaceId : String) :
    match exec (listQueueItemAggregates workspaceId) s with
    | (.ok aggregates, t) =>
        let tasks := s.listAgentQueueTasks (Text.trim workspaceId)
        t = s ∧ (∀ task, task ∈ tasks ↔
          task ∈ s.agentQueueTasks ∧ task.workspaceId = Text.trim workspaceId) ∧
        (tasks.map (·.queueItemId)).Nodup ∧
        List.Forall₂ (AgreesWithGet s workspaceId) tasks aggregates
    | (.error e, t) => t = s ∧ ∀ taskId, Text.trim taskId ≠ "" →
        exec (getQueueItemAggregate workspaceId taskId) s = (.error e, s) := by
  rw [listQueueItemAggregates, exec_check_bind]
  cases hw : requiredInput workspaceId "workspace id" with
  | error e =>
    refine ⟨rfl, fun taskId _ => ?_⟩
    rw [getQueueItemAggregate, exec_check_bind, hw]
  | ok w =>
    obtain ⟨rfl, -⟩ := requiredInput_ok.1 hw
    simp only [exec_query_bind, exec_failIf_bind]
    cases hworkspace : s.getWorkspace (Text.trim workspaceId) with
    | none =>
      refine ⟨rfl, fun taskId htaskId => ?_⟩
      have hi : requiredInput taskId "queue item id" = .ok (Text.trim taskId) :=
        requiredInput_ok.2 ⟨rfl, htaskId⟩
      exact getQueueItemAggregate_of_missing hw hi hworkspace
    | some workspace =>
      simp only [Option.isNone_some, Bool.false_eq_true, ↓reduceIte]
      rw [exec_bind, exec_readAggregateMaps]
      refine ⟨rfl, fun task => mem_listAgentQueueTasks, ?_, ?_⟩
      · exact Table.nodup_map_select fun _ _ => clash_of_queueItemId
      · have hlist := buildQueueItemAggregates_eq s (Text.trim workspaceId)
        simp only at hlist
        rw [hlist, List.forall₂_map_right_iff, List.forall₂_same]
        intro task htask
        obtain ⟨hmem, htaskWs⟩ := mem_listAgentQueueTasks.1 htask
        rw [← htaskWs] at hw ⊢
        exact agreesWithGet hw (by simp [htaskWs, hworkspace]) hmem

/-! ## Ids with white space -/

/-- A task whose id starts with a space. -/
def paddedTask : AgentQueueTaskRow := { plainTask with queueItemId := " task" }

/-- The single projection trims the id it is given, and misses the task. -/
theorem listed_but_not_found :
    let s := { oneWorkspace "w" with
      agentQueueTasks := ⟨[paddedTask], List.pairwise_singleton _ _⟩ }
    (exec (listQueueItemAggregates "w") s).1 = .ok [s.queueItemAggregate "w" paddedTask] ∧
      (exec (getQueueItemAggregate "w" " task") s).1 = .ok none := by
  decide +kernel

/-! ## The ids of created tasks -/

/-- The id of a created task has no white space. -/
theorem trim_taskId (draw : ℕ × ℕ) : Text.trim (taskId draw) = taskId draw :=
  trim_placeholderId (List.all_iff_forall_prop.1 (by decide)) draw.1 draw.2

/-- **The commands create no other ids**: in every store that the commands reach, the list
and the single projections agree on every task. -/
theorem requiredInput_queueItemId {s : SqliteStore} (hs : Empty s) (history : List Op)
    {task : AgentQueueTaskRow} (htask : task ∈ (after perform s history).agentQueueTasks) :
    requiredInput task.queueItemId "queue item id" = .ok task.queueItemId := by
  have hdrawn : ∃ draws, DrawnFrom draws (after perform s history) := by
    have hstep : ∀ t op, (∃ draws, DrawnFrom draws t) → ∃ draws, DrawnFrom draws (perform t op) :=
      fun t op ⟨draws, hdraws⟩ => ⟨_, drawnFrom_perform hdraws op⟩
    exact invariant_after_any hstep ⟨[], fun task htask => absurd htask (hs.tasks task)⟩ history
  obtain ⟨draws, hdraws⟩ := hdrawn
  obtain ⟨draw, -, hid⟩ := List.mem_map.1 (hdraws task htask _ List.mem_cons_self)
  rw [← hid]
  refine requiredInput_ok.2 ⟨(trim_taskId draw).symm, fun hempty => ?_⟩
  have hlen := congrArg (fun text => text.toList.length) hempty
  simp [taskId, placeholderId] at hlen

end HobitQueue
