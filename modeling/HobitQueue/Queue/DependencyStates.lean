import HobitQueue.Queue.History

/-!
# The two answers about dependencies

The start gate and the aggregate both look at the upstream tasks of a task. The gate
stops at the first one that is not accepted; the aggregate goes on past a pending
one and reports a worse one behind it. So the two agree as long as no pending task
hides a worse one.
-/

namespace HobitQueue

open Concurrent StoreProg Relational

/-- What the store says about one upstream task. -/
inductive UpstreamState where
  | accepted | pending | failed | blocked | missing
  deriving DecidableEq, Repr

def SqliteStore.upstreamState (s : SqliteStore) (workspaceId dependencyId : String) :
    UpstreamState :=
  match s.getAgentQueueTask workspaceId dependencyId with
  | none => .missing
  | some upstream =>
      if (s.getLatestAgentQueueCompletionDecision workspaceId dependencyId).isSome then .accepted
      else if (s.getLatestAgentQueueFailureDecision workspaceId dependencyId).isSome ||
          upstream.status == "cancelled" then .failed
      else if upstream.status = "blocked" then .blocked
      else .pending

/-- The answer of the gate: no code when the task may start. -/
def gateCode : Except QueueWorkerStartBlocker Unit → Option String
  | .ok () => none
  | .error blocker => some blocker.blockerCode

/-- The code that corresponds to a state of the aggregate: none for a task without
dependencies, or with accepted ones only. -/
def dependencyStateCode : QueueItemAggregateDependencyState → Option String
  | .none | .ready => none
  | .waiting => some "dependency_waiting"
  | .blocked => some "dependency_blocked"
  | .failedUpstream => some "dependency_failed"
  | .unknown => some "dependency_unknown"

/-! ## The gate -/

/-- The code an upstream task gives rise to, at the gate. -/
def UpstreamState.code : UpstreamState → Option String
  | accepted => none
  | pending => some "dependency_waiting"
  | failed => some "dependency_failed"
  | blocked => some "dependency_blocked"
  | missing => some "dependency_unknown"

theorem gateCode_dependencyReady (s : SqliteStore) (workspaceId queueItemId dependencyId : String) :
    gateCode (s.dependencyReady workspaceId queueItemId dependencyId) =
      (s.upstreamState workspaceId dependencyId).code := by
  unfold SqliteStore.dependencyReady SqliteStore.upstreamState
  cases s.getAgentQueueTask workspaceId dependencyId with
  | none => rfl
  | some upstream =>
    simp only
    by_cases haccepted :
        (s.getLatestAgentQueueCompletionDecision workspaceId dependencyId).isSome = true
    · rw [if_pos haccepted, if_pos haccepted]
      rfl
    rw [if_neg haccepted, if_neg haccepted]
    by_cases hfailed : ((s.getLatestAgentQueueFailureDecision workspaceId dependencyId).isSome ||
        upstream.status == "cancelled") = true
    · rw [if_pos hfailed, if_pos hfailed]
      rfl
    rw [if_neg hfailed, if_neg hfailed]
    by_cases hblocked : upstream.status = "blocked"
    · rw [if_pos (by simpa using hblocked), if_pos hblocked]
      rfl
    · rw [if_neg (by simpa using hblocked), if_neg hblocked]
      rfl

/-- The gate goes on behind an accepted dependency only. -/
theorem gateCode_dependenciesReady_cons (s : SqliteStore)
    (workspaceId queueItemId dependencyId : String) (rest : List String) :
    gateCode (s.dependenciesReady workspaceId queueItemId (dependencyId :: rest)) =
      if s.upstreamState workspaceId dependencyId = .accepted then
        gateCode (s.dependenciesReady workspaceId queueItemId rest)
      else (s.upstreamState workspaceId dependencyId).code := by
  have hone := gateCode_dependencyReady s workspaceId queueItemId dependencyId
  simp only [SqliteStore.dependenciesReady]
  cases hready : s.dependencyReady workspaceId queueItemId dependencyId with
  | error blocker =>
    rw [hready] at hone
    cases hstate : s.upstreamState workspaceId dependencyId <;> rw [hstate] at hone
    · cases hone
    all_goals exact hone
  | ok u =>
    rw [hready] at hone
    cases hstate : s.upstreamState workspaceId dependencyId <;> rw [hstate] at hone
    · rfl
    all_goals cases hone

/-! ## The aggregate -/

/-- The upstream task among the tasks of the workspace is the stored one. -/
theorem find_listAgentQueueTasks (s : SqliteStore) (workspaceId id : String) :
    (s.listAgentQueueTasks workspaceId).find? (·.queueItemId == id) =
      s.getAgentQueueTask workspaceId id := by
  have hunique : ∀ a b : AgentQueueTaskRow,
      (a.workspaceId == workspaceId && a.queueItemId == id) = true →
      (b.workspaceId == workspaceId && b.queueItemId == id) = true → Clash a b := by
    intro a b ha hb
    simp only [Bool.and_eq_true, beq_iff_eq] at ha hb
    exact ⟨("queue_item_id", [id]), by simp [Row.keys, ha.2], by simp [Row.keys, hb.2]⟩
  cases hfind : (s.listAgentQueueTasks workspaceId).find? (·.queueItemId == id) with
  | none =>
    symm
    rw [SqliteStore.getAgentQueueTask, Table.find_eq_none]
    intro a ha
    by_contra hsat
    simp only [Bool.not_eq_false, Bool.and_eq_true, beq_iff_eq] at hsat
    have hnone := List.find?_eq_none.1 hfind a (mem_listAgentQueueTasks.2 ⟨ha, hsat.1⟩)
    exact hnone (by simpa using hsat.2)
  | some task =>
    symm
    rw [SqliteStore.getAgentQueueTask, Table.find_eq_some hunique]
    obtain ⟨hmem, hws⟩ := mem_listAgentQueueTasks.1 (List.mem_of_find?_eq_some hfind)
    have hid := List.find?_some hfind
    exact ⟨hmem, by simpa [hws] using hid⟩

theorem containsKey_insertSome {α : Type} (key id : String) (row : Option α)
    (entries : List (String × α)) :
    containsKey (insertSome key row entries) id =
      ((row.isSome && id == key) || containsKey entries id) := by
  cases row with
  | none => simp [insertSome]
  | some row =>
    by_cases hkey : id = key
    · subst hkey
      simp [insertSome, containsKey]
    · have hne : (id == key) = false := by simpa using hkey
      simp [insertSome, containsKey, List.lookup_cons, hne]

/-- A map that was collected over some tasks has an entry for a task with a row. -/
theorem containsKey_foldr {α : Type} (lookup : String → Option α) (tasks : List AgentQueueTaskRow)
    (id : String) :
    containsKey (tasks.foldr (fun task => insertSome task.queueItemId (lookup task.queueItemId))
      []) id = ((lookup id).isSome && tasks.any (·.queueItemId == id)) := by
  induction tasks with
  | nil => simp [containsKey]
  | cons task tasks ih =>
    rw [List.foldr_cons, containsKey_insertSome, ih, List.any_cons]
    by_cases hid : id = task.queueItemId
    · subst hid
      simp
      cases (lookup task.queueItemId).isSome <;> simp
    · have hne : (id == task.queueItemId) = false := by simpa using hid
      have hne' : (task.queueItemId == id) = false := by simpa using Ne.symm hid
      simp [hne, hne']

/-- One step of the scan of the aggregate. -/
theorem dependencyStateFrom_cons (s : SqliteStore) (workspaceId dependencyId : String)
    (allReady : Bool) (rest : List String) :
    let tasks := s.listAgentQueueTasks workspaceId
    let decisions := s.decisionMaps workspaceId tasks
    dependencyStateFrom tasks decisions allReady (dependencyId :: rest) =
      match s.upstreamState workspaceId dependencyId with
      | .accepted => dependencyStateFrom tasks decisions allReady rest
      | .pending => dependencyStateFrom tasks decisions false rest
      | .failed => .failedUpstream
      | .blocked => .blocked
      | .missing => .unknown := by
  intro tasks decisions
  rw [dependencyStateFrom, find_listAgentQueueTasks]
  unfold SqliteStore.upstreamState
  cases hget : s.getAgentQueueTask workspaceId dependencyId with
  | none => rfl
  | some upstream =>
    have hlisted : tasks.any (·.queueItemId == dependencyId) = true := by
      have hfind := (find_listAgentQueueTasks s workspaceId dependencyId).trans hget
      have hid : (upstream.queueItemId == dependencyId) = true := by
        simpa using List.find?_some hfind
      exact List.any_eq_true.2 ⟨upstream, List.mem_of_find?_eq_some hfind, hid⟩
    have hcompletions : containsKey decisions.completions dependencyId =
        (s.getLatestAgentQueueCompletionDecision workspaceId dependencyId).isSome := by
      refine (containsKey_foldr
        (s.getLatestAgentQueueCompletionDecision workspaceId) tasks dependencyId).trans ?_
      rw [hlisted, Bool.and_true]
    have hfailures : containsKey decisions.failures dependencyId =
        (s.getLatestAgentQueueFailureDecision workspaceId dependencyId).isSome := by
      refine (containsKey_foldr
        (s.getLatestAgentQueueFailureDecision workspaceId) tasks dependencyId).trans ?_
      rw [hlisted, Bool.and_true]
    simp only [hcompletions, hfailures]
    by_cases haccepted :
        (s.getLatestAgentQueueCompletionDecision workspaceId dependencyId).isSome = true
    · simp [haccepted]
    by_cases hfailed :
        (s.getLatestAgentQueueFailureDecision workspaceId dependencyId).isSome = true
    · simp [haccepted, hfailed]
    by_cases hcancelled : upstream.status = "cancelled"
    · simp [haccepted, hfailed, hcancelled]
    by_cases hblocked : upstream.status = "blocked"
    · simp [haccepted, hfailed, hblocked]
    · simp [haccepted, hfailed, hcancelled, hblocked]

/-! ## Agreement -/

/-- The upstream tasks neither the gate nor the aggregate stops at for good. -/
def Harmless (state : UpstreamState) : Prop := state = .accepted ∨ state = .pending

/-- When the first dependency that is not accepted is pending, the dependencies behind it
are accepted or pending as well. -/
def PendingHidesNothing (s : SqliteStore) (workspaceId : String) (ids : List String) : Prop :=
  ∀ before id behind, ids = before ++ id :: behind →
    (∀ a ∈ before, s.upstreamState workspaceId a = .accepted) →
    s.upstreamState workspaceId id = .pending →
    ∀ b ∈ behind, Harmless (s.upstreamState workspaceId b)

theorem pendingHidesNothing_nil (s : SqliteStore) (workspaceId : String) :
    PendingHidesNothing s workspaceId [] := by
  intro before id behind hids
  simp at hids

theorem pendingHidesNothing_cons {s : SqliteStore} {workspaceId dependencyId : String}
    {rest : List String} :
    PendingHidesNothing s workspaceId (dependencyId :: rest) ↔
      (s.upstreamState workspaceId dependencyId = .accepted →
        PendingHidesNothing s workspaceId rest) ∧
      (s.upstreamState workspaceId dependencyId = .pending →
        ∀ b ∈ rest, Harmless (s.upstreamState workspaceId b)) := by
  constructor
  · intro h
    refine ⟨fun haccepted => ?_, fun hpending => ?_⟩
    · intro before id behind hids hbefore
      have hall : ∀ a ∈ dependencyId :: before, s.upstreamState workspaceId a = .accepted := by
        intro a ha
        rcases List.mem_cons.1 ha with rfl | ha
        · exact haccepted
        · exact hbefore a ha
      exact h (dependencyId :: before) id behind (by rw [hids, List.cons_append]) hall
    · exact h [] dependencyId rest rfl (by simp) hpending
  · rintro ⟨haccepted, hpending⟩ before id behind hids hbefore hid
    cases before with
    | nil =>
      obtain ⟨rfl, rfl⟩ := List.cons.inj hids
      exact hpending hid
    | cons a before =>
      obtain ⟨rfl, rfl⟩ := List.cons.inj hids
      have hfirst := hbefore dependencyId List.mem_cons_self
      refine haccepted hfirst before id behind rfl ?_ hid
      intro b hb
      exact hbefore b (List.mem_cons_of_mem _ hb)

/-- Behind a pending dependency the aggregate answers "waiting" exactly when nothing
worse comes. -/
theorem dependencyStateFrom_false (s : SqliteStore) (workspaceId : String) (ids : List String) :
    let tasks := s.listAgentQueueTasks workspaceId
    let decisions := s.decisionMaps workspaceId tasks
    dependencyStateCode (dependencyStateFrom tasks decisions false ids) =
        some "dependency_waiting" ↔ ∀ b ∈ ids, Harmless (s.upstreamState workspaceId b) := by
  intro tasks decisions
  induction ids with
  | nil => simp [dependencyStateFrom, dependencyStateCode]
  | cons id rest ih =>
    rw [dependencyStateFrom_cons, List.forall_mem_cons]
    cases hstate : s.upstreamState workspaceId id
    case accepted => simpa [Harmless] using ih
    case pending => simpa [Harmless] using ih
    all_goals simp [Harmless, dependencyStateCode]

/-- The induction over the dependencies: the two loops go on together until one stops. -/
theorem gateCode_eq_iff (s : SqliteStore) (workspaceId queueItemId : String)
    (ids : List String) :
    let tasks := s.listAgentQueueTasks workspaceId
    let decisions := s.decisionMaps workspaceId tasks
    gateCode (s.dependenciesReady workspaceId queueItemId ids) =
        dependencyStateCode (dependencyStateFrom tasks decisions true ids) ↔
      PendingHidesNothing s workspaceId ids := by
  intro tasks decisions
  induction ids with
  | nil =>
    have hnil := pendingHidesNothing_nil s workspaceId
    simp [SqliteStore.dependenciesReady, dependencyStateFrom, dependencyStateCode, gateCode, hnil]
  | cons id rest ih =>
    rw [gateCode_dependenciesReady_cons, dependencyStateFrom_cons, pendingHidesNothing_cons]
    cases hstate : s.upstreamState workspaceId id
    case accepted => simpa using ih
    case pending =>
      have hbehind := dependencyStateFrom_false s workspaceId rest
      simpa [UpstreamState.code, eq_comm] using hbehind
    all_goals simp [UpstreamState.code, dependencyStateCode]

/-- **The gate and the aggregate give the same answer about the dependencies of a task
exactly when no pending one hides a worse one.** -/
theorem gate_agrees_with_aggregate_iff (s : SqliteStore) (workspaceId : String)
    (task : AgentQueueTaskRow) :
    gateCode (s.validateQueueTaskDependenciesReady workspaceId task) =
        dependencyStateCode (s.queueItemAggregate workspaceId task).dependencyState ↔
      PendingHidesNothing s workspaceId (rowDependencyIds task) := by
  have hloops := gateCode_eq_iff s workspaceId task.queueItemId (rowDependencyIds task)
  simp only [SqliteStore.validateQueueTaskDependenciesReady, SqliteStore.queueItemAggregate,
    buildQueueItemAggregate, dependencyState]
  cases hids : rowDependencyIds task with
  | nil =>
    have hnil := pendingHidesNothing_nil s workspaceId
    simp [SqliteStore.dependenciesReady, dependencyStateCode, gateCode, hnil]
  | cons id rest =>
    rw [hids] at hloops
    exact hloops

/-- A task that depends on a queued task and, after it, on a cancelled one. -/
def pendingBeforeCancelled : List Op :=
  [.createTask (drawsAt 1) (taskInput "w" "queued" []),
    .createTask (drawsAt 2) (taskInput "w" "cancelled" []),
    .createTask (drawsAt 3) (taskInput "w" "queued"
      ["queue_task_1000000000_0", "queue_task_2000000000_0"])]

/-- The gate waits where the aggregate has seen the failure. -/
theorem gate_disagrees_behind_pending :
    ∃ task ∈ (Machine.after perform (oneWorkspace "w")
        pendingBeforeCancelled).listAgentQueueTasks "w",
      gateCode ((Machine.after perform (oneWorkspace "w")
          pendingBeforeCancelled).validateQueueTaskDependenciesReady "w" task) =
        some "dependency_waiting" ∧
      ((Machine.after perform (oneWorkspace "w")
          pendingBeforeCancelled).queueItemAggregate "w" task).dependencyState =
        .failedUpstream := by
  decide +kernel

end HobitQueue
