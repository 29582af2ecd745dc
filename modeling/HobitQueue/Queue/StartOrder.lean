import HobitQueue.Lib.WaitsFor
import HobitQueue.Queue.Decisions
import HobitQueue.Queue.DependencyGraph
import HobitQueue.Queue.DependencyStates

/-!
# The order of starts

A start goes through the control state of the workspace and through the gate over the
dependencies, so a worker is started after its upstream tasks were accepted. As the dependencies
have no cycles, a task that is not accepted waits in the end for a task that may start, or for
one that is no longer there.

## Main results

* `started_after_acceptances` — a start comes after the acceptance of every upstream task.
* `waits_for_startable` — no tasks wait for each other.
-/

namespace HobitQueue

open Concurrent StoreProg Relational Machine

/-! ## What a start has checked -/

/-- Some task of the workspace with the id passes the gate. -/
def GateOpen (s : SqliteStore) (workspaceId queueItemId : String) : Prop :=
  ∃ task ∈ s.agentQueueTasks, task.workspaceId = workspaceId ∧ task.queueItemId = queueItemId ∧
    s.validateQueueTaskDependenciesReady workspaceId task = .ok ()

/-- The workspace has its starts enabled, and the task passes the gate. -/
def StartAllowed (s : SqliteStore) (workspaceId queueItemId : String) : Prop :=
  (∃ control ∈ s.agentQueueControlStates, control.workspaceId = workspaceId ∧
    control.status = agentQueueControlStatusManualEnabled) ∧
  GateOpen s workspaceId queueItemId

/-- A control state that is created on the way is disabled, so an enabled one was there. -/
theorem enabled_of_ensureDefaultControlState {workspaceId createdAt : String} {s t : SqliteStore}
    {row : AgentQueueControlStateRow}
    (h : exec (ensureDefaultControlState workspaceId createdAt) s = (.ok row, t))
    (henabled : row.status = agentQueueControlStatusManualEnabled) :
    ∃ control ∈ s.agentQueueControlStates, control.workspaceId = workspaceId ∧
      control.status = agentQueueControlStatusManualEnabled := by
  rw [ensureDefaultControlState, exec_execute_ok, SqliteStore.ensureAgentQueueControlState] at h
  split at h
  · rename_i existing hexisting
    obtain ⟨rfl, rfl⟩ := Prod.mk.inj (Except.ok.inj h)
    have hworkspace := Table.sat_of_find hexisting
    exact ⟨existing, Table.mem_of_find hexisting, by simpa using hworkspace, henabled⟩
  · obtain ⟨-, rfl, -⟩ := SqliteStore.inserted_ok.1 h
    have hdisabled : agentQueueControlStatusDisabled ≠ agentQueueControlStatusManualEnabled := by
      decide
    exact absurd henabled hdisabled

theorem enabled_of_startControlBlocker {input : NormalizedStartAssignedAgentQueueTaskInput}
    {control : AgentQueueControlStateRow} (h : startControlBlocker input control = none) :
    control.status = agentQueueControlStatusManualEnabled := by
  by_contra hdisabled
  simp only [startControlBlocker, if_pos hdisabled] at h
  split_ifs at h

/-- The gate does not look at the control states. -/
theorem ControlOnly.dependenciesReady {s u : SqliteStore} (h : ControlOnly s u)
    (workspaceId queueItemId : String) (ids : List String) :
    u.dependenciesReady workspaceId queueItemId ids =
      s.dependenciesReady workspaceId queueItemId ids := by
  obtain ⟨controls, rfl⟩ := h
  induction ids with
  | nil => rfl
  | cons id ids ih =>
    rw [SqliteStore.dependenciesReady, SqliteStore.dependenciesReady, ih]
    rfl

theorem ControlOnly.gateOpen {s u : SqliteStore} (h : ControlOnly s u)
    {workspaceId queueItemId : String} (hopen : GateOpen u workspaceId queueItemId) :
    GateOpen s workspaceId queueItemId := by
  obtain ⟨task, htask, hws, hid, hready⟩ := hopen
  rw [SqliteStore.validateQueueTaskDependenciesReady, h.dependenciesReady] at hready
  obtain ⟨controls, rfl⟩ := h
  exact ⟨task, htask, hws, hid, hready⟩

theorem startPlain_ready {d : Draws} {input : NormalizedStartAssignedAgentQueueTaskInput}
    {source : AgentQueueTaskRunSource} {s t : SqliteStore} {result : StartTransactionResult}
    (h : exec (startPlain d input source) s = (.ok result, t)) :
    GateOpen s input.workspaceId input.queueItemId := by
  rw [startPlain, exec_bind_ok] at h
  obtain ⟨task, u, hload, h⟩ := h
  obtain ⟨rfl, hmem, hws, hid, -⟩ := loadRunnableAgentQueueTask_ok hload
  rw [exec_query_bind, exec_bind_ok] at h
  obtain ⟨_, v, hcheck, -⟩ := h
  refine ⟨task, hmem, hws, hid, ?_⟩
  rw [exec_check] at hcheck
  have hready := (Prod.mk.inj hcheck).1
  cases hgate : u.validateQueueTaskDependenciesReady input.workspaceId task with
  | ok => rfl
  | error blocker =>
    rw [hgate] at hready
    cases hready

theorem startWithContext_ready {d : Draws} {input : NormalizedStartAssignedAgentQueueTaskInput}
    {source : AgentQueueTaskRunSource} {control : AgentQueueControlStateRow}
    {context : NormalizedQueueWorkerStartContext} {s t : SqliteStore}
    {result : StartTransactionResult}
    (h : exec (startWithContext d input source control context) s = (.ok result, t)) :
    StartBookkeeping s t ∨ GateOpen s input.workspaceId input.queueItemId := by
  rw [startWithContext, exec_bind_ok] at h
  obtain ⟨task, u, hload, h⟩ := h
  obtain ⟨rfl, hmem, hws, hid⟩ := loadAgentQueueTask_ok hload
  rw [exec_query_bind, exec_query_bind] at h
  split at h
  · exact Or.inl (recordWorkflowStartBlocked_ok h).1
  · exact Or.inl (recordWorkflowStartBlocked_ok h).1
  · rename_i hgate
    exact Or.inr ⟨task, hmem, hws, hid, hgate⟩

/-- A start that no existing action answers passes the control state and the gate. -/
theorem startNew_allowed {d : Draws} {input : NormalizedStartAssignedAgentQueueTaskInput}
    {source : AgentQueueTaskRunSource} {s t : SqliteStore} {result : StartTransactionResult}
    (h : exec (startNew d input source) s = (.ok result, t)) :
    StartBookkeeping s t ∨ StartAllowed s input.workspaceId input.queueItemId := by
  rw [startNew, exec_bind_ok] at h
  obtain ⟨control, u, hcontrol, h⟩ := h
  have hcontrolOnly := ensureDefaultControlState_ok hcontrol
  have henabled := fun hnone => enabled_of_ensureDefaultControlState hcontrol
    (@enabled_of_startControlBlocker input _ hnone)
  have hbook : ∀ {t}, StartBookkeeping u t → StartBookkeeping s t :=
    fun h => hcontrolOnly.bookkeeping.trans h
  split at h
  · exact Or.inl (hbook (recordWorkflowStartBlocked_ok h).1)
  · obtain ⟨-, rfl⟩ := Prod.mk.inj h
    exact Or.inl (hbook (StartBookkeeping.refl _))
  · rename_i context hnone _
    rcases startWithContext_ready h with hkept | hready
    · exact Or.inl (hbook hkept)
    · exact Or.inr ⟨henabled hnone, hcontrolOnly.gateOpen hready⟩
  · rename_i hnone _
    exact Or.inr ⟨henabled hnone, hcontrolOnly.gateOpen (startPlain_ready h)⟩

theorem startTransaction_allowed {d : Draws} {input : NormalizedStartAssignedAgentQueueTaskInput}
    {source : AgentQueueTaskRunSource} {s t : SqliteStore} {result : StartTransactionResult}
    (h : exec (startTransaction d input source) s = (.ok result, t)) :
    StartBookkeeping s t ∨ StartAllowed s input.workspaceId input.queueItemId := by
  rw [startTransaction, exec_query_bind] at h
  split at h
  · exact Or.inl (resolveExistingWorkflowStart_ok h).1
  · exact startNew_allowed h

/-- So does a start or a retry on the local backend. -/
theorem startSelectedTask_allowed {d : Draws} {mode : SelectedQueueLocalStartMode}
    {input : StartSelectedAgentQueueTaskLocalInput} {workspace : WorkspaceRow}
    {task : AgentQueueTaskRow} {s t : SqliteStore}
    {summary : SelectedAgentQueueTaskLocalStartSummary}
    (hmem : task ∈ s.agentQueueTasks) (hws : task.workspaceId = input.workspaceId)
    (hid : task.queueItemId = input.queueItemId) (hworkspace : workspace.id = input.workspaceId)
    (h : exec (startSelectedTask d mode input workspace task) s = (.ok summary, t)) :
    ControlOnly s t ∨ StartAllowed s input.workspaceId input.queueItemId := by
  rw [startSelectedTask, exec_bind_ok] at h
  obtain ⟨control, u, hcontrol, h⟩ := h
  have hcontrolOnly := ensureDefaultControlState_ok hcontrol
  split at h
  · obtain ⟨-, rfl⟩ := Prod.mk.inj h
    exact Or.inl hcontrolOnly
  rename_i henabled
  rw [exec_query_bind] at h
  split at h
  · obtain ⟨-, rfl⟩ := Prod.mk.inj h
    exact Or.inl hcontrolOnly
  · rename_i settings hgate
    have hready : u.validateQueueTaskDependenciesReady workspace.id task = .ok () := by
      unfold SqliteStore.selectedQueueLocalGate at hgate
      split at hgate
      · cases hgate
      · cases hdependencies : u.validateQueueTaskDependenciesReady workspace.id task with
        | ok => rfl
        | error blocker =>
          rw [hdependencies] at hgate
          cases hgate
    rw [hworkspace] at hready
    have hopen : GateOpen u input.workspaceId input.queueItemId := by
      refine ⟨task, ?_, hws, hid, hready⟩
      obtain ⟨controls, rfl⟩ := hcontrolOnly
      exact hmem
    exact Or.inr ⟨enabled_of_ensureDefaultControlState hcontrol (not_not.1 henabled),
      hcontrolOnly.gateOpen hopen⟩

theorem startSelectedTransaction_allowed {d : Draws} {mode : SelectedQueueLocalStartMode}
    {input : StartSelectedAgentQueueTaskLocalInput} {s t : SqliteStore}
    {summary : SelectedAgentQueueTaskLocalStartSummary}
    (h : exec (startSelectedTransaction d mode input) s = (.ok summary, t)) :
    ControlOnly s t ∨ StartAllowed s input.workspaceId input.queueItemId := by
  rw [startSelectedTransaction, exec_query_bind, exec_query_bind] at h
  have hpure : ∀ {r : SelectedAgentQueueTaskLocalStartSummary},
      exec (pure r : Sqlite SelectedAgentQueueTaskLocalStartSummary) s = (.ok summary, t) →
      ControlOnly s t := by
    intro r hr
    obtain ⟨-, rfl⟩ := Prod.mk.inj hr
    exact ControlOnly.refl s
  split at h
  · exact Or.inl (hpure h)
  · exact Or.inl (hpure h)
  rename_i workspace task hworkspace htask
  split at h
  · exact Or.inl (hpure h)
  rename_i hws
  rw [exec_query_bind] at h
  split at h
  · exact Or.inl (hpure h)
  have hworkspaceId := Table.sat_of_find hworkspace
  have htaskId := Table.sat_of_find htask
  simp only [beq_iff_eq] at hworkspaceId htaskId
  exact startSelectedTask_allowed (Table.mem_of_find htask) (not_not.1 hws) htaskId hworkspaceId h

theorem Launched.eq_link {link new : AgentQueueTaskRunLinkRow} {updatedAt : String}
    {s t : SqliteStore} (h : Launched new updatedAt s t) (hlink : link ∈ t.agentQueueTaskRunLinks)
    (hnew : link ∉ s.agentQueueTaskRunLinks) : link = new := by
  obtain ⟨links', _, _, _, _, hins, -, -, rfl⟩ := h
  exact ((Table.mem_insert hins link).1 hlink).resolve_left hnew

/-- **A start inserts a link only when it is allowed.** -/
theorem startAllowed_of_new_link {s : SqliteStore} {op : Op} (hop : op.Starts = true)
    {link : AgentQueueTaskRunLinkRow} (hlink : link ∈ (perform s op).agentQueueTaskRunLinks)
    (hnew : link ∉ s.agentQueueTaskRunLinks) :
    StartAllowed s link.workspaceId link.queueTaskId := by
  have hbookkeeping : ∀ {t}, StartBookkeeping s t → link ∉ t.agentQueueTaskRunLinks := by
    rintro _ ⟨_, _, _, rfl⟩
    exact hnew
  have hcontrolOnly : ∀ {t}, ControlOnly s t → link ∉ t.agentQueueTaskRunLinks := by
    rintro _ ⟨_, rfl⟩
    exact hnew
  cases op with
  | startAssigned d input source =>
    have hexec : exec (startAssignedAgentQueueTaskWithRunSource d input source) s =
        (_, perform s (.startAssigned d input source)) := Prod.mk.eta.symm
    rcases startAssignedAgentQueueTaskWithRunSource_effect hexec with
      ⟨-, hsame⟩ | ⟨n, result, -, hrun, -⟩
    · exact absurd (hsame ▸ hlink) hnew
    rcases startTransaction_allowed hrun with hbook | hallowed
    · exact absurd hlink (hbookkeeping hbook)
    rcases startTransaction_ok hrun with ⟨_, _, -, -, hbook, -⟩ | ⟨-, ⟨hbook, -⟩ | hlaunched⟩
    · exact absurd hlink (hbookkeeping hbook)
    · exact absurd hlink (hbookkeeping hbook)
    · obtain ⟨_, _, -, hlaunched, -⟩ := hlaunched
      rw [hlaunched.eq_link hlink hnew]
      exact hallowed
  | startSelected d mode input =>
    have hexec : exec (startSelectedAgentQueueTaskLocalWithMode d mode input) s =
        (_, perform s (.startSelected d mode input)) := Prod.mk.eta.symm
    rcases exec_plain_command hexec with ⟨-, hsame⟩ | ⟨n, summary, -, hrun, -⟩
    · exact absurd (hsame ▸ hlink) hnew
    rcases startSelectedTransaction_allowed hrun with hkept | hallowed
    · exact absurd hlink (hcontrolOnly hkept)
    rcases startSelectedTransaction_ok hrun with hkept | ⟨hlaunched, -⟩
    · exact absurd hlink (hcontrolOnly hkept)
    · rw [hlaunched.eq_link hlink hnew]
      exact hallowed
  | _ => cases hop

/-! ## Acceptance before the start -/

/-- The gate lets a task pass when all its upstream tasks are accepted. -/
theorem dependenciesReady_ok_iff {s : SqliteStore} {workspaceId queueItemId : String}
    {ids : List String} :
    s.dependenciesReady workspaceId queueItemId ids = .ok () ↔
      ∀ id ∈ ids, s.upstreamState workspaceId id = .accepted := by
  have hcode : ∀ r : Except QueueWorkerStartBlocker Unit, gateCode r = none ↔ r = .ok () := by
    intro r
    cases r <;> simp [gateCode]
  rw [← hcode]
  induction ids with
  | nil => simp [SqliteStore.dependenciesReady, gateCode]
  | cons id ids ih =>
    rw [gateCode_dependenciesReady_cons, List.forall_mem_cons]
    cases s.upstreamState workspaceId id <;> simp [UpstreamState.code, ih]

theorem upstreamState_eq_accepted {s : SqliteStore} {workspaceId id : String} :
    s.upstreamState workspaceId id = .accepted ↔
      (s.getAgentQueueTask workspaceId id).isSome ∧
        (s.getLatestAgentQueueCompletionDecision workspaceId id).isSome := by
  unfold SqliteStore.upstreamState
  cases s.getAgentQueueTask workspaceId id with
  | none => simp
  | some upstream =>
    simp only [Option.isSome_some, true_and]
    split_ifs with haccepted <;> simp_all

theorem isSome_getLatestCompletion {s : SqliteStore} {workspaceId id : String} :
    (s.getLatestAgentQueueCompletionDecision workspaceId id).isSome ↔
      ∃ a ∈ s.agentQueueCompletionDecisions, a.workspaceId = workspaceId ∧ a.queueTaskId = id := by
  rw [← not_iff_not, Option.not_isSome_iff_eq_none,
    SqliteStore.getLatestAgentQueueCompletionDecision, Table.latest_eq_none]
  simp

/-- The task had no completion decision before an operation of the history, which accepts it. -/
def AcceptedIn (s : SqliteStore) (history : List Op) (workspaceId id : String) : Prop :=
  ∃ before d input later, history = before ++ .markDone d input :: later ∧
    (after perform s before).getLatestAgentQueueCompletionDecision workspaceId id = none ∧
    ((perform (after perform s before)
      (.markDone d input)).getLatestAgentQueueCompletionDecision workspaceId id).isSome

theorem AcceptedIn.concat {s : SqliteStore} {history : List Op} {workspaceId id : String}
    (h : AcceptedIn s history workspaceId id) (op : Op) :
    AcceptedIn s (history ++ [op]) workspaceId id := by
  obtain ⟨before, d, input, later, rfl, hnone, hsome⟩ := h
  exact ⟨before, d, input, later ++ [op], by simp, hnone, hsome⟩

/-- **Every completion decision was made by an acceptance.** -/
theorem acceptedIn_of_completion {s : SqliteStore} (hs : Empty s) (history : List Op)
    {a : AgentQueueCompletionDecisionRow}
    (ha : a ∈ (after perform s history).agentQueueCompletionDecisions) :
    AcceptedIn s history a.workspaceId a.queueTaskId := by
  induction history using List.reverseRecOn generalizing a with
  | nil => exact absurd ha (hs.completions a)
  | append_singleton history op ih =>
    rw [after_concat] at ha
    have heffect := decisionEffect_perform (after perform s history) op
    generalize hafter : perform (after perform s history) op = t at heffect ha
    cases heffect with
    | kept hcompletions => exact (ih (hcompletions ▸ ha)).concat op
    | gaveUp _ h =>
      obtain ⟨_, _, _, rfl⟩ := h
      exact (ih ha).concat _
    | deleted hn =>
      obtain ⟨b, hb, -, _, _, rfl⟩ := SqliteStore.completion_of_withoutTask ha
      exact (ih hb).concat _
    | @accepted d input request _ hrequest h =>
      have hmade := h
      obtain ⟨_, _, _, _, _, _, _, hnone, hins, rfl⟩ := hmade
      rcases (Table.mem_insert hins a).1 ha with hold | rfl
      · exact (ih hold).concat _
      · refine ⟨history, d, input, [], rfl, hnone, ?_⟩
        rw [hafter, isSome_getLatestCompletion]
        exact ⟨_, ha, rfl, rfl⟩

/-- **A start comes after the acceptance of every upstream task**: when a start or a retry inserts
a run link, the starts of the workspace are enabled, and each dependency of the task is there and
was accepted before. -/
theorem started_after_acceptances {s : SqliteStore} (hs : Empty s) (history : List Op) {op : Op}
    (hop : op.Starts = true) {link : AgentQueueTaskRunLinkRow}
    (hlink : link ∈ (perform (after perform s history) op).agentQueueTaskRunLinks)
    (hnew : link ∉ (after perform s history).agentQueueTaskRunLinks) :
    (∃ control ∈ (after perform s history).agentQueueControlStates,
      control.workspaceId = link.workspaceId ∧ control.status = "manual_enabled") ∧
    ∃ task ∈ (after perform s history).agentQueueTasks,
      task.workspaceId = link.workspaceId ∧ task.queueItemId = link.queueTaskId ∧
      ∀ id ∈ rowDependencyIds task,
        ((after perform s history).getAgentQueueTask link.workspaceId id).isSome ∧
          AcceptedIn s history link.workspaceId id := by
  obtain ⟨hcontrol, task, htask, hws, hid, hready⟩ := startAllowed_of_new_link hop hlink hnew
  refine ⟨hcontrol, task, htask, hws, hid, fun id hdependency => ?_⟩
  have haccepted := dependenciesReady_ok_iff.1 hready id hdependency
  obtain ⟨hthere, hdecision⟩ := upstreamState_eq_accepted.1 haccepted
  obtain ⟨a, ha, haws, haid⟩ := isSome_getLatestCompletion.1 hdecision
  exact ⟨hthere, haws ▸ haid ▸ acceptedIn_of_completion hs history ha⟩

/-- The second task depends on the first one, which is accepted. -/
def secondTaskQueued : List Op :=
  firstTaskAccepted ++ [.createTask (drawsAt 7) (taskInput "w" "queued" [firstTask])]

theorem started_after_acceptances_secondTask :
    ∃ link ∈ (perform (after perform (oneWorkspace "w") secondTaskQueued)
      (.startSelected (drawsAt 8) .start ⟨"w", "queue_task_7000000000_0"⟩)).agentQueueTaskRunLinks,
      (∃ control ∈ (after perform (oneWorkspace "w") secondTaskQueued).agentQueueControlStates,
        control.workspaceId = link.workspaceId ∧ control.status = "manual_enabled") ∧
      ∃ task ∈ (after perform (oneWorkspace "w") secondTaskQueued).agentQueueTasks,
        task.workspaceId = link.workspaceId ∧ task.queueItemId = link.queueTaskId ∧
        ∀ id ∈ rowDependencyIds task,
          ((after perform (oneWorkspace "w") secondTaskQueued).getAgentQueueTask
              link.workspaceId id).isSome ∧
            AcceptedIn (oneWorkspace "w") secondTaskQueued link.workspaceId id := by
  have hstarts : ∃ link ∈ (perform (after perform (oneWorkspace "w") secondTaskQueued)
      (.startSelected (drawsAt 8) .start ⟨"w", "queue_task_7000000000_0"⟩)).agentQueueTaskRunLinks,
      ∀ old ∈ (after perform (oneWorkspace "w") secondTaskQueued).agentQueueTaskRunLinks,
        old.linkId ≠ link.linkId := by
    decide +kernel
  obtain ⟨link, hlink, hnew⟩ := hstarts
  exact ⟨link, hlink, started_after_acceptances (empty_oneWorkspace "w") _ rfl hlink
    fun hold => hnew link hold rfl⟩

/-! ## No tasks that wait for each other -/

/-- **No tasks wait for each other**: from every task that is not accepted a chain of
dependencies, none of them accepted, leads to a task that passes the gate or that names a task
which is not there. -/
theorem waits_for_startable {s : SqliteStore} (hs : Empty s) {history : List Op}
    (hdraws : (history.filterMap Op.taskDraw).Nodup) {task : AgentQueueTaskRow}
    (htask : task ∈ (after perform s history).agentQueueTasks)
    (hwaits : (after perform s history).upstreamState task.workspaceId task.queueItemId ≠
      .accepted) :
    let t := after perform s history
    ∃ root ∈ t.agentQueueTasks, root.workspaceId = task.workspaceId ∧
      Relation.ReflTransGen (fun v w => DependsOn t task.workspaceId v w ∧
        t.upstreamState task.workspaceId w ≠ .accepted) task.queueItemId root.queueItemId ∧
      t.upstreamState task.workspaceId root.queueItemId ≠ .accepted ∧
      (t.validateQueueTaskDependenciesReady task.workspaceId root = .ok () ∨
        ∃ id ∈ rowDependencyIds root, t.getAgentQueueTask task.workspaceId id = none) := by
  intro t
  have hacyclic := (wellFormedGraph_after hs hdraws).2.acyclic task.workspaceId
  have hsources : ∀ v w, DependsOn t task.workspaceId v w →
      v ∈ (t.agentQueueTasks.rows.map (·.queueItemId)).toFinset := by
    rintro v w ⟨row, hrow, -, rfl, -⟩
    exact List.mem_toFinset.2 (List.mem_map_of_mem hrow)
  obtain ⟨b, hpath, ⟨hthere, hunaccepted⟩, hlast⟩ := hacyclic.exists_root _ hsources
    (fun id => (t.getAgentQueueTask task.workspaceId id).isSome ∧
      t.upstreamState task.workspaceId id ≠ .accepted)
    ⟨isSome_getAgentQueueTask.2 ⟨task, htask, rfl, rfl⟩, hwaits⟩
  obtain ⟨root, hroot, hws, rfl⟩ := isSome_getAgentQueueTask.1 hthere
  refine ⟨root, hroot, hws, ?_, hunaccepted, ?_⟩
  · exact Relation.ReflTransGen.mono (fun v w h => ⟨h.1, h.2.2⟩) _ _ hpath
  · by_cases hall : ∀ id ∈ rowDependencyIds root,
        t.upstreamState task.workspaceId id = .accepted
    · exact Or.inl (dependenciesReady_ok_iff.2 hall)
    · simp only [not_forall] at hall
      obtain ⟨id, hid, hwaiting⟩ := hall
      refine Or.inr ⟨id, hid, ?_⟩
      by_contra hfound
      exact hlast id ⟨root, hroot, hws, rfl, hid⟩
        ⟨Option.isSome_iff_ne_none.2 hfound, hwaiting⟩

theorem waits_for_startable_updatesOfTwoTasks :
    let t := after perform (oneWorkspace "w") updatesOfTwoTasks
    ∃ task ∈ t.agentQueueTasks, t.upstreamState task.workspaceId task.queueItemId ≠ .accepted ∧
      ∃ root ∈ t.agentQueueTasks, root.workspaceId = task.workspaceId ∧
        Relation.ReflTransGen (fun v w => DependsOn t task.workspaceId v w ∧
          t.upstreamState task.workspaceId w ≠ .accepted) task.queueItemId root.queueItemId ∧
        t.upstreamState task.workspaceId root.queueItemId ≠ .accepted ∧
        (t.validateQueueTaskDependenciesReady task.workspaceId root = .ok () ∨
          ∃ id ∈ rowDependencyIds root, t.getAgentQueueTask task.workspaceId id = none) := by
  intro t
  have hwaits : ∃ task ∈ t.agentQueueTasks,
      t.upstreamState task.workspaceId task.queueItemId ≠ .accepted := by
    decide +kernel
  obtain ⟨task, htask, hunaccepted⟩ := hwaits
  exact ⟨task, htask, hunaccepted,
    waits_for_startable (empty_oneWorkspace "w") (by decide) htask hunaccepted⟩

end HobitQueue
