import HobitQueue.Lib.CanonicalForm
import HobitQueue.Lib.Entries
import HobitQueue.Queue.History
import HobitQueue.Workflow.Promotion
import HobitQueue.Service.FinishChecks

/-!
# What a refused setup leaves

The setup commands write the task, the action and the run in one transaction, which is
committed whenever its program returns an answer. Every refusal stands before the writes but
one: bindings that are too large are refused when the task and the action are written.

## Main results

* `settings_atomic_iff`, `promotion_atomic_iff` — a refusal leaves the rows exactly when it
  is not one of these.
* `workflow_setup_atomic_iff` — both commands, and the transaction.
* `settingsTooLarge_path` — every path that is longer than the bindings is refused late.
-/

namespace HobitQueue

open Concurrent StoreProg Relational

/-! ## Rows -/

/-- The rows that a setup writes are as they were. -/
structure SetupUnchanged (s t : SqliteStore) : Prop where
  tasks : t.agentQueueTasks = s.agentQueueTasks
  actions : t.agentQueueWorkflowActions = s.agentQueueWorkflowActions
  runs : t.agentQueueWorkflowRuns = s.agentQueueWorkflowRuns

theorem SetupUnchanged.refl (s : SqliteStore) : SetupUnchanged s s := ⟨rfl, rfl, rfl⟩

/-- A run succeeds, or it leaves the rows that a setup writes. -/
def SucceedsOrLeaves {ε α : Type} (succeeded : α → Prop) (s : SqliteStore)
    (run : Except ε α × SqliteStore) : Prop :=
  (∃ a, run.1 = .ok a ∧ succeeded a) ∨ SetupUnchanged s run.2

/-- What was inserted was not there. -/
theorem insert_ne {ρ : Type} [Row ρ] {t t' : Table ρ} {row : ρ} (h : t.insert row = some t') :
    t' ≠ t := by
  rintro rfl
  have hlength := congrArg List.length (Table.rows_insert h)
  rw [List.length_append, List.length_singleton] at hlength
  omega

section Writes

variable {s : SqliteStore}

theorem getAgentQueueWorkflowRunById_of_run {workspaceId workflowRunId : String}
    {run : AgentQueueWorkflowRunRow}
    (h : s.getAgentQueueWorkflowRun workspaceId workflowRunId = some run) :
    s.getAgentQueueWorkflowRunById workflowRunId = some run ∧ run.workspaceId = workspaceId := by
  have hsat := Table.sat_of_find h
  rw [Bool.and_eq_true, beq_iff_eq, beq_iff_eq] at hsat
  refine ⟨(Table.find_eq_some fun a b ha hb => ?_).2
    ⟨Table.mem_of_find h, by simpa using hsat.2⟩, hsat.1⟩
  rw [beq_iff_eq] at ha hb
  exact ⟨("workflow_run_id", [a.workflowRunId]), by simp [Row.keys], by simp [Row.keys, ha, hb]⟩

/-- An action that a run has not recorded yet is recorded in an existing workspace, when its
id is new. -/
theorem insertAgentQueueWorkflowAction_new {row row' : AgentQueueWorkflowActionRow}
    {run : AgentQueueWorkflowRunRow} {t : SqliteStore}
    (hrun : s.getAgentQueueWorkflowRun row.workspaceId row.workflowRunId = some run)
    (hnew : s.getAgentQueueWorkflowActionByIdempotencyKey row.workflowRunId row.idempotencyKey =
      none) :
    s.insertAgentQueueWorkflowAction row = .ok (row', t) ↔
      s.hasWorkspace row.workspaceId = true ∧ row' = row ∧
        ∃ actions, s.agentQueueWorkflowActions.insert row = some actions ∧
          t = { s with agentQueueWorkflowActions := actions } := by
  obtain ⟨hid, hworkspace⟩ := getAgentQueueWorkflowRunById_of_run hrun
  have hparents : (s.hasWorkflowRun row.workflowRunId && s.hasWorkspace row.workspaceId) =
      s.hasWorkspace row.workspaceId := by
    rw [SqliteStore.hasWorkflowRun, hid, Option.isSome_some, Bool.true_and]
  rw [SqliteStore.insertAgentQueueWorkflowAction, hid]
  simp only [hworkspace, bne_self_eq_false, Bool.false_eq_true, ↓reduceIte, hnew]
  rw [SqliteStore.inserted_ok, hparents]

/-- The row of a task that was just rewritten is read back. -/
theorem updateTaskRow_read {workspaceId taskId : String}
    {f : AgentQueueTaskRow → AgentQueueTaskRow} {hf : ∀ r, Row.keys (f r) = Row.keys r}
    (hid : ∀ r, (f r).workspaceId = r.workspaceId ∧ (f r).queueItemId = r.queueItemId)
    {task : AgentQueueTaskRow} (h : s.getAgentQueueTask workspaceId taskId = some task) :
    ∃ tasks, s.updateTaskRow workspaceId taskId f hf =
        .ok (some (f task), { s with agentQueueTasks := tasks }) ∧
      ({ s with agentQueueTasks := tasks } : SqliteStore).getAgentQueueTask workspaceId taskId =
        some (f task) := by
  have hkey := Table.sat_of_find h
  have hread : (s.agentQueueTasks.update (fun r => r.workspaceId == workspaceId &&
      r.queueItemId == taskId) f hf).find (fun r => r.workspaceId == workspaceId &&
      r.queueItemId == taskId) = some (f task) := by
    have hfind := @Table.find_update _ _ s.agentQueueTasks
      (fun r => r.workspaceId == workspaceId && r.queueItemId == taskId)
      (fun r => r.workspaceId == workspaceId && r.queueItemId == taskId) f hf
      fun r => by rw [(hid r).1, (hid r).2]
    unfold SqliteStore.getAgentQueueTask at h
    rw [hfind, h, Option.map_some, if_pos hkey]
  exact ⟨_, congrArg (fun row => Except.ok (row, _)) hread, hread⟩

end Writes

/-! ## Transactions -/

/-- **A transaction is committed whenever its program returns an answer**, whatever the answer
says, and undone when it fails. -/
theorem exec_transaction_eq {α : Type} (mapErr : StorageError → WorkspaceServiceError)
    (p : Sqlite α) (s : SqliteStore) :
    exec (withImmediateTransaction mapErr p) s =
      match exec p s with
      | (.ok a, t) => (.ok a, t)
      | (.error e, _) => (.error (mapErr e), s) := by
  rcases h : exec p s with ⟨e | a, t⟩
  · exact exec_withImmediateTransaction_error h
  · exact exec_withImmediateTransaction_ok h

/-- A command that checks its request, and plans in a transaction what it writes there. -/
def plannedCommand {α β ν π : Type} (request : Except β ν) (refused : β → α)
    (plan : ν → SqliteStore → Except α π) (write : ν → π → Sqlite α) : Service α :=
  match request with
  | .error blocker => pure (refused blocker)
  | .ok n => withImmediateTransaction mapStorageAgentQueueTaskError (do
      let planned ← query (plan n)
      match planned with
      | .error answer => pure answer
      | .ok p => write n p)

/-- A planned command succeeds or leaves the rows, unless a plan is refused late. -/
theorem plannedCommand_atomic_iff {α β ν π : Type} {succeeded : α → Prop} {late : ν → π → Prop}
    {s : SqliteStore} {request : Except β ν} {refused : β → α}
    {plan : ν → SqliteStore → Except α π} {write : ν → π → Sqlite α}
    (hok : ∀ n p a t, plan n s = .ok p → exec (write n p) s = (.ok a, t) →
      succeeded a ∨ SetupUnchanged s t ∨ late n p)
    (hlate : ∀ n p, late n p → plan n s = .ok p ∧
      ∃ a t, exec (write n p) s = (.ok a, t) ∧ ¬ succeeded a ∧ ¬ SetupUnchanged s t) :
    SucceedsOrLeaves succeeded s (exec (plannedCommand request refused plan write) s) ↔
      ¬ ∃ n p, request = .ok n ∧ late n p := by
  cases request with
  | error blocker =>
    refine iff_of_true (Or.inr (SetupUnchanged.refl s)) ?_
    rintro ⟨n, p, hok, -⟩
    cases hok
  | ok n =>
    simp only [plannedCommand, exec_transaction_eq, exec_query_bind]
    cases hplan : plan n s with
    | error answer =>
      refine iff_of_true (Or.inr (SetupUnchanged.refl s)) ?_
      rintro ⟨n', p, hn, hl⟩
      obtain rfl := Except.ok.inj hn
      cases hplan.symm.trans (hlate n p hl).1
    | ok p =>
      constructor
      · rintro h ⟨n', p', hn, hl⟩
        obtain rfl := Except.ok.inj hn
        obtain ⟨hplan', a, t, hrun, hnot, hchanged⟩ := hlate n p' hl
        obtain rfl := Except.ok.inj (hplan.symm.trans hplan')
        simp only [hrun] at h
        rcases h with ⟨a', ha, hsucceeded⟩ | hsame
        · obtain rfl := Except.ok.inj ha
          exact hnot hsucceeded
        · exact hchanged hsame
      · intro hl
        rcases hrun : exec (write n p) s with ⟨e | a, t⟩
        · exact Or.inr (SetupUnchanged.refl s)
        · rcases hok n p a t hplan hrun with hsucceeded | hsame | h
          · exact Or.inl ⟨a, rfl, hsucceeded⟩
          · exact Or.inr hsame
          · exact absurd ⟨n, p, rfl, h⟩ hl

/-! ## Settings -/

/-- The bindings of a run with the settings of the slot. -/
def settledBindings (request : NormalizedApplyRunSettingsRequest) (plan : RunSettingsPlan)
    (actionId : String) : Json :=
  .obj (Json.insertMember request.slot (applyRunSettingsToBinding plan.binding request
    (settingsBindingSummary request plan.taskId actionId)) plan.slotBindings)

/-- New settings pass every check that stands before the writes, and what they come to is
too large. -/
structure SettledTooLarge (d : Draws) (s : SqliteStore)
    (n : NormalizedApplyRunSettingsRequest) (plan : RunSettingsPlan) : Prop where
  planned : s.planRunSettings n = .ok plan
  unrecorded : s.getAgentQueueWorkflowActionByIdempotencyKey n.workflowRunId
    n.actionIdempotencyKey = none
  owned : exec (validateWorkflowExecutionTargetOwner n.workspaceId
    n.runSettings.executionTarget) s = (.ok (), s)
  workspace : s.hasWorkspace n.workspaceId = true
  drawn : (s.agentQueueWorkflowActions.insert (runSettingsActionRow d n plan.taskId)).isSome
  tooLarge : maxWorkflowSlotBindingsJsonBytes <
    utf8Length (settledBindings n plan (d.placeholderId "queue-workflow-action-" 0)).canonicalString

/-- The request is refused after its writes. -/
def SettingsTooLarge (d : Draws) (s : SqliteStore)
    (request : QueueWorkflowApplyRunSettingsRequest) : Prop :=
  ∃ n plan, normalizeApplyRunSettingsRequest request = .ok n ∧ SettledTooLarge d s n plan

/-- Settings were applied now or before. -/
def QueueWorkflowApplyRunSettingsResult.Succeeded
    (result : QueueWorkflowApplyRunSettingsResult) : Prop :=
  result.status = .applied ∨ result.status = .reused

section Settings

variable {d : Draws} {s t : SqliteStore} {n : NormalizedApplyRunSettingsRequest}
  {plan : RunSettingsPlan}

theorem planRunSettings_ok (h : s.planRunSettings n = .ok plan) :
    s.getAgentQueueWorkflowRun n.workspaceId n.workflowRunId = some plan.run ∧
      s.getAgentQueueTask n.workspaceId plan.taskId = some plan.task ∧
      plan.existingAction = s.getAgentQueueWorkflowActionByIdempotencyKey n.workflowRunId
        n.actionIdempotencyKey := by
  rw [SqliteStore.planRunSettings] at h
  split at h
  · cases h
  next run hrun =>
    simp only [except_bind_ok, refuseIf_ok, exists_const] at h
    obtain ⟨-, slotBindings, -, ⟨binding, taskId⟩, -, h⟩ := h
    split at h
    · cases h
    · simp only [except_bind_ok] at h
      obtain ⟨-, -, h⟩ := h
      split at h
      · cases h
      next task htask =>
        split at h
        · cases h
        · obtain rfl := Except.ok.inj h
          exact ⟨hrun, htask, rfl⟩

/-- The owner of a target is a widget, unless it has none. -/
theorem validateWorkflowExecutionTargetOwner_ok {workspaceId : String}
    {target : CanonicalQueueWorkflowExecutionTarget} {u : Unit}
    (h : exec (validateWorkflowExecutionTargetOwner workspaceId target) s = (.ok u, t)) :
    t = s ∧ (target.directWorkOwnerWidgetId ≠ "" →
      s.hasWidgetInstance target.directWorkOwnerWidgetId = true) := by
  cases target with
  | queueLocal providerId owner =>
    cases owner with
    | none => exact ⟨(Prod.mk.inj h).2.symm, fun hne => absurd rfl hne⟩
    | some owner =>
      rw [validateWorkflowExecutionTargetOwner, exec_query_bind] at h
      cases hfind : s.getWidgetInstance owner with
      | none => simp [hfind] at h
      | some widget =>
        simp only [hfind, exec_failIf_bind, exec_failIf, guard_ok, Prod.mk.injEq] at h
        exact ⟨h.2.2.2.symm, fun _ => by
          rw [CanonicalQueueWorkflowExecutionTarget.directWorkOwnerWidgetId, Option.getD_some,
            SqliteStore.hasWidgetInstance, hfind, Option.isSome_some]⟩
  | agentExecutor providerId executorWidgetId =>
    simp only [validateWorkflowExecutionTargetOwner, exec_bind_ok, exec_pure,
      Prod.mk.injEq] at h
    obtain ⟨widget, u', hload, -, rfl⟩ := h
    obtain rfl := loadAgentExecutorWidget_ok hload
    refine ⟨rfl, fun _ => ?_⟩
    rw [CanonicalQueueWorkflowExecutionTarget.directWorkOwnerWidgetId,
      SqliteStore.hasWidgetInstance]
    cases hfind : u'.getWidgetInstance executorWidgetId with
    | none => simp [loadAgentExecutorWidget, hfind] at hload
    | some widget => rfl

/-- The settings are written into the task, and nothing else is. -/
theorem configuredTask_writes
    (htask : s.getAgentQueueTask n.workspaceId plan.taskId = some plan.task)
    (hwidget : n.runSettings.executorWidgetId ≠ "" →
      s.hasWidgetInstance n.runSettings.executorWidgetId = true) :
    ∃ task tasks, exec (configuredTask d n plan) s =
      (.ok task, { s with agentQueueTasks := tasks }) := by
  obtain ⟨tasks, hupdate, hread⟩ := @updateTaskRow_read s n.workspaceId plan.taskId
    (runSettingsTaskUpdate d plan.task n.runSettings).apply (fun _ => rfl)
    (fun r => ⟨rfl, rfl⟩) plan.task htask
  let u : SqliteStore := { s with agentQueueTasks := tasks }
  let task := (runSettingsTaskUpdate d plan.task n.runSettings).apply plan.task
  by_cases hassigned : n.runSettings.executorWidgetId = "" ∨
      task.assignedExecutorWidgetId = some n.runSettings.executorWidgetId
  · refine ⟨task, tasks, exec_bind_ok.2 ⟨some task, u, exec_execute_ok.2 hupdate,
      exec_bind_ok.2 ⟨task, u, rfl, ?_⟩⟩⟩
    rw [exec_ite, if_pos hassigned, exec_pure]
  · have hfound : u.hasWidgetInstance n.runSettings.executorWidgetId = true :=
      hwidget fun h => hassigned (Or.inl h)
    let assign := fun r : AgentQueueTaskRow => { r with
      assignedExecutorWidgetId := some n.runSettings.executorWidgetId
      updatedAt := d.timestamp 1 }
    obtain ⟨tasks', hassign, -⟩ := @updateTaskRow_read u n.workspaceId plan.taskId
      assign (fun _ => rfl) (fun r => ⟨rfl, rfl⟩) task hread
    refine ⟨assign task, tasks', exec_bind_ok.2 ⟨some task, u, exec_execute_ok.2 hupdate,
      exec_bind_ok.2 ⟨task, u, rfl, ?_⟩⟩⟩
    rw [exec_ite, if_neg hassigned]
    refine exec_bind_ok.2 ⟨some (assign task), _, exec_execute_ok.2 ?_, rfl⟩
    rw [SqliteStore.assignAgentQueueTaskToExecutor, if_pos hfound]
    exact hassign

/-- A slot is configured with an action that is there already, which leaves the store alone,
or with a new one beside the task. -/
theorem configuredSlot_ok {r : Except QueueWorkflowApplyRunSettingsResult
      (AgentQueueTaskRow × AgentQueueWorkflowActionRow × QueueWorkflowApplyRunSettingsStatus)}
    (hplan : s.planRunSettings n = .ok plan)
    (hwidget : n.runSettings.executorWidgetId ≠ "" →
      s.hasWidgetInstance n.runSettings.executorWidgetId = true)
    (h : exec (configuredSlot d n plan) s = (.ok r, t)) :
    (t = s ∧ ∀ task action status, r = .ok (task, action, status) → status = .reused) ∨
      (s.getAgentQueueWorkflowActionByIdempotencyKey n.workflowRunId n.actionIdempotencyKey =
          none ∧
        s.hasWorkspace n.workspaceId = true ∧
        (s.agentQueueWorkflowActions.insert (runSettingsActionRow d n plan.taskId)).isSome ∧
        ∃ task, r = .ok (task, runSettingsActionRow d n plan.taskId, .applied)) := by
  obtain ⟨hrun, htask, hexisting⟩ := planRunSettings_ok hplan
  rw [configuredSlot] at h
  cases haction : plan.existingAction with
  | some action =>
    left
    rw [haction] at h
    cases hmismatch : durableSettingsMismatch plan.task n.runSettings with
    | some blocker =>
      simp only [hmismatch, exec_pure, Prod.mk.injEq, Except.ok.injEq] at h
      obtain ⟨rfl, rfl⟩ := h
      exact ⟨rfl, fun _ _ _ hr => (nomatch hr)⟩
    | none =>
      simp only [hmismatch, exec_pure, Prod.mk.injEq, Except.ok.injEq] at h
      obtain ⟨rfl, rfl⟩ := h
      refine ⟨rfl, fun task' action' status hr => ?_⟩
      simp only [Except.ok.injEq, Prod.mk.injEq] at hr
      exact hr.2.2.symm
  | none =>
    right
    have hnew := hexisting.symm.trans haction
    obtain ⟨task, tasks, htasks⟩ := @configuredTask_writes d s n plan htask hwidget
    simp only [haction, exec_bind_ok, exec_execute_ok, exec_pure] at h
    obtain ⟨task', u, htask', action, v, hinsert, hanswer⟩ := h
    rw [htasks] at htask'
    obtain ⟨hok, rfl⟩ := Prod.mk.inj htask'
    obtain rfl := Except.ok.inj hok
    obtain ⟨hworkspace, rfl, actions, hactions, -⟩ :=
      (@insertAgentQueueWorkflowAction_new { s with agentQueueTasks := tasks }
        (runSettingsActionRow d n plan.taskId) action plan.run v hrun hnew).1 hinsert
    obtain ⟨hok, -⟩ := Prod.mk.inj hanswer
    exact ⟨hnew, hworkspace, Option.isSome_iff_exists.2 ⟨actions, hactions⟩, task,
      (Except.ok.inj hok).symm⟩

/-- New settings that pass the checks are written. -/
theorem configuredSlot_writes (hplan : s.planRunSettings n = .ok plan)
    (hwidget : n.runSettings.executorWidgetId ≠ "" →
      s.hasWidgetInstance n.runSettings.executorWidgetId = true)
    (hnew : s.getAgentQueueWorkflowActionByIdempotencyKey n.workflowRunId
      n.actionIdempotencyKey = none)
    (hworkspace : s.hasWorkspace n.workspaceId = true)
    (hdrawn : (s.agentQueueWorkflowActions.insert
      (runSettingsActionRow d n plan.taskId)).isSome) :
    ∃ task t, exec (configuredSlot d n plan) s =
        (.ok (.ok (task, runSettingsActionRow d n plan.taskId, .applied)), t) ∧
      t.agentQueueWorkflowActions ≠ s.agentQueueWorkflowActions := by
  obtain ⟨hrun, htask, hexisting⟩ := planRunSettings_ok hplan
  obtain ⟨task, tasks, htasks⟩ := @configuredTask_writes d s n plan htask hwidget
  obtain ⟨actions, hactions⟩ := Option.isSome_iff_exists.1 hdrawn
  have hinsert := (@insertAgentQueueWorkflowAction_new { s with agentQueueTasks := tasks }
    (runSettingsActionRow d n plan.taskId) _ plan.run _ hrun hnew).2
    ⟨hworkspace, rfl, actions, hactions, rfl⟩
  refine ⟨task, { s with agentQueueTasks := tasks, agentQueueWorkflowActions := actions }, ?_,
    insert_ne hactions⟩
  rw [configuredSlot, hexisting.trans hnew]
  exact exec_bind_ok.2 ⟨task, _, htasks, exec_bind_ok.2
    ⟨_, _, exec_execute_ok.2 hinsert, rfl⟩⟩

/-- A planned request that is answered without success left the rows, or was refused after
its writes. -/
theorem applyPlannedSettings_ok {answer : QueueWorkflowApplyRunSettingsResult}
    (hplan : s.planRunSettings n = .ok plan)
    (h : exec (applyPlannedSettings d n plan) s = (.ok answer, t)) :
    answer.Succeeded ∨ SetupUnchanged s t ∨ SettledTooLarge d s n plan := by
  rw [applyPlannedSettings, exec_bind_ok] at h
  obtain ⟨_, u, howner, h⟩ := h
  obtain ⟨rfl, hwidget⟩ := validateWorkflowExecutionTargetOwner_ok howner
  rw [exec_bind_ok] at h
  obtain ⟨configured, v, hslot, h⟩ := h
  rcases configuredSlot_ok hplan hwidget hslot with ⟨rfl, hreused⟩ |
    ⟨hnew, hworkspace, hdrawn, task, rfl⟩
  · match configured, hreused, h with
    | .error answer', _, h => exact Or.inr (Or.inl ((Prod.mk.inj h).2 ▸ SetupUnchanged.refl _))
    | .ok (task, action, status), hreused, h =>
      obtain rfl := hreused task action status rfl
      simp only [exec_ite] at h
      split_ifs at h with hlarge
      · exact Or.inr (Or.inl ((Prod.mk.inj h).2 ▸ SetupUnchanged.refl _))
      · simp only [exec_bind_ok, exec_pure, Prod.mk.injEq, Except.ok.injEq] at h
        obtain ⟨_, _, -, _, _, -, _, _, -, rfl, -⟩ := h
        exact Or.inl (Or.inr rfl)
  · simp only [exec_ite] at h
    split_ifs at h with hlarge
    · exact Or.inr (Or.inr ⟨hplan, hnew, howner, hworkspace, hdrawn, hlarge⟩)
    · simp only [exec_bind_ok, exec_pure, Prod.mk.injEq, Except.ok.injEq] at h
      obtain ⟨_, _, -, _, _, -, _, _, -, rfl, -⟩ := h
      exact Or.inl (Or.inl rfl)

/-- A request that is refused after its writes leaves them. -/
theorem applyPlannedSettings_of_tooLarge (h : SettledTooLarge d s n plan) :
    ∃ answer t, exec (applyPlannedSettings d n plan) s = (.ok answer, t) ∧
      ¬ answer.Succeeded ∧ ¬ SetupUnchanged s t := by
  obtain ⟨-, hwidget⟩ := validateWorkflowExecutionTargetOwner_ok h.owned
  obtain ⟨task, t, hslot, hchanged⟩ :=
    configuredSlot_writes h.planned hwidget h.unrecorded h.workspace h.drawn
  refine ⟨applyInvalidInput (some plan.run) (some (agentQueueTaskSummary task))
    (some (runSettingsActionRow d n plan.taskId)) (workflowBlocker "slot_bindings_too_large"
      "Queue workflow slot bindings exceed the configured byte limit." (some "slotBindings")),
    t, exec_bind_ok.2 ⟨(), s, h.owned, exec_bind_ok.2 ⟨_, t, hslot, ?_⟩⟩, ?_,
    fun hsame => hchanged hsame.actions⟩
  · simp only [exec_ite]
    exact if_pos h.tooLarge
  · rintro (hstatus | hstatus) <;> cases hstatus

theorem applyAgentQueueWorkflowRunSettings_eq (d : Draws)
    (request : QueueWorkflowApplyRunSettingsRequest) :
    applyAgentQueueWorkflowRunSettings d request =
      plannedCommand (normalizeApplyRunSettingsRequest request) (applyInvalidInput none none none)
        (fun n s => s.planRunSettings n) (applyPlannedSettings d) := by
  rw [applyAgentQueueWorkflowRunSettings]
  cases normalizeApplyRunSettingsRequest request with
  | error blocker => rfl
  | ok n =>
    simp only [plannedCommand, applyRunSettingsInStore]
    congr
    funext planned
    cases planned <;> rfl

/-- **The settings succeed or leave the rows, unless they are too large for the bindings.** -/
theorem settings_atomic_iff (d : Draws) (s : SqliteStore)
    (request : QueueWorkflowApplyRunSettingsRequest) :
    SucceedsOrLeaves QueueWorkflowApplyRunSettingsResult.Succeeded s
        (exec (applyAgentQueueWorkflowRunSettings d request) s) ↔
      ¬ SettingsTooLarge d s request := by
  rw [applyAgentQueueWorkflowRunSettings_eq]
  exact plannedCommand_atomic_iff (fun _ _ _ _ hplan h => applyPlannedSettings_ok hplan h)
    fun _ _ h => ⟨h.planned, applyPlannedSettings_of_tooLarge h⟩

end Settings

/-! ## Promotion -/

/-- The state that a promotion gives a task, and the word for it: a draft is queued. -/
def promotedState (task : AgentQueueTaskRow) : String × String :=
  if task.status = "draft" then ("queued", "promoted") else (task.status, "already_promoted")

/-- The action of a new promotion. -/
def newPromotion (d : Draws) (n : NormalizedPromoteTaskSlotRequest) (plan : PromotionPlan) :
    AgentQueueWorkflowActionRow :=
  promoteActionRow d n plan.taskId (promotedState plan.task).1 (promotedState plan.task).2

/-- A new promotion passes every check that stands before the writes, and what it comes to is
too large. -/
structure PromotedTooLarge (d : Draws) (s : SqliteStore)
    (n : NormalizedPromoteTaskSlotRequest) (plan : PromotionPlan) : Prop where
  planned : s.planPromotion n = .ok plan
  unrecorded : s.getAgentQueueWorkflowActionByIdempotencyKey n.workflowRunId
    n.actionIdempotencyKey = none
  workspace : s.hasWorkspace n.workspaceId = true
  drawn : (s.agentQueueWorkflowActions.insert (newPromotion d n plan)).isSome
  tooLarge : maxWorkflowSlotBindingsJsonBytes <
    utf8Length (promotedBindings d n plan (promotedState plan.task).1
      (d.placeholderId "queue-workflow-action-" 0) (promotedState plan.task).2).canonicalString

/-- The request is refused after its writes. -/
def PromotionTooLarge (d : Draws) (s : SqliteStore)
    (request : QueueWorkflowPromoteTaskSlotRequest) : Prop :=
  ∃ n plan, normalizePromoteTaskSlotRequest request = .ok n ∧ PromotedTooLarge d s n plan

/-- The slot was promoted now or before. -/
def QueueWorkflowPromoteTaskSlotResult.Succeeded
    (result : QueueWorkflowPromoteTaskSlotResult) : Prop :=
  result.status = .promoted ∨ result.status = .reused

section Promotion

variable {d : Draws} {s t : SqliteStore} {n : NormalizedPromoteTaskSlotRequest}
  {plan : PromotionPlan}

theorem planPromotion_ok (h : s.planPromotion n = .ok plan) :
    s.getAgentQueueWorkflowRun n.workspaceId n.workflowRunId = some plan.run ∧
      s.getAgentQueueTask n.workspaceId plan.taskId = some plan.task ∧
      plan.existingAction = s.getAgentQueueWorkflowActionByIdempotencyKey n.workflowRunId
        n.actionIdempotencyKey := by
  rw [SqliteStore.planPromotion] at h
  split at h
  · cases h
  next run hrun =>
    simp only [except_bind_ok, refuseIf_ok, exists_const] at h
    obtain ⟨-, slotBindings, -, ⟨binding, taskId⟩, -, h⟩ := h
    split at h
    · cases h
    · split at h
      · cases h
      next task htask =>
        simp only [except_bind_ok] at h
        obtain ⟨-, -, -, -, h⟩ := h
        obtain rfl := Except.ok.inj h
        exact ⟨hrun, htask, rfl⟩

/-- The state of a draft is written, and nothing else is. -/
theorem promotedTask_writes
    (htask : s.getAgentQueueTask n.workspaceId plan.taskId = some plan.task) :
    ∃ task tasks, exec (promotedTask d n plan) s =
        (.ok (task, (promotedState plan.task).2), { s with agentQueueTasks := tasks }) ∧
      task.status = (promotedState plan.task).1 := by
  rw [promotedTask, promotedState]
  by_cases hdraft : plan.task.status = "draft"
  · rw [if_pos hdraft, if_pos hdraft]
    refine ⟨setStatus "queued" (d.timestamp 1) plan.task, _, exec_bind_ok.2
      ⟨_, _, exec_execute_ok.2 (updateAgentQueueTaskStatus_read htask), rfl⟩, rfl⟩
  · rw [if_neg hdraft, if_neg hdraft]
    exact ⟨plan.task, s.agentQueueTasks, rfl, rfl⟩

/-- A slot is promoted by an action that is there already, which leaves the store alone, or
by a new one beside the task. -/
theorem promotedSlot_ok {slot : PromotedSlot} (hplan : s.planPromotion n = .ok plan)
    (h : exec (promotedSlot d n plan) s = (.ok slot, t)) :
    (t = s ∧ slot.status = .reused) ∨
      (s.getAgentQueueWorkflowActionByIdempotencyKey n.workflowRunId n.actionIdempotencyKey =
          none ∧
        s.hasWorkspace n.workspaceId = true ∧
        (s.agentQueueWorkflowActions.insert (newPromotion d n plan)).isSome ∧
        slot.action = newPromotion d n plan ∧ slot.status = .promoted ∧
        slot.task.status = (promotedState plan.task).1 ∧
        slot.promoteStatus = (promotedState plan.task).2) := by
  obtain ⟨hrun, htask, hexisting⟩ := planPromotion_ok hplan
  rw [promotedSlot] at h
  cases haction : plan.existingAction with
  | some action =>
    simp only [haction, exec_pure, Prod.mk.injEq, Except.ok.injEq] at h
    obtain ⟨rfl, rfl⟩ := h
    exact Or.inl ⟨rfl, rfl⟩
  | none =>
    right
    have hnew := hexisting.symm.trans haction
    obtain ⟨task, tasks, htasks, hstate⟩ := @promotedTask_writes d s n plan htask
    simp only [haction, exec_bind_ok, exec_execute_ok, exec_pure] at h
    obtain ⟨⟨task', word⟩, u, htask', action, v, hinsert, hanswer⟩ := h
    rw [htasks] at htask'
    obtain ⟨hok, rfl⟩ := Prod.mk.inj htask'
    obtain ⟨rfl, rfl⟩ := Prod.mk.inj (Except.ok.inj hok)
    rw [hstate] at hinsert
    obtain ⟨hworkspace, rfl, actions, hactions, -⟩ :=
      (@insertAgentQueueWorkflowAction_new { s with agentQueueTasks := tasks }
        (newPromotion d n plan) action plan.run v hrun hnew).1 hinsert
    obtain ⟨hok, -⟩ := Prod.mk.inj hanswer
    obtain rfl := Except.ok.inj hok
    exact ⟨hnew, hworkspace, Option.isSome_iff_exists.2 ⟨actions, hactions⟩, rfl, rfl, hstate,
      rfl⟩

/-- A new promotion that passes the checks is written. -/
theorem promotedSlot_writes (hplan : s.planPromotion n = .ok plan)
    (hnew : s.getAgentQueueWorkflowActionByIdempotencyKey n.workflowRunId
      n.actionIdempotencyKey = none)
    (hworkspace : s.hasWorkspace n.workspaceId = true)
    (hdrawn : (s.agentQueueWorkflowActions.insert (newPromotion d n plan)).isSome) :
    ∃ task t, exec (promotedSlot d n plan) s =
        (.ok ⟨task, newPromotion d n plan, .promoted, (promotedState plan.task).2⟩, t) ∧
      task.status = (promotedState plan.task).1 ∧
      t.agentQueueWorkflowActions ≠ s.agentQueueWorkflowActions := by
  obtain ⟨hrun, htask, hexisting⟩ := planPromotion_ok hplan
  obtain ⟨task, tasks, htasks, hstate⟩ := @promotedTask_writes d s n plan htask
  obtain ⟨actions, hactions⟩ := Option.isSome_iff_exists.1 hdrawn
  have hinsert := (@insertAgentQueueWorkflowAction_new { s with agentQueueTasks := tasks }
    (newPromotion d n plan) _ plan.run _ hrun hnew).2 ⟨hworkspace, rfl, actions, hactions, rfl⟩
  rw [newPromotion, ← hstate] at hinsert
  refine ⟨task, { s with agentQueueTasks := tasks, agentQueueWorkflowActions := actions }, ?_,
    hstate, insert_ne hactions⟩
  rw [promotedSlot, hexisting.trans hnew, newPromotion, ← hstate]
  exact exec_bind_ok.2 ⟨(task, (promotedState plan.task).2), _, htasks, exec_bind_ok.2
    ⟨_, _, exec_execute_ok.2 hinsert, rfl⟩⟩

/-- A planned promotion that is answered without success left the rows, or was refused after
its writes. -/
theorem applyPlannedPromotion_ok {answer : QueueWorkflowPromoteTaskSlotResult}
    (hplan : s.planPromotion n = .ok plan)
    (h : exec (applyPlannedPromotion d n plan) s = (.ok answer, t)) :
    answer.Succeeded ∨ SetupUnchanged s t ∨ PromotedTooLarge d s n plan := by
  rw [applyPlannedPromotion, exec_bind_ok] at h
  obtain ⟨slot, u, hslot, h⟩ := h
  simp only [exec_ite] at h
  split_ifs at h with hlarge
  · rcases promotedSlot_ok hplan hslot with ⟨rfl, -⟩ |
      ⟨hnew, hworkspace, hdrawn, haction, -, hstate, hword⟩
    · exact Or.inr (Or.inl ((Prod.mk.inj h).2 ▸ SetupUnchanged.refl _))
    · rw [haction, hstate, hword] at hlarge
      exact Or.inr (Or.inr ⟨hplan, hnew, hworkspace, hdrawn, hlarge⟩)
  · simp only [exec_bind_ok, exec_pure, Prod.mk.injEq, Except.ok.injEq] at h
    obtain ⟨_, _, -, _, _, -, _, _, -, rfl, -⟩ := h
    rcases promotedSlot_ok hplan hslot with ⟨-, hreused⟩ | ⟨-, -, -, -, hpromoted, -⟩
    · exact Or.inl (Or.inr hreused)
    · exact Or.inl (Or.inl hpromoted)

/-- A promotion that is refused after its writes leaves them. -/
theorem applyPlannedPromotion_of_tooLarge (h : PromotedTooLarge d s n plan) :
    ∃ answer t, exec (applyPlannedPromotion d n plan) s = (.ok answer, t) ∧
      ¬ answer.Succeeded ∧ ¬ SetupUnchanged s t := by
  obtain ⟨task, t, hslot, hstate, hchanged⟩ :=
    promotedSlot_writes h.planned h.unrecorded h.workspace h.drawn
  have hlarge := h.tooLarge
  rw [← hstate] at hlarge
  refine ⟨promoteInvalidInput (some plan.run) (some (agentQueueTaskSummary task))
    (some (newPromotion d n plan)) (workflowBlocker "slot_bindings_too_large"
      "Queue workflow slot bindings exceed the configured byte limit." (some "slotBindings")),
    t, exec_bind_ok.2 ⟨_, t, hslot, ?_⟩, ?_, fun hsame => hchanged hsame.actions⟩
  · simp only [exec_ite]
    exact if_pos hlarge
  · rintro (hstatus | hstatus) <;> cases hstatus

theorem promoteAgentQueueWorkflowTaskSlot_eq (d : Draws)
    (request : QueueWorkflowPromoteTaskSlotRequest) :
    promoteAgentQueueWorkflowTaskSlot d request =
      plannedCommand (normalizePromoteTaskSlotRequest request)
        (promoteInvalidInput none none none) (fun n s => s.planPromotion n)
        (applyPlannedPromotion d) := by
  rw [promoteAgentQueueWorkflowTaskSlot]
  cases normalizePromoteTaskSlotRequest request with
  | error blocker => rfl
  | ok n =>
    simp only [plannedCommand, promoteTaskSlotInStore]
    congr
    funext planned
    cases planned <;> rfl

/-- **A promotion succeeds or leaves the rows, unless it is too large for the bindings.** -/
theorem promotion_atomic_iff (d : Draws) (s : SqliteStore)
    (request : QueueWorkflowPromoteTaskSlotRequest) :
    SucceedsOrLeaves QueueWorkflowPromoteTaskSlotResult.Succeeded s
        (exec (promoteAgentQueueWorkflowTaskSlot d request) s) ↔
      ¬ PromotionTooLarge d s request := by
  rw [promoteAgentQueueWorkflowTaskSlot_eq]
  exact plannedCommand_atomic_iff (fun _ _ _ _ hplan h => applyPlannedPromotion_ok hplan h)
    fun _ _ h => ⟨h.planned, applyPlannedPromotion_of_tooLarge h⟩

end Promotion

/-- **The setup commands leave their rows or succeed, unless they are refused after their
writes**, which the transaction commits like every answer. -/
theorem workflow_setup_atomic_iff (d : Draws) (s : SqliteStore) :
    (∀ {α : Type} (mapErr : StorageError → WorkspaceServiceError) (p : Sqlite α),
      exec (withImmediateTransaction mapErr p) s =
        match exec p s with
        | (.ok a, t) => (.ok a, t)
        | (.error e, _) => (.error (mapErr e), s)) ∧
    (∀ request, SucceedsOrLeaves QueueWorkflowApplyRunSettingsResult.Succeeded s
        (exec (applyAgentQueueWorkflowRunSettings d request) s) ↔
      ¬ SettingsTooLarge d s request) ∧
    ∀ request, SucceedsOrLeaves QueueWorkflowPromoteTaskSlotResult.Succeeded s
        (exec (promoteAgentQueueWorkflowTaskSlot d request) s) ↔
      ¬ PromotionTooLarge d s request :=
  ⟨fun mapErr p => exec_transaction_eq mapErr p s, settings_atomic_iff d s,
    promotion_atomic_iff d s⟩

/-! ## A path that does not fit -/

theorem nodup_runSettingsMembers (n : NormalizedApplyRunSettingsRequest)
    (summary : QueueWorkflowRunSettingsBindingSummary) :
    ((runSettingsMembers n summary).map Prod.fst).Nodup := by
  rw [runSettingsMembers]
  cases summary.updateRunSettingsActionId <;> cases n.actorId <;> simp [presentMembers]

theorem mem_runSettingsMembers (n : NormalizedApplyRunSettingsRequest)
    (summary : QueueWorkflowRunSettingsBindingSummary) :
    ∃ settings, ("runSettings", Json.obj settings) ∈ runSettingsMembers n summary ∧
      ("executionWorkspace", Json.str n.runSettings.executionWorkspace) ∈ settings := by
  let settings := n.runSettings
  refine ⟨[("approvalPolicy", .str settings.approvalPolicy),
    ("codexExecutable", .str settings.codexExecutable),
    ("executionPolicy", .str settings.executionPolicy),
    ("executionTarget", executionTargetJson settings.executionTarget),
    ("executionWorkspace", .str settings.executionWorkspace),
    ("executorWidgetId", .str settings.executorWidgetId),
    ("sandbox", .str settings.sandbox)], ?_, ?_⟩
  · simp [runSettingsMembers, presentMembers, settings]
  · simp [settings]

/-- A path that is too long for the bindings makes them too large. -/
theorem length_le_settledBindings (n : NormalizedApplyRunSettingsRequest)
    (plan : RunSettingsPlan) (actionId : String) :
    n.runSettings.executionWorkspace.length ≤
      utf8Length (settledBindings n plan actionId).canonicalString := by
  obtain ⟨settings, hsettings, hpath⟩ :=
    mem_runSettingsMembers n (settingsBindingSummary n plan.taskId actionId)
  have hfield := Json.mem_of_lookup (Json.lookup_insertMembers_of_mem
    (nodup_runSettingsMembers n _) hsettings (bindingMembers plan.binding))
  have hmember := Json.mem_of_lookup (Json.lookup_insertMember_self n.slot
    (applyRunSettingsToBinding plan.binding n (settingsBindingSummary n plan.taskId actionId))
    plan.slotBindings)
  have hstr := Json.length_le_canonicalString_str n.runSettings.executionWorkspace
  have hsettings_le := Json.length_canonicalString_le hpath
  have hbinding_le := Json.length_canonicalString_le hfield
  have hbindings_le := Json.length_canonicalString_le hmember
  have hbytes := Json.length_le_utf8Length (settledBindings n plan actionId).canonicalString
  rw [applyRunSettingsToBinding] at hbindings_le
  rw [settledBindings, applyRunSettingsToBinding] at hbytes ⊢
  simp only at hsettings_le hbinding_le hbindings_le
  omega

def draftTask : AgentQueueTaskRow := { plainTask with status := "draft" }

/-- A run with one slot, which its task was created for. -/
def draftSlotRun : AgentQueueWorkflowRunRow :=
  plainRun [("upstream", .obj [("taskId", .str "task")])]

def draftSlotStore : SqliteStore :=
  { oneWorkspace "w" with
    agentQueueTasks := ⟨[draftTask], List.pairwise_singleton _ _⟩
    agentQueueWorkflowRuns := ⟨[draftSlotRun], List.pairwise_singleton _ _⟩ }

/-- Settings for the slot, with the path of an execution workspace. -/
def pathSettings (path : String) : QueueWorkflowRunSettings :=
  { executionWorkspace := path
    codexExecutable := "codex"
    sandbox := "read_only"
    approvalPolicy := "never"
    executionPolicy := "manual"
    executionTarget := some
      { kind := "queue_local"
        providerId := "codex"
        queueOwnerWidgetInstanceId := none
        executorWidgetId := none }
    executorWidgetId := "" }

def pathRequest (path : String) : QueueWorkflowApplyRunSettingsRequest :=
  { workspaceId := "w"
    workflowRunId := "workflow"
    slot := "upstream"
    taskId := none
    runSettings := pathSettings path
    settingsHash := none
    actorId := none
    actionIdempotencyKey := none }

def canonicalPathSettings (path : String) : CanonicalQueueWorkflowRunSettings :=
  { executionWorkspace := path
    codexExecutable := "codex"
    sandbox := "read_only"
    approvalPolicy := "never"
    executionPolicy := "manual"
    executionTarget := .queueLocal "codex" none }

def normalizedPathRequest (path : String) : NormalizedApplyRunSettingsRequest :=
  { workspaceId := "w"
    workflowRunId := "workflow"
    slot := "upstream"
    taskId := none
    runSettings := canonicalPathSettings path
    settingsHash := workflowRunSettingsHash (canonicalPathSettings path)
    actorId := none
    actionIdempotencyKey := "workflow" ++ ":" ++ updateRunSettingsActionType ++ ":" ++
      "upstream" ++ ":" ++ workflowRunSettingsHash (canonicalPathSettings path) }

def draftSlotPlan : RunSettingsPlan :=
  { run := draftSlotRun
    slotBindings := [("upstream", .obj [("taskId", .str "task")])]
    binding := .obj [("taskId", .str "task")]
    taskId := "task"
    task := draftTask
    existingAction := none }

section Path

variable {path : String}

theorem normalizeApplyRunSettingsRequest_path (htrim : Text.trim path = path)
    (hne : path ≠ "") :
    normalizeApplyRunSettingsRequest (pathRequest path) = .ok (normalizedPathRequest path) := by
  have hfield : ∀ field, requiredSetupField path field = .ok path := by
    intro field
    rw [requiredSetupField, htrim, if_neg hne]
  have hsettings : normalizeWorkflowRunSettings (pathSettings path) =
      .ok (canonicalPathSettings path) := by
    rw [normalizeWorkflowRunSettings, pathSettings]
    simp only [hfield]
    rfl
  have hfields : requiredSetupField "w" "workspaceId" = .ok "w" ∧
      requiredSetupField "workflow" "workflowRunId" = .ok "workflow" ∧
      normalizeSetupSlot "upstream" "slot" = .ok "upstream" := by
    decide +kernel
  obtain ⟨hworkspace, hrun, hslot⟩ := hfields
  rw [normalizeApplyRunSettingsRequest, pathRequest, hsettings, hworkspace, hrun, hslot]
  rfl

/-- A path that does not fit is refused after the settings are written. -/
theorem settingsTooLarge_path (htrim : Text.trim path = path)
    (hlong : maxWorkflowSlotBindingsJsonBytes < path.length) :
    SettingsTooLarge (drawsAt 1) draftSlotStore (pathRequest path) := by
  have hne : path ≠ "" := by
    rintro rfl
    exact absurd hlong (Nat.not_lt_zero _)
  have hlarge := length_le_settledBindings (normalizedPathRequest path) draftSlotPlan
    ((drawsAt 1).placeholderId "queue-workflow-action-" 0)
  exact ⟨normalizedPathRequest path, draftSlotPlan,
    normalizeApplyRunSettingsRequest_path htrim hne,
    ⟨rfl, rfl, rfl, rfl, rfl, Nat.lt_of_lt_of_le hlong hlarge⟩⟩

end Path

theorem trim_replicate (count : ℕ) :
    Text.trim (String.ofList (List.replicate count 'x')) =
      String.ofList (List.replicate count 'x') := by
  have hx : Text.isWhiteSpace 'x' = false := by decide
  simp [Text.trim, List.rdropWhile, hx]

/-- **Settings with a path of 16385 characters are refused and stay written.** -/
theorem long_path_settings_not_atomic :
    ¬ SucceedsOrLeaves QueueWorkflowApplyRunSettingsResult.Succeeded draftSlotStore
      (exec (applyAgentQueueWorkflowRunSettings (drawsAt 1)
        (pathRequest (String.ofList (List.replicate 16385 'x')))) draftSlotStore) := by
  have hlong : maxWorkflowSlotBindingsJsonBytes <
      (String.ofList (List.replicate 16385 'x')).length := by
    rw [← String.length_toList, String.toList_ofList, List.length_replicate,
      maxWorkflowSlotBindingsJsonBytes]
    decide
  rw [settings_atomic_iff, not_not]
  exact settingsTooLarge_path (trim_replicate 16385) hlong

end HobitQueue
