import HobitQueue.Service.Start

/-!
# What a start does

A start either keeps books only (the default control state, the start action) or
it inserts one running link, marks the task as running and completes its action.
-/

namespace HobitQueue

open Concurrent StoreProg Relational

/-! ## Workflow actions -/

/-- An action of the workflow run under the key. -/
def HasKey (workflowRunId key : String) (action : AgentQueueWorkflowActionRow) : Prop :=
  action.workflowRunId = workflowRunId ∧ action.idempotencyKey = key

/-- Every action keeps its key and the run it recorded. -/
def KeepsActions (actions actions' : Table AgentQueueWorkflowActionRow) : Prop :=
  ∀ a ∈ actions, ∃ b ∈ actions', HasKey a.workflowRunId a.idempotencyKey b ∧
    ∀ runId, workflowActionResultRunId a = some runId →
      workflowActionResultRunId b = some runId

theorem KeepsActions.refl (actions : Table AgentQueueWorkflowActionRow) :
    KeepsActions actions actions :=
  fun a ha => ⟨a, ha, ⟨rfl, rfl⟩, fun _ h => h⟩

theorem KeepsActions.trans {actions₁ actions₂ actions₃ : Table AgentQueueWorkflowActionRow}
    (h₁ : KeepsActions actions₁ actions₂) (h₂ : KeepsActions actions₂ actions₃) :
    KeepsActions actions₁ actions₃ := by
  intro a ha
  obtain ⟨b, hb, ⟨hrun, hkey⟩, hres⟩ := h₁ a ha
  obtain ⟨c, hc, ⟨hrun', hkey'⟩, hres'⟩ := h₂ b hb
  exact ⟨c, hc, ⟨hrun'.trans hrun, hkey'.trans hkey⟩, fun r hr => hres' r (hres r hr)⟩

theorem KeepsActions.insert {actions actions' : Table AgentQueueWorkflowActionRow}
    {row : AgentQueueWorkflowActionRow} (h : actions.insert row = some actions') :
    KeepsActions actions actions' :=
  fun a ha => ⟨a, (Table.mem_insert h a).2 (Or.inl ha), ⟨rfl, rfl⟩, fun _ h => h⟩

/-- Two actions of one run under one key are the same row. -/
theorem eq_of_hasKey {actions : Table AgentQueueWorkflowActionRow}
    {a b : AgentQueueWorkflowActionRow} {workflowRunId key : String} (ha : a ∈ actions)
    (hb : b ∈ actions) (hka : HasKey workflowRunId key a) (hkb : HasKey workflowRunId key b) :
    a = b := by
  refine Table.eq_of_clash ha hb
    ⟨("workflow_run_id, idempotency_key", [workflowRunId, key]), ?_, ?_⟩
  · simp [Row.keys, hka.1, hka.2]
  · simp [Row.keys, hkb.1, hkb.2]

theorem getAction_eq_some {s : SqliteStore} {workflowRunId key : String}
    {action : AgentQueueWorkflowActionRow} :
    s.getAgentQueueWorkflowActionByIdempotencyKey workflowRunId key = some action ↔
      action ∈ s.agentQueueWorkflowActions ∧ HasKey workflowRunId key action := by
  unfold SqliteStore.getAgentQueueWorkflowActionByIdempotencyKey HasKey
  rw [Table.find_eq_some]
  · simp
  · intro a b ha hb
    simp only [Bool.and_eq_true, beq_iff_eq] at ha hb
    exact ⟨("workflow_run_id, idempotency_key", [workflowRunId, key]),
      by simp [Row.keys, ha.1, ha.2], by simp [Row.keys, hb.1, hb.2]⟩

theorem getAction_eq_none {s : SqliteStore} {workflowRunId key : String} :
    s.getAgentQueueWorkflowActionByIdempotencyKey workflowRunId key = none ↔
      ∀ a ∈ s.agentQueueWorkflowActions, ¬ HasKey workflowRunId key a := by
  unfold SqliteStore.getAgentQueueWorkflowActionByIdempotencyKey HasKey
  simp [Table.find_eq_none]

/-- An accepted insert of an action whose key is free adds exactly the action. -/
theorem insertAgentQueueWorkflowAction_ok {s t : SqliteStore}
    {row row' : AgentQueueWorkflowActionRow}
    (hfree : s.getAgentQueueWorkflowActionByIdempotencyKey row.workflowRunId
      row.idempotencyKey = none)
    (h : s.insertAgentQueueWorkflowAction row = .ok (row', t)) :
    ∃ actions', s.agentQueueWorkflowActions.insert row = some actions' ∧
      t = { s with agentQueueWorkflowActions := actions' } := by
  unfold SqliteStore.insertAgentQueueWorkflowAction at h
  rw [hfree] at h
  split at h
  · cases h
  split at h
  · cases h
  obtain ⟨-, -, actions', hins, rfl⟩ := SqliteStore.inserted_ok.1 h
  exact ⟨actions', hins, rfl⟩

/-- The rewriting of the action of a workflow run under a key. -/
theorem updateAgentQueueWorkflowAction_ok {s t : SqliteStore}
    {workspaceId workflowRunId key : String} {update : AgentQueueWorkflowActionUpdate}
    {row : Option AgentQueueWorkflowActionRow}
    (h : s.updateAgentQueueWorkflowAction workspaceId workflowRunId key update =
      .ok (row, t)) :
    t = { s with
      agentQueueWorkflowActions := s.agentQueueWorkflowActions.update
        (fun r => r.workspaceId == workspaceId && r.workflowRunId == workflowRunId &&
          r.idempotencyKey == key) update.apply fun _ => rfl } ∧
      (∀ r, row = some r → r ∈ t.agentQueueWorkflowActions ∧ HasKey workflowRunId key r ∧
        ∃ a ∈ s.agentQueueWorkflowActions, r = update.apply a) := by
  simp only [SqliteStore.updateAgentQueueWorkflowAction] at h
  split at h
  · rename_i hfound
    obtain ⟨rfl, rfl⟩ := Prod.mk.inj (Except.ok.inj h)
    refine ⟨rfl, fun r hr => ?_⟩
    obtain ⟨hmem, hkey⟩ := getAction_eq_some.1 hr
    refine ⟨hmem, hkey, ?_⟩
    -- the row read back is the one that was rewritten, since the key is unique
    obtain ⟨named, hnamed⟩ := Option.isSome_iff_exists.1 hfound
    have hsat := Table.sat_of_find hnamed
    refine ⟨named, Table.mem_of_find hnamed, eq_of_hasKey hmem
      (Table.mem_update_of_pos (f := update.apply) (fun _ => rfl) (Table.mem_of_find hnamed)
        hsat) hkey ?_⟩
    simp only [Bool.and_eq_true, beq_iff_eq] at hsat
    exact ⟨hsat.1.2, hsat.2⟩
  · obtain ⟨rfl, rfl⟩ := Prod.mk.inj (Except.ok.inj h)
    refine ⟨rfl, ?_⟩
    simp

/-- An update that records no run forgets none. -/
theorem keepsActions_update {actions : Table AgentQueueWorkflowActionRow}
    {p : AgentQueueWorkflowActionRow → Bool} {update : AgentQueueWorkflowActionUpdate}
    (hnone : update.resultRefsJson = none) :
    KeepsActions actions (actions.update p update.apply fun _ => rfl) := by
  intro a ha
  refine ⟨_, Table.mem_update.2 ⟨a, ha, rfl⟩, ?_⟩
  by_cases hp : p a = true
  · simp only [hp, ↓reduceIte]
    refine ⟨⟨rfl, rfl⟩, fun r hr => ?_⟩
    simpa [workflowActionResultRunId, AgentQueueWorkflowActionUpdate.apply, hnone] using hr
  · simp only [hp]
    exact ⟨⟨rfl, rfl⟩, fun _ h => h⟩

/-! ## Bookkeeping -/

/-- A start that started no worker: at most the control states and the workflow
actions have changed, and no action is lost. -/
def StartBookkeeping (s t : SqliteStore) : Prop :=
  ∃ controls actions, KeepsActions s.agentQueueWorkflowActions actions ∧
    t = { s with agentQueueControlStates := controls, agentQueueWorkflowActions := actions }

theorem StartBookkeeping.refl (s : SqliteStore) : StartBookkeeping s s :=
  ⟨_, _, KeepsActions.refl _, rfl⟩

theorem ControlOnly.bookkeeping {s t : SqliteStore} (h : ControlOnly s t) :
    StartBookkeeping s t := by
  obtain ⟨controls, rfl⟩ := h
  exact ⟨controls, _, KeepsActions.refl _, rfl⟩

theorem StartBookkeeping.trans {s t u : SqliteStore} (h : StartBookkeeping s t)
    (h' : StartBookkeeping t u) : StartBookkeeping s u := by
  obtain ⟨controls, actions, hk, rfl⟩ := h
  obtain ⟨controls', actions', hk', rfl⟩ := h'
  exact ⟨controls', actions', hk.trans hk', rfl⟩

theorem exec_storageCheck_ok {α : Type} {r : Except WorkspaceServiceError α}
    {s t : SqliteStore} {a : α} :
    exec (storageCheck r) s = (.ok a, t) ↔ r = .ok a ∧ t = s := by
  unfold storageCheck
  rw [exec_check]
  cases r with
  | error e => simp [Except.mapError]
  | ok b => simp [Except.mapError, eq_comm]

theorem recordWorkflowStartBlocked_ok {d : Draws}
    {input : NormalizedStartAssignedAgentQueueTaskInput}
    {context : NormalizedQueueWorkerStartContext} {blocker : QueueWorkerStartBlocker}
    {s t : SqliteStore} {result : StartTransactionResult}
    (h : exec (recordWorkflowStartBlocked d input context blocker) s = (.ok result, t)) :
    StartBookkeeping s t ∧ ∃ b, result = .blocked b := by
  simp only [recordWorkflowStartBlocked, exec_query_bind] at h
  cases hex : s.getAgentQueueWorkflowActionByIdempotencyKey context.workflowRunId
      context.actionIdempotencyKey with
  | some existing =>
    simp only [hex] at h
    split at h
    · simp only [exec_bind_ok, exec_execute_ok, exec_pure, Prod.mk.injEq,
        Except.ok.injEq] at h
      obtain ⟨row, u, hupdate, rfl, rfl⟩ := h
      obtain ⟨rfl, -⟩ := updateAgentQueueWorkflowAction_ok hupdate
      exact ⟨⟨_, _, keepsActions_update rfl, rfl⟩, _, rfl⟩
    · simp only [exec_pure, Prod.mk.injEq, Except.ok.injEq] at h
      obtain ⟨rfl, rfl⟩ := h
      exact ⟨StartBookkeeping.refl s, _, rfl⟩
  | none =>
    simp only [hex, exec_bind_ok, exec_execute_ok, exec_pure, Prod.mk.injEq,
      Except.ok.injEq] at h
    obtain ⟨row, u, hinsert, rfl, rfl⟩ := h
    obtain ⟨actions', hins, rfl⟩ := insertAgentQueueWorkflowAction_ok hex hinsert
    exact ⟨⟨_, actions', KeepsActions.insert hins, rfl⟩, _, rfl⟩

/-! ## Owners -/

theorem loadOwnerWidget_ok {workspaceId widgetId wrongKind : String} {accepts : String → Bool}
    {s t : SqliteStore} {widget : WidgetInstanceRow}
    (h : exec (loadOwnerWidget workspaceId widgetId accepts wrongKind) s = (.ok widget, t)) :
    t = s := by
  simp only [loadOwnerWidget, exec_query_bind] at h
  split at h
  · simp at h
  · simp only [exec_failIf_bind, guard_ok, exec_pure, Prod.mk.injEq] at h
    exact h.2.2.2.symm

theorem resolveAgentQueueDirectWorkOwner_ok
    {input : NormalizedStartAssignedAgentQueueTaskInput} {task : AgentQueueTaskRow}
    {s t : SqliteStore} {owner : QueueDirectWorkOwner}
    (h : exec (resolveAgentQueueDirectWorkOwner input task) s = (.ok owner, t)) : t = s := by
  unfold resolveAgentQueueDirectWorkOwner at h
  split at h
  · simp only [exec_bind_ok, exec_pure, Prod.mk.injEq] at h
    obtain ⟨widget, u, hload, -, rfl⟩ := h
    exact loadOwnerWidget_ok hload
  · simp only [exec_bind_ok, exec_pure, Prod.mk.injEq] at h
    obtain ⟨widget, u, hload, -, rfl⟩ := h
    exact loadAgentExecutorWidget_ok hload
  · simp only [exec_query_bind, exec_failIf_bind, guard_ok, exec_pure, Prod.mk.injEq] at h
    exact h.2.2.symm

theorem existingStartOwner_ok {input : NormalizedStartAssignedAgentQueueTaskInput}
    {context : NormalizedQueueWorkerStartContext} {task : AgentQueueTaskRow}
    {s t : SqliteStore} {owner : QueueDirectWorkOwner}
    (h : exec (existingStartOwner input context task) s = (.ok owner, t)) : t = s := by
  unfold existingStartOwner at h
  split at h
  · simp only [exec_bind_ok, exec_pure, Prod.mk.injEq] at h
    obtain ⟨widget, u, hload, -, rfl⟩ := h
    exact loadOwnerWidget_ok hload
  · exact resolveAgentQueueDirectWorkOwner_ok h

/-! ## An existing action -/

theorem workflowStartExistingSummary_ok {input : NormalizedStartAssignedAgentQueueTaskInput}
    {context : NormalizedQueueWorkerStartContext} {runId state : String} {s t : SqliteStore}
    {summary : AssignedAgentQueueTaskStartSummary}
    (h : exec (workflowStartExistingSummary input context runId state) s = (.ok summary, t)) :
    t = s ∧ summary.runId = runId ∧ summary.status = "already_started" := by
  simp only [workflowStartExistingSummary, exec_bind_ok] at h
  obtain ⟨task, u, hload, executor, v, howner, directWork, w, hcheck, h⟩ := h
  obtain ⟨rfl, -⟩ := loadAgentQueueTask_ok hload
  have hv := existingStartOwner_ok howner
  obtain ⟨-, rfl⟩ := exec_storageCheck_ok.1 hcheck
  simp only [exec_pure, Prod.mk.injEq, Except.ok.injEq] at h
  obtain ⟨rfl, rfl⟩ := h
  exact ⟨hv, rfl, rfl⟩

/-- The answer of a start from its record: the recorded run, or a blocker. -/
def AnswersRecorded (runId : Option String) : StartTransactionResult → Prop
  | .started summary => runId = some summary.runId ∧ summary.status = "already_started"
  | .blocked _ => True

theorem resolveCompletedWorkflowStart_ok {d : Draws}
    {input : NormalizedStartAssignedAgentQueueTaskInput}
    {context : NormalizedQueueWorkerStartContext} {runId : Option String} {s t : SqliteStore}
    {result : StartTransactionResult}
    (h : exec (resolveCompletedWorkflowStart d input context runId) s = (.ok result, t)) :
    StartBookkeeping s t ∧ AnswersRecorded runId result := by
  unfold resolveCompletedWorkflowStart at h
  split at h
  · obtain ⟨hbook, b, rfl⟩ := recordWorkflowStartBlocked_ok h
    exact ⟨hbook, trivial⟩
  rw [exec_query_bind] at h
  split at h
  · obtain ⟨hbook, b, rfl⟩ := recordWorkflowStartBlocked_ok h
    exact ⟨hbook, trivial⟩
  simp only [exec_bind_ok, exec_pure, Prod.mk.injEq, Except.ok.injEq] at h
  obtain ⟨summary, u, hsummary, rfl, rfl⟩ := h
  obtain ⟨rfl, hrun, hstatus⟩ := workflowStartExistingSummary_ok hsummary
  exact ⟨StartBookkeeping.refl _, by rw [hrun], hstatus⟩

/-- **A start with a record starts no worker.** -/
theorem resolveExistingWorkflowStart_ok {d : Draws}
    {input : NormalizedStartAssignedAgentQueueTaskInput}
    {context : NormalizedQueueWorkerStartContext} {existing : AgentQueueWorkflowActionRow}
    {s t : SqliteStore} {result : StartTransactionResult}
    (h : exec (resolveExistingWorkflowStart d input context existing) s = (.ok result, t)) :
    StartBookkeeping s t ∧ AnswersRecorded (workflowActionResultRunId existing) result := by
  simp only [resolveExistingWorkflowStart, exec_query_bind] at h
  split at h
  · simp only [exec_pure, Prod.mk.injEq, Except.ok.injEq] at h
    obtain ⟨rfl, rfl⟩ := h
    exact ⟨StartBookkeeping.refl _, trivial⟩
  split at h
  · exact resolveCompletedWorkflowStart_ok h
  split at h
  · simp only [exec_pure, Prod.mk.injEq, Except.ok.injEq] at h
    obtain ⟨rfl, rfl⟩ := h
    exact ⟨StartBookkeeping.refl _, trivial⟩
  · obtain ⟨hbook, b, rfl⟩ := recordWorkflowStartBlocked_ok h
    exact ⟨hbook, trivial⟩

/-! ## A new worker -/

/-- At most one widget run is new, and it is the given one. -/
def InsertsRun (runId : String) (runs runs' : Table WidgetRunRow) : Prop :=
  runs' = runs ∨ ∃ row : WidgetRunRow, row.id = runId ∧ runs.insert row = some runs'

/-- The rewriting of the task that a start marks as running. -/
def markRunning (updatedAt : String) (task : AgentQueueTaskRow) : AgentQueueTaskRow :=
  { task with status := "running", updatedAt := updatedAt }

/-- A worker was started: one running link is new, the task is marked as running, at
most one widget run is new, and no workflow action is lost. -/
def Launched (link : AgentQueueTaskRunLinkRow) (updatedAt : String) (s t : SqliteStore) :
    Prop :=
  ∃ links' runs' controls' actions' workspaces',
    s.agentQueueTaskRunLinks.insert link = some links' ∧
    InsertsRun link.directWorkRunId s.widgetRuns runs' ∧
    KeepsActions s.agentQueueWorkflowActions actions' ∧
    t = { s with
      agentQueueTaskRunLinks := links'
      widgetRuns := runs'
      agentQueueTasks := s.agentQueueTasks.update
        (fun r => r.workspaceId == link.workspaceId && r.queueItemId == link.queueTaskId)
        (markRunning updatedAt) fun _ => rfl
      agentQueueControlStates := controls'
      agentQueueWorkflowActions := actions'
      workspaces := workspaces' }

theorem startDirectWork_ok {d : Draws} {executor : QueueDirectWorkOwner}
    {directWork : NormalizedDirectWorkInput} {s t : SqliteStore}
    {start : CodexDirectWorkStreamStartSummary}
    (h : exec (startDirectWork d executor directWork) s = (.ok start, t)) :
    ∃ runs' workspaces', InsertsRun start.runId s.widgetRuns runs' ∧
      t = { s with widgetRuns := runs', workspaces := workspaces' } := by
  unfold startDirectWork at h
  split at h
  · simp only [exec_pure, Prod.mk.injEq] at h
    obtain ⟨-, rfl⟩ := h
    exact ⟨_, _, Or.inl rfl, rfl⟩
  rw [exec_bind_ok] at h
  obtain ⟨start?, u, hinsert, h⟩ := h
  cases start? with
  | none => simp at h
  | some start' =>
    simp only [exec_pure, Prod.mk.injEq, Except.ok.injEq] at h
    obtain ⟨rfl, rfl⟩ := h
    obtain ⟨widgetId, runs', workspaces', hins, hid, rfl⟩ :=
      insertCodexDirectWorkStreamStart_ok hinsert
    exact ⟨runs', workspaces', Or.inr ⟨_, hid.symm, hins⟩, rfl⟩

/-- The action of a start's context. -/
def OwnAction (input : NormalizedStartAssignedAgentQueueTaskInput)
    (action : AgentQueueWorkflowActionRow) : Prop :=
  ∃ context, input.workflowStartContext = some context ∧
    HasKey context.workflowRunId context.actionIdempotencyKey action

/-- The completed action records the run; the other actions stay as they are. -/
theorem completeWorkflowStartAction_ok {d : Draws}
    {input : NormalizedStartAssignedAgentQueueTaskInput} {runId : String}
    {s t : SqliteStore} {u : Unit}
    (h : exec (completeWorkflowStartAction d input runId) s = (.ok u, t)) :
    (∀ context, input.workflowStartContext = some context →
      ∃ b ∈ t.agentQueueWorkflowActions,
        HasKey context.workflowRunId context.actionIdempotencyKey b ∧
        workflowActionResultRunId b = some runId) ∧
    ∃ actions', t = { s with agentQueueWorkflowActions := actions' } ∧
      (∀ a ∈ s.agentQueueWorkflowActions, ¬ OwnAction input a → a ∈ actions') := by
  unfold completeWorkflowStartAction at h
  split at h
  · rename_i hnone
    simp only [exec_pure, Prod.mk.injEq] at h
    obtain ⟨-, rfl⟩ := h
    refine ⟨?_, _, rfl, fun a ha _ => ha⟩
    simp [hnone]
  rename_i context hcontext
  simp only [exec_bind_ok, exec_execute_ok, exec_failIf, guard_ok, Prod.mk.injEq] at h
  obtain ⟨row, v, hupdate, hsome, -, rfl⟩ := h
  obtain ⟨hv, hrow⟩ := updateAgentQueueWorkflowAction_ok hupdate
  refine ⟨?_, _, hv, ?_⟩
  · intro context' hcontext'
    obtain rfl : context = context' := Option.some.inj (hcontext.symm.trans hcontext')
    cases row with
    | none => simp at hsome
    | some row =>
      obtain ⟨hmem, hkey, a, -, rfl⟩ := hrow row rfl
      exact ⟨_, hmem, hkey, rfl⟩
  · intro a ha hother
    refine Table.mem_update.2 ⟨a, ha, if_neg ?_⟩
    simp only [Bool.and_eq_true, beq_iff_eq]
    rintro ⟨⟨-, hrun⟩, hkey⟩
    exact hother ⟨context, hcontext, hrun, hkey⟩

theorem launchWorker_ok {d : Draws} {input : NormalizedStartAssignedAgentQueueTaskInput}
    {source : AgentQueueTaskRunSource} {task : AgentQueueTaskRow}
    {executor : QueueDirectWorkOwner} {settingsHash : String} {s t : SqliteStore}
    {result : StartTransactionResult}
    (h : exec (launchWorker d input source task executor settingsHash) s = (.ok result, t)) :
    ∃ summary links' runs' actions' workspaces', result = .started summary ∧
      s.agentQueueTaskRunLinks.insert (startedRunLink d 8 input.workspaceId input.queueItemId
        executor.id summary.runId source) = some links' ∧
      InsertsRun summary.runId s.widgetRuns runs' ∧
      (∀ a ∈ s.agentQueueWorkflowActions, ¬ OwnAction input a → a ∈ actions') ∧
      (∀ context, input.workflowStartContext = some context →
        ∃ b ∈ actions', HasKey context.workflowRunId context.actionIdempotencyKey b ∧
          workflowActionResultRunId b = some summary.runId) ∧
      t = { s with
        agentQueueTaskRunLinks := links'
        widgetRuns := runs'
        agentQueueTasks := s.agentQueueTasks.update
          (fun r => r.workspaceId == input.workspaceId && r.queueItemId == input.queueItemId)
          (markRunning (d.timestamp 0)) fun _ => rfl
        agentQueueWorkflowActions := actions'
        workspaces := workspaces' } := by
  rw [launchWorker, exec_bind_ok] at h
  obtain ⟨directWork, u₁, hcheck, h⟩ := h
  obtain ⟨-, rfl⟩ := exec_storageCheck_ok.1 hcheck
  rw [exec_bind_ok] at h
  obtain ⟨start, u₂, hstart, h⟩ := h
  obtain ⟨runs', workspaces', hrun, rfl⟩ := startDirectWork_ok hstart
  rw [exec_bind_ok] at h
  obtain ⟨link, u₃, hlink, h⟩ := h
  obtain ⟨links', hins, rfl⟩ := recordAgentQueueTaskRunStartedInStore_ok hlink
  simp only [exec_bind_ok, exec_execute_ok, SqliteStore.updateAgentQueueTaskStatus,
    SqliteStore.updateTaskRow, SqliteStore.touchWorkspace, exec_pure, Except.ok.injEq,
    Prod.mk.injEq] at h
  obtain ⟨updated, u₄, ⟨-, rfl⟩, task', u₅, hrow, _, _, ⟨-, rfl⟩, _, u₆, hcomplete, rfl, rfl⟩ := h
  obtain ⟨-, rfl⟩ := rowOrNotFound_ok hrow
  obtain ⟨hrecorded, actions', rfl, hkeep⟩ := completeWorkflowStartAction_ok hcomplete
  exact ⟨_, links', runs', actions', _, rfl, hins, hrun, hkeep, hrecorded, rfl⟩

/-! ## The transaction -/

/-- The outcome of a new start: bookkeeping and a blocker, or a launched worker whose
run is recorded under the key of the context. -/
def StartsNew (d : Draws) (input : NormalizedStartAssignedAgentQueueTaskInput)
    (source : AgentQueueTaskRunSource) (s t : SqliteStore) (result : StartTransactionResult) :
    Prop :=
  (StartBookkeeping s t ∧ ∃ b, result = .blocked b) ∨
    ∃ summary executorId, result = .started summary ∧
      Launched (startedRunLink d 8 input.workspaceId input.queueItemId executorId
        summary.runId source) (d.timestamp 0) s t ∧
      (∃ task ∈ s.agentQueueTasks, task.workspaceId = input.workspaceId ∧
        task.queueItemId = input.queueItemId ∧
        isRunnableAgentQueueTaskStatus task.status = true) ∧
      ∀ context, input.workflowStartContext = some context →
        s.latestActiveTaskRunLink input.workspaceId input.queueItemId = none ∧
        ∃ b ∈ t.agentQueueWorkflowActions,
          HasKey context.workflowRunId context.actionIdempotencyKey b ∧
          workflowActionResultRunId b = some summary.runId

/-- Bookkeeping before a start does not change what it finds. -/
theorem StartsNew.after {d : Draws} {input : NormalizedStartAssignedAgentQueueTaskInput}
    {source : AgentQueueTaskRunSource} {s u t : SqliteStore} {result : StartTransactionResult}
    (hsu : ControlOnly s u) (h : StartsNew d input source u t result) :
    StartsNew d input source s t result := by
  obtain ⟨controls, rfl⟩ := hsu
  rcases h with ⟨hbook, hres⟩ | ⟨summary, executorId, hres, hlaunched, htask, hcontext⟩
  · exact Or.inl ⟨(ControlOnly.bookkeeping ⟨controls, rfl⟩).trans hbook, hres⟩
  · obtain ⟨links', runs', controls', actions', workspaces', hins, hrun, hkeep, rfl⟩ := hlaunched
    exact Or.inr ⟨summary, executorId, hres,
      ⟨links', runs', controls', actions', workspaces', hins, hrun, hkeep, rfl⟩, htask, hcontext⟩

theorem loadRunnableAgentQueueTask_ok {workspaceId queueItemId : String} {s t : SqliteStore}
    {task : AgentQueueTaskRow}
    (h : exec (loadRunnableAgentQueueTask workspaceId queueItemId) s = (.ok task, t)) :
    t = s ∧ task ∈ s.agentQueueTasks ∧ task.workspaceId = workspaceId ∧
      task.queueItemId = queueItemId ∧ isRunnableAgentQueueTaskStatus task.status = true := by
  simp only [loadRunnableAgentQueueTask, exec_bind_ok, exec_failIf_bind, guard_ok, exec_pure,
    Prod.mk.injEq, Except.ok.injEq] at h
  obtain ⟨task', u, hload, hrunnable, -, rfl, rfl⟩ := h
  obtain ⟨rfl, hmem, hws, hid⟩ := loadAgentQueueTask_ok hload
  exact ⟨rfl, hmem, hws, hid, by simpa using hrunnable⟩

theorem startPlain_ok {d : Draws} {input : NormalizedStartAssignedAgentQueueTaskInput}
    {source : AgentQueueTaskRunSource} {s t : SqliteStore} {result : StartTransactionResult}
    (hnone : input.workflowStartContext = none)
    (h : exec (startPlain d input source) s = (.ok result, t)) :
    StartsNew d input source s t result := by
  rw [startPlain, exec_bind_ok] at h
  obtain ⟨task, u, hload, h⟩ := h
  obtain ⟨rfl, hmem, hws, hid, hrunnable⟩ := loadRunnableAgentQueueTask_ok hload
  rw [exec_query_bind, exec_bind_ok] at h
  obtain ⟨_, v, hcheck, h⟩ := h
  rw [exec_check] at hcheck
  obtain ⟨-, rfl⟩ := Prod.mk.inj hcheck
  rw [exec_bind_ok] at h
  obtain ⟨executor, w, howner, h⟩ := h
  obtain rfl := resolveAgentQueueDirectWorkOwner_ok howner
  obtain ⟨summary, links', runs', actions', workspaces', hres, hins, hrun, hkeep, -, rfl⟩ :=
    launchWorker_ok h
  refine Or.inr ⟨summary, executor.id, hres,
    ⟨links', runs', _, actions', workspaces', hins, hrun, ?_, rfl⟩,
    ⟨task, hmem, hws, hid, hrunnable⟩, ?_⟩
  · intro a ha
    refine ⟨a, hkeep a ha ?_, ⟨rfl, rfl⟩, fun _ h => h⟩
    rintro ⟨context, hcontext, -⟩
    rw [hnone] at hcontext
    cases hcontext
  · intro context hcontext
    rw [hnone] at hcontext
    cases hcontext

theorem workflowStartTaskBlocker_eq_none {s : SqliteStore}
    {input : NormalizedStartAssignedAgentQueueTaskInput}
    {context : NormalizedQueueWorkerStartContext} {task : AgentQueueTaskRow}
    (h : s.workflowStartTaskBlocker input context task = none) :
    isRunnableAgentQueueTaskStatus task.status = true := by
  unfold SqliteStore.workflowStartTaskBlocker at h
  by_contra hrunnable
  rw [if_pos (by simpa using hrunnable)] at h
  split at h <;> cases h

theorem workflowStartSettingsBlocker_eq_none {s : SqliteStore}
    {input : NormalizedStartAssignedAgentQueueTaskInput}
    {context : NormalizedQueueWorkerStartContext} {control : AgentQueueControlStateRow}
    {task : AgentQueueTaskRow} {executor : QueueDirectWorkOwner} {settingsHash : String}
    (h : s.workflowStartSettingsBlocker input context control task executor settingsHash =
      none) : s.latestActiveTaskRunLink input.workspaceId input.queueItemId = none := by
  unfold SqliteStore.workflowStartSettingsBlocker at h
  split at h
  · cases h
  · rw [Option.or_eq_none_iff, Option.map_eq_none_iff] at h
    exact h.2

theorem startWithContext_ok {d : Draws} {input : NormalizedStartAssignedAgentQueueTaskInput}
    {source : AgentQueueTaskRunSource} {control : AgentQueueControlStateRow}
    {context : NormalizedQueueWorkerStartContext} {s t : SqliteStore}
    {result : StartTransactionResult} (hcontext : input.workflowStartContext = some context)
    (hfree : s.getAgentQueueWorkflowActionByIdempotencyKey context.workflowRunId
      context.actionIdempotencyKey = none)
    (h : exec (startWithContext d input source control context) s = (.ok result, t)) :
    StartsNew d input source s t result := by
  rw [startWithContext, exec_bind_ok] at h
  obtain ⟨task, u, hload, h⟩ := h
  obtain ⟨rfl, hmem, hws, hid⟩ := loadAgentQueueTask_ok hload
  rw [exec_query_bind, exec_query_bind] at h
  split at h
  · exact Or.inl (recordWorkflowStartBlocked_ok h)
  · exact Or.inl (recordWorkflowStartBlocked_ok h)
  rename_i hready _
  rw [exec_bind_ok] at h
  obtain ⟨executor, v, howner, h⟩ := h
  obtain rfl := resolveAgentQueueDirectWorkOwner_ok howner
  rw [exec_query_bind] at h
  split at h
  · exact Or.inl (recordWorkflowStartBlocked_ok h)
  rename_i hsettings
  rw [exec_query_bind, exec_bind_ok] at h
  obtain ⟨row, w, hinsert, h⟩ := h
  rw [insertWorkflowStartAction, exec_execute_ok] at hinsert
  obtain ⟨actions₁, hinserted, rfl⟩ := insertAgentQueueWorkflowAction_ok hfree hinsert
  obtain ⟨summary, links', runs', actions', workspaces', hres, hins, hrun, hkeep, hrecorded,
    rfl⟩ := launchWorker_ok h
  refine Or.inr ⟨summary, executor.id, hres,
    ⟨links', runs', _, actions', workspaces', hins, hrun, ?_, rfl⟩,
    ⟨task, hmem, hws, hid, workflowStartTaskBlocker_eq_none hready⟩, ?_⟩
  · -- the key was free, so the update met none of the old actions
    intro a ha
    refine ⟨a, hkeep a ((Table.mem_insert hinserted a).2 (Or.inl ha)) ?_, ⟨rfl, rfl⟩,
      fun _ h => h⟩
    rintro ⟨context', hcontext', hkey⟩
    obtain rfl : context = context' := Option.some.inj (hcontext.symm.trans hcontext')
    exact getAction_eq_none.1 hfree a ha hkey
  · intro context' hcontext'
    exact ⟨workflowStartSettingsBlocker_eq_none hsettings, hrecorded context' hcontext'⟩

theorem startNew_ok {d : Draws} {input : NormalizedStartAssignedAgentQueueTaskInput}
    {source : AgentQueueTaskRunSource} {s t : SqliteStore} {result : StartTransactionResult}
    (hfree : ∀ context, input.workflowStartContext = some context →
      s.getAgentQueueWorkflowActionByIdempotencyKey context.workflowRunId
        context.actionIdempotencyKey = none)
    (h : exec (startNew d input source) s = (.ok result, t)) :
    StartsNew d input source s t result := by
  rw [startNew, exec_bind_ok] at h
  obtain ⟨control, u, hcontrol, h⟩ := h
  have hcontrolOnly := ensureDefaultControlState_ok hcontrol
  refine StartsNew.after hcontrolOnly ?_
  obtain ⟨controls, rfl⟩ := hcontrolOnly
  split at h
  · exact Or.inl (recordWorkflowStartBlocked_ok h)
  · simp only [exec_pure, Prod.mk.injEq, Except.ok.injEq] at h
    obtain ⟨rfl, rfl⟩ := h
    exact Or.inl ⟨StartBookkeeping.refl _, _, rfl⟩
  · rename_i context _ hcontext
    exact startWithContext_ok hcontext (hfree context hcontext) h
  · rename_i hnone
    exact startPlain_ok hnone h

/-- **A start with a record is answered from it; a start without one is a new
start.** -/
theorem startTransaction_ok {d : Draws} {input : NormalizedStartAssignedAgentQueueTaskInput}
    {source : AgentQueueTaskRunSource} {s t : SqliteStore} {result : StartTransactionResult}
    (h : exec (startTransaction d input source) s = (.ok result, t)) :
    (∃ context existing, input.workflowStartContext = some context ∧
      s.getAgentQueueWorkflowActionByIdempotencyKey context.workflowRunId
        context.actionIdempotencyKey = some existing ∧
      StartBookkeeping s t ∧ AnswersRecorded (workflowActionResultRunId existing) result) ∨
    (∀ context, input.workflowStartContext = some context →
      s.getAgentQueueWorkflowActionByIdempotencyKey context.workflowRunId
        context.actionIdempotencyKey = none) ∧ StartsNew d input source s t result := by
  rw [startTransaction, exec_query_bind] at h
  split at h
  · rename_i context existing hcontext hexisting
    rw [hcontext] at hexisting
    exact Or.inl ⟨context, existing, hcontext, hexisting, resolveExistingWorkflowStart_ok h⟩
  · rename_i hno
    have hfree : ∀ context, input.workflowStartContext = some context →
        s.getAgentQueueWorkflowActionByIdempotencyKey context.workflowRunId
          context.actionIdempotencyKey = none := by
      intro context hcontext
      cases hget : s.getAgentQueueWorkflowActionByIdempotencyKey context.workflowRunId
          context.actionIdempotencyKey with
      | none => rfl
      | some existing => exact absurd (by rw [hcontext]; exact hget) (hno context existing hcontext)
    exact Or.inr ⟨hfree, startNew_ok hfree h⟩

/-- The command fails without a trace, or answers what its transaction ended in. -/
theorem startAssignedAgentQueueTaskWithRunSource_effect {d : Draws}
    {input : StartAssignedAgentQueueTaskInput} {source : AgentQueueTaskRunSource}
    {s t : SqliteStore} {r : Except WorkspaceServiceError AssignedAgentQueueTaskStartSummary}
    (h : exec (startAssignedAgentQueueTaskWithRunSource d input source) s = (r, t)) :
    ((∃ e, r = .error e) ∧ t = s) ∨
      ∃ n result, normalizeStartAssignedAgentQueueTaskInput input = .ok n ∧
        exec (startTransaction d n source) s = (.ok result, t) ∧ r = startAnswer result := by
  rw [startAssignedAgentQueueTaskWithRunSource, exec_check_bind] at h
  cases hn : normalizeStartAssignedAgentQueueTaskInput input with
  | error e =>
    rw [hn] at h
    obtain ⟨rfl, rfl⟩ := Prod.mk.inj h
    exact Or.inl ⟨⟨e, rfl⟩, rfl⟩
  | ok n =>
    simp only [hn] at h
    rw [exec_bind_eq] at h
    obtain ⟨e, htx, rfl⟩ | ⟨result, u, htx, h⟩ := h
    · rcases exec_withImmediateTransaction htx with ⟨_, he, -⟩ | ⟨-, rfl⟩
      · cases he
      · exact Or.inl ⟨⟨e, rfl⟩, rfl⟩
    · rw [exec_check] at h
      obtain ⟨rfl, rfl⟩ := Prod.mk.inj h
      rcases exec_withImmediateTransaction htx with ⟨result', hres, hrun⟩ | ⟨⟨_, he⟩, -⟩
      · obtain rfl := Except.ok.inj hres
        exact Or.inr ⟨n, result, rfl, hrun, rfl⟩
      · cases he

end HobitQueue
