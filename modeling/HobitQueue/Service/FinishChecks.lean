import HobitQueue.Lib.Answers
import HobitQueue.Service.Finish

/-!
# The checks of a finish

A finish is checked twice: before the task is written, and again where the link of its run is
written. Both checks ask the same of the task and of the owner of the run, and neither of
them looks at the link.

## Main results

* `exec_finish_of_accepted` — an accepted finish writes the task, and the links that the run
  has.
* `exec_finish_of_refused` — a refused one leaves the store alone.
-/

namespace HobitQueue

open Concurrent StoreProg Relational

/-- The task of an existing workspace. -/
def SqliteStore.loadedTask (s : SqliteStore) (workspaceId queueItemId : String) :
    Option AgentQueueTaskRow :=
  if (s.getWorkspace workspaceId).isNone then none
  else (s.getAgentQueueTaskById queueItemId).filter (·.workspaceId == workspaceId)

/-- The named run is a Direct Work run of the widget. -/
def SqliteStore.hasDirectWorkRun (s : SqliteStore) (workspaceId runId : String)
    (executor : WidgetInstanceRow) : Bool :=
  (s.validateWidgetRunOwnership workspaceId executor.workbenchId executor.id runId).any fun owned =>
    canInitiateDirectWork owned.1.definitionId &&
      owned.2.commandKind == some codexDirectWorkCommandKind

/-- The widget works on the task and has the named run. -/
def SqliteStore.ownsReportedRun (s : SqliteStore) (workspaceId executorId runId : String)
    (task : AgentQueueTaskRow) : Bool :=
  (s.getWidgetInstance executorId).any fun executor =>
    executor.workspaceId == workspaceId &&
    (executor.definitionId == agentQueueWidgetDefinitionId ||
      executor.definitionId == agentRunWidgetDefinitionId) &&
    !(executor.definitionId == agentRunWidgetDefinitionId &&
      task.assignedExecutorWidgetId != some executor.id) &&
    s.hasDirectWorkRun workspaceId runId executor

/-- The executor may report about the task: the local backend if nobody is assigned, a widget
if it has the run. -/
def SqliteStore.mayReport (s : SqliteStore) (workspaceId executorId runId : String)
    (task : AgentQueueTaskRow) : Bool :=
  if executorId = queueLocalBackendExecutionTargetId then task.assignedExecutorWidgetId.isNone
  else s.ownsReportedRun workspaceId executorId runId task

/-- The task is running, and the executor may report about it. -/
def SqliteStore.acceptsFinish (s : SqliteStore) (n : FinishAssignedAgentQueueTaskRunInput) : Bool :=
  (s.loadedTask n.workspaceId n.queueItemId).any fun task =>
    task.status == AgentQueueTaskLifecycleStatus.running.asStr &&
      s.mayReport n.workspaceId n.executorWidgetInstanceId n.runId task

/-- The store with the state of one task written. -/
def SqliteStore.withTaskStatus (s : SqliteStore)
    (workspaceId queueItemId status updatedAt : String) : SqliteStore :=
  { s with
    agentQueueTasks := s.agentQueueTasks.update
      (fun r => r.workspaceId == workspaceId && r.queueItemId == queueItemId)
      (setStatus status updatedAt) (keys_setStatus status updatedAt) }

theorem keys_setQueueStatus (queueStatus : AgentQueueTaskLifecycleStatus) (d : Draws)
    (r : AgentQueueTaskRow) :
    Row.keys (setStatus queueStatus.asStr (d.timestamp 0) r) = Row.keys r := rfl

/-- The store with the task ended, and with it the links that are selected. -/
def SqliteStore.ended (s : SqliteStore) (d : Draws) (n : FinishAssignedAgentQueueTaskRunInput)
    (queueStatus : AgentQueueTaskLifecycleStatus) (select : AgentQueueTaskRunLinkRow → Bool) :
    SqliteStore :=
  { s with
    agentQueueTasks := s.agentQueueTasks.update
      (fun r => r.workspaceId == n.workspaceId && r.queueItemId == n.queueItemId)
      (setStatus queueStatus.asStr (d.timestamp 0)) (keys_setQueueStatus queueStatus d)
    agentQueueTaskRunLinks := s.agentQueueTaskRunLinks.update select
      (runLinkFinalUpdate d 1 (AgentQueueTaskRunStatus.fromCurrentStatus n.directWorkStatus)
        (s.runFinishedAt n.executorWidgetInstanceId n.runId (d.timestamp 1))).apply fun _ => rfl
    workspaces := s.workspaces.update (·.id == n.workspaceId)
      (fun r => { r with updatedAt := d.timestamp 3 }) fun _ => rfl }

/-- The links of the named run of the task. -/
def ofNamedRun (n : FinishAssignedAgentQueueTaskRunInput) (link : AgentQueueTaskRunLinkRow) :
    Bool :=
  link.workspaceId == n.workspaceId && link.queueTaskId == n.queueItemId &&
    link.directWorkRunId == n.runId

/-! ## Checks -/

section Checks

variable {s : SqliteStore}

theorem loadOptionalAgentQueueTask_answers (workspaceId queueItemId : String) :
    (loadOptionalAgentQueueTask workspaceId queueItemId).Answers s
      (if (s.getWorkspace workspaceId).isNone then none
        else match s.getAgentQueueTaskById queueItemId with
          | none => some none
          | some task => if task.workspaceId != workspaceId then none else some (some task)) := by
  refine Answers.query_bind (Answers.failIf_bind (Answers.query_bind ?_))
  cases s.getAgentQueueTaskById queueItemId with
  | none => exact answers_pure none
  | some task => exact Answers.failIf_bind (answers_pure (some task))

theorem loadAgentQueueTask_answers (workspaceId queueItemId : String) :
    (loadAgentQueueTask workspaceId queueItemId).Answers s
      (s.loadedTask workspaceId queueItemId) := by
  have hload := @loadOptionalAgentQueueTask_answers s workspaceId queueItemId
  refine (hload.bind (g := fun found => found) fun found => ?_).of_eq ?_
  · cases found with
    | none => exact answers_throw _
    | some task => exact answers_pure task
  · unfold SqliteStore.loadedTask
    by_cases hnone : (s.getWorkspace workspaceId).isNone = true
    · simp [hnone]
    · cases htask : s.getAgentQueueTaskById queueItemId with
      | none => simp [hnone]
      | some task =>
        by_cases hws : task.workspaceId = workspaceId <;> simp [hnone, hws, Option.filter]

theorem queue_ne_run : agentQueueWidgetDefinitionId ≠ agentRunWidgetDefinitionId := by decide

/-- The check of a widget run, which both checks of a finish end with. -/
theorem ownedRun_answers (workspaceId runId : String) (executor : WidgetInstanceRow) :
    (query (fun s : SqliteStore => s.validateWidgetRunOwnership workspaceId
        executor.workbenchId executor.id runId) >>= fun owned =>
      match owned with
      | none => throw (storageInvalidInput
          ("Direct Work run not found for queue task: " ++ runId))
      | some (widget, run) =>
          (failIf (!canInitiateDirectWork widget.definitionId ||
              run.commandKind != some codexDirectWorkCommandKind)
            (storageInvalidInput
              "queue task run is not an Agent Executor Direct Work run") : Sqlite Unit)).Answers s
      (if s.hasDirectWorkRun workspaceId runId executor then some () else none) := by
  refine Answers.query_bind ?_
  unfold SqliteStore.hasDirectWorkRun
  cases s.validateWidgetRunOwnership workspaceId executor.workbenchId executor.id runId with
  | none => exact answers_throw _
  | some owned =>
    refine (answers_failIf _ _).of_eq ?_
    by_cases hkind : canInitiateDirectWork owned.1.definitionId = true <;>
      by_cases hcommand : owned.2.commandKind = some codexDirectWorkCommandKind <;>
      simp [hkind, hcommand]

theorem loadAgentQueueDirectWorkOwnerById_answers (workspaceId widgetInstanceId : String) :
    (loadAgentQueueDirectWorkOwnerById workspaceId widgetInstanceId).Answers s
      (match s.getWidgetInstance widgetInstanceId with
        | none => none
        | some executor => if executor.workspaceId != workspaceId then none
          else if !(executor.definitionId == agentQueueWidgetDefinitionId ||
              executor.definitionId == agentRunWidgetDefinitionId) then none
            else some executor) := by
  refine Answers.query_bind ?_
  cases s.getWidgetInstance widgetInstanceId with
  | none => exact answers_throw _
  | some executor => exact Answers.failIf_bind (Answers.failIf_bind (answers_pure executor))

theorem validateFinishedExecutor_answers (n : FinishAssignedAgentQueueTaskRunInput)
    (task : AgentQueueTaskRow) :
    (validateFinishedExecutor n task).Answers s
      (if s.mayReport n.workspaceId n.executorWidgetInstanceId n.runId task then some ()
        else none) := by
  unfold validateFinishedExecutor SqliteStore.mayReport
  by_cases hlocal : n.executorWidgetInstanceId = queueLocalBackendExecutionTargetId
  · rw [if_pos hlocal, if_pos hlocal]
    refine (answers_failIf _ _).of_eq ?_
    cases task.assignedExecutorWidgetId <;> rfl
  · rw [if_neg hlocal, if_neg hlocal]
    have howner := @loadAgentQueueDirectWorkOwnerById_answers s n.workspaceId
      n.executorWidgetInstanceId
    refine (howner.bind fun executor =>
      Answers.failIf_bind (ownedRun_answers n.workspaceId n.runId executor)).of_eq ?_
    unfold SqliteStore.ownsReportedRun
    cases s.getWidgetInstance n.executorWidgetInstanceId with
    | none => rfl
    | some executor =>
      by_cases hws : executor.workspaceId = n.workspaceId <;>
        by_cases hqueue : executor.definitionId = agentQueueWidgetDefinitionId <;>
        by_cases hrun : executor.definitionId = agentRunWidgetDefinitionId <;>
        by_cases hassigned : task.assignedExecutorWidgetId = some executor.id <;>
        simp [hws, hqueue, hrun, hassigned, queue_ne_run]

theorem validateQueueTaskExecutorRunLink_answers
    (workspaceId queueTaskId executorId runId : String) :
    (validateQueueTaskExecutorRunLink workspaceId queueTaskId executorId runId).Answers s
      ((s.loadedTask workspaceId queueTaskId).bind fun task =>
        if s.mayReport workspaceId executorId runId task then some () else none) := by
  refine (loadAgentQueueTask_answers workspaceId queueTaskId).bind fun task => ?_
  unfold SqliteStore.mayReport
  by_cases hlocal : executorId = queueLocalBackendExecutionTargetId
  · rw [if_pos hlocal, if_pos hlocal]
    refine (answers_failIf _ _).of_eq ?_
    cases task.assignedExecutorWidgetId <;> rfl
  · rw [if_neg hlocal, if_neg hlocal]
    refine Answers.query_bind ?_
    unfold SqliteStore.ownsReportedRun
    cases hexecutor : s.getWidgetInstance executorId with
    | none => exact answers_throw _
    | some executor =>
      have hid : executor.id = executorId := by
        simpa using Table.sat_of_find hexecutor
      refine (Answers.failIf_bind (Answers.failIf_bind (Answers.failIf_bind
        (ownedRun_answers workspaceId runId executor)))).of_eq ?_
      by_cases hws : executor.workspaceId = workspaceId <;>
        by_cases hqueue : executor.definitionId = agentQueueWidgetDefinitionId <;>
        by_cases hrun : executor.definitionId = agentRunWidgetDefinitionId <;>
        by_cases hassigned : task.assignedExecutorWidgetId = some executor.id <;>
        simp [hws, hqueue, hrun, hassigned, ← hid, queue_ne_run]

end Checks

/-! ## Runs -/

section Runs

variable {s t : SqliteStore}

/-- A transaction whose program succeeds is committed. -/
theorem exec_withImmediateTransaction_ok {α : Type} {mapErr : StorageError → WorkspaceServiceError}
    {p : Sqlite α} {a : α} (h : exec p s = (.ok a, t)) :
    exec (withImmediateTransaction mapErr p) s = (.ok a, t) := by
  rw [withImmediateTransaction, exec_mapErr, exec_atomically_ok.2 h]
  rfl

/-- A transaction whose program fails is undone. -/
theorem exec_withImmediateTransaction_error {α : Type}
    {mapErr : StorageError → WorkspaceServiceError} {p : Sqlite α} {e : StorageError}
    (h : exec p s = (.error e, t)) :
    exec (withImmediateTransaction mapErr p) s = (.error (mapErr e), s) := by
  rw [withImmediateTransaction, exec_mapErr, exec_atomically, h]
  rfl

theorem loadedTask_some {workspaceId queueItemId : String} {task : AgentQueueTaskRow} :
    s.loadedTask workspaceId queueItemId = some task ↔
      (s.getWorkspace workspaceId).isSome ∧
        s.getAgentQueueTask workspaceId queueItemId = some task := by
  rw [getAgentQueueTask_eq_some]
  unfold SqliteStore.loadedTask
  cases s.getWorkspace workspaceId with
  | none => simp
  | some workspace =>
    simp only [Option.isNone_some, Bool.false_eq_true, if_false, Option.isSome_some, true_and,
      Option.filter_eq_some_iff, getAgentQueueTaskById_eq_some, beq_iff_eq]
    constructor
    · rintro ⟨⟨hmem, hid⟩, hws⟩
      exact ⟨hmem, hws, hid⟩
    · rintro ⟨hmem, hws, hid⟩
      exact ⟨⟨hmem, hid⟩, hws⟩

/-- The row of a task whose state was just written is read back. -/
theorem getAgentQueueTask_withTaskStatus {workspaceId queueItemId status updatedAt : String}
    {task : AgentQueueTaskRow} (h : s.getAgentQueueTask workspaceId queueItemId = some task) :
    (s.withTaskStatus workspaceId queueItemId status updatedAt).getAgentQueueTask workspaceId
      queueItemId = some (setStatus status updatedAt task) := by
  have hkey := Table.sat_of_find h
  refine (@Table.find_update _ _ s.agentQueueTasks _ _ (setStatus status updatedAt)
    (fun _ => rfl) fun _ => rfl).trans ?_
  unfold SqliteStore.getAgentQueueTask at h
  rw [h, Option.map_some, if_pos hkey]

theorem updateAgentQueueTaskStatus_read {workspaceId queueItemId status updatedAt : String}
    {task : AgentQueueTaskRow} (h : s.getAgentQueueTask workspaceId queueItemId = some task) :
    s.updateAgentQueueTaskStatus workspaceId queueItemId status updatedAt =
      .ok (some (setStatus status updatedAt task),
        s.withTaskStatus workspaceId queueItemId status updatedAt) :=
  congrArg (fun row => Except.ok (row, _)) (getAgentQueueTask_withTaskStatus h)

/-- A valid owner writes the links that the run has, be they none. -/
theorem recordAgentQueueTaskRunFinalStatusInStore_of_valid {d : Draws} {i : ℕ}
    {workspaceId queueTaskId executorId runId status : String}
    (h : (validateQueueTaskExecutorRunLink workspaceId queueTaskId executorId runId).Answers s
      (some ())) :
    ∃ link, exec (recordAgentQueueTaskRunFinalStatusInStore d i workspaceId queueTaskId executorId
      runId status) s = (.ok link, { s with
        agentQueueTaskRunLinks := s.agentQueueTaskRunLinks.update
          (fun r => r.workspaceId == workspaceId && r.queueTaskId == queueTaskId &&
            r.directWorkRunId == runId)
          (runLinkFinalUpdate d i (AgentQueueTaskRunStatus.fromCurrentStatus status)
            (s.runFinishedAt executorId runId (d.timestamp i))).apply fun _ => rfl }) := by
  unfold recordAgentQueueTaskRunFinalStatusInStore
  rw [h.exec_bind_some, exec_query_bind]
  simp only [exec_bind, exec_execute, SqliteStore.updateAgentQueueTaskRunLinkFinalStatus]
  split_ifs with hfound
  · exact ⟨_, rfl⟩
  · exact ⟨_, rfl⟩

section Finish

variable {d : Draws} {input n : FinishAssignedAgentQueueTaskRunInput}
  {queueStatus : AgentQueueTaskLifecycleStatus}

/-- What an accepted finish was checked for. -/
theorem acceptsFinish_iff : s.acceptsFinish n = true ↔
    ∃ task, s.loadedTask n.workspaceId n.queueItemId = some task ∧
      task.status = AgentQueueTaskLifecycleStatus.running.asStr ∧
      s.mayReport n.workspaceId n.executorWidgetInstanceId n.runId task = true := by
  simp [SqliteStore.acceptsFinish, Option.any_eq_true]

/-- **An accepted finish ends the task, and whatever links the named run has.** -/
theorem exec_finish_of_accepted (hn : checkedFinish input = .ok (n, queueStatus))
    (h : s.acceptsFinish n = true) :
    ∃ summary, exec (finishAssignedAgentQueueTaskRun d input) s =
      (.ok summary, s.ended d n queueStatus (ofNamedRun n)) := by
  obtain ⟨task, hload, hrunning, hmay⟩ := acceptsFinish_iff.1 h
  obtain ⟨hworkspace, hget⟩ := loadedTask_some.1 hload
  have hguard : (task.status != AgentQueueTaskLifecycleStatus.running.asStr) = false := by
    simp [hrunning]
  have hvalid : (validateFinishedExecutor n task).Answers s (some ()) :=
    (validateFinishedExecutor_answers n task).of_eq (if_pos hmay)
  have hupdate := @updateAgentQueueTaskStatus_read s n.workspaceId n.queueItemId
    queueStatus.asStr (d.timestamp 0) task hget
  refine ⟨_, exec_bind_ok.2 ⟨(n, queueStatus), s, by rw [exec_check, hn], exec_bind_ok.2
    ⟨setStatus queueStatus.asStr (d.timestamp 0) task, _,
      exec_withImmediateTransaction_ok ?_, rfl⟩⟩⟩
  rw [((loadAgentQueueTask_answers _ _).of_eq hload).exec_bind_some, exec_failIf_bind, hguard,
    if_neg Bool.false_ne_true, hvalid.exec_bind_some]
  -- the second check finds the written task, whose executor is still the same
  have hvalid' : (validateQueueTaskExecutorRunLink n.workspaceId n.queueItemId
      n.executorWidgetInstanceId n.runId).Answers (s.withTaskStatus n.workspaceId n.queueItemId
        queueStatus.asStr (d.timestamp 0)) (some ()) := by
    refine (validateQueueTaskExecutorRunLink_answers _ _ _ _).of_eq ?_
    have hworkspace' : ((s.withTaskStatus n.workspaceId n.queueItemId queueStatus.asStr
        (d.timestamp 0)).getWorkspace n.workspaceId).isSome := hworkspace
    rw [loadedTask_some.2 ⟨hworkspace', getAgentQueueTask_withTaskStatus hget⟩]
    exact if_pos hmay
  obtain ⟨link, hrecord⟩ := @recordAgentQueueTaskRunFinalStatusInStore_of_valid _ d 1 _ _ _ _
    n.directWorkStatus hvalid'
  refine exec_bind_ok.2 ⟨_, _, exec_execute_ok.2 hupdate, exec_bind_ok.2 ⟨_, _, rfl, ?_⟩⟩
  exact exec_bind_ok.2 ⟨link, _, hrecord, rfl⟩

/-- Whatever comes after the checks of a refused finish is not reached. -/
theorem exec_refused_checks {α : Type} {f : AgentQueueTaskRow → Sqlite α}
    (h : s.acceptsFinish n = false) : ∃ e, exec (do
      let task ← loadAgentQueueTask n.workspaceId n.queueItemId
      failIf (task.status != AgentQueueTaskLifecycleStatus.running.asStr)
        (storageInvalidInput ("queue task is not running: " ++ task.status))
      validateFinishedExecutor n task
      f task) s = (.error e, s) := by
  cases hload : s.loadedTask n.workspaceId n.queueItemId with
  | none => exact ((loadAgentQueueTask_answers _ _).of_eq hload).exec_bind_none
  | some task =>
    rw [((loadAgentQueueTask_answers _ _).of_eq hload).exec_bind_some, exec_failIf_bind]
    by_cases hrunning : task.status = AgentQueueTaskLifecycleStatus.running.asStr
    · have hmay : s.mayReport n.workspaceId n.executorWidgetInstanceId n.runId task = false := by
        by_contra hmay
        have haccept := acceptsFinish_iff.2 ⟨task, hload, hrunning, by simpa using hmay⟩
        rw [h] at haccept
        cases haccept
      rw [if_neg (by simp [hrunning])]
      have hanswer := validateFinishedExecutor_answers (s := s) n task
      rw [hmay] at hanswer
      exact Answers.exec_bind_none hanswer
    · rw [if_pos (by simp [hrunning])]
      exact ⟨_, rfl⟩

/-- **A refused finish leaves the store alone.** -/
theorem exec_finish_of_refused (hn : checkedFinish input = .ok (n, queueStatus))
    (h : s.acceptsFinish n = false) :
    ∃ e, exec (finishAssignedAgentQueueTaskRun d input) s = (.error e, s) := by
  obtain ⟨e, he⟩ := exec_refused_checks h
  refine ⟨mapStorageAgentQueueTaskError e, ?_⟩
  unfold finishAssignedAgentQueueTaskRun
  rw [exec_check_bind, hn]
  simp only [exec_bind]
  rw [exec_withImmediateTransaction_error he]

/-- A request that does not pass the first checks is answered without a look at the store. -/
theorem exec_finish_of_error {e : WorkspaceServiceError} (hn : checkedFinish input = .error e) :
    exec (finishAssignedAgentQueueTaskRun d input) s = (.error e, s) := by
  unfold finishAssignedAgentQueueTaskRun
  rw [exec_check_bind, hn]

end Finish

end Runs

end HobitQueue
