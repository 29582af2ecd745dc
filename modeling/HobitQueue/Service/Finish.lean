import HobitQueue.Service.StartEffect
import HobitQueue.Service.WorkerEvidence

/-!
# The end of a run

A started run ends when its executor reports the Direct Work status, or when the
operator gives up a run of the local backend that nobody reports on any more.
-/

namespace HobitQueue

open Concurrent StoreProg Relational

structure FinishAssignedAgentQueueTaskRunInput where
  workspaceId : String
  queueItemId : String
  executorWidgetInstanceId : String
  runId : String
  directWorkStatus : String

structure RecoverStaleQueueLocalRunInput where
  workspaceId : String
  queueItemId : String
  runId : String
  runLinkId : String
  reason : String
  actorId : String
  confirmationToken : String

structure RecoverStaleQueueLocalRunResult where
  workspaceId : String
  queueItemId : String
  runId : String
  runLinkId : String
  reason : String
  taskStatus : String
  runLinkStatus : String
  evidenceBundleId : String
  deriving DecidableEq

/-! ## Finish -/

def normalizeFinishAssignedAgentQueueTaskRunInput
    (input : FinishAssignedAgentQueueTaskRunInput) :
    Except WorkspaceServiceError FinishAssignedAgentQueueTaskRunInput := do
  let workspaceId ← requiredInput input.workspaceId "workspace id"
  let queueItemId ← requiredInput input.queueItemId "queue item id"
  let executorWidgetInstanceId ←
    requiredInput input.executorWidgetInstanceId "executor widget instance id"
  let runId ← requiredInput input.runId "run id"
  let directWorkStatus ← requiredInput input.directWorkStatus "direct work status"
  pure ⟨workspaceId, queueItemId, executorWidgetInstanceId, runId, directWorkStatus⟩

/-- The checked input of a finish, with the state of the task it leads to. -/
def checkedFinish (input : FinishAssignedAgentQueueTaskRunInput) :
    Except WorkspaceServiceError
      (FinishAssignedAgentQueueTaskRunInput × AgentQueueTaskLifecycleStatus) := do
  let input ← normalizeFinishAssignedAgentQueueTaskRunInput input
  let queueStatus ← mapDirectWorkFinalStatusToQueueStatus input.directWorkStatus
  pure (input, queueStatus)

/-- The executor that reports is the one that works on the task, and the run is its. -/
def validateFinishedExecutor (input : FinishAssignedAgentQueueTaskRunInput)
    (task : AgentQueueTaskRow) : Sqlite Unit :=
  if input.executorWidgetInstanceId = queueLocalBackendExecutionTargetId then
    failIf task.assignedExecutorWidgetId.isSome (storageInvalidInput
      "backend-owned queue_local run cannot finish an assigned executor task")
  else do
    let executor ← loadAgentQueueDirectWorkOwnerById input.workspaceId
      input.executorWidgetInstanceId
    failIf (executor.definitionId == agentRunWidgetDefinitionId &&
        task.assignedExecutorWidgetId != some executor.id)
      (storageInvalidInput "queue task is not assigned to the completed executor")
    let owned ← query fun s => s.validateWidgetRunOwnership input.workspaceId
      executor.workbenchId executor.id input.runId
    match owned with
    | none => throw (storageInvalidInput
        ("Direct Work run not found for queue task: " ++ input.runId))
    | some (widget, run) =>
        failIf (!canInitiateDirectWork widget.definitionId ||
            run.commandKind != some codexDirectWorkCommandKind)
          (storageInvalidInput "queue task run is not an Agent Executor Direct Work run")

/-- The status of the run becomes the state of the task and of the link. -/
def finishAssignedAgentQueueTaskRun (d : Draws) (input : FinishAssignedAgentQueueTaskRunInput) :
    Service AgentQueueTaskSummary := do
  let input ← check (checkedFinish input)
  let task ← withImmediateTransaction mapStorageAgentQueueTaskError do
    let task ← loadAgentQueueTask input.1.workspaceId input.1.queueItemId
    failIf (task.status != AgentQueueTaskLifecycleStatus.running.asStr)
      (storageInvalidInput ("queue task is not running: " ++ task.status))
    validateFinishedExecutor input.1 task
    let updated ← execute fun s => s.updateAgentQueueTaskStatus input.1.workspaceId
      input.1.queueItemId input.2.asStr (d.timestamp 0)
    let task ← rowOrNotFound updated
    let _ ← recordAgentQueueTaskRunFinalStatusInStore d 1 input.1.workspaceId
      input.1.queueItemId input.1.executorWidgetInstanceId input.1.runId
      input.1.directWorkStatus
    execute fun s => s.touchWorkspace input.1.workspaceId (d.timestamp 3)
    pure task
  pure (agentQueueTaskSummary task)

/-! ## Stale runs -/

def staleQueueLocalRecoveryConfirmationToken : String := "recover-stale-queue-local-run"
def staleQueueLocalRecoveryEvidenceSource : String := "queue_stale_running_recovery"

def normalizeRecoverStaleQueueLocalRunInput (input : RecoverStaleQueueLocalRunInput) :
    Except WorkspaceServiceError RecoverStaleQueueLocalRunInput := do
  let workspaceId ← requiredInput input.workspaceId "workspace id"
  let queueItemId ← requiredInput input.queueItemId "queue item id"
  let runId ← requiredInput input.runId "run id"
  let runLinkId ← requiredInput input.runLinkId "run link id"
  let reason ← requiredInput input.reason "reason"
  let actorId ← requiredInput input.actorId "actor id"
  let confirmationToken ← requiredInput input.confirmationToken "confirmation token"
  if confirmationToken ≠ staleQueueLocalRecoveryConfirmationToken then
    .error (.invalidInput "stale queue_local recovery requires the exact confirmation token")
  else
    pure ⟨workspaceId, queueItemId, runId, runLinkId, reason, actorId, confirmationToken⟩

/-- The link of a stale run: a running link of the local backend, of this task and this
run. -/
def loadStaleRunLink (input : RecoverStaleQueueLocalRunInput) :
    Sqlite AgentQueueTaskRunLinkRow := do
  let link ← query fun s => s.getAgentQueueTaskRunLink input.workspaceId input.runLinkId
  match link with
  | none => throw (storageInvalidInput
      ("queue task run link not found: " ++ input.runLinkId))
  | some link => do
      failIf (link.queueTaskId != input.queueItemId) (storageInvalidInput
        "stale queue_local recovery run link does not belong to the selected task")
      failIf (link.directWorkRunId != input.runId) (storageInvalidInput
        "stale queue_local recovery run id does not match the run link")
      failIf (link.executorWidgetId != queueLocalBackendExecutionTargetId)
        (storageInvalidInput
          "stale recovery applies only to backend-owned queue_local run links")
      failIf (link.status != AgentQueueTaskRunStatus.running.asStr) (storageInvalidInput
        ("stale queue_local recovery requires a running run link: " ++ link.status))
      pure link

/-- The evidence of a run that was given up. -/
def staleRecoveryBundle (input : RecoverStaleQueueLocalRunInput) (bundleId now : String) :
    AgentQueueWorkerEvidenceBundleRow :=
  { bundleId := bundleId
    workspaceId := input.workspaceId
    queueTaskId := input.queueItemId
    runId := input.runId
    runLinkId := some input.runLinkId
    executorWidgetId := none
    workerId := some input.actorId
    source := staleQueueLocalRecoveryEvidenceSource
    outcome := AgentQueueTaskRunStatus.failed.asStr
    summary := input.reason
    changedFilesJson := .value (Json.ofStrings [])
    changedFilesCount := 0
    changedFilesSummary := none
    validationSummary := none
    errorSummary := some input.reason
    metadataJson := none
    createdAt := now
    updatedAt := now }

/-- The run, its link and the task have failed, and the reason is kept as evidence. -/
def recoverStaleQueueLocalRunFailed (d : Draws) (input : RecoverStaleQueueLocalRunInput) :
    Service RecoverStaleQueueLocalRunResult := do
  let input ← check (normalizeRecoverStaleQueueLocalRunInput input)
  let now := d.timestamp 0
  let bundleId := d.placeholderId "queue_worker_evidence_" 1
  withImmediateTransaction mapStorageAgentQueueTaskError do
    let task ← loadAgentQueueTask input.workspaceId input.queueItemId
    failIf task.assignedExecutorWidgetId.isSome (storageInvalidInput
      "stale queue_local recovery requires an unassigned Queue-owned task")
    failIf (task.status != AgentQueueTaskLifecycleStatus.running.asStr) (storageInvalidInput
      ("stale queue_local recovery requires a running task: " ++ task.status))
    let _ ← loadStaleRunLink input
    let existing ← query fun s => s.getAgentQueueWorkerEvidenceBundle input.workspaceId
      input.queueItemId input.runId
    failIf existing.isSome (storageInvalidInput
      "stale queue_local recovery refuses to overwrite existing worker evidence")
    let updated ← execute fun s => s.updateAgentQueueTaskStatus input.workspaceId
      input.queueItemId AgentQueueTaskLifecycleStatus.failed.asStr now
    let task ← rowOrNotFound updated
    let updated ← execute fun s => s.updateAgentQueueTaskRunLinkFinalStatus input.workspaceId
      input.queueItemId input.runId
      (workerFinishedLinkUpdate AgentQueueTaskRunStatus.failed.asStr now)
    let link ← rowOrNotFound updated
    let evidence ← execute fun s => s.upsertAgentQueueWorkerEvidenceBundle
      (staleRecoveryBundle input bundleId now)
    execute fun s => s.touchWorkspace input.workspaceId (d.timestamp 2)
    pure {
      workspaceId := input.workspaceId
      queueItemId := input.queueItemId
      runId := input.runId
      runLinkId := input.runLinkId
      reason := input.reason
      taskStatus := task.status
      runLinkStatus := link.status
      evidenceBundleId := evidence.bundleId }

/-! ## What the commands do -/

theorem validateFinishedExecutor_ok {input : FinishAssignedAgentQueueTaskRunInput}
    {task : AgentQueueTaskRow} {s t : SqliteStore} {u : Unit}
    (h : exec (validateFinishedExecutor input task) s = (.ok u, t)) : t = s := by
  unfold validateFinishedExecutor at h
  split at h
  · exact (readOnly_failIf _ _).state h
  rw [exec_bind_ok] at h
  obtain ⟨executor, v, howner, h⟩ := h
  obtain rfl := loadOwnerWidget_ok howner
  refine ReadOnly.state ?_ h
  refine (readOnly_failIf _ _).bind fun _ => (readOnly_query _).bind fun owned => ?_
  cases owned with
  | none => exact readOnly_throw _
  | some owned => exact readOnly_failIf _ _

/-- A task that was running is in the state of its run, and so is the link of the run. -/
def Finished (d : Draws) (input : FinishAssignedAgentQueueTaskRunInput)
    (queueStatus : AgentQueueTaskLifecycleStatus) (s t : SqliteStore) : Prop :=
  (∃ task ∈ s.agentQueueTasks, task.workspaceId = input.workspaceId ∧
    task.queueItemId = input.queueItemId ∧ task.status = "running") ∧
  ∃ finishedAt workspaces', t = { s with
    agentQueueTasks := s.agentQueueTasks.update
      (fun r => r.workspaceId == input.workspaceId && r.queueItemId == input.queueItemId)
      (setStatus queueStatus.asStr (d.timestamp 0)) fun _ => rfl
    agentQueueTaskRunLinks := s.agentQueueTaskRunLinks.update
      (fun r => r.workspaceId == input.workspaceId && r.queueTaskId == input.queueItemId &&
        r.directWorkRunId == input.runId)
      (runLinkFinalUpdate d 1 (AgentQueueTaskRunStatus.fromCurrentStatus
        input.directWorkStatus) finishedAt).apply fun _ => rfl
    workspaces := workspaces' }

/-- **A final status of a run is no running state**, neither for the task nor for the
link. -/
theorem finalStatus_ne_running {status : String} {queueStatus : AgentQueueTaskLifecycleStatus}
    (h : mapDirectWorkFinalStatusToQueueStatus status = .ok queueStatus) :
    queueStatus.asStr ≠ "running" ∧
      (AgentQueueTaskRunStatus.fromCurrentStatus status).asStr ≠ "running" := by
  unfold mapDirectWorkFinalStatusToQueueStatus at h
  split at h <;> cases h <;> decide

theorem checkedFinish_ok {input n : FinishAssignedAgentQueueTaskRunInput}
    {queueStatus : AgentQueueTaskLifecycleStatus}
    (h : checkedFinish input = .ok (n, queueStatus)) :
    normalizeFinishAssignedAgentQueueTaskRunInput input = .ok n ∧
      mapDirectWorkFinalStatusToQueueStatus n.directWorkStatus = .ok queueStatus := by
  unfold checkedFinish at h
  cases hn : normalizeFinishAssignedAgentQueueTaskRunInput input with
  | error e =>
    rw [hn] at h
    cases h
  | ok m =>
    cases hq : mapDirectWorkFinalStatusToQueueStatus m.directWorkStatus with
    | error e => simp [hn, hq, bind, Except.bind] at h
    | ok q =>
      simp only [hn, hq, bind, Except.bind, pure, Except.pure, Except.ok.injEq,
        Prod.mk.injEq] at h
      obtain ⟨rfl, rfl⟩ := h
      exact ⟨rfl, hq⟩

theorem finishAssignedAgentQueueTaskRun_effect {d : Draws}
    {input : FinishAssignedAgentQueueTaskRunInput} {s t : SqliteStore}
    {r : Except WorkspaceServiceError AgentQueueTaskSummary}
    (h : exec (finishAssignedAgentQueueTaskRun d input) s = (r, t)) :
    t = s ∨ ∃ n queueStatus, checkedFinish input = .ok (n, queueStatus) ∧
      Finished d n queueStatus s t := by
  rcases exec_command h with ⟨-, rfl⟩ | ⟨⟨n, queueStatus⟩, row, hn, hrun, -⟩
  · exact Or.inl rfl
  rw [exec_bind_ok] at hrun
  obtain ⟨task, u, hload, hrun⟩ := hrun
  obtain ⟨rfl, hmem, hws, hid⟩ := loadAgentQueueTask_ok hload
  rw [exec_failIf_bind, guard_ok, exec_bind_ok] at hrun
  obtain ⟨hrunning, ⟨⟩, v, hvalid, hrun⟩ := hrun
  obtain rfl := validateFinishedExecutor_ok hvalid
  simp only [exec_bind_ok, exec_execute_ok, SqliteStore.updateAgentQueueTaskStatus,
    SqliteStore.updateTaskRow, SqliteStore.touchWorkspace, exec_pure, Except.ok.injEq,
    Prod.mk.injEq] at hrun
  obtain ⟨updated, u₁, ⟨-, rfl⟩, _, u₂, hrow, link, u₃, hlink, _, u₄, ⟨-, rfl⟩, -, rfl⟩ := hrun
  obtain ⟨-, rfl⟩ := rowOrNotFound_ok hrow
  obtain ⟨finishedAt, workspaces', rfl⟩ := recordAgentQueueTaskRunFinalStatusInStore_ok hlink
  have hrunning' : task.status = "running" := by
    simpa [AgentQueueTaskLifecycleStatus.asStr] using hrunning
  exact Or.inr ⟨n, queueStatus, hn, ⟨task, hmem, hws, hid, hrunning'⟩, finishedAt, _, rfl⟩

theorem loadStaleRunLink_ok {input : RecoverStaleQueueLocalRunInput} {s t : SqliteStore}
    {link : AgentQueueTaskRunLinkRow}
    (h : exec (loadStaleRunLink input) s = (.ok link, t)) :
    t = s ∧ link ∈ s.agentQueueTaskRunLinks ∧ link.workspaceId = input.workspaceId ∧
      link.queueTaskId = input.queueItemId ∧ link.directWorkRunId = input.runId ∧
      link.linkId = input.runLinkId ∧ link.status = "running" := by
  simp only [loadStaleRunLink, exec_query_bind] at h
  split at h
  · cases (Prod.mk.inj h).1
  rename_i row hrow
  simp only [exec_failIf_bind, guard_ok, exec_pure, Prod.mk.injEq, Except.ok.injEq, bne_iff_ne,
    ne_eq, not_not] at h
  obtain ⟨htask, hrun, -, hstatus, rfl, rfl⟩ := h
  have hid := Table.sat_of_find hrow
  simp only [Bool.and_eq_true, beq_iff_eq] at hid
  exact ⟨rfl, Table.mem_of_find hrow, hid.1, htask, hrun, hid.2, hstatus⟩

theorem recoverStaleQueueLocalRunFailed_effect {d : Draws}
    {input : RecoverStaleQueueLocalRunInput} {s t : SqliteStore}
    {r : Except WorkspaceServiceError RecoverStaleQueueLocalRunResult}
    (h : exec (recoverStaleQueueLocalRunFailed d input) s = (r, t)) :
    t = s ∨ ∃ n, normalizeRecoverStaleQueueLocalRunInput input = .ok n ∧
      s.getAgentQueueWorkerEvidenceBundle n.workspaceId n.queueItemId n.runId = none ∧
      (∃ link ∈ s.agentQueueTaskRunLinks, link.workspaceId = n.workspaceId ∧
        link.queueTaskId = n.queueItemId ∧ link.directWorkRunId = n.runId ∧
        link.status = "running") ∧
      Reported "failed" (d.timestamp 0)
        (workerFinishedLinkUpdate AgentQueueTaskRunStatus.failed.asStr (d.timestamp 0))
        (staleRecoveryBundle n (d.placeholderId "queue_worker_evidence_" 1) (d.timestamp 0))
        s t := by
  rcases exec_plain_command h with ⟨-, rfl⟩ | ⟨n, result, hn, hrun, -⟩
  · exact Or.inl rfl
  rw [exec_bind_ok] at hrun
  obtain ⟨task, u, hload, hrun⟩ := hrun
  obtain ⟨rfl, hmem, hws, hid⟩ := loadAgentQueueTask_ok hload
  rw [exec_failIf_bind, guard_ok, exec_failIf_bind, guard_ok, exec_bind_ok] at hrun
  obtain ⟨-, -, link, v, hlink, hrun⟩ := hrun
  obtain ⟨rfl, hlmem, hlws, hltask, hlrun, hlid, hlstatus⟩ := loadStaleRunLink_ok hlink
  rw [exec_query_bind, exec_failIf_bind, guard_ok] at hrun
  obtain ⟨hnone, hrun⟩ := hrun
  simp only [exec_bind_ok, exec_execute_ok, SqliteStore.updateAgentQueueTaskStatus,
    SqliteStore.updateTaskRow, SqliteStore.touchWorkspace, exec_pure, Except.ok.injEq,
    Prod.mk.injEq] at hrun
  obtain ⟨updated, u₁, ⟨-, rfl⟩, _, u₂, hrow, updated', u₃, hupdate, _, u₄, hrow', evidence, u₅,
    hupsert, _, u₆, ⟨-, rfl⟩, -, rfl⟩ := hrun
  obtain ⟨-, rfl⟩ := rowOrNotFound_ok hrow
  obtain ⟨workspaces', rfl⟩ := updateAgentQueueTaskRunLinkFinalStatus_ok hupdate
  obtain ⟨-, rfl⟩ := rowOrNotFound_ok hrow'
  obtain ⟨bundles', hbundles, rfl⟩ := upsertAgentQueueWorkerEvidenceBundle_ok hupsert
  refine Or.inr ⟨n, hn, by simpa using hnone, ⟨link, hlmem, hlws, hltask, hlrun, hlstatus⟩,
    ⟨link, hlmem, hlws, hltask, hlrun, ?_⟩, bundles', _, _, hbundles, rfl⟩
  rw [hlid]
  rfl

end HobitQueue
