import HobitQueue.Service.DirectWork

/-!
# Run links

A run link ties a Direct Work run to a Queue task. It is inserted when the run
starts and updated when the run ends.
-/

namespace HobitQueue

open Concurrent StoreProg

def queueLocalBackendExecutionTargetId : String := "queue_local:codex"

structure AgentQueueTaskRunLink where
  linkId : String
  workspaceId : String
  queueTaskId : String
  executorWidgetId : String
  directWorkRunId : String
  source : AgentQueueTaskRunSource
  status : AgentQueueTaskRunStatus
  startedAt : String
  completedAt : Option String
  validationStatus : Option String
  reviewStatus : Option AgentQueueTaskRunReviewStatus
  createdAt : String
  updatedAt : String
  deriving DecidableEq

def mapRunLinkRow (row : AgentQueueTaskRunLinkRow) : AgentQueueTaskRunLink :=
  { row with
    source := AgentQueueTaskRunSource.fromCurrentSource row.source
    status := AgentQueueTaskRunStatus.fromCurrentStatus row.status
    reviewStatus := row.reviewStatus.map AgentQueueTaskRunReviewStatus.fromCurrentStatus }

/-! ## Input -/

structure RecordAgentQueueTaskRunStartedInput where
  workspaceId : String
  queueTaskId : String
  executorWidgetId : String
  directWorkRunId : String
  source : AgentQueueTaskRunSource

structure RecordAgentQueueTaskRunFinalStatusInput where
  workspaceId : String
  queueTaskId : String
  executorWidgetId : String
  directWorkRunId : String
  status : String
  completedAt : Option String
  validationStatus : Option String
  reviewStatus : Option AgentQueueTaskRunReviewStatus

structure NormalizedRecordRunFinalStatusInput where
  workspaceId : String
  queueTaskId : String
  executorWidgetId : String
  directWorkRunId : String
  status : AgentQueueTaskRunStatus
  completedAt : Option String
  validationStatus : Option String
  reviewStatus : Option AgentQueueTaskRunReviewStatus

def normalizeRecordRunStartedInput (input : RecordAgentQueueTaskRunStartedInput) :
    Except WorkspaceServiceError RecordAgentQueueTaskRunStartedInput := do
  let workspaceId ← requiredInput input.workspaceId "workspace id"
  let queueTaskId ← requiredInput input.queueTaskId "queue task id"
  let executorWidgetId ← requiredInput input.executorWidgetId "executor widget id"
  let directWorkRunId ← requiredInput input.directWorkRunId "Direct Work run id"
  pure ⟨workspaceId, queueTaskId, executorWidgetId, directWorkRunId, input.source⟩

def normalizeRecordRunFinalStatusInput (input : RecordAgentQueueTaskRunFinalStatusInput) :
    Except WorkspaceServiceError NormalizedRecordRunFinalStatusInput := do
  let statusText ← requiredInput input.status "run link status"
  let workspaceId ← requiredInput input.workspaceId "workspace id"
  let queueTaskId ← requiredInput input.queueTaskId "queue task id"
  let executorWidgetId ← requiredInput input.executorWidgetId "executor widget id"
  let directWorkRunId ← requiredInput input.directWorkRunId "Direct Work run id"
  pure ⟨workspaceId, queueTaskId, executorWidgetId, directWorkRunId,
    AgentQueueTaskRunStatus.fromCurrentStatus statusText, input.completedAt,
    input.validationStatus, input.reviewStatus⟩

/-! ## Owners -/

/-- A backend-owned run needs an unassigned task; any other run needs a widget of
the workspace that is the assigned executor or a Queue, and owns the run. -/
def validateQueueTaskExecutorRunLink
    (workspaceId queueTaskId executorWidgetId directWorkRunId : String) : Sqlite Unit := do
  let task ← loadAgentQueueTask workspaceId queueTaskId
  if executorWidgetId = queueLocalBackendExecutionTargetId then
    failIf task.assignedExecutorWidgetId.isSome (storageInvalidInput
      "backend-owned queue_local run cannot be linked to an assigned executor task")
  else do
    let executor ← query fun s => s.getWidgetInstance executorWidgetId
    match executor with
    | none =>
        throw (storageInvalidInput ("queue task run owner not found: " ++ executorWidgetId))
    | some executor => do
        failIf (executor.workspaceId != workspaceId) (storageInvalidInput
          ("queue task run owner does not belong to workspace: " ++ executorWidgetId))
        failIf (executor.definitionId == agentRunWidgetDefinitionId &&
            task.assignedExecutorWidgetId != some executorWidgetId)
          (storageInvalidInput "queue task is not assigned to the linked Agent Executor")
        failIf (executor.definitionId != agentRunWidgetDefinitionId &&
            executor.definitionId != agentQueueWidgetDefinitionId)
          (storageInvalidInput
            ("queue task run owner is not a Direct Work owner: " ++ executorWidgetId))
        let owned ← query fun s => s.validateWidgetRunOwnership workspaceId
          executor.workbenchId executor.id directWorkRunId
        match owned with
        | none => throw (storageInvalidInput
            ("Direct Work run not found for queue task: " ++ directWorkRunId))
        | some (widget, run) =>
            failIf (!canInitiateDirectWork widget.definitionId ||
                run.commandKind != some codexDirectWorkCommandKind)
              (storageInvalidInput
                "queue task run is not an Agent Executor Direct Work run")

/-! ## Commands -/

/-- The link of a run that was just started, with its id drawn at place `i`. -/
def startedRunLink (d : Draws) (i : ℕ)
    (workspaceId queueTaskId executorWidgetId directWorkRunId : String)
    (source : AgentQueueTaskRunSource) : AgentQueueTaskRunLinkRow :=
  { linkId := d.placeholderId "queue_run_link_" i
    workspaceId := workspaceId
    queueTaskId := queueTaskId
    executorWidgetId := executorWidgetId
    directWorkRunId := directWorkRunId
    source := source.asStr
    status := AgentQueueTaskRunStatus.running.asStr
    startedAt := d.timestamp (i + 1)
    completedAt := none
    validationStatus := none
    reviewStatus := none
    createdAt := d.timestamp (i + 1)
    updatedAt := d.timestamp (i + 1) }

def recordAgentQueueTaskRunStarted (d : Draws) (input : RecordAgentQueueTaskRunStartedInput) :
    Service AgentQueueTaskRunLink := do
  let input ← check (normalizeRecordRunStartedInput input)
  let link ← withImmediateTransaction mapStorageAgentQueueTaskError do
    validateQueueTaskExecutorRunLink input.workspaceId input.queueTaskId
      input.executorWidgetId input.directWorkRunId
    let link ← execute fun s => s.insertAgentQueueTaskRunLink
      (startedRunLink d 0 input.workspaceId input.queueTaskId input.executorWidgetId
        input.directWorkRunId input.source)
    execute fun s => s.touchWorkspace input.workspaceId (d.timestamp 2)
    pure link
  pure (mapRunLinkRow link)

def recordAgentQueueTaskRunStartedInStore (d : Draws) (i : ℕ)
    (workspaceId queueTaskId executorWidgetId directWorkRunId : String)
    (source : AgentQueueTaskRunSource) : Sqlite AgentQueueTaskRunLink := do
  validateQueueTaskExecutorRunLink workspaceId queueTaskId executorWidgetId directWorkRunId
  let link ← execute fun s => s.insertAgentQueueTaskRunLink
    (startedRunLink d i workspaceId queueTaskId executorWidgetId directWorkRunId source)
  pure (mapRunLinkRow link)

/-- The review state of a link that a run left in the given state. -/
def reviewStatusAfter : AgentQueueTaskRunStatus → AgentQueueTaskRunReviewStatus
  | .running => .unknown
  | _ => .reviewNeeded

/-- When the run of a link ended: now for a backend-owned run, else the time the
widget run has. -/
def SqliteStore.runFinishedAt (s : SqliteStore) (executorWidgetId directWorkRunId now : String) :
    Option String :=
  if executorWidgetId = queueLocalBackendExecutionTargetId then some now
  else (s.getWidgetRun directWorkRunId).bind (·.finishedAt)

/-- The update the command makes of its input. -/
def recordedFinalUpdate (d : Draws) (input : NormalizedRecordRunFinalStatusInput)
    (finishedAt : Option String) : AgentQueueTaskRunLinkFinalUpdate :=
  { status := input.status.asStr
    completedAt := input.completedAt.or finishedAt
    validationStatus := input.validationStatus
    reviewStatus := some (input.reviewStatus.getD (reviewStatusAfter input.status)).asStr
    updatedAt := d.timestamp 1 }

/-- The final status of the named run is recorded. -/
def recordAgentQueueTaskRunFinalStatus (d : Draws)
    (input : RecordAgentQueueTaskRunFinalStatusInput) :
    Service (Option AgentQueueTaskRunLink) := do
  let input ← check (normalizeRecordRunFinalStatusInput input)
  let link ← withImmediateTransaction mapStorageAgentQueueTaskError do
    validateQueueTaskExecutorRunLink input.workspaceId input.queueTaskId
      input.executorWidgetId input.directWorkRunId
    let finishedAt ← query fun s =>
      s.runFinishedAt input.executorWidgetId input.directWorkRunId (d.timestamp 0)
    let link ← execute fun s => s.updateAgentQueueTaskRunLinkFinalStatus
      input.workspaceId input.queueTaskId input.directWorkRunId
      (recordedFinalUpdate d input finishedAt)
    if link.isSome then
      execute fun s => s.touchWorkspace input.workspaceId (d.timestamp 2)
    pure link
  pure (link.map mapRunLinkRow)

/-- The update that ends the link of a run in the given state. -/
def runLinkFinalUpdate (d : Draws) (i : ℕ) (status : AgentQueueTaskRunStatus)
    (finishedAt : Option String) : AgentQueueTaskRunLinkFinalUpdate :=
  { status := status.asStr
    completedAt := some (finishedAt.getD (d.timestamp i))
    validationStatus := none
    reviewStatus := some (reviewStatusAfter status).asStr
    updatedAt := d.timestamp (i + 1) }

def recordAgentQueueTaskRunFinalStatusInStore (d : Draws) (i : ℕ)
    (workspaceId queueTaskId executorWidgetId directWorkRunId status : String) :
    Sqlite (Option AgentQueueTaskRunLink) := do
  validateQueueTaskExecutorRunLink workspaceId queueTaskId executorWidgetId directWorkRunId
  let finishedAt ← query fun s =>
    s.runFinishedAt executorWidgetId directWorkRunId (d.timestamp i)
  let link ← execute fun s => s.updateAgentQueueTaskRunLinkFinalStatus workspaceId queueTaskId
    directWorkRunId
    (runLinkFinalUpdate d i (AgentQueueTaskRunStatus.fromCurrentStatus status) finishedAt)
  pure (link.map mapRunLinkRow)

/-! ## What the commands do -/

theorem validateQueueTaskExecutorRunLink_ok {workspaceId queueTaskId executorId runId : String}
    {s t : SqliteStore} {u : Unit}
    (h : exec (validateQueueTaskExecutorRunLink workspaceId queueTaskId executorId runId) s =
      (.ok u, t)) : t = s := by
  rw [validateQueueTaskExecutorRunLink, exec_bind_ok] at h
  obtain ⟨task, v, hload, h⟩ := h
  obtain ⟨rfl, -⟩ := loadAgentQueueTask_ok hload
  split at h
  · simp only [exec_failIf, guard_ok, Prod.mk.injEq] at h
    exact h.2.2.symm
  rw [exec_query_bind] at h
  split at h
  · simp at h
  simp only [exec_failIf_bind, guard_ok, exec_query_bind] at h
  obtain ⟨-, -, -, h⟩ := h
  split at h
  · simp at h
  · simp only [exec_failIf, guard_ok, Prod.mk.injEq] at h
    exact h.2.2.symm

/-- The rewriting of the link of one run of one task. -/
def RewritesRunLink (workspaceId queueTaskId runId : String)
    (update : AgentQueueTaskRunLinkFinalUpdate) (s t : SqliteStore) : Prop :=
  ∃ workspaces', t = { s with
    agentQueueTaskRunLinks := s.agentQueueTaskRunLinks.update
      (fun r => r.workspaceId == workspaceId && r.queueTaskId == queueTaskId &&
        r.directWorkRunId == runId) update.apply update.keys_apply
    workspaces := workspaces' }

theorem updateAgentQueueTaskRunLinkFinalStatus_ok {workspaceId queueTaskId runId : String}
    {update : AgentQueueTaskRunLinkFinalUpdate} {s t : SqliteStore}
    {row : Option AgentQueueTaskRunLinkRow}
    (h : s.updateAgentQueueTaskRunLinkFinalStatus workspaceId queueTaskId runId update =
      .ok (row, t)) : RewritesRunLink workspaceId queueTaskId runId update s t := by
  simp only [SqliteStore.updateAgentQueueTaskRunLinkFinalStatus] at h
  split at h <;>
  · obtain ⟨-, rfl⟩ := Prod.mk.inj (Except.ok.inj h)
    exact ⟨_, rfl⟩

theorem recordAgentQueueTaskRunStarted_effect {d : Draws}
    {input : RecordAgentQueueTaskRunStartedInput} {s t : SqliteStore}
    {r : Except WorkspaceServiceError AgentQueueTaskRunLink}
    (h : exec (recordAgentQueueTaskRunStarted d input) s = (r, t)) :
    t = s ∨ ∃ n links' workspaces', normalizeRecordRunStartedInput input = .ok n ∧
      s.agentQueueTaskRunLinks.insert (startedRunLink d 0 n.workspaceId n.queueTaskId
        n.executorWidgetId n.directWorkRunId n.source) = some links' ∧
      t = { s with agentQueueTaskRunLinks := links', workspaces := workspaces' } := by
  rcases exec_command h with ⟨-, rfl⟩ | ⟨n, link, hn, hrun, -⟩
  · exact Or.inl rfl
  rw [exec_bind_ok] at hrun
  obtain ⟨⟨⟩, u, hvalid, hrun⟩ := hrun
  obtain rfl := validateQueueTaskExecutorRunLink_ok hvalid
  simp only [exec_bind_ok, exec_execute_ok, SqliteStore.insertAgentQueueTaskRunLink,
    SqliteStore.inserted_ok, SqliteStore.touchWorkspace, exec_pure, Except.ok.injEq,
    Prod.mk.injEq] at hrun
  obtain ⟨_, _, ⟨-, -, links', hins, rfl⟩, _, _, ⟨-, rfl⟩, -, rfl⟩ := hrun
  exact Or.inr ⟨n, links', _, hn, hins, rfl⟩

/-- A recorded start is a new running link. -/
theorem recordAgentQueueTaskRunStartedInStore_ok {d : Draws} {i : ℕ}
    {workspaceId queueTaskId executorId runId : String} {source : AgentQueueTaskRunSource}
    {s t : SqliteStore} {link : AgentQueueTaskRunLink}
    (h : exec (recordAgentQueueTaskRunStartedInStore d i workspaceId queueTaskId executorId
      runId source) s = (.ok link, t)) :
    ∃ links', s.agentQueueTaskRunLinks.insert
        (startedRunLink d i workspaceId queueTaskId executorId runId source) = some links' ∧
      t = { s with agentQueueTaskRunLinks := links' } := by
  rw [recordAgentQueueTaskRunStartedInStore, exec_bind_ok] at h
  obtain ⟨⟨⟩, u, hvalid, h⟩ := h
  obtain rfl := validateQueueTaskExecutorRunLink_ok hvalid
  simp only [exec_bind_ok, exec_execute_ok, SqliteStore.insertAgentQueueTaskRunLink,
    SqliteStore.inserted_ok, exec_pure, Prod.mk.injEq] at h
  obtain ⟨_, _, ⟨-, -, links', hins, rfl⟩, -, rfl⟩ := h
  exact ⟨links', hins, rfl⟩

theorem recordAgentQueueTaskRunFinalStatus_effect {d : Draws}
    {input : RecordAgentQueueTaskRunFinalStatusInput} {s t : SqliteStore}
    {r : Except WorkspaceServiceError (Option AgentQueueTaskRunLink)}
    (h : exec (recordAgentQueueTaskRunFinalStatus d input) s = (r, t)) :
    t = s ∨ ∃ n finishedAt, normalizeRecordRunFinalStatusInput input = .ok n ∧
      RewritesRunLink n.workspaceId n.queueTaskId n.directWorkRunId
        (recordedFinalUpdate d n finishedAt) s t := by
  rcases exec_command h with ⟨-, rfl⟩ | ⟨n, link, hn, hrun, -⟩
  · exact Or.inl rfl
  rw [exec_bind_ok] at hrun
  obtain ⟨⟨⟩, u, hvalid, hrun⟩ := hrun
  obtain rfl := validateQueueTaskExecutorRunLink_ok hvalid
  rw [exec_query_bind, exec_bind_ok] at hrun
  obtain ⟨row, v, hupdate, hrun⟩ := hrun
  rw [exec_execute_ok] at hupdate
  obtain ⟨workspaces', rfl⟩ := updateAgentQueueTaskRunLinkFinalStatus_ok hupdate
  refine Or.inr ⟨n, u.runFinishedAt n.executorWidgetId n.directWorkRunId (d.timestamp 0), hn, ?_⟩
  split at hrun
  · simp only [exec_bind_ok, exec_execute_ok, SqliteStore.touchWorkspace, exec_pure,
      Except.ok.injEq, Prod.mk.injEq] at hrun
    obtain ⟨_, _, ⟨-, rfl⟩, -, rfl⟩ := hrun
    exact ⟨_, rfl⟩
  · simp only [exec_pure, Prod.mk.injEq] at hrun
    obtain ⟨-, rfl⟩ := hrun
    exact ⟨_, rfl⟩

theorem recordAgentQueueTaskRunFinalStatusInStore_ok {d : Draws} {i : ℕ}
    {workspaceId queueTaskId executorId runId status : String} {s t : SqliteStore}
    {link : Option AgentQueueTaskRunLink}
    (h : exec (recordAgentQueueTaskRunFinalStatusInStore d i workspaceId queueTaskId executorId
      runId status) s = (.ok link, t)) :
    ∃ finishedAt, RewritesRunLink workspaceId queueTaskId runId
      (runLinkFinalUpdate d i (AgentQueueTaskRunStatus.fromCurrentStatus status) finishedAt)
      s t := by
  rw [recordAgentQueueTaskRunFinalStatusInStore, exec_bind_ok] at h
  obtain ⟨⟨⟩, u, hvalid, h⟩ := h
  obtain rfl := validateQueueTaskExecutorRunLink_ok hvalid
  simp only [exec_query_bind, exec_bind_ok, exec_execute_ok, exec_pure, Prod.mk.injEq] at h
  obtain ⟨row, v, hupdate, -, rfl⟩ := h
  exact ⟨_, updateAgentQueueTaskRunLinkFinalStatus_ok hupdate⟩

end HobitQueue
