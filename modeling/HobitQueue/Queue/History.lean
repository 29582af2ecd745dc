import HobitQueue.Lib.Run
import HobitQueue.Service.Failure
import HobitQueue.Service.Finish
import HobitQueue.Service.Selected

/-!
# Histories of the Queue

The Queue as a state machine: an operation is a command with its input and its
draws, and takes the store to the one the command leaves. The tables of other
services change in ways the Queue does not control.
-/

namespace HobitQueue

open Concurrent StoreProg Relational

/-- The operations of the Queue; the last one stands for the other services. -/
inductive Op where
  | createTask (d : Draws) (input : CreateAgentQueueTaskInput)
  | updateTask (d : Draws) (input : UpdateAgentQueueTaskInput)
  | assign (d : Draws) (input : AssignAgentQueueTaskToExecutorInput)
  | clearAssignment (d : Draws) (input : AgentQueueTaskRef)
  | deleteTask (d : Draws) (input : AgentQueueTaskRef)
  | startAssigned (d : Draws) (input : StartAssignedAgentQueueTaskInput)
      (source : AgentQueueTaskRunSource)
  | startSelected (d : Draws) (mode : SelectedQueueLocalStartMode)
      (input : StartSelectedAgentQueueTaskLocalInput)
  | finishAssigned (d : Draws) (input : FinishAssignedAgentQueueTaskRunInput)
  | recoverStale (d : Draws) (input : RecoverStaleQueueLocalRunInput)
  | recordRunStarted (d : Draws) (input : RecordAgentQueueTaskRunStartedInput)
  | recordRunFinalStatus (d : Draws) (input : RecordAgentQueueTaskRunFinalStatusInput)
  | recordWorkerFinished (d : Draws) (input : RecordAgentQueueWorkerFinishedInput)
  | createReviewMessage (d : Draws) (input : CreateAgentQueueReviewMessageInput)
  | ackReviewMessage (d : Draws) (input : AckAgentQueueReviewMessageInput)
  | markDone (d : Draws) (input : MarkAgentQueueItemDoneInput)
  | fail (d : Draws) (input : FailAgentQueueItemInput)
  | setControlState (d : Draws) (input : SetAgentQueueControlStateInput)
  | otherServices (workspaces : Table WorkspaceRow)
      (workspaceWorkbenches : Table WorkspaceWorkbenchRow)
      (widgetInstances : Table WidgetInstanceRow) (widgetRuns : Table WidgetRunRow)
      (workflowRuns : Table AgentQueueWorkflowRunRow)

/-- The store an operation leaves; its answer does not matter here. -/
def perform (s : SqliteStore) : Op → SqliteStore
  | .createTask d input => (exec (createAgentQueueTask d input) s).2
  | .updateTask d input => (exec (updateAgentQueueTask d input) s).2
  | .assign d input => (exec (assignAgentQueueTaskToExecutor d input) s).2
  | .clearAssignment d input => (exec (clearAgentQueueTaskAssignment d input) s).2
  | .deleteTask d input => (exec (deleteAgentQueueTask d input) s).2
  | .startAssigned d input source =>
      (exec (startAssignedAgentQueueTaskWithRunSource d input source) s).2
  | .startSelected d mode input =>
      (exec (startSelectedAgentQueueTaskLocalWithMode d mode input) s).2
  | .finishAssigned d input => (exec (finishAssignedAgentQueueTaskRun d input) s).2
  | .recoverStale d input => (exec (recoverStaleQueueLocalRunFailed d input) s).2
  | .recordRunStarted d input => (exec (recordAgentQueueTaskRunStarted d input) s).2
  | .recordRunFinalStatus d input => (exec (recordAgentQueueTaskRunFinalStatus d input) s).2
  | .recordWorkerFinished d input => (exec (recordAgentQueueWorkerFinished d input) s).2
  | .createReviewMessage d input => (exec (createAgentQueueReviewMessage d input) s).2
  | .ackReviewMessage d input => (exec (ackAgentQueueReviewMessage d input) s).2
  | .markDone d input => (exec (markAgentQueueItemDone d input) s).2
  | .fail d input => (exec (failAgentQueueItem d input) s).2
  | .setControlState d input => (exec (setAgentQueueControlState d input) s).2
  | .otherServices workspaces workspaceWorkbenches widgetInstances widgetRuns workflowRuns =>
      { s with
        workspaces := workspaces
        workspaceWorkbenches := workspaceWorkbenches
        widgetInstances := widgetInstances
        widgetRuns := widgetRuns
        agentQueueWorkflowRuns := workflowRuns }

/-- A store in which the Queue has done nothing yet. -/
structure Empty (s : SqliteStore) : Prop where
  tasks : ∀ r, r ∉ s.agentQueueTasks
  runLinks : ∀ r, r ∉ s.agentQueueTaskRunLinks
  reviewMessages : ∀ r, r ∉ s.agentQueueReviewMessages
  evidence : ∀ r, r ∉ s.agentQueueWorkerEvidenceBundles
  completions : ∀ r, r ∉ s.agentQueueCompletionDecisions
  failures : ∀ r, r ∉ s.agentQueueFailureDecisions
  actions : ∀ r, r ∉ s.agentQueueWorkflowActions

/-- A store with one workspace and nothing else. -/
def oneWorkspace (id : String) : SqliteStore :=
  { workspaces := ⟨[⟨id, none, "0"⟩], List.pairwise_singleton _ _⟩
    workspaceWorkbenches := Table.empty
    widgetInstances := Table.empty
    widgetRuns := Table.empty
    agentQueueTasks := Table.empty
    agentQueueTaskRunLinks := Table.empty
    agentQueueReviewMessages := Table.empty
    agentQueueWorkerEvidenceBundles := Table.empty
    agentQueueCompletionDecisions := Table.empty
    agentQueueFailureDecisions := Table.empty
    agentQueueControlStates := Table.empty
    agentQueueWorkflowRuns := Table.empty
    agentQueueWorkflowActions := Table.empty }

theorem empty_oneWorkspace (id : String) : Empty (oneWorkspace id) where
  tasks := Table.not_mem_empty
  runLinks := Table.not_mem_empty
  reviewMessages := Table.not_mem_empty
  evidence := Table.not_mem_empty
  completions := Table.not_mem_empty
  failures := Table.not_mem_empty
  actions := Table.not_mem_empty

/-- The draws of a command at a second of the clock, with a counter that starts at 0. -/
def drawsAt (second : ℕ) : Draws := ⟨fun i => 1000000000 * second + i, fun i => i⟩

/-- The input of a task with run settings of its own. -/
def taskInput (workspaceId status : String) (dependsOn : List String) :
    CreateAgentQueueTaskInput :=
  { workspaceId := workspaceId
    title := "title"
    description := ""
    prompt := "prompt"
    status := status
    priority := 0
    dependsOn := some dependsOn
    executionPolicy := none
    executionWorkspace := some "/repository"
    codexExecutable := some "codex"
    sandbox := some "read_only"
    approvalPolicy := some "never" }

/-- The same settings as the update of a task. -/
def taskUpdate (workspaceId queueItemId status : String) (dependsOn : List String) :
    UpdateAgentQueueTaskInput :=
  { taskInput workspaceId status dependsOn with queueItemId := queueItemId }

/-- A task without settings. -/
def plainTask : AgentQueueTaskRow :=
  { queueItemId := "task", workspaceId := "w", title := "title", description := ""
    prompt := "prompt", status := "queued", priority := 0, dependsOn := .value (.arr [])
    executionPolicy := "manual", executionWorkspace := none, codexExecutable := none
    sandbox := none, approvalPolicy := none, contextJson := none
    assignedExecutorWidgetId := none, createdAt := "0", updatedAt := "0" }

/-- A run of a workflow that has bound its slots. -/
def plainRun (slotBindings : List (String × Json)) : AgentQueueWorkflowRunRow :=
  { workflowRunId := "workflow", workspaceId := "w", workflowId := "queue.single"
    requestId := "request", requestHash := "hash", status := "running", phase := "intake"
    currentStep := none, pauseReason := none, blockerReason := none, actorId := none
    inputsSnapshotJson := none, grantSummaryJson := none, variablesJson := none
    slotBindingsJson := some (.value (.obj slotBindings)), mutationRefsJson := none
    idempotencyKeysJson := none, actionLogSummaryJson := none, version := 1, schemaVersion := 1
    createdAt := "0", updatedAt := "0", completedAt := none }

/-- The id of a task that was created in the first second. -/
def firstTask : String := "queue_task_1000000000_0"

/-- A queued task in a workspace that allows starts on the local backend. -/
def firstTaskQueued : List Op :=
  [.setControlState (drawsAt 1) ⟨"w", "manual_enabled", some "operator", none, none⟩,
    .createTask (drawsAt 1) (taskInput "w" "queued" [])]

def startFirstTask (second : ℕ) : Op := .startSelected (drawsAt second) .start ⟨"w", firstTask⟩

def retryFirstTask (second : ℕ) : Op :=
  .startSelected (drawsAt second) .retryFailed ⟨"w", firstTask⟩

def reportFirstTask (second : ℕ) (runId outcome : String) : Op :=
  .recordWorkerFinished (drawsAt second)
    { workspaceId := "w"
      queueItemId := firstTask
      runId := runId
      outcome := outcome
      summary := some "summary"
      changedFiles := []
      changedFilesSummary := none
      validationSummary := none
      errorSummary := none
      workerId := none
      source := none
      metadataJson := none
      finishedAt := none }

/-- A review message about the task, and its acknowledgement a second later. -/
def reviewFirstTask (second : ℕ) (messageId : String) : List Op :=
  [.createReviewMessage (drawsAt second) ⟨"w", firstTask, "operator", none, none, none⟩,
    .ackReviewMessage (drawsAt (second + 1)) ⟨"w", firstTask, messageId, "operator"⟩]

def acceptFirstTask (second : ℕ) : Op :=
  .markDone (drawsAt second)
    ⟨"w", firstTask, "operator", "operator-confirmed", none, none, none⟩

def failFirstTask (second : ℕ) : Op :=
  .fail (drawsAt second)
    ⟨"w", firstTask, "operator", "operator-confirmed", "reason", none, none, none⟩

/-! ## What an operation can do -/

/-- The operations that change who works on a task. -/
def Op.Reassigns : Op → Bool
  | .assign .. | .clearAssignment .. => true
  | _ => false

/-- The effects of the operations: an operation that is refused is idle, and a start that
is blocked keeps books. -/
inductive Effect (s : SqliteStore) : Op → SqliteStore → Prop
  | idle (op : Op) : Effect s op s
  | bookkeeping {op : Op} {t : SqliteStore} (h : StartBookkeeping s t) : Effect s op t
  | created {d : Draws} {input : CreateAgentQueueTaskInput}
      {n : NormalizedCreateAgentQueueTaskInput} {tasks' : Table AgentQueueTaskRow}
      {workspaces' : Table WorkspaceRow}
      (hn : normalizeCreateAgentQueueTaskInput input = .ok n)
      (hdeps : ∀ id ∈ n.dependsOn, (s.getAgentQueueTask n.workspaceId id).isSome)
      (hins : s.agentQueueTasks.insert (newAgentQueueTaskRow n
        (d.placeholderId "queue_task_" 0) (d.timestamp 1)) = some tasks') :
      Effect s (.createTask d input)
        { s with agentQueueTasks := tasks', workspaces := workspaces' }
  | updated {d : Draws} {input : UpdateAgentQueueTaskInput} {t : SqliteStore}
      {n : NormalizedUpdateAgentQueueTaskInput}
      (hn : normalizeUpdateAgentQueueTaskInput input = .ok n)
      (hdeps : exec (validateDependencyUpdate n.workspaceId n.queueItemId n.dependsOn) s =
        (.ok (), s))
      (h : RewritesTask n.workspaceId n.queueItemId
        (agentQueueTaskUpdate n (d.timestamp 0)).apply s t) :
      Effect s (.updateTask d input) t
  | reassigned {op : Op} {t : SqliteStore} {workspaceId queueItemId updatedAt : String}
      {executor : Option String} (hop : op.Reassigns = true)
      (h : RewritesTask workspaceId queueItemId (fun r => { r with
        assignedExecutorWidgetId := executor, updatedAt := updatedAt }) s t) : Effect s op t
  | deleted {d : Draws} {input : AgentQueueTaskRef} {n : AgentQueueTaskRef}
      {workspaces' : Table WorkspaceRow} (hn : normalizeAgentQueueTaskRef input = .ok n) :
      Effect s (.deleteTask d input)
        { s.withoutTask n.queueItemId with workspaces := workspaces' }
  | launched {d : Draws} {input : StartAssignedAgentQueueTaskInput}
      {source : AgentQueueTaskRunSource} {n : NormalizedStartAssignedAgentQueueTaskInput}
      {executorId runId : String} {t : SqliteStore}
      (hn : normalizeStartAssignedAgentQueueTaskInput input = .ok n)
      (h : Launched (startedRunLink d 8 n.workspaceId n.queueItemId executorId runId source)
        (d.timestamp 0) s t)
      (htask : ∃ task ∈ s.agentQueueTasks, task.workspaceId = n.workspaceId ∧
        task.queueItemId = n.queueItemId ∧ isRunnableAgentQueueTaskStatus task.status = true)
      (hidle : n.workflowStartContext.isSome →
        s.latestActiveTaskRunLink n.workspaceId n.queueItemId = none) :
      Effect s (.startAssigned d input source) t
  | launchedSelected {d : Draws} {mode : SelectedQueueLocalStartMode}
      {input n : StartSelectedAgentQueueTaskLocalInput} {t : SqliteStore}
      (hn : normalizeStartSelectedAgentQueueTaskLocalInput input = .ok n)
      (h : Launched (startedRunLink d 3 n.workspaceId n.queueItemId
        queueLocalBackendExecutionTargetId (d.placeholderId "queue-run_" 2) .manual)
        (d.timestamp 0) s t)
      (hidle : s.latestActiveTaskRunLink n.workspaceId n.queueItemId = none)
      (htask : ∃ task ∈ s.agentQueueTasks, task.workspaceId = n.workspaceId ∧
        task.queueItemId = n.queueItemId ∧
        s.selectedQueueLocalStateBlocker mode n.workspaceId task = none) :
      Effect s (.startSelected d mode input) t
  | finished {d : Draws} {input n : FinishAssignedAgentQueueTaskRunInput}
      {queueStatus : AgentQueueTaskLifecycleStatus} {t : SqliteStore}
      (hn : checkedFinish input = .ok (n, queueStatus)) (h : Finished d n queueStatus s t) :
      Effect s (.finishAssigned d input) t
  | recovered {d : Draws} {input n : RecoverStaleQueueLocalRunInput} {t : SqliteStore}
      (hn : normalizeRecoverStaleQueueLocalRunInput input = .ok n)
      (hnone : s.getAgentQueueWorkerEvidenceBundle n.workspaceId n.queueItemId n.runId = none)
      (hlink : ∃ link ∈ s.agentQueueTaskRunLinks, link.workspaceId = n.workspaceId ∧
        link.queueTaskId = n.queueItemId ∧ link.directWorkRunId = n.runId ∧
        link.status = "running")
      (h : Reported "failed" (d.timestamp 0)
        (workerFinishedLinkUpdate AgentQueueTaskRunStatus.failed.asStr (d.timestamp 0))
        (staleRecoveryBundle n (d.placeholderId "queue_worker_evidence_" 1) (d.timestamp 0))
        s t) : Effect s (.recoverStale d input) t
  | linked {d : Draws} {input n : RecordAgentQueueTaskRunStartedInput}
      {links' : Table AgentQueueTaskRunLinkRow} {workspaces' : Table WorkspaceRow}
      (hn : normalizeRecordRunStartedInput input = .ok n)
      (hins : s.agentQueueTaskRunLinks.insert (startedRunLink d 0 n.workspaceId n.queueTaskId
        n.executorWidgetId n.directWorkRunId n.source) = some links') :
      Effect s (.recordRunStarted d input)
        { s with agentQueueTaskRunLinks := links', workspaces := workspaces' }
  | linkEnded {d : Draws} {input : RecordAgentQueueTaskRunFinalStatusInput}
      {n : NormalizedRecordRunFinalStatusInput} {finishedAt : Option String} {t : SqliteStore}
      (hn : normalizeRecordRunFinalStatusInput input = .ok n)
      (h : RewritesRunLink n.workspaceId n.queueTaskId n.directWorkRunId
        (recordedFinalUpdate d n finishedAt) s t) : Effect s (.recordRunFinalStatus d input) t
  | reported {d : Draws} {input : RecordAgentQueueWorkerFinishedInput}
      {n : NormalizedRecordAgentQueueWorkerFinishedInput} {linkId : String}
      {executorId : Option String} {t : SqliteStore}
      (hn : normalizeRecordAgentQueueWorkerFinishedInput input = .ok n)
      (h : Reported (taskStatusForWorkerOutcome n.outcome) (n.finishedAt.getD (d.timestamp 0))
        (workerFinishedLinkUpdate (runStatusForWorkerOutcome n.outcome)
          (n.finishedAt.getD (d.timestamp 0)))
        (workerEvidenceBundle n (n.finishedAt.getD (d.timestamp 0))
          (d.placeholderId "queue_worker_evidence_" 1) linkId executorId) s t) :
      Effect s (.recordWorkerFinished d input) t
  | messageCreated {d : Draws} {input : CreateAgentQueueReviewMessageInput}
      {request : CreateReviewMessageRequest} {row : AgentQueueTaskRow}
      {messages' : Table AgentQueueReviewMessageRow}
      (hrequest : createReviewMessageRequest input = .ok request)
      (hrow : s.getAgentQueueTask request.workspaceId request.queueItemId = some row)
      (hnone : s.getLatestAgentQueueReviewMessage request.workspaceId request.queueItemId =
        none)
      (hins : s.agentQueueReviewMessages.insert (newReviewMessage d request
        (s.operatorView request.toOperatorTask row)) = some messages') :
      Effect s (.createReviewMessage d input) { s with agentQueueReviewMessages := messages' }
  | messageAcked {d : Draws} {input n : AckAgentQueueReviewMessageInput}
      (hn : normalizeAckReviewMessageInput input = .ok n) :
      Effect s (.ackReviewMessage d input) { s with
        agentQueueReviewMessages := s.agentQueueReviewMessages.update
          (fun r => r.workspaceId == n.workspaceId && r.queueTaskId == n.queueItemId &&
            r.messageId == n.messageId)
          (acknowledge n.actorId (d.timestamp 0)) fun _ => rfl }
  | accepted {d : Draws} {input : MarkAgentQueueItemDoneInput} {request : MarkDoneRequest}
      {t : SqliteStore} (hrequest : markDoneRequest input = .ok request)
      (h : AcceptsTask d request s t) : Effect s (.markDone d input) t
  | gaveUp {d : Draws} {input : FailAgentQueueItemInput} {request : FailRequest}
      {evidence : AgentQueueWorkerEvidenceBundleRow} {message : AgentQueueReviewMessageRow}
      {t : SqliteStore} (hrequest : failRequest input = .ok request)
      (h : FailsTask d request evidence message s t) : Effect s (.fail d input) t
  | others {workspaces : Table WorkspaceRow}
      {workspaceWorkbenches : Table WorkspaceWorkbenchRow}
      {widgetInstances : Table WidgetInstanceRow} {widgetRuns : Table WidgetRunRow}
      {workflowRuns : Table AgentQueueWorkflowRunRow} :
      Effect s (.otherServices workspaces workspaceWorkbenches widgetInstances widgetRuns
        workflowRuns)
        { s with
          workspaces := workspaces
          workspaceWorkbenches := workspaceWorkbenches
          widgetInstances := widgetInstances
          widgetRuns := widgetRuns
          agentQueueWorkflowRuns := workflowRuns }

theorem startAssigned_effect {d : Draws} {input : StartAssignedAgentQueueTaskInput}
    {source : AgentQueueTaskRunSource} {s t : SqliteStore}
    {r : Except WorkspaceServiceError AssignedAgentQueueTaskStartSummary}
    (h : exec (startAssignedAgentQueueTaskWithRunSource d input source) s = (r, t)) :
    Effect s (.startAssigned d input source) t := by
  rcases startAssignedAgentQueueTaskWithRunSource_effect h with
    ⟨-, rfl⟩ | ⟨n, result, hn, hrun, -⟩
  · exact .idle _
  rcases startTransaction_ok hrun with ⟨_, _, -, -, hbook, -⟩ | ⟨-, hnew⟩
  · exact .bookkeeping hbook
  rcases hnew with ⟨hbook, -⟩ | ⟨summary, executorId, -, hlaunched, htask, hcontext⟩
  · exact .bookkeeping hbook
  refine .launched hn hlaunched htask fun hsome => ?_
  obtain ⟨context, hc⟩ := Option.isSome_iff_exists.1 hsome
  exact (hcontext context hc).1

theorem startSelected_effect {d : Draws} {mode : SelectedQueueLocalStartMode}
    {input : StartSelectedAgentQueueTaskLocalInput} {s t : SqliteStore}
    {r : Except WorkspaceServiceError SelectedAgentQueueTaskLocalStartSummary}
    (h : exec (startSelectedAgentQueueTaskLocalWithMode d mode input) s = (r, t)) :
    Effect s (.startSelected d mode input) t := by
  rcases startSelectedAgentQueueTaskLocalWithMode_effect h with rfl | ⟨n, hn, hstarts⟩
  · exact .idle _
  rcases hstarts with hcontrol | ⟨hlaunched, hidle, htask⟩
  · exact .bookkeeping hcontrol.bookkeeping
  · exact .launchedSelected hn hlaunched hidle htask

theorem createTask_effect {d : Draws} {input : CreateAgentQueueTaskInput}
    {s t : SqliteStore} {r : Except WorkspaceServiceError AgentQueueTaskSummary}
    (h : exec (createAgentQueueTask d input) s = (r, t)) : Effect s (.createTask d input) t := by
  rcases createAgentQueueTask_effect h with rfl | ⟨n, tasks', workspaces', hn, hdeps, hins, rfl⟩
  · exact .idle _
  · exact .created hn hdeps hins

theorem updateTask_effect {d : Draws} {input : UpdateAgentQueueTaskInput}
    {s t : SqliteStore} {r : Except WorkspaceServiceError (Option AgentQueueTaskSummary)}
    (h : exec (updateAgentQueueTask d input) s = (r, t)) : Effect s (.updateTask d input) t := by
  rcases updateAgentQueueTask_effect h with rfl | ⟨n, hn, hdeps, hrewrites⟩
  · exact .idle _
  · exact .updated hn hdeps hrewrites

theorem assign_effect {d : Draws} {input : AssignAgentQueueTaskToExecutorInput}
    {s t : SqliteStore} {r : Except WorkspaceServiceError AgentQueueTaskSummary}
    (h : exec (assignAgentQueueTaskToExecutor d input) s = (r, t)) :
    Effect s (.assign d input) t := by
  rcases assignAgentQueueTaskToExecutor_effect h with rfl | ⟨_, _, _, hrewrites⟩
  · exact .idle _
  · exact .reassigned rfl hrewrites

theorem clearAssignment_effect {d : Draws} {input : AgentQueueTaskRef}
    {s t : SqliteStore} {r : Except WorkspaceServiceError AgentQueueTaskSummary}
    (h : exec (clearAgentQueueTaskAssignment d input) s = (r, t)) :
    Effect s (.clearAssignment d input) t := by
  rcases clearAgentQueueTaskAssignment_effect h with rfl | ⟨_, _, hrewrites⟩
  · exact .idle _
  · exact .reassigned rfl hrewrites

theorem deleteTask_effect {d : Draws} {input : AgentQueueTaskRef}
    {s t : SqliteStore} {r : Except WorkspaceServiceError Bool}
    (h : exec (deleteAgentQueueTask d input) s = (r, t)) : Effect s (.deleteTask d input) t := by
  rcases deleteAgentQueueTask_effect h with rfl | ⟨n, workspaces', hn, rfl⟩
  · exact .idle _
  · exact .deleted hn

theorem finishAssigned_effect {d : Draws} {input : FinishAssignedAgentQueueTaskRunInput}
    {s t : SqliteStore} {r : Except WorkspaceServiceError AgentQueueTaskSummary}
    (h : exec (finishAssignedAgentQueueTaskRun d input) s = (r, t)) :
    Effect s (.finishAssigned d input) t := by
  rcases finishAssignedAgentQueueTaskRun_effect h with rfl | ⟨n, queueStatus, hn, hfinished⟩
  · exact .idle _
  · exact .finished hn hfinished

theorem recoverStale_effect {d : Draws} {input : RecoverStaleQueueLocalRunInput}
    {s t : SqliteStore} {r : Except WorkspaceServiceError RecoverStaleQueueLocalRunResult}
    (h : exec (recoverStaleQueueLocalRunFailed d input) s = (r, t)) :
    Effect s (.recoverStale d input) t := by
  rcases recoverStaleQueueLocalRunFailed_effect h with rfl | ⟨n, hn, hnone, hlink, hreported⟩
  · exact .idle _
  · exact .recovered hn hnone hlink hreported

theorem recordRunStarted_effect {d : Draws} {input : RecordAgentQueueTaskRunStartedInput}
    {s t : SqliteStore} {r : Except WorkspaceServiceError AgentQueueTaskRunLink}
    (h : exec (recordAgentQueueTaskRunStarted d input) s = (r, t)) :
    Effect s (.recordRunStarted d input) t := by
  rcases recordAgentQueueTaskRunStarted_effect h with rfl | ⟨n, links', workspaces', hn, hins, rfl⟩
  · exact .idle _
  · exact .linked hn hins

theorem recordRunFinalStatus_effect {d : Draws} {input : RecordAgentQueueTaskRunFinalStatusInput}
    {s t : SqliteStore} {r : Except WorkspaceServiceError (Option AgentQueueTaskRunLink)}
    (h : exec (recordAgentQueueTaskRunFinalStatus d input) s = (r, t)) :
    Effect s (.recordRunFinalStatus d input) t := by
  rcases recordAgentQueueTaskRunFinalStatus_effect h with rfl | ⟨n, finishedAt, hn, hrewrites⟩
  · exact .idle _
  · exact .linkEnded hn hrewrites

theorem recordWorkerFinished_effect {d : Draws} {input : RecordAgentQueueWorkerFinishedInput}
    {s t : SqliteStore} {r : Except WorkspaceServiceError AgentQueueWorkerFinishedCommandResult}
    (h : exec (recordAgentQueueWorkerFinished d input) s = (r, t)) :
    Effect s (.recordWorkerFinished d input) t := by
  rcases recordAgentQueueWorkerFinished_effect h with rfl | ⟨n, linkId, executorId, hn, hreported⟩
  · exact .idle _
  · exact .reported hn hreported

theorem createReviewMessage_effect {d : Draws} {input : CreateAgentQueueReviewMessageInput}
    {s t : SqliteStore} {r : Except WorkspaceServiceError AgentQueueReviewCreateMessageResult}
    (h : exec (createAgentQueueReviewMessage d input) s = (r, t)) :
    Effect s (.createReviewMessage d input) t := by
  rcases createAgentQueueReviewMessage_effect h with rfl |
    ⟨request, row, messages', hrequest, hrow, hnone, hins, rfl⟩
  · exact .idle _
  · exact .messageCreated hrequest hrow hnone hins

theorem ackReviewMessage_effect {d : Draws} {input : AckAgentQueueReviewMessageInput}
    {s t : SqliteStore} {r : Except WorkspaceServiceError AgentQueueReviewCommandResult}
    (h : exec (ackAgentQueueReviewMessage d input) s = (r, t)) :
    Effect s (.ackReviewMessage d input) t := by
  rcases ackAgentQueueReviewMessage_effect h with rfl | ⟨n, hn, rfl⟩
  · exact .idle _
  · exact .messageAcked hn

theorem markDone_effect {d : Draws} {input : MarkAgentQueueItemDoneInput}
    {s t : SqliteStore} {r : Except WorkspaceServiceError AgentQueueCompletionCommandResult}
    (h : exec (markAgentQueueItemDone d input) s = (r, t)) : Effect s (.markDone d input) t := by
  rcases markAgentQueueItemDone_effect h with rfl | ⟨request, hrequest, haccepts⟩
  · exact .idle _
  · exact .accepted hrequest haccepts

theorem fail_effect {d : Draws} {input : FailAgentQueueItemInput}
    {s t : SqliteStore} {r : Except WorkspaceServiceError AgentQueueFailureCommandResult}
    (h : exec (failAgentQueueItem d input) s = (r, t)) : Effect s (.fail d input) t := by
  rcases failAgentQueueItem_effect h with rfl | ⟨request, evidence, message, hrequest, hfails⟩
  · exact .idle _
  · exact .gaveUp hrequest hfails

theorem setControlState_effect {d : Draws} {input : SetAgentQueueControlStateInput}
    {s t : SqliteStore} {r : Except WorkspaceServiceError SetAgentQueueControlStateResult}
    (h : exec (setAgentQueueControlState d input) s = (r, t)) :
    Effect s (.setControlState d input) t :=
  .bookkeeping (setAgentQueueControlState_effect h).bookkeeping

/-- **All that an operation can do.** -/
theorem perform_effect (s : SqliteStore) (op : Op) : Effect s op (perform s op) := by
  cases op with
  | createTask => exact createTask_effect Prod.mk.eta.symm
  | updateTask => exact updateTask_effect Prod.mk.eta.symm
  | assign => exact assign_effect Prod.mk.eta.symm
  | clearAssignment => exact clearAssignment_effect Prod.mk.eta.symm
  | deleteTask => exact deleteTask_effect Prod.mk.eta.symm
  | startAssigned => exact startAssigned_effect Prod.mk.eta.symm
  | startSelected => exact startSelected_effect Prod.mk.eta.symm
  | finishAssigned => exact finishAssigned_effect Prod.mk.eta.symm
  | recoverStale => exact recoverStale_effect Prod.mk.eta.symm
  | recordRunStarted => exact recordRunStarted_effect Prod.mk.eta.symm
  | recordRunFinalStatus => exact recordRunFinalStatus_effect Prod.mk.eta.symm
  | recordWorkerFinished => exact recordWorkerFinished_effect Prod.mk.eta.symm
  | createReviewMessage => exact createReviewMessage_effect Prod.mk.eta.symm
  | ackReviewMessage => exact ackReviewMessage_effect Prod.mk.eta.symm
  | markDone => exact markDone_effect Prod.mk.eta.symm
  | fail => exact fail_effect Prod.mk.eta.symm
  | setControlState => exact setControlState_effect Prod.mk.eta.symm
  | otherServices => exact .others

end HobitQueue
