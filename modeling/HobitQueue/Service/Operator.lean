import HobitQueue.Service.Aggregate

/-!
# What the operator's commands share

Reviewing, accepting and failing a task are commands of an operator. Each finds the
task, reads its aggregate, its latest evidence and its latest review message, and
refuses with a structured answer when they do not allow it. The reads stand outside
the transaction that writes.
-/

namespace HobitQueue

open Concurrent StoreProg Relational

/-- The ids of the task of a command: trimmed, and not empty. -/
structure OperatorTask where
  workspaceId : String
  queueItemId : String
  checkedWorkspace : requiredInput workspaceId "workspace id" = .ok workspaceId
  checkedItem : requiredInput queueItemId "queue item id" = .ok queueItemId

/-- A trimmed text that is not empty passes the check unchanged. -/
theorem requiredInput_trim {value : String} (h : Text.trim value ≠ "") (label : String) :
    requiredInput (Text.trim value) label = .ok (Text.trim value) :=
  requiredInput_ok.2 ⟨(Text.trim_trim value).symm, h⟩

/-- The ids of the input; a blank one is refused by the name of its field. -/
def operatorTask {R : Type} (workspaceId queueItemId : String)
    (invalid : String → String → R) : Except R OperatorTask :=
  if hw : Text.trim workspaceId = "" then .error (invalid "workspaceId" "workspaceId is required.")
  else if hi : Text.trim queueItemId = "" then .error (invalid "taskId" "taskId is required.")
  else .ok ⟨Text.trim workspaceId, Text.trim queueItemId, requiredInput_trim hw _,
    requiredInput_trim hi _⟩

/-- The workspace exists, the task exists, and it belongs to the workspace; `refuse`
makes the answer of a code, a message and the capability to go on with. -/
def withOperatorTask {R : Type} (task : OperatorTask) (command : String)
    (refuse : String → String → Option String → R) (go : Service R) : Service R := do
  let workspace ← query fun s => s.getWorkspace task.workspaceId
  if workspace.isNone then
    pure (refuse "workspace_not_found" ("Workspace was not found for " ++ command ++ ".") none)
  else do
    let row ← query fun s => s.getAgentQueueTaskById task.queueItemId
    match row with
    | none => pure (refuse "task_not_found" ("Queue task was not found for " ++ command ++ ".")
        (some "queue.items.list"))
    | some row =>
        if row.workspaceId ≠ task.workspaceId then
          pure (refuse "task_workspace_mismatch"
            "Queue task does not belong to the requested workspace." (some "queue.items.list"))
        else go

/-- What a command decides on, each part read on its own. -/
structure OperatorView where
  aggregate : QueueItemAggregate
  evidence : Option AgentQueueWorkerEvidenceBundleRow
  reviewMessage : Option AgentQueueReviewMessageRow

/-- What the operator's commands decide on. -/
def readOperatorView (task : OperatorTask) : Service OperatorView := do
  let aggregate ← requireQueueItemAggregate task.workspaceId task.queueItemId
  let evidence ← query fun s =>
    s.getLatestAgentQueueWorkerEvidenceBundle task.workspaceId task.queueItemId
  let reviewMessage ← query fun s =>
    s.getLatestAgentQueueReviewMessage task.workspaceId task.queueItemId
  pure ⟨aggregate, evidence, reviewMessage⟩

/-- The view of a task of one store. -/
def SqliteStore.operatorView (s : SqliteStore) (task : OperatorTask) (row : AgentQueueTaskRow) :
    OperatorView :=
  { aggregate := s.queueItemAggregate task.workspaceId row
    evidence := s.getLatestAgentQueueWorkerEvidenceBundle task.workspaceId task.queueItemId
    reviewMessage := s.getLatestAgentQueueReviewMessage task.workspaceId task.queueItemId }

/-- A refusal of a decision, and the states it is based on. -/
structure OperatorCommandBlocker where
  blockerCode : String
  blockerMessage : String
  missingRequiredField : Option String
  taskId : String
  runId : Option String
  reviewMessageId : Option String
  evidenceBundleId : Option String
  ticketState : Option String
  workerRunState : Option String
  reviewState : Option String
  evidenceState : Option String
  validationState : Option String
  commitState : Option String
  dependencyState : Option String
  nextSuggestedCapability : Option String
  deriving DecidableEq

/-- A refusal before the aggregate is read. -/
def blockerWithoutAggregate (queueItemId code message : String)
    (missingRequiredField nextSuggestedCapability : Option String) : OperatorCommandBlocker :=
  { blockerCode := code
    blockerMessage := message
    missingRequiredField := missingRequiredField
    taskId := queueItemId
    runId := none
    reviewMessageId := none
    evidenceBundleId := none
    ticketState := none
    workerRunState := none
    reviewState := none
    evidenceState := none
    validationState := none
    commitState := none
    dependencyState := none
    nextSuggestedCapability := nextSuggestedCapability }

namespace OperatorView

variable (view : OperatorView)

/-- The run a refusal speaks of. -/
def runId : Option String :=
  (view.evidence.map (·.runId)).or (view.aggregate.latestRun.map (·.runId))

def evidenceBundleId : Option String := view.evidence.map (·.bundleId)

def reviewMessageId : Option String := view.reviewMessage.map (·.messageId)

/-- A refusal that shows the aggregate. -/
def blocker (queueItemId code message nextSuggestedCapability : String) :
    OperatorCommandBlocker :=
  { blockerCode := code
    blockerMessage := message
    missingRequiredField := none
    taskId := queueItemId
    runId := view.runId
    reviewMessageId := view.reviewMessageId
    evidenceBundleId := view.evidenceBundleId
    ticketState := some view.aggregate.ticketState.asStr
    workerRunState := some view.aggregate.workerRunState.asStr
    reviewState := some view.aggregate.reviewState.asStr
    evidenceState := some view.aggregate.evidenceState.asStr
    validationState := some view.aggregate.validationState.asStr
    commitState := some view.aggregate.commitState.asStr
    dependencyState := some view.aggregate.dependencyState.asStr
    nextSuggestedCapability := some nextSuggestedCapability }

end OperatorView

/-- A worker that never started, on a task that still waits for it. -/
def workerNotStarted (aggregate : QueueItemAggregate) : Bool :=
  aggregate.ticketState ∈ [QueueItemAggregateTicketState.queued, .blocked] ∧
    aggregate.workerRunState ∈
      [QueueItemAggregateWorkerRunState.notStarted, .starting, .unavailable]

/-- A worker that is still at work. -/
def workerStillRunning (aggregate : QueueItemAggregate) : Bool :=
  aggregate.workerRunState = .running ∨ aggregate.ticketState = .running

/-! ## What they do -/

theorem withOperatorTask_effect {R : Type} {task : OperatorTask} {command : String}
    {refuse : String → String → Option String → R} {go : Service R} {s t : SqliteStore}
    {r : Except WorkspaceServiceError R}
    (h : exec (withOperatorTask task command refuse go) s = (r, t)) :
    t = s ∨ exec go s = (r, t) := by
  rw [withOperatorTask, exec_query_bind] at h
  split at h
  · exact Or.inl (Prod.mk.inj h).2.symm
  rw [exec_query_bind] at h
  split at h
  · exact Or.inl (Prod.mk.inj h).2.symm
  split at h
  · exact Or.inl (Prod.mk.inj h).2.symm
  · exact Or.inr h

theorem readOnly_readOperatorView (task : OperatorTask) : (readOperatorView task).ReadOnly :=
  (readOnly_requireQueueItemAggregate _ _).bind fun _ => (readOnly_query _).bind fun _ =>
    (readOnly_query _).bind fun _ => readOnly_pure _

/-- **Without writes in between, the view is the view of one store.** -/
theorem readOperatorView_ok {task : OperatorTask} {view : OperatorView} {s t : SqliteStore}
    (h : exec (readOperatorView task) s = (.ok view, t)) :
    t = s ∧ ∃ row, s.getAgentQueueTask task.workspaceId task.queueItemId = some row ∧
      view = s.operatorView task row := by
  have hstate := (readOnly_readOperatorView task).state h
  rw [readOperatorView, exec_bind_ok] at h
  obtain ⟨aggregate, u, haggregate, h⟩ := h
  obtain ⟨row, hrow, rfl⟩ :=
    requireQueueItemAggregate_ok task.checkedWorkspace task.checkedItem haggregate
  obtain rfl := (readOnly_requireQueueItemAggregate _ _).state haggregate
  simp only [exec_query_bind, exec_pure, Prod.mk.injEq, Except.ok.injEq] at h
  exact ⟨hstate, row, hrow, h.1.symm⟩

/-! ## Beside other clients -/

section Beside

variable {assume : SqliteStore → Prop} {commit : SqliteStore → SqliteStore → Prop}

/-- A view whose parts were seen. -/
structure SeenView (assume : SqliteStore → Prop) (task : OperatorTask) (view : OperatorView) :
    Prop where
  aggregate : SeenAggregate assume task.workspaceId task.queueItemId view.aggregate
  reviewMessage : ∃ s, assume s ∧ view.reviewMessage =
    s.getLatestAgentQueueReviewMessage task.workspaceId task.queueItemId

theorem guarantees_withOperatorTask {R : Type} {post : R → Prop} (hread : ∀ s, commit s s)
    {task : OperatorTask} {command : String} {refuse : String → String → Option String → R}
    {go : Service R} (hrefuse : ∀ code message next, post (refuse code message next))
    (hgo : go.Guarantees assume commit post) :
    (withOperatorTask task command refuse go).Guarantees assume commit post := by
  rw [withOperatorTask]
  refine (guarantees_query_seen hread).bind fun workspace _ => ?_
  split
  · exact guarantees_pure (hrefuse _ _ _)
  refine (guarantees_query_seen hread).bind fun row _ => ?_
  split
  · exact guarantees_pure (hrefuse _ _ _)
  split
  · exact guarantees_pure (hrefuse _ _ _)
  · exact hgo

theorem guarantees_readOperatorView (hread : ∀ s, commit s s) (task : OperatorTask) :
    (readOperatorView task).Guarantees assume commit (SeenView assume task) := by
  rw [readOperatorView]
  refine (guarantees_requireQueueItemAggregate hread task.checkedWorkspace
    task.checkedItem).bind fun aggregate haggregate => ?_
  refine (guarantees_query_seen hread).bind fun evidence _ => ?_
  refine (guarantees_query_seen hread).bind fun message hmessage => ?_
  exact guarantees_pure ⟨haggregate, hmessage⟩

end Beside

end HobitQueue
