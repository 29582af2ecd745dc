import HobitQueue.Service.FinishChecks
import HobitQueue.Workflow.ReviewRecords

/-!
# Settled reviews

A review is settled when the same review comes to what is there: the message under the id in
the binding, the actions under their keys, and columns that the writes of a review do not
change any more.

## Main results

* `Settled.move`, `Settled.forRequest` — what leaves a review settled.
* `Settled.exec_request` — a request for a settled review is already applied.
* `executeReadyReviewStep_settles` — a review that goes through leaves a settled store.
-/

namespace HobitQueue.WorkflowReview

open Concurrent StoreProg Relational

/-- A review with what it found or wrote. -/
structure Review where
  resolved : ReviewStepResolution
  binding : Json
  message : AgentQueueReviewMessageRow
  createAction : AgentQueueWorkflowActionRow
  ackAction : AgentQueueWorkflowActionRow

def Review.ackKey (review : Review) : String :=
  reviewAckKey review.resolved review.message.messageId

def Review.columns (review : Review) : ReviewedColumns :=
  reviewedColumns review.resolved review.message review.createAction review.ackAction review.ackKey

/-- The same review, on its run as it is now. -/
def Review.onRun (review : Review) (run : AgentQueueWorkflowRunRow) : Review :=
  { review with resolved := { review.resolved with workflowRun := run } }

/-- The same review, for another request. -/
def Review.forRequest (review : Review) (request : NormalizedReviewStepRequest) : Review :=
  { review with resolved := { review.resolved with request := request } }

/-- **A review finds what it would write**: its message acknowledged, its actions completed and
its columns in the run. -/
structure Settled (s : SqliteStore) (review : Review) : Prop where
  reviewable : Reviewable s review.resolved review.binding
  existing : review.resolved.existingMessage = some review.message
  acknowledged : review.message.status = reviewMessageStatusAcknowledged
  messageId : jsonStringField review.binding "messageId" = some review.message.messageId
  mem : review.message ∈ s.agentQueueReviewMessages
  created : review.resolved.createAction = some review.createAction
  creation : RecordsCreation review.resolved review.message review.createAction
  acked : review.resolved.ackAction = some review.ackAction
  ack : RecordsAck review.resolved review.message review.ackAction
  paused : review.resolved.workflowRun.status = QueueWorkflowRunStatus.paused.asStr
  inReview : review.resolved.workflowRun.phase = workflowPhaseReview
  written : review.columns.WrittenIn review.resolved.workflowRun
  fit : review.columns.Fit

/-! ## Changes that leave a review settled -/

/-- What a review reads besides its run is there as before: the run links, the evidence and
the decisions are the same, the tasks are there, the acknowledged messages and the completed
actions of the run too. -/
structure Unmoved (ref : WorkflowRunRef) (s t : SqliteStore) : Prop where
  runLinks : t.agentQueueTaskRunLinks = s.agentQueueTaskRunLinks
  evidence : t.agentQueueWorkerEvidenceBundles = s.agentQueueWorkerEvidenceBundles
  completions : t.agentQueueCompletionDecisions = s.agentQueueCompletionDecisions
  failures : t.agentQueueFailureDecisions = s.agentQueueFailureDecisions
  tasks : ∀ id, (s.getAgentQueueTask ref.workspaceId id).isSome →
    (t.getAgentQueueTask ref.workspaceId id).isSome
  messages : ∀ m ∈ s.agentQueueReviewMessages, m.status = reviewMessageStatusAcknowledged →
    m ∈ t.agentQueueReviewMessages
  actions : ∀ a ∈ s.agentQueueWorkflowActions, a.workflowRunId = ref.workflowRunId →
    a.status = QueueWorkflowActionStatus.completed.asStr → a ∈ t.agentQueueWorkflowActions

/-- Two rows of a run are the same as far as a review reads them. -/
structure SameReviewedRun (run run' : AgentQueueWorkflowRunRow) : Prop where
  workflowId : run'.workflowId = run.workflowId
  status : run'.status = run.status
  phase : run'.phase = run.phase
  slotBindings : run'.slotBindingsJson = run.slotBindingsJson
  mutationRefs : run'.mutationRefsJson = run.mutationRefsJson
  idempotencyKeys : run'.idempotencyKeysJson = run.idempotencyKeysJson
  actionLogSummary : run'.actionLogSummaryJson = run.actionLogSummaryJson
  variablesJson : run'.variablesJson = run.variablesJson

section Settled

variable {s t : SqliteStore} {review : Review}

/-- A message is found under the id in a binding. -/
theorem boundMessage_of_mem {workspaceId taskId : String} {binding : Json}
    {message : AgentQueueReviewMessageRow} (hmem : message ∈ s.agentQueueReviewMessages)
    (hworkspace : message.workspaceId = workspaceId) (htask : message.queueTaskId = taskId)
    (hid : jsonStringField binding "messageId" = some message.messageId) :
    boundMessage (s.listAgentQueueReviewMessages workspaceId taskId) binding =
      some (some message) := by
  have hlisted : ∀ m, m ∈ s.listAgentQueueReviewMessages workspaceId taskId →
      m ∈ s.agentQueueReviewMessages := by
    intro m hm
    simp only [SqliteStore.listAgentQueueReviewMessages, Table.mem_select] at hm
    exact hm.1
  have hin : message ∈ s.listAgentQueueReviewMessages workspaceId taskId := by
    simp [SqliteStore.listAgentQueueReviewMessages, hmem, hworkspace, htask]
  rw [boundMessage, hid]
  cases hfind : (s.listAgentQueueReviewMessages workspaceId taskId).find?
    (·.messageId == message.messageId) with
  | none =>
    have hnot := List.find?_eq_none.1 hfind message hin
    simp at hnot
  | some found =>
    have hsame : found.messageId = message.messageId := by
      simpa using List.find?_some hfind
    have hclash : Clash found message :=
      ⟨("message_id", [message.messageId]), by simp [Row.keys, hsame], by simp [Row.keys]⟩
    obtain rfl := Table.eq_of_clash (hlisted found (List.mem_of_find?_eq_some hfind)) hmem hclash
    dsimp only
    rw [hfind, Option.map_some]

/-- An action is found under its key. -/
theorem getAgentQueueWorkflowActionByIdempotencyKey_of_mem {workflowRunId key : String}
    {action : AgentQueueWorkflowActionRow} (hmem : action ∈ s.agentQueueWorkflowActions)
    (hrun : action.workflowRunId = workflowRunId) (hkey : action.idempotencyKey = key) :
    s.getAgentQueueWorkflowActionByIdempotencyKey workflowRunId key = some action := by
  refine (Table.find_eq_some ?_).2 ⟨hmem, by simp [hrun, hkey]⟩
  intro a b ha hb
  simp only [Bool.and_eq_true, beq_iff_eq] at ha hb
  exact ⟨("workflow_run_id, idempotency_key", [workflowRunId, key]), by simp [Row.keys, ha],
    by simp [Row.keys, hb]⟩

/-- A completed action that was found under its key still is. -/
theorem Unmoved.action {ref : WorkflowRunRef} (h : Unmoved ref s t) {key : String}
    {action : AgentQueueWorkflowActionRow}
    (hfound : s.getAgentQueueWorkflowActionByIdempotencyKey ref.workflowRunId key = some action)
    (hcompleted : action.status = QueueWorkflowActionStatus.completed.asStr) :
    t.getAgentQueueWorkflowActionByIdempotencyKey ref.workflowRunId key = some action := by
  obtain ⟨hrun, hkey⟩ := key_of_found hfound
  exact getAgentQueueWorkflowActionByIdempotencyKey_of_mem
    (h.actions action (Table.mem_of_find hfound) hrun hcompleted) hrun hkey

theorem Settled.message_at (h : Settled s review) :
    review.message.workspaceId = review.resolved.request.workspaceId ∧
      review.message.queueTaskId = review.resolved.taskId := by
  have hbound := h.reviewable.message
  rw [h.existing] at hbound
  have hmem := mem_of_boundMessage hbound
  simp only [SqliteStore.listAgentQueueReviewMessages, Table.mem_select, Bool.and_eq_true,
    beq_iff_eq] at hmem
  exact hmem.2

/-- **A settled review stays settled** while what it reads is there as before. -/
theorem Settled.move (h : Settled s review)
    (hmove : Unmoved review.resolved.request.toWorkflowRunRef s t)
    {run : AgentQueueWorkflowRunRow}
    (hrun : t.getAgentQueueWorkflowRun review.resolved.request.workspaceId
      review.resolved.request.workflowRunId = some run)
    (hsame : SameReviewedRun review.resolved.workflowRun run) :
    Settled t (review.onRun run) := by
  have hr := h.reviewable
  have hcolumns : (review.onRun run).columns = review.columns := by
    simp only [Review.columns, reviewedColumns, Review.onRun, hsame.mutationRefs,
      hsame.idempotencyKeys, hsame.actionLogSummary, hsame.variablesJson]
    rfl
  have hmem := hmove.messages review.message h.mem h.acknowledged
  obtain ⟨hworkspace, htask⟩ := h.message_at
  have hcreate : review.resolved.createAction = t.getAgentQueueWorkflowActionByIdempotencyKey
      review.resolved.request.workflowRunId review.resolved.createIdempotencyKey := by
    have hfound := hr.createAction.symm.trans h.created
    rw [h.created, hmove.action hfound h.creation.completed]
  have hack : review.resolved.ackAction = review.resolved.existingMessage.bind fun m =>
      t.getAgentQueueWorkflowActionByIdempotencyKey review.resolved.request.workflowRunId
        (ackReviewIdempotencyKey review.resolved.request.workflowRunId
          review.resolved.request.slot m.messageId) := by
    have hfound := hr.ackAction.symm.trans h.acked
    rw [h.existing, Option.bind_some] at hfound ⊢
    rw [h.acked, hmove.action hfound h.ack.completed]
  refine {
    reviewable := {
      run := hrun
      workflow := hsame.workflowId ▸ hr.workflow
      notCompleted := hsame.status ▸ hr.notCompleted
      notCancelled := hsame.status ▸ hr.notCancelled
      slotBindings := hsame.slotBindings ▸ hr.slotBindings
      bound := hr.bound
      taskId := hr.taskId
      task := hmove.tasks _ hr.task
      evidence := ?_
      evidenceTask := hr.evidenceTask
      runId := hr.runId
      boundRun := hr.boundRun
      runLink := ?_
      runLinkTask := hr.runLinkTask
      evidenceLink := hr.evidenceLink
      notCompletedTask := ?_
      notFailedTask := ?_
      notStarted := ?_
      message := ?_
      ackable := hr.ackable
      retry := ?_
      status := hsame.status ▸ hr.status
      phase := hsame.phase ▸ hr.phase
      retryable := hsame.status ▸ hr.retryable
      createKey := hr.createKey
      createRefs := hr.createRefs
      createAction := hcreate
      createFits := hr.createFits
      ackKey := hr.ackKey
      ackRefs := hr.ackRefs
      ackAction := hack
      ackFits := hr.ackFits
      grant := hr.grant }
    existing := h.existing
    acknowledged := h.acknowledged
    messageId := h.messageId
    mem := hmem
    created := h.created
    creation := ⟨h.creation.completed, h.creation.target, h.creation.refs, h.creation.names⟩
    acked := h.acked
    ack := ⟨h.ack.completed, h.ack.target, h.ack.refs⟩
    paused := hsame.status.trans h.paused
    inReview := hsame.phase.trans h.inReview
    written := ?_
    fit := hcolumns ▸ h.fit }
  · have hevidence := hr.evidence
    simp only [boundEvidence, SqliteStore.getAgentQueueWorkerEvidenceBundleById,
      SqliteStore.getLatestAgentQueueWorkerEvidenceBundle] at hevidence ⊢
    rw [hmove.evidence]
    exact hevidence
  · have hlink := hr.runLink
    simp only [SqliteStore.getAgentQueueTaskRunLinkByRunId] at hlink ⊢
    rw [hmove.runLinks]
    exact hlink
  · have hnone := hr.notCompletedTask
    simp only [SqliteStore.getLatestAgentQueueCompletionDecision] at hnone ⊢
    rw [hmove.completions]
    exact hnone
  · have hnone := hr.notFailedTask
    simp only [SqliteStore.getLatestAgentQueueFailureDecision] at hnone ⊢
    rw [hmove.failures]
    exact hnone
  · have hnot := hr.notStarted
    simp only [downstreamHasStarted, SqliteStore.getLatestAgentQueueTaskRunLink] at hnot ⊢
    rw [hmove.runLinks]
    exact hnot
  · exact (boundMessage_of_mem hmem hworkspace htask h.messageId).trans
      (congrArg some h.existing.symm)
  · intro hfailed
    have hpaused : (review.onRun run).resolved.workflowRun.status =
        QueueWorkflowRunStatus.paused.asStr := hsame.status.trans h.paused
    rw [hpaused] at hfailed
    exact absurd hfailed (by decide)
  · have hwritten := h.written
    rw [hcolumns]
    exact ⟨hsame.slotBindings.trans hwritten.slotBindings,
      hsame.mutationRefs.trans hwritten.mutationRefs,
      hsame.idempotencyKeys.trans hwritten.idempotencyKeys,
      hsame.actionLogSummary.trans hwritten.actionLogSummary,
      hsame.variablesJson.trans hwritten.variablesJson⟩

/-- **A settled review is settled for every request of the same slot of the run**, by whomever
and under whichever valid grant. -/
theorem Settled.forRequest (h : Settled s review) {request : NormalizedReviewStepRequest}
    (href : request.toWorkflowRunRef = review.resolved.request.toWorkflowRunRef)
    (hslot : request.slot = review.resolved.request.slot)
    (hgrant : freshReviewGrantBlocker request.grantSummary = none) :
    Settled s (review.forRequest request) := by
  obtain ⟨⟨⟨ref, slot, actorId, grantSummary⟩, run, slotBindings, taskId, runId, evidence, runLink,
    existingMessage, createAction, ackAction, createKey, ackKey, createRefs, ackRefs, retryable⟩,
    binding, message, created, acked⟩ := review
  obtain ⟨ref', slot', actorId', grantSummary'⟩ := request
  dsimp only at href hslot
  subst href hslot
  exact {
    reviewable := { h.reviewable with grant := hgrant }
    existing := h.existing
    acknowledged := h.acknowledged
    messageId := h.messageId
    mem := h.mem
    created := h.created
    creation := ⟨h.creation.completed, h.creation.target, h.creation.refs, h.creation.names⟩
    acked := h.acked
    ack := ⟨h.ack.completed, h.ack.target, h.ack.refs⟩
    paused := h.paused
    inReview := h.inReview
    written := h.written
    fit := h.fit }

end Settled

/-! ## A review of a settled store -/

/-- The store after a review that found everything: its run and its workspace are written. -/
def Review.rerun (review : Review) (d : Draws) (s : SqliteStore) : SqliteStore :=
  let stored := withReviewedRun d review.resolved.request.toWorkflowRunRef review.columns s
  { stored with
    workspaces := stored.workspaces.update (·.id == review.resolved.request.workspaceId)
      (fun r => { r with updatedAt := d.timestamp 4 }) fun _ => rfl }

section Again

variable {s : SqliteStore} {review : Review}

theorem Settled.createReview (h : Settled s review) (d : Draws) :
    exec (createReview d review.resolved) s = (.ok (review.message, review.createAction), s) := by
  obtain ⟨refs, hrefs, hmatch⟩ := h.creation.refs
  have hsame : reviewCreateResultRefs review.createAction review.resolved.evidence.bundleId
      review.message.messageId review.resolved.runId review.resolved.existingMessage.isSome =
      refs := reviewCreateResultRefs_of_match h.creation.completed hrefs hmatch
  rw [WorkflowReview.createReview]
  refine exec_bind_ok.2 ⟨review.createAction, s, ?_, ?_⟩
  · rw [h.created, openReviewAction, if_pos h.creation.completed, exec_pure]
  refine exec_bind_ok.2 ⟨review.message, s, ?_, ?_⟩
  · rw [createdMessage, h.existing, exec_pure]
  refine exec_bind_ok.2 ⟨review.createAction, s, ?_, rfl⟩
  rw [completeReviewAction, if_pos h.creation.completed, hsame, if_neg (not_not.2 hrefs), exec_pure]

theorem Settled.ackReview (h : Settled s review) (d : Draws) :
    exec (ackReview d review.resolved review.message review.ackKey) s =
      (.ok (review.message, review.ackAction), s) := by
  obtain ⟨refs, hrefs, hmatch⟩ := h.ack.refs
  have hsame : ∀ had, reviewAckResultRefs review.ackAction review.message.messageId had = refs :=
    fun _ => reviewAckResultRefs_of_match h.ack.completed hrefs hmatch
  rw [WorkflowReview.ackReview]
  refine exec_bind_ok.2 ⟨review.ackAction, s, ?_, ?_⟩
  · rw [h.acked, openReviewAction, if_pos h.ack.completed, exec_pure]
  refine exec_bind_ok.2 ⟨review.message, s, ?_, ?_⟩
  · rw [acknowledgedMessage, if_pos h.acknowledged, exec_pure]
  refine exec_bind_ok.2 ⟨review.ackAction, s, ?_, rfl⟩
  rw [completeReviewAction, if_pos h.ack.completed, hsame, if_neg (not_not.2 hrefs), exec_pure]

/-- **A review of a settled store is already applied**: it answers with what is there and
writes the run and the workspace only. -/
theorem Settled.again (h : Settled s review) (d : Draws) :
    exec (executeReadyReviewStep d review.resolved) s =
      (.ok (reviewAnswer review.resolved review.message review.createAction review.ackAction
        review.ackKey (reviewedRun d review.columns review.resolved.workflowRun) true true),
        review.rerun d s) := by
  have hkey : review.resolved.ackIdempotencyKey.getD (ackReviewIdempotencyKey
      review.resolved.request.workflowRunId review.resolved.request.slot
      review.message.messageId) = review.ackKey := by
    rw [h.reviewable.ackKey, h.existing]
    rfl
  rw [executeReadyReviewStep]
  refine exec_bind_ok.2 ⟨_, s, h.createReview d, ?_⟩
  dsimp only
  rw [hkey]
  refine exec_bind_ok.2 ⟨_, s, h.ackReview d, ?_⟩
  refine exec_bind_ok.2 ⟨_, _, (storeReviewedRun_ok h.reviewable.run).2 ⟨h.fit, rfl, rfl⟩, ?_⟩
  refine exec_bind_ok.2 ⟨(), review.rerun d s, exec_execute_ok.2 rfl, ?_⟩
  rw [exec_pure, h.existing, h.acknowledged]
  rfl

theorem Settled.rerun (h : Settled s review) (d : Draws) :
    Settled (review.rerun d s)
      (review.onRun (reviewedRun d review.columns review.resolved.workflowRun)) := by
  have hmove : Unmoved review.resolved.request.toWorkflowRunRef s (review.rerun d s) :=
    ⟨rfl, rfl, rfl, rfl, fun _ hid => hid, fun _ hm _ => hm, fun _ ha _ _ => ha⟩
  refine h.move hmove (getAgentQueueWorkflowRun_withReviewedRun h.reviewable.run) ?_
  exact ⟨rfl, h.paused.symm, h.inReview.symm, h.written.slotBindings.symm,
    h.written.mutationRefs.symm, h.written.idempotencyKeys.symm, h.written.actionLogSummary.symm,
    h.written.variablesJson.symm⟩

end Again

/-! ## A review that goes through -/

/-- The answer to a review of a settled store. -/
def Review.answer (review : Review) (d : Draws) : QueueWorkflowReviewStepResult :=
  reviewAnswer review.resolved review.message review.createAction review.ackAction review.ackKey
    (reviewedRun d review.columns review.resolved.workflowRun) true true

/-- **A request for a settled review is already applied.** -/
theorem Settled.exec_request {s : SqliteStore} {review : Review} (h : Settled s review)
    {request : QueueWorkflowReviewStepRequest}
    (hnormalize : normalizeReviewStepRequest request = .ok review.resolved.request) (d : Draws) :
    exec (executeQueueWorkflowReviewStep d request) s =
      (.ok (review.answer d), review.rerun d s) := by
  rw [executeQueueWorkflowReviewStep]
  refine exec_withImmediateTransaction_ok ?_
  rw [exec_query_bind, h.reviewable.resolve hnormalize]
  exact h.again d

/-- What an answer says of a review. -/
structure Reports (answer : QueueWorkflowReviewStepResult) (review : Review) : Prop where
  messageId : answer.messageId = some review.message.messageId
  createAction : answer.createAction = some review.createAction
  ackAction : answer.ackAction = some review.ackAction
  binding : answer.binding = (reviewAnswer review.resolved review.message review.createAction
    review.ackAction review.ackKey review.resolved.workflowRun true true).binding

/-- An answer that reports a review reports it for every request of the same slot. -/
theorem Reports.forRequest {answer : QueueWorkflowReviewStepResult} {review : Review}
    (h : Reports answer review) {request : NormalizedReviewStepRequest}
    (href : request.toWorkflowRunRef = review.resolved.request.toWorkflowRunRef)
    (hslot : request.slot = review.resolved.request.slot) :
    Reports answer (review.forRequest request) := by
  obtain ⟨⟨⟨ref, slot, actorId, grantSummary⟩, run, slotBindings, taskId, runId, evidence, runLink,
    existingMessage, createAction, ackAction, createKey, ackKey, createRefs, ackRefs, retryable⟩,
    binding, message, created, acked⟩ := review
  obtain ⟨ref', slot', actorId', grantSummary'⟩ := request
  dsimp only at href hslot
  subst href hslot
  exact ⟨h.messageId, h.createAction, h.ackAction, h.binding⟩

section First

variable {s t : SqliteStore} {d : Draws} {resolved : ReviewStepResolution} {binding : Json}
  {answer : QueueWorkflowReviewStepResult}

/-- What a review writes, table by table. -/
theorem executeReadyReviewStep_writes (h : Reviewable s resolved binding) (hclean : CleanIds s)
    (hexec : exec (executeReadyReviewStep d resolved) s = (.ok answer, t)) :
    ∃ (created message : AgentQueueReviewMessageRow)
      (createAction ackAction : AgentQueueWorkflowActionRow) (u : SqliteStore),
      (∃ actions messages, u = { s with
          agentQueueWorkflowActions := actions, agentQueueReviewMessages := messages } ∧
        ∃ new : Option AgentQueueReviewMessageRow, messages.rows.map (·.messageId) =
          (s.agentQueueReviewMessages.rows ++ new.toList).map (·.messageId)) ∧
      IsReviewMessage u resolved message ∧
      message.status = reviewMessageStatusAcknowledged ∧
      u.getAgentQueueWorkflowActionByIdempotencyKey resolved.request.workflowRunId
        resolved.createIdempotencyKey = some createAction ∧
      RecordsCreation resolved message createAction ∧
      u.getAgentQueueWorkflowActionByIdempotencyKey resolved.request.workflowRunId
        (reviewAckKey resolved message.messageId) = some ackAction ∧
      RecordsAck resolved message ackAction ∧
      (reviewedColumns resolved message createAction ackAction
        (reviewAckKey resolved message.messageId)).Fit ∧
      t = Review.rerun ⟨resolved, binding, message, createAction, ackAction⟩ d u ∧
      answer = reviewAnswer resolved message createAction ackAction
        (reviewAckKey resolved message.messageId)
        (reviewedRun d (reviewedColumns resolved message createAction ackAction
          (reviewAckKey resolved message.messageId)) resolved.workflowRun)
        resolved.existingMessage.isSome (created.status == reviewMessageStatusAcknowledged) := by
  rw [executeReadyReviewStep] at hexec
  obtain ⟨⟨created, createAction⟩, u, hcreate, hexec⟩ := exec_bind_ok.1 hexec
  obtain ⟨⟨actions, messages, hu, new, hrows⟩, hmessage, hexisting, hcreateFound, hcreateOthers,
    hcreation⟩ := createReview_ok h hclean hcreate
  have hkey : resolved.ackIdempotencyKey.getD (ackReviewIdempotencyKey
      resolved.request.workflowRunId resolved.request.slot created.messageId) =
      reviewAckKey resolved created.messageId := by
    rw [h.ackKey]
    cases hm : resolved.existingMessage with
    | none => rfl
    | some m =>
      obtain rfl := hexisting m hm
      rfl
  have hrefs : resolved.ackTargetRefs.getD
        (ackTargetRefs resolved.request created.messageId resolved.taskId) =
      ackTargetRefs resolved.request created.messageId resolved.taskId := by
    rw [h.ackRefs]
    cases hm : resolved.existingMessage with
    | none => rfl
    | some m =>
      obtain rfl := hexisting m hm
      rfl
  have hackAction : ∀ a ∈ resolved.ackAction,
      a.targetRefsJson =
          some (.value (ackTargetRefs resolved.request created.messageId resolved.taskId)) ∧
        u.getAgentQueueWorkflowActionByIdempotencyKey resolved.request.workflowRunId
          (reviewAckKey resolved created.messageId) = some a := by
    intro a ha
    rw [h.ackAction] at ha
    cases hm : resolved.existingMessage with
    | none =>
      rw [hm] at ha
      cases ha
    | some m =>
      obtain rfl := hexisting m hm
      rw [hm, Option.bind_some] at ha
      have hne : reviewAckKey resolved m.messageId ≠ resolved.createIdempotencyKey := by
        rw [h.createKey]
        exact (createKey_ne_ackKey _ _ _ _ _ _).symm
      refine ⟨h.ackFits m hm a ?_, (hcreateOthers _ hne).trans ha⟩
      rw [h.ackAction, hm]
      exact ha
  dsimp only at hexec
  rw [hkey] at hexec
  obtain ⟨⟨message, ackAction⟩, v, hack, hexec⟩ := exec_bind_ok.1 hexec
  obtain ⟨⟨actions', messages', hv, hids⟩, hmessage', hid, hstatus, hackFound, hackOthers,
    hrecorded⟩ := ackReview_ok hmessage hrefs hackAction hack
  dsimp only at hexec
  obtain ⟨row, w, hstore, hexec⟩ := exec_bind_ok.1 hexec
  have hrun : v.getAgentQueueWorkflowRun resolved.request.workspaceId
      resolved.request.workflowRunId = some resolved.workflowRun := by
    rw [hv, hu]
    exact h.run
  obtain ⟨hfit, rfl, rfl⟩ := (storeReviewedRun_ok hrun).1 hstore
  obtain ⟨_, x, htouch, hexec⟩ := exec_bind_ok.1 hexec
  obtain ⟨rfl, rfl⟩ : _ = answer ∧ x = t := by
    simpa only [exec_pure, Prod.mk.injEq, Except.ok.injEq] using hexec
  rw [← hid] at hfit hackFound
  refine ⟨created, message, createAction, ackAction, v, ⟨actions', messages', ?_, new, ?_⟩,
    hmessage', hstatus, ?_, ⟨hcreation.completed, hcreation.target, hid ▸ hcreation.refs,
      hid ▸ hcreation.names⟩, hackFound, hrecorded, hfit, ?_, ?_⟩
  · rw [hv, hu]
  · rw [hids, hu, hrows]
  · have hne : resolved.createIdempotencyKey ≠ reviewAckKey resolved created.messageId := by
      rw [h.createKey]
      exact createKey_ne_ackKey _ _ _ _ _ _
    exact (hackOthers _ hne).trans hcreateFound
  · rw [Review.rerun, Review.columns, Review.ackKey, hid]
    exact ((Prod.mk.inj (Except.ok.inj (exec_execute_ok.1 htouch))).2).symm
  · rw [hid]

/-- The review as it is found afterwards. -/
def afterReview (d : Draws) (resolved : ReviewStepResolution) (members : List (String × Json))
    (message : AgentQueueReviewMessageRow) (createAction ackAction : AgentQueueWorkflowActionRow) :
    Review :=
  let ackKey := reviewAckKey resolved message.messageId
  let columns := reviewedColumns resolved message createAction ackAction ackKey
  { resolved := { resolved with
      workflowRun := reviewedRun d columns resolved.workflowRun
      slotBindings := columns.slotBindings
      existingMessage := some message
      createAction := some createAction
      ackAction := some ackAction
      ackIdempotencyKey := some ackKey
      ackTargetRefs := some (ackTargetRefs resolved.request message.messageId resolved.taskId)
      retryableFailedReviewBeforeMutation := false }
    binding := .obj (Json.insertMembers (reviewMembers message createAction ackAction
      resolved.createIdempotencyKey ackKey) members)
    message := message
    createAction := createAction
    ackAction := ackAction }

theorem columns_afterReview (d : Draws) (resolved : ReviewStepResolution)
    (members : List (String × Json)) (message : AgentQueueReviewMessageRow)
    (createAction ackAction : AgentQueueWorkflowActionRow) :
    (afterReview d resolved members message createAction ackAction).columns =
      reviewedColumns resolved message createAction ackAction
        (reviewAckKey resolved message.messageId) :=
  reviewedColumns_again ⟨rfl, rfl, rfl⟩ rfl ⟨rfl, rfl, rfl, rfl, rfl⟩

/-- **What a review writes is settled.** -/
theorem settled_afterReview {u : SqliteStore} {members : List (String × Json)}
    {message : AgentQueueReviewMessageRow} {createAction ackAction : AgentQueueWorkflowActionRow}
    (h : Reviewable s resolved (.obj members))
    (hu : ∃ actions messages, u = { s with
      agentQueueWorkflowActions := actions, agentQueueReviewMessages := messages })
    (hmessage : IsReviewMessage u resolved message)
    (hacknowledged : message.status = reviewMessageStatusAcknowledged)
    (hcreated : u.getAgentQueueWorkflowActionByIdempotencyKey resolved.request.workflowRunId
      resolved.createIdempotencyKey = some createAction)
    (hcreation : RecordsCreation resolved message createAction)
    (hacked : u.getAgentQueueWorkflowActionByIdempotencyKey resolved.request.workflowRunId
      (reviewAckKey resolved message.messageId) = some ackAction)
    (hack : RecordsAck resolved message ackAction)
    (hfit : (reviewedColumns resolved message createAction ackAction
      (reviewAckKey resolved message.messageId)).Fit) :
    Settled (Review.rerun ⟨resolved, .obj members, message, createAction, ackAction⟩ d u)
      (afterReview d resolved members message createAction ackAction) := by
  obtain ⟨actions, messages, rfl⟩ := hu
  have hcolumns := columns_afterReview d resolved members message createAction ackAction
  have hid : jsonStringField (afterReview d resolved members message createAction
        ackAction).binding "messageId" = some message.messageId := messageId_reviewed hmessage.clean
  have hpaused : QueueWorkflowRunStatus.paused.asStr ≠ QueueWorkflowRunStatus.completed.asStr ∧
      QueueWorkflowRunStatus.paused.asStr ≠ QueueWorkflowRunStatus.cancelled.asStr ∧
      QueueWorkflowRunStatus.paused.asStr ≠ QueueWorkflowRunStatus.failed.asStr ∧
      QueueWorkflowRunStatus.paused.asStr ∈ ["created", "running", "paused", "blocked", "failed"] ∧
      workflowPhaseReview ∈ ["worker_evidence", "review", "decision", "finalization"] := by
    decide
  refine {
    reviewable := {
      run := getAgentQueueWorkflowRun_withReviewedRun h.run
      workflow := h.workflow
      notCompleted := hpaused.1
      notCancelled := hpaused.2.1
      slotBindings := rfl
      bound := ?_
      taskId := (jsonStringField_reviewed (by decide)).trans h.taskId
      task := h.task
      evidence := ?_
      evidenceTask := h.evidenceTask
      runId := h.runId
      boundRun := ?_
      runLink := h.runLink
      runLinkTask := h.runLinkTask
      evidenceLink := h.evidenceLink
      notCompletedTask := h.notCompletedTask
      notFailedTask := h.notFailedTask
      notStarted := (downstreamHasStarted_updateEntry _).trans h.notStarted
      message := boundMessage_of_mem hmessage.mem hmessage.workspace hmessage.task hid
      ackable := ?_
      retry := fun hfailed => absurd hfailed hpaused.2.2.1
      status := hpaused.2.2.2.1
      phase := hpaused.2.2.2.2
      retryable := rfl
      createKey := h.createKey
      createRefs := h.createRefs
      createAction := hcreated.symm
      createFits := ?_
      ackKey := rfl
      ackRefs := rfl
      ackAction := hacked.symm
      ackFits := ?_
      grant := h.grant }
    existing := rfl
    acknowledged := hacknowledged
    messageId := hid
    mem := hmessage.mem
    created := rfl
    creation := ⟨hcreation.completed, hcreation.target, hcreation.refs, hcreation.names⟩
    acked := rfl
    ack := ⟨hack.completed, hack.target, hack.refs⟩
    paused := rfl
    inReview := rfl
    written := hcolumns ▸ ⟨rfl, rfl, rfl, rfl, rfl⟩
    fit := hcolumns ▸ hfit }
  · have hentry : (Json.updateEntry resolved.request.slot (Json.insertMembers (reviewMembers message
        createAction ackAction resolved.createIdempotencyKey
        (reviewAckKey resolved message.messageId))) resolved.slotBindings).lookup
        resolved.request.slot = some (.obj (Json.insertMembers (reviewMembers message createAction
          ackAction resolved.createIdempotencyKey (reviewAckKey resolved message.messageId))
          members)) := by
      rw [Json.updateEntry, Json.lookup_insertMember_self, h.bound]
      rfl
    exact hentry
  · have hevidence := h.evidence
    have hbundle : jsonStringField (afterReview d resolved members message createAction
        ackAction).binding "evidenceBundleId" = jsonStringField (.obj members) "evidenceBundleId" :=
      jsonStringField_reviewed (by decide)
    rw [boundEvidence] at hevidence ⊢
    rw [hbundle]
    exact hevidence
  · intro id hrun
    exact h.boundRun id ((jsonStringField_reviewed (by decide)).symm.trans hrun)
  · rintro m ⟨⟩
    exact hmessage.ackable
  · rintro action ⟨⟩
    exact ⟨hcreation.target, fun id hnamed => ⟨message, rfl, (hcreation.names id hnamed).symm⟩⟩
  · rintro m ⟨⟩ action ⟨⟩
    exact hack.target

/-- **A review that goes through leaves a settled store**, and its answer says what is there. -/
theorem executeReadyReviewStep_settles (h : Reviewable s resolved binding) (hclean : CleanIds s)
    (hexec : exec (executeReadyReviewStep d resolved) s = (.ok answer, t)) :
    ∃ review, Settled t review ∧ review.resolved.request = resolved.request ∧
      Reports answer review := by
  obtain ⟨created, message, createAction, ackAction, u, ⟨actions, messages, hu, -⟩, hmessage,
    hacknowledged, hcreated, hcreation, hacked, hack, hfit, rfl, rfl⟩ :=
    executeReadyReviewStep_writes h hclean hexec
  cases binding with
  | obj members =>
    exact ⟨afterReview d resolved members message createAction ackAction,
      settled_afterReview h ⟨actions, messages, hu⟩ hmessage hacknowledged hcreated hcreation hacked
        hack hfit, rfl, rfl, rfl, rfl, rfl⟩
  | null | bool | num | str | arr => exact absurd h.taskId (by simp [jsonStringField, Json.field])

end First

end HobitQueue.WorkflowReview
