import HobitQueue.Workflow.Resolution

/-!
# What the checks of a review require

A request for a review goes on when every check of the cascade passes. Each check is a
condition on the store, the run and the binding; the resolution is determined by them.

## Main results

* `resolveQueueWorkflowReviewStep_eq_ok` — the cascade passes exactly under them.
-/

namespace HobitQueue.WorkflowReview

/-- The evidence a binding names, or the latest one of its task. -/
def boundEvidence (s : SqliteStore) (workspaceId taskId : String) (binding : Json) :
    Option AgentQueueWorkerEvidenceBundleRow :=
  match jsonStringField binding "evidenceBundleId" with
  | some bundleId => s.getAgentQueueWorkerEvidenceBundleById workspaceId bundleId
  | none => s.getLatestAgentQueueWorkerEvidenceBundle workspaceId taskId

/-- The message a binding names, or the latest one when it names none; nothing when there is
none under the name. -/
def boundMessage (messages : List AgentQueueReviewMessageRow) (binding : Json) :
    Option (Option AgentQueueReviewMessageRow) :=
  match jsonStringField binding "messageId" with
  | none => some messages.head?
  | some messageId => (messages.find? (·.messageId == messageId)).map some

section Checks

variable {s : SqliteStore} {request : NormalizedReviewStepRequest}
  {run : AgentQueueWorkflowRunRow} {slotBindings : List (String × Json)} {taskId : String}
  {binding : Json}

theorem checkReviewedRun_eq_ok :
    checkReviewedRun request run = .ok () ↔
      run.workflowId ∈ ["dependency_acceptance_smoke", "dependency_failure_smoke"] ∧
        run.status ≠ QueueWorkflowRunStatus.completed.asStr ∧
        run.status ≠ QueueWorkflowRunStatus.cancelled.asStr := by
  rw [checkReviewedRun, refuseIf_bind_ok, refuseIf_ok, Bool.or_eq_false_iff,
    decide_eq_false_iff_not, not_not, beq_eq_false_iff_ne, beq_eq_false_iff_ne]

theorem reviewedBinding_eq_ok :
    reviewedBinding s request run slotBindings = .ok (binding, taskId) ↔
      slotBindings.lookup request.slot = some binding ∧
        jsonStringField binding "taskId" = some taskId ∧
        (s.getAgentQueueTask request.workspaceId taskId).isSome := by
  rw [reviewedBinding]
  cases slotBindings.lookup request.slot with
  | none => simp
  | some found =>
    dsimp only
    cases hid : jsonStringField found "taskId" with
    | none =>
      simp only [reduceCtorEq, Option.some.injEq, false_iff, not_and]
      rintro rfl hsome
      rw [hid] at hsome
      cases hsome
    | some id =>
      simp only [refuseIf_bind_ok, pure, Except.pure, Except.ok.injEq, Prod.mk.injEq,
        Option.some.injEq]
      constructor
      · rintro ⟨htask, rfl, rfl⟩
        exact ⟨rfl, hid, by simpa using htask⟩
      · rintro ⟨rfl, hsome, htask⟩
        obtain rfl := Option.some.inj (hid.symm.trans hsome)
        exact ⟨by simpa using htask, rfl, rfl⟩

theorem evidenceForBinding_eq :
    evidenceForBinding s request run taskId binding =
      (match boundEvidence s request.workspaceId taskId binding with
      | none => .error (refuse request run (workflowBlocker "evidence_missing"
          "Queue workflow review requires durable worker evidence." (some "evidenceBundleId")))
      | some evidence => do
          refuseIf (evidence.queueTaskId != taskId) (.conflict run none none
            (factConflict "review_evidence_task_mismatch"
              "Queue workflow review evidence belongs to a different Queue task."
              (some evidence.queueTaskId) (some taskId))
            (workflowBlocker "review_evidence_task_mismatch"
              "Queue workflow review evidence belongs to a different Queue task."
              (some "evidenceBundleId")))
          pure evidence) := rfl

theorem evidenceForBinding_eq_ok {evidence : AgentQueueWorkerEvidenceBundleRow} :
    evidenceForBinding s request run taskId binding = .ok evidence ↔
      boundEvidence s request.workspaceId taskId binding = some evidence ∧
        evidence.queueTaskId = taskId := by
  rw [evidenceForBinding_eq]
  cases boundEvidence s request.workspaceId taskId binding with
  | none => simp
  | some found =>
    simp only [refuseIf_bind_ok, pure, Except.pure, Except.ok.injEq, Option.some.injEq,
      bne_eq_false_iff_eq]
    constructor
    · rintro ⟨htask, rfl⟩
      exact ⟨rfl, htask⟩
    · rintro ⟨rfl, htask⟩
      exact ⟨htask, rfl⟩

theorem any_ne_eq_false {o : Option String} {b : String} :
    (o.any (· != b)) = false ↔ ∀ a ∈ o, a = b := by
  cases o <;> simp

theorem runLinkOfEvidence_eq_ok {evidence : AgentQueueWorkerEvidenceBundleRow}
    {runLink : AgentQueueTaskRunLinkRow} :
    runLinkOfEvidence s request run taskId binding evidence = .ok runLink ↔
      (∀ id ∈ jsonStringField binding "runId", id = evidence.runId) ∧
        s.getAgentQueueTaskRunLinkByRunId request.workspaceId evidence.runId = some runLink ∧
        runLink.queueTaskId = taskId ∧ ∀ id ∈ evidence.runLinkId, id = runLink.linkId := by
  rw [runLinkOfEvidence, refuseIf_bind_ok, any_ne_eq_false]
  cases s.getAgentQueueTaskRunLinkByRunId request.workspaceId evidence.runId with
  | none => simp
  | some found =>
    simp only [refuseIf_bind_ok, pure, Except.pure, Except.ok.injEq, Option.some.injEq,
      bne_eq_false_iff_eq, any_ne_eq_false]
    constructor
    · rintro ⟨hbound, htask, hlink, rfl⟩
      exact ⟨hbound, rfl, htask, hlink⟩
    · rintro ⟨hbound, rfl, htask, hlink⟩
      exact ⟨hbound, htask, hlink, rfl⟩

theorem checkUndecided_eq_ok :
    checkUndecided s request run taskId slotBindings = .ok () ↔
      s.getLatestAgentQueueCompletionDecision request.workspaceId taskId = none ∧
        s.getLatestAgentQueueFailureDecision request.workspaceId taskId = none ∧
        downstreamHasStarted s request.workspaceId slotBindings request.slot = false := by
  rw [checkUndecided, refuseIf_bind_ok, refuseIf_ok, Bool.or_eq_false_iff, and_assoc,
    Option.isSome_eq_false_iff, Option.isSome_eq_false_iff, Option.isNone_iff_eq_none,
    Option.isNone_iff_eq_none]

/-- A message may be reviewed: it belongs to the run, and is created or acknowledged. -/
structure Ackable (runId : String) (message : AgentQueueReviewMessageRow) : Prop where
  run : ∀ id ∈ message.runId, id = runId
  status : message.status = reviewMessageStatusCreated ∨
    message.status = reviewMessageStatusAcknowledged

/-- What is asked of a message that was found. -/
theorem foundReviewMessage_eq_ok {runId : String} {message : Option AgentQueueReviewMessageRow}
    (found : Option AgentQueueReviewMessageRow) :
    (match found with
      | none => pure none
      | some message => do
          refuseIf (message.runId.any (· != runId)) (.conflict run none none
            (factConflict "review_message_run_mismatch"
              "Existing Queue review message is bound to a different runId." message.runId
              (some runId))
            (workflowBlocker "review_message_run_mismatch"
              "Existing Queue review message is bound to a different runId."
              (some "messageId")))
          refuseIf (message.status != reviewMessageStatusCreated &&
              message.status != reviewMessageStatusAcknowledged)
            (refuse request run (workflowBlocker "review_message_status_not_ackable"
              "Existing Queue review message is not in an ACKable status." (some "messageId")))
          pure (some message) : Except ReviewStepRefusal _) = .ok message ↔
      found = message ∧ ∀ m ∈ message, Ackable runId m := by
  cases found with
  | none =>
    simp only [pure, Except.pure, Except.ok.injEq]
    constructor
    · rintro rfl
      exact ⟨rfl, by simp⟩
    · exact fun h => h.1
  | some m =>
    simp only [refuseIf_bind_ok, pure, Except.pure, Except.ok.injEq, any_ne_eq_false]
    constructor
    · rintro ⟨hrun, hstatus, rfl⟩
      refine ⟨rfl, ?_⟩
      rintro _ ⟨⟩
      refine ⟨hrun, ?_⟩
      by_contra hnone
      rw [not_or] at hnone
      simp [hnone.1, hnone.2] at hstatus
    · rintro ⟨rfl, hackable⟩
      obtain ⟨hrun, hstatus⟩ := hackable m rfl
      refine ⟨hrun, ?_, rfl⟩
      rcases hstatus with hstatus | hstatus <;> simp [hstatus]

theorem reviewMessageForBinding_eq_ok {messages : List AgentQueueReviewMessageRow}
    {runId : String} {message : Option AgentQueueReviewMessageRow} :
    reviewMessageForBinding request run binding messages runId = .ok message ↔
      boundMessage messages binding = some message ∧ ∀ m ∈ message, Ackable runId m := by
  rw [reviewMessageForBinding, boundMessage]
  cases jsonStringField binding "messageId" with
  | none =>
    rw [Option.some.injEq]
    exact foundReviewMessage_eq_ok messages.head?
  | some messageId =>
    cases hfind : messages.find? (·.messageId == messageId) with
    | none => simp [bind, Except.bind, hfind]
    | some found =>
      simp only [hfind, Option.map_some, Option.some.injEq]
      exact foundReviewMessage_eq_ok (some found)

theorem checkReviewableRun_eq_ok {messages : List AgentQueueReviewMessageRow} :
    checkReviewableRun s request run slotBindings messages = .ok () ↔
      (run.status = QueueWorkflowRunStatus.failed.asStr →
        isRetryableReviewFailureBeforeMutation run
          (s.listAgentQueueWorkflowActions request.workspaceId request.workflowRunId) slotBindings
          request.slot messages = true) ∧
      run.status ∈ ["created", "running", "paused", "blocked", "failed"] ∧
      run.phase ∈ ["worker_evidence", "review", "decision", "finalization"] := by
  rw [checkReviewableRun, refuseIf_bind_ok, refuseIf_bind_ok, refuseIf_ok]
  simp only [Bool.and_eq_false_iff, beq_eq_false_iff_ne, Bool.not_eq_false',
    decide_eq_false_iff_not, not_not, imp_iff_not_or, ne_eq]

/-- The action under the create key has these refs, and names no message but the one found. -/
structure CreateActionFits (createTargetRefs : Json)
    (existingMessage : Option AgentQueueReviewMessageRow)
    (action : AgentQueueWorkflowActionRow) : Prop where
  target : action.targetRefsJson = some (.value createTargetRefs)
  message : ∀ id ∈ actionResultMessageId action, ∃ m ∈ existingMessage, m.messageId = id

theorem checkCreateAction_eq_ok {createTargetRefs : Json}
    {existingMessage : Option AgentQueueReviewMessageRow}
    {createAction : Option AgentQueueWorkflowActionRow} :
    checkCreateAction request run createTargetRefs existingMessage createAction = .ok () ↔
      ∀ action ∈ createAction, CreateActionFits createTargetRefs existingMessage action := by
  cases createAction with
  | none => exact ⟨fun _ _ h => (nomatch h), fun _ => rfl⟩
  | some action =>
    have hmessage : ((actionResultMessageId action).isSome && existingMessage.all fun message =>
          some message.messageId != actionResultMessageId action) = false ↔
        ∀ id ∈ actionResultMessageId action, ∃ m ∈ existingMessage, m.messageId = id := by
      cases actionResultMessageId action <;> cases existingMessage <;> simp
    rw [checkCreateAction, refuseIf_bind_ok, refuseIf_ok, hmessage]
    simp only [bne_eq_false_iff_eq, Option.mem_def, Option.some.injEq, forall_eq']
    exact ⟨fun h => ⟨h.1, h.2⟩, fun h => ⟨h.1, h.2⟩⟩

/-- The acknowledgement of a message: its key, its refs, and the action under the key. -/
def reviewAckOf (s : SqliteStore) (request : NormalizedReviewStepRequest) (taskId : String)
    (message : AgentQueueReviewMessageRow) : ReviewAck :=
  let key := ackReviewIdempotencyKey request.workflowRunId request.slot message.messageId
  { idempotencyKey := key
    targetRefs := ackTargetRefs request message.messageId taskId
    action := s.getAgentQueueWorkflowActionByIdempotencyKey request.workflowRunId key }

theorem findReviewAck_eq_ok {createAction : Option AgentQueueWorkflowActionRow}
    {existingMessage : Option AgentQueueReviewMessageRow} {ack : Option ReviewAck} :
    findReviewAck s request run taskId createAction existingMessage = .ok ack ↔
      ack = existingMessage.map (reviewAckOf s request taskId) ∧
        ∀ found ∈ ack, ∀ action ∈ found.action,
          action.targetRefsJson = some (.value found.targetRefs) := by
  cases existingMessage with
  | none =>
    simp only [findReviewAck, Except.ok.injEq, Option.map_none]
    constructor
    · rintro rfl
      exact ⟨rfl, fun found hfound => nomatch hfound⟩
    · exact fun h => h.1.symm
  | some message =>
    have hany : ∀ (o : Option AgentQueueWorkflowActionRow) (target : Json),
        (o.any fun action => action.targetRefsJson != some (.value target)) = false ↔
          ∀ action ∈ o, action.targetRefsJson = some (.value target) := by
      intro o target
      cases o <;> simp
    simp only [findReviewAck, refuseIf_bind_ok, hany, pure, Except.pure, Except.ok.injEq,
      Option.map_some]
    constructor
    · rintro ⟨htarget, rfl⟩
      refine ⟨rfl, ?_⟩
      rintro _ ⟨⟩
      exact htarget
    · rintro ⟨rfl, htarget⟩
      exact ⟨htarget _ rfl, rfl⟩

end Checks

/-! ## The cascade -/

/-- A review goes on in a store with what the resolution says, for a slot that has this
binding. -/
structure Reviewable (s : SqliteStore) (resolved : ReviewStepResolution) (binding : Json) :
    Prop where
  run : s.getAgentQueueWorkflowRun resolved.request.workspaceId resolved.request.workflowRunId =
    some resolved.workflowRun
  workflow : resolved.workflowRun.workflowId ∈
    ["dependency_acceptance_smoke", "dependency_failure_smoke"]
  notCompleted : resolved.workflowRun.status ≠ QueueWorkflowRunStatus.completed.asStr
  notCancelled : resolved.workflowRun.status ≠ QueueWorkflowRunStatus.cancelled.asStr
  slotBindings : parseSlotBindings resolved.workflowRun.slotBindingsJson =
    .ok resolved.slotBindings
  bound : resolved.slotBindings.lookup resolved.request.slot = some binding
  taskId : jsonStringField binding "taskId" = some resolved.taskId
  task : (s.getAgentQueueTask resolved.request.workspaceId resolved.taskId).isSome
  evidence : boundEvidence s resolved.request.workspaceId resolved.taskId binding =
    some resolved.evidence
  evidenceTask : resolved.evidence.queueTaskId = resolved.taskId
  runId : resolved.runId = resolved.evidence.runId
  boundRun : ∀ id ∈ jsonStringField binding "runId", id = resolved.evidence.runId
  runLink : s.getAgentQueueTaskRunLinkByRunId resolved.request.workspaceId
    resolved.evidence.runId = some resolved.runLink
  runLinkTask : resolved.runLink.queueTaskId = resolved.taskId
  evidenceLink : ∀ id ∈ resolved.evidence.runLinkId, id = resolved.runLink.linkId
  notCompletedTask : s.getLatestAgentQueueCompletionDecision resolved.request.workspaceId
    resolved.taskId = none
  notFailedTask : s.getLatestAgentQueueFailureDecision resolved.request.workspaceId
    resolved.taskId = none
  notStarted : downstreamHasStarted s resolved.request.workspaceId resolved.slotBindings
    resolved.request.slot = false
  message : boundMessage (s.listAgentQueueReviewMessages resolved.request.workspaceId
    resolved.taskId) binding = some resolved.existingMessage
  ackable : ∀ m ∈ resolved.existingMessage, Ackable resolved.evidence.runId m
  retry : resolved.workflowRun.status = QueueWorkflowRunStatus.failed.asStr →
    isRetryableReviewFailureBeforeMutation resolved.workflowRun
      (s.listAgentQueueWorkflowActions resolved.request.workspaceId
        resolved.request.workflowRunId) resolved.slotBindings resolved.request.slot
      (s.listAgentQueueReviewMessages resolved.request.workspaceId resolved.taskId) = true
  status : resolved.workflowRun.status ∈ ["created", "running", "paused", "blocked", "failed"]
  phase : resolved.workflowRun.phase ∈ ["worker_evidence", "review", "decision", "finalization"]
  retryable : resolved.retryableFailedReviewBeforeMutation =
    (resolved.workflowRun.status == QueueWorkflowRunStatus.failed.asStr)
  createKey : resolved.createIdempotencyKey = createReviewIdempotencyKey
    resolved.request.workflowRunId resolved.request.slot resolved.taskId
    resolved.evidence.runId resolved.evidence.bundleId
  createRefs : resolved.createTargetRefs = reviewTargetRefs resolved.request resolved.taskId
    resolved.evidence.runId resolved.evidence.bundleId
  createAction : resolved.createAction = s.getAgentQueueWorkflowActionByIdempotencyKey
    resolved.request.workflowRunId resolved.createIdempotencyKey
  createFits : ∀ action ∈ resolved.createAction,
    CreateActionFits resolved.createTargetRefs resolved.existingMessage action
  ackKey : resolved.ackIdempotencyKey = resolved.existingMessage.map fun m =>
    ackReviewIdempotencyKey resolved.request.workflowRunId resolved.request.slot m.messageId
  ackRefs : resolved.ackTargetRefs = resolved.existingMessage.map fun m =>
    ackTargetRefs resolved.request m.messageId resolved.taskId
  ackAction : resolved.ackAction = resolved.existingMessage.bind fun m =>
    s.getAgentQueueWorkflowActionByIdempotencyKey resolved.request.workflowRunId
      (ackReviewIdempotencyKey resolved.request.workflowRunId resolved.request.slot m.messageId)
  ackFits : ∀ m ∈ resolved.existingMessage, ∀ action ∈ resolved.ackAction,
    action.targetRefsJson =
      some (.value (ackTargetRefs resolved.request m.messageId resolved.taskId))
  grant : freshReviewGrantBlocker resolved.request.grantSummary = none

variable {s : SqliteStore} {request : QueueWorkflowReviewStepRequest}
  {resolved : ReviewStepResolution}

theorem reviewable_of_ok (h : resolveQueueWorkflowReviewStep s request true = .ok resolved) :
    ∃ binding, Reviewable s resolved binding := by
  rw [resolveQueueWorkflowReviewStep, except_bind_ok] at h
  obtain ⟨normalized, -, h⟩ := h
  split at h
  · cases h
  rename_i run hrun
  rw [except_bind_ok] at h
  obtain ⟨_, hopen, h⟩ := h
  rw [except_bind_ok] at h
  obtain ⟨slotBindings, hbindings, h⟩ := h
  rw [except_bind_ok] at h
  obtain ⟨⟨binding, taskId⟩, hbinding, h⟩ := h
  rw [except_bind_ok] at h
  obtain ⟨evidence, hevidence, h⟩ := h
  rw [except_bind_ok] at h
  obtain ⟨runLink, hlink, h⟩ := h
  rw [except_bind_ok] at h
  obtain ⟨_, hundecided, h⟩ := h
  rw [except_bind_ok] at h
  obtain ⟨message, hmessage, h⟩ := h
  rw [except_bind_ok] at h
  obtain ⟨_, hrunning, h⟩ := h
  rw [except_bind_ok] at h
  obtain ⟨_, hcreate, h⟩ := h
  rw [except_bind_ok] at h
  obtain ⟨ack, hack, h⟩ := h
  split at h
  · cases h
  rename_i hgrant
  obtain rfl := Except.ok.inj h
  obtain ⟨hworkflow, hcompleted, hcancelled⟩ := checkReviewedRun_eq_ok.1 hopen
  obtain ⟨hbound, htaskId, htask⟩ := reviewedBinding_eq_ok.1 hbinding
  obtain ⟨hbundle, hevidenceTask⟩ := evidenceForBinding_eq_ok.1 hevidence
  obtain ⟨hboundRun, hrunLink, hlinkTask, hevidenceLink⟩ := runLinkOfEvidence_eq_ok.1 hlink
  obtain ⟨hnotCompleted, hnotFailed, hnotStarted⟩ := checkUndecided_eq_ok.1 hundecided
  obtain ⟨hfound, hackable⟩ := reviewMessageForBinding_eq_ok.1 hmessage
  obtain ⟨hretry, hstatus, hphase⟩ := checkReviewableRun_eq_ok.1 hrunning
  obtain ⟨rfl, htarget⟩ := findReviewAck_eq_ok.1 hack
  have hgrant : freshReviewGrantBlocker normalized.grantSummary = none := by
    simpa [Option.eq_none_iff_forall_ne_some] using hgrant
  refine ⟨binding, hrun, hworkflow, hcompleted, hcancelled, mapError_ok.1 hbindings, hbound,
    htaskId, htask, hbundle, hevidenceTask, rfl, hboundRun, hrunLink, hlinkTask, hevidenceLink,
    hnotCompleted, hnotFailed, hnotStarted, hfound, hackable, hretry, hstatus, hphase, rfl, rfl,
    rfl, rfl, checkCreateAction_eq_ok.1 hcreate, ?_, ?_, ?_, ?_, hgrant⟩
  · cases message <;> rfl
  · cases message <;> rfl
  · cases message <;> rfl
  · rintro m rfl action haction
    exact htarget _ rfl action haction

theorem Reviewable.resolve {binding : Json} (h : Reviewable s resolved binding)
    (hnormalize : normalizeReviewStepRequest request = .ok resolved.request) :
    resolveQueueWorkflowReviewStep s request true = .ok resolved := by
  have hack : findReviewAck s resolved.request resolved.workflowRun resolved.taskId
      resolved.createAction resolved.existingMessage =
      .ok (resolved.existingMessage.map (reviewAckOf s resolved.request resolved.taskId)) := by
    refine findReviewAck_eq_ok.2 ⟨rfl, ?_⟩
    intro found hfound action haction
    obtain ⟨m, hm, rfl⟩ := Option.map_eq_some_iff.1 hfound
    refine h.ackFits m hm action ?_
    rw [h.ackAction, hm]
    exact haction
  rw [resolveQueueWorkflowReviewStep, hnormalize]
  refine except_bind_ok.2 ⟨resolved.request, rfl, ?_⟩
  rw [h.run]
  refine except_bind_ok.2 ⟨(), checkReviewedRun_eq_ok.2 ⟨h.workflow, h.notCompleted,
    h.notCancelled⟩, ?_⟩
  refine except_bind_ok.2 ⟨resolved.slotBindings, mapError_ok.2 h.slotBindings, ?_⟩
  refine except_bind_ok.2 ⟨(binding, resolved.taskId), reviewedBinding_eq_ok.2 ⟨h.bound,
    h.taskId, h.task⟩, ?_⟩
  refine except_bind_ok.2 ⟨resolved.evidence, evidenceForBinding_eq_ok.2 ⟨h.evidence,
    h.evidenceTask⟩, ?_⟩
  refine except_bind_ok.2 ⟨resolved.runLink, runLinkOfEvidence_eq_ok.2 ⟨h.boundRun, h.runLink,
    h.runLinkTask, h.evidenceLink⟩, ?_⟩
  refine except_bind_ok.2 ⟨(), checkUndecided_eq_ok.2 ⟨h.notCompletedTask, h.notFailedTask,
    h.notStarted⟩, ?_⟩
  refine except_bind_ok.2 ⟨resolved.existingMessage, reviewMessageForBinding_eq_ok.2 ⟨h.message,
    h.ackable⟩, ?_⟩
  refine except_bind_ok.2 ⟨(), checkReviewableRun_eq_ok.2 ⟨h.retry, h.status, h.phase⟩, ?_⟩
  rw [← h.createKey, ← h.createRefs]
  dsimp only
  rw [← h.createAction]
  refine except_bind_ok.2 ⟨(), checkCreateAction_eq_ok.2 h.createFits, ?_⟩
  refine except_bind_ok.2 ⟨_, hack, ?_⟩
  rw [h.grant]
  refine congrArg Except.ok ?_
  have hkey := h.ackKey
  have hrefs := h.ackRefs
  have haction := h.ackAction
  have hrunId := h.runId
  have hretryable := h.retryable
  obtain ⟨_, _, _, _, _, _, _, message, _, _, _, _, _, _, _⟩ := resolved
  dsimp only at hkey hrefs haction hrunId hretryable
  subst hkey hrefs haction hrunId hretryable
  cases message <;> rfl

/-- **The cascade passes exactly when the review may go on**, and then with what was found. -/
theorem resolveQueueWorkflowReviewStep_eq_ok :
    resolveQueueWorkflowReviewStep s request true = .ok resolved ↔
      normalizeReviewStepRequest request = .ok resolved.request ∧
        ∃ binding, Reviewable s resolved binding :=
  ⟨fun h => ⟨(resolveQueueWorkflowReviewStep_ok h).1, reviewable_of_ok h⟩,
    fun ⟨hnormalize, _, h⟩ => h.resolve hnormalize⟩

end HobitQueue.WorkflowReview
