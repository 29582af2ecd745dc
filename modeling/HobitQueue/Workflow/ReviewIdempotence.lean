import HobitQueue.Lib.CanonicalForm
import HobitQueue.Workflow.DownstreamGuards
import HobitQueue.Workflow.SettledReviews

/-!
# A review made again

After a review that was executed every later review of the same slot of the run is already
applied, as long as nothing happened to the run that a review reads.

## Main results

* `messageIds_reviewStep` — one call inserts at most one message.
* `review_step_idempotent` — any later review is already applied.
-/

namespace HobitQueue.WorkflowReview

open Concurrent StoreProg Relational

/-! ## Later reviews -/

/-- A later request for a review: the same slot of the same run, and a valid grant. -/
structure Repeats (request : NormalizedReviewStepRequest)
    (later : QueueWorkflowReviewStepRequest) : Prop where
  normalized : ∃ n, normalizeReviewStepRequest later = .ok n ∧
    n.toWorkflowRunRef = request.toWorkflowRunRef ∧ n.slot = request.slot ∧
    freshReviewGrantBlocker n.grantSummary = none

/-- Nothing happened to a run that a review reads: the row of the run, the run links, the
evidence and the decisions are the same. Other tasks, messages and actions may be new. -/
structure Undisturbed (ref : WorkflowRunRef) (s t : SqliteStore) : Prop
    extends Unmoved ref s t where
  run : t.getAgentQueueWorkflowRun ref.workspaceId ref.workflowRunId =
    s.getAgentQueueWorkflowRun ref.workspaceId ref.workflowRunId

/-- The stores that later reviews of a request, and changes that leave it undisturbed, come
to. -/
inductive Later (request : NormalizedReviewStepRequest) (s : SqliteStore) : SqliteStore → Prop
  | refl : Later request s s
  | undisturbed {t u : SqliteStore} : Later request s t →
      Undisturbed request.toWorkflowRunRef t u → Later request s u
  | again {t u : SqliteStore} (d : Draws) (later : QueueWorkflowReviewStepRequest) :
      Later request s t → Repeats request later →
      (exec (executeQueueWorkflowReviewStep d later) t).2 = u → Later request s u

/-- **The review is already applied**: the answer names the message and the actions it named,
and the message, the actions and the slot binding are as they were. -/
structure AppliedAgain (ref : WorkflowRunRef) (answer answer' : QueueWorkflowReviewStepResult)
    (s t : SqliteStore) : Prop where
  status : answer'.status = .alreadyApplied
  messageId : answer'.messageId = answer.messageId
  createAction : answer'.createAction = answer.createAction
  ackAction : answer'.ackAction = answer.ackAction
  binding : answer'.binding = answer.binding
  messages : t.agentQueueReviewMessages = s.agentQueueReviewMessages
  actions : t.agentQueueWorkflowActions = s.agentQueueWorkflowActions
  slotBindings :
    (t.getAgentQueueWorkflowRun ref.workspaceId ref.workflowRunId).map (·.slotBindingsJson) =
      (s.getAgentQueueWorkflowRun ref.workspaceId ref.workflowRunId).map (·.slotBindingsJson)

section Later

variable {s t : SqliteStore} {request : NormalizedReviewStepRequest}
  {answer : QueueWorkflowReviewStepResult}

/-- A review of a run that is settled, as an answer reported it. -/
structure Answered (request : NormalizedReviewStepRequest) (answer : QueueWorkflowReviewStepResult)
    (s : SqliteStore) (review : Review) : Prop where
  settled : Settled s review
  ref : review.resolved.request.toWorkflowRunRef = request.toWorkflowRunRef
  slot : review.resolved.request.slot = request.slot
  reports : Reports answer review

/-- A later review of a settled run. -/
theorem Answered.exec_later {review : Review} (h : Answered request answer s review) (d : Draws)
    {later : QueueWorkflowReviewStepRequest} (hlater : Repeats request later) :
    ∃ answer' t review', exec (executeQueueWorkflowReviewStep d later) s = (.ok answer', t) ∧
      Answered request answer t review' ∧
      AppliedAgain request.toWorkflowRunRef answer answer' s t := by
  obtain ⟨n, hnormalize, href, hslot, hgrant⟩ := hlater.normalized
  have hsettled := h.settled.forRequest (href.trans h.ref.symm) (hslot.trans h.slot.symm) hgrant
  have hreports := h.reports.forRequest (href.trans h.ref.symm) (hslot.trans h.slot.symm)
  have hexec := hsettled.exec_request hnormalize d
  have hrerun := hsettled.rerun d
  have hread : ((review.forRequest n).rerun d s).getAgentQueueWorkflowRun n.workspaceId
      n.workflowRunId = some (reviewedRun d (review.forRequest n).columns
        review.resolved.workflowRun) := hrerun.reviewable.run
  have hrun : s.getAgentQueueWorkflowRun n.workspaceId n.workflowRunId =
      some review.resolved.workflowRun := hsettled.reviewable.run
  refine ⟨_, _, _, hexec, ⟨hrerun, href, hslot, hreports.messageId, hreports.createAction,
    hreports.ackAction, hreports.binding⟩, rfl, hreports.messageId.symm, hreports.createAction.symm,
    hreports.ackAction.symm, hreports.binding.symm, rfl, rfl, ?_⟩
  rw [← href, hread, hrun, Option.map_some, Option.map_some]
  exact congrArg some hsettled.written.slotBindings.symm

/-- **Whatever happens in between, the run stays settled** as the answer reported it. -/
theorem Answered.of_later {review : Review} (h : Answered request answer s review) {u : SqliteStore}
    (hlater : Later request s u) : ∃ review', Answered request answer u review' := by
  induction hlater with
  | refl => exact ⟨review, h⟩
  | undisturbed _ hundisturbed ih =>
    obtain ⟨review', h'⟩ := ih
    rw [← h'.ref] at hundisturbed
    have hsettled := h'.settled.move hundisturbed.toUnmoved
      (hundisturbed.run.trans h'.settled.reviewable.run) ⟨rfl, rfl, rfl, rfl, rfl, rfl, rfl, rfl⟩
    exact ⟨_, hsettled, h'.ref, h'.slot, h'.reports.messageId, h'.reports.createAction,
      h'.reports.ackAction, h'.reports.binding⟩
  | again d later _ hrepeats hu ih =>
    obtain ⟨review', h'⟩ := ih
    obtain ⟨answer', t', review'', hexec, hanswered, -⟩ := h'.exec_later d hrepeats
    rw [hexec] at hu
    exact ⟨review'', hu ▸ hanswered⟩

end Later

/-! ## Messages -/

/-- The ids of the review messages, in the order they were written. -/
def messageIds (s : SqliteStore) : List String :=
  s.agentQueueReviewMessages.rows.map (·.messageId)

/-- At most one id is new. -/
def AtMostOneMore (ids ids' : List String) : Prop := ∃ new : Option String, ids' = ids ++ new.toList

theorem movesMessages_createdMessage (d : Draws) (resolved : ReviewStepResolution) :
    (createdMessage d resolved).Moves messageIds AtMostOneMore := by
  intro s message t h
  rw [createdMessage] at h
  split at h
  · obtain ⟨-, rfl⟩ := Prod.mk.inj h
    exact ⟨none, (List.append_nil _).symm⟩
  · have hinsert := exec_execute_ok.1 h
    rw [SqliteStore.insertAgentQueueReviewMessage, SqliteStore.inserted_ok] at hinsert
    obtain ⟨-, -, messages, hinsert, rfl⟩ := hinsert
    refine ⟨some (newReviewMessage d resolved).messageId, ?_⟩
    rw [messageIds, Table.rows_insert hinsert, List.map_append]
    rfl

theorem keepsMessages_acknowledgedMessage (d : Draws) (resolved : ReviewStepResolution)
    (message : AgentQueueReviewMessageRow) :
    (acknowledgedMessage d resolved message).Keeps messageIds := by
  unfold acknowledgedMessage
  split
  · exact keeps_pure _
  · refine Keeps.bind ?_ fun _ => (keeps_query _).bind fun _ => keeps_rowOrNoRows _
    refine keeps_execute fun s a t h => ?_
    rw [SqliteStore.ackAgentQueueReviewMessage] at h
    obtain ⟨-, rfl⟩ := Prod.mk.inj (Except.ok.inj h)
    simp only [messageIds, Table.update, List.map_map]
    refine List.map_congr_left fun m _ => ?_
    dsimp only [Function.comp]
    split <;> rfl

theorem movesMessages_executeReadyReviewStep (d : Draws) (resolved : ReviewStepResolution) :
    (executeReadyReviewStep d resolved).Moves messageIds AtMostOneMore := by
  have hactions : ∀ s actions,
      messageIds { s with agentQueueWorkflowActions := actions } = messageIds s := fun _ _ => rfl
  have hcreate : (createReview d resolved).Moves messageIds AtMostOneMore :=
    (keeps_openReviewAction hactions _ _ _ _ _ _ _ _).bind_moves fun _ =>
      (movesMessages_createdMessage d resolved).bind_keeps fun _ =>
        (keeps_completeReviewAction hactions _ _ _ _ _).bind fun _ => keeps_pure _
  have hack : ∀ message ackKey, (ackReview d resolved message ackKey).Keeps messageIds :=
    fun message ackKey => (keeps_openReviewAction hactions _ _ _ _ _ _ _ _).bind fun _ =>
      (keepsMessages_acknowledgedMessage _ _ _).bind fun _ =>
        (keeps_completeReviewAction hactions _ _ _ _ _).bind fun _ => keeps_pure _
  have hstore : ∀ message createAction ackAction ackKey,
      (storeReviewedRun d resolved message createAction ackAction ackKey).Keeps messageIds :=
    fun _ _ _ _ => (keeps_boundedJson _ _ _).bind fun _ => (keeps_boundedJson _ _ _).bind fun _ =>
      (keeps_boundedJson _ _ _).bind fun _ => (keeps_boundedJson _ _ _).bind fun _ =>
        (keeps_boundedJson _ _ _).bind fun _ => (keeps_updateRun (fun _ _ => rfl) _ _ _ _).bind
          fun _ => keeps_rowOrNoRows _
  exact hcreate.bind_keeps fun _ => (hack _ _).bind fun _ => (hstore _ _ _ _).bind fun _ =>
    (keeps_touch (fun _ _ => rfl) _ _).bind fun _ => keeps_pure _

theorem keepsMessages_recordBlockedReview (d : Draws) (blocked : BlockedReview) :
    (recordBlockedReview d blocked).Keeps messageIds := by
  have hblock : (blockWorkflowRunForReview d blocked.request blocked.blocker).Keeps messageIds :=
    (keeps_updateRun (fun _ _ => rfl) _ _ _ _).bind fun _ => keeps_rowOrNoRows _
  unfold recordBlockedReview
  cases blocked.targetRefs with
  | none => exact (keeps_pure _).bind fun _ => hblock.bind fun _ => keeps_pure _
  | some targetRefs =>
    exact (keeps_recordBlockedReviewAction (fun _ _ => rfl) _ _ _ _ _).bind fun _ =>
      (keeps_pure _).bind fun _ => hblock.bind fun _ => keeps_pure _

/-- **Whatever a review answers, it inserts at most one message.** -/
theorem messageIds_reviewStep (d : Draws) (request : QueueWorkflowReviewStepRequest)
    (s : SqliteStore) :
    AtMostOneMore (messageIds s)
      (messageIds (exec (executeQueueWorkflowReviewStep d request) s).2) := by
  have hnone : ∀ {t : SqliteStore}, messageIds t = messageIds s →
      AtMostOneMore (messageIds s) (messageIds t) :=
    fun h => ⟨none, h.trans (List.append_nil _).symm⟩
  rcases exec_withImmediateTransaction (Prod.mk.eta.symm :
    exec (executeQueueWorkflowReviewStep d request) s = _) with ⟨answer, -, hrun⟩ | ⟨-, hsame⟩
  · rw [exec_query_bind] at hrun
    cases hresolve : resolveQueueWorkflowReviewStep s request true with
    | ok resolved =>
      rw [hresolve] at hrun
      exact movesMessages_executeReadyReviewStep d resolved _ _ _ hrun
    | error refusal =>
      rw [hresolve] at hrun
      cases refusal with
      | blocked blocked =>
        exact hnone ((keepsMessages_recordBlockedReview d blocked).of_exec hrun)
      | conflict | notFound | invalidInput =>
        exact hnone (congrArg messageIds (Prod.mk.inj hrun).2.symm)
  · exact hnone (congrArg messageIds hsame)

/-! ## Idempotence -/

/-- A refusal that is recorded answers that the review is blocked. -/
theorem status_recordBlockedReview {s t : SqliteStore} {d : Draws} {blocked : BlockedReview}
    {answer : QueueWorkflowReviewStepResult}
    (h : exec (recordBlockedReview d blocked) s = (.ok answer, t)) :
    answer.status = .blockedPrecondition := by
  rw [recordBlockedReview] at h
  split at h
  · obtain ⟨action, u, -, h⟩ := exec_bind_ok.1 h
    obtain ⟨kept, v, -, h⟩ := exec_bind_ok.1 h
    obtain ⟨run, w, -, h⟩ := exec_bind_ok.1 h
    rw [← Except.ok.inj (Prod.mk.inj h).1]
    rfl
  · obtain ⟨kept, u, -, h⟩ := exec_bind_ok.1 h
    obtain ⟨run, v, -, h⟩ := exec_bind_ok.1 h
    rw [← Except.ok.inj (Prod.mk.inj h).1]
    rfl

/-- A review that was executed went on with what it found. -/
theorem resolved_of_executed {s t : SqliteStore} {d : Draws}
    {request : QueueWorkflowReviewStepRequest} {answer : QueueWorkflowReviewStepResult}
    (h : exec (executeQueueWorkflowReviewStep d request) s = (.ok answer, t))
    (hexecuted : answer.status = .executed) :
    ∃ resolved, resolveQueueWorkflowReviewStep s request true = .ok resolved ∧
      exec (executeReadyReviewStep d resolved) s = (.ok answer, t) := by
  rcases exec_withImmediateTransaction h with ⟨_, hanswer, hrun⟩ | ⟨⟨e, he⟩, -⟩
  · obtain rfl := Except.ok.inj hanswer
    rw [exec_query_bind] at hrun
    cases hresolve : resolveQueueWorkflowReviewStep s request true with
    | ok resolved =>
      rw [hresolve] at hrun
      exact ⟨resolved, rfl, hrun⟩
    | error refusal =>
      rw [hresolve] at hrun
      cases refusal with
      | blocked blocked =>
        rw [status_recordBlockedReview hrun] at hexecuted
        cases hexecuted
      | conflict | notFound | invalidInput =>
        rw [← Except.ok.inj (Prod.mk.inj hrun).1] at hexecuted
        cases hexecuted
  · cases he

/-- **The review step is idempotent**: one call inserts at most one message, and after a call
that executed the review, with clean ids in the store it found, every later call for the same
slot of the run is already applied. -/
theorem review_step_idempotent (d : Draws) (request : QueueWorkflowReviewStepRequest)
    (s : SqliteStore) :
    AtMostOneMore (messageIds s)
        (messageIds (exec (executeQueueWorkflowReviewStep d request) s).2) ∧
      ∀ normalized answer t, CleanIds s → normalizeReviewStepRequest request = .ok normalized →
        exec (executeQueueWorkflowReviewStep d request) s = (.ok answer, t) →
        answer.status = .executed →
        ∀ u d' later, Later normalized t u → Repeats normalized later →
          ∃ answer' u', exec (executeQueueWorkflowReviewStep d' later) u = (.ok answer', u') ∧
            AppliedAgain normalized.toWorkflowRunRef answer answer' u u' := by
  refine ⟨messageIds_reviewStep d request s, ?_⟩
  intro normalized answer t hclean hnormalize hexec hexecuted u d' later hlater hrepeats
  obtain ⟨resolved, hresolve, hready⟩ := resolved_of_executed hexec hexecuted
  obtain ⟨hrequest, binding, hreviewable⟩ := resolveQueueWorkflowReviewStep_eq_ok.1 hresolve
  obtain rfl := Except.ok.inj (hnormalize.symm.trans hrequest)
  obtain ⟨review, hsettled, hsame, hreports⟩ :=
    executeReadyReviewStep_settles hreviewable hclean hready
  have hanswered : Answered resolved.request answer t review :=
    ⟨hsettled, by rw [hsame], by rw [hsame], hreports⟩
  obtain ⟨review', hanswered'⟩ := hanswered.of_later hlater
  obtain ⟨answer', u', _, hagain, -, happlied⟩ := hanswered'.exec_later d' hrepeats
  exact ⟨answer', u', hagain, happlied⟩

/-! ## A review of one task -/

section Outcome

variable {s t : SqliteStore} {d : Draws} {resolved : ReviewStepResolution}
  {columns : ReviewedColumns}

theorem keys_touchLast (d : Draws) (r : WorkspaceRow) :
    Row.keys { r with updatedAt := d.timestamp 4 } = Row.keys r := rfl

/-- The columns of a review that is executed and the store it comes to, when they fit. -/
def reviewOutcome (d : Draws) (s : SqliteStore) (resolved : ReviewStepResolution) :
    Option (ReviewedColumns × SqliteStore) :=
  match exec (createReview d resolved) s with
  | (.error _, _) => none
  | (.ok (created, createAction), u) =>
      let ackKey := resolved.ackIdempotencyKey.getD (ackReviewIdempotencyKey
        resolved.request.workflowRunId resolved.request.slot created.messageId)
      match exec (ackReview d resolved created ackKey) u with
      | (.error _, _) => none
      | (.ok (message, ackAction), v) =>
          if v.getAgentQueueWorkflowRun resolved.request.workspaceId
                resolved.request.workflowRunId = some resolved.workflowRun ∧
              ¬ created.status = reviewMessageStatusAcknowledged then
            let columns := reviewedColumns resolved message createAction ackAction ackKey
            let stored := withReviewedRun d resolved.request.toWorkflowRunRef columns v
            some (columns, { stored with
              workspaces := stored.workspaces.update (·.id == resolved.request.workspaceId)
                (fun r => { r with updatedAt := d.timestamp 4 }) (keys_touchLast d) })
          else none

theorem exec_of_reviewOutcome (h : reviewOutcome d s resolved = some (columns, t))
    (hfit : columns.Fit) :
    ∃ answer, exec (executeReadyReviewStep d resolved) s = (.ok answer, t) ∧
      answer.status = .executed := by
  rw [reviewOutcome] at h
  split at h
  · cases h
  rename_i created createAction u hcreate
  dsimp only at h
  split at h
  · cases h
  rename_i message ackAction v hack
  split at h
  · rename_i hopen
    obtain ⟨rfl, rfl⟩ := Prod.mk.inj (Option.some.inj h)
    refine ⟨_, exec_bind_ok.2 ⟨_, u, hcreate, exec_bind_ok.2 ⟨_, v, hack, exec_bind_ok.2
      ⟨_, _, (storeReviewedRun_ok hopen.1).2 ⟨hfit, rfl, rfl⟩, exec_bind_ok.2 ⟨(), _,
        exec_execute_ok.2 rfl, rfl⟩⟩⟩⟩, ?_⟩
    rw [reviewAnswer, beq_eq_false_iff_ne.2 hopen.2, Bool.and_false, if_neg Bool.false_ne_true]
  · cases h

/-- The bytes of the text of a value, counted by its characters. -/
def printedBytes (v : Json) : ℕ := ((Json.print (Json.ordered v)).map Char.utf8Size).sum

theorem utf8Length_canonicalString (v : Json) : utf8Length v.canonicalString = printedBytes v := by
  rw [utf8Length, Json.toList_canonicalString, printedBytes]

def ReviewedColumns.fits (columns : ReviewedColumns) : Bool :=
  printedBytes (.obj columns.slotBindings) ≤ maxWorkflowSlotBindingsJsonBytes &&
    printedBytes columns.mutationRefs ≤ maxWorkflowMutationRefsJsonBytes &&
    printedBytes columns.idempotencyKeys ≤ maxWorkflowIdempotencyKeysJsonBytes &&
    printedBytes columns.actionLogSummary ≤ maxWorkflowActionLogSummaryJsonBytes &&
    printedBytes columns.variablesJson ≤ maxWorkflowVariablesJsonBytes

theorem ReviewedColumns.fit_of_fits (h : columns.fits = true) : columns.Fit := by
  simp only [fits, Bool.and_eq_true, decide_eq_true_eq, ← utf8Length_canonicalString] at h
  obtain ⟨⟨⟨⟨hbindings, hrefs⟩, hkeys⟩, hlog⟩, hvariables⟩ := h
  exact ⟨hbindings, hrefs, hkeys, hlog, hvariables⟩

/-- A review that is executed, as far as the store it finds decides. -/
def executes (d : Draws) (s : SqliteStore) (resolved : ReviewStepResolution) : Bool :=
  (reviewOutcome d s resolved).any fun outcome => outcome.1.fits

theorem exec_of_executes {request : QueueWorkflowReviewStepRequest}
    (hresolve : resolveQueueWorkflowReviewStep s request true = .ok resolved)
    (h : executes d s resolved = true) :
    ∃ answer columns t, reviewOutcome d s resolved = some (columns, t) ∧
      exec (executeQueueWorkflowReviewStep d request) s = (.ok answer, t) ∧
      answer.status = .executed := by
  obtain ⟨⟨columns, t⟩, houtcome, hfits⟩ := (Option.any_eq_true _ _).1 h
  obtain ⟨answer, hexec, hexecuted⟩ :=
    exec_of_reviewOutcome houtcome (ReviewedColumns.fit_of_fits hfits)
  refine ⟨answer, columns, t, houtcome, exec_withImmediateTransaction_ok ?_, hexecuted⟩
  rw [exec_query_bind, hresolve]
  exact hexec

end Outcome

def reviewedSlots : List (String × Json) := [("upstream", .obj [("taskId", .str "t")])]

def reviewedSlotRun : AgentQueueWorkflowRunRow :=
  { threeSlotRun with slotBindingsJson := some (.value (.obj reviewedSlots)) }

/-- A message that waits for its acknowledgement. -/
def openMessage (messageId : String) : AgentQueueReviewMessageRow :=
  { ackedMessage with
    messageId := messageId
    status := reviewMessageStatusCreated
    ackedAt := none
    ackActorId := none }

def reviewStore (messageId : String) : SqliteStore :=
  { threeSlotStore with
    agentQueueReviewMessages := ⟨[openMessage messageId], List.pairwise_singleton _ _⟩
    agentQueueWorkflowRuns := ⟨[reviewedSlotRun], List.pairwise_singleton _ _⟩ }

def reviewRequest : QueueWorkflowReviewStepRequest :=
  { workspaceId := "w"
    workflowRunId := "f"
    slot := none
    actorId := none
    requestId := none
    grantSummary := finalizeWorkflow.grantSummary }

def normalizedReviewRequest : NormalizedReviewStepRequest :=
  { workspaceId := "w"
    workflowRunId := "f"
    slot := "upstream"
    actorId := "workspace-agent"
    grantSummary := finalizeWorkflow.grantSummary }

/-- What the request comes to. -/
def resolvedReview (messageId : String) : ReviewStepResolution :=
  { request := normalizedReviewRequest
    workflowRun := reviewedSlotRun
    slotBindings := reviewedSlots
    taskId := "t"
    runId := "r"
    evidence := workedEvidence
    runLink := runLinkOf "l" "t" "r" "completed"
    existingMessage := some (openMessage messageId)
    createAction := none
    ackAction := none
    createIdempotencyKey := createReviewIdempotencyKey "f" "upstream" "t" "r" "b"
    ackIdempotencyKey := some (ackReviewIdempotencyKey "f" "upstream" messageId)
    createTargetRefs := reviewTargetRefs normalizedReviewRequest "t" "r" "b"
    ackTargetRefs := some (ackTargetRefs normalizedReviewRequest messageId "t")
    retryableFailedReviewBeforeMutation := false }

theorem resolved_reviewStore :
    resolveQueueWorkflowReviewStep (reviewStore "m") reviewRequest true =
        .ok (resolvedReview "m") ∧
      resolveQueueWorkflowReviewStep (reviewStore " m") reviewRequest true =
        .ok (resolvedReview " m") := by
  exact ⟨rfl, rfl⟩

theorem cleanIds_reviewStore : CleanIds (reviewStore "m") := by
  refine ⟨?_, ?_, ?_⟩ <;> decide +kernel

/-- A message is acknowledged, and the same request made again is already applied. -/
theorem review_applied_again : ∃ answer t answer' u,
    exec (executeQueueWorkflowReviewStep (drawsAt 9) reviewRequest) (reviewStore "m") =
        (.ok answer, t) ∧ answer.status = .executed ∧
      exec (executeQueueWorkflowReviewStep (drawsAt 19) reviewRequest) t = (.ok answer', u) ∧
      AppliedAgain ⟨"w", "f"⟩ answer answer' t u := by
  have hexecutes : executes (drawsAt 9) (reviewStore "m") (resolvedReview "m") = true := by
    decide +kernel
  obtain ⟨answer, _, t, -, hexec, hexecuted⟩ := exec_of_executes resolved_reviewStore.1 hexecutes
  have hrepeats : Repeats normalizedReviewRequest reviewRequest := ⟨_, rfl, rfl, rfl, rfl⟩
  obtain ⟨answer', u, hagain, happlied⟩ :=
    (review_step_idempotent (drawsAt 9) reviewRequest (reviewStore "m")).2 normalizedReviewRequest
      answer t cleanIds_reviewStore rfl hexec hexecuted t (drawsAt 19) reviewRequest .refl hrepeats
  exact ⟨answer, t, answer', u, hexec, hexecuted, hagain, happlied⟩

/-- The request made again is refused for the state of its run. -/
def blockedAgain (d d' : Draws) (s : SqliteStore) (request : QueueWorkflowReviewStepRequest)
    (resolved : ReviewStepResolution) : Bool :=
  (reviewOutcome d s resolved).any fun outcome =>
    match resolveQueueWorkflowReviewStep outcome.2 request true with
    | .error (.blocked blocked) =>
        (exec (recordBlockedReview d' blocked) outcome.2).1.toOption.isSome
    | _ => false

theorem exec_of_blockedAgain {d d' : Draws} {s t : SqliteStore}
    {request : QueueWorkflowReviewStepRequest} {resolved : ReviewStepResolution}
    {columns : ReviewedColumns} (houtcome : reviewOutcome d s resolved = some (columns, t))
    (h : blockedAgain d d' s request resolved = true) :
    ∃ answer u, exec (executeQueueWorkflowReviewStep d' request) t = (.ok answer, u) ∧
      answer.status = .blockedPrecondition := by
  rw [blockedAgain, houtcome, Option.any_some] at h
  split at h
  · rename_i blocked hresolve
    rcases hrun : exec (recordBlockedReview d' blocked) t with ⟨e | answer, u⟩
    · rw [hrun] at h
      cases h
    · refine ⟨answer, u, exec_withImmediateTransaction_ok ?_, status_recordBlockedReview hrun⟩
      rw [exec_query_bind, hresolve]
      exact hrun
  · cases h

/-- The id of the message starts with a blank: the binding names the message without it, and
the same request made again does not find the message. -/
theorem blank_message_id_blocked : ∃ answer t answer' u,
    exec (executeQueueWorkflowReviewStep (drawsAt 9) reviewRequest) (reviewStore " m") =
        (.ok answer, t) ∧ answer.status = .executed ∧
      Repeats normalizedReviewRequest reviewRequest ∧
      exec (executeQueueWorkflowReviewStep (drawsAt 19) reviewRequest) t = (.ok answer', u) ∧
      answer'.status = .blockedPrecondition := by
  have hexecutes : executes (drawsAt 9) (reviewStore " m") (resolvedReview " m") = true := by
    decide +kernel
  have hblocked : blockedAgain (drawsAt 9) (drawsAt 19) (reviewStore " m") reviewRequest
      (resolvedReview " m") = true := by
    decide +kernel
  obtain ⟨answer, columns, t, houtcome, hexec, hexecuted⟩ :=
    exec_of_executes resolved_reviewStore.2 hexecutes
  obtain ⟨answer', u, hagain, hstatus⟩ := exec_of_blockedAgain houtcome hblocked
  exact ⟨answer, t, answer', u, hexec, hexecuted, ⟨_, rfl, rfl, rfl, rfl⟩, hagain, hstatus⟩

end HobitQueue.WorkflowReview
