import HobitQueue.Frontend.DogfoodLifecycle
import Mathlib.Tactic.Set

/-!
# Done is about the current attempt

A run of the dogfood lifecycle is recorded as the steps it took and the items they ran on.
The steps since the item last entered running are its current round. The guards of the
lifecycle look records up in lists that outlive a round; where no step names a record of an
earlier round, the guards find those of this one, and an item is done only after a whole round.

## Main results

* `lifecycle_done_in_round` — without stale records, done comes after a whole round.
-/

namespace HobitQueue.Frontend

/-! ## Steps and transitions -/

inductive LifecycleStep where
  | queue (queuedAt : String)
  | startRun (input : StartQueueItemRunInput)
  | agentFinished (input : ApplyAgentFinishedInput)
  | createReviewMessage (input : CreateReviewMessageInput)
  | coordinatorAck (input : AcknowledgeReviewMessageInput)
  | approveValidation (input : ApproveValidationInput)
  | requestCommit (input : RequestCommitInput)
  | attachCommitResult (input : AttachCommitResultInput)
  | markQueueItemDone (input : MarkDoneInput)
  | followUpPrompt (input : AddFollowUpPromptInput)
  | block (input : GiveUpInput)
  | fail (input : GiveUpInput)

/-- A single step of the lifecycle. -/
def applyStep (item : SmartQueueDogfoodLifecycleItem) :
    LifecycleStep → SmartQueueLifecycleTransitionResult
  | .queue queuedAt => queueDogfoodLifecycleItem item queuedAt
  | .startRun input => startQueueItemRun item input
  | .agentFinished input => applyAgentFinishedToQueueLifecycle item input
  | .createReviewMessage input => createReviewMessage item input
  | .coordinatorAck input => acknowledgeReviewMessage item input
  | .approveValidation input => approveValidation item input
  | .requestCommit input => requestCommit item input
  | .attachCommitResult input => attachCommitResult item input
  | .markQueueItemDone input => markQueueItemDone item input
  | .followUpPrompt input => addFollowUpPrompt item input
  | .block input => blockQueueItem item input
  | .fail input => failQueueItem item input

structure ApplyDoneDecisionInput where
  commitAttachedAt : String
  commitHash : Option String
  commitRequestCreatedAt : String
  commitRequestId : String
  commitRequestReason : String
  commitResultId : String
  commitResultSummary : String
  completedAt : String
  coordinatorAgentId : String
  decisionId : String
  reason : String
  validationApprovedAt : String
  validationApprovalId : String
  validationSummary : String

namespace ApplyDoneDecisionInput

def approval (input : ApplyDoneDecisionInput) : ApproveValidationInput :=
  { approvedAt := input.validationApprovedAt
    approvedByCoordinatorAgentId := input.coordinatorAgentId
    summary := input.validationSummary
    validationApprovalId := input.validationApprovalId
    decisionId := none }

def request (input : ApplyDoneDecisionInput) : RequestCommitInput :=
  { commitRequestId := input.commitRequestId
    createdAt := input.commitRequestCreatedAt
    reason := input.commitRequestReason
    requestedByCoordinatorAgentId := input.coordinatorAgentId
    decisionId := none }

def result (input : ApplyDoneDecisionInput) : AttachCommitResultInput :=
  { attachedAt := input.commitAttachedAt
    commitHash := input.commitHash
    commitRequestId := some input.commitRequestId
    commitResultId := input.commitResultId
    status := .success
    summary := input.commitResultSummary
    coordinatorAgentId := none
    decisionId := none }

def done (input : ApplyDoneDecisionInput) : MarkDoneInput :=
  { completedAt := input.completedAt
    coordinatorAgentId := input.coordinatorAgentId
    decisionId := input.decisionId
    reason := input.reason }

/-- The steps of the decision, in order. -/
def steps (input : ApplyDoneDecisionInput) : List LifecycleStep :=
  [.approveValidation input.approval, .requestCommit input.request,
    .attachCommitResult input.result, .markQueueItemDone input.done]

end ApplyDoneDecisionInput

/-- A step that failed ends the decision with its answer. -/
def applyCoordinatorDoneDecisionToQueueLifecycle (item : SmartQueueDogfoodLifecycleItem)
    (input : ApplyDoneDecisionInput) : SmartQueueLifecycleTransitionResult :=
  match approveValidation item input.approval with
  | .failure item error => .failure item error
  | .success approved =>
    match requestCommit approved input.request with
    | .failure item error => .failure item error
    | .success commitRequested =>
      match attachCommitResult commitRequested input.result with
      | .failure item error => .failure item error
      | .success commitAttached => markQueueItemDone commitAttached input.done

/-- The transitions of the controller, beside them every exported step on its own. -/
inductive QueueDogfoodLifecycleTransition where
  | step (step : LifecycleStep)
  | markDone (input : ApplyDoneDecisionInput)

def applyDogfoodLifecycleTransition (item : SmartQueueDogfoodLifecycleItem) :
    QueueDogfoodLifecycleTransition → SmartQueueLifecycleTransitionResult
  | .step s => applyStep item s
  | .markDone input => applyCoordinatorDoneDecisionToQueueLifecycle item input

def QueueDogfoodLifecycleTransition.steps : QueueDogfoodLifecycleTransition → List LifecycleStep
  | .step s => [s]
  | .markDone input => input.steps

/-! ## Traces -/

/-- A step with the item it ran on. -/
abbrev LifecycleEntry := SmartQueueDogfoodLifecycleItem × LifecycleStep

/-- The entries that steps leave when they run one after the other. -/
def entriesFrom (item : SmartQueueDogfoodLifecycleItem) : List LifecycleStep → List LifecycleEntry
  | [] => []
  | step :: rest =>
    (item, step) :: match (applyStep item step).ok? with
      | some item' => entriesFrom item' rest
      | none => []

/-- Runs of successful transitions that all meet a condition on the trace so far, the item
and the transition. -/
inductive LifecycleRun
    (cond : List LifecycleEntry → SmartQueueDogfoodLifecycleItem →
      QueueDogfoodLifecycleTransition → Prop)
    (input : CreateDogfoodLifecycleItemInput) :
    List LifecycleEntry → SmartQueueDogfoodLifecycleItem → Prop
  | create : LifecycleRun cond input [] (createDogfoodLifecycleItem input)
  | transition {trace : List LifecycleEntry} {item item' : SmartQueueDogfoodLifecycleItem}
      {t : QueueDogfoodLifecycleTransition} (hrun : LifecycleRun cond input trace item)
      (hcond : cond trace item t)
      (hok : (applyDogfoodLifecycleTransition item t).ok? = some item') :
      LifecycleRun cond input (trace ++ entriesFrom item t.steps) item'

/-- The two steps that put an item into running. -/
def LifecycleStep.entersRunning : LifecycleStep → Bool
  | .startRun _ | .followUpPrompt _ => true
  | _ => false

/-- The entries since the item last entered running. -/
def currentRound (trace : List LifecycleEntry) : List LifecycleEntry :=
  trace.rtakeWhile fun e => !e.2.entersRunning

/-- The item on which the step into running ran, when there was one. -/
def roundStart (trace : List LifecycleEntry) : Option SmartQueueDogfoodLifecycleItem :=
  (trace.rdropWhile fun e => !e.2.entersRunning).getLast?.map (·.1)

/-! ## What has to come before done -/

/-- A review message was created in the round and then acknowledged. -/
def Reviewed (round : List LifecycleEntry) : Prop :=
  ∃ message ack, ack.messageId = message.messageId ∧
    [.createReviewMessage message, .coordinatorAck ack].Sublist (round.map (·.2))

/-- A commit was requested in the round and then a successful result attached for it. -/
def Committed (round : List LifecycleEntry) : Prop :=
  ∃ before request item result, result.status = .success ∧
    resolvedCommitRequestId item result = some request.commitRequestId ∧
    [(before, .requestCommit request), (item, .attachCommitResult result)].Sublist round

/-- Since the item entered running the agent has finished, a review message was acknowledged,
the validation was approved and a commit succeeded. -/
structure RoundComplete (round : List LifecycleEntry) : Prop where
  finished : ∃ input, .agentFinished input ∈ round.map (·.2)
  reviewed : Reviewed round
  approved : ∃ input, .approveValidation input ∈ round.map (·.2)
  committed : Committed round

/-! ## Records -/

/-- What the guards look up, in the order it was appended. -/
structure LifecycleRecords where
  messages : List String
  approvals : List String
  requests : List String
  results : List (SmartQueueCommitResultStatus × Option String)

def SmartQueueDogfoodLifecycleItem.records (item : SmartQueueDogfoodLifecycleItem) :
    LifecycleRecords :=
  { messages := item.reviewMessages.map (·.messageId)
    approvals := item.validationApprovals.map (·.validationApprovalId)
    requests := item.commitRequests.map (·.commitRequestId)
    results := item.commitResults.map fun r => (r.status, r.commitRequestId) }

namespace LifecycleRecords

def empty : LifecycleRecords := ⟨[], [], [], []⟩

def append (a b : LifecycleRecords) : LifecycleRecords :=
  ⟨a.messages ++ b.messages, a.approvals ++ b.approvals, a.requests ++ b.requests,
    a.results ++ b.results⟩

/-- The records after those of `a`. -/
def since (a b : LifecycleRecords) : LifecycleRecords :=
  ⟨b.messages.drop a.messages.length, b.approvals.drop a.approvals.length,
    b.requests.drop a.requests.length, b.results.drop a.results.length⟩

/-- Records are only ever appended. -/
def Extends (a b : LifecycleRecords) : Prop := ∃ c, b = a.append c

theorem since_append (a c : LifecycleRecords) : since a (a.append c) = c := by
  simp [since, append]

theorem append_assoc (a b c : LifecycleRecords) :
    (a.append b).append c = a.append (b.append c) := by
  simp [append]

theorem append_empty (a : LifecycleRecords) : a.append empty = a := by
  simp [append, empty]

end LifecycleRecords

/-- The records an item had when the round began. -/
def startRecords (trace : List LifecycleEntry) : LifecycleRecords :=
  match roundStart trace with
  | some item => item.records
  | none => .empty

/-- The records of an item since the round began. -/
def thisRound (trace : List LifecycleEntry) (item : SmartQueueDogfoodLifecycleItem) :
    LifecycleRecords := (startRecords trace).since item.records

/-- The records a step adds. -/
def LifecycleStep.adds (item : SmartQueueDogfoodLifecycleItem) : LifecycleStep → LifecycleRecords
  | .createReviewMessage input => { LifecycleRecords.empty with messages := [input.messageId] }
  | .approveValidation input =>
    { LifecycleRecords.empty with approvals := [input.validationApprovalId] }
  | .requestCommit input => { LifecycleRecords.empty with requests := [input.commitRequestId] }
  | .attachCommitResult input =>
    { LifecycleRecords.empty with
      results := [(input.status, resolvedCommitRequestId item input)] }
  | _ => .empty

/-- The state a step runs from, and the state it leaves. -/
def LifecycleStep.states : LifecycleStep →
    SmartQueueDogfoodTicketState × SmartQueueDogfoodTicketState
  | .queue _ => (.draft, .queued)
  | .startRun _ => (.queued, .running)
  | .agentFinished _ => (.running, .awaitingReview)
  | .createReviewMessage _ => (.awaitingReview, .awaitingReview)
  | .coordinatorAck _ => (.awaitingReview, .inReview)
  | .approveValidation _ | .requestCommit _ | .attachCommitResult _ => (.inReview, .inReview)
  | .markQueueItemDone _ => (.inReview, .done)
  | .followUpPrompt _ => (.inReview, .running)
  | .block _ => (.inReview, .blocked)
  | .fail _ => (.inReview, .failure)

/-! ## What a step does -/

theorem fromTicketState_ok {item item' : SmartQueueDogfoodLifecycleItem} {action : String}
    {expected : SmartQueueDogfoodTicketState} {body : SmartQueueLifecycleTransitionResult}
    (h : (fromTicketState item action expected body).ok? = some item') :
    item.ticketState = expected ∧ body.ok? = some item' := by
  unfold fromTicketState assertTicketState at h
  by_cases hterminal : item.ticketState = .done ∨ item.ticketState = .failure
  · rw [if_pos hterminal] at h
    cases h
  · rw [if_neg hterminal] at h
    by_cases hstate : item.ticketState ∉ [expected]
    · rw [if_pos hstate] at h
      cases h
    · rw [if_neg hstate] at h
      refine ⟨?_, h⟩
      simpa using hstate

theorem ok_of_guard {item item' : SmartQueueDogfoodLifecycleItem} {c : Prop} [Decidable c]
    {error : SmartQueueLifecycleTransitionError} {body : SmartQueueLifecycleTransitionResult}
    (h : (if c then .failure item error else body : SmartQueueLifecycleTransitionResult).ok? =
      some item') : body.ok? = some item' := by
  split at h
  · cases h
  · exact h

/-- **The effect of a step**: it runs from one state to another and appends its records. -/
theorem applyStep_effect {item item' : SmartQueueDogfoodLifecycleItem} {s : LifecycleStep}
    (h : (applyStep item s).ok? = some item') :
    item.ticketState = s.states.1 ∧ item'.ticketState = s.states.2 ∧
      item'.records = item.records.append (s.adds item) := by
  cases s with
  | queue queuedAt =>
    obtain ⟨hstate, hbody⟩ := fromTicketState_ok h
    obtain rfl := Option.some.inj hbody
    exact ⟨hstate, rfl, (LifecycleRecords.append_empty _).symm⟩
  | startRun input =>
    obtain ⟨hstate, hbody⟩ := fromTicketState_ok h
    obtain rfl := Option.some.inj (ok_of_guard hbody)
    exact ⟨hstate, rfl, (LifecycleRecords.append_empty _).symm⟩
  | agentFinished input =>
    have hfinish : ∃ finish : FinishAgentPromptInput,
        (finishAgentPrompt item finish).ok? = some item' := by
      change (applyAgentFinishedToQueueLifecycle item input).ok? = some item' at h
      unfold applyAgentFinishedToQueueLifecycle at h
      split at h
      · exact ⟨_, h⟩
      · exact ⟨_, h⟩
      · exact ⟨_, h⟩
    obtain ⟨finish, hfinish⟩ := hfinish
    obtain ⟨hstate, hbody⟩ := fromTicketState_ok hfinish
    obtain rfl := Option.some.inj (ok_of_guard hbody)
    exact ⟨hstate, rfl, (LifecycleRecords.append_empty _).symm⟩
  | createReviewMessage input =>
    obtain ⟨hstate, hbody⟩ := fromTicketState_ok h
    split at hbody
    · cases hbody
    · obtain rfl := Option.some.inj (ok_of_guard hbody)
      refine ⟨hstate, hstate, ?_⟩
      simp [SmartQueueDogfoodLifecycleItem.records, LifecycleStep.adds, LifecycleRecords.append,
        LifecycleRecords.empty]
  | coordinatorAck input =>
    obtain ⟨hstate, hbody⟩ := fromTicketState_ok h
    split at hbody
    · cases hbody
    · obtain rfl := Option.some.inj (ok_of_guard hbody)
      exact ⟨hstate, rfl, (LifecycleRecords.append_empty _).symm⟩
  | approveValidation input =>
    obtain ⟨hstate, hbody⟩ := fromTicketState_ok h
    obtain rfl := Option.some.inj hbody
    refine ⟨hstate, hstate, ?_⟩
    simp [SmartQueueDogfoodLifecycleItem.records, LifecycleStep.adds, LifecycleRecords.append,
      LifecycleRecords.empty]
  | requestCommit input =>
    obtain ⟨hstate, hbody⟩ := fromTicketState_ok h
    obtain rfl := Option.some.inj (ok_of_guard hbody)
    refine ⟨hstate, hstate, ?_⟩
    simp [SmartQueueDogfoodLifecycleItem.records, LifecycleStep.adds, LifecycleRecords.append,
      LifecycleRecords.empty]
  | attachCommitResult input =>
    obtain ⟨hstate, hbody⟩ := fromTicketState_ok h
    obtain rfl := Option.some.inj (ok_of_guard (ok_of_guard hbody))
    refine ⟨hstate, hstate, ?_⟩
    simp [SmartQueueDogfoodLifecycleItem.records, LifecycleStep.adds, LifecycleRecords.append,
      LifecycleRecords.empty]
  | markQueueItemDone input =>
    obtain ⟨hstate, hbody⟩ := fromTicketState_ok h
    obtain rfl := Option.some.inj (ok_of_guard (ok_of_guard (ok_of_guard hbody)))
    exact ⟨hstate, rfl, (LifecycleRecords.append_empty _).symm⟩
  | followUpPrompt input =>
    obtain ⟨hstate, hbody⟩ := fromTicketState_ok h
    obtain rfl := Option.some.inj (ok_of_guard hbody)
    exact ⟨hstate, rfl, (LifecycleRecords.append_empty _).symm⟩
  | block input | fail input =>
    obtain ⟨hstate, hbody⟩ := fromTicketState_ok h
    obtain rfl := Option.some.inj hbody
    exact ⟨hstate, rfl, (LifecycleRecords.append_empty _).symm⟩

/-! ## Rounds -/

theorem currentRound_concat {trace : List LifecycleEntry} {e : LifecycleEntry}
    (h : e.2.entersRunning = false) : currentRound (trace ++ [e]) = currentRound trace ++ [e] := by
  rw [currentRound, List.rtakeWhile_concat, if_pos (by rw [h]; rfl), currentRound]

theorem roundStart_concat {trace : List LifecycleEntry} {e : LifecycleEntry}
    (h : e.2.entersRunning = false) : roundStart (trace ++ [e]) = roundStart trace := by
  rw [roundStart, List.rdropWhile_concat, if_pos (by rw [h]; rfl), roundStart]

theorem startRecords_concat {trace : List LifecycleEntry}
    {item : SmartQueueDogfoodLifecycleItem} {s : LifecycleStep} (h : s.entersRunning = false) :
    startRecords (trace ++ [(item, s)]) = startRecords trace := by
  have hstart : roundStart (trace ++ [(item, s)]) = roundStart trace := roundStart_concat h
  rw [startRecords, hstart, startRecords]

theorem roundStart_enter {trace : List LifecycleEntry} {e : LifecycleEntry}
    (h : e.2.entersRunning = true) : roundStart (trace ++ [e]) = some e.1 := by
  rw [roundStart, List.rdropWhile_concat, if_neg (by simp [h]), List.getLast?_concat]
  rfl

theorem LifecycleStep.adds_messages {s : LifecycleStep} {item : SmartQueueDogfoodLifecycleItem}
    {id : String} (h : id ∈ (s.adds item).messages) :
    ∃ input, s = .createReviewMessage input ∧ input.messageId = id := by
  cases s with
  | createReviewMessage input => exact ⟨input, rfl, (List.mem_singleton.1 h).symm⟩
  | _ => cases h

theorem LifecycleStep.adds_approvals {s : LifecycleStep} {item : SmartQueueDogfoodLifecycleItem}
    (h : (s.adds item).approvals ≠ []) : ∃ input, s = .approveValidation input := by
  cases s with
  | approveValidation input => exact ⟨input, rfl⟩
  | _ => exact absurd rfl h

theorem LifecycleStep.adds_requests {s : LifecycleStep} {item : SmartQueueDogfoodLifecycleItem}
    {id : String} (h : id ∈ (s.adds item).requests) :
    ∃ input, s = .requestCommit input ∧ input.commitRequestId = id := by
  cases s with
  | requestCommit input => exact ⟨input, rfl, (List.mem_singleton.1 h).symm⟩
  | _ => cases h

theorem LifecycleStep.adds_results {s : LifecycleStep} {item : SmartQueueDogfoodLifecycleItem}
    {result : SmartQueueCommitResultStatus × Option String} (h : result ∈ (s.adds item).results) :
    ∃ input, s = .attachCommitResult input ∧
      result = (input.status, resolvedCommitRequestId item input) := by
  cases s with
  | attachCommitResult input => exact ⟨input, rfl, List.mem_singleton.1 h⟩
  | _ => cases h

theorem Reviewed.mono {round : List LifecycleEntry} (h : Reviewed round)
    (later : List LifecycleEntry) : Reviewed (round ++ later) := by
  obtain ⟨message, ack, hid, hsub⟩ := h
  refine ⟨message, ack, hid, ?_⟩
  rw [List.map_append]
  exact hsub.trans (List.sublist_append_left _ _)

theorem Committed.mono {round : List LifecycleEntry} (h : Committed round)
    (later : List LifecycleEntry) : Committed (round ++ later) := by
  obtain ⟨before, request, item, result, hsuccess, hfor, hsub⟩ := h
  exact ⟨before, request, item, result, hsuccess, hfor, hsub.trans (List.sublist_append_left _ _)⟩

theorem RoundComplete.mono {round : List LifecycleEntry} (h : RoundComplete round)
    (later : List LifecycleEntry) : RoundComplete (round ++ later) := by
  obtain ⟨input, hfinished⟩ := h.finished
  obtain ⟨approval, happroved⟩ := h.approved
  refine ⟨⟨input, ?_⟩, h.reviewed.mono later, ⟨approval, ?_⟩, h.committed.mono later⟩
  · rw [List.map_append]
    exact List.mem_append_left _ hfinished
  · rw [List.map_append]
    exact List.mem_append_left _ happroved

/-! ## Guards -/

/-- What the guards of a step that succeeds have found, whichever round it is from. -/
def GuardsMet (item : SmartQueueDogfoodLifecycleItem) : LifecycleStep → Prop
  | .coordinatorAck ack => ack.messageId ∈ item.records.messages
  | .attachCommitResult result =>
    ∃ id, resolvedCommitRequestId item result = some id ∧ (id = "" ∨ id ∈ item.records.requests)
  | .markQueueItemDone _ => item.records.approvals ≠ [] ∧
      ∃ result ∈ item.records.results, result.1 = .success
  | _ => True

/-- **A step that succeeds has met its guards.** -/
theorem guardsMet_of_ok {item item' : SmartQueueDogfoodLifecycleItem} {s : LifecycleStep}
    (h : (applyStep item s).ok? = some item') : GuardsMet item s := by
  cases s with
  | coordinatorAck ack =>
    obtain ⟨-, hbody⟩ := fromTicketState_ok h
    split at hbody
    · cases hbody
    · next message hmessage =>
      have hid := List.find?_some hmessage
      rw [decide_eq_true_eq] at hid
      have hmem : message.messageId ∈ item.records.messages :=
        List.mem_map_of_mem (List.mem_of_find?_eq_some hmessage)
      rw [hid] at hmem
      exact hmem
  | attachCommitResult result =>
    obtain ⟨-, hbody⟩ := fromTicketState_ok h
    split at hbody
    · cases hbody
    next hsome =>
    simp only at hbody
    split at hbody
    · cases hbody
    next hknown =>
    have hresolved : resolvedCommitRequestId item result ≠ none := by
      rw [resolvedCommitRequestId]
      cases result.commitRequestId with
      | some id => exact nofun
      | none => simpa using hsome
    obtain ⟨id, hid⟩ := Option.ne_none_iff_exists'.1 hresolved
    refine ⟨id, hid, ?_⟩
    by_contra hneither
    rw [not_or] at hneither
    apply hknown
    rw [hid]
    refine ⟨by simp, by simpa using hneither.1, ?_⟩
    intro hany
    obtain ⟨request, hmem, hrequest⟩ := List.any_eq_true.1 hany
    rw [decide_eq_true_eq, Option.some.injEq] at hrequest
    exact hneither.2 (hrequest ▸ List.mem_map_of_mem hmem)
  | markQueueItemDone input =>
    obtain ⟨-, hbody⟩ := fromTicketState_ok h
    split at hbody
    · cases hbody
    split at hbody
    · cases hbody
    next happroved =>
    split at hbody
    · cases hbody
    next hsuccess =>
    rw [not_not, List.any_eq_true] at hsuccess
    obtain ⟨result, hmem, hstatus⟩ := hsuccess
    rw [decide_eq_true_eq] at hstatus
    refine ⟨fun hnone => happroved (List.map_eq_nil_iff.1 hnone), _, List.mem_map_of_mem hmem,
      hstatus⟩
  | _ => trivial

/-- A step names no record of an earlier round: no review message and no commit request that was
there when the round began, unless the round has one with this id as well, and no empty id for a
commit request; and an item is marked done on its own only when the approvals and the successful
results of earlier rounds, if there are any, have been followed by one of this round. -/
def NoStaleRecord (trace : List LifecycleEntry) (item : SmartQueueDogfoodLifecycleItem) :
    LifecycleStep → Prop
  | .coordinatorAck ack => ack.messageId ∈ (startRecords trace).messages →
      ack.messageId ∈ (thisRound trace item).messages
  | .attachCommitResult result => result.status = .success →
      ∀ id ∈ resolvedCommitRequestId item result, id = "" ∨ id ∈ (startRecords trace).requests →
        id ∈ (thisRound trace item).requests
  | .markQueueItemDone _ =>
    ((startRecords trace).approvals ≠ [] → (thisRound trace item).approvals ≠ []) ∧
      ((∃ result ∈ (startRecords trace).results, result.1 = .success) →
        ∃ result ∈ (thisRound trace item).results, result.1 = .success)
  | _ => True

/-- The decision of the controller makes its own records, so only single steps are at stake. -/
def NoStaleTransition (trace : List LifecycleEntry) (item : SmartQueueDogfoodLifecycleItem) :
    QueueDogfoodLifecycleTransition → Prop
  | .step s => NoStaleRecord trace item s
  | .markDone _ => True

instance (trace : List LifecycleEntry) (item : SmartQueueDogfoodLifecycleItem) :
    (t : QueueDogfoodLifecycleTransition) → Decidable (NoStaleTransition trace item t)
  | .markDone _ => isTrue trivial
  | .step s =>
    match s with
    | .coordinatorAck ack =>
      inferInstanceAs (Decidable (ack.messageId ∈ (startRecords trace).messages →
        ack.messageId ∈ (thisRound trace item).messages))
    | .attachCommitResult result =>
      inferInstanceAs (Decidable (result.status = .success →
        ∀ id ∈ resolvedCommitRequestId item result, id = "" ∨ id ∈ (startRecords trace).requests →
          id ∈ (thisRound trace item).requests))
    | .markQueueItemDone _ =>
      inferInstanceAs (Decidable
        (((startRecords trace).approvals ≠ [] → (thisRound trace item).approvals ≠ []) ∧
          ((∃ result ∈ (startRecords trace).results, result.1 = .success) →
            ∃ result ∈ (thisRound trace item).results, result.1 = .success)))
    | .queue _ | .startRun _ | .agentFinished _ | .createReviewMessage _ | .approveValidation _
    | .requestCommit _ | .followUpPrompt _ | .block _ | .fail _ => isTrue trivial

/-- The guards a step has met were met by records of this round: the acknowledged message was
created in it, a successful result is for a commit requested in it, and an item is marked done
on an approval and a successful result of it. -/
def FreshGuards (trace : List LifecycleEntry) (item : SmartQueueDogfoodLifecycleItem) :
    LifecycleStep → Prop
  | .coordinatorAck ack => ack.messageId ∈ (thisRound trace item).messages
  | .attachCommitResult result => result.status = .success →
      ∃ id ∈ (thisRound trace item).requests, resolvedCommitRequestId item result = some id
  | .markQueueItemDone _ => (thisRound trace item).approvals ≠ [] ∧
      ∃ result ∈ (thisRound trace item).results, result.1 = .success
  | _ => True

/-- **What a guard finds that is not of an earlier round is of this one.** -/
theorem FreshGuards.of_met {trace : List LifecycleEntry} {item : SmartQueueDogfoodLifecycleItem}
    {s : LifecycleStep} (hgrown : (startRecords trace).Extends item.records)
    (hstale : NoStaleRecord trace item s) (hmet : GuardsMet item s) :
    FreshGuards trace item s := by
  obtain ⟨c, hc⟩ := hgrown
  have hthis : thisRound trace item = c := by
    rw [thisRound, hc, LifecycleRecords.since_append]
  cases s with
  | coordinatorAck ack =>
    have hmem : ack.messageId ∈ item.records.messages := hmet
    rw [hc] at hmem
    change ack.messageId ∈ (thisRound trace item).messages
    rcases List.mem_append.1 hmem with hold | hnew
    · exact hstale hold
    · rwa [hthis]
  | attachCommitResult result =>
    intro hsuccess
    obtain ⟨id, hid, hknown⟩ := hmet
    refine ⟨id, ?_, hid⟩
    have hearlier := hstale hsuccess id hid
    rcases hknown with hempty | hmem
    · exact hearlier (Or.inl hempty)
    · rw [hc] at hmem
      rcases List.mem_append.1 hmem with hold | hnew
      · exact hearlier (Or.inr hold)
      · exact hthis ▸ hnew
  | markQueueItemDone input =>
    obtain ⟨happroved, result, hresult, hsuccess⟩ := hmet
    rw [hc] at happroved hresult
    constructor
    · by_cases hold : (startRecords trace).approvals = []
      · rw [hthis]
        intro hnone
        exact happroved (by rw [LifecycleRecords.append, hold, hnone]; rfl)
      · exact hstale.1 hold
    · rcases List.mem_append.1 hresult with hold | hnew
      · exact hstale.2 ⟨result, hold, hsuccess⟩
      · exact ⟨result, hthis ▸ hnew, hsuccess⟩
  | _ => trivial

/-- What the state of an item and its records say about its round. -/
structure RoundInvariant (trace : List LifecycleEntry) (item : SmartQueueDogfoodLifecycleItem) :
    Prop where
  grown : (startRecords trace).Extends item.records
  messages : ∀ id ∈ (thisRound trace item).messages, ∃ input, input.messageId = id ∧
    .createReviewMessage input ∈ (currentRound trace).map (·.2)
  approvals : (thisRound trace item).approvals ≠ [] →
    ∃ input, .approveValidation input ∈ (currentRound trace).map (·.2)
  requests : ∀ id ∈ (thisRound trace item).requests, ∃ before input,
    input.commitRequestId = id ∧ (before, .requestCommit input) ∈ currentRound trace
  results : ∀ id, (.success, id) ∈ (thisRound trace item).results → Committed (currentRound trace)
  finished : item.ticketState = .awaitingReview ∨ item.ticketState = .inReview →
    ∃ input, .agentFinished input ∈ (currentRound trace).map (·.2)
  reviewed : item.ticketState = .inReview → Reviewed (currentRound trace)
  done : item.ticketState = .done → RoundComplete (currentRound trace)

theorem RoundInvariant.create (input : CreateDogfoodLifecycleItemInput) :
    RoundInvariant [] (createDogfoodLifecycleItem input) where
  grown := ⟨.empty, rfl⟩
  messages := fun _ h => by cases h
  approvals := fun h => absurd rfl h
  requests := fun _ h => by cases h
  results := fun _ h => by cases h
  finished := fun h => by rcases h with h | h <;> cases h
  reviewed := fun h => by cases h
  done := fun h => by cases h

/-- Entering running begins a round without records. -/
theorem RoundInvariant.enter {trace : List LifecycleEntry}
    {item item' : SmartQueueDogfoodLifecycleItem} {s : LifecycleStep}
    (henter : s.entersRunning = true) (hok : (applyStep item s).ok? = some item') :
    RoundInvariant (trace ++ [(item, s)]) item' := by
  obtain ⟨-, hstate, hrecords⟩ := applyStep_effect hok
  have hadds : s.adds item = .empty := by cases s <;> first | rfl | cases henter
  have hrunning : item'.ticketState = .running := by
    rw [hstate]
    cases s <;> first | rfl | cases henter
  rw [hadds, LifecycleRecords.append_empty] at hrecords
  have hstart : roundStart (trace ++ [(item, s)]) = some item := roundStart_enter henter
  have hthis : thisRound (trace ++ [(item, s)]) item' = .empty := by
    simp [thisRound, startRecords, hstart, hrecords, LifecycleRecords.since,
      LifecycleRecords.empty]
  refine ⟨⟨.empty, ?_⟩, ?_, ?_, ?_, ?_, ?_, ?_, ?_⟩
  · rw [startRecords, hstart, hrecords, LifecycleRecords.append_empty]
  · rw [hthis]
    exact fun _ h => by cases h
  · rw [hthis]
    exact fun h => absurd rfl h
  · rw [hthis]
    exact fun _ h => by cases h
  · rw [hthis]
    exact fun _ h => by cases h
  · rw [hrunning]
    exact fun h => by rcases h with h | h <;> cases h
  · rw [hrunning]
    exact fun h => by cases h
  · rw [hrunning]
    exact fun h => by cases h

/-- The records of the round after a step that stays in it. -/
theorem RoundInvariant.thisRound_step {trace : List LifecycleEntry}
    {item item' : SmartQueueDogfoodLifecycleItem} {s : LifecycleStep}
    (h : RoundInvariant trace item) (hstay : s.entersRunning = false)
    (hok : (applyStep item s).ok? = some item') :
    thisRound (trace ++ [(item, s)]) item' = (thisRound trace item).append (s.adds item) := by
  obtain ⟨-, -, hrecords⟩ := applyStep_effect hok
  obtain ⟨c, hc⟩ := h.grown
  rw [thisRound, thisRound, startRecords_concat hstay, hrecords, hc,
    LifecycleRecords.append_assoc, LifecycleRecords.since_append, LifecycleRecords.since_append]

/-- **A step that names no record of an earlier round keeps the invariant.** -/
theorem RoundInvariant.stay {trace : List LifecycleEntry}
    {item item' : SmartQueueDogfoodLifecycleItem} {s : LifecycleStep}
    (h : RoundInvariant trace item) (hstay : s.entersRunning = false)
    (hstale : NoStaleRecord trace item s) (hok : (applyStep item s).ok? = some item') :
    RoundInvariant (trace ++ [(item, s)]) item' := by
  have hfresh := FreshGuards.of_met h.grown hstale (guardsMet_of_ok hok)
  have hthis := h.thisRound_step hstay hok
  obtain ⟨hfrom, hto, hrecords⟩ := applyStep_effect hok
  have hround : currentRound (trace ++ [(item, s)]) = currentRound trace ++ [(item, s)] :=
    currentRound_concat hstay
  have hsteps : (currentRound (trace ++ [(item, s)])).map (·.2) =
      (currentRound trace).map (·.2) ++ [s] := by
    rw [hround, List.map_append]
    rfl
  have hfinished : item'.ticketState = .awaitingReview ∨ item'.ticketState = .inReview ∨
      item'.ticketState = .done →
      ∃ input, .agentFinished input ∈ (currentRound trace).map (·.2) ++ [s] := by
    rw [hto]
    intro hstate
    by_cases hsource : item.ticketState = .awaitingReview ∨ item.ticketState = .inReview
    · obtain ⟨input, hmem⟩ := h.finished hsource
      exact ⟨input, List.mem_append_left _ hmem⟩
    · rw [hfrom] at hsource
      cases s with
      | agentFinished input => exact ⟨input, List.mem_append_right _ (List.mem_singleton_self _)⟩
      | _ => simp [LifecycleStep.states] at hstate hsource
  have hreviewed : item'.ticketState = .inReview ∨ item'.ticketState = .done →
      Reviewed (currentRound trace ++ [(item, s)]) := by
    rw [hto]
    intro hstate
    by_cases hsource : item.ticketState = .inReview
    · exact (h.reviewed hsource).mono _
    · rw [hfrom] at hsource
      cases s with
      | coordinatorAck ack =>
        obtain ⟨message, hid, hmem⟩ := h.messages _ hfresh
        refine ⟨message, ack, hid.symm, ?_⟩
        rw [List.map_append]
        exact (List.singleton_sublist.2 hmem).append (List.Sublist.refl _)
      | _ => simp [LifecycleStep.states] at hstate hsource
  refine ⟨?_, ?_, ?_, ?_, ?_, ?_, ?_, ?_⟩
  · obtain ⟨c, hc⟩ := h.grown
    rw [startRecords_concat hstay, hrecords, hc, LifecycleRecords.append_assoc]
    exact ⟨_, rfl⟩
  · rw [hthis, hsteps]
    intro id hid
    rcases List.mem_append.1 hid with hid | hid
    · obtain ⟨input, hinput, hmem⟩ := h.messages id hid
      exact ⟨input, hinput, List.mem_append_left _ hmem⟩
    · obtain ⟨input, rfl, hinput⟩ := LifecycleStep.adds_messages hid
      exact ⟨input, hinput, List.mem_append_right _ (List.mem_singleton_self _)⟩
  · rw [hthis, hsteps]
    intro happrovals
    by_cases hold : (thisRound trace item).approvals = []
    · have hnew : (s.adds item).approvals ≠ [] := by
        intro hnone
        exact happrovals (by rw [LifecycleRecords.append, hold, hnone]; rfl)
      obtain ⟨input, rfl⟩ := LifecycleStep.adds_approvals hnew
      exact ⟨input, List.mem_append_right _ (List.mem_singleton_self _)⟩
    · obtain ⟨input, hmem⟩ := h.approvals hold
      exact ⟨input, List.mem_append_left _ hmem⟩
  · rw [hthis, hround]
    intro id hid
    rcases List.mem_append.1 hid with hid | hid
    · obtain ⟨before, input, hinput, hmem⟩ := h.requests id hid
      exact ⟨before, input, hinput, List.mem_append_left _ hmem⟩
    · obtain ⟨input, rfl, hinput⟩ := LifecycleStep.adds_requests hid
      exact ⟨item, input, hinput, List.mem_append_right _ (List.mem_singleton_self _)⟩
  · rw [hthis, hround]
    intro id hid
    rcases List.mem_append.1 hid with hid | hid
    · exact (h.results id hid).mono _
    · obtain ⟨input, rfl, hresult⟩ := LifecycleStep.adds_results hid
      have hsuccess : input.status = .success := (congrArg Prod.fst hresult).symm
      obtain ⟨requestId, hmem, hfor⟩ := hfresh hsuccess
      obtain ⟨before, request, rfl, hrequest⟩ := h.requests requestId hmem
      exact ⟨before, request, item, input, hsuccess, hfor,
        (List.singleton_sublist.2 hrequest).append (List.Sublist.refl _)⟩
  · rw [hsteps]
    exact fun hstate => hfinished (by tauto)
  · rw [hround]
    exact fun hstate => hreviewed (Or.inl hstate)
  · rw [hround]
    intro hdone
    have hmark : ∃ input, s = .markQueueItemDone input := by
      rw [hto] at hdone
      cases s with
      | markQueueItemDone input => exact ⟨input, rfl⟩
      | _ => cases hdone
    obtain ⟨input, rfl⟩ := hmark
    obtain ⟨happrovals, ⟨status, id⟩, hresult, rfl⟩ := hfresh
    obtain ⟨finish, hfinish⟩ := h.finished (Or.inr hfrom)
    have hcomplete : RoundComplete (currentRound trace) :=
      ⟨⟨finish, hfinish⟩, h.reviewed hfrom, h.approvals happrovals, h.results id hresult⟩
    exact hcomplete.mono _

theorem RoundInvariant.step {trace : List LifecycleEntry}
    {item item' : SmartQueueDogfoodLifecycleItem} {s : LifecycleStep}
    (h : RoundInvariant trace item) (hstale : NoStaleRecord trace item s)
    (hok : (applyStep item s).ok? = some item') : RoundInvariant (trace ++ [(item, s)]) item' := by
  by_cases henter : s.entersRunning = true
  · exact RoundInvariant.enter henter hok
  · exact h.stay (by simpa using henter) hstale hok

/-! ## Runs -/

theorem ok_eq_some {r : SmartQueueLifecycleTransitionResult}
    {item : SmartQueueDogfoodLifecycleItem} : r.ok? = some item ↔ r = .success item := by
  cases r <;> simp [SmartQueueLifecycleTransitionResult.ok?]

/-- The four steps of a decision that succeeded. -/
theorem applyCoordinatorDoneDecision_ok {item item' : SmartQueueDogfoodLifecycleItem}
    {input : ApplyDoneDecisionInput}
    (h : (applyCoordinatorDoneDecisionToQueueLifecycle item input).ok? = some item') :
    ∃ approved requested attached,
      (applyStep item (.approveValidation input.approval)).ok? = some approved ∧
      (applyStep approved (.requestCommit input.request)).ok? = some requested ∧
      (applyStep requested (.attachCommitResult input.result)).ok? = some attached ∧
      (applyStep attached (.markQueueItemDone input.done)).ok? = some item' := by
  unfold applyCoordinatorDoneDecisionToQueueLifecycle at h
  split at h
  · cases h
  · rename_i approved happrove
    split at h
    · cases h
    · rename_i requested hrequest
      split at h
      · cases h
      · rename_i attached hattach
        exact ⟨approved, requested, attached, ok_eq_some.2 happrove, ok_eq_some.2 hrequest,
          ok_eq_some.2 hattach, h⟩

/-- The decision of the controller makes the records that its steps name. -/
theorem RoundInvariant.markDone {trace : List LifecycleEntry}
    {item item' : SmartQueueDogfoodLifecycleItem} {input : ApplyDoneDecisionInput}
    (h : RoundInvariant trace item)
    (hok : (applyCoordinatorDoneDecisionToQueueLifecycle item input).ok? = some item') :
    RoundInvariant (trace ++ entriesFrom item input.steps) item' := by
  obtain ⟨approved, requested, attached, happrove, hrequest, hattach, hmark⟩ :=
    applyCoordinatorDoneDecision_ok hok
  have happroved := h.step (s := .approveValidation input.approval) trivial happrove
  have happrovedRecords := h.thisRound_step rfl happrove
  have hrequested := happroved.step (s := .requestCommit input.request) trivial hrequest
  have hrequestedRecords := happroved.thisRound_step rfl hrequest
  rw [happrovedRecords] at hrequestedRecords
  have hattached := hrequested.step (s := .attachCommitResult input.result)
    (fun _ id hid _ => by
      obtain rfl := Option.some.inj hid
      rw [hrequestedRecords]
      exact List.mem_append_right _ (List.mem_singleton_self _)) hattach
  have hattachedRecords := hrequested.thisRound_step rfl hattach
  rw [hrequestedRecords] at hattachedRecords
  have hdone := hattached.step (s := .markQueueItemDone input.done) (by
    refine ⟨fun _ => ?_, fun _ => ⟨(.success, some input.commitRequestId), ?_, rfl⟩⟩
    · rw [hattachedRecords]
      simp [LifecycleRecords.append, LifecycleStep.adds, LifecycleRecords.empty]
    · rw [hattachedRecords]
      exact List.mem_append_right _ (List.mem_singleton_self _)) hmark
  have hentries : entriesFrom item input.steps =
      [(item, .approveValidation input.approval), (approved, .requestCommit input.request),
        (requested, .attachCommitResult input.result),
        (attached, .markQueueItemDone input.done)] := by
    simp only [ApplyDoneDecisionInput.steps, entriesFrom, happrove, hrequest, hattach, hmark]
  rw [hentries]
  simpa using hdone

theorem RoundInvariant.of_run {input : CreateDogfoodLifecycleItemInput}
    {trace : List LifecycleEntry} {item : SmartQueueDogfoodLifecycleItem}
    (h : LifecycleRun NoStaleTransition input trace item) : RoundInvariant trace item := by
  induction h with
  | create => exact RoundInvariant.create input
  | @transition trace item item' t hrun hfresh hok ih =>
    cases t with
    | step s =>
      have hentries : entriesFrom item [s] = [(item, s)] := by
        change (item, s) :: _ = _
        split <;> rfl
      rw [QueueDogfoodLifecycleTransition.steps, hentries]
      exact ih.step hfresh hok
    | markDone decision => exact ih.markDone hok

/-- **Done is about the current attempt.** In a run whose transitions name no record of an
earlier round, an item is done only after a whole round: since it last entered
running the agent has finished, a review message was created and acknowledged, the validation
was approved and a successful result was attached for a commit requested in the round. -/
theorem lifecycle_done_in_round {input : CreateDogfoodLifecycleItemInput}
    {trace : List LifecycleEntry} {item : SmartQueueDogfoodLifecycleItem}
    (hrun : LifecycleRun NoStaleTransition input trace item) (hdone : item.ticketState = .done) :
    RoundComplete (currentRound trace) :=
  (RoundInvariant.of_run hrun).done hdone

/-! ## Two rounds -/

/-- Transitions taken one after the other as long as they succeed and meet the condition. -/
def runTransitions
    (cond : List LifecycleEntry → SmartQueueDogfoodLifecycleItem →
      QueueDogfoodLifecycleTransition → Prop) [∀ trace item t, Decidable (cond trace item t)]
    (trace : List LifecycleEntry) (item : SmartQueueDogfoodLifecycleItem) :
    List QueueDogfoodLifecycleTransition →
      Option (List LifecycleEntry × SmartQueueDogfoodLifecycleItem)
  | [] => some (trace, item)
  | t :: rest =>
    if cond trace item t then
      match (applyDogfoodLifecycleTransition item t).ok? with
      | some item' => runTransitions cond (trace ++ entriesFrom item t.steps) item' rest
      | none => none
    else none

theorem LifecycleRun.of_runTransitions
    {cond : List LifecycleEntry → SmartQueueDogfoodLifecycleItem →
      QueueDogfoodLifecycleTransition → Prop} [∀ trace item t, Decidable (cond trace item t)]
    {input : CreateDogfoodLifecycleItemInput} {transitions : List QueueDogfoodLifecycleTransition}
    {trace trace' : List LifecycleEntry} {item item' : SmartQueueDogfoodLifecycleItem}
    (hrun : LifecycleRun cond input trace item)
    (h : runTransitions cond trace item transitions = some (trace', item')) :
    LifecycleRun cond input trace' item' := by
  induction transitions generalizing trace item with
  | nil =>
    obtain ⟨rfl, rfl⟩ := Prod.mk.inj (Option.some.inj h)
    exact hrun
  | cons t rest ih =>
    rw [runTransitions] at h
    split at h
    · rename_i hcond
      split at h
      · rename_i next hok
        exact ih (hrun.transition hcond hok) h
      · cases h
    · cases h

def sampleItem : CreateDogfoodLifecycleItemInput :=
  { taskId := "t", title := none, originalPrompt := some "p", createdAt := "0" }

def sampleFinished : LifecycleStep :=
  .agentFinished
    { attemptId := none, changedFilesSummary := none, finalAgentMessage := "m", finishedAt := "0"
      outcome := .completed, threadId := none, validationSummary := none
      workerEvidenceBundle := none }

def sampleMessage (messageId : String) : LifecycleStep :=
  .createReviewMessage
    { messageId, toCoordinatorAgentId := "c", createdAt := "0", attemptId := none
      evidenceSummary := none, finalAgentMessage := none, validationSummary := none
      changedFilesSummary := none, workerEvidenceBundle := none }

def sampleAck (messageId : String) : LifecycleStep :=
  .coordinatorAck { ackId := "a", messageId, coordinatorAgentId := "c", receivedAt := "0" }

def sampleDone : QueueDogfoodLifecycleTransition :=
  .markDone
    { commitAttachedAt := "0", commitHash := none, commitRequestCreatedAt := "0"
      commitRequestId := "r", commitRequestReason := "r", commitResultId := "s"
      commitResultSummary := "s", completedAt := "0", coordinatorAgentId := "c"
      decisionId := "d", reason := "d", validationApprovedAt := "0", validationApprovalId := "v"
      validationSummary := "v" }

/-- A first round that ends in a follow-up prompt, and the agent's second answer. -/
def sampleFollowUp : List QueueDogfoodLifecycleTransition :=
  [.step (.queue "0"),
    .step (.startRun
      { attemptId := none, threadId := none, runnablePrompt := none, startedAt := "0" }),
    .step sampleFinished, .step (sampleMessage "1"), .step (sampleAck "1"),
    .step (.followUpPrompt
      { followUpPromptId := "f", prompt := "q", createdByCoordinatorAgentId := "c"
        createdAt := "0", parentAttemptId := none, threadId := none, decisionId := none }),
    .step sampleFinished]

/-- With a review message of its own the second round is a whole one. -/
theorem lifecycle_done_in_round_second :
    ∃ trace item, LifecycleRun NoStaleTransition sampleItem trace item ∧
      item.ticketState = .done ∧ RoundComplete (currentRound trace) := by
  have hdone : (runTransitions NoStaleTransition [] (createDogfoodLifecycleItem sampleItem)
      (sampleFollowUp ++ [.step (sampleMessage "2"), .step (sampleAck "2"), sampleDone])).map
        (·.2.ticketState) = some .done := by decide +kernel
  obtain ⟨⟨trace, item⟩, hrun, hstate⟩ := Option.map_eq_some_iff.1 hdone
  have hfresh := LifecycleRun.create.of_runTransitions hrun
  exact ⟨trace, item, hfresh, hstate, lifecycle_done_in_round hfresh hstate⟩

def LifecycleStep.isReviewMessage : LifecycleStep → Bool
  | .createReviewMessage _ => true
  | _ => false

/-- The message of the first round is acknowledged again, and the item is done although the
second round has no review message. -/
theorem stale_review_message_reaches_done :
    ¬ ∀ input trace item, LifecycleRun (fun _ _ _ => True) input trace item →
      item.ticketState = .done → RoundComplete (currentRound trace) := by
  intro hall
  have hdone : (runTransitions (fun _ _ _ => True) [] (createDogfoodLifecycleItem sampleItem)
      (sampleFollowUp ++ [.step (sampleAck "1"), sampleDone])).map
        (fun r => (r.2.ticketState, ((currentRound r.1).map (·.2)).any (·.isReviewMessage))) =
      some (.done, false) := by decide +kernel
  obtain ⟨⟨trace, item⟩, hrun, hstate⟩ := Option.map_eq_some_iff.1 hdone
  obtain ⟨hticket, hnone⟩ := Prod.mk.inj hstate
  have hround := hall sampleItem trace item (LifecycleRun.create.of_runTransitions hrun) hticket
  obtain ⟨message, ack, -, hsub⟩ := hround.reviewed
  have hmem : .createReviewMessage message ∈ (currentRound trace).map (·.2) :=
    hsub.subset List.mem_cons_self
  have hany := List.any_eq_false.1 hnone _ hmem
  exact hany rfl

end HobitQueue.Frontend
