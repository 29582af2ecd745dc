import HobitQueue.Lib.Frame
import HobitQueue.Workflow.Finalization

/-!
# What a resolution names

The review step and the finalization step are resolved by a cascade of checks against one
run. Whatever they come to, the resolution and the refusals that block name the request and
the run that were found.
-/

namespace HobitQueue

theorem refusesWith_refuseIf {ε : Type} {P : ε → Prop} {c : Bool} {answer : ε}
    (h : P answer) : RefusesWith P (refuseIf c answer) := by
  cases c with
  | false => exact refusesWith_ok ()
  | true => exact refusesWith_error h

theorem mapError_ok {ε ε' α : Type} {g : ε → ε'} {x : Except ε α} {a : α} :
    x.mapError g = .ok a ↔ x = .ok a := by
  cases x <;> simp [Except.mapError]

/-! ## The review step -/

namespace WorkflowReview

/-- A refusal that blocks, blocks this request on this run. -/
def NamesRun (request : NormalizedReviewStepRequest) (run : AgentQueueWorkflowRunRow) :
    ReviewStepRefusal → Prop
  | .blocked blocked => blocked.request = request ∧ blocked.workflowRun = run
  | _ => True

variable {s : SqliteStore} {request : NormalizedReviewStepRequest}
  {run : AgentQueueWorkflowRunRow}

theorem names_checkReviewedRun :
    RefusesWith (NamesRun request run) (checkReviewedRun request run) :=
  (refusesWith_refuseIf ⟨rfl, rfl⟩).bind fun _ _ => refusesWith_refuseIf ⟨rfl, rfl⟩

theorem names_reviewedBinding {slotBindings : List (String × Json)} :
    RefusesWith (NamesRun request run) (reviewedBinding s request run slotBindings) := by
  unfold reviewedBinding
  split
  · exact refusesWith_error ⟨rfl, rfl⟩
  split
  · exact refusesWith_error ⟨rfl, rfl⟩
  · exact (refusesWith_refuseIf ⟨rfl, rfl⟩).bind fun _ _ => refusesWith_pure _

theorem names_evidenceForBinding {taskId : String} {binding : Json} :
    RefusesWith (NamesRun request run) (evidenceForBinding s request run taskId binding) := by
  unfold evidenceForBinding
  dsimp only
  split
  · exact refusesWith_error ⟨rfl, rfl⟩
  · exact (refusesWith_refuseIf trivial).bind fun _ _ => refusesWith_pure _

theorem names_runLinkOfEvidence {taskId : String} {binding : Json}
    {evidence : AgentQueueWorkerEvidenceBundleRow} :
    RefusesWith (NamesRun request run)
      (runLinkOfEvidence s request run taskId binding evidence) := by
  refine (refusesWith_refuseIf trivial).bind fun _ _ => ?_
  split
  · exact refusesWith_error ⟨rfl, rfl⟩
  · exact (refusesWith_refuseIf trivial).bind fun _ _ =>
      (refusesWith_refuseIf trivial).bind fun _ _ => refusesWith_pure _

theorem names_checkUndecided {taskId : String} {slotBindings : List (String × Json)} :
    RefusesWith (NamesRun request run) (checkUndecided s request run taskId slotBindings) :=
  (refusesWith_refuseIf ⟨rfl, rfl⟩).bind fun _ _ => refusesWith_refuseIf ⟨rfl, rfl⟩

theorem names_foundReviewMessage {runId : String} (message : Option AgentQueueReviewMessageRow) :
    RefusesWith (NamesRun request run)
      (match message with
      | none => pure none
      | some message => do
          refuseIf (message.runId.any (· != runId)) (.conflict run none none
            (factConflict "review_message_run_mismatch"
              "Existing Queue review message is bound to a different runId." message.runId
              (some runId))
            (workflowBlocker "review_message_run_mismatch"
              "Existing Queue review message is bound to a different runId."
              (some "messageId")))
          refuseIf (message.status != reviewMessageStatusCreated &&
              message.status != reviewMessageStatusAcknowledged)
            (refuse request run (workflowBlocker "review_message_status_not_ackable"
              "Existing Queue review message is not in an ACKable status."
              (some "messageId")))
          pure (some message)) := by
  cases message with
  | none => exact refusesWith_pure _
  | some message =>
    exact (refusesWith_refuseIf trivial).bind fun _ _ =>
      (refusesWith_refuseIf ⟨rfl, rfl⟩).bind fun _ _ => refusesWith_pure _

theorem names_reviewMessageForBinding {binding : Json}
    {reviewMessages : List AgentQueueReviewMessageRow} {runId : String} :
    RefusesWith (NamesRun request run)
      (reviewMessageForBinding request run binding reviewMessages runId) := by
  have hfound := @names_foundReviewMessage request run runId
  unfold reviewMessageForBinding
  split
  · exact (refusesWith_pure _).bind fun message _ => hfound message
  · split
    · exact (refusesWith_pure _).bind fun message _ => hfound message
    · exact (refusesWith_error ⟨rfl, rfl⟩).bind fun message _ => hfound message

theorem names_checkReviewableRun {slotBindings : List (String × Json)}
    {reviewMessages : List AgentQueueReviewMessageRow} :
    RefusesWith (NamesRun request run)
      (checkReviewableRun s request run slotBindings reviewMessages) :=
  (refusesWith_refuseIf ⟨rfl, rfl⟩).bind fun _ _ =>
    (refusesWith_refuseIf ⟨rfl, rfl⟩).bind fun _ _ => refusesWith_refuseIf ⟨rfl, rfl⟩

theorem names_checkCreateAction {targetRefs : Json}
    {existingMessage : Option AgentQueueReviewMessageRow}
    {createAction : Option AgentQueueWorkflowActionRow} :
    RefusesWith (NamesRun request run)
      (checkCreateAction request run targetRefs existingMessage createAction) := by
  cases createAction with
  | none => exact refusesWith_ok _
  | some action =>
    exact (refusesWith_refuseIf trivial).bind fun _ _ => refusesWith_refuseIf ⟨rfl, rfl⟩

theorem names_findReviewAck {taskId : String}
    {createAction : Option AgentQueueWorkflowActionRow}
    {existingMessage : Option AgentQueueReviewMessageRow} :
    RefusesWith (NamesRun request run)
      (findReviewAck s request run taskId createAction existingMessage) := by
  cases existingMessage with
  | none => exact refusesWith_ok _
  | some message =>
    exact (refusesWith_refuseIf trivial).bind fun _ _ => refusesWith_pure _

/-- **A review that is refused for the state of its run names the run it found.** -/
theorem resolveQueueWorkflowReviewStep_blocked {request : QueueWorkflowReviewStepRequest}
    {requireFreshGrant : Bool} {blocked : BlockedReview}
    (h : resolveQueueWorkflowReviewStep s request requireFreshGrant =
      .error (.blocked blocked)) :
    normalizeReviewStepRequest request = .ok blocked.request ∧
      s.getAgentQueueWorkflowRun blocked.request.workspaceId blocked.request.workflowRunId =
        some blocked.workflowRun := by
  cases hnormalize : normalizeReviewStepRequest request with
  | error blocker =>
    rw [resolveQueueWorkflowReviewStep, hnormalize] at h
    cases h
  | ok normalized =>
    rw [resolveQueueWorkflowReviewStep, hnormalize] at h
    cases hrun : s.getAgentQueueWorkflowRun normalized.workspaceId normalized.workflowRunId with
    | none =>
      simp only [Except.mapError, Except.bind, bind, hrun] at h
      cases h
    | some run =>
      have hnames : RefusesWith (NamesRun normalized run)
          (resolveQueueWorkflowReviewStep s request requireFreshGrant) := by
        rw [resolveQueueWorkflowReviewStep, hnormalize]
        refine (refusesWith_ok normalized).bind ?_
        rintro _ ⟨⟩
        rw [hrun]
        refine names_checkReviewedRun.bind fun _ _ =>
          (refusesWith_mapError fun _ => trivial).bind fun slotBindings _ =>
            names_reviewedBinding.bind fun found _ => ?_
        refine names_evidenceForBinding.bind fun evidence _ =>
          names_runLinkOfEvidence.bind fun runLink _ =>
            names_checkUndecided.bind fun _ _ =>
              names_reviewMessageForBinding.bind fun message _ =>
                names_checkReviewableRun.bind fun _ _ =>
                  names_checkCreateAction.bind fun _ _ =>
                    names_findReviewAck.bind fun ack _ => ?_
        split
        · exact refusesWith_error ⟨rfl, rfl⟩
        · exact refusesWith_pure _
      rw [← hnormalize] at h
      obtain ⟨rfl, rfl⟩ := hnames _ h
      exact ⟨rfl, hrun⟩

theorem checkReviewedRun_ok {normalized : NormalizedReviewStepRequest}
    (h : checkReviewedRun normalized run = .ok ()) :
    run.status ≠ QueueWorkflowRunStatus.completed.asStr ∧
      run.status ≠ QueueWorkflowRunStatus.cancelled.asStr := by
  rw [checkReviewedRun, refuseIf_bind_ok] at h
  have hopen := h.2
  unfold refuseIf at hopen
  split at hopen
  · cases hopen
  · rename_i hstatus
    simpa using hstatus

/-- **A review that goes on names a run that has neither completed nor been cancelled.** -/
theorem resolveQueueWorkflowReviewStep_ok {request : QueueWorkflowReviewStepRequest}
    {requireFreshGrant : Bool} {resolved : ReviewStepResolution}
    (h : resolveQueueWorkflowReviewStep s request requireFreshGrant = .ok resolved) :
    normalizeReviewStepRequest request = .ok resolved.request ∧
      s.getAgentQueueWorkflowRun resolved.request.workspaceId resolved.request.workflowRunId =
        some resolved.workflowRun ∧
      resolved.workflowRun.status ≠ QueueWorkflowRunStatus.completed.asStr ∧
      resolved.workflowRun.status ≠ QueueWorkflowRunStatus.cancelled.asStr ∧
      parseSlotBindings resolved.workflowRun.slotBindingsJson = .ok resolved.slotBindings := by
  rw [resolveQueueWorkflowReviewStep, except_bind_ok] at h
  obtain ⟨normalized, hnormalize, h⟩ := h
  split at h
  · cases h
  rename_i run hrun
  rw [except_bind_ok] at h
  obtain ⟨_, hopen, h⟩ := h
  rw [except_bind_ok] at h
  obtain ⟨slotBindings, hbindings, h⟩ := h
  rw [except_bind_ok] at h
  obtain ⟨found, -, h⟩ := h
  rw [except_bind_ok] at h
  obtain ⟨evidence, -, h⟩ := h
  rw [except_bind_ok] at h
  obtain ⟨runLink, -, h⟩ := h
  rw [except_bind_ok] at h
  obtain ⟨_, -, h⟩ := h
  rw [except_bind_ok] at h
  obtain ⟨message, -, h⟩ := h
  rw [except_bind_ok] at h
  obtain ⟨_, -, h⟩ := h
  rw [except_bind_ok] at h
  obtain ⟨_, -, h⟩ := h
  rw [except_bind_ok] at h
  obtain ⟨ack, -, h⟩ := h
  split at h
  · cases h
  obtain rfl := Except.ok.inj h
  have hstatus := checkReviewedRun_ok hopen
  exact ⟨mapError_ok.1 hnormalize, hrun, hstatus.1, hstatus.2, mapError_ok.1 hbindings⟩

end WorkflowReview

/-! ## The finalization step -/

namespace WorkflowFinalization

/-- A refusal that blocks, blocks this request on this run. -/
def NamesRun (request : NormalizedFinalizationStepRequest) (run : AgentQueueWorkflowRunRow) :
    FinalizationStepRefusal → Prop
  | .blocked blocked => blocked.request = request ∧ blocked.workflowRun = run
  | _ => True

variable {s : SqliteStore} {request : NormalizedFinalizationStepRequest}
  {run : AgentQueueWorkflowRunRow} {transition : QueueWorkflowFinalizationStepTransition}

theorem names_finalizationTransition :
    RefusesWith (NamesRun request run) (finalizationTransition request run) := by
  refine (refusesWith_refuseIf trivial).bind fun _ _ => ?_
  have hcancelled : ∀ transition : QueueWorkflowFinalizationStepTransition,
      RefusesWith (NamesRun request run) (do
        refuseIf (run.status == QueueWorkflowRunStatus.cancelled.asStr)
          (refuse request run (some transition) (workflowBlocker "workflow_run_cancelled"
            "Cancelled Queue workflow runs cannot execute finalization." (some "status")))
        pure transition) :=
    fun transition => (refusesWith_refuseIf ⟨rfl, rfl⟩).bind fun _ _ => refusesWith_pure _
  split
  · exact (refusesWith_pure _).bind fun transition _ => hcancelled transition
  · exact (refusesWith_pure _).bind fun transition _ => hcancelled transition
  · exact (refusesWith_error ⟨rfl, rfl⟩).bind fun transition _ => hcancelled transition

theorem names_finalizedBinding {slotBindings : List (String × Json)} :
    RefusesWith (NamesRun request run)
      (finalizedBinding s request run transition slotBindings) := by
  unfold finalizedBinding
  split
  · exact refusesWith_error ⟨rfl, rfl⟩
  split
  · exact refusesWith_error ⟨rfl, rfl⟩
  · exact (refusesWith_refuseIf ⟨rfl, rfl⟩).bind fun _ _ => refusesWith_pure _

theorem names_evidenceForBinding {taskId : String} {binding : Json} :
    RefusesWith (NamesRun request run)
      (evidenceForBinding s request run transition binding taskId) := by
  unfold evidenceForBinding
  dsimp only
  split
  · exact refusesWith_error ⟨rfl, rfl⟩
  · exact (refusesWith_refuseIf trivial).bind fun _ _ => refusesWith_pure _

theorem names_runLinkOfEvidence {taskId : String} {binding : Json}
    {evidence : AgentQueueWorkerEvidenceBundleRow} :
    RefusesWith (NamesRun request run)
      (runLinkOfEvidence s request run transition binding taskId evidence) := by
  refine (refusesWith_refuseIf trivial).bind fun _ _ => ?_
  split
  · exact refusesWith_error ⟨rfl, rfl⟩
  · exact (refusesWith_refuseIf trivial).bind fun _ _ =>
      (refusesWith_refuseIf trivial).bind fun _ _ => refusesWith_pure _

theorem names_acknowledgedReview {taskId runId : String} {binding : Json} :
    RefusesWith (NamesRun request run)
      (acknowledgedReview s request run transition binding taskId runId) := by
  unfold acknowledgedReview
  dsimp only
  split
  · exact refusesWith_error ⟨rfl, rfl⟩
  · exact (refusesWith_refuseIf trivial).bind fun _ _ =>
      (refusesWith_refuseIf ⟨rfl, rfl⟩).bind fun _ _ => refusesWith_pure _

theorem names_resolveFinalizationFacts {taskId : String} {binding : Json} :
    RefusesWith (NamesRun request run)
      (resolveFinalizationFacts s request run transition binding taskId) :=
  names_evidenceForBinding.bind fun _ _ => names_runLinkOfEvidence.bind fun _ _ =>
    names_acknowledgedReview.bind fun _ _ => refusesWith_pure _

theorem names_checkOppositeDecision
    {completionDecision : Option AgentQueueCompletionDecisionRow}
    {failureDecision : Option AgentQueueFailureDecisionRow} :
    RefusesWith (NamesRun request run)
      (checkOppositeDecision run transition completionDecision failureDecision) := by
  unfold checkOppositeDecision
  split
  · exact refusesWith_ok _
  · exact refusesWith_error trivial

theorem names_checkDownstream
    {verification : QueueWorkflowFinalizationDownstreamVerification}
    {requireAuthority alreadyApplied : Bool} :
    RefusesWith (NamesRun request run)
      (checkDownstream request run transition verification requireAuthority alreadyApplied) :=
  (refusesWith_refuseIf ⟨rfl, rfl⟩).bind fun _ _ => refusesWith_refuseIf ⟨rfl, rfl⟩

theorem names_checkFinalizableRun {retryable alreadyApplied : Bool} :
    RefusesWith (NamesRun request run)
      (checkFinalizableRun request run transition retryable alreadyApplied) :=
  (refusesWith_refuseIf ⟨rfl, rfl⟩).bind fun _ _ =>
    (refusesWith_refuseIf ⟨rfl, rfl⟩).bind fun _ _ =>
      (refusesWith_refuseIf ⟨rfl, rfl⟩).bind fun _ _ => refusesWith_refuseIf ⟨rfl, rfl⟩

theorem names_checkFailureReason :
    RefusesWith (NamesRun request run) (checkFailureReason request run transition) :=
  (refusesWith_refuseIf trivial).bind fun _ _ => refusesWith_refuseIf trivial

theorem names_checkAuthority {resolved : FinalizationStepResolution} {needed : Bool} :
    RefusesWith (NamesRun resolved.request resolved.workflowRun)
      (checkAuthority resolved needed) := by
  unfold checkAuthority
  split
  · split
    · exact refusesWith_error ⟨rfl, rfl⟩
    · exact refusesWith_refuseIf trivial
  · exact refusesWith_ok _

theorem names_checkResolution {resolved : FinalizationStepResolution} {requireAuthority : Bool} :
    RefusesWith (NamesRun resolved.request resolved.workflowRun)
      (checkResolution resolved requireAuthority) :=
  names_checkOppositeDecision.bind fun _ _ => names_checkDownstream.bind fun _ _ =>
    names_checkFinalizableRun.bind fun _ _ => names_checkFailureReason.bind fun _ _ =>
      (refusesWith_refuseIf trivial).bind fun _ _ => names_checkAuthority

theorem names_resolveFinalizationOfRun {requireAuthority : Bool} :
    RefusesWith (NamesRun request run)
      (resolveFinalizationOfRun s request requireAuthority run) :=
  names_finalizationTransition.bind fun _ _ =>
    (refusesWith_mapError fun _ => trivial).bind fun _ _ =>
      names_finalizedBinding.bind fun _ _ => names_resolveFinalizationFacts.bind fun _ _ =>
        names_checkResolution.bind fun _ _ => refusesWith_pure _

/-- **A finalization that is refused for the state of its run names the run it found.** -/
theorem resolveQueueWorkflowFinalizationStep_blocked
    {request : QueueWorkflowFinalizationStepRequest} {requireAuthority : Bool}
    {blocked : BlockedFinalization}
    (h : resolveQueueWorkflowFinalizationStep s request requireAuthority =
      .error (.blocked blocked)) :
    normalizeFinalizationStepRequest request = .ok blocked.request ∧
      s.getAgentQueueWorkflowRun blocked.request.workspaceId blocked.request.workflowRunId =
        some blocked.workflowRun := by
  rw [resolveQueueWorkflowFinalizationStep] at h
  cases hnormalize : normalizeFinalizationStepRequest request with
  | error blocker =>
    rw [hnormalize] at h
    cases h
  | ok normalized =>
    rw [hnormalize] at h
    cases hrun : s.getAgentQueueWorkflowRun normalized.workspaceId normalized.workflowRunId with
    | none =>
      simp only [Except.mapError, Except.bind, bind, hrun] at h
      cases h
    | some run =>
      simp only [Except.mapError, Except.bind, bind, hrun] at h
      obtain ⟨rfl, rfl⟩ := names_resolveFinalizationOfRun _ h
      exact ⟨rfl, hrun⟩

/-- **What a finalization that goes on has passed.** -/
theorem resolveFinalizationOfRun_ok {requireAuthority : Bool}
    {resolved : FinalizationStepResolution} :
    resolveFinalizationOfRun s request requireAuthority run = .ok resolved ↔
      ∃ transition slotBindings binding taskId facts,
        finalizationTransition request run = .ok transition ∧
        parseSlotBindings run.slotBindingsJson = .ok slotBindings ∧
        finalizedBinding s request run transition slotBindings = .ok (binding, taskId) ∧
        resolveFinalizationFacts s request run transition binding taskId = .ok facts ∧
        checkResolution resolved requireAuthority = .ok () ∧
        resolved = finalizationResolution s request run transition slotBindings taskId facts := by
  rw [resolveFinalizationOfRun, except_bind_ok]
  constructor
  · rintro ⟨transition, htransition, h⟩
    rw [except_bind_ok] at h
    obtain ⟨slotBindings, hbindings, h⟩ := h
    rw [except_bind_ok] at h
    obtain ⟨⟨binding, taskId⟩, hbinding, h⟩ := h
    rw [except_bind_ok] at h
    obtain ⟨facts, hfacts, h⟩ := h
    rw [except_bind_ok] at h
    obtain ⟨_, hcheck, h⟩ := h
    obtain rfl := Except.ok.inj h
    exact ⟨transition, slotBindings, binding, taskId, facts, htransition,
      mapError_ok.1 hbindings, hbinding, hfacts, hcheck, rfl⟩
  · rintro ⟨transition, slotBindings, binding, taskId, facts, htransition, hbindings, hbinding,
      hfacts, hcheck, rfl⟩
    refine ⟨transition, htransition, ?_⟩
    rw [except_bind_ok]
    refine ⟨slotBindings, mapError_ok.2 hbindings, ?_⟩
    rw [except_bind_ok]
    refine ⟨(binding, taskId), hbinding, ?_⟩
    rw [except_bind_ok]
    refine ⟨facts, hfacts, ?_⟩
    rw [except_bind_ok]
    exact ⟨(), hcheck, rfl⟩

/-- **A finalization that goes on names the run it found.** -/
theorem resolveQueueWorkflowFinalizationStep_ok
    {request : QueueWorkflowFinalizationStepRequest} {requireAuthority : Bool}
    {resolved : FinalizationStepResolution}
    (h : resolveQueueWorkflowFinalizationStep s request requireAuthority = .ok resolved) :
    normalizeFinalizationStepRequest request = .ok resolved.request ∧
      s.getAgentQueueWorkflowRun resolved.request.workspaceId resolved.request.workflowRunId =
        some resolved.workflowRun ∧
      resolveFinalizationOfRun s resolved.request requireAuthority resolved.workflowRun =
        .ok resolved := by
  rw [resolveQueueWorkflowFinalizationStep, except_bind_ok] at h
  obtain ⟨normalized, hnormalize, h⟩ := h
  split at h
  · cases h
  rename_i run hrun
  have hresolve := h
  obtain ⟨_, _, _, _, _, -, -, -, -, -, rfl⟩ := resolveFinalizationOfRun_ok.1 h
  exact ⟨mapError_ok.1 hnormalize, hrun, hresolve⟩

end WorkflowFinalization
end HobitQueue
