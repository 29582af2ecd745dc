import HobitQueue.Frontend.LifecycleRuns

/-!
# What a refused transition leaves

A transition that is refused answers with the item it was given. The decision that ends an
item is four steps, each on the item the one before has left; when the last of them is
refused, its answer holds what the first three have added.

## Main results

* `refused_transition_keeps_item_iff` — the only refusals that hold another item.
-/

namespace HobitQueue.Frontend

/-- When the transition is refused, its answer holds the item as it was. -/
def KeepsItem (item : SmartQueueDogfoodLifecycleItem)
    (result : SmartQueueLifecycleTransitionResult) : Prop :=
  ∀ item' error, result = .failure item' error → item' = item

section Keeps

variable {item : SmartQueueDogfoodLifecycleItem}

theorem keepsItem_success (item' : SmartQueueDogfoodLifecycleItem) :
    KeepsItem item (.success item') := by
  intro item'' error h
  cases h

theorem keepsItem_failure (error : SmartQueueLifecycleTransitionError) :
    KeepsItem item (.failure item error) := by
  intro item' error' h
  cases h
  rfl

theorem keepsItem_ite {c : Prop} [Decidable c] {a b : SmartQueueLifecycleTransitionResult}
    (ha : KeepsItem item a) (hb : KeepsItem item b) : KeepsItem item (if c then a else b) := by
  by_cases h : c
  · rwa [if_pos h]
  · rwa [if_neg h]

theorem keepsItem_fromTicketState {action : String} {expected : SmartQueueDogfoodTicketState}
    {body : SmartQueueLifecycleTransitionResult} (h : KeepsItem item body) :
    KeepsItem item (fromTicketState item action expected body) := by
  unfold fromTicketState
  split
  · exact keepsItem_failure _
  · exact h

theorem keepsItem_finishAgentPrompt (input : FinishAgentPromptInput) :
    KeepsItem item (finishAgentPrompt item input) :=
  keepsItem_fromTicketState (keepsItem_ite (keepsItem_failure _) (keepsItem_success _))

/-- **A refused step holds the item it ran on.** -/
theorem keepsItem_applyStep (s : LifecycleStep) : KeepsItem item (applyStep item s) := by
  cases s with
  | queue queuedAt => exact keepsItem_fromTicketState (keepsItem_success _)
  | startRun input =>
    exact keepsItem_fromTicketState (keepsItem_ite (keepsItem_failure _) (keepsItem_success _))
  | agentFinished input =>
    change KeepsItem item (applyAgentFinishedToQueueLifecycle item input)
    unfold applyAgentFinishedToQueueLifecycle
    split
    · exact keepsItem_finishAgentPrompt _
    · exact keepsItem_finishAgentPrompt _
    · exact keepsItem_finishAgentPrompt _
  | createReviewMessage input =>
    refine keepsItem_fromTicketState ?_
    split
    · exact keepsItem_failure _
    · exact keepsItem_ite (keepsItem_failure _) (keepsItem_success _)
  | coordinatorAck input =>
    refine keepsItem_fromTicketState ?_
    split
    · exact keepsItem_failure _
    · exact keepsItem_ite (keepsItem_failure _) (keepsItem_success _)
  | approveValidation input => exact keepsItem_fromTicketState (keepsItem_success _)
  | requestCommit input =>
    exact keepsItem_fromTicketState (keepsItem_ite (keepsItem_failure _) (keepsItem_success _))
  | attachCommitResult input =>
    exact keepsItem_fromTicketState (keepsItem_ite (keepsItem_failure _)
      (keepsItem_ite (keepsItem_failure _) (keepsItem_success _)))
  | markQueueItemDone input =>
    exact keepsItem_fromTicketState (keepsItem_ite (keepsItem_failure _)
      (keepsItem_ite (keepsItem_failure _)
        (keepsItem_ite (keepsItem_failure _) (keepsItem_success _))))
  | followUpPrompt input =>
    exact keepsItem_fromTicketState (keepsItem_ite (keepsItem_failure _) (keepsItem_success _))
  | block input => exact keepsItem_fromTicketState (keepsItem_success _)
  | fail input => exact keepsItem_fromTicketState (keepsItem_success _)

end Keeps

/-! ## The decision that ends an item -/

theorem fromTicketState_self {item : SmartQueueDogfoodLifecycleItem} {action : String}
    {expected : SmartQueueDogfoodTicketState} {body : SmartQueueLifecycleTransitionResult}
    (h : item.ticketState = expected) (hdone : expected ≠ .done) (hfailure : expected ≠ .failure) :
    fromTicketState item action expected body = body := by
  subst h
  simp [fromTicketState, assertTicketState, hdone, hfailure]

/-- **The first three steps succeed** on an item in review: each makes the record that the next
one asks for. -/
theorem doneDecision_steps {item : SmartQueueDogfoodLifecycleItem}
    (h : item.ticketState = .inReview) (input : ApplyDoneDecisionInput) :
    ∃ approved requested attached,
      approveValidation item input.approval = .success approved ∧
      requestCommit approved input.request = .success requested ∧
      attachCommitResult requested input.result = .success attached ∧
      attached.ticketState = .inReview ∧ attached.reviewOutcome = item.reviewOutcome ∧
      attached.validationApprovals ≠ [] ∧
      attached.commitResults.any (·.status = .success) = true ∧
      attached.coordinatorDecisions.length = item.coordinatorDecisions.length + 3 := by
  have happrove : ∃ approved, approveValidation item input.approval = .success approved ∧
      approved.ticketState = .inReview ∧ approved.reviewOutcome = item.reviewOutcome ∧
      approved.validationApprovals ≠ [] ∧
      approved.coordinatorDecisions.length = item.coordinatorDecisions.length + 1 := by
    rw [approveValidation, fromTicketState_self h (by decide) (by decide)]
    exact ⟨_, rfl, h, rfl, by simp, by simp⟩
  obtain ⟨approved, hok₁, hstate₁, houtcome₁, happrovals₁, hlength₁⟩ := happrove
  have hrequest : ∃ requested, requestCommit approved input.request = .success requested ∧
      requested.ticketState = .inReview ∧ requested.reviewOutcome = item.reviewOutcome ∧
      requested.validationApprovals ≠ [] ∧
      requested.commitRequests.any (·.commitRequestId = input.commitRequestId) = true ∧
      requested.coordinatorDecisions.length = item.coordinatorDecisions.length + 2 := by
    rw [requestCommit, fromTicketState_self hstate₁ (by decide) (by decide),
      if_neg happrovals₁]
    exact ⟨_, rfl, hstate₁, houtcome₁, happrovals₁,
      by simp [ApplyDoneDecisionInput.request], by simp [hlength₁]⟩
  obtain ⟨requested, hok₂, hstate₂, houtcome₂, happrovals₂, hrequests₂, hlength₂⟩ := hrequest
  have hattach : ∃ attached, attachCommitResult requested input.result = .success attached ∧
      attached.ticketState = .inReview ∧ attached.reviewOutcome = item.reviewOutcome ∧
      attached.validationApprovals ≠ [] ∧
      attached.commitResults.any (·.status = .success) = true ∧
      attached.coordinatorDecisions.length = item.coordinatorDecisions.length + 3 := by
    have hne : requested.commitRequests ≠ [] := by
      intro hnil
      rw [hnil] at hrequests₂
      cases hrequests₂
    have hknown : ¬ (resolvedCommitRequestId requested input.result ≠ none ∧
        resolvedCommitRequestId requested input.result ≠ some "" ∧
        ¬ requested.commitRequests.any fun request =>
          some request.commitRequestId = resolvedCommitRequestId requested input.result) := by
      rintro ⟨-, -, hunknown⟩
      exact hunknown (by simpa [resolvedCommitRequestId, ApplyDoneDecisionInput.result]
        using hrequests₂)
    rw [attachCommitResult, fromTicketState_self hstate₂ (by decide) (by decide), if_neg hne]
    dsimp only
    rw [if_neg hknown]
    exact ⟨_, rfl, hstate₂, houtcome₂, happrovals₂,
      by simp [ApplyDoneDecisionInput.result], by simp [hlength₂]⟩
  obtain ⟨attached, hok₃, hattached⟩ := hattach
  exact ⟨approved, requested, attached, hok₁, hok₂, hok₃, hattached⟩

/-- The decision on an item in review whose agent has not completed. -/
def DoneWithoutCompletion (item : SmartQueueDogfoodLifecycleItem) :
    QueueDogfoodLifecycleTransition → Prop
  | .step _ => False
  | .markDone _ => item.ticketState = .inReview ∧ item.reviewOutcome ≠ some .completed

theorem refused_markDone_iff {item item' : SmartQueueDogfoodLifecycleItem}
    {input : ApplyDoneDecisionInput} {error : SmartQueueLifecycleTransitionError}
    (h : applyCoordinatorDoneDecisionToQueueLifecycle item input = .failure item' error) :
    item' = item ↔ ¬ (item.ticketState = .inReview ∧ item.reviewOutcome ≠ some .completed) := by
  by_cases hstate : item.ticketState = .inReview
  · obtain ⟨approved, requested, attached, hok₁, hok₂, hok₃, hreview, houtcome, happrovals,
      hresults, hlength⟩ := doneDecision_steps hstate input
    simp only [applyCoordinatorDoneDecisionToQueueLifecycle, hok₁, hok₂, hok₃] at h
    have hitem : item' = attached := keepsItem_applyStep (.markQueueItemDone input.done) _ _ h
    have hother : attached ≠ item := by
      intro hsame
      rw [hsame] at hlength
      omega
    rw [markQueueItemDone, fromTicketState_self hreview (by decide) (by decide), houtcome,
      if_neg happrovals, if_neg (not_not.2 hresults)] at h
    by_cases hcompleted : item.reviewOutcome = some .completed
    · rw [if_neg (not_not.2 hcompleted)] at h
      cases h
    · rw [hitem]
      simp [hother, hstate, hcompleted]
  · have hfirst : KeepsItem item (approveValidation item input.approval) :=
      keepsItem_applyStep (.approveValidation input.approval)
    have hrefused : ∃ error', approveValidation item input.approval = .failure item error' := by
      cases happrove : approveValidation item input.approval with
      | success approved =>
        exact absurd (applyStep_effect (s := .approveValidation input.approval)
          (ok_eq_some.2 happrove)).1 hstate
      | failure item'' error' => exact ⟨error', by rw [hfirst _ _ happrove]⟩
    obtain ⟨error', herror⟩ := hrefused
    simp only [applyCoordinatorDoneDecisionToQueueLifecycle, herror,
      SmartQueueLifecycleTransitionResult.failure.injEq] at h
    simp [h.1.symm, hstate]

/-- **A refused transition answers with the item it was given**, in every case but one: the
decision on an item in review whose agent has not completed. -/
theorem refused_transition_keeps_item_iff {item item' : SmartQueueDogfoodLifecycleItem}
    {t : QueueDogfoodLifecycleTransition} {error : SmartQueueLifecycleTransitionError}
    (h : applyDogfoodLifecycleTransition item t = .failure item' error) :
    item' = item ↔ ¬ DoneWithoutCompletion item t := by
  cases t with
  | step s =>
    have hkept := keepsItem_applyStep s item' error h
    simp [DoneWithoutCompletion, hkept]
  | markDone input => exact refused_markDone_iff h

/-! ## An agent that has failed -/

private def failedAgent : LifecycleStep :=
  .agentFinished
    { attemptId := none, changedFilesSummary := none, finalAgentMessage := "m", finishedAt := "0"
      outcome := .failed, threadId := none, validationSummary := none
      workerEvidenceBundle := none }

private def failedToReview : List QueueDogfoodLifecycleTransition :=
  [.step (.queue "0"),
    .step (.startRun
      { attemptId := none, threadId := none, runnablePrompt := none, startedAt := "0" }),
    .step failedAgent, .step (sampleMessage "1"), .step (sampleAck "1")]

private def refusedCode : SmartQueueLifecycleTransitionResult →
    Option (SmartQueueLifecycleTransitionErrorCode × ℕ)
  | .success _ => none
  | .failure item error => some (error.code, item.validationApprovals.length)

/-- The decision on an item whose agent has failed is refused, and leaves an approval. -/
theorem refused_done_leaves_approval :
    ¬ ∀ input trace item t item' error, LifecycleRun (fun _ _ _ => True) input trace item →
      applyDogfoodLifecycleTransition item t = .failure item' error → item' = item := by
  intro hall
  have hrefused : (runTransitions (fun _ _ _ => True) [] (createDogfoodLifecycleItem sampleItem)
      failedToReview).map (fun r => (r.2.validationApprovals.length,
        refusedCode (applyDogfoodLifecycleTransition r.2 sampleDone))) =
      some (0, some (.missingReviewOutcome, 1)) := by decide +kernel
  obtain ⟨⟨trace, item⟩, hrun, hanswer⟩ := Option.map_eq_some_iff.1 hrefused
  obtain ⟨hnone, hcode⟩ := Prod.mk.inj hanswer
  cases hresult : applyDogfoodLifecycleTransition item sampleDone with
  | success item' =>
    rw [hresult] at hcode
    cases hcode
  | failure item' error =>
    rw [hresult] at hcode
    have hsame := hall sampleItem trace item sampleDone item' error
      (LifecycleRun.create.of_runTransitions hrun) hresult
    simp only [refusedCode, Option.some.injEq, Prod.mk.injEq] at hcode
    rw [hsame, hnone] at hcode
    cases hcode.2

private def completedToReview : List QueueDogfoodLifecycleTransition :=
  [.step (.queue "0"),
    .step (.startRun
      { attemptId := none, threadId := none, runnablePrompt := none, startedAt := "0" }),
    .step sampleFinished, .step (sampleMessage "1"), .step (sampleAck "1")]

private def doneAlone : QueueDogfoodLifecycleTransition :=
  .step (.markQueueItemDone
    { coordinatorAgentId := "c", completedAt := "0", decisionId := "d", reason := "d" })

/-- Done without an approval is refused, and the item stays in review as it is. -/
theorem refused_done_of_review :
    ∃ trace item item' error, LifecycleRun (fun _ _ _ => True) sampleItem trace item ∧
      item.ticketState = .inReview ∧ item.reviewOutcome = some .completed ∧
      applyDogfoodLifecycleTransition item doneAlone = .failure item' error ∧ item' = item := by
  have hrefused : (runTransitions (fun _ _ _ => True) [] (createDogfoodLifecycleItem sampleItem)
      completedToReview).map (fun r => (r.2.ticketState, r.2.reviewOutcome,
        refusedCode (applyDogfoodLifecycleTransition r.2 doneAlone))) =
      some (.inReview, some .completed, some (.missingValidationApproval, 0)) := by
    decide +kernel
  obtain ⟨⟨trace, item⟩, hrun, hanswer⟩ := Option.map_eq_some_iff.1 hrefused
  simp only [Prod.mk.injEq] at hanswer
  obtain ⟨hstate, hcompleted, hcode⟩ := hanswer
  cases hresult : applyDogfoodLifecycleTransition item doneAlone with
  | success item' =>
    rw [hresult] at hcode
    cases hcode
  | failure item' error =>
    have hkept := (refused_transition_keeps_item_iff hresult).2 fun h => h
    exact ⟨trace, item, item', error, LifecycleRun.create.of_runTransitions hrun, hstate,
      hcompleted, hresult, hkept⟩

end HobitQueue.Frontend
