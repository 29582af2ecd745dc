import HobitQueue.Queue.History
import HobitQueue.Service.FinishChecks
import HobitQueue.Workflow.Resolution
import HobitQueue.Workflow.RunEffects

/-!
# Decisions behind started downstream work

Two guards keep a workflow from going on when another slot of its run has started: the one of
the review step looks at every other slot, and the one of the finalization at the first other
slot that is bound to a task. A start of a later slot is hidden from the second.

## Main results

* `guards_agree_iff` — the guards agree exactly on the bindings that show their starts.
* `finalization_decides` — what was found by a finalization that records a decision.
* `finalization_in_time_iff` — both guards for the bindings of a run.
-/

namespace HobitQueue

open Concurrent StoreProg Relational
open WorkflowReview (downstreamHasStarted)
open WorkflowFinalization

/-! ## The guards -/

/-- The finalization refuses because the downstream task has a run. -/
def SeesDownstreamStarted (s : SqliteStore) (workspaceId : String)
    (slotBindings : List (String × Json)) (targetSlot : String)
    (transition : QueueWorkflowFinalizationStepTransition) : Bool :=
  let verification := downstreamVerification s workspaceId slotBindings targetSlot transition
  !verification.verificationMissing && !verification.notAutoStartedVerified

/-- The task of a binding has a run. -/
def HasStartedTask (s : SqliteStore) (workspaceId : String) (binding : Json) : Bool :=
  (jsonStringField binding "taskId").any fun taskId =>
    (s.getLatestAgentQueueTaskRunLink workspaceId taskId).isSome

/-- When another slot has a run, in its binding or in the store, so has the task of the first
other slot that is bound to one. -/
def ShowsStarts (s : SqliteStore) (workspaceId : String) (slotBindings : List (String × Json))
    (targetSlot : String) : Prop :=
  (∃ entry ∈ slotBindings, entry.1 ≠ targetSlot ∧
      ((jsonStringField entry.2 "runId").isSome ∨ HasStartedTask s workspaceId entry.2)) →
    ∃ taskId, slotBindings.findSome? (fun (slot, binding) =>
        if slot = targetSlot then none else jsonStringField binding "taskId") = some taskId ∧
      (s.getLatestAgentQueueTaskRunLink workspaceId taskId).isSome

section Guards

variable {s : SqliteStore} {workspaceId : String} {slotBindings : List (String × Json)}
  {targetSlot : String} {transition : QueueWorkflowFinalizationStepTransition}

theorem downstreamHasStarted_iff :
    downstreamHasStarted s workspaceId slotBindings targetSlot = true ↔
      ∃ entry ∈ slotBindings, entry.1 ≠ targetSlot ∧
        ((jsonStringField entry.2 "runId").isSome ∨ HasStartedTask s workspaceId entry.2) := by
  simp only [downstreamHasStarted, HasStartedTask, List.any_eq_true, Bool.and_eq_true,
    Bool.or_eq_true, bne_iff_ne]

theorem seesDownstreamStarted_iff :
    SeesDownstreamStarted s workspaceId slotBindings targetSlot transition = true ↔
      ∃ taskId, slotBindings.findSome? (fun (slot, binding) =>
          if slot = targetSlot then none else jsonStringField binding "taskId") = some taskId ∧
        (s.getLatestAgentQueueTaskRunLink workspaceId taskId).isSome := by
  simp only [SeesDownstreamStarted, downstreamVerification]
  cases slotBindings.findSome? (fun (slot, binding) =>
      if slot = targetSlot then none else jsonStringField binding "taskId") with
  | none => simp
  | some taskId =>
    cases h : s.getLatestAgentQueueTaskRunLink workspaceId taskId <;> simp [h]

/-- What the finalization sees, the review sees. -/
theorem downstreamHasStarted_of_sees
    (h : SeesDownstreamStarted s workspaceId slotBindings targetSlot transition = true) :
    downstreamHasStarted s workspaceId slotBindings targetSlot = true := by
  obtain ⟨taskId, hfound, hlink⟩ := seesDownstreamStarted_iff.1 h
  obtain ⟨entry, hmem, htask⟩ := List.exists_of_findSome?_eq_some hfound
  rw [downstreamHasStarted_iff]
  by_cases htarget : entry.1 = targetSlot
  · simp [htarget] at htask
  · simp only [htarget, ↓reduceIte] at htask
    refine ⟨entry, hmem, htarget, Or.inr ?_⟩
    rw [HasStartedTask, htask, Option.any_some]
    exact hlink

/-- **The guards agree exactly on the bindings that show their starts.** -/
theorem guards_agree_iff :
    SeesDownstreamStarted s workspaceId slotBindings targetSlot transition =
        downstreamHasStarted s workspaceId slotBindings targetSlot ↔
      ShowsStarts s workspaceId slotBindings targetSlot := by
  rw [ShowsStarts, ← downstreamHasStarted_iff, ← seesDownstreamStarted_iff, Bool.eq_iff_iff]
  exact ⟨fun h => h.2, fun h => ⟨downstreamHasStarted_of_sees, h⟩⟩

end Guards

/-! ## What keeps the decisions -/

/-- The decisions of the store. -/
def SqliteStore.decisions (s : SqliteStore) :
    Table AgentQueueCompletionDecisionRow × Table AgentQueueFailureDecisionRow :=
  (s.agentQueueCompletionDecisions, s.agentQueueFailureDecisions)

theorem decisions_of_actions (s : SqliteStore) (actions : Table AgentQueueWorkflowActionRow) :
    { s with agentQueueWorkflowActions := actions }.decisions = s.decisions := rfl

theorem decisions_of_runs (s : SqliteStore) (runs : Table AgentQueueWorkflowRunRow) :
    { s with agentQueueWorkflowRuns := runs }.decisions = s.decisions := rfl

theorem keepsDecisions_blockWorkflowRun (d : Draws) (request : NormalizedFinalizationStepRequest)
    (blocker : QueueWorkflowCommandBlocker) :
    (blockWorkflowRunForFinalization d request blocker).Keeps SqliteStore.decisions :=
  (keeps_updateRun decisions_of_runs _ _ _ _).bind fun _ => keeps_rowOrNoRows _

theorem keepsDecisions_recordBlockedFinalization (d : Draws) (blocked : BlockedFinalization) :
    (recordBlockedFinalization d blocked).Keeps SqliteStore.decisions := by
  unfold recordBlockedFinalization
  dsimp only
  split
  · exact (keeps_recordBlockedFinalizationAction decisions_of_actions _ _ _ _ _ _).bind fun _ =>
      (keeps_pure _).bind fun _ => (keepsDecisions_blockWorkflowRun _ _ _).bind fun _ =>
        keeps_pure _
  · exact (keeps_pure _).bind fun _ => (keepsDecisions_blockWorkflowRun _ _ _).bind fun _ =>
      keeps_pure _

theorem keepsDecisions_nonReadyResult (d : Draws) (refusal : FinalizationStepRefusal) :
    (nonReadyResult d refusal).Keeps SqliteStore.decisions := by
  cases refusal with
  | blocked blocked => exact keepsDecisions_recordBlockedFinalization d blocked
  | conflict run action transition conflict blocker => exact keeps_pure _
  | notFound request blocker => exact keeps_pure _
  | invalidInput workflowRunId transition blocker => exact keeps_pure _

theorem keepsDecisions_storeFinalizedRun (d : Draws) (resolved : FinalizationStepResolution)
    (decisions : FinalDecisions) (action : AgentQueueWorkflowActionRow)
    (status : QueueWorkflowFinalizationStepResultStatus) :
    (storeFinalizedRun d resolved decisions action status).Keeps SqliteStore.decisions :=
  (keeps_boundedJson _ _ _).bind fun _ => (keeps_boundedJson _ _ _).bind
    fun _ => (keeps_boundedJson _ _ _).bind fun _ =>
      (keeps_boundedJson _ _ _).bind fun _ =>
        (keeps_boundedJson _ _ _).bind fun _ =>
          (keeps_updateRun decisions_of_runs _ _ _ _).bind fun _ => keeps_rowOrNoRows _

theorem keepsDecisions_completeWorkflowTerminal (d : Draws)
    (resolved : FinalizationStepResolution) (action : AgentQueueWorkflowActionRow)
    (status : QueueWorkflowFinalizationStepResultStatus) :
    (completeWorkflowTerminal d resolved action status).Keeps SqliteStore.decisions :=
  (keeps_query _).bind fun _ =>
    (keeps_completeFinalizationAction decisions_of_actions _ _ _ _ _).bind fun _ =>
      (keepsDecisions_storeFinalizedRun _ _ _ _ _).bind fun _ =>
        (keeps_touch (fun _ _ => rfl) _ _).bind fun _ => keeps_pure _

theorem keepsDecisions_existingDecision (d : Draws) (resolved : FinalizationStepResolution) :
    (completeWorkflowFromExistingDecision d resolved).Keeps SqliteStore.decisions :=
  (keeps_openFinalizationAction decisions_of_actions d resolved).bind fun _ =>
    keepsDecisions_completeWorkflowTerminal _ _ _ _

/-! ## Decisions of a finalization -/

/-- The finalization records a decision. -/
def RecordsDecision (d : Draws) (s : SqliteStore)
    (request : QueueWorkflowFinalizationStepRequest) : Prop :=
  (exec (executeQueueWorkflowFinalizationStep d request) s).2.decisions ≠ s.decisions

/-- **A finalization that records a decision has passed its checks**, and the task was not
decided before. -/
theorem finalization_decides {d : Draws} {s : SqliteStore}
    {request : QueueWorkflowFinalizationStepRequest} (h : RecordsDecision d s request) :
    ∃ resolved, resolveQueueWorkflowFinalizationStep s request true = .ok resolved ∧
      resolved.decided = false := by
  rw [RecordsDecision, executeQueueWorkflowFinalizationStep, exec_query_bind] at h
  cases hresolve : resolveQueueWorkflowFinalizationStep s request true with
  | error refusal =>
    rw [hresolve] at h
    exact absurd ((keepsDecisions_nonReadyResult d refusal).atomically.mapErr s) h
  | ok resolved =>
    refine ⟨resolved, rfl, ?_⟩
    rw [hresolve, executeFinalizationStepResolution, executeReadyFinalizationStep] at h
    by_cases hdecided : resolved.decided = true
    · rw [if_pos hdecided] at h
      exact absurd ((keepsDecisions_existingDecision d resolved).atomically.mapErr s) h
    · exact Bool.eq_false_iff.2 hdecided

theorem keepsDecisions_blockDecidedRun (d : Draws) (resolved : FinalizationStepResolution)
    (action : AgentQueueWorkflowActionRow)
    (status : QueueWorkflowFinalizationStepResultStatus)
    (blocker : QueueWorkflowCommandBlocker) :
    (blockDecidedRun d resolved action status blocker).Keeps SqliteStore.decisions :=
  (keeps_recordBlockedFinalizationAction decisions_of_actions _ _ _ _ _ _).bind fun _ =>
    (keepsDecisions_blockWorkflowRun _ _ _).bind fun _ => keeps_pure _

theorem keepsDecisions_failedUnexpectedResult (d : Draws)
    (resolved : FinalizationStepResolution) (action : AgentQueueWorkflowActionRow)
    (message : String) :
    (failedUnexpectedResult d resolved action message).Keeps SqliteStore.decisions :=
  (keeps_updateAction decisions_of_actions _ _ _ _ _).bind fun _ =>
    (keeps_rowOrNoRows _).bind fun _ => (keeps_updateRun decisions_of_runs _ _ _ _).bind
      fun _ => (keeps_rowOrNoRows _).bind fun _ => keeps_pure _

theorem keepsDecisions_completeWorkflowFromCommand (d : Draws)
    (resolved : FinalizationStepResolution) (action : AgentQueueWorkflowActionRow)
    (commandResult : FinalizationCommandResult) :
    (completeWorkflowFromCommand d resolved action commandResult).Keeps
      SqliteStore.decisions := by
  unfold completeWorkflowFromCommand
  dsimp only
  split
  · exact (keeps_query _).bind fun _ => (keeps_query _).bind fun _ =>
      keepsDecisions_completeWorkflowTerminal _ _ _ _
  · exact (keeps_query _).bind fun _ => (keeps_query _).bind fun _ =>
      keepsDecisions_completeWorkflowTerminal _ _ _ _
  · exact keeps_pure _
  · exact keepsDecisions_blockDecidedRun _ _ _ _ _
  · exact keepsDecisions_blockDecidedRun _ _ _ _ _
  · exact keeps_throw _
  · exact keeps_throw _
  · exact keepsDecisions_failedUnexpectedResult _ _ _ _

/-- The decisions that a finalization records are those of its decision command. -/
theorem decisions_of_command {d : Draws} {s u : SqliteStore}
    {request : QueueWorkflowFinalizationStepRequest} {resolved : FinalizationStepResolution}
    {action : AgentQueueWorkflowActionRow}
    (hresolve : resolveQueueWorkflowFinalizationStep s request true = .ok resolved)
    (hundecided : resolved.decided = false)
    (hopen : exec (openFinalizationAction d resolved) s = (.ok action, u)) :
    (exec (executeQueueWorkflowFinalizationStep d request) s).2.decisions =
      (exec (finalizationCommand (d.drop 2) resolved) u).2.decisions := by
  rw [executeQueueWorkflowFinalizationStep, exec_query_bind, hresolve,
    executeFinalizationStepResolution, executeReadyFinalizationStep, hundecided,
    if_neg Bool.false_ne_true, executeDecidingFinalizationStep, exec_bind,
    exec_withImmediateTransaction_ok hopen]
  simp only [exec_attempt_bind]
  cases (exec (finalizationCommand (d.drop 2) resolved) u).1 with
  | ok result =>
    exact (keepsDecisions_completeWorkflowFromCommand _ _ _ _).atomically.mapErr _
  | error error => exact (keepsDecisions_failedUnexpectedResult _ _ _ _).atomically.mapErr _

/-! ## Both guards for a run -/

/-- The bindings of the run that a request names. -/
structure NamesBindings (s : SqliteStore) (request : QueueWorkflowFinalizationStepRequest)
    (n : NormalizedFinalizationStepRequest) (slotBindings : List (String × Json)) : Prop where
  normalized : normalizeFinalizationStepRequest request = .ok n
  bindings : ∃ run, s.getAgentQueueWorkflowRun n.workspaceId n.workflowRunId = some run ∧
    parseSlotBindings run.slotBindingsJson = .ok slotBindings

/-- A decision is recorded only when no other slot of the run has a task with a run. -/
def DecidesInTime (d : Draws) (s : SqliteStore)
    (request : QueueWorkflowFinalizationStepRequest) : Prop :=
  RecordsDecision d s request → ∃ n slotBindings, NamesBindings s request n slotBindings ∧
    ∀ entry ∈ slotBindings, entry.1 ≠ n.slot → HasStartedTask s n.workspaceId entry.2 = false

theorem NamesBindings.unique {s : SqliteStore} {request : QueueWorkflowFinalizationStepRequest}
    {n n' : NormalizedFinalizationStepRequest} {slotBindings slotBindings' : List (String × Json)}
    (h : NamesBindings s request n slotBindings)
    (h' : NamesBindings s request n' slotBindings') : n = n' ∧ slotBindings = slotBindings' := by
  obtain ⟨hn, run, hrun, hbindings⟩ := h
  obtain ⟨hn', run', hrun', hbindings'⟩ := h'
  obtain rfl := Except.ok.inj (hn.symm.trans hn')
  obtain rfl := Option.some.inj (hrun.symm.trans hrun')
  exact ⟨rfl, Except.ok.inj (hbindings.symm.trans hbindings')⟩

section Runs

variable {d : Draws} {s : SqliteStore} {request : QueueWorkflowFinalizationStepRequest}

theorem namesBindings_of_resolved {resolved : FinalizationStepResolution}
    (h : resolveQueueWorkflowFinalizationStep s request true = .ok resolved) :
    NamesBindings s request resolved.request resolved.slotBindings ∧
      resolved.downstreamVerification = downstreamVerification s resolved.request.workspaceId
        resolved.slotBindings resolved.request.slot resolved.transition ∧
      checkResolution resolved true = .ok () := by
  obtain ⟨hnormalized, hrun, hresolve⟩ := resolveQueueWorkflowFinalizationStep_ok h
  obtain ⟨transition, slotBindings, binding, taskId, facts, -, hparse, -, -, hcheck, heq⟩ :=
    resolveFinalizationOfRun_ok.1 hresolve
  have hbindings : resolved.slotBindings = slotBindings := by rw [heq, finalizationResolution]
  have htransition : resolved.transition = transition := by rw [heq, finalizationResolution]
  have hverification : resolved.downstreamVerification = downstreamVerification s
      resolved.request.workspaceId slotBindings resolved.request.slot transition := by
    rw [heq, finalizationResolution]
  rw [hbindings, htransition]
  exact ⟨⟨hnormalized, resolved.workflowRun, hrun, hparse⟩, hverification, hcheck⟩

/-- A decision is recorded in time when the bindings of the run show their starts. -/
theorem decidesInTime_of_shows
    (h : ∀ n slotBindings, NamesBindings s request n slotBindings →
      ShowsStarts s n.workspaceId slotBindings n.slot) :
    DecidesInTime d s request := by
  intro hrecords
  obtain ⟨resolved, hresolve, hundecided⟩ := finalization_decides hrecords
  obtain ⟨hnames, hverification, hcheck⟩ := namesBindings_of_resolved hresolve
  refine ⟨resolved.request, resolved.slotBindings, hnames, fun entry hmem hother => ?_⟩
  have hunseen : SeesDownstreamStarted s resolved.request.workspaceId resolved.slotBindings
      resolved.request.slot resolved.transition = false := by
    simp only [checkResolution, checkDownstream, except_bind_ok, refuseIf_ok, hundecided,
      exists_const] at hcheck
    obtain ⟨_, _, ⟨-, hstarted⟩, _⟩ := hcheck
    rw [SeesDownstreamStarted, ← hverification]
    simpa using hstarted
  rw [guards_agree_iff.2 (h _ _ hnames), Bool.eq_false_iff, ne_eq,
    downstreamHasStarted_iff] at hunseen
  rw [Bool.eq_false_iff]
  intro hstarted
  exact hunseen ⟨entry, hmem, hother, Or.inr hstarted⟩

end Runs

/-- **A finalization keeps behind no started slot, and agrees with the review, exactly on the
runs whose bindings show their starts**; the guards agree on no other bindings. -/
theorem finalization_in_time_iff (d : Draws) (s : SqliteStore) :
    (∀ workspaceId slotBindings targetSlot transition,
      SeesDownstreamStarted s workspaceId slotBindings targetSlot transition =
          downstreamHasStarted s workspaceId slotBindings targetSlot ↔
        ShowsStarts s workspaceId slotBindings targetSlot) ∧
    ∀ request,
      (DecidesInTime d s request ∧
        ∀ n slotBindings, NamesBindings s request n slotBindings → ∀ transition,
          SeesDownstreamStarted s n.workspaceId slotBindings n.slot transition =
            downstreamHasStarted s n.workspaceId slotBindings n.slot) ↔
      ∀ n slotBindings, NamesBindings s request n slotBindings →
        ShowsStarts s n.workspaceId slotBindings n.slot := by
  refine ⟨fun _ _ _ _ => guards_agree_iff, fun request => ?_⟩
  constructor
  · rintro ⟨-, hagree⟩ n slotBindings hnames
    exact guards_agree_iff.1 (hagree n slotBindings hnames .finalizeDone)
  · intro hshows
    exact ⟨decidesInTime_of_shows hshows, fun n slotBindings hnames transition =>
      guards_agree_iff.2 (hshows n slotBindings hnames)⟩

/-! ## A start behind the first slot -/

/-- A task whose worker has finished. -/
def workedTask : AgentQueueTaskRow :=
  { plainTask with queueItemId := "t", status := "completed" }

/-- The link of a run on the local backend. -/
def runLinkOf (linkId taskId runId status : String) : AgentQueueTaskRunLinkRow :=
  { linkId := linkId
    workspaceId := "w"
    queueTaskId := taskId
    executorWidgetId := queueLocalBackendExecutionTargetId
    directWorkRunId := runId
    source := "manual"
    status := status
    startedAt := "0"
    completedAt := none
    validationStatus := none
    reviewStatus := none
    createdAt := "0"
    updatedAt := "0" }

def workedEvidence : AgentQueueWorkerEvidenceBundleRow :=
  { bundleId := "b"
    workspaceId := "w"
    queueTaskId := "t"
    runId := "r"
    runLinkId := some "l"
    executorWidgetId := none
    workerId := none
    source := "manual"
    outcome := "completed"
    summary := "summary"
    changedFilesJson := .value (.arr [])
    changedFilesCount := 0
    changedFilesSummary := none
    validationSummary := none
    errorSummary := none
    metadataJson := none
    createdAt := "0"
    updatedAt := "0" }

def ackedMessage : AgentQueueReviewMessageRow :=
  { messageId := "m"
    workspaceId := "w"
    queueTaskId := "t"
    runId := some "r"
    runLinkId := some "l"
    actorId := "operator"
    messageBody := "review"
    status := reviewMessageStatusAcknowledged
    createdAt := "0"
    ackedAt := some "0"
    ackActorId := some "operator"
    metadataJson := none
    updatedAt := "0" }

/-- Two other slots, the first of them with a task that waits. -/
def threeSlots : List (String × Json) :=
  [("downstream", .obj [("taskId", .str "waiting")]), ("other", .obj [("taskId", .str "u")]),
    ("upstream", .obj [("taskId", .str "t")])]

def threeSlotRun : AgentQueueWorkflowRunRow :=
  { plainRun threeSlots with
    workflowRunId := "f", workflowId := "dependency_acceptance_smoke", phase := "review" }

def threeSlotStore : SqliteStore :=
  { oneWorkspace "w" with
    agentQueueTasks := ⟨[workedTask, { workedTask with queueItemId := "u" }], by decide⟩
    agentQueueTaskRunLinks :=
      ⟨[runLinkOf "l" "t" "r" "completed", runLinkOf "k" "u" "q" "running"], by decide⟩
    agentQueueWorkerEvidenceBundles := ⟨[workedEvidence], List.pairwise_singleton _ _⟩
    agentQueueReviewMessages := ⟨[ackedMessage], List.pairwise_singleton _ _⟩
    agentQueueWorkflowRuns := ⟨[threeSlotRun], List.pairwise_singleton _ _⟩ }

def finalizeWorkflow : QueueWorkflowFinalizationStepRequest :=
  { workspaceId := "w"
    workflowRunId := "f"
    slot := none
    actorId := none
    requestId := none
    grantSummary := some (.obj [("constraints", .obj [("noDownstreamAutoStart", .bool true)])])
    confirmationToken := some "operator-confirmed"
    failureReason := none
    expectedVersion := none }


def normalizedFinalizeWorkflow : NormalizedFinalizationStepRequest :=
  { workspaceId := "w"
    workflowRunId := "f"
    slot := "upstream"
    actorId := "workspace-agent"
    grantSummary := finalizeWorkflow.grantSummary
    confirmationToken := some "operator-confirmed"
    failureReason := none
    expectedVersion := none }

theorem namesBindings_threeSlots :
    NamesBindings threeSlotStore finalizeWorkflow normalizedFinalizeWorkflow threeSlots :=
  ⟨rfl, threeSlotRun, rfl, rfl⟩

/-- The request goes as far as its decision command, which records a completion. -/
def recordsCompletion (d : Draws) (s : SqliteStore)
    (request : QueueWorkflowFinalizationStepRequest) : Bool :=
  match resolveQueueWorkflowFinalizationStep s request true with
  | .error _ => false
  | .ok resolved =>
      match exec (openFinalizationAction d resolved) s with
      | (.error _, _) => false
      | (.ok _, u) =>
          let t := (exec (finalizationCommand (d.drop 2) resolved) u).2
          !resolved.decided &&
            t.agentQueueCompletionDecisions.rows != s.agentQueueCompletionDecisions.rows

theorem recordsDecision_of_completion {d : Draws} {s : SqliteStore}
    {request : QueueWorkflowFinalizationStepRequest}
    (h : recordsCompletion d s request = true) : RecordsDecision d s request := by
  rw [recordsCompletion] at h
  cases hresolve : resolveQueueWorkflowFinalizationStep s request true with
  | error refusal =>
    rw [hresolve] at h
    cases h
  | ok resolved =>
    rw [hresolve] at h
    rcases hopen : exec (openFinalizationAction d resolved) s with ⟨e | action, u⟩
    · simp [hopen] at h
    · simp only [hopen, Bool.and_eq_true, Bool.not_eq_true', bne_iff_ne] at h
      rw [RecordsDecision, decisions_of_command hresolve h.1 hopen]
      intro hsame
      exact h.2 (congrArg (fun decisions => decisions.1.rows) hsame)

/-- A worker of another slot is running: the task is accepted all the same, and only the
review sees that worker. -/
theorem finalized_behind_started_slot :
    ¬ DecidesInTime (drawsAt 9) threeSlotStore finalizeWorkflow ∧
      SeesDownstreamStarted threeSlotStore "w" threeSlots "upstream" .finalizeDone = false ∧
      downstreamHasStarted threeSlotStore "w" threeSlots "upstream" = true := by
  have hrecords : RecordsDecision (drawsAt 9) threeSlotStore finalizeWorkflow :=
    recordsDecision_of_completion (by decide +kernel)
  have hstarted : HasStartedTask threeSlotStore "w" (.obj [("taskId", .str "u")]) = true := by
    decide +kernel
  refine ⟨fun h => ?_, by decide +kernel, by decide +kernel⟩
  obtain ⟨n, slotBindings, hnames, hidle⟩ := h hrecords
  obtain ⟨rfl, rfl⟩ := hnames.unique namesBindings_threeSlots
  have hmem : ("other", Json.obj [("taskId", .str "u")]) ∈ threeSlots := by
    simp [threeSlots]
  have hother : ("other" : String) ≠ "upstream" := by decide
  cases hstarted.symm.trans (hidle _ hmem hother)

end HobitQueue
