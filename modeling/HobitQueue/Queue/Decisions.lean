import HobitQueue.Queue.RunLinks

/-!
# Terminal decisions over a history

A task is decided when it has a completion or a failure decision. Only the deletion of
the task takes a decision away. The starts look at the state of the task and at its latest
link, not at the decisions: a decided task gets no new run as long as these two refuse
the start.
-/

namespace HobitQueue

open Concurrent StoreProg Relational Machine

/-! ## Decisions after an operation -/

/-- The same completion decision, up to references to rows that are gone. -/
structure SameDecision (a b : AgentQueueCompletionDecisionRow) : Prop where
  decisionId : b.decisionId = a.decisionId
  workspaceId : b.workspaceId = a.workspaceId
  queueTaskId : b.queueTaskId = a.queueTaskId
  runId : b.runId = a.runId

theorem SameDecision.refl (a : AgentQueueCompletionDecisionRow) : SameDecision a a :=
  ⟨rfl, rfl, rfl, rfl⟩

/-- The same failure decision, up to references to rows that are gone. -/
structure SameFailure (a b : AgentQueueFailureDecisionRow) : Prop where
  decisionId : b.decisionId = a.decisionId
  workspaceId : b.workspaceId = a.workspaceId
  queueTaskId : b.queueTaskId = a.queueTaskId

/-- What an operation does to the decisions. -/
inductive DecisionEffect (s : SqliteStore) : Op → SqliteStore → Prop
  | kept {op : Op} {t : SqliteStore}
      (hcompletions : t.agentQueueCompletionDecisions = s.agentQueueCompletionDecisions)
      (hfailures : t.agentQueueFailureDecisions = s.agentQueueFailureDecisions) :
      DecisionEffect s op t
  | accepted {d : Draws} {input : MarkAgentQueueItemDoneInput} {request : MarkDoneRequest}
      {t : SqliteStore} (hrequest : markDoneRequest input = .ok request)
      (h : AcceptsTask d request s t) : DecisionEffect s (.markDone d input) t
  | gaveUp {d : Draws} {input : FailAgentQueueItemInput} {request : FailRequest}
      {evidence : AgentQueueWorkerEvidenceBundleRow} {message : AgentQueueReviewMessageRow}
      {t : SqliteStore} (hrequest : failRequest input = .ok request)
      (h : FailsTask d request evidence message s t) : DecisionEffect s (.fail d input) t
  | deleted {d : Draws} {input n : AgentQueueTaskRef} {workspaces' : Table WorkspaceRow}
      (hn : normalizeAgentQueueTaskRef input = .ok n) :
      DecisionEffect s (.deleteTask d input)
        { s.withoutTask n.queueItemId with workspaces := workspaces' }

/-- **What an operation does to the completion decisions.** -/
theorem decisionEffect_perform (s : SqliteStore) (op : Op) :
    DecisionEffect s op (perform s op) := by
  have heffect := perform_effect s op
  generalize perform s op = t at heffect
  cases heffect with
  | accepted hrequest h => exact .accepted hrequest h
  | gaveUp hrequest h => exact .gaveUp hrequest h
  | deleted hn => exact .deleted hn
  | updated _ _ h =>
    obtain ⟨_, _, rfl⟩ := h
    exact .kept rfl rfl
  | reassigned _ h =>
    obtain ⟨_, _, rfl⟩ := h
    exact .kept rfl rfl
  | bookkeeping h =>
    obtain ⟨_, _, _, rfl⟩ := h
    exact .kept rfl rfl
  | launched _ h =>
    obtain ⟨_, _, _, _, _, _, _, _, rfl⟩ := h
    exact .kept rfl rfl
  | launchedSelected _ h =>
    obtain ⟨_, _, _, _, _, _, _, _, rfl⟩ := h
    exact .kept rfl rfl
  | finished _ h =>
    obtain ⟨_, _, _, rfl⟩ := h
    exact .kept rfl rfl
  | recovered _ _ _ h =>
    obtain ⟨_, _, _, _, _, rfl⟩ := h
    exact .kept rfl rfl
  | reported _ h =>
    obtain ⟨_, _, _, _, _, rfl⟩ := h
    exact .kept rfl rfl
  | linkEnded _ h =>
    obtain ⟨_, rfl⟩ := h
    exact .kept rfl rfl
  | idle => exact .kept rfl rfl
  | created => exact .kept rfl rfl
  | linked => exact .kept rfl rfl
  | messageCreated => exact .kept rfl rfl
  | messageAcked => exact .kept rfl rfl
  | others => exact .kept rfl rfl

/-- The operation does not delete the task. -/
def Op.KeepsTask (queueItemId : String) : Op → Prop
  | .deleteTask _ input => ∀ n, normalizeAgentQueueTaskRef input = .ok n →
      n.queueItemId ≠ queueItemId
  | _ => True

instance (queueItemId : String) (op : Op) : Decidable (op.KeepsTask queueItemId) := by
  rcases op <;> dsimp only [Op.KeepsTask] <;> infer_instance

/-- **A completion decision stays** until its task is deleted. -/
theorem completion_perform {s : SqliteStore} {op : Op} {a : AgentQueueCompletionDecisionRow}
    (ha : a ∈ s.agentQueueCompletionDecisions) (hop : op.KeepsTask a.queueTaskId) :
    ∃ b ∈ (perform s op).agentQueueCompletionDecisions, SameDecision a b := by
  have heffect := decisionEffect_perform s op
  generalize perform s op = t at heffect
  cases heffect with
  | kept hcompletions => exact ⟨a, hcompletions ▸ ha, SameDecision.refl a⟩
  | accepted _ h =>
    obtain ⟨_, _, _, _, _, _, _, _, hins, rfl⟩ := h
    exact ⟨a, (Table.mem_insert hins a).2 (Or.inl ha), SameDecision.refl a⟩
  | gaveUp _ h =>
    obtain ⟨_, _, _, rfl⟩ := h
    exact ⟨a, ha, SameDecision.refl a⟩
  | @deleted _ _ n _ hn =>
    obtain ⟨b, hb, link, message, rfl⟩ := SqliteStore.completion_withoutTask ha (hop n hn).symm
    exact ⟨_, hb, rfl, rfl, rfl, rfl⟩

theorem failure_perform {s : SqliteStore} {op : Op} {a : AgentQueueFailureDecisionRow}
    (ha : a ∈ s.agentQueueFailureDecisions) (hop : op.KeepsTask a.queueTaskId) :
    ∃ b ∈ (perform s op).agentQueueFailureDecisions, SameFailure a b := by
  have heffect := decisionEffect_perform s op
  generalize perform s op = t at heffect
  cases heffect with
  | kept _ hfailures => exact ⟨a, hfailures ▸ ha, rfl, rfl, rfl⟩
  | accepted _ h =>
    obtain ⟨_, _, _, _, _, _, _, _, _, rfl⟩ := h
    exact ⟨a, ha, rfl, rfl, rfl⟩
  | gaveUp _ h =>
    obtain ⟨_, _, hins, rfl⟩ := h
    exact ⟨a, (Table.mem_insert hins a).2 (Or.inl ha), rfl, rfl, rfl⟩
  | @deleted _ _ n _ hn =>
    obtain ⟨b, hb, link, message, bundle, rfl⟩ :=
      SqliteStore.failure_withoutTask ha (hop n hn).symm
    exact ⟨_, hb, rfl, rfl, rfl⟩

/-! ## Decided tasks -/

/-- The task has a completion decision or a failure decision. -/
def Decided (s : SqliteStore) (workspaceId queueItemId : String) : Prop :=
  (∃ a ∈ s.agentQueueCompletionDecisions, a.workspaceId = workspaceId ∧
    a.queueTaskId = queueItemId) ∨
  ∃ a ∈ s.agentQueueFailureDecisions, a.workspaceId = workspaceId ∧ a.queueTaskId = queueItemId

instance (s : SqliteStore) (workspaceId queueItemId : String) :
    Decidable (Decided s workspaceId queueItemId) :=
  inferInstanceAs (Decidable ((∃ a ∈ s.agentQueueCompletionDecisions, _) ∨
    ∃ a ∈ s.agentQueueFailureDecisions, _))

theorem decided_perform {s : SqliteStore} {workspaceId queueItemId : String}
    (h : Decided s workspaceId queueItemId) {op : Op} (hop : op.KeepsTask queueItemId) :
    Decided (perform s op) workspaceId queueItemId := by
  rcases h with ⟨a, ha, hws, rfl⟩ | ⟨a, ha, hws, rfl⟩
  · obtain ⟨b, hb, hsame⟩ := completion_perform ha hop
    exact Or.inl ⟨b, hb, hsame.workspaceId.trans hws, hsame.queueTaskId⟩
  · obtain ⟨b, hb, hsame⟩ := failure_perform ha hop
    exact Or.inr ⟨b, hb, hsame.workspaceId.trans hws, hsame.queueTaskId⟩

/-- A decided task stays decided as long as it is not deleted. -/
theorem decided_after {s : SqliteStore} {workspaceId queueItemId : String}
    (h : Decided s workspaceId queueItemId) {history : List Op}
    (hkeeps : ∀ op ∈ history, op.KeepsTask queueItemId) :
    Decided (after perform s history) workspaceId queueItemId := by
  induction history generalizing s with
  | nil => exact h
  | cons op history ih =>
    have hop := hkeeps op List.mem_cons_self
    exact ih (decided_perform h hop) fun later hlater =>
      hkeeps later (List.mem_cons_of_mem _ hlater)

/-! ## Starts of decided tasks -/

/-- The start and retry operations. -/
def Op.Starts : Op → Bool
  | .startAssigned .. | .startSelected .. => true
  | _ => false

/-- For the tasks that are protected, the state of the task, or a latest link that is
running, refuses every start. -/
def RefusesStart (protects : SqliteStore → String → String → Prop) (s : SqliteStore) :
    Op → Prop
  | .startAssigned _ input _ => ∀ n, normalizeStartAssignedAgentQueueTaskInput input = .ok n →
      protects s n.workspaceId n.queueItemId → ∀ task ∈ s.agentQueueTasks,
        task.workspaceId = n.workspaceId → task.queueItemId = n.queueItemId →
        isRunnableAgentQueueTaskStatus task.status = true →
        n.workflowStartContext.isSome = true ∧
          s.latestActiveTaskRunLink n.workspaceId n.queueItemId ≠ none
  | .startSelected _ mode input => ∀ n,
      normalizeStartSelectedAgentQueueTaskLocalInput input = .ok n →
      protects s n.workspaceId n.queueItemId → ∀ task ∈ s.agentQueueTasks,
        task.workspaceId = n.workspaceId → task.queueItemId = n.queueItemId →
        s.selectedQueueLocalStateBlocker mode n.workspaceId task = none →
        s.latestActiveTaskRunLink n.workspaceId n.queueItemId ≠ none
  | _ => True

instance (protects : SqliteStore → String → String → Prop)
    [∀ s workspaceId queueItemId, Decidable (protects s workspaceId queueItemId)]
    (s : SqliteStore) (op : Op) : Decidable (RefusesStart protects s op) := by
  rcases op <;> dsimp only [RefusesStart] <;> infer_instance

/-- A refused start inserts no link for a protected task. -/
theorem StartsLink.not_protected {protects : SqliteStore → String → String → Prop}
    {s : SqliteStore} {op : Op} {link : AgentQueueTaskRunLinkRow} (h : StartsLink s op link)
    (hop : op.Starts = true) (hcond : RefusesStart protects s op) :
    ¬ protects s link.workspaceId link.queueTaskId := by
  intro hprotects
  cases h with
  | @assigned _ _ _ n _ _ hn htask hidle =>
    obtain ⟨task, htask, hws, hid, hrunnable⟩ := htask
    obtain ⟨hcontext, hbusy⟩ := hcond n hn hprotects task htask hws hid hrunnable
    exact hbusy (hidle hcontext)
  | @selected _ _ _ n hn hidle htask =>
    obtain ⟨task, htask, hws, hid, hblocker⟩ := htask
    exact hcond n hn hprotects task htask hws hid hblocker hidle
  | recorded hn => cases hop

/-- The links of a task after a step are links it had before. -/
def NoNewLink (s t : SqliteStore) (workspaceId queueItemId : String) : Prop :=
  ∀ link ∈ t.agentQueueTaskRunLinks, link.workspaceId = workspaceId →
    link.queueTaskId = queueItemId → ∃ old ∈ s.agentQueueTaskRunLinks, old.linkId = link.linkId

/-- A start under the condition gives a protected task no link. -/
theorem noNewLink_perform {protects : SqliteStore → String → String → Prop} {s : SqliteStore}
    {op : Op} {workspaceId queueItemId : String} (hop : op.Starts = true)
    (hcond : RefusesStart protects s op) (hprotects : protects s workspaceId queueItemId) :
    NoNewLink s (perform s op) workspaceId queueItemId := by
  have heffect := linkEffect_perform s op
  generalize perform s op = t at heffect
  intro link hlink hws hid
  cases heffect with
  | kept hlinks => exact ⟨link, hlinks ▸ hlink, rfl⟩
  | started hstarts hins =>
    rcases (Table.mem_insert hins link).1 hlink with hold | rfl
    · exact ⟨link, hold, rfl⟩
    · exact absurd (hws ▸ hid ▸ hprotects) (hstarts.not_protected hop hcond)
  | ended _ hlinks =>
    rw [hlinks] at hlink
    obtain ⟨old, hold, rfl⟩ := Table.mem_update.1 hlink
    refine ⟨old, hold, ?_⟩
    split <;> rfl
  | deleted => cases hop

/-- **A terminal decision is final**: after it, no start or retry gives the task a new run
link, in every history in which the state of a decided task refuses its starts. -/
theorem no_new_link_after_decision {s : SqliteStore} {before later : List Op} {op : Op}
    (hcond : Along perform (RefusesStart Decided) s (before ++ later ++ [op]))
    {workspaceId queueItemId : String}
    (hdecided : Decided (after perform s before) workspaceId queueItemId)
    (hkeeps : ∀ other ∈ later, other.KeepsTask queueItemId) (hop : op.Starts = true) :
    NoNewLink (after perform s (before ++ later)) (after perform s (before ++ later ++ [op]))
      workspaceId queueItemId := by
  have hlast := (along_append.1 hcond).2.1
  have hstill := decided_after hdecided hkeeps
  rw [← after_append] at hstill
  rw [after_concat]
  exact noNewLink_perform hop hlast hstill

/-- A run that is reported, reviewed and accepted. -/
def firstTaskAccepted : List Op :=
  firstTaskQueued ++ [startFirstTask 2, reportFirstTask 3 "queue-run_2000000002_2" "completed"] ++
    reviewFirstTask 4 "queue-review-message-4000000001_1" ++ [acceptFirstTask 6]

theorem no_new_link_after_decision_firstTaskAccepted :
    NoNewLink (after perform (oneWorkspace "w") (firstTaskAccepted ++ []))
      (after perform (oneWorkspace "w") (firstTaskAccepted ++ [] ++ [startFirstTask 7]))
      "w" firstTask :=
  no_new_link_after_decision (by decide +kernel) (by decide +kernel) (by decide) rfl

/-- A run that is reported as failed and reviewed, and a task that is given up. -/
def firstTaskGivenUp : List Op :=
  firstTaskQueued ++ [startFirstTask 2, reportFirstTask 3 "queue-run_2000000002_2" "failed"] ++
    reviewFirstTask 4 "queue-review-message-4000000001_1" ++ [failFirstTask 6]

/-- The retry looks for a failed task with a failed link, and finds both. -/
theorem new_link_after_failure_decision :
    Decided (after perform (oneWorkspace "w") firstTaskGivenUp) "w" firstTask ∧
      ∃ link ∈ (after perform (oneWorkspace "w")
          (firstTaskGivenUp ++ [retryFirstTask 7])).agentQueueTaskRunLinks,
        link.workspaceId = "w" ∧ link.queueTaskId = firstTask ∧
        ∀ old ∈ (after perform (oneWorkspace "w") firstTaskGivenUp).agentQueueTaskRunLinks,
          old.linkId ≠ link.linkId := by
  decide +kernel

end HobitQueue
