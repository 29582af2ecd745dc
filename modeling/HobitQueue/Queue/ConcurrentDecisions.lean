import HobitQueue.Lib.Pool
import HobitQueue.Queue.SingleAttempt

/-!
# Decisions of concurrent operators

Accepting a task and giving it up are requests of clients with a connection each. A
request reads the task first and inserts its decision in a transaction of its own, which
does not look again for a decision of the other kind. So a task gets no second decision as
long as no request is overtaken by one of the other kind while it reads.
-/

namespace HobitQueue

open Concurrent StoreProg Relational Machine

/-- A request to decide on a task. -/
inductive DecisionRequest where
  | markDone (d : Draws) (input : MarkAgentQueueItemDoneInput)
  | fail (d : Draws) (input : FailAgentQueueItemInput)

/-- The program of a request; its answer is of no interest here. -/
def DecisionRequest.program : DecisionRequest → Service Unit
  | markDone d input => do
      let _ ← markAgentQueueItemDone d input
      pure ()
  | fail d input => do
      let _ ← failAgentQueueItem d input
      pure ()

/-- The completion decision and the failure decision are about one task. -/
def SameTask (a : AgentQueueCompletionDecisionRow) (f : AgentQueueFailureDecisionRow) : Prop :=
  a.workspaceId = f.workspaceId ∧ a.queueTaskId = f.queueTaskId

instance (a : AgentQueueCompletionDecisionRow) (f : AgentQueueFailureDecisionRow) :
    Decidable (SameTask a f) :=
  inferInstanceAs (Decidable (_ ∧ _))

/-- No task has a completion decision and a failure decision. -/
def DecidedOnce (s : SqliteStore) : Prop :=
  ∀ a ∈ s.agentQueueCompletionDecisions, ∀ f ∈ s.agentQueueFailureDecisions, ¬ SameTask a f

/-! ## The steps of a request -/

/-- The decisions of a store are decisions of the next one as well. -/
structure KeepsDecisions (s t : SqliteStore) : Prop where
  completions : ∀ a ∈ s.agentQueueCompletionDecisions, a ∈ t.agentQueueCompletionDecisions
  failures : ∀ f ∈ s.agentQueueFailureDecisions, f ∈ t.agentQueueFailureDecisions

theorem KeepsDecisions.refl (s : SqliteStore) : KeepsDecisions s s :=
  ⟨fun _ h => h, fun _ h => h⟩

theorem KeepsDecisions.trans {s t u : SqliteStore} (h : KeepsDecisions s t)
    (h' : KeepsDecisions t u) : KeepsDecisions s u :=
  ⟨fun a ha => h'.completions a (h.completions a ha), fun f hf => h'.failures f (h.failures f hf)⟩

/-- What a step of a request does to the decisions, when the request began with the store
`s₀`: it leaves them alone, or it inserts a decision for a task that had none of the other
kind then. -/
inductive DecisionCommit (s₀ s t : SqliteStore) : Prop
  | kept (hcompletions : t.agentQueueCompletionDecisions = s.agentQueueCompletionDecisions)
      (hfailures : t.agentQueueFailureDecisions = s.agentQueueFailureDecisions)
  | accepted {a : AgentQueueCompletionDecisionRow}
      (hins : s.agentQueueCompletionDecisions.insert a = some t.agentQueueCompletionDecisions)
      (hfailures : t.agentQueueFailureDecisions = s.agentQueueFailureDecisions)
      (hfree : ∀ f ∈ s₀.agentQueueFailureDecisions, ¬ SameTask a f)
  | gaveUp {f : AgentQueueFailureDecisionRow}
      (hins : s.agentQueueFailureDecisions.insert f = some t.agentQueueFailureDecisions)
      (hcompletions : t.agentQueueCompletionDecisions = s.agentQueueCompletionDecisions)
      (hfree : ∀ a ∈ s₀.agentQueueCompletionDecisions, ¬ SameTask a f)

theorem DecisionCommit.keeps {s₀ s t : SqliteStore} (h : DecisionCommit s₀ s t) :
    KeepsDecisions s t := by
  cases h with
  | kept hcompletions hfailures =>
    exact ⟨fun a ha => hcompletions ▸ ha, fun f hf => hfailures ▸ hf⟩
  | accepted hins hfailures =>
    exact ⟨fun a ha => (Table.mem_insert hins a).2 (Or.inl ha), fun f hf => hfailures ▸ hf⟩
  | gaveUp hins hcompletions =>
    exact ⟨fun a ha => hcompletions ▸ ha, fun f hf => (Table.mem_insert hins f).2 (Or.inl hf)⟩

/-- An aggregate in review was read when the task had no decision, so it had none when the
request began. -/
theorem SeenAggregate.free {s₀ : SqliteStore} {workspaceId taskId : String}
    {aggregate : QueueItemAggregate}
    (h : SeenAggregate (KeepsDecisions s₀) workspaceId taskId aggregate)
    (hticket : aggregate.ticketState = .inReview) :
    (∀ a ∈ s₀.agentQueueCompletionDecisions,
      ¬ (a.workspaceId = workspaceId ∧ a.queueTaskId = taskId)) ∧
    ∀ f ∈ s₀.agentQueueFailureDecisions,
      ¬ (f.workspaceId = workspaceId ∧ f.queueTaskId = taskId) := by
  obtain ⟨task, allTasks, decisions, rows, hseen, rfl⟩ := h
  obtain ⟨hcompletion, hfailure⟩ := decisions_of_ticketState hticket
  constructor
  · rintro a ha ⟨hws, htask⟩
    obtain ⟨s, hs, hrow⟩ := hseen.completionDecision
    have hnone := Table.latest_eq_none.1 (hrow.symm.trans hcompletion) a (hs.completions a ha)
    simp [hws, htask] at hnone
  · rintro f hf ⟨hws, htask⟩
    obtain ⟨s, hs, hrow⟩ := hseen.failureDecision
    have hnone := Table.latest_eq_none.1 (hrow.symm.trans hfailure) f (hs.failures f hf)
    simp [hws, htask] at hnone

section Requests

variable {s₀ : SqliteStore}

theorem decisionCommit_refl (s : SqliteStore) : DecisionCommit s₀ s s := .kept rfl rfl

theorem guarantees_recordCompletion {d : Draws} {request : MarkDoneRequest}
    {evidence : AgentQueueWorkerEvidenceBundleRow} {message : AgentQueueReviewMessageRow}
    (hfree : ∀ f ∈ s₀.agentQueueFailureDecisions,
      ¬ (f.workspaceId = request.workspaceId ∧ f.queueTaskId = request.queueItemId)) :
    (recordCompletion d request evidence message).Guarantees (KeepsDecisions s₀)
      (DecisionCommit s₀) fun _ => True := by
  refine guarantees_withImmediateTransaction decisionCommit_refl fun s t row _ hrun => ⟨?_, trivial⟩
  rcases recordCompletion_effect hrun with ⟨⟨_, he⟩, -⟩ | ⟨decisions', workspaces', hins, rfl⟩
  · cases he
  · refine .accepted hins rfl ?_
    rintro f hf ⟨hws, htask⟩
    exact hfree f hf ⟨hws.symm, htask.symm⟩

theorem guarantees_recordFailure {d : Draws} {request : FailRequest}
    {evidence : AgentQueueWorkerEvidenceBundleRow} {message : AgentQueueReviewMessageRow}
    (hfree : ∀ a ∈ s₀.agentQueueCompletionDecisions,
      ¬ (a.workspaceId = request.workspaceId ∧ a.queueTaskId = request.queueItemId)) :
    (recordFailure d request evidence message).Guarantees (KeepsDecisions s₀)
      (DecisionCommit s₀) fun _ => True := by
  refine guarantees_withImmediateTransaction decisionCommit_refl fun s t row _ hrun => ⟨?_, trivial⟩
  rcases recordFailure_effect hrun with ⟨⟨_, he⟩, -⟩ | ⟨decisions', workspaces', hins, rfl⟩
  · cases he
  · refine .gaveUp hins rfl ?_
    rintro a ha ⟨hws, htask⟩
    exact hfree a ha ⟨hws, htask⟩

theorem guarantees_markAgentQueueItemDone (d : Draws) (input : MarkAgentQueueItemDoneInput) :
    (markAgentQueueItemDone d input).Guarantees (KeepsDecisions s₀) (DecisionCommit s₀)
      fun _ => True := by
  unfold markAgentQueueItemDone
  split
  · exact guarantees_pure trivial
  rename_i request hrequest
  refine guarantees_withOperatorTask decisionCommit_refl (fun _ _ _ => trivial) ?_
  rw [markTaskDone]
  refine (guarantees_readOperatorView decisionCommit_refl _).bind fun view hview => ?_
  refine (guarantees_query_seen decisionCommit_refl).bind fun latest _ => ?_
  split
  · refine ((readOnly_getQueueItemAggregate _ _).guarantees decisionCommit_refl).bind fun _ _ => ?_
    exact guarantees_pure trivial
  · exact guarantees_pure trivial
  · rename_i evidence message hvalid _
    obtain ⟨-, -, -, -, -, hticket⟩ := validateMarkDonePrecondition_ok hvalid
    refine (guarantees_recordCompletion (hview.aggregate.free hticket).2).bind fun row _ => ?_
    exact (readOnly_completionAnswer _ _ _).guarantees decisionCommit_refl

theorem guarantees_failAgentQueueItem (d : Draws) (input : FailAgentQueueItemInput) :
    (failAgentQueueItem d input).Guarantees (KeepsDecisions s₀) (DecisionCommit s₀)
      fun _ => True := by
  unfold failAgentQueueItem
  split
  · exact guarantees_pure trivial
  rename_i request hrequest
  refine guarantees_withOperatorTask decisionCommit_refl (fun _ _ _ => trivial) ?_
  rw [failTask]
  refine (guarantees_readOperatorView decisionCommit_refl _).bind fun view hview => ?_
  refine (guarantees_query_seen decisionCommit_refl).bind fun completion _ => ?_
  refine (guarantees_query_seen decisionCommit_refl).bind fun failure _ => ?_
  split
  · exact (readOnly_failureOfDecidedTask _ _).guarantees decisionCommit_refl
  · exact (readOnly_failureOfDecidedTask _ _).guarantees decisionCommit_refl
  · exact guarantees_pure trivial
  · rename_i evidence message hvalid _ _
    have hticket := validateFailPrecondition_ok hvalid
    refine (guarantees_recordFailure (hview.aggregate.free hticket).1).bind fun row _ => ?_
    exact (readOnly_failureAnswer _ _).guarantees decisionCommit_refl

/-- **A request decides only on tasks that had no other decision when it began.** -/
theorem DecisionRequest.guarantees (request : DecisionRequest) :
    request.program.Guarantees (KeepsDecisions s₀) (DecisionCommit s₀) fun _ => True := by
  cases request with
  | markDone d input =>
    exact (guarantees_markAgentQueueItemDone d input).bind fun _ _ => guarantees_pure trivial
  | fail d input =>
    exact (guarantees_failAgentQueueItem d input).bind fun _ _ => guarantees_pure trivial

end Requests

/-! ## Interleavings -/

/-- The condition on a step: a client whose step inserts a decision for a task inserts it
while the task has no decision of the other kind that came after the client's first
step. -/
def NotOvertaken {ι α : Type} [DecidableEq ι] (p : Pool SqliteStore ι α) (i : ι) : Prop :=
  (∀ a ∈ (p.step i).store.agentQueueCompletionDecisions,
    a ∉ p.store.agentQueueCompletionDecisions →
    ∀ f ∈ p.store.agentQueueFailureDecisions, SameTask a f →
      f ∈ (p.firstStore i).agentQueueFailureDecisions) ∧
  ∀ f ∈ (p.step i).store.agentQueueFailureDecisions, f ∉ p.store.agentQueueFailureDecisions →
    ∀ a ∈ p.store.agentQueueCompletionDecisions, SameTask a f →
      a ∈ (p.firstStore i).agentQueueCompletionDecisions

instance {ι α : Type} [DecidableEq ι] (p : Pool SqliteStore ι α) (i : ι) :
    Decidable (NotOvertaken p i) :=
  inferInstanceAs (Decidable (_ ∧ _))

/-- A commit of a client that was not overtaken gives no task a second decision. -/
theorem DecisionCommit.decidedOnce {ι α : Type} [DecidableEq ι] {p : Pool SqliteStore ι α} {i : ι}
    (h : DecisionCommit (p.firstStore i) p.store (p.step i).store) (hcond : NotOvertaken p i)
    (hinv : DecidedOnce p.store) : DecidedOnce (p.step i).store := by
  obtain ⟨hcompletion, hfailure⟩ := hcond
  intro x hx y hy hsame
  cases h with
  | kept hcompletions hfailures =>
    rw [hcompletions] at hx
    rw [hfailures] at hy
    exact hinv x hx y hy hsame
  | accepted hins hfailures hfree =>
    rw [hfailures] at hy
    by_cases hold : x ∈ p.store.agentQueueCompletionDecisions
    · exact hinv x hold y hy hsame
    · have hfirst := hcompletion x hx hold y hy hsame
      rcases (Table.mem_insert hins x).1 hx with hthere | rfl
      · exact hold hthere
      · exact hfree y hfirst hsame
  | gaveUp hins hcompletions hfree =>
    rw [hcompletions] at hx
    by_cases hold : y ∈ p.store.agentQueueFailureDecisions
    · exact hinv x hx y hold hsame
    · have hfirst := hfailure y hy hold x hx hsame
      rcases (Table.mem_insert hins y).1 hy with hthere | rfl
      · exact hold hthere
      · exact hfree x hfirst hsame

/-- The pool of the requests. -/
def decisionPool {ι : Type} (s : SqliteStore) (requests : ι → DecisionRequest) :
    Pool SqliteStore ι (Except WorkspaceServiceError Unit) :=
  Pool.start s fun i => ExceptT.run (requests i).program

/-- **No task is decided twice**, whatever the interleaving of the requests, as long as no
request is overtaken. -/
theorem decided_once_after {ι : Type} [DecidableEq ι] {s : SqliteStore} (hs : DecidedOnce s)
    (requests : ι → DecisionRequest) {schedule : List ι}
    (hcond : Along Pool.step NotOvertaken (decisionPool s requests) schedule) :
    DecidedOnce (after Pool.step (decisionPool s requests) schedule).store := by
  refine Pool.invariant_of_guarantees (fun _ => KeepsDecisions.refl)
    (fun i s₀ => (requests i).guarantees.prog) ?_ ?_ hs hcond
  · exact fun q i _ _ hcommit j s₀ hs₀ => hs₀.trans hcommit.keeps
  · exact fun q i hstep hq _ hcommit => hcommit.decidedOnce hstep hq

/-- One operator accepts the reviewed task, another one gives it up. -/
def acceptOrFail : Bool → DecisionRequest
  | true => .markDone (drawsAt 6)
      ⟨"w", firstTask, "operator", "operator-confirmed", none, none, none⟩
  | false => .fail (drawsAt 6)
      ⟨"w", firstTask, "operator", "operator-confirmed", "reason", none, none, none⟩

theorem decided_once_after_acceptOrFail :
    DecidedOnce (after Pool.step (decisionPool (after perform (oneWorkspace "w") firstTaskReviewed)
      acceptOrFail) (List.replicate 18 true ++ List.replicate 19 false)).store := by
  have hs : DecidedOnce (after perform (oneWorkspace "w") firstTaskReviewed) := by
    unfold DecidedOnce
    decide +kernel
  exact decided_once_after hs acceptOrFail (by decide +kernel)

/-- Both operators read the task before one of them decides. -/
theorem decided_twice_acceptOrFail :
    ∃ a ∈ (after Pool.step (decisionPool (after perform (oneWorkspace "w") firstTaskReviewed)
        acceptOrFail) (List.replicate 17 true ++ List.replicate 19 false ++
          [true])).store.agentQueueCompletionDecisions,
      ∃ f ∈ (after Pool.step (decisionPool (after perform (oneWorkspace "w") firstTaskReviewed)
        acceptOrFail) (List.replicate 17 true ++ List.replicate 19 false ++
          [true])).store.agentQueueFailureDecisions, SameTask a f := by
  decide +kernel

end HobitQueue
