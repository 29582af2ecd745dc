import HobitQueue.Lib.Pool
import HobitQueue.Queue.SingleAttempt
import Mathlib.Data.Fintype.Basic

/-!
# Review messages of concurrent clients

Creating a review message and acknowledging one are requests of clients with a connection
each. A request reads first and ends its reads with the message it is about; the statement
that follows writes without looking again. So the protocol is safe as long as no two
clients are about to write for the same message, or to create messages for the same task.
-/

namespace HobitQueue

open Concurrent StoreProg Relational Machine

/-- A request of the review protocol. -/
inductive ReviewRequest where
  | create (d : Draws) (input : CreateAgentQueueReviewMessageInput)
  | ack (d : Draws) (input : AckAgentQueueReviewMessageInput)

inductive ReviewAnswer where
  | created (result : AgentQueueReviewCreateMessageResult)
  | acked (result : AgentQueueReviewCommandResult)
  deriving DecidableEq

def ReviewRequest.program : ReviewRequest → Service ReviewAnswer
  | create d input => do
      let result ← createAgentQueueReviewMessage d input
      pure (.created result)
  | ack d input => do
      let result ← ackAgentQueueReviewMessage d input
      pure (.acked result)

/-- Two messages about one task. -/
def SameReviewedTask (m m' : AgentQueueReviewMessageRow) : Prop :=
  m.workspaceId = m'.workspaceId ∧ m.queueTaskId = m'.queueTaskId

instance (m m' : AgentQueueReviewMessageRow) : Decidable (SameReviewedTask m m') :=
  inferInstanceAs (Decidable (_ ∧ _))

/-- The message that the input of an acknowledgement names. -/
def AckAgentQueueReviewMessageInput.names (n : AckAgentQueueReviewMessageInput)
    (m : AgentQueueReviewMessageRow) : Bool :=
  m.workspaceId == n.workspaceId && m.queueTaskId == n.queueItemId && m.messageId == n.messageId

/-- A message as it is created: open, and acknowledged by nobody. -/
structure FreshMessage (m : AgentQueueReviewMessageRow) : Prop where
  status : m.status = reviewMessageStatusCreated
  ackedAt : m.ackedAt = none
  ackActorId : m.ackActorId = none

/-! ## The steps of a request -/

/-- How far a request is: it still reads, it is about to write, or it has written. -/
inductive ReviewPhase where
  | reading
  | checked (n : AckAgentQueueReviewMessageInput) (ackedAt : String)
  | free (row : AgentQueueReviewMessageRow)
  | acknowledged (n : AckAgentQueueReviewMessageInput)
  | created

/-- The store after the message that `n` names was acknowledged. -/
def SqliteStore.acknowledged (s : SqliteStore) (n : AckAgentQueueReviewMessageInput)
    (ackedAt : String) : SqliteStore :=
  { s with
    agentQueueReviewMessages := s.agentQueueReviewMessages.update
      (fun r => r.workspaceId == n.workspaceId && r.queueTaskId == n.queueItemId &&
        r.messageId == n.messageId)
      (acknowledge n.actorId ackedAt) fun _ => rfl }

/-- What a step of a request does: it reads, it passes its last check, or it writes. -/
inductive ReviewCommit : ReviewPhase → SqliteStore → SqliteStore → ReviewPhase → Prop
  | read {phase : ReviewPhase} {s : SqliteStore}
      (hphase : phase = .reading ∨ (∃ n, phase = .acknowledged n) ∨ phase = .created) :
      ReviewCommit phase s s phase
  | checked {s : SqliteStore} {n : AckAgentQueueReviewMessageInput} {ackedAt : String}
      {m : AgentQueueReviewMessageRow} (hm : m ∈ s.agentQueueReviewMessages)
      (hn : n.names m = true) (hopen : m.status = reviewMessageStatusCreated) :
      ReviewCommit .reading s s (.checked n ackedAt)
  | free {s : SqliteStore} {row : AgentQueueReviewMessageRow} (hrow : FreshMessage row)
      (hfree : ∀ m ∈ s.agentQueueReviewMessages, ¬ SameReviewedTask m row) :
      ReviewCommit .reading s s (.free row)
  | acknowledged {s : SqliteStore} {n : AckAgentQueueReviewMessageInput} {ackedAt : String} :
      ReviewCommit (.checked n ackedAt) s (s.acknowledged n ackedAt) (.acknowledged n)
  | created {s t : SqliteStore} {row stored : AgentQueueReviewMessageRow}
      (hins : s.insertAgentQueueReviewMessage row = .ok (stored, t)) :
      ReviewCommit (.free row) s t .created
  | refused {s : SqliteStore} {row : AgentQueueReviewMessageRow} {e : StorageError}
      (hins : s.insertAgentQueueReviewMessage row = .error e) :
      ReviewCommit (.free row) s s .created

/-- A request that fails has not just passed its last check. -/
def ReviewPhase.Ended : ReviewPhase → Prop
  | reading | acknowledged _ | created => True
  | checked .. | free _ => False

/-- What an answer says about the phase it was given in. -/
def ReviewPhase.Answers (phase : ReviewPhase) : ReviewAnswer → Prop
  | .created _ => phase.Ended
  | .acked result => ∃ n, phase = .acknowledged n ∧ result.messageId = n.messageId

section Requests

variable {assume : SqliteStore → Prop}

theorem read_reading (s : SqliteStore) : ReviewCommit .reading s s .reading := .read (Or.inl rfl)

theorem read_acknowledged (n : AckAgentQueueReviewMessageInput) (s : SqliteStore) :
    ReviewCommit (.acknowledged n) s s (.acknowledged n) := .read (Or.inr (Or.inl ⟨n, rfl⟩))

theorem read_created (s : SqliteStore) : ReviewCommit .created s s .created :=
  .read (Or.inr (Or.inr rfl))

/-- The phase after the last read of a request to create a message. -/
def phaseOfView (d : Draws) (request : CreateReviewMessageRequest) (view : OperatorView) :
    ReviewPhase :=
  match validateCreateReviewMessagePrecondition request.toOperatorTask view
      request.requestedRunId request.requestedEvidenceBundleId with
  | .error _ => .reading
  | .ok () => .free (newReviewMessage d request view)

/-- **The last read of a request to create a message finds none**, if its check is passed. -/
theorem maintains_readOperatorView (d : Draws) (request : CreateReviewMessageRequest) :
    (readOperatorView request.toOperatorTask).Maintains assume ReviewCommit ReviewPhase.Ended
      (fun phase view => phase = phaseOfView d request view) .reading := by
  rw [readOperatorView]
  refine ((readOnly_requireQueueItemAggregate _ _).maintains read_reading trivial).bind ?_
  rintro _ aggregate rfl
  refine ((readOnly_query _).maintains read_reading trivial).bind ?_
  rintro _ evidence rfl
  have hlast : (query (ε := WorkspaceServiceError) fun s =>
      s.getLatestAgentQueueReviewMessage request.workspaceId request.queueItemId).Maintains
      assume ReviewCommit ReviewPhase.Ended
      (fun phase message => phase = phaseOfView d request ⟨aggregate, evidence, message⟩)
      .reading := by
    refine maintains_query fun s _ => ⟨_, ?_, rfl⟩
    unfold phaseOfView
    split
    · exact read_reading s
    · rename_i hvalid
      have hnone := validateCreateReviewMessagePrecondition_ok hvalid
      refine .free ⟨rfl, rfl, rfl⟩ ?_
      rintro m hm ⟨hws, htask⟩
      have hmiss := Table.latest_eq_none.1 hnone m hm
      simp [hws, htask, newReviewMessage] at hmiss
  exact hlast.bind fun phase message hphase => maintains_pure hphase

theorem maintains_insertReviewMessage (d : Draws) (request : CreateReviewMessageRequest)
    (view : OperatorView) :
    (insertReviewMessage d request view).Maintains assume ReviewCommit ReviewPhase.Ended
      (fun phase _ => phase.Ended) (.free (newReviewMessage d request view)) := by
  have hinsert : (execute (ε := StorageError) fun s => s.insertAgentQueueReviewMessage
      (newReviewMessage d request view)).Maintains assume ReviewCommit ReviewPhase.Ended
      (fun phase _ => phase = .created) (.free (newReviewMessage d request view)) := by
    refine maintains_execute ?_ ?_
    · exact fun s e _ hrun => ⟨.created, .refused hrun, trivial⟩
    · exact fun s t row _ hrun => ⟨.created, .created hrun, rfl⟩
  have hstore : (storeReviewMessage (newReviewMessage d request view)).Maintains assume
      ReviewCommit ReviewPhase.Ended (fun phase _ => phase = .created)
      (.free (newReviewMessage d request view)) := by
    refine hinsert.mapErr.bind ?_
    rintro _ _ rfl
    refine ((readOnly_query _).maintains read_created trivial).bind ?_
    rintro _ stored rfl
    cases stored with
    | none => exact maintains_throw trivial
    | some stored => exact maintains_pure rfl
  refine hstore.bind ?_
  rintro _ row rfl
  refine ((readOnly_buildReviewCommandResult _ _ _).maintains read_created trivial).bind ?_
  rintro _ result rfl
  exact maintains_pure trivial

theorem maintains_withOperatorTask {R : Type} {post : ReviewPhase → R → Prop}
    {task : OperatorTask} {command : String} {refuse : String → String → Option String → R}
    {go : Service R} (hrefuse : ∀ code message next, post .reading (refuse code message next))
    (hgo : go.Maintains assume ReviewCommit ReviewPhase.Ended post .reading) :
    (withOperatorTask task command refuse go).Maintains assume ReviewCommit ReviewPhase.Ended
      post .reading := by
  rw [withOperatorTask]
  refine ((readOnly_query _).maintains read_reading trivial).bind ?_
  rintro _ workspace rfl
  split
  · exact maintains_pure (hrefuse _ _ _)
  refine ((readOnly_query _).maintains read_reading trivial).bind ?_
  rintro _ row rfl
  split
  · exact maintains_pure (hrefuse _ _ _)
  split
  · exact maintains_pure (hrefuse _ _ _)
  · exact hgo

theorem maintains_createAgentQueueReviewMessage (d : Draws)
    (input : CreateAgentQueueReviewMessageInput) :
    (createAgentQueueReviewMessage d input).Maintains assume ReviewCommit ReviewPhase.Ended
      (fun phase _ => phase.Ended) .reading := by
  unfold createAgentQueueReviewMessage
  split
  · exact maintains_pure trivial
  rename_i request hrequest
  refine maintains_withOperatorTask (fun _ _ _ => trivial) ?_
  refine (maintains_readOperatorView d request).bind ?_
  rintro _ view rfl
  unfold phaseOfView
  cases validateCreateReviewMessagePrecondition request.toOperatorTask view
      request.requestedRunId request.requestedEvidenceBundleId with
  | error blocked => exact maintains_pure trivial
  | ok u => exact maintains_insertReviewMessage d request view

/-- The phase after the last read of a request to acknowledge a message. -/
def phaseOfMessage (d : Draws) (n : AckAgentQueueReviewMessageInput)
    (existing : Option AgentQueueReviewMessageRow) : ReviewPhase :=
  match checkAckedMessage n.messageId existing with
  | .error _ => .reading
  | .ok () => .checked n (d.timestamp 0)

theorem checkAckedMessage_ok {messageId : String} {existing : Option AgentQueueReviewMessageRow}
    {u : Unit} (h : checkAckedMessage messageId existing = .ok u) :
    ∃ m, existing = some m ∧ m.status = reviewMessageStatusCreated := by
  cases existing with
  | none => cases h
  | some m =>
    by_cases hstatus : m.status = reviewMessageStatusCreated
    · exact ⟨m, rfl, hstatus⟩
    · simp [checkAckedMessage, hstatus] at h

theorem maintains_ackCheckedMessage (d : Draws) (n : AckAgentQueueReviewMessageInput) :
    (ackCheckedMessage d n).Maintains assume ReviewCommit ReviewPhase.Ended
      (fun phase result => phase = .acknowledged n ∧ result.messageId = n.messageId)
      (.checked n (d.timestamp 0)) := by
  have hupdate : (execute (ε := StorageError) fun s =>
      s.ackAgentQueueReviewMessage n.workspaceId n.queueItemId n.messageId
        reviewMessageStatusAcknowledged n.actorId (d.timestamp 0) (d.timestamp 0)).Maintains
      assume ReviewCommit ReviewPhase.Ended (fun phase _ => phase = .acknowledged n)
      (.checked n (d.timestamp 0)) := by
    refine maintains_execute ?_ ?_
    · intro s e _ hrun
      cases hrun
    · intro s t found _ hrun
      obtain ⟨-, rfl⟩ := Prod.mk.inj (Except.ok.inj hrun)
      exact ⟨_, .acknowledged, rfl⟩
  have hstore : (storeAck d n).Maintains assume ReviewCommit ReviewPhase.Ended
      (fun phase row => phase = .acknowledged n ∧ ∀ m ∈ row, m.messageId = n.messageId)
      (.checked n (d.timestamp 0)) := by
    refine hupdate.mapErr.bind ?_
    rintro _ found rfl
    split
    · refine maintains_query fun s _ => ⟨_, read_acknowledged n s, rfl, fun m hm => ?_⟩
      have hsat := Table.sat_of_find hm
      simp only [Bool.and_eq_true, beq_iff_eq] at hsat
      exact hsat.2
    · refine maintains_pure ⟨rfl, ?_⟩
      rintro _ ⟨⟩
  refine hstore.bind ?_
  rintro _ row ⟨rfl, hrow⟩
  split
  · exact maintains_throw trivial
  rename_i row
  refine ((readOnly_requireQueueItemAggregate _ _).maintains (read_acknowledged n) trivial).bind ?_
  rintro _ aggregate rfl
  exact maintains_pure ⟨rfl, hrow row rfl⟩

theorem maintains_ackAgentQueueReviewMessage (d : Draws)
    (input : AckAgentQueueReviewMessageInput) :
    (ackAgentQueueReviewMessage d input).Maintains assume ReviewCommit ReviewPhase.Ended
      (fun phase result => ∃ n, phase = .acknowledged n ∧ result.messageId = n.messageId)
      .reading := by
  rw [ackAgentQueueReviewMessage]
  refine ((readOnly_check _).maintains read_reading trivial).bind ?_
  rintro _ n rfl
  refine ((readOnly_validateAgentQueueTaskWorkspaceAccess _ _).maintains read_reading
    trivial).bind ?_
  rintro _ _ rfl
  refine ((readOnly_requireQueueItemAggregate _ _).maintains read_reading trivial).bind ?_
  rintro _ aggregate rfl
  refine ((readOnly_check _).maintains read_reading trivial).bind ?_
  rintro _ _ rfl
  have hlast : (query (ε := WorkspaceServiceError) fun s =>
      s.getAgentQueueReviewMessage n.workspaceId n.queueItemId n.messageId).Maintains
      assume ReviewCommit ReviewPhase.Ended
      (fun phase existing => phase = phaseOfMessage d n existing) .reading := by
    refine maintains_query fun s _ => ⟨_, ?_, rfl⟩
    unfold phaseOfMessage
    split
    · exact read_reading s
    · rename_i hchecked
      obtain ⟨m, hm, hopen⟩ := checkAckedMessage_ok hchecked
      exact .checked (Table.mem_of_find hm) (Table.sat_of_find hm) hopen
  refine hlast.bind ?_
  rintro _ existing rfl
  unfold phaseOfMessage
  cases checkAckedMessage n.messageId existing with
  | error e => exact maintains_throw trivial
  | ok u =>
    have hpassed : (check (ε := WorkspaceServiceError) (.ok u)).Maintains assume ReviewCommit
        ReviewPhase.Ended (fun phase _ => phase = .checked n (d.timestamp 0))
        (.checked n (d.timestamp 0)) := maintains_pure rfl
    refine hpassed.bind ?_
    rintro _ _ rfl
    exact (maintains_ackCheckedMessage d n).mono fun phase result hresult => ⟨n, hresult⟩

/-- **Every request keeps to the phases.** -/
theorem ReviewRequest.maintains (request : ReviewRequest) :
    request.program.Maintains assume ReviewCommit ReviewPhase.Ended ReviewPhase.Answers
      .reading := by
  cases request with
  | create d input =>
    refine (maintains_createAgentQueueReviewMessage d input).bind fun phase _ hphase => ?_
    exact maintains_pure hphase
  | ack d input =>
    refine (maintains_ackAgentQueueReviewMessage d input).bind fun phase _ hphase => ?_
    exact maintains_pure hphase

end Requests

/-! ## What the interleavings keep -/

/-- The rows that a message refers to are there. -/
def SqliteStore.hasParents (s : SqliteStore) (row : AgentQueueReviewMessageRow) : Bool :=
  s.hasWorkspace row.workspaceId && s.hasTask row.queueTaskId &&
    SqliteStore.references s.hasRunLink row.runLinkId

/-- A message that the store does not take. -/
def SqliteStore.Refuses (s : SqliteStore) (row : AgentQueueReviewMessageRow) : Prop :=
  s.hasParents row = false ∨ ∃ m ∈ s.agentQueueReviewMessages, m.messageId = row.messageId

theorem clash_of_messageId {m m' : AgentQueueReviewMessageRow}
    (h : m.messageId = m'.messageId) : Clash m m' :=
  ⟨("message_id", [m.messageId]), by simp [Row.keys], by simp [Row.keys, h]⟩

theorem messageId_of_clash {m m' : AgentQueueReviewMessageRow} (h : Clash m m') :
    m.messageId = m'.messageId := by
  obtain ⟨key, hm, hm'⟩ := h
  simp only [Row.keys, List.mem_singleton] at hm hm'
  simpa [hm] using hm'

theorem insertAgentQueueReviewMessage_ok {s t : SqliteStore}
    {row stored : AgentQueueReviewMessageRow}
    (h : s.insertAgentQueueReviewMessage row = .ok (stored, t)) :
    ∃ messages', s.agentQueueReviewMessages.insert row = some messages' ∧
      t = { s with agentQueueReviewMessages := messages' } :=
  (SqliteStore.inserted_ok.1 h).2.2

theorem refuses_of_error {s : SqliteStore} {row : AgentQueueReviewMessageRow} {e : StorageError}
    (h : s.insertAgentQueueReviewMessage row = .error e) : s.Refuses row := by
  by_contra hnot
  simp only [SqliteStore.Refuses, not_or, Bool.not_eq_false, not_exists, not_and] at hnot
  obtain ⟨hparents, hfree⟩ := hnot
  obtain ⟨messages', hinsert⟩ :=
    Table.exists_insert fun m hm hclash => hfree m hm (messageId_of_clash hclash)
  rw [SqliteStore.insertAgentQueueReviewMessage, SqliteStore.inserted, hinsert] at h
  rw [SqliteStore.hasParents] at hparents
  simp [hparents] at h

/-- What the store must be like for a request in a phase. -/
def PhaseSafe (s : SqliteStore) : ReviewPhase → Prop
  | .checked n _ => ∃ m ∈ s.agentQueueReviewMessages, n.names m = true ∧
      m.status = reviewMessageStatusCreated
  | .free row => FreshMessage row ∧
      ((∀ m ∈ s.agentQueueReviewMessages, ¬ SameReviewedTask m row) ∨ s.Refuses row)
  | .acknowledged n => ∃ m ∈ s.agentQueueReviewMessages, n.names m = true ∧
      m.status ≠ reviewMessageStatusCreated
  | .reading | .created => True

/-- No task has two messages, and an open message is not acknowledged. -/
structure ReviewsInOrder (messages : Table AgentQueueReviewMessageRow) : Prop where
  one : ∀ m ∈ messages, ∀ m' ∈ messages, SameReviewedTask m m' → m = m'
  unacked : ∀ m ∈ messages, m.status = reviewMessageStatusCreated → FreshMessage m

/-- The invariant: no message is acknowledged twice either. -/
structure ReviewsSafe {ι : Type} (s : SqliteStore) (phase : ι → ReviewPhase) : Prop where
  inOrder : ReviewsInOrder s.agentQueueReviewMessages
  phases : ∀ i, PhaseSafe s (phase i)
  once : ∀ i j n n', phase i = .acknowledged n → phase j = .acknowledged n' →
    n.messageId = n'.messageId → i = j

/-- **A rewriting that opens no message keeps the messages in order.** -/
theorem ReviewsInOrder.update {messages : Table AgentQueueReviewMessageRow}
    (h : ReviewsInOrder messages) {p : AgentQueueReviewMessageRow → Bool}
    {f : AgentQueueReviewMessageRow → AgentQueueReviewMessageRow}
    (hf : ∀ r, Row.keys (f r) = Row.keys r) (htask : ∀ r, SameReviewedTask (f r) r)
    (hopen : ∀ r, (f r).status = reviewMessageStatusCreated →
      r.status = reviewMessageStatusCreated ∧ (FreshMessage r → FreshMessage (f r))) :
    ReviewsInOrder (messages.update p f hf) := by
  have hsame : ∀ r, SameReviewedTask (if p r then f r else r) r := by
    intro r
    split
    · exact htask r
    · exact ⟨rfl, rfl⟩
  constructor
  · intro m hm m' hm' htasks
    obtain ⟨old, hold, rfl⟩ := Table.mem_update.1 hm
    obtain ⟨old', hold', rfl⟩ := Table.mem_update.1 hm'
    have holds : SameReviewedTask old old' :=
      ⟨(hsame old).1.symm.trans (htasks.1.trans (hsame old').1),
        (hsame old).2.symm.trans (htasks.2.trans (hsame old').2)⟩
    rw [h.one old hold old' hold' holds]
  · refine Table.forall_mem_update.2 fun r hr => ?_
    split
    · intro hstatus
      obtain ⟨hold, hfresh⟩ := hopen r hstatus
      exact hfresh (h.unacked r hr hold)
    · exact h.unacked r hr

/-- **A message for a task that has none keeps the messages in order.** -/
theorem ReviewsInOrder.insert {messages messages' : Table AgentQueueReviewMessageRow}
    (h : ReviewsInOrder messages) {row : AgentQueueReviewMessageRow} (hrow : FreshMessage row)
    (hfree : ∀ m ∈ messages, ¬ SameReviewedTask m row)
    (hins : messages.insert row = some messages') : ReviewsInOrder messages' := by
  constructor
  · intro m hm m' hm' hsame
    rcases (Table.mem_insert hins m).1 hm with hold | rfl <;>
      rcases (Table.mem_insert hins m').1 hm' with hold' | rfl
    · exact h.one m hold m' hold' hsame
    · exact absurd hsame (hfree m hold)
    · exact absurd ⟨hsame.1.symm, hsame.2.symm⟩ (hfree m' hold')
    · rfl
  · intro m hm hopen
    rcases (Table.mem_insert hins m).1 hm with hold | rfl
    · exact h.unacked m hold hopen
    · exact hrow

theorem ReviewsInOrder.acknowledge {messages : Table AgentQueueReviewMessageRow}
    (h : ReviewsInOrder messages) {p : AgentQueueReviewMessageRow → Bool}
    {actorId ackedAt : String} :
    ReviewsInOrder (messages.update p (acknowledge actorId ackedAt) fun _ => rfl) := by
  have hclosed : reviewMessageStatusAcknowledged ≠ reviewMessageStatusCreated := by decide
  exact h.update _ (fun _ => ⟨rfl, rfl⟩) fun r hr => absurd hr hclosed

theorem messageId_of_names {n : AckAgentQueueReviewMessageInput} {m : AgentQueueReviewMessageRow}
    (h : n.names m = true) : m.messageId = n.messageId := by
  simp only [AckAgentQueueReviewMessageInput.names, Bool.and_eq_true, beq_iff_eq] at h
  exact h.2

/-- The rows after an acknowledgement: the named one is acknowledged, the others are kept. -/
theorem mem_acknowledged {s : SqliteStore} {n : AckAgentQueueReviewMessageInput}
    {ackedAt : String} {m : AgentQueueReviewMessageRow} :
    m ∈ (s.acknowledged n ackedAt).agentQueueReviewMessages ↔
      (∃ old ∈ s.agentQueueReviewMessages, n.names old = true ∧
        acknowledge n.actorId ackedAt old = m) ∨
      (m ∈ s.agentQueueReviewMessages ∧ n.names m = false) := by
  have hmem : m ∈ (s.acknowledged n ackedAt).agentQueueReviewMessages ↔
      ∃ old ∈ s.agentQueueReviewMessages,
        (if n.names old = true then acknowledge n.actorId ackedAt old else old) = m :=
    @Table.mem_update _ _ _ _ (acknowledge n.actorId ackedAt) (fun _ => rfl) _
  rw [hmem]
  constructor
  · rintro ⟨old, hold, hm⟩
    by_cases hnames : n.names old = true
    · rw [if_pos hnames] at hm
      exact Or.inl ⟨old, hold, hnames, hm⟩
    · rw [if_neg hnames] at hm
      exact Or.inr ⟨hm ▸ hold, by simpa [hm] using hnames⟩
  · rintro (⟨old, hold, hnames, hm⟩ | ⟨hm, hnames⟩)
    · exact ⟨old, hold, by rw [if_pos hnames, hm]⟩
    · exact ⟨m, hm, by simp [hnames]⟩

/-- **The operations of the Queue, one after the other, keep the messages in order.** -/
theorem reviewsInOrder_perform {s : SqliteStore} (h : ReviewsInOrder s.agentQueueReviewMessages)
    (op : Op) : ReviewsInOrder (perform s op).agentQueueReviewMessages := by
  have heffect := recordEffect_perform s op
  generalize perform s op = t at heffect
  cases heffect with
  | kept hsame => exact hsame.reviewMessages ▸ h
  | linkStarted _ _ hsame => exact hsame.reviewMessages ▸ h
  | linkEnded hsame => exact hsame.reviewMessages ▸ h
  | bundleStored _ _ _ hsame => exact hsame.reviewMessages ▸ h
  | messageCreated hrequest hrow hnone hins =>
    refine h.insert ⟨rfl, rfl, rfl⟩ ?_ hins
    rintro m hm ⟨hws, htask⟩
    have hmiss := Table.latest_eq_none.1 hnone m hm
    simp [hws, htask, newReviewMessage] at hmiss
  | messageAcked => exact h.acknowledge
  | accepted _ haccepts =>
    obtain ⟨_, _, _, _, _, _, _, _, _, rfl⟩ := haccepts
    exact h
  | gaveUp _ hfails =>
    obtain ⟨_, _, _, rfl⟩ := hfails
    exact h
  | deleted =>
    have hdeleted : ∀ p, ReviewsInOrder (s.agentQueueReviewMessages.delete p) := fun p =>
      ⟨fun m hm m' hm' => h.one m (Table.mem_delete.1 hm).1 m' (Table.mem_delete.1 hm').1,
        fun m hm => h.unacked m (Table.mem_delete.1 hm).1⟩
    refine (hdeleted _).update ?_ ?_ ?_
    · exact fun _ => rfl
    · exact fun _ => ⟨rfl, rfl⟩
    · exact fun r hr => ⟨hr, fun hfresh => ⟨hfresh.status, hfresh.ackedAt, hfresh.ackActorId⟩⟩

theorem reviewsInOrder_after {s : SqliteStore} (hs : Empty s) (history : List Op) :
    ReviewsInOrder (after perform s history).agentQueueReviewMessages := by
  have hstart : ReviewsInOrder s.agentQueueReviewMessages :=
    ⟨fun m hm => absurd hm (hs.reviewMessages m), fun m hm => absurd hm (hs.reviewMessages m)⟩
  have hstep : ∀ t op, ReviewsInOrder t.agentQueueReviewMessages →
      ReviewsInOrder (perform t op).agentQueueReviewMessages :=
    fun t op ht => reviewsInOrder_perform ht op
  exact @invariant_after_any _ _ _ (fun t => ReviewsInOrder t.agentQueueReviewMessages) hstep s
    hstart history

section Invariant

variable {ι : Type} [DecidableEq ι] {s t : SqliteStore} {phase : ι → ReviewPhase} {i : ι}
  {phase' : ReviewPhase}

/-- A phase that has not acknowledged anything acknowledges nothing twice. -/
theorem ReviewsSafe.moved (hsafe : ReviewsSafe s phase)
    (hinOrder : ReviewsInOrder t.agentQueueReviewMessages)
    (hothers : ∀ j, j ≠ i → PhaseSafe t (phase j)) (hself : PhaseSafe t phase')
    (hfirst : ∀ n, phase' = .acknowledged n → ∀ j n', phase j = .acknowledged n' →
      n.messageId ≠ n'.messageId) : ReviewsSafe t (Function.update phase i phase') := by
  refine ⟨hinOrder, fun j => ?_, fun j k n n' hj hk hid => ?_⟩
  · by_cases hji : j = i
    · subst hji
      simpa using hself
    · simpa [Function.update_of_ne hji] using hothers j hji
  · by_cases hji : j = i <;> by_cases hki : k = i
    · rw [hji, hki]
    · rw [hji, Function.update_self] at hj
      rw [Function.update_of_ne hki] at hk
      exact absurd hid (hfirst n hj k n' hk)
    · rw [hki, Function.update_self] at hk
      rw [Function.update_of_ne hji] at hj
      exact absurd hid.symm (hfirst n' hk j n hj)
    · rw [Function.update_of_ne hji] at hj
      rw [Function.update_of_ne hki] at hk
      exact hsafe.once j k n n' hj hk hid

/-- The rows that an acknowledgement touches were open, so it acknowledges none twice. -/
theorem names_false_of_closed {n : AckAgentQueueReviewMessageInput}
    {ackedAt : String} (hphase : PhaseSafe s (.checked n ackedAt)) {m : AgentQueueReviewMessageRow}
    (hm : m ∈ s.agentQueueReviewMessages) (hclosed : m.status ≠ reviewMessageStatusCreated) :
    n.names m = false := by
  obtain ⟨row, hrow, hnames, hopen⟩ := hphase
  by_contra hnot
  rw [Bool.not_eq_false] at hnot
  have hid := (messageId_of_names hnot).trans (messageId_of_names hnames).symm
  obtain rfl := Table.eq_of_clash hm hrow (clash_of_messageId hid)
  exact hclosed hopen

/-- What another client relies on outlives the acknowledgement of another message. -/
theorem PhaseSafe.acknowledged {other : ReviewPhase} (h : PhaseSafe s other)
    {n : AckAgentQueueReviewMessageInput} {ackedAt : String}
    (hspares : ∀ n' ackedAt', other = .checked n' ackedAt' → ∀ m ∈ s.agentQueueReviewMessages,
      n'.names m = true → m.status = reviewMessageStatusCreated →
      m ∈ (s.acknowledged n ackedAt).agentQueueReviewMessages) :
    PhaseSafe (s.acknowledged n ackedAt) other := by
  cases other with
  | reading => trivial
  | created => trivial
  | checked n' ackedAt' =>
    obtain ⟨m, hm, hnames, hopen⟩ := h
    exact ⟨m, hspares n' ackedAt' rfl m hm hnames hopen, hnames, hopen⟩
  | free row =>
    obtain ⟨hrow, hfree⟩ := h
    refine ⟨hrow, ?_⟩
    rcases hfree with hfree | hparents | ⟨m, hm, hid⟩
    · left
      intro m hm
      rcases mem_acknowledged.1 hm with ⟨old, hold, -, rfl⟩ | ⟨hold, -⟩
      · exact hfree old hold
      · exact hfree m hold
    · exact Or.inr (Or.inl hparents)
    · refine Or.inr (Or.inr ?_)
      by_cases hnames : n.names m = true
      · exact ⟨_, mem_acknowledged.2 (Or.inl ⟨m, hm, hnames, rfl⟩), hid⟩
      · exact ⟨m, mem_acknowledged.2 (Or.inr ⟨hm, by simpa using hnames⟩), hid⟩
  | acknowledged n' =>
    obtain ⟨m, hm, hnames, hclosed⟩ := h
    by_cases hown : n.names m = true
    · have hacked : reviewMessageStatusAcknowledged ≠ reviewMessageStatusCreated := by decide
      exact ⟨_, mem_acknowledged.2 (Or.inl ⟨m, hm, hown, rfl⟩), hnames, hacked⟩
    · exact ⟨m, mem_acknowledged.2 (Or.inr ⟨hm, by simpa using hown⟩), hnames, hclosed⟩

/-- What another client relies on outlives a new message for another task. -/
theorem PhaseSafe.created {other : ReviewPhase} (h : PhaseSafe s other)
    {row : AgentQueueReviewMessageRow} {messages' : Table AgentQueueReviewMessageRow}
    (hins : s.agentQueueReviewMessages.insert row = some messages')
    (hspares : ∀ row', other = .free row' → ¬ s.Refuses row' → SameReviewedTask row row' →
      row.messageId = row'.messageId) :
    PhaseSafe { s with agentQueueReviewMessages := messages' } other := by
  have hkept : ∀ m ∈ s.agentQueueReviewMessages, m ∈ messages' :=
    fun m hm => (Table.mem_insert hins m).2 (Or.inl hm)
  cases other with
  | reading => trivial
  | created => trivial
  | checked n' ackedAt' =>
    obtain ⟨m, hm, hrest⟩ := h
    exact ⟨m, hkept m hm, hrest⟩
  | acknowledged n' =>
    obtain ⟨m, hm, hrest⟩ := h
    exact ⟨m, hkept m hm, hrest⟩
  | free row' =>
    obtain ⟨hrow, hfree⟩ := h
    refine ⟨hrow, ?_⟩
    by_cases hrefuses : s.Refuses row'
    · rcases hrefuses with hparents | ⟨m, hm, hid⟩
      · exact Or.inr (Or.inl hparents)
      · exact Or.inr (Or.inr ⟨m, hkept m hm, hid⟩)
    have hfree := hfree.resolve_right hrefuses
    by_cases hsame : SameReviewedTask row row'
    · have hid := hspares row' rfl hrefuses hsame
      exact Or.inr (Or.inr ⟨row, (Table.mem_insert hins row).2 (Or.inr rfl), hid⟩)
    · left
      intro m hm
      rcases (Table.mem_insert hins m).1 hm with hold | rfl
      · exact hfree m hold
      · exact hsame

/-- **A step of a request keeps the invariant**, when it does not write where another client
is about to write. -/
theorem ReviewCommit.safe (h : ReviewCommit (phase i) s t phase') (hsafe : ReviewsSafe s phase)
    (hacks : ∀ j, j ≠ i → ∀ n ackedAt, phase j = .checked n ackedAt →
      ∀ m ∈ s.agentQueueReviewMessages, n.names m = true →
      m.status = reviewMessageStatusCreated → m ∈ t.agentQueueReviewMessages)
    (hcreates : ∀ j, j ≠ i → ∀ row, phase j = .free row → ¬ s.Refuses row →
      ∀ m ∈ t.agentQueueReviewMessages,
      (∀ old ∈ s.agentQueueReviewMessages, old.messageId ≠ m.messageId) →
      SameReviewedTask m row → m.messageId = row.messageId) :
    ReviewsSafe t (Function.update phase i phase') := by
  have hphase := hsafe.phases i
  generalize hcurrent : phase i = current at h hphase
  cases h with
  | read =>
    rw [← hcurrent, Function.update_eq_self]
    exact hsafe
  | checked hm hn hopen =>
    refine hsafe.moved hsafe.inOrder (fun j _ => hsafe.phases j) ⟨_, hm, hn, hopen⟩ ?_
    rintro _ ⟨⟩
  | free hrow hfree =>
    refine hsafe.moved hsafe.inOrder (fun j _ => hsafe.phases j) ⟨hrow, Or.inl hfree⟩ ?_
    rintro _ ⟨⟩
  | refused =>
    refine hsafe.moved hsafe.inOrder (fun j _ => hsafe.phases j) trivial ?_
    rintro _ ⟨⟩
  | @acknowledged _ n ackedAt =>
    obtain ⟨m, hm, hnames, hopen⟩ := hphase
    have hacked : reviewMessageStatusAcknowledged ≠ reviewMessageStatusCreated := by decide
    refine hsafe.moved hsafe.inOrder.acknowledge
      (fun j hj => (hsafe.phases j).acknowledged (hacks j hj))
      ⟨_, mem_acknowledged.2 (Or.inl ⟨m, hm, hnames, rfl⟩), hnames, hacked⟩ ?_
    rintro _ ⟨⟩ j n' hj hid
    -- a message that another client has acknowledged is not open
    have hother := hsafe.phases j
    rw [hj] at hother
    obtain ⟨m', hm', hnames', hclosed⟩ := hother
    have hsame := (messageId_of_names hnames').trans
      (hid.symm.trans (messageId_of_names hnames).symm)
    obtain rfl := Table.eq_of_clash hm' hm (clash_of_messageId hsame)
    exact hclosed hopen
  | @created _ _ row _ hins =>
    obtain ⟨hrow, hfree⟩ := hphase
    have haccepted : ¬ s.Refuses row := by
      rintro (hparents | ⟨m, hm, hid⟩)
      · have hok := (SqliteStore.inserted_ok.1 hins).1
        rw [SqliteStore.hasParents] at hparents
        exact absurd (hparents.symm.trans hok) (by decide)
      · obtain ⟨messages', hinsert, -⟩ := insertAgentQueueReviewMessage_ok hins
        exact Table.not_clash_of_insert hinsert hm (clash_of_messageId hid)
    obtain ⟨messages', hinsert, rfl⟩ := insertAgentQueueReviewMessage_ok hins
    refine hsafe.moved (hsafe.inOrder.insert hrow (hfree.resolve_right haccepted) hinsert)
      (fun j hj => (hsafe.phases j).created hinsert fun row' hrow' hrefuses hsame => ?_) trivial ?_
    · have hnew : ∀ old ∈ s.agentQueueReviewMessages, old.messageId ≠ row.messageId :=
        fun old hold hid => haccepted (Or.inr ⟨old, hold, hid⟩)
      exact hcreates j hj row' hrow' hrefuses row ((Table.mem_insert hinsert row).2 (Or.inr rfl))
        hnew hsame
    · rintro _ ⟨⟩

/-- A step keeps the messages that are not open. -/
theorem ReviewCommit.keeps_closed {phase : ReviewPhase} (h : ReviewCommit phase s t phase')
    (hphase : PhaseSafe s phase) {m : AgentQueueReviewMessageRow}
    (hm : m ∈ s.agentQueueReviewMessages) (hclosed : m.status ≠ reviewMessageStatusCreated) :
    m ∈ t.agentQueueReviewMessages := by
  cases h with
  | read | checked | free | refused => exact hm
  | acknowledged =>
    exact mem_acknowledged.2 (Or.inr ⟨hm, names_false_of_closed hphase hm hclosed⟩)
  | created hins =>
    obtain ⟨messages', hinsert, rfl⟩ := insertAgentQueueReviewMessage_ok hins
    exact (Table.mem_insert hinsert m).2 (Or.inl hm)

end Invariant

/-! ## Interleavings -/

/-- The condition on a step of a client: no other client is about to acknowledge the message
that the step acknowledges, or to create a message for the task that the step creates one
for. -/
def RaceFree {ι α : Type} [DecidableEq ι] (p : Pool SqliteStore ι α) (i : ι) : Prop :=
  ∀ j, j ≠ i →
    (∀ m ∈ p.store.agentQueueReviewMessages,
      m ∈ (p.step i).store.agentQueueReviewMessages ∨
      m ∈ (p.step j).store.agentQueueReviewMessages) ∧
    ∀ m ∈ (p.step i).store.agentQueueReviewMessages,
    ∀ m' ∈ (p.step j).store.agentQueueReviewMessages,
      (∀ old ∈ p.store.agentQueueReviewMessages, old.messageId ≠ m.messageId) →
      (∀ old ∈ p.store.agentQueueReviewMessages, old.messageId ≠ m'.messageId) →
      SameReviewedTask m m' → m.messageId = m'.messageId

instance {ι α : Type} [DecidableEq ι] [Fintype ι] (p : Pool SqliteStore ι α) (i : ι) :
    Decidable (RaceFree p i) :=
  inferInstanceAs (Decidable (∀ _, _ → _ ∧ _))

/-- The pool of the requests. -/
def reviewPool {ι : Type} (s : SqliteStore) (requests : ι → ReviewRequest) :
    Pool SqliteStore ι (Except WorkspaceServiceError ReviewAnswer) :=
  Pool.start s fun i => ExceptT.run (requests i).program

/-- What an end of a request says about its phase. -/
def EndsIn (phase : ReviewPhase) : Except WorkspaceServiceError ReviewAnswer → Prop
  | .ok answer => phase.Answers answer
  | .error _ => phase.Ended

/-- A request that is about to write has not ended. -/
theorem EndsIn.ended {phase : ReviewPhase} {r : Except WorkspaceServiceError ReviewAnswer}
    (h : EndsIn phase r) : phase.Ended := by
  match r, h with
  | .error _, h => exact h
  | .ok (.created _), h => exact h
  | .ok (.acked _), ⟨n, hn, _⟩ =>
    rw [hn]
    trivial

/-- Every client keeps to the phases, without relying on the store. -/
def ReviewSound {ι : Type} (phase : ι → ReviewPhase)
    (p : Pool SqliteStore ι (Except WorkspaceServiceError ReviewAnswer)) : Prop :=
  p.Sound (fun _ _ _ => True) (fun _ _ => ReviewCommit) (fun _ => EndsIn) phase

section Interleavings

variable {ι : Type} {phase : ι → ReviewPhase}
  {p : Pool SqliteStore ι (Except WorkspaceServiceError ReviewAnswer)}

theorem reviewSound_reviewPool (s : SqliteStore) (requests : ι → ReviewRequest) :
    ReviewSound (fun _ => .reading) (reviewPool s requests) := by
  refine Pool.sound_start fun i s₀ => ?_
  have hprog := (@ReviewRequest.maintains (fun _ => True) (requests i)).prog
  exact hprog.mono fun phase r hr => by cases r <;> exact hr

variable [DecidableEq ι]

/-- The next step of a client that is about to acknowledge a message. -/
theorem ReviewSound.next_checked (h : ReviewSound phase p) {j : ι}
    {n : AckAgentQueueReviewMessageInput} {ackedAt : String} (hj : phase j = .checked n ackedAt) :
    (p.step j).store = p.store.acknowledged n ackedAt := by
  obtain ⟨phase', hcommit⟩ := Pool.Sound.commits h (fun _ _ => trivial) (i := j)
    fun r hr => by simpa [hj, ReviewPhase.Ended] using EndsIn.ended hr
  rw [hj] at hcommit
  generalize (p.step j).store = t at hcommit
  generalize p.store = u at hcommit
  cases hcommit with
  | read hphase => simp at hphase
  | acknowledged => rfl

/-- The next step of a client that is about to create a message that the store takes. -/
theorem ReviewSound.next_free (h : ReviewSound phase p) {j : ι} {row : AgentQueueReviewMessageRow}
    (hj : phase j = .free row) (haccepted : ¬ p.store.Refuses row) :
    row ∈ (p.step j).store.agentQueueReviewMessages := by
  obtain ⟨phase', hcommit⟩ := Pool.Sound.commits h (fun _ _ => trivial) (i := j)
    fun r hr => by simpa [hj, ReviewPhase.Ended] using EndsIn.ended hr
  rw [hj] at hcommit
  generalize (p.step j).store = t at hcommit
  cases hcommit with
  | read hphase => simp at hphase
  | refused hins => exact absurd (refuses_of_error hins) haccepted
  | created hins =>
    obtain ⟨messages', hinsert, rfl⟩ := insertAgentQueueReviewMessage_ok hins
    exact (Table.mem_insert hinsert row).2 (Or.inr rfl)

/-- **A step that races with no other one keeps the invariant.** -/
theorem reviewsSafe_step {i : ι} {phase' : ReviewPhase} (hcond : RaceFree p i)
    (hsafe : ReviewsSafe p.store phase) (hsound : ReviewSound phase p)
    (hcommit : ReviewCommit (phase i) p.store (p.step i).store phase') :
    ReviewsSafe (p.step i).store (Function.update phase i phase') := by
  refine hcommit.safe hsafe ?_ ?_
  · intro j hj n ackedAt hphase m hm hnames hopen
    refine ((hcond j hj).1 m hm).resolve_right ?_
    rw [hsound.next_checked hphase, mem_acknowledged]
    rintro (⟨old, -, -, rfl⟩ | ⟨-, hother⟩)
    · have hclosed : reviewMessageStatusAcknowledged ≠ reviewMessageStatusCreated := by decide
      exact hclosed hopen
    · exact absurd (hnames.symm.trans hother) (by decide)
  · intro j hj row hphase haccepted m hm hnew hsame
    have hfresh : ∀ old ∈ p.store.agentQueueReviewMessages, old.messageId ≠ row.messageId :=
      fun old hold hid => haccepted (Or.inr ⟨old, hold, hid⟩)
    exact (hcond j hj).2 m hm row (hsound.next_free hphase haccepted) hnew hfresh hsame

/-- The induction over a schedule, with a message that is not open. -/
theorem reviewsSafe_after {schedule : List ι} (hsafe : ReviewsSafe p.store phase)
    (hsound : ReviewSound phase p) (hcond : Along Pool.step RaceFree p schedule) :
    ∃ phase', ReviewsSafe (after Pool.step p schedule).store phase' ∧
      ReviewSound phase' (after Pool.step p schedule) ∧
      ∀ m ∈ p.store.agentQueueReviewMessages, m.status ≠ reviewMessageStatusCreated →
        m ∈ (after Pool.step p schedule).store.agentQueueReviewMessages := by
  let Good (q : Pool SqliteStore ι (Except WorkspaceServiceError ReviewAnswer))
      (phase : ι → ReviewPhase) : Prop := ReviewsSafe q.store phase ∧
    ∀ m ∈ p.store.agentQueueReviewMessages, m.status ≠ reviewMessageStatusCreated →
      m ∈ q.store.agentQueueReviewMessages
  obtain ⟨phase', ⟨hafter, hkept⟩, hsound'⟩ := @Pool.invariant_after _ _ _ _ _ _ _ _ _ _ Good
    RaceFree schedule (fun _ _ => trivial) (fun _ _ _ _ _ _ _ _ _ _ => trivial)
    (fun q phase i phase' hstep hq hsound _ _ hcommit =>
      ⟨reviewsSafe_step hstep hq.1 hsound hcommit, fun m hm hclosed =>
        hcommit.keeps_closed (hq.1.phases i) (hq.2 m hm hclosed) hclosed⟩)
    hsound ⟨hsafe, fun m hm _ => hm⟩ hcond
  exact ⟨phase', hafter, hsound', hkept⟩

/-- **The review protocol is safe in every interleaving without races**: a task has one
message at most, a message is acknowledged by one request at most, and no recorded
acknowledgement is overwritten. -/
theorem reviews_safe_after {s : SqliteStore} (hs : ReviewsInOrder s.agentQueueReviewMessages)
    (requests : ι → ReviewRequest) {before later : List ι}
    (hcond : Along Pool.step RaceFree (reviewPool s requests) (before ++ later)) :
    let p := after Pool.step (reviewPool s requests) before
    let q := after Pool.step (reviewPool s requests) (before ++ later)
    (∀ m ∈ q.store.agentQueueReviewMessages, ∀ m' ∈ q.store.agentQueueReviewMessages,
      SameReviewedTask m m' → m = m') ∧
    (∀ i j r r', q.answer i = some (.ok (.acked r)) → q.answer j = some (.ok (.acked r')) →
      r.messageId = r'.messageId → i = j) ∧
    ∀ m ∈ p.store.agentQueueReviewMessages, m.ackedAt.isSome ∨ m.ackActorId.isSome →
      m ∈ q.store.agentQueueReviewMessages := by
  intro p q
  obtain ⟨hbefore, hlater⟩ := along_append.1 hcond
  have hstart : ReviewsSafe s fun _ : ι => .reading :=
    ⟨hs, fun _ => trivial, fun _ _ _ _ h => by cases h⟩
  obtain ⟨phase₁, hsafe₁, hsound₁, -⟩ :=
    reviewsSafe_after hstart (reviewSound_reviewPool s requests) hbefore
  obtain ⟨phase₂, hsafe₂, hsound₂, hkept⟩ := reviewsSafe_after hsafe₁ hsound₁ hlater
  have hq : after Pool.step p later = q := (after_append _ _ _ _).symm
  rw [hq] at hsafe₂ hsound₂ hkept
  refine ⟨hsafe₂.inOrder.one, ?_, ?_⟩
  · intro i j r r' hi hj hid
    obtain ⟨n, hn, hr⟩ := hsound₂.answer_post (fun _ _ => trivial) hi
    obtain ⟨n', hn', hr'⟩ := hsound₂.answer_post (fun _ _ => trivial) hj
    exact hsafe₂.once i j n n' hn hn' (hr.symm.trans (hid.trans hr'))
  · intro m hm hacked
    refine hkept m hm fun hopen => ?_
    have hfresh := hsafe₁.inOrder.unacked m hm hopen
    rw [hfresh.ackedAt, hfresh.ackActorId] at hacked
    simp at hacked

end Interleavings

/-- A run that is reported and not reviewed yet. -/
def firstTaskReported : List Op :=
  firstTaskQueued ++ [startFirstTask 2, reportFirstTask 3 "queue-run_2000000002_2" "completed"]

/-- One client creates the message that another one acknowledges, and a third one creates it
again. -/
def createThenAck : Fin 3 → ReviewRequest
  | 0 => .create (drawsAt 4) ⟨"w", firstTask, "operator", none, none, none⟩
  | 1 => .ack (drawsAt 5) ⟨"w", firstTask, "queue-review-message-4000000001_1", "operator"⟩
  | 2 => .create (drawsAt 6) ⟨"w", firstTask, "operator", none, none, none⟩

/-- The acknowledged message is there, and the third client leaves it as it is. -/
theorem reviews_safe_after_createThenAck :
    let pool := reviewPool (after perform (oneWorkspace "w") firstTaskReported) createThenAck
    let p := after Pool.step pool (List.replicate 17 0 ++ List.replicate 16 1)
    let q := after Pool.step pool
      (List.replicate 17 0 ++ List.replicate 16 1 ++ List.replicate 17 2)
    (∃ m ∈ p.store.agentQueueReviewMessages, m.ackedAt.isSome) ∧
      (∀ m ∈ q.store.agentQueueReviewMessages, ∀ m' ∈ q.store.agentQueueReviewMessages,
        SameReviewedTask m m' → m = m') ∧
      (∀ i j r r', q.answer i = some (.ok (.acked r)) → q.answer j = some (.ok (.acked r')) →
        r.messageId = r'.messageId → i = j) ∧
      ∀ m ∈ p.store.agentQueueReviewMessages, m.ackedAt.isSome ∨ m.ackActorId.isSome →
        m ∈ q.store.agentQueueReviewMessages := by
  have hs := reviewsInOrder_after (empty_oneWorkspace "w") firstTaskReported
  have hsafe := @reviews_safe_after (Fin 3) _ _ hs createThenAck
    (List.replicate 17 0 ++ List.replicate 16 1) (List.replicate 17 2) (by decide +kernel)
  dsimp only at hsafe ⊢
  exact ⟨by decide +kernel, hsafe⟩

/-- Two clients create a message for the reported task. -/
def createTwice (client : Bool) : ReviewRequest :=
  .create (drawsAt (if client then 4 else 5)) ⟨"w", firstTask, "operator", none, none, none⟩

/-- Two clients acknowledge the message of the reported task. -/
def ackTwice (client : Bool) : ReviewRequest :=
  .ack (drawsAt (if client then 6 else 7))
    ⟨"w", firstTask, "queue-review-message-4000000001_1", "operator"⟩

def createTwicePool : Pool SqliteStore Bool (Except WorkspaceServiceError ReviewAnswer) :=
  reviewPool (after perform (oneWorkspace "w") firstTaskReported) createTwice

def ackTwicePool : Pool SqliteStore Bool (Except WorkspaceServiceError ReviewAnswer) :=
  reviewPool (after perform (oneWorkspace "w") (firstTaskReported ++
    [.createReviewMessage (drawsAt 4) ⟨"w", firstTask, "operator", none, none, none⟩])) ackTwice

/-- Both clients look for a message before one of them creates it; and both find the message
open before one of them acknowledges it. -/
theorem reviews_raced :
    (∃ m ∈ (after Pool.step createTwicePool (List.replicate 16 true ++
        List.replicate 17 false ++ [true])).store.agentQueueReviewMessages,
      ∃ m' ∈ (after Pool.step createTwicePool (List.replicate 16 true ++
        List.replicate 17 false ++ [true])).store.agentQueueReviewMessages,
      SameReviewedTask m m' ∧ m ≠ m') ∧
    ∃ m ∈ (after Pool.step ackTwicePool (List.replicate 15 true ++
        List.replicate 16 false)).store.agentQueueReviewMessages,
      m.ackedAt.isSome ∧
      m ∉ (after Pool.step ackTwicePool (List.replicate 15 true ++
        List.replicate 16 false ++ [true])).store.agentQueueReviewMessages := by
  decide +kernel

end HobitQueue
