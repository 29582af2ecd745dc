import HobitQueue.Queue.DependencyGraph
import HobitQueue.Queue.Records

/-!
# Who owns the records of a task

Run links, review messages, evidence and decisions name a task, and may refer to each other. The
foreign keys of the database only say that what they refer to exists. That it belongs to the same
task of the same workspace is an invariant of the commands.

## Main results

* `records_owned_after` — records refer to rows of their own task.
* `operations_stay_in_workspace` — an operation changes no row of another workspace.
-/

namespace HobitQueue

open Concurrent StoreProg Relational Machine

/-! ## Rows after a write -/

section Tables

variable {ρ : Type*} [Row ρ] {t t' : Table ρ} {p : ρ → Bool} {f : ρ → ρ}
  {P : ρ → Prop} {r : ρ}

theorem exists_mem_update (hf : ∀ a, Row.keys (f a) = Row.keys a) (hP : ∀ a, P a → P (f a))
    (h : ∃ a ∈ t, P a) : ∃ a ∈ t.update p f hf, P a := by
  obtain ⟨a, ha, hPa⟩ := h
  refine ⟨_, Table.mem_update.2 ⟨a, ha, rfl⟩, ?_⟩
  split
  · exact hP a hPa
  · exact hPa

theorem forall_mem_update (hf : ∀ a, Row.keys (f a) = Row.keys a) (hP : ∀ a, P a → P (f a))
    (h : ∀ a ∈ t, P a) : ∀ a ∈ t.update p f hf, P a := by
  intro b hb
  obtain ⟨a, ha, rfl⟩ := Table.mem_update.1 hb
  split
  · exact hP a (h a ha)
  · exact h a ha

theorem exists_mem_insert (hins : t.insert r = some t') (h : ∃ a ∈ t, P a) : ∃ a ∈ t', P a := by
  obtain ⟨a, ha, hPa⟩ := h
  exact ⟨a, (Table.mem_insert hins a).2 (Or.inl ha), hPa⟩

theorem forall_mem_insert (hins : t.insert r = some t') (h : ∀ a ∈ t, P a) (hr : P r) :
    ∀ a ∈ t', P a := by
  intro a ha
  rcases (Table.mem_insert hins a).1 ha with hold | rfl
  · exact h a hold
  · exact hr

/-- An update of other rows keeps these. -/
theorem mem_update_of_others (hf : ∀ a, Row.keys (f a) = Row.keys a)
    (hp : ∀ a, p a = true → ¬ P a ∧ ¬ P (f a)) (hr : P r) : r ∈ t.update p f hf ↔ r ∈ t := by
  rw [Table.mem_update]
  constructor
  · rintro ⟨a, ha, rfl⟩
    by_cases hpa : p a = true
    · rw [if_pos hpa] at hr
      exact absurd hr (hp a hpa).2
    · rw [if_neg hpa]
      exact ha
  · intro hr'
    refine ⟨r, hr', ?_⟩
    rw [if_neg fun hpr => (hp r hpr).1 hr]

theorem mem_insert_of_others {a : ρ} (hins : t.insert r = some t') (hr : ¬ P r) (ha : P a) :
    a ∈ t' ↔ a ∈ t := by
  rw [Table.mem_insert hins]
  constructor
  · rintro (hold | rfl)
    · exact hold
    · exact absurd ha hr
  · exact Or.inl

/-- A row with an id stands in one place. -/
theorem find_elsewhere {key owner : ρ → String} (hkey : ∀ a b, key a = key b → Clash a b)
    {id place : String} (h : ∃ a ∈ t, key a = id ∧ owner a ≠ place) :
    (t.find fun a => key a == id && owner a == place).isSome = false := by
  obtain ⟨a, ha, rfl, hplace⟩ := h
  rw [Option.isSome_eq_false_iff, Option.isNone_iff_eq_none, Table.find_eq_none]
  intro b hb
  by_contra hfound
  simp only [Bool.not_eq_false, Bool.and_eq_true, beq_iff_eq] at hfound
  obtain rfl := Table.eq_of_clash hb ha (hkey b a hfound.1)
  exact hplace hfound.2

/-- Rows that a deletion and the rewriting after it leave alone are kept. -/
theorem mem_delete_update_of_others {q : ρ → Bool} (hf : ∀ a, Row.keys (f a) = Row.keys a)
    (hP : ∀ a ∈ t, P (f a) → P a) (hkept : ∀ a ∈ t, P a → q a = false ∧ f a = a) (hr : P r) :
    r ∈ (t.delete q).update (fun _ => true) f hf ↔ r ∈ t := by
  rw [Table.mem_update]
  constructor
  · rintro ⟨a, ha, rfl⟩
    have hmem := (Table.mem_delete.1 ha).1
    rw [if_pos rfl] at hr ⊢
    rw [(hkept a hmem (hP a hmem hr)).2]
    exact hmem
  · intro hmem
    obtain ⟨hq, hfixed⟩ := hkept r hmem hr
    exact ⟨r, Table.mem_delete.2 ⟨hmem, hq⟩, by rw [if_pos rfl, hfixed]⟩

end Tables

/-! ## The invariant -/

/-- The workspace has the task. -/
def HasTask (s : SqliteStore) (workspaceId queueItemId : String) : Prop :=
  ∃ task ∈ s.agentQueueTasks, task.workspaceId = workspaceId ∧ task.queueItemId = queueItemId

/-- The id is that of a run link of the task. -/
def LinkOf (s : SqliteStore) (workspaceId queueTaskId id : String) : Prop :=
  ∃ link ∈ s.agentQueueTaskRunLinks, link.linkId = id ∧ link.workspaceId = workspaceId ∧
    link.queueTaskId = queueTaskId

/-- The id is that of a review message of the task. -/
def MessageOf (s : SqliteStore) (workspaceId queueTaskId id : String) : Prop :=
  ∃ message ∈ s.agentQueueReviewMessages, message.messageId = id ∧
    message.workspaceId = workspaceId ∧ message.queueTaskId = queueTaskId

/-- The id is that of an evidence bundle of the task. -/
def BundleOf (s : SqliteStore) (workspaceId queueTaskId id : String) : Prop :=
  ∃ bundle ∈ s.agentQueueWorkerEvidenceBundles, bundle.bundleId = id ∧
    bundle.workspaceId = workspaceId ∧ bundle.queueTaskId = queueTaskId

/-- A row of a task that may refer to a run link of it. -/
def Linked (s : SqliteStore) (workspaceId queueTaskId : String) (runLinkId : Option String) :
    Prop :=
  HasTask s workspaceId queueTaskId ∧ ∀ id ∈ runLinkId, LinkOf s workspaceId queueTaskId id

/-- The records of `t` belong to tasks of `s`, and refer to rows of `s` that belong to them. -/
structure OwnedIn (s t : SqliteStore) : Prop where
  links : ∀ r ∈ t.agentQueueTaskRunLinks, HasTask s r.workspaceId r.queueTaskId
  messages : ∀ r ∈ t.agentQueueReviewMessages, Linked s r.workspaceId r.queueTaskId r.runLinkId
  bundles : ∀ r ∈ t.agentQueueWorkerEvidenceBundles,
    Linked s r.workspaceId r.queueTaskId r.runLinkId
  completions : ∀ r ∈ t.agentQueueCompletionDecisions,
    Linked s r.workspaceId r.queueTaskId r.runLinkId ∧
      ∀ id ∈ r.reviewMessageId, MessageOf s r.workspaceId r.queueTaskId id
  failures : ∀ r ∈ t.agentQueueFailureDecisions,
    Linked s r.workspaceId r.queueTaskId r.runLinkId ∧
      (∀ id ∈ r.reviewMessageId, MessageOf s r.workspaceId r.queueTaskId id) ∧
      ∀ id ∈ r.evidenceBundleId, BundleOf s r.workspaceId r.queueTaskId id

/-- The links, messages and bundles of a task in one store are those of it in the other. -/
structure KeepsReferences (s t : SqliteStore) : Prop where
  links : ∀ {workspaceId task id}, LinkOf s workspaceId task id → LinkOf t workspaceId task id
  messages : ∀ {workspaceId task id}, MessageOf s workspaceId task id →
    MessageOf t workspaceId task id
  bundles : ∀ {workspaceId task id}, BundleOf s workspaceId task id →
    BundleOf t workspaceId task id

/-- What records refer to in one store is in the other as well. -/
structure KeepsOwners (s t : SqliteStore) : Prop extends KeepsReferences s t where
  tasks : ∀ {workspaceId id}, HasTask s workspaceId id → HasTask t workspaceId id

theorem KeepsOwners.linked {s t : SqliteStore} (h : KeepsOwners s t)
    {workspaceId queueTaskId : String} {runLinkId : Option String}
    (hlinked : Linked s workspaceId queueTaskId runLinkId) :
    Linked t workspaceId queueTaskId runLinkId :=
  ⟨h.tasks hlinked.1, fun id hid => h.links (hlinked.2 id hid)⟩

theorem OwnedIn.of_keeps {s t : SqliteStore} (h : OwnedIn s t) (hkeeps : KeepsOwners s t) :
    OwnedIn t t where
  links r hr := hkeeps.tasks (h.links r hr)
  messages r hr := hkeeps.linked (h.messages r hr)
  bundles r hr := hkeeps.linked (h.bundles r hr)
  completions r hr := by
    obtain ⟨hlinked, hmessage⟩ := h.completions r hr
    exact ⟨hkeeps.linked hlinked, fun id hid => hkeeps.messages (hmessage id hid)⟩
  failures r hr := by
    obtain ⟨hlinked, hmessage, hbundle⟩ := h.failures r hr
    exact ⟨hkeeps.linked hlinked, fun id hid => hkeeps.messages (hmessage id hid),
      fun id hid => hkeeps.bundles (hbundle id hid)⟩

theorem ownedIn_of_empty {s : SqliteStore} (hs : Empty s) : OwnedIn s s where
  links r hr := absurd hr (hs.runLinks r)
  messages r hr := absurd hr (hs.reviewMessages r)
  bundles r hr := absurd hr (hs.evidence r)
  completions r hr := absurd hr (hs.completions r)
  failures r hr := absurd hr (hs.failures r)

/-! ## What the commands have checked -/

/-- A link is recorded for a task of the workspace. -/
theorem hasTask_of_recordRunStarted {d : Draws} {input : RecordAgentQueueTaskRunStartedInput}
    {s : SqliteStore} {link : AgentQueueTaskRunLinkRow}
    (hlink : link ∈ (perform s (.recordRunStarted d input)).agentQueueTaskRunLinks)
    (hnew : link ∉ s.agentQueueTaskRunLinks) : HasTask s link.workspaceId link.queueTaskId := by
  have hexec : exec (recordAgentQueueTaskRunStarted d input) s =
      (_, perform s (.recordRunStarted d input)) := Prod.mk.eta.symm
  rcases exec_command hexec with ⟨-, hsame⟩ | ⟨n, _, -, hrun, -⟩
  · exact absurd (hsame ▸ hlink) hnew
  rw [exec_bind_ok] at hrun
  obtain ⟨⟨⟩, u, hvalid, hrun⟩ := hrun
  obtain rfl := validateQueueTaskExecutorRunLink_ok hvalid
  rw [validateQueueTaskExecutorRunLink, exec_bind_ok] at hvalid
  obtain ⟨task, v, hload, -⟩ := hvalid
  obtain ⟨-, htask, hws, hid⟩ := loadAgentQueueTask_ok hload
  simp only [exec_bind_ok, exec_execute_ok, SqliteStore.insertAgentQueueTaskRunLink,
    SqliteStore.inserted_ok, SqliteStore.touchWorkspace, exec_pure, Except.ok.injEq,
    Prod.mk.injEq] at hrun
  obtain ⟨_, _, ⟨-, -, links', hins, rfl⟩, _, _, ⟨-, rfl⟩, -, hafter⟩ := hrun
  rw [← hafter] at hlink
  rcases (Table.mem_insert hins link).1 hlink with hold | rfl
  · exact absurd hold hnew
  · exact ⟨task, htask, hws, hid⟩

/-- Every start is one of a task of the workspace. -/
theorem hasTask_of_startsLink {s : SqliteStore} {op : Op} {link : AgentQueueTaskRunLinkRow}
    (h : StartsLink s op link) (hlink : link ∈ (perform s op).agentQueueTaskRunLinks)
    (hnew : link ∉ s.agentQueueTaskRunLinks) : HasTask s link.workspaceId link.queueTaskId := by
  cases h with
  | assigned _ htask _ =>
    obtain ⟨task, htask, hws, hid, -⟩ := htask
    exact ⟨task, htask, hws, hid⟩
  | selected _ _ htask =>
    obtain ⟨task, htask, hws, hid, -⟩ := htask
    exact ⟨task, htask, hws, hid⟩
  | recorded _ => exact hasTask_of_recordRunStarted hlink hnew

theorem validateFailedEvidence_view {task : OperatorTask} {view : OperatorView}
    {requestedRunId requestedEvidenceBundleId : Option String}
    {evidence : AgentQueueWorkerEvidenceBundleRow}
    (h : validateFailedEvidence task view requestedRunId requestedEvidenceBundleId =
      .ok evidence) : view.evidence = some evidence := by
  simp only [validateFailedEvidence] at h
  split at h
  · cases h
  rename_i found hfound
  rw [refuseIf_bind_ok, refuseIf_bind_ok] at h
  obtain ⟨-, -, h⟩ := h
  obtain rfl := Except.ok.inj h
  exact hfound

theorem validateFailedReview_view {task : OperatorTask} {view : OperatorView}
    {requestedReviewMessageId : Option String} {message : AgentQueueReviewMessageRow}
    (h : validateFailedReview task view requestedReviewMessageId = .ok message) :
    view.reviewMessage = some message := by
  simp only [validateFailedReview] at h
  split at h
  · cases h
  rename_i found hfound
  rw [refuseIf_bind_ok, refuseIf_bind_ok] at h
  obtain ⟨-, -, h⟩ := h
  obtain rfl := Except.ok.inj h
  exact hfound

theorem validateFailPrecondition_view {task : OperatorTask} {view : OperatorView}
    {requestedRunId requestedEvidenceBundleId requestedReviewMessageId : Option String}
    {evidence : AgentQueueWorkerEvidenceBundleRow} {message : AgentQueueReviewMessageRow}
    (h : validateFailPrecondition task view requestedRunId requestedEvidenceBundleId
      requestedReviewMessageId = .ok (evidence, message)) :
    view.evidence = some evidence ∧ view.reviewMessage = some message := by
  simp only [validateFailPrecondition] at h
  rw [except_bind_ok] at h
  obtain ⟨_, -, h⟩ := h
  rw [except_bind_ok] at h
  obtain ⟨found, hfound, h⟩ := h
  rw [except_bind_ok] at h
  obtain ⟨review, hreview, h⟩ := h
  rw [refuseIf_bind_ok, refuseIf_bind_ok] at h
  obtain ⟨-, -, h⟩ := h
  obtain ⟨rfl, rfl⟩ := Prod.mk.inj (Except.ok.inj h)
  exact ⟨validateFailedEvidence_view hfound, validateFailedReview_view hreview⟩

/-- A failure decision is about the latest evidence and the latest message of its task. -/
theorem failureDecision_of_fail {d : Draws} {input : FailAgentQueueItemInput} {s : SqliteStore}
    {a : AgentQueueFailureDecisionRow}
    (ha : a ∈ (perform s (.fail d input)).agentQueueFailureDecisions)
    (hnew : a ∉ s.agentQueueFailureDecisions) :
    ∃ request evidence message, a = failureDecision d request evidence message ∧
      HasTask s request.workspaceId request.queueItemId ∧
      s.getLatestAgentQueueWorkerEvidenceBundle request.workspaceId request.queueItemId =
        some evidence ∧
      s.getLatestAgentQueueReviewMessage request.workspaceId request.queueItemId =
        some message := by
  have hexec : exec (failAgentQueueItem d input) s = (_, perform s (.fail d input)) :=
    Prod.mk.eta.symm
  generalize perform s (.fail d input) = t at hexec ha
  have hkept : t ≠ s := fun hsame => hnew (hsame ▸ ha)
  unfold failAgentQueueItem at hexec
  split at hexec
  · exact absurd (Prod.mk.inj hexec).2.symm hkept
  rename_i request hrequest
  have hgo := (withOperatorTask_effect hexec).resolve_left hkept
  obtain ⟨view, hview, hgo⟩ :=
    ((readOnly_readOperatorView _).exec_bind hgo).resolve_left hkept
  obtain ⟨-, row, hrow, rfl⟩ := readOperatorView_ok hview
  rw [exec_query_bind, exec_query_bind] at hgo
  split at hgo
  · exact absurd ((readOnly_failureOfDecidedTask _ _).state hgo) hkept
  · exact absurd ((readOnly_failureOfDecidedTask _ _).state hgo) hkept
  · exact absurd (Prod.mk.inj hgo).2.symm hkept
  rename_i evidence message _ _ hvalid
  obtain ⟨hevidence, hmessage⟩ := validateFailPrecondition_view hvalid
  have hrecorded : FailsTask d request evidence message s t := by
    rw [exec_bind_eq] at hgo
    obtain ⟨e, hrecord, -⟩ | ⟨decision, u, hrecord, hgo⟩ := hgo
    · exact (recordFailure_effect hrecord).resolve_left fun hkeeps => hkept hkeeps.2
    · obtain rfl := (readOnly_failureAnswer _ _).state hgo
      exact (recordFailure_effect hrecord).resolve_left fun hkeeps => hkept hkeeps.2
  obtain ⟨decisions', _, hins, rfl⟩ := hrecorded
  obtain ⟨htask, hws, hid⟩ := getAgentQueueTask_eq_some.1 hrow
  exact ⟨request, evidence, message, ((Table.mem_insert hins a).1 ha).resolve_left hnew,
    ⟨row, htask, hws, hid⟩, hevidence, hmessage⟩

/-- The latest evidence of a task belongs to it, and so does the link it refers to. -/
theorem bundle_of_latest {s : SqliteStore} (h : OwnedIn s s) {workspaceId queueTaskId : String}
    {evidence : AgentQueueWorkerEvidenceBundleRow}
    (hlatest : s.getLatestAgentQueueWorkerEvidenceBundle workspaceId queueTaskId =
      some evidence) :
    BundleOf s workspaceId queueTaskId evidence.bundleId ∧
      Linked s workspaceId queueTaskId evidence.runLinkId := by
  obtain ⟨hmem, hkey, -⟩ := Table.latest_eq_some.1 hlatest
  simp only [Bool.and_eq_true, beq_iff_eq] at hkey
  obtain ⟨rfl, rfl⟩ := hkey
  exact ⟨⟨evidence, hmem, rfl, rfl, rfl⟩, h.bundles evidence hmem⟩

theorem message_of_latest {s : SqliteStore} {workspaceId queueTaskId : String}
    {message : AgentQueueReviewMessageRow}
    (hlatest : s.getLatestAgentQueueReviewMessage workspaceId queueTaskId = some message) :
    MessageOf s workspaceId queueTaskId message.messageId := by
  obtain ⟨hmem, hkey, -⟩ := Table.latest_eq_some.1 hlatest
  simp only [Bool.and_eq_true, beq_iff_eq] at hkey
  exact ⟨message, hmem, rfl, hkey.1, hkey.2⟩

/-- A new message refers to the latest link of its task. -/
theorem linked_newReviewMessage {s : SqliteStore} {d : Draws} {request : CreateReviewMessageRequest}
    {row : AgentQueueTaskRow}
    (hrow : s.getAgentQueueTask request.workspaceId request.queueItemId = some row) :
    let message := newReviewMessage d request (s.operatorView request.toOperatorTask row)
    Linked s message.workspaceId message.queueTaskId message.runLinkId := by
  intro message
  obtain ⟨htask, hws, hid⟩ := getAgentQueueTask_eq_some.1 hrow
  refine ⟨⟨row, htask, hws, hid⟩, fun id hlink => ?_⟩
  have hlatest : ((s.getLatestAgentQueueTaskRunLink request.workspaceId row.queueItemId).map
      (·.linkId)) = some id := by
    rw [← Option.mem_def.1 hlink]
    simp only [message, newReviewMessage, SqliteStore.operatorView, SqliteStore.queueItemAggregate,
      buildQueueItemAggregate, SqliteStore.latestRows, Option.map_map]
    rfl
  obtain ⟨link, hfound, rfl⟩ := Option.map_eq_some_iff.1 hlatest
  obtain ⟨hmem, hkey, -⟩ := Table.latest_eq_some.1 hfound
  simp only [Bool.and_eq_true, beq_iff_eq] at hkey
  exact ⟨link, hmem, rfl, hkey.1, hkey.2.trans hid⟩

/-! ## Operations that delete nothing -/

def Op.Deletes : Op → Bool
  | .deleteTask .. => true
  | _ => false

theorem KeepsReferences.of_sameRecords {s t u : SqliteStore} (h : KeepsReferences s t)
    (hsame : t.SameRecords u) : KeepsReferences s u where
  links hlink := by
    rw [LinkOf, hsame.runLinks]
    exact h.links hlink
  messages hmessage := by
    rw [MessageOf, hsame.reviewMessages]
    exact h.messages hmessage
  bundles hbundle := by
    rw [BundleOf, hsame.evidence]
    exact h.bundles hbundle

theorem KeepsReferences.refl (s : SqliteStore) : KeepsReferences s s :=
  ⟨fun h => h, fun h => h, fun h => h⟩

/-- A stored bundle takes the place of the one of its run, under the same id. -/
theorem UpsertsBundle.exists_bundle {bundle : AgentQueueWorkerEvidenceBundleRow}
    {bundles bundles' : Table AgentQueueWorkerEvidenceBundleRow}
    (h : UpsertsBundle bundle bundles bundles') {workspaceId queueTaskId id : String}
    (hold : ∃ b ∈ bundles, b.bundleId = id ∧ b.workspaceId = workspaceId ∧
      b.queueTaskId = queueTaskId) :
    ∃ b ∈ bundles', b.bundleId = id ∧ b.workspaceId = workspaceId ∧
      b.queueTaskId = queueTaskId := by
  rcases h with hins | ⟨-, rfl⟩
  · exact exists_mem_insert hins hold
  · exact exists_mem_update bundle.keys_supersede (fun _ ha => ha) hold

theorem keys_acknowledge (actorId ackedAt : String) (r : AgentQueueReviewMessageRow) :
    Row.keys (acknowledge actorId ackedAt r) = Row.keys r := rfl

theorem keepsReferences_of_effect {s t : SqliteStore} {op : Op} (h : RecordEffect s op t)
    (hop : op.Deletes = false) : KeepsReferences s t := by
  cases h with
  | kept h => exact (KeepsReferences.refl s).of_sameRecords h
  | linkStarted _ hins h =>
    refine KeepsReferences.of_sameRecords ?_ h
    exact ⟨fun hlink => exists_mem_insert hins hlink, fun h => h, fun h => h⟩
  | @linkEnded _ _ _ update h =>
    refine KeepsReferences.of_sameRecords ?_ h
    exact ⟨fun hlink => exists_mem_update update.keys_apply (fun _ ha => ha) hlink,
      fun h => h, fun h => h⟩
  | @bundleStored _ _ _ update _ _ _ _ hups h =>
    refine KeepsReferences.of_sameRecords ?_ h
    exact ⟨fun hlink => exists_mem_update update.keys_apply (fun _ ha => ha) hlink, fun h => h,
      fun hbundle => hups.exists_bundle hbundle⟩
  | messageCreated _ _ _ hins =>
    exact ⟨fun h => h, fun hmessage => exists_mem_insert hins hmessage, fun h => h⟩
  | @messageAcked _ _ actorId ackedAt =>
    exact ⟨fun h => h, fun hmessage =>
      exists_mem_update (keys_acknowledge actorId ackedAt) (fun _ ha => ha) hmessage, fun h => h⟩
  | accepted _ h =>
    obtain ⟨_, _, _, _, _, _, _, _, _, rfl⟩ := h
    exact ⟨fun h => h, fun h => h, fun h => h⟩
  | gaveUp _ h =>
    obtain ⟨_, _, _, rfl⟩ := h
    exact ⟨fun h => h, fun h => h, fun h => h⟩
  | deleted hn => cases hop

/-- An operation that deletes nothing keeps what records refer to. -/
theorem keepsOwners_perform (s : SqliteStore) {op : Op} (hop : op.Deletes = false) :
    KeepsOwners s (perform s op) := by
  have hkeeps := keepsReferences_of_effect (recordEffect_perform s op) hop
  refine ⟨hkeeps, fun {workspaceId id} h => ?_⟩
  rcases isSome_or_deleted op (isSome_getAgentQueueTask.2 h) with hsome | ⟨_, _, rfl, -⟩
  · exact isSome_getAgentQueueTask.1 hsome
  · cases hop

/-- What an operation records belongs to what it finds. -/
theorem ownedIn_perform {s : SqliteStore} (h : OwnedIn s s) {op : Op}
    (hop : op.Deletes = false) : OwnedIn s (perform s op) := by
  have heffect := recordEffect_perform s op
  generalize hperform : perform s op = t at heffect
  cases heffect with
  | kept hsame =>
    refine ⟨?_, ?_, ?_, ?_, ?_⟩
    · exact hsame.runLinks ▸ h.links
    · exact hsame.reviewMessages ▸ h.messages
    · exact hsame.evidence ▸ h.bundles
    · exact hsame.completions ▸ h.completions
    · exact hsame.failures ▸ h.failures
  | @linkStarted _ _ link links' hstarts hins hsame =>
    have hlinks : ∀ r ∈ t.agentQueueTaskRunLinks, HasTask s r.workspaceId r.queueTaskId := by
      refine hsame.runLinks ▸ forall_mem_insert hins h.links ?_
      have hmem : link ∈ t.agentQueueTaskRunLinks :=
        hsame.runLinks ▸ (Table.mem_insert hins link).2 (Or.inr rfl)
      rw [← hperform] at hmem
      by_cases hold : link ∈ s.agentQueueTaskRunLinks
      · exact h.links link hold
      · exact hasTask_of_startsLink hstarts hmem hold
    refine ⟨hlinks, ?_, ?_, ?_, ?_⟩
    · exact hsame.reviewMessages ▸ h.messages
    · exact hsame.evidence ▸ h.bundles
    · exact hsame.completions ▸ h.completions
    · exact hsame.failures ▸ h.failures
  | @linkEnded _ _ _ update hsame =>
    refine ⟨?_, ?_, ?_, ?_, ?_⟩
    · exact hsame.runLinks ▸ forall_mem_update update.keys_apply (fun _ ha => ha) h.links
    · exact hsame.reviewMessages ▸ h.messages
    · exact hsame.evidence ▸ h.bundles
    · exact hsame.completions ▸ h.completions
    · exact hsame.failures ▸ h.failures
  | @bundleStored _ _ _ update bundle _ _ hlink hups hsame =>
    refine ⟨?_, ?_, ?_, ?_, ?_⟩
    · exact hsame.runLinks ▸ forall_mem_update update.keys_apply (fun _ ha => ha) h.links
    · exact hsame.reviewMessages ▸ h.messages
    · intro r hr
      rw [hsame.evidence] at hr
      rcases hups.mem_cases hr with ⟨hold, -⟩ | ⟨old, hrun, rfl⟩
      · exact h.bundles r hold
      · obtain ⟨link, hmem, hws, htask, -, hid⟩ := hlink
        simp only [sameRun, Bool.and_eq_true, beq_iff_eq] at hrun
        obtain ⟨⟨holdWs, holdTask⟩, -⟩ := hrun
        have hown : HasTask s old.workspaceId old.queueTaskId := by
          rw [holdWs, holdTask, ← hws, ← htask]
          exact h.links link hmem
        refine ⟨hown, fun id hlinked => ?_⟩
        obtain rfl := Option.some.inj (hid.symm.trans hlinked)
        exact ⟨link, hmem, rfl, hws.trans holdWs.symm, htask.trans holdTask.symm⟩
    · exact hsame.completions ▸ h.completions
    · exact hsame.failures ▸ h.failures
  | messageCreated _ hrow _ hins =>
    exact ⟨h.links, forall_mem_insert hins h.messages (linked_newReviewMessage hrow), h.bundles,
      h.completions, h.failures⟩
  | @messageAcked _ _ actorId ackedAt =>
    exact ⟨h.links, forall_mem_update (keys_acknowledge actorId ackedAt) (fun _ ha => ha)
      h.messages, h.bundles, h.completions, h.failures⟩
  | accepted _ haccepts =>
    obtain ⟨row, evidence, message, _, _, hrow, hvalid, -, hins, rfl⟩ := haccepts
    obtain ⟨hevidence, -, hmessage, -⟩ := validateMarkDonePrecondition_ok hvalid
    refine ⟨h.links, h.messages, h.bundles, forall_mem_insert hins h.completions ?_, h.failures⟩
    refine ⟨(bundle_of_latest h hevidence).2, fun id hid => ?_⟩
    obtain rfl := Option.some.inj hid
    exact message_of_latest hmessage
  | @gaveUp d input request evidence message _ _ hfails =>
    obtain ⟨decisions', _, hins, rfl⟩ := hfails
    refine ⟨h.links, h.messages, h.bundles, h.completions, forall_mem_insert hins h.failures ?_⟩
    have hmem : failureDecision d request evidence message ∈
        (perform s (.fail d input)).agentQueueFailureDecisions := by
      rw [hperform]
      exact (Table.mem_insert hins _).2 (Or.inr rfl)
    by_cases hold : failureDecision d request evidence message ∈ s.agentQueueFailureDecisions
    · exact h.failures _ hold
    obtain ⟨request', evidence', message', hsame, -, hevidence, hmessage⟩ :=
      failureDecision_of_fail hmem hold
    rw [hsame]
    obtain ⟨hbundle, hlinked⟩ := bundle_of_latest h hevidence
    refine ⟨hlinked, fun id hid => ?_, fun id hid => ?_⟩
    · obtain rfl := Option.some.inj hid
      exact message_of_latest hmessage
    · obtain rfl := Option.some.inj hid
      exact hbundle
  | deleted hn => cases hop

/-! ## Deletions -/

/-- A deletion is one of a task of the workspace it is for. -/
theorem hasTask_of_deleteTask {d : Draws} {input : AgentQueueTaskRef} {s : SqliteStore}
    (hchanges : perform s (.deleteTask d input) ≠ s) :
    ∃ n workspaces', normalizeAgentQueueTaskRef input = .ok n ∧
      HasTask s n.workspaceId n.queueItemId ∧
      perform s (.deleteTask d input) =
        { s.withoutTask n.queueItemId with workspaces := workspaces' } := by
  have hexec : exec (deleteAgentQueueTask d input) s =
      (_, perform s (.deleteTask d input)) := Prod.mk.eta.symm
  rcases exec_plain_command hexec with ⟨-, hsame⟩ | ⟨n, row, hn, hrun, -⟩
  · exact absurd hsame hchanges
  rcases deleteAgentQueueTask_effect hexec with hsame | ⟨n', workspaces', hn', hafter⟩
  · exact absurd hsame hchanges
  obtain rfl : n = n' := Except.ok.inj (hn.symm.trans hn')
  refine ⟨n, workspaces', hn, ?_, hafter⟩
  rw [exec_bind_ok] at hrun
  obtain ⟨task, u, hload, hrun⟩ := hrun
  obtain ⟨rfl, hfind, hws⟩ := loadOptionalAgentQueueTask_ok hload
  cases task with
  | none =>
    simp only [exec_pure, Prod.mk.injEq] at hrun
    exact absurd hrun.2.symm hchanges
  | some task =>
    obtain ⟨htask, hid⟩ := getAgentQueueTaskById_eq_some.1 hfind
    exact ⟨task, htask, hws task rfl, hid⟩

section Deletion

variable {s : SqliteStore} {queueItemId workspaceId queueTaskId id : String}

theorem hasTask_withoutTask (h : HasTask s workspaceId queueTaskId)
    (hother : queueTaskId ≠ queueItemId) :
    HasTask (s.withoutTask queueItemId) workspaceId queueTaskId := by
  obtain ⟨task, htask, hws, rfl⟩ := h
  exact ⟨task, Table.mem_delete.2 ⟨htask, by simpa using hother⟩, hws, rfl⟩

theorem linkOf_withoutTask (h : LinkOf s workspaceId queueTaskId id)
    (hother : queueTaskId ≠ queueItemId) :
    LinkOf (s.withoutTask queueItemId) workspaceId queueTaskId id := by
  obtain ⟨link, hlink, hid, hws, rfl⟩ := h
  exact ⟨link, Table.mem_delete.2 ⟨hlink, by simpa using hother⟩, hid, hws, rfl⟩

theorem messageOf_withoutTask (h : MessageOf s workspaceId queueTaskId id)
    (hother : queueTaskId ≠ queueItemId) :
    MessageOf (s.withoutTask queueItemId) workspaceId queueTaskId id := by
  obtain ⟨message, hmessage, hid, hws, rfl⟩ := h
  have hkept : (message.queueTaskId == queueItemId) = false := by simpa using hother
  simp only [MessageOf, SqliteStore.withoutTask, Table.mem_update, Table.mem_delete]
  exact ⟨_, ⟨message, ⟨hmessage, hkept⟩, rfl⟩, hid, hws, rfl⟩

theorem bundleOf_withoutTask (h : BundleOf s workspaceId queueTaskId id)
    (hother : queueTaskId ≠ queueItemId) :
    BundleOf (s.withoutTask queueItemId) workspaceId queueTaskId id := by
  obtain ⟨bundle, hbundle, hid, hws, rfl⟩ := h
  have hkept : (bundle.queueTaskId == queueItemId) = false := by simpa using hother
  simp only [BundleOf, SqliteStore.withoutTask, Table.mem_update, Table.mem_delete]
  exact ⟨_, ⟨bundle, ⟨hbundle, hkept⟩, rfl⟩, hid, hws, rfl⟩

theorem mem_of_mem_setNull {removed : String → Bool} {column : Option String}
    (h : id ∈ SqliteStore.setNull removed column) : id ∈ column :=
  (Option.filter_eq_some_iff.1 h).1

theorem linked_withoutTask {runLinkId : Option String} {removed : String → Bool}
    (h : Linked s workspaceId queueTaskId runLinkId) (hother : queueTaskId ≠ queueItemId) :
    Linked (s.withoutTask queueItemId) workspaceId queueTaskId
      (SqliteStore.setNull removed runLinkId) :=
  ⟨hasTask_withoutTask h.1 hother, fun id hid =>
    linkOf_withoutTask (h.2 id (mem_of_mem_setNull hid)) hother⟩

/-- What is left after a deletion refers to what is left. -/
theorem ownedIn_withoutTask (h : OwnedIn s s) (queueItemId : String) :
    OwnedIn (s.withoutTask queueItemId) (s.withoutTask queueItemId) where
  links r hr := by
    obtain ⟨hold, hkept⟩ := Table.mem_delete.1 hr
    exact hasTask_withoutTask (h.links r hold) (by simpa using hkept)
  messages r hr := by
    simp only [SqliteStore.withoutTask, Table.mem_update, Table.mem_delete] at hr
    obtain ⟨a, ⟨ha, hkept⟩, rfl⟩ := hr
    exact linked_withoutTask (h.messages a ha) (by simpa using hkept)
  bundles r hr := by
    simp only [SqliteStore.withoutTask, Table.mem_update, Table.mem_delete] at hr
    obtain ⟨a, ⟨ha, hkept⟩, rfl⟩ := hr
    exact linked_withoutTask (h.bundles a ha) (by simpa using hkept)
  completions r hr := by
    simp only [SqliteStore.withoutTask, Table.mem_update, Table.mem_delete] at hr
    obtain ⟨a, ⟨ha, hkept⟩, rfl⟩ := hr
    obtain ⟨hlinked, hmessage⟩ := h.completions a ha
    have hother : a.queueTaskId ≠ queueItemId := by simpa using hkept
    exact ⟨linked_withoutTask hlinked hother, fun id hid =>
      messageOf_withoutTask (hmessage id (mem_of_mem_setNull hid)) hother⟩
  failures r hr := by
    simp only [SqliteStore.withoutTask, Table.mem_update, Table.mem_delete] at hr
    obtain ⟨a, ⟨ha, hkept⟩, rfl⟩ := hr
    obtain ⟨hlinked, hmessage, hbundle⟩ := h.failures a ha
    have hother : a.queueTaskId ≠ queueItemId := by simpa using hkept
    exact ⟨linked_withoutTask hlinked hother, fun id hid =>
      messageOf_withoutTask (hmessage id (mem_of_mem_setNull hid)) hother, fun id hid =>
      bundleOf_withoutTask (hbundle id (mem_of_mem_setNull hid)) hother⟩

end Deletion

/-- Every operation keeps the records with their owners. -/
theorem owned_perform {s : SqliteStore} (op : Op) (h : OwnedIn s s) :
    OwnedIn (perform s op) (perform s op) := by
  by_cases hop : op.Deletes = false
  · exact (ownedIn_perform h hop).of_keeps (keepsOwners_perform s hop)
  · cases op with
    | deleteTask d input =>
      by_cases hchanges : perform s (.deleteTask d input) = s
      · rw [hchanges]
        exact h
      · obtain ⟨n, _, -, -, hafter⟩ := hasTask_of_deleteTask hchanges
        have hleft := ownedIn_withoutTask h n.queueItemId
        rw [hafter]
        exact ⟨hleft.links, hleft.messages, hleft.bundles, hleft.completions, hleft.failures⟩
    | _ => exact absurd rfl hop

theorem owned_after {s : SqliteStore} (hs : Empty s) (history : List Op) :
    OwnedIn (after perform s history) (after perform s history) := by
  have hstep : ∀ u op, OwnedIn u u → OwnedIn (perform u op) (perform u op) :=
    fun _ op h => owned_perform op h
  exact invariant_after_any hstep (ownedIn_of_empty hs) history

/-- **The records of a task are its own**: after every history each run link, review message,
evidence bundle and decision names a task of its workspace, and refers only to links, messages and
bundles of the same task. -/
theorem records_owned_after {s : SqliteStore} (hs : Empty s) (history : List Op) :
    OwnedIn (after perform s history) (after perform s history) :=
  owned_after hs history

theorem records_owned_after_firstTaskGivenUp :
    OwnedIn (after perform (oneWorkspace "w") firstTaskGivenUp)
      (after perform (oneWorkspace "w") firstTaskGivenUp) :=
  records_owned_after (empty_oneWorkspace "w") firstTaskGivenUp

/-! ## Workspaces -/

/-- The operation is about the workspace, when its input is accepted. -/
def Op.Concerns (workspaceId : String) : Op → Prop
  | .createTask _ input => ∃ n, normalizeCreateAgentQueueTaskInput input = .ok n ∧
      n.workspaceId = workspaceId
  | .updateTask _ input => ∃ n, normalizeUpdateAgentQueueTaskInput input = .ok n ∧
      n.workspaceId = workspaceId
  | .assign _ input => ∃ n, normalizeAssignAgentQueueTaskInput input = .ok n ∧
      n.workspaceId = workspaceId
  | .clearAssignment _ input => ∃ n, normalizeAgentQueueTaskRef input = .ok n ∧
      n.workspaceId = workspaceId
  | .deleteTask _ input => ∃ n, normalizeAgentQueueTaskRef input = .ok n ∧
      n.workspaceId = workspaceId
  | .startAssigned _ input _ => ∃ n, normalizeStartAssignedAgentQueueTaskInput input = .ok n ∧
      n.workspaceId = workspaceId
  | .startSelected _ _ input => ∃ n, normalizeStartSelectedAgentQueueTaskLocalInput input = .ok n ∧
      n.workspaceId = workspaceId
  | .finishAssigned _ input => ∃ n, normalizeFinishAssignedAgentQueueTaskRunInput input = .ok n ∧
      n.workspaceId = workspaceId
  | .recoverStale _ input => ∃ n, normalizeRecoverStaleQueueLocalRunInput input = .ok n ∧
      n.workspaceId = workspaceId
  | .recordRunStarted _ input => ∃ n, normalizeRecordRunStartedInput input = .ok n ∧
      n.workspaceId = workspaceId
  | .recordRunFinalStatus _ input => ∃ n, normalizeRecordRunFinalStatusInput input = .ok n ∧
      n.workspaceId = workspaceId
  | .recordWorkerFinished _ input => ∃ n,
      normalizeRecordAgentQueueWorkerFinishedInput input = .ok n ∧ n.workspaceId = workspaceId
  | .createReviewMessage _ input => ∃ n, createReviewMessageRequest input = .ok n ∧
      n.workspaceId = workspaceId
  | .ackReviewMessage _ input => ∃ n, normalizeAckReviewMessageInput input = .ok n ∧
      n.workspaceId = workspaceId
  | .markDone _ input => ∃ n, markDoneRequest input = .ok n ∧ n.workspaceId = workspaceId
  | .fail _ input => ∃ n, failRequest input = .ok n ∧ n.workspaceId = workspaceId
  | .setControlState .. | .otherServices .. => False

/-- Two stores agree on the tasks of a workspace and on their records. -/
structure SameQueueRows (workspaceId : String) (s t : SqliteStore) : Prop where
  tasks : ∀ r, r.workspaceId = workspaceId → (r ∈ t.agentQueueTasks ↔ r ∈ s.agentQueueTasks)
  runLinks : ∀ r, r.workspaceId = workspaceId →
    (r ∈ t.agentQueueTaskRunLinks ↔ r ∈ s.agentQueueTaskRunLinks)
  reviewMessages : ∀ r, r.workspaceId = workspaceId →
    (r ∈ t.agentQueueReviewMessages ↔ r ∈ s.agentQueueReviewMessages)
  evidence : ∀ r, r.workspaceId = workspaceId →
    (r ∈ t.agentQueueWorkerEvidenceBundles ↔ r ∈ s.agentQueueWorkerEvidenceBundles)
  completions : ∀ r, r.workspaceId = workspaceId →
    (r ∈ t.agentQueueCompletionDecisions ↔ r ∈ s.agentQueueCompletionDecisions)
  failures : ∀ r, r.workspaceId = workspaceId →
    (r ∈ t.agentQueueFailureDecisions ↔ r ∈ s.agentQueueFailureDecisions)

theorem SameQueueRows.refl (workspaceId : String) (s : SqliteStore) :
    SameQueueRows workspaceId s s :=
  ⟨fun _ _ => Iff.rfl, fun _ _ => Iff.rfl, fun _ _ => Iff.rfl, fun _ _ => Iff.rfl,
    fun _ _ => Iff.rfl, fun _ _ => Iff.rfl⟩

/-- A rewriting of a task of one workspace keeps the tasks of the others. -/
theorem mem_tasks_of_update {tasks : Table AgentQueueTaskRow}
    {f : AgentQueueTaskRow → AgentQueueTaskRow} {workspaceId other queueItemId : String}
    (hf : ∀ a, Row.keys (f a) = Row.keys a) (hws : ∀ a, (f a).workspaceId = a.workspaceId)
    (hne : other ≠ workspaceId) {r : AgentQueueTaskRow} (hr : r.workspaceId = workspaceId) :
    r ∈ tasks.update (fun a => a.workspaceId == other && a.queueItemId == queueItemId) f hf ↔
      r ∈ tasks := by
  refine mem_update_of_others (P := fun a => a.workspaceId = workspaceId) hf ?_ hr
  intro a ha
  simp only [Bool.and_eq_true, beq_iff_eq] at ha
  rw [hws a, ha.1]
  exact ⟨hne, hne⟩

/-- So does the end of a run with its link. -/
theorem mem_links_of_update {links : Table AgentQueueTaskRunLinkRow}
    {update : AgentQueueTaskRunLinkFinalUpdate} {workspaceId other queueTaskId runId : String}
    (hne : other ≠ workspaceId) {r : AgentQueueTaskRunLinkRow} (hr : r.workspaceId = workspaceId) :
    r ∈ links.update (fun a => a.workspaceId == other && a.queueTaskId == queueTaskId &&
      a.directWorkRunId == runId) update.apply update.keys_apply ↔ r ∈ links := by
  refine mem_update_of_others (P := fun a => a.workspaceId = workspaceId) update.keys_apply ?_ hr
  intro a ha
  simp only [Bool.and_eq_true, beq_iff_eq] at ha
  rw [show (update.apply a).workspaceId = a.workspaceId from rfl, ha.1.1]
  exact ⟨hne, hne⟩

theorem RewritesTask.sameQueueRows {workspaceId other queueItemId : String}
    {f : AgentQueueTaskRow → AgentQueueTaskRow} {s t : SqliteStore}
    (h : RewritesTask other queueItemId f s t) (hws : ∀ a, (f a).workspaceId = a.workspaceId)
    (hne : other ≠ workspaceId) : SameQueueRows workspaceId s t := by
  obtain ⟨hf, _, rfl⟩ := h
  have hsame := SameQueueRows.refl workspaceId s
  exact { hsame with tasks := fun r hr => mem_tasks_of_update hf hws hne hr }

theorem Launched.sameQueueRows {workspaceId updatedAt : String} {link : AgentQueueTaskRunLinkRow}
    {s t : SqliteStore} (h : Launched link updatedAt s t) (hne : link.workspaceId ≠ workspaceId) :
    SameQueueRows workspaceId s t := by
  obtain ⟨links', _, _, _, _, hins, -, -, rfl⟩ := h
  have hsame := SameQueueRows.refl workspaceId s
  refine { hsame with tasks := fun r hr => ?_, runLinks := fun r hr => ?_ }
  · exact mem_tasks_of_update (f := markRunning updatedAt) (fun _ => rfl) (fun _ => rfl) hne hr
  · exact mem_insert_of_others (P := fun a => a.workspaceId = workspaceId) hins hne hr

theorem Reported.sameQueueRows {workspaceId taskStatus updatedAt : String}
    {update : AgentQueueTaskRunLinkFinalUpdate} {bundle : AgentQueueWorkerEvidenceBundleRow}
    {s t : SqliteStore} (h : Reported taskStatus updatedAt update bundle s t)
    (hne : bundle.workspaceId ≠ workspaceId) : SameQueueRows workspaceId s t := by
  obtain ⟨-, bundles', _, _, hups, rfl⟩ := h
  have hsame := SameQueueRows.refl workspaceId s
  refine { hsame with
    tasks := fun r hr => ?_, runLinks := fun r hr => ?_, evidence := fun r hr => ?_ }
  · exact mem_tasks_of_update (keys_setStatus _ _) (fun _ => rfl) hne hr
  · exact mem_links_of_update hne hr
  · rcases hups with hins | ⟨-, rfl⟩
    · exact mem_insert_of_others (P := fun a => a.workspaceId = workspaceId) hins hne hr
    · refine mem_update_of_others (P := fun a => a.workspaceId = workspaceId)
        bundle.keys_supersede ?_ hr
      intro a ha
      simp only [sameRun, Bool.and_eq_true, beq_iff_eq] at ha
      rw [show (bundle.supersede a).workspaceId = a.workspaceId from rfl, ha.1.1]
      exact ⟨hne, hne⟩

/-! ### A deletion in another workspace -/

section DeletionElsewhere

variable {s : SqliteStore} {workspaceId other queueTaskId queueItemId : String}

/-- Tasks of two workspaces have different ids. -/
theorem ne_of_hasTask (h : HasTask s workspaceId queueTaskId) (h' : HasTask s other queueItemId)
    (hne : other ≠ workspaceId) : queueTaskId ≠ queueItemId := by
  rintro rfl
  obtain ⟨a, ha, rfl, hida⟩ := h
  obtain ⟨b, hb, rfl, hidb⟩ := h'
  refine hne (congrArg (·.workspaceId) (Table.eq_of_clash hb ha ?_))
  exact ⟨("queue_item_id", [queueTaskId]), by simp [Row.keys, hidb], by simp [Row.keys, hida]⟩

theorem setNull_eq_self {removed : String → Bool} {column : Option String}
    (h : ∀ id ∈ column, removed id = false) : SqliteStore.setNull removed column = column := by
  cases column with
  | none => rfl
  | some id => simp [SqliteStore.setNull, h id rfl]

theorem not_link_of (hother : queueTaskId ≠ queueItemId) {id : String}
    (h : LinkOf s workspaceId queueTaskId id) :
    (s.agentQueueTaskRunLinks.find
      fun r => r.linkId == id && r.queueTaskId == queueItemId).isSome = false := by
  obtain ⟨link, hlink, hid, -, rfl⟩ := h
  refine find_elsewhere (fun a b hab => ?_) ⟨link, hlink, hid, hother⟩
  exact ⟨("link_id", [a.linkId]), by simp [Row.keys], by simp [Row.keys, hab]⟩

theorem not_message_of (hother : queueTaskId ≠ queueItemId) {id : String}
    (h : MessageOf s workspaceId queueTaskId id) :
    (s.agentQueueReviewMessages.find
      fun r => r.messageId == id && r.queueTaskId == queueItemId).isSome = false := by
  obtain ⟨message, hmessage, hid, -, rfl⟩ := h
  refine find_elsewhere (fun a b hab => ?_) ⟨message, hmessage, hid, hother⟩
  exact ⟨("message_id", [a.messageId]), by simp [Row.keys], by simp [Row.keys, hab]⟩

theorem not_bundle_of (hother : queueTaskId ≠ queueItemId) {id : String}
    (h : BundleOf s workspaceId queueTaskId id) :
    (s.agentQueueWorkerEvidenceBundles.find
      fun r => r.bundleId == id && r.queueTaskId == queueItemId).isSome = false := by
  obtain ⟨bundle, hbundle, hid, -, rfl⟩ := h
  refine find_elsewhere (fun a b hab => ?_) ⟨bundle, hbundle, hid, hother⟩
  exact ⟨("bundle_id", [a.bundleId]), by simp [Row.keys], by simp [Row.keys, hab]⟩

theorem sameQueueRows_withoutTask (h : OwnedIn s s) (hdeleted : HasTask s other queueItemId)
    (hne : other ≠ workspaceId) : SameQueueRows workspaceId s (s.withoutTask queueItemId) := by
  have hother : ∀ {task}, HasTask s workspaceId task → task ≠ queueItemId :=
    fun htask => ne_of_hasTask htask hdeleted hne
  refine ⟨?_, ?_, ?_, ?_, ?_, ?_⟩
  · rintro r rfl
    refine Iff.trans Table.mem_delete ⟨And.left, fun hr => ⟨hr, ?_⟩⟩
    simpa using hother ⟨r, hr, rfl, rfl⟩
  · rintro r rfl
    refine Iff.trans Table.mem_delete ⟨And.left, fun hr => ⟨hr, ?_⟩⟩
    simpa using hother (h.links r hr)
  · intro r hr
    refine mem_delete_update_of_others
      (P := fun a : AgentQueueReviewMessageRow => a.workspaceId = workspaceId) ?_
      (fun _ _ ha => ha) ?_ hr
    · exact fun _ => rfl
    · rintro a ha rfl
      obtain ⟨htask, hlink⟩ := h.messages a ha
      have hnot := hother htask
      refine ⟨by simpa using hnot, ?_⟩
      simp only [setNull_eq_self fun id hid => not_link_of hnot (hlink id hid)]
  · intro r hr
    refine mem_delete_update_of_others
      (P := fun a : AgentQueueWorkerEvidenceBundleRow => a.workspaceId = workspaceId) ?_
      (fun _ _ ha => ha) ?_ hr
    · exact fun _ => rfl
    · rintro a ha rfl
      obtain ⟨htask, hlink⟩ := h.bundles a ha
      have hnot := hother htask
      refine ⟨by simpa using hnot, ?_⟩
      simp only [setNull_eq_self fun id hid => not_link_of hnot (hlink id hid)]
  · intro r hr
    refine mem_delete_update_of_others
      (P := fun a : AgentQueueCompletionDecisionRow => a.workspaceId = workspaceId) ?_
      (fun _ _ ha => ha) ?_ hr
    · exact fun _ => rfl
    · rintro a ha rfl
      obtain ⟨⟨htask, hlink⟩, hmessage⟩ := h.completions a ha
      have hnot := hother htask
      refine ⟨by simpa using hnot, ?_⟩
      simp only [setNull_eq_self fun id hid => not_link_of hnot (hlink id hid),
        setNull_eq_self fun id hid => not_message_of hnot (hmessage id hid)]
  · intro r hr
    refine mem_delete_update_of_others
      (P := fun a : AgentQueueFailureDecisionRow => a.workspaceId = workspaceId) ?_
      (fun _ _ ha => ha) ?_ hr
    · exact fun _ => rfl
    · rintro a ha rfl
      obtain ⟨⟨htask, hlink⟩, hmessage, hbundle⟩ := h.failures a ha
      have hnot := hother htask
      refine ⟨by simpa using hnot, ?_⟩
      simp only [setNull_eq_self fun id hid => not_link_of hnot (hlink id hid),
        setNull_eq_self fun id hid => not_message_of hnot (hmessage id hid),
        setNull_eq_self fun id hid => not_bundle_of hnot (hbundle id hid)]

end DeletionElsewhere

/-! ### All operations -/

theorem assign_sameQueueRows {d : Draws} {input : AssignAgentQueueTaskToExecutorInput}
    {s : SqliteStore} {workspaceId : String}
    (hother : ¬ (Op.assign d input).Concerns workspaceId) :
    SameQueueRows workspaceId s (perform s (.assign d input)) := by
  have hexec : exec (assignAgentQueueTaskToExecutor d input) s =
      (_, perform s (.assign d input)) := Prod.mk.eta.symm
  generalize perform s (.assign d input) = t at hexec
  rcases exec_command hexec with ⟨-, rfl⟩ | ⟨n, row, hn, hrun, -⟩
  · exact SameQueueRows.refl workspaceId _
  rw [exec_bind_ok] at hrun
  obtain ⟨task, u, hload, hrun⟩ := hrun
  obtain ⟨rfl, -⟩ := loadAssignableAgentQueueTask_ok hload
  rw [exec_bind_ok] at hrun
  obtain ⟨executor, v, hwidget, hrun⟩ := hrun
  obtain rfl := loadAgentExecutorWidget_ok hwidget
  simp only [exec_bind_ok, exec_execute_ok, SqliteStore.assignAgentQueueTaskToExecutor,
    SqliteStore.updateTaskRow, SqliteStore.touchWorkspace, exec_pure, Except.ok.injEq,
    Prod.mk.injEq] at hrun
  obtain ⟨row', w, hassign, row'', w', hrow, _, _, ⟨-, rfl⟩, -, hafter⟩ := hrun
  obtain ⟨-, rfl⟩ := rowOrNotFound_ok hrow
  split at hassign
  · obtain ⟨-, rfl⟩ := Prod.mk.inj (Except.ok.inj hassign)
    have hrewrites : RewritesTask n.workspaceId task.queueItemId (fun r => { r with
        assignedExecutorWidgetId := some executor.id, updatedAt := d.timestamp 0 }) v t :=
      ⟨fun _ => rfl, _, hafter.symm⟩
    exact hrewrites.sameQueueRows (fun _ => rfl) fun hws => hother ⟨n, hn, hws⟩
  · cases hassign

theorem clearAssignment_sameQueueRows {d : Draws} {input : AgentQueueTaskRef} {s : SqliteStore}
    {workspaceId : String} (hother : ¬ (Op.clearAssignment d input).Concerns workspaceId) :
    SameQueueRows workspaceId s (perform s (.clearAssignment d input)) := by
  have hexec : exec (clearAgentQueueTaskAssignment d input) s =
      (_, perform s (.clearAssignment d input)) := Prod.mk.eta.symm
  generalize perform s (.clearAssignment d input) = t at hexec
  rcases exec_command hexec with ⟨-, rfl⟩ | ⟨n, row, hn, hrun, -⟩
  · exact SameQueueRows.refl workspaceId _
  rw [exec_bind_ok] at hrun
  obtain ⟨task, u, hload, hrun⟩ := hrun
  obtain ⟨rfl, -⟩ := loadClearableAgentQueueTask_ok hload
  simp only [exec_bind_ok, exec_execute_ok, SqliteStore.clearAgentQueueTaskAssignment,
    SqliteStore.updateTaskRow, SqliteStore.touchWorkspace, exec_pure, Except.ok.injEq,
    Prod.mk.injEq] at hrun
  obtain ⟨row', w, ⟨-, rfl⟩, row'', w', hrow, _, _, ⟨-, rfl⟩, -, hafter⟩ := hrun
  obtain ⟨-, rfl⟩ := rowOrNotFound_ok hrow
  have hrewrites : RewritesTask n.workspaceId task.queueItemId (fun r => { r with
      assignedExecutorWidgetId := none, updatedAt := d.timestamp 0 }) u t :=
    ⟨fun _ => rfl, _, hafter.symm⟩
  exact hrewrites.sameQueueRows (fun _ => rfl) fun hws => hother ⟨n, hn, hws⟩

theorem normalizeFinish_of_checkedFinish {input n : FinishAssignedAgentQueueTaskRunInput}
    {queueStatus : AgentQueueTaskLifecycleStatus} (h : checkedFinish input = .ok (n, queueStatus)) :
    normalizeFinishAssignedAgentQueueTaskRunInput input = .ok n := by
  rw [checkedFinish, except_bind_ok] at h
  obtain ⟨n', hn, h⟩ := h
  rw [except_bind_ok] at h
  obtain ⟨_, -, h⟩ := h
  obtain ⟨rfl, -⟩ := Prod.mk.inj (Except.ok.inj h)
  exact hn

/-- **An operation changes no row of another workspace.** -/
theorem sameQueueRows_perform {s : SqliteStore} (h : OwnedIn s s) {op : Op} {workspaceId : String}
    (hother : ¬ op.Concerns workspaceId) : SameQueueRows workspaceId s (perform s op) := by
  have hsame := SameQueueRows.refl workspaceId s
  have heffect := perform_effect s op
  generalize hafter : perform s op = t at heffect
  cases heffect with
  | idle => exact hsame
  | bookkeeping h =>
    obtain ⟨_, _, _, rfl⟩ := h
    exact { hsame with }
  | others => exact { hsame with }
  | @created _ _ n _ _ hn _ hins =>
    refine { hsame with tasks := fun r hr => ?_ }
    refine mem_insert_of_others (P := fun a => a.workspaceId = workspaceId) hins ?_ hr
    exact fun hws => hother ⟨n, hn, hws⟩
  | @updated _ _ _ n hn _ h =>
    exact h.sameQueueRows (fun _ => rfl) fun hws => hother ⟨n, hn, hws⟩
  | reassigned hop _ =>
    rw [← hafter]
    cases op with
    | assign d input => exact assign_sameQueueRows hother
    | clearAssignment d input => exact clearAssignment_sameQueueRows hother
    | _ => cases hop
  | @deleted d input n _ hn =>
    by_cases hchanges : perform s (.deleteTask d input) = s
    · rw [← hafter, hchanges]
      exact hsame
    · obtain ⟨n', _, hn', htask, hleft⟩ := hasTask_of_deleteTask hchanges
      rw [← hafter, hleft]
      exact { sameQueueRows_withoutTask h htask fun hws => hother ⟨n', hn', hws⟩ with }
  | @launched _ _ _ n _ _ _ hn h => exact h.sameQueueRows fun hws => hother ⟨n, hn, hws⟩
  | @launchedSelected _ _ _ n _ hn h => exact h.sameQueueRows fun hws => hother ⟨n, hn, hws⟩
  | @finished d _ n status _ hn h =>
    obtain ⟨-, finishedAt, _, rfl⟩ := h
    have hinput := normalizeFinish_of_checkedFinish hn
    have hne : n.workspaceId ≠ workspaceId := fun hws => hother ⟨n, hinput, hws⟩
    refine { hsame with tasks := fun r hr => ?_, runLinks := fun r hr => ?_ }
    · exact mem_tasks_of_update (keys_setStatus _ _) (fun _ => rfl) hne hr
    · exact mem_links_of_update hne hr
  | @recovered _ _ n _ hn _ _ h => exact h.sameQueueRows fun hws => hother ⟨n, hn, hws⟩
  | @linked _ _ n _ _ hn hins =>
    refine { hsame with runLinks := fun r hr => ?_ }
    refine mem_insert_of_others (P := fun a => a.workspaceId = workspaceId) hins ?_ hr
    exact fun hws => hother ⟨n, hn, hws⟩
  | @linkEnded _ _ n _ _ hn h =>
    obtain ⟨_, rfl⟩ := h
    refine { hsame with runLinks := fun r hr => ?_ }
    exact mem_links_of_update (fun hws => hother ⟨n, hn, hws⟩) hr
  | @reported _ _ n _ _ _ hn h => exact h.sameQueueRows fun hws => hother ⟨n, hn, hws⟩
  | @messageCreated _ _ request _ _ hrequest _ _ hins =>
    refine { hsame with reviewMessages := fun r hr => ?_ }
    refine mem_insert_of_others (P := fun a => a.workspaceId = workspaceId) hins ?_ hr
    exact fun hws => hother ⟨request, hrequest, hws⟩
  | @messageAcked d _ n hn =>
    refine { hsame with reviewMessages := fun r hr => ?_ }
    refine mem_update_of_others (P := fun a => a.workspaceId = workspaceId)
      (keys_acknowledge n.actorId (d.timestamp 0)) ?_ hr
    intro a ha
    simp only [Bool.and_eq_true, beq_iff_eq] at ha
    have hne : a.workspaceId ≠ workspaceId := fun hws => hother ⟨n, hn, ha.1.1 ▸ hws⟩
    exact ⟨hne, hne⟩
  | @accepted _ _ request _ hrequest h =>
    obtain ⟨_, _, _, _, _, _, _, _, hins, rfl⟩ := h
    refine { hsame with completions := fun r hr => ?_ }
    refine mem_insert_of_others (P := fun a => a.workspaceId = workspaceId) hins ?_ hr
    exact fun hws => hother ⟨request, hrequest, hws⟩
  | @gaveUp _ _ request _ _ _ hrequest h =>
    obtain ⟨_, _, hins, rfl⟩ := h
    have hne : request.workspaceId ≠ workspaceId := fun hws => hother ⟨request, hrequest, hws⟩
    refine { hsame with tasks := fun r hr => ?_, failures := fun r hr => ?_ }
    · exact mem_tasks_of_update (keys_setStatus _ _) (fun _ => rfl) hne hr
    · exact mem_insert_of_others (P := fun a => a.workspaceId = workspaceId) hins hne hr

/-- **Operations stay in their workspace**: after every history, an operation leaves the tasks of
every workspace it is not about as they are, with their links, messages, evidence and decisions. -/
theorem operations_stay_in_workspace {s : SqliteStore} (hs : Empty s) (history : List Op) {op : Op}
    {workspaceId : String} (hother : ¬ op.Concerns workspaceId) :
    SameQueueRows workspaceId (after perform s history) (after perform s (history ++ [op])) := by
  rw [after_concat]
  exact sameQueueRows_perform (owned_after hs history) hother

/-- Two workspaces without tasks. -/
def twoWorkspaces : SqliteStore :=
  { oneWorkspace "w" with workspaces := ⟨[⟨"w", none, "0"⟩, ⟨"v", none, "0"⟩], by decide⟩ }

theorem empty_twoWorkspaces : Empty twoWorkspaces := { empty_oneWorkspace "w" with }

/-- A task is given up in one workspace, and one is created in the other. -/
def givenUpAndCreated : List Op :=
  firstTaskGivenUp ++ [.createTask (drawsAt 7) (taskInput "v" "queued" [])]

/-- The task of the other workspace. -/
def otherTask : AgentQueueTaskRef := ⟨"v", "queue_task_7000000000_0"⟩

/-- Its deletion, seen from the workspace with a run, a review and a decision. -/
theorem operations_stay_in_workspace_deletion :
    let s := after perform twoWorkspaces givenUpAndCreated
    let t := after perform twoWorkspaces (givenUpAndCreated ++ [.deleteTask (drawsAt 8) otherTask])
    (s.agentQueueTasks.rows.map (·.workspaceId), t.agentQueueTasks.rows.map (·.workspaceId)) =
        (["w", "v"], ["w"]) ∧
      (∃ r ∈ s.agentQueueFailureDecisions, r.workspaceId = "w") ∧ SameQueueRows "w" s t := by
  refine ⟨by decide +kernel, by decide +kernel,
    operations_stay_in_workspace empty_twoWorkspaces givenUpAndCreated ?_⟩
  rintro ⟨n, hn, hws⟩
  have hinput : (normalizeAgentQueueTaskRef otherTask).toOption.map (·.workspaceId) =
      some "v" := by
    decide +kernel
  rw [hn] at hinput
  have hv : n.workspaceId = "v" := Option.some.inj hinput
  exact absurd (hws.symm.trans hv) (by decide)

end HobitQueue
