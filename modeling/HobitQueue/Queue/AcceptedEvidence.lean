import HobitQueue.Queue.Records

/-!
# Accepted evidence over a history

A completion decision names the run whose evidence it accepts. The evidence of a run is
stored under the task and the run, and a later report of the same run takes its place
without a look at the decisions. So the accepted bundle stays as it is as long as no
report names the run of a completion decision.
-/

namespace HobitQueue

open Concurrent StoreProg Relational Machine

/-- The decision accepts the bundle: completed evidence of the run it names. -/
structure Accepts (a : AgentQueueCompletionDecisionRow) (b : AgentQueueWorkerEvidenceBundleRow) :
    Prop where
  workspaceId : b.workspaceId = a.workspaceId
  queueTaskId : b.queueTaskId = a.queueTaskId
  runId : a.runId = some b.runId
  outcome : b.outcome = "completed"

theorem Accepts.of_same {a a' : AgentQueueCompletionDecisionRow}
    {b : AgentQueueWorkerEvidenceBundleRow} (h : Accepts a b) (hsame : SameDecision a a') :
    Accepts a' b :=
  ⟨h.workspaceId.trans hsame.workspaceId.symm, h.queueTaskId.trans hsame.queueTaskId.symm,
    hsame.runId.trans h.runId, h.outcome⟩

/-- Every decision has its bundle, and bundles refer to links of their own task. -/
structure AcceptedEvidence (s : SqliteStore) : Prop where
  linked : ∀ b ∈ s.agentQueueWorkerEvidenceBundles, ∀ id ∈ b.runLinkId,
    ∃ link ∈ s.agentQueueTaskRunLinks, link.linkId = id ∧ link.queueTaskId = b.queueTaskId
  accepted : ∀ a ∈ s.agentQueueCompletionDecisions,
    ∃ b ∈ s.agentQueueWorkerEvidenceBundles, Accepts a b

/-- The condition on a step: the report of a worker names no run of a completion
decision. -/
def SparesAccepted (s : SqliteStore) : Op → Prop
  | .recordWorkerFinished _ input => ∀ n,
      normalizeRecordAgentQueueWorkerFinishedInput input = .ok n →
      ∀ a ∈ s.agentQueueCompletionDecisions, a.workspaceId = n.workspaceId →
        a.queueTaskId = n.queueItemId → a.runId ≠ some n.runId
  | _ => True

instance (s : SqliteStore) (op : Op) : Decidable (SparesAccepted s op) := by
  rcases op <;> dsimp only [SparesAccepted] <;> infer_instance

theorem getAgentQueueWorkerEvidenceBundle_eq_some {s : SqliteStore}
    {workspaceId queueTaskId runId : String} {b : AgentQueueWorkerEvidenceBundleRow} :
    s.getAgentQueueWorkerEvidenceBundle workspaceId queueTaskId runId = some b ↔
      b ∈ s.agentQueueWorkerEvidenceBundles ∧ b.workspaceId = workspaceId ∧
        b.queueTaskId = queueTaskId ∧ b.runId = runId := by
  rw [SqliteStore.getAgentQueueWorkerEvidenceBundle, Table.find_eq_some]
  · simp [and_assoc]
  · intro x y hx hy
    simp only [Bool.and_eq_true, beq_iff_eq] at hx hy
    exact ⟨("workspace_id, queue_task_id, run_id", [workspaceId, queueTaskId, runId]),
      by simp [Row.keys, hx], by simp [Row.keys, hy]⟩

/-- Under the condition, what an operation stores is no evidence of an accepted run. -/
theorem StoresBundle.not_accepted {s : SqliteStore} {op : Op}
    {bundle b : AgentQueueWorkerEvidenceBundleRow} {a : AgentQueueCompletionDecisionRow}
    (h : StoresBundle s op bundle) (hcond : SparesAccepted s op)
    (ha : a ∈ s.agentQueueCompletionDecisions) (hb : b ∈ s.agentQueueWorkerEvidenceBundles)
    (haccepts : Accepts a b) : sameRun bundle b = false := by
  by_contra hsame
  simp only [sameRun, Bool.not_eq_false, Bool.and_eq_true, beq_iff_eq] at hsame
  obtain ⟨⟨hws, htask⟩, hrun⟩ := hsame
  cases h with
  | @reported _ _ n _ _ hn =>
    refine hcond n hn a ha (haccepts.workspaceId.symm.trans hws)
      (haccepts.queueTaskId.symm.trans htask) ?_
    rw [haccepts.runId, hrun]
    rfl
  | @recovered _ _ n hn hnone =>
    -- a recovery refuses a run that has evidence
    have hsome := getAgentQueueWorkerEvidenceBundle_eq_some.2 ⟨hb, hws, htask, hrun⟩
    exact absurd (hnone.symm.trans hsome) (by simp)

/-- **The bundle of a decision stays as it is** in a step under the condition. -/
theorem accepted_bundle_perform {s : SqliteStore} {op : Op}
    {a : AgentQueueCompletionDecisionRow} {b : AgentQueueWorkerEvidenceBundleRow}
    (hinv : AcceptedEvidence s) (hcond : SparesAccepted s op)
    (hop : op.KeepsTask a.queueTaskId) (ha : a ∈ s.agentQueueCompletionDecisions)
    (hb : b ∈ s.agentQueueWorkerEvidenceBundles) (haccepts : Accepts a b) :
    b ∈ (perform s op).agentQueueWorkerEvidenceBundles := by
  have heffect := recordEffect_perform s op
  generalize perform s op = t at heffect
  cases heffect with
  | kept h => exact h.evidence ▸ hb
  | linkStarted _ _ h => exact h.evidence ▸ hb
  | linkEnded h => exact h.evidence ▸ hb
  | bundleStored hstores _ hups h =>
    exact h.evidence ▸ hups.mem_of_mem hb (hstores.not_accepted hcond ha hb haccepts)
  | messageCreated => exact hb
  | messageAcked => exact hb
  | accepted _ h =>
    obtain ⟨_, _, _, _, _, _, _, _, _, rfl⟩ := h
    exact hb
  | gaveUp _ h =>
    obtain ⟨_, _, _, rfl⟩ := h
    exact hb
  | @deleted _ _ n _ hn =>
    have hother : b.queueTaskId ≠ n.queueItemId := haccepts.queueTaskId ▸ (hop n hn).symm
    refine SqliteStore.evidence_withoutTask hb hother ?_
    intro id hid link hlink hlinkId
    obtain ⟨own, hown, hownId, hownTask⟩ := hinv.linked b hb id hid
    have hsame : own = link := Table.eq_of_clash hown hlink
      ⟨("link_id", [id]), by simp [Row.keys, hownId], by simp [Row.keys, hlinkId]⟩
    rw [← hsame, hownTask]
    exact hother

/-- Links that are kept or only ended still carry the bundles that refer to them. -/
theorem linked_of_links {s t : SqliteStore} {b : AgentQueueWorkerEvidenceBundleRow} {id : String}
    (hlinks : ∀ link ∈ s.agentQueueTaskRunLinks, ∃ link' ∈ t.agentQueueTaskRunLinks,
      link'.linkId = link.linkId ∧ link'.queueTaskId = link.queueTaskId)
    (h : ∃ link ∈ s.agentQueueTaskRunLinks, link.linkId = id ∧
      link.queueTaskId = b.queueTaskId) :
    ∃ link ∈ t.agentQueueTaskRunLinks, link.linkId = id ∧ link.queueTaskId = b.queueTaskId := by
  obtain ⟨link, hlink, hid, htask⟩ := h
  obtain ⟨link', hlink', hid', htask'⟩ := hlinks link hlink
  exact ⟨link', hlink', hid'.trans hid, htask'.trans htask⟩

/-- The end of a run keeps the ids of the links and their tasks. -/
theorem links_of_update {links : Table AgentQueueTaskRunLinkRow}
    {p : AgentQueueTaskRunLinkRow → Bool} {update : AgentQueueTaskRunLinkFinalUpdate}
    {link : AgentQueueTaskRunLinkRow} (hlink : link ∈ links) :
    ∃ link' ∈ links.update p update.apply fun _ => rfl,
      link'.linkId = link.linkId ∧ link'.queueTaskId = link.queueTaskId := by
  refine ⟨_, Table.mem_update.2 ⟨link, hlink, rfl⟩, ?_, ?_⟩
  · split <;> rfl
  · split <;> rfl

theorem linked_perform {s : SqliteStore} {op : Op} (hinv : AcceptedEvidence s) :
    ∀ b ∈ (perform s op).agentQueueWorkerEvidenceBundles, ∀ id ∈ b.runLinkId,
      ∃ link ∈ (perform s op).agentQueueTaskRunLinks, link.linkId = id ∧
        link.queueTaskId = b.queueTaskId := by
  have heffect := recordEffect_perform s op
  generalize perform s op = t at heffect
  intro b hb id hid
  cases heffect with
  | kept h =>
    rw [h.evidence] at hb
    rw [h.runLinks]
    exact hinv.linked b hb id hid
  | linkStarted _ hins h =>
    rw [h.evidence] at hb
    rw [h.runLinks]
    obtain ⟨link, hlink, hlinkId⟩ := hinv.linked b hb id hid
    exact ⟨link, (Table.mem_insert hins link).2 (Or.inl hlink), hlinkId⟩
  | linkEnded h =>
    rw [h.evidence] at hb
    refine linked_of_links (fun link hlink => ?_) (hinv.linked b hb id hid)
    rw [h.runLinks]
    exact links_of_update hlink
  | bundleStored hstores hlink hups h =>
    rw [h.evidence] at hb
    refine linked_of_links (s := s) (fun link hlink => ?_) ?_
    · rw [h.runLinks]
      exact links_of_update hlink
    rcases hups.mem_cases hb with ⟨hold, -⟩ | ⟨old, hsame, rfl⟩
    · exact hinv.linked b hold id hid
    · obtain ⟨link, hmem, -, htask, -, hlinkId⟩ := hlink
      simp only [sameRun, Bool.and_eq_true, beq_iff_eq] at hsame
      refine ⟨link, hmem, Option.some.inj (hlinkId.symm.trans hid), ?_⟩
      exact htask.trans hsame.1.2.symm
  | messageCreated => exact hinv.linked b hb id hid
  | messageAcked => exact hinv.linked b hb id hid
  | accepted _ h =>
    obtain ⟨_, _, _, _, _, _, _, _, _, rfl⟩ := h
    exact hinv.linked b hb id hid
  | gaveUp _ h =>
    obtain ⟨_, _, _, rfl⟩ := h
    exact hinv.linked b hb id hid
  | deleted hn =>
    obtain ⟨old, hold, hother, link, rfl, hlinkOld⟩ := SqliteStore.evidence_of_withoutTask hb
    obtain ⟨own, hown, hownId, hownTask⟩ := hinv.linked old hold id (hlinkOld id hid)
    refine ⟨own, ?_, hownId, hownTask⟩
    exact Table.mem_delete.2 ⟨hown, by simpa [hownTask] using hother⟩

/-- What a new decision accepts is the latest evidence of its task. -/
theorem AcceptsTask.accepts {d : Draws} {request : MarkDoneRequest} {s t : SqliteStore}
    (h : AcceptsTask d request s t) {a : AgentQueueCompletionDecisionRow}
    (ha : a ∈ t.agentQueueCompletionDecisions) :
    a ∈ s.agentQueueCompletionDecisions ∨ ∃ b ∈ s.agentQueueWorkerEvidenceBundles, Accepts a b := by
  obtain ⟨row, evidence, message, _, _, hrow, hvalid, -, hins, rfl⟩ := h
  rcases (Table.mem_insert hins a).1 ha with hold | rfl
  · exact Or.inl hold
  obtain ⟨hevidence, houtcome, -⟩ := validateMarkDonePrecondition_ok hvalid
  obtain ⟨hmem, hkey, -⟩ := Table.latest_eq_some.1 hevidence
  simp only [Bool.and_eq_true, beq_iff_eq] at hkey
  exact Or.inr ⟨evidence, hmem, hkey.1, hkey.2, rfl, houtcome⟩

theorem acceptedEvidence_perform {s : SqliteStore} {op : Op} (hinv : AcceptedEvidence s)
    (hcond : SparesAccepted s op) : AcceptedEvidence (perform s op) := by
  refine ⟨linked_perform hinv, ?_⟩
  have hstays := @accepted_bundle_perform s op
  have heffect := recordEffect_perform s op
  generalize perform s op = t at heffect hstays
  -- every decision but a new one was there, and its task is not the deleted one
  have hold : ∀ a ∈ s.agentQueueCompletionDecisions, op.KeepsTask a.queueTaskId →
      ∃ b ∈ t.agentQueueWorkerEvidenceBundles, Accepts a b := by
    intro a ha hop
    obtain ⟨b, hb, haccepts⟩ := hinv.accepted a ha
    exact ⟨b, hstays hinv hcond hop ha hb haccepts, haccepts⟩
  intro a ha
  cases heffect with
  | kept h =>
    obtain ⟨b, hb, haccepts⟩ := hinv.accepted a (h.completions ▸ ha)
    exact ⟨b, h.evidence ▸ hb, haccepts⟩
  | linkStarted _ _ h =>
    obtain ⟨b, hb, haccepts⟩ := hinv.accepted a (h.completions ▸ ha)
    exact ⟨b, h.evidence ▸ hb, haccepts⟩
  | linkEnded h =>
    obtain ⟨b, hb, haccepts⟩ := hinv.accepted a (h.completions ▸ ha)
    exact ⟨b, h.evidence ▸ hb, haccepts⟩
  | bundleStored hstores _ _ h =>
    have hop : op.KeepsTask a.queueTaskId := by cases hstores <;> trivial
    exact hold a (h.completions ▸ ha) hop
  | messageCreated => exact hold a ha trivial
  | messageAcked => exact hinv.accepted a ha
  | accepted _ h =>
    rcases h.accepts ha with hthere | ⟨b, hb, haccepts⟩
    · exact hold a hthere trivial
    · obtain ⟨_, _, _, _, _, _, _, _, _, rfl⟩ := h
      exact ⟨b, hb, haccepts⟩
  | gaveUp _ h =>
    obtain ⟨_, _, _, rfl⟩ := h
    exact hold a ha trivial
  | @deleted d input _ _ hn =>
    obtain ⟨old, hmem, hother, link, message, rfl⟩ := SqliteStore.completion_of_withoutTask ha
    have hkeeps : Op.KeepsTask old.queueTaskId (.deleteTask d input) := by
      intro n' hn'
      rw [hn] at hn'
      exact Except.ok.inj hn' ▸ hother.symm
    obtain ⟨b, hb, haccepts⟩ := hold old hmem hkeeps
    exact ⟨b, hb, haccepts.of_same ⟨rfl, rfl, rfl, rfl⟩⟩

/-- The induction over the history after a decision. -/
theorem accepted_bundle_after {s : SqliteStore} {later : List Op}
    {a : AgentQueueCompletionDecisionRow} {b : AgentQueueWorkerEvidenceBundleRow}
    (hinv : AcceptedEvidence s) (hcond : Along perform SparesAccepted s later)
    (hkeeps : ∀ op ∈ later, op.KeepsTask a.queueTaskId)
    (ha : a ∈ s.agentQueueCompletionDecisions) (hb : b ∈ s.agentQueueWorkerEvidenceBundles)
    (haccepts : Accepts a b) : b ∈ (after perform s later).agentQueueWorkerEvidenceBundles := by
  induction later generalizing s a with
  | nil => exact hb
  | cons op later ih =>
    have hop := hkeeps op List.mem_cons_self
    obtain ⟨a', ha', hsame⟩ := completion_perform ha hop
    refine ih (acceptedEvidence_perform hinv hcond.1) hcond.2 ?_ ha'
      (accepted_bundle_perform hinv hcond.1 hop ha hb haccepts) (haccepts.of_same hsame)
    intro next hnext
    exact hsame.queueTaskId ▸ hkeeps next (List.mem_cons_of_mem _ hnext)

/-- **Accepted evidence is final**: the run of a completion decision has a completed bundle,
and the same bundle in every later state, as long as the task is not deleted and no report
names the run of a completion decision. -/
theorem accepted_evidence_final {s : SqliteStore} (hs : Empty s) {before later : List Op}
    (hcond : Along perform SparesAccepted s (before ++ later))
    {a : AgentQueueCompletionDecisionRow}
    (ha : a ∈ (after perform s before).agentQueueCompletionDecisions)
    (hkeeps : ∀ op ∈ later, op.KeepsTask a.queueTaskId) :
    ∃ runId b, a.runId = some runId ∧ b.outcome = "completed" ∧
      (after perform s before).getAgentQueueWorkerEvidenceBundle a.workspaceId a.queueTaskId
        runId = some b ∧
      (after perform s (before ++ later)).getAgentQueueWorkerEvidenceBundle a.workspaceId
        a.queueTaskId runId = some b := by
  have hempty : AcceptedEvidence s :=
    ⟨fun b hb => absurd hb (hs.evidence b), fun a ha => absurd ha (hs.completions a)⟩
  obtain ⟨hbefore, hlater⟩ := along_append.1 hcond
  have hinv := invariant_after (fun _ _ hinv hstep => acceptedEvidence_perform hinv hstep)
    hempty hbefore
  obtain ⟨b, hb, haccepts⟩ := hinv.accepted a ha
  have hkey : b.workspaceId = a.workspaceId ∧ b.queueTaskId = a.queueTaskId ∧ b.runId = b.runId :=
    ⟨haccepts.workspaceId, haccepts.queueTaskId, rfl⟩
  refine ⟨b.runId, b, haccepts.runId, haccepts.outcome,
    getAgentQueueWorkerEvidenceBundle_eq_some.2 ⟨hb, hkey⟩, ?_⟩
  rw [after_append, getAgentQueueWorkerEvidenceBundle_eq_some]
  exact ⟨accepted_bundle_after hinv hlater hkeeps ha hb haccepts, hkey⟩

/-- An accepted task that an operator wants to start again. -/
theorem accepted_evidence_final_firstTaskAccepted :
    ∃ a ∈ (after perform (oneWorkspace "w") firstTaskAccepted).agentQueueCompletionDecisions,
      ∃ runId b, a.runId = some runId ∧ b.outcome = "completed" ∧
        (after perform (oneWorkspace "w") firstTaskAccepted).getAgentQueueWorkerEvidenceBundle
          a.workspaceId a.queueTaskId runId = some b ∧
        (after perform (oneWorkspace "w")
            (firstTaskAccepted ++ [startFirstTask 7])).getAgentQueueWorkerEvidenceBundle
          a.workspaceId a.queueTaskId runId = some b := by
  have hdecision : ∃ a ∈ (after perform (oneWorkspace "w")
      firstTaskAccepted).agentQueueCompletionDecisions, a.queueTaskId = firstTask := by
    decide +kernel
  obtain ⟨a, ha, htask⟩ := hdecision
  have hkeeps : ∀ op ∈ [startFirstTask 7], op.KeepsTask a.queueTaskId := by
    simp [startFirstTask, Op.KeepsTask]
  exact ⟨a, ha, accepted_evidence_final (empty_oneWorkspace "w") (by decide +kernel) ha hkeeps⟩

/-- A second report of the accepted run, with another outcome, takes the place of the
first. -/
theorem accepted_evidence_rewritten :
    ∃ a ∈ (after perform (oneWorkspace "w")
        (firstTaskAccepted ++ [reportFirstTask 7 "queue-run_2000000002_2"
          "failed"])).agentQueueCompletionDecisions,
      a.workspaceId = "w" ∧ a.queueTaskId = firstTask ∧
      a.runId = some "queue-run_2000000002_2" ∧
      ((after perform (oneWorkspace "w")
        (firstTaskAccepted ++ [reportFirstTask 7 "queue-run_2000000002_2"
          "failed"])).getAgentQueueWorkerEvidenceBundle "w" firstTask
          "queue-run_2000000002_2").map (·.outcome) = some "failed" := by
  decide +kernel

end HobitQueue
