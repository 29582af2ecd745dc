import HobitQueue.Queue.AcceptedEvidence

/-!
# Decisions about a single attempt

A completion decision brings three histories together: the latest run link of the task,
its latest evidence, and its review message. Each of them goes on by itself, so the
three are about one run as long as nothing moves while a review is open: a task under
review is not started again, its latest evidence stays with the run it was of, and the
review is opened when the latest evidence is that of the latest run.
-/

namespace HobitQueue

open Concurrent StoreProg Relational Machine

namespace SqliteStore

/-- The run of the latest link of a task. -/
def latestRunId (s : SqliteStore) (workspaceId queueTaskId : String) : Option String :=
  (s.getLatestAgentQueueTaskRunLink workspaceId queueTaskId).map (·.directWorkRunId)

/-- The run of the latest evidence of a task. -/
def latestEvidenceRunId (s : SqliteStore) (workspaceId queueTaskId : String) : Option String :=
  (s.getLatestAgentQueueWorkerEvidenceBundle workspaceId queueTaskId).map (·.runId)

/-- The place a bundle gets among the bundles of its task: a bundle that takes the place of
another one keeps its id and the time it was created. -/
def storedRank (s : SqliteStore) (workspaceId queueTaskId runId time bundleId : String) :
    String ×ₗ String ×ₗ String :=
  match s.getAgentQueueWorkerEvidenceBundle workspaceId queueTaskId runId with
  | some old => toLex (time, toLex (old.createdAt, old.bundleId))
  | none => toLex (time, toLex (time, bundleId))

end SqliteStore

/-! ## The condition -/

/-- A task with a review message and without a decision. -/
def UnderReview (s : SqliteStore) (workspaceId queueTaskId : String) : Prop :=
  ¬ Decided s workspaceId queueTaskId ∧ ∃ m ∈ s.agentQueueReviewMessages,
    m.workspaceId = workspaceId ∧ m.queueTaskId = queueTaskId

instance (s : SqliteStore) (workspaceId queueTaskId : String) :
    Decidable (UnderReview s workspaceId queueTaskId) :=
  inferInstanceAs (Decidable (¬ _ ∧ ∃ m ∈ s.agentQueueReviewMessages, _))

/-- Evidence stored for a run at a time leaves the latest evidence of the task with the run
it was of. -/
def KeepsLatestEvidence (s : SqliteStore)
    (workspaceId queueTaskId runId time bundleId : String) : Prop :=
  ∀ b ∈ s.getLatestAgentQueueWorkerEvidenceBundle workspaceId queueTaskId,
    if b.runId = runId then
      ∀ other ∈ s.agentQueueWorkerEvidenceBundles, other.workspaceId = workspaceId →
        other.queueTaskId = queueTaskId → other.runId ≠ runId → latestEvidenceOrder.rank other ≤
          s.storedRank workspaceId queueTaskId runId time bundleId
    else s.storedRank workspaceId queueTaskId runId time bundleId ≤ latestEvidenceOrder.rank b

instance (s : SqliteStore) (workspaceId queueTaskId runId time bundleId : String) :
    Decidable (KeepsLatestEvidence s workspaceId queueTaskId runId time bundleId) := by
  dsimp only [KeepsLatestEvidence]
  infer_instance

/-- The condition on a step: the state of a task under review refuses its starts, and no
start is recorded for it; evidence stored for it leaves the latest evidence with its
run; and a review is opened when the latest evidence is that of the latest run. -/
def OneAttempt (s : SqliteStore) (op : Op) : Prop :=
  RefusesStart UnderReview s op ∧
    match op with
    | .recordRunStarted _ input => ∀ n, normalizeRecordRunStartedInput input = .ok n →
        ¬ UnderReview s n.workspaceId n.queueTaskId
    | .recordWorkerFinished d input => ∀ n,
        normalizeRecordAgentQueueWorkerFinishedInput input = .ok n →
        UnderReview s n.workspaceId n.queueItemId →
        KeepsLatestEvidence s n.workspaceId n.queueItemId n.runId
          (n.finishedAt.getD (d.timestamp 0)) (d.placeholderId "queue_worker_evidence_" 1)
    | .recoverStale d input => ∀ n, normalizeRecoverStaleQueueLocalRunInput input = .ok n →
        UnderReview s n.workspaceId n.queueItemId →
        KeepsLatestEvidence s n.workspaceId n.queueItemId n.runId (d.timestamp 0)
          (d.placeholderId "queue_worker_evidence_" 1)
    | .createReviewMessage _ input => ∀ request, createReviewMessageRequest input = .ok request →
        ¬ Decided s request.workspaceId request.queueItemId →
        s.latestEvidenceRunId request.workspaceId request.queueItemId =
          s.latestRunId request.workspaceId request.queueItemId
    | _ => True

instance (s : SqliteStore) (op : Op) : Decidable (OneAttempt s op) := by
  rcases op <;> dsimp only [OneAttempt] <;> infer_instance

/-! ## The latest records after an operation -/

/-- The end of a run moves no link. -/
theorem latestRunId_of_update {s t : SqliteStore} {p : AgentQueueTaskRunLinkRow → Bool}
    {update : AgentQueueTaskRunLinkFinalUpdate}
    (hlinks : t.agentQueueTaskRunLinks =
      s.agentQueueTaskRunLinks.update p update.apply fun _ => rfl)
    (workspaceId queueTaskId : String) :
    t.latestRunId workspaceId queueTaskId = s.latestRunId workspaceId queueTaskId := by
  rw [SqliteStore.latestRunId, SqliteStore.getLatestAgentQueueTaskRunLink, hlinks]
  refine Table.map_latest_update ?_ ?_ ?_ ?_ <;> exact fun _ => rfl

theorem latestRunId_congr {s t : SqliteStore}
    (hlinks : t.agentQueueTaskRunLinks = s.agentQueueTaskRunLinks)
    (workspaceId queueTaskId : String) :
    t.latestRunId workspaceId queueTaskId = s.latestRunId workspaceId queueTaskId := by
  rw [SqliteStore.latestRunId, SqliteStore.getLatestAgentQueueTaskRunLink, hlinks]
  rfl

theorem latestEvidenceRunId_congr {s t : SqliteStore}
    (hbundles : t.agentQueueWorkerEvidenceBundles = s.agentQueueWorkerEvidenceBundles)
    (workspaceId queueTaskId : String) :
    t.latestEvidenceRunId workspaceId queueTaskId =
      s.latestEvidenceRunId workspaceId queueTaskId := by
  rw [SqliteStore.latestEvidenceRunId, SqliteStore.getLatestAgentQueueWorkerEvidenceBundle,
    hbundles]
  rfl

theorem getLatestEvidence_eq_some {s : SqliteStore} {workspaceId queueTaskId : String}
    {b : AgentQueueWorkerEvidenceBundleRow} :
    s.getLatestAgentQueueWorkerEvidenceBundle workspaceId queueTaskId = some b ↔
      b ∈ s.agentQueueWorkerEvidenceBundles ∧
        (b.workspaceId = workspaceId ∧ b.queueTaskId = queueTaskId) ∧
        ∀ a ∈ s.agentQueueWorkerEvidenceBundles, a.workspaceId = workspaceId →
          a.queueTaskId = queueTaskId →
            latestEvidenceOrder.rank a ≤ latestEvidenceOrder.rank b := by
  rw [SqliteStore.getLatestAgentQueueWorkerEvidenceBundle, Table.latest_eq_some]
  simp

/-- Evidence of one task leaves the latest evidence of the others alone. -/
theorem latestEvidence_of_upsert_other {s t : SqliteStore}
    {bundle : AgentQueueWorkerEvidenceBundleRow} {workspaceId queueTaskId : String}
    (hups : UpsertsBundle bundle s.agentQueueWorkerEvidenceBundles
      t.agentQueueWorkerEvidenceBundles)
    (hother : ¬ (bundle.workspaceId = workspaceId ∧ bundle.queueTaskId = queueTaskId)) :
    t.latestEvidenceRunId workspaceId queueTaskId =
      s.latestEvidenceRunId workspaceId queueTaskId := by
  refine congrArg (Option.map _) (Table.latest_congr fun a ha => ?_)
  simp only [Bool.and_eq_true, beq_iff_eq] at ha
  have hrun : sameRun bundle a = false := by
    by_contra hsame
    simp only [sameRun, Bool.not_eq_false, Bool.and_eq_true, beq_iff_eq] at hsame
    exact hother ⟨hsame.1.1.symm.trans ha.1, hsame.1.2.symm.trans ha.2⟩
  constructor
  · intro hmem
    rcases hups.mem_cases hmem with ⟨hold, -⟩ | ⟨old, hsame, rfl⟩
    · exact hold
    · simp only [sameRun, Bool.and_eq_true, beq_iff_eq] at hsame
      simp [sameRun, AgentQueueWorkerEvidenceBundleRow.supersede, hsame] at hrun
  · exact fun hmem => hups.mem_of_mem hmem hrun

/-- What an operation stores takes the place `storedRank` says. -/
theorem UpsertsBundle.rank {s : SqliteStore} {bundle : AgentQueueWorkerEvidenceBundleRow}
    {bundles' : Table AgentQueueWorkerEvidenceBundleRow}
    (h : UpsertsBundle bundle s.agentQueueWorkerEvidenceBundles bundles')
    (htime : bundle.createdAt = bundle.updatedAt) :
    ∃ x ∈ bundles', sameRun bundle x = true ∧
      latestEvidenceOrder.rank x = s.storedRank bundle.workspaceId bundle.queueTaskId
        bundle.runId bundle.updatedAt bundle.bundleId := by
  unfold SqliteStore.storedRank
  cases hget : s.getAgentQueueWorkerEvidenceBundle bundle.workspaceId bundle.queueTaskId
      bundle.runId with
  | some old =>
    obtain ⟨hold, hws, htask, hrun⟩ := getAgentQueueWorkerEvidenceBundle_eq_some.1 hget
    have hsame : sameRun bundle old = true := by simp [sameRun, hws, htask, hrun]
    rcases h with hins | ⟨-, rfl⟩
    · refine absurd ?_ (Table.not_clash_of_insert hins hold)
      exact ⟨("workspace_id, queue_task_id, run_id", [old.workspaceId, old.queueTaskId, old.runId]),
        by simp [Row.keys], by simp [Row.keys, hws, htask, hrun]⟩
    · refine ⟨bundle.supersede old,
        Table.mem_update_of_pos (f := bundle.supersede) (fun _ => rfl) hold hsame, ?_, rfl⟩
      simpa [sameRun, AgentQueueWorkerEvidenceBundleRow.supersede] using hsame
  | none =>
    rcases h with hins | ⟨⟨old, hold, hsame⟩, -⟩
    · refine ⟨bundle, (Table.mem_insert hins bundle).2 (Or.inr rfl), by simp [sameRun], ?_⟩
      simp only [latestEvidenceOrder, htime]
    · simp only [sameRun, Bool.and_eq_true, beq_iff_eq] at hsame
      have hsome := getAgentQueueWorkerEvidenceBundle_eq_some.2
        ⟨hold, hsame.1.1, hsame.1.2, hsame.2⟩
      exact absurd (hget.symm.trans hsome) (by simp)

/-- Evidence that keeps the latest evidence with its run does so in the next state. -/
theorem latestEvidence_of_upsert {s t : SqliteStore}
    {bundle : AgentQueueWorkerEvidenceBundleRow} {runId : String}
    (hups : UpsertsBundle bundle s.agentQueueWorkerEvidenceBundles
      t.agentQueueWorkerEvidenceBundles)
    (htime : bundle.createdAt = bundle.updatedAt)
    (hkeeps : KeepsLatestEvidence s bundle.workspaceId bundle.queueTaskId bundle.runId
      bundle.updatedAt bundle.bundleId)
    (hlatest : s.latestEvidenceRunId bundle.workspaceId bundle.queueTaskId = some runId) :
    t.latestEvidenceRunId bundle.workspaceId bundle.queueTaskId = some runId := by
  obtain ⟨b, hb, rfl⟩ := Option.map_eq_some_iff.1 hlatest
  obtain ⟨hmem, hkey, htop⟩ := getLatestEvidence_eq_some.1 hb
  obtain ⟨x, hx, hsame, hrank⟩ := hups.rank htime
  simp only [sameRun, Bool.and_eq_true, beq_iff_eq] at hsame
  -- a bundle of the next state is one of another run, or it is the stored one
  have hcases : ∀ a ∈ t.agentQueueWorkerEvidenceBundles, a.workspaceId = bundle.workspaceId →
      a.queueTaskId = bundle.queueTaskId →
      (a ∈ s.agentQueueWorkerEvidenceBundles ∧ a.runId ≠ bundle.runId) ∨ a = x := by
    intro a ha hws htask
    by_cases hrun : a.runId = bundle.runId
    · right
      refine Table.eq_of_clash ha hx ⟨("workspace_id, queue_task_id, run_id",
        [a.workspaceId, a.queueTaskId, a.runId]), by simp [Row.keys], ?_⟩
      simp [Row.keys, hws, htask, hrun, hsame]
    · rcases hups.mem_cases ha with ⟨hold, -⟩ | ⟨old, hold, rfl⟩
      · exact Or.inl ⟨hold, hrun⟩
      · simp only [sameRun, Bool.and_eq_true, beq_iff_eq] at hold
        exact absurd hold.2 hrun
  have hcond := hkeeps b hb
  split_ifs at hcond with hrun
  · have hnew : t.getLatestAgentQueueWorkerEvidenceBundle bundle.workspaceId
        bundle.queueTaskId = some x := by
      refine getLatestEvidence_eq_some.2 ⟨hx, hsame.1, fun a ha hws htask => ?_⟩
      rcases hcases a ha hws htask with ⟨hold, hother⟩ | rfl
      · rw [hrank]
        exact hcond a hold hws htask hother
      · exact le_rfl
    rw [SqliteStore.latestEvidenceRunId, hnew, Option.map_some, hsame.2, hrun]
  · have hother : sameRun bundle b = false := by
      simp [sameRun, hrun]
    have hstays : t.getLatestAgentQueueWorkerEvidenceBundle bundle.workspaceId
        bundle.queueTaskId = some b := by
      refine getLatestEvidence_eq_some.2 ⟨hups.mem_of_mem hmem hother, hkey, ?_⟩
      intro a ha hws htask
      rcases hcases a ha hws htask with ⟨hold, -⟩ | rfl
      · exact htop a hold hws htask
      · rw [hrank]
        exact hcond
    rw [SqliteStore.latestEvidenceRunId, hstays, Option.map_some]

/-- The deletion of a task leaves the latest evidence of the others alone. -/
theorem latestEvidence_withoutTask {s : SqliteStore} {queueItemId workspaceId queueTaskId : String}
    (hother : queueTaskId ≠ queueItemId) :
    (s.withoutTask queueItemId).latestEvidenceRunId workspaceId queueTaskId =
      s.latestEvidenceRunId workspaceId queueTaskId := by
  calc
    (s.withoutTask queueItemId).latestEvidenceRunId workspaceId queueTaskId =
        ((s.agentQueueWorkerEvidenceBundles.delete (·.queueTaskId == queueItemId)).latest
          (fun r => r.workspaceId == workspaceId && r.queueTaskId == queueTaskId)
          latestEvidenceOrder).map (·.runId) := by
      unfold SqliteStore.latestEvidenceRunId SqliteStore.getLatestAgentQueueWorkerEvidenceBundle
        SqliteStore.withoutTask
      refine Table.map_latest_update ?_ ?_ ?_ ?_ <;> exact fun _ => rfl
    _ = s.latestEvidenceRunId workspaceId queueTaskId := ?_
  refine congrArg (Option.map _) ?_
  refine Table.latest_delete_other fun a ha => ?_
  simp only [Bool.and_eq_true, beq_iff_eq] at ha
  simpa [ha.2] using hother

/-! ## Reviews of the latest run -/

/-- The message of a task without a decision is about the latest run of the task, and the
latest evidence is of that run. -/
def ReviewedRun (s : SqliteStore) : Prop :=
  ∀ m ∈ s.agentQueueReviewMessages, ¬ Decided s m.workspaceId m.queueTaskId →
    m.runId = s.latestRunId m.workspaceId m.queueTaskId ∧
      s.latestEvidenceRunId m.workspaceId m.queueTaskId =
        s.latestRunId m.workspaceId m.queueTaskId

/-- Decisions that are kept keep a task without a decision. -/
theorem decided_congr {s t : SqliteStore}
    (hcompletions : t.agentQueueCompletionDecisions = s.agentQueueCompletionDecisions)
    (hfailures : t.agentQueueFailureDecisions = s.agentQueueFailureDecisions)
    {workspaceId queueTaskId : String} :
    Decided t workspaceId queueTaskId ↔ Decided s workspaceId queueTaskId := by
  rw [Decided, Decided, hcompletions, hfailures]

/-- A step that leaves the messages, the decisions and the latest runs as they are. -/
theorem ReviewedRun.congr {s t : SqliteStore} (h : ReviewedRun s)
    (hmessages : t.agentQueueReviewMessages = s.agentQueueReviewMessages)
    (hdecided : ∀ workspaceId queueTaskId, ¬ Decided t workspaceId queueTaskId →
      ¬ Decided s workspaceId queueTaskId)
    (hlatest : ∀ workspaceId queueTaskId,
      t.latestRunId workspaceId queueTaskId = s.latestRunId workspaceId queueTaskId)
    (hevidence : ∀ workspaceId queueTaskId, t.latestEvidenceRunId workspaceId queueTaskId =
      s.latestEvidenceRunId workspaceId queueTaskId) : ReviewedRun t := by
  intro m hm hopen
  rw [hmessages] at hm
  rw [hlatest, hevidence]
  exact h m hm (hdecided _ _ hopen)

/-- A start finds no task under review. -/
theorem StartsLink.not_underReview {s : SqliteStore} {op : Op} {link : AgentQueueTaskRunLinkRow}
    (h : StartsLink s op link) (hcond : OneAttempt s op) :
    ¬ UnderReview s link.workspaceId link.queueTaskId := by
  cases h with
  | assigned hn htask hidle =>
    exact StartsLink.not_protected (.assigned hn htask hidle) rfl hcond.1
  | selected hn hidle htask =>
    exact StartsLink.not_protected (.selected hn hidle htask) rfl hcond.1
  | recorded hn => exact hcond.2 _ hn

/-- Evidence stored for a task under review keeps its latest evidence with its run. -/
theorem StoresBundle.keepsLatest {s : SqliteStore} {op : Op}
    {bundle : AgentQueueWorkerEvidenceBundleRow} (h : StoresBundle s op bundle)
    (hcond : OneAttempt s op) (hreview : UnderReview s bundle.workspaceId bundle.queueTaskId) :
    bundle.createdAt = bundle.updatedAt ∧ KeepsLatestEvidence s bundle.workspaceId
      bundle.queueTaskId bundle.runId bundle.updatedAt bundle.bundleId := by
  cases h with
  | reported hn => exact ⟨rfl, hcond.2 _ hn hreview⟩
  | recovered hn hnone => exact ⟨rfl, hcond.2 _ hn hreview⟩

/-- A step that keeps what `UnderReview` and `ReviewedRun` look at, but for one task under
review, keeps the invariant. -/
theorem ReviewedRun.of_bundle {s t : SqliteStore} {op : Op}
    {bundle : AgentQueueWorkerEvidenceBundleRow} {p : AgentQueueTaskRunLinkRow → Bool}
    {update : AgentQueueTaskRunLinkFinalUpdate} (h : ReviewedRun s) (hcond : OneAttempt s op)
    (hop : StoresBundle s op bundle)
    (hlink : ∃ link ∈ s.agentQueueTaskRunLinks, link.workspaceId = bundle.workspaceId ∧
      link.queueTaskId = bundle.queueTaskId)
    (hups : UpsertsBundle bundle s.agentQueueWorkerEvidenceBundles
      t.agentQueueWorkerEvidenceBundles)
    (hlinks : t.agentQueueTaskRunLinks =
      s.agentQueueTaskRunLinks.update p update.apply fun _ => rfl)
    (hmessages : t.agentQueueReviewMessages = s.agentQueueReviewMessages)
    (hcompletions : t.agentQueueCompletionDecisions = s.agentQueueCompletionDecisions)
    (hfailures : t.agentQueueFailureDecisions = s.agentQueueFailureDecisions) :
    ReviewedRun t := by
  intro m hm hopen
  rw [hmessages] at hm
  rw [decided_congr hcompletions hfailures] at hopen
  obtain ⟨hrun, hevidence⟩ := h m hm hopen
  rw [latestRunId_of_update hlinks]
  refine ⟨hrun, ?_⟩
  by_cases hsame : bundle.workspaceId = m.workspaceId ∧ bundle.queueTaskId = m.queueTaskId
  · -- the task is under review, and it has a link, so its latest run is known
    obtain ⟨hws, htask⟩ := hsame
    obtain ⟨link, hmem, hlinkWs, hlinkTask⟩ := hlink
    obtain ⟨latest, hlatest⟩ := Table.exists_latest latestRunLinkOrder hmem
      (p := fun r => r.workspaceId == m.workspaceId && r.queueTaskId == m.queueTaskId)
      (by simp [hlinkWs, hlinkTask, hws, htask])
    have hrunId : s.latestRunId m.workspaceId m.queueTaskId = some latest.directWorkRunId :=
      congrArg (Option.map _) hlatest
    have hreview : UnderReview s bundle.workspaceId bundle.queueTaskId := by
      rw [hws, htask]
      exact ⟨hopen, m, hm, rfl, rfl⟩
    obtain ⟨htime, hkeeps⟩ := hop.keepsLatest hcond hreview
    rw [hrunId] at hevidence ⊢
    rw [← hws, ← htask] at hevidence ⊢
    exact latestEvidence_of_upsert hups htime hkeeps hevidence
  · rw [latestEvidence_of_upsert_other hups hsame]
    exact hevidence

theorem reviewedRun_perform {s : SqliteStore} {op : Op} (h : ReviewedRun s)
    (hcond : OneAttempt s op) : ReviewedRun (perform s op) := by
  have heffect := recordEffect_perform s op
  generalize perform s op = t at heffect
  cases heffect with
  | kept hrecords =>
    refine h.congr hrecords.reviewMessages ?_ (latestRunId_congr hrecords.runLinks)
      (latestEvidenceRunId_congr hrecords.evidence)
    intro workspaceId queueTaskId hopen
    rwa [decided_congr hrecords.completions hrecords.failures] at hopen
  | @linkStarted _ _ link links' hop hins hrecords =>
    intro m hm hopen
    rw [hrecords.reviewMessages] at hm
    rw [decided_congr hrecords.completions hrecords.failures] at hopen
    have hlinks : t.agentQueueTaskRunLinks = links' := hrecords.runLinks
    rw [← hlinks] at hins
    have hother : ¬ (link.workspaceId = m.workspaceId ∧ link.queueTaskId = m.queueTaskId) := by
      rintro ⟨hws, htask⟩
      refine hop.not_underReview hcond ⟨?_, m, hm, hws.symm, htask.symm⟩
      rw [hws, htask]
      exact hopen
    have hlatest : t.latestRunId m.workspaceId m.queueTaskId =
        s.latestRunId m.workspaceId m.queueTaskId :=
      congrArg (Option.map _) (getLatest_of_insert_other hins hother)
    rw [hlatest, latestEvidenceRunId_congr hrecords.evidence]
    exact h m hm hopen
  | linkEnded hrecords =>
    refine h.congr hrecords.reviewMessages ?_ (latestRunId_of_update hrecords.runLinks)
      (latestEvidenceRunId_congr hrecords.evidence)
    intro workspaceId queueTaskId hopen
    rwa [decided_congr hrecords.completions hrecords.failures] at hopen
  | @bundleStored _ _ _ _ bundle bundles' hop hlink hups hrecords =>
    obtain ⟨link, hmem, hws, htask, -⟩ := hlink
    have hbundles : t.agentQueueWorkerEvidenceBundles = bundles' := hrecords.evidence
    rw [← hbundles] at hups
    exact h.of_bundle hcond hop ⟨link, hmem, hws, htask⟩ hups hrecords.runLinks
      hrecords.reviewMessages hrecords.completions hrecords.failures
  | @messageCreated _ _ request row _ hrequest hrow hnone hins =>
    intro m hm hopen
    rcases (Table.mem_insert hins m).1 hm with hold | rfl
    · exact h m hold hopen
    · have hkey := Table.sat_of_find hrow
      simp only [Bool.and_eq_true, beq_iff_eq] at hkey
      have hid := hkey.2
      refine ⟨?_, hcond.2 request hrequest hopen⟩
      simp only [newReviewMessage, SqliteStore.operatorView, SqliteStore.queueItemAggregate,
        buildQueueItemAggregate, SqliteStore.latestRows, latestRun, Option.map_map, hid]
      rfl
  | @messageAcked _ p =>
    intro m hm hopen
    dsimp only at hm
    obtain ⟨old, hold, rfl⟩ := Table.mem_update.1 hm
    -- an acknowledged message is still of its task and its run
    by_cases hsel : p old = true
    · rw [if_pos hsel] at hopen ⊢
      exact h old hold hopen
    · rw [if_neg hsel] at hopen ⊢
      exact h old hold hopen
  | accepted hrequest haccepts =>
    obtain ⟨_, _, _, _, _, _, _, _, hins, rfl⟩ := haccepts
    refine h.congr rfl ?_ (fun _ _ => rfl) fun _ _ => rfl
    rintro workspaceId queueTaskId hopen (⟨a, ha, hkey⟩ | hfailed)
    · exact hopen (Or.inl ⟨a, (Table.mem_insert hins a).2 (Or.inl ha), hkey⟩)
    · exact hopen (Or.inr hfailed)
  | gaveUp hrequest hfails =>
    obtain ⟨_, _, hins, rfl⟩ := hfails
    refine h.congr rfl ?_ (fun _ _ => rfl) fun _ _ => rfl
    rintro workspaceId queueTaskId hopen (haccepted | ⟨a, ha, hkey⟩)
    · exact hopen (Or.inl haccepted)
    · exact hopen (Or.inr ⟨a, (Table.mem_insert hins a).2 (Or.inl ha), hkey⟩)
  | @deleted d input n workspaces' hn =>
    intro m hm hopen
    obtain ⟨old, hold, hother, link, rfl⟩ := SqliteStore.message_of_withoutTask hm
    have hlatest : SqliteStore.latestRunId
        { s.withoutTask n.queueItemId with workspaces := workspaces' } old.workspaceId
        old.queueTaskId = s.latestRunId old.workspaceId old.queueTaskId :=
      congrArg (Option.map _) (getLatest_of_delete_other rfl hother)
    have hevidence : SqliteStore.latestEvidenceRunId
        { s.withoutTask n.queueItemId with workspaces := workspaces' } old.workspaceId
        old.queueTaskId = s.latestEvidenceRunId old.workspaceId old.queueTaskId :=
      latestEvidence_withoutTask hother
    rw [hlatest, hevidence]
    refine h old hold fun hdecided => hopen ?_
    rcases hdecided with ⟨a, ha, hws, htask⟩ | ⟨a, ha, hws, htask⟩
    · obtain ⟨b, hb, _, _, rfl⟩ :=
        SqliteStore.completion_withoutTask ha (htask.symm ▸ hother : a.queueTaskId ≠ _)
      exact Or.inl ⟨_, hb, hws, htask⟩
    · obtain ⟨b, hb, _, _, _, rfl⟩ :=
        SqliteStore.failure_withoutTask ha (htask.symm ▸ hother : a.queueTaskId ≠ _)
      exact Or.inr ⟨_, hb, hws, htask⟩

/-! ## The decision -/

/-- The decision is about one attempt: the run of the latest link, the latest evidence, and
an acknowledged message of that run. -/
structure SingleAttempt (s : SqliteStore) (a : AgentQueueCompletionDecisionRow) (runId : String) :
    Prop where
  decided : a.runId = some runId
  latestRun : s.latestRunId a.workspaceId a.queueTaskId = some runId
  evidence : ∃ b, s.getLatestAgentQueueWorkerEvidenceBundle a.workspaceId a.queueTaskId = some b ∧
    b.runId = runId ∧ b.outcome = "completed"
  message : ∃ m ∈ s.agentQueueReviewMessages, a.reviewMessageId = some m.messageId ∧
    m.workspaceId = a.workspaceId ∧ m.queueTaskId = a.queueTaskId ∧
    m.status = "acknowledged" ∧ m.runId = some runId

/-- What is accepted in a reviewed state is a single attempt. -/
theorem AcceptsTask.singleAttempt {d : Draws} {request : MarkDoneRequest} {s t : SqliteStore}
    (h : AcceptsTask d request s t) (hinv : ReviewedRun s) {a : AgentQueueCompletionDecisionRow}
    (ha : a ∈ t.agentQueueCompletionDecisions) (hnew : a ∉ s.agentQueueCompletionDecisions) :
    ∃ runId, SingleAttempt s a runId := by
  obtain ⟨row, evidence, message, _, _, hrow, hvalid, hnone, hins, rfl⟩ := h
  rcases (Table.mem_insert hins a).1 ha with hold | rfl
  · exact absurd hold hnew
  obtain ⟨hevidence, houtcome, hmessage, hstatus, -, hticket⟩ :=
    validateMarkDonePrecondition_ok hvalid
  have hid := Table.sat_of_find hrow
  simp only [Bool.and_eq_true, beq_iff_eq] at hid
  obtain ⟨hmem, hkey, -⟩ := Table.latest_eq_some.1 hmessage
  simp only [Bool.and_eq_true, beq_iff_eq] at hkey
  have hopen : ¬ Decided s message.workspaceId message.queueTaskId := by
    rw [hkey.1, hkey.2]
    have hrows := decisions_of_inReview hticket
    simp only [SqliteStore.latestRows, hid.2] at hrows
    rintro (⟨b, hb, hws, htask⟩ | ⟨b, hb, hws, htask⟩)
    · simpa [hws, htask] using Table.latest_eq_none.1 hrows.1 b hb
    · simpa [hws, htask] using Table.latest_eq_none.1 hrows.2 b hb
  obtain ⟨hrun, hlatest⟩ := hinv message hmem hopen
  rw [hkey.1, hkey.2] at hrun hlatest
  have hevidenceRun : s.latestEvidenceRunId request.workspaceId request.queueItemId =
      some evidence.runId := congrArg (Option.map _) hevidence
  have hrunId := hlatest.symm.trans hevidenceRun
  exact ⟨evidence.runId, rfl, hrunId, ⟨evidence, hevidence, rfl, houtcome⟩, message, hmem, rfl,
    hkey.1, hkey.2, hstatus, hrun.trans hrunId⟩

/-- **A decision is about a single attempt** in every history under the condition. -/
theorem decision_of_single_attempt {s : SqliteStore} (hs : Empty s) {history : List Op} {op : Op}
    (hcond : Along perform OneAttempt s (history ++ [op]))
    {a : AgentQueueCompletionDecisionRow}
    (ha : a ∈ (after perform s (history ++ [op])).agentQueueCompletionDecisions)
    (hnew : ∀ b ∈ (after perform s history).agentQueueCompletionDecisions,
      b.decisionId ≠ a.decisionId) :
    ∃ runId, SingleAttempt (after perform s history) a runId := by
  have hempty : ReviewedRun s := fun m hm => absurd hm (hs.reviewMessages m)
  have hinv := invariant_after (fun _ _ hinv hstep => reviewedRun_perform hinv hstep) hempty
    (along_append.1 hcond).1
  rw [after_concat] at ha
  generalize after perform s history = u at ha hnew hinv
  have heffect := decisionEffect_perform u op
  generalize perform u op = t at heffect ha
  cases heffect with
  | kept hcompletions => exact absurd rfl (hnew a (hcompletions ▸ ha))
  | accepted _ haccepts =>
    exact haccepts.singleAttempt hinv ha fun hold => hnew a hold rfl
  | gaveUp _ hfails =>
    obtain ⟨_, _, _, rfl⟩ := hfails
    exact absurd rfl (hnew a ha)
  | deleted hn =>
    obtain ⟨old, hold, -, link, message, rfl⟩ := SqliteStore.completion_of_withoutTask ha
    exact absurd rfl (hnew old hold)

/-- A run that is reported and reviewed. -/
def firstTaskReviewed : List Op :=
  firstTaskQueued ++ [startFirstTask 2, reportFirstTask 3 "queue-run_2000000002_2" "completed"] ++
    reviewFirstTask 4 "queue-review-message-4000000001_1"

theorem decision_of_single_attempt_firstTaskReviewed :
    ∃ a ∈ (after perform (oneWorkspace "w")
        (firstTaskReviewed ++ [acceptFirstTask 6])).agentQueueCompletionDecisions,
      ∃ runId, SingleAttempt (after perform (oneWorkspace "w") firstTaskReviewed) a runId := by
  have hdecision : ∃ a ∈ (after perform (oneWorkspace "w")
        (firstTaskReviewed ++ [acceptFirstTask 6])).agentQueueCompletionDecisions,
      ∀ b ∈ (after perform (oneWorkspace "w") firstTaskReviewed).agentQueueCompletionDecisions,
        b.decisionId ≠ a.decisionId := by
    decide +kernel
  obtain ⟨a, ha, hnew⟩ := hdecision
  exact ⟨a, ha, decision_of_single_attempt (empty_oneWorkspace "w") (by decide +kernel) ha hnew⟩

/-- A run that is reviewed although its work is not completed, and a second run that is
reported as completed. -/
def secondRunReported : List Op :=
  firstTaskQueued ++ [startFirstTask 2,
    reportFirstTask 3 "queue-run_2000000002_2" "not_completed"] ++
    reviewFirstTask 4 "queue-review-message-4000000001_1" ++
    [startFirstTask 6, reportFirstTask 7 "queue-run_6000000002_2" "completed"]

/-- The second run is accepted with the review of the first one. -/
theorem accepted_with_other_review :
    (∀ a ∈ (after perform (oneWorkspace "w") secondRunReported).agentQueueCompletionDecisions,
      False) ∧
    ∃ a ∈ (after perform (oneWorkspace "w")
        (secondRunReported ++ [acceptFirstTask 8])).agentQueueCompletionDecisions,
      ∃ m ∈ (after perform (oneWorkspace "w") secondRunReported).agentQueueReviewMessages,
        a.runId = some "queue-run_6000000002_2" ∧ a.reviewMessageId = some m.messageId ∧
        m.runId = some "queue-run_2000000002_2" := by
  decide +kernel

end HobitQueue
