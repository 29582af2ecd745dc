import HobitQueue.Queue.History

/-!
# Run links over a history

A start inserts a running link, the end of a run rewrites the link of that run, and the
deletion of a task takes its links away; nothing else touches the links. A start with
a workflow context and a start on the local backend look at the latest link of the task
and refuse when it is running. So a task has one running link at most, as long as the
other ways to insert a link find no running one and the clock orders the links.
-/

namespace HobitQueue

open Concurrent StoreProg Relational Machine

/-- The link an operation inserts when it starts a run, and what its checks have seen. -/
inductive StartsLink (s : SqliteStore) : Op → AgentQueueTaskRunLinkRow → Prop
  | assigned {d : Draws} {input : StartAssignedAgentQueueTaskInput}
      {source : AgentQueueTaskRunSource} {n : NormalizedStartAssignedAgentQueueTaskInput}
      {executorId runId : String}
      (hn : normalizeStartAssignedAgentQueueTaskInput input = .ok n)
      (htask : ∃ task ∈ s.agentQueueTasks, task.workspaceId = n.workspaceId ∧
        task.queueItemId = n.queueItemId ∧ isRunnableAgentQueueTaskStatus task.status = true)
      (hidle : n.workflowStartContext.isSome →
        s.latestActiveTaskRunLink n.workspaceId n.queueItemId = none) :
      StartsLink s (.startAssigned d input source)
        (startedRunLink d 8 n.workspaceId n.queueItemId executorId runId source)
  | selected {d : Draws} {mode : SelectedQueueLocalStartMode}
      {input n : StartSelectedAgentQueueTaskLocalInput}
      (hn : normalizeStartSelectedAgentQueueTaskLocalInput input = .ok n)
      (hidle : s.latestActiveTaskRunLink n.workspaceId n.queueItemId = none)
      (htask : ∃ task ∈ s.agentQueueTasks, task.workspaceId = n.workspaceId ∧
        task.queueItemId = n.queueItemId ∧
        s.selectedQueueLocalStateBlocker mode n.workspaceId task = none) :
      StartsLink s (.startSelected d mode input)
        (startedRunLink d 3 n.workspaceId n.queueItemId queueLocalBackendExecutionTargetId
          (d.placeholderId "queue-run_" 2) .manual)
  | recorded {d : Draws} {input n : RecordAgentQueueTaskRunStartedInput}
      (hn : normalizeRecordRunStartedInput input = .ok n) :
      StartsLink s (.recordRunStarted d input)
        (startedRunLink d 0 n.workspaceId n.queueTaskId n.executorWidgetId n.directWorkRunId
          n.source)

/-- What an operation does to the run links. -/
inductive LinkEffect (s : SqliteStore) : Op → SqliteStore → Prop
  | kept {op : Op} {t : SqliteStore}
      (hlinks : t.agentQueueTaskRunLinks = s.agentQueueTaskRunLinks) : LinkEffect s op t
  | started {op : Op} {t : SqliteStore} {link : AgentQueueTaskRunLinkRow}
      (hop : StartsLink s op link)
      (hins : s.agentQueueTaskRunLinks.insert link = some t.agentQueueTaskRunLinks) :
      LinkEffect s op t
  | ended {op : Op} {t : SqliteStore} {workspaceId queueTaskId runId : String}
      {update : AgentQueueTaskRunLinkFinalUpdate}
      (hstatus : update.status = "running" → ∃ d input n, op = .recordRunFinalStatus d input ∧
        normalizeRecordRunFinalStatusInput input = .ok n ∧ n.status = .running ∧
        n.workspaceId = workspaceId ∧ n.queueTaskId = queueTaskId ∧ n.directWorkRunId = runId)
      (hlinks : t.agentQueueTaskRunLinks = s.agentQueueTaskRunLinks.update
        (fun r => r.workspaceId == workspaceId && r.queueTaskId == queueTaskId &&
          r.directWorkRunId == runId) update.apply fun _ => rfl) : LinkEffect s op t
  | deleted {d : Draws} {input n : AgentQueueTaskRef} {t : SqliteStore}
      (hn : normalizeAgentQueueTaskRef input = .ok n)
      (hlinks : t.agentQueueTaskRunLinks =
        s.agentQueueTaskRunLinks.delete (·.queueTaskId == n.queueItemId)) :
      LinkEffect s (.deleteTask d input) t

theorem asStr_eq_running {status : AgentQueueTaskRunStatus} :
    status.asStr = "running" ↔ status = .running := by
  cases status <;> decide

/-- **What an operation does to the links.** -/
theorem linkEffect_perform (s : SqliteStore) (op : Op) : LinkEffect s op (perform s op) := by
  have heffect := perform_effect s op
  generalize perform s op = t at heffect
  cases heffect with
  | launched hn h htask hidle =>
    obtain ⟨_, _, _, _, _, hins, _, _, rfl⟩ := h
    exact .started (.assigned hn htask hidle) hins
  | launchedSelected hn h hidle htask =>
    obtain ⟨_, _, _, _, _, hins, _, _, rfl⟩ := h
    exact .started (.selected hn hidle htask) hins
  | linked hn hins => exact .started (.recorded hn) hins
  | @finished _ input n queueStatus _ hn h =>
    obtain ⟨_, finishedAt, _, rfl⟩ := h
    refine .ended (fun hrunning => ?_) rfl
    exact absurd hrunning (finalStatus_ne_running (checkedFinish_ok hn).2).2
  | recovered _ _ _ h =>
    obtain ⟨_, _, _, _, _, rfl⟩ := h
    have hne : AgentQueueTaskRunStatus.failed.asStr ≠ "running" := by decide
    exact .ended (fun hrunning => absurd hrunning hne) rfl
  | reported _ h =>
    obtain ⟨_, _, _, _, _, rfl⟩ := h
    exact .ended (fun hrunning =>
      absurd hrunning (statusForWorkerOutcome_ne_running _).2) rfl
  | linkEnded hn h =>
    obtain ⟨_, rfl⟩ := h
    exact .ended (fun hrunning =>
      ⟨_, _, _, rfl, hn, asStr_eq_running.1 hrunning, rfl, rfl, rfl⟩) rfl
  | deleted hn => exact .deleted hn rfl
  | updated _ _ h =>
    obtain ⟨_, _, rfl⟩ := h
    exact .kept rfl
  | reassigned _ h =>
    obtain ⟨_, _, rfl⟩ := h
    exact .kept rfl
  | bookkeeping h =>
    obtain ⟨_, _, _, rfl⟩ := h
    exact .kept rfl
  | accepted _ h =>
    obtain ⟨_, _, _, _, _, _, _, _, _, rfl⟩ := h
    exact .kept rfl
  | gaveUp _ h =>
    obtain ⟨_, _, _, rfl⟩ := h
    exact .kept rfl
  | idle => exact .kept rfl
  | created => exact .kept rfl
  | messageCreated => exact .kept rfl
  | messageAcked => exact .kept rfl
  | others => exact .kept rfl

/-! ## The latest link -/

/-- The latest link of a task outranks the others. -/
theorem getLatestAgentQueueTaskRunLink_eq_some {s : SqliteStore}
    {workspaceId queueTaskId : String} {link : AgentQueueTaskRunLinkRow} :
    s.getLatestAgentQueueTaskRunLink workspaceId queueTaskId = some link ↔
      link ∈ s.agentQueueTaskRunLinks ∧
        (link.workspaceId = workspaceId ∧ link.queueTaskId = queueTaskId) ∧
        ∀ a ∈ s.agentQueueTaskRunLinks, a.workspaceId = workspaceId →
          a.queueTaskId = queueTaskId →
            latestRunLinkOrder.rank a ≤ latestRunLinkOrder.rank link := by
  rw [SqliteStore.getLatestAgentQueueTaskRunLink, Table.latest_eq_some]
  simp

/-- A new link that sorts behind no link of its task is the latest one. -/
theorem getLatest_of_insert {s t : SqliteStore} {link : AgentQueueTaskRunLinkRow}
    (hins : s.agentQueueTaskRunLinks.insert link = some t.agentQueueTaskRunLinks)
    (hlast : ∀ a ∈ s.agentQueueTaskRunLinks, a.workspaceId = link.workspaceId →
      a.queueTaskId = link.queueTaskId →
      latestRunLinkOrder.rank a ≤ latestRunLinkOrder.rank link) :
    t.getLatestAgentQueueTaskRunLink link.workspaceId link.queueTaskId = some link := by
  refine Table.latest_insert_top hins (by simp) ?_
  intro a ha hsel
  simp only [Bool.and_eq_true, beq_iff_eq] at hsel
  exact hlast a ha hsel.1 hsel.2

/-- A new link of another task leaves the latest link alone. -/
theorem getLatest_of_insert_other {s t : SqliteStore} {link : AgentQueueTaskRunLinkRow}
    {workspaceId queueTaskId : String}
    (hins : s.agentQueueTaskRunLinks.insert link = some t.agentQueueTaskRunLinks)
    (hother : ¬ (link.workspaceId = workspaceId ∧ link.queueTaskId = queueTaskId)) :
    t.getLatestAgentQueueTaskRunLink workspaceId queueTaskId =
      s.getLatestAgentQueueTaskRunLink workspaceId queueTaskId := by
  refine Table.latest_insert_other hins ?_
  simpa [Bool.eq_false_iff] using hother

/-- The end of a run rewrites its link in place. -/
theorem getLatest_of_update {s t : SqliteStore} {p : AgentQueueTaskRunLinkRow → Bool}
    {update : AgentQueueTaskRunLinkFinalUpdate}
    (hlinks : t.agentQueueTaskRunLinks =
      s.agentQueueTaskRunLinks.update p update.apply fun _ => rfl)
    (workspaceId queueTaskId : String) :
    t.getLatestAgentQueueTaskRunLink workspaceId queueTaskId =
      (s.getLatestAgentQueueTaskRunLink workspaceId queueTaskId).map fun a =>
        if p a then update.apply a else a := by
  rw [SqliteStore.getLatestAgentQueueTaskRunLink, hlinks]
  exact Table.latest_update (fun _ => rfl) fun _ => rfl

/-- The deletion of another task leaves the latest link alone. -/
theorem getLatest_of_delete_other {s t : SqliteStore} {queueItemId workspaceId queueTaskId : String}
    (hlinks : t.agentQueueTaskRunLinks =
      s.agentQueueTaskRunLinks.delete (·.queueTaskId == queueItemId))
    (hother : queueTaskId ≠ queueItemId) :
    t.getLatestAgentQueueTaskRunLink workspaceId queueTaskId =
      s.getLatestAgentQueueTaskRunLink workspaceId queueTaskId := by
  rw [SqliteStore.getLatestAgentQueueTaskRunLink, hlinks]
  refine Table.latest_delete_other ?_
  intro a ha
  simp only [Bool.and_eq_true, beq_iff_eq] at ha
  simpa [ha.2] using hother

/-! ## One running link -/

/-- A running link is the latest link of its task. -/
def RunningIsLatest (s : SqliteStore) : Prop :=
  ∀ link ∈ s.agentQueueTaskRunLinks, link.status = "running" →
    s.getLatestAgentQueueTaskRunLink link.workspaceId link.queueTaskId = some link

/-- Running links of one task are one link. -/
def OneRunningLink (s : SqliteStore) : Prop :=
  ∀ a ∈ s.agentQueueTaskRunLinks, ∀ b ∈ s.agentQueueTaskRunLinks,
    a.workspaceId = b.workspaceId → a.queueTaskId = b.queueTaskId →
    a.status = "running" → b.status = "running" → a = b

theorem RunningIsLatest.oneRunningLink {s : SqliteStore} (h : RunningIsLatest s) :
    OneRunningLink s := by
  intro a ha b hb hws htask hrunA hrunB
  have hlatest := h a ha hrunA
  rw [hws, htask, h b hb hrunB] at hlatest
  exact (Option.some.inj hlatest).symm

/-- The link drawn at a place sorts behind no link of the task. -/
def SortsLast (s : SqliteStore) (workspaceId queueTaskId : String) (d : Draws) (i : ℕ) : Prop :=
  ∀ a ∈ s.agentQueueTaskRunLinks, a.workspaceId = workspaceId → a.queueTaskId = queueTaskId →
    latestRunLinkOrder.rank a ≤
      toLex (d.timestamp (i + 1), toLex (d.timestamp (i + 1), d.placeholderId "queue_run_link_" i))

/-- The condition on a step: the clock puts a new link behind the links of the task; a start
without a workflow context and a recorded start, which do not look at the latest link,
find none that is running; and a final state that is no end names the latest link. -/
def StartsInOrder (s : SqliteStore) : Op → Prop
  | .startAssigned d input _ => ∀ n, normalizeStartAssignedAgentQueueTaskInput input = .ok n →
      SortsLast s n.workspaceId n.queueItemId d 8 ∧ (n.workflowStartContext = none →
        s.latestActiveTaskRunLink n.workspaceId n.queueItemId = none)
  | .startSelected d _ input => ∀ n, normalizeStartSelectedAgentQueueTaskLocalInput input = .ok n →
      SortsLast s n.workspaceId n.queueItemId d 3
  | .recordRunStarted d input => ∀ n, normalizeRecordRunStartedInput input = .ok n →
      SortsLast s n.workspaceId n.queueTaskId d 0 ∧
        s.latestActiveTaskRunLink n.workspaceId n.queueTaskId = none
  | .recordRunFinalStatus _ input => ∀ n, normalizeRecordRunFinalStatusInput input = .ok n →
      n.status = .running → ∀ link,
        s.getLatestAgentQueueTaskRunLink n.workspaceId n.queueTaskId = some link →
        link.directWorkRunId = n.directWorkRunId
  | _ => True

instance (s : SqliteStore) (workspaceId queueTaskId : String) (d : Draws) (i : ℕ) :
    Decidable (SortsLast s workspaceId queueTaskId d i) :=
  inferInstanceAs (Decidable (∀ a ∈ s.agentQueueTaskRunLinks, a.workspaceId = workspaceId →
    a.queueTaskId = queueTaskId → latestRunLinkOrder.rank a ≤ _))

instance (s : SqliteStore) (op : Op) : Decidable (StartsInOrder s op) := by
  rcases op <;> dsimp only [StartsInOrder] <;> infer_instance

/-- A start under the condition meets no running link, and its link sorts last. -/
theorem StartsLink.inOrder {s : SqliteStore} {op : Op} {link : AgentQueueTaskRunLinkRow}
    (h : StartsLink s op link) (hcond : StartsInOrder s op) :
    s.latestActiveTaskRunLink link.workspaceId link.queueTaskId = none ∧
      ∀ a ∈ s.agentQueueTaskRunLinks, a.workspaceId = link.workspaceId →
        a.queueTaskId = link.queueTaskId →
        latestRunLinkOrder.rank a ≤ latestRunLinkOrder.rank link := by
  cases h with
  | @assigned _ _ _ n _ _ hn htask hidle =>
    obtain ⟨hlast, hplain⟩ := hcond n hn
    refine ⟨?_, hlast⟩
    cases hcontext : n.workflowStartContext with
    | none => exact hplain hcontext
    | some context => exact hidle (by simp [hcontext])
  | selected hn hidle htask => exact ⟨hidle, hcond _ hn⟩
  | recorded hn => exact ⟨(hcond _ hn).2, (hcond _ hn).1⟩

theorem runningIsLatest_perform {s : SqliteStore} {op : Op} (h : RunningIsLatest s)
    (hcond : StartsInOrder s op) : RunningIsLatest (perform s op) := by
  have heffect := linkEffect_perform s op
  generalize perform s op = t at heffect
  intro link hlink hrunning
  cases heffect with
  | kept hlinks =>
    rw [SqliteStore.getLatestAgentQueueTaskRunLink, hlinks]
    exact h link (hlinks ▸ hlink) hrunning
  | @started _ _ new hop hins =>
    obtain ⟨hidle, hlast⟩ := hop.inOrder hcond
    rcases (Table.mem_insert hins link).1 hlink with hold | rfl
    · have hlatest := h link hold hrunning
      have hother :
          ¬ (new.workspaceId = link.workspaceId ∧ new.queueTaskId = link.queueTaskId) := by
        rintro ⟨hws, htask⟩
        rw [hws, htask] at hidle
        exact latestActiveTaskRunLink_eq_none.1 hidle link hlatest hrunning
      rw [getLatest_of_insert_other hins hother]
      exact hlatest
    · exact getLatest_of_insert hins hlast
  | @ended _ _ workspaceId queueTaskId runId update hstatus hlinks =>
    rw [hlinks] at hlink
    obtain ⟨old, hold, rfl⟩ := Table.mem_update.1 hlink
    rw [getLatest_of_update hlinks]
    by_cases hsel : (old.workspaceId == workspaceId && old.queueTaskId == queueTaskId &&
        old.directWorkRunId == runId) = true
    · -- the run is recorded as running again, so it is the latest one
      rw [if_pos hsel] at hrunning ⊢
      obtain ⟨d, input, n, rfl, hn, hnRunning, rfl, rfl, rfl⟩ := hstatus hrunning
      have hmatch := hsel
      simp only [Bool.and_eq_true, beq_iff_eq] at hmatch
      obtain ⟨latest, hlatest⟩ := Table.exists_latest latestRunLinkOrder hold
        (p := fun r => r.workspaceId == n.workspaceId && r.queueTaskId == n.queueTaskId)
        (by simp [hmatch])
      have hrun := hcond n hn hnRunning latest hlatest
      have hsame : latest = old :=
        Table.eq_of_clash (getLatestAgentQueueTaskRunLink_eq_some.1 hlatest).1 hold
          ⟨("direct_work_run_id", [old.directWorkRunId]), by simp [Row.keys, hrun, hmatch.2],
            by simp [Row.keys]⟩
      have holdLatest : s.getLatestAgentQueueTaskRunLink old.workspaceId old.queueTaskId =
          some old := by
        rw [hmatch.1.1, hmatch.1.2, ← hsame]
        exact hlatest
      change (s.getLatestAgentQueueTaskRunLink old.workspaceId old.queueTaskId).map _ = _
      rw [holdLatest, Option.map_some, if_pos hsel]
    · rw [if_neg hsel] at hrunning ⊢
      rw [h old hold hrunning, Option.map_some, if_neg hsel]
  | @deleted _ _ n _ hn hlinks =>
    rw [hlinks] at hlink
    obtain ⟨hold, hother⟩ := Table.mem_delete.1 hlink
    rw [getLatest_of_delete_other hlinks (by simpa using hother)]
    exact h link hold hrunning

/-- **Each task has at most one running link** after every history whose steps start runs
in order. -/
theorem one_running_link {s : SqliteStore} (hs : Empty s) {history : List Op}
    (hcond : Along perform StartsInOrder s history) :
    OneRunningLink (after perform s history) := by
  have hempty : RunningIsLatest s := fun link hlink => absurd hlink (hs.runLinks link)
  exact (invariant_after (fun _ _ hinv hstep => runningIsLatest_perform hinv hstep)
    hempty hcond).oneRunningLink

/-- A run that is reported before the next one starts. -/
def twoRunsInOrder : List Op :=
  firstTaskQueued ++ [startFirstTask 2,
    reportFirstTask 3 "queue-run_2000000002_2" "not_completed", startFirstTask 4]

theorem one_running_link_twoRunsInOrder :
    OneRunningLink (after perform (oneWorkspace "w") twoRunsInOrder) :=
  one_running_link (empty_oneWorkspace "w") (by decide +kernel)

/-- A run that is recorded while another one is going on. -/
def recordedBesideRunning : List Op :=
  firstTaskQueued ++ [startFirstTask 2, .recordRunStarted (drawsAt 3)
    ⟨"w", firstTask, queueLocalBackendExecutionTargetId, "other_run", .manual⟩]

/-- The record does not look at the link that is running. -/
theorem two_running_links_recordedBesideRunning :
    ¬ OneRunningLink (after perform (oneWorkspace "w") recordedBesideRunning) := by
  have htwo : ∃ a ∈ (after perform (oneWorkspace "w")
        recordedBesideRunning).agentQueueTaskRunLinks,
      ∃ b ∈ (after perform (oneWorkspace "w") recordedBesideRunning).agentQueueTaskRunLinks,
        a.workspaceId = b.workspaceId ∧ a.queueTaskId = b.queueTaskId ∧
        a.status = "running" ∧ b.status = "running" ∧ a ≠ b := by
    decide +kernel
  obtain ⟨a, ha, b, hb, hws, htask, hrunA, hrunB, hne⟩ := htwo
  intro h
  exact hne (h a ha b hb hws htask hrunA hrunB)

end HobitQueue
