import HobitQueue.Queue.RunLinks

/-!
# Tasks in step with their runs

The state of a task and the state of its latest link are written side by side: a start
marks both as running, and the end of a run ends both. But the end of a run names the
run, not the latest one, and takes the task out of its running state whichever run it
names. So the two stay in step as long as the calls that end a run name the run that
is going on.
-/

namespace HobitQueue

open Concurrent StoreProg Relational Machine

/-- A task is running if and only if its latest link is. -/
def InStep (s : SqliteStore) : Prop :=
  ∀ task ∈ s.agentQueueTasks, task.status = "running" ↔
    (s.latestActiveTaskRunLink task.workspaceId task.queueItemId).isSome = true

instance (s : SqliteStore) : Decidable (InStep s) :=
  inferInstanceAs (Decidable (∀ task ∈ s.agentQueueTasks, _ ↔ _))

theorem isSome_latestActiveTaskRunLink {s : SqliteStore} {workspaceId queueItemId : String} :
    (s.latestActiveTaskRunLink workspaceId queueItemId).isSome = true ↔
      ∃ link, s.getLatestAgentQueueTaskRunLink workspaceId queueItemId = some link ∧
        link.status = "running" := by
  unfold SqliteStore.latestActiveTaskRunLink
  cases s.getLatestAgentQueueTaskRunLink workspaceId queueItemId with
  | none => simp
  | some link => simp [Option.filter, Option.isSome_iff_exists, AgentQueueTaskRunStatus.asStr]

/-- The start and the retry of runs, and the calls that end them. -/
def Op.DrivesRuns : Op → Bool
  | .startAssigned .. | .startSelected .. | .finishAssigned .. | .recoverStale ..
  | .recordWorkerFinished .. => true
  | _ => false

/-- The run that is going on for the task, if there is one, is the named one. -/
def NamesActiveRun (s : SqliteStore) (workspaceId queueItemId runId : String) : Prop :=
  ∀ link ∈ s.latestActiveTaskRunLink workspaceId queueItemId, link.directWorkRunId = runId

instance (s : SqliteStore) (workspaceId queueItemId runId : String) :
    Decidable (NamesActiveRun s workspaceId queueItemId runId) :=
  inferInstanceAs (Decidable (∀ link ∈ s.latestActiveTaskRunLink _ _, _))

/-- The condition on a step: the clock puts a new link behind the links of the task, and
the end of a run names the run that is going on. -/
def EndsActiveRun (s : SqliteStore) : Op → Prop
  | .startAssigned d input _ => ∀ n, normalizeStartAssignedAgentQueueTaskInput input = .ok n →
      SortsLast s n.workspaceId n.queueItemId d 8
  | .startSelected d _ input => ∀ n, normalizeStartSelectedAgentQueueTaskLocalInput input = .ok n →
      SortsLast s n.workspaceId n.queueItemId d 3
  | .finishAssigned _ input => ∀ n, normalizeFinishAssignedAgentQueueTaskRunInput input = .ok n →
      NamesActiveRun s n.workspaceId n.queueItemId n.runId
  | .recoverStale _ input => ∀ n, normalizeRecoverStaleQueueLocalRunInput input = .ok n →
      NamesActiveRun s n.workspaceId n.queueItemId n.runId
  | .recordWorkerFinished _ input => ∀ n,
      normalizeRecordAgentQueueWorkerFinishedInput input = .ok n →
      NamesActiveRun s n.workspaceId n.queueItemId n.runId
  | _ => True

instance (s : SqliteStore) (op : Op) : Decidable (EndsActiveRun s op) := by
  rcases op <;> dsimp only [EndsActiveRun] <;> infer_instance

/-! ## One step -/

/-- A start whose link sorts last puts the task and its latest link in the running state. -/
theorem InStep.launched {s t : SqliteStore} {link : AgentQueueTaskRunLinkRow} {updatedAt : String}
    (h : InStep s) (hlaunched : Launched link updatedAt s t) (hrunning : link.status = "running")
    (hlast : ∀ a ∈ s.agentQueueTaskRunLinks, a.workspaceId = link.workspaceId →
      a.queueTaskId = link.queueTaskId →
      latestRunLinkOrder.rank a ≤ latestRunLinkOrder.rank link) : InStep t := by
  obtain ⟨links', _, _, _, _, hins, _, _, ht⟩ := hlaunched
  have hlinks : s.agentQueueTaskRunLinks.insert link = some t.agentQueueTaskRunLinks := by
    rw [ht, hins]
  have htasks : t.agentQueueTasks = s.agentQueueTasks.update
      (fun r => r.workspaceId == link.workspaceId && r.queueItemId == link.queueTaskId)
      (markRunning updatedAt) fun _ => rfl := by rw [ht]
  intro task htask
  rw [htasks] at htask
  obtain ⟨old, hold, hrow⟩ := Table.mem_update.1 htask
  rcases rewritten_or_same hrow with ⟨hws, hid, rfl⟩ | ⟨hother, rfl⟩
  · rw [isSome_latestActiveTaskRunLink]
    refine iff_of_true rfl ⟨link, ?_, hrunning⟩
    simp only [markRunning]
    rw [hws, hid]
    exact getLatest_of_insert hlinks hlast
  · rw [h task hold, isSome_latestActiveTaskRunLink, isSome_latestActiveTaskRunLink,
      getLatest_of_insert_other hlinks fun hsame => hother ⟨hsame.1.symm, hsame.2.symm⟩]

/-- The end of the run that is going on takes both out of the running state. -/
theorem InStep.ended {s t : SqliteStore} {workspaceId queueItemId runId status updatedAt : String}
    {update : AgentQueueTaskRunLinkFinalUpdate} (h : InStep s)
    (hactive : NamesActiveRun s workspaceId queueItemId runId) (hstatus : status ≠ "running")
    (hupdate : update.status ≠ "running")
    (htasks : t.agentQueueTasks = s.agentQueueTasks.update
      (fun r => r.workspaceId == workspaceId && r.queueItemId == queueItemId)
      (setStatus status updatedAt) fun _ => rfl)
    (hlinks : t.agentQueueTaskRunLinks = s.agentQueueTaskRunLinks.update
      (fun r => r.workspaceId == workspaceId && r.queueTaskId == queueItemId &&
        r.directWorkRunId == runId) update.apply fun _ => rfl) : InStep t := by
  intro task htask
  rw [htasks] at htask
  obtain ⟨old, hold, hrow⟩ := Table.mem_update.1 htask
  rcases rewritten_or_same hrow with ⟨hws, hid, rfl⟩ | ⟨hother, rfl⟩
  · refine iff_of_false hstatus ?_
    rw [isSome_latestActiveTaskRunLink]
    rintro ⟨link, hlatest, hrunning⟩
    simp only [setStatus, hws, hid] at hlatest
    rw [getLatest_of_update hlinks, Option.map_eq_some_iff] at hlatest
    obtain ⟨latest, hlatest, rfl⟩ := hlatest
    obtain ⟨-, hkey, -⟩ := getLatestAgentQueueTaskRunLink_eq_some.1 hlatest
    by_cases hrun : latest.directWorkRunId = runId
    · rw [if_pos (by simp [hkey, hrun])] at hrunning
      exact hupdate hrunning
    · rw [if_neg (by simp [hrun])] at hrunning
      have hbusy : s.latestActiveTaskRunLink workspaceId queueItemId = some latest := by
        simp [SqliteStore.latestActiveTaskRunLink, hlatest, hrunning,
          AgentQueueTaskRunStatus.asStr]
      exact hrun (hactive latest hbusy)
  · rw [h task hold, isSome_latestActiveTaskRunLink, isSome_latestActiveTaskRunLink,
      getLatest_of_update hlinks]
    cases hlatest : s.getLatestAgentQueueTaskRunLink task.workspaceId task.queueItemId with
    | none => simp
    | some latest =>
      obtain ⟨-, hkey, -⟩ := getLatestAgentQueueTaskRunLink_eq_some.1 hlatest
      have hsel : (latest.workspaceId == workspaceId && latest.queueTaskId == queueItemId &&
          latest.directWorkRunId == runId) = false := by
        by_contra hmatch
        simp only [Bool.not_eq_false, Bool.and_eq_true, beq_iff_eq, hkey] at hmatch
        exact hother hmatch.1
      rw [Option.map_some, if_neg (by simp [hsel])]

theorem inStep_perform {s : SqliteStore} {op : Op} (h : InStep s) (hop : op.DrivesRuns = true)
    (hcond : EndsActiveRun s op) : InStep (perform s op) := by
  have heffect := perform_effect s op
  generalize perform s op = t at heffect
  cases heffect with
  | idle => exact h
  | bookkeeping hbook =>
    obtain ⟨_, _, _, rfl⟩ := hbook
    exact h
  | launched hn hlaunched => exact h.launched hlaunched rfl (hcond _ hn)
  | launchedSelected hn hlaunched => exact h.launched hlaunched rfl (hcond _ hn)
  | finished hn hfinished =>
    obtain ⟨hn', hstatus⟩ := checkedFinish_ok hn
    obtain ⟨_, _, _, rfl⟩ := hfinished
    obtain ⟨htask, hlink⟩ := finalStatus_ne_running hstatus
    exact h.ended (hcond _ hn') htask hlink rfl rfl
  | recovered hn _ _ hreported =>
    obtain ⟨-, _, _, _, _, rfl⟩ := hreported
    exact h.ended (hcond _ hn) (by decide) (show AgentQueueTaskRunStatus.failed.asStr ≠ "running"
      by decide) rfl rfl
  | reported hn hreported =>
    obtain ⟨-, _, _, _, _, rfl⟩ := hreported
    obtain ⟨htask, hlink⟩ := statusForWorkerOutcome_ne_running _
    exact h.ended (hcond _ hn) htask hlink rfl rfl
  | reassigned hreassigns =>
    cases op <;> cases hreassigns <;> cases hop
  | _ => cases hop

/-- **A task is running if and only if its latest link is**, after every sequence of
starts and ends of runs that name the run that is going on. -/
theorem in_step_after {s : SqliteStore} (hs : InStep s) {history : List Op}
    (hcond : Along perform (fun s op => op.DrivesRuns = true ∧ EndsActiveRun s op) s history) :
    InStep (after perform s history) :=
  invariant_after (fun _ _ hinv hstep => inStep_perform hinv hstep.1 hstep.2) hs hcond

/-- Two runs of a task, each reported while it is going on. -/
def reportsInStep : List Op :=
  [startFirstTask 2, reportFirstTask 3 "queue-run_2000000002_2" "not_completed",
    startFirstTask 4, reportFirstTask 5 "queue-run_4000000002_2" "completed"]

theorem in_step_after_reportsInStep :
    InStep (after perform (after perform (oneWorkspace "w") firstTaskQueued) reportsInStep) :=
  in_step_after (by decide +kernel) (by decide +kernel)

/-- The first run is reported a second time while the second one is going on. -/
def lateReport : List Op :=
  [startFirstTask 2, reportFirstTask 3 "queue-run_2000000002_2" "not_completed",
    startFirstTask 4, reportFirstTask 5 "queue-run_2000000002_2" "failed"]

/-- The late report takes the task out of the running state, but not its latest link. -/
theorem not_in_step_lateReport :
    InStep (after perform (oneWorkspace "w") firstTaskQueued) ∧
      (∀ op ∈ lateReport, op.DrivesRuns = true) ∧
      ¬ InStep (after perform (after perform (oneWorkspace "w") firstTaskQueued) lateReport) := by
  decide +kernel

end HobitQueue
