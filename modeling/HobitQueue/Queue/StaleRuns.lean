import HobitQueue.Queue.InStep
import HobitQueue.Service.FinishChecks

/-!
# Stale runs of the local backend

The operator is shown the runs of the local backend that have been going on for long without
evidence, and gives one of them up. The listing and the command check the same conditions,
the listing by loops over the tasks and their links, the command by the ids it is given.

## Main results

* `mem_listedStaleRuns` — the listing shows the stale runs and nothing else.
* `exec_recover_of_stale` — a stale run is recovered.
* `stale_candidate_recoverable` — every candidate of the listing can be recovered.
-/

namespace HobitQueue

open Concurrent StoreProg Relational Machine

def defaultStaleQueueLocalMinAgeSeconds : ℕ := 2 * 60 * 60
def staleQueueLocalRunReasonCode : String := "stale_running_queue_local"

structure ListStaleQueueLocalRunsInput where
  workspaceId : String
  minAgeSeconds : Option ℕ

structure QueueStaleRunCandidateSummary where
  workspaceId : String
  queueItemId : String
  taskTitle : String
  runId : String
  runLinkId : String
  executorWidgetId : String
  source : String
  taskStatus : String
  runLinkStatus : String
  startedAt : String
  ageSeconds : ℕ
  reasonCode : String
  deriving DecidableEq

/-! ## The listing -/

def SqliteStore.listAgentQueueTaskRunLinks (s : SqliteStore) (workspaceId queueTaskId : String) :
    List AgentQueueTaskRunLinkRow :=
  s.agentQueueTaskRunLinks.select
    (fun r => r.workspaceId == workspaceId && r.queueTaskId == queueTaskId) latestRunLinkOrder

/-- The summary of a stale run of the given age. -/
def staleRunCandidate (workspaceId : String) (task : AgentQueueTaskRow)
    (link : AgentQueueTaskRunLinkRow) (age : ℕ) : QueueStaleRunCandidateSummary :=
  { workspaceId := workspaceId
    queueItemId := task.queueItemId
    taskTitle := task.title
    runId := link.directWorkRunId
    runLinkId := link.linkId
    executorWidgetId := link.executorWidgetId
    source := link.source
    taskStatus := task.status
    runLinkStatus := link.status
    startedAt := link.startedAt
    ageSeconds := age
    reasonCode := staleQueueLocalRunReasonCode }

section Listing

/- The age of a run in seconds, of the time it was started at: the floating point number that
the text is read as is compared with the clock. -/
variable (timestampAgeSeconds : String → Option ℕ)

/-- The inner loop: the links of one task. -/
def staleRunsOfLink (workspaceId : String) (minAge : ℕ) (task : AgentQueueTaskRow)
    (link : AgentQueueTaskRunLinkRow) : Service (List QueueStaleRunCandidateSummary) :=
  if link.executorWidgetId != queueLocalBackendExecutionTargetId ||
      link.status != AgentQueueTaskRunStatus.running.asStr then pure []
  else
    match timestampAgeSeconds link.startedAt with
    | none => pure []
    | some age =>
        if age < minAge then pure []
        else do
          let bundle ← query fun s => s.getAgentQueueWorkerEvidenceBundle workspaceId
            task.queueItemId link.directWorkRunId
          if bundle.isSome then pure []
          else pure [staleRunCandidate workspaceId task link age]

/-- The outer loop: the tasks of the workspace. -/
def staleRunsOfTask (workspaceId : String) (minAge : ℕ) (task : AgentQueueTaskRow) :
    Service (List QueueStaleRunCandidateSummary) :=
  if task.status != AgentQueueTaskLifecycleStatus.running.asStr ||
      task.assignedExecutorWidgetId.isSome then pure []
  else do
    let links ← query fun s => s.listAgentQueueTaskRunLinks workspaceId task.queueItemId
    collect (staleRunsOfLink timestampAgeSeconds workspaceId minAge task) links

/-- The oldest run first, then by task and link. -/
def staleRunOrder (left right : QueueStaleRunCandidateSummary) : Prop :=
  right.ageSeconds < left.ageSeconds ∨ left.ageSeconds = right.ageSeconds ∧
    (left.queueItemId < right.queueItemId ∨ left.queueItemId = right.queueItemId ∧
      left.runLinkId ≤ right.runLinkId)

instance : DecidableRel staleRunOrder := fun left right =>
  inferInstanceAs (Decidable (right.ageSeconds < left.ageSeconds ∨ _ ∧ (_ ∨ _ ∧ _)))

/-- The runs that are listed as stale. -/
def listStaleQueueLocalRuns (input : ListStaleQueueLocalRunsInput) :
    Service (List QueueStaleRunCandidateSummary) := do
  let workspaceId ← check (requiredInput input.workspaceId "workspace id")
  let workspace ← query fun s => s.getWorkspace workspaceId
  failIf workspace.isNone (.invalidInput ("workspace not found: " ++ workspaceId))
  let minAge := input.minAgeSeconds.getD defaultStaleQueueLocalMinAgeSeconds
  let tasks ← query fun s => s.listAgentQueueTasks workspaceId
  let candidates ← collect (staleRunsOfTask timestampAgeSeconds workspaceId minAge) tasks
  pure (candidates.insertionSort staleRunOrder)

/-- The candidates the operator is shown; a listing that fails shows none. -/
def listedStaleRuns (input : ListStaleQueueLocalRunsInput) (s : SqliteStore) :
    List QueueStaleRunCandidateSummary :=
  ((exec (listStaleQueueLocalRuns timestampAgeSeconds input) s).1.toOption).getD []

/-- The task and the link are those of a run of the local backend that is going on without
evidence. -/
structure SqliteStore.IsStale (s : SqliteStore) (workspaceId : String) (task : AgentQueueTaskRow)
    (link : AgentQueueTaskRunLinkRow) : Prop where
  workspace : (s.getWorkspace workspaceId).isSome
  task_mem : task ∈ s.agentQueueTasks
  task_workspace : task.workspaceId = workspaceId
  task_running : task.status = AgentQueueTaskLifecycleStatus.running.asStr
  unassigned : task.assignedExecutorWidgetId = none
  link_mem : link ∈ s.agentQueueTaskRunLinks
  link_workspace : link.workspaceId = workspaceId
  link_task : link.queueTaskId = task.queueItemId
  link_local : link.executorWidgetId = queueLocalBackendExecutionTargetId
  link_running : link.status = AgentQueueTaskRunStatus.running.asStr
  no_evidence : s.getAgentQueueWorkerEvidenceBundle workspaceId task.queueItemId
    link.directWorkRunId = none

variable {timestampAgeSeconds} {s : SqliteStore}

/-- What the round of one link adds to the listing. -/
def SqliteStore.staleRunsAt (s : SqliteStore) (timestampAgeSeconds : String → Option ℕ)
    (workspaceId : String) (minAge : ℕ) (task : AgentQueueTaskRow)
    (link : AgentQueueTaskRunLinkRow) : List QueueStaleRunCandidateSummary :=
  match timestampAgeSeconds link.startedAt with
  | none => []
  | some age =>
      if link.executorWidgetId = queueLocalBackendExecutionTargetId ∧
          link.status = AgentQueueTaskRunStatus.running.asStr ∧ minAge ≤ age ∧
          s.getAgentQueueWorkerEvidenceBundle workspaceId task.queueItemId link.directWorkRunId =
            none then [staleRunCandidate workspaceId task link age]
      else []

theorem staleRunsOfLink_answers (workspaceId : String) (minAge : ℕ) (task : AgentQueueTaskRow)
    (link : AgentQueueTaskRunLinkRow) :
    (staleRunsOfLink timestampAgeSeconds workspaceId minAge task link).Answers s
      (some (s.staleRunsAt timestampAgeSeconds workspaceId minAge task link)) := by
  unfold staleRunsOfLink SqliteStore.staleRunsAt
  by_cases hlocal : link.executorWidgetId = queueLocalBackendExecutionTargetId
  · by_cases hrunning : link.status = AgentQueueTaskRunStatus.running.asStr
    · simp only [hlocal, hrunning, bne_self_eq_false, Bool.or_self, Bool.false_eq_true, if_false,
        true_and]
      cases timestampAgeSeconds link.startedAt with
      | none => exact answers_pure _
      | some age =>
        by_cases hage : age < minAge
        · simp only [hage, if_true]
          refine (answers_pure _).of_eq ?_
          rw [if_neg (by omega)]
        · simp only [hage, if_false]
          refine Answers.query_bind ?_
          cases hbundle : s.getAgentQueueWorkerEvidenceBundle workspaceId task.queueItemId
              link.directWorkRunId with
          | none =>
            refine (answers_pure _).of_eq ?_
            rw [if_pos ⟨by omega, rfl⟩]
          | some bundle =>
            refine (answers_pure _).of_eq ?_
            rw [if_neg (by simp)]
    · simp only [hrunning, bne_iff_ne, ne_eq, not_false_eq_true, Bool.or_eq_true, or_true, if_true,
        false_and, and_false, if_false]
      refine (answers_pure _).of_eq ?_
      cases timestampAgeSeconds link.startedAt <;> rfl
  · simp only [hlocal, bne_iff_ne, ne_eq, not_false_eq_true, Bool.or_eq_true, true_or, if_true,
      false_and, if_false]
    refine (answers_pure _).of_eq ?_
    cases timestampAgeSeconds link.startedAt <;> rfl

theorem staleRunsOfTask_answers (workspaceId : String) (minAge : ℕ) (task : AgentQueueTaskRow) :
    (staleRunsOfTask timestampAgeSeconds workspaceId minAge task).Answers s
      (some (if task.status = AgentQueueTaskLifecycleStatus.running.asStr ∧
          task.assignedExecutorWidgetId = none then
        (s.listAgentQueueTaskRunLinks workspaceId task.queueItemId).flatMap
          (s.staleRunsAt timestampAgeSeconds workspaceId minAge task)
      else [])) := by
  unfold staleRunsOfTask
  by_cases hrunning : task.status = AgentQueueTaskLifecycleStatus.running.asStr
  · cases hassigned : task.assignedExecutorWidgetId with
    | none =>
      simp only [hrunning, bne_self_eq_false, Option.isSome_none, Bool.or_self,
        Bool.false_eq_true, if_false, and_self, if_true]
      exact Answers.query_bind (answers_collect (staleRunsOfLink_answers _ _ _) _)
    | some executor =>
      simp only [Option.isSome_some, Bool.or_true, if_true, reduceCtorEq, and_false, if_false]
      exact answers_pure _
  · simp only [hrunning, bne_iff_ne, ne_eq, not_false_eq_true, Bool.or_eq_true, true_or, if_true,
      false_and, if_false]
    exact answers_pure _

/-- What the loops find in a workspace. -/
def SqliteStore.staleRuns (s : SqliteStore) (timestampAgeSeconds : String → Option ℕ)
    (workspaceId : String) (minAge : ℕ) : List QueueStaleRunCandidateSummary :=
  (s.listAgentQueueTasks workspaceId).flatMap fun task =>
    if task.status = AgentQueueTaskLifecycleStatus.running.asStr ∧
        task.assignedExecutorWidgetId = none then
      (s.listAgentQueueTaskRunLinks workspaceId task.queueItemId).flatMap
        (s.staleRunsAt timestampAgeSeconds workspaceId minAge task)
    else []

theorem listedStaleRuns_eq (input : ListStaleQueueLocalRunsInput) :
    listedStaleRuns timestampAgeSeconds input s =
      if Text.trim input.workspaceId = "" ∨
          s.getWorkspace (Text.trim input.workspaceId) = none then []
      else (s.staleRuns timestampAgeSeconds (Text.trim input.workspaceId)
        (input.minAgeSeconds.getD defaultStaleQueueLocalMinAgeSeconds)).insertionSort
          staleRunOrder := by
  unfold listedStaleRuns listStaleQueueLocalRuns
  rw [exec_check_bind]
  by_cases hblank : Text.trim input.workspaceId = ""
  · simp only [requiredInput, hblank, if_true, true_or]
    rfl
  · simp only [requiredInput, hblank, if_false, false_or, exec_query_bind, exec_failIf_bind]
    by_cases hnone : s.getWorkspace (Text.trim input.workspaceId) = none
    · simp only [hnone, Option.isNone_none, if_true]
      rfl
    · have hsome : (s.getWorkspace (Text.trim input.workspaceId)).isNone = false := by
        rw [Option.isNone_eq_false_iff, Option.isSome_iff_ne_none]
        exact hnone
      simp only [hsome, Bool.false_eq_true, if_false, hnone]
      rw [(answers_collect (staleRunsOfTask_answers _ _) _).exec_bind_some]
      rfl

theorem mem_staleRunsAt {workspaceId : String} {minAge : ℕ} {task : AgentQueueTaskRow}
    {link : AgentQueueTaskRunLinkRow} {c : QueueStaleRunCandidateSummary} :
    c ∈ s.staleRunsAt timestampAgeSeconds workspaceId minAge task link ↔
      ∃ age, timestampAgeSeconds link.startedAt = some age ∧ minAge ≤ age ∧
        link.executorWidgetId = queueLocalBackendExecutionTargetId ∧
        link.status = AgentQueueTaskRunStatus.running.asStr ∧
        s.getAgentQueueWorkerEvidenceBundle workspaceId task.queueItemId link.directWorkRunId =
          none ∧ c = staleRunCandidate workspaceId task link age := by
  unfold SqliteStore.staleRunsAt
  cases timestampAgeSeconds link.startedAt with
  | none => simp
  | some age =>
    simp only [Option.some.injEq, exists_eq_left']
    split_ifs with hstale
    · obtain ⟨hlocal, hrunning, hage, hnone⟩ := hstale
      simp [hlocal, hrunning, hage, hnone]
    · simp only [List.not_mem_nil, false_iff]
      rintro ⟨hage, hlocal, hrunning, hnone, -⟩
      exact hstale ⟨hlocal, hrunning, hage, hnone⟩

/-- **The listing shows the stale runs that are old enough, and nothing else.** -/
theorem mem_listedStaleRuns {input : ListStaleQueueLocalRunsInput}
    {c : QueueStaleRunCandidateSummary} :
    c ∈ listedStaleRuns timestampAgeSeconds input s ↔
      Text.trim input.workspaceId ≠ "" ∧ ∃ task link age,
        s.IsStale (Text.trim input.workspaceId) task link ∧
        timestampAgeSeconds link.startedAt = some age ∧
        input.minAgeSeconds.getD defaultStaleQueueLocalMinAgeSeconds ≤ age ∧
        c = staleRunCandidate (Text.trim input.workspaceId) task link age := by
  rw [listedStaleRuns_eq]
  by_cases hblank : Text.trim input.workspaceId = ""
  · simp [hblank]
  by_cases hworkspace : s.getWorkspace (Text.trim input.workspaceId) = none
  · simp only [hworkspace, or_true, if_true, List.not_mem_nil, false_iff, not_and, not_exists]
    rintro - task link age hstale
    have hsome := hstale.workspace
    rw [hworkspace] at hsome
    cases hsome
  have hsome : (s.getWorkspace (Text.trim input.workspaceId)).isSome := by
    simpa [Option.isSome_iff_ne_none] using hworkspace
  rw [if_neg (by simp [hblank, hworkspace]), (List.perm_insertionSort _ _).mem_iff]
  simp only [SqliteStore.staleRuns, List.mem_flatMap, SqliteStore.listAgentQueueTasks,
    Table.mem_select, beq_iff_eq, ne_eq, hblank, not_false_eq_true, true_and]
  constructor
  · rintro ⟨task, ⟨htask, hws⟩, hc⟩
    split_ifs at hc with hopen
    · obtain ⟨link, hlink, hc⟩ := List.mem_flatMap.1 hc
      simp only [SqliteStore.listAgentQueueTaskRunLinks, Table.mem_select, Bool.and_eq_true,
        beq_iff_eq] at hlink
      obtain ⟨age, hage, hmin, hlocal, hrunning, hnone, rfl⟩ := mem_staleRunsAt.1 hc
      exact ⟨task, link, age, ⟨hsome, htask, hws, hopen.1, hopen.2, hlink.1, hlink.2.1,
        hlink.2.2, hlocal, hrunning, hnone⟩, hage, hmin, rfl⟩
    · cases hc
  · rintro ⟨task, link, age, hstale, hage, hmin, rfl⟩
    refine ⟨task, ⟨hstale.task_mem, hstale.task_workspace⟩, ?_⟩
    rw [if_pos ⟨hstale.task_running, hstale.unassigned⟩]
    refine List.mem_flatMap.2 ⟨link, ?_, mem_staleRunsAt.2 ⟨age, hage, hmin, hstale.link_local,
      hstale.link_running, hstale.no_evidence, rfl⟩⟩
    simp only [SqliteStore.listAgentQueueTaskRunLinks, Table.mem_select, Bool.and_eq_true,
      beq_iff_eq]
    exact ⟨hstale.link_mem, hstale.link_workspace, hstale.link_task⟩

end Listing

/-! ## The recovery -/

section Recovery

variable {s : SqliteStore} {d : Draws} {input n : RecoverStaleQueueLocalRunInput}
  {task : AgentQueueTaskRow} {link : AgentQueueTaskRunLinkRow}

/-- The bundle a recovery stores. -/
def recoveryBundle (d : Draws) (n : RecoverStaleQueueLocalRunInput) :
    AgentQueueWorkerEvidenceBundleRow :=
  staleRecoveryBundle n (d.placeholderId "queue_worker_evidence_" 1) (d.timestamp 0)

/-- The answer of a recovery. -/
def recoveryResult (d : Draws) (n : RecoverStaleQueueLocalRunInput) :
    RecoverStaleQueueLocalRunResult :=
  { workspaceId := n.workspaceId
    queueItemId := n.queueItemId
    runId := n.runId
    runLinkId := n.runLinkId
    reason := n.reason
    taskStatus := AgentQueueTaskLifecycleStatus.failed.asStr
    runLinkStatus := AgentQueueTaskRunStatus.failed.asStr
    evidenceBundleId := (recoveryBundle d n).bundleId }

/-- The store after a recovery: the task and the links of the run have failed. -/
def SqliteStore.gaveUp (s : SqliteStore) (d : Draws) (n : RecoverStaleQueueLocalRunInput)
    (bundles : Table AgentQueueWorkerEvidenceBundleRow) : SqliteStore :=
  { s with
    agentQueueTasks := s.agentQueueTasks.update
      (fun r => r.workspaceId == n.workspaceId && r.queueItemId == n.queueItemId)
      (setStatus AgentQueueTaskLifecycleStatus.failed.asStr (d.timestamp 0)) fun _ => rfl
    agentQueueTaskRunLinks := s.agentQueueTaskRunLinks.update
      (fun r => r.workspaceId == n.workspaceId && r.queueTaskId == n.queueItemId &&
        r.directWorkRunId == n.runId)
      (workerFinishedLinkUpdate AgentQueueTaskRunStatus.failed.asStr (d.timestamp 0)).apply
      fun _ => rfl
    agentQueueWorkerEvidenceBundles := bundles
    workspaces := s.workspaces.update (·.id == n.workspaceId)
      (fun r => { r with updatedAt := d.timestamp 2 }) fun _ => rfl }

/-- A link found by a run is the row with the run. -/
theorem getAgentQueueTaskRunLink_eq_some {workspaceId linkId : String} :
    s.getAgentQueueTaskRunLink workspaceId linkId = some link ↔
      link ∈ s.agentQueueTaskRunLinks ∧ link.workspaceId = workspaceId ∧ link.linkId = linkId := by
  unfold SqliteStore.getAgentQueueTaskRunLink
  rw [Table.find_eq_some]
  · simp
  · intro a b ha hb
    simp only [Bool.and_eq_true, beq_iff_eq] at ha hb
    exact ⟨("link_id", [a.linkId]), by simp [Row.keys], by simp [Row.keys, ha, hb]⟩

theorem getAgentQueueTaskRunLinkByRunId_eq_some {workspaceId runId : String} :
    s.getAgentQueueTaskRunLinkByRunId workspaceId runId = some link ↔
      link ∈ s.agentQueueTaskRunLinks ∧ link.workspaceId = workspaceId ∧
        link.directWorkRunId = runId := by
  unfold SqliteStore.getAgentQueueTaskRunLinkByRunId
  rw [Table.find_eq_some]
  · simp
  · intro a b ha hb
    simp only [Bool.and_eq_true, beq_iff_eq] at ha hb
    exact ⟨("direct_work_run_id", [a.directWorkRunId]), by simp [Row.keys],
      by simp [Row.keys, ha, hb]⟩

/-- The row of a task whose state is written. -/
theorem mem_setStatus {workspaceId queueItemId status updatedAt : String}
    (hmem : task ∈ s.agentQueueTasks) (hws : task.workspaceId = workspaceId)
    (hid : task.queueItemId = queueItemId) :
    setStatus status updatedAt task ∈ s.agentQueueTasks.update
      (fun r => r.workspaceId == workspaceId && r.queueItemId == queueItemId)
      (setStatus status updatedAt) fun _ => rfl := by
  refine @Table.mem_update_of_pos _ _ _ _ (setStatus status updatedAt) (fun _ => rfl) _ hmem ?_
  simp [hws, hid]

/-- The row of a link whose run has ended. -/
theorem mem_rewrittenLink {workspaceId queueTaskId runId : String}
    {update : AgentQueueTaskRunLinkFinalUpdate} (hmem : link ∈ s.agentQueueTaskRunLinks)
    (hws : link.workspaceId = workspaceId) (htask : link.queueTaskId = queueTaskId)
    (hrun : link.directWorkRunId = runId) :
    update.apply link ∈ s.agentQueueTaskRunLinks.update
      (fun r => r.workspaceId == workspaceId && r.queueTaskId == queueTaskId &&
        r.directWorkRunId == runId) update.apply fun _ => rfl := by
  refine @Table.mem_update_of_pos _ _ _ _ update.apply (fun _ => rfl) _ hmem ?_
  simp [hws, htask, hrun]

/-- The row of a link that was just written is read back. -/
theorem updateAgentQueueTaskRunLinkFinalStatus_read {workspaceId queueTaskId runId : String}
    {update : AgentQueueTaskRunLinkFinalUpdate} (hmem : link ∈ s.agentQueueTaskRunLinks)
    (hws : link.workspaceId = workspaceId) (htask : link.queueTaskId = queueTaskId)
    (hrun : link.directWorkRunId = runId) :
    s.updateAgentQueueTaskRunLinkFinalStatus workspaceId queueTaskId runId update =
      .ok (some (update.apply link), { s with
        agentQueueTaskRunLinks := s.agentQueueTaskRunLinks.update
          (fun r => r.workspaceId == workspaceId && r.queueTaskId == queueTaskId &&
            r.directWorkRunId == runId) update.apply fun _ => rfl }) := by
  have hsel : (link.workspaceId == workspaceId && link.queueTaskId == queueTaskId &&
      link.directWorkRunId == runId) = true := by simp [hws, htask, hrun]
  have hfound : (s.agentQueueTaskRunLinks.find fun r => r.workspaceId == workspaceId &&
      r.queueTaskId == queueTaskId && r.directWorkRunId == runId).isSome = true := by
    by_contra hnone
    have hall := Table.find_eq_none.1 (Option.not_isSome_iff_eq_none.1 hnone) link hmem
    rw [hsel] at hall
    cases hall
  have hnew := @mem_rewrittenLink s link _ _ _ update hmem hws htask hrun
  unfold SqliteStore.updateAgentQueueTaskRunLinkFinalStatus
  simp only [hfound, if_true]
  refine congrArg (fun row => Except.ok (row, _)) (getAgentQueueTaskRunLinkByRunId_eq_some.2 ?_)
  exact ⟨hnew, hws, hrun⟩

theorem loadStaleRunLink_answers (hstale : s.IsStale n.workspaceId task link)
    (htask : task.queueItemId = n.queueItemId) (hrun : link.directWorkRunId = n.runId)
    (hlink : link.linkId = n.runLinkId) : (loadStaleRunLink n).Answers s (some link) := by
  have hget : s.getAgentQueueTaskRunLink n.workspaceId n.runLinkId = some link :=
    getAgentQueueTaskRunLink_eq_some.2 ⟨hstale.link_mem, hstale.link_workspace, hlink⟩
  have htask' : link.queueTaskId = n.queueItemId := hstale.link_task.trans htask
  refine Answers.query_bind ?_
  rw [hget]
  refine (Answers.failIf_bind (Answers.failIf_bind (Answers.failIf_bind (Answers.failIf_bind
    (answers_pure link))))).of_eq ?_
  simp [htask', hrun, hstale.link_local, hstale.link_running]

/-- **The recovery of a stale run succeeds**, when the id that is drawn for its evidence is a
new one. -/
theorem exec_recover_of_stale (hn : normalizeRecoverStaleQueueLocalRunInput input = .ok n)
    (hstale : s.IsStale n.workspaceId task link) (htask : task.queueItemId = n.queueItemId)
    (hrun : link.directWorkRunId = n.runId) (hlink : link.linkId = n.runLinkId)
    (hfresh : ∀ bundle ∈ s.agentQueueWorkerEvidenceBundles,
      bundle.bundleId ≠ (recoveryBundle d n).bundleId) :
    ∃ bundles, s.agentQueueWorkerEvidenceBundles.insert (recoveryBundle d n) = some bundles ∧
      exec (recoverStaleQueueLocalRunFailed d input) s =
        (.ok (recoveryResult d n), s.gaveUp d n bundles) := by
  have hget : s.getAgentQueueTask n.workspaceId n.queueItemId = some task :=
    getAgentQueueTask_eq_some.2 ⟨hstale.task_mem, hstale.task_workspace, htask⟩
  have hload := loadedTask_some.2 ⟨hstale.workspace, hget⟩
  have hnone : s.getAgentQueueWorkerEvidenceBundle n.workspaceId n.queueItemId n.runId = none := by
    rw [← htask, ← hrun]
    exact hstale.no_evidence
  have hnoclash : ∀ bundle ∈ s.agentQueueWorkerEvidenceBundles,
      ¬ Clash bundle (recoveryBundle d n) := by
    rintro bundle hmem ⟨key, hkey, hkey'⟩
    have hnot := Table.find_eq_none.1 hnone bundle hmem
    simp only [Row.keys, List.mem_cons, List.not_mem_nil, or_false] at hkey hkey'
    rcases hkey with rfl | rfl
    · simp only [Prod.mk.injEq, List.cons.injEq, and_true, true_and] at hkey'
      rcases hkey' with hid | ⟨hname, -⟩
      · exact hfresh bundle hmem hid
      · exact absurd hname (by decide)
    · simp only [Prod.mk.injEq, List.cons.injEq, and_true, true_and] at hkey'
      rcases hkey' with ⟨hname, -⟩ | ⟨hws, hid, hrun'⟩
      · exact absurd hname (by decide)
      · rw [hws, hid, hrun'] at hnot
        simp [recoveryBundle, staleRecoveryBundle] at hnot
  obtain ⟨bundles, hins⟩ := Table.exists_insert hnoclash
  have hupdateTask := @updateAgentQueueTaskStatus_read s n.workspaceId n.queueItemId
    AgentQueueTaskLifecycleStatus.failed.asStr (d.timestamp 0) task hget
  let u := s.withTaskStatus n.workspaceId n.queueItemId
    AgentQueueTaskLifecycleStatus.failed.asStr (d.timestamp 0)
  have hupdateLink := @updateAgentQueueTaskRunLinkFinalStatus_read u link n.workspaceId
    n.queueItemId n.runId
    (workerFinishedLinkUpdate AgentQueueTaskRunStatus.failed.asStr (d.timestamp 0))
    hstale.link_mem hstale.link_workspace (hstale.link_task.trans htask) hrun
  let v : SqliteStore := { u with
    agentQueueTaskRunLinks := u.agentQueueTaskRunLinks.update
      (fun r => r.workspaceId == n.workspaceId && r.queueTaskId == n.queueItemId &&
        r.directWorkRunId == n.runId)
      (workerFinishedLinkUpdate AgentQueueTaskRunStatus.failed.asStr (d.timestamp 0)).apply
      fun _ => rfl }
  have hupsert : v.upsertAgentQueueWorkerEvidenceBundle (recoveryBundle d n) =
      .ok (recoveryBundle d n, { v with agentQueueWorkerEvidenceBundles := bundles }) := by
    have hnone' : v.getAgentQueueWorkerEvidenceBundle (recoveryBundle d n).workspaceId
        (recoveryBundle d n).queueTaskId (recoveryBundle d n).runId = none := hnone
    have hworkspace : v.hasWorkspace (recoveryBundle d n).workspaceId = true := hstale.workspace
    have htaskRow : v.hasTask (recoveryBundle d n).queueTaskId = true := by
      have hread := getAgentQueueTask_eq_some.1 (@getAgentQueueTask_withTaskStatus s n.workspaceId
        n.queueItemId AgentQueueTaskLifecycleStatus.failed.asStr (d.timestamp 0) task hget)
      exact Option.isSome_iff_exists.2 ⟨_, getAgentQueueTaskById_eq_some.2 ⟨hread.1, hread.2.2⟩⟩
    have hlinkRow : SqliteStore.references v.hasRunLink (recoveryBundle d n).runLinkId = true := by
      have hread : (workerFinishedLinkUpdate AgentQueueTaskRunStatus.failed.asStr
          (d.timestamp 0)).apply link ∈ v.agentQueueTaskRunLinks :=
        mem_rewrittenLink hstale.link_mem hstale.link_workspace (hstale.link_task.trans htask) hrun
      by_contra hnot
      have hall := Table.find_eq_none.1 (Option.not_isSome_iff_eq_none.1 hnot) _ hread
      simp [AgentQueueTaskRunLinkFinalUpdate.apply, hlink] at hall
    have hparents : (v.hasWorkspace (recoveryBundle d n).workspaceId &&
        v.hasTask (recoveryBundle d n).queueTaskId &&
        SqliteStore.references v.hasRunLink (recoveryBundle d n).runLinkId &&
        SqliteStore.references v.hasWidgetInstance (recoveryBundle d n).executorWidgetId) =
          true := by
      rw [hworkspace, htaskRow, hlinkRow]
      rfl
    unfold SqliteStore.upsertAgentQueueWorkerEvidenceBundle
    rw [hnone']
    exact SqliteStore.inserted_ok.2 ⟨hparents, rfl, bundles, hins, rfl⟩
  refine ⟨bundles, hins, exec_bind_ok.2 ⟨n, s, by rw [exec_check, hn], ?_⟩⟩
  refine exec_withImmediateTransaction_ok ?_
  rw [((loadAgentQueueTask_answers _ _).of_eq hload).exec_bind_some, exec_failIf_bind,
    hstale.unassigned, Option.isSome_none, if_neg Bool.false_ne_true, exec_failIf_bind,
    hstale.task_running, bne_self_eq_false, if_neg Bool.false_ne_true,
    (loadStaleRunLink_answers hstale htask hrun hlink).exec_bind_some, exec_query_bind,
    exec_failIf_bind, hnone, Option.isSome_none, if_neg Bool.false_ne_true]
  refine exec_bind_ok.2 ⟨_, u, exec_execute_ok.2 hupdateTask, exec_bind_ok.2 ⟨_, _, rfl, ?_⟩⟩
  refine exec_bind_ok.2 ⟨_, v, exec_execute_ok.2 hupdateLink, exec_bind_ok.2 ⟨_, _, rfl, ?_⟩⟩
  exact exec_bind_ok.2 ⟨_, _, exec_execute_ok.2 hupsert, rfl⟩

end Recovery

/-! ## Every candidate can be recovered -/

/-- The request to give up a candidate. -/
def QueueStaleRunCandidateSummary.recovery (c : QueueStaleRunCandidateSummary)
    (reason actorId : String) : RecoverStaleQueueLocalRunInput :=
  { workspaceId := c.workspaceId
    queueItemId := c.queueItemId
    runId := c.runId
    runLinkId := c.runLinkId
    reason := reason
    actorId := actorId
    confirmationToken := staleQueueLocalRecoveryConfirmationToken }

/-- The ids of the candidate are texts that a command takes as they are. -/
def QueueStaleRunCandidateSummary.HasProperIds (c : QueueStaleRunCandidateSummary) : Prop :=
  ∀ id ∈ [c.queueItemId, c.runId, c.runLinkId], Text.trim id = id ∧ id ≠ ""

instance (c : QueueStaleRunCandidateSummary) : Decidable c.HasProperIds :=
  inferInstanceAs (Decidable (∀ id ∈ [c.queueItemId, c.runId, c.runLinkId], _ ∧ _))

/-- The bundle is about the run of the candidate. -/
def QueueStaleRunCandidateSummary.hasEvidence (c : QueueStaleRunCandidateSummary)
    (bundle : AgentQueueWorkerEvidenceBundleRow) : Bool :=
  bundle.workspaceId == c.workspaceId && bundle.queueTaskId == c.queueItemId &&
    bundle.runId == c.runId

/-- The candidate was given up: its task and its link have failed, its run has one bundle, the
rows of other tasks and runs are as they were, and no listing shows it any more. -/
structure GivenUp (c : QueueStaleRunCandidateSummary) (s t : SqliteStore) : Prop where
  task_failed : ∃ task ∈ t.agentQueueTasks, task.workspaceId = c.workspaceId ∧
    task.queueItemId = c.queueItemId ∧ task.status = "failed"
  link_failed : ∃ link ∈ t.agentQueueTaskRunLinks, link.linkId = c.runLinkId ∧
    link.directWorkRunId = c.runId ∧ link.status = "failed" ∧
    link.reviewStatus = some "review_needed"
  one_bundle : (t.agentQueueWorkerEvidenceBundles.rows.filter c.hasEvidence).length = 1
  other_tasks : ∀ task : AgentQueueTaskRow, task.queueItemId ≠ c.queueItemId →
    (task ∈ t.agentQueueTasks ↔ task ∈ s.agentQueueTasks)
  other_links : ∀ link : AgentQueueTaskRunLinkRow, link.directWorkRunId ≠ c.runId →
    (link ∈ t.agentQueueTaskRunLinks ↔ link ∈ s.agentQueueTaskRunLinks)
  other_bundles : ∀ bundle, c.hasEvidence bundle = false →
    (bundle ∈ t.agentQueueWorkerEvidenceBundles ↔ bundle ∈ s.agentQueueWorkerEvidenceBundles)
  other_tables : t = { s with
    agentQueueTasks := t.agentQueueTasks
    agentQueueTaskRunLinks := t.agentQueueTaskRunLinks
    agentQueueWorkerEvidenceBundles := t.agentQueueWorkerEvidenceBundles
    workspaces := t.workspaces }
  not_listed : ∀ (timestampAgeSeconds : String → Option ℕ) (input : ListStaleQueueLocalRunsInput),
    ∀ c' ∈ listedStaleRuns timestampAgeSeconds input t, c'.runLinkId ≠ c.runLinkId

section GivenUp

variable {s : SqliteStore} {d : Draws} {workspaceId reason actorId : String}
  {task : AgentQueueTaskRow} {link : AgentQueueTaskRunLinkRow} {age : ℕ}
  {bundles : Table AgentQueueWorkerEvidenceBundleRow}

/-- A run that was given up has one bundle, the one that was stored. -/
theorem one_bundle_of_insert {c : QueueStaleRunCandidateSummary}
    (hnone : s.getAgentQueueWorkerEvidenceBundle c.workspaceId c.queueItemId c.runId = none)
    (hins : s.agentQueueWorkerEvidenceBundles.insert
      (recoveryBundle d (c.recovery reason actorId)) = some bundles) :
    (bundles.rows.filter c.hasEvidence).length = 1 := by
  have hold : s.agentQueueWorkerEvidenceBundles.rows.filter c.hasEvidence = [] := by
    rw [List.filter_eq_nil_iff]
    intro bundle hbundle
    have hnot := Table.find_eq_none.1 hnone bundle hbundle
    simpa [QueueStaleRunCandidateSummary.hasEvidence] using hnot
  have hnew : c.hasEvidence (recoveryBundle d (c.recovery reason actorId)) = true := by
    simp [QueueStaleRunCandidateSummary.hasEvidence, recoveryBundle, staleRecoveryBundle,
      QueueStaleRunCandidateSummary.recovery]
  rw [Table.rows_insert hins, List.filter_append, hold, List.filter_singleton, hnew]
  rfl

/-- A link that is listed is running, so the one that was given up is not listed. -/
theorem not_listed_of_failed {c : QueueStaleRunCandidateSummary} {t : SqliteStore}
    (hfailed : ∀ link ∈ t.agentQueueTaskRunLinks, link.linkId = c.runLinkId →
      link.status ≠ AgentQueueTaskRunStatus.running.asStr)
    (timestampAgeSeconds : String → Option ℕ) (input : ListStaleQueueLocalRunsInput) :
    ∀ c' ∈ listedStaleRuns timestampAgeSeconds input t, c'.runLinkId ≠ c.runLinkId := by
  intro c' hc' hsame
  obtain ⟨-, task, link, age, hstale, -, -, rfl⟩ := mem_listedStaleRuns.1 hc'
  exact hfailed link hstale.link_mem hsame hstale.link_running

theorem givenUp_gaveUp (hstale : s.IsStale workspaceId task link)
    (hins : s.agentQueueWorkerEvidenceBundles.insert (recoveryBundle d
      ((staleRunCandidate workspaceId task link age).recovery reason actorId)) = some bundles) :
    GivenUp (staleRunCandidate workspaceId task link age) s
      (s.gaveUp d ((staleRunCandidate workspaceId task link age).recovery reason actorId)
        bundles) := by
  have hlinkKey : (link.workspaceId == workspaceId && link.queueTaskId == task.queueItemId &&
      link.directWorkRunId == link.directWorkRunId) = true := by
    simp [hstale.link_workspace, hstale.link_task]
  refine ⟨⟨_, mem_setStatus hstale.task_mem hstale.task_workspace rfl, hstale.task_workspace,
      rfl, rfl⟩,
    ⟨_, mem_rewrittenLink hstale.link_mem hstale.link_workspace hstale.link_task rfl, rfl, rfl,
      rfl, rfl⟩,
    one_bundle_of_insert hstale.no_evidence hins, ?_, ?_, ?_, rfl, not_listed_of_failed ?_⟩
  · intro other hother
    refine @Table.mem_update_other _ _ _ _ (setStatus AgentQueueTaskLifecycleStatus.failed.asStr
      (d.timestamp 0)) (fun _ => rfl) _ ?_ ?_
    · simpa [QueueStaleRunCandidateSummary.recovery, staleRunCandidate] using fun _ => hother
    · rintro row hrow rfl
      simp only [Bool.and_eq_true, beq_iff_eq] at hrow
      exact hother hrow.2
  · intro other hother
    refine @Table.mem_update_other _ _ _ _ (workerFinishedLinkUpdate
      AgentQueueTaskRunStatus.failed.asStr (d.timestamp 0)).apply (fun _ => rfl) _ ?_ ?_
    · simpa [QueueStaleRunCandidateSummary.recovery, staleRunCandidate] using fun _ _ => hother
    · rintro row hrow rfl
      simp only [Bool.and_eq_true, beq_iff_eq] at hrow
      exact hother hrow.2
  · intro bundle hbundle
    have hne : bundle ≠ recoveryBundle d
        ((staleRunCandidate workspaceId task link age).recovery reason actorId) := by
      rintro rfl
      simp [QueueStaleRunCandidateSummary.hasEvidence, recoveryBundle, staleRecoveryBundle,
        QueueStaleRunCandidateSummary.recovery] at hbundle
    exact (Table.mem_insert hins bundle).trans (or_iff_left hne)
  · intro row hrow hsame
    obtain ⟨old, hold, rfl⟩ := (@Table.mem_update _ _ _ _ (workerFinishedLinkUpdate
      AgentQueueTaskRunStatus.failed.asStr (d.timestamp 0)).apply (fun _ => rfl) row).1 hrow
    have hid : old.linkId = link.linkId := by
      split_ifs at hsame
      · exact hsame
      · exact hsame
    have hclash : Clash old link :=
      ⟨("link_id", [old.linkId]), by simp [Row.keys], by simp [Row.keys, hid]⟩
    obtain rfl := Table.eq_of_clash hold hstale.link_mem hclash
    split_ifs with hsel
    · exact (by decide :
        AgentQueueTaskRunStatus.failed.asStr ≠ AgentQueueTaskRunStatus.running.asStr)
    · exact absurd hlinkKey hsel

end GivenUp

/-- **Every candidate of a listing can be recovered** with a reason and an actor that are not
blank: the command succeeds on the same store, and gives up exactly this run. -/
theorem stale_candidate_recoverable {timestampAgeSeconds : String → Option ℕ}
    {input : ListStaleQueueLocalRunsInput} {s : SqliteStore} {c : QueueStaleRunCandidateSummary}
    (hc : c ∈ listedStaleRuns timestampAgeSeconds input s) (hids : c.HasProperIds)
    {reason actorId : String} (hreason : Text.trim reason ≠ "") (hactor : Text.trim actorId ≠ "")
    {d : Draws} (hfresh : ∀ bundle ∈ s.agentQueueWorkerEvidenceBundles,
      bundle.bundleId ≠ d.placeholderId "queue_worker_evidence_" 1) :
    ∃ result t, exec (recoverStaleQueueLocalRunFailed d (c.recovery reason actorId)) s =
      (.ok result, t) ∧ GivenUp c s t := by
  obtain ⟨hblank, task, link, age, hstale, -, -, rfl⟩ := mem_listedStaleRuns.1 hc
  have htaskId := hids task.queueItemId (by simp [staleRunCandidate])
  have hrunId := hids link.directWorkRunId (by simp [staleRunCandidate])
  have hlinkId := hids link.linkId (by simp [staleRunCandidate])
  let n : RecoverStaleQueueLocalRunInput :=
    (staleRunCandidate (Text.trim input.workspaceId) task link age).recovery (Text.trim reason)
      (Text.trim actorId)
  have hn : normalizeRecoverStaleQueueLocalRunInput
      ((staleRunCandidate (Text.trim input.workspaceId) task link age).recovery reason actorId) =
        .ok n := by
    have htoken : requiredInput staleQueueLocalRecoveryConfirmationToken "confirmation token" =
        .ok staleQueueLocalRecoveryConfirmationToken := by decide +kernel
    simp only [normalizeRecoverStaleQueueLocalRunInput, QueueStaleRunCandidateSummary.recovery,
      staleRunCandidate, htoken]
    simp only [requiredInput, Text.trim_trim, hblank, htaskId, hrunId, hlinkId, hreason, hactor,
      if_false, bind, Except.bind, ne_eq, not_true_eq_false]
    rfl
  obtain ⟨bundles, hins, hrun⟩ := exec_recover_of_stale hn hstale rfl rfl rfl hfresh
  exact ⟨_, _, hrun, givenUp_gaveUp hstale hins⟩

/-- The first task has been started on the local backend. -/
def firstTaskStarted : SqliteStore :=
  after perform (oneWorkspace "w") (firstTaskQueued ++ [startFirstTask 2])

/-- Its run, three hours later. -/
def firstTaskCandidate : QueueStaleRunCandidateSummary :=
  { workspaceId := "w"
    queueItemId := firstTask
    taskTitle := "title"
    runId := "queue-run_2000000002_2"
    runLinkId := "queue_run_link_2000000003_3"
    executorWidgetId := "queue_local:codex"
    source := "manual"
    taskStatus := "running"
    runLinkStatus := "running"
    startedAt := "2.000000004"
    ageSeconds := 10800
    reasonCode := "stale_running_queue_local" }

theorem stale_candidate_recoverable_firstTask :
    ∃ result t, exec (recoverStaleQueueLocalRunFailed (drawsAt 3)
      (firstTaskCandidate.recovery "lost" "operator")) firstTaskStarted = (.ok result, t) ∧
      GivenUp firstTaskCandidate firstTaskStarted t := by
  have hlisted : firstTaskCandidate ∈
      listedStaleRuns (fun _ => some 10800) ⟨"w", none⟩ firstTaskStarted := by decide +kernel
  have hids : firstTaskCandidate.HasProperIds := by decide +kernel
  exact stale_candidate_recoverable hlisted hids (by decide +kernel) (by decide +kernel)
    (by decide +kernel)

/-- The same store with a blank in front of the id of the task. -/
def blankBeforeTaskId : SqliteStore :=
  { firstTaskStarted with
    agentQueueTasks := firstTaskStarted.agentQueueTasks.rows.foldl (fun tasks task =>
      (tasks.insert { task with queueItemId := " " ++ task.queueItemId }).getD tasks) Table.empty
    agentQueueTaskRunLinks := firstTaskStarted.agentQueueTaskRunLinks.rows.foldl (fun links link =>
      (links.insert { link with queueTaskId := " " ++ link.queueTaskId }).getD links) Table.empty }

/-- A blank reason is refused in a store that the commands lead to, and an id with a blank in
front of it is looked up without the blank. -/
theorem stale_candidate_not_recoverable :
    (∃ c ∈ listedStaleRuns (fun _ => some 10800) ⟨"w", none⟩ firstTaskStarted,
      (exec (recoverStaleQueueLocalRunFailed (drawsAt 3) (c.recovery " " "operator"))
        firstTaskStarted).1.isOk = false) ∧
    ∃ c ∈ listedStaleRuns (fun _ => some 10800) ⟨"w", none⟩ blankBeforeTaskId,
      (exec (recoverStaleQueueLocalRunFailed (drawsAt 3) (c.recovery "lost" "operator"))
        blankBeforeTaskId).1.isOk = false := by
  decide +kernel

end HobitQueue
