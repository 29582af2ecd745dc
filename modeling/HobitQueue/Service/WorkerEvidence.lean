import HobitQueue.Service.Aggregate
import HobitQueue.Service.RunLinks

/-!
# Worker evidence

A worker reports how its run ended, and the report is kept as the evidence bundle
of the run. There is one bundle for each run of a task: a second report rewrites it.
-/

namespace HobitQueue

open Concurrent StoreProg Relational

def agentQueueWorkerEvidenceOutcomeCompleted : String := "completed"
def agentQueueWorkerEvidenceOutcomeNotCompleted : String := "not_completed"
def agentQueueWorkerEvidenceOutcomeFailed : String := "failed"

structure RecordAgentQueueWorkerFinishedInput where
  workspaceId : String
  queueItemId : String
  runId : String
  outcome : String
  summary : Option String
  changedFiles : List String
  changedFilesSummary : Option String
  validationSummary : Option String
  errorSummary : Option String
  workerId : Option String
  source : Option String
  metadataJson : Option String
  finishedAt : Option String

structure NormalizedRecordAgentQueueWorkerFinishedInput where
  workspaceId : String
  queueItemId : String
  runId : String
  outcome : String
  summary : String
  changedFiles : List String
  changedFilesSummary : Option String
  validationSummary : Option String
  errorSummary : Option String
  workerId : Option String
  source : String
  metadataJson : Option String
  finishedAt : Option String

structure AgentQueueWorkerEvidenceBundleSummary where
  bundleId : String
  workspaceId : String
  queueItemId : String
  runId : String
  runLinkId : Option String
  executorWidgetId : Option String
  workerId : Option String
  source : String
  outcome : String
  summary : String
  changedFiles : List String
  changedFilesCount : ℤ
  changedFilesSummary : Option String
  validationSummary : Option String
  errorSummary : Option String
  metadataJson : Option String
  createdAt : String
  updatedAt : String
  deriving DecidableEq

structure AgentQueueWorkerFinishedCommandResult where
  workspaceId : String
  queueItemId : String
  runId : String
  bundleId : String
  durable : Bool
  evidenceBundle : AgentQueueWorkerEvidenceBundleSummary
  aggregate : QueueItemAggregate
  deriving DecidableEq

/-! ## Input -/

def normalizeWorkerOutcome (outcome : String) : Except WorkspaceServiceError String := do
  let outcome ← requiredInput outcome "worker outcome"
  if outcome ∈ [agentQueueWorkerEvidenceOutcomeCompleted,
      agentQueueWorkerEvidenceOutcomeNotCompleted, agentQueueWorkerEvidenceOutcomeFailed] then
    .ok outcome
  else .error (.invalidInput
    ("worker outcome must be completed, not_completed, or failed: " ++ outcome))

/-- The summary of a report that has none. -/
def defaultWorkerSummary (outcome : String) : String :=
  match outcome with
  | "completed" => "Queue worker reported completed work."
  | "not_completed" => "Queue worker reported work that needs review or follow-up."
  | "failed" => "Queue worker reported failed work."
  | _ => "Queue worker reported final work evidence."

def normalizedWorkerSummary (summary : Option String) (outcome : String)
    (errorSummary : Option String) : String :=
  ((Text.optionalTrimmed summary).or
    (if outcome = agentQueueWorkerEvidenceOutcomeFailed then errorSummary else none)).getD
      (defaultWorkerSummary outcome)

/-- The trimmed names, each once, without the empty ones. -/
def normalizeChangedFiles (changedFiles : List String) : List String :=
  changedFiles.foldl (fun normalized value =>
    let value := Text.trim value
    if value ≠ "" ∧ value ∉ normalized then normalized ++ [value] else normalized) []

/-- The report of a worker, checked. -/
def normalizeRecordAgentQueueWorkerFinishedInput (input : RecordAgentQueueWorkerFinishedInput) :
    Except WorkspaceServiceError NormalizedRecordAgentQueueWorkerFinishedInput := do
  let workspaceId ← requiredInput input.workspaceId "workspace id"
  let queueItemId ← requiredInput input.queueItemId "queue item id"
  let runId ← requiredInput input.runId "worker run id"
  let outcome ← normalizeWorkerOutcome input.outcome
  let errorSummary := Text.optionalTrimmed input.errorSummary
  pure {
    workspaceId := workspaceId
    queueItemId := queueItemId
    runId := runId
    outcome := outcome
    summary := normalizedWorkerSummary input.summary outcome errorSummary
    changedFiles := normalizeChangedFiles input.changedFiles
    changedFilesSummary := Text.optionalTrimmed input.changedFilesSummary
    validationSummary := Text.optionalTrimmed input.validationSummary
    errorSummary := errorSummary
    workerId := Text.optionalTrimmed input.workerId
    source := (Text.optionalTrimmed input.source).getD "workspace_agent"
    metadataJson := Text.optionalTrimmed input.metadataJson
    finishedAt := Text.optionalTrimmed input.finishedAt }

def workerEvidenceChangedFilesJson (changedFiles : List String) : JsonText :=
  .value (Json.ofStrings changedFiles)

/-! ## The states a report leads to -/

def taskStatusForWorkerOutcome (outcome : String) : String :=
  if outcome = agentQueueWorkerEvidenceOutcomeCompleted then
    AgentQueueTaskLifecycleStatus.completed.asStr
  else AgentQueueTaskLifecycleStatus.reviewNeeded.asStr

def runStatusForWorkerOutcome (outcome : String) : String :=
  if outcome = agentQueueWorkerEvidenceOutcomeCompleted then
    AgentQueueTaskRunStatus.completed.asStr
  else if outcome = agentQueueWorkerEvidenceOutcomeFailed then
    AgentQueueTaskRunStatus.failed.asStr
  else AgentQueueTaskRunStatus.reviewNeeded.asStr

def widgetRunStatusForWorkerOutcome (outcome : String) : String :=
  if outcome = agentQueueWorkerEvidenceOutcomeFailed then "failed" else "completed"

/-- **No report leaves a run or its task running.** -/
theorem statusForWorkerOutcome_ne_running (outcome : String) :
    taskStatusForWorkerOutcome outcome ≠ "running" ∧
      runStatusForWorkerOutcome outcome ≠ "running" := by
  unfold taskStatusForWorkerOutcome runStatusForWorkerOutcome
  constructor
  · split <;> decide
  · split
    · decide
    · split <;> decide

/-! ## The command -/

/-- The update of the link of a reported run. -/
def workerFinishedLinkUpdate (status finishedAt : String) : AgentQueueTaskRunLinkFinalUpdate :=
  { status := status
    completedAt := some finishedAt
    validationStatus := none
    reviewStatus := some AgentQueueTaskRunReviewStatus.reviewNeeded.asStr
    updatedAt := finishedAt }

/-- The bundle a report offers. -/
def workerEvidenceBundle (input : NormalizedRecordAgentQueueWorkerFinishedInput)
    (finishedAt bundleId runLinkId : String) (executorWidgetId : Option String) :
    AgentQueueWorkerEvidenceBundleRow :=
  { bundleId := bundleId
    workspaceId := input.workspaceId
    queueTaskId := input.queueItemId
    runId := input.runId
    runLinkId := some runLinkId
    executorWidgetId := executorWidgetId
    workerId := input.workerId
    source := input.source
    outcome := input.outcome
    summary := input.summary
    changedFilesJson := workerEvidenceChangedFilesJson input.changedFiles
    changedFilesCount := input.changedFiles.length
    changedFilesSummary := input.changedFilesSummary
    validationSummary := input.validationSummary
    errorSummary := input.errorSummary
    metadataJson := input.metadataJson
    createdAt := finishedAt
    updatedAt := finishedAt }

/-- The link of the run, which must be a run of the task. -/
def loadRunLinkOfTask (workspaceId queueItemId runId : String) :
    Sqlite AgentQueueTaskRunLinkRow := do
  let link ← query fun s => s.getAgentQueueTaskRunLinkByRunId workspaceId runId
  match link with
  | none => throw (.invalidParameterName ("queue task run link not found: " ++ runId))
  | some link => do
      failIf (link.queueTaskId != queueItemId)
        (.invalidParameterName ("queue task run link does not belong to task: " ++ runId))
      pure link

/-- `ok_or_else`: the row an `UPDATE` read back, or a message. -/
def rowOrMessage {α : Type} (row : Option α) (message : String) : Sqlite α :=
  match row with
  | some row => pure row
  | none => throw (.invalidParameterName message)

/-- The widget run of the report, if there is one, is over as well. -/
def finishReportedWidgetRun (input : NormalizedRecordAgentQueueWorkerFinishedInput)
    (finishedAt : String) : Sqlite Unit := do
  let run ← query fun s => s.getWidgetRun input.runId
  match run with
  | none => pure ()
  | some _ => do
      let _ ← execute fun s => s.finishWidgetRun input.runId
        (widgetRunStatusForWorkerOutcome input.outcome) finishedAt (some input.summary)
      pure ()

/-- A finished run gets its status and its evidence. -/
def recordAgentQueueWorkerFinishedInStore
    (input : NormalizedRecordAgentQueueWorkerFinishedInput) (finishedAt bundleId : String) :
    Sqlite AgentQueueWorkerEvidenceBundleRow := do
  let _ ← loadAgentQueueTask input.workspaceId input.queueItemId
  let link ← loadRunLinkOfTask input.workspaceId input.queueItemId input.runId
  let task ← execute fun s => s.updateAgentQueueTaskStatus input.workspaceId input.queueItemId
    (taskStatusForWorkerOutcome input.outcome) finishedAt
  let _ ← rowOrMessage task ("queue task not found: " ++ input.queueItemId)
  let updated ← execute fun s => s.updateAgentQueueTaskRunLinkFinalStatus input.workspaceId
    input.queueItemId input.runId
    (workerFinishedLinkUpdate (runStatusForWorkerOutcome input.outcome) finishedAt)
  let _ ← rowOrMessage updated ("queue task run link not found: " ++ input.runId)
  finishReportedWidgetRun input finishedAt
  let executor ← query fun s => s.getWidgetInstance link.executorWidgetId
  execute fun s => s.upsertAgentQueueWorkerEvidenceBundle
    (workerEvidenceBundle input finishedAt bundleId link.linkId
      (executor.map fun _ => link.executorWidgetId))

def workerEvidenceBundleSummary (row : AgentQueueWorkerEvidenceBundleRow) :
    Except WorkspaceServiceError AgentQueueWorkerEvidenceBundleSummary :=
  match row.changedFilesJson.parseStrings with
  | none => .error (.invalidInput "worker evidence changed files must be valid JSON: ")
  | some changedFiles => .ok
      { row with queueItemId := row.queueTaskId, changedFiles := changedFiles }

/-- The answer to a report: the bundle and the refreshed aggregate. -/
def workerFinishedAnswer (input : NormalizedRecordAgentQueueWorkerFinishedInput)
    (evidence : AgentQueueWorkerEvidenceBundleRow) :
    Service AgentQueueWorkerFinishedCommandResult := do
  let aggregate ← requireQueueItemAggregate input.workspaceId input.queueItemId
  let evidenceBundle ← check (workerEvidenceBundleSummary evidence)
  pure {
    workspaceId := input.workspaceId
    queueItemId := input.queueItemId
    runId := input.runId
    bundleId := evidenceBundle.bundleId
    durable := true
    evidenceBundle := evidenceBundle
    aggregate := aggregate }

/-- The report of a worker, as a command of its own. -/
def recordAgentQueueWorkerFinished (d : Draws) (input : RecordAgentQueueWorkerFinishedInput) :
    Service AgentQueueWorkerFinishedCommandResult := do
  let input ← check (normalizeRecordAgentQueueWorkerFinishedInput input)
  let finishedAt := input.finishedAt.getD (d.timestamp 0)
  let bundleId := d.placeholderId "queue_worker_evidence_" 1
  let evidence ← withImmediateTransaction mapStorageAgentQueueTaskError do
    let evidence ← recordAgentQueueWorkerFinishedInStore input finishedAt bundleId
    execute fun s => s.touchWorkspace input.workspaceId (d.timestamp 2)
    pure evidence
  workerFinishedAnswer input evidence

/-! ## What the command does -/

/-- The bundles of one run of one task, of which there is at most one. -/
def sameRun (a b : AgentQueueWorkerEvidenceBundleRow) : Bool :=
  b.workspaceId == a.workspaceId && b.queueTaskId == a.queueTaskId && b.runId == a.runId

/-- A bundle was stored: it is new, or it took the place of the bundle of its run. -/
def UpsertsBundle (row : AgentQueueWorkerEvidenceBundleRow)
    (bundles bundles' : Table AgentQueueWorkerEvidenceBundleRow) : Prop :=
  bundles.insert row = some bundles' ∨
    (∃ old ∈ bundles, sameRun row old = true) ∧
      bundles' = bundles.update (sameRun row) row.supersede row.keys_supersede

theorem upsertAgentQueueWorkerEvidenceBundle_ok {row row' : AgentQueueWorkerEvidenceBundleRow}
    {s t : SqliteStore}
    (h : s.upsertAgentQueueWorkerEvidenceBundle row = .ok (row', t)) :
    ∃ bundles', UpsertsBundle row s.agentQueueWorkerEvidenceBundles bundles' ∧
      t = { s with agentQueueWorkerEvidenceBundles := bundles' } := by
  simp only [SqliteStore.upsertAgentQueueWorkerEvidenceBundle] at h
  split at h
  · obtain ⟨-, -, bundles', hins, rfl⟩ := SqliteStore.inserted_ok.1 h
    exact ⟨bundles', Or.inl hins, rfl⟩
  · rename_i existing hexisting
    split at h
    · obtain ⟨-, rfl⟩ := Prod.mk.inj (Except.ok.inj h)
      exact ⟨_, Or.inr ⟨⟨existing, Table.mem_of_find hexisting,
        Table.sat_of_find hexisting⟩, rfl⟩, rfl⟩
    · cases h

/-- A stored bundle is an old one of another run, or it has the contents of the row. -/
theorem UpsertsBundle.mem_cases {row b : AgentQueueWorkerEvidenceBundleRow}
    {bundles bundles' : Table AgentQueueWorkerEvidenceBundleRow}
    (h : UpsertsBundle row bundles bundles') (hb : b ∈ bundles') :
    (b ∈ bundles ∧ sameRun row b = false) ∨
      ∃ old, sameRun row old = true ∧ b = row.supersede old := by
  rcases h with hins | ⟨-, rfl⟩
  · rcases (Table.mem_insert hins b).1 hb with hold | rfl
    · left
      refine ⟨hold, ?_⟩
      by_contra hsame
      simp only [sameRun, Bool.not_eq_false, Bool.and_eq_true, beq_iff_eq] at hsame
      refine Table.not_clash_of_insert hins hold
        ⟨("workspace_id, queue_task_id, run_id", [row.workspaceId, row.queueTaskId,
          row.runId]), ?_, ?_⟩
      · simp [Row.keys, hsame.1.1, hsame.1.2, hsame.2]
      · simp [Row.keys]
    · exact Or.inr ⟨b, by simp [sameRun], rfl⟩
  · obtain ⟨a, ha, rfl⟩ := Table.mem_update.1 hb
    by_cases hsame : sameRun row a = true
    · right
      exact ⟨a, hsame, if_pos hsame⟩
    · left
      rw [if_neg hsame]
      exact ⟨ha, by simpa using hsame⟩

/-- The bundles of other runs stay as they are. -/
theorem UpsertsBundle.mem_of_mem {row b : AgentQueueWorkerEvidenceBundleRow}
    {bundles bundles' : Table AgentQueueWorkerEvidenceBundleRow}
    (h : UpsertsBundle row bundles bundles') (hb : b ∈ bundles)
    (hother : sameRun row b = false) : b ∈ bundles' := by
  rcases h with hins | ⟨-, rfl⟩
  · exact (Table.mem_insert hins b).2 (Or.inl hb)
  · exact Table.mem_update.2 ⟨b, hb, by simp [hother]⟩

/-- The rewriting of a task whose state is set. -/
def setStatus (status updatedAt : String) (task : AgentQueueTaskRow) : AgentQueueTaskRow :=
  { task with status := status, updatedAt := updatedAt }

theorem keys_setStatus (status updatedAt : String) (task : AgentQueueTaskRow) :
    Row.keys (setStatus status updatedAt task) = Row.keys task := rfl

/-- The end of a run of a task was recorded: the task and the link of the run are in
their final states, and the evidence is stored. -/
def Reported (taskStatus updatedAt : String) (update : AgentQueueTaskRunLinkFinalUpdate)
    (bundle : AgentQueueWorkerEvidenceBundleRow) (s t : SqliteStore) : Prop :=
  (∃ link ∈ s.agentQueueTaskRunLinks, link.workspaceId = bundle.workspaceId ∧
    link.queueTaskId = bundle.queueTaskId ∧ link.directWorkRunId = bundle.runId ∧
    bundle.runLinkId = some link.linkId) ∧
  ∃ bundles' runs' workspaces',
    UpsertsBundle bundle s.agentQueueWorkerEvidenceBundles bundles' ∧
    t = { s with
      agentQueueTasks := s.agentQueueTasks.update
        (fun r => r.workspaceId == bundle.workspaceId && r.queueItemId == bundle.queueTaskId)
        (setStatus taskStatus updatedAt) (keys_setStatus taskStatus updatedAt)
      agentQueueTaskRunLinks := s.agentQueueTaskRunLinks.update
        (fun r => r.workspaceId == bundle.workspaceId && r.queueTaskId == bundle.queueTaskId &&
          r.directWorkRunId == bundle.runId) update.apply update.keys_apply
      agentQueueWorkerEvidenceBundles := bundles'
      widgetRuns := runs'
      workspaces := workspaces' }

theorem loadRunLinkOfTask_ok {workspaceId queueItemId runId : String} {s t : SqliteStore}
    {link : AgentQueueTaskRunLinkRow}
    (h : exec (loadRunLinkOfTask workspaceId queueItemId runId) s = (.ok link, t)) :
    t = s ∧ link ∈ s.agentQueueTaskRunLinks ∧ link.workspaceId = workspaceId ∧
      link.queueTaskId = queueItemId ∧ link.directWorkRunId = runId := by
  simp only [loadRunLinkOfTask, exec_query_bind] at h
  split at h
  · cases (Prod.mk.inj h).1
  rename_i row hrow
  simp only [exec_failIf_bind, guard_ok, exec_pure, Prod.mk.injEq, Except.ok.injEq, bne_iff_ne,
    ne_eq, not_not] at h
  obtain ⟨htask, rfl, rfl⟩ := h
  have hrun := Table.sat_of_find hrow
  simp only [Bool.and_eq_true, beq_iff_eq] at hrun
  exact ⟨rfl, Table.mem_of_find hrow, hrun.1, htask, hrun.2⟩

theorem rowOrMessage_ok {α : Type} {row : Option α} {message : String} {s t : SqliteStore}
    {a : α} (h : exec (rowOrMessage row message) s = (.ok a, t)) : t = s := by
  cases row with
  | none => cases (Prod.mk.inj h).1
  | some b => exact (Prod.mk.inj h).2.symm

theorem finishReportedWidgetRun_ok {input : NormalizedRecordAgentQueueWorkerFinishedInput}
    {finishedAt : String} {s t : SqliteStore} {u : Unit}
    (h : exec (finishReportedWidgetRun input finishedAt) s = (.ok u, t)) :
    ∃ runs', t = { s with widgetRuns := runs' } := by
  simp only [finishReportedWidgetRun, exec_query_bind] at h
  split at h
  · obtain ⟨-, rfl⟩ := Prod.mk.inj h
    exact ⟨_, rfl⟩
  simp only [exec_bind_ok, exec_execute_ok, exec_pure, Prod.mk.injEq,
    SqliteStore.finishWidgetRun] at h
  obtain ⟨run, v, hfinish, -, rfl⟩ := h
  split at hfinish
  · obtain ⟨-, rfl⟩ := Prod.mk.inj (Except.ok.inj hfinish)
    exact ⟨_, rfl⟩
  · cases hfinish

theorem recordAgentQueueWorkerFinishedInStore_ok
    {input : NormalizedRecordAgentQueueWorkerFinishedInput} {finishedAt bundleId : String}
    {s t : SqliteStore} {evidence : AgentQueueWorkerEvidenceBundleRow}
    (h : exec (recordAgentQueueWorkerFinishedInStore input finishedAt bundleId) s =
      (.ok evidence, t)) :
    ∃ linkId executorId,
      Reported (taskStatusForWorkerOutcome input.outcome) finishedAt
        (workerFinishedLinkUpdate (runStatusForWorkerOutcome input.outcome) finishedAt)
        (workerEvidenceBundle input finishedAt bundleId linkId executorId) s t := by
  rw [recordAgentQueueWorkerFinishedInStore, exec_bind_ok] at h
  obtain ⟨task, u₁, hload, h⟩ := h
  obtain ⟨rfl, -⟩ := loadAgentQueueTask_ok hload
  rw [exec_bind_ok] at h
  obtain ⟨link, u₂, hlink, h⟩ := h
  obtain ⟨rfl, hmem, hws, htask, hrun⟩ := loadRunLinkOfTask_ok hlink
  simp only [exec_bind_ok, exec_execute_ok, SqliteStore.updateAgentQueueTaskStatus,
    SqliteStore.updateTaskRow, Except.ok.injEq, Prod.mk.injEq] at h
  obtain ⟨updated, u₃, ⟨-, rfl⟩, _, u₄, hrow, updated', u₅, hupdate, _, u₆, hrow', ⟨⟩, u₇,
    hwidget, executor, u₈, hexecutor, hupsert⟩ := h
  obtain rfl := rowOrMessage_ok hrow
  obtain ⟨workspaces', rfl⟩ := updateAgentQueueTaskRunLinkFinalStatus_ok hupdate
  obtain rfl := rowOrMessage_ok hrow'
  obtain ⟨runs', rfl⟩ := finishReportedWidgetRun_ok hwidget
  obtain rfl := (readOnly_query _).state hexecutor
  obtain ⟨bundles', hbundles, rfl⟩ := upsertAgentQueueWorkerEvidenceBundle_ok hupsert
  exact ⟨link.linkId, _, ⟨link, hmem, hws, htask, hrun, rfl⟩, bundles', runs', workspaces',
    hbundles, rfl⟩

theorem readOnly_workerFinishedAnswer (input : NormalizedRecordAgentQueueWorkerFinishedInput)
    (evidence : AgentQueueWorkerEvidenceBundleRow) :
    (workerFinishedAnswer input evidence).ReadOnly :=
  (readOnly_requireQueueItemAggregate _ _).bind fun _ =>
    (readOnly_check _).bind fun _ => readOnly_pure _

theorem recordAgentQueueWorkerFinished_effect {d : Draws}
    {input : RecordAgentQueueWorkerFinishedInput} {s t : SqliteStore}
    {r : Except WorkspaceServiceError AgentQueueWorkerFinishedCommandResult}
    (h : exec (recordAgentQueueWorkerFinished d input) s = (r, t)) :
    t = s ∨ ∃ n linkId executorId,
      normalizeRecordAgentQueueWorkerFinishedInput input = .ok n ∧
      Reported (taskStatusForWorkerOutcome n.outcome) (n.finishedAt.getD (d.timestamp 0))
        (workerFinishedLinkUpdate (runStatusForWorkerOutcome n.outcome)
          (n.finishedAt.getD (d.timestamp 0)))
        (workerEvidenceBundle n (n.finishedAt.getD (d.timestamp 0))
          (d.placeholderId "queue_worker_evidence_" 1) linkId executorId) s t := by
  rw [recordAgentQueueWorkerFinished, exec_check_bind] at h
  cases hn : normalizeRecordAgentQueueWorkerFinishedInput input with
  | error e =>
    rw [hn] at h
    exact Or.inl (Prod.mk.inj h).2.symm
  | ok n =>
    simp only [hn] at h
    rw [exec_bind_eq] at h
    obtain ⟨e, htx, -⟩ | ⟨evidence, u, htx, h⟩ := h
    · rcases exec_withImmediateTransaction htx with ⟨_, he, -⟩ | ⟨-, rfl⟩
      · cases he
      · exact Or.inl rfl
    obtain rfl := (readOnly_workerFinishedAnswer _ _).state h
    rcases exec_withImmediateTransaction htx with ⟨row, -, hrun⟩ | ⟨⟨_, he⟩, -⟩
    · simp only [exec_bind_ok, exec_execute_ok, SqliteStore.touchWorkspace, exec_pure,
        Except.ok.injEq, Prod.mk.injEq] at hrun
      obtain ⟨row', v, hstore, _, _, ⟨-, rfl⟩, -, rfl⟩ := hrun
      obtain ⟨linkId, executorId, hlink, bundles', runs', workspaces', hbundles, rfl⟩ :=
        recordAgentQueueWorkerFinishedInStore_ok hstore
      exact Or.inr ⟨n, linkId, executorId, rfl, hlink, bundles', runs', _, hbundles, rfl⟩
    · cases he

end HobitQueue
