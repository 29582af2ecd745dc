import HobitQueue.Queue.History

/-!
# Starts under an idempotency key

A start with a workflow context records its action under the key of the context before it
launches the worker, and no operation of the Queue forgets an action or the run it
recorded. So the calls that carry a key launch one worker at most: the later ones answer
from the record.
-/

namespace HobitQueue

open Concurrent StoreProg Relational Machine

/-- An input that passes its checks carries the key of a workflow run. -/
def CarriesKey (workflowRunId key : String) (input : StartAssignedAgentQueueTaskInput) : Prop :=
  ∀ n, normalizeStartAssignedAgentQueueTaskInput input = .ok n →
    ∃ context, n.workflowStartContext = some context ∧ context.workflowRunId = workflowRunId ∧
      context.actionIdempotencyKey = key

/-- A run that a step creates: it has a link or a widget run that was not there before. -/
inductive CreatesRun (s t : SqliteStore) : String → Prop
  | link {link : AgentQueueTaskRunLinkRow} (hlink : link ∈ t.agentQueueTaskRunLinks)
      (hnew : ∀ old ∈ s.agentQueueTaskRunLinks, old.linkId ≠ link.linkId) :
      CreatesRun s t link.directWorkRunId
  | widgetRun {run : WidgetRunRow} (hrun : run ∈ t.widgetRuns)
      (hnew : ∀ old ∈ s.widgetRuns, old.id ≠ run.id) : CreatesRun s t run.id

/-- What a start ends in: a worker, a blocker, or an error. -/
def startOutcome (s : SqliteStore) (d : Draws) (input : StartAssignedAgentQueueTaskInput)
    (source : AgentQueueTaskRunSource) : Except WorkspaceServiceError StartTransactionResult :=
  (exec (do
    let n ← check (normalizeStartAssignedAgentQueueTaskInput input)
    withImmediateTransaction mapStorageAgentQueueTaskError (startTransaction d n source)) s).1

/-- A call that creates neither a link nor a widget run. It answers with the recorded run or
with a blocker, or it fails and leaves the store as it was. -/
structure AnsweredFromRecord (runId : String) (s : SqliteStore) (d : Draws)
    (input : StartAssignedAgentQueueTaskInput) (source : AgentQueueTaskRunSource) : Prop where
  runLinks : (perform s (.startAssigned d input source)).agentQueueTaskRunLinks =
    s.agentQueueTaskRunLinks
  widgetRuns : (perform s (.startAssigned d input source)).widgetRuns = s.widgetRuns
  answer : match startOutcome s d input source with
    | .ok (.started summary) => summary.runId = runId ∧ summary.status = "already_started"
    | .ok (.blocked _) => True
    | .error _ => perform s (.startAssigned d input source) = s

/-! ## The outcome and the effect of a start -/

/-- A start fails without a trace, or it is a run of its transaction. -/
theorem startOutcome_cases (s : SqliteStore) (d : Draws) (input : StartAssignedAgentQueueTaskInput)
    (source : AgentQueueTaskRunSource) :
    ((∃ e, startOutcome s d input source = .error e) ∧
      perform s (.startAssigned d input source) = s) ∨
    ∃ n result, normalizeStartAssignedAgentQueueTaskInput input = .ok n ∧
      exec (startTransaction d n source) s =
        (.ok result, perform s (.startAssigned d input source)) ∧
      startOutcome s d input source = .ok result := by
  have hperform : perform s (.startAssigned d input source) = (exec (do
      let n ← check (normalizeStartAssignedAgentQueueTaskInput input)
      withImmediateTransaction mapStorageAgentQueueTaskError
        (startTransaction d n source)) s).2 := by
    rw [perform, startAssignedAgentQueueTaskWithRunSource, exec_check_bind, exec_check_bind]
    cases normalizeStartAssignedAgentQueueTaskInput input with
    | error e => rfl
    | ok n =>
      simp only [exec_bind]
      split <;> simp_all
  rw [hperform, startOutcome]
  exact exec_plain_command (p := fun n => startTransaction d n source) Prod.mk.eta.symm

/-- Bookkeeping creates no run. -/
theorem StartBookkeeping.not_creates {s t : SqliteStore} {runId : String}
    (h : StartBookkeeping s t) : ¬ CreatesRun s t runId := by
  obtain ⟨controls, actions, -, rfl⟩ := h
  intro hcreates
  cases hcreates with
  | link hlink hnew => exact hnew _ hlink rfl
  | widgetRun hrun hnew => exact hnew _ hrun rfl

/-- A launch creates the run of its link and no other. -/
theorem Launched.creates {link : AgentQueueTaskRunLinkRow} {updatedAt runId : String}
    {s t : SqliteStore} (h : Launched link updatedAt s t) (hcreates : CreatesRun s t runId) :
    runId = link.directWorkRunId := by
  obtain ⟨_, _, _, _, _, hins, hruns, -, rfl⟩ := h
  cases hcreates with
  | link hlink hnew =>
    rcases (Table.mem_insert hins _).1 hlink with hold | rfl
    · exact absurd rfl (hnew _ hold)
    · rfl
  | widgetRun hrun hnew =>
    rcases hruns with rfl | ⟨row, hid, hinsert⟩
    · exact absurd rfl (hnew _ hrun)
    · rcases (Table.mem_insert hinsert _).1 hrun with hold | rfl
      · exact absurd rfl (hnew _ hold)
      · exact hid

/-- **A call that creates a run records it** under its key, and creates no other. -/
theorem recorded_of_creates {s : SqliteStore} {d : Draws}
    {input : StartAssignedAgentQueueTaskInput} {source : AgentQueueTaskRunSource}
    {workflowRunId key runId : String} (hkey : CarriesKey workflowRunId key input)
    (hcreates : CreatesRun s (perform s (.startAssigned d input source)) runId) :
    (∀ other, CreatesRun s (perform s (.startAssigned d input source)) other → other = runId) ∧
    ∃ a ∈ (perform s (.startAssigned d input source)).agentQueueWorkflowActions,
      HasKey workflowRunId key a ∧ workflowActionResultRunId a = some runId := by
  rcases startOutcome_cases s d input source with ⟨-, hsame⟩ | ⟨n, result, hn, hrun, -⟩
  · rw [hsame] at hcreates
    exact absurd hcreates (StartBookkeeping.refl s).not_creates
  obtain ⟨context, hcontext, rfl, rfl⟩ := hkey n hn
  rcases startTransaction_ok hrun with ⟨_, _, -, -, hbook, -⟩ | ⟨-, hnew⟩
  · exact absurd hcreates hbook.not_creates
  rcases hnew with ⟨hbook, -⟩ | ⟨summary, executorId, -, hlaunched, -, hrecorded⟩
  · exact absurd hcreates hbook.not_creates
  obtain rfl := hlaunched.creates hcreates
  obtain ⟨-, a, ha, hhas, hresult⟩ := hrecorded context hcontext
  exact ⟨fun other hother => hlaunched.creates hother, a, ha, hhas, hresult⟩

/-! ## Records over a history -/

theorem keepsActions_perform (s : SqliteStore) (op : Op) :
    KeepsActions s.agentQueueWorkflowActions (perform s op).agentQueueWorkflowActions := by
  have heffect := perform_effect s op
  generalize perform s op = t at heffect
  cases heffect with
  | bookkeeping h =>
    obtain ⟨_, _, hkeeps, rfl⟩ := h
    exact hkeeps
  | launched _ h =>
    obtain ⟨_, _, _, _, _, _, _, hkeeps, rfl⟩ := h
    exact hkeeps
  | launchedSelected _ h =>
    obtain ⟨_, _, _, _, _, _, _, hkeeps, rfl⟩ := h
    exact hkeeps
  | updated _ _ h =>
    obtain ⟨_, _, rfl⟩ := h
    exact KeepsActions.refl _
  | reassigned _ h =>
    obtain ⟨_, _, rfl⟩ := h
    exact KeepsActions.refl _
  | finished _ h =>
    obtain ⟨_, _, _, rfl⟩ := h
    exact KeepsActions.refl _
  | recovered _ _ _ h =>
    obtain ⟨_, _, _, _, _, rfl⟩ := h
    exact KeepsActions.refl _
  | reported _ h =>
    obtain ⟨_, _, _, _, _, rfl⟩ := h
    exact KeepsActions.refl _
  | linkEnded _ h =>
    obtain ⟨_, rfl⟩ := h
    exact KeepsActions.refl _
  | accepted _ h =>
    obtain ⟨_, _, _, _, _, _, _, _, _, rfl⟩ := h
    exact KeepsActions.refl _
  | gaveUp _ h =>
    obtain ⟨_, _, _, rfl⟩ := h
    exact KeepsActions.refl _
  | idle => exact KeepsActions.refl _
  | created => exact KeepsActions.refl _
  | deleted => exact KeepsActions.refl _
  | linked => exact KeepsActions.refl _
  | messageCreated => exact KeepsActions.refl _
  | messageAcked => exact KeepsActions.refl _
  | others => exact KeepsActions.refl _

/-- No history forgets an action or its run. -/
theorem keepsActions_after (s : SqliteStore) (history : List Op) :
    KeepsActions s.agentQueueWorkflowActions
      (after perform s history).agentQueueWorkflowActions := by
  induction history generalizing s with
  | nil => exact KeepsActions.refl _
  | cons op history ih => exact (keepsActions_perform s op).trans (ih _)

/-- **A call whose key has a record answers from it.** -/
theorem answeredFromRecord {s : SqliteStore} {d : Draws}
    {input : StartAssignedAgentQueueTaskInput} {source : AgentQueueTaskRunSource}
    {workflowRunId key runId : String} (hkey : CarriesKey workflowRunId key input)
    {a : AgentQueueWorkflowActionRow} (ha : a ∈ s.agentQueueWorkflowActions)
    (hhas : HasKey workflowRunId key a) (hresult : workflowActionResultRunId a = some runId) :
    AnsweredFromRecord runId s d input source := by
  rcases startOutcome_cases s d input source with ⟨⟨e, he⟩, hsame⟩ | ⟨n, result, hn, hrun, hout⟩
  · refine ⟨by rw [hsame], by rw [hsame], ?_⟩
    rw [he]
    exact hsame
  obtain ⟨context, hcontext, rfl, rfl⟩ := hkey n hn
  have hexisting := getAction_eq_some.2 ⟨ha, hhas⟩
  rcases startTransaction_ok hrun with ⟨context', existing, hcontext', hget, hbook, hanswer⟩ |
      ⟨hfree, -⟩
  · obtain rfl : context = context' := Option.some.inj (hcontext.symm.trans hcontext')
    obtain rfl : a = existing := Option.some.inj (hexisting.symm.trans hget)
    obtain ⟨controls, actions, -, ht⟩ := hbook
    refine ⟨by rw [ht], by rw [ht], ?_⟩
    rw [hout]
    rw [hresult] at hanswer
    cases result with
    | started summary => exact ⟨(Option.some.inj hanswer.1).symm, hanswer.2⟩
    | blocked blocker => trivial
  · exact absurd (hexisting.symm.trans (hfree context hcontext)) (by simp)

/-- **At most one start for a key**: when a call that carries the key creates a run, it
creates this run only, and every later call with the key answers from its record. -/
theorem started_once_for_key {s : SqliteStore} {before later : List Op} {d d' : Draws}
    {input input' : StartAssignedAgentQueueTaskInput} {source source' : AgentQueueTaskRunSource}
    {workflowRunId key runId : String} (hkey : CarriesKey workflowRunId key input)
    (hkey' : CarriesKey workflowRunId key input')
    (hcreates : CreatesRun (after perform s before)
      (after perform s (before ++ [.startAssigned d input source])) runId) :
    (∀ other, CreatesRun (after perform s before)
      (after perform s (before ++ [.startAssigned d input source])) other → other = runId) ∧
    AnsweredFromRecord runId
      (after perform s (before ++ [.startAssigned d input source] ++ later)) d' input' source' := by
  have hstart := after_concat perform s before (.startAssigned d input source)
  rw [after_append perform s _ later, hstart]
  rw [hstart] at hcreates
  obtain ⟨honly, a, ha, hhas, hresult⟩ := recorded_of_creates hkey hcreates
  refine ⟨honly, ?_⟩
  obtain ⟨b, hb, hkeyB, hresultB⟩ := keepsActions_after _ later a ha
  refine answeredFromRecord hkey' hb ?_ (hresultB runId hresult)
  exact ⟨hkeyB.1.trans hhas.1, hkeyB.2.trans hhas.2⟩

/-! ## A start, and calls after it -/

/-- The hash of the settings that `startInput` gives for a task on the local backend. -/
def localSettingsHash : String := "queue-settings-fnv1a64:844e1aad64d4842b"

/-- A running workflow run that binds its upstream slot to the first task. -/
def boundWorkflowRun : AgentQueueWorkflowRunRow :=
  plainRun
    [("upstream", .obj
      [("taskId", .str firstTask), ("settingsHash", .str localSettingsHash),
        ("executionTargetHash", .str "target"), ("executionTargetKind", .str "queue_local"),
        ("providerId", .str "codex"), ("queueOwnerWidgetInstanceId", .null)])]

def oneWorkflowRun : SqliteStore :=
  { oneWorkspace "w" with
    agentQueueWorkflowRuns := ⟨[boundWorkflowRun], List.pairwise_singleton _ _⟩ }

/-- A start of the first task under a key of the workflow run. -/
def startInput : StartAssignedAgentQueueTaskInput :=
  { workspaceId := "w"
    queueItemId := firstTask
    queueOwnerWidgetInstanceId := none
    codexExecutable := "codex"
    repoRoot := "/repository"
    sandbox := "read_only"
    approvalPolicy := "never"
    timeoutMs := none
    stdoutCapBytes := none
    stderrCapBytes := none
    workflowStartContext := some
      { workflowRunId := "workflow"
        workflowActionId := none
        actionIdempotencyKey := some "key"
        slot := none
        taskId := firstTask
        executorWidgetId := none
        settingsHash := localSettingsHash
        executionTargetHash := some "target"
        expectedQueueControlVersion := none
        actorId := none
        confirmationToken := some "operator-confirmed" } }

theorem carriesKey_startInput : CarriesKey "workflow" "key" startInput := by
  intro n hn
  have hcontext : n.workflowStartContext.map (fun c => (c.workflowRunId, c.actionIdempotencyKey)) =
      some ("workflow", "key") := by
    revert n
    decide +kernel
  obtain ⟨context, hcontext, hkey⟩ := Option.map_eq_some_iff.1 hcontext
  exact ⟨context, hcontext, congrArg Prod.fst hkey, congrArg Prod.snd hkey⟩

/-- The store after the first start. -/
def startedStore : SqliteStore :=
  after perform oneWorkflowRun (firstTaskQueued ++ [.startAssigned (drawsAt 2) startInput .manual])

/-- An edit that takes the prompt of the task away. -/
def withoutPrompt : Op :=
  .updateTask (drawsAt 3) { taskUpdate "w" firstTask "draft" [] with prompt := "" }

/-- The first start launches the run of its clock reading. A call after the task has lost
its prompt ends in an error. -/
theorem startInput_outcomes :
    (∃ link ∈ startedStore.agentQueueTaskRunLinks.rows,
      link.directWorkRunId = "queue-run_2000000005_5" ∧
      ∀ old ∈ (after perform oneWorkflowRun firstTaskQueued).agentQueueTaskRunLinks.rows,
        old.linkId ≠ link.linkId) ∧
    startOutcome (perform startedStore withoutPrompt) (drawsAt 4) startInput .manual =
      .error (.invalidInput "invalid input: operator prompt must not be empty") := by
  decide +kernel

theorem creates_startInput : CreatesRun (after perform oneWorkflowRun firstTaskQueued)
    startedStore "queue-run_2000000005_5" := by
  obtain ⟨link, hlink, hrun, hnew⟩ := startInput_outcomes.1
  rw [← hrun]
  exact .link hlink hnew

theorem started_once_for_key_startInput :
    AnsweredFromRecord "queue-run_2000000005_5"
      (after perform oneWorkflowRun
        (firstTaskQueued ++ [.startAssigned (drawsAt 2) startInput .manual] ++
          [.updateTask (drawsAt 3) (taskUpdate "w" firstTask "draft" [])]))
      (drawsAt 4) startInput .manual :=
  (started_once_for_key carriesKey_startInput carriesKey_startInput creates_startInput).2

/-- A later call with the key answers neither with the recorded run nor with a blocker. -/
theorem start_fails_after_start :
    CarriesKey "workflow" "key" startInput ∧
    CreatesRun (after perform oneWorkflowRun firstTaskQueued) startedStore
      "queue-run_2000000005_5" ∧
    startOutcome (perform startedStore withoutPrompt) (drawsAt 4) startInput .manual =
      .error (.invalidInput "invalid input: operator prompt must not be empty") :=
  ⟨carriesKey_startInput, creates_startInput, startInput_outcomes.2⟩

end HobitQueue
