import HobitQueue.Service.Tasks

/-!
# The aggregate of a Queue item

The operator sees one projection of a task: its row folded together with its
latest run link, review message, evidence and decisions, and with the state of its
dependencies. Nothing of it is stored; it is computed from reads.
-/

namespace HobitQueue

open Concurrent StoreProg

/-! ## States -/

inductive QueueItemAggregateTicketState where
  | draft | queued | blocked | running | awaitingReview | inReview | done | failure | unknown
  deriving DecidableEq, Repr

def QueueItemAggregateTicketState.asStr : QueueItemAggregateTicketState → String
  | draft => "draft"
  | queued => "queued"
  | blocked => "blocked"
  | running => "running"
  | awaitingReview => "awaiting_review"
  | inReview => "in_review"
  | done => "done"
  | failure => "failure"
  | unknown => "unknown"

inductive QueueItemAggregateWorkerRunState where
  | notStarted | starting | running | completed | failed | cancelled | unavailable | unknown
  deriving DecidableEq, Repr

def QueueItemAggregateWorkerRunState.asStr : QueueItemAggregateWorkerRunState → String
  | notStarted => "not_started"
  | starting => "starting"
  | running => "running"
  | completed => "completed"
  | failed => "failed"
  | cancelled => "cancelled"
  | unavailable => "unavailable"
  | unknown => "unknown"

inductive QueueItemAggregateReviewState where
  | none | awaitingReview | reviewMessageCreated | inReview | approved | followupRequested
  | done | failed | notDurable | unknown
  deriving DecidableEq, Repr

def QueueItemAggregateReviewState.asStr : QueueItemAggregateReviewState → String
  | none => "none"
  | awaitingReview => "awaiting_review"
  | reviewMessageCreated => "review_message_created"
  | inReview => "in_review"
  | approved => "approved"
  | followupRequested => "followup_requested"
  | done => "done"
  | failed => "failed"
  | notDurable => "not_durable"
  | unknown => "unknown"

inductive QueueItemAggregateEvidenceState where
  | none | pending | available | invalid | notDurable | unknown
  deriving DecidableEq, Repr

def QueueItemAggregateEvidenceState.asStr : QueueItemAggregateEvidenceState → String
  | none => "none"
  | pending => "pending"
  | available => "available"
  | invalid => "invalid"
  | notDurable => "not_durable"
  | unknown => "unknown"

inductive QueueItemAggregateValidationState where
  | notRequested | requested | running | passed | failed | approvedPlaceholder | unknown
  deriving DecidableEq, Repr

def QueueItemAggregateValidationState.asStr : QueueItemAggregateValidationState → String
  | notRequested => "not_requested"
  | requested => "requested"
  | running => "running"
  | passed => "passed"
  | failed => "failed"
  | approvedPlaceholder => "approved_placeholder"
  | unknown => "unknown"

inductive QueueItemAggregateCommitState where
  | none | requested | approved | committed | failed | unknown
  deriving DecidableEq, Repr

def QueueItemAggregateCommitState.asStr : QueueItemAggregateCommitState → String
  | none => "none"
  | requested => "requested"
  | approved => "approved"
  | committed => "committed"
  | failed => "failed"
  | unknown => "unknown"

inductive QueueItemAggregateDependencyState where
  | none | waiting | blocked | ready | failedUpstream | unknown
  deriving DecidableEq, Repr

def QueueItemAggregateDependencyState.asStr : QueueItemAggregateDependencyState → String
  | none => "none"
  | waiting => "waiting"
  | blocked => "blocked"
  | ready => "ready"
  | failedUpstream => "failed_upstream"
  | unknown => "unknown"

structure QueueItemAggregateRunSettings where
  executionPolicy : String
  executionWorkspace : Option String
  codexExecutable : Option String
  sandbox : Option String
  approvalPolicy : Option String
  assignedExecutorWidgetId : Option String
  deriving DecidableEq

structure QueueItemAggregateLatestRun where
  runLinkId : String
  runId : String
  executorWidgetId : String
  status : String
  source : String
  startedAt : String
  completedAt : Option String
  validationStatus : Option String
  reviewStatus : Option String
  finalDetailAvailable : Bool
  deriving DecidableEq

structure QueueItemAggregateEvidenceSummary where
  available : Bool
  source : String
  summary : Option String
  notDurableReason : Option String
  deriving DecidableEq

structure QueueItemAggregateBlocker where
  code : String
  message : String
  deriving DecidableEq

structure QueueItemAggregateNextAction where
  code : String
  label : String
  available : Bool
  unavailableReason : Option String
  deriving DecidableEq

structure QueueItemAggregateDurableFlags where
  taskRow : Bool
  latestRunLink : Bool
  dependencyState : Bool
  reviewState : Bool
  evidenceState : Bool
  validationState : Bool
  commitState : Bool
  completionState : Bool
  failureState : Bool
  frontendOverlayUsed : Bool
  deriving DecidableEq

structure QueueItemAggregate where
  taskId : String
  workspaceId : String
  title : String
  ticketState : QueueItemAggregateTicketState
  workerRunState : QueueItemAggregateWorkerRunState
  reviewState : QueueItemAggregateReviewState
  evidenceState : QueueItemAggregateEvidenceState
  validationState : QueueItemAggregateValidationState
  commitState : QueueItemAggregateCommitState
  dependencyState : QueueItemAggregateDependencyState
  runSettings : QueueItemAggregateRunSettings
  latestRun : Option QueueItemAggregateLatestRun
  evidenceSummary : Option QueueItemAggregateEvidenceSummary
  blockers : List QueueItemAggregateBlocker
  nextActions : List QueueItemAggregateNextAction
  durableFlags : QueueItemAggregateDurableFlags
  updatedAt : String
  deriving DecidableEq

/-! ## The rows that were read -/

/-- The latest rows of one task. -/
structure LatestRows where
  link : Option AgentQueueTaskRunLinkRow
  reviewMessage : Option AgentQueueReviewMessageRow
  evidenceBundle : Option AgentQueueWorkerEvidenceBundleRow
  completionDecision : Option AgentQueueCompletionDecisionRow
  failureDecision : Option AgentQueueFailureDecisionRow
  widgetRun : Option WidgetRunRow

/-- The latest decisions of the tasks of a workspace, by task. -/
structure DecisionMaps where
  completions : List (String × AgentQueueCompletionDecisionRow)
  failures : List (String × AgentQueueFailureDecisionRow)

/-- `HashMap::contains_key`. -/
def containsKey {α : Type} (entries : List (String × α)) (key : String) : Bool :=
  (entries.lookup key).isSome

/-! ## How the states are computed -/

/-- The state of the latest run. -/
def workerRunState (task : AgentQueueTaskRow) (latestLink : Option AgentQueueTaskRunLinkRow) :
    QueueItemAggregateWorkerRunState :=
  match latestLink with
  | some link =>
      match link.status with
      | "running" => .running
      | "completed" | "review_needed" => .completed
      | "failed" | "timed_out" => .failed
      | "cancelled" => .cancelled
      | _ => .unknown
  | none =>
      match task.status with
      | "running" => .running
      | "completed" | "review_needed" => .completed
      | "failed" => .failed
      | "cancelled" => .cancelled
      | "draft" | "queued" | "ready" => .notStarted
      | _ => .unknown

/-- The loop over the dependencies, with whether all so far are accepted. -/
def dependencyStateFrom (allTasks : List AgentQueueTaskRow) (decisions : DecisionMaps)
    (allReady : Bool) : List String → QueueItemAggregateDependencyState
  | [] => if allReady then .ready else .waiting
  | dependencyId :: rest =>
      match allTasks.find? (·.queueItemId == dependencyId) with
      | none => .unknown
      | some upstream =>
          if containsKey decisions.completions dependencyId then
            dependencyStateFrom allTasks decisions allReady rest
          else if containsKey decisions.failures dependencyId then .failedUpstream
          else if upstream.status = "blocked" then .blocked
          else if upstream.status = "cancelled" then .failedUpstream
          else dependencyStateFrom allTasks decisions false rest

def dependencyState (task : AgentQueueTaskRow) (allTasks : List AgentQueueTaskRow)
    (decisions : DecisionMaps) : QueueItemAggregateDependencyState :=
  match rowDependencyIds task with
  | [] => .none
  | dependencyIds => dependencyStateFrom allTasks decisions true dependencyIds

/-- A link whose run has ended. -/
def endedLink (link : AgentQueueTaskRunLinkRow) : Bool :=
  ["completed", "review_needed", "failed", "timed_out", "cancelled"].contains link.status

/-- The state of a ticket: decisions first, then the run and the review. -/
def ticketState (task : AgentQueueTaskRow) (rows : LatestRows)
    (workerRunState : QueueItemAggregateWorkerRunState)
    (dependencyState : QueueItemAggregateDependencyState) : QueueItemAggregateTicketState :=
  if rows.completionDecision.isSome then .done
  else if rows.failureDecision.isSome then .failure
  else if workerRunState = .running then .running
  else if rows.reviewMessage.any (·.status == "acknowledged") then .inReview
  else if workerRunState ∈
        [QueueItemAggregateWorkerRunState.completed, .failed, .cancelled] ∨
      task.status ∈ ["completed", "review_needed"] ∨ rows.link.any endedLink then
    .awaitingReview
  else if dependencyState ∈ [QueueItemAggregateDependencyState.blocked, .failedUpstream] ∧
      task.status ∈ ["queued", "ready"] then .blocked
  else
    match task.status with
    | "draft" => .draft
    | "queued" | "ready" => .queued
    | "running" => .running
    | "failed" => .awaitingReview
    | "cancelled" => .failure
    | _ => .unknown

/-- The state of the review. -/
def reviewState (task : AgentQueueTaskRow) (rows : LatestRows)
    (ticketState : QueueItemAggregateTicketState) : QueueItemAggregateReviewState :=
  if rows.completionDecision.isSome then .done
  else if rows.failureDecision.isSome then .failed
  else if ticketState = .failure then .failed
  else
    match rows.reviewMessage with
    | some message =>
        match message.status with
        | "acknowledged" => .inReview
        | "created" => .reviewMessageCreated
        | _ => .unknown
    | none =>
        if rows.link.bind (·.reviewStatus) = some "review_needed" ∨
            ticketState = .awaitingReview ∨ task.status = "review_needed" then
          .awaitingReview
        else .none

def evidenceState (rows : LatestRows) (ticketState : QueueItemAggregateTicketState) :
    QueueItemAggregateEvidenceState :=
  if rows.evidenceBundle.isSome then .available
  else
    match rows.link with
    | some link =>
        if link.status = "running" then .pending
        else if endedLink link then .notDurable
        else .unknown
    | none => if ticketState = .awaitingReview then .notDurable else .none

def validationState (latestLink : Option AgentQueueTaskRunLinkRow) :
    QueueItemAggregateValidationState :=
  match latestLink.bind (·.validationStatus) with
  | some "requested" => .requested
  | some "running" => .running
  | some "passed" => .passed
  | some "failed" => .failed
  | some "approved_placeholder" => .approvedPlaceholder
  | some _ => .unknown
  | none => .notRequested

def runSettings (task : AgentQueueTaskRow) : QueueItemAggregateRunSettings :=
  { executionPolicy := task.executionPolicy
    executionWorkspace := task.executionWorkspace
    codexExecutable := task.codexExecutable
    sandbox := task.sandbox
    approvalPolicy := task.approvalPolicy
    assignedExecutorWidgetId := task.assignedExecutorWidgetId }

def latestRun (link : AgentQueueTaskRunLinkRow) (rows : LatestRows) :
    QueueItemAggregateLatestRun :=
  { runLinkId := link.linkId
    runId := link.directWorkRunId
    executorWidgetId := link.executorWidgetId
    status := link.status
    source := link.source
    startedAt := link.startedAt
    completedAt := link.completedAt
    validationStatus := link.validationStatus
    reviewStatus := link.reviewStatus
    finalDetailAvailable := rows.evidenceBundle.isSome ||
      rows.widgetRun.any fun run => run.finishedAt.isSome || run.summary.isSome }

def summaryCap : ℕ := 500

def boundedSummary (value : String) : String :=
  if value.length ≤ summaryCap then value
  else String.ofList (value.toList.take summaryCap) ++ "..."

def evidenceSummary (rows : LatestRows) (evidenceState : QueueItemAggregateEvidenceState)
    (ticketState : QueueItemAggregateTicketState) : Option QueueItemAggregateEvidenceSummary :=
  match evidenceState with
  | .available => some {
      available := true
      source := "durable_worker_evidence_bundle"
      summary := ((rows.evidenceBundle.map fun bundle => boundedSummary bundle.summary).or
        ((rows.widgetRun.bind (·.summary)).map boundedSummary)).or
        (rows.link.map fun link =>
          "Queue-linked Direct Work run finished with status " ++ link.status ++ ".")
      notDurableReason := none }
  | .notDurable =>
      if ticketState = .awaitingReview then some {
        available := false
        source := "missing_durable_evidence_bundle"
        summary := none
        notDurableReason :=
          some "Queue worker evidence bundle has not been recorded durably yet." }
      else none
  | _ => none

/-- An optional setting that is absent or blank. -/
def isBlank (value : Option String) : Bool := Text.trim (value.getD "") == ""

/-- The run settings a task must have, with the blockers they give rise to. -/
def settingBlockers (task : AgentQueueTaskRow) : List QueueItemAggregateBlocker :=
  ([(some task.prompt, "missing_prompt", "Task prompt"),
    (task.executionWorkspace, "missing_workspace", "Execution workspace"),
    (task.codexExecutable, "missing_codex_executable", "Codex executable"),
    (task.sandbox, "missing_sandbox", "Sandbox"),
    (task.approvalPolicy, "missing_approval_policy", "Approval policy")].filter
      fun (value, _, _) => isBlank value).map
    fun (_, code, name) => ⟨code, name ++ " is required before running."⟩

def dependencyBlockers : QueueItemAggregateDependencyState → List QueueItemAggregateBlocker
  | .waiting => [⟨"dependency_waiting",
      "At least one dependency has not reached accepted completion."⟩]
  | .failedUpstream => [⟨"dependency_failed",
      "At least one dependency failed before accepted completion."⟩]
  | .blocked => [⟨"dependency_blocked", "At least one dependency is blocked."⟩]
  | .unknown => [⟨"dependency_unknown", "Queue task dependency state is unknown."⟩]
  | .none | .ready => []

def ticketBlockers : QueueItemAggregateTicketState → List QueueItemAggregateBlocker
  | .running => [⟨"worker_running", "Worker run is already active."⟩]
  | .awaitingReview => [⟨"awaiting_review", "Worker result is awaiting explicit review."⟩]
  | .failure => [⟨"final_failed", "Queue item is in failure state."⟩]
  | _ => []

def blockers (task : AgentQueueTaskRow) (ticketState : QueueItemAggregateTicketState)
    (dependencyState : QueueItemAggregateDependencyState) : List QueueItemAggregateBlocker :=
  settingBlockers task ++
    (if ticketState = .draft then
      [⟨"task_is_draft", "Draft task must be promoted before running."⟩] else []) ++
    dependencyBlockers dependencyState ++ ticketBlockers ticketState

/-! ## What can be done next -/

def availableAction (code label : String) : QueueItemAggregateNextAction :=
  ⟨code, label, true, none⟩

def noAction (reason : String) : QueueItemAggregateNextAction :=
  ⟨"none", "No action", false, some reason⟩

def updateRunSettingsAction : QueueItemAggregateNextAction :=
  availableAction "update_run_settings" "Update run settings"

def dependencyUnavailableReason : QueueItemAggregateDependencyState → String
  | .waiting => "dependencies_not_ready"
  | .blocked => "dependency_blocked"
  | .failedUpstream => "dependency_failed"
  | .unknown => "dependency_unknown"
  | .none | .ready => "dependencies_ready"

def dependencyPreventsProgress (state : QueueItemAggregateDependencyState) : Bool :=
  state ∈ [QueueItemAggregateDependencyState.waiting, .blocked, .failedUpstream, .unknown]

def hasMissingRunSettings (blockers : List QueueItemAggregateBlocker) : Bool :=
  blockers.any fun blocker =>
    ["missing_prompt", "missing_workspace", "missing_codex_executable", "missing_sandbox",
      "missing_approval_policy"].contains blocker.code

def draftReadyForPromotion (task : AgentQueueTaskRow) : Bool :=
  Text.trim task.prompt != "" && !isBlank task.executionWorkspace &&
    !isBlank task.codexExecutable && !isBlank task.sandbox && !isBlank task.approvalPolicy

def draftActions (task : AgentQueueTaskRow) (blockers : List QueueItemAggregateBlocker) :
    List QueueItemAggregateNextAction :=
  let actions :=
    (if hasMissingRunSettings blockers then [updateRunSettingsAction] else []) ++
    (if draftReadyForPromotion task then [availableAction "promote_draft" "Promote draft"]
      else [])
  if actions.isEmpty then [updateRunSettingsAction] else actions

def reviewAction : QueueItemAggregateReviewState → QueueItemAggregateNextAction
  | .awaitingReview => availableAction "create_review_message" "Create review message"
  | .reviewMessageCreated => availableAction "ack_review" "Acknowledge review message"
  | .inReview => noAction "in_review"
  | .done => noAction "final_done"
  | .failed => noAction "final_failed"
  | .unknown => noAction "unknown_review_state"
  | _ => noAction "review_not_required"

/-- The actions the view suggests. -/
def nextActions (task : AgentQueueTaskRow) (ticketState : QueueItemAggregateTicketState)
    (reviewState : QueueItemAggregateReviewState)
    (dependencyState : QueueItemAggregateDependencyState)
    (blockers : List QueueItemAggregateBlocker) : List QueueItemAggregateNextAction :=
  if dependencyPreventsProgress dependencyState then
    [noAction (dependencyUnavailableReason dependencyState)]
  else
    match ticketState with
    | .draft => draftActions task blockers
    | .queued =>
        if hasMissingRunSettings blockers then [updateRunSettingsAction]
        else [availableAction "start_run" "Start run"]
    | .awaitingReview => [reviewAction reviewState]
    | .inReview => [availableAction "mark_done" "Mark done"]
    | .running => [noAction "worker_running"]
    | .failure => [noAction "final_failed"]
    | .done => [noAction "final_done"]
    | .blocked => [noAction "blocked"]
    | .unknown => [noAction "unknown_state"]

def durableFlags (rows : LatestRows) (reviewState : QueueItemAggregateReviewState)
    (evidenceState : QueueItemAggregateEvidenceState)
    (validationState : QueueItemAggregateValidationState)
    (commitState : QueueItemAggregateCommitState) : QueueItemAggregateDurableFlags :=
  { taskRow := true
    latestRunLink := rows.link.isSome
    dependencyState := true
    reviewState := reviewState ∉ [QueueItemAggregateReviewState.notDurable, .unknown]
    evidenceState :=
      evidenceState ∈ [QueueItemAggregateEvidenceState.none, .pending, .available]
    validationState := validationState ≠ .unknown
    commitState := commitState = .none
    completionState := rows.completionDecision.isSome
    failureState := rows.failureDecision.isSome
    frontendOverlayUsed := false }

/-! ## The projection -/

/-- All that the store says of a task, in one view. -/
def buildQueueItemAggregate (task : AgentQueueTaskRow) (allTasks : List AgentQueueTaskRow)
    (decisions : DecisionMaps) (rows : LatestRows) : QueueItemAggregate :=
  let workerRunState := workerRunState task rows.link
  let dependencyState := dependencyState task allTasks decisions
  let ticketState := ticketState task rows workerRunState dependencyState
  let reviewState := reviewState task rows ticketState
  let evidenceState := evidenceState rows ticketState
  let validationState := validationState rows.link
  let blockers := blockers task ticketState dependencyState
  { taskId := task.queueItemId
    workspaceId := task.workspaceId
    title := task.title
    ticketState := ticketState
    workerRunState := workerRunState
    reviewState := reviewState
    evidenceState := evidenceState
    validationState := validationState
    commitState := .none
    dependencyState := dependencyState
    runSettings := runSettings task
    latestRun := rows.link.map fun link => latestRun link rows
    evidenceSummary := evidenceSummary rows evidenceState ticketState
    blockers := blockers
    nextActions := nextActions task ticketState reviewState dependencyState blockers
    durableFlags := durableFlags rows reviewState evidenceState validationState .none
    updatedAt := task.updatedAt }

/-! ## The reads -/

/-- The entry of a map, when there is a row for the key. -/
def insertSome {α : Type} (key : String) (row : Option α) (entries : List (String × α)) :
    List (String × α) :=
  match row with
  | some row => (key, row) :: entries
  | none => entries

/-- The decisions of the tasks of a workspace, two reads a task. -/
def readDecisionMaps (workspaceId : String) : List AgentQueueTaskRow → Service DecisionMaps
  | [] => pure ⟨[], []⟩
  | candidate :: rest => do
      let completion ← query fun s =>
        s.getLatestAgentQueueCompletionDecision workspaceId candidate.queueItemId
      let failure ← query fun s =>
        s.getLatestAgentQueueFailureDecision workspaceId candidate.queueItemId
      let decisions ← readDecisionMaps workspaceId rest
      pure ⟨insertSome candidate.queueItemId completion decisions.completions,
        insertSome candidate.queueItemId failure decisions.failures⟩

/-- The widget run of the latest link, if there is a link. -/
def readWidgetRun (link : Option AgentQueueTaskRunLinkRow) : Service (Option WidgetRunRow) :=
  match link with
  | none => pure none
  | some link => query fun s => s.getWidgetRun link.directWorkRunId

/-- The rows of a task that is there, each read on its own. -/
def readQueueItemAggregate (workspaceId : String) (task : AgentQueueTaskRow) :
    Service QueueItemAggregate := do
  let taskId := task.queueItemId
  let allTasks ← query fun s => s.listAgentQueueTasks workspaceId
  let link ← query fun s => s.getLatestAgentQueueTaskRunLink workspaceId taskId
  let reviewMessage ← query fun s => s.getLatestAgentQueueReviewMessage workspaceId taskId
  let evidenceBundle ← query fun s =>
    s.getLatestAgentQueueWorkerEvidenceBundle workspaceId taskId
  let completionDecision ← query fun s =>
    s.getLatestAgentQueueCompletionDecision workspaceId taskId
  let failureDecision ← query fun s => s.getLatestAgentQueueFailureDecision workspaceId taskId
  let decisions ← readDecisionMaps workspaceId allTasks
  let widgetRun ← readWidgetRun link
  pure (buildQueueItemAggregate task allTasks decisions
    ⟨link, reviewMessage, evidenceBundle, completionDecision, failureDecision, widgetRun⟩)

/-- The workspace exists, and the task does not belong to another one. The same
check stands in front of the review commands. -/
def validateQueueItemAggregateAccess (workspaceId taskId : String) : Service Unit :=
  validateAgentQueueTaskWorkspaceAccess workspaceId taskId

/-- The projection of a task, with the reads it needs. -/
def getQueueItemAggregate (workspaceId taskId : String) :
    Service (Option QueueItemAggregate) := do
  let workspaceId ← check (requiredInput workspaceId "workspace id")
  let taskId ← check (requiredInput taskId "queue item id")
  validateQueueItemAggregateAccess workspaceId taskId
  let task ← query fun s => s.getAgentQueueTask workspaceId taskId
  match task with
  | none => pure none
  | some task => do
      let aggregate ← readQueueItemAggregate workspaceId task
      pure (some aggregate)

/-- `ok_or_else`: the aggregate of a task that must be there. -/
def requireQueueItemAggregate (workspaceId queueItemId : String) :
    Service QueueItemAggregate := do
  let aggregate ← getQueueItemAggregate workspaceId queueItemId
  match aggregate with
  | some aggregate => pure aggregate
  | none => throw (.invalidInput ("queue task not found: " ++ queueItemId))

/-! ## The projection of one store

Without writes between its reads, the projection is a function of the store. -/

namespace SqliteStore

variable (s : SqliteStore)

/-- The decisions of some tasks, as the reads collect them. -/
def decisionMaps (workspaceId : String) (tasks : List AgentQueueTaskRow) : DecisionMaps where
  completions := tasks.foldr (fun task => insertSome task.queueItemId
    (s.getLatestAgentQueueCompletionDecision workspaceId task.queueItemId)) []
  failures := tasks.foldr (fun task => insertSome task.queueItemId
    (s.getLatestAgentQueueFailureDecision workspaceId task.queueItemId)) []

/-- The latest rows of a task. -/
def latestRows (workspaceId taskId : String) : LatestRows where
  link := s.getLatestAgentQueueTaskRunLink workspaceId taskId
  reviewMessage := s.getLatestAgentQueueReviewMessage workspaceId taskId
  evidenceBundle := s.getLatestAgentQueueWorkerEvidenceBundle workspaceId taskId
  completionDecision := s.getLatestAgentQueueCompletionDecision workspaceId taskId
  failureDecision := s.getLatestAgentQueueFailureDecision workspaceId taskId
  widgetRun := (s.getLatestAgentQueueTaskRunLink workspaceId taskId).bind fun link =>
    s.getWidgetRun link.directWorkRunId

/-- The aggregate of a task of the store. -/
def queueItemAggregate (workspaceId : String) (task : AgentQueueTaskRow) : QueueItemAggregate :=
  let tasks := s.listAgentQueueTasks workspaceId
  buildQueueItemAggregate task tasks (s.decisionMaps workspaceId tasks)
    (s.latestRows workspaceId task.queueItemId)

end SqliteStore

/-- A ticket in review has no decision. -/
theorem decisions_of_ticketState {task : AgentQueueTaskRow} {rows : LatestRows}
    {workerRunState : QueueItemAggregateWorkerRunState}
    {dependencyState : QueueItemAggregateDependencyState}
    (h : ticketState task rows workerRunState dependencyState = .inReview) :
    rows.completionDecision = none ∧ rows.failureDecision = none := by
  unfold ticketState at h
  split_ifs at h with hcompletion hfailure
  all_goals exact ⟨by simpa using hcompletion, by simpa using hfailure⟩

theorem decisions_of_inReview {s : SqliteStore} {workspaceId : String} {task : AgentQueueTaskRow}
    (h : (s.queueItemAggregate workspaceId task).ticketState = .inReview) :
    (s.latestRows workspaceId task.queueItemId).completionDecision = none ∧
      (s.latestRows workspaceId task.queueItemId).failureDecision = none :=
  decisions_of_ticketState h

theorem exec_readDecisionMaps (workspaceId : String) (tasks : List AgentQueueTaskRow)
    (s : SqliteStore) :
    exec (readDecisionMaps workspaceId tasks) s = (.ok (s.decisionMaps workspaceId tasks), s) := by
  induction tasks with
  | nil => rfl
  | cons task rest ih =>
    simp only [readDecisionMaps, exec_query_bind]
    rw [exec_bind, ih]
    rfl

theorem exec_readQueueItemAggregate (workspaceId : String) (task : AgentQueueTaskRow)
    (s : SqliteStore) :
    exec (readQueueItemAggregate workspaceId task) s =
      (.ok (s.queueItemAggregate workspaceId task), s) := by
  simp only [readQueueItemAggregate, exec_query_bind]
  rw [exec_bind, exec_readDecisionMaps]
  simp only [readWidgetRun]
  cases hlink : s.getLatestAgentQueueTaskRunLink workspaceId task.queueItemId with
  | none =>
    simp [exec_bind, SqliteStore.queueItemAggregate, SqliteStore.latestRows, hlink]
  | some link =>
    simp [SqliteStore.queueItemAggregate, SqliteStore.latestRows, hlink]

theorem readOnly_readDecisionMaps (workspaceId : String) (tasks : List AgentQueueTaskRow) :
    (readDecisionMaps workspaceId tasks).ReadOnly := by
  induction tasks with
  | nil => exact readOnly_pure _
  | cons task rest ih =>
    exact (readOnly_query _).bind fun _ => (readOnly_query _).bind fun _ =>
      ih.bind fun _ => readOnly_pure _

theorem readOnly_readWidgetRun (link : Option AgentQueueTaskRunLinkRow) :
    (readWidgetRun link).ReadOnly := by
  cases link with
  | none => exact readOnly_pure _
  | some link => exact readOnly_query _

theorem readOnly_readQueueItemAggregate (workspaceId : String) (task : AgentQueueTaskRow) :
    (readQueueItemAggregate workspaceId task).ReadOnly :=
  (readOnly_query _).bind fun _ => (readOnly_query _).bind fun _ =>
    (readOnly_query _).bind fun _ => (readOnly_query _).bind fun _ =>
      (readOnly_query _).bind fun _ => (readOnly_query _).bind fun _ =>
        (readOnly_readDecisionMaps _ _).bind fun _ => (readOnly_readWidgetRun _).bind fun _ =>
          readOnly_pure _

theorem readOnly_getQueueItemAggregate (workspaceId taskId : String) :
    (getQueueItemAggregate workspaceId taskId).ReadOnly := by
  refine (readOnly_check _).bind fun _ => (readOnly_check _).bind fun _ =>
    (readOnly_validateAgentQueueTaskWorkspaceAccess _ _).bind fun _ =>
      (readOnly_query _).bind fun task => ?_
  cases task with
  | none => exact readOnly_pure _
  | some task =>
    exact (readOnly_readQueueItemAggregate _ _).bind fun _ => readOnly_pure _

theorem readOnly_requireQueueItemAggregate (workspaceId queueItemId : String) :
    (requireQueueItemAggregate workspaceId queueItemId).ReadOnly := by
  refine (readOnly_getQueueItemAggregate _ _).bind fun aggregate => ?_
  cases aggregate with
  | none => exact readOnly_throw _
  | some aggregate => exact readOnly_pure _

/-- **The aggregate that was read is the projection of the stored task.** -/
theorem getQueueItemAggregate_ok {workspaceId taskId w i : String} {s t : SqliteStore}
    {aggregate : Option QueueItemAggregate}
    (hw : requiredInput workspaceId "workspace id" = .ok w)
    (hi : requiredInput taskId "queue item id" = .ok i)
    (h : exec (getQueueItemAggregate workspaceId taskId) s = (.ok aggregate, t)) :
    aggregate = (s.getAgentQueueTask w i).map (s.queueItemAggregate w) := by
  simp only [getQueueItemAggregate, exec_check_bind, hw, hi] at h
  rw [exec_bind_ok] at h
  obtain ⟨⟨⟩, u, haccess, h⟩ := h
  obtain rfl := (readOnly_validateAgentQueueTaskWorkspaceAccess _ _).state haccess
  rw [exec_query_bind] at h
  cases hget : u.getAgentQueueTask w i with
  | none =>
    rw [hget] at h
    exact (Except.ok.inj (Prod.mk.inj h).1).symm
  | some task =>
    simp only [hget, exec_bind, exec_readQueueItemAggregate] at h
    exact (Except.ok.inj (Prod.mk.inj h).1).symm

theorem requireQueueItemAggregate_ok {workspaceId queueItemId w i : String}
    {s t : SqliteStore} {aggregate : QueueItemAggregate}
    (hw : requiredInput workspaceId "workspace id" = .ok w)
    (hi : requiredInput queueItemId "queue item id" = .ok i)
    (h : exec (requireQueueItemAggregate workspaceId queueItemId) s = (.ok aggregate, t)) :
    ∃ task, s.getAgentQueueTask w i = some task ∧ aggregate = s.queueItemAggregate w task := by
  rw [requireQueueItemAggregate, exec_bind_ok] at h
  obtain ⟨found, u, hget, h⟩ := h
  have hfound := getQueueItemAggregate_ok hw hi hget
  cases found with
  | none => cases (Prod.mk.inj h).1
  | some found =>
    obtain ⟨task, htask, rfl⟩ := Option.map_eq_some_iff.1 hfound.symm
    exact ⟨task, htask, (Except.ok.inj (Prod.mk.inj h).1).symm⟩

/-! ## The projection beside other clients

With writes of others in between, each row is the latest one of a store of its own. -/

section Beside

variable {assume : SqliteStore → Prop} {commit : SqliteStore → SqliteStore → Prop}

/-- The rows of a task, each the latest one in a store that met the assumption. -/
structure SeenRows (assume : SqliteStore → Prop) (workspaceId taskId : String)
    (rows : LatestRows) : Prop where
  link : ∃ s, assume s ∧ rows.link = s.getLatestAgentQueueTaskRunLink workspaceId taskId
  reviewMessage : ∃ s, assume s ∧
    rows.reviewMessage = s.getLatestAgentQueueReviewMessage workspaceId taskId
  evidenceBundle : ∃ s, assume s ∧
    rows.evidenceBundle = s.getLatestAgentQueueWorkerEvidenceBundle workspaceId taskId
  completionDecision : ∃ s, assume s ∧
    rows.completionDecision = s.getLatestAgentQueueCompletionDecision workspaceId taskId
  failureDecision : ∃ s, assume s ∧
    rows.failureDecision = s.getLatestAgentQueueFailureDecision workspaceId taskId

/-- An aggregate built from rows that were seen. -/
def SeenAggregate (assume : SqliteStore → Prop) (workspaceId taskId : String)
    (aggregate : QueueItemAggregate) : Prop :=
  ∃ task allTasks decisions rows, SeenRows assume workspaceId taskId rows ∧
    aggregate = buildQueueItemAggregate task allTasks decisions rows

theorem guarantees_readQueueItemAggregate (hread : ∀ s, commit s s) (workspaceId : String)
    (task : AgentQueueTaskRow) :
    (readQueueItemAggregate workspaceId task).Guarantees assume commit
      (SeenAggregate assume workspaceId task.queueItemId) := by
  rw [readQueueItemAggregate]
  refine (guarantees_query_seen hread).bind fun allTasks _ => ?_
  refine (guarantees_query_seen hread).bind fun link hlink => ?_
  refine (guarantees_query_seen hread).bind fun message hmessage => ?_
  refine (guarantees_query_seen hread).bind fun bundle hbundle => ?_
  refine (guarantees_query_seen hread).bind fun completion hcompletion => ?_
  refine (guarantees_query_seen hread).bind fun failure hfailure => ?_
  refine ((readOnly_readDecisionMaps _ _).guarantees hread).bind fun decisions _ => ?_
  refine ((readOnly_readWidgetRun _).guarantees hread).bind fun widgetRun _ => ?_
  exact guarantees_pure ⟨task, allTasks, decisions, _,
    ⟨hlink, hmessage, hbundle, hcompletion, hfailure⟩, rfl⟩

theorem guarantees_getQueueItemAggregate (hread : ∀ s, commit s s)
    {workspaceId taskId w i : String} (hw : requiredInput workspaceId "workspace id" = .ok w)
    (hi : requiredInput taskId "queue item id" = .ok i) :
    (getQueueItemAggregate workspaceId taskId).Guarantees assume commit fun found =>
      ∀ aggregate ∈ found, SeenAggregate assume w i aggregate := by
  rw [getQueueItemAggregate]
  refine (guarantees_check_ok _).bind fun w' hw' => ?_
  refine (guarantees_check_ok _).bind fun i' hi' => ?_
  obtain rfl := Except.ok.inj (hw.symm.trans hw')
  obtain rfl := Except.ok.inj (hi.symm.trans hi')
  refine ((readOnly_validateAgentQueueTaskWorkspaceAccess _ _).guarantees hread).bind fun _ _ => ?_
  refine (guarantees_query_seen hread).bind ?_
  rintro task ⟨s, -, rfl⟩
  cases htask : s.getAgentQueueTask _ _ with
  | none =>
    refine guarantees_pure ?_
    rintro _ ⟨⟩
  | some task =>
    have hid := Relational.Table.sat_of_find htask
    simp only [Bool.and_eq_true, beq_iff_eq] at hid
    refine (guarantees_readQueueItemAggregate hread _ task).bind fun aggregate hseen => ?_
    refine guarantees_pure ?_
    rintro _ ⟨⟩
    exact hid.2 ▸ hseen

/-- **What the aggregate shows was seen**, row by row. -/
theorem guarantees_requireQueueItemAggregate (hread : ∀ s, commit s s)
    {workspaceId taskId w i : String} (hw : requiredInput workspaceId "workspace id" = .ok w)
    (hi : requiredInput taskId "queue item id" = .ok i) :
    (requireQueueItemAggregate workspaceId taskId).Guarantees assume commit
      (SeenAggregate assume w i) := by
  rw [requireQueueItemAggregate]
  refine (guarantees_getQueueItemAggregate hread hw hi).bind fun found hfound => ?_
  cases found with
  | none => exact guarantees_throw _
  | some aggregate => exact guarantees_pure (hfound aggregate rfl)

end Beside

end HobitQueue
