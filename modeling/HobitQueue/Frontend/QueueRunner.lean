import HobitQueue.Desktop.RunnerCommands
import HobitQueue.Frontend.DependencyGates
import HobitQueue.Lib.Comparators

/-!
# The sequential runner of the frontend

The runner walks the tasks in display order, passes over those that it has started, that are
not runnable or that have no prompt, and lets the first other task decide: it is started, or
it says why not. The desktop's autorun selects over the same list with its own loop.

## Main results

* `next_task_agrees` — when the runner and the autorun start the same task.
-/

namespace HobitQueue.Frontend

open JavaScript

/-! ## Display order -/

/-- What the order takes from the language environment. -/
structure Locale where
  localeCompare : String → String → ℤ
  toLowerCase : String → String

/-- Texts compared by their code points. -/
def plainLocale : Locale :=
  { localeCompare := Comparator.ofOrder, toLowerCase := String.toLower }

def defaultQueueTagId : String := "default"

def defaultQueueTagName : String := "Default"

structure QueueTag where
  queueTagId : String
  queueTagName : String

/-- Runs of other characters become one dash, and dashes at the ends go. -/
def queueTagNameToId (locale : Locale) (queueTagName : String) : String :=
  let dashed := (locale.toLowerCase (trim queueTagName)).toList.map fun c =>
    if c.isLower || c.isDigit then c else '-'
  let joined := dashed.foldr (fun c rest => if c = '-' ∧ rest.head? = some '-' then rest
    else c :: rest) []
  let id := String.ofList ((joined.dropWhile (· = '-')).rdropWhile (· = '-'))
  if id = "" then defaultQueueTagId else id

def normalizeQueueTag (locale : Locale) (task : AgentQueueTask) : QueueTag :=
  let queueTagName := (nonEmptyTrim task.queueTagName).getD defaultQueueTagName
  { queueTagId := (nonEmptyTrim task.queueTagId).getD (queueTagNameToId locale queueTagName)
    queueTagName := queueTagName }

def minPriority : ℤ := 0

def maxPriority : ℤ := 5

def normalizeTaskPriority (priority : ℤ) : ℤ := max minPriority (min priority maxPriority)

/-- The difference of two order indexes, a missing one counted as infinite; the difference of
two infinite ones is not a number and reads as no difference. -/
def orderIndexDifference : Option ℤ → Option ℤ → ℤ
  | some first, some second => first - second
  | some _, none => -1
  | none, some _ => 1
  | none, none => 0

/-- `a || b` of two numbers. -/
def orNext (difference next : ℤ) : ℤ := if difference = 0 then next else difference

def compareQueueTasksForOrder (locale : Locale) (first second : AgentQueueTask) : ℤ :=
  let firstTag := normalizeQueueTag locale first
  let secondTag := normalizeQueueTag locale second
  orNext (locale.localeCompare firstTag.queueTagName secondTag.queueTagName) <|
    orNext (locale.localeCompare firstTag.queueTagId secondTag.queueTagId) <|
      orNext (normalizeTaskPriority second.priority - normalizeTaskPriority first.priority) <|
        orNext (orderIndexDifference first.orderIndex second.orderIndex) <|
          orNext (locale.localeCompare first.createdAt second.createdAt)
            (locale.localeCompare first.queueItemId second.queueItemId)

/-- The display order, by what the language environment compares. -/
def sortQueueTasksForDisplay (locale : Locale) (tasks : List AgentQueueTask) :
    List AgentQueueTask :=
  tasks.mergeSort fun first second => decide (compareQueueTasksForOrder locale first second ≤ 0)

/-! ## Routing -/

inductive WorkerScope where
  | all
  | queueTag (queueTagId : String)

/-- What routing reads of a worker. -/
structure AgentWorkerSummary where
  workerId : String
  enabled : Bool
  scope : WorkerScope

inductive AgentQueueRoutingBlockedReasonCode where
  | assignedWorkerUnavailable | assignedToAnotherWorker | itemAwaitingCoordinatorReview
  | itemDependencyGraphInvalid | itemMissingPrompt | itemNotRunnableStatus
  | itemValidationInProgress | queueStopKillRequested | queueStopped | queueTagPaused
  | workerDisabled | workerScopeMismatch | waitingForDependencies
  deriving DecidableEq

structure AgentQueueRoutingBlockedReason where
  code : AgentQueueRoutingBlockedReasonCode
  label : String

def routingBlockedReason (code : AgentQueueRoutingBlockedReasonCode) :
    AgentQueueRoutingBlockedReason :=
  { code
    label := match code with
      | .assignedWorkerUnavailable => "Assigned worker is unavailable"
      | .assignedToAnotherWorker => "Item is assigned to another worker"
      | .itemAwaitingCoordinatorReview => "Item is awaiting coordinator review"
      | .itemDependencyGraphInvalid => "Item dependency graph is invalid"
      | .itemMissingPrompt => "Item prompt is empty"
      | .itemNotRunnableStatus => "Item is not in a runnable execution state"
      | .itemValidationInProgress => "Item validation is in progress"
      | .queueStopped => "Queue is disabled"
      | .queueStopKillRequested => "Stop + kill running requested"
      | .queueTagPaused => "Queue tag is paused"
      | .workerDisabled => "Worker is disabled"
      | .workerScopeMismatch => "Worker is scoped to another queue tag"
      | .waitingForDependencies => "Item is waiting for dependencies" }

structure AgentQueueRoutingContext where
  globalExecutionState : AgentQueueGlobalExecutionState
  pausedQueueTagIds : List String
  tasks : List AgentQueueTask
  /-- The entries of a map; a task without one has the state it has among the tasks. -/
  dependencyStates : List (String × AgentQueueDependencyState) := []

/-- One reason under a condition. -/
def reasonIf (condition : Bool) (code : AgentQueueRoutingBlockedReasonCode) :
    List AgentQueueRoutingBlockedReason :=
  if condition then [routingBlockedReason code] else []

/-- `if (assignedWorkerId && assignedWorkerId !== worker.workerId)`. -/
def assignedElsewhere (workerId : String) : Option String → Bool
  | some assignedWorkerId => assignedWorkerId != "" && assignedWorkerId != workerId
  | none => false

/-- Why a worker cannot take a task. -/
def getWorkerItemBlockedReasons (locale : Locale) (worker : AgentWorkerSummary)
    (item : AgentQueueTask) (context : AgentQueueRoutingContext) :
    List AgentQueueRoutingBlockedReason :=
  let queueTag := normalizeQueueTag locale item
  let dependencyState := (mapGet context.dependencyStates item.queueItemId).getD
    (getQueueTaskDependencyState item context.tasks)
  reasonIf (queueGlobalExecutionStateBlocksNewWork context.globalExecutionState)
      (if context.globalExecutionState = .stopKillRequested then .queueStopKillRequested
        else .queueStopped) ++
    reasonIf (!worker.enabled) .workerDisabled ++
    reasonIf (!isQueueTaskRunnableStatus item.status) .itemNotRunnableStatus ++
    reasonIf (!hasQueueTaskRunnablePrompt item.prompt) .itemMissingPrompt ++
    reasonIf (item.validationStatus = some .validating) .itemValidationInProgress ++
    reasonIf (coordinatorStatusBlocksNewWork item.coordinatorStatus)
      .itemAwaitingCoordinatorReview ++
    reasonIf (context.pausedQueueTagIds.contains queueTag.queueTagId) .queueTagPaused ++
    (match dependencyState.status with
      | .invalid => [routingBlockedReason .itemDependencyGraphInvalid]
      | .blocked => [routingBlockedReason .waitingForDependencies]
      | .ready => []) ++
    reasonIf
      (match worker.scope with
        | .all => false
        | .queueTag queueTagId => queueTagId != queueTag.queueTagId)
      .workerScopeMismatch ++
    reasonIf
      (assignedElsewhere worker.workerId
        (item.assignedWorkerId.or item.assignedExecutorWidgetId))
      .assignedToAnotherWorker

/-! ## The runner -/

inductive QueueRunnerTaskStopReason where
  | assignedToDifferentExecutor | dependencyBlocked | manual | pausedQueueTag
  | previousSuccessRequired | previousTaskNotSuccessful | routingBlocked
  deriving DecidableEq

inductive QueueRunnerTaskDecision where
  | start (requiresAssignment : Bool) (skippedTaskCount : ℕ) (task : AgentQueueTask)
  | stop (reason : QueueRunnerTaskStopReason)
      (blockedReasons : Option (List AgentQueueRoutingBlockedReason))
      (dependencyState : Option AgentQueueDependencyState) (skippedTaskCount : ℕ)
      (task : AgentQueueTask)
  | completed (skippedTaskCount : ℕ)

structure QueueRunnerTaskDecisionInput where
  previousTaskStatus : Option QueueRunnerPreviousTaskStatus
  pausedQueueTagIds : List String := []
  selectedExecutorWidgetId : String
  startedQueueItemIds : List String := []
  tasks : List AgentQueueTask
  globalExecutionState : AgentQueueGlobalExecutionState := .started
  workers : List AgentWorkerSummary := []

def defaultWorkerForExecutor (workerId : String) : AgentWorkerSummary :=
  { workerId, enabled := true, scope := .all }

/-- What a task of the walk decides; nothing when it is passed over. -/
def decisionAtTask (locale : Locale) (input : QueueRunnerTaskDecisionInput)
    (skippedTaskCount : ℕ) (task : AgentQueueTask) : Option QueueRunnerTaskDecision :=
  if task.queueItemId ∈ input.startedQueueItemIds then none
  else
    match getQueueRunnerPolicyDecision task.executionPolicy input.previousTaskStatus task.prompt
        task.status with
    | .skipMissingPrompt | .skipNotRunnableStatus => none
    | .stopForManual => some (.stop .manual none none skippedTaskCount task)
    | .stopWaitingForPreviousSuccess =>
      some (.stop .previousSuccessRequired none none skippedTaskCount task)
    | .stopPreviousTaskNotSuccessful =>
      some (.stop .previousTaskNotSuccessful none none skippedTaskCount task)
    | .run =>
      let selectedWorker := (input.workers.find?
        (·.workerId = input.selectedExecutorWidgetId)).getD
          (defaultWorkerForExecutor input.selectedExecutorWidgetId)
      let blockedReasons := getWorkerItemBlockedReasons locale selectedWorker task
        { globalExecutionState := input.globalExecutionState
          pausedQueueTagIds := input.pausedQueueTagIds
          tasks := input.tasks }
      if blockedReasons.any (·.code = .assignedToAnotherWorker) then
        some (.stop .assignedToDifferentExecutor none none skippedTaskCount task)
      else if blockedReasons.any fun reason =>
          reason.code = .itemDependencyGraphInvalid || reason.code = .waitingForDependencies then
        some (.stop .dependencyBlocked (some blockedReasons)
          (some (getQueueTaskDependencyState task input.tasks)) skippedTaskCount task)
      else if blockedReasons.any (·.code = .queueTagPaused) then
        some (.stop .pausedQueueTag (some blockedReasons) none skippedTaskCount task)
      else if blockedReasons ≠ [] then
        some (.stop .routingBlocked (some blockedReasons) none skippedTaskCount task)
      else
        some (.start (task.assignedExecutorWidgetId.getD "" == "") skippedTaskCount task)

/-- The walk, with the number of tasks passed over. -/
def walkTasks (locale : Locale) (input : QueueRunnerTaskDecisionInput) (skippedTaskCount : ℕ) :
    List AgentQueueTask → QueueRunnerTaskDecision
  | [] => .completed skippedTaskCount
  | task :: rest =>
    match decisionAtTask locale input skippedTaskCount task with
    | some decision => decision
    | none => walkTasks locale input (skippedTaskCount + 1) rest

/-- The task that the runner takes next, or why it takes none. -/
def getNextQueueRunnerTaskDecision (locale : Locale) (input : QueueRunnerTaskDecisionInput) :
    QueueRunnerTaskDecision :=
  walkTasks locale input 0 (sortQueueTasksForDisplay locale input.tasks)

/-! ## One list on both sides -/

/-- A decision without the count of the tasks passed over and the details of a stop. -/
inductive QueueRunnerAnswer where
  | start (task : AgentQueueTask) (requiresAssignment : Bool)
  | stop (reason : QueueRunnerTaskStopReason) (task : AgentQueueTask)
  | completed
  deriving DecidableEq

def QueueRunnerTaskDecision.answer : QueueRunnerTaskDecision → QueueRunnerAnswer
  | .start requiresAssignment _ task => .start task requiresAssignment
  | .stop reason _ _ _ task => .stop reason task
  | .completed _ => .completed

def taskStatusOfText (status : String) : AgentQueueTaskStatus :=
  if status = "draft" then .draft
  else if status = "queued" then .queued
  else if status = "ready" then .ready
  else if status = "running" then .running
  else if status = "completed" then .completed
  else if status = "failed" then .failed
  else if status = "cancelled" then .cancelled
  else if status = "review_needed" then .reviewNeeded
  else .other status

def executionPolicyOfText (executionPolicy : String) : AgentQueueTaskExecutionPolicy :=
  if executionPolicy = "manual" then .manual
  else if executionPolicy = "auto" then .auto
  else if executionPolicy = "after_previous_success" then .afterPreviousSuccess
  else .other executionPolicy

/-- A stored task with what the frontend keeps beside it. -/
structure QueuedTask where
  row : AgentQueueTaskRow
  orderIndex : Option ℤ
  queueTagId : Option String
  queueTagName : Option String
  validationStatus : Option AgentQueueTaskValidationStatus
  assignedWorkerId : Option String
  workerExecutionReports : List AgentQueueWorkerExecutionReport
  coordinatorStatus : Option AgentQueueCoordinatorStatus
  closureState : Option AgentQueueClosureState

/-- The task as the frontend holds it. -/
def QueuedTask.task (q : QueuedTask) : AgentQueueTask :=
  { queueItemId := q.row.queueItemId
    title := q.row.title
    prompt := q.row.prompt
    status := taskStatusOfText q.row.status
    priority := q.row.priority
    orderIndex := q.orderIndex
    dependsOn := some (rowDependencyIds q.row)
    executionPolicy := some (executionPolicyOfText q.row.executionPolicy)
    executionWorkspace := q.row.executionWorkspace
    codexExecutable := q.row.codexExecutable
    queueTagId := q.queueTagId
    queueTagName := q.queueTagName
    validationStatus := q.validationStatus
    assignedWorkerId := q.assignedWorkerId
    workerExecutionReports := q.workerExecutionReports
    coordinatorStatus := q.coordinatorStatus
    closureState := q.closureState
    assignedExecutorWidgetId := q.row.assignedExecutorWidgetId
    createdAt := q.row.createdAt
    updatedAt := q.row.updatedAt }

namespace QueuedTask

def isManual (q : QueuedTask) : Bool := q.row.executionPolicy == "manual"

def isRunnable (q : QueuedTask) : Bool := isAutorunRunnableStatus q.row.status

/-- The result of the task before, as each side is told of it. -/
def previousTaskStatus : QueueAutorunSelectionMode → Option QueueRunnerPreviousTaskStatus
  | .initialStart => none
  | .afterSuccessfulTask => some .completed

/-- The frontend's answer over the list, the Queue started and no tag paused. -/
def runnerAnswer (locale : Locale) (mode : QueueAutorunSelectionMode)
    (executorWidgetId : String) (tasks : List QueuedTask) : QueueRunnerAnswer :=
  (getNextQueueRunnerTaskDecision locale
    { previousTaskStatus := previousTaskStatus mode
      selectedExecutorWidgetId := executorWidgetId
      tasks := tasks.map (·.task) }).answer

/-- The autorun's selection over the list. -/
def autorunSelection (mode : QueueAutorunSelectionMode) (executorWidgetId : String)
    (tasks : List QueuedTask) : QueueAutorunTaskSelection :=
  selectNextAutorunTaskForMode (tasks.map (·.row)) executorWidgetId mode

/-- The lists over which the two are compared. -/
structure Comparable (locale : Locale) (tasks : List QueuedTask) : Prop where
  displayOrder : tasks.Pairwise fun first second =>
    compareQueueTasksForOrder locale first.task second.task ≤ 0
  distinct : (tasks.map (·.row.queueItemId)).Nodup
  policy : ∀ q ∈ tasks, q.row.executionPolicy ∈ ["manual", "auto", "after_previous_success"]
  assignment : ∀ q ∈ tasks, q.assignedWorkerId = none
  dependencies : ∀ q ∈ tasks, rowDependencyIds q.row = []
  coordinator : ∀ q ∈ tasks, coordinatorStatusBlocksNewWork q.coordinatorStatus = false
  validation : ∀ q ∈ tasks, q.validationStatus ≠ some .validating

theorem Comparable.filter {locale : Locale} {tasks : List QueuedTask}
    (h : Comparable locale tasks) (keep : QueuedTask → Bool) :
    Comparable locale (tasks.filter keep) where
  displayOrder := h.displayOrder.sublist List.filter_sublist
  distinct := h.distinct.sublist (List.filter_sublist.map _)
  policy q hq := h.policy q (List.mem_of_mem_filter hq)
  assignment q hq := h.assignment q (List.mem_of_mem_filter hq)
  dependencies q hq := h.dependencies q (List.mem_of_mem_filter hq)
  coordinator q hq := h.coordinator q (List.mem_of_mem_filter hq)
  validation q hq := h.validation q (List.mem_of_mem_filter hq)

/-! ## The frontend's answer -/

/-- What a task answers for itself, when nothing around it matters. -/
def verdict (mode : QueueAutorunSelectionMode) (executorWidgetId : String) (q : QueuedTask) :
    Option QueueRunnerAnswer :=
  match getQueueRunnerPolicyDecision q.task.executionPolicy (previousTaskStatus mode)
      q.task.prompt q.task.status with
  | .skipMissingPrompt | .skipNotRunnableStatus => none
  | .stopForManual => some (.stop .manual q.task)
  | .stopWaitingForPreviousSuccess => some (.stop .previousSuccessRequired q.task)
  | .stopPreviousTaskNotSuccessful => some (.stop .previousTaskNotSuccessful q.task)
  | .run =>
    if assignedElsewhere executorWidgetId q.row.assignedExecutorWidgetId then
      some (.stop .assignedToDifferentExecutor q.task)
    else some (.start q.task (q.row.assignedExecutorWidgetId.getD "" == ""))

section

variable {locale : Locale} {mode : QueueAutorunSelectionMode} {executorWidgetId : String}
  {tasks : List QueuedTask} {q : QueuedTask}

theorem runs_iff {executionPolicy : Option AgentQueueTaskExecutionPolicy}
    {previous : Option QueueRunnerPreviousTaskStatus} {prompt : String}
    {status : AgentQueueTaskStatus} :
    getQueueRunnerPolicyDecision executionPolicy previous prompt status = .run ↔
      isQueueTaskRunnableStatus status = true ∧ hasQueueTaskRunnablePrompt prompt = true ∧
        (normalizeQueueExecutionPolicy executionPolicy = .auto ∨
          normalizeQueueExecutionPolicy executionPolicy ≠ .manual ∧
            previous = some .completed) := by
  simp only [getQueueRunnerPolicyDecision]
  split_ifs with h₁ h₂ h₃ h₄
  · simp [h₁]
  · simp only [Bool.not_eq_true'] at h₂
    simp [h₂]
  · simp only [Bool.not_eq_true'] at h₃
    simp [h₃]
  · simp only [Bool.not_eq_true', Bool.not_eq_false] at h₂ h₃
    simp [h₂, h₃, h₄]
  · simp only [Bool.not_eq_true', Bool.not_eq_false] at h₂ h₃
    rcases previous with _ | ⟨_ | _ | _ | _⟩ <;> simp [h₁, h₂, h₃, h₄]

/-- A task that runs by its policy can only be held back by its assignment. -/
theorem blockedReasons_of_run (h : Comparable locale tasks) (hq : q ∈ tasks)
    {all : List AgentQueueTask}
    (hrun : getQueueRunnerPolicyDecision q.task.executionPolicy (previousTaskStatus mode)
      q.task.prompt q.task.status = .run) :
    getWorkerItemBlockedReasons locale (defaultWorkerForExecutor executorWidgetId) q.task
        { globalExecutionState := .started, pausedQueueTagIds := [], tasks := all } =
      reasonIf (assignedElsewhere executorWidgetId q.row.assignedExecutorWidgetId)
        .assignedToAnotherWorker := by
  obtain ⟨hstatus, hprompt, -⟩ := runs_iff.1 hrun
  have hready : (getQueueTaskDependencyState q.task all).status = .ready := by
    rw [getQueueTaskDependencyState_ready]
    intro id hid
    have hnone : q.task.dependsOn = some [] := by rw [task, h.dependencies q hq]
    rw [hnone] at hid
    simp [trimmedDependencies] at hid
  have hcoordinator : coordinatorStatusBlocksNewWork q.task.coordinatorStatus = false :=
    h.coordinator q hq
  have hvalidation : q.task.validationStatus ≠ some .validating := h.validation q hq
  have hassigned : q.task.assignedWorkerId.or q.task.assignedExecutorWidgetId =
      q.row.assignedExecutorWidgetId := by
    simp [task, h.assignment q hq]
  have hnone : mapGet ([] : List (String × AgentQueueDependencyState)) q.task.queueItemId = none :=
    rfl
  simp [getWorkerItemBlockedReasons, defaultWorkerForExecutor, hnone, hready, hstatus, hprompt,
    hcoordinator, hvalidation, hassigned, reasonIf, queueGlobalExecutionStateBlocksNewWork]

/-- **Under the conditions of the comparison every task answers for itself.** -/
theorem decisionAtTask_answer (h : Comparable locale tasks) (hq : q ∈ tasks)
    {all : List AgentQueueTask} {skippedTaskCount : ℕ} :
    (decisionAtTask locale
        { previousTaskStatus := previousTaskStatus mode
          selectedExecutorWidgetId := executorWidgetId
          tasks := all } skippedTaskCount q.task).map (·.answer) =
      verdict mode executorWidgetId q := by
  simp only [decisionAtTask, verdict, List.not_mem_nil, if_false, List.find?_nil,
    Option.getD_none]
  cases hpolicy : getQueueRunnerPolicyDecision q.task.executionPolicy (previousTaskStatus mode)
      q.task.prompt q.task.status
  case run =>
    simp only [blockedReasons_of_run h hq hpolicy]
    cases hassigned : assignedElsewhere executorWidgetId q.row.assignedExecutorWidgetId <;>
      simp [reasonIf, routingBlockedReason, QueueRunnerTaskDecision.answer, task]
  all_goals rfl

theorem walkTasks_answer (h : Comparable locale tasks) {all : List AgentQueueTask}
    {rest : List QueuedTask} (hrest : ∀ q ∈ rest, q ∈ tasks) {skippedTaskCount : ℕ} :
    (walkTasks locale
        { previousTaskStatus := previousTaskStatus mode
          selectedExecutorWidgetId := executorWidgetId
          tasks := all } skippedTaskCount (rest.map (·.task))).answer =
      (rest.findSome? (verdict mode executorWidgetId)).getD .completed := by
  induction rest generalizing skippedTaskCount with
  | nil => rfl
  | cons q rest ih =>
    have hone := @decisionAtTask_answer _ mode executorWidgetId _ q h (hrest q List.mem_cons_self)
      all skippedTaskCount
    rw [List.map_cons, walkTasks, List.findSome?_cons, ← hone]
    cases hdecision : decisionAtTask locale
        { previousTaskStatus := previousTaskStatus mode
          selectedExecutorWidgetId := executorWidgetId
          tasks := all } skippedTaskCount q.task with
    | some decision => simp
    | none => simpa using ih fun p hp => hrest p (List.mem_cons_of_mem _ hp)

/-- **The first task with a verdict decides.** -/
theorem runnerAnswer_eq (h : Comparable locale tasks) :
    runnerAnswer locale mode executorWidgetId tasks =
      (tasks.findSome? (verdict mode executorWidgetId)).getD .completed := by
  have hsorted : sortQueueTasksForDisplay locale (tasks.map (·.task)) = tasks.map (·.task) := by
    refine List.mergeSort_of_pairwise ((List.pairwise_map).2 (h.displayOrder.imp ?_))
    intro first second hle
    exact decide_eq_true hle
  rw [runnerAnswer, getNextQueueRunnerTaskDecision, hsorted]
  exact walkTasks_answer h fun _ hq => hq

/-! ## Agreement -/

/-- Tasks that answer nothing can be removed from a search. -/
theorem findSome?_filter {α β : Type*} {answer : α → Option β} {keep : α → Bool} {l : List α}
    (hkeep : ∀ a ∈ l, keep a = false → answer a = none) :
    (l.filter keep).findSome? answer = l.findSome? answer := by
  induction l with
  | nil => rfl
  | cons a l ih =>
    have hrest := ih fun b hb => hkeep b (List.mem_cons_of_mem _ hb)
    cases ha : keep a with
    | true => rw [List.filter_cons_of_pos ha, List.findSome?_cons, List.findSome?_cons, hrest]
    | false =>
      have hnone := hkeep a List.mem_cons_self ha
      rw [List.filter_cons_of_neg (by simp [ha]), List.findSome?_cons, hnone, hrest]

theorem isQueueTaskRunnableStatus_taskStatusOfText (status : String) :
    isQueueTaskRunnableStatus (taskStatusOfText status) = isAutorunRunnableStatus status := by
  rw [Bool.eq_iff_iff]
  simp only [taskStatusOfText, isAutorunRunnableStatus, isQueueTaskRunnableStatus, Bool.or_eq_true,
    beq_iff_eq]
  split_ifs with h₁ h₂ h₃ h₄ h₅ h₆ h₇ h₈ <;> simp_all

/-- The frontend reads a known policy as itself. -/
theorem manual_iff (h : Comparable locale tasks) (hq : q ∈ tasks) :
    normalizeQueueExecutionPolicy q.task.executionPolicy = .manual ↔ q.isManual = true := by
  have hpolicy := h.policy q hq
  simp only [List.mem_cons, List.not_mem_nil, or_false] at hpolicy
  rcases hpolicy with heq | heq | heq <;>
    simp [task, isManual, heq, executionPolicyOfText, normalizeQueueExecutionPolicy]

theorem verdict_eq_none (h : Comparable locale tasks) (hq : q ∈ tasks) :
    verdict mode executorWidgetId q = none ↔
      q.isManual = false ∧
        (q.isRunnable = false ∨ hasQueueTaskRunnablePrompt q.row.prompt = false) := by
  have hmanual := manual_iff h hq
  have hstatus : isQueueTaskRunnableStatus q.task.status = q.isRunnable :=
    isQueueTaskRunnableStatus_taskStatusOfText _
  have hprompt : hasQueueTaskRunnablePrompt q.task.prompt =
      hasQueueTaskRunnablePrompt q.row.prompt := rfl
  by_cases hpolicy : q.isManual = true
  · simp [verdict, getQueueRunnerPolicyDecision, hmanual.2 hpolicy, hpolicy]
  · have hnot : normalizeQueueExecutionPolicy q.task.executionPolicy ≠ .manual :=
      fun heq => hpolicy (hmanual.1 heq)
    simp only [verdict, getQueueRunnerPolicyDecision, hnot, if_false, hstatus, hprompt]
    cases hr : q.isRunnable <;> cases hp : hasQueueTaskRunnablePrompt q.row.prompt
    · simp [hpolicy]
    · simp [hpolicy]
    · simp [hpolicy]
    · simp only [Bool.not_true, Bool.false_eq_true, if_false, Bool.true_eq_false, or_self,
        and_false, iff_false]
      cases mode <;> split_ifs <;> simp [previousTaskStatus]

/-- What the first runnable task of the autorun's list answers. -/
def rowSelection (mode : QueueAutorunSelectionMode) (executorWidgetId : String)
    (q : QueuedTask) : QueueAutorunTaskSelection :=
  selectNextAutorunTaskForMode [q.row] executorWidgetId mode

theorem verdict_start {t : AgentQueueTask} {requiresAssignment : Bool}
    (h : verdict mode executorWidgetId q = some (.start t requiresAssignment)) : t = q.task := by
  unfold verdict at h
  split at h <;> try split_ifs at h
  all_goals simp_all

theorem rowSelection_start {queueItemId : String}
    (h : rowSelection mode executorWidgetId q = .start queueItemId) :
    queueItemId = q.row.queueItemId := by
  unfold rowSelection selectNextAutorunTaskForMode at h
  cases hr : isAutorunRunnableStatus q.row.status
  · simp [hr] at h
  · simp only [List.find?_cons, hr] at h
    split_ifs at h
    cases hassigned : q.row.assignedExecutorWidgetId with
    | none => simp [hassigned] at h
    | some assigned =>
      simp only [hassigned] at h
      split_ifs at h
      exact (QueueAutorunTaskSelection.start.inj h).symm

theorem autorunSelection_eq :
    autorunSelection mode executorWidgetId tasks =
      match tasks.find? (·.isRunnable) with
      | none => .stop .noRunnableTasks
      | some q => rowSelection mode executorWidgetId q := by
  have hfind : (tasks.map (·.row)).find? (fun row => isAutorunRunnableStatus row.status) =
      (tasks.find? (·.isRunnable)).map (·.row) := by
    rw [List.find?_map]
    rfl
  rw [autorunSelection, selectNextAutorunTaskForMode, hfind]
  cases hq : tasks.find? (·.isRunnable) with
  | none => rfl
  | some q =>
    have hrunnable : isAutorunRunnableStatus q.row.status = true := by
      simpa [isRunnable] using List.find?_some hq
    simp [rowSelection, selectNextAutorunTaskForMode, hrunnable]

/-- A runnable task that the frontend passes over and the autorun stops at. -/
def isPassedOver (q : QueuedTask) : Bool :=
  q.isRunnable && !q.isManual && !hasQueueTaskRunnablePrompt q.row.prompt

/-- A task that ends the walk of the frontend, when no manual task is past running. -/
def isDecisive (q : QueuedTask) : Bool := q.isRunnable && !q.isPassedOver

theorem findSome?_verdict (h : Comparable locale tasks)
    (hmanual : ∀ q ∈ tasks, q.isManual = true → q.isRunnable = true)
    {rest : List QueuedTask} (hrest : ∀ q ∈ rest, q ∈ tasks) :
    rest.findSome? (verdict mode executorWidgetId) =
      (rest.find? (·.isDecisive)).bind (verdict mode executorWidgetId) := by
  induction rest with
  | nil => rfl
  | cons q rest ih =>
    have hq := hrest q List.mem_cons_self
    have hnone := @verdict_eq_none _ mode executorWidgetId _ _ h hq
    have hrest' := ih fun p hp => hrest p (List.mem_cons_of_mem _ hp)
    rw [List.findSome?_cons, List.find?_cons]
    cases hd : q.isDecisive with
    | true =>
      cases hverdict : verdict mode executorWidgetId q with
      | some answer => simp [hverdict]
      | none =>
        obtain ⟨hauto, hskip⟩ := hnone.1 hverdict
        simp only [isDecisive, isPassedOver, hauto] at hd
        rcases hskip with hskip | hskip <;> simp [hskip] at hd
    | false =>
      have hskip : verdict mode executorWidgetId q = none := by
        rw [hnone]
        cases hm : q.isManual with
        | true =>
          simp [isDecisive, isPassedOver, hm, hmanual q hq hm] at hd
        | false =>
          refine ⟨rfl, ?_⟩
          cases hr : q.isRunnable with
          | false => exact Or.inl rfl
          | true => exact Or.inr (by simpa [isDecisive, isPassedOver, hm, hr] using hd)
      rw [hskip]
      exact hrest'

/-- **A decisive task is started by both sides or by none.** -/
theorem verdict_start_iff (h : Comparable locale tasks) (hq : q ∈ tasks)
    (hd : q.isDecisive = true)
    (hprompt : trim q.row.prompt = "" ↔ Text.trim q.row.prompt = "")
    (hexecutor : executorWidgetId ≠ "") :
    verdict mode executorWidgetId q = some (.start q.task false) ↔
      rowSelection mode executorWidgetId q = .start q.row.queueItemId := by
  have hrunnable : isAutorunRunnableStatus q.row.status = true :=
    (Bool.and_eq_true_iff.1 hd).1
  have hstatus : isQueueTaskRunnableStatus (taskStatusOfText q.row.status) = true :=
    (isQueueTaskRunnableStatus_taskStatusOfText _).trans hrunnable
  cases hm : q.isManual with
  | true =>
    have hpolicy : q.row.executionPolicy = "manual" := by simpa [isManual] using hm
    have hverdict : verdict mode executorWidgetId q = some (.stop .manual q.task) := by
      simp [verdict, getQueueRunnerPolicyDecision, (manual_iff h hq).2 hm]
    have hselection : rowSelection mode executorWidgetId q ≠ .start q.row.queueItemId := by
      simp only [rowSelection, selectNextAutorunTaskForMode, List.find?_cons, hrunnable, hpolicy]
      split_ifs <;> simp
    simp [hverdict, hselection]
  | false =>
    have hhas : hasQueueTaskRunnablePrompt q.row.prompt = true := by
      simpa [isDecisive, isPassedOver, hm, show q.isRunnable = true from hrunnable] using hd
    have hrust : Text.trim q.row.prompt ≠ "" := by
      rw [Ne, ← hprompt]
      simpa [hasQueueTaskRunnablePrompt] using hhas
    have hpolicy := h.policy q hq
    have hnot : q.row.executionPolicy ≠ "manual" := by simpa [isManual] using hm
    simp only [List.mem_cons, List.not_mem_nil, or_false, hnot, false_or] at hpolicy
    have hassigned : (if assignedElsewhere executorWidgetId q.row.assignedExecutorWidgetId then
          some (QueueRunnerAnswer.stop .assignedToDifferentExecutor q.task)
        else some (.start q.task (q.row.assignedExecutorWidgetId.getD "" == ""))) =
          some (.start q.task false) ↔
        q.row.assignedExecutorWidgetId = some executorWidgetId := by
      cases q.row.assignedExecutorWidgetId with
      | none => simp [assignedElsewhere]
      | some assigned =>
        by_cases hempty : assigned = ""
        · simp [assignedElsewhere, hempty, hexecutor.symm]
        · by_cases heq : assigned = executorWidgetId
          · simp [assignedElsewhere, heq, hexecutor]
          · simp [assignedElsewhere, hempty, heq]
    have hselection : rowSelection mode executorWidgetId q = .start q.row.queueItemId ↔
        (q.row.executionPolicy = "auto" ∨ mode = .afterSuccessfulTask) ∧
          q.row.assignedExecutorWidgetId = some executorWidgetId := by
      simp only [rowSelection, selectNextAutorunTaskForMode, List.find?_cons, hrunnable, hrust,
        hnot, if_false]
      rcases hpolicy with heq | heq <;> cases mode <;>
        cases q.row.assignedExecutorWidgetId <;> simp [heq]
    have hverdict : verdict mode executorWidgetId q = some (.start q.task false) ↔
        (q.row.executionPolicy = "auto" ∨ mode = .afterSuccessfulTask) ∧
          q.row.assignedExecutorWidgetId = some executorWidgetId := by
      rw [← hassigned]
      rcases hpolicy with heq | heq <;> cases mode <;>
        simp [verdict, getQueueRunnerPolicyDecision, hstatus, hhas, heq, task,
          executionPolicyOfText, normalizeQueueExecutionPolicy, previousTaskStatus]
    rw [hverdict, hselection]

end

/-- **The runner and the autorun.** Tasks that cannot run do not change what the autorun
selects, nor what the frontend answers unless they are manual. Where no manual task is past
running, the prompts are blank on both sides or on none and the executor has an id, the two
start the same task, the autorun without the tasks that the frontend passes over for want of
a prompt. -/
theorem next_task_agrees (locale : Locale) (mode : QueueAutorunSelectionMode)
    (executorWidgetId : String) (tasks : List QueuedTask) (h : Comparable locale tasks) :
    (∀ keep : QueuedTask → Bool, (∀ q ∈ tasks, keep q = false → q.isRunnable = false) →
      autorunSelection mode executorWidgetId (tasks.filter keep) =
        autorunSelection mode executorWidgetId tasks) ∧
    (∀ keep : QueuedTask → Bool,
      (∀ q ∈ tasks, keep q = false → q.isRunnable = false ∧ q.isManual = false) →
        runnerAnswer locale mode executorWidgetId (tasks.filter keep) =
          runnerAnswer locale mode executorWidgetId tasks) ∧
    ((∀ q ∈ tasks, q.isManual = true → q.isRunnable = true) →
      (∀ q ∈ tasks, trim q.row.prompt = "" ↔ Text.trim q.row.prompt = "") →
        executorWidgetId ≠ "" →
          ∀ q ∈ tasks, runnerAnswer locale mode executorWidgetId tasks = .start q.task false ↔
            autorunSelection mode executorWidgetId (tasks.filter fun q => !q.isPassedOver) =
              .start q.row.queueItemId) := by
  refine ⟨fun keep hkeep => ?_, fun keep hkeep => ?_, fun hmanual hprompt hexecutor q hq => ?_⟩
  · have hfind : (tasks.filter keep).find? (·.isRunnable) = tasks.find? (·.isRunnable) := by
      rw [← List.findSome?_guard, ← List.findSome?_guard]
      refine findSome?_filter fun q hq hdrop => ?_
      simp [Option.guard, hkeep q hq hdrop]
    rw [autorunSelection_eq, autorunSelection_eq, hfind]
  · rw [runnerAnswer_eq (h.filter keep), runnerAnswer_eq h, findSome?_filter]
    intro q hq hdrop
    exact (verdict_eq_none h hq).2 ⟨(hkeep q hq hdrop).2, Or.inl (hkeep q hq hdrop).1⟩
  · have hfind : (tasks.filter fun q => !q.isPassedOver).find? (·.isRunnable) =
        tasks.find? (·.isDecisive) := by
      rw [List.find?_filter]
      congr 1
      funext p
      simp [isDecisive, Bool.and_comm]
    rw [autorunSelection_eq, hfind, runnerAnswer_eq h, findSome?_verdict h hmanual fun _ hp => hp]
    cases hp : tasks.find? (·.isDecisive) with
    | none => simp
    | some p =>
      have hmem := List.mem_of_find?_eq_some hp
      have hagree := @verdict_start_iff _ mode executorWidgetId _ p h hmem (List.find?_some hp)
        (hprompt p hmem) hexecutor
      have hinj : p.row.queueItemId = q.row.queueItemId → p = q := fun heq =>
        List.inj_on_of_nodup_map h.distinct hmem hq heq
      simp only [Option.bind_some]
      constructor
      · intro hfront
        cases hverdict : verdict mode executorWidgetId p with
        | none => simp [hverdict] at hfront
        | some answer =>
          rw [hverdict, Option.getD_some] at hfront
          rw [hfront] at hverdict
          obtain rfl := hinj (congrArg AgentQueueTask.queueItemId (verdict_start hverdict)).symm
          exact hagree.1 hverdict
      · intro hback
        obtain rfl := hinj (rowSelection_start hback).symm
        rw [hagree.2 hback, Option.getD_some]

/-! ## Lists on which they part -/

def sampleTask (queueItemId status executionPolicy prompt executor : String)
    (orderIndex : ℤ) : QueuedTask :=
  { row :=
      { queueItemId, status, executionPolicy, prompt
        workspaceId := "workspace", title := queueItemId, description := "", priority := 0
        dependsOn := dependenciesJson [], executionWorkspace := none, codexExecutable := none
        sandbox := none, approvalPolicy := none, contextJson := none
        assignedExecutorWidgetId := some executor, createdAt := "1", updatedAt := "1" }
    orderIndex := some orderIndex, queueTagId := some "default", queueTagName := none
    validationStatus := none, assignedWorkerId := none, workerExecutionReports := []
    coordinatorStatus := none, closureState := none }

theorem comparable_pair {first second : QueuedTask}
    (hlists : ∀ q ∈ [first, second], ∃ queueItemId status executionPolicy prompt executor i,
      q = sampleTask queueItemId status executionPolicy prompt executor i ∧
        executionPolicy ∈ ["manual", "auto", "after_previous_success"])
    (horder : compareQueueTasksForOrder plainLocale first.task second.task ≤ 0)
    (hne : first.row.queueItemId ≠ second.row.queueItemId) :
    Comparable plainLocale [first, second] := by
  refine ⟨by simpa using horder, by simpa using hne, ?_, ?_, ?_, ?_, ?_⟩ <;> intro q hq <;>
    obtain ⟨queueItemId, status, executionPolicy, prompt, executor, i, rfl, hpolicy⟩ := hlists q hq
  · exact hpolicy
  · rfl
  · simp [rowDependencyIds, sampleTask]
  · rfl
  · simp [sampleTask]

/-- A manual task that is done. -/
def doneTask : QueuedTask := sampleTask "done" "completed" "manual" "Tidy up." "executor" 0

/-- A task to be run without a prompt. -/
def blankTask : QueuedTask := sampleTask "blank" "ready" "auto" "" "executor" 0

/-- A prompt that only the frontend calls blank. -/
def markTask : QueuedTask := sampleTask "mark" "ready" "auto" "\uFEFF" "executor" 0

/-- A task assigned to an executor without an id. -/
def namelessTask : QueuedTask := sampleTask "nameless" "ready" "auto" "Go on." "" 0

def nextTask : QueuedTask := sampleTask "next" "ready" "auto" "Go on." "executor" 1

theorem runner_and_autorun_part :
    (Comparable plainLocale [doneTask, nextTask] ∧
      autorunSelection .initialStart "executor" [doneTask, nextTask] = .start "next" ∧
      runnerAnswer plainLocale .initialStart "executor" [doneTask, nextTask] =
        .stop .manual doneTask.task) ∧
    (Comparable plainLocale [blankTask, nextTask] ∧
      autorunSelection .initialStart "executor" [blankTask, nextTask] = .stop .missingPrompt ∧
      runnerAnswer plainLocale .initialStart "executor" [blankTask, nextTask] =
        .start nextTask.task false) ∧
    (Comparable plainLocale [markTask, nextTask] ∧
      autorunSelection .initialStart "executor" [markTask, nextTask] = .start "mark" ∧
      runnerAnswer plainLocale .initialStart "executor" [markTask, nextTask] =
        .start nextTask.task false) ∧
    (Comparable plainLocale [namelessTask, nextTask] ∧
      autorunSelection .initialStart "" [namelessTask, nextTask] = .start "nameless" ∧
      runnerAnswer plainLocale .initialStart "" [namelessTask, nextTask] =
        .start namelessTask.task true) := by
  have hpair : ∀ first : QueuedTask, first ∈ [doneTask, blankTask, markTask, namelessTask] →
      Comparable plainLocale [first, nextTask] := by
    intro first hfirst
    simp only [List.mem_cons, List.not_mem_nil, or_false] at hfirst
    refine comparable_pair ?_ ?_ ?_
    · intro q hq
      simp only [List.mem_cons, List.not_mem_nil, or_false] at hq
      rcases hq with rfl | rfl
      · rcases hfirst with rfl | rfl | rfl | rfl <;> exact ⟨_, _, _, _, _, _, rfl, by simp⟩
      · exact ⟨_, _, _, _, _, _, rfl, by simp⟩
    · rcases hfirst with rfl | rfl | rfl | rfl <;> decide +kernel
    · rcases hfirst with rfl | rfl | rfl | rfl <;> decide +kernel
  have hdone := hpair doneTask (by simp)
  have hblank := hpair blankTask (by simp)
  have hmark := hpair markTask (by simp)
  have hnameless := hpair namelessTask (by simp)
  refine ⟨⟨hdone, by decide +kernel, ?_⟩, ⟨hblank, by decide +kernel, ?_⟩,
    ⟨hmark, by decide +kernel, ?_⟩, ⟨hnameless, by decide +kernel, ?_⟩⟩
  · rw [runnerAnswer_eq hdone]
    decide +kernel
  · rw [runnerAnswer_eq hblank]
    decide +kernel
  · rw [runnerAnswer_eq hmark]
    decide +kernel
  · rw [runnerAnswer_eq hnameless]
    decide +kernel

/-- The comparison at two tasks in order, the first without a prompt. -/
theorem next_task_agrees_blank :
    runnerAnswer plainLocale .initialStart "executor" [blankTask, nextTask] =
        .start nextTask.task false ↔
      autorunSelection .initialStart "executor"
        ([blankTask, nextTask].filter fun q => !q.isPassedOver) = .start "next" := by
  have hpair : Comparable plainLocale [blankTask, nextTask] := by
    refine comparable_pair ?_ (by decide +kernel) (by decide +kernel)
    intro q hq
    simp only [List.mem_cons, List.not_mem_nil, or_false] at hq
    rcases hq with rfl | rfl <;> exact ⟨_, _, _, _, _, _, rfl, by simp⟩
  exact (next_task_agrees plainLocale .initialStart "executor" [blankTask, nextTask] hpair).2.2
    (by decide +kernel) (by decide +kernel) (by decide) nextTask (by simp)

end QueuedTask

end HobitQueue.Frontend
