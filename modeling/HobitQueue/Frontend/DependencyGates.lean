import HobitQueue.Frontend.DogfoodLifecycle
import HobitQueue.Frontend.Eligibility

/-!
# Four dependency gates

The frontend asks in four places whether the upstream tasks of a Queue task are finished:
for the task's panel, for the summary after a coordinator decision, for the scheduler over
stored fields, and for the lifecycle a task has when none is recorded. They differ in what
they call finished, in whether they look for cycles, and in whose dependencies they read when
an id occurs twice.

## Main results

* `dependencyGates_agree_iff` — where the four agree.
-/

namespace HobitQueue.Frontend

open JavaScript

/-! ## The panel -/

inductive AgentQueueDependencyStatus where
  | ready | blocked | invalid
  deriving DecidableEq

inductive AgentQueueDependencyBlockReason where
  | cycle | missing | notCompleted | notFinalized | self
  deriving DecidableEq

structure AgentQueueDependencyBlocker where
  queueItemId : String
  reason : AgentQueueDependencyBlockReason
  title : String
  deriving DecidableEq

structure AgentQueueDependencyState where
  blockedBy : List AgentQueueDependencyBlocker
  dependsOn : List String
  status : AgentQueueDependencyStatus

/-- The declared upstream ids without the blanks around them, empty ones left out. -/
def trimmedDependencies (dependsOn : Option (List String)) : List String :=
  (dependsOn.getD []).filterMap fun dependencyId => nonEmptyTrim (some dependencyId)

def normalizeTaskDependencies (dependsOn : Option (List String)) : List String :=
  (trimmedDependencies dependsOn).foldl setAdd []

def tasksById (tasks : List AgentQueueTask) (queueItemId : String) : Option AgentQueueTask :=
  mapGet (tasks.map fun candidate => (candidate.queueItemId, candidate)) queueItemId

def buildQueueDependencyGraph (tasks : List AgentQueueTask) : List (String × List String) :=
  tasks.map fun task => (task.queueItemId, normalizeTaskDependencies task.dependsOn)

/-- `dependencyGraph.get(id) ?? []`. -/
def dependenciesIn (dependencyGraph : List (String × List String)) (queueItemId : String) :
    List String :=
  (mapGet dependencyGraph queueItemId).getD []

def hasQueueDependencyCycle (dependencyGraph : List (String × List String))
    (queueItemId : String) : Bool :=
  (Search.visitForCycle (dependencyGraph.map (·.1)) (dependenciesIn dependencyGraph) []
    queueItemId []).1

/-- The list with its entries of the task's id replaced by the task. -/
def dependencyGraphAround (task : AgentQueueTask) (tasks : List AgentQueueTask) :
    List (String × List String) :=
  buildQueueDependencyGraph (tasks.filter (·.queueItemId ≠ task.queueItemId) ++
    [{ task with dependsOn := some (normalizeTaskDependencies task.dependsOn) }])

def dependencyBlocker (task : AgentQueueTask) (tasks : List AgentQueueTask)
    (dependencyId : String) : Option AgentQueueDependencyBlocker :=
  if dependencyId = task.queueItemId then some ⟨dependencyId, .self, displayTaskTitle task⟩
  else
    match tasksById tasks dependencyId with
    | none => some ⟨dependencyId, .missing, dependencyId⟩
    | some dependency =>
      if hasQueueDependencyCycle (dependencyGraphAround task tasks) task.queueItemId then
        some ⟨dependencyId, .cycle, displayTaskTitle dependency⟩
      else if dependency.status ≠ .completed then
        some ⟨dependencyId, .notCompleted, displayTaskTitle dependency⟩
      else if dependency.coordinatorStatus ≠ some .finalized then
        some ⟨dependencyId, .notFinalized, displayTaskTitle dependency⟩
      else none

/-- The gate of the panel, with a search for cycles. -/
def getQueueTaskDependencyState (task : AgentQueueTask) (tasks : List AgentQueueTask) :
    AgentQueueDependencyState :=
  let dependsOn := normalizeTaskDependencies task.dependsOn
  let blockers := dependsOn.filterMap (dependencyBlocker task tasks)
  let hasInvalidBlocker := blockers.any fun blocker =>
    blocker.reason = .cycle || blocker.reason = .missing || blocker.reason = .self
  { blockedBy := blockers
    dependsOn := dependsOn
    status := if blockers = [] then .ready else if hasInvalidBlocker then .invalid else .blocked }

/-! ## The finalization service -/

structure QueueDependentGateState where
  blockedBy : List AgentQueueDependencyBlocker
  dependentItemId : String
  ready : Bool
  summary : String

/-- `task.title.trim() || task.queueItemId`. -/
def titleOrId (task : AgentQueueTask) : String :=
  (nonEmptyTrim (some task.title)).getD task.queueItemId

def prerequisiteBlocker (task : AgentQueueTask) (tasks : List AgentQueueTask)
    (dependencyId : String) : Option AgentQueueDependencyBlocker :=
  if dependencyId = task.queueItemId then some ⟨dependencyId, .self, titleOrId task⟩
  else
    match tasksById tasks dependencyId with
    | none => some ⟨dependencyId, .missing, dependencyId⟩
    | some dependency =>
      if dependency.status ≠ .completed then
        some ⟨dependencyId, .notCompleted, titleOrId dependency⟩
      else if dependency.coordinatorStatus ≠ some .finalized then
        some ⟨dependencyId, .notFinalized, titleOrId dependency⟩
      else none

/-- The gate of the finalization service. -/
def dependencyGateStateForTask (task : AgentQueueTask) (tasks : List AgentQueueTask) :
    QueueDependentGateState :=
  let blockers := (normalizeTaskDependencies task.dependsOn).filterMap
    (prerequisiteBlocker task tasks)
  { blockedBy := blockers
    dependentItemId := task.queueItemId
    ready := blockers.isEmpty
    summary :=
      if blockers = [] then "All prerequisites accepted/finalized."
      else "Blocked by " ++ ", ".intercalate (blockers.map (·.title)) ++ "." }

/-! ## Derived lifecycles -/

def createLifecycleForQueueTask (task : AgentQueueTask) : SmartQueueDogfoodLifecycleItem :=
  createDogfoodLifecycleItem
    { taskId := task.queueItemId
      title := some (displayTaskTitle task)
      originalPrompt := some task.prompt
      createdAt := task.createdAt }

def latestQueueReportSummary (task : AgentQueueTask) : Option String :=
  task.workerExecutionReports.getLast?.bind fun report => nonEmptyTrim (some report.summary)

def changedFilesSummaryForTask (task : AgentQueueTask) : Option String :=
  match task.workerExecutionReports.getLast? with
  | none => none
  | some report =>
    if report.changedFiles = [] then none
    else some ("Changed files: " ++ toString report.changedFiles.length)

/-- The text of a normalized validation status. -/
def validationStatusText : AgentQueueTaskValidationStatus → String
  | .notStarted => "not_started"
  | .validating => "validating"
  | .passed => "passed"
  | .failed => "failed"
  | .needsReview => "needs_review"
  | .other value => value

def validationSummaryForTask (task : AgentQueueTask) : Option String :=
  match task.workerExecutionReports.getLast?.bind (·.validationResult) with
  | some "" | none =>
    if normalizeValidationStatus task.validationStatus ≠ .notStarted then
      some ("Validation " ++
        validationStatusText (normalizeValidationStatus task.validationStatus) ++ ".")
    else none
  | some result => some ("Validation " ++ result ++ ".")

def derivedReviewTicketState : AgentQueueCoordinatorStatus → SmartQueueDogfoodTicketState
  | .finalized => .done
  | .failed => .failure
  | .blocked => .blocked
  | .awaitingValidation | .readyForFinalization | .needsChanges | .followUpRequired
  | .rollbackRequired => .inReview
  | .awaitingCoordinatorReview | .workerReported | .notReported | .other _ => .awaitingReview

/-- The lifecycle of a task for which none is recorded. -/
def deriveLifecycleFromQueueTask (task : AgentQueueTask) : SmartQueueDogfoodLifecycleItem :=
  let base := createLifecycleForQueueTask task
  let updatedAt := if task.updatedAt = "" then task.createdAt else task.updatedAt
  let reviewed (finalAgentMessage : String) : SmartQueueDogfoodLifecycleItem :=
    let failed := normalizeValidationStatus task.validationStatus = .failed
    { base with
      agentPromptState := if failed then .failed else .completed
      changedFilesSummary := changedFilesSummaryForTask task
      finalAgentMessage := some ((latestQueueReportSummary task).getD finalAgentMessage)
      reviewOutcome := some (if failed then .failed else .completed)
      ticketState := derivedReviewTicketState (normalizeCoordinatorStatus task.coordinatorStatus)
      updatedAt := updatedAt
      validationSummary := validationSummaryForTask task }
  match normalizeTaskStatus task.status with
  | .draft | .other _ => base
  | .queued | .ready => { base with ticketState := .queued, updatedAt := updatedAt }
  | .running =>
    { base with
      agentPromptState := .running
      currentRunnablePrompt := some task.prompt
      ticketState := .running
      updatedAt := updatedAt }
  | .failed =>
    { base with
      agentPromptState := .failed
      failureReason := some ((latestQueueReportSummary task).getD "Task failed.")
      reviewOutcome := some .failed
      ticketState := .failure
      updatedAt := updatedAt }
  | .cancelled =>
    { base with
      agentPromptState := .notCompleted
      failureReason := some "Task was cancelled."
      reviewOutcome := some .notCompleted
      ticketState := .failure
      updatedAt := updatedAt }
  | .completed => reviewed "Task completed."
  | .reviewNeeded => reviewed "Task output is ready for review."

def smartLifecycleForDogfoodLifecycle (lifecycle : SmartQueueDogfoodLifecycleItem) :
    SmartQueueTaskLifecycle :=
  match lifecycle.ticketState with
  | .done => .closed
  | .failure => .failed
  | .blocked => .blocked
  | .running => .running
  | .awaitingReview | .inReview => .review
  | .draft => .draft
  | .queued => .queued

def smartQueueTaskInputForQueueTaskDogfoodLifecycle (task : AgentQueueTask) :
    SmartQueueTaskInput :=
  { taskId := task.queueItemId
    title := displayTaskTitle task
    lifecycle := smartLifecycleForDogfoodLifecycle (deriveLifecycleFromQueueTask task)
    blockers := [] }

def smartQueueDependenciesForQueueTasks (tasks : List AgentQueueTask) :
    List SmartQueueDependency :=
  tasks.flatMap declaredDependencies

structure QueueTaskDogfoodDependencyGate where
  canStart : Bool
  gate : SmartQueueDependencyGate
  reason : String

def dogfoodDependencyGateReason (gate : SmartQueueDependencyGate) : String :=
  match gate.gate with
  | .none => "No dependencies"
  | .satisfied => "Dogfood dependencies done"
  | .waiting => "Waiting for dogfood dependency done"
  | .blocked => "Blocked by dogfood dependency"
  | .failed => "Blocked by failed dogfood dependency"

/-- The gate over derived lifecycles. -/
def getQueueTaskDogfoodDependencyGate (task : AgentQueueTask) (tasks : List AgentQueueTask) :
    QueueTaskDogfoodDependencyGate :=
  let smartTasks := tasks.map smartQueueTaskInputForQueueTaskDogfoodLifecycle
  let smartTask := (smartTasks.find? (·.taskId = task.queueItemId)).getD
    (smartQueueTaskInputForQueueTaskDogfoodLifecycle task)
  let gate := computeSmartQueueDependencyGate smartTask smartTasks
    (smartQueueDependenciesForQueueTasks tasks)
  { canStart := gate.gate.opens, gate := gate, reason := dogfoodDependencyGateReason gate }

/-! ## What each gate asks -/

/-- An upstream task is there and satisfies a test. -/
def UpstreamIs (test : AgentQueueTask → Prop) (tasks : List AgentQueueTask) (id : String) : Prop :=
  ∃ t, tasksById tasks id = some t ∧ test t

/-- The task is completed and finalized. -/
def isFinished (task : AgentQueueTask) : Prop :=
  task.status = .completed ∧ task.coordinatorStatus = some .finalized

/-- What the derived lifecycle calls done. -/
def isDone (task : AgentQueueTask) : Prop :=
  (task.status = .completed ∨ task.status = .reviewNeeded) ∧
    task.coordinatorStatus = some .finalized

/-- The upstream ids the scheduler records under a task's id. -/
def recordedUpstreams (tasks : List AgentQueueTask) (queueItemId : String) : List String :=
  dependencyMap (smartDependenciesForQueueTasks tasks []) queueItemId

/-- A cycle can be reached from the task, with its own entry in place of those of its id. -/
def DependsOnCycle (task : AgentQueueTask) (tasks : List AgentQueueTask) : Prop :=
  Search.Cyclic (dependenciesIn (dependencyGraphAround task tasks)) task.queueItemId

theorem mem_normalizeTaskDependencies {dependsOn : Option (List String)} {id : String} :
    id ∈ normalizeTaskDependencies dependsOn ↔ id ∈ trimmedDependencies dependsOn := by
  simp [normalizeTaskDependencies]

theorem hasQueueDependencyCycle_iff {dependencyGraph : List (String × List String)}
    {queueItemId : String} :
    hasQueueDependencyCycle dependencyGraph queueItemId = true ↔
      Search.Cyclic (dependenciesIn dependencyGraph) queueItemId := by
  refine Search.visitForCycle_iff fun v hv => ?_
  have hnone : mapGet dependencyGraph v = none :=
    mapGet_eq_none.2 fun e he heq => hv (List.mem_map.2 ⟨e, he, heq⟩)
  simp [dependenciesIn, hnone]

theorem dependencyBlocker_eq_none {task : AgentQueueTask} {tasks : List AgentQueueTask}
    {id : String} :
    dependencyBlocker task tasks id = none ↔
      id ≠ task.queueItemId ∧ UpstreamIs isFinished tasks id ∧ ¬DependsOnCycle task tasks := by
  rw [DependsOnCycle, ← hasQueueDependencyCycle_iff]
  by_cases hself : id = task.queueItemId
  · simp [dependencyBlocker, hself]
  · cases htask : tasksById tasks id with
    | none => simp [dependencyBlocker, hself, UpstreamIs, htask]
    | some dependency =>
      simp only [dependencyBlocker, hself, UpstreamIs, htask, if_false, isFinished]
      split_ifs <;> simp_all

theorem prerequisiteBlocker_eq_none {task : AgentQueueTask} {tasks : List AgentQueueTask}
    {id : String} :
    prerequisiteBlocker task tasks id = none ↔
      id ≠ task.queueItemId ∧ UpstreamIs isFinished tasks id := by
  by_cases hself : id = task.queueItemId
  · simp [prerequisiteBlocker, hself]
  · cases htask : tasksById tasks id with
    | none => simp [prerequisiteBlocker, hself, UpstreamIs, htask]
    | some dependency =>
      simp only [prerequisiteBlocker, hself, UpstreamIs, htask, if_false, isFinished]
      split_ifs <;> simp_all

/-- The panel wants every upstream task finished, none of them the task itself, no cycle. -/
theorem getQueueTaskDependencyState_ready {task : AgentQueueTask} {tasks : List AgentQueueTask} :
    (getQueueTaskDependencyState task tasks).status = .ready ↔
      ∀ id ∈ trimmedDependencies task.dependsOn,
        id ≠ task.queueItemId ∧ UpstreamIs isFinished tasks id ∧ ¬DependsOnCycle task tasks := by
  have hready : (getQueueTaskDependencyState task tasks).status = .ready ↔
      (normalizeTaskDependencies task.dependsOn).filterMap (dependencyBlocker task tasks) = [] := by
    simp only [getQueueTaskDependencyState]
    split_ifs <;> simp_all
  rw [hready, List.filterMap_eq_nil_iff]
  simp only [mem_normalizeTaskDependencies, dependencyBlocker_eq_none]

/-- The finalization service wants the same without the search for cycles. -/
theorem dependencyGateStateForTask_ready {task : AgentQueueTask} {tasks : List AgentQueueTask} :
    (dependencyGateStateForTask task tasks).ready = true ↔
      ∀ id ∈ trimmedDependencies task.dependsOn,
        id ≠ task.queueItemId ∧ UpstreamIs isFinished tasks id := by
  simp only [dependencyGateStateForTask, List.isEmpty_iff, List.filterMap_eq_nil_iff,
    mem_normalizeTaskDependencies, prerequisiteBlocker_eq_none]

/-- Images are looked up like the tasks they come from. -/
theorem taskById_map {image : AgentQueueTask → SmartQueueTaskInput}
    (himage : ∀ t, (image t).taskId = t.queueItemId) {tasks : List AgentQueueTask} {id : String} :
    taskById (tasks.map image) id = (tasksById tasks id).map image := by
  have hentries : (tasks.map image).map (fun t => (t.taskId, t)) =
      (tasks.map fun t => (t.queueItemId, t)).map fun e => (e.1, image e.2) := by
    simp [himage, Function.comp_def]
  rw [taskById, hentries, mapGet_map, tasksById]

theorem upstreamIs_iff {image : AgentQueueTask → SmartQueueTaskInput}
    (himage : ∀ t, (image t).taskId = t.queueItemId) {tasks : List AgentQueueTask} {id : String} :
    (∃ t, taskById (tasks.map image) id = some t ∧ t.lifecycle = .closed) ↔
      UpstreamIs (fun t => (image t).lifecycle = .closed) tasks id := by
  rw [taskById_map himage, UpstreamIs]
  cases tasksById tasks id <;> simp

/-- The scheduler wants every recorded upstream task closed, by whatever field says so. -/
theorem computeDependencyGate_opens {task : AgentQueueTask} {tasks : List AgentQueueTask} :
    (QueueModel.computeDependencyGate task tasks []).gate.opens = true ↔
      ∀ id ∈ recordedUpstreams tasks task.queueItemId,
        UpstreamIs (isTaskClosedSuccessfully · = true) tasks id := by
  rw [QueueModel.computeDependencyGate_eq]
  refine opens_smartGateForQueueTask.trans (forall₂_congr fun id _ => ?_)
  rw [upstreamIs_iff fun _ => rfl]
  have hclosed : ∀ t, (smartTaskInputForQueueTask t).lifecycle = .closed ↔
      isTaskClosedSuccessfully t = true := by
    intro t
    simp only [smartTaskInputForQueueTask, smartLifecycleForQueueTask]
    split_ifs with h₁ h₂ h₃
    · simp [h₁]
    · simp [h₁]
    · simp [h₁]
    · cases t.status <;> simp [h₁]
  simp only [hclosed]

/-- The derived lifecycle is done for a task that ran and was accepted. -/
theorem smartLifecycle_derived_closed {task : AgentQueueTask} :
    (smartQueueTaskInputForQueueTaskDogfoodLifecycle task).lifecycle = .closed ↔ isDone task := by
  have hreview : derivedReviewTicketState (normalizeCoordinatorStatus task.coordinatorStatus) =
      .done ↔ task.coordinatorStatus = some .finalized := by
    cases hc : task.coordinatorStatus with
    | none => simp [normalizeCoordinatorStatus, derivedReviewTicketState]
    | some status =>
      cases status <;> simp [normalizeCoordinatorStatus, derivedReviewTicketState]
  have hclosed : ∀ item : SmartQueueDogfoodLifecycleItem,
      smartLifecycleForDogfoodLifecycle item = .closed ↔ item.ticketState = .done := by
    intro item
    cases hstate : item.ticketState <;> simp [smartLifecycleForDogfoodLifecycle, hstate]
  simp only [smartQueueTaskInputForQueueTaskDogfoodLifecycle, hclosed, isDone]
  cases hs : task.status <;>
    simp [deriveLifecycleFromQueueTask, hs, normalizeTaskStatus, hreview,
      createLifecycleForQueueTask, createDogfoodLifecycleItem]

/-- The upstream ids of a task id in a list of dependencies. -/
theorem mem_dependencyMap {dependencies : List SmartQueueDependency} {taskId id : String} :
    id ∈ dependencyMap dependencies taskId ↔
      { upstreamTaskId := id, downstreamTaskId := taskId } ∈ dependencies := by
  simp only [dependencyMap, mem_foldl_setAdd, List.mem_map, List.mem_filter, decide_eq_true_eq,
    List.not_mem_nil, false_or]
  constructor
  · rintro ⟨⟨up, down⟩, ⟨hmem, rfl⟩, rfl⟩
    exact hmem
  · intro hmem
    exact ⟨_, ⟨hmem, rfl⟩, rfl⟩

/-- A dependency is declared by some entry of its downstream id. -/
theorem mem_declared {tasks : List AgentQueueTask} {taskId id : String} :
    ({ upstreamTaskId := id, downstreamTaskId := taskId } : SmartQueueDependency) ∈
        tasks.flatMap declaredDependencies ↔
      ∃ other ∈ tasks, other.queueItemId = taskId ∧ id ∈ trimmedDependencies other.dependsOn := by
  simp only [List.mem_flatMap, declaredDependencies, List.mem_map, SmartQueueDependency.mk.injEq,
    trimmedDependencies]
  constructor
  · rintro ⟨other, hother, up, hup, rfl, rfl⟩
    exact ⟨other, hother, rfl, hup⟩
  · rintro ⟨other, hother, rfl, hup⟩
    exact ⟨other, hother, id, hup, rfl, rfl⟩

/-- The dogfood gate wants the upstream tasks done of every entry that has the task's id. -/
theorem getQueueTaskDogfoodDependencyGate_canStart {task : AgentQueueTask}
    {tasks : List AgentQueueTask} :
    (getQueueTaskDogfoodDependencyGate task tasks).canStart = true ↔
      ∀ other ∈ tasks, other.queueItemId = task.queueItemId →
        ∀ id ∈ trimmedDependencies other.dependsOn, UpstreamIs isDone tasks id := by
  have hid : (((tasks.map smartQueueTaskInputForQueueTaskDogfoodLifecycle).find?
      (·.taskId = task.queueItemId)).getD
        (smartQueueTaskInputForQueueTaskDogfoodLifecycle task)).taskId = task.queueItemId :=
    @find_taskId _ (smartQueueTaskInputForQueueTaskDogfoodLifecycle task)
  have hgate : (getQueueTaskDogfoodDependencyGate task tasks).canStart = true ↔
      ∀ id ∈ dependencyMap (tasks.flatMap declaredDependencies) task.queueItemId,
        UpstreamIs isDone tasks id := by
    simp only [getQueueTaskDogfoodDependencyGate, computeSmartQueueDependencyGate, hid,
      smartQueueDependenciesForQueueTasks]
    refine opens_computeSmartQueueDependencyGate.trans (forall₂_congr fun id _ => ?_)
    rw [upstreamIs_iff fun _ => rfl]
    simp only [smartLifecycle_derived_closed]
  rw [hgate]
  simp only [mem_dependencyMap, mem_declared]
  constructor
  · intro h other hother heq id hid
    exact h id ⟨other, hother, heq, hid⟩
  · intro h id hdeclared
    obtain ⟨other, hother, heq, hid⟩ := hdeclared
    exact h other hother heq id hid

/-- The scheduler records nothing that no entry declares. -/
theorem mem_of_recordedUpstreams {tasks : List AgentQueueTask} {taskId id : String}
    (h : id ∈ recordedUpstreams tasks taskId) :
    ∃ other ∈ tasks, other.queueItemId = taskId ∧ id ∈ trimmedDependencies other.dependsOn := by
  have hrecorded : ∀ (declared : List SmartQueueDependency) byKey e,
      e ∈ declared.foldl recordDependency byKey → e ∈ byKey ∨ e.2 ∈ declared := by
    intro declared
    induction declared with
    | nil => intro byKey e he; exact Or.inl he
    | cons d declared ih =>
      intro byKey e he
      rcases ih _ e he with hkey | hmem
      · rcases mem_mapSet hkey with hold | rfl
        · exact Or.inl hold
        · exact Or.inr List.mem_cons_self
      · exact Or.inr (List.mem_cons_of_mem _ hmem)
  rw [recordedUpstreams, mem_dependencyMap, smartDependenciesForQueueTasks] at h
  obtain ⟨e, he, hval⟩ := List.mem_map.1 h
  rcases hrecorded _ _ e he with hnil | hmem
  · cases hnil
  · rw [hval, List.map_nil, List.append_nil] at hmem
    exact mem_declared.1 hmem

/-! ## Where they agree -/

/-- The four gates give the task one answer. -/
def DependencyGatesAgree (tasks : List AgentQueueTask) (task : AgentQueueTask) : Prop :=
  ((getQueueTaskDependencyState task tasks).status = .ready ↔
      (dependencyGateStateForTask task tasks).ready = true) ∧
    ((getQueueTaskDependencyState task tasks).status = .ready ↔
      (QueueModel.computeDependencyGate task tasks []).gate.opens = true) ∧
    ((getQueueTaskDependencyState task tasks).status = .ready ↔
      (getQueueTaskDogfoodDependencyGate task tasks).canStart = true)

/-- The lists on which the differences between the gates do not show. -/
structure GatesCoincide (tasks : List AgentQueueTask) (task : AgentQueueTask) : Prop where
  /-- Where all recorded upstream tasks are closed, the task's own are completed and finalized,
  none is the task itself, and no cycle can be reached. -/
  closed_finished : (∀ id ∈ recordedUpstreams tasks task.queueItemId,
      UpstreamIs (isTaskClosedSuccessfully · = true) tasks id) →
    ∀ id ∈ trimmedDependencies task.dependsOn,
      id ≠ task.queueItemId ∧ UpstreamIs isFinished tasks id ∧ ¬DependsOnCycle task tasks
  /-- Where the task's own upstream tasks are completed and finalized, those of the other
  entries of its id ran and are finalized too. -/
  copies_done : (∀ id ∈ trimmedDependencies task.dependsOn,
      id ≠ task.queueItemId ∧ UpstreamIs isFinished tasks id) →
    ∀ other ∈ tasks, other.queueItemId = task.queueItemId →
      ∀ id ∈ trimmedDependencies other.dependsOn, UpstreamIs isDone tasks id

theorem UpstreamIs.imp {test weaker : AgentQueueTask → Prop} {tasks : List AgentQueueTask}
    {id : String} (h : UpstreamIs test tasks id) (himp : ∀ t, test t → weaker t) :
    UpstreamIs weaker tasks id := by
  obtain ⟨t, ht, htest⟩ := h
  exact ⟨t, ht, himp t htest⟩

/-- **The panel implies the finalization service and the dogfood gate the scheduler, so the
four agree exactly where the other two steps of the circle can be made.** -/
theorem dependencyGates_agree_iff (tasks : List AgentQueueTask) (task : AgentQueueTask) :
    DependencyGatesAgree tasks task ↔ GatesCoincide tasks task := by
  have hpanel : (getQueueTaskDependencyState task tasks).status = .ready →
      (dependencyGateStateForTask task tasks).ready = true := by
    rw [getQueueTaskDependencyState_ready, dependencyGateStateForTask_ready]
    exact fun h id hid => ⟨(h id hid).1, (h id hid).2.1⟩
  have hdogfood : (getQueueTaskDogfoodDependencyGate task tasks).canStart = true →
      (QueueModel.computeDependencyGate task tasks []).gate.opens = true := by
    rw [getQueueTaskDogfoodDependencyGate_canStart, computeDependencyGate_opens]
    intro h id hid
    obtain ⟨other, hother, heq, hmem⟩ := mem_of_recordedUpstreams hid
    refine (h other hother heq id hmem).imp fun t ht => ?_
    simp [isTaskClosedSuccessfully, ht.2]
  constructor
  · rintro ⟨hfinal, hscheduler, hdone⟩
    constructor
    · rw [← computeDependencyGate_opens, ← getQueueTaskDependencyState_ready]
      exact hscheduler.2
    · rw [← dependencyGateStateForTask_ready, ← getQueueTaskDogfoodDependencyGate_canStart]
      exact fun h => hdone.1 (hfinal.2 h)
  · rintro ⟨hclosed, hcopies⟩
    rw [← computeDependencyGate_opens, ← getQueueTaskDependencyState_ready] at hclosed
    rw [← dependencyGateStateForTask_ready, ← getQueueTaskDogfoodDependencyGate_canStart] at hcopies
    exact ⟨⟨hpanel, fun h => hclosed (hdogfood (hcopies h))⟩,
      ⟨fun h => hdogfood (hcopies (hpanel h)), hclosed⟩,
      ⟨fun h => hcopies (hpanel h), fun h => hclosed (hdogfood h)⟩⟩

/-- A task that committed its work and waits for the coordinator to accept it. -/
def committedTask : AgentQueueTask :=
  { completedTask with
    queueItemId := "up", closureState := some .commitCreated
    coordinatorStatus := some .awaitingCoordinatorReview }

def dependentTask : AgentQueueTask :=
  { completedTask with queueItemId := "down", status := .queued, dependsOn := some ["up"] }

theorem committed_upstream_opens_one_gate :
    dependentTask ∈ [committedTask, dependentTask] ∧
      ¬DependencyGatesAgree [committedTask, dependentTask] dependentTask := by
  refine ⟨by simp, fun hagree => ?_⟩
  have hscheduler : (QueueModel.computeDependencyGate dependentTask
      [committedTask, dependentTask] []).gate.opens = true := by
    rw [computeDependencyGate_opens]
    have hup : recordedUpstreams [committedTask, dependentTask] dependentTask.queueItemId =
        ["up"] := by
      decide +kernel
    rw [hup]
    simp only [List.mem_singleton, forall_eq]
    exact ⟨committedTask, by decide +kernel, by decide +kernel⟩
  have hpanel : (getQueueTaskDependencyState dependentTask
      [committedTask, dependentTask]).status ≠ .ready := by
    rw [Ne, getQueueTaskDependencyState_ready]
    intro hready
    obtain ⟨-, ⟨t, ht, hfinished⟩, -⟩ := hready "up" (by decide +kernel)
    have hsome : some committedTask = some t := ht ▸ (by decide +kernel)
    obtain rfl := Option.some.inj hsome
    exact absurd hfinished.2 (by decide)
  exact hpanel (hagree.2.1.2 hscheduler)

end HobitQueue.Frontend
