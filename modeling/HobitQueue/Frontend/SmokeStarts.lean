import HobitQueue.Frontend.TaskTemplates

/-!
# Requests that start a dependency smoke

The validation of a request that starts a dependency smoke is left with its tasks when the grant
and the run settings are valid. A value for the dependencies of a task that is no array is an
issue, although it has no entry that could name a wrong slot.

## Main results

* `dependencySmoke_start_tasks` — what the validation of a request says of its tasks.
* `null_dependencies_are_refused` — dependencies that are `null` are an issue.
-/

namespace HobitQueue.Frontend

open JavaScript Search

/-- The grant modes of a workflow that is a dependency smoke. -/
def dependencySmokeGrantModes (workflowId : String) : List String :=
  if workflowId = "dependency_acceptance_smoke" then acceptanceGrantModes
  else failureGrantModes

/-- The request starts a dependency smoke with these tasks, and is valid but for them. -/
structure IsDependencySmokeStart (request : QueueWorkflowRequestValidationInput)
    (members : List (String × Json)) (tasks : List Json) : Prop where
  moduleId : request.moduleId = queueModuleId
  workflowId : request.workflowId = "dependency_acceptance_smoke" ∨
    request.workflowId = "dependency_failure_smoke"
  inputs : request.inputs = some (.obj members)
  tasks : members.lookup "tasks" = some (.arr tasks)
  noEvidence : isWorkerEvidenceContinuation request.inputs = false
  noContinuation : isDependencySmokeContinuation request.inputs = false
  grant : validateGrant request.grant (dependencySmokeGrantModes request.workflowId) = []
  runSettings : validateRunSettings (members.lookup "runSettings") = []

section Request

variable {request : QueueWorkflowRequestValidationInput} {members : List (String × Json)}
  {tasks : List Json}

/-- What is left to validate are the tasks. -/
theorem validateQueueWorkflowRequest_start (h : IsDependencySmokeStart request members tasks) :
    validateQueueWorkflowRequest request =
      resultForIssues (validateTasks (some (.arr tasks))) request.workflowId := by
  have hinputs : validateCommonDependencyInputs request.inputs =
      validateTasks (some (.arr tasks)) := by
    rw [h.inputs, validateCommonDependencyInputs, recordMembers]
    simp only [h.runSettings, h.tasks, List.nil_append]
  have hsmoke : validateDependencySmokeWorkflow request.grant request.inputs
      (dependencySmokeGrantModes request.workflowId) false request.workflowId =
        resultForIssues (validateTasks (some (.arr tasks))) request.workflowId := by
    simp only [validateDependencySmokeWorkflow, h.noEvidence, h.noContinuation, h.grant, hinputs,
      Bool.false_eq_true, if_false, List.nil_append, List.append_nil]
  rw [← hsmoke, validateQueueWorkflowRequest, if_neg (not_not.2 h.moduleId)]
  rcases h.workflowId with hworkflow | hworkflow
  · rw [if_pos hworkflow, dependencySmokeGrantModes, if_pos hworkflow]
  · have hother : request.workflowId ≠ "dependency_acceptance_smoke" := by
      rw [hworkflow]
      decide
    rw [if_neg hother, if_pos hworkflow, dependencySmokeGrantModes, if_neg hother]

theorem resultForIssues_spec (issues : List QueueWorkflowRequestValidationIssue)
    (workflowId : String) : (resultForIssues issues workflowId).issues = issues ∧
      ((resultForIssues issues workflowId).ok = true ↔ issues = []) := by
  cases issues with
  | nil => exact ⟨rfl, by simp [resultForIssues, validNotExecutableResult]⟩
  | cons item rest => exact ⟨rfl, by simp [resultForIssues, invalidResult]⟩

/-- What is asked of the tasks does not depend on their order. -/
theorem TasksAreWellFormed.perm {tasks' : List Json} (hperm : tasks'.Perm tasks)
    (h : TasksAreWellFormed tasks) : TasksAreWellFormed tasks' := by
  have hmem : ∀ task, task ∈ tasks' ↔ task ∈ tasks := fun task => hperm.mem_iff
  have hslots : ∀ slot, slot ∈ tasks'.map slotOf ↔ slot ∈ tasks.map slotOf :=
    fun slot => (hperm.map slotOf).mem_iff
  have hdepends : DependsOnSlot tasks' = DependsOnSlot tasks := by
    funext slot dependencySlot
    simp only [DependsOnSlot, hmem]
  constructor
  · simpa only [hmem] using h.supported
  · simpa only [hmem] using h.titled
  · simpa only [hmem] using h.prompted
  · simpa only [hmem] using h.slotted
  · exact (hperm.map slotOf).nodup_iff.2 h.distinct
  · simpa only [hmem, hslots] using h.known
  · rw [hdepends]
    exact h.acyclic
  · simpa only [hmem] using h.upstream
  · simpa only [hmem] using h.downstream

/-- **The tasks of a request that starts a smoke** have no issue exactly when they are well
formed and list their dependencies in arrays; the cycles that are reported are real, and the
order of the tasks does not matter. -/
theorem dependencySmoke_start_tasks (h : IsDependencySmokeStart request members tasks) :
    ((validateQueueWorkflowRequest request).issues = [] ↔
        TasksAreWellFormed tasks ∧ DependenciesAreLists tasks) ∧
      (∀ item ∈ (validateQueueWorkflowRequest request).issues,
        item.reasonCode = .dependencyCycle → ∃ cycle, IsCycle (DependsOnSlot tasks) cycle ∧
          item.message = cycleMessage (" -> ".intercalate cycle)) ∧
      ∀ request' members' tasks', IsDependencySmokeStart request' members' tasks' →
        tasks'.Perm tasks → (validateQueueWorkflowRequest request').ok =
          (validateQueueWorkflowRequest request).ok := by
  rw [validateQueueWorkflowRequest_start h]
  obtain ⟨hissues, hok⟩ :=
    resultForIssues_spec (validateTasks (some (.arr tasks))) request.workflowId
  rw [hissues]
  refine ⟨validateTasks_eq_nil_iff, fun item hitem => reported_cycle_is_real hitem, ?_⟩
  intro request' members' tasks' h' hperm
  obtain ⟨-, hok'⟩ :=
    resultForIssues_spec (validateTasks (some (.arr tasks'))) request'.workflowId
  rw [validateQueueWorkflowRequest_start h', Bool.eq_iff_iff, hok, hok',
    validateTasks_eq_nil_iff, validateTasks_eq_nil_iff]
  have hmem : ∀ task, task ∈ tasks' ↔ task ∈ tasks := fun task => hperm.mem_iff
  refine and_congr ⟨fun hwell => hwell.perm hperm.symm, fun hwell => hwell.perm hperm⟩ ?_
  simp only [DependenciesAreLists, hmem]

end Request

/-! ## Two tasks -/

def smokeTask (slot : String) (others : List (String × Json)) : Json :=
  .obj ([("slot", .str slot), ("title", .str "Step"), ("prompt", .str "Do it.")] ++ others)

def smokeGrant : Json :=
  .obj [("mode", .str "queue_operator_flow"),
    ("constraints", .obj (requiredSafetyConstraints.map fun name => (name, .bool true)))]

def smokeRunSettings : Json :=
  .obj [("codexExecutable", .str "codex"), ("workspaceRoot", .str "/work"),
    ("sandbox", .str "read_only"), ("approvalPolicy", .str "never"),
    ("executionPolicy", .str "manual"), ("executorWidgetId", .str "executor-1")]

def smokeInputs (tasks : List Json) : List (String × Json) :=
  [("runSettings", smokeRunSettings), ("tasks", .arr tasks)]

def smokeRequest (tasks : List Json) : QueueWorkflowRequestValidationInput :=
  { grant := some smokeGrant, inputs := some (.obj (smokeInputs tasks)), moduleId := "queue"
    workflowId := "dependency_acceptance_smoke" }

theorem isDependencySmokeStart_smokeRequest (tasks : List Json) :
    IsDependencySmokeStart (smokeRequest tasks) (smokeInputs tasks) tasks where
  moduleId := rfl
  workflowId := .inl rfl
  inputs := rfl
  tasks := rfl
  noEvidence := rfl
  noContinuation := rfl
  grant := by
    have hgrant : validateGrant (some smokeGrant) acceptanceGrantModes = [] := by
      decide +kernel
    exact hgrant
  runSettings := by
    have hsettings : (smokeInputs tasks).lookup "runSettings" = some smokeRunSettings := rfl
    rw [hsettings]
    decide +kernel

/-- An upstream and a downstream task. -/
def smokeTasks (upstreamDependencies : List (String × Json)) : List Json :=
  [smokeTask "upstream" upstreamDependencies,
    smokeTask "downstream" [("dependsOnSlots", .arr [.str "upstream"])]]

theorem dependencySmoke_start_two_tasks :
    (validateQueueWorkflowRequest (smokeRequest (smokeTasks []))).issues = [] ↔
      TasksAreWellFormed (smokeTasks []) ∧ DependenciesAreLists (smokeTasks []) :=
  (dependencySmoke_start_tasks (isDependencySmokeStart_smokeRequest (smokeTasks []))).1

/-- The upstream task of `nullTasks` depends on `null`. -/
def nullTasks : List Json := smokeTasks [("dependsOnSlots", .null)]

theorem tasksAreWellFormed_nullTasks : TasksAreWellFormed nullTasks := by
  have hedge : ∀ slot dependencySlot, DependsOnSlot nullTasks slot dependencySlot →
      slot = "downstream" ∧ dependencySlot = "upstream" := by
    rintro slot dependencySlot ⟨task, htask, rfl, hdepends⟩
    have hall : ∀ task ∈ nullTasks, ∀ dependencySlot ∈ dependencySlots task,
        slotOf task = "downstream" ∧ dependencySlot = "upstream" := by
      decide +kernel
    exact hall task htask dependencySlot hdepends
  constructor
  · intro task htask
    simp only [nullTasks, smokeTasks, List.mem_cons, List.not_mem_nil, or_false] at htask
    rcases htask with rfl | rfl
    · exact ⟨_, rfl, by decide +kernel⟩
    · exact ⟨_, rfl, by decide +kernel⟩
  · decide +kernel
  · decide +kernel
  · decide +kernel
  · decide +kernel
  · decide +kernel
  · intro slot hcycle
    obtain ⟨next, hfirst, -⟩ := Relation.TransGen.head'_iff.1 hcycle
    obtain ⟨before, -, hlast⟩ := Relation.TransGen.tail'_iff.1 hcycle
    have hdown := (hedge _ _ hfirst).1
    rw [(hedge _ _ hlast).2] at hdown
    exact absurd hdown (by decide)
  · decide +kernel
  · decide +kernel

/-- Nothing is wrong with the entries, as there are none. -/
theorem null_dependencies_are_refused :
    ¬ ∀ (request : QueueWorkflowRequestValidationInput) (members : List (String × Json))
        (tasks : List Json), IsDependencySmokeStart request members tasks →
      ((validateQueueWorkflowRequest request).issues = [] ↔ TasksAreWellFormed tasks) := by
  intro h
  have hstart := isDependencySmokeStart_smokeRequest nullTasks
  have hnone := (h _ _ _ hstart).2 tasksAreWellFormed_nullTasks
  rw [validateQueueWorkflowRequest_start hstart, (resultForIssues_spec _ _).1] at hnone
  have hlists := (validateTasks_eq_nil_iff.1 hnone).2
  rcases hlists _ List.mem_cons_self with hfield | ⟨items, hfield⟩
  · exact absurd hfield (by decide +kernel)
  · have hvalue : (smokeTask "upstream" [("dependsOnSlots", .null)]).field "dependsOnSlots" =
        some .null := by decide +kernel
    rw [hvalue] at hfield
    cases hfield

end HobitQueue.Frontend
