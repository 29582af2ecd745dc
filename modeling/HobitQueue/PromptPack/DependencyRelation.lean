import HobitQueue.Lib.CycleSearch
import HobitQueue.PromptPack.WellFormed

/-!
# The dependency relation of a pack

The tasks of a pack depend on each other. A pack whose other fields are valid is accepted
when its relation names tasks of the pack, no task twice and none its own, has no cycle and
is not too large. The search for a cycle colours the tasks in one map; it does what a search
does that keeps its path apart from the tasks it has left.

## Main results

* `detectDependencyCycle_ok` — the search refuses a relation exactly when it has a cycle.
* `normalizePromptPack_accepts_iff` — the packs that are accepted.
-/

namespace HobitQueue

open Search

/-! ## The search for a cycle -/

/-- The dependencies that a map lists for a task. -/
def dependenciesOf (dependenciesByTask : List (String × List String)) (taskId : String) :
    List String := (dependenciesByTask.lookup taskId).getD []

/-- The states of the tasks: those on the path are being visited, those left were visited. -/
def Coloured (visiting : List String) (states : List (String × VisitState))
    (visited : List String) : Prop :=
  ∀ v, states.lookup v =
    if v ∈ visiting then some .visiting else if v ∈ visited then some .visited else none

section Search

variable {dependencies : List (String × List String)} {visiting visited : List String}
  {states : List (String × VisitState)} {taskId : String}

theorem Coloured.visit (h : Coloured visiting states visited) :
    Coloured (taskId :: visiting) ((taskId, .visiting) :: states) visited := by
  intro v
  rw [List.lookup_cons]
  by_cases hv : v = taskId
  · subst hv
    rw [beq_self_eq_true, if_pos List.mem_cons_self]
  · have hne : (v == taskId) = false := by simpa using hv
    rw [hne, h v]
    simp only [List.mem_cons, hv, false_or]

theorem Coloured.leave (htask : taskId ∉ visiting)
    (h : Coloured (taskId :: visiting) states visited) :
    Coloured visiting ((taskId, .visited) :: states) (taskId :: visited) := by
  intro v
  rw [List.lookup_cons]
  by_cases hv : v = taskId
  · subst hv
    rw [beq_self_eq_true, if_neg htask, if_pos List.mem_cons_self]
  · have hne : (v == taskId) = false := by simpa using hv
    rw [hne, h v]
    simp only [List.mem_cons, hv, false_or]

theorem dependenciesOf_eq_nil (h : taskId ∉ dependencies.map Prod.fst) :
    dependenciesOf dependencies taskId = [] := by
  have hnone : dependencies.lookup taskId = none := by
    rw [List.lookup_eq_none_iff]
    intro entry hentry
    rw [bne_iff_ne]
    rintro rfl
    exact h (List.mem_map_of_mem hentry)
  rw [dependenciesOf, hnone]
  rfl

/-- **The search with colours does what the search with a path does.** -/
theorem visitDependencyNode_simulates {fuel : ℕ}
    (hfuel : offPath (dependencies.map Prod.fst) visiting < fuel) (taskId : String) :
    Simulates (Coloured visiting) (visitDependencyNode dependencies fuel)
      (visitForCycle (dependencies.map Prod.fst) (dependenciesOf dependencies) visiting)
      taskId := by
  induction fuel generalizing visiting taskId with
  | zero => omega
  | succ fuel ih =>
    intro states visited h
    rw [visitDependencyNode, visitForCycle, h taskId]
    by_cases hpath : taskId ∈ visiting
    · rw [if_pos hpath, if_pos hpath]
      exact ⟨rfl, fun hfalse => absurd hfalse (by simp)⟩
    rw [if_neg hpath, if_neg hpath]
    by_cases hleft : taskId ∈ visited
    · rw [if_pos hleft, if_pos hleft]
      exact ⟨rfl, fun _ => h⟩
    rw [if_neg hleft, if_neg hleft]
    by_cases hkey : taskId ∈ dependencies.map Prod.fst
    · rw [if_pos hkey]
      have hlt := offPath_lt hpath hkey
      have hone : ∀ next ∈ dependenciesOf dependencies taskId,
          Simulates (Coloured (taskId :: visiting)) (visitDependencyNode dependencies fuel)
            (visitForCycle (dependencies.map Prod.fst) (dependenciesOf dependencies)
              (taskId :: visiting)) next :=
        fun next _ => ih (by omega) next
      have hlist := anyFrom_simulates hone h.visit
      rw [dependenciesOf] at hlist ⊢
      rcases hs : anyFrom (visitDependencyNode dependencies fuel)
        ((dependencies.lookup taskId).getD []) ((taskId, .visiting) :: states) with ⟨found, s⟩
      rcases ht : anyFrom (visitForCycle (dependencies.map Prod.fst) (dependenciesOf dependencies)
        (taskId :: visiting)) ((dependencies.lookup taskId).getD []) visited with ⟨found', t⟩
      rw [hs, ht] at hlist
      obtain rfl : found = found' := hlist.1
      cases found with
      | true => exact ⟨rfl, fun hfalse => absurd hfalse (by simp)⟩
      | false => exact ⟨rfl, fun _ => (hlist.2 rfl).leave hpath⟩
    · rw [if_neg hkey]
      have hnil := dependenciesOf_eq_nil hkey
      rw [dependenciesOf] at hnil
      rw [hnil]
      exact ⟨rfl, fun _ => h.visit.leave hpath⟩

/-- **The search refuses a relation exactly when it has a cycle.** -/
theorem detectDependencyCycle_ok {u : Unit} :
    detectDependencyCycle dependencies = .ok u ↔
      Acyclic (Edge (dependenciesOf dependencies)) := by
  have hkeys : ∀ v, v ∉ dependencies.map Prod.fst → dependenciesOf dependencies v = [] :=
    fun v hv => dependenciesOf_eq_nil hv
  have hfuel : offPath (dependencies.map Prod.fst) [] < dependencies.length + 1 := by
    have hcard := List.toFinset_card_le (dependencies.map Prod.fst)
    rw [List.length_map] at hcard
    rw [offPath, List.toFinset_nil, Finset.sdiff_empty]
    omega
  have hempty : Coloured [] [] [] := fun v => rfl
  have hsame := (anyFrom_simulates
    (fun taskId (_ : taskId ∈ dependencies.map Prod.fst) =>
      visitDependencyNode_simulates hfuel taskId) hempty).1
  have hroots : (anyFrom (visitForCycle (dependencies.map Prod.fst) (dependenciesOf dependencies)
      []) (dependencies.map Prod.fst) []).1 = true ↔
        ∃ root ∈ dependencies.map Prod.fst, Cyclic (dependenciesOf dependencies) root :=
    anyFrom_visitForCycle_iff hkeys
  rw [detectDependencyCycle, refuseIf_ok, hsame, ← acyclic_iff_roots hkeys, Bool.eq_false_iff, Ne,
    hroots]
  simp only [not_exists, not_and]

end Search

/-! ## The checks of the lists -/

/-- A text that passes for an id of a pack or of one of its tasks. -/
def SlugOk (maxChars : ℕ) (value : String) : Prop :=
  (value == "") = false ∧ decide (maxChars < value.length) = false ∧ (!isSlugLike value) = false

theorem validateSlug_ok {value label path : String} {maxChars : ℕ} {u : Unit} :
    validateSlug value label path maxChars = .ok u ↔ SlugOk maxChars value := by
  rw [validateSlug, refuseIf_bind_ok, refuseIf_bind_ok, refuseIf_ok, SlugOk]

/-- A list passes when every text passes and none is there twice. -/
theorem collectDistinct_accepts_iff {check : ℕ → String → PackCheck String}
    {duplicate : ℕ → String → AgentQueuePromptPackPreviewDiagnostic} {P : String → Prop}
    (hcheck : ∀ i v w, check i v = .ok w ↔ w = v ∧ P v) {index : ℕ} {seen values : List String} :
    (∃ texts, collectDistinct check duplicate index seen values = .ok texts) ↔
      (∀ v ∈ values, P v ∧ v ∉ seen) ∧ values.Nodup := by
  induction values generalizing index seen with
  | nil => exact iff_of_true ⟨[], rfl⟩ ⟨by simp, List.nodup_nil⟩
  | cons value rest ih =>
    have hrest := @ih (index + 1) (value :: seen)
    simp only [collectDistinct, except_bind_ok, refuseIf_ok, exists_const, hcheck]
    constructor
    · rintro ⟨texts, w, ⟨rfl, hP⟩, hnew, later, hlater, -⟩
      obtain ⟨hall, hnodup⟩ := hrest.1 ⟨later, hlater⟩
      have hseen : w ∉ seen := by simpa using hnew
      refine ⟨?_, List.nodup_cons.2 ⟨?_, hnodup⟩⟩
      · intro v hv
        rcases List.mem_cons.1 hv with rfl | hv
        · exact ⟨hP, hseen⟩
        · exact ⟨(hall v hv).1, fun hmem => (hall v hv).2 (List.mem_cons_of_mem _ hmem)⟩
      · exact fun hmem => (hall w hmem).2 List.mem_cons_self
    · rintro ⟨hall, hnodup⟩
      obtain ⟨hvalue, hnodup⟩ := List.nodup_cons.1 hnodup
      obtain ⟨hP, hseen⟩ := hall value List.mem_cons_self
      obtain ⟨later, hlater⟩ := hrest.2 ⟨fun v hv => ⟨(hall v (List.mem_cons_of_mem _ hv)).1, by
        rintro (_ | ⟨_, hmem⟩)
        · exact hvalue hv
        · exact (hall v (List.mem_cons_of_mem _ hv)).2 hmem⟩, hnodup⟩
      exact ⟨value :: later, value, ⟨rfl, hP⟩, by simpa using hseen, later, hlater, rfl⟩

theorem checkTaskId_ok {index : ℕ} {v w : String} :
    checkTaskId index v = .ok w ↔ w = v ∧ SlugOk maxTaskIdChars v := by
  rw [checkTaskId, except_bind_ok]
  constructor
  · rintro ⟨u, hslug, h⟩
    exact ⟨(Except.ok.inj h).symm, validateSlug_ok.1 hslug⟩
  · rintro ⟨rfl, hslug⟩
    exact ⟨(), validateSlug_ok.2 hslug, rfl⟩

theorem checkDependency_ok {path taskId : String} {known : List String} {index : ℕ}
    {v w : String} :
    checkDependency path taskId known index v = .ok w ↔
      w = v ∧ SlugOk maxTaskIdChars v ∧ v ≠ taskId ∧ v ∈ known := by
  rw [checkDependency, except_bind_ok]
  simp only [refuseIf_bind_ok, validateSlug_ok, beq_eq_false_iff_ne, Bool.not_eq_false',
    List.contains_eq_mem, decide_eq_true_eq]
  constructor
  · rintro ⟨u, hslug, hself, hknown, h⟩
    exact ⟨(Except.ok.inj h).symm, hslug, hself, hknown⟩
  · rintro ⟨rfl, hslug, hself, hknown⟩
    exact ⟨(), hslug, hself, hknown, rfl⟩

/-- Dependencies pass when they name other tasks that are known, each once. -/
theorem normalizeDependencies_accepts_iff {dependencies known : List String} {taskId : String}
    {taskIndex : ℕ} (hknown : ∀ id ∈ known, SlugOk maxTaskIdChars id) :
    (∃ ids, normalizeDependencies dependencies taskId known taskIndex = .ok ids) ↔
      (∀ dep ∈ dependencies, dep ∈ known) ∧ taskId ∉ dependencies ∧ dependencies.Nodup := by
  have hlist := @collectDistinct_accepts_iff
    (checkDependency (indexedPath "$.tasks" taskIndex ++ ".dependsOn") taskId known)
    (duplicateDependency (indexedPath "$.tasks" taskIndex ++ ".dependsOn") taskId)
    (fun v => SlugOk maxTaskIdChars v ∧ v ≠ taskId ∧ v ∈ known)
    (fun i v w => checkDependency_ok) 0 [] dependencies
  simp only [normalizeDependencies, except_bind_ok]
  constructor
  · rintro ⟨ids, texts, htexts, -⟩
    obtain ⟨hall, hnodup⟩ := hlist.1 ⟨texts, htexts⟩
    exact ⟨fun dep hdep => (hall dep hdep).1.2.2, fun hself => (hall taskId hself).1.2.1 rfl,
      hnodup⟩
  · rintro ⟨hall, hself, hnodup⟩
    obtain ⟨texts, htexts⟩ := hlist.2 ⟨fun dep hdep => ⟨⟨hknown dep (hall dep hdep), by
      rintro rfl
      exact hself hdep, hall dep hdep⟩, List.not_mem_nil⟩, hnodup⟩
    exact ⟨sortedStrings texts, texts, htexts, rfl⟩

/-! ## The checks of the tasks -/

/-- A task without its dependencies. -/
def PromptPackTaskInput.withoutDependencies (task : PromptPackTaskInput) :
    PromptPackTaskInput := { task with dependsOn := [] }

section Tasks

variable {defaults : AgentQueuePromptPackDefaultsPreview} {known : List String}

/-- A task is accepted when its other fields are and its dependencies pass. -/
theorem normalizeTask_accepts_iff {index : ℕ} {task : PromptPackTaskInput} :
    (∃ preview, normalizeTask defaults known index task = .ok preview) ↔
      (∃ preview, normalizeTask defaults known index task.withoutDependencies = .ok preview) ∧
        ∃ ids, normalizeDependencies task.dependsOn task.id known index = .ok ids := by
  simp only [normalizeTask, except_bind_ok]
  constructor
  · rintro ⟨preview, u, htitle, v, hprompt, tags, htags, w, hpriority, x, houtput, safety, hsafety,
      ids, hids, -⟩
    exact ⟨⟨_, u, htitle, v, hprompt, tags, htags, w, hpriority, x, houtput, safety, hsafety, [],
      rfl, rfl⟩, ids, hids⟩
  · rintro ⟨⟨preview, u, htitle, v, hprompt, tags, htags, w, hpriority, x, houtput, safety, hsafety,
      _, -, -⟩, ids, hids⟩
    exact ⟨_, u, htitle, v, hprompt, tags, htags, w, hpriority, x, houtput, safety, hsafety, ids,
      hids, rfl⟩

theorem length_dependsOn_of_ok {index : ℕ} {task : PromptPackTaskInput}
    {preview : AgentQueuePromptPackTaskPreview}
    (h : normalizeTask defaults known index task = .ok preview) :
    preview.dependsOn.length = task.dependsOn.length := by
  obtain ⟨rfl, -⟩ := normalizeTask_ok h
  rw [packTaskPreview_dependsOn]
  exact (List.perm_insertionSort _ _).length_eq

/-- The list of tasks is accepted when each task is and there are not too many
dependencies. -/
theorem normalizeTasks_accepts_iff {index count : ℕ} {tasks : List PromptPackTaskInput}
    (hcount : count ≤ maxDependencyEdges) :
    (∃ previews, normalizeTasks defaults known index count tasks = .ok previews) ↔
      (∀ entry ∈ tasks.zipIdx index, ∃ preview,
        normalizeTask defaults known entry.2 entry.1 = .ok preview) ∧
      count + (tasks.map (·.dependsOn.length)).sum ≤ maxDependencyEdges := by
  induction tasks generalizing index count with
  | nil => exact iff_of_true ⟨[], rfl⟩ ⟨by simp, by simpa using hcount⟩
  | cons task rest ih =>
    simp only [normalizeTasks, except_bind_ok, refuseIf_ok, exists_const, List.zipIdx_cons,
      List.forall_mem_cons, List.map_cons, List.sum_cons, decide_eq_false_iff_not, Nat.not_lt]
    constructor
    · rintro ⟨previews, preview, htask, hlimit, later, hlater, -⟩
      have hlength := length_dependsOn_of_ok htask
      rw [hlength] at hlimit hlater
      obtain ⟨hrest, hsum⟩ := (ih hlimit).1 ⟨later, hlater⟩
      exact ⟨⟨⟨preview, htask⟩, hrest⟩, by omega⟩
    · rintro ⟨⟨⟨preview, htask⟩, hrest⟩, hsum⟩
      have hlength := length_dependsOn_of_ok htask
      have hlimit : count + task.dependsOn.length ≤ maxDependencyEdges := by omega
      obtain ⟨later, hlater⟩ := (ih hlimit).2 ⟨hrest, by omega⟩
      rw [← hlength] at hlimit hlater
      exact ⟨preview :: later, preview, htask, hlimit, later, hlater, rfl⟩

end Tasks

/-! ## The relation of a pack -/

/-- One task of a pack depends on another. -/
def PromptPackInput.DependsOn (input : PromptPackInput) (a b : String) : Prop :=
  ∃ task ∈ input.tasks, task.id = a ∧ b ∈ task.dependsOn

/-- The number of dependencies of a pack. -/
def PromptPackInput.dependencyCount (input : PromptPackInput) : ℕ :=
  (input.tasks.map (·.dependsOn.length)).sum

/-- The relations of packs that are accepted, whatever their size. -/
structure PromptPackInput.ValidDependencies (input : PromptPackInput) : Prop where
  known : ∀ task ∈ input.tasks, ∀ dep ∈ task.dependsOn, dep ∈ input.tasks.map (·.id)
  noSelf : ∀ task ∈ input.tasks, task.id ∉ task.dependsOn
  distinct : ∀ task ∈ input.tasks, task.dependsOn.Nodup
  acyclic : Acyclic input.DependsOn

/-- A pack with its other fields only. -/
def PromptPackInput.withoutDependencies (input : PromptPackInput) : PromptPackInput :=
  { input with tasks := input.tasks.map (·.withoutDependencies) }

/-- The checks of a pack that do not look into its tasks but at their ids. -/
structure PackFields (input : PromptPackInput) (defaults : AgentQueuePromptPackDefaultsPreview) :
    Prop where
  version : (input.version != 1) = false
  packId : SlugOk maxPackIdChars input.packId
  title : ∃ u, validateRequiredBoundedString input.title "title" "$.title" maxTitleChars = .ok u
  description : ∃ u, validateOptionalText input.description "description" "$.description"
    maxDescriptionChars = .ok u
  someTask : input.tasks.isEmpty = false
  taskLimit : decide (maxTasks < input.tasks.length) = false
  defaults : normalizeDefaults input.defaults = .ok defaults
  constraints : ∃ c, normalizeConstraints input.constraints = .ok c
  runSettings : ∃ r, normalizeRunSettings input.runSettings = .ok r
  ids : ∀ id ∈ input.tasks.map (·.id), SlugOk maxTaskIdChars id
  idsDiffer : (input.tasks.map (·.id)).Nodup

section Pack

variable {workspaceId : String} {input : PromptPackInput}

/-- The ids of the tasks pass when they are ids and differ. -/
theorem taskIds_accepts_iff {ids : List String} :
    (∃ known, collectDistinct checkTaskId duplicateTaskId 0 [] ids = .ok known) ↔
      (∀ id ∈ ids, SlugOk maxTaskIdChars id) ∧ ids.Nodup := by
  rw [collectDistinct_accepts_iff fun i v w => checkTaskId_ok]
  simp only [List.not_mem_nil, not_false_eq_true, and_true]

/-- A pack is accepted when its fields, its tasks and its relation are. -/
theorem normalizePromptPack_accepted :
    (∃ preview, normalizePromptPack workspaceId input = .ok preview) ↔
      ∃ defaults, PackFields input defaults ∧
        (∃ previews, normalizeTasks defaults (input.tasks.map (·.id)) 0 0 input.tasks =
          .ok previews) ∧
        Acyclic (Edge (dependenciesOf
          (dependenciesByTask (input.tasks.map (packTaskPreview defaults))))) := by
  simp only [normalizePromptPack, except_bind_ok, refuseIf_ok, exists_const, validateSlug_ok,
    detectDependencyCycle_ok]
  constructor
  · rintro ⟨preview, hversion, hpackId, u, htitle, v, hdescription, hsome, hlimit, defaults,
      hdefaults, constraints, hconstraints, settings, hsettings, known, hknown, tasks, htasks,
      hacyclic, -⟩
    obtain ⟨hids, hdiffer⟩ := taskIds_accepts_iff.1 ⟨known, hknown⟩
    obtain ⟨rfl, -⟩ := taskIds_ok hknown
    have hpreviews := htasks
    obtain ⟨rfl, -⟩ := normalizeTasks_ok htasks
    exact ⟨defaults, ⟨hversion, hpackId, ⟨u, htitle⟩, ⟨v, hdescription⟩, hsome, hlimit, hdefaults,
      ⟨constraints, hconstraints⟩, ⟨settings, hsettings⟩, hids, hdiffer⟩, ⟨_, hpreviews⟩, hacyclic⟩
  · rintro ⟨defaults, fields, ⟨tasks, htasks⟩, hacyclic⟩
    obtain ⟨u, htitle⟩ := fields.title
    obtain ⟨v, hdescription⟩ := fields.description
    obtain ⟨constraints, hconstraints⟩ := fields.constraints
    obtain ⟨settings, hsettings⟩ := fields.runSettings
    obtain ⟨known, hknown⟩ := taskIds_accepts_iff.2 ⟨fields.ids, fields.idsDiffer⟩
    obtain ⟨rfl, -⟩ := taskIds_ok hknown
    have hpreviews := htasks
    obtain ⟨rfl, -⟩ := normalizeTasks_ok htasks
    exact ⟨_, fields.version, fields.packId, u, htitle, v, hdescription, fields.someTask,
      fields.taskLimit, defaults, fields.defaults, constraints, hconstraints, settings, hsettings,
      _, hknown, _, hpreviews, hacyclic, rfl⟩

/-- The map of the dependencies is the relation of the pack. -/
theorem edge_dependenciesByTask (hids : (input.tasks.map (·.id)).Nodup)
    (defaults : AgentQueuePromptPackDefaultsPreview) {a b : String} :
    Edge (dependenciesOf
      (dependenciesByTask (input.tasks.map (packTaskPreview defaults)))) a b ↔
      input.DependsOn a b := by
  have hlist : (input.tasks.map (packTaskPreview defaults)).map (fun task =>
      (task.id, task.dependsOn)) =
        input.tasks.map fun task => (task.id, sortedStrings task.dependsOn) := by
    rw [List.map_map]
    rfl
  have hkeys : ((input.tasks.map fun task =>
      (task.id, sortedStrings task.dependsOn)).map Prod.fst).Nodup := by
    rw [List.map_map]
    exact hids
  have hlookup : ∀ id, (dependenciesByTask (input.tasks.map (packTaskPreview defaults))).lookup
      id = (input.tasks.map fun task => (task.id, sortedStrings task.dependsOn)).lookup id := by
    intro id
    rw [dependenciesByTask, orderedByTask, hlist]
    exact (Checks.lookup_perm (List.perm_insertionSort _ _).symm hkeys id).symm
  rw [Edge, dependenciesOf, hlookup]
  constructor
  · intro hedge
    cases hfound : (input.tasks.map fun task =>
        (task.id, sortedStrings task.dependsOn)).lookup a with
    | none => rw [hfound] at hedge; cases hedge
    | some deps =>
      rw [hfound, Option.getD_some] at hedge
      obtain ⟨before, later, hsplit, -⟩ := List.lookup_eq_some_iff.1 hfound
      have hmem : (a, deps) ∈ input.tasks.map fun task =>
          (task.id, sortedStrings task.dependsOn) := by
        rw [hsplit]
        exact List.mem_append_right _ List.mem_cons_self
      obtain ⟨task, htask, heq⟩ := List.mem_map.1 hmem
      obtain ⟨rfl, rfl⟩ := Prod.mk.inj heq
      exact ⟨task, htask, rfl, mem_sortedStrings.1 hedge⟩
  · rintro ⟨task, htask, rfl, hdep⟩
    rw [Checks.lookup_map hids (fun task => sortedStrings task.dependsOn) htask, Option.getD_some,
      mem_sortedStrings]
    exact hdep

theorem acyclic_dependenciesByTask (hids : (input.tasks.map (·.id)).Nodup)
    (defaults : AgentQueuePromptPackDefaultsPreview) :
    Acyclic (Edge (dependenciesOf
      (dependenciesByTask (input.tasks.map (packTaskPreview defaults))))) ↔
      Acyclic input.DependsOn :=
  ⟨fun h => h.mono fun _ _ => (edge_dependenciesByTask hids defaults).2,
    fun h => h.mono fun _ _ => (edge_dependenciesByTask hids defaults).1⟩

/-! ### The other fields -/

@[simp] theorem ids_withoutDependencies (input : PromptPackInput) :
    input.withoutDependencies.tasks.map (·.id) = input.tasks.map (·.id) := by
  rw [PromptPackInput.withoutDependencies, List.map_map]
  rfl

theorem packFields_withoutDependencies {defaults : AgentQueuePromptPackDefaultsPreview} :
    PackFields input.withoutDependencies defaults ↔ PackFields input defaults := by
  have hempty : input.withoutDependencies.tasks.isEmpty = input.tasks.isEmpty :=
    List.isEmpty_map
  have hlength : input.withoutDependencies.tasks.length = input.tasks.length :=
    List.length_map _
  have hids := ids_withoutDependencies input
  constructor
  · intro h
    exact ⟨h.version, h.packId, h.title, h.description, hempty ▸ h.someTask,
      hlength ▸ h.taskLimit, h.defaults, h.constraints, h.runSettings, hids ▸ h.ids,
      hids ▸ h.idsDiffer⟩
  · intro h
    exact ⟨h.version, h.packId, h.title, h.description, hempty.symm ▸ h.someTask,
      hlength.symm ▸ h.taskLimit, h.defaults, h.constraints, h.runSettings, hids.symm ▸ h.ids,
      hids.symm ▸ h.idsDiffer⟩

/-- Tasks without dependencies have no cycle. -/
theorem acyclic_withoutDependencies (input : PromptPackInput) :
    Acyclic input.withoutDependencies.DependsOn := by
  intro v hcycle
  obtain ⟨next, ⟨task, htask, -, hdep⟩, -⟩ := Relation.TransGen.head'_iff.1 hcycle
  obtain ⟨source, -, rfl⟩ := List.mem_map.1 htask
  cases hdep

/-- The tasks pass when they do without dependencies, and the dependencies pass. -/
theorem tasks_accepted (fields : ∃ defaults, PackFields input defaults)
    {defaults : AgentQueuePromptPackDefaultsPreview} :
    (∃ previews, normalizeTasks defaults (input.tasks.map (·.id)) 0 0 input.tasks =
        .ok previews) ↔
      (∃ previews, normalizeTasks defaults (input.tasks.map (·.id)) 0 0
        input.withoutDependencies.tasks = .ok previews) ∧
      (∀ task ∈ input.tasks, (∀ dep ∈ task.dependsOn, dep ∈ input.tasks.map (·.id)) ∧
        task.id ∉ task.dependsOn ∧ task.dependsOn.Nodup) ∧
      input.dependencyCount ≤ maxDependencyEdges := by
  obtain ⟨_, fields⟩ := fields
  have hzip : input.withoutDependencies.tasks.zipIdx 0 =
      (input.tasks.zipIdx 0).map fun entry => (entry.1.withoutDependencies, entry.2) :=
    List.zipIdx_map ..
  have hnone : (input.withoutDependencies.tasks.map (·.dependsOn.length)).sum = 0 := by
    rw [PromptPackInput.withoutDependencies, List.map_map]
    refine List.sum_eq_zero_iff_forall_eq_nat.2 fun n hn => ?_
    obtain ⟨task, -, rfl⟩ := List.mem_map.1 hn
    rfl
  have hdeps : ∀ entry ∈ input.tasks.zipIdx 0,
      (∃ ids, normalizeDependencies entry.1.dependsOn entry.1.id (input.tasks.map (·.id)) entry.2 =
        .ok ids) ↔
      ((∀ dep ∈ entry.1.dependsOn, dep ∈ input.tasks.map (·.id)) ∧
        entry.1.id ∉ entry.1.dependsOn ∧ entry.1.dependsOn.Nodup) :=
    fun entry _ => normalizeDependencies_accepts_iff fields.ids
  rw [normalizeTasks_accepts_iff (Nat.zero_le _), normalizeTasks_accepts_iff (Nat.zero_le _),
    hzip, hnone, PromptPackInput.dependencyCount, Nat.zero_add]
  simp only [List.forall_mem_map]
  constructor
  · rintro ⟨htasks, hcount⟩
    refine ⟨⟨fun entry hentry => (normalizeTask_accepts_iff.1 (htasks entry hentry)).1,
      Nat.zero_le _⟩, fun task htask => ?_, hcount⟩
    obtain ⟨i, hi, rfl⟩ := List.getElem_of_mem htask
    have hentry : (input.tasks[i], i) ∈ input.tasks.zipIdx 0 := by
      rw [List.mk_mem_zipIdx_iff_getElem?]
      simp [hi]
    exact (hdeps _ hentry).1 (normalizeTask_accepts_iff.1 (htasks _ hentry)).2
  · rintro ⟨⟨htasks, -⟩, hrelation, hcount⟩
    refine ⟨fun entry hentry => ?_, hcount⟩
    have hmem : entry.1 ∈ input.tasks := (List.mem_zipIdx' hentry).2 ▸ List.getElem_mem _
    exact normalizeTask_accepts_iff.2 ⟨htasks entry hentry,
      (hdeps entry hentry).2 (hrelation entry.1 hmem)⟩

/-- **The packs that are accepted**: those whose other fields are valid, with a valid relation
that is not too large. -/
theorem normalizePromptPack_accepts_iff (workspaceId : String) (input : PromptPackInput) :
    (∃ preview, normalizePromptPack workspaceId input = .ok preview) ↔
      (∃ preview, normalizePromptPack workspaceId input.withoutDependencies = .ok preview) ∧
        input.ValidDependencies ∧ input.dependencyCount ≤ maxDependencyEdges := by
  rw [normalizePromptPack_accepted, normalizePromptPack_accepted]
  constructor
  · rintro ⟨defaults, fields, htasks, hacyclic⟩
    obtain ⟨hother, hrelation, hcount⟩ := (tasks_accepted ⟨defaults, fields⟩).1 htasks
    have hfields := packFields_withoutDependencies.2 fields
    refine ⟨⟨defaults, hfields, ?_, ?_⟩, ⟨fun task h => (hrelation task h).1,
      fun task h => (hrelation task h).2.1, fun task h => (hrelation task h).2.2, ?_⟩, hcount⟩
    · rw [ids_withoutDependencies]
      exact hother
    · rw [acyclic_dependenciesByTask hfields.idsDiffer]
      exact acyclic_withoutDependencies input
    · exact (acyclic_dependenciesByTask fields.idsDiffer defaults).1 hacyclic
  · rintro ⟨⟨defaults, hfields, hother, -⟩, hvalid, hcount⟩
    have fields := packFields_withoutDependencies.1 hfields
    rw [ids_withoutDependencies] at hother
    refine ⟨defaults, fields, (tasks_accepted ⟨defaults, fields⟩).2 ⟨hother, fun task h =>
      ⟨hvalid.known task h, hvalid.noSelf task h, hvalid.distinct task h⟩, hcount⟩, ?_⟩
    exact (acyclic_dependenciesByTask fields.idsDiffer defaults).2 hvalid.acyclic

end Pack

end HobitQueue
