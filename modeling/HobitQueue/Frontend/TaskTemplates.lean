import HobitQueue.Frontend.WorkflowRequests

/-!
# The task templates of a dependency smoke

A request that starts a dependency smoke is accepted for the templates of its tasks exactly when
they are well formed, their slots are distinct and the dependencies between the slots name known
slots and have no cycle. The passes of the validation are separate: where a template has no
identifier as its slot the later passes do not see it, but then there is an issue already.

## Main results

* `validateTasks_eq_nil_iff` — when the templates have no issue.
* `reported_cycle_is_real` — a cycle that is reported is one of the relation.
-/

namespace HobitQueue.Frontend

open JavaScript Search

/-! ## What is asked of the templates -/

/-- The slot that a template names. -/
def slotOf (task : Json) : String := trimmedText (task.field "slot")

/-- The entries of the dependencies of a template. -/
def dependencyEntries (task : Json) : List Json :=
  match task.field "dependsOnSlots" with
  | some (.arr items) => items
  | _ => []

/-- The slots that the entries name. -/
def dependencySlots (task : Json) : List String :=
  (dependencyEntries task).map fun entry => trimmedText (some entry)

/-- A task of the first slot depends on the second. -/
def DependsOnSlot (tasks : List Json) (slot dependencySlot : String) : Prop :=
  ∃ task ∈ tasks, slotOf task = slot ∧ dependencySlot ∈ dependencySlots task

/-- What is asked of the templates together. -/
structure TasksAreWellFormed (tasks : List Json) : Prop where
  supported : ∀ task ∈ tasks, ∃ members, task = .obj members ∧
    ∀ field ∈ members, field.1 ∈ supportedTaskTemplateFields
  titled : ∀ task ∈ tasks, nonEmptyString (task.field "title")
  prompted : ∀ task ∈ tasks, nonEmptyString (task.field "prompt")
  slotted : ∀ task ∈ tasks, isSlotIdentifier (slotOf task)
  distinct : (tasks.map slotOf).Nodup
  known : ∀ task ∈ tasks, ∀ slot ∈ dependencySlots task, slot ≠ slotOf task ∧
    slot ∈ tasks.map slotOf
  acyclic : Acyclic (DependsOnSlot tasks)
  upstream : ∃ task ∈ tasks, slotOf task = "upstream"
  downstream : ∃ task ∈ tasks, slotOf task = "downstream" ∧ "upstream" ∈ dependencySlots task

/-- Dependencies that are there are an array. -/
def DependenciesAreLists (tasks : List Json) : Prop :=
  ∀ task ∈ tasks, task.field "dependsOnSlots" = none ∨
    ∃ items, task.field "dependsOnSlots" = some (.arr items)

/-! ## One template -/

@[simp] theorem issueUnless_eq_nil {condition : Bool} {fieldPath message : String}
    {reasonCode : QueueWorkflowRequestValidationReasonCode} :
    issueUnless condition fieldPath message reasonCode = [] ↔ condition = true := by
  cases condition <;> simp [issueUnless]

theorem unsupportedFields_eq_nil {supported : List String} {members : List (String × Json)}
    {path : String} {message : String → String}
    {reasonCode : QueueWorkflowRequestValidationReasonCode} :
    unsupportedFields supported members path message reasonCode = [] ↔
      ∀ field ∈ members, field.1 ∈ supported := by
  simp [unsupportedFields]

/-- A template without an issue of its own. -/
structure TemplateIsValid (task : Json) : Prop where
  supported : ∃ members, task = .obj members ∧
    ∀ field ∈ members, field.1 ∈ supportedTaskTemplateFields
  slotted : isSlotIdentifier (slotOf task)
  titled : nonEmptyString (task.field "title")
  prompted : nonEmptyString (task.field "prompt")
  listed : task.field "dependsOnSlots" = none ∨
    ∃ items, task.field "dependsOnSlots" = some (.arr items)
  identified : ∀ slot ∈ dependencySlots task, isSlotIdentifier slot

theorem isSlotIdentifier_empty : isSlotIdentifier "" = false := rfl

/-- A slot has no issue when it is an identifier that is not known yet. -/
theorem slotIssues_eq_nil {slots : List (String × ℕ)} {slot : String} {index : ℕ} :
    slotIssues slots slot index = [] ↔ isSlotIdentifier slot ∧ mapGet slots slot = none := by
  unfold slotIssues
  by_cases hempty : slot = ""
  · subst hempty
    simp [isSlotIdentifier_empty]
  rw [if_neg hempty]
  cases hslot : isSlotIdentifier slot with
  | false => simp
  | true => cases mapGet slots slot <;> simp

/-- The dependencies of a template, as its validation reads them. -/
theorem validateDependsOnSlots_spec (members : List (String × Json)) (index : ℕ) :
    (validateDependsOnSlots (members.lookup "dependsOnSlots") index).2 =
        (dependencySlots (.obj members)).filter isSlotIdentifier ∧
      ((validateDependsOnSlots (members.lookup "dependsOnSlots") index).1 = [] ↔
        (members.lookup "dependsOnSlots" = none ∨
            ∃ items, members.lookup "dependsOnSlots" = some (.arr items)) ∧
          ∀ slot ∈ dependencySlots (.obj members), isSlotIdentifier slot) := by
  have hfield : (Json.obj members).field "dependsOnSlots" = members.lookup "dependsOnSlots" := rfl
  rw [dependencySlots, dependencyEntries, hfield]
  cases hvalue : members.lookup "dependsOnSlots" with
  | none => simp [validateDependsOnSlots]
  | some value =>
    cases value with
    | arr items =>
      refine ⟨rfl, ?_⟩
      simp only [validateDependsOnSlots, List.flatMap_eq_nil_iff, issueUnless_eq_nil,
        Prod.forall, List.forall_mem_map]
      constructor
      · intro h
        refine ⟨.inr ⟨items, rfl⟩, fun item hitem => ?_⟩
        obtain ⟨i, hi, rfl⟩ := List.mem_iff_getElem.1 hitem
        exact h _ i (List.mem_zipIdx_iff_getElem?.2 (List.getElem?_eq_getElem hi))
      · rintro ⟨-, h⟩ item i hitem
        exact h item (List.fst_mem_of_mem_zipIdx hitem)
    | _ => simp [validateDependsOnSlots]

theorem templateIssues_eq_nil {slots : List (String × ℕ)} {members : List (String × Json)}
    {index : ℕ} : templateIssues slots members index = [] ↔
      TemplateIsValid (.obj members) ∧ mapGet slots (slotOf (.obj members)) = none := by
  have hdependencies := (validateDependsOnSlots_spec members index).2
  simp only [templateIssues, List.append_eq_nil_iff, unsupportedFields_eq_nil, slotIssues_eq_nil,
    issueUnless_eq_nil, hdependencies]
  constructor
  · rintro ⟨⟨⟨⟨hsupported, hslot, hnew⟩, htitle⟩, hprompt⟩, hlisted, hidentified⟩
    exact ⟨⟨⟨members, rfl, hsupported⟩, hslot, htitle, hprompt, hlisted, hidentified⟩, hnew⟩
  · rintro ⟨hvalid, hnew⟩
    obtain ⟨others, heq, hsupported⟩ := hvalid.supported
    obtain rfl := Json.obj.inj heq
    exact ⟨⟨⟨⟨hsupported, hvalid.slotted, hnew⟩, hvalid.titled⟩, hvalid.prompted⟩,
      hvalid.listed, hvalid.identified⟩

/-! ## All templates -/

/-- A slot that is an identifier is known afterwards, as are those before. -/
theorem mapGet_withSlot {slots : List (String × ℕ)} {slot other : String} {index : ℕ} :
    mapGet (withSlot slots slot index) other = none ↔
      mapGet slots other = none ∧ (isSlotIdentifier slot → other ≠ slot) := by
  unfold withSlot
  split_ifs with hnew
  · obtain ⟨hslot, hnone⟩ := Bool.and_eq_true_iff.1 hnew
    rw [mapGet_mapSet]
    split_ifs with heq
    · simp [heq, hslot]
    · simp [heq, hslot]
  · constructor
    · rintro hnone
      refine ⟨hnone, fun hslot heq => hnew ?_⟩
      subst heq
      simp [hslot, hnone]
    · exact fun h => h.1

/-- The templates have no issue when each is valid and their slots are new and distinct. -/
theorem validateTemplates_fst {slots : List (String × ℕ)} {index : ℕ} {tasks : List Json} :
    (validateTemplates slots index tasks).1 = [] ↔ (∀ task ∈ tasks, TemplateIsValid task) ∧
      (tasks.map slotOf).Nodup ∧ ∀ task ∈ tasks, mapGet slots (slotOf task) = none := by
  induction tasks generalizing slots index with
  | nil => simp [validateTemplates]
  | cons task rest ih =>
    cases task with
    | obj members =>
      have hslotOf : trimmedText (members.lookup "slot") = slotOf (.obj members) := rfl
      simp only [validateTemplates, List.append_eq_nil_iff, templateIssues_eq_nil, ih,
        mapGet_withSlot, hslotOf, List.forall_mem_cons, List.map_cons, List.nodup_cons,
        List.mem_map, not_exists, not_and]
      constructor
      · rintro ⟨⟨hvalid, hnew⟩, hrest, hnodup, hfresh⟩
        refine ⟨⟨hvalid, hrest⟩, ⟨fun other hother heq => ?_, hnodup⟩, hnew,
          fun other hother => (hfresh other hother).1⟩
        exact (hfresh other hother).2 hvalid.slotted heq
      · rintro ⟨⟨hvalid, hrest⟩, ⟨hapart, hnodup⟩, hnew, hfresh⟩
        exact ⟨⟨hvalid, hnew⟩, hrest, hnodup,
          fun other hother => ⟨hfresh other hother, fun _ => hapart other hother⟩⟩
    | _ =>
      simp only [validateTemplates, reduceCtorEq, false_iff]
      rintro ⟨hvalid, -⟩
      obtain ⟨members, heq, -⟩ := (hvalid _ List.mem_cons_self).supported
      cases heq

/-- The later passes see the templates whose slot is an identifier. -/
theorem validateTemplates_snd {slots : List (String × ℕ)} {index : ℕ} {tasks : List Json} :
    (validateTemplates slots index tasks).2.map (fun task => (task.slot, task.dependsOnSlots)) =
      (tasks.filter (isSlotIdentifier <| slotOf ·)).map fun task =>
        (slotOf task, (dependencySlots task).filter isSlotIdentifier) := by
  induction tasks generalizing slots index with
  | nil => rfl
  | cons task rest ih =>
    cases task with
    | obj members =>
      have hdependencies := (validateDependsOnSlots_spec members index).1
      have hslotOf : trimmedText (members.lookup "slot") = slotOf (.obj members) := rfl
      cases hslot : isSlotIdentifier (slotOf (.obj members)) with
      | true => simp [validateTemplates, hslotOf, hslot, ih, hdependencies]
      | false => simp [validateTemplates, hslotOf, hslot, ih]
    | _ => simp [validateTemplates, slotOf, Json.field, trimmedText, isSlotIdentifier_empty, ih]

/-! ## The later passes -/

section Passes

variable {tasks : List ValidatedTaskTemplate}

theorem mem_of_taskBySlot {slot : String} {task : ValidatedTaskTemplate}
    (h : taskBySlot tasks slot = some task) : task ∈ tasks ∧ task.slot = slot := by
  obtain ⟨other, hother, heq⟩ := List.mem_map.1 (mem_of_mapGet h)
  obtain ⟨hslot, rfl⟩ := Prod.mk.inj heq
  exact ⟨hother, hslot⟩

theorem taskBySlot_isSome {slot : String} :
    (taskBySlot tasks slot).isSome ↔ slot ∈ tasks.map (·.slot) := by
  rw [← Option.ne_none_iff_isSome, taskBySlot, Ne, mapGet_eq_none]
  simp

theorem taskBySlot_eq_some (hslots : (tasks.map (·.slot)).Nodup) {task : ValidatedTaskTemplate}
    (htask : task ∈ tasks) : taskBySlot tasks task.slot = some task := by
  obtain ⟨other, hother⟩ :=
    Option.isSome_iff_exists.1 (taskBySlot_isSome.2 (List.mem_map_of_mem htask))
  obtain ⟨hmem, hslot⟩ := mem_of_taskBySlot hother
  rw [hother, List.inj_on_of_nodup_map hslots hmem htask hslot]

theorem validateDependencyReferences_eq_nil :
    validateDependencyReferences tasks = [] ↔ ∀ task ∈ tasks, ∀ slot ∈ task.dependsOnSlots,
      slot ≠ task.slot ∧ slot ∈ tasks.map (·.slot) := by
  simp [validateDependencyReferences]

theorem validateRequiredDependencySmokeSlots_eq_nil (hslots : (tasks.map (·.slot)).Nodup) :
    validateRequiredDependencySmokeSlots tasks = [] ↔ "upstream" ∈ tasks.map (·.slot) ∧
      ∃ task ∈ tasks, task.slot = "downstream" ∧ "upstream" ∈ task.dependsOnSlots := by
  simp only [validateRequiredDependencySmokeSlots, dependencySmokeRequiredSlots,
    List.append_eq_nil_iff, List.flatMap_eq_nil_iff, issueUnless_eq_nil, taskBySlot_isSome,
    List.forall_mem_cons]
  constructor
  · rintro ⟨⟨hupstream, hdownstream, -⟩, hdepends⟩
    obtain ⟨task, htask, hslot⟩ := List.mem_map.1 hdownstream
    have hfound := taskBySlot_eq_some hslots htask
    rw [hslot] at hfound
    rw [hfound] at hdepends
    exact ⟨hupstream, task, htask, hslot, by simpa using hdepends⟩
  · rintro ⟨hupstream, task, htask, hslot, hdepends⟩
    have hfound := taskBySlot_eq_some hslots htask
    rw [hslot] at hfound
    rw [hfound]
    exact ⟨⟨hupstream, hslot ▸ List.mem_map_of_mem htask, by simp⟩, by simpa using hdepends⟩

/-- The search follows the dependencies of templates. -/
theorem exists_template_of_edge {slot dependencySlot : String}
    (h : Edge (dependencySlotsOf tasks) slot dependencySlot) :
    ∃ task ∈ tasks, task.slot = slot ∧ dependencySlot ∈ task.dependsOnSlots := by
  unfold Edge dependencySlotsOf at h
  cases htask : taskBySlot tasks slot with
  | none =>
    rw [htask] at h
    cases h
  | some task =>
    rw [htask] at h
    obtain ⟨hmem, hslot⟩ := mem_of_taskBySlot htask
    exact ⟨task, hmem, hslot, h⟩

theorem edge_of_template (hslots : (tasks.map (·.slot)).Nodup) {task : ValidatedTaskTemplate}
    (htask : task ∈ tasks) {dependencySlot : String}
    (h : dependencySlot ∈ task.dependsOnSlots) :
    Edge (dependencySlotsOf tasks) task.slot dependencySlot := by
  unfold Edge dependencySlotsOf
  rw [taskBySlot_eq_some hslots htask]
  exact h

/-- Reports are never taken back. -/
theorem issues_of_reportCycle (path : List String) (reports : CycleReports) :
    ∃ more, (reportCycle tasks path reports).issues = reports.issues ++ more ∧
      ∀ item ∈ more, item.message = cycleMessage (" -> ".intercalate path) := by
  unfold reportCycle
  simp only
  split_ifs
  · exact ⟨[], by simp⟩
  · exact ⟨_, rfl, by simp⟩

theorem issues_of_reports (cycles : List (List String)) (reports : CycleReports) :
    ∃ more, (cycles.foldl (fun reports cycle => reportCycle tasks cycle reports) reports).issues =
        reports.issues ++ more ∧
      ∀ item ∈ more, ∃ cycle ∈ cycles, item.message = cycleMessage (" -> ".intercalate cycle) := by
  induction cycles generalizing reports with
  | nil => exact ⟨[], by simp⟩
  | cons cycle rest ih =>
    obtain ⟨first, hfirst, hmessage⟩ := @issues_of_reportCycle tasks cycle reports
    obtain ⟨others, hothers, hmessages⟩ := ih (reportCycle tasks cycle reports)
    refine ⟨first ++ others, ?_, fun item hitem => ?_⟩
    · rw [List.foldl_cons, hothers, hfirst, List.append_assoc]
    · rcases List.mem_append.1 hitem with hitem | hitem
      · exact ⟨cycle, List.mem_cons_self, hmessage item hitem⟩
      · obtain ⟨other, hother, heq⟩ := hmessages item hitem
        exact ⟨other, List.mem_cons_of_mem cycle hother, heq⟩

/-- The first cycle is reported. -/
theorem reports_eq_nil {cycles : List (List String)} :
    (cycles.foldl (fun reports cycle => reportCycle tasks cycle reports)
      { reported := [], issues := [] }).issues = [] ↔ cycles = [] := by
  cases cycles with
  | nil => simp
  | cons cycle rest =>
    obtain ⟨more, hmore, -⟩ := @issues_of_reports tasks rest
      (reportCycle tasks cycle { reported := [], issues := [] })
    rw [List.foldl_cons, hmore]
    simp [reportCycle]

/-- The issues of the search are real cycles, and there are some exactly when there is a
cycle. -/
theorem validateDependencyCycles_spec :
    (∀ item ∈ validateDependencyCycles tasks, ∃ cycle,
        IsCycle (Edge (dependencySlotsOf tasks)) cycle ∧
          item.message = cycleMessage (" -> ".intercalate cycle)) ∧
      (validateDependencyCycles tasks = [] ↔ Acyclic (Edge (dependencySlotsOf tasks))) := by
  have hkeys : ∀ slot, slot ∉ tasks.map (·.slot) → dependencySlotsOf tasks slot = [] := by
    intro slot hslot
    have hnone := Option.not_isSome_iff_eq_none.1 (mt taskBySlot_isSome.1 hslot)
    rw [dependencySlotsOf, hnone]
    rfl
  obtain ⟨cycles, hstate, hreal, hnil⟩ := @visitEachReporting_spec _ _ _ _ _
    (reportCycle tasks) hkeys { reported := [], issues := [] }
  unfold validateDependencyCycles
  rw [hstate, reports_eq_nil]
  refine ⟨fun item hitem => ?_, hnil⟩
  obtain ⟨more, hmore, hmessages⟩ :=
    @issues_of_reports tasks cycles { reported := [], issues := [] }
  rw [hmore, List.nil_append] at hitem
  obtain ⟨cycle, hcycle, hmessage⟩ := hmessages item hitem
  exact ⟨cycle, hreal cycle hcycle, hmessage⟩

end Passes

/-! ## The tasks -/

section Tasks

variable {tasks : List Json}

/-- The slots and dependencies of valid templates, as the later passes see them. -/
theorem templates_of_valid (h : ∀ task ∈ tasks, TemplateIsValid task) :
    (validateTemplates [] 0 tasks).2.map (fun task => (task.slot, task.dependsOnSlots)) =
      tasks.map fun task => (slotOf task, dependencySlots task) := by
  rw [validateTemplates_snd, List.filter_eq_self.2 fun task htask => (h task htask).slotted]
  refine List.map_congr_left fun task htask => ?_
  rw [List.filter_eq_self.2 (h task htask).identified]

/-- The issues of a request's tasks, where the templates were seen by the later passes. -/
theorem validateTasks_eq (htemplates : (validateTemplates [] 0 tasks).2 ≠ []) :
    validateTasks (some (.arr tasks)) = (validateTemplates [] 0 tasks).1 ++
      validateDependencyReferences (validateTemplates [] 0 tasks).2 ++
      validateRequiredDependencySmokeSlots (validateTemplates [] 0 tasks).2 ++
      validateDependencyCycles (validateTemplates [] 0 tasks).2 := by
  cases tasks with
  | nil => exact absurd rfl htemplates
  | cons first rest => exact if_neg htemplates

/-- A task that the later passes see is one of the request's. -/
theorem exists_task_of_template {template : ValidatedTaskTemplate}
    (h : template ∈ (validateTemplates [] 0 tasks).2) :
    ∃ task ∈ tasks, slotOf task = template.slot ∧
      ∀ slot ∈ template.dependsOnSlots, slot ∈ dependencySlots task := by
  have hmem := List.mem_map_of_mem (f := fun task : ValidatedTaskTemplate =>
    (task.slot, task.dependsOnSlots)) h
  rw [validateTemplates_snd] at hmem
  obtain ⟨task, htask, heq⟩ := List.mem_map.1 hmem
  obtain ⟨hslot, hdepends⟩ := Prod.mk.inj heq
  refine ⟨task, List.mem_of_mem_filter htask, hslot, fun slot hslot => ?_⟩
  rw [← hdepends] at hslot
  exact List.mem_of_mem_filter hslot

/-- The cycles that are reported are cycles of the relation. -/
theorem cycles_are_real {item : QueueWorkflowRequestValidationIssue}
    (h : item ∈ validateDependencyCycles (validateTemplates [] 0 tasks).2) :
    ∃ cycle, IsCycle (DependsOnSlot tasks) cycle ∧
      item.message = cycleMessage (" -> ".intercalate cycle) := by
  obtain ⟨cycle, hcycle, hmessage⟩ := validateDependencyCycles_spec.1 item h
  refine ⟨cycle, ⟨hcycle.chain.imp fun slot dependencySlot hedge => ?_, hcycle.closed⟩, hmessage⟩
  obtain ⟨template, htemplate, rfl, hdepends⟩ := exists_template_of_edge hedge
  obtain ⟨task, htask, hslot, hslots⟩ := exists_task_of_template htemplate
  exact ⟨task, htask, hslot, hslots _ hdepends⟩

/-- The later passes see the slots and dependencies of valid templates. -/
theorem forall_template_iff (h : ∀ task ∈ tasks, TemplateIsValid task)
    (P : String → List String → Prop) :
    (∀ template ∈ (validateTemplates [] 0 tasks).2, P template.slot template.dependsOnSlots) ↔
      ∀ task ∈ tasks, P (slotOf task) (dependencySlots task) := by
  have hmap := congrArg (fun entries => ∀ entry ∈ entries, P entry.1 entry.2)
    (templates_of_valid h)
  simpa only [List.forall_mem_map] using Iff.of_eq hmap

theorem exists_template_iff (h : ∀ task ∈ tasks, TemplateIsValid task)
    (P : String → List String → Prop) :
    (∃ template ∈ (validateTemplates [] 0 tasks).2, P template.slot template.dependsOnSlots) ↔
      ∃ task ∈ tasks, P (slotOf task) (dependencySlots task) := by
  have hnot := not_congr (forall_template_iff h fun slot slots => ¬ P slot slots)
  simpa only [not_forall, not_not, exists_prop] using hnot

theorem slots_of_valid (h : ∀ task ∈ tasks, TemplateIsValid task) :
    (validateTemplates [] 0 tasks).2.map (·.slot) = tasks.map slotOf := by
  have hmap := congrArg (List.map Prod.fst) (templates_of_valid h)
  simpa only [List.map_map, Function.comp_def] using hmap

theorem edge_iff_dependsOnSlot (h : ∀ task ∈ tasks, TemplateIsValid task)
    (hslots : (tasks.map slotOf).Nodup) {slot dependencySlot : String} :
    Edge (dependencySlotsOf (validateTemplates [] 0 tasks).2) slot dependencySlot ↔
      DependsOnSlot tasks slot dependencySlot := by
  rw [DependsOnSlot, ← exists_template_iff h fun s slots => s = slot ∧ dependencySlot ∈ slots]
  constructor
  · exact exists_template_of_edge
  · rintro ⟨template, htemplate, rfl, hdepends⟩
    rw [← slots_of_valid h] at hslots
    exact edge_of_template hslots htemplate hdepends

/-- What the later passes ask of valid templates. -/
theorem laterPasses_eq_nil (h : ∀ task ∈ tasks, TemplateIsValid task)
    (hslots : (tasks.map slotOf).Nodup) :
    (validateDependencyReferences (validateTemplates [] 0 tasks).2 = [] ↔
        ∀ task ∈ tasks, ∀ slot ∈ dependencySlots task, slot ≠ slotOf task ∧
          slot ∈ tasks.map slotOf) ∧
      (validateRequiredDependencySmokeSlots (validateTemplates [] 0 tasks).2 = [] ↔
        "upstream" ∈ tasks.map slotOf ∧
          ∃ task ∈ tasks, slotOf task = "downstream" ∧ "upstream" ∈ dependencySlots task) ∧
      (validateDependencyCycles (validateTemplates [] 0 tasks).2 = [] ↔
        Acyclic (DependsOnSlot tasks)) := by
  have htemplates : ((validateTemplates [] 0 tasks).2.map (·.slot)).Nodup := by
    rw [slots_of_valid h]
    exact hslots
  refine ⟨?_, ?_, ?_⟩
  · rw [validateDependencyReferences_eq_nil, slots_of_valid h]
    exact forall_template_iff h fun s slots =>
      ∀ slot ∈ slots, slot ≠ s ∧ slot ∈ tasks.map slotOf
  · rw [validateRequiredDependencySmokeSlots_eq_nil htemplates, slots_of_valid h]
    exact and_congr_right fun _ => exists_template_iff h fun s slots =>
      s = "downstream" ∧ "upstream" ∈ slots
  · rw [validateDependencyCycles_spec.2]
    have hsame : Edge (dependencySlotsOf (validateTemplates [] 0 tasks).2) =
        DependsOnSlot tasks :=
      funext fun _ => funext fun _ => propext (edge_iff_dependsOnSlot h hslots)
    rw [hsame]

/-- **The templates have no issue** exactly when they are well formed and list their
dependencies in arrays. -/
theorem validateTasks_eq_nil_iff :
    validateTasks (some (.arr tasks)) = [] ↔
      TasksAreWellFormed tasks ∧ DependenciesAreLists tasks := by
  have htemplates := @validateTemplates_fst [] 0 tasks
  have hnone : ∀ task ∈ tasks, mapGet ([] : List (String × ℕ)) (slotOf task) = none :=
    fun _ _ => rfl
  constructor
  · intro hnil
    have hseen : (validateTemplates [] 0 tasks).2 ≠ [] := by
      intro hempty
      cases tasks with
      | nil => cases hnil
      | cons first rest =>
        have hfirst : (validateTemplates [] 0 (first :: rest)).1 = [] := by
          rw [validateTasks] at hnil
          simpa only [hempty, if_true] using hnil
        have hvalid := (htemplates.1 hfirst).1
        have hslots := slots_of_valid hvalid
        rw [hempty] at hslots
        cases hslots
    rw [validateTasks_eq hseen] at hnil
    simp only [List.append_eq_nil_iff] at hnil
    obtain ⟨⟨⟨hfirst, hreferences⟩, hrequired⟩, hcycles⟩ := hnil
    obtain ⟨hvalid, hslots, -⟩ := htemplates.1 hfirst
    obtain ⟨hknown, hsmoke, hacyclic⟩ := laterPasses_eq_nil hvalid hslots
    obtain ⟨hupstream, hdownstream⟩ := hsmoke.1 hrequired
    refine ⟨?_, fun task htask => (hvalid task htask).listed⟩
    exact
      { supported := fun task htask => (hvalid task htask).supported
        titled := fun task htask => (hvalid task htask).titled
        prompted := fun task htask => (hvalid task htask).prompted
        slotted := fun task htask => (hvalid task htask).slotted
        distinct := hslots
        known := hknown.1 hreferences
        acyclic := hacyclic.1 hcycles
        upstream := List.mem_map.1 hupstream
        downstream := hdownstream }
  · rintro ⟨h, hlisted⟩
    have hvalid : ∀ task ∈ tasks, TemplateIsValid task := by
      intro task htask
      refine ⟨h.supported task htask, h.slotted task htask, h.titled task htask,
        h.prompted task htask, hlisted task htask, fun slot hslot => ?_⟩
      obtain ⟨other, hother, rfl⟩ := List.mem_map.1 (h.known task htask slot hslot).2
      exact h.slotted other hother
    have hseen : (validateTemplates [] 0 tasks).2 ≠ [] := by
      intro hempty
      have hslots := slots_of_valid hvalid
      obtain ⟨task, htask, -⟩ := h.upstream
      rw [hempty] at hslots
      rw [List.map_eq_nil_iff.1 hslots.symm] at htask
      cases htask
    obtain ⟨hknown, hsmoke, hacyclic⟩ := laterPasses_eq_nil hvalid h.distinct
    rw [validateTasks_eq hseen, htemplates.2 ⟨hvalid, h.distinct, hnone⟩, hknown.2 h.known,
      hsmoke.2 ⟨List.mem_map.2 h.upstream, h.downstream⟩, hacyclic.2 h.acyclic]
    rfl

theorem reasonCode_of_issueUnless {condition : Bool} {fieldPath message : String}
    {reasonCode : QueueWorkflowRequestValidationReasonCode}
    {item : QueueWorkflowRequestValidationIssue}
    (h : item ∈ issueUnless condition fieldPath message reasonCode) :
    item.reasonCode = reasonCode := by
  unfold issueUnless at h
  split_ifs at h
  · cases h
  · rw [List.mem_singleton.1 h]

/-- Only the search reports cycles. -/
theorem reasonCode_templateIssues {slots : List (String × ℕ)} {members : List (String × Json)}
    {index : ℕ} {item : QueueWorkflowRequestValidationIssue}
    (h : item ∈ templateIssues slots members index) : item.reasonCode ≠ .dependencyCycle := by
  have hslot : ∀ slot, item ∈ slotIssues slots slot index →
      item.reasonCode ≠ .dependencyCycle := by
    intro slot hitem
    unfold slotIssues at hitem
    split_ifs at hitem
    · simp [List.mem_singleton.1 hitem]
    · simp [List.mem_singleton.1 hitem]
    · cases hget : mapGet slots slot with
      | none => simp [hget] at hitem
      | some existingIndex =>
        rw [hget] at hitem
        simp [List.mem_singleton.1 hitem]
  have hdepends : item ∈ (validateDependsOnSlots (members.lookup "dependsOnSlots") index).1 →
      item.reasonCode ≠ .dependencyCycle := by
    intro hitem
    unfold validateDependsOnSlots at hitem
    split at hitem
    · cases hitem
    · obtain ⟨entry, -, hentry⟩ := List.mem_flatMap.1 hitem
      simp [reasonCode_of_issueUnless hentry]
    · simp [List.mem_singleton.1 hitem]
  simp only [templateIssues, unsupportedFields, List.mem_append, List.mem_flatMap] at h
  rcases h with (((⟨field, -, h⟩ | h) | h) | h) | h
  · simp [reasonCode_of_issueUnless h]
  · exact hslot _ h
  · simp [reasonCode_of_issueUnless h]
  · simp [reasonCode_of_issueUnless h]
  · exact hdepends h

theorem reasonCode_validateTemplates {slots : List (String × ℕ)} {index : ℕ}
    {item : QueueWorkflowRequestValidationIssue}
    (h : item ∈ (validateTemplates slots index tasks).1) :
    item.reasonCode ≠ .dependencyCycle := by
  induction tasks generalizing slots index with
  | nil => cases h
  | cons task rest ih =>
    cases task with
    | obj members =>
      rcases List.mem_append.1 h with hitem | hitem
      · exact reasonCode_templateIssues hitem
      · exact ih hitem
    | _ =>
      rcases List.mem_cons.1 h with rfl | hitem
      · simp
      · exact ih hitem

theorem reasonCode_laterPasses {templates : List ValidatedTaskTemplate}
    {item : QueueWorkflowRequestValidationIssue}
    (h : item ∈ validateDependencyReferences templates ∨
      item ∈ validateRequiredDependencySmokeSlots templates) :
    item.reasonCode ≠ .dependencyCycle := by
  rcases h with h | h
  · obtain ⟨template, -, htemplate⟩ := List.mem_flatMap.1 h
    obtain ⟨slot, -, hslot⟩ := List.mem_flatMap.1 htemplate
    rcases List.mem_append.1 hslot with hitem | hitem
    · simp [reasonCode_of_issueUnless hitem]
    · simp [reasonCode_of_issueUnless hitem]
  · rcases List.mem_append.1 h with hitem | hitem
    · obtain ⟨slot, -, hslot⟩ := List.mem_flatMap.1 hitem
      simp [reasonCode_of_issueUnless hslot]
    · split at hitem
      · cases hitem
      · simp [reasonCode_of_issueUnless hitem]

/-- Every cycle that is reported is one of the relation. -/
theorem reported_cycle_is_real {item : QueueWorkflowRequestValidationIssue}
    (h : item ∈ validateTasks (some (.arr tasks))) (hcycle : item.reasonCode = .dependencyCycle) :
    ∃ cycle, IsCycle (DependsOnSlot tasks) cycle ∧
      item.message = cycleMessage (" -> ".intercalate cycle) := by
  by_cases hseen : (validateTemplates [] 0 tasks).2 = []
  · cases tasks with
    | nil =>
      rw [List.mem_singleton.1 h] at hcycle
      cases hcycle
    | cons first rest =>
      rw [validateTasks] at h
      simp only [hseen, if_true] at h
      exact absurd hcycle (reasonCode_validateTemplates h)
  · rw [validateTasks_eq hseen] at h
    simp only [List.mem_append] at h
    rcases h with ((h | h) | h) | h
    · exact absurd hcycle (reasonCode_validateTemplates h)
    · exact absurd hcycle (reasonCode_laterPasses (.inl h))
    · exact absurd hcycle (reasonCode_laterPasses (.inr h))
    · exact cycles_are_real h

end Tasks

end HobitQueue.Frontend
