import HobitQueue.Lib.Checks
import HobitQueue.PromptPack.Normalize

/-!
# Packs that pass their checks

The preview of an accepted payload is a function of what was read from the payload: the
checks only refuse. In it task ids differ and dependencies name tasks of the pack.

## Main results

* `normalizePromptPack_ok` — an accepted input has that preview.
* `parsePromptPack_wellFormed` — and the preview is well formed.
-/

namespace HobitQueue

/-! ## Lists -/

/-- What a check that only refuses makes of a list. -/
theorem collectDistinct_ok {check : ℕ → String → PackCheck String}
    {duplicate : ℕ → String → AgentQueuePromptPackPreviewDiagnostic} {f : String → String}
    {P : String → Prop} (hcheck : ∀ i v w, check i v = .ok w → w = f v ∧ P w) {index : ℕ}
    {seen values texts : List String}
    (h : collectDistinct check duplicate index seen values = .ok texts) :
    texts = values.map f ∧ texts.Nodup ∧ (∀ w ∈ texts, w ∉ seen) ∧ ∀ w ∈ texts, P w := by
  induction values generalizing index seen texts with
  | nil =>
    obtain rfl := Except.ok.inj h
    simp
  | cons value rest ih =>
    rw [collectDistinct] at h
    obtain ⟨text, htext, h⟩ := except_bind_ok.1 h
    obtain ⟨hnew, h⟩ := refuseIf_bind_ok.1 h
    obtain ⟨later, hlater, h⟩ := except_bind_ok.1 h
    obtain rfl := Except.ok.inj h
    obtain ⟨rfl, hnodup, hseen, hP⟩ := ih hlater
    obtain ⟨rfl, hPf⟩ := hcheck index value text htext
    refine ⟨rfl, List.nodup_cons.2 ⟨?_, hnodup⟩, ?_, ?_⟩
    · intro hmem
      exact hseen _ hmem List.mem_cons_self
    · intro w hw
      rcases List.mem_cons.1 hw with rfl | hw
      · simpa using hnew
      · exact fun hmem => hseen w hw (List.mem_cons_of_mem _ hmem)
    · intro w hw
      rcases List.mem_cons.1 hw with rfl | hw
      · exact hPf
      · exact hP w hw

theorem normalizeTags_ok {tags normalized : List String} {taskIndex : ℕ}
    (h : normalizeTags tags taskIndex = .ok normalized) :
    normalized = sortedStrings (tags.map normalizedTag) := by
  rw [normalizeTags] at h
  obtain ⟨-, h⟩ := refuseIf_bind_ok.1 h
  obtain ⟨texts, htexts, h⟩ := except_bind_ok.1 h
  have hcheck : ∀ i v w, checkTag (indexedPath "$.tasks" taskIndex ++ ".tags") i v = .ok w →
      w = normalizedTag v ∧ True := by
    intro i v w hw
    rw [checkTag] at hw
    obtain ⟨-, hw⟩ := refuseIf_bind_ok.1 hw
    obtain ⟨-, hw⟩ := refuseIf_bind_ok.1 hw
    exact ⟨(Except.ok.inj hw).symm, trivial⟩
  obtain ⟨rfl, -⟩ := collectDistinct_ok hcheck htexts
  exact (Except.ok.inj h).symm

theorem normalizeDependencies_ok {dependencies known normalized : List String}
    {taskId : String} {taskIndex : ℕ}
    (h : normalizeDependencies dependencies taskId known taskIndex = .ok normalized) :
    normalized = sortedStrings dependencies ∧ ∀ dep ∈ dependencies, dep ∈ known := by
  rw [normalizeDependencies] at h
  obtain ⟨texts, htexts, h⟩ := except_bind_ok.1 h
  have hcheck : ∀ i v w, checkDependency (indexedPath "$.tasks" taskIndex ++ ".dependsOn")
      taskId known i v = .ok w → w = id v ∧ w ∈ known := by
    intro i v w hw
    rw [checkDependency] at hw
    obtain ⟨_, -, hw⟩ := except_bind_ok.1 hw
    obtain ⟨-, hw⟩ := refuseIf_bind_ok.1 hw
    obtain ⟨hknown, hw⟩ := refuseIf_bind_ok.1 hw
    obtain rfl := Except.ok.inj hw
    exact ⟨rfl, by simpa using hknown⟩
  obtain ⟨rfl, -, -, hknown⟩ := collectDistinct_ok hcheck htexts
  rw [List.map_id] at h hknown
  exact ⟨(Except.ok.inj h).symm, hknown⟩

theorem taskIds_ok {ids known : List String}
    (h : collectDistinct checkTaskId duplicateTaskId 0 [] ids = .ok known) :
    known = ids ∧ ids.Nodup := by
  have hcheck : ∀ i v w, checkTaskId i v = .ok w → w = id v ∧ True := by
    intro i v w hw
    rw [checkTaskId] at hw
    obtain ⟨_, -, hw⟩ := except_bind_ok.1 hw
    exact ⟨(Except.ok.inj hw).symm, trivial⟩
  obtain ⟨hknown, hnodup, -⟩ := collectDistinct_ok hcheck h
  rw [List.map_id] at hknown
  exact ⟨hknown, hknown ▸ hnodup⟩

/-! ## The preview of an input -/

/-- The preview of a task, without its checks. -/
def packTaskPreview (defaults : AgentQueuePromptPackDefaultsPreview)
    (task : PromptPackTaskInput) : AgentQueuePromptPackTaskPreview :=
  let preview : AgentQueuePromptPackTaskPreview := {
    PromptPackOutlook.unevaluated with
    id := task.id
    queueTaskId := none
    title := task.title
    prompt := task.prompt
    dependsOn := sortedStrings task.dependsOn
    tags := sortedStrings (task.tags.map normalizedTag)
    priority := task.priority.getD defaults.priority
    status := defaults.status
    expectedOutput := task.expectedOutput
    safety := task.safety.map fun safety => ⟨safety.notes, safety.sensitiveTextWarning⟩
    taskSpecHash := ""
    dependencyQueueTaskIds := [] }
  { preview with taskSpecHash := taskSpecHash preview }

@[simp] theorem packTaskPreview_id (defaults : AgentQueuePromptPackDefaultsPreview)
    (task : PromptPackTaskInput) : (packTaskPreview defaults task).id = task.id := rfl

@[simp] theorem packTaskPreview_dependsOn (defaults : AgentQueuePromptPackDefaultsPreview)
    (task : PromptPackTaskInput) :
    (packTaskPreview defaults task).dependsOn = sortedStrings task.dependsOn := rfl

/-- The preview of a pack whose settings are normalized and whose tasks are previewed. -/
def packPreview (workspaceId : String) (pack : AgentQueuePromptPackMetadataPreview)
    (runSettings : AgentQueuePromptPackRunSettingsPreview)
    (tasks : List AgentQueuePromptPackTaskPreview) : AgentQueuePromptPackPreview :=
  let dependencyHash := dependencySpecHash (dependenciesByTask tasks)
  let settingsHash := runSettingsHash runSettings
  let packHash := packSpecHash pack tasks dependencyHash settingsHash
  { PromptPackOutlook.unevaluated with
    workspaceId := workspaceId
    pack := pack
    runSettings := runSettings
    taskCount := tasks.length
    dependencyCount := (tasks.map (·.dependsOn.length)).sum
    tasks := tasks
    packSpecHash := packHash
    runSettingsHash := settingsHash
    dependencySpecHash := dependencyHash
    fullPreviewHash := fullPreviewHash packHash
    blockers := [] }

theorem normalizeSafety_ok {safety : Option PromptPackSafetyInput} {taskIndex : ℕ}
    {preview : Option AgentQueuePromptPackSafetyPreview}
    (h : normalizeSafety safety taskIndex = .ok preview) :
    preview = safety.map fun safety => ⟨safety.notes, safety.sensitiveTextWarning⟩ := by
  cases safety with
  | none => exact (Except.ok.inj h).symm
  | some safety =>
    obtain ⟨_, -, h⟩ := except_bind_ok.1 h
    exact (Except.ok.inj h).symm

theorem normalizeTask_ok {defaults : AgentQueuePromptPackDefaultsPreview}
    {known : List String} {index : ℕ} {task : PromptPackTaskInput}
    {preview : AgentQueuePromptPackTaskPreview}
    (h : normalizeTask defaults known index task = .ok preview) :
    preview = packTaskPreview defaults task ∧ ∀ dep ∈ task.dependsOn, dep ∈ known := by
  rw [normalizeTask] at h
  obtain ⟨_, -, h⟩ := except_bind_ok.1 h
  obtain ⟨_, -, h⟩ := except_bind_ok.1 h
  obtain ⟨tags, htags, h⟩ := except_bind_ok.1 h
  obtain ⟨_, -, h⟩ := except_bind_ok.1 h
  obtain ⟨_, -, h⟩ := except_bind_ok.1 h
  obtain ⟨safety, hsafety, h⟩ := except_bind_ok.1 h
  obtain ⟨deps, hdeps, h⟩ := except_bind_ok.1 h
  obtain rfl := normalizeTags_ok htags
  obtain rfl := normalizeSafety_ok hsafety
  obtain ⟨rfl, hknown⟩ := normalizeDependencies_ok hdeps
  exact ⟨(Except.ok.inj h).symm, hknown⟩

theorem normalizeTasks_ok {defaults : AgentQueuePromptPackDefaultsPreview}
    {known : List String} {index count : ℕ} {tasks : List PromptPackTaskInput}
    {previews : List AgentQueuePromptPackTaskPreview}
    (h : normalizeTasks defaults known index count tasks = .ok previews) :
    previews = tasks.map (packTaskPreview defaults) ∧
      ∀ task ∈ tasks, ∀ dep ∈ task.dependsOn, dep ∈ known := by
  induction tasks generalizing index count previews with
  | nil =>
    obtain rfl := Except.ok.inj h
    simp
  | cons task rest ih =>
    rw [normalizeTasks] at h
    obtain ⟨preview, hpreview, h⟩ := except_bind_ok.1 h
    obtain ⟨-, h⟩ := refuseIf_bind_ok.1 h
    obtain ⟨later, hlater, h⟩ := except_bind_ok.1 h
    obtain ⟨rfl, hknown⟩ := normalizeTask_ok hpreview
    obtain ⟨rfl, hrest⟩ := ih hlater
    refine ⟨(Except.ok.inj h).symm, ?_⟩
    intro t ht
    rcases List.mem_cons.1 ht with rfl | ht
    · exact hknown
    · exact hrest t ht

/-- **The preview of an accepted input is a function of the input**: the checks only
refuse. -/
theorem normalizePromptPack_ok {workspaceId : String} {input : PromptPackInput}
    {preview : AgentQueuePromptPackPreview}
    (h : normalizePromptPack workspaceId input = .ok preview) :
    ∃ defaults constraints runSettings,
      normalizeDefaults input.defaults = .ok defaults ∧
      normalizeConstraints input.constraints = .ok constraints ∧
      normalizeRunSettings input.runSettings = .ok runSettings ∧
      (input.tasks.map (·.id)).Nodup ∧
      (∀ task ∈ input.tasks, ∀ dep ∈ task.dependsOn, dep ∈ input.tasks.map (·.id)) ∧
      preview = packPreview workspaceId
        ⟨input.version, input.packId, input.title, input.description, defaults, constraints⟩
        runSettings (input.tasks.map (packTaskPreview defaults)) := by
  rw [normalizePromptPack] at h
  obtain ⟨-, h⟩ := refuseIf_bind_ok.1 h
  obtain ⟨_, -, h⟩ := except_bind_ok.1 h
  obtain ⟨_, -, h⟩ := except_bind_ok.1 h
  obtain ⟨_, -, h⟩ := except_bind_ok.1 h
  obtain ⟨-, h⟩ := refuseIf_bind_ok.1 h
  obtain ⟨-, h⟩ := refuseIf_bind_ok.1 h
  obtain ⟨defaults, hdefaults, h⟩ := except_bind_ok.1 h
  obtain ⟨constraints, hconstraints, h⟩ := except_bind_ok.1 h
  obtain ⟨runSettings, hsettings, h⟩ := except_bind_ok.1 h
  obtain ⟨known, hknown, h⟩ := except_bind_ok.1 h
  obtain ⟨tasks, htasks, h⟩ := except_bind_ok.1 h
  obtain ⟨_, -, h⟩ := except_bind_ok.1 h
  obtain ⟨rfl, hids⟩ := taskIds_ok hknown
  obtain ⟨rfl, hdeps⟩ := normalizeTasks_ok htasks
  exact ⟨defaults, constraints, runSettings, hdefaults, hconstraints, hsettings, hids, hdeps,
    (Except.ok.inj h).symm⟩

/-! ## Well-formed previews -/

/-- What the materialization of a preview relies on. -/
structure AgentQueuePromptPackPreview.WellFormed (preview : AgentQueuePromptPackPreview) :
    Prop where
  ids : (preview.tasks.map (·.id)).Nodup
  taskCount : preview.taskCount = preview.tasks.length
  known : ∀ task ∈ preview.tasks, ∀ dep ∈ task.dependsOn, dep ∈ preview.tasks.map (·.id)

@[simp] theorem mem_sortedStrings {text : String} {texts : List String} :
    text ∈ sortedStrings texts ↔ text ∈ texts :=
  (List.perm_insertionSort _ texts).mem_iff

/-- What was read from the payload of a request. -/
def RequestInput (request : AgentQueuePromptPackPreviewRequest) (input : PromptPackInput) :
    Prop :=
  ∃ document, request.jsonPayload.parse = some document ∧
    readPromptPackInput document.ofDocument = .ok input

/-- A payload that is accepted was read as an input, and the input was accepted. -/
theorem parsePromptPack_ok {request : AgentQueuePromptPackPreviewRequest}
    {preview : AgentQueuePromptPackPreview} (h : parsePromptPack request = .ok preview) :
    ∃ input, RequestInput request input ∧
      normalizePromptPack (Text.trim request.workspaceId) input = .ok preview := by
  rw [parsePromptPack] at h
  obtain ⟨-, h⟩ := refuseIf_bind_ok.1 h
  cases hdoc : request.jsonPayload.parse with
  | none =>
    rw [hdoc] at h
    cases h
  | some document =>
    rw [hdoc] at h
    obtain ⟨-, h⟩ := refuseIf_bind_ok.1 h
    obtain ⟨_, -, h⟩ := except_bind_ok.1 h
    obtain ⟨_, -, h⟩ := except_bind_ok.1 h
    obtain ⟨_, -, h⟩ := except_bind_ok.1 h
    cases hinput : readPromptPackInput document.ofDocument with
    | error e =>
      rw [hinput] at h
      cases h
    | ok input =>
      rw [hinput] at h
      exact ⟨input, ⟨document, hdoc, hinput⟩, h⟩

/-- The preview of an accepted payload is about the workspace of its request. -/
theorem parsePromptPack_workspaceId {request : AgentQueuePromptPackPreviewRequest}
    {preview : AgentQueuePromptPackPreview} (h : parsePromptPack request = .ok preview) :
    preview.workspaceId = Text.trim request.workspaceId := by
  obtain ⟨input, -, hinput⟩ := parsePromptPack_ok h
  obtain ⟨_, _, _, -, -, -, -, -, rfl⟩ := normalizePromptPack_ok hinput
  rfl

/-- **The preview of an accepted payload is well formed.** -/
theorem parsePromptPack_wellFormed {request : AgentQueuePromptPackPreviewRequest}
    {preview : AgentQueuePromptPackPreview} (h : parsePromptPack request = .ok preview) :
    preview.WellFormed := by
  obtain ⟨input, -, hinput⟩ := parsePromptPack_ok h
  obtain ⟨defaults, constraints, runSettings, -, -, -, hids, hknown, rfl⟩ :=
    normalizePromptPack_ok hinput
  have htasks : (input.tasks.map (packTaskPreview defaults)).map (·.id) =
      input.tasks.map (·.id) := by
    rw [List.map_map]
    rfl
  refine ⟨by simpa only [packPreview, htasks] using hids, rfl, ?_⟩
  intro task htask dep hdep
  obtain ⟨source, hsource, rfl⟩ := List.mem_map.1 htask
  rw [packTaskPreview_dependsOn, mem_sortedStrings] at hdep
  simpa only [packPreview, htasks] using hknown source hsource dep hdep

end HobitQueue
