import HobitQueue.PromptPack.DependencyRelation
import HobitQueue.PromptPack.Idempotence

/-!
# The graph a materialization creates

The dependencies of the Queue tasks that a materialization creates are the image of the
relation of the pack, under the map from the ids of the pack to the ids that were drawn.

## Main results

* `prompt_pack_relation` — the relations that are accepted, and the graphs made of them.
* `crowded_pack_refused` — the limit of the number of dependencies.
-/

namespace HobitQueue

open Concurrent StoreProg Relational Search

/-! ## The graph of the created tasks -/

/-- The graph of the Queue tasks of a pack: each task of the pack has a Queue task of its own,
and their dependencies are those of the pack. -/
structure CreatedGraph (s : SqliteStore) (workspaceId : String) (input : PromptPackInput)
    (queueTaskId : String → String) : Prop where
  stored : ∀ a ∈ input.tasks.map (·.id),
    (s.getAgentQueueTask workspaceId (queueTaskId a)).isSome = true
  injective : ∀ a ∈ input.tasks.map (·.id), ∀ b ∈ input.tasks.map (·.id),
    queueTaskId a = queueTaskId b → a = b
  edges : ∀ a ∈ input.tasks.map (·.id), ∀ w,
    DependsOn s workspaceId (queueTaskId a) w ↔ ∃ b, input.DependsOn a b ∧ w = queueTaskId b
  inside : ∀ a ∈ input.tasks.map (·.id), ∀ w, DependsOn s workspaceId (queueTaskId a) w →
    ∃ b ∈ input.tasks.map (·.id), w = queueTaskId b
  acyclic : Acyclic fun v w => (∃ a ∈ input.tasks.map (·.id), v = queueTaskId a) ∧
    DependsOn s workspaceId v w

/-- A relation that is accepted, under an injective map of its ids, is such a graph. -/
theorem createdGraph_of_edges {s : SqliteStore} {workspaceId : String} {input : PromptPackInput}
    {queueTaskId : String → String} (hvalid : input.ValidDependencies)
    (hstored : ∀ a ∈ input.tasks.map (·.id),
      (s.getAgentQueueTask workspaceId (queueTaskId a)).isSome = true)
    (hinj : ∀ a ∈ input.tasks.map (·.id), ∀ b ∈ input.tasks.map (·.id),
      queueTaskId a = queueTaskId b → a = b)
    (hedges : ∀ a ∈ input.tasks.map (·.id), ∀ w,
      DependsOn s workspaceId (queueTaskId a) w ↔ ∃ b, input.DependsOn a b ∧ w = queueTaskId b) :
    CreatedGraph s workspaceId input queueTaskId := by
  have hinside : ∀ a b, input.DependsOn a b → b ∈ input.tasks.map (·.id) := by
    rintro a b ⟨task, htask, -, hdep⟩
    exact hvalid.known task htask b hdep
  refine ⟨hstored, hinj, hedges, ?_, ?_⟩
  · intro a ha w hw
    obtain ⟨b, hab, rfl⟩ := (hedges a ha w).1 hw
    exact ⟨b, hinside a b hab, rfl⟩
  · refine hvalid.acyclic.image (· ∈ input.tasks.map (·.id)) hinj ?_
    rintro _ w ⟨⟨a, ha, rfl⟩, hw⟩
    obtain ⟨b, hab, rfl⟩ := (hedges a ha w).1 hw
    exact ⟨a, b, ha, hinside a b hab, rfl, rfl, hab⟩

/-- The dependencies of the Queue task of a pack task. -/
theorem CreatedPack.dependsOn_iff {d : Draws} {preview : AgentQueuePromptPackPreview}
    {s t : PromptPackStore} (c : CreatedPack d preview s t)
    {task : AgentQueuePromptPackTaskPreview} (htask : task ∈ preview.tasks) {w : String} :
    DependsOn t.store preview.workspaceId (drawnQueueTaskId d preview task.id) w ↔
      ∃ dep ∈ task.dependsOn, w = drawnQueueTaskId d preview dep := by
  have hrow := c.tasks task htask
  obtain ⟨hmem, hws, hid⟩ := getAgentQueueTask_eq_some.1 hrow
  have hdeps : ∀ row ∈ t.store.agentQueueTasks, row.queueItemId =
      drawnQueueTaskId d preview task.id →
        rowDependencyIds row = task.dependsOn.map (drawnQueueTaskId d preview) := by
    intro row hrow hname
    have hsame := Table.eq_of_clash hrow hmem
      ⟨("queue_item_id", [row.queueItemId]), List.mem_singleton.2 rfl,
        by simp [Row.keys, hname, hid]⟩
    rw [hsame]
    simp [rowDependencyIds, AgentQueueTaskUpdate.apply, packTaskUpdate]
  constructor
  · rintro ⟨row, hrow, -, hname, hw⟩
    rw [hdeps row hrow hname] at hw
    obtain ⟨dep, hdep, rfl⟩ := List.mem_map.1 hw
    exact ⟨dep, hdep, rfl⟩
  · rintro ⟨dep, hdep, rfl⟩
    refine ⟨_, hmem, hws, hid, ?_⟩
    rw [hdeps _ hmem hid]
    exact List.mem_map_of_mem hdep

/-! ## The relations of packs -/

/-- The map a creation answers, and the graph it stores. -/
structure CreatedImage (result : AgentQueuePromptPackMaterializeResult) (s t : SqliteStore)
    (workspaceId : String) (input : PromptPackInput) (queueTaskId : String → String) : Prop where
  answer : (result.tasks.map fun task => (task.packTaskId, task.queueTaskId)) =
    input.tasks.map fun task => (task.id, some (queueTaskId task.id))
  new : ∀ a ∈ input.tasks.map (·.id), ∀ row ∈ s.agentQueueTasks,
    row.queueItemId ≠ queueTaskId a
  graph : CreatedGraph t workspaceId input queueTaskId

/-- What is created for the preview of a pack is the image of its relation. -/
theorem CreatedPack.graph {d : Draws} {preview : AgentQueuePromptPackPreview}
    {s t : PromptPackStore} (c : CreatedPack d preview s t) {input : PromptPackInput}
    {defaults : AgentQueuePromptPackDefaultsPreview} (hvalid : input.ValidDependencies)
    (hids : (input.tasks.map (·.id)).Nodup)
    (htasks : preview.tasks = input.tasks.map (packTaskPreview defaults)) :
    CreatedGraph t.store preview.workspaceId input (drawnQueueTaskId d preview) := by
  have hmember : ∀ task ∈ input.tasks, packTaskPreview defaults task ∈ preview.tasks :=
    fun task htask => htasks ▸ List.mem_map_of_mem htask
  refine createdGraph_of_edges hvalid ?_ ?_ ?_
  · intro a ha
    obtain ⟨task, htask, rfl⟩ := List.mem_map.1 ha
    have hrow := c.tasks _ (hmember task htask)
    rw [packTaskPreview_id] at hrow
    rw [hrow, Option.isSome_some]
  · intro a ha b hb hsame
    obtain ⟨task, htask, rfl⟩ := List.mem_map.1 ha
    obtain ⟨other, hother, rfl⟩ := List.mem_map.1 hb
    have heq : packTaskPreview defaults task = packTaskPreview defaults other := by
      refine List.inj_on_of_nodup_map c.distinct (mem_sortedPackTasks.2 (hmember task htask))
        (mem_sortedPackTasks.2 (hmember other hother)) ?_
      rw [packTaskPreview_id, packTaskPreview_id]
      exact hsame
    rw [← packTaskPreview_id defaults task, heq, packTaskPreview_id]
  · intro a ha w
    obtain ⟨task, htask, rfl⟩ := List.mem_map.1 ha
    have hrow := @CreatedPack.dependsOn_iff d preview s t c _ (hmember task htask) w
    rw [packTaskPreview_id, packTaskPreview_dependsOn] at hrow
    rw [hrow]
    constructor
    · rintro ⟨dep, hdep, rfl⟩
      exact ⟨dep, ⟨task, htask, rfl, mem_sortedStrings.1 hdep⟩, rfl⟩
    · rintro ⟨b, ⟨other, hother, hid, hb⟩, rfl⟩
      obtain rfl := List.inj_on_of_nodup_map hids hother htask hid
      exact ⟨b, mem_sortedStrings.2 hb, rfl⟩

/-- A request is read as one input. -/
theorem RequestInput.unique {request : AgentQueuePromptPackPreviewRequest}
    {a b : PromptPackInput} (ha : RequestInput request a) (hb : RequestInput request b) :
    a = b := by
  obtain ⟨document, hdocument, hread⟩ := ha
  obtain ⟨document', hdocument', hread'⟩ := hb
  obtain rfl := Option.some.inj (hdocument.symm.trans hdocument')
  exact Except.ok.inj (hread.symm.trans hread')

/-- **A materialization that creates a pack stores the image of its relation.** -/
theorem createdImage_of_created {d : Draws} {request : AgentQueuePromptPackMaterializeRequest}
    {s t : PromptPackStore} {result : AgentQueuePromptPackMaterializeResult}
    {input : PromptPackInput} (hrequest : RequestInput request input)
    (hrun : exec (materializeAgentQueuePromptPack d request) s = (.ok result, t))
    (hcreated : result.status = .created) :
    ∃ queueTaskId, CreatedImage result s.store t.store (Text.trim request.workspaceId) input
      queueTaskId := by
  obtain ⟨preview, hparse, hpack, hqueueIds⟩ := created_ok hrun hcreated
  obtain ⟨input', hrequest', hnormal⟩ := parsePromptPack_ok hparse
  obtain rfl := hrequest.unique hrequest'
  have hvalid := ((normalizePromptPack_accepts_iff _ _).1 ⟨preview, hnormal⟩).2.1
  obtain ⟨defaults, _, _, -, -, -, hids, -, hpreview⟩ := normalizePromptPack_ok hnormal
  have htasks : preview.tasks = input.tasks.map (packTaskPreview defaults) := by
    rw [hpreview, packPreview]
  refine ⟨drawnQueueTaskId d preview, ?_, ?_, ?_⟩
  · have hpairs := congrArg (List.map fun entry => (entry.1, entry.2.1)) hqueueIds
    simp only [AgentQueuePromptPackMaterializeResult.queueIds, htasks, List.map_map,
      Function.comp_def, packTaskPreview_id] at hpairs
    exact hpairs
  · intro a ha row hrow
    obtain ⟨task, htask, rfl⟩ := List.mem_map.1 ha
    have hmem : packTaskPreview defaults task ∈ preview.tasks :=
      htasks ▸ List.mem_map_of_mem htask
    have hfresh := hpack.fresh row hrow _ hmem
    rwa [packTaskPreview_id] at hfresh
  · rw [← parsePromptPack_workspaceId hparse]
    exact hpack.graph hvalid hids htasks

/-- **The relations of packs.** A pack with valid other fields is accepted exactly when its
relation names tasks of the pack, no task its own nor one twice, has no cycle and is not too
large; and a materialization that creates a pack stores the image of its relation, under the
map its answer gives, between new Queue tasks. -/
theorem prompt_pack_relation (workspaceId : String) (input : PromptPackInput) :
    ((∃ preview, normalizePromptPack workspaceId input = .ok preview) ↔
      (∃ preview, normalizePromptPack workspaceId input.withoutDependencies = .ok preview) ∧
        input.ValidDependencies ∧ input.dependencyCount ≤ maxDependencyEdges) ∧
    ∀ (d : Draws) (request : AgentQueuePromptPackMaterializeRequest) (s t : PromptPackStore)
      (result : AgentQueuePromptPackMaterializeResult), RequestInput request input →
      exec (materializeAgentQueuePromptPack d request) s = (.ok result, t) →
      result.status = .created →
      ∃ queueTaskId, CreatedImage result s.store t.store (Text.trim request.workspaceId) input
        queueTaskId :=
  ⟨normalizePromptPack_accepts_iff workspaceId input, fun _ _ _ _ _ hrequest hrun hcreated =>
    createdImage_of_created hrequest hrun hcreated⟩

/-- The pack of three tasks, two of which the third depends on, is created as its graph. -/
theorem prompt_pack_relation_joiningPack :
    ∃ input result t queueTaskId, RequestInput joiningPack input ∧
      exec (materializeAgentQueuePromptPack (withinTick 0) joiningPack) withoutPacks =
        (.ok result, t) ∧
      CreatedImage result withoutPacks.store t.store (Text.trim joiningPack.workspaceId) input
        queueTaskId := by
  obtain ⟨result, t, hrun, hcreated⟩ := joiningPack_created 0
  obtain ⟨preview, hparse, -⟩ := joiningPack_parsed
  obtain ⟨input, hrequest, -⟩ := parsePromptPack_ok hparse
  obtain ⟨queueTaskId, himage⟩ := (prompt_pack_relation "w" input).2 (withinTick 0) joiningPack
    withoutPacks t result hrequest hrun hcreated
  exact ⟨input, result, t, queueTaskId, hrequest, hrun, himage⟩

/-! ## A relation that is too large -/

/-- An id of two letters. -/
def letters (n : ℕ) : String := String.ofList [Char.ofNat (97 + n / 26), Char.ofNat (97 + n % 26)]

theorem letters_injective : ∀ a < 46, ∀ b < 46, letters a = letters b → a = b := by
  decide +kernel

/-- A task that depends on all before it. -/
def crowdedTask (n : ℕ) : PromptPackTaskInput where
  id := letters n
  title := "title"
  prompt := "prompt"
  dependsOn := (List.range n).map letters
  tags := []
  priority := none
  expectedOutput := none
  safety := none

/-- A pack of 46 tasks, each of which depends on all before it. -/
def crowdedPack : PromptPackInput where
  version := 1
  packId := "crowded"
  title := "title"
  description := none
  defaults := none
  runSettings := none
  constraints := none
  tasks := (List.range 46).map crowdedTask

theorem mem_crowdedPack {task : PromptPackTaskInput} (h : task ∈ crowdedPack.tasks) :
    ∃ n < 46, task = crowdedTask n := by
  obtain ⟨n, hn, rfl⟩ := List.mem_map.1 h
  exact ⟨n, List.mem_range.1 hn, rfl⟩

theorem mem_crowdedTask {n : ℕ} {dep : String} (h : dep ∈ (crowdedTask n).dependsOn) :
    ∃ i < n, dep = letters i := by
  obtain ⟨i, hi, rfl⟩ := List.mem_map.1 h
  exact ⟨i, List.mem_range.1 hi, rfl⟩

theorem acyclic_gt : Acyclic fun a b : ℕ => b < a := by
  intro v hcycle
  have hless : ∀ {a b : ℕ}, Relation.TransGen (fun a b : ℕ => b < a) a b → b < a := by
    intro a b hab
    induction hab with
    | single hab => exact hab
    | tail _ hbc ih => exact lt_trans hbc ih
  exact lt_irrefl v (hless hcycle)

theorem crowdedPack_valid : crowdedPack.ValidDependencies := by
  refine ⟨?_, ?_, ?_, ?_⟩
  · intro task htask dep hdep
    obtain ⟨n, hn, rfl⟩ := mem_crowdedPack htask
    obtain ⟨i, hi, rfl⟩ := mem_crowdedTask hdep
    rw [crowdedPack, List.map_map]
    exact List.mem_map.2 ⟨i, List.mem_range.2 (lt_trans hi hn), rfl⟩
  · intro task htask hdep
    obtain ⟨n, hn, rfl⟩ := mem_crowdedPack htask
    obtain ⟨i, hi, hsame⟩ := mem_crowdedTask hdep
    have := letters_injective n hn i (lt_trans hi hn) hsame
    omega
  · intro task htask
    obtain ⟨n, hn, rfl⟩ := mem_crowdedPack htask
    refine List.Nodup.map_on (fun i hi j hj h => ?_) List.nodup_range
    rw [List.mem_range] at hi hj
    exact letters_injective i (lt_trans hi hn) j (lt_trans hj hn) h
  · refine acyclic_gt.image (· < 46) letters_injective ?_
    rintro v w ⟨task, htask, rfl, hdep⟩
    obtain ⟨n, hn, rfl⟩ := mem_crowdedPack htask
    obtain ⟨i, hi, rfl⟩ := mem_crowdedTask hdep
    exact ⟨n, i, hn, lt_trans hi hn, rfl, rfl, hi⟩

/-- **A relation of 1035 dependencies without a cycle is refused**, whatever else is valid. -/
theorem crowded_pack_refused :
    crowdedPack.ValidDependencies ∧
      (∃ preview, normalizePromptPack "w" crowdedPack.withoutDependencies = .ok preview) ∧
      ¬ ∃ preview, normalizePromptPack "w" crowdedPack = .ok preview := by
  refine ⟨crowdedPack_valid, ?_, ?_⟩
  · have haccepted : (normalizePromptPack "w" crowdedPack.withoutDependencies).toOption.isSome =
        true := by decide +kernel
    cases hnormal : normalizePromptPack "w" crowdedPack.withoutDependencies with
    | ok preview => exact ⟨preview, rfl⟩
    | error error => rw [hnormal] at haccepted; cases haccepted
  · intro haccepted
    have hcount := ((normalizePromptPack_accepts_iff _ _).1 haccepted).2.2
    have hlarge : ¬ crowdedPack.dependencyCount ≤ maxDependencyEdges := by
      rw [PromptPackInput.dependencyCount, crowdedPack, List.map_map]
      have hlengths : ((·.dependsOn.length) ∘ crowdedTask) = id := by
        funext n
        rw [Function.comp_apply, crowdedTask, List.length_map, List.length_range]
        rfl
      rw [hlengths]
      decide
    exact hlarge hcount

end HobitQueue
