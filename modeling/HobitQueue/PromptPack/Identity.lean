import HobitQueue.PromptPack.Idempotence

/-!
# The identity of a pack

Payloads that list the same tasks in another order, and the dependencies and tags of a
task in another order, are the same pack: their previews differ in the order of the tasks
only. All hashes are taken of sorted parts, and every command does the same with both.

## Main results

* `parsePromptPack_same` — the previews of the same pack differ in the order of the tasks.
* `same_payload_same_identity` — hashes, answers and stores are the same.
-/

namespace HobitQueue

open Concurrent StoreProg Relational

/-! ## The same pack -/

/-- Tags that are the same up to blanks around them and the case of ASCII letters. -/
def SameTag (a b : String) : Prop :=
  (Text.trim a).toList.map Char.toLower = (Text.trim b).toList.map Char.toLower

/-- Tasks that differ in the order of dependencies, and in the order and the spelling of
tags. -/
structure SameTaskInput (a b : PromptPackTaskInput) : Prop where
  id : b.id = a.id
  title : b.title = a.title
  prompt : b.prompt = a.prompt
  priority : b.priority = a.priority
  expectedOutput : b.expectedOutput = a.expectedOutput
  safety : b.safety = a.safety
  dependsOn : a.dependsOn.Perm b.dependsOn
  tags : ∃ tags, a.tags.Perm tags ∧ List.Forall₂ SameTag tags b.tags

/-- Packs that differ in the order of tasks, and in what the same tasks may differ in. -/
structure SamePackInput (a b : PromptPackInput) : Prop where
  version : b.version = a.version
  packId : b.packId = a.packId
  title : b.title = a.title
  description : b.description = a.description
  defaults : b.defaults = a.defaults
  runSettings : b.runSettings = a.runSettings
  constraints : b.constraints = a.constraints
  tasks : ∃ tasks, a.tasks.Perm tasks ∧ List.Forall₂ SameTaskInput tasks b.tasks

/-- Requests for one workspace whose documents, up to the order of object members, are
read as the same pack. -/
def SamePayload (a b : AgentQueuePromptPackPreviewRequest) : Prop :=
  Text.trim b.workspaceId = Text.trim a.workspaceId ∧
  ∃ v w w' i j, a.jsonPayload = .value v ∧ b.jsonPayload = .value w' ∧ Json.Reordered w w' ∧
    readPromptPackInput v.ofDocument = .ok i ∧ readPromptPackInput w.ofDocument = .ok j ∧
    SamePackInput i j

theorem SameTaskInput.refl (a : PromptPackTaskInput) : SameTaskInput a a :=
  ⟨rfl, rfl, rfl, rfl, rfl, rfl, List.Perm.refl _,
    a.tags, List.Perm.refl _, List.forall₂_same.2 fun _ _ => rfl⟩

/-! ## The same preview -/

/-- Lists whose elements correspond have the same images. -/
private theorem map_eq_of_forall₂ {α β : Type} {R : α → α → Prop} {f : α → β}
    (hf : ∀ a b, R a b → f b = f a) {l l' : List α} (h : List.Forall₂ R l l') :
    l'.map f = l.map f := by
  induction h with
  | nil => rfl
  | cons hab _ ih => rw [List.map_cons, List.map_cons, ih, hf _ _ hab]

theorem sortedStrings_perm {a b : List String} (h : a.Perm b) :
    sortedStrings a = sortedStrings b := by
  refine List.Perm.eq_of_pairwise (fun x y _ _ => le_antisymm)
    (List.pairwise_insertionSort _ a) (List.pairwise_insertionSort _ b) ?_
  exact ((List.perm_insertionSort _ a).trans h).trans (List.perm_insertionSort _ b).symm

/-- The same task has the same preview. -/
theorem packTaskPreview_same (defaults : AgentQueuePromptPackDefaultsPreview)
    {a b : PromptPackTaskInput} (h : SameTaskInput a b) :
    packTaskPreview defaults b = packTaskPreview defaults a := by
  obtain ⟨tags, hperm, hsame⟩ := h.tags
  have htags : sortedStrings (b.tags.map normalizedTag) =
      sortedStrings (a.tags.map normalizedTag) := by
    have htag : ∀ x y, SameTag x y → normalizedTag y = normalizedTag x := by
      intro x y hxy
      rw [SameTag] at hxy
      rw [normalizedTag, normalizedTag, hxy]
    rw [map_eq_of_forall₂ htag hsame]
    exact (sortedStrings_perm (hperm.map normalizedTag)).symm
  simp only [packTaskPreview, h.id, h.title, h.prompt, h.priority, h.expectedOutput, h.safety,
    htags, sortedStrings_perm h.dependsOn]

/-- What is listed by task does not depend on the order of the tasks. -/
theorem orderedByTask_perm {α : Type} {a b : List (String × α)} (h : a.Perm b)
    (hkeys : (a.map Prod.fst).Nodup) : orderedByTask a = orderedByTask b :=
  Checks.insertionSort_perm Prod.fst h hkeys

/-- Two previews of the same pack: they differ in the order of the tasks. -/
def SamePreview (p q : AgentQueuePromptPackPreview) : Prop :=
  q = { p with tasks := q.tasks } ∧ p.tasks.Perm q.tasks

theorem packPreview_same {workspaceId : String} {pack : AgentQueuePromptPackMetadataPreview}
    {runSettings : AgentQueuePromptPackRunSettingsPreview}
    {a b : List AgentQueuePromptPackTaskPreview} (h : a.Perm b)
    (hids : (a.map (·.id)).Nodup) :
    SamePreview (packPreview workspaceId pack runSettings a)
      (packPreview workspaceId pack runSettings b) := by
  have hdeps : dependenciesByTask b = dependenciesByTask a := by
    refine (orderedByTask_perm (h.map _) ?_).symm
    rw [List.map_map]
    exact hids
  have hhashes : orderedByTask (b.map fun task => (task.id, task.taskSpecHash)) =
      orderedByTask (a.map fun task => (task.id, task.taskSpecHash)) := by
    refine (orderedByTask_perm (h.map _) ?_).symm
    rw [List.map_map]
    exact hids
  have hcount : (b.map fun task => task.dependsOn.length).sum =
      (a.map fun task => task.dependsOn.length).sum := (h.map _).sum_nat.symm
  refine ⟨?_, h⟩
  simp only [packPreview, packSpecHash, hdeps, hhashes, hcount, h.length_eq]

/-- **The previews of the same pack differ in the order of the tasks only.** -/
theorem parsePromptPack_same {a b : AgentQueuePromptPackPreviewRequest}
    {p q : AgentQueuePromptPackPreview} (h : SamePayload a b)
    (ha : parsePromptPack a = .ok p) (hb : parsePromptPack b = .ok q) : SamePreview p q := by
  obtain ⟨hws, v, w, w', i, j, hv, hw, hreordered, hi, hj, hsame⟩ := h
  obtain ⟨i', ⟨v', hv', hi'⟩, hp⟩ := parsePromptPack_ok ha
  obtain ⟨j', ⟨w'', hw', hj'⟩, hq⟩ := parsePromptPack_ok hb
  rw [hv] at hv'
  obtain rfl := Option.some.inj hv'
  rw [hw] at hw'
  obtain rfl := Option.some.inj hw'
  obtain rfl := Except.ok.inj (hi.symm.trans hi')
  rw [← Json.ofDocument_eq hreordered] at hj'
  obtain rfl := Except.ok.inj (hj.symm.trans hj')
  obtain ⟨defaults, constraints, settings, hd, hc, hs, hids, -, rfl⟩ := normalizePromptPack_ok hp
  obtain ⟨defaults', constraints', settings', hd', hc', hs', -, -, rfl⟩ :=
    normalizePromptPack_ok hq
  rw [hsame.defaults] at hd'
  rw [hsame.constraints] at hc'
  rw [hsame.runSettings] at hs'
  obtain rfl := Except.ok.inj (hd.symm.trans hd')
  obtain rfl := Except.ok.inj (hc.symm.trans hc')
  obtain rfl := Except.ok.inj (hs.symm.trans hs')
  obtain ⟨tasks, hperm, htasks⟩ := hsame.tasks
  have hmap : j.tasks.map (packTaskPreview defaults) = tasks.map (packTaskPreview defaults) :=
    map_eq_of_forall₂ (f := packTaskPreview defaults)
      (fun _ _ htask => packTaskPreview_same defaults htask) htasks
  rw [hws, hsame.version, hsame.packId, hsame.title, hsame.description, hmap]
  refine packPreview_same (hperm.map _) ?_
  rw [List.map_map]
  exact hids

/-! ## The same comparison -/

/-- Two maps of the tasks of a pack with the same entries. -/
def SameMaps (v w : ValidatedPromptPackMaterialization) : Prop :=
  (∀ id, v.queueTaskIdsByPackTaskId.lookup id = w.queueTaskIdsByPackTaskId.lookup id) ∧
  ∀ id, v.dependencyQueueTaskIdsByPackTaskId.lookup id =
    w.dependencyQueueTaskIdsByPackTaskId.lookup id

/-- Two outcomes of a comparison; the text of a conflict may be that of another task. -/
inductive SameState : PromptPackMaterializationState → PromptPackMaterializationState → Prop
  | notMaterialized : SameState .notMaterialized .notMaterialized
  | reusable {v w : ValidatedPromptPackMaterialization} :
      SameMaps v w → SameState (.reusable v) (.reusable w)
  | conflict (e e' : AgentQueuePromptPackPreviewDiagnostic) : SameState (.conflict e) (.conflict e')

section Comparison

variable {ps : PromptPackStore} {p : AgentQueuePromptPackPreview}

/-- The values of a list that passes, in another order of the list. -/
private theorem mapM_perm {α β : Type} {f : α → PackCheck β} {l l' : List α} {bs : List β}
    (h : l.Perm l') (hl : l.mapM f = .ok bs) : ∃ bs', l'.mapM f = .ok bs' ∧ bs.Perm bs' := by
  have hvalues : ∀ (k : List α) (cs : List β), k.mapM f = .ok cs →
      cs = k.filterMap fun a => (f a).toOption := by
    intro k cs hk
    have hall := Checks.mapM_ok.1 hk
    clear hk
    induction hall with
    | nil => rfl
    | cons hb _ ih => rw [List.filterMap_cons, hb, ih]; rfl
  obtain ⟨bs', hl'⟩ := (Checks.exists_mapM_of_perm h).1 ⟨bs, hl⟩
  refine ⟨bs', hl', ?_⟩
  rw [hvalues l bs hl, hvalues l' bs' hl']
  exact h.filterMap _

/-- The tasks that were mapped, in the order of the list. -/
private theorem mapped_tasks {mappings : List AgentQueuePromptPackTaskMappingRow}
    {tasks : List AgentQueuePromptPackTaskPreview} {mapped : List MappedPackTask}
    (h : tasks.mapM (mappedPackTask ps p mappings) = .ok mapped) :
    mapped.map (·.task) = tasks := by
  have hall := Checks.mapM_ok.1 h
  clear h
  induction hall with
  | nil => rfl
  | @cons task entry _ _ hentry _ ih =>
    have hsame : entry.task = task := by
      rw [mappedPackTask] at hentry
      split at hentry
      · cases hentry
      · split at hentry
        · cases hentry
        · split at hentry
          · cases hentry
          · split at hentry
            · exact (congrArg MappedPackTask.task (Except.ok.inj hentry)).symm
            · cases hentry
    rw [List.map_cons, ih, hsame]

private theorem mappedDependencies_id {ids : List (String × String)} {entry : MappedPackTask}
    {deps : String × List String} (h : mappedDependencies ids entry = .ok deps) :
    deps.1 = entry.task.id := by
  rw [mappedDependencies] at h
  obtain ⟨expected, -, h⟩ := except_bind_ok.1 h
  obtain ⟨actual, -, h⟩ := except_bind_ok.1 h
  obtain ⟨-, h⟩ := refuseIf_bind_ok.1 h
  exact (congrArg Prod.fst (Except.ok.inj h)).symm

/-- The tasks whose dependencies were checked, in the order of the list. -/
private theorem mappedDependencies_ids {ids : List (String × String)}
    {mapped : List MappedPackTask} {deps : List (String × List String)}
    (h : mapped.mapM (mappedDependencies ids) = .ok deps) :
    deps.map Prod.fst = (mapped.map (·.task)).map (·.id) := by
  have hall := Checks.mapM_ok.1 h
  clear h
  induction hall with
  | nil => rfl
  | cons hentry _ ih =>
    rw [List.map_cons, List.map_cons, List.map_cons, ih, mappedDependencies_id hentry]

/-- The validation of the same pack with its tasks in another order. -/
theorem validate_same {tasks : List AgentQueuePromptPackTaskPreview}
    (hids : (p.tasks.map (·.id)).Nodup) (h : p.tasks.Perm tasks)
    {v : ValidatedPromptPackMaterialization}
    (hv : validateExistingMaterialization ps p = .ok v) :
    ∃ w, validateExistingMaterialization ps { p with tasks := tasks } = .ok w ∧
      SameMaps v w := by
  rw [validateExistingMaterialization] at hv
  obtain ⟨hcount, hv⟩ := refuseIf_bind_ok.1 hv
  obtain ⟨mapped, hmapped, hv⟩ := except_bind_ok.1 hv
  obtain ⟨deps, hdeps, hv⟩ := except_bind_ok.1 hv
  obtain rfl := Except.ok.inj hv
  obtain ⟨mapped', hmapped', hperm⟩ := mapM_perm h hmapped
  have htasks := mapped_tasks hmapped
  have hkeys : ((mapped.map fun entry => (entry.task.id, entry.queueTaskId)).map
      Prod.fst).Nodup := by
    have heq : (mapped.map fun entry => (entry.task.id, entry.queueTaskId)).map Prod.fst =
        (mapped.map (·.task)).map (·.id) := by
      rw [List.map_map, List.map_map]
      rfl
    rw [heq, htasks]
    exact hids
  have hlookup := Checks.lookup_perm
    (hperm.map fun entry => (entry.task.id, entry.queueTaskId)) hkeys
  have hcheck : mappedDependencies (mapped'.map fun entry => (entry.task.id, entry.queueTaskId)) =
      mappedDependencies (mapped.map fun entry => (entry.task.id, entry.queueTaskId)) := by
    funext entry
    simp only [mappedDependencies, dependencyQueueTaskIds, hlookup]
  obtain ⟨deps', hdeps', hpermd⟩ := mapM_perm hperm hdeps
  have hdepkeys : (deps.map Prod.fst).Nodup := by
    rw [mappedDependencies_ids hdeps, htasks]
    exact hids
  refine ⟨⟨mapped'.map fun entry => (entry.task.id, entry.queueTaskId), deps'⟩, ?_,
    hlookup, Checks.lookup_perm hpermd hdepkeys⟩
  refine refuseIf_bind_ok.2 ⟨hcount, except_bind_ok.2 ⟨mapped', hmapped',
    except_bind_ok.2 ⟨deps', ?_, rfl⟩⟩⟩
  rw [hcheck]
  exact hdeps'

/-- **The same pack compares alike** with every store. -/
theorem materializationState_same {tasks : List AgentQueuePromptPackTaskPreview}
    (hids : (p.tasks.map (·.id)).Nodup) (h : p.tasks.Perm tasks) :
    SameState (materializationState ps p)
      (materializationState ps { p with tasks := tasks }) := by
  have hids' : (tasks.map (·.id)).Nodup := (h.map (·.id)).nodup_iff.1 hids
  simp only [materializationState]
  cases ps.getMaterialization p.workspaceId p.pack.packId with
  | none => exact SameState.notMaterialized
  | some existing =>
    simp only
    by_cases hhash : existing.packSpecHash ≠ p.packSpecHash
    · rw [if_pos hhash, if_pos hhash]
      exact SameState.conflict _ _
    · rw [if_neg hhash, if_neg hhash]
      have hsame : sameMaterializationHashes existing { p with tasks := tasks } =
          sameMaterializationHashes existing p := rfl
      rw [hsame]
      by_cases hhashes : sameMaterializationHashes existing p = true
      · rw [if_pos hhashes, if_pos hhashes]
        cases hv : validateExistingMaterialization ps p with
        | ok v =>
          obtain ⟨w, hw, hmaps⟩ := validate_same hids h hv
          rw [hw]
          exact SameState.reusable hmaps
        | error e =>
          cases hw : validateExistingMaterialization ps { p with tasks := tasks } with
          | error e' => exact SameState.conflict e e'
          | ok w =>
            obtain ⟨v, hv', -⟩ := @validate_same ps { p with tasks := tasks } p.tasks hids'
              h.symm w hw
            change validateExistingMaterialization ps p = _ at hv'
            rw [hv] at hv'
            cases hv'
      · rw [if_neg hhashes, if_neg hhashes]
        exact SameState.conflict _ _

end Comparison

/-! ## The same materialization -/

/-- Two answers that differ in the order of the tasks and in the text of an error only. -/
structure SameAnswer (a b : AgentQueuePromptPackMaterializeResult) : Prop where
  status : b.status = a.status
  packId : b.packId = a.packId
  packSpecHash : b.packSpecHash = a.packSpecHash
  runSettingsHash : b.runSettingsHash = a.runSettingsHash
  dependencySpecHash : b.dependencySpecHash = a.dependencySpecHash
  fullPreviewHash : b.fullPreviewHash = a.fullPreviewHash
  taskCount : b.taskCount = a.taskCount
  createdCount : b.createdCount = a.createdCount
  reusedCount : b.reusedCount = a.reusedCount
  conflictCount : b.conflictCount = a.conflictCount
  wouldMutateQueue : b.wouldMutateQueue = a.wouldMutateQueue
  tasks : a.tasks.Perm b.tasks

/-- Two runs with the same answer, or the same error, that leave one store. -/
inductive SameRun {ε : Type} :
    Except ε AgentQueuePromptPackMaterializeResult × PromptPackStore →
    Except ε AgentQueuePromptPackMaterializeResult × PromptPackStore → Prop
  | ok {a b : AgentQueuePromptPackMaterializeResult} (ps : PromptPackStore) :
      SameAnswer a b → SameRun (.ok a, ps) (.ok b, ps)
  | error (e : ε) (ps : PromptPackStore) : SameRun (.error e, ps) (.error e, ps)

section Materialization

variable {p : AgentQueuePromptPackPreview} {tasks : List AgentQueuePromptPackTaskPreview}

theorem success_same {status : PromptPackMaterializeStatus} {created reused : ℕ}
    {mutates : Bool} {v w : ValidatedPromptPackMaterialization} (h : p.tasks.Perm tasks)
    (hmaps : SameMaps v w) :
    SameAnswer (materializeSuccessResult p status created reused mutates v)
      (materializeSuccessResult { p with tasks := tasks } status created reused mutates w) := by
  refine ⟨rfl, rfl, rfl, rfl, rfl, rfl, rfl, rfl, rfl, rfl, rfl, ?_⟩
  simp only [materializeSuccessResult, hmaps.1, hmaps.2]
  exact h.map _

theorem conflict_same (h : p.tasks.Perm tasks)
    (e e' : AgentQueuePromptPackPreviewDiagnostic) :
    SameAnswer (materializeConflictResult p e)
      (materializeConflictResult { p with tasks := tasks } e') :=
  ⟨rfl, rfl, rfl, rfl, rfl, rfl, rfl, rfl, rfl, rfl, rfl, h.map _⟩

private theorem insertPackTasks_same (d : Draws) (index : ℕ)
    (sorted : List AgentQueuePromptPackTaskPreview) :
    insertPackTasks d { p with tasks := tasks } index sorted =
      insertPackTasks d p index sorted := by
  induction sorted generalizing index with
  | nil => rfl
  | cons task rest ih =>
    simp only [insertPackTasks, ih]
    rfl

private theorem linkPackTasks_same (d : Draws) (ids : List (String × String))
    (sorted : List AgentQueuePromptPackTaskPreview) :
    linkPackTasks d { p with tasks := tasks } ids sorted = linkPackTasks d p ids sorted := by
  induction sorted with
  | nil => rfl
  | cons task rest ih =>
    simp only [linkPackTasks, ih]
    rfl

/-- The rows of a new pack do not depend on the order of its tasks. -/
theorem insertPromptPack_same (hids : (p.tasks.map (·.id)).Nodup) (h : p.tasks.Perm tasks)
    (d : Draws) : insertPromptPack d { p with tasks := tasks } = insertPromptPack d p := by
  have hsorted : sortedPackTasks tasks = sortedPackTasks p.tasks :=
    (Checks.insertionSort_perm AgentQueuePromptPackTaskPreview.id h hids).symm
  simp only [insertPromptPack, hsorted, insertPackTasks_same, linkPackTasks_same]
  rfl

/-- The transactions of the same pack run alike. -/
theorem materializePromptPack_same (hids : (p.tasks.map (·.id)).Nodup)
    (h : p.tasks.Perm tasks) (d : Draws) (s : PromptPackStore) :
    SameRun (exec (materializePromptPackInTransaction d p) s)
      (exec (materializePromptPackInTransaction d { p with tasks := tasks }) s) := by
  rw [exec_materializePromptPack, exec_materializePromptPack]
  by_cases hws : s.store.hasWorkspace p.workspaceId = true
  · rw [if_pos hws, if_pos hws]
    have hstate := @materializationState_same s p tasks hids h
    generalize hp : materializationState s p = first at hstate
    generalize hq : materializationState s { p with tasks := tasks } = second at hstate
    cases hstate with
    | reusable hmaps => exact SameRun.ok s (success_same h hmaps)
    | conflict e e' => exact SameRun.ok s (conflict_same h e e')
    | notMaterialized =>
      simp only [createPromptPackTasks, insertPromptPack_same hids h d, exec_bind]
      rcases exec (insertPromptPack d p) s with ⟨e | ids, t⟩
      · exact SameRun.error e t
      · exact SameRun.ok t (success_same h ⟨fun _ => rfl, fun _ => rfl⟩)
  · rw [if_neg hws, if_neg hws]
    exact SameRun.ok s (conflict_same h _ _)

end Materialization

/-! ## Identity -/

section Identity

variable {a b : AgentQueuePromptPackMaterializeRequest} {p q : AgentQueuePromptPackPreview}

/-- **Materializations of the same pack run alike.** -/
theorem materializeAgentQueuePromptPack_same (h : SamePayload a b)
    (ha : parsePromptPack a = .ok p) (hb : parsePromptPack b = .ok q) (d : Draws)
    (s : PromptPackStore) :
    SameRun (exec (materializeAgentQueuePromptPack d a) s)
      (exec (materializeAgentQueuePromptPack d b) s) := by
  obtain ⟨hq, hperm⟩ := parsePromptPack_same h ha hb
  have hrun := materializePromptPack_same (parsePromptPack_wellFormed ha).ids hperm d s
  rw [← hq] at hrun
  rw [exec_materializeAgentQueuePromptPack, ha, exec_materializeAgentQueuePromptPack, hb]
  simp only [exec_mapErr, exec_atomically]
  generalize exec (materializePromptPackInTransaction d p) s = first at hrun
  generalize exec (materializePromptPackInTransaction d q) s = second at hrun
  cases hrun with
  | ok t hsame => exact SameRun.ok t hsame
  | error e t => exact SameRun.error (mapStorageAgentQueueTaskError e) s

/-- An answer that the pack is reused does not depend on the draws. -/
theorem reused_again {d later : Draws} {request : AgentQueuePromptPackMaterializeRequest}
    {s t : PromptPackStore} {result : AgentQueuePromptPackMaterializeResult}
    (h : exec (materializeAgentQueuePromptPack d request) s = (.ok result, t))
    (hreused : result.status = .reused) :
    t = s ∧ exec (materializeAgentQueuePromptPack later request) s = (.ok result, s) := by
  rw [exec_materializeAgentQueuePromptPack] at h ⊢
  cases hparse : parsePromptPack request with
  | error error =>
    rw [hparse] at h
    obtain rfl := Except.ok.inj (Prod.mk.inj h).1
    cases hreused
  | ok preview =>
    rw [hparse] at h
    have htx := StoreProg.exec_atomically_ok.1 (StoreProg.exec_mapErr_ok.1 h)
    have hgoal : t = s ∧ exec (materializePromptPackInTransaction later preview) s =
        (.ok result, s) := by
      rw [exec_materializePromptPack] at htx ⊢
      split at htx
      · rename_i hws
        rw [if_pos hws]
        split at htx
        · rename_i v hstate
          obtain ⟨hresult, rfl⟩ := Prod.mk.inj htx
          exact ⟨rfl, Prod.ext hresult rfl⟩
        · obtain ⟨hresult, -⟩ := Prod.mk.inj htx
          obtain rfl := Except.ok.inj hresult
          cases hreused
        · obtain ⟨-, rfl⟩ := createPromptPackTasks_ok (parsePromptPack_wellFormed hparse) htx
          cases hreused
      · obtain ⟨hresult, -⟩ := Prod.mk.inj htx
        obtain rfl := Except.ok.inj hresult
        cases hreused
    refine ⟨hgoal.1, StoreProg.exec_mapErr_ok.2 (StoreProg.exec_atomically_ok.2 hgoal.2)⟩

/-- Two previews with the same hashes, those of the tasks in any order. -/
structure SameHashes (p q : AgentQueuePromptPackPreview) : Prop where
  packSpec : q.packSpecHash = p.packSpecHash
  runSettings : q.runSettingsHash = p.runSettingsHash
  dependencySpec : q.dependencySpecHash = p.dependencySpecHash
  fullPreview : q.fullPreviewHash = p.fullPreviewHash
  taskSpecs : (p.tasks.map fun task => (task.id, task.taskSpecHash)).Perm
    (q.tasks.map fun task => (task.id, task.taskSpecHash))

/-- On a store, the second payload is answered like the first one and changes nothing; ids that
sort like those of the pack are reused. -/
def AnswersAlike (later : Draws) (a b : AgentQueuePromptPackMaterializeRequest)
    (sorted : Prop) (ps : PromptPackStore) : Prop :=
  ∃ repeated again, exec (materializeAgentQueuePromptPack later a) ps = (.ok repeated, ps) ∧
    exec (materializeAgentQueuePromptPack later b) ps = (.ok again, ps) ∧
    SameAnswer repeated again ∧ (again.status = .reused ∨ again.status = .conflict) ∧
      (sorted → again.status = .reused)

/-- **Payloads of the same pack have one identity.** All their hashes agree, and on every
store their materializations run alike. So after the first one was reused the second one
is reused, and after the first one created the pack the second one is answered like the
first one repeated, with no second set of tasks, and is reused when the drawn ids sort like those
of the pack. -/
theorem same_payload_same_identity (h : SamePayload a b) (ha : parsePromptPack a = .ok p)
    (hb : parsePromptPack b = .ok q) :
    SameHashes p q ∧
    (∀ d s, SameRun (exec (materializeAgentQueuePromptPack d a) s)
      (exec (materializeAgentQueuePromptPack d b) s)) ∧
    (∀ d s first t, exec (materializeAgentQueuePromptPack d a) s = (.ok first, t) →
      first.status = .reused → ∀ later, ∃ again,
        exec (materializeAgentQueuePromptPack later b) t = (.ok again, t) ∧
          SameAnswer first again) ∧
    ∀ d s first t, exec (materializeAgentQueuePromptPack d a) s = (.ok first, t) →
      first.status = .created → ∀ history : List PackOp,
        Machine.Along performPack
          (Unedited (Text.trim a.workspaceId) first.queueTaskIds) t history →
        ∀ later, AnswersAlike later a b (SortsAlike (drawnQueueTaskId d p) p)
          (Machine.after performPack t history) := by
  have hrun := materializeAgentQueuePromptPack_same h ha hb
  refine ⟨?_, hrun, ?_, ?_⟩
  · obtain ⟨hq, hperm⟩ := parsePromptPack_same h ha hb
    rw [hq]
    exact ⟨rfl, rfl, rfl, rfl, hperm.map _⟩
  · intro d s first t hfirst hreused later
    obtain ⟨rfl, hagain⟩ := @reused_again d later a s t first hfirst hreused
    have hsame := hrun later t
    rw [hagain] at hsame
    generalize hsecond : exec (materializeAgentQueuePromptPack later b) t = second at hsame
    cases hsame with
    | ok _ hanswer => exact ⟨_, rfl, hanswer⟩
  · intro d s first t hfirst hcreated history hunedited later
    obtain ⟨preview, hparse, hpack, hids⟩ := created_ok hfirst hcreated
    obtain rfl := Except.ok.inj (ha.symm.trans hparse)
    have hp := parsePromptPack_wellFormed ha
    rw [← parsePromptPack_workspaceId ha, created_queueTaskIds hids] at hunedited
    have hstored := (hpack.stored hp).after hunedited
    have hsame := hrun later (Machine.after performPack t history)
    by_cases hsorted : SortsAlike (drawnQueueTaskId d p) p
    · rw [hstored.reused ha hsorted] at hsame
      generalize hsecond : exec (materializeAgentQueuePromptPack later b) _ = second at hsame
      cases hsame with
      | ok _ hanswer =>
        exact ⟨_, _, hstored.reused ha hsorted, hsecond, hanswer, Or.inl hanswer.status,
          fun _ => hanswer.status⟩
    · obtain ⟨error, hconflict⟩ := @StoredPack.conflicts later a p _ _ ha hstored hsorted
      rw [hconflict] at hsame
      generalize hsecond : exec (materializeAgentQueuePromptPack later b) _ = second at hsame
      cases hsame with
      | ok _ hanswer =>
        exact ⟨_, _, hconflict, hsecond, hanswer, Or.inr hanswer.status, fun h => absurd h hsorted⟩

end Identity

/-! ## Two ways to write a pack -/

/-- The pack of three tasks with its tasks, dependencies and members in another order, and
blanks around the workspace. -/
def rejoiningPack : AgentQueuePromptPackMaterializeRequest where
  workspaceId := " w"
  jsonPayload := .value (.obj [("packId", .str "joining"), ("title", .str "title"),
    ("version", .num "1"), ("tasks", .arr [packTaskJson "third" ["first", "second"],
      packTaskJson "second" [], packTaskJson "first" []])])

/-- A task of the pack of three tasks, as it is read. -/
def joiningTask (id : String) (dependsOn : List String) : PromptPackTaskInput where
  id := id
  title := "title"
  prompt := "prompt"
  priority := none
  expectedOutput := none
  safety := none
  dependsOn := dependsOn
  tags := []

/-- The pack of three tasks, as it is read. -/
def joiningInput (tasks : List PromptPackTaskInput) : PromptPackInput where
  version := 1
  packId := "joining"
  title := "title"
  description := none
  defaults := none
  runSettings := none
  constraints := none
  tasks := tasks

theorem rejoiningPack_same : SamePayload joiningPack rejoiningPack := by
  refine ⟨by decide, _, _, _, joiningInput [joiningTask "first" [], joiningTask "second" [],
    joiningTask "third" ["second", "first"]], joiningInput [joiningTask "third"
      ["first", "second"], joiningTask "second" [], joiningTask "first" []], rfl, rfl,
    Json.Reordered.refl _, by decide +kernel, by decide +kernel, rfl, rfl, rfl, rfl, rfl, rfl,
    rfl, [joiningTask "third" ["second", "first"], joiningTask "second" [],
      joiningTask "first" []], by decide, ?_⟩
  refine .cons ⟨rfl, rfl, rfl, rfl, rfl, rfl, by decide, [], by decide, .nil⟩
    (.cons (SameTaskInput.refl _) (.cons (SameTaskInput.refl _) .nil))

/-- The pack of three tasks is the same pack when it is written in another order. -/
theorem same_payload_same_identity_rejoiningPack :
    ∃ p q, parsePromptPack joiningPack = .ok p ∧ parsePromptPack rejoiningPack = .ok q ∧
      SameHashes p q ∧ ∀ d s, SameRun (exec (materializeAgentQueuePromptPack d joiningPack) s)
        (exec (materializeAgentQueuePromptPack d rejoiningPack) s) := by
  have hvalid : (parsePromptPack rejoiningPack).toOption.isSome = true := by decide +kernel
  obtain ⟨p, hp, -⟩ := joiningPack_parsed
  cases hq : parsePromptPack rejoiningPack with
  | error error =>
    rw [hq] at hvalid
    cases hvalid
  | ok q =>
    have hsame := same_payload_same_identity rejoiningPack_same hp hq
    exact ⟨p, q, hp, rfl, hsame.1, hsame.2.1⟩

/-- A pack with one task that has one tag. -/
def taggedPack (tag : String) : AgentQueuePromptPackPreviewRequest where
  workspaceId := "w"
  jsonPayload := .value (.obj [("version", .num "1"), ("packId", .str "p"),
    ("title", .str "t"), ("tasks", .arr [.obj [("id", .str "a"), ("title", .str "t"),
      ("prompt", .str "p"), ("tags", Json.ofStrings [tag])]])])

theorem taggedPack_parsed {tag : String} (h : tag ∈ ["É", "é"]) :
    ∃ p task, parsePromptPack (taggedPack tag) = .ok p ∧ p.tasks = [task] := by
  have hvalid : ∀ tag ∈ ["É", "é"],
      (parsePromptPack (taggedPack tag)).toOption.map (·.tasks.length) = some 1 := by
    decide +kernel
  have hone := hvalid tag h
  cases hparse : parsePromptPack (taggedPack tag) with
  | error error =>
    rw [hparse] at hone
    cases hone
  | ok p =>
    rw [hparse] at hone
    obtain ⟨task, htask⟩ := List.length_eq_one_iff.1 (Option.some.inj hone)
    exact ⟨p, task, rfl, htask⟩

/-- **The letter case of a tag matters** outside ASCII: two payloads that differ in the case
of one letter of a tag have different hashes. -/
theorem letter_case_outside_ascii_matters :
    ∃ p q, parsePromptPack (taggedPack "É") = .ok p ∧
      parsePromptPack (taggedPack "é") = .ok q ∧ ¬ SameHashes p q := by
  have hhashes : ((parsePromptPack (taggedPack "É")).toOption.map fun p =>
        p.tasks.map (·.taskSpecHash)) ≠
      ((parsePromptPack (taggedPack "é")).toOption.map fun p =>
        p.tasks.map (·.taskSpecHash)) := by
    decide +kernel
  obtain ⟨p, task, hp, htask⟩ := taggedPack_parsed (List.mem_cons_self (a := "É") (l := ["é"]))
  obtain ⟨q, other, hq, hother⟩ :=
    taggedPack_parsed (List.mem_cons_of_mem "É" (List.mem_singleton_self "é"))
  refine ⟨p, q, hp, hq, fun hsame => hhashes ?_⟩
  have hperm := hsame.taskSpecs
  rw [htask, hother, List.map_singleton, List.map_singleton, List.singleton_perm_singleton]
    at hperm
  rw [hp, hq]
  simp only [Except.toOption, Option.map_some, htask, hother, List.map_singleton,
    (Prod.mk.inj hperm).2]

end HobitQueue
