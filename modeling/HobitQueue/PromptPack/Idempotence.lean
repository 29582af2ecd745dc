import HobitQueue.Lib.Run
import HobitQueue.PromptPack.Possible
import HobitQueue.Queue.History

/-!
# Materializing a pack again

Between the materialization of a pack and the next one the database lives on: other packs
are materialized and other commands change the Queue. As long as the Queue tasks of the
pack are not edited the pack stays stored, and the next materialization compares it with
the same preview.

## Main results

* `materialization_idempotent_iff` — the pack is reused ever after exactly when its
  dependencies are in the same order by their pack ids and by the ids drawn for them.
-/

namespace HobitQueue

open Concurrent StoreProg Relational

/-- The commands of prompt packs; the last one stands for every other command, whose
effect on the packs is the cascade. -/
inductive PackOp where
  | preview (request : AgentQueuePromptPackPreviewRequest)
  | materialize (d : Draws) (request : AgentQueuePromptPackMaterializeRequest)
  | command (change : SqliteStore → SqliteStore)

/-- What a command of prompt packs, or any other change, does to the store. -/
def performPack (ps : PromptPackStore) : PackOp → PromptPackStore
  | .preview _ => ps
  | .materialize d request => (exec (materializeAgentQueuePromptPack d request) ps).2
  | .command change => ps.withStore (change ps.store)

/-- The columns of a Queue task that say what it is; its status and its context may
change. -/
structure UneditedTask (a b : AgentQueueTaskRow) : Prop where
  title : b.title = a.title
  prompt : b.prompt = a.prompt
  priority : b.priority = a.priority
  dependsOn : b.dependsOn = a.dependsOn
  executionPolicy : b.executionPolicy = a.executionPolicy
  executionWorkspace : b.executionWorkspace = a.executionWorkspace
  codexExecutable : b.codexExecutable = a.codexExecutable
  sandbox : b.sandbox = a.sandbox
  approvalPolicy : b.approvalPolicy = a.approvalPolicy

/-- A step that neither edits nor deletes the Queue tasks with the given ids. -/
def Unedited (workspaceId : String) (queueTaskIds : List String) (ps : PromptPackStore) :
    PackOp → Prop
  | .command change =>
      (change ps.store).hasWorkspace workspaceId = true ∧
      ∀ id ∈ queueTaskIds, ∀ row, ps.store.getAgentQueueTask workspaceId id = some row →
        ∃ row', (change ps.store).getAgentQueueTask workspaceId id = some row' ∧
          UneditedTask row row'
  | _ => True

/-- The Queue ids of a result: of each task, and of its dependencies. -/
def AgentQueuePromptPackMaterializeResult.queueIds
    (result : AgentQueuePromptPackMaterializeResult) :
    List (String × Option String × List String) :=
  result.tasks.map fun task => (task.packTaskId, task.queueTaskId, task.dependencyQueueTaskIds)

/-- The Queue tasks of a result. -/
def AgentQueuePromptPackMaterializeResult.queueTaskIds
    (result : AgentQueuePromptPackMaterializeResult) : List String :=
  result.tasks.filterMap (·.queueTaskId)

/-! ## A stored pack stays stored -/

section Stays

variable {preview : AgentQueuePromptPackPreview} {queueTaskId : String → String}
  {s t : PromptPackStore}

theorem StoredPack.of_keeps (h : StoredPack preview queueTaskId s) (hkeeps : s.Keeps t) :
    StoredPack preview queueTaskId t := by
  obtain ⟨record, hrecord, hhash⟩ := h.record
  have hmappings := hkeeps.mappings _ _ _ hrecord
  refine ⟨hkeeps.workspace _ h.workspace, ⟨record, hkeeps.record _ _ _ hrecord, hhash⟩,
    by rw [hmappings, h.count], ?_, ?_, ?_⟩
  · rw [hmappings]
    exact h.mapping
  · rw [hmappings]
    exact h.only
  · intro task htask
    obtain ⟨row, hrow, hmatch⟩ := h.task task htask
    exact ⟨row, hkeeps.tasks _ _ _ hrow, hmatch⟩

/-- A change that does not edit the tasks of a pack leaves it stored. -/
theorem StoredPack.of_change (h : StoredPack preview queueTaskId s)
    {change : SqliteStore → SqliteStore}
    (hunedited : Unedited preview.workspaceId
      (preview.tasks.map fun task => queueTaskId task.id) s (.command change)) :
    StoredPack preview queueTaskId (s.withStore (change s.store)) := by
  obtain ⟨hws, htasks⟩ := hunedited
  have htask : ∀ task ∈ preview.tasks, ∃ row,
      (change s.store).getAgentQueueTask preview.workspaceId (queueTaskId task.id) = some row ∧
        validateDurableTaskMatchesPreview preview task row = true ∧
        row.dependsOn = dependenciesJson (task.dependsOn.map queueTaskId) := by
    intro task hmem
    obtain ⟨row, hrow, hmatch, hdeps⟩ := h.task task hmem
    obtain ⟨row', hrow', hsame⟩ := htasks _ (List.mem_map_of_mem hmem) row hrow
    refine ⟨row', hrow', ?_, hsame.dependsOn.trans hdeps⟩
    rw [← hmatch]
    simp only [validateDurableTaskMatchesPreview, hsame.title, hsame.prompt, hsame.priority,
      hsame.executionPolicy, hsame.executionWorkspace, hsame.codexExecutable, hsame.sandbox,
      hsame.approvalPolicy]
  obtain ⟨record, hrecord, hhash⟩ := h.record
  have hrecord' : (s.withStore (change s.store)).getMaterialization preview.workspaceId
      preview.pack.packId = some record := by
    obtain ⟨hmem, hrws, hrpack⟩ := PromptPackStore.getMaterialization_eq_some.1 hrecord
    refine PromptPackStore.getMaterialization_eq_some.2 ⟨Table.mem_delete.2 ⟨hmem, ?_⟩,
      hrws, hrpack⟩
    rw [hrws, hws, Bool.not_true]
  have hmappings : (s.withStore (change s.store)).listTaskMappings preview.workspaceId
      preview.pack.packId = s.listTaskMappings preview.workspaceId preview.pack.packId := by
    simp only [PromptPackStore.listTaskMappings, PromptPackStore.withStore, Table.delete,
      List.filter_filter]
    refine congrArg _ (List.filter_congr ?_)
    intro m hm
    by_cases hours : (m.workspaceId == preview.workspaceId &&
        m.packId == preview.pack.packId) = true
    · have hkey : m.workspaceId = preview.workspaceId ∧ m.packId = preview.pack.packId := by
        simpa using hours
      obtain ⟨task, hmem, hid⟩ :=
        h.only m (PromptPackStore.mem_listTaskMappings.2 ⟨hm, hkey⟩)
      obtain ⟨row, hrow, -⟩ := htask task hmem
      obtain ⟨hrmem, -, hrid⟩ := getAgentQueueTask_eq_some.1 hrow
      have hthere : (change s.store).hasTask m.queueTaskId = true :=
        Option.isSome_iff_exists.2
          ⟨row, getAgentQueueTaskById_eq_some.2 ⟨hrmem, hrid.trans hid.symm⟩⟩
      rw [hours, hkey.1, hws, hthere]
      rfl
    · rw [Bool.not_eq_true] at hours
      rw [hours, Bool.false_and]
  refine ⟨hws, ⟨record, hrecord', hhash⟩, by rw [hmappings, h.count], ?_, ?_, htask⟩
  · rw [hmappings]
    exact h.mapping
  · rw [hmappings]
    exact h.only

/-- **A stored pack stays stored** through every history that does not edit its tasks. -/
theorem StoredPack.after (h : StoredPack preview queueTaskId s) {history : List PackOp}
    (hunedited : Machine.Along performPack (Unedited preview.workspaceId
      (preview.tasks.map fun task => queueTaskId task.id)) s history) :
    StoredPack preview queueTaskId (Machine.after performPack s history) := by
  refine Machine.invariant_after ?_ h hunedited
  intro ps op hstored hop
  cases op with
  | preview request => exact hstored
  | materialize d request =>
    exact hstored.of_keeps (materializeAgentQueuePromptPack_keeps Prod.mk.eta.symm)
  | command change => exact hstored.of_change hop

end Stays

/-! ## The answers -/

section Answers

variable {d : Draws} {request : AgentQueuePromptPackMaterializeRequest}
  {preview : AgentQueuePromptPackPreview} {s t : PromptPackStore}

/-- The Queue ids of a success, given by a map of the tasks. -/
theorem queueIds_success {status : PromptPackMaterializeStatus} {created reused : ℕ}
    {mutates : Bool} {queueTaskId : String → String} (hp : preview.WellFormed)
    {tasks : List AgentQueuePromptPackTaskPreview} (hperm : tasks.Perm preview.tasks) :
    (materializeSuccessResult preview status created reused mutates
      ⟨tasks.map fun task => (task.id, queueTaskId task.id),
        tasks.map fun task => (task.id, task.dependsOn.map queueTaskId)⟩).queueIds =
      preview.tasks.map fun task =>
        (task.id, some (queueTaskId task.id), task.dependsOn.map queueTaskId) := by
  have hids : (tasks.map (·.id)).Nodup := (hperm.map (·.id)).nodup_iff.2 hp.ids
  simp only [AgentQueuePromptPackMaterializeResult.queueIds, materializeSuccessResult,
    List.map_map]
  refine List.map_congr_left fun task htask => ?_
  have hmem := hperm.mem_iff.2 htask
  simp only [Function.comp_apply]
  rw [Checks.lookup_map hids (fun task => queueTaskId task.id) hmem,
    Checks.lookup_map hids (fun task => task.dependsOn.map queueTaskId) hmem]
  rfl

/-- What a materialization that created the pack did. -/
theorem created_ok {result : AgentQueuePromptPackMaterializeResult}
    (h : exec (materializeAgentQueuePromptPack d request) s = (.ok result, t))
    (hcreated : result.status = .created) :
    ∃ preview, parsePromptPack request = .ok preview ∧ CreatedPack d preview s t ∧
      result.queueIds = preview.tasks.map fun task =>
        (task.id, some (drawnQueueTaskId d preview task.id),
          task.dependsOn.map (drawnQueueTaskId d preview)) := by
  rw [exec_materializeAgentQueuePromptPack] at h
  cases hparse : parsePromptPack request with
  | error error =>
    rw [hparse] at h
    obtain ⟨hresult, -⟩ := Prod.mk.inj h
    obtain rfl := Except.ok.inj hresult
    cases hcreated
  | ok preview =>
    rw [hparse] at h
    have htx := StoreProg.exec_atomically_ok.1 (StoreProg.exec_mapErr_ok.1 h)
    rw [exec_materializePromptPack] at htx
    have hp := parsePromptPack_wellFormed hparse
    split at htx
    · split at htx
      · obtain ⟨hresult, -⟩ := Prod.mk.inj htx
        obtain rfl := Except.ok.inj hresult
        cases hcreated
      · obtain ⟨hresult, -⟩ := Prod.mk.inj htx
        obtain rfl := Except.ok.inj hresult
        cases hcreated
      · obtain ⟨hpack, rfl⟩ := createPromptPackTasks_ok hp htx
        exact ⟨preview, rfl, hpack, queueIds_success hp (sortedPackTasks_perm preview.tasks)⟩
    · obtain ⟨hresult, -⟩ := Prod.mk.inj htx
      obtain rfl := Except.ok.inj hresult
      cases hcreated

/-- The Queue tasks of a materialization that created the pack. -/
theorem created_queueTaskIds {result : AgentQueuePromptPackMaterializeResult}
    {queueTaskId : String → String}
    (hids : result.queueIds = preview.tasks.map fun task =>
      (task.id, some (queueTaskId task.id), task.dependsOn.map queueTaskId)) :
    result.queueTaskIds = preview.tasks.map fun task => queueTaskId task.id := by
  have hmap := congrArg (List.filterMap fun e => e.2.1) hids
  simpa [AgentQueuePromptPackMaterializeResult.queueIds, List.filterMap_map,
    Function.comp_def, AgentQueuePromptPackMaterializeResult.queueTaskIds] using hmap

/-- The next materialization of a stored pack whose ids sort alike reuses it. -/
theorem StoredPack.reused {queueTaskId : String → String}
    (hparse : parsePromptPack request = .ok preview) (h : StoredPack preview queueTaskId s)
    (hsorted : SortsAlike queueTaskId preview) :
    exec (materializeAgentQueuePromptPack d request) s =
      (.ok (materializeReusedResult preview (storedIds preview queueTaskId)), s) := by
  have hstate := (h.state (parsePromptPack_wellFormed hparse)).1 hsorted
  rw [exec_materializeAgentQueuePromptPack, hparse]
  refine StoreProg.exec_mapErr_ok.2 (StoreProg.exec_atomically_ok.2 ?_)
  rw [exec_materializePromptPack, if_pos h.workspace, hstate]

/-- The next materialization of a stored pack whose ids do not sort alike is a conflict. -/
theorem StoredPack.conflicts {queueTaskId : String → String}
    (hparse : parsePromptPack request = .ok preview) (h : StoredPack preview queueTaskId s)
    (hunsorted : ¬ SortsAlike queueTaskId preview) :
    ∃ error, exec (materializeAgentQueuePromptPack d request) s =
      (.ok (materializeConflictResult preview error), s) := by
  obtain ⟨error, hstate⟩ := (h.state (parsePromptPack_wellFormed hparse)).2 hunsorted
  refine ⟨error, ?_⟩
  rw [exec_materializeAgentQueuePromptPack, hparse]
  refine StoreProg.exec_mapErr_ok.2 (StoreProg.exec_atomically_ok.2 ?_)
  rw [exec_materializePromptPack, if_pos h.workspace, hstate]

/-- A valid pack that is not stored is created in its workspace, with fresh ids. -/
theorem exists_created (hparse : parsePromptPack request = .ok preview)
    (hws : s.store.hasWorkspace preview.workspaceId = true)
    (hnew : s.getMaterialization preview.workspaceId preview.pack.packId = none)
    (hfresh : FreshIds d preview s.store) :
    ∃ result t, exec (materializeAgentQueuePromptPack d request) s = (.ok result, t) ∧
      result.status = .created := by
  have hp := parsePromptPack_wellFormed hparse
  obtain ⟨result, t, hrun⟩ := exists_createPromptPackTasks hp hws hnew hfresh
  refine ⟨result, t, ?_, ?_⟩
  · rw [exec_materializeAgentQueuePromptPack, hparse]
    refine StoreProg.exec_mapErr_ok.2 (StoreProg.exec_atomically_ok.2 ?_)
    rw [exec_materializePromptPack, if_pos hws, materializationState, hnew]
    exact hrun
  · obtain ⟨-, rfl⟩ := createPromptPackTasks_ok hp hrun
    rfl

end Answers

/-! ## Idempotence -/

/-- A run answers that the pack is reused, with the Queue ids of an earlier result, and
changes nothing. -/
def ReusedAs (result : AgentQueuePromptPackMaterializeResult)
    (run : Except WorkspaceServiceError AgentQueuePromptPackMaterializeResult × PromptPackStore)
    (ps : PromptPackStore) : Prop :=
  ∃ again, run = (.ok again, ps) ∧ again.status = .reused ∧ again.queueIds = result.queueIds

/-- **A materialization that created a pack is idempotent exactly when the ids it drew
sort like the ids of the pack**: the dependencies of every task, in the order of their pack
ids, are in the order of their Queue ids. Then every later call with the payload reuses
the pack with the same ids and changes nothing, through every history that does not edit
the tasks that were created. -/
theorem materialization_idempotent_iff {d : Draws}
    {request : AgentQueuePromptPackMaterializeRequest} {s t : PromptPackStore}
    {result : AgentQueuePromptPackMaterializeResult}
    (h : exec (materializeAgentQueuePromptPack d request) s = (.ok result, t))
    (hcreated : result.status = .created) :
    (∀ history : List PackOp,
      Machine.Along performPack (Unedited (Text.trim request.workspaceId) result.queueTaskIds)
        t history →
      ∀ later : Draws,
        ReusedAs result
          (exec (materializeAgentQueuePromptPack later request)
            (Machine.after performPack t history))
          (Machine.after performPack t history)) ↔
    ∀ preview, parsePromptPack request = .ok preview →
      SortsAlike (drawnQueueTaskId d preview) preview := by
  obtain ⟨preview, hparse, hpack, hids⟩ := created_ok h hcreated
  have hp := parsePromptPack_wellFormed hparse
  have hstored := hpack.stored hp
  constructor
  · intro hall other hother
    obtain rfl := Except.ok.inj (hparse.symm.trans hother)
    by_contra hunsorted
    obtain ⟨again, hagain, hreused, -⟩ := hall [] trivial d
    obtain ⟨error, hconflict⟩ := @StoredPack.conflicts d request _ t _ hparse hstored hunsorted
    rw [Machine.after_nil, hconflict] at hagain
    obtain ⟨hresult, -⟩ := Prod.mk.inj hagain
    obtain rfl := Except.ok.inj hresult
    cases hreused
  · intro hsorted history hunedited later
    rw [← parsePromptPack_workspaceId hparse, created_queueTaskIds hids] at hunedited
    have hafter := hstored.after hunedited
    refine ⟨_, hafter.reused hparse (hsorted preview hparse), rfl, ?_⟩
    rw [hids]
    exact queueIds_success hp (List.Perm.refl _)

/-! ## Ids drawn at one instant -/

/-- A task of a pack with its dependencies. -/
def packTaskJson (id : String) (dependsOn : List String) : Json :=
  .obj [("id", .str id), ("title", .str "title"), ("prompt", .str "prompt"),
    ("dependsOn", Json.ofStrings dependsOn)]

/-- A pack of three tasks, the last of which depends on the other two. -/
def joiningPack : AgentQueuePromptPackMaterializeRequest where
  workspaceId := "w"
  jsonPayload := .value (.obj [("version", .num "1"), ("packId", .str "joining"),
    ("title", .str "title"), ("tasks", .arr [packTaskJson "first" [],
      packTaskJson "second" [], packTaskJson "third" ["second", "first"]])])

/-- A database with one workspace and no pack. -/
def withoutPacks : PromptPackStore where
  store := oneWorkspace "w"
  materializations := Table.empty
  taskMappings := Table.empty
  workspaces := by simp
  mapped := by simp

/-- Draws within one tick of the clock, from a reading of the counter on. -/
def withinTick (counter : ℕ) : Draws := ⟨fun _ => 1000000000, fun i => i + counter⟩

theorem joiningPack_parsed :
    ∃ preview, parsePromptPack joiningPack = .ok preview ∧ preview.workspaceId = "w" := by
  have hparsed : (parsePromptPack joiningPack).toOption.map (·.workspaceId) = some "w" := by
    decide +kernel
  cases hparse : parsePromptPack joiningPack with
  | error error =>
    rw [hparse] at hparsed
    cases hparsed
  | ok preview =>
    rw [hparse] at hparsed
    exact ⟨preview, rfl, Option.some.inj hparsed⟩

theorem joiningPack_created (counter : ℕ) :
    ∃ result t, exec (materializeAgentQueuePromptPack (withinTick counter) joiningPack)
      withoutPacks = (.ok result, t) ∧ result.status = .created := by
  obtain ⟨preview, hparse, hws⟩ := joiningPack_parsed
  refine exists_created hparse ?_ rfl ⟨drawnQueueTaskId_nodup (parsePromptPack_wellFormed hparse)
    fun i j h => ?_, fun row hrow => absurd hrow (Table.not_mem_empty row)⟩
  · rw [hws]
    decide
  · have hsum : i + counter = j + counter := h
    omega

/-- Ids drawn with counters of one digit sort alike, and the pack is reused. -/
theorem materialization_idempotent_iff_joiningPack :
    ∃ result t, exec (materializeAgentQueuePromptPack (withinTick 0) joiningPack)
      withoutPacks = (.ok result, t) ∧
      ∀ later : Draws, ReusedAs result
        (exec (materializeAgentQueuePromptPack later joiningPack) t) t := by
  obtain ⟨result, t, h, hcreated⟩ := joiningPack_created 0
  refine ⟨result, t, h, fun later => ?_⟩
  have hsorted : ∀ preview, parsePromptPack joiningPack = .ok preview →
      SortsAlike (drawnQueueTaskId (withinTick 0) preview) preview := by decide +kernel
  exact (materialization_idempotent_iff h hcreated).2 hsorted [] trivial later

/-- **Within one tick the counter goes from 9 to 10**, the ids sort the other way round, and
the pack that was just created is a conflict. -/
theorem second_materialization_conflicts :
    Function.Injective (packQueueTaskId (withinTick 8)) ∧
    ∃ result t, exec (materializeAgentQueuePromptPack (withinTick 8) joiningPack)
      withoutPacks = (.ok result, t) ∧ result.status = .created ∧
      ∀ later : Draws, ∃ error preview,
        exec (materializeAgentQueuePromptPack later joiningPack) t =
          (.ok (materializeConflictResult preview error), t) := by
  constructor
  · intro i j h
    have hsuffix : i + 1 + 8 = j + 1 + 8 := (placeholderId_inj h).2
    omega
  · obtain ⟨result, t, h, hcreated⟩ := joiningPack_created 8
    refine ⟨result, t, h, hcreated, fun later => ?_⟩
    obtain ⟨preview, hparse, hpack, -⟩ := created_ok h hcreated
    have hunsorted : ∀ preview, parsePromptPack joiningPack = .ok preview →
        ¬ SortsAlike (drawnQueueTaskId (withinTick 8) preview) preview := by decide +kernel
    have hstored := hpack.stored (parsePromptPack_wellFormed hparse)
    obtain ⟨error, hconflict⟩ := hstored.conflicts hparse (hunsorted preview hparse)
    exact ⟨error, preview, hconflict⟩

end HobitQueue
