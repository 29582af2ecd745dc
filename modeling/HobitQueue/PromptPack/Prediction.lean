import HobitQueue.PromptPack.Idempotence

/-!
# Does the preview predict the materialization?

The preview and the materialization compare a pack with the store in the same way. The
materialization looks for the workspace first, which the preview does not, and it needs ids
that are not taken to create a pack.

## Main results

* `preview_predicts_iff` — the one holds exactly when the other does.
-/

namespace HobitQueue

open Concurrent StoreProg Relational

/-! ## Prediction -/

/-- The outlook of a preview of a valid payload: its status and its flags. -/
def AgentQueuePromptPackPreviewResult.outlook (result : AgentQueuePromptPackPreviewResult) :
    Option PromptPackOutlook := result.preview.map (·.toPromptPackOutlook)

/-- The Queue ids of a preview: of each task, and of its dependencies. -/
def AgentQueuePromptPackPreview.queueIds (preview : AgentQueuePromptPackPreview) :
    List (String × Option String × List String) :=
  preview.tasks.map fun task => (task.id, task.queueTaskId, task.dependencyQueueTaskIds)

/-- The status of an answer. -/
def answerStatus (answer : Except WorkspaceServiceError AgentQueuePromptPackMaterializeResult) :
    Option PromptPackMaterializeStatus := answer.toOption.map (·.status)

/-- What a preview says is what a materialization answers. -/
structure Predicts (preview : AgentQueuePromptPackPreviewResult)
    (answer : Except WorkspaceServiceError AgentQueuePromptPackMaterializeResult) : Prop where
  invalid : preview.status = .invalid ↔ answerStatus answer = some .failed
  created : preview.outlook = some .notMaterialized ↔ answerStatus answer = some .created
  reused : preview.outlook = some .reusable ↔ answerStatus answer = some .reused
  conflict : preview.outlook = some .conflict ↔ answerStatus answer = some .conflict
  ids : ∀ pack result, preview.preview = some pack → answer = .ok result →
    pack.toPromptPackOutlook = .reusable → result.queueIds = pack.queueIds

/-- The payload is invalid, or the workspace it names is there and, when the pack is not
stored, the ids that are drawn for it are fresh. -/
def Predictable (d : Draws) (ps : PromptPackStore)
    (request : AgentQueuePromptPackPreviewRequest) : Prop :=
  ∀ preview, parsePromptPack request = .ok preview →
    ps.store.hasWorkspace preview.workspaceId = true ∧
    (ps.getMaterialization preview.workspaceId preview.pack.packId = none →
      FreshIds d preview ps.store)

/-- The status that an outlook announces. -/
def announced (outlook : PromptPackOutlook) : Option PromptPackMaterializeStatus :=
  if outlook = .notMaterialized then some .created
  else if outlook = .reusable then some .reused
  else if outlook = .conflict then some .conflict
  else none

/-- A preview of a valid payload predicts an answer of the status it announces. -/
theorem predicts_of_announced {preview : AgentQueuePromptPackPreviewResult}
    {answer : Except WorkspaceServiceError AgentQueuePromptPackMaterializeResult}
    {outlook : PromptPackOutlook} (hvalid : preview.status ≠ .invalid)
    (houtlook : preview.outlook = some outlook)
    (hevaluated : outlook = .notMaterialized ∨ outlook = .reusable ∨ outlook = .conflict)
    (hanswer : answerStatus answer = announced outlook)
    (hids : ∀ pack result, preview.preview = some pack → answer = .ok result →
      outlook = .reusable → result.queueIds = pack.queueIds) :
    Predicts preview answer := by
  have hreusable : ∀ pack, preview.preview = some pack → pack.toPromptPackOutlook = outlook := by
    intro pack hpack
    rw [AgentQueuePromptPackPreviewResult.outlook, hpack, Option.map_some] at houtlook
    exact Option.some.inj houtlook
  have hsame : ∀ pack result, preview.preview = some pack → answer = .ok result →
      pack.toPromptPackOutlook = .reusable → result.queueIds = pack.queueIds := by
    intro pack result hpack hresult hstatus
    exact hids pack result hpack hresult ((hreusable pack hpack).symm.trans hstatus)
  rcases hevaluated with rfl | rfl | rfl
  · have hcreated : announced .notMaterialized = some .created := by decide
    refine ⟨?_, ?_, ?_, ?_, hsame⟩ <;>
      simp [hvalid, houtlook, hanswer.trans hcreated, PromptPackOutlook.notMaterialized,
        PromptPackOutlook.reusable, PromptPackOutlook.conflict]
  · have hreused : announced .reusable = some .reused := by decide
    refine ⟨?_, ?_, ?_, ?_, hsame⟩ <;>
      simp [hvalid, houtlook, hanswer.trans hreused, PromptPackOutlook.notMaterialized,
        PromptPackOutlook.reusable, PromptPackOutlook.conflict]
  · have hconflict : announced .conflict = some .conflict := by decide
    refine ⟨?_, ?_, ?_, ?_, hsame⟩ <;>
      simp [hvalid, houtlook, hanswer.trans hconflict, PromptPackOutlook.notMaterialized,
        PromptPackOutlook.reusable, PromptPackOutlook.conflict]

section Prediction

variable {d : Draws} {ps : PromptPackStore} {request : AgentQueuePromptPackPreviewRequest}
  {preview : AgentQueuePromptPackPreview}

/-- The preview of a valid payload. -/
theorem preview_of_parsed (hparse : parsePromptPack request = .ok preview) :
    previewAgentQueuePromptPack ps request =
      ⟨.succeeded, some (evaluatePromptPackPreviewState ps preview), []⟩ := by
  rw [previewAgentQueuePromptPack, parseAndPreviewAgentQueuePromptPack, hparse]
  rfl

/-- The outlook of a pack is the state of its comparison. -/
theorem evaluated_outlook :
    (evaluatePromptPackPreviewState ps preview).toPromptPackOutlook =
      match materializationState ps preview with
      | .notMaterialized => .notMaterialized
      | .reusable _ => .reusable
      | .conflict _ => .conflict := by
  rw [evaluatePromptPackPreviewState]
  cases materializationState ps preview <;> rfl

/-- A pack without its workspace is not stored. -/
theorem not_stored_of_no_workspace
    (hws : ps.store.hasWorkspace preview.workspaceId = false) :
    materializationState ps preview = .notMaterialized := by
  have hnone : ps.getMaterialization preview.workspaceId preview.pack.packId = none := by
    cases hget : ps.getMaterialization preview.workspaceId preview.pack.packId with
    | none => rfl
    | some row =>
      obtain ⟨hmem, hrws, -⟩ := PromptPackStore.getMaterialization_eq_some.1 hget
      have hthere := ps.workspaces row hmem
      rw [hrws, hws] at hthere
      cases hthere
  rw [materializationState, hnone]

theorem state_notMaterialized_iff :
    materializationState ps preview = .notMaterialized ↔
      ps.getMaterialization preview.workspaceId preview.pack.packId = none := by
  rw [materializationState]
  cases ps.getMaterialization preview.workspaceId preview.pack.packId with
  | none => simp
  | some row =>
    simp only [reduceCtorEq, iff_false]
    split
    · simp
    · split
      · split <;> simp
      · simp

/-- The answer of a materialization of a valid payload in an existing workspace. -/
theorem answer_of_parsed (hparse : parsePromptPack request = .ok preview)
    (hws : ps.store.hasWorkspace preview.workspaceId = true) :
    (∀ validated, materializationState ps preview = .reusable validated →
      (exec (materializeAgentQueuePromptPack d request) ps).1 =
        .ok (materializeReusedResult preview validated)) ∧
    (∀ error, materializationState ps preview = .conflict error →
      (exec (materializeAgentQueuePromptPack d request) ps).1 =
        .ok (materializeConflictResult preview error)) ∧
    (materializationState ps preview = .notMaterialized →
      (answerStatus (exec (materializeAgentQueuePromptPack d request) ps).1 = some .created ↔
        FreshIds d preview ps.store)) := by
  have hp := parsePromptPack_wellFormed hparse
  have hrun : ∀ result, exec (materializePromptPackInTransaction d preview) ps =
      (.ok result, ps) →
      (exec (materializeAgentQueuePromptPack d request) ps).1 = .ok result := by
    intro result h
    rw [exec_materializeAgentQueuePromptPack, hparse]
    exact congrArg Prod.fst
      (StoreProg.exec_mapErr_ok.2 (StoreProg.exec_atomically_ok.2 h))
  refine ⟨?_, ?_, ?_⟩
  · intro validated hstate
    exact hrun _ (by rw [exec_materializePromptPack, if_pos hws, hstate])
  · intro error hstate
    exact hrun _ (by rw [exec_materializePromptPack, if_pos hws, hstate])
  · intro hstate
    have hnew := state_notMaterialized_iff.1 hstate
    have hfreshOf : ∀ result,
        (exec (materializeAgentQueuePromptPack d request) ps).1 = .ok result →
          FreshIds d preview ps.store := by
      intro result h
      have hexec : exec (materializeAgentQueuePromptPack d request) ps =
          (.ok result, (exec (materializeAgentQueuePromptPack d request) ps).2) :=
        Prod.ext h rfl
      rw [exec_materializeAgentQueuePromptPack, hparse] at hexec
      have htx := StoreProg.exec_atomically_ok.1 (StoreProg.exec_mapErr_ok.1 hexec)
      rw [exec_materializePromptPack, if_pos hws, hstate] at htx
      obtain ⟨hpack, -⟩ := createPromptPackTasks_ok hp htx
      exact freshIds_of_created hpack
    constructor
    · intro h
      obtain ⟨result, hresult, -⟩ := Option.map_eq_some_iff.1 h
      cases hanswer : (exec (materializeAgentQueuePromptPack d request) ps).1 with
      | error e =>
        rw [hanswer] at hresult
        cases hresult
      | ok other => exact hfreshOf other hanswer
    · intro hfresh
      obtain ⟨result, t, hexec, hstatus⟩ := @exists_created d request preview ps hparse hws
        hnew hfresh
      rw [hexec]
      exact congrArg some hstatus

end Prediction

/-- **The preview predicts the materialization exactly when** the payload is invalid, or
the workspace it names is there and, when the pack is not stored, the ids that are drawn for
it are fresh. -/
theorem preview_predicts_iff (d : Draws) (ps : PromptPackStore)
    (request : AgentQueuePromptPackPreviewRequest) :
    Predicts (previewAgentQueuePromptPack ps request)
      (exec (materializeAgentQueuePromptPack d request) ps).1 ↔ Predictable d ps request := by
  cases hparse : parsePromptPack request with
  | error error =>
    have hanswer : (exec (materializeAgentQueuePromptPack d request) ps).1 =
        .ok (materializeFailedResult [error]) := by
      rw [exec_materializeAgentQueuePromptPack, hparse]
    have hpreview : previewAgentQueuePromptPack ps request = invalidResult error := by
      rw [previewAgentQueuePromptPack, parseAndPreviewAgentQueuePromptPack, hparse]
      rfl
    rw [hanswer, hpreview]
    refine iff_of_true ⟨?_, ?_, ?_, ?_, ?_⟩ fun preview h => ?_
    · simp [invalidResult, answerStatus, materializeFailedResult, Except.toOption]
    · simp [AgentQueuePromptPackPreviewResult.outlook, invalidResult, answerStatus,
        materializeFailedResult, Except.toOption]
    · simp [AgentQueuePromptPackPreviewResult.outlook, invalidResult, answerStatus,
        materializeFailedResult, Except.toOption]
    · simp [AgentQueuePromptPackPreviewResult.outlook, invalidResult, answerStatus,
        materializeFailedResult, Except.toOption]
    · intro pack result hpack
      cases hpack
    · rw [hparse] at h
      cases h
  | ok preview =>
    have hpredictable : Predictable d ps request ↔
        ps.store.hasWorkspace preview.workspaceId = true ∧
        (ps.getMaterialization preview.workspaceId preview.pack.packId = none →
          FreshIds d preview ps.store) := by
      constructor
      · intro h
        exact h preview hparse
      · intro h other hother
        obtain rfl := Except.ok.inj (hparse.symm.trans hother)
        exact h
    have houtlook : (previewAgentQueuePromptPack ps request).outlook =
        some (evaluatePromptPackPreviewState ps preview).toPromptPackOutlook := by
      rw [preview_of_parsed hparse]
      rfl
    have hvalid : (previewAgentQueuePromptPack ps request).status ≠ .invalid := by
      rw [preview_of_parsed hparse]
      simp
    rw [hpredictable]
    cases hws : ps.store.hasWorkspace preview.workspaceId with
    | false =>
      have hstate := not_stored_of_no_workspace hws
      refine iff_of_false (fun h => ?_) (by simp)
      have hanswer : answerStatus (exec (materializeAgentQueuePromptPack d request) ps).1 =
          some .conflict := by
        rw [exec_materializeAgentQueuePromptPack, hparse]
        simp only [exec_mapErr, exec_atomically, exec_materializePromptPack, hws]
        rfl
      have hconflict := h.conflict.2 hanswer
      rw [houtlook, evaluated_outlook, hstate] at hconflict
      cases hconflict
    | true =>
      obtain ⟨hreusable, hconflicts, hcreated⟩ := @answer_of_parsed d ps request preview hparse hws
      cases hstate : materializationState ps preview with
      | notMaterialized =>
        have hnew := state_notMaterialized_iff.1 hstate
        have hfresh := hcreated hstate
        rw [evaluated_outlook, hstate] at houtlook
        constructor
        · intro h
          exact ⟨rfl, fun _ => hfresh.1 (h.created.1 houtlook)⟩
        · intro h
          refine predicts_of_announced hvalid houtlook (Or.inl rfl) ?_ ?_
          · rw [hfresh.2 (h.2 hnew)]
            decide
          · intro _ _ _ _ hreusable
            cases hreusable
      | reusable validated =>
        have hanswer := hreusable validated hstate
        rw [evaluated_outlook, hstate] at houtlook
        refine iff_of_true (predicts_of_announced hvalid houtlook (Or.inr (Or.inl rfl)) ?_ ?_)
          ⟨rfl, fun hnew => ?_⟩
        · rw [hanswer]
          rfl
        · intro pack result hpack hresult _
          rw [hanswer] at hresult
          obtain rfl := Except.ok.inj hresult
          rw [preview_of_parsed hparse] at hpack
          obtain rfl := Option.some.inj hpack
          simp only [AgentQueuePromptPackMaterializeResult.queueIds, materializeReusedResult,
            materializeSuccessResult, AgentQueuePromptPackPreview.queueIds,
            evaluatePromptPackPreviewState, hstate, List.map_map]
          rfl
        · rw [state_notMaterialized_iff.2 hnew] at hstate
          cases hstate
      | conflict error =>
        have hanswer := hconflicts error hstate
        rw [evaluated_outlook, hstate] at houtlook
        refine iff_of_true (predicts_of_announced hvalid houtlook (Or.inr (Or.inr rfl)) ?_ ?_)
          ⟨rfl, fun hnew => ?_⟩
        · rw [hanswer]
          rfl
        · intro _ _ _ _ hreusable
          cases hreusable
        · rw [state_notMaterialized_iff.2 hnew] at hstate
          cases hstate

/-- **A preview for a workspace that is not there** says that the pack would be created, and
the materialization answers a conflict. -/
theorem missing_workspace_not_predicted :
    let request : AgentQueuePromptPackPreviewRequest :=
      { joiningPack with workspaceId := "elsewhere" }
    (previewAgentQueuePromptPack withoutPacks request).outlook = some .notMaterialized ∧
      ∀ d : Draws, answerStatus (exec (materializeAgentQueuePromptPack d request)
        withoutPacks).1 = some .conflict := by
  have hparsed : (parsePromptPack { joiningPack with workspaceId := "elsewhere" }).toOption.map
      (·.workspaceId) = some "elsewhere" := by decide +kernel
  cases hparse : parsePromptPack { joiningPack with workspaceId := "elsewhere" } with
  | error error =>
    rw [hparse] at hparsed
    cases hparsed
  | ok preview =>
    rw [hparse] at hparsed
    have hname : preview.workspaceId = "elsewhere" := Option.some.inj hparsed
    have hws : withoutPacks.store.hasWorkspace preview.workspaceId = false := by
      rw [hname]
      decide
    refine ⟨?_, fun d => ?_⟩
    · simp only [preview_of_parsed hparse, AgentQueuePromptPackPreviewResult.outlook,
        Option.map_some, evaluated_outlook, not_stored_of_no_workspace hws]
    · rw [exec_materializeAgentQueuePromptPack, hparse]
      simp only [exec_mapErr, exec_atomically, exec_materializePromptPack, hws]
      rfl

end HobitQueue
