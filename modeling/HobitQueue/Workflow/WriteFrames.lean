import HobitQueue.Lib.Frame
import HobitQueue.Workflow.FinalizationApply

/-!
# What the writes of a workflow step leave alone

The steps of a workflow write actions, the workspace and their run. A part of the store that
does not depend on one of these tables is kept by every program that writes only that table.

## Main results

* `keeps_insertAction`, `keeps_updateAction`, `keeps_touch`, `keeps_updateRun` — the statements.
* `keeps_openReviewAction`, `keeps_openFinalizationAction`, … — the programs on actions.
-/

namespace HobitQueue

open Concurrent StoreProg Relational

variable {π : Type} {part : SqliteStore → π}

theorem keeps_rowOrNoRows {α : Type} (row : Option α) : (rowOrNoRows row).Keeps part := by
  cases row with
  | none => exact keeps_throw _
  | some row => exact keeps_pure row

theorem keeps_boundedJson (value : Json) (maxBytes : ℕ) (fieldName : String) :
    (WorkflowReview.boundedJson value maxBytes fieldName).Keeps part := by
  unfold WorkflowReview.boundedJson
  split
  · exact keeps_throw _
  · exact keeps_pure _

theorem keeps_touch
    (hworkspaces : ∀ s workspaces, part { s with workspaces := workspaces } = part s)
    (workspaceId now : String) :
    (execute fun s => s.touchWorkspace workspaceId now : Sqlite _).Keeps part := by
  refine keeps_execute fun s a t h => ?_
  obtain ⟨-, rfl⟩ := Prod.mk.inj (Except.ok.inj h)
  exact hworkspaces _ _

theorem keeps_updateRun (hruns : ∀ s runs, part { s with agentQueueWorkflowRuns := runs } = part s)
    (workspaceId workflowRunId : String)
    (f : AgentQueueWorkflowRunRow → AgentQueueWorkflowRunRow)
    (hf : ∀ r, Row.keys (f r) = Row.keys r) :
    (execute fun s => s.updateWorkflowRunRow workspaceId workflowRunId f hf : Sqlite _).Keeps
      part := by
  refine keeps_execute fun s a t h => ?_
  obtain ⟨rfl, -⟩ := SqliteStore.updateWorkflowRunRow_ok.1 h
  exact hruns _ _

/-! ## Actions -/

section Actions

variable (hactions : ∀ s actions, part { s with agentQueueWorkflowActions := actions } = part s)

include hactions

theorem keeps_insertAction (row : AgentQueueWorkflowActionRow) :
    (execute fun s => s.insertAgentQueueWorkflowAction row : Sqlite _).Keeps part := by
  refine keeps_execute fun s a t h => ?_
  obtain ⟨actions', rfl⟩ := SqliteStore.insertAgentQueueWorkflowAction_ok h
  exact hactions _ _

theorem keeps_updateAction (workspaceId workflowRunId idempotencyKey : String)
    (f : AgentQueueWorkflowActionRow → AgentQueueWorkflowActionRow)
    (hf : ∀ r, Row.keys (f r) = Row.keys r) :
    (execute fun s => s.updateWorkflowActionRow workspaceId workflowRunId idempotencyKey f hf :
      Sqlite _).Keeps part := by
  refine keeps_execute fun s a t h => ?_
  obtain rfl := SqliteStore.updateWorkflowActionRow_ok h
  exact hactions _ _

namespace WorkflowReview

theorem keeps_openReviewAction (request : NormalizedReviewStepRequest)
    (existingAction : Option AgentQueueWorkflowActionRow)
    (actionId stepId actionType idempotencyKey : String) (targetRefs : Json) (now : String) :
    (openReviewAction request existingAction actionId stepId actionType idempotencyKey targetRefs
      now).Keeps part := by
  cases existingAction with
  | none => exact keeps_insertAction hactions _
  | some action =>
    dsimp only [openReviewAction]
    split
    · exact keeps_pure _
    · exact (keeps_updateAction hactions _ _ _ _ _).bind fun _ => keeps_rowOrNoRows _

theorem keeps_completeReviewAction (request : NormalizedReviewStepRequest)
    (action : AgentQueueWorkflowActionRow) (idempotencyKey : String) (resultRefs : JsonText)
    (now : String) :
    (completeReviewAction request action idempotencyKey resultRefs now).Keeps part := by
  unfold completeReviewAction
  split
  · split
    · exact keeps_throw _
    · exact keeps_pure _
  · exact (keeps_updateAction hactions _ _ _ _ _).bind fun _ => keeps_rowOrNoRows _

theorem keeps_recordBlockedReviewAction (d : Draws) (request : NormalizedReviewStepRequest)
    (existingAction : Option AgentQueueWorkflowActionRow) (targetRefs : Json)
    (blocker : QueueWorkflowCommandBlocker) :
    (recordBlockedReviewAction d request existingAction targetRefs blocker).Keeps part := by
  cases existingAction with
  | none => exact keeps_insertAction hactions _
  | some action =>
    exact (keeps_updateAction hactions _ _ _ _ _).bind fun _ => keeps_rowOrNoRows _

end WorkflowReview

namespace WorkflowFinalization

theorem keeps_openFinalizationAction (d : Draws) (resolved : FinalizationStepResolution) :
    (openFinalizationAction d resolved).Keeps part := by
  unfold openFinalizationAction
  split
  · split
    · exact keeps_pure _
    · exact (keeps_updateAction hactions _ _ _ _ _).bind fun _ => keeps_rowOrNoRows _
  · exact keeps_insertAction hactions _

theorem keeps_completeFinalizationAction (request : NormalizedFinalizationStepRequest)
    (action : AgentQueueWorkflowActionRow) (idempotencyKey : String) (resultRefs : JsonText)
    (now : String) :
    (completeFinalizationAction request action idempotencyKey resultRefs now).Keeps part := by
  unfold completeFinalizationAction
  split
  · exact keeps_pure _
  · exact (keeps_updateAction hactions _ _ _ _ _).bind fun _ => keeps_rowOrNoRows _

theorem keeps_recordBlockedFinalizationAction (d : Draws)
    (request : NormalizedFinalizationStepRequest)
    (existingAction : Option AgentQueueWorkflowActionRow) (targetRefs : Json)
    (transition : QueueWorkflowFinalizationStepTransition)
    (blocker : QueueWorkflowCommandBlocker) :
    (recordBlockedFinalizationAction d request existingAction targetRefs transition
      blocker).Keeps part := by
  cases existingAction with
  | none => exact keeps_insertAction hactions _
  | some action =>
    exact (keeps_updateAction hactions _ _ _ _ _).bind fun _ => keeps_rowOrNoRows _

end WorkflowFinalization
end Actions
end HobitQueue
