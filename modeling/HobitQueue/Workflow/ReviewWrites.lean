import HobitQueue.Workflow.ReviewChecks
import HobitQueue.Workflow.RunEffects

/-!
# What a review writes

A review writes the two actions that record it, its message and the run. Each write is
described by what is found afterwards under the keys it uses, with the rest of the store as
it was.

## Main results

* `openReviewAction_ok`, `completeReviewAction_ok` — the actions.
* `createdMessage_ok`, `acknowledgedMessage_ok` — the message.
* `storeReviewedRun_ok` — the run.
-/

namespace HobitQueue.WorkflowReview

open Concurrent StoreProg Relational

/-! ## Actions -/

/-- An action of a run is found under a key, and no other action of the run changed. -/
structure ActionWritten (s t : SqliteStore) (workflowRunId key : String)
    (action : AgentQueueWorkflowActionRow) : Prop where
  frame : ∃ actions, t = { s with agentQueueWorkflowActions := actions }
  found : t.getAgentQueueWorkflowActionByIdempotencyKey workflowRunId key = some action
  others : ∀ other, other ≠ key →
    t.getAgentQueueWorkflowActionByIdempotencyKey workflowRunId other =
      s.getAgentQueueWorkflowActionByIdempotencyKey workflowRunId other

section Actions

variable {s t u : SqliteStore} {workspaceId workflowRunId key : String}
  {action action' : AgentQueueWorkflowActionRow}

theorem ActionWritten.of_found
    (h : s.getAgentQueueWorkflowActionByIdempotencyKey workflowRunId key = some action) :
    ActionWritten s s workflowRunId key action :=
  ⟨⟨s.agentQueueWorkflowActions, rfl⟩, h, fun _ _ => rfl⟩

/-- The row with a key of a run, once it is found. -/
theorem key_of_found
    (h : s.getAgentQueueWorkflowActionByIdempotencyKey workflowRunId key = some action) :
    action.workflowRunId = workflowRunId ∧ action.idempotencyKey = key := by
  have hsat := Table.sat_of_find h
  simpa using hsat

theorem updateWorkflowActionRow_some {f : AgentQueueWorkflowActionRow → AgentQueueWorkflowActionRow}
    {hf : ∀ r, Row.keys (f r) = Row.keys r}
    (h : s.updateWorkflowActionRow workspaceId workflowRunId key f hf = .ok (some action', t)) :
    ∃ action, s.getAgentQueueWorkflowActionByIdempotencyKey workflowRunId key = some action ∧
      action' = f action ∧ ActionWritten s t workflowRunId key action' := by
  have hkeys : ∀ r, (f r).workflowRunId = r.workflowRunId ∧
      (f r).idempotencyKey = r.idempotencyKey := by
    intro r
    have hr := hf r
    simp only [Row.keys, List.cons.injEq, Prod.mk.injEq, true_and, and_true] at hr
    exact hr.2
  rw [SqliteStore.updateWorkflowActionRow] at h
  split at h
  · rename_i hnamed
    obtain ⟨hrow, rfl⟩ := Prod.mk.inj (Except.ok.inj h)
    let actions :=
      s.agentQueueWorkflowActions.update (namedAction workspaceId workflowRunId key) f hf
    have hread : ∀ other, ({ s with agentQueueWorkflowActions := actions } :
          SqliteStore).getAgentQueueWorkflowActionByIdempotencyKey workflowRunId other =
        (s.getAgentQueueWorkflowActionByIdempotencyKey workflowRunId other).map fun a =>
          if namedAction workspaceId workflowRunId key a then f a else a := by
      intro other
      refine @Table.find_update _ _ _ _ _ _ hf fun a => ?_
      rw [(hkeys a).1, (hkeys a).2]
    obtain ⟨named, hfind⟩ := Option.isSome_iff_exists.1 hnamed
    have hsat := Table.sat_of_find hfind
    have hfound : s.getAgentQueueWorkflowActionByIdempotencyKey workflowRunId key = some named := by
      simp only [namedAction, Bool.and_eq_true, beq_iff_eq] at hsat
      refine (Table.find_eq_some ?_).2 ⟨Table.mem_of_find hfind, by simp [hsat]⟩
      intro a b ha hb
      simp only [Bool.and_eq_true, beq_iff_eq] at ha hb
      exact ⟨("workflow_run_id, idempotency_key", [workflowRunId, key]), by simp [Row.keys, ha],
        by simp [Row.keys, hb]⟩
    have hwritten := (hread key).symm.trans hrow
    rw [hfound, Option.map_some, if_pos hsat, Option.some.injEq] at hwritten
    refine ⟨named, hfound, hwritten.symm, ⟨_, rfl⟩, hrow, fun other hother => ?_⟩
    rw [hread other]
    cases hget : s.getAgentQueueWorkflowActionByIdempotencyKey workflowRunId other with
    | none => rfl
    | some a =>
      have hne : namedAction workspaceId workflowRunId key a = false := by
        simp only [namedAction, (key_of_found hget).2, Bool.and_eq_false_iff, beq_eq_false_iff_ne]
        exact Or.inr hother
      rw [Option.map_some, if_neg (by simp [hne])]
  · cases (Prod.mk.inj (Except.ok.inj h)).1

/-- An action recorded is the one under its key, which matches it, or a new row. -/
theorem insertAgentQueueWorkflowAction_written {row : AgentQueueWorkflowActionRow}
    (h : s.insertAgentQueueWorkflowAction row = .ok (action, t)) :
    ActionWritten s t row.workflowRunId row.idempotencyKey action ∧
      ((s.getAgentQueueWorkflowActionByIdempotencyKey row.workflowRunId row.idempotencyKey =
          some action ∧ action.targetRefsJson = row.targetRefsJson) ∨ action = row) := by
  rw [SqliteStore.insertAgentQueueWorkflowAction] at h
  split at h
  · cases h
  split at h
  · cases h
  split at h
  · rename_i existing hexisting
    split at h
    · rename_i hmatch
      obtain ⟨rfl, rfl⟩ := Prod.mk.inj (Except.ok.inj h)
      simp only [SqliteStore.workflowActionMatchesInput, Bool.and_eq_true, beq_iff_eq] at hmatch
      exact ⟨.of_found hexisting, Or.inl ⟨hexisting, hmatch.1.2⟩⟩
    · cases h
  · rename_i hnew
    obtain ⟨-, rfl, actions, hinsert, rfl⟩ := SqliteStore.inserted_ok.1 h
    refine ⟨⟨⟨actions, rfl⟩, ?_, fun other hother => ?_⟩, Or.inr rfl⟩
    · refine (Table.find_insert hinsert).trans ?_
      rw [show s.agentQueueWorkflowActions.find _ = none from hnew]
      simp
    · refine (Table.find_insert hinsert).trans ?_
      rw [if_neg (by simp [Ne.symm hother]), Option.or_none]
      rfl

theorem rowOrNoRows_ok {α : Type} {row : Option α} {a : α} :
    exec (rowOrNoRows row) s = (.ok a, t) ↔ row = some a ∧ t = s := by
  cases row with
  | none => simp [rowOrNoRows]
  | some b =>
    simp only [rowOrNoRows, exec_pure, Prod.mk.injEq, Except.ok.injEq, Option.some.injEq, eq_comm]

variable {request : NormalizedReviewStepRequest}

/-- **An action opened** is there under its key with its refs; it is completed only if it was
before. -/
theorem openReviewAction_ok {existing : Option AgentQueueWorkflowActionRow}
    {actionId stepId actionType now : String} {targetRefs : Json}
    (hexisting : ∀ a ∈ existing, a.targetRefsJson = some (.value targetRefs) ∧
      s.getAgentQueueWorkflowActionByIdempotencyKey request.workflowRunId key = some a)
    (h : exec (openReviewAction request existing actionId stepId actionType key targetRefs now) s =
      (.ok action, t)) :
    ActionWritten s t request.workflowRunId key action ∧
      action.targetRefsJson = some (.value targetRefs) ∧
      (action.status = QueueWorkflowActionStatus.completed.asStr →
        s.getAgentQueueWorkflowActionByIdempotencyKey request.workflowRunId key = some action) := by
  cases existing with
  | none =>
    rw [openReviewAction] at h
    obtain ⟨hwritten, hrow⟩ := insertAgentQueueWorkflowAction_written (exec_execute_ok.1 h)
    refine ⟨hwritten, ?_⟩
    rcases hrow with ⟨hfound, htarget⟩ | rfl
    · exact ⟨htarget, fun _ => hfound⟩
    · exact ⟨rfl, fun hcompleted => absurd hcompleted (by simp [openedActionRow,
        QueueWorkflowActionStatus.asStr])⟩
  | some a =>
    obtain ⟨htarget, hfound⟩ := hexisting a rfl
    rw [openReviewAction] at h
    split at h
    · obtain ⟨rfl, rfl⟩ : a = action ∧ s = t := by
        simpa only [exec_pure, Prod.mk.injEq, Except.ok.injEq] using h
      exact ⟨.of_found hfound, htarget, fun _ => hfound⟩
    · obtain ⟨row, u, hupdate, hrow⟩ := exec_bind_ok.1 h
      obtain ⟨rfl, rfl⟩ := rowOrNoRows_ok.1 hrow
      obtain ⟨b, -, rfl, hwritten⟩ := updateWorkflowActionRow_some (exec_execute_ok.1 hupdate)
      exact ⟨hwritten, rfl, fun hcompleted => absurd hcompleted (by
        simp [AgentQueueWorkflowActionUpdate.replace, reopenActionUpdate,
          QueueWorkflowActionStatus.asStr])⟩

/-- **An action completed** has the result refs, and the target refs it had. -/
theorem completeReviewAction_ok {resultRefs : JsonText} {now : String}
    (hfound : s.getAgentQueueWorkflowActionByIdempotencyKey request.workflowRunId key = some action)
    (h : exec (completeReviewAction request action key resultRefs now) s = (.ok action', t)) :
    ActionWritten s t request.workflowRunId key action' ∧
      action'.status = QueueWorkflowActionStatus.completed.asStr ∧
      action'.resultRefsJson = some resultRefs ∧
      action'.targetRefsJson = action.targetRefsJson := by
  rw [completeReviewAction] at h
  split at h
  · rename_i hcompleted
    split at h
    · cases (Prod.mk.inj h).1
    · rename_i hrefs
      obtain ⟨rfl, rfl⟩ : action = action' ∧ s = t := by
        simpa only [exec_pure, Prod.mk.injEq, Except.ok.injEq] using h
      exact ⟨.of_found hfound, hcompleted, not_not.1 hrefs, rfl⟩
  · obtain ⟨row, u, hupdate, hrow⟩ := exec_bind_ok.1 h
    obtain ⟨rfl, rfl⟩ := rowOrNoRows_ok.1 hrow
    obtain ⟨a, ha, rfl, hwritten⟩ := updateWorkflowActionRow_some (exec_execute_ok.1 hupdate)
    obtain rfl := Option.some.inj (hfound.symm.trans ha)
    exact ⟨hwritten, rfl, rfl, rfl⟩

end Actions

/-! ## The message -/

section Messages

variable {s t : SqliteStore} {d : Draws} {resolved : ReviewStepResolution}
  {message message' : AgentQueueReviewMessageRow}

/-- The message a review goes on with is one of its task, or a new one. -/
theorem createdMessage_ok
    (hexisting : ∀ m ∈ resolved.existingMessage, m ∈ s.agentQueueReviewMessages ∧
      m.workspaceId = resolved.request.workspaceId ∧ m.queueTaskId = resolved.taskId)
    (h : exec (createdMessage d resolved) s = (.ok message, t)) :
    (∃ messages, t = { s with agentQueueReviewMessages := messages } ∧
        ∃ new : Option AgentQueueReviewMessageRow,
          messages.rows = s.agentQueueReviewMessages.rows ++ new.toList) ∧
      message ∈ t.agentQueueReviewMessages ∧
      message.workspaceId = resolved.request.workspaceId ∧ message.queueTaskId = resolved.taskId ∧
      (resolved.existingMessage = some message ∨
        resolved.existingMessage = none ∧ message = newReviewMessage d resolved) := by
  rw [createdMessage] at h
  split at h
  · rename_i m hm
    obtain ⟨rfl, rfl⟩ : m = message ∧ s = t := by
      simpa only [exec_pure, Prod.mk.injEq, Except.ok.injEq] using h
    obtain ⟨hmem, hworkspace, htask⟩ := hexisting m hm
    exact ⟨⟨_, rfl, none, by simp⟩, hmem, hworkspace, htask, Or.inl hm⟩
  · rename_i hnone
    have hinsert := exec_execute_ok.1 h
    rw [SqliteStore.insertAgentQueueReviewMessage, SqliteStore.inserted_ok] at hinsert
    obtain ⟨-, rfl, messages, hinsert, rfl⟩ := hinsert
    refine ⟨⟨messages, rfl, some (newReviewMessage d resolved), ?_⟩, ?_, rfl, rfl,
      Or.inr ⟨hnone, rfl⟩⟩
    · rw [Table.rows_insert hinsert, Option.toList_some]
    · exact (Table.mem_insert hinsert _).2 (Or.inr rfl)

/-- The message of a task is found under its id. -/
theorem getAgentQueueReviewMessage_of_mem (h : message ∈ s.agentQueueReviewMessages) :
    s.getAgentQueueReviewMessage message.workspaceId message.queueTaskId message.messageId =
      some message := by
  refine (Table.find_eq_some ?_).2 ⟨h, by simp⟩
  intro a b ha hb
  simp only [Bool.and_eq_true, beq_iff_eq] at ha hb
  exact ⟨("message_id", [message.messageId]), by simp [Row.keys, ha.2], by simp [Row.keys, hb.2]⟩

/-- **A message acknowledged** is the same message with the acknowledgement. -/
theorem acknowledgedMessage_ok (hmem : message ∈ s.agentQueueReviewMessages)
    (hworkspace : message.workspaceId = resolved.request.workspaceId)
    (htask : message.queueTaskId = resolved.taskId)
    (h : exec (acknowledgedMessage d resolved message) s = (.ok message', t)) :
    (∃ messages, t = { s with agentQueueReviewMessages := messages } ∧
        messages.rows.map (·.messageId) = s.agentQueueReviewMessages.rows.map (·.messageId)) ∧
      message' ∈ t.agentQueueReviewMessages ∧
      message'.workspaceId = message.workspaceId ∧ message'.queueTaskId = message.queueTaskId ∧
      message'.messageId = message.messageId ∧ message'.runId = message.runId ∧
      message'.status = reviewMessageStatusAcknowledged := by
  rw [acknowledgedMessage] at h
  split at h
  · rename_i hstatus
    obtain ⟨rfl, rfl⟩ : message = message' ∧ s = t := by
      simpa only [exec_pure, Prod.mk.injEq, Except.ok.injEq] using h
    exact ⟨⟨_, rfl, rfl⟩, hmem, rfl, rfl, rfl, rfl, hstatus⟩
  · obtain ⟨found, u, hack, h⟩ := exec_bind_ok.1 h
    rw [exec_query_bind] at h
    obtain ⟨hread, rfl⟩ := rowOrNoRows_ok.1 h
    have hfound := getAgentQueueReviewMessage_of_mem hmem
    rw [hworkspace, htask] at hfound
    have hupdate := exec_execute_ok.1 hack
    rw [SqliteStore.ackAgentQueueReviewMessage] at hupdate
    obtain ⟨-, rfl⟩ := Prod.mk.inj (Except.ok.inj hupdate)
    let named := fun (r : AgentQueueReviewMessageRow) =>
      r.workspaceId == resolved.request.workspaceId && r.queueTaskId == resolved.taskId &&
        r.messageId == message.messageId
    let acked := fun (r : AgentQueueReviewMessageRow) => { r with
      status := reviewMessageStatusAcknowledged
      ackedAt := some (d.timestamp 0)
      ackActorId := some resolved.request.actorId
      updatedAt := d.timestamp 0 }
    replace hread := (@Table.find_update _ _ s.agentQueueReviewMessages named named acked
      (fun _ => rfl) fun _ => rfl).symm.trans hread
    replace hfound : s.agentQueueReviewMessages.find named = some message := hfound
    have hsat := Table.sat_of_find hfound
    rw [hfound, Option.map_some, if_pos hsat, Option.some.injEq] at hread
    subst hread
    refine ⟨⟨_, rfl, ?_⟩, ?_, rfl, rfl, rfl, rfl, rfl⟩
    · simp only [Table.update, List.map_map]
      refine List.map_congr_left fun a _ => ?_
      dsimp only [Function.comp]
      split <;> rfl
    · exact @Table.mem_update_of_pos _ _ _ named acked (fun _ => rfl) _ hmem hsat

end Messages

/-! ## The run -/

/-- The columns a review writes into its run. -/
structure ReviewedColumns where
  slotBindings : List (String × Json)
  mutationRefs : Json
  idempotencyKeys : Json
  actionLogSummary : Json
  variablesJson : Json

/-- The columns as a review computes them. -/
def reviewedColumns (resolved : ReviewStepResolution) (message : AgentQueueReviewMessageRow)
    (createAction ackAction : AgentQueueWorkflowActionRow) (ackKey : String) : ReviewedColumns :=
  { slotBindings := updateBindingWithReview resolved.slotBindings resolved.request.slot message
      createAction ackAction resolved.createIdempotencyKey ackKey
    mutationRefs := mutationRefs resolved.workflowRun.mutationRefsJson resolved.request message
      resolved.evidence
    idempotencyKeys := idempotencyKeys resolved.workflowRun.idempotencyKeysJson
      resolved.createIdempotencyKey ackKey
    actionLogSummary := actionLogSummary resolved.workflowRun.actionLogSummaryJson resolved.request
      message
    variablesJson := variablesObject resolved.workflowRun.variablesJson resolved.request message
      resolved.evidence }

/-- Every column is within its limit. -/
structure ReviewedColumns.Fit (columns : ReviewedColumns) : Prop where
  slotBindings : utf8Length (Json.obj columns.slotBindings).canonicalString ≤
    maxWorkflowSlotBindingsJsonBytes
  mutationRefs : utf8Length columns.mutationRefs.canonicalString ≤ maxWorkflowMutationRefsJsonBytes
  idempotencyKeys : utf8Length columns.idempotencyKeys.canonicalString ≤
    maxWorkflowIdempotencyKeysJsonBytes
  actionLogSummary : utf8Length columns.actionLogSummary.canonicalString ≤
    maxWorkflowActionLogSummaryJsonBytes
  variablesJson : utf8Length columns.variablesJson.canonicalString ≤ maxWorkflowVariablesJsonBytes

/-- The columns are those of a run. -/
structure ReviewedColumns.WrittenIn (columns : ReviewedColumns) (run : AgentQueueWorkflowRunRow) :
    Prop where
  slotBindings : run.slotBindingsJson = some (.value (.obj columns.slotBindings))
  mutationRefs : run.mutationRefsJson = some (.value columns.mutationRefs)
  idempotencyKeys : run.idempotencyKeysJson = some (.value columns.idempotencyKeys)
  actionLogSummary : run.actionLogSummaryJson = some (.value columns.actionLogSummary)
  variablesJson : run.variablesJson = some (.value columns.variablesJson)

/-- The run after a review. -/
def reviewedRun (d : Draws) (columns : ReviewedColumns) (run : AgentQueueWorkflowRunRow) :
    AgentQueueWorkflowRunRow :=
  (reviewedRunUpdate d (.value (.obj columns.slotBindings)) (.value columns.mutationRefs)
    (.value columns.idempotencyKeys) (.value columns.actionLogSummary)
    (.value columns.variablesJson)).reopen workflowPhaseReview run

theorem boundedJson_eq_ok {value : Json} {maxBytes : ℕ} {fieldName : String} {s t : SqliteStore}
    {text : JsonText} :
    exec (boundedJson value maxBytes fieldName) s = (.ok text, t) ↔
      utf8Length value.canonicalString ≤ maxBytes ∧ text = .value value ∧ t = s := by
  rw [boundedJson]
  by_cases hlong : maxBytes < utf8Length value.canonicalString
  · simp [hlong]
  · simp only [hlong, if_false, exec_pure, Prod.mk.injEq, Except.ok.injEq, not_lt.1 hlong, true_and]
    exact ⟨fun h => ⟨h.1.symm, h.2.symm⟩, fun h => ⟨h.1.symm, h.2.symm⟩⟩

/-- The store with the run of a review written. -/
def withReviewedRun (d : Draws) (ref : WorkflowRunRef) (columns : ReviewedColumns)
    (s : SqliteStore) : SqliteStore :=
  { s with
    agentQueueWorkflowRuns := s.agentQueueWorkflowRuns.update
      (namedRun ref.workspaceId ref.workflowRunId) (reviewedRun d columns) fun _ => rfl }

theorem getAgentQueueWorkflowRun_withReviewedRun {s : SqliteStore} {d : Draws}
    {ref : WorkflowRunRef} {columns : ReviewedColumns} {run : AgentQueueWorkflowRunRow}
    (h : s.getAgentQueueWorkflowRun ref.workspaceId ref.workflowRunId = some run) :
    (withReviewedRun d ref columns s).getAgentQueueWorkflowRun ref.workspaceId
      ref.workflowRunId = some (reviewedRun d columns run) := by
  have hread := @Table.find_update _ _ s.agentQueueWorkflowRuns
    (namedRun ref.workspaceId ref.workflowRunId) (namedRun ref.workspaceId ref.workflowRunId)
    (reviewedRun d columns) (fun _ => rfl) fun _ => rfl
  have hfound : s.agentQueueWorkflowRuns.find (namedRun ref.workspaceId ref.workflowRunId) =
    some run := h
  rw [hfound, Option.map_some, if_pos (Table.sat_of_find hfound)] at hread
  exact hread

/-- **The run is stored with its columns when they fit.** -/
theorem storeReviewedRun_ok {s t : SqliteStore} {d : Draws} {resolved : ReviewStepResolution}
    {message : AgentQueueReviewMessageRow} {createAction ackAction : AgentQueueWorkflowActionRow}
    {ackKey : String} {row : AgentQueueWorkflowRunRow}
    (hrun : s.getAgentQueueWorkflowRun resolved.request.workspaceId
      resolved.request.workflowRunId = some resolved.workflowRun) :
    exec (storeReviewedRun d resolved message createAction ackAction ackKey) s = (.ok row, t) ↔
      (reviewedColumns resolved message createAction ackAction ackKey).Fit ∧
        row = reviewedRun d (reviewedColumns resolved message createAction ackAction ackKey)
          resolved.workflowRun ∧
        t = withReviewedRun d resolved.request.toWorkflowRunRef
          (reviewedColumns resolved message createAction ackAction ackKey) s := by
  have hread := @getAgentQueueWorkflowRun_withReviewedRun s d resolved.request.toWorkflowRunRef
    (reviewedColumns resolved message createAction ackAction ackKey) resolved.workflowRun hrun
  rw [storeReviewedRun]
  simp only [exec_bind_ok, boundedJson_eq_ok, exec_execute_ok, rowOrNoRows_ok]
  constructor
  · rintro ⟨_, _, ⟨hbindings, rfl, rfl⟩, _, _, ⟨hrefs, rfl, rfl⟩, _, _, ⟨hkeys, rfl, rfl⟩, _, _,
      ⟨hlog, rfl, rfl⟩, _, _, ⟨hvariables, rfl, rfl⟩, updated, v, hupdate, hrow, rfl⟩
    obtain ⟨rfl, rfl⟩ := SqliteStore.updateWorkflowRunRow_ok.1 hupdate
    exact ⟨⟨hbindings, hrefs, hkeys, hlog, hvariables⟩,
      Option.some.inj (hrow.symm.trans hread), rfl⟩
  · rintro ⟨hfit, rfl, rfl⟩
    exact ⟨_, _, ⟨hfit.slotBindings, rfl, rfl⟩, _, _, ⟨hfit.mutationRefs, rfl, rfl⟩, _, _,
      ⟨hfit.idempotencyKeys, rfl, rfl⟩, _, _, ⟨hfit.actionLogSummary, rfl, rfl⟩, _, _,
      ⟨hfit.variablesJson, rfl, rfl⟩, _, _, SqliteStore.updateWorkflowRunRow_ok.2 ⟨rfl, rfl⟩, hread,
      rfl⟩

end HobitQueue.WorkflowReview
