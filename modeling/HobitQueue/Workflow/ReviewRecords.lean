import HobitQueue.Lib.Entries
import HobitQueue.Lib.MemberWrites
import HobitQueue.Workflow.ReviewWrites

/-!
# What a review leaves

A review that goes through leaves its message acknowledged, its two actions completed with
refs that name the message, and the columns of its run. The columns are written such that
computing them once more gives the same ones.

## Main results

* `createReview_ok`, `ackReview_ok` — the two halves of a review.
* `reviewedColumns_again` — the columns do not change the second time.
-/

namespace HobitQueue.WorkflowReview

open Concurrent StoreProg Relational

/-! ## Ids in JSON texts -/

/-- A non-empty text without white space around it. -/
def IsCleanId (id : String) : Prop := Text.trimmedNonEmpty id = some id

instance (id : String) : Decidable (IsCleanId id) := inferInstanceAs (Decidable (_ = _))

/-- The ids of the messages, and those of the evidence, are clean. -/
structure CleanIds (s : SqliteStore) : Prop where
  messages : ∀ m ∈ s.agentQueueReviewMessages, IsCleanId m.messageId
  bundles : ∀ e ∈ s.agentQueueWorkerEvidenceBundles, IsCleanId e.bundleId
  runs : ∀ e ∈ s.agentQueueWorkerEvidenceBundles, IsCleanId e.runId

theorem isCleanId_newReviewMessage (d : Draws) (resolved : ReviewStepResolution) :
    IsCleanId (newReviewMessage d resolved).messageId := by
  have htrim : Text.trim (newReviewMessage d resolved).messageId =
      (newReviewMessage d resolved).messageId :=
    trim_placeholderId (List.all_iff_forall_prop.1 (by decide)) (d.clock 2) (d.suffix 2)
  have hne : (newReviewMessage d resolved).messageId ≠ "" := by
    intro hempty
    have hchars := congrArg String.toList hempty
    simp [newReviewMessage, Draws.placeholderId, placeholderId] at hchars
  rw [IsCleanId, Text.trimmedNonEmpty, htrim, if_neg hne]

/-- A clean id is read from the member it was written into. -/
theorem jsonStringField_of_clean {v : Json} {key id : String} (hid : IsCleanId id)
    (h : v.field key = some (.str id)) : jsonStringField v key = some id := by
  rw [jsonStringField, h]
  exact hid

/-! ## The refs of the actions -/

section Refs

variable {action : AgentQueueWorkflowActionRow} {bundleId messageId runId : String} {had : Bool}
  {refs : JsonText}

theorem reviewCreateResultRefs_match (hbundle : IsCleanId bundleId)
    (hmessage : IsCleanId messageId) (hrun : IsCleanId runId) :
    reviewCreateRefsMatch (reviewCreateResultRefs action bundleId messageId runId had) bundleId
      messageId runId = true := by
  have hfresh : ∀ status : String, reviewCreateRefsMatch (.value (.obj [
      ("evidenceBundleId", .str bundleId), ("messageId", .str messageId), ("runId", .str runId),
      ("status", .str status)])) bundleId messageId runId = true := by
    intro status
    have hread : ∀ key id, IsCleanId id → (Json.obj [("evidenceBundleId", .str bundleId),
        ("messageId", .str messageId), ("runId", .str runId),
        ("status", .str status)]).field key = some (.str id) → jsonStringField (.obj [
          ("evidenceBundleId", .str bundleId), ("messageId", .str messageId),
          ("runId", .str runId), ("status", .str status)]) key = some id :=
      fun key id hid h => jsonStringField_of_clean hid h
    simp only [reviewCreateRefsMatch, JsonText.parse]
    rw [hread _ _ hbundle rfl, hread _ _ hmessage rfl, hread _ _ hrun rfl]
    simp
  rw [reviewCreateResultRefs]
  by_cases hcompleted : action.status = QueueWorkflowActionStatus.completed.asStr
  · rw [if_pos hcompleted]
    cases hkept : action.resultRefsJson.filter
      (reviewCreateRefsMatch · bundleId messageId runId) with
    | none => exact hfresh _
    | some kept => exact (Option.filter_eq_some_iff.1 hkept).2
  · rw [if_neg hcompleted]
    exact hfresh _

/-- The refs of a completed action are kept when they match. -/
theorem reviewCreateResultRefs_of_match
    (hcompleted : action.status = QueueWorkflowActionStatus.completed.asStr)
    (hrefs : action.resultRefsJson = some refs)
    (hmatch : reviewCreateRefsMatch refs bundleId messageId runId = true) :
    reviewCreateResultRefs action bundleId messageId runId had = refs := by
  rw [reviewCreateResultRefs, if_pos hcompleted, hrefs, Option.filter_some, if_pos hmatch,
    Option.getD_some]

theorem reviewAckResultRefs_match (hmessage : IsCleanId messageId) :
    reviewAckRefsMatch (reviewAckResultRefs action messageId had) messageId = true := by
  have hfresh : ∀ ackStatus : String, reviewAckRefsMatch (.value (.obj [
      ("ackStatus", .str ackStatus), ("messageId", .str messageId),
      ("status", .str "acknowledged")])) messageId = true := by
    intro ackStatus
    have hread : jsonStringField (.obj [("ackStatus", .str ackStatus),
        ("messageId", .str messageId), ("status", .str "acknowledged")]) "messageId" =
          some messageId :=
      jsonStringField_of_clean hmessage rfl
    have hstatus : jsonStringField (.obj [("ackStatus", .str ackStatus),
        ("messageId", .str messageId), ("status", .str "acknowledged")]) "status" =
        some reviewMessageStatusAcknowledged :=
      jsonStringField_of_clean (by decide) rfl
    simp only [reviewAckRefsMatch, JsonText.parse]
    rw [hread, hstatus]
    simp
  rw [reviewAckResultRefs]
  by_cases hcompleted : action.status = QueueWorkflowActionStatus.completed.asStr
  · rw [if_pos hcompleted]
    cases hkept : action.resultRefsJson.filter (reviewAckRefsMatch · messageId) with
    | none => exact hfresh _
    | some kept => exact (Option.filter_eq_some_iff.1 hkept).2
  · rw [if_neg hcompleted]
    exact hfresh _

theorem reviewAckResultRefs_of_match
    (hcompleted : action.status = QueueWorkflowActionStatus.completed.asStr)
    (hrefs : action.resultRefsJson = some refs)
    (hmatch : reviewAckRefsMatch refs messageId = true) :
    reviewAckResultRefs action messageId had = refs := by
  rw [reviewAckResultRefs, if_pos hcompleted, hrefs, Option.filter_some, if_pos hmatch,
    Option.getD_some]

/-- The message that the refs of a creation name is the created one, or one that the completed
action named before. -/
theorem messageId_of_createRefs {action' : AgentQueueWorkflowActionRow} {id : String}
    (h : action'.resultRefsJson =
      some (reviewCreateResultRefs action bundleId messageId runId had))
    (hid : id ∈ actionResultMessageId action') :
    id = messageId ∨ action.status = QueueWorkflowActionStatus.completed.asStr ∧
      id ∈ actionResultMessageId action := by
  rw [actionResultMessageId, actionResultStringField, h, reviewCreateResultRefs] at hid
  by_cases hcompleted : action.status = QueueWorkflowActionStatus.completed.asStr
  · rw [if_pos hcompleted] at hid
    cases hkept : action.resultRefsJson.filter
      (reviewCreateRefsMatch · bundleId messageId runId) with
    | none =>
      rw [hkept] at hid
      exact Or.inl (Option.some.inj hid).symm
    | some kept =>
      rw [hkept, Option.getD_some] at hid
      refine Or.inr ⟨hcompleted, ?_⟩
      rw [actionResultMessageId, actionResultStringField, (Option.filter_eq_some_iff.1 hkept).1]
      exact hid
  · rw [if_neg hcompleted] at hid
    exact Or.inl (Option.some.inj hid).symm

end Refs

/-! ## What a review records -/

/-- The action that records the creation of a message. -/
structure RecordsCreation (resolved : ReviewStepResolution) (message : AgentQueueReviewMessageRow)
    (action : AgentQueueWorkflowActionRow) : Prop where
  completed : action.status = QueueWorkflowActionStatus.completed.asStr
  target : action.targetRefsJson = some (.value resolved.createTargetRefs)
  refs : ∃ refs, action.resultRefsJson = some refs ∧
    reviewCreateRefsMatch refs resolved.evidence.bundleId message.messageId resolved.runId = true
  names : ∀ id ∈ actionResultMessageId action, id = message.messageId

/-- The action that records the acknowledgement of a message. -/
structure RecordsAck (resolved : ReviewStepResolution) (message : AgentQueueReviewMessageRow)
    (action : AgentQueueWorkflowActionRow) : Prop where
  completed : action.status = QueueWorkflowActionStatus.completed.asStr
  target : action.targetRefsJson =
    some (.value (ackTargetRefs resolved.request message.messageId resolved.taskId))
  refs : ∃ refs, action.resultRefsJson = some refs ∧
    reviewAckRefsMatch refs message.messageId = true

/-- A message of the task of a review. -/
structure IsReviewMessage (s : SqliteStore) (resolved : ReviewStepResolution)
    (message : AgentQueueReviewMessageRow) : Prop where
  mem : message ∈ s.agentQueueReviewMessages
  workspace : message.workspaceId = resolved.request.workspaceId
  task : message.queueTaskId = resolved.taskId
  ackable : Ackable resolved.evidence.runId message
  clean : IsCleanId message.messageId

/-- The key of the acknowledgement of a message. -/
def reviewAckKey (resolved : ReviewStepResolution) (messageId : String) : String :=
  ackReviewIdempotencyKey resolved.request.workflowRunId resolved.request.slot messageId

/-- The two actions of a review have different keys. -/
theorem createKey_ne_ackKey (workflowRunId slot taskId runId bundleId messageId : String) :
    createReviewIdempotencyKey workflowRunId slot taskId runId bundleId ≠
      ackReviewIdempotencyKey workflowRunId slot messageId := by
  intro h
  have hchars := congrArg String.toList h
  simp only [createReviewIdempotencyKey, ackReviewIdempotencyKey, String.toList_append,
    List.append_assoc, List.append_cancel_left_eq] at hchars
  have hsecond := congrArg (fun chars : List Char => chars.drop 1 |>.head?) hchars
  simp at hsecond

section Execution

variable {s t : SqliteStore} {d : Draws} {resolved : ReviewStepResolution} {binding : Json}
  {message message' : AgentQueueReviewMessageRow}
  {createAction ackAction : AgentQueueWorkflowActionRow}

theorem mem_of_boundMessage {messages : List AgentQueueReviewMessageRow}
    (h : boundMessage messages binding = some (some message)) : message ∈ messages := by
  rw [boundMessage] at h
  split at h
  · exact List.mem_of_head? (Option.some.inj h)
  · obtain ⟨found, hfind, hsame⟩ := Option.map_eq_some_iff.1 h
    rw [← Option.some.inj hsame]
    exact List.mem_of_find?_eq_some hfind

theorem Reviewable.isReviewMessage (h : Reviewable s resolved binding) (hclean : CleanIds s)
    (hmessage : resolved.existingMessage = some message) :
    IsReviewMessage s resolved message := by
  have hbound := h.message
  rw [hmessage] at hbound
  have hmem := mem_of_boundMessage hbound
  simp only [SqliteStore.listAgentQueueReviewMessages, Table.mem_select, Bool.and_eq_true,
    beq_iff_eq] at hmem
  exact ⟨hmem.1, hmem.2.1, hmem.2.2, h.ackable message hmessage, hclean.messages message hmem.1⟩

/-- What was found of the evidence is in the store. -/
theorem mem_of_boundEvidence {workspaceId taskId : String}
    {evidence : AgentQueueWorkerEvidenceBundleRow}
    (h : boundEvidence s workspaceId taskId binding = some evidence) :
    evidence ∈ s.agentQueueWorkerEvidenceBundles := by
  rw [boundEvidence] at h
  split at h
  · exact Table.mem_of_find h
  · exact (Table.latest_eq_some.1 h).1

/-- **The message of a review is created**, unless it was there, and its action records it. -/
theorem createReview_ok (h : Reviewable s resolved binding) (hclean : CleanIds s)
    (hexec : exec (createReview d resolved) s = (.ok (message, createAction), t)) :
    (∃ actions messages, t = { s with
        agentQueueWorkflowActions := actions, agentQueueReviewMessages := messages } ∧
      ∃ new : Option AgentQueueReviewMessageRow,
        messages.rows = s.agentQueueReviewMessages.rows ++ new.toList) ∧
      IsReviewMessage t resolved message ∧
      (∀ m ∈ resolved.existingMessage, m = message) ∧
      t.getAgentQueueWorkflowActionByIdempotencyKey resolved.request.workflowRunId
        resolved.createIdempotencyKey = some createAction ∧
      (∀ key, key ≠ resolved.createIdempotencyKey →
        t.getAgentQueueWorkflowActionByIdempotencyKey resolved.request.workflowRunId key =
          s.getAgentQueueWorkflowActionByIdempotencyKey resolved.request.workflowRunId key) ∧
      RecordsCreation resolved message createAction := by
  rw [createReview] at hexec
  obtain ⟨opened, u, hopen, hexec⟩ := exec_bind_ok.1 hexec
  obtain ⟨created, v, hcreated, hexec⟩ := exec_bind_ok.1 hexec
  obtain ⟨completed, w, hcomplete, hexec⟩ := exec_bind_ok.1 hexec
  obtain ⟨⟨rfl, rfl⟩, rfl⟩ : (created = message ∧ completed = createAction) ∧ w = t := by
    simpa only [exec_pure, Prod.mk.injEq, Except.ok.injEq] using hexec
  obtain ⟨hopened, htarget, hwas⟩ := openReviewAction_ok (fun a ha => ⟨(h.createFits a ha).target,
    h.createAction.symm.trans ha⟩) hopen
  have hexisting : ∀ m ∈ resolved.existingMessage, IsReviewMessage u resolved m := by
    intro m hm
    obtain ⟨actions, rfl⟩ := hopened.frame
    have hfound := h.isReviewMessage hclean hm
    exact ⟨hfound.mem, hfound.workspace, hfound.task, hfound.ackable, hfound.clean⟩
  obtain ⟨⟨messages, rfl, new, hrows⟩, hmem, hworkspace, htask, hwhich⟩ := createdMessage_ok
    (fun m hm => ⟨(hexisting m hm).mem, (hexisting m hm).workspace, (hexisting m hm).task⟩) hcreated
  have hfound :
      IsReviewMessage { u with agentQueueReviewMessages := messages } resolved created := by
    rcases hwhich with hold | ⟨-, hnew⟩
    · have hcreated := hexisting created hold
      exact ⟨hmem, hworkspace, htask, hcreated.ackable, hcreated.clean⟩
    · refine ⟨hmem, hworkspace, htask, ⟨?_, Or.inl ?_⟩, ?_⟩
      · rw [hnew]
        rintro id ⟨⟩
        exact h.runId
      · rw [hnew]
        rfl
      · rw [hnew]
        exact isCleanId_newReviewMessage d resolved
  have hsame : ∀ m ∈ resolved.existingMessage, m = created := by
    intro m hm
    rcases hwhich with hold | ⟨hnone, -⟩
    · exact Option.some.inj (hm.symm.trans hold)
    · rw [hnone] at hm
      cases hm
  have hstays : ({ u with agentQueueReviewMessages := messages } :
      SqliteStore).getAgentQueueWorkflowActionByIdempotencyKey resolved.request.workflowRunId
        resolved.createIdempotencyKey = some opened := hopened.found
  obtain ⟨hwritten, hcompleted, hrefs, hkept⟩ := completeReviewAction_ok hstays hcomplete
  obtain ⟨actions, rfl⟩ := hopened.frame
  obtain ⟨actions', rfl⟩ := hwritten.frame
  refine ⟨⟨actions', messages, rfl, new, hrows⟩, ⟨hfound.mem, hworkspace, htask, hfound.ackable,
    hfound.clean⟩, hsame, hwritten.found, fun key hkey => (hwritten.others key hkey).trans
      (hopened.others key hkey), hcompleted, hkept.trans htarget, ⟨_, hrefs, ?_⟩, ?_⟩
  · have hevidence := mem_of_boundEvidence h.evidence
    have hrun : IsCleanId resolved.runId := by
      rw [h.runId]
      exact hclean.runs _ hevidence
    exact reviewCreateResultRefs_match (hclean.bundles _ hevidence) hfound.clean hrun
  · intro id hid
    rcases messageId_of_createRefs hrefs hid with rfl | ⟨hwasCompleted, hnamed⟩
    · rfl
    · have hold := h.createAction.trans (hwas hwasCompleted)
      obtain ⟨m, hm, rfl⟩ := (h.createFits opened hold).message id hnamed
      rw [hsame m hm]

/-- **The message of a review is acknowledged**, unless it was, and its action records it. -/
theorem ackReview_ok (hmessage : IsReviewMessage s resolved message)
    (htarget : resolved.ackTargetRefs.getD
        (ackTargetRefs resolved.request message.messageId resolved.taskId) =
      ackTargetRefs resolved.request message.messageId resolved.taskId)
    (hack : ∀ a ∈ resolved.ackAction,
      a.targetRefsJson =
          some (.value (ackTargetRefs resolved.request message.messageId resolved.taskId)) ∧
        s.getAgentQueueWorkflowActionByIdempotencyKey resolved.request.workflowRunId
          (reviewAckKey resolved message.messageId) = some a)
    (hexec : exec (ackReview d resolved message (reviewAckKey resolved message.messageId)) s =
      (.ok (message', ackAction), t)) :
    (∃ actions messages, t = { s with
        agentQueueWorkflowActions := actions, agentQueueReviewMessages := messages } ∧
      messages.rows.map (·.messageId) = s.agentQueueReviewMessages.rows.map (·.messageId)) ∧
      IsReviewMessage t resolved message' ∧ message'.messageId = message.messageId ∧
      message'.status = reviewMessageStatusAcknowledged ∧
      t.getAgentQueueWorkflowActionByIdempotencyKey resolved.request.workflowRunId
        (reviewAckKey resolved message.messageId) = some ackAction ∧
      (∀ key, key ≠ reviewAckKey resolved message.messageId →
        t.getAgentQueueWorkflowActionByIdempotencyKey resolved.request.workflowRunId key =
          s.getAgentQueueWorkflowActionByIdempotencyKey resolved.request.workflowRunId key) ∧
      RecordsAck resolved message' ackAction := by
  rw [ackReview, htarget] at hexec
  obtain ⟨opened, u, hopen, hexec⟩ := exec_bind_ok.1 hexec
  obtain ⟨acked, v, hacked, hexec⟩ := exec_bind_ok.1 hexec
  obtain ⟨completed, w, hcomplete, hexec⟩ := exec_bind_ok.1 hexec
  obtain ⟨⟨rfl, rfl⟩, rfl⟩ : (acked = message' ∧ completed = ackAction) ∧ w = t := by
    simpa only [exec_pure, Prod.mk.injEq, Except.ok.injEq] using hexec
  obtain ⟨hopened, hrefs, -⟩ := openReviewAction_ok hack hopen
  have hmem : message ∈ u.agentQueueReviewMessages := by
    obtain ⟨actions, rfl⟩ := hopened.frame
    exact hmessage.mem
  obtain ⟨⟨messages, rfl, hids⟩, hmem', hworkspace, htask, hid, hrun, hstatus⟩ :=
    acknowledgedMessage_ok hmem hmessage.workspace hmessage.task hacked
  have hstays : ({ u with agentQueueReviewMessages := messages } :
      SqliteStore).getAgentQueueWorkflowActionByIdempotencyKey resolved.request.workflowRunId
        (reviewAckKey resolved message.messageId) = some opened := hopened.found
  obtain ⟨hwritten, hcompleted, hresult, hkept⟩ := completeReviewAction_ok hstays hcomplete
  obtain ⟨actions, rfl⟩ := hopened.frame
  obtain ⟨actions', rfl⟩ := hwritten.frame
  have hclean : IsCleanId acked.messageId := hid ▸ hmessage.clean
  have hackable : Ackable resolved.evidence.runId acked :=
    ⟨hrun ▸ hmessage.ackable.run, Or.inr hstatus⟩
  refine ⟨⟨actions', messages, rfl, hids⟩, ⟨hmem', hworkspace.trans hmessage.workspace,
    htask.trans hmessage.task, hackable, hclean⟩, hid, hstatus, hwritten.found, fun key hkey =>
      (hwritten.others key hkey).trans (hopened.others key hkey), hcompleted, ?_, _, hresult,
    reviewAckResultRefs_match hclean⟩
  rw [hid]
  exact hkept.trans hrefs

end Execution

/-! ## The columns of the run -/

/-- What a review writes into the binding of its slot. -/
def reviewMembers (message : AgentQueueReviewMessageRow)
    (createAction ackAction : AgentQueueWorkflowActionRow) (createKey ackKey : String) :
    List (String × Json) :=
  presentMembers [
    ("messageId", some (.str message.messageId)),
    ("reviewCreateActionId", some (.str createAction.actionId)),
    ("reviewCreateActionIdempotencyKey", some (.str createKey)),
    ("reviewAckActionId", some (.str ackAction.actionId)),
    ("reviewAckActionIdempotencyKey", some (.str ackKey)),
    ("reviewStatus", some (.str message.status)),
    ("reviewAckedAt", message.ackedAt.map .str)]

section Columns

variable {message : AgentQueueReviewMessageRow}
  {createAction ackAction : AgentQueueWorkflowActionRow} {createKey ackKey slot : String}
  {slotBindings members : List (String × Json)}

theorem updateBindingWithReview_eq :
    updateBindingWithReview slotBindings slot message createAction ackAction createKey ackKey =
      Json.updateEntry slot
        (Json.insertMembers (reviewMembers message createAction ackAction createKey ackKey))
        slotBindings := rfl

theorem keys_reviewMembers :
    ((reviewMembers message createAction ackAction createKey ackKey).map Prod.fst).Sublist
      ["messageId", "reviewCreateActionId", "reviewCreateActionIdempotencyKey",
        "reviewAckActionId", "reviewAckActionIdempotencyKey", "reviewStatus", "reviewAckedAt"] := by
  cases hacked : message.ackedAt with
  | none =>
    rw [reviewMembers, hacked]
    exact List.sublist_append_left ["messageId", "reviewCreateActionId",
      "reviewCreateActionIdempotencyKey", "reviewAckActionId", "reviewAckActionIdempotencyKey",
      "reviewStatus"] ["reviewAckedAt"]
  | some ackedAt =>
    rw [reviewMembers, hacked]
    exact List.Sublist.refl _

theorem nodup_reviewMembers :
    ((reviewMembers message createAction ackAction createKey ackKey).map Prod.fst).Nodup :=
  keys_reviewMembers.nodup (by decide)

/-- **A binding written again is the same.** -/
theorem updateBindingWithReview_again :
    updateBindingWithReview
        (updateBindingWithReview slotBindings slot message createAction ackAction createKey ackKey)
        slot message createAction ackAction createKey ackKey =
      updateBindingWithReview slotBindings slot message createAction ackAction createKey
        ackKey := by
  simp only [updateBindingWithReview_eq]
  exact Json.updateEntry_updateEntry
    (fun members => Json.insertMembers_insertMembers nodup_reviewMembers members) slot slotBindings

/-- The texts of a binding that a review does not write. -/
theorem jsonStringField_reviewed {key : String} (hkey : key ∉ ["messageId", "reviewCreateActionId",
      "reviewCreateActionIdempotencyKey", "reviewAckActionId", "reviewAckActionIdempotencyKey",
      "reviewStatus", "reviewAckedAt"]) :
    jsonStringField (.obj (Json.insertMembers
        (reviewMembers message createAction ackAction createKey ackKey) members)) key =
      jsonStringField (.obj members) key := by
  have hnone : (reviewMembers message createAction ackAction createKey ackKey).reverse.lookup key =
      none := by
    refine Json.lookup_of_notMem fun hmem => hkey ?_
    rw [List.map_reverse, List.mem_reverse] at hmem
    exact keys_reviewMembers.mem hmem
  simp only [jsonStringField, Json.field]
  rw [Json.lookup_insertMembers, hnone, Option.none_or]

theorem messageId_reviewed (hid : IsCleanId message.messageId) :
    jsonStringField (.obj (Json.insertMembers
        (reviewMembers message createAction ackAction createKey ackKey) members)) "messageId" =
      some message.messageId := by
  refine jsonStringField_of_clean hid ?_
  have hsome : (reviewMembers message createAction ackAction createKey ackKey).reverse.lookup
      "messageId" = some (.str message.messageId) := by
    rw [reviewMembers]
    cases message.ackedAt <;> rfl
  simp only [Json.field]
  rw [Json.lookup_insertMembers, hsome, Option.some_or]

/-- Another slot has started whether the binding of this one is written or not. -/
theorem downstreamHasStarted_updateEntry {s : SqliteStore} {workspaceId : String}
    (f : List (String × Json) → List (String × Json)) :
    downstreamHasStarted s workspaceId (Json.updateEntry slot f slotBindings) slot =
      downstreamHasStarted s workspaceId slotBindings slot := by
  have hfilter : ∀ bindings : List (String × Json),
      downstreamHasStarted s workspaceId bindings slot =
        (bindings.filter fun entry => entry.1 != slot).any fun entry =>
          (jsonStringField entry.2 "runId").isSome ||
            (jsonStringField entry.2 "taskId").any fun taskId =>
              (s.getLatestAgentQueueTaskRunLink workspaceId taskId).isSome := by
    intro bindings
    rw [List.any_filter]
    rfl
  rw [hfilter, hfilter, Json.filter_updateEntry]

end Columns

section Rerun

variable {resolved resolved' : ReviewStepResolution} {message : AgentQueueReviewMessageRow}
  {createAction ackAction : AgentQueueWorkflowActionRow} {ackKey : String}

/-- What the writes of a review read of it, besides the run. -/
structure SameSubject (resolved resolved' : ReviewStepResolution) : Prop where
  slot : resolved'.request.slot = resolved.request.slot
  evidence : resolved'.evidence = resolved.evidence
  createKey : resolved'.createIdempotencyKey = resolved.createIdempotencyKey

theorem variablesObject_eq_puts (existing : Option JsonText)
    (request : NormalizedReviewStepRequest) (message : AgentQueueReviewMessageRow)
    (evidence : AgentQueueWorkerEvidenceBundleRow) :
    variablesObject existing request message evidence = .obj (Json.puts [
      ("messageIdsBySlot",
        Json.changedEntry (Json.insertMember request.slot (.str message.messageId))),
      ("evidenceBundleIdsBySlot",
        Json.changedEntry (Json.insertMember request.slot (.str evidence.bundleId))),
      ("runIdsBySlot", Json.changedEntry (Json.insertMember request.slot (.str evidence.runId))),
      ("taskIdsBySlot",
        Json.changedEntry (Json.insertMember request.slot (.str evidence.queueTaskId))),
      ("reviewAcknowledgedBySlot", fun _ => .obj [(request.slot, .bool true)])]
      (JsonText.members existing)) := rfl

/-- **The columns computed again from the run they were written into are the same.** -/
theorem reviewedColumns_again (hsame : SameSubject resolved resolved')
    (hbindings : resolved'.slotBindings =
      (reviewedColumns resolved message createAction ackAction ackKey).slotBindings)
    (hwritten : (reviewedColumns resolved message createAction ackAction ackKey).WrittenIn
      resolved'.workflowRun) :
    reviewedColumns resolved' message createAction ackAction ackKey =
      reviewedColumns resolved message createAction ackAction ackKey := by
  have hslotBindings : updateBindingWithReview resolved'.slotBindings resolved'.request.slot
      message createAction ackAction resolved'.createIdempotencyKey ackKey =
      (reviewedColumns resolved message createAction ackAction ackKey).slotBindings := by
    rw [hbindings, hsame.slot, hsame.createKey]
    exact updateBindingWithReview_again
  have hrefs : mutationRefs resolved'.workflowRun.mutationRefsJson resolved'.request message
      resolved'.evidence =
      (reviewedColumns resolved message createAction ackAction ackKey).mutationRefs := by
    rw [hwritten.mutationRefs, hsame.evidence, mutationRefs, hsame.slot]
    exact congrArg Json.obj (Json.insertMember_insertMember _ _ _ _)
  have hkeys : idempotencyKeys resolved'.workflowRun.idempotencyKeysJson
      resolved'.createIdempotencyKey ackKey =
      (reviewedColumns resolved message createAction ackAction ackKey).idempotencyKeys := by
    rw [hwritten.idempotencyKeys, hsame.createKey]
    exact congrArg Json.obj (Json.insertMember_insertMember _ _ _ _)
  have hlog : actionLogSummary resolved'.workflowRun.actionLogSummaryJson resolved'.request
      message =
      (reviewedColumns resolved message createAction ackAction ackKey).actionLogSummary := by
    rw [hwritten.actionLogSummary, actionLogSummary, hsame.slot]
    exact congrArg Json.obj (Json.insertMember_insertMember _ _ _ _)
  have hvariables : variablesObject resolved'.workflowRun.variablesJson resolved'.request message
      resolved'.evidence =
      (reviewedColumns resolved message createAction ackAction ackKey).variablesJson := by
    rw [hwritten.variablesJson, hsame.evidence]
    simp only [reviewedColumns, variablesObject_eq_puts, hsame.slot]
    refine congrArg Json.obj (Json.puts_puts (by simp) ?_ _)
    have hmerge : ∀ key value : String, ∀ v, Json.changedEntry (Json.insertMember key (.str value))
        (some (Json.changedEntry (Json.insertMember key (.str value)) v)) =
        Json.changedEntry (Json.insertMember key (.str value)) v := fun key value =>
      Json.changedEntry_changedEntry fun members => Json.insertMember_insertMember _ _ _ _
    intro write hwrite
    simp only [List.mem_cons, List.not_mem_nil, or_false] at hwrite
    rcases hwrite with rfl | rfl | rfl | rfl | rfl
    · exact hmerge _ _
    · exact hmerge _ _
    · exact hmerge _ _
    · exact hmerge _ _
    · exact fun _ => rfl
  rw [reviewedColumns, hslotBindings, hrefs, hkeys, hlog, hvariables]

end Rerun
end HobitQueue.WorkflowReview
