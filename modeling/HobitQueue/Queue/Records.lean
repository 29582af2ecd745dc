import HobitQueue.Queue.Decisions

/-!
# The records of a task over a history

Run links, review messages, evidence and decisions are the records of what was done with
a task. Each operation touches one kind of them, but for the report of a worker, which
ends a link and stores evidence, and the deletion of a task, which takes its records away.
-/

namespace HobitQueue

open Concurrent StoreProg Relational Machine

/-- The bundle an operation stores. -/
inductive StoresBundle (s : SqliteStore) : Op → AgentQueueWorkerEvidenceBundleRow → Prop
  | reported {d : Draws} {input : RecordAgentQueueWorkerFinishedInput}
      {n : NormalizedRecordAgentQueueWorkerFinishedInput} {linkId : String}
      {executorId : Option String}
      (hn : normalizeRecordAgentQueueWorkerFinishedInput input = .ok n) :
      StoresBundle s (.recordWorkerFinished d input)
        (workerEvidenceBundle n (n.finishedAt.getD (d.timestamp 0))
          (d.placeholderId "queue_worker_evidence_" 1) linkId executorId)
  | recovered {d : Draws} {input n : RecoverStaleQueueLocalRunInput}
      (hn : normalizeRecoverStaleQueueLocalRunInput input = .ok n)
      (hnone : s.getAgentQueueWorkerEvidenceBundle n.workspaceId n.queueItemId n.runId = none) :
      StoresBundle s (.recoverStale d input)
        (staleRecoveryBundle n (d.placeholderId "queue_worker_evidence_" 1) (d.timestamp 0))

/-- What an operation does to the records. -/
inductive RecordEffect (s : SqliteStore) : Op → SqliteStore → Prop
  | kept {op : Op} {t : SqliteStore} (h : s.SameRecords t) : RecordEffect s op t
  | linkStarted {op : Op} {t : SqliteStore} {link : AgentQueueTaskRunLinkRow}
      {links' : Table AgentQueueTaskRunLinkRow} (hop : StartsLink s op link)
      (hins : s.agentQueueTaskRunLinks.insert link = some links')
      (h : SqliteStore.SameRecords { s with agentQueueTaskRunLinks := links' } t) :
      RecordEffect s op t
  | linkEnded {op : Op} {t : SqliteStore} {p : AgentQueueTaskRunLinkRow → Bool}
      {update : AgentQueueTaskRunLinkFinalUpdate}
      (h : SqliteStore.SameRecords { s with
        agentQueueTaskRunLinks :=
          s.agentQueueTaskRunLinks.update p update.apply fun _ => rfl } t) : RecordEffect s op t
  | bundleStored {op : Op} {t : SqliteStore} {p : AgentQueueTaskRunLinkRow → Bool}
      {update : AgentQueueTaskRunLinkFinalUpdate} {bundle : AgentQueueWorkerEvidenceBundleRow}
      {bundles' : Table AgentQueueWorkerEvidenceBundleRow} (hop : StoresBundle s op bundle)
      (hlink : ∃ link ∈ s.agentQueueTaskRunLinks, link.workspaceId = bundle.workspaceId ∧
        link.queueTaskId = bundle.queueTaskId ∧ link.directWorkRunId = bundle.runId ∧
        bundle.runLinkId = some link.linkId)
      (hups : UpsertsBundle bundle s.agentQueueWorkerEvidenceBundles bundles')
      (h : SqliteStore.SameRecords { s with
        agentQueueTaskRunLinks := s.agentQueueTaskRunLinks.update p update.apply fun _ => rfl
        agentQueueWorkerEvidenceBundles := bundles' } t) : RecordEffect s op t
  | messageCreated {d : Draws} {input : CreateAgentQueueReviewMessageInput}
      {request : CreateReviewMessageRequest} {row : AgentQueueTaskRow}
      {messages' : Table AgentQueueReviewMessageRow}
      (hrequest : createReviewMessageRequest input = .ok request)
      (hrow : s.getAgentQueueTask request.workspaceId request.queueItemId = some row)
      (hnone : s.getLatestAgentQueueReviewMessage request.workspaceId request.queueItemId =
        none)
      (hins : s.agentQueueReviewMessages.insert (newReviewMessage d request
        (s.operatorView request.toOperatorTask row)) = some messages') :
      RecordEffect s (.createReviewMessage d input)
        { s with agentQueueReviewMessages := messages' }
  | messageAcked {op : Op} {p : AgentQueueReviewMessageRow → Bool} {actorId ackedAt : String} :
      RecordEffect s op { s with
        agentQueueReviewMessages := s.agentQueueReviewMessages.update p
          (acknowledge actorId ackedAt) fun _ => rfl }
  | accepted {d : Draws} {input : MarkAgentQueueItemDoneInput} {request : MarkDoneRequest}
      {t : SqliteStore} (hrequest : markDoneRequest input = .ok request)
      (h : AcceptsTask d request s t) : RecordEffect s (.markDone d input) t
  | gaveUp {d : Draws} {input : FailAgentQueueItemInput} {request : FailRequest}
      {evidence : AgentQueueWorkerEvidenceBundleRow} {message : AgentQueueReviewMessageRow}
      {t : SqliteStore} (hrequest : failRequest input = .ok request)
      (h : FailsTask d request evidence message s t) : RecordEffect s (.fail d input) t
  | deleted {d : Draws} {input n : AgentQueueTaskRef} {workspaces' : Table WorkspaceRow}
      (hn : normalizeAgentQueueTaskRef input = .ok n) :
      RecordEffect s (.deleteTask d input)
        { s.withoutTask n.queueItemId with workspaces := workspaces' }

/-- **What an operation does to the records.** -/
theorem recordEffect_perform (s : SqliteStore) (op : Op) : RecordEffect s op (perform s op) := by
  have heffect := perform_effect s op
  generalize perform s op = t at heffect
  cases heffect with
  | launched hn h htask hidle =>
    obtain ⟨_, _, _, _, _, hins, _, _, rfl⟩ := h
    exact .linkStarted (.assigned hn htask hidle) hins ⟨rfl, rfl, rfl, rfl, rfl⟩
  | launchedSelected hn h hidle htask =>
    obtain ⟨_, _, _, _, _, hins, _, _, rfl⟩ := h
    exact .linkStarted (.selected hn hidle htask) hins ⟨rfl, rfl, rfl, rfl, rfl⟩
  | linked hn hins => exact .linkStarted (.recorded hn) hins ⟨rfl, rfl, rfl, rfl, rfl⟩
  | finished _ h =>
    obtain ⟨_, _, _, rfl⟩ := h
    exact .linkEnded ⟨rfl, rfl, rfl, rfl, rfl⟩
  | linkEnded _ h =>
    obtain ⟨_, rfl⟩ := h
    exact .linkEnded ⟨rfl, rfl, rfl, rfl, rfl⟩
  | recovered hn hnone _ h =>
    obtain ⟨hlink, _, _, _, hups, rfl⟩ := h
    exact .bundleStored (.recovered hn hnone) hlink hups ⟨rfl, rfl, rfl, rfl, rfl⟩
  | reported hn h =>
    obtain ⟨hlink, _, _, _, hups, rfl⟩ := h
    exact .bundleStored (.reported hn) hlink hups ⟨rfl, rfl, rfl, rfl, rfl⟩
  | messageCreated hrequest hrow hnone hins => exact .messageCreated hrequest hrow hnone hins
  | messageAcked => exact .messageAcked
  | accepted hrequest h => exact .accepted hrequest h
  | gaveUp hrequest h => exact .gaveUp hrequest h
  | deleted hn => exact .deleted hn
  | updated _ _ h =>
    obtain ⟨_, _, rfl⟩ := h
    exact .kept ⟨rfl, rfl, rfl, rfl, rfl⟩
  | reassigned _ h =>
    obtain ⟨_, _, rfl⟩ := h
    exact .kept ⟨rfl, rfl, rfl, rfl, rfl⟩
  | bookkeeping h =>
    obtain ⟨_, _, _, rfl⟩ := h
    exact .kept ⟨rfl, rfl, rfl, rfl, rfl⟩
  | idle => exact .kept ⟨rfl, rfl, rfl, rfl, rfl⟩
  | created => exact .kept ⟨rfl, rfl, rfl, rfl, rfl⟩
  | others => exact .kept ⟨rfl, rfl, rfl, rfl, rfl⟩

end HobitQueue
