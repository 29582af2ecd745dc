import HobitQueue.Desktop.RunnerCommands

/-!
# The protocol of the autorun commands

How far a caller of the runner is decides which calls it may make next: it observes the run
that it saw the session wait on, it claims the continuation that it was told of, and it ends
a start with exactly one call. The scripts of all commands follow this protocol.
-/

namespace HobitQueue

open Concurrent Script

/-- How far a caller is. -/
inductive RunnerPhase where
  /-- It works on nothing. -/
  | resting
  /-- It saw the session wait on the run. -/
  | observing (session : Option QueueRunnerSessionId) (runId : String)
  /-- It was told to continue. -/
  | told (session : Option QueueRunnerSessionId)
  /-- It read the request of the session that it is going to continue. -/
  | requested (sessionId : QueueRunnerSessionId)
  /-- It was told to continue, and found no request. -/
  | lost (session : Option QueueRunnerSessionId)
  /-- It armed the session. -/
  | armed (session : Option QueueRunnerSessionId)
  /-- It claimed the continuation after the run. -/
  | claimed (session : Option QueueRunnerSessionId) (runId : Option String)
  /-- It started a worker for the session. -/
  | started (session : Option QueueRunnerSessionId) (queueItemId runId : String)

namespace RunnerPhase

/-- The caller is in the middle of a start. -/
def InFlight : RunnerPhase → Prop
  | armed _ | claimed .. | started .. => True
  | _ => False

instance : DecidablePred InFlight := fun g => by
  cases g <;> unfold InFlight <;> infer_instance

/-- The session that the caller works for. -/
def session : RunnerPhase → Option QueueRunnerSessionId
  | resting => none
  | observing session _ | told session | lost session | armed session | claimed session _
  | started session _ _ => session
  | requested sessionId => some sessionId

/-- The calls of a caller. -/
def Allows : RunnerPhase → QueueRunnerCall → Prop
  | resting, c => match c with
      | .startSessionWithRuntimeConfig .. | .stopSession | .snapshot | .startRequest
      | .recordAgentQueueTaskRunFinalStatus _ | .tryClaimTickLoop | .releaseTickLoop _
      | .tickLoopShouldContinue _ => True
      | _ => False
  | observing _ runId, c => match c with
      | .getWidgetRun _ | .tickLoopShouldContinue _ => True
      | .observeWaitingRunForReconciliation runId' _ _ | .observeMissingWaitingRun runId' =>
          runId' = runId
      | _ => False
  | told _, c => match c with
      | .startRequest | .recordAgentQueueTaskRunFinalStatus _ => True
      | _ => False
  | requested sessionId, c => match c with
      | .startRequest | .recordAgentQueueTaskRunFinalStatus _ => True
      | .tryMarkContinuationStarting sessionId' => sessionId' = sessionId
      | _ => False
  | lost _, c => match c with
      | .startRequest | .recordAgentQueueTaskRunFinalStatus _ | .stopAfterFinalStatus _ => True
      | _ => False
  | armed _, c => match c with
      | .listAgentQueueTasks _ | .startAssignedAgentQueueTask _ | .stopWithReason _ => True
      | _ => False
  | claimed .., c => match c with
      | .listAgentQueueTasks _ | .startAssignedAgentQueueTask _ | .stopAfterFinalStatus _
      | .completeWithoutContinuation _ => True
      | _ => False
  | started _ queueItemId runId, c => match c with
      | .waitingForExecutor queueItemId' runId'
      | .waitingForExecutorAfterContinuation queueItemId' runId' =>
          queueItemId' = queueItemId ∧ runId' = runId
      | _ => False

/-- The caller has read a snapshot. -/
def ofSnapshot (snapshot : QueueRunnerSnapshot) : RunnerPhase :=
  if snapshot.status ≠ .waitingForExecutor then resting
  else match snapshot.waitingRunId with
    | none => resting
    | some runId => observing snapshot.sessionId runId

/-- The caller has read the request of the session. -/
def ofRequest (session : Option QueueRunnerSessionId) :
    Option QueueRunnerStartRequest → RunnerPhase
  | none => lost session
  | some startRequest => requested startRequest.sessionId

/-- Where a call and its answer take a caller. -/
def next (g : RunnerPhase) : (c : QueueRunnerCall) → c.Answer → RunnerPhase
  | .startSessionWithRuntimeConfig .., .ok snapshot => armed snapshot.sessionId
  | .startSessionWithRuntimeConfig .., .error _ => resting
  | .snapshot, snapshot => ofSnapshot snapshot
  | .observeWaitingRunForReconciliation .., observed =>
      if observed.shouldContinueAfterSuccess then told g.session else resting
  | .startRequest, request => match g with
      | told session | lost session => ofRequest session request
      | requested sessionId => ofRequest (some sessionId) request
      | g => g
  | .tryMarkContinuationStarting _, some snapshot =>
      claimed snapshot.sessionId snapshot.waitingRunId
  | .startAssignedAgentQueueTask _, .ok response =>
      started g.session response.queueItemId response.runId
  -- the start command gives up without a call of the registry
  | .listAgentQueueTasks _, .error _ => match g with
      | armed _ => resting
      | g => g
  | .getWidgetRun _, _ | .recordAgentQueueTaskRunFinalStatus _, _
  | .listAgentQueueTasks _, .ok _ | .startAssignedAgentQueueTask _, .error _ => g
  | _, _ => resting

/-- The caller is between two tasks. -/
def Quiet (g : RunnerPhase) : Prop := g = resting ∨ ∃ session runId, g = observing session runId

theorem quiet_ofSnapshot (snapshot : QueueRunnerSnapshot) : (ofSnapshot snapshot).Quiet := by
  unfold ofSnapshot
  split
  · exact Or.inl rfl
  split
  · exact Or.inl rfl
  · exact Or.inr ⟨_, _, rfl⟩

/-- The caller may go on to claim a continuation. -/
def Continues : RunnerPhase → Prop
  | told _ | requested _ | lost _ => True
  | _ => False

theorem Continues.allows {g : RunnerPhase} (h : g.Continues) : g.Allows .startRequest := by
  cases g <;> trivial

theorem continues_next_startRequest {g : RunnerPhase} (h : g.Continues)
    (request : Option QueueRunnerStartRequest) :
    g.next .startRequest request = match request with
      | none => lost g.session
      | some startRequest => requested startRequest.sessionId := by
  cases g <;> simp only [Continues] at h <;> cases request <;> rfl

end RunnerPhase

open RunnerPhase

/-! ## The scripts -/

/-- A script that keeps to the protocol. -/
abbrev RunnerFollows {α : Type} (p : RunnerScript α) (post : RunnerPhase → α → Prop)
    (g : RunnerPhase) : Prop :=
  p.Follows RunnerPhase.Allows RunnerPhase.next post g

theorem follows_ask {c : QueueRunnerCall} {g : RunnerPhase} {post : RunnerPhase → c.Answer → Prop}
    (hc : g.Allows c) (h : ∀ answer, post (g.next c answer) answer) :
    RunnerFollows (ask c) post g := follows_perform hc h

theorem follows_ask_bind {c : QueueRunnerCall} {β : Type} {g : RunnerPhase}
    {f : c.Answer → RunnerScript β} {post : RunnerPhase → β → Prop} (hc : g.Allows c)
    (hf : ∀ answer, RunnerFollows (f answer) post (g.next c answer)) :
    RunnerFollows (ask c >>= f) post g := follows_perform_bind hc hf

theorem follows_startOnce (request : StartAgentQueueRunnerSessionRequest) :
    RunnerFollows (startAgentQueueRunnerSessionOnce request)
      (fun g result => result.isOk → g = resting) resting := by
  unfold startAgentQueueRunnerSessionOnce
  refine follows_ask_bind trivial fun armed => ?_
  cases armed with
  | error e => exact follows_pure (by simp [Except.isOk, Except.toBool])
  | ok snapshot =>
    dsimp only
    split
    · exact follows_ask_bind trivial fun _ => follows_pure fun _ => rfl
    refine follows_ask_bind trivial fun tasks => ?_
    cases tasks with
    | error e => exact follows_pure (by simp [Except.isOk, Except.toBool])
    | ok tasks =>
      dsimp only
      split
      · exact follows_ask_bind trivial fun _ => follows_pure fun _ => rfl
      refine follows_ask_bind trivial fun started => ?_
      cases started with
      | error e =>
        exact follows_ask_bind trivial fun _ =>
          follows_pure (by simp [Except.isOk, Except.toBool])
      | ok response =>
        exact follows_ask_bind ⟨rfl, rfl⟩ fun _ => follows_pure fun _ => rfl

theorem follows_continue {g : RunnerPhase} (h : g.Continues) :
    RunnerFollows continueAgentQueueRunnerAfterSuccess (fun g _ => g.Quiet) g := by
  unfold continueAgentQueueRunnerAfterSuccess
  refine follows_ask_bind h.allows fun request => ?_
  rw [continues_next_startRequest h]
  cases request with
  | none => exact follows_ask trivial fun _ => Or.inl rfl
  | some startRequest =>
    refine follows_ask_bind rfl fun marked => ?_
    cases marked with
    | none => exact follows_ask trivial quiet_ofSnapshot
    | some snapshot =>
      dsimp only
      split
      · exact follows_ask_bind trivial fun _ => follows_pure (Or.inl rfl)
      refine follows_ask_bind trivial fun tasks => ?_
      cases tasks with
      | error e => exact follows_ask trivial fun _ => Or.inl rfl
      | ok tasks =>
        dsimp only
        split
        · exact follows_ask trivial fun _ => Or.inl rfl
        · exact follows_ask trivial fun _ => Or.inl rfl
        refine follows_ask_bind trivial fun started => ?_
        cases started with
        | error e => exact follows_ask trivial fun _ => Or.inl rfl
        | ok response => exact follows_ask ⟨rfl, rfl⟩ fun _ => Or.inl rfl

/-- Recording a finished run reads the request, and leaves the caller where it was told to
continue or not. -/
theorem follows_recordFinishedRun {g : RunnerPhase} (h : g.Continues ∨ g = resting)
    (snapshot : QueueRunnerSnapshot) (runId : String) (run : ObservedWidgetRun) :
    RunnerFollows (recordFinishedRun snapshot runId run)
      (fun g' _ => (g.Continues → g'.Continues) ∧ (g = resting → g' = resting)) g := by
  have hrecord : ∀ startRequest (g' : RunnerPhase), g'.Continues ∨ g' = resting →
      (g.Continues → g'.Continues) → (g = resting → g' = resting) →
      RunnerFollows (recordAutorunRunLinkFinalStatus startRequest snapshot runId run.status
        run.finishedAt)
        (fun g' _ => (g.Continues → g'.Continues) ∧ (g = resting → g' = resting)) g' := by
    intro startRequest g' hg' hcontinues hresting
    unfold recordAutorunRunLinkFinalStatus
    split
    · exact follows_pure ⟨hcontinues, hresting⟩
    · refine follows_ask ?_ fun _ => ⟨hcontinues, hresting⟩
      obtain hg' | rfl := hg'
      · cases g' <;> trivial
      · trivial
  unfold recordFinishedRun
  split
  · obtain hcontinues | rfl := h
    · refine follows_ask_bind hcontinues.allows fun request => ?_
      rw [continues_next_startRequest hcontinues]
      have hne : g ≠ resting := by
        rintro rfl
        exact hcontinues
      cases request with
      | none => exact follows_pure ⟨fun _ => trivial, fun hg => absurd hg hne⟩
      | some startRequest =>
        exact hrecord _ _ (Or.inl trivial) (fun _ => trivial) fun hg => absurd hg hne
    · refine follows_ask_bind trivial fun request => ?_
      cases request with
      | none => exact follows_pure ⟨False.elim, fun _ => rfl⟩
      | some startRequest => exact hrecord _ _ (Or.inr rfl) False.elim fun _ => rfl
  · exact follows_pure ⟨id, id⟩

theorem follows_reconcileWaitingRun (snapshot : QueueRunnerSnapshot)
    (session : Option QueueRunnerSessionId) (runId : String) :
    RunnerFollows (reconcileWaitingRun snapshot runId) (fun g _ => g.Quiet)
      (observing session runId) := by
  unfold reconcileWaitingRun
  refine follows_ask_bind trivial fun run => ?_
  cases run with
  | error e => exact follows_pure (Or.inr ⟨_, _, rfl⟩)
  | ok run =>
    cases run with
    | none => exact follows_ask rfl fun _ => Or.inl rfl
    | some run =>
      refine follows_ask_bind rfl fun observed => ?_
      change RunnerFollows _ _
        (if observed.shouldContinueAfterSuccess then told session else resting)
      by_cases htold : observed.shouldContinueAfterSuccess = true
      · simp only [if_pos htold]
        refine (@follows_recordFinishedRun (told session) (Or.inl trivial) _ _ _).bind ?_
        rintro g - ⟨hg, -⟩
        exact follows_continue (hg trivial)
      · simp only [if_neg htold]
        refine (@follows_recordFinishedRun resting (Or.inr rfl) _ _ _).bind ?_
        rintro g - ⟨-, hg⟩
        exact follows_pure (Or.inl (hg rfl))

theorem follows_reconcile :
    RunnerFollows reconcileAgentQueueRunnerSnapshotFromRegistry (fun g _ => g.Quiet)
      resting := by
  unfold reconcileAgentQueueRunnerSnapshotFromRegistry
  refine follows_ask_bind trivial fun snapshot => ?_
  split
  · exact follows_pure (quiet_ofSnapshot _)
  rename_i hstatus
  split
  · exact follows_pure (quiet_ofSnapshot _)
  · rename_i runId hrun
    have hnext : next resting .snapshot snapshot = observing snapshot.sessionId runId := by
      change ofSnapshot snapshot = _
      rw [ofSnapshot, if_neg hstatus, hrun]
    rw [hnext]
    exact follows_reconcileWaitingRun _ _ _

theorem follows_tickLoop (sessionId : QueueRunnerSessionId) (ticks : ℕ) {g : RunnerPhase}
    (hg : g.Quiet) : RunnerFollows (tickLoop sessionId ticks) (fun _ _ => True) g := by
  induction ticks generalizing g with
  | zero => exact follows_pure trivial
  | succ ticks ih =>
    have hallows : ∀ g : RunnerPhase, g.Quiet → g.Allows (.tickLoopShouldContinue sessionId) := by
      rintro g (rfl | ⟨_, _, rfl⟩) <;> trivial
    unfold tickLoop
    refine follows_ask_bind (hallows g hg) fun goesOn => ?_
    split
    · exact follows_ask_bind trivial fun _ => follows_pure trivial
    refine follows_reconcile.bind fun g' _ hg' => ?_
    refine follows_ask_bind (hallows g' hg') fun goesOn => ?_
    split
    · exact follows_ask_bind trivial fun _ => follows_pure trivial
    · exact ih (Or.inl rfl)

/-- **The commands follow the protocol.** -/
theorem RunnerCommand.follows (command : RunnerCommand) :
    RunnerFollows command.script (fun _ _ => True) resting := by
  cases command with
  | start request ticks =>
    refine (follows_startOnce request).bind fun g result hg => ?_
    cases result with
    | error e => exact follows_pure trivial
    | ok snapshot =>
      obtain rfl := hg rfl
      refine follows_ask_bind trivial fun claimed => ?_
      cases claimed with
      | none => exact follows_pure trivial
      | some sessionId => exact follows_tickLoop sessionId ticks (Or.inl rfl)
  | stop => exact follows_ask_bind trivial fun _ => follows_pure trivial
  | getSnapshot => exact follows_reconcile.bind fun _ _ _ => follows_pure trivial

end HobitQueue
