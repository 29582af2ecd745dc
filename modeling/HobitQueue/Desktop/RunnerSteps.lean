import HobitQueue.Desktop.RunnerProtocol

/-!
# The steps of the autorun commands

A call moves its caller through the protocol and changes the session. All that the calls of
the commands can do to the session that callers rely on is listed once.
-/

namespace HobitQueue

open Concurrent

/-- The part of the world that the protocol is about. -/
structure RunnerView where
  session : Option QueueRunnerSessionId
  status : QueueRunnerStatus
  waiting : Option String
  requested : Bool
  nextIdSuffix : ℕ

def QueueRunnerWorld.view (w : QueueRunnerWorld) : RunnerView :=
  ⟨w.registry.snapshot.sessionId, w.registry.snapshot.status, w.registry.snapshot.waitingRunId,
    w.registry.startRequest.isSome, w.nextIdSuffix⟩

/-- There is no session. -/
def RunnerView.cleared (v : RunnerView) : RunnerView :=
  { v with session := none, status := .idle, waiting := none, requested := false }

/-- What lets a caller start a task. -/
inductive StartMark where
  /-- The caller armed a session. -/
  | armed
  /-- The caller claimed the continuation after the run that the session waited on. -/
  | claimed (runId : Option String)
  deriving DecidableEq

/-- The mark that a call and its answer give their caller. -/
def StartMark.of : (c : QueueRunnerCall) → c.Answer → Option StartMark
  | .startSessionWithRuntimeConfig .., .ok _ => some armed
  | .tryMarkContinuationStarting _, some snapshot => some (claimed snapshot.waitingRunId)
  | _, _ => none

/-- What a call and its answer are about. -/
inductive RunnerLabel where
  | armed
  | stopped
  /-- The caller is told to continue after the run. -/
  | told (runId : String)
  /-- The caller claims the continuation after the run that the session waited on. -/
  | claimed (runId : Option String)
  /-- The caller starts a task, and this is the last mark it got. -/
  | startedTask (mark : Option StartMark)
  | other
  deriving DecidableEq

/-- What a call and its answer are about, for a caller with this last mark. -/
def runnerLabel (mark : Option StartMark) : (c : QueueRunnerCall) → c.Answer → RunnerLabel
  | .startSessionWithRuntimeConfig .., .ok _ => .armed
  | .stopSession, _ => .stopped
  | .observeWaitingRunForReconciliation runId _ _, observed =>
      if observed.shouldContinueAfterSuccess then .told runId else .other
  | .tryMarkContinuationStarting _, some snapshot => .claimed snapshot.waitingRunId
  | .startAssignedAgentQueueTask _, .ok _ => .startedTask mark
  | _, _ => .other

/-- The mark with which a caller is about to start a task. -/
def RunnerPhase.mark : RunnerPhase → Option StartMark
  | armed _ => some .armed
  | claimed _ runId => some (.claimed runId)
  | _ => none

/-- A caller that is about to start a task is so by the call it made, or was so before. -/
theorem RunnerPhase.mark_next {g : RunnerPhase} {c : QueueRunnerCall} {answer : c.Answer}
    (h : (g.next c answer).mark ≠ none) :
    (g.next c answer).mark = (StartMark.of c answer).or g.mark := by
  have hsnapshot : ∀ snapshot, (ofSnapshot snapshot).mark = none := by
    intro snapshot
    obtain hrests | ⟨_, _, hlooks⟩ := quiet_ofSnapshot snapshot
    · rw [hrests]
      rfl
    · rw [hlooks]
      rfl
  cases c with
  | startSessionWithRuntimeConfig =>
    cases answer with
    | ok snapshot => rfl
    | error e => exact absurd rfl h
  | tryMarkContinuationStarting =>
    cases answer with
    | some snapshot => rfl
    | none => exact absurd rfl h
  | startAssignedAgentQueueTask =>
    cases answer with
    | ok response => exact absurd rfl h
    | error e => rfl
  | observeWaitingRunForReconciliation =>
    simp only [next] at h
    split at h <;> exact absurd rfl h
  | snapshot => exact absurd (hsnapshot answer) h
  | startRequest => cases g <;> cases answer <;> rfl
  | listAgentQueueTasks =>
    cases answer with
    | ok tasks => rfl
    | error e => cases g <;> first | rfl | exact absurd rfl h
  | getWidgetRun | recordAgentQueueTaskRunFinalStatus => rfl
  | _ => exact absurd rfl h

/-- What a call can do: to the view of the world, and to the phase of its caller. -/
inductive CallerStep (v : RunnerView) : RunnerPhase → RunnerLabel → RunnerView → RunnerPhase → Prop
  | arm {sessionId : QueueRunnerSessionId} (hinactive : v.status.isActive = false) :
      CallerStep v .resting .armed
        { v with session := some sessionId, status := .armed, waiting := none, requested := true }
        (.armed (some sessionId))
  | clear (h : v.session = none ∨ v.status = .idle) :
      CallerStep v .resting .stopped v.cleared .resting
  | stop (hsession : v.session ≠ none) :
      CallerStep v .resting .stopped { v with status := .stopped } .resting
  | keep {g : RunnerPhase} : CallerStep v g .other v g
  | rest {g : RunnerPhase} : CallerStep v g .other v .resting
  | look {g : RunnerPhase} {runId : String} (hg : g.Quiet)
      (hstatus : v.status = .waitingForExecutor) (hrun : v.waiting = some runId) :
      CallerStep v g .other v (.observing v.session runId)
  | tell {session : Option QueueRunnerSessionId} {runId : String}
      (hstatus : v.status = .waitingForExecutor) (hrun : v.waiting = some runId) :
      CallerStep v (.observing session runId) (.told runId) { v with status := .selectingTask }
        (.told session)
  | over {session : Option QueueRunnerSessionId} {runId : String}
      (hstatus : v.status = .waitingForExecutor) (hrun : v.waiting = some runId) :
      CallerStep v (.observing session runId) .other { v with status := .stopped } .resting
  | request {g : RunnerPhase} {sessionId : QueueRunnerSessionId} (hg : g.Continues) :
      CallerStep v g .other v (.requested sessionId)
  | lose {g : RunnerPhase} (hg : g.Continues) (hnone : v.requested = false) :
      CallerStep v g .other v (.lost g.session)
  | claim {sessionId : QueueRunnerSessionId} (hsession : v.session = some sessionId)
      (hstatus : v.status = .selectingTask) :
      CallerStep v (.requested sessionId) (.claimed v.waiting) { v with status := .startingTask }
        (.claimed v.session v.waiting)
  | work {g : RunnerPhase} {queueItemId idPrefix : String} {unixNanos suffix : ℕ}
      (hg : (∃ session, g = .armed session) ∨ ∃ session runId, g = .claimed session runId)
      (hsuffix : v.nextIdSuffix ≤ suffix) :
      CallerStep v g (.startedTask g.mark) { v with nextIdSuffix := suffix + 1 }
        (.started g.session queueItemId (placeholderId idPrefix unixNanos suffix))
  | report {session : Option QueueRunnerSessionId} {queueItemId runId : String} :
      CallerStep v (.started session queueItemId runId) .other
        { v with status := .waitingForExecutor, waiting := some runId } .resting
  | finish {g : RunnerPhase} {status : QueueRunnerStatus}
      (hg : g.InFlight ∨ ∃ session, g = .lost session)
      (hsession : v.session ≠ none) (hstatus : status = .stopped ∨ status = .completed) :
      CallerStep v g .other { v with status := status, waiting := none } .resting
  | finishNone {g : RunnerPhase} (hg : g.InFlight ∨ ∃ session, g = .lost session)
      (hsession : v.session = none) : CallerStep v g .other v.cleared .resting

theorem view_cleared (w : QueueRunnerWorld) :
    QueueRunnerWorld.view { w with registry := w.registry.cleared } = w.view.cleared := rfl

/-- The methods that end a session do so, if there is one. -/
theorem callerStep_ended {w : QueueRunnerWorld} {g : RunnerPhase}
    {snapshot : QueueRunnerSnapshot} (hg : g.InFlight ∨ ∃ session, g = .lost session)
    (hsession : snapshot.sessionId = w.registry.snapshot.sessionId)
    (hstatus : snapshot.status = .stopped ∨ snapshot.status = .completed)
    (hwaiting : snapshot.waitingRunId = none) :
    CallerStep w.view g .other (w.method (·.ended snapshot)).2.view .resting := by
  by_cases hnone : w.registry.snapshot.sessionId.isNone = true
  · have hended : (w.method (·.ended snapshot)).2 = { w with registry := w.registry.cleared } := by
      simp [QueueRunnerWorld.method, QueueRunnerSessionState.ended, hnone]
    rw [hended, view_cleared]
    exact .finishNone hg (Option.isNone_iff_eq_none.1 hnone)
  · have hended : (w.method (·.ended snapshot)).2.view =
        { w.view with status := snapshot.status, waiting := none } := by
      simp [QueueRunnerWorld.method, QueueRunnerSessionState.ended, hnone, QueueRunnerWorld.view,
        hsession, hwaiting]
    rw [hended]
    refine .finish hg ?_ hstatus
    simpa [QueueRunnerWorld.view] using hnone

theorem callerStep_startSession {w : QueueRunnerWorld} {workspaceId executorId : String}
    {policy : QueueRunnerPolicy} {config : QueueRunnerRuntimeConfig} {o : RunnerOutside} :
    let c := QueueRunnerCall.startSessionWithRuntimeConfig workspaceId executorId policy config
    CallerStep w.view .resting (runnerLabel RunnerPhase.resting.mark c (w.handle o c).1)
      (w.handle o c).2.view (RunnerPhase.resting.next c (w.handle o c).1) := by
  intro c
  have hhandle : w.handle o c = w.method (·.startSessionWithRuntimeConfig workspaceId executorId
      policy config) := rfl
  rw [hhandle, QueueRunnerWorld.method]
  unfold QueueRunnerSessionState.startSessionWithRuntimeConfig
  split
  · exact .keep
  split
  · exact .keep
  · rename_i hactive
    exact .arm (Bool.eq_false_iff.2 hactive)

theorem callerStep_stopSession {w : QueueRunnerWorld} {o : RunnerOutside} :
    CallerStep w.view .resting .stopped (w.handle o .stopSession).2.view .resting := by
  have hhandle : (w.handle o .stopSession).2 =
      { w with registry := w.registry.stopSession.2 } := rfl
  rw [hhandle, QueueRunnerSessionState.stopSession]
  dsimp only
  split
  · rename_i h
    rw [view_cleared]
    exact .clear (by simpa [QueueRunnerWorld.view] using h)
  rename_i h
  rw [not_or, Option.isNone_iff_eq_none] at h
  split
  · exact .stop h.1
  · rename_i hstopped
    have hview : w.view = { w.view with status := .stopped } := by
      simp only [QueueRunnerWorld.view, RunnerView.mk.injEq, true_and, and_true]
      exact not_not.1 hstopped
    have hstop : CallerStep w.view .resting .stopped { w.view with status := .stopped } .resting :=
      .stop h.1
    rw [← hview] at hstop
    exact hstop

theorem callerStep_observe {w : QueueRunnerWorld} {o : RunnerOutside}
    {session : Option QueueRunnerSessionId} {runId status : String} {isFinished : Bool} :
    let c := QueueRunnerCall.observeWaitingRunForReconciliation runId status isFinished
    let g := RunnerPhase.observing session runId
    CallerStep w.view g (runnerLabel g.mark c (w.handle o c).1) (w.handle o c).2.view
      (g.next c (w.handle o c).1) := by
  intro c g
  have hhandle : w.handle o c = w.method (·.observeWaitingRunForReconciliation o.now runId status
      isFinished) := rfl
  rw [hhandle, QueueRunnerWorld.method, QueueRunnerSessionState.observeWaitingRunForReconciliation]
  split
  · exact .rest
  rename_i hwaits
  obtain ⟨hstatus, hrun⟩ := not_not.1 hwaits
  split
  · exact .rest
  · rename_i observation hobservation
    obtain hcompleted | hstopped := observation.status_of_fromRunStatus hobservation
    · simp only [hcompleted]
      exact .tell hstatus hrun
    · simp only [hstopped]
      exact .over hstatus hrun

theorem callerStep_observeMissing {w : QueueRunnerWorld} {o : RunnerOutside}
    {session : Option QueueRunnerSessionId} {runId : String} :
    CallerStep w.view (.observing session runId) .other
      (w.handle o (.observeMissingWaitingRun runId)).2.view .resting := by
  have hhandle : (w.handle o (.observeMissingWaitingRun runId)).2 =
      { w with registry := (w.registry.observeMissingWaitingRun o.now runId).2 } := rfl
  rw [hhandle, QueueRunnerSessionState.observeMissingWaitingRun]
  dsimp only
  split
  · exact .rest
  · rename_i hwaits
    obtain ⟨hstatus, hrun⟩ := not_not.1 hwaits
    exact .over hstatus hrun

theorem callerStep_tryMark {w : QueueRunnerWorld} {o : RunnerOutside}
    {sessionId : QueueRunnerSessionId} :
    let c := QueueRunnerCall.tryMarkContinuationStarting sessionId
    let g := RunnerPhase.requested sessionId
    CallerStep w.view g (runnerLabel g.mark c (w.handle o c).1) (w.handle o c).2.view
      (g.next c (w.handle o c).1) := by
  intro c g
  have hhandle : w.handle o c = w.method (·.tryMarkContinuationStarting sessionId) := rfl
  rw [hhandle, QueueRunnerWorld.method, QueueRunnerSessionState.tryMarkContinuationStarting]
  split
  · exact .rest
  · rename_i hmark
    rw [not_or, not_not, not_not] at hmark
    exact .claim hmark.1 hmark.2

theorem callerStep_snapshot {w : QueueRunnerWorld} {o : RunnerOutside} {g : RunnerPhase}
    (hg : g.Quiet) : CallerStep w.view g .other (w.handle o .snapshot).2.view
      (g.next .snapshot (w.handle o .snapshot).1) := by
  change CallerStep w.view g .other w.view (RunnerPhase.ofSnapshot w.registry.snapshot)
  unfold RunnerPhase.ofSnapshot
  split
  · exact .rest
  rename_i hstatus
  split
  · exact .rest
  · rename_i runId hrun
    exact .look hg (not_not.1 hstatus) hrun

theorem callerStep_startRequest {w : QueueRunnerWorld} {o : RunnerOutside} {g : RunnerPhase}
    (hg : g.Continues) : CallerStep w.view g .other (w.handle o .startRequest).2.view
      (g.next .startRequest (w.handle o .startRequest).1) := by
  have hhandle : w.handle o .startRequest = (w.registry.startRequest, w) := rfl
  rw [RunnerPhase.continues_next_startRequest hg, hhandle]
  cases hrequest : w.registry.startRequest with
  | none => exact .lose hg (by simp [QueueRunnerWorld.view, hrequest])
  | some startRequest => exact .request hg

theorem handle_startAssignedAgentQueueTask {w : QueueRunnerWorld} {o : RunnerOutside}
    {request : StartAssignedAgentQueueTaskInput} :
    w.handle o (.startAssignedAgentQueueTask request) =
      match o.startAssignedAgentQueueTask request with
      | .error e => (.error e, w)
      | .ok worker => (.ok (w.startWorker worker).1, (w.startWorker worker).2) := rfl

theorem callerStep_startWorker {w : QueueRunnerWorld} {o : RunnerOutside} {g : RunnerPhase}
    {request : StartAssignedAgentQueueTaskInput}
    (hg : (∃ session, g = .armed session) ∨ ∃ session runId, g = .claimed session runId) :
    let c := QueueRunnerCall.startAssignedAgentQueueTask request
    CallerStep w.view g (runnerLabel g.mark c (w.handle o c).1) (w.handle o c).2.view
      (g.next c (w.handle o c).1) := by
  intro c
  have hhandle := @handle_startAssignedAgentQueueTask w o request
  cases hworker : o.startAssignedAgentQueueTask request with
  | error e =>
    rw [hworker] at hhandle
    rw [hhandle]
    exact .keep
  | ok worker =>
    rw [hworker] at hhandle
    rw [hhandle]
    exact .work hg (Nat.le_add_right _ _)

/-- **Every call of the protocol is one of the steps.** -/
theorem callerStep_handle {g : RunnerPhase} {c : QueueRunnerCall} (hallowed : g.Allows c)
    (o : RunnerOutside) (w : QueueRunnerWorld) :
    CallerStep w.view g (runnerLabel g.mark c (w.handle o c).1) (w.handle o c).2.view
      (g.next c (w.handle o c).1) := by
  cases c with
  | startSessionWithRuntimeConfig =>
    cases g <;> first | exact hallowed.elim | exact callerStep_startSession
  | stopSession => cases g <;> first | exact hallowed.elim | exact callerStep_stopSession
  | stopWithReason reason =>
    cases g <;> first
      | exact hallowed.elim
      | exact callerStep_ended (Or.inl trivial) rfl (Or.inl rfl) rfl
  | stopAfterFinalStatus reason =>
    cases g <;> first
      | exact hallowed.elim
      | exact callerStep_ended (Or.inl trivial) rfl (Or.inl rfl) rfl
      | exact callerStep_ended (Or.inr ⟨_, rfl⟩) rfl (Or.inl rfl) rfl
  | completeWithoutContinuation reason =>
    cases g <;> first
      | exact hallowed.elim
      | exact callerStep_ended (Or.inl trivial) rfl (Or.inr rfl) rfl
  | waitingForExecutor queueItemId runId =>
    cases g <;> try exact hallowed.elim
    obtain ⟨rfl, rfl⟩ := hallowed
    exact .report
  | waitingForExecutorAfterContinuation queueItemId runId =>
    cases g <;> try exact hallowed.elim
    obtain ⟨rfl, rfl⟩ := hallowed
    exact .report
  | observeWaitingRunForReconciliation runId status isFinished =>
    cases g <;> try exact hallowed.elim
    obtain rfl := hallowed
    exact callerStep_observe
  | observeMissingWaitingRun runId =>
    cases g <;> try exact hallowed.elim
    obtain rfl := hallowed
    exact callerStep_observeMissing
  | tryMarkContinuationStarting sessionId =>
    cases g <;> try exact hallowed.elim
    obtain rfl := hallowed
    exact callerStep_tryMark
  | tryClaimTickLoop =>
    have hview : (w.handle o .tryClaimTickLoop).2.view = w.view := by
      change QueueRunnerWorld.view { w with registry := w.registry.tryClaimTickLoop.2 } = w.view
      unfold QueueRunnerSessionState.tryClaimTickLoop
      split
      · rfl
      split
      · rfl
      split
      · rfl
      · rfl
    rw [hview]
    exact .rest
  | releaseTickLoop sessionId =>
    have hview : (w.handle o (.releaseTickLoop sessionId)).2.view = w.view := by
      change QueueRunnerWorld.view
        { w with registry := (w.registry.releaseTickLoop sessionId).2 } = w.view
      unfold QueueRunnerSessionState.releaseTickLoop
      dsimp only
      split
      · rfl
      · rfl
    rw [hview]
    exact .rest
  | tickLoopShouldContinue sessionId => exact .rest
  | snapshot =>
    cases g <;> try exact hallowed.elim
    exact callerStep_snapshot (Or.inl rfl)
  | startRequest =>
    cases g <;> first
      | exact hallowed.elim
      | exact .keep
      | exact callerStep_startRequest trivial
  | getWidgetRun runId => exact .keep
  | recordAgentQueueTaskRunFinalStatus input => exact .keep
  | listAgentQueueTasks workspaceId =>
    have hhandle : w.handle o (.listAgentQueueTasks workspaceId) =
      (o.listAgentQueueTasks workspaceId, w) := rfl
    rw [hhandle]
    cases o.listAgentQueueTasks workspaceId with
    | ok tasks => exact .keep
    | error e => cases g <;> first | exact hallowed.elim | exact .keep | exact .rest
  | startAssignedAgentQueueTask request =>
    cases g <;> first
      | exact hallowed.elim
      | exact callerStep_startWorker (Or.inl ⟨_, rfl⟩)
      | exact callerStep_startWorker (Or.inr ⟨_, _, rfl⟩)

end HobitQueue
