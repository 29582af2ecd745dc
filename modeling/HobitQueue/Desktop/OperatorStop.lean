import HobitQueue.Desktop.Continuations
import Mathlib.Data.Fintype.Basic

/-!
# The operator's stop

A start is several calls of the registry with a worker start in between, and the call that
ends it overwrites the session without a look. So an operator's stop is final, and sessions
do not disturb each other, as long as no stop lands between the claim of a start and its
report, and no session is armed before the starts of the last one have ended.
-/

namespace HobitQueue

open Concurrent

/-- The call starts a task, or reports a started one to the registry. -/
def QueueRunnerCall.StartsOrReports : QueueRunnerCall → Prop
  | startAssignedAgentQueueTask _ | waitingForExecutor ..
  | waitingForExecutorAfterContinuation .. => True
  | _ => False

instance : DecidablePred QueueRunnerCall.StartsOrReports := fun c => by
  cases c <;> unfold QueueRunnerCall.StartsOrReports <;> infer_instance

/-- The call arms a session. -/
def QueueRunnerCall.Arms : QueueRunnerCall → Prop
  | startSessionWithRuntimeConfig .. => True
  | _ => False

instance : DecidablePred QueueRunnerCall.Arms := fun c => by
  cases c <;> unfold QueueRunnerCall.Arms <;> infer_instance

theorem CallerStep.inactive_of_stopped {v v' : RunnerView} {g g' : RunnerPhase}
    (h : CallerStep v g .stopped v' g') : v'.status.isActive = false := by
  cases h <;> rfl

theorem CallerStep.inactive_of_armed {v v' : RunnerView} {g g' : RunnerPhase}
    (h : CallerStep v g .armed v' g') : v.status.isActive = false := by
  generalize hl : RunnerLabel.armed = l at h
  cases h with
  | arm hinactive => exact hinactive
  | _ => cases hl

/-- An inactive session stays so, but for an arming or the report of a started task. -/
theorem CallerStep.inactive {v v' : RunnerView} {g g' : RunnerPhase} {l : RunnerLabel}
    (h : CallerStep v g l v' g') (hinactive : v.status.isActive = false) (harm : l ≠ .armed)
    (hreport : ∀ session queueItemId runId, g ≠ .started session queueItemId runId) :
    v'.status.isActive = false := by
  cases h with
  | arm => exact absurd rfl harm
  | clear | stop | «over» | finishNone => rfl
  | keep | rest | look | request | lose | work => exact hinactive
  | tell hstatus => simp [hstatus, QueueRunnerStatus.isActive] at hinactive
  | claim _ hstatus => simp [hstatus, QueueRunnerStatus.isActive] at hinactive
  | report => exact absurd rfl (hreport _ _ _)
  | finish _ _ hstatus =>
    obtain rfl | rfl := hstatus
    · rfl
    · rfl

section Callers

variable {ι : Type}

/-- The event is a stop of the operator. -/
def stopsSession (e : Event ι QueueRunnerCall QueueRunnerCall.Answer) : Prop :=
  match e.call with
  | .stopSession => True
  | _ => False

/-- A session has been started. -/
def armsSession (e : Event ι QueueRunnerCall QueueRunnerCall.Answer) : Prop :=
  match e.call, e.answer with
  | .startSessionWithRuntimeConfig .., .ok _ => True
  | _, _ => False

/-- A task has been started. -/
def startsTask (e : Event ι QueueRunnerCall QueueRunnerCall.Answer) : Prop :=
  match e.call, e.answer with
  | .startAssignedAgentQueueTask _, .ok _ => True
  | _, _ => False

theorem runnerLabel_stopped {mark : Option StartMark}
    {e : Event ι QueueRunnerCall QueueRunnerCall.Answer} (h : stopsSession e) :
    runnerLabel mark e.call e.answer = .stopped := by
  obtain ⟨i, c, answer⟩ := e
  cases c <;> first | rfl | exact h.elim

theorem armsSession_of_label {mark : Option StartMark}
    {e : Event ι QueueRunnerCall QueueRunnerCall.Answer}
    (h : runnerLabel mark e.call e.answer = .armed) : armsSession e := by
  obtain ⟨i, c, answer⟩ := e
  revert h
  dsimp only
  unfold runnerLabel
  split
  · exact fun _ => trivial
  · simp
  · split <;> simp
  · simp
  · simp
  · simp

theorem arms_of_label {mark : Option StartMark} {c : QueueRunnerCall} {answer : c.Answer}
    (h : runnerLabel mark c answer = .armed) : c.Arms := by
  cases c with
  | startSessionWithRuntimeConfig => trivial
  | observeWaitingRunForReconciliation =>
    simp only [runnerLabel] at h
    split at h <;> cases h
  | tryMarkContinuationStarting => cases answer <;> cases h
  | startAssignedAgentQueueTask => cases answer <;> cases h
  | _ => cases h

/-- In the phase of a caller that started a task, its only calls are reports. -/
theorem RunnerPhase.startsOrReports_of_started {session : Option QueueRunnerSessionId}
    {queueItemId runId : String} {c : QueueRunnerCall}
    (h : (started session queueItemId runId).Allows c) : c.StartsOrReports := by
  cases c <;> trivial

theorem startsOrReports_of_startsTask {e : Event ι QueueRunnerCall QueueRunnerCall.Answer}
    (h : startsTask e) : e.call.StartsOrReports := by
  obtain ⟨i, c, answer⟩ := e
  cases c <;> trivial

variable [DecidableEq ι]

/-- A task starts, and is reported, while its session is active; a session is armed when no
start is in flight. -/
def Unovertaken (w : QueueRunnerWorld) (log : List (Event ι QueueRunnerCall QueueRunnerCall.Answer))
    (_ : ι) (c : QueueRunnerCall) : Prop :=
  (c.StartsOrReports → w.registry.snapshot.status.isActive = true) ∧
    (c.Arms → w.registry.snapshot.status.isActive = false →
      ∀ j, ¬ (phase RunnerPhase.next .resting log j).InFlight)

instance [Fintype ι] (w : QueueRunnerWorld)
    (log : List (Event ι QueueRunnerCall QueueRunnerCall.Answer)) (i : ι) (c : QueueRunnerCall) :
    Decidable (Unovertaken w log i c) :=
  inferInstanceAs (Decidable (_ ∧ _))

/-- Once the operator has stopped it, the session is inactive and starts no task until a
session is armed again. -/
def StopFinal (w : QueueRunnerWorld)
    (log : List (Event ι QueueRunnerCall QueueRunnerCall.Answer)) : Prop :=
  ∀ before e later, log = before ++ e :: later → stopsSession e →
    (∀ e' ∈ later, ¬ armsSession e') →
    w.registry.snapshot.status.isActive = false ∧ ∀ e' ∈ later, ¬ startsTask e'

/-! ## Stops -/

/-- **A call that is not overtaken respects the operator's stop.** -/
theorem StopFinal.call {w : QueueRunnerWorld}
    {log : List (Event ι QueueRunnerCall QueueRunnerCall.Answer)} {i : ι} {c : QueueRunnerCall}
    (h : StopFinal w log) (o : RunnerOutside)
    (hallowed : (phase RunnerPhase.next .resting log i).Allows c) (hcond : Unovertaken w log i c) :
    StopFinal (w.handle o c).2 (log ++ [⟨i, c, (w.handle o c).1⟩]) := by
  have hstep := callerStep_handle hallowed o w
  intro before e later hlog hstop harms
  obtain rfl | ⟨later', last, rfl⟩ := List.eq_nil_or_concat later
  · obtain ⟨rfl, hlast⟩ := List.append_inj' hlog rfl
    obtain rfl := (List.cons.inj hlast).1
    rw [runnerLabel_stopped hstop] at hstep
    exact ⟨hstep.inactive_of_stopped, by simp⟩
  · rw [List.concat_eq_append, ← List.cons_append, ← List.append_assoc] at hlog
    obtain ⟨rfl, hlast⟩ := List.append_inj' hlog rfl
    obtain rfl := (List.cons.inj hlast).1
    rw [List.concat_eq_append] at harms ⊢
    obtain ⟨hinactive, hnone⟩ := h before e later' rfl hstop fun e' he' =>
      harms e' (List.mem_append_left _ he')
    have hquiet : ¬ c.StartsOrReports := by
      intro hc
      exact absurd (hcond.1 hc) (by rw [hinactive]; simp)
    refine ⟨hstep.inactive hinactive ?_ ?_, ?_⟩
    · intro hlabel
      exact harms _ (List.mem_append_right _ (List.mem_singleton.2 rfl))
        (armsSession_of_label hlabel)
    · intro session queueItemId runId hphase
      rw [hphase] at hallowed
      exact hquiet (RunnerPhase.startsOrReports_of_started hallowed)
    · intro e' he' hstarts
      obtain he' | he' := List.mem_append.1 he'
      · exact hnone e' he' hstarts
      · obtain rfl := List.mem_singleton.1 he'
        exact hquiet (startsOrReports_of_startsTask hstarts)

/-! ## Sessions -/

/-- The callers that are in the middle of a start work for the session there is, and so do
those who know the run that it waits on. -/
structure SessionsCurrent (v : RunnerView) (phases : ι → RunnerPhase) : Prop where
  ids : RunIds v phases
  requested : v.session ≠ none → v.requested = true
  idle_iff : v.session = none ↔ v.status = .idle
  busy : ∀ i, phases i ≠ .resting → v.session ≠ none
  not_lost : ∀ i session, phases i ≠ .lost session
  current : ∀ i, (phases i).InFlight → (phases i).session = v.session
  seen_current : ∀ i session runId, phases i = .observing session runId →
    v.waiting = some runId → session = v.session

/-- The other callers stay as they are, and the one that moves is in order. -/
theorem SessionsCurrent.update {v v' : RunnerView} {phases : ι → RunnerPhase} {i : ι}
    {g' : RunnerPhase} (h : SessionsCurrent v phases)
    (hids : RunIds v' (Function.update phases i g')) (hsession : v'.session = v.session)
    (hrequested : v'.requested = v.requested)
    (hidle : v'.status = .idle ↔ v.status = .idle)
    (hbusy : g' ≠ .resting → v.session ≠ none) (hlost : ∀ session, g' ≠ .lost session)
    (hcurrent : g'.InFlight → g'.session = v.session)
    (hseen : ∀ session runId, g' = .observing session runId → v'.waiting = some runId →
      session = v.session)
    (hothers : ∀ j session runId, phases j = .observing session runId →
      v'.waiting = some runId → v.waiting = some runId) :
    SessionsCurrent v' (Function.update phases i g') where
  ids := hids
  requested hv := hrequested.trans (h.requested (hsession ▸ hv))
  idle_iff := by rw [hsession, hidle, h.idle_iff]
  busy j hj := by
    rw [hsession]
    by_cases hji : j = i
    · subst hji
      rw [Function.update_self] at hj
      exact hbusy hj
    · rw [Function.update_of_ne hji] at hj
      exact h.busy j hj
  not_lost j session := by
    by_cases hji : j = i
    · subst hji
      rw [Function.update_self]
      exact hlost session
    · rw [Function.update_of_ne hji]
      exact h.not_lost j session
  current j hj := by
    rw [hsession]
    by_cases hji : j = i
    · subst hji
      rw [Function.update_self] at hj ⊢
      exact hcurrent hj
    · rw [Function.update_of_ne hji] at hj ⊢
      exact h.current j hj
  seen_current j session runId hj hrun := by
    rw [hsession]
    by_cases hji : j = i
    · subst hji
      rw [Function.update_self] at hj
      exact hseen session runId hj hrun
    · rw [Function.update_of_ne hji] at hj
      exact h.seen_current j session runId hj (hothers j session runId hj hrun)

/-- A caller that has nothing more to do is in order. -/
theorem SessionsCurrent.rest {v v' : RunnerView} {phases : ι → RunnerPhase} {i : ι}
    (h : SessionsCurrent v phases) (hids : RunIds v' (Function.update phases i .resting))
    (hsession : v'.session = v.session) (hrequested : v'.requested = v.requested)
    (hidle : v'.status = .idle ↔ v.status = .idle)
    (hothers : ∀ j session runId, phases j = .observing session runId →
      v'.waiting = some runId → v.waiting = some runId) :
    SessionsCurrent v' (Function.update phases i .resting) :=
  h.update hids hsession hrequested hidle (fun hne => absurd rfl hne)
    (fun _ hg => RunnerPhase.noConfusion hg) False.elim (fun _ _ hg => RunnerPhase.noConfusion hg)
    hothers

/-- **Every step keeps the invariant**, if sessions are armed while no start is in flight. -/
theorem SessionsCurrent.step {v v' : RunnerView} {phases : ι → RunnerPhase} {i : ι}
    {g g' : RunnerPhase} {l : RunnerLabel} (h : SessionsCurrent v phases) (hi : phases i = g)
    (harm : l = .armed → ∀ j, ¬ (phases j).InFlight) (hstep : CallerStep v g l v' g') :
    SessionsCurrent v' (Function.update phases i g') := by
  have hids := h.ids.step hi hstep
  have hidle : v.session ≠ none → v.status ≠ .idle := fun hne hs => hne (h.idle_iff.2 hs)
  have hbusy : g ≠ .resting → v.session ≠ none := fun hne => h.busy i (hi ▸ hne)
  have hcleared : v.session = none → g' = .resting →
      SessionsCurrent v.cleared (Function.update phases i g') := by
    rintro hnone rfl
    have hall : ∀ j, Function.update phases i .resting j = .resting := by
      intro j
      by_cases hj : j = i
      · subst hj
        exact Function.update_self ..
      · rw [Function.update_of_ne hj]
        exact not_not.1 fun hne => h.busy j hne hnone
    have hids' : RunIds v.cleared (Function.update phases i .resting) :=
      h.ids.keep (Or.inr rfl) rfl (Or.inl rfl) (Or.inl rfl)
    constructor
    case ids => exact hids'
    all_goals simp [hall, RunnerView.cleared, RunnerPhase.InFlight]
  cases hstep with
  | @arm sessionId hinactive =>
    have hfree := harm rfl
    constructor
    case ids => exact hids
    case requested => simp
    case idle_iff => simp
    case busy => simp
    case not_lost =>
      intro j session
      by_cases hj : j = i
      · subst hj
        simp
      · rw [Function.update_of_ne hj]
        exact h.not_lost j session
    case current =>
      intro j hflight
      by_cases hj : j = i
      · subst hj
        rw [Function.update_self]
        rfl
      · rw [Function.update_of_ne hj] at hflight
        exact absurd hflight (hfree j)
    case seen_current => simp
  | clear hnone =>
    refine hcleared ?_ rfl
    obtain hnone | hstatus := hnone
    · exact hnone
    · exact h.idle_iff.2 hstatus
  | stop hsession =>
    exact h.rest hids rfl rfl (by simpa using hidle hsession) fun _ _ _ _ hr => hr
  | keep =>
    rw [← hi, Function.update_eq_self]
    exact h
  | rest => exact h.rest hids rfl rfl Iff.rfl fun _ _ _ _ hr => hr
  | look _ hstatus _ =>
    have hsession : v.session ≠ none := by
      intro hnone
      simp [h.idle_iff.1 hnone] at hstatus
    refine h.update hids rfl rfl Iff.rfl (fun _ => hsession) (by simp) False.elim ?_
      fun _ _ _ _ hr => hr
    rintro session runId hg -
    exact (RunnerPhase.observing.inj hg).1.symm
  | tell hstatus _ =>
    exact h.update hids rfl rfl (by simp [hstatus]) (fun _ => hbusy (by simp)) (by simp) False.elim
      (by simp) fun _ _ _ _ hr => hr
  | «over» hstatus _ => exact h.rest hids rfl rfl (by simp [hstatus]) fun _ _ _ _ hr => hr
  | request hg =>
    refine h.update hids rfl rfl Iff.rfl (fun _ => hbusy ?_) (by simp) False.elim (by simp)
      fun _ _ _ _ hr => hr
    rintro rfl
    exact hg
  | lose hg hnone =>
    have hsession : v.session ≠ none := by
      refine hbusy ?_
      rintro rfl
      exact hg
    simp [h.requested hsession] at hnone
  | claim hsession hstatus =>
    exact h.update hids rfl rfl (by simp [hstatus]) (fun _ => by simp [hsession]) (by simp)
      (fun _ => rfl) (by simp) fun _ _ _ _ hr => hr
  | work hg _ =>
    have hflight : g.InFlight := by
      obtain ⟨_, rfl⟩ | ⟨_, _, rfl⟩ := hg
      · trivial
      · trivial
    have hcurrent := h.current i (hi ▸ hflight)
    rw [hi] at hcurrent
    refine h.update hids rfl rfl Iff.rfl (fun _ => hbusy ?_) (by simp) (fun _ => hcurrent)
      (by simp) fun _ _ _ _ hr => hr
    rintro rfl
    exact hflight
  | @report session queueItemId runId =>
    have hsession := hbusy (by simp)
    refine h.rest hids rfl rfl (by simpa using hidle hsession) fun j session' runId' hj hr => ?_
    obtain rfl := Option.some.inj hr
    exact absurd (by rw [hj]; rfl) (h.ids.seen_free i j runId (by rw [hi]; rfl))
  | @finish g status _ hsession hstatus =>
    refine h.rest hids rfl rfl ?_ fun _ _ _ _ hr => by simp at hr
    have hne : status ≠ .idle := by
      rintro rfl
      simp at hstatus
    simp [hne, hidle hsession]
  | finishNone hg hnone =>
    exact hcleared hnone rfl

omit [DecidableEq ι] in
/-- **A caller of another session leaves the session alone.** -/
theorem SessionsCurrent.snapshot_eq {w : QueueRunnerWorld} {phases : ι → RunnerPhase} {i : ι}
    {c : QueueRunnerCall} {sessionId : QueueRunnerSessionId}
    (h : SessionsCurrent w.view phases) (hallowed : (phases i).Allows c)
    (hi : (phases i).session = some sessionId)
    (hother : w.registry.snapshot.sessionId ≠ some sessionId) (o : RunnerOutside) :
    (w.handle o c).2.registry.snapshot = w.registry.snapshot := by
  have hflight : ¬ (phases i).InFlight := by
    intro hflight
    exact hother ((h.current i hflight).symm.trans hi)
  have hlost := h.not_lost i
  have hseen := h.seen_current i
  generalize hg : phases i = g at *
  cases g with
  | resting => cases hi
  | observing session runId =>
    have hwaits : ¬ w.registry.WaitsOn runId := by
      rintro ⟨-, hrun⟩
      exact hother ((hseen session runId rfl hrun).symm.trans hi)
    cases c <;> first | exact hallowed.elim | rfl | skip
    · obtain rfl := hallowed
      change (w.registry.observeWaitingRunForReconciliation o.now _ _ _).2.snapshot = _
      rw [QueueRunnerSessionState.observeWaitingRunForReconciliation, if_pos hwaits]
    · obtain rfl := hallowed
      change (w.registry.observeMissingWaitingRun o.now _).2.snapshot = _
      rw [QueueRunnerSessionState.observeMissingWaitingRun]
      dsimp only
      rw [if_pos hwaits]
  | told session => cases c <;> first | exact hallowed.elim | rfl
  | requested sessionId' =>
    cases c <;> first | exact hallowed.elim | rfl | skip
    obtain rfl := hallowed
    obtain rfl := Option.some.inj hi
    change (w.registry.tryMarkContinuationStarting _).2.snapshot = _
    rw [QueueRunnerSessionState.tryMarkContinuationStarting, if_pos (Or.inl hother)]
  | lost session => exact absurd rfl (hlost session)
  | armed | claimed | started => exact absurd trivial hflight

/-! ## Interleavings -/

theorem sessionsCurrent_start (nextIdSuffix : ℕ) :
    SessionsCurrent (QueueRunnerWorld.view ⟨{}, nextIdSuffix⟩) (fun _ : ι => .resting) := by
  constructor
  case ids => exact (continuationSafe_start nextIdSuffix).ids
  all_goals simp [QueueRunnerWorld.view, RunnerPhase.InFlight]

/-- **The operator's stop is final**, in every interleaving of the callers in which no start
is overtaken: a stopped session is inactive and starts no task until a session is armed,
and a caller that works for another session leaves the session as it is. -/
theorem operator_stop_final (nextIdSuffix : ℕ) (commands : ι → RunnerCommand)
    (moves : List (ι × RunnerOutside))
    (h : Machine.Along (Callers.step QueueRunnerWorld.handle) (Callers.Meets Unovertaken)
      (runnerStart nextIdSuffix commands) moves) :
    let q := Machine.after (Callers.step QueueRunnerWorld.handle)
      (runnerStart nextIdSuffix commands) moves
    StopFinal q.world q.log ∧ ∀ move sessionId,
      (phase RunnerPhase.next .resting q.log move.1).session = some sessionId →
      q.world.registry.snapshot.sessionId ≠ some sessionId →
      (q.step QueueRunnerWorld.handle move).world.registry.snapshot =
        q.world.registry.snapshot := by
  intro q
  have hcall : ∀ w log (i : ι) c o, (phase RunnerPhase.next .resting log i).Allows c →
      Unovertaken w log i c →
      (StopFinal w log ∧ SessionsCurrent w.view (phase RunnerPhase.next .resting log)) →
      (StopFinal (QueueRunnerWorld.handle o c w).2
          (log ++ [⟨i, c, (QueueRunnerWorld.handle o c w).1⟩]) ∧
        SessionsCurrent (QueueRunnerWorld.handle o c w).2.view (phase RunnerPhase.next .resting
          (log ++ [⟨i, c, (QueueRunnerWorld.handle o c w).1⟩]))) := by
    rintro w log i c o hallowed hcond ⟨hfinal, hsessions⟩
    have hstep := callerStep_handle hallowed o w
    refine ⟨hfinal.call o hallowed hcond, ?_⟩
    rw [Callers.phase_concat]
    refine hsessions.step rfl (fun hlabel => ?_) hstep
    refine hcond.2 (arms_of_label hlabel) ?_
    rw [hlabel] at hstep
    exact hstep.inactive_of_armed
  have hfinal : StopFinal (runnerStart nextIdSuffix commands).world
      (runnerStart nextIdSuffix commands).log := by
    intro before e later hlog
    exact absurd hlog.symm (List.append_ne_nil_of_right_ne_nil _ (List.cons_ne_nil _ _))
  obtain ⟨⟨hq, hsessions⟩, hsound⟩ := Callers.invariant_after hcall
    (runnerSound_start nextIdSuffix commands) ⟨hfinal, sessionsCurrent_start nextIdSuffix⟩ h
  refine ⟨hq, fun move sessionId hsession hother => ?_⟩
  have hstep : (q.step QueueRunnerWorld.handle move = q ∧ _) ∨ _ := hsound.step move
  obtain ⟨hsame, -⟩ | ⟨c, -, hallowed, hworld, -⟩ := hstep
  · rw [hsame]
  · rw [hworld]
    exact hsessions.snapshot_eq hallowed hsession hother _

end Callers

/-! ## A start, a stop and a look at the session -/

/-- A start command, a stop, and a request for the snapshot. -/
def exampleCommands (i : Fin 3) : RunnerCommand :=
  if i = 0 then
    .start ⟨"ws_1", "executor_1", "codex", "repo", "read_only", "never", none, none, none, none⟩ 1
  else if i = 1 then .stop
  else .getSnapshot

/-- The run is completed, one task is ready, and it starts. -/
def exampleOutside : RunnerOutside where
  now := "unix_ms:0"
  getWidgetRun _ := .ok (some ⟨"completed", some "1"⟩)
  listAgentQueueTasks _ := .ok [⟨"task_1", "ws_1", "", "", "prompt", "ready", 0,
    .value (.arr []), "auto", none, none, none, none, none, some "executor_1", "", ""⟩]
  startAssignedAgentQueueTask request := .ok ⟨request.queueItemId, "wrun_", 0, 0⟩

/-- The stop comes when the task has started, and a look at its run follows. -/
theorem operator_stop_final_example :
    let q := Machine.after (Callers.step QueueRunnerWorld.handle) (runnerStart 0 exampleCommands)
      ([0, 0, 0, 0, 1, 2, 0].map (·, exampleOutside))
    StopFinal q.world q.log ∧ ∀ move sessionId,
      (phase RunnerPhase.next .resting q.log move.1).session = some sessionId →
      q.world.registry.snapshot.sessionId ≠ some sessionId →
      (q.step QueueRunnerWorld.handle move).world.registry.snapshot =
        q.world.registry.snapshot :=
  operator_stop_final 0 exampleCommands _ (by decide +kernel)

/-- The start is overtaken: the worker has started when the stop lands, and its report makes
the session active again. -/
theorem stop_overtaken :
    let q := Machine.after (Callers.step QueueRunnerWorld.handle) (runnerStart 0 exampleCommands)
      ([0, 0, 0, 1, 0].map (·, exampleOutside))
    ¬ StopFinal q.world q.log := by
  intro q hfinal
  have hlog : q.log = q.log.take 3 ++ ⟨1, .stopSession, _⟩ :: q.log.drop 4 := rfl
  have hactive := (hfinal _ _ _ hlog trivial ?_).1
  · revert hactive
    decide +kernel
  · have hreport : q.log.drop 4 =
        [⟨0, .waitingForExecutor "task_1" (placeholderId "wrun_" 0 0), _⟩] := rfl
    rw [hreport]
    intro e he
    obtain rfl := List.mem_singleton.1 he
    exact id

end HobitQueue
