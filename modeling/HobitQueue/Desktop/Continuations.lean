import HobitQueue.Desktop.RunnerSteps

/-!
# One continuation for each run

However the callers of the runner interleave, with stops and new sessions in between, a run
that a session waits on leads to one continuation at most. The argument follows a run id: it
is handed out once, reported once, told once, claimed once, and its continuation starts at
most one task.
-/

namespace HobitQueue

open Concurrent

/-! ## Ids -/

/-- The run id was drawn from the counter before it had this value. -/
def DrawnBefore (n : ℕ) (runId : String) : Prop :=
  ∃ idPrefix unixNanos suffix, suffix < n ∧ runId = placeholderId idPrefix unixNanos suffix

theorem DrawnBefore.mono {n m : ℕ} {runId : String} (h : DrawnBefore n runId) (hle : n ≤ m) :
    DrawnBefore m runId := by
  obtain ⟨idPrefix, unixNanos, suffix, hlt, rfl⟩ := h
  exact ⟨idPrefix, unixNanos, suffix, by omega, rfl⟩

theorem not_drawnBefore {n k : ℕ} (hle : n ≤ k) (idPrefix : String) (unixNanos : ℕ) :
    ¬ DrawnBefore n (placeholderId idPrefix unixNanos k) := by
  rintro ⟨p, t, k', hlt, heq⟩
  have hsuffix := suffix_of_placeholderId heq
  omega

/-- The run that a caller saw a session wait on. -/
def RunnerPhase.seen : RunnerPhase → Option String
  | observing _ runId => some runId
  | _ => none

/-- The run that a caller has started and not yet reported. -/
def RunnerPhase.held : RunnerPhase → Option String
  | started _ _ runId => some runId
  | _ => none

section Callers

variable {ι : Type} [DecidableEq ι]

/-- The run ids that the session and its callers know were drawn; the runs that are still to
be reported belong to one caller each, and nobody else knows them. -/
structure RunIds (v : RunnerView) (phases : ι → RunnerPhase) : Prop where
  waiting_drawn : ∀ r, v.waiting = some r → DrawnBefore v.nextIdSuffix r
  seen_drawn : ∀ i r, (phases i).seen = some r → DrawnBefore v.nextIdSuffix r
  held_drawn : ∀ i r, (phases i).held = some r → DrawnBefore v.nextIdSuffix r
  waiting_free : ∀ i r, (phases i).held = some r → v.waiting ≠ some r
  seen_free : ∀ i j r, (phases i).held = some r → (phases j).seen ≠ some r
  held_once : ∀ i j r, (phases i).held = some r → (phases j).held = some r → i = j

/-- A caller that reports nothing and starts nothing may forget the runs it knows, and learn
the one that the session waits on. -/
theorem RunIds.keep {v v' : RunnerView} {phases : ι → RunnerPhase} {i : ι} {g : RunnerPhase}
    (h : RunIds v phases) (hwaiting : v'.waiting = v.waiting ∨ v'.waiting = none)
    (hsuffix : v'.nextIdSuffix = v.nextIdSuffix)
    (hseen : g.seen = none ∨ g.seen = v.waiting ∨ g.seen = (phases i).seen)
    (hheld : g.held = none ∨ g.held = (phases i).held) :
    RunIds v' (Function.update phases i g) := by
  have hwait : ∀ r, v'.waiting = some r → v.waiting = some r := by
    intro r hr
    obtain hsame | hnone := hwaiting
    · rwa [hsame] at hr
    · simp [hnone] at hr
  have hheld' : ∀ j r, (Function.update phases i g j).held = some r → (phases j).held = some r := by
    intro j r hr
    by_cases hj : j = i
    · subst hj
      rw [Function.update_self] at hr
      obtain hnone | hsame := hheld
      · simp [hnone] at hr
      · rwa [hsame] at hr
    · rwa [Function.update_of_ne hj] at hr
  have hseen' : ∀ j r, (Function.update phases i g j).seen = some r →
      v.waiting = some r ∨ (phases j).seen = some r := by
    intro j r hr
    by_cases hj : j = i
    · subst hj
      rw [Function.update_self] at hr
      obtain hnone | hsame | hsame := hseen
      · simp [hnone] at hr
      · exact Or.inl (hsame ▸ hr)
      · exact Or.inr (hsame ▸ hr)
    · rw [Function.update_of_ne hj] at hr
      exact Or.inr hr
  constructor
  · intro r hr
    rw [hsuffix]
    exact h.waiting_drawn r (hwait r hr)
  · intro j r hr
    rw [hsuffix]
    obtain hr | hr := hseen' j r hr
    · exact h.waiting_drawn r hr
    · exact h.seen_drawn j r hr
  · intro j r hr
    rw [hsuffix]
    exact h.held_drawn j r (hheld' j r hr)
  · intro j r hr hw
    exact h.waiting_free j r (hheld' j r hr) (hwait r hw)
  · intro j k r hr hs
    obtain hs | hs := hseen' k r hs
    · exact h.waiting_free j r (hheld' j r hr) hs
    · exact h.seen_free j k r (hheld' j r hr) hs
  · intro j k r hj hk
    exact h.held_once j k r (hheld' j r hj) (hheld' k r hk)

/-- A worker that starts gets a run id that nobody knows. -/
theorem RunIds.work {v v' : RunnerView} {phases : ι → RunnerPhase} {i : ι} {g : RunnerPhase}
    {runId : String} (h : RunIds v phases) (hwaiting : v'.waiting = v.waiting)
    (hsuffix : v.nextIdSuffix ≤ v'.nextIdSuffix) (hnew : ¬ DrawnBefore v.nextIdSuffix runId)
    (hdrawn : DrawnBefore v'.nextIdSuffix runId) (hseen : g.seen = none)
    (hheld : g.held = some runId) : RunIds v' (Function.update phases i g) := by
  have hseen' : ∀ j r, (Function.update phases i g j).seen = some r → (phases j).seen = some r := by
    intro j r hr
    by_cases hj : j = i
    · subst hj
      simp [hseen] at hr
    · rwa [Function.update_of_ne hj] at hr
  have hheld' : ∀ j r, (Function.update phases i g j).held = some r →
      (j = i ∧ r = runId) ∨ (phases j).held = some r := by
    intro j r hr
    by_cases hj : j = i
    · subst hj
      rw [Function.update_self, hheld] at hr
      exact Or.inl ⟨rfl, (Option.some.inj hr).symm⟩
    · rw [Function.update_of_ne hj] at hr
      exact Or.inr hr
  constructor
  · intro r hr
    exact (h.waiting_drawn r (hwaiting ▸ hr)).mono hsuffix
  · intro j r hr
    exact (h.seen_drawn j r (hseen' j r hr)).mono hsuffix
  · intro j r hr
    obtain ⟨-, rfl⟩ | hr := hheld' j r hr
    · exact hdrawn
    · exact (h.held_drawn j r hr).mono hsuffix
  · intro j r hr hw
    rw [hwaiting] at hw
    obtain ⟨-, rfl⟩ | hr := hheld' j r hr
    · exact hnew (h.waiting_drawn r hw)
    · exact h.waiting_free j r hr hw
  · intro j k r hr hs
    obtain ⟨-, rfl⟩ | hr := hheld' j r hr
    · exact hnew (h.seen_drawn k r (hseen' k r hs))
    · exact h.seen_free j k r hr (hseen' k r hs)
  · intro j k r hj hk
    obtain ⟨rfl, rfl⟩ | hj := hheld' j r hj
    · obtain ⟨rfl, -⟩ | hk := hheld' k _ hk
      · rfl
      · exact absurd (h.held_drawn k _ hk) hnew
    · obtain ⟨-, rfl⟩ | hk := hheld' k r hk
      · exact absurd (h.held_drawn j _ hj) hnew
      · exact h.held_once j k r hj hk

/-- A caller that reports its run hands it over to the session. -/
theorem RunIds.report {v v' : RunnerView} {phases : ι → RunnerPhase} {i : ι} {g : RunnerPhase}
    {runId : String} (h : RunIds v phases) (hi : (phases i).held = some runId)
    (hwaiting : v'.waiting = some runId) (hsuffix : v'.nextIdSuffix = v.nextIdSuffix)
    (hseen : g.seen = none) (hheld : g.held = none) :
    RunIds v' (Function.update phases i g) := by
  have hseen' : ∀ j r, (Function.update phases i g j).seen = some r → (phases j).seen = some r := by
    intro j r hr
    by_cases hj : j = i
    · subst hj
      simp [hseen] at hr
    · rwa [Function.update_of_ne hj] at hr
  have hheld' : ∀ j r, (Function.update phases i g j).held = some r →
      j ≠ i ∧ (phases j).held = some r := by
    intro j r hr
    by_cases hj : j = i
    · subst hj
      simp [hheld] at hr
    · rw [Function.update_of_ne hj] at hr
      exact ⟨hj, hr⟩
  constructor
  · intro r hr
    rw [hwaiting, Option.some.injEq] at hr
    rw [hsuffix, ← hr]
    exact h.held_drawn i runId hi
  · intro j r hr
    rw [hsuffix]
    exact h.seen_drawn j r (hseen' j r hr)
  · intro j r hr
    rw [hsuffix]
    exact h.held_drawn j r (hheld' j r hr).2
  · intro j r hr hw
    obtain ⟨hne, hj⟩ := hheld' j r hr
    rw [hwaiting, Option.some.injEq] at hw
    subst hw
    exact hne (h.held_once j i runId hj hi)
  · intro j k r hr hs
    exact h.seen_free j k r (hheld' j r hr).2 (hseen' k r hs)
  · intro j k r hj hk
    exact h.held_once j k r (hheld' j r hj).2 (hheld' k r hk).2

/-- **Every step keeps the run ids apart.** -/
theorem RunIds.step {v v' : RunnerView} {phases : ι → RunnerPhase} {i : ι} {g g' : RunnerPhase}
    {l : RunnerLabel} (h : RunIds v phases) (hi : phases i = g) (hstep : CallerStep v g l v' g') :
    RunIds v' (Function.update phases i g') := by
  subst hi
  generalize hg : phases i = g at hstep
  cases hstep with
  | arm | clear | finish | finishNone =>
    exact h.keep (Or.inr rfl) rfl (Or.inl rfl) (Or.inl rfl)
  | stop | rest | tell | «over» | request | lose | claim =>
    exact h.keep (Or.inl rfl) rfl (Or.inl rfl) (Or.inl rfl)
  | keep =>
    exact h.keep (Or.inl rfl) rfl (Or.inr (Or.inr (by rw [hg]))) (Or.inr (by rw [hg]))
  | look _ _ hrun => exact h.keep (Or.inl rfl) rfl (Or.inr (Or.inl hrun.symm)) (Or.inl rfl)
  | work _ hsuffix =>
    refine h.work rfl (Nat.le_succ_of_le hsuffix) (not_drawnBefore hsuffix _ _) ?_ rfl rfl
    exact ⟨_, _, _, Nat.lt_succ_self _, rfl⟩
  | report => exact h.report (by rw [hg]; rfl) rfl rfl rfl rfl

/-! ## Logs -/

/-- The last mark of a caller: its last arming or claim. -/
def lastMark (log : List (Event ι QueueRunnerCall QueueRunnerCall.Answer)) (i : ι) :
    Option StartMark :=
  (log.filterMap fun e => if e.caller = i then StartMark.of e.call e.answer else none).getLast?

theorem lastMark_concat (log : List (Event ι QueueRunnerCall QueueRunnerCall.Answer))
    (e : Event ι QueueRunnerCall QueueRunnerCall.Answer) (i : ι) :
    lastMark (log ++ [e]) i =
      (if e.caller = i then StartMark.of e.call e.answer else none).or (lastMark log i) := by
  rw [lastMark, List.filterMap_append, List.getLast?_append, lastMark]
  congr 1
  by_cases hi : e.caller = i
  · cases hmark : StartMark.of e.call e.answer <;> simp [hi, hmark]
  · simp [hi]

/-- An event of the log with a label. -/
def Labelled (l : RunnerLabel) (log : List (Event ι QueueRunnerCall QueueRunnerCall.Answer))
    (e : Event ι QueueRunnerCall QueueRunnerCall.Answer) : Prop :=
  runnerLabel (lastMark log e.caller) e.call e.answer = l

/-- The mark of a caller that claimed the continuation after a run. -/
abbrev claimOf (runId : String) : Option StartMark := some (.claimed (some runId))

/-- A caller that is about to start a task has the mark of its phase. -/
def MarksKept (log : List (Event ι QueueRunnerCall QueueRunnerCall.Answer)) : Prop :=
  ∀ i, (phase RunnerPhase.next .resting log i).mark ≠ none →
    lastMark log i = (phase RunnerPhase.next .resting log i).mark

theorem MarksKept.concat {log : List (Event ι QueueRunnerCall QueueRunnerCall.Answer)}
    (h : MarksKept log) (e : Event ι QueueRunnerCall QueueRunnerCall.Answer) :
    MarksKept (log ++ [e]) := by
  intro i hmark
  rw [lastMark_concat]
  rw [Callers.phase_concat] at hmark ⊢
  by_cases hi : e.caller = i
  · subst hi
    rw [Function.update_self] at hmark ⊢
    rw [if_pos rfl, RunnerPhase.mark_next hmark]
    cases hof : StartMark.of e.call e.answer with
    | some mark => rfl
    | none =>
      rw [RunnerPhase.mark_next hmark, hof, Option.none_or] at hmark
      rw [Option.none_or, Option.none_or, h _ hmark]
  · rw [Function.update_of_ne (Ne.symm hi)] at hmark ⊢
    rw [if_neg hi, Option.none_or, h i hmark]

/-- The invariant of the interleavings: a run that is not yet told was not claimed, and a
claim is followed by one task at most. -/
structure ContinuationSafe (v : RunnerView) (phases : ι → RunnerPhase)
    (log : List (Event ι QueueRunnerCall QueueRunnerCall.Answer)) : Prop where
  ids : RunIds v phases
  told_drawn : ∀ r, Occurs (Labelled (.told r)) log → DrawnBefore v.nextIdSuffix r
  held_untold : ∀ i r, (phases i).held = some r → ¬ Occurs (Labelled (.told r)) log
  waiting_untold : ∀ r, v.status = .waitingForExecutor → v.waiting = some r →
    ¬ Occurs (Labelled (.told r)) log
  told_once : ∀ r, AtMostOnce (Labelled (.told r)) log
  claimed_told : ∀ r, Occurs (Labelled (.claimed (some r))) log → Occurs (Labelled (.told r)) log
  selecting_unclaimed : ∀ r, v.status = .selectingTask → v.waiting = some r →
    Occurs (Labelled (.told r)) log ∧ ¬ Occurs (Labelled (.claimed (some r))) log
  claimed_once : ∀ r, AtMostOnce (Labelled (.claimed (some r))) log
  next_claimed : ∀ r, Occurs (Labelled (.startedTask (claimOf r))) log →
    Occurs (Labelled (.claimed (some r))) log
  pending_claimed : ∀ i r, (phases i).mark = claimOf r →
    Occurs (Labelled (.claimed (some r))) log ∧ ¬ Occurs (Labelled (.startedTask (claimOf r))) log
  pending_once : ∀ i j r, (phases i).mark = claimOf r → (phases j).mark = claimOf r → i = j
  next_once : ∀ r, AtMostOnce (Labelled (.startedTask (claimOf r))) log
  next_marked : ¬ Occurs (Labelled (.startedTask none)) log

section Steps

variable {v v' : RunnerView} {phases : ι → RunnerPhase} {i : ι} {g g' : RunnerPhase}
  {l : RunnerLabel} {log : List (Event ι QueueRunnerCall QueueRunnerCall.Answer)}
  {e : Event ι QueueRunnerCall QueueRunnerCall.Answer}

theorem occurs_labelled_concat (he : Labelled l log e) {l' : RunnerLabel} :
    Occurs (Labelled l') (log ++ [e]) ↔ Occurs (Labelled l') log ∨ l = l' := by
  rw [occurs_concat]
  refine or_congr_right ?_
  unfold Labelled at he ⊢
  rw [he]

theorem atMostOnce_labelled_concat (he : Labelled l log e) {l' : RunnerLabel}
    (h : AtMostOnce (Labelled l') log) (hnew : l = l' → ¬ Occurs (Labelled l') log) :
    AtMostOnce (Labelled l') (log ++ [e]) := by
  refine h.concat fun he' => hnew ?_
  exact he.symm.trans he'

/-- What a new event needs to keep the invariant. -/
theorem ContinuationSafe.concat {phases' : ι → RunnerPhase} (h : ContinuationSafe v phases log)
    (he : Labelled l log e) (hids : RunIds v' phases')
    (hsuffix : v.nextIdSuffix ≤ v'.nextIdSuffix)
    (htold : ∀ r, l = .told r →
      DrawnBefore v.nextIdSuffix r ∧ ¬ Occurs (Labelled (.told r)) log)
    (hheld : ∀ j r, (phases' j).held = some r →
      l ≠ .told r ∧ ¬ Occurs (Labelled (.told r)) log)
    (hwaiting : ∀ r, v'.status = .waitingForExecutor → v'.waiting = some r →
      l ≠ .told r ∧ ¬ Occurs (Labelled (.told r)) log)
    (hclaimed : ∀ r, l = .claimed (some r) →
      Occurs (Labelled (.told r)) log ∧ ¬ Occurs (Labelled (.claimed (some r))) log)
    (hselecting : ∀ r, v'.status = .selectingTask → v'.waiting = some r →
      (Occurs (Labelled (.told r)) log ∨ l = .told r) ∧
        l ≠ .claimed (some r) ∧ ¬ Occurs (Labelled (.claimed (some r))) log)
    (hnext : ∀ r, l = .startedTask (claimOf r) → Occurs (Labelled (.claimed (some r))) log ∧
      ¬ Occurs (Labelled (.startedTask (claimOf r))) log)
    (hpending : ∀ j r, (phases' j).mark = claimOf r →
      (Occurs (Labelled (.claimed (some r))) log ∨ l = .claimed (some r)) ∧
        l ≠ .startedTask (claimOf r) ∧ ¬ Occurs (Labelled (.startedTask (claimOf r))) log)
    (honce : ∀ j k r, (phases' j).mark = claimOf r → (phases' k).mark = claimOf r → j = k)
    (hmarked : l ≠ .startedTask none) :
    ContinuationSafe v' phases' (log ++ [e]) where
  ids := hids
  told_drawn r hr := by
    obtain hr | hr := (occurs_labelled_concat he).1 hr
    · exact (h.told_drawn r hr).mono hsuffix
    · exact (htold r hr).1.mono hsuffix
  held_untold j r hr := by
    rw [occurs_labelled_concat he, not_or]
    exact (hheld j r hr).symm
  waiting_untold r hstatus hr := by
    rw [occurs_labelled_concat he, not_or]
    exact (hwaiting r hstatus hr).symm
  told_once r := atMostOnce_labelled_concat he (h.told_once r) fun hl => (htold r hl).2
  claimed_told r hr := by
    rw [occurs_labelled_concat he]
    obtain hr | hr := (occurs_labelled_concat he).1 hr
    · exact Or.inl (h.claimed_told r hr)
    · exact Or.inl (hclaimed r hr).1
  selecting_unclaimed r hstatus hr := by
    obtain ⟨htold, hne, hnone⟩ := hselecting r hstatus hr
    rw [occurs_labelled_concat he, occurs_labelled_concat he, not_or]
    exact ⟨htold, hnone, hne⟩
  claimed_once r := atMostOnce_labelled_concat he (h.claimed_once r) fun hl => (hclaimed r hl).2
  next_claimed r hr := by
    rw [occurs_labelled_concat he]
    obtain hr | hr := (occurs_labelled_concat he).1 hr
    · exact Or.inl (h.next_claimed r hr)
    · exact Or.inl (hnext r hr).1
  pending_claimed j r hr := by
    obtain ⟨hclaim, hne, hnone⟩ := hpending j r hr
    rw [occurs_labelled_concat he, occurs_labelled_concat he, not_or]
    exact ⟨hclaim, hnone, hne⟩
  pending_once := honce
  next_once r := atMostOnce_labelled_concat he (h.next_once r) fun hl => (hnext r hl).2
  next_marked := by
    rw [occurs_labelled_concat he, not_or]
    exact ⟨h.next_marked, hmarked⟩

/-- A call about no run keeps the invariant, when nobody claims by it and the session waits
on nothing that was told. -/
theorem ContinuationSafe.quiet (h : ContinuationSafe v phases log) (he : Labelled l log e)
    (hl : (∀ r, l ≠ .told r) ∧ (∀ r, l ≠ .claimed (some r)) ∧ ∀ mark, l ≠ .startedTask mark)
    (hids : RunIds v' (Function.update phases i g')) (hsuffix : v.nextIdSuffix ≤ v'.nextIdSuffix)
    (hheld : ∀ r, g'.held = some r → ¬ Occurs (Labelled (.told r)) log)
    (hwaiting : ∀ r, v'.status = .waitingForExecutor → v'.waiting = some r →
      ¬ Occurs (Labelled (.told r)) log)
    (hselecting : v'.status = .selectingTask →
      v.status = .selectingTask ∧ v'.waiting = v.waiting)
    (hafter : (∀ r, g'.mark ≠ claimOf r) ∨ g'.mark = (phases i).mark) :
    ContinuationSafe v' (Function.update phases i g') (log ++ [e]) := by
  have hafter' : ∀ j r, (Function.update phases i g' j).mark = claimOf r →
      (phases j).mark = claimOf r := by
    intro j r hr
    by_cases hj : j = i
    · subst hj
      rw [Function.update_self] at hr
      obtain hnone | hsame := hafter
      · exact absurd hr (hnone r)
      · rwa [hsame] at hr
    · rwa [Function.update_of_ne hj] at hr
  refine h.concat he hids hsuffix (fun r hr => absurd hr (hl.1 r)) ?_ ?_
    (fun r hr => absurd hr (hl.2.1 r)) ?_ (fun r hr => absurd hr (hl.2.2 _)) ?_ ?_ (hl.2.2 none)
  · intro j r hr
    refine ⟨hl.1 r, ?_⟩
    by_cases hj : j = i
    · subst hj
      rw [Function.update_self] at hr
      exact hheld r hr
    · rw [Function.update_of_ne hj] at hr
      exact h.held_untold j r hr
  · exact fun r hstatus hr => ⟨hl.1 r, hwaiting r hstatus hr⟩
  · intro r hstatus hr
    obtain ⟨hold, hsame⟩ := hselecting hstatus
    obtain ⟨htold, hnone⟩ := h.selecting_unclaimed r hold (hsame ▸ hr)
    exact ⟨Or.inl htold, hl.2.1 r, hnone⟩
  · intro j r hr
    obtain ⟨hclaim, hnone⟩ := h.pending_claimed j r (hafter' j r hr)
    exact ⟨Or.inl hclaim, hl.2.2 _, hnone⟩
  · exact fun j k r hj hk => h.pending_once j k r (hafter' j r hj) (hafter' k r hk)

/-- **Every step keeps the invariant.** -/
theorem ContinuationSafe.step (h : ContinuationSafe v phases log) (he : Labelled l log e)
    (hi : phases i = g) (hstep : CallerStep v g l v' g') :
    ContinuationSafe v' (Function.update phases i g') (log ++ [e]) := by
  have hids := h.ids.step hi hstep
  subst hi
  have hown : ∀ j, (Function.update phases i g' j).held ≠ none → g'.held = none →
      (phases j).held = (Function.update phases i g' j).held := by
    intro j hj hnone
    by_cases hji : j = i
    · subst hji
      simp [hnone] at hj
    · rw [Function.update_of_ne hji]
  have hpend : ∀ j r, (Function.update phases i g' j).mark = claimOf r → g'.mark = none →
      j ≠ i ∧ (phases j).mark = claimOf r := by
    intro j r hj hnone
    by_cases hji : j = i
    · subst hji
      simp [hnone] at hj
    · rw [Function.update_of_ne hji] at hj
      exact ⟨hji, hj⟩
  generalize hg : phases i = g at hstep
  cases hstep with
  | arm | clear | stop | «over» =>
    exact h.quiet he (by simp) hids le_rfl (by simp [RunnerPhase.held])
      (by simp [RunnerView.cleared]) (by simp [RunnerView.cleared])
      (Or.inl (by simp [RunnerPhase.mark]))
  | finishNone =>
    exact h.quiet he (by simp) hids le_rfl (by simp [RunnerPhase.held])
      (by simp [RunnerView.cleared]) (by simp [RunnerView.cleared])
      (Or.inl (by simp [RunnerPhase.mark]))
  | finish _ _ hstatus =>
    exact h.quiet he (by simp) hids le_rfl (by simp [RunnerPhase.held]) (by simp)
      (by rintro rfl; simp at hstatus) (Or.inl (by simp [RunnerPhase.mark]))
  | keep =>
    exact h.quiet he (by simp) hids le_rfl (fun r hr => h.held_untold i r (hg ▸ hr))
      h.waiting_untold (fun hs => ⟨hs, rfl⟩) (Or.inr (by rw [hg]))
  | rest | look | request | lose =>
    exact h.quiet he (by simp) hids le_rfl (by simp [RunnerPhase.held]) h.waiting_untold
      (fun hs => ⟨hs, rfl⟩) (Or.inl (by simp [RunnerPhase.mark]))
  | @report session queueItemId runId =>
    refine h.quiet he (by simp) hids le_rfl (by simp [RunnerPhase.held]) ?_ (by simp)
      (Or.inl (by simp [RunnerPhase.mark]))
    rintro r - hr
    obtain rfl := Option.some.inj hr
    exact h.held_untold i runId (by rw [hg]; rfl)
  | @tell session runId hstatus hrun =>
    have huntold := h.waiting_untold runId hstatus hrun
    refine h.concat he hids le_rfl ?_ ?_ (by simp) (by simp) ?_ (by simp) ?_ ?_ (by simp)
    · intro r hr
      obtain rfl := RunnerLabel.told.inj hr
      exact ⟨h.ids.waiting_drawn _ hrun, huntold⟩
    · intro j r hr
      have hheld := (hown j (by simp [hr]) rfl).trans hr
      refine ⟨?_, h.held_untold j r hheld⟩
      rintro hl
      obtain rfl := RunnerLabel.told.inj hl
      exact h.ids.waiting_free j _ hheld hrun
    · rintro r - hr
      obtain rfl := Option.some.inj (hrun.symm.trans hr)
      exact ⟨Or.inr rfl, by simp, fun hclaimed => huntold (h.claimed_told _ hclaimed)⟩
    · intro j r hr
      obtain ⟨-, hj⟩ := hpend j r hr rfl
      obtain ⟨hclaim, hnone⟩ := h.pending_claimed j r hj
      exact ⟨Or.inl hclaim, by simp, hnone⟩
    · exact fun j k r hj hk =>
        h.pending_once j k r (hpend j r hj rfl).2 (hpend k r hk rfl).2
  | @claim sessionId hsession hstatus =>
    have hafter : ∀ j r, (Function.update phases i (.claimed v.session v.waiting) j).mark =
        claimOf r → (j = i ∧ v.waiting = some r) ∨ (phases j).mark = claimOf r := by
      intro j r hr
      by_cases hj : j = i
      · subst hj
        rw [Function.update_self] at hr
        exact Or.inl ⟨rfl, StartMark.claimed.inj (Option.some.inj hr)⟩
      · rw [Function.update_of_ne hj] at hr
        exact Or.inr hr
    have hunclaimed : ∀ j r, v.waiting = some r → (phases j).mark ≠ claimOf r := by
      intro j r hr hj
      exact (h.selecting_unclaimed r hstatus hr).2 (h.pending_claimed j r hj).1
    refine h.concat he hids le_rfl (by simp) ?_ (by simp) ?_ (by simp) (by simp) ?_ ?_ (by simp)
    · intro j r hr
      exact ⟨by simp, h.held_untold j r ((hown j (by simp [hr]) rfl).trans hr)⟩
    · intro r hr
      exact h.selecting_unclaimed r hstatus (RunnerLabel.claimed.inj hr)
    · intro j r hr
      obtain ⟨-, hrun⟩ | hj := hafter j r hr
      · have hnone := (h.selecting_unclaimed r hstatus hrun).2
        exact ⟨Or.inr (by rw [hrun]), by simp, fun hnext => hnone (h.next_claimed r hnext)⟩
      · obtain ⟨hclaim, hnone⟩ := h.pending_claimed j r hj
        exact ⟨Or.inl hclaim, by simp, hnone⟩
    · intro j k r hj hk
      obtain ⟨rfl, hrun⟩ | hj := hafter j r hj
      · obtain ⟨rfl, -⟩ | hk := hafter k r hk
        · rfl
        · exact absurd hk (hunclaimed k r hrun)
      · obtain ⟨-, hrun⟩ | hk := hafter k r hk
        · exact absurd hj (hunclaimed j r hrun)
        · exact h.pending_once j k r hj hk
  | @work g queueItemId idPrefix unixNanos suffix hphase hsuffix =>
    have hnew : ¬ Occurs (Labelled (.told (placeholderId idPrefix unixNanos suffix))) log :=
      fun htold => not_drawnBefore hsuffix _ _ (h.told_drawn _ htold)
    refine h.concat he hids (Nat.le_succ_of_le hsuffix) (by simp) ?_ ?_ (by simp) ?_ ?_ ?_ ?_ ?_
    · intro j r hr
      refine ⟨by simp, ?_⟩
      by_cases hj : j = i
      · subst hj
        rw [Function.update_self] at hr
        obtain rfl := Option.some.inj hr
        exact hnew
      · rw [Function.update_of_ne hj] at hr
        exact h.held_untold j r hr
    · exact fun r hstatus hr => ⟨by simp, h.waiting_untold r hstatus hr⟩
    · intro r hstatus hr
      obtain ⟨htold, hnone⟩ := h.selecting_unclaimed r hstatus hr
      exact ⟨Or.inl htold, by simp, hnone⟩
    · intro r hr
      exact h.pending_claimed i r (hg ▸ RunnerLabel.startedTask.inj hr)
    · intro j r hr
      obtain ⟨hne, hj⟩ := hpend j r hr rfl
      obtain ⟨hclaim, hnone⟩ := h.pending_claimed j r hj
      refine ⟨Or.inl hclaim, fun hl => hne ?_, hnone⟩
      exact h.pending_once j i r hj (hg ▸ RunnerLabel.startedTask.inj hl)
    · exact fun j k r hj hk =>
        h.pending_once j k r (hpend j r hj rfl).2 (hpend k r hk rfl).2
    · obtain ⟨session, rfl⟩ | ⟨session, runId, rfl⟩ := hphase
      · exact nofun
      · exact nofun

end Steps

/-! ## Interleavings -/

/-- The callers of the runner, from the start of the app. -/
def runnerStart (nextIdSuffix : ℕ) (commands : ι → RunnerCommand) :
    Callers QueueRunnerWorld ι QueueRunnerCall QueueRunnerCall.Answer Unit :=
  Callers.start ⟨{}, nextIdSuffix⟩ fun i => (commands i).script

/-- Every caller follows the protocol. -/
def RunnerSound (q : Callers QueueRunnerWorld ι QueueRunnerCall QueueRunnerCall.Answer Unit) :
    Prop :=
  q.Sound RunnerPhase.next .resting RunnerPhase.Allows fun _ _ => True

theorem runnerSound_start (nextIdSuffix : ℕ) (commands : ι → RunnerCommand) :
    RunnerSound (runnerStart nextIdSuffix commands) :=
  Callers.sound_start fun i => (commands i).follows

theorem continuationSafe_start (nextIdSuffix : ℕ) :
    ContinuationSafe (QueueRunnerWorld.view ⟨{}, nextIdSuffix⟩) (fun _ : ι => .resting) [] := by
  have hids : RunIds (QueueRunnerWorld.view ⟨{}, nextIdSuffix⟩) fun _ : ι => .resting := by
    constructor <;> simp [QueueRunnerWorld.view, RunnerPhase.seen, RunnerPhase.held]
  constructor
  case ids => exact hids
  all_goals simp [not_occurs_nil, atMostOnce_nil, QueueRunnerWorld.view, RunnerPhase.held,
    RunnerPhase.mark]

end Callers

end HobitQueue
