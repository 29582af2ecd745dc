import HobitQueue.Lib.Program
import HobitQueue.Lib.Run
import Mathlib.Logic.Function.Basic

/-!
# Programs beside each other

A pool is a shared store and one program for each of its clients. A schedule lists the
clients in the order in which they take their steps, so the schedules of a pool are the
interleavings of its programs. A pool remembers the store that the first step of a client
found: what a client relies on is stated relative to that store.

## Main definitions

* `Pool`, `Pool.step` — a pool, and one step of one client.
* `Pool.firstStore` — the store at the first step of a client.
* `Pool.answer` — the value of a client that is done.
* `Pool.Sound` — every client does what it promises with what is left of it.
* `Pool.invariant_after` — the induction over a schedule.
-/

namespace Concurrent

/-- A store, what is left of the program of each client, and the store that the first
step of a client found. -/
structure Pool (σ ι α : Type) where
  store : σ
  rest : ι → Prog σ α
  first : ι → Option σ

namespace Pool

variable {σ ι α γ : Type}

/-- A pool whose clients have not begun. -/
def start (s : σ) (clients : ι → Prog σ α) : Pool σ ι α := ⟨s, clients, fun _ => none⟩

/-- The store at the first step of a client: this one, if the client has not begun. -/
def firstStore (p : Pool σ ι α) (i : ι) : σ := (p.first i).getD p.store

/-- The value of a client that is done. -/
def answer (p : Pool σ ι α) (i : ι) : Option α :=
  match p.rest i with
  | .done a => some a
  | .step _ _ => none

/-- One step of one client; a client that is done stays as it is. -/
def step [DecidableEq ι] (p : Pool σ ι α) (i : ι) : Pool σ ι α :=
  match p.rest i with
  | .done _ => p
  | .step effect next =>
      { store := effect p.store
        rest := Function.update p.rest i (next p.store)
        first := Function.update p.first i (some (p.firstStore i)) }

/-! ## What the clients promise -/

/-- Every client maintains its record with what is left of its program. A client relies on
`assume` and each of its steps is a `commit`, both relative to the store it began with. -/
def Sound (assume : ι → σ → σ → Prop) (commit : ι → σ → γ → σ → σ → γ → Prop)
    (post : ι → γ → α → Prop) (records : ι → γ) (p : Pool σ ι α) : Prop :=
  ∀ i, match p.first i with
    | none => ∀ s₀, (p.rest i).Maintains (assume i s₀) (commit i s₀) (post i) (records i)
    | some s₀ => assume i s₀ p.store ∧
        (p.rest i).Maintains (assume i s₀) (commit i s₀) (post i) (records i)

variable {assume : ι → σ → σ → Prop} {commit : ι → σ → γ → σ → σ → γ → Prop}
  {post : ι → γ → α → Prop} {records : ι → γ} {p : Pool σ ι α}

theorem sound_start {s : σ} {clients : ι → Prog σ α}
    (h : ∀ i s₀, (clients i).Maintains (assume i s₀) (commit i s₀) (post i) (records i)) :
    (start s clients).Sound assume commit post records :=
  fun i s₀ => h i s₀

/-- What is left of a client keeps its promise from the store it began with. -/
theorem Sound.maintains (h : p.Sound assume commit post records) (hself : ∀ i s, assume i s s)
    (i : ι) : assume i (p.firstStore i) p.store ∧
      (p.rest i).Maintains (assume i (p.firstStore i)) (commit i (p.firstStore i)) (post i)
        (records i) := by
  have hi := h i
  unfold firstStore
  cases hfirst : p.first i with
  | none =>
    simp only [hfirst] at hi
    exact ⟨hself i _, hi _⟩
  | some s₀ =>
    simp only [hfirst] at hi
    exact hi

/-- The value of a client satisfies what it promised, for the record at its end. -/
theorem Sound.answer_post (h : p.Sound assume commit post records) (hself : ∀ i s, assume i s s)
    {i : ι} {a : α} (ha : p.answer i = some a) : post i (records i) a := by
  have hrest := (h.maintains hself i).2
  unfold answer at ha
  cases hprog : p.rest i with
  | done b =>
    rw [hprog] at ha hrest
    obtain rfl := Option.some.inj ha
    exact hrest
  | step effect next =>
    rw [hprog] at ha
    cases ha

variable [DecidableEq ι]

/-- A client that is done stays as it is. -/
theorem step_of_answer {i : ι} (h : p.answer i ≠ none) : p.step i = p := by
  unfold Pool.step
  unfold answer at h
  cases hprog : p.rest i with
  | done a => rfl
  | step effect next =>
    rw [hprog] at h
    exact absurd rfl h

/-- A step of a client leaves the programs of the others alone. -/
theorem answer_step_of_ne {i j : ι} (h : j ≠ i) : (p.step i).answer j = p.answer j ∧
    (p.step i).rest j = p.rest j := by
  have hrest : (p.step i).rest j = p.rest j := by
    unfold Pool.step
    cases p.rest i with
    | done a => rfl
    | step effect next => exact Function.update_of_ne h _ _
  exact ⟨by rw [answer, answer, hrest], hrest⟩

/-- A client that may not be done with its record has a next step, which is a commit. -/
theorem Sound.commits (h : p.Sound assume commit post records) (hself : ∀ i s, assume i s s)
    {i : ι} (hgoing : ∀ a, ¬ post i (records i) a) :
    ∃ g', commit i (p.firstStore i) (records i) p.store (p.step i).store g' := by
  obtain ⟨hassume, hrest⟩ := h.maintains hself i
  unfold Pool.step
  cases hprog : p.rest i with
  | done a =>
    rw [hprog] at hrest
    exact absurd hrest (hgoing a)
  | step effect next =>
    rw [hprog] at hrest
    obtain ⟨g', hcommit, -⟩ := hrest p.store hassume
    exact ⟨g', hcommit⟩

/-- **A step of a client is one of its commits**, and the clients stay sound when it does
not break what the others rely on. -/
theorem Sound.step (h : p.Sound assume commit post records) (hself : ∀ i s, assume i s s) (i : ι)
    (hstable : ∀ g', commit i (p.firstStore i) (records i) p.store (p.step i).store g' →
      ∀ j s₀, assume j s₀ p.store → assume j s₀ (p.step i).store) :
    p.step i = p ∨ ∃ g', commit i (p.firstStore i) (records i) p.store (p.step i).store g' ∧
      (p.step i).Sound assume commit post (Function.update records i g') := by
  obtain ⟨hassume, hrest⟩ := h.maintains hself i
  revert hstable
  unfold Pool.step
  cases hprog : p.rest i with
  | done a => exact fun _ => Or.inl rfl
  | step effect next =>
    intro hstable
    rw [hprog] at hrest
    obtain ⟨g', hcommit, hnext⟩ := hrest p.store hassume
    refine Or.inr ⟨g', hcommit, fun j => ?_⟩
    have hstore := hstable g' hcommit
    have hj := h j
    simp only at hstore ⊢
    by_cases hji : j = i
    · subst hji
      simp only [Function.update_self]
      exact ⟨hstore _ _ hassume, hnext⟩
    · simp only [Function.update_of_ne hji]
      cases hfirst : p.first j with
      | none =>
        simp only [hfirst] at hj
        exact hj
      | some s₀ =>
        simp only [hfirst] at hj
        exact ⟨hstore _ _ hj.1, hj.2⟩

/-- **What every commit preserves, an interleaving preserves**: commits that meet the
condition keep the invariant and what every client relies on. -/
theorem invariant_after {Good : Pool σ ι α → (ι → γ) → Prop} {cond : Pool σ ι α → ι → Prop}
    {schedule : List ι} (hself : ∀ i s, assume i s s)
    (hstable : ∀ (q : Pool σ ι α) records i g', cond q i → Good q records →
      commit i (q.firstStore i) (records i) q.store (q.step i).store g' →
      ∀ j s₀, assume j s₀ q.store → assume j s₀ (q.step i).store)
    (hgood : ∀ (q : Pool σ ι α) records i g', cond q i → Good q records →
      q.Sound assume commit post records → assume i (q.firstStore i) q.store →
      q.answer i = none →
      commit i (q.firstStore i) (records i) q.store (q.step i).store g' →
      Good (q.step i) (Function.update records i g'))
    (h : p.Sound assume commit post records) (hp : Good p records)
    (hcond : Machine.Along step cond p schedule) :
    ∃ records', Good (Machine.after step p schedule) records' ∧
      (Machine.after step p schedule).Sound assume commit post records' := by
  have hinv : ∀ (q : Pool σ ι α) (i : ι),
      (∃ records, Good q records ∧ q.Sound assume commit post records) → cond q i →
      ∃ records, Good (q.step i) records ∧
        (q.step i).Sound assume commit post records := by
    rintro q i ⟨records, hq, hsound⟩ hstep
    by_cases hanswer : q.answer i = none
    · obtain hsame | ⟨g', hcommit, hnext⟩ := hsound.step hself i fun g' hc =>
        hstable q records i g' hstep hq hc
      · rw [hsame]
        exact ⟨records, hq, hsound⟩
      · have hassume := (hsound.maintains hself i).1
        exact ⟨_, hgood q records i g' hstep hq hsound hassume hanswer hcommit, hnext⟩
    · rw [step_of_answer hanswer]
      exact ⟨records, hq, hsound⟩
  exact Machine.invariant_after hinv ⟨records, hp, h⟩ hcond

/-- The induction for clients that keep no records. -/
theorem invariant_of_guarantees {commit' : ι → σ → σ → σ → Prop} {post' : ι → α → Prop}
    {Good : σ → Prop} {cond : Pool σ ι α → ι → Prop} {s : σ} {clients : ι → Prog σ α}
    {schedule : List ι} (hself : ∀ i s, assume i s s)
    (hclients : ∀ i s₀, (clients i).Guarantees (assume i s₀) (commit' i s₀) (post' i))
    (hstable : ∀ (q : Pool σ ι α) i, cond q i → Good q.store →
      commit' i (q.firstStore i) q.store (q.step i).store →
      ∀ j s₀, assume j s₀ q.store → assume j s₀ (q.step i).store)
    (hgood : ∀ (q : Pool σ ι α) i, cond q i → Good q.store →
      assume i (q.firstStore i) q.store →
      commit' i (q.firstStore i) q.store (q.step i).store → Good (q.step i).store)
    (hs : Good s) (hcond : Machine.Along step cond (start s clients) schedule) :
    Good (Machine.after step (start s clients) schedule).store := by
  have hsound : (start s clients).Sound assume (fun i s₀ (_ : Unit) u t _ => commit' i s₀ u t)
      (fun i g a => g = () ∧ post' i a) fun _ => () :=
    sound_start fun i s₀ => (hclients i s₀).maintains () fun _ _ hc => hc
  obtain ⟨_, hafter, -⟩ := @invariant_after _ _ _ Unit _ _ _ _ _ _ (fun q _ => Good q.store) _ _
    hself (fun q _ i _ hc hq hcommit => hstable q i hc hq hcommit)
    (fun q _ i _ hc hq _ ha _ hcommit => hgood q i hc hq ha hcommit) hsound hs hcond
  exact hafter

end Pool
end Concurrent
