import HobitQueue.Lib.Run
import Mathlib.Logic.Function.Basic

/-!
# Scripts of calls

A script is a program that acts through **calls** only: it makes a call, and goes on
with the answer. Several callers with a script each share a world; a call is one atomic
step on it, and what lies outside the world may answer a call in any way. A log keeps the
calls and their answers.

How far a caller is can be read off the log (`phase`). A script follows a protocol when
it makes in each phase only the calls that the protocol allows there.

## Main definitions

* `Script` — programs of calls.
* `Script.Follows` — the script keeps to a protocol of phases.
* `Script.alone` — a script without other callers.
* `Callers`, `Callers.step` — callers that share a world, and one call of one of them.
* `Callers.invariant_after` — the induction over a run.
* `Occurs`, `AtMostOnce` — what a log says about an event that depends on the log so far.
-/

namespace Concurrent

/-- A program: a value, or a call followed by a program that depends on the answer. -/
inductive Script (Call : Type) (Answer : Call → Type) (α : Type) : Type
  | done (value : α)
  | call (c : Call) (next : Answer c → Script Call Answer α)

namespace Script

variable {Call : Type} {Answer : Call → Type} {α β γ : Type}

/-- Sequencing: the second program starts where the first one is done. -/
def bind : Script Call Answer α → (α → Script Call Answer β) → Script Call Answer β
  | done a, f => f a
  | call c next, f => call c fun answer => (next answer).bind f

instance : Monad (Script Call Answer) where
  pure := done
  bind := bind

/-- The program of a single call. -/
def perform (c : Call) : Script Call Answer (Answer c) := call c done

/-! ## Protocols -/

/-- In each phase the script makes only calls that are allowed there, whatever the
answers, and it ends with a value that fits the phase. -/
def Follows (allowed : γ → Call → Prop) (next : γ → (c : Call) → Answer c → γ)
    (post : γ → α → Prop) : γ → Script Call Answer α → Prop
  | g, done a => post g a
  | g, call c rest => allowed g c ∧ ∀ answer,
      (rest answer).Follows allowed next post (next g c answer)

variable {allowed : γ → Call → Prop} {next : γ → (c : Call) → Answer c → γ}
  {post : γ → α → Prop} {post' : γ → β → Prop} {g : γ}

theorem follows_pure {a : α} (h : post g a) :
    (pure a : Script Call Answer α).Follows allowed next post g := h

theorem follows_perform {c : Call} {post : γ → Answer c → Prop} (hc : allowed g c)
    (h : ∀ answer, post (next g c answer) answer) :
    (perform c : Script Call Answer (Answer c)).Follows allowed next post g :=
  ⟨hc, h⟩

theorem Follows.bind {p : Script Call Answer α} {f : α → Script Call Answer β}
    (hp : p.Follows allowed next post g)
    (hf : ∀ g' a, post g' a → (f a).Follows allowed next post' g') :
    (p >>= f).Follows allowed next post' g := by
  change (p.bind f).Follows allowed next post' g
  induction p generalizing g with
  | done a => exact hf g a hp
  | call c rest ih => exact ⟨hp.1, fun answer => ih answer (hp.2 answer)⟩

/-- A call comes first, and its answer moves the phase on. -/
theorem follows_perform_bind {c : Call} {f : Answer c → Script Call Answer β}
    (hc : allowed g c)
    (hf : ∀ answer, (f answer).Follows allowed next post' (next g c answer)) :
    (perform c >>= f).Follows allowed next post' g :=
  ⟨hc, hf⟩

/-! ## A script alone -/

section Alone

variable {σ O : Type} (handle : O → (c : Call) → σ → Answer c × σ) (outside : ℕ → O)

/-- A script whose calls nobody else's calls come between: its value, and the world after it.
The calls are counted, and each finds the outside as it is by then. -/
def alone : Script Call Answer α → ℕ → σ → α × ℕ × σ
  | done a, n, w => (a, n, w)
  | call c next, n, w =>
    (next (handle (outside n) c w).1).alone (n + 1) (handle (outside n) c w).2

@[simp] theorem alone_pure (a : α) (n : ℕ) (w : σ) :
    (pure a : Script Call Answer α).alone handle outside n w = (a, n, w) := rfl

@[simp] theorem alone_perform_bind (c : Call) (f : Answer c → Script Call Answer β) (n : ℕ)
    (w : σ) :
    (perform c >>= f).alone handle outside n w =
      (f (handle (outside n) c w).1).alone handle outside (n + 1) (handle (outside n) c w).2 :=
  rfl

end Alone

end Script

/-! ## Callers of one world -/

/-- A call that was made, by whom, and how it was answered. -/
structure Event (ι Call : Type) (Answer : Call → Type) where
  caller : ι
  call : Call
  answer : Answer call

/-- The phase of a caller: where its calls and their answers have taken it. -/
def phase {ι Call γ : Type} {Answer : Call → Type} [DecidableEq ι]
    (next : γ → (c : Call) → Answer c → γ) (init : γ) (log : List (Event ι Call Answer))
    (i : ι) : γ :=
  log.foldl (fun g e => if e.caller = i then next g e.call e.answer else g) init

/-- A world, what is left of the script of each caller, and the calls made so far. -/
structure Callers (σ ι Call : Type) (Answer : Call → Type) (α : Type) where
  world : σ
  rest : ι → Script Call Answer α
  log : List (Event ι Call Answer)

namespace Callers

variable {σ ι Call O α γ : Type} {Answer : Call → Type}

/-- Callers that have made no call yet. -/
def start (w : σ) (scripts : ι → Script Call Answer α) : Callers σ ι Call Answer α :=
  ⟨w, scripts, []⟩

/-- The next call of a caller. -/
def nextCall (q : Callers σ ι Call Answer α) (i : ι) : Option Call :=
  match q.rest i with
  | .done _ => none
  | .call c _ => some c

section

variable [DecidableEq ι] (handle : O → (c : Call) → σ → Answer c × σ)
  (next : γ → (c : Call) → Answer c → γ) (init : γ)

/-- The next call of one caller, with the outside as it is at that moment; a caller that
is done stays as it is. -/
def step (q : Callers σ ι Call Answer α) (move : ι × O) : Callers σ ι Call Answer α :=
  match q.rest move.1 with
  | .done _ => q
  | .call c rest =>
      let answered := handle move.2 c q.world
      { world := answered.2
        rest := Function.update q.rest move.1 (rest answered.1)
        log := q.log ++ [⟨move.1, c, answered.1⟩] }

theorem phase_concat (log : List (Event ι Call Answer)) (e : Event ι Call Answer) :
    phase next init (log ++ [e]) = Function.update (phase next init log) e.caller
      (next (phase next init log e.caller) e.call e.answer) := by
  funext i
  rw [phase, List.foldl_append]
  by_cases hi : e.caller = i
  · subst hi
    simp [phase]
  · rw [Function.update_of_ne (Ne.symm hi)]
    simp [phase, hi]

/-- Every caller follows the protocol with what is left of its script. -/
def Sound (allowed : γ → Call → Prop) (post : γ → α → Prop)
    (q : Callers σ ι Call Answer α) : Prop :=
  ∀ i, (q.rest i).Follows allowed next post (phase next init q.log i)

/-- A condition on the calls, in the world and after the calls they find. -/
def Meets (cond : σ → List (Event ι Call Answer) → ι → Call → Prop)
    (q : Callers σ ι Call Answer α) (move : ι × O) : Prop :=
  ∀ c ∈ q.nextCall move.1, cond q.world q.log move.1 c

instance {cond : σ → List (Event ι Call Answer) → ι → Call → Prop}
    [∀ w log i c, Decidable (cond w log i c)] (q : Callers σ ι Call Answer α)
    (move : ι × O) : Decidable (q.Meets cond move) :=
  inferInstanceAs (Decidable (∀ c ∈ q.nextCall move.1, cond q.world q.log move.1 c))

end

variable [DecidableEq ι] {handle : O → (c : Call) → σ → Answer c × σ}
  {next : γ → (c : Call) → Answer c → γ} {init : γ} {allowed : γ → Call → Prop}
  {post : γ → α → Prop} {cond : σ → List (Event ι Call Answer) → ι → Call → Prop}
  {q : Callers σ ι Call Answer α}

theorem sound_start {w : σ} {scripts : ι → Script Call Answer α}
    (h : ∀ i, (scripts i).Follows allowed next post init) :
    (start w scripts).Sound next init allowed post := h

/-- A step is nothing, or a call that is allowed in the phase of its caller. -/
theorem Sound.step (h : q.Sound next init allowed post) (move : ι × O) :
    (q.step handle move = q ∧ q.nextCall move.1 = none) ∨
      ∃ c, q.nextCall move.1 = some c ∧ allowed (phase next init q.log move.1) c ∧
        (q.step handle move).world = (handle move.2 c q.world).2 ∧
        (q.step handle move).log =
          q.log ++ [⟨move.1, c, (handle move.2 c q.world).1⟩] ∧
        (q.step handle move).Sound next init allowed post := by
  have hi := h move.1
  unfold Callers.step nextCall
  cases hrest : q.rest move.1 with
  | done a => exact Or.inl ⟨rfl, rfl⟩
  | call c rest =>
    rw [hrest] at hi
    refine Or.inr ⟨c, rfl, hi.1, rfl, rfl, fun j => ?_⟩
    simp only [phase_concat]
    by_cases hj : j = move.1
    · subst hj
      simp only [Function.update_self]
      exact hi.2 _
    · simp only [Function.update_of_ne hj]
      exact h j

/-- **What every allowed call preserves, a run preserves**: an invariant of the world and
the log, for runs whose calls all meet a condition. -/
theorem invariant_after {Inv : σ → List (Event ι Call Answer) → Prop}
    (hcall : ∀ w log i c o, allowed (phase next init log i) c → cond w log i c →
      Inv w log → Inv (handle o c w).2 (log ++ [⟨i, c, (handle o c w).1⟩]))
    (hsound : q.Sound next init allowed post) (hq : Inv q.world q.log)
    {moves : List (ι × O)}
    (hcond : Machine.Along (Callers.step handle) (Meets cond) q moves) :
    let r := Machine.after (Callers.step handle) q moves
    Inv r.world r.log ∧ r.Sound next init allowed post := by
  have hstep : ∀ (p : Callers σ ι Call Answer α) (move : ι × O),
      (Inv p.world p.log ∧ p.Sound next init allowed post) → p.Meets cond move →
      Inv (p.step handle move).world (p.step handle move).log ∧
        (p.step handle move).Sound next init allowed post := by
    rintro p move ⟨hinv, hp⟩ hmeets
    obtain ⟨hsame, -⟩ | ⟨c, hnext, hallowed, hworld, hlog, hafter⟩ := hp.step move
    · rw [hsame]
      exact ⟨hinv, hp⟩
    · rw [hworld, hlog]
      exact ⟨hcall _ _ _ _ _ hallowed (hmeets c hnext) hinv, hafter⟩
  exact Machine.invariant_after hstep ⟨hq, hsound⟩ hcond

end Callers

/-! ## Logs -/

section Logs

variable {ε : Type} {P : List ε → ε → Prop} {log : List ε} {e : ε}

/-- An event of the log is a `P`, given the events before it. -/
def Occurs (P : List ε → ε → Prop) (log : List ε) : Prop :=
  ∃ before e later, log = before ++ e :: later ∧ P before e

/-- No two events of the log are a `P`, given the events before each. -/
def AtMostOnce (P : List ε → ε → Prop) (log : List ε) : Prop :=
  ∀ before e later, log = before ++ e :: later → P before e → ¬ Occurs P before

theorem not_occurs_nil : ¬ Occurs P [] := by
  rintro ⟨before, e, later, h, -⟩
  exact absurd h.symm (List.append_ne_nil_of_right_ne_nil _ (List.cons_ne_nil _ _))

theorem occurs_concat : Occurs P (log ++ [e]) ↔ Occurs P log ∨ P log e := by
  constructor
  · rintro ⟨before, e', later, h, hP⟩
    obtain rfl | ⟨later', last, rfl⟩ := List.eq_nil_or_concat later
    · obtain ⟨rfl, he⟩ := List.append_inj' h rfl
      obtain rfl := List.cons.inj he |>.1
      exact Or.inr hP
    · rw [List.concat_eq_append, ← List.cons_append, ← List.append_assoc] at h
      obtain ⟨rfl, -⟩ := List.append_inj' h rfl
      exact Or.inl ⟨before, e', later', rfl, hP⟩
  · rintro (⟨before, e', later, rfl, hP⟩ | hP)
    · exact ⟨before, e', later ++ [e], by simp, hP⟩
    · exact ⟨log, e, [], rfl, hP⟩

theorem atMostOnce_nil : AtMostOnce P [] := by
  intro before e later h
  exact absurd h.symm (List.append_ne_nil_of_right_ne_nil _ (List.cons_ne_nil _ _))

theorem AtMostOnce.concat (h : AtMostOnce P log) (he : P log e → ¬ Occurs P log) :
    AtMostOnce P (log ++ [e]) := by
  intro before e' later hlog hP
  obtain rfl | ⟨later', last, rfl⟩ := List.eq_nil_or_concat later
  · obtain ⟨rfl, heq⟩ := List.append_inj' hlog rfl
    obtain rfl := List.cons.inj heq |>.1
    exact he hP
  · rw [List.concat_eq_append, ← List.cons_append, ← List.append_assoc] at hlog
    obtain ⟨rfl, -⟩ := List.append_inj' hlog rfl
    exact h before e' later' rfl hP

end Logs

end Concurrent
