import Mathlib.Data.List.Basic

/-!
# Runs of a state machine

A machine whose every operation takes a state to a next one runs through a list of
operations, its history. A condition on the steps of a history is stated on the
state each step finds. Whatever a step preserves, a history preserves.

## Main definitions

* `after` — the state after a history.
* `Along` — every step of a history meets a condition.
* `invariant_after` — the induction over a history.
-/

namespace Machine

variable {σ ω : Type} (step : σ → ω → σ)

/-- The state after a history. -/
def after (s : σ) (history : List ω) : σ := history.foldl step s

@[simp] theorem after_nil (s : σ) : after step s [] = s := rfl

@[simp] theorem after_cons (s : σ) (op : ω) (history : List ω) :
    after step s (op :: history) = after step (step s op) history := rfl

theorem after_append (s : σ) (before later : List ω) :
    after step s (before ++ later) = after step (after step s before) later :=
  List.foldl_append

theorem after_concat (s : σ) (history : List ω) (op : ω) :
    after step s (history ++ [op]) = step (after step s history) op := by
  rw [after_append]
  rfl

/-- Every step of the history meets the condition in the state it finds. -/
def Along (cond : σ → ω → Prop) : σ → List ω → Prop
  | _, [] => True
  | s, op :: history => cond s op ∧ Along cond (step s op) history

variable {step} {cond : σ → ω → Prop}

instance decidableAlong [∀ s op, Decidable (cond s op)] :
    (s : σ) → (history : List ω) → Decidable (Along step cond s history)
  | _, [] => isTrue trivial
  | s, op :: history =>
      have := decidableAlong (step s op) history
      inferInstanceAs (Decidable (cond s op ∧ Along step cond (step s op) history))

theorem along_append {s : σ} {before later : List ω} :
    Along step cond s (before ++ later) ↔
      Along step cond s before ∧ Along step cond (after step s before) later := by
  induction before generalizing s with
  | nil => simp [Along]
  | cons op before ih => simp [Along, ih, and_assoc]

theorem Along.mono {cond' : σ → ω → Prop} (himp : ∀ s op, cond s op → cond' s op) {s : σ}
    {history : List ω} (h : Along step cond s history) : Along step cond' s history := by
  induction history generalizing s with
  | nil => trivial
  | cons op history ih => exact ⟨himp s op h.1, ih h.2⟩

/-- A condition that every step meets is met along every history. -/
theorem along_of_forall (h : ∀ s op, cond s op) (s : σ) (history : List ω) :
    Along step cond s history := by
  induction history generalizing s with
  | nil => trivial
  | cons op history ih => exact ⟨h s op, ih _⟩

/-- **What every step preserves, a history preserves.** -/
theorem invariant_after {Inv : σ → Prop}
    (hstep : ∀ s op, Inv s → cond s op → Inv (step s op)) {s : σ} {history : List ω}
    (hs : Inv s) (h : Along step cond s history) : Inv (after step s history) := by
  induction history generalizing s with
  | nil => exact hs
  | cons op history ih => exact ih (hstep s op hs h.1) h.2

/-- The invariant of a machine whose steps meet no particular condition. -/
theorem invariant_after_any {Inv : σ → Prop} (hstep : ∀ s op, Inv s → Inv (step s op)) {s : σ}
    (hs : Inv s) (history : List ω) : Inv (after step s history) := by
  have hall : Along step (fun _ _ => True) s history := along_of_forall (fun _ _ => trivial) _ _
  exact invariant_after (fun s op hinv _ => hstep s op hinv) hs hall

end Machine
