import HobitQueue.Lib.Program

/-!
# What a program leaves alone, and what a check refuses

A program keeps a part of the store when no run of it changes that part, whether it ends
in a value or in an error. A check refuses with a property when every error it ends in has
the property. Both are built up along the program text.

## Main definitions

* `StoreProg.Keeps` — a program keeps a part of the store.
* `StoreProg.Moves` — a successful run moves a part of the store by a relation.
* `RefusesWith` — the errors of a check have a property.
-/

namespace Concurrent
namespace StoreProg

variable {σ ε ε' α β π : Type} {part : σ → π}

/-- No run of the program changes this part of the store. -/
def Keeps (part : σ → π) (p : StoreProg σ ε α) : Prop := ∀ s, part (exec p s).2 = part s

theorem Keeps.of_exec {p : StoreProg σ ε α} (hp : p.Keeps part) {s t : σ} {r : Except ε α}
    (h : exec p s = (r, t)) : part t = part s := by
  have hs := hp s
  rw [h] at hs
  exact hs

theorem keeps_pure (a : α) : (pure a : StoreProg σ ε α).Keeps part := fun _ => rfl

theorem keeps_throw (e : ε) : (throw e : StoreProg σ ε α).Keeps part := fun _ => rfl

theorem keeps_query (f : σ → α) : (query f : StoreProg σ ε α).Keeps part := fun _ => rfl

theorem keeps_execute {f : σ → Except ε (α × σ)}
    (h : ∀ s a t, f s = .ok (a, t) → part t = part s) : (execute f).Keeps part := by
  intro s
  rw [exec_execute]
  rcases hf : f s with e | ⟨a, t⟩
  · rfl
  · exact h s a t hf

theorem Keeps.bind {p : StoreProg σ ε α} {f : α → StoreProg σ ε β} (hp : p.Keeps part)
    (hf : ∀ a, (f a).Keeps part) : (p >>= f).Keeps part := by
  intro s
  rw [exec_bind]
  have hs := hp s
  rcases hrun : exec p s with ⟨e | a, t⟩
  · rw [hrun] at hs
    exact hs
  · rw [hrun] at hs
    exact (hf a t).trans hs

theorem Keeps.mapErr {g : ε → ε'} {p : StoreProg σ ε α} (hp : p.Keeps part) :
    (p.mapErr g).Keeps part := by
  intro s
  rw [exec_mapErr]
  exact hp s

theorem Keeps.atomically {p : StoreProg σ ε α} (hp : p.Keeps part) :
    (atomically p).Keeps part := by
  intro s
  have hs := hp s
  rw [exec_atomically]
  rcases hrun : exec p s with ⟨e | a, t⟩
  · rfl
  · rw [hrun] at hs
    exact hs

/-- A run that succeeds moves this part of the store by the relation. -/
def Moves (part : σ → π) (Q : π → π → Prop) (p : StoreProg σ ε α) : Prop :=
  ∀ s a t, exec p s = (.ok a, t) → Q (part s) (part t)

variable {Q : π → π → Prop}

theorem moves_execute {f : σ → Except ε (α × σ)}
    (h : ∀ s a t, f s = .ok (a, t) → Q (part s) (part t)) : (execute f).Moves part Q :=
  fun s a t hrun => h s a t (exec_execute_ok.1 hrun)

/-- What is kept before a move does not count. -/
theorem Keeps.bind_moves {p : StoreProg σ ε α} {f : α → StoreProg σ ε β} (hp : p.Keeps part)
    (hf : ∀ a, (f a).Moves part Q) : (p >>= f).Moves part Q := by
  intro s b t h
  obtain ⟨a, u, hrun, h⟩ := exec_bind_ok.1 h
  have hmove := hf a u b t h
  rwa [hp.of_exec hrun] at hmove

/-- What is kept after a move does not count. -/
theorem Moves.bind_keeps {p : StoreProg σ ε α} {f : α → StoreProg σ ε β} (hp : p.Moves part Q)
    (hf : ∀ a, (f a).Keeps part) : (p >>= f).Moves part Q := by
  intro s b t h
  obtain ⟨a, u, hrun, h⟩ := exec_bind_ok.1 h
  rw [(hf a).of_exec h]
  exact hp s a u hrun

theorem Moves.mono {Q' : π → π → Prop} (himp : ∀ x y, Q x y → Q' x y) {p : StoreProg σ ε α}
    (hp : p.Moves part Q) : p.Moves part Q' :=
  fun s a t h => himp _ _ (hp s a t h)

end StoreProg
end Concurrent

section Checks

variable {ε ε' α β : Type} {P : ε → Prop}

/-- Every error the check ends in has the property. -/
def RefusesWith (P : ε → Prop) (x : Except ε α) : Prop := ∀ e, x = .error e → P e

theorem refusesWith_ok (a : α) : RefusesWith P (.ok a : Except ε α) := nofun

theorem refusesWith_pure (a : α) : RefusesWith P (pure a : Except ε α) := nofun

theorem refusesWith_error {e : ε} (h : P e) : RefusesWith P (.error e : Except ε α) := by
  rintro _ ⟨⟩
  exact h

theorem RefusesWith.bind {x : Except ε α} {f : α → Except ε β} (hx : RefusesWith P x)
    (hf : ∀ a, x = .ok a → RefusesWith P (f a)) : RefusesWith P (x >>= f) := by
  intro e he
  cases x with
  | error e' =>
    obtain rfl := Except.error.inj he
    exact hx e' rfl
  | ok a => exact hf a rfl e he

theorem refusesWith_mapError {Q : ε' → Prop} {g : ε → ε'} {x : Except ε α} (h : ∀ e, Q (g e)) :
    RefusesWith Q (x.mapError g) := by
  intro e he
  cases x with
  | error e' =>
    obtain rfl := Except.error.inj he
    exact h e'
  | ok a => cases he

end Checks
