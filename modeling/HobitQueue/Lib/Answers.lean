import HobitQueue.Lib.Program

/-!
# What a reader answers

The checks of a command are a program that reads: in a given store it has an answer, or it
fails. Which of the two is said by an option, and the options of a sequence are bound.

## Main definitions

* `Answers` — in a store the program answers the given value, or fails if there is none.
* `collect` — a loop that keeps what each round finds.

## Main results

* `Answers.bind` — the answer of a sequence.
* `Answers.exec_bind_some`, `Answers.exec_bind_none` — the run of a program that starts with
  checks.
-/

namespace Concurrent
namespace StoreProg

variable {σ ε α β : Type} {s : σ}

/-- The program leaves the store alone, and answers the value or fails if there is none. -/
def Answers (p : StoreProg σ ε α) (s : σ) (o : Option α) : Prop :=
  match o with
  | some a => exec p s = (.ok a, s)
  | none => ∃ e, exec p s = (.error e, s)

theorem Answers.of_eq {p : StoreProg σ ε α} {o o' : Option α} (hp : p.Answers s o)
    (ho : o = o') : p.Answers s o' := ho ▸ hp

theorem answers_pure (a : α) : (pure a : StoreProg σ ε α).Answers s (some a) := rfl

theorem answers_throw (e : ε) : (throw e : StoreProg σ ε α).Answers s none := ⟨e, rfl⟩

/-- A guard answers if its condition does not hold. -/
theorem answers_failIf (c : Bool) (e : ε) :
    (failIf c e : StoreProg σ ε Unit).Answers s (if c then none else some ()) := by
  cases c with
  | false => exact exec_failIf false e s
  | true => exact ⟨e, exec_failIf true e s⟩

theorem Answers.exec_bind_some {p : StoreProg σ ε α} {f : α → StoreProg σ ε β} {a : α}
    (hp : p.Answers s (some a)) : exec (p >>= f) s = exec (f a) s := by
  have hrun : exec p s = (.ok a, s) := hp
  rw [exec_bind, hrun]

theorem Answers.exec_bind_none {p : StoreProg σ ε α} {f : α → StoreProg σ ε β}
    (hp : p.Answers s none) : ∃ e, exec (p >>= f) s = (.error e, s) := by
  obtain ⟨e, hrun⟩ := hp
  refine ⟨e, ?_⟩
  rw [exec_bind, hrun]

/-- **A sequence of checks answers what its second part does, once the first part has
answered.** -/
theorem Answers.bind {p : StoreProg σ ε α} {f : α → StoreProg σ ε β} {o : Option α}
    {g : α → Option β} (hp : p.Answers s o) (hf : ∀ a, (f a).Answers s (g a)) :
    (p >>= f).Answers s (o.bind g) := by
  cases o with
  | none => exact hp.exec_bind_none
  | some a =>
    have hrun : exec (p >>= f) s = exec (f a) s := hp.exec_bind_some
    have hnext := hf a
    unfold Answers at hnext ⊢
    rw [hrun]
    exact hnext

/-- A guard in front of checks. -/
theorem Answers.failIf_bind {c : Bool} {e : ε} {f : Unit → StoreProg σ ε β} {o : Option β}
    (hf : (f ()).Answers s o) :
    ((failIf c e : StoreProg σ ε Unit) >>= f).Answers s (if c then none else o) := by
  have hbind := (answers_failIf (s := s) c e).bind (g := fun _ => o) fun _ => hf
  cases c with
  | false => exact hbind
  | true => exact hbind

theorem Answers.query_bind {q : σ → α} {f : α → StoreProg σ ε β} {o : Option β}
    (hf : (f (q s)).Answers s o) : ((query q : StoreProg σ ε α) >>= f).Answers s o := by
  unfold Answers at hf ⊢
  rw [exec_query_bind]
  exact hf

/-- A loop over a list, each round of which finds a few values. -/
def collect (f : α → StoreProg σ ε (List β)) : List α → StoreProg σ ε (List β)
  | [] => pure []
  | a :: rest => do
      let found ← f a
      let others ← collect f rest
      pure (found ++ others)

/-- A loop of rounds that all answer finds what the rounds find. -/
theorem answers_collect {f : α → StoreProg σ ε (List β)} {g : α → List β}
    (h : ∀ a, (f a).Answers s (some (g a))) (l : List α) :
    (collect f l).Answers s (some (l.flatMap g)) := by
  induction l with
  | nil => exact answers_pure _
  | cons a rest ih =>
    have hrest : ∀ found, (do
        let others ← collect f rest
        pure (found ++ others) : StoreProg σ ε (List β)).Answers s
        (some (found ++ rest.flatMap g)) := fun found =>
      (ih.bind fun others => answers_pure (found ++ others)).of_eq rfl
    exact ((h a).bind hrest).of_eq rfl

end StoreProg
end Concurrent
