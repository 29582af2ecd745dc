import Mathlib.Logic.Relation

/-!
# Programs over a shared store

A program is a sequence of **atomic steps** on a shared store. Run alone, it is
an ordinary stateful computation (`Prog.run`). Run beside other programs, the
store may change between two of its steps, and what it does must be argued step
by step (`Prog.Guarantees`).

Errors are values: `StoreProg σ ε α` is a program that ends in `Except ε α`, and
`atomically` runs a whole program as one step that is undone when it fails.

## Main definitions

* `Prog`, `Prog.run` — programs and their run without interference.
* `StoreProg`, `StoreProg.exec` — programs that may fail.
* `StoreProg.check`, `StoreProg.failIf` — checks that leave the store alone.
* `StoreProg.query`, `StoreProg.execute`, `StoreProg.atomically` — one read, one
  statement, one transaction.
* `Prog.Guarantees` — what every step of a program does while others keep an
  assumption on the store.
* `Prog.Maintains`, `StoreProg.Maintains` — the same, with a record of its own that the
  program may change with each step.
* `StoreProg.ReadOnly` — programs whose steps are reads.
-/

namespace Concurrent

/-- A program: a value, or one atomic step on the store followed by a program
that depends on the store the step found. -/
inductive Prog (σ α : Type) : Type
  | done (value : α)
  | step (effect : σ → σ) (next : σ → Prog σ α)

namespace Prog

variable {σ α β : Type}

/-- Sequencing: the second program starts where the first one is done. -/
def bind : Prog σ α → (α → Prog σ β) → Prog σ β
  | done a, f => f a
  | step effect next, f => step effect fun s => (next s).bind f

instance : Monad (Prog σ) where
  pure := done
  bind := bind

/-- The run of a program that has the store for itself. -/
def run : Prog σ α → σ → α × σ
  | done a, s => (a, s)
  | step effect next, s => (next s).run (effect s)

@[simp] theorem run_pure (a : α) (s : σ) : (pure a : Prog σ α).run s = (a, s) := rfl

@[simp] theorem run_bind (p : Prog σ α) (f : α → Prog σ β) (s : σ) :
    (p >>= f).run s = (f (p.run s).1).run (p.run s).2 := by
  change (p.bind f).run s = _
  induction p generalizing s with
  | done a => rfl
  | step effect next ih => exact ih s (effect s)

/-- One atomic step that computes a value and a new store. -/
def atomic (f : σ → α × σ) : Prog σ α :=
  step (fun s => (f s).2) fun s => done (f s).1

@[simp] theorem run_atomic (f : σ → α × σ) (s : σ) : (atomic f).run s = f s := rfl

/-- While every store a step finds satisfies `assume`, every step of the program
is a `commit`, and its value satisfies `post`. -/
def Guarantees (assume : σ → Prop) (commit : σ → σ → Prop) (post : α → Prop) :
    Prog σ α → Prop
  | done a => post a
  | step effect next =>
      ∀ s, assume s → commit s (effect s) ∧ (next s).Guarantees assume commit post

section Guarantees

variable {assume : σ → Prop} {commit : σ → σ → Prop} {post : α → Prop} {post' : β → Prop}

theorem Guarantees.bind {p : Prog σ α} {f : α → Prog σ β}
    (hp : p.Guarantees assume commit post)
    (hf : ∀ a, post a → (f a).Guarantees assume commit post') :
    (p >>= f).Guarantees assume commit post' := by
  change (p.bind f).Guarantees assume commit post'
  induction p with
  | done a => exact hf a hp
  | step effect next ih =>
      intro s hs
      obtain ⟨hstep, hnext⟩ := hp s hs
      exact ⟨hstep, ih s hnext⟩

end Guarantees

/-- `Guarantees` for a program that keeps a record: each step moves the record along, and
the value satisfies `post` for the record at the end. -/
def Maintains {γ : Type} (assume : σ → Prop) (commit : γ → σ → σ → γ → Prop)
    (post : γ → α → Prop) : γ → Prog σ α → Prop
  | g, done a => post g a
  | g, step effect next =>
      ∀ s, assume s → ∃ g', commit g s (effect s) g' ∧ (next s).Maintains assume commit post g'

section Maintains

variable {γ : Type} {assume : σ → Prop} {commit : γ → σ → σ → γ → Prop} {post : γ → α → Prop}
  {post' : γ → β → Prop}

theorem Maintains.bind {g : γ} {p : Prog σ α} {f : α → Prog σ β}
    (hp : p.Maintains assume commit post g)
    (hf : ∀ g' a, post g' a → (f a).Maintains assume commit post' g') :
    (p >>= f).Maintains assume commit post' g := by
  change (p.bind f).Maintains assume commit post' g
  induction p generalizing g with
  | done a => exact hf g a hp
  | step effect next ih =>
      intro s hs
      obtain ⟨g', hstep, hnext⟩ := hp s hs
      exact ⟨g', hstep, ih s hnext⟩

theorem Maintains.mono {g : γ} {p : Prog σ α} {post₂ : γ → α → Prop}
    (hp : p.Maintains assume commit post g) (h : ∀ g' a, post g' a → post₂ g' a) :
    p.Maintains assume commit post₂ g := by
  induction p generalizing g with
  | done a => exact h g a hp
  | step effect next ih =>
      intro s hs
      obtain ⟨g', hstep, hnext⟩ := hp s hs
      exact ⟨g', hstep, ih s hnext⟩

/-- A program whose steps need no record keeps any record as it is. -/
theorem Guarantees.maintains {commit' : σ → σ → Prop} {post₁ : α → Prop} {p : Prog σ α}
    (h : p.Guarantees assume commit' post₁) (g : γ)
    (hcommit : ∀ s t, commit' s t → commit g s t g) :
    p.Maintains assume commit (fun g' a => g' = g ∧ post₁ a) g := by
  induction p with
  | done a => exact ⟨rfl, h⟩
  | step effect next ih =>
      intro s hs
      obtain ⟨hstep, hnext⟩ := h s hs
      exact ⟨g, hcommit _ _ hstep, ih s hnext⟩

end Maintains
end Prog

/-- A program that ends in a value or in an error. -/
abbrev StoreProg (σ ε α : Type) : Type := ExceptT ε (Prog σ) α

namespace StoreProg

variable {σ ε ε' α β : Type}

/-- The run of a program that has the store for itself: its answer and the store
it leaves. -/
def exec (p : StoreProg σ ε α) (s : σ) : Except ε α × σ := Prog.run (ExceptT.run p) s

@[simp] theorem exec_pure (a : α) (s : σ) :
    exec (pure a : StoreProg σ ε α) s = (.ok a, s) := rfl

@[simp] theorem exec_throw (e : ε) (s : σ) :
    exec (throw e : StoreProg σ ε α) s = (.error e, s) := rfl

/-- Sequencing stops at the first error and keeps the store it left. -/
theorem exec_bind (p : StoreProg σ ε α) (f : α → StoreProg σ ε β) (s : σ) :
    exec (p >>= f) s =
      match exec p s with
      | (.ok a, t) => exec (f a) t
      | (.error e, t) => (.error e, t) := by
  change Prog.run (ExceptT.run p >>= ExceptT.bindCont f) s = _
  rw [Prog.run_bind]
  unfold exec
  rcases Prog.run (ExceptT.run p) s with ⟨_ | _, t⟩ <;> rfl

/-- A sequence that succeeds is two runs that succeed. -/
theorem exec_bind_ok {p : StoreProg σ ε α} {f : α → StoreProg σ ε β} {s t : σ} {b : β} :
    exec (p >>= f) s = (.ok b, t) ↔
      ∃ a u, exec p s = (.ok a, u) ∧ exec (f a) u = (.ok b, t) := by
  rw [exec_bind]
  constructor
  · intro h
    rcases hp : exec p s with ⟨e | a, u⟩ <;> rw [hp] at h
    · simp at h
    · exact ⟨a, u, rfl, h⟩
  · rintro ⟨a, u, hp, hf⟩
    rw [hp]
    exact hf

/-- A sequence ends in the error of its first part or in what its second part ends in. -/
theorem exec_bind_eq {p : StoreProg σ ε α} {f : α → StoreProg σ ε β} {s t : σ}
    {r : Except ε β} :
    exec (p >>= f) s = (r, t) ↔
      (∃ e, exec p s = (.error e, t) ∧ r = .error e) ∨
        ∃ a u, exec p s = (.ok a, u) ∧ exec (f a) u = (r, t) := by
  rw [exec_bind]
  constructor
  · intro h
    rcases hp : exec p s with ⟨e | a, u⟩ <;> rw [hp] at h
    · obtain ⟨rfl, rfl⟩ := Prod.mk.inj h
      exact Or.inl ⟨e, rfl, rfl⟩
    · exact Or.inr ⟨a, u, rfl, h⟩
  · rintro (⟨e, hp, rfl⟩ | ⟨a, u, hp, hf⟩)
    · rw [hp]
    · rw [hp]
      exact hf

@[simp] theorem exec_bind_pure (p : StoreProg σ ε α) (s : σ) :
    exec (p >>= fun a => pure a) s = exec p s := by
  rw [exec_bind]
  rcases exec p s with ⟨_ | a, t⟩ <;> rfl

@[simp] theorem exec_throw_bind (e : ε) (f : α → StoreProg σ ε β) (s : σ) :
    exec ((throw e : StoreProg σ ε α) >>= f) s = (.error e, s) := by
  rw [exec_bind, exec_throw]

theorem exec_ite (c : Prop) [Decidable c] (p q : StoreProg σ ε α) (s : σ) :
    exec (if c then p else q) s = if c then exec p s else exec q s := by
  split <;> rfl

/-- A guard: the program fails when the condition holds. -/
def failIf (c : Bool) (e : ε) : StoreProg σ ε Unit := if c then throw e else pure ()

theorem exec_failIf (c : Bool) (e : ε) (s : σ) :
    exec (failIf c e : StoreProg σ ε Unit) s = if c then (.error e, s) else (.ok (), s) := by
  cases c <;> rfl

theorem exec_failIf_bind (c : Bool) (e : ε) (f : Unit → StoreProg σ ε β) (s : σ) :
    exec ((failIf c e : StoreProg σ ε Unit) >>= f) s =
      if c then (.error e, s) else exec (f ()) s := by
  rw [exec_bind, exec_failIf]
  cases c <;> rfl

/-- A guard is passed by the runs that go on. -/
theorem guard_ok {c : Prop} [Decidable c] {e : ε} {s t : σ} {a : α} {x : Except ε α × σ} :
    (if c then (.error e, s) else x) = (.ok a, t) ↔ ¬ c ∧ x = (.ok a, t) := by
  by_cases hc : c <;> simp [hc]

/-- The same program with its errors translated. -/
def mapErr (g : ε → ε') (p : StoreProg σ ε α) : StoreProg σ ε' α :=
  ExceptT.mk (ExceptT.run p >>= fun r => pure (r.mapError g))

@[simp] theorem exec_mapErr (g : ε → ε') (p : StoreProg σ ε α) (s : σ) :
    exec (p.mapErr g) s = ((exec p s).1.mapError g, (exec p s).2) :=
  Prog.run_bind (ExceptT.run p) _ s

theorem exec_mapErr_ok {g : ε → ε'} {p : StoreProg σ ε α} {s t : σ} {a : α} :
    exec (p.mapErr g) s = (.ok a, t) ↔ exec p s = (.ok a, t) := by
  rw [exec_mapErr]
  obtain ⟨answer, u⟩ := exec p s
  cases answer with
  | error e =>
    have herror : (Except.error e : Except ε α).mapError g = .error (g e) := rfl
    simp [herror]
  | ok b =>
    have hok : (Except.ok b : Except ε α).mapError g = .ok b := rfl
    simp [hok]

/-- The answer of a program, value or error, handed to what comes after it. -/
def attempt (p : StoreProg σ ε α) : StoreProg σ ε' (Except ε α) :=
  ExceptT.mk (ExceptT.run p >>= fun r => pure (.ok r))

@[simp] theorem exec_attempt (p : StoreProg σ ε α) (s : σ) :
    exec (p.attempt : StoreProg σ ε' (Except ε α)) s = (.ok (exec p s).1, (exec p s).2) :=
  Prog.run_bind (ExceptT.run p) _ s

/-- What comes after an attempt runs in the store the attempt left. -/
theorem exec_attempt_bind (p : StoreProg σ ε α) (f : Except ε α → StoreProg σ ε' β) (s : σ) :
    exec (p.attempt >>= f) s = exec (f (exec p s).1) (exec p s).2 := by
  rw [exec_bind, exec_attempt]

/-- A check that does not touch the store. -/
def check (r : Except ε α) : StoreProg σ ε α := ExceptT.mk (pure r)

@[simp] theorem exec_check (r : Except ε α) (s : σ) :
    exec (check r : StoreProg σ ε α) s = (r, s) := rfl

theorem exec_check_bind (r : Except ε α) (f : α → StoreProg σ ε β) (s : σ) :
    exec ((check r : StoreProg σ ε α) >>= f) s =
      match r with
      | .ok a => exec (f a) s
      | .error e => (.error e, s) := by
  rw [exec_bind, exec_check]
  cases r <;> rfl

/-- One read of the store. -/
def query (f : σ → α) : StoreProg σ ε α :=
  ExceptT.mk (Prog.atomic fun s => (.ok (f s), s))

@[simp] theorem exec_query (f : σ → α) (s : σ) :
    exec (query f : StoreProg σ ε α) s = (.ok (f s), s) := rfl

@[simp] theorem exec_query_bind (g : σ → α) (f : α → StoreProg σ ε β) (s : σ) :
    exec ((query g : StoreProg σ ε α) >>= f) s = exec (f (g s)) s := by
  rw [exec_bind, exec_query]

/-- One statement, which fails or writes. -/
def execute (f : σ → Except ε (α × σ)) : StoreProg σ ε α :=
  ExceptT.mk (Prog.atomic fun s =>
    match f s with
    | .ok (a, t) => (.ok a, t)
    | .error e => (.error e, s))

theorem exec_execute (f : σ → Except ε (α × σ)) (s : σ) :
    exec (execute f) s =
      match f s with
      | .ok (a, t) => (.ok a, t)
      | .error e => (.error e, s) := rfl

theorem exec_execute_ok {f : σ → Except ε (α × σ)} {s t : σ} {a : α} :
    exec (execute f) s = (.ok a, t) ↔ f s = .ok (a, t) := by
  rw [exec_execute]
  rcases f s with _ | ⟨b, u⟩ <;> simp

/-- The whole program as one step, undone when the program fails. -/
def atomically (p : StoreProg σ ε α) : StoreProg σ ε α :=
  ExceptT.mk (Prog.atomic fun s =>
    match p.exec s with
    | (.ok a, t) => (.ok a, t)
    | (.error e, _) => (.error e, s))

theorem exec_atomically (p : StoreProg σ ε α) (s : σ) :
    exec (atomically p) s =
      match exec p s with
      | (.ok a, t) => (.ok a, t)
      | (.error e, _) => (.error e, s) := rfl

theorem exec_atomically_ok {p : StoreProg σ ε α} {s t : σ} {a : α} :
    exec (atomically p) s = (.ok a, t) ↔ exec p s = (.ok a, t) := by
  rw [exec_atomically]
  rcases exec p s with ⟨_ | b, u⟩ <;> simp

/-- **A failed transaction leaves the store as it was.** -/
theorem exec_atomically_error {p : StoreProg σ ε α} {s t : σ} {e : ε}
    (h : exec (atomically p) s = (.error e, t)) : t = s := by
  rw [exec_atomically] at h
  rcases hp : exec p s with ⟨_ | b, u⟩ <;> simp [hp] at h
  exact h.2.symm

/-! ## Step by step -/

section Steps

variable {assume : σ → Prop} {commit : σ → σ → Prop} {post : α → Prop} {post' : β → Prop}

/-- `Prog.Guarantees` for a program that may fail: an error ends it without a value. -/
def Guarantees (assume : σ → Prop) (commit : σ → σ → Prop) (post : α → Prop)
    (p : StoreProg σ ε α) : Prop :=
  Prog.Guarantees assume commit (fun r => ∀ a, r = .ok a → post a) (ExceptT.run p)

/-- The guarantee of a program with errors, as one of its steps. -/
theorem Guarantees.prog {p : StoreProg σ ε α} (hp : p.Guarantees assume commit post) :
    Prog.Guarantees assume commit (fun r => ∀ a, r = .ok a → post a) (ExceptT.run p) := hp

theorem guarantees_pure {a : α} (h : post a) :
    (pure a : StoreProg σ ε α).Guarantees assume commit post := by
  intro b hb
  exact Except.ok.inj hb ▸ h

theorem guarantees_throw (e : ε) :
    (throw e : StoreProg σ ε α).Guarantees assume commit post := by
  intro a ha
  cases ha

theorem guarantees_check {r : Except ε α} (h : ∀ a, r = .ok a → post a) :
    (check r : StoreProg σ ε α).Guarantees assume commit post := h

/-- A check that is passed gives what it computes. -/
theorem guarantees_check_ok (r : Except ε α) :
    (check r : StoreProg σ ε α).Guarantees assume commit fun a => r = .ok a :=
  guarantees_check fun _ h => h

theorem guarantees_failIf (c : Bool) (e : ε) :
    (failIf c e : StoreProg σ ε Unit).Guarantees assume commit fun _ => True := by
  cases c with
  | false => exact guarantees_pure trivial
  | true => exact guarantees_throw e

theorem guarantees_query {f : σ → α} (hread : ∀ s, commit s s)
    (h : ∀ s, assume s → post (f s)) :
    (query f : StoreProg σ ε α).Guarantees assume commit post := by
  intro s hs
  refine ⟨hread s, ?_⟩
  intro b hb
  exact Except.ok.inj hb ▸ h s hs

/-- What a query answers was so in a store that met the assumption. -/
theorem guarantees_query_seen {f : σ → α} (hread : ∀ s, commit s s) :
    (query f : StoreProg σ ε α).Guarantees assume commit fun a => ∃ s, assume s ∧ a = f s :=
  guarantees_query hread fun s hs => ⟨s, hs, rfl⟩

/-- A transaction commits its whole run, or leaves the store alone. -/
theorem guarantees_atomically {p : StoreProg σ ε α} (hread : ∀ s, commit s s)
    (h : ∀ s t a, assume s → exec p s = (.ok a, t) → commit s t ∧ post a) :
    (atomically p).Guarantees assume commit post := by
  intro s hs
  rcases hrun : exec p s with ⟨e | a, t⟩
  · simp only [hrun]
    refine ⟨hread s, ?_⟩
    rintro _ ⟨⟩
  · simp only [hrun]
    obtain ⟨hcommit, hpost⟩ := h s t a hs hrun
    refine ⟨hcommit, ?_⟩
    rintro _ ⟨⟩
    exact hpost

theorem Guarantees.bind {p : StoreProg σ ε α} {f : α → StoreProg σ ε β}
    (hp : p.Guarantees assume commit post)
    (hf : ∀ a, post a → (f a).Guarantees assume commit post') :
    (p >>= f).Guarantees assume commit post' := by
  refine Prog.Guarantees.bind hp ?_
  intro r hr
  cases r with
  | error e => exact guarantees_throw e
  | ok a => exact hf a (hr a rfl)

theorem Guarantees.mapErr {g : ε → ε'} {p : StoreProg σ ε α}
    (hp : p.Guarantees assume commit post) : (p.mapErr g).Guarantees assume commit post := by
  refine Prog.Guarantees.bind hp ?_
  intro r hr a ha
  cases r with
  | error e => cases ha
  | ok b => exact Except.ok.inj ha ▸ hr b rfl

/-! ## Programs that only read -/

/-- Every step of the program leaves the store as it found it. -/
structure ReadOnly (p : StoreProg σ ε α) : Prop where
  steps : p.Guarantees (fun _ => True) (fun s t => t = s) fun _ => True

theorem readOnly_pure (a : α) : (pure a : StoreProg σ ε α).ReadOnly :=
  ⟨guarantees_pure trivial⟩

theorem readOnly_throw (e : ε) : (throw e : StoreProg σ ε α).ReadOnly := ⟨guarantees_throw e⟩

theorem readOnly_query (f : σ → α) : (query f : StoreProg σ ε α).ReadOnly :=
  ⟨guarantees_query (fun _ => rfl) fun _ _ => trivial⟩

theorem readOnly_check (r : Except ε α) : (check r : StoreProg σ ε α).ReadOnly :=
  ⟨guarantees_check fun _ _ => trivial⟩

theorem readOnly_failIf (c : Bool) (e : ε) : (failIf c e : StoreProg σ ε Unit).ReadOnly :=
  ⟨guarantees_failIf c e⟩

theorem ReadOnly.bind {p : StoreProg σ ε α} {f : α → StoreProg σ ε β} (hp : p.ReadOnly)
    (hf : ∀ a, (f a).ReadOnly) : (p >>= f).ReadOnly :=
  ⟨Guarantees.bind hp.steps fun a _ => (hf a).steps⟩

/-- Whatever others do in between, the steps of a reader are reads. -/
theorem ReadOnly.guarantees {p : StoreProg σ ε α} (hp : p.ReadOnly)
    (hread : ∀ s, commit s s) : p.Guarantees assume commit fun _ => True := by
  have hsteps := hp.steps
  unfold Guarantees at hsteps ⊢
  generalize ExceptT.run p = q at hsteps
  induction q with
  | done r => exact fun _ _ => trivial
  | step effect next ih =>
      intro s _
      obtain ⟨hsame, hnext⟩ := hsteps s trivial
      refine ⟨?_, ih s hnext⟩
      rw [hsame]
      exact hread s

/-- **Run alone, a reader leaves the store as it found it.** -/
theorem ReadOnly.state {p : StoreProg σ ε α} (hp : p.ReadOnly) {s t : σ} {r : Except ε α}
    (h : exec p s = (r, t)) : t = s := by
  have hsteps := hp.steps
  unfold Guarantees at hsteps
  unfold exec at h
  generalize ExceptT.run p = q at hsteps h
  induction q with
  | done a => exact (Prod.mk.inj h).2.symm
  | step effect next ih =>
      obtain ⟨hsame, hnext⟩ := hsteps s trivial
      rw [Prog.run, hsame] at h
      exact ih s hnext h

/-- A program that starts with a reader changes nothing, or goes on from the store the
reader found. -/
theorem ReadOnly.exec_bind {p : StoreProg σ ε α} {f : α → StoreProg σ ε β} (hp : p.ReadOnly)
    {s t : σ} {r : Except ε β} (h : exec (p >>= f) s = (r, t)) :
    t = s ∨ ∃ a, exec p s = (.ok a, s) ∧ exec (f a) s = (r, t) := by
  obtain ⟨e, he, -⟩ | ⟨a, u, ha, hf⟩ := exec_bind_eq.1 h
  · exact Or.inl (hp.state he)
  · obtain rfl := hp.state ha
    exact Or.inr ⟨a, ha, hf⟩

end Steps

/-! ## With a record -/

section Records

variable {γ : Type} {assume : σ → Prop} {commit : γ → σ → σ → γ → Prop} {err : γ → Prop}
  {post : γ → α → Prop} {post' : γ → β → Prop} {g : γ}

/-- `Prog.Maintains` for a program that may fail: `err` says with which records. -/
def Maintains (assume : σ → Prop) (commit : γ → σ → σ → γ → Prop) (err : γ → Prop)
    (post : γ → α → Prop) (g : γ) (p : StoreProg σ ε α) : Prop :=
  Prog.Maintains assume commit
    (fun g' r => match r with
      | .ok a => post g' a
      | .error _ => err g') g (ExceptT.run p)

/-- What a program with errors maintains, as one of its steps. -/
theorem Maintains.prog {p : StoreProg σ ε α} (hp : p.Maintains assume commit err post g) :
    Prog.Maintains assume commit
      (fun g' r => match r with
        | .ok a => post g' a
        | .error _ => err g') g (ExceptT.run p) := hp

theorem maintains_pure {a : α} (h : post g a) :
    (pure a : StoreProg σ ε α).Maintains assume commit err post g := h

theorem maintains_throw {e : ε} (h : err g) :
    (throw e : StoreProg σ ε α).Maintains assume commit err post g := h

/-- A read may move the record by what it finds. -/
theorem maintains_query {f : σ → α}
    (h : ∀ s, assume s → ∃ g', commit g s s g' ∧ post g' (f s)) :
    (query f : StoreProg σ ε α).Maintains assume commit err post g := h

theorem maintains_execute {f : σ → Except ε (α × σ)}
    (herr : ∀ s e, assume s → f s = .error e → ∃ g', commit g s s g' ∧ err g')
    (h : ∀ s t a, assume s → f s = .ok (a, t) → ∃ g', commit g s t g' ∧ post g' a) :
    (execute f).Maintains assume commit err post g := by
  intro s hs
  rcases hf : f s with e | ⟨a, t⟩
  · obtain ⟨g', hcommit, hpost⟩ := herr s e hs hf
    simp only [hf]
    exact ⟨g', hcommit, hpost⟩
  · obtain ⟨g', hcommit, hpost⟩ := h s t a hs hf
    simp only [hf]
    exact ⟨g', hcommit, hpost⟩

/-- A transaction moves the record once, for its whole run or for its failure. -/
theorem maintains_atomically {p : StoreProg σ ε α}
    (herr : ∀ s, assume s → ∃ g', commit g s s g' ∧ err g')
    (h : ∀ s t a, assume s → exec p s = (.ok a, t) → ∃ g', commit g s t g' ∧ post g' a) :
    (atomically p).Maintains assume commit err post g := by
  intro s hs
  rcases hrun : exec p s with ⟨e | a, t⟩
  · obtain ⟨g', hcommit, hpost⟩ := herr s hs
    simp only [hrun]
    exact ⟨g', hcommit, hpost⟩
  · obtain ⟨g', hcommit, hpost⟩ := h s t a hs hrun
    simp only [hrun]
    exact ⟨g', hcommit, hpost⟩

theorem Maintains.bind {p : StoreProg σ ε α} {f : α → StoreProg σ ε β}
    (hp : p.Maintains assume commit err post g)
    (hf : ∀ g' a, post g' a → (f a).Maintains assume commit err post' g') :
    (p >>= f).Maintains assume commit err post' g := by
  refine Prog.Maintains.bind hp ?_
  intro g' r hr
  cases r with
  | error e => exact hr
  | ok a => exact hf g' a hr

theorem Maintains.mapErr {h : ε → ε'} {p : StoreProg σ ε α}
    (hp : p.Maintains assume commit err post g) :
    (p.mapErr h).Maintains assume commit err post g := by
  refine Prog.Maintains.bind hp ?_
  intro g' r hr
  cases r with
  | error e => exact hr
  | ok a => exact hr

theorem Maintains.mono {p : StoreProg σ ε α} {post₂ : γ → α → Prop}
    (hp : p.Maintains assume commit err post g) (h : ∀ g' a, post g' a → post₂ g' a) :
    p.Maintains assume commit err post₂ g := by
  refine Prog.Maintains.mono hp ?_
  intro g' r hr
  cases r with
  | error e => exact hr
  | ok a => exact h g' a hr

/-- A program that only reads keeps a record that its reads need not move. -/
theorem ReadOnly.maintains {p : StoreProg σ ε α} (hp : p.ReadOnly)
    (hread : ∀ s, commit g s s g) (herr : err g) :
    p.Maintains assume commit err (fun g' _ => g' = g) g := by
  have hsteps := hp.steps
  unfold Guarantees at hsteps
  unfold Maintains
  generalize ExceptT.run p = q at hsteps ⊢
  induction q with
  | done r =>
    cases r with
    | error e => exact herr
    | ok a => rfl
  | step effect next ih =>
    intro s _
    obtain ⟨hsame, hnext⟩ := hsteps s trivial
    refine ⟨g, ?_, ih s hnext⟩
    rw [hsame]
    exact hread s

end Records

-- from here on the guarantees are taken apart by the rules above only
attribute [irreducible] StoreProg.Guarantees StoreProg.Maintains

end StoreProg
end Concurrent
