import HobitQueue.Lib.Pool
import Mathlib.Data.Set.Card

/-!
# Optimistic locks

A cell carries a version that counts its writes. A client that expects a version writes
only while the cell has it. In every interleaving of clients that access the cell once
each, the version grows by the number of writes, and each version is the ground of one
write at most.

## Main definitions

* `Cell`, `Cell.Access` — a cell, and one access of a client.
* `LockCommit` — the steps of a client, seen from the cell.
* `Counted` — the version against the writes so far.
* `LockClients` — clients with one step each.
* `counted_after` — the induction over a schedule.
-/

namespace Concurrent

/-- A value with the number of its version. -/
structure Cell (V : Type) where
  value : V
  version : ℤ

/-- An access of a client that may expect a version: it writes, or it leaves the cell. -/
def Cell.Access {V : Type} (expected : Option ℤ) (wrote : Bool) (c c' : Cell V) : Prop :=
  if wrote then (∀ v ∈ expected, v = c.version) ∧ c'.version = c.version + 1 else c' = c

variable {σ ι α V : Type} {view : σ → Cell V} {base : ℤ} {expected : ι → Option ℤ}

/-- The steps of a client, with a record of its access: whether it wrote. -/
inductive LockCommit (view : σ → Cell V) (expected : Option ℤ) :
    Option Bool → σ → σ → Option Bool → Prop
  | idle {record : Option Bool} {s t : σ} (h : view t = view s) :
      LockCommit view expected record s t record
  | accessed {wrote : Bool} {s t : σ} (h : (view s).Access expected wrote (view t)) :
      LockCommit view expected none s t (some wrote)

/-- A client that has not written leaves the cell as it was. -/
theorem LockCommit.view_eq {expected : Option ℤ} {record record' : Option Bool} {s t : σ}
    (h : LockCommit view expected record s t record') (hwrote : record' ≠ some true) :
    view t = view s := by
  cases h with
  | idle h => exact h
  | @accessed wrote _ _ h =>
    cases wrote with
    | false => exact h
    | true => exact absurd rfl hwrote

/-- The version counts the writes from `base` on, and no two writes expected the same
version. -/
structure Counted (base : ℤ) (expected : ι → Option ℤ) (c : Cell V)
    (record : ι → Option Bool) : Prop where
  finite : {i | record i = some true}.Finite
  version : c.version = base + {i | record i = some true}.ncard
  below : ∀ i v, record i = some true → expected i = some v → v < c.version
  unique : ∀ i j v, record i = some true → record j = some true → expected i = some v →
    expected j = some v → i = j

theorem counted_start (expected : ι → Option ℤ) (c : Cell V) :
    Counted c.version expected c fun _ => none where
  finite := by simp
  version := by simp
  below := by simp
  unique := by simp

variable [DecidableEq ι] {c c' : Cell V} {record : ι → Option Bool} {i : ι}

/-- An access without a write adds nothing to the count. -/
theorem Counted.accessed_same (h : Counted base expected c record) (hi : record i = none) :
    Counted base expected c (Function.update record i (some false)) := by
  have hwrites : ∀ j, Function.update record i (some false) j = some true ↔
      record j = some true := by
    intro j
    by_cases hj : j = i
    · subst hj
      simp [hi]
    · rw [Function.update_of_ne hj]
  constructor
  · simpa only [hwrites] using h.finite
  · simpa only [hwrites] using h.version
  · simpa only [hwrites] using h.below
  · simpa only [hwrites] using h.unique

/-- **A write raises the version by one**, and the version it expected is used up. -/
theorem Counted.accessed_wrote (h : Counted base expected c record) (hi : record i = none)
    (hexpected : ∀ v ∈ expected i, v = c.version) (hc : c'.version = c.version + 1) :
    Counted base expected c' (Function.update record i (some true)) := by
  have hwrites : ∀ j, Function.update record i (some true) j = some true ↔
      j = i ∨ record j = some true := by
    intro j
    by_cases hj : j = i
    · subst hj
      simp
    · simp [hj]
  have hset : {j | Function.update record i (some true) j = some true} =
      insert i {j | record j = some true} := by
    ext j
    simp [hwrites]
  have hnew : i ∉ {j | record j = some true} := by simp [hi]
  constructor
  · rw [hset]
    exact h.finite.insert i
  · rw [hset, Set.ncard_insert_of_notMem hnew h.finite, hc, h.version]
    push_cast
    omega
  · intro j v hj hv
    rcases (hwrites j).1 hj with rfl | hold
    · have := hexpected v hv
      omega
    · have := h.below j v hold hv
      omega
  · intro j k v hj hk hvj hvk
    rcases (hwrites j).1 hj with rfl | hjold <;> rcases (hwrites k).1 hk with rfl | hkold
    · rfl
    · have := hexpected v hvj
      have := h.below k v hkold hvk
      omega
    · have := hexpected v hvk
      have := h.below j v hjold hvj
      omega
    · exact h.unique j k v hjold hkold hvj hvk

theorem LockCommit.counted {s t : σ} {record' : Option Bool}
    (hcommit : LockCommit view (expected i) (record i) s t record')
    (h : Counted base expected (view s) record) :
    Counted base expected (view t) (Function.update record i record') ∧
      (view s).version ≤ (view t).version := by
  generalize hcurrent : record i = current at hcommit
  cases hcommit with
  | idle hview =>
    rw [← hcurrent, Function.update_eq_self, hview]
    exact ⟨h, le_refl _⟩
  | @accessed wrote _ _ haccess =>
    cases wrote with
    | false =>
      have hview : view t = view s := haccess
      rw [hview]
      exact ⟨h.accessed_same hcurrent, le_refl _⟩
    | true =>
      obtain ⟨hexpected, hversion⟩ : (∀ v ∈ expected i, v = (view s).version) ∧
        (view t).version = (view s).version + 1 := haccess
      exact ⟨h.accessed_wrote hcurrent hexpected hversion, by omega⟩

/-- A program that has one step at most. -/
def Prog.Single : Prog σ α → Prop
  | .done _ => True
  | .step _ next => ∀ s, ∃ a, next s = .done a

/-- A client with one step is done after it. -/
theorem Pool.answer_step_of_single {p : Pool σ ι α} (hsingle : (p.rest i).Single) :
    ∃ a, (p.step i).rest i = .done a ∧ (p.step i).answer i = some a := by
  have hrest : ∃ a, (p.step i).rest i = .done a := by
    unfold Pool.step
    cases hprog : p.rest i with
    | done a => exact ⟨a, hprog⟩
    | step effect next =>
      rw [hprog] at hsingle
      obtain ⟨a, ha⟩ := hsingle p.store
      exact ⟨a, by simpa using ha⟩
  obtain ⟨a, ha⟩ := hrest
  exact ⟨a, ha, by rw [Pool.answer, ha]⟩

/-- The clients of a lock: each has one step, and no record before it. -/
structure LockClients (p : Pool σ ι α) (record : ι → Option Bool) : Prop where
  single : ∀ i, (p.rest i).Single
  unrecorded : ∀ i, p.answer i = none → record i = none

theorem LockClients.step {p : Pool σ ι α} (h : LockClients p record) (record' : Option Bool) :
    LockClients (p.step i) (Function.update record i record') := by
  obtain ⟨a, hrest, hanswer⟩ := Pool.answer_step_of_single (h.single i)
  constructor <;> intro j <;> by_cases hj : j = i
  · subst hj
    rw [hrest]
    trivial
  · rw [(Pool.answer_step_of_ne hj).2]
    exact h.single j
  · subst hj
    simp [hanswer]
  · rw [(Pool.answer_step_of_ne hj).1, Function.update_of_ne hj]
    exact h.unrecorded j

/-- **In every interleaving the version counts the writes**, and it never decreases. -/
theorem counted_after {p : Pool σ ι α} {post : ι → Option Bool → α → Prop}
    (hsound : p.Sound (fun _ _ _ => True) (fun i _ => LockCommit view (expected i)) post record)
    (hclients : LockClients p record) (h : Counted base expected (view p.store) record)
    (schedule : List ι) :
    ∃ record', Counted base expected (view (Machine.after Pool.step p schedule).store) record' ∧
      (Machine.after Pool.step p schedule).Sound (fun _ _ _ => True)
        (fun i _ => LockCommit view (expected i)) post record' ∧
      LockClients (Machine.after Pool.step p schedule) record' ∧
      (view p.store).version ≤ (view (Machine.after Pool.step p schedule).store).version := by
  let Good (q : Pool σ ι α) (record : ι → Option Bool) : Prop :=
    Counted base expected (view q.store) record ∧ LockClients q record ∧
      (view p.store).version ≤ (view q.store).version
  have hall : Machine.Along Pool.step (fun _ _ => True) p schedule :=
    Machine.along_of_forall (fun _ _ => trivial) _ _
  obtain ⟨record', ⟨hcounted, hclients', hle⟩, hsound'⟩ := @Pool.invariant_after _ _ _ _ _ _ _ _
    _ _ Good _ schedule (fun _ _ => trivial) (fun _ _ _ _ _ _ _ _ _ _ => trivial)
    (fun q record i record' _ hq _ _ _ hcommit => by
      obtain ⟨hcounted, hle⟩ := hcommit.counted hq.1
      exact ⟨hcounted, hq.2.1.step record', hq.2.2.trans hle⟩)
    hsound ⟨h, hclients, le_refl _⟩ hall
  exact ⟨record', hcounted, hsound', hclients', hle⟩

end Concurrent
