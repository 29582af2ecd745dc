import Mathlib.Data.List.Sort
import Mathlib.Data.List.Lemmas
import Mathlib.Order.Basic

/-!
# Comparison functions

A comparison function answers with a number: negative when its first argument comes first,
positive when its second does, zero when it does not say. A sort by a consistent one is
determined by it when the sort keeps the order of what is not told apart.

## Main definitions

* `Comparator.Consistent` — the two orders agree, and the order is transitive.

## Main results

* `Comparator.Consistent.lex` — a second comparison where the first does not say.
* `Comparator.head_sort` — what stands first after a sort, and where it stood before.
-/

namespace Comparator

variable {α β : Type*} {compare compare' : α → α → ℤ}

/-- A consistent comparison function. -/
structure Consistent (compare : α → α → ℤ) : Prop where
  swap : ∀ a b, 0 < compare a b ↔ compare b a < 0
  trans : ∀ {a b c}, compare a b ≤ 0 → compare b c ≤ 0 → compare a c ≤ 0

namespace Consistent

theorem total (h : Consistent compare) (a b : α) : compare a b ≤ 0 ∨ compare b a ≤ 0 := by
  have hswap := h.swap a b
  omega

theorem eq_zero_iff (h : Consistent compare) (a b : α) : compare a b = 0 ↔ compare b a = 0 := by
  have hab := h.swap a b
  have hba := h.swap b a
  omega

theorem lt_of_lt_of_le (h : Consistent compare) {a b c : α} (hab : compare a b < 0)
    (hbc : compare b c ≤ 0) : compare a c < 0 := by
  by_contra hac
  have hca : compare c a ≤ 0 := by
    have hswap := h.swap c a
    omega
  have hba := h.trans hbc hca
  have hswap := h.swap b a
  omega

theorem lt_of_le_of_lt (h : Consistent compare) {a b c : α} (hab : compare a b ≤ 0)
    (hbc : compare b c < 0) : compare a c < 0 := by
  by_contra hac
  have hca : compare c a ≤ 0 := by
    have hswap := h.swap c a
    omega
  have hcb := h.trans hca hab
  have hswap := h.swap c b
  omega

theorem comap (h : Consistent compare) (f : β → α) :
    Consistent fun x y => compare (f x) (f y) :=
  ⟨fun x y => h.swap (f x) (f y), fun hxy hyz => h.trans hxy hyz⟩

theorem flip (h : Consistent compare) : Consistent fun x y => compare y x :=
  ⟨fun x y => h.swap y x, fun hxy hyz => h.trans hyz hxy⟩

/-- A second comparison where the first does not say. -/
theorem lex (h : Consistent compare) (h' : Consistent compare') :
    Consistent fun x y => if compare x y = 0 then compare' x y else compare x y := by
  refine ⟨fun x y => ?_, fun {x y z} hxy hyz => ?_⟩
  · have heq := h.eq_zero_iff x y
    by_cases hzero : compare x y = 0
    · simp only [if_pos hzero, if_pos (heq.1 hzero)]
      exact h'.swap x y
    · simp only [if_neg hzero, if_neg (mt heq.2 hzero)]
      exact h.swap x y
  · by_cases hxy₀ : compare x y = 0
    · rw [if_pos hxy₀] at hxy
      by_cases hyz₀ : compare y z = 0
      · rw [if_pos hyz₀] at hyz
        have hxz := h.trans hxy₀.le hyz₀.le
        have hzx := h.trans ((h.eq_zero_iff y z).1 hyz₀).le ((h.eq_zero_iff x y).1 hxy₀).le
        have hswap := h.swap z x
        rw [if_pos (by omega)]
        exact h'.trans hxy hyz
      · rw [if_neg hyz₀] at hyz
        have hxz := h.lt_of_le_of_lt hxy₀.le (by omega : compare y z < 0)
        rw [if_neg hxz.ne]
        exact hxz.le
    · rw [if_neg hxy₀] at hxy
      have hyz' : compare y z ≤ 0 := by
        by_cases hyz₀ : compare y z = 0
        · exact hyz₀.le
        · rwa [if_neg hyz₀] at hyz
      have hxz := h.lt_of_lt_of_le (by omega : compare x y < 0) hyz'
      rw [if_neg hxz.ne]
      exact hxz.le

end Consistent

theorem consistent_sub : Consistent fun a b : ℤ => a - b :=
  ⟨fun a b => by omega, fun hab hbc => by omega⟩

/-- The comparison that a linear order gives. -/
def ofOrder [LinearOrder α] (a b : α) : ℤ := if a < b then -1 else if b < a then 1 else 0

theorem consistent_ofOrder [LinearOrder α] : Consistent (ofOrder (α := α)) := by
  have hle : ∀ a b : α, ofOrder a b ≤ 0 ↔ a ≤ b := by
    intro a b
    unfold ofOrder
    split_ifs with hab hba
    · simp [hab.le]
    · simp [hba]
    · simp [not_lt.1 hba]
  refine ⟨fun a b => ?_, fun {a b c} hab hbc => ?_⟩
  · unfold ofOrder
    split_ifs with hab hba hba
    · exact absurd (hab.trans hba) (lt_irrefl a)
    all_goals simp
  · rw [hle] at hab hbc ⊢
    exact hab.trans hbc

/-! ## Sorting -/

/-- Not behind. -/
def notAfter (compare : α → α → ℤ) (a b : α) : Bool := decide (compare a b ≤ 0)

theorem notAfter_iff {a b : α} : notAfter compare a b = true ↔ compare a b ≤ 0 :=
  decide_eq_true_iff

/-- `[…].sort(compare)`: a stable sort. -/
def sort (compare : α → α → ℤ) (l : List α) : List α := l.mergeSort (notAfter compare)

theorem Consistent.trans_notAfter (h : Consistent compare) (a b c : α) :
    notAfter compare a b → notAfter compare b c → notAfter compare a c := by
  simp only [notAfter_iff]
  exact h.trans

theorem Consistent.total_notAfter (h : Consistent compare) (a b : α) :
    notAfter compare a b || notAfter compare b a := by
  simp only [Bool.or_eq_true, notAfter_iff]
  exact h.total a b

theorem pairwise_sort (h : Consistent compare) (l : List α) :
    (sort compare l).Pairwise fun a b => compare a b ≤ 0 := by
  have hsorted := List.pairwise_mergeSort h.trans_notAfter h.total_notAfter l
  exact hsorted.imp notAfter_iff.1

theorem sort_perm (compare : α → α → ℤ) (l : List α) : (sort compare l).Perm l :=
  List.mergeSort_perm l _

theorem mem_sort {a : α} {l : List α} : a ∈ sort compare l ↔ a ∈ l := List.mem_mergeSort

theorem length_sort (l : List α) : (sort compare l).length = l.length := List.length_mergeSort l

/-- What stands first after the sort comes before what stood before it, and is not behind what
stood behind it. -/
theorem head_sort (h : Consistent compare) {x : α} {l rest : List α}
    (hsort : sort compare l = x :: rest) :
    ∃ before after, l = before ++ x :: after ∧ (∀ y ∈ before, compare x y < 0) ∧
      ∀ y ∈ after, compare x y ≤ 0 := by
  induction l generalizing rest with
  | nil =>
    rw [sort, List.mergeSort_nil] at hsort
    cases hsort
  | cons a l ih =>
    obtain ⟨l₁, l₂, hfirst, hothers, hbefore⟩ :=
      List.mergeSort_cons h.trans_notAfter h.total_notAfter a l
    have hpairwise := pairwise_sort h (a :: l)
    rw [hsort] at hpairwise
    rw [sort, hfirst] at hsort
    cases l₁ with
    | nil =>
      obtain ⟨rfl, rfl⟩ := List.cons.inj hsort
      refine ⟨[], l, rfl, by simp, fun y hy => List.rel_of_pairwise_cons hpairwise ?_⟩
      rw [List.nil_append] at hothers
      rw [← hothers]
      exact List.mem_mergeSort.2 hy
    | cons b l₁ =>
      obtain ⟨rfl, -⟩ := List.cons.inj hsort
      obtain ⟨before, after, rfl, hless, hleq⟩ := ih hothers
      refine ⟨a :: before, after, rfl, ?_, hleq⟩
      rw [List.forall_mem_cons]
      have hlast := hbefore b List.mem_cons_self
      rw [Bool.not_eq_true', ← Bool.not_eq_true, notAfter_iff, not_le] at hlast
      exact ⟨(h.swap a b).1 hlast, hless⟩

end Comparator
