import Mathlib.Data.List.Sort
import Mathlib.Order.Lattice

/-!
# The best of a list

A listing that is sorted by rank and cut off after a number of entries shows the best entries:
whatever it leaves out is outranked by no entry it shows only when the listing is full.

## Main definitions

* `ranked` — a list in the order of the ranks of its entries, ties as they were.
* `top` — the first entries of the ranked list.

## Main results

* `mem_top_or` — an entry is shown, or the listing is full of entries that rank no worse.
-/

namespace Ranking

variable {α β : Type*} [LinearOrder β] (rank : α → β)

/-- The list in the order of the ranks of its entries, ties as they were. -/
def ranked (l : List α) : List α := l.mergeSort fun a b => decide (rank a ≤ rank b)

/-- The first entries of the ranked list. -/
def top (n : ℕ) (l : List α) : List α := (ranked rank l).take n

variable {n : ℕ} {l : List α}

theorem ranked_perm (l : List α) : (ranked rank l).Perm l := List.mergeSort_perm _ _

theorem pairwise_ranked (l : List α) : (ranked rank l).Pairwise fun a b => rank a ≤ rank b := by
  have htrans : ∀ a b c, decide (rank a ≤ rank b) = true → decide (rank b ≤ rank c) = true →
      decide (rank a ≤ rank c) = true := by
    intro a b c hab hbc
    rw [decide_eq_true_eq] at hab hbc ⊢
    exact le_trans hab hbc
  have htotal : ∀ a b, (decide (rank a ≤ rank b) || decide (rank b ≤ rank a)) = true := by
    intro a b
    simpa using le_total (rank a) (rank b)
  exact (List.pairwise_mergeSort htrans htotal l).imp fun h => of_decide_eq_true h

variable {rank}

theorem pairwise_top : (top rank n l).Pairwise fun a b => rank a ≤ rank b :=
  (pairwise_ranked rank l).sublist (List.take_sublist n _)

theorem length_top_le : (top rank n l).length ≤ n := by
  rw [top, List.length_take]
  exact Nat.min_le_left _ _

theorem mem_of_mem_top {a : α} (h : a ∈ top rank n l) : a ∈ l :=
  (ranked_perm rank l).mem_iff.1 (List.mem_of_mem_take h)

/-- Entries that are told apart in the list are told apart in the listing. -/
theorem nodup_map_top {γ : Type*} {f : α → γ} (h : (l.map f).Nodup) :
    ((top rank n l).map f).Nodup := by
  have hranked := ((ranked_perm rank l).map f).nodup_iff.2 h
  exact hranked.sublist ((List.take_sublist n _).map f)

/-- **An entry is shown, or the listing is full of entries that rank no worse.** -/
theorem mem_top_or {a : α} (h : a ∈ l) :
    a ∈ top rank n l ∨ (top rank n l).length = n ∧ ∀ b ∈ top rank n l, rank b ≤ rank a := by
  have hmem := (ranked_perm rank l).mem_iff.2 h
  have hsorted := pairwise_ranked rank l
  rw [← List.take_append_drop n (ranked rank l)] at hmem hsorted
  rcases List.mem_append.1 hmem with hshown | hleft
  · exact Or.inl hshown
  · refine Or.inr ⟨?_, fun b hb => (List.pairwise_append.1 hsorted).2.2 b hb a hleft⟩
    have hlong : n < (ranked rank l).length := by
      by_contra hshort
      rw [List.drop_of_length_le (by omega)] at hleft
      exact absurd hleft List.not_mem_nil
    rw [top, List.length_take]
    omega

end Ranking
