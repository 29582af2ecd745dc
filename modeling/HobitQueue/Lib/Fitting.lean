import Mathlib.Data.List.Basic

/-!
# Lists that are cut until they fit

Elements are removed from the end of a list while what is left is too big. When a shorter start
is never bigger, what stays is the longest start that fits.

## Main definitions

* `Fitting.kept` — how many elements stay.
* `Fitting.kept_le_iff` — when at most so many stay.
-/

namespace Fitting

variable {α : Type} (tooBig : List α → Bool)

/-- How many of the first elements stay. -/
def kept (xs : List α) : ℕ → ℕ
  | 0 => 0
  | n + 1 => if tooBig (xs.take (n + 1)) then kept xs n else n + 1

/-- The elements that stay. -/
def cut (xs : List α) : List α := xs.take (kept tooBig xs xs.length)

theorem kept_le (xs : List α) (n : ℕ) : kept tooBig xs n ≤ n := by
  induction n with
  | zero => exact Nat.le_refl 0
  | succ n ih =>
    rw [kept]
    split
    · omega
    · exact Nat.le_refl _

@[simp] theorem length_cut (xs : List α) :
    (cut tooBig xs).length = kept tooBig xs xs.length := by
  have hle := kept_le tooBig xs xs.length
  rw [cut, List.length_take]
  omega

theorem cut_eq_take (xs : List α) : cut tooBig xs = xs.take (cut tooBig xs).length := by
  rw [length_cut, cut]

theorem length_cut_le (xs : List α) : (cut tooBig xs).length ≤ xs.length := by
  rw [length_cut]
  exact kept_le tooBig xs xs.length

variable {tooBig}

/-- At most so many elements stay when there are no more, or when one more is too big. -/
theorem kept_le_iff {xs : List α}
    (hmono : ∀ j k, j ≤ k → tooBig (xs.take j) = true → tooBig (xs.take k) = true) (n m : ℕ) :
    kept tooBig xs n ≤ m ↔ n ≤ m ∨ tooBig (xs.take (m + 1)) = true := by
  induction n with
  | zero => simp [kept]
  | succ n ih =>
    by_cases hbig : tooBig (xs.take (n + 1)) = true
    · rw [kept, if_pos hbig, ih]
      constructor
      · rintro (hle | hm)
        · rcases Nat.lt_or_eq_of_le hle with hlt | rfl
          · exact Or.inl hlt
          · exact Or.inr hbig
        · exact Or.inr hm
      · rintro (hle | hm)
        · exact Or.inl (by omega)
        · exact Or.inr hm
    · rw [kept, if_neg hbig]
      constructor
      · intro hle
        exact Or.inl hle
      · rintro (hle | hm)
        · exact hle
        · by_contra hlt
          exact hbig (hmono _ _ (by omega) hm)

theorem length_cut_le_iff {xs : List α}
    (hmono : ∀ j k, j ≤ k → tooBig (xs.take j) = true → tooBig (xs.take k) = true) (m : ℕ) :
    (cut tooBig xs).length ≤ m ↔ xs.length ≤ m ∨ tooBig (xs.take (m + 1)) = true := by
  rw [length_cut, kept_le_iff hmono]

end Fitting
