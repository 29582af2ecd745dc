import HobitQueue.Lib.Text
import Mathlib.Data.List.Basic

/-!
# Numbered ids

An id that ends in a separator and a number filled up with zeros determines what stands before
the separator and the number, since a numeral contains no separator.

## Main results

* `padLeft_inj` — filled-up numerals of one width determine their numbers.
* `append_cons_inj_of_notMem_right` — the last separator of a text is where it was put.
-/

namespace Text

theorem toList_padLeft (width n : ℕ) : (padLeft width n).toList =
    List.replicate (width - (Nat.repr n).length) '0' ++ Nat.toDigits 10 n := by
  simp [padLeft, String.toList_append]

/-- Leading zeros do not change the number a numeral stands for. -/
theorem ofDigitChars_replicate_zero (k : ℕ) (digits : List Char) :
    Nat.ofDigitChars 10 (List.replicate k '0' ++ digits) 0 = Nat.ofDigitChars 10 digits 0 := by
  induction k with
  | zero => rfl
  | succ k ih =>
    rw [List.replicate_succ, List.cons_append, Nat.ofDigitChars_cons]
    exact ih

/-- **Filled-up numerals of one width determine their numbers.** -/
theorem padLeft_inj {width m n : ℕ} (h : padLeft width m = padLeft width n) : m = n := by
  have hlist := congrArg String.toList h
  rw [toList_padLeft, toList_padLeft] at hlist
  have hvalue := congrArg (Nat.ofDigitChars 10 · 0) hlist
  simp only [ofDigitChars_replicate_zero, Nat.ofDigitChars_ten_toDigits] at hvalue
  exact hvalue

theorem underscore_notMem_padLeft (width n : ℕ) : '_' ∉ (padLeft width n).toList := by
  rw [toList_padLeft, List.mem_append, not_or]
  refine ⟨fun hzero => ?_, Nat.underscore_not_in_toDigits⟩
  exact absurd (List.eq_of_mem_replicate hzero) (by decide)

/-- The first separator of a text is where it was put. -/
theorem append_cons_inj_of_notMem_left {α : Type*} {c : α} {x y a b : List α} (hx : c ∉ x)
    (hy : c ∉ y) (h : x ++ c :: a = y ++ c :: b) : x = y ∧ a = b := by
  induction x generalizing y with
  | nil =>
    cases y with
    | nil => exact ⟨rfl, (List.cons.inj h).2⟩
    | cons d y => exact absurd ((List.cons.inj h).1 ▸ List.mem_cons_self) hy
  | cons d x ih =>
    cases y with
    | nil => exact absurd ((List.cons.inj h).1 ▸ List.mem_cons_self) hx
    | cons e y =>
      obtain ⟨rfl, hrest⟩ := List.cons.inj h
      have hsplit := ih (mt (List.mem_cons_of_mem d) hx) (mt (List.mem_cons_of_mem d) hy) hrest
      exact ⟨congrArg (d :: ·) hsplit.1, hsplit.2⟩

/-- The last separator of a text is where it was put. -/
theorem append_cons_inj_of_notMem_right {α : Type*} {c : α} {a b x y : List α} (hx : c ∉ x)
    (hy : c ∉ y) (h : a ++ c :: x = b ++ c :: y) : a = b ∧ x = y := by
  have hreverse := congrArg List.reverse h
  simp only [List.reverse_append, List.reverse_cons, List.append_assoc, List.singleton_append]
    at hreverse
  have hsplit := append_cons_inj_of_notMem_left (mt List.mem_reverse.1 hx)
    (mt List.mem_reverse.1 hy) hreverse
  exact ⟨List.reverse_inj.1 hsplit.2, List.reverse_inj.1 hsplit.1⟩

end Text
