import Mathlib.Data.List.Basic
import Mathlib.Data.List.Infix

/-!
# The recent part of a stream

A stream that comes in blocks is kept in pieces, up to a cap: the oldest pieces go when the rest is
over it, and a block that is over the cap alone loses its beginning. What is kept is an end of the
stream, and the newest piece is always there.

## Main definitions

* `Recent.trim` — the pieces that are left when the oldest ones go.
* `Recent.keep` — the pieces after one more block.

## Main results

* `Recent.flatten_keep_suffix` — what is kept is an end of the stream.
* `Recent.newest_suffix_keep` — the newest piece is kept.
-/

namespace Recent

variable {α : Type*} {cap : ℕ} {pieces : List (List α)} {block stream : List α}

/-- The oldest pieces go as long as the rest is over the cap. -/
def trim (cap : ℕ) : List (List α) → List (List α)
  | [] => []
  | piece :: pieces =>
    if cap < (piece :: pieces).flatten.length then trim cap pieces else piece :: pieces

/-- The last items of a block, as many as the cap allows. -/
def newest (cap : ℕ) (block : List α) : List α := block.drop (block.length - cap)

/-- The pieces after one more block. -/
def keep (cap : ℕ) (pieces : List (List α)) (block : List α) : List (List α) :=
  trim cap (pieces ++ [newest cap block])

theorem trim_suffix (cap : ℕ) (pieces : List (List α)) : trim cap pieces <:+ pieces := by
  induction pieces with
  | nil => exact List.suffix_refl _
  | cons piece pieces ih =>
    rw [trim]
    split
    · exact ih.trans (List.suffix_cons _ _)
    · exact List.suffix_refl _

theorem length_flatten_trim_le (cap : ℕ) (pieces : List (List α)) :
    (trim cap pieces).flatten.length ≤ cap := by
  induction pieces with
  | nil => simp [trim]
  | cons piece pieces ih =>
    rw [trim]
    split
    · exact ih
    · omega

theorem trim_of_le (h : pieces.flatten.length ≤ cap) : trim cap pieces = pieces := by
  cases pieces with
  | nil => rfl
  | cons piece pieces => rw [trim, if_neg (by omega)]

/-- The newest piece stays, if it is within the cap. -/
theorem trim_concat (h : block.length ≤ cap) :
    ∃ kept, trim cap (pieces ++ [block]) = kept ++ [block] ∧ kept <:+ pieces := by
  induction pieces with
  | nil => exact ⟨[], trim_of_le (by simpa using h), List.suffix_refl _⟩
  | cons piece pieces ih =>
    rw [List.cons_append, trim]
    split
    · obtain ⟨kept, hkept, hsuffix⟩ := ih
      exact ⟨kept, hkept, hsuffix.trans (List.suffix_cons _ _)⟩
    · exact ⟨piece :: pieces, rfl, List.suffix_refl _⟩

theorem length_newest (cap : ℕ) (block : List α) :
    (newest cap block).length = min block.length cap := by
  rw [newest, List.length_drop]
  omega

theorem newest_of_le (h : block.length ≤ cap) : newest cap block = block := by
  rw [newest, Nat.sub_eq_zero_of_le h, List.drop_zero]

theorem newest_suffix (cap : ℕ) (block : List α) : newest cap block <:+ block :=
  List.drop_suffix _ _

theorem flatten_suffix {xs ys : List (List α)} (h : xs <:+ ys) : xs.flatten <:+ ys.flatten := by
  obtain ⟨dropped, rfl⟩ := h
  exact ⟨dropped.flatten, List.flatten_append.symm⟩

theorem length_flatten_keep_le (cap : ℕ) (pieces : List (List α)) (block : List α) :
    (keep cap pieces block).flatten.length ≤ cap :=
  length_flatten_trim_le _ _

/-- The newest piece is kept. -/
theorem newest_suffix_keep (cap : ℕ) (pieces : List (List α)) (block : List α) :
    newest cap block <:+ (keep cap pieces block).flatten := by
  obtain ⟨kept, hkept, -⟩ := @trim_concat α cap pieces (newest cap block)
    (by rw [length_newest]; omega)
  rw [keep, hkept, List.flatten_append, List.flatten_singleton]
  exact List.suffix_append _ _

/-- **What is kept is an end of the stream.** -/
theorem flatten_keep_suffix (h : pieces.flatten <:+ stream) (block : List α) :
    (keep cap pieces block).flatten <:+ stream ++ block := by
  by_cases hfits : block.length ≤ cap
  · have hall : (keep cap pieces block).flatten <:+ pieces.flatten ++ block := by
      have hsuffix := flatten_suffix (trim_suffix cap (pieces ++ [block]))
      rw [List.flatten_append, List.flatten_singleton] at hsuffix
      rw [keep, newest_of_le hfits]
      exact hsuffix
    obtain ⟨dropped, rfl⟩ := h
    exact hall.trans ⟨dropped, (List.append_assoc _ _ _).symm⟩
  · -- the end of the block fills the cap, so nothing else is kept
    have hlength : (keep cap pieces block).flatten.length ≤ (newest cap block).length := by
      have hcap := length_flatten_keep_le cap pieces block
      rw [length_newest]
      omega
    have hkept : newest cap block = (keep cap pieces block).flatten :=
      (newest_suffix_keep cap pieces block).eq_of_length_le hlength
    rw [← hkept]
    exact (newest_suffix cap block).trans (List.suffix_append _ _)

end Recent
