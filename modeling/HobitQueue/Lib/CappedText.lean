import HobitQueue.Lib.TextWords

/-!
# Texts capped with a note

A text over a bound is cut there, and a note of how much was left out is put behind it. The note
can take the text over the bound again, so that capping the capped text cuts into the note.

## Main definitions

* `kept`, `cap` — the part of a text under a bound, and the part with its note.
* `Note` — a note that begins with a blank line mark of its own and determines its number.
* `Settled` — the bounds under which a text is capped once and for all.

## Main results

* `cap_cap_iff` — capping twice is capping once exactly for the settled texts.
-/

namespace CappedText

open TextWords

variable {α : Type*} {blank : α → Bool}

/-- The first characters of a text, without the blanks at their end. -/
def kept (blank : α → Bool) (max : ℕ) (text : List α) : List α :=
  (text.take max).rdropWhile blank

/-- A text over the bound as what is kept of it with a note of the number left out. -/
def cap (blank : α → Bool) (note : ℕ → List α) (max : ℕ) (text : List α) : List α :=
  if text.length ≤ max then text else kept blank max text ++ note (text.length - max)

/-- A note of a number: a blank mark that is in it once only, a body without blanks at its ends,
and no two numbers with one note. -/
structure Note (blank : α → Bool) (note : ℕ → List α) where
  mark : α
  body : ℕ → List α
  note_eq : ∀ n, note n = mark :: body n
  mark_blank : blank mark = true
  body_tidy : ∀ n, Tidy blank (body n)
  mark_notMem : ∀ n, mark ∉ body n
  body_inj : ∀ m n, body m = body n → m = n

/-- Capping such a text again changes nothing: it is under the bound, or its note leaves it
there, or at most one blank is not kept and as much as the note takes was left out. -/
def Settled (blank : α → Bool) (note : ℕ → List α) (max : ℕ) (text : List α) : Prop :=
  text.length ≤ max ∨
    (kept blank max text).length + (note (text.length - max)).length ≤ max ∨
    (max ≤ (kept blank max text).length + 1 ∧
      (kept blank max text).length + (note (text.length - max)).length = text.length)

instance {note : ℕ → List α} {max : ℕ} {text : List α} :
    Decidable (Settled blank note max text) :=
  inferInstanceAs (Decidable (_ ∨ _))

theorem kept_length_le {max : ℕ} {text : List α} : (kept blank max text).length ≤ max := by
  have hprefix : kept blank max text <+: text.take max := List.rdropWhile_prefix _ _
  have hlength := hprefix.length_le
  have htake := List.length_take_le max text
  omega

/-- Dropping blanks at the end stops at the last character that is none. -/
theorem rdropWhile_append_of_mem {before after : List α} {c : α} (hmem : c ∈ after)
    (hc : blank c = false) :
    (before ++ after).rdropWhile blank = before ++ after.rdropWhile blank := by
  have hne : after.reverse.dropWhile blank ≠ [] := by
    intro hnil
    have hall := List.dropWhile_eq_nil_iff.1 hnil c (List.mem_reverse.2 hmem)
    rw [hc] at hall
    exact absurd hall (by decide)
  rw [List.rdropWhile, List.reverse_append, List.dropWhile_append, if_neg (by simpa using hne),
    List.reverse_append, List.reverse_reverse, List.rdropWhile]

theorem rdropWhile_kept {max : ℕ} {text : List α} :
    (kept blank max text).rdropWhile blank = kept blank max text :=
  List.rdropWhile_idempotent blank (text.take max)

section Tidy

variable {note : ℕ → List α} {max : ℕ} {text : List α}

/-- What is kept of a tidy text begins with its first character. -/
theorem head?_kept (h : Tidy blank text) (hmax : 0 < max) :
    (kept blank max text).head? = text.head? ∧ kept blank max text ≠ [] := by
  obtain ⟨c, rest, rfl⟩ := List.exists_cons_of_ne_nil h.ne_nil
  obtain ⟨n, rfl⟩ := Nat.exists_eq_succ_of_ne_zero hmax.ne'
  have hc : blank c = false := h.head c rfl
  have hne : kept blank (n + 1) (c :: rest) ≠ [] := by
    intro hnil
    have hall := List.rdropWhile_eq_nil_iff.1 hnil c (by simp)
    rw [hc] at hall
    exact absurd hall (by decide)
  refine ⟨?_, hne⟩
  have hprefix : kept blank (n + 1) (c :: rest) <+: c :: rest.take n :=
    List.rdropWhile_prefix _ _
  obtain ⟨d, more, hkept⟩ := List.exists_cons_of_ne_nil hne
  rw [hkept] at hprefix ⊢
  rw [(List.cons_prefix_cons.1 hprefix).1]
  rfl

/-- What is kept of a tidy text is tidy. -/
theorem tidy_kept (h : Tidy blank text) (hmax : 0 < max) : Tidy blank (kept blank max text) := by
  obtain ⟨hhead, hne⟩ := head?_kept h hmax
  refine ⟨hne, ?_, ?_⟩
  · intro c hc
    rw [hhead] at hc
    exact h.head c hc
  · intro c hc
    have hlast := List.rdropWhile_last_not blank (text.take max) hne
    rw [List.getLast?_eq_some_getLast hne, Option.mem_def, Option.some.injEq] at hc
    rw [← hc]
    exact Bool.eq_false_of_not_eq_true hlast

/-- A tidy text stays tidy with its note. -/
theorem tidy_cap (hnote : Note blank note) (hmax : 0 < max) (h : Tidy blank text) :
    Tidy blank (cap blank note max text) := by
  unfold cap
  split_ifs with hlength
  · exact h
  · obtain ⟨hhead, hne⟩ := head?_kept h hmax
    have hbody := hnote.body_tidy (text.length - max)
    rw [hnote.note_eq]
    refine ⟨by simp, ?_, ?_⟩
    · intro c hc
      rw [List.head?_append_of_ne_nil _ hne, hhead] at hc
      exact h.head c hc
    · intro c hc
      rw [List.getLast?_append_of_ne_nil _ (List.cons_ne_nil _ _),
        List.getLast?_cons_of_ne_nil hbody.ne_nil] at hc
      exact hbody.last c hc

/-- What is kept of a text with its note: the text alone where at most the mark is under the bound,
and a text that goes on with the mark otherwise. -/
theorem kept_append_note (hnote : Note blank note) {before : List α} {n : ℕ}
    (hbefore : before.rdropWhile blank = before) (hlength : before.length ≤ max) :
    (max ≤ before.length + 1 ∧ kept blank max (before ++ note n) = before) ∨
      (before.length + 1 < max ∧ ∃ more, kept blank max (before ++ note n) =
        before ++ hnote.mark :: more) := by
  have htake : (before ++ note n).take max = before ++ (note n).take (max - before.length) := by
    rw [List.take_append, List.take_of_length_le hlength]
  obtain ⟨c, rest, hbody⟩ := List.exists_cons_of_ne_nil (hnote.body_tidy n).ne_nil
  have hc : blank c = false := (hnote.body_tidy n).head c (by rw [hbody]; rfl)
  rw [kept, htake, hnote.note_eq, hbody]
  by_cases hnone : max = before.length
  · left
    refine ⟨by omega, ?_⟩
    rw [hnone, Nat.sub_self, List.take_zero, List.append_nil, hbefore]
  by_cases hone : max = before.length + 1
  · left
    refine ⟨by omega, ?_⟩
    have hleft : max - before.length = 1 := by omega
    rw [hleft, List.take_succ_cons, List.take_zero,
      List.rdropWhile_concat_pos _ _ _ hnote.mark_blank, hbefore]
  · right
    obtain ⟨m, hm⟩ : ∃ m, max - before.length = m + 2 := ⟨max - before.length - 2, by omega⟩
    refine ⟨by omega, ((c :: rest.take m).rdropWhile blank), ?_⟩
    have hmem : c ∈ hnote.mark :: c :: rest.take m := by simp
    have hsplit : hnote.mark :: c :: rest.take m = [hnote.mark] ++ (c :: rest.take m) := rfl
    rw [hm, List.take_succ_cons, List.take_succ_cons, rdropWhile_append_of_mem hmem hc, hsplit,
      rdropWhile_append_of_mem List.mem_cons_self hc]
    rfl

/-- **Capping twice is capping once** exactly for the settled texts. -/
theorem cap_cap_iff (hnote : Note blank note) :
    cap blank note max (cap blank note max text) = cap blank note max text ↔
      Settled blank note max text := by
  by_cases hshort : text.length ≤ max
  · simp [cap, Settled, hshort]
  have hkept : (kept blank max text).length ≤ max := kept_length_le
  have hcap : cap blank note max text = kept blank max text ++ note (text.length - max) := by
    rw [cap, if_neg hshort]
  by_cases hfits : (kept blank max text).length + (note (text.length - max)).length ≤ max
  · rw [hcap, cap, List.length_append, if_pos hfits]
    simp [Settled, hfits]
  rw [hcap, cap, List.length_append, if_neg hfits]
  obtain ⟨hover, heq⟩ | ⟨hunder, more, heq⟩ := kept_append_note hnote rdropWhile_kept hkept
  · -- The same text is kept again, so that the notes decide.
    rw [heq, List.append_cancel_left_eq, hnote.note_eq, hnote.note_eq, List.cons.injEq]
    constructor
    · rintro ⟨-, hbody⟩
      have hnumber := hnote.body_inj _ _ hbody
      rw [← hnote.note_eq] at hnumber
      exact Or.inr (Or.inr ⟨hover, by omega⟩)
    · intro hsettled
      have hnumber : (kept blank max text).length + (note (text.length - max)).length =
          text.length := by
        obtain h | h | h := hsettled
        · exact absurd h hshort
        · exact absurd h hfits
        · exact h.2
      rw [← hnote.note_eq, hnumber]
      exact ⟨rfl, rfl⟩
  · -- The mark that is kept stands in the text twice.
    constructor
    · intro htwice
      rw [heq, List.append_assoc, List.append_cancel_left_eq, List.cons_append, hnote.note_eq,
        hnote.note_eq, List.cons.injEq] at htwice
      have hmem : hnote.mark ∈ hnote.body (text.length - max) := by
        rw [← htwice.2]
        simp
      exact absurd hmem (hnote.mark_notMem _)
    · intro hsettled
      obtain h | h | h := hsettled
      · exact absurd h hshort
      · exact absurd h hfits
      · omega

end Tidy

end CappedText
