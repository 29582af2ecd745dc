import Mathlib.Data.List.Basic
import Mathlib.Data.String.Basic

/-!
# Texts framed by their length

A framed text is its number of UTF-8 bytes in decimal digits, a colon, and the text itself.
Whatever follows a framed text, where it ends can be told: the digits end at the first
colon, and no text is a proper beginning of another one with as many bytes.

## Main definitions

* `Framing.framed` — a text after its length.
* `Framing.entry` — a framed key and a framed value.
* `Framing.entries` — entries joined by a separator.

## Main results

* `Framing.framed_append_inj` — a framed text is the only one that a text begins with.
* `Framing.entries_inj` — the joined text determines the entries.
-/

namespace Framing

def framed (s : String) : String := Nat.repr s.utf8ByteSize ++ ":" ++ s

def entry (e : String × String) : String := framed e.1 ++ framed e.2

def entries (separator : String) (es : List (String × String)) : String :=
  separator.intercalate (es.map entry)

theorem toDigits_ten_inj {n n' : ℕ} (h : Nat.toDigits 10 n = Nat.toDigits 10 n') : n = n' := by
  rw [← Nat.ofDigitChars_ten_toDigits (n := n), h, Nat.ofDigitChars_ten_toDigits]

private theorem colon_not_in_toDigits (n : ℕ) : ':' ∉ Nat.toDigits 10 n := by
  intro h
  have hdigit := Nat.isDigit_of_mem_toDigits (by decide) (by decide) h
  exact absurd hdigit (by decide)

/-- What stands before the first sign of a kind, and what stands behind it. -/
theorem first_sign_inj {α : Type*} {c : α} : ∀ {x x' r r' : List α}, c ∉ x → c ∉ x' →
    x ++ c :: r = x' ++ c :: r' → x = x' ∧ r = r'
  | [], [], _, _, _, _, h => ⟨rfl, (List.cons.inj h).2⟩
  | [], _ :: _, _, _, _, hc', h => absurd ((List.cons.inj h).1 ▸ List.mem_cons_self) hc'
  | _ :: _, [], _, _, hc, _, h => absurd ((List.cons.inj h).1 ▸ List.mem_cons_self) hc
  | a :: x, a' :: x', r, r', hc, hc', h => by
    have hparts := List.cons.inj h
    have hrest := first_sign_inj (List.not_mem_of_not_mem_cons hc)
      (List.not_mem_of_not_mem_cons hc') hparts.2
    exact ⟨by rw [hparts.1, hrest.1], hrest.2⟩

/-- **No text is a proper beginning of another one with as many bytes.** -/
theorem append_inj_of_utf8ByteSize_eq {s s' r r' : String} (h : s ++ r = s' ++ r')
    (hsize : s.utf8ByteSize = s'.utf8ByteSize) : s = s' ∧ r = r' := by
  have hchars : s.toList ++ r.toList = s'.toList ++ r'.toList := by
    simpa only [String.toList_append] using congrArg String.toList h
  have hfront : s = s' := by
    rcases List.append_eq_append_iff.1 hchars with ⟨more, hmore, -⟩ | ⟨more, hmore, -⟩
    · have hs' : s' = s ++ String.ofList more := String.toList_inj.1 (by simpa using hmore)
      have hzero : (String.ofList more).utf8ByteSize = 0 := by
        rw [hs', String.utf8ByteSize_append] at hsize
        omega
      rw [hs', String.utf8ByteSize_eq_zero_iff.1 hzero, String.append_empty]
    · have hs : s = s' ++ String.ofList more := String.toList_inj.1 (by simpa using hmore)
      have hzero : (String.ofList more).utf8ByteSize = 0 := by
        rw [hs, String.utf8ByteSize_append] at hsize
        omega
      rw [hs, String.utf8ByteSize_eq_zero_iff.1 hzero, String.append_empty]
  subst hfront
  exact ⟨rfl, String.toList_inj.1 (List.append_cancel_left hchars)⟩

theorem framed_append_inj {s s' r r' : String} (h : framed s ++ r = framed s' ++ r') :
    s = s' ∧ r = r' := by
  have hchars : Nat.toDigits 10 s.utf8ByteSize ++ ':' :: (s ++ r).toList =
      Nat.toDigits 10 s'.utf8ByteSize ++ ':' :: (s' ++ r').toList := by
    have hlist := congrArg String.toList h
    simpa [framed, String.toList_append, List.append_assoc] using hlist
  have hsplit := first_sign_inj (colon_not_in_toDigits _) (colon_not_in_toDigits _) hchars
  exact append_inj_of_utf8ByteSize_eq (String.toList_inj.1 hsplit.2)
    (toDigits_ten_inj hsplit.1)

theorem entry_append_inj {e e' : String × String} {r r' : String}
    (h : entry e ++ r = entry e' ++ r') : e = e' ∧ r = r' := by
  simp only [entry, String.append_assoc] at h
  have hkey := framed_append_inj h
  have hvalue := framed_append_inj hkey.2
  exact ⟨Prod.ext hkey.1 hvalue.1, hvalue.2⟩

theorem entries_nil (separator : String) : entries separator [] = "" := rfl

/-- The rest of the joined text, behind its first entry. -/
private def behind (separator : String) : List (String × String) → String
  | [] => ""
  | e :: es => separator ++ entry e ++ behind separator es

private theorem entries_cons (separator : String) (e : String × String)
    (es : List (String × String)) :
    entries separator (e :: es) = entry e ++ behind separator es := by
  induction es generalizing e with
  | nil => simp [entries, behind]
  | cons e' es ih =>
    have hstep : entries separator (e :: e' :: es) =
        entry e ++ separator ++ entries separator (e' :: es) := by
      simp [entries]
    rw [hstep, ih e', behind]
    simp only [String.append_assoc]

private theorem append_ne_empty {s r : String} (h : s ≠ "") : s ++ r ≠ "" := by
  intro hempty
  have hchars := congrArg String.toList hempty
  simp only [String.toList_append, String.toList_empty, List.append_eq_nil_iff] at hchars
  exact h (String.toList_inj.1 hchars.1)

private theorem entry_ne_empty (e : String × String) : entry e ≠ "" := by
  intro hempty
  have hchars := congrArg String.toList hempty
  simp [entry, framed, String.toList_append] at hchars

private theorem behind_inj {separator : String} (hseparator : separator ≠ "") :
    ∀ {es es' : List (String × String)}, behind separator es = behind separator es' → es = es'
  | [], [], _ => rfl
  | [], e' :: es', h => by
    rw [behind, behind, String.append_assoc] at h
    exact absurd h.symm (append_ne_empty hseparator)
  | e :: es, [], h => by
    rw [behind, behind, String.append_assoc] at h
    exact absurd h (append_ne_empty hseparator)
  | e :: es, e' :: es', h => by
    rw [behind, behind, String.append_assoc, String.append_assoc] at h
    have hentry := entry_append_inj (append_inj_of_utf8ByteSize_eq h rfl).2
    rw [hentry.1, behind_inj hseparator hentry.2]

/-- **The joined text determines the entries**, whatever texts they are. -/
theorem entries_inj {separator : String} (hseparator : separator ≠ "")
    {es es' : List (String × String)} (h : entries separator es = entries separator es') :
    es = es' := by
  cases es with
  | nil =>
    cases es' with
    | nil => rfl
    | cons e' es' =>
      rw [entries_nil, entries_cons] at h
      exact absurd h.symm (append_ne_empty (entry_ne_empty e'))
  | cons e es =>
    cases es' with
    | nil =>
      rw [entries_nil, entries_cons] at h
      exact absurd h (append_ne_empty (entry_ne_empty e))
    | cons e' es' =>
      rw [entries_cons, entries_cons] at h
      have hentry := entry_append_inj h
      rw [hentry.1, behind_inj hseparator hentry.2]

end Framing
