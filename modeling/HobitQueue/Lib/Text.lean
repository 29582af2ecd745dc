import Mathlib.Data.List.DropRight
import Mathlib.Data.String.Basic

/-!
# Text as services clean it up

Trimming removes the characters of the Unicode property `White_Space` at both
ends of a text. A trimmed text is a fixed point, which is what lets a service
trim its input again and again on the way down.

## Main definitions

* `isWhiteSpace`, `trim` — the characters and the function that removes them.
* `trimmedNonEmpty` — the trimmed text, unless nothing is left of it.
* `padLeft` — a decimal numeral filled up with leading zeros.
-/

namespace Text

/-- The Unicode property `White_Space`. -/
def isWhiteSpace (c : Char) : Bool :=
  let n := c.toNat
  (9 ≤ n && n ≤ 13) || n == 32 || n == 133 || n == 160 || n == 5760 ||
    (8192 ≤ n && n ≤ 8202) || n == 8232 || n == 8233 || n == 8239 || n == 8287 || n == 12288

/-- The text without white space at its ends. -/
def trim (s : String) : String :=
  String.ofList ((s.toList.dropWhile isWhiteSpace).rdropWhile isWhiteSpace)

theorem toList_trim (s : String) :
    (trim s).toList = (s.toList.dropWhile isWhiteSpace).rdropWhile isWhiteSpace := by
  simp [trim]

/-- Dropping from the right of a list that does not start with a dropped element
keeps it that way. -/
private theorem dropWhile_rdropWhile {α : Type} (p : α → Bool) (l : List α)
    (h : l.dropWhile p = l) : (l.rdropWhile p).dropWhile p = l.rdropWhile p := by
  cases l with
  | nil => simp
  | cons a l =>
    have ha : p a = false := by
      by_contra hp
      rw [List.dropWhile_cons, if_pos (by simpa using hp)] at h
      have hlen := List.length_dropWhile_le p l
      rw [h, List.length_cons] at hlen
      omega
    have hprefix := List.rdropWhile_prefix p (l := a :: l)
    cases hr : (a :: l).rdropWhile p with
    | nil => rfl
    | cons b t =>
      rw [hr] at hprefix
      obtain rfl := (List.cons_prefix_cons.1 hprefix).1
      simp [ha]

/-- **Trimming twice is trimming once.** -/
@[simp] theorem trim_trim (s : String) : trim (trim s) = trim s := by
  have hfix := dropWhile_rdropWhile isWhiteSpace _
    (List.dropWhile_idempotent isWhiteSpace s.toList)
  conv_lhs => rw [trim, toList_trim, hfix, List.rdropWhile_idempotent]
  rfl

/-- A text without white space is its own trimmed text. -/
theorem trim_of_forall {s : String} (h : ∀ c ∈ s.toList, isWhiteSpace c = false) :
    trim s = s := by
  have hleft : s.toList.dropWhile isWhiteSpace = s.toList := by
    rw [List.dropWhile_eq_self_iff]
    intro hlen
    simpa using h _ (List.getElem_mem hlen)
  have hright : s.toList.rdropWhile isWhiteSpace = s.toList := by
    rw [List.rdropWhile_eq_self_iff]
    intro hne
    simpa using h _ (List.getLast_mem hne)
  rw [trim, hleft, hright, String.ofList_toList]

theorem isWhiteSpace_of_isDigit {c : Char} (h : c.isDigit = true) : isWhiteSpace c = false := by
  have hrange : 48 ≤ c.toNat ∧ c.toNat ≤ 57 := by
    simpa [Char.isDigit, Char.le_def, UInt32.le_iff_toNat_le] using h
  simp only [isWhiteSpace, Bool.or_eq_false_iff, Bool.and_eq_false_iff, decide_eq_false_iff_not,
    beq_eq_false_iff_ne]
  omega

/-- The trimmed text, unless nothing is left of it. -/
def trimmedNonEmpty (s : String) : Option String :=
  if trim s = "" then none else some (trim s)

/-- An optional text trimmed, with an empty one counted as absent. -/
def optionalTrimmed (value : Option String) : Option String := value.bind trimmedNonEmpty

/-- The text without white space at its end. -/
def trimEnd (s : String) : String := String.ofList (s.toList.rdropWhile isWhiteSpace)

/-- The trimmed text, or another one when nothing is left of it. -/
def visibleValue (value fallback : String) : String := (trimmedNonEmpty value).getD fallback

/-- A number in decimal, filled up with zeros to the given width. -/
def padLeft (width : ℕ) (n : ℕ) : String :=
  let digits := Nat.repr n
  String.ofList (List.replicate (width - digits.length) '0') ++ digits

end Text
