import Mathlib.Data.List.Basic
import Mathlib.Data.String.Basic

/-!
# Texts of Java

A text of Java is a list of units of sixteen bits: a character is one unit, or two when it lies
beyond the first plane. Digits and white space are those of units.

## Main definitions

* `Java.text` — a text as its units.
* `Java.isWhitespace`, `Java.isDigit`, `Java.Letters` — the classes of units.
* `Java.parseInt` — the integer a numeral stands for.
-/

namespace Java

/-- The units of a character. -/
def units (c : Char) : List ℕ :=
  if c.toNat < 0x10000 then [c.toNat]
  else [0xD800 + (c.toNat - 0x10000) / 0x400, 0xDC00 + (c.toNat - 0x10000) % 0x400]

def text (s : String) : List ℕ := s.toList.flatMap units

@[simp] theorem text_append (s t : String) : text (s ++ t) = text s ++ text t := by
  simp [text]

@[simp] theorem text_empty : text "" = [] := rfl

@[simp] theorem text_ofList (cs : List Char) : text (String.ofList cs) = cs.flatMap units := by
  simp [text]

theorem units_of_lt {c : Char} (h : c.toNat < 0x10000) : units c = [c.toNat] := if_pos h

/-- A character that is no ASCII character has no unit that is one. -/
theorem le_of_mem_units {c : Char} {u : ℕ} (hc : 128 ≤ c.toNat) (hu : u ∈ units c) :
    128 ≤ u := by
  by_cases h : c.toNat < 0x10000
  · rw [units_of_lt h, List.mem_singleton] at hu
    omega
  · rw [units, if_neg h] at hu
    simp only [List.mem_cons, List.not_mem_nil, or_false] at hu
    omega

/-! ## Classes of units -/

def isWhitespace (u : ℕ) : Bool :=
  (0x9 ≤ u && u ≤ 0xD) || (0x1C ≤ u && u ≤ 0x20) || u == 0x1680 ||
    (0x2000 ≤ u && u ≤ 0x2006) || (0x2008 ≤ u && u ≤ 0x200A) || u == 0x2028 || u == 0x2029 ||
    u == 0x205F || u == 0x3000

/-- The zeros of the scripts; the nine other digits follow them. -/
def zeros : List ℕ :=
  [0x30, 0x660, 0x6F0, 0x7C0, 0x966, 0x9E6, 0xA66, 0xAE6, 0xB66, 0xBE6, 0xC66, 0xCE6, 0xD66,
    0xDE6, 0xE50, 0xED0, 0xF20, 0x1040, 0x1090, 0x17E0, 0x1810, 0x1946, 0x19D0, 0x1A80, 0x1A90,
    0x1B50, 0x1BB0, 0x1C40, 0x1C50, 0xA620, 0xA8D0, 0xA900, 0xA9D0, 0xA9F0, 0xAA50, 0xABF0,
    0xFF10]

/-- The value of a digit. -/
def digit (u : ℕ) : Option ℕ :=
  (zeros.find? fun first => first ≤ u && u < first + 10).map (u - ·)

def isDigit (u : ℕ) : Bool := (digit u).isSome

theorem digit_ascii {u : ℕ} (h : 48 ≤ u) (h' : u ≤ 57) : digit u = some (u - 48) := by
  have hfirst : (decide (0x30 ≤ u) && decide (u < 0x30 + 10)) = true := by
    simp only [Bool.and_eq_true, decide_eq_true_eq]
    omega
  simp only [digit, zeros, List.find?_cons, hfirst, Option.map_some]

theorem isDigit_ascii {u : ℕ} (h : 48 ≤ u) (h' : u ≤ 57) : isDigit u = true := by
  rw [isDigit, digit_ascii h h', Option.isSome_some]

theorem isDigit_eq_false {u : ℕ} (h : u < 128) (h' : u < 48 ∨ 57 < u) : isDigit u = false := by
  have hnone : (zeros.find? fun first => first ≤ u && u < first + 10) = none := by
    rw [List.find?_eq_none]
    intro first hfirst
    simp only [Bool.and_eq_true, decide_eq_true_eq, not_and, not_lt]
    intro hle
    simp only [zeros, List.mem_cons, List.not_mem_nil, or_false] at hfirst
    omega
  rw [isDigit, digit, hnone]
  rfl

/-- The units that `String.trim` removes. -/
def isTrimmed (u : ℕ) : Bool := u ≤ 32

/-- What `Character` says about the letters. Releases know more and more scripts; on the ASCII
units they agree, and the dotless `i` and the long `s` alone have a capital among them. -/
structure Letters where
  isLetterOrDigit : ℕ → Bool
  toUpperCase : ℕ → ℕ
  isLetterOrDigit_ascii : ∀ u < 128,
    isLetterOrDigit u = (48 ≤ u && u ≤ 57 || 65 ≤ u && u ≤ 90 || 97 ≤ u && u ≤ 122)
  toUpperCase_ascii : ∀ u < 128, toUpperCase u = if 97 ≤ u ∧ u ≤ 122 then u - 32 else u
  toUpperCase_beyond : ∀ u, 128 ≤ u → toUpperCase u < 128 → toUpperCase u ∈ [73, 83]

/-- The letters of the first two hundred and fifty-six units. -/
def Letters.latin1 : Letters where
  isLetterOrDigit u :=
    (48 ≤ u && u ≤ 57 || 65 ≤ u && u ≤ 90 || 97 ≤ u && u ≤ 122) || u == 0xAA || u == 0xB5 ||
      u == 0xBA || 0xC0 ≤ u && u ≤ 0xFF && u != 0xD7 && u != 0xF7
  toUpperCase u :=
    if 97 ≤ u ∧ u ≤ 122 then u - 32
    else if 0xE0 ≤ u ∧ u ≤ 0xFE ∧ u ≠ 0xF7 then u - 32
    else if u = 0xFF then 0x178
    else if u = 0xB5 then 0x39C
    else u
  isLetterOrDigit_ascii := by decide
  toUpperCase_ascii := by decide
  toUpperCase_beyond := by
    intro u hu hlt
    split_ifs at hlt <;> omega

/-! ## Integers -/

/-- The digits of a numeral, from the first to the last. -/
def parseDigits (numeral : List ℕ) : Option ℕ :=
  numeral.foldl (fun value u => value.bind fun n => (digit u).map fun d => 10 * n + d) (some 0)

/-- `Integer.parseInt`: a sign or none, digits, and a value of thirty-two bits. -/
def parseInt (numeral : List ℕ) : Option ℤ :=
  let negative := numeral.head? == some 45
  let digits := if negative || numeral.head? == some 43 then numeral.tail else numeral
  if digits = [] then none
  else
    (parseDigits digits).bind fun n =>
      let value : ℤ := if negative then -n else n
      if -2147483648 ≤ value ∧ value ≤ 2147483647 then some value else none

theorem parseDigits_decimal (cs : List Char) (hdigits : ∀ c ∈ cs, c.isDigit = true) :
    parseDigits (cs.flatMap units) = some (Nat.ofDigitChars 10 cs 0) := by
  have hfold : ∀ n : ℕ, (cs.flatMap units).foldl
      (fun value u => value.bind fun n => (digit u).map fun d => 10 * n + d) (some n) =
        some (Nat.ofDigitChars 10 cs n) := by
    induction cs with
    | nil => simp
    | cons c cs ih =>
      intro n
      have hc := Char.isDigit_iff_toNat.mp (hdigits c List.mem_cons_self)
      have hzero : '0'.toNat = 48 := rfl
      have hnine : '9'.toNat = 57 := rfl
      rw [hzero, hnine] at hc
      rw [List.flatMap_cons, units_of_lt (by omega), List.singleton_append, List.foldl_cons,
        digit_ascii hc.1 hc.2, Nat.ofDigitChars_cons]
      exact ih (fun c' hc' => hdigits c' (List.mem_cons_of_mem c hc')) _
  exact hfold 0

theorem text_toString (n : ℕ) : text (toString n) = (Nat.toDigits 10 n).flatMap units := by
  rw [Nat.toString_eq_ofList_toDigits, text_ofList]

/-- A decimal numeral consists of digits. -/
theorem digit_of_mem_text_toString {n u : ℕ} (hu : u ∈ text (toString n)) : 48 ≤ u ∧ u ≤ 57 := by
  rw [text_toString, List.mem_flatMap] at hu
  obtain ⟨c, hc, hu⟩ := hu
  have hdigit := Char.isDigit_iff_toNat.mp
    (Nat.isDigit_of_mem_toDigits (by decide) (by decide) hc)
  have hzero : '0'.toNat = 48 := rfl
  have hnine : '9'.toNat = 57 := rfl
  rw [units_of_lt (by omega), List.mem_singleton] at hu
  omega

theorem exists_text_toString (n : ℕ) : ∃ u us, text (toString n) = u :: us ∧ 48 ≤ u ∧ u ≤ 57 := by
  cases htext : text (toString n) with
  | nil =>
    obtain ⟨c, cs, hcs⟩ := List.exists_cons_of_ne_nil (@Nat.toDigits_ne_nil n 10)
    rw [text_toString, hcs, List.flatMap_cons, units] at htext
    split_ifs at htext
    · cases htext
    · cases htext
  | cons u us =>
    have hu := @digit_of_mem_text_toString n u (by rw [htext]; exact List.mem_cons_self)
    exact ⟨u, us, rfl, hu.1, hu.2⟩

/-- The decimal numeral of a small number is read as that number. -/
theorem parseInt_toString {n : ℕ} (h : n ≤ 2147483647) :
    parseInt (text (toString n)) = some (n : ℤ) := by
  have hvalue : parseDigits (text (toString n)) = some n := by
    rw [text_toString, parseDigits_decimal, Nat.ofDigitChars_ten_toDigits]
    intro c hc
    exact Nat.isDigit_of_mem_toDigits (by decide) (by decide) hc
  obtain ⟨u, us, htext, hlow, hhigh⟩ := exists_text_toString n
  rw [htext] at hvalue ⊢
  have hminus : ((u :: us).head? == some 45) = false := by
    simp only [List.head?_cons, Option.some_beq_some, beq_eq_false_iff_ne, ne_eq]
    omega
  have hplus : ((u :: us).head? == some 43) = false := by
    simp only [List.head?_cons, Option.some_beq_some, beq_eq_false_iff_ne, ne_eq]
    omega
  simp only [parseInt, hminus, hplus, Bool.or_self, Bool.false_eq_true, if_false, reduceCtorEq,
    hvalue, Option.bind_some]
  rw [if_pos (by omega)]

end Java
