import HobitQueue.Lib.Json
import Mathlib.Data.String.Basic

/-!
# The texts of a JSON value

A value has many texts: a character of a string may be written as itself or as an escape. The
grammar says which texts stand for a value; white space between the tokens, and numbers with a
sign, a fraction or an exponent, are left out.

## Main definitions

* `Json.CharText` — the texts of a character inside a string.
* `Json.TextOf` — the texts of a value.
-/

namespace Json

def backslashChar : Char := Char.ofNat 92

def quoteChar : Char := Char.ofNat 34

/-- The short escapes: the letter and the character it stands for. -/
def shortEscapes : List (Char × ℕ) :=
  [(quoteChar, 34), (backslashChar, 92), ('/', 47), ('b', 8), ('f', 12), ('n', 10), ('r', 13),
    ('t', 9)]

/-- The value of a hexadecimal digit. -/
def hexDigit (c : Char) : Option ℕ :=
  if c.isDigit then some (c.toNat - 48)
  else if 'a' ≤ c ∧ c ≤ 'f' then some (c.toNat - 87)
  else if 'A' ≤ c ∧ c ≤ 'F' then some (c.toNat - 55)
  else none

/-- The texts of a character inside a string. -/
inductive CharText (c : Char) : List Char → Prop where
  | plain (hlow : 32 ≤ c.toNat) (hquote : c.toNat ≠ 34) (hescape : c.toNat ≠ 92) : CharText c [c]
  | short (letter : Char) (h : (letter, c.toNat) ∈ shortEscapes) :
      CharText c [backslashChar, letter]
  | unicode (h₁ h₂ h₃ h₄ : Char) (d₁ d₂ d₃ d₄ : ℕ) (e₁ : hexDigit h₁ = some d₁)
      (e₂ : hexDigit h₂ = some d₂) (e₃ : hexDigit h₃ = some d₃) (e₄ : hexDigit h₄ = some d₄)
      (hvalue : ((d₁ * 16 + d₂) * 16 + d₃) * 16 + d₄ = c.toNat) :
      CharText c [backslashChar, 'u', h₁, h₂, h₃, h₄]

/-- The texts between the quotes of a string. -/
inductive BodyText : List Char → List Char → Prop where
  | nil : BodyText [] []
  | cons {c : Char} {cs text rest : List Char} (hc : CharText c text) (hcs : BodyText cs rest) :
      BodyText (c :: cs) (text ++ rest)

/-- The texts of a string. -/
def StringText (s : String) (text : List Char) : Prop :=
  ∃ body, BodyText s.toList body ∧ text = quoteChar :: body ++ [quoteChar]

mutual

/-- The texts of a value. -/
def TextOf : Json → List Char → Prop
  | null, text => text = "null".toList
  | bool b, text => text = (if b then "true" else "false").toList
  | num numeral, text => (∃ n : ℕ, numeral = toString n) ∧ text = numeral.toList
  | str s, text => StringText s text
  | arr items, text => ∃ body, ItemsText items body ∧ text = '[' :: body ++ [']']
  | obj members, text => (members.map Prod.fst).Nodup ∧
      ∃ body, MembersText members body ∧ text = Char.ofNat 123 :: body ++ [Char.ofNat 125]

/-- The texts of the items of an array. -/
def ItemsText : List Json → List Char → Prop
  | [], text => text = []
  | item :: rest, text => ∃ first others, TextOf item first ∧ ItemsText rest others ∧
      text = first ++ (if rest.isEmpty then [] else [',']) ++ others

/-- The texts of the members of an object. -/
def MembersText : List (String × Json) → List Char → Prop
  | [], text => text = []
  | (key, value) :: rest, text => ∃ name first others, StringText key name ∧
      TextOf value first ∧ MembersText rest others ∧
      text = name ++ [':'] ++ first ++ (if rest.isEmpty then [] else [',']) ++ others

end

/-- The texts of an array whose items are printed one by one. -/
theorem itemsText_intercalate {α : Type} {value : α → Json} {print : α → String} {xs : List α}
    (h : ∀ x ∈ xs, TextOf (value x) (print x).toList) :
    ItemsText (xs.map value) (",".intercalate (xs.map print)).toList := by
  induction xs with
  | nil => rfl
  | cons x xs ih =>
    have hx := h x List.mem_cons_self
    have hxs := ih fun y hy => h y (List.mem_cons_of_mem x hy)
    refine ⟨(print x).toList, (",".intercalate (xs.map print)).toList, hx, hxs, ?_⟩
    cases xs with
    | nil => simp
    | cons y ys => simp

/-- The texts of an object whose members are printed one by one. -/
theorem membersText_intercalate {α : Type} {key : α → String} {value : α → Json}
    {name print : α → String} {xs : List α} (hname : ∀ x ∈ xs, StringText (key x) (name x).toList)
    (h : ∀ x ∈ xs, TextOf (value x) (print x).toList) :
    MembersText (xs.map fun x => (key x, value x))
      (",".intercalate (xs.map fun x => name x ++ ":" ++ print x)).toList := by
  induction xs with
  | nil => rfl
  | cons x xs ih =>
    have hnamex := hname x List.mem_cons_self
    have hx := h x List.mem_cons_self
    have hxs := ih (fun y hy => hname y (List.mem_cons_of_mem x hy))
      fun y hy => h y (List.mem_cons_of_mem x hy)
    refine ⟨(name x).toList, (print x).toList, _, hnamex, hx, hxs, ?_⟩
    cases xs with
    | nil => simp
    | cons y ys => simp

end Json
