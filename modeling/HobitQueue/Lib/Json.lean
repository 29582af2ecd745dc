import Mathlib.Data.List.Basic
import Mathlib.Algebra.Ring.Nat
import Mathlib.Algebra.Ring.Int.Defs

/-!
# JSON values

A JSON text column of a database is read through a parser and written through a
printer that are inverse to each other, so a column holds either the value its
text stands for or a text that is no JSON at all.

## Main definitions

* `Json` — JSON values, with a number as its printed numeral.
* `JsonText` — a text, as the value it parses to or as malformed.
* `Json.beq` — equality, decided by recursion.
* `Json.field`, `Json.asStr`, `Json.stringList` — the accessors services use.
-/

/-- A JSON value. The members of an object are listed in key order. -/
inductive Json where
  | null
  | bool (b : Bool)
  | num (numeral : String)
  | str (s : String)
  | arr (items : List Json)
  | obj (members : List (String × Json))
  deriving Inhabited

namespace Json

/-! ## Equality -/

mutual

/-- Equality as a test. -/
def beq : Json → Json → Bool
  | null, null => true
  | bool a, bool b => a == b
  | num a, num b => a == b
  | str a, str b => a == b
  | arr xs, arr ys => beqItems xs ys
  | obj xs, obj ys => beqMembers xs ys
  | _, _ => false

def beqItems : List Json → List Json → Bool
  | [], [] => true
  | x :: xs, y :: ys => beq x y && beqItems xs ys
  | _, _ => false

def beqMembers : List (String × Json) → List (String × Json) → Bool
  | [], [] => true
  | (k, x) :: xs, (l, y) :: ys => k == l && beq x y && beqMembers xs ys
  | _, _ => false

end

mutual

theorem beq_iff (a b : Json) : beq a b = true ↔ a = b := by
  match a, b with
  | arr xs, arr ys => simp [beq, beqItems_iff xs ys]
  | obj xs, obj ys => simp [beq, beqMembers_iff xs ys]
  | null, b => cases b <;> simp [beq]
  | bool a, b => cases b <;> simp [beq]
  | num a, b => cases b <;> simp [beq]
  | str a, b => cases b <;> simp [beq]
  | arr xs, null | arr xs, bool _ | arr xs, num _ | arr xs, str _ | arr xs, obj _ => simp [beq]
  | obj xs, null | obj xs, bool _ | obj xs, num _ | obj xs, str _ | obj xs, arr _ => simp [beq]

theorem beqItems_iff (xs ys : List Json) : beqItems xs ys = true ↔ xs = ys := by
  match xs, ys with
  | [], ys => cases ys <;> simp [beqItems]
  | x :: xs, [] => simp [beqItems]
  | x :: xs, y :: ys => simp [beqItems, beq_iff x y, beqItems_iff xs ys]

theorem beqMembers_iff (xs ys : List (String × Json)) : beqMembers xs ys = true ↔ xs = ys := by
  match xs, ys with
  | [], ys => cases ys <;> simp [beqMembers]
  | x :: xs, [] => simp [beqMembers]
  | (k, x) :: xs, (l, y) :: ys =>
    simp [beqMembers, beq_iff x y, beqMembers_iff xs ys, and_assoc]

end

instance : DecidableEq Json := fun a b => decidable_of_iff _ (beq_iff a b)

/-! ## Accessors -/

/-- The value of a member of an object; nothing for the other values. -/
def field (v : Json) (key : String) : Option Json :=
  match v with
  | obj members => members.lookup key
  | _ => none

def asStr : Json → Option String
  | str s => some s
  | _ => none

def asObject : Json → Option (List (String × Json))
  | obj members => some members
  | _ => none

def isNull : Json → Bool
  | null => true
  | _ => false

/-- An array of strings; nothing when the value is anything else. -/
def stringList : Json → Option (List String)
  | arr items => items.mapM asStr
  | _ => none

/-- The array of some strings. -/
def ofStrings (strings : List String) : Json := arr (strings.map str)

@[simp] theorem stringList_ofStrings (strings : List String) :
    (ofStrings strings).stringList = some strings := by
  induction strings with
  | nil => rfl
  | cons s strings ih =>
    simp only [ofStrings, stringList, List.map_cons, List.mapM_cons] at ih ⊢
    rw [ih]
    rfl

/-! ## Readers

A reader turns a value into data or says what is wrong with it. -/

def readStr : Json → Except String String
  | str s => .ok s
  | _ => .error "invalid type, expected a string"

def readBool : Json → Except String Bool
  | bool b => .ok b
  | _ => .error "invalid type, expected a boolean"

/-- The number some decimal digits stand for. -/
def natOfDigits (digits : List Char) : Option Nat :=
  if digits ≠ [] ∧ digits.all Char.isDigit then
    some (digits.foldl (fun n c => 10 * n + (c.toNat - 48)) 0)
  else none

/-- The integer a numeral stands for: no fraction, no exponent, no negative zero. -/
def intOfNumeral (numeral : String) : Option Int :=
  match numeral.toList with
  | '-' :: digits => (natOfDigits digits).bind fun n => if n = 0 then none else some (-(n : Int))
  | digits => (natOfDigits digits).map Int.ofNat

def readInt : Json → Except String Int
  | num numeral =>
      match intOfNumeral numeral with
      | some i =>
          if -2 ^ 63 ≤ i ∧ i < 2 ^ 63 then .ok i else .error "invalid type, expected i64"
      | none => .error "invalid type, expected i64"
  | _ => .error "invalid type, expected i64"

def readList {α : Type} (read : Json → Except String α) : Json → Except String (List α)
  | arr items => items.mapM read
  | _ => .error "invalid type, expected a sequence"

/-- A record is an object, or the array of its fields in their order. -/
def asRecord (fields : List String) (v : Json) : Except String Json :=
  match v with
  | arr items =>
      if items.length = fields.length then .ok (obj (fields.zip items))
      else .error "invalid length"
  | v => .ok v

/-- The value of a field that must be there. -/
def required {α : Type} (v : Json) (read : Json → Except String α) (key : String) :
    Except String α :=
  match v.field key with
  | some x => read x
  | none => .error ("missing field `" ++ key ++ "`")

/-- The value of a field that may be absent or `null`. -/
def optional {α : Type} (v : Json) (read : Json → Except String α) (key : String) :
    Except String (Option α) :=
  match v.field key with
  | none | some null => .ok none
  | some x => (read x).map some

end Json

/-- A text that may be JSON. -/
inductive JsonText where
  | value (v : Json)
  | malformed (text : String)
  deriving DecidableEq

namespace JsonText

/-- The parsed text. -/
def parse : JsonText → Option Json
  | value v => some v
  | malformed _ => none

/-- The parsed text as a list of strings. -/
def parseStrings (text : JsonText) : Option (List String) := text.parse.bind Json.stringList

@[simp] theorem parseStrings_ofStrings (strings : List String) :
    (value (Json.ofStrings strings)).parseStrings = some strings := by
  simp [parseStrings, parse]

end JsonText
