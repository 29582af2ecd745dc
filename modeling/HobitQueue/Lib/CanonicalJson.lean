import HobitQueue.Lib.Json
import Mathlib.Data.List.Sort
import Mathlib.Data.String.Basic

/-!
# Printing JSON, and objects that change

A canonical printer writes the members of every object in key order, so that equal
values have one text; hashes and size limits are taken of that text. An object that
changes keeps its members in key order.

## Main definitions

* `Json.quote` — a text as a JSON string.
* `Json.canonicalString` — the canonical text of a value.
* `utf8Length` — the number of bytes of a text.
* `Json.insertMember`, `Json.updateEntry` — a member written into an object, and the
  object under a key changed.
-/

/-- The number of bytes of a text in UTF-8. -/
def utf8Length (s : String) : ℕ := (s.toList.map Char.utf8Size).sum

namespace Json

/-! ## The printer -/

/-- One character of a string: quotes, backslashes and control characters are escaped. -/
def escapeChar (c : Char) : List Char :=
  let backslash := Char.ofNat 92
  match c.toNat with
  | 34 => [backslash, c]
  | 92 => [backslash, c]
  | 8 => [backslash, 'b']
  | 9 => [backslash, 't']
  | 10 => [backslash, 'n']
  | 12 => [backslash, 'f']
  | 13 => [backslash, 'r']
  | n =>
      if n < 32 then [backslash, 'u', '0', '0', Nat.digitChar (n / 16), Nat.digitChar (n % 16)]
      else [c]

/-- A text as a JSON string. -/
def quote (s : String) : String :=
  let mark := Char.ofNat 34
  String.ofList (mark :: s.toList.flatMap escapeChar ++ [mark])

mutual

/-- The text of a value, with the members of its objects in key order. -/
def canonicalString : Json → String
  | null => "null"
  | bool b => if b then "true" else "false"
  | num numeral => numeral
  | str s => quote s
  | arr items => "[" ++ ",".intercalate (canonicalItems items) ++ "]"
  | obj members =>
      let sorted := (canonicalMembers members).insertionSort fun a b => a.1 ≤ b.1
      "\x7b" ++ ",".intercalate (sorted.map fun entry => quote entry.1 ++ ":" ++ entry.2) ++
        "\x7d"

def canonicalItems : List Json → List String
  | [] => []
  | item :: rest => canonicalString item :: canonicalItems rest

def canonicalMembers : List (String × Json) → List (String × String)
  | [] => []
  | (key, value) :: rest => (key, canonicalString value) :: canonicalMembers rest

end

/-! ## Members of an object -/

/-- The members with one written into them. -/
def insertMember (key : String) (value : Json) : List (String × Json) → List (String × Json)
  | [] => [(key, value)]
  | (k, v) :: rest =>
      if key = k then (key, value) :: rest
      else if key < k then (key, value) :: (k, v) :: rest
      else (k, v) :: insertMember key value rest

@[simp] theorem lookup_insertMember_self (key : String) (value : Json)
    (members : List (String × Json)) :
    (insertMember key value members).lookup key = some value := by
  induction members with
  | nil => simp [insertMember]
  | cons entry rest ih =>
    obtain ⟨k, v⟩ := entry
    by_cases hk : key = k
    · simp [insertMember, hk]
    · by_cases hlt : key < k
      · simp [insertMember, hk, hlt]
      · have hne : (key == k) = false := by simpa using hk
        simp [insertMember, hk, hlt, List.lookup_cons, hne, ih]

theorem lookup_insertMember_of_ne {key other : String} (hne : other ≠ key) (value : Json)
    (members : List (String × Json)) :
    (insertMember key value members).lookup other = members.lookup other := by
  have hkey : (other == key) = false := by simpa using hne
  induction members with
  | nil => simp [insertMember, List.lookup_cons, hkey]
  | cons entry rest ih =>
    obtain ⟨k, v⟩ := entry
    by_cases hk : key = k
    · subst hk
      simp [insertMember, List.lookup_cons, hkey]
    · by_cases hlt : key < k
      · simp [insertMember, hk, hlt, List.lookup_cons, hkey]
      · simp only [insertMember, hk, hlt, ↓reduceIte, List.lookup_cons, ih]

/-- Several members written one after the other. -/
def insertMembers (new members : List (String × Json)) : List (String × Json) :=
  new.foldl (fun members entry => insertMember entry.1 entry.2 members) members

/-- The members of an object changed; another value stays as it is. -/
def mapMembers (f : List (String × Json) → List (String × Json)) : Json → Json
  | obj members => obj (f members)
  | v => v

/-- The object under a key changed, and an empty one when there is none under it. -/
def updateEntry (key : String) (f : List (String × Json) → List (String × Json))
    (members : List (String × Json)) : List (String × Json) :=
  insertMember key (mapMembers f ((members.lookup key).getD (obj []))) members

/-- One text written into the object under a key. -/
def mergeStringMember (members : List (String × Json)) (field key value : String) :
    List (String × Json) :=
  updateEntry field (insertMember key (str value)) members

end Json

namespace JsonText

/-- A text of white space only; the text of a value is never blank. -/
def isBlank (blank : String → Bool) : JsonText → Bool
  | value _ => false
  | malformed text => blank text

/-- The text itself. -/
def text : JsonText → String
  | value v => v.canonicalString
  | malformed text => text

/-- The members of the object a column holds; nothing when it holds anything else. -/
def members (column : Option JsonText) : List (String × Json) :=
  ((column.bind parse).bind Json.asObject).getD []

end JsonText
