import Mathlib.Computability.Language
import Mathlib.Data.String.Basic
import Mathlib.Order.CompletePartialOrder

/-!
# The syntax of JSON texts

The productions of the JSON grammar as languages over characters, under the names the grammar
gives them. Values, the members of an object and the elements of an array refer to each other,
so they are derived together; everything else is a regular language.

## Main definitions

* `JsonSyntax.ws`, `JsonSyntax.number`, `JsonSyntax.string` — the lexical productions.
* `JsonSyntax.Derives` — the texts of values, members and elements.
* `JsonSyntax.jsonText` — a value between white space.
* `JsonSyntax.Reads` — a word that starts with one of a language, and what stands behind it.

## Main results

* `JsonSyntax.mem_kstar_oneOf` — a repeated choice of characters.
* `JsonSyntax.kstar_induction` — induction over the pieces of a repetition.
-/

namespace JsonSyntax

open Computability

/-! ## Languages -/

section Languages

variable {α : Type} {l : Language α} {p : α → Prop} {w : List α}

/-- One character of a kind. -/
def oneOf (p : α → Prop) : Language α := {w | ∃ c, p c ∧ w = [c]}

def char (c : α) : Language α := ({[c]} : Set (List α))

def optional (l : Language α) : Language α := 1 + l

def oneOrMore (l : Language α) : Language α := l * l∗

theorem mem_oneOf : w ∈ oneOf p ↔ ∃ c, p c ∧ w = [c] := Iff.rfl

theorem mem_char {c : α} : w ∈ char c ↔ w = [c] := Iff.rfl

theorem mem_optional : w ∈ optional l ↔ w = [] ∨ w ∈ l := Iff.rfl

theorem append_mem_kstar {a : List α} (ha : a ∈ l) (hw : w ∈ l∗) : a ++ w ∈ l∗ := by
  obtain ⟨pieces, rfl, hpieces⟩ := Language.mem_kstar.1 hw
  exact Language.mem_kstar.2 ⟨a :: pieces, rfl, List.forall_mem_cons.2 ⟨ha, hpieces⟩⟩

/-- Induction over the pieces of a repetition. -/
theorem kstar_induction {motive : List α → Prop} (nil : motive [])
    (append : ∀ a ∈ l, ∀ w ∈ l∗, motive w → motive (a ++ w)) (h : w ∈ l∗) : motive w := by
  obtain ⟨pieces, rfl, hpieces⟩ := Language.mem_kstar.1 h
  clear h
  induction pieces with
  | nil => exact nil
  | cons a pieces ih =>
    have hrest : ∀ y ∈ pieces, y ∈ l := fun y hy => hpieces y (List.mem_cons_of_mem a hy)
    exact append a (hpieces a List.mem_cons_self) _ (Language.join_mem_kstar hrest) (ih hrest)

theorem mem_kstar_oneOf : w ∈ (oneOf p)∗ ↔ ∀ c ∈ w, p c := by
  constructor
  · refine kstar_induction (motive := fun w => ∀ c ∈ w, p c) (by simp) ?_
    rintro a ⟨c, hc, rfl⟩ w - hw
    exact List.forall_mem_cons.2 ⟨hc, hw⟩
  · intro h
    induction w with
    | nil => exact Language.nil_mem_kstar _
    | cons c w ih =>
      obtain ⟨hc, hw⟩ := List.forall_mem_cons.1 h
      exact append_mem_kstar (mem_oneOf.2 ⟨c, hc, rfl⟩) (ih hw)

/-- The word starts with one of a language, and `rest` is what stands behind it. -/
def Reads (l : Language α) (w rest : List α) : Prop := ∃ a ∈ l, w = a ++ rest

theorem Reads.mul {m : Language α} {mid rest : List α} (h : Reads l w mid)
    (h' : Reads m mid rest) : Reads (l * m) w rest := by
  obtain ⟨a, ha, rfl⟩ := h
  obtain ⟨b, hb, rfl⟩ := h'
  exact ⟨a ++ b, Language.append_mem_mul ha hb, (List.append_assoc _ _ _).symm⟩

theorem Reads.mono {m : Language α} {rest : List α} (h : Reads l w rest) (hle : l ≤ m) :
    Reads m w rest := by
  obtain ⟨a, ha, rfl⟩ := h
  exact ⟨a, hle ha, rfl⟩

theorem reads_char {c : α} {rest : List α} : Reads (char c) (c :: rest) rest := ⟨[c], rfl, rfl⟩

theorem reads_oneOf {c : α} {rest : List α} (h : p c) : Reads (oneOf p) (c :: rest) rest :=
  ⟨[c], ⟨c, h, rfl⟩, rfl⟩

theorem reads_one (w : List α) : Reads (1 : Language α) w w := ⟨[], rfl, rfl⟩

theorem reads_kstar (w : List α) : Reads l∗ w w := ⟨[], Language.nil_mem_kstar l, rfl⟩

theorem le_optional (l : Language α) : l ≤ optional l := fun _ h => .inr h

theorem reads_optional (w : List α) : Reads (optional l) w w := ⟨[], .inl rfl, rfl⟩

end Languages

/-! ## Characters and white space -/

def literal (s : String) : Language Char := ({s.toList} : Set (List Char))

def quotationMark : Char := Char.ofNat 34

def escape : Char := Char.ofNat 92

def isWs (c : Char) : Prop := c = ' ' ∨ c = '\t' ∨ c = '\n' ∨ c = '\r'

instance : DecidablePred isWs := fun _ => inferInstanceAs (Decidable (_ ∨ _))

def ws : Language Char := (oneOf isWs)∗

def beginArray : Language Char := ws * char '[' * ws

def beginObject : Language Char := ws * char (Char.ofNat 123) * ws

def endArray : Language Char := ws * char ']' * ws

def endObject : Language Char := ws * char (Char.ofNat 125) * ws

def nameSeparator : Language Char := ws * char ':' * ws

def valueSeparator : Language Char := ws * char ',' * ws

/-- A character between white space. -/
theorem mem_structural {x : Char} {w : List Char} (h : w ∈ ws * char x * ws) :
    ∃ w₁ ∈ ws, ∃ w₂ ∈ ws, w = w₁ ++ x :: w₂ := by
  obtain ⟨_, ⟨w₁, hw₁, _, rfl, rfl⟩, w₂, hw₂, rfl⟩ := h
  exact ⟨w₁, hw₁, w₂, hw₂, List.append_assoc _ _ _⟩

/-! ## Numbers -/

def isDigit (c : Char) : Prop := '0' ≤ c ∧ c ≤ '9'

instance : DecidablePred isDigit := fun _ => inferInstanceAs (Decidable (_ ∧ _))

def isDigit1to9 (c : Char) : Prop := '1' ≤ c ∧ c ≤ '9'

def digits : Language Char := oneOrMore (oneOf isDigit)

def exp : Language Char :=
  oneOf (fun c => c = 'e' ∨ c = 'E') * optional (oneOf fun c => c = '-' ∨ c = '+') * digits

def frac : Language Char := char '.' * digits

def int : Language Char := char '0' + oneOf isDigit1to9 * (oneOf isDigit)∗

def number : Language Char := optional (char '-') * int * optional frac * optional exp

/-! ## Strings -/

def isHexdig (c : Char) : Prop := isDigit c ∨ ('A' ≤ c ∧ c ≤ 'F') ∨ ('a' ≤ c ∧ c ≤ 'f')

def isUnescaped (c : Char) : Prop :=
  (0x20 ≤ c.toNat ∧ c.toNat ≤ 0x21) ∨ (0x23 ≤ c.toNat ∧ c.toNat ≤ 0x5B) ∨
    (0x5D ≤ c.toNat ∧ c.toNat ≤ 0x10FFFF)

def isShortEscape (c : Char) : Prop :=
  c ∈ [quotationMark, escape, '/', 'b', 'f', 'n', 'r', 't']

/-- Four hexadecimal digits behind their sign. -/
def unicodeEscape : Language Char := char 'u' * oneOf isHexdig ^ 4

def stringChar : Language Char :=
  oneOf isUnescaped + char escape * (oneOf isShortEscape + unicodeEscape)

def string : Language Char := char quotationMark * stringChar∗ * char quotationMark

/-! ## Values -/

inductive Nonterminal where
  | value
  | members
  | elements

open Nonterminal in
/-- The texts of a value, of the members of an object and of the elements of an array. -/
inductive Derives : Nonterminal → List Char → Prop where
  | literal {w : List Char} (h : w ∈ literal "false" + literal "null" + literal "true") :
      Derives value w
  | number {w : List Char} (h : w ∈ number) : Derives value w
  | string {w : List Char} (h : w ∈ string) : Derives value w
  | emptyObject {w : List Char} (h : w ∈ beginObject * endObject) : Derives value w
  | object {b w e : List Char} (hb : b ∈ beginObject) (hw : Derives members w)
      (he : e ∈ endObject) : Derives value (b ++ w ++ e)
  | emptyArray {w : List Char} (h : w ∈ beginArray * endArray) : Derives value w
  | array {b w e : List Char} (hb : b ∈ beginArray) (hw : Derives elements w)
      (he : e ∈ endArray) : Derives value (b ++ w ++ e)
  | lastMember {k v : List Char} (hk : k ∈ string * nameSeparator) (hv : Derives value v) :
      Derives members (k ++ v)
  | member {k v s w : List Char} (hk : k ∈ string * nameSeparator) (hv : Derives value v)
      (hs : s ∈ valueSeparator) (hw : Derives members w) : Derives members (k ++ v ++ s ++ w)
  | lastElement {v : List Char} (hv : Derives value v) : Derives elements v
  | element {v s w : List Char} (hv : Derives value v) (hs : s ∈ valueSeparator)
      (hw : Derives elements w) : Derives elements (v ++ s ++ w)

def value : Language Char := {w | Derives .value w}

def members : Language Char := {w | Derives .members w}

def elements : Language Char := {w | Derives .elements w}

/-- A value between white space. -/
def jsonText : Language Char := ws * value * ws

theorem mem_jsonText {w : List Char} (h : w ∈ jsonText) :
    ∃ w₁ ∈ ws, ∃ v ∈ value, ∃ w₂ ∈ ws, w = w₁ ++ (v ++ w₂) := by
  obtain ⟨_, ⟨w₁, hw₁, v, hv, rfl⟩, w₂, hw₂, rfl⟩ := h
  exact ⟨w₁, hw₁, v, hv, w₂, hw₂, List.append_assoc _ _ _⟩

theorem number_le_value : number ≤ value := fun _ h => .number h

theorem string_le_value : string ≤ value := fun _ h => .string h

theorem literal_le_value : literal "false" + literal "null" + literal "true" ≤ value :=
  fun _ h => .literal h

theorem emptyObject_le_value : beginObject * endObject ≤ value := fun _ h => .emptyObject h

theorem emptyArray_le_value : beginArray * endArray ≤ value := fun _ h => .emptyArray h

theorem object_le_value : beginObject * members * endObject ≤ value := by
  rintro _ ⟨_, ⟨b, hb, w, hw, rfl⟩, e, he, rfl⟩
  exact .object hb hw he

theorem array_le_value : beginArray * elements * endArray ≤ value := by
  rintro _ ⟨_, ⟨b, hb, w, hw, rfl⟩, e, he, rfl⟩
  exact .array hb hw he

theorem lastMember_le_members : string * nameSeparator * value ≤ members := by
  rintro _ ⟨k, hk, v, hv, rfl⟩
  exact .lastMember hk hv

theorem member_le_members :
    string * nameSeparator * value * valueSeparator * members ≤ members := by
  rintro _ ⟨_, ⟨_, ⟨k, hk, v, hv, rfl⟩, s, hs, rfl⟩, w, hw, rfl⟩
  exact .member hk hv hs hw

theorem value_le_elements : value ≤ elements := fun _ h => .lastElement h

theorem element_le_elements : value * valueSeparator * elements ≤ elements := by
  rintro _ ⟨_, ⟨v, hv, s, hs, rfl⟩, w, hw, rfl⟩
  exact .element hv hs hw

end JsonSyntax
