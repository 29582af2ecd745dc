import HobitQueue.Lib.CanonicalJson

/-!
# JSON as it is written

A document lists the members of an object in any order, and a parser that keeps
objects in ordered maps forgets it. Records with optional fields are read from such a
value by the names of their fields, or from the array of the first of them.

## Main definitions

* `Json.ofDocument` — the value a document is parsed to.
* `Json.Reordered` — documents that differ in the order of object members only.
* `Json.declared`, `Json.defaulted` — a record that denies unknown fields, and a list
  that may be left out.

## Main results

* `Json.ofDocument_eq` — reordered documents are parsed to the same value.
-/

namespace Json

/-! ## Parsing -/

mutual

/-- The value a document is parsed to: members in key order, and of members with one
key the last one written. -/
def ofDocument : Json → Json
  | null => null
  | bool b => bool b
  | num numeral => num numeral
  | str s => str s
  | arr items => arr (ofDocumentItems items)
  | obj members => obj (insertMembers (ofDocumentMembers members) [])

def ofDocumentItems : List Json → List Json
  | [] => []
  | item :: rest => ofDocument item :: ofDocumentItems rest

def ofDocumentMembers : List (String × Json) → List (String × Json)
  | [] => []
  | (key, value) :: rest => (key, ofDocument value) :: ofDocumentMembers rest

end

theorem ofDocumentItems_eq_map (items : List Json) :
    ofDocumentItems items = items.map ofDocument := by
  induction items with
  | nil => rfl
  | cons item rest ih => rw [ofDocumentItems, ih, List.map_cons]

theorem ofDocumentMembers_eq_map (members : List (String × Json)) :
    ofDocumentMembers members = members.map fun entry => (entry.1, ofDocument entry.2) := by
  induction members with
  | nil => rfl
  | cons entry rest ih => rw [ofDocumentMembers, ih, List.map_cons]

/-! ## The order of members -/

theorem insertMember_of_lt {key k : String} (h : key < k) (value v : Json)
    (rest : List (String × Json)) :
    insertMember key value ((k, v) :: rest) = (key, value) :: (k, v) :: rest := by
  rw [insertMember, if_neg h.ne, if_pos h]

theorem insertMember_of_gt {key k : String} (h : k < key) (value v : Json)
    (rest : List (String × Json)) :
    insertMember key value ((k, v) :: rest) = (k, v) :: insertMember key value rest := by
  rw [insertMember, if_neg h.ne', if_neg h.not_gt]

theorem insertMember_of_eq (key : String) (value v : Json) (rest : List (String × Json)) :
    insertMember key value ((key, v) :: rest) = (key, value) :: rest := by
  rw [insertMember, if_pos rfl]

/-- Two members in key order may be written in the other order too. -/
private theorem insertMember_comm_of_lt {k l : String} (hlt : k < l) (v w : Json)
    (members : List (String × Json)) :
    insertMember k v (insertMember l w members) =
      insertMember l w (insertMember k v members) := by
  induction members with
  | nil => rw [insertMember, insertMember_of_lt hlt, insertMember, insertMember_of_gt hlt,
      insertMember]
  | cons entry rest ih =>
    obtain ⟨h, x⟩ := entry
    rcases lt_trichotomy l h with hl | rfl | hl
    · have hk := hlt.trans hl
      rw [insertMember_of_lt hl, insertMember_of_lt hlt, insertMember_of_lt hk,
        insertMember_of_gt hlt, insertMember_of_lt hl]
    · rw [insertMember_of_eq, insertMember_of_lt hlt, insertMember_of_lt hlt,
        insertMember_of_gt hlt, insertMember_of_eq]
    · rw [insertMember_of_gt hl]
      rcases lt_trichotomy k h with hk | rfl | hk
      · rw [insertMember_of_lt hk, insertMember_of_lt hk, insertMember_of_gt hlt,
          insertMember_of_gt hl]
      · rw [insertMember_of_eq, insertMember_of_eq, insertMember_of_gt hlt]
      · rw [insertMember_of_gt hk, insertMember_of_gt hk, insertMember_of_gt hl, ih]

/-- Members with different keys may be written in either order. -/
theorem insertMember_comm {k l : String} (hne : k ≠ l) (v w : Json)
    (members : List (String × Json)) :
    insertMember k v (insertMember l w members) =
      insertMember l w (insertMember k v members) := by
  rcases lt_or_gt_of_ne hne with hlt | hlt
  · exact insertMember_comm_of_lt hlt v w members
  · exact (insertMember_comm_of_lt hlt w v members).symm

/-- Documents that differ in the order of the members of their objects only. -/
inductive Reordered : Json → Json → Prop
  | refl (v : Json) : Reordered v v
  | trans {u v w : Json} : Reordered u v → Reordered v w → Reordered u w
  | members {l l' : List (String × Json)} :
      l.Perm l' → (l.map Prod.fst).Nodup → Reordered (obj l) (obj l')
  | item {v w : Json} (before later : List Json) :
      Reordered v w → Reordered (arr (before ++ v :: later)) (arr (before ++ w :: later))
  | member {v w : Json} (before later : List (String × Json)) (key : String) :
      Reordered v w →
        Reordered (obj (before ++ (key, v) :: later)) (obj (before ++ (key, w) :: later))

/-- Two members of one object with one key are one member. -/
private theorem eq_of_key {l : List (String × Json)} (hkeys : (l.map Prod.fst).Nodup)
    {a b : String × Json} (ha : a ∈ l) (hb : b ∈ l) (h : a.1 = b.1) : a = b :=
  List.inj_on_of_nodup_map hkeys ha hb h

/-- **The order of members does not matter to a parser.** -/
theorem ofDocument_eq {v w : Json} (h : Reordered v w) : ofDocument v = ofDocument w := by
  induction h with
  | refl v => rfl
  | trans _ _ ih₁ ih₂ => exact ih₁.trans ih₂
  | @members l l' hperm hkeys =>
    simp only [ofDocument, ofDocumentMembers_eq_map, insertMembers, obj.injEq, List.foldl_map]
    refine hperm.foldl_eq' ?_ []
    intro a ha b hb members
    by_cases hab : a.1 = b.1
    · rw [eq_of_key hkeys ha hb hab]
    · exact insertMember_comm (Ne.symm hab) _ _ _
  | item before later _ ih => simp [ofDocument, ofDocumentItems_eq_map, ih]
  | member before later key _ ih => simp [ofDocument, ofDocumentMembers_eq_map, ih]

/-! ## Records -/

/-- A record of the given fields: an object without other members, or the array of the
first of its fields. -/
def declared (fields : List String) (v : Json) : Except String Json :=
  match v with
  | arr items =>
      if items.length ≤ fields.length then .ok (obj (fields.zip items))
      else .error "invalid length"
  | obj members =>
      match members.find? fun entry => !fields.contains entry.1 with
      | some entry => .error ("unknown field `" ++ entry.1 ++ "`")
      | none => .ok (obj members)
  | _ => .error "invalid type, expected a struct"

/-- A list that is empty when it is left out. -/
def defaulted {α : Type} (v : Json) (read : Json → Except String (List α)) (key : String) :
    Except String (List α) :=
  match v.field key with
  | none => .ok []
  | some x => read x

/-- A non-negative number of 32 bits. -/
def readU32 : Json → Except String Nat
  | num numeral =>
      match intOfNumeral numeral with
      | some i =>
          if 0 ≤ i ∧ i < 2 ^ 32 then .ok i.toNat else .error "invalid value, expected u32"
      | none => .error "invalid type, expected u32"
  | _ => .error "invalid type, expected u32"

end Json
