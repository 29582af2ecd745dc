import HobitQueue.Lib.CanonicalForm

/-!
# What is inside a JSON value

A check that walks a value at every depth is stated over the values inside it: the value
itself, the items of its arrays and the values of its members, and so on down.

## Main definitions

* `Json.Part` — a value is inside a value.
* `Json.NoMember` — no object inside a value has a member of a name.

## Main results

* `Json.noMember_arr`, `Json.noMember_obj` — the walk over a value, one level at a time.
-/

namespace Json

/-- A value is inside a value: it is the value or is inside one of its items or members. -/
inductive Part (part : Json) : Json → Prop where
  | here : Part part part
  | item {item : Json} {items : List Json} (hitem : item ∈ items) (h : Part part item) :
      Part part (arr items)
  | member {entry : String × Json} {members : List (String × Json)} (hentry : entry ∈ members)
      (h : Part part entry.2) : Part part (obj members)

@[simp] theorem part_null {part : Json} : part.Part null ↔ part = null := by
  constructor
  · intro h
    cases h
    rfl
  · intro h
    rw [h]
    exact .here

@[simp] theorem part_bool {part : Json} {b : Bool} : part.Part (bool b) ↔ part = bool b := by
  constructor
  · intro h
    cases h
    rfl
  · intro h
    rw [h]
    exact .here

@[simp] theorem part_num {part : Json} {numeral : String} :
    part.Part (num numeral) ↔ part = num numeral := by
  constructor
  · intro h
    cases h
    rfl
  · intro h
    rw [h]
    exact .here

@[simp] theorem part_str {part : Json} {s : String} : part.Part (str s) ↔ part = str s := by
  constructor
  · intro h
    cases h
    rfl
  · intro h
    rw [h]
    exact .here

theorem part_arr {part : Json} {items : List Json} :
    part.Part (arr items) ↔ part = arr items ∨ ∃ item ∈ items, part.Part item := by
  constructor
  · intro h
    cases h with
    | here => exact Or.inl rfl
    | item hitem h => exact Or.inr ⟨_, hitem, h⟩
  · rintro (rfl | ⟨item, hitem, h⟩)
    · exact .here
    · exact .item hitem h

theorem part_obj {part : Json} {members : List (String × Json)} :
    part.Part (obj members) ↔ part = obj members ∨ ∃ entry ∈ members, part.Part entry.2 := by
  constructor
  · intro h
    cases h with
    | here => exact Or.inl rfl
    | member hentry h => exact Or.inr ⟨_, hentry, h⟩
  · rintro (rfl | ⟨entry, hentry, h⟩)
    · exact .here
    · exact .member hentry h

/-- No object inside a value has a member with a name of the kind. -/
def NoMember (named : String → Prop) (v : Json) : Prop :=
  ∀ members, (obj members).Part v → ∀ entry ∈ members, ¬ named entry.1

section NoMember

variable {named : String → Prop}

@[simp] theorem noMember_null : NoMember named null := by
  intro members hpart
  simp at hpart

@[simp] theorem noMember_bool {b : Bool} : NoMember named (bool b) := by
  intro members hpart
  simp at hpart

@[simp] theorem noMember_num {numeral : String} : NoMember named (num numeral) := by
  intro members hpart
  simp at hpart

@[simp] theorem noMember_str {s : String} : NoMember named (str s) := by
  intro members hpart
  simp at hpart

theorem noMember_arr {items : List Json} :
    NoMember named (arr items) ↔ ∀ item ∈ items, NoMember named item := by
  constructor
  · intro h item hitem members hpart
    exact h members (.item hitem hpart)
  · intro h members hpart
    rw [part_arr] at hpart
    obtain heq | ⟨item, hitem, hpart⟩ := hpart
    · cases heq
    · exact h item hitem members hpart

theorem noMember_obj {members : List (String × Json)} :
    NoMember named (obj members) ↔
      ∀ entry ∈ members, ¬ named entry.1 ∧ NoMember named entry.2 := by
  constructor
  · intro h entry hentry
    refine ⟨h members .here entry hentry, ?_⟩
    intro inner hpart
    exact h inner (.member hentry hpart)
  · intro h inner hpart
    rw [part_obj] at hpart
    obtain heq | ⟨entry, hentry, hpart⟩ := hpart
    · intro e he
      rw [obj.injEq] at heq
      rw [heq] at he
      exact (h e he).1
    · exact (h entry hentry).2 inner hpart

/-- A name of a narrower kind is missing too. -/
theorem NoMember.mono {narrower : String → Prop} {v : Json} (h : NoMember named v)
    (hnarrow : ∀ name, narrower name → named name) : NoMember narrower v := by
  intro members hpart entry hentry hname
  exact h members hpart entry hentry (hnarrow entry.1 hname)

end NoMember

end Json
