import HobitQueue.Lib.JsonDocument

/-!
# Writes into an object

A write replaces the value of one member by a value that depends on the one that was there.
Writes of different members commute, and when each of them changes nothing the second time,
a list of them changes nothing the second time either.

## Main definitions

* `Json.put` — the write of one member.
* `Json.puts` — several writes, one after the other.

## Main results

* `Json.puts_puts` — writes made again change nothing.
* `Json.insertMembers_insertMembers`, `Json.updateEntry_updateEntry` — two of them.
* `Json.filter_updateEntry` — the members under other keys stay.
-/

namespace Json

/-- A member replaced by what it becomes. -/
def put (key : String) (g : Option Json → Json) (members : List (String × Json)) :
    List (String × Json) :=
  insertMember key (g (members.lookup key)) members

/-- Several members replaced, one after the other. -/
def puts (writes : List (String × (Option Json → Json))) (members : List (String × Json)) :
    List (String × Json) :=
  writes.foldl (fun members write => put write.1 write.2 members) members

variable {key other : String} {members : List (String × Json)}

/-- A member written twice is the one written last. -/
theorem insertMember_insertMember (key : String) (v w : Json) (members : List (String × Json)) :
    insertMember key w (insertMember key v members) = insertMember key w members := by
  induction members with
  | nil => rw [insertMember, insertMember_of_eq, insertMember]
  | cons entry rest ih =>
    obtain ⟨k, x⟩ := entry
    rcases lt_trichotomy key k with hlt | rfl | hgt
    · rw [insertMember_of_lt hlt, insertMember_of_eq, insertMember_of_lt hlt]
    · rw [insertMember_of_eq, insertMember_of_eq, insertMember_of_eq]
    · rw [insertMember_of_gt hgt, insertMember_of_gt hgt, insertMember_of_gt hgt, ih]

/-- Writes of different members may be made in either order. -/
theorem put_comm (hne : key ≠ other) (g h : Option Json → Json)
    (members : List (String × Json)) :
    put key g (put other h members) = put other h (put key g members) := by
  simp only [put]
  rw [lookup_insertMember_of_ne hne, lookup_insertMember_of_ne hne.symm]
  exact insertMember_comm hne _ _ _

/-- A write that leaves the value it wrote changes nothing the second time. -/
theorem put_put {g : Option Json → Json} (hg : ∀ v, g (some (g v)) = g v)
    (members : List (String × Json)) : put key g (put key g members) = put key g members := by
  simp only [put, lookup_insertMember_self, hg]
  exact insertMember_insertMember key _ _ members

/-- A write of another member may be made after some writes as well as before. -/
theorem put_puts {writes : List (String × (Option Json → Json))}
    (hkey : key ∉ writes.map Prod.fst) (g : Option Json → Json)
    (members : List (String × Json)) :
    put key g (puts writes members) = puts writes (put key g members) := by
  induction writes generalizing members with
  | nil => rfl
  | cons write rest ih =>
    rw [List.map_cons, List.mem_cons, not_or] at hkey
    have hrest := ih hkey.2 (put write.1 write.2 members)
    have hfirst := put_comm hkey.1 g write.2 members
    calc put key g (puts (write :: rest) members)
        = puts rest (put key g (put write.1 write.2 members)) := hrest
      _ = puts rest (put write.1 write.2 (put key g members)) := by rw [hfirst]

/-- **Writes of different members change nothing the second time**, when none of them alone
does. -/
theorem puts_puts {writes : List (String × (Option Json → Json))}
    (hkeys : (writes.map Prod.fst).Nodup) (hg : ∀ write ∈ writes, ∀ v, write.2 (some (write.2 v)) =
      write.2 v) (members : List (String × Json)) :
    puts writes (puts writes members) = puts writes members := by
  induction writes generalizing members with
  | nil => rfl
  | cons write rest ih =>
    rw [List.map_cons, List.nodup_cons] at hkeys
    have hagain := ih hkeys.2 fun w hw => hg w (List.mem_cons_of_mem write hw)
    have hfirst := @put_put write.1 write.2 (hg write List.mem_cons_self) members
    calc puts (write :: rest) (puts (write :: rest) members)
        = puts rest (put write.1 write.2 (puts rest (put write.1 write.2 members))) := rfl
      _ = puts rest (puts rest (put write.1 write.2 (put write.1 write.2 members))) := by
        rw [put_puts hkeys.1]
      _ = puts rest (put write.1 write.2 members) := by rw [hfirst, hagain]

/-! ## The writes of this kind -/

theorem insertMembers_eq_puts (new members : List (String × Json)) :
    insertMembers new members =
      puts (new.map fun entry => (entry.1, fun _ => entry.2)) members := by
  rw [insertMembers, puts, List.foldl_map]
  rfl

/-- What an entry becomes when its members change. -/
def changedEntry (f : List (String × Json) → List (String × Json)) (v : Option Json) : Json :=
  mapMembers f (v.getD (obj []))

theorem updateEntry_eq_put (key : String) (f : List (String × Json) → List (String × Json))
    (members : List (String × Json)) :
    updateEntry key f members = put key (changedEntry f) members := rfl

theorem changedEntry_changedEntry {f : List (String × Json) → List (String × Json)}
    (hf : ∀ members, f (f members) = f members) (v : Option Json) :
    changedEntry f (some (changedEntry f v)) = changedEntry f v := by
  simp only [changedEntry, Option.getD_some]
  cases v.getD (obj []) with
  | obj members => exact congrArg obj (hf members)
  | null | bool | num | str | arr => rfl

/-- **Members written again are the same.** -/
theorem insertMembers_insertMembers {new : List (String × Json)}
    (hkeys : (new.map Prod.fst).Nodup) (members : List (String × Json)) :
    insertMembers new (insertMembers new members) = insertMembers new members := by
  simp only [insertMembers_eq_puts]
  refine puts_puts ?_ ?_ members
  · simpa [Function.comp_def] using hkeys
  · intro write hwrite v
    obtain ⟨entry, -, rfl⟩ := List.mem_map.1 hwrite
    rfl

/-- **An entry changed again is the same**, when its members are. -/
theorem updateEntry_updateEntry {f : List (String × Json) → List (String × Json)}
    (hf : ∀ members, f (f members) = f members) (key : String)
    (members : List (String × Json)) :
    updateEntry key f (updateEntry key f members) = updateEntry key f members := by
  simp only [updateEntry_eq_put]
  exact put_put (changedEntry_changedEntry hf) members

/-! ## The members that stay -/

theorem filter_insertMember (key : String) (value : Json) (members : List (String × Json)) :
    (insertMember key value members).filter (fun entry => entry.1 != key) =
      members.filter fun entry => entry.1 != key := by
  induction members with
  | nil => simp [insertMember]
  | cons entry rest ih =>
    obtain ⟨k, v⟩ := entry
    rcases lt_trichotomy key k with hlt | rfl | hgt
    · rw [insertMember_of_lt hlt]
      simp
    · rw [insertMember_of_eq]
      simp
    · rw [insertMember_of_gt hgt, List.filter_cons, List.filter_cons, ih]

/-- **The members under other keys stay**, in their order. -/
theorem filter_updateEntry (key : String) (f : List (String × Json) → List (String × Json))
    (members : List (String × Json)) :
    (updateEntry key f members).filter (fun entry => entry.1 != key) =
      members.filter fun entry => entry.1 != key :=
  filter_insertMember key _ members

end Json
