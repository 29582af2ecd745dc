import Mathlib.Data.List.Forall2
import Mathlib.Data.List.Nodup
import Mathlib.Data.List.Sort

/-!
# Lists that are checked, and lists used as maps

A check of a list checks its elements one after the other and fails at the first that
fails; whether it succeeds does not depend on the order. An association list whose keys
differ is a map, whatever the order of its entries.

## Main results

* `Checks.mapM_ok` — a list passes a check when each element does.
* `Checks.exists_mapM_of_perm` — the order does not matter.
* `Checks.lookup_map` — the value of a key in the map of some keyed elements.
* `Checks.lookup_perm` — the order of the entries does not matter.
-/

namespace Checks

universe u v

/-! ## Checks -/

section Except

variable {ε : Type u} {α β : Type v} {f : α → Except ε β}

/-- A list passes a check when each of its elements does. -/
theorem mapM_ok {l : List α} {bs : List β} :
    l.mapM f = .ok bs ↔ List.Forall₂ (fun a b => f a = .ok b) l bs := by
  induction l generalizing bs with
  | nil =>
    rw [List.mapM_nil, List.forall₂_nil_left_iff]
    constructor
    · intro h
      exact (Except.ok.inj h).symm
    · rintro rfl
      rfl
  | cons a l ih =>
    rw [List.mapM_cons, List.forall₂_cons_left_iff]
    cases hf : f a with
    | error e =>
      constructor
      · intro h
        cases h
      · rintro ⟨b, _, hb, -⟩
        cases hb
    | ok b =>
      cases hl : l.mapM f with
      | error e =>
        constructor
        · intro h
          cases h
        · rintro ⟨b', bs', -, hrest, -⟩
          rw [← ih, hl] at hrest
          cases hrest
      | ok bs' =>
        constructor
        · intro h
          obtain rfl := Except.ok.inj h
          exact ⟨b, bs', rfl, ih.1 hl, rfl⟩
        · rintro ⟨c, cs, hc, hrest, rfl⟩
          obtain rfl := Except.ok.inj hc
          rw [← ih, hl] at hrest
          obtain rfl := Except.ok.inj hrest
          rfl

/-- A check that gives each element a value gives the list its values. -/
theorem mapM_eq_map {l : List α} {g : α → β} (h : ∀ a ∈ l, f a = .ok (g a)) :
    l.mapM f = .ok (l.map g) := by
  rw [mapM_ok, List.forall₂_map_right_iff, List.forall₂_same]
  exact h

theorem exists_mapM_ok {l : List α} :
    (∃ bs, l.mapM f = .ok bs) ↔ ∀ a ∈ l, ∃ b, f a = .ok b := by
  constructor
  · rintro ⟨bs, h⟩
    have hall := mapM_ok.1 h
    clear h
    induction hall with
    | nil => simp
    | cons hb _ ih =>
      intro a ha
      rcases List.mem_cons.1 ha with rfl | ha
      · exact ⟨_, hb⟩
      · exact ih a ha
  · intro h
    induction l with
    | nil => exact ⟨[], rfl⟩
    | cons a l ih =>
      obtain ⟨b, hb⟩ := h a List.mem_cons_self
      obtain ⟨bs, hbs⟩ := ih fun x hx => h x (List.mem_cons_of_mem _ hx)
      exact ⟨b :: bs, mapM_ok.2 (List.Forall₂.cons hb (mapM_ok.1 hbs))⟩

/-- Whether a list passes does not depend on its order. -/
theorem exists_mapM_of_perm {l l' : List α} (h : l.Perm l') :
    (∃ bs, l.mapM f = .ok bs) ↔ ∃ bs, l'.mapM f = .ok bs := by
  rw [exists_mapM_ok, exists_mapM_ok]
  constructor
  · intro hall a ha
    exact hall a (h.mem_iff.2 ha)
  · intro hall a ha
    exact hall a (h.mem_iff.1 ha)

end Except

/-! ## Maps -/

section Maps

variable {α : Type u} {κ β : Type v} [BEq κ] [LawfulBEq κ]

/-- The value of a key in the map of some elements with different keys. -/
theorem lookup_map {l : List α} {key : α → κ} (hkeys : (l.map key).Nodup) (value : α → β)
    {a : α} (ha : a ∈ l) : (l.map fun x => (key x, value x)).lookup (key a) = some (value a) := by
  induction l with
  | nil => cases ha
  | cons b l ih =>
    rw [List.map_cons, List.nodup_cons] at hkeys
    rw [List.map_cons, List.lookup_cons]
    rcases List.mem_cons.1 ha with rfl | ha
    · simp
    · have hne : key a ≠ key b := by
        intro heq
        exact hkeys.1 (heq ▸ List.mem_map_of_mem ha)
      rw [beq_eq_false_iff_ne.2 hne]
      exact ih hkeys.2 ha

/-- The order of the entries of a map does not matter. -/
theorem lookup_perm {l l' : List (κ × β)} (h : l.Perm l') (hkeys : (l.map Prod.fst).Nodup)
    (k : κ) : l.lookup k = l'.lookup k := by
  have hkeys' : (l'.map Prod.fst).Nodup := (h.map Prod.fst).nodup_iff.1 hkeys
  by_cases hk : k ∈ l.map Prod.fst
  · obtain ⟨entry, hentry, rfl⟩ := List.mem_map.1 hk
    have hleft := lookup_map hkeys Prod.snd hentry
    have hright := lookup_map hkeys' Prod.snd (h.mem_iff.1 hentry)
    simp only [Prod.mk.eta, List.map_id'] at hleft hright
    rw [hleft, hright]
  · have hk' : k ∉ l'.map Prod.fst := fun hmem => hk ((h.map Prod.fst).mem_iff.2 hmem)
    rw [List.lookup_eq_none_iff.2, List.lookup_eq_none_iff.2]
    · intro entry hentry
      exact bne_iff_ne.2 fun heq => hk' (heq ▸ List.mem_map_of_mem hentry)
    · intro entry hentry
      exact bne_iff_ne.2 fun heq => hk (heq ▸ List.mem_map_of_mem hentry)

end Maps

/-! ## Sorting -/

section Sorting

variable {α : Type u} {κ : Type v} [LinearOrder κ]

/-- Sorting by keys that differ leaves nothing of the order before. -/
theorem insertionSort_perm {l l' : List α} (key : α → κ) (h : l.Perm l')
    (hkeys : (l.map key).Nodup) :
    l.insertionSort (fun a b => key a ≤ key b) =
      l'.insertionSort (fun a b => key a ≤ key b) := by
  have hperm : (l.insertionSort fun a b => key a ≤ key b).Perm
      (l'.insertionSort fun a b => key a ≤ key b) :=
    ((List.perm_insertionSort _ l).trans h).trans (List.perm_insertionSort _ l').symm
  have hinj : ∀ a ∈ l, ∀ b ∈ l, key a = key b → a = b := fun a ha b hb =>
    List.inj_on_of_nodup_map hkeys ha hb
  have hmem : ∀ a, a ∈ l.insertionSort (fun a b => key a ≤ key b) → a ∈ l := fun a =>
    (List.perm_insertionSort _ l).mem_iff.1
  refine List.Perm.eq_of_pairwise ?_ (List.pairwise_insertionSort _ l)
    (List.pairwise_insertionSort _ l') hperm
  intro a b ha hb hab hba
  exact hinj a (hmem a ha) b (hmem b (hperm.mem_iff.2 hb)) (le_antisymm hab hba)

end Sorting
end Checks
