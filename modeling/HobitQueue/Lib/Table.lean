import Mathlib.Data.List.MinMax
import Mathlib.Data.List.Sort
import Mathlib.Data.Prod.Lex

/-!
# Tables with uniqueness constraints

A table of a relational database is a finite list of rows in which no two rows
agree on a constrained group of columns. The list order is the insertion order
and carries no meaning: every reader of a table goes through a predicate
(`find`), a sorted listing (`select`) or the maximum of a sort (`latest`).

## Main definitions

* `Row` — a row type with the values of its uniqueness constraints.
* `Table` — the rows, and the proof that no two of them clash.
* `Table.insert`, `Table.update`, `Table.delete` — the three writes.
* `Table.Related` — two tables that correspond row by row.
* `SortKey` — a total order of the rows of a table, as an `ORDER BY` states one.
* `Table.latest` — the first row of a descending selection.
-/

namespace Relational

universe u v

/-- A row type with its uniqueness constraints: the name of each constraint and
the values its columns take in the row. -/
class Row (ρ : Type u) where
  keys : ρ → List (String × List String)

/-- Two rows **clash** when they agree on the columns of some constraint. -/
def Clash {ρ : Type u} [Row ρ] (a b : ρ) : Prop :=
  ∃ k ∈ Row.keys a, k ∈ Row.keys b

instance {ρ : Type u} [Row ρ] (a b : ρ) : Decidable (Clash a b) :=
  inferInstanceAs (Decidable (∃ k ∈ Row.keys a, k ∈ Row.keys b))

theorem Clash.symm {ρ : Type u} [Row ρ] {a b : ρ} (h : Clash a b) : Clash b a := by
  obtain ⟨k, ha, hb⟩ := h
  exact ⟨k, hb, ha⟩

/-- A table: rows of which no two clash. -/
structure Table (ρ : Type u) [Row ρ] where
  rows : List ρ
  unique : rows.Pairwise fun a b => ¬ Clash a b

/-- An order of the rows of a table that leaves no ties: rows of equal rank
agree on a uniqueness constraint. -/
structure SortKey (ρ : Type u) [Row ρ] (κ : Type v) where
  rank : ρ → κ
  clash_of_rank_eq : ∀ a b, rank a = rank b → Clash a b

namespace Table

variable {ρ : Type u} [Row ρ]

instance : Membership ρ (Table ρ) where
  mem t r := r ∈ t.rows

theorem mem_def {t : Table ρ} {r : ρ} : r ∈ t ↔ r ∈ t.rows := Iff.rfl

instance [DecidableEq ρ] (r : ρ) (t : Table ρ) : Decidable (r ∈ t) :=
  inferInstanceAs (Decidable (r ∈ t.rows))

instance {P : ρ → Prop} [DecidablePred P] (t : Table ρ) : Decidable (∀ r ∈ t, P r) :=
  inferInstanceAs (Decidable (∀ r ∈ t.rows, P r))

instance {P : ρ → Prop} [DecidablePred P] (t : Table ρ) : Decidable (∃ r ∈ t, P r) :=
  inferInstanceAs (Decidable (∃ r ∈ t.rows, P r))

/-- **Rows of one table that clash are the same row.** -/
theorem eq_of_clash {t : Table ρ} {a b : ρ} (ha : a ∈ t) (hb : b ∈ t) (h : Clash a b) :
    a = b := by
  have hsame : t.rows.Pairwise fun x y => Clash x y → x = y :=
    t.unique.imp fun hxy hc => absurd hc hxy
  have hflip : t.rows.Pairwise (flip fun x y => Clash x y → x = y) :=
    t.unique.imp fun hxy hc => absurd hc.symm hxy
  exact hsame.forall_of_forall_of_flip (fun _ _ _ => rfl) hflip ha hb h

/-! ## Writes -/

/-- The table without rows. -/
def empty : Table ρ := ⟨[], List.Pairwise.nil⟩

@[simp] theorem not_mem_empty (r : ρ) : r ∉ (empty : Table ρ) := by
  simp [mem_def, empty]

/-- `INSERT`: fails when the row clashes with one that is there. -/
def insert (t : Table ρ) (r : ρ) : Option (Table ρ) :=
  if h : ∀ a ∈ t.rows, ¬ Clash a r then
    some ⟨t.rows ++ [r], by
      refine List.pairwise_append.2 ⟨t.unique, List.pairwise_singleton _ _, ?_⟩
      intro a ha b hb
      rw [List.mem_singleton] at hb
      exact hb ▸ h a ha⟩
  else none

/-- `UPDATE … WHERE p`: the rows that satisfy `p` are rewritten by `f`, which
leaves the constrained columns alone. -/
def update (t : Table ρ) (p : ρ → Bool) (f : ρ → ρ)
    (hf : ∀ a, Row.keys (f a) = Row.keys a) : Table ρ :=
  ⟨t.rows.map fun a => if p a then f a else a, by
    have hkeys : ∀ a, Row.keys (if p a then f a else a) = Row.keys a := by
      intro a
      by_cases h : p a <;> simp [h, hf]
    refine List.pairwise_map.2 (t.unique.imp ?_)
    intro a b hab hc
    obtain ⟨k, ha, hb⟩ := hc
    rw [hkeys] at ha hb
    exact hab ⟨k, ha, hb⟩⟩

/-- `DELETE … WHERE p`. -/
def delete (t : Table ρ) (p : ρ → Bool) : Table ρ :=
  ⟨t.rows.filter fun a => !p a, t.unique.filter _⟩

/-- An accepted `INSERT` adds the row at the end. -/
theorem rows_insert {t t' : Table ρ} {r : ρ} (h : t.insert r = some t') :
    t'.rows = t.rows ++ [r] := by
  unfold insert at h
  split at h
  · obtain rfl := Option.some.inj h
    rfl
  · cases h

/-- An accepted `INSERT` met no clash and adds exactly the row. -/
theorem mem_insert {t t' : Table ρ} {r : ρ} (h : t.insert r = some t') (a : ρ) :
    a ∈ t' ↔ a ∈ t ∨ a = r := by
  unfold insert at h
  split at h
  · obtain rfl := Option.some.inj h
    simp [mem_def]
  · cases h

/-- The inserted row clashes with no row that was there. -/
theorem not_clash_of_insert {t t' : Table ρ} {r a : ρ} (h : t.insert r = some t')
    (ha : a ∈ t) : ¬ Clash a r := by
  unfold insert at h
  split at h
  · rename_i hfree
    exact hfree a ha
  · cases h

/-- A row that clashes with none is inserted. -/
theorem exists_insert {t : Table ρ} {r : ρ} (h : ∀ a ∈ t, ¬ Clash a r) :
    ∃ t', t.insert r = some t' := ⟨_, dif_pos h⟩

theorem mem_update {t : Table ρ} {p : ρ → Bool} {f : ρ → ρ}
    {hf : ∀ a, Row.keys (f a) = Row.keys a} {r : ρ} :
    r ∈ t.update p f hf ↔ ∃ a ∈ t, (if p a then f a else a) = r := by
  simp [mem_def, update]

@[simp] theorem mem_delete {t : Table ρ} {p : ρ → Bool} {r : ρ} :
    r ∈ t.delete p ↔ r ∈ t ∧ p r = false := by
  simp [mem_def, delete]

/-- A `DELETE` that selects no row changes nothing. -/
theorem delete_eq_self {t : Table ρ} {p : ρ → Bool} (h : ∀ r ∈ t, p r = false) :
    t.delete p = t := by
  have hrows : t.rows.filter (fun r => !p r) = t.rows := by
    rw [List.filter_eq_self]
    intro r hr
    rw [h r hr, Bool.not_false]
  cases t
  simp only [delete, hrows]

/-- A selected row is rewritten. -/
theorem mem_update_of_pos {t : Table ρ} {p : ρ → Bool} {f : ρ → ρ}
    (hf : ∀ a, Row.keys (f a) = Row.keys a) {a : ρ} (ha : a ∈ t) (hp : p a = true) :
    f a ∈ t.update p f hf :=
  mem_update.2 ⟨a, ha, if_pos hp⟩

/-- A row that is not selected, and that no selected row is rewritten to, is there before if
and only if it is there after. -/
theorem mem_update_other {t : Table ρ} {p : ρ → Bool} {f : ρ → ρ}
    {hf : ∀ a, Row.keys (f a) = Row.keys a} {r : ρ} (hp : p r = false)
    (hother : ∀ a, p a = true → f a ≠ r) : r ∈ t.update p f hf ↔ r ∈ t := by
  rw [mem_update]
  constructor
  · rintro ⟨a, ha, hrow⟩
    by_cases hpa : p a = true
    · rw [if_pos hpa] at hrow
      exact absurd hrow (hother a hpa)
    · rw [if_neg hpa] at hrow
      exact hrow ▸ ha
  · intro hr
    exact ⟨r, hr, if_neg (by simp [hp])⟩

/-- Two selections that agree on the rows of the table update the same rows. -/
theorem update_congr {t : Table ρ} {p q : ρ → Bool} {f : ρ → ρ}
    {hf : ∀ a, Row.keys (f a) = Row.keys a} (h : ∀ r ∈ t, p r = q r) :
    t.update p f hf = t.update q f hf := by
  unfold update
  congr 1
  refine List.map_congr_left fun r hr => ?_
  rw [h r hr]

/-- A property that `f` keeps on the selected rows is kept by the `UPDATE`. -/
theorem forall_mem_update {t : Table ρ} {p : ρ → Bool} {f : ρ → ρ}
    {hf : ∀ a, Row.keys (f a) = Row.keys a} {Q : ρ → Prop} :
    (∀ r ∈ t.update p f hf, Q r) ↔ ∀ a ∈ t, Q (if p a then f a else a) := by
  constructor
  · intro h a ha
    exact h _ (mem_update.2 ⟨a, ha, rfl⟩)
  · intro h r hr
    obtain ⟨a, ha, rfl⟩ := mem_update.1 hr
    exact h a ha

/-! ## Tables row by row -/

/-- Two tables correspond row by row: every row of either has a partner in the
other, related by `Q`. -/
def Related (Q : ρ → ρ → Prop) (t t' : Table ρ) : Prop :=
  (∀ r' ∈ t', ∃ r ∈ t, Q r r') ∧ ∀ r ∈ t, ∃ r' ∈ t', Q r r'

theorem Related.refl {Q : ρ → ρ → Prop} (hQ : ∀ r, Q r r) (t : Table ρ) : Related Q t t :=
  ⟨fun r hr => ⟨r, hr, hQ r⟩, fun r hr => ⟨r, hr, hQ r⟩⟩

/-- An `UPDATE` relates the table to the next one row by row. -/
theorem related_update {Q : ρ → ρ → Prop} (hQ : ∀ r, Q r r) {t : Table ρ} {p : ρ → Bool}
    {f : ρ → ρ} {hf : ∀ a, Row.keys (f a) = Row.keys a} (hpf : ∀ r, p r = true → Q r (f r)) :
    Related Q t (t.update p f hf) := by
  have hrow : ∀ r, Q r (if p r then f r else r) := by
    intro r
    by_cases hp : p r = true
    · simpa [hp] using hpf r hp
    · simpa [hp] using hQ r
  constructor
  · intro r' hr'
    obtain ⟨r, hr, rfl⟩ := mem_update.1 hr'
    exact ⟨r, hr, hrow r⟩
  · intro r hr
    exact ⟨_, mem_update.2 ⟨r, hr, rfl⟩, hrow r⟩

/-! ## Reads -/

/-- `SELECT … WHERE p`, for a predicate that names at most one row. -/
def find (t : Table ρ) (p : ρ → Bool) : Option ρ := t.rows.find? p

theorem mem_of_find {t : Table ρ} {p : ρ → Bool} {r : ρ} (h : t.find p = some r) : r ∈ t :=
  List.mem_of_find?_eq_some h

theorem sat_of_find {t : Table ρ} {p : ρ → Bool} {r : ρ} (h : t.find p = some r) :
    p r = true :=
  List.find?_some h

theorem find_eq_none {t : Table ρ} {p : ρ → Bool} :
    t.find p = none ↔ ∀ a ∈ t, p a = false := by
  simp [find, mem_def]

/-- A lookup by a constrained group of columns finds the only row there is. -/
theorem find_eq_some {t : Table ρ} {p : ρ → Bool} {r : ρ}
    (hp : ∀ a b, p a = true → p b = true → Clash a b) :
    t.find p = some r ↔ r ∈ t ∧ p r = true := by
  constructor
  · intro h
    exact ⟨mem_of_find h, sat_of_find h⟩
  · rintro ⟨hr, hpr⟩
    cases hfind : t.find p with
    | none => simp [find_eq_none.1 hfind r hr] at hpr
    | some a =>
      have := eq_of_clash (mem_of_find hfind) hr (hp a r (sat_of_find hfind) hpr)
      rw [this]

/-- An `UPDATE` that moves no row within the selection rewrites the row that is found. -/
theorem find_update {t : Table ρ} {p q : ρ → Bool} {f : ρ → ρ}
    {hf : ∀ a, Row.keys (f a) = Row.keys a} (hp : ∀ a, p (f a) = p a) :
    (t.update q f hf).find p = (t.find p).map fun a => if q a then f a else a := by
  have hrow : ∀ a, p (if q a then f a else a) = p a := by
    intro a
    by_cases hq : q a <;> simp [hq, hp]
  rw [find, update, find, List.find?_map]
  exact congrArg _ (congrArg (t.rows.find? ·) (funext hrow))

/-- An inserted row is found after the rows that were there. -/
theorem find_insert {t t' : Table ρ} {p : ρ → Bool} {r : ρ} (h : t.insert r = some t') :
    t'.find p = (t.find p).or (if p r then some r else none) := by
  unfold insert at h
  split at h
  · obtain rfl := Option.some.inj h
    rw [find, find, List.find?_append, List.find?_singleton]
  · cases h

variable {κ : Type v} [LinearOrder κ]

/-- `SELECT … WHERE p ORDER BY … DESC LIMIT 1`. -/
def latest (t : Table ρ) (p : ρ → Bool) (o : SortKey ρ κ) : Option ρ :=
  (t.rows.filter p).argmax o.rank

theorem latest_eq_none {t : Table ρ} {p : ρ → Bool} {o : SortKey ρ κ} :
    t.latest p o = none ↔ ∀ a ∈ t, p a = false := by
  simp [latest, List.argmax_eq_none, mem_def]

/-- **The latest row is the selected row that no selected row outranks.** -/
theorem latest_eq_some {t : Table ρ} {p : ρ → Bool} {o : SortKey ρ κ} {r : ρ} :
    t.latest p o = some r ↔
      r ∈ t ∧ p r = true ∧ ∀ a ∈ t, p a = true → o.rank a ≤ o.rank r := by
  have hmax : ∀ m, t.latest p o = some m →
      m ∈ t ∧ p m = true ∧ ∀ a ∈ t, p a = true → o.rank a ≤ o.rank m := by
    intro m hm
    have hmem := List.mem_filter.1 (List.argmax_mem hm)
    refine ⟨hmem.1, hmem.2, ?_⟩
    intro a ha hpa
    exact List.le_of_mem_argmax (List.mem_filter.2 ⟨ha, hpa⟩) hm
  constructor
  · exact hmax r
  · rintro ⟨hr, hpr, htop⟩
    cases hl : t.latest p o with
    | none => simp [latest_eq_none.1 hl r hr] at hpr
    | some m =>
      obtain ⟨hm, hpm, hmtop⟩ := hmax m hl
      have hrank := le_antisymm (htop m hm hpm) (hmtop r hr hpr)
      rw [eq_of_clash hm hr (o.clash_of_rank_eq m r hrank)]

/-- A table with a selected row has a latest one. -/
theorem exists_latest {t : Table ρ} {p : ρ → Bool} (o : SortKey ρ κ) {r : ρ} (hr : r ∈ t)
    (hp : p r = true) : ∃ m, t.latest p o = some m := by
  cases hl : t.latest p o with
  | none => simp [latest_eq_none.1 hl r hr] at hp
  | some m => exact ⟨m, rfl⟩

/-- The latest row depends on the selected rows only. -/
theorem latest_congr {t t' : Table ρ} {p : ρ → Bool} {o : SortKey ρ κ}
    (h : ∀ a, p a = true → (a ∈ t ↔ a ∈ t')) : t.latest p o = t'.latest p o := by
  cases hl : t'.latest p o with
  | none =>
    rw [latest_eq_none] at hl ⊢
    intro a ha
    by_contra hp
    have hpa : p a = true := by simpa using hp
    rw [hl a ((h a hpa).1 ha)] at hpa
    cases hpa
  | some r =>
    rw [latest_eq_some] at hl ⊢
    obtain ⟨hr, hpr, htop⟩ := hl
    exact ⟨(h r hpr).2 hr, hpr, fun a ha hpa => htop a ((h a hpa).1 ha) hpa⟩

/-- An `UPDATE` that moves no row within the selection rewrites the latest row. -/
theorem latest_update {t : Table ρ} {p q : ρ → Bool} {o : SortKey ρ κ} {f : ρ → ρ}
    {hf : ∀ a, Row.keys (f a) = Row.keys a} (hp : ∀ a, p (f a) = p a)
    (hrank : ∀ a, o.rank (f a) = o.rank a) :
    (t.update q f hf).latest p o = (t.latest p o).map fun a => if q a then f a else a := by
  have hrow : ∀ a, p (if q a then f a else a) = p a := by
    intro a
    by_cases hq : q a <;> simp [hq, hp]
  have hrow' : ∀ a, o.rank (if q a then f a else a) = o.rank a := by
    intro a
    by_cases hq : q a <;> simp [hq, hrank]
  cases hl : t.latest p o with
  | none =>
    rw [latest_eq_none] at hl
    rw [Option.map_none, latest_eq_none, forall_mem_update]
    intro a ha
    rw [hrow, hl a ha]
  | some r =>
    obtain ⟨hr, hpr, htop⟩ := latest_eq_some.1 hl
    rw [Option.map_some, latest_eq_some, forall_mem_update]
    refine ⟨mem_update.2 ⟨r, hr, rfl⟩, (hrow r).trans hpr, ?_⟩
    intro a ha hpa
    rw [hrow] at hpa
    rw [hrow', hrow']
    exact htop a ha hpa

/-- What a rewriting leaves alone in a row, it leaves alone in the latest row. -/
theorem map_latest_update {β : Type*} {t : Table ρ} {p q : ρ → Bool} {o : SortKey ρ κ}
    {f : ρ → ρ} {g : ρ → β} (hf : ∀ a, Row.keys (f a) = Row.keys a) (hp : ∀ a, p (f a) = p a)
    (hrank : ∀ a, o.rank (f a) = o.rank a) (hg : ∀ a, g (f a) = g a) :
    ((t.update q f hf).latest p o).map g = (t.latest p o).map g := by
  rw [latest_update hp hrank, Option.map_map]
  refine congrArg (Option.map · _) ?_
  funext a
  simp only [Function.comp_apply]
  split
  · exact hg a
  · rfl

/-- An inserted row that outranks the selected rows is the latest one. -/
theorem latest_insert_top {t t' : Table ρ} {p : ρ → Bool} {o : SortKey ρ κ} {r : ρ}
    (h : t.insert r = some t') (hp : p r = true)
    (htop : ∀ a ∈ t, p a = true → o.rank a ≤ o.rank r) : t'.latest p o = some r := by
  rw [latest_eq_some]
  refine ⟨(mem_insert h r).2 (Or.inr rfl), hp, ?_⟩
  intro a ha hpa
  rcases (mem_insert h a).1 ha with ha | rfl
  · exact htop a ha hpa
  · exact le_refl _

/-- An inserted row that is not selected does not change the latest one. -/
theorem latest_insert_other {t t' : Table ρ} {p : ρ → Bool} {o : SortKey ρ κ} {r : ρ}
    (h : t.insert r = some t') (hp : p r = false) : t'.latest p o = t.latest p o := by
  refine latest_congr fun a ha => ?_
  rw [mem_insert h]
  constructor
  · rintro (ha' | rfl)
    · exact ha'
    · rw [hp] at ha
      cases ha
  · exact Or.inl

/-- A `DELETE` of rows that are not selected does not change the latest one. -/
theorem latest_delete_other {t : Table ρ} {p d : ρ → Bool} {o : SortKey ρ κ}
    (h : ∀ a, p a = true → d a = false) : (t.delete d).latest p o = t.latest p o := by
  refine latest_congr fun a ha => ?_
  rw [mem_delete]
  exact ⟨fun hd => hd.1, fun ht => ⟨ht, h a ha⟩⟩

/-- `SELECT … WHERE p ORDER BY …`, descending. -/
def select (t : Table ρ) (p : ρ → Bool) (o : SortKey ρ κ) : List ρ :=
  (t.rows.filter p).insertionSort fun a b => o.rank b ≤ o.rank a

@[simp] theorem mem_select {t : Table ρ} {p : ρ → Bool} {o : SortKey ρ κ} {r : ρ} :
    r ∈ t.select p o ↔ r ∈ t ∧ p r = true := by
  unfold select
  rw [(List.perm_insertionSort _ _).mem_iff, List.mem_filter]
  rfl

/-- A selection shows each value of a key once. -/
theorem nodup_map_select {β : Type*} {t : Table ρ} {p : ρ → Bool} {o : SortKey ρ κ} {f : ρ → β}
    (hf : ∀ a b, f a = f b → Clash a b) : ((t.select p o).map f).Nodup := by
  have hrows : ((t.rows.filter p).map f).Nodup := by
    rw [List.Nodup, List.pairwise_map]
    exact (t.unique.filter _).imp fun hab heq => hab (hf _ _ heq)
  exact ((List.perm_insertionSort _ _).map f).nodup_iff.2 hrows

end Table
end Relational
