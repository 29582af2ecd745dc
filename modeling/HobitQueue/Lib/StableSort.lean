import HobitQueue.Lib.Comparators

/-!
# What a stable sort answers with

A stable sort of a list without repetitions is the one arrangement of it in which what comes
first by the comparison stands first, and what the comparison does not tell apart stands as it
stood before. So an arrangement is the sorted one as soon as its pairs are.

## Main definitions

* `precedes` — one value stands before another after a stable sort of a list.
* `refill` — a list with the values of a kind replaced, place by place.
* `moved` — a list with one value taken from its place and put at another.
* `thenBy` — a second comparison where the first does not say.

## Main results

* `sort_eq_iff` — the arrangements that a sort answers with.
* `filter_sort` — sorting the values of a kind is taking them from the sorted list.
* `pairwise_passes_iff` — a sorted list stays sorted when a value only passes its equals.
* `sort_eq_refill_iff` — when sorting by new places answers with the list that was asked for.
-/

namespace Comparator

variable {α : Type*} {compare : α → α → ℤ}

/-! ## Pairs of a list -/

/-- Two values of a list stand in one order or in the other. -/
theorem pair_sublist_or {l : List α} {x y : α} (hx : x ∈ l) (hy : y ∈ l) (hne : x ≠ y) :
    [x, y].Sublist l ∨ [y, x].Sublist l := by
  induction l with
  | nil => simp at hx
  | cons a l ih =>
    by_cases hax : x = a
    · subst hax
      have hyl : y ∈ l := List.mem_of_ne_of_mem hne.symm hy
      exact Or.inl (List.Sublist.cons_cons x (List.singleton_sublist.2 hyl))
    by_cases hay : y = a
    · subst hay
      have hxl : x ∈ l := List.mem_of_ne_of_mem hne hx
      exact Or.inr (List.Sublist.cons_cons y (List.singleton_sublist.2 hxl))
    · have hxl : x ∈ l := List.mem_of_ne_of_mem hax hx
      have hyl : y ∈ l := List.mem_of_ne_of_mem hay hy
      exact (ih hxl hyl).imp (List.Sublist.cons a) (List.Sublist.cons a)

/-- In a list without repetitions they stand in one order only. -/
theorem not_pair_sublist {l : List α} {x y : α} (hnodup : l.Nodup) (h : [x, y].Sublist l) :
    ¬ [y, x].Sublist l := by
  induction l with
  | nil => simp at h
  | cons a l ih =>
    rw [List.nodup_cons] at hnodup
    intro hback
    cases h with
    | cons _ h =>
      cases hback with
      | cons _ hback => exact ih hnodup.2 h hback
      | cons_cons _ hback =>
        have hmem : y ∈ l := h.subset (by simp)
        exact hnodup.1 hmem
    | cons_cons _ h =>
      cases hback with
      | cons _ hback =>
        have hmem : x ∈ l := hback.subset (by simp)
        exact hnodup.1 hmem
      | cons_cons _ hback =>
        have hmem : x ∈ l := h.subset (by simp)
        exact hnodup.1 hmem

/-! ## The sorted list -/

/-- One value stands before another after a stable sort of a list. -/
def precedes (compare : α → α → ℤ) (l : List α) (a b : α) : Prop :=
  compare a b < 0 ∨ (compare a b = 0 ∧ [a, b].Sublist l)

theorem precedes.le {l : List α} {a b : α} (h : precedes compare l a b) : compare a b ≤ 0 := by
  obtain h | ⟨h, -⟩ := h
  · exact h.le
  · exact h.le

theorem nodup_sort {l : List α} (hnodup : l.Nodup) : (sort compare l).Nodup :=
  (sort_perm compare l).nodup_iff.2 hnodup

theorem pairwise_precedes_sort (h : Consistent compare) {l : List α} (hnodup : l.Nodup) :
    (sort compare l).Pairwise (precedes compare l) := by
  rw [List.pairwise_iff_forall_sublist]
  intro a b hab
  have hle := List.pairwise_iff_forall_sublist.1 (pairwise_sort h l) hab
  by_cases hlt : compare a b < 0
  · exact Or.inl hlt
  have hzero : compare a b = 0 := by omega
  have hne : a ≠ b := by
    have hpair := hab.nodup (nodup_sort hnodup)
    simpa using hpair
  have ha : a ∈ l := mem_sort.1 (hab.subset (by simp))
  have hb : b ∈ l := mem_sort.1 (hab.subset (by simp))
  obtain hl | hl := pair_sublist_or ha hb hne
  · exact Or.inr ⟨hzero, hl⟩
  · have hback : notAfter compare b a = true := notAfter_iff.2 ((h.eq_zero_iff a b).1 hzero).le
    have hsort := List.pair_sublist_mergeSort h.trans_notAfter h.total_notAfter hback hl
    exact absurd hsort (not_pair_sublist (nodup_sort hnodup) hab)

theorem precedes_antisymm (h : Consistent compare) {l : List α} (hnodup : l.Nodup) {a b : α}
    (hab : precedes compare l a b) (hba : precedes compare l b a) : a = b := by
  have hswap := h.swap a b
  have hback := h.swap b a
  obtain hab | ⟨hab, hl⟩ := hab
  · have hle := hba.le
    omega
  · obtain hba | ⟨hba, hl'⟩ := hba
    · omega
    · exact absurd hl' (not_pair_sublist hnodup hl)

/-- **The arrangements that a sort answers with.** -/
theorem sort_eq_iff (h : Consistent compare) {l e : List α} (hnodup : l.Nodup) :
    sort compare l = e ↔ e.Perm l ∧ e.Pairwise (precedes compare l) := by
  constructor
  · rintro rfl
    exact ⟨sort_perm compare l, pairwise_precedes_sort h hnodup⟩
  · rintro ⟨hperm, hpairwise⟩
    refine List.Perm.eq_of_pairwise ?_ (pairwise_precedes_sort h hnodup) hpairwise
      ((sort_perm compare l).trans hperm.symm)
    intro a b _ _ hab hba
    exact precedes_antisymm h hnodup hab hba

/-- Sorting the values of a kind is taking them from the sorted list. -/
theorem filter_sort (h : Consistent compare) {l : List α} (hnodup : l.Nodup) (p : α → Bool) :
    (sort compare l).filter p = sort compare (l.filter p) := by
  have hkind : (l.filter p).Nodup := hnodup.filter p
  symm
  rw [sort_eq_iff h hkind]
  refine ⟨(sort_perm compare l).filter p, ?_⟩
  rw [List.pairwise_iff_forall_sublist]
  intro a b hab
  have hsort := List.pairwise_iff_forall_sublist.1 (pairwise_precedes_sort h hnodup)
    (hab.trans List.filter_sublist)
  obtain hlt | ⟨hzero, hl⟩ := hsort
  · exact Or.inl hlt
  · have ha : p a = true := (List.mem_filter.1 (hab.subset (by simp : a ∈ [a, b]))).2
    have hb : p b = true := (List.mem_filter.1 (hab.subset (by simp : b ∈ [a, b]))).2
    have hpair := hl.filter p
    rw [List.filter_cons_of_pos ha, List.filter_cons_of_pos hb, List.filter_nil] at hpair
    exact Or.inr ⟨hzero, hpair⟩

theorem sort_eq_self {l : List α} (h : l.Pairwise fun a b => compare a b ≤ 0) :
    sort compare l = l :=
  List.mergeSort_of_pairwise (h.imp notAfter_iff.2)

theorem sort_eq_self_iff (h : Consistent compare) {l : List α} :
    sort compare l = l ↔ l.Pairwise fun a b => compare a b ≤ 0 := by
  constructor
  · intro hsort
    rw [← hsort]
    exact pairwise_sort h l
  · exact sort_eq_self

theorem sort_sort (h : Consistent compare) (l : List α) :
    sort compare (sort compare l) = sort compare l :=
  sort_eq_self (pairwise_sort h l)

/-- Sorting images is sorting by what the comparison says of the images. -/
theorem sort_map {β : Type*} (f : β → α) (l : List β) :
    sort compare (l.map f) = (sort (fun a b => compare (f a) (f b)) l).map f := by
  rw [sort, sort, List.map_mergeSort]
  intro a _ b _
  rfl

/-! ## A comparison in two steps -/

/-- A second comparison where the first does not say. -/
def thenBy (level rank : α → α → ℤ) (a b : α) : ℤ :=
  if level a b = 0 then rank a b else level a b

section ThenBy

variable {level rank rank' : α → α → ℤ}

theorem Consistent.thenBy (hlevel : Consistent level) (hrank : Consistent rank) :
    Consistent (thenBy level rank) := hlevel.lex hrank

theorem level_le_of_thenBy {a b : α} (h : thenBy level rank a b ≤ 0) : level a b ≤ 0 := by
  unfold thenBy at h
  split_ifs at h with hzero
  · exact hzero.le
  · exact h

theorem thenBy_le_iff {a b : α} :
    thenBy level rank a b ≤ 0 ↔ level a b ≤ 0 ∧ (level a b = 0 → rank a b ≤ 0) := by
  unfold thenBy
  split_ifs with hzero
  · simp [hzero]
  · simp [hzero]

theorem precedes_thenBy_iff {l : List α} {a b : α} :
    precedes (thenBy level rank) l a b ↔
      level a b ≤ 0 ∧ (level a b = 0 → precedes rank l a b) := by
  unfold precedes thenBy
  split_ifs with hzero
  · simp [hzero]
  · simp only [hzero, false_and, or_false, false_imp_iff, and_true]
    omega

/-- A list in order stays in order under another second comparison exactly when that one agrees
where the first does not say. -/
theorem pairwise_thenBy_iff {l : List α} (h : l.Pairwise fun a b => level a b ≤ 0) :
    (l.Pairwise fun a b => thenBy level rank a b ≤ 0) ↔
      l.Pairwise fun a b => level a b = 0 → rank a b ≤ 0 := by
  constructor
  · intro hthen
    exact hthen.imp fun hab => (thenBy_le_iff.1 hab).2
  · intro hrank
    exact (h.and hrank).imp fun hab => thenBy_le_iff.2 hab

end ThenBy

/-! ## Values of a kind, place by place -/

/-- A list with the values of a kind replaced, in their places, by those of another list. -/
def refill (kind : α → Bool) : List α → List α → List α
  | [], _ => []
  | a :: l, [] => a :: l
  | a :: l, b :: others =>
    if kind a then b :: refill kind l others else a :: refill kind l (b :: others)

/-- The values of a list are as many as those of the kind in another, and are of the kind. -/
structure Fills (kind : α → Bool) (l others : List α) : Prop where
  length_eq : (l.filter kind).length = others.length
  kinds : ∀ b ∈ others, kind b = true

section Refill

variable {kind : α → Bool} {l others : List α}

theorem Fills.of_cons {a b : α} (h : Fills kind (a :: l) (b :: others)) (ha : kind a = true) :
    Fills kind l others := by
  have hlength := h.length_eq
  rw [List.filter_cons_of_pos ha, List.length_cons, List.length_cons] at hlength
  exact ⟨by omega, fun c hc => h.kinds c (List.mem_cons_of_mem b hc)⟩

theorem Fills.of_other {a : α} (h : Fills kind (a :: l) others) (ha : kind a = false) :
    Fills kind l others := by
  have hlength := h.length_eq
  rw [List.filter_cons_of_neg (by simp [ha])] at hlength
  exact ⟨hlength, h.kinds⟩

theorem refill_cons_kind {a b : α} (ha : kind a = true) :
    refill kind (a :: l) (b :: others) = b :: refill kind l others := if_pos ha

theorem refill_cons_other {a : α} (ha : kind a = false) :
    refill kind (a :: l) others = a :: refill kind l others := by
  cases others with
  | nil => cases l <;> rfl
  | cons b others => exact if_neg (by simp [ha])

/-- A list refilled with its own values is as it was. -/
theorem refill_self (kind : α → Bool) (l : List α) : refill kind l (l.filter kind) = l := by
  induction l with
  | nil => rfl
  | cons a l ih =>
    cases ha : kind a with
    | true => rw [List.filter_cons_of_pos ha, refill_cons_kind ha, ih]
    | false => rw [List.filter_cons_of_neg (by simp [ha]), refill_cons_other ha, ih]

/-- The head of a list is of another kind, or there is a value for its place. -/
theorem Fills.head {a : α} (h : Fills kind (a :: l) others) :
    kind a = false ∨ (kind a = true ∧ ∃ b rest, others = b :: rest) := by
  cases ha : kind a with
  | false => exact Or.inl rfl
  | true =>
    refine Or.inr ⟨rfl, ?_⟩
    cases others with
    | nil =>
      have hlength := h.length_eq
      rw [List.filter_cons_of_pos ha] at hlength
      simp at hlength
    | cons b rest => exact ⟨b, rest, rfl⟩

/-- The values of the kind are the new ones, in their order. -/
theorem filter_refill (h : Fills kind l others) : (refill kind l others).filter kind = others := by
  induction l generalizing others with
  | nil =>
    have hnone : others = [] := List.eq_nil_of_length_eq_zero h.length_eq.symm
    rw [hnone]
    rfl
  | cons a l ih =>
    obtain ha | ⟨ha, b, rest, rfl⟩ := h.head
    · rw [refill_cons_other ha, List.filter_cons_of_neg (by simp [ha]), ih (h.of_other ha)]
    · have hb : kind b = true := h.kinds b List.mem_cons_self
      rw [refill_cons_kind ha, List.filter_cons_of_pos hb, ih (h.of_cons ha)]

/-- The other values stay, in their order. -/
theorem filter_not_refill (h : Fills kind l others) :
    (refill kind l others).filter (!kind ·) = l.filter (!kind ·) := by
  induction l generalizing others with
  | nil => cases others <;> rfl
  | cons a l ih =>
    obtain ha | ⟨ha, b, rest, rfl⟩ := h.head
    · rw [refill_cons_other ha, List.filter_cons_of_pos (by simp [ha]),
        List.filter_cons_of_pos (by simp [ha]), ih (h.of_other ha)]
    · have hb : kind b = true := h.kinds b List.mem_cons_self
      rw [refill_cons_kind ha, List.filter_cons_of_neg (by simp [hb]),
        List.filter_cons_of_neg (by simp [ha]), ih (h.of_cons ha)]

/-- The values of the kind, rearranged, fill their places. -/
theorem fills_of_perm (hperm : others.Perm (l.filter kind)) : Fills kind l others :=
  ⟨hperm.length_eq.symm, fun _ hb => (List.mem_filter.1 (hperm.subset hb)).2⟩

theorem refill_perm (hperm : others.Perm (l.filter kind)) : (refill kind l others).Perm l := by
  have h := fills_of_perm hperm
  have hnew := List.filter_append_perm kind (refill kind l others)
  have hold := List.filter_append_perm kind l
  rw [filter_refill h, filter_not_refill h] at hnew
  exact hnew.symm.trans ((hperm.append_right _).trans hold)

/-- A relation that holds of the values of the kind and the new ones, place by place, holds of
the whole lists. -/
theorem forall₂_refill {R : α → α → Prop} (hself : ∀ a, R a a)
    (h : List.Forall₂ R (l.filter kind) others) (hkinds : ∀ b ∈ others, kind b = true) :
    List.Forall₂ R l (refill kind l others) := by
  induction l generalizing others with
  | nil => cases others <;> exact List.Forall₂.nil
  | cons a l ih =>
    by_cases ha : kind a = true
    · rw [List.filter_cons_of_pos ha] at h
      cases h with
      | cons hab hrest =>
        rw [refill_cons_kind ha]
        exact List.Forall₂.cons hab (ih hrest fun c hc => hkinds c (List.mem_cons_of_mem _ hc))
    · rw [List.filter_cons_of_neg ha] at h
      rw [refill_cons_other (by simpa using ha)]
      exact List.Forall₂.cons (hself a) (ih h hkinds)

end Refill

/-! ## One value moved -/

/-- A list with the value at one place taken out and put at another. -/
def moved (l : List α) (current next : ℕ) : List α :=
  (l.eraseIdx current).take next ++ l[current]?.toList ++ (l.eraseIdx current).drop next

/-- One value passes some others, towards the start of a list or towards its end. -/
inductive Passes (a : α) (others : List α) : List α → List α → Prop where
  | earlier (before after : List α) :
      Passes a others (before ++ others ++ a :: after) (before ++ a :: others ++ after)
  | later (before after : List α) :
      Passes a others (before ++ a :: others ++ after) (before ++ others ++ a :: after)

theorem moved_append {before after : List α} (a : α) (next : ℕ) :
    moved (before ++ a :: after) before.length next =
      (before ++ after).take next ++ a :: (before ++ after).drop next := by
  have herase : (before ++ a :: after).eraseIdx before.length = before ++ after := by
    rw [List.eraseIdx_append_of_length_le (Nat.le_refl _), Nat.sub_self]
    rfl
  have hget : (before ++ a :: after)[before.length]? = some a := by simp
  rw [moved, herase, hget, Option.toList_some, List.append_assoc, List.singleton_append]

/-- A value moved to the place of one before it passes those from there on. -/
theorem moved_earlier (before others after : List α) (a : α) :
    moved (before ++ others ++ a :: after) (before ++ others).length before.length =
      before ++ a :: others ++ after := by
  rw [moved_append, List.append_assoc, List.take_left, List.drop_left, List.append_assoc,
    List.cons_append]

/-- A value moved to the place of one behind it passes those up to it. -/
theorem moved_later (before others after : List α) (a : α) :
    moved (before ++ a :: others ++ after) before.length (before ++ others).length =
      before ++ others ++ a :: after := by
  have hcons : before ++ a :: others ++ after = before ++ a :: (others ++ after) := by
    rw [List.append_assoc, List.cons_append]
  rw [hcons, moved_append, ← List.append_assoc before, List.take_left, List.drop_left]

section Passes

variable {a : α} {others l e : List α}

theorem Passes.perm (h : Passes a others l e) : e.Perm l := by
  cases h with
  | earlier before after =>
    have hmiddle : (a :: others).Perm (others ++ [a]) := (List.perm_append_singleton a others).symm
    have hall := (hmiddle.append_left before).append_right after
    simpa using hall
  | later before after =>
    have hmiddle : (others ++ [a]).Perm (a :: others) := List.perm_append_singleton a others
    have hall := (hmiddle.append_left before).append_right after
    simpa using hall

/-- A value that passes nothing stays where it is. -/
theorem Passes.eq_of_nil (h : Passes a [] l e) : e = l := by
  cases h with
  | earlier before after => rw [List.append_nil, List.append_assoc, List.singleton_append]
  | later before after => rw [List.append_nil, List.append_assoc, List.singleton_append]

/-- What is passed is in the list. -/
theorem Passes.subset (h : Passes a others l e) : others ⊆ l := by
  intro x hx
  cases h with
  | earlier before after => simp [hx]
  | later before after => simp [hx]

theorem Consistent.self (h : Consistent compare) (x : α) : compare x x = 0 := by
  have hswap := h.swap x x
  omega

/-- **A sorted list stays sorted** exactly when the moved value passes only its equals. -/
theorem pairwise_passes_iff (h : Consistent compare) (hpasses : Passes a others l e)
    (hl : l.Pairwise fun x y => compare x y ≤ 0) :
    (e.Pairwise fun x y => compare x y ≤ 0) ↔ ∀ x ∈ others, compare x a = 0 := by
  have heq : ∀ x, compare x a = 0 ↔ compare x a ≤ 0 ∧ compare a x ≤ 0 := by
    intro x
    have hswap := h.swap x a
    have hback := h.swap a x
    omega
  cases hpasses with
  | earlier before after =>
    simp only [List.pairwise_append, List.pairwise_cons, List.mem_append, List.mem_cons] at hl ⊢
    constructor
    · intro he x hx
      exact (heq x).2 ⟨hl.2.2 x (Or.inr hx) a (Or.inl rfl), he.1.2.1.1 x hx⟩
    · intro hothers
      refine ⟨⟨hl.1.1, ⟨fun x hx => ((heq x).1 (hothers x hx)).2, hl.1.2.1⟩, ?_⟩, hl.2.1.2, ?_⟩
      · rintro x hx y (rfl | hy)
        · exact hl.2.2 x (Or.inl hx) y (Or.inl rfl)
        · exact hl.1.2.2 x hx y hy
      · rintro x (hx | rfl | hx) y hy
        · exact hl.2.2 x (Or.inl hx) y (Or.inr hy)
        · exact hl.2.1.1 y hy
        · exact hl.2.2 x (Or.inr hx) y (Or.inr hy)
  | later before after =>
    simp only [List.pairwise_append, List.pairwise_cons, List.mem_append, List.mem_cons] at hl ⊢
    constructor
    · intro he x hx
      exact (heq x).2 ⟨he.2.2 x (Or.inr hx) a (Or.inl rfl), hl.1.2.1.1 x hx⟩
    · intro hothers
      refine ⟨⟨hl.1.1, hl.1.2.1.2, fun x hx y hy => hl.1.2.2 x hx y (Or.inr hy)⟩,
        ⟨fun y hy => hl.2.2 a (Or.inr (Or.inl rfl)) y hy, hl.2.1⟩, ?_⟩
      rintro x (hx | hx) y (rfl | hy)
      · exact hl.1.2.2 x hx y (Or.inl rfl)
      · exact hl.2.2 x (Or.inl hx) y hy
      · exact ((heq x).1 (hothers x hx)).1
      · exact hl.2.2 x (Or.inr (Or.inr hx)) y hy

/-- At every place stands an equal of what stood there. -/
theorem compare_zip_passes (h : Consistent compare) (hpasses : Passes a others l e)
    (hothers : ∀ x ∈ others, compare x a = 0) : ∀ u ∈ l.zip e, compare u.1 u.2 = 0 := by
  have hself : ∀ (same : List α), ∀ u ∈ same.zip same, compare u.1 u.2 = 0 := by
    intro same
    induction same with
    | nil => simp
    | cons x same ih =>
      intro u hu
      obtain rfl | hu := List.mem_cons.1 hu
      · exact h.self x
      · exact ih u hu
  have hequals : ∀ x, x = a ∨ x ∈ others → ∀ y, y = a ∨ y ∈ others → compare x y = 0 := by
    have hto : ∀ x, x = a ∨ x ∈ others → compare x a = 0 := by
      rintro x (rfl | hx)
      · exact h.self x
      · exact hothers x hx
    intro x hx y hy
    have hxa := hto x hx
    have hya := hto y hy
    have hay := (h.eq_zero_iff y a).1 hya
    have hax := (h.eq_zero_iff x a).1 hxa
    have hle := h.trans hxa.le hay.le
    have hge := h.trans hya.le hax.le
    have hswap := h.swap y x
    omega
  intro u hu
  cases hpasses with
  | earlier before after =>
    have hleft : before ++ others ++ a :: after = before ++ (others ++ [a]) ++ after := by simp
    rw [hleft, List.zip_append (by simp), List.zip_append rfl, List.mem_append,
      List.mem_append] at hu
    obtain (hu | hu) | hu := hu
    · exact hself before u hu
    · obtain ⟨hfirst, hsecond⟩ := List.of_mem_zip hu
      refine hequals u.1 ?_ u.2 (List.mem_cons.1 hsecond)
      simpa [or_comm] using hfirst
    · exact hself after u hu
  | later before after =>
    have hright : before ++ others ++ a :: after = before ++ (others ++ [a]) ++ after := by simp
    rw [hright, List.zip_append (by simp), List.zip_append rfl, List.mem_append,
      List.mem_append] at hu
    obtain (hu | hu) | hu := hu
    · exact hself before u hu
    · obtain ⟨hfirst, hsecond⟩ := List.of_mem_zip hu
      refine hequals u.1 (List.mem_cons.1 hfirst) u.2 ?_
      simpa [or_comm] using hsecond
    · exact hself after u hu

end Passes

/-! ## A sort after a move -/

section Move

variable {level rank rank' : α → α → ℤ} {kind : α → Bool} {l others : List α}

/-- Equals of the values of a list in order, place by place, are in order. -/
theorem pairwise_of_forall₂ (hlevel : Consistent level)
    (h : List.Forall₂ (fun a b => level a b = 0) l others)
    (hl : l.Pairwise fun a b => level a b ≤ 0) :
    others.Pairwise fun a b => level a b ≤ 0 := by
  induction h with
  | nil => exact List.Pairwise.nil
  | @cons a b l others hab hrest ih =>
    rw [List.pairwise_cons] at hl
    refine List.Pairwise.cons (fun y hy => ?_) (ih hl.2)
    obtain ⟨x, hx, hxy⟩ : ∃ x ∈ l, level x y = 0 := by
      have hflip := (List.forall₂_iff_get.1 hrest)
      obtain ⟨i, hi, rfl⟩ := List.mem_iff_getElem.1 hy
      have hi' : i < l.length := by omega
      exact ⟨l[i], List.getElem_mem hi', hflip.2 i hi' hi⟩
    have hba := (hlevel.eq_zero_iff a b).1 hab
    exact hlevel.trans hba.le (hlevel.trans (hl.1 x hx) hxy.le)

/-- **When a sort answers with a move**: one value passes some of its kind, and the second
comparison is replaced by one in which the values of the kind stand as they were put. Those that
are passed must be equals of the moved value by the first comparison, and values of different
kinds that it does not tell apart must stand in the order of the new one. -/
theorem sort_eq_refill_iff (hlevel : Consistent level) (hrank : Consistent rank)
    (hrank' : Consistent rank') (hnodup : l.Nodup) {a : α} {others e : List α}
    (hpasses : Passes a others ((sort (thenBy level rank) l).filter kind) e)
    (hsame : ∀ x y, kind x = false → kind y = false → rank' x y = rank x y)
    (hplaces : e.Pairwise fun x y => rank' x y < 0) :
    sort (thenBy level rank') l = refill kind (sort (thenBy level rank) l) e ↔
      (∀ x ∈ others, level x a = 0) ∧
        (refill kind (sort (thenBy level rank) l) e).Pairwise fun x y =>
          kind x ≠ kind y → level x y = 0 → precedes rank' l x y := by
  have hthen := hlevel.thenBy hrank
  have hthen' := hlevel.thenBy hrank'
  have hsorted := pairwise_sort hthen l
  have hlevels : (sort (thenBy level rank) l).Pairwise fun x y => level x y ≤ 0 :=
    hsorted.imp level_le_of_thenBy
  have hfills := fills_of_perm hpasses.perm
  have hperm : (refill kind (sort (thenBy level rank) l) e).Perm l :=
    (refill_perm hpasses.perm).trans (sort_perm _ l)
  have hpass := pairwise_passes_iff hlevel hpasses (hlevels.sublist List.filter_sublist)
  rw [sort_eq_iff hthen' hnodup]
  constructor
  · rintro ⟨-, hpairwise⟩
    have hpairs := hpairwise.imp fun hab => precedes_thenBy_iff.1 hab
    refine ⟨hpass.1 ?_, hpairs.imp fun hab _ hzero => hab.2 hzero⟩
    rw [← filter_refill hfills]
    exact (hpairs.sublist List.filter_sublist).imp fun hab => hab.1
  · rintro ⟨hothers, hmixed⟩
    refine ⟨hperm, ?_⟩
    have hzip : List.Forall₂ (fun x y => level x y = 0)
        ((sort (thenBy level rank) l).filter kind) e :=
      List.forall₂_iff_zip.2 ⟨hpasses.perm.length_eq.symm,
        fun {x y} hxy => compare_zip_passes hlevel hpasses hothers (x, y) hxy⟩
    have hordered := pairwise_of_forall₂ hlevel
      (forall₂_refill hlevel.self hzip hfills.kinds) hlevels
    rw [List.pairwise_iff_forall_sublist] at hordered hmixed hplaces ⊢
    intro x y hxy
    rw [precedes_thenBy_iff]
    refine ⟨hordered hxy, fun hzero => ?_⟩
    by_cases hkind : kind x = kind y
    · cases hx : kind x with
      | true =>
        -- both are of the kind: they stand as they were put
        have hpair := hxy.filter kind
        rw [filter_refill hfills, List.filter_cons_of_pos hx,
          List.filter_cons_of_pos (hkind ▸ hx), List.filter_nil] at hpair
        exact Or.inl (hplaces hpair)
      | false =>
        -- both are of another kind: they stand as before
        have hy : kind y = false := hkind ▸ hx
        have hpair := hxy.filter (!kind ·)
        rw [filter_not_refill hfills, List.filter_cons_of_pos (by simp [hx]),
          List.filter_cons_of_pos (by simp [hy]), List.filter_nil] at hpair
        have hbefore := List.pairwise_iff_forall_sublist.1 (pairwise_precedes_sort hthen hnodup)
          (hpair.trans List.filter_sublist)
        rw [precedes_thenBy_iff] at hbefore
        have hrankpair := hbefore.2 hzero
        unfold precedes at hrankpair ⊢
        rw [hsame x y hx hy]
        exact hrankpair
    · exact hmixed hxy hkind hzero

end Move

end Comparator
