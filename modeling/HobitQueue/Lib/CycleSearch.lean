import HobitQueue.Lib.Search

/-!
# Depth-first search for a cycle

The search keeps the path it is on apart from the nodes it has left: meeting a node of the
path closes a cycle, meeting a node that was left is no news. The nodes that were left
reach no cycle, which is the invariant.

## Main definitions

* `visitForCycle` — the search from one node.
* `Cyclic` — a cycle can be reached.

## Main results

* `visitForCycle_iff` — the search finds a cycle exactly when one can be reached.
* `anyFrom_visitForCycle_iff` — searches that share the nodes that were left find a cycle
  exactly when one can be reached from one of the roots.
* `Acyclic.image` — the image of a relation without cycles under an injective map has none.
* `anyFrom_simulates` — a search over other states that finds the same finds the same in lists.
-/

namespace Search

open Relation

universe u

variable {α : Type u} [DecidableEq α]

/-- How many keys are not on the path. -/
def offPath (keys visiting : List α) : ℕ := (keys.toFinset \ visiting.toFinset).card

theorem offPath_lt {keys visiting : List α} {current : α} (hpath : current ∉ visiting)
    (hkey : current ∈ keys) : offPath keys (current :: visiting) < offPath keys visiting := by
  refine Finset.card_lt_card ((Finset.ssubset_iff_of_subset ?_).2 ⟨current, ?_, ?_⟩)
  · intro v hv
    simp only [List.toFinset_cons, Finset.mem_sdiff, Finset.mem_insert, not_or] at hv ⊢
    exact ⟨hv.1, hv.2.2⟩
  · simp [hpath, hkey]
  · simp

/-- Is a node of the path met again? `keys` are the nodes that have successors, `visiting` is
the path to the current node, `visited` the nodes that were left without success. -/
def visitForCycle (keys : List α) (succ : α → List α) (visiting : List α) (current : α)
    (visited : List α) : Bool × List α :=
  if current ∈ visiting then (true, visited)
  else if current ∈ visited then (false, visited)
  else if current ∈ keys then
    match anyFrom (fun next seen => visitForCycle keys succ (current :: visiting) next seen)
        (succ current) visited with
    | (true, seen) => (true, seen)
    | (false, seen) => (false, current :: seen)
  else (false, current :: visited)
termination_by offPath keys visiting
decreasing_by
  rename_i hpath _ hkey
  exact offPath_lt hpath hkey

/-- A cycle can be reached from the node. -/
def Cyclic (succ : α → List α) (v : α) : Prop :=
  ∃ w, ReflTransGen (Edge succ) v w ∧ TransGen (Edge succ) w w

omit [DecidableEq α] in
/-- A node reaches a cycle when it lies on one or one of its successors reaches one. -/
theorem Cyclic.cases_succ {succ : α → List α} {v : α} (h : Cyclic succ v) :
    ∃ w ∈ succ v, Cyclic succ w := by
  obtain ⟨w, hreach, hcycle⟩ := h
  rcases ReflTransGen.cases_head hreach with rfl | ⟨next, hedge, hrest⟩
  · obtain ⟨next, hedge, hback⟩ := TransGen.head'_iff.1 hcycle
    exact ⟨next, hedge, v, hback, hcycle⟩
  · exact ⟨next, hedge, w, hrest, hcycle⟩

variable {keys : List α} {succ : α → List α}

/-- The first success of a list of tests is a success of one of them. -/
private theorem exists_success {β σ : Type u} {test : β → σ → Bool × σ} {l : List β} {s t : σ}
    (h : anyFrom test l s = (true, t)) : ∃ b ∈ l, ∃ s₁, (test b s₁).1 = true := by
  induction l generalizing s with
  | nil => cases h
  | cons b l ih =>
    rcases hb : test b s with ⟨_ | _, u⟩
    · simp only [anyFrom, hb] at h
      obtain ⟨c, hc, s₁, hsuccess⟩ := ih h
      exact ⟨c, List.mem_cons_of_mem _ hc, s₁, hsuccess⟩
    · exact ⟨b, List.mem_cons_self, s, by rw [hb]⟩

/-- **A search that succeeds has reached a cycle**, when the path leads to the node. -/
theorem cyclic_of_visit {visiting : List α} {current : α} {visited : List α}
    (hpath : ∀ v ∈ visiting, TransGen (Edge succ) v current)
    (h : (visitForCycle keys succ visiting current visited).1 = true) : Cyclic succ current := by
  induction hn : offPath keys visiting using Nat.strong_induction_on
    generalizing visiting current visited with
  | _ n ih =>
    rw [visitForCycle] at h
    by_cases hmet : current ∈ visiting
    · exact ⟨current, ReflTransGen.refl, hpath current hmet⟩
    rw [if_neg hmet] at h
    by_cases hleft : current ∈ visited
    · rw [if_pos hleft] at h
      cases h
    rw [if_neg hleft] at h
    by_cases hkey : current ∈ keys
    · rw [if_pos hkey] at h
      split at h
      · rename_i seen hany
        obtain ⟨next, hnext, before, hsuccess⟩ := exists_success hany
        have hpath' : ∀ v ∈ current :: visiting, TransGen (Edge succ) v next := by
          intro v hv
          rcases List.mem_cons.1 hv with rfl | hv
          · exact TransGen.single hnext
          · exact TransGen.tail (hpath v hv) hnext
        have hlt : offPath keys (current :: visiting) < n := hn ▸ offPath_lt hmet hkey
        obtain ⟨w, hreach, hcycle⟩ := ih _ hlt hpath' hsuccess rfl
        exact ⟨w, ReflTransGen.head hnext hreach, hcycle⟩
      · cases h
    · rw [if_neg hkey] at h
      cases h

/-- What a search without success leaves behind: no node that was left reaches a cycle. -/
structure LeftClean (succ : α → List α) (visited seen : List α) : Prop where
  subset : ∀ v ∈ visited, v ∈ seen
  clean : ∀ v ∈ seen, ¬ Cyclic succ v

omit [DecidableEq α] in
/-- The list step: every element of a list searched without success was left. -/
private theorem leftClean_of_anyFrom {test : α → List α → Bool × List α}
    (hone : ∀ next visited seen, (∀ v ∈ visited, ¬ Cyclic succ v) →
      test next visited = (false, seen) → LeftClean succ visited seen ∧ next ∈ seen)
    {l visited seen : List α} (hclean : ∀ v ∈ visited, ¬ Cyclic succ v)
    (h : anyFrom test l visited = (false, seen)) :
    LeftClean succ visited seen ∧ ∀ next ∈ l, next ∈ seen := by
  induction l generalizing visited with
  | nil =>
    obtain rfl := (Prod.mk.inj h).2
    exact ⟨⟨fun _ hv => hv, hclean⟩, by simp⟩
  | cons next l ih =>
    rcases hnext : test next visited with ⟨_ | _, mid⟩
    · simp only [anyFrom, hnext] at h
      obtain ⟨hmid, hmem⟩ := hone next visited mid hclean hnext
      obtain ⟨hrest, hall⟩ := ih hmid.clean h
      refine ⟨⟨fun v hv => hrest.subset v (hmid.subset v hv), hrest.clean⟩, ?_⟩
      intro v hv
      rcases List.mem_cons.1 hv with rfl | hv
      · exact hrest.subset v hmem
      · exact hall v hv
    · simp only [anyFrom, hnext] at h
      cases h

/-- **A search that fails leaves only nodes that reach no cycle**, the node itself among
them. -/
theorem leftClean_of_visit (hkeys : ∀ v, v ∉ keys → succ v = []) {visiting : List α}
    {current : α} {visited seen : List α} (hclean : ∀ v ∈ visited, ¬ Cyclic succ v)
    (h : visitForCycle keys succ visiting current visited = (false, seen)) :
    LeftClean succ visited seen ∧ current ∈ seen := by
  induction hn : offPath keys visiting using Nat.strong_induction_on
    generalizing visiting current visited seen with
  | _ n ih =>
    rw [visitForCycle] at h
    by_cases hmet : current ∈ visiting
    · rw [if_pos hmet] at h
      cases h
    rw [if_neg hmet] at h
    by_cases hleft : current ∈ visited
    · rw [if_pos hleft] at h
      obtain rfl := (Prod.mk.inj h).2
      exact ⟨⟨fun _ hv => hv, hclean⟩, hleft⟩
    rw [if_neg hleft] at h
    by_cases hkey : current ∈ keys
    · rw [if_pos hkey] at h
      split at h
      · cases h
      · rename_i mid hany
        obtain rfl := (Prod.mk.inj h).2
        have hlt : offPath keys (current :: visiting) < n := hn ▸ offPath_lt hmet hkey
        obtain ⟨hmid, hall⟩ := leftClean_of_anyFrom
          (fun next before after hbefore hnext => ih _ hlt hbefore hnext rfl) hclean hany
        refine ⟨⟨fun v hv => List.mem_cons_of_mem _ (hmid.subset v hv), ?_⟩, List.mem_cons_self⟩
        intro v hv
        rcases List.mem_cons.1 hv with rfl | hv
        · intro hcyclic
          obtain ⟨next, hnext, hcycle⟩ := hcyclic.cases_succ
          exact hmid.clean next (hall next hnext) hcycle
        · exact hmid.clean v hv
    · rw [if_neg hkey] at h
      obtain rfl := (Prod.mk.inj h).2
      refine ⟨⟨fun v hv => List.mem_cons_of_mem _ hv, ?_⟩, List.mem_cons_self⟩
      intro v hv
      rcases List.mem_cons.1 hv with rfl | hv
      · intro hcyclic
        obtain ⟨next, hnext, -⟩ := hcyclic.cases_succ
        rw [hkeys v hkey] at hnext
        cases hnext
      · exact hclean v hv

/-- **The search is exact**: from a fresh start it succeeds if and only if a cycle can be
reached. -/
theorem visitForCycle_iff (hkeys : ∀ v, v ∉ keys → succ v = []) {current : α} :
    (visitForCycle keys succ [] current []).1 = true ↔ Cyclic succ current := by
  constructor
  · exact cyclic_of_visit (by simp)
  · intro hcyclic
    rcases hvisit : visitForCycle keys succ [] current [] with ⟨_ | _, seen⟩
    · obtain ⟨hclean, hmem⟩ := leftClean_of_visit hkeys (by simp) hvisit
      exact absurd hcyclic (hclean.clean current hmem)
    · rfl

/-- **Searches from several roots that share the nodes that were left** find a cycle exactly
when one can be reached from one of the roots. -/
theorem anyFrom_visitForCycle_iff (hkeys : ∀ v, v ∉ keys → succ v = []) {roots : List α} :
    (anyFrom (visitForCycle keys succ []) roots []).1 = true ↔
      ∃ root ∈ roots, Cyclic succ root := by
  constructor
  · intro h
    have hany : anyFrom (visitForCycle keys succ []) roots [] =
        (true, (anyFrom (visitForCycle keys succ []) roots []).2) := Prod.ext h rfl
    obtain ⟨root, hroot, visited, hsuccess⟩ := exists_success hany
    exact ⟨root, hroot, cyclic_of_visit (by simp) hsuccess⟩
  · rintro ⟨root, hroot, hcyclic⟩
    rcases hany : anyFrom (visitForCycle keys succ []) roots [] with ⟨_ | _, seen⟩
    · obtain ⟨hclean, hall⟩ := leftClean_of_anyFrom
        (fun next before after hbefore hnext => leftClean_of_visit hkeys hbefore hnext)
        (by simp) hany
      exact absurd hcyclic (hclean.clean root (hall root hroot))
    · rfl

omit [DecidableEq α] in
/-- No root reaches a cycle when and only when there is none, if every node with a successor
is a root. -/
theorem acyclic_iff_roots {roots : List α} (hroots : ∀ v, v ∉ roots → succ v = []) :
    (∀ root ∈ roots, ¬ Cyclic succ root) ↔ Acyclic (Edge succ) := by
  constructor
  · intro h v hcycle
    by_cases hv : v ∈ roots
    · exact h v hv ⟨v, ReflTransGen.refl, hcycle⟩
    · obtain ⟨next, hedge, -⟩ := TransGen.head'_iff.1 hcycle
      rw [Edge, hroots v hv] at hedge
      cases hedge
  · rintro h root - ⟨v, -, hcycle⟩
    exact h v hcycle

omit [DecidableEq α] in
/-- The image of a relation without cycles has none, when the map is injective on the
sources of its edges. -/
theorem Acyclic.image {β : Type u} {E : α → α → Prop} {E' : β → β → Prop} {f : α → β}
    (h : Acyclic E) (nodes : α → Prop)
    (hinj : ∀ a, nodes a → ∀ b, nodes b → f a = f b → a = b)
    (hedge : ∀ v w, E' v w → ∃ a b, nodes a ∧ nodes b ∧ v = f a ∧ w = f b ∧ E a b) :
    Acyclic E' := by
  have hpath : ∀ {v w}, TransGen E' v w →
      ∃ a b, nodes a ∧ nodes b ∧ v = f a ∧ w = f b ∧ TransGen E a b := by
    intro v w hvw
    induction hvw with
    | single hvw =>
      obtain ⟨a, b, ha, hb, rfl, rfl, hab⟩ := hedge _ _ hvw
      exact ⟨a, b, ha, hb, rfl, rfl, TransGen.single hab⟩
    | tail _ huw ih =>
      obtain ⟨a, b, ha, hb, rfl, rfl, hab⟩ := ih
      obtain ⟨b', c, hb', hc, hsame, rfl, hbc⟩ := hedge _ _ huw
      obtain rfl := hinj b hb b' hb' hsame
      exact ⟨a, c, ha, hc, rfl, rfl, hab.tail hbc⟩
  intro v hcycle
  obtain ⟨a, b, ha, hb, rfl, hsame, hab⟩ := hpath hcycle
  obtain rfl := hinj a ha b hb hsame
  exact h a hab

/-! ## Searches over other states -/

/-- One test over its states does what another does over its own: it finds the same, and
without success it leaves states that correspond again. -/
def Simulates {β σ τ : Type u} (R : σ → τ → Prop) (test : β → σ → Bool × σ)
    (test' : β → τ → Bool × τ) (b : β) : Prop :=
  ∀ s t, R s t → (test b s).1 = (test' b t).1 ∧
    ((test' b t).1 = false → R (test b s).2 (test' b t).2)

/-- **What each element's search finds, the list's search finds.** -/
theorem anyFrom_simulates {β σ τ : Type u} {R : σ → τ → Prop} {test : β → σ → Bool × σ}
    {test' : β → τ → Bool × τ} {l : List β} (hone : ∀ b ∈ l, Simulates R test test' b) {s : σ}
    {t : τ} (h : R s t) :
    (anyFrom test l s).1 = (anyFrom test' l t).1 ∧
      ((anyFrom test' l t).1 = false → R (anyFrom test l s).2 (anyFrom test' l t).2) := by
  induction l generalizing s t with
  | nil => exact ⟨rfl, fun _ => h⟩
  | cons b l ih =>
    obtain ⟨hfound, hstates⟩ := hone b List.mem_cons_self s t h
    rcases hs : test b s with ⟨found, s₁⟩
    rcases ht : test' b t with ⟨found', t₁⟩
    rw [hs, ht] at hfound hstates
    obtain rfl : found = found' := hfound
    cases found with
    | true =>
      simp only [anyFrom, hs, ht]
      exact ⟨trivial, fun hfalse => absurd hfalse (by simp)⟩
    | false =>
      simp only [anyFrom, hs, ht]
      exact ih (fun b hb => hone b (List.mem_cons_of_mem _ hb)) (hstates rfl)

end Search
