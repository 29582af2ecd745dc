import Mathlib.Data.Finset.Card
import Mathlib.Data.List.Basic
import Mathlib.Logic.Relation

/-!
# Depth-first search with a shared visited set

The search enters a node at most once in its whole life: the visited set is
handed from branch to branch, so a branch may stop at a node that an earlier
branch has entered and not yet left. That it still misses nothing is the
invariant `Explored`: every node entered since the search began has all its
successors among the visited ones.

## Main definitions

* `anyFrom` — the first success of a test that threads a state through a list.
* `reaches` — the search.
* `Explored` — what a search without success has established.
* `Acyclic` — a relation no node of which reaches itself.

## Main results

* `reaches_iff` — the search finds the target exactly when a path leads to it.
* `Acyclic.replace` — new edges out of one node keep a relation acyclic when none
  of them leads back to the node.
-/

namespace Search

open Relation

universe u

/-- The first element of a list that passes a stateful test. -/
def anyFrom {β σ : Type u} (test : β → σ → Bool × σ) : List β → σ → Bool × σ
  | [], s => (false, s)
  | b :: rest, s =>
      match test b s with
      | (true, t) => (true, t)
      | (false, t) => anyFrom test rest t

variable {α : Type u} [DecidableEq α]

/-- Is the target reached from the current node? Nodes in `visited` are not
entered again; `fuel` bounds the depth. The answer comes with the nodes visited
by then. -/
def reaches (succ : α → List α) (target : α) : ℕ → α → List α → Bool × List α
  | 0, _, visited => (false, visited)
  | fuel + 1, current, visited =>
      if current = target then (true, visited)
      else if current ∈ visited then (false, visited)
      else anyFrom (reaches succ target fuel) (succ current) (current :: visited)

/-- The edge relation of a successor function. -/
def Edge (succ : α → List α) (a b : α) : Prop := b ∈ succ a

variable {succ : α → List α} {target : α}

/-! ## Soundness -/

private theorem exists_of_anyFrom {β σ : Type u} {test : β → σ → Bool × σ} {l : List β}
    {s t : σ} (h : anyFrom test l s = (true, t)) :
    ∃ b ∈ l, ∃ s₁ t₁, test b s₁ = (true, t₁) := by
  induction l generalizing s with
  | nil => simp [anyFrom] at h
  | cons b l ih =>
    rcases hb : test b s with ⟨_ | _, u⟩
    · simp only [anyFrom, hb] at h
      obtain ⟨c, hc, hrest⟩ := ih h
      exact ⟨c, List.mem_cons_of_mem _ hc, hrest⟩
    · exact ⟨b, List.mem_cons_self, s, u, hb⟩

/-- A search that succeeds followed a path. -/
theorem path_of_reaches {fuel : ℕ} {current : α} {visited visited' : List α}
    (h : reaches succ target fuel current visited = (true, visited')) :
    ReflTransGen (Edge succ) current target := by
  induction fuel generalizing current visited visited' with
  | zero => simp [reaches] at h
  | succ fuel ih =>
    unfold reaches at h
    split at h
    · rename_i hcur
      exact hcur ▸ ReflTransGen.refl
    · split at h
      · simp at h
      · obtain ⟨next, hnext, _, _, hsub⟩ := exists_of_anyFrom h
        exact ReflTransGen.head hnext (ih hsub)

/-! ## Completeness -/

/-- A search went from `visited` to `visited'` without meeting the target, and
every node it entered has all its successors visited. -/
structure Explored (succ : α → List α) (target : α) (visited visited' : List α) : Prop where
  subset : ∀ v ∈ visited, v ∈ visited'
  closed : ∀ v ∈ visited', v ∉ visited → v ≠ target ∧ ∀ w ∈ succ v, w ∈ visited'

omit [DecidableEq α] in
theorem Explored.refl (visited : List α) : Explored succ target visited visited :=
  ⟨fun _ h => h, fun _ h hn => absurd h hn⟩

omit [DecidableEq α] in
theorem Explored.trans {a b c : List α} (hab : Explored succ target a b)
    (hbc : Explored succ target b c) : Explored succ target a c := by
  classical
  refine ⟨fun v hv => hbc.subset v (hab.subset v hv), ?_⟩
  intro v hvc hva
  by_cases hvb : v ∈ b
  · obtain ⟨hne, hsucc⟩ := hab.closed v hvb hva
    exact ⟨hne, fun w hw => hbc.subset w (hsucc w hw)⟩
  · exact hbc.closed v hvc hvb

/-- The nodes of a universe that a search may still enter. -/
private def remaining (U : Finset α) (visited : List α) : ℕ := (U \ visited.toFinset).card

private theorem remaining_mono {U : Finset α} {a b : List α} (h : ∀ v ∈ a, v ∈ b) :
    remaining U b ≤ remaining U a := by
  refine Finset.card_le_card (Finset.sdiff_subset_sdiff (Finset.Subset.refl U) ?_)
  intro v hv
  exact List.mem_toFinset.2 (h v (List.mem_toFinset.1 hv))

private theorem remaining_enter {U : Finset α} {current : α} {visited : List α}
    (hU : current ∈ U) (hv : current ∉ visited) :
    remaining U (current :: visited) < remaining U visited := by
  refine Finset.card_lt_card ⟨?_, ?_⟩
  · refine Finset.sdiff_subset_sdiff (Finset.Subset.refl U) ?_
    intro v hv
    exact List.mem_toFinset.2 (List.mem_cons_of_mem _ (List.mem_toFinset.1 hv))
  · intro hsub
    have hmem : current ∈ U \ visited.toFinset := by simp [hU, hv]
    simpa using hsub hmem

/-- The list step: what holds of each element's search holds of the list's. -/
private theorem explored_of_anyFrom {U : Finset α} {fuel : ℕ}
    (hone : ∀ current ∈ U, ∀ visited visited', remaining U visited < fuel →
      reaches succ target fuel current visited = (false, visited') →
        Explored succ target visited visited' ∧ current ∈ visited')
    {l : List α} (hl : ∀ x ∈ l, x ∈ U) {visited visited' : List α}
    (hfuel : remaining U visited < fuel)
    (h : anyFrom (reaches succ target fuel) l visited = (false, visited')) :
    Explored succ target visited visited' ∧ ∀ x ∈ l, x ∈ visited' := by
  induction l generalizing visited with
  | nil =>
    simp only [anyFrom, Prod.mk.injEq, true_and] at h
    exact h ▸ ⟨Explored.refl visited, by simp⟩
  | cons x l ih =>
    rcases hx : reaches succ target fuel x visited with ⟨_ | _, mid⟩
    · simp only [anyFrom, hx] at h
      obtain ⟨hexp, hmem⟩ := hone x (hl x List.mem_cons_self) visited mid hfuel hx
      have hmid : remaining U mid < fuel := lt_of_le_of_lt (remaining_mono hexp.subset) hfuel
      obtain ⟨hrest, hall⟩ := ih (fun y hy => hl y (List.mem_cons_of_mem _ hy)) hmid h
      refine ⟨hexp.trans hrest, ?_⟩
      intro y hy
      rcases List.mem_cons.1 hy with rfl | hy
      · exact hrest.subset y hmem
      · exact hall y hy
    · simp [anyFrom, hx] at h

/-- **A search without success has explored everything it entered**, when its
fuel covers the nodes still to be entered. -/
theorem explored_of_reaches {U : Finset α} (hclosed : ∀ v ∈ U, ∀ w ∈ succ v, w ∈ U)
    {fuel : ℕ} {current : α} (hU : current ∈ U) {visited visited' : List α}
    (hfuel : remaining U visited < fuel)
    (h : reaches succ target fuel current visited = (false, visited')) :
    Explored succ target visited visited' ∧ current ∈ visited' := by
  induction fuel generalizing current visited visited' with
  | zero => omega
  | succ fuel ih =>
    unfold reaches at h
    split at h
    · simp at h
    rename_i hne
    split at h
    · rename_i hmem
      simp only [Prod.mk.injEq, true_and] at h
      exact h ▸ ⟨Explored.refl visited, hmem⟩
    rename_i hnew
    have henter := remaining_enter hU hnew
    obtain ⟨hexp, hall⟩ := explored_of_anyFrom
      (fun c hc v v' hf hr => ih hc hf hr) (hclosed current hU) (by omega) h
    refine ⟨⟨fun v hv => hexp.subset v (List.mem_cons_of_mem _ hv), ?_⟩,
      hexp.subset current List.mem_cons_self⟩
    intro v hv hvn
    by_cases hvc : v = current
    · exact hvc ▸ ⟨hne, hall⟩
    · exact hexp.closed v hv (by simp [hvc, hvn])

/-- **The search is exact**: with fuel for every node it finds the target if and
only if a path leads to it. -/
theorem reaches_iff {U : Finset α} (hclosed : ∀ v ∈ U, ∀ w ∈ succ v, w ∈ U) {fuel : ℕ}
    (hfuel : U.card < fuel) {current : α} (hU : current ∈ U) :
    (reaches succ target fuel current []).1 = true ↔
      ReflTransGen (Edge succ) current target := by
  rcases hr : reaches succ target fuel current [] with ⟨_ | _, visited⟩
  · obtain ⟨hexp, hcur⟩ :=
      explored_of_reaches hclosed hU (by simpa [remaining] using hfuel) hr
    have hstay : ∀ v, ReflTransGen (Edge succ) current v → v ∈ visited := by
      intro v hpath
      induction hpath with
      | refl => exact hcur
      | tail _ hedge ih => exact (hexp.closed _ ih (by simp)).2 _ hedge
    refine iff_of_false (by simp) fun hpath => ?_
    exact (hexp.closed target (hstay target hpath) (by simp)).1 rfl
  · exact iff_of_true rfl (path_of_reaches hr)

/-! ## Acyclic relations -/

/-- No node reaches itself through one or more edges. -/
def Acyclic {α : Type u} (E : α → α → Prop) : Prop := ∀ v, ¬ TransGen E v v

section Acyclic

variable {α : Type u} {E E' : α → α → Prop}

theorem Acyclic.mono (h : Acyclic E) (hsub : ∀ v w, E' v w → E v w) : Acyclic E' :=
  fun v hv => h v (TransGen.mono hsub v v hv)

/-- A walk either keeps to edges that do not start in `a`, or passes through `a`. -/
private theorem walk_avoids_or_passes {a v w : α} (hsame : ∀ v w, v ≠ a → E' v w → E v w)
    (h : TransGen E' v w) : TransGen E v w ∨ ReflTransGen E' v a ∧ TransGen E' a w := by
  classical
  induction h with
  | single hvw =>
    by_cases hv : v = a
    · exact Or.inr ⟨hv ▸ ReflTransGen.refl, TransGen.single (hv ▸ hvw)⟩
    · exact Or.inl (TransGen.single (hsame _ _ hv hvw))
  | @tail u w hvu huw ih =>
    by_cases hu : u = a
    · exact Or.inr ⟨hu ▸ hvu.to_reflTransGen, TransGen.single (hu ▸ huw)⟩
    · rcases ih with hold | ⟨hva, hau⟩
      · exact Or.inl (hold.tail (hsame _ _ hu huw))
      · exact Or.inr ⟨hva, hau.tail huw⟩

/-- **Replacing the edges of one node keeps a relation acyclic** when no new
successor of the node leads back to it. -/
theorem Acyclic.replace {a : α} (h : Acyclic E) (hsame : ∀ v w, v ≠ a → E' v w → E v w)
    (hnew : ∀ b, E' a b → ¬ ReflTransGen E' b a) : Acyclic E' := by
  intro v hv
  rcases walk_avoids_or_passes hsame hv with hold | ⟨hva, hav⟩
  · exact h v hold
  · obtain ⟨b, hab, hba⟩ := TransGen.head'_iff.1 (hav.trans_left hva)
    exact hnew b hab hba

end Acyclic

end Search
