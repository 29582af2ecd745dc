import HobitQueue.Lib.Search

/-!
# Waiting without cycles

Where nodes wait for others and the relation has no cycles, a node that waits does so in the end
for one that waits for no waiting node: there is no deadlock.

## Main results

* `Acyclic.wellFounded` — the relation is well founded when finitely many nodes have successors.
* `Acyclic.exists_root` — the chain of waiting nodes that ends in one that may go on.
-/

namespace Search

open Relation

variable {α : Type*} {E : α → α → Prop}

/-- Along an edge one node fewer can be reached, of those that have successors. -/
theorem Acyclic.wellFounded (h : Acyclic E) (sources : Finset α)
    (hsources : ∀ a b, E a b → a ∈ sources) : WellFounded fun a b => E b a := by
  classical
  have hdecreases : ∀ a b, E a b → (sources.filter fun c => ReflTransGen E b c).card <
      (sources.filter fun c => ReflTransGen E a c).card := by
    intro a b hedge
    refine Finset.card_lt_card ((Finset.ssubset_iff_of_subset ?_).2 ⟨a, ?_, ?_⟩)
    · intro c hc
      rw [Finset.mem_filter] at hc ⊢
      exact ⟨hc.1, .head hedge hc.2⟩
    · exact Finset.mem_filter.2 ⟨hsources a b hedge, .refl⟩
    · rw [Finset.mem_filter, not_and]
      intro _ hback
      exact h a (.head' hedge hback)
  exact Subrelation.wf (fun {a b} hedge => hdecreases b a hedge)
    (measure fun a => (sources.filter fun c => ReflTransGen E a c).card).wf

/-- **From every waiting node a chain of waiting nodes leads to one all of whose successors have
stopped waiting.** -/
theorem Acyclic.exists_root (h : Acyclic E) (sources : Finset α)
    (hsources : ∀ a b, E a b → a ∈ sources) (waits : α → Prop) {a : α} (ha : waits a) :
    ∃ b, ReflTransGen (fun v w => E v w ∧ waits w) a b ∧ waits b ∧ ∀ c, E b c → ¬ waits c := by
  induction a using (h.wellFounded sources hsources).induction with
  | _ a ih =>
    by_cases hnext : ∃ c, E a c ∧ waits c
    · obtain ⟨c, hedge, hc⟩ := hnext
      obtain ⟨b, hpath, hb, hlast⟩ := ih c hedge hc
      exact ⟨b, .head ⟨hedge, hc⟩ hpath, hb, hlast⟩
    · refine ⟨a, .refl, ha, ?_⟩
      intro c hedge hc
      exact hnext ⟨c, hedge, hc⟩

end Search
