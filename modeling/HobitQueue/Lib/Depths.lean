import HobitQueue.Lib.CycleSearch
import HobitQueue.Lib.JavaScript

/-!
# Depths by a memoised search

The depth of a node is one more than the greatest depth of its successors, and zero where it has
none. The search keeps the depths it has found, and answers zero at a node that it is on the
path to. It is total; on a relation without cycles it never meets its path, and what it keeps are
the depths.

## Main definitions

* `Depths.visit` — the search.
* `Depths.IsDepth` — the equation of the depths.

## Main results

* `Depths.visitEach_knows` — every node of a list gets a depth, on any relation.
* `Depths.visit_spec` — what a search answers and keeps where there are depths.
* `Depths.exists_isDepth` — a relation without cycles has depths.
* `Depths.visitEach_spec` — the depths known after searches from the nodes of a list.
-/

namespace Depths

open Relation JavaScript

variable {τ κ : Type} [DecidableEq κ] {key : τ → κ} {listed : List τ}

/-- A node of a list. -/
abbrev Node (listed : List τ) : Type := { node : τ // node ∈ listed }

/-- One more than the greatest of the depths, or what was found before. -/
def greatest (key : τ → κ) (f : κ → ℕ) (nodes : List (Node listed)) (found : ℕ) : ℕ :=
  nodes.foldl (fun found node => max found (f (key node.1) + 1)) found

mutual

/-- The depth of a node, and the depths that are known then. -/
def visit (key : τ → κ) (succ : Node listed → List (Node listed)) (node : Node listed)
    (visiting : List κ) (depths : List (κ × ℕ)) : ℕ × List (κ × ℕ) :=
  match mapGet depths (key node.1) with
  | some existing => (existing, depths)
  | none =>
    if _hpath : key node.1 ∈ visiting then (0, depths)
    else
      let found := visitAll key succ (succ node) (key node.1 :: visiting) 0 depths
      (found.1, mapSet found.2 (key node.1) found.1)
termination_by (Search.offPath (listed.map key) visiting, 0)
decreasing_by
  exact Prod.Lex.left _ _ (Search.offPath_lt _hpath (List.mem_map_of_mem node.2))

/-- The successors of a node one after the other. -/
def visitAll (key : τ → κ) (succ : Node listed → List (Node listed)) (nodes : List (Node listed))
    (visiting : List κ) (found : ℕ) (depths : List (κ × ℕ)) : ℕ × List (κ × ℕ) :=
  match nodes with
  | [] => (found, depths)
  | node :: rest =>
    let first := visit key succ node visiting depths
    visitAll key succ rest visiting (max found (first.1 + 1)) first.2
termination_by (Search.offPath (listed.map key) visiting, nodes.length + 1)

end

/-- Searches from the nodes of a list, with what was kept before. -/
def visitEach (key : τ → κ) (succ : Node listed → List (Node listed)) (nodes : List (Node listed)) :
    List (κ × ℕ) :=
  nodes.foldl (fun depths node => (visit key succ node [] depths).2) []

/-- The depths satisfy their equation. -/
def IsDepth (key : τ → κ) (succ : Node listed → List (Node listed)) (f : κ → ℕ) : Prop :=
  ∀ node : Node listed, f (key node.1) = greatest key f (succ node) 0

section Greatest

variable {f g : κ → ℕ} {nodes : List (Node listed)} {found : ℕ}

omit [DecidableEq κ] in
theorem le_greatest : found ≤ greatest key f nodes found := by
  induction nodes generalizing found with
  | nil => exact le_rfl
  | cons node rest ih => exact (le_max_left _ _).trans ih

omit [DecidableEq κ] in
theorem lt_greatest {node : Node listed} (h : node ∈ nodes) :
    f (key node.1) < greatest key f nodes found := by
  induction nodes generalizing found with
  | nil => cases h
  | cons first rest ih =>
    rcases List.mem_cons.1 h with rfl | hrest
    · exact (Nat.lt_succ_self _).trans_le ((le_max_right _ _).trans le_greatest)
    · exact ih hrest

omit [DecidableEq κ] in
theorem greatest_cases : greatest key f nodes found = found ∨
    ∃ node ∈ nodes, greatest key f nodes found = f (key node.1) + 1 := by
  induction nodes generalizing found with
  | nil => exact .inl rfl
  | cons node rest ih =>
    rcases @ih (max found (f (key node.1) + 1)) with hfound | ⟨other, hother, heq⟩
    · rcases max_choice found (f (key node.1) + 1) with hmax | hmax
      · exact .inl (hfound.trans hmax)
      · exact .inr ⟨node, List.mem_cons_self, hfound.trans hmax⟩
    · exact .inr ⟨other, List.mem_cons_of_mem node hother, heq⟩

omit [DecidableEq κ] in
theorem greatest_congr (h : ∀ node ∈ nodes, f (key node.1) = g (key node.1)) :
    greatest key f nodes found = greatest key g nodes found := by
  induction nodes generalizing found with
  | nil => rfl
  | cons node rest ih =>
    have hrest := @ih (max found (g (key node.1) + 1))
      fun other hother => h other (List.mem_cons_of_mem node hother)
    have hnode := h node List.mem_cons_self
    simp only [greatest, List.foldl_cons, hnode] at hrest ⊢
    exact hrest

omit [DecidableEq κ] in
/-- Only the keys of the nodes matter. -/
theorem greatest_eq_foldl : greatest key f nodes found =
    (nodes.map fun node => key node.1).foldl (fun found k => max found (f k + 1)) found := by
  rw [greatest, List.foldl_map]

end Greatest

omit [DecidableEq κ] in
/-- Depths decrease along the relation. -/
theorem IsDepth.lt {succ : Node listed → List (Node listed)} {f : κ → ℕ} (h : IsDepth key succ f)
    {node next : Node listed} (hnext : next ∈ succ node) : f (key next.1) < f (key node.1) := by
  rw [h node]
  exact lt_greatest hnext

/-! ## The search -/

section Search

variable {succ : Node listed → List (Node listed)} {f : κ → ℕ}

theorem isSome_mapSet {depths : List (κ × ℕ)} {k k' : κ} {d : ℕ}
    (h : (mapGet depths k).isSome) : (mapGet (mapSet depths k' d) k).isSome := by
  rw [mapGet_mapSet]
  split_ifs
  · rfl
  · exact h

theorem visitAll_keeps {nodes : List (Node listed)} {visiting : List κ} {k : κ}
    (h : ∀ node depths, (mapGet depths k).isSome →
      (mapGet (visit key succ node visiting depths).2 k).isSome)
    {found : ℕ} {depths : List (κ × ℕ)} (hk : (mapGet depths k).isSome) :
    (mapGet (visitAll key succ nodes visiting found depths).2 k).isSome := by
  induction nodes generalizing found depths with
  | nil =>
    rw [visitAll]
    exact hk
  | cons node rest ih =>
    rw [visitAll]
    exact ih (h node depths hk)

/-- A search forgets no depth, on any relation. By induction on the keys off the path. -/
theorem visit_keeps (node : Node listed) (visiting : List κ) (depths : List (κ × ℕ)) {k : κ}
    (hk : (mapGet depths k).isSome) :
    (mapGet (visit key succ node visiting depths).2 k).isSome := by
  induction hn : Search.offPath (listed.map key) visiting using Nat.strong_induction_on
    generalizing node visiting depths with
  | _ n ih =>
    subst hn
    rw [visit]
    cases hget : mapGet depths (key node.1) with
    | some existing => exact hk
    | none =>
      by_cases hpath : key node.1 ∈ visiting
      · simpa only [dif_pos hpath] using hk
      · simp only [dif_neg hpath]
        have hlt := Search.offPath_lt hpath (List.mem_map_of_mem node.2)
        refine isSome_mapSet (visitAll_keeps (fun next depths hk => ?_) hk)
        exact ih _ hlt next _ depths hk rfl

/-- A search that is not on a path knows the depth of its node. -/
theorem visit_knows (node : Node listed) (depths : List (κ × ℕ)) :
    (mapGet (visit key succ node [] depths).2 (key node.1)).isSome := by
  rw [visit]
  cases hget : mapGet depths (key node.1) with
  | some existing =>
    rw [hget]
    rfl
  | none =>
    simp [mapGet_mapSet]

/-- After searches from the nodes of a list they have depths, on any relation. -/
theorem visitEach_knows {nodes : List (Node listed)} {node : Node listed}
    (hnode : node ∈ nodes) : (mapGet (visitEach key succ nodes) (key node.1)).isSome := by
  have hstep : ∀ (nodes : List (Node listed)) (depths : List (κ × ℕ)) (k : κ),
      ((mapGet depths k).isSome ∨ ∃ node ∈ nodes, key node.1 = k) →
        (mapGet (nodes.foldl (fun depths node => (visit key succ node [] depths).2) depths)
          k).isSome := by
    intro nodes
    induction nodes with
    | nil => simp
    | cons first rest ih =>
      rintro depths k (hk | ⟨other, hother, rfl⟩)
      · exact ih _ k (.inl (visit_keeps first [] depths hk))
      · rcases List.mem_cons.1 hother with rfl | hother
        · exact ih _ _ (.inl (visit_knows other depths))
        · exact ih _ _ (.inr ⟨other, hother, rfl⟩)
  exact hstep nodes [] _ (.inr ⟨node, hnode, rfl⟩)

/-- What is kept are depths. -/
def Agrees (f : κ → ℕ) (depths : List (κ × ℕ)) : Prop :=
  ∀ k d, mapGet depths k = some d → d = f k

theorem visitAll_spec {nodes : List (Node listed)} {visiting : List κ}
    (h : ∀ node ∈ nodes, ∀ depths, Agrees f depths →
      (visit key succ node visiting depths).1 = f (key node.1) ∧
        Agrees f (visit key succ node visiting depths).2)
    {found : ℕ} {depths : List (κ × ℕ)} (hdepths : Agrees f depths) :
    (visitAll key succ nodes visiting found depths).1 = greatest key f nodes found ∧
      Agrees f (visitAll key succ nodes visiting found depths).2 := by
  induction nodes generalizing found depths with
  | nil =>
    rw [visitAll]
    exact ⟨rfl, hdepths⟩
  | cons node rest ih =>
    obtain ⟨hanswer, hagrees⟩ := h node List.mem_cons_self depths hdepths
    have hrest := @ih (fun other hother => h other (List.mem_cons_of_mem node hother))
      (max found ((visit key succ node visiting depths).1 + 1)) _ hagrees
    rw [visitAll]
    refine ⟨?_, hrest.2⟩
    rw [hrest.1, hanswer]
    rfl

/-- A search whose path lies above the node answers with the depth. By induction on the depth:
the successors lie below. -/
theorem visit_spec (hf : IsDepth key succ f) (node : Node listed) {visiting : List κ}
    (hvisiting : ∀ v ∈ visiting, f (key node.1) < f v) {depths : List (κ × ℕ)}
    (hdepths : Agrees f depths) :
    (visit key succ node visiting depths).1 = f (key node.1) ∧
      Agrees f (visit key succ node visiting depths).2 := by
  induction hn : f (key node.1) using Nat.strong_induction_on generalizing node visiting depths with
  | _ n ih =>
    subst hn
    rw [visit]
    split
    · rename_i existing hexisting
      exact ⟨hdepths _ _ hexisting, hdepths⟩
    · have hpath : key node.1 ∉ visiting := fun hmem => lt_irrefl _ (hvisiting _ hmem)
      rw [dif_neg hpath]
      have hall : ∀ next ∈ succ node, ∀ depths, Agrees f depths →
          (visit key succ next (key node.1 :: visiting) depths).1 = f (key next.1) ∧
            Agrees f (visit key succ next (key node.1 :: visiting) depths).2 := by
        intro next hnext depths hdepths
        have hlt := hf.lt hnext
        refine ih _ hlt next (fun v hv => ?_) hdepths rfl
        rcases List.mem_cons.1 hv with rfl | hv
        · exact hlt
        · exact hlt.trans (hvisiting v hv)
      obtain ⟨hanswer, hagrees⟩ := @visitAll_spec _ _ _ _ _ _ _ _ _ hall 0 _ hdepths
      rw [← hf node] at hanswer
      refine ⟨hanswer, fun k d hk => ?_⟩
      rw [mapGet_mapSet] at hk
      split_ifs at hk with hkey
      · rw [hkey, ← Option.some.inj hk]
        exact hanswer
      · exact hagrees k d hk

/-- After searches from the nodes of a list their depths are known. -/
theorem visitEach_spec (hf : IsDepth key succ f) {nodes : List (Node listed)}
    {node : Node listed} (hnode : node ∈ nodes) :
    mapGet (visitEach key succ nodes) (key node.1) = some (f (key node.1)) := by
  have hstep : ∀ (nodes : List (Node listed)) (depths : List (κ × ℕ)), Agrees f depths →
      Agrees f (nodes.foldl (fun depths node => (visit key succ node [] depths).2) depths) := by
    intro nodes
    induction nodes with
    | nil => exact fun depths hdepths => hdepths
    | cons first rest ih =>
      intro depths hdepths
      exact ih _ (@visit_spec _ _ _ _ _ _ _ hf first [] (by simp) _ hdepths).2
  obtain ⟨d, hd⟩ := Option.isSome_iff_exists.1 (@visitEach_knows _ _ _ key _ succ _ _ hnode)
  have hagrees := hstep nodes [] fun k d hk => by cases hk
  rw [hd, hagrees _ _ hd]

end Search

/-! ## Relations without cycles -/

/-- One key's node has a successor with the other key. -/
def Edge (key : τ → κ) (succ : Node listed → List (Node listed)) (a b : κ) : Prop :=
  ∃ node next : Node listed, next ∈ succ node ∧ key node.1 = a ∧ key next.1 = b

/-- Nodes with the same key have the same successors. -/
def Keyed (key : τ → κ) (succ : Node listed → List (Node listed)) : Prop :=
  ∀ node node' : Node listed, key node.1 = key node'.1 → succ node = succ node'

/-- Along an edge fewer of the keys can be reached. -/
theorem wellFounded_edge {succ : Node listed → List (Node listed)}
    (h : Search.Acyclic (Edge key succ)) : WellFounded fun a b => Edge key succ b a := by
  classical
  have hdecreases : ∀ a b, Edge key succ a b →
      ((listed.map key).toFinset.filter fun k => TransGen (Edge key succ) b k).card <
        ((listed.map key).toFinset.filter fun k => TransGen (Edge key succ) a k).card := by
    intro a b hedge
    have hmem : b ∈ (listed.map key).toFinset := by
      obtain ⟨node, next, -, -, rfl⟩ := hedge
      exact List.mem_toFinset.2 (List.mem_map_of_mem next.2)
    refine Finset.card_lt_card ((Finset.ssubset_iff_of_subset fun k hk => ?_).2 ⟨b, ?_, ?_⟩)
    · rw [Finset.mem_filter] at hk ⊢
      exact ⟨hk.1, .head hedge hk.2⟩
    · exact Finset.mem_filter.2 ⟨hmem, .single hedge⟩
    · rw [Finset.mem_filter, not_and]
      exact fun _ => h b
  exact Subrelation.wf (fun {a b} hedge => hdecreases b a hedge)
    (measure fun a =>
      ((listed.map key).toFinset.filter fun k => TransGen (Edge key succ) a k).card).wf

/-- A relation without cycles has depths. -/
theorem exists_isDepth {succ : Node listed → List (Node listed)} (hkeyed : Keyed key succ)
    (h : Search.Acyclic (Edge key succ)) : ∃ f : κ → ℕ, IsDepth key succ f := by
  classical
  have hwf := wellFounded_edge h
  let step : ∀ k, (∀ j, Edge key succ k j → ℕ) → ℕ := fun k below =>
    if hk : ∃ node : Node listed, key node.1 = k then
      greatest key (fun j => if hj : Edge key succ k j then below j hj else 0) (succ hk.choose) 0
    else 0
  refine ⟨hwf.fix step, fun node => ?_⟩
  have hk : ∃ other : Node listed, key other.1 = key node.1 := ⟨node, rfl⟩
  have hsucc : succ hk.choose = succ node := hkeyed _ _ hk.choose_spec
  have heq : hwf.fix step (key node.1) = greatest key
      (fun j => if Edge key succ (key node.1) j then hwf.fix step j else 0) (succ hk.choose) 0 := by
    rw [hwf.fix_eq]
    exact dif_pos hk
  rw [heq, hsucc]
  exact greatest_congr fun next hnext => if_pos ⟨node, next, hnext, rfl, rfl⟩

end Depths
