import HobitQueue.Lib.CycleSearch
import Mathlib.Data.List.Chain

/-!
# A depth-first search that reports its cycles

The search goes on when it meets a node of its path: it reports the part of the path that the
node closes to a cycle, and searches what is left. What is done with a report is up to the
caller, who keeps a state of its own.

## Main definitions

* `visitReporting`, `visitEachReporting` — the search from a node, and from the nodes of a list.
* `IsCycle` — a list of nodes that goes along the edges and ends where it starts.

## Main results

* `visitEachReporting_spec` — what is reported are cycles, and there are reports exactly when the
  relation has a cycle.
-/

namespace Search

open Relation

variable {α : Type} {σ : Type} [DecidableEq α]

theorem offPath_append_lt {keys path : List α} {current : α} (hpath : current ∉ path)
    (hkey : current ∈ keys) : offPath keys (path ++ [current]) < offPath keys path := by
  have hsame : offPath keys (path ++ [current]) = offPath keys (current :: path) := by
    unfold offPath
    rw [List.toFinset_append, List.toFinset_cons, List.toFinset_cons, List.toFinset_nil]
    exact congrArg (fun nodes => (keys.toFinset \ nodes).card) (by ext; simp)
  rw [hsame]
  exact offPath_lt hpath hkey

/-- The part of the path that a node of it closes. -/
def closedBy (path : List α) (current : α) : List α := path.drop (path.idxOf current) ++ [current]

/-- The search from a node, with the nodes that were left and the state of the reports. -/
def visitReporting (keys : List α) (succ : α → List α) (report : List α → σ → σ) (path : List α)
    (current : α) (s : List α × σ) : List α × σ :=
  if current ∈ path then (s.1, report (closedBy path current) s.2)
  else if current ∈ s.1 then s
  else if current ∈ keys then
    let left := (succ current).foldl
      (fun s next => visitReporting keys succ report (path ++ [current]) next s) s
    (current :: left.1, left.2)
  else s
termination_by offPath keys path
decreasing_by
  rename_i hpath _ hkey
  exact offPath_append_lt hpath hkey

/-- The searches from the nodes of a list, which share what they leave. -/
def visitEachReporting (keys : List α) (succ : α → List α) (report : List α → σ → σ)
    (roots : List α) (init : σ) : List α × σ :=
  roots.foldl (fun s root => visitReporting keys succ report [] root s) ([], init)

/-- A way along the edges that ends where it starts. -/
structure IsCycle (E : α → α → Prop) (cycle : List α) : Prop where
  chain : cycle.IsChain E
  closed : ∃ node between, cycle = node :: between ++ [node]

omit [DecidableEq α] in
theorem IsCycle.exists_transGen {E : α → α → Prop} {cycle : List α} (h : IsCycle E cycle) :
    ∃ v, TransGen E v v := by
  obtain ⟨v, between, rfl⟩ := h.closed
  obtain ⟨hchain, -, hlast⟩ := List.isChain_append.1 h.chain
  refine ⟨v, TransGen.tail' (b := (v :: between).getLast (by simp)) ?_ ?_⟩
  · exact List.relationReflTransGen_of_exists_isChain_cons between hchain rfl
  · exact hlast _ (List.getLast?_eq_some_getLast (by simp)) v rfl

/-- What a search of some nodes does: the cycles that it reports, and that it left no node on the
way to a cycle if it reports none. -/
structure Reports (succ : α → List α) (report : List α → σ → σ) (nodes : List α)
    (s t : List α × σ) (cycles : List (List α)) : Prop where
  state : t.2 = cycles.foldl (fun s cycle => report cycle s) s.2
  real : ∀ cycle ∈ cycles, IsCycle (Edge succ) cycle
  clean : cycles = [] → (∀ v ∈ s.1, ¬ Cyclic succ v) →
    (∀ v ∈ t.1, ¬ Cyclic succ v) ∧ ∀ v ∈ nodes, ¬ Cyclic succ v

section Spec

variable {keys : List α} {succ : α → List α} {report : List α → σ → σ}

omit [DecidableEq α] in
theorem reports_foldl {visit : α → List α × σ → List α × σ} {nodes : List α}
    (hone : ∀ node ∈ nodes, ∀ s, ∃ cycles, Reports succ report [node] s (visit node s) cycles)
    (s : List α × σ) : ∃ cycles, Reports succ report nodes s
      (nodes.foldl (fun s node => visit node s) s) cycles := by
  induction nodes generalizing s with
  | nil => exact ⟨[], rfl, by simp, fun _ hs => ⟨hs, by simp⟩⟩
  | cons node rest ih =>
    obtain ⟨first, hfirst⟩ := hone node List.mem_cons_self s
    obtain ⟨others, hothers⟩ := ih (fun other hother => hone other
      (List.mem_cons_of_mem node hother)) (visit node s)
    refine ⟨first ++ others, ?_, fun cycle hcycle => ?_, fun hnil hs => ?_⟩
    · rw [List.foldl_append, ← hfirst.state]
      exact hothers.state
    · rcases List.mem_append.1 hcycle with hcycle | hcycle
      · exact hfirst.real cycle hcycle
      · exact hothers.real cycle hcycle
    · obtain ⟨rfl, rfl⟩ := List.append_eq_nil_iff.1 hnil
      obtain ⟨hleft, hnode⟩ := hfirst.clean rfl hs
      obtain ⟨hafter, hrest⟩ := hothers.clean rfl hleft
      refine ⟨hafter, fun v hv => ?_⟩
      rcases List.mem_cons.1 hv with rfl | hv
      · exact hnode v (List.mem_singleton.2 rfl)
      · exact hrest v hv

/-- A node of the path closes a cycle. -/
theorem isCycle_closedBy {path : List α} {current : α}
    (hpath : (path ++ [current]).IsChain (Edge succ)) (hmem : current ∈ path) :
    IsCycle (Edge succ) (closedBy path current) := by
  obtain ⟨before, after, rfl, hbefore⟩ := List.eq_append_cons_of_mem hmem
  have hdrop : closedBy (before ++ current :: after) current =
      current :: after ++ [current] := by
    rw [closedBy, List.idxOf_append, if_neg hbefore, List.idxOf_cons_self, Nat.zero_add,
      List.drop_left]
  rw [List.append_assoc] at hpath
  refine ⟨?_, current, after, hdrop⟩
  rw [hdrop]
  exact hpath.right_of_append

/-- **The search from a node** whose path goes along the edges. By induction on the keys off the
path. -/
theorem visitReporting_spec (hkeys : ∀ v, v ∉ keys → succ v = []) {path : List α} {current : α}
    (hpath : (path ++ [current]).IsChain (Edge succ)) (s : List α × σ) :
    ∃ cycles, Reports succ report [current] s (visitReporting keys succ report path current s)
      cycles := by
  induction hn : offPath keys path using Nat.strong_induction_on
    generalizing path current s with
  | _ n ih =>
    subst hn
    rw [visitReporting]
    by_cases hmet : current ∈ path
    · rw [if_pos hmet]
      refine ⟨[closedBy path current], rfl, fun cycle hcycle => ?_, fun hnil => by cases hnil⟩
      rw [List.mem_singleton.1 hcycle]
      exact isCycle_closedBy hpath hmet
    rw [if_neg hmet]
    by_cases hleft : current ∈ s.1
    · rw [if_pos hleft]
      refine ⟨[], rfl, by simp, fun _ hs => ⟨hs, fun v hv => ?_⟩⟩
      rw [List.mem_singleton.1 hv]
      exact hs current hleft
    rw [if_neg hleft]
    by_cases hkey : current ∈ keys
    · rw [if_pos hkey]
      have hlt := offPath_append_lt hmet hkey
      obtain ⟨cycles, hcycles⟩ := @reports_foldl _ _ succ report
        (fun next s => visitReporting keys succ report (path ++ [current]) next s)
        (succ current) (fun next hnext s => by
          refine ih _ hlt ?_ s rfl
          refine List.isChain_append.2 ⟨hpath, List.isChain_singleton _, fun x hx y hy => ?_⟩
          rw [List.getLast?_concat, Option.mem_some_iff] at hx
          rw [List.head?_cons, Option.mem_some_iff] at hy
          rw [← hx, ← hy]
          exact hnext) s
      refine ⟨cycles, hcycles.state, hcycles.real, fun hnil hs => ?_⟩
      obtain ⟨hafter, hnext⟩ := hcycles.clean hnil hs
      have hcurrent : ¬ Cyclic succ current := by
        intro hcyclic
        obtain ⟨next, hmem, hcycle⟩ := hcyclic.cases_succ
        exact hnext next hmem hcycle
      refine ⟨fun v hv => ?_, fun v hv => ?_⟩
      · rcases List.mem_cons.1 hv with rfl | hv
        · exact hcurrent
        · exact hafter v hv
      · rw [List.mem_singleton.1 hv]
        exact hcurrent
    · rw [if_neg hkey]
      refine ⟨[], rfl, by simp, fun _ hs => ⟨hs, fun v hv hcyclic => ?_⟩⟩
      obtain ⟨next, hnext, -⟩ := hcyclic.cases_succ
      rw [List.mem_singleton.1 hv, hkeys current hkey] at hnext
      cases hnext

/-- **The searches from all nodes with a successor** report cycles, and report some exactly when
there are any. -/
theorem visitEachReporting_spec (hkeys : ∀ v, v ∉ keys → succ v = []) (init : σ) :
    ∃ cycles, (visitEachReporting keys succ report keys init).2 =
        cycles.foldl (fun s cycle => report cycle s) init ∧
      (∀ cycle ∈ cycles, IsCycle (Edge succ) cycle) ∧
      (cycles = [] ↔ Acyclic (Edge succ)) := by
  obtain ⟨cycles, hcycles⟩ := @reports_foldl _ _ succ report
    (fun root s => visitReporting keys succ report [] root s) keys
    (fun root _ s => @visitReporting_spec _ _ _ keys succ report hkeys [] root
      (List.isChain_singleton root) s) ([], init)
  refine ⟨cycles, hcycles.state, hcycles.real, fun hnil => ?_, fun hacyclic => ?_⟩
  · exact (acyclic_iff_roots hkeys).1 (hcycles.clean hnil (by simp)).2
  · refine List.eq_nil_iff_forall_not_mem.2 fun cycle hcycle => ?_
    obtain ⟨v, hv⟩ := (hcycles.real cycle hcycle).exists_transGen
    exact hacyclic v hv

end Spec

end Search
