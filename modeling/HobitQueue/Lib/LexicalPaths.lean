import Mathlib.Data.List.Basic
import Mathlib.Data.List.Induction

/-!
# Paths resolved by their letters

A relative path is cut into components at its separators. An empty component and a dot stay
where they are, two dots go up, every other component is a name and goes down. A path leads
out of the directory it starts in when it goes up more often than it has gone down.

## Main definitions

* `LexicalPath.resolve` — the directory a list of components leads to, from the start down.
* `LexicalPath.StaysBelow` — no beginning of the path leaves the start, and it ends below it.
* `LexicalPath.names`, `LexicalPath.parents` — how often a path goes down and up.

## Main results

* `LexicalPath.staysBelow_iff` — a path stays below its start when no beginning of it has
  more parents than names, and the whole of it has fewer.
-/

namespace LexicalPath

def here : List Char := ['.']
def parent : List Char := ['.', '.']

def isName (c : List Char) : Bool := c != [] && c != here && c != parent

theorem ne_parent_of_isName {c : List Char} (h : isName c = true) : c ≠ parent := by
  rintro rfl
  exact absurd h (by decide)

/-- The directory above. -/
def up : List (List Char) → Option (List (List Char))
  | [] => none
  | _ :: above => some above

/-- One component further, with the names passed so far, the last one first. -/
def step (passed : List (List Char)) (c : List Char) : Option (List (List Char)) :=
  if isName c then some (c :: passed)
  else if c = parent then up passed
  else some passed

/-- The names below the start, the last one first; nothing when the path leaves the start. -/
def resolve (components : List (List Char)) : Option (List (List Char)) :=
  components.foldlM step []

def names (components : List (List Char)) : ℕ := components.countP isName

def parents (components : List (List Char)) : ℕ := components.count parent

/-- No beginning of the path leaves the start, and the path does not end there. -/
def StaysBelow (components : List (List Char)) : Prop :=
  (∀ front, front <+: components → (resolve front).isSome = true) ∧
    resolve components ≠ some []

theorem resolve_nil : resolve [] = some [] := rfl

theorem resolve_concat (components : List (List Char)) (c : List Char) :
    resolve (components ++ [c]) = (resolve components).bind (step · c) := by
  simp [resolve, List.foldlM_append]

theorem names_concat (components : List (List Char)) (c : List Char) :
    names (components ++ [c]) = names components + if isName c then 1 else 0 := by
  simp [names, List.countP_append, List.countP_cons]

theorem parents_concat (components : List (List Char)) (c : List Char) :
    parents (components ++ [c]) = parents components + if c = parent then 1 else 0 := by
  simp [parents, List.count_append, List.count_cons]

/-- The length of the way down is the number of names less the number of parents. -/
theorem length_resolve {components passed : List (List Char)}
    (h : resolve components = some passed) :
    passed.length + parents components = names components := by
  induction components using List.reverseRecOn generalizing passed with
  | nil =>
    rw [resolve_nil] at h
    cases h
    rfl
  | append_singleton components c ih =>
    rw [resolve_concat, Option.bind_eq_some_iff] at h
    obtain ⟨before, hbefore, hstep⟩ := h
    have hlength := ih hbefore
    rw [names_concat, parents_concat]
    by_cases hname : isName c = true
    · have hparent := ne_parent_of_isName hname
      rw [step, if_pos hname, Option.some.injEq] at hstep
      rw [if_pos hname, if_neg hparent, ← hstep, List.length_cons]
      omega
    · by_cases hparent : c = parent
      · rw [step, if_neg hname, if_pos hparent] at hstep
        cases before with
        | nil => cases hstep
        | cons last above =>
          cases hstep
          rw [if_neg hname, if_pos hparent, List.length_cons] at *
          omega
      · rw [step, if_neg hname, if_neg hparent, Option.some.injEq] at hstep
        rw [if_neg hname, if_neg hparent, ← hstep]
        omega

/-- A path goes on unless it goes up from the start. -/
theorem resolve_concat_isSome {components passed : List (List Char)} (c : List Char)
    (h : resolve components = some passed) :
    (resolve (components ++ [c])).isSome = true ↔
      parents (components ++ [c]) ≤ names (components ++ [c]) := by
  have hlength := length_resolve h
  rw [resolve_concat, h, Option.bind_some, names_concat, parents_concat, step]
  by_cases hname : isName c = true
  · rw [if_pos hname, if_pos hname, if_neg (ne_parent_of_isName hname)]
    simp only [Option.isSome_some, true_iff]
    omega
  · by_cases hparent : c = parent
    · rw [if_neg hname, if_pos hparent, if_neg hname, if_pos hparent]
      cases passed with
      | nil =>
        simp only [List.length_nil] at hlength
        simp only [up, Option.isSome_none, Bool.false_eq_true, false_iff]
        omega
      | cons last above =>
        simp only [List.length_cons] at hlength
        simp only [up, Option.isSome_some, true_iff]
        omega
    · rw [if_neg hname, if_neg hparent, if_neg hname, if_neg hparent]
      simp only [Option.isSome_some, true_iff]
      omega

theorem resolve_isSome_iff (components : List (List Char)) :
    (∀ front, front <+: components → (resolve front).isSome = true) ↔
      ∀ front, front <+: components → parents front ≤ names front := by
  induction components using List.reverseRecOn with
  | nil =>
    simp only [List.prefix_nil, forall_eq]
    exact ⟨fun _ => Nat.le_refl _, fun _ => rfl⟩
  | append_singleton components c ih =>
    have hsplit : ∀ P : List (List Char) → Prop,
        (∀ front, front <+: components ++ [c] → P front) ↔
          (∀ front, front <+: components → P front) ∧ P (components ++ [c]) := by
      intro P
      constructor
      · intro h
        exact ⟨fun front hfront => h front (hfront.trans (List.prefix_append _ _)),
          h _ (List.prefix_refl _)⟩
      · rintro ⟨hbefore, hwhole⟩ front hfront
        rcases List.prefix_concat_iff.1 hfront with rfl | hfront
        · exact hwhole
        · exact hbefore front hfront
    rw [hsplit, hsplit, ih]
    refine and_congr_right fun hbefore => ?_
    have hsome := ih.2 hbefore components (List.prefix_refl _)
    obtain ⟨passed, hpassed⟩ := Option.isSome_iff_exists.1 hsome
    exact resolve_concat_isSome c hpassed

/-- **A path stays below its start** when it never has gone up more often than down, and in
the end has gone down more often. -/
theorem staysBelow_iff (components : List (List Char)) :
    StaysBelow components ↔
      (∀ front, front <+: components → parents front ≤ names front) ∧
        parents components < names components := by
  rw [StaysBelow, resolve_isSome_iff]
  refine and_congr_right fun hfronts => ?_
  have hsome := (resolve_isSome_iff components).2 hfronts components (List.prefix_refl _)
  obtain ⟨passed, hpassed⟩ := Option.isSome_iff_exists.1 hsome
  have hlength := length_resolve hpassed
  rw [hpassed]
  cases passed with
  | nil =>
    simp only [List.length_nil] at hlength
    simp only [ne_eq, not_true_eq_false, false_iff]
    omega
  | cons last above =>
    simp only [List.length_cons] at hlength
    simp only [ne_eq, Option.some.injEq, reduceCtorEq, not_false_eq_true, true_iff]
    omega

/-- A path whose only parent may be its last component stays below its start when it has more
names than parents. -/
theorem staysBelow_concat_iff {front : List (List Char)} {last : List Char}
    (h : parent ∉ front) :
    StaysBelow (front ++ [last]) ↔ parents (front ++ [last]) < names (front ++ [last]) := by
  rw [staysBelow_iff]
  refine ⟨fun hstays => hstays.2, fun hless => ⟨fun begin hbegin => ?_, hless⟩⟩
  rcases List.prefix_concat_iff.1 hbegin with rfl | hbegin
  · exact Nat.le_of_lt hless
  · have hnone : parents begin = 0 :=
      List.count_eq_zero.2 fun hmem => h (hbegin.subset hmem)
    omega

/-! ## Cutting a path -/

/-- Joined components, one of which is followed by others. -/
theorem intercalate_append {α : Type*} (sep : List α) {front rest : List (List α)}
    (hfront : front ≠ []) (hrest : rest ≠ []) :
    sep.intercalate (front ++ rest) = sep.intercalate front ++ sep ++ sep.intercalate rest := by
  induction front with
  | nil => exact absurd rfl hfront
  | cons c front ih =>
    cases front with
    | nil =>
      rw [List.singleton_append, List.intercalate_cons_of_ne_nil hrest, List.intercalate_singleton]
    | cons c' front =>
      rw [List.cons_append, List.intercalate_cons_of_ne_nil (by simp),
        List.intercalate_cons_of_ne_nil (by simp), ih (by simp)]
      simp only [List.append_assoc]

end LexicalPath
