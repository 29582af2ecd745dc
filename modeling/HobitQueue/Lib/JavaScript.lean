import Mathlib.Data.List.DropRight
import Mathlib.Data.List.Lemmas
import Mathlib.Data.String.Basic

/-!
# What a JavaScript program takes from its language

Texts lose the white space and the line terminators of the language at their ends, a `Map`
made of entries answers with the last entry of a key, `Map.set` rewrites a key in its place
and `Set.add` keeps the first occurrence of a value.

## Main definitions

* `trim` — `String.prototype.trim`.
* `nonEmptyTrim` — the trimmed text where an empty one counts as missing.
* `mapGet`, `mapSet`, `setAdd` — `Map` and `Set` over the list of their entries.
-/

namespace JavaScript

/-! ## Texts -/

/-- White space and line terminators; unlike `White_Space` they contain the byte order mark
and not the next-line character. -/
def isWhiteSpace (c : Char) : Bool :=
  let n := c.toNat
  (9 ≤ n && n ≤ 13) || n == 32 || n == 160 || n == 5760 || (8192 ≤ n && n ≤ 8202) ||
    n == 8232 || n == 8233 || n == 8239 || n == 8287 || n == 12288 || n == 65279

/-- `String.prototype.trim`. -/
def trim (s : String) : String :=
  String.ofList ((s.toList.dropWhile isWhiteSpace).rdropWhile isWhiteSpace)

/-- `s?.trim() || undefined`: the trimmed text, unless nothing is left of it. -/
def nonEmptyTrim (value : Option String) : Option String :=
  match value with
  | none => none
  | some s => if trim s = "" then none else some (trim s)

/-! ## Maps and sets -/

section Collections

variable {κ ν : Type*} [DecidableEq κ]

/-- `new Map(entries).get(key)`: a later entry replaces an earlier one of its key. -/
def mapGet (entries : List (κ × ν)) (key : κ) : Option ν :=
  (entries.reverse.find? (·.1 = key)).map (·.2)

/-- `map.set(key, value)`: the entry of a known key is rewritten where it stands. -/
def mapSet (entries : List (κ × ν)) (key : κ) (value : ν) : List (κ × ν) :=
  if entries.any (·.1 = key) then entries.map fun e => if e.1 = key then (key, value) else e
  else entries ++ [(key, value)]

/-- `set.add(value)`. -/
def setAdd (values : List κ) (value : κ) : List κ :=
  if value ∈ values then values else values ++ [value]

theorem mem_of_mapGet {entries : List (κ × ν)} {key : κ} {value : ν}
    (h : mapGet entries key = some value) : (key, value) ∈ entries := by
  rw [mapGet, Option.map_eq_some_iff] at h
  obtain ⟨⟨k, v⟩, hfind, rfl⟩ := h
  have hkey := List.find?_some hfind
  have hmem := List.mem_of_find?_eq_some hfind
  simp only [decide_eq_true_eq] at hkey
  subst hkey
  exact List.mem_reverse.1 hmem

theorem mapGet_eq_none {entries : List (κ × ν)} {key : κ} :
    mapGet entries key = none ↔ ∀ e ∈ entries, e.1 ≠ key := by
  simp [mapGet]

@[simp] theorem mem_setAdd {values : List κ} {value v : κ} :
    v ∈ setAdd values value ↔ v ∈ values ∨ v = value := by
  unfold setAdd
  split
  · rename_i h
    constructor
    · exact Or.inl
    · rintro (hv | rfl)
      · exact hv
      · exact h
  · simp

@[simp] theorem mem_foldl_setAdd {values more : List κ} {v : κ} :
    v ∈ more.foldl setAdd values ↔ v ∈ values ∨ v ∈ more := by
  induction more generalizing values with
  | nil => simp
  | cons value more ih => simp [ih, or_assoc]

theorem mapGet_map {μ : Type*} {image : ν → μ} {entries : List (κ × ν)} {key : κ} :
    mapGet (entries.map fun e => (e.1, image e.2)) key = (mapGet entries key).map image := by
  simp [mapGet, ← List.map_reverse, List.find?_map, Function.comp_def]

/-- What a `Map` holds after a `set` was in it before or is new. -/
theorem mem_mapSet {entries : List (κ × ν)} {key : κ} {value : ν} {e : κ × ν}
    (h : e ∈ mapSet entries key value) : e ∈ entries ∨ e = (key, value) := by
  unfold mapSet at h
  split_ifs at h
  · obtain ⟨before, hbefore, rfl⟩ := List.mem_map.1 h
    split_ifs
    · exact Or.inr rfl
    · exact Or.inl hbefore
  · simpa using h

theorem mapGet_mapSet {entries : List (κ × ν)} {key k : κ} {value : ν} :
    mapGet (mapSet entries key value) k = if k = key then some value else mapGet entries k := by
  unfold mapSet
  split_ifs with hknown hk hk
  · subst hk
    obtain ⟨e, he, hkey⟩ := List.any_eq_true.1 hknown
    have hfound : (entries.reverse.find? (·.1 = k)).isSome := by
      rw [List.find?_isSome]
      exact ⟨e, List.mem_reverse.2 he, hkey⟩
    obtain ⟨found, hfind⟩ := Option.isSome_iff_exists.1 hfound
    have hsame : (fun e : κ × ν => decide ((if e.1 = k then (k, value) else e).1 = k)) =
        fun e => decide (e.1 = k) := by
      ext e
      split_ifs with he <;> simp [he]
    have hfoundKey : found.1 = k := by simpa using List.find?_some hfind
    rw [mapGet, ← List.map_reverse, List.find?_map, Function.comp_def, hsame, hfind]
    simp [hfoundKey]
  · have hsame : (fun e : κ × ν => decide ((if e.1 = key then (key, value) else e).1 = k)) =
        fun e => decide (e.1 = k) := by
      ext e
      split_ifs with he
      · simp [he]
      · rfl
    rw [mapGet, mapGet, ← List.map_reverse, List.find?_map, Function.comp_def, hsame]
    cases hfind : entries.reverse.find? (fun e => decide (e.1 = k)) with
    | none => rfl
    | some found =>
      have hfoundKey : found.1 = k := by simpa using List.find?_some hfind
      simp [hfoundKey, hk]
  · simp [mapGet, hk]
  · have hne : ¬ key = k := fun heq => hk heq.symm
    simp [mapGet, hne]

end Collections

end JavaScript
