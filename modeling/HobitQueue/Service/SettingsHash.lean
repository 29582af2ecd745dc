import HobitQueue.Lib.Framing
import HobitQueue.Service.StartContext

/-!
# What a confirmed hash stands for

The operator confirms settings and a target by their hashes. A hash is the FNV hash of a
canonical text of the snapshot, so that it stands for this snapshot as far as the text does
and the hash has no collision. A snapshot without an owner or an executor is hashed as if it
had a marker there.

## Main results

* `canonical_texts_determine_snapshots` — the text determines the marked snapshot, so equal
  hashes of different ones are a collision.
-/

namespace HobitQueue

def queueLocalNullOwnerHashMarker : String := "<queue-owner:null>"
def queueLocalNullExecutorHashMarker : String := "<executor:null>"

/-! ## Texts -/

namespace QueueWorkerStartSettingsSnapshot

variable (snapshot : QueueWorkerStartSettingsSnapshot)

def canonical : String :=
  canonicalFields [
    ("approval_policy", snapshot.approvalPolicy),
    ("codex_executable", snapshot.codexExecutable),
    ("execution_policy", snapshot.executionPolicy),
    ("execution_target_kind", snapshot.executionTargetKind),
    ("execution_workspace", snapshot.executionWorkspace),
    ("executor_widget_id", snapshot.executorWidgetId),
    ("provider_id", snapshot.providerId),
    ("queue_owner_widget_instance_id",
      snapshot.queueOwnerWidgetInstanceId.getD queueLocalNullOwnerHashMarker),
    ("sandbox", snapshot.sandbox)]

theorem stableHash_eq : snapshot.stableHash =
    "queue-settings-fnv1a64:" ++ hex16 (fnv1a64 snapshot.canonical) := rfl

/-- An absent owner is its marker. -/
def marked : QueueWorkerStartSettingsSnapshot :=
  { snapshot with
    queueOwnerWidgetInstanceId :=
      some (snapshot.queueOwnerWidgetInstanceId.getD queueLocalNullOwnerHashMarker) }

end QueueWorkerStartSettingsSnapshot

namespace QueueExecutionTargetSnapshot

variable (snapshot : QueueExecutionTargetSnapshot)

def canonical : String :=
  canonicalFields [
    ("execution_target_kind", snapshot.executionTargetKind),
    ("executor_widget_id", snapshot.executorWidgetId.getD queueLocalNullExecutorHashMarker),
    ("provider_id", snapshot.providerId),
    ("queue_owner_widget_instance_id",
      snapshot.queueOwnerWidgetInstanceId.getD queueLocalNullOwnerHashMarker)]

theorem stableHash_eq : snapshot.stableHash =
    "queue-execution-target-fnv1a64:" ++ hex16 (fnv1a64 snapshot.canonical) := rfl

/-- An absent owner or executor is its marker. -/
def marked : QueueExecutionTargetSnapshot :=
  { snapshot with
    queueOwnerWidgetInstanceId :=
      some (snapshot.queueOwnerWidgetInstanceId.getD queueLocalNullOwnerHashMarker)
    executorWidgetId :=
      some (snapshot.executorWidgetId.getD queueLocalNullExecutorHashMarker) }

end QueueExecutionTargetSnapshot

/-! ## The text determines the fields -/

theorem canonicalFields_eq (fields : List (String × String)) :
    canonicalFields fields = Framing.entries "|" fields := by
  have hentry : (fun e : String × String =>
      Nat.repr e.1.utf8ByteSize ++ ":" ++ e.1 ++ Nat.repr e.2.utf8ByteSize ++ ":" ++ e.2) =
        Framing.entry := by
    funext e
    simp only [Framing.entry, Framing.framed, String.append_assoc]
  rw [Framing.entries, ← hentry]
  rfl

theorem canonicalFields_inj {fields fields' : List (String × String)} :
    canonicalFields fields = canonicalFields fields' ↔ fields = fields' := by
  constructor
  · intro h
    rw [canonicalFields_eq, canonicalFields_eq] at h
    exact Framing.entries_inj (by decide) h
  · intro h
    rw [h]

theorem QueueWorkerStartSettingsSnapshot.canonical_eq_iff
    {a b : QueueWorkerStartSettingsSnapshot} : a.canonical = b.canonical ↔ a.marked = b.marked := by
  rw [canonical, canonical, canonicalFields_inj]
  simp only [List.cons.injEq, Prod.mk.injEq, true_and, and_true, marked,
    QueueWorkerStartSettingsSnapshot.mk.injEq, Option.some.injEq]
  tauto

theorem QueueExecutionTargetSnapshot.canonical_eq_iff
    {a b : QueueExecutionTargetSnapshot} : a.canonical = b.canonical ↔ a.marked = b.marked := by
  rw [canonical, canonical, canonicalFields_inj]
  simp only [List.cons.injEq, Prod.mk.injEq, true_and, and_true, marked,
    QueueExecutionTargetSnapshot.mk.injEq, Option.some.injEq]
  tauto

/-! ## The printed hash -/

/-- The value of a hexadecimal digit. -/
private def digitValue (c : Char) : ℕ :=
  ((List.range 16).find? fun d => d.digitChar == c).getD 0

private theorem digitValue_digitChar {d : ℕ} (h : d < 16) : digitValue d.digitChar = d := by
  decide +revert

private def hexValue (digits : List Char) : ℕ :=
  digits.foldl (fun value c => 16 * value + digitValue c) 0

private theorem hexValue_toDigits (n : ℕ) : hexValue (Nat.toDigits 16 n) = n := by
  induction n using Nat.strong_induction_on with
  | _ n ih =>
    by_cases hn : n < 16
    · rw [Nat.toDigits_of_lt_base hn]
      simp [hexValue, digitValue_digitChar hn]
    · have hfront := ih (n / 16) (by omega)
      rw [hexValue] at hfront
      rw [Nat.toDigits_of_base_le (by decide) (by omega), hexValue, List.foldl_append, hfront]
      have hlast := digitValue_digitChar (Nat.mod_lt n (by decide : 0 < 16))
      simp only [List.foldl_cons, List.foldl_nil, hlast]
      omega

private theorem hexValue_padded (k : ℕ) (digits : List Char) :
    hexValue (List.replicate k '0' ++ digits) = hexValue digits := by
  induction k with
  | zero => rfl
  | succ k ih =>
    have hzero : digitValue '0' = 0 := by decide
    rw [List.replicate_succ, List.cons_append, hexValue, List.foldl_cons, hzero]
    exact ih

theorem hex16_inj {n m : ℕ} (h : hex16 n = hex16 m) : n = m := by
  have hchars := congrArg (fun s => hexValue s.toList) h
  simpa only [hex16, String.toList_ofList, hexValue_padded, hexValue_toDigits] using hchars

/-! ## Hashes -/

/-- The FNV hash has the same value at two different texts. -/
def HashCollision (text text' : String) : Prop := text ≠ text' ∧ fnv1a64 text = fnv1a64 text'

private theorem printed_eq_iff {label text text' : String} :
    label ++ hex16 (fnv1a64 text) = label ++ hex16 (fnv1a64 text') ↔
      text = text' ∨ HashCollision text text' := by
  constructor
  · intro h
    have hchars := congrArg String.toList h
    simp only [String.toList_append] at hchars
    have hhash := hex16_inj (String.toList_inj.1 (List.append_cancel_left hchars))
    by_cases htext : text = text'
    · exact .inl htext
    · exact .inr ⟨htext, hhash⟩
  · rintro (rfl | ⟨-, hhash⟩)
    · rfl
    · rw [hhash]

theorem QueueWorkerStartSettingsSnapshot.stableHash_eq_iff
    {a b : QueueWorkerStartSettingsSnapshot} : a.stableHash = b.stableHash ↔
      a.marked = b.marked ∨ HashCollision a.canonical b.canonical := by
  rw [stableHash_eq, stableHash_eq, printed_eq_iff, canonical_eq_iff]

theorem QueueExecutionTargetSnapshot.stableHash_eq_iff
    {a b : QueueExecutionTargetSnapshot} : a.stableHash = b.stableHash ↔
      a.marked = b.marked ∨ HashCollision a.canonical b.canonical := by
  rw [stableHash_eq, stableHash_eq, printed_eq_iff, canonical_eq_iff]

/-- No optional field is given as its own marker. -/
def QueueWorkerStartSettingsSnapshot.Unmarked (snapshot : QueueWorkerStartSettingsSnapshot) :
    Prop :=
  snapshot.queueOwnerWidgetInstanceId ≠ some queueLocalNullOwnerHashMarker

/-- No optional field is given as its own marker. -/
def QueueExecutionTargetSnapshot.Unmarked (snapshot : QueueExecutionTargetSnapshot) : Prop :=
  snapshot.queueOwnerWidgetInstanceId ≠ some queueLocalNullOwnerHashMarker ∧
    snapshot.executorWidgetId ≠ some queueLocalNullExecutorHashMarker

/-- A field that is never its marker can be read off the field with its marker. -/
private theorem eq_of_getD_eq {α : Type} {x y : Option α} {marker : α}
    (h : x.getD marker = y.getD marker) (hx : x ≠ some marker) (hy : y ≠ some marker) :
    x = y := by
  cases x with
  | none =>
    cases y with
    | none => rfl
    | some y => exact absurd (congrArg some h.symm) hy
  | some x =>
    cases y with
    | none => exact absurd (congrArg some h) hx
    | some y => exact congrArg some h

private theorem settings_marked_injOn :
    Set.InjOn QueueWorkerStartSettingsSnapshot.canonical
      {snapshot | snapshot.Unmarked} := by
  intro a ha b hb h
  have hmarked := QueueWorkerStartSettingsSnapshot.canonical_eq_iff.1 h
  simp only [QueueWorkerStartSettingsSnapshot.marked, QueueWorkerStartSettingsSnapshot.mk.injEq,
    Option.some.injEq] at hmarked
  obtain ⟨h₁, h₂, h₃, h₄, h₅, h₆, h₇, howner, h₉⟩ := hmarked
  cases a
  cases b
  simp only [QueueWorkerStartSettingsSnapshot.mk.injEq]
  exact ⟨h₁, h₂, h₃, h₄, h₅, h₆, h₇, eq_of_getD_eq howner ha hb, h₉⟩

private theorem target_marked_injOn :
    Set.InjOn QueueExecutionTargetSnapshot.canonical {snapshot | snapshot.Unmarked} := by
  intro a ha b hb h
  have hmarked := QueueExecutionTargetSnapshot.canonical_eq_iff.1 h
  simp only [QueueExecutionTargetSnapshot.marked, QueueExecutionTargetSnapshot.mk.injEq,
    Option.some.injEq] at hmarked
  obtain ⟨h₁, h₂, howner, hexecutor⟩ := hmarked
  cases a
  cases b
  simp only [QueueExecutionTargetSnapshot.mk.injEq]
  exact ⟨h₁, h₂, eq_of_getD_eq howner ha.1 hb.1, eq_of_getD_eq hexecutor ha.2 hb.2⟩

/-- The canonical texts of two snapshots of a type are equal exactly when the snapshots are
equal once an absent owner or executor is read as its marker, and then, or in a collision of
the hash, the printed hashes are equal. Snapshots in which no optional field is given as its
own marker are equal when their texts are. -/
theorem canonical_texts_determine_snapshots :
    (∀ a b : QueueWorkerStartSettingsSnapshot,
      (a.canonical = b.canonical ↔ a.marked = b.marked) ∧
      (a.stableHash = b.stableHash ↔
        a.marked = b.marked ∨ HashCollision a.canonical b.canonical)) ∧
    (∀ a b : QueueExecutionTargetSnapshot,
      (a.canonical = b.canonical ↔ a.marked = b.marked) ∧
      (a.stableHash = b.stableHash ↔
        a.marked = b.marked ∨ HashCollision a.canonical b.canonical)) ∧
    Set.InjOn QueueWorkerStartSettingsSnapshot.canonical {snapshot | snapshot.Unmarked} ∧
    Set.InjOn QueueExecutionTargetSnapshot.canonical {snapshot | snapshot.Unmarked} := by
  refine ⟨fun a b => ⟨?_, ?_⟩, fun a b => ⟨?_, ?_⟩, settings_marked_injOn, target_marked_injOn⟩
  · exact QueueWorkerStartSettingsSnapshot.canonical_eq_iff
  · exact QueueWorkerStartSettingsSnapshot.stableHash_eq_iff
  · exact QueueExecutionTargetSnapshot.canonical_eq_iff
  · exact QueueExecutionTargetSnapshot.stableHash_eq_iff

/-- A target without an owner, and one whose owner is given as the marker. -/
private def ownedTarget (owner : Option String) : QueueExecutionTargetSnapshot :=
  { executionTargetKind := "queue_local"
    providerId := "codex"
    queueOwnerWidgetInstanceId := owner
    executorWidgetId := none }

private def ownedSettings (owner : Option String) : QueueWorkerStartSettingsSnapshot :=
  { executionWorkspace := "/repo"
    codexExecutable := "codex"
    sandbox := "workspace-write"
    approvalPolicy := "never"
    executionPolicy := "manual"
    executionTargetKind := "queue_local"
    providerId := "codex"
    queueOwnerWidgetInstanceId := owner
    executorWidgetId := "" }

/-- An absent owner and an owner given as the marker have the same text and the same hash,
in settings and in a target. -/
theorem absent_owner_hashes_as_marker :
    (∃ a b : QueueWorkerStartSettingsSnapshot,
      a.canonical = b.canonical ∧ a.stableHash = b.stableHash ∧
        a.queueOwnerWidgetInstanceId ≠ b.queueOwnerWidgetInstanceId) ∧
    (∃ a b : QueueExecutionTargetSnapshot,
      a.canonical = b.canonical ∧ a.stableHash = b.stableHash ∧
        a.queueOwnerWidgetInstanceId ≠ b.queueOwnerWidgetInstanceId) :=
  ⟨⟨ownedSettings none, ownedSettings (some "<queue-owner:null>"), rfl, rfl, by decide⟩,
    ⟨ownedTarget none, ownedTarget (some "<queue-owner:null>"), rfl, rfl, by decide⟩⟩

/-- Two targets with different kinds, whose fields hold digits, colons and bars. -/
theorem canonical_texts_of_two_targets :
    let a : QueueExecutionTargetSnapshot := ⟨"1:a|2:b", "", none, none⟩
    let b : QueueExecutionTargetSnapshot := ⟨"1:a|2:", "b", none, none⟩
    a.Unmarked ∧ b.Unmarked ∧ a.canonical ≠ b.canonical := by
  intro a b
  have ha : a.Unmarked := ⟨by decide, by decide⟩
  have hb : b.Unmarked := ⟨by decide, by decide⟩
  refine ⟨ha, hb, fun h => ?_⟩
  have hab := canonical_texts_determine_snapshots.2.2.2 ha hb h
  exact absurd (congrArg QueueExecutionTargetSnapshot.providerId hab) (by decide)

end HobitQueue
