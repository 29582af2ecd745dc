import HobitQueue.Lib.CanonicalForm
import HobitQueue.Lib.Entries
import HobitQueue.Workflow.RunSteps
import HobitQueue.Workflow.Setup

/-!
# The merge of reported slot bindings

A report adds the fields that are not stored and leaves the stored ones as they are. A field
that is stored with another value is a conflict, and an entry that is no object, or a text
that grows too long, is refused.

## Main results

* `runner_report_merge_exact` — what a merge does, for every stored and reported object.
-/

namespace HobitQueue

open Json

/-! ## The fields of one binding -/

theorem Json.isNull_eq_false {v : Json} : v.isNull = false ↔ v ≠ .null := by
  cases v <;> simp [isNull]

/-- The value a report brings for a field: one that is not `null`. -/
def reportedField (fields : List (String × Json)) (key : String) : Option Json :=
  (fields.lookup key).filter (!·.isNull)

/-- Two values of a field that a report does not unite. -/
def fieldsDiffer (existing incoming : Json) : Prop :=
  existing ≠ .null ∧ incoming ≠ .null ∧ existing.canonicalString ≠ incoming.canonicalString

section Fields

variable {workflowRunId slot : String} {incoming fields fields' : List (String × Json)}
  {changed changed' : Bool}

theorem reportedField_cons_of_ne {key field : String} (h : key ≠ field) (v : Json) :
    reportedField ((field, v) :: incoming) key = reportedField incoming key := by
  have hne : (key == field) = false := by simpa using h
  rw [reportedField, List.lookup_cons, hne, reportedField]

theorem reportedField_cons_self (key : String) (v : Json) :
    reportedField ((key, v) :: incoming) key = (some v).filter (!·.isNull) := by
  rw [reportedField, List.lookup_cons, beq_self_eq_true]

/-- **A stored field stays, and a reported one is there when none was stored.** -/
theorem lookup_mergeBindingFields (hkeys : (incoming.map Prod.fst).Nodup)
    (h : mergeBindingFields workflowRunId slot incoming (fields, changed) =
      .ok (fields', changed')) (key : String) :
    fields'.lookup key = (fields.lookup key).or (reportedField incoming key) := by
  induction incoming generalizing fields changed with
  | nil =>
    obtain ⟨rfl, -⟩ := Prod.mk.inj (Except.ok.inj h)
    exact (Option.or_none).symm
  | cons entry rest ih =>
    obtain ⟨field, value⟩ := entry
    obtain ⟨hfield, hrest⟩ := List.nodup_cons.1 hkeys
    have habsent : reportedField rest field = none := by
      rw [reportedField, lookup_of_notMem hfield]
      rfl
    rw [mergeBindingFields] at h
    by_cases hkey : key = field
    · subst hkey
      rw [reportedField_cons_self]
      split at h
      · next hnull =>
        rw [ih hrest h, habsent, Option.filter_some, hnull]
        rfl
      · next hvalue =>
        split at h
        · next existing hexisting =>
          split at h
          · cases h
          · rw [ih hrest h, hexisting, Option.some_or, Option.some_or]
        · next hnone =>
          rw [ih hrest h, lookup_insertMember_self, hnone, Option.some_or, Option.none_or,
            Option.filter_some, Bool.eq_false_iff.2 hvalue]
          rfl
    · rw [reportedField_cons_of_ne hkey]
      split at h
      · exact ih hrest h
      · split at h
        · split at h
          · cases h
          · exact ih hrest h
        · rw [ih hrest h, lookup_insertMember_of_ne hkey]

/-- A field that a report unites with a stored one has the stored value. -/
theorem mergeBindingFields_agree (hkeys : (incoming.map Prod.fst).Nodup)
    (h : mergeBindingFields workflowRunId slot incoming (fields, changed) =
      .ok (fields', changed')) {key : String} {v w : Json} (hv : fields.lookup key = some v)
    (hw : incoming.lookup key = some w) : ¬fieldsDiffer v w := by
  induction incoming generalizing fields changed with
  | nil => cases hw
  | cons entry rest ih =>
    obtain ⟨field, value⟩ := entry
    obtain ⟨hfield, hrest⟩ := List.nodup_cons.1 hkeys
    rw [mergeBindingFields] at h
    rintro ⟨hv', hw', hne⟩
    by_cases hkey : key = field
    · subst hkey
      rw [List.lookup_cons, beq_self_eq_true, Option.some.injEq] at hw
      subst hw
      have hnull : value.isNull = false := Json.isNull_eq_false.2 hw'
      have hnull' : v.isNull = false := Json.isNull_eq_false.2 hv'
      have hdiffer : (v.canonicalString != value.canonicalString) = true := by simpa using hne
      rw [hnull, hv] at h
      simp only [Bool.false_eq_true, ↓reduceIte, hnull', Bool.not_false, hdiffer, Bool.and_self,
        reduceCtorEq] at h
    · have hne' : (key == field) = false := by simpa using hkey
      rw [List.lookup_cons, hne'] at hw
      split at h
      · exact ih hrest h hv hw ⟨hv', hw', hne⟩
      · split at h
        · split at h
          · cases h
          · exact ih hrest h hv hw ⟨hv', hw', hne⟩
        · refine ih hrest h ?_ hw ⟨hv', hw', hne⟩
          rw [lookup_insertMember_of_ne hkey, hv]

/-- A merge that changes nothing found nothing to add. -/
theorem mergeBindingFields_unchanged
    (h : mergeBindingFields workflowRunId slot incoming (fields, changed) =
      .ok (fields', false)) : changed = false ∧ fields' = fields := by
  induction incoming generalizing fields changed with
  | nil =>
    obtain ⟨rfl, rfl⟩ := Prod.mk.inj (Except.ok.inj h)
    exact ⟨rfl, rfl⟩
  | cons entry rest ih =>
    obtain ⟨field, value⟩ := entry
    rw [mergeBindingFields] at h
    split at h
    · exact ih h
    · split at h
      · split at h
        · cases h
        · exact ih h
      · exact absurd (ih h).1 (by decide)

/-- **The fields of a binding are refused for one that differs.** -/
theorem mergeBindingFields_error (hkeys : (incoming.map Prod.fst).Nodup)
    {e : RunnerReportSlotBindingMergeError}
    (h : mergeBindingFields workflowRunId slot incoming (fields, changed) = .error e) :
    ∃ key v w, fields.lookup key = some v ∧ incoming.lookup key = some w ∧ fieldsDiffer v w ∧
      e = .conflict (slotBindingMergeConflict workflowRunId slot key v w) := by
  induction incoming generalizing fields changed with
  | nil => cases h
  | cons entry rest ih =>
    obtain ⟨field, value⟩ := entry
    obtain ⟨hfield, hrest⟩ := List.nodup_cons.1 hkeys
    have hlater : ∀ {key w}, rest.lookup key = some w →
        key ≠ field ∧ ((field, value) :: rest).lookup key = some w := by
      intro key w hw
      have hne : key ≠ field := by
        rintro rfl
        rw [lookup_of_notMem hfield] at hw
        cases hw
      have hbeq : (key == field) = false := by simpa using hne
      exact ⟨hne, by rw [List.lookup_cons, hbeq, hw]⟩
    rw [mergeBindingFields] at h
    split at h
    · obtain ⟨key, v, w, hv, hw, hdiffer⟩ := ih hrest h
      exact ⟨key, v, w, hv, (hlater hw).2, hdiffer⟩
    · next hvalue =>
      split at h
      · next existing hexisting =>
        split at h
        · next hdiffer =>
          rw [Bool.and_eq_true, Bool.not_eq_true', Json.isNull_eq_false, bne_iff_ne] at hdiffer
          refine ⟨field, existing, value, hexisting, ?_,
            ⟨hdiffer.1, Json.isNull_eq_false.1 (Bool.eq_false_iff.2 hvalue), hdiffer.2⟩,
            (Except.error.inj h).symm⟩
          rw [List.lookup_cons, beq_self_eq_true]
        · obtain ⟨key, v, w, hv, hw, hdiffer⟩ := ih hrest h
          exact ⟨key, v, w, hv, (hlater hw).2, hdiffer⟩
      · obtain ⟨key, v, w, hv, hw, hdiffer⟩ := ih hrest h
        rw [lookup_insertMember_of_ne (hlater hw).1] at hv
        exact ⟨key, v, w, hv, (hlater hw).2, hdiffer⟩

/-- A stored binding that has every reported value already. -/
def Absorbs (fields incoming : List (String × Json)) : Prop :=
  ∀ entry ∈ incoming, entry.2 ≠ .null → ∃ v, fields.lookup entry.1 = some v ∧
    ¬fieldsDiffer v entry.2

/-- A binding with every reported value stays as it is. -/
theorem mergeBindingFields_of_absorbs (h : Absorbs fields incoming) (changed : Bool) :
    mergeBindingFields workflowRunId slot incoming (fields, changed) = .ok (fields, changed) := by
  induction incoming with
  | nil => rfl
  | cons entry rest ih =>
    obtain ⟨field, value⟩ := entry
    have hrest := ih fun entry hentry => h entry (List.mem_cons_of_mem _ hentry)
    rw [mergeBindingFields]
    by_cases hnull : value.isNull = true
    · rw [if_pos hnull, hrest]
    · have hvalue := Json.isNull_eq_false.1 (Bool.eq_false_iff.2 hnull)
      obtain ⟨v, hv, hsame⟩ := h (field, value) List.mem_cons_self hvalue
      have hunited : (!v.isNull && v.canonicalString != value.canonicalString) = false := by
        rw [Bool.eq_false_iff, Ne, Bool.and_eq_true, Bool.not_eq_true', Json.isNull_eq_false,
          bne_iff_ne]
        exact fun hdiffer => hsame ⟨hdiffer.1, hvalue, hdiffer.2⟩
      rw [if_neg hnull, hv]
      simp only [hunited, Bool.false_eq_true, ↓reduceIte, hrest]

/-- **A merged binding has every reported value.** -/
theorem absorbs_of_merge (hkeys : (incoming.map Prod.fst).Nodup)
    (h : mergeBindingFields workflowRunId slot incoming (fields, changed) =
      .ok (fields', changed')) : Absorbs fields' incoming := by
  rintro ⟨key, w⟩ hentry hw
  have hlookup := lookup_of_mem hkeys hentry
  have hafter := lookup_mergeBindingFields hkeys h key
  cases hstored : fields.lookup key with
  | some v =>
    rw [hstored, Option.some_or] at hafter
    exact ⟨v, hafter, mergeBindingFields_agree hkeys h hstored hlookup⟩
  | none =>
    rw [hstored, Option.none_or, reportedField, hlookup, Option.filter_some,
      Json.isNull_eq_false.2 hw] at hafter
    exact ⟨w, hafter, fun hdiffer => hdiffer.2.2 rfl⟩

/-- A merge of proper fields is proper. -/
theorem mergeBindingFields_proper (hincoming : ∀ entry ∈ incoming, entry.2.Proper)
    (hfields : (obj fields).Proper)
    (h : mergeBindingFields workflowRunId slot incoming (fields, changed) =
      .ok (fields', changed')) : (obj fields').Proper := by
  induction incoming generalizing fields changed with
  | nil =>
    obtain ⟨rfl, -⟩ := Prod.mk.inj (Except.ok.inj h)
    exact hfields
  | cons entry rest ih =>
    have hrest := fun entry hentry => hincoming entry (List.mem_cons_of_mem _ hentry)
    rw [mergeBindingFields] at h
    split at h
    · exact ih hrest hfields h
    · split at h
      · split at h
        · cases h
        · exact ih hrest hfields h
      · next habsent =>
        exact ih hrest (hfields.insertMember (hincoming _ List.mem_cons_self) habsent) h

end Fields

/-! ## The bindings of all slots -/

section Slots

variable {workflowRunId : String} {incoming bindings bindings' : List (String × Json)}
  {changed changed' : Bool}

/-- What a merge does to one slot: nothing when the report has no field for it, and otherwise
the fields are merged into the stored ones. -/
def SlotMerged (workflowRunId slot : String) (before after reported : Option Json) : Prop :=
  match reported with
  | none => after = before
  | some v => ∃ fields, v = .obj fields ∧
      if fields = [] then after = before
      else ∃ stored merged, ∃ changed changed' : Bool, before.getD (.obj []) = .obj stored ∧
        after = some (.obj merged) ∧
        mergeBindingFields workflowRunId slot fields (stored, changed) = .ok (merged, changed')

theorem eq_obj_of_asObject {v : Json} {members : List (String × Json)}
    (h : v.asObject = some members) : v = .obj members := by
  cases v with
  | obj fields => rw [asObject, Option.some.injEq] at h; rw [h]
  | null | bool _ | num _ | str _ | arr _ => cases h

/-- **Every slot is merged on its own.** -/
theorem mergeSlotBindings_slots (hkeys : (incoming.map Prod.fst).Nodup)
    (h : mergeSlotBindings workflowRunId incoming (bindings, changed) =
      .ok (bindings', changed')) (slot : String) :
    SlotMerged workflowRunId slot (bindings.lookup slot) (bindings'.lookup slot)
      (incoming.lookup slot) := by
  induction incoming generalizing bindings changed with
  | nil =>
    obtain ⟨rfl, -⟩ := Prod.mk.inj (Except.ok.inj h)
    exact rfl
  | cons entry rest ih =>
    obtain ⟨name, value⟩ := entry
    obtain ⟨hname, hrest⟩ := List.nodup_cons.1 hkeys
    rw [mergeSlotBindings] at h
    by_cases hslot : slot = name
    · subst hslot
      have hlater : rest.lookup slot = none := lookup_of_notMem hname
      rw [List.lookup_cons, beq_self_eq_true]
      split at h
      · cases h
      · next hobject =>
        have hmerged := ih hrest h
        rw [hlater] at hmerged
        exact ⟨[], eq_obj_of_asObject hobject, hmerged⟩
      · next fields hempty hobject =>
        split at h
        · cases h
        · next stored hstored =>
          obtain ⟨⟨merged, changed''⟩, hfields, h⟩ := except_bind_ok.1 h
          have hmerged := ih hrest h
          rw [hlater, lookup_insertMember_self] at hmerged
          refine ⟨fields, eq_obj_of_asObject hobject, ?_⟩
          rw [if_neg hempty]
          exact ⟨stored, merged, changed, changed'', eq_obj_of_asObject hstored, hmerged, hfields⟩
    · have hne : (slot == name) = false := by simpa using hslot
      rw [List.lookup_cons, hne]
      split at h
      · cases h
      · exact ih hrest h
      · split at h
        · cases h
        · obtain ⟨⟨merged, changed''⟩, -, h⟩ := except_bind_ok.1 h
          have hmerged := ih hrest h
          rwa [lookup_insertMember_of_ne hslot] at hmerged

/-- A merge of proper bindings keeps their order and is proper. -/
theorem mergeSlotBindings_proper (hincoming : ∀ entry ∈ incoming, entry.2.Proper)
    (hascending : Ascending bindings) (hbindings : ∀ entry ∈ bindings, entry.2.Proper)
    (h : mergeSlotBindings workflowRunId incoming (bindings, changed) =
      .ok (bindings', changed')) :
    Ascending bindings' ∧ ∀ entry ∈ bindings', entry.2.Proper := by
  induction incoming generalizing bindings changed with
  | nil =>
    obtain ⟨rfl, -⟩ := Prod.mk.inj (Except.ok.inj h)
    exact ⟨hascending, hbindings⟩
  | cons entry rest ih =>
    obtain ⟨name, value⟩ := entry
    have hrest := fun entry hentry => hincoming entry (List.mem_cons_of_mem _ hentry)
    rw [mergeSlotBindings] at h
    split at h
    · cases h
    · exact ih hrest hascending hbindings h
    · next fields _ hobject =>
      split at h
      · cases h
      · next stored hstored =>
        obtain ⟨⟨merged, changed''⟩, hmerge, h⟩ := except_bind_ok.1 h
        have hvalue := hincoming _ List.mem_cons_self
        rw [eq_obj_of_asObject hobject] at hvalue
        have hold : (obj stored).Proper := by
          rw [← eq_obj_of_asObject hstored]
          cases hlookup : bindings.lookup name with
          | none => exact ⟨List.nodup_nil, trivial⟩
          | some v => exact hbindings _ (mem_of_lookup hlookup)
        have hmerged := mergeBindingFields_proper (properMembers_iff.1 hvalue.2) hold hmerge
        refine ih hrest (hascending.insertMember _ _) (fun entry hentry => ?_) h
        rcases mem_insertMember hentry with rfl | hentry
        · exact hmerged
        · exact hbindings entry hentry

/-- A merge that changes nothing leaves every field as it is. -/
theorem mergeSlotBindings_unchanged
    (h : mergeSlotBindings workflowRunId incoming (bindings, changed) =
      .ok (bindings', false)) :
    changed = false ∧ ∀ slot key, fieldAt bindings' slot key = fieldAt bindings slot key := by
  induction incoming generalizing bindings changed with
  | nil =>
    obtain ⟨rfl, rfl⟩ := Prod.mk.inj (Except.ok.inj h)
    exact ⟨rfl, fun _ _ => rfl⟩
  | cons entry rest ih =>
    obtain ⟨name, value⟩ := entry
    rw [mergeSlotBindings] at h
    split at h
    · cases h
    · exact ih h
    · split at h
      · cases h
      · next stored hstored =>
        obtain ⟨⟨merged, changed''⟩, hfields, h⟩ := except_bind_ok.1 h
        obtain ⟨rfl, hlater⟩ := ih h
        obtain ⟨hchanged, rfl⟩ := mergeBindingFields_unchanged hfields
        refine ⟨hchanged, fun slot key => ?_⟩
        rw [hlater]
        by_cases hslot : slot = name
        · subst hslot
          rw [fieldAt_insertMember_self, fieldAt, ← eq_obj_of_asObject hstored]
          cases bindings.lookup slot <;> rfl
        · rw [fieldAt_insertMember_of_ne hslot]

/-- A reported entry that is no object, or fields for a stored entry that is none. -/
def NoObject (stored incoming : List (String × Json)) : Prop :=
  ∃ slot value, incoming.lookup slot = some value ∧
    (value.asObject = none ∨
      value ≠ .obj [] ∧ ∃ entry, stored.lookup slot = some entry ∧ entry.asObject = none)

/-- Two different values of one field of one slot. -/
def FieldConflict (workflowRunId : String) (stored incoming : List (String × Json))
    (conflict : QueueWorkflowConflict) : Prop :=
  ∃ slot field existing reported, fieldAt stored slot field = some existing ∧
    fieldAt incoming slot field = some reported ∧ fieldsDiffer existing reported ∧
    conflict = slotBindingMergeConflict workflowRunId slot field existing reported

/-- What an error of the merge says about the bindings. -/
def MergeRefused (workflowRunId : String) (stored incoming : List (String × Json)) :
    RunnerReportSlotBindingMergeError → Prop
  | .conflict conflict => FieldConflict workflowRunId stored incoming conflict
  | .invalid _ => NoObject stored incoming

/-- A later entry is found, and has a name of its own. -/
theorem lookup_later {name slot : String} {w : Json} (hname : name ∉ incoming.map Prod.fst)
    (value : Json) (hw : incoming.lookup slot = some w) :
    slot ≠ name ∧ ((name, value) :: incoming).lookup slot = some w := by
  have hne : slot ≠ name := by
    rintro rfl
    rw [lookup_of_notMem hname] at hw
    cases hw
  have hbeq : (slot == name) = false := by simpa using hne
  exact ⟨hne, by rw [List.lookup_cons, hbeq, hw]⟩

/-- What is wrong with the later entries is wrong with all of them. -/
theorem MergeRefused.cons {name : String} {value : Json} {others : List (String × Json)}
    {e : RunnerReportSlotBindingMergeError} (hname : name ∉ incoming.map Prod.fst)
    (hothers : ∀ slot, slot ≠ name → others.lookup slot = bindings.lookup slot)
    (h : MergeRefused workflowRunId others incoming e) :
    MergeRefused workflowRunId bindings ((name, value) :: incoming) e := by
  cases e with
  | conflict conflict =>
    obtain ⟨slot, field, v, w, hv, hw, hdiffer⟩ := h
    obtain ⟨binding, hbinding, hfield⟩ := Option.bind_eq_some_iff.1 hw
    obtain ⟨hne, hbinding⟩ := lookup_later hname value hbinding
    refine ⟨slot, field, v, w, ?_, ?_, hdiffer⟩
    · rw [fieldAt, ← hothers slot hne]
      exact hv
    · rw [fieldAt, hbinding]
      exact hfield
  | invalid blocker =>
    obtain ⟨slot, w, hw, hnone⟩ := h
    obtain ⟨hne, hw⟩ := lookup_later hname value hw
    rw [hothers slot hne] at hnone
    exact ⟨slot, w, hw, hnone⟩

/-- **Bindings are refused for an entry that is no object, or for a field that differs.** -/
theorem mergeSlotBindings_error (hkeys : (incoming.map Prod.fst).Nodup)
    (hfields : ∀ entry ∈ incoming, ∀ fields, entry.2 = .obj fields →
      (fields.map Prod.fst).Nodup)
    {e : RunnerReportSlotBindingMergeError}
    (h : mergeSlotBindings workflowRunId incoming (bindings, changed) = .error e) :
    MergeRefused workflowRunId bindings incoming e := by
  induction incoming generalizing bindings changed with
  | nil => cases h
  | cons entry rest ih =>
    obtain ⟨name, value⟩ := entry
    obtain ⟨hname, hrest⟩ := List.nodup_cons.1 hkeys
    have hfirst : ((name, value) :: rest).lookup name = some value := by
      rw [List.lookup_cons, beq_self_eq_true]
    have hrestFields := fun entry hentry => hfields entry (List.mem_cons_of_mem _ hentry)
    rw [mergeSlotBindings] at h
    split at h
    · next hnone =>
      obtain rfl := Except.error.inj h
      exact ⟨name, value, hfirst, Or.inl hnone⟩
    · exact (ih hrest hrestFields h).cons hname fun _ _ => rfl
    · next fields hempty hobject =>
      have hvalue := eq_obj_of_asObject hobject
      split at h
      · next hnone =>
        obtain rfl := Except.error.inj h
        cases hentry : bindings.lookup name with
        | none => rw [hentry] at hnone; cases hnone
        | some entry =>
          rw [hentry, Option.getD_some] at hnone
          refine ⟨name, value, hfirst, Or.inr ⟨?_, entry, hentry, hnone⟩⟩
          rw [hvalue, Ne, obj.injEq]
          exact hempty
      · next stored hstored =>
        cases hmerge : mergeBindingFields workflowRunId name fields (stored, changed) with
        | ok merged =>
          rw [hmerge] at h
          exact (ih hrest hrestFields h).cons hname
            fun slot hne => lookup_insertMember_of_ne hne _ _
        | error e' =>
          rw [hmerge] at h
          obtain rfl := Except.error.inj h
          obtain ⟨key, v, w, hv, hw, hdiffer, rfl⟩ :=
            mergeBindingFields_error (hfields _ List.mem_cons_self fields hvalue) hmerge
          refine ⟨name, key, v, w, ?_, ?_, hdiffer, rfl⟩
          · cases hentry : bindings.lookup name with
            | none =>
              rw [hentry, Option.getD_none, asObject, Option.some.injEq] at hstored
              rw [← hstored] at hv
              cases hv
            | some entry =>
              rw [hentry, Option.getD_some] at hstored
              rw [fieldAt, hentry, Option.bind_some, eq_obj_of_asObject hstored]
              exact hv
          · rw [fieldAt, hfirst, Option.bind_some, hvalue]
            exact hw

/-- **Bindings that have every reported value stay as they are.** -/
theorem mergeSlotBindings_of_absorbs (changed : Bool)
    (h : ∀ entry ∈ incoming, ∃ fields, entry.2 = .obj fields ∧
      (fields = [] ∨ ∃ stored, bindings.lookup entry.1 = some (.obj stored) ∧
        Absorbs stored fields)) :
    ∃ after, mergeSlotBindings workflowRunId incoming (bindings, changed) =
      .ok (after, changed) := by
  induction incoming generalizing bindings with
  | nil => exact ⟨bindings, rfl⟩
  | cons entry rest ih =>
    obtain ⟨name, value⟩ := entry
    obtain ⟨fields, rfl, hstored⟩ := h (name, value) List.mem_cons_self
    have hrest := fun entry hentry => h entry (List.mem_cons_of_mem _ hentry)
    rw [mergeSlotBindings, asObject]
    cases fields with
    | nil => exact ih hrest
    | cons field fields =>
      rcases hstored with hempty | ⟨stored, hlookup, habsorbs⟩
      · cases hempty
      · have hlater : ∀ entry ∈ rest, ∃ fields, entry.2 = .obj fields ∧
            (fields = [] ∨ ∃ stored', (insertMember name (.obj stored) bindings).lookup entry.1 =
              some (.obj stored') ∧ Absorbs stored' fields) := by
          intro entry hentry
          obtain ⟨fields', hobject, hcase⟩ := hrest entry hentry
          refine ⟨fields', hobject, ?_⟩
          rcases hcase with hempty | ⟨stored', hlookup', habsorbs'⟩
          · exact Or.inl hempty
          refine Or.inr ⟨stored', ?_, habsorbs'⟩
          by_cases hslot : entry.1 = name
          · rw [hslot] at hlookup' ⊢
            rw [lookup_insertMember_self, ← hlookup, hlookup']
          · rw [lookup_insertMember_of_ne hslot, hlookup']
        obtain ⟨after, hmerge⟩ := ih hlater
        refine ⟨after, ?_⟩
        simp only [hlookup, Option.getD_some, asObject]
        rw [mergeBindingFields_of_absorbs habsorbs]
        exact hmerge

end Slots

/-! ## The merge -/

/-- An object of bindings as the parser reads it: its keys ascend, and in no object is a key
there twice. -/
structure SlotBindingsObject where
  members : List (String × Json)
  ascending : Ascending members
  proper : (Json.obj members).Proper

/-- The text of an object of bindings. -/
def SlotBindingsObject.text (bindings : SlotBindingsObject) : JsonText :=
  .value (.obj bindings.members)

theorem SlotBindingsObject.slots_nodup (bindings : SlotBindingsObject) :
    (bindings.members.map Prod.fst).Nodup := bindings.proper.1

theorem SlotBindingsObject.fields_nodup (bindings : SlotBindingsObject) :
    ∀ entry ∈ bindings.members, ∀ fields, entry.2 = .obj fields →
      (fields.map Prod.fst).Nodup := by
  intro entry hentry fields hobject
  have hproper := properMembers_iff.1 bindings.proper.2 entry hentry
  rw [hobject] at hproper
  exact hproper.1

/-- The bindings after a report: what was stored stays, what is reported is there, and
nothing else is. A slot is as it was, or an object that was one before or not there. Of a field
that is stored as `null` nothing is said but that it is stored or reported. -/
structure ExactMerge (stored incoming after : List (String × Json)) : Prop where
  proper : (Json.obj after).Proper
  kept : ∀ slot field v, fieldAt stored slot field = some v → v ≠ .null →
    fieldAt after slot field = some v
  reported : ∀ slot field v, fieldAt incoming slot field = some v → v ≠ .null →
    fieldAt stored slot field ≠ some .null →
      ∃ w, fieldAt after slot field = some w ∧ w.canonicalString = v.canonicalString
  added : ∀ slot field v, fieldAt after slot field = some v →
    fieldAt stored slot field = some v ∨
      ((∀ w, fieldAt stored slot field = some w → w = .null) ∧
        fieldAt incoming slot field = some v ∧ v ≠ .null)
  unnamed : ∀ slot, incoming.lookup slot = none → after.lookup slot = stored.lookup slot
  named : ∀ slot, after.lookup slot = stored.lookup slot ∨
    ∃ before fields, (stored.lookup slot).getD (.obj []) = .obj before ∧
      after.lookup slot = some (.obj fields)

/-- The bindings are no objects where they must be, or the merged text is too long. -/
def Unmergeable (stored incoming : List (String × Json)) : Prop :=
  NoObject stored incoming ∨ ∃ after, ExactMerge stored incoming after ∧
    maxWorkflowSlotBindingsJsonBytes < utf8Length (Json.obj after).canonicalString

/-- The column of a run after the update of a report. -/
def reportedColumn (run : AgentQueueWorkflowRunRow) (update : AgentQueueWorkflowRunReportUpdate)
    (stored : JsonText) (merged : Option JsonText) : Option JsonText :=
  (AgentQueueWorkflowRunReportUpdate.apply { update with slotBindingsJson := merged }
    { run with slotBindingsJson := some stored }).slotBindingsJson

theorem reportedColumn_eq (run : AgentQueueWorkflowRunRow)
    (update : AgentQueueWorkflowRunReportUpdate) (stored : JsonText) (merged : Option JsonText) :
    reportedColumn run update stored merged = merged.or (some stored) := rfl

section Merge

variable {workflowRunId : String} {incoming bindings bindings' : List (String × Json)}

/-- A field of a merged slot. -/
theorem SlotMerged.field {slot : String} {before after reported : Option Json}
    (h : SlotMerged workflowRunId slot before after reported)
    (hfields : ∀ fields, reported = some (.obj fields) → (fields.map Prod.fst).Nodup)
    (key : String) :
    after.bind (·.field key) = (before.bind (·.field key)).or
      ((reported.bind (·.field key)).filter (!·.isNull)) := by
  cases reported with
  | none => rw [show after = before from h, Option.bind_none, Option.filter_none, Option.or_none]
  | some v =>
    obtain ⟨fields, rfl, h⟩ := h
    split at h
    · next hempty =>
      rw [h, hempty]
      exact (Option.or_none).symm
    · obtain ⟨stored, merged, _, _, hstored, rfl, hmerge⟩ := h
      have hbefore : before.bind (·.field key) = stored.lookup key := by
        cases before with
        | none =>
          rw [Option.getD_none, obj.injEq] at hstored
          rw [← hstored]
          rfl
        | some entry =>
          rw [Option.getD_some] at hstored
          rw [hstored]
          rfl
      rw [hbefore]
      exact lookup_mergeBindingFields (hfields fields rfl) hmerge key

/-- Values of a field that a merge unites. -/
theorem SlotMerged.agree {slot key : String} {before after reported : Option Json}
    (h : SlotMerged workflowRunId slot before after reported)
    (hfields : ∀ fields, reported = some (.obj fields) → (fields.map Prod.fst).Nodup)
    {v w : Json} (hv : before.bind (·.field key) = some v)
    (hw : reported.bind (·.field key) = some w) : ¬fieldsDiffer v w := by
  cases reported with
  | none => cases hw
  | some value =>
    obtain ⟨fields, rfl, h⟩ := h
    split at h
    · next hempty =>
      rw [hempty] at hw
      cases hw
    · obtain ⟨stored, merged, _, _, hstored, rfl, hmerge⟩ := h
      refine mergeBindingFields_agree (hfields fields rfl) hmerge ?_ hw
      obtain ⟨entry, rfl, hfield⟩ := Option.bind_eq_some_iff.1 hv
      rw [Option.getD_some] at hstored
      rw [hstored] at hfield
      exact hfield

/-- Every slot merged on its own makes an exact merge. -/
theorem exactMerge_of_slots (hproper : (Json.obj bindings').Proper)
    (hfields : ∀ slot fields, incoming.lookup slot = some (.obj fields) →
      (fields.map Prod.fst).Nodup)
    (h : ∀ slot, SlotMerged workflowRunId slot (bindings.lookup slot) (bindings'.lookup slot)
      (incoming.lookup slot)) : ExactMerge bindings incoming bindings' := by
  have hfield : ∀ slot key, fieldAt bindings' slot key = (fieldAt bindings slot key).or
      ((fieldAt incoming slot key).filter (!·.isNull)) :=
    fun slot key => (h slot).field (hfields slot) key
  refine ⟨hproper, ?_, ?_, ?_, ?_, ?_⟩
  · intro slot field v hv _
    rw [hfield, hv, Option.some_or]
  · intro slot field v hv hvalue hstored
    rw [hfield]
    cases hold : fieldAt bindings slot field with
    | none =>
      refine ⟨v, ?_, rfl⟩
      rw [hv, Option.none_or, Option.filter_some, Json.isNull_eq_false.2 hvalue]
      rfl
    | some w =>
      refine ⟨w, Option.some_or, ?_⟩
      by_contra hne
      refine (h slot).agree (hfields slot) hold hv ⟨?_, hvalue, hne⟩
      rintro rfl
      exact hstored hold
  · intro slot field v hv
    rw [hfield] at hv
    cases hold : fieldAt bindings slot field with
    | some w =>
      rw [hold, Option.some_or] at hv
      exact Or.inl hv
    | none =>
      rw [hold, Option.none_or, Option.filter_eq_some_iff] at hv
      refine Or.inr ⟨fun w hw => (nomatch hw), hv.1, ?_⟩
      rw [← Json.isNull_eq_false, ← Bool.not_eq_true']
      exact hv.2
  · intro slot hnone
    have hslot := h slot
    rw [hnone] at hslot
    exact hslot
  · intro slot
    have hslot := h slot
    cases hreported : incoming.lookup slot with
    | none =>
      rw [hreported] at hslot
      exact Or.inl hslot
    | some value =>
      rw [hreported] at hslot
      obtain ⟨fields, -, hslot⟩ := hslot
      split at hslot
      · exact Or.inl hslot
      · obtain ⟨stored, merged, _, _, hstored, hafter, -⟩ := hslot
        exact Or.inr ⟨stored, merged, hstored, hafter⟩

/-- Bindings with the fields of others are merged like them. -/
theorem ExactMerge.of_fields {after : List (String × Json)}
    (h : ExactMerge bindings incoming after) (hproper : (Json.obj bindings).Proper)
    (hsame : ∀ slot key, fieldAt after slot key = fieldAt bindings slot key) :
    ExactMerge bindings incoming bindings := by
  refine ⟨hproper, fun _ _ _ hv _ => hv, ?_, fun _ _ _ hv => Or.inl hv, fun _ _ => rfl,
    fun _ => Or.inl rfl⟩
  intro slot field v hv hvalue hstored
  rw [← hsame]
  exact h.reported slot field v hv hvalue hstored

/-- **A merged report is merged again without a change.** -/
theorem mergeSlotBindings_again (hkeys : (incoming.map Prod.fst).Nodup)
    (hfields : ∀ entry ∈ incoming, ∀ fields, entry.2 = .obj fields →
      (fields.map Prod.fst).Nodup) {changed changed' : Bool}
    (h : mergeSlotBindings workflowRunId incoming (bindings, changed) =
      .ok (bindings', changed')) :
    ∃ after, mergeSlotBindings workflowRunId incoming (bindings', false) = .ok (after, false) := by
  refine mergeSlotBindings_of_absorbs false fun entry hentry => ?_
  have hslot := mergeSlotBindings_slots hkeys h entry.1
  rw [lookup_of_mem hkeys hentry] at hslot
  obtain ⟨fields, hobject, hmerged⟩ := hslot
  refine ⟨fields, hobject, ?_⟩
  split at hmerged
  · next hempty => exact Or.inl hempty
  · obtain ⟨stored, merged, _, _, -, hafter, hmerge⟩ := hmerged
    exact Or.inr ⟨merged, hafter, absorbs_of_merge (hfields entry hentry fields hobject) hmerge⟩

end Merge

/-- The merge of two objects, one of them with a slot. -/
theorem mergeRunnerReportSlotBindings_objects (workflowRunId : String)
    (stored incoming : List (String × Json)) (hslot : incoming ≠ []) :
    mergeRunnerReportSlotBindings workflowRunId (some (.value (.obj stored)))
        (some (.value (.obj incoming))) =
      (mergeSlotBindings workflowRunId incoming (stored, false)).bind fun (merged, changed) =>
        if !changed then .ok none
        else if maxWorkflowSlotBindingsJsonBytes <
            utf8Length (Json.obj merged).canonicalString then
          .error (invalidSlotBindings "workflow_json_too_large" ("Queue workflow merged " ++
            "slotBindings JSON exceeds the configured byte limit."))
        else .ok (some (.value (.obj merged))) := by
  cases incoming with
  | nil => exact absurd rfl hslot
  | cons entry rest => rfl

/-- **A report is merged exactly.** Whatever is stored and whatever is reported: a conflict is
of a field with two values, a refusal is of bindings that are no objects or grow too long,
and otherwise the update leaves the exact merge, into which the report is merged again
without a change. -/
theorem runner_report_merge_exact (workflowRunId : String)
    (stored incoming : SlotBindingsObject) (run : AgentQueueWorkflowRunRow)
    (update : AgentQueueWorkflowRunReportUpdate) :
    match mergeRunnerReportSlotBindings workflowRunId (some stored.text) (some incoming.text) with
    | .error (.conflict conflict) =>
        FieldConflict workflowRunId stored.members incoming.members conflict
    | .error (.invalid _) => Unmergeable stored.members incoming.members
    | .ok merged => ∃ after, reportedColumn run update stored.text merged =
          some (.value (.obj after)) ∧ ExactMerge stored.members incoming.members after ∧
        mergeRunnerReportSlotBindings workflowRunId
          (reportedColumn run update stored.text merged) (some incoming.text) = .ok none := by
  by_cases hslot : incoming.members = []
  · have hnone : ∀ column, mergeRunnerReportSlotBindings workflowRunId column
        (some incoming.text) = .ok none := by
      intro column
      rw [SlotBindingsObject.text, hslot]
      rfl
    rw [hnone]
    refine ⟨stored.members, rfl, ?_, hnone _⟩
    rw [hslot]
    exact ⟨stored.proper, fun _ _ _ hv _ => hv, fun _ _ _ hv => (nomatch hv),
      fun _ _ _ hv => Or.inl hv, fun _ _ => rfl, fun _ => Or.inl rfl⟩
  · have hmerge := mergeRunnerReportSlotBindings_objects workflowRunId
    rw [SlotBindingsObject.text, SlotBindingsObject.text, hmerge _ _ hslot]
    cases hslots : mergeSlotBindings workflowRunId incoming.members (stored.members, false) with
    | error e =>
      have hwrong := mergeSlotBindings_error incoming.slots_nodup incoming.fields_nodup hslots
      cases e with
      | conflict conflict => exact hwrong
      | invalid blocker => exact Or.inl hwrong
    | ok merged =>
      obtain ⟨after, changed⟩ := merged
      have hexact : ExactMerge stored.members incoming.members after := by
        refine exactMerge_of_slots ?_ (fun slot fields hlookup => ?_)
          (mergeSlotBindings_slots incoming.slots_nodup hslots)
        · have hafter := mergeSlotBindings_proper (properMembers_iff.1 incoming.proper.2)
            stored.ascending (properMembers_iff.1 stored.proper.2) hslots
          exact ⟨hafter.1.nodup, properMembers_iff.2 hafter.2⟩
        · exact incoming.fields_nodup _ (mem_of_lookup hlookup) fields rfl
      rw [Except.bind]
      cases changed with
      | false =>
        obtain ⟨-, hsame⟩ := mergeSlotBindings_unchanged hslots
        refine ⟨stored.members, rfl, hexact.of_fields stored.proper hsame, ?_⟩
        rw [reportedColumn_eq, Option.none_or, hmerge _ _ hslot, hslots]
        rfl
      | true =>
        by_cases hlimit : maxWorkflowSlotBindingsJsonBytes <
            utf8Length (Json.obj after).canonicalString
        · simp only [Bool.not_true, Bool.false_eq_true, ↓reduceIte, hlimit]
          exact Or.inr ⟨after, hexact, hlimit⟩
        · simp only [Bool.not_true, Bool.false_eq_true, ↓reduceIte, hlimit]
          refine ⟨after, rfl, hexact, ?_⟩
          obtain ⟨again, hagain⟩ := mergeSlotBindings_again incoming.slots_nodup
            incoming.fields_nodup hslots
          rw [reportedColumn_eq, Option.some_or, hmerge _ _ hslot, hagain]
          rfl

/-- Fields reported for a slot that is stored as a number are neither a conflict nor merged. -/
theorem report_of_unmergeable_slot :
    ¬((∃ conflict, mergeRunnerReportSlotBindings "run" (some (.value (.obj [("a", .num "1")])))
        (some (.value (.obj [("a", .obj [("taskId", .str "t")])]))) =
          .error (.conflict conflict)) ∨
      ∃ merged, mergeRunnerReportSlotBindings "run" (some (.value (.obj [("a", .num "1")])))
        (some (.value (.obj [("a", .obj [("taskId", .str "t")])]))) = .ok merged) := by
  rintro (⟨conflict, h⟩ | ⟨merged, h⟩)
  · cases h
  · cases h

end HobitQueue
