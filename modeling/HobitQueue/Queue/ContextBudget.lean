import HobitQueue.Service.Context

/-!
# The budget of the context

The snapshots of a prompt are cut to a budget. The budget is counted down in bytes, and what is
left of it is handed on as a number of characters, less the twelve of the mark of a cut. So the
contents stay within the budget as long as no content has more bytes than characters are left,
and no cut comes when less than the mark is left.

## Main results

* `capped_within_budget_iff` — the selection, and when it keeps to the budget.
-/

namespace HobitQueue

/-- A snapshot as it is selected: with its trimmed content, or with a start of that, trimmed at
its end and marked. -/
def CutSnapshot (snapshot selected : QueueTaskContextSnapshot) : Prop :=
  (selected = { snapshot with
      content := Text.trim snapshot.content
      tokenEstimate := estimateTokens (Text.trim snapshot.content) }) ∨
    ∃ start, start <+: (Text.trim snapshot.content).toList ∧
      selected = { snapshot with
        capped := true
        content := Text.trimEnd (String.ofList start) ++ truncatedMark
        tokenEstimate :=
          estimateTokens (Text.trimEnd (String.ofList start) ++ truncatedMark) }

/-- The bytes of the contents of some snapshots. -/
def contentBytes (snapshots : List QueueTaskContextSnapshot) : ℕ :=
  (snapshots.map fun snapshot => snapshot.content.utf8ByteSize).sum

/-- The start of a text that is kept when so much of the budget is left. -/
def keptStart (text : String) (remaining : ℕ) : String :=
  Text.trimEnd (String.ofList (text.toList.take (remaining - 12)))

/-- The bytes that a content takes when so much of the budget is left. -/
def takenBytes (content : String) (remaining : ℕ) : ℕ :=
  let text := Text.trim content
  if text.length ≤ remaining then text.utf8ByteSize
  else (keptStart text remaining).utf8ByteSize + 12

/-- A content with at most as many characters as are left has at most as many bytes. A longer one
comes while the mark is left, and the start that is kept has no more bytes than characters may
be kept. -/
def ContentFits (content : String) (remaining : ℕ) : Prop :=
  if (Text.trim content).length ≤ remaining then
    (Text.trim content).utf8ByteSize ≤ remaining
  else 12 ≤ remaining ∧
    (keptStart (Text.trim content) remaining).utf8ByteSize ≤ remaining - 12

/-- Each content fits what the ones before it leave of the budget. -/
def FitsBudget : ℕ → List String → Prop
  | _, [] => True
  | remaining, content :: rest =>
    remaining = 0 ∨
      ContentFits content remaining ∧
        FitsBudget (remaining - takenBytes content remaining) rest

theorem contentFits_iff (content : String) (remaining : ℕ) :
    ContentFits content remaining ↔ takenBytes content remaining ≤ remaining := by
  rw [ContentFits, takenBytes]
  by_cases h : (Text.trim content).length ≤ remaining
  · simp only [if_pos h]
  · simp only [if_neg h]
    omega

theorem utf8ByteSize_truncatedMark : truncatedMark.utf8ByteSize = 12 := by decide

theorem utf8ByteSize_boundedText (content : String) (remaining : ℕ) :
    (boundedText content remaining).1.utf8ByteSize = takenBytes content remaining := by
  rw [boundedText, takenBytes]
  by_cases h : (Text.trim content).length ≤ remaining
  · simp only [if_pos h]
  · simp only [if_neg h, keptStart, String.utf8ByteSize_append, utf8ByteSize_truncatedMark]

theorem cutSnapshot_bounded (snapshot : QueueTaskContextSnapshot) (remaining : ℕ) :
    CutSnapshot snapshot { snapshot with
      capped := snapshot.capped || (boundedText snapshot.content remaining).2
      content := (boundedText snapshot.content remaining).1
      tokenEstimate := estimateTokens (boundedText snapshot.content remaining).1 } := by
  rw [boundedText]
  by_cases h : (Text.trim snapshot.content).length ≤ remaining
  · left
    simp only [if_pos h, Bool.or_false]
  · right
    refine ⟨(Text.trim snapshot.content).toList.take (remaining - 12),
      List.take_prefix _ _, ?_⟩
    simp only [if_neg h, Bool.or_true]

/-- The selected snapshots are the first ones, each cut. -/
theorem forall₂_cutSnapshot (used : ℕ) (snapshots : List QueueTaskContextSnapshot) :
    List.Forall₂ CutSnapshot
      (snapshots.take (cappedSnapshotsFrom used snapshots).length)
      (cappedSnapshotsFrom used snapshots) := by
  induction snapshots generalizing used with
  | nil => exact List.Forall₂.nil
  | cons snapshot rest ih =>
    rw [cappedSnapshotsFrom]
    by_cases hused : contextCharBudget ≤ used
    · rw [if_pos hused]
      exact List.Forall₂.nil
    · rw [if_neg hused]
      simp only [List.length_cons, List.take_succ_cons]
      exact List.Forall₂.cons (cutSnapshot_bounded snapshot _) (ih _)

theorem contentBytes_cappedSnapshotsFrom {used : ℕ} (hused : used ≤ contextCharBudget)
    (snapshots : List QueueTaskContextSnapshot) :
    used + contentBytes (cappedSnapshotsFrom used snapshots) ≤ contextCharBudget ↔
      FitsBudget (contextCharBudget - used) (snapshots.map (·.content)) := by
  induction snapshots generalizing used with
  | nil => simp [cappedSnapshotsFrom, contentBytes, FitsBudget, hused]
  | cons snapshot rest ih =>
    rw [cappedSnapshotsFrom, List.map_cons, FitsBudget, contentFits_iff]
    by_cases hfull : contextCharBudget ≤ used
    · have hzero : contextCharBudget - used = 0 := by omega
      simp [if_pos hfull, contentBytes, hused, hzero]
    · have hpos : contextCharBudget - used ≠ 0 := by omega
      have hbytes := utf8ByteSize_boundedText snapshot.content (contextCharBudget - used)
      simp only [if_neg hfull, contentBytes, List.map_cons, List.sum_cons, hbytes, hpos, false_or]
      by_cases hfits : takenBytes snapshot.content (contextCharBudget - used) ≤
          contextCharBudget - used
      · have hrest := @ih (used + takenBytes snapshot.content (contextCharBudget - used))
          (by omega)
        rw [contentBytes] at hrest
        rw [Nat.sub_sub, ← hrest, Nat.add_assoc]
        simp only [hfits, true_and]
      · simp only [hfits, false_and, iff_false]
        omega

/-- **The selection of a context.** The snapshots of a prompt are the first ones, each trimmed,
or cut and marked; and together they keep to the budget exactly if no content outgrows it. -/
theorem capped_within_budget_iff (snapshots : List QueueTaskContextSnapshot) :
    (List.Forall₂ CutSnapshot
        (snapshots.take (cappedSnapshotsForPrompt snapshots).length)
        (cappedSnapshotsForPrompt snapshots) ∧
      contentBytes (cappedSnapshotsForPrompt snapshots) ≤ contextCharBudget) ↔
      FitsBudget contextCharBudget (snapshots.map (·.content)) := by
  have hbytes := contentBytes_cappedSnapshotsFrom (Nat.zero_le contextCharBudget) snapshots
  rw [Nat.zero_add, Nat.sub_zero] at hbytes
  rw [← hbytes]
  exact and_iff_right (forall₂_cutSnapshot 0 snapshots)

/-- A snapshot with a content of so many letters of two bytes. -/
def accentedSnapshot (n : ℕ) : QueueTaskContextSnapshot :=
  { capped := false
    content := String.ofList (List.replicate n (Char.ofNat 233))
    id := "snapshot"
    kind := "skill"
    materializedAt := "1"
    scope := "workspace"
    source := "local"
    sourceRefId := "skill"
    status := "active"
    title := "Skill"
    tokenEstimate := 1
    version := "1" }

theorem utf8ByteSize_replicate (n : ℕ) :
    (String.ofList (List.replicate n (Char.ofNat 233))).utf8ByteSize = 2 * n := by
  induction n with
  | zero => decide
  | succ n ih =>
    have hone : (String.ofList [Char.ofNat 233]).utf8ByteSize = 2 := by decide
    rw [List.replicate_succ, ← List.singleton_append, String.ofList_append,
      String.utf8ByteSize_append, ih, hone]
    omega

/-- As many such letters as the budget has characters take twice the budget. -/
theorem accented_content_outgrows_budget :
    ¬ contentBytes (cappedSnapshotsForPrompt [accentedSnapshot contextCharBudget]) ≤
      contextCharBudget := by
  have hbytes := contentBytes_cappedSnapshotsFrom (Nat.zero_le contextCharBudget)
    [accentedSnapshot contextCharBudget]
  rw [Nat.zero_add, Nat.sub_zero] at hbytes
  have htrim : Text.trim (accentedSnapshot contextCharBudget).content =
      (accentedSnapshot contextCharBudget).content := by
    refine Text.trim_of_forall fun c hc => ?_
    rw [accentedSnapshot, String.toList_ofList] at hc
    rw [List.eq_of_mem_replicate hc]
    decide
  have hlength : (accentedSnapshot contextCharBudget).content.length = contextCharBudget := by
    simp [accentedSnapshot]
  have hsize : (accentedSnapshot contextCharBudget).content.utf8ByteSize =
      2 * contextCharBudget := utf8ByteSize_replicate contextCharBudget
  rw [cappedSnapshotsForPrompt, hbytes, List.map_cons, FitsBudget, ContentFits, htrim, hlength,
    if_pos (Nat.le_refl _), hsize, contextCharBudget]
  omega

end HobitQueue
