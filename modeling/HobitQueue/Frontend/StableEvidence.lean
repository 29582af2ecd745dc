import HobitQueue.Frontend.EvidenceBundles
import Mathlib.Data.Finset.Dedup
import Mathlib.Data.Finset.Card

/-!
# Evidence bundles that are normalized again

A bundle that has been created is read as a value of unknown shape at the next layer and created
anew. Its cleaned texts come through, its capped texts and its cut paths need not: a note of
what was left out is cut again, and the mark of a cut path is taken off.

## Main results

* `partsOf_again_iff` — the parts of a bundle come back exactly when texts and paths do.
* `uncut_and_covers_iff` — the loop over the files against the paths that are supplied.
* `bundle_stable_and_honest_iff` — when a bundle is stable and honest.
-/

namespace HobitQueue.Frontend.EvidenceBundle

open TextWords CappedText

/-! ## Cleaned and capped texts -/

theorem decimal_inj {m n : ℕ} (h : decimal m = decimal n) : m = n := by
  have hback : ∀ k, (decimal k).map (fun unit => Char.ofNat unit.toNat) = Nat.toDigits 10 k := by
    intro k
    rw [decimal, List.map_map]
    conv_rhs => rw [← List.map_id (Nat.toDigits 10 k)]
    refine List.map_congr_left fun c hc => ?_
    have hdigit : c.isDigit = true := Nat.isDigit_of_mem_toDigits (by decide) (by decide) hc
    have hrange : 48 ≤ c.toNat ∧ c.toNat ≤ 57 := by
      simpa [Char.isDigit, Char.le_def, UInt32.le_iff_toNat_le] using hdigit
    have hunit : (UInt16.ofNat c.toNat).toNat = c.toNat := by
      rw [UInt16.toNat_ofNat']
      exact Nat.mod_eq_of_lt (by omega)
    rw [Function.comp_apply, hunit, Char.ofNat_toNat, id_eq]
  have hdigits : Nat.toDigits 10 m = Nat.toDigits 10 n := by rw [← hback m, ← hback n, h]
  rw [← Nat.ofDigitChars_ten_toDigits (n := m), hdigits, Nat.ofDigitChars_ten_toDigits]

theorem mem_decimal {n : ℕ} {unit : UInt16} (h : unit ∈ decimal n) :
    48 ≤ unit.toNat ∧ unit.toNat ≤ 57 := by
  obtain ⟨c, hc, rfl⟩ := List.mem_map.1 h
  have hdigit : c.isDigit = true := Nat.isDigit_of_mem_toDigits (by decide) (by decide) hc
  have hrange : 48 ≤ c.toNat ∧ c.toNat ≤ 57 := by
    simpa [Char.isDigit, Char.le_def, UInt32.le_iff_toNat_le] using hdigit
  rw [UInt16.toNat_ofNat', Nat.mod_eq_of_lt (by omega)]
  exact hrange

/-- The note of a preview stands on a line of its own. -/
def noteOfPreview : Note isBlank previewNote where
  mark := 10
  body omitted := units "[Preview capped: " ++ decimal omitted ++ units " character(s) omitted.]"
  note_eq _ := rfl
  mark_blank := by decide
  body_tidy omitted := by
    have hstart : Tidy isBlank (units "[Preview capped:") :=
      @tidy_of_ends _ _ _ 91 58 (by decide) (by decide) (by decide) (by decide)
    have hend : Tidy isBlank (units "character(s) omitted.]") :=
      @tidy_of_ends _ _ _ 99 93 (by decide) (by decide) (by decide) (by decide)
    have hjoin := hstart.join hend ([32] ++ decimal omitted ++ [32])
    have hsplit : units "[Preview capped: " = units "[Preview capped:" ++ [32] := by decide
    have hrest : units " character(s) omitted.]" = [32] ++ units "character(s) omitted.]" := by
      decide
    rw [hsplit, hrest]
    simpa only [List.append_assoc] using hjoin
  mark_notMem omitted := by
    intro hmem
    rw [List.mem_append, List.mem_append] at hmem
    obtain (hmem | hmem) | hmem := hmem
    · exact absurd hmem (by decide)
    · exact absurd (mem_decimal hmem).1 (by decide)
    · exact absurd hmem (by decide)
  body_inj m n h := by
    rw [List.append_cancel_right_eq, List.append_cancel_left_eq] at h
    exact decimal_inj h

/-- A text that is there is tidy. -/
def Clean (value : Option Units) : Prop := ∀ text ∈ value, Tidy isBlank text

theorem clean_cleanOptionalText (value : Value) : Clean (cleanOptionalText value) := by
  intro text htext
  cases value with
  | text units =>
    rw [cleanOptionalText] at htext
    split_ifs at htext with hempty
    · simp at htext
    · rw [Option.mem_def, Option.some.injEq] at htext
      rw [← htext]
      exact tidy_strip hempty
  | _ => simp [cleanOptionalText] at htext

theorem maxTextChars_pos (field : CappedField) : 0 < maxTextChars field := by
  cases field <;> decide

theorem clean_cappedOptionalText (value : Value) (field : CappedField) :
    Clean (cappedOptionalText value field) := by
  intro text htext
  obtain ⟨cleaned, hcleaned, rfl⟩ := Option.map_eq_some_iff.1 htext
  exact tidy_cap noteOfPreview (maxTextChars_pos field)
    (clean_cleanOptionalText value cleaned hcleaned)

/-- A cleaned text is read as it is. -/
theorem cleanOptionalText_ofText {value : Option Units} (h : Clean value) :
    cleanOptionalText (.ofText value) = value := by
  cases value with
  | none => rfl
  | some text =>
    have htidy := h text rfl
    rw [Value.ofText, cleanOptionalText, strip_of_tidy htidy, if_neg htidy.ne_nil]

theorem normalizeNullableNumber_ofNumber (value : Option (Option ℚ)) :
    normalizeNullableNumber (.ofNumber value) = value := by
  obtain _ | _ | _ := value <;> rfl

/-- The text of a value, where there is one, is capped once and for all. -/
def TextSettled (value : Value) (field : CappedField) : Prop :=
  ∀ text ∈ cleanOptionalText value, Settled isBlank previewNote (maxTextChars field) text

theorem cappedOptionalText_again_iff {value : Value} {field : CappedField} :
    cappedOptionalText (.ofText (cappedOptionalText value field)) field =
      cappedOptionalText value field ↔ TextSettled value field := by
  have hread := cleanOptionalText_ofText (clean_cappedOptionalText value field)
  rw [cappedOptionalText, hread, cappedOptionalText, TextSettled]
  cases cleanOptionalText value with
  | none => simp
  | some text =>
    simp only [Option.map_some, Option.some.injEq, Option.mem_def, forall_eq']
    exact cap_cap_iff noteOfPreview

/-! ## Changed files -/

def rawPath : ChangedFileInput → Value
  | .path value => .text value
  | .file _ _ path _ => path

/-- The paths of the supplied files that something is left of. -/
def usablePaths (files : List ChangedFileInput) : List Units :=
  (files.map fun file => cleanPath (rawPath file)).filter (!·.isEmpty)

/-- A path as it is listed. -/
def cutPath (path : Units) : Units :=
  if maxChangedFilePathChars < path.length then
    kept isBlank maxChangedFilePathChars path
  else path

/-- The units of a cleaned path: no line ending and no tabulator is among them. -/
def Printable (path : Units) : Prop := ∀ unit ∈ path, unit ≠ 9 ∧ unit ≠ 10 ∧ unit ≠ 13

theorem cleanPath_of_printable {path : Units} (hprintable : Printable path)
    (htidy : Tidy isBlank path) : cleanPath (.text path) = path := by
  have hkeep : ∀ c : UInt16, (∀ unit ∈ path, unit ≠ c) → replaceChar c 32 path = path := by
    intro c hc
    conv_rhs => rw [← List.map_id path]
    exact List.map_congr_left fun unit hunit => if_neg (hc unit hunit)
  rw [cleanPath, hkeep 13 fun unit hunit => (hprintable unit hunit).2.2,
    hkeep 10 fun unit hunit => (hprintable unit hunit).2.1,
    hkeep 9 fun unit hunit => (hprintable unit hunit).1, strip_of_tidy htidy]

theorem mem_replaceChar {c unit : UInt16} {text : Units} (hc : c ≠ 32)
    (h : unit ∈ replaceChar c 32 text) : unit ≠ c ∧ (unit ∈ text ∨ unit = 32) := by
  obtain ⟨before, hbefore, rfl⟩ := List.mem_map.1 h
  split_ifs with heq
  · exact ⟨hc.symm, Or.inr rfl⟩
  · exact ⟨heq, Or.inl hbefore⟩

theorem printable_cleanPath (value : Value) : Printable (cleanPath value) := by
  cases value with
  | text text =>
    intro unit hunit
    have hsub : (cleanPath (.text text)).Sublist
        (replaceChar 9 32 (replaceChar 10 32 (replaceChar 13 32 text))) :=
      ((List.rdropWhile_prefix _ _).sublist).trans (List.dropWhile_suffix _).sublist
    obtain ⟨htab, hin | rfl⟩ := mem_replaceChar (by decide) (hsub.subset hunit)
    · obtain ⟨hnewline, hin | rfl⟩ := mem_replaceChar (by decide) hin
      · exact ⟨htab, hnewline, (mem_replaceChar (by decide) hin).1⟩
      · decide
    · decide
  | _ => simp [cleanPath, Printable]

theorem tidy_cleanPath {value : Value} (h : cleanPath value ≠ []) :
    Tidy isBlank (cleanPath value) := by
  cases value with
  | text text => exact tidy_strip h
  | _ => exact absurd rfl h

theorem cutPath_spec {path : Units} (hprintable : Printable path) (htidy : Tidy isBlank path) :
    Printable (cutPath path) ∧ Tidy isBlank (cutPath path) ∧
      (cutPath path).length ≤ maxChangedFilePathChars := by
  unfold cutPath
  split_ifs with hlong
  · refine ⟨?_, tidy_kept htidy (by decide), kept_length_le⟩
    intro unit hunit
    have hbefore : kept isBlank maxChangedFilePathChars path <+: path :=
      (List.rdropWhile_prefix _ _).trans (List.take_prefix _ _)
    exact hprintable unit (hbefore.subset hunit)
  · exact ⟨hprintable, htidy, Nat.le_of_not_lt hlong⟩

/-- A file that is listed comes from a usable path, cut where it is too long. -/
structure Listed (path : Units) (file : QueueWorkerChangedFileEvidence) : Prop where
  path_eq : file.path = cutPath path
  truncated_eq : file.truncated = decide (maxChangedFilePathChars < path.length)
  printable : Printable path
  tidy : Tidy isBlank path
  status_clean : Clean file.status

theorem normalizeChangedFile_eq_none {file : ChangedFileInput} :
    normalizeChangedFile file = none ↔ cleanPath (rawPath file) = [] := by
  cases file <;> simp [normalizeChangedFile, rawPath]

theorem listed_of_normalizeChangedFile {file : ChangedFileInput}
    {evidence : QueueWorkerChangedFileEvidence} (h : normalizeChangedFile file = some evidence) :
    Listed (cleanPath (rawPath file)) evidence := by
  have hne : cleanPath (rawPath file) ≠ [] := by
    intro hempty
    rw [normalizeChangedFile_eq_none.2 hempty] at h
    exact absurd h (by simp)
  have hprintable := printable_cleanPath (rawPath file)
  have htidy := tidy_cleanPath hne
  have hcut : ∀ path : Units, (if decide (maxChangedFilePathChars < path.length) = true then
      kept isBlank maxChangedFilePathChars path else path) = cutPath path := by
    intro path
    by_cases hlong : maxChangedFilePathChars < path.length
    · simp [cutPath, hlong]
    · simp [cutPath, hlong]
  cases file with
  | path value =>
    simp only [normalizeChangedFile, rawPath] at h hne
    rw [if_neg hne, Option.some.injEq] at h
    rw [← h]
    exact ⟨hcut _, rfl, hprintable, htidy, clean_cleanOptionalText .undefined⟩
  | file additions deletions path status =>
    simp only [normalizeChangedFile, rawPath] at h hne
    rw [if_neg hne, Option.some.injEq] at h
    rw [← h]
    exact ⟨hcut _, rfl, hprintable, htidy, clean_cleanOptionalText status⟩

/-- A listed file as the input it is read as. -/
def readAgain (file : QueueWorkerChangedFileEvidence) : ChangedFileInput :=
  .file (.ofNumber file.additions) (.ofNumber file.deletions) (.text file.path)
    (.ofText file.status)

/-- A listed file comes back without the mark of a cut path. -/
theorem normalizeChangedFile_readAgain {path : Units} {file : QueueWorkerChangedFileEvidence}
    (h : Listed path file) :
    normalizeChangedFile (readAgain file) = some { file with truncated := false } := by
  obtain ⟨hprintable, htidy, hlength⟩ := cutPath_spec h.printable h.tidy
  rw [← h.path_eq] at hprintable htidy hlength
  have hpath := cleanPath_of_printable hprintable htidy
  have hshort : ¬ maxChangedFilePathChars < file.path.length := Nat.not_lt.2 hlength
  simp only [normalizeChangedFile, readAgain, hpath, if_neg htidy.ne_nil, hshort, decide_false,
    normalizeNullableNumber_ofNumber, cleanOptionalText_ofText h.status_clean]
  rfl

theorem normalizeUnknownChangedFileInput_asUnknown {files : List QueueWorkerChangedFileEvidence}
    (h : ∀ file ∈ files, ∃ path, Listed path file) :
    normalizeUnknownChangedFileInput
      (some (files.map QueueWorkerChangedFileEvidence.asUnknown)) = files.map readAgain := by
  rw [normalizeUnknownChangedFileInput, Option.getD_some, List.filterMap_map]
  induction files with
  | nil => rfl
  | cons file files ih =>
    obtain ⟨path, hpath⟩ := h file List.mem_cons_self
    have htidy : Clean (some file.path) := by
      intro text htext
      rw [Option.mem_def, Option.some.injEq] at htext
      rw [← htext, hpath.path_eq]
      exact (cutPath_spec hpath.printable hpath.tidy).2.1
    have hread : cleanOptionalText (.text file.path) = some file.path :=
      cleanOptionalText_ofText htidy
    have hrest := ih fun other hother => h other (List.mem_cons_of_mem file hother)
    rw [List.map_cons, ← hrest, List.filterMap_cons]
    simp only [Function.comp_apply, QueueWorkerChangedFileEvidence.asUnknown, hread,
      normalizeNullableNumber_ofNumber, cleanOptionalText_ofText hpath.status_clean,
      Option.getD_some, readAgain]

section Loop

variable {toLowerCase : Units → Units}

/-- The keys of the listed files. -/
def keysOf (toLowerCase : Units → Units) (files : List QueueWorkerChangedFileEvidence) :
    List Units :=
  files.map fun file => toLowerCase file.path

theorem normalizeChangedFilesFrom_cons {seen : List Units} {file : ChangedFileInput}
    {files : List ChangedFileInput} :
    normalizeChangedFilesFrom toLowerCase seen (file :: files) =
      match normalizeChangedFile file with
      | none => normalizeChangedFilesFrom toLowerCase seen files
      | some evidence =>
        if toLowerCase evidence.path ∈ seen then normalizeChangedFilesFrom toLowerCase seen files
        else if seen.length + 1 ≥ maxChangedFiles then [evidence]
        else evidence ::
          normalizeChangedFilesFrom toLowerCase (toLowerCase evidence.path :: seen) files := rfl

theorem usablePaths_cons_of_none {file : ChangedFileInput} {files : List ChangedFileInput}
    (h : normalizeChangedFile file = none) : usablePaths (file :: files) = usablePaths files := by
  rw [normalizeChangedFile_eq_none] at h
  simp [usablePaths, h]

theorem usablePaths_cons_of_some {file : ChangedFileInput} {files : List ChangedFileInput}
    {evidence : QueueWorkerChangedFileEvidence} (h : normalizeChangedFile file = some evidence) :
    usablePaths (file :: files) = cleanPath (rawPath file) :: usablePaths files := by
  have hne := (listed_of_normalizeChangedFile h).tidy.ne_nil
  simp [usablePaths, hne]

/-- What a run of the loop lists behind some keys: files from usable paths, with keys that are new
and differ, under the cap. -/
structure ListsFrom (toLowerCase : Units → Units) (seen paths : List Units)
    (files : List QueueWorkerChangedFileEvidence) : Prop where
  listed : ∀ file ∈ files, ∃ path ∈ paths, Listed path file
  nodup : (keysOf toLowerCase files).Nodup
  new : ∀ key ∈ keysOf toLowerCase files, key ∉ seen
  capped : seen.length + files.length ≤ maxChangedFiles

theorem ListsFrom.more {seen paths : List Units} {files : List QueueWorkerChangedFileEvidence}
    (h : ListsFrom toLowerCase seen paths files) (path : Units) :
    ListsFrom toLowerCase seen (path :: paths) files := by
  refine ⟨?_, h.nodup, h.new, h.capped⟩
  intro file hfile
  obtain ⟨other, hother, hlisted⟩ := h.listed file hfile
  exact ⟨other, List.mem_cons_of_mem path hother, hlisted⟩

theorem listsFrom_normalizeChangedFilesFrom {seen : List Units} {files : List ChangedFileInput}
    (hseen : seen.length < maxChangedFiles) :
    ListsFrom toLowerCase seen (usablePaths files)
      (normalizeChangedFilesFrom toLowerCase seen files) := by
  induction files generalizing seen with
  | nil => exact ⟨by simp [normalizeChangedFilesFrom], by simp [keysOf, normalizeChangedFilesFrom],
      by simp [keysOf, normalizeChangedFilesFrom], hseen.le⟩
  | cons file files ih =>
    rw [normalizeChangedFilesFrom_cons]
    cases hfile : normalizeChangedFile file with
    | none =>
      rw [usablePaths_cons_of_none hfile]
      exact ih hseen
    | some evidence =>
      have hlisted := listed_of_normalizeChangedFile hfile
      rw [usablePaths_cons_of_some hfile]
      dsimp only
      split_ifs with hknown hfull
      · exact (ih hseen).more _
      · refine ⟨?_, by simp [keysOf], ?_, hseen⟩
        · intro other hother
          rw [List.mem_singleton.1 hother]
          exact ⟨_, List.mem_cons_self, hlisted⟩
        · intro key hkey
          rw [List.mem_singleton.1 hkey]
          exact hknown
      · have hmore : (toLowerCase evidence.path :: seen).length < maxChangedFiles := by
          rw [List.length_cons]
          omega
        have hrest := ih hmore
        refine ⟨?_, ?_, ?_, ?_⟩
        · intro other hother
          obtain rfl | hother := List.mem_cons.1 hother
          · exact ⟨_, List.mem_cons_self, hlisted⟩
          · exact (hrest.more _).listed other hother
        · rw [keysOf, List.map_cons, List.nodup_cons]
          refine ⟨?_, hrest.nodup⟩
          intro hmem
          exact hrest.new _ hmem List.mem_cons_self
        · intro key hkey
          rw [keysOf, List.map_cons] at hkey
          obtain rfl | hkey := List.mem_cons.1 hkey
          · exact hknown
          · exact fun hmem => hrest.new key hkey (List.mem_cons_of_mem _ hmem)
        · have hcapped := hrest.capped
          rw [List.length_cons] at hcapped ⊢
          omega

/-- The list is listed again, without the marks of cut paths. -/
theorem normalizeChangedFilesFrom_readAgain {seen paths : List Units}
    {files : List QueueWorkerChangedFileEvidence} (h : ListsFrom toLowerCase seen paths files) :
    normalizeChangedFilesFrom toLowerCase seen (files.map readAgain) =
      files.map fun file => { file with truncated := false } := by
  induction files generalizing seen with
  | nil => rfl
  | cons file files ih =>
    obtain ⟨path, -, hlisted⟩ := h.listed file List.mem_cons_self
    have hnew : toLowerCase file.path ∉ seen := h.new _ (by simp [keysOf])
    have hnodup := h.nodup
    rw [keysOf, List.map_cons, List.nodup_cons] at hnodup
    have hcapped := h.capped
    rw [List.length_cons] at hcapped
    rw [List.map_cons, List.map_cons, normalizeChangedFilesFrom_cons,
      normalizeChangedFile_readAgain hlisted]
    dsimp only
    rw [if_neg hnew]
    by_cases hfull : seen.length + 1 ≥ maxChangedFiles
    · have hnone : files = [] := List.eq_nil_of_length_eq_zero (by omega)
      rw [if_pos hfull, hnone]
      rfl
    · rw [if_neg hfull]
      have hrest : ListsFrom toLowerCase (toLowerCase file.path :: seen) paths files := by
        refine ⟨fun other hother => h.listed other (List.mem_cons_of_mem file hother), hnodup.2,
          ?_, ?_⟩
        · intro key hkey hmem
          obtain rfl | hmem := List.mem_cons.1 hmem
          · exact hnodup.1 hkey
          · exact h.new key (List.mem_cons_of_mem _ hkey) hmem
        · rw [List.length_cons]
          omega
      rw [ih hrest]

/-! ## The supplied paths -/

/-- Behind the keys that are listed, every path that is put on the list is short enough to stay
uncut, and in the end every path that was passed over (whose keys are owed) is covered by the
list up to letter case. The list is full with twenty paths. -/
def pathsFit (toLowerCase : Units → Units) (seen owed : List Units) : List Units → Prop
  | [] => ∀ key ∈ owed, key ∈ seen
  | path :: paths =>
    if maxChangedFiles ≤ seen.length ∨ toLowerCase (cutPath path) ∈ seen then
      pathsFit toLowerCase seen (toLowerCase path :: owed) paths
    else
      path.length ≤ maxChangedFilePathChars ∧
        pathsFit toLowerCase (toLowerCase path :: seen) owed paths

instance decidablePathsFit (toLowerCase : Units → Units) : (seen owed paths : List Units) →
    Decidable (pathsFit toLowerCase seen owed paths)
  | seen, owed, [] => inferInstanceAs (Decidable (∀ key ∈ owed, key ∈ seen))
  | seen, owed, path :: paths =>
    let _ := decidablePathsFit toLowerCase seen (toLowerCase path :: owed) paths
    let _ := decidablePathsFit toLowerCase (toLowerCase path :: seen) owed paths
    inferInstanceAs (Decidable (ite _ _ (_ ∧ _)))

theorem pathsFit_of_full {seen owed paths : List Units}
    (hfull : maxChangedFiles ≤ seen.length) :
    pathsFit toLowerCase seen owed paths ↔
      ∀ key, key ∈ owed ∨ key ∈ paths.map toLowerCase → key ∈ seen := by
  induction paths generalizing owed with
  | nil => simp [pathsFit]
  | cons path paths ih =>
    rw [pathsFit, if_pos (Or.inl hfull), ih]
    simp only [List.mem_cons, List.map_cons]
    refine forall_congr' fun key => ?_
    tauto

/-- A path is listed uncut, with its own key, exactly when it is short enough. -/
theorem Listed.truncated_iff {path : Units} {file : QueueWorkerChangedFileEvidence}
    (h : Listed path file) :
    file.truncated = false ↔ path.length ≤ maxChangedFilePathChars := by
  rw [h.truncated_eq, decide_eq_false_iff_not, Nat.not_lt]

theorem Listed.path_of_short {path : Units} {file : QueueWorkerChangedFileEvidence}
    (h : Listed path file) (hshort : path.length ≤ maxChangedFilePathChars) :
    file.path = path := by
  rw [h.path_eq, cutPath, if_neg (Nat.not_lt.2 hshort)]

/-- **The loop over the files** lists no cut path and covers every path exactly when the paths
fit. -/
theorem uncut_and_covers_iff {seen owed : List Units} {files : List ChangedFileInput}
    (hseen : seen.length < maxChangedFiles) :
    pathsFit toLowerCase seen owed (usablePaths files) ↔
      (∀ file ∈ normalizeChangedFilesFrom toLowerCase seen files, file.truncated = false) ∧
      ∀ key, key ∈ owed ∨ key ∈ (usablePaths files).map toLowerCase → key ∈ seen ∨
        key ∈ keysOf toLowerCase (normalizeChangedFilesFrom toLowerCase seen files) := by
  induction files generalizing seen owed with
  | nil => simp [usablePaths, pathsFit, normalizeChangedFilesFrom, keysOf]
  | cons file files ih =>
    rw [normalizeChangedFilesFrom_cons]
    cases hfile : normalizeChangedFile file with
    | none =>
      rw [usablePaths_cons_of_none hfile]
      exact ih hseen
    | some evidence =>
      have hlisted := listed_of_normalizeChangedFile hfile
      rw [usablePaths_cons_of_some hfile, pathsFit, ← hlisted.path_eq]
      dsimp only
      by_cases hknown : toLowerCase evidence.path ∈ seen
      · rw [if_pos (Or.inr hknown), if_pos hknown, ih hseen]
        simp only [List.mem_cons, List.map_cons]
        refine and_congr_right fun _ => forall_congr' fun key => ?_
        grind
      rw [if_neg (by
        rw [not_or]
        exact ⟨Nat.not_le.2 hseen, hknown⟩), if_neg hknown]
      by_cases hshort : (cleanPath (rawPath file)).length ≤ maxChangedFilePathChars
      · have hpath := hlisted.path_of_short hshort
        have huncut := hlisted.truncated_iff.2 hshort
        rw [and_iff_right hshort, ← hpath]
        by_cases hfull : seen.length + 1 ≥ maxChangedFiles
        · have hlist : maxChangedFiles ≤ (toLowerCase evidence.path :: seen).length := hfull
          rw [if_pos hfull, pathsFit_of_full hlist]
          simp only [forall_eq, huncut, true_and, keysOf, List.map_cons,
            List.map_nil, List.mem_cons, List.not_mem_nil, or_false]
          refine forall_congr' fun key => ?_
          grind
        · have hmore : (toLowerCase evidence.path :: seen).length < maxChangedFiles := by
            rw [List.length_cons]
            omega
          rw [if_neg hfull, ih hmore]
          simp only [List.mem_cons, forall_eq_or_imp, huncut, true_and, keysOf, List.map_cons]
          refine and_congr_right fun _ => forall_congr' fun key => ?_
          grind
      · have hmem : evidence ∈ (if seen.length + 1 ≥ maxChangedFiles then [evidence] else
            evidence :: normalizeChangedFilesFrom toLowerCase (toLowerCase evidence.path :: seen)
              files) := by
          split_ifs <;> exact List.mem_cons_self
        constructor
        · exact fun h => absurd h.1 hshort
        · exact fun h => absurd (hlisted.truncated_iff.1 (h.1 evidence hmem)) hshort

/-- The number of supplied paths that differ up to letter case. -/
def differingPaths (toLowerCase : Units → Units) (files : List ChangedFileInput) : ℕ :=
  ((usablePaths files).map toLowerCase).dedup.length

/-- Uncut files count every path exactly when they cover every path. -/
theorem length_eq_differingPaths_iff {files : List QueueWorkerChangedFileEvidence}
    {supplied : List ChangedFileInput}
    (h : ListsFrom toLowerCase [] (usablePaths supplied) files)
    (huncut : ∀ file ∈ files, file.truncated = false) :
    files.length = differingPaths toLowerCase supplied ↔
      ∀ key ∈ (usablePaths supplied).map toLowerCase, key ∈ keysOf toLowerCase files := by
  have hsub : (keysOf toLowerCase files).toFinset ⊆
      ((usablePaths supplied).map toLowerCase).toFinset := by
    intro key hkey
    rw [List.mem_toFinset] at hkey ⊢
    obtain ⟨file, hfile, rfl⟩ := List.mem_map.1 hkey
    obtain ⟨path, hpath, hlisted⟩ := h.listed file hfile
    have hshort := hlisted.truncated_iff.1 (huncut file hfile)
    rw [hlisted.path_of_short hshort]
    exact List.mem_map_of_mem hpath
  have hkeys : (keysOf toLowerCase files).toFinset.card = files.length := by
    rw [List.toFinset_card_of_nodup h.nodup, keysOf, List.length_map]
  rw [differingPaths, ← List.card_toFinset, ← hkeys]
  constructor
  · intro hcard key hkey
    have heq := Finset.eq_of_subset_of_card_le hsub hcard.ge
    rw [← List.mem_toFinset, heq, List.mem_toFinset]
    exact hkey
  · intro hcovers
    refine congrArg Finset.card (Finset.Subset.antisymm hsub ?_)
    intro key hkey
    rw [List.mem_toFinset] at hkey ⊢
    exact hcovers key hkey

end Loop

/-! ## Bundles -/

theorem outcomeOf_text (outcome : QueueWorkerEvidenceOutcome) :
    outcomeOf outcome.text = some outcome := by
  cases outcome <;> decide

theorem normalizeUnknownValidationStatus_text (status : QueueWorkerValidationStatus) :
    normalizeUnknownValidationStatus (.text status.text) = some status := by
  cases status <;> decide

/-- The parts that a bundle was made of. -/
def QueueWorkerEvidenceBundle.parts (bundle : QueueWorkerEvidenceBundle) : Parts :=
  { bundle with }

theorem parts_bundle (parts : Parts) : parts.bundle.parts = parts := rfl

theorem bundle_inj {parts others : Parts} : parts.bundle = others.bundle ↔ parts = others := by
  constructor
  · intro h
    have hparts := congrArg QueueWorkerEvidenceBundle.parts h
    rwa [parts_bundle, parts_bundle] at hparts
  · intro h
    rw [h]

/-- The texts of an input under a cap are capped once and for all. -/
structure TextsSettled (input : QueueWorkerEvidenceBundleInput) : Prop where
  changedFilesSummary : TextSettled input.changedFilesSummary .changedFilesSummary
  failureReason : TextSettled input.failureReason .reason
  finalAgentMessage : TextSettled input.finalAgentMessage .finalAgentMessage
  logReference : TextSettled input.logReference .logReference
  rawProviderSummary : TextSettled input.rawProviderSummary .providerSummary
  stuckReason : TextSettled input.stuckReason .reason
  validationOutputPreview : TextSettled input.validationOutputPreview .validationOutputPreview
  validationSummary : TextSettled input.validationSummary .validationSummary

section Again

variable {toLowerCase : Units → Units}

theorem listsFrom_normalizeChangedFiles (value : Option (List ChangedFileInput)) :
    ListsFrom toLowerCase [] (usablePaths (value.getD []))
      (normalizeChangedFiles toLowerCase value) :=
  listsFrom_normalizeChangedFilesFrom (by decide)

/-- The files of a bundle are listed again without the marks of cut paths. -/
theorem normalizeChangedFiles_again (value : Option (List ChangedFileInput)) :
    normalizeChangedFiles toLowerCase (some (normalizeUnknownChangedFileInput
      (some ((normalizeChangedFiles toLowerCase value).map
        QueueWorkerChangedFileEvidence.asUnknown)))) =
      (normalizeChangedFiles toLowerCase value).map
        fun file => { file with truncated := false } := by
  have hlists := @listsFrom_normalizeChangedFiles toLowerCase value
  have hlisted : ∀ file ∈ normalizeChangedFiles toLowerCase value, ∃ path, Listed path file := by
    intro file hfile
    obtain ⟨path, -, hpath⟩ := hlists.listed file hfile
    exact ⟨path, hpath⟩
  rw [normalizeUnknownChangedFileInput_asUnknown hlisted]
  exact normalizeChangedFilesFrom_readAgain hlists

theorem map_uncut_iff {files : List QueueWorkerChangedFileEvidence} :
    (files.map fun file => { file with truncated := false }) = files ↔
      ∀ file ∈ files, file.truncated = false := by
  induction files with
  | nil => simp
  | cons file files ih =>
    rw [List.map_cons, List.cons.injEq, ih, List.forall_mem_cons]
    refine and_congr_left fun _ => ?_
    constructor
    · intro h
      rw [← h]
    · intro h
      rw [← h]

theorem cleaned_taskId_again (taskId : Units) :
    (cleanOptionalText (.text ((cleanOptionalText (.text ((cleanOptionalText
      (.text taskId)).getD []))).getD []))).getD [] =
      (cleanOptionalText (.text taskId)).getD [] := by
  have hclean := clean_cleanOptionalText (.text taskId)
  cases hid : cleanOptionalText (.text taskId) with
  | none => rfl
  | some id =>
    have hread := cleanOptionalText_ofText hclean
    rw [hid] at hread
    have hagain : cleanOptionalText (.text id) = some id := hread
    rw [Option.getD_some, hagain, Option.getD_some, hagain, Option.getD_some]

/-- **The parts of a bundle come back** exactly when its texts and its paths do. -/
theorem partsOf_again_iff {input : QueueWorkerEvidenceBundleInput} :
    partsOf toLowerCase (unknownInput (createQueueWorkerEvidenceBundle toLowerCase input).asUnknown
      input.outcome) = partsOf toLowerCase input ↔
      TextsSettled input ∧
        ∀ file ∈ normalizeChangedFiles toLowerCase input.changedFiles, file.truncated = false := by
  have hclean : ∀ value, cleanOptionalText (.ofText (cleanOptionalText
      (.ofText (cleanOptionalText value)))) = cleanOptionalText value := by
    intro value
    rw [cleanOptionalText_ofText (clean_cleanOptionalText _),
      cleanOptionalText_ofText (clean_cleanOptionalText _)]
  have hcapped : ∀ value field, cappedOptionalText (.ofText (cleanOptionalText
      (.ofText (cappedOptionalText value field)))) field =
        cappedOptionalText value field ↔ TextSettled value field := by
    intro value field
    rw [cleanOptionalText_ofText (clean_cappedOptionalText value field)]
    exact cappedOptionalText_again_iff
  have hnumber : ∀ value, normalizeNullableNumber (.ofNumber (normalizeNullableNumber
      (.ofNumber (normalizeNullableNumber value)))) = normalizeNullableNumber value := by
    intro value
    rw [normalizeNullableNumber_ofNumber, normalizeNullableNumber_ofNumber]
  have hstatus : ∀ (status : QueueWorkerValidationStatus) (exitCode summary preview : Value),
      normalizeValidationStatus (normalizeUnknownValidationStatus (.text status.text)) exitCode
        summary preview = status := by
    intro status exitCode summary preview
    rw [normalizeUnknownValidationStatus_text]
    rfl
  have hfiles := @normalizeChangedFiles_again toLowerCase input.changedFiles
  simp only [partsOf, unknownInput, createQueueWorkerEvidenceBundle, Parts.bundle,
    QueueWorkerEvidenceBundle.asUnknown, Parts.mk.injEq, hclean, hcapped, hnumber, hstatus, hfiles,
    map_uncut_iff, cleaned_taskId_again, true_and, and_true]
  constructor
  · rintro ⟨huncut, hsummary, hfailure, hmessage, hlog, hprovider, hstuck, hpreview, hvalidation⟩
    exact ⟨⟨hsummary, hfailure, hmessage, hlog, hprovider, hstuck, hpreview, hvalidation⟩, huncut⟩
  · rintro ⟨⟨hsummary, hfailure, hmessage, hlog, hprovider, hstuck, hpreview, hvalidation⟩, huncut⟩
    exact ⟨huncut, hsummary, hfailure, hmessage, hlog, hprovider, hstuck, hpreview, hvalidation⟩

end Again

/-! ## Stable and honest bundles -/

/-- The bundle that a result accepts. -/
def QueueWorkerEvidenceBundleValidationResult.acceptedBundle :
    QueueWorkerEvidenceBundleValidationResult → Option QueueWorkerEvidenceBundle
  | accepted bundle _ => some bundle
  | rejected .. => none

def noOptions : QueueWorkerEvidenceValidationOptions :=
  { expectedAttemptId := none, expectedTaskId := none }

/-- The bundle of an input is normalized to itself, and its counts are the number of supplied
paths that differ up to letter case. -/
structure StableAndHonest (toLowerCase : Units → Units) (input : QueueWorkerEvidenceBundleInput) :
    Prop where
  stable : (normalizeQueueWorkerEvidenceBundle toLowerCase
    (some (createQueueWorkerEvidenceBundle toLowerCase input).asUnknown) noOptions).acceptedBundle =
      some (createQueueWorkerEvidenceBundle toLowerCase input)
  honest : (createQueueWorkerEvidenceBundle toLowerCase input).summary.changedFileCount +
    (createQueueWorkerEvidenceBundle toLowerCase input).summary.changedFilesOmittedCount =
      differingPaths toLowerCase (input.changedFiles.getD [])

/-- The texts of an input are capped once and for all, and its paths are listed uncut and are
all covered by the list. -/
structure EvidenceFits (toLowerCase : Units → Units) (input : QueueWorkerEvidenceBundleInput) :
    Prop where
  texts : TextsSettled input
  paths : pathsFit toLowerCase [] [] (usablePaths (input.changedFiles.getD []))

section Stable

variable {toLowerCase : Units → Units}

theorem validate_acceptedBundle {bundle accepted : QueueWorkerEvidenceBundle}
    {options : QueueWorkerEvidenceValidationOptions}
    (h : (validateQueueWorkerEvidenceBundle bundle options).acceptedBundle = some accepted) :
    accepted = bundle := by
  unfold validateQueueWorkerEvidenceBundle at h
  extract_lets missingFields reasons at h
  split_ifs at h with hnone
  · exact (Option.some.inj h).symm
  · exact absurd h (by simp [QueueWorkerEvidenceBundleValidationResult.acceptedBundle])

theorem taskId_notMem_of_accepted {bundle accepted : QueueWorkerEvidenceBundle}
    {options : QueueWorkerEvidenceValidationOptions}
    (h : (validateQueueWorkerEvidenceBundle bundle options).acceptedBundle = some accepted) :
    "taskId" ∉ getEvidenceBundleMissingFields bundle.asUnknown := by
  intro hmissing
  unfold validateQueueWorkerEvidenceBundle at h
  extract_lets missingFields reasons at h
  have hreasons : reasons ≠ [] := by
    have htask : "taskId" ∈ missingFields := hmissing
    simp [reasons, htask]
  rw [if_neg hreasons] at h
  exact absurd h (by simp [QueueWorkerEvidenceBundleValidationResult.acceptedBundle])

/-- A bundle that is accepted is read as an input and created anew. -/
theorem normalize_of_accepted {bundle : QueueWorkerEvidenceBundle}
    (h : (validateQueueWorkerEvidenceBundle bundle noOptions).acceptedBundle = some bundle) :
    normalizeQueueWorkerEvidenceBundle toLowerCase (some bundle.asUnknown) noOptions =
      validateQueueWorkerEvidenceBundle (createQueueWorkerEvidenceBundle toLowerCase
        (unknownInput bundle.asUnknown bundle.outcome)) noOptions := by
  have htask := taskId_notMem_of_accepted h
  have houtcome : outcomeOf (outcomeText bundle.asUnknown.outcome) = some bundle.outcome :=
    outcomeOf_text bundle.outcome
  simp only [normalizeQueueWorkerEvidenceBundle, houtcome, if_neg htask]
  simp [noOptions, mismatch, absent]

theorem stable_iff {input : QueueWorkerEvidenceBundleInput}
    (h : (validateQueueWorkerEvidenceBundle (createQueueWorkerEvidenceBundle toLowerCase input)
      noOptions).acceptedBundle = some (createQueueWorkerEvidenceBundle toLowerCase input)) :
    (normalizeQueueWorkerEvidenceBundle toLowerCase
      (some (createQueueWorkerEvidenceBundle toLowerCase input).asUnknown)
      noOptions).acceptedBundle = some (createQueueWorkerEvidenceBundle toLowerCase input) ↔
      TextsSettled input ∧
        ∀ file ∈ normalizeChangedFiles toLowerCase input.changedFiles, file.truncated = false := by
  rw [normalize_of_accepted h, ← partsOf_again_iff, ← bundle_inj]
  constructor
  · intro hagain
    exact (validate_acceptedBundle hagain).symm
  · intro hagain
    have hcreate : createQueueWorkerEvidenceBundle toLowerCase (unknownInput
        (createQueueWorkerEvidenceBundle toLowerCase input).asUnknown
        (createQueueWorkerEvidenceBundle toLowerCase input).outcome) =
          createQueueWorkerEvidenceBundle toLowerCase input := hagain
    rw [hcreate]
    exact h

/-- The counts of a bundle are the length of its list: no file is ever counted as omitted. -/
theorem counts_eq (input : QueueWorkerEvidenceBundleInput) :
    (createQueueWorkerEvidenceBundle toLowerCase input).summary.changedFileCount +
      (createQueueWorkerEvidenceBundle toLowerCase input).summary.changedFilesOmittedCount =
        (normalizeChangedFiles toLowerCase input.changedFiles).length := by
  have hcapped := (@listsFrom_normalizeChangedFiles toLowerCase input.changedFiles).capped
  change (normalizeChangedFiles toLowerCase input.changedFiles).length +
    ((normalizeChangedFiles toLowerCase input.changedFiles).length - maxChangedFiles) = _
  rw [List.length_nil, Nat.zero_add] at hcapped
  omega

/-- A bundle that passes its validation is stable and honest exactly when the evidence fits. -/
theorem bundle_stable_and_honest_iff (toLowerCase : Units → Units)
    (input : QueueWorkerEvidenceBundleInput)
    (h : (validateQueueWorkerEvidenceBundle (createQueueWorkerEvidenceBundle toLowerCase input)
      noOptions).acceptedBundle = some (createQueueWorkerEvidenceBundle toLowerCase input)) :
    StableAndHonest toLowerCase input ↔ EvidenceFits toLowerCase input := by
  have hlists := @listsFrom_normalizeChangedFiles toLowerCase input.changedFiles
  have hempty : ([] : List Units).length < maxChangedFiles := by decide
  have hpaths := @uncut_and_covers_iff toLowerCase [] [] (input.changedFiles.getD []) hempty
  simp only [List.not_mem_nil, false_or] at hpaths
  constructor
  · rintro ⟨hstable, hhonest⟩
    obtain ⟨htexts, huncut⟩ := (stable_iff h).1 hstable
    rw [counts_eq] at hhonest
    refine ⟨htexts, hpaths.2 ⟨huncut, ?_⟩⟩
    exact (length_eq_differingPaths_iff hlists huncut).1 hhonest
  · rintro ⟨htexts, hfit⟩
    obtain ⟨huncut, hcovers⟩ := hpaths.1 hfit
    refine ⟨(stable_iff h).2 ⟨htexts, huncut⟩, ?_⟩
    rw [counts_eq]
    exact (length_eq_differingPaths_iff hlists huncut).2 hcovers

/-- Letter case of the basic letters. -/
def asciiLowerCase (text : Units) : Units :=
  text.map fun unit => if 65 ≤ unit ∧ unit ≤ 90 then unit + 32 else unit

/-- A completed run with a report, a log reference and changed files. -/
def completedEvidence (logReference : Units) (paths : List Units) :
    QueueWorkerEvidenceBundleInput :=
  { attemptId := .undefined
    changedFiles := some (paths.map ChangedFileInput.path)
    changedFilesSummary := .undefined
    completedAt := .undefined
    failureReason := .undefined
    finalAgentMessage := .text (units "Done.")
    logReference := .text logReference
    outcome := .completed
    providerId := .undefined
    rawProviderSummary := .undefined
    runId := .undefined
    startedAt := .undefined
    stuckReason := .undefined
    taskId := units "task-1"
    threadId := .undefined
    validationExitCode := .number (.finite 0)
    validationOutputPreview := .undefined
    validationStatus := none
    validationSummary := .undefined
    workerId := .undefined }

theorem two_file_bundle_is_stable_and_honest_iff :
    (StableAndHonest asciiLowerCase
      (completedEvidence (units "log-1") [units "src/A.ts", units "src/b.ts"]) ↔
      EvidenceFits asciiLowerCase
        (completedEvidence (units "log-1") [units "src/A.ts", units "src/b.ts"])) ∧
    pathsFit asciiLowerCase [] [] [units "src/A.ts", units "src/b.ts"] :=
  ⟨bundle_stable_and_honest_iff asciiLowerCase _ (by decide +kernel), by decide +kernel⟩

/-- The evidence of twenty-one files with a log reference of 501 characters. -/
def longEvidence : QueueWorkerEvidenceBundleInput :=
  completedEvidence (List.replicate 501 97)
    ((List.range 21).map fun n => [UInt16.ofNat (97 + n)])

/-- The bundle of long evidence passes its validation, changes when it is normalized again, and
counts twenty of the files with none omitted. -/
theorem long_evidence_is_neither_stable_nor_honest :
    (validateQueueWorkerEvidenceBundle (createQueueWorkerEvidenceBundle asciiLowerCase longEvidence)
      noOptions).acceptedBundle =
        some (createQueueWorkerEvidenceBundle asciiLowerCase longEvidence) ∧
    (normalizeQueueWorkerEvidenceBundle asciiLowerCase
      (some (createQueueWorkerEvidenceBundle asciiLowerCase longEvidence).asUnknown)
      noOptions).acceptedBundle ≠
        some (createQueueWorkerEvidenceBundle asciiLowerCase longEvidence) ∧
    (createQueueWorkerEvidenceBundle asciiLowerCase longEvidence).summary.changedFileCount = 20 ∧
    (createQueueWorkerEvidenceBundle asciiLowerCase longEvidence).summary.changedFilesOmittedCount =
      0 ∧
    differingPaths asciiLowerCase (longEvidence.changedFiles.getD []) = 21 ∧
    ¬ StableAndHonest asciiLowerCase longEvidence := by
  have hpasses : (validateQueueWorkerEvidenceBundle
      (createQueueWorkerEvidenceBundle asciiLowerCase longEvidence) noOptions).acceptedBundle =
        some (createQueueWorkerEvidenceBundle asciiLowerCase longEvidence) := by
    decide +kernel
  have hlog : ¬ Settled isBlank previewNote 500 (List.replicate 501 97) := by decide +kernel
  have hclean : cleanOptionalText longEvidence.logReference = some (List.replicate 501 97) := by
    decide +kernel
  have hunstable : (normalizeQueueWorkerEvidenceBundle asciiLowerCase
      (some (createQueueWorkerEvidenceBundle asciiLowerCase longEvidence).asUnknown)
      noOptions).acceptedBundle ≠
        some (createQueueWorkerEvidenceBundle asciiLowerCase longEvidence) := by
    intro hstable
    exact hlog (((stable_iff hpasses).1 hstable).1.logReference _ hclean)
  refine ⟨hpasses, hunstable, by decide +kernel, by decide +kernel, by decide +kernel, ?_⟩
  exact fun h => hunstable h.stable

end Stable

end HobitQueue.Frontend.EvidenceBundle
