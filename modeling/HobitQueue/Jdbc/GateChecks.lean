import HobitQueue.Jdbc.ScannedSql
import Mathlib.Data.Bool.AllAny

/-!
# What the read-only gates check

The checks of the three gates, as conditions on the visible part of the text. The two gates of
the backend differ in the kinds of statements they take; the gate of the sidecar asks for the
same in units and in the classes of Java.

## Main results

* `isValid_iff`, `sidecarAccepts_iff`, `isSidecarReadOnlySql_iff` — what each gate checks.
* `recoding_units` — units keep what reading looks at.
-/

namespace HobitQueue.Jdbc

open SqlText

/-! ## Classes of characters -/

theorem isWordCharacter_iff {c : Char} :
    isWordCharacter c = true ↔
      48 ≤ c.toNat ∧ c.toNat ≤ 57 ∨ 65 ≤ c.toNat ∧ c.toNat ≤ 90 ∨
        97 ≤ c.toNat ∧ c.toNat ≤ 122 ∨ c.toNat = 95 := by
  have hunderscore : c = '_' ↔ c.toNat = 95 := by
    constructor
    · rintro rfl
      rfl
    · intro h
      rw [← Char.ofNat_toNat c, h]
  have hupper : c.isUpper = true ↔ 65 ≤ c.toNat ∧ c.toNat ≤ 90 := decide_eq_true_iff
  have hlower : c.isLower = true ↔ 97 ≤ c.toNat ∧ c.toNat ≤ 122 :=
    (Bool.and_eq_true_iff).trans (and_congr decide_eq_true_iff decide_eq_true_iff)
  have hdigit : c.isDigit = true ↔ 48 ≤ c.toNat ∧ c.toNat ≤ 57 := Char.isDigit_iff_toNat
  have halpha : c.isAlphanum = ((c.isUpper || c.isLower) || c.isDigit) := rfl
  rw [isWordCharacter, halpha]
  simp only [Bool.or_eq_true, hupper, hlower, hdigit, beq_iff_eq, hunderscore]
  omega

theorem toNat_toUpper {c : Char} (h : c.toNat < 128) :
    c.toUpper.toNat = if 97 ≤ c.toNat ∧ c.toNat ≤ 122 then c.toNat - 32 else c.toNat := by
  have hall : ∀ n < 128, (Char.ofNat n).toUpper.toNat =
      if 97 ≤ n ∧ n ≤ 122 then n - 32 else n := by decide
  have hc := hall c.toNat h
  rw [Char.ofNat_toNat] at hc
  exact hc

theorem isWhiteSpace_iff {c : Char} :
    Text.isWhiteSpace c = true ↔
      9 ≤ c.toNat ∧ c.toNat ≤ 13 ∨ c.toNat = 32 ∨ c.toNat = 133 ∨ c.toNat = 160 ∨
        c.toNat = 5760 ∨ 8192 ≤ c.toNat ∧ c.toNat ≤ 8202 ∨ c.toNat = 8232 ∨ c.toNat = 8233 ∨
        c.toNat = 8239 ∨ c.toNat = 8287 ∨ c.toNat = 12288 := by
  simp only [Text.isWhiteSpace, Bool.or_eq_true, Bool.and_eq_true, decide_eq_true_eq, beq_iff_eq]
  omega

theorem isWordCharacter_of_isWhiteSpace {c : Char} (h : Text.isWhiteSpace c = true) :
    isWordCharacter c = false := by
  by_contra hword
  rw [Bool.not_eq_false, isWordCharacter_iff] at hword
  rw [isWhiteSpace_iff] at h
  omega

/-- The codes of the delimiters. -/
theorem toNat_delimiter {m : Char} (h : m ∈ delimiters) :
    m.toNat = 45 ∨ m.toNat = 47 ∨ m.toNat = 42 ∨ m.toNat = 39 ∨ m.toNat = 34 := by
  revert h
  simp only [delimiters, List.mem_cons, List.not_mem_nil, or_false]
  rintro (rfl | rfl | rfl | rfl | rfl) <;> decide

theorem inert_of_isWhiteSpace {c : Char} (h : Text.isWhiteSpace c = true) : Inert id c := by
  intro m hm heq
  have hcode := toNat_delimiter hm
  have hc : c.toNat = m.toNat := congrArg Char.toNat heq
  rw [isWhiteSpace_iff] at h
  omega

theorem inert_of_isTrimmed {u : ℕ} (h : Java.isTrimmed u = true) : Inert Char.toNat u := by
  intro m hm heq
  have hcode := toNat_delimiter hm
  have hu : u ≤ 32 := by simpa [Java.isTrimmed] using h
  omega

theorem toNat_injective : Function.Injective Char.toNat := by
  intro c c' h
  rw [← Char.ofNat_toNat c, ← Char.ofNat_toNat c', h]

/-- The units of a text keep what reading looks at. -/
theorem recoding_units : Recoding id Char.toNat Java.units where
  mark := List.all_iff_forall_prop.1 (by decide)
  ne_nil := by
    intro c _
    rw [Java.units]
    split_ifs <;> simp
  ne_mark := by
    intro c hc u hu m hm heq
    have hascii : ∀ m ∈ marks, m.toNat < 128 := List.all_iff_forall_prop.1 (by decide)
    have hsmall := hascii m hm
    by_cases hbeyond : 128 ≤ c.toNat
    · have := Java.le_of_mem_units hbeyond hu
      omega
    · rw [Java.units_of_lt (by omega), List.mem_singleton] at hu
      exact hc m hm (toNat_injective (hu.symm.trans heq))
  eq_iff := by
    intro m _ m' _
    exact toNat_injective.eq_iff.symm

/-! ## What the gates check -/

/-- The text as the gates of the backend read it. -/
def seen (sql : String) : Except Unclosed (List Char) :=
  visible id (.plain id) .text (trimBy Text.isWhiteSpace sql.toList)

/-- The text as the gate of the sidecar reads it. -/
def seenBySidecar (sql : List ℕ) : Except Unclosed (List ℕ) :=
  visible Char.toNat (.plain Char.toNat) .text (trimBy Java.isTrimmed sql)

theorem tokensOf_rdropWhile (sql : List Char) :
    tokensOf (sql.rdropWhile Text.isWhiteSpace) = tokensOf sql := by
  have hafter : ∀ c ∈ sql.rtakeWhile Text.isWhiteSpace, isWordCharacter c = false := by
    intro c hc
    exact isWordCharacter_of_isWhiteSpace (List.mem_rtakeWhile_imp hc)
  have hsurrounded := @sqlTokens_surrounded Char isWordCharacter Char.toUpper []
    (sql.rdropWhile Text.isWhiteSpace) _ (fun _ h => absurd h List.not_mem_nil) hafter
  rw [List.nil_append, List.rdropWhile_append_rtakeWhile] at hsurrounded
  rw [tokensOf, tokensOf, hsurrounded]

/-- The tokens of the statement are those of the scanned text. -/
theorem tokensOf_trimSingleTrailingSemicolon (sql : List Char) :
    tokensOf (trimSingleTrailingSemicolon (trimBy Text.isWhiteSpace sql)) = tokensOf sql := by
  have htrim : tokensOf (trimBy Text.isWhiteSpace sql) = tokensOf sql := by
    rw [tokensOf, tokensOf, sqlTokens_trimBy fun c hc => isWordCharacter_of_isWhiteSpace hc]
  rw [trimSingleTrailingSemicolon, tokensOf_rdropWhile, ← htrim]
  split_ifs with hlast
  · rw [tokensOf, sqlTokens_dropLast (by decide) hlast, ← tokensOf, tokensOf_rdropWhile]
  · rfl

/-- What the two gates of the backend ask of the visible part, with the kinds of statements
that one of them takes. -/
structure Classified (kinds : List String → Prop) (text : List Char) : Prop where
  single : containsMultipleStatements Text.isWhiteSpace ';' text = false
  safe : ∀ token ∈ tokensOf text, token ∉ unsafeTokens
  kind : kinds (tokensOf text)

/-- The first word of a read-only statement, with the second one after `EXPLAIN`. -/
def startsReadOnly : List String → Prop
  | [] => False
  | first :: rest =>
    first ∈ ["SELECT", "WITH", "SHOW", "DESCRIBE"] ∨
      first = "EXPLAIN" ∧ ∃ second ∈ rest.head?, second ∈ ["SELECT", "WITH", "SHOW", "DESCRIBE"]

def startsWithQuery : List String → Prop
  | [] => False
  | first :: _ => first ∈ ["SELECT", "WITH"]

theorem any_unsafe_iff {tokens : List String} :
    tokens.any (unsafeTokens.contains ·) = false ↔ ∀ token ∈ tokens, token ∉ unsafeTokens := by
  simp

theorem find?_unsafe_iff {tokens : List String} :
    tokens.find? (unsafeTokens.contains ·) = none ↔ ∀ token ∈ tokens, token ∉ unsafeTokens := by
  simp

/-- **The gate before the sidecar takes one statement of safe words that starts with `SELECT`
or `WITH`.** -/
theorem sidecarAccepts_iff (sql : String) :
    validateExperimentalSidecarReadOnlySql sql = none ↔
      ∃ text, seen sql = .ok text ∧ Classified startsWithQuery text := by
  rw [validateExperimentalSidecarReadOnlySql, scanSqlForClassification_eq Function.injective_id,
    seen]
  cases visible id (.plain id) .text (trimBy Text.isWhiteSpace sql.toList) with
  | error unclosed => simp
  | ok text =>
    simp only [tokensOf_trimSingleTrailingSemicolon, Except.ok.injEq, exists_eq_left']
    cases htokens : tokensOf text with
    | nil =>
      constructor
      · intro h
        simp only [List.head?_nil] at h
        split_ifs at h
      · intro h
        have hkind := h.kind
        rw [htokens] at hkind
        exact hkind.elim
    | cons first rest =>
      simp only [List.head?_cons]
      constructor
      · intro h
        split_ifs at h with hmultiple hunsafe hkind
        refine ⟨Bool.eq_false_iff.mpr hmultiple, ?_, ?_⟩
        · rw [htokens]
          exact any_unsafe_iff.mp (Bool.eq_false_iff.mpr hunsafe)
        · rw [htokens]
          exact List.contains_iff_mem.mp hkind
      · rintro ⟨hsingle, hsafe, hkind⟩
        rw [htokens] at hsafe hkind
        have hquery : experimentalSidecarReadOnlyStatements.contains first = true :=
          List.contains_iff_mem.mpr hkind
        simp only [hsingle, any_unsafe_iff.mpr hsafe, hquery, Bool.false_eq_true, if_false,
          not_true_eq_false]

@[simp] theorem isValid_invalidValidation (reason preview : String) :
    (invalidValidation reason preview).isValid = false := rfl

@[simp] theorem isValid_validValidation (statementKind preview : String) :
    (validValidation statementKind preview).isValid = true := rfl

theorem any_readOnly_iff {token : Option String} :
    token.any (readOnlyStatements.contains ·) = true ↔
      ∃ second ∈ token, second ∈ ["SELECT", "WITH", "SHOW", "DESCRIBE"] := by
  cases token <;> simp [readOnlyStatements]

/-- The choice of the kind of statement. -/
theorem isValid_kind (first : String) (rest : List String) (preview : String) :
    (if first ∈ ["SELECT", "WITH", "SHOW", "DESCRIBE"] then validValidation first preview
      else if first = "EXPLAIN" then
        if (first :: rest)[1]?.any (readOnlyStatements.contains ·) then
          validValidation "EXPLAIN" preview
        else invalidValidation "EXPLAIN must wrap a supported read-only statement." preview
      else
        invalidValidation ("unsupported SQL statement kind: " ++ first ++ ".") preview).isValid =
          true ↔ startsReadOnly (first :: rest) := by
  have hsecond : (first :: rest)[1]? = rest.head? := by
    rw [List.getElem?_cons_succ, List.head?_eq_getElem?]
  rw [startsReadOnly, hsecond, ← any_readOnly_iff]
  split_ifs with hfirst hexplain hread
  · exact iff_of_true rfl (Or.inl hfirst)
  · exact iff_of_true rfl (Or.inr ⟨hexplain, hread⟩)
  · refine iff_of_false Bool.false_ne_true ?_
    rintro (h | h)
    · exact hfirst h
    · exact hread h.2
  · refine iff_of_false Bool.false_ne_true ?_
    rintro (h | h)
    · exact hfirst h
    · exact hexplain h.1

/-- **The first gate takes one statement of safe words that starts as one that reads.** -/
theorem isValid_iff (sql : String) :
    (validateReadOnlySql sql).isValid = true ↔
      ∃ text, seen sql = .ok text ∧ Classified startsReadOnly text := by
  rw [validateReadOnlySql, scanSqlForClassification_eq Function.injective_id, seen]
  by_cases hempty : trimBy Text.isWhiteSpace sql.toList = []
  · simp only [hempty, if_true, isValid_invalidValidation, Bool.false_eq_true, visible, final,
      Except.ok.injEq, exists_eq_left', false_iff]
    intro h
    exact h.kind
  rw [if_neg hempty]
  cases visible id (.plain id) .text (trimBy Text.isWhiteSpace sql.toList) with
  | error unclosed => simp
  | ok text =>
    simp only [tokensOf_trimSingleTrailingSemicolon, Except.ok.injEq, exists_eq_left']
    have hnil : trimSingleTrailingSemicolon (trimBy Text.isWhiteSpace text) = [] →
        tokensOf text = [] := by
      intro h
      rw [← tokensOf_trimSingleTrailingSemicolon, h]
      rfl
    cases htokens : tokensOf text with
    | nil =>
      constructor
      · intro h
        simp only [List.head?_nil] at h
        split_ifs at h <;> simp at h
      · intro h
        have hkind := h.kind
        rw [htokens] at hkind
        exact hkind.elim
    | cons first rest =>
      have hne : trimSingleTrailingSemicolon (trimBy Text.isWhiteSpace text) ≠ [] := by
        intro h
        rw [hnil h] at htokens
        cases htokens
      simp only [List.head?_cons, if_neg hne]
      constructor
      · intro h
        by_cases hmultiple : containsMultipleStatements Text.isWhiteSpace ';' text = true
        · rw [if_pos hmultiple] at h
          cases h
        rw [if_neg hmultiple] at h
        cases hfind : (first :: rest).find? (unsafeTokens.contains ·) with
        | some token =>
          rw [hfind] at h
          cases h
        | none =>
          rw [hfind] at h
          refine ⟨Bool.eq_false_iff.mpr hmultiple, ?_, ?_⟩
          · rw [htokens]
            exact find?_unsafe_iff.mp hfind
          · rw [htokens]
            exact (isValid_kind first rest _).mp h
      · rintro ⟨hsingle, hsafe, hkind⟩
        rw [htokens] at hsafe hkind
        simp only [hsingle, find?_unsafe_iff.mpr hsafe, Bool.false_eq_true, if_false]
        exact (isValid_kind first rest _).mpr hkind

theorem isWordUnit_of_lt {letters : Java.Letters} {u : ℕ} (h : u < 128) :
    isWordUnit letters u = true ↔
      48 ≤ u ∧ u ≤ 57 ∨ 65 ≤ u ∧ u ≤ 90 ∨ 97 ≤ u ∧ u ≤ 122 ∨ u = 95 := by
  rw [isWordUnit, letters.isLetterOrDigit_ascii u h]
  simp only [Bool.or_eq_true, Bool.and_eq_true, decide_eq_true_eq, beq_iff_eq]
  omega

theorem isWordUnit_of_isTrimmed {letters : Java.Letters} {u : ℕ} (h : Java.isTrimmed u = true) :
    isWordUnit letters u = false := by
  have hu : u ≤ 32 := by simpa [Java.isTrimmed] using h
  by_contra hword
  rw [Bool.not_eq_false, isWordUnit_of_lt (by omega)] at hword
  omega

/-- The words of a text of units. -/
def sidecarTokensOf (letters : Java.Letters) (sql : List ℕ) : List (List ℕ) :=
  sqlTokens (isWordUnit letters) letters.toUpperCase sql

theorem sidecarTokensOf_trim (letters : Java.Letters) (sql : List ℕ) :
    sidecarTokensOf letters
        (sidecarTrimSingleTrailingSemicolon (trimBy Java.isTrimmed sql)) =
      sidecarTokensOf letters sql := by
  have htrim : ∀ text, sidecarTokensOf letters (trimBy Java.isTrimmed text) =
      sidecarTokensOf letters text := by
    intro text
    exact sqlTokens_trimBy (fun u hu => isWordUnit_of_isTrimmed hu) text
  have hsemicolon : isWordUnit letters 59 = false := by
    rw [Bool.eq_false_iff, Ne, isWordUnit_of_lt (by decide)]
    decide
  rw [sidecarTrimSingleTrailingSemicolon]
  split_ifs with hlast
  · rw [htrim, sidecarTokensOf, sqlTokens_dropLast hsemicolon hlast, ← sidecarTokensOf, htrim,
      htrim]
  · rw [htrim, htrim]

/-- **The gate of the sidecar asks for the same in the words of Java.** -/
theorem isSidecarReadOnlySql_iff (letters : Java.Letters) (sql : List ℕ) :
    isSidecarReadOnlySql letters sql = true ↔
      ∃ text, seenBySidecar sql = .ok text ∧
        containsMultipleStatements Java.isWhitespace 59 text = false ∧
        (sidecarTokensOf letters text).any isUnsafeToken = false ∧
        ∃ first ∈ (sidecarTokensOf letters text).head?,
          first = Java.text "SELECT" ∨ first = Java.text "WITH" := by
  rw [isSidecarReadOnlySql, scanSqlForClassification_eq toNat_injective, seenBySidecar]
  cases visible Char.toNat (.plain Char.toNat) .text (trimBy Java.isTrimmed sql) with
  | error unclosed => simp
  | ok text =>
    have htokens : sqlTokens (isWordUnit letters) letters.toUpperCase
        (sidecarTrimSingleTrailingSemicolon (trimBy Java.isTrimmed text)) =
          sidecarTokensOf letters text := sidecarTokensOf_trim letters text
    simp only [htokens, Except.ok.injEq, exists_eq_left']
    cases hmultiple : containsMultipleStatements Java.isWhitespace 59 text with
    | true => simp
    | false =>
      cases hunsafe : (sidecarTokensOf letters text).any isUnsafeToken with
      | true =>
        cases (sidecarTokensOf letters text).head? with
        | none => simp
        | some first => simp
      | false =>
        cases (sidecarTokensOf letters text).head? with
        | none => simp
        | some first => simp

end HobitQueue.Jdbc
