import HobitQueue.Jdbc.GateChecks

/-!
# What the read-only gates let through

A text that the backend accepts is one read-only statement to a driver, as long as the driver
ends its comments where the scanner does. What the gate before the sidecar accepts, the first
gate accepts. What the sidecar accepts, the gate before it accepts exactly when no unit beyond
ASCII parts a word that matters and no odd control character stands at the end.

## Main results

* `gates_single_minded` — the three gates.
* `onlyReadOnly_iff` — the drivers for which the first gate is right about every text.
-/

namespace HobitQueue.Jdbc

open SqlText

/-! ## One statement that reads -/

/-- The words of a text, in upper case. -/
def keywords (text : List Char) : List String :=
  (((text.splitOnP (!isWordCharacter ·)).filter (· ≠ [])).map (List.map Char.toUpper)).map
    String.ofList

/-- The statements of a text: its parts between semicolons that are not blank. -/
def statements (text : List Char) : List (List Char) :=
  (text.splitOnP (· == ';')).filter fun statement => !statement.all Text.isWhiteSpace

/-- A text, without literals, quoted identifiers and comments, that is one statement that
reads. -/
structure ReadOnlyText (text : List Char) : Prop where
  single : ∃ statement, statements text = [statement] ∧ startsReadOnly (keywords statement)
  safe : ∀ word ∈ keywords text, word ∉ unsafeTokens

theorem tokensOf_eq (text : List Char) : tokensOf text = keywords text := by
  rw [tokensOf, sqlTokens_eq, keywords, List.filter_map]
  congr 3
  funext word
  simp

theorem isWordCharacter_semicolon : isWordCharacter ';' = false := by decide

theorem isWhiteSpace_semicolon : Text.isWhiteSpace ';' = false := by decide

theorem keywords_append_blank {text blank : List Char}
    (h : ∀ c ∈ blank, isWordCharacter c = false) : keywords (text ++ blank) = keywords text := by
  have hsurrounded := @sqlTokens_surrounded Char isWordCharacter Char.toUpper [] text blank
    (fun _ hc => absurd hc List.not_mem_nil) h
  rw [← tokensOf_eq, ← tokensOf_eq, tokensOf, tokensOf, ← hsurrounded, List.nil_append]

/-- A text with a word is not blank. -/
theorem all_isWhiteSpace_eq_false {text : List Char} (h : keywords text ≠ []) :
    text.all Text.isWhiteSpace = false := by
  rw [Bool.eq_false_iff]
  intro hall
  apply h
  have hblank : ∀ c ∈ text, isWordCharacter c = false := by
    intro c hc
    exact isWordCharacter_of_isWhiteSpace (List.all_eq_true.mp hall c hc)
  have happend := @keywords_append_blank [] text hblank
  rw [List.nil_append] at happend
  rw [happend]
  rfl

/-- A text with nothing but white space after its first semicolon has one statement. -/
theorem statements_eq {text : List Char} (hsome : keywords text ≠ [])
    (hsingle : ∀ c ∈ afterSemicolon ';' text, Text.isWhiteSpace c = true) :
    ∃ statement, statements text = [statement] ∧ keywords statement = keywords text := by
  by_cases hmem : ';' ∈ text
  · obtain ⟨statement, after, rfl, hstatement⟩ := List.eq_append_cons_of_mem hmem
    rw [afterSemicolon_append hstatement, afterSemicolon_cons] at hsingle
    have hblank : ∀ c ∈ ';' :: after, isWordCharacter c = false := by
      intro c hc
      obtain rfl | hc := List.mem_cons.mp hc
      · exact isWordCharacter_semicolon
      · exact isWordCharacter_of_isWhiteSpace (hsingle c hc)
    have hwords : keywords (statement ++ ';' :: after) = keywords statement :=
      keywords_append_blank hblank
    have hnone : ∀ c ∈ statement, (c == ';') = false := by
      intro c hc
      rw [beq_eq_false_iff_ne]
      rintro rfl
      exact hstatement hc
    have hafter : ∀ c ∈ after, (c == ';') = false := by
      intro c hc
      rw [beq_eq_false_iff_ne]
      rintro rfl
      exact absurd (hsingle ';' hc) (by simp [isWhiteSpace_semicolon])
    have hall : after.all Text.isWhiteSpace = true := List.all_eq_true.mpr hsingle
    refine ⟨statement, ?_, hwords.symm⟩
    rw [hwords] at hsome
    rw [statements, List.splitOnP_append_cons_of_forall_mem hnone ';' (by decide),
      List.splitOnP_eq_singleton hafter]
    simp [all_isWhiteSpace_eq_false hsome, hall]
  · have hnone : ∀ c ∈ text, (c == ';') = false := by
      intro c hc
      rw [beq_eq_false_iff_ne]
      rintro rfl
      exact hmem hc
    refine ⟨text, ?_, rfl⟩
    rw [statements, List.splitOnP_eq_singleton hnone]
    simp [all_isWhiteSpace_eq_false hsome]

/-! ## The three gates -/

/-- The first gate accepts a text only if it is one statement that reads to a driver. -/
def OnlyReadOnly (d : Dialect (id : Char → Char)) (sql : String) : Prop :=
  (validateReadOnlySql sql).isValid = true →
    ∃ text, visible id d .text sql.toList = .ok text ∧ ReadOnlyText text

/-- The gate of the sidecar accepts a text only if the gate before it does. -/
def SidecarAgrees (letters : Java.Letters) (sql : String) : Prop :=
  isSidecarReadOnlySql letters (Java.text sql) = true →
    validateExperimentalSidecarReadOnlySql sql = none

/-- The words of Java. -/
def javaWords (letters : Java.Letters) (units : List ℕ) : List (List ℕ) :=
  (units.splitOnP (!isWordUnit letters ·)).filter (· ≠ [])

/-- The parts of a word between its units beyond ASCII. -/
def asciiParts (word : List ℕ) : List (List ℕ) := word.splitOnP (128 ≤ ·)

/-- In the words of Java, one statement of safe words that starts with `SELECT` or `WITH`. -/
structure JavaReads (letters : Java.Letters) (units : List ℕ) : Prop where
  single : ∀ u ∈ afterSemicolon 59 units, Java.isWhitespace u = true
  safe : ∀ word ∈ javaWords letters units, ∀ token ∈ unsafeTokens,
    word.map letters.toUpperCase ≠ Java.text token
  query : ∃ first ∈ (javaWords letters units).head?,
    first.map letters.toUpperCase ∈ [Java.text "SELECT", Java.text "WITH"]

/-- No control character other than a tab or an end of line follows the first semicolon, units
beyond ASCII cut no refused word out of a word of Java, and the first word has none of them. -/
structure ReadAlike (letters : Java.Letters) (text : List Char) : Prop where
  controls : ∀ c ∈ afterSemicolon ';' text, c.toNat < 32 → 9 ≤ c.toNat ∧ c.toNat ≤ 13
  parts : ∀ word ∈ javaWords letters (text.flatMap Java.units), (∃ u ∈ word, 128 ≤ u) →
    ∀ part ∈ asciiParts word, ∀ token ∈ unsafeTokens,
      part.map letters.toUpperCase ≠ Java.text token
  first : ∀ first ∈ (javaWords letters (text.flatMap Java.units)).head?, ∀ u ∈ first, u < 128

/-- A text that Java reads as one safe query is one that both read alike. -/
def SafelyRead (letters : Java.Letters) (sql : String) : Prop :=
  ∀ units, seenBySidecar (Java.text sql) = .ok units → JavaReads letters units →
    ∀ text, visible id (.plain id) .text sql.toList = .ok text → ReadAlike letters text

theorem readOnlyText_of_classified {text : List Char} (h : Classified startsReadOnly text) :
    ReadOnlyText text := by
  have hkind := h.kind
  have hsafe := h.safe
  rw [tokensOf_eq] at hkind hsafe
  have hsome : keywords text ≠ [] := by
    intro hnil
    rw [hnil] at hkind
    exact hkind
  have hsingle := (containsMultipleStatements_eq_false isWhiteSpace_semicolon text).mp h.single
  obtain ⟨statement, hstatement, hwords⟩ := statements_eq hsome hsingle
  refine ⟨⟨statement, hstatement, ?_⟩, hsafe⟩
  rw [hwords]
  exact hkind

/-- Blanks around a text do not matter to the gates of the backend. -/
theorem classified_surrounded {kinds : List String → Prop} {before text after : List Char}
    (hbefore : ∀ c ∈ before, Text.isWhiteSpace c = true)
    (hafter : ∀ c ∈ after, Text.isWhiteSpace c = true) :
    Classified kinds (before ++ text ++ after) ↔ Classified kinds text := by
  have htokens : tokensOf (before ++ text ++ after) = tokensOf text := by
    rw [tokensOf, sqlTokens_surrounded (fun c hc => isWordCharacter_of_isWhiteSpace (hbefore c hc))
      fun c hc => isWordCharacter_of_isWhiteSpace (hafter c hc), tokensOf]
  have hno : ∀ {blank : List Char}, (∀ c ∈ blank, Text.isWhiteSpace c = true) → ';' ∉ blank := by
    intro blank hblank hmem
    exact absurd (hblank ';' hmem) (by simp [isWhiteSpace_semicolon])
  have hsingle :
      containsMultipleStatements Text.isWhiteSpace ';' (before ++ text ++ after) = false ↔
        containsMultipleStatements Text.isWhiteSpace ';' text = false := by
    rw [containsMultipleStatements_eq_false isWhiteSpace_semicolon,
      containsMultipleStatements_eq_false isWhiteSpace_semicolon]
    simp only [mem_afterSemicolon_surrounded (hno hbefore) (hno hafter)]
    constructor
    · intro h c hc
      exact h c (Or.inl hc)
    · rintro h c (hc | ⟨-, hc⟩)
      · exact h c hc
      · exact hafter c hc
  constructor
  · intro h
    refine ⟨hsingle.mp h.single, ?_, ?_⟩
    · rw [← htokens]
      exact h.safe
    · rw [← htokens]
      exact h.kind
  · intro h
    refine ⟨hsingle.mpr h.single, ?_, ?_⟩
    · rw [htokens]
      exact h.safe
    · rw [htokens]
      exact h.kind

theorem onlyReadOnly_of_endsAlike {d : Dialect (id : Char → Char)} {sql : String}
    (h : EndsAlike id d .text sql.toList) : OnlyReadOnly d sql := by
  intro hvalid
  obtain ⟨text, hseen, hclassified⟩ := (isValid_iff sql).mp hvalid
  obtain ⟨before, after, hbefore, hafter, hvisible⟩ := @visible_trim Char _ id (.plain id)
    Text.isWhiteSpace (fun _ hc => inert_of_isWhiteSpace hc) sql.toList
  rw [← seen, hseen, Except.map] at hvisible
  refine ⟨before ++ text ++ after, ?_, ?_⟩
  · rw [visible_eq_plain h, hvisible]
  · exact readOnlyText_of_classified ((classified_surrounded hbefore hafter).mpr hclassified)

/-- What the gate before the sidecar accepts, the first gate accepts. -/
theorem isValid_of_sidecarAccepts {sql : String}
    (h : validateExperimentalSidecarReadOnlySql sql = none) :
    (validateReadOnlySql sql).isValid = true := by
  obtain ⟨text, hseen, hclassified⟩ := (sidecarAccepts_iff sql).mp h
  refine (isValid_iff sql).mpr ⟨text, hseen, hclassified.single, hclassified.safe, ?_⟩
  have hkind := hclassified.kind
  cases htokens : tokensOf text with
  | nil =>
    rw [htokens] at hkind
    exact hkind.elim
  | cons first rest =>
    rw [htokens] at hkind
    left
    obtain rfl | hwith := List.mem_cons.mp hkind
    · decide
    · rw [List.mem_singleton.mp hwith]
      decide

/-! ## Words of Java and of the backend -/

theorem javaWords_eq (letters : Java.Letters) (units : List ℕ) :
    javaWords letters units = sqlTokens (isWordUnit letters) id units := by
  rw [sqlTokens_eq, javaWords, List.map_id_fun, List.map_id]

theorem sidecarTokensOf_eq (letters : Java.Letters) (units : List ℕ) :
    sidecarTokensOf letters units =
      (javaWords letters units).map (List.map letters.toUpperCase) := by
  rw [sidecarTokensOf, sqlTokens_eq, javaWords, List.filter_map]
  congr 2
  funext word
  simp

/-- The words of the backend, in units. -/
def asciiTokens (letters : Java.Letters) (units : List ℕ) : List (List ℕ) :=
  sqlTokens (fun u => decide (u < 128) && isWordUnit letters u) letters.toUpperCase units

theorem asciiTokens_units (letters : Java.Letters) (text : List Char) :
    asciiTokens letters (text.flatMap Java.units) =
      (sqlTokens isWordCharacter Char.toUpper text).map (List.map Char.toNat) := by
  refine sqlTokens_flatMap ?_ ?_
  · intro c _ hword
    rw [isWordCharacter_iff] at hword
    have hascii : c.toNat < 128 := by omega
    refine ⟨Java.units_of_lt (by omega), ?_, ?_⟩
    · rw [(isWordUnit_of_lt hascii).mpr hword, decide_eq_true hascii, Bool.and_self]
    · rw [letters.toUpperCase_ascii c.toNat hascii, toNat_toUpper hascii]
  · intro c hc hother
    have hne : Java.units c ≠ [] := by
      rw [Java.units]
      split_ifs <;> simp
    refine ⟨hne, ?_⟩
    intro u hu
    by_cases hascii : c.toNat < 128
    · rw [Java.units_of_lt (by omega), List.mem_singleton] at hu
      have hno : isWordUnit letters u = false := by
        rw [Bool.eq_false_iff, Ne, hu, isWordUnit_of_lt hascii, ← isWordCharacter_iff]
        simp [hother]
      rw [hno, Bool.and_false]
    · have hbeyond := Java.le_of_mem_units (by omega) hu
      rw [decide_eq_false (by omega), Bool.false_and]

/-- The words of the backend in a word of Java. -/
def partTokens (letters : Java.Letters) (word : List ℕ) : List (List ℕ) :=
  sqlTokens (fun u => decide (u < 128)) letters.toUpperCase word

/-- **The words of the backend are those in the words of Java.** -/
theorem asciiTokens_eq (letters : Java.Letters) (units : List ℕ) :
    asciiTokens letters units = (javaWords letters units).flatMap (partTokens letters) := by
  have hfiner : ∀ u, (decide (u < 128) && isWordUnit letters u) = true →
      isWordUnit letters u = true := fun u hu => (Bool.and_eq_true_iff.mp hu).2
  rw [asciiTokens, sqlTokens_refine hfiner, ← javaWords_eq]
  refine List.flatMap_congr fun word hword => sqlTokens_congr fun u hu => ?_
  have hunit : isWordUnit letters u = true := by
    rw [javaWords_eq] at hword
    have hflat := List.mem_flatten.mpr ⟨word, hword, hu⟩
    rw [flatten_sqlTokens, List.map_id, List.mem_filter] at hflat
    exact hflat.2
  rw [hunit, Bool.and_true]

theorem mem_partTokens {letters : Java.Letters} {word token : List ℕ} :
    token ∈ partTokens letters word ↔
      token ≠ [] ∧ ∃ part ∈ asciiParts word, part.map letters.toUpperCase = token := by
  have hparts : word.splitOnP (fun u => !decide (u < 128)) = asciiParts word := by
    rw [asciiParts]
    congr 1
    funext u
    rw [← decide_not, decide_eq_decide, Nat.not_lt]
  rw [partTokens, sqlTokens_eq, hparts, List.mem_filter, List.mem_map]
  simp [and_comm]

/-- A word without units beyond ASCII is a word of the backend. -/
theorem partTokens_of_ascii {letters : Java.Letters} {word : List ℕ} (hne : word ≠ [])
    (h : ∀ u ∈ word, u < 128) : partTokens letters word = [word.map letters.toUpperCase] := by
  have hwhole : word.splitOnP (fun u => !decide (u < 128)) = [word] :=
    List.splitOnP_eq_singleton fun u hu => by simp [h u hu]
  rw [partTokens, sqlTokens_eq, hwhole]
  simp [hne]

/-- A word of the backend in a longer word of Java. -/
theorem sublist_of_mem_partTokens {letters : Java.Letters} {word token : List ℕ}
    (h : token ∈ partTokens letters word) (hbeyond : ∃ u ∈ word, 128 ≤ u) :
    token.Sublist (word.map letters.toUpperCase) ∧ token.length < word.length := by
  have hsub := List.sublist_flatten_of_mem h
  rw [partTokens, flatten_sqlTokens] at hsub
  refine ⟨hsub.trans (List.filter_sublist.map _), hsub.length_le.trans_lt ?_⟩
  obtain ⟨u, hu, hge⟩ := hbeyond
  rw [List.length_map]
  exact List.length_filter_lt_length_iff_exists.mpr ⟨u, hu, by simpa using hge⟩

/-- A control character that is classed alike, or a blank of Java, is white space. -/
theorem isWhiteSpace_of_units {c : Char} (hcontrol : c.toNat < 32 → 9 ≤ c.toNat ∧ c.toNat ≤ 13)
    (h : ∀ u ∈ Java.units c, Java.isWhitespace u = true ∨ Java.isTrimmed u = true) :
    Text.isWhiteSpace c = true := by
  by_cases hplane : c.toNat < 0x10000
  · have hunit := h c.toNat (by rw [Java.units_of_lt hplane]; exact List.mem_singleton_self _)
    simp only [Java.isWhitespace, Java.isTrimmed, Bool.or_eq_true, Bool.and_eq_true,
      decide_eq_true_eq, beq_iff_eq] at hunit
    rw [isWhiteSpace_iff]
    omega
  · have hunit := h (0xD800 + (c.toNat - 0x10000) / 0x400) (by
      rw [Java.units, if_neg hplane]
      exact List.mem_cons_self)
    have hmax : c.toNat < 0x110000 := by
      have hvalid := c.valid
      have : c.toNat = c.val.toNat := rfl
      rcases hvalid with hvalid | hvalid
      · omega
      · omega
    simp only [Java.isWhitespace, Java.isTrimmed, Bool.or_eq_true, Bool.and_eq_true,
      decide_eq_true_eq, beq_iff_eq] at hunit
    omega

theorem afterSemicolon_units (text : List Char) :
    afterSemicolon 59 (text.flatMap Java.units) =
      (afterSemicolon ';' text).flatMap Java.units := by
  refine @afterSemicolon_flatMap Char ℕ _ _ ';' 59 Java.units (by decide) ?_ text
  intro c hc hmem
  by_cases hascii : c.toNat < 128
  · rw [Java.units_of_lt (by omega), List.mem_singleton] at hmem
    exact hc (toNat_injective hmem.symm)
  · have := Java.le_of_mem_units (by omega) hmem
    omega

/-- The words that the gates look for are ASCII. -/
theorem text_eq_of_mem {token : String} (h : token ∈ "SELECT" :: "WITH" :: unsafeTokens) :
    Java.text token = token.toList.map Char.toNat := by
  have hall : ∀ token ∈ "SELECT" :: "WITH" :: unsafeTokens,
      Java.text token = token.toList.map Char.toNat := by decide +kernel
  exact hall token h

theorem map_toNat_eq_text_iff {word : List Char} {token : String}
    (h : token ∈ "SELECT" :: "WITH" :: unsafeTokens) :
    word.map Char.toNat = Java.text token ↔ String.ofList word = token := by
  rw [text_eq_of_mem h, (List.map_injective_iff.mpr toNat_injective).eq_iff,
    ← String.toList_inj, String.toList_ofList]

/-- The words that the sidecar refuses are those of the backend. -/
theorem isUnsafeToken_eq_false {units : List ℕ} :
    isUnsafeToken units = false ↔ ∀ token ∈ unsafeTokens, units ≠ Java.text token := by
  have hsame : ∀ token, token ∈ sidecarUnsafeTokens ↔ token ∈ unsafeTokens := by
    have hall : (∀ token ∈ sidecarUnsafeTokens, token ∈ unsafeTokens) ∧
        ∀ token ∈ unsafeTokens, token ∈ sidecarUnsafeTokens := by decide +kernel
    exact fun token => ⟨hall.1 token, hall.2 token⟩
  rw [isUnsafeToken, List.any_eq_false]
  simp only [hsame, beq_iff_eq]
  exact forall₂_congr fun token _ => not_congr eq_comm

theorem safe_units_iff (letters : Java.Letters) (text : List Char) :
    (∀ token ∈ tokensOf text, token ∉ unsafeTokens) ↔
      ∀ units ∈ asciiTokens letters (text.flatMap Java.units), ∀ token ∈ unsafeTokens,
        units ≠ Java.text token := by
  rw [asciiTokens_units, tokensOf, List.forall_mem_map, List.forall_mem_map]
  refine forall₂_congr fun word _ => ?_
  constructor
  · intro h token htoken heq
    refine h ?_
    rwa [(map_toNat_eq_text_iff (by simp [htoken])).mp heq]
  · intro h hmem
    exact h _ hmem ((map_toNat_eq_text_iff (by simp [hmem])).mpr rfl)

theorem startsWithQuery_units_iff (letters : Java.Letters) (text : List Char) :
    startsWithQuery (tokensOf text) ↔
      ∃ first ∈ (asciiTokens letters (text.flatMap Java.units)).head?,
        first ∈ [Java.text "SELECT", Java.text "WITH"] := by
  rw [asciiTokens_units, tokensOf]
  cases sqlTokens isWordCharacter Char.toUpper text with
  | nil => simp [startsWithQuery]
  | cons word words =>
    have hselect := @map_toNat_eq_text_iff word "SELECT" (by simp)
    have hwith := @map_toNat_eq_text_iff word "WITH" (by simp)
    simp [startsWithQuery, hselect, hwith]

/-! ## The gate of the sidecar -/

theorem isSidecarReadOnlySql_iff_reads (letters : Java.Letters) (sql : List ℕ) :
    isSidecarReadOnlySql letters sql = true ↔
      ∃ units, seenBySidecar sql = .ok units ∧ JavaReads letters units := by
  rw [isSidecarReadOnlySql_iff]
  refine exists_congr fun units => and_congr_right fun _ => ?_
  rw [containsMultipleStatements_eq_false (by decide), sidecarTokensOf_eq, List.any_map,
    List.any_eq_false, List.head?_map]
  simp only [Function.comp_apply, Bool.not_eq_true, isUnsafeToken_eq_false]
  constructor
  · rintro ⟨hsingle, hsafe, first, hfirst, hkind⟩
    obtain ⟨word, hword, rfl⟩ := Option.map_eq_some_iff.mp hfirst
    exact ⟨hsingle, hsafe, word, hword, by simpa using hkind⟩
  · rintro ⟨hsingle, hsafe, word, hword, hkind⟩
    exact ⟨hsingle, hsafe, _, Option.map_eq_some_iff.mpr ⟨word, hword, rfl⟩, by simpa using hkind⟩

section Alike

variable {letters : Java.Letters} {text : List Char} {before units after : List ℕ}

/-- What the sidecar takes for one statement, the gate before it does too, but for control
characters. -/
theorem single_iff_controls (hbefore : ∀ u ∈ before, Java.isTrimmed u = true)
    (hafter : ∀ u ∈ after, Java.isTrimmed u = true)
    (htext : text.flatMap Java.units = before ++ units ++ after)
    (hreads : JavaReads letters units) :
    containsMultipleStatements Text.isWhiteSpace ';' text = false ↔
      ∀ c ∈ afterSemicolon ';' text, c.toNat < 32 → 9 ≤ c.toNat ∧ c.toNat ≤ 13 := by
  rw [containsMultipleStatements_eq_false isWhiteSpace_semicolon]
  refine forall₂_congr fun c hc => ⟨fun hspace hlt => ?_, fun hcontrol => ?_⟩
  · rw [isWhiteSpace_iff] at hspace
    omega
  · -- what follows the semicolon is blank to the sidecar, or was trimmed by it
    refine isWhiteSpace_of_units hcontrol fun u hu => ?_
    have hmem : u ∈ afterSemicolon 59 (before ++ units ++ after) := by
      rw [← htext, afterSemicolon_units]
      exact List.mem_flatMap.mpr ⟨c, hc, hu⟩
    have hno : ∀ blank : List ℕ, (∀ u ∈ blank, Java.isTrimmed u = true) → 59 ∉ blank := by
      intro blank hblank hsemicolon
      exact absurd (hblank 59 hsemicolon) (by decide)
    rw [mem_afterSemicolon_surrounded (hno before hbefore) (hno after hafter)] at hmem
    obtain hmem | ⟨-, hmem⟩ := hmem
    · exact Or.inl (hreads.single u hmem)
    · exact Or.inr (hafter u hmem)

theorem javaWords_surrounded (hbefore : ∀ u ∈ before, Java.isTrimmed u = true)
    (hafter : ∀ u ∈ after, Java.isTrimmed u = true) :
    javaWords letters (before ++ units ++ after) = javaWords letters units := by
  rw [javaWords_eq, javaWords_eq,
    sqlTokens_surrounded (fun u hu => isWordUnit_of_isTrimmed (hbefore u hu))
      fun u hu => isWordUnit_of_isTrimmed (hafter u hu)]

theorem ne_nil_of_mem_javaWords {word : List ℕ} (h : word ∈ javaWords letters units) :
    word ≠ [] := by
  simpa using (List.mem_filter.mp h).2

/-- A text of safe words of Java has safe words, but for those that units beyond ASCII cut. -/
theorem safe_iff_parts (hreads : JavaReads letters units) :
    (∀ token ∈ asciiTokens letters units, ∀ unsafeToken ∈ unsafeTokens,
        token ≠ Java.text unsafeToken) ↔
      ∀ word ∈ javaWords letters units, (∃ u ∈ word, 128 ≤ u) →
        ∀ part ∈ asciiParts word, ∀ unsafeToken ∈ unsafeTokens,
          part.map letters.toUpperCase ≠ Java.text unsafeToken := by
  rw [asciiTokens_eq]
  constructor
  · intro h word hword _ part hpart unsafeToken hunsafe heq
    have hne : ∀ token ∈ unsafeTokens, Java.text token ≠ [] := by decide +kernel
    refine h _ (List.mem_flatMap.mpr ⟨word, hword, mem_partTokens.mpr ⟨?_, part, hpart, rfl⟩⟩)
      unsafeToken hunsafe heq
    rw [heq]
    exact hne unsafeToken hunsafe
  · intro h token htoken unsafeToken hunsafe
    obtain ⟨word, hword, htoken⟩ := List.mem_flatMap.mp htoken
    by_cases hbeyond : ∃ u ∈ word, 128 ≤ u
    · obtain ⟨-, part, hpart, rfl⟩ := mem_partTokens.mp htoken
      exact h word hword hbeyond part hpart unsafeToken hunsafe
    · have hascii : ∀ u ∈ word, u < 128 := fun u hu => by
        by_contra hge
        exact hbeyond ⟨u, hu, by omega⟩
      rw [partTokens_of_ascii (ne_nil_of_mem_javaWords hword) hascii, List.mem_singleton] at htoken
      rw [htoken]
      exact hreads.safe word hword unsafeToken hunsafe

/-- The units beyond ASCII have only two capitals in it, so a query word keeps a part. -/
theorem exists_ascii_of_query {word : List ℕ}
    (h : word.map letters.toUpperCase ∈ [Java.text "SELECT", Java.text "WITH"]) :
    ∃ u ∈ word, u < 128 := by
  have hother : ∀ kind ∈ [Java.text "SELECT", Java.text "WITH"],
      ∃ v ∈ kind, v < 128 ∧ v ∉ [73, 83] := by decide +kernel
  obtain ⟨v, hv, hlt, hno⟩ := hother _ h
  obtain ⟨u, hu, rfl⟩ := List.mem_map.mp hv
  refine ⟨u, hu, ?_⟩
  by_contra hge
  exact hno (letters.toUpperCase_beyond u (by omega) hlt)

/-- A text that starts with a query word of Java starts with one to the gate before the sidecar
exactly when that word is ASCII. -/
theorem query_iff_first (hreads : JavaReads letters units) :
    (∃ first ∈ (asciiTokens letters units).head?,
        first ∈ [Java.text "SELECT", Java.text "WITH"]) ↔
      ∀ first ∈ (javaWords letters units).head?, ∀ u ∈ first, u < 128 := by
  obtain ⟨word, hword, hkind⟩ := hreads.query
  obtain ⟨words, hwords⟩ : ∃ words, javaWords letters units = word :: words :=
    ⟨_, List.eq_cons_of_mem_head? hword⟩
  have hne : word ≠ [] := ne_nil_of_mem_javaWords (List.mem_of_mem_head? hword)
  rw [asciiTokens_eq, hwords, List.flatMap_cons, List.head?_cons]
  simp only [Option.mem_some_iff, forall_eq']
  constructor
  · rintro ⟨first, hfirst, hquery⟩ u hu
    by_contra hge
    have hbeyond : ∃ u ∈ word, 128 ≤ u := ⟨u, hu, by omega⟩
    -- the word keeps an ASCII part, which is shorter than it
    obtain ⟨v, hv, hlt⟩ := exists_ascii_of_query hkind
    cases hparts : partTokens letters word with
    | nil =>
      have hflat := @flatten_sqlTokens ℕ (fun u => decide (u < 128)) letters.toUpperCase word
      rw [← partTokens, hparts, List.flatten_nil] at hflat
      have hkept : v ∈ word.filter fun u => decide (u < 128) :=
        List.mem_filter.mpr ⟨hv, decide_eq_true hlt⟩
      rw [List.map_eq_nil_iff.mp hflat.symm] at hkept
      cases hkept
    | cons part parts =>
      rw [hparts, List.cons_append, List.head?_cons, Option.mem_some_iff] at hfirst
      subst hfirst
      obtain ⟨hsub, hshort⟩ := sublist_of_mem_partTokens
        (hparts ▸ List.mem_cons_self : part ∈ partTokens letters word) hbeyond
      rw [← @List.length_map _ _ word letters.toUpperCase] at hshort
      have hnone : ∀ kind ∈ [Java.text "SELECT", Java.text "WITH"],
          ∀ part ∈ [Java.text "SELECT", Java.text "WITH"],
            part.Sublist kind → ¬ part.length < kind.length := by decide +kernel
      exact hnone _ hkind part hquery hsub hshort
  · intro hascii
    rw [partTokens_of_ascii hne hascii, List.singleton_append, List.head?_cons]
    exact ⟨_, rfl, hkind⟩

/-- **What Java reads as a safe query, the gate before the sidecar takes exactly when both read it
alike.** -/
theorem classified_iff_readAlike (hbefore : ∀ u ∈ before, Java.isTrimmed u = true)
    (hafter : ∀ u ∈ after, Java.isTrimmed u = true)
    (htext : text.flatMap Java.units = before ++ units ++ after)
    (hreads : JavaReads letters units) :
    Classified startsWithQuery text ↔ ReadAlike letters text := by
  have hwords : javaWords letters (text.flatMap Java.units) = javaWords letters units := by
    rw [htext, javaWords_surrounded hbefore hafter]
  have htokens : asciiTokens letters (text.flatMap Java.units) = asciiTokens letters units := by
    rw [asciiTokens_eq, hwords, ← asciiTokens_eq]
  have hsingle := single_iff_controls hbefore hafter htext hreads
  have hsafe := safe_units_iff letters text
  have hquery := startsWithQuery_units_iff letters text
  rw [htokens, safe_iff_parts hreads, ← hwords] at hsafe
  rw [htokens, query_iff_first hreads, ← hwords] at hquery
  constructor
  · intro h
    exact ⟨hsingle.mp h.single, hsafe.mp h.safe, hquery.mp h.kind⟩
  · intro h
    exact ⟨hsingle.mpr h.controls, hsafe.mpr h.parts, hquery.mpr h.first⟩

end Alike

/-- **When the sidecar accepts no more than the gate before it.** -/
theorem sidecarAgrees_iff (letters : Java.Letters) (sql : String) :
    SidecarAgrees letters sql ↔ SafelyRead letters sql := by
  obtain ⟨before', after', hbefore', hafter', hvisible'⟩ := @visible_trim ℕ _ Char.toNat
    (.plain Char.toNat) Java.isTrimmed (fun _ hu => inert_of_isTrimmed hu) (Java.text sql)
  rw [← seenBySidecar, Java.text, visible_recode recoding_units, ← Java.text] at hvisible'
  obtain ⟨before, after, hbefore, hafter, hvisible⟩ := @visible_trim Char _ id (.plain id)
    Text.isWhiteSpace (fun _ hc => inert_of_isWhiteSpace hc) sql.toList
  rw [← seen] at hvisible
  rw [SidecarAgrees, isSidecarReadOnlySql_iff_reads, SafelyRead]
  simp only [forall_exists_index, and_imp]
  refine forall₂_congr fun units hunits => forall_congr' fun hreads => ?_
  rw [hunits] at hvisible'
  cases hseen : seen sql with
  | error unclosed =>
    rw [hvisible, hseen] at hvisible'
    cases hvisible'
  | ok text =>
    rw [hseen] at hvisible
    simp only [Except.map] at hvisible
    rw [hvisible] at hvisible' ⊢
    simp only [Except.map, Except.ok.injEq] at hvisible'
    rw [sidecarAccepts_iff, hseen]
    simp only [Except.ok.injEq, exists_eq_left', forall_eq']
    rw [← classified_surrounded hbefore hafter,
      classified_iff_readAlike hbefore' hafter' hvisible' hreads]

/-! ## Drivers -/

/-- The driver ends a line comment at a newline only, and nests no block comments. -/
def EndsPlainly (d : Dialect (id : Char → Char)) : Prop :=
  (∀ c, d.endsLine c = true → c = newline) ∧ d.nested = false

theorem endsAlike_of_endsPlainly {d : Dialect (id : Char → Char)} (h : EndsPlainly d) (p : Place)
    (cs : List Char) : EndsAlike id d p cs := by
  intro i hi
  cases hplace : placeAfter id (.plain id) p (cs.take i) with
  | line =>
    cases hline : d.endsLine cs[i] with
    | false => simp [Dialect.differsAt, hline]
    | true => simp [Dialect.differsAt, h.1 _ hline]
  | slashIn n => simp [Dialect.differsAt, h.2]
  | _ => rfl

theorem keywords_append_semicolon (before after : List Char) :
    keywords (before ++ ';' :: after) = keywords before ++ keywords after := by
  rw [keywords, List.splitOnP_append_cons before after (by decide)]
  simp [keywords]

/-- A word after a semicolon that changes data is one that a driver sees. -/
theorem not_readOnlyText {before after : List Char} (h : "DROP" ∈ keywords after) :
    ¬ ReadOnlyText (before ++ ';' :: after) := by
  intro hread
  refine hread.safe "DROP" ?_ (by decide)
  rw [keywords_append_semicolon, List.mem_append]
  exact Or.inr h

theorem classified_select : Classified startsReadOnly "SELECT ".toList where
  single := by decide
  safe := by decide
  kind := by
    have htokens : tokensOf "SELECT ".toList = ["SELECT"] := by decide
    rw [htokens]
    exact Or.inl (by decide)

/-- A line comment that another character ends hides a statement from the gate. -/
theorem not_onlyReadOnly_of_endsLine {d : Dialect (id : Char → Char)} {c : Char}
    (hline : d.endsLine c = true) (hc : c ≠ newline) :
    ¬ OnlyReadOnly d (String.ofList ("SELECT--".toList ++ c :: ";DROP".toList)) := by
  have hplace : ∀ d : Dialect (id : Char → Char),
      placeAfter id d .text "SELECT--".toList = .line := fun _ => rfl
  have hshown : ∀ d : Dialect (id : Char → Char),
      shown id d .text "SELECT--".toList = "SELECT ".toList := fun _ => rfl
  have hseen : seen (String.ofList ("SELECT--".toList ++ c :: ";DROP".toList)) =
      .ok "SELECT ".toList := by
    have htrim : trimBy Text.isWhiteSpace ("SELECT--".toList ++ c :: ";DROP".toList) =
        "SELECT--".toList ++ c :: ";DROP".toList := rfl
    have hrest : (c :: ";DROP".toList).dropWhile (· ≠ newline) = [] := by
      rw [List.dropWhile_cons_of_pos (by simpa using hc)]
      decide
    rw [seen, String.toList_ofList, htrim, visible_append, hplace, hshown,
      visible_line Function.injective_id]
    simp only [id_eq, hrest]
    rfl
  have hvisible : visible id d .text ("SELECT--".toList ++ c :: ";DROP".toList) =
      .ok (("SELECT ".toList ++ [c]) ++ ';' :: "DROP".toList) := by
    rw [visible_append, hplace, hshown, visible, step, if_pos hline]
    rfl
  intro h
  obtain ⟨text, htext, hread⟩ := h ((isValid_iff _).mpr ⟨_, hseen, classified_select⟩)
  rw [String.toList_ofList, hvisible, Except.ok.injEq] at htext
  rw [← htext] at hread
  exact not_readOnlyText (by decide) hread

/-- A block comment that nests hides a statement from the gate. -/
theorem not_onlyReadOnly_of_nested {d : Dialect (id : Char → Char)} (hnested : d.nested = true) :
    ¬ OnlyReadOnly d "/* /* */SELECT'*/;DROP/*'*/" := by
  have hseen : seen "/* /* */SELECT'*/;DROP/*'*/" = .ok " SELECT */".toList := by decide +kernel
  have hclassified : Classified startsReadOnly " SELECT */".toList := by
    refine ⟨by decide, by decide, ?_⟩
    have htokens : tokensOf " SELECT */".toList = ["SELECT"] := by decide
    rw [htokens]
    exact Or.inl (by decide)
  have hvisible : visible id d .text "/* /* */SELECT'*/;DROP/*'*/".toList =
      .ok (" ".toList ++ ';' :: "DROP ".toList) := by
    cases d with
    | mk endsLine nested endsLine_newline =>
      cases hnested
      rfl
  intro h
  obtain ⟨text, htext, hread⟩ := h ((isValid_iff _).mpr ⟨_, hseen, hclassified⟩)
  rw [hvisible, Except.ok.injEq] at htext
  rw [← htext] at hread
  exact not_readOnlyText (by decide) hread

/-- **The first gate is right about every text exactly for the drivers whose comments end where
the scanner ends them.** -/
theorem onlyReadOnly_iff (d : Dialect (id : Char → Char)) :
    (∀ sql, OnlyReadOnly d sql) ↔ EndsPlainly d := by
  constructor
  · intro h
    refine ⟨?_, ?_⟩
    · intro c hline
      by_contra hc
      exact not_onlyReadOnly_of_endsLine hline hc (h _)
    · cases hnested : d.nested with
      | false => rfl
      | true => exact absurd (h _) (not_onlyReadOnly_of_nested hnested)
  · intro h sql
    exact onlyReadOnly_of_endsAlike (endsAlike_of_endsPlainly h .text sql.toList)

/-- **The gates are single-minded.** The first gate accepts only one statement that reads, to
every driver that ends the comments of the text where the scanner does, and it is right about
every text for the drivers that end them there always. The gate before the sidecar accepts no
more. The sidecar accepts no more exactly of the texts that it refuses, or that both read
alike. -/
theorem gates_single_minded (d : Dialect (id : Char → Char)) (letters : Java.Letters) :
    (∀ sql, EndsAlike id d .text sql.toList → OnlyReadOnly d sql) ∧
      ((∀ sql, OnlyReadOnly d sql) ↔ EndsPlainly d) ∧
      (∀ sql, validateExperimentalSidecarReadOnlySql sql = none →
        (validateReadOnlySql sql).isValid = true) ∧
      ∀ sql, SidecarAgrees letters sql ↔ SafelyRead letters sql :=
  ⟨fun _ => onlyReadOnly_of_endsAlike, onlyReadOnly_iff d, fun _ => isValid_of_sidecarAccepts,
    sidecarAgrees_iff letters⟩

/-- A driver that ends line comments at a carriage return. -/
def returnDialect : Dialect (id : Char → Char) where
  endsLine c := c == newline || c == Char.ofNat 13
  nested := false
  endsLine_newline := by decide

/-- To that driver the first gate accepts two statements; and the sidecar accepts a word that
ends in a letter beyond ASCII, where the backend reads a word that it refuses. -/
theorem gates_divided :
    ¬ OnlyReadOnly returnDialect
        (String.ofList ("SELECT--".toList ++ Char.ofNat 13 :: ";DROP".toList)) ∧
      ¬ SidecarAgrees .latin1 (String.ofList ("SELECT SET".toList ++ [Char.ofNat 233])) := by
  refine ⟨not_onlyReadOnly_of_endsLine (by decide) (by decide), ?_⟩
  intro h
  have haccepts : isSidecarReadOnlySql .latin1
      (Java.text (String.ofList ("SELECT SET".toList ++ [Char.ofNat 233]))) = true := by
    refine (isSidecarReadOnlySql_iff _ _).mpr
      ⟨Java.text "SELECT SET" ++ [233], by decide +kernel, by decide +kernel, by decide +kernel,
        Java.text "SELECT", by decide +kernel, Or.inl rfl⟩
  obtain ⟨text, hseen, hclassified⟩ := (sidecarAccepts_iff _).mp (h haccepts)
  have hread : seen (String.ofList ("SELECT SET".toList ++ [Char.ofNat 233])) =
      .ok ("SELECT SET".toList ++ [Char.ofNat 233]) := by decide +kernel
  rw [hread, Except.ok.injEq] at hseen
  rw [← hseen] at hclassified
  exact hclassified.safe "SET" (by decide +kernel) (by decide)

end HobitQueue.Jdbc
