import HobitQueue.Jdbc.ReadOnlySql

/-!
# What the scanner leaves

The scanner jumps over a literal or a comment at once; reading element by element shows the
same. With it the three gates are compared at the visible part of the text: trimming before or
after scanning, and units in place of characters, make no difference to it.

## Main results

* `scanSqlForClassification_eq` — the scanner computes the visible part of the text.
* `scan_trim` — its result before and after trimming.
* `scan_units` — its result on characters and on their units.
-/

namespace HobitQueue.Jdbc

open SqlText

section Scanner

variable {α : Type} [DecidableEq α] {char : Char → α}

theorem visible_dash {cs : List α} (h : cs.head? ≠ some (char '-')) :
    visible char (.plain char) .dash cs =
      (visible char (.plain char) .text cs).map (char '-' :: ·) := by
  cases cs with
  | nil => rfl
  | cons c cs =>
    have hc : c ≠ char '-' := by simpa using h
    simp only [visible, step, if_neg hc]
    cases visible char (.plain char) (outside char c).2 cs <;> simp [Except.map]

theorem visible_slash {cs : List α} (h : cs.head? ≠ some (char '*')) :
    visible char (.plain char) .slash cs =
      (visible char (.plain char) .text cs).map (char '/' :: ·) := by
  cases cs with
  | nil => rfl
  | cons c cs =>
    have hc : c ≠ char '*' := by simpa using h
    simp only [visible, step, if_neg hc]
    cases visible char (.plain char) (outside char c).2 cs <;> simp [Except.map]

theorem visible_quoteIn {q : Quote} {cs : List α} (h : cs.head? ≠ some (char q.mark)) :
    visible char (.plain char) (.quoteIn q) cs = visible char (.plain char) .text cs := by
  cases cs with
  | nil => rfl
  | cons c cs =>
    have hc : c ≠ char q.mark := by simpa using h
    simp only [visible, step, if_neg hc]

theorem visible_line (hchar : Function.Injective char) (cs : List α) :
    visible char (.plain char) .line cs =
      visible char (.plain char) .text (cs.dropWhile (· ≠ char newline)) := by
  induction cs with
  | nil => rfl
  | cons c cs ih =>
    by_cases hc : c = char newline
    · have hinert : Inert char c := by
        intro m hm heq
        rw [hc] at heq
        rw [← hchar heq] at hm
        exact absurd hm (by decide)
      rw [List.dropWhile_cons_of_neg (by simpa using hc)]
      subst hc
      simp only [visible, step, outside_inert hinert, (Dialect.plain char).endsLine_newline,
        if_true]
    · rw [List.dropWhile_cons_of_pos (by simpa using hc), ← ih]
      simp only [visible, step, Dialect.plain, beq_eq_false_iff_ne.mpr hc, Bool.false_eq_true,
        if_false]
      exact map_nil_append _

theorem visible_slashIn (cs : List α) :
    visible char (.plain char) (.slashIn 0) cs = visible char (.plain char) (.block 0) cs := by
  cases cs with
  | nil => rfl
  | cons c cs => simp only [visible, step, Dialect.plain, Bool.false_eq_true, if_false]

theorem visible_star {cs : List α} (h : cs.head? ≠ some (char '/')) :
    visible char (.plain char) (.star 0) cs = visible char (.plain char) (.block 0) cs := by
  cases cs with
  | nil => rfl
  | cons c cs =>
    have hc : c ≠ char '/' := by simpa using h
    simp only [visible, step, if_neg hc]

theorem visible_block (cs : List α) :
    visible char (.plain char) (.block 0) cs =
      match afterBlockComment char cs with
      | none => .error .comment
      | some rest => visible char (.plain char) .text rest := by
  induction cs with
  | nil => rfl
  | cons c cs ih =>
    by_cases hstar : c = char '*'
    · have hblock : visible char (.plain char) (.block 0) (c :: cs) =
          visible char (.plain char) (.star 0) cs := by
        rw [visible, step, if_pos hstar]
        exact map_nil_append _
      rw [hblock]
      by_cases hclose : cs.head? = some (char '/')
      · have hcs := List.eq_cons_of_mem_head? hclose
        rw [afterBlockComment, if_pos ⟨hstar, hclose⟩]
        conv_lhs => rw [hcs, visible, step, if_pos rfl]
        exact map_nil_append _
      · rw [afterBlockComment, if_neg fun h => hclose h.2, visible_star hclose, ih]
    · rw [afterBlockComment, if_neg fun h => hstar h.1, ← ih, visible, step, if_neg hstar]
      by_cases hslash : c = char '/'
      · rw [if_pos hslash, ← visible_slashIn]
        exact map_nil_append _
      · rw [if_neg hslash]
        exact map_nil_append _

theorem visible_quoted (q : Quote) (cs : List α) :
    visible char (.plain char) (.quoted q) cs =
      match afterQuoted (char q.mark) cs with
      | none => .error .quoted
      | some rest => visible char (.plain char) .text rest := by
  fun_induction afterQuoted (char q.mark) cs with
  | case1 => rfl
  | case2 =>
    rw [visible, step, if_pos rfl]
    rfl
  | case3 c hc =>
    rw [visible, step, if_neg hc]
    rfl
  | case4 cs ih =>
    simp only [visible, step, if_true, map_nil_append]
    exact ih
  | case5 next cs hnext =>
    rw [visible, step, if_pos rfl, map_nil_append]
    exact visible_quoteIn (by simpa using hnext)
  | case6 c next cs hc ih =>
    rw [visible, step, if_neg hc, map_nil_append]
    exact ih

theorem visible_text_dashes (cs : List α) :
    visible char (.plain char) .text (char '-' :: char '-' :: cs) =
      (visible char (.plain char) .line cs).map (char ' ' :: ·) := by
  simp only [visible, step, outside, if_true, map_nil_append]
  rfl

theorem visible_text_open (hchar : Function.Injective char) (cs : List α) :
    visible char (.plain char) .text (char '/' :: char '*' :: cs) =
      (visible char (.plain char) (.block 0) cs).map (char ' ' :: ·) := by
  have hdash : char '/' ≠ char '-' := fun h => absurd (hchar h) (by decide)
  simp only [visible, step, outside, if_neg hdash, if_true, map_nil_append]
  rfl

theorem visible_text_quote (hchar : Function.Injective char) (q : Quote) (cs : List α) :
    visible char (.plain char) .text (char q.mark :: cs) =
      (visible char (.plain char) (.quoted q) cs).map (char ' ' :: ·) := by
  have houtside : outside char (char q.mark) = ([char ' '], .quoted q) := by
    cases q <;> simp [outside, hchar.eq_iff, Quote.mark]
  rw [visible, step, houtside]
  rfl

/-- An element that opens nothing. -/
theorem visible_text_plain {c : α} {cs : List α}
    (hdashes : ¬(c = char '-' ∧ cs.head? = some (char '-')))
    (hopen : ¬(c = char '/' ∧ cs.head? = some (char '*')))
    (hquote : ¬(c = char Quote.single.mark ∨ c = char Quote.double.mark)) :
    visible char (.plain char) .text (c :: cs) =
      (visible char (.plain char) .text cs).map (c :: ·) := by
  by_cases hdash : c = char '-'
  · have hnext : cs.head? ≠ some (char '-') := fun h => hdashes ⟨hdash, h⟩
    have houtside : outside char c = ([], .dash) := if_pos hdash
    rw [visible, step, houtside, map_nil_append, visible_dash hnext, hdash]
  · by_cases hslash : c = char '/'
    · have hnext : cs.head? ≠ some (char '*') := fun h => hopen ⟨hslash, h⟩
      have houtside : outside char c = ([], .slash) := by
        rw [outside, if_neg hdash, if_pos hslash]
      rw [visible, step, houtside, map_nil_append, visible_slash hnext, hslash]
    · have houtside : outside char c = ([c], .text) := by
        rw [outside, if_neg hdash, if_neg hslash, if_neg fun h => hquote (Or.inl h),
          if_neg fun h => hquote (Or.inr h)]
      rw [visible, step, houtside]
      rfl

/-- **The scanner computes the visible part.** -/
theorem scanSqlForClassification_eq (hchar : Function.Injective char) (cs : List α) :
    scanSqlForClassification char cs = visible char (.plain char) .text cs := by
  fun_induction scanSqlForClassification char cs with
  | case1 => rfl
  | case2 current cs h ih =>
    conv_rhs => rw [h.1, List.eq_cons_of_mem_head? h.2]
    rw [visible_text_dashes, visible_line hchar, ih]
  | case3 current cs _ h hunclosed =>
    conv_rhs => rw [h.1, List.eq_cons_of_mem_head? h.2]
    rw [visible_text_open hchar, visible_block, hunclosed]
    rfl
  | case4 current cs _ h rest hrest ih =>
    conv_rhs => rw [h.1, List.eq_cons_of_mem_head? h.2]
    rw [visible_text_open hchar, visible_block, hrest, ih]
  | case5 current cs _ _ h hunclosed =>
    obtain ⟨q, rfl⟩ : ∃ q : Quote, current = char q.mark := by
      obtain h | h := h
      · exact ⟨.single, h⟩
      · exact ⟨.double, h⟩
    rw [visible_text_quote hchar, visible_quoted, hunclosed]
    rfl
  | case6 current cs _ _ h rest hrest ih =>
    obtain ⟨q, rfl⟩ : ∃ q : Quote, current = char q.mark := by
      obtain h | h := h
      · exact ⟨.single, h⟩
      · exact ⟨.double, h⟩
    rw [visible_text_quote hchar, visible_quoted, hrest, ih]
  | case7 current cs hdashes hopen hquote ih =>
    rw [visible_text_plain hdashes hopen hquote, ih]

end Scanner

/-! ## Tokens -/

section Tokens

variable {α β : Type} {isWord : α → Bool} {upper : α → α}

theorem tokensFrom_blank (current : List α) {blank : List α}
    (h : ∀ c ∈ blank, isWord c = false) :
    tokensFrom isWord upper current blank = if current = [] then [] else [current] := by
  induction blank generalizing current with
  | nil => rfl
  | cons c blank ih =>
    have hblank := ih [] fun b hb => h b (List.mem_cons_of_mem c hb)
    rw [tokensFrom, if_neg (by simp [h c List.mem_cons_self]), hblank, if_pos rfl]

theorem tokensFrom_append_blank (current sql : List α) {blank : List α}
    (h : ∀ c ∈ blank, isWord c = false) :
    tokensFrom isWord upper current (sql ++ blank) = tokensFrom isWord upper current sql := by
  induction sql generalizing current with
  | nil => exact tokensFrom_blank current h
  | cons c sql ih =>
    simp only [List.cons_append, tokensFrom, ih]

theorem tokensFrom_blank_append (sql : List α) {blank : List α}
    (h : ∀ c ∈ blank, isWord c = false) :
    tokensFrom isWord upper [] (blank ++ sql) = tokensFrom isWord upper [] sql := by
  induction blank with
  | nil => rfl
  | cons c blank ih =>
    rw [List.cons_append, tokensFrom, if_neg (by simp [h c List.mem_cons_self]), if_pos rfl]
    exact ih fun b hb => h b (List.mem_cons_of_mem c hb)

/-- What stands around the words makes no token. -/
theorem sqlTokens_surrounded {before sql after : List α} (hbefore : ∀ c ∈ before, isWord c = false)
    (hafter : ∀ c ∈ after, isWord c = false) :
    sqlTokens isWord upper (before ++ sql ++ after) = sqlTokens isWord upper sql := by
  rw [sqlTokens, tokensFrom_append_blank [] _ hafter, tokensFrom_blank_append _ hbefore]
  rfl

/-- Trimming and dropping a last semicolon drop no token. -/
theorem sqlTokens_trimBy {blank : α → Bool} (hblank : ∀ c, blank c = true → isWord c = false)
    (sql : List α) :
    sqlTokens isWord upper (trimBy blank sql) = sqlTokens isWord upper sql := by
  obtain ⟨before, after, hsql, hbefore, hafter⟩ := exists_trimBy blank sql
  conv_rhs => rw [hsql]
  rw [sqlTokens_surrounded (fun c hc => hblank c (hbefore c hc)) fun c hc =>
    hblank c (hafter c hc)]

theorem sqlTokens_dropLast {semicolon : α} {sql : List α} (hsemicolon : isWord semicolon = false)
    (hlast : sql.getLast? = some semicolon) :
    sqlTokens isWord upper sql.dropLast = sqlTokens isWord upper sql := by
  have hsurrounded := @sqlTokens_surrounded α isWord upper [] sql.dropLast [semicolon]
    (fun _ h => absurd h List.not_mem_nil) fun c hc => by
      rw [List.mem_singleton.mp hc]
      exact hsemicolon
  rw [List.nil_append, List.dropLast_append_getLast? semicolon hlast] at hsurrounded
  exact hsurrounded.symm

theorem tokensFrom_eq [DecidableEq α] (current sql : List α) :
    tokensFrom isWord upper current sql =
      (((sql.splitOnP (!isWord ·)).map (List.map upper)).modifyHead (current ++ ·)).filter
        (· ≠ []) := by
  induction sql generalizing current with
  | nil =>
    by_cases hcurrent : current = []
    · simp [tokensFrom, hcurrent]
    · simp [tokensFrom, hcurrent]
  | cons c sql ih =>
    obtain ⟨word, words, hsplit⟩ :=
      List.exists_cons_of_ne_nil (List.splitOnP_ne_nil (!isWord ·) sql)
    rw [tokensFrom, List.splitOnP_cons_eq_if_modifyHead]
    cases hc : isWord c with
    | true => simp [ih, hsplit]
    | false =>
      by_cases hcurrent : current = []
      · simp [ih, hsplit, hcurrent]
      · simp [ih, hsplit, hcurrent]

/-- **The tokens are the words between the other elements, in upper case.** -/
theorem sqlTokens_eq [DecidableEq α] (sql : List α) :
    sqlTokens isWord upper sql =
      ((sql.splitOnP (!isWord ·)).map (List.map upper)).filter (· ≠ []) := by
  obtain ⟨word, words, hsplit⟩ :=
    List.exists_cons_of_ne_nil (List.splitOnP_ne_nil (!isWord ·) sql)
  rw [sqlTokens, tokensFrom_eq, hsplit]
  simp

/-- A token is made of words: in their order the tokens hold the word elements, in upper case. -/
theorem flatten_tokensFrom (current sql : List α) :
    (tokensFrom isWord upper current sql).flatten = current ++ (sql.filter isWord).map upper := by
  induction sql generalizing current with
  | nil =>
    by_cases hcurrent : current = []
    · simp [tokensFrom, hcurrent]
    · simp [tokensFrom, hcurrent]
  | cons c sql ih =>
    rw [tokensFrom]
    by_cases hc : isWord c = true
    · simp [hc, ih]
    · by_cases hcurrent : current = []
      · simp [hc, hcurrent, ih]
      · simp [hc, hcurrent, ih]

theorem flatten_sqlTokens (sql : List α) :
    (sqlTokens isWord upper sql).flatten = (sql.filter isWord).map upper :=
  flatten_tokensFrom [] sql

theorem sqlTokens_congr {isWord' : α → Bool} {sql : List α}
    (h : ∀ c ∈ sql, isWord c = isWord' c) :
    sqlTokens isWord upper sql = sqlTokens isWord' upper sql := by
  have hfrom : ∀ current, tokensFrom isWord upper current sql =
      tokensFrom isWord' upper current sql := by
    induction sql with
    | nil => exact fun current => rfl
    | cons c sql ih =>
      rw [List.forall_mem_cons] at h
      intro current
      simp only [tokensFrom, h.1, ih h.2]
  exact hfrom []

/-- An element of no word parts the tokens. -/
theorem sqlTokens_append_cons [DecidableEq α] (before after : List α) {c : α}
    (hc : isWord c = false) :
    sqlTokens isWord upper (before ++ c :: after) =
      sqlTokens isWord upper before ++ sqlTokens isWord upper after := by
  rw [sqlTokens_eq, List.splitOnP_append_cons before after (by simp [hc]), List.map_append,
    List.filter_append, ← sqlTokens_eq, ← sqlTokens_eq]

/-- **Finer words are the words in the coarser ones.** -/
theorem sqlTokens_refine [DecidableEq α] {coarse : α → Bool}
    (h : ∀ c, isWord c = true → coarse c = true) (sql : List α) :
    sqlTokens isWord upper sql = (sqlTokens coarse id sql).flatMap (sqlTokens isWord upper) := by
  have hfrom : ∀ current, sqlTokens isWord upper (current ++ sql) =
      (tokensFrom coarse id current sql).flatMap (sqlTokens isWord upper) := by
    induction sql with
    | nil =>
      intro current
      by_cases hcurrent : current = []
      · simp [tokensFrom, hcurrent, sqlTokens]
      · simp [tokensFrom, hcurrent]
    | cons c sql ih =>
      intro current
      rw [tokensFrom]
      cases hcoarse : coarse c with
      | true =>
        rw [if_pos rfl, id, ← ih, List.append_assoc, List.singleton_append]
      | false =>
        have hc : isWord c = false := by
          by_contra hword
          rw [h c (by simpa using hword)] at hcoarse
          cases hcoarse
        have hrest := ih []
        rw [List.nil_append] at hrest
        rw [sqlTokens_append_cons current sql hc, hrest]
        by_cases hcurrent : current = []
        · simp [hcurrent, sqlTokens, tokensFrom]
        · simp [hcurrent]
  exact hfrom []

theorem tokensFrom_flatMap {isWord' : β → Bool} {upper' : β → β} {f : α → List β} {g : α → β}
    {sql : List α}
    (hword : ∀ c ∈ sql, isWord c = true →
      f c = [g c] ∧ isWord' (g c) = true ∧ upper' (g c) = g (upper c))
    (hother : ∀ c ∈ sql, isWord c = false → f c ≠ [] ∧ ∀ u ∈ f c, isWord' u = false)
    (current : List α) :
    tokensFrom isWord' upper' (current.map g) (sql.flatMap f) =
      (tokensFrom isWord upper current sql).map (List.map g) := by
  induction sql generalizing current with
  | nil =>
    by_cases hcurrent : current = []
    · simp [tokensFrom, hcurrent]
    · simp [tokensFrom, hcurrent]
  | cons c sql ih =>
    have hih := ih (fun b hb => hword b (List.mem_cons_of_mem c hb))
      fun b hb => hother b (List.mem_cons_of_mem c hb)
    rw [List.flatMap_cons]
    by_cases hc : isWord c = true
    · obtain ⟨hf, hg, hupper⟩ := hword c List.mem_cons_self hc
      have happend : current.map g ++ [upper' (g c)] = (current ++ [upper c]).map g := by
        simp [hupper]
      rw [hf, List.singleton_append, tokensFrom, if_pos hg, happend, hih, tokensFrom, if_pos hc]
    · obtain ⟨hne, hf⟩ := hother c List.mem_cons_self (by simpa using hc)
      obtain ⟨u, us, hus⟩ := List.exists_cons_of_ne_nil hne
      rw [hus] at hf ⊢
      have hu := hf u List.mem_cons_self
      have hrest := @tokensFrom_blank_append β isWord' upper' (sql.flatMap f) us
        fun b hb => hf b (List.mem_cons_of_mem u hb)
      have hnil := hih []
      rw [List.map_nil] at hnil
      rw [List.cons_append, tokensFrom, if_neg (by simp [hu]), hrest, hnil, tokensFrom, if_neg hc]
      by_cases hcurrent : current = []
      · simp [hcurrent]
      · simp [hcurrent]

/-- **The tokens of an encoded text are the encoded tokens.** -/
theorem sqlTokens_flatMap {isWord' : β → Bool} {upper' : β → β} {f : α → List β} {g : α → β}
    {sql : List α}
    (hword : ∀ c ∈ sql, isWord c = true →
      f c = [g c] ∧ isWord' (g c) = true ∧ upper' (g c) = g (upper c))
    (hother : ∀ c ∈ sql, isWord c = false → f c ≠ [] ∧ ∀ u ∈ f c, isWord' u = false) :
    sqlTokens isWord' upper' (sql.flatMap f) = (sqlTokens isWord upper sql).map (List.map g) :=
  tokensFrom_flatMap hword hother []

end Tokens

/-! ## Statements -/

section Statements

variable {α β : Type} [DecidableEq α] [DecidableEq β] {isSpace : α → Bool} {semicolon : α}

/-- What follows the first semicolon. -/
def afterSemicolon (semicolon : α) (sql : List α) : List α :=
  (sql.dropWhile (· ≠ semicolon)).tail

theorem multipleFrom_true (hsemicolon : isSpace semicolon = false) (sql : List α) :
    multipleFrom isSpace semicolon true sql = false ↔ ∀ c ∈ sql, isSpace c = true := by
  induction sql with
  | nil => simp [multipleFrom]
  | cons c sql ih =>
    rw [multipleFrom, List.forall_mem_cons, ← ih]
    by_cases hc : c = semicolon
    · simp [hc, hsemicolon]
    · cases hspace : isSpace c
      · simp [hc]
      · simp [hc]

/-- **One statement is a text with nothing but white space after its first semicolon.** -/
theorem containsMultipleStatements_eq_false (hsemicolon : isSpace semicolon = false)
    (sql : List α) :
    containsMultipleStatements isSpace semicolon sql = false ↔
      ∀ c ∈ afterSemicolon semicolon sql, isSpace c = true := by
  rw [containsMultipleStatements, afterSemicolon]
  induction sql with
  | nil => simp [multipleFrom]
  | cons c sql ih =>
    rw [multipleFrom]
    by_cases hc : c = semicolon
    · rw [if_pos hc, List.dropWhile_cons_of_neg (by simpa using hc)]
      exact multipleFrom_true hsemicolon sql
    · rw [if_neg hc, List.dropWhile_cons_of_pos (by simpa using hc), ← ih]
      simp

theorem afterSemicolon_append {before : List α} (h : semicolon ∉ before) (sql : List α) :
    afterSemicolon semicolon (before ++ sql) = afterSemicolon semicolon sql := by
  induction before with
  | nil => rfl
  | cons c before ih =>
    simp only [List.mem_cons, not_or] at h
    have hc : c ≠ semicolon := fun heq => h.1 heq.symm
    rw [afterSemicolon, List.cons_append, List.dropWhile_cons_of_pos (by simpa using hc)]
    exact ih h.2

theorem afterSemicolon_eq_nil {sql : List α} (h : semicolon ∉ sql) :
    afterSemicolon semicolon sql = [] := by
  have hnil := afterSemicolon_append h []
  rw [List.append_nil] at hnil
  exact hnil

theorem afterSemicolon_cons (sql : List α) : afterSemicolon semicolon (semicolon :: sql) = sql := by
  rw [afterSemicolon, List.dropWhile_cons_of_neg (by simp), List.tail_cons]

/-- Blanks around a text change what follows its first semicolon at the end only. -/
theorem mem_afterSemicolon_surrounded {before sql after : List α} (hbefore : semicolon ∉ before)
    (hafter : semicolon ∉ after) {c : α} :
    c ∈ afterSemicolon semicolon (before ++ sql ++ after) ↔
      c ∈ afterSemicolon semicolon sql ∨ semicolon ∈ sql ∧ c ∈ after := by
  rw [List.append_assoc, afterSemicolon_append hbefore]
  by_cases h : semicolon ∈ sql
  · obtain ⟨head, tail, rfl, hhead⟩ := List.eq_append_cons_of_mem h
    rw [List.append_assoc, List.cons_append, afterSemicolon_append hhead,
      afterSemicolon_append hhead, afterSemicolon_cons, afterSemicolon_cons, List.mem_append]
    simp
  · rw [afterSemicolon_append h, afterSemicolon_eq_nil hafter, afterSemicolon_eq_nil h]
    simp [h]

theorem afterSemicolon_flatMap {semicolon' : β} {f : α → List β}
    (hf : f semicolon = [semicolon']) (hother : ∀ c, c ≠ semicolon → semicolon' ∉ f c)
    (sql : List α) :
    afterSemicolon semicolon' (sql.flatMap f) = (afterSemicolon semicolon sql).flatMap f := by
  induction sql with
  | nil => rfl
  | cons c sql ih =>
    rw [List.flatMap_cons]
    by_cases hc : c = semicolon
    · rw [hc, hf, List.singleton_append, afterSemicolon_cons, afterSemicolon_cons]
    · have hcons : afterSemicolon semicolon (c :: sql) = afterSemicolon semicolon sql := by
        rw [afterSemicolon, List.dropWhile_cons_of_pos (by simpa using hc), afterSemicolon]
      rw [afterSemicolon_append (hother c hc), ih, hcons]

end Statements

end HobitQueue.Jdbc
