import HobitQueue.Codex.AcceptedTexts
import HobitQueue.Codex.ParserBytes

/-!
# Every JSON text is accepted

A number ends where no further character of it can follow, which is the case behind every value
of a text. With that, each function of the parser reads the whole of what its production derives;
only the white space behind a closing bracket is left to the next one.

## Main results

* `afterValue_derived` — a derived value is read.
* `JsonParser.accepts_iff_jsonText` — the lines that are accepted.
-/

namespace HobitQueue.Codex

open JsonSyntax (isWs isDigit isHexdig isDigit1to9 stringChar unicodeEscape isShortEscape
  isUnescaped mem_kstar_oneOf mem_optional mem_oneOf Derives)
open Computability

/-! ## White space and single characters -/

theorem skipWhitespace_append {w : List Char} (hw : w ∈ JsonSyntax.ws) (cs : List Char) :
    skipWhitespace (w ++ cs) = skipWhitespace cs := by
  refine List.dropWhile_append_of_pos fun c hc => ?_
  have hspace := mem_kstar_oneOf.1 hw c hc
  simp only [isWs] at hspace
  simp only [Bool.or_eq_true, beq_iff_eq]
  tauto

theorem skipWhitespace_cons {c : Char} (hc : ¬ isWs c) (cs : List Char) :
    skipWhitespace (c :: cs) = c :: cs := by
  refine List.dropWhile_cons_of_neg ?_
  simp only [isWs, not_or] at hc
  simp [hc]

theorem afterValue_append {w : List Char} (hw : w ∈ JsonSyntax.ws) (cs : List Char) :
    afterValue (w ++ cs) = afterValue cs := by
  rw [← afterValue_skipWhitespace, skipWhitespace_append hw, afterValue_skipWhitespace]

theorem afterMembers_append {w : List Char} (hw : w ∈ JsonSyntax.ws) (cs : List Char) :
    afterMembers (w ++ cs) = afterMembers cs := by
  rw [← afterMembers_skipWhitespace, skipWhitespace_append hw, afterMembers_skipWhitespace]

theorem afterElements_append {w : List Char} (hw : w ∈ JsonSyntax.ws) (cs : List Char) :
    afterElements (w ++ cs) = afterElements cs := by
  rw [← afterElements_skipWhitespace, skipWhitespace_append hw, afterElements_skipWhitespace]

/-! ## Numbers -/

/-- No digit follows. -/
def NoDigit (rest : List Char) : Prop := ∀ c ∈ rest.head?, ¬ isDigit c

/-- No character of a number follows. -/
def Delimited (rest : List Char) : Prop :=
  ∀ c ∈ rest.head?, ¬ isDigit c ∧ c ≠ '.' ∧ c ≠ 'e' ∧ c ≠ 'E'

theorem Delimited.noDigit {rest : List Char} (h : Delimited rest) : NoDigit rest :=
  fun c hc => (h c hc).1

theorem skipDigits_append {d rest : List Char} (hd : d ∈ (JsonSyntax.oneOf isDigit)∗)
    (hrest : NoDigit rest) : skipDigits (d ++ rest) = rest := by
  have hskip : skipDigits (d ++ rest) = skipDigits rest :=
    List.dropWhile_append_of_pos fun c hc =>
      (isDigit_iff_isDigit c).2 (mem_kstar_oneOf.1 hd c hc)
  rw [hskip]
  cases rest with
  | nil => rfl
  | cons c rest =>
    exact List.dropWhile_cons_of_neg (mt (isDigit_iff_isDigit c).1 (hrest c rfl))

theorem parseDigits_append {d rest : List Char} (hd : d ∈ JsonSyntax.digits)
    (hrest : NoDigit rest) : parseDigits (d ++ rest) = some rest := by
  obtain ⟨_, ⟨c, hc, rfl⟩, ds, hds, rfl⟩ := hd
  have hdigit := (isDigit_iff_isDigit c).2 hc
  simp only [List.cons_append, List.nil_append, parseDigits, if_pos hdigit,
    skipDigits_append hds hrest]

theorem afterInteger_append {i rest : List Char} (hi : i ∈ JsonSyntax.int)
    (hrest : NoDigit rest) : afterInteger (i ++ rest) = some rest := by
  rcases hi with hzero | ⟨_, ⟨c, ⟨hone, hnine⟩, rfl⟩, ds, hds, rfl⟩
  · obtain rfl := JsonSyntax.mem_char.1 hzero
    rfl
  · have hzero : c ≠ '0' := by
      rintro rfl
      exact absurd hone (by decide)
    have hdigit := (isDigit_iff_isDigit c).2 ⟨le_trans (by decide) hone, hnine⟩
    simp only [List.cons_append, List.nil_append, afterInteger, if_neg hzero, if_pos hdigit,
      skipDigits_append hds hrest]

theorem head?_int {i rest : List Char} (hi : i ∈ JsonSyntax.int) :
    ∀ c ∈ (i ++ rest).head?, isDigit c := by
  rcases hi with rfl | ⟨_, ⟨c, ⟨hone, hnine⟩, rfl⟩, ds, hds, rfl⟩
  · rintro _ ⟨⟩
    decide
  · rintro _ ⟨⟩
    exact ⟨le_trans (by decide) hone, hnine⟩

theorem dropIf_of_pos {t : Char → Bool} {c : Char} (h : t c = true) (cs : List Char) :
    dropIf t (c :: cs) = cs :=
  if_pos h

/-- Nothing is dropped where the character does not stand first. -/
theorem dropIf_of_head {t : Char → Bool} {cs : List Char} (h : ∀ c ∈ cs.head?, t c = false) :
    dropIf t cs = cs := by
  cases cs with
  | nil => rfl
  | cons c cs => exact if_neg (by rw [h c rfl]; decide)

theorem afterFraction_append {f rest : List Char} (hf : f ∈ JsonSyntax.optional JsonSyntax.frac)
    (hrest : NoDigit rest) (hpoint : ∀ c ∈ rest.head?, c ≠ '.') :
    afterFraction (f ++ rest) = some rest := by
  rcases mem_optional.1 hf with rfl | ⟨_, rfl, d, hd, rfl⟩
  · have hnone : afterChar '.' rest = none := by
      cases rest with
      | nil => rfl
      | cons c rest => exact if_neg (hpoint c rfl)
    rw [afterFraction, List.nil_append, hnone]
  · exact parseDigits_append hd hrest

theorem head?_digits {d rest : List Char} (hd : d ∈ JsonSyntax.digits) :
    ∀ c ∈ (d ++ rest).head?, isDigit c := by
  obtain ⟨_, ⟨c, hc, rfl⟩, ds, hds, rfl⟩ := hd
  rintro _ ⟨⟩
  exact hc

theorem parseExponent_append {e rest : List Char} (he : e ∈ JsonSyntax.optional JsonSyntax.exp)
    (hrest : Delimited rest) : parseExponent (e ++ rest) = some rest := by
  rcases mem_optional.1 he with rfl | ⟨_, ⟨_, ⟨c, hc, rfl⟩, s, hs, rfl⟩, d, hd, rfl⟩
  · cases rest with
    | nil => rfl
    | cons c rest =>
      obtain ⟨-, -, hlower, hupper⟩ := hrest c rfl
      rw [List.nil_append, parseExponent_cons, if_neg (not_or.2 ⟨hlower, hupper⟩)]
  · simp only [List.cons_append, List.nil_append, List.append_assoc, parseExponent_cons]
    rw [if_pos hc]
    have hdigits := parseDigits_append hd hrest.noDigit
    rcases mem_optional.1 hs with rfl | ⟨x, hx, rfl⟩
    · rw [List.nil_append, dropIf_of_head, hdigits]
      intro c hc
      have hdigit := head?_digits hd c hc
      by_contra hsign
      have hsigns : c = '+' ∨ c = '-' := by
        simpa only [Bool.not_eq_false, Bool.or_eq_true, beq_iff_eq] using hsign
      rcases hsigns with rfl | rfl
      · exact absurd hdigit.1 (by decide)
      · exact absurd hdigit.1 (by decide)
    · rw [List.singleton_append, dropIf_of_pos (by rcases hx with rfl | rfl <;> rfl), hdigits]

theorem parseNumber_append {n rest : List Char} (hn : n ∈ JsonSyntax.number)
    (hrest : Delimited rest) : parseNumber (n ++ rest) = some rest := by
  obtain ⟨_, ⟨_, ⟨s, hs, i, hi, rfl⟩, f, hf, rfl⟩, e, he, rfl⟩ := hn
  have hexponent := parseExponent_append he hrest
  have hbehind : ∀ c ∈ (e ++ rest).head?, ¬ isDigit c ∧ c ≠ '.' := by
    rcases mem_optional.1 he with rfl | ⟨_, ⟨_, ⟨c, hc, rfl⟩, _, _, rfl⟩, _, _, rfl⟩
    · exact fun c hc => ⟨(hrest c hc).1, (hrest c hc).2.1⟩
    · rintro _ ⟨⟩
      rcases hc with rfl | rfl
      · exact ⟨by decide, by decide⟩
      · exact ⟨by decide, by decide⟩
  have hfraction := afterFraction_append hf (fun c hc => (hbehind c hc).1)
    fun c hc => (hbehind c hc).2
  have hnoDigit : NoDigit (f ++ (e ++ rest)) := by
    rcases mem_optional.1 hf with rfl | ⟨_, rfl, _, _, rfl⟩
    · exact fun c hc => (hbehind c hc).1
    · rintro _ ⟨⟩
      decide
  have hinteger := afterInteger_append hi hnoDigit
  have hsign : dropIf (· == '-') (s ++ (i ++ (f ++ (e ++ rest)))) = i ++ (f ++ (e ++ rest)) := by
    rcases mem_optional.1 hs with rfl | rfl
    · refine dropIf_of_head fun c hc => ?_
      have hdigit : isDigit c := head?_int hi c hc
      by_contra hminus
      obtain rfl : c = '-' := by simpa only [Bool.not_eq_false, beq_iff_eq] using hminus
      exact absurd hdigit (by decide)
    · exact dropIf_of_pos rfl _
  simp only [List.append_assoc]
  rw [parseNumber_eq, hsign, hinteger, Option.bind_some, parseFraction_eq, hfraction,
    Option.bind_some, hexponent]

/-! ## Strings -/

theorem isHexDigit_of_isHexdig {c : Char} (h : isHexdig c) : isHexDigit c = true := by
  simp only [isHexDigit, Bool.or_eq_true, Bool.and_eq_true, decide_eq_true_eq]
  rcases h with hdigit | hupper | hlower
  · exact .inl (.inl ((isDigit_iff_isDigit c).2 hdigit))
  · exact .inr hupper
  · exact .inl (.inr hlower)

theorem afterHex_append {n : ℕ} {h rest : List Char} (hh : h ∈ JsonSyntax.oneOf isHexdig ^ n) :
    afterHex n (h ++ rest) = some rest := by
  induction n generalizing h with
  | zero =>
    obtain rfl := (Language.mem_one h).1 hh
    rfl
  | succ n ih =>
    rw [pow_succ'] at hh
    obtain ⟨_, ⟨c, hc, rfl⟩, more, hmore, rfl⟩ := hh
    simp only [List.cons_append, List.nil_append, afterHex, if_pos (isHexDigit_of_isHexdig hc),
      ih hmore]

theorem afterEscape_append {e rest : List Char}
    (he : e ∈ JsonSyntax.oneOf isShortEscape + unicodeEscape) :
    afterEscape (e ++ rest) = some rest := by
  rcases he with ⟨c, hc, rfl⟩ | ⟨_, rfl, h, hh, rfl⟩
  · exact if_pos hc
  · have hnotShort : 'u' ∉ escapeChars := by decide
    simp only [List.cons_append, List.nil_append, afterEscape, if_neg hnotShort, if_pos,
      afterHex_append hh]

theorem parseStringBody_append {b rest : List Char} (hb : b ∈ stringChar∗) :
    parseStringBody (b ++ quoteMark :: rest) = some rest := by
  refine JsonSyntax.kstar_induction
    (motive := fun b => parseStringBody (b ++ quoteMark :: rest) = some rest) ?_ ?_ hb
  · rw [List.nil_append, parseStringBody_cons, if_pos rfl]
  · rintro a (⟨c, hc, rfl⟩ | ⟨_, rfl, e, he, rfl⟩) w - ih
    · have hquote : c ≠ quoteMark := by
        rintro rfl
        exact absurd hc (by unfold isUnescaped; decide)
      have hescape : c ≠ backslash := by
        rintro rfl
        exact absurd hc (by unfold isUnescaped; decide)
      have hcontrol : ¬ c.toNat < 32 := by
        unfold isUnescaped at hc
        omega
      rw [List.append_assoc, List.singleton_append, parseStringBody_cons, if_neg hquote,
        if_neg hescape, if_neg hcontrol, ih]
    · have hquote : JsonSyntax.escape ≠ quoteMark := by decide
      have hslash : JsonSyntax.escape = backslash := rfl
      have hafter : afterEscape (e ++ (w ++ quoteMark :: rest)) = some (w ++ quoteMark :: rest) :=
        afterEscape_append he
      simp only [List.append_assoc, List.cons_append, List.nil_append]
      rw [parseStringBody_cons, if_neg hquote, if_pos hslash, hafter, Option.bind_some, ih]

theorem afterString_append {s rest : List Char} (hs : s ∈ JsonSyntax.string) :
    afterString (s ++ rest) = some rest := by
  obtain ⟨_, ⟨_, rfl, b, hb, rfl⟩, _, rfl, rfl⟩ := hs
  have hnotWs : ¬ isWs JsonSyntax.quotationMark := by decide
  have hquote : JsonSyntax.quotationMark = quoteMark := rfl
  simp only [List.append_assoc, List.cons_append, List.nil_append]
  rw [afterString, skipWhitespace_cons hnotWs, afterChar, if_pos hquote, Option.bind_some]
  exact parseStringBody_append hb

/-! ## Values -/

/-- The parser stops there, up to white space. -/
def Continues (r : Option (List Char)) (rest : List Char) : Prop :=
  ∃ rest', r = some rest' ∧ skipWhitespace rest' = skipWhitespace rest

theorem continues_some (rest : List Char) : Continues (some rest) rest := ⟨rest, rfl, rfl⟩

theorem Continues.append {r : Option (List Char)} {w rest : List Char} (hw : w ∈ JsonSyntax.ws)
    (h : Continues r (w ++ rest)) : Continues r rest := by
  obtain ⟨rest', hr, hskip⟩ := h
  exact ⟨rest', hr, hskip.trans (skipWhitespace_append hw rest)⟩

/-- White space, and then a character that is not part of a number. -/
theorem delimited_of_ws {w rest : List Char} {c : Char} (hw : w ∈ JsonSyntax.ws)
    (hc : ¬ isDigit c ∧ c ≠ '.' ∧ c ≠ 'e' ∧ c ≠ 'E') : Delimited (w ++ c :: rest) := by
  cases w with
  | nil =>
    rintro _ ⟨⟩
    exact hc
  | cons d w =>
    rintro _ ⟨⟩
    rcases mem_kstar_oneOf.1 hw d List.mem_cons_self with rfl | rfl | rfl | rfl
    all_goals decide

theorem delimited_of_mem_ws {w : List Char} (hw : w ∈ JsonSyntax.ws) : Delimited w := by
  cases w with
  | nil => exact fun _ hc => absurd hc (by simp)
  | cons d w =>
    rintro _ ⟨⟩
    rcases mem_kstar_oneOf.1 hw d List.mem_cons_self with rfl | rfl | rfl | rfl
    all_goals decide

/-- A closing bracket behind a value. -/
theorem closedOr_closed {x : Char} {w₁ w₂ mid rest : List Char} (hx : ¬ isWs x)
    (hw₁ : w₁ ∈ JsonSyntax.ws) (hw₂ : w₂ ∈ JsonSyntax.ws)
    (hmid : skipWhitespace mid = skipWhitespace (w₁ ++ x :: (w₂ ++ rest)))
    (otherwise : Option (List Char)) : Continues (closedOr x mid otherwise) rest := by
  rw [skipWhitespace_append hw₁, skipWhitespace_cons hx] at hmid
  rw [closedOr, hmid, afterChar, if_pos rfl, Option.some_or]
  exact (continues_some _).append hw₂

/-- A comma behind a value. -/
theorem closedOr_comma {x : Char} {w₁ w₂ mid rest : List Char} {f : List Char → Option (List Char)}
    (hx : ',' ≠ x) (hw₁ : w₁ ∈ JsonSyntax.ws)
    (hmid : skipWhitespace mid = skipWhitespace (w₁ ++ ',' :: (w₂ ++ rest))) :
    closedOr x mid ((afterChar ',' (skipWhitespace mid)).bind f) = f (w₂ ++ rest) := by
  have hcomma : ¬ isWs ',' := by decide
  rw [skipWhitespace_append hw₁, skipWhitespace_cons hcomma] at hmid
  rw [closedOr, hmid, afterChar, if_neg hx, Option.none_or, afterChar, if_pos rfl,
    Option.bind_some]

/-- A value does not start with a closing bracket. -/
theorem not_closed_of_afterValue {cs rest : List Char} (h : afterValue cs = some rest) :
    afterChar ']' (skipWhitespace cs) = none := by
  rw [afterValue_eq] at h
  cases hcs : skipWhitespace cs with
  | nil => rfl
  | cons c mid =>
    rw [hcs] at h
    by_cases hc : c = ']'
    · subst hc
      cases h
    · exact if_neg hc

theorem not_closed_of_afterElements {cs rest : List Char} (h : afterElements cs = some rest) :
    afterChar ']' (skipWhitespace cs) = none := by
  rw [afterElements_eq, Option.bind_eq_some_iff] at h
  obtain ⟨val, hval, -⟩ := h
  exact not_closed_of_afterValue hval

theorem not_closed_of_afterMembers {cs rest : List Char} (h : afterMembers cs = some rest) :
    afterChar closeBrace (skipWhitespace cs) = none := by
  rw [afterMembers_eq, Option.bind_eq_some_iff] at h
  obtain ⟨key, hkey, -⟩ := h
  obtain ⟨body, hbody, -⟩ := Option.bind_eq_some_iff.1 hkey
  have hquote : ¬ quoteMark = closeBrace := by decide
  rw [afterChar_eq_some.1 hbody, afterChar, if_neg hquote]

/-- What the functions of the parser do behind a derived text. -/
def Reaches : JsonSyntax.Nonterminal → List Char → Prop
  | .value, v => ∀ rest, Delimited rest → Continues (afterValue (v ++ rest)) rest
  | .members, m => ∀ e ∈ JsonSyntax.endObject, ∀ rest,
      Continues (afterMembers (m ++ (e ++ rest))) rest
  | .elements, m => ∀ e ∈ JsonSyntax.endArray, ∀ rest,
      Continues (afterElements (m ++ (e ++ rest))) rest

theorem closedOr_of_none {x : Char} {cs : List Char} (h : afterChar x (skipWhitespace cs) = none)
    (otherwise : Option (List Char)) : closedOr x cs otherwise = otherwise := by
  rw [closedOr, h, Option.none_or]

theorem consumeLiteral_append (literal : String) (rest : List Char) :
    consumeLiteral literal (literal.toList ++ rest) = some rest := by
  rw [consumeLiteral, if_pos (List.prefix_append _ _), ← String.length_toList, List.drop_left]

theorem afterValue_literal {w rest : List Char}
    (h : w ∈ JsonSyntax.literal "false" + JsonSyntax.literal "null" + JsonSyntax.literal "true") :
    afterValue (w ++ rest) = some rest := by
  rcases h with (rfl | rfl) | rfl
  · exact (afterValue_eq _).trans (consumeLiteral_append "false" rest)
  · exact (afterValue_eq _).trans (consumeLiteral_append "null" rest)
  · exact (afterValue_eq _).trans (consumeLiteral_append "true" rest)

theorem head?_number {n : List Char} (hn : n ∈ JsonSyntax.number) :
    ∃ c t, n = c :: t ∧ (c = '-' ∨ isDigit c) := by
  obtain ⟨_, ⟨_, ⟨s, hs, i, hi, rfl⟩, f, -, rfl⟩, e, -, rfl⟩ := hn
  rcases mem_optional.1 hs with rfl | rfl
  · rcases hi with rfl | ⟨_, ⟨c, ⟨hone, hnine⟩, rfl⟩, ds, -, rfl⟩
    · exact ⟨'0', _, rfl, .inr (by decide)⟩
    · exact ⟨c, _, rfl, .inr ⟨le_trans (by decide) hone, hnine⟩⟩
  · exact ⟨'-', _, rfl, .inl rfl⟩

theorem afterValue_number {n rest : List Char} (hn : n ∈ JsonSyntax.number)
    (hrest : Delimited rest) : afterValue (n ++ rest) = some rest := by
  have hparse := parseNumber_append hn hrest
  obtain ⟨c, t, rfl, hc⟩ := head?_number hn
  have hne : ∀ x : Char, x ≠ '-' → ¬ isDigit x → c ≠ x := by
    rintro x hminus hdigit rfl
    exact hc.elim hminus hdigit
  have hws : ¬ isWs c := by
    rintro (rfl | rfl | rfl | rfl)
    all_goals exact absurd hc (by decide)
  have hnumber : c = '-' ∨ c.isDigit = true := hc.imp_right (isDigit_iff_isDigit c).2
  rw [List.cons_append] at hparse ⊢
  rw [afterValue_eq, skipWhitespace_cons hws]
  simp only [if_neg (hne openBrace (by decide) (by decide)),
    if_neg (hne '[' (by decide) (by decide)), if_neg (hne quoteMark (by decide) (by decide))]
  rw [parseScalar_eq_number (hne 't' (by decide) (by decide)) (hne 'f' (by decide) (by decide))
    (hne 'n' (by decide) (by decide)), if_pos hnumber, hparse]

theorem afterValue_string {s rest : List Char} (hs : s ∈ JsonSyntax.string) :
    afterValue (s ++ rest) = some rest := by
  obtain ⟨_, ⟨_, rfl, b, hb, rfl⟩, _, rfl, rfl⟩ := hs
  simp only [List.append_assoc, List.cons_append, List.nil_append]
  exact (afterValue_eq _).trans (parseStringBody_append hb)

theorem afterValue_openBrace (cs : List Char) :
    afterValue (openBrace :: cs) = closedOr closeBrace cs (afterMembers cs) := by
  rw [afterValue_eq]
  rfl

theorem afterValue_openBracket (cs : List Char) :
    afterValue ('[' :: cs) = closedOr ']' cs (afterElements cs) := by
  rw [afterValue_eq]
  rfl

/-- What is left to read behind the name of a member. -/
theorem afterMembers_name {k cs : List Char}
    (hk : k ∈ JsonSyntax.string * JsonSyntax.nameSeparator) :
    afterMembers (k ++ cs) = (afterValue cs).bind fun value =>
      closedOr closeBrace value ((afterChar ',' (skipWhitespace value)).bind afterMembers) := by
  obtain ⟨s, hs, _, hsep, rfl⟩ := hk
  obtain ⟨w₁, hw₁, w₂, hw₂, rfl⟩ := JsonSyntax.mem_structural hsep
  have hcolon : ¬ isWs ':' := by decide
  simp only [List.append_assoc, List.cons_append]
  rw [afterMembers_eq, afterString_append hs, Option.bind_some, skipWhitespace_append hw₁,
    skipWhitespace_cons hcolon, afterChar, if_pos rfl, Option.bind_some, afterValue_append hw₂]

/-- The closing bracket delimits the value before it. -/
theorem delimited_structural {x : Char} {e rest : List Char}
    (he : e ∈ JsonSyntax.ws * JsonSyntax.char x * JsonSyntax.ws)
    (hx : ¬ isDigit x ∧ x ≠ '.' ∧ x ≠ 'e' ∧ x ≠ 'E') : Delimited (e ++ rest) := by
  obtain ⟨w₁, hw₁, w₂, -, rfl⟩ := JsonSyntax.mem_structural he
  rw [List.append_assoc, List.cons_append]
  exact delimited_of_ws hw₁ hx

/-- Brackets with nothing between them. -/
theorem continues_empty {opening closing : Char} {f : List Char → Option (List Char)}
    (hopen : ∀ cs, afterValue (opening :: cs) = closedOr closing cs (f cs))
    (hclosing : ¬ isWs closing) {w : List Char}
    (h : w ∈ JsonSyntax.ws * JsonSyntax.char opening * JsonSyntax.ws *
      (JsonSyntax.ws * JsonSyntax.char closing * JsonSyntax.ws)) (rest : List Char) :
    Continues (afterValue (w ++ rest)) rest := by
  obtain ⟨b, hb, e, he, rfl⟩ := h
  obtain ⟨w₁, hw₁, w₂, hw₂, rfl⟩ := JsonSyntax.mem_structural hb
  obtain ⟨w₃, hw₃, w₄, hw₄, rfl⟩ := JsonSyntax.mem_structural he
  simp only [List.append_assoc, List.cons_append]
  rw [afterValue_append hw₁, hopen]
  exact closedOr_closed hclosing hw₃ hw₄ (skipWhitespace_append hw₂ _) _

/-- Brackets with something between them that does not start with the closing one. -/
theorem continues_enclosed {opening closing : Char} {f : List Char → Option (List Char)}
    (hopen : ∀ cs, afterValue (opening :: cs) = closedOr closing cs (f cs))
    (hskip : ∀ {w : List Char}, w ∈ JsonSyntax.ws → ∀ cs, f (w ++ cs) = f cs)
    (hnot : ∀ {cs rest : List Char}, f cs = some rest →
      afterChar closing (skipWhitespace cs) = none) {b m rest : List Char}
    (hb : b ∈ JsonSyntax.ws * JsonSyntax.char opening * JsonSyntax.ws)
    (hm : Continues (f m) rest) : Continues (afterValue (b ++ m)) rest := by
  obtain ⟨w₁, hw₁, w₂, hw₂, rfl⟩ := JsonSyntax.mem_structural hb
  rw [← hskip hw₂] at hm
  have hclosed : afterChar closing (skipWhitespace (w₂ ++ m)) = none := by
    obtain ⟨rest', hread, -⟩ := hm
    exact hnot hread
  simp only [List.append_assoc, List.cons_append]
  rwa [afterValue_append hw₁, hopen, closedOr_of_none hclosed]

/-- By induction on the derivation: what stands behind a part delimits it. -/
theorem reaches {n : JsonSyntax.Nonterminal} {w : List Char} (h : Derives n w) : Reaches n w := by
  induction h with
  | literal h => exact fun rest _ => afterValue_literal h ▸ continues_some rest
  | number h => exact fun rest hrest => afterValue_number h hrest ▸ continues_some rest
  | string h => exact fun rest _ => afterValue_string h ▸ continues_some rest
  | emptyObject h => exact fun rest _ => continues_empty afterValue_openBrace (by decide) h rest
  | emptyArray h => exact fun rest _ => continues_empty afterValue_openBracket (by decide) h rest
  | object hb _ he ih =>
    intro rest _
    rw [List.append_assoc, List.append_assoc]
    exact continues_enclosed afterValue_openBrace afterMembers_append not_closed_of_afterMembers
      hb (ih _ he rest)
  | array hb _ he ih =>
    intro rest _
    rw [List.append_assoc, List.append_assoc]
    exact continues_enclosed afterValue_openBracket afterElements_append
      not_closed_of_afterElements hb (ih _ he rest)
  | lastMember hk _ ih =>
    intro e he rest
    obtain ⟨mid, hvalue, hskip⟩ := ih (e ++ rest) (delimited_structural he (by decide))
    obtain ⟨w₁, hw₁, w₂, hw₂, rfl⟩ := JsonSyntax.mem_structural he
    simp only [List.append_assoc, List.cons_append] at hvalue hskip ⊢
    rw [afterMembers_name hk, hvalue, Option.bind_some]
    exact closedOr_closed (by decide) hw₁ hw₂ hskip _
  | @member k v s w hk _ hs _ ihv ihw =>
    intro e he rest
    obtain ⟨mid, hvalue, hskip⟩ := ihv (s ++ (w ++ (e ++ rest)))
      (delimited_structural hs (by decide))
    obtain ⟨w₁, hw₁, w₂, hw₂, rfl⟩ := JsonSyntax.mem_structural hs
    simp only [List.append_assoc, List.cons_append] at hvalue hskip ⊢
    rw [afterMembers_name hk, hvalue, Option.bind_some, closedOr_comma (by decide) hw₁ hskip,
      afterMembers_append hw₂]
    exact ihw e he rest
  | lastElement _ ih =>
    intro e he rest
    obtain ⟨mid, hvalue, hskip⟩ := ih (e ++ rest) (delimited_structural he (by decide))
    obtain ⟨w₁, hw₁, w₂, hw₂, rfl⟩ := JsonSyntax.mem_structural he
    simp only [List.append_assoc, List.cons_append] at hvalue hskip ⊢
    rw [afterElements_eq, hvalue, Option.bind_some]
    exact closedOr_closed (by decide) hw₁ hw₂ hskip _
  | @element v s w _ hs _ ihv ihw =>
    intro e he rest
    obtain ⟨mid, hvalue, hskip⟩ := ihv (s ++ (w ++ (e ++ rest)))
      (delimited_structural hs (by decide))
    obtain ⟨w₁, hw₁, w₂, hw₂, rfl⟩ := JsonSyntax.mem_structural hs
    simp only [List.append_assoc, List.cons_append] at hvalue hskip ⊢
    rw [afterElements_eq, hvalue, Option.bind_some, closedOr_comma (by decide) hw₁ hskip,
      afterElements_append hw₂]
    exact ihw e he rest

theorem afterValue_derived {v rest : List Char} (hv : v ∈ JsonSyntax.value)
    (hrest : Delimited rest) : Continues (afterValue (v ++ rest)) rest :=
  reaches hv rest hrest

namespace JsonParser

/-- A line is accepted, and then as its trimmed text, exactly when that is a JSON text. The
parser stops on every line, at an index that is not behind the end. -/
theorem accepts_iff_jsonText (line : String) :
    (∀ text, parseLightweightJsonLine line = some text ↔
      text = Text.trim line ∧ text.toList ∈ JsonSyntax.jsonText) ∧
    (parseValue (new (Utf8.bytes (Text.trim line)))).parser.index ≤
      (Utf8.bytes (Text.trim line)).length := by
  refine ⟨fun text => ?_, (Outcome.parser _).within⟩
  rw [parseLightweightJsonLine_eq_some]
  refine and_congr_right fun _ => ?_
  constructor
  · rintro ⟨rest, hvalue, hfinished⟩
    obtain ⟨w, hw, htext⟩ := reads_value hvalue
    rw [htext]
    exact Language.append_mem_mul hw (mem_ws_of_skipWhitespace hfinished)
  · rintro htext
    obtain ⟨w₁, hw₁, v, hv, w₂, hw₂, htext⟩ := JsonSyntax.mem_jsonText htext
    obtain ⟨rest, hvalue, hskip⟩ := afterValue_derived hv (delimited_of_mem_ws hw₂)
    have hnothing := skipWhitespace_append hw₂ []
    rw [List.append_nil] at hnothing
    exact ⟨rest, by rw [htext, afterValue_append hw₁, hvalue], hskip.trans hnothing⟩

end JsonParser

end HobitQueue.Codex
