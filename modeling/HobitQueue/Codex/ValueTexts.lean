import HobitQueue.Codex.LightweightJson

/-!
# The parser as equations on texts

The functions of the parser answer with what is left of a text and with the fact that it is
shorter. Here the fact is left out, which gives each function an equation in terms of the
others.
-/

namespace HobitQueue.Codex

/-- The text behind a character that it starts with. -/
def afterChar (expected : Char) : List Char → Option (List Char)
  | c :: rest => if c = expected then some rest else none
  | [] => none

/-- The text behind hexadecimal digits. -/
def afterHex : ℕ → List Char → Option (List Char)
  | 0, cs => some cs
  | n + 1, c :: cs => if isHexDigit c then afterHex n cs else none
  | _ + 1, [] => none

def escapeChars : List Char := [quoteMark, backslash, '/', 'b', 'f', 'n', 'r', 't']

/-- The text behind an escape, after the backslash. -/
def afterEscape : List Char → Option (List Char)
  | c :: cs => if c ∈ escapeChars then some cs else if c = 'u' then afterHex 4 cs else none
  | [] => none

theorem length_afterHex {n : ℕ} {cs after : List Char} (h : afterHex n cs = some after) :
    after.length ≤ cs.length := by
  induction n generalizing cs with
  | zero => exact (Option.some.inj h) ▸ le_rfl
  | succ n ih =>
    cases cs with
    | nil => cases h
    | cons c cs =>
      rw [afterHex] at h
      split_ifs at h
      have hrest := ih h
      rw [List.length_cons]
      omega

theorem length_afterEscape {cs after : List Char} (h : afterEscape cs = some after) :
    after.length ≤ cs.length := by
  cases cs with
  | nil => cases h
  | cons c cs =>
    rw [afterEscape] at h
    rw [List.length_cons]
    split_ifs at h
    · obtain rfl := Option.some.inj h
      omega
    · have hrest := length_afterHex h
      omega

theorem parseStringBody_cons (c : Char) (cs : List Char) :
    parseStringBody (c :: cs) =
      if c = quoteMark then some cs
      else if c = backslash then (afterEscape cs).bind parseStringBody
      else if c.toNat < 32 then none
      else parseStringBody cs := by
  rw [parseStringBody.eq_def]
  dsimp only
  by_cases hquote : c = quoteMark
  · rw [if_pos hquote, if_pos hquote]
  rw [if_neg hquote, if_neg hquote]
  by_cases hescape : c = backslash
  · rw [if_pos hescape, if_pos hescape]
    split
    · rename_i h₁ h₂ h₃ h₄ rest
      have hu : 'u' ∉ escapeChars := by decide
      simp only [afterEscape, if_neg hu, if_pos, afterHex, Bool.and_eq_true]
      split_ifs <;> simp_all
    · rename_i c rest hshape
      by_cases hc : c ∈ escapeChars
      · rw [afterEscape, if_pos hc]
        exact if_pos hc
      · rw [afterEscape, if_neg hc]
        refine (if_neg hc).trans ?_
        by_cases hu : c = 'u'
        · rw [if_pos hu]
          subst hu
          match rest, hshape with
          | [], _ => rfl
          | [h₁], _ => simp [afterHex]
          | [h₁, h₂], _ => simp [afterHex]
          | [h₁, h₂, h₃], _ => simp [afterHex]
          | h₁ :: h₂ :: h₃ :: h₄ :: rest, hshape => exact absurd rfl (hshape h₁ h₂ h₃ h₄ rest rfl)
        · rw [if_neg hu]
          rfl
    · rfl
  · rw [if_neg hescape, if_neg hescape]

/-! ## Numbers -/

/-- The text without a character that may stand at its start. -/
def dropIf (t : Char → Bool) : List Char → List Char
  | c :: cs => if t c then cs else c :: cs
  | [] => []

def afterInteger : List Char → Option (List Char)
  | c :: cs => if c = '0' then some cs else if c.isDigit then some (skipDigits cs) else none
  | [] => none

def afterFraction (cs : List Char) : Option (List Char) :=
  match afterChar '.' cs with
  | some rest => parseDigits rest
  | none => some cs

theorem parseUnsigned_eq (cs : List Char) :
    (match cs with
      | '0' :: rest => parseFraction rest
      | c :: rest => if c.isDigit then parseFraction (skipDigits rest) else none
      | [] => none) = (afterInteger cs).bind parseFraction := by
  cases cs with
  | nil => rfl
  | cons c rest =>
    by_cases hc : c = '0'
    · subst hc
      rfl
    · simp only [afterInteger, if_neg hc]
      split_ifs <;> rfl

theorem unsigned_cons {c : Char} (hc : c ≠ '-') (cs : List Char) :
    (match c :: cs with | '-' :: rest => rest | rest => rest) = c :: cs := by
  split
  · rename_i hshape
    exact absurd (List.cons.inj hshape).1 hc
  · rfl

theorem parseNumber_of_unsigned {cs unsigned : List Char} :
    (match cs with | '-' :: rest => rest | rest => rest) = unsigned →
      parseNumber cs = match unsigned with
        | '0' :: rest => parseFraction rest
        | c :: rest => if c.isDigit then parseFraction (skipDigits rest) else none
        | [] => none := by
  intro h
  subst h
  rfl

theorem parseNumber_eq (cs : List Char) :
    parseNumber cs = (afterInteger (dropIf (· == '-') cs)).bind parseFraction := by
  cases cs with
  | nil => rfl
  | cons c cs =>
    by_cases hc : c = '-'
    · subst hc
      exact parseUnsigned_eq cs
    · have hsign : dropIf (· == '-') (c :: cs) = c :: cs := by simp [dropIf, hc]
      rw [hsign, parseNumber_of_unsigned (unsigned_cons hc cs)]
      exact parseUnsigned_eq (c :: cs)

theorem parseFraction_eq (cs : List Char) :
    parseFraction cs = (afterFraction cs).bind parseExponent := by
  cases cs with
  | nil => rfl
  | cons c cs =>
    by_cases hc : c = '.'
    · subst hc
      rfl
    · simp [parseFraction, afterFraction, afterChar, hc]

theorem parseExponent_cons (c : Char) (cs : List Char) :
    parseExponent (c :: cs) =
      if c = 'e' ∨ c = 'E' then parseDigits (dropIf (fun c => c == '+' || c == '-') cs)
      else some (c :: cs) := by
  by_cases hc : c = 'e' ∨ c = 'E'
  · rw [if_pos hc]
    cases cs with
    | nil => rcases hc with rfl | rfl <;> rfl
    | cons d cs =>
      by_cases hplus : d = '+'
      · subst hplus
        rcases hc with rfl | rfl <;> rfl
      · by_cases hminus : d = '-'
        · subst hminus
          rcases hc with rfl | rfl <;> rfl
        · rcases hc with rfl | rfl <;> simp [parseExponent, dropIf, hplus, hminus]
  · rw [if_neg hc]
    obtain ⟨hlower, hupper⟩ := not_or.1 hc
    simp [parseExponent, hlower, hupper]

/-! ## Values -/

def afterString (cs : List Char) : Option (List Char) :=
  (afterChar quoteMark (skipWhitespace cs)).bind parseStringBody

/-- The text behind a value. -/
def afterValue (cs : List Char) : Option (List Char) := (parseValue cs).map (·.1)

/-- The text behind the members of an object. -/
def afterMembers (cs : List Char) : Option (List Char) := (parseMembers cs).map (·.1)

/-- The text behind the elements of an array. -/
def afterElements (cs : List Char) : Option (List Char) := (parseElements cs).map (·.1)

theorem consume_map (expected : Char) (cs : List Char) :
    (consume expected cs).map (·.1) = afterChar expected (skipWhitespace cs) := by
  unfold consume
  split
  · rename_i h
    rw [h]
    rfl
  · rename_i c rest h
    have hafter : afterChar expected (skipWhitespace cs) =
        if c = expected then some rest else none := by rw [h, afterChar]
    rw [hafter]
    split_ifs <;> rfl

theorem parseString_map (cs : List Char) : (parseString cs).map (·.1) = afterString cs := by
  rw [afterString, ← consume_map]
  unfold parseString
  cases consume quoteMark cs with
  | none => rfl
  | some body =>
    simp only [Option.map_some, Option.bind_some]
    split
    · rename_i h
      rw [h]
      rfl
    · rename_i rest h
      exact h.symm

theorem length_afterChar {expected : Char} {cs after : List Char}
    (h : afterChar expected cs = some after) : after.length < cs.length := by
  cases cs with
  | nil => cases h
  | cons c cs =>
    rw [afterChar] at h
    split_ifs at h
    obtain rfl := Option.some.inj h
    exact Nat.lt_succ_self _

theorem length_afterString {cs after : List Char} (h : afterString cs = some after) :
    after.length < cs.length := by
  rw [← parseString_map, Option.map_eq_some_iff] at h
  obtain ⟨r, -, rfl⟩ := h
  exact r.2

theorem length_afterValue {cs after : List Char} (h : afterValue cs = some after) :
    after.length < cs.length := by
  rw [afterValue, Option.map_eq_some_iff] at h
  obtain ⟨r, -, rfl⟩ := h
  exact r.2

theorem skipWhitespace_skipWhitespace (cs : List Char) :
    skipWhitespace (skipWhitespace cs) = skipWhitespace cs :=
  List.dropWhile_idempotent _ cs

/-- Forgetting that the rest is shorter. -/
theorem map_within {cs rest : List Char} (h : rest.length < cs.length) (r : Option (Rest rest)) :
    (r.map (·.within h)).map (·.1) = r.map (·.1) := by
  cases r <;> rfl

/-- Behind a closing character, or else in what follows. -/
def closedOr (expected : Char) (cs : List Char) (otherwise : Option (List Char)) :
    Option (List Char) :=
  (afterChar expected (skipWhitespace cs)).or otherwise

theorem match_consume {cs rest : List Char} (h : rest.length < cs.length) (expected : Char)
    (otherwise : Option (Rest cs)) :
    (match consume expected rest with
      | some after => some (after.within h)
      | none => otherwise : Option (Rest cs)).map (·.1) =
        closedOr expected rest (otherwise.map (·.1)) := by
  rw [closedOr, ← consume_map]
  cases consume expected rest <;> rfl

theorem afterValue_eq (cs : List Char) :
    afterValue cs =
      match skipWhitespace cs with
      | [] => none
      | c :: rest =>
        if c = openBrace then closedOr closeBrace rest (afterMembers rest)
        else if c = '[' then closedOr ']' rest (afterElements rest)
        else if c = quoteMark then parseStringBody rest
        else parseScalar (c :: rest) := by
  rw [afterValue, parseValue]
  split
  · rename_i h
    rw [h]
    rfl
  · rename_i c rest h
    simp only [h]
    split_ifs with hbrace hbracket hquote
    · refine (match_consume (length_of_skipWhitespace h) closeBrace _).trans ?_
      rw [map_within]
      rfl
    · refine (match_consume (length_of_skipWhitespace h) ']' _).trans ?_
      rw [map_within]
      rfl
    · rw [parseString_map, afterString, h, afterChar, if_pos hquote, Option.bind_some]
    · split
      · rename_i hscalar
        rw [← h, hscalar]
        rfl
      · rename_i after hscalar
        rw [← h]
        exact hscalar.symm

theorem parseScalar_eq_number {c : Char} (ht : c ≠ 't') (hf : c ≠ 'f') (hn : c ≠ 'n')
    (cs : List Char) :
    parseScalar (c :: cs) = if c = '-' ∨ c.isDigit then parseNumber (c :: cs) else none := by
  unfold parseScalar
  split
  · rename_i heq
    exact absurd (List.cons.inj heq).1 ht
  · rename_i heq
    exact absurd (List.cons.inj heq).1 hf
  · rename_i heq
    exact absurd (List.cons.inj heq).1 hn
  · rename_i heq
    rw [(List.cons.inj heq).1]
  · rename_i heq
    cases heq

theorem afterMembers_eq (cs : List Char) :
    afterMembers cs =
      (afterString cs).bind fun key =>
      (afterChar ':' (skipWhitespace key)).bind fun colon =>
      (afterValue colon).bind fun value =>
      closedOr closeBrace value ((afterChar ',' (skipWhitespace value)).bind afterMembers) := by
  rw [afterMembers, parseMembers, ← parseString_map]
  cases parseString cs with
  | none => rfl
  | some key =>
    simp only [Option.map_some, Option.bind_some]
    rw [← consume_map]
    cases consume ':' key.1 with
    | none => rfl
    | some colon =>
      simp only [Option.map_some, Option.bind_some]
      rw [afterValue]
      cases parseValue colon.1 with
      | none => rfl
      | some value =>
        simp only [Option.map_some, Option.bind_some]
        rw [closedOr, ← consume_map, ← consume_map]
        cases consume closeBrace value.1 with
        | some after => rfl
        | none =>
          cases consume ',' value.1 with
          | none => rfl
          | some comma => exact map_within _ _

theorem afterElements_eq (cs : List Char) :
    afterElements cs =
      (afterValue cs).bind fun value =>
      closedOr ']' value ((afterChar ',' (skipWhitespace value)).bind afterElements) := by
  rw [afterElements, parseElements, afterValue]
  cases parseValue cs with
  | none => rfl
  | some value =>
    simp only [Option.map_some, Option.bind_some]
    rw [closedOr, ← consume_map, ← consume_map]
    cases consume ']' value.1 with
    | some after => rfl
    | none =>
      cases consume ',' value.1 with
      | none => rfl
      | some comma => exact map_within _ _

theorem afterString_skipWhitespace (cs : List Char) :
    afterString (skipWhitespace cs) = afterString cs := by
  rw [afterString, afterString, skipWhitespace_skipWhitespace]

theorem afterValue_skipWhitespace (cs : List Char) :
    afterValue (skipWhitespace cs) = afterValue cs := by
  rw [afterValue_eq, afterValue_eq, skipWhitespace_skipWhitespace]

theorem afterMembers_skipWhitespace (cs : List Char) :
    afterMembers (skipWhitespace cs) = afterMembers cs := by
  rw [afterMembers_eq, afterMembers_eq, afterString_skipWhitespace]

theorem afterElements_skipWhitespace (cs : List Char) :
    afterElements (skipWhitespace cs) = afterElements cs := by
  rw [afterElements_eq, afterElements_eq, afterValue_skipWhitespace]

end HobitQueue.Codex
