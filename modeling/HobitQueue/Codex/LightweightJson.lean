import HobitQueue.Lib.Text

/-!
# Lines that are JSON

A line of the child's output is shown as an event of the agent when it is one JSON value. The
check walks over the text without building the value.
-/

namespace HobitQueue.Codex

/-! ## The characters of the grammar -/

def quoteMark : Char := Char.ofNat 34

def backslash : Char := Char.ofNat 92

def openBrace : Char := Char.ofNat 123

def closeBrace : Char := Char.ofNat 125

/-- What is left of a text after something was read. -/
abbrev Rest (cs : List Char) : Type := { rest : List Char // rest.length < cs.length }

/-- What is left after more was read. -/
def Rest.within {cs rest : List Char} (after : Rest rest) (h : rest.length < cs.length) :
    Rest cs :=
  ⟨after.1, after.2.trans h⟩

def skipWhitespace (cs : List Char) : List Char :=
  cs.dropWhile fun c => c == ' ' || c == '\n' || c == '\r' || c == '\t'

theorem length_skipWhitespace (cs : List Char) : (skipWhitespace cs).length ≤ cs.length :=
  List.length_dropWhile_le _ _

def skipDigits (cs : List Char) : List Char := cs.dropWhile Char.isDigit

def isHexDigit (c : Char) : Bool :=
  c.isDigit || ('a' ≤ c && c ≤ 'f') || ('A' ≤ c && c ≤ 'F')

/-- The text after the closing quote. -/
def parseStringBody : List Char → Option (List Char)
  | [] => none
  | c :: rest =>
    if c = quoteMark then some rest
    else if c = backslash then
      match rest with
      | 'u' :: h₁ :: h₂ :: h₃ :: h₄ :: rest =>
        if isHexDigit h₁ && isHexDigit h₂ && isHexDigit h₃ && isHexDigit h₄ then
          parseStringBody rest
        else none
      | escape :: rest =>
        if escape ∈ [quoteMark, backslash, '/', 'b', 'f', 'n', 'r', 't'] then parseStringBody rest
        else none
      | [] => none
    else if c.toNat < 32 then none
    else parseStringBody rest

theorem length_parseStringBody {cs rest : List Char} (h : parseStringBody cs = some rest) :
    rest.length < cs.length := by
  fun_induction parseStringBody cs <;> simp_all <;> omega

/-- The digits after a point or an exponent, of which there must be one. -/
def parseDigits : List Char → Option (List Char)
  | c :: rest => if c.isDigit then some (skipDigits rest) else none
  | [] => none

def parseExponent : List Char → Option (List Char)
  | 'e' :: '+' :: rest | 'e' :: '-' :: rest | 'E' :: '+' :: rest | 'E' :: '-' :: rest =>
    parseDigits rest
  | 'e' :: rest | 'E' :: rest => parseDigits rest
  | rest => some rest

def parseFraction : List Char → Option (List Char)
  | '.' :: rest => (parseDigits rest).bind parseExponent
  | rest => parseExponent rest

def parseNumber (cs : List Char) : Option (List Char) :=
  match (match cs with | '-' :: rest => rest | rest => rest) with
  | '0' :: rest => parseFraction rest
  | c :: rest => if c.isDigit then parseFraction (skipDigits rest) else none
  | [] => none

theorem length_parseDigits {cs rest : List Char} (h : parseDigits cs = some rest) :
    rest.length < cs.length := by
  cases cs with
  | nil => cases h
  | cons c cs =>
    simp only [parseDigits] at h
    split_ifs at h
    obtain rfl := Option.some.inj h
    have hdrop := List.length_dropWhile_le Char.isDigit cs
    simp only [skipDigits, List.length_cons]
    omega

theorem length_parseExponent {cs rest : List Char} (h : parseExponent cs = some rest) :
    rest.length ≤ cs.length := by
  unfold parseExponent at h
  split at h
  case h_7 => exact (Option.some.inj h) ▸ le_refl _
  all_goals
    have hdigits := length_parseDigits h
    simp only [List.length_cons]
    omega

theorem length_parseFraction {cs rest : List Char} (h : parseFraction cs = some rest) :
    rest.length ≤ cs.length := by
  unfold parseFraction at h
  split at h
  · obtain ⟨mid, hdigits, hexponent⟩ := Option.bind_eq_some_iff.1 h
    have h₁ := length_parseDigits hdigits
    have h₂ := length_parseExponent hexponent
    simp only [List.length_cons]
    omega
  · exact length_parseExponent h

theorem length_parseNumber {cs rest : List Char} (h : parseNumber cs = some rest) :
    rest.length < cs.length := by
  have hsign : (match cs with | '-' :: rest => rest | rest => rest).length ≤ cs.length := by
    split <;> simp
  unfold parseNumber at h
  split at h
  · rename_i mid hmid
    have hrest := length_parseFraction h
    rw [hmid, List.length_cons] at hsign
    omega
  · rename_i c mid _ hmid
    split_ifs at h
    have hrest := length_parseFraction h
    have hdrop := List.length_dropWhile_le Char.isDigit mid
    rw [hmid, List.length_cons] at hsign
    simp only [skipDigits] at hrest
    omega
  · cases h

/-! ## Values -/

theorem length_of_skipWhitespace {cs rest : List Char} {c : Char}
    (h : skipWhitespace cs = c :: rest) : rest.length < cs.length := by
  have hskip := length_skipWhitespace cs
  rw [h, List.length_cons] at hskip
  omega

/-- The text after a character that stands after white space. -/
def consume (expected : Char) (cs : List Char) : Option (Rest cs) :=
  match h : skipWhitespace cs with
  | [] => none
  | c :: rest => if c = expected then some ⟨rest, length_of_skipWhitespace h⟩ else none

/-- The text after a string that stands after white space. -/
def parseString (cs : List Char) : Option (Rest cs) :=
  match consume quoteMark cs with
  | none => none
  | some body =>
    match h : parseStringBody body.1 with
    | none => none
    | some rest => some ⟨rest, (length_parseStringBody h).trans body.2⟩

/-- The text after the rest of a literal whose first character was read. -/
def consumeLiteral (literal : String) (cs : List Char) : Option (List Char) :=
  if literal.toList <+: cs then some (cs.drop literal.length) else none

/-- The text after a number or a literal. -/
def parseScalar (cs : List Char) : Option (List Char) :=
  match cs with
  | 't' :: _ => consumeLiteral "true" cs
  | 'f' :: _ => consumeLiteral "false" cs
  | 'n' :: _ => consumeLiteral "null" cs
  | c :: _ => if c = '-' ∨ c.isDigit then parseNumber cs else none
  | [] => none

theorem length_consumeLiteral {literal : String} {cs rest : List Char} (hne : literal ≠ "")
    (h : consumeLiteral literal cs = some rest) : rest.length < cs.length := by
  simp only [consumeLiteral] at h
  split_ifs at h with hpre
  obtain rfl := Option.some.inj h
  have hlen := hpre.length_le
  have hpos : 0 < literal.length := by
    rw [Nat.pos_iff_ne_zero, Ne, String.length_eq_zero_iff]
    exact hne
  rw [String.length_toList] at hlen
  rw [List.length_drop]
  omega

theorem length_parseScalar {cs rest : List Char} (h : parseScalar cs = some rest) :
    rest.length < cs.length := by
  unfold parseScalar at h
  split at h
  · exact length_consumeLiteral (by decide) h
  · exact length_consumeLiteral (by decide) h
  · exact length_consumeLiteral (by decide) h
  · split_ifs at h
    exact length_parseNumber h
  · cases h

mutual

/-- The text after a value. -/
def parseValue (cs : List Char) : Option (Rest cs) :=
  match h : skipWhitespace cs with
  | [] => none
  | c :: rest =>
    have hlt : rest.length < cs.length := length_of_skipWhitespace h
    if c = openBrace then
      match consume closeBrace rest with
      | some after => some (after.within hlt)
      | none => (parseMembers rest).map (·.within hlt)
    else if c = '[' then
      match consume ']' rest with
      | some after => some (after.within hlt)
      | none => (parseElements rest).map (·.within hlt)
    else if c = quoteMark then parseString cs
    else
      match hscalar : parseScalar (skipWhitespace cs) with
      | none => none
      | some after => some ⟨after, by
          have hskip := length_skipWhitespace cs
          have hafter := length_parseScalar hscalar
          omega⟩
termination_by (cs.length, 0)

/-- The text after the members of an object and its brace. -/
def parseMembers (cs : List Char) : Option (Rest cs) :=
  match parseString cs with
  | none => none
  | some key =>
    match consume ':' key.1 with
    | none => none
    | some colon =>
      have hcolon : colon.1.length < cs.length := colon.2.trans key.2
      match parseValue colon.1 with
      | none => none
      | some value =>
        have hvalue : value.1.length < cs.length := value.2.trans hcolon
        match consume closeBrace value.1 with
        | some after => some (after.within hvalue)
        | none =>
          match consume ',' value.1 with
          | none => none
          | some comma =>
            have hcomma : comma.1.length < cs.length := comma.2.trans hvalue
            (parseMembers comma.1).map (·.within hcomma)
termination_by (cs.length, 1)

/-- The text after the elements of an array and its bracket. -/
def parseElements (cs : List Char) : Option (Rest cs) :=
  match parseValue cs with
  | none => none
  | some value =>
    match consume ']' value.1 with
    | some after => some (after.within value.2)
    | none =>
      match consume ',' value.1 with
      | none => none
      | some comma =>
        have hcomma : comma.1.length < cs.length := comma.2.trans value.2
        (parseElements comma.1).map (·.within hcomma)
termination_by (cs.length, 1)

end

/-- The trimmed line, when nothing but white space follows one value in it. -/
def parseLightweightJsonLine (line : String) : Option String :=
  let trimmed := Text.trim line
  if trimmed = "" then none
  else
    match parseValue trimmed.toList with
    | none => none
    | some rest => if skipWhitespace rest.1 = [] then some trimmed else none

end HobitQueue.Codex
