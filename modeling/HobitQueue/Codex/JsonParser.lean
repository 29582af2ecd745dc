import HobitQueue.Codex.LightweightJson
import HobitQueue.Lib.Utf8

/-!
# The parser of a JSON line over its bytes

The parser holds the bytes of a text and an index into them. The index is at most the number of
bytes by the type of the parser, and an outcome knows that it is not before the index the parser
started from, also where the parser has failed. On every byte sequence of a text the parser does
what `parseValue` does on its characters.
-/

namespace HobitQueue.Codex

/-- `JsonParser`: the index never passes the end of the input. -/
structure JsonParser (input : List UInt8) where
  index : ℕ
  within : index ≤ input.length

namespace JsonParser

variable {input : List UInt8}

def new (input : List UInt8) : JsonParser input := ⟨0, Nat.zero_le _⟩

/-- The bytes that have not been read. -/
def rest (p : JsonParser input) : List UInt8 := input.drop p.index

/-- How a function that can fail halfway leaves the parser. -/
inductive Outcome (p : JsonParser input) where
  | done (q : JsonParser input) (h : p.index ≤ q.index)
  | failed (q : JsonParser input) (h : p.index ≤ q.index)

namespace Outcome

variable {p q : JsonParser input}

/-- Where the parser stands afterwards. -/
def parser : Outcome p → JsonParser input
  | done q _ => q
  | failed q _ => q

/-- The outcome for a parser that was moved before. -/
def since (h : p.index ≤ q.index) : Outcome q → Outcome p
  | done r hr => done r (h.trans hr)
  | failed r hr => failed r (h.trans hr)

/-- `if !self.f() { return false; }`, and then the rest of the function. -/
def andThen (o : Outcome p) (next : ∀ q : JsonParser input, p.index ≤ q.index → Outcome q) :
    Outcome p :=
  match o with
  | done q h => (next q h).since h
  | failed q h => failed q h

end Outcome

open Outcome (done failed)

/-! ## Bytes -/

def peek (p : JsonParser input) : Option UInt8 := input[p.index]?

theorem lt_of_peek {p : JsonParser input} {b : UInt8} (h : p.peek = some b) :
    p.index < input.length :=
  (List.getElem?_eq_some_iff.1 h).1

/-- `self.index += 1`, where there is a byte. -/
def advance (p : JsonParser input) (h : p.index < input.length) : JsonParser input :=
  ⟨p.index + 1, h⟩

theorem index_le_advance (p : JsonParser input) (h : p.index < input.length) :
    p.index ≤ (p.advance h).index :=
  Nat.le_succ _

/-- `while matches!(self.peek(), …) { self.index += 1; }`. -/
def skipWhile (test : UInt8 → Bool) (p : JsonParser input) : JsonParser input :=
  match h : p.peek with
  | some b => if test b then skipWhile test (p.advance (lt_of_peek h)) else p
  | none => p
termination_by input.length - p.index
decreasing_by
  have hlt := lt_of_peek h
  simp only [advance]
  omega

theorem index_le_skipWhile (test : UInt8 → Bool) (p : JsonParser input) :
    p.index ≤ (p.skipWhile test).index := by
  fun_induction skipWhile test p with
  | case1 p b h htest ih => exact (p.index_le_advance _).trans ih
  | case2 p b h htest => exact le_rfl
  | case3 p h => exact le_rfl

def isWhitespaceByte (b : UInt8) : Bool :=
  b == ' '.toUInt8 || b == '\n'.toUInt8 || b == '\r'.toUInt8 || b == '\t'.toUInt8

def skipWhitespace (p : JsonParser input) : JsonParser input := p.skipWhile isWhitespaceByte

theorem index_le_skipWhitespace (p : JsonParser input) : p.index ≤ p.skipWhitespace.index :=
  index_le_skipWhile _ p

/-- `consume_byte`: the parser behind the byte, when the byte is there. -/
def consumeByte (p : JsonParser input) (expected : UInt8) :
    Option {q : JsonParser input // p.index < q.index} :=
  match h : p.peek with
  | some b => if b = expected then some ⟨p.advance (lt_of_peek h), Nat.lt_succ_self _⟩ else none
  | none => none

/-- `if !self.consume_byte(b) { return false; }`, and then the rest of the function. -/
def expect (p : JsonParser input) (expected : UInt8)
    (next : ∀ q : JsonParser input, p.index < q.index → Outcome q) : Outcome p :=
  match p.consumeByte expected with
  | some q => (next q.1 q.2).since q.2.le
  | none => failed p le_rfl

/-- `if self.consume_byte(b) { return true; }`, and then the rest of the function. -/
def acceptOr (p : JsonParser input) (expected : UInt8) (otherwise : Outcome p) : Outcome p :=
  match p.consumeByte expected with
  | some q => done q.1 q.2.le
  | none => otherwise

/-- `consume_literal`. -/
def consumeLiteral (p : JsonParser input) (literal : List UInt8) : Outcome p :=
  if h : literal <+: p.rest then
    done ⟨p.index + literal.length, by
      have hlen := h.length_le
      rw [rest, List.length_drop] at hlen
      have hwithin := p.within
      omega⟩ (Nat.le_add_right _ _)
  else failed p le_rfl

/-! ## Strings -/

def isHexDigitByte (b : UInt8) : Bool :=
  ('0'.toUInt8 ≤ b && b ≤ '9'.toUInt8) || ('a'.toUInt8 ≤ b && b ≤ 'f'.toUInt8) ||
    ('A'.toUInt8 ≤ b && b ≤ 'F'.toUInt8)

/-- The hexadecimal digits that are still to come. -/
def hexDigits : ℕ → (p : JsonParser input) → Outcome p
  | 0, p => done p le_rfl
  | n + 1, p =>
    match h : p.peek with
    | some b =>
      if isHexDigitByte b then
        (hexDigits n (p.advance (lt_of_peek h))).since (p.index_le_advance _)
      else failed (p.advance (lt_of_peek h)) (p.index_le_advance _)
    | none => failed p le_rfl

def escapeBytes : List UInt8 :=
  [quoteMark.toUInt8, backslash.toUInt8, '/'.toUInt8, 'b'.toUInt8, 'f'.toUInt8, 'n'.toUInt8,
    'r'.toUInt8, 't'.toUInt8]

def parseEscape (p : JsonParser input) : Outcome p :=
  match h : p.peek with
  | some b =>
    if b ∈ escapeBytes then done (p.advance (lt_of_peek h)) (p.index_le_advance _)
    else if b = 'u'.toUInt8 then
      (hexDigits 4 (p.advance (lt_of_peek h))).since (p.index_le_advance _)
    else failed (p.advance (lt_of_peek h)) (p.index_le_advance _)
  | none => failed p le_rfl

/-- The loop over the bytes behind the opening quote. -/
def stringLoop (p : JsonParser input) : Outcome p :=
  match h : p.peek with
  | some b =>
    if b = quoteMark.toUInt8 then done (p.advance (lt_of_peek h)) (p.index_le_advance _)
    else if b = backslash.toUInt8 then
      ((parseEscape (p.advance (lt_of_peek h))).andThen fun q _hq => stringLoop q).since
        (p.index_le_advance _)
    else if b ≤ 0x1f then failed (p.advance (lt_of_peek h)) (p.index_le_advance _)
    else (stringLoop (p.advance (lt_of_peek h))).since (p.index_le_advance _)
  | none => failed p le_rfl
termination_by input.length - p.index
decreasing_by
  · have hlt := lt_of_peek h
    simp only [advance] at _hq
    omega
  · have hlt := lt_of_peek h
    simp only [advance]
    omega

def parseString (p : JsonParser input) : Outcome p :=
  p.expect quoteMark.toUInt8 fun q _ => stringLoop q

/-! ## Numbers -/

def isDigitByte (b : UInt8) : Bool := '0'.toUInt8 ≤ b && b ≤ '9'.toUInt8

/-- A byte that may be there. -/
def optionalByte (test : UInt8 → Bool) (p : JsonParser input) : JsonParser input :=
  match h : p.peek with
  | some b => if test b then p.advance (lt_of_peek h) else p
  | none => p

theorem index_le_optionalByte (test : UInt8 → Bool) (p : JsonParser input) :
    p.index ≤ (p.optionalByte test).index := by
  unfold optionalByte
  split
  · split_ifs
    · exact p.index_le_advance _
    · exact le_rfl
  · exact le_rfl

/-- One digit, and the digits behind it. -/
def requireDigits (p : JsonParser input) : Outcome p :=
  match h : p.peek with
  | some b =>
    if isDigitByte b then
      done ((p.advance (lt_of_peek h)).skipWhile isDigitByte)
        ((p.index_le_advance _).trans (index_le_skipWhile _ _))
    else failed p le_rfl
  | none => failed p le_rfl

/-- `parse_number`, the digits before a point: a zero, or digits that do not start with one. -/
def integerPart (p : JsonParser input) : Outcome p :=
  match h : p.peek with
  | some b =>
    if b = '0'.toUInt8 then done (p.advance (lt_of_peek h)) (p.index_le_advance _)
    else if isDigitByte b then
      done ((p.advance (lt_of_peek h)).skipWhile isDigitByte)
        ((p.index_le_advance _).trans (index_le_skipWhile _ _))
    else failed p le_rfl
  | none => failed p le_rfl

/-- `parse_number`, a point and the digits behind it. -/
def fractionPart (p : JsonParser input) : Outcome p :=
  match p.consumeByte '.'.toUInt8 with
  | some q => (requireDigits q.1).since q.2.le
  | none => done p le_rfl

/-- `parse_number`, the exponent. -/
def exponentPart (p : JsonParser input) : Outcome p :=
  match h : p.peek with
  | some b =>
    if b = 'e'.toUInt8 ∨ b = 'E'.toUInt8 then
      (requireDigits ((p.advance (lt_of_peek h)).optionalByte fun b =>
        b == '+'.toUInt8 || b == '-'.toUInt8)).since
          ((p.index_le_advance _).trans (index_le_optionalByte _ _))
    else done p le_rfl
  | none => done p le_rfl

def parseNumber (p : JsonParser input) : Outcome p :=
  ((integerPart (p.optionalByte (· == '-'.toUInt8))).andThen fun q _ =>
    (fractionPart q).andThen fun r _ => exponentPart r).since (index_le_optionalByte _ p)

/-! ## Values -/

mutual

/-- One value after white space. -/
def parseValue (p : JsonParser input) : Outcome p :=
  have hskip := p.index_le_skipWhitespace
  match p.skipWhitespace.peek with
  | some b =>
    if b = openBrace.toUInt8 then (parseObject p.skipWhitespace).since hskip
    else if b = '['.toUInt8 then (parseArray p.skipWhitespace).since hskip
    else if b = quoteMark.toUInt8 then (parseString p.skipWhitespace).since hskip
    else if b = '-'.toUInt8 ∨ isDigitByte b then (parseNumber p.skipWhitespace).since hskip
    else if b = 't'.toUInt8 then
      (p.skipWhitespace.consumeLiteral ("true".toList.map Char.toUInt8)).since hskip
    else if b = 'f'.toUInt8 then
      (p.skipWhitespace.consumeLiteral ("false".toList.map Char.toUInt8)).since hskip
    else if b = 'n'.toUInt8 then
      (p.skipWhitespace.consumeLiteral ("null".toList.map Char.toUInt8)).since hskip
    else failed p.skipWhitespace hskip
  | none => failed p.skipWhitespace hskip
termination_by (input.length - p.index, 1)
decreasing_by
  all_goals
    have hwithin := p.skipWhitespace.within
    omega

def parseObject (p : JsonParser input) : Outcome p :=
  p.expect openBrace.toUInt8 fun q _hq =>
    have hskip := q.index_le_skipWhitespace
    (q.skipWhitespace.acceptOr closeBrace.toUInt8 (objectLoop q.skipWhitespace)).since hskip
termination_by (input.length - p.index, 0)
decreasing_by
  have hwithin := q.skipWhitespace.within
  omega

/-- The loop of `parse_object`. -/
def objectLoop (p : JsonParser input) : Outcome p :=
  ((parseString p.skipWhitespace).since p.index_le_skipWhitespace).andThen fun key _hkey =>
  (key.skipWhitespace.expect ':'.toUInt8 fun colon _hcolon =>
    have _hafter := key.index_le_skipWhitespace
    (parseValue colon).andThen fun value _hvalue =>
    have hskip := value.index_le_skipWhitespace
    (value.skipWhitespace.acceptOr closeBrace.toUInt8
      (value.skipWhitespace.expect ','.toUInt8 fun comma _hcomma => objectLoop comma)).since
        hskip).since key.index_le_skipWhitespace
termination_by (input.length - p.index, 2)
decreasing_by
  · have hwithin := colon.within
    omega
  · have hwithin := comma.within
    omega

def parseArray (p : JsonParser input) : Outcome p :=
  p.expect '['.toUInt8 fun q _hq =>
    have hskip := q.index_le_skipWhitespace
    (q.skipWhitespace.acceptOr ']'.toUInt8 (arrayLoop q.skipWhitespace)).since hskip
termination_by (input.length - p.index, 0)
decreasing_by
  have hwithin := q.skipWhitespace.within
  omega

/-- The loop of `parse_array`. -/
def arrayLoop (p : JsonParser input) : Outcome p :=
  (parseValue p).andThen fun value _hvalue =>
  have hskip := value.index_le_skipWhitespace
  (value.skipWhitespace.acceptOr ']'.toUInt8
    (value.skipWhitespace.expect ','.toUInt8 fun comma _hcomma => arrayLoop comma)).since hskip
termination_by (input.length - p.index, 2)
decreasing_by
  · exact Prod.Lex.right _ Nat.one_lt_two
  · have hwithin := comma.within
    omega

end

def isFinished (p : JsonParser input) : Bool := p.skipWhitespace.index == input.length

/-- The trimmed line, when nothing but white space follows one value in it. -/
def parseLightweightJsonLine (line : String) : Option String :=
  let trimmed := Text.trim line
  if trimmed = "" then none
  else
    match parseValue (new (Utf8.bytes trimmed)) with
    | .done q _ => if q.isFinished then some trimmed else none
    | .failed _ _ => none

end JsonParser

end HobitQueue.Codex
