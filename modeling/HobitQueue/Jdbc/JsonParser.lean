import HobitQueue.Lib.Java

/-!
# The JSON parser of the sidecar

The sidecar reads its request with a parser of its own. It knows the escapes of quotes,
backslashes, slashes, line ends and tabs, integers of thirty-two bits, and objects without
arrays; white space is that of Java.
-/

namespace HobitQueue.Jdbc

/-- A value that the parser returns. -/
inductive JavaValue where
  | null
  | boolean (b : Bool)
  | number (value : ℤ)
  | string (units : List ℕ)
  | map (entries : List (List ℕ × JavaValue))

namespace JsonParser

/-- What is left of an input after something was read. -/
abbrev Rest (input : List ℕ) : Type := { rest : List ℕ // rest.length < input.length }

def skipWhitespace (input : List ℕ) : List ℕ := input.dropWhile Java.isWhitespace

theorem length_skipWhitespace (input : List ℕ) : (skipWhitespace input).length ≤ input.length :=
  (List.dropWhile_suffix _).length_le

/-- The input after a unit that must come next. -/
def expect (expected : ℕ) (input : List ℕ) : Except String (List ℕ) :=
  match skipWhitespace input with
  | u :: rest => if u = expected then .ok rest else .error "expected another character"
  | [] => .error "expected another character"

theorem length_expect {expected : ℕ} {input rest : List ℕ} (h : expect expected input = .ok rest) :
    rest.length < input.length := by
  have hle := length_skipWhitespace input
  unfold expect at h
  split at h
  · next u after hskip =>
    rw [hskip, List.length_cons] at hle
    split at h
    · rw [← Except.ok.inj h]
      omega
    · cases h
  · cases h

/-- The unit that a backslash and a letter stand for. -/
def unescape (escaped : ℕ) : Option ℕ :=
  if escaped = 34 ∨ escaped = 92 ∨ escaped = 47 then some escaped
  else if escaped = 110 then some 10
  else if escaped = 114 then some 13
  else if escaped = 116 then some 9
  else none

/-- The units up to the closing quote, and what follows it. -/
def parseStringBody : List ℕ → Except String (List ℕ × List ℕ)
  | [] => .error "unterminated string"
  | current :: rest =>
    if current = 34 then .ok ([], rest)
    else if current ≠ 92 then
      (parseStringBody rest).map fun (value, rest) => (current :: value, rest)
    else
      match rest with
      | [] => .error "unterminated escape"
      | escaped :: rest =>
        match unescape escaped with
        | some u => (parseStringBody rest).map fun (value, rest) => (u :: value, rest)
        | none => .error "unsupported escape"

theorem length_parseStringBody {input value rest : List ℕ}
    (h : parseStringBody input = .ok (value, rest)) : rest.length < input.length := by
  fun_induction parseStringBody input generalizing value with
  | case1 => cases h
  | case2 rest =>
    cases h
    simp
  | case3 current rest hquote hescape ih =>
    cases hbody : parseStringBody rest with
    | error message => simp [hbody, Except.map] at h
    | ok parsed =>
      rw [hbody] at h
      cases h
      have hlt := ih hbody
      simp only [List.length_cons]
      omega
  | case4 => cases h
  | case5 current hquote hescape escaped rest u hu ih =>
    cases hbody : parseStringBody rest with
    | error message => simp [hbody, Except.map] at h
    | ok parsed =>
      rw [hbody] at h
      cases h
      have hlt := ih hbody
      simp only [List.length_cons]
      omega
  | case6 => cases h

def parseString (input : List ℕ) : Except String (List ℕ × List ℕ) :=
  (expect 34 input).bind parseStringBody

theorem length_parseString {input value rest : List ℕ}
    (h : parseString input = .ok (value, rest)) : rest.length < input.length := by
  cases hexpect : expect 34 input with
  | error message => simp [parseString, hexpect, Except.bind] at h
  | ok after =>
    simp only [parseString, hexpect, Except.bind] at h
    exact (length_parseStringBody h).trans (length_expect hexpect)

/-- A minus sign or none, and the digits that follow. -/
def numeralAt (input : List ℕ) : List ℕ :=
  if input.head? = some 45 then 45 :: input.tail.takeWhile Java.isDigit
  else input.takeWhile Java.isDigit

def parseNumber (input : List ℕ) : Except String (ℤ × List ℕ) :=
  if numeralAt input = [] then .error "expected value"
  else
    match Java.parseInt (numeralAt input) with
    | some value => .ok (value, input.drop (numeralAt input).length)
    | none => .error "number out of range"

theorem length_parseNumber {input rest : List ℕ} {value : ℤ}
    (h : parseNumber input = .ok (value, rest)) : rest.length < input.length := by
  cases input with
  | nil => cases h
  | cons u input =>
    simp only [parseNumber] at h
    split at h
    · cases h
    · next hnumeral =>
      have hpos := List.length_pos_of_ne_nil hnumeral
      split at h
      · cases h
        simp only [List.length_drop, List.length_cons]
        omega
      · cases h

/-- `values.put`: the value under a key is replaced, and a new key comes last. -/
def put (key : List ℕ) (value : JavaValue) :
    List (List ℕ × JavaValue) → List (List ℕ × JavaValue)
  | [] => [(key, value)]
  | (k, v) :: entries =>
    if k = key then (key, value) :: entries else (k, v) :: put key value entries

/-- The text begins with a word. -/
def startsWith (word input : List ℕ) : Bool := word.isPrefixOf input

theorem length_drop_startsWith {word input : List ℕ} (h : startsWith word input = true)
    (hword : 0 < word.length) : (input.drop word.length).length < input.length := by
  have hle := (List.isPrefixOf_iff_prefix.mp h).length_le
  rw [List.length_drop]
  omega

/-- The input after a closing brace that comes next. -/
def closes (input : List ℕ) : Option (List ℕ) :=
  match skipWhitespace input with
  | 125 :: rest => some rest
  | _ => none

theorem length_closes {input rest : List ℕ} (h : closes input = some rest) :
    rest.length < input.length := by
  have hle := length_skipWhitespace input
  unfold closes at h
  split at h
  · next after hskip =>
    rw [hskip, List.length_cons] at hle
    rw [← Option.some.inj h]
    omega
  · cases h

mutual

/-- An object: nothing between the braces, or members. -/
def parseObject (input : List ℕ) : Except String (List (List ℕ × JavaValue) × Rest input) :=
  match hopen : expect 123 input with
  | .error message => .error message
  | .ok rest =>
    have hrest := length_expect hopen
    match hclose : closes rest with
    | some after =>
      .ok ([], ⟨after, (length_closes hclose).trans hrest⟩)
    | none =>
      (parseMembers rest []).map fun (values, after) => (values, ⟨after, after.2.trans hrest⟩)
termination_by (input.length, 0)

/-- The members up to the closing brace, after those that were read. -/
def parseMembers (input : List ℕ) (values : List (List ℕ × JavaValue)) :
    Except String (List (List ℕ × JavaValue) × Rest input) :=
  match hkey : parseString input with
  | .error message => .error message
  | .ok (key, afterKey) =>
    match hcolon : expect 58 afterKey with
    | .error message => .error message
    | .ok afterColon =>
      have hafter := (length_expect hcolon).trans (length_parseString hkey)
      match parseValue afterColon with
      | .error message => .error message
      | .ok (value, afterValue) =>
        let values := put key value values
        match hclose : closes afterValue with
        | some rest =>
          .ok (values, ⟨rest, ((length_closes hclose).trans afterValue.2).trans hafter⟩)
        | none =>
          match hcomma : expect 44 (skipWhitespace afterValue) with
          | .error message => .error message
          | .ok rest =>
            have hrest := ((((length_expect hcomma).trans_le
              (length_skipWhitespace _)).trans afterValue.2).trans hafter)
            (parseMembers rest values).map fun (values, after) =>
              (values, ⟨after, after.2.trans hrest⟩)
termination_by (input.length, 1)

/-- A value. -/
def parseValue (input : List ℕ) : Except String (JavaValue × Rest input) :=
  let start := skipWhitespace input
  have hstart : start.length ≤ input.length := length_skipWhitespace input
  if start.head? = some 34 then
    match hstring : parseString start with
    | .error message => .error message
    | .ok (value, rest) =>
      .ok (.string value, ⟨rest, (length_parseString hstring).trans_le hstart⟩)
  else if start.head? = some 123 then
    (parseObject start).map fun (entries, rest) =>
      (.map entries, ⟨rest, rest.2.trans_le hstart⟩)
  else if htrue : startsWith (Java.text "true") start then
    .ok (.boolean true, ⟨start.drop 4, (length_drop_startsWith htrue (by decide)).trans_le hstart⟩)
  else if hfalse : startsWith (Java.text "false") start then
    .ok (.boolean false,
      ⟨start.drop 5, (length_drop_startsWith hfalse (by decide)).trans_le hstart⟩)
  else if hnull : startsWith (Java.text "null") start then
    .ok (.null, ⟨start.drop 4, (length_drop_startsWith hnull (by decide)).trans_le hstart⟩)
  else
    match hnumber : parseNumber start with
    | .error message => .error message
    | .ok (value, rest) =>
      .ok (.number value, ⟨rest, (length_parseNumber hnumber).trans_le hstart⟩)
termination_by (input.length, 2)
decreasing_by
  rcases Nat.lt_or_eq_of_le hstart with hlt | heq
  · exact Prod.Lex.left _ _ hlt
  · rw [heq]
    exact Prod.Lex.right _ (by decide)

end

/-! ## The parsers as equations -/

/-- A result without the proof that something was read. -/
def parsed {α : Type} {input : List ℕ} (result : Except String (α × Rest input)) :
    Except String (α × List ℕ) :=
  result.map fun (value, rest) => (value, rest.1)

theorem parsed_error {α : Type} {input : List ℕ} (message : String) :
    parsed (.error message : Except String (α × Rest input)) = .error message := rfl

theorem parsed_ok {α : Type} {input : List ℕ} (value : α) (rest : Rest input) :
    parsed (.ok (value, rest)) = .ok (value, rest.1) := rfl

theorem parsed_map {α : Type} {input rest : List ℕ} (result : Except String (α × Rest rest))
    (h : rest.length ≤ input.length) :
    parsed (result.map fun (value, after) => (value, (⟨after, after.2.trans_le h⟩ : Rest input))) =
      parsed result := by
  cases result <;> rfl

theorem parsed_parseObject (input : List ℕ) :
    parsed (parseObject input) =
      (expect 123 input).bind fun rest =>
        match closes rest with
        | some after => .ok ([], after)
        | none => parsed (parseMembers rest []) := by
  rw [parseObject]
  split
  · next message hopen => simp only [hopen, Except.bind, parsed_error]
  · next rest hopen =>
    simp only [hopen, Except.bind]
    split
    · next after hclose => simp only [hclose, parsed, Except.map]
    · next hclose =>
      simp only [hclose]
      exact parsed_map _ (Nat.le_of_lt (length_expect hopen))

theorem parsed_parseMembers (input : List ℕ) (values : List (List ℕ × JavaValue)) :
    parsed (parseMembers input values) =
      (parseString input).bind fun (key, afterKey) =>
        (expect 58 afterKey).bind fun afterColon =>
          (parsed (parseValue afterColon)).bind fun (value, afterValue) =>
            match closes afterValue with
            | some rest => .ok (put key value values, rest)
            | none => (expect 44 (skipWhitespace afterValue)).bind fun rest =>
              parsed (parseMembers rest (put key value values)) := by
  rw [parseMembers]
  split
  · next message hkey => simp only [hkey, Except.bind, parsed_error]
  · next key afterKey hkey =>
    simp only [hkey, Except.bind]
    split
    · next message hcolon => simp only [hcolon, parsed_error]
    · next afterColon hcolon =>
      simp only [hcolon]
      cases hvalue : parseValue afterColon with
      | error message => rfl
      | ok result =>
        obtain ⟨value, afterValue⟩ := result
        have hvalueLength := afterValue.2
        simp only [parsed_ok]
        split
        · next rest hclose => simp only [hclose, parsed_ok]
        · next hclose =>
          simp only [hclose]
          split
          · next message hcomma => simp only [hcomma, parsed_error]
          · next rest hcomma =>
            simp only [hcomma]
            exact parsed_map _ (by
              have hcommaLength := length_expect hcomma
              have hskipLength := length_skipWhitespace afterValue.1
              have hcolonLength := length_expect hcolon
              have hkeyLength := length_parseString hkey
              omega)

theorem parsed_parseValue (input : List ℕ) :
    parsed (parseValue input) =
      let start := skipWhitespace input
      if start.head? = some 34 then
        (parseString start).map fun (value, rest) => (.string value, rest)
      else if start.head? = some 123 then
        (parsed (parseObject start)).map fun (entries, rest) => (.map entries, rest)
      else if startsWith (Java.text "true") start then .ok (.boolean true, start.drop 4)
      else if startsWith (Java.text "false") start then .ok (.boolean false, start.drop 5)
      else if startsWith (Java.text "null") start then .ok (.null, start.drop 4)
      else (parseNumber start).map fun (value, rest) => (.number value, rest) := by
  rw [parseValue]
  by_cases hquote : (skipWhitespace input).head? = some 34
  · simp only [if_pos hquote]
    split
    · next message hstring => simp only [hstring, Except.map, parsed_error]
    · next value rest hstring => simp only [hstring, Except.map, parsed_ok]
  · simp only [if_neg hquote]
    by_cases hbrace : (skipWhitespace input).head? = some 123
    · simp only [if_pos hbrace]
      cases hobject : parseObject (skipWhitespace input) <;> rfl
    · simp only [if_neg hbrace]
      split_ifs
      · rfl
      · rfl
      · rfl
      · split
        · next message hnumber => simp only [hnumber, Except.map, parsed_error]
        · next value rest hnumber => simp only [hnumber, Except.map, parsed_ok]

end JsonParser

end HobitQueue.Jdbc
