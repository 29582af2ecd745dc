import HobitQueue.Jdbc.ResponseMapping
import HobitQueue.Lib.Java
import HobitQueue.Lib.SqlText

/-!
# The read-only gates

Whether a text of SQL may be run. The backend asks before it plans a query and once more before
it starts the sidecar; the sidecar asks again. All three replace literals, quoted identifiers
and comments by blanks and look at the words that are left. The backend reads characters, the
sidecar reads units of sixteen bits, and the classes of units are those of Java.
-/

namespace HobitQueue.Jdbc

def readOnlyStatements : List String := ["SELECT", "WITH", "SHOW", "DESCRIBE"]

def experimentalSidecarReadOnlyStatements : List String := ["SELECT", "WITH"]

def unsafeTokens : List String :=
  ["INSERT", "UPDATE", "DELETE", "DROP", "ALTER", "CREATE", "TRUNCATE", "MERGE", "COPY", "GRANT",
    "REVOKE", "CALL", "EXEC", "EXECUTE", "SET", "USE", "BEGIN", "COMMIT", "ROLLBACK", "LOCK",
    "UNLOCK", "VACUUM", "ANALYZE", "PRAGMA", "ATTACH", "DETACH", "LOAD", "EXTENSION", "IMPORT",
    "EXPORT", "OUTFILE", "INFILE"]

/-! ## Scanning -/

section Scanner

variable {α : Type} [DecidableEq α] (char : Char → α)

/-- What follows a block comment that is open. -/
def afterBlockComment : List α → Option (List α)
  | [] => none
  | c :: cs =>
    if c = char '*' ∧ cs.head? = some (char '/') then some cs.tail else afterBlockComment cs

/-- What follows a quoted text that is open; a doubled quote stands for one. -/
def afterQuoted (quote : α) : List α → Option (List α)
  | [] => none
  | [c] => if c = quote then some [] else none
  | c :: next :: cs =>
    if c = quote then
      if next = quote then afterQuoted quote cs else some (next :: cs)
    else afterQuoted quote (next :: cs)

theorem length_afterBlockComment {cs rest : List α}
    (h : afterBlockComment char cs = some rest) : rest.length ≤ cs.length := by
  induction cs with
  | nil => cases h
  | cons c cs ih =>
    rw [afterBlockComment] at h
    split_ifs at h with hclose
    · obtain rfl := Option.some.inj h
      simp only [List.length_tail, List.length_cons]
      omega
    · have := ih h
      simp only [List.length_cons]
      omega

theorem length_afterQuoted {quote : α} {cs rest : List α}
    (h : afterQuoted quote cs = some rest) : rest.length ≤ cs.length := by
  fun_induction afterQuoted quote cs with
  | case1 => cases h
  | case2 =>
    obtain rfl := Option.some.inj h
    simp
  | case3 => cases h
  | case4 cs ih =>
    have := ih h
    simp only [List.length_cons]
    omega
  | case5 next cs hnext =>
    obtain rfl := Option.some.inj h
    simp
  | case6 c next cs hc ih =>
    have := ih h
    simp only [List.length_cons] at this ⊢
    omega

/-- The text with a blank for each literal, quoted identifier and comment. -/
def scanSqlForClassification : List α → Except SqlText.Unclosed (List α)
  | [] => .ok []
  | current :: cs =>
    if current = char '-' ∧ cs.head? = some (char '-') then
      (scanSqlForClassification (cs.tail.dropWhile (· ≠ char SqlText.newline))).map
        (char ' ' :: ·)
    else if current = char '/' ∧ cs.head? = some (char '*') then
      match _h : afterBlockComment char cs.tail with
      | none => .error .comment
      | some rest => (scanSqlForClassification rest).map (char ' ' :: ·)
    else if current = char SqlText.Quote.single.mark ∨ current = char SqlText.Quote.double.mark then
      match _h : afterQuoted current cs with
      | none => .error .quoted
      | some rest => (scanSqlForClassification rest).map (char ' ' :: ·)
    else (scanSqlForClassification cs).map (current :: ·)
  termination_by cs => cs.length
  decreasing_by
    · have := List.length_dropWhile_le (· ≠ char SqlText.newline) cs.tail
      simp only [List.length_tail, List.length_cons] at this ⊢
      omega
    · have := length_afterBlockComment char _h
      simp only [List.length_tail, List.length_cons] at this ⊢
      omega
    · have := length_afterQuoted _h
      simp only [List.length_cons] at this ⊢
      omega
    · simp

end Scanner

/-! ## Statements and tokens -/

section Tokens

variable {α : Type} [DecidableEq α]

def multipleFrom (isSpace : α → Bool) (semicolon : α) : Bool → List α → Bool
  | _, [] => false
  | sawSemicolon, current :: cs =>
    if current = semicolon then
      if sawSemicolon then true else multipleFrom isSpace semicolon true cs
    else if sawSemicolon && !isSpace current then true
    else multipleFrom isSpace semicolon sawSemicolon cs

/-- Whether anything but white space follows the first semicolon. -/
def containsMultipleStatements (isSpace : α → Bool) (semicolon : α) (sql : List α) : Bool :=
  multipleFrom isSpace semicolon false sql

def tokensFrom (isWord : α → Bool) (upper : α → α) (current : List α) : List α → List (List α)
  | [] => if current = [] then [] else [current]
  | c :: cs =>
    if isWord c then tokensFrom isWord upper (current ++ [upper c]) cs
    else if current = [] then tokensFrom isWord upper [] cs
    else current :: tokensFrom isWord upper [] cs

/-- The words in upper case. -/
def sqlTokens (isWord : α → Bool) (upper : α → α) (sql : List α) : List (List α) :=
  tokensFrom isWord upper [] sql

end Tokens

/-! ## The gates of the backend -/

def isWordCharacter (c : Char) : Bool := c.isAlphanum || c == '_'

def unterminated : SqlText.Unclosed → String
  | .comment => "SQL contains an unterminated block comment."
  | .quoted => "SQL contains an unterminated quoted value or identifier."

def trimSingleTrailingSemicolon (sql : List Char) : List Char :=
  let trimmed := sql.rdropWhile Text.isWhiteSpace
  (if trimmed.getLast? = some ';' then trimmed.dropLast else sql).rdropWhile Text.isWhiteSpace

def normalizedPreview (sql : List Char) : String :=
  (capStringChars (" ".intercalate (splitWhitespace (String.ofList sql))) 240).1

def invalidValidation (reason preview : String) : JdbcReadOnlySqlValidationSummary where
  isValid := false
  statementKind := none
  normalizedPreview := preview
  rejectionReason := some (sanitizeError reason)
  safetyNotes :=
    ["SQL was rejected before any execution adapter was reached.",
      "No database connection was opened."]

def validValidation (statementKind preview : String) : JdbcReadOnlySqlValidationSummary where
  isValid := true
  statementKind := some statementKind
  normalizedPreview := preview
  rejectionReason := none
  safetyNotes :=
    ["Conservative read-only validation passed.",
      "Mock adapter only; no database connection is opened."]

/-- The tokens of the backend. -/
def tokensOf (sql : List Char) : List String :=
  (sqlTokens isWordCharacter Char.toUpper sql).map String.ofList

/-- The first gate of the backend. -/
def validateReadOnlySql (sql : String) : JdbcReadOnlySqlValidationSummary :=
  let trimmed := SqlText.trimBy Text.isWhiteSpace sql.toList
  if trimmed = [] then invalidValidation "SQL must not be empty." ""
  else
    match scanSqlForClassification id trimmed with
    | .error unclosed => invalidValidation (unterminated unclosed) ""
    | .ok scanSql =>
      let statementSql :=
        trimSingleTrailingSemicolon (SqlText.trimBy Text.isWhiteSpace scanSql)
      let preview := normalizedPreview statementSql
      if statementSql = [] then
        invalidValidation "SQL must not be empty after comments are removed." preview
      else if containsMultipleStatements Text.isWhiteSpace ';' scanSql then
        invalidValidation "Multiple SQL statements are not supported." preview
      else
        let tokens := tokensOf statementSql
        match tokens.head? with
        | none => invalidValidation "SQL statement kind is ambiguous." preview
        | some firstToken =>
          match tokens.find? (unsafeTokens.contains ·) with
          | some token =>
            invalidValidation
              ("SQL contains unsupported or mutating token: " ++ token ++ ".") preview
          | none =>
            if firstToken ∈ ["SELECT", "WITH", "SHOW", "DESCRIBE"] then
              validValidation firstToken preview
            else if firstToken = "EXPLAIN" then
              if tokens[1]?.any (readOnlyStatements.contains ·) then
                validValidation "EXPLAIN" preview
              else
                invalidValidation "EXPLAIN must wrap a supported read-only statement." preview
            else
              invalidValidation ("unsupported SQL statement kind: " ++ firstToken ++ ".") preview

/-- The reason to reject a text on its way to the sidecar. -/
def validateExperimentalSidecarReadOnlySql (sql : String) : Option String :=
  match scanSqlForClassification id (SqlText.trimBy Text.isWhiteSpace sql.toList) with
  | .error unclosed => some (unterminated unclosed)
  | .ok scanSql =>
    let statementSql := trimSingleTrailingSemicolon (SqlText.trimBy Text.isWhiteSpace scanSql)
    if containsMultipleStatements Text.isWhiteSpace ';' scanSql then
      some "Multiple SQL statements are not supported."
    else
      let tokens := tokensOf statementSql
      match tokens.head? with
      | none => some "SQL statement kind is ambiguous."
      | some firstToken =>
        if tokens.any (unsafeTokens.contains ·) then
          some "SQL contains unsupported or mutating tokens."
        else if ¬ experimentalSidecarReadOnlyStatements.contains firstToken then
          some "Only SELECT and WITH statements are supported."
        else none

/-! ## The gate of the sidecar -/

/-- The tokens that the sidecar refuses, in its own order. -/
def sidecarUnsafeTokens : List String :=
  ["INSERT", "UPDATE", "DELETE", "MERGE", "CREATE", "ALTER", "DROP", "TRUNCATE", "GRANT",
    "REVOKE", "CALL", "EXEC", "EXECUTE", "COPY", "LOAD", "EXPORT", "IMPORT", "SET", "USE",
    "BEGIN", "COMMIT", "ROLLBACK", "LOCK", "UNLOCK", "VACUUM", "ANALYZE", "PRAGMA", "ATTACH",
    "DETACH", "EXTENSION", "OUTFILE", "INFILE"]

def isUnsafeToken (token : List ℕ) : Bool :=
  sidecarUnsafeTokens.any fun unsafeToken => Java.text unsafeToken == token

def sidecarTrimSingleTrailingSemicolon (sql : List ℕ) : List ℕ :=
  let trimmed := SqlText.trimBy Java.isTrimmed sql
  if trimmed.getLast? = some 59 then SqlText.trimBy Java.isTrimmed trimmed.dropLast else trimmed

def isWordUnit (letters : Java.Letters) (u : ℕ) : Bool := letters.isLetterOrDigit u || u == 95

/-- The gate of the sidecar, over units. -/
def isSidecarReadOnlySql (letters : Java.Letters) (sql : List ℕ) : Bool :=
  match scanSqlForClassification Char.toNat (SqlText.trimBy Java.isTrimmed sql) with
  | .error _ => false
  | .ok scanSql =>
    if containsMultipleStatements Java.isWhitespace 59 scanSql then false
    else
      let statementSql :=
        sidecarTrimSingleTrailingSemicolon (SqlText.trimBy Java.isTrimmed scanSql)
      let tokens := sqlTokens (isWordUnit letters) letters.toUpperCase statementSql
      match tokens.head? with
      | none => false
      | some firstToken =>
        if tokens.any isUnsafeToken then false
        else firstToken == Java.text "SELECT" || firstToken == Java.text "WITH"

end HobitQueue.Jdbc
