import HobitQueue.Jdbc.SidecarResponse
import HobitQueue.Lib.Text

/-!
# What the backend makes of an answer

The backend caps the output of the sidecar, reads it as JSON, and cuts the result once more to
the limits of the request. Sizes are counted in bytes. The JSON reader is a parameter.
-/

namespace HobitQueue.Jdbc

def sidecarResponseOverheadBytes : ℕ := 16 * 1024

def statusCompleted : String := "completed"

def statusExecutionFailed : String := "execution_failed"

/-- The result as the host shows it. -/
structure JdbcReadOnlyQueryResultSummary where
  status : String
  connectorId : String
  connectorDisplayName : Option String
  validation : JdbcReadOnlySqlValidationSummary
  statementKind : Option String
  columns : List Column
  rows : List (List String)
  rowCount : ℕ
  returnedRowCount : ℕ
  rowLimit : ℕ
  truncated : Bool
  truncatedRows : Bool
  truncatedColumns : Bool
  truncatedCells : Bool
  truncatedBytes : Bool
  durationMs : ℕ
  sanitizedError : Option String
  noSecretsReturned : Bool
  noAiContextShared : Bool
  mockExecution : Bool

/-! ## Texts -/

def capStringChars (value : String) (maxChars : ℕ) : String × Bool :=
  let maxChars := max maxChars 1
  if value.toList.length ≤ maxChars then (value, false)
  else (String.ofList (value.toList.take maxChars), true)

/-- The words of a text. -/
def splitWhitespace (value : String) : List String :=
  ((value.toList.splitOnP Text.isWhiteSpace).filter (· ≠ [])).map String.ofList

def secretKeys : List String :=
  ["password", "passwd", "pwd", "token", "access_token", "secret", "api_key", "apikey",
    "private_key", "username", "user"]

def redactSecretAssignmentToken (token : String) : String :=
  if '=' ∈ token.toList then
    let key := token.toList.takeWhile (· ≠ '=')
    if secretKeys.any fun secretKey => secretKey.toList == key.map Char.toLower then
      String.ofList key ++ "=<redacted>"
    else token
  else token

def redactSecretAssignments (message : String) : String :=
  " ".intercalate ((splitWhitespace message).map redactSecretAssignmentToken)

/-- A text without line ends, secrets and more than its cap. -/
def sanitizeError (message : String) : String :=
  (capStringChars (redactSecretAssignments (" ".intercalate (splitWhitespace message))) 240).1

/-! ## Fields of an answer -/

def stringFieldOf (value : Json) (key : String) : Option String :=
  (value.field key).bind Json.asStr

def boolFieldOf (value : Json) (key : String) : Option Bool :=
  (value.field key).bind fun value => match value with
    | .bool b => some b
    | _ => none

/-- A number of sixty-four bits without a sign. -/
def natFieldOf (value : Json) (key : String) : Option ℕ :=
  (value.field key).bind fun value => match value with
    | .num numeral => (Json.natOfDigits numeral.toList).filter fun n => n < 2 ^ 64
    | _ => none

def asArray : Json → Option (List Json)
  | .arr items => some items
  | _ => none

def columnsFieldOf (value : Json) (maxColumns : ℕ) : List Column :=
  ((((value.field "columns").bind asArray).getD []).take maxColumns).filterMap fun column =>
    (stringFieldOf column "name").map fun name =>
      ⟨sanitizeError name, sanitizeError ((stringFieldOf column "value_kind").getD "text")⟩

def rowsFieldOf (value : Json) (rowLimit maxColumns maxCellChars : ℕ) : List (List String) :=
  ((((value.field "rows").bind asArray).getD []).take rowLimit).map fun row =>
    (((asArray row).getD []).take maxColumns).map fun cell =>
      (capStringChars ((Json.asStr cell).getD "<non-text value>") maxCellChars).1

/-- The size of a result in bytes. -/
def resultSizeBytes (columns : List Column) (rows : List (List String)) : ℕ :=
  (columns.map fun column => utf8Length column.name + utf8Length column.valueKind).sum +
  (rows.map fun row => (row.map utf8Length).sum).sum

def tooManyBytes (maxResultBytes : ℕ) (columns : List Column) (rows : List (List String)) :
    Bool :=
  decide (maxResultBytes < resultSizeBytes columns rows)

/-! ## The summary -/

def failedQueryResult (request : JdbcReadOnlyAdapterRequest) (status error : String)
    (mockExecution : Bool) : JdbcReadOnlyQueryResultSummary :=
  { status, connectorId := request.connector.connectorId
    connectorDisplayName := some request.connector.displayName
    validation := request.validation, statementKind := request.validation.statementKind
    columns := [], rows := [], rowCount := 0, returnedRowCount := 0
    rowLimit := request.rowLimit, truncated := false, truncatedRows := false
    truncatedColumns := false, truncatedCells := false, truncatedBytes := false
    durationMs := 0, sanitizedError := some (sanitizeError error), noSecretsReturned := true
    noAiContextShared := true, mockExecution }

def normalizedErrorStatus (status : String) : String :=
  if status ∈ ["not_configured", "unsupported_driver", "query_rejected", "execution_failed",
      "timeout", "connection_failed", "authentication_failed", "result_truncated"] then status
  else statusExecutionFailed

/-- The result that an answer holds, cut to the limits of the request. -/
def completedSummary (request : JdbcReadOnlyAdapterRequest) (parsed : Json) :
    JdbcReadOnlyQueryResultSummary :=
  let columns := columnsFieldOf parsed request.maxColumns
  let rows := rowsFieldOf parsed request.rowLimit request.maxColumns request.maxCellChars
  let tooManyColumns := decide (request.maxColumns < columns.length)
  let columns := if tooManyColumns then columns.take request.maxColumns else columns
  let tooLongRows := rows.any fun row => decide (columns.length < row.length)
  let rows := rows.map fun row => row.take columns.length
  let kept := Fitting.cut (tooManyBytes request.maxResultBytes columns) rows
  let popped := decide (kept.length < rows.length)
  let truncatedRows := (boolFieldOf parsed "truncated_rows").getD false || popped
  let truncatedColumns :=
    (boolFieldOf parsed "truncated_columns").getD false || tooManyColumns || tooLongRows
  let truncatedCells := (boolFieldOf parsed "truncated_cells").getD false
  let truncatedBytes := (boolFieldOf parsed "truncated_bytes").getD false || popped
  { status := statusCompleted, connectorId := request.connector.connectorId
    connectorDisplayName := some request.connector.displayName
    validation := request.validation, statementKind := request.validation.statementKind
    columns, rows := kept
    rowCount := (natFieldOf parsed "row_count").getD kept.length
    returnedRowCount := kept.length, rowLimit := request.rowLimit
    truncated := truncatedRows || truncatedColumns || truncatedCells || truncatedBytes
    truncatedRows, truncatedColumns, truncatedCells, truncatedBytes
    durationMs := (natFieldOf parsed "duration_ms").getD 0
    sanitizedError := none, noSecretsReturned := true, noAiContextShared := true
    mockExecution := (boolFieldOf parsed "mock_execution").getD false }

/-- The summary that the backend makes of an answer. -/
def mapSidecarResponse (fromStr : String → Option Json) (request : JdbcReadOnlyAdapterRequest)
    (rawResponse : String) : JdbcReadOnlyQueryResultSummary :=
  match fromStr rawResponse with
  | none =>
    failedQueryResult request statusExecutionFailed "JDBC sidecar returned invalid JSON." false
  | some parsed =>
    let status := (stringFieldOf parsed "status").getD statusExecutionFailed
    if status ≠ statusCompleted then
      failedQueryResult request (normalizedErrorStatus status)
        ((stringFieldOf parsed "sanitized_error").getD
          "JDBC sidecar returned a sanitized failure.")
        ((boolFieldOf parsed "mock_execution").getD false)
    else if boolFieldOf parsed "no_secrets_returned" = some false ∨
        boolFieldOf parsed "no_ai_context_shared" = some false then
      failedQueryResult request statusExecutionFailed
        "JDBC sidecar response violated safety flags." false
    else completedSummary request parsed

/-- The summary of a process that ended well with an output. -/
def executeReadOnlyQuery (fromStr : String → Option Json) (request : JdbcReadOnlyAdapterRequest)
    (stdout : String) : JdbcReadOnlyQueryResultSummary :=
  if request.maxResultBytes + sidecarResponseOverheadBytes < utf8Length stdout then
    failedQueryResult request statusExecutionFailed
      "JDBC sidecar response exceeded the backend output cap." false
  else mapSidecarResponse fromStr request stdout

end HobitQueue.Jdbc
