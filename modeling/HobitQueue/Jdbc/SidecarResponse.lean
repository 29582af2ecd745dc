import HobitQueue.Jdbc.Requests
import HobitQueue.Lib.Fitting
import HobitQueue.Lib.Java
import HobitQueue.Lib.JsonGrammar

/-!
# What the sidecar answers

The sidecar reads a result set up to the limits of the request, cuts cells and rows that are too
big, and prints what is left as one JSON object. Sizes are counted in units of sixteen bits. A
pair of units that a cut splits is printed as a question mark.
-/

namespace HobitQueue.Jdbc

/-! ## The result set -/

structure SqlColumn where
  label : Option String
  name : String
  valueKind : String

/-- What a query returns; a missing value is a null. -/
structure ResultSet where
  columns : List SqlColumn
  rows : List (List (Option String))
  /-- Every row has a value for every column. -/
  aligned : ∀ row ∈ rows, row.length = columns.length

structure Column where
  name : String
  valueKind : String
  deriving DecidableEq

/-- The label of a column, or its name when there is none. -/
def SqlColumn.sidecar (column : SqlColumn) : Column :=
  match column.label with
  | some label => ⟨if label = "" then column.name else label, column.valueKind⟩
  | none => ⟨column.name, column.valueKind⟩

/-- The text of a value. -/
def cellText (value : Option String) : String := value.getD ""

/-- What the sidecar takes of the columns. -/
def readColumns (maxColumns : ℕ) (resultSet : ResultSet) : List Column :=
  (resultSet.columns.take (min resultSet.columns.length maxColumns)).map SqlColumn.sidecar

/-- The rows in the order of the result set; when there are enough, the others are passed
over. -/
def readRows (rowLimit columnCount : ℕ) (resultSet : ResultSet) : List (List String) :=
  resultSet.rows.foldl (fun rows row =>
    if rowLimit ≤ rows.length then rows
    else rows ++ [(row.take columnCount).map cellText]) []

/-! ## Cuts -/

/-- The characters that fit; of a pair of units the first may still do. -/
def capChars : ℕ → List Char → List Char
  | _, [] => []
  | room, c :: cs =>
    if (Java.units c).length ≤ room then c :: capChars (room - (Java.units c).length) cs
    else if room = 0 then []
    else ['?']

def capString (value : String) (maxChars : ℕ) : String :=
  if (Java.text value).length ≤ maxChars then value
  else String.ofList (capChars maxChars value.toList)

/-- The size of a result in units. -/
def resultSizeUnits (columns : List Column) (rows : List (List String)) : ℕ :=
  (columns.map fun column =>
    (Java.text column.name).length + (Java.text column.valueKind).length).sum +
  (rows.map fun row => (row.map fun cell => (Java.text cell).length).sum).sum

structure SidecarLimits where
  rowLimit : ℕ
  maxColumns : ℕ
  maxCellChars : ℕ
  maxResultBytes : ℕ

def boundedInt (value minimum maximum : ℕ) : ℕ := max minimum (min maximum value)

/-- The limits that the sidecar reads in a request. -/
def JdbcReadOnlyAdapterRequest.sidecarLimits (request : JdbcReadOnlyAdapterRequest) :
    SidecarLimits :=
  { rowLimit := boundedInt request.rowLimit 1 maxRowLimit
    maxColumns := boundedInt request.maxColumns 1 maxColumnsBound
    maxCellChars := boundedInt request.maxCellChars 1 maxCellCharsBound
    maxResultBytes := boundedInt request.maxResultBytes 1 maxResultBytesBound }

/-- The limits of the backend are those of the sidecar. -/
theorem JdbcReadOnlyAdapterRequest.WithinBounds.sidecarLimits
    {request : JdbcReadOnlyAdapterRequest} (h : request.WithinBounds) :
    request.sidecarLimits = ⟨request.rowLimit, request.maxColumns, request.maxCellChars,
      request.maxResultBytes⟩ := by
  obtain ⟨hrow, -, hcolumns, hcell, hbytes⟩ := h
  have hbounded : ∀ {value maximum : ℕ}, 1 ≤ value ∧ value ≤ maximum →
      boundedInt value 1 maximum = value := by
    intro value maximum hvalue
    simp only [boundedInt]
    omega
  simp only [JdbcReadOnlyAdapterRequest.sidecarLimits, hbounded hrow, hbounded hcolumns,
    hbounded hcell, hbounded hbytes]

/-- The rows with every cell cut. -/
def capRows (limits : SidecarLimits) (rows : List (List String)) : List (List String) :=
  rows.map fun row => row.map fun cell => capString cell limits.maxCellChars

def tooManyUnits (limits : SidecarLimits) (columns : List Column) (rows : List (List String)) :
    Bool :=
  decide (limits.maxResultBytes < resultSizeUnits columns rows)

/-- A result after the cuts of the sidecar, with the flags of the cuts. -/
structure CutResult where
  columns : List Column
  rows : List (List String)
  truncatedRows : Bool
  truncatedColumns : Bool
  truncatedCells : Bool
  truncatedBytes : Bool

/-- The result cut to the limits of rows, columns and texts. -/
def cutResult (limits : SidecarLimits) (columns : List Column) (rows : List (List String)) :
    CutResult :=
  let tooManyRows := decide (limits.rowLimit < rows.length)
  let rows := if tooManyRows then rows.take limits.rowLimit else rows
  let tooManyColumns := decide (limits.maxColumns < columns.length)
  let rows := if tooManyColumns then rows.map (·.take limits.maxColumns) else rows
  let columns := if tooManyColumns then columns.take limits.maxColumns else columns
  let capped := capRows limits rows
  let kept := Fitting.cut (tooManyUnits limits columns) capped
  let popped := decide (kept.length < capped.length)
  { columns
    rows := kept
    truncatedRows := tooManyRows || popped
    truncatedColumns := tooManyColumns
    truncatedCells := decide (capped ≠ rows)
    truncatedBytes := popped }

/-! ## The printed answer -/

/-- One character of a printed text. -/
def escape (c : Char) : List Char :=
  match c.toNat with
  | 34 => [Json.backslashChar, c]
  | 92 => [Json.backslashChar, c]
  | 10 => [Json.backslashChar, 'n']
  | 13 => [Json.backslashChar, 'r']
  | 9 => [Json.backslashChar, 't']
  | n =>
    if n < 32 then
      [Json.backslashChar, 'u', '0', '0', Nat.digitChar (n / 16), Nat.digitChar (n % 16)]
    else [c]

def quote (value : String) : String :=
  String.ofList (Json.quoteChar :: value.toList.flatMap escape ++ [Json.quoteChar])

/-- A field of a printed object: its name, its value and the text that is printed. -/
structure PrintedField where
  name : String
  value : Json
  text : String

def PrintedField.json (field : PrintedField) : String := quote field.name ++ ":" ++ field.text

/-- A printed object. -/
def printObject (fields : List PrintedField) : String :=
  "\x7b" ++ ",".intercalate (fields.map PrintedField.json) ++ "\x7d"

/-- The value of a printed object. -/
def objectValue (fields : List PrintedField) : Json :=
  .obj (fields.map fun field => (field.name, field.value))

def stringField (name value : String) : PrintedField := ⟨name, .str value, quote value⟩

def intField (name : String) (value : ℕ) : PrintedField :=
  ⟨name, .num (toString value), toString value⟩

def boolField (name : String) (value : Bool) : PrintedField :=
  ⟨name, .bool value, if value then "true" else "false"⟩

def columnFields (column : Column) : List PrintedField :=
  [stringField "name" column.name, stringField "value_kind" column.valueKind]

def columnsJson (columns : List Column) : String :=
  "[" ++ ",".intercalate (columns.map fun column => printObject (columnFields column)) ++ "]"

def rowJson (row : List String) : String := "[" ++ ",".intercalate (row.map quote) ++ "]"

def rowsJson (rows : List (List String)) : String :=
  "[" ++ ",".intercalate (rows.map rowJson) ++ "]"

def columnsField (columns : List Column) : PrintedField :=
  ⟨"columns", .arr (columns.map fun column => objectValue (columnFields column)),
    columnsJson columns⟩

def rowsField (rows : List (List String)) : PrintedField :=
  ⟨"rows", .arr (rows.map fun row => .arr (row.map Json.str)), rowsJson rows⟩

/-- The fields of an answer. The row count that is printed is always three. -/
def completedFields (requestId : String) (cut : CutResult) (durationMs : ℕ)
    (mockExecution : Bool) : List PrintedField :=
  [intField "protocol_version" sidecarProtocolVersion,
    stringField "request_id" requestId,
    stringField "status" "completed",
    columnsField cut.columns,
    rowsField cut.rows,
    intField "row_count" 3,
    intField "returned_row_count" cut.rows.length,
    boolField "truncated" (cut.truncatedRows || cut.truncatedColumns || cut.truncatedCells ||
      cut.truncatedBytes),
    boolField "truncated_rows" cut.truncatedRows,
    boolField "truncated_columns" cut.truncatedColumns,
    boolField "truncated_cells" cut.truncatedCells,
    boolField "truncated_bytes" cut.truncatedBytes,
    intField "duration_ms" (min 2147483647 durationMs),
    ⟨"sanitized_error", .null, "null"⟩,
    boolField "no_secrets_returned" true,
    boolField "no_ai_context_shared" true,
    boolField "mock_execution" mockExecution]

/-- The printed answer. The number of rows of the result is passed and not printed. -/
def completedResponse (requestId : String) (columns : List Column) (rows : List (List String))
    (_rowCount : ℕ) (limits : SidecarLimits) (durationMs : ℕ) (mockExecution : Bool) : String :=
  printObject (completedFields requestId (cutResult limits columns rows) durationMs mockExecution)

/-- What a query over a real connection prints. -/
def executeRealJdbc (request : JdbcReadOnlyAdapterRequest) (resultSet : ResultSet)
    (durationMs : ℕ) : String :=
  let limits := request.sidecarLimits
  let columns := readColumns limits.maxColumns resultSet
  let rows := readRows limits.rowLimit columns.length resultSet
  completedResponse request.connector.connectorId columns rows resultSet.rows.length limits
    durationMs false

/-! ## The printed answer is JSON -/

theorem charText_escape (c : Char) : Json.CharText c (escape c) := by
  unfold escape
  split
  · next h =>
    have hc : c = Json.quoteChar := Char.toNat_inj.mp (by rw [h]; rfl)
    rw [hc]
    exact .short _ (by decide)
  · next h =>
    have hc : c = Json.backslashChar := Char.toNat_inj.mp (by rw [h]; rfl)
    rw [hc]
    exact .short _ (by decide)
  · next h => exact .short 'n' (by rw [h]; decide)
  · next h => exact .short 'r' (by rw [h]; decide)
  · next h => exact .short 't' (by rw [h]; decide)
  · next hquote hescape hn hr ht =>
    split
    · next hlow =>
      have hhigh : ∀ d < 2, Json.hexDigit (Nat.digitChar d) = some d := by decide
      have hdigit : ∀ d < 16, Json.hexDigit (Nat.digitChar d) = some d := by decide
      have hzero : Json.hexDigit '0' = some 0 := by decide
      exact .unicode _ _ _ _ _ _ _ _ hzero hzero (hhigh _ (by omega)) (hdigit _ (by omega))
        (by omega)
    · next hlow => exact .plain (by omega) hquote hescape

theorem stringText_quote (s : String) : Json.StringText s (quote s).toList := by
  have hbody : ∀ cs : List Char, Json.BodyText cs (cs.flatMap escape) := by
    intro cs
    induction cs with
    | nil => exact .nil
    | cons c cs ih =>
      rw [List.flatMap_cons]
      exact .cons (charText_escape c) ih
  exact ⟨s.toList.flatMap escape, hbody s.toList, by rw [quote, String.toList_ofList]⟩

/-- The text of a field stands for its value. -/
def PrintedField.Faithful (field : PrintedField) : Prop := Json.TextOf field.value field.text.toList

theorem textOf_printObject {fields : List PrintedField}
    (hnodup : (fields.map PrintedField.name).Nodup) (h : ∀ field ∈ fields, field.Faithful) :
    Json.TextOf (objectValue fields) (printObject fields).toList := by
  have hmembers : Json.MembersText (fields.map fun field => (field.name, field.value))
      (",".intercalate (fields.map PrintedField.json)).toList :=
    Json.membersText_intercalate (fun field _ => stringText_quote field.name) h
  refine ⟨by rw [List.map_map]; exact hnodup, _, hmembers, ?_⟩
  have hopen : "\x7b".toList = [Char.ofNat 123] := by decide
  have hclose : "\x7d".toList = [Char.ofNat 125] := by decide
  simp only [printObject, String.toList_append, hopen, hclose, List.cons_append, List.nil_append]

theorem faithful_stringField (name value : String) : (stringField name value).Faithful :=
  stringText_quote value

theorem faithful_intField (name : String) (value : ℕ) : (intField name value).Faithful :=
  ⟨⟨value, rfl⟩, rfl⟩

theorem faithful_boolField (name : String) (value : Bool) : (boolField name value).Faithful := rfl

theorem faithful_columnsField (columns : List Column) : (columnsField columns).Faithful := by
  have hcolumn : ∀ column : Column, Json.TextOf (objectValue (columnFields column))
      (printObject (columnFields column)).toList := by
    intro column
    refine textOf_printObject (by simp [columnFields, stringField]) ?_
    simp only [columnFields, List.forall_mem_cons]
    exact ⟨faithful_stringField _ _, faithful_stringField _ _, by simp⟩
  refine ⟨_, Json.itemsText_intercalate fun column _ => hcolumn column, ?_⟩
  simp [columnsField, columnsJson]

theorem faithful_rowsField (rows : List (List String)) : (rowsField rows).Faithful := by
  have hrow : ∀ row : List String, Json.TextOf (.arr (row.map Json.str)) (rowJson row).toList := by
    intro row
    refine ⟨_, Json.itemsText_intercalate fun cell _ => stringText_quote cell, ?_⟩
    simp [rowJson]
  refine ⟨_, Json.itemsText_intercalate fun row _ => hrow row, ?_⟩
  simp [rowsField, rowsJson]

/-- **The printed answer is a text of the value that it is meant to be.** -/
theorem textOf_completedFields (requestId : String) (cut : CutResult) (durationMs : ℕ)
    (mockExecution : Bool) :
    Json.TextOf (objectValue (completedFields requestId cut durationMs mockExecution))
      (printObject (completedFields requestId cut durationMs mockExecution)).toList := by
  refine textOf_printObject ?_ ?_
  · simp only [completedFields, List.map_cons, List.map_nil, intField, stringField, boolField,
      columnsField, rowsField]
    decide
  · simp only [completedFields, List.forall_mem_cons, faithful_intField, faithful_stringField,
      faithful_boolField, faithful_columnsField, faithful_rowsField, true_and]
    exact ⟨rfl, by simp⟩

end HobitQueue.Jdbc
