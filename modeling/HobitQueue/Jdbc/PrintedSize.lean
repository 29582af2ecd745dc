import HobitQueue.Jdbc.SidecarResponse

/-!
# How many bytes an answer takes

Beside the texts themselves an answer takes bytes for quotes, escapes, commas, brackets and the
names of its fields.
-/

namespace HobitQueue.Jdbc

/-- The bytes of a printed text. -/
def quotedBytes (s : String) : ℕ :=
  2 + (s.toList.map fun c => ((escape c).map Char.utf8Size).sum).sum

/-- Sizes with the commas between them. -/
def joinedBytes (sizes : List ℕ) : ℕ := sizes.sum + (sizes.length - 1)

def boolBytes (b : Bool) : ℕ := if b then 4 else 5

def columnBytes (column : Column) : ℕ :=
  23 + quotedBytes column.name + quotedBytes column.valueKind

def rowBytes (row : List String) : ℕ := 2 + joinedBytes (row.map quotedBytes)

/-- The bytes of the answer that prints a result. -/
def answerBytes (requestId : String) (cut : CutResult) (durationMs : ℕ) (mockExecution : Bool) :
    ℕ :=
  313 + quotedBytes requestId + (2 + joinedBytes (cut.columns.map columnBytes)) +
    (2 + joinedBytes (cut.rows.map rowBytes)) + utf8Length (toString cut.rows.length) +
    utf8Length (toString (min 2147483647 durationMs)) +
    boolBytes (cut.truncatedRows || cut.truncatedColumns || cut.truncatedCells ||
      cut.truncatedBytes) +
    boolBytes cut.truncatedRows + boolBytes cut.truncatedColumns + boolBytes cut.truncatedCells +
    boolBytes cut.truncatedBytes + boolBytes mockExecution

/-! ## Adding up -/

@[simp] theorem utf8Length_append (s t : String) :
    utf8Length (s ++ t) = utf8Length s + utf8Length t := by
  simp [utf8Length]

theorem sum_flatMap {α : Type} (sizes : α → List ℕ) (xs : List α) :
    (xs.flatMap sizes).sum = (xs.map fun x => (sizes x).sum).sum := by
  induction xs with
  | nil => rfl
  | cons x xs ih => rw [List.flatMap_cons, List.sum_append, ih, List.map_cons, List.sum_cons]

theorem utf8Length_quote (s : String) : utf8Length (quote s) = quotedBytes s := by
  have hmark : Json.quoteChar.utf8Size = 1 := by decide
  simp only [utf8Length, quote, quotedBytes, String.toList_ofList, List.map_cons, List.map_append,
    List.map_flatMap, List.map_nil, List.sum_cons, List.sum_append, List.sum_nil, hmark,
    List.cons_append, sum_flatMap]
  omega

theorem utf8Length_intercalate (texts : List String) :
    utf8Length (",".intercalate texts) = joinedBytes (texts.map utf8Length) := by
  induction texts with
  | nil => rfl
  | cons t texts ih =>
    have hcomma : utf8Length "," = 1 := by decide
    cases texts with
    | nil => simp [joinedBytes]
    | cons u texts =>
      rw [String.intercalate_cons_cons, utf8Length_append, utf8Length_append, ih, hcomma]
      simp only [joinedBytes, List.map_cons, List.sum_cons, List.length_cons]
      omega

/-- The bytes of a printed field. -/
def PrintedField.bytes (field : PrintedField) : ℕ :=
  quotedBytes field.name + 1 + utf8Length field.text

theorem utf8Length_printObject (fields : List PrintedField) :
    utf8Length (printObject fields) = 2 + joinedBytes (fields.map PrintedField.bytes) := by
  have hopen : utf8Length "\x7b" = 1 := by decide
  have hclose : utf8Length "\x7d" = 1 := by decide
  have hcolon : utf8Length ":" = 1 := by decide
  have hfield : ∀ field : PrintedField, utf8Length field.json = field.bytes := by
    intro field
    simp only [PrintedField.json, utf8Length_append, utf8Length_quote, hcolon,
      PrintedField.bytes]
  have hmap : (fields.map PrintedField.json).map utf8Length = fields.map PrintedField.bytes := by
    simp only [List.map_map, Function.comp_def, hfield]
  simp only [printObject, utf8Length_append, hopen, hclose, utf8Length_intercalate, hmap]
  omega

theorem utf8Length_columnsJson (columns : List Column) :
    utf8Length (columnsJson columns) = 2 + joinedBytes (columns.map columnBytes) := by
  have hopen : utf8Length "[" = 1 := by decide
  have hclose : utf8Length "]" = 1 := by decide
  have hname : quotedBytes "name" = 6 := by decide +kernel
  have hkind : quotedBytes "value_kind" = 12 := by decide +kernel
  have hcolumn : ∀ column : Column, utf8Length (printObject (columnFields column)) =
      columnBytes column := by
    intro column
    simp only [utf8Length_printObject, columnFields, joinedBytes, List.map_cons, List.map_nil,
      PrintedField.bytes, stringField, utf8Length_quote, hname, hkind, columnBytes,
      List.sum_cons, List.sum_nil, List.length_cons, List.length_nil]
    omega
  have hmap : (columns.map fun column => printObject (columnFields column)).map utf8Length =
      columns.map columnBytes := by
    simp only [List.map_map, Function.comp_def, hcolumn]
  simp only [columnsJson, utf8Length_append, hopen, hclose, utf8Length_intercalate, hmap]
  omega

theorem utf8Length_rowsJson (rows : List (List String)) :
    utf8Length (rowsJson rows) = 2 + joinedBytes (rows.map rowBytes) := by
  have hopen : utf8Length "[" = 1 := by decide
  have hclose : utf8Length "]" = 1 := by decide
  have hrow : ∀ row : List String, utf8Length (rowJson row) = rowBytes row := by
    intro row
    have hcells : (row.map quote).map utf8Length = row.map quotedBytes := by
      simp only [List.map_map, Function.comp_def, utf8Length_quote]
    simp only [rowJson, utf8Length_append, hopen, hclose, utf8Length_intercalate, hcells, rowBytes]
    omega
  have hmap : (rows.map rowJson).map utf8Length = rows.map rowBytes := by
    simp only [List.map_map, Function.comp_def, hrow]
  simp only [rowsJson, utf8Length_append, hopen, hclose, utf8Length_intercalate, hmap]
  omega

/-- **The bytes of an answer.** -/
theorem utf8Length_completedFields (requestId : String) (cut : CutResult) (durationMs : ℕ)
    (mockExecution : Bool) :
    utf8Length (printObject (completedFields requestId cut durationMs mockExecution)) =
      answerBytes requestId cut durationMs mockExecution := by
  have hbool : ∀ b : Bool, utf8Length (if b then "true" else "false") = boolBytes b := by decide
  have hnames : quotedBytes "protocol_version" = 18 ∧ quotedBytes "request_id" = 12 ∧
      quotedBytes "status" = 8 ∧ quotedBytes "columns" = 9 ∧ quotedBytes "rows" = 6 ∧
      quotedBytes "row_count" = 11 ∧ quotedBytes "returned_row_count" = 20 ∧
      quotedBytes "truncated" = 11 ∧ quotedBytes "truncated_rows" = 16 ∧
      quotedBytes "truncated_columns" = 19 ∧ quotedBytes "truncated_cells" = 17 ∧
      quotedBytes "truncated_bytes" = 17 ∧ quotedBytes "duration_ms" = 13 ∧
      quotedBytes "sanitized_error" = 17 ∧ quotedBytes "no_secrets_returned" = 21 ∧
      quotedBytes "no_ai_context_shared" = 22 ∧ quotedBytes "mock_execution" = 16 := by
    decide +kernel
  obtain ⟨h₁, h₂, h₃, h₄, h₅, h₆, h₇, h₈, h₉, h₁₀, h₁₁, h₁₂, h₁₃, h₁₄, h₁₅, h₁₆, h₁₇⟩ := hnames
  have hconstants : utf8Length (toString sidecarProtocolVersion) = 1 ∧
      quotedBytes "completed" = 11 ∧ utf8Length (toString 3) = 1 ∧ utf8Length "null" = 4 ∧
      utf8Length "true" = 4 := by decide +kernel
  obtain ⟨hversion, hcompleted, hthree, hnull, htrue⟩ := hconstants
  rw [utf8Length_printObject]
  simp only [completedFields, joinedBytes, List.map_cons, List.map_nil, List.sum_cons,
    List.sum_nil, List.length_cons, List.length_nil, PrintedField.bytes, intField, stringField,
    boolField, columnsField, rowsField, utf8Length_quote, utf8Length_columnsJson,
    utf8Length_rowsJson, hbool, h₁, h₂, h₃, h₄, h₅, h₆, h₇, h₈, h₉, h₁₀, h₁₁, h₁₂, h₁₃, h₁₄, h₁₅,
    h₁₆, h₁₇, hversion, hcompleted, hthree, hnull, if_true, htrue, answerBytes]
  omega

end HobitQueue.Jdbc
