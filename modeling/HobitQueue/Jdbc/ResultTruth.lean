import HobitQueue.Jdbc.PrintedSize
import HobitQueue.Jdbc.ResponseMapping

/-!
# Does a result tell the truth about itself

A result is cut by the row limit and the column limit, which sets no flag, then in its cells and
by its size, which sets flags; the number of rows that the sidecar prints is always three; and
what quotes, escapes and punctuation add may exceed what the backend allows for them. The
summary of a result is honest exactly when none of this happens.

## Main results

* `length_rows_le_iff` — how many rows come through.
* `tells_the_truth_iff` — the summary is honest exactly under the condition.
-/

namespace HobitQueue.Jdbc

/-! ## What the claim asks for -/

def sanitizedColumn (column : Column) : Column :=
  ⟨sanitizeError column.name, sanitizeError column.valueKind⟩

/-- The text of a cell of a result set. -/
def ResultSet.cell (resultSet : ResultSet) (i j : ℕ) : Option String :=
  ((resultSet.rows[i]?).bind (·[j]?)).map cellText

/-- An honest summary of a result set. -/
structure TellsTheTruth (resultSet : ResultSet) (summary : JdbcReadOnlyQueryResultSummary) :
    Prop where
  returned : summary.returnedRowCount = summary.rows.length
  total : summary.returnedRowCount ≤ summary.rowCount
  names : summary.columns = (resultSet.columns.take summary.columns.length).map
    fun column => sanitizedColumn column.sidecar
  aligned : ∀ row ∈ summary.rows, row.length = summary.columns.length
  rows : summary.rows.length ≤ resultSet.rows.length ∧
    (summary.rows.length < resultSet.rows.length → summary.truncatedRows = true)
  columns : summary.columns.length < resultSet.columns.length → summary.truncatedColumns = true
  cells : ∀ (i j : ℕ) (cell : String), (summary.rows[i]?).bind (·[j]?) = some cell →
    resultSet.cell i j ≠ some cell → summary.truncatedCells = true
  truncated : summary.truncatedRows = true ∨ summary.truncatedColumns = true ∨
    summary.truncatedCells = true → summary.truncated = true

/-! ## What comes through -/

section Reading

variable (request : JdbcReadOnlyAdapterRequest) (resultSet : ResultSet)

/-- The columns up to the limit. -/
def keptColumns : List Column := (resultSet.columns.take request.maxColumns).map SqlColumn.sidecar

/-- The rows up to the limit, with the cells of the kept columns. -/
def limitedRows : List (List String) :=
  (resultSet.rows.take request.rowLimit).map fun row =>
    (row.take (keptColumns request resultSet).length).map cellText

/-- The same rows with their cells cut. -/
def cappedRows : List (List String) :=
  (limitedRows request resultSet).map fun row =>
    row.map fun cell => capString cell request.maxCellChars

/-- The first rows are within the size limit, in units and, under the shown names, in bytes. -/
def RowsFit (m : ℕ) : Prop :=
  resultSizeUnits (keptColumns request resultSet) ((cappedRows request resultSet).take m) ≤
      request.maxResultBytes ∧
    resultSizeBytes ((keptColumns request resultSet).map sanitizedColumn)
      ((cappedRows request resultSet).take m) ≤ request.maxResultBytes

/-- What the sidecar prints when so many rows stay. -/
def printedAt (m : ℕ) : CutResult :=
  { columns := keptColumns request resultSet
    rows := (cappedRows request resultSet).take m
    truncatedRows := decide (m < (cappedRows request resultSet).length)
    truncatedColumns := false
    truncatedCells := decide (cappedRows request resultSet ≠ limitedRows request resultSet)
    truncatedBytes := decide (m < (cappedRows request resultSet).length) }

end Reading

theorem readColumns_eq (maxColumns : ℕ) (resultSet : ResultSet) :
    readColumns maxColumns resultSet =
      (resultSet.columns.take maxColumns).map SqlColumn.sidecar := by
  rw [readColumns, Nat.min_comm, ← List.take_eq_take_min]

/-- The loop over the rows takes the first ones. -/
theorem readRows_eq (rowLimit columnCount : ℕ) (resultSet : ResultSet) :
    readRows rowLimit columnCount resultSet =
      (resultSet.rows.take rowLimit).map fun row => (row.take columnCount).map cellText := by
  have hfold : ∀ (rows : List (List (Option String))) (taken : List (List String)),
      rows.foldl (fun taken row => if rowLimit ≤ taken.length then taken
        else taken ++ [(row.take columnCount).map cellText]) taken =
      taken ++ (rows.take (rowLimit - taken.length)).map
        fun row => (row.take columnCount).map cellText := by
    intro rows
    induction rows with
    | nil => simp
    | cons row rows ih =>
      intro taken
      rw [List.foldl_cons]
      by_cases hfull : rowLimit ≤ taken.length
      · have hzero : rowLimit - taken.length = 0 := by omega
        rw [if_pos hfull, ih, hzero, List.take_zero, List.take_zero]
      · obtain ⟨room, hroom⟩ : ∃ room, rowLimit - taken.length = room + 1 :=
          ⟨rowLimit - taken.length - 1, by omega⟩
        have hless : rowLimit - (taken ++ [(row.take columnCount).map cellText]).length = room := by
          rw [List.length_append, List.length_singleton]
          omega
        rw [if_neg hfull, ih, hless, hroom, List.take_succ_cons, List.map_cons,
          List.append_assoc, List.singleton_append]
  simpa [readRows] using hfold resultSet.rows []

/-! ### Cells -/

theorem length_units_pos (c : Char) : 1 ≤ (Java.units c).length := by
  unfold Java.units
  split <;> simp

theorem length_le_text (cs : List Char) : cs.length ≤ (cs.flatMap Java.units).length := by
  induction cs with
  | nil => simp
  | cons c cs ih =>
    have hc := length_units_pos c
    rw [List.flatMap_cons, List.length_append, List.length_cons]
    omega

theorem length_capChars_le (room : ℕ) (cs : List Char) : (capChars room cs).length ≤ room := by
  induction cs generalizing room with
  | nil => simp [capChars]
  | cons c cs ih =>
    have hc := length_units_pos c
    rw [capChars]
    split
    · have htail := ih (room - (Java.units c).length)
      rw [List.length_cons]
      omega
    · split
      · simp
      · rw [List.length_singleton]
        omega

/-- A cell that was cut to its units is not cut to its characters. -/
theorem capStringChars_capString {maxChars : ℕ} (h : 1 ≤ maxChars) (value : String) :
    (capStringChars (capString value maxChars) maxChars).1 = capString value maxChars := by
  have hle : (capString value maxChars).toList.length ≤ maxChars := by
    unfold capString
    split
    · next hunits => exact (length_le_text value.toList).trans hunits
    · rw [String.toList_ofList]
      exact length_capChars_le _ _
  have hmax : max maxChars 1 = maxChars := by omega
  simp only [capStringChars, hmax, if_pos hle]

/-! ### The printed answer -/

/-- The rows that the sidecar prints. -/
def printedRows (request : JdbcReadOnlyAdapterRequest) (resultSet : ResultSet) :
    List (List String) :=
  Fitting.cut (tooManyUnits request.sidecarLimits (keptColumns request resultSet))
    (cappedRows request resultSet)

theorem length_keptColumns (request : JdbcReadOnlyAdapterRequest) (resultSet : ResultSet) :
    (keptColumns request resultSet).length =
      min request.maxColumns resultSet.columns.length := by
  simp [keptColumns]

theorem length_cappedRows (request : JdbcReadOnlyAdapterRequest) (resultSet : ResultSet) :
    (cappedRows request resultSet).length = min request.rowLimit resultSet.rows.length := by
  simp [cappedRows, limitedRows]

/-- Every row has a cell for every column that is kept. -/
theorem length_of_mem_cappedRows {request : JdbcReadOnlyAdapterRequest} {resultSet : ResultSet}
    {row : List String} (h : row ∈ cappedRows request resultSet) :
    row.length = (keptColumns request resultSet).length := by
  simp only [cappedRows, limitedRows, List.map_map, List.mem_map, Function.comp_apply] at h
  obtain ⟨source, hsource, rfl⟩ := h
  have haligned := resultSet.aligned source (List.mem_of_mem_take hsource)
  simp only [List.length_map, List.length_take, haligned, length_keptColumns]
  omega

/-- **What the sidecar prints**, in terms of the result set. -/
theorem cutResult_read {request : JdbcReadOnlyAdapterRequest} (h : request.WithinBounds)
    (resultSet : ResultSet) :
    cutResult request.sidecarLimits (readColumns request.sidecarLimits.maxColumns resultSet)
        (readRows request.sidecarLimits.rowLimit
          (readColumns request.sidecarLimits.maxColumns resultSet).length resultSet) =
      printedAt request resultSet (printedRows request resultSet).length := by
  have hrows : (limitedRows request resultSet).length ≤ request.rowLimit := by
    simp [limitedRows]
  have hcolumns : (keptColumns request resultSet).length ≤ request.maxColumns := by
    rw [length_keptColumns]
    omega
  have hlimits := h.sidecarLimits
  have hreadColumns : readColumns request.sidecarLimits.maxColumns resultSet =
      keptColumns request resultSet := by
    rw [hlimits, readColumns_eq, keptColumns]
  have hreadRows : readRows request.sidecarLimits.rowLimit (keptColumns request resultSet).length
      resultSet = limitedRows request resultSet := by
    rw [hlimits, readRows_eq, limitedRows]
  rw [hreadColumns, hreadRows]
  have hfewRows : decide (request.sidecarLimits.rowLimit < (limitedRows request resultSet).length) =
      false := by
    rw [hlimits, decide_eq_false_iff_not]
    exact Nat.not_lt.mpr hrows
  have hfewColumns : decide (request.sidecarLimits.maxColumns <
      (keptColumns request resultSet).length) = false := by
    rw [hlimits, decide_eq_false_iff_not]
    exact Nat.not_lt.mpr hcolumns
  have hcapped : capRows request.sidecarLimits (limitedRows request resultSet) =
      cappedRows request resultSet := by
    rw [hlimits]
    rfl
  simp only [cutResult, hfewRows, hfewColumns, Bool.false_eq_true, if_false, hcapped,
    Bool.false_or, printedAt, printedRows]
  rw [← Fitting.cut_eq_take]
  rfl

/-- The fields that the sidecar prints. -/
def executedFields (request : JdbcReadOnlyAdapterRequest) (resultSet : ResultSet)
    (durationMs : ℕ) : List PrintedField :=
  completedFields request.connector.connectorId
    (printedAt request resultSet (printedRows request resultSet).length) durationMs false

theorem executeRealJdbc_eq {request : JdbcReadOnlyAdapterRequest} (h : request.WithinBounds)
    (resultSet : ResultSet) (durationMs : ℕ) :
    executeRealJdbc request resultSet durationMs =
      printObject (executedFields request resultSet durationMs) := by
  simp only [executeRealJdbc, completedResponse, cutResult_read h, executedFields]

/-! ### The summary -/

section Summary

variable {requestId : String} {cut : CutResult} {durationMs : ℕ} {mockExecution : Bool}

theorem field_status :
    stringFieldOf (objectValue (completedFields requestId cut durationMs mockExecution)) "status" =
      some "completed" := by
  simp [stringFieldOf, objectValue, completedFields, Json.field, List.lookup_cons, intField,
    stringField, Json.asStr]

theorem field_flags :
    let value := objectValue (completedFields requestId cut durationMs mockExecution)
    boolFieldOf value "truncated_rows" = some cut.truncatedRows ∧
      boolFieldOf value "truncated_columns" = some cut.truncatedColumns ∧
      boolFieldOf value "truncated_cells" = some cut.truncatedCells ∧
      boolFieldOf value "truncated_bytes" = some cut.truncatedBytes ∧
      boolFieldOf value "no_secrets_returned" = some true ∧
      boolFieldOf value "no_ai_context_shared" = some true := by
  simp [boolFieldOf, objectValue, completedFields, Json.field, List.lookup_cons, intField,
    stringField, boolField, columnsField, rowsField]

theorem field_rowCount :
    natFieldOf (objectValue (completedFields requestId cut durationMs mockExecution)) "row_count" =
      some 3 := by
  have hnumeral : (Json.natOfDigits (toString 3).toList).filter (fun n => n < 2 ^ 64) = some 3 := by
    decide
  simpa [natFieldOf, objectValue, completedFields, Json.field, List.lookup_cons, intField,
    stringField, boolField, columnsField, rowsField] using hnumeral

theorem columnsFieldOf_completed {maxColumns : ℕ} (h : cut.columns.length ≤ maxColumns) :
    columnsFieldOf (objectValue (completedFields requestId cut durationMs mockExecution))
        maxColumns = cut.columns.map sanitizedColumn := by
  have hfield :
      (objectValue (completedFields requestId cut durationMs mockExecution)).field "columns" =
        some (.arr (cut.columns.map fun column => objectValue (columnFields column))) := by
    simp [objectValue, completedFields, Json.field, List.lookup_cons, intField, stringField,
      columnsField]
  have hcolumn : ∀ column : Column, (stringFieldOf (objectValue (columnFields column)) "name").map
      (fun name => (⟨sanitizeError name, sanitizeError ((stringFieldOf
        (objectValue (columnFields column)) "value_kind").getD "text")⟩ : Column)) =
      some (sanitizedColumn column) := by
    intro column
    simp [stringFieldOf, objectValue, columnFields, Json.field, List.lookup_cons, stringField,
      Json.asStr, sanitizedColumn]
  have hlength : (cut.columns.map fun column => objectValue (columnFields column)).length ≤
      maxColumns := by
    rw [List.length_map]
    exact h
  simp only [columnsFieldOf, hfield, Option.bind_some, asArray, Option.getD_some,
    List.take_of_length_le hlength, List.filterMap_map]
  rw [← List.filterMap_eq_map]
  exact List.filterMap_congr fun column _ => hcolumn column

theorem rowsFieldOf_completed {rowLimit maxColumns maxCellChars : ℕ}
    (hrows : cut.rows.length ≤ rowLimit) (hcolumns : ∀ row ∈ cut.rows, row.length ≤ maxColumns)
    (hcells : ∀ row ∈ cut.rows, ∀ cell ∈ row, (capStringChars cell maxCellChars).1 = cell) :
    rowsFieldOf (objectValue (completedFields requestId cut durationMs mockExecution)) rowLimit
        maxColumns maxCellChars = cut.rows := by
  have hfield : (objectValue (completedFields requestId cut durationMs mockExecution)).field
      "rows" = some (.arr (cut.rows.map fun row => .arr (row.map Json.str))) := by
    simp [objectValue, completedFields, Json.field, List.lookup_cons, intField, stringField,
      columnsField, rowsField]
  have hlength : (cut.rows.map fun row => Json.arr (row.map Json.str)).length ≤ rowLimit := by
    rw [List.length_map]
    exact hrows
  simp only [rowsFieldOf, hfield, Option.bind_some, asArray, Option.getD_some,
    List.take_of_length_le hlength, List.map_map]
  conv_rhs => rw [← List.map_id cut.rows]
  refine List.map_congr_left fun row hrow => ?_
  have hrowLength : (row.map Json.str).length ≤ maxColumns := by
    rw [List.length_map]
    exact hcolumns row hrow
  simp only [Function.comp_apply, Option.getD_some, List.take_of_length_le hrowLength,
    List.map_map, id]
  conv_rhs => rw [← List.map_id row]
  refine List.map_congr_left fun cell hcell => ?_
  simpa [Json.asStr] using hcells row hrow cell hcell

end Summary

/-- The rows that the backend keeps. -/
def returnedRows (request : JdbcReadOnlyAdapterRequest) (resultSet : ResultSet) :
    List (List String) :=
  Fitting.cut (tooManyBytes request.maxResultBytes
    ((keptColumns request resultSet).map sanitizedColumn)) (printedRows request resultSet)

/-- The reader reads a text of a value as that value. -/
def ReadsJson (fromStr : String → Option Json) (value : Json) (text : String) : Prop :=
  Json.TextOf value text.toList → fromStr text = some value

/-- The reader reads the answer of the sidecar. -/
def ReadsAnswer (fromStr : String → Option Json) (request : JdbcReadOnlyAdapterRequest)
    (resultSet : ResultSet) (durationMs : ℕ) : Prop :=
  ReadsJson fromStr (objectValue (executedFields request resultSet durationMs))
    (executeRealJdbc request resultSet durationMs)

theorem length_of_mem_printedRows {request : JdbcReadOnlyAdapterRequest} {resultSet : ResultSet}
    {row : List String} (h : row ∈ printedRows request resultSet) :
    row.length = (keptColumns request resultSet).length :=
  length_of_mem_cappedRows (List.mem_of_mem_take h)

theorem parsedRows_eq {request : JdbcReadOnlyAdapterRequest} (h : request.WithinBounds)
    (resultSet : ResultSet) (durationMs : ℕ) :
    rowsFieldOf (objectValue (executedFields request resultSet durationMs)) request.rowLimit
        request.maxColumns request.maxCellChars = printedRows request resultSet := by
  have hprinted : (printedAt request resultSet (printedRows request resultSet).length).rows =
      printedRows request resultSet := (Fitting.cut_eq_take _ _).symm
  have hlength := Fitting.length_cut_le
    (tooManyUnits request.sidecarLimits (keptColumns request resultSet))
    (cappedRows request resultSet)
  rw [length_cappedRows] at hlength
  rw [executedFields, rowsFieldOf_completed, hprinted]
  · rw [hprinted, printedRows]
    omega
  · intro row hrow
    rw [hprinted] at hrow
    rw [length_of_mem_printedRows hrow, length_keptColumns]
    omega
  · intro row hrow cell hcell
    rw [hprinted] at hrow
    have hcapped : row ∈ cappedRows request resultSet := List.mem_of_mem_take hrow
    obtain ⟨source, -, rfl⟩ := List.mem_map.mp hcapped
    obtain ⟨text, -, rfl⟩ := List.mem_map.mp hcell
    exact capStringChars_capString h.maxCellChars.1 text

theorem parsedColumns_eq (request : JdbcReadOnlyAdapterRequest) (resultSet : ResultSet)
    (durationMs : ℕ) :
    columnsFieldOf (objectValue (executedFields request resultSet durationMs))
        request.maxColumns = (keptColumns request resultSet).map sanitizedColumn := by
  rw [executedFields, columnsFieldOf_completed]
  · rfl
  · simp only [printedAt, length_keptColumns]
    omega

/-- **What the backend makes of the answer**, in terms of the result set. -/
theorem mapSidecarResponse_executed {fromStr : String → Option Json}
    {request : JdbcReadOnlyAdapterRequest} (h : request.WithinBounds) (resultSet : ResultSet)
    {durationMs : ℕ} (hread : ReadsAnswer fromStr request resultSet durationMs) :
    let summary := mapSidecarResponse fromStr request
      (executeRealJdbc request resultSet durationMs)
    summary.status = statusCompleted ∧
      summary.columns = (keptColumns request resultSet).map sanitizedColumn ∧
      summary.rows = returnedRows request resultSet ∧ summary.rowCount = 3 ∧
      summary.returnedRowCount = summary.rows.length ∧
      summary.truncatedRows = decide ((returnedRows request resultSet).length <
        (cappedRows request resultSet).length) ∧
      summary.truncatedColumns = false ∧
      summary.truncatedCells =
        decide (cappedRows request resultSet ≠ limitedRows request resultSet) ∧
      summary.truncated = (summary.truncatedRows || summary.truncatedCells) := by
  have hparsed : fromStr (executeRealJdbc request resultSet durationMs) =
      some (objectValue (executedFields request resultSet durationMs)) := by
    apply hread
    rw [executeRealJdbc_eq h]
    exact textOf_completedFields _ _ _ _
  obtain ⟨hflagRows, hflagColumns, hflagCells, hflagBytes, hsecrets, hshared⟩ :=
    @field_flags request.connector.connectorId
      (printedAt request resultSet (printedRows request resultSet).length) durationMs false
  have hstatus := @field_status request.connector.connectorId
      (printedAt request resultSet (printedRows request resultSet).length) durationMs false
  have hcount := @field_rowCount request.connector.connectorId
      (printedAt request resultSet (printedRows request resultSet).length) durationMs false
  rw [← executedFields] at hflagRows hflagColumns hflagCells hflagBytes hsecrets hshared
  rw [← executedFields] at hstatus hcount
  have hcolumns := parsedColumns_eq request resultSet durationMs
  have hrows := parsedRows_eq h resultSet durationMs
  have hcompleted : mapSidecarResponse fromStr request
      (executeRealJdbc request resultSet durationMs) =
        completedSummary request (objectValue (executedFields request resultSet durationMs)) := by
    simp only [mapSidecarResponse, hparsed, hstatus, hsecrets, hshared, Option.getD_some]
    rfl
  have hfewColumns : decide (request.maxColumns <
      ((keptColumns request resultSet).map sanitizedColumn).length) = false := by
    rw [decide_eq_false_iff_not, List.length_map, length_keptColumns]
    omega
  have hshort : (printedRows request resultSet).any (fun row =>
      decide (((keptColumns request resultSet).map sanitizedColumn).length < row.length)) =
        false := by
    rw [List.any_eq_false]
    intro row hrow
    rw [length_of_mem_printedRows hrow, List.length_map]
    simp
  have htake : (printedRows request resultSet).map
      (fun row => row.take ((keptColumns request resultSet).map sanitizedColumn).length) =
        printedRows request resultSet := by
    conv_rhs => rw [← List.map_id (printedRows request resultSet)]
    refine List.map_congr_left fun row hrow => ?_
    rw [List.length_map, ← length_of_mem_printedRows hrow, List.take_length]
    rfl
  have hprintedLength : (printedRows request resultSet).length ≤
      (cappedRows request resultSet).length := Fitting.length_cut_le _ _
  have hreturnedLength : (returnedRows request resultSet).length ≤
      (printedRows request resultSet).length := Fitting.length_cut_le _ _
  simp only [hcompleted, completedSummary, hcolumns, hrows, hfewColumns, hshort, htake,
    hflagRows, hflagColumns, hflagCells, hcount, Option.getD_some, printedAt,
    Bool.false_eq_true, if_false, Bool.or_false]
  have hreturned : Fitting.cut (tooManyBytes request.maxResultBytes
      ((keptColumns request resultSet).map sanitizedColumn)) (printedRows request resultSet) =
        returnedRows request resultSet := rfl
  simp only [hreturned, hflagBytes, printedAt, Option.getD_some, true_and]
  constructor
  · rw [Bool.eq_iff_iff]
    simp only [Bool.or_eq_true, decide_eq_true_eq]
    omega
  · rw [Bool.eq_iff_iff]
    simp only [Bool.or_eq_true, decide_eq_true_eq]
    exact or_iff_left_of_imp Or.inl

/-! ### How many rows come through -/

theorem sum_take_le (sizes : List ℕ) {j k : ℕ} (h : j ≤ k) :
    (sizes.take j).sum ≤ (sizes.take k).sum := by
  have htake : sizes.take j = (sizes.take k).take j := by
    rw [List.take_take, Nat.min_eq_left h]
  have hsplit := congrArg List.sum (List.take_append_drop j (sizes.take k))
  rw [List.sum_append, ← htake] at hsplit
  omega

/-- More rows are not smaller, in units and in bytes. -/
theorem size_take_mono (columns : List Column) (rows : List (List String)) {j k : ℕ}
    (h : j ≤ k) :
    resultSizeUnits columns (rows.take j) ≤ resultSizeUnits columns (rows.take k) ∧
      resultSizeBytes columns (rows.take j) ≤ resultSizeBytes columns (rows.take k) := by
  simp only [resultSizeUnits, resultSizeBytes, List.map_take]
  exact ⟨Nat.add_le_add_left (sum_take_le _ h) _, Nat.add_le_add_left (sum_take_le _ h) _⟩

/-- **At most so many rows come through when there are no more, or when one more does not
fit.** -/
theorem length_rows_le_iff {request : JdbcReadOnlyAdapterRequest} (h : request.WithinBounds)
    (resultSet : ResultSet) (m : ℕ) :
    (returnedRows request resultSet).length ≤ m ↔
      min request.rowLimit resultSet.rows.length ≤ m ∨ ¬ RowsFit request resultSet (m + 1) := by
  have hunits := @Fitting.length_cut_le_iff _
    (tooManyUnits request.sidecarLimits (keptColumns request resultSet))
    (cappedRows request resultSet)
    (fun j k hjk hbig => by
      have hmono := (size_take_mono (keptColumns request resultSet)
        (cappedRows request resultSet) hjk).1
      simp only [tooManyUnits, decide_eq_true_eq] at hbig ⊢
      omega) m
  have hbytes := @Fitting.length_cut_le_iff _
    (tooManyBytes request.maxResultBytes ((keptColumns request resultSet).map sanitizedColumn))
    (printedRows request resultSet)
    (fun j k hjk hbig => by
      have hmono := (size_take_mono ((keptColumns request resultSet).map sanitizedColumn)
        (printedRows request resultSet) hjk).2
      simp only [tooManyBytes, decide_eq_true_eq] at hbig ⊢
      omega) m
  rw [← printedRows, length_cappedRows] at hunits
  have hlimits := h.sidecarLimits
  rw [returnedRows, hbytes, RowsFit]
  by_cases hfew : (printedRows request resultSet).length ≤ m
  · have hcause := hunits.mp hfew
    simp only [tooManyUnits, hlimits, decide_eq_true_eq] at hcause
    constructor
    · intro _
      rcases hcause with hle | hbig
      · exact Or.inl hle
      · exact Or.inr fun hfit => absurd hfit.1 (by omega)
    · intro _
      exact Or.inl hfew
  · -- the next row was printed, so only the bytes can have dropped it
    have htake : (printedRows request resultSet).take (m + 1) =
        (cappedRows request resultSet).take (m + 1) := by
      rw [printedRows, Fitting.cut_eq_take, List.take_take, ← printedRows]
      congr 1
      omega
    have hnot := mt hunits.mpr hfew
    simp only [not_or, tooManyUnits, hlimits, decide_eq_true_eq] at hnot
    rw [htake]
    simp only [tooManyBytes, decide_eq_true_eq]
    constructor
    · rintro (hle | hbig)
      · exact absurd hle hfew
      · exact Or.inr fun hfit => absurd hfit.2 (by omega)
    · rintro (hle | hunfit)
      · exact absurd hle hnot.1
      · refine Or.inr ?_
        by_contra hfits
        exact hunfit ⟨by omega, by omega⟩

/-! ## Honest results -/

/-- What the sidecar prints of a result set. -/
def executedCut (request : JdbcReadOnlyAdapterRequest) (resultSet : ResultSet) : CutResult :=
  let columns := readColumns request.sidecarLimits.maxColumns resultSet
  cutResult request.sidecarLimits columns
    (readRows request.sidecarLimits.rowLimit columns.length resultSet)

/-- An answer whose content is within its limit is not dropped. -/
def NotDropped (fromStr : String → Option Json) (request : JdbcReadOnlyAdapterRequest)
    (resultSet : ResultSet) (durationMs : ℕ) : Prop :=
  let printed := executedCut request resultSet
  let answer := executeRealJdbc request resultSet durationMs
  resultSizeBytes printed.columns printed.rows ≤ request.maxResultBytes →
    executeReadOnlyQuery fromStr request answer = mapSidecarResponse fromStr request answer

/-- So many rows are the most that are within the size limit in units. -/
structure MostRows (request : JdbcReadOnlyAdapterRequest) (resultSet : ResultSet) (m : ℕ) :
    Prop where
  there : m ≤ min request.rowLimit resultSet.rows.length
  fit : m = 0 ∨ resultSizeUnits (keptColumns request resultSet)
    ((cappedRows request resultSet).take m) ≤ request.maxResultBytes
  most : m = min request.rowLimit resultSet.rows.length ∨ request.maxResultBytes <
    resultSizeUnits (keptColumns request resultSet) ((cappedRows request resultSet).take (m + 1))

/-- When the summary of a result set is honest. -/
structure Honest (request : JdbcReadOnlyAdapterRequest) (resultSet : ResultSet)
    (durationMs : ℕ) : Prop where
  /-- A fourth row does not come through. -/
  count : resultSet.rows.length ≤ 3 ∨ request.rowLimit ≤ 3 ∨ ¬ RowsFit request resultSet 4
  /-- The row limit drops no row, or the size limit drops one too. -/
  rows : resultSet.rows.length ≤ request.rowLimit ∨ ¬ RowsFit request resultSet request.rowLimit
  columns : resultSet.columns.length ≤ request.maxColumns
  /-- Quotes, escapes and punctuation stay within what the backend allows for them. -/
  bytes : ∀ m, MostRows request resultSet m →
    resultSizeBytes (keptColumns request resultSet) ((cappedRows request resultSet).take m) ≤
      request.maxResultBytes →
    answerBytes request.connector.connectorId (printedAt request resultSet m) durationMs false ≤
      request.maxResultBytes + sidecarResponseOverheadBytes

/-- The rows that are printed are the most that fit. -/
theorem mostRows_iff {request : JdbcReadOnlyAdapterRequest} (h : request.WithinBounds)
    (resultSet : ResultSet) (m : ℕ) :
    MostRows request resultSet m ↔ m = (printedRows request resultSet).length := by
  have hle : ∀ k, (printedRows request resultSet).length ≤ k ↔
      min request.rowLimit resultSet.rows.length ≤ k ∨ request.maxResultBytes <
        resultSizeUnits (keptColumns request resultSet)
          ((cappedRows request resultSet).take (k + 1)) := by
    intro k
    have hunits := @Fitting.length_cut_le_iff _
      (tooManyUnits request.sidecarLimits (keptColumns request resultSet))
      (cappedRows request resultSet)
      (fun i j hij hbig => by
        have hmono := (size_take_mono (keptColumns request resultSet)
          (cappedRows request resultSet) hij).1
        simp only [tooManyUnits, decide_eq_true_eq] at hbig ⊢
        omega) k
    rw [← printedRows, length_cappedRows] at hunits
    rw [hunits]
    simp only [tooManyUnits, h.sidecarLimits, decide_eq_true_eq]
  have hall : (printedRows request resultSet).length ≤
      min request.rowLimit resultSet.rows.length := (hle _).mpr (Or.inl (Nat.le_refl _))
  constructor
  · rintro ⟨hthere, hfit, hmost⟩
    have hupper : (printedRows request resultSet).length ≤ m := by
      refine (hle m).mpr ?_
      rcases hmost with hmost | hmost
      · exact Or.inl (Nat.le_of_eq hmost.symm)
      · exact Or.inr hmost
    rcases hfit with rfl | hfit
    · omega
    · by_contra hne
      have hpred : m - 1 + 1 = m := by omega
      have hless := (hle (m - 1)).mp (by omega)
      rw [hpred] at hless
      omega
  · intro hm
    subst hm
    refine ⟨hall, ?_, ?_⟩
    · by_cases hzero : (printedRows request resultSet).length = 0
      · exact Or.inl hzero
      · have hpred : (printedRows request resultSet).length - 1 + 1 =
            (printedRows request resultSet).length := by omega
        have hnot := mt (hle ((printedRows request resultSet).length - 1)).mpr (by omega)
        rw [hpred] at hnot
        omega
    · have hself := (hle _).mp (Nat.le_refl _)
      omega

theorem notDropped_iff {fromStr : String → Option Json} {request : JdbcReadOnlyAdapterRequest}
    (h : request.WithinBounds) (resultSet : ResultSet) {durationMs : ℕ}
    (hread : ReadsAnswer fromStr request resultSet durationMs) :
    NotDropped fromStr request resultSet durationMs ↔
      ∀ m, MostRows request resultSet m →
        resultSizeBytes (keptColumns request resultSet)
          ((cappedRows request resultSet).take m) ≤ request.maxResultBytes →
        answerBytes request.connector.connectorId (printedAt request resultSet m) durationMs
          false ≤ request.maxResultBytes + sidecarResponseOverheadBytes := by
  have hcut : executedCut request resultSet =
      printedAt request resultSet (printedRows request resultSet).length :=
    cutResult_read h resultSet
  have hlength : utf8Length (executeRealJdbc request resultSet durationMs) =
      answerBytes request.connector.connectorId
        (printedAt request resultSet (printedRows request resultSet).length) durationMs false := by
    rw [executeRealJdbc_eq h, executedFields, utf8Length_completedFields]
  have hstatus := (mapSidecarResponse_executed h resultSet hread).1
  simp only [NotDropped, hcut, mostRows_iff h, forall_eq]
  refine imp_congr_right fun _ => ?_
  rw [← hlength]
  constructor
  · intro heq
    by_contra hover
    rw [executeReadOnlyQuery, if_pos (by omega)] at heq
    rw [← heq] at hstatus
    exact absurd hstatus (by simp [failedQueryResult, statusExecutionFailed, statusCompleted])
  · intro hle
    rw [executeReadOnlyQuery, if_neg (by omega)]

theorem getElem?_of_take {α : Type} {xs : List α} {n i : ℕ} {x : α}
    (h : (xs.take n)[i]? = some x) : xs[i]? = some x := by
  rw [List.getElem?_take] at h
  split at h
  · exact h
  · cases h

/-- The cells of a limited row are those of the result set. -/
theorem cell_limitedRows {request : JdbcReadOnlyAdapterRequest} {resultSet : ResultSet}
    {i j : ℕ} {cell : String}
    (h : ((limitedRows request resultSet)[i]?).bind (·[j]?) = some cell) :
    resultSet.cell i j = some cell := by
  obtain ⟨row, hrow, hcell⟩ := Option.bind_eq_some_iff.mp h
  simp only [limitedRows, List.getElem?_map, Option.map_eq_some_iff] at hrow
  obtain ⟨source, hsource, rfl⟩ := hrow
  simp only [List.getElem?_map, Option.map_eq_some_iff] at hcell
  obtain ⟨value, hvalue, rfl⟩ := hcell
  simp only [ResultSet.cell, getElem?_of_take hsource, Option.bind_some,
    getElem?_of_take hvalue, Option.map_some]

theorem cell_returnedRows {request : JdbcReadOnlyAdapterRequest} {resultSet : ResultSet}
    {i j : ℕ} {cell : String}
    (h : ((returnedRows request resultSet)[i]?).bind (·[j]?) = some cell) :
    ((cappedRows request resultSet)[i]?).bind (·[j]?) = some cell := by
  obtain ⟨row, hrow, hcell⟩ := Option.bind_eq_some_iff.mp h
  exact Option.bind_eq_some_iff.mpr
    ⟨row, getElem?_of_take (getElem?_of_take hrow), hcell⟩

/-- **The summary of a result is honest exactly under the condition**: no fourth row comes
through, neither the row limit nor the column limit cuts the result unnoticed, and the answer
is within what the backend allows beside its content. -/
theorem tells_the_truth_iff (fromStr : String → Option Json) (request : JdbcReadOnlyAdapterRequest)
    (resultSet : ResultSet) (durationMs : ℕ) (h : request.WithinBounds)
    (hread : ReadsAnswer fromStr request resultSet durationMs) :
    TellsTheTruth resultSet
        (mapSidecarResponse fromStr request (executeRealJdbc request resultSet durationMs)) ∧
      NotDropped fromStr request resultSet durationMs ↔
    Honest request resultSet durationMs := by
  obtain ⟨-, hcolumns, hrows, hcount, hreturned, hflagRows, hflagColumns, hflagCells, hflag⟩ :=
    mapSidecarResponse_executed h resultSet hread
  have hdropped := notDropped_iff h resultSet hread
  have hlimit := h.rowLimit.1
  have hkept : (returnedRows request resultSet).length ≤
      min request.rowLimit resultSet.rows.length :=
    (length_rows_le_iff h resultSet _).mpr (Or.inl (Nat.le_refl _))
  rw [length_cappedRows] at hflagRows
  generalize mapSidecarResponse fromStr request (executeRealJdbc request resultSet durationMs) =
    summary at *
  rw [hdropped]
  constructor
  · rintro ⟨htruth, hbytes⟩
    refine ⟨?_, ?_, ?_, hbytes⟩
    · have htotal := htruth.total
      rw [hreturned, hrows, hcount] at htotal
      rcases (length_rows_le_iff h resultSet 3).mp htotal with hfew | hunfit
      · by_cases hlow : request.rowLimit ≤ 3
        · exact Or.inr (Or.inl hlow)
        · exact Or.inl (by omega)
      · exact Or.inr (Or.inr hunfit)
    · by_cases hall : resultSet.rows.length ≤ request.rowLimit
      · exact Or.inl hall
      · have hmissing := htruth.rows.2 (by rw [hrows]; omega)
        rw [hflagRows, decide_eq_true_eq] at hmissing
        have hpred : request.rowLimit - 1 + 1 = request.rowLimit := by omega
        rcases (length_rows_le_iff h resultSet (request.rowLimit - 1)).mp (by omega) with
          hfew | hunfit
        · omega
        · rw [hpred] at hunfit
          exact Or.inr hunfit
    · by_contra hmany
      have hmissing := htruth.columns (by
        rw [hcolumns, List.length_map, length_keptColumns]
        omega)
      rw [hflagColumns] at hmissing
      cases hmissing
  · intro hhonest
    have hcolumnLength : summary.columns.length =
        min request.maxColumns resultSet.columns.length := by
      rw [hcolumns, List.length_map, length_keptColumns]
    refine ⟨⟨hreturned, ?_, ?_, ?_, ⟨?_, ?_⟩, ?_, ?_, ?_⟩, hhonest.bytes⟩
    · rw [hreturned, hrows, hcount]
      refine (length_rows_le_iff h resultSet 3).mpr ?_
      rcases hhonest.count with hfew | hlow | hunfit
      · exact Or.inl (by omega)
      · exact Or.inl (by omega)
      · exact Or.inr hunfit
    · rw [hcolumnLength, hcolumns, keptColumns, ← List.take_eq_take_min, List.map_map]
      rfl
    · intro row hrow
      rw [hrows] at hrow
      rw [hcolumns, List.length_map, length_of_mem_printedRows (List.mem_of_mem_take hrow)]
    · rw [hrows]
      omega
    · intro hmissing
      rw [hrows] at hmissing
      rw [hflagRows, decide_eq_true_eq]
      by_contra hcomplete
      rcases hhonest.rows with hall | hunfit
      · omega
      · have hpred : request.rowLimit - 1 + 1 = request.rowLimit := by omega
        rw [← hpred] at hunfit
        have hfew := (length_rows_le_iff h resultSet (request.rowLimit - 1)).mpr (Or.inr hunfit)
        omega
    · intro hmissing
      have hfits := hhonest.columns
      omega
    · intro i j cell hcell hdiffers
      rw [hrows] at hcell
      rw [hflagCells, decide_eq_true_eq]
      intro hsame
      have hcapped := cell_returnedRows hcell
      rw [hsame] at hcapped
      exact hdiffers (cell_limitedRows hcapped)
    · rw [hflag, hflagColumns, Bool.or_eq_true]
      rintro (hset | hset | hset)
      · exact Or.inl hset
      · cases hset
      · exact Or.inr hset

/-! ## Two result sets -/

/-- A request with small limits. -/
def resultRequest : JdbcReadOnlyAdapterRequest :=
  { connector :=
      { connectorId := "c1", displayName := "Sample", databaseKind := "postgres"
        driverKind := "jdbc"
        runtimeConfig := .sidecar
          { driverKind := "jdbc", runtimeKind := "real_jdbc", driverJarPath := some "d.jar"
            driverClassName := none, jdbcUrl := some "jdbc:x", username := none
            credentialEnvVarName := none } }
    sql := "select 1", rowLimit := 10, timeoutMs := 1000, maxColumns := 2, maxCellChars := 9
    maxResultBytes := 64
    validation :=
      { isValid := true, statementKind := some "SELECT", normalizedPreview := "select 1"
        rejectionReason := none, safetyNotes := [] } }

theorem resultRequest_withinBounds : resultRequest.WithinBounds :=
  ⟨by decide, by decide, by decide, by decide, by decide⟩

/-- A result set of one column and so many rows. -/
def oneColumn (n : ℕ) : ResultSet :=
  { columns := [⟨some "n", "n", "number"⟩]
    rows := List.replicate n [some "7"]
    aligned := by
      intro row hrow
      rw [List.eq_of_mem_replicate hrow]
      rfl }

/-- A reader that knows one answer. -/
def knowsAnswer (request : JdbcReadOnlyAdapterRequest) (resultSet : ResultSet) (durationMs : ℕ) :
    String → Option Json := fun text =>
  if text = executeRealJdbc request resultSet durationMs then
    some (objectValue (executedFields request resultSet durationMs))
  else none

theorem knowsAnswer_reads (request : JdbcReadOnlyAdapterRequest) (resultSet : ResultSet)
    (durationMs : ℕ) :
    ReadsAnswer (knowsAnswer request resultSet durationMs) request resultSet durationMs :=
  fun _ => if_pos rfl

theorem tells_the_truth_iff_two_rows :
    TellsTheTruth (oneColumn 2)
        (mapSidecarResponse (knowsAnswer resultRequest (oneColumn 2) 5) resultRequest
          (executeRealJdbc resultRequest (oneColumn 2) 5)) ∧
      NotDropped (knowsAnswer resultRequest (oneColumn 2) 5) resultRequest (oneColumn 2) 5 := by
  refine (tells_the_truth_iff _ resultRequest (oneColumn 2) 5 resultRequest_withinBounds
    (knowsAnswer_reads _ _ _)).mpr ⟨Or.inl (by decide), Or.inl (by decide), by decide, ?_⟩
  intro m hm _
  have hsmall : m ≤ 2 := hm.there.trans (by decide)
  have hbytes : ∀ m ≤ 2, answerBytes resultRequest.connector.connectorId
      (printedAt resultRequest (oneColumn 2) m) 5 false ≤
        resultRequest.maxResultBytes + sidecarResponseOverheadBytes := by decide +kernel
  exact hbytes m hsmall

theorem four_rows_come_through : (returnedRows resultRequest (oneColumn 4)).length = 4 := by
  have hatMost := (length_rows_le_iff resultRequest_withinBounds (oneColumn 4) 4).mpr
    (Or.inl (by decide))
  have hfit : RowsFit resultRequest (oneColumn 4) 4 := by
    constructor <;> decide +kernel
  have hatLeast := mt (length_rows_le_iff resultRequest_withinBounds (oneColumn 4) 3).mp (by
    rintro (hfew | hunfit)
    · exact absurd hfew (by decide)
    · exact hunfit hfit)
  omega

/-- Four small rows come through, and the answer still counts three. -/
theorem four_rows_counted_as_three :
    resultRequest.WithinBounds ∧
    ¬ TellsTheTruth (oneColumn 4) (mapSidecarResponse (knowsAnswer resultRequest (oneColumn 4) 5)
      resultRequest (executeRealJdbc resultRequest (oneColumn 4) 5)) := by
  obtain ⟨-, -, hrows, hcount, hreturned, -⟩ := mapSidecarResponse_executed
    resultRequest_withinBounds (oneColumn 4) (knowsAnswer_reads resultRequest (oneColumn 4) 5)
  refine ⟨resultRequest_withinBounds, fun htruth => ?_⟩
  have htotal := htruth.total
  rw [hreturned, hrows, hcount, four_rows_come_through] at htotal
  omega

end HobitQueue.Jdbc
