import HobitQueue.Lib.CanonicalJson

/-!
# Requests to the JDBC sidecar

The backend writes a read-only query as one JSON object on the standard input of the sidecar.
-/

namespace HobitQueue.Jdbc

def sidecarProtocolVersion : ℕ := 1

def maxRowLimit : ℕ := 100

def maxTimeoutMs : ℕ := 10000

/-- `MAX_COLUMNS`, the bound of the field of that name. -/
def maxColumnsBound : ℕ := 50

def maxCellCharsBound : ℕ := 2000

def maxResultBytesBound : ℕ := 256 * 1024

structure JdbcSidecarRuntimeConfig where
  driverKind : String
  runtimeKind : String
  driverJarPath : Option String
  driverClassName : Option String
  jdbcUrl : Option String
  username : Option String
  credentialEnvVarName : Option String

inductive JdbcConnectorRuntimeConfig where
  | mockOnly
  | notConfigured
  | unsupportedDriver (driverKind : String)
  | sidecar (config : JdbcSidecarRuntimeConfig)

structure JdbcReadOnlyRuntimeConnector where
  connectorId : String
  displayName : String
  databaseKind : String
  driverKind : String
  runtimeConfig : JdbcConnectorRuntimeConfig

structure JdbcReadOnlySqlValidationSummary where
  isValid : Bool
  statementKind : Option String
  normalizedPreview : String
  rejectionReason : Option String
  safetyNotes : List String
  deriving DecidableEq

/-- A query that passed the checks of the backend. -/
structure JdbcReadOnlyAdapterRequest where
  connector : JdbcReadOnlyRuntimeConnector
  sql : String
  rowLimit : ℕ
  timeoutMs : ℕ
  maxColumns : ℕ
  maxCellChars : ℕ
  maxResultBytes : ℕ
  validation : JdbcReadOnlySqlValidationSummary

/-- The limits that the normalization of an input leaves. -/
structure JdbcReadOnlyAdapterRequest.WithinBounds (request : JdbcReadOnlyAdapterRequest) :
    Prop where
  rowLimit : 1 ≤ request.rowLimit ∧ request.rowLimit ≤ maxRowLimit
  timeoutMs : 1 ≤ request.timeoutMs ∧ request.timeoutMs ≤ maxTimeoutMs
  maxColumns : 1 ≤ request.maxColumns ∧ request.maxColumns ≤ maxColumnsBound
  maxCellChars : 1 ≤ request.maxCellChars ∧ request.maxCellChars ≤ maxCellCharsBound
  maxResultBytes : 1 ≤ request.maxResultBytes ∧ request.maxResultBytes ≤ maxResultBytesBound

/-- A value that a request writes. -/
inductive FieldValue where
  | text (s : String)
  | integer (n : ℕ)
  | boolean (b : Bool)
  | null

def FieldValue.json : FieldValue → Json
  | text s => .str s
  | integer n => .num (toString n)
  | boolean b => .bool b
  | null => .null

def FieldValue.optional : Option String → FieldValue
  | some s => text s
  | none => null

def sidecarRuntimeKind : JdbcConnectorRuntimeConfig → String
  | .sidecar config => config.runtimeKind
  | _ => "mock_read_only"

/-- A field that is written when there is a value. -/
def insertOptional (key : String) (value : Option String) : List (String × FieldValue) :=
  match value with
  | some value => [(key, .text value)]
  | none => []

/-- The fields of a real connection. -/
def realJdbcFields : JdbcConnectorRuntimeConfig → List (String × FieldValue)
  | .sidecar config =>
    if config.runtimeKind = "real_jdbc" then
      [("request", .text "executeReadOnlyQuery"),
        ("read_only", .boolean true),
        ("allow_multi_statement", .boolean false),
        ("allow_stored_procedures", .boolean false)] ++
      insertOptional "driver_jar_path" config.driverJarPath ++
      insertOptional "driver_class_name" config.driverClassName ++
      insertOptional "jdbc_url" config.jdbcUrl ++
      insertOptional "username" config.username ++
      insertOptional "credential_env_var_name" config.credentialEnvVarName
    else []
  | _ => []

/-- The fields that are written, in the order of the source. -/
def sidecarRequestFields (request : JdbcReadOnlyAdapterRequest) : List (String × FieldValue) :=
  [("protocol_version", .integer sidecarProtocolVersion),
    ("request_id", .text request.connector.connectorId),
    ("runtime_kind", .text (sidecarRuntimeKind request.connector.runtimeConfig)),
    ("connector_id", .text request.connector.connectorId),
    ("database_kind", .text request.connector.databaseKind),
    ("driver_kind", .text request.connector.driverKind),
    ("statement_kind", .optional request.validation.statementKind),
    ("validated_read_only", .boolean request.validation.isValid),
    ("sql", .text request.sql),
    ("row_limit", .integer request.rowLimit),
    ("timeout_ms", .integer request.timeoutMs),
    ("max_columns", .integer request.maxColumns),
    ("max_cell_chars", .integer request.maxCellChars),
    ("max_result_bytes", .integer request.maxResultBytes)] ++
  realJdbcFields request.connector.runtimeConfig

/-- The text on the standard input of the sidecar. -/
def buildSidecarRequestJson (request : JdbcReadOnlyAdapterRequest) : String :=
  (Json.obj ((sidecarRequestFields request).map fun entry =>
    (entry.1, entry.2.json))).canonicalString

/-! ## The keys and the integers of a request -/

/-- The keys of a real connection. -/
def realJdbcKeys : List String :=
  ["request", "read_only", "allow_multi_statement", "allow_stored_procedures", "driver_jar_path",
    "driver_class_name", "jdbc_url", "username", "credential_env_var_name"]

/-- The keys that every request writes. -/
def requestKeys : List String :=
  ["protocol_version", "request_id", "runtime_kind", "connector_id", "database_kind",
    "driver_kind", "statement_kind", "validated_read_only", "sql", "row_limit", "timeout_ms",
    "max_columns", "max_cell_chars", "max_result_bytes"]

theorem keys_insertOptional (key : String) (value : Option String) :
    ((insertOptional key value).map Prod.fst).Sublist [key] := by
  cases value with
  | none => exact List.nil_sublist _
  | some value => exact List.Sublist.refl _

theorem keys_realJdbcFields (config : JdbcConnectorRuntimeConfig) :
    ((realJdbcFields config).map Prod.fst).Sublist realJdbcKeys := by
  cases config with
  | sidecar config =>
    by_cases hreal : config.runtimeKind = "real_jdbc"
    · simp only [realJdbcFields, if_pos hreal, List.map_append]
      exact ((((((List.Sublist.refl _).append (keys_insertOptional _ _)).append
        (keys_insertOptional _ _)).append (keys_insertOptional _ _)).append
        (keys_insertOptional _ _)).append (keys_insertOptional _ _))
    · simp [realJdbcFields, hreal]
  | mockOnly => exact List.nil_sublist _
  | notConfigured => exact List.nil_sublist _
  | unsupportedDriver driverKind => exact List.nil_sublist _

/-- The keys of a request are among the known ones, in their order. -/
theorem keys_sidecarRequestFields (request : JdbcReadOnlyAdapterRequest) :
    ((sidecarRequestFields request).map Prod.fst).Sublist (requestKeys ++ realJdbcKeys) := by
  simp only [sidecarRequestFields, List.map_append]
  exact (List.Sublist.refl requestKeys).append (keys_realJdbcFields _)

end HobitQueue.Jdbc
