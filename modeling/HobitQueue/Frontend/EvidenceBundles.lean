import HobitQueue.Lib.CappedText
import HobitQueue.Lib.JavaScript
import Mathlib.Data.Rat.Defs

/-!
# Worker evidence bundles

A worker reports what it did as a bundle of evidence: references to its run, its texts, the
files it changed and its validation. A bundle is created from raw values, with texts and lists
under caps, and a bundle that comes from elsewhere is read field by field and created anew.

Texts are sequences of UTF-16 code units: the caps count code units and may cut between the two
units of a character.
-/

namespace HobitQueue.Frontend.EvidenceBundle

open JavaScript TextWords CappedText

/-! ## Values of the language -/

/-- A text as its code units. -/
abbrev Units := List UInt16

def units (s : String) : Units := s.toList.map fun c => UInt16.ofNat c.toNat

/-- White space and line terminators; no unit of a longer character is one. -/
def isBlank (unit : UInt16) : Bool := isWhiteSpace (Char.ofNat unit.toNat)

/-- A number, with the infinities and not-a-number as one. -/
inductive JsNumber where
  | finite (value : ℚ)
  | notFinite
  deriving DecidableEq

inductive Value where
  | undefined | null
  | number (value : JsNumber)
  | text (value : Units)
  | other
  deriving DecidableEq

def Value.ofText : Option Units → Value
  | some value => .text value
  | none => .undefined

/-- A number that may be `null`, where there is one. -/
def Value.ofNumber : Option (Option ℚ) → Value
  | some (some value) => .number (.finite value)
  | some none => .null
  | none => .undefined

/-- `toString` of a count. -/
def decimal (n : ℕ) : Units := (Nat.toDigits 10 n).map fun c => UInt16.ofNat c.toNat

/-! ## Bundles -/

inductive QueueWorkerEvidenceOutcome where
  | completed | notCompleted | failed
  deriving DecidableEq

inductive QueueWorkerValidationStatus where
  | passed | failed | notRun | unknown
  deriving DecidableEq

structure QueueWorkerRunReference where
  completedAt : Option Units
  logReference : Option Units
  providerId : Option Units
  rawProviderSummary : Option Units
  runId : Option Units
  startedAt : Option Units
  workerId : Option Units
  deriving DecidableEq

structure QueueWorkerAttemptReference where
  attemptId : Option Units
  taskId : Units
  deriving DecidableEq

structure QueueWorkerThreadReference where
  providerId : Option Units
  threadId : Option Units
  deriving DecidableEq

structure QueueWorkerFinalReport where
  finalAgentMessage : Option Units
  rawProviderSummary : Option Units
  deriving DecidableEq

structure QueueWorkerChangedFileEvidence where
  additions : Option (Option ℚ)
  deletions : Option (Option ℚ)
  path : Units
  status : Option Units
  truncated : Bool
  deriving DecidableEq

structure QueueWorkerValidationEvidence where
  exitCode : Option (Option ℚ)
  outputPreview : Option Units
  status : QueueWorkerValidationStatus
  summary : Option Units
  deriving DecidableEq

structure QueueWorkerEvidenceSummary where
  changedFileCount : ℕ
  changedFilesLabel : Units
  changedFilesOmittedCount : ℕ
  finalReportLabel : Units
  frontendOnlyLabel : Units
  humanSummary : Units
  logsLabel : Units
  outcomeLabel : Units
  validationLabel : Units
  deriving DecidableEq

/-- What a worker leaves as evidence, bounded. -/
structure QueueWorkerEvidenceBundle where
  attempt : Option QueueWorkerAttemptReference
  attemptId : Option Units
  changedFiles : List QueueWorkerChangedFileEvidence
  changedFilesSummary : Option Units
  completedAt : Option Units
  failure : Option Units
  failureReason : Option Units
  finalAgentMessage : Option Units
  finalReport : Option QueueWorkerFinalReport
  logReference : Option Units
  outcome : QueueWorkerEvidenceOutcome
  providerId : Option Units
  rawProviderSummary : Option Units
  run : Option QueueWorkerRunReference
  runId : Option Units
  startedAt : Option Units
  stuck : Option Units
  stuckReason : Option Units
  summary : QueueWorkerEvidenceSummary
  taskId : Units
  thread : Option QueueWorkerThreadReference
  threadId : Option Units
  validation : Option QueueWorkerValidationEvidence
  validationExitCode : Option (Option ℚ)
  validationOutputPreview : Option Units
  validationStatus : QueueWorkerValidationStatus
  validationSummary : Option Units
  workerId : Option Units
  deriving DecidableEq

/-- A changed file as it is supplied: its path, or a record of which any part may be missing. -/
inductive ChangedFileInput where
  | path (value : Units)
  | file (additions deletions path status : Value)

structure QueueWorkerEvidenceBundleInput where
  attemptId : Value
  changedFiles : Option (List ChangedFileInput)
  changedFilesSummary : Value
  completedAt : Value
  failureReason : Value
  finalAgentMessage : Value
  logReference : Value
  outcome : QueueWorkerEvidenceOutcome
  providerId : Value
  rawProviderSummary : Value
  runId : Value
  startedAt : Value
  stuckReason : Value
  taskId : Units
  threadId : Value
  validationExitCode : Value
  validationOutputPreview : Value
  validationStatus : Option QueueWorkerValidationStatus
  validationSummary : Value
  workerId : Value

/-! ## Caps -/

def maxChangedFiles : ℕ := 20

def maxChangedFilePathChars : ℕ := 240

/-- The texts under a cap. -/
inductive CappedField where
  | changedFilesSummary | finalAgentMessage | logReference | providerSummary | reason
  | validationOutputPreview | validationSummary

def maxTextChars : CappedField → ℕ
  | .changedFilesSummary => 1000
  | .finalAgentMessage => 8000
  | .logReference => 500
  | .providerSummary => 3000
  | .reason => 1000
  | .validationOutputPreview => 3000
  | .validationSummary => 1500

/-- The note of `cappedPreviewText` behind a text of which so many units are omitted. -/
def previewNote (omitted : ℕ) : Units :=
  10 :: (units "[Preview capped: " ++ decimal omitted ++ units " character(s) omitted.]")

def cappedPreviewText (value : Units) (maxChars : ℕ) : Units :=
  cap isBlank previewNote maxChars value

/-- The trimmed text, unless nothing is left of it or the value is no text. -/
def cleanOptionalText : Value → Option Units
  | .text value => if strip isBlank value = [] then none else some (strip isBlank value)
  | _ => none

def cappedOptionalText (value : Value) (field : CappedField) : Option Units :=
  (cleanOptionalText value).map fun cleaned => cappedPreviewText cleaned (maxTextChars field)

def normalizeNullableNumber : Value → Option (Option ℚ)
  | .null => some none
  | .number (.finite value) => some (some value)
  | _ => none

/-! ## Changed files -/

def cleanPath : Value → Units
  | .text value => strip isBlank (replaceChar 9 32 (replaceChar 10 32 (replaceChar 13 32 value)))
  | _ => []

def normalizeChangedFile (value : ChangedFileInput) : Option QueueWorkerChangedFileEvidence :=
  let (additions, deletions, rawPath, status) := match value with
    | .path value => (Value.undefined, Value.undefined, Value.text value, Value.undefined)
    | .file additions deletions path status => (additions, deletions, path, status)
  let cleanedPath := cleanPath rawPath
  if cleanedPath = [] then none
  else
    let truncated := decide (maxChangedFilePathChars < cleanedPath.length)
    some
      { additions := normalizeNullableNumber additions
        deletions := normalizeNullableNumber deletions
        path := if truncated then kept isBlank maxChangedFilePathChars cleanedPath
          else cleanedPath
        status := cleanOptionalText status
        truncated := truncated }

section ChangedFiles

variable (toLowerCase : Units → Units)

instance decidableMemUnits (key : Units) (keys : List Units) : Decidable (key ∈ keys) :=
  List.instDecidableMemOfLawfulBEq key keys

/-- The loop over the files; `seen` holds the keys of the paths that are in the list. -/
def normalizeChangedFilesFrom (seen : List Units) :
    List ChangedFileInput → List QueueWorkerChangedFileEvidence
  | [] => []
  | entry :: files =>
    match normalizeChangedFile entry with
    | none => normalizeChangedFilesFrom seen files
    | some evidence =>
      if toLowerCase evidence.path ∈ seen then normalizeChangedFilesFrom seen files
      else if seen.length + 1 ≥ maxChangedFiles then [evidence]
      else evidence :: normalizeChangedFilesFrom (toLowerCase evidence.path :: seen) files

def normalizeChangedFiles (value : Option (List ChangedFileInput)) :
    List QueueWorkerChangedFileEvidence :=
  normalizeChangedFilesFrom toLowerCase [] (value.getD [])

end ChangedFiles

/-! ## Creation -/

def normalizeValidationStatus (status : Option QueueWorkerValidationStatus)
    (exitCode validationSummary validationOutputPreview : Value) : QueueWorkerValidationStatus :=
  match status, exitCode with
  | some status, _ => status
  | none, .number exitCode => if exitCode = .finite 0 then .passed else .failed
  | none, _ =>
    if (cleanOptionalText validationSummary).isSome ∨
        (cleanOptionalText validationOutputPreview).isSome then .unknown
    else .notRun

def outcomeLabelFor : QueueWorkerEvidenceOutcome → Units
  | .completed => units "Agent completed"
  | .notCompleted => units "Agent did not complete"
  | .failed => units "Agent failed"

def validationLabelFor : QueueWorkerValidationStatus → Units
  | .passed => units "Validation passed"
  | .failed => units "Validation failed"
  | .notRun => units "Validation not run"
  | .unknown => units "Validation available"

def summarizeQueueWorkerEvidenceBundleFields (changedFiles : List QueueWorkerChangedFileEvidence)
    (changedFilesSummary failureReason finalAgentMessage logReference : Option Units)
    (outcome : QueueWorkerEvidenceOutcome) (rawProviderSummary stuckReason : Option Units)
    (validationStatus : QueueWorkerValidationStatus) : QueueWorkerEvidenceSummary :=
  let changedFilesOmittedCount := changedFiles.length - maxChangedFiles
  let changedFileCount := changedFiles.length
  let changedFilesLabel :=
    if 0 < changedFileCount then
      decimal changedFileCount ++ units " changed file" ++
        (if changedFileCount = 1 then [] else units "s")
    else if changedFilesSummary.isSome then units "Changed files summary available"
    else units "No changed files reported"
  let finalReportLabel :=
    if finalAgentMessage.isSome ∨ rawProviderSummary.isSome then units "Final report available"
    else units "Final report missing"
  let logsLabel := if logReference.isSome then units "Logs available" else units "Logs not attached"
  let frontendOnlyLabel := units "Evidence bundle is frontend-only and not durable yet"
  let parts :=
    [outcomeLabelFor outcome, changedFilesLabel, validationLabelFor validationStatus,
      finalReportLabel, logsLabel, frontendOnlyLabel] ++
    ((failureReason <|> stuckReason).map fun reason => units "Reason: " ++ reason).toList
  { changedFileCount, changedFilesLabel, changedFilesOmittedCount, finalReportLabel,
    frontendOnlyLabel
    humanSummary := (units ". ").intercalate parts
    logsLabel
    outcomeLabel := outcomeLabelFor outcome
    validationLabel := validationLabelFor validationStatus }

/-- What a bundle is made of. A cleaned text is not empty, so that one that is there is truthy. -/
structure Parts where
  attemptId : Option Units
  changedFiles : List QueueWorkerChangedFileEvidence
  changedFilesSummary : Option Units
  completedAt : Option Units
  failureReason : Option Units
  finalAgentMessage : Option Units
  logReference : Option Units
  outcome : QueueWorkerEvidenceOutcome
  providerId : Option Units
  rawProviderSummary : Option Units
  runId : Option Units
  startedAt : Option Units
  stuckReason : Option Units
  taskId : Units
  threadId : Option Units
  validationExitCode : Option (Option ℚ)
  validationOutputPreview : Option Units
  validationStatus : QueueWorkerValidationStatus
  validationSummary : Option Units
  workerId : Option Units

/-- The bundle of its parts, each where it stands on its own and in the references. -/
def Parts.bundle (parts : Parts) : QueueWorkerEvidenceBundle :=
  { attempt :=
      if parts.taskId ≠ [] ∨ parts.attemptId.isSome then
        some { attemptId := parts.attemptId, taskId := parts.taskId }
      else none
    attemptId := parts.attemptId
    changedFiles := parts.changedFiles
    changedFilesSummary := parts.changedFilesSummary
    completedAt := parts.completedAt
    failure := parts.failureReason
    failureReason := parts.failureReason
    finalAgentMessage := parts.finalAgentMessage
    finalReport :=
      if parts.finalAgentMessage.isSome ∨ parts.rawProviderSummary.isSome then
        some
          { finalAgentMessage := parts.finalAgentMessage
            rawProviderSummary := parts.rawProviderSummary }
      else none
    logReference := parts.logReference
    outcome := parts.outcome
    providerId := parts.providerId
    rawProviderSummary := parts.rawProviderSummary
    run :=
      if parts.runId.isSome ∨ parts.workerId.isSome ∨ parts.providerId.isSome ∨
          parts.startedAt.isSome ∨ parts.completedAt.isSome ∨ parts.logReference.isSome ∨
          parts.rawProviderSummary.isSome then
        some
          { completedAt := parts.completedAt
            logReference := parts.logReference
            providerId := parts.providerId
            rawProviderSummary := parts.rawProviderSummary
            runId := parts.runId
            startedAt := parts.startedAt
            workerId := parts.workerId }
      else none
    runId := parts.runId
    startedAt := parts.startedAt
    stuck := parts.stuckReason
    stuckReason := parts.stuckReason
    summary := summarizeQueueWorkerEvidenceBundleFields parts.changedFiles
      parts.changedFilesSummary parts.failureReason parts.finalAgentMessage parts.logReference
      parts.outcome parts.rawProviderSummary parts.stuckReason parts.validationStatus
    taskId := parts.taskId
    thread :=
      if parts.threadId.isSome ∨ parts.providerId.isSome then
        some { providerId := parts.providerId, threadId := parts.threadId }
      else none
    threadId := parts.threadId
    validation :=
      if parts.validationStatus ≠ .notRun ∨ parts.validationSummary.isSome ∨
          parts.validationOutputPreview.isSome ∨ parts.validationExitCode.isSome then
        some
          { exitCode := parts.validationExitCode
            outputPreview := parts.validationOutputPreview
            status := parts.validationStatus
            summary := parts.validationSummary }
      else none
    validationExitCode := parts.validationExitCode
    validationOutputPreview := parts.validationOutputPreview
    validationStatus := parts.validationStatus
    validationSummary := parts.validationSummary
    workerId := parts.workerId }

section Creation

variable (toLowerCase : Units → Units)

/-- The fields of a bundle, cleaned and capped. -/
def partsOf (input : QueueWorkerEvidenceBundleInput) : Parts :=
  { attemptId := cleanOptionalText input.attemptId
    changedFiles := normalizeChangedFiles toLowerCase input.changedFiles
    changedFilesSummary := cappedOptionalText input.changedFilesSummary .changedFilesSummary
    completedAt := cleanOptionalText input.completedAt
    failureReason := cappedOptionalText input.failureReason .reason
    finalAgentMessage := cappedOptionalText input.finalAgentMessage .finalAgentMessage
    logReference := cappedOptionalText input.logReference .logReference
    outcome := input.outcome
    providerId := cleanOptionalText input.providerId
    rawProviderSummary := cappedOptionalText input.rawProviderSummary .providerSummary
    runId := cleanOptionalText input.runId
    startedAt := cleanOptionalText input.startedAt
    stuckReason := cappedOptionalText input.stuckReason .reason
    taskId := (cleanOptionalText (.text input.taskId)).getD []
    threadId := cleanOptionalText input.threadId
    validationExitCode := normalizeNullableNumber input.validationExitCode
    validationOutputPreview :=
      cappedOptionalText input.validationOutputPreview .validationOutputPreview
    validationStatus := normalizeValidationStatus input.validationStatus input.validationExitCode
      input.validationSummary input.validationOutputPreview
    validationSummary := cappedOptionalText input.validationSummary .validationSummary
    workerId := cleanOptionalText input.workerId }

/-- A bundle from raw values. -/
def createQueueWorkerEvidenceBundle (input : QueueWorkerEvidenceBundleInput) :
    QueueWorkerEvidenceBundle :=
  (partsOf toLowerCase input).bundle

end Creation

/-! ## Values of unknown shape -/

inductive UnknownFile where
  | text (value : Units)
  | record (additions deletions path status : Value)
  | other

/-- The members of a record that are read, `undefined` where they are missing; `changedFiles` is
none where it is no array. -/
structure UnknownEvidence where
  attemptId : Value
  changedFiles : Option (List UnknownFile)
  changedFilesSummary : Value
  completedAt : Value
  failureReason : Value
  finalAgentMessage : Value
  logReference : Value
  outcome : Value
  providerId : Value
  rawProviderSummary : Value
  runId : Value
  startedAt : Value
  stuckReason : Value
  taskId : Value
  threadId : Value
  validationExitCode : Value
  validationOutputPreview : Value
  validationStatus : Value
  validationSummary : Value
  workerId : Value

def QueueWorkerEvidenceOutcome.text : QueueWorkerEvidenceOutcome → Units
  | completed => units "completed"
  | notCompleted => units "not_completed"
  | failed => units "failed"

def QueueWorkerValidationStatus.text : QueueWorkerValidationStatus → Units
  | passed => units "passed"
  | failed => units "failed"
  | notRun => units "not_run"
  | unknown => units "unknown"

/-- The outcome with a text, where `isQueueWorkerEvidenceOutcome` holds of it. -/
def outcomeOf (value : Units) : Option QueueWorkerEvidenceOutcome :=
  if value = units "completed" then some .completed
  else if value = units "not_completed" then some .notCompleted
  else if value = units "failed" then some .failed
  else none

def normalizeUnknownValidationStatus : Value → Option QueueWorkerValidationStatus
  | .text value =>
    if value = units "passed" then some .passed
    else if value = units "failed" then some .failed
    else if value = units "not_run" then some .notRun
    else if value = units "unknown" then some .unknown
    else none
  | _ => none

def QueueWorkerChangedFileEvidence.asUnknown (file : QueueWorkerChangedFileEvidence) :
    UnknownFile :=
  .record (.ofNumber file.additions) (.ofNumber file.deletions) (.text file.path)
    (.ofText file.status)

/-- A bundle as the record it is. -/
def QueueWorkerEvidenceBundle.asUnknown (bundle : QueueWorkerEvidenceBundle) : UnknownEvidence :=
  { attemptId := .ofText bundle.attemptId
    changedFiles := some (bundle.changedFiles.map QueueWorkerChangedFileEvidence.asUnknown)
    changedFilesSummary := .ofText bundle.changedFilesSummary
    completedAt := .ofText bundle.completedAt
    failureReason := .ofText bundle.failureReason
    finalAgentMessage := .ofText bundle.finalAgentMessage
    logReference := .ofText bundle.logReference
    outcome := .text bundle.outcome.text
    providerId := .ofText bundle.providerId
    rawProviderSummary := .ofText bundle.rawProviderSummary
    runId := .ofText bundle.runId
    startedAt := .ofText bundle.startedAt
    stuckReason := .ofText bundle.stuckReason
    taskId := .text bundle.taskId
    threadId := .ofText bundle.threadId
    validationExitCode := .ofNumber bundle.validationExitCode
    validationOutputPreview := .ofText bundle.validationOutputPreview
    validationStatus := .text bundle.validationStatus.text
    validationSummary := .ofText bundle.validationSummary
    workerId := .ofText bundle.workerId }

/-! ## Validation -/

/-- An accepted bundle has no reasons against it. -/
inductive QueueWorkerEvidenceBundleValidationResult where
  | accepted (bundle : QueueWorkerEvidenceBundle) (missingFields : List String)
  | rejected (bundle : Option QueueWorkerEvidenceBundle) (missingFields reasons : List String)
  deriving DecidableEq

structure QueueWorkerEvidenceValidationOptions where
  expectedAttemptId : Option Units
  expectedTaskId : Option Units

def outcomeText (value : Value) : Units :=
  match value with
  | .text value => value
  | _ => []

def getEvidenceBundleMissingFields (value : UnknownEvidence) : List String :=
  (if (cleanOptionalText value.taskId).isNone then ["taskId"] else []) ++
  match outcomeOf (outcomeText value.outcome) with
  | none => ["outcome"]
  | some .completed =>
    if (cleanOptionalText value.finalAgentMessage).isNone ∧
      (cleanOptionalText value.rawProviderSummary).isNone then ["finalAgentMessage"] else []
  | some .failed =>
    if (cleanOptionalText value.failureReason).isNone ∧
      (cleanOptionalText value.finalAgentMessage).isNone then ["failureReason"] else []
  | some .notCompleted =>
    if (cleanOptionalText value.stuckReason).isNone ∧
      (cleanOptionalText value.finalAgentMessage).isNone then ["stuckReason"] else []

/-- `!value` of an optional text. -/
def absent (value : Option Units) : Bool := (value.getD []).isEmpty

/-- An expected id, where there is one, that another id is not. -/
def mismatch (expected : Option Units) (id : Units) : Bool :=
  !absent expected && expected != some id

/-- The check of the outcome is left out: a bundle has one of the three. -/
def validateQueueWorkerEvidenceBundle (bundle : QueueWorkerEvidenceBundle)
    (options : QueueWorkerEvidenceValidationOptions) : QueueWorkerEvidenceBundleValidationResult :=
  let missingFields := getEvidenceBundleMissingFields bundle.asUnknown
  let reasons :=
    (if "taskId" ∈ missingFields then ["Evidence bundle taskId is required."] else []) ++
    (if bundle.outcome = .completed ∧ absent bundle.finalAgentMessage ∧
        absent bundle.rawProviderSummary then
      ["Completed evidence requires a final report."] else []) ++
    (if bundle.outcome = .failed ∧ absent bundle.failureReason ∧
        absent bundle.finalAgentMessage then
      ["Failed evidence requires a failure reason or final report."] else []) ++
    (if bundle.outcome = .notCompleted ∧ absent bundle.stuckReason ∧
        absent bundle.finalAgentMessage then
      ["Not-completed evidence requires a final report or stuck reason."] else []) ++
    (if mismatch options.expectedTaskId bundle.taskId then
      ["Evidence bundle taskId does not match the action input taskId."] else []) ++
    (if !absent bundle.attemptId &&
        mismatch options.expectedAttemptId (bundle.attemptId.getD []) then
      ["Evidence bundle attemptId does not match the action input attemptId."] else [])
  if reasons = [] then .accepted bundle missingFields
  else .rejected (some bundle) missingFields reasons

/-! ## Normalization -/

def normalizeUnknownChangedFileInput (value : Option (List UnknownFile)) : List ChangedFileInput :=
  (value.getD []).filterMap fun
    | .text value => some (.path value)
    | .record additions deletions path status =>
      some (.file (.ofNumber (normalizeNullableNumber additions))
        (.ofNumber (normalizeNullableNumber deletions))
        (.text ((cleanOptionalText path).getD [])) (.ofText (cleanOptionalText status)))
    | .other => none

/-- The input that a value is read as. -/
def unknownInput (value : UnknownEvidence) (outcome : QueueWorkerEvidenceOutcome) :
    QueueWorkerEvidenceBundleInput :=
  { attemptId := .ofText (cleanOptionalText value.attemptId)
    changedFiles := some (normalizeUnknownChangedFileInput value.changedFiles)
    changedFilesSummary := .ofText (cleanOptionalText value.changedFilesSummary)
    completedAt := .ofText (cleanOptionalText value.completedAt)
    failureReason := .ofText (cleanOptionalText value.failureReason)
    finalAgentMessage := .ofText (cleanOptionalText value.finalAgentMessage)
    logReference := .ofText (cleanOptionalText value.logReference)
    outcome := outcome
    providerId := .ofText (cleanOptionalText value.providerId)
    rawProviderSummary := .ofText (cleanOptionalText value.rawProviderSummary)
    runId := .ofText (cleanOptionalText value.runId)
    startedAt := .ofText (cleanOptionalText value.startedAt)
    stuckReason := .ofText (cleanOptionalText value.stuckReason)
    taskId := (cleanOptionalText value.taskId).getD []
    threadId := .ofText (cleanOptionalText value.threadId)
    validationExitCode := .ofNumber (normalizeNullableNumber value.validationExitCode)
    validationOutputPreview := .ofText (cleanOptionalText value.validationOutputPreview)
    validationStatus := normalizeUnknownValidationStatus value.validationStatus
    validationSummary := .ofText (cleanOptionalText value.validationSummary)
    workerId := .ofText (cleanOptionalText value.workerId) }

/-- None is a value that is no record. -/
def normalizeQueueWorkerEvidenceBundle (toLowerCase : Units → Units)
    (value : Option UnknownEvidence) (options : QueueWorkerEvidenceValidationOptions) :
    QueueWorkerEvidenceBundleValidationResult :=
  match value with
  | none =>
    .rejected none ["evidenceBundle"] ["Evidence bundle must be a structured object."]
  | some value =>
    let missingFields := getEvidenceBundleMissingFields value
    let outcome := outcomeOf (outcomeText value.outcome)
    let taskId := cleanOptionalText value.taskId
    let attemptId := cleanOptionalText value.attemptId
    let reasons :=
      (if outcome.isNone then
        ["Evidence bundle outcome must be completed, not_completed, or failed."] else []) ++
      (if "taskId" ∈ missingFields then ["Evidence bundle taskId is required."] else []) ++
      (if taskId.isSome && mismatch options.expectedTaskId (taskId.getD []) then
        ["Evidence bundle taskId does not match the action input taskId."] else []) ++
      (if attemptId.isSome && mismatch options.expectedAttemptId (attemptId.getD []) then
        ["Evidence bundle attemptId does not match the action input attemptId."] else [])
    match outcome, reasons with
    | some outcome, [] =>
      validateQueueWorkerEvidenceBundle
        (createQueueWorkerEvidenceBundle toLowerCase (unknownInput value outcome)) options
    | _, reasons => .rejected none missingFields reasons

end HobitQueue.Frontend.EvidenceBundle
