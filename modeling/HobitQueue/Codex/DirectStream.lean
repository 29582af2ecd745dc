import HobitQueue.Codex.LightweightJson
import HobitQueue.Lib.Run
import HobitQueue.Lib.Utf8
import Mathlib.Data.List.Infix

/-!
# One streamed run of the agent

A run starts the agent as a child process. Two threads read its output and send every line to
one channel; the run receives from the channel, polls the child after each attempt, and ends
when the child has ended and both readers are done. Which reader is heard next, how long an
attempt waits and when the child ends is up to the environment: each turn of the loop says it.
-/

namespace HobitQueue.Codex

/-! ## Requests and events -/

inductive CodexSandboxMode where
  | readOnly | workspaceWrite | dangerFullAccess

def CodexSandboxMode.asCliArg : CodexSandboxMode → String
  | readOnly => "read-only"
  | workspaceWrite => "workspace-write"
  | dangerFullAccess => "danger-full-access"

inductive CodexApprovalPolicy where
  | never | onRequest | untrusted

def CodexApprovalPolicy.asCliArg : CodexApprovalPolicy → String
  | never => "never"
  | onRequest => "on-request"
  | untrusted => "untrusted"

structure CodexDirectStreamRequest where
  program : Option String
  repoRoot : String
  prompt : String
  resumeThreadId : Option String
  sandbox : CodexSandboxMode
  approvalPolicy : CodexApprovalPolicy
  skipGitRepoCheck : Bool
  timeoutMs : Option ℕ
  stdoutCapBytes : Option ℕ
  stderrCapBytes : Option ℕ
  outputLastMessagePath : Option String

inductive CodexDirectStreamStatus where
  | completed | failedToStart | timedOut | failed | cancelled
  deriving DecidableEq

def CodexDirectStreamStatus.asStr : CodexDirectStreamStatus → String
  | completed => "completed"
  | failedToStart => "failed_to_start"
  | timedOut => "timed_out"
  | failed => "failed"
  | cancelled => "cancelled"

inductive CodexDirectStreamEventKind where
  | started | stdoutLine | stderrLine | codexJsonEvent | finalMessage | completed | failed
  | timedOut | cancelled
  deriving DecidableEq

structure CodexDirectStreamEvent where
  kind : CodexDirectStreamEventKind
  elapsedMs : ℕ
  line : Option String := none
  text : Option String := none
  parsedJson : Option String := none
  errorMessage : Option String := none
  stderrPreview : Option String := none
  exitCode : Option ℤ := none
  finalStatus : Option String := none
  failedStage : Option String := none

structure CodexDirectStreamOutput where
  status : CodexDirectStreamStatus
  exitCode : Option ℤ
  finalMessage : Option String
  stdoutCollected : String
  stderrCollected : String
  stdoutTruncated : Bool
  stderrTruncated : Bool
  durationMs : ℕ
  errorMessage : Option String
  commandSummary : List String
  eventCount : ℕ
  forceKilled : Bool

def defaultCodexCliProgram : String := "codex"

def defaultCodexDirectRunTimeoutMs : ℕ := 10 * 60 * 1000

def defaultCodexDirectRunStdoutCapBytes : ℕ := 256 * 1024

def defaultCodexDirectRunStderrCapBytes : ℕ := 128 * 1024

/-! ## Readers -/

inductive StreamKind where
  | stdout | stderr
  deriving DecidableEq

inductive ReaderMessage where
  | line (stream : StreamKind) (line : String)
  | error (stream : StreamKind) (message : String)
  | done (stream : StreamKind)
  deriving DecidableEq

/-- What a reader sends before it is done, for the results of its reads: a line for each
buffer, and at the first error no more. -/
def readStreamLines (stream : StreamKind) : List (Except String (List UInt8)) → List ReaderMessage
  | [] => []
  | .ok buffer :: rest => .line stream (Utf8.fromLossy buffer) :: readStreamLines stream rest
  | .error error :: _ => [.error stream ("could not read process output: " ++ error)]

/-- A reader thread: the results of its reads, and where it dies when it does. -/
structure LineReader where
  reads : List (Except String (List UInt8))
  diesAfter : Option ℕ

/-- All that a reader sends. A reader that dies hangs up without a last message. -/
def LineReader.messages (reader : LineReader) (stream : StreamKind) : List ReaderMessage :=
  match reader.diesAfter with
  | none => readStreamLines stream reader.reads ++ [.done stream]
  | some sent => (readStreamLines stream reader.reads).take sent

/-- The error of the join overwrites that of the reads. -/
def joinLineReader (reader : LineReader) (stream : StreamKind) (readerError : Option String) :
    Option String :=
  if reader.diesAfter.isSome then
    some ("process " ++ (match stream with | .stdout => "stdout" | .stderr => "stderr") ++
      " reader failed")
  else readerError

structure CappedOutput where
  bytes : List UInt8 := []
  truncated : Bool := false

/-- The captured part of an output. -/
def CappedOutput.append (output : CappedOutput) (text : String) (capBytes : ℕ) : CappedOutput :=
  let bytes := Utf8.bytes text
  let remaining := capBytes - output.bytes.length
  { bytes := if 0 < remaining then output.bytes ++ bytes.take (min remaining bytes.length)
      else output.bytes
    truncated := output.truncated || decide (remaining < bytes.length) }

def CappedOutput.intoParts (output : CappedOutput) : String × Bool :=
  (Utf8.fromLossy output.bytes, output.truncated)

/-- The line without the line ends after it. -/
def streamEventLine (line : String) : String :=
  String.ofList (line.toList.rdropWhile fun c => c == '\r' || c == '\n')

/-! ## The loop -/

/-- Whom an attempt to receive hears. -/
inductive Arrival where
  | stdout | stderr | hangup | nobody
  deriving DecidableEq

inductive ChildWait where
  | exited (code : Option ℤ)
  | running
  | failed (error : String)

/-- What the environment decides in one turn of the loop. -/
structure Turn where
  arrival : Arrival
  receivedMs : ℕ
  wait : ChildWait
  forceKillRequested : Bool
  cancellationRequested : Bool
  elapsedMs : ℕ

/-- The state of the loop over both streams. -/
structure DirectStreamLoop where
  /-- What the readers have not been heard to send. -/
  pendingStdout : List ReaderMessage
  pendingStderr : List ReaderMessage
  events : List CodexDirectStreamEvent
  eventCount : ℕ
  stdoutCollected : CappedOutput := {}
  stderrCollected : CappedOutput := {}
  stdoutDone : Bool := false
  stderrDone : Bool := false
  stdoutReaderError : Option String := none
  stderrReaderError : Option String := none
  childFinished : Bool := false
  timedOut : Bool := false
  cancelled : Bool := false
  forceKilled : Bool := false
  waitError : Option String := none
  exitCode : Option ℤ := none

namespace DirectStreamLoop

def emitEvent (s : DirectStreamLoop) (event : CodexDirectStreamEvent) : DirectStreamLoop :=
  { s with events := s.events ++ [event], eventCount := s.eventCount + 1 }

/-- The event of one line. -/
def lineEvent (stream : StreamKind) (elapsedMs : ℕ) (line : String) : CodexDirectStreamEvent :=
  let eventLine := streamEventLine line
  match stream with
  | .stdout =>
    match parseLightweightJsonLine eventLine with
    | some parsedJson =>
      { kind := .codexJsonEvent, elapsedMs, line := some eventLine, parsedJson := some parsedJson }
    | none => { kind := .stdoutLine, elapsedMs, line := some eventLine }
  | .stderr => { kind := .stderrLine, elapsedMs, line := some eventLine }

/-- The limits of a run. -/
structure Limits where
  stdoutCapBytes : ℕ
  stderrCapBytes : ℕ
  timeoutMs : ℕ

def handleReaderMessage (limits : Limits) (elapsedMs : ℕ) (s : DirectStreamLoop) :
    ReaderMessage → DirectStreamLoop
  | .line .stdout line =>
    { s with stdoutCollected := s.stdoutCollected.append line limits.stdoutCapBytes }.emitEvent
      (lineEvent .stdout elapsedMs line)
  | .line .stderr line =>
    { s with stderrCollected := s.stderrCollected.append line limits.stderrCapBytes }.emitEvent
      (lineEvent .stderr elapsedMs line)
  | .error .stdout message => { s with stdoutReaderError := some message }
  | .error .stderr message => { s with stderrReaderError := some message }
  | .done .stdout => { s with stdoutDone := true }
  | .done .stderr => { s with stderrDone := true }

/-- `receiver.recv_timeout`: messages of one reader come in its order, and the channel is
disconnected when both readers are gone and everything was received. -/
def receive (limits : Limits) (turn : Turn) (s : DirectStreamLoop) : DirectStreamLoop :=
  match turn.arrival, s.pendingStdout, s.pendingStderr with
  | .stdout, message :: rest, _ =>
    handleReaderMessage limits turn.receivedMs { s with pendingStdout := rest } message
  | .stderr, _, message :: rest =>
    handleReaderMessage limits turn.receivedMs { s with pendingStderr := rest } message
  | .hangup, [], [] => { s with stdoutDone := true, stderrDone := true }
  | _, _, _ => s

def pollChild (limits : Limits) (turn : Turn) (s : DirectStreamLoop) : DirectStreamLoop :=
  if s.childFinished then s
  else
    match turn.wait with
    | .exited code => { s with exitCode := code, childFinished := true }
    | .running =>
      if turn.forceKillRequested then
        { s with forceKilled := true, cancelled := true, childFinished := true }
      else if turn.cancellationRequested then { s with cancelled := true, childFinished := true }
      else if limits.timeoutMs ≤ turn.elapsedMs then
        { s with timedOut := true, childFinished := true }
      else s
    | .failed error =>
      { s with
        waitError := some ("could not wait for codex exec: " ++ error), childFinished := true }

/-- The loop has ended. -/
def finished (s : DirectStreamLoop) : Bool := s.childFinished && s.stdoutDone && s.stderrDone

/-- One turn; nothing happens after the end. -/
def turn (limits : Limits) (s : DirectStreamLoop) (turn : Turn) : DirectStreamLoop :=
  if s.finished then s else pollChild limits turn (receive limits turn s)

end DirectStreamLoop

/-! ## The end of a run -/

def directStreamStatus (cancelled timedOut : Bool) (waitError : Option String)
    (exitCode : Option ℤ) : CodexDirectStreamStatus :=
  if cancelled then .cancelled
  else if timedOut then .timedOut
  else if waitError.isSome then .failedToStart
  else if exitCode = some 0 then .completed
  else .failed

def trustedDirectoryError : String :=
  "Not inside a trusted directory and --skip-git-repo-check was not specified"

def trustedDirectoryActionableError : String :=
  "Codex refused this directory. Coordinator Direct Mode should run with skip git repo check " ++
    "or choose a trusted Git project."

/-- Up to three lines of an output that are not blank, in one line. -/
def compactOutputDetail (output : String) : Option String :=
  let lines := ((output.toList.splitOn '\n').map fun line => Text.trim (String.ofList line)).filter
    (· ≠ "")
  let detail := " ".intercalate (lines.take 3)
  if detail = "" then none else some detail

/-- Why a run did not complete. -/
def directStreamErrorMessage (status : CodexDirectStreamStatus) (exitCode : Option ℤ)
    (stderr stdout : String) : Option String :=
  match status with
  | .completed => none
  | .failed =>
    let message := match exitCode with
      | some exitCode => "codex exec --json exited with code " ++ toString exitCode
      | none => "codex exec --json exited without an exit code"
    match compactOutputDetail stderr, compactOutputDetail stdout with
    | some detail, _ =>
      some (message ++ ": stderr: " ++
        (if trustedDirectoryError.toList <:+: detail.toList then
          trustedDirectoryActionableError ++ " stderr: " else "") ++ detail)
    | none, some detail => some (message ++ ": stdout: " ++ detail)
    | none, none => some message
  | .failedToStart => some "could not start codex exec --json"
  | .timedOut => some "codex exec --json timed out and was killed"
  | .cancelled => some "codex exec --json cancelled by operator request"

def finalStderrEventPreviewLimit : ℕ := 2000

def tailPreview (value : String) (limit : ℕ) : String :=
  if value.length ≤ limit then value
  else "[stderr preview truncated]\n" ++
    String.ofList (value.toList.drop (value.length - limit))

def finalStderrPreview (status : CodexDirectStreamStatus) (stderr : String) : Option String :=
  if status = .completed ∨ status = .cancelled ∨ Text.trim stderr = "" then none
  else some (tailPreview stderr finalStderrEventPreviewLimit)

def failedStage : CodexDirectStreamStatus → Option String
  | .completed | .cancelled => none
  | .failedToStart => some "process_start"
  | .timedOut => some "codex_stream"
  | .failed => some "codex_exit"

def combineOptionalMessages (messages : List (Option String)) : Option String :=
  let messages := messages.filterMap id
  if messages = [] then none else some ("; ".intercalate messages)

/-! ## The whole run -/

/-- What a spawned child offers, and what became of the prompt. -/
structure SpawnedChild where
  stdoutCaptured : Bool
  stderrCaptured : Bool
  writtenPrompt : Except String Unit

/-- The rest of the environment: the file system, the start of the process, its readers, and
the clock. -/
structure RunEnvironment where
  exists_ : String → Bool
  isDir : String → Bool
  resolveCodexExecutable : String → Except String String
  codexLaunchCommand : String → List String → String × List String
  uniqueOutputLastMessagePath : String
  spawn : String × List String → Except String SpawnedChild
  stdoutReader : LineReader
  stderrReader : LineReader
  readFinalMessage : String → Except String String
  startedMs : ℕ
  finalMessageMs : ℕ
  finalStatusMs : ℕ
  durationMs : ℕ

def validateRepoRoot (env : RunEnvironment) (repoRoot : String) : Option String :=
  if repoRoot = "" then some "repo_root must be explicit"
  else if !env.exists_ repoRoot then
    some ("repo_root must exist and be a directory: " ++ repoRoot)
  else if !env.isDir repoRoot then some ("repo_root must be a directory: " ++ repoRoot)
  else none

def normalizedResumeThreadId (threadId : Option String) : Option String :=
  threadId.bind Text.trimmedNonEmpty

def buildCodexExecJsonArgs (request : CodexDirectStreamRequest) (outputLastMessagePath : String) :
    List String :=
  ["--cd", request.repoRoot, "--sandbox", request.sandbox.asCliArg, "--ask-for-approval",
    request.approvalPolicy.asCliArg, "exec"] ++
  ((normalizedResumeThreadId request.resumeThreadId).map fun id => ["resume", id]).getD [] ++
  (if request.skipGitRepoCheck then ["--skip-git-repo-check"] else []) ++
  ["--json", "--output-last-message", outputLastMessagePath]

def safeCommandSummary (launch : String × List String) : List String :=
  launch.1 :: launch.2 ++ ["<operator-prompt-stdin>"]

def isWindowsBadExeFormatMessage (message : String) : Bool :=
  let lower := message.toList.map Char.toLower
  "os error 193".toList <:+: lower || "not a valid win32 application".toList <:+: lower

def actionableCodexLaunchError (message : String) : String :=
  if isWindowsBadExeFormatMessage message then
    message ++ ". Could not launch Codex CLI. On Windows, try codex.cmd or check that Codex is " ++
      "installed and available on PATH."
  else message

/-- A request that was turned down: why, and the command as far as it was known. -/
structure Rejection where
  message : String
  commandSummary : List String

/-- A run whose prompt was delivered. -/
structure DeliveredRun where
  outputLastMessagePath : String
  commandSummary : List String

/-- Everything that comes before the loop. -/
def startRun (request : CodexDirectStreamRequest) (env : RunEnvironment) :
    Except Rejection DeliveredRun :=
  let program := Text.trim (request.program.getD defaultCodexCliProgram)
  if program = "" then .error ⟨"program must not be empty", []⟩
  else match validateRepoRoot env request.repoRoot with
  | some message => .error ⟨message, []⟩
  | none =>
    if Text.trim request.prompt = "" then .error ⟨"prompt must not be empty", []⟩
    else if request.timeoutMs = some 0 then .error ⟨"timeout_ms must be greater than zero", []⟩
    else match env.resolveCodexExecutable program with
    | .error message => .error ⟨message, []⟩
    | .ok resolved =>
      let path := request.outputLastMessagePath.getD env.uniqueOutputLastMessagePath
      let launch := env.codexLaunchCommand resolved (buildCodexExecJsonArgs request path)
      let summary := safeCommandSummary launch
      match env.spawn launch with
      | .error error =>
        .error ⟨actionableCodexLaunchError ("could not start codex exec: " ++ error), summary⟩
      | .ok child =>
        if !child.stdoutCaptured then .error ⟨"could not capture process stdout", summary⟩
        else if !child.stderrCaptured then .error ⟨"could not capture process stderr", summary⟩
        else match child.writtenPrompt with
        | .error message =>
          .error ⟨"could not write operator prompt to codex stdin: " ++ message, summary⟩
        | .ok () => .ok ⟨path, summary⟩

/-- The one event and the output of a run that was turned down. -/
def rejectedRequest (env : RunEnvironment) (rejection : Rejection) :
    List CodexDirectStreamEvent × CodexDirectStreamOutput :=
  ([{ kind := .failed
      elapsedMs := env.startedMs
      errorMessage := some rejection.message
      finalStatus := some CodexDirectStreamStatus.failedToStart.asStr
      failedStage := failedStage .failedToStart }],
    { status := .failedToStart, exitCode := none, finalMessage := none, stdoutCollected := ""
      stderrCollected := "", stdoutTruncated := false, stderrTruncated := false
      durationMs := env.durationMs, errorMessage := some rejection.message
      commandSummary := rejection.commandSummary, eventCount := 1, forceKilled := false })

def CodexDirectStreamRequest.limits (request : CodexDirectStreamRequest) :
    DirectStreamLoop.Limits :=
  { stdoutCapBytes := request.stdoutCapBytes.getD defaultCodexDirectRunStdoutCapBytes
    stderrCapBytes := request.stderrCapBytes.getD defaultCodexDirectRunStderrCapBytes
    timeoutMs := request.timeoutMs.getD defaultCodexDirectRunTimeoutMs }

/-- The loop before its first turn, with the first event emitted. -/
def startLoop (env : RunEnvironment) : DirectStreamLoop :=
  { pendingStdout := env.stdoutReader.messages .stdout
    pendingStderr := env.stderrReader.messages .stderr
    events := [{ kind := .started, elapsedMs := env.startedMs }]
    eventCount := 1 }

def finalStatusKind : CodexDirectStreamStatus → CodexDirectStreamEventKind
  | .completed => .completed
  | .failedToStart | .failed => .failed
  | .timedOut => .timedOut
  | .cancelled => .cancelled

/-- What comes after the loop. -/
def finishRun (env : RunEnvironment) (run : DeliveredRun) (s : DirectStreamLoop) :
    List CodexDirectStreamEvent × CodexDirectStreamOutput :=
  let stdoutReaderError := joinLineReader env.stdoutReader .stdout s.stdoutReaderError
  let stderrReaderError := joinLineReader env.stderrReader .stderr s.stderrReaderError
  let (stdoutCollected, stdoutTruncated) := s.stdoutCollected.intoParts
  let (stderrCollected, stderrTruncated) := s.stderrCollected.intoParts
  let (finalMessage, finalMessageError) : Option String × Option String :=
    if s.cancelled then (none, none)
    else match env.readFinalMessage run.outputLastMessagePath with
      | .ok message => (some message, none)
      | .error error =>
        (none, some ("could not read final message file " ++ String.ofList [Char.ofNat 96] ++
          run.outputLastMessagePath ++ String.ofList [Char.ofNat 96] ++ ": " ++ error))
  let s := match finalMessage with
    | some message =>
      s.emitEvent { kind := .finalMessage, elapsedMs := env.finalMessageMs, text := some message }
    | none => s
  let status := directStreamStatus s.cancelled s.timedOut s.waitError s.exitCode
  let errorMessage := combineOptionalMessages
    [if s.forceKilled then some "codex exec --json force-killed by operator request"
      else directStreamErrorMessage status s.exitCode stderrCollected stdoutCollected,
      s.waitError, stdoutReaderError, stderrReaderError, finalMessageError]
  let s := s.emitEvent
    { kind := finalStatusKind status
      elapsedMs := env.finalStatusMs
      errorMessage := errorMessage
      stderrPreview := finalStderrPreview status stderrCollected
      exitCode := s.exitCode
      finalStatus := some status.asStr
      failedStage := failedStage status }
  (s.events,
    { status, exitCode := s.exitCode, finalMessage, stdoutCollected, stderrCollected
      stdoutTruncated, stderrTruncated, durationMs := env.durationMs, errorMessage
      commandSummary := run.commandSummary, eventCount := s.eventCount
      forceKilled := s.forceKilled })

/-- The events and the output of a run, once its loop has ended. -/
def runCodexDirectWorkStreaming (request : CodexDirectStreamRequest) (env : RunEnvironment)
    (turns : List Turn) : Option (List CodexDirectStreamEvent × CodexDirectStreamOutput) :=
  match startRun request env with
  | .error rejection => some (rejectedRequest env rejection)
  | .ok run =>
    let s := Machine.after (DirectStreamLoop.turn request.limits) (startLoop env) turns
    if s.finished then some (finishRun env run s) else none

end HobitQueue.Codex
