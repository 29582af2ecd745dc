import HobitQueue.Lib.Utf8
import HobitQueue.Service.Basic
import Mathlib.Data.List.Sort

/-!
# Terminal sessions

The desktop app keeps its terminal sessions in a map behind a lock. A session has a child process
on a pseudo terminal, whose output a reader thread collects in a buffer of a bounded size. Every
method of the manager takes the lock once: it is a function of the map and of what the platform
answers meanwhile.
-/

namespace HobitQueue.TerminalPty

/-! ## The output buffer -/

def defaultCols : ℕ := 80
def defaultRows : ℕ := 24
def defaultOutputBufferCapBytes : ℕ := 64 * 1024
def maxOutputBufferCapBytes : ℕ := 1024 * 1024
def terminalStreamKind : String := "terminal"

/-- The largest word of 64 bits. -/
def wordMax : ℕ := 2 ^ 64 - 1

/-- `saturating_add`. -/
def saturatingAdd (n m : ℕ) : ℕ := min (n + m) wordMax

structure TerminalPtyOutputChunk where
  sequence : ℕ
  streamKind : String
  text : String
  byteLen : ℕ
  deriving DecidableEq, Repr

structure TerminalPtyOutputBuffer where
  chunks : List TerminalPtyOutputChunk := []
  capBytes : ℕ
  totalBufferedBytes : ℕ := 0
  droppedBytes : ℕ := 0
  nextSequence : ℕ := 1
  deriving DecidableEq, Repr

structure TerminalPtyOutputSnapshot where
  chunks : List TerminalPtyOutputChunk
  totalBufferedBytes : ℕ
  droppedBytes : ℕ
  capBytes : ℕ
  deriving DecidableEq, Repr

namespace TerminalPtyOutputBuffer

/-- The oldest chunks go as long as more bytes are buffered than the cap allows. The numbers are
those of the buffered and of the dropped bytes. -/
def popFront (capBytes : ℕ) : List TerminalPtyOutputChunk → ℕ → ℕ →
    List TerminalPtyOutputChunk × ℕ × ℕ
  | [], total, dropped => ([], total, dropped)
  | removed :: chunks, total, dropped =>
    if total > capBytes then
      popFront capBytes chunks (total - removed.byteLen) (saturatingAdd dropped removed.byteLen)
    else (removed :: chunks, total, dropped)

/-- The reader thread hands over a block of output. -/
def push (b : TerminalPtyOutputBuffer) (streamKind : String) (bytes : List UInt8) :
    TerminalPtyOutputBuffer :=
  if b.capBytes = 0 then { b with droppedBytes := saturatingAdd b.droppedBytes bytes.length }
  else
    let droppedBytes :=
      if bytes.length > b.capBytes then
        saturatingAdd b.droppedBytes (bytes.length - b.capBytes)
      else b.droppedBytes
    let storedBytes :=
      if bytes.length > b.capBytes then bytes.drop (bytes.length - b.capBytes) else bytes
    let chunk : TerminalPtyOutputChunk :=
      ⟨b.nextSequence, streamKind, Utf8.fromLossy storedBytes, storedBytes.length⟩
    let rest := popFront b.capBytes (b.chunks ++ [chunk])
      (saturatingAdd b.totalBufferedBytes chunk.byteLen) droppedBytes
    { b with
      chunks := rest.1
      totalBufferedBytes := rest.2.1
      droppedBytes := rest.2.2
      nextSequence := saturatingAdd b.nextSequence 1 }

def snapshot (b : TerminalPtyOutputBuffer) : TerminalPtyOutputSnapshot :=
  ⟨b.chunks, b.totalBufferedBytes, b.droppedBytes, b.capBytes⟩

end TerminalPtyOutputBuffer

/-! ## Sessions -/

inductive TerminalPtySessionStatus where
  | running | stopping | exited | stopped | killed | closed
  deriving DecidableEq, Repr

namespace TerminalPtySessionStatus

def asStr : TerminalPtySessionStatus → String
  | running => "running"
  | stopping => "stopping"
  | exited => "exited"
  | stopped => "stopped"
  | killed => "killed"
  | closed => "closed"

def isActive : TerminalPtySessionStatus → Bool
  | running | stopping => true
  | exited | stopped | killed | closed => false

end TerminalPtySessionStatus

structure TerminalPtySize where
  cols : ℕ
  rows : ℕ
  deriving DecidableEq, Repr

/-- The process and the terminal of a session are with the platform. Whether the session still has
them is all that the manager sees of them. -/
structure TerminalPtySession where
  sessionId : String
  workspaceId : String
  workbenchId : String
  widgetInstanceId : String
  shell : String
  shellArgs : List String
  workingDirectory : String
  size : TerminalPtySize
  status : TerminalPtySessionStatus
  startedAt : String
  endedAt : Option String
  exitCode : Option ℤ
  errorMessage : Option String
  stopRequested : Bool
  output : TerminalPtyOutputBuffer
  hasRuntime : Bool
  deriving DecidableEq, Repr

structure TerminalPtySessionSnapshot where
  sessionId : String
  workspaceId : String
  workbenchId : String
  widgetInstanceId : String
  shell : String
  shellArgs : List String
  workingDirectory : String
  cols : ℕ
  rows : ℕ
  status : String
  startedAt : String
  endedAt : Option String
  exitCode : Option ℤ
  errorMessage : Option String
  output : TerminalPtyOutputSnapshot
  deriving DecidableEq, Repr

structure TerminalPtySessionScope where
  workspaceId : String
  workbenchId : String
  widgetInstanceId : String
  sessionId : String
  deriving DecidableEq, Repr

structure TerminalPtySessionFilter where
  workspaceId : String
  workbenchId : String
  widgetInstanceId : Option String
  deriving DecidableEq, Repr

structure TerminalPtyCreateRequest where
  workspaceId : String
  workbenchId : String
  widgetInstanceId : String
  shell : String
  shellArgs : List String
  workingDirectory : String
  cols : Option ℕ
  rows : Option ℕ
  outputBufferCapBytes : Option ℕ
  deriving DecidableEq, Repr

/-- What the platform answers in the course of one call. The exit codes are those of the processes
of the sessions, and the ranks say in which order the map is walked. -/
structure Platform where
  unixNanos : ℕ
  timestamp : String
  isDir : String → Bool
  defaultTerminalShell : String
  start : Except String Unit
  tryExitCode : String → Except String (Option ℤ)
  writeStdin : Except String Unit
  resize : Except String Unit
  kill : Except String Unit
  rank : String → ℕ

namespace TerminalPtySession

variable (s : TerminalPtySession)

def matchesScope (scope : TerminalPtySessionScope) : Bool :=
  s.workspaceId == scope.workspaceId && s.workbenchId == scope.workbenchId &&
    s.widgetInstanceId == scope.widgetInstanceId

def snapshot : TerminalPtySessionSnapshot where
  sessionId := s.sessionId
  workspaceId := s.workspaceId
  workbenchId := s.workbenchId
  widgetInstanceId := s.widgetInstanceId
  shell := s.shell
  shellArgs := s.shellArgs
  workingDirectory := s.workingDirectory
  cols := s.size.cols
  rows := s.size.rows
  status := s.status.asStr
  startedAt := s.startedAt
  endedAt := s.endedAt
  exitCode := s.exitCode
  errorMessage := s.errorMessage
  output := s.output.snapshot

/-- A session whose process has ended lets go of it. -/
def refreshStatus (p : Platform) : TerminalPtySession :=
  if !s.status.isActive then s
  else if !s.hasRuntime then s
  else
    match p.tryExitCode s.sessionId with
    | .ok (some exitCode) =>
      { s with
        hasRuntime := false
        exitCode := some exitCode
        endedAt := some p.timestamp
        status := if s.stopRequested then .stopped else .exited }
    | .ok none => s
    | .error error => { s with errorMessage := some error }

end TerminalPtySession

def TerminalPtySessionFilter.accepts (filter : TerminalPtySessionFilter)
    (s : TerminalPtySession) : Bool :=
  s.workspaceId == filter.workspaceId && s.workbenchId == filter.workbenchId &&
    filter.widgetInstanceId.all (s.widgetInstanceId == ·)

/-! ## Requests -/

def requiredString (value label : String) : Except String String :=
  if Text.trim value = "" then .error (label ++ " must not be empty") else .ok (Text.trim value)

def normalizeShell (p : Platform) (value : String) : String :=
  if Text.trim value = "" then p.defaultTerminalShell else Text.trim value

def validateSize (cols rows : ℕ) : Except String TerminalPtySize :=
  if cols = 0 then .error "terminal PTY cols must be greater than zero"
  else if rows = 0 then .error "terminal PTY rows must be greater than zero"
  else .ok ⟨cols, rows⟩

def validateBufferCap (capBytes : ℕ) : Except String ℕ :=
  if capBytes > maxOutputBufferCapBytes then
    .error ("terminal PTY output buffer cap must be no greater than " ++
      toString maxOutputBufferCapBytes)
  else .ok capBytes

structure NormalizedTerminalPtyCreateRequest where
  workspaceId : String
  workbenchId : String
  widgetInstanceId : String
  shell : String
  shellArgs : List String
  workingDirectory : String
  size : TerminalPtySize
  outputBufferCapBytes : ℕ
  deriving DecidableEq, Repr

def normalizeCreateRequest (p : Platform) (request : TerminalPtyCreateRequest) :
    Except String NormalizedTerminalPtyCreateRequest := do
  let workspaceId ← requiredString request.workspaceId "workspace id"
  let workbenchId ← requiredString request.workbenchId "workbench id"
  let widgetInstanceId ← requiredString request.widgetInstanceId "widget instance id"
  refuseIf (request.workingDirectory = "") "terminal PTY working directory must not be empty"
  refuseIf (!p.isDir request.workingDirectory)
    ("terminal PTY working directory must be an existing directory: " ++
      request.workingDirectory)
  let size ← validateSize (request.cols.getD defaultCols) (request.rows.getD defaultRows)
  let capBytes ← validateBufferCap (request.outputBufferCapBytes.getD defaultOutputBufferCapBytes)
  pure ⟨workspaceId, workbenchId, widgetInstanceId, normalizeShell p request.shell,
    request.shellArgs, request.workingDirectory, size, capBytes⟩

/-! ## The manager -/

/-- The map of the sessions by their ids, and the counter of all the ids handed out. -/
structure TerminalPtySessionManager where
  sessions : List TerminalPtySession := []
  nextSessionSuffix : ℕ := 1
  deriving DecidableEq, Repr

/-- The answer about one session, if there is a session that the scope names. -/
abbrev SessionAnswer := Except String (Option TerminalPtySessionSnapshot)

/-- The ids end in a counter of 64 bits. -/
def sessionIdOf (unixNanos suffix : ℕ) : String :=
  "tpty_" ++ Nat.repr unixNanos ++ "_" ++ Nat.repr suffix

namespace TerminalPtySessionManager

variable (m : TerminalPtySessionManager) (p : Platform)

/-- `HashMap::get`. -/
def get (sessionId : String) : Option TerminalPtySession :=
  m.sessions.find? (·.sessionId == sessionId)

/-- `HashMap::remove`. -/
def remove (sessionId : String) : TerminalPtySessionManager :=
  { m with sessions := m.sessions.filter (·.sessionId != sessionId) }

/-- `HashMap::insert`, which replaces an entry of the same key. -/
def insert (s : TerminalPtySession) : TerminalPtySessionManager :=
  { m with sessions := (m.remove s.sessionId).sessions ++ [s] }

/-- A session is created and its shell spawned. -/
def createSession (request : TerminalPtyCreateRequest) :
    Except String TerminalPtySessionSnapshot × TerminalPtySessionManager :=
  match normalizeCreateRequest p request with
  | .error error => (.error error, m)
  | .ok request =>
    let taken := { m with nextSessionSuffix := (m.nextSessionSuffix + 1) % (wordMax + 1) }
    match p.start with
    | .error error => (.error error, taken)
    | .ok _ =>
      let session : TerminalPtySession :=
        { sessionId := sessionIdOf p.unixNanos m.nextSessionSuffix
          workspaceId := request.workspaceId
          workbenchId := request.workbenchId
          widgetInstanceId := request.widgetInstanceId
          shell := request.shell
          shellArgs := request.shellArgs
          workingDirectory := request.workingDirectory
          size := request.size
          status := .running
          startedAt := p.timestamp
          endedAt := none
          exitCode := none
          errorMessage := none
          stopRequested := false
          output := { capBytes := request.outputBufferCapBytes }
          hasRuntime := true }
      (.ok session.snapshot, taken.insert session)

/-- The session that the scope names goes through the action, which may fail after it has changed
the session. -/
def withMatchingSessionMut (scope : TerminalPtySessionScope)
    (action : TerminalPtySession → Except String TerminalPtySessionSnapshot × TerminalPtySession) :
    SessionAnswer × TerminalPtySessionManager :=
  match m.get scope.sessionId with
  | none => (.ok none, m)
  | some session =>
    if !session.matchesScope scope then (.ok none, m)
    else ((action session).1.map some,
      { m with sessions :=
        m.sessions.map fun s => if s.sessionId = scope.sessionId then (action session).2 else s })

/-- What the process is asked for needs a session that still has it. -/
def withRuntime (session : TerminalPtySession) (answer : Except String Unit)
    (f : TerminalPtySession → TerminalPtySession) :
    Except String TerminalPtySessionSnapshot × TerminalPtySession :=
  if !session.hasRuntime then (.error "terminal PTY session runtime is closed", session)
  else
    match answer with
    | .error error => (.error error, session)
    | .ok _ => (.ok (f session).snapshot, f session)

def writeStdin (scope : TerminalPtySessionScope) (data : String) :
    SessionAnswer × TerminalPtySessionManager :=
  if data = "" then (.error "terminal PTY stdin data must not be empty", m)
  else m.withMatchingSessionMut scope fun session =>
    let session := session.refreshStatus p
    if !session.status.isActive then (.error "terminal PTY session is not running", session)
    else withRuntime session p.writeStdin id

def resizeSession (scope : TerminalPtySessionScope) (cols rows : ℕ) :
    SessionAnswer × TerminalPtySessionManager :=
  match validateSize cols rows with
  | .error error => (.error error, m)
  | .ok size =>
    m.withMatchingSessionMut scope fun session =>
      let session := session.refreshStatus p
      if !session.status.isActive then (.error "terminal PTY session is not running", session)
      else withRuntime session p.resize fun s => { s with size := size }

def stopSession (scope : TerminalPtySessionScope) : SessionAnswer × TerminalPtySessionManager :=
  m.withMatchingSessionMut scope fun session =>
    let session := session.refreshStatus p
    if !session.status.isActive then (.ok session.snapshot, session)
    else withRuntime session p.writeStdin fun s =>
      { s with stopRequested := true, status := .stopping }

/-- A kill that fails has let go of the process already. -/
def killSession (scope : TerminalPtySessionScope) : SessionAnswer × TerminalPtySessionManager :=
  m.withMatchingSessionMut scope fun session =>
    let session := session.refreshStatus p
    if !session.status.isActive then (.ok session.snapshot, session)
    else
      let killed := { session with
        hasRuntime := false
        status := .killed
        endedAt := some p.timestamp
        exitCode := none }
      match session.hasRuntime, p.kill with
      | true, .error error => (.error error, { session with hasRuntime := false })
      | _, _ => (.ok killed.snapshot, killed)

/-- A session that has ended is closed. -/
def closeSession (scope : TerminalPtySessionScope) : SessionAnswer × TerminalPtySessionManager :=
  match m.get scope.sessionId with
  | none => (.ok none, m)
  | some session =>
    if !session.matchesScope scope then (.ok none, m)
    else
      let session := session.refreshStatus p
      if session.status.isActive then
        (.error "terminal PTY session is still running; stop or kill it before closing",
          { m with sessions :=
            m.sessions.map fun s => if s.sessionId = scope.sessionId then session else s })
      else
        let closed := { session with
          hasRuntime := false
          status := .closed
          endedAt := some (session.endedAt.getD p.timestamp) }
        (.ok (some closed.snapshot), m.remove scope.sessionId)

/-- An error of the action is no session to the caller. -/
def getSession (scope : TerminalPtySessionScope) :
    Option TerminalPtySessionSnapshot × TerminalPtySessionManager :=
  let answer := m.withMatchingSessionMut scope fun session =>
    (.ok (session.refreshStatus p).snapshot, session.refreshStatus p)
  (answer.1.toOption.join, answer.2)

/-- The sessions in the order in which the map is walked. -/
def walked : List TerminalPtySession :=
  m.sessions.insertionSort fun a b => p.rank a.sessionId ≤ p.rank b.sessionId

def listSessions (filter : TerminalPtySessionFilter) :
    List TerminalPtySessionSnapshot × TerminalPtySessionManager :=
  let sessions := (m.walked p).map (·.refreshStatus p)
  ((sessions.filter filter.accepts).map (·.snapshot), { m with sessions := sessions })

/-- `Iterator::any` refreshes the sessions up to the first one that it looks for. -/
def anyRefreshed (wanted : TerminalPtySession → Bool) :
    List TerminalPtySession → Bool × List TerminalPtySession
  | [] => (false, [])
  | s :: sessions =>
    if wanted (s.refreshStatus p) then (true, s.refreshStatus p :: sessions)
    else
      let rest := anyRefreshed wanted sessions
      (rest.1, s.refreshStatus p :: rest.2)

def hasActiveWidgetSession (workspaceId workbenchId widgetInstanceId : String) :
    Bool × TerminalPtySessionManager :=
  let answer := anyRefreshed p (fun s => s.workspaceId == workspaceId &&
    s.workbenchId == workbenchId && s.widgetInstanceId == widgetInstanceId && s.status.isActive)
    (m.walked p)
  (answer.1, { m with sessions := answer.2 })

def hasActiveWorkspaceSession (workspaceId : String) : Bool × TerminalPtySessionManager :=
  let answer := anyRefreshed p (fun s => s.workspaceId == workspaceId && s.status.isActive)
    (m.walked p)
  (answer.1, { m with sessions := answer.2 })

/-- The reader thread of a session hands over a block. It is joined when the session lets go of its
process. -/
def pushTerminalOutput (sessionId : String) (bytes : List UInt8) : TerminalPtySessionManager :=
  { m with sessions := m.sessions.map fun s =>
      if s.sessionId = sessionId ∧ s.hasRuntime then
        { s with output := s.output.push terminalStreamKind bytes }
      else s }

end TerminalPtySessionManager

/-! ## Runs -/

/-- One call of the manager, with what the platform answers, or a block of output. -/
inductive Op where
  | create (p : Platform) (request : TerminalPtyCreateRequest)
  | writeStdin (p : Platform) (scope : TerminalPtySessionScope) (data : String)
  | resize (p : Platform) (scope : TerminalPtySessionScope) (cols rows : ℕ)
  | stop (p : Platform) (scope : TerminalPtySessionScope)
  | kill (p : Platform) (scope : TerminalPtySessionScope)
  | close (p : Platform) (scope : TerminalPtySessionScope)
  | get (p : Platform) (scope : TerminalPtySessionScope)
  | list (p : Platform) (filter : TerminalPtySessionFilter)
  | hasActiveWidget (p : Platform) (workspaceId workbenchId widgetInstanceId : String)
  | hasActiveWorkspace (p : Platform) (workspaceId : String)
  | output (sessionId : String) (bytes : List UInt8)

def perform (m : TerminalPtySessionManager) : Op → TerminalPtySessionManager
  | .create p request => (m.createSession p request).2
  | .writeStdin p scope data => (m.writeStdin p scope data).2
  | .resize p scope cols rows => (m.resizeSession p scope cols rows).2
  | .stop p scope => (m.stopSession p scope).2
  | .kill p scope => (m.killSession p scope).2
  | .close p scope => (m.closeSession p scope).2
  | .get p scope => (m.getSession p scope).2
  | .list p filter => (m.listSessions p filter).2
  | .hasActiveWidget p workspaceId workbenchId widgetInstanceId =>
    (m.hasActiveWidgetSession p workspaceId workbenchId widgetInstanceId).2
  | .hasActiveWorkspace p workspaceId => (m.hasActiveWorkspaceSession p workspaceId).2
  | .output sessionId bytes => m.pushTerminalOutput sessionId bytes

end HobitQueue.TerminalPty
