import HobitQueue.Codex.DirectStream
import Mathlib.Order.WellFounded

/-!
# What a streamed run emits

Whatever the order in which the two readers are heard and however the child ends, a run whose
prompt was delivered emits one event for every line that its readers sent, between the event of
its start and that of its end, and keeps the longest start of each output that its cap allows.
When the readers are heard again and again and the clock passes the timeout, the run ends.

## Main results

* `Streamed.turn` — a turn keeps the invariant.
* `streamed_run_loses_nothing` — the events and the outputs of a run.
-/

namespace HobitQueue.Codex

open DirectStreamLoop

/-! ## Lines -/

/-- The lines among the messages of a reader. -/
def sentLines (messages : List ReaderMessage) : List String :=
  messages.filterMap fun message => match message with
    | .line _ line => some line
    | _ => none

@[simp] theorem sentLines_nil : sentLines [] = [] := rfl

@[simp] theorem sentLines_line (stream : StreamKind) (line : String)
    (rest : List ReaderMessage) :
    sentLines (.line stream line :: rest) = line :: sentLines rest := rfl

@[simp] theorem sentLines_error (stream : StreamKind) (message : String)
    (rest : List ReaderMessage) : sentLines (.error stream message :: rest) = sentLines rest := rfl

@[simp] theorem sentLines_done (stream : StreamKind) (rest : List ReaderMessage) :
    sentLines (.done stream :: rest) = sentLines rest := rfl

/-- A line that the loop heard. -/
structure HeardLine where
  stream : StreamKind
  elapsedMs : ℕ
  line : String

def HeardLine.event (heard : HeardLine) : CodexDirectStreamEvent :=
  lineEvent heard.stream heard.elapsedMs heard.line

/-- The lines that were heard from one reader. -/
def heardFrom (stream : StreamKind) (heard : List HeardLine) : List String :=
  (heard.filter fun line => line.stream == stream).map (·.line)

@[simp] theorem heardFrom_concat (stream : StreamKind) (heard : List HeardLine)
    (line : HeardLine) :
    heardFrom stream (heard ++ [line]) =
      heardFrom stream heard ++ if line.stream = stream then [line.line] else [] := by
  by_cases h : line.stream = stream <;> simp [heardFrom, List.filter_append, h]

/-! ## Captured outputs -/

/-- A capped output holds the longest start of the lines that its cap allows. -/
structure Captured (capBytes : ℕ) (lines : List String) (output : CappedOutput) : Prop where
  bytes : output.bytes = (lines.flatMap Utf8.bytes).take capBytes
  truncated : output.truncated = true ↔ capBytes < (lines.flatMap Utf8.bytes).length

theorem captured_nil (capBytes : ℕ) : Captured capBytes [] {} :=
  ⟨by simp, by simp⟩

theorem Captured.append {capBytes : ℕ} {lines : List String} {output : CappedOutput}
    (h : Captured capBytes lines output) (line : String) :
    Captured capBytes (lines ++ [line]) (output.append line capBytes) := by
  have hlength : output.bytes.length = min capBytes (lines.flatMap Utf8.bytes).length := by
    rw [h.bytes, List.length_take]
  constructor
  · simp only [CappedOutput.append, List.flatMap_append, List.flatMap_singleton,
      List.take_append]
    by_cases hroom : 0 < capBytes - output.bytes.length
    · have hall : output.bytes = lines.flatMap Utf8.bytes := by
        rw [h.bytes]
        exact List.take_of_length_le (by omega)
      have htake : (lines.flatMap Utf8.bytes).take capBytes = lines.flatMap Utf8.bytes := by
        rw [← h.bytes, hall]
      rw [if_pos hroom, htake, hall]
      simp only [List.append_cancel_left_eq]
      rw [List.take_eq_take_iff]
      omega
    · have hfull : capBytes - (lines.flatMap Utf8.bytes).length = 0 := by omega
      rw [if_neg hroom, hfull, List.take_zero, List.append_nil, h.bytes]
  · simp only [CappedOutput.append, Bool.or_eq_true, decide_eq_true_eq, h.truncated,
      List.flatMap_append, List.flatMap_singleton, List.length_append]
    omega

/-! ## Readers -/

def ReaderMessage.stream : ReaderMessage → StreamKind
  | .line stream _ => stream
  | .error stream _ => stream
  | .done stream => stream

/-- Messages that come from one reader: of its stream, and nothing after it is done. -/
structure FromReader (stream : StreamKind) (messages : List ReaderMessage) : Prop where
  own : ∀ message ∈ messages, message.stream = stream
  doneLast : ∀ rest, .done stream :: rest <:+ messages → rest = []

theorem FromReader.suffix {stream : StreamKind} {messages rest : List ReaderMessage}
    (h : FromReader stream messages) (hrest : rest <:+ messages) : FromReader stream rest :=
  ⟨fun message hmessage => h.own message (hrest.subset hmessage),
    fun _ hdone => h.doneLast _ (hdone.trans hrest)⟩

theorem stream_of_mem_readStreamLines {stream : StreamKind}
    {reads : List (Except String (List UInt8))} {message : ReaderMessage}
    (h : message ∈ readStreamLines stream reads) :
    message.stream = stream ∧ message ≠ .done stream := by
  induction reads with
  | nil => simp [readStreamLines] at h
  | cons read reads ih =>
    cases read with
    | ok buffer =>
      simp only [readStreamLines, List.mem_cons] at h
      rcases h with rfl | h
      · exact ⟨rfl, by simp⟩
      · exact ih h
    | error error =>
      simp only [readStreamLines, List.mem_singleton] at h
      subst h
      exact ⟨rfl, by simp⟩

/-- **What a reader sends comes from one reader**, also when it dies. -/
theorem LineReader.fromReader (reader : LineReader) (stream : StreamKind) :
    FromReader stream (reader.messages stream) := by
  cases hdies : reader.diesAfter with
  | none =>
    have hmessages : reader.messages stream =
        readStreamLines stream reader.reads ++ [.done stream] := by
      simp only [LineReader.messages, hdies]
    rw [hmessages]
    constructor
    · intro message hmessage
      rcases List.mem_append.mp hmessage with h | h
      · exact (stream_of_mem_readStreamLines h).1
      · rw [List.mem_singleton.mp h]
        rfl
    · rintro rest ⟨before, hbefore⟩
      rcases List.eq_nil_or_concat rest with rfl | ⟨init, last, rfl⟩
      · rfl
      · -- a message after the last one would be among the lines
        have hinit : before ++ .done stream :: init = readStreamLines stream reader.reads := by
          have happend : (before ++ .done stream :: init) ++ [last] =
              readStreamLines stream reader.reads ++ [.done stream] := by
            rw [← hbefore]
            simp
          exact (List.append_inj' happend rfl).1
        have hmem : .done stream ∈ readStreamLines stream reader.reads := by
          rw [← hinit]
          simp
        exact absurd rfl (stream_of_mem_readStreamLines hmem).2
  | some sent =>
    have hmessages : reader.messages stream =
        (readStreamLines stream reader.reads).take sent := by
      simp only [LineReader.messages, hdies]
    rw [hmessages]
    constructor
    · intro message hmessage
      exact (stream_of_mem_readStreamLines (List.mem_of_mem_take hmessage)).1
    · intro rest hrest
      have hmem : .done stream ∈ readStreamLines stream reader.reads :=
        List.mem_of_mem_take (hrest.subset List.mem_cons_self)
      exact absurd rfl (stream_of_mem_readStreamLines hmem).2

/-! ## The loop -/

/-- What the loop has heard, emitted and captured so far. -/
structure Heard (limits : Limits) (startedMs : ℕ) (stdoutSent stderrSent : List String)
    (s : DirectStreamLoop) (heard : List HeardLine) : Prop where
  events : s.events = { kind := .started, elapsedMs := startedMs } :: heard.map HeardLine.event
  stdout : heardFrom .stdout heard ++ sentLines s.pendingStdout = stdoutSent
  stderr : heardFrom .stderr heard ++ sentLines s.pendingStderr = stderrSent
  stdoutCaptured : Captured limits.stdoutCapBytes (heardFrom .stdout heard) s.stdoutCollected
  stderrCaptured : Captured limits.stderrCapBytes (heardFrom .stderr heard) s.stderrCollected

/-- The invariant of the loop. -/
structure Streamed (limits : Limits) (startedMs : ℕ) (stdoutSent stderrSent : List String)
    (s : DirectStreamLoop) : Prop where
  heard : ∃ heard, Heard limits startedMs stdoutSent stderrSent s heard
  counted : s.eventCount = s.events.length
  stdoutPending : FromReader .stdout s.pendingStdout
  stderrPending : FromReader .stderr s.pendingStderr
  stdoutDone : s.stdoutDone = true → s.pendingStdout = []
  stderrDone : s.stderrDone = true → s.pendingStderr = []

section Invariant

variable {limits : Limits} {startedMs : ℕ} {stdoutSent stderrSent : List String}
  {s : DirectStreamLoop}

/-- A message of the first reader is handled. -/
theorem Streamed.handle_stdout {message : ReaderMessage} {rest : List ReaderMessage}
    (h : Streamed limits startedMs stdoutSent stderrSent s)
    (hpending : s.pendingStdout = message :: rest) (elapsedMs : ℕ) :
    Streamed limits startedMs stdoutSent stderrSent
      (handleReaderMessage limits elapsedMs { s with pendingStdout := rest } message) := by
  have hfrom : FromReader .stdout (message :: rest) := hpending ▸ h.stdoutPending
  have hrest : FromReader .stdout rest := hfrom.suffix (List.suffix_cons _ _)
  have hown : message.stream = .stdout := hfrom.own _ List.mem_cons_self
  have hnotDone : s.stdoutDone = true → False := fun hdone => by
    have hnil := h.stdoutDone hdone
    simp [hpending] at hnil
  obtain ⟨heard, hheard⟩ := h.heard
  have hsent := hheard.stdout
  rw [hpending] at hsent
  cases message with
  | line stream line =>
    have hstream : stream = .stdout := hown
    subst hstream
    refine ⟨⟨heard ++ [⟨.stdout, elapsedMs, line⟩], ?_, ?_, ?_, ?_, ?_⟩, ?_, hrest,
      h.stderrPending, fun hdone => (hnotDone hdone).elim, h.stderrDone⟩
    · simp [handleReaderMessage, emitEvent, hheard.events, HeardLine.event]
    · simpa [handleReaderMessage, emitEvent] using hsent
    · simpa [handleReaderMessage, emitEvent] using hheard.stderr
    · simpa [handleReaderMessage, emitEvent] using hheard.stdoutCaptured.append line
    · simpa [handleReaderMessage, emitEvent] using hheard.stderrCaptured
    · simp [handleReaderMessage, emitEvent, h.counted]
  | error stream message =>
    have hstream : stream = .stdout := hown
    subst hstream
    exact ⟨⟨heard, hheard.events, hsent, hheard.stderr, hheard.stdoutCaptured,
      hheard.stderrCaptured⟩, h.counted, hrest, h.stderrPending,
      fun hdone => (hnotDone hdone).elim, h.stderrDone⟩
  | done stream =>
    have hstream : stream = .stdout := hown
    subst hstream
    have hlast : rest = [] := hfrom.doneLast rest (List.suffix_refl _)
    exact ⟨⟨heard, hheard.events, hsent, hheard.stderr, hheard.stdoutCaptured,
      hheard.stderrCaptured⟩, h.counted, hrest, h.stderrPending, fun _ => hlast, h.stderrDone⟩

/-- A message of the second reader is handled. -/
theorem Streamed.handle_stderr {message : ReaderMessage} {rest : List ReaderMessage}
    (h : Streamed limits startedMs stdoutSent stderrSent s)
    (hpending : s.pendingStderr = message :: rest) (elapsedMs : ℕ) :
    Streamed limits startedMs stdoutSent stderrSent
      (handleReaderMessage limits elapsedMs { s with pendingStderr := rest } message) := by
  have hfrom : FromReader .stderr (message :: rest) := hpending ▸ h.stderrPending
  have hrest : FromReader .stderr rest := hfrom.suffix (List.suffix_cons _ _)
  have hown : message.stream = .stderr := hfrom.own _ List.mem_cons_self
  have hnotDone : s.stderrDone = true → False := fun hdone => by
    have hnil := h.stderrDone hdone
    simp [hpending] at hnil
  obtain ⟨heard, hheard⟩ := h.heard
  have hsent := hheard.stderr
  rw [hpending] at hsent
  cases message with
  | line stream line =>
    have hstream : stream = .stderr := hown
    subst hstream
    refine ⟨⟨heard ++ [⟨.stderr, elapsedMs, line⟩], ?_, ?_, ?_, ?_, ?_⟩, ?_, h.stdoutPending,
      hrest, h.stdoutDone, fun hdone => (hnotDone hdone).elim⟩
    · simp [handleReaderMessage, emitEvent, hheard.events, HeardLine.event]
    · simpa [handleReaderMessage, emitEvent] using hheard.stdout
    · simpa [handleReaderMessage, emitEvent] using hsent
    · simpa [handleReaderMessage, emitEvent] using hheard.stdoutCaptured
    · simpa [handleReaderMessage, emitEvent] using hheard.stderrCaptured.append line
    · simp [handleReaderMessage, emitEvent, h.counted]
  | error stream message =>
    have hstream : stream = .stderr := hown
    subst hstream
    exact ⟨⟨heard, hheard.events, hheard.stdout, hsent, hheard.stdoutCaptured,
      hheard.stderrCaptured⟩, h.counted, h.stdoutPending, hrest, h.stdoutDone,
      fun hdone => (hnotDone hdone).elim⟩
  | done stream =>
    have hstream : stream = .stderr := hown
    subst hstream
    have hlast : rest = [] := hfrom.doneLast rest (List.suffix_refl _)
    exact ⟨⟨heard, hheard.events, hheard.stdout, hsent, hheard.stdoutCaptured,
      hheard.stderrCaptured⟩, h.counted, h.stdoutPending, hrest, h.stdoutDone, fun _ => hlast⟩

theorem Streamed.receive (h : Streamed limits startedMs stdoutSent stderrSent s) (turn : Turn) :
    Streamed limits startedMs stdoutSent stderrSent (receive limits turn s) := by
  unfold DirectStreamLoop.receive
  split
  · next hpending => exact h.handle_stdout hpending _
  · next hpending => exact h.handle_stderr hpending _
  · next hstdout hstderr =>
    obtain ⟨heard, hheard⟩ := h.heard
    exact ⟨⟨heard, hheard.events, hheard.stdout, hheard.stderr, hheard.stdoutCaptured,
      hheard.stderrCaptured⟩, h.counted, h.stdoutPending, h.stderrPending, fun _ => hstdout,
      fun _ => hstderr⟩
  · exact h

/-- Polling the child changes only what is known of its end. -/
theorem pollChild_eq (limits : Limits) (turn : Turn) (s : DirectStreamLoop) :
    let polled := pollChild limits turn s
    polled = { s with
      childFinished := polled.childFinished, timedOut := polled.timedOut
      cancelled := polled.cancelled, forceKilled := polled.forceKilled
      waitError := polled.waitError, exitCode := polled.exitCode } := by
  simp only [pollChild]
  split
  · rfl
  · cases turn.wait with
    | exited code => rfl
    | failed error => rfl
    | running =>
      simp only
      split
      · rfl
      · split
        · rfl
        · split <;> rfl

theorem Streamed.pollChild (h : Streamed limits startedMs stdoutSent stderrSent s)
    (turn : Turn) : Streamed limits startedMs stdoutSent stderrSent (pollChild limits turn s) := by
  obtain ⟨heard, hheard⟩ := h.heard
  rw [pollChild_eq]
  exact ⟨⟨heard, hheard.events, hheard.stdout, hheard.stderr, hheard.stdoutCaptured,
    hheard.stderrCaptured⟩, h.counted, h.stdoutPending, h.stderrPending, h.stdoutDone,
    h.stderrDone⟩

/-- **A turn keeps the invariant.** -/
theorem Streamed.turn (h : Streamed limits startedMs stdoutSent stderrSent s) (decided : Turn) :
    Streamed limits startedMs stdoutSent stderrSent (turn limits s decided) := by
  unfold DirectStreamLoop.turn
  split_ifs
  · exact h
  · exact (h.receive decided).pollChild decided

end Invariant

/-! ## The whole run -/

def CodexDirectStreamEventKind.isLine : CodexDirectStreamEventKind → Bool
  | .stdoutLine | .stderrLine | .codexJsonEvent => true
  | _ => false

def CodexDirectStreamEventKind.isFinalStatus : CodexDirectStreamEventKind → Bool
  | .completed | .failed | .timedOut | .cancelled => true
  | _ => false

/-- What the events of lines show of one reader's lines. -/
def shownLines (ofStderr : Bool) (lineEvents : List CodexDirectStreamEvent) :
    List (Option String) :=
  (lineEvents.filter fun event => (event.kind == .stderrLine) == ofStderr).map (·.line)

/-- A line end. -/
def IsLineEnd (c : Char) : Prop := c = '\r' ∨ c = '\n'

/-- An event shows a line up to the line ends behind it. -/
def ShowsLine (line : String) (shown : Option String) : Prop :=
  ∃ text ends, shown = some text ∧ line.toList = text.toList ++ ends ∧
    (∀ c ∈ ends, IsLineEnd c) ∧ ∀ c ∈ text.toList.getLast?, ¬ IsLineEnd c

/-- The events of a run in their order: its start, one for each line and each reader's in the
order of the reader, the final message if there is one, and its end. -/
structure OrderedEvents (stdoutLines stderrLines : List String)
    (started : CodexDirectStreamEvent) (lineEvents : List CodexDirectStreamEvent)
    (finalMessage : Option CodexDirectStreamEvent) (finalStatus : CodexDirectStreamEvent) :
    Prop where
  started : started.kind = .started
  lines : ∀ event ∈ lineEvents, event.kind.isLine = true
  stdout : List.Forall₂ ShowsLine stdoutLines (shownLines false lineEvents)
  stderr : List.Forall₂ ShowsLine stderrLines (shownLines true lineEvents)
  finalMessage : ∀ event ∈ finalMessage, event.kind = .finalMessage
  finalStatus : finalStatus.kind.isFinalStatus = true

theorem showsLine_streamEventLine (line : String) :
    ShowsLine line (some (streamEventLine line)) := by
  have hend : ∀ c : Char, (c == '\r' || c == '\n') = true ↔ IsLineEnd c := by
    intro c
    rw [Bool.or_eq_true, beq_iff_eq, beq_iff_eq, IsLineEnd]
  refine ⟨streamEventLine line, line.toList.rtakeWhile fun c => c == '\r' || c == '\n', rfl,
    ?_, ?_, ?_⟩
  · rw [streamEventLine, String.toList_ofList, List.rdropWhile_append_rtakeWhile]
  · intro c hc
    exact (hend c).1 (@List.mem_rtakeWhile_imp _ (fun c => c == '\r' || c == '\n') _ c hc)
  · intro c hc
    rw [streamEventLine, String.toList_ofList] at hc
    rw [← hend]
    obtain ⟨hne, rfl⟩ := List.mem_getLast?_eq_getLast hc
    exact List.rdropWhile_last_not _ _ hne

theorem forall₂_showsLine (lines : List String) :
    List.Forall₂ ShowsLine lines (lines.map fun line => some (streamEventLine line)) := by
  induction lines with
  | nil => exact .nil
  | cons line lines ih => exact .cons (showsLine_streamEventLine line) ih

theorem HeardLine.event_line (heard : HeardLine) :
    heard.event.kind.isLine = true ∧
      (heard.event.kind == .stderrLine) = (heard.stream == .stderr) ∧
      heard.event.line = some (streamEventLine heard.line) := by
  obtain ⟨stream, elapsedMs, line⟩ := heard
  cases stream with
  | stderr => exact ⟨rfl, rfl, rfl⟩
  | stdout =>
    simp only [HeardLine.event, lineEvent]
    cases parseLightweightJsonLine (streamEventLine line) with
    | some parsedJson => exact ⟨rfl, rfl, rfl⟩
    | none => exact ⟨rfl, rfl, rfl⟩

theorem shownLines_heard (ofStderr : Bool) (heard : List HeardLine) :
    shownLines ofStderr (heard.map HeardLine.event) =
      (heardFrom (if ofStderr then .stderr else .stdout) heard).map
        fun line => some (streamEventLine line) := by
  induction heard with
  | nil => rfl
  | cons line heard ih =>
    obtain ⟨-, hkind, hline⟩ := line.event_line
    simp only [shownLines, heardFrom] at ih
    cases hstream : line.stream <;> cases ofStderr <;>
      simp_all [shownLines, heardFrom]

theorem isFinalStatus_finalStatusKind (status : CodexDirectStreamStatus) :
    (finalStatusKind status).isFinalStatus = true := by
  cases status <;> rfl

/-- An output is returned as the longest start of its lines that the cap allows, with a mark
exactly when something was cut. -/
structure ReturnedOutput (capBytes : ℕ) (lines : List String) (collected : String)
    (truncated : Bool) : Prop where
  collected : collected = Utf8.fromLossy ((lines.flatMap Utf8.bytes).take capBytes)
  truncated : truncated = true ↔ capBytes < (lines.flatMap Utf8.bytes).length

theorem Captured.returned {capBytes : ℕ} {lines : List String} {output : CappedOutput}
    (h : Captured capBytes lines output) :
    ReturnedOutput capBytes lines output.intoParts.1 output.intoParts.2 where
  collected := by rw [CappedOutput.intoParts, h.bytes]
  truncated := h.truncated

/-- What a run whose prompt was delivered emits and returns. -/
structure DeliveredOutput (limits : Limits) (env : RunEnvironment)
    (events : List CodexDirectStreamEvent) (output : CodexDirectStreamOutput) : Prop where
  ordered : ∃ started lineEvents finalMessage finalStatus,
    events = started :: lineEvents ++ finalMessage.toList ++ [finalStatus] ∧
      OrderedEvents (sentLines (env.stdoutReader.messages .stdout))
        (sentLines (env.stderrReader.messages .stderr)) started lineEvents finalMessage finalStatus
  stdout : ReturnedOutput limits.stdoutCapBytes (sentLines (env.stdoutReader.messages .stdout))
    output.stdoutCollected output.stdoutTruncated
  stderr : ReturnedOutput limits.stderrCapBytes (sentLines (env.stderrReader.messages .stderr))
    output.stderrCollected output.stderrTruncated

theorem streamed_startLoop (limits : Limits) (env : RunEnvironment) :
    Streamed limits env.startedMs (sentLines (env.stdoutReader.messages .stdout))
      (sentLines (env.stderrReader.messages .stderr)) (startLoop env) := by
  have hnone : ∀ capBytes, Captured capBytes (heardFrom .stdout []) {} := captured_nil
  exact ⟨⟨[], rfl, rfl, rfl, hnone _, captured_nil _⟩, rfl, env.stdoutReader.fromReader .stdout,
    env.stderrReader.fromReader .stderr, by simp [startLoop], by simp [startLoop]⟩

/-- What comes after the loop adds a final message or none, and the end. -/
theorem finishRun_adds (env : RunEnvironment) (run : DeliveredRun) (s : DirectStreamLoop) :
    ∃ (finalMessage : Option CodexDirectStreamEvent) (finalStatus : CodexDirectStreamEvent),
      (finishRun env run s).1 = s.events ++ finalMessage.toList ++ [finalStatus] ∧
      (finishRun env run s).2.eventCount = s.eventCount + finalMessage.toList.length + 1 ∧
      (∀ event ∈ finalMessage, event.kind = .finalMessage) ∧
      finalStatus.kind = finalStatusKind (finishRun env run s).2.status := by
  cases hcancelled : s.cancelled with
  | true =>
    simp only [finishRun, hcancelled, if_true, emitEvent]
    exact ⟨none, _, congrArg (· ++ _) (List.append_nil s.events).symm, rfl, by simp, rfl⟩
  | false =>
    cases hmessage : env.readFinalMessage run.outputLastMessagePath with
    | ok message =>
      simp only [finishRun, hcancelled, Bool.false_eq_true, if_false, hmessage, emitEvent]
      refine ⟨some _, _, rfl, rfl, ?_, rfl⟩
      intro event hevent
      rw [← Option.mem_some_iff.mp hevent]
    | error error =>
      simp only [finishRun, hcancelled, Bool.false_eq_true, if_false, hmessage, emitEvent]
      exact ⟨none, _, congrArg (· ++ _) (List.append_nil s.events).symm, rfl, by simp, rfl⟩

/-- The invariant at the end of the loop, when nothing is left to be heard. -/
theorem finishRun_delivered {limits : Limits} {env : RunEnvironment} (run : DeliveredRun)
    {s : DirectStreamLoop}
    (h : Streamed limits env.startedMs (sentLines (env.stdoutReader.messages .stdout))
      (sentLines (env.stderrReader.messages .stderr)) s) (hfinished : s.finished = true) :
    (finishRun env run s).2.eventCount = (finishRun env run s).1.length ∧
      DeliveredOutput limits env (finishRun env run s).1 (finishRun env run s).2 := by
  simp only [finished, Bool.and_eq_true] at hfinished
  have hstdoutPending := h.stdoutDone hfinished.1.2
  have hstderrPending := h.stderrDone hfinished.2
  obtain ⟨heard, hheard⟩ := h.heard
  have hstdout := hheard.stdout
  have hstderr := hheard.stderr
  rw [hstdoutPending, sentLines_nil, List.append_nil] at hstdout
  rw [hstderrPending, sentLines_nil, List.append_nil] at hstderr
  have hlines : ∀ event ∈ heard.map HeardLine.event, event.kind.isLine = true := by
    intro event hevent
    obtain ⟨line, -, rfl⟩ := List.mem_map.mp hevent
    exact line.event_line.1
  have hshownOut : shownLines false (heard.map HeardLine.event) = _ := shownLines_heard false heard
  have hshownErr : shownLines true (heard.map HeardLine.event) = _ := shownLines_heard true heard
  simp only [Bool.false_eq_true, if_false, if_true, hstdout, hstderr] at hshownOut hshownErr
  have hcapturedOut := hheard.stdoutCaptured
  have hcapturedErr := hheard.stderrCaptured
  rw [hstdout] at hcapturedOut
  rw [hstderr] at hcapturedErr
  obtain ⟨finalMessage, finalStatus, hevents, hcount, hmessage, hstatus⟩ :=
    finishRun_adds env run s
  constructor
  · rw [hevents, hcount, h.counted, List.length_append, List.length_append,
      List.length_singleton]
  · refine ⟨⟨{ kind := .started, elapsedMs := env.startedMs }, heard.map HeardLine.event,
      finalMessage, finalStatus, ?_, ?_⟩, hcapturedOut.returned, hcapturedErr.returned⟩
    · rw [hevents, hheard.events]
    · refine ⟨rfl, hlines, ?_, ?_, hmessage, hstatus ▸ isFinalStatus_finalStatusKind _⟩
      · rw [hshownOut]
        exact forall₂_showsLine _
      · rw [hshownErr]
        exact forall₂_showsLine _

/-! ## The end of the loop -/

/-- A schedule of turns that neglects no reader and whose clock passes the timeout. -/
structure Fair (limits : Limits) (turns : ℕ → Turn) : Prop where
  stdout : ∀ n, ∃ m, n ≤ m ∧ (turns m).arrival = .stdout
  stderr : ∀ n, ∃ m, n ≤ m ∧ (turns m).arrival = .stderr
  hangup : ∀ n, ∃ m, n ≤ m ∧ (turns m).arrival = .hangup
  clock : ∃ n, limits.timeoutMs ≤ (turns n).elapsedMs

/-- The first turns of a schedule. -/
def firstTurns (turns : ℕ → Turn) (n : ℕ) : List Turn := (List.range n).map turns

section Progress

variable {limits : Limits} {s : DirectStreamLoop} {decided : Turn}

/-- Only who is heard is taken from. -/
theorem receive_pending (limits : Limits) (decided : Turn) (s : DirectStreamLoop) :
    (receive limits decided s).pendingStdout =
        (if decided.arrival = .stdout then s.pendingStdout.tail else s.pendingStdout) ∧
      (receive limits decided s).pendingStderr =
        (if decided.arrival = .stderr then s.pendingStderr.tail else s.pendingStderr) := by
  have hhandle : ∀ (message : ReaderMessage) (s : DirectStreamLoop),
      (handleReaderMessage limits decided.receivedMs s message).pendingStdout =
          s.pendingStdout ∧
        (handleReaderMessage limits decided.receivedMs s message).pendingStderr =
          s.pendingStderr := by
    intro message s
    cases message with
    | line stream line => cases stream <;> exact ⟨rfl, rfl⟩
    | error stream message => cases stream <;> exact ⟨rfl, rfl⟩
    | done stream => cases stream <;> exact ⟨rfl, rfl⟩
  cases harrival : decided.arrival with
  | stdout =>
    cases hpending : s.pendingStdout with
    | nil => simp [receive, harrival, hpending]
    | cons message rest =>
      simp only [receive, harrival, hpending]
      simpa using hhandle message _
  | stderr =>
    cases hpending : s.pendingStderr with
    | nil => simp [receive, harrival, hpending]
    | cons message rest =>
      simp only [receive, harrival, hpending]
      simpa using hhandle message _
  | hangup =>
    simp only [receive, harrival]
    split <;> simp_all
  | nobody => simp [receive, harrival]

theorem turn_pending (hrunning : s.finished = false) :
    (turn limits s decided).pendingStdout =
        (if decided.arrival = .stdout then s.pendingStdout.tail else s.pendingStdout) ∧
      (turn limits s decided).pendingStderr =
        (if decided.arrival = .stderr then s.pendingStderr.tail else s.pendingStderr) := by
  have hreceive := receive_pending limits decided s
  simp only [turn, hrunning, Bool.false_eq_true, if_false]
  rw [pollChild_eq]
  exact hreceive

/-- The flags of the loop, once set, stay. -/
theorem receive_flags (limits : Limits) (decided : Turn) (s : DirectStreamLoop) :
    (receive limits decided s).childFinished = s.childFinished ∧
      (s.stdoutDone = true → (receive limits decided s).stdoutDone = true) ∧
      (s.stderrDone = true → (receive limits decided s).stderrDone = true) := by
  have hhandle : ∀ (message : ReaderMessage) (s : DirectStreamLoop),
      let handled := handleReaderMessage limits decided.receivedMs s message
      handled.childFinished = s.childFinished ∧
        (s.stdoutDone = true → handled.stdoutDone = true) ∧
        (s.stderrDone = true → handled.stderrDone = true) := by
    intro message s
    cases message with
    | line stream line => cases stream <;> exact ⟨rfl, id, id⟩
    | error stream message => cases stream <;> exact ⟨rfl, id, id⟩
    | done stream =>
      cases stream with
      | stdout => exact ⟨rfl, fun _ => rfl, id⟩
      | stderr => exact ⟨rfl, id, fun _ => rfl⟩
  unfold receive
  split
  · exact hhandle _ _
  · exact hhandle _ _
  · exact ⟨rfl, fun _ => rfl, fun _ => rfl⟩
  · exact ⟨rfl, id, id⟩

theorem turn_flags (limits : Limits) (decided : Turn) (s : DirectStreamLoop) :
    (s.childFinished = true → (turn limits s decided).childFinished = true) ∧
      (s.stdoutDone = true → (turn limits s decided).stdoutDone = true) ∧
      (s.stderrDone = true → (turn limits s decided).stderrDone = true) := by
  obtain ⟨hchild, hstdout, hstderr⟩ := receive_flags limits decided s
  unfold turn
  split
  · exact ⟨id, id, id⟩
  · refine ⟨fun h => ?_, fun h => ?_, fun h => ?_⟩
    · rw [pollChild, if_pos (by rw [hchild, h])]
      rw [hchild, h]
    · rw [pollChild_eq]
      exact hstdout h
    · rw [pollChild_eq]
      exact hstderr h

/-- The child does not outlive the timeout. -/
theorem turn_clock (hrunning : s.finished = false)
    (hclock : limits.timeoutMs ≤ decided.elapsedMs) :
    (turn limits s decided).childFinished = true := by
  simp only [turn, hrunning, Bool.false_eq_true, if_false, pollChild]
  split
  · next hchild => exact hchild
  · cases decided.wait with
    | exited code => rfl
    | failed error => rfl
    | running =>
      simp only
      split
      · rfl
      · split <;> rfl

/-- When nobody has anything left to say, hanging up is heard. -/
theorem turn_hangup (hrunning : s.finished = false) (harrival : decided.arrival = .hangup)
    (hstdout : s.pendingStdout = []) (hstderr : s.pendingStderr = []) :
    (turn limits s decided).stdoutDone = true ∧ (turn limits s decided).stderrDone = true := by
  simp only [turn, hrunning, Bool.false_eq_true, if_false]
  rw [pollChild_eq]
  simp only [receive, harrival, hstdout, hstderr, and_self]

end Progress

/-- The state after the first turns of a schedule. -/
def stateAt (limits : Limits) (s : DirectStreamLoop) (turns : ℕ → Turn) (n : ℕ) :
    DirectStreamLoop :=
  Machine.after (turn limits) s (firstTurns turns n)

theorem stateAt_succ (limits : Limits) (s : DirectStreamLoop) (turns : ℕ → Turn) (n : ℕ) :
    stateAt limits s turns (n + 1) = turn limits (stateAt limits s turns n) (turns n) := by
  simp only [stateAt, firstTurns, List.range_succ, List.map_append, List.map_cons, List.map_nil,
    Machine.after_concat]

/-- A reader that is heard again and again has at some time said all it has to say. -/
theorem eventually_nothing_pending {pending : ℕ → List ReaderMessage} {heardAt : ℕ → Prop}
    (hstep : ∀ n, pending (n + 1) = pending n ∨ pending (n + 1) = (pending n).tail)
    (htaken : ∀ n, heardAt n → pending (n + 1) = (pending n).tail)
    (hfair : ∀ n, ∃ m, n ≤ m ∧ heardAt m) : ∃ n, ∀ m, n ≤ m → pending m = [] := by
  have hmono : Antitone fun n => (pending n).length := by
    refine antitone_nat_of_succ_le fun n => ?_
    rcases hstep n with h | h
    · rw [h]
    · simp [h]
  obtain ⟨n, hn⟩ : ∃ n, pending n = [] := by
    -- the shortest list that is ever pending is empty, as it would be taken from again
    obtain ⟨n, -, hleast⟩ := WellFounded.has_min
      (InvImage.wf (fun n => (pending n).length) Nat.lt_wfRel.wf) Set.univ ⟨0, trivial⟩
    obtain ⟨m, hm, hheard⟩ := hfair n
    have hle : (pending m).length ≤ (pending n).length := hmono hm
    have hnotLess : ¬ (pending (m + 1)).length < (pending n).length := hleast (m + 1) trivial
    rw [htaken m hheard, List.length_tail] at hnotLess
    exact ⟨n, List.eq_nil_of_length_eq_zero (by omega)⟩
  refine ⟨n, fun m hm => List.eq_nil_of_length_eq_zero ?_⟩
  have hle : (pending m).length ≤ (pending n).length := hmono hm
  rw [hn] at hle
  exact Nat.le_zero.mp hle

/-- What stays, once it is so, is so at every later time. -/
theorem persists {p : ℕ → Prop} (hstep : ∀ n, p n → p (n + 1)) {n m : ℕ} (hn : p n)
    (hle : n ≤ m) : p m := by
  induction m, hle using Nat.le_induction with
  | base => exact hn
  | succ m _ ih => exact hstep m ih

/-- **A fair schedule ends the loop.** -/
theorem eventually_finished {limits : Limits} {turns : ℕ → Turn} (hfair : Fair limits turns)
    (s : DirectStreamLoop) : ∃ n, (stateAt limits s turns n).finished = true := by
  by_contra hnever
  have hrunning : ∀ n, (stateAt limits s turns n).finished = false := by
    intro n
    exact Bool.eq_false_iff.mpr fun h => hnever ⟨n, h⟩
  have hpending := fun n => @turn_pending limits _ (turns n) (hrunning n)
  simp only [← stateAt_succ] at hpending
  obtain ⟨n₁, hstdout⟩ := @eventually_nothing_pending
    (fun n => (stateAt limits s turns n).pendingStdout) (fun n => (turns n).arrival = .stdout)
    (fun n => by
      by_cases h : (turns n).arrival = .stdout
      · exact Or.inr (by rw [(hpending n).1, if_pos h])
      · exact Or.inl (by rw [(hpending n).1, if_neg h]))
    (fun n h => by rw [(hpending n).1, if_pos h]) hfair.stdout
  obtain ⟨n₂, hstderr⟩ := @eventually_nothing_pending
    (fun n => (stateAt limits s turns n).pendingStderr) (fun n => (turns n).arrival = .stderr)
    (fun n => by
      by_cases h : (turns n).arrival = .stderr
      · exact Or.inr (by rw [(hpending n).2, if_pos h])
      · exact Or.inl (by rw [(hpending n).2, if_neg h]))
    (fun n h => by rw [(hpending n).2, if_pos h]) hfair.stderr
  obtain ⟨m, hm, harrival⟩ := hfair.hangup (max n₁ n₂)
  obtain ⟨k, hclock⟩ := hfair.clock
  have hdone := @turn_hangup limits _ (turns m) (hrunning m) harrival
    (hstdout m (le_trans (le_max_left _ _) hm)) (hstderr m (le_trans (le_max_right _ _) hm))
  have hchild := @turn_clock limits _ (turns k) (hrunning k) hclock
  rw [← stateAt_succ] at hdone hchild
  have hflags := fun n => turn_flags limits (turns n) (stateAt limits s turns n)
  simp only [← stateAt_succ] at hflags
  -- the three flags are set together after the later of the two turns
  have hlate₁ : m + 1 ≤ max (m + 1) (k + 1) := le_max_left _ _
  have hlate₂ : k + 1 ≤ max (m + 1) (k + 1) := le_max_right _ _
  have hchild' := persists (fun n => (hflags n).1) hchild hlate₂
  have hstdout' := persists (fun n => (hflags n).2.1) hdone.1 hlate₁
  have hstderr' := persists (fun n => (hflags n).2.2) hdone.2 hlate₁
  apply hnever
  exact ⟨max (m + 1) (k + 1), by simp only [finished, hchild', hstdout', hstderr', Bool.and_self]⟩

/-- **A streamed run loses nothing.** Whatever its readers, its child and its operator do, a run
that has ended has emitted as many events as it counts; when it was turned down, none of them
is a start; when its prompt was delivered, they are the start, an event for every line that a
reader sent, in the order of the reader, at most one final message, and one final status, and
each output holds the longest start of its lines within its cap. A fair schedule ends it. -/
theorem streamed_run_loses_nothing (request : CodexDirectStreamRequest) (env : RunEnvironment) :
    (∀ turns events output,
      runCodexDirectWorkStreaming request env turns = some (events, output) →
      output.eventCount = events.length ∧
      (∀ rejection, startRun request env = .error rejection →
        ∀ event ∈ events, event.kind ≠ .started) ∧
      ∀ run, startRun request env = .ok run →
        DeliveredOutput request.limits env events output) ∧
    ∀ turns, Fair request.limits turns →
      ∃ n, (runCodexDirectWorkStreaming request env (firstTurns turns n)).isSome = true := by
  constructor
  · intro turns events output hrun
    cases hstart : startRun request env with
    | error rejection =>
      simp only [runCodexDirectWorkStreaming, hstart, Option.some.injEq] at hrun
      obtain ⟨rfl, rfl⟩ := Prod.mk.inj hrun
      refine ⟨rfl, ?_, by simp⟩
      intro _ _ event hevent
      rw [List.mem_singleton.mp hevent]
      simp
    | ok run =>
      simp only [runCodexDirectWorkStreaming, hstart] at hrun
      split at hrun
      · next hfinished =>
        have hstreamed := Machine.invariant_after_any
          (fun s decided (h : Streamed request.limits env.startedMs _ _ s) => h.turn decided)
          (streamed_startLoop request.limits env) turns
        obtain ⟨hcount, hdelivered⟩ := finishRun_delivered run hstreamed hfinished
        have heq := Option.some.inj hrun
        rw [heq] at hcount hdelivered
        exact ⟨hcount, by simp, fun _ _ => hdelivered⟩
      · cases hrun
  · intro turns hfair
    cases hstart : startRun request env with
    | error rejection => exact ⟨0, by simp only [runCodexDirectWorkStreaming, hstart,
        Option.isSome_some]⟩
    | ok run =>
      obtain ⟨n, hfinished⟩ := eventually_finished hfair (startLoop env)
      refine ⟨n, ?_⟩
      simp only [stateAt] at hfinished
      simp only [runCodexDirectWorkStreaming, hstart, if_pos hfinished, Option.isSome_some]

/-- A run of one line of output, heard in turns. -/
def sampleRequest : CodexDirectStreamRequest :=
  { program := none, repoRoot := "/repo", prompt := "go", resumeThreadId := none
    sandbox := .readOnly, approvalPolicy := .never, skipGitRepoCheck := false
    timeoutMs := some 3, stdoutCapBytes := some 2, stderrCapBytes := none
    outputLastMessagePath := some "last.txt" }

def sampleEnvironment : RunEnvironment :=
  { exists_ := fun _ => true, isDir := fun _ => true
    resolveCodexExecutable := fun program => .ok program
    codexLaunchCommand := fun program arguments => (program, arguments)
    uniqueOutputLastMessagePath := "unique.txt"
    spawn := fun _ => .ok ⟨true, true, .ok ()⟩
    stdoutReader := ⟨[.ok [104, 105, 10]], none⟩
    stderrReader := ⟨[], none⟩
    readFinalMessage := fun _ => .ok "done"
    startedMs := 0, finalMessageMs := 9, finalStatusMs := 9, durationMs := 9 }

def sampleTurns (n : ℕ) : Turn :=
  { arrival := if n % 3 = 0 then .stdout else if n % 3 = 1 then .stderr else .hangup
    receivedMs := n, wait := .running, forceKillRequested := false
    cancellationRequested := false, elapsedMs := n }

theorem sampleTurns_fair : Fair sampleRequest.limits sampleTurns := by
  refine ⟨fun n => ⟨3 * n, by omega, ?_⟩, fun n => ⟨3 * n + 1, by omega, ?_⟩,
    fun n => ⟨3 * n + 2, by omega, ?_⟩, ⟨3, by decide⟩⟩
  · simp [sampleTurns]
  · have hmod : (3 * n + 1) % 3 = 1 := by omega
    simp [sampleTurns, hmod]
  · have hmod : (3 * n + 2) % 3 = 2 := by omega
    simp [sampleTurns, hmod]

theorem streamed_run_loses_nothing_sample : ∃ n events output,
    runCodexDirectWorkStreaming sampleRequest sampleEnvironment (firstTurns sampleTurns n) =
      some (events, output) ∧ output.eventCount = events.length ∧
      DeliveredOutput sampleRequest.limits sampleEnvironment events output := by
  obtain ⟨n, hsome⟩ :=
    (streamed_run_loses_nothing sampleRequest sampleEnvironment).2 sampleTurns sampleTurns_fair
  obtain ⟨⟨events, output⟩, hrun⟩ := Option.isSome_iff_exists.mp hsome
  obtain ⟨hcount, -, hdelivered⟩ :=
    (streamed_run_loses_nothing sampleRequest sampleEnvironment).1 _ _ _ hrun
  exact ⟨n, events, output, hrun, hcount, hdelivered _ rfl⟩

end HobitQueue.Codex
