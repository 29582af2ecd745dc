import HobitQueue.Service.Basic

/-!
# The Queue control state

Each workspace has a control state that says whether workers may be started. The
row is created on first use, disabled, and its version counts the changes.
-/

namespace HobitQueue

open Concurrent StoreProg

def agentQueueControlStatusDisabled : String := "disabled"
def agentQueueControlStatusManualEnabled : String := "manual_enabled"
def defaultAgentQueueControlVersion : ℤ := 1
def maxAgentQueueControlReasonChars : ℕ := 512

structure SetAgentQueueControlStateInput where
  workspaceId : String
  status : String
  actorId : Option String
  reason : Option String
  expectedVersion : Option ℤ

inductive AgentQueueControlCommandStatus where
  | succeeded | alreadyInState | invalidInput | workspaceNotFound | versionConflict
  deriving DecidableEq, Repr

structure AgentQueueControlCommandBlocker where
  blockerCode : String
  blockerMessage : String
  expectedVersion : Option ℤ
  actualVersion : Option ℤ
  missingRequiredField : Option String
  deriving DecidableEq

/-- The answer of the command; its control state is the stored row. -/
structure SetAgentQueueControlStateResult where
  status : AgentQueueControlCommandStatus
  controlState : Option AgentQueueControlStateRow
  blocker : Option AgentQueueControlCommandBlocker
  deriving DecidableEq

def requiredField (value fieldName : String) :
    Except AgentQueueControlCommandBlocker String :=
  if Text.trim value = "" then
    .error ⟨"missing_required_field", fieldName ++ " is required.", none, none, some fieldName⟩
  else .ok (Text.trim value)

def normalizeOptionalString (value : Option String) (fieldName : String) (maxChars : ℕ) :
    Except AgentQueueControlCommandBlocker (Option String) :=
  match Text.optionalTrimmed value with
  | none => .ok none
  | some value =>
      if maxChars < value.length then
        .error ⟨"input_too_large", fieldName ++ " must be no longer than " ++
          Nat.repr maxChars ++ " characters.", none, none, some fieldName⟩
      else .ok (some value)

def normalizeControlInput (input : SetAgentQueueControlStateInput) :
    Except AgentQueueControlCommandBlocker SetAgentQueueControlStateInput := do
  let workspaceId ← requiredField input.workspaceId "workspace_id"
  let status ← requiredField input.status "status"
  if status ≠ agentQueueControlStatusDisabled ∧ status ≠ agentQueueControlStatusManualEnabled then
    .error ⟨"unsupported_status", "unsupported Queue control status: " ++ status,
      input.expectedVersion, none, some "status"⟩
  else
    let actorId ← normalizeOptionalString input.actorId "actor_id" 128
    let reason ← normalizeOptionalString input.reason "reason" maxAgentQueueControlReasonChars
    if input.expectedVersion.any (· < 0) then
      .error ⟨"invalid_expected_version", "expected_version must not be negative.",
        input.expectedVersion, none, some "expected_version"⟩
    else .ok ⟨workspaceId, status, actorId, reason, input.expectedVersion⟩

/-- The control row of a workspace, created when it is not there. -/
def ensureDefaultControlState (workspaceId createdAt : String) :
    Sqlite AgentQueueControlStateRow :=
  execute fun s => s.ensureAgentQueueControlState
    { workspaceId := workspaceId
      status := agentQueueControlStatusDisabled
      version := defaultAgentQueueControlVersion
      updatedByActorId := none
      reason := none
      createdAt := createdAt
      updatedAt := createdAt }

/-- The change of an existing control state to a checked one. -/
def changeControlState (d : Draws) (input : SetAgentQueueControlStateInput)
    (existing : AgentQueueControlStateRow) : Sqlite SetAgentQueueControlStateResult :=
  if input.expectedVersion.any (· ≠ existing.version) then
    pure ⟨.versionConflict, some existing, some ⟨"version_conflict",
      "Queue control state version conflict: expected " ++
        toString (input.expectedVersion.getD 0) ++ ", actual " ++ toString existing.version ++
        ".", input.expectedVersion, some existing.version, none⟩⟩
  else if existing.status = input.status then
    pure ⟨.alreadyInState, some existing, none⟩
  else do
    let updated ← execute fun s => s.updateAgentQueueControlState input.workspaceId input.status
      input.actorId input.reason (d.timestamp 1)
    match updated with
    | some updated => pure ⟨.succeeded, some updated, none⟩
    | none => throw .queryReturnedNoRows

/-- The command that changes the control row. -/
def setAgentQueueControlState (d : Draws) (input : SetAgentQueueControlStateInput) :
    Service SetAgentQueueControlStateResult :=
  match normalizeControlInput input with
  | .error blocker => pure ⟨.invalidInput, none, some blocker⟩
  | .ok input => withImmediateTransaction .storage do
      let workspace ← query fun s => s.getWorkspace input.workspaceId
      if workspace.isNone then
        pure ⟨.workspaceNotFound, none, some ⟨"workspace_not_found",
          "workspace not found: " ++ input.workspaceId, input.expectedVersion, none, none⟩⟩
      else do
        let existing ← ensureDefaultControlState input.workspaceId (d.timestamp 0)
        changeControlState d input existing

/-! ## What the command does -/

/-- Two stores differ at most in the control states. -/
def ControlOnly (s t : SqliteStore) : Prop :=
  ∃ controls, t = { s with agentQueueControlStates := controls }

theorem ControlOnly.refl (s : SqliteStore) : ControlOnly s s := ⟨_, rfl⟩

theorem ControlOnly.trans {s t u : SqliteStore} (h : ControlOnly s t) (h' : ControlOnly t u) :
    ControlOnly s u := by
  obtain ⟨c, rfl⟩ := h
  obtain ⟨c', rfl⟩ := h'
  exact ⟨c', rfl⟩

theorem ensureAgentQueueControlState_ok {s t : SqliteStore}
    {row row' : AgentQueueControlStateRow}
    (h : s.ensureAgentQueueControlState row = .ok (row', t)) : ControlOnly s t := by
  unfold SqliteStore.ensureAgentQueueControlState at h
  split at h
  · obtain ⟨-, rfl⟩ := Prod.mk.inj (Except.ok.inj h)
    exact ControlOnly.refl s
  · obtain ⟨-, -, controls, -, rfl⟩ := SqliteStore.inserted_ok.1 h
    exact ⟨controls, rfl⟩

theorem ensureDefaultControlState_ok {workspaceId createdAt : String} {s t : SqliteStore}
    {row : AgentQueueControlStateRow}
    (h : exec (ensureDefaultControlState workspaceId createdAt) s = (.ok row, t)) :
    ControlOnly s t :=
  ensureAgentQueueControlState_ok (exec_execute_ok.1 h)

theorem changeControlState_ok {d : Draws} {input : SetAgentQueueControlStateInput}
    {existing : AgentQueueControlStateRow} {s t : SqliteStore}
    {r : SetAgentQueueControlStateResult}
    (h : exec (changeControlState d input existing) s = (.ok r, t)) : ControlOnly s t := by
  unfold changeControlState at h
  split at h
  · rw [exec_pure] at h
    obtain ⟨-, rfl⟩ := Prod.mk.inj h
    exact ControlOnly.refl s
  split at h
  · rw [exec_pure] at h
    obtain ⟨-, rfl⟩ := Prod.mk.inj h
    exact ControlOnly.refl s
  simp only [exec_bind_ok, exec_execute_ok, SqliteStore.updateAgentQueueControlState,
    Except.ok.injEq, Prod.mk.injEq] at h
  obtain ⟨updated, u, ⟨-, rfl⟩, h⟩ := h
  cases updated with
  | none => simp at h
  | some updated =>
    rw [exec_pure] at h
    obtain ⟨-, rfl⟩ := Prod.mk.inj h
    exact ⟨_, rfl⟩

theorem setAgentQueueControlState_effect {d : Draws} {input : SetAgentQueueControlStateInput}
    {s t : SqliteStore} {r : Except WorkspaceServiceError SetAgentQueueControlStateResult}
    (h : exec (setAgentQueueControlState d input) s = (r, t)) : ControlOnly s t := by
  unfold setAgentQueueControlState at h
  split at h
  · rw [exec_pure] at h
    obtain ⟨-, rfl⟩ := Prod.mk.inj h
    exact ControlOnly.refl s
  · rcases exec_withImmediateTransaction h with ⟨a, -, hrun⟩ | ⟨-, rfl⟩
    · rw [exec_query_bind] at hrun
      split at hrun
      · rw [exec_pure] at hrun
        obtain ⟨-, rfl⟩ := Prod.mk.inj hrun
        exact ControlOnly.refl s
      · rw [exec_bind_ok] at hrun
        obtain ⟨existing, u, hensure, hchange⟩ := hrun
        exact (ensureDefaultControlState_ok hensure).trans (changeControlState_ok hchange)
    · exact ControlOnly.refl t

end HobitQueue
