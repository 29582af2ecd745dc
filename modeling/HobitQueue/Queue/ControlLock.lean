import HobitQueue.Lib.OptimisticLock
import HobitQueue.Queue.History

/-!
# The optimistic lock of the control state

Every request to set the control state of a workspace is one transaction, and the control
state that is there or would be created is a cell with a version. A request is an access
of this cell, so no interleaving of requests loses an update.
-/

namespace HobitQueue

open Concurrent StoreProg Relational Machine

/-- What a request can set. -/
structure ControlValue where
  status : String
  actorId : Option String
  reason : Option String
  deriving DecidableEq

/-- The control state of a workspace, or the one that its first access creates. -/
def controlCell (workspaceId : String) (s : SqliteStore) : Cell ControlValue :=
  match s.getAgentQueueControlState workspaceId with
  | some row => ⟨⟨row.status, row.updatedByActorId, row.reason⟩, row.version⟩
  | none => ⟨⟨agentQueueControlStatusDisabled, none, none⟩, defaultAgentQueueControlVersion⟩

/-- A checked request on the cell: it needs the version it expects, and a new status. -/
def setControlCell (n : SetAgentQueueControlStateInput) (c : Cell ControlValue) :
    AgentQueueControlCommandStatus × Cell ControlValue :=
  if n.expectedVersion.any (· ≠ c.version) then (.versionConflict, c)
  else if c.value.status = n.status then (.alreadyInState, c)
  else (.succeeded, ⟨⟨n.status, n.actorId, n.reason⟩, c.version + 1⟩)

/-! ## Rows and cells -/

theorem clash_of_controlWorkspace {a b : AgentQueueControlStateRow}
    (h : a.workspaceId = b.workspaceId) : Clash a b :=
  ⟨("workspace_id", [a.workspaceId]), by simp [Row.keys], by simp [Row.keys, h]⟩

theorem getAgentQueueControlState_eq_some {s : SqliteStore} {workspaceId : String}
    {row : AgentQueueControlStateRow} :
    s.getAgentQueueControlState workspaceId = some row ↔
      row ∈ s.agentQueueControlStates ∧ row.workspaceId = workspaceId := by
  have hunique : ∀ a b : AgentQueueControlStateRow, (a.workspaceId == workspaceId) = true →
      (b.workspaceId == workspaceId) = true → Clash a b := by
    intro a b ha hb
    exact clash_of_controlWorkspace ((beq_iff_eq.1 ha).trans (beq_iff_eq.1 hb).symm)
  rw [SqliteStore.getAgentQueueControlState, Table.find_eq_some hunique, beq_iff_eq]

/-- The cell of a stored row. -/
def AgentQueueControlStateRow.cell (row : AgentQueueControlStateRow) : Cell ControlValue :=
  ⟨⟨row.status, row.updatedByActorId, row.reason⟩, row.version⟩

theorem controlCell_of_mem {s : SqliteStore} {row : AgentQueueControlStateRow}
    (h : row ∈ s.agentQueueControlStates) : controlCell row.workspaceId s = row.cell := by
  rw [controlCell, getAgentQueueControlState_eq_some.2 ⟨h, rfl⟩]
  rfl

/-- Stores with the same row for a workspace, or without one, have the same cell. -/
theorem controlCell_congr {s t : SqliteStore} {workspaceId : String}
    (h : ∀ row : AgentQueueControlStateRow, row.workspaceId = workspaceId →
      (row ∈ t.agentQueueControlStates ↔ row ∈ s.agentQueueControlStates)) :
    controlCell workspaceId t = controlCell workspaceId s := by
  have hget : t.getAgentQueueControlState workspaceId =
      s.getAgentQueueControlState workspaceId := by
    refine Option.ext fun row => ?_
    simp only [getAgentQueueControlState_eq_some]
    constructor
    · rintro ⟨hrow, hws⟩
      exact ⟨(h row hws).1 hrow, hws⟩
    · rintro ⟨hrow, hws⟩
      exact ⟨(h row hws).2 hrow, hws⟩
  rw [controlCell, controlCell, hget]

/-! ## The transaction -/

/-- **Creating the default row changes no cell.** -/
theorem ensureDefaultControlState_cells {workspaceId createdAt : String} {s t : SqliteStore}
    {row : AgentQueueControlStateRow}
    (h : exec (ensureDefaultControlState workspaceId createdAt) s = (.ok row, t)) :
    row ∈ t.agentQueueControlStates ∧ row.workspaceId = workspaceId ∧
      ∀ w, controlCell w t = controlCell w s := by
  rw [ensureDefaultControlState, exec_execute_ok, SqliteStore.ensureAgentQueueControlState] at h
  split at h
  · rename_i existing hexisting
    obtain ⟨rfl, rfl⟩ := Prod.mk.inj (Except.ok.inj h)
    obtain ⟨hrow, hws⟩ := getAgentQueueControlState_eq_some.1 hexisting
    exact ⟨hrow, hws, fun _ => rfl⟩
  · rename_i hnone
    obtain ⟨-, rfl, controls, hins, rfl⟩ := SqliteStore.inserted_ok.1 h
    have hnew := (Table.mem_insert hins _).2 (Or.inr rfl)
    refine ⟨hnew, rfl, fun w => ?_⟩
    by_cases hw : w = workspaceId
    · subst hw
      have hcell := controlCell_of_mem (s := { s with agentQueueControlStates := controls }) hnew
      refine hcell.trans ?_
      rw [controlCell, hnone]
      rfl
    · refine controlCell_congr fun row hrow => ?_
      rw [Table.mem_insert hins]
      refine or_iff_left ?_
      rintro rfl
      exact hw hrow.symm

/-- The row after a change. -/
def changedControlState (d : Draws) (n : SetAgentQueueControlStateInput)
    (row : AgentQueueControlStateRow) : AgentQueueControlStateRow :=
  { row with
    status := n.status
    version := row.version + 1
    updatedByActorId := n.actorId
    reason := n.reason
    updatedAt := d.timestamp 1 }

theorem changeControlState_cells {d : Draws} {n : SetAgentQueueControlStateInput}
    {existing : AgentQueueControlStateRow} {s t : SqliteStore}
    {r : SetAgentQueueControlStateResult} (hexisting : existing ∈ s.agentQueueControlStates)
    (hws : existing.workspaceId = n.workspaceId)
    (h : exec (changeControlState d n existing) s = (.ok r, t)) :
    (r.status, controlCell n.workspaceId t) =
        setControlCell n (controlCell n.workspaceId s) ∧
      ∀ w, w ≠ n.workspaceId → controlCell w t = controlCell w s := by
  have hcell : controlCell n.workspaceId s = existing.cell := hws ▸ controlCell_of_mem hexisting
  have hset : setControlCell n existing.cell =
      if n.expectedVersion.any (· ≠ existing.version) then (.versionConflict, existing.cell)
      else if existing.status = n.status then (.alreadyInState, existing.cell)
      else (.succeeded, ⟨⟨n.status, n.actorId, n.reason⟩, existing.version + 1⟩) := rfl
  rw [hcell, hset]
  rw [changeControlState] at h
  split at h
  · rename_i hconflict
    simp only [exec_pure, Prod.mk.injEq, Except.ok.injEq] at h
    obtain ⟨rfl, rfl⟩ := h
    rw [if_pos hconflict, hcell]
    exact ⟨rfl, fun _ _ => rfl⟩
  rename_i hconflict
  split at h
  · rename_i hsame
    simp only [exec_pure, Prod.mk.injEq, Except.ok.injEq] at h
    obtain ⟨rfl, rfl⟩ := h
    rw [if_neg hconflict, if_pos hsame, hcell]
    exact ⟨rfl, fun _ _ => rfl⟩
  rename_i hsame
  simp only [exec_bind_ok, exec_execute_ok, SqliteStore.updateAgentQueueControlState,
    Except.ok.injEq, Prod.mk.injEq] at h
  obtain ⟨updated, u, ⟨-, hu⟩, h⟩ := h
  replace hu := congrArg SqliteStore.agentQueueControlStates hu.symm
  cases updated with
  | none => simp at h
  | some updated =>
    simp only [exec_pure, Prod.mk.injEq, Except.ok.injEq] at h
    obtain ⟨rfl, rfl⟩ := h
    rw [if_neg hconflict, if_neg hsame]
    have hmem : ∀ row, row ∈ u.agentQueueControlStates ↔ ∃ old ∈ s.agentQueueControlStates,
        (if old.workspaceId == n.workspaceId then changedControlState d n old else old) = row := by
      intro row
      rw [hu]
      simp only [Table.mem_def, Table.update, List.mem_map]
      rfl
    constructor
    · have hrow := (hmem _).2 ⟨existing, hexisting, if_pos (beq_iff_eq.2 hws)⟩
      have hnew := controlCell_of_mem hrow
      simp only [changedControlState, hws] at hnew
      rw [hnew]
      rfl
    · intro w hw
      refine controlCell_congr fun row hrow => ?_
      rw [hmem]
      constructor
      · rintro ⟨old, hold, rfl⟩
        by_cases hown : (old.workspaceId == n.workspaceId) = true
        · rw [if_pos hown] at hrow
          exact absurd (hrow.symm.trans (beq_iff_eq.1 hown)) hw
        · rw [if_neg hown]
          exact hold
      · intro hold
        exact ⟨row, hold, if_neg (by simpa [hrow] using hw)⟩

/-- **The transaction of a checked request is the request on the cell** of its workspace, and
leaves the other cells alone. -/
theorem setAgentQueueControlState_refines {d : Draws} {input n : SetAgentQueueControlStateInput}
    {s t : SqliteStore} {r : SetAgentQueueControlStateResult}
    (hn : normalizeControlInput input = .ok n) (hworkspace : (s.getWorkspace n.workspaceId).isSome)
    (h : exec (setAgentQueueControlState d input) s = (.ok r, t)) :
    (r.status, controlCell n.workspaceId t) = setControlCell n (controlCell n.workspaceId s) ∧
      ∀ w, w ≠ n.workspaceId → controlCell w t = controlCell w s := by
  have hnone : (s.getWorkspace n.workspaceId).isNone = false := by simpa using hworkspace
  unfold setAgentQueueControlState at h
  rw [hn] at h
  rcases exec_withImmediateTransaction h with ⟨a, ha, hrun⟩ | ⟨⟨e, he⟩, -⟩
  · obtain rfl := Except.ok.inj ha
    rw [exec_query_bind, hnone] at hrun
    simp only [Bool.false_eq_true, ↓reduceIte, exec_bind_ok] at hrun
    obtain ⟨existing, u, hensure, hchange⟩ := hrun
    obtain ⟨hexisting, hws, hcells⟩ := ensureDefaultControlState_cells hensure
    obtain ⟨hown, hothers⟩ := changeControlState_cells hexisting hws hchange
    rw [hcells] at hown
    exact ⟨hown, fun w hw => (hothers w hw).trans (hcells w)⟩
  · cases he

/-! ## Interleavings -/

structure ControlRequest where
  d : Draws
  input : SetAgentQueueControlStateInput

/-- The answer of a request that changed the control state of a workspace. -/
def ControlRequest.Succeeds (request : ControlRequest) (workspaceId : String)
    (answer : Except WorkspaceServiceError SetAgentQueueControlStateResult) : Prop :=
  ∃ r, answer = .ok r ∧ r.status = .succeeded ∧
    Text.trim request.input.workspaceId = workspaceId

theorem requiredField_ok {value fieldName v : String} (h : requiredField value fieldName = .ok v) :
    v = Text.trim value := by
  rw [requiredField] at h
  split at h
  · cases h
  · exact (Except.ok.inj h).symm

theorem normalizeControlInput_ok {input n : SetAgentQueueControlStateInput}
    (h : normalizeControlInput input = .ok n) :
    n.workspaceId = Text.trim input.workspaceId ∧ n.expectedVersion = input.expectedVersion := by
  rw [normalizeControlInput] at h
  cases hws : requiredField input.workspaceId "workspace_id" with
  | error e => simp [hws, bind, Except.bind] at h
  | ok workspaceId =>
    cases hstatus : requiredField input.status "status" with
    | error e => simp [hws, hstatus, bind, Except.bind] at h
    | ok status =>
      simp only [hws, hstatus, bind, Except.bind] at h
      split at h
      · cases h
      split at h
      · cases h
      split at h
      · cases h
      split at h
      · cases h
      obtain rfl := Except.ok.inj h
      exact ⟨requiredField_ok hws, rfl⟩

/-- A request on the cell is an access of it. -/
theorem access_setControlCell (n : SetAgentQueueControlStateInput) (c : Cell ControlValue) :
    c.Access n.expectedVersion (decide ((setControlCell n c).1 = .succeeded))
      (setControlCell n c).2 := by
  unfold setControlCell
  split
  · exact rfl
  rename_i hversion
  split
  · exact rfl
  · refine ⟨fun v hv => ?_, rfl⟩
    rw [Option.mem_def] at hv
    simpa [hv] using hversion

/-- **A request is one access of the cell of each workspace**, and it writes when it
succeeds there. -/
theorem ControlRequest.maintains (request : ControlRequest) (workspaceId : String)
    {assume : SqliteStore → Prop} :
    (setAgentQueueControlState request.d request.input).Maintains assume
      (LockCommit (controlCell workspaceId) request.input.expectedVersion)
      (fun record => record ≠ some true)
      (fun record r => record = some true ↔ request.Succeeds workspaceId (.ok r)) none := by
  have hnone : ∀ r : SetAgentQueueControlStateResult,
      (r.status = .succeeded → Text.trim request.input.workspaceId ≠ workspaceId) →
      ((none : Option Bool) = some true ↔ request.Succeeds workspaceId (.ok r)) := by
    intro r hr
    simp only [reduceCtorEq, false_iff]
    rintro ⟨r', hr', hstatus, hws⟩
    obtain rfl := Except.ok.inj hr'
    exact hr hstatus hws
  cases hn : normalizeControlInput request.input with
  | error blocker =>
    unfold setAgentQueueControlState
    rw [hn]
    exact maintains_pure (hnone _ (by simp))
  | ok n =>
    obtain ⟨hws, hversion⟩ := normalizeControlInput_ok hn
    have hrun : ∀ s t r, exec (setAgentQueueControlState request.d request.input) s = (.ok r, t) →
        ∃ record, LockCommit (controlCell workspaceId) request.input.expectedVersion none s t
          record ∧ (record = some true ↔ request.Succeeds workspaceId (.ok r)) := by
      intro s t r h
      by_cases hworkspace : (s.getWorkspace n.workspaceId).isSome = true
      · obtain ⟨hown, hothers⟩ := setAgentQueueControlState_refines hn hworkspace h
        by_cases hw : workspaceId = n.workspaceId
        · subst hw
          have hstatus := congrArg Prod.fst hown
          have hcell := congrArg Prod.snd hown
          dsimp only at hstatus hcell
          have haccess := access_setControlCell n (controlCell n.workspaceId s)
          rw [← hcell, ← hstatus, hversion] at haccess
          refine ⟨some (decide (r.status = .succeeded)), .accessed haccess, ?_⟩
          constructor
          · intro hsucceeded
            exact ⟨r, rfl, by simpa using hsucceeded, hws.symm⟩
          · rintro ⟨r', hr', hsucceeded, -⟩
            obtain rfl := Except.ok.inj hr'
            simp [hsucceeded]
        · refine ⟨none, .idle (hothers _ hw), hnone r fun _ htrim => ?_⟩
          exact hw (htrim.symm.trans hws.symm)
      · have hmissing : (s.getWorkspace n.workspaceId).isNone = true := by
          simpa using hworkspace
        unfold setAgentQueueControlState at h
        rw [hn] at h
        rcases exec_withImmediateTransaction h with ⟨a, ha, hrun⟩ | ⟨⟨e, he⟩, -⟩
        · obtain rfl := Except.ok.inj ha
          rw [exec_query_bind, hmissing, if_pos rfl, exec_pure] at hrun
          obtain ⟨hr, rfl⟩ := Prod.mk.inj hrun
          obtain rfl := Except.ok.inj hr
          exact ⟨none, .idle rfl, hnone _ (by simp)⟩
        · cases he
    unfold setAgentQueueControlState at hrun ⊢
    rw [hn] at hrun ⊢
    exact maintains_withImmediateTransaction (fun s _ => ⟨none, .idle rfl, by simp⟩)
      fun s t r _ h => hrun s t r h

theorem ControlRequest.single (request : ControlRequest) :
    (ExceptT.run (setAgentQueueControlState request.d request.input)).Single := by
  unfold setAgentQueueControlState
  split
  · trivial
  · exact fun s => ⟨_, rfl⟩

/-- The pool of the requests. -/
def controlPool {ι : Type} (s : SqliteStore) (requests : ι → ControlRequest) :
    Pool SqliteStore ι (Except WorkspaceServiceError SetAgentQueueControlStateResult) :=
  Pool.start s fun i =>
    ExceptT.run (setAgentQueueControlState (requests i).d (requests i).input)

section Interleavings

variable {ι : Type}

/-- The state of a pool of requests, with the records of its clients. -/
structure ControlSafe (base : ℤ) (workspaceId : String) (requests : ι → ControlRequest)
    (p : Pool SqliteStore ι (Except WorkspaceServiceError SetAgentQueueControlStateResult))
    (record : ι → Option Bool) : Prop where
  counted : Counted base (fun i => (requests i).input.expectedVersion)
    (controlCell workspaceId p.store) record
  sound : p.Sound (fun _ _ _ => True)
    (fun i _ => LockCommit (controlCell workspaceId) (requests i).input.expectedVersion)
    (fun i record answer => record = some true ↔ (requests i).Succeeds workspaceId answer) record
  clients : LockClients p record

theorem controlSafe_start (s : SqliteStore) (workspaceId : String)
    (requests : ι → ControlRequest) :
    ControlSafe (controlCell workspaceId s).version workspaceId requests
      (controlPool s requests) fun _ => none where
  counted := counted_start _ _
  sound := by
    refine Pool.sound_start fun i s₀ => ?_
    have hprog := (@ControlRequest.maintains (requests i) workspaceId fun _ => True).prog
    refine hprog.mono fun record answer hanswer => ?_
    cases answer with
    | ok r => exact hanswer
    | error e => exact iff_of_false hanswer fun ⟨r, hr, _⟩ => by cases hr
  clients := by
    refine ⟨fun i => ?_, fun _ _ => rfl⟩
    dsimp only [controlPool, Pool.start]
    exact (requests i).single

/-- A client has a write on record when its answer is a success. -/
theorem ControlSafe.wrote_iff {base : ℤ} {workspaceId : String} {requests : ι → ControlRequest}
    {p : Pool SqliteStore ι (Except WorkspaceServiceError SetAgentQueueControlStateResult)}
    {record : ι → Option Bool} (h : ControlSafe base workspaceId requests p record) (i : ι) :
    record i = some true ↔ ∃ answer ∈ p.answer i, (requests i).Succeeds workspaceId answer := by
  constructor
  · intro hwrote
    cases hanswer : p.answer i with
    | none => simp [h.clients.unrecorded i hanswer] at hwrote
    | some answer =>
      exact ⟨answer, rfl, (h.sound.answer_post (fun _ _ => trivial) hanswer).1 hwrote⟩
  · rintro ⟨answer, hanswer, hsucceeds⟩
    exact (h.sound.answer_post (fun _ _ => trivial) hanswer).2 hsucceeds

variable [DecidableEq ι]

theorem ControlSafe.after {base : ℤ} {workspaceId : String} {requests : ι → ControlRequest}
    {p : Pool SqliteStore ι (Except WorkspaceServiceError SetAgentQueueControlStateResult)}
    {record : ι → Option Bool} (h : ControlSafe base workspaceId requests p record)
    (schedule : List ι) :
    ∃ record', ControlSafe base workspaceId requests (after Pool.step p schedule) record' ∧
      (controlCell workspaceId p.store).version ≤
        (controlCell workspaceId (after Pool.step p schedule).store).version := by
  obtain ⟨record', hcounted, hsound, hclients, hle⟩ :=
    counted_after h.sound h.clients h.counted schedule
  exact ⟨record', ⟨hcounted, hsound, hclients⟩, hle⟩

/-- **The control state loses no update**: in every interleaving its version never
decreases and counts the requests that succeeded, no two requests that succeeded expected
the same version, and a request that did not succeed left the control state as it was. -/
theorem control_loses_no_update (s : SqliteStore) (workspaceId : String)
    (requests : ι → ControlRequest) (before later : List ι) :
    let p := after Pool.step (controlPool s requests) before
    let q := after Pool.step (controlPool s requests) (before ++ later)
    let succeeded := {i | ∃ answer ∈ q.answer i, (requests i).Succeeds workspaceId answer}
    (controlCell workspaceId p.store).version ≤ (controlCell workspaceId q.store).version ∧
    succeeded.Finite ∧
    (controlCell workspaceId q.store).version =
      (controlCell workspaceId s).version + succeeded.ncard ∧
    (∀ i ∈ succeeded, ∀ j ∈ succeeded, ∀ v, (requests i).input.expectedVersion = some v →
      (requests j).input.expectedVersion = some v → i = j) ∧
    ∀ i, (∀ answer ∈ (q.step i).answer i, ¬ (requests i).Succeeds workspaceId answer) →
      controlCell workspaceId (q.step i).store = controlCell workspaceId q.store := by
  intro p q succeeded
  obtain ⟨record₁, hsafe₁, -⟩ := (controlSafe_start s workspaceId requests).after before
  obtain ⟨record₂, hsafe₂, hle⟩ := hsafe₁.after later
  have hq : after Pool.step (after Pool.step (controlPool s requests) before) later = q :=
    (after_append _ _ _ _).symm
  rw [hq] at hsafe₂ hle
  have hset : {i | record₂ i = some true} = succeeded := Set.ext hsafe₂.wrote_iff
  refine ⟨hle, hset ▸ hsafe₂.counted.finite, hset ▸ hsafe₂.counted.version, ?_, ?_⟩
  · intro i hi j hj v hvi hvj
    exact hsafe₂.counted.unique i j v ((hsafe₂.wrote_iff i).2 hi) ((hsafe₂.wrote_iff j).2 hj)
      hvi hvj
  · intro i hfailed
    obtain hsame | ⟨record', hcommit, hsound⟩ :=
      hsafe₂.sound.step (fun _ _ => trivial) i fun _ _ _ _ _ => trivial
    · rw [hsame]
    · refine hcommit.view_eq fun hwrote => ?_
      obtain ⟨answer, -, hanswer⟩ := Pool.answer_step_of_single (hsafe₂.clients.single i)
      have hpost := hsound.answer_post (fun _ _ => trivial) hanswer
      simp only [Function.update_self, hwrote, true_iff] at hpost
      exact hfailed answer hanswer hpost

end Interleavings

end HobitQueue
