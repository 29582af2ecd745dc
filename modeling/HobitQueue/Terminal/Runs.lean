import HobitQueue.Lib.Numerals
import HobitQueue.Lib.Run
import HobitQueue.Terminal.OutputBuffers
import Mathlib.Logic.Relation

/-!
# Runs of the terminal sessions

Whatever the platform answers, a session that has ended stays as it is until it is closed, no
session is lost while its process goes on, and the output that a session shows is the end of what
its process has written.

## Main results

* `sessions_coherent_after` — every session is coherent, and no two have one id.
* `ended_sessions_stay` — a session that has ended does not change any more.
* `sessions_leave_closed` — a session leaves the map by a close that finds it ended.
* `output_shown_after` — the output of a session is the end of what its process has written.
-/

namespace HobitQueue.TerminalPty

open Machine

/-! ## What happens to a session -/

/-- What a call does to a session, its output apart. -/
inductive Move : TerminalPtySession → TerminalPtySession → Prop
  | ended {s : TerminalPtySession} (time : String) (exitCode : ℤ) (hactive : s.status.isActive) :
      Move s { s with
        hasRuntime := false
        exitCode := some exitCode
        endedAt := some time
        status := if s.stopRequested then .stopped else .exited }
  | probeFailed {s : TerminalPtySession} (error : String) (hactive : s.status.isActive) :
      Move s { s with errorMessage := some error }
  | resized {s : TerminalPtySession} {size : TerminalPtySize} (hcols : 0 < size.cols)
      (hrows : 0 < size.rows) (hactive : s.status.isActive) : Move s { s with size := size }
  | stopRequested {s : TerminalPtySession} (hactive : s.status.isActive) :
      Move s { s with stopRequested := true, status := .stopping }
  | killed {s : TerminalPtySession} (time : String) (hactive : s.status.isActive) :
      Move s { s with
        hasRuntime := false
        status := .killed
        endedAt := some time
        exitCode := none }
  | killFailed {s : TerminalPtySession} (hactive : s.status.isActive) :
      Move s { s with hasRuntime := false }

abbrev Moves := Relation.ReflTransGen Move

/-- What every move keeps, moves keep. -/
theorem Moves.keep {P : TerminalPtySession → Prop} (hmove : ∀ r s, Move r s → P r → P s)
    {r s : TerminalPtySession} (h : Moves r s) (hr : P r) : P s := by
  induction h with
  | refl => exact hr
  | tail _ hlast ih => exact hmove _ _ hlast ih

theorem Moves.same {r s : TerminalPtySession} (h : Moves r s) :
    s.sessionId = r.sessionId ∧ s.output = r.output := by
  refine h.keep (P := fun s => s.sessionId = r.sessionId ∧ s.output = r.output) ?_ ⟨rfl, rfl⟩
  intro s t hmove hs
  cases hmove <;> exact hs

/-- A session that has ended does not move. -/
theorem Moves.eq_of_ended {r s : TerminalPtySession} (h : Moves r s)
    (hended : r.status.isActive = false) : s = r := by
  cases h using Relation.ReflTransGen.head_induction_on with
  | refl => rfl
  | head hmove _ =>
    have hactive : r.status.isActive = true := by cases hmove <;> assumption
    exact absurd (hended.symm.trans hactive) (by decide)

theorem moves_refreshStatus (p : Platform) (s : TerminalPtySession) :
    Moves s (s.refreshStatus p) := by
  unfold TerminalPtySession.refreshStatus
  split
  · exact .refl
  · rename_i hactive
    have hactive' : s.status.isActive = true := by simpa using hactive
    split
    · exact .refl
    · split
      · exact .single (.ended _ _ hactive')
      · exact .refl
      · exact .single (.probeFailed _ hactive')

theorem moves_withRuntime {r s : TerminalPtySession} (hr : Moves r s) (answer : Except String Unit)
    {f : TerminalPtySession → TerminalPtySession} (hf : Moves s (f s)) :
    Moves r (TerminalPtySessionManager.withRuntime s answer f).2 := by
  unfold TerminalPtySessionManager.withRuntime
  split
  · exact hr
  · split
    · exact hr
    · exact hr.trans hf

/-! ## What happens to the map -/

/-- The session that a create request adds. -/
structure IsNew (m : TerminalPtySessionManager) (s : TerminalPtySession) : Prop where
  sessionId : ∃ unixNanos, s.sessionId = sessionIdOf unixNanos m.nextSessionSuffix
  status : s.status = .running
  endedAt : s.endedAt = none
  exitCode : s.exitCode = none
  stopRequested : s.stopRequested = false
  cols : 0 < s.size.cols
  rows : 0 < s.size.rows
  output : ∃ capBytes ≤ maxOutputBufferCapBytes, s.output = { capBytes := capBytes }

/-- The sessions move, one is added, one that has ended is taken out, or one has more output. -/
inductive Effect (m : TerminalPtySessionManager) : Op → TerminalPtySessionManager → Prop
  | moved {op : Op} {t : TerminalPtySessionManager} {walked : List TerminalPtySession}
      (hperm : walked.Perm m.sessions) (hmoves : List.Forall₂ Moves walked t.sessions)
      (hsuffix : t.nextSessionSuffix = m.nextSessionSuffix ∨
        t.nextSessionSuffix = (m.nextSessionSuffix + 1) % (wordMax + 1)) : Effect m op t
  | created {op : Op} {t : TerminalPtySessionManager} {s : TerminalPtySession} (hnew : IsNew m s)
      (hsessions : t.sessions = (m.remove s.sessionId).sessions ++ [s])
      (hsuffix : t.nextSessionSuffix = (m.nextSessionSuffix + 1) % (wordMax + 1)) :
      Effect m op t
  | closed {p : Platform} {scope : TerminalPtySessionScope} {r : TerminalPtySession}
      (hget : m.get scope.sessionId = some r) (hscope : r.matchesScope scope)
      (hended : (r.refreshStatus p).status.isActive = false) :
      Effect m (.close p scope) (m.remove scope.sessionId)
  | wrote {sessionId : String} {bytes : List UInt8} :
      Effect m (.output sessionId bytes) (m.pushTerminalOutput sessionId bytes)

/-- The ids of the sessions are different. -/
def UniqueIds (m : TerminalPtySessionManager) : Prop := (m.sessions.map (·.sessionId)).Nodup

theorem UniqueIds.eq_of_get {m : TerminalPtySessionManager} (h : UniqueIds m) {id : String}
    {r s : TerminalPtySession} (hr : m.get id = some r) (hs : s ∈ m.sessions)
    (hid : s.sessionId = id) : s = r := by
  have hmem := List.mem_of_find?_eq_some hr
  have hrid : r.sessionId = id := by simpa using List.find?_some hr
  exact List.inj_on_of_nodup_map h hs hmem (hid.trans hrid.symm)

theorem Effect.refl (m : TerminalPtySessionManager) (op : Op) : Effect m op m :=
  .moved (List.Perm.refl _) (List.forall₂_same.2 fun _ _ => .refl) (Or.inl rfl)

/-- One session of the map moves. -/
theorem effect_of_moves {m : TerminalPtySessionManager} (hm : UniqueIds m) {op : Op} {id : String}
    {r s : TerminalPtySession} (hr : m.get id = some r) (hs : Moves r s) :
    Effect m op { m with
      sessions := m.sessions.map fun a => if a.sessionId = id then s else a } := by
  refine .moved (List.Perm.refl _) ?_ (Or.inl rfl)
  refine List.forall₂_map_right_iff.2 (List.forall₂_same.2 fun a ha => ?_)
  split
  · rename_i hid
    exact hm.eq_of_get hr ha hid ▸ hs
  · exact .refl

theorem effect_withMatchingSessionMut {m : TerminalPtySessionManager} (hm : UniqueIds m) {op : Op}
    {scope : TerminalPtySessionScope}
    {action : TerminalPtySession → Except String TerminalPtySessionSnapshot × TerminalPtySession}
    (haction : ∀ s, Moves s (action s).2) :
    Effect m op (m.withMatchingSessionMut scope action).2 := by
  unfold TerminalPtySessionManager.withMatchingSessionMut
  split
  · exact .refl m op
  · rename_i session hget
    split
    · exact .refl m op
    · exact effect_of_moves hm hget (haction session)

theorem walked_perm (m : TerminalPtySessionManager) (p : Platform) :
    (m.walked p).Perm m.sessions :=
  List.perm_insertionSort _ _

theorem forall₂_anyRefreshed (p : Platform) (wanted : TerminalPtySession → Bool)
    (sessions : List TerminalPtySession) :
    List.Forall₂ Moves sessions
      (TerminalPtySessionManager.anyRefreshed p wanted sessions).2 := by
  induction sessions with
  | nil => exact .nil
  | cons s sessions ih =>
    rw [TerminalPtySessionManager.anyRefreshed]
    split
    · exact .cons (moves_refreshStatus p s) (List.forall₂_same.2 fun _ _ => .refl)
    · exact .cons (moves_refreshStatus p s) ih

theorem validateSize_ok {cols rows : ℕ} {size : TerminalPtySize}
    (h : validateSize cols rows = .ok size) : 0 < size.cols ∧ 0 < size.rows := by
  unfold validateSize at h
  split_ifs at h with hcols hrows
  obtain rfl := Except.ok.inj h
  exact ⟨Nat.pos_of_ne_zero hcols, Nat.pos_of_ne_zero hrows⟩

theorem validateBufferCap_ok {capBytes n : ℕ} (h : validateBufferCap capBytes = .ok n) :
    n ≤ maxOutputBufferCapBytes := by
  unfold validateBufferCap at h
  split_ifs at h with hcap
  obtain rfl := Except.ok.inj h
  exact Nat.le_of_not_gt hcap

theorem normalizeCreateRequest_ok {p : Platform} {request : TerminalPtyCreateRequest}
    {n : NormalizedTerminalPtyCreateRequest} (h : normalizeCreateRequest p request = .ok n) :
    0 < n.size.cols ∧ 0 < n.size.rows ∧ n.outputBufferCapBytes ≤ maxOutputBufferCapBytes := by
  simp only [normalizeCreateRequest, except_bind_ok] at h
  obtain ⟨_, -, _, -, _, -, _, -, _, -, size, hsize, capBytes, hcap, hn⟩ := h
  obtain rfl := Except.ok.inj hn
  obtain ⟨hcols, hrows⟩ := validateSize_ok hsize
  exact ⟨hcols, hrows, validateBufferCap_ok hcap⟩

theorem effect_create {m : TerminalPtySessionManager} (p : Platform)
    (request : TerminalPtyCreateRequest) :
    Effect m (.create p request) (perform m (.create p request)) := by
  rw [perform, TerminalPtySessionManager.createSession]
  split
  · exact .refl m _
  · rename_i n hn
    obtain ⟨hcols, hrows, hcap⟩ := normalizeCreateRequest_ok hn
    dsimp only
    split
    · exact .moved (List.Perm.refl _) (List.forall₂_same.2 fun _ _ => .refl) (Or.inr rfl)
    · refine .created (s := _) ?_ rfl rfl
      exact ⟨⟨_, rfl⟩, rfl, rfl, rfl, rfl, hcols, hrows, ⟨_, hcap, rfl⟩⟩

theorem effect_close {m : TerminalPtySessionManager} (hm : UniqueIds m) (p : Platform)
    (scope : TerminalPtySessionScope) :
    Effect m (.close p scope) (perform m (.close p scope)) := by
  rw [perform, TerminalPtySessionManager.closeSession]
  split
  · exact .refl m _
  · rename_i session hget
    split
    · exact .refl m _
    · rename_i hscope
      dsimp only
      split
      · exact effect_of_moves hm hget (moves_refreshStatus p session)
      · rename_i hended
        exact .closed hget (by simpa using hscope) (by simpa using hended)

/-- **What a call does to the map.** -/
theorem effect_perform {m : TerminalPtySessionManager} (hm : UniqueIds m) (op : Op) :
    Effect m op (perform m op) := by
  cases op with
  | create p request => exact effect_create p request
  | writeStdin p scope data =>
    rw [perform, TerminalPtySessionManager.writeStdin]
    split
    · exact .refl m _
    · refine effect_withMatchingSessionMut hm fun s => ?_
      dsimp only
      split
      · exact moves_refreshStatus p s
      · exact moves_withRuntime (moves_refreshStatus p s) _ .refl
  | resize p scope cols rows =>
    rw [perform, TerminalPtySessionManager.resizeSession]
    split
    · exact .refl m _
    · rename_i size hsize
      obtain ⟨hcols, hrows⟩ := validateSize_ok hsize
      refine effect_withMatchingSessionMut hm fun s => ?_
      dsimp only
      split
      · exact moves_refreshStatus p s
      · rename_i hactive
        exact moves_withRuntime (moves_refreshStatus p s) _
          (.single (.resized hcols hrows (by simpa using hactive)))
  | stop p scope =>
    refine effect_withMatchingSessionMut hm fun s => ?_
    dsimp only
    split
    · exact moves_refreshStatus p s
    · rename_i hactive
      exact moves_withRuntime (moves_refreshStatus p s) _
        (.single (.stopRequested (by simpa using hactive)))
  | kill p scope =>
    refine effect_withMatchingSessionMut hm fun s => ?_
    dsimp only
    split
    · exact moves_refreshStatus p s
    · rename_i hactive
      have hactive' : (s.refreshStatus p).status.isActive = true := by simpa using hactive
      split
      · exact (moves_refreshStatus p s).tail (.killFailed hactive')
      · exact (moves_refreshStatus p s).tail (.killed _ hactive')
  | close p scope => exact effect_close hm p scope
  | get p scope =>
    exact effect_withMatchingSessionMut hm fun s => moves_refreshStatus p s
  | list p filter =>
    exact .moved (walked_perm m p)
      (List.forall₂_map_right_iff.2 (List.forall₂_same.2 fun s _ => moves_refreshStatus p s))
      (Or.inl rfl)
  | hasActiveWidget p workspaceId workbenchId widgetInstanceId =>
    exact .moved (walked_perm m p) (forall₂_anyRefreshed p _ _) (Or.inl rfl)
  | hasActiveWorkspace p workspaceId =>
    exact .moved (walked_perm m p) (forall₂_anyRefreshed p _ _) (Or.inl rfl)
  | output sessionId bytes => exact .wrote

/-! ## Ids -/

/-- The counter at the end of an id. -/
theorem sessionIdOf_inj {n n' k k' : ℕ} (h : sessionIdOf n k = sessionIdOf n' k') : k = k' := by
  have hlist := congrArg String.toList h
  simp only [sessionIdOf, String.toList_append, Nat.toList_repr, List.append_assoc] at hlist
  have hsplit := Text.append_cons_inj_of_notMem_right (c := '_')
    (a := "tpty_".toList ++ Nat.toDigits 10 n) (b := "tpty_".toList ++ Nat.toDigits 10 n')
    Nat.underscore_not_in_toDigits Nat.underscore_not_in_toDigits
    (by simpa [List.append_assoc] using hlist)
  have hvalue := congrArg (Nat.ofDigitChars 10 · 0) hsplit.2
  simpa only [Nat.ofDigitChars_ten_toDigits] using hvalue

/-- The id was handed out already. -/
def HandedOut (m : TerminalPtySessionManager) (id : String) : Prop :=
  ∃ unixNanos k, id = sessionIdOf unixNanos k ∧ k < m.nextSessionSuffix

/-- After `n` calls the ids of the map are different, and come from the counter. -/
structure Counted (n : ℕ) (m : TerminalPtySessionManager) : Prop where
  unique : UniqueIds m
  handedOut : ∀ s ∈ m.sessions, HandedOut m s.sessionId
  suffix : m.nextSessionSuffix ≤ n + 1

theorem HandedOut.mono {m t : TerminalPtySessionManager} {id : String} (h : HandedOut m id)
    (hle : m.nextSessionSuffix ≤ t.nextSessionSuffix) : HandedOut t id := by
  obtain ⟨unixNanos, k, hid, hk⟩ := h
  exact ⟨unixNanos, k, hid, Nat.lt_of_lt_of_le hk hle⟩

/-- A new session has an id of its own. -/
theorem IsNew.ne_of_handedOut {m : TerminalPtySessionManager} {s : TerminalPtySession}
    (hnew : IsNew m s) {id : String} (hid : HandedOut m id) : s.sessionId ≠ id := by
  obtain ⟨unixNanos, hs⟩ := hnew.sessionId
  obtain ⟨_, k, rfl, hk⟩ := hid
  intro heq
  have hsame := sessionIdOf_inj (hs.symm.trans heq)
  omega

theorem mem_remove {m : TerminalPtySessionManager} {id : String} {s : TerminalPtySession} :
    s ∈ (m.remove id).sessions ↔ s ∈ m.sessions ∧ s.sessionId ≠ id := by
  simp [TerminalPtySessionManager.remove]

theorem remove_of_notMem {m : TerminalPtySessionManager} {id : String}
    (h : ∀ s ∈ m.sessions, s.sessionId ≠ id) : (m.remove id).sessions = m.sessions := by
  refine List.filter_eq_self.2 fun s hs => ?_
  simpa using h s hs

theorem exists_moves_to {l t : List TerminalPtySession} (h : List.Forall₂ Moves l t)
    {s : TerminalPtySession} (hs : s ∈ t) : ∃ r ∈ l, Moves r s := by
  induction h with
  | nil => cases hs
  | cons hmoves _ ih =>
    rcases List.mem_cons.1 hs with rfl | hs
    · exact ⟨_, List.mem_cons_self, hmoves⟩
    · obtain ⟨r, hr, hrs⟩ := ih hs
      exact ⟨r, List.mem_cons_of_mem _ hr, hrs⟩

theorem map_sessionId_of_moves {l t : List TerminalPtySession} (h : List.Forall₂ Moves l t) :
    t.map (·.sessionId) = l.map (·.sessionId) := by
  induction h with
  | nil => rfl
  | cons hmoves _ ih => rw [List.map_cons, List.map_cons, hmoves.same.1, ih]

theorem map_sessionId_pushTerminalOutput (m : TerminalPtySessionManager) (id : String)
    (bytes : List UInt8) : (m.pushTerminalOutput id bytes).sessions.map (·.sessionId) =
      m.sessions.map (·.sessionId) := by
  rw [TerminalPtySessionManager.pushTerminalOutput, List.map_map]
  refine List.map_congr_left fun s _ => ?_
  simp only [Function.comp]
  split <;> rfl

theorem exists_of_map_sessionId {l t : List TerminalPtySession}
    (hids : t.map (·.sessionId) = l.map (·.sessionId)) {s : TerminalPtySession} (hs : s ∈ t) :
    ∃ r ∈ l, r.sessionId = s.sessionId := by
  have hid : s.sessionId ∈ t.map (·.sessionId) := List.mem_map_of_mem hs
  rw [hids] at hid
  exact List.mem_map.1 hid

/-- The counter goes on, as long as it does not run over. -/
theorem Counted.suffix_le {n : ℕ} {m t : TerminalPtySessionManager} (h : Counted n m)
    (hn : n + 1 < wordMax) (hsuffix : t.nextSessionSuffix = m.nextSessionSuffix ∨
      t.nextSessionSuffix = (m.nextSessionSuffix + 1) % (wordMax + 1)) :
    m.nextSessionSuffix ≤ t.nextSessionSuffix ∧ t.nextSessionSuffix ≤ n + 2 := by
  have hle := h.suffix
  rcases hsuffix with heq | heq
  · omega
  · rw [Nat.mod_eq_of_lt (by omega)] at heq
    omega

theorem Counted.perform {n : ℕ} {m : TerminalPtySessionManager} (h : Counted n m)
    (hn : n + 1 < wordMax) (op : Op) : Counted (n + 1) (perform m op) := by
  have heffect := effect_perform h.unique op
  generalize TerminalPty.perform m op = t at heffect
  cases heffect with
  | moved hperm hmoves hsuffix =>
    obtain ⟨hle, hbound⟩ := h.suffix_le hn hsuffix
    have hids := map_sessionId_of_moves hmoves
    refine ⟨?_, fun s hs => ?_, hbound⟩
    · rw [UniqueIds, hids]
      exact (hperm.map _).nodup_iff.2 h.unique
    · obtain ⟨r, hr, heq⟩ := exists_of_map_sessionId hids hs
      exact heq ▸ (h.handedOut r (hperm.mem_iff.1 hr)).mono hle
  | @created _ _ s hnew hsessions hsuffix =>
    obtain ⟨hle, hbound⟩ := h.suffix_le hn (Or.inr hsuffix)
    have hfresh : ∀ r ∈ m.sessions, r.sessionId ≠ s.sessionId := fun r hr =>
      (hnew.ne_of_handedOut (h.handedOut r hr)).symm
    rw [remove_of_notMem hfresh] at hsessions
    refine ⟨?_, fun r hr => ?_, hbound⟩
    · rw [UniqueIds, hsessions, List.map_append, List.map_singleton]
      refine List.nodup_append.2 ⟨h.unique, List.nodup_singleton _, fun a ha b hb => ?_⟩
      obtain ⟨r, hr, rfl⟩ := List.mem_map.1 ha
      exact List.mem_singleton.1 hb ▸ hfresh r hr
    · rw [hsessions, List.mem_append, List.mem_singleton] at hr
      rcases hr with hr | rfl
      · exact (h.handedOut r hr).mono hle
      · obtain ⟨unixNanos, hid⟩ := hnew.sessionId
        refine ⟨unixNanos, m.nextSessionSuffix, hid, ?_⟩
        have hword := h.suffix
        rw [hsuffix, Nat.mod_eq_of_lt (by omega)]
        omega
  | @closed p scope _ _ _ _ =>
    refine ⟨h.unique.sublist (List.filter_sublist.map _), fun s hs => ?_,
      Nat.le_succ_of_le h.suffix⟩
    exact h.handedOut s ((mem_remove.1 hs).1)
  | @wrote id bytes =>
    have hids := map_sessionId_pushTerminalOutput m id bytes
    refine ⟨?_, fun s hs => ?_, Nat.le_succ_of_le h.suffix⟩
    · rw [UniqueIds, hids]
      exact h.unique
    · obtain ⟨r, hr, heq⟩ := exists_of_map_sessionId hids hs
      exact heq ▸ h.handedOut r hr

theorem counted_after {history : List Op} (hlength : history.length < wordMax) :
    Counted history.length (after TerminalPty.perform {} history) := by
  induction history using List.reverseRecOn with
  | nil => exact ⟨List.nodup_nil, fun s hs => (List.not_mem_nil hs).elim, Nat.le_refl _⟩
  | append_singleton history op ih =>
    rw [List.length_append, List.length_singleton] at hlength ⊢
    rw [after_concat]
    exact (ih (by omega)).perform hlength op

/-! ## What a session says about itself -/

/-- The fields of a session agree with each other. -/
structure Coherent (s : TerminalPtySession) : Prop where
  notClosed : s.status ≠ .closed
  runtime : s.hasRuntime = true → s.status.isActive = true
  endedAt : s.endedAt.isSome = !s.status.isActive
  exitCode : s.exitCode.isSome = true ↔ s.status = .exited ∨ s.status = .stopped
  requested : s.status = .stopping ∨ s.status = .stopped → s.stopRequested = true
  notRequested : s.status = .running ∨ s.status = .exited → s.stopRequested = false
  cols : 0 < s.size.cols
  rows : 0 < s.size.rows
  capBytes : s.output.capBytes ≤ maxOutputBufferCapBytes

theorem capBytes_push (b : TerminalPtyOutputBuffer) (streamKind : String) (bytes : List UInt8) :
    (b.push streamKind bytes).capBytes = b.capBytes := by
  unfold TerminalPtyOutputBuffer.push
  split <;> rfl

/-- The exit code of a session that goes on is not known yet. -/
theorem Coherent.exitCode_none {s : TerminalPtySession} (h : Coherent s)
    (hactive : s.status.isActive = true) : s.exitCode = none := by
  by_contra hcode
  rcases h.exitCode.1 (Option.isSome_iff_ne_none.2 hcode) with hstatus | hstatus <;>
  · rw [hstatus] at hactive
    exact absurd hactive (by decide)

theorem Coherent.move {r s : TerminalPtySession} (hmove : Move r s) (h : Coherent r) :
    Coherent s := by
  cases hmove with
  | ended time exitCode _ =>
    by_cases hstop : r.stopRequested = true
    · refine ⟨?_, ?_, ?_, ?_, ?_, ?_, h.cols, h.rows, h.capBytes⟩ <;>
        simp [hstop, TerminalPtySessionStatus.isActive]
    · refine ⟨?_, ?_, ?_, ?_, ?_, ?_, h.cols, h.rows, h.capBytes⟩ <;>
        simp [hstop, TerminalPtySessionStatus.isActive]
  | probeFailed error _ =>
    exact ⟨h.notClosed, h.runtime, h.endedAt, h.exitCode, h.requested, h.notRequested, h.cols,
      h.rows, h.capBytes⟩
  | resized hcols hrows _ =>
    exact ⟨h.notClosed, h.runtime, h.endedAt, h.exitCode, h.requested, h.notRequested, hcols,
      hrows, h.capBytes⟩
  | stopRequested hactive =>
    have hended := h.endedAt
    rw [hactive] at hended
    refine ⟨?_, ?_, ?_, ?_, ?_, ?_, h.cols, h.rows, h.capBytes⟩ <;>
      simp [hended, h.exitCode_none hactive, TerminalPtySessionStatus.isActive]
  | killed time _ =>
    refine ⟨?_, ?_, ?_, ?_, ?_, ?_, h.cols, h.rows, h.capBytes⟩ <;>
      simp [TerminalPtySessionStatus.isActive]
  | killFailed _ =>
    exact ⟨h.notClosed, fun hruntime => absurd hruntime (by simp), h.endedAt, h.exitCode,
      h.requested, h.notRequested, h.cols, h.rows, h.capBytes⟩

theorem Coherent.of_isNew {m : TerminalPtySessionManager} {s : TerminalPtySession}
    (hnew : IsNew m s) : Coherent s := by
  obtain ⟨capBytes, hcap, houtput⟩ := hnew.output
  refine ⟨?_, ?_, ?_, ?_, ?_, ?_, hnew.cols, hnew.rows, houtput ▸ hcap⟩ <;>
    simp [hnew.status, hnew.endedAt, hnew.exitCode, hnew.stopRequested,
      TerminalPtySessionStatus.isActive]

theorem Coherent.push {s : TerminalPtySession} (h : Coherent s) (bytes : List UInt8) :
    Coherent { s with output := s.output.push terminalStreamKind bytes } :=
  ⟨h.notClosed, h.runtime, h.endedAt, h.exitCode, h.requested, h.notRequested, h.cols, h.rows,
    (capBytes_push _ _ _).trans_le h.capBytes⟩

theorem Effect.coherent {m t : TerminalPtySessionManager} {op : Op} (heffect : Effect m op t)
    (h : ∀ s ∈ m.sessions, Coherent s) : ∀ s ∈ t.sessions, Coherent s := by
  intro s hs
  cases heffect with
  | moved hperm hmoves _ =>
    obtain ⟨r, hr, hrs⟩ := exists_moves_to hmoves hs
    exact hrs.keep (fun _ _ => Coherent.move) (h r (hperm.mem_iff.1 hr))
  | created hnew hsessions _ =>
    rw [hsessions, List.mem_append, List.mem_singleton] at hs
    rcases hs with hs | rfl
    · exact h s ((mem_remove.1 hs).1)
    · exact .of_isNew hnew
  | closed _ _ _ => exact h s ((mem_remove.1 hs).1)
  | wrote =>
    obtain ⟨r, hr, rfl⟩ := List.mem_map.1 hs
    split
    · exact (h r hr).push _
    · exact h r hr

theorem coherent_after {history : List Op} (hlength : history.length < wordMax) :
    ∀ s ∈ (after TerminalPty.perform {} history).sessions, Coherent s := by
  induction history using List.reverseRecOn with
  | nil => exact fun s hs => (List.not_mem_nil hs).elim
  | append_singleton history op ih =>
    rw [List.length_append, List.length_singleton] at hlength
    rw [after_concat]
    have hshort : history.length < wordMax := by omega
    exact (effect_perform (counted_after hshort).unique op).coherent (ih hshort)

/-- **Every session is coherent**: whatever the platform has answered, the status, the end time, the
exit code and the stop request of each session agree with each other, only a session that goes on
has a process, and no two sessions have one id. -/
theorem sessions_coherent_after {history : List Op} (hlength : history.length < wordMax) :
    ((after perform {} history).sessions.map (·.sessionId)).Nodup ∧
      ∀ s ∈ (after perform {} history).sessions, Coherent s :=
  ⟨(counted_after hlength).unique, coherent_after hlength⟩

/-- A platform on which everything succeeds, and on which processes end with the given code. -/
def platform (exitCode : Option ℤ) : Platform where
  unixNanos := 5
  timestamp := "5.000000000"
  isDir _ := true
  defaultTerminalShell := "/bin/sh"
  start := .ok ()
  tryExitCode _ := .ok exitCode
  writeStdin := .ok ()
  resize := .ok ()
  kill := .ok ()
  rank _ := 0

/-- A session that writes more than it may show. -/
def shellOpened : List Op :=
  [.create (platform none) ⟨"w", "b", "terminal", "", [], "/repo", none, none, some 4⟩,
    .output "tpty_5_1" [0x61, 0x62, 0x63], .output "tpty_5_1" [0x64, 0x65]]

/-- The session is asked to stop, and its process ends. -/
def shellStopped : List Op :=
  shellOpened ++ [.stop (platform none) ⟨"w", "b", "terminal", "tpty_5_1"⟩,
    .hasActiveWorkspace (platform (some 0)) "w"]

theorem sessions_coherent_after_shellStopped :
    ((after perform {} shellStopped).sessions.map (·.sessionId)).Nodup ∧
      ∀ s ∈ (after perform {} shellStopped).sessions, Coherent s :=
  sessions_coherent_after (by decide)

/-! ## Sessions that have ended -/

/-- The session with this id, if it is there, is this one, and no other will have the id. -/
structure Final (r : TerminalPtySession) (m : TerminalPtySessionManager) : Prop where
  same : ∀ s ∈ m.sessions, s.sessionId = r.sessionId → s = r
  handedOut : HandedOut m r.sessionId

theorem Final.effect {r : TerminalPtySession} {n : ℕ} {m t : TerminalPtySessionManager} {op : Op}
    (h : Final r m) (hended : r.status.isActive = false) (hruntime : r.hasRuntime = false)
    (hm : Counted n m) (hn : n + 1 < wordMax) (heffect : Effect m op t) : Final r t := by
  cases heffect with
  | moved hperm hmoves hsuffix =>
    refine ⟨fun s hs hid => ?_, h.handedOut.mono (hm.suffix_le hn hsuffix).1⟩
    obtain ⟨a, ha, has⟩ := exists_moves_to hmoves hs
    have hsame := h.same a (hperm.mem_iff.1 ha) (has.same.1.symm.trans hid)
    rw [hsame] at has
    exact has.eq_of_ended hended
  | created hnew hsessions hsuffix =>
    refine ⟨fun s hs hid => ?_, h.handedOut.mono (hm.suffix_le hn (Or.inr hsuffix)).1⟩
    rw [hsessions, List.mem_append, List.mem_singleton] at hs
    rcases hs with hs | rfl
    · exact h.same s ((mem_remove.1 hs).1) hid
    · exact absurd hid (hnew.ne_of_handedOut h.handedOut)
  | closed _ _ _ => exact ⟨fun s hs hid => h.same s ((mem_remove.1 hs).1) hid, h.handedOut⟩
  | wrote =>
    refine ⟨fun s hs hid => ?_, h.handedOut⟩
    obtain ⟨a, ha, rfl⟩ := List.mem_map.1 hs
    split at hid
    · rename_i hwrote
      have hsame := h.same a ha hid
      rw [hsame, hruntime] at hwrote
      exact absurd hwrote.2 (by decide)
    · rename_i hwrote
      rw [if_neg hwrote]
      exact h.same a ha hid

/-- **A session that has ended stays as it is**: its status, end time, exit code and output do not
change any more, whatever is called later, and no later session gets its id. -/
theorem ended_sessions_stay {history later : List Op}
    (hlength : (history ++ later).length < wordMax) {r : TerminalPtySession}
    (hr : r ∈ (after perform {} history).sessions) (hended : r.status.isActive = false) :
    ∀ s ∈ (after perform {} (history ++ later)).sessions, s.sessionId = r.sessionId → s = r := by
  have hfinal : Final r (after perform {} (history ++ later)) := by
    induction later using List.reverseRecOn with
    | nil =>
      rw [List.append_nil] at hlength ⊢
      have hcounted := counted_after hlength
      exact ⟨fun s hs hid => List.inj_on_of_nodup_map hcounted.unique hs hr hid,
        hcounted.handedOut r hr⟩
    | append_singleton later op ih =>
      rw [← List.append_assoc, List.length_append, List.length_singleton] at hlength
      rw [← List.append_assoc, after_concat]
      have hcounted := counted_after (Nat.lt_of_succ_lt hlength)
      have hruntime : r.hasRuntime = false := by
        by_contra hhas
        rw [List.length_append] at hlength
        have hcoherent := @coherent_after history (by omega) r hr
        exact absurd (hended.symm.trans (hcoherent.runtime (by simpa using hhas))) (by decide)
      exact (ih (Nat.lt_of_succ_lt hlength)).effect hended hruntime hcounted hlength
        (effect_perform hcounted.unique op)
  exact hfinal.same

/-- A second stop and a kill come too late for the session. -/
theorem ended_sessions_stay_shellStopped :
    let later : List Op := [.stop (platform none) ⟨"w", "b", "terminal", "tpty_5_1"⟩,
      .kill (platform none) ⟨"w", "b", "terminal", "tpty_5_1"⟩, .output "tpty_5_1" [0x66]]
    ∃ r ∈ (after perform {} shellStopped).sessions, r.status = .stopped ∧
      ∀ s ∈ (after perform {} (shellStopped ++ later)).sessions, s.sessionId = r.sessionId →
        s = r := by
  intro later
  have hstopped : ∃ r ∈ (after perform {} shellStopped).sessions, r.status = .stopped := by
    decide +kernel
  obtain ⟨r, hr, hstatus⟩ := hstopped
  refine ⟨r, hr, hstatus, ended_sessions_stay (by decide) hr ?_⟩
  rw [hstatus]
  rfl

/-! ## Sessions that are gone -/

theorem exists_moves_from {l t : List TerminalPtySession} (h : List.Forall₂ Moves l t)
    {r : TerminalPtySession} (hr : r ∈ l) : ∃ s ∈ t, Moves r s := by
  induction h with
  | nil => cases hr
  | cons hmoves _ ih =>
    rcases List.mem_cons.1 hr with rfl | hr
    · exact ⟨_, List.mem_cons_self, hmoves⟩
    · obtain ⟨s, hs, hrs⟩ := ih hr
      exact ⟨s, List.mem_cons_of_mem _ hs, hrs⟩

/-- Only a close takes a session out of the map. -/
theorem Effect.gone {n : ℕ} {m t : TerminalPtySessionManager} {op : Op} (hm : Counted n m)
    (heffect : Effect m op t) {r : TerminalPtySession} (hr : r ∈ m.sessions)
    (hgone : ∀ s ∈ t.sessions, s.sessionId ≠ r.sessionId) :
    ∃ p scope, op = .close p scope ∧ scope.sessionId = r.sessionId ∧
      r.matchesScope scope = true ∧ (r.refreshStatus p).status.isActive = false := by
  cases heffect with
  | moved hperm hmoves _ =>
    obtain ⟨s, hs, hrs⟩ := exists_moves_from hmoves (hperm.mem_iff.2 hr)
    exact absurd hrs.same.1 (hgone s hs)
  | created hnew hsessions _ =>
    have hfresh := (hnew.ne_of_handedOut (hm.handedOut r hr)).symm
    exact absurd rfl (hgone r (hsessions ▸ List.mem_append_left _ (mem_remove.2 ⟨hr, hfresh⟩)))
  | @closed p scope session hget hscope hended =>
    by_cases hid : r.sessionId = scope.sessionId
    · obtain rfl := hm.unique.eq_of_get hget hr hid
      exact ⟨p, scope, rfl, hid.symm, hscope, hended⟩
    · exact absurd rfl (hgone r (mem_remove.2 ⟨hr, hid⟩))
  | @wrote id bytes =>
    have hids := map_sessionId_pushTerminalOutput m id bytes
    obtain ⟨s, hs, hsame⟩ := exists_of_map_sessionId hids.symm hr
    exact absurd hsame (hgone s hs)

/-- **No session is lost**: a session that is not in the map any more was taken out by a close that
named it, with its widget, and found that its process had ended. -/
theorem sessions_leave_closed {history later : List Op}
    (hlength : (history ++ later).length < wordMax) {r : TerminalPtySession}
    (hr : r ∈ (after perform {} history).sessions)
    (hgone : ∀ s ∈ (after perform {} (history ++ later)).sessions, s.sessionId ≠ r.sessionId) :
    ∃ early p scope late, later = early ++ .close p scope :: late ∧
      scope.sessionId = r.sessionId ∧
      ∃ s ∈ (after perform {} (history ++ early)).sessions, s.sessionId = r.sessionId ∧
        s.matchesScope scope = true ∧ (s.refreshStatus p).status.isActive = false ∧
        (s.refreshStatus p).hasRuntime = false := by
  induction later using List.reverseRecOn with
  | nil =>
    rw [List.append_nil] at hgone
    exact absurd rfl (hgone r hr)
  | append_singleton later op ih =>
    rw [← List.append_assoc, List.length_append, List.length_singleton] at hlength
    have hshort := Nat.lt_of_succ_lt hlength
    by_cases hbefore : ∀ s ∈ (after perform {} (history ++ later)).sessions,
        s.sessionId ≠ r.sessionId
    · obtain ⟨early, p, scope, late, rfl, hrest⟩ := ih hshort hbefore
      exact ⟨early, p, scope, late ++ [op], by simp, hrest⟩
    · simp only [not_forall, not_not] at hbefore
      obtain ⟨s, hs, hid⟩ := hbefore
      rw [← List.append_assoc, after_concat, ← hid] at hgone
      have hcounted := counted_after hshort
      obtain ⟨p, scope, rfl, hscope, hmatches, hended⟩ :=
        (effect_perform hcounted.unique op).gone hcounted hs hgone
      have hcoherent := (moves_refreshStatus p s).keep (fun _ _ => Coherent.move)
        (coherent_after hshort s hs)
      refine ⟨later, p, scope, [], rfl, hscope.trans hid, s, hs, hid, hmatches, hended, ?_⟩
      by_contra hruntime
      exact absurd (hended.symm.trans (hcoherent.runtime (by simpa using hruntime))) (by decide)

theorem sessions_leave_closed_shellOpened :
    let later : List Op := [.close (platform none) ⟨"w", "b", "terminal", "tpty_5_1"⟩,
      .close (platform (some 0)) ⟨"w", "b", "terminal", "tpty_5_1"⟩]
    ∃ r ∈ (after perform {} shellOpened).sessions,
      ∃ early p scope late, later = early ++ .close p scope :: late ∧
        scope.sessionId = r.sessionId ∧
        ∃ s ∈ (after perform {} (shellOpened ++ early)).sessions, s.sessionId = r.sessionId ∧
          s.matchesScope scope = true ∧ (s.refreshStatus p).status.isActive = false ∧
          (s.refreshStatus p).hasRuntime = false := by
  intro later
  have hgone : (after perform {} (shellOpened ++ later)).sessions.length = 0 := by
    decide +kernel
  have hopened : ∃ r ∈ (after perform {} shellOpened).sessions, r.hasRuntime = true := by
    decide +kernel
  obtain ⟨r, hr, -⟩ := hopened
  refine ⟨r, hr, sessions_leave_closed (by decide) hr fun s hs => ?_⟩
  rw [List.length_eq_zero_iff.1 hgone] at hs
  exact (List.not_mem_nil hs).elim

/-! ## Output -/

/-- The block of a step that the process of the session has written. -/
def blockOf (sessionId : String) (m : TerminalPtySessionManager) : Op → List (List UInt8)
  | .output id bytes =>
    if id = sessionId ∧ (m.get id).any (·.hasRuntime) then [bytes] else []
  | _ => []

/-- The blocks that the process of a session has written in the course of a history. -/
def written (sessionId : String) : TerminalPtySessionManager → List Op → List (List UInt8)
  | _, [] => []
  | m, op :: ops => blockOf sessionId m op ++ written sessionId (perform m op) ops

theorem written_concat (sessionId : String) (m : TerminalPtySessionManager) (history : List Op)
    (op : Op) : written sessionId m (history ++ [op]) =
      written sessionId m history ++ blockOf sessionId (after perform m history) op := by
  induction history generalizing m with
  | nil => simp [written]
  | cons first history ih =>
    rw [List.cons_append, written, written, ih, List.append_assoc]
    rfl

/-- The buffers show the ends of the blocks, and there are no blocks for an id to come. -/
structure Shown (m : TerminalPtySessionManager) (blocks : String → List (List UInt8)) : Prop where
  shows : ∀ s ∈ m.sessions, ∃ pieces, ShowsEnd s.output (blocks s.sessionId) pieces
  none : ∀ id, blocks id ≠ [] → HandedOut m id

theorem UniqueIds.get_of_mem {m : TerminalPtySessionManager} (h : UniqueIds m)
    {s : TerminalPtySession} (hs : s ∈ m.sessions) : m.get s.sessionId = some s := by
  cases hget : m.get s.sessionId with
  | none =>
    have hnone := List.find?_eq_none.1 hget s hs
    simp at hnone
  | some r => rw [h.eq_of_get hget hs rfl]

theorem shown_pushTerminalOutput {n : ℕ} {m : TerminalPtySessionManager} (hm : Counted n m)
    {blocks : String → List (List UInt8)} (h : Shown m blocks)
    (hcoherent : ∀ s ∈ m.sessions, Coherent s) (id : String) (bytes : List UInt8) :
    Shown (m.pushTerminalOutput id bytes)
      fun sessionId => blocks sessionId ++ blockOf sessionId m (.output id bytes) := by
  refine ⟨fun t ht => ?_, fun sessionId hblocks => ?_⟩
  · obtain ⟨s, hs, rfl⟩ := List.mem_map.1 ht
    obtain ⟨pieces, hpieces⟩ := h.shows s hs
    by_cases hwrote : s.sessionId = id ∧ s.hasRuntime = true
    · obtain ⟨rfl, hruntime⟩ := hwrote
      have hget : (m.get s.sessionId).any (·.hasRuntime) = true := by
        rw [hm.unique.get_of_mem hs]
        exact hruntime
      rw [if_pos ⟨rfl, hruntime⟩]
      simp only [blockOf, hget, and_self, if_true]
      exact hpieces.push (hcoherent s hs).capBytes _ _
    · rw [if_neg hwrote]
      have hnone : blockOf s.sessionId m (.output id bytes) = [] := by
        refine if_neg fun hblock => hwrote ?_
        obtain ⟨rfl, hget⟩ := hblock
        rw [hm.unique.get_of_mem hs] at hget
        exact ⟨rfl, hget⟩
      rw [hnone, List.append_nil]
      exact ⟨pieces, hpieces⟩
  · by_cases hbefore : blocks sessionId = []
    · rw [hbefore, List.nil_append, blockOf] at hblocks
      split at hblocks
      · rename_i hblock
        obtain ⟨rfl, hget⟩ := hblock
        obtain ⟨s, hs, -⟩ := (Option.any_eq_true _ _).1 hget
        have hid : s.sessionId = id := by simpa using List.find?_some hs
        exact hid ▸ hm.handedOut s (List.mem_of_find?_eq_some hs)
      · exact absurd rfl hblocks
    · exact h.none sessionId hbefore

theorem Shown.perform {n : ℕ} {m : TerminalPtySessionManager} (hm : Counted n m)
    (hn : n + 1 < wordMax) {blocks : String → List (List UInt8)} (h : Shown m blocks)
    (hcoherent : ∀ s ∈ m.sessions, Coherent s) (op : Op) :
    Shown (perform m op) fun id => blocks id ++ blockOf id m op := by
  have heffect := effect_perform hm.unique op
  by_cases hop : ∃ id bytes, op = .output id bytes
  · obtain ⟨id, bytes, rfl⟩ := hop
    exact shown_pushTerminalOutput hm h hcoherent id bytes
  · have hnothing : ∀ id, blocks id ++ blockOf id m op = blocks id := by
      intro id
      cases op with
      | output id bytes => exact absurd ⟨id, bytes, rfl⟩ hop
      | _ => exact List.append_nil _
    simp only [hnothing]
    generalize TerminalPty.perform m op = t at heffect
    cases heffect with
    | moved hperm hmoves hsuffix =>
      refine ⟨fun s hs => ?_, fun id hid => (h.none id hid).mono (hm.suffix_le hn hsuffix).1⟩
      obtain ⟨r, hr, hrs⟩ := exists_moves_to hmoves hs
      rw [hrs.same.1, hrs.same.2]
      exact h.shows r (hperm.mem_iff.1 hr)
    | @created _ _ new hnew hsessions hsuffix =>
      refine ⟨fun s hs => ?_, fun id hid =>
        (h.none id hid).mono (hm.suffix_le hn (Or.inr hsuffix)).1⟩
      rw [hsessions, List.mem_append, List.mem_singleton] at hs
      rcases hs with hs | rfl
      · exact h.shows s (mem_remove.1 hs).1
      · -- nothing was written under an id that was not handed out yet
        have hempty : blocks s.sessionId = [] := by
          by_contra hsome
          exact hnew.ne_of_handedOut (h.none _ hsome) rfl
        obtain ⟨capBytes, -, houtput⟩ := hnew.output
        rw [hempty, houtput]
        exact ⟨[], showsEnd_nil capBytes⟩
    | closed _ _ _ => exact ⟨fun s hs => h.shows s (mem_remove.1 hs).1, h.none⟩
    | @wrote id bytes => exact absurd ⟨id, bytes, rfl⟩ hop

/-- **A session shows the end of its output**: what its chunks hold is the end of what its process
has written, in order and at most as much as the cap allows, the newest block is always there, and
the bytes that are not are counted. -/
theorem output_shown_after {history : List Op} (hlength : history.length < wordMax) :
    ∀ s ∈ (after perform {} history).sessions,
      ∃ pieces, ShowsEnd s.output (written s.sessionId {} history) pieces := by
  have hshown : Shown (after perform {} history) fun id => written id {} history := by
    induction history using List.reverseRecOn with
    | nil => exact ⟨fun s hs => (List.not_mem_nil hs).elim, fun id hid => absurd rfl hid⟩
    | append_singleton history op ih =>
      rw [List.length_append, List.length_singleton] at hlength
      have hshort := Nat.lt_of_succ_lt hlength
      simp only [written_concat, after_concat]
      exact (ih hshort).perform (counted_after hshort) hlength (coherent_after hshort) op
  exact hshown.shows

theorem output_shown_after_shellOpened : ∃ s ∈ (after perform {} shellOpened).sessions,
    ∃ pieces, ShowsEnd s.output (written s.sessionId {} shellOpened) pieces := by
  have hopen : 0 < (after perform {} shellOpened).sessions.length := by decide +kernel
  obtain ⟨s, hs⟩ := List.exists_mem_of_length_pos hopen
  exact ⟨s, hs, output_shown_after (by decide) s hs⟩

example : (after perform {} shellOpened).sessions.map
    (fun s => (s.output.totalBufferedBytes, s.output.droppedBytes)) = [(2, 3)] := by
  decide +kernel

end HobitQueue.TerminalPty
