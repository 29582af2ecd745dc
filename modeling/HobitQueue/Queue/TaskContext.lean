import HobitQueue.Lib.Run
import HobitQueue.Queue.History
import HobitQueue.Service.ContextAttachments
import HobitQueue.Service.Selected

/-!
# Attached context and the other members of a task's context

The commands that attach and detach read a context into the six members they know and write
only these back. Whatever else the stored document held, among it the execution target the
start gate reads, is gone after the first of them.
-/

namespace HobitQueue

open Concurrent StoreProg Relational

/-! ## The commands -/

inductive ContextOp where
  | attachKnowledge (d : Draws)
      (getKnowledgeDocument : String → String → Option KnowledgeDocumentRow)
      (input : QueueTaskContextInput)
  | detachKnowledge (d : Draws) (input : QueueTaskContextInput)
  | attachSkill (d : Draws) (getSkill : String → String → Option SkillRow)
      (input : QueueTaskContextInput)
  | detachSkill (d : Draws) (input : QueueTaskContextInput)

/-- The store a command leaves. -/
def performContext (s : SqliteStore) : ContextOp → SqliteStore
  | .attachKnowledge d documents input => (exec (attachKnowledgeToQueueTask d documents input) s).2
  | .detachKnowledge d input => (exec (detachKnowledgeFromQueueTask d input) s).2
  | .attachSkill d skills input => (exec (attachSkillToQueueTask d skills input) s).2
  | .detachSkill d input => (exec (detachSkillFromQueueTask d input) s).2

namespace ContextOp

def draws : ContextOp → Draws
  | attachKnowledge d _ _ | detachKnowledge d _ | attachSkill d _ _ | detachSkill d _ => d

/-- The trimmed input of a command. -/
def normalized : ContextOp → Except WorkspaceServiceError QueueTaskContextInput
  | attachKnowledge _ _ input | detachKnowledge _ input =>
      normalizeContextInput "knowledge id" input
  | attachSkill _ _ input | detachSkill _ input => normalizeContextInput "skill id" input

/-- What a command changes in the context of its task. -/
def change (input : QueueTaskContextInput) :
    ContextOp → Except StorageError (QueueTaskContext → Except String QueueTaskContext)
  | attachKnowledge d documents _ =>
      attachDocumentChange d input.sourceId (documents input.workspaceId input.sourceId)
  | attachSkill d skills _ =>
      attachSkillChange d input.sourceId (skills input.workspaceId input.sourceId)
  | detachKnowledge _ _ | detachSkill _ _ => detachChange input.sourceId

end ContextOp

/-- All four commands rewrite the context of the task they name. -/
theorem performContext_eq (s : SqliteStore) (op : ContextOp) :
    performContext s op = (exec (do
      let input ← StoreProg.check op.normalized
      rewriteTaskContext op.draws input.workspaceId input.queueItemId (op.change input)) s).2 := by
  cases op <;> rfl

/-! ## What is written -/

/-- The document that a change writes into a row. -/
def rewrittenContext
    (change : Except StorageError (QueueTaskContext → Except String QueueTaskContext))
    (row : AgentQueueTaskRow) : Option JsonText :=
  match change with
  | .error _ => none
  | .ok change => (changedContextJson change row.contextJson).toOption

/-- The document a command writes into the named task, if it is carried out on it. -/
def writtenContext (s : SqliteStore) (w q : String) (row : AgentQueueTaskRow) (op : ContextOp) :
    Option JsonText :=
  match op.normalized with
  | .error _ => none
  | .ok input =>
      if input.workspaceId = w ∧ input.queueItemId = q ∧ (s.getWorkspace w).isSome then
        rewrittenContext (op.change input) row
      else none

/-- Loading a task that is there in its workspace finds it. -/
theorem exec_loadAgentQueueTask_found {s : SqliteStore} {w q : String} {row : AgentQueueTaskRow}
    (hws : (s.getWorkspace w).isSome) (hrow : s.getAgentQueueTask w q = some row) :
    exec (loadAgentQueueTask w q) s = (.ok row, s) := by
  obtain ⟨hmem, hw, hq⟩ := getAgentQueueTask_eq_some.1 hrow
  have hid : s.getAgentQueueTaskById q = some row := getAgentQueueTaskById_eq_some.2 ⟨hmem, hq⟩
  have hnone : (s.getWorkspace w).isNone = false := by
    rw [Option.isNone_eq_false_iff]
    exact hws
  have hne : (row.workspaceId != w) = false := by simp [hw]
  have hload : exec (loadOptionalAgentQueueTask w q) s = (.ok (some row), s) := by
    rw [loadOptionalAgentQueueTask, exec_query_bind, exec_failIf_bind, hnone, if_neg (by simp),
      exec_query_bind, hid]
    dsimp only
    rw [exec_failIf_bind, hne, if_neg (by simp)]
    rfl
  rw [loadAgentQueueTask, exec_bind, hload]
  rfl

/-- A row with the document that was written into it, if one was. -/
def withContext (updatedAt : String) (row : AgentQueueTaskRow) :
    Option JsonText → AgentQueueTaskRow
  | none => row
  | some json => { row with contextJson := some json, updatedAt := updatedAt }

def namedTask (w q : String) (r : AgentQueueTaskRow) : Bool :=
  r.workspaceId == w && r.queueItemId == q

/-- The tasks after a document was written into one of them. -/
def rewrittenTasks (w q updatedAt : String) (json : JsonText) (tasks : Table AgentQueueTaskRow) :
    Table AgentQueueTaskRow :=
  tasks.update (namedTask w q) (fun r => withContext updatedAt r (some json)) fun _ => rfl

theorem getAgentQueueTask_rewritten {s t : SqliteStore} {w q w' q' updatedAt : String}
    {json : JsonText}
    (ht : t.agentQueueTasks = rewrittenTasks w' q' updatedAt json s.agentQueueTasks) :
    t.getAgentQueueTask w q = (s.getAgentQueueTask w q).map fun r =>
      if namedTask w' q' r then withContext updatedAt r (some json) else r := by
  rw [SqliteStore.getAgentQueueTask, ht]
  exact Table.find_update fun _ => rfl

theorem updateAgentQueueTaskContext_ok {s t : SqliteStore} {w q updatedAt : String}
    {json : JsonText} {found : Option AgentQueueTaskRow} :
    s.updateAgentQueueTaskContext w q (some json) updatedAt = .ok (found, t) ↔
      t = { s with agentQueueTasks := rewrittenTasks w q updatedAt json s.agentQueueTasks } ∧
      found = t.getAgentQueueTask w q := by
  simp only [SqliteStore.updateAgentQueueTaskContext, SqliteStore.updateTaskRow,
    Except.ok.injEq, Prod.mk.injEq]
  constructor
  · rintro ⟨rfl, rfl⟩
    exact ⟨rfl, rfl⟩
  · rintro ⟨rfl, rfl⟩
    exact ⟨rfl, rfl⟩

/-- A document is written when it can be changed. -/
theorem rewrittenContext_eq_some
    {change : Except StorageError (QueueTaskContext → Except String QueueTaskContext)}
    {row : AgentQueueTaskRow} {json : JsonText} :
    rewrittenContext change row = some json ↔
      ∃ f, change = .ok f ∧ changedContextJson f row.contextJson = .ok json := by
  cases change with
  | error e => simp [rewrittenContext]
  | ok f =>
    cases hf : changedContextJson f row.contextJson with
    | error e => simp [rewrittenContext, hf, Except.toOption]
    | ok found => simp [rewrittenContext, hf, Except.toOption]

/-- The transaction succeeds when the task is there and its document can be changed. -/
theorem rewriteTaskContext_ne_error {d : Draws} {s : SqliteStore} {w q : String}
    {row : AgentQueueTaskRow} {json : JsonText}
    {change : Except StorageError (QueueTaskContext → Except String QueueTaskContext)}
    (hws : (s.getWorkspace w).isSome) (hrow : s.getAgentQueueTask w q = some row)
    (hjson : rewrittenContext change row = some json) {e : WorkspaceServiceError}
    {t : SqliteStore} : exec (rewriteTaskContext d w q change) s ≠ (.error e, t) := by
  obtain ⟨f, rfl, hchanged⟩ := rewrittenContext_eq_some.1 hjson
  intro h
  have hupdate : ∃ found t, s.updateAgentQueueTaskContext w q (some json) (d.timestamp 0) =
      .ok (found, t) := ⟨_, _, rfl⟩
  obtain ⟨found, t, hupdate⟩ := hupdate
  obtain ⟨ht, hfound⟩ := updateAgentQueueTaskContext_ok.1 hupdate
  have htasks : t.agentQueueTasks =
      rewrittenTasks w q (d.timestamp 0) json s.agentQueueTasks := by rw [ht]
  rw [getAgentQueueTask_rewritten htasks, hrow, Option.map_some] at hfound
  rw [rewriteTaskContext, withImmediateTransaction, exec_mapErr, exec_atomically, exec_bind,
    exec_loadAgentQueueTask_found hws hrow] at h
  dsimp only at h
  rw [exec_check_bind] at h
  dsimp only at h
  rw [exec_check_bind, hchanged] at h
  dsimp only [Except.mapError] at h
  rw [exec_bind, exec_execute, hupdate, hfound] at h
  cases h

theorem loadAgentQueueTask_workspace {s t : SqliteStore} {w q : String}
    {task : AgentQueueTaskRow} (h : exec (loadAgentQueueTask w q) s = (.ok task, t)) :
    (s.getWorkspace w).isSome := by
  rw [loadAgentQueueTask, exec_bind_ok] at h
  obtain ⟨found, u, hload, -⟩ := h
  rw [loadOptionalAgentQueueTask, exec_query_bind, exec_failIf_bind, guard_ok] at hload
  simpa [Option.isSome_iff_ne_none] using hload.1

/-- A transaction that succeeds wrote the changed document into its task. -/
theorem rewriteTaskContext_ok {d : Draws} {s t : SqliteStore} {w q : String}
    {change : Except StorageError (QueueTaskContext → Except String QueueTaskContext)}
    {r : Except WorkspaceServiceError AgentQueueTaskRow}
    (h : exec (rewriteTaskContext d w q change) s = (r, t)) :
    ((∃ e, r = .error e) ∧ t = s) ∨
      ∃ row json, (s.getWorkspace w).isSome ∧ s.getAgentQueueTask w q = some row ∧
        rewrittenContext change row = some json ∧
        t.agentQueueTasks = rewrittenTasks w q (d.timestamp 0) json s.agentQueueTasks := by
  rcases exec_withImmediateTransaction h with ⟨answer, -, hrun⟩ | hfailed
  · right
    rw [exec_bind_ok] at hrun
    obtain ⟨row, u, hload, hrun⟩ := hrun
    have hws := loadAgentQueueTask_workspace hload
    obtain ⟨rfl, hmem, hw, hq⟩ := loadAgentQueueTask_ok hload
    rw [exec_check_bind] at hrun
    cases change with
    | error e => cases hrun
    | ok f =>
      dsimp only at hrun
      rw [exec_check_bind] at hrun
      cases hjson : changedContextJson f row.contextJson with
      | error e =>
        rw [hjson] at hrun
        cases hrun
      | ok json =>
        rw [hjson] at hrun
        dsimp only [Except.mapError] at hrun
        rw [exec_bind_ok] at hrun
        obtain ⟨updated, v, hupdate, hrun⟩ := hrun
        rw [exec_execute_ok, updateAgentQueueTaskContext_ok] at hupdate
        have htasks : v.agentQueueTasks =
            rewrittenTasks w q (d.timestamp 0) json u.agentQueueTasks := by
          rw [hupdate.1]
        cases updated with
        | none => cases hrun
        | some task =>
          rw [exec_bind_ok] at hrun
          obtain ⟨_, x, htouch, hret⟩ := hrun
          rw [exec_execute_ok] at htouch
          obtain ⟨-, rfl⟩ := Prod.mk.inj (Except.ok.inj htouch)
          obtain ⟨-, rfl⟩ := Prod.mk.inj hret
          exact ⟨row, json, hws, getAgentQueueTask_eq_some.2 ⟨hmem, hw, hq⟩,
            rewrittenContext_eq_some.2 ⟨f, rfl, hjson⟩, htasks⟩
  · exact .inl hfailed

/-- **A command writes its document into the task, or leaves the task as it was.** -/
theorem performContext_task {s : SqliteStore} {w q : String} {row : AgentQueueTaskRow}
    (op : ContextOp) (hrow : s.getAgentQueueTask w q = some row) :
    (performContext s op).getAgentQueueTask w q =
      some (withContext (op.draws.timestamp 0) row (writtenContext s w q row op)) := by
  rw [performContext_eq, exec_check_bind, writtenContext]
  cases op.normalized with
  | error e => exact hrow
  | ok input =>
    dsimp only
    rcases hrun : exec (rewriteTaskContext op.draws input.workspaceId input.queueItemId
      (op.change input)) s with ⟨r, t⟩
    rcases rewriteTaskContext_ok hrun with ⟨⟨e, rfl⟩, rfl⟩ | ⟨found, json, hws, hfound, hjson, ht⟩
    · split
      · rename_i hnames
        obtain ⟨rfl, rfl, hws⟩ := hnames
        cases hjson : rewrittenContext (op.change input) row with
        | none => exact hrow
        | some json => exact absurd hrun (rewriteTaskContext_ne_error hws hrow hjson)
      · exact hrow
    · rw [getAgentQueueTask_rewritten ht, hrow, Option.map_some]
      by_cases hnamed : namedTask input.workspaceId input.queueItemId row = true
      · obtain ⟨-, hw, hq⟩ := getAgentQueueTask_eq_some.1 hrow
        have hrowNamed : row.workspaceId = input.workspaceId ∧
            row.queueItemId = input.queueItemId := by simpa [namedTask] using hnamed
        obtain rfl : input.workspaceId = w := hrowNamed.1.symm.trans hw
        obtain rfl : input.queueItemId = q := hrowNamed.2.symm.trans hq
        obtain rfl := Option.some.inj (hfound.symm.trans hrow)
        rw [if_pos hnamed, if_pos ⟨rfl, rfl, hws⟩, hjson]
      · obtain ⟨-, hw, hq⟩ := getAgentQueueTask_eq_some.1 hrow
        rw [if_neg hnamed, if_neg]
        · rfl
        · rintro ⟨hw', hq', -⟩
          exact hnamed (by simp [namedTask, hw, hq, hw', hq'])

/-! ## The members that are kept -/

/-- The members of a stored context that the commands do not know. -/
def foreignMembers (row : AgentQueueTaskRow) : List (String × Json) :=
  (JsonText.members row.contextJson).filter fun entry => entry.1 ∉ contextFields

/-- There is no stored context, or an object of members the commands know. -/
def KnownContext (row : AgentQueueTaskRow) : Prop :=
  match row.contextJson with
  | none => True
  | some (.value (.obj members)) => ∀ entry ∈ members, entry.1 ∈ contextFields
  | some _ => False

/-- What attaching and detaching ought to leave alone: the other members, and what the start
gate says of the context. -/
def SameContextOutside (row row' : AgentQueueTaskRow) : Prop :=
  foreignMembers row' = foreignMembers row ∧
    validateSelectedQueueLocalContext row' = validateSelectedQueueLocalContext row

/-- The command writes nothing into the task. -/
def NotWritten (w q : String) (s : SqliteStore) (op : ContextOp) : Prop :=
  ∀ row ∈ s.getAgentQueueTask w q, writtenContext s w q row op = none

instance (w q : String) (s : SqliteStore) (op : ContextOp) : Decidable (NotWritten w q s op) :=
  inferInstanceAs (Decidable (∀ row ∈ s.getAgentQueueTask w q, _))

theorem lookup_eq_none_of_known {members : List (String × Json)} {key : String}
    (hknown : ∀ entry ∈ members, entry.1 ∈ contextFields) (hkey : key ∉ contextFields) :
    members.lookup key = none := by
  rw [List.lookup_eq_none_iff]
  intro entry hentry
  rw [bne_iff_ne]
  rintro rfl
  exact hkey (hknown entry hentry)

/-- **The commands know a stored context when it has no other members and the start gate has
nothing against it.** -/
theorem knownContext_iff {row : AgentQueueTaskRow} :
    KnownContext row ↔
      foreignMembers row = [] ∧ validateSelectedQueueLocalContext row = none := by
  rw [KnownContext, foreignMembers, validateSelectedQueueLocalContext]
  cases hcontext : row.contextJson with
  | none => simp [JsonText.members]
  | some raw =>
    cases raw with
    | malformed text => simp [JsonText.parse]
    | value v =>
      cases v with
      | obj members =>
        constructor
        · intro hknown
          refine ⟨?_, ?_⟩
          · simpa [JsonText.members, JsonText.parse, Json.asObject] using hknown
          · have hlookup := lookup_eq_none_of_known hknown
              (show "executionTarget" ∉ contextFields by decide)
            exact congrArg (Option.bind · (validateExecutionTarget row)) hlookup
        · intro h
          simpa [JsonText.members, JsonText.parse, Json.asObject] using h.1
      | null | bool b | num n | str t | arr items =>
        -- the start gate refuses a context that is no object
        exact ⟨fun h => h.elim, fun h => absurd h.2 (Option.some_ne_none _)⟩

/-- A document that a command wrote is known. -/
theorem knownContext_written {s : SqliteStore} {w q updatedAt : String}
    {row row' : AgentQueueTaskRow} {op : ContextOp} {json : JsonText}
    (h : writtenContext s w q row op = some json) :
    KnownContext (withContext updatedAt row' (some json)) := by
  have hjson : ∃ change, rewrittenContext change row = some json := by
    rw [writtenContext] at h
    split at h
    · cases h
    · split at h
      · exact ⟨_, h⟩
      · cases h
  obtain ⟨change, hjson⟩ := hjson
  obtain ⟨f, -, hchanged⟩ := rewrittenContext_eq_some.1 hjson
  rw [changedContextJson, except_bind_ok] at hchanged
  obtain ⟨context, -, hchanged⟩ := hchanged
  rw [except_bind_ok] at hchanged
  obtain ⟨context', -, hserialize⟩ := hchanged
  rw [serializeTaskContext, refuseIf_bind_ok] at hserialize
  obtain rfl := Except.ok.inj hserialize.2
  simp [KnownContext, withContext, taskContextValue, contextFields]

/-- Along a history the task is as it was, or its context is a known one. -/
theorem task_after {w q : String} (history : List ContextOp) {s : SqliteStore}
    {row : AgentQueueTaskRow} (hrow : s.getAgentQueueTask w q = some row) :
    ∃ row', (Machine.after performContext s history).getAgentQueueTask w q = some row' ∧
      (Machine.Along performContext (NotWritten w q) s history → row' = row) ∧
      (¬ Machine.Along performContext (NotWritten w q) s history → KnownContext row') ∧
      (KnownContext row → KnownContext row') := by
  induction history generalizing s row with
  | nil => exact ⟨row, hrow, fun _ => rfl, fun h => absurd trivial h, id⟩
  | cons op history ih =>
    have hnext := performContext_task op hrow
    obtain ⟨row', hrow', hsame, hwritten, hkeep⟩ := ih hnext
    refine ⟨row', hrow', ?_, ?_, ?_⟩
    · rintro ⟨hop, hlater⟩
      have hnone := hop row hrow
      rw [hsame hlater, hnone]
      rfl
    · intro hsome
      by_cases hlater : Machine.Along performContext (NotWritten w q) (performContext s op) history
      · refine hkeep ?_
        cases hjson : writtenContext s w q row op with
        | some json => exact knownContext_written hjson
        | none =>
          refine absurd ⟨fun found hfound => ?_, hlater⟩ hsome
          obtain rfl := Option.some.inj (hrow.symm.trans hfound)
          exact hjson
      · exact hwritten hlater
    · intro hknown
      refine hkeep ?_
      cases hjson : writtenContext s w q row op with
      | some json => exact knownContext_written hjson
      | none => exact hknown

/-- **A history of attaching and detaching keeps the other members of a context, and what
the start gate says of it, when the context has no other members or nothing is written.** -/
theorem foreign_members_kept_iff {s : SqliteStore} {w q : String} {row : AgentQueueTaskRow}
    (hrow : s.getAgentQueueTask w q = some row) (history : List ContextOp) :
    ∃ row', (Machine.after performContext s history).getAgentQueueTask w q = some row' ∧
      (SameContextOutside row row' ↔
        KnownContext row ∨ Machine.Along performContext (NotWritten w q) s history) := by
  obtain ⟨row', hrow', hsame, hwritten, hkeep⟩ := task_after history hrow
  refine ⟨row', hrow', ?_, ?_⟩
  · intro hkept
    by_cases halong : Machine.Along performContext (NotWritten w q) s history
    · exact .inr halong
    · left
      rw [knownContext_iff, ← hkept.1, ← hkept.2, ← knownContext_iff]
      exact hwritten halong
  · rintro (hknown | halong)
    · have hbefore := knownContext_iff.1 hknown
      have hafter := knownContext_iff.1 (hkeep hknown)
      exact ⟨hafter.1.trans hbefore.1.symm, hafter.2.trans hbefore.2.symm⟩
    · rw [hsame halong]
      exact ⟨rfl, rfl⟩

/-! ## A task of a prompt pack -/

/-- A task with a context as a prompt pack writes it. -/
def packTask : AgentQueueTaskRow :=
  { plainTask with
    contextJson := some (.value (.obj [("attachedKnowledgeRefs", .arr []),
      ("attachedKnowledgeSnapshots", .arr []), ("attachedSkillRefs", .arr []),
      ("contextTokenBudget", .obj [("estimatedTokens", .num "0"), ("maxTokens", .num "1600"),
        ("overBudget", .bool false)]),
      ("contextWarnings", .arr []),
      ("executionTarget", .obj [("kind", .str "queue_local"), ("providerId", .str "codex")]),
      ("materializedAt", .null), ("packId", .str "pack")])) }

def packStore : SqliteStore :=
  { oneWorkspace "w" with agentQueueTasks := ⟨[packTask], List.pairwise_singleton _ _⟩ }

/-- A command without a task, one for a document that is not there, and one that is carried
out. -/
def contextHistory : List ContextOp :=
  [.detachSkill (drawsAt 2) ⟨"w", " ", "skill"⟩,
    .attachKnowledge (drawsAt 3) (fun _ _ => none) ⟨"w", "task", "document"⟩,
    .detachSkill (drawsAt 4) ⟨"w", "task", "skill"⟩]

/-- The first two commands write nothing, the third one does, and the task is not as before. -/
theorem foreign_members_kept_iff_packTask :
    ∃ row', (Machine.after performContext packStore contextHistory).getAgentQueueTask "w" "task" =
        some row' ∧
      (SameContextOutside packTask row' ↔
        KnownContext packTask ∨
          Machine.Along performContext (NotWritten "w" "task") packStore contextHistory) ∧
      Machine.Along performContext (NotWritten "w" "task") packStore (contextHistory.take 2) ∧
      ¬ SameContextOutside packTask row' := by
  obtain ⟨row', hrow', hkept⟩ := @foreign_members_kept_iff packStore "w" "task" packTask
    (by decide +kernel) contextHistory
  refine ⟨row', hrow', hkept, by decide +kernel, fun hsame => ?_⟩
  rcases hkept.1 hsame with hknown | halong
  · exact absurd (knownContext_iff.1 hknown).1 (by decide +kernel)
  · exact absurd halong (by decide +kernel)

/-- Detaching a skill that was never attached takes the execution target and the pack away. -/
theorem foreign_members_lost :
    packStore.getAgentQueueTask "w" "task" = some packTask ∧
      ((foreignMembers packTask).map (·.1) = ["executionTarget", "packId"]) ∧
      ∃ row' ∈ (performContext packStore (.detachSkill (drawsAt 2) ⟨"w", "task", "skill"⟩)
        ).getAgentQueueTask "w" "task", foreignMembers row' = [] := by
  decide +kernel

end HobitQueue
