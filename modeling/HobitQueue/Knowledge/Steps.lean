import HobitQueue.Lib.Pool
import HobitQueue.Service.KnowledgeDocuments

/-!
# What a step does to the knowledge tables

A request takes its steps beside those of others. Most steps are reads; a committed transaction
puts one document in its place, with its version and its chunks, or takes documents away.

## Main results

* `program_guarantees` — every step of a request has one of these effects, and the documents a
  request answers with are global ones or those of its workspace.
-/

namespace HobitQueue.Knowledge

open Relational Concurrent StoreProg

/-! ## Effects -/

/-- The knowledge tables of two stores are the same. -/
structure SameKnowledge (s t : KnowledgeStore) : Prop where
  documents : t.documents = s.documents
  versions : t.versions = s.versions
  chunks : t.chunks = s.chunks

/-- A document of a workspace takes the place of the one with its id: its version is recorded
and its chunks are the ones that are indexed. -/
structure Puts (workspaceId : String) (row : KnowledgeDocumentRow) (s t : KnowledgeStore) :
    Prop where
  documents : ∀ r, r ∈ t.documents ↔
    (r ∈ s.documents ∧ r.knowledgeDocumentId ≠ row.knowledgeDocumentId) ∨ r = row
  versions : ∀ v, v ∈ t.versions ↔
    (v ∈ s.versions ∧ v.knowledgeDocumentVersionId ≠
      knowledgeDocumentVersionId row.knowledgeDocumentId row.version) ∨
    v = row.versionRow row.updatedAt
  chunks : ∀ c, c ∈ t.chunks ↔
    (c ∈ s.chunks ∧ c.knowledgeDocumentId ≠ row.knowledgeDocumentId) ∨
    c ∈ row.chunkRows row.updatedAt
  owner : row.workspaceId = knowledgeDocumentOwnerWorkspaceId workspaceId row.scope

/-- The documents that satisfy `removed` are gone, with their versions and chunks. -/
structure Removes (removed : KnowledgeDocumentRow → Bool)
    (unindexed : KnowledgeDocumentChunkRow → Bool) (s t : KnowledgeStore) : Prop where
  documents : ∀ r, r ∈ t.documents ↔ r ∈ s.documents ∧ removed r = false
  versions : ∀ v, v ∈ t.versions ↔ v ∈ s.versions ∧ ∀ r ∈ s.documents,
    r.knowledgeDocumentId = v.knowledgeDocumentId → removed r = false
  chunks : ∀ c, c ∈ t.chunks ↔ c ∈ s.chunks ∧ unindexed c = false ∧ ∀ r ∈ s.documents,
    r.knowledgeDocumentId = c.knowledgeDocumentId → removed r = false

/-- All that a step of a request of a workspace can do. -/
inductive KnowledgeEffect (workspaceId : String) (s t : KnowledgeStore) : Prop
  | kept (h : SameKnowledge s t)
  | created {row : KnowledgeDocumentRow} (h : Puts workspaceId row s t)
      (hnew : ∀ r ∈ s.documents, r.knowledgeDocumentId ≠ row.knowledgeDocumentId)
      (hversion : row.version = 1)
  | updated {row current : KnowledgeDocumentRow} (h : Puts workspaceId row s t)
      (hcurrent : current ∈ s.documents)
      (hid : row.knowledgeDocumentId = current.knowledgeDocumentId)
      (hvisible : visibleIn workspaceId current.workspaceId current.scope = true)
      (hversion : row.version = current.version + 1)
  | removed {removed : KnowledgeDocumentRow → Bool} {unindexed : KnowledgeDocumentChunkRow → Bool}
      (h : Removes removed unindexed s t)
      (hremoved : ∀ r, removed r = true → r.scope = "global" ∨ r.workspaceId = some workspaceId)
      (hunindexed : ∀ c, unindexed c = true →
        c.scope = "global" ∨ c.workspaceId = some workspaceId)
      (hsame : ∀ c r, c.knowledgeDocumentId = r.knowledgeDocumentId →
        c.workspaceId = r.workspaceId → c.scope = r.scope → unindexed c = removed r)

theorem KnowledgeEffect.refl (workspaceId : String) (s : KnowledgeStore) :
    KnowledgeEffect workspaceId s s := .kept ⟨rfl, rfl, rfl⟩

/-- What a workspace sees is its own or global. -/
theorem owned_of_visibleIn {workspaceId scope : String} {owner : Option String}
    (h : visibleIn workspaceId owner scope = true) :
    scope = "global" ∨ owner = some workspaceId := by
  simp only [visibleIn, Bool.or_eq_true, Bool.and_eq_true, beq_iff_eq] at h
  rcases h with ⟨-, howner⟩ | hscope
  · exact Or.inr howner
  · exact Or.inl hscope

/-! ## Statements -/

theorem mem_of_insert_delete {ρ : Type} [Row ρ] {t t' : Table ρ} {p : ρ → Bool} {row : ρ}
    (h : (t.delete p).insert row = some t') (a : ρ) :
    a ∈ t' ↔ (a ∈ t ∧ p a = false) ∨ a = row := by
  rw [Table.mem_insert h, Table.mem_delete]

/-- An `UPDATE` that selects one row puts the rewritten row in its place. -/
theorem mem_update_one {ρ : Type} [Row ρ] {t : Table ρ} {p : ρ → Bool} {f : ρ → ρ}
    (hf : ∀ a, Row.keys (f a) = Row.keys a) {current : ρ} (hcurrent : current ∈ t)
    (hp : p current = true) (honly : ∀ a ∈ t, p a = true → a = current) (r : ρ) :
    r ∈ t.update p f hf ↔ (r ∈ t ∧ p r = false) ∨ r = f current := by
  rw [Table.mem_update]
  constructor
  · rintro ⟨a, ha, rfl⟩
    by_cases hsel : p a = true
    · rw [if_pos hsel, honly a ha hsel]
      exact Or.inr rfl
    · rw [if_neg hsel]
      exact Or.inl ⟨ha, by simpa using hsel⟩
  · rintro (⟨hr, hother⟩ | rfl)
    · exact ⟨r, hr, if_neg (by simp [hother])⟩
    · exact ⟨current, hcurrent, if_pos hp⟩

theorem insertDocumentRow_ok {s t : KnowledgeStore} {row : KnowledgeDocumentRow} {u : Unit} :
    s.insertDocumentRow row = .ok (u, t) ↔ s.hasOwner row.workspaceId = true ∧
      ∃ documents, s.documents.insert row = some documents ∧ t = { s with documents } := by
  unfold KnowledgeStore.insertDocumentRow
  by_cases howner : s.hasOwner row.workspaceId = true
  · cases hins : s.documents.insert row with
    | none => simp [howner]
    | some documents => simp [howner, eq_comm]
  · simp [howner]

theorem insertKnowledgeDocumentVersion_ok {s t : KnowledgeStore}
    {row : KnowledgeDocumentVersionRow} {u : Unit} :
    s.insertKnowledgeDocumentVersion row = .ok (u, t) ↔
      s.hasDocument row.knowledgeDocumentId = true ∧
      ∃ versions, (s.versions.delete fun r =>
        r.knowledgeDocumentVersionId == row.knowledgeDocumentVersionId).insert row =
          some versions ∧ t = { s with versions } := by
  unfold KnowledgeStore.insertKnowledgeDocumentVersion
  by_cases hdocument : s.hasDocument row.knowledgeDocumentId = true
  · cases hins : (s.versions.delete fun r =>
        r.knowledgeDocumentVersionId == row.knowledgeDocumentVersionId).insert row with
    | none => simp [hdocument]
    | some versions => simp [hdocument, eq_comm]
  · simp [hdocument]

theorem insertChunkRow_ok {s t : KnowledgeStore} {row : KnowledgeDocumentChunkRow} {u : Unit}
    (h : s.insertChunkRow row = .ok (u, t)) :
    ∃ chunks, s.chunks.insert row = some chunks ∧ t = { s with chunks } := by
  unfold KnowledgeStore.insertChunkRow at h
  split_ifs at h with hparents
  cases hins : s.chunks.insert row with
  | none => simp [hins] at h
  | some chunks =>
    simp only [hins, Except.ok.injEq, Prod.mk.injEq, true_and] at h
    exact ⟨chunks, rfl, h.symm⟩

/-- The chunks of a list are inserted one by one, and nothing else changes. -/
theorem exec_insertChunkRows {rows : List KnowledgeDocumentChunkRow} {s t : KnowledgeStore}
    {u : Unit} (h : exec (insertChunkRows rows) s = (.ok u, t)) :
    t.documents = s.documents ∧ t.versions = s.versions ∧
      ∀ c, c ∈ t.chunks ↔ c ∈ s.chunks ∨ c ∈ rows := by
  induction rows generalizing s with
  | nil =>
    obtain rfl := (Prod.mk.inj h).2
    simp
  | cons row rows ih =>
    rw [insertChunkRows] at h
    simp only [exec_bind_ok, statement, exec_execute_ok] at h
    obtain ⟨_, v, hrow, hrest⟩ := h
    obtain ⟨chunks, hins, rfl⟩ := insertChunkRow_ok hrow
    obtain ⟨hdocuments, hversions, hchunks⟩ := ih hrest
    refine ⟨hdocuments, hversions, fun c => ?_⟩
    rw [hchunks, Table.mem_insert hins, List.mem_cons, or_assoc]

theorem exec_replaceKnowledgeDocumentChunks {document : KnowledgeDocumentRow}
    {createdAt : String} {s t : KnowledgeStore} {u : Unit}
    (h : exec (replaceKnowledgeDocumentChunks document createdAt) s = (.ok u, t)) :
    t.documents = s.documents ∧ t.versions = s.versions ∧ ∀ c, c ∈ t.chunks ↔
      (c ∈ s.chunks ∧ c.knowledgeDocumentId ≠ document.knowledgeDocumentId) ∨
        c ∈ document.chunkRows createdAt := by
  simp only [replaceKnowledgeDocumentChunks, exec_bind_ok, statement, exec_execute_ok,
    KnowledgeStore.deleteChunkRows, Except.ok.injEq, Prod.mk.injEq] at h
  obtain ⟨_, v, ⟨-, rfl⟩, hrows⟩ := h
  obtain ⟨hdocuments, hversions, hchunks⟩ := exec_insertChunkRows hrows
  refine ⟨hdocuments, hversions, fun c => ?_⟩
  rw [hchunks, Table.mem_delete, beq_eq_false_iff_ne]

theorem getKnowledgeDocument_eq_some {s : KnowledgeStore} {workspaceId id : String}
    {row : KnowledgeDocumentRow} (h : s.getKnowledgeDocument workspaceId id = some row) :
    row ∈ s.documents ∧ row.knowledgeDocumentId = id ∧
      visibleIn workspaceId row.workspaceId row.scope = true := by
  have hsat := Table.sat_of_find h
  simp only [Bool.and_eq_true, beq_iff_eq] at hsat
  exact ⟨Table.mem_of_find h, hsat.1, hsat.2⟩

/-- Two documents with the same id are the same. -/
theorem eq_of_knowledgeDocumentId {s : KnowledgeStore} {a b : KnowledgeDocumentRow}
    (ha : a ∈ s.documents) (hb : b ∈ s.documents)
    (h : a.knowledgeDocumentId = b.knowledgeDocumentId) : a = b :=
  Table.eq_of_clash ha hb
    ⟨("knowledge_document_id", [a.knowledgeDocumentId]), by simp [Row.keys],
      by simp [Row.keys, h]⟩

/-! ## Transactions -/

/-- The three writes that put a document in its place, after the table of the documents has
changed. -/
theorem puts_of_writes {workspaceId : String} {row : KnowledgeDocumentRow}
    {s u v w : KnowledgeStore}
    (hdocuments : ∀ r, r ∈ u.documents ↔
      (r ∈ s.documents ∧ r.knowledgeDocumentId ≠ row.knowledgeDocumentId) ∨ r = row)
    (hkept : u.versions = s.versions ∧ u.chunks = s.chunks)
    (howner : row.workspaceId = knowledgeDocumentOwnerWorkspaceId workspaceId row.scope)
    (hversion : u.insertKnowledgeDocumentVersion (row.versionRow row.updatedAt) = .ok ((), v))
    (hchunks : exec (replaceKnowledgeDocumentChunks row row.updatedAt) v = (.ok (), w)) :
    Puts workspaceId row s w := by
  obtain ⟨-, versions, hins, rfl⟩ := insertKnowledgeDocumentVersion_ok.1 hversion
  obtain ⟨hsame, hversions, hmem⟩ := exec_replaceKnowledgeDocumentChunks hchunks
  refine ⟨?_, ?_, ?_, howner⟩
  · intro r
    rw [hsame]
    exact hdocuments r
  · intro r
    rw [hversions, mem_of_insert_delete hins, beq_eq_false_iff_ne, hkept.1]
    rfl
  · intro c
    rw [hmem, hkept.2]

/-- A document is global or belongs to the workspace. -/
def KnowledgeDocumentRow.OwnedBy (workspaceId : String) (r : KnowledgeDocumentRow) : Prop :=
  r.scope = "global" ∨ r.workspaceId = some workspaceId

theorem ownedBy_of_getKnowledgeDocument {s : KnowledgeStore} {workspaceId id : String}
    {row : KnowledgeDocumentRow} (h : s.getKnowledgeDocument workspaceId id = some row) :
    row.OwnedBy workspaceId :=
  owned_of_visibleIn (getKnowledgeDocument_eq_some h).2.2

/-- The time of the last change of a workspace is not part of the knowledge tables. -/
theorem KnowledgeEffect.touch {workspaceId : String} {s u : KnowledgeStore}
    (h : KnowledgeEffect workspaceId s u) (workspaces : Table WorkspaceRow) :
    KnowledgeEffect workspaceId s { u with workspaces } := by
  cases h with
  | kept h => exact .kept ⟨h.documents, h.versions, h.chunks⟩
  | created h hnew hversion =>
    exact .created ⟨h.documents, h.versions, h.chunks, h.owner⟩ hnew hversion
  | updated h hcurrent hid hvisible hversion =>
    exact .updated ⟨h.documents, h.versions, h.chunks, h.owner⟩ hcurrent hid hvisible hversion
  | removed h hremoved hunindexed hsame =>
    exact .removed ⟨h.documents, h.versions, h.chunks⟩ hremoved hunindexed hsame

theorem NewKnowledgeDocument.workspaceId_row (now : String) (input : NewKnowledgeDocument) :
    (input.row now).workspaceId =
      knowledgeDocumentOwnerWorkspaceId input.workspaceId (input.row now).scope := rfl

/-- A committed creation puts the new document in a place that was free. -/
theorem createTransaction_effect {d : Draws} {n : NormalizedKnowledgeDocumentInput}
    {s t : KnowledgeStore} {answer : KnowledgeDocumentRow}
    (h : exec (createTransaction d n) s = (.ok answer, t)) :
    KnowledgeEffect n.workspaceId s t ∧ answer.OwnedBy n.workspaceId := by
  simp only [createTransaction, createKnowledgeDocument, exec_query_bind, exec_failIf_bind,
    guard_ok, exec_bind_ok, statement, exec_execute_ok, KnowledgeStore.touchWorkspace,
    exec_pure, Except.ok.injEq, Prod.mk.injEq] at h
  obtain ⟨-, stored, u, ⟨_, _, hdocument, _, _, hversion, _, w, hchunks, hfound⟩, _, _,
    ⟨-, rfl⟩, rfl, rfl⟩ := h
  have hanswer : w = u ∧ stored.OwnedBy n.workspaceId := by
    cases hget : w.getKnowledgeDocument n.workspaceId (d.placeholderId "kdoc_" 0) with
    | none =>
      simp only [NormalizedKnowledgeDocumentInput.newDocument, hget] at hfound
      cases hfound
    | some found =>
      simp only [NormalizedKnowledgeDocumentInput.newDocument, hget] at hfound
      obtain ⟨hsame, rfl⟩ := Prod.mk.inj hfound
      exact ⟨rfl, Except.ok.inj hsame ▸ ownedBy_of_getKnowledgeDocument hget⟩
  obtain ⟨rfl, howned⟩ := hanswer
  obtain ⟨row, hrow⟩ : ∃ row, row = (n.newDocument (d.placeholderId "kdoc_" 0)
    (d.timestamp 1)).row (d.timestamp 2) := ⟨_, rfl⟩
  have htime : row.createdAt = row.updatedAt := by rw [hrow]; rfl
  have howner : row.workspaceId = knowledgeDocumentOwnerWorkspaceId n.workspaceId row.scope := by
    rw [hrow]
    exact NewKnowledgeDocument.workspaceId_row _ _
  have hone : row.version = 1 := by rw [hrow]; rfl
  rw [← hrow] at hdocument hversion hchunks
  rw [htime] at hversion hchunks
  obtain ⟨-, documents, hins, rfl⟩ := insertDocumentRow_ok.1 hdocument
  have hnew : ∀ r ∈ s.documents, r.knowledgeDocumentId ≠ row.knowledgeDocumentId := by
    intro r hr hid
    have hclash : Clash r row := ⟨("knowledge_document_id", [r.knowledgeDocumentId]),
      by simp [Row.keys], by simp [Row.keys, hid]⟩
    exact Table.not_clash_of_insert hins hr hclash
  have hdocuments : ∀ r, r ∈ documents ↔
      (r ∈ s.documents ∧ r.knowledgeDocumentId ≠ row.knowledgeDocumentId) ∨ r = row := by
    intro r
    rw [Table.mem_insert hins]
    refine or_congr_left ⟨fun hr => ⟨hr, hnew r hr⟩, And.left⟩
  have hputs := puts_of_writes (u := { s with documents }) hdocuments ⟨rfl, rfl⟩ howner hversion
    hchunks
  have heffect := KnowledgeEffect.created hputs hnew hone
  exact ⟨heffect.touch _, howned⟩

/-- The document a committed update found takes its new form. -/
theorem mem_updateDocumentRow {s v : KnowledgeStore} {workspaceId id now : String}
    {update : KnowledgeDocumentUpdate} {current : KnowledgeDocumentRow} {affected : ℕ}
    (hfound : s.getKnowledgeDocument workspaceId id = some current)
    (h : s.updateDocumentRow workspaceId id now update = .ok (affected, v)) :
    affected = 1 ∧ v.versions = s.versions ∧ v.chunks = s.chunks ∧ ∀ r, r ∈ v.documents ↔
      (r ∈ s.documents ∧ r.knowledgeDocumentId ≠ id) ∨
        r = update.apply now workspaceId current := by
  obtain ⟨hcurrent, hid, hvisible⟩ := getKnowledgeDocument_eq_some hfound
  unfold KnowledgeStore.updateDocumentRow at h
  unfold KnowledgeStore.getKnowledgeDocument at hfound
  simp only [hfound] at h
  split_ifs at h with howner
  obtain ⟨rfl, rfl⟩ := Prod.mk.inj (Except.ok.inj h)
  refine ⟨rfl, rfl, rfl, fun r => ?_⟩
  have hselected : ∀ a ∈ s.documents, (a.knowledgeDocumentId == id &&
      visibleIn workspaceId a.workspaceId a.scope) = (a.knowledgeDocumentId == id) := by
    intro a ha
    by_cases hsame : a.knowledgeDocumentId = id
    · rw [eq_of_knowledgeDocumentId ha hcurrent (hsame.trans hid.symm), hvisible, Bool.and_true]
    · rw [beq_eq_false_iff_ne.2 hsame, Bool.false_and]
  have honly : ∀ a ∈ s.documents, (a.knowledgeDocumentId == id &&
      visibleIn workspaceId a.workspaceId a.scope) = true → a = current := by
    intro a ha hsel
    rw [hselected a ha, beq_iff_eq] at hsel
    exact eq_of_knowledgeDocumentId ha hcurrent (hsel.trans hid.symm)
  have hmem := mem_update_one (update.keys_apply now workspaceId) hcurrent
    (by simp [hid, hvisible]) honly r
  refine hmem.trans ?_
  refine or_congr_left (and_congr_right fun hr => ?_)
  rw [hselected r hr, beq_eq_false_iff_ne]

/-- A committed update puts the next version in the place of the document it found. -/
theorem updateKnowledgeDocument_effect {now workspaceId id : String}
    {update : KnowledgeDocumentUpdate} {s t : KnowledgeStore}
    {answer : Option KnowledgeDocumentRow}
    (h : exec (updateKnowledgeDocument now workspaceId id update) s = (.ok answer, t)) :
    KnowledgeEffect workspaceId s t ∧ ∀ row ∈ answer, row.OwnedBy workspaceId := by
  simp only [updateKnowledgeDocument, exec_query_bind, exec_bind_ok, statement,
    exec_execute_ok] at h
  obtain ⟨affected, v, hupdate, hrest⟩ := h
  cases hfound : s.getKnowledgeDocument workspaceId id with
  | none =>
    rw [hfound] at hrest
    obtain ⟨hanswer, rfl⟩ := Prod.mk.inj hrest
    obtain rfl := Except.ok.inj hanswer
    have hnone : v = s := by
      unfold KnowledgeStore.updateDocumentRow at hupdate
      unfold KnowledgeStore.getKnowledgeDocument at hfound
      simp only [hfound, Except.ok.injEq, Prod.mk.injEq] at hupdate
      exact hupdate.2.symm
    rw [hnone]
    exact ⟨KnowledgeEffect.refl _ _, fun row hrow => absurd hrow (Option.not_mem_none row)⟩
  | some current =>
    obtain ⟨hcurrent, hid, hvisible⟩ := getKnowledgeDocument_eq_some hfound
    obtain ⟨rfl, hversions, hchunks, hdocuments⟩ := mem_updateDocumentRow hfound hupdate
    obtain ⟨row, hrow⟩ : ∃ row, row = update.apply now workspaceId current := ⟨_, rfl⟩
    have hrowid : row.knowledgeDocumentId = current.knowledgeDocumentId := by rw [hrow]; rfl
    have howner : row.workspaceId = knowledgeDocumentOwnerWorkspaceId workspaceId row.scope := by
      rw [hrow]; rfl
    have hnext : row.version = current.version + 1 := by rw [hrow]; rfl
    rw [hfound] at hrest
    simp only [← hrow] at hrest hdocuments
    simp only [one_ne_zero, ↓reduceIte, exec_bind_ok, exec_execute_ok, exec_query] at hrest
    obtain ⟨_, _, hversion, _, w, hrows, hanswer⟩ := hrest
    obtain ⟨hfinal, rfl⟩ := Prod.mk.inj hanswer
    obtain rfl := Except.ok.inj hfinal
    rw [← hrowid.trans hid] at hdocuments
    have hputs := puts_of_writes hdocuments ⟨hversions, hchunks⟩ howner hversion hrows
    exact ⟨.updated hputs hcurrent hrowid hvisible hnext,
      fun row hget => ownedBy_of_getKnowledgeDocument hget⟩

/-- What a committed update does besides, when it found a document. -/
theorem updateTransaction_effect {d : Draws} {n : NormalizedUpdateKnowledgeDocumentInput}
    {s t : KnowledgeStore} {answer : Option KnowledgeDocumentRow}
    (h : exec (updateTransaction d n) s = (.ok answer, t)) :
    KnowledgeEffect n.workspaceId s t ∧ ∀ row ∈ answer, row.OwnedBy n.workspaceId := by
  simp only [updateTransaction, exec_bind_ok] at h
  obtain ⟨found, u, hupdate, hrest⟩ := h
  obtain ⟨heffect, howned⟩ := updateKnowledgeDocument_effect hupdate
  cases found with
  | none =>
    obtain ⟨hanswer, rfl⟩ := Prod.mk.inj hrest
    exact ⟨heffect, Except.ok.inj hanswer ▸ howned⟩
  | some document =>
    simp only [exec_bind_ok, statement, exec_execute_ok, KnowledgeStore.touchWorkspace,
      exec_pure, Except.ok.injEq, Prod.mk.injEq] at hrest
    obtain ⟨_, _, ⟨-, rfl⟩, rfl, rfl⟩ := hrest
    exact ⟨heffect.touch _, howned⟩

/-! ### Deletions -/

theorem removes_withoutDocuments (s : KnowledgeStore) (removed : KnowledgeDocumentRow → Bool)
    (unindexed : KnowledgeDocumentChunkRow → Bool) (u : KnowledgeStore)
    (hu : u = { s with chunks := s.chunks.delete unindexed }) :
    Removes removed unindexed s (u.withoutDocuments removed) := by
  subst hu
  have hgone : ∀ id, (s.documents.find fun r => r.knowledgeDocumentId == id && removed r).isSome =
      false ↔ ∀ r ∈ s.documents, r.knowledgeDocumentId = id → removed r = false := by
    intro id
    rw [Option.isSome_eq_false_iff, Option.isNone_iff_eq_none, Table.find_eq_none]
    simp
  refine ⟨fun r => ?_, fun v => ?_, fun c => ?_⟩
  · exact Table.mem_delete
  · exact Table.mem_delete.trans (and_congr_right fun _ => hgone _)
  · have hchunk := @Table.mem_delete _ _ s.chunks unindexed c
    exact Table.mem_delete.trans ((and_congr hchunk (hgone _)).trans and_assoc)

/-- The deletion of a document touches the rows of that document which the workspace sees. -/
theorem deleteKnowledgeDocument_effect {workspaceId id : String} {s t : KnowledgeStore}
    {answer : Bool} (h : exec (deleteKnowledgeDocument workspaceId id) s = (.ok answer, t)) :
    KnowledgeEffect workspaceId s t := by
  simp only [deleteKnowledgeDocument, exec_bind_ok, statement, exec_execute_ok,
    KnowledgeStore.deleteVisibleChunkRows, KnowledgeStore.deleteDocumentRow, exec_pure,
    Except.ok.injEq, Prod.mk.injEq] at h
  obtain ⟨_, u, ⟨-, rfl⟩, _, _, ⟨-, rfl⟩, -, rfl⟩ := h
  refine .removed (removes_withoutDocuments s _ _ _ rfl) ?_ ?_ ?_
  · intro r hr
    rw [Bool.and_eq_true] at hr
    exact owned_of_visibleIn hr.2
  · intro c hc
    rw [Bool.and_eq_true] at hc
    exact owned_of_visibleIn hc.2
  · intro c r hid howner hscope
    rw [hid, howner, hscope]

/-- A committed deletion takes away a document that the workspace sees, or none. -/
theorem deleteTransaction_effect {d : Draws} {n : DeleteKnowledgeDocumentInput}
    {s t : KnowledgeStore} {answer : Bool}
    (h : exec (deleteTransaction d n) s = (.ok answer, t)) :
    KnowledgeEffect n.workspaceId s t := by
  simp only [deleteTransaction, exec_bind_ok] at h
  obtain ⟨deleted, u, hdelete, hrest⟩ := h
  have heffect := deleteKnowledgeDocument_effect hdelete
  split_ifs at hrest with hdeleted
  · simp only [exec_bind_ok, statement, exec_execute_ok, KnowledgeStore.touchWorkspace,
      exec_pure, Except.ok.injEq, Prod.mk.injEq] at hrest
    obtain ⟨_, _, ⟨-, rfl⟩, -, rfl⟩ := hrest
    exact heffect.touch _
  · obtain rfl := (Prod.mk.inj hrest).2
    exact heffect

theorem deleteWorkspaceTransaction_effect {workspaceId : String} {othersAllow : Bool}
    {s t : KnowledgeStore} {u : Unit}
    (h : exec (deleteWorkspaceTransaction workspaceId othersAllow) s = (.ok u, t)) :
    KnowledgeEffect workspaceId s t := by
  simp only [deleteWorkspaceTransaction, exec_query_bind, exec_failIf_bind, guard_ok, statement,
    exec_execute_ok, KnowledgeStore.deleteWorkspaceRows, Except.ok.injEq, Prod.mk.injEq] at h
  obtain ⟨-, -, -, rfl⟩ := h
  have hremoves := removes_withoutDocuments s (·.workspaceId == some workspaceId)
    (·.workspaceId == some workspaceId) _ rfl
  have heffect : KnowledgeEffect workspaceId s _ := .removed hremoves
    (fun r hr => Or.inr (beq_iff_eq.1 hr)) (fun c hc => Or.inr (beq_iff_eq.1 hc))
    fun c r _ howner _ => by rw [howner]
  exact heffect.touch _

/-! ## Requests -/

/-- The documents of an answer are global ones or those of the workspace. -/
def KnowledgeAnswer.OwnedBy (workspaceId : String) : KnowledgeAnswer → Prop
  | .documents rows => ∀ r ∈ rows, r.OwnedBy workspaceId
  | .deleted _ => True

theorem guarantees_immediateTransaction {α : Type} {workspaceId : String} {post : α → Prop}
    {mapErr : StorageError → WorkspaceServiceError} {p : KnowledgeSqlite α}
    (h : ∀ s t a, exec p s = (.ok a, t) → KnowledgeEffect workspaceId s t ∧ post a) :
    (immediateTransaction mapErr p).Guarantees (fun _ => True)
      (KnowledgeEffect workspaceId) post :=
  (guarantees_atomically (KnowledgeEffect.refl workspaceId) fun s t a _ hrun =>
    h s t a hrun).mapErr

theorem readOnly_validateWorkspace (workspaceId : String) :
    (validateWorkspace workspaceId).ReadOnly :=
  (readOnly_query _).bind fun _ => readOnly_failIf _ _

theorem readOnly_validateAccess (workspaceId knowledgeDocumentId : String) :
    (validateKnowledgeDocumentWorkspaceAccess workspaceId knowledgeDocumentId).ReadOnly := by
  refine (readOnly_validateWorkspace _).bind fun _ => (readOnly_query _).bind fun document => ?_
  cases document with
  | none => exact readOnly_pure ()
  | some document => exact readOnly_failIf _ _

theorem workspaceId_of_normalizeFields {input : CreateKnowledgeDocumentInput}
    {workspaceId : String} {n : NormalizedKnowledgeDocumentInput}
    (h : normalizeKnowledgeDocumentFields input workspaceId = .ok n) :
    n.workspaceId = workspaceId := by
  simp only [normalizeKnowledgeDocumentFields, except_bind_ok] at h
  obtain ⟨_, -, _, -, _, -, hn⟩ := h
  obtain rfl := Except.ok.inj hn
  rfl

theorem workspaceId_of_normalizeCreate {input : CreateKnowledgeDocumentInput}
    {n : NormalizedKnowledgeDocumentInput}
    (h : normalizeCreateKnowledgeDocumentInput input = .ok n) :
    n.workspaceId = Text.trim input.workspaceId := by
  simp only [normalizeCreateKnowledgeDocumentInput, except_bind_ok, requiredInput_ok] at h
  obtain ⟨_, ⟨rfl, -⟩, hfields⟩ := h
  exact workspaceId_of_normalizeFields hfields

theorem workspaceId_of_normalizeUpdate {input : UpdateKnowledgeDocumentInput}
    {n : NormalizedUpdateKnowledgeDocumentInput}
    (h : normalizeUpdateKnowledgeDocumentInput input = .ok n) :
    n.workspaceId = Text.trim input.workspaceId := by
  simp only [normalizeUpdateKnowledgeDocumentInput, except_bind_ok, requiredInput_ok] at h
  obtain ⟨_, ⟨rfl, -⟩, _, -, fields, hfields, hn⟩ := h
  obtain rfl := Except.ok.inj hn
  exact workspaceId_of_normalizeFields hfields

theorem workspaceId_of_normalizeDelete {input n : DeleteKnowledgeDocumentInput}
    (h : normalizeDeleteKnowledgeDocumentInput input = .ok n) :
    n.workspaceId = Text.trim input.workspaceId := by
  simp only [normalizeDeleteKnowledgeDocumentInput, except_bind_ok, requiredInput_ok] at h
  obtain ⟨_, ⟨rfl, -⟩, _, -, hn⟩ := h
  obtain rfl := Except.ok.inj hn
  rfl

/-- What the steps of a program of a workspace do, and what it answers. -/
abbrev Serves {α : Type} (workspaceId : String) (p : KnowledgeService α) (post : α → Prop) :
    Prop :=
  p.Guarantees (fun _ => True) (KnowledgeEffect workspaceId) post

theorem serves_create (d : Draws) (input : CreateKnowledgeDocumentInput) :
    Serves (Text.trim input.workspaceId) (createKnowledgeDocumentCommand d input)
      (·.OwnedBy (Text.trim input.workspaceId)) := by
  refine (guarantees_check_ok _).bind fun n hn => guarantees_immediateTransaction ?_
  intro s t row hrun
  rw [← workspaceId_of_normalizeCreate hn]
  exact createTransaction_effect hrun

theorem serves_update (d : Draws) (input : UpdateKnowledgeDocumentInput) :
    Serves (Text.trim input.workspaceId) (updateKnowledgeDocumentCommand d input)
      fun answer => ∀ row ∈ answer, row.OwnedBy (Text.trim input.workspaceId) := by
  refine (guarantees_check_ok _).bind fun n hn => ?_
  refine ((readOnly_validateAccess _ _).guarantees (KnowledgeEffect.refl _)).bind fun _ _ => ?_
  refine guarantees_immediateTransaction fun s t answer hrun => ?_
  rw [← workspaceId_of_normalizeUpdate hn]
  exact updateTransaction_effect hrun

theorem serves_delete (d : Draws) (input : DeleteKnowledgeDocumentInput) :
    Serves (Text.trim input.workspaceId) (deleteKnowledgeDocumentCommand d input)
      fun _ => True := by
  refine (guarantees_check_ok _).bind fun n hn => ?_
  refine ((readOnly_validateAccess _ _).guarantees (KnowledgeEffect.refl _)).bind fun _ _ => ?_
  refine guarantees_immediateTransaction fun s t answer hrun => ⟨?_, trivial⟩
  rw [← workspaceId_of_normalizeDelete hn]
  exact deleteTransaction_effect hrun

theorem serves_get (workspaceId knowledgeDocumentId : String) :
    Serves (Text.trim workspaceId) (getKnowledgeDocumentCommand workspaceId knowledgeDocumentId)
      fun answer => ∀ row ∈ answer, row.OwnedBy (Text.trim workspaceId) := by
  refine (guarantees_check_ok _).bind fun trimmed hn => (guarantees_check_ok _).bind fun id _ => ?_
  obtain ⟨rfl, -⟩ := requiredInput_ok.1 hn
  refine ((readOnly_validateAccess _ _).guarantees (KnowledgeEffect.refl _)).bind fun _ _ => ?_
  exact guarantees_query (KnowledgeEffect.refl _) fun s _ row hrow =>
    ownedBy_of_getKnowledgeDocument hrow

theorem serves_list (workspaceId : String) :
    Serves (Text.trim workspaceId) (listKnowledgeDocuments workspaceId)
      fun rows => ∀ row ∈ rows, row.OwnedBy (Text.trim workspaceId) := by
  refine (guarantees_check_ok _).bind fun trimmed hn => ?_
  obtain ⟨rfl, -⟩ := requiredInput_ok.1 hn
  refine ((readOnly_validateWorkspace _).guarantees (KnowledgeEffect.refl _)).bind fun _ _ => ?_
  refine guarantees_query (KnowledgeEffect.refl _) fun s _ row hrow => ?_
  exact owned_of_visibleIn (Table.mem_select.1 hrow).2

theorem serves_deleteWorkspace (workspaceId : String) (othersAllow : Bool) :
    Serves (Text.trim workspaceId) (deleteWorkspaceCommand workspaceId othersAllow)
      fun _ => True := by
  refine (guarantees_check_ok _).bind fun trimmed hn => ?_
  obtain ⟨rfl, -⟩ := requiredInput_ok.1 hn
  exact guarantees_immediateTransaction fun s t _ hrun =>
    ⟨deleteWorkspaceTransaction_effect hrun, trivial⟩

/-- **All that a request does**, in whatever store each of its steps finds. -/
theorem program_guarantees (request : KnowledgeRequest) :
    Serves request.workspaceId request.program (·.OwnedBy request.workspaceId) := by
  cases request with
  | create d input =>
    refine (serves_create d input).bind fun document hdocument => guarantees_pure ?_
    intro r hr
    rw [List.mem_singleton.1 hr]
    exact hdocument
  | list workspaceId =>
    exact (serves_list workspaceId).bind fun rows hrows => guarantees_pure hrows
  | get workspaceId id =>
    refine (serves_get workspaceId id).bind fun answer hanswer => guarantees_pure ?_
    exact fun r hr => hanswer r (Option.mem_toList.1 hr)
  | update d input =>
    refine (serves_update d input).bind fun answer hanswer => guarantees_pure ?_
    exact fun r hr => hanswer r (Option.mem_toList.1 hr)
  | delete d input =>
    exact (serves_delete d input).bind fun found _ => guarantees_pure trivial
  | deleteWorkspace workspaceId othersAllow =>
    exact (serves_deleteWorkspace workspaceId othersAllow).bind fun _ _ => guarantees_pure trivial

end HobitQueue.Knowledge
