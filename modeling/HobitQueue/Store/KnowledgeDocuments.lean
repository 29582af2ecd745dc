import HobitQueue.Store.KnowledgeSearch
import HobitQueue.Store.Sqlite

/-!
# The knowledge tables

The documents of a workspace, the versions they went through and the chunks they are searched
in. A document belongs to one workspace or, in the scope "global", to all of them. The typed
source references and relations of a document are columns of printed text.
-/

namespace HobitQueue.Knowledge

open Relational Concurrent StoreProg

/-- A row of `knowledge_documents`. -/
structure KnowledgeDocumentRow where
  knowledgeDocumentId : String
  workspaceId : Option String
  scope : String
  catalogItemType : String
  quickSummary : String
  lifecycleStatus : String
  title : String
  sourceLabel : String
  sourceKind : String
  sourceRefs : String
  relations : String
  content : String
  tags : String
  enabled : Bool
  searchable : Bool
  version : ℕ
  versionSummary : String
  createdAt : String
  updatedAt : String
  reviewedAt : Option String
  deriving DecidableEq

instance : Row KnowledgeDocumentRow where
  keys r := [("knowledge_document_id", [r.knowledgeDocumentId])]

structure KnowledgeDocumentVersionRow where
  knowledgeDocumentVersionId : String
  knowledgeDocumentId : String
  version : ℕ
  versionSummary : String
  lifecycleStatus : String
  sourceRefs : String
  relations : String
  content : String
  createdAt : String
  updatedAt : String
  deriving DecidableEq

instance : Row KnowledgeDocumentVersionRow where
  keys r := [("knowledge_document_version_id", [r.knowledgeDocumentVersionId])]

structure KnowledgeDocumentChunkRow where
  chunkId : String
  knowledgeDocumentId : String
  workspaceId : Option String
  scope : String
  chunkIndex : ℕ
  text : String
  createdAt : String
  deriving DecidableEq

instance : Row KnowledgeDocumentChunkRow where
  keys r := [("chunk_id", [r.chunkId])]

/-- The knowledge tables, and the workspaces they refer to. -/
structure KnowledgeStore where
  workspaces : Table WorkspaceRow
  documents : Table KnowledgeDocumentRow
  versions : Table KnowledgeDocumentVersionRow
  chunks : Table KnowledgeDocumentChunkRow

/-- A program over the knowledge tables that fails with storage errors. -/
abbrev KnowledgeSqlite (α : Type) : Type := StoreProg KnowledgeStore StorageError α

/-! ## Columns -/

def normalizedKnowledgeDocumentScope (scope : Option String) : String :=
  if scope.map Text.trim = some "global" then "global" else "workspace"

def knowledgeDocumentOwnerWorkspaceId (workspaceId scope : String) : Option String :=
  if scope = "global" then none else some workspaceId

def reviewedTimestampForStatus (lifecycleStatus timestamp : String) : Option String :=
  if lifecycleStatus = "active" ∨ lifecycleStatus = "rejected" then some timestamp else none

/-- `(scope = 'workspace' AND workspace_id = ?1) OR scope = 'global'`. -/
def visibleIn (workspaceId : String) (owner : Option String) (scope : String) : Bool :=
  (scope == "workspace" && owner == some workspaceId) || scope == "global"

/-- `format!("{knowledge_document_id}_v{version:06}")`. -/
def knowledgeDocumentVersionId (knowledgeDocumentId : String) (version : ℕ) : String :=
  knowledgeDocumentId ++ "_v" ++ Text.padLeft 6 version

/-- `format!("{knowledge_document_id}_chunk_{chunk_index:04}")`. -/
def knowledgeDocumentChunkId (knowledgeDocumentId : String) (chunkIndex : ℕ) : String :=
  knowledgeDocumentId ++ "_chunk_" ++ Text.padLeft 4 chunkIndex

structure NewKnowledgeDocument where
  knowledgeDocumentId : String
  workspaceId : String
  scope : Option String
  catalogItemType : Option String
  quickSummary : Option String
  lifecycleStatus : Option String
  title : String
  sourceLabel : String
  sourceKind : Option String
  sourceRefs : Option String
  relations : Option String
  content : String
  tags : String
  enabled : Bool
  searchable : Bool
  versionSummary : Option String
  createdAt : Option String
  updatedAt : Option String
  reviewedAt : Option String

structure KnowledgeDocumentUpdate where
  title : String
  scope : Option String
  catalogItemType : Option String
  quickSummary : Option String
  lifecycleStatus : Option String
  sourceLabel : String
  sourceKind : Option String
  sourceRefs : Option String
  relations : Option String
  content : String
  tags : String
  enabled : Bool
  searchable : Bool
  versionSummary : Option String
  updatedAt : Option String
  reviewedAt : Option String

/-- The row of a new document, with the clock as the default of its times. -/
def NewKnowledgeDocument.row (now : String) (input : NewKnowledgeDocument) :
    KnowledgeDocumentRow :=
  let createdAt := input.createdAt.getD now
  let scope := normalizedKnowledgeDocumentScope input.scope
  let lifecycleStatus := input.lifecycleStatus.getD "active"
  { knowledgeDocumentId := input.knowledgeDocumentId
    workspaceId := knowledgeDocumentOwnerWorkspaceId input.workspaceId scope
    scope
    catalogItemType := input.catalogItemType.getD "documentation_knowledge"
    quickSummary := input.quickSummary.getD ""
    lifecycleStatus
    title := input.title
    sourceLabel := input.sourceLabel
    sourceKind := input.sourceKind.getD "operator_authored"
    sourceRefs := input.sourceRefs.getD "[]"
    relations := input.relations.getD "[]"
    content := input.content
    tags := input.tags
    enabled := input.enabled
    searchable := input.searchable
    version := 1
    versionSummary := input.versionSummary.getD ""
    createdAt
    updatedAt := input.updatedAt.getD createdAt
    reviewedAt := input.reviewedAt.or (reviewedTimestampForStatus lifecycleStatus createdAt) }

/-- A document after an update; the time of a review is kept unless a new one is given. -/
def KnowledgeDocumentUpdate.apply (now workspaceId : String) (update : KnowledgeDocumentUpdate)
    (current : KnowledgeDocumentRow) : KnowledgeDocumentRow :=
  let updatedAt := update.updatedAt.getD now
  let scope := normalizedKnowledgeDocumentScope update.scope
  let lifecycleStatus := update.lifecycleStatus.getD "active"
  { current with
    workspaceId := knowledgeDocumentOwnerWorkspaceId workspaceId scope
    scope
    catalogItemType := update.catalogItemType.getD "documentation_knowledge"
    quickSummary := update.quickSummary.getD ""
    lifecycleStatus
    title := update.title
    sourceLabel := update.sourceLabel
    sourceKind := update.sourceKind.getD "operator_authored"
    sourceRefs := update.sourceRefs.getD "[]"
    relations := update.relations.getD "[]"
    content := update.content
    tags := update.tags
    enabled := update.enabled
    searchable := update.searchable
    version := current.version + 1
    versionSummary := update.versionSummary.getD ""
    updatedAt
    reviewedAt := update.reviewedAt.or
      (current.reviewedAt.or (reviewedTimestampForStatus lifecycleStatus updatedAt)) }

theorem KnowledgeDocumentUpdate.keys_apply (now workspaceId : String)
    (update : KnowledgeDocumentUpdate) (r : KnowledgeDocumentRow) :
    Row.keys (update.apply now workspaceId r) = Row.keys r := rfl

/-! ## Rows that follow from a document -/

namespace KnowledgeDocumentRow

/-- The version row of a document as it is now. -/
def versionRow (createdAt : String) (r : KnowledgeDocumentRow) : KnowledgeDocumentVersionRow :=
  { knowledgeDocumentVersionId := knowledgeDocumentVersionId r.knowledgeDocumentId r.version
    knowledgeDocumentId := r.knowledgeDocumentId
    version := r.version
    versionSummary := r.versionSummary
    lifecycleStatus := r.lifecycleStatus
    sourceRefs := r.sourceRefs
    relations := r.relations
    content := r.content
    createdAt
    updatedAt := r.updatedAt }

/-- The chunk with a place among the chunks of a document. -/
def chunkRow (createdAt : String) (r : KnowledgeDocumentRow) (text : List Char)
    (chunkIndex : ℕ) : KnowledgeDocumentChunkRow :=
  { chunkId := knowledgeDocumentChunkId r.knowledgeDocumentId chunkIndex
    knowledgeDocumentId := r.knowledgeDocumentId
    workspaceId := r.workspaceId
    scope := r.scope
    chunkIndex
    text := String.ofList text
    createdAt }

/-- The chunks of a document, in order. -/
def chunkRows (createdAt : String) (r : KnowledgeDocumentRow) : List KnowledgeDocumentChunkRow :=
  (KnowledgeSearch.chunkKnowledgeDocumentContent r.content.toList).zipIdx.map fun chunk =>
    r.chunkRow createdAt chunk.1 chunk.2

end KnowledgeDocumentRow

/-! ## Statements -/

namespace KnowledgeStore

variable (s : KnowledgeStore)

def getWorkspace (id : String) : Option WorkspaceRow := s.workspaces.find (·.id == id)

def getKnowledgeDocument (workspaceId knowledgeDocumentId : String) :
    Option KnowledgeDocumentRow :=
  s.documents.find fun r =>
    r.knowledgeDocumentId == knowledgeDocumentId && visibleIn workspaceId r.workspaceId r.scope

def getKnowledgeDocumentById (knowledgeDocumentId : String) : Option KnowledgeDocumentRow :=
  s.documents.find (·.knowledgeDocumentId == knowledgeDocumentId)

/-- `ORDER BY updated_at, created_at, knowledge_document_id`. -/
def documentOrder : SortKey KnowledgeDocumentRow (String ×ₗ String ×ₗ String) where
  rank r := toLex (r.updatedAt, toLex (r.createdAt, r.knowledgeDocumentId))
  clash_of_rank_eq a b h := by
    simp only [EmbeddingLike.apply_eq_iff_eq, Prod.mk.injEq] at h
    exact ⟨("knowledge_document_id", [a.knowledgeDocumentId]), by simp [Row.keys],
      by simp [Row.keys, h]⟩

def listKnowledgeDocumentsForWorkspace (workspaceId : String) : List KnowledgeDocumentRow :=
  s.documents.select (fun r => visibleIn workspaceId r.workspaceId r.scope) documentOrder

/-- A foreign key to the workspaces, which may be `NULL`. -/
def hasOwner (owner : Option String) : Bool := owner.all fun id => (s.getWorkspace id).isSome

def hasDocument (id : String) : Bool := (s.getKnowledgeDocumentById id).isSome

def insertDocumentRow (row : KnowledgeDocumentRow) :
    Except StorageError (Unit × KnowledgeStore) :=
  if s.hasOwner row.workspaceId then
    match s.documents.insert row with
    | some documents => .ok ((), { s with documents })
    | none => .error (.constraintViolation "UNIQUE constraint failed")
  else .error (.constraintViolation "FOREIGN KEY constraint failed")

/-- `INSERT OR REPLACE`: the row takes the place of one with the same id. -/
def insertKnowledgeDocumentVersion (row : KnowledgeDocumentVersionRow) :
    Except StorageError (Unit × KnowledgeStore) :=
  if s.hasDocument row.knowledgeDocumentId then
    match (s.versions.delete fun r =>
        r.knowledgeDocumentVersionId == row.knowledgeDocumentVersionId).insert row with
    | some versions => .ok ((), { s with versions })
    | none => .error (.constraintViolation "UNIQUE constraint failed")
  else .error (.constraintViolation "FOREIGN KEY constraint failed")

def deleteChunkRows (knowledgeDocumentId : String) :
    Except StorageError (Unit × KnowledgeStore) :=
  .ok ((), { s with chunks := s.chunks.delete (·.knowledgeDocumentId == knowledgeDocumentId) })

def insertChunkRow (row : KnowledgeDocumentChunkRow) :
    Except StorageError (Unit × KnowledgeStore) :=
  if s.hasDocument row.knowledgeDocumentId && s.hasOwner row.workspaceId then
    match s.chunks.insert row with
    | some chunks => .ok ((), { s with chunks })
    | none => .error (.constraintViolation "UNIQUE constraint failed")
  else .error (.constraintViolation "FOREIGN KEY constraint failed")

/-- The `UPDATE` of a document that the workspace sees, and the number of rows it affected. -/
def updateDocumentRow (workspaceId knowledgeDocumentId now : String)
    (update : KnowledgeDocumentUpdate) : Except StorageError (ℕ × KnowledgeStore) :=
  let named := fun (r : KnowledgeDocumentRow) =>
    r.knowledgeDocumentId == knowledgeDocumentId && visibleIn workspaceId r.workspaceId r.scope
  let owner := knowledgeDocumentOwnerWorkspaceId workspaceId
    (normalizedKnowledgeDocumentScope update.scope)
  match s.documents.find named with
  | none => .ok (0, s)
  | some _ =>
      if s.hasOwner owner then
        .ok (1, { s with
          documents := s.documents.update named (update.apply now workspaceId)
            (update.keys_apply now workspaceId) })
      else .error (.constraintViolation "FOREIGN KEY constraint failed")

def deleteVisibleChunkRows (workspaceId knowledgeDocumentId : String) :
    Except StorageError (Unit × KnowledgeStore) :=
  .ok ((), { s with chunks := s.chunks.delete fun r =>
    r.knowledgeDocumentId == knowledgeDocumentId && visibleIn workspaceId r.workspaceId r.scope })

/-- The tables without the documents a statement removes: their versions and chunks go with
them (`ON DELETE CASCADE`). -/
def withoutDocuments (removed : KnowledgeDocumentRow → Bool) : KnowledgeStore :=
  let gone := fun id =>
    (s.documents.find fun r => r.knowledgeDocumentId == id && removed r).isSome
  { s with
    documents := s.documents.delete removed
    versions := s.versions.delete fun r => gone r.knowledgeDocumentId
    chunks := s.chunks.delete fun r => gone r.knowledgeDocumentId }

/-- The `DELETE` of a document that the workspace sees, and the number of rows it affected. -/
def deleteDocumentRow (workspaceId knowledgeDocumentId : String) :
    Except StorageError (ℕ × KnowledgeStore) :=
  let named := fun (r : KnowledgeDocumentRow) =>
    r.knowledgeDocumentId == knowledgeDocumentId && visibleIn workspaceId r.workspaceId r.scope
  .ok (if (s.documents.find named).isSome then 1 else 0, s.withoutDocuments named)

/-- The documents and chunks a workspace owns, deleted with it; no row refers to the workspace
after that. -/
def deleteWorkspaceRows (workspaceId : String) : Except StorageError (Unit × KnowledgeStore) :=
  let chunksGone :=
    { s with chunks := s.chunks.delete (·.workspaceId == some workspaceId) }
  let documentsGone := chunksGone.withoutDocuments (·.workspaceId == some workspaceId)
  .ok ((), { documentsGone with workspaces := s.workspaces.delete (·.id == workspaceId) })

def touchWorkspace (workspaceId updatedAt : String) :
    Except StorageError (Unit × KnowledgeStore) :=
  .ok ((), { s with
    workspaces := s.workspaces.update (·.id == workspaceId)
      (fun r => { r with updatedAt := updatedAt }) (WorkspaceRow.keys_touch updatedAt) })

end KnowledgeStore

/-! ## Store functions -/

/-- A statement of the store. -/
def statement {α : Type} (f : KnowledgeStore → Except StorageError (α × KnowledgeStore)) :
    KnowledgeSqlite α := StoreProg.execute f

def insertChunkRows : List KnowledgeDocumentChunkRow → KnowledgeSqlite Unit
  | [] => pure ()
  | row :: rows => do
      statement (·.insertChunkRow row)
      insertChunkRows rows

def replaceKnowledgeDocumentChunks (document : KnowledgeDocumentRow) (createdAt : String) :
    KnowledgeSqlite Unit := do
  statement (·.deleteChunkRows document.knowledgeDocumentId)
  insertChunkRows (document.chunkRows createdAt)

def createKnowledgeDocument (now : String) (input : NewKnowledgeDocument) :
    KnowledgeSqlite KnowledgeDocumentRow := do
  let document := input.row now
  statement (·.insertDocumentRow document)
  statement (·.insertKnowledgeDocumentVersion (document.versionRow document.createdAt))
  replaceKnowledgeDocumentChunks document document.createdAt
  let found ← StoreProg.query (·.getKnowledgeDocument input.workspaceId input.knowledgeDocumentId)
  match found with
  | some row => pure row
  | none => throw .queryReturnedNoRows

def updateKnowledgeDocument (now workspaceId knowledgeDocumentId : String)
    (update : KnowledgeDocumentUpdate) : KnowledgeSqlite (Option KnowledgeDocumentRow) := do
  let current ← StoreProg.query (·.getKnowledgeDocument workspaceId knowledgeDocumentId)
  let affectedRows ← statement (·.updateDocumentRow workspaceId knowledgeDocumentId now update)
  match current with
  | none => pure none
  | some current =>
    if affectedRows = 0 then pure none
    else do
      let document := update.apply now workspaceId current
      statement (·.insertKnowledgeDocumentVersion (document.versionRow document.updatedAt))
      replaceKnowledgeDocumentChunks document document.updatedAt
      StoreProg.query (·.getKnowledgeDocument workspaceId knowledgeDocumentId)

def deleteKnowledgeDocument (workspaceId knowledgeDocumentId : String) : KnowledgeSqlite Bool := do
  statement (·.deleteVisibleChunkRows workspaceId knowledgeDocumentId)
  let affectedRows ← statement (·.deleteDocumentRow workspaceId knowledgeDocumentId)
  pure (decide (0 < affectedRows))

end HobitQueue.Knowledge
