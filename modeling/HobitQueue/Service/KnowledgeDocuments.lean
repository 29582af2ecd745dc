import HobitQueue.Service.Basic
import HobitQueue.Store.KnowledgeDocuments

/-!
# The knowledge commands

The commands that create, read, change and delete the documents of a workspace. Whether the
workspace may touch a document is looked up before the transaction that changes it, so another
connection can get in between.
-/

namespace HobitQueue.Knowledge

open Concurrent StoreProg

/-- A program of the service over the knowledge tables. -/
abbrev KnowledgeService (α : Type) : Type :=
  StoreProg KnowledgeStore WorkspaceServiceError α

/-- A command that creates a document. `typedSourceKind` is the legacy kind of the first of its
typed source references; the references and the relations are given as they are printed. -/
structure CreateKnowledgeDocumentInput where
  workspaceId : String
  scope : Option String
  catalogItemType : Option String
  quickSummary : Option String
  lifecycleStatus : Option String
  title : String
  sourceLabel : String
  sourceKind : Option String
  typedSourceKind : Option String
  sourceRefsJson : String
  relationsJson : String
  content : String
  tags : String
  enabled : Bool
  searchable : Bool
  versionSummary : Option String
  reviewedAt : Option String

structure UpdateKnowledgeDocumentInput extends CreateKnowledgeDocumentInput where
  knowledgeDocumentId : String

structure DeleteKnowledgeDocumentInput where
  workspaceId : String
  knowledgeDocumentId : String

/-! ## Normalization -/

def normalizeSourceLabel (sourceLabel : String) : String :=
  Text.visibleValue sourceLabel "Workspace document"

def normalizeSourceKind (sourceKind : Option String) : String :=
  (Text.optionalTrimmed sourceKind).getD "operator_authored"

/-- The first three lines that are not blank. -/
def normalizeQuickSummary (quickSummary : Option String) : String :=
  let lines := (TextLines.lines (quickSummary.getD "").toList).map fun line =>
    Text.trim (String.ofList line)
  "\n".intercalate ((lines.filter (· ≠ "")).take 3)

/-- `CATALOG_ITEM_TYPE_DOCUMENT`, … -/
def catalogItemTypes : List String :=
  ["document", "codebase_knowledge", "documentation_knowledge", "architecture_decision",
    "decision", "runbook", "skill", "prompt_template", "validation_rule", "known_issue",
    "workflow", "command_history_summary", "investigation_summary", "external_reference"]

def normalizeCatalogItemType (catalogItemType : Option String) :
    Except WorkspaceServiceError String :=
  let value := (Text.optionalTrimmed catalogItemType).getD "documentation_knowledge"
  if value ∈ catalogItemTypes then .ok value
  else .error (.invalidInput ("unsupported knowledge catalog item type: " ++ value))

/-- The texts of `KnowledgeLifecycleStatus`. -/
def lifecycleStatuses : List String := ["draft", "active", "stale", "archived", "rejected"]

def normalizeLifecycleStatus (lifecycleStatus : Option String) :
    Except WorkspaceServiceError String :=
  let value := (Text.optionalTrimmed lifecycleStatus).getD "active"
  if value ∈ lifecycleStatuses then .ok value
  else .error (.invalidInput ("unsupported knowledge lifecycle status: " ++ value))

def normalizeTags (tags : String) : String :=
  let parts := (tags.toList.splitOnP (· == ',')).map fun tag => Text.trim (String.ofList tag)
  ", ".intercalate (parts.filter (· ≠ ""))

def normalizeScope (scope : Option String) : String :=
  if scope.map Text.trim = some "global" then "global" else "workspace"

structure NormalizedKnowledgeDocumentInput where
  workspaceId : String
  title : String
  catalogItemType : String
  quickSummary : String
  lifecycleStatus : String
  sourceLabel : String
  sourceKind : String
  sourceRefsJson : String
  relationsJson : String
  content : String
  tags : String
  enabled : Bool
  searchable : Bool
  versionSummary : Option String
  reviewedAt : Option String
  scope : String

structure NormalizedUpdateKnowledgeDocumentInput extends NormalizedKnowledgeDocumentInput where
  knowledgeDocumentId : String

/-- The fields that are checked last, and the same in a creation and in an update. -/
def normalizeKnowledgeDocumentFields (input : CreateKnowledgeDocumentInput)
    (workspaceId : String) : Except WorkspaceServiceError NormalizedKnowledgeDocumentInput := do
  let title ← requiredInput input.title "knowledge document title"
  let catalogItemType ← normalizeCatalogItemType input.catalogItemType
  let lifecycleStatus ← normalizeLifecycleStatus input.lifecycleStatus
  pure
    { workspaceId
      title
      catalogItemType
      quickSummary := normalizeQuickSummary input.quickSummary
      lifecycleStatus
      sourceLabel := normalizeSourceLabel input.sourceLabel
      sourceKind := normalizeSourceKind (input.sourceKind.or input.typedSourceKind)
      sourceRefsJson := input.sourceRefsJson
      relationsJson := input.relationsJson
      content := input.content
      tags := normalizeTags input.tags
      enabled := input.enabled
      searchable := input.searchable
      versionSummary := Text.optionalTrimmed input.versionSummary
      reviewedAt := Text.optionalTrimmed input.reviewedAt
      scope := normalizeScope input.scope }

def normalizeCreateKnowledgeDocumentInput (input : CreateKnowledgeDocumentInput) :
    Except WorkspaceServiceError NormalizedKnowledgeDocumentInput := do
  let workspaceId ← requiredInput input.workspaceId "workspace id"
  normalizeKnowledgeDocumentFields input workspaceId

def normalizeUpdateKnowledgeDocumentInput (input : UpdateKnowledgeDocumentInput) :
    Except WorkspaceServiceError NormalizedUpdateKnowledgeDocumentInput := do
  let workspaceId ← requiredInput input.workspaceId "workspace id"
  let knowledgeDocumentId ← requiredInput input.knowledgeDocumentId "knowledge document id"
  let fields ← normalizeKnowledgeDocumentFields input.toCreateKnowledgeDocumentInput workspaceId
  pure { fields with knowledgeDocumentId }

def normalizeDeleteKnowledgeDocumentInput (input : DeleteKnowledgeDocumentInput) :
    Except WorkspaceServiceError DeleteKnowledgeDocumentInput := do
  let workspaceId ← requiredInput input.workspaceId "workspace id"
  let knowledgeDocumentId ← requiredInput input.knowledgeDocumentId "knowledge document id"
  pure { workspaceId, knowledgeDocumentId }

/-! ## Commands -/

/-- One transaction, whose errors the service reports through `mapErr`. -/
def immediateTransaction {α : Type} (mapErr : StorageError → WorkspaceServiceError)
    (p : KnowledgeSqlite α) : KnowledgeService α := (StoreProg.atomically p).mapErr mapErr

def mapStorageKnowledgeDocumentError : StorageError → WorkspaceServiceError
  | .invalidParameterName message => .invalidInput message
  | error => .storage error

def validateWorkspace (workspaceId : String) : KnowledgeService Unit := do
  let workspace ← StoreProg.query (·.getWorkspace workspaceId)
  StoreProg.failIf workspace.isNone (.invalidInput ("workspace not found: " ++ workspaceId))

/-- The document must be global or belong to the workspace; a document that is not there is
left to the statements that come next. -/
def validateKnowledgeDocumentWorkspaceAccess (workspaceId knowledgeDocumentId : String) :
    KnowledgeService Unit := do
  validateWorkspace workspaceId
  let document ← StoreProg.query (·.getKnowledgeDocumentById knowledgeDocumentId)
  match document with
  | none => pure ()
  | some document =>
      StoreProg.failIf
        (document.scope != "global" && document.workspaceId.getD "" != workspaceId)
        (.invalidInput ("knowledge document does not belong to workspace: " ++
          knowledgeDocumentId))

/-- What a normalized request asks the store to insert. -/
def NormalizedKnowledgeDocumentInput.newDocument (n : NormalizedKnowledgeDocumentInput)
    (knowledgeDocumentId createdAt : String) : NewKnowledgeDocument :=
  { knowledgeDocumentId
    workspaceId := n.workspaceId
    scope := some n.scope
    catalogItemType := some n.catalogItemType
    quickSummary := some n.quickSummary
    lifecycleStatus := some n.lifecycleStatus
    title := n.title
    sourceLabel := n.sourceLabel
    sourceKind := some n.sourceKind
    sourceRefs := some n.sourceRefsJson
    relations := some n.relationsJson
    content := n.content
    tags := n.tags
    enabled := n.enabled
    searchable := n.searchable
    versionSummary := n.versionSummary
    createdAt := some createdAt
    updatedAt := some createdAt
    reviewedAt := n.reviewedAt }

def NormalizedKnowledgeDocumentInput.update (n : NormalizedKnowledgeDocumentInput)
    (updatedAt : String) : KnowledgeDocumentUpdate :=
  { title := n.title
    scope := some n.scope
    catalogItemType := some n.catalogItemType
    quickSummary := some n.quickSummary
    lifecycleStatus := some n.lifecycleStatus
    sourceLabel := n.sourceLabel
    sourceKind := some n.sourceKind
    sourceRefs := some n.sourceRefsJson
    relations := some n.relationsJson
    content := n.content
    tags := n.tags
    enabled := n.enabled
    searchable := n.searchable
    versionSummary := n.versionSummary
    updatedAt := some updatedAt
    reviewedAt := n.reviewedAt }

/-- The transaction of a creation. The clock of the store is read at place 2. -/
def createTransaction (d : Draws) (n : NormalizedKnowledgeDocumentInput) :
    KnowledgeSqlite KnowledgeDocumentRow := do
  let workspace ← StoreProg.query (·.getWorkspace n.workspaceId)
  StoreProg.failIf workspace.isNone (storageInvalidInput ("workspace not found: " ++ n.workspaceId))
  let document ← createKnowledgeDocument (d.timestamp 2)
    (n.newDocument (d.placeholderId "kdoc_" 0) (d.timestamp 1))
  statement (·.touchWorkspace n.workspaceId (d.timestamp 2))
  pure document

def createKnowledgeDocumentCommand (d : Draws) (input : CreateKnowledgeDocumentInput) :
    KnowledgeService KnowledgeDocumentRow := do
  let n ← StoreProg.check (normalizeCreateKnowledgeDocumentInput input)
  immediateTransaction mapStorageKnowledgeDocumentError (createTransaction d n)

def listKnowledgeDocuments (workspaceId : String) :
    KnowledgeService (List KnowledgeDocumentRow) := do
  let workspaceId ← StoreProg.check (requiredInput workspaceId "workspace id")
  validateWorkspace workspaceId
  StoreProg.query (·.listKnowledgeDocumentsForWorkspace workspaceId)

def getKnowledgeDocumentCommand (workspaceId knowledgeDocumentId : String) :
    KnowledgeService (Option KnowledgeDocumentRow) := do
  let workspaceId ← StoreProg.check (requiredInput workspaceId "workspace id")
  let knowledgeDocumentId ← StoreProg.check
    (requiredInput knowledgeDocumentId "knowledge document id")
  validateKnowledgeDocumentWorkspaceAccess workspaceId knowledgeDocumentId
  StoreProg.query (·.getKnowledgeDocument workspaceId knowledgeDocumentId)

def updateTransaction (d : Draws) (n : NormalizedUpdateKnowledgeDocumentInput) :
    KnowledgeSqlite (Option KnowledgeDocumentRow) := do
  let document ← updateKnowledgeDocument (d.timestamp 1) n.workspaceId n.knowledgeDocumentId
    (n.update (d.timestamp 0))
  match document with
  | none => pure none
  | some document => do
      statement (·.touchWorkspace n.workspaceId (d.timestamp 1))
      pure (some document)

def updateKnowledgeDocumentCommand (d : Draws) (input : UpdateKnowledgeDocumentInput) :
    KnowledgeService (Option KnowledgeDocumentRow) := do
  let n ← StoreProg.check (normalizeUpdateKnowledgeDocumentInput input)
  validateKnowledgeDocumentWorkspaceAccess n.workspaceId n.knowledgeDocumentId
  immediateTransaction .storage (updateTransaction d n)

def deleteTransaction (d : Draws) (n : DeleteKnowledgeDocumentInput) : KnowledgeSqlite Bool := do
  let deleted ← deleteKnowledgeDocument n.workspaceId n.knowledgeDocumentId
  if deleted then do
    statement (·.touchWorkspace n.workspaceId (d.timestamp 0))
    pure deleted
  else pure deleted

def deleteKnowledgeDocumentCommand (d : Draws) (input : DeleteKnowledgeDocumentInput) :
    KnowledgeService Bool := do
  let n ← StoreProg.check (normalizeDeleteKnowledgeDocumentInput input)
  validateKnowledgeDocumentWorkspaceAccess n.workspaceId n.knowledgeDocumentId
  immediateTransaction .storage (deleteTransaction d n)

/-- The deletion of a workspace, as far as the knowledge tables go. The statements on the other
tables are in the same transaction; `othersAllow` tells whether they go through. -/
def deleteWorkspaceTransaction (workspaceId : String) (othersAllow : Bool) :
    KnowledgeSqlite Unit := do
  let workspace ← StoreProg.query (·.getWorkspace workspaceId)
  StoreProg.failIf workspace.isNone .queryReturnedNoRows
  StoreProg.failIf (!othersAllow) (.constraintViolation "FOREIGN KEY constraint failed")
  statement (·.deleteWorkspaceRows workspaceId)

def mapWorkspaceDeletionError (workspaceId : String) : StorageError → WorkspaceServiceError
  | .queryReturnedNoRows => .invalidInput ("workspace not found: " ++ workspaceId)
  | error => .storage error

def deleteWorkspaceCommand (workspaceId : String) (othersAllow : Bool) : KnowledgeService Unit := do
  let workspaceId ← StoreProg.check (requiredInput workspaceId "workspace id")
  immediateTransaction (mapWorkspaceDeletionError workspaceId)
    (deleteWorkspaceTransaction workspaceId othersAllow)

/-! ## Requests -/

inductive KnowledgeRequest where
  | create (d : Draws) (input : CreateKnowledgeDocumentInput)
  | list (workspaceId : String)
  | get (workspaceId knowledgeDocumentId : String)
  | update (d : Draws) (input : UpdateKnowledgeDocumentInput)
  | delete (d : Draws) (input : DeleteKnowledgeDocumentInput)
  | deleteWorkspace (workspaceId : String) (othersAllow : Bool)

/-- The documents that a request answers with, and whether it deleted one. -/
inductive KnowledgeAnswer where
  | documents (rows : List KnowledgeDocumentRow)
  | deleted (found : Bool)

/-- The program that answers a request on a connection of its own. -/
def KnowledgeRequest.program : KnowledgeRequest → KnowledgeService KnowledgeAnswer
  | create d input => do
      let document ← createKnowledgeDocumentCommand d input
      pure (.documents [document])
  | list workspaceId => do
      let documents ← listKnowledgeDocuments workspaceId
      pure (.documents documents)
  | get workspaceId knowledgeDocumentId => do
      let document ← getKnowledgeDocumentCommand workspaceId knowledgeDocumentId
      pure (.documents document.toList)
  | update d input => do
      let document ← updateKnowledgeDocumentCommand d input
      pure (.documents document.toList)
  | delete d input => do
      let found ← deleteKnowledgeDocumentCommand d input
      pure (.deleted found)
  | deleteWorkspace workspaceId othersAllow => do
      deleteWorkspaceCommand workspaceId othersAllow
      pure (.deleted true)

/-- The workspace a request names, without the blanks around it. -/
def KnowledgeRequest.workspaceId : KnowledgeRequest → String
  | create _ input => Text.trim input.workspaceId
  | list workspaceId => Text.trim workspaceId
  | get workspaceId _ => Text.trim workspaceId
  | update _ input => Text.trim input.workspaceId
  | delete _ input => Text.trim input.workspaceId
  | deleteWorkspace workspaceId _ => Text.trim workspaceId

end HobitQueue.Knowledge
