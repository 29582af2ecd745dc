import HobitQueue.Knowledge.Runs
import HobitQueue.Lib.Ranking
import HobitQueue.Service.ContextAttachments

/-!
# Search in the knowledge documents

A search joins the indexed chunks with their documents, scores each by the terms of the query and
shows the best. What the Unicode tables say about a character, which number a text stands for
and the clock are parameters; the database may list the joined rows in any order.

## Main results

* `search_exact_after` — after every interleaving of requests, a search shows the best rows that
  the documents have at that time, each once, and no others.
-/

namespace HobitQueue.Knowledge

open Relational Concurrent Machine

/-! ## The model -/

structure KnowledgeDocumentSearchResultRow where
  knowledgeDocumentId : String
  documentTitle : String
  scope : String
  catalogItemType : String
  lifecycleStatus : String
  sourceLabel : String
  sourceKind : String
  tags : String
  updatedAt : String
  chunkId : String
  chunkIndex : ℕ
  text : String
  score : ℕ
  deriving DecidableEq

structure KnowledgeDocumentSearchFilters where
  scopes : List String
  catalogItemTypes : List String
  lifecycleStatuses : List String
  tags : List String
  sourceKinds : List String
  updatedAfter : Option String
  updatedWithinDays : Option ℕ

/-- What a search takes from outside: two Unicode tables, `str::parse::<f64>` and the clock. -/
structure SearchSetting where
  toLowercase : String → String
  isAlphanumeric : Char → Bool
  parseFloat : String → Option Float
  nowUnixSeconds : ℕ

def maxSearchLimit : ℕ := 20

/-- `limit.clamp(1, maxSearchLimit)`. -/
def cappedSearchLimit (limit : ℕ) : ℕ := min (max limit 1) maxSearchLimit

/-- The terms of a query, each once; a term has at least two bytes. -/
def lexicalTerms (setting : SearchSetting) (query : String) : List String :=
  let parts := ((setting.toLowercase query).toList.splitOnP fun c => !setting.isAlphanumeric c).map
    fun part => Text.trim (String.ofList part)
  (parts.filter fun term => 2 ≤ term.utf8ByteSize).foldl
    (fun terms term => if term ∈ terms then terms else terms ++ [term]) []

/-- The occurrences of a term that do not overlap, after some characters of one. -/
def countMatchesFrom (term : List Char) : ℕ → List Char → ℕ
  | _, [] => 0
  | skip + 1, _ :: rest => countMatchesFrom term skip rest
  | 0, c :: rest =>
      if term.isPrefixOf (c :: rest) then 1 + countMatchesFrom term (term.length - 1) rest
      else countMatchesFrom term 0 rest

/-- `haystack.matches(needle).count()`, for a needle that is not empty. -/
def countMatches (text term : String) : ℕ := countMatchesFrom term.toList 0 text.toList

/-- The score of a row for a query. -/
def knowledgeSearchScore (setting : SearchSetting) (row : KnowledgeDocumentSearchResultRow)
    (terms : List String) : ℕ :=
  let title := setting.toLowercase row.documentTitle
  let source := setting.toLowercase row.sourceLabel
  let tags := setting.toLowercase row.tags
  let text := setting.toLowercase row.text
  (terms.map fun term =>
    10 * countMatches title term + 6 * countMatches tags term + 4 * countMatches source term +
      2 * countMatches text term).sum

def stringFilterMatches (acceptedValues : List String) (value : String) : Bool :=
  acceptedValues.isEmpty ||
    acceptedValues.any fun accepted => toAsciiLowercase accepted == toAsciiLowercase value

def tagsFilterMatches (requiredTags : List String) (documentTags : String) : Bool :=
  let tags := ((documentTags.toList.splitOnP (· == ',')).map fun tag =>
    toAsciiLowercase (Text.trim (String.ofList tag))).filter (· ≠ "")
  requiredTags.isEmpty || requiredTags.all fun required => tags.contains required

def parseTimestamp (setting : SearchSetting) (value : String) : Option Float :=
  setting.parseFloat (Text.trim value)

/-- A time that cannot be read passes only where no time is asked for. -/
def updatedFilterMatches (setting : SearchSetting) (row : KnowledgeDocumentSearchResultRow)
    (filters : KnowledgeDocumentSearchFilters) : Bool :=
  match parseTimestamp setting row.updatedAt with
  | none => filters.updatedAfter.isNone && filters.updatedWithinDays.isNone
  | some updatedAt =>
    if (filters.updatedAfter.bind (parseTimestamp setting)).any (updatedAt < ·) then false
    else
      !filters.updatedWithinDays.any fun recentDays =>
        updatedAt < Float.ofNat (setting.nowUnixSeconds - recentDays * 86400)

def knowledgeSearchResultMatchesFilters (setting : SearchSetting)
    (filters : KnowledgeDocumentSearchFilters) (row : KnowledgeDocumentSearchResultRow) : Bool :=
  stringFilterMatches filters.scopes row.scope &&
    stringFilterMatches filters.catalogItemTypes row.catalogItemType &&
    stringFilterMatches filters.lifecycleStatuses row.lifecycleStatus &&
    tagsFilterMatches filters.tags row.tags &&
    stringFilterMatches filters.sourceKinds row.sourceKind &&
    updatedFilterMatches setting row filters

/-- The columns of the join, before they are scored. -/
def searchResultRow (d : KnowledgeDocumentRow) (c : KnowledgeDocumentChunkRow) :
    KnowledgeDocumentSearchResultRow :=
  { knowledgeDocumentId := d.knowledgeDocumentId
    documentTitle := d.title
    scope := d.scope
    catalogItemType := d.catalogItemType
    lifecycleStatus := d.lifecycleStatus
    sourceLabel := d.sourceLabel
    sourceKind := d.sourceKind
    tags := d.tags
    updatedAt := d.updatedAt
    chunkId := c.chunkId
    chunkIndex := c.chunkIndex
    text := c.text
    score := 0 }

/-- The condition of the join, for a chunk and a document. -/
def joined (workspaceId : String) (c : KnowledgeDocumentChunkRow) (d : KnowledgeDocumentRow) :
    Bool :=
  d.knowledgeDocumentId == c.knowledgeDocumentId &&
    ((d.scope == "workspace" && d.workspaceId == some workspaceId &&
        c.workspaceId == some workspaceId) ||
      (d.scope == "global" && c.scope == "global")) &&
    d.enabled && d.searchable && d.lifecycleStatus == "active"

/-- The rows of the join. -/
def KnowledgeStore.searchCandidates (s : KnowledgeStore) (workspaceId : String) :
    List KnowledgeDocumentSearchResultRow :=
  s.chunks.rows.flatMap fun c =>
    (s.documents.rows.filter (joined workspaceId c)).map fun d => searchResultRow d c

/-- `score` descending, `document_title`, `chunk_index`. -/
def searchRank (row : KnowledgeDocumentSearchResultRow) : ℕᵒᵈ ×ₗ String ×ₗ ℕ :=
  toLex (OrderDual.toDual row.score, toLex (row.documentTitle, row.chunkIndex))

/-- A row with its score, unless none of the terms occurs in it. -/
def scored (setting : SearchSetting) (terms : List String)
    (row : KnowledgeDocumentSearchResultRow) : Option KnowledgeDocumentSearchResultRow :=
  let score := knowledgeSearchScore setting row terms
  if 0 < score then some { row with score } else none

/-- What a search answers when the database lists the rows of the join as it does. -/
def searchKnowledgeDocumentsWithFilters (setting : SearchSetting)
    (rows : List KnowledgeDocumentSearchResultRow) (query : String) (limit : ℕ)
    (filters : KnowledgeDocumentSearchFilters) : List KnowledgeDocumentSearchResultRow :=
  let terms := lexicalTerms setting query
  if terms = [] then []
  else
    Ranking.top searchRank (cappedSearchLimit limit)
      ((rows.filter (knowledgeSearchResultMatchesFilters setting filters)).filterMap
        (scored setting terms))

/-! ## What a search is about -/

/-- A row about a chunk of the current content of a document that the workspace sees and that is
enabled, searchable and active; it passes the filters, and has a positive score. -/
def Shows (setting : SearchSetting) (s : KnowledgeStore) (workspaceId query : String)
    (filters : KnowledgeDocumentSearchFilters) (row : KnowledgeDocumentSearchResultRow) : Prop :=
  ∃ d ∈ s.documents, ∃ c ∈ d.chunkRows d.updatedAt,
    visibleIn workspaceId d.workspaceId d.scope = true ∧ d.enabled = true ∧
    d.searchable = true ∧ d.lifecycleStatus = "active" ∧
    knowledgeSearchResultMatchesFilters setting filters (searchResultRow d c) = true ∧
    row = { searchResultRow d c with
      score := knowledgeSearchScore setting (searchResultRow d c) (lexicalTerms setting query) } ∧
    0 < row.score

/-- With a current index, the join pairs each chunk with the document it was cut from. -/
theorem mem_searchCandidates {s : KnowledgeStore} (hs : IndexCurrent s) {workspaceId : String}
    {row : KnowledgeDocumentSearchResultRow} :
    row ∈ s.searchCandidates workspaceId ↔ ∃ d ∈ s.documents, ∃ c ∈ d.chunkRows d.updatedAt,
      visibleIn workspaceId d.workspaceId d.scope = true ∧ d.enabled = true ∧
      d.searchable = true ∧ d.lifecycleStatus = "active" ∧ row = searchResultRow d c := by
  have hjoined : ∀ d c, c ∈ d.chunkRows d.updatedAt → (joined workspaceId c d = true ↔
      visibleIn workspaceId d.workspaceId d.scope = true ∧ d.enabled = true ∧
        d.searchable = true ∧ d.lifecycleStatus = "active") := by
    intro d c hc
    obtain ⟨hid, howner, hscope⟩ := mem_chunkRows hc
    simp only [joined, visibleIn, hid, howner, hscope, BEq.rfl, Bool.true_and, Bool.and_assoc,
      Bool.and_self, Bool.and_eq_true, beq_iff_eq]
  constructor
  · intro hrow
    obtain ⟨c, hc, hrow⟩ := List.mem_flatMap.1 hrow
    obtain ⟨d, hd, rfl⟩ := List.mem_map.1 hrow
    obtain ⟨hmem, hjoin⟩ := List.mem_filter.1 hd
    obtain ⟨d', hd', hchunk⟩ := (hs c).1 hc
    have hid : d.knowledgeDocumentId = c.knowledgeDocumentId := by
      simp only [joined, Bool.and_eq_true, beq_iff_eq] at hjoin
      exact hjoin.1.1.1.1
    obtain rfl := eq_of_knowledgeDocumentId hmem hd' (hid.trans (mem_chunkRows hchunk).1)
    obtain ⟨hvisible, henabled, hsearchable, hactive⟩ := (hjoined d c hchunk).1 hjoin
    exact ⟨d, hmem, c, hchunk, hvisible, henabled, hsearchable, hactive, rfl⟩
  · rintro ⟨d, hd, c, hc, hvisible, henabled, hsearchable, hactive, rfl⟩
    have hjoin := (hjoined d c hc).2 ⟨hvisible, henabled, hsearchable, hactive⟩
    exact List.mem_flatMap.2 ⟨c, (hs c).2 ⟨d, hd, hc⟩,
      List.mem_map.2 ⟨d, List.mem_filter.2 ⟨hd, hjoin⟩, rfl⟩⟩

theorem knowledgeDocumentId_of_joined {workspaceId : String} {c : KnowledgeDocumentChunkRow}
    {d : KnowledgeDocumentRow} (h : joined workspaceId c d = true) :
    d.knowledgeDocumentId = c.knowledgeDocumentId := by
  simp only [joined, Bool.and_eq_true, beq_iff_eq] at h
  exact h.1.1.1.1

/-- The join lists each chunk once, since it is joined with one document at most. -/
theorem nodup_searchCandidates (s : KnowledgeStore) (workspaceId : String) :
    ((s.searchCandidates workspaceId).map (·.chunkId)).Nodup := by
  rw [KnowledgeStore.searchCandidates, List.map_flatMap, List.nodup_flatMap]
  constructor
  · intro c _
    rw [List.map_map, List.Nodup, List.pairwise_map]
    refine (s.documents.unique.filter _).imp_of_mem ?_
    intro a b ha hb hdiffer
    have hida := knowledgeDocumentId_of_joined (List.mem_filter.1 ha).2
    have hidb := knowledgeDocumentId_of_joined (List.mem_filter.1 hb).2
    refine absurd ⟨("knowledge_document_id", [a.knowledgeDocumentId]), ?_, ?_⟩ hdiffer
    · simp [Row.keys]
    · simp [Row.keys, hida, hidb]
  · refine s.chunks.unique.imp ?_
    intro c c' hdiffer id hid hid'
    simp only [List.mem_map] at hid hid'
    obtain ⟨_, ⟨d, -, rfl⟩, hc⟩ := hid
    obtain ⟨_, ⟨d', -, rfl⟩, hc'⟩ := hid'
    have hsame : c.chunkId = c'.chunkId := hc.trans hc'.symm
    refine hdiffer ⟨("chunk_id", [c.chunkId]), ?_, ?_⟩
    · simp [Row.keys]
    · simp [Row.keys, hsame]

/-- The rows a search ranks are those it is about. -/
theorem mem_scored {s : KnowledgeStore} (hs : IndexCurrent s) {setting : SearchSetting}
    {rows : List KnowledgeDocumentSearchResultRow} {workspaceId query : String}
    {filters : KnowledgeDocumentSearchFilters}
    (hrows : rows.Perm (s.searchCandidates workspaceId))
    {row : KnowledgeDocumentSearchResultRow} :
    row ∈ (rows.filter (knowledgeSearchResultMatchesFilters setting filters)).filterMap
        (scored setting (lexicalTerms setting query)) ↔
      Shows setting s workspaceId query filters row := by
  simp only [List.mem_filterMap, List.mem_filter, hrows.mem_iff, mem_searchCandidates hs, scored,
    Option.ite_none_right_eq_some, Option.some.injEq, Shows]
  constructor
  · rintro ⟨_, ⟨⟨d, hd, c, hc, hvisible, henabled, hsearchable, hactive, rfl⟩, hpasses⟩, hpos,
      rfl⟩
    exact ⟨d, hd, c, hc, hvisible, henabled, hsearchable, hactive, hpasses, rfl, hpos⟩
  · rintro ⟨d, hd, c, hc, hvisible, henabled, hsearchable, hactive, hpasses, rfl, hpos⟩
    exact ⟨_, ⟨⟨d, hd, c, hc, hvisible, henabled, hsearchable, hactive, rfl⟩, hpasses⟩, hpos,
      rfl⟩

/-- Scores do not change which chunk a row is about. -/
theorem map_chunkId_filterMap_scored (setting : SearchSetting) (terms : List String)
    (rows : List KnowledgeDocumentSearchResultRow) :
    ((rows.filterMap (scored setting terms)).map (·.chunkId)).Sublist (rows.map (·.chunkId)) := by
  induction rows with
  | nil => exact List.Sublist.slnil
  | cons row rows ih =>
    by_cases hpos : 0 < knowledgeSearchScore setting row terms
    · rw [List.filterMap_cons_some (b := { row with
        score := knowledgeSearchScore setting row terms }) (by simp [scored, hpos])]
      exact ih.cons_cons _
    · rw [List.filterMap_cons_none (by simp [scored, hpos])]
      exact ih.cons _

/-- **A search is exact**: after every interleaving of requests it shows rows that the documents
have at that time, each chunk once and the best first; and a row it leaves out is outranked by none
it shows only when it shows as many as it may. -/
theorem search_exact_after {ι : Type} [DecidableEq ι] (workspaces : Table WorkspaceRow)
    (requests : ι → KnowledgeRequest) (schedule : List ι) (setting : SearchSetting)
    (workspaceId query : String) (limit : ℕ) (filters : KnowledgeDocumentSearchFilters)
    (rows : List KnowledgeDocumentSearchResultRow)
    (hrows : rows.Perm ((afterSchedule (tablesOf workspaces) requests
      schedule).store.searchCandidates workspaceId)) :
    let s := (afterSchedule (tablesOf workspaces) requests schedule).store
    let results := searchKnowledgeDocumentsWithFilters setting rows query limit filters
    (∀ row ∈ results, Shows setting s workspaceId query filters row) ∧
      (∀ row, Shows setting s workspaceId query filters row → row ∈ results ∨
        results.length = cappedSearchLimit limit ∧
          ∀ shown ∈ results, searchRank shown ≤ searchRank row) ∧
      (results.Pairwise fun a b => searchRank a ≤ searchRank b) ∧
      (results.map (·.chunkId)).Nodup ∧ results.length ≤ maxSearchLimit := by
  intro s results
  have hs : IndexCurrent s := (invariant_afterSchedule (fun hs h => h.indexCurrent hs)
    (indexCurrent_tablesOf workspaces) requests schedule).1
  have hlimit : cappedSearchLimit limit ≤ maxSearchLimit := Nat.min_le_right _ _
  have hmem := @mem_scored _ hs setting rows workspaceId query filters hrows
  have hnodup : (((rows.filter (knowledgeSearchResultMatchesFilters setting filters)).filterMap
      (scored setting (lexicalTerms setting query))).map (·.chunkId)).Nodup := by
    have hcandidates := (hrows.map (·.chunkId)).nodup_iff.2 (nodup_searchCandidates s workspaceId)
    refine hcandidates.sublist ?_
    exact (map_chunkId_filterMap_scored _ _ _).trans (List.filter_sublist.map _)
  by_cases hterms : lexicalTerms setting query = []
  · have hempty : results = [] := by
      simp only [results, searchKnowledgeDocumentsWithFilters, if_pos hterms]
    have hnone : ∀ row, ¬ Shows setting s workspaceId query filters row := by
      rintro row ⟨d, -, c, -, -, -, -, -, -, rfl, hpos⟩
      simp [hterms, knowledgeSearchScore] at hpos
    simp [hempty, hnone]
  · have hresults : results = Ranking.top searchRank (cappedSearchLimit limit)
        ((rows.filter (knowledgeSearchResultMatchesFilters setting filters)).filterMap
          (scored setting (lexicalTerms setting query))) := by
      simp only [results, searchKnowledgeDocumentsWithFilters, if_neg hterms]
    rw [hresults]
    refine ⟨?_, ?_, Ranking.pairwise_top, Ranking.nodup_map_top hnodup,
      Ranking.length_top_le.trans hlimit⟩
    · intro row hrow
      exact hmem.1 (Ranking.mem_of_mem_top hrow)
    · intro row hrow
      exact Ranking.mem_top_or (hmem.2 hrow)

/-- A note is created in a workspace, and then looked for there. -/
theorem search_exact_after_create :
    let workspaces : Table WorkspaceRow := ⟨[⟨"w", none, "0"⟩], List.pairwise_singleton _ _⟩
    let note : CreateKnowledgeDocumentInput :=
      ⟨"w", none, none, none, none, "Deploy notes", "", none, none, "[]", "[]",
        "Run deploy twice.", "ops", true, true, none, none⟩
    let requests : Unit → KnowledgeRequest := fun _ => .create ⟨fun _ => 0, fun _ => 0⟩ note
    let setting : SearchSetting := ⟨toAsciiLowercase, Char.isAlphanum, fun _ => none, 0⟩
    let filters : KnowledgeDocumentSearchFilters := ⟨[], [], [], [], [], none, none⟩
    let s := (afterSchedule (tablesOf workspaces) requests (List.replicate 20 ())).store
    let results := searchKnowledgeDocumentsWithFilters setting (s.searchCandidates "w") "deploy" 5
      filters
    (∀ row ∈ results, Shows setting s "w" "deploy" filters row) ∧
      (∀ row, Shows setting s "w" "deploy" filters row → row ∈ results ∨
        results.length = cappedSearchLimit 5 ∧
          ∀ shown ∈ results, searchRank shown ≤ searchRank row) ∧
      (results.Pairwise fun a b => searchRank a ≤ searchRank b) ∧
      (results.map (·.chunkId)).Nodup ∧ results.length ≤ maxSearchLimit :=
  search_exact_after _ _ _ _ "w" "deploy" 5 _ _ (List.Perm.refl _)

end HobitQueue.Knowledge
