import HobitQueue.Knowledge.Steps
import HobitQueue.Lib.Numerals

/-!
# The knowledge tables over interleaved requests

Any number of requests take their steps in any order, each on a connection of its own. What the
tables hold then is stated relative to the documents: the index holds exactly the chunks of their
current contents, and the versions are a gapless record of what each document was.

## Main results

* `index_current_after` — the index is current after every interleaving.
* `versions_complete_and_kept` — the record of versions is complete, and never rewritten.
* `requests_stay_in_workspace` — a request changes and shows no rows of another workspace.
-/

namespace HobitQueue.Knowledge

open Relational Concurrent Machine

variable {ι : Type}

/-! ## Interleavings -/

/-- The knowledge tables without documents. -/
def tablesOf (workspaces : Table WorkspaceRow) : KnowledgeStore :=
  ⟨workspaces, Table.empty, Table.empty, Table.empty⟩

/-- The answer of a request, or the error that ended it. -/
abbrev Answered : Type := Except WorkspaceServiceError KnowledgeAnswer

/-- The programs of some requests, one for each client. -/
def clients (requests : ι → KnowledgeRequest) : ι → Prog KnowledgeStore Answered :=
  fun i => ExceptT.run (requests i).program

/-- Every client has a rest of its program that does what the request may do. -/
def Served (requests : ι → KnowledgeRequest) (p : Pool KnowledgeStore ι Answered) : Prop :=
  p.Sound (fun _ _ _ => True)
    (fun i _ (_ : Unit) s t _ => KnowledgeEffect (requests i).workspaceId s t)
    (fun i _ answer => ∀ a, answer = .ok a → a.OwnedBy (requests i).workspaceId)
    fun _ => ()

theorem served_start (s : KnowledgeStore) (requests : ι → KnowledgeRequest) :
    Served requests (Pool.start s (clients requests)) := by
  refine Pool.sound_start fun i _ => ?_
  have hserves := (program_guarantees (requests i)).prog
  refine (hserves.maintains () fun _ _ h => h).mono ?_
  rintro _ answer ⟨-, hanswer⟩
  exact hanswer

variable [DecidableEq ι]

/-- The pool of some requests after a schedule of their steps. -/
def afterSchedule (s : KnowledgeStore) (requests : ι → KnowledgeRequest) (schedule : List ι) :
    Pool KnowledgeStore ι Answered :=
  after Pool.step (Pool.start s (clients requests)) schedule

/-- A step is an effect of its client, and the clients stay served. -/
theorem Served.step {requests : ι → KnowledgeRequest} {p : Pool KnowledgeStore ι Answered}
    (h : Served requests p) (i : ι) :
    KnowledgeEffect (requests i).workspaceId p.store (p.step i).store ∧
      Served requests (p.step i) := by
  rcases Pool.Sound.step h (fun _ _ => trivial) i (fun _ _ _ _ _ => trivial) with
    hsame | ⟨_, heffect, hnext⟩
  · rw [hsame]
    exact ⟨KnowledgeEffect.refl _ _, h⟩
  · exact ⟨heffect, hnext⟩

/-- **What every effect preserves, an interleaving preserves.** -/
theorem invariant_afterSchedule {Good : KnowledgeStore → Prop}
    (hgood : ∀ {workspaceId s t}, Good s → KnowledgeEffect workspaceId s t → Good t)
    {s : KnowledgeStore} (hs : Good s) (requests : ι → KnowledgeRequest) (schedule : List ι) :
    Good (afterSchedule s requests schedule).store ∧
      Served requests (afterSchedule s requests schedule) := by
  have hstep : ∀ (p : Pool KnowledgeStore ι Answered) (i : ι),
      Good p.store ∧ Served requests p → Good (p.step i).store ∧ Served requests (p.step i) := by
    rintro p i ⟨hp, hserved⟩
    obtain ⟨heffect, hnext⟩ := hserved.step i
    exact ⟨hgood hp heffect, hnext⟩
  exact invariant_after_any hstep ⟨hs, served_start s requests⟩ schedule

/-! ## The index -/

theorem mem_chunkRows {d : KnowledgeDocumentRow} {createdAt : String}
    {c : KnowledgeDocumentChunkRow} (h : c ∈ d.chunkRows createdAt) :
    c.knowledgeDocumentId = d.knowledgeDocumentId ∧ c.workspaceId = d.workspaceId ∧
      c.scope = d.scope := by
  obtain ⟨chunk, -, rfl⟩ := List.mem_map.1 h
  exact ⟨rfl, rfl, rfl⟩

/-- The index holds exactly the chunks of the documents as they are now. -/
def IndexCurrent (s : KnowledgeStore) : Prop :=
  ∀ c, c ∈ s.chunks ↔ ∃ d ∈ s.documents, c ∈ d.chunkRows d.updatedAt

theorem indexCurrent_tablesOf (workspaces : Table WorkspaceRow) :
    IndexCurrent (tablesOf workspaces) := by
  intro c
  refine iff_of_false (Table.not_mem_empty c) ?_
  rintro ⟨d, hd, -⟩
  exact Table.not_mem_empty d hd

/-- Putting a document in its place leaves the index current. -/
theorem Puts.indexCurrent {workspaceId : String} {row : KnowledgeDocumentRow}
    {s t : KnowledgeStore} (h : Puts workspaceId row s t) (hs : IndexCurrent s) :
    IndexCurrent t := by
  intro c
  rw [h.chunks, hs]
  constructor
  · rintro (⟨⟨d, hd, hc⟩, hother⟩ | hc)
    · exact ⟨d, (h.documents d).2 (Or.inl ⟨hd, (mem_chunkRows hc).1 ▸ hother⟩), hc⟩
    · exact ⟨row, (h.documents row).2 (Or.inr rfl), hc⟩
  · rintro ⟨d, hd, hc⟩
    rcases (h.documents d).1 hd with ⟨hold, hother⟩ | rfl
    · exact Or.inl ⟨⟨d, hold, hc⟩, (mem_chunkRows hc).1.symm ▸ hother⟩
    · exact Or.inr hc

theorem KnowledgeEffect.indexCurrent {workspaceId : String} {s t : KnowledgeStore}
    (h : KnowledgeEffect workspaceId s t) (hs : IndexCurrent s) : IndexCurrent t := by
  cases h with
  | kept h =>
    intro c
    rw [h.chunks, h.documents]
    exact hs c
  | created h => exact h.indexCurrent hs
  | updated h => exact h.indexCurrent hs
  | @removed removed unindexed h _ _ hsame =>
    intro c
    rw [h.chunks, hs]
    constructor
    · rintro ⟨⟨d, hd, hc⟩, -, hleft⟩
      have hid := (mem_chunkRows hc).1.symm
      exact ⟨d, (h.documents d).2 ⟨hd, hleft d hd hid⟩, hc⟩
    · rintro ⟨d, hd, hc⟩
      obtain ⟨hold, hleft⟩ := (h.documents d).1 hd
      obtain ⟨hid, howner, hscope⟩ := mem_chunkRows hc
      refine ⟨⟨d, hold, hc⟩, (hsame c d hid howner hscope).trans hleft, ?_⟩
      intro r hr hrid
      rw [eq_of_knowledgeDocumentId hr hold (hrid.trans hid)]
      exact hleft

/-- **The index is current**: after every interleaving of requests it holds the chunks of the
documents as they are then, and nothing else. -/
theorem index_current_after (workspaces : Table WorkspaceRow) (requests : ι → KnowledgeRequest)
    (schedule : List ι) :
    IndexCurrent (afterSchedule (tablesOf workspaces) requests schedule).store :=
  (invariant_afterSchedule (fun hs h => h.indexCurrent hs) (indexCurrent_tablesOf workspaces)
    requests schedule).1

/-! ## The versions -/

theorem knowledgeDocumentVersionId_inj {a b : String} {m n : ℕ}
    (h : knowledgeDocumentVersionId a m = knowledgeDocumentVersionId b n) : a = b ∧ m = n := by
  have hlist := congrArg String.toList h
  simp only [knowledgeDocumentVersionId, String.toList_append] at hlist
  have hv : "_v".toList = ['_', 'v'] := rfl
  rw [hv, List.append_assoc, List.append_assoc, List.cons_append, List.singleton_append,
    List.cons_append, List.singleton_append] at hlist
  have hnone : ∀ n, '_' ∉ 'v' :: (Text.padLeft 6 n).toList := fun n hmem => by
    rcases List.mem_cons.1 hmem with hv | hmem
    · exact absurd hv (by decide)
    · exact Text.underscore_notMem_padLeft 6 n hmem
  obtain ⟨hid, hnumeral⟩ := Text.append_cons_inj_of_notMem_right (hnone m) (hnone n) hlist
  exact ⟨String.toList_inj.1 hid,
    Text.padLeft_inj (String.toList_inj.1 (List.cons.inj hnumeral).2)⟩

/-- Every document has one version row for each of its versions, the last of which is the
document as it is now; and there are no other version rows. -/
structure VersionsComplete (s : KnowledgeStore) : Prop where
  named : ∀ v ∈ s.versions, v.knowledgeDocumentVersionId =
    knowledgeDocumentVersionId v.knowledgeDocumentId v.version
  bounded : ∀ v ∈ s.versions, ∃ d ∈ s.documents,
    d.knowledgeDocumentId = v.knowledgeDocumentId ∧ 1 ≤ v.version ∧ v.version ≤ d.version
  unique : ∀ v ∈ s.versions, ∀ v' ∈ s.versions,
    v'.knowledgeDocumentId = v.knowledgeDocumentId → v'.version = v.version → v' = v
  recorded : ∀ d ∈ s.documents, ∀ n, 1 ≤ n → n ≤ d.version →
    ∃ v ∈ s.versions, v.knowledgeDocumentId = d.knowledgeDocumentId ∧ v.version = n
  latest : ∀ d ∈ s.documents, 1 ≤ d.version ∧ d.versionRow d.updatedAt ∈ s.versions

/-- Rows that are named after their document and their number are told apart by these. -/
theorem unique_of_named {s : KnowledgeStore} (h : ∀ v ∈ s.versions,
    v.knowledgeDocumentVersionId = knowledgeDocumentVersionId v.knowledgeDocumentId v.version) :
    ∀ v ∈ s.versions, ∀ v' ∈ s.versions, v'.knowledgeDocumentId = v.knowledgeDocumentId →
      v'.version = v.version → v' = v := by
  intro v hv v' hv' hid hversion
  have hname : v'.knowledgeDocumentVersionId = v.knowledgeDocumentVersionId := by
    rw [h v hv, h v' hv', hid, hversion]
  exact Table.eq_of_clash hv' hv
    ⟨("knowledge_document_version_id", [v'.knowledgeDocumentVersionId]), by simp [Row.keys],
      by simp [Row.keys, hname]⟩

theorem versionsComplete_tablesOf (workspaces : Table WorkspaceRow) :
    VersionsComplete (tablesOf workspaces) where
  named v hv := absurd hv (Table.not_mem_empty v)
  bounded v hv := absurd hv (Table.not_mem_empty v)
  unique v hv := absurd hv (Table.not_mem_empty v)
  recorded d hd := absurd hd (Table.not_mem_empty d)
  latest d hd := absurd hd (Table.not_mem_empty d)

/-- A new row takes no place of a version that is recorded, when its number is new for its
document. -/
theorem Puts.mem_versions {workspaceId : String} {row : KnowledgeDocumentRow}
    {s t : KnowledgeStore} (h : Puts workspaceId row s t) (hs : VersionsComplete s)
    (hnew : ∀ d ∈ s.documents, d.knowledgeDocumentId = row.knowledgeDocumentId →
      d.version < row.version) {v : KnowledgeDocumentVersionRow} :
    v ∈ t.versions ↔ v ∈ s.versions ∨ v = row.versionRow row.updatedAt := by
  rw [h.versions]
  refine or_congr_left ⟨And.left, fun hv => ⟨hv, fun hid => ?_⟩⟩
  rw [hs.named v hv] at hid
  obtain ⟨hdocument, hversion⟩ := knowledgeDocumentVersionId_inj hid
  obtain ⟨d, hd, hdid, -, hle⟩ := hs.bounded v hv
  have hlt := hnew d hd (hdid.trans hdocument)
  omega

/-- Putting the next version of a document in its place keeps the record complete. -/
theorem Puts.versionsComplete {workspaceId : String} {row : KnowledgeDocumentRow}
    {s t : KnowledgeStore} (h : Puts workspaceId row s t) (hs : VersionsComplete s)
    (hnew : ∀ d ∈ s.documents, d.knowledgeDocumentId = row.knowledgeDocumentId →
      d.version < row.version)
    (hone : 1 ≤ row.version)
    (hprior : ∀ n, 1 ≤ n → n < row.version →
      ∃ v ∈ s.versions, v.knowledgeDocumentId = row.knowledgeDocumentId ∧ v.version = n) :
    VersionsComplete t := by
  have hmem := @h.mem_versions _ _ _ _ hs hnew
  have hrow : row ∈ t.documents := (h.documents row).2 (Or.inr rfl)
  have hlatest : row.versionRow row.updatedAt ∈ t.versions := hmem.2 (Or.inr rfl)
  have hnamed : ∀ v ∈ t.versions, v.knowledgeDocumentVersionId =
      knowledgeDocumentVersionId v.knowledgeDocumentId v.version := by
    intro v hv
    rcases hmem.1 hv with hold | rfl
    · exact hs.named v hold
    · rfl
  refine ⟨hnamed, ?_, unique_of_named hnamed, ?_, ?_⟩
  · intro v hv
    rcases hmem.1 hv with hold | rfl
    · obtain ⟨d, hd, hid, hlow, hhigh⟩ := hs.bounded v hold
      by_cases hsame : d.knowledgeDocumentId = row.knowledgeDocumentId
      · have hlt := hnew d hd hsame
        exact ⟨row, hrow, hsame.symm.trans hid, hlow, by omega⟩
      · exact ⟨d, (h.documents d).2 (Or.inl ⟨hd, hsame⟩), hid, hlow, hhigh⟩
    · exact ⟨row, hrow, rfl, hone, le_refl _⟩
  · intro d hd n hlow hhigh
    rcases (h.documents d).1 hd with ⟨hold, -⟩ | rfl
    · obtain ⟨v, hv, hfound⟩ := hs.recorded d hold n hlow hhigh
      exact ⟨v, hmem.2 (Or.inl hv), hfound⟩
    · by_cases hlast : n = d.version
      · exact ⟨_, hlatest, rfl, hlast.symm⟩
      · obtain ⟨v, hv, hfound⟩ := hprior n hlow (by omega)
        exact ⟨v, hmem.2 (Or.inl hv), hfound⟩
  · intro d hd
    rcases (h.documents d).1 hd with ⟨hold, -⟩ | rfl
    · obtain ⟨hlow, hv⟩ := hs.latest d hold
      exact ⟨hlow, hmem.2 (Or.inl hv)⟩
    · exact ⟨hone, hlatest⟩

/-- The number of a row that an effect puts in its place is new for its document. -/
theorem version_lt_of_updated {s : KnowledgeStore} {row current : KnowledgeDocumentRow}
    (hcurrent : current ∈ s.documents)
    (hid : row.knowledgeDocumentId = current.knowledgeDocumentId)
    (hversion : row.version = current.version + 1) :
    ∀ d ∈ s.documents, d.knowledgeDocumentId = row.knowledgeDocumentId →
      d.version < row.version := by
  intro d hd hsame
  obtain rfl := eq_of_knowledgeDocumentId hd hcurrent (hsame.trans hid)
  omega

theorem KnowledgeEffect.versionsComplete {workspaceId : String} {s t : KnowledgeStore}
    (h : KnowledgeEffect workspaceId s t) (hs : VersionsComplete s) : VersionsComplete t := by
  cases h with
  | kept h =>
    refine ⟨?_, ?_, ?_, ?_, ?_⟩
    · rw [h.versions]
      exact hs.named
    · rw [h.versions, h.documents]
      exact hs.bounded
    · rw [h.versions]
      exact hs.unique
    · rw [h.versions, h.documents]
      exact hs.recorded
    · rw [h.versions, h.documents]
      exact hs.latest
  | created h hnew hversion =>
    refine h.versionsComplete hs (fun d hd hsame => absurd hsame (hnew d hd)) (by omega) ?_
    intro n hlow hhigh
    omega
  | @updated row current h hcurrent hid _ hversion =>
    have hlatest := (hs.latest current hcurrent).1
    refine h.versionsComplete hs (version_lt_of_updated hcurrent hid hversion) (by omega) ?_
    intro n hlow hhigh
    rw [hid]
    exact hs.recorded current hcurrent n hlow (by omega)
  | @removed removed _ h _ _ _ =>
    have hkept : ∀ d ∈ t.documents, ∀ v ∈ s.versions,
        v.knowledgeDocumentId = d.knowledgeDocumentId → v ∈ t.versions := by
      intro d hd v hv hid
      obtain ⟨hold, hleft⟩ := (h.documents d).1 hd
      refine (h.versions v).2 ⟨hv, fun r hr hrid => ?_⟩
      rw [eq_of_knowledgeDocumentId hr hold (hrid.trans hid)]
      exact hleft
    have hnamed : ∀ v ∈ t.versions, v.knowledgeDocumentVersionId =
        knowledgeDocumentVersionId v.knowledgeDocumentId v.version :=
      fun v hv => hs.named v ((h.versions v).1 hv).1
    refine ⟨hnamed, ?_, unique_of_named hnamed, ?_, ?_⟩
    · intro v hv
      obtain ⟨hold, hleft⟩ := (h.versions v).1 hv
      obtain ⟨d, hd, hid, hbounds⟩ := hs.bounded v hold
      exact ⟨d, (h.documents d).2 ⟨hd, hleft d hd hid⟩, hid, hbounds⟩
    · intro d hd n hlow hhigh
      obtain ⟨v, hv, hid, hn⟩ := hs.recorded d ((h.documents d).1 hd).1 n hlow hhigh
      exact ⟨v, hkept d hd v hv hid, hid, hn⟩
    · intro d hd
      obtain ⟨hlow, hv⟩ := hs.latest d ((h.documents d).1 hd).1
      exact ⟨hlow, hkept d hd _ hv rfl⟩

/-- A step that leaves a document there leaves every version of it that was recorded. -/
theorem KnowledgeEffect.keeps_version {workspaceId : String} {s t : KnowledgeStore}
    (h : KnowledgeEffect workspaceId s t) (hs : VersionsComplete s)
    {v : KnowledgeDocumentVersionRow} (hv : v ∈ s.versions)
    (hthere : ∃ d ∈ t.documents, d.knowledgeDocumentId = v.knowledgeDocumentId) :
    v ∈ t.versions := by
  cases h with
  | kept h => exact h.versions ▸ hv
  | created h hnew hversion =>
    exact (h.mem_versions hs fun d hd hsame => absurd hsame (hnew d hd)).2 (Or.inl hv)
  | updated h hcurrent hid _ hversion =>
    exact (h.mem_versions hs (version_lt_of_updated hcurrent hid hversion)).2 (Or.inl hv)
  | removed h _ _ _ =>
    obtain ⟨d, hd, hid⟩ := hthere
    obtain ⟨hold, hleft⟩ := (h.documents d).1 hd
    refine (h.versions v).2 ⟨hv, fun r hr hrid => ?_⟩
    rw [eq_of_knowledgeDocumentId hr hold (hrid.trans hid.symm)]
    exact hleft

/-- The document with an id is there. -/
def HasDocument (s : KnowledgeStore) (id : String) : Prop :=
  ∃ d ∈ s.documents, d.knowledgeDocumentId = id

/-- **The record of versions is complete and is never rewritten**: after every interleaving it
holds each version of each document once and nothing else, and what it holds then it still holds
after any steps that leave the document there. -/
theorem versions_complete_and_kept (workspaces : Table WorkspaceRow)
    (requests : ι → KnowledgeRequest) (schedule later : List ι) :
    VersionsComplete (afterSchedule (tablesOf workspaces) requests schedule).store ∧
      ∀ v ∈ (afterSchedule (tablesOf workspaces) requests schedule).store.versions,
        Along Pool.step (fun p i => HasDocument (p.step i).store v.knowledgeDocumentId)
          (afterSchedule (tablesOf workspaces) requests schedule) later →
        v ∈ (afterSchedule (tablesOf workspaces) requests (schedule ++ later)).store.versions := by
  obtain ⟨hcomplete, hserved⟩ := invariant_afterSchedule (fun hs h => h.versionsComplete hs)
    (versionsComplete_tablesOf workspaces) requests schedule
  refine ⟨hcomplete, fun v hv hthere => ?_⟩
  unfold afterSchedule at hthere hcomplete hserved hv ⊢
  rw [after_append]
  have hstep : ∀ (p : Pool KnowledgeStore ι Answered) (i : ι),
      Served requests p ∧ VersionsComplete p.store ∧ v ∈ p.store.versions →
      HasDocument (p.step i).store v.knowledgeDocumentId →
      Served requests (p.step i) ∧ VersionsComplete (p.step i).store ∧
        v ∈ (p.step i).store.versions := by
    rintro p i ⟨hp, hs, hmem⟩ hdocument
    obtain ⟨heffect, hnext⟩ := hp.step i
    exact ⟨hnext, heffect.versionsComplete hs, heffect.keeps_version hs hmem hdocument⟩
  exact (invariant_after hstep ⟨hserved, hcomplete, hv⟩ hthere).2.2

/-! ## Workspaces -/

/-- A global document belongs to no workspace. -/
def Owned (s : KnowledgeStore) : Prop :=
  ∀ d ∈ s.documents, d.scope = "global" → d.workspaceId = none

theorem Puts.owned {workspaceId : String} {row : KnowledgeDocumentRow} {s t : KnowledgeStore}
    (h : Puts workspaceId row s t) (hs : Owned s) : Owned t := by
  intro d hd hscope
  rcases (h.documents d).1 hd with ⟨hold, -⟩ | rfl
  · exact hs d hold hscope
  · rw [h.owner, knowledgeDocumentOwnerWorkspaceId, if_pos hscope]

theorem KnowledgeEffect.owned {workspaceId : String} {s t : KnowledgeStore}
    (h : KnowledgeEffect workspaceId s t) (hs : Owned s) : Owned t := by
  cases h with
  | kept h =>
    unfold Owned
    rw [h.documents]
    exact hs
  | created h => exact h.owned hs
  | updated h => exact h.owned hs
  | removed h => exact fun d hd hscope => hs d ((h.documents d).1 hd).1 hscope

/-- Two stores agree on the rows of a workspace: its documents, their chunks and their
versions. -/
structure SameRowsOf (workspaceId : String) (s t : KnowledgeStore) : Prop where
  documents : ∀ d, d.workspaceId = some workspaceId → (d ∈ t.documents ↔ d ∈ s.documents)
  chunks : ∀ c, c.workspaceId = some workspaceId → (c ∈ t.chunks ↔ c ∈ s.chunks)
  versions : ∀ d ∈ s.documents, d.workspaceId = some workspaceId → ∀ v,
    v.knowledgeDocumentId = d.knowledgeDocumentId → (v ∈ t.versions ↔ v ∈ s.versions)

/-- What holds of the tables between two steps. -/
structure WellKept (s : KnowledgeStore) : Prop where
  owned : Owned s
  index : IndexCurrent s
  versions : VersionsComplete s

theorem KnowledgeEffect.wellKept {workspaceId : String} {s t : KnowledgeStore} (hs : WellKept s)
    (h : KnowledgeEffect workspaceId s t) : WellKept t :=
  ⟨h.owned hs.owned, h.indexCurrent hs.index, h.versionsComplete hs.versions⟩

theorem wellKept_tablesOf (workspaces : Table WorkspaceRow) : WellKept (tablesOf workspaces) where
  owned d hd := absurd hd (Table.not_mem_empty d)
  index := indexCurrent_tablesOf workspaces
  versions := versionsComplete_tablesOf workspaces

/-- A document put in its place by a request of another workspace is no document of this one,
and neither was the one whose place it takes. -/
theorem Puts.sameRowsOf {workspaceId other : String} {row : KnowledgeDocumentRow}
    {s t : KnowledgeStore} (h : Puts other row s t) (hs : WellKept s) (hne : other ≠ workspaceId)
    (hplace : ∀ d ∈ s.documents, d.knowledgeDocumentId = row.knowledgeDocumentId →
      d.workspaceId ≠ some workspaceId) : SameRowsOf workspaceId s t := by
  have hrow : row.workspaceId ≠ some workspaceId := by
    rw [h.owner, knowledgeDocumentOwnerWorkspaceId]
    split_ifs
    · simp
    · simpa using hne
  refine ⟨fun d hd => ?_, fun c hc => ?_, fun d hd howner v hv => ?_⟩
  · rw [h.documents]
    constructor
    · rintro (⟨hold, -⟩ | rfl)
      · exact hold
      · exact absurd hd hrow
    · exact fun hold => Or.inl ⟨hold, fun hid => hplace d hold hid hd⟩
  · rw [h.chunks]
    constructor
    · rintro (⟨hold, -⟩ | hnew)
      · exact hold
      · exact absurd ((mem_chunkRows hnew).2.1.symm.trans hc) hrow
    · intro hold
      obtain ⟨d, hd, hchunk⟩ := (hs.index c).1 hold
      obtain ⟨hid, howner, -⟩ := mem_chunkRows hchunk
      exact Or.inl ⟨hold, fun hrowid =>
        hplace d hd (hid.symm.trans hrowid) (howner.symm.trans hc)⟩
  · have hother : v.knowledgeDocumentId ≠ row.knowledgeDocumentId := fun hrowid =>
      hplace d hd (hv.symm.trans hrowid) howner
    rw [h.versions]
    constructor
    · rintro (⟨hold, -⟩ | rfl)
      · exact hold
      · exact absurd rfl hother
    · intro hold
      refine Or.inl ⟨hold, fun hid => hother ?_⟩
      rw [hs.versions.named v hold] at hid
      exact (knowledgeDocumentVersionId_inj hid).1

/-- A request changes no row of another workspace. -/
theorem KnowledgeEffect.sameRowsOf {workspaceId other : String} {s t : KnowledgeStore}
    (h : KnowledgeEffect other s t) (hs : WellKept s) (hne : other ≠ workspaceId) :
    SameRowsOf workspaceId s t := by
  have hglobal : ∀ d ∈ s.documents, d.OwnedBy other → d.workspaceId ≠ some workspaceId := by
    rintro d hd (hscope | howner) hown
    · rw [hs.owned d hd hscope] at hown
      cases hown
    · exact hne (Option.some.inj (howner.symm.trans hown))
  cases h with
  | kept h =>
    refine ⟨fun d _ => ?_, fun c _ => ?_, fun d _ _ v _ => ?_⟩
    · rw [h.documents]
    · rw [h.chunks]
    · rw [h.versions]
  | created h hnew _ =>
    exact h.sameRowsOf hs hne fun d hd hid => absurd hid (hnew d hd)
  | updated h hcurrent hid hvisible _ =>
    refine h.sameRowsOf hs hne fun d hd hsame => ?_
    rw [eq_of_knowledgeDocumentId hd hcurrent (hsame.trans hid)]
    exact hglobal _ hcurrent (owned_of_visibleIn hvisible)
  | @removed removed unindexed h hremoved hunindexed hsame =>
    have hleft : ∀ d ∈ s.documents, d.workspaceId = some workspaceId → removed d = false := by
      intro d hd howner
      by_contra hgone
      exact hglobal d hd (hremoved d (by simpa using hgone)) howner
    have hothers : ∀ d ∈ s.documents, d.workspaceId = some workspaceId → ∀ r ∈ s.documents,
        r.knowledgeDocumentId = d.knowledgeDocumentId → removed r = false := by
      intro d hd howner r hr hid
      rw [eq_of_knowledgeDocumentId hr hd hid]
      exact hleft d hd howner
    refine ⟨fun d howner => ?_, fun c howner => ?_, fun d hd howner v hid => ?_⟩
    · rw [h.documents]
      exact ⟨And.left, fun hd => ⟨hd, hleft d hd howner⟩⟩
    · rw [h.chunks]
      refine ⟨And.left, fun hc => ⟨hc, ?_⟩⟩
      obtain ⟨d, hd, hchunk⟩ := (hs.index c).1 hc
      obtain ⟨hid, hchunkowner, hscope⟩ := mem_chunkRows hchunk
      have hdowner := hchunkowner.symm.trans howner
      refine ⟨(hsame c d hid hchunkowner hscope).trans (hleft d hd hdowner), ?_⟩
      exact fun r hr hrid => hothers d hd hdowner r hr (hrid.trans hid)
    · rw [h.versions]
      refine ⟨And.left, fun hv => ⟨hv, fun r hr hrid => ?_⟩⟩
      exact hothers d hd howner r hr (hrid.trans hid)

/-- **Requests stay in their workspace**: at every point of every interleaving, the next step of
a request changes no row of another workspace, and the documents it answers with are global ones
or those of its own. -/
theorem requests_stay_in_workspace (workspaces : Table WorkspaceRow)
    (requests : ι → KnowledgeRequest) (schedule : List ι) (i : ι) :
    (∀ workspaceId, (requests i).workspaceId ≠ workspaceId →
      SameRowsOf workspaceId (afterSchedule (tablesOf workspaces) requests schedule).store
        (afterSchedule (tablesOf workspaces) requests (schedule ++ [i])).store) ∧
    ∀ answer, (afterSchedule (tablesOf workspaces) requests schedule).answer i =
      some (.ok answer) → answer.OwnedBy (requests i).workspaceId := by
  obtain ⟨hkept, hserved⟩ := invariant_afterSchedule KnowledgeEffect.wellKept
    (wellKept_tablesOf workspaces) requests schedule
  constructor
  · intro workspaceId hne
    have heffect := (hserved.step i).1
    unfold afterSchedule at heffect hkept ⊢
    rw [after_concat]
    exact heffect.sameRowsOf hkept hne
  · intro answer hanswer
    exact hserved.answer_post (fun _ _ => trivial) hanswer answer rfl

end HobitQueue.Knowledge
