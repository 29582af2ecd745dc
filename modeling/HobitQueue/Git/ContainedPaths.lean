import HobitQueue.Git.Paths

/-!
# Which accepted paths stay in the repository

## Main results

* `validated_paths_stay_in_repo_iff` — when a path that a validator accepts leads to something
  inside the repository.
* `dot_parent_is_accepted` — accepted paths that lead out of it.
-/

namespace HobitQueue.Git

open LexicalPath

/-! ## Slashes -/

theorem cut_eq_splitOn (path : List Char) :
    cut path = (replaceBackslashes path).splitOn '/' := by
  induction path with
  | nil => rfl
  | cons c path ih =>
    rw [cut] at ih ⊢
    rw [replaceBackslashes, List.map_cons, List.splitOnP_cons_eq_if_modifyHead,
      List.splitOn_cons_eq_if_modifyHead, ih]
    by_cases hslash : c = '/'
    · subst hslash
      rfl
    · by_cases hback : c = backslash
      · subst hback
        rfl
      · have heither : isEitherSeparator c = false := by
          simp [isEitherSeparator, hslash, hback]
        simp [heither, hslash, hback, replaceBackslashes]

theorem withSlashes_eq (path : List Char) : withSlashes path = replaceBackslashes path := by
  induction path with
  | nil => rfl
  | cons c path ih =>
    rw [withSlashes, List.splitOn_cons_eq_if_modifyHead]
    obtain ⟨part, parts, hparts⟩ := List.exists_cons_of_ne_nil
      (List.splitOn_ne_nil backslash path)
    rw [withSlashes, hparts] at ih
    rw [hparts, replaceBackslashes, List.map_cons, ← replaceBackslashes, ← ih]
    by_cases hback : c = backslash
    · simp [hback, List.intercalate_cons_cons]
    · simp [hback, List.intercalate_cons_cons_left]

theorem replaceBackslashes_replaceBackslashes (path : List Char) :
    replaceBackslashes (replaceBackslashes path) = replaceBackslashes path := by
  simp only [replaceBackslashes, List.map_map]
  refine List.map_congr_left fun c _ => ?_
  by_cases hback : c = backslash
  · simp [hback]
  · simp [hback]

theorem cut_replaceBackslashes (path : List Char) : cut (replaceBackslashes path) = cut path := by
  rw [cut_eq_splitOn, cut_eq_splitOn, replaceBackslashes_replaceBackslashes]

theorem intercalate_cut (path : List Char) : ['/'].intercalate (cut path) = withSlashes path := by
  rw [cut_eq_splitOn, List.intercalate_splitOn, withSlashes_eq]

/-! ## A diff -/

theorem validateRepoRelativePath_ok {path r : String}
    (h : validateRepoRelativePath path = .ok r) :
    r = path ∧ mayLeaveRepository path.toList = false := by
  unfold validateRepoRelativePath at h
  split_ifs at h with hblank hleaves
  · cases h
    exact ⟨rfl, by simpa using hleaves⟩

/-- **Two dots can only be the last component.** -/
theorem parent_notMem_of_accepted {path : List Char} {front : List (List Char)}
    {last : List Char} (h : mayLeaveRepository path = false)
    (hcut : cut path = front ++ [last]) : parent ∉ front := by
  intro hmem
  obtain ⟨before, after, rfl⟩ := List.append_of_mem hmem
  have hpath := intercalate_cut path
  rw [hcut, List.append_assoc, List.cons_append] at hpath
  simp only [mayLeaveRepository, Bool.or_eq_false_iff] at h
  obtain ⟨⟨⟨-, hstart⟩, hmiddle⟩, -⟩ := h
  cases before with
  | nil =>
    rw [List.nil_append, List.intercalate_cons_of_ne_nil (by simp)] at hpath
    have hbegins : (parent ++ ['/']).isPrefixOf (withSlashes path) = true := by
      rw [← hpath, List.isPrefixOf_iff_prefix]
      exact List.prefix_append _ _
    rw [hbegins] at hstart
    cases hstart
  | cons c before =>
    rw [intercalate_append _ (by simp) (by simp),
      List.intercalate_cons_of_ne_nil (l := parent) (by simp)] at hpath
    have hinfix : '/' :: parent ++ ['/'] <:+: withSlashes path :=
      ⟨['/'].intercalate (c :: before), ['/'].intercalate (after ++ [last]), by
        rw [← hpath]
        simp only [List.append_assoc, List.cons_append, List.nil_append]⟩
    exact (of_decide_eq_false hmiddle) hinfix

theorem head_of_accepted {path : List Char} (h : mayLeaveRepository path = false) :
    path.head?.any isEitherSeparator = true ↔ path.head? = some backslash := by
  simp only [mayLeaveRepository, Bool.or_eq_false_iff] at h
  have hslash : ['/'].isPrefixOf path = false := by tauto
  cases path with
  | nil => simp
  | cons c path =>
    have hc : c ≠ '/' := by
      rintro rfl
      simp at hslash
    simp [isEitherSeparator, hc]

/-- A path that starts with no backslash and no drive, in which more components are names
than parents. -/
def DiffPathInside (path : List Char) : Prop :=
  path.head? ≠ some backslash ∧ ¬ HasDrive path ∧ parents (cut path) < names (cut path)

/-- **When a path whose diff is read stays in the repository.** -/
theorem diff_path_stays_iff {path : List Char} (h : mayLeaveRepository path = false) :
    StaysBelow (cut path) ∧ ¬ IsAbsolutePath path ↔ DiffPathInside path := by
  have hne : cut path ≠ [] := List.splitOnP_ne_nil _ _
  obtain ⟨front, last, hcut⟩ := (List.eq_nil_or_concat (cut path)).resolve_left hne
  rw [List.concat_eq_append] at hcut
  have hfront := parent_notMem_of_accepted h hcut
  have hbelow : StaysBelow (cut path) ↔ parents (cut path) < names (cut path) := by
    rw [hcut]
    exact staysBelow_concat_iff hfront
  rw [hbelow, IsAbsolutePath, head_of_accepted h, DiffPathInside]
  tauto

/-! ## A commit -/

theorem validateIncludedFile_ok {platform : Platform} {isDir : String → Bool} {path r : String}
    (h : validateIncludedFile platform isDir path = .ok r) :
    r = String.ofList (replaceBackslashes (Text.trim path).toList) ∧
      (Text.trim path).toList ≠ [] ∧ ':' ∉ (Text.trim path).toList ∧
      isAbsolute platform (Text.trim path).toList = false ∧
      (components platform (Text.trim path).toList).findSome? refusedComponent = none := by
  simp only [validateIncludedFile] at h
  split_ifs at h with hempty hnul hoption hspec hcolon habsolute hdir
  · split at h <;> cases h
  · split at h
    · cases h
    rename_i hcomponents
    refine ⟨(Except.ok.inj h).symm, fun hnil => hempty (String.toList_inj.1 hnil),
      by simpa using hcolon, by simpa using habsolute, hcomponents⟩

/-- Only names are accepted as components. -/
theorem components_normal {platform : Platform} {path : List Char}
    (h : (components platform path).findSome? refusedComponent = none) :
    path.head?.any platform.isSeparator = false ∧
      (path.splitOnP platform.isSeparator).head? ≠ some here ∧
      parent ∉ path.splitOnP platform.isSeparator := by
  rw [List.findSome?_eq_none_iff] at h
  have hhead : path.head?.any platform.isSeparator = false := by
    by_contra hroot
    rw [Bool.not_eq_false] at hroot
    exact absurd (h .rootDir (by simp [components, hroot])) (by simp [refusedComponent])
  refine ⟨hhead, fun hdot => ?_, fun hparent => ?_⟩
  · exact absurd (h .curDir (by simp [components, hhead, hdot])) (by simp [refusedComponent])
  · have hmem : Component.parentDir ∈ components platform path := by
      rw [components, List.mem_append]
      exact .inr (List.mem_filterMap.2 ⟨parent, hparent, rfl⟩)
    exact absurd (h _ hmem) (by simp [refusedComponent])

/-- The first component of a path that starts with no separator is not empty. -/
theorem head_cut_ne_nil {path : List Char} (hne : path ≠ [])
    (h : path.head?.any isEitherSeparator = false) : (cut path).head? ≠ some [] := by
  cases path with
  | nil => exact absurd rfl hne
  | cons c path =>
    have hc : isEitherSeparator c = false := by simpa using h
    rw [cut, List.splitOnP_cons_eq_if_modifyHead, if_neg (by simp [hc])]
    obtain ⟨part, parts, hparts⟩ := List.exists_cons_of_ne_nil
      (List.splitOnP_ne_nil isEitherSeparator path)
    simp [hparts]

/-- Components without a parent, the first of which is a name, stay below. -/
theorem staysBelow_of_head_name {comps : List (List Char)} (hne : comps ≠ [])
    (hfirst : comps.head? ≠ some []) (hdot : comps.head? ≠ some here)
    (hparent : parent ∉ comps) : StaysBelow comps := by
  rw [staysBelow_iff]
  have hnone : ∀ front, front <+: comps → parents front = 0 := fun front hfront =>
    List.count_eq_zero.2 fun hmem => hparent (hfront.subset hmem)
  refine ⟨fun front hfront => by rw [hnone front hfront]; omega, ?_⟩
  rw [hnone _ (List.prefix_refl _)]
  cases comps with
  | nil => exact absurd rfl hne
  | cons first rest =>
    have hname : isName first = true := by
      simp only [isName, Bool.and_eq_true, bne_iff_ne, ne_eq]
      exact ⟨⟨fun hnil => hfirst (by rw [hnil]; rfl), fun hhere => hdot (by rw [hhere]; rfl)⟩,
        fun hup => hparent (by rw [hup]; exact List.mem_cons_self)⟩
    rw [names, List.countP_cons_of_pos hname]
    omega

/-- **Where the platform cuts a path at every separator**, an accepted file is below the
repository root. -/
theorem staysBelow_of_cut {platform : Platform} {path : List Char} (hne : path ≠ [])
    (hcut : path.splitOnP platform.isSeparator = cut path)
    (hrelative : path.head?.any isEitherSeparator = false)
    (h : (components platform path).findSome? refusedComponent = none) :
    StaysBelow (cut path) := by
  obtain ⟨-, hdot, hparent⟩ := components_normal h
  rw [hcut] at hdot hparent
  exact staysBelow_of_head_name (List.splitOnP_ne_nil _ _) (head_cut_ne_nil hne hrelative)
    hdot hparent

theorem head_replaceBackslashes (path : List Char) :
    (replaceBackslashes path).head?.any isEitherSeparator = path.head?.any isEitherSeparator := by
  cases path with
  | nil => rfl
  | cons c path =>
    by_cases hback : c = backslash
    · simp [replaceBackslashes, hback, isEitherSeparator]
    · simp [replaceBackslashes, hback]

theorem not_hasDrive_of_notMem {path : List Char} (h : ':' ∉ path) :
    ¬ HasDrive (replaceBackslashes path) := by
  rintro ⟨letter, rest, hpath, -⟩
  have hmem : ':' ∈ replaceBackslashes path := by
    rw [hpath]
    exact List.mem_cons_of_mem _ List.mem_cons_self
  obtain ⟨c, hc, hcolon⟩ := List.mem_map.1 hmem
  by_cases hback : c = backslash
  · rw [if_pos hback] at hcolon
    exact absurd hcolon (by decide)
  · rw [if_neg hback] at hcolon
    exact h (hcolon ▸ hc)

/-! ## Components that contain a backslash -/

/-- The components, cut once more at their backslashes. -/
def pieces (comps : List (List Char)) : List (List Char) := comps.flatMap (·.splitOn backslash)

/-- The parents among the pieces of those components that contain a backslash. -/
def hiddenParents (comps : List (List Char)) : ℕ :=
  parents (pieces (comps.filter (backslash ∈ ·)))

/-- Where a backslash is a letter of a name: the path does not start with one, the pieces of a
component with a backslash never go up more often than names and pieces before have gone down,
and the whole path has more names than pieces that go up. -/
def IncludedFileInside (platform : Platform) (path : List Char) : Prop :=
  platform = .posix → backslash ∈ path →
    path.head? ≠ some backslash ∧
      (∀ passed comp rest front, path.splitOn '/' = passed ++ comp :: rest → backslash ∈ comp →
        front <+: comp.splitOn backslash →
          hiddenParents passed + parents front ≤ names (pieces passed) + names front) ∧
      hiddenParents (path.splitOn '/') < names (pieces (path.splitOn '/'))

theorem pieces_append (front rest : List (List Char)) :
    pieces (front ++ rest) = pieces front ++ pieces rest := by
  rw [pieces, List.flatMap_append, ← pieces, ← pieces]

theorem pieces_singleton (comp : List Char) : pieces [comp] = comp.splitOn backslash := by
  rw [pieces, List.flatMap_cons, List.flatMap_nil, List.append_nil]

theorem pieces_cons (comp : List Char) (comps : List (List Char)) :
    pieces (comp :: comps) = comp.splitOn backslash ++ pieces comps := by
  rw [← List.singleton_append, pieces_append, pieces_singleton]

/-- Both separators cut a path as the slashes do, and then the backslashes. -/
theorem cut_eq_pieces (path : List Char) : cut path = pieces (path.splitOn '/') := by
  induction path with
  | nil => rfl
  | cons c path ih =>
    obtain ⟨part, parts, hparts⟩ := List.exists_cons_of_ne_nil (List.splitOn_ne_nil '/' path)
    obtain ⟨piece, more, hpieces⟩ := List.exists_cons_of_ne_nil
      (List.splitOn_ne_nil backslash part)
    rw [cut] at ih ⊢
    rw [List.splitOnP_cons_eq_if_modifyHead, List.splitOn_cons_eq_if_modifyHead, ih, hparts]
    by_cases hslash : c = '/'
    · subst hslash
      rfl
    · have hcons : (c :: part).splitOn backslash = if c = backslash then [] :: piece :: more
          else (c :: piece) :: more := by
        rw [List.splitOn_cons_eq_if_modifyHead, hpieces]
        simp
      by_cases hback : c = backslash
      · subst hback
        simp [isEitherSeparator, pieces_cons, hcons, hpieces, hslash]
      · simp [isEitherSeparator, pieces_cons, hcons, hpieces, hslash, hback]

theorem parents_append (front rest : List (List Char)) :
    parents (front ++ rest) = parents front + parents rest := List.count_append

theorem names_append (front rest : List (List Char)) :
    names (front ++ rest) = names front + names rest := List.countP_append

theorem hiddenParents_append (front rest : List (List Char)) :
    hiddenParents (front ++ rest) = hiddenParents front + hiddenParents rest := by
  rw [hiddenParents, List.filter_append, pieces_append, parents_append, ← hiddenParents,
    ← hiddenParents]

/-- **Where no component is a parent, every parent is hidden.** -/
theorem parents_pieces {comps : List (List Char)} (h : parent ∉ comps) :
    parents (pieces comps) = hiddenParents comps := by
  induction comps with
  | nil => rfl
  | cons comp comps ih =>
    rw [← List.singleton_append, pieces_append, parents_append, hiddenParents_append,
      ih fun hmem => h (List.mem_cons_of_mem _ hmem)]
    congr 1
    by_cases hback : backslash ∈ comp
    · rw [hiddenParents, List.filter_cons_of_pos (by simpa using hback), List.filter_nil]
    · have hcomp : comp ≠ parent := fun heq => h (heq ▸ List.mem_cons_self)
      rw [hiddenParents, List.filter_cons_of_neg (by simpa using hback), List.filter_nil,
        pieces_singleton, List.splitOn_eq_singleton hback]
      exact List.count_eq_zero.2 (by simpa using hcomp.symm)

/-- A component without a backslash takes no path out that was inside before it. -/
theorem fronts_of_hidden {comps : List (List Char)} (h : parent ∉ comps)
    (hhidden : ∀ passed comp rest front, comps = passed ++ comp :: rest → backslash ∈ comp →
      front <+: comp.splitOn backslash →
        hiddenParents passed + parents front ≤ names (pieces passed) + names front) :
    ∀ front, front <+: pieces comps → parents front ≤ names front := by
  induction comps using List.reverseRecOn with
  | nil =>
    intro front hfront
    rw [List.prefix_nil.1 hfront]
    exact Nat.le_refl _
  | append_singleton comps comp ih =>
    have hbefore : parent ∉ comps := fun hmem => h (List.mem_append_left _ hmem)
    have hcomps : ∀ front, front <+: pieces comps → parents front ≤ names front :=
      ih hbefore fun passed other rest front hsplit =>
        hhidden passed other (rest ++ [comp]) front (by rw [hsplit]; simp)
    intro front hfront
    rw [pieces_append, pieces_singleton] at hfront
    rcases List.prefix_or_prefix_of_prefix hfront (List.prefix_append _ _) with hin | ⟨more, rfl⟩
    · exact hcomps front hin
    rw [List.prefix_append_right_inj] at hfront
    rw [parents_append, names_append]
    by_cases hback : backslash ∈ comp
    · have hle := hhidden comps comp [] more rfl hback hfront
      rwa [← parents_pieces hbefore] at hle
    · have hle := hcomps _ (List.prefix_refl _)
      have hcomp : comp ≠ parent := fun heq => h (heq ▸ by simp)
      have hnone : parents more = 0 := by
        rw [List.splitOn_eq_singleton hback] at hfront
        exact List.count_eq_zero.2 fun hmem =>
          hcomp (List.mem_singleton.1 (hfront.subset hmem)).symm
      omega

theorem hidden_of_fronts {comps : List (List Char)} (h : parent ∉ comps)
    (hfronts : ∀ front, front <+: pieces comps → parents front ≤ names front)
    {passed rest front : List (List Char)} {comp : List Char}
    (hsplit : comps = passed ++ comp :: rest) (hfront : front <+: comp.splitOn backslash) :
    hiddenParents passed + parents front ≤ names (pieces passed) + names front := by
  have hpassed : parent ∉ passed := by
    intro hmem
    exact h (hsplit ▸ List.mem_append_left _ hmem)
  have hbegin : pieces passed ++ front <+: pieces comps := by
    rw [hsplit, ← List.singleton_append, pieces_append, pieces_append, pieces_singleton,
      List.prefix_append_right_inj]
    exact List.prefix_append_of_prefix hfront
  have hle := hfronts _ hbegin
  rwa [parents_append, names_append, parents_pieces hpassed] at hle

/-- **When components without a parent stay below, cut once more at their backslashes.** -/
theorem staysBelow_pieces_iff {comps : List (List Char)} (h : parent ∉ comps) :
    StaysBelow (pieces comps) ↔
      (∀ passed comp rest front, comps = passed ++ comp :: rest → backslash ∈ comp →
        front <+: comp.splitOn backslash →
          hiddenParents passed + parents front ≤ names (pieces passed) + names front) ∧
      hiddenParents comps < names (pieces comps) := by
  rw [staysBelow_iff, parents_pieces h]
  exact and_congr_left fun _ => ⟨fun hfronts _ _ _ _ hsplit _ hfront =>
    hidden_of_fronts h hfronts hsplit hfront, fronts_of_hidden h⟩

theorem replaceBackslashes_of_notMem {path : List Char} (h : backslash ∉ path) :
    replaceBackslashes path = path := by
  rw [replaceBackslashes]
  refine (List.map_congr_left fun c hc => ?_).trans (List.map_id path)
  have hc' : c ≠ backslash := fun heq => h (heq ▸ hc)
  rw [if_neg hc', id]

/-- **When a file to commit stays in the repository.** -/
theorem included_file_stays_iff {platform : Platform} {path : List Char} (hne : path ≠ [])
    (hcolon : ':' ∉ path)
    (h : (components platform path).findSome? refusedComponent = none) :
    StaysBelow (cut (replaceBackslashes path)) ∧ ¬ IsAbsolutePath (replaceBackslashes path) ↔
      IncludedFileInside platform path := by
  obtain ⟨hhead, -, hparent⟩ := components_normal h
  rw [cut_replaceBackslashes, IsAbsolutePath, head_replaceBackslashes, IncludedFileInside]
  simp only [not_hasDrive_of_notMem hcolon, or_false]
  cases platform with
  | windows =>
    have hrelative : path.head?.any isEitherSeparator = false := hhead
    simp [staysBelow_of_cut hne rfl hrelative h, hrelative]
  | posix =>
    have hrelative : path.head?.any isEitherSeparator = true ↔ path.head? = some backslash := by
      cases path with
      | nil => simp
      | cons c path =>
        have hslash : c ≠ '/' := by simpa [Platform.isSeparator] using hhead
        simp [isEitherSeparator, hslash]
    by_cases hback : backslash ∈ path
    · have hcomps : parent ∉ path.splitOn '/' := hparent
      rw [hrelative, cut_eq_pieces, staysBelow_pieces_iff hcomps]
      simp only [hback, true_implies, ne_eq]
      tauto
    · have hcut : path.splitOnP (Platform.isSeparator .posix) = cut path := by
        rw [cut_eq_splitOn, replaceBackslashes_of_notMem hback]
        rfl
      have hno : path.head?.any isEitherSeparator = false := by
        rw [← Bool.not_eq_true, hrelative]
        exact fun heq => hback (List.mem_of_mem_head? heq)
      simp [staysBelow_of_cut hne hcut hno h, hno, hback]

/-- What a validator accepts leads to something inside the repository on every platform
exactly in these cases: for a diff, when the path starts with no backslash and no drive and has
more names than parents; for a commit, on Windows and without a backslash always, and elsewhere
when the backslashes hide no way out. -/
theorem validated_paths_stay_in_repo_iff (platform : Platform) (isDir : String → Bool)
    (path r : String) :
    (validateRepoRelativePath path = .ok r →
      (StaysInRepo r ↔ DiffPathInside path.toList)) ∧
    (validateIncludedFile platform isDir path = .ok r →
      (StaysInRepo r ↔ IncludedFileInside platform (Text.trim path).toList)) := by
  have hstays : ∀ r : String,
      StaysInRepo r ↔ StaysBelow (cut r.toList) ∧ ¬ IsAbsolutePath r.toList :=
    fun r => ⟨fun h => ⟨h.below, h.relative⟩, fun h => ⟨h.1, h.2⟩⟩
  refine ⟨fun h => ?_, fun h => ?_⟩
  · obtain ⟨rfl, haccepted⟩ := validateRepoRelativePath_ok h
    rw [hstays]
    exact diff_path_stays_iff haccepted
  · obtain ⟨rfl, hne, hcolon, -, hcomponents⟩ := validateIncludedFile_ok h
    rw [hstays, String.toList_ofList]
    exact included_file_stays_iff hne hcolon hcomponents

private theorem not_stays_of_resolve {path : String} (h : resolve (cut path.toList) = none) :
    ¬ StaysInRepo path := by
  intro hstays
  have hsome := hstays.below.1 _ (List.prefix_refl _)
  rw [h] at hsome
  cases hsome

/-- Two dots between backslashes. -/
private def backslashParents : String :=
  String.ofList ['a', backslash, '.', '.', backslash, '.', '.', backslash, 'b']

/-- A dot and two dots lead out of the repository, and are accepted for a diff; where a
backslash is a letter of a name, two dots between backslashes are accepted for a commit. -/
theorem dot_parent_is_accepted :
    (validateRepoRelativePath "./.." = .ok "./.." ∧ ¬ StaysInRepo "./..") ∧
      (validateIncludedFile .posix (fun _ => false) backslashParents = .ok "a/../../b" ∧
        ¬ StaysInRepo "a/../../b") := by
  refine ⟨⟨by decide +kernel, not_stays_of_resolve (by decide +kernel)⟩, by decide +kernel,
    not_stays_of_resolve (by decide +kernel)⟩

/-- A path with a dot and an empty component stays in the repository under both validators. -/
theorem dotted_path_stays_in_repo :
    StaysInRepo "a/b//c" ∧
      ∃ r, validateIncludedFile .windows (fun _ => false) "a/./b" = .ok r ∧ StaysInRepo r := by
  constructor
  · refine ((validated_paths_stay_in_repo_iff .posix (fun _ => false) "a/b//c" "a/b//c").1
      (by decide +kernel)).2 ?_
    refine ⟨by decide +kernel, ?_, by decide +kernel⟩
    rintro ⟨letter, rest, hpath, -⟩
    have hsecond : ("a/b//c".toList)[1]? = some ':' := by rw [hpath]; rfl
    exact absurd hsecond (by decide +kernel)
  · refine ⟨"a/./b", by decide +kernel, ?_⟩
    exact ((validated_paths_stay_in_repo_iff .windows (fun _ => false) "a/./b" "a/./b").2
      (by decide +kernel)).2 fun h => (nomatch h)

end HobitQueue.Git
