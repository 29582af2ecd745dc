import HobitQueue.Frontend.PlanViews
import HobitQueue.Lib.StableSort

/-!
# Ordering the queue by hand

The operator moves a task among its peers, the tasks of its tag and priority, which are then
numbered by their new places. Tasks without a number get one when the list is loaded, counted
from zero within their group.

## Main results

* `requestedDisplay_spec` — what a move asks for, and that it asks for nothing else.
* `reorder_and_reindex_iff` — when the display is the one asked for, and when numbering the
  tasks keeps it.
-/

namespace HobitQueue.Frontend

open JavaScript Comparator

/-! ## Moving a task -/

inductive QueueTaskReorderPosition where
  | up | down | top | bottom
  deriving DecidableEq

/-- A task of the tag and the priority of another. -/
def isReorderPeer (locale : Locale) (selectedTask task : AgentQueueTask) : Bool :=
  (normalizeQueueTag locale task).queueTagId = (normalizeQueueTag locale selectedTask).queueTagId ∧
    normalizeTaskPriority task.priority = normalizeTaskPriority selectedTask.priority

def orderedManualReorderPeers (locale : Locale) (tasks : List AgentQueueTask)
    (selectedTask : AgentQueueTask) : List AgentQueueTask :=
  sortQueueTasksForDisplay locale (tasks.filter (isReorderPeer locale selectedTask))

def reorderedIndex (position : QueueTaskReorderPosition) (currentIndex peerCount : ℕ) : ℤ :=
  match position with
  | .top => 0
  | .bottom => peerCount - 1
  | .up => currentIndex - 1
  | .down => currentIndex + 1

/-- A move that changes something. -/
structure ManualMove where
  selectedTask : AgentQueueTask
  peers : List AgentQueueTask
  currentIndex : ℕ
  nextIndex : ℕ

/-- The peers after the move. -/
def ManualMove.reorderedPeers (move : ManualMove) : List AgentQueueTask :=
  moved move.peers move.currentIndex move.nextIndex

/-- The move that is asked for; nothing when the code leaves early. -/
def manualMove (locale : Locale) (position : QueueTaskReorderPosition) (queueItemId : String)
    (tasks : List AgentQueueTask) : Option ManualMove :=
  match tasks.find? (·.queueItemId = queueItemId) with
  | none => none
  | some selectedTask =>
    let peers := orderedManualReorderPeers locale tasks selectedTask
    match peers.findIdx? (·.queueItemId = queueItemId) with
    | none => none
    | some currentIndex =>
      let nextIndex := reorderedIndex position currentIndex peers.length
      if nextIndex < 0 ∨ nextIndex ≥ peers.length ∨ nextIndex = currentIndex then none
      else some { selectedTask, peers, currentIndex, nextIndex := nextIndex.toNat }

structure ReorderResult where
  changed : Bool
  updatedTasks : List AgentQueueTask

/-- The entries of the map from the ids of the moved peers to their places. -/
def ManualMove.orderById (move : ManualMove) : List (String × ℕ) :=
  move.reorderedPeers.zipIdx.map fun entry => (entry.1.queueItemId, entry.2)

/-- A task moved up, down, to the top or to the bottom of its peers. -/
def reorderQueueTask (locale : Locale) (position : QueueTaskReorderPosition) (queueItemId : String)
    (tasks : List AgentQueueTask) : ReorderResult :=
  match manualMove locale position queueItemId tasks with
  | none => { changed := false, updatedTasks := tasks }
  | some move =>
    { changed := true
      updatedTasks := sortQueueTasksForDisplay locale <| tasks.map fun task =>
        match mapGet move.orderById task.queueItemId with
        | some orderIndex => { task with orderIndex := some orderIndex }
        | none => task }

/-! ## Numbers for tasks without one -/

def manualOrderGroupKey (locale : Locale) (task : AgentQueueTask) : String :=
  (normalizeQueueTag locale task).queueTagId ++ ":" ++
    toString (normalizeTaskPriority task.priority)

/-- The walk over the tasks, with the next number of each group. -/
def assignOrderIndexes (locale : Locale) :
    List (String × ℕ) → List AgentQueueTask → List AgentQueueTask
  | _, [] => []
  | nextOrderByGroup, task :: rest =>
    match task.orderIndex with
    | some _ => task :: assignOrderIndexes locale nextOrderByGroup rest
    | none =>
      let groupKey := manualOrderGroupKey locale task
      let nextOrderIndex := (mapGet nextOrderByGroup groupKey).getD 0
      { task with orderIndex := some nextOrderIndex } ::
        assignOrderIndexes locale (mapSet nextOrderByGroup groupKey (nextOrderIndex + 1)) rest

/-- Numbers for the tasks without one. -/
def withQueueOrderIndexes (locale : Locale) (tasks : List AgentQueueTask) : List AgentQueueTask :=
  sortQueueTasksForDisplay locale
    (assignOrderIndexes locale [] (sortQueueTasksForDisplay locale tasks))

/-! ## What is asked for -/

/-- The ids in the order in which tasks are displayed. -/
def displayedIds (locale : Locale) (tasks : List AgentQueueTask) : List String :=
  (sortQueueTasksForDisplay locale tasks).map (·.queueItemId)

/-- A displayed task, and its peers before and behind it. -/
structure PlaceAmongPeers where
  selectedTask : AgentQueueTask
  before : List AgentQueueTask
  behind : List AgentQueueTask
  deriving DecidableEq

/-- Where a task is displayed among its peers; nothing for an unknown id. -/
def placeAmongPeers (locale : Locale) (queueItemId : String) (tasks : List AgentQueueTask) :
    Option PlaceAmongPeers :=
  let shown := sortQueueTasksForDisplay locale tasks
  match shown.dropWhile (·.queueItemId ≠ queueItemId) with
  | [] => none
  | selectedTask :: rest =>
    let isPeer := isReorderPeer locale selectedTask
    some {
      selectedTask
      before := (shown.takeWhile (·.queueItemId ≠ queueItemId)).filter isPeer
      behind := rest.filter isPeer }

/-- The peers that a move is to pass: the previous one, the next one, or all on one side. -/
def PlaceAmongPeers.passedPeers (place : PlaceAmongPeers) :
    QueueTaskReorderPosition → List AgentQueueTask
  | .up => place.before.getLast?.toList
  | .down => place.behind.head?.toList
  | .top => place.before
  | .bottom => place.behind

/-- The peers in the order that a move asks for. -/
def PlaceAmongPeers.requestedPeers (place : PlaceAmongPeers) :
    QueueTaskReorderPosition → List AgentQueueTask
  | .up => place.before.dropLast ++ place.selectedTask :: place.before.getLast?.toList ++
      place.behind
  | .down => place.before ++ place.behind.head?.toList ++ place.selectedTask :: place.behind.tail
  | .top => place.selectedTask :: place.before ++ place.behind
  | .bottom => place.before ++ place.behind ++ [place.selectedTask]

/-- The display in which the peers of the task stand, in the places of the peers, as the move
asks for, and every other task stands where it stood. -/
def requestedDisplay (locale : Locale) (position : QueueTaskReorderPosition) (queueItemId : String)
    (tasks : List AgentQueueTask) : List AgentQueueTask :=
  let shown := sortQueueTasksForDisplay locale tasks
  match placeAmongPeers locale queueItemId tasks with
  | none => shown
  | some place =>
    refill (isReorderPeer locale place.selectedTask) shown (place.requestedPeers position)

/-- A move displays what it asks for. -/
def ReorderIsExact (locale : Locale) (position : QueueTaskReorderPosition) (queueItemId : String)
    (tasks : List AgentQueueTask) : Prop :=
  displayedIds locale (reorderQueueTask locale position queueItemId tasks).updatedTasks =
    (requestedDisplay locale position queueItemId tasks).map (·.queueItemId)

/-- Numbering the tasks displays them as before. -/
def ReindexKeepsDisplay (locale : Locale) (tasks : List AgentQueueTask) : Prop :=
  displayedIds locale (withQueueOrderIndexes locale tasks) = displayedIds locale tasks

/-! ## The display order in steps -/

def nameOrder (locale : Locale) (first second : AgentQueueTask) : ℤ :=
  locale.localeCompare (normalizeQueueTag locale first).queueTagName
    (normalizeQueueTag locale second).queueTagName

/-- The part of the order before the numbers: tag name, tag id and priority. -/
def levelOrder (locale : Locale) (first second : AgentQueueTask) : ℤ :=
  orNext (nameOrder locale first second) <|
    orNext (locale.localeCompare (normalizeQueueTag locale first).queueTagId
      (normalizeQueueTag locale second).queueTagId)
      (normalizeTaskPriority second.priority - normalizeTaskPriority first.priority)

/-- The part of the order after the numbers. -/
def ageOrder (locale : Locale) (first second : AgentQueueTask) : ℤ :=
  orNext (locale.localeCompare first.createdAt second.createdAt)
    (locale.localeCompare first.queueItemId second.queueItemId)

/-- The rest of the order, under given numbers. -/
def numberOrder (locale : Locale) (number : AgentQueueTask → Option ℤ)
    (first second : AgentQueueTask) : ℤ :=
  orNext (orderIndexDifference (number first) (number second)) (ageOrder locale first second)

/-- A task with its number replaced. -/
def renumber (number : AgentQueueTask → Option ℤ) (task : AgentQueueTask) : AgentQueueTask :=
  { task with orderIndex := number task }

theorem orNext_assoc (a b c : ℤ) : orNext (orNext a b) c = orNext a (orNext b c) := by
  unfold orNext
  split_ifs <;> simp_all

theorem compareQueueTasksForOrder_renumber (locale : Locale) (number : AgentQueueTask → Option ℤ) :
    (fun first second => compareQueueTasksForOrder locale (renumber number first)
      (renumber number second)) = thenBy (levelOrder locale) (numberOrder locale number) := by
  funext first second
  have hstep : thenBy (levelOrder locale) (numberOrder locale number) first second =
      orNext (levelOrder locale first second) (numberOrder locale number first second) := rfl
  rw [hstep, levelOrder, orNext_assoc, orNext_assoc]
  rfl

theorem compareQueueTasksForOrder_eq (locale : Locale) :
    compareQueueTasksForOrder locale =
      thenBy (levelOrder locale) (numberOrder locale AgentQueueTask.orderIndex) :=
  compareQueueTasksForOrder_renumber locale AgentQueueTask.orderIndex

theorem numberOrder_neg {locale : Locale} {number : AgentQueueTask → Option ℤ}
    {first second : AgentQueueTask} {i j : ℤ} (hfirst : number first = some i)
    (hsecond : number second = some j) (hij : i < j) :
    numberOrder locale number first second < 0 := by
  have hdifference : orderIndexDifference (some i) (some j) = i - j := rfl
  rw [numberOrder, hfirst, hsecond, hdifference, orNext, if_neg (by omega)]
  omega

section Consistent

variable {locale : Locale}

theorem consistent_nameOrder (h : Consistent locale.localeCompare) :
    Consistent (nameOrder locale) :=
  h.comap fun task => (normalizeQueueTag locale task).queueTagName

theorem consistent_levelOrder (h : Consistent locale.localeCompare) :
    Consistent (levelOrder locale) :=
  (consistent_nameOrder h).lex <|
    (h.comap fun task : AgentQueueTask => (normalizeQueueTag locale task).queueTagId).lex
      (consistent_sub.flip.comap fun task : AgentQueueTask => normalizeTaskPriority task.priority)

theorem consistent_ageOrder (h : Consistent locale.localeCompare) : Consistent (ageOrder locale) :=
  (h.comap AgentQueueTask.createdAt).lex (h.comap AgentQueueTask.queueItemId)

theorem consistent_numberOrder (h : Consistent locale.localeCompare)
    (number : AgentQueueTask → Option ℤ) : Consistent (numberOrder locale number) :=
  (consistent_orderIndexDifference.comap number).lex (consistent_ageOrder h)

theorem consistent_compareQueueTasksForOrder (h : Consistent locale.localeCompare) :
    Consistent (compareQueueTasksForOrder locale) := by
  rw [compareQueueTasksForOrder_eq]
  exact (consistent_levelOrder h).thenBy (consistent_numberOrder h AgentQueueTask.orderIndex)

end Consistent

/-! ## Moves -/

/-- The number that a move asks for: for a peer its place among them, for another task its own. -/
def requestedNumber (locale : Locale) (position : QueueTaskReorderPosition)
    (place : PlaceAmongPeers) (task : AgentQueueTask) : Option ℤ :=
  if isReorderPeer locale place.selectedTask task then
    some ((place.requestedPeers position).idxOf task)
  else task.orderIndex

/-- A move that is to pass a peer passes only peers whose tag name the language environment does
not tell apart from that of the moved task; and a peer and a task of another group that tag name,
tag id and priority do not tell apart stand in the display that is asked for as their numbers
say. -/
def MoveTakesEffect (locale : Locale) (position : QueueTaskReorderPosition) (queueItemId : String)
    (tasks : List AgentQueueTask) : Prop :=
  ∀ place ∈ placeAmongPeers locale queueItemId tasks, place.passedPeers position ≠ [] →
    (∀ peer ∈ place.passedPeers position, nameOrder locale peer place.selectedTask = 0) ∧
    (requestedDisplay locale position queueItemId tasks).Pairwise fun first second =>
      isReorderPeer locale place.selectedTask first ≠
          isReorderPeer locale place.selectedTask second →
        levelOrder locale first second = 0 →
          precedes (numberOrder locale (requestedNumber locale position place)) tasks first second

section Moves

variable {locale : Locale} {position : QueueTaskReorderPosition} {queueItemId : String}
  {tasks : List AgentQueueTask} {place : PlaceAmongPeers}

/-- Tasks of the list are told apart by their ids. -/
theorem eq_of_queueItemId (hnodup : (tasks.map (·.queueItemId)).Nodup)
    {first second : AgentQueueTask} (hfirst : first ∈ tasks) (hsecond : second ∈ tasks)
    (hid : first.queueItemId = second.queueItemId) : first = second :=
  List.inj_on_of_nodup_map hnodup hfirst hsecond hid

theorem map_queueItemId_inj (hnodup : (tasks.map (·.queueItemId)).Nodup)
    {l l' : List AgentQueueTask} (hl : ∀ task ∈ l, task ∈ tasks) (hl' : ∀ task ∈ l', task ∈ tasks) :
    l.map (·.queueItemId) = l'.map (·.queueItemId) ↔ l = l' := by
  refine ⟨fun hids => ?_, fun h => h ▸ rfl⟩
  induction l generalizing l' with
  | nil => exact (List.map_eq_nil_iff.1 hids.symm).symm
  | cons a l ih =>
    cases l' with
    | nil => simp at hids
    | cons b l' =>
      rw [List.map_cons, List.map_cons, List.cons.injEq] at hids
      rw [List.forall_mem_cons] at hl hl'
      rw [eq_of_queueItemId hnodup hl.1 hl'.1 hids.1, ih hl.2 hl'.2 hids.2]

theorem mem_sortQueueTasksForDisplay {task : AgentQueueTask} :
    task ∈ sortQueueTasksForDisplay locale tasks ↔ task ∈ tasks := mem_sort

theorem isReorderPeer_iff {selectedTask task : AgentQueueTask} :
    isReorderPeer locale selectedTask task = true ↔
      (normalizeQueueTag locale task).queueTagId =
          (normalizeQueueTag locale selectedTask).queueTagId ∧
        normalizeTaskPriority task.priority = normalizeTaskPriority selectedTask.priority := by
  rw [isReorderPeer, decide_eq_true_eq]

/-- The peers are those among the displayed tasks. -/
theorem orderedManualReorderPeers_eq (hlocale : Consistent locale.localeCompare)
    (hnodup : tasks.Nodup) (selectedTask : AgentQueueTask) :
    orderedManualReorderPeers locale tasks selectedTask =
      (sortQueueTasksForDisplay locale tasks).filter (isReorderPeer locale selectedTask) :=
  (filter_sort (consistent_compareQueueTasksForOrder hlocale) hnodup _).symm

/-- The displayed tasks are cut at the task that is looked for. -/
theorem placeAmongPeers_spec (h : placeAmongPeers locale queueItemId tasks = some place) :
    ∃ front rest, sortQueueTasksForDisplay locale tasks = front ++ place.selectedTask :: rest ∧
      place.selectedTask.queueItemId = queueItemId ∧
      (∀ task ∈ front, task.queueItemId ≠ queueItemId) ∧
      place.before = front.filter (isReorderPeer locale place.selectedTask) ∧
      place.behind = rest.filter (isReorderPeer locale place.selectedTask) := by
  unfold placeAmongPeers at h
  simp only at h
  have hcut := @List.takeWhile_append_dropWhile _
    (fun task : AgentQueueTask => decide (task.queueItemId ≠ queueItemId))
    (sortQueueTasksForDisplay locale tasks)
  have hfront := @List.mem_takeWhile_imp _
    (fun task : AgentQueueTask => decide (task.queueItemId ≠ queueItemId))
    (sortQueueTasksForDisplay locale tasks)
  have hstop := List.head?_dropWhile_not
    (fun task : AgentQueueTask => decide (task.queueItemId ≠ queueItemId))
    (sortQueueTasksForDisplay locale tasks)
  cases hrest : (sortQueueTasksForDisplay locale tasks).dropWhile
      (fun task => decide (task.queueItemId ≠ queueItemId)) with
  | nil =>
    rw [hrest] at h
    cases h
  | cons selectedTask rest =>
    rw [hrest] at h hcut hstop
    obtain rfl := Option.some.inj h
    exact ⟨_, rest, hcut.symm, by simpa using hstop, fun task htask => by simpa using hfront htask,
      rfl, rfl⟩

theorem placeAmongPeers_none (h : placeAmongPeers locale queueItemId tasks = none) :
    ∀ task ∈ tasks, task.queueItemId ≠ queueItemId := by
  unfold placeAmongPeers at h
  simp only at h
  split at h
  · rename_i hdrop
    rw [List.dropWhile_eq_nil_iff] at hdrop
    intro task htask
    simpa using hdrop task (mem_sortQueueTasksForDisplay.2 htask)
  · cases h

theorem isReorderPeer_self (task : AgentQueueTask) : isReorderPeer locale task task = true :=
  isReorderPeer_iff.2 ⟨rfl, rfl⟩

/-- The displayed peers are those before the task, the task, and those behind it. -/
theorem filter_isReorderPeer (h : placeAmongPeers locale queueItemId tasks = some place) :
    (sortQueueTasksForDisplay locale tasks).filter (isReorderPeer locale place.selectedTask) =
      place.before ++ place.selectedTask :: place.behind := by
  obtain ⟨front, rest, hshown, -, -, hbefore, hbehind⟩ := placeAmongPeers_spec h
  rw [hshown, List.filter_append, List.filter_cons_of_pos (isReorderPeer_self _), hbefore, hbehind]

/-- **The requested order** is the present one with the task past the peers it is to pass. -/
theorem passes_requestedPeers (place : PlaceAmongPeers) (position : QueueTaskReorderPosition) :
    Passes place.selectedTask (place.passedPeers position)
      (place.before ++ place.selectedTask :: place.behind) (place.requestedPeers position) := by
  cases position with
  | up =>
    have hpasses := @Passes.earlier _ place.selectedTask place.before.getLast?.toList
      place.before.dropLast place.behind
    have hbefore : place.before.dropLast ++ place.before.getLast?.toList = place.before := by
      cases place.before using List.reverseRecOn <;> simp
    rwa [hbefore] at hpasses
  | down =>
    have hpasses := @Passes.later _ place.selectedTask place.behind.head?.toList place.before
      place.behind.tail
    have hbehind : place.behind.head?.toList ++ place.behind.tail = place.behind := by
      cases place.behind <;> rfl
    rwa [List.append_assoc, List.cons_append, hbehind] at hpasses
  | top => exact Passes.earlier [] place.behind
  | bottom =>
    have hpasses := @Passes.later _ place.selectedTask place.behind place.before []
    rwa [List.append_nil] at hpasses

/-- The moved task passes the peers that it is to pass. -/
theorem passes_peers (h : placeAmongPeers locale queueItemId tasks = some place)
    (position : QueueTaskReorderPosition) :
    Passes place.selectedTask (place.passedPeers position)
      ((sortQueueTasksForDisplay locale tasks).filter (isReorderPeer locale place.selectedTask))
      (place.requestedPeers position) := by
  rw [filter_isReorderPeer h]
  exact passes_requestedPeers place position

theorem mem_requestedPeers (h : placeAmongPeers locale queueItemId tasks = some place)
    {task : AgentQueueTask} :
    task ∈ place.requestedPeers position ↔
      task ∈ tasks ∧ isReorderPeer locale place.selectedTask task = true := by
  rw [(passes_peers h position).perm.mem_iff, List.mem_filter]
  exact and_congr_left fun _ => mem_sortQueueTasksForDisplay

theorem nodup_requestedPeers (hnodup : (tasks.map (·.queueItemId)).Nodup)
    (h : placeAmongPeers locale queueItemId tasks = some place) :
    (place.requestedPeers position).Nodup :=
  (passes_peers h position).perm.nodup_iff.2 ((nodup_sort hnodup.of_map).filter _)

/-- What the code answers for an id that is not displayed. -/
theorem manualMove_of_unknown (h : placeAmongPeers locale queueItemId tasks = none) :
    manualMove locale position queueItemId tasks = none := by
  have hunknown := placeAmongPeers_none h
  have hfind : tasks.find? (·.queueItemId = queueItemId) = none :=
    List.find?_eq_none.2 fun task htask => by simpa using hunknown task htask
  rw [manualMove, hfind]

/-- The code finds the task at its place among its peers. -/
theorem manualMove_eq (hlocale : Consistent locale.localeCompare)
    (hnodup : (tasks.map (·.queueItemId)).Nodup)
    (h : placeAmongPeers locale queueItemId tasks = some place) :
    manualMove locale position queueItemId tasks =
      let peers := place.before ++ place.selectedTask :: place.behind
      let nextIndex := reorderedIndex position place.before.length peers.length
      if nextIndex < 0 ∨ nextIndex ≥ peers.length ∨ nextIndex = place.before.length then none
      else some { selectedTask := place.selectedTask, peers, currentIndex := place.before.length,
                  nextIndex := nextIndex.toNat } := by
  obtain ⟨front, rest, hshown, hid, hfront, hbefore, -⟩ := placeAmongPeers_spec h
  have hselected : place.selectedTask ∈ tasks :=
    mem_sortQueueTasksForDisplay.1 (hshown ▸ List.mem_append_right _ List.mem_cons_self)
  have hfind : tasks.find? (·.queueItemId = queueItemId) = some place.selectedTask := by
    cases hfound : tasks.find? (·.queueItemId = queueItemId) with
    | none => exact absurd hid (by simpa using List.find?_eq_none.1 hfound _ hselected)
    | some task =>
      have htask : task.queueItemId = queueItemId := by simpa using List.find?_some hfound
      rw [eq_of_queueItemId hnodup (List.mem_of_find?_eq_some hfound) hselected
        (htask.trans hid.symm)]
  have hpeers : orderedManualReorderPeers locale tasks place.selectedTask =
      place.before ++ place.selectedTask :: place.behind := by
    rw [orderedManualReorderPeers_eq hlocale hnodup.of_map, filter_isReorderPeer h]
  have hindex : (place.before ++ place.selectedTask :: place.behind).findIdx?
      (·.queueItemId = queueItemId) = some place.before.length := by
    rw [List.findIdx?_eq_some_iff_getElem]
    refine ⟨by simp, by simpa using hid, fun j hj => ?_⟩
    have hsub : ∀ task ∈ place.before, task ∈ front := by
      rw [hbefore]
      exact fun task => List.mem_of_mem_filter
    simpa [List.getElem_append_left hj] using hfront _ (hsub _ (List.getElem_mem hj))
  rw [manualMove, hfind]
  simp only [hpeers, hindex]

theorem manualMove_to (hlocale : Consistent locale.localeCompare)
    (hnodup : (tasks.map (·.queueItemId)).Nodup)
    (h : placeAmongPeers locale queueItemId tasks = some place) {next : ℕ}
    (hnext : reorderedIndex position place.before.length
      (place.before ++ place.selectedTask :: place.behind).length = next)
    (hlt : next < (place.before ++ place.selectedTask :: place.behind).length)
    (hne : next ≠ place.before.length) :
    ∃ move, manualMove locale position queueItemId tasks = some move ∧
      move.reorderedPeers =
        moved (place.before ++ place.selectedTask :: place.behind) place.before.length next := by
  rw [manualMove_eq hlocale hnodup h]
  simp only [hnext]
  exact ⟨_, if_neg (by omega), rfl⟩

/-- **The code leaves early exactly when there is no peer to pass**, and otherwise puts the peers
in the requested order. -/
theorem manualMove_spec (hlocale : Consistent locale.localeCompare)
    (hnodup : (tasks.map (·.queueItemId)).Nodup)
    (h : placeAmongPeers locale queueItemId tasks = some place) :
    (place.passedPeers position = [] ∧ manualMove locale position queueItemId tasks = none) ∨
      (place.passedPeers position ≠ [] ∧
        ∃ move, manualMove locale position queueItemId tasks = some move ∧
          move.reorderedPeers = place.requestedPeers position) := by
  have hmove := fun next =>
    @manualMove_to locale position queueItemId tasks place hlocale hnodup h next
  have hcode := @manualMove_eq locale position queueItemId tasks place hlocale hnodup h
  obtain ⟨task, before, behind⟩ := place
  cases position with
  | up =>
    cases before using List.reverseRecOn with
    | nil => exact Or.inl ⟨rfl, by rw [hcode]; exact if_pos (by simp [reorderedIndex])⟩
    | append_singleton before last =>
      refine Or.inr ⟨by simp [PlaceAmongPeers.passedPeers], ?_⟩
      obtain ⟨move, hsome, hpeers⟩ := hmove before.length (by simp [reorderedIndex])
        (by simp) (by simp)
      refine ⟨move, hsome, hpeers.trans ?_⟩
      simpa [PlaceAmongPeers.requestedPeers] using moved_earlier before [last] behind task
  | down =>
    cases behind with
    | nil => exact Or.inl ⟨rfl, by rw [hcode]; exact if_pos (by simp [reorderedIndex])⟩
    | cons next behind =>
      refine Or.inr ⟨by simp [PlaceAmongPeers.passedPeers], ?_⟩
      obtain ⟨move, hsome, hpeers⟩ := hmove (before.length + 1) (by simp [reorderedIndex])
        (by simp) (by simp)
      refine ⟨move, hsome, hpeers.trans ?_⟩
      simpa [PlaceAmongPeers.requestedPeers] using moved_later before [next] behind task
  | top =>
    cases before with
    | nil => exact Or.inl ⟨rfl, by rw [hcode]; exact if_pos (by simp [reorderedIndex])⟩
    | cons first before =>
      refine Or.inr ⟨by simp [PlaceAmongPeers.passedPeers], ?_⟩
      obtain ⟨move, hsome, hpeers⟩ := hmove 0 (by simp [reorderedIndex])
        (by simp) (by simp)
      refine ⟨move, hsome, hpeers.trans ?_⟩
      simpa [PlaceAmongPeers.requestedPeers] using moved_earlier [] (first :: before) behind task
  | bottom =>
    cases behind with
    | nil => exact Or.inl ⟨rfl, by rw [hcode]; exact if_pos (by simp [reorderedIndex])⟩
    | cons next behind =>
      refine Or.inr ⟨by simp [PlaceAmongPeers.passedPeers], ?_⟩
      obtain ⟨move, hsome, hpeers⟩ := hmove (before.length + (behind.length + 1))
        (by simp [reorderedIndex]; omega) (by simp) (by simp)
      refine ⟨move, hsome, hpeers.trans ?_⟩
      simpa [PlaceAmongPeers.requestedPeers] using moved_later before (next :: behind) [] task

/-- The update gives a task the number that the move asks for. -/
theorem update_eq_renumber (hnodup : (tasks.map (·.queueItemId)).Nodup)
    (h : placeAmongPeers locale queueItemId tasks = some place) {move : ManualMove}
    (hpeers : move.reorderedPeers = place.requestedPeers position) {task : AgentQueueTask}
    (htask : task ∈ tasks) :
    (match mapGet move.orderById task.queueItemId with
      | some orderIndex => { task with orderIndex := some (orderIndex : ℤ) }
      | none => task) = renumber (requestedNumber locale position place) task := by
  have hmem := @mem_requestedPeers locale position queueItemId tasks place h
  cases hget : mapGet move.orderById task.queueItemId with
  | none =>
    have hother : ¬ isReorderPeer locale place.selectedTask task = true := by
      intro hpeer
      obtain ⟨index, hindex⟩ := List.getElem?_of_mem (hpeers ▸ hmem.2 ⟨htask, hpeer⟩)
      have hentry := List.mem_map_of_mem (f := fun entry : AgentQueueTask × ℕ =>
        (entry.1.queueItemId, entry.2)) (List.mk_mem_zipIdx_iff_getElem?.2 hindex)
      exact mapGet_eq_none.1 hget _ hentry rfl
    rw [renumber, requestedNumber, if_neg hother]
  | some orderIndex =>
    obtain ⟨⟨peer, index⟩, hentry, heq⟩ := List.mem_map.1 (mem_of_mapGet hget)
    obtain ⟨hid, rfl⟩ := Prod.mk.inj heq
    have hindex := List.mk_mem_zipIdx_iff_getElem?.1 hentry
    rw [hpeers] at hindex
    have hpeer := hmem.1 (List.mem_of_getElem? hindex)
    obtain rfl := eq_of_queueItemId hnodup hpeer.1 htask hid
    obtain ⟨hlt, hget⟩ := List.getElem?_eq_some_iff.1 hindex
    have hidx := (nodup_requestedPeers hnodup h).idxOf_getElem index hlt
    rw [hget] at hidx
    rw [renumber, requestedNumber, if_pos hpeer.2, hidx]

/-- The peers stand by their requested numbers as the move asks for. -/
theorem pairwise_requestedNumber (hnodup : (tasks.map (·.queueItemId)).Nodup)
    (h : placeAmongPeers locale queueItemId tasks = some place) :
    (place.requestedPeers position).Pairwise fun first second =>
      numberOrder locale (requestedNumber locale position place) first second < 0 := by
  rw [List.pairwise_iff_getElem]
  intro i j hi hj hij
  have hnodup' := @nodup_requestedPeers locale position queueItemId tasks place hnodup h
  have hpeer : ∀ k (hk : k < (place.requestedPeers position).length),
      requestedNumber locale position place (place.requestedPeers position)[k] = some (k : ℤ) := by
    intro k hk
    have hkind := ((mem_requestedPeers h).1 (List.getElem_mem hk)).2
    rw [requestedNumber, if_pos hkind, hnodup'.idxOf_getElem k hk]
  exact numberOrder_neg (hpeer i hi) (hpeer j hj) (by omega)

/-- Peers differ before the numbers by the tag name only. -/
theorem levelOrder_eq_zero_iff (hlocale : Consistent locale.localeCompare)
    {selectedTask task : AgentQueueTask} (hpeer : isReorderPeer locale selectedTask task = true) :
    levelOrder locale task selectedTask = 0 ↔ nameOrder locale task selectedTask = 0 := by
  obtain ⟨hid, hpriority⟩ := isReorderPeer_iff.1 hpeer
  have hrest : orNext (locale.localeCompare (normalizeQueueTag locale task).queueTagId
      (normalizeQueueTag locale selectedTask).queueTagId)
      (normalizeTaskPriority selectedTask.priority - normalizeTaskPriority task.priority) = 0 := by
    rw [hid, hpriority, hlocale.self, Int.sub_self]
    rfl
  rw [levelOrder, hrest, orNext]
  split_ifs with hzero
  · simp [hzero]
  · simp [hzero]

/-- The ids displayed after a list of tasks is numbered. -/
theorem displayedIds_renumber (number : AgentQueueTask → Option ℤ) (l : List AgentQueueTask) :
    displayedIds locale (l.map (renumber number)) =
      (sort (thenBy (levelOrder locale) (numberOrder locale number)) l).map (·.queueItemId) := by
  have hsort : sortQueueTasksForDisplay locale (l.map (renumber number)) =
      sort (compareQueueTasksForOrder locale) (l.map (renumber number)) := rfl
  rw [displayedIds, hsort, sort_map, compareQueueTasksForOrder_renumber, List.map_map]
  rfl

theorem displayedIds_sort (hlocale : Consistent locale.localeCompare) (l : List AgentQueueTask) :
    displayedIds locale (sortQueueTasksForDisplay locale l) = displayedIds locale l :=
  congrArg (List.map AgentQueueTask.queueItemId)
    (sort_sort (consistent_compareQueueTasksForOrder hlocale) l)

theorem requestedDisplay_eq (h : placeAmongPeers locale queueItemId tasks = some place) :
    requestedDisplay locale position queueItemId tasks =
      refill (isReorderPeer locale place.selectedTask) (sortQueueTasksForDisplay locale tasks)
        (place.requestedPeers position) := by
  rw [requestedDisplay, h]

/-- The display that is asked for has the same tasks, keeps the others in their order, and has
the peers in the requested order. -/
theorem requestedDisplay_spec (h : placeAmongPeers locale queueItemId tasks = some place) :
    let shown := sortQueueTasksForDisplay locale tasks
    let asked := requestedDisplay locale position queueItemId tasks
    let isPeer := isReorderPeer locale place.selectedTask
    asked.Perm shown ∧ asked.filter (!isPeer ·) = shown.filter (!isPeer ·) ∧
      asked.filter isPeer = place.requestedPeers position := by
  have hperm := (passes_peers h position).perm
  have hfills := fills_of_perm hperm
  simp only [requestedDisplay_eq h]
  exact ⟨refill_perm hperm, filter_not_refill hfills, filter_refill hfills⟩

/-- Where there is no peer to pass, the present display is asked for. -/
theorem requestedDisplay_of_nothing (h : placeAmongPeers locale queueItemId tasks = some place)
    (hnothing : place.passedPeers position = []) :
    requestedDisplay locale position queueItemId tasks = sortQueueTasksForDisplay locale tasks := by
  have hpasses := passes_peers h position
  rw [hnothing] at hpasses
  rw [requestedDisplay_eq h, hpasses.eq_of_nil, refill_self]

/-- The sort by the requested numbers answers with the display that is asked for exactly when the
move takes effect. -/
theorem sort_eq_requestedDisplay_iff (hlocale : Consistent locale.localeCompare)
    (hnodup : (tasks.map (·.queueItemId)).Nodup)
    (h : placeAmongPeers locale queueItemId tasks = some place)
    (hmoves : place.passedPeers position ≠ []) :
    sort (thenBy (levelOrder locale)
        (numberOrder locale (requestedNumber locale position place))) tasks =
        requestedDisplay locale position queueItemId tasks ↔
      MoveTakesEffect locale position queueItemId tasks := by
  have hshown : sortQueueTasksForDisplay locale tasks =
      sort (thenBy (levelOrder locale) (numberOrder locale AgentQueueTask.orderIndex)) tasks := by
    rw [← compareQueueTasksForOrder_eq]
    rfl
  have hpasses := passes_peers h position
  have hnames : (∀ peer ∈ place.passedPeers position,
        levelOrder locale peer place.selectedTask = 0) ↔
      ∀ peer ∈ place.passedPeers position, nameOrder locale peer place.selectedTask = 0 := by
    refine forall₂_congr fun peer hpeer => levelOrder_eq_zero_iff hlocale ?_
    exact (List.mem_filter.1 (hpasses.subset hpeer)).2
  have hsame : ∀ first second, isReorderPeer locale place.selectedTask first = false →
      isReorderPeer locale place.selectedTask second = false →
        numberOrder locale (requestedNumber locale position place) first second =
          numberOrder locale AgentQueueTask.orderIndex first second := by
    intro first second hfirst hsecond
    simp only [numberOrder, requestedNumber, hfirst, hsecond, Bool.false_eq_true, if_false]
  have heffect : MoveTakesEffect locale position queueItemId tasks ↔
      (∀ peer ∈ place.passedPeers position, nameOrder locale peer place.selectedTask = 0) ∧
      (requestedDisplay locale position queueItemId tasks).Pairwise fun first second =>
        isReorderPeer locale place.selectedTask first ≠
            isReorderPeer locale place.selectedTask second →
          levelOrder locale first second = 0 →
            precedes (numberOrder locale (requestedNumber locale position place)) tasks first
              second := by
    rw [MoveTakesEffect, h]
    simp only [Option.mem_some_iff, forall_eq', hmoves, ne_eq, not_false_eq_true, true_implies]
  rw [heffect, ← hnames, requestedDisplay_eq h, hshown]
  rw [hshown] at hpasses
  exact sort_eq_refill_iff (consistent_levelOrder hlocale)
    (consistent_numberOrder hlocale AgentQueueTask.orderIndex)
    (consistent_numberOrder hlocale (requestedNumber locale position place)) hnodup.of_map hpasses
    hsame (pairwise_requestedNumber hnodup h)

/-- Where the code leaves early, the display stays as it is. -/
theorem displayedIds_of_none (h : manualMove locale position queueItemId tasks = none) :
    displayedIds locale (reorderQueueTask locale position queueItemId tasks).updatedTasks =
      (sortQueueTasksForDisplay locale tasks).map (·.queueItemId) := by
  rw [reorderQueueTask, h]
  rfl

/-- **When a move displays what it asks for.** -/
theorem reorderIsExact_iff (hlocale : Consistent locale.localeCompare)
    (hnodup : (tasks.map (·.queueItemId)).Nodup) :
    ReorderIsExact locale position queueItemId tasks ↔
      MoveTakesEffect locale position queueItemId tasks := by
  cases h : placeAmongPeers locale queueItemId tasks with
  | none =>
    have hexact : ReorderIsExact locale position queueItemId tasks := by
      rw [ReorderIsExact, displayedIds_of_none (manualMove_of_unknown h), requestedDisplay, h]
    have hunknown : MoveTakesEffect locale position queueItemId tasks := by
      intro place hplace
      rw [h] at hplace
      cases hplace
    exact iff_of_true hexact hunknown
  | some place =>
    rcases manualMove_spec hlocale hnodup h with ⟨hnothing, hmove⟩ | ⟨hmoves, move, hmove, hpeers⟩
    · have hexact : ReorderIsExact locale position queueItemId tasks := by
        rw [ReorderIsExact, displayedIds_of_none hmove, requestedDisplay_of_nothing h hnothing]
      have hno : MoveTakesEffect locale position queueItemId tasks := by
        intro place' hplace' hmoves
        obtain rfl := Option.some.inj (h.symm.trans hplace')
        exact absurd hnothing hmoves
      exact iff_of_true hexact hno
    · have hupdate : (reorderQueueTask locale position queueItemId tasks).updatedTasks =
          sortQueueTasksForDisplay locale
            (tasks.map (renumber (requestedNumber locale position place))) := by
        rw [reorderQueueTask, hmove]
        refine congrArg (sortQueueTasksForDisplay locale)
          (List.map_congr_left fun task htask => ?_)
        exact update_eq_renumber hnodup h hpeers htask
      have hasked := (@requestedDisplay_spec locale position queueItemId tasks place h).1
      rw [ReorderIsExact, hupdate, displayedIds_sort hlocale, displayedIds_renumber,
        map_queueItemId_inj hnodup (fun task => mem_sort.1)
          (fun task htask => mem_sortQueueTasksForDisplay.1 (hasked.subset htask))]
      exact sort_eq_requestedDisplay_iff hlocale hnodup h hmoves

end Moves

/-! ## Numbering -/

/-- A task without a number, of a group. -/
def awaitsNumber (locale : Locale) (groupKey : String) (task : AgentQueueTask) : Bool :=
  task.orderIndex = none ∧ manualOrderGroupKey locale task = groupKey

/-- The number that a displayed task gets: its own, or how many tasks of its group without one
are displayed before it. -/
def assignedNumber (locale : Locale) (shown : List AgentQueueTask) (task : AgentQueueTask) : ℤ :=
  task.orderIndex.getD
    ((shown.takeWhile (· ≠ task)).countP (awaitsNumber locale (manualOrderGroupKey locale task)))

/-- A displayed task with its number. -/
def numbered (locale : Locale) (shown : List AgentQueueTask) : AgentQueueTask → AgentQueueTask :=
  renumber fun task => some (assignedNumber locale shown task)

/-- Where a task without a number is displayed behind one that tag name, tag id and priority do
not tell apart from it, and that has a number or is of another group, the number it gets keeps it
behind. -/
def NumbersFollowDisplay (locale : Locale) (tasks : List AgentQueueTask) : Prop :=
  let shown := sortQueueTasksForDisplay locale tasks
  shown.Pairwise fun first second =>
    levelOrder locale first second = 0 → second.orderIndex = none →
      (first.orderIndex ≠ none ∨
        manualOrderGroupKey locale first ≠ manualOrderGroupKey locale second) →
      numberOrder locale (fun task => some (assignedNumber locale shown task)) first second ≤ 0

section Numbering

variable {locale : Locale} {tasks : List AgentQueueTask}

theorem takeWhile_ne_of_nodup {before rest : List AgentQueueTask} {task : AgentQueueTask}
    (hnodup : (before ++ task :: rest).Nodup) :
    (before ++ task :: rest).takeWhile (· ≠ task) = before := by
  have hnotMem : task ∉ before := by
    intro hmem
    exact (List.nodup_append.1 hnodup).2.2 task hmem task List.mem_cons_self rfl
  rw [List.takeWhile_append_of_pos, List.takeWhile_cons_of_neg (by simp), List.append_nil]
  intro other hother
  have hne : other ≠ task := fun heq => hnotMem (heq ▸ hother)
  simpa using hne

/-- The walk numbers a task by those before it. -/
theorem assignOrderIndexes_eq {nextOrderByGroup : List (String × ℕ)}
    {before rest : List AgentQueueTask} (hnodup : (before ++ rest).Nodup)
    (hcounts : ∀ groupKey, (mapGet nextOrderByGroup groupKey).getD 0 =
      before.countP (awaitsNumber locale groupKey)) :
    assignOrderIndexes locale nextOrderByGroup rest =
      rest.map (numbered locale (before ++ rest)) := by
  induction rest generalizing nextOrderByGroup before with
  | nil => rfl
  | cons task rest ih =>
    have hshift : before ++ task :: rest = (before ++ [task]) ++ rest := by simp
    have hnodup' : ((before ++ [task]) ++ rest).Nodup := hshift ▸ hnodup
    have hbefore := takeWhile_ne_of_nodup hnodup
    have hone : ∀ groupKey, (before ++ [task]).countP (awaitsNumber locale groupKey) =
        before.countP (awaitsNumber locale groupKey) +
          if awaitsNumber locale groupKey task then 1 else 0 := by
      intro groupKey
      rw [List.countP_append, List.countP_singleton]
    cases hindex : task.orderIndex with
    | some orderIndex =>
      have hsame : numbered locale (before ++ task :: rest) task = task := by
        simp only [numbered, renumber, assignedNumber, hindex, Option.getD_some]
        rw [← hindex]
      have hcounts' : ∀ groupKey, (mapGet nextOrderByGroup groupKey).getD 0 =
          (before ++ [task]).countP (awaitsNumber locale groupKey) := by
        intro groupKey
        have hindexed : awaitsNumber locale groupKey task = false := by simp [awaitsNumber, hindex]
        rw [hone, hcounts, hindexed]
        rfl
      have hwalk : assignOrderIndexes locale nextOrderByGroup (task :: rest) =
          task :: assignOrderIndexes locale nextOrderByGroup rest := by
        rw [assignOrderIndexes, hindex]
      rw [hwalk, List.map_cons, hsame, hshift, ih hnodup' hcounts']
    | none =>
      have hnumber : numbered locale (before ++ task :: rest) task =
          renumber (fun _ => some (before.countP
            (awaitsNumber locale (manualOrderGroupKey locale task)) : ℤ)) task := by
        rw [numbered, renumber, assignedNumber, hindex, hbefore]
        rfl
      have hcounts' : ∀ groupKey, (mapGet (mapSet nextOrderByGroup (manualOrderGroupKey locale task)
          (before.countP (awaitsNumber locale (manualOrderGroupKey locale task)) + 1))
            groupKey).getD 0 = (before ++ [task]).countP (awaitsNumber locale groupKey) := by
        intro groupKey
        rw [hone, mapGet_mapSet]
        by_cases hkey : groupKey = manualOrderGroupKey locale task
        · have hcounted : awaitsNumber locale groupKey task = true := by
            simp [awaitsNumber, hindex, hkey]
          rw [if_pos hkey, hcounted, Option.getD_some, ← hkey]
          rfl
        · have hother : awaitsNumber locale groupKey task = false := by
            simp [awaitsNumber, Ne.symm hkey]
          rw [if_neg hkey, hother, hcounts]
          rfl
      have hwalk : assignOrderIndexes locale nextOrderByGroup (task :: rest) =
          renumber (fun _ => some (before.countP
            (awaitsNumber locale (manualOrderGroupKey locale task)) : ℤ)) task ::
          assignOrderIndexes locale (mapSet nextOrderByGroup (manualOrderGroupKey locale task)
            (before.countP (awaitsNumber locale (manualOrderGroupKey locale task)) + 1)) rest := by
        rw [assignOrderIndexes, hindex]
        simp only [hcounts]
        rfl
      rw [hwalk, List.map_cons, hnumber, hshift, ih hnodup' hcounts']

/-- A task with a number of its own keeps its place behind those displayed before it. -/
theorem numberOrder_assigned_of_some {first second : AgentQueueTask} {orderIndex : ℤ}
    (hsecond : second.orderIndex = some orderIndex)
    (h : numberOrder locale AgentQueueTask.orderIndex first second ≤ 0)
    (shown : List AgentQueueTask) :
    numberOrder locale (fun task => some (assignedNumber locale shown task)) first second ≤ 0 := by
  cases hfirst : first.orderIndex with
  | none =>
    have hbehind : numberOrder locale AgentQueueTask.orderIndex first second = 1 := by
      rw [numberOrder, hfirst, hsecond]
      rfl
    omega
  | some firstIndex =>
    have hown : ∀ (task : AgentQueueTask) (index : ℤ), task.orderIndex = some index →
        assignedNumber locale shown task = index := by
      intro task index hindex
      rw [assignedNumber, hindex, Option.getD_some]
    rw [numberOrder, hfirst, hsecond] at h
    rw [numberOrder, hown first firstIndex hfirst, hown second orderIndex hsecond]
    exact h

/-- Tasks of one group without a number get numbers as they are displayed. -/
theorem pairwise_assignedNumber {shown : List AgentQueueTask} (hnodup : shown.Nodup) :
    shown.Pairwise fun first second => first.orderIndex = none → second.orderIndex = none →
      manualOrderGroupKey locale first = manualOrderGroupKey locale second →
        assignedNumber locale shown first < assignedNumber locale shown second := by
  rw [List.pairwise_iff_getElem]
  intro i j hi hj hij hfirst hsecond hkey
  have htake : ∀ k (hk : k < shown.length), shown.takeWhile (· ≠ shown[k]) = shown.take k := by
    intro k hk
    have hsplit : shown = shown.take k ++ shown[k] :: shown.drop (k + 1) := by simp
    have hnodup' := hnodup
    rw [hsplit] at hnodup'
    have hbefore := takeWhile_ne_of_nodup hnodup'
    rwa [← hsplit] at hbefore
  have hcounted : awaitsNumber locale (manualOrderGroupKey locale shown[j]) shown[i] = true := by
    simp [awaitsNumber, hfirst, hkey]
  have hmore : (shown.take (i + 1)).Sublist (shown.take j) := List.take_sublist_take_left (by omega)
  have hcount := @List.Sublist.countP_le _
    (awaitsNumber locale (manualOrderGroupKey locale shown[j])) _ _ hmore
  rw [List.take_succ_eq_append_getElem hi, List.countP_append, List.countP_singleton,
    if_pos hcounted] at hcount
  rw [assignedNumber, assignedNumber, hfirst, hsecond, htake i hi, htake j hj, hkey,
    Option.getD_none, Option.getD_none]
  omega

/-- **When numbering the tasks keeps the display.** -/
theorem reindexKeepsDisplay_iff (hlocale : Consistent locale.localeCompare)
    (hnodup : (tasks.map (·.queueItemId)).Nodup) :
    ReindexKeepsDisplay locale tasks ↔ NumbersFollowDisplay locale tasks := by
  have hconsistent := consistent_compareQueueTasksForOrder hlocale
  have hshown : (sortQueueTasksForDisplay locale tasks).Nodup := nodup_sort hnodup.of_map
  have hassign : assignOrderIndexes locale [] (sortQueueTasksForDisplay locale tasks) =
      (sortQueueTasksForDisplay locale tasks).map
        (numbered locale (sortQueueTasksForDisplay locale tasks)) :=
    @assignOrderIndexes_eq locale [] [] _ hshown fun groupKey => rfl
  have hpairs : (sortQueueTasksForDisplay locale tasks).Pairwise fun first second =>
      thenBy (levelOrder locale) (numberOrder locale AgentQueueTask.orderIndex) first second ≤
        0 := by
    rw [← compareQueueTasksForOrder_eq]
    exact pairwise_sort hconsistent tasks
  have hlevels := hpairs.imp level_le_of_thenBy
  rw [ReindexKeepsDisplay, withQueueOrderIndexes, displayedIds_sort hlocale, hassign,
    numbered, displayedIds_renumber, displayedIds, map_queueItemId_inj hnodup
      (fun task htask => mem_sortQueueTasksForDisplay.1 (mem_sort.1 htask))
      (fun task => mem_sortQueueTasksForDisplay.1),
    sort_eq_self_iff ((consistent_levelOrder hlocale).thenBy (consistent_numberOrder hlocale _)),
    pairwise_thenBy_iff hlevels]
  constructor
  · intro hall
    exact hall.imp fun hab hzero _ _ => hab hzero
  · intro hfollow
    have hgroups := @pairwise_assignedNumber locale _ hshown
    refine ((hpairs.and hfollow).and hgroups).imp fun {first second} hab hzero => ?_
    cases hsecond : second.orderIndex with
    | some orderIndex =>
      exact numberOrder_assigned_of_some hsecond ((thenBy_le_iff.1 hab.1.1).2 hzero) _
    | none =>
      by_cases hgroup : first.orderIndex = none ∧
          manualOrderGroupKey locale first = manualOrderGroupKey locale second
      · exact (numberOrder_neg rfl rfl (hab.2 hgroup.1 hsecond hgroup.2)).le
      · exact hab.1.2 hzero hsecond (not_and_or.1 hgroup)

end Numbering

/-! ## Both together -/

/-- **Ordering by hand** displays what was asked for exactly when the move takes effect, and
numbering the tasks keeps the display exactly when the numbers follow it. -/
theorem reorder_and_reindex_iff {locale : Locale} (hlocale : Consistent locale.localeCompare)
    {tasks : List AgentQueueTask} (hnodup : (tasks.map (·.queueItemId)).Nodup)
    (position : QueueTaskReorderPosition) (queueItemId : String) :
    (ReorderIsExact locale position queueItemId tasks ↔
        MoveTakesEffect locale position queueItemId tasks) ∧
      (ReindexKeepsDisplay locale tasks ↔ NumbersFollowDisplay locale tasks) :=
  ⟨reorderIsExact_iff hlocale hnodup, reindexKeepsDisplay_iff hlocale hnodup⟩

/-- Two tasks of one tag id under two spellings of its name. -/
def twoSpellings : List AgentQueueTask :=
  [{ readyTask with queueItemId := "queue-1", queueTagName := some "Ops" },
    { readyTask with queueItemId := "queue-2", queueTagName := some "Ops!" }]

/-- A task with a number, and one without. -/
def oneNumbered : List AgentQueueTask :=
  [{ readyTask with queueItemId := "queue-1", orderIndex := some 5 },
    { readyTask with queueItemId := "queue-2" }]

theorem reorder_and_reindex_oneNumbered : Consistent plainLocale.localeCompare ∧
    (oneNumbered.map (·.queueItemId)).Nodup ∧
    (ReorderIsExact plainLocale .up "queue-2" oneNumbered ↔
        MoveTakesEffect plainLocale .up "queue-2" oneNumbered) ∧
      (ReindexKeepsDisplay plainLocale oneNumbered ↔
        NumbersFollowDisplay plainLocale oneNumbered) :=
  ⟨consistent_ofOrder, by decide,
    reorder_and_reindex_iff consistent_ofOrder (by decide) .up "queue-2"⟩

/-- The display stays as it is when a task is moved over the other spelling, and a task without
a number goes before the one with a number when it gets one. -/
theorem order_not_kept :
    (¬ ∀ (locale : Locale) (tasks : List AgentQueueTask) (position : QueueTaskReorderPosition)
      (queueItemId : String), Consistent locale.localeCompare →
        (tasks.map (·.queueItemId)).Nodup → ReorderIsExact locale position queueItemId tasks) ∧
      ¬ ∀ (locale : Locale) (tasks : List AgentQueueTask), Consistent locale.localeCompare →
        (tasks.map (·.queueItemId)).Nodup → ReindexKeepsDisplay locale tasks := by
  constructor
  · intro h
    have hexact := h plainLocale twoSpellings .up "queue-2" consistent_ofOrder (by decide)
    have heffect := (reorderIsExact_iff consistent_ofOrder (by decide)).1 hexact
    have hshown : sortQueueTasksForDisplay plainLocale twoSpellings = twoSpellings :=
      sort_eq_self (by decide +kernel)
    have hplace : placeAmongPeers plainLocale "queue-2" twoSpellings =
        some ⟨twoSpellings[1], [twoSpellings[0]], []⟩ := by
      rw [placeAmongPeers, hshown]
      decide +kernel
    have hnames := (heffect _ hplace (by decide)).1 twoSpellings[0] (by decide +kernel)
    exact absurd hnames (by decide +kernel)
  · intro h
    have hkeeps := h plainLocale oneNumbered consistent_ofOrder (by decide)
    have hfollow := (reindexKeepsDisplay_iff consistent_ofOrder (by decide)).1 hkeeps
    have hshown : sortQueueTasksForDisplay plainLocale oneNumbered = oneNumbered :=
      sort_eq_self (by decide +kernel)
    rw [NumbersFollowDisplay, hshown] at hfollow
    have hpair := List.rel_of_pairwise_cons hfollow List.mem_cons_self
    exact absurd (hpair (by decide +kernel) rfl (Or.inl (by decide))) (by decide +kernel)

end HobitQueue.Frontend
