import HobitQueue.Frontend.DependencyGates
import Mathlib.Logic.Relation

/-!
# The smart dependency gate along paths

The walk that computes a gate carries the tasks on its way and takes a task that it meets
again for a blocked one. What it finds is a matter of paths through open tasks: an open task
blocks when such a path leads from it to a task that is failed, cancelled, blocked or missing,
or into a cycle.

## Main results

* `statesExact` — what the walk finds, with any tasks on its way.
* `computeSmartQueueDependencyGate_exact` — what each value of the gate says, in any order of
  the lists.
-/

namespace HobitQueue.Frontend

open JavaScript Relation

/-! ## What a gate looks for -/

/-- A task that is neither finished nor blocked. -/
def SmartQueueTaskLifecycle.isOpen (l : SmartQueueTaskLifecycle) : Prop :=
  l ≠ .closed ∧ l ≠ .failed ∧ l ≠ .cancelled ∧ l ≠ .blocked

section Paths

variable (tasks : List SmartQueueTaskInput) (dependencies : List SmartQueueDependency)

/-- A dependency names `up` as an upstream task of `down`. -/
def DependsOn (down up : String) : Prop :=
  { upstreamTaskId := up, downstreamTaskId := down } ∈ dependencies

/-- The task with this id is in the list, in a state. -/
def HasLifecycle (id : String) (l : SmartQueueTaskLifecycle) : Prop :=
  ∃ t ∈ tasks, t.taskId = id ∧ t.lifecycle = l

/-- No task has the id. -/
def IsMissingTask (id : String) : Prop := ∀ t ∈ tasks, t.taskId ≠ id

/-- The task of the id is open. -/
def IsOpenTask (id : String) : Prop := ∃ l, l.isOpen ∧ HasLifecycle tasks id l

/-- The task of the id failed or was cancelled. -/
def IsFailedTask (id : String) : Prop :=
  HasLifecycle tasks id .failed ∨ HasLifecycle tasks id .cancelled

/-- From a task to an upstream task that is open. -/
def OpenEdge (down up : String) : Prop := DependsOn dependencies down up ∧ IsOpenTask tasks up

/-- An upstream task of `id` is failed, cancelled, blocked or missing. -/
def Stops (id : String) : Prop :=
  ∃ up, DependsOn dependencies id up ∧
    (IsFailedTask tasks up ∨ HasLifecycle tasks up .blocked ∨ IsMissingTask tasks up)

/-- A path through open tasks leads to one that stops, or into a cycle. -/
def Blocks (id : String) : Prop :=
  ∃ last, ReflTransGen (OpenEdge tasks dependencies) id last ∧
    (Stops tasks dependencies last ∨ TransGen (OpenEdge tasks dependencies) last last)

/-- A gate looks for a failed task upstream. -/
def FailedUpstream (id : String) : Prop :=
  ∃ up, DependsOn dependencies id up ∧ IsFailedTask tasks up

/-- A gate looks for a blocked task upstream. -/
def BlockedUpstream (id : String) : Prop :=
  ∃ up, DependsOn dependencies id up ∧
    (IsMissingTask tasks up ∨ HasLifecycle tasks up .blocked ∨
      (IsOpenTask tasks up ∧ Blocks tasks dependencies up))

/-- A gate looks for an open task upstream. -/
def OpenUpstream (id : String) : Prop :=
  ∃ up, DependsOn dependencies id up ∧ ¬ HasLifecycle tasks up .closed

end Paths

/-! ## The gate from the states of the upstream tasks -/

/-- A missing task counts as blocked. -/
def stateOrBlocked : Option UpstreamDependencyState → SmartQueueDependencyPropagationState
  | none => .dependencyBlocked
  | some upstream => upstream.state

/-- Each loop of the gate puts an id into the bucket of its state. -/
theorem foldl_add_eq_nil {stateOf : String → Option UpstreamDependencyState} {ids : List String}
    {b : DependencyBuckets} :
    let done := ids.foldl (fun (b : DependencyBuckets) id => b.add id (stateOf id)) b
    (done.failedTaskIds = [] ↔ b.failedTaskIds = [] ∧
      ∀ id ∈ ids, stateOrBlocked (stateOf id) ≠ .dependencyFailed) ∧
    (done.blockedTaskIds = [] ↔ b.blockedTaskIds = [] ∧
      ∀ id ∈ ids, stateOrBlocked (stateOf id) ≠ .dependencyBlocked) ∧
    (done.waitingTaskIds = [] ↔ b.waitingTaskIds = [] ∧
      ∀ id ∈ ids, stateOrBlocked (stateOf id) ≠ .waitingDependency) := by
  induction ids generalizing b with
  | nil => simp
  | cons id ids ih =>
    have hone : ((b.add id (stateOf id)).failedTaskIds = [] ↔ b.failedTaskIds = [] ∧
          stateOrBlocked (stateOf id) ≠ .dependencyFailed) ∧
        ((b.add id (stateOf id)).blockedTaskIds = [] ↔ b.blockedTaskIds = [] ∧
          stateOrBlocked (stateOf id) ≠ .dependencyBlocked) ∧
        ((b.add id (stateOf id)).waitingTaskIds = [] ↔ b.waitingTaskIds = [] ∧
          stateOrBlocked (stateOf id) ≠ .waitingDependency) := by
      cases hs : stateOf id with
      | none => simp [DependencyBuckets.add, stateOrBlocked]
      | some u => cases hu : u.state <;> simp [DependencyBuckets.add, stateOrBlocked, hu]
    have hrest := @ih (b.add id (stateOf id))
    simp only [List.foldl_cons, List.forall_mem_cons]
    refine ⟨hrest.1.trans ?_, hrest.2.1.trans ?_, hrest.2.2.trans ?_⟩
    · rw [hone.1, and_assoc]
    · rw [hone.2.1, and_assoc]
    · rw [hone.2.2, and_assoc]

/-- **The gate by its first bucket that is not empty.** -/
theorem gate_gateForUpstreams (ids : List String)
    (stateOf : String → Option UpstreamDependencyState) :
    (gateForUpstreams ids stateOf).gate =
      if ids = [] then .none
      else if ∃ id ∈ ids, stateOrBlocked (stateOf id) = .dependencyFailed then .failed
      else if ∃ id ∈ ids, stateOrBlocked (stateOf id) = .dependencyBlocked then .blocked
      else if ∃ id ∈ ids, stateOrBlocked (stateOf id) = .waitingDependency then .waiting
      else .satisfied := by
  obtain ⟨hfailed, hblocked, hwaiting⟩ := @foldl_add_eq_nil stateOf ids {}
  have hexists : ∀ s, (∃ id ∈ ids, stateOrBlocked (stateOf id) = s) ↔
      ¬ ∀ id ∈ ids, stateOrBlocked (stateOf id) ≠ s := fun s => by simp
  simp only [true_and] at hfailed hblocked hwaiting
  rw [gateForUpstreams]
  simp only [hexists, ← hfailed, ← hblocked, ← hwaiting]
  split_ifs <;> rfl

/-! ## Paths with the tasks on the way -/

/-- The task is on the way, or a path leads from it to where it stops, into a cycle, or back
to a task on the way. -/
def BlocksFrom (tasks : List SmartQueueTaskInput) (dependencies : List SmartQueueDependency)
    (visiting : List String) (id : String) : Prop :=
  id ∈ visiting ∨ ∃ last, ReflTransGen (OpenEdge tasks dependencies) id last ∧
    (Stops tasks dependencies last ∨ TransGen (OpenEdge tasks dependencies) last last ∨
      ∃ back ∈ visiting, OpenEdge tasks dependencies last back)

section Walk

variable {tasks : List SmartQueueTaskInput} {dependencies : List SmartQueueDependency}

theorem blocksFrom_nil {id : String} :
    BlocksFrom tasks dependencies [] id ↔ Blocks tasks dependencies id := by
  simp [BlocksFrom, Blocks]

/-- **One step of the walk**: a task blocks when it stops, or when one of its open upstream
tasks blocks with the task itself on the way. -/
theorem blocksFrom_step {visiting : List String} {id : String} (hnew : id ∉ visiting) :
    BlocksFrom tasks dependencies visiting id ↔ Stops tasks dependencies id ∨
      ∃ up, OpenEdge tasks dependencies id up ∧
        BlocksFrom tasks dependencies (id :: visiting) up := by
  constructor
  · rintro (hid | ⟨last, hpath, hlast⟩)
    · exact absurd hid hnew
    rcases hpath.cases_head with rfl | ⟨up, hup, hrest⟩
    · rcases hlast with hstops | hcycle | ⟨back, hback, hedge⟩
      · exact .inl hstops
      · obtain ⟨up, hup, hrest⟩ := TransGen.head'_iff.1 hcycle
        refine .inr ⟨up, hup, ?_⟩
        rcases hrest.cases_tail with heq | ⟨last, hpath, hedge⟩
        · exact .inl (heq ▸ List.mem_cons_self)
        · exact .inr ⟨last, hpath, .inr (.inr ⟨id, List.mem_cons_self, hedge⟩)⟩
      · exact .inr ⟨back, hedge, .inl (List.mem_cons_of_mem _ hback)⟩
    · refine .inr ⟨up, hup, .inr ⟨last, hrest, ?_⟩⟩
      rcases hlast with hstops | hcycle | ⟨back, hback, hedge⟩
      · exact .inl hstops
      · exact .inr (.inl hcycle)
      · exact .inr (.inr ⟨back, List.mem_cons_of_mem _ hback, hedge⟩)
  · rintro (hstops | ⟨up, hup, hmem | ⟨last, hpath, hlast⟩⟩)
    · exact .inr ⟨id, .refl, .inl hstops⟩
    · rcases List.mem_cons.1 hmem with rfl | hmem
      · exact .inr ⟨up, .refl, .inr (.inl (.single hup))⟩
      · exact .inr ⟨id, .refl, .inr (.inr ⟨up, hmem, hup⟩)⟩
    · rcases hlast with hstops | hcycle | ⟨back, hback, hedge⟩
      · exact .inr ⟨last, hpath.head hup, .inl hstops⟩
      · exact .inr ⟨last, hpath.head hup, .inr (.inl hcycle)⟩
      · rcases List.mem_cons.1 hback with rfl | hback
        · exact .inr ⟨back, .refl, .inr (.inl (.head' hup (hpath.tail hedge)))⟩
        · exact .inr ⟨last, hpath.head hup, .inr (.inr ⟨back, hback, hedge⟩)⟩

/-! ## The walk -/

/-- The state of an upstream task, unless it is missing. -/
def upstreamState (tasks : List SmartQueueTaskInput) (upstreamIds : String → List String)
    (visiting : List String) (id : String) : Option UpstreamDependencyState :=
  match hid : taskById tasks id with
  | none => none
  | some next =>
    some (computeUpstreamDependencyState tasks upstreamIds visiting next (mem_of_taskById hid))

/-- The gate of an open upstream task that is not on the way decides its state. -/
theorem state_of_open {upstreamIds : String → List String} {visiting : List String}
    {t : SmartQueueTaskInput} {hmem : t ∈ tasks} (hopen : t.lifecycle.isOpen)
    (hnew : t.taskId ∉ visiting) :
    (computeUpstreamDependencyState tasks upstreamIds visiting t hmem).state =
      if (gateForUpstreams (upstreamIds t.taskId)
          (upstreamState tasks upstreamIds (t.taskId :: visiting))).gate = .failed ∨
        (gateForUpstreams (upstreamIds t.taskId)
          (upstreamState tasks upstreamIds (t.taskId :: visiting))).gate = .blocked
      then .dependencyBlocked else .waitingDependency := by
  obtain ⟨hclosed, hfailed, hcancelled, hblocked⟩ := hopen
  rw [computeUpstreamDependencyState]
  simp only [hclosed, hfailed, hcancelled, hblocked, hnew, or_self, if_false, dif_neg,
    not_false_eq_true]
  change (if (gateForUpstreams (upstreamIds t.taskId)
        (upstreamState tasks upstreamIds (t.taskId :: visiting))).gate = .failed ∨
      (gateForUpstreams (upstreamIds t.taskId)
        (upstreamState tasks upstreamIds (t.taskId :: visiting))).gate = .blocked
    then ⟨.dependencyBlocked, [t.taskId], []⟩
    else ⟨.waitingDependency, [], []⟩ : UpstreamDependencyState).state = _
  split_ifs <;> rfl

theorem taskById_eq_some (hdistinct : (tasks.map (·.taskId)).Nodup) {id : String}
    {t : SmartQueueTaskInput} : taskById tasks id = some t ↔ t ∈ tasks ∧ t.taskId = id := by
  have hkey : ∀ {u}, taskById tasks id = some u → u ∈ tasks ∧ u.taskId = id := by
    intro u hu
    obtain ⟨v, hv, heq⟩ := List.mem_map.1 (mem_of_mapGet hu)
    obtain ⟨hid, rfl⟩ := Prod.mk.inj heq
    exact ⟨hv, hid⟩
  refine ⟨hkey, fun ⟨ht, hid⟩ => ?_⟩
  cases hfind : taskById tasks id with
  | none =>
    have hlisted := List.mem_map_of_mem (f := fun t => (t.taskId, t)) ht
    exact absurd hid (mapGet_eq_none.1 hfind _ hlisted)
  | some u =>
    obtain ⟨hu, huid⟩ := hkey hfind
    rw [List.inj_on_of_nodup_map hdistinct hu ht (huid.trans hid.symm)]

theorem state_of_visited {upstreamIds : String → List String} {visiting : List String}
    {t : SmartQueueTaskInput} {hmem : t ∈ tasks} (hopen : t.lifecycle.isOpen)
    (hvisited : t.taskId ∈ visiting) :
    (computeUpstreamDependencyState tasks upstreamIds visiting t hmem).state =
      .dependencyBlocked := by
  obtain ⟨hclosed, hfailed, hcancelled, hblocked⟩ := hopen
  rw [computeUpstreamDependencyState]
  simp [hclosed, hfailed, hcancelled, hblocked, hvisited]

theorem state_failed {upstreamIds : String → List String} {visiting : List String}
    {t : SmartQueueTaskInput} {hmem : t ∈ tasks} :
    (computeUpstreamDependencyState tasks upstreamIds visiting t hmem).state =
        .dependencyFailed ↔ t.lifecycle = .failed ∨ t.lifecycle = .cancelled := by
  rw [computeUpstreamDependencyState]
  by_cases hfailed : t.lifecycle = .failed ∨ t.lifecycle = .cancelled
  · have hclosed : t.lifecycle ≠ .closed := by
      rcases hfailed with h | h <;> rw [h] <;> decide
    simp [hclosed, hfailed]
  · simp only [hfailed, if_false, iff_false]
    split_ifs <;> simp

/-- A gate stops its task when an upstream task has failed or is blocked. -/
theorem gate_stops {ids : List String} {stateOf : String → Option UpstreamDependencyState} :
    ((gateForUpstreams ids stateOf).gate = .failed ∨
        (gateForUpstreams ids stateOf).gate = .blocked) ↔
      ∃ id ∈ ids, stateOrBlocked (stateOf id) = .dependencyFailed ∨
        stateOrBlocked (stateOf id) = .dependencyBlocked := by
  simp only [and_or_left, exists_or]
  rw [gate_gateForUpstreams]
  by_cases hids : ids = []
  · simp [hids]
  · rw [if_neg hids]
    split_ifs with hfailed hblocked hwaiting
    · simp [hfailed]
    · simp [hblocked]
    · simp [hfailed, hblocked]
    · simp [hfailed, hblocked]

/-- What the state of an upstream task says about the list. -/
structure StatesExact (tasks : List SmartQueueTaskInput)
    (dependencies : List SmartQueueDependency) (visiting : List String) (id : String) : Prop where
  failed : stateOrBlocked (upstreamState tasks (dependencyMap dependencies) visiting id) =
    .dependencyFailed ↔ IsFailedTask tasks id
  blocked : stateOrBlocked (upstreamState tasks (dependencyMap dependencies) visiting id) =
    .dependencyBlocked ↔ IsMissingTask tasks id ∨ HasLifecycle tasks id .blocked ∨
      (IsOpenTask tasks id ∧ BlocksFrom tasks dependencies visiting id)
  satisfied : stateOrBlocked (upstreamState tasks (dependencyMap dependencies) visiting id) =
    .satisfied ↔ HasLifecycle tasks id .closed

/-- A task that is open blocks when the walk from it, with itself on the way, finds a failed or
a blocked upstream task. -/
theorem state_blocked {visiting : List String} {t : SmartQueueTaskInput} {ht : t ∈ tasks}
    (hbelow : t.taskId ∉ visiting →
      ∀ id, StatesExact tasks dependencies (t.taskId :: visiting) id) :
    (computeUpstreamDependencyState tasks (dependencyMap dependencies) visiting t ht).state =
        .dependencyBlocked ↔
      t.lifecycle = .blocked ∨
        (t.lifecycle.isOpen ∧ BlocksFrom tasks dependencies visiting t.taskId) := by
  by_cases hopen : t.lifecycle.isOpen
  · have hnot : t.lifecycle ≠ .blocked := hopen.2.2.2
    simp only [hnot, hopen, false_or, true_and]
    by_cases hvisited : t.taskId ∈ visiting
    · rw [state_of_visited hopen hvisited]
      exact iff_of_true rfl (.inl hvisited)
    · rw [state_of_open hopen hvisited, blocksFrom_step hvisited]
      have hstates := hbelow hvisited
      have hids : (∃ id ∈ dependencyMap dependencies t.taskId,
          stateOrBlocked (upstreamState tasks (dependencyMap dependencies)
              (t.taskId :: visiting) id) = .dependencyFailed ∨
            stateOrBlocked (upstreamState tasks (dependencyMap dependencies)
              (t.taskId :: visiting) id) = .dependencyBlocked) ↔
          Stops tasks dependencies t.taskId ∨
            ∃ up, OpenEdge tasks dependencies t.taskId up ∧
              BlocksFrom tasks dependencies (t.taskId :: visiting) up := by
        simp only [(hstates _).failed, (hstates _).blocked, mem_dependencyMap]
        constructor
        · rintro ⟨id, hid, hfailed | hmissing | hblocked | ⟨hup, hpath⟩⟩
          · exact .inl ⟨id, hid, .inl hfailed⟩
          · exact .inl ⟨id, hid, .inr (.inr hmissing)⟩
          · exact .inl ⟨id, hid, .inr (.inl hblocked)⟩
          · exact .inr ⟨id, ⟨hid, hup⟩, hpath⟩
        · rintro (⟨id, hid, hfailed | hblocked | hmissing⟩ | ⟨id, ⟨hid, hup⟩, hpath⟩)
          · exact ⟨id, hid, .inl hfailed⟩
          · exact ⟨id, hid, .inr (.inr (.inl hblocked))⟩
          · exact ⟨id, hid, .inr (.inl hmissing)⟩
          · exact ⟨id, hid, .inr (.inr (.inr ⟨hup, hpath⟩))⟩
      rw [← hids]
      split_ifs with hstop
      · exact iff_of_true rfl (gate_stops.1 hstop)
      · exact iff_of_false (by simp) fun hfound => hstop (gate_stops.2 hfound)
  · simp only [hopen, false_and, or_false]
    rw [computeUpstreamDependencyState]
    unfold SmartQueueTaskLifecycle.isOpen at hopen
    cases hl : t.lifecycle <;> simp_all

variable (hdistinct : (tasks.map (·.taskId)).Nodup)

include hdistinct

/-- What the list says of an id is what its task says. -/
theorem hasLifecycle_iff {t : SmartQueueTaskInput} (ht : t ∈ tasks)
    {l : SmartQueueTaskLifecycle} : HasLifecycle tasks t.taskId l ↔ t.lifecycle = l := by
  constructor
  · rintro ⟨u, hu, hid, rfl⟩
    rw [List.inj_on_of_nodup_map hdistinct hu ht hid]
  · intro hl
    exact ⟨t, ht, rfl, hl⟩

theorem isOpenTask_iff {t : SmartQueueTaskInput} (ht : t ∈ tasks) :
    IsOpenTask tasks t.taskId ↔ t.lifecycle.isOpen := by
  simp only [IsOpenTask, hasLifecycle_iff hdistinct ht]
  exact ⟨fun ⟨_, hopen, hl⟩ => hl ▸ hopen, fun hopen => ⟨_, hopen, rfl⟩⟩

theorem isFailedTask_iff {t : SmartQueueTaskInput} (ht : t ∈ tasks) :
    IsFailedTask tasks t.taskId ↔ t.lifecycle = .failed ∨ t.lifecycle = .cancelled := by
  simp only [IsFailedTask, hasLifecycle_iff hdistinct ht]

/-- **The walk is exact**: what it finds for an id, with some tasks on the way. -/
theorem statesExact (visiting : List String) (id : String) :
    StatesExact tasks dependencies visiting id := by
  induction hn : Search.offPath (tasks.map (·.taskId)) visiting using Nat.strong_induction_on
    generalizing visiting id with
  | _ n ih =>
    subst hn
    cases hfind : taskById tasks id with
    | none =>
      have hmissing : IsMissingTask tasks id := fun t ht => mapGet_eq_none.1 hfind _
        (List.mem_map_of_mem (f := fun t => (t.taskId, t)) ht)
      have hno : ∀ l, ¬ HasLifecycle tasks id l := fun l ⟨t, ht, hid, _⟩ => hmissing t ht hid
      have hstate : upstreamState tasks (dependencyMap dependencies) visiting id = none := by
        unfold upstreamState
        split
        · rfl
        · rename_i next hnext
          rw [hfind] at hnext
          cases hnext
      refine ⟨?_, ?_, ?_⟩
      · simp [hstate, stateOrBlocked, IsFailedTask, hno]
      · simp [hstate, stateOrBlocked, hmissing]
      · simp [hstate, stateOrBlocked, hno]
    | some t =>
      obtain ⟨ht, rfl⟩ := (taskById_eq_some hdistinct).1 hfind
      have hstate : stateOrBlocked
          (upstreamState tasks (dependencyMap dependencies) visiting t.taskId) =
          (computeUpstreamDependencyState tasks (dependencyMap dependencies) visiting t
            ht).state := by
        unfold upstreamState
        split
        · rename_i hnone
          rw [hfind] at hnone
          cases hnone
        · rename_i next hnext
          have hsame : next = t := Option.some.inj (hnext.symm.trans hfind)
          subst hsame
          rfl
      have hpresent : ¬ IsMissingTask tasks t.taskId := fun h => h t ht rfl
      have hbelow : t.taskId ∉ visiting →
          ∀ id, StatesExact tasks dependencies (t.taskId :: visiting) id := fun hnew id =>
        ih _ (Search.offPath_lt hnew (List.mem_map_of_mem ht)) _ id rfl
      refine ⟨?_, ?_, ?_⟩
      · rw [hstate, state_failed, isFailedTask_iff hdistinct ht]
      · rw [hstate, state_blocked hbelow, hasLifecycle_iff hdistinct ht,
          isOpenTask_iff hdistinct ht]
        simp [hpresent]
      · rw [hstate, computeUpstreamDependencyState_satisfied, hasLifecycle_iff hdistinct ht]

end Walk

/-! ## The gate -/

/-- What each value of a gate says: the first of these that is the case. -/
structure GateIsExact (tasks : List SmartQueueTaskInput)
    (dependencies : List SmartQueueDependency) (id : String)
    (gate : SmartQueueDependencyGateValue) : Prop where
  none : gate = .none ↔ ¬ ∃ up, DependsOn dependencies id up
  failed : gate = .failed ↔ FailedUpstream tasks dependencies id
  blocked : gate = .blocked ↔
    ¬ FailedUpstream tasks dependencies id ∧ BlockedUpstream tasks dependencies id
  waiting : gate = .waiting ↔
    ¬ FailedUpstream tasks dependencies id ∧ ¬ BlockedUpstream tasks dependencies id ∧
      OpenUpstream tasks dependencies id
  satisfied : gate = .satisfied ↔
    ¬ FailedUpstream tasks dependencies id ∧ ¬ BlockedUpstream tasks dependencies id ∧
      ¬ OpenUpstream tasks dependencies id ∧ ∃ up, DependsOn dependencies id up

theorem GateIsExact.unique {tasks : List SmartQueueTaskInput}
    {dependencies : List SmartQueueDependency} {id : String}
    {gate gate' : SmartQueueDependencyGateValue} (h : GateIsExact tasks dependencies id gate)
    (h' : GateIsExact tasks dependencies id gate') : gate = gate' := by
  cases gate with
  | none => exact (h'.none.2 (h.none.1 rfl)).symm
  | failed => exact (h'.failed.2 (h.failed.1 rfl)).symm
  | blocked => exact (h'.blocked.2 (h.blocked.1 rfl)).symm
  | waiting => exact (h'.waiting.2 (h.waiting.1 rfl)).symm
  | satisfied => exact (h'.satisfied.2 (h.satisfied.1 rfl)).symm

theorem gateIsExact_compute {tasks : List SmartQueueTaskInput}
    (hdistinct : (tasks.map (·.taskId)).Nodup) (dependencies : List SmartQueueDependency)
    (task : SmartQueueTaskInput) :
    GateIsExact tasks dependencies task.taskId
      (computeSmartQueueDependencyGate task tasks dependencies).gate := by
  have hgate : (computeSmartQueueDependencyGate task tasks dependencies).gate =
      (gateForUpstreams (dependencyMap dependencies task.taskId)
        (upstreamState tasks (dependencyMap dependencies) [])).gate := rfl
  have hstates : ∀ id, StatesExact tasks dependencies [] id := statesExact hdistinct []
  have hids : dependencyMap dependencies task.taskId = [] ↔
      ¬ ∃ up, DependsOn dependencies task.taskId up := by
    simp only [List.eq_nil_iff_forall_not_mem, mem_dependencyMap, DependsOn, not_exists]
  have hfailed : (∃ id ∈ dependencyMap dependencies task.taskId,
      stateOrBlocked (upstreamState tasks (dependencyMap dependencies) [] id) =
        .dependencyFailed) ↔ FailedUpstream tasks dependencies task.taskId := by
    simp only [(hstates _).failed, mem_dependencyMap, FailedUpstream, DependsOn]
  have hblocked : (∃ id ∈ dependencyMap dependencies task.taskId,
      stateOrBlocked (upstreamState tasks (dependencyMap dependencies) [] id) =
        .dependencyBlocked) ↔ BlockedUpstream tasks dependencies task.taskId := by
    simp only [(hstates _).blocked, mem_dependencyMap, BlockedUpstream, DependsOn, blocksFrom_nil]
  have hnotClosed : (∃ id ∈ dependencyMap dependencies task.taskId,
      stateOrBlocked (upstreamState tasks (dependencyMap dependencies) [] id) ≠
        .satisfied) ↔ OpenUpstream tasks dependencies task.taskId := by
    simp only [ne_eq, (hstates _).satisfied, mem_dependencyMap, OpenUpstream, DependsOn]
  have hwaiting : ¬ FailedUpstream tasks dependencies task.taskId →
      ¬ BlockedUpstream tasks dependencies task.taskId →
      ((∃ id ∈ dependencyMap dependencies task.taskId,
        stateOrBlocked (upstreamState tasks (dependencyMap dependencies) [] id) =
          .waitingDependency) ↔ OpenUpstream tasks dependencies task.taskId) := by
    intro hnotFailed hnotBlocked
    rw [← hnotClosed]
    rw [← hfailed] at hnotFailed
    rw [← hblocked] at hnotBlocked
    refine exists_congr fun id => and_congr_right fun hid => ?_
    cases hs : stateOrBlocked (upstreamState tasks (dependencyMap dependencies) [] id) with
    | dependencyFailed => exact absurd ⟨id, hid, hs⟩ hnotFailed
    | dependencyBlocked => exact absurd ⟨id, hid, hs⟩ hnotBlocked
    | waitingDependency => simp
    | satisfied => simp
  have hnone : (¬ ∃ up, DependsOn dependencies task.taskId up) →
      ¬ FailedUpstream tasks dependencies task.taskId ∧
        ¬ BlockedUpstream tasks dependencies task.taskId ∧
        ¬ OpenUpstream tasks dependencies task.taskId := fun h =>
    ⟨fun ⟨up, hup, _⟩ => h ⟨up, hup⟩, fun ⟨up, hup, _⟩ => h ⟨up, hup⟩,
      fun ⟨up, hup, _⟩ => h ⟨up, hup⟩⟩
  have hsome : FailedUpstream tasks dependencies task.taskId →
      ∃ up, DependsOn dependencies task.taskId up := fun ⟨up, hup, _⟩ => ⟨up, hup⟩
  rw [hgate, gate_gateForUpstreams]
  split_ifs with h₁ h₂ h₃ h₄
  · rw [hids] at h₁
    have hnot := hnone h₁
    constructor <;> simp [h₁, hnot]
  · rw [hfailed] at h₂
    have hup := hsome h₂
    constructor <;> simp [h₂, hup]
  · rw [hids, not_not] at h₁
    rw [hfailed] at h₂
    rw [hblocked] at h₃
    constructor <;> simp [h₁, h₂, h₃]
  · rw [hids, not_not] at h₁
    rw [hfailed] at h₂
    rw [hblocked] at h₃
    rw [hwaiting h₂ h₃] at h₄
    constructor <;> simp [h₁, h₂, h₃, h₄]
  · rw [hids, not_not] at h₁
    rw [hfailed] at h₂
    rw [hblocked] at h₃
    rw [hwaiting h₂ h₃] at h₄
    constructor <;> simp [h₁, h₂, h₃, h₄]

/-! ## The order of the lists -/

/-- What a gate says does not depend on the order of the lists. -/
theorem GateIsExact.perm {tasks tasks' : List SmartQueueTaskInput}
    {dependencies dependencies' : List SmartQueueDependency} {id : String}
    {gate : SmartQueueDependencyGateValue} (htasks : tasks'.Perm tasks)
    (hdependencies : dependencies'.Perm dependencies)
    (h : GateIsExact tasks' dependencies' id gate) : GateIsExact tasks dependencies id gate := by
  have hdepends : DependsOn dependencies' = DependsOn dependencies := by
    funext down up
    exact propext hdependencies.mem_iff
  have hlifecycle : HasLifecycle tasks' = HasLifecycle tasks := by
    funext id l
    simp only [HasLifecycle, htasks.mem_iff]
  have hmissing : IsMissingTask tasks' = IsMissingTask tasks := by
    funext id
    simp only [IsMissingTask, htasks.mem_iff]
  have hopen : IsOpenTask tasks' = IsOpenTask tasks := by
    funext id
    simp only [IsOpenTask, hlifecycle]
  have hfailed : IsFailedTask tasks' = IsFailedTask tasks := by
    funext id
    simp only [IsFailedTask, hlifecycle]
  have hedge : OpenEdge tasks' dependencies' = OpenEdge tasks dependencies := by
    funext down up
    simp only [OpenEdge, hdepends, hopen]
  have hstops : Stops tasks' dependencies' = Stops tasks dependencies := by
    funext id
    simp only [Stops, hdepends, hfailed, hlifecycle, hmissing]
  have hblocks : Blocks tasks' dependencies' = Blocks tasks dependencies := by
    funext id
    simp only [Blocks, hedge, hstops]
  have hfailedUp : FailedUpstream tasks' dependencies' = FailedUpstream tasks dependencies := by
    funext id
    simp only [FailedUpstream, hdepends, hfailed]
  have hblockedUp : BlockedUpstream tasks' dependencies' =
      BlockedUpstream tasks dependencies := by
    funext id
    simp only [BlockedUpstream, hdepends, hmissing, hlifecycle, hopen, hblocks]
  have hopenUp : OpenUpstream tasks' dependencies' = OpenUpstream tasks dependencies := by
    funext id
    simp only [OpenUpstream, hdepends, hlifecycle]
  obtain ⟨h₁, h₂, h₃, h₄, h₅⟩ := h
  rw [hdepends] at h₁ h₅
  rw [hfailedUp] at h₂ h₃ h₄ h₅
  rw [hblockedUp] at h₃ h₄ h₅
  rw [hopenUp] at h₄ h₅
  exact ⟨h₁, h₂, h₃, h₄, h₅⟩

/-- **The gate is exact.** For tasks with distinct ids and any dependencies, the gate of a task
is failed when an upstream task is failed or cancelled; otherwise blocked when one is missing
or blocked, or is open and a path through open tasks leads from it to a task that is failed,
cancelled, blocked or missing, or into a cycle; otherwise waiting when one is not closed;
otherwise satisfied, or none without dependencies. It is the same for every order of the tasks
and of the dependencies. -/
theorem computeSmartQueueDependencyGate_exact (task : SmartQueueTaskInput)
    (tasks : List SmartQueueTaskInput) (dependencies : List SmartQueueDependency)
    (hdistinct : (tasks.map (·.taskId)).Nodup) :
    GateIsExact tasks dependencies task.taskId
        (computeSmartQueueDependencyGate task tasks dependencies).gate ∧
      ∀ tasks' dependencies', tasks'.Perm tasks → dependencies'.Perm dependencies →
        (computeSmartQueueDependencyGate task tasks' dependencies').gate =
          (computeSmartQueueDependencyGate task tasks dependencies).gate := by
  have hexact := gateIsExact_compute hdistinct dependencies task
  refine ⟨hexact, fun tasks' dependencies' htasks hdependencies => ?_⟩
  have hdistinct' : (tasks'.map (·.taskId)).Nodup :=
    (htasks.map (·.taskId)).nodup_iff.2 hdistinct
  have hexact' := gateIsExact_compute hdistinct' dependencies' task
  exact (hexact'.perm htasks hdependencies).unique hexact

/-- Three open tasks, two of which depend on each other. -/
theorem gate_of_task_behind_cycle :
    let task (id : String) : SmartQueueTaskInput := ⟨id, id, .ready, []⟩
    (computeSmartQueueDependencyGate (task "c") [task "a", task "b", task "c"]
      [⟨"a", "b"⟩, ⟨"b", "a"⟩, ⟨"b", "c"⟩]).gate = .blocked := by
  intro task
  have hexact := (computeSmartQueueDependencyGate_exact (task "c")
    [task "a", task "b", task "c"] [⟨"a", "b"⟩, ⟨"b", "a"⟩, ⟨"b", "c"⟩] (by decide)).1
  have hlifecycle : ∀ id l, HasLifecycle [task "a", task "b", task "c"] id l → l = .ready := by
    rintro id l ⟨t, ht, -, rfl⟩
    simp only [List.mem_cons, List.not_mem_nil, or_false] at ht
    rcases ht with rfl | rfl | rfl <;> rfl
  have hopen : ∀ id ∈ ["a", "b", "c"], IsOpenTask [task "a", task "b", task "c"] id := by
    intro id hid
    refine ⟨.ready, by simp [SmartQueueTaskLifecycle.isOpen], ⟨task id, ?_, rfl, rfl⟩⟩
    simpa [task] using hid
  refine hexact.blocked.2
    ⟨?_, "b", by simp [DependsOn, task], .inr (.inr ⟨hopen "b" (by simp), ?_⟩)⟩
  · rintro ⟨up, -, hfailed | hcancelled⟩
    · cases hlifecycle _ _ hfailed
    · cases hlifecycle _ _ hcancelled
  · refine ⟨"b", .refl, .inr (.head' ⟨by simp [DependsOn], hopen "a" (by simp)⟩ ?_)⟩
    exact .single ⟨by simp [DependsOn], hopen "b" (by simp)⟩

end HobitQueue.Frontend
