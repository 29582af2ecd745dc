import HobitQueue.Lib.Script
import HobitQueue.Service.DirectWork
import Mathlib.Data.Fintype.Basic

/-!
# The active Direct Work runs

The launcher of a Queue worker asks the registry of active runs whether the target of the
worker is busy, and registers the run with a call of its own. The registration refuses equal
run ids only, so a target may get a second run when two launches ask before either registers.
-/

namespace HobitQueue

open Concurrent Script

/-! ## The registry -/

/-- An active run; its cancellation token is not read by a launch. -/
structure DirectWorkActiveRun where
  runId : String
  workspaceId : String
  workbenchId : String
  widgetInstanceId : String
  deriving DecidableEq

/-- The workspace, the workbench and the widget of a run. -/
def DirectWorkActiveRun.target (run : DirectWorkActiveRun) : String × String × String :=
  (run.workspaceId, run.workbenchId, run.widgetInstanceId)

/-- The active runs, one for each run id. -/
structure DirectWorkActiveRunRegistry where
  runs : List DirectWorkActiveRun

namespace DirectWorkActiveRunRegistry

variable (r : DirectWorkActiveRunRegistry)

def hasActiveRun (runId : String) : Bool := r.runs.any (·.runId == runId)

def hasActiveWidgetRun (workspaceId workbenchId widgetInstanceId : String) : Bool :=
  r.runs.any (·.target == (workspaceId, workbenchId, widgetInstanceId))

def tryRegister (run : DirectWorkActiveRun) : Bool × DirectWorkActiveRunRegistry :=
  if r.hasActiveRun run.runId then (false, r) else (true, ⟨r.runs ++ [run]⟩)

def unregister (runId : String) : DirectWorkActiveRunRegistry :=
  ⟨r.runs.filter (·.runId != runId)⟩

end DirectWorkActiveRunRegistry

/-! ## The launcher -/

structure QueueDirectWorkLaunch where
  workspaceId : String
  queueItemId : String
  runId : String
  runLinkId : Option String
  directWorkInput : RunCodexDirectWorkInput

inductive QueueDirectWorkLaunchStatus where
  | spawned | alreadyActive | blockedActiveWidget
  deriving DecidableEq

def QueueDirectWorkLaunch.activeRun (launch : QueueDirectWorkLaunch) : DirectWorkActiveRun :=
  ⟨launch.runId, launch.directWorkInput.workspaceId, launch.directWorkInput.workbenchId,
    launch.directWorkInput.widgetInstanceId⟩

/-- The calls of a launch: the methods of the registry, the end of the run in the store, and
the run of the worker. -/
inductive LauncherCall where
  | hasActiveRun (runId : String)
  | hasActiveWidgetRun (workspaceId workbenchId widgetInstanceId : String)
  | tryRegister (run : DirectWorkActiveRun)
  | unregister (runId : String)
  | finishQueueDirectWorkLaunch (launch : QueueDirectWorkLaunch) (directWorkStatus : String)
  | runQueueDirectWorkBackground (launch : QueueDirectWorkLaunch)

abbrev LauncherCall.Answer : LauncherCall → Type
  | hasActiveRun _ | hasActiveWidgetRun .. | tryRegister _ => Bool
  | unregister _ => Unit
  | finishQueueDirectWorkLaunch .. | runQueueDirectWorkBackground _ => Except String Unit

/-- What the store and the worker answer. -/
structure LauncherOutside where
  finishQueueDirectWorkLaunch : QueueDirectWorkLaunch → String → Except String Unit
  runQueueDirectWorkBackground : QueueDirectWorkLaunch → Except String Unit

/-- What a call does. -/
def DirectWorkActiveRunRegistry.handle (o : LauncherOutside) (c : LauncherCall)
    (r : DirectWorkActiveRunRegistry) : c.Answer × DirectWorkActiveRunRegistry :=
  match c with
  | .hasActiveRun runId => (r.hasActiveRun runId, r)
  | .hasActiveWidgetRun workspaceId workbenchId widgetInstanceId =>
      (r.hasActiveWidgetRun workspaceId workbenchId widgetInstanceId, r)
  | .tryRegister run => r.tryRegister run
  | .unregister runId => ((), r.unregister runId)
  | .finishQueueDirectWorkLaunch launch status => (o.finishQueueDirectWorkLaunch launch status, r)
  | .runQueueDirectWorkBackground launch => (o.runQueueDirectWorkBackground launch, r)

abbrev LauncherScript (α : Type) : Type := Script LauncherCall LauncherCall.Answer α

def callLauncher (c : LauncherCall) : LauncherScript c.Answer := perform c

/-- A launch, with the run it leaves behind. -/
def spawnQueueDirectWorkBackgroundRun (launch : QueueDirectWorkLaunch) :
    LauncherScript (Except String QueueDirectWorkLaunchStatus) := do
  if ← callLauncher (.hasActiveRun launch.runId) then
    return .ok .alreadyActive
  if ← callLauncher (.hasActiveWidgetRun launch.directWorkInput.workspaceId
      launch.directWorkInput.workbenchId launch.directWorkInput.widgetInstanceId) then
    match ← callLauncher (.finishQueueDirectWorkLaunch launch "failed") with
    | .error e => return .error e
    | .ok () => return .ok .blockedActiveWidget
  let registered ← callLauncher (.tryRegister launch.activeRun)
  if !registered then
    return .ok .alreadyActive
  return .ok .spawned

/-- A launch, and the run in the background: it is unregistered when it is over. -/
def launchScript (launch : QueueDirectWorkLaunch) : LauncherScript Unit := do
  match ← spawnQueueDirectWorkBackgroundRun launch with
  | .ok .spawned =>
    let _ ← callLauncher (.runQueueDirectWorkBackground launch)
    callLauncher (.unregister launch.runId)
  | _ => pure ()

/-! ## The protocol of a launch -/

/-- How far a launch is. -/
inductive LaunchPhase where
  | fresh
  /-- The run id was free. -/
  | named (runId : String)
  /-- The target was free, and the run is about to be registered. -/
  | checked (run : DirectWorkActiveRun)
  /-- The launch registers nothing more. -/
  | over
  deriving DecidableEq

namespace LaunchPhase

def Allows : LaunchPhase → LauncherCall → Prop
  | fresh, c => match c with
      | .hasActiveRun _ => True
      | _ => False
  | named _, c => match c with
      | .hasActiveWidgetRun .. => True
      | _ => False
  | checked run, c => c = .tryRegister run
  | LaunchPhase.over, c => match c with
      | .unregister _ | .finishQueueDirectWorkLaunch .. | .runQueueDirectWorkBackground _ => True
      | _ => False

def next (g : LaunchPhase) : (c : LauncherCall) → c.Answer → LaunchPhase
  | .hasActiveRun runId, active => if active then LaunchPhase.over else named runId
  | .hasActiveWidgetRun workspaceId workbenchId widgetInstanceId, busy => match busy, g with
      | false, named runId => checked ⟨runId, workspaceId, workbenchId, widgetInstanceId⟩
      | _, _ => LaunchPhase.over
  | _, _ => LaunchPhase.over

/-- The run that a launch is about to register. -/
def pending : LaunchPhase → Option DirectWorkActiveRun
  | checked run => some run
  | _ => none

end LaunchPhase

open LaunchPhase

/-- **A launch follows the protocol.** -/
theorem launchScript_follows (launch : QueueDirectWorkLaunch) :
    (launchScript launch).Follows LaunchPhase.Allows LaunchPhase.next (fun _ _ => True)
      fresh := by
  have hspawn : (spawnQueueDirectWorkBackgroundRun launch).Follows LaunchPhase.Allows
      LaunchPhase.next (fun g _ => g = LaunchPhase.over) fresh := by
    unfold spawnQueueDirectWorkBackgroundRun
    refine follows_perform_bind trivial fun active => ?_
    cases active with
    | true => exact follows_pure rfl
    | false =>
      refine follows_perform_bind trivial fun busy => ?_
      cases busy with
      | true =>
        refine follows_perform_bind trivial fun finished => ?_
        cases finished with
        | error e => exact follows_pure rfl
        | ok => exact follows_pure rfl
      | false =>
        refine follows_perform_bind rfl fun registered => ?_
        cases registered with
        | true => exact follows_pure rfl
        | false => exact follows_pure rfl
  refine hspawn.bind ?_
  rintro _ result rfl
  split
  · refine follows_perform_bind trivial fun _ => ?_
    exact follows_perform trivial fun _ => trivial
  · exact follows_pure trivial

/-! ## One run for each target -/

section Launches

variable {ι : Type} [DecidableEq ι]

abbrev LauncherLog (ι : Type) : Type := List (Event ι LauncherCall LauncherCall.Answer)

/-- A launch asks whether its target is busy while no launch of another run is between its
question and its registration for the same target. -/
def AsksAlone (_ : DirectWorkActiveRunRegistry) (log : LauncherLog ι) (i : ι)
    (c : LauncherCall) : Prop :=
  match c with
  | .hasActiveWidgetRun workspaceId workbenchId widgetInstanceId =>
      ∀ j, ∀ run ∈ (phase LaunchPhase.next fresh log j).pending,
        run.target = (workspaceId, workbenchId, widgetInstanceId) →
          phase LaunchPhase.next fresh log i = named run.runId
  | _ => True

instance [Fintype ι] (r : DirectWorkActiveRunRegistry) (log : LauncherLog ι) (i : ι)
    (c : LauncherCall) : Decidable (AsksAlone r log i c) := by
  cases c <;> dsimp only [AsksAlone] <;> infer_instance

/-- No two active runs of one target have different run ids. -/
def OneRunPerTarget (r : DirectWorkActiveRunRegistry) : Prop :=
  ∀ a ∈ r.runs, ∀ b ∈ r.runs, a.target = b.target → a.runId = b.runId

instance (r : DirectWorkActiveRunRegistry) : Decidable (OneRunPerTarget r) :=
  inferInstanceAs (Decidable (∀ a ∈ r.runs, ∀ b ∈ r.runs, _ → _))

/-- The active runs and those that are about to be registered have one run id for each
target. -/
structure LaunchesApart (r : DirectWorkActiveRunRegistry) (phases : ι → LaunchPhase) : Prop where
  active : OneRunPerTarget r
  pending_active : ∀ i, ∀ run ∈ (phases i).pending, ∀ a ∈ r.runs, a.target = run.target →
    a.runId = run.runId
  pending : ∀ i j, ∀ run ∈ (phases i).pending, ∀ run' ∈ (phases j).pending,
    run.target = run'.target → run.runId = run'.runId

/-- Runs that end, and launches that give up, keep the others apart. -/
theorem LaunchesApart.keep {r r' : DirectWorkActiveRunRegistry} {phases : ι → LaunchPhase} {i : ι}
    {g : LaunchPhase} (h : LaunchesApart r phases) (hruns : ∀ a ∈ r'.runs, a ∈ r.runs)
    (hg : g.pending = none) : LaunchesApart r' (Function.update phases i g) := by
  have hpending : ∀ j, ∀ run ∈ (Function.update phases i g j).pending,
      run ∈ (phases j).pending := by
    intro j run hrun
    by_cases hj : j = i
    · subst hj
      rw [Function.update_self, hg] at hrun
      cases hrun
    · rwa [Function.update_of_ne hj] at hrun
  refine ⟨fun a ha b hb => h.active a (hruns a ha) b (hruns b hb), ?_, ?_⟩
  · exact fun j run hrun a ha => h.pending_active j run (hpending j run hrun) a (hruns a ha)
  · exact fun j k run hrun run' hrun' =>
      h.pending j k run (hpending j run hrun) run' (hpending k run' hrun')

/-- A launch that found its target free joins those that are about to register. -/
theorem LaunchesApart.check {r : DirectWorkActiveRunRegistry} {phases : ι → LaunchPhase} {i : ι}
    {run : DirectWorkActiveRun} (h : LaunchesApart r phases)
    (hfree : ∀ a ∈ r.runs, a.target ≠ run.target)
    (hothers : ∀ j, ∀ run' ∈ (phases j).pending, run'.target = run.target →
      run'.runId = run.runId) :
    LaunchesApart r (Function.update phases i (checked run)) := by
  have hpending : ∀ j, ∀ run' ∈ (Function.update phases i (checked run) j).pending,
      run' = run ∨ run' ∈ (phases j).pending := by
    intro j run' hrun'
    by_cases hj : j = i
    · subst hj
      rw [Function.update_self] at hrun'
      exact Or.inl (Option.some.inj hrun').symm
    · rw [Function.update_of_ne hj] at hrun'
      exact Or.inr hrun'
  refine ⟨h.active, ?_, ?_⟩
  · intro j run' hrun' a ha htarget
    obtain rfl | hrun' := hpending j run' hrun'
    · exact absurd htarget (hfree a ha)
    · exact h.pending_active j run' hrun' a ha htarget
  · intro j k a ha b hb htarget
    obtain rfl | ha' := hpending j a ha
    · obtain rfl | hb' := hpending k b hb
      · rfl
      · exact (hothers k b hb' htarget.symm).symm
    · obtain rfl | hb' := hpending k b hb
      · exact hothers j a ha' htarget
      · exact h.pending j k a ha' b hb' htarget

omit [DecidableEq ι] in
/-- A run that is registered was about to be. -/
theorem LaunchesApart.register {r : DirectWorkActiveRunRegistry} {phases : ι → LaunchPhase}
    {i : ι} {run : DirectWorkActiveRun} (h : LaunchesApart r phases)
    (hi : run ∈ (phases i).pending) : LaunchesApart ⟨r.runs ++ [run]⟩ phases := by
  have hmem : ∀ a ∈ r.runs ++ [run], a ∈ r.runs ∨ a = run := by
    intro a ha
    simpa using ha
  refine ⟨?_, ?_, h.pending⟩
  · intro a ha b hb htarget
    obtain ha' | rfl := hmem a ha
    · obtain hb' | rfl := hmem b hb
      · exact h.active a ha' b hb' htarget
      · exact h.pending_active i b hi a ha' htarget
    · obtain hb' | rfl := hmem b hb
      · exact (h.pending_active i a hi b hb' htarget.symm).symm
      · rfl
  · intro j run' hrun' a ha htarget
    obtain ha' | rfl := hmem a ha
    · exact h.pending_active j run' hrun' a ha' htarget
    · exact h.pending i j a hi run' hrun' htarget

/-- **Every call keeps the launches apart**, if a launch asks alone. -/
theorem LaunchesApart.call {r : DirectWorkActiveRunRegistry} {log : LauncherLog ι} {i : ι}
    {c : LauncherCall} (h : LaunchesApart r (phase LaunchPhase.next fresh log))
    (hallowed : (phase LaunchPhase.next fresh log i).Allows c) (hcond : AsksAlone r log i c)
    (o : LauncherOutside) : LaunchesApart (r.handle o c).2
      (phase LaunchPhase.next fresh (log ++ [⟨i, c, (r.handle o c).1⟩])) := by
  rw [Callers.phase_concat]
  dsimp only
  cases c with
  | hasActiveRun runId =>
    refine h.keep (fun _ ha => ha) ?_
    dsimp only [LaunchPhase.next]
    split
    · rfl
    · rfl
  | hasActiveWidgetRun workspaceId workbenchId widgetInstanceId =>
    have hhandle : r.handle o (.hasActiveWidgetRun workspaceId workbenchId widgetInstanceId) =
      (r.hasActiveWidgetRun workspaceId workbenchId widgetInstanceId, r) := rfl
    rw [hhandle]
    cases hphase : phase LaunchPhase.next fresh log i with
    | fresh | checked | «over» => rw [hphase] at hallowed; cases hallowed
    | named runId =>
      cases hbusy : r.hasActiveWidgetRun workspaceId workbenchId widgetInstanceId with
      | true => exact h.keep (fun _ ha => ha) rfl
      | false =>
        refine h.check ?_ ?_
        · intro a ha htarget
          have hnone := List.any_eq_false.1 hbusy a ha
          rw [beq_iff_eq] at hnone
          exact hnone htarget
        · intro j run' hrun' htarget
          have hown := hcond j run' hrun' htarget
          rw [hphase] at hown
          exact (LaunchPhase.named.inj hown).symm
  | tryRegister run =>
    have hrun : run ∈ (phase LaunchPhase.next fresh log i).pending := by
      cases hphase : phase LaunchPhase.next fresh log i with
      | checked run' =>
        rw [hphase] at hallowed
        obtain rfl := LauncherCall.tryRegister.inj hallowed
        rfl
      | fresh | named | «over» => rw [hphase] at hallowed; cases hallowed
    have hhandle : (r.handle o (.tryRegister run)).2 = (r.tryRegister run).2 := rfl
    rw [hhandle, DirectWorkActiveRunRegistry.tryRegister]
    split
    · exact h.keep (fun _ ha => ha) rfl
    · exact (h.register hrun).keep (fun _ ha => ha) rfl
  | unregister runId => exact h.keep (fun _ ha => List.mem_of_mem_filter ha) rfl
  | finishQueueDirectWorkLaunch => exact h.keep (fun _ ha => ha) rfl
  | runQueueDirectWorkBackground => exact h.keep (fun _ ha => ha) rfl

/-- The launches, from a registry without runs. -/
def launcherStart (launches : ι → QueueDirectWorkLaunch) :
    Callers DirectWorkActiveRunRegistry ι LauncherCall LauncherCall.Answer Unit :=
  Callers.start ⟨[]⟩ fun i => launchScript (launches i)

/-- **One run for each target**: in every interleaving of launches and runs that end in which
launches ask alone, no target has two active runs with different run ids. -/
theorem one_run_per_target (launches : ι → QueueDirectWorkLaunch)
    (moves : List (ι × LauncherOutside))
    (h : Machine.Along (Callers.step DirectWorkActiveRunRegistry.handle)
      (Callers.Meets AsksAlone) (launcherStart launches) moves) :
    OneRunPerTarget (Machine.after (Callers.step DirectWorkActiveRunRegistry.handle)
      (launcherStart launches) moves).world := by
  have hcall : ∀ r log (i : ι) c o, (phase LaunchPhase.next fresh log i).Allows c →
      AsksAlone r log i c → LaunchesApart r (phase LaunchPhase.next fresh log) →
      LaunchesApart (DirectWorkActiveRunRegistry.handle o c r).2 (phase LaunchPhase.next fresh
        (log ++ [⟨i, c, (DirectWorkActiveRunRegistry.handle o c r).1⟩])) :=
    fun r log i c o hallowed hcond hapart => hapart.call hallowed hcond o
  have hstart : LaunchesApart (launcherStart launches).world
      (phase LaunchPhase.next fresh (launcherStart launches).log) := by
    constructor
    · simp [OneRunPerTarget, launcherStart, Callers.start]
    · simp [launcherStart, Callers.start]
    · simp [launcherStart, Callers.start, phase, LaunchPhase.pending]
  have hsound : (launcherStart launches).Sound LaunchPhase.next fresh LaunchPhase.Allows
      fun _ _ => True := Callers.sound_start fun i => launchScript_follows (launches i)
  exact (Callers.invariant_after hcall hsound hstart h).1.active

end Launches

/-! ## Two launches for one target -/

/-- Two runs of the target that all local workers of a workspace share. -/
def exampleLaunch (i : Fin 2) : QueueDirectWorkLaunch where
  workspaceId := "ws_1"
  queueItemId := if i = 0 then "task_1" else "task_2"
  runId := if i = 0 then "run_1" else "run_2"
  runLinkId := none
  directWorkInput := ⟨"ws_1", "queue_local_backend", "queue_local:codex", "codex", "repo",
    "prompt", none, "read_only", "never", true, none, none, none⟩

def exampleLauncherOutside : LauncherOutside where
  finishQueueDirectWorkLaunch _ _ := .ok ()
  runQueueDirectWorkBackground _ := .ok ()

/-- The second launch asks when the first has registered, and again nothing is lost. -/
theorem one_run_per_target_example :
    OneRunPerTarget (Machine.after (Callers.step DirectWorkActiveRunRegistry.handle)
      (launcherStart exampleLaunch)
      ([0, 1, 0, 0, 1, 1, 0, 0].map (·, exampleLauncherOutside))).world :=
  one_run_per_target exampleLaunch _ (by decide +kernel)

/-- Both launches ask before either registers, and the target has two active runs. -/
theorem two_runs_for_target :
    ¬ OneRunPerTarget (Machine.after (Callers.step DirectWorkActiveRunRegistry.handle)
      (launcherStart exampleLaunch)
      ([0, 1, 0, 1, 0, 1].map (·, exampleLauncherOutside))).world := by
  decide +kernel

end HobitQueue
