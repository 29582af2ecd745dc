import HobitQueue.Service.Basic

/-!
# Lifecycle states of tasks and runs

The states a task row and a run link may be in, and what each of them allows.
The store keeps the text of a state; the types below are what the service reads
the text as.
-/

namespace HobitQueue

/-- Task states, with the operations they allow. -/
inductive AgentQueueTaskLifecycleStatus where
  | draft | queued | ready | running | completed | failed | cancelled | reviewNeeded
  deriving DecidableEq, Repr

namespace AgentQueueTaskLifecycleStatus

def fromCurrentStatus : String → Option AgentQueueTaskLifecycleStatus
  | "draft" => some draft
  | "queued" => some queued
  | "ready" => some ready
  | "running" => some running
  | "completed" => some completed
  | "failed" => some failed
  | "cancelled" => some cancelled
  | "review_needed" => some reviewNeeded
  | _ => none

def asStr : AgentQueueTaskLifecycleStatus → String
  | draft => "draft"
  | queued => "queued"
  | ready => "ready"
  | running => "running"
  | completed => "completed"
  | failed => "failed"
  | cancelled => "cancelled"
  | reviewNeeded => "review_needed"

/-- Every state reads back from its text. -/
@[simp] theorem fromCurrentStatus_asStr (status : AgentQueueTaskLifecycleStatus) :
    fromCurrentStatus status.asStr = some status := by
  cases status <;> rfl

def requiresPrompt (status : AgentQueueTaskLifecycleStatus) : Bool := status != draft

def isTerminal : AgentQueueTaskLifecycleStatus → Bool
  | completed | failed | cancelled => true
  | _ => false

def allowsAssignment (status : AgentQueueTaskLifecycleStatus) : Bool :=
  !status.isTerminal && status != running

def allowsAssignmentClear (status : AgentQueueTaskLifecycleStatus) : Bool := status != running

def allowsExplicitAssignedStart : AgentQueueTaskLifecycleStatus → Bool
  | queued | ready | reviewNeeded => true
  | _ => false

def allowsDeletion (status : AgentQueueTaskLifecycleStatus) : Bool := status != running

end AgentQueueTaskLifecycleStatus

/-- The text of a state allows what the state allows; an unknown text allows nothing. -/
def statusAllows (allows : AgentQueueTaskLifecycleStatus → Bool) (status : String) : Bool :=
  ((AgentQueueTaskLifecycleStatus.fromCurrentStatus status).map allows).getD false

/-- How a task may be started. -/
inductive AgentQueueTaskExecutionPolicy where
  | manual | auto | afterPreviousSuccess
  deriving DecidableEq, Repr

namespace AgentQueueTaskExecutionPolicy

def fromCurrentPolicy : String → Option AgentQueueTaskExecutionPolicy
  | "manual" => some manual
  | "auto" => some auto
  | "after_previous_success" => some afterPreviousSuccess
  | _ => none

def asStr : AgentQueueTaskExecutionPolicy → String
  | manual => "manual"
  | auto => "auto"
  | afterPreviousSuccess => "after_previous_success"

def defaultForNewTask : AgentQueueTaskExecutionPolicy := manual

end AgentQueueTaskExecutionPolicy

/-- Where a run was started. -/
inductive AgentQueueTaskRunSource where
  | manual | autorun | sequentialRunner | unknown
  deriving DecidableEq, Repr

def AgentQueueTaskRunSource.fromCurrentSource : String → AgentQueueTaskRunSource
  | "manual" => manual
  | "autorun" => autorun
  | "sequential_runner" => sequentialRunner
  | _ => unknown

def AgentQueueTaskRunSource.asStr : AgentQueueTaskRunSource → String
  | manual => "manual"
  | autorun => "autorun"
  | sequentialRunner => "sequential_runner"
  | unknown => "unknown"

/-- The states of a run link. -/
inductive AgentQueueTaskRunStatus where
  | running | completed | failed | timedOut | cancelled | reviewNeeded | unknown
  deriving DecidableEq, Repr

namespace AgentQueueTaskRunStatus

def fromCurrentStatus : String → AgentQueueTaskRunStatus
  | "running" => running
  | "completed" => completed
  | "failed" => failed
  | "timed_out" => timedOut
  | "cancelled" => cancelled
  | "review_needed" => reviewNeeded
  | _ => unknown

def asStr : AgentQueueTaskRunStatus → String
  | running => "running"
  | completed => "completed"
  | failed => "failed"
  | timedOut => "timed_out"
  | cancelled => "cancelled"
  | reviewNeeded => "review_needed"
  | unknown => "unknown"

@[simp] theorem fromCurrentStatus_asStr (status : AgentQueueTaskRunStatus) :
    fromCurrentStatus status.asStr = status := by
  cases status <;> rfl

end AgentQueueTaskRunStatus

/-- The review of a run. -/
inductive AgentQueueTaskRunReviewStatus where
  | reviewNeeded | unknown
  deriving DecidableEq, Repr

def AgentQueueTaskRunReviewStatus.fromCurrentStatus : String → AgentQueueTaskRunReviewStatus
  | "review_needed" => reviewNeeded
  | _ => unknown

def AgentQueueTaskRunReviewStatus.asStr : AgentQueueTaskRunReviewStatus → String
  | reviewNeeded => "review_needed"
  | unknown => "unknown"

/-- The task state a Direct Work run ends in. -/
def mapDirectWorkFinalStatusToQueueStatus (directWorkStatus : String) :
    Except WorkspaceServiceError AgentQueueTaskLifecycleStatus :=
  match directWorkStatus with
  | "completed" => .ok .completed
  | "cancelled" => .ok .cancelled
  | "failed" | "timed_out" => .ok .failed
  | value => .error (.invalidInput
      ("unsupported Direct Work final status for queue task: " ++ value))

end HobitQueue
