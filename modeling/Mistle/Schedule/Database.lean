import Mistle.Lib.Rows
import Mistle.Lib.WorkflowRuns
import Mistle.Lib.Json

/-!
# Schedule Tables

The rows of the control plane database that scheduling reads and writes, and the
workflow runs that it starts. An instant is a number of milliseconds.

A text column that the code compares with constants keeps its text where the code
has a branch for a text it does not know, as it has for a target type.

## Main definitions

* `Schedule`, `ScheduledAction`: A schedule and an action it has scheduled.
* `ScheduleTrigger`, `Trigger`, `TriggerTarget`, `SnapshotRefreshScheduleTarget`: What
  a schedule is for.
* `TriggerRun`: The run of a trigger that an action is handed off to.
* `ScheduleTargets`, `ControlPlane`: The tables, and the workflow runs.
-/

namespace Mistle

abbrev Instant := Int

inductive ScheduledActionStatus where
  | pending
  | dispatching
  | dispatched
  | failed
  | skippedLate
  deriving DecidableEq

inductive ScheduleKind where
  | recurring
  | oneOff
  deriving DecidableEq

inductive ScheduleTargetType where
  | triggerRun
  | snapshotRefresh
  deriving DecidableEq

def ScheduleTargetType.text : ScheduleTargetType → String
  | .triggerRun => "trigger_run"
  | .snapshotRefresh => "sandbox_profile_snapshot_refresh"

structure Schedule where
  id : String
  organizationId : String
  targetType : String
  kind : ScheduleKind
  cronExpression : Option String
  timezone : Option String
  enabled : Bool
  nextScheduledAt : Option Instant
  lastScheduledAt : Option Instant
  endAt : Option Instant
  deletedAt : Option Instant

structure ScheduledAction where
  id : String
  scheduleId : String
  organizationId : String
  targetType : String
  targetPayload : Json String
  scheduledAt : Instant
  localScheduledDate : String
  localScheduledTime : String
  status : ScheduledActionStatus := .pending
  dispatchingAt : Option Instant := none
  dispatchClaimKey : Option String := none
  dispatchedAt : Option Instant := none
  failedAt : Option Instant := none
  skippedAt : Option Instant := none
  skippedFromScheduledAt : Option Instant := none
  skippedUntilScheduledAt : Option Instant := none
  targetWorkflowId : Option String := none
  targetWorkflowStartedAt : Option Instant := none
  failureCode : Option String := none
  failureMessage : Option String := none

structure ScheduleTrigger where
  scheduleId : String
  triggerId : String

structure SnapshotRefreshScheduleTarget where
  scheduleId : String
  sandboxProfileId : String
  sandboxProfileVersion : Int

structure Trigger where
  id : String
  organizationId : String
  enabled : Bool

structure TriggerTarget where
  id : String
  triggerId : String

structure TriggerRun where
  id : String
  triggerId : String
  triggerTargetId : Option String
  sourceScheduledActionId : Option String

/-- The inputs of the workflows that scheduling starts. -/
inductive ScheduleWorkflowInput where
  | handleTriggerRun (triggerRunId : String)
  | scheduleDispatchBatch (scheduledActionIds : List String)

/-- The tables that say what a schedule is for. -/
structure ScheduleTargets where
  scheduleTriggers : List ScheduleTrigger
  snapshotRefreshScheduleTargets : List SnapshotRefreshScheduleTarget
  triggers : List Trigger
  triggerTargets : List TriggerTarget

/-- The tables and workflow runs of the control plane. A snapshot refresh is handed to
    the data plane; kept here are the actions that were. -/
structure ControlPlane where
  schedules : List Schedule
  targets : ScheduleTargets
  scheduledActions : List ScheduledAction
  triggerRuns : List TriggerRun
  workflowRuns : List (WorkflowRun ScheduleWorkflowInput)
  snapshotRefreshHandoffs : List String

end Mistle
