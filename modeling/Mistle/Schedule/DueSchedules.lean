import Mistle.Schedule.Recurrence

/-!
# Due Schedules

A batch of schedules that are due is claimed in one transaction. For each, the action
of the latest occurrence that is due is inserted and the cursor of the schedule moves
on; a schedule that is too late skips what it missed, and one whose target is gone is
deleted. A schedule with no occurrence left is disabled.

An exception rolls the transaction back.

## Main definitions

* `BatchChoice`: What the environment decides in a batch.
* `claimDueScheduleRows`: The schedules that a batch claims.
* `resolveDueScheduleRange`, `resolveSkippedLateRange`: What is due, and what is skipped.
* `consumeClaimedSchedule`: What becomes of a claimed schedule.
* `claimDueScheduleBatch`: A batch.
-/

namespace Mistle

def MinuteMs : Int := 60 * 1000

def CatchUpWindowMs : Int := 24 * 60 * MinuteMs

def ClaimBatchSize : Nat := 500

def MaxDueRangeIterations : Nat := 24 * 60 + 60

def MaxBatchesPerDispatch : Nat := 100

structure ClaimedScheduleRow where
  id : String
  organizationId : String
  targetType : String
  cronExpression : String
  timezone : String
  nextScheduledAt : Instant
  endAt : Option Instant

inductive TargetPayloadResult where
  | resolved (payload : Json String)
  | unresolved (payload : Json String) (failureCode failureMessage : String)

inductive CreatedScheduledAction where
  | pending (id : String)
  | duplicate
  | failed (id : Option String)
  | skippedLate (id : Option String)

structure DispatchDueSchedulesResult where
  pendingScheduledActionIds : List String := []
  claimedScheduleCount : Nat := 0
  backlogFastForwardedCount : Nat := 0
  createdScheduledActionCount : Nat := 0
  duplicateScheduledActionCount : Nat := 0
  failedScheduledActionCount : Nat := 0
  skippedLateCount : Nat := 0
  reachedMaxBatches : Bool := false

/-- What the environment decides in a batch: the schedules that others have locked, the
    time and the id of the action that a schedule gets, and how ids are ordered. -/
structure BatchChoice where
  locked : String → Bool
  now : Instant
  newId : String → String
  idLe : String → String → Bool

/-- A transaction: an exception leaves no trace. -/
abbrev Transaction := StateT ControlPlane (Except String)

/-! ### Inserting actions -/

/-- Two actions that one of the unique indices of the table keeps apart. -/
def ScheduledAction.Conflicts (a b : ScheduledAction) : Prop :=
  a.id = b.id ∨ (a.scheduleId = b.scheduleId ∧ (a.scheduledAt = b.scheduledAt ∨
    (a.localScheduledDate = b.localScheduledDate ∧ a.localScheduledTime = b.localScheduledTime)))

instance (a b : ScheduledAction) : Decidable (a.Conflicts b) :=
  inferInstanceAs (Decidable (_ ∨ (_ ∧ (_ ∨ (_ ∧ _)))))

/-- An insert that does nothing on a conflict; the answer is the id of the new row. -/
def insertScheduledAction (action : ScheduledAction) : Transaction (Option String) := fun s =>
  if ∃ existing ∈ s.scheduledActions, action.Conflicts existing then .ok (none, s)
  else .ok (some action.id, { s with scheduledActions := s.scheduledActions ++ [action] })

section

variable (library : CronLibrary) (choice : BatchChoice)

/-- The columns that every action of a schedule is inserted with. -/
def scheduledActionRow (schedule : ClaimedScheduleRow) (scheduledAt : Instant)
    (payload : Json String) : Except String ScheduledAction := do
  let localSlot ← getScheduledLocalSlot library scheduledAt schedule.timezone
  return {
    id := choice.newId schedule.id
    scheduleId := schedule.id
    organizationId := schedule.organizationId
    targetType := schedule.targetType
    targetPayload := payload
    scheduledAt
    localScheduledDate := localSlot.localScheduledDate
    localScheduledTime := localSlot.localScheduledTime }

def insertPendingScheduledAction (schedule : ClaimedScheduleRow) (scheduledAt : Instant)
    (payload : Json String) : Transaction (Option String) := do
  let action ← scheduledActionRow library choice schedule scheduledAt payload
  insertScheduledAction action

def insertSkippedLateScheduledAction (schedule : ClaimedScheduleRow)
    (scheduledAt skippedUntilScheduledAt : Instant) (payload : Json String) :
    Transaction (Option String) := do
  let action ← scheduledActionRow library choice schedule scheduledAt payload
  insertScheduledAction { action with
    status := .skippedLate
    skippedAt := some choice.now
    skippedFromScheduledAt := some scheduledAt
    skippedUntilScheduledAt := some skippedUntilScheduledAt
    failureCode := some "catch_up_window_exceeded"
    failureMessage := some "Scheduled action exceeded the catch-up window." }

def insertFailedScheduledAction (schedule : ClaimedScheduleRow) (scheduledAt : Instant)
    (payload : Json String) (failureCode failureMessage : String) :
    Transaction (Option String) := do
  let action ← scheduledActionRow library choice schedule scheduledAt payload
  insertScheduledAction { action with
    status := .failed
    failedAt := some choice.now
    failureCode := some failureCode
    failureMessage := some failureMessage }

/-! ### Moving the cursor -/

def Schedule.moveCursor (enabled : Bool) (lastScheduledAt : Instant)
    (nextScheduledAt : Option Instant) (schedule : Schedule) : Schedule :=
  { schedule with enabled, lastScheduledAt := some lastScheduledAt, nextScheduledAt }

def Schedule.softDelete (scheduledAt now : Instant) (schedule : Schedule) : Schedule :=
  { schedule with
    enabled := false
    lastScheduledAt := some scheduledAt
    nextScheduledAt := none
    deletedAt := some now }

/-- An update of one schedule, which has to be there. -/
def updateSchedule (scheduleId : String) (update : Schedule → Schedule) : Transaction Unit :=
  fun s =>
    let updatedRowCount := s.schedules.countP fun schedule => decide (schedule.id = scheduleId)
    if updatedRowCount ≠ 1 then
      .error s!"Expected to update schedule {scheduleId}, updated {updatedRowCount} rows."
    else
      .ok ((), { s with
        schedules := updateRows (fun schedule => decide (schedule.id = scheduleId)) update
          s.schedules })

def updateScheduleCursor (scheduleId : String) (enabled : Bool) (lastScheduledAt : Instant)
    (nextScheduledAt : Option Instant) : Transaction Unit :=
  updateSchedule scheduleId (Schedule.moveCursor enabled lastScheduledAt nextScheduledAt)

def softDeleteScheduleWithMissingTarget (scheduleId : String) (scheduledAt : Instant) :
    Transaction Unit :=
  updateSchedule scheduleId (Schedule.softDelete scheduledAt choice.now)

/-! ### What is due -/

/-- The next occurrence of a schedule after an instant, if it has one. -/
def nextOccurrenceAfter (schedule : ClaimedScheduleRow) (after : Instant) :
    Except String (Option Instant) := do
  let occurrence ← findNextScheduleOccurrence library schedule.cronExpression schedule.timezone
    after schedule.endAt
  return occurrence.map ScheduleOccurrence.scheduledAt

/-- The loop over the occurrences that are due, with the iterations that are left. -/
def dueScheduleRange (schedule : ClaimedScheduleRow) (cutoffMinute : Instant) :
    Nat → Instant → Except String (Instant × Option Instant)
  | iterationsLeft, latestDueScheduledAt => do
    match ← nextOccurrenceAfter library schedule latestDueScheduledAt with
    | none => return (latestDueScheduledAt, none)
    | some next =>
      if next ≤ cutoffMinute then
        match iterationsLeft with
        | 0 => throw s!"Exceeded due schedule range iteration limit for schedule {schedule.id}."
        | iterationsLeft + 1 => dueScheduleRange schedule cutoffMinute iterationsLeft next
      else return (latestDueScheduledAt, some next)

/-- The latest occurrence that is due, and the next one. -/
def resolveDueScheduleRange (schedule : ClaimedScheduleRow) (cutoffMinute : Instant) :
    Except String (Instant × Option Instant) :=
  dueScheduleRange library schedule cutoffMinute MaxDueRangeIterations schedule.nextScheduledAt

/-- Until when a schedule that is late skips, and the next occurrence. -/
def resolveSkippedLateRange (schedule : ClaimedScheduleRow) (cutoffMinute : Instant) :
    Except String (Instant × Option Instant) := do
  let catchUpThreshold := cutoffMinute - CatchUpWindowMs
  let skippedUntilOccurrence ← findPreviousScheduleOccurrence library schedule.cronExpression
    schedule.timezone catchUpThreshold schedule.endAt
  let skippedUntilScheduledAt :=
    (skippedUntilOccurrence.map ScheduleOccurrence.scheduledAt).getD schedule.nextScheduledAt
  let nextScheduledAt ← nextOccurrenceAfter library schedule skippedUntilScheduledAt
  return (skippedUntilScheduledAt, nextScheduledAt)

/-! ### Consuming a schedule -/

def createMissingTargetPayload (scheduleId targetType : String) : TargetPayloadResult :=
  .unresolved (.obj [("scheduleId", .str scheduleId), ("targetType", .str targetType)])
    "target_missing" "Schedule target row is missing."

def resolveTargetPayload (scheduleId targetType : String) (s : ControlPlane) :
    TargetPayloadResult :=
  if targetType = ScheduleTargetType.triggerRun.text then
    match findRow ScheduleTrigger.scheduleId scheduleId s.targets.scheduleTriggers with
    | none => createMissingTargetPayload scheduleId targetType
    | some target => .resolved (.obj [("triggerId", .str target.triggerId)])
  else if targetType = ScheduleTargetType.snapshotRefresh.text then
    match findRow SnapshotRefreshScheduleTarget.scheduleId scheduleId
        s.targets.snapshotRefreshScheduleTargets with
    | none => createMissingTargetPayload scheduleId targetType
    | some target => .resolved (.obj [
        ("sandboxProfileId", .str target.sandboxProfileId),
        ("sandboxProfileVersion", .int target.sandboxProfileVersion)])
  else
    .unresolved (.obj [("scheduleId", .str scheduleId), ("targetType", .str targetType)])
      "unsupported_target_type" s!"Unsupported schedule target type: {targetType}"

def skipLateScheduleBacklog (schedule : ClaimedScheduleRow) (cutoffMinute : Instant)
    (payload : Json String) : Transaction CreatedScheduledAction := do
  let skippedRange ← resolveSkippedLateRange library schedule cutoffMinute
  let skippedActionId ← insertSkippedLateScheduledAction library choice schedule
    schedule.nextScheduledAt skippedRange.1 payload
  updateScheduleCursor schedule.id skippedRange.2.isSome skippedRange.1 skippedRange.2
  return .skippedLate skippedActionId

def consumeDueRange (schedule : ClaimedScheduleRow) (cutoffMinute : Instant)
    (payload : Json String) : Transaction CreatedScheduledAction := do
  let dueRange ← resolveDueScheduleRange library schedule cutoffMinute
  let pendingActionId ← insertPendingScheduledAction library choice schedule dueRange.1 payload
  updateScheduleCursor schedule.id dueRange.2.isSome dueRange.1 dueRange.2
  match pendingActionId with
  | none => return .duplicate
  | some id => return .pending id

def consumeClaimedSchedule (schedule : ClaimedScheduleRow) (cutoffMinute : Instant) :
    Transaction CreatedScheduledAction := do
  let s ← get
  match resolveTargetPayload schedule.id schedule.targetType s with
  | .unresolved payload failureCode failureMessage => do
    let failedAction ← insertFailedScheduledAction library choice schedule
      schedule.nextScheduledAt payload failureCode failureMessage
    softDeleteScheduleWithMissingTarget choice schedule.id schedule.nextScheduledAt
    return .failed failedAction
  | .resolved payload =>
    if cutoffMinute - schedule.nextScheduledAt > CatchUpWindowMs then
      skipLateScheduleBacklog library choice schedule cutoffMinute payload
    else
      consumeDueRange library choice schedule cutoffMinute payload

/-! ### Batches -/

def DueAt (cutoffMinute : Instant) (schedule : Schedule) : Prop :=
  schedule.enabled = true ∧ schedule.kind = .recurring ∧ schedule.deletedAt = none ∧
    ∃ nextScheduledAt ∈ schedule.nextScheduledAt, nextScheduledAt ≤ cutoffMinute

instance (cutoffMinute : Instant) (schedule : Schedule) : Decidable (DueAt cutoffMinute schedule) :=
  inferInstanceAs (Decidable (_ ∧ _ ∧ _ ∧ ∃ _ ∈ schedule.nextScheduledAt, _))

/-- `orderBy(nextScheduledAt, id)` -/
def dueScheduleLe (a b : Schedule) : Bool :=
  match a.nextScheduledAt, b.nextScheduledAt with
  | some x, some y => decide (x < y) || (decide (x = y) && choice.idLe a.id b.id)
  | _, _ => true

def claimedScheduleRow (row : Schedule) : Except String ClaimedScheduleRow :=
  match row.nextScheduledAt, row.cronExpression, row.timezone with
  | none, _, _ => .error s!"Claimed schedule {row.id} is missing next_scheduled_at."
  | some _, none, _ =>
    .error s!"Claimed recurring schedule {row.id} is missing cron_expression."
  | some _, some _, none => .error s!"Claimed recurring schedule {row.id} is missing timezone."
  | some nextScheduledAt, some cronExpression, some timezone => .ok {
      id := row.id
      organizationId := row.organizationId
      targetType := row.targetType
      cronExpression
      timezone
      nextScheduledAt
      endAt := row.endAt }

def claimDueScheduleRows (cutoffMinute : Instant) (schedules : List Schedule) :
    Except String (List ClaimedScheduleRow) :=
  let due := schedules.filter fun schedule =>
    decide (DueAt cutoffMinute schedule) && !choice.locked schedule.id
  ((due.mergeSort (dueScheduleLe choice)).take ClaimBatchSize).mapM claimedScheduleRow

/-- An insert counts as a duplicate where it did nothing. -/
def DispatchDueSchedulesResult.countInsert (result : DispatchDueSchedulesResult) :
    Option String → DispatchDueSchedulesResult
  | some _ =>
    { result with createdScheduledActionCount := result.createdScheduledActionCount + 1 }
  | none =>
    { result with duplicateScheduledActionCount := result.duplicateScheduledActionCount + 1 }

/-- What a batch counts for a schedule. -/
def DispatchDueSchedulesResult.count (result : DispatchDueSchedulesResult) :
    CreatedScheduledAction → DispatchDueSchedulesResult
  | .pending id =>
    { result.countInsert (some id) with
      pendingScheduledActionIds := result.pendingScheduledActionIds ++ [id] }
  | .duplicate => result.countInsert none
  | .failed id =>
    { result.countInsert id with
      failedScheduledActionCount := result.failedScheduledActionCount + 1 }
  | .skippedLate id =>
    { result.countInsert id with
      backlogFastForwardedCount := result.backlogFastForwardedCount + 1
      skippedLateCount := result.skippedLateCount + 1 }

def consumeClaimedSchedules (cutoffMinute : Instant) :
    List ClaimedScheduleRow → DispatchDueSchedulesResult → Transaction DispatchDueSchedulesResult
  | [], result => return result
  | schedule :: schedules, result => do
    let created ← consumeClaimedSchedule library choice schedule cutoffMinute
    consumeClaimedSchedules cutoffMinute schedules (result.count created)

def claimDueScheduleBatch (cutoffMinute : Instant) : Transaction DispatchDueSchedulesResult := do
  let s ← get
  let claimedSchedules ← claimDueScheduleRows choice cutoffMinute s.schedules
  consumeClaimedSchedules library choice cutoffMinute claimedSchedules
    { claimedScheduleCount := claimedSchedules.length }

end

end Mistle
