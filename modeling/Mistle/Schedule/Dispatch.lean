import Mistle.Lib.Program
import Mistle.Schedule.Database

/-!
# Dispatch of a Scheduled Action

A worker claims an action, hands it off to its target and records what came of it.
Each of these is one statement or a few, and between two statements other workers
may do any of theirs. A statement may fail, or take effect and not answer; the worker
sees an exception either way, and only an exception that the dispatch itself raised
as permanent is recorded as a failure of the action.

## Main definitions

* `DispatchOp`, `DispatchOp.apply`: The statements of a dispatch, and what they do.
* `claimScheduledActionForDispatch`: The transaction that claims an action.
* `dispatchScheduledAction`: The dispatch of an action.
* `loadTriggerRunHandoffAggregate`, `createOrResolveTriggerRun`,
  `dispatchTriggerRunScheduledAction`: The handoff to a trigger run.
* `DispatchChoice`, `DispatchOp.perform`: A statement with what the environment decides.
* `DispatchOp.RecordsFor`, `DispatchOp.WritesFor`: What may come after a claim.

## Theorems

* `dispatchClaimedAction_writes`, `dispatchClaimedAction_records`: What a dispatch does to the
  action it has claimed.
-/

namespace Mistle

/-- What a dispatch throws. -/
inductive DispatchError where
  | permanent (failureCode message : String)
  | other (message : String)
  deriving DecidableEq

structure DispatchScheduledActionInput where
  scheduledActionId : String
  dispatchClaimKey : String
  staleDispatchingBefore : Instant
  deriving DecidableEq

structure ClaimedScheduledAction where
  scheduledActionId : String
  organizationId : String
  scheduleId : String
  targetType : String
  targetPayload : Json String
  previousStatus : ScheduledActionStatus
  previousDispatchClaimKey : Option String
  previousDispatchingAt : Option Instant
  targetWorkflowId : Option String
  targetWorkflowStartedAt : Option Instant

inductive ScheduledActionDispatchClaimResult where
  | claimed (claim : ClaimedScheduledAction)
  | activelyDispatching (scheduledActionId : String)
  | alreadyFinalized (scheduledActionId : String) (scheduledActionStatus : ScheduledActionStatus)
  | missing (scheduledActionId : String)

structure ScheduleDispatchTargetHandlerInput where
  scheduledActionId : String
  organizationId : String
  scheduleId : String
  targetPayload : Json String

/-! ### Claiming -/

/-- The actions that the claim selects for update. -/
def Claimable (input : DispatchScheduledActionInput) (action : ScheduledAction) : Prop :=
  action.id = input.scheduledActionId ∧
    (action.status = .pending ∨
      (action.status = .dispatching ∧ action.dispatchClaimKey = some input.dispatchClaimKey) ∨
      (action.status = .dispatching ∧
        ∀ dispatchingAt ∈ action.dispatchingAt, dispatchingAt < input.staleDispatchingBefore))

instance (input : DispatchScheduledActionInput) (action : ScheduledAction) :
    Decidable (Claimable input action) :=
  inferInstanceAs (Decidable (_ ∧ (_ ∨ (_ ∧ _) ∨ (_ ∧ ∀ _ ∈ action.dispatchingAt, _))))

def resolveUnclaimedScheduledAction (scheduledActionId : String)
    (actions : List ScheduledAction) : ScheduledActionDispatchClaimResult :=
  match findRow ScheduledAction.id scheduledActionId actions with
  | none => .missing scheduledActionId
  | some action =>
    if action.status = .dispatching then .activelyDispatching scheduledActionId
    else .alreadyFinalized scheduledActionId action.status

def ScheduledAction.claim (dispatchClaimKey : String) (now : Instant) (action : ScheduledAction) :
    ScheduledAction :=
  { action with
    status := .dispatching
    dispatchingAt := some now
    dispatchClaimKey := some dispatchClaimKey }

/-- The row is locked from the select to the end of the transaction. -/
def claimScheduledActionForDispatch (input : DispatchScheduledActionInput) (now : Instant)
    (actions : List ScheduledAction) :
    List ScheduledAction × ScheduledActionDispatchClaimResult :=
  match actions.find? fun action => decide (Claimable input action) with
  | none => (actions, resolveUnclaimedScheduledAction input.scheduledActionId actions)
  | some candidate =>
    (updateRows (fun action => decide (action.id = input.scheduledActionId))
      (ScheduledAction.claim input.dispatchClaimKey now) actions,
    .claimed {
      scheduledActionId := candidate.id
      organizationId := candidate.organizationId
      scheduleId := candidate.scheduleId
      targetType := candidate.targetType
      targetPayload := candidate.targetPayload
      previousStatus := candidate.status
      previousDispatchClaimKey := candidate.dispatchClaimKey
      previousDispatchingAt := candidate.dispatchingAt
      targetWorkflowId := candidate.targetWorkflowId
      targetWorkflowStartedAt := candidate.targetWorkflowStartedAt })

/-! ### Statements -/

inductive InsertTriggerRunResult where
  | inserted (id : String)
  | sourceScheduledActionViolation
  | otherViolation

/-- The statements of a dispatch. A snapshot refresh is handed off in several, of which
    no other statement here reads anything. -/
inductive DispatchOp where
  | claimScheduledAction (input : DispatchScheduledActionInput)
  | findSchedule (scheduleId : String)
  | findScheduleTrigger (scheduleId : String)
  | findTrigger (triggerId : String)
  | findTriggerTarget (triggerId : String)
  | insertTriggerRun (triggerId triggerTargetId scheduledActionId : String)
  | findTriggerRun (scheduledActionId : String)
  | runHandleTriggerRun (triggerRunId : String)
  | dispatchSnapshotRefresh (input : ScheduleDispatchTargetHandlerInput)
  | setDispatched (scheduledActionId : String) (targetWorkflowId : Option String)
  | setFailed (scheduledActionId failureCode failureMessage : String)

/-- What a statement answers. An update answers with the number of rows. -/
@[reducible] def DispatchOp.Row : DispatchOp → Type
  | .claimScheduledAction _ => ScheduledActionDispatchClaimResult
  | .findSchedule _ => Option Schedule
  | .findScheduleTrigger _ => Option ScheduleTrigger
  | .findTrigger _ => Option Trigger
  | .findTriggerTarget _ => Option TriggerTarget
  | .insertTriggerRun _ _ _ => InsertTriggerRunResult
  | .findTriggerRun _ => Option TriggerRun
  | .runHandleTriggerRun _ => String
  | .dispatchSnapshotRefresh _ => Option String
  | .setDispatched _ _ => Nat
  | .setFailed _ _ _ => Nat

/-- What the environment decides in a statement. -/
structure DispatchChoice where
  now : Instant
  freshId : String := ""
  snapshotWorkflowId : Option String := none
  answer : StatementAnswer := .arrives

def ScheduledAction.markDispatched (targetWorkflowId : Option String) (now : Instant)
    (action : ScheduledAction) : ScheduledAction :=
  { action with
    status := .dispatched
    dispatchedAt := some now
    targetWorkflowId := targetWorkflowId
    targetWorkflowStartedAt := some (action.targetWorkflowStartedAt.getD now) }

def ScheduledAction.markFailed (failureCode failureMessage : String) (now : Instant)
    (action : ScheduledAction) : ScheduledAction :=
  { action with
    status := .failed
    failedAt := some now
    failureCode := some failureCode
    failureMessage := some failureMessage }

/-- Update the row of an action; the answer is the number of rows that were. -/
def updateScheduledAction (scheduledActionId : String)
    (update : ScheduledAction → ScheduledAction) (s : ControlPlane) : ControlPlane × Nat :=
  ({ s with
      scheduledActions := updateRows (fun action => decide (action.id = scheduledActionId)) update
        s.scheduledActions },
    s.scheduledActions.countP fun action => decide (action.id = scheduledActionId))

def HandleTriggerRunWorkflowName : String := "control-plane.automations.handle-run"

/-- What a statement does where it answers. -/
def DispatchOp.apply (c : DispatchChoice) (s : ControlPlane) :
    (op : DispatchOp) → ControlPlane × op.Row
  | .claimScheduledAction input =>
    ({ s with
        scheduledActions := (claimScheduledActionForDispatch input c.now s.scheduledActions).1 },
      (claimScheduledActionForDispatch input c.now s.scheduledActions).2)
  | .findSchedule scheduleId => (s, findRow Schedule.id scheduleId s.schedules)
  | .findScheduleTrigger scheduleId =>
    (s, findRow ScheduleTrigger.scheduleId scheduleId s.targets.scheduleTriggers)
  | .findTrigger triggerId => (s, findRow Trigger.id triggerId s.targets.triggers)
  | .findTriggerTarget triggerId => (s, findRow TriggerTarget.triggerId triggerId s.targets.triggerTargets)
  | .insertTriggerRun triggerId triggerTargetId scheduledActionId =>
    if ∃ run ∈ s.triggerRuns, run.sourceScheduledActionId = some scheduledActionId then
      (s, .sourceScheduledActionViolation)
    else if ∃ run ∈ s.triggerRuns, run.id = c.freshId then
      (s, .otherViolation)
    else
      ({ s with
          triggerRuns := s.triggerRuns ++
            [⟨c.freshId, triggerId, some triggerTargetId, some scheduledActionId⟩] },
        .inserted c.freshId)
  | .findTriggerRun scheduledActionId =>
    (s, findRow TriggerRun.sourceScheduledActionId (some scheduledActionId) s.triggerRuns)
  | .runHandleTriggerRun triggerRunId =>
    let started := runWorkflow HandleTriggerRunWorkflowName (.handleTriggerRun triggerRunId)
      triggerRunId c.freshId s.workflowRuns
    ({ s with workflowRuns := started.1 }, started.2.id)
  | .dispatchSnapshotRefresh input =>
    ({ s with snapshotRefreshHandoffs := input.scheduledActionId :: s.snapshotRefreshHandoffs },
      c.snapshotWorkflowId)
  | .setDispatched scheduledActionId targetWorkflowId =>
    updateScheduledAction scheduledActionId
      (ScheduledAction.markDispatched targetWorkflowId c.now) s
  | .setFailed scheduledActionId failureCode failureMessage =>
    updateScheduledAction scheduledActionId
      (ScheduledAction.markFailed failureCode failureMessage c.now) s

open Program (query Fallible)

/-- A statement, which may fail. -/
def DispatchOp.perform (op : DispatchOp) (c : DispatchChoice) (s : ControlPlane) :
    ControlPlane × Fallible DispatchError DispatchOp.Row op :=
  match c.answer with
  | .arrives => ((op.apply c s).1, .ok (op.apply c s).2)
  | .fails message => (s, .error (.other message))
  | .lost message => ((op.apply c s).1, .error (.other message))

/-! ### The dispatch -/

abbrev Dispatch := Program.Query DispatchError DispatchOp DispatchOp.Row

open DispatchOp (claimScheduledAction findSchedule findScheduleTrigger findTrigger
  findTriggerTarget insertTriggerRun findTriggerRun runHandleTriggerRun dispatchSnapshotRefresh
  setDispatched setFailed)

structure TriggerRunHandoffAggregate where
  triggerId : String
  triggerTargetId : String

section

variable (triggerId organizationId scheduleId scheduledActionId : String)

/-- The schedule of an action, which has to be in force and for a trigger. -/
def checkedSchedule : Option Schedule → Except DispatchError Schedule
  | none => .error (.permanent "schedule_not_found"
      s!"Schedule '{scheduleId}' for scheduled action '{scheduledActionId}' was not found.")
  | some schedule =>
    if schedule.organizationId ≠ organizationId then
      .error (.permanent "organization_mismatch"
        (s!"Schedule '{schedule.id}' organization does not match " ++
          s!"scheduled action '{scheduledActionId}'."))
    else if schedule.targetType ≠ ScheduleTargetType.triggerRun.text then
      .error (.permanent "target_type_mismatch"
        (s!"Schedule '{schedule.id}' target type '{schedule.targetType}' " ++
          "does not match trigger run dispatch."))
    else if ¬ schedule.enabled then
      .error (.permanent "schedule_disabled" s!"Schedule '{schedule.id}' is disabled.")
    else if schedule.deletedAt ≠ none then
      .error (.permanent "schedule_deleted" s!"Schedule '{schedule.id}' is deleted.")
    else .ok schedule

/-- The trigger of the schedule, which has to be the one of the action. -/
def checkedScheduleTrigger (schedule : Schedule) :
    Option ScheduleTrigger → Except DispatchError ScheduleTrigger
  | none => .error (.permanent "schedule_trigger_not_found"
      s!"Schedule trigger target for schedule '{schedule.id}' was not found.")
  | some scheduleTrigger =>
    if scheduleTrigger.triggerId ≠ triggerId then
      .error (.permanent "target_payload_trigger_mismatch"
        (s!"Scheduled action '{scheduledActionId}' payload trigger '{triggerId}' " ++
          s!"does not match schedule trigger '{scheduleTrigger.triggerId}'."))
    else .ok scheduleTrigger

/-- The trigger, which has to be in force. -/
def checkedTrigger (scheduleTrigger : ScheduleTrigger) :
    Option Trigger → Except DispatchError Trigger
  | none => .error (.permanent "trigger_not_found"
      s!"Trigger '{scheduleTrigger.triggerId}' was not found.")
  | some trigger =>
    if trigger.organizationId ≠ organizationId then
      .error (.permanent "organization_mismatch"
        (s!"Trigger '{trigger.id}' organization does not match " ++
          s!"scheduled action '{scheduledActionId}'."))
    else if ¬ trigger.enabled then
      .error (.permanent "trigger_disabled" s!"Trigger '{trigger.id}' is disabled.")
    else .ok trigger

def checkedTriggerTarget (trigger : Trigger) :
    Option TriggerTarget → Except DispatchError TriggerTarget
  | none => .error (.permanent "trigger_target_not_found"
      s!"Trigger target for trigger '{trigger.id}' was not found.")
  | some triggerTarget => .ok triggerTarget

def loadTriggerRunHandoffAggregate : Dispatch TriggerRunHandoffAggregate := do
  let foundSchedule ← query (findSchedule scheduleId)
  let schedule ← Program.lift
    (checkedSchedule organizationId scheduleId scheduledActionId foundSchedule)
  let foundScheduleTrigger ← query (findScheduleTrigger schedule.id)
  let scheduleTrigger ← Program.lift
    (checkedScheduleTrigger triggerId scheduledActionId schedule foundScheduleTrigger)
  let foundTrigger ← query (findTrigger scheduleTrigger.triggerId)
  let trigger ← Program.lift
    (checkedTrigger organizationId scheduledActionId scheduleTrigger foundTrigger)
  let foundTriggerTarget ← query (findTriggerTarget trigger.id)
  let triggerTarget ← Program.lift (checkedTriggerTarget trigger foundTriggerTarget)
  return ⟨trigger.id, triggerTarget.id⟩

end

/-- The run that a conflict was with has to be there. -/
def checkedTriggerRun (scheduledActionId : String) :
    Option TriggerRun → Except DispatchError String
  | none => .error (.other
      (s!"Expected trigger run for scheduled action '{scheduledActionId}' to exist " ++
        "after source uniqueness conflict."))
  | some triggerRun => .ok triggerRun.id

def loadTriggerRunForScheduledAction (scheduledActionId : String) : Dispatch String := do
  let triggerRun ← query (findTriggerRun scheduledActionId)
  Program.lift (checkedTriggerRun scheduledActionId triggerRun)

def createOrResolveTriggerRun (triggerId triggerTargetId scheduledActionId : String) :
    Dispatch String := do
  match ← query (insertTriggerRun triggerId triggerTargetId scheduledActionId) with
  | .inserted id => return id
  | .sourceScheduledActionViolation => loadTriggerRunForScheduledAction scheduledActionId
  | .otherViolation => throw (.other "duplicate key value violates unique constraint")

/-- `TriggerRunTargetPayloadSchema`: a strict object with a trigger id that is not empty. -/
def parseTriggerRunTargetPayload (scheduledActionId : String) :
    Json String → Except DispatchError String
  | .obj fields =>
    match Json.lookup "triggerId" fields with
    | some (.str triggerId) =>
      if triggerId ≠ "" ∧ ∀ field ∈ fields, field.1 = "triggerId" then .ok triggerId
      else .error invalid
    | _ => .error invalid
  | _ => .error invalid
where
  invalid : DispatchError := .permanent "invalid_schedule_target_payload"
    s!"Scheduled trigger action '{scheduledActionId}' has invalid target payload."

/-- The handoff answers with the id of the workflow run. -/
def dispatchTriggerRunScheduledAction (input : ScheduleDispatchTargetHandlerInput) :
    Dispatch (Option String) := do
  let triggerId ← Program.lift
    (parseTriggerRunTargetPayload input.scheduledActionId input.targetPayload)
  let aggregate ← loadTriggerRunHandoffAggregate triggerId input.organizationId input.scheduleId
    input.scheduledActionId
  let triggerRunId ← createOrResolveTriggerRun aggregate.triggerId aggregate.triggerTargetId
    input.scheduledActionId
  let workflowRunId ← query (runHandleTriggerRun triggerRunId)
  return some workflowRunId

def dispatchScheduleTarget (targetType : ScheduleTargetType)
    (input : ScheduleDispatchTargetHandlerInput) : Dispatch (Option String) :=
  match targetType with
  | .snapshotRefresh => query (dispatchSnapshotRefresh input)
  | .triggerRun => dispatchTriggerRunScheduledAction input

def parseScheduleTargetType (targetType : String) : Option ScheduleTargetType :=
  if targetType = ScheduleTargetType.triggerRun.text then some .triggerRun
  else if targetType = ScheduleTargetType.snapshotRefresh.text then some .snapshotRefresh
  else none

def assertSingleScheduledActionUpdate (rows : Nat) (scheduledActionId : String) :
    Except DispatchError Unit :=
  if rows ≠ 1 then
    .error (.other s!"Expected to update scheduled action {scheduledActionId}, updated {rows} rows.")
  else .ok ()

def markScheduledActionDispatched (scheduledActionId : String) (targetWorkflowId : Option String) :
    Dispatch Unit := do
  let updatedRows ← query (setDispatched scheduledActionId targetWorkflowId)
  Program.lift (assertSingleScheduledActionUpdate updatedRows scheduledActionId)

def markScheduledActionFailed (scheduledActionId failureCode failureMessage : String) :
    Dispatch Unit := do
  let updatedRows ← query (setFailed scheduledActionId failureCode failureMessage)
  Program.lift (assertSingleScheduledActionUpdate updatedRows scheduledActionId)

inductive DispatchScheduledActionStatus where
  | dispatched
  | failed
  | skipped
  deriving DecidableEq

structure DispatchScheduledActionResult where
  scheduledActionId : String
  status : DispatchScheduledActionStatus
  deriving DecidableEq

/-- What is recorded for a claimed action, and returned. -/
def recordHandoff (claim : ClaimedScheduledAction) :
    Except DispatchError (Option String) → Dispatch DispatchScheduledActionResult
  | .ok targetWorkflowId => do
    markScheduledActionDispatched claim.scheduledActionId targetWorkflowId
    return ⟨claim.scheduledActionId, .dispatched⟩
  | .error (.permanent failureCode message) => do
    markScheduledActionFailed claim.scheduledActionId failureCode message
    return ⟨claim.scheduledActionId, .failed⟩
  | .error error => throw error

/-- The dispatch of a claimed action whose target is of a type that has a handler. -/
def handOffClaimedAction (claim : ClaimedScheduledAction) (targetType : ScheduleTargetType) :
    Dispatch DispatchScheduledActionResult := do
  let handoff ← Program.caught (dispatchScheduleTarget targetType {
    scheduledActionId := claim.scheduledActionId
    organizationId := claim.organizationId
    scheduleId := claim.scheduleId
    targetPayload := claim.targetPayload })
  recordHandoff claim handoff

def dispatchClaimedAction (claim : ClaimedScheduledAction) :
    Dispatch DispatchScheduledActionResult :=
  if claim.targetWorkflowStartedAt.isSome then
    recordHandoff claim (.ok claim.targetWorkflowId)
  else
    match parseScheduleTargetType claim.targetType with
    | none => recordHandoff claim (.error (.permanent "unsupported_target_type"
        s!"Unsupported schedule target type: {claim.targetType}"))
    | some targetType => handOffClaimedAction claim targetType

def dispatchScheduledAction (input : DispatchScheduledActionInput) :
    Dispatch DispatchScheduledActionResult := do
  match ← query (claimScheduledAction input) with
  | .claimed claim => dispatchClaimedAction claim
  | _ => return ⟨input.scheduledActionId, .skipped⟩

/-! ### The operations of a dispatch -/

/-- A dispatch that has claimed an action claims no other, and records a result for the
    one it has claimed. -/
def DispatchOp.RecordsFor (scheduledActionId : String) : DispatchOp → Prop
  | .claimScheduledAction _ => False
  | .setDispatched id _ => id = scheduledActionId
  | .setFailed id _ _ => id = scheduledActionId
  | _ => True

/-- It makes a trigger run for no other either. -/
def DispatchOp.WritesFor (scheduledActionId : String) : DispatchOp → Prop
  | .insertTriggerRun _ _ id => id = scheduledActionId
  | op => op.RecordsFor scheduledActionId

section

open Program (Every)

variable {scheduledActionId : String}

theorem loadTriggerRunHandoffAggregate_writes (triggerId organizationId scheduleId
    actionId : String) :
    (loadTriggerRunHandoffAggregate triggerId organizationId scheduleId actionId).run.Every
      (DispatchOp.WritesFor scheduledActionId) := by
  refine Every.query_bind trivial fun foundSchedule => ?_
  refine Every.lift_bind fun schedule _ => ?_
  refine Every.query_bind trivial fun foundScheduleTrigger => ?_
  refine Every.lift_bind fun scheduleTrigger _ => ?_
  refine Every.query_bind trivial fun foundTrigger => ?_
  refine Every.lift_bind fun trigger _ => ?_
  refine Every.query_bind trivial fun foundTriggerTarget => ?_
  exact Every.lift_bind fun triggerTarget _ => trivial

theorem createOrResolveTriggerRun_writes (triggerId triggerTargetId scheduledActionId : String) :
    (createOrResolveTriggerRun triggerId triggerTargetId scheduledActionId).run.Every
      (DispatchOp.WritesFor scheduledActionId) := by
  refine Every.query_bind rfl fun inserted => ?_
  cases inserted with
  | inserted runId => trivial
  | sourceScheduledActionViolation => exact Every.query_bind trivial fun run => trivial
  | otherViolation => trivial

theorem dispatchScheduleTarget_writes (targetType : ScheduleTargetType)
    (handoff : ScheduleDispatchTargetHandlerInput) :
    (dispatchScheduleTarget targetType handoff).run.Every
      (DispatchOp.WritesFor handoff.scheduledActionId) := by
  cases targetType with
  | snapshotRefresh => exact ⟨trivial, fun _ => trivial⟩
  | triggerRun =>
      refine Every.lift_bind fun triggerId _ => ?_
      refine Every.except_bind (loadTriggerRunHandoffAggregate_writes _ _ _ _) fun aggregate => ?_
      refine Every.except_bind (createOrResolveTriggerRun_writes _ _ _) fun triggerRunId => ?_
      exact Every.query_bind trivial fun workflowRunId => trivial

theorem recordHandoff_writes (claim : ClaimedScheduledAction)
    (handoff : Except DispatchError (Option String)) :
    (recordHandoff claim handoff).run.Every (DispatchOp.WritesFor claim.scheduledActionId) := by
  rcases handoff with error | targetWorkflowId
  · cases error with
    | permanent failureCode message =>
        have hmark : (markScheduledActionFailed claim.scheduledActionId failureCode
            message).run.Every (DispatchOp.WritesFor claim.scheduledActionId) :=
          Every.query_bind rfl fun updatedRows => trivial
        exact Every.except_bind hmark fun _ => trivial
    | other message => trivial
  · have hmark : (markScheduledActionDispatched claim.scheduledActionId
        targetWorkflowId).run.Every (DispatchOp.WritesFor claim.scheduledActionId) :=
      Every.query_bind rfl fun updatedRows => trivial
    exact Every.except_bind hmark fun _ => trivial

theorem dispatchClaimedAction_writes (claim : ClaimedScheduledAction) :
    (dispatchClaimedAction claim).run.Every
      (DispatchOp.WritesFor claim.scheduledActionId) := by
  rw [dispatchClaimedAction]
  split
  · exact recordHandoff_writes claim _
  · split
    · exact recordHandoff_writes claim _
    · rename_i targetType _
      have htarget := dispatchScheduleTarget_writes targetType {
        scheduledActionId := claim.scheduledActionId
        organizationId := claim.organizationId
        scheduleId := claim.scheduleId
        targetPayload := claim.targetPayload }
      exact Every.except_bind (Every.caught htarget) fun handoff => recordHandoff_writes claim handoff

theorem dispatchClaimedAction_records (claim : ClaimedScheduledAction) :
    (dispatchClaimedAction claim).run.Every
      (DispatchOp.RecordsFor claim.scheduledActionId) := by
  refine (dispatchClaimedAction_writes claim).imp fun op hop => ?_
  cases op with
  | insertTriggerRun triggerId triggerTargetId id => trivial
  | _ => exact hop

end

end Mistle
