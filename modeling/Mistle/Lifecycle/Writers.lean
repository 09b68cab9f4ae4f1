import Mistle.Lifecycle.Instance

/-!
# Writers of the Status

The functions that write the status of a sandbox instance, each with a guard of its own: a
compare-and-swap from the status that was read, a row that is locked while it is looked
at, or a list of statuses.

What is written to the log, the deadlines that are cleared with the last status, and the
times of a change are left out.

## Main definitions

* `applySandboxLifecycleEvent`, `markSandboxInstanceStarting`, `markSandboxInstanceRunning`,
  `persistSandboxInstanceProvisioning`, `ensureSandboxInstance`: The steps of a start.
* `Start.markSandboxInstanceFailed`: The end of a start that failed.
* `Stop.markSandboxInstanceStopped`, `Reconcile.markSandboxInstanceStopped`,
  `Reconcile.markSandboxInstanceFailed`: The ends of a stop and of a reconciliation.
* `claimSandboxInstanceStop`: The claim of a stop request.
* `applySandboxRuntimeLifecycleEvent`: What the gateway reports.
-/

namespace Mistle

open Program (query)
open LifecycleOp (readSnapshot findInstance updateStatus updateInstance lockInstance commitStatus
  endTransaction updateFailed provision insertInstance inspectProvider stopProvider
  findStartupFailure lockIdleDeadline compareRuntimePlan)

abbrev LifecycleProgram := Program.Query LifecycleError LifecycleOp LifecycleOp.Row

section

variable (sandboxInstanceId : String)

/-! ### The steps of a start -/

/-- After an update that has missed its row: where the event has happened all the same, that
    is as good. -/
def resolveMissedUpdate (event : SandboxLifecycleEvent) (source target : SandboxInstanceStatus) :
    LifecycleProgram SandboxInstanceStatus := do
  match ← query (findInstance false none) with
  | none => throw (.error
      (s!"Sandbox instance '{sandboxInstanceId}' was not found after lifecycle event " ++
        s!"'{event.text}' missed its compare-and-swap update."))
  | some current =>
    match transitionSandboxLifecycle current.status event with
    | .unchanged status => return status
    | _ => throw (.error
        (s!"Failed to apply sandbox lifecycle event '{event.text}' from " ++
          s!"'{source.text}' to '{target.text}'."))

/-- What the caller sets in the same transaction is set with the status, or by `alone` where
    the status is left as it is. -/
def applySandboxLifecycleEvent (event : SandboxLifecycleEvent)
    (set : SandboxInstance → SandboxInstance := id)
    (alone : LifecycleProgram Unit := return ()) : LifecycleProgram SandboxInstanceStatus := do
  match ← query (findInstance false none) with
  | none => throw (.error
      (s!"Sandbox instance '{sandboxInstanceId}' was not found for lifecycle event " ++
        s!"'{event.text}'."))
  | some sandboxInstance =>
    match transitionSandboxLifecycle sandboxInstance.status event with
    | .invalid _ _ reason => throw (.error reason)
    | .unchanged status =>
      alone
      return status
    | .transition source target =>
      if ← query (updateStatus source target set) then return target
      else
        let status ← resolveMissedUpdate sandboxInstanceId event source target
        alone
        return status

/-- The transaction applies the event and sets what else belongs to the status; the status is
    read again behind it. -/
def markStatusByEvent (event : SandboxLifecycleEvent) (status : SandboxInstanceStatus)
    (withDeleted : Bool) (set : SandboxInstance → SandboxInstance) : LifecycleProgram Unit := do
  let _ ← applySandboxLifecycleEvent sandboxInstanceId event set
    (query (updateInstance withDeleted set))
  let sandboxInstance ← query (findInstance true none)
  if sandboxInstance.map SandboxInstance.status = some status then return ()
  else throw (.error s!"Failed to transition sandbox instance status to {status.text}.")

def markSandboxInstanceStarting : LifecycleProgram Unit :=
  markStatusByEvent sandboxInstanceId .providerStartRequested .starting false fun row =>
    { row with stopReason := none, failureCode := none, failureMessage := none }

def markSandboxInstanceRunning : LifecycleProgram Unit :=
  markStatusByEvent sandboxInstanceId .runtimeReady .running true fun row =>
    { row with stopReason := none, failureCode := none, failureMessage := none }

def persistSandboxInstanceProvisioning (providerSandboxId : String) : LifecycleProgram Unit := do
  if ← query (provision providerSandboxId) then return ()
  else
    let existing ← query (findInstance false none)
    let runtimePlanMatches ← query compareRuntimePlan
    if existing.map SandboxInstance.status = some .started ∧
        existing.bind SandboxInstance.providerSandboxId = some providerSandboxId ∧
        runtimePlanMatches = true then return ()
    else throw (.error
      "Failed to persist provider sandbox id while sandbox instance was still starting.")

def ensureSandboxInstance (organizationId : String) (purpose : SandboxInstancePurpose) :
    LifecycleProgram Unit :=
  query (insertInstance organizationId purpose)

/-- The statuses that a start which fails is in. -/
def Start.failableStatuses (allowStopped allowRunning : Bool) : List SandboxInstanceStatus :=
  [.pending, .starting, .started, .initializing] ++
    (if allowRunning then [.running] else []) ++ (if allowStopped then [.stopped] else [])

def Start.markSandboxInstanceFailed (failureCode failureMessage : String)
    (allowStopped allowRunning : Bool) : LifecycleProgram Unit := do
  if ← query (updateFailed (Start.failableStatuses allowStopped allowRunning) failureCode
      failureMessage) then return ()
  else throw (.error "Failed to transition sandbox instance status to failed.")

/-! ### The ends of a stop and of a reconciliation -/

inductive MarkOutcome where
  | already
  | fenceMismatch
  | marked
  deriving DecidableEq

/-- The rest of a transaction, which is over with an exception. -/
def inTransaction {α : Type} (transaction : Nat) (x : LifecycleProgram α) : LifecycleProgram α := do
  match ← Program.caught x with
  | .ok a => return a
  | .error e => do
    query (endTransaction transaction)
    throw e

/-- Look once more at the fence and write the status, with the row locked. -/
def commitPermitted (transaction : Nat) (stillPermitted : LifecycleProgram Bool)
    (source target : SandboxInstanceStatus) (set : SandboxInstance → SandboxInstance)
    (message : String) : LifecycleProgram MarkOutcome := do
  if ← stillPermitted then
    if ← query (commitStatus transaction source target set) then return .marked
    else throw (.error message)
  else
    query (endTransaction transaction)
    return .fenceMismatch

/-- What a transaction makes of the row that it has locked: the row has the status already,
    or `source` says from which status it is updated, if it is. -/
def markRow (stillPermitted : LifecycleProgram Bool) (target : SandboxInstanceStatus)
    (set : SandboxInstance → SandboxInstance) (message : String)
    (source : SandboxInstanceStatus → Option SandboxInstanceStatus) (transaction : Nat) :
    Option SandboxInstanceStatus → LifecycleProgram MarkOutcome
  | none => throw (.error s!"Sandbox instance '{sandboxInstanceId}' was not found.")
  | some lockedStatus =>
    if lockedStatus = target then do
      query (endTransaction transaction)
      return .already
    else
      match source lockedStatus with
      | none => throw (.error message)
      | some status => commitPermitted transaction stillPermitted status target set message

def markLocked (stillPermitted : LifecycleProgram Bool) (target : SandboxInstanceStatus)
    (set : SandboxInstance → SandboxInstance) (message : String)
    (source : SandboxInstanceStatus → Option SandboxInstanceStatus) :
    LifecycleProgram MarkOutcome := do
  let (transaction, lockedStatus) ← query lockInstance
  inTransaction transaction
    (markRow sandboxInstanceId stillPermitted target set message source transaction lockedStatus)

/-- The status that the transition to `target` leads from. -/
def transitionSource (event : SandboxLifecycleEvent) (target lockedStatus : SandboxInstanceStatus) :
    Option SandboxInstanceStatus :=
  match transitionSandboxLifecycle lockedStatus event with
  | .transition source next => if next = target then some source else none
  | _ => none

def Stop.markSandboxInstanceStopped (stopReason : SandboxStopReason)
    (stillPermitted : LifecycleProgram Bool) : LifecycleProgram MarkOutcome :=
  markLocked sandboxInstanceId stillPermitted .stopped
    (fun row => { row with stopReason := some stopReason })
    "Failed to transition sandbox instance status from stopping to stopped."
    (transitionSource .providerStopped .stopped)

/-- Only a status of stopping is held against the table. -/
def Reconcile.markSandboxInstanceStopped (currentStatus : SandboxInstanceStatus)
    (stillPermitted : LifecycleProgram Bool) : LifecycleProgram MarkOutcome :=
  markLocked sandboxInstanceId stillPermitted .stopped
    (fun row => { row with
      stopReason := some .disconnected
      failureCode := none
      failureMessage := none })
    s!"Failed to transition sandbox instance status from {currentStatus.text} to stopped."
    fun lockedStatus =>
      if lockedStatus ≠ currentStatus then none
      else if currentStatus = .stopping then
        (transitionSource .providerStopped .stopped lockedStatus).map fun _ => currentStatus
      else some currentStatus

def Reconcile.markSandboxInstanceFailed (currentStatus : SandboxInstanceStatus)
    (failureCode failureMessage : String) (stillPermitted : LifecycleProgram Bool) :
    LifecycleProgram MarkOutcome :=
  markLocked sandboxInstanceId stillPermitted .failed
    (fun row => { row with
      stopReason := some .failed
      failureCode := some failureCode
      failureMessage := some failureMessage })
    s!"Failed to transition sandbox instance status from {currentStatus.text} to failed."
    fun lockedStatus =>
      if lockedStatus ≠ currentStatus then none
      else (transitionSource .failureRecorded .failed lockedStatus).map fun _ => currentStatus

/-! ### The claim of a stop request -/

/-- A stop is asked for by a user of an organization, or because the sandbox was idle. -/
inductive StopSandboxInstanceInput where
  | user (organizationId : String)
  | idle (expectedOwnerLeaseId : String)
  deriving DecidableEq

inductive StopRequestClaimResult where
  | enqueue
  | alreadyStopped
  | alreadyTerminal
  deriving DecidableEq

def supportsUserRequestedStop : SandboxInstancePurpose → Bool
  | .session | .designer | .setupAssistant | .setupCheck | .skillsDiscovery => true
  | .snapshot => false

/-- The answer where the stop has nothing to do any more. -/
def terminalResponse : SandboxInstanceStatus → Option StopRequestClaimResult
  | .stopped => some .alreadyStopped
  | .failed => some .alreadyTerminal
  | _ => none

def assertIdleStopDeadlineStillCurrent : StopSandboxInstanceInput → LifecycleProgram Unit
  | .user _ => return ()
  | .idle expectedOwnerLeaseId => do
    if ← query (lockIdleDeadline expectedOwnerLeaseId) then return ()
    else throw (.conflict "STALE_STOP_REQUEST"
      s!"Idle stop request for sandbox instance '{sandboxInstanceId}' is stale.")

def claimStopRequestFromStatus (input : StopSandboxInstanceInput)
    (status : SandboxInstanceStatus) : LifecycleProgram (Option StopRequestClaimResult) := do
  match transitionSandboxLifecycle status .stopRequested with
  | .invalid _ _ reason => throw (.conflict "USER_STOP_NOT_SUPPORTED" reason)
  | .unchanged _ =>
    assertIdleStopDeadlineStillCurrent sandboxInstanceId input
    return some .enqueue
  | .transition source target =>
    assertIdleStopDeadlineStillCurrent sandboxInstanceId input
    if ← query (updateStatus source target id) then return some .enqueue else return none

/-- Try again, so many times, after an update that has missed its row. -/
def resolveStopRequestAfterMissedStatusUpdate (input : StopSandboxInstanceInput) :
    Nat → LifecycleProgram StopRequestClaimResult
  | 0 => throw (.error
      (s!"Failed to transition sandbox instance '{sandboxInstanceId}' to stopping after " ++
        "concurrent status updates."))
  | attempts + 1 => do
    match ← query (findInstance false none) with
    | none => throw (.notFound "NOT_FOUND"
        s!"Sandbox instance '{sandboxInstanceId}' was not found.")
    | some sandboxInstance =>
      match terminalResponse sandboxInstance.status with
      | some response => return response
      | none =>
        match ← claimStopRequestFromStatus sandboxInstanceId input sandboxInstance.status with
        | some claim => return claim
        | none => resolveStopRequestAfterMissedStatusUpdate input attempts

/-- Whether a user may stop the instance that was found. -/
def userStopRefusal (row : SandboxInstance) : StopSandboxInstanceInput → Option LifecycleError
  | .idle _ => none
  | .user _ =>
    if supportsUserRequestedStop row.purpose = false then
      some (.conflict "USER_STOP_NOT_SUPPORTED"
        ("User-requested stop is only supported for session, designer, setup-check, " ++
          "setup-assistant, and skills-discovery sandbox instances; sandbox instance " ++
          s!"'{sandboxInstanceId}' has purpose '{row.purpose.text}'."))
    else if terminalResponse row.status = none ∧ isSandboxUserStopEligible row.status = false ∧
        row.status ≠ .stopping then
      some (.conflict "USER_STOP_NOT_SUPPORTED"
        s!"Sandbox instance '{sandboxInstanceId}' is '{row.status.text}' and cannot be stopped yet.")
    else none

def StopSandboxInstanceInput.organizationId? : StopSandboxInstanceInput → Option String
  | .user organizationId => some organizationId
  | .idle _ => none

def claimSandboxInstanceStop (input : StopSandboxInstanceInput) :
    LifecycleProgram StopRequestClaimResult := do
  match ← query (findInstance false input.organizationId?) with
  | none => throw (.notFound "NOT_FOUND" s!"Sandbox instance '{sandboxInstanceId}' was not found.")
  | some sandboxInstance =>
    match userStopRefusal sandboxInstanceId sandboxInstance input with
    | some refusal => throw refusal
    | none =>
      match terminalResponse sandboxInstance.status with
      | some response => return response
      | none =>
        match ← claimStopRequestFromStatus sandboxInstanceId input sandboxInstance.status with
        | some claim => return claim
        | none => resolveStopRequestAfterMissedStatusUpdate sandboxInstanceId input 3

/-! ### What the gateway reports -/

inductive SandboxRuntimeLifecycleEventKind where
  | bootstrapDegraded
  | bootstrapDetached
  | bootstrapRecovered
  | runtimeReadinessReported (runtimeReady : Bool)
  deriving DecidableEq

structure RuntimeLifecycleEventInput where
  kind : SandboxRuntimeLifecycleEventKind
  ownerLeaseId : String
  deriving DecidableEq

def resolveLifecycleEvent (status : SandboxInstanceStatus) :
    SandboxRuntimeLifecycleEventKind → Option SandboxLifecycleEvent
  | .bootstrapDetached =>
    if status = .reconnecting then none
    else if status ≠ .running ∧ status ≠ .degraded then none
    else some .bootstrapDetached
  | .bootstrapDegraded => if status ≠ .running then none else some .bootstrapDegraded
  | .bootstrapRecovered => if status ≠ .degraded then none else some .bootstrapRecovered
  | .runtimeReadinessReported runtimeReady =>
    if status = .reconnecting then
      if runtimeReady then some .bootstrapReattachedReady else some .bootstrapReattachedNotReady
    else if runtimeReady = true ∧ (status = .initializing ∨ status = .running) then
      some .runtimeReady
    else none

/-- A detach is the owner's if nobody is attached, or the owner is. -/
def ownerCurrent (snapshot : SandboxRuntimeStateSnapshot) (ownerLeaseId : String) : Bool :=
  if snapshot.ownerLeaseId = none ∧ snapshot.attachment = none then true
  else decide (snapshot.ownerLeaseId = some ownerLeaseId ∨
    snapshot.attachment.map SandboxRuntimeAttachment.ownerLeaseId = some ownerLeaseId)

def isRuntimeLifecycleEventOwnerCurrent (input : RuntimeLifecycleEventInput) :
    LifecycleProgram Bool :=
  if input.kind ≠ .bootstrapDetached then return true
  else do return ownerCurrent (← query readSnapshot) input.ownerLeaseId

/-- The status of the instance, which has to be there. -/
def foundStatus : Option SandboxInstance → LifecycleProgram SandboxInstanceStatus
  | none => throw (.error s!"Sandbox instance '{sandboxInstanceId}' was not found.")
  | some row => return row.status

/-- The update to the status that the transition leads to. -/
def applyRuntimeTransition (event : SandboxLifecycleEvent) :
    SandboxLifecycleTransitionResult → LifecycleProgram SandboxInstanceStatus
  | .invalid _ _ reason => throw (.error reason)
  | .unchanged status => return status
  | .transition source target => do
    if ← query (updateStatus source target id) then return target
    else throw (.error (s!"Failed to apply sandbox lifecycle event '{event.text}' from " ++
      s!"'{source.text}' to '{target.text}'."))

/-- The transaction of an event: the status is read, and its next status written. -/
def applyReportedEvent (kind : SandboxRuntimeLifecycleEventKind) :
    LifecycleProgram SandboxInstanceStatus := do
  let status ← foundStatus sandboxInstanceId (← query (findInstance false none))
  match resolveLifecycleEvent status kind with
  | none => return status
  | some event => applyRuntimeTransition event (transitionSandboxLifecycle status event)

def applySandboxRuntimeLifecycleEvent (input : RuntimeLifecycleEventInput) :
    LifecycleProgram SandboxInstanceStatus := do
  if ← isRuntimeLifecycleEventOwnerCurrent input then
    applyReportedEvent sandboxInstanceId input.kind
  else foundStatus sandboxInstanceId (← query (findInstance false none))

end

end Mistle
