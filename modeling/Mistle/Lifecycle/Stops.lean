import Mistle.Lifecycle.Writers

/-!
# Stopping and Reconciling a Sandbox

The workflows that stop a sandbox at its provider and write down that it is stopped, or that
it has failed. Each looks at the runtime state of the gateway again and again, and goes on
only where its fence still permits it: a stop of an idle sandbox where the expected owner is
attached, a reconciliation where nobody is.

What a workflow reports of usage is left out, and of the startup events the message that
they add to a failure is kept.

## Main definitions

* `shouldExecuteSandboxStop`, `determineStopProviderAction`, `stopSandboxInstance`: The stop.
* `shouldExecuteSandboxDisconnectReconciliation`, `determineDisconnectReconciliationAction`,
  `reconcileSandboxInstance`: The reconciliation after a disconnect.
* `LifecycleCall`, `lifecycleSystem`: Everything that writes the status, in company.
-/

namespace Mistle

open Program (query)
open LifecycleOp (readSnapshot findInstance inspectProvider stopProvider findStartupFailure)

section

variable (sandboxInstanceId : String)

/-! ### The stop -/

inductive StopProviderAction where
  | fail (failureCode failureMessage : String)
  | markStopped
  | retryProviderStopInProgress (reason : String)
  | shutdownStopThenInspect
  deriving DecidableEq

def determineStopProviderAction : ProviderState → StopProviderAction
  | .missing => .fail "provider_runtime_missing"
      "Sandbox runtime was not found at the provider during stop execution."
  | .terminalStopped => .fail "provider_runtime_terminal"
      "Sandbox runtime was terminal at the provider during stop execution."
  | .resumableStopped => .markStopped
  | .stopping => .retryProviderStopInProgress
      "Sandbox runtime stop is still in progress at the provider."
  | .active => .shutdownStopThenInspect

/-- Whether the runtime state permits the stop. -/
def shouldExecuteSandboxStop (stopReason : SandboxStopReason)
    (expectedOwnerLeaseId : Option String) (snapshot : SandboxRuntimeStateSnapshot) : Bool :=
  if stopReason = .user then true
  else
    match expectedOwnerLeaseId with
    | none => false
    | some expected =>
      decide (stopReason = .idle ∧ snapshot.ownerLeaseId = some expected ∧
        snapshot.attachment.map SandboxRuntimeAttachment.ownerLeaseId = some expected)

inductive StopSandboxInstanceOutcome where
  | stopped
  | failed
  | alreadyStopped
  | runtimeStateFenceBeforeLoad
  | runtimeStateFenceBeforeStop
  | runtimeStateFenceBeforeMark
  deriving DecidableEq

/-- The attachment that the caller is to terminate, and a failure that the stop ended with. -/
structure StopSandboxInstanceResult where
  executed : Bool
  outcome : StopSandboxInstanceOutcome
  terminationTarget : Option SandboxRuntimeAttachment := none
  terminalFailure : Option (String × String) := none
  deriving DecidableEq

/-- The instance that is there to be stopped, with the id it has at its provider. -/
def resolveStoppableSandboxInstanceStopState :
    LifecycleProgram (Option (SandboxInstance × String)) := do
  match ← query (findInstance true none) with
  | none => throw (.error s!"Sandbox instance '{sandboxInstanceId}' was not found.")
  | some row =>
    if row.status = .stopped then return none
    else if row.status ≠ .running ∧ row.status ≠ .reconnecting ∧ row.status ≠ .stopping then
      throw (.error (s!"Expected sandbox instance '{sandboxInstanceId}' to be running, " ++
        "reconnecting, stopping, or stopped before stop execution."))
    else
      match row.providerSandboxId with
      | none => throw (.error (s!"Expected {row.status.text} sandbox instance " ++
          s!"'{sandboxInstanceId}' to have a providerSandboxId."))
      | some providerSandboxId => return some (row, providerSandboxId)

section

variable (stopReason : SandboxStopReason) (expectedOwnerLeaseId : Option String)

def readSandboxStopPermission : LifecycleProgram Bool := do
  return shouldExecuteSandboxStop stopReason expectedOwnerLeaseId (← query readSnapshot)

def markStopProviderFailure (currentStatus : SandboxInstanceStatus)
    (failureCode failureMessage : String) : LifecycleProgram StopSandboxInstanceResult := do
  match ← Reconcile.markSandboxInstanceFailed sandboxInstanceId currentStatus failureCode
      failureMessage (readSandboxStopPermission stopReason expectedOwnerLeaseId) with
  | .fenceMismatch => return ⟨false, .runtimeStateFenceBeforeMark, none, none⟩
  | .already => return ⟨false, .failed, none, some (failureCode, failureMessage)⟩
  | .marked => return ⟨true, .failed, none, some (failureCode, failureMessage)⟩

/-- What the stop answers once the provider has stopped and the row is looked at. -/
def StopSandboxInstanceResult.ofMark (terminationTarget : Option SandboxRuntimeAttachment) :
    MarkOutcome → StopSandboxInstanceResult
  | .fenceMismatch => ⟨false, .runtimeStateFenceBeforeMark, none, none⟩
  | .already => ⟨false, .alreadyStopped, terminationTarget, none⟩
  | .marked => ⟨true, .stopped, terminationTarget, none⟩

/-- The last part of a stop: the provider has stopped. -/
def finishStop (terminationTarget : Option SandboxRuntimeAttachment) :
    LifecycleProgram StopSandboxInstanceResult := do
  let outcome ← Stop.markSandboxInstanceStopped sandboxInstanceId stopReason
    (readSandboxStopPermission stopReason expectedOwnerLeaseId)
  return .ofMark terminationTarget outcome

/-- What follows the stop at the provider, by what it is found to be. -/
def finishInspectedStop (stopRequestedStatus : SandboxInstanceStatus)
    (terminationTarget : Option SandboxRuntimeAttachment) :
    StopProviderAction → LifecycleProgram StopSandboxInstanceResult
  | .fail failureCode failureMessage =>
    markStopProviderFailure sandboxInstanceId stopReason expectedOwnerLeaseId stopRequestedStatus
      failureCode failureMessage
  | .retryProviderStopInProgress reason => throw (.error reason)
  | .shutdownStopThenInspect => throw (.error
      "Sandbox runtime remained active at the provider after provider stop.")
  | .markStopped => finishStop sandboxInstanceId stopReason expectedOwnerLeaseId terminationTarget

/-- The stop of a sandbox that its provider has stopped, to the end. -/
def inspectThenFinish (stopRequestedStatus : SandboxInstanceStatus)
    (terminationTarget : Option SandboxRuntimeAttachment) :
    LifecycleProgram StopSandboxInstanceResult := do
  let afterStopProviderState ← query inspectProvider
  finishInspectedStop sandboxInstanceId stopReason expectedOwnerLeaseId stopRequestedStatus
    terminationTarget (determineStopProviderAction afterStopProviderState)

def stopProviderThenFinish (stopRequestedStatus : SandboxInstanceStatus)
    (terminationTarget : Option SandboxRuntimeAttachment) :
    LifecycleProgram StopSandboxInstanceResult := do
  if ← query stopProvider then
    inspectThenFinish sandboxInstanceId stopReason expectedOwnerLeaseId stopRequestedStatus
      terminationTarget
  else
    markStopProviderFailure sandboxInstanceId stopReason expectedOwnerLeaseId stopRequestedStatus
      "provider_runtime_missing"
      "Sandbox runtime was not found at the provider during sandbox stop."

/-- The stop of a sandbox that the provider has active, or has stopped already. -/
def requestStop (active : Bool) (terminationTarget : Option SandboxRuntimeAttachment) :
    LifecycleProgram StopSandboxInstanceResult := do
  if ← readSandboxStopPermission stopReason expectedOwnerLeaseId then
    let stopRequestedStatus ← applySandboxLifecycleEvent sandboxInstanceId .stopRequested
    if active then
      stopProviderThenFinish sandboxInstanceId stopReason expectedOwnerLeaseId stopRequestedStatus
        terminationTarget
    else finishStop sandboxInstanceId stopReason expectedOwnerLeaseId terminationTarget
  else return ⟨false, .runtimeStateFenceBeforeMark, none, none⟩

def isWorkflowUserStopReasonSupportedPurpose : SandboxInstancePurpose → Bool
  | .session | .designer | .setupAssistant | .setupCheck | .skillsDiscovery => true
  | .snapshot => false

def assertWorkflowUserStopReasonIsScopedToSupportedPurpose (purpose : SandboxInstancePurpose) :
    Except LifecycleError Unit :=
  if stopReason = .user ∧ isWorkflowUserStopReasonSupportedPurpose purpose = false then
    .error (.error ("Workflow stop reason 'user' is only supported for session, setup-check, and " ++
      s!"setup-assistant sandbox instances; sandbox instance '{sandboxInstanceId}' has purpose " ++
      s!"'{purpose.text}'."))
  else .ok ()

/-- The stop of an instance that was found, by what its provider says of it. -/
def stopInspected (row : SandboxInstance) (terminationTarget : Option SandboxRuntimeAttachment) :
    StopProviderAction → LifecycleProgram StopSandboxInstanceResult
  | .fail failureCode failureMessage =>
    markStopProviderFailure sandboxInstanceId stopReason expectedOwnerLeaseId row.status
      failureCode failureMessage
  | .retryProviderStopInProgress reason => throw (.error reason)
  | .markStopped =>
    requestStop sandboxInstanceId stopReason expectedOwnerLeaseId false terminationTarget
  | .shutdownStopThenInspect =>
    requestStop sandboxInstanceId stopReason expectedOwnerLeaseId true terminationTarget

def stopSandboxInstance : LifecycleProgram StopSandboxInstanceResult := do
  let initial ← query readSnapshot
  if shouldExecuteSandboxStop stopReason expectedOwnerLeaseId initial = false then
    return ⟨false, .runtimeStateFenceBeforeLoad, none, none⟩
  else
    match ← resolveStoppableSandboxInstanceStopState sandboxInstanceId with
    | none => return ⟨false, .alreadyStopped, initial.attachment, none⟩
    | some (row, _) =>
      Program.lift (assertWorkflowUserStopReasonIsScopedToSupportedPurpose sandboxInstanceId
        stopReason row.purpose)
      let beforeStop ← query readSnapshot
      if shouldExecuteSandboxStop stopReason expectedOwnerLeaseId beforeStop = false then
        return ⟨false, .runtimeStateFenceBeforeStop, none, none⟩
      else
        let providerState ← query inspectProvider
        stopInspected sandboxInstanceId stopReason expectedOwnerLeaseId row beforeStop.attachment
          (determineStopProviderAction providerState)

end

/-! ### The reconciliation -/

inductive DisconnectReconciliationAction where
  | fail (failureCode failureMessage : String)
  | markStopped
  | stopThenMarkStopped
  | retryProviderStopInProgress (reason : String)
  | failIfStartupFailureEvidenceElseStop (failureCode failureMessage : String)
  deriving DecidableEq

/-- What is done with an active sandbox, by the phase it is in. -/
def activeReconciliationAction :
    SandboxDisconnectReconciliationPhase → DisconnectReconciliationAction
  | .startup => .failIfStartupFailureEvidenceElseStop "bootstrap_disconnected_during_startup"
      ("Sandbox bootstrap tunnel did not recover before disconnect grace expired during " ++
        "startup.")
  | .runtime | .stopping => .stopThenMarkStopped

def determineDisconnectReconciliationAction (status : SandboxInstanceStatus)
    (providerState : ProviderState) : Except LifecycleError DisconnectReconciliationAction :=
  match getSandboxDisconnectReconciliationPhase status with
  | none => .error (.error
      s!"Disconnect reconciliation does not support sandbox status '{status.text}'.")
  | some phase =>
    match providerState with
    | .missing => .ok (.fail "provider_runtime_missing"
        "Sandbox runtime was not found at the provider during disconnect reconciliation.")
    | .resumableStopped => .ok .markStopped
    | .terminalStopped => .ok (.fail "provider_runtime_terminal"
        "Sandbox runtime was terminal at the provider during disconnect reconciliation.")
    | .stopping => .ok (.retryProviderStopInProgress
        ("Sandbox runtime stop is still in progress at the provider during disconnect " ++
          "reconciliation."))
    | .active => .ok (activeReconciliationAction phase)

section

variable (expectedOwnerLeaseId : String)

def isTerminalCleanupFenceMatched (snapshot : SandboxRuntimeStateSnapshot) : Bool :=
  if snapshot.ownerLeaseId ≠ none ∧ snapshot.ownerLeaseId ≠ some expectedOwnerLeaseId then false
  else decide (snapshot.attachment = none ∨
    snapshot.attachment.map SandboxRuntimeAttachment.ownerLeaseId = some expectedOwnerLeaseId)

/-- Whether nobody is attached, and the owner is the one expected, or gone. -/
def shouldExecuteSandboxDisconnectReconciliation (snapshot : SandboxRuntimeStateSnapshot) : Bool :=
  if snapshot.attachment ≠ none ∧
      snapshot.attachment.map SandboxRuntimeAttachment.ownerLeaseId ≠ some expectedOwnerLeaseId then
    false
  else if snapshot.ownerLeaseId ≠ none ∧ snapshot.ownerLeaseId ≠ some expectedOwnerLeaseId then false
  else decide (snapshot.attachment = none ∧
    (snapshot.ownerLeaseId = none ∨ snapshot.ownerLeaseId = some expectedOwnerLeaseId))

inductive ReconcileSandboxInstanceOutcome where
  | failed
  | stopped
  | alreadyFailed
  | alreadyStopped
  | alreadyTerminal
  | runtimeStateFenceBeforeLoad
  | runtimeStateFenceBeforeInspect
  | runtimeStateFenceBeforeStop
  | runtimeStateFenceBeforeMark
  deriving DecidableEq

structure ReconcileSandboxInstanceResult where
  executed : Bool
  outcome : ReconcileSandboxInstanceOutcome
  deriving DecidableEq

def isDisconnectReconciliationStillPermitted : LifecycleProgram Bool := do
  return shouldExecuteSandboxDisconnectReconciliation expectedOwnerLeaseId (← query readSnapshot)

/-- The instance that is there to be reconciled, unless it has ended. -/
def resolveActiveSandboxInstance : LifecycleProgram (Option SandboxInstance) := do
  match ← query (findInstance true none) with
  | none => throw (.error s!"Sandbox instance '{sandboxInstanceId}' was not found.")
  | some row =>
    match row.status with
    | .failed | .stopped => return none
    | .pending => throw (.error ("Disconnect reconciliation does not support pending sandbox " ++
        s!"instance '{sandboxInstanceId}'."))
    | _ =>
      if getSandboxDisconnectReconciliationPhase row.status = none then
        throw (.error "Unsupported sandbox instance status.")
      else if row.providerSandboxId = none then
        throw (.error (s!"Expected {row.status.text} sandbox instance '{sandboxInstanceId}' to " ++
          "have a providerSandboxId."))
      else return some row

def reconcileFailed (currentStatus : SandboxInstanceStatus) (failureCode failureMessage : String) :
    LifecycleProgram ReconcileSandboxInstanceResult := do
  match ← Reconcile.markSandboxInstanceFailed sandboxInstanceId currentStatus failureCode
      failureMessage (isDisconnectReconciliationStillPermitted expectedOwnerLeaseId) with
  | .fenceMismatch => return ⟨false, .runtimeStateFenceBeforeMark⟩
  | .already => return ⟨false, .alreadyFailed⟩
  | .marked => return ⟨true, .failed⟩

def reconcileStopped (currentStatus : SandboxInstanceStatus) :
    LifecycleProgram ReconcileSandboxInstanceResult := do
  match ← Reconcile.markSandboxInstanceStopped sandboxInstanceId currentStatus
      (isDisconnectReconciliationStillPermitted expectedOwnerLeaseId) with
  | .fenceMismatch => return ⟨false, .runtimeStateFenceBeforeMark⟩
  | .already => return ⟨false, .alreadyStopped⟩
  | .marked => return ⟨true, .stopped⟩

/-- A runtime that is gone by the time it is to be stopped has failed. -/
def stopProviderSandboxOrMarkMissing : LifecycleProgram ReconcileSandboxInstanceResult := do
  if ← query stopProvider then reconcileStopped sandboxInstanceId expectedOwnerLeaseId .stopping
  else
    reconcileFailed sandboxInstanceId expectedOwnerLeaseId .stopping "provider_runtime_missing"
      "Sandbox runtime was not found at the provider during disconnect reconciliation."

def stopActiveProviderSandboxDuringDisconnect :
    LifecycleProgram ReconcileSandboxInstanceResult := do
  if ← isDisconnectReconciliationStillPermitted expectedOwnerLeaseId then
    if ← isDisconnectReconciliationStillPermitted expectedOwnerLeaseId then
      let _ ← applySandboxLifecycleEvent sandboxInstanceId .stopRequested
      stopProviderSandboxOrMarkMissing sandboxInstanceId expectedOwnerLeaseId
    else return ⟨false, .runtimeStateFenceBeforeMark⟩
  else return ⟨false, .runtimeStateFenceBeforeStop⟩

def reconcileInspected (currentStatus : SandboxInstanceStatus) :
    DisconnectReconciliationAction → LifecycleProgram ReconcileSandboxInstanceResult
  | .fail failureCode failureMessage =>
    reconcileFailed sandboxInstanceId expectedOwnerLeaseId currentStatus failureCode failureMessage
  | .failIfStartupFailureEvidenceElseStop failureCode _ => do
    match ← query findStartupFailure with
    | none => stopActiveProviderSandboxDuringDisconnect sandboxInstanceId expectedOwnerLeaseId
    | some failureMessage =>
      reconcileFailed sandboxInstanceId expectedOwnerLeaseId currentStatus failureCode
        failureMessage
  | .markStopped => reconcileStopped sandboxInstanceId expectedOwnerLeaseId currentStatus
  | .stopThenMarkStopped =>
    stopActiveProviderSandboxDuringDisconnect sandboxInstanceId expectedOwnerLeaseId
  | .retryProviderStopInProgress reason => throw (.error reason)

def reconcileSandboxInstance : LifecycleProgram ReconcileSandboxInstanceResult := do
  let initialSnapshot ← query readSnapshot
  match ← resolveActiveSandboxInstance sandboxInstanceId with
  | none =>
    if isTerminalCleanupFenceMatched expectedOwnerLeaseId initialSnapshot then
      return ⟨false, .alreadyTerminal⟩
    else return ⟨false, .runtimeStateFenceBeforeLoad⟩
  | some row =>
    if shouldExecuteSandboxDisconnectReconciliation expectedOwnerLeaseId initialSnapshot = false then
      return ⟨false, .runtimeStateFenceBeforeLoad⟩
    else if ← isDisconnectReconciliationStillPermitted expectedOwnerLeaseId then
      let providerState ← query inspectProvider
      let action ← Program.lift (determineDisconnectReconciliationAction row.status providerState)
      reconcileInspected sandboxInstanceId expectedOwnerLeaseId row.status action
    else return ⟨false, .runtimeStateFenceBeforeInspect⟩

end

/-! ### The system -/

/-- Every call that writes the status. The workflows are made of these, each in a step that
    the engine may run again; a deadline that is due calls for a stop or a reconciliation. -/
inductive LifecycleCall where
  | runtimeEvent (input : RuntimeLifecycleEventInput)
  | claimStop (input : StopSandboxInstanceInput)
  | stop (stopReason : SandboxStopReason) (expectedOwnerLeaseId : Option String)
  | reconcile (expectedOwnerLeaseId : String)
  | applyEvent (event : SandboxLifecycleEvent)
  | markStarting
  | provision (providerSandboxId : String)
  | markRunning
  | markStopped (stopReason : SandboxStopReason)
  | markFailed (failureCode failureMessage : String) (allowStopped allowRunning : Bool)
  | ensure (organizationId : String) (purpose : SandboxInstancePurpose)
  deriving DecidableEq

inductive LifecycleAnswer where
  | status (status : SandboxInstanceStatus)
  | claim (result : StopRequestClaimResult)
  | stop (result : StopSandboxInstanceResult)
  | reconcile (result : ReconcileSandboxInstanceResult)
  | mark (outcome : MarkOutcome)
  | none
  deriving DecidableEq

abbrev LifecycleOutcome := Except LifecycleError LifecycleAnswer

def LifecycleCall.program : LifecycleCall → LifecycleProgram LifecycleAnswer
  | .runtimeEvent input => do
    return .status (← applySandboxRuntimeLifecycleEvent sandboxInstanceId input)
  | .claimStop input => do return .claim (← claimSandboxInstanceStop sandboxInstanceId input)
  | .stop stopReason expectedOwnerLeaseId => do
    return .stop (← stopSandboxInstance sandboxInstanceId stopReason expectedOwnerLeaseId)
  | .reconcile expectedOwnerLeaseId => do
    return .reconcile (← reconcileSandboxInstance sandboxInstanceId expectedOwnerLeaseId)
  | .applyEvent event => do
    return .status (← applySandboxLifecycleEvent sandboxInstanceId event)
  | .markStarting => do
    markSandboxInstanceStarting sandboxInstanceId
    return .none
  | .provision providerSandboxId => do
    persistSandboxInstanceProvisioning providerSandboxId
    return .none
  | .markRunning => do
    markSandboxInstanceRunning sandboxInstanceId
    return .none
  | .markStopped stopReason => do
    return .mark (← Stop.markSandboxInstanceStopped sandboxInstanceId stopReason (return true))
  | .markFailed failureCode failureMessage allowStopped allowRunning => do
    Start.markSandboxInstanceFailed failureCode failureMessage allowStopped allowRunning
    return .none
  | .ensure organizationId purpose => do
    ensureSandboxInstance organizationId purpose
    return .none

def lifecycleSystem :
    System LifecycleState GatewayEvent LifecycleCall LifecycleChoice LifecycleOutcome LifecycleOp
      (Program.Fallible LifecycleError LifecycleOp.Row) where
  outside event s := event.apply s
  start call s := some (s, (call.program sandboxInstanceId).run)
  perform _ op c s := op.perform c s
  again _ _ := none

end

abbrev LifecyclePool :=
  Pool LifecycleState LifecycleCall LifecycleOutcome LifecycleOp
    (Program.Fallible LifecycleError LifecycleOp.Row)

/-- What a call has still to do. -/
abbrev LifecycleRest :=
  Program LifecycleOp (Program.Fallible LifecycleError LifecycleOp.Row) LifecycleOutcome

abbrev LifecycleInput := PoolInput GatewayEvent LifecycleCall LifecycleChoice

abbrev LifecycleStepEvent :=
  SystemEvent GatewayEvent LifecycleCall LifecycleChoice LifecycleOutcome LifecycleOp

abbrev LifecycleStep (sandboxInstanceId : String) (pool : LifecyclePool) (input : LifecycleInput)
    (out : List LifecycleStepEvent) (pool' : LifecyclePool) : Prop :=
  (lifecycleSystem sandboxInstanceId).step pool input = some (pool', out)

/-- Before anything has happened. -/
def noInstance : LifecyclePool := ⟨{}, []⟩

end Mistle
