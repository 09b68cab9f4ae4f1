import Mistle.Lib.Noting
import Mistle.Lifecycle.Stops

/-!
# Status Changes and the Table

Whatever the workflows, the stop requests and the events of the gateway do to one sandbox
instance in company, a status is written only from the status that the writer has read
last, and where the row still has it. And every change is one that the table has, except for
one writer: a reconciliation that finds its sandbox stopped at the provider writes that down
from wherever the status is, as nothing in between has happened that the table could name.

## Main definitions

* `StatusNote`, `noteStatus`: The status that a call has read last.
* `WritesInOrder`: What a statement may write, by what was read.
* `MarkedByReconciliation`: The writes that the table does not have.

## Theorems

* `lifecycleCall_inOrder`: Every call writes in order.
* `LifecycleOp.perform_changes`: What a statement does to the status.
* `status_changes_of_runs`: The changes of every run.
* `reconcile_marks_reconnecting`: A change that the table does not have.
-/

namespace Mistle

open Program (EveryNoting query)
open LifecycleOp (readSnapshot findInstance updateStatus)

/-- The status that a call has read last, with the row locked or without, and the transaction
    that it has locked the row in. -/
structure StatusNote where
  status : Option SandboxInstanceStatus := none
  transaction : Option Nat := none
  deriving DecidableEq

def noteStatus (known : StatusNote) :
    (op : LifecycleOp) → Except LifecycleError op.Row → StatusNote
  | .findInstance _ _, .ok (some row) => { known with status := some row.status }
  | .lockInstance, .ok (transaction, some status) => ⟨some status, some transaction⟩
  | .lockInstance, .ok (transaction, none) => { known with transaction := some transaction }
  | _, _ => known

/-- What a statement may write: from the status that was read to one that the table has for
    it, or to stopped from one that is `marked` so. A transaction that ends is the call's own. -/
def WritesInOrder (marked : SandboxInstanceStatus → Prop) (known : StatusNote) :
    LifecycleOp → Prop
  | .updateStatus source target _ => known.status = some source ∧ LifecycleEdge source target
  | .commitStatus transaction source target _ =>
    known.transaction = some transaction ∧ known.status = some source ∧
      (LifecycleEdge source target ∨ (marked source ∧ target = .stopped))
  | .endTransaction transaction => known.transaction = some transaction
  | .updateFailed sources _ _ => .failed ∉ sources
  | _ => True

/-- The statuses that a reconciliation marks stopped. -/
def ReconcilesFrom (status : SandboxInstanceStatus) : Prop :=
  getSandboxDisconnectReconciliationPhase status ≠ none

instance (status : SandboxInstanceStatus) : Decidable (ReconcilesFrom status) :=
  inferInstanceAs (Decidable (_ ≠ _))

def LifecycleCall.marked : LifecycleCall → SandboxInstanceStatus → Prop
  | .reconcile _, status => ReconcilesFrom status
  | _, _ => False

section

variable {sandboxInstanceId : String} {marked : SandboxInstanceStatus → Prop}

abbrev InOrder {α : Type} (marked : SandboxInstanceStatus → Prop)
    (known : StatusNote) (x : LifecycleProgram α) : Prop :=
  x.run.EveryNoting noteStatus (WritesInOrder marked) known

/-- A program that reads no status and writes none. -/
def Silent {α : Type} (x : LifecycleProgram α) : Prop :=
  x.run.Every fun op => ∀ known r, noteStatus known op r = known

/-- A program that locks no row. -/
def LocksNothing {α : Type} (x : LifecycleProgram α) : Prop :=
  x.run.Every fun op => ∀ known r, (noteStatus known op r).transaction = known.transaction

theorem Silent.locksNothing {α : Type} {x : LifecycleProgram α} (hx : Silent x) :
    LocksNothing x :=
  hx.imp fun _ h known r => congrArg StatusNote.transaction (h known r)

theorem return_inOrder {α : Type} {a : α} (known : StatusNote) :
    InOrder marked known (return a) :=
  trivial

/-! ### The steps of a start -/

theorem resolveMissedUpdate_inOrder (event : SandboxLifecycleEvent)
    (source target : SandboxInstanceStatus) (known : StatusNote) :
    InOrder marked known (resolveMissedUpdate sandboxInstanceId event source target) := by
  refine EveryNoting.query_bind trivial fun row => ?_
  cases row with
  | none => trivial
  | some current =>
      simp only []
      split <;> trivial

theorem applySandboxLifecycleEvent_inOrder (event : SandboxLifecycleEvent)
    (set : SandboxInstance → SandboxInstance) {alone : LifecycleProgram Unit}
    (halone : ∀ known, InOrder marked known alone) (known : StatusNote) :
    InOrder marked known (applySandboxLifecycleEvent sandboxInstanceId event set alone) := by
  refine EveryNoting.query_bind trivial fun row => ?_
  cases row with
  | none => trivial
  | some row =>
      simp only []
      split
      · trivial
      · exact EveryNoting.except_bind (halone _) fun _ _ => trivial
      · rename_i source target htransition
        have hsource := (transition_from htransition).1
        refine EveryNoting.query_bind ⟨hsource ▸ rfl, .of_transition htransition⟩ fun updated => ?_
        cases updated with
        | true => trivial
        | false =>
            refine EveryNoting.except_bind
              (resolveMissedUpdate_inOrder event source target _) fun _ status => ?_
            exact EveryNoting.except_bind (halone _) fun _ _ => trivial

theorem markStatusByEvent_inOrder (event : SandboxLifecycleEvent) (status : SandboxInstanceStatus)
    (withDeleted : Bool) (set : SandboxInstance → SandboxInstance)
    (known : StatusNote) :
    InOrder marked known (markStatusByEvent sandboxInstanceId event status withDeleted set) := by
  refine EveryNoting.except_bind
    (applySandboxLifecycleEvent_inOrder event set (fun _ => EveryNoting.query trivial) known)
    fun known' _ => ?_
  refine EveryNoting.query_bind trivial fun row => ?_
  split <;> trivial

theorem persistSandboxInstanceProvisioning_inOrder (providerSandboxId : String)
    (known : StatusNote) :
    InOrder marked known (persistSandboxInstanceProvisioning providerSandboxId) := by
  refine EveryNoting.query_bind trivial fun provisioned => ?_
  cases provisioned with
  | true => trivial
  | false =>
      refine EveryNoting.query_bind trivial fun existing => ?_
      refine EveryNoting.query_bind trivial fun runtimePlanMatches => ?_
      split <;> trivial

theorem failed_not_mem_failableStatuses (allowStopped allowRunning : Bool) :
    .failed ∉ Start.failableStatuses allowStopped allowRunning := by
  cases allowStopped <;> cases allowRunning <;> decide

theorem startMarkFailed_inOrder (failureCode failureMessage : String)
    (allowStopped allowRunning : Bool) (known : StatusNote) :
    InOrder marked known
      (Start.markSandboxInstanceFailed failureCode failureMessage allowStopped allowRunning) := by
  refine EveryNoting.query_bind (failed_not_mem_failableStatuses allowStopped allowRunning)
    fun failed => ?_
  cases failed <;> trivial

/-! ### The ends of a stop and of a reconciliation -/

theorem inTransaction_inOrder {α : Type} {transaction : Nat} {x : LifecycleProgram α}
    {known : StatusNote} (hx : InOrder marked known x) (hlocks : LocksNothing x)
    (htransaction : known.transaction = some transaction) :
    InOrder marked known (inTransaction transaction x) := by
  refine EveryNoting.except_bind_kept (K := fun known => known.transaction = some transaction)
    hx.caught (Program.Every.caught (hlocks.imp fun op h known r hknown => ?_)) htransaction
    fun known' result hknown => ?_
  · rw [h known r]
    exact hknown
  · cases result with
    | ok a => trivial
    | error e => exact EveryNoting.query_bind hknown fun _ => trivial

section

variable {stillPermitted : LifecycleProgram Bool} {target : SandboxInstanceStatus}
  {set : SandboxInstance → SandboxInstance} {message : String}
  {source : SandboxInstanceStatus → Option SandboxInstanceStatus}

theorem commitPermitted_locksNothing (hsilent : Silent stillPermitted) (transaction : Nat)
    (status : SandboxInstanceStatus) :
    LocksNothing (commitPermitted transaction stillPermitted status target set message) := by
  refine Program.Every.except_bind hsilent.locksNothing fun permitted => ?_
  cases permitted with
  | false => exact Program.Every.query_bind (fun _ _ => rfl) fun _ => trivial
  | true =>
      refine Program.Every.query_bind (fun _ _ => rfl) fun committed => ?_
      cases committed <;> trivial

theorem markRow_locksNothing (hsilent : Silent stillPermitted) (transaction : Nat)
    (lockedStatus : Option SandboxInstanceStatus) :
    LocksNothing (markRow sandboxInstanceId stillPermitted target set message source transaction
      lockedStatus) := by
  cases lockedStatus with
  | none => trivial
  | some lockedStatus =>
      simp only [markRow]
      split
      · exact Program.Every.query_bind (fun _ _ => rfl) fun _ => trivial
      · split
        · trivial
        · exact commitPermitted_locksNothing hsilent transaction _

/-- The row is locked while the fence is looked at, so what is written is based on the status
    that was locked. -/
theorem markLocked_inOrder (hpermitted : ∀ known, InOrder marked known stillPermitted)
    (hsilent : Silent stillPermitted)
    (hsource : ∀ locked status, locked ≠ target → source locked = some status → status = locked ∧
      (LifecycleEdge locked target ∨ (marked locked ∧ target = .stopped)))
    (known : StatusNote) :
    InOrder marked known
      (markLocked sandboxInstanceId stillPermitted target set message source) := by
  refine EveryNoting.query_bind trivial fun locked => ?_
  rcases locked with ⟨transaction, lockedStatus⟩
  refine inTransaction_inOrder ?_ (markRow_locksNothing hsilent transaction lockedStatus) ?_
  · cases lockedStatus with
    | none => trivial
    | some lockedStatus =>
        simp only [markRow]
        by_cases htarget : lockedStatus = target
        · rw [if_pos htarget]
          exact EveryNoting.query_bind rfl fun _ => trivial
        · rw [if_neg htarget]
          cases hstatus : source lockedStatus with
          | none => trivial
          | some status =>
              rcases hsource lockedStatus status htarget hstatus with ⟨heq, hedge⟩
              refine EveryNoting.except_bind_same (hpermitted _) hsilent fun permitted => ?_
              cases permitted with
              | false => exact EveryNoting.query_bind rfl fun _ => trivial
              | true =>
                  refine EveryNoting.query_bind ⟨rfl, heq ▸ rfl, heq ▸ hedge⟩ fun committed => ?_
                  cases committed <;> trivial
  · cases lockedStatus <;> rfl

end

theorem transitionSource_eq_some {event : SandboxLifecycleEvent}
    {target locked status : SandboxInstanceStatus}
    (h : transitionSource event target locked = some status) :
    status = locked ∧ LifecycleEdge locked target := by
  unfold transitionSource at h
  split at h
  · rename_i source next htransition
    have hsource := (transition_from htransition).1
    split at h
    · rename_i hnext
      rw [← Option.some.inj h, hsource, ← hnext]
      exact ⟨rfl, hsource ▸ .of_transition htransition⟩
    · exact absurd h (by simp only [reduceCtorEq, not_false_eq_true])
  · exact absurd h (by simp only [reduceCtorEq, not_false_eq_true])

section

variable {stillPermitted : LifecycleProgram Bool}
  (hpermitted : ∀ marked known, InOrder marked known stillPermitted)
  (hsilent : Silent stillPermitted)

include hpermitted hsilent

theorem stopMarkStopped_inOrder (stopReason : SandboxStopReason)
    (known : StatusNote) :
    InOrder marked known
      (Stop.markSandboxInstanceStopped sandboxInstanceId stopReason stillPermitted) := by
  refine markLocked_inOrder (hpermitted marked) hsilent (fun locked status _ hstatus => ?_) known
  rcases transitionSource_eq_some hstatus with ⟨heq, hedge⟩
  exact ⟨heq, .inl hedge⟩

theorem reconcileMarkFailed_inOrder (currentStatus : SandboxInstanceStatus)
    (failureCode failureMessage : String) (known : StatusNote) :
    InOrder marked known (Reconcile.markSandboxInstanceFailed sandboxInstanceId currentStatus
      failureCode failureMessage stillPermitted) := by
  refine markLocked_inOrder (hpermitted marked) hsilent (fun locked status hne hstatus => ?_) known
  split at hstatus
  · exact absurd hstatus (by simp only [reduceCtorEq, not_false_eq_true])
  · rename_i hcurrent
    rcases Option.map_eq_some_iff.mp hstatus with ⟨_, _, heq⟩
    exact ⟨heq.symm.trans (not_not.mp hcurrent).symm, .inl (lifecycleEdge_failed hne)⟩

theorem reconcileMarkStopped_inOrder {currentStatus : SandboxInstanceStatus}
    (hmarked : marked currentStatus) (known : StatusNote) :
    InOrder marked known
      (Reconcile.markSandboxInstanceStopped sandboxInstanceId currentStatus stillPermitted) := by
  refine markLocked_inOrder (hpermitted marked) hsilent (fun locked status _ hstatus => ?_) known
  split at hstatus
  · exact absurd hstatus (by simp only [reduceCtorEq, not_false_eq_true])
  · rename_i hcurrent
    rw [not_not.mp hcurrent]
    split at hstatus
    · rcases Option.map_eq_some_iff.mp hstatus with ⟨_, _, heq⟩
      exact ⟨heq.symm, .inr ⟨hmarked, rfl⟩⟩
    · exact ⟨(Option.some.inj hstatus).symm, .inr ⟨hmarked, rfl⟩⟩

end

/-! ### The claim of a stop request -/

theorem assertIdleStopDeadline_inOrder (input : StopSandboxInstanceInput)
    (known : StatusNote) :
    InOrder marked known (assertIdleStopDeadlineStillCurrent sandboxInstanceId input) := by
  cases input with
  | user organizationId => trivial
  | idle expectedOwnerLeaseId =>
      refine EveryNoting.query_bind trivial fun current => ?_
      cases current <;> trivial

theorem assertIdleStopDeadline_silent (input : StopSandboxInstanceInput) :
    Silent (assertIdleStopDeadlineStillCurrent sandboxInstanceId input) := by
  cases input with
  | user organizationId => trivial
  | idle expectedOwnerLeaseId =>
      refine Program.Every.query_bind (fun _ _ => rfl) fun current => ?_
      cases current <;> trivial

/-- The deadline is looked at between, which reads no status. -/
theorem claimStopRequestFromStatus_inOrder (input : StopSandboxInstanceInput)
    {status : SandboxInstanceStatus} {known : StatusNote} (hknown : known.status = some status) :
    InOrder marked known (claimStopRequestFromStatus sandboxInstanceId input status) := by
  unfold claimStopRequestFromStatus
  split
  · trivial
  · exact EveryNoting.except_bind (assertIdleStopDeadline_inOrder input _) fun _ _ => trivial
  · rename_i source target htransition
    have hsource := (transition_from htransition).1
    refine EveryNoting.except_bind_same (assertIdleStopDeadline_inOrder input _)
      (assertIdleStopDeadline_silent input) fun _ => ?_
    refine EveryNoting.query_bind ⟨hsource ▸ hknown, .of_transition htransition⟩ fun updated => ?_
    cases updated <;> trivial

/-- By the attempts that are left: each reads the status anew. -/
theorem resolveStopRequest_inOrder (input : StopSandboxInstanceInput) (attempts : Nat) :
    ∀ known, InOrder marked known
      (resolveStopRequestAfterMissedStatusUpdate sandboxInstanceId input attempts) := by
  induction attempts with
  | zero => exact fun _ => trivial
  | succ attempts ih =>
      intro known
      refine EveryNoting.query_bind trivial fun row => ?_
      cases row with
      | none => trivial
      | some row =>
          simp only []
          cases terminalResponse row.status with
          | some response => trivial
          | none =>
              refine EveryNoting.except_bind (claimStopRequestFromStatus_inOrder input rfl)
                fun known' claim => ?_
              cases claim with
              | some claim => trivial
              | none => exact ih known'

theorem claimSandboxInstanceStop_inOrder (input : StopSandboxInstanceInput)
    (known : StatusNote) :
    InOrder marked known (claimSandboxInstanceStop sandboxInstanceId input) := by
  refine EveryNoting.query_bind trivial fun row => ?_
  cases row with
  | none => trivial
  | some row =>
      simp only []
      cases userStopRefusal sandboxInstanceId row input with
      | some refusal => trivial
      | none =>
          simp only []
          cases terminalResponse row.status with
          | some response => trivial
          | none =>
              refine EveryNoting.except_bind (claimStopRequestFromStatus_inOrder input rfl)
                fun known' claim => ?_
              cases claim with
              | some claim => trivial
              | none => exact resolveStopRequest_inOrder input 3 known'

/-! ### What the gateway reports -/

theorem foundStatus_inOrder (row : Option SandboxInstance) (known : StatusNote) :
    InOrder marked known (foundStatus sandboxInstanceId row) := by
  cases row <;> trivial

theorem applyReportedEvent_inOrder (kind : SandboxRuntimeLifecycleEventKind)
    (known : StatusNote) :
    InOrder marked known (applyReportedEvent sandboxInstanceId kind) := by
  refine EveryNoting.query_bind trivial fun row => ?_
  cases row with
  | none => trivial
  | some row =>
      refine EveryNoting.lift_bind (x := .ok row.status) fun status hstatus => ?_
      rw [← Except.ok.inj hstatus]
      cases resolveLifecycleEvent row.status kind with
      | none => trivial
      | some event =>
          dsimp only
          cases htransition : transitionSandboxLifecycle row.status event with
          | invalid status event' reason => trivial
          | unchanged status => trivial
          | transition source target =>
              have hsource := (transition_from htransition).1
              refine EveryNoting.query_bind ⟨hsource ▸ rfl, .of_transition htransition⟩
                fun updated => ?_
              cases updated <;> trivial

theorem applySandboxRuntimeLifecycleEvent_inOrder (input : RuntimeLifecycleEventInput)
    (known : StatusNote) :
    InOrder marked known (applySandboxRuntimeLifecycleEvent sandboxInstanceId input) := by
  refine EveryNoting.except_bind ?_ fun known' current => ?_
  · unfold isRuntimeLifecycleEventOwnerCurrent
    split
    · trivial
    · exact EveryNoting.query_bind trivial fun _ => trivial
  · cases current with
    | true => exact applyReportedEvent_inOrder input.kind known'
    | false => exact EveryNoting.query_bind trivial fun row => foundStatus_inOrder row _

/-! ### Stops -/

section

variable (stopReason : SandboxStopReason) (expectedOwnerLeaseId : Option String)

theorem readSandboxStopPermission_inOrder (marked : SandboxInstanceStatus → Prop)
    (known : StatusNote) :
    InOrder marked known (readSandboxStopPermission stopReason expectedOwnerLeaseId) :=
  EveryNoting.query_bind trivial fun _ => trivial

theorem readSandboxStopPermission_silent :
    Silent (readSandboxStopPermission stopReason expectedOwnerLeaseId) :=
  Program.Every.query_bind (fun _ _ => rfl) fun _ => trivial

variable {stopReason expectedOwnerLeaseId}

theorem markStopProviderFailure_inOrder (currentStatus : SandboxInstanceStatus)
    (failureCode failureMessage : String) (known : StatusNote) :
    InOrder marked known (markStopProviderFailure sandboxInstanceId stopReason
      expectedOwnerLeaseId currentStatus failureCode failureMessage) := by
  refine EveryNoting.except_bind (reconcileMarkFailed_inOrder
    (readSandboxStopPermission_inOrder stopReason expectedOwnerLeaseId)
    (readSandboxStopPermission_silent stopReason expectedOwnerLeaseId) currentStatus failureCode
    failureMessage known) fun _ outcome => ?_
  cases outcome <;> trivial

theorem finishStop_inOrder (terminationTarget : Option SandboxRuntimeAttachment)
    (known : StatusNote) :
    InOrder marked known
      (finishStop sandboxInstanceId stopReason expectedOwnerLeaseId terminationTarget) :=
  EveryNoting.except_bind (stopMarkStopped_inOrder
    (readSandboxStopPermission_inOrder stopReason expectedOwnerLeaseId)
    (readSandboxStopPermission_silent stopReason expectedOwnerLeaseId) stopReason known)
    fun _ _ => trivial

theorem finishInspectedStop_inOrder (stopRequestedStatus : SandboxInstanceStatus)
    (terminationTarget : Option SandboxRuntimeAttachment) (action : StopProviderAction)
    (known : StatusNote) :
    InOrder marked known (finishInspectedStop sandboxInstanceId stopReason expectedOwnerLeaseId
      stopRequestedStatus terminationTarget action) := by
  cases action with
  | fail failureCode failureMessage =>
      exact markStopProviderFailure_inOrder stopRequestedStatus failureCode failureMessage known
  | markStopped => exact finishStop_inOrder terminationTarget known
  | retryProviderStopInProgress reason => trivial
  | shutdownStopThenInspect => trivial

theorem stopProviderThenFinish_inOrder (stopRequestedStatus : SandboxInstanceStatus)
    (terminationTarget : Option SandboxRuntimeAttachment) (known : StatusNote) :
    InOrder marked known (stopProviderThenFinish sandboxInstanceId stopReason
      expectedOwnerLeaseId stopRequestedStatus terminationTarget) := by
  refine EveryNoting.query_bind trivial fun found => ?_
  cases found with
  | true => exact EveryNoting.query_bind trivial fun _ => finishInspectedStop_inOrder _ _ _ _
  | false => exact markStopProviderFailure_inOrder stopRequestedStatus _ _ _

theorem requestStop_inOrder (active : Bool) (terminationTarget : Option SandboxRuntimeAttachment)
    (known : StatusNote) :
    InOrder marked known
      (requestStop sandboxInstanceId stopReason expectedOwnerLeaseId active terminationTarget) := by
  refine EveryNoting.except_bind (readSandboxStopPermission_inOrder _ _ _ known)
    fun known' permitted => ?_
  cases permitted with
  | false => trivial
  | true =>
      refine EveryNoting.except_bind
        (applySandboxLifecycleEvent_inOrder .stopRequested id return_inOrder known')
        fun known'' status => ?_
      cases active with
      | true => exact stopProviderThenFinish_inOrder status terminationTarget known''
      | false => exact finishStop_inOrder terminationTarget known''

theorem stopInspected_inOrder (row : SandboxInstance)
    (terminationTarget : Option SandboxRuntimeAttachment) (action : StopProviderAction)
    (known : StatusNote) :
    InOrder marked known (stopInspected sandboxInstanceId stopReason expectedOwnerLeaseId row
      terminationTarget action) := by
  cases action with
  | fail failureCode failureMessage =>
      exact markStopProviderFailure_inOrder row.status failureCode failureMessage known
  | markStopped => exact requestStop_inOrder false terminationTarget known
  | retryProviderStopInProgress reason => trivial
  | shutdownStopThenInspect => exact requestStop_inOrder true terminationTarget known

theorem resolveStoppableSandboxInstanceStopState_inOrder (known : StatusNote) :
    InOrder marked known (resolveStoppableSandboxInstanceStopState sandboxInstanceId) := by
  refine EveryNoting.query_bind trivial fun row => ?_
  cases row with
  | none => trivial
  | some row =>
      simp only []
      split
      · trivial
      · split
        · trivial
        · split <;> trivial

theorem stopSandboxInstance_inOrder (known : StatusNote) :
    InOrder marked known
      (stopSandboxInstance sandboxInstanceId stopReason expectedOwnerLeaseId) := by
  refine EveryNoting.query_bind trivial fun initial => ?_
  split
  · trivial
  · refine EveryNoting.except_bind (resolveStoppableSandboxInstanceStopState_inOrder _)
      fun known' state => ?_
    rcases state with _ | ⟨row, providerSandboxId⟩
    · trivial
    · refine EveryNoting.lift_bind fun _ _ => ?_
      refine EveryNoting.query_bind trivial fun beforeStop => ?_
      split
      · trivial
      · exact EveryNoting.query_bind trivial fun _ => stopInspected_inOrder row _ _ _

end

/-! ### Reconciliations -/

section

variable {expectedOwnerLeaseId : String}

theorem isDisconnectReconciliationStillPermitted_inOrder (expectedOwnerLeaseId : String)
    (marked : SandboxInstanceStatus → Prop) (known : StatusNote) :
    InOrder marked known (isDisconnectReconciliationStillPermitted expectedOwnerLeaseId) :=
  EveryNoting.query_bind trivial fun _ => trivial

theorem isDisconnectReconciliationStillPermitted_silent (expectedOwnerLeaseId : String) :
    Silent (isDisconnectReconciliationStillPermitted expectedOwnerLeaseId) :=
  Program.Every.query_bind (fun _ _ => rfl) fun _ => trivial

theorem reconcileFailed_inOrder (currentStatus : SandboxInstanceStatus)
    (failureCode failureMessage : String) (known : StatusNote) :
    InOrder marked known (reconcileFailed sandboxInstanceId expectedOwnerLeaseId currentStatus
      failureCode failureMessage) := by
  refine EveryNoting.except_bind (reconcileMarkFailed_inOrder
    (isDisconnectReconciliationStillPermitted_inOrder expectedOwnerLeaseId)
    (isDisconnectReconciliationStillPermitted_silent expectedOwnerLeaseId) currentStatus
    failureCode failureMessage known) fun _ outcome => ?_
  cases outcome <;> trivial

theorem reconcileStopped_inOrder {currentStatus : SandboxInstanceStatus}
    (hfrom : ReconcilesFrom currentStatus) (known : StatusNote) :
    InOrder ReconcilesFrom known
      (reconcileStopped sandboxInstanceId expectedOwnerLeaseId currentStatus) := by
  refine EveryNoting.except_bind (reconcileMarkStopped_inOrder
    (isDisconnectReconciliationStillPermitted_inOrder expectedOwnerLeaseId)
    (isDisconnectReconciliationStillPermitted_silent expectedOwnerLeaseId) hfrom known)
    fun _ outcome => ?_
  cases outcome <;> trivial

theorem stopActiveProviderSandbox_inOrder (known : StatusNote) :
    InOrder ReconcilesFrom known
      (stopActiveProviderSandboxDuringDisconnect sandboxInstanceId expectedOwnerLeaseId) := by
  have hstopping : ReconcilesFrom .stopping := by decide
  refine EveryNoting.except_bind (isDisconnectReconciliationStillPermitted_inOrder _ _ known)
    fun known₁ permitted => ?_
  cases permitted with
  | false => trivial
  | true =>
      refine EveryNoting.except_bind (isDisconnectReconciliationStillPermitted_inOrder _ _ known₁)
        fun known₂ stillPermitted => ?_
      cases stillPermitted with
      | false => trivial
      | true =>
          refine EveryNoting.except_bind
            (applySandboxLifecycleEvent_inOrder .stopRequested id return_inOrder known₂)
            fun known₃ _ => ?_
          refine EveryNoting.query_bind trivial fun found => ?_
          cases found with
          | true => exact reconcileStopped_inOrder hstopping _
          | false => exact reconcileFailed_inOrder .stopping _ _ _

theorem reconcileInspected_inOrder {currentStatus : SandboxInstanceStatus}
    (hfrom : ReconcilesFrom currentStatus) (action : DisconnectReconciliationAction)
    (known : StatusNote) :
    InOrder ReconcilesFrom known
      (reconcileInspected sandboxInstanceId expectedOwnerLeaseId currentStatus action) := by
  cases action with
  | fail failureCode failureMessage =>
      exact reconcileFailed_inOrder currentStatus failureCode failureMessage known
  | markStopped => exact reconcileStopped_inOrder hfrom known
  | stopThenMarkStopped => exact stopActiveProviderSandbox_inOrder known
  | retryProviderStopInProgress reason => trivial
  | failIfStartupFailureEvidenceElseStop failureCode failureMessage =>
      refine EveryNoting.query_bind trivial fun evidence => ?_
      cases evidence with
      | none => exact stopActiveProviderSandbox_inOrder _
      | some failureMessage => exact reconcileFailed_inOrder currentStatus failureCode _ _

theorem resolveActiveSandboxInstance_inOrder (known : StatusNote) :
    InOrder marked known (resolveActiveSandboxInstance sandboxInstanceId) := by
  refine EveryNoting.query_bind trivial fun row => ?_
  cases row with
  | none => trivial
  | some row =>
      simp only []
      split
      · trivial
      · trivial
      · trivial
      · split
        · trivial
        · split <;> trivial

/-- A reconciliation that has found no phase for the status has raised an exception. -/
theorem reconcileSandboxInstance_inOrder (known : StatusNote) :
    InOrder ReconcilesFrom known
      (reconcileSandboxInstance sandboxInstanceId expectedOwnerLeaseId) := by
  refine EveryNoting.query_bind trivial fun initial => ?_
  refine EveryNoting.except_bind (resolveActiveSandboxInstance_inOrder _) fun known' row => ?_
  cases row with
  | none =>
      simp only []
      split <;> trivial
  | some row =>
      simp only []
      split
      · trivial
      · refine EveryNoting.except_bind
          (isDisconnectReconciliationStillPermitted_inOrder _ _ known') fun known'' permitted => ?_
        cases permitted with
        | false => trivial
        | true =>
            refine EveryNoting.query_bind trivial fun providerState => ?_
            refine EveryNoting.lift_bind fun action haction => ?_
            refine reconcileInspected_inOrder (fun hphase => ?_) action _
            rw [determineDisconnectReconciliationAction, hphase] at haction
            exact absurd haction (by simp only [reduceCtorEq, not_false_eq_true])

end

/-! ### Every call -/

theorem lifecycleCall_inOrder (call : LifecycleCall) :
    InOrder call.marked {} (call.program sandboxInstanceId) := by
  cases call with
  | runtimeEvent input =>
      exact EveryNoting.except_bind (applySandboxRuntimeLifecycleEvent_inOrder input {})
        fun _ _ => trivial
  | claimStop input =>
      exact EveryNoting.except_bind (claimSandboxInstanceStop_inOrder input {})
        fun _ _ => trivial
  | stop stopReason expectedOwnerLeaseId =>
      exact EveryNoting.except_bind (stopSandboxInstance_inOrder {}) fun _ _ => trivial
  | reconcile expectedOwnerLeaseId =>
      exact EveryNoting.except_bind (reconcileSandboxInstance_inOrder {}) fun _ _ => trivial
  | applyEvent event =>
      exact EveryNoting.except_bind
        (applySandboxLifecycleEvent_inOrder event id return_inOrder {}) fun _ _ => trivial
  | markStarting =>
      exact EveryNoting.except_bind (markStatusByEvent_inOrder _ _ _ _ {}) fun _ _ => trivial
  | provision providerSandboxId =>
      exact EveryNoting.except_bind
        (persistSandboxInstanceProvisioning_inOrder providerSandboxId {}) fun _ _ => trivial
  | markRunning =>
      exact EveryNoting.except_bind (markStatusByEvent_inOrder _ _ _ _ {}) fun _ _ => trivial
  | markStopped stopReason =>
      exact EveryNoting.except_bind
        (stopMarkStopped_inOrder (fun _ => return_inOrder) trivial stopReason {}) fun _ _ => trivial
  | markFailed failureCode failureMessage allowStopped allowRunning =>
      exact EveryNoting.except_bind
        (startMarkFailed_inOrder failureCode failureMessage allowStopped allowRunning {})
        fun _ _ => trivial
  | ensure organizationId purpose =>
      exact EveryNoting.except_bind (EveryNoting.query trivial) fun _ _ => trivial

end

/-! ### What a statement does to the status -/

def LifecycleState.status (s : LifecycleState) : Option SandboxInstanceStatus :=
  s.row.map SandboxInstance.status

/-- Where a statement takes the status, and from where. -/
def LifecycleOp.Changes : LifecycleOp → SandboxInstanceStatus → SandboxInstanceStatus → Prop
  | .updateStatus source target _, a, b => a = source ∧ b = target
  | .commitStatus _ source target _, a, b => a = source ∧ b = target
  | .updateFailed sources _ _, a, b => a ∈ sources ∧ b = .failed
  | .provision _, a, b => a = .starting ∧ b = .started
  | _, _, _ => False

/-- A write that is based on a status that was read. -/
def LifecycleOp.BasedOnRead : LifecycleOp → Prop
  | .updateStatus _ _ _ => True
  | .commitStatus _ _ _ _ => True
  | _ => False

section

variable {s t : LifecycleState} {a b : SandboxInstanceStatus}

theorem LifecycleState.matching_eq_some {withDeleted : Bool}
    {sources : SandboxInstanceStatus → Bool} {row : SandboxInstance}
    (h : s.matching withDeleted sources = some row) :
    s.row = some row ∧ (withDeleted || !row.deleted) = true ∧ sources row.status = true := by
  rcases Option.filter_eq_some_iff.mp h with ⟨hrow, hmatches⟩
  exact ⟨hrow, Bool.and_eq_true_iff.mp hmatches⟩

theorem LifecycleOp.abandon_row (op : LifecycleOp) (s : LifecycleState) :
    (op.abandon s).row = s.row := by
  cases op <;> simp only [LifecycleOp.abandon]
  split <;> rfl

/-- A write leads from the status that the row has to the one that it writes. -/
theorem LifecycleState.write_changes {withDeleted : Bool} {sources : SandboxInstanceStatus → Bool}
    {row : SandboxInstance} {target : SandboxInstanceStatus}
    {set : SandboxInstance → SandboxInstance} (hrow : s.matching withDeleted sources = some row)
    (ha : s.status = some a) (hb : (s.write row target set).status = some b) :
    sources a = true ∧ b = target := by
  rcases matching_eq_some hrow with ⟨hs, _, hsources⟩
  have hstatus : s.status = some row.status := by rw [status, hs, Option.map_some]
  rw [← Option.some.inj (hstatus.symm.trans ha)]
  exact ⟨hsources, (Option.some.inj hb).symm⟩

theorem LifecycleOp.apply_changes (op : LifecycleOp) (c : LifecycleChoice)
    (ha : s.status = some a) (hb : (op.apply c s).1.status = some b) (hne : a ≠ b) :
    op.Changes a b := by
  have hsame : ∀ {u : LifecycleState}, u.status = s.status → u.status = some b → False :=
    fun hu hb => hne (Option.some.inj ((ha.symm.trans hu.symm).trans hb))
  cases op with
  | updateStatus source target set =>
      simp only [LifecycleOp.apply] at hb
      split at hb
      · exact (hsame rfl hb).elim
      · rename_i row hrow
        rcases LifecycleState.write_changes hrow ha hb with ⟨hsource, htarget⟩
        exact ⟨of_decide_eq_true hsource, htarget⟩
  | commitStatus transaction source target set =>
      simp only [LifecycleOp.apply] at hb
      split at hb
      · exact (hsame rfl hb).elim
      · rename_i row hrow
        rcases LifecycleState.write_changes hrow ha hb with ⟨hsource, htarget⟩
        exact ⟨of_decide_eq_true hsource, htarget⟩
  | updateFailed sources failureCode failureMessage =>
      simp only [LifecycleOp.apply] at hb
      split at hb
      · exact (hsame rfl hb).elim
      · rename_i row hrow
        rcases LifecycleState.write_changes hrow ha hb with ⟨hsources, htarget⟩
        exact ⟨of_decide_eq_true hsources, htarget⟩
  | provision providerSandboxId =>
      simp only [LifecycleOp.apply] at hb
      split at hb
      · exact (hsame rfl hb).elim
      · rename_i row hrow
        split at hb
        · rename_i target htransition
          rcases LifecycleState.write_changes hrow ha hb with ⟨hsource, htarget⟩
          exact ⟨of_decide_eq_true hsource, htarget.trans (transition_from htransition).2.2.2⟩
        · exact (hsame rfl hb).elim
  | updateInstance withDeleted set =>
      simp only [LifecycleOp.apply] at hb
      split at hb
      · exact (hsame rfl hb).elim
      · rename_i row hrow
        rcases LifecycleState.matching_eq_some hrow with ⟨hs, _⟩
        exact (hsame (by rw [LifecycleState.status, LifecycleState.status, hs]; rfl) hb).elim
  | insertInstance organizationId purpose =>
      simp only [LifecycleOp.apply] at hb
      split at hb
      · rename_i hrow
        rw [LifecycleState.status, hrow] at ha
        exact absurd ha (by simp only [Option.map_none, reduceCtorEq, not_false_eq_true])
      · exact (hsame rfl hb).elim
  | endTransaction transaction =>
      simp only [LifecycleOp.apply] at hb
      split at hb
      · exact (hsame rfl hb).elim
      · exact (hsame rfl hb).elim
  | readSnapshot => exact (hsame rfl hb).elim
  | findInstance withDeleted organizationId => exact (hsame rfl hb).elim
  | lockInstance => exact (hsame rfl hb).elim
  | inspectProvider => exact (hsame rfl hb).elim
  | stopProvider => exact (hsame rfl hb).elim
  | findStartupFailure => exact (hsame rfl hb).elim
  | lockIdleDeadline ownerLeaseId => exact (hsame rfl hb).elim
  | compareRuntimePlan => exact (hsame rfl hb).elim

theorem LifecycleOp.perform_changes {op : LifecycleOp} {c : LifecycleChoice}
    {r : Program.Fallible LifecycleError LifecycleOp.Row op} (h : op.perform c s = some (t, r))
    (ha : s.status = some a) (hb : t.status = some b) (hne : a ≠ b) : op.Changes a b := by
  rcases (perform_cases h).2 with ⟨_, ht, _⟩ | ⟨_, ht | ht, _⟩
  · rw [ht] at hb
    exact apply_changes op c ha hb hne
  · rw [ht, LifecycleState.status, abandon_row] at hb
    exact (hne (Option.some.inj (ha.symm.trans hb))).elim
  · rw [ht, LifecycleState.status, abandon_row] at hb
    exact apply_changes op c ha hb hne

/-- The gateway changes no status, and the deletion of the instance keeps it. -/
theorem GatewayEvent.apply_status {event : GatewayEvent} (h : event.apply s = some t) :
    t.status = s.status := by
  cases event with
  | admitLease ownerLeaseId =>
      rw [GatewayEvent.apply] at h
      split at h
      · exact absurd h (by simp only [reduceCtorEq, not_false_eq_true])
      · rw [← Option.some.inj h]
        rfl
  | attach ownerLeaseId sessionId =>
      rw [GatewayEvent.apply] at h
      split at h
      · rw [← Option.some.inj h]
        rfl
      · exact absurd h (by simp only [reduceCtorEq, not_false_eq_true])
  | detach ownerLeaseId =>
      rw [← Option.some.inj h]
      rfl
  | expire =>
      rw [← Option.some.inj h]
      rfl
  | deleteInstance =>
      rw [← Option.some.inj h, LifecycleState.status, LifecycleState.status]
      cases s.row <;> rfl

end

/-! ### Every run -/

/-- A write of stopped that follows no rule: the reconciliation has found the sandbox stopped. -/
structure MarkedByReconciliation (call : LifecycleCall) (op : LifecycleOp)
    (a b : SandboxInstanceStatus) : Prop where
  call : ∃ expectedOwnerLeaseId, call = .reconcile expectedOwnerLeaseId
  op : ∃ transaction set, op = .commitStatus transaction a .stopped set
  source : ReconcilesFrom a
  target : b = .stopped

theorem marked_iff {call : LifecycleCall} {status : SandboxInstanceStatus} :
    call.marked status ↔
      (∃ expectedOwnerLeaseId, call = .reconcile expectedOwnerLeaseId) ∧ ReconcilesFrom status := by
  cases call <;> simp [LifecycleCall.marked]

/-- What a write in order changes is an edge, or is marked by a reconciliation, and is read. -/
theorem WritesInOrder.changes {call : LifecycleCall} {op : LifecycleOp}
    {known : StatusNote} {a b : SandboxInstanceStatus}
    (horder : WritesInOrder call.marked known op) (hchanges : op.Changes a b) :
    (LifecycleEdge a b ∨ MarkedByReconciliation call op a b) ∧ (op.BasedOnRead → known.status = some a) := by
  cases op with
  | updateStatus source target set =>
      rcases hchanges with ⟨hsource, htarget⟩
      rw [hsource, htarget]
      exact ⟨.inl horder.2, fun _ => horder.1⟩
  | commitStatus transaction source target set =>
      rcases hchanges with ⟨hsource, htarget⟩
      rcases horder with ⟨_, hknown, hedge⟩
      rw [hsource, htarget]
      refine ⟨?_, fun _ => hknown⟩
      rcases hedge with hedge | ⟨hmarked, hstopped⟩
      · exact .inl hedge
      · rw [hstopped]
        rcases marked_iff.mp hmarked with ⟨hcall, hfrom⟩
        exact .inr ⟨hcall, ⟨transaction, set, rfl⟩, hfrom, rfl⟩
  | updateFailed sources failureCode failureMessage =>
      rcases hchanges with ⟨hsource, htarget⟩
      rw [htarget]
      refine ⟨.inl (lifecycleEdge_failed fun hfailed => ?_), fun h => h.elim⟩
      exact horder (hfailed ▸ hsource)
  | provision providerSandboxId =>
      rcases hchanges with ⟨hsource, htarget⟩
      rw [hsource, htarget]
      exact ⟨.inl (by decide), fun h => h.elim⟩
  | _ => exact hchanges.elim

/-- The run in which the status that each call has read last is noted. -/
abbrev StatusRuns (sandboxInstanceId : String) :
    LifecyclePool × List StatusNote →
    List (Entry LifecycleInput LifecycleStepEvent) →
    LifecyclePool × List StatusNote → Prop :=
  Run fun x input out y =>
    (lifecycleSystem sandboxInstanceId).stepNoting noteStatus {} x input = some (y, out)

/-- In every run each call writes in order, by its note. -/
theorem StatusRuns.writesInOrder {sandboxInstanceId : String}
    {x : LifecyclePool × List StatusNote}
    {trace : List (Entry LifecycleInput LifecycleStepEvent)}
    (hrun : StatusRuns sandboxInstanceId (noInstance, []) trace x) :
    System.Noted noteStatus (fun call => WritesInOrder call.marked) x := by
  have hinit : System.Noted noteStatus (fun call => WritesInOrder call.marked)
      (noInstance, ([] : List StatusNote)) := by
    refine ⟨rfl, fun n call m p hcall => ?_⟩
    exact absurd hcall (by simp only [noInstance, List.getElem?_nil, reduceCtorEq,
      not_false_eq_true])
  have hstart : ∀ call s t p, (lifecycleSystem sandboxInstanceId).start call s = some (t, p) →
      p.EveryNoting noteStatus (WritesInOrder call.marked) {} := by
    intro call s t p h
    injection h with h
    injection h with _ hp
    rw [← hp]
    exact lifecycleCall_inOrder call
  exact System.everyNoting_run hstart (fun _ _ _ _ h => nomatch h) hrun hinit

/-- A call with number `n` that makes so many statements and ends. -/
def wholeLifecycleCall (n statements : Nat) (call : LifecycleCall) : List LifecycleInput :=
  .start call :: List.replicate statements (.advance n {}) ++ [.finish n]

/-- The start of a sandbox, which ends with its bootstrap session attached. -/
def startedInputs : List LifecycleInput :=
  wholeLifecycleCall 0 1 (.ensure "org_1" .session) ++ wholeLifecycleCall 1 3 .markStarting ++
    wholeLifecycleCall 2 1 (.provision "provider_1") ++
    wholeLifecycleCall 3 2 (.applyEvent .providerRuntimeInitializationStarted) ++
    wholeLifecycleCall 4 3 .markRunning ++
    [.outside (.admitLease "lease_a"), .outside (.attach "lease_a" "session_a")]

/-- The step takes the status from `a` to `b`. -/
def takesStatus (sandboxInstanceId : String) (input : LifecycleInput)
    (a b : SandboxInstanceStatus) (pool : LifecyclePool) : Bool :=
  ((lifecycleSystem sandboxInstanceId).step pool input).any fun next =>
    pool.shared.status = some a ∧ next.1.shared.status = some b

theorem exists_step_of_takesStatus {sandboxInstanceId : String} {input : LifecycleInput}
    {a b : SandboxInstanceStatus} {pool : LifecyclePool}
    (h : takesStatus sandboxInstanceId input a b pool = true) :
    pool.shared.status = some a ∧ ∃ out pool', LifecycleStep sandboxInstanceId pool input out pool' ∧
      pool'.shared.status = some b := by
  rcases (Option.any_eq_true_iff_get _ _).mp h with ⟨hsome, hnext⟩
  have hstatus := of_decide_eq_true hnext
  exact ⟨hstatus.1, _, _, (Option.some_get hsome).symm, hstatus.2⟩

end Mistle
