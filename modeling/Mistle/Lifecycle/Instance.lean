import Mistle.Lib.Program
import Mistle.Lifecycle.Transition

/-!
# The Row of a Sandbox Instance

What the services share about one sandbox instance: its row in the database, and the
attachment of its bootstrap session that the gateway keeps. Every writer of the row makes
statements of its own, and between two statements others may make any of theirs.

An update of the status names the status it leads from, and takes effect where the row
has it. A transaction that selects the row for update has it locked to its end; an update
by another waits for that where it would match.

The gateway admits a bootstrap session under a new owner lease and records its attachment,
which a detach clears if it is still the lease's own. The leases are kept in the order in
which they were admitted, for the statements about them.

## Main definitions

* `SandboxInstance`, `LifecycleState`: The row, and what is shared.
* `Owners`: What the gateway keeps of the owners.
* `LifecycleOp`, `LifecycleOp.perform`: The statements.
* `GatewayEvent`, `GatewayEvent.apply`: What the gateway does, and the deletion of the instance.

## Theorems

* `LifecycleOp.perform_cases`: The ways a statement ends.
* `LifecycleOp.perform_owners`: Statements leave the owners as they are.
-/

namespace Mistle

structure SandboxRuntimeAttachment where
  ownerLeaseId : String
  sessionId : String
  deriving DecidableEq

structure SandboxRuntimeStateSnapshot where
  ownerLeaseId : Option String
  attachment : Option SandboxRuntimeAttachment
  deriving DecidableEq

structure SandboxInstance where
  organizationId : String
  purpose : SandboxInstancePurpose
  status : SandboxInstanceStatus
  providerSandboxId : Option String := none
  stopReason : Option SandboxStopReason := none
  failureCode : Option String := none
  failureMessage : Option String := none
  deleted : Bool := false
  deriving DecidableEq

structure LifecycleState where
  row : Option SandboxInstance := none
  attachment : Option SandboxRuntimeAttachment := none
  admitted : List String := []
  attached : List String := []
  lock : Option Nat := none
  transactions : Nat := 0

/-- What the gateway keeps: who is attached, who was admitted, and who has ever attached. -/
structure Owners where
  attachment : Option SandboxRuntimeAttachment
  admitted : List String
  attached : List String

def LifecycleState.owners (s : LifecycleState) : Owners :=
  ⟨s.attachment, s.admitted, s.attached⟩

/-! ### Statements -/

inductive ProviderState where
  | active
  | stopping
  | resumableStopped
  | terminalStopped
  | missing
  deriving DecidableEq

/-- What the environment decides in a statement. `idleDeadline` is whether the idle deadline
    is still the lease's, `startupFailure` what the startup has left as evidence, and
    `runtimePlanMatches` whether the runtime plan that is stored is the one meant. -/
structure LifecycleChoice where
  provider : ProviderState := .active
  providerFound : Bool := true
  idleDeadline : Bool := true
  startupFailure : Option String := none
  runtimePlanMatches : Bool := true
  answer : StatementAnswer := .arrives

inductive LifecycleOp where
  | readSnapshot
  | findInstance (withDeleted : Bool) (organizationId : Option String)
  | updateStatus (source target : SandboxInstanceStatus) (set : SandboxInstance → SandboxInstance)
  | updateInstance (withDeleted : Bool) (set : SandboxInstance → SandboxInstance)
  | lockInstance
  | commitStatus (transaction : Nat) (source target : SandboxInstanceStatus)
      (set : SandboxInstance → SandboxInstance)
  | endTransaction (transaction : Nat)
  | updateFailed (sources : List SandboxInstanceStatus) (failureCode failureMessage : String)
  | provision (providerSandboxId : String)
  | insertInstance (organizationId : String) (purpose : SandboxInstancePurpose)
  | inspectProvider
  | stopProvider
  | findStartupFailure
  | lockIdleDeadline (ownerLeaseId : String)
  | compareRuntimePlan

/-- What a statement answers. An update answers whether the row was one it meant, and a stop
    whether the provider has found the sandbox. -/
@[reducible] def LifecycleOp.Row : LifecycleOp → Type
  | .readSnapshot => SandboxRuntimeStateSnapshot
  | .findInstance _ _ => Option SandboxInstance
  | .updateStatus _ _ _ => Bool
  | .updateInstance _ _ => Unit
  | .lockInstance => Nat × Option SandboxInstanceStatus
  | .commitStatus _ _ _ _ => Bool
  | .endTransaction _ => Unit
  | .updateFailed _ _ _ => Bool
  | .provision _ => Bool
  | .insertInstance _ _ => Unit
  | .inspectProvider => ProviderState
  | .stopProvider => Bool
  | .findStartupFailure => Option String
  | .lockIdleDeadline _ => Bool
  | .compareRuntimePlan => Bool

/-- The row where an update means it: whether it may be deleted, and which statuses. -/
def LifecycleState.matching (s : LifecycleState) (withDeleted : Bool)
    (sources : SandboxInstanceStatus → Bool) : Option SandboxInstance :=
  s.row.filter fun row => (withDeleted || !row.deleted) && sources row.status

/-- Write the row: its new status, and what else is set. -/
def LifecycleState.write (s : LifecycleState) (row : SandboxInstance)
    (target : SandboxInstanceStatus) (set : SandboxInstance → SandboxInstance) : LifecycleState :=
  { s with row := some { set row with status := target } }

/-- The row that an update without a transaction of its own would write. -/
def LifecycleOp.target (s : LifecycleState) : LifecycleOp → Option SandboxInstance
  | .updateStatus source _ _ => s.matching false (· = source)
  | .updateInstance withDeleted _ => s.matching withDeleted fun _ => true
  | .updateFailed sources _ _ => s.matching true (· ∈ sources)
  | .provision _ => s.matching false (· = .starting)
  | .insertInstance _ _ => s.row
  | _ => none

/-- Whether a statement can be made now. To lock the row, or to write it, is to wait until
    it is free. -/
def LifecycleOp.Enabled (s : LifecycleState) : LifecycleOp → Prop
  | .lockInstance => s.lock = none
  | .commitStatus transaction _ _ _ => s.lock = some transaction
  | op => s.lock = none ∨ op.target s = none

instance LifecycleOp.decidableEnabled (s : LifecycleState) (op : LifecycleOp) :
    Decidable (op.Enabled s) := by
  cases op <;> simp only [LifecycleOp.Enabled] <;> infer_instance

def LifecycleState.snapshot (s : LifecycleState) : SandboxRuntimeStateSnapshot :=
  ⟨s.attachment.map SandboxRuntimeAttachment.ownerLeaseId, s.attachment⟩

/-- What a statement does where it answers. A transaction that ends with an update is
    committed with it, and the row is free again. -/
def LifecycleOp.apply (c : LifecycleChoice) (s : LifecycleState) :
    (op : LifecycleOp) → LifecycleState × op.Row
  | .readSnapshot => (s, s.snapshot)
  | .findInstance withDeleted organizationId =>
    (s, (s.matching withDeleted fun _ => true).filter fun row =>
      organizationId.all fun id => decide (row.organizationId = id))
  | .updateStatus source target set =>
    match s.matching false (· = source) with
    | none => (s, false)
    | some row => (s.write row target set, true)
  | .updateInstance withDeleted set =>
    match s.matching withDeleted fun _ => true with
    | none => (s, ())
    | some row => (s.write row row.status set, ())
  | .lockInstance =>
    ({ s with lock := some s.transactions, transactions := s.transactions + 1 },
      (s.transactions, s.row.map SandboxInstance.status))
  | .commitStatus _ source target set =>
    match s.matching true (· = source) with
    | none => ({ s with lock := none }, false)
    | some row => ({ s.write row target set with lock := none }, true)
  | .endTransaction transaction =>
    (if s.lock = some transaction then { s with lock := none } else s, ())
  | .updateFailed sources failureCode failureMessage =>
    match s.matching true (· ∈ sources) with
    | none => (s, false)
    | some row =>
      (s.write row .failed fun row => { row with
        stopReason := some .failed
        failureCode := some failureCode
        failureMessage := some failureMessage }, true)
  | .provision providerSandboxId =>
    match s.matching false (· = .starting) with
    | none => (s, false)
    | some row =>
      -- In the transaction the row is read as it was locked, and its next status written.
      match transitionSandboxLifecycle row.status .providerStartAccepted with
      | .transition _ target =>
        (s.write row target fun row => { row with
          providerSandboxId := some providerSandboxId }, true)
      | _ => (s, false)
  | .insertInstance organizationId purpose =>
    match s.row with
    | none => ({ s with row := some { organizationId, purpose, status := .pending } }, ())
    | some _ => (s, ())
  | .inspectProvider => (s, c.provider)
  | .stopProvider => (s, c.providerFound)
  | .findStartupFailure => (s, c.startupFailure)
  | .lockIdleDeadline _ => (s, c.idleDeadline)
  | .compareRuntimePlan => (s, c.runtimePlanMatches)

inductive LifecycleError where
  | error (message : String)
  | notFound (code message : String)
  | conflict (code message : String)
  | statement (message : String)
  deriving DecidableEq

/-- A transaction in which a statement fails is over. -/
def LifecycleOp.abandon (s : LifecycleState) : LifecycleOp → LifecycleState
  | .lockInstance => { s with lock := none }
  | .commitStatus _ _ _ _ => { s with lock := none }
  | .endTransaction transaction => if s.lock = some transaction then { s with lock := none } else s
  | _ => s

open Program (Fallible)

/-- A statement, which may fail. -/
def LifecycleOp.perform (op : LifecycleOp) (c : LifecycleChoice) (s : LifecycleState) :
    Option (LifecycleState × Fallible LifecycleError LifecycleOp.Row op) :=
  if op.Enabled s then
    match c.answer with
    | .arrives => some ((op.apply c s).1, .ok (op.apply c s).2)
    | .fails message => some (op.abandon s, .error (.statement message))
    | .lost message => some (op.abandon (op.apply c s).1, .error (.statement message))
  else none

/-- The ways a statement ends: it answers, or it fails, with or without effect. -/
theorem LifecycleOp.perform_cases {op : LifecycleOp} {c : LifecycleChoice} {s t : LifecycleState}
    {r : Fallible LifecycleError LifecycleOp.Row op} (h : op.perform c s = some (t, r)) :
    op.Enabled s ∧
      ((c.answer = .arrives ∧ t = (op.apply c s).1 ∧ r = .ok (op.apply c s).2) ∨
        (c.answer ≠ .arrives ∧ (t = op.abandon s ∨ t = op.abandon (op.apply c s).1) ∧
          ∃ e, r = .error e)) := by
  unfold LifecycleOp.perform at h
  split at h
  · rename_i henabled
    refine ⟨henabled, ?_⟩
    split at h
    · rename_i harrives
      rw [Option.some.injEq, Prod.mk.injEq] at h
      exact .inl ⟨harrives, h.1.symm, h.2.symm⟩
    · rename_i message hfails
      rw [Option.some.injEq, Prod.mk.injEq] at h
      exact .inr ⟨hfails ▸ fun h => (nomatch h), .inl h.1.symm, _, h.2.symm⟩
    · rename_i message hlost
      rw [Option.some.injEq, Prod.mk.injEq] at h
      exact .inr ⟨hlost ▸ fun h => (nomatch h), .inr h.1.symm, _, h.2.symm⟩
  · exact absurd h (by simp only [reduceCtorEq, not_false_eq_true])

theorem LifecycleOp.apply_owners (op : LifecycleOp) (c : LifecycleChoice) (s : LifecycleState) :
    (op.apply c s).1.owners = s.owners := by
  cases op with
  | provision providerSandboxId =>
      simp only [LifecycleOp.apply]
      split
      · rfl
      · split <;> rfl
  | updateStatus source target set => simp only [LifecycleOp.apply]; split <;> rfl
  | updateInstance withDeleted set => simp only [LifecycleOp.apply]; split <;> rfl
  | commitStatus transaction source target set => simp only [LifecycleOp.apply]; split <;> rfl
  | endTransaction transaction => simp only [LifecycleOp.apply]; split <;> rfl
  | updateFailed sources failureCode failureMessage =>
      simp only [LifecycleOp.apply]
      split <;> rfl
  | insertInstance organizationId purpose => simp only [LifecycleOp.apply]; split <;> rfl
  | _ => rfl

theorem LifecycleOp.abandon_owners (op : LifecycleOp) (s : LifecycleState) :
    (op.abandon s).owners = s.owners := by
  cases op with
  | endTransaction transaction => simp only [LifecycleOp.abandon]; split <;> rfl
  | _ => rfl

theorem LifecycleOp.perform_owners {op : LifecycleOp} {c : LifecycleChoice} {s t : LifecycleState}
    {r : Fallible LifecycleError LifecycleOp.Row op} (h : op.perform c s = some (t, r)) :
    t.owners = s.owners := by
  rcases (perform_cases h).2 with ⟨_, ht, _⟩ | ⟨_, ht | ht, _⟩
  · rw [ht, apply_owners]
  · rw [ht, abandon_owners]
  · rw [ht, abandon_owners, apply_owners]

/-! ### The gateway -/

/-- What happens outside of the calls. A lease is admitted once, before its session attaches. -/
inductive GatewayEvent where
  | admitLease (ownerLeaseId : String)
  | attach (ownerLeaseId sessionId : String)
  | detach (ownerLeaseId : String)
  | expire
  | deleteInstance
  deriving DecidableEq

def GatewayEvent.apply (s : LifecycleState) : GatewayEvent → Option LifecycleState
  | .admitLease ownerLeaseId =>
    if ownerLeaseId ∈ s.admitted then none
    else some { s with admitted := s.admitted ++ [ownerLeaseId] }
  | .attach ownerLeaseId sessionId =>
    if ownerLeaseId ∈ s.admitted then
      some { s with
        attachment := some ⟨ownerLeaseId, sessionId⟩
        attached := s.attached ++ [ownerLeaseId] }
    else none
  | .detach ownerLeaseId =>
    some { s with
      attachment := s.attachment.filter fun current => current.ownerLeaseId ≠ ownerLeaseId }
  | .expire => some { s with attachment := none }
  | .deleteInstance => some { s with row := s.row.map fun row => { row with deleted := true } }

end Mistle
