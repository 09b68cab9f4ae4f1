import Mistle.Lib.Program
import Mistle.Lib.WorkflowRuns
import Mistle.Lifecycle.Transition

/-!
# Deadlines of a Sandbox Instance

A sandbox instance has at most one deadline of each kind. To put one asks for a workflow
run at the time it is due; to put another, or to clear it, leaves the run where it is. A
run finds out whether its deadline is still the one that stands by a generation, which
goes up with every put that changes something.

Puts of one deadline take an advisory lock, so that none comes between the read of the
generation and the write. A deletion, and the clearing that comes with the end of the
sandbox, take none.

The state keeps a record of what happened to the deadline. Nothing reads the record; it
is what the statements about runs speak of.

## Main definitions

* `DateTexts`: What becomes of the text of an instant, in the program and in the database.
* `computeNextGeneration`, `putSandboxInstanceDeadline`, `deleteSandboxInstanceDeadline`:
  The requests.
* `checkDeadline`, `handleSandboxInstanceDeadline`: The workflow.
* `DeadlineState`, `DeadlineOp.perform`: The tables and the statements.
* `deadlineSystem`: Requests, workflow executions and the end of the sandbox.
-/

namespace Mistle

inductive SandboxInstanceDeadlineKind where
  | idle
  | disconnect
  deriving DecidableEq

def SandboxInstanceDeadlineKind.text : SandboxInstanceDeadlineKind → String
  | .idle => "idle"
  | .disconnect => "disconnect"

/-- The texts of instants. `toISOString` is the canonical text of the date that a text is
    read as, if it is one; `stored` is the text that a column answers with which a text was
    written to, if the database takes it. -/
structure DateTexts where
  toISOString : String → Option String
  stored : String → Option String

def isCanonicalUtcIsoString (dates : DateTexts) (value : String) : Prop :=
  dates.toISOString value = some value

instance (dates : DateTexts) (value : String) : Decidable (isCanonicalUtcIsoString dates value) :=
  inferInstanceAs (Decidable (_ = _))

/-! ### Puts -/

structure PutSandboxInstanceDeadlineInput where
  sandboxInstanceId : String
  kind : SandboxInstanceDeadlineKind
  ownerLeaseId : String
  dueAt : String
  deriving DecidableEq

structure PutSandboxInstanceDeadlineAcceptedResponse where
  sandboxInstanceId : String
  kind : SandboxInstanceDeadlineKind
  generation : Nat
  workflowRunId : String
  deriving DecidableEq

structure PersistedSandboxInstanceDeadline where
  ownerLeaseId : String
  dueAt : String
  generation : Nat
  clearedAt : Option String
  deriving DecidableEq

structure HandleSandboxInstanceDeadlineWorkflowInput where
  sandboxInstanceId : String
  kind : SandboxInstanceDeadlineKind
  ownerLeaseId : String
  dueAt : String
  generation : Nat
  deriving DecidableEq

def createDeadlineWorkflowIdempotencyKey (input : HandleSandboxInstanceDeadlineWorkflowInput) :
    String :=
  s!"deadline:{input.sandboxInstanceId}:{input.kind.text}:{input.ownerLeaseId}:" ++
    s!"{input.dueAt}:{input.generation}"

/-- A text that is no date throws when it is made canonical. -/
def canonicalizePersistedDueAt (dates : DateTexts) (dueAt : String) : Except String String :=
  match dates.toISOString dueAt with
  | none => .error "Invalid time value"
  | some canonical => .ok canonical

def computeNextGeneration (dates : DateTexts)
    (currentDeadline : Option PersistedSandboxInstanceDeadline) (ownerLeaseId dueAt : String) :
    Except String Nat :=
  match currentDeadline with
  | none => .ok 1
  | some currentDeadline =>
    if currentDeadline.clearedAt ≠ none ∨ currentDeadline.ownerLeaseId ≠ ownerLeaseId then
      .ok (currentDeadline.generation + 1)
    else
      match canonicalizePersistedDueAt dates currentDeadline.dueAt with
      | .error e => .error e
      | .ok canonical =>
        if canonical ≠ dueAt then .ok (currentDeadline.generation + 1)
        else .ok currentDeadline.generation

/-! ### The workflow -/

inductive HandleSandboxInstanceDeadlineOutcome where
  | executed
  | deadlineMissing
  | deadlineCleared
  | deadlineGenerationMismatch
  | deadlineOwnerLeaseMismatch
  | deadlineDueAtMismatch
  | snapshotSkipped
  | action (outcome : String)
  deriving DecidableEq

/-- The checks of a deadline that was found, whose due time is canonical by now. -/
def checkDeadline (input : HandleSandboxInstanceDeadlineWorkflowInput)
    (deadline : PersistedSandboxInstanceDeadline) : Option HandleSandboxInstanceDeadlineOutcome :=
  if deadline.clearedAt ≠ none then some .deadlineCleared
  else if deadline.generation ≠ input.generation then some .deadlineGenerationMismatch
  else if deadline.ownerLeaseId ≠ input.ownerLeaseId then some .deadlineOwnerLeaseMismatch
  else if deadline.dueAt ≠ input.dueAt then some .deadlineDueAtMismatch
  else none

/-- What a deadline is for. -/
inductive DeadlineAction where
  | stopSandboxInstance (stopReason : SandboxStopReason) (expectedOwnerLeaseId : String)
  | reconcileSandboxInstance (reason expectedOwnerLeaseId : String)
  deriving DecidableEq

def executeDeadlineAction (kind : SandboxInstanceDeadlineKind) (ownerLeaseId : String) :
    DeadlineAction :=
  match kind with
  | .idle => .stopSandboxInstance .idle ownerLeaseId
  | .disconnect => .reconcileSandboxInstance "disconnect_grace_elapsed" ownerLeaseId

structure DeadlineActionResult where
  executed : Bool
  outcome : String
  deriving DecidableEq

/-! ### Statements -/

/-- What happens to a deadline: a put is committed; it is cleared, while a put has read it
    and not yet written it or while none has; an execution of the workflow reads it, each
    under a number of its own, and goes on to the action. -/
inductive DeadlineRecord where
  | put (ownerLeaseId dueAt : String) (generation : Nat)
  | cleared (duringPut : Bool)
  | looked (look : Nat) (input : HandleSandboxInstanceDeadlineWorkflowInput)
  | acted (look : Nat)
  deriving DecidableEq

/-- The transaction that has the advisory lock, and what it has read. -/
structure DeadlineWriteLock where
  transaction : Nat
  reads : List (Option PersistedSandboxInstanceDeadline) := []
  deriving DecidableEq

/-- The deadline of one sandbox instance and kind, the purpose of the instance, and the runs
    of the workflow. -/
structure DeadlineState where
  deadline : Option PersistedSandboxInstanceDeadline := none
  purpose : Option SandboxInstancePurpose
  workflowRuns : List (WorkflowRun HandleSandboxInstanceDeadlineWorkflowInput) := []
  lock : Option DeadlineWriteLock := none
  transactions : Nat := 0
  looks : Nat := 0
  record : List DeadlineRecord := []

inductive DeadlineOp where
  | acquireWriteLock
  | readCurrentDeadline (transaction : Nat)
  | persistDeadline (transaction : Nat) (ownerLeaseId dueAt : String) (generation : Nat)
  | rollback (transaction : Nat)
  | runWorkflow (input : HandleSandboxInstanceDeadlineWorkflowInput)
  | deleteDeadline (ownerLeaseId : String)
  | findDeadline (input : HandleSandboxInstanceDeadlineWorkflowInput)
  | findSandboxInstance
  | executeAction (look : Nat) (action : DeadlineAction)

/-- What a statement answers. A transaction is known by its number. -/
@[reducible] def DeadlineOp.Row : DeadlineOp → Type
  | .acquireWriteLock => Nat
  | .readCurrentDeadline _ => Option PersistedSandboxInstanceDeadline
  | .persistDeadline _ _ _ _ => Unit
  | .rollback _ => Unit
  | .runWorkflow _ => String
  | .deleteDeadline _ => Unit
  | .findDeadline _ => Nat × Option PersistedSandboxInstanceDeadline
  | .findSandboxInstance => Option SandboxInstancePurpose
  | .executeAction _ _ => DeadlineActionResult

/-- What the environment decides in a statement. The action is a workflow of its own, which
    writes no deadline but to clear it. -/
structure DeadlineChoice where
  now : String := ""
  freshId : String := ""
  actionResult : DeadlineActionResult := ⟨true, "stopped"⟩
  answer : StatementAnswer := .arrives

def HandleSandboxInstanceDeadlineWorkflowName : String :=
  "data-plane.sandbox-instance-deadlines.handle"

/-- Set the time of clearing where the deadline is one that is meant and is not cleared. -/
def DeadlineState.clear (now : String) (meant : PersistedSandboxInstanceDeadline → Bool)
    (s : DeadlineState) : DeadlineState :=
  match s.deadline with
  | none => s
  | some deadline =>
    if meant deadline = true ∧ deadline.clearedAt = none then
      { s with
        deadline := some { deadline with clearedAt := some now }
        record := s.record ++
          [.cleared (decide (∃ lock ∈ s.lock, lock.reads ≠ []))] }
    else s

/-- The transaction has the lock. -/
def DeadlineState.LockedBy (s : DeadlineState) (transaction : Nat) : Prop :=
  s.lock.map DeadlineWriteLock.transaction = some transaction

instance (s : DeadlineState) (transaction : Nat) : Decidable (s.LockedBy transaction) :=
  inferInstanceAs (Decidable (_ = _))

/-- Whether the statement can be made now: to take the lock is to wait until it is free,
    and a transaction has it to its end. -/
def DeadlineOp.Enabled (s : DeadlineState) : DeadlineOp → Prop
  | .acquireWriteLock => s.lock = none
  | .readCurrentDeadline transaction => s.LockedBy transaction
  | .persistDeadline transaction _ _ _ => s.LockedBy transaction
  | .rollback transaction => s.LockedBy transaction
  | _ => True

instance (s : DeadlineState) (op : DeadlineOp) : Decidable (op.Enabled s) := by
  cases op <;> simp only [DeadlineOp.Enabled] <;> infer_instance

open Program (query Fallible)

/-- What a statement does where it answers. The row is written and committed in one: the
    upsert locks it to the end of the transaction, and with that the advisory lock ends. -/
def DeadlineOp.apply (dates : DateTexts) (c : DeadlineChoice) (s : DeadlineState) :
    (op : DeadlineOp) → DeadlineState × Fallible String DeadlineOp.Row op
  | .acquireWriteLock =>
    ({ s with lock := some ⟨s.transactions, []⟩, transactions := s.transactions + 1 },
      .ok s.transactions)
  | .readCurrentDeadline _ =>
    ({ s with lock := s.lock.map fun lock => { lock with reads := lock.reads ++ [s.deadline] } },
      .ok s.deadline)
  | .persistDeadline _ ownerLeaseId dueAt generation =>
    match dates.stored dueAt with
    | none => ({ s with lock := none }, .error "invalid input syntax for type timestamp")
    | some stored =>
      ({ s with
          deadline := some ⟨ownerLeaseId, stored, generation, none⟩
          lock := none
          record := s.record ++ [.put ownerLeaseId dueAt generation] }, .ok ())
  | .rollback _ => ({ s with lock := none }, .ok ())
  | .runWorkflow input =>
    let started := Mistle.runWorkflow HandleSandboxInstanceDeadlineWorkflowName input
      (createDeadlineWorkflowIdempotencyKey input) c.freshId s.workflowRuns
    ({ s with workflowRuns := started.1 }, .ok started.2.id)
  | .deleteDeadline ownerLeaseId =>
    (s.clear c.now fun deadline => decide (deadline.ownerLeaseId = ownerLeaseId), .ok ())
  | .findDeadline input =>
    ({ s with looks := s.looks + 1, record := s.record ++ [.looked s.looks input] },
      .ok (s.looks, s.deadline))
  | .findSandboxInstance => (s, .ok s.purpose)
  | .executeAction look _ =>
    ({ s with record := s.record ++ [.acted look] }, .ok c.actionResult)

/-- A transaction in which a statement fails is over. -/
def DeadlineOp.abandon (s : DeadlineState) : DeadlineOp → DeadlineState
  | .acquireWriteLock => { s with lock := none }
  | .readCurrentDeadline _ => { s with lock := none }
  | .persistDeadline _ _ _ _ => { s with lock := none }
  | .rollback _ => { s with lock := none }
  | _ => s

/-- A statement, which may fail. -/
def DeadlineOp.perform (dates : DateTexts) (op : DeadlineOp) (c : DeadlineChoice)
    (s : DeadlineState) : Option (DeadlineState × Fallible String DeadlineOp.Row op) :=
  if op.Enabled s then
    match c.answer with
    | .arrives => some (op.apply dates c s)
    | .fails message => some (op.abandon s, .error message)
    | .lost message => some (op.abandon (op.apply dates c s).1, .error message)
  else none

/-! ### Requests and executions -/

abbrev DeadlineProgram := Program.Query String DeadlineOp DeadlineOp.Row

open DeadlineOp (acquireWriteLock readCurrentDeadline persistDeadline rollback deleteDeadline
  findDeadline findSandboxInstance executeAction)

/-- The write of the next generation, where there is one to write. -/
def persistNextGeneration (input : PutSandboxInstanceDeadlineInput) (transaction : Nat) :
    Except String Nat → DeadlineProgram Nat
  | .error e => do
    query (rollback transaction)
    throw e
  | .ok nextGeneration => do
    query (persistDeadline transaction input.ownerLeaseId input.dueAt nextGeneration)
    return nextGeneration

def writeSandboxInstanceDeadline (dates : DateTexts) (input : PutSandboxInstanceDeadlineInput) :
    DeadlineProgram Nat := do
  let transaction ← query acquireWriteLock
  let currentDeadline ← query (readCurrentDeadline transaction)
  persistNextGeneration input transaction
    (computeNextGeneration dates currentDeadline input.ownerLeaseId input.dueAt)

def putSandboxInstanceDeadline (dates : DateTexts) (input : PutSandboxInstanceDeadlineInput) :
    DeadlineProgram PutSandboxInstanceDeadlineAcceptedResponse := do
  let generation ← writeSandboxInstanceDeadline dates input
  let workflowRunId ← query (.runWorkflow ⟨input.sandboxInstanceId, input.kind,
    input.ownerLeaseId, input.dueAt, generation⟩)
  return ⟨input.sandboxInstanceId, input.kind, generation, workflowRunId⟩

structure DeleteSandboxInstanceDeadlineInput where
  sandboxInstanceId : String
  kind : SandboxInstanceDeadlineKind
  ownerLeaseId : String
  deriving DecidableEq

def deleteSandboxInstanceDeadline (input : DeleteSandboxInstanceDeadlineInput) :
    DeadlineProgram Unit :=
  query (deleteDeadline input.ownerLeaseId)

/-- The deadline that is found is answered with its due time in canonical form. -/
def canonicalizeFoundDeadline (dates : DateTexts) (deadline : PersistedSandboxInstanceDeadline) :
    Except String PersistedSandboxInstanceDeadline :=
  match canonicalizePersistedDueAt dates deadline.dueAt with
  | .error e => .error e
  | .ok canonical => .ok { deadline with dueAt := canonical }

/-- What follows where every check is passed: a sandbox that is there for a snapshot is left
    alone. -/
def executeDeadline (input : HandleSandboxInstanceDeadlineWorkflowInput) (look : Nat)
    (ownerLeaseId : String) : DeadlineProgram HandleSandboxInstanceDeadlineOutcome := do
  let purpose ← query findSandboxInstance
  if purpose = some .snapshot then return .snapshotSkipped
  else
    let actionResult ← query (executeAction look (executeDeadlineAction input.kind ownerLeaseId))
    return if actionResult.executed then .executed else .action actionResult.outcome

def handleSandboxInstanceDeadline (dates : DateTexts)
    (input : HandleSandboxInstanceDeadlineWorkflowInput) :
    DeadlineProgram HandleSandboxInstanceDeadlineOutcome := do
  match ← query (findDeadline input) with
  | (_, none) => return .deadlineMissing
  | (look, some found) =>
    let deadline ← Program.lift (canonicalizeFoundDeadline dates found)
    match checkDeadline input deadline with
    | some outcome => return outcome
    | none => executeDeadline input look deadline.ownerLeaseId

/-! ### The system -/

inductive DeadlineCall where
  | put (input : PutSandboxInstanceDeadlineInput)
  | delete (input : DeleteSandboxInstanceDeadlineInput)
  | handle (input : HandleSandboxInstanceDeadlineWorkflowInput)
  deriving DecidableEq

inductive DeadlineAnswer where
  | accepted (response : PutSandboxInstanceDeadlineAcceptedResponse)
  | deleted
  | handled (outcome : HandleSandboxInstanceDeadlineOutcome)
  deriving DecidableEq

abbrev DeadlineOutcome := Except String DeadlineAnswer

def DeadlineCall.program (dates : DateTexts) : DeadlineCall → DeadlineProgram DeadlineAnswer
  | .put input => do return .accepted (← putSandboxInstanceDeadline dates input)
  | .delete input => do
    deleteSandboxInstanceDeadline input
    return .deleted
  | .handle input => do return .handled (← handleSandboxInstanceDeadline dates input)

/-- Whether a call is one for this deadline: a request has passed the schema of its body,
    and an execution is one of a run that was asked for. -/
def DeadlineCall.Admitted (dates : DateTexts) (sandboxInstanceId : String)
    (kind : SandboxInstanceDeadlineKind) (s : DeadlineState) : DeadlineCall → Prop
  | .put input => input.sandboxInstanceId = sandboxInstanceId ∧ input.kind = kind ∧
      input.ownerLeaseId ≠ "" ∧ input.dueAt ≠ "" ∧ isCanonicalUtcIsoString dates input.dueAt
  | .delete input => input.sandboxInstanceId = sandboxInstanceId ∧ input.kind = kind ∧
      input.ownerLeaseId ≠ ""
  | .handle input => input.sandboxInstanceId = sandboxInstanceId ∧ input.kind = kind ∧
      ∃ run ∈ s.workflowRuns, run.input = input

instance (dates : DateTexts) (sandboxInstanceId : String) (kind : SandboxInstanceDeadlineKind)
    (s : DeadlineState) (call : DeadlineCall) :
    Decidable (call.Admitted dates sandboxInstanceId kind s) := by
  cases call <;> simp only [DeadlineCall.Admitted] <;> infer_instance

/-- The end of the sandbox clears its deadlines, by `clearSandboxInstanceDeadlines`. -/
inductive DeadlineEvent where
  | clearSandboxInstanceDeadlines (now : String)
  deriving DecidableEq

def deadlineSystem (dates : DateTexts) (sandboxInstanceId : String)
    (kind : SandboxInstanceDeadlineKind) :
    System DeadlineState DeadlineEvent DeadlineCall DeadlineChoice DeadlineOutcome DeadlineOp
      (Fallible String DeadlineOp.Row) where
  outside
    | .clearSandboxInstanceDeadlines now, s => some (s.clear now fun _ => true)
  start call s :=
    if call.Admitted dates sandboxInstanceId kind s then some (s, (call.program dates).run)
    else none
  perform _ op c s := op.perform dates c s
  again _ _ := none

abbrev DeadlinePool :=
  Pool DeadlineState DeadlineCall DeadlineOutcome DeadlineOp (Fallible String DeadlineOp.Row)

abbrev DeadlineInput := PoolInput DeadlineEvent DeadlineCall DeadlineChoice

abbrev DeadlineStepEvent :=
  SystemEvent DeadlineEvent DeadlineCall DeadlineChoice DeadlineOutcome DeadlineOp

/-- Before the first put: nothing is stored, and nothing is under way. -/
def noDeadlines (purpose : Option SandboxInstancePurpose) : DeadlinePool :=
  ⟨⟨none, purpose, [], none, 0, 0, []⟩, []⟩

end Mistle
