import Mistle.Delivery.Associations
import Mistle.Lib.Run

/-!
# Handlers and Executions

Any number of webhook handlers queue deliveries of an association and see to it that a
processor is started, and any number of executions work off the workflow runs that were
started: more than one execution of a run, too, as a workflow engine resumes a run whose
worker it has lost sight of. Everything happens statement by statement. A transaction that
selects the row of the processor for update holds it until the end, and who wants to write
the row or to select it for update waits; a statement whose condition the row does not meet
does not wait.

A statement may fail, with which the transaction it is in is undone, or it may be done and
its answer is lost. Either way the step it belongs to is taken again from its start.

## Main definitions

* `WebhookHandler`, `Execution`: How far each has come.
* `DeliverySystem`: The rows, the row lock, the workflow runs, the handlers and executions.
* `DeliverySystem.handle`, `DeliverySystem.execute`: One statement.
* `DeliverySystem.step`: One step; the output is the generation that a handler is told to start.
* `Change`: What a step can do.

## Theorems

* `change_of_step`: A step does one of these.
-/

namespace Mistle

/-- What becomes of a statement. -/
inductive StatementFate where
  | arrives
  | fails
  | lost
  deriving DecidableEq

inductive HandlerPhase where
  | enqueuing
  | inserting
  | restarting
  | finding
  | starting (generation : Nat)
  | idling (generation : Nat)
  | done
  deriving DecidableEq

structure WebhookHandler where
  input : EnqueueAssociationDeliveryInput
  phase : HandlerPhase

inductive ExecutionPhase where
  | checking
  | claiming
  | claimLocked
  | claimNext
  | claimUpdate (deliveryId : String)
  | idling
  | idleLocked
  | idleEmpty
  | marking (deliveryId : String)
  | submitting (deliveryId : String) (resumed : Bool)
  | failing (deliveryId : String) (resumed : Bool) (failure : AssociationDeliveryError)
  | finalizing (input : FinalizeDeliveryInput)
  | ended
  deriving DecidableEq

structure Execution where
  generation : Nat
  phase : ExecutionPhase

/-- What becomes of a submission to the conversation. -/
inductive SubmitOutcome where
  | delivered
  | refused (failure : AssociationDeliveryError)
  | throws

structure DeliverySystem where
  processor : Option DeliveryProcessor
  deliveries : List AssociationDelivery
  /-- The execution whose transaction has selected the row of the processor for update. -/
  holder : Option Nat
  /-- The generations whose workflow runs there are. -/
  runs : List Nat
  handlers : List WebhookHandler
  executions : List Execution

inductive DeliveryInput where
  | receives (input : EnqueueAssociationDeliveryInput)
  | handles (handler : Nat) (newId : String) (now : Instant) (answer : StatementFate)
  /-- The step of a handler is taken again from its start. -/
  | interrupts (handler : Nat)
  /-- `usedUp` is the failure of a delivery whose step is not attempted again. -/
  | executes (execution : Nat) (now : Instant) (answer : StatementFate)
      (outcome : SubmitOutcome) (usedUp : Option AssociationDeliveryError)
  /-- Another worker takes the run over. -/
  | resumes (execution : Nat)
  /-- The run has failed. -/
  | givesUp (execution : Nat)

namespace ExecutionPhase

/-- In a transaction that has selected the row of the processor for update. -/
def Locked : ExecutionPhase → Prop
  | .claimLocked | .claimNext | .claimUpdate _ | .idleLocked | .idleEmpty => True
  | _ => False

instance : DecidablePred Locked
  | .claimLocked | .claimNext | .claimUpdate _ | .idleLocked | .idleEmpty => .isTrue trivial
  | .checking | .claiming | .idling | .marking _ | .submitting _ _ | .failing _ _ _
  | .finalizing _ | .ended => .isFalse id

/-- Neither in such a transaction nor at the end. -/
def Going : ExecutionPhase → Prop
  | .checking | .claiming | .idling | .marking _ | .submitting _ _ | .failing _ _ _
  | .finalizing _ => True
  | _ => False

/-- The delivery of what was claimed, or had been claimed. -/
def deliver (deliveryId : String) (resumed : Bool) : ExecutionPhase :=
  if resumed then .submitting deliveryId true else .marking deliveryId

theorem Going.unlocked {phase : ExecutionPhase} (h : phase.Going) : ¬ phase.Locked := by
  intro hlocked
  cases phase <;> first | exact h | exact hlocked

theorem Going.ne_ended {phase : ExecutionPhase} (h : phase.Going) : phase ≠ .ended := by
  intro hended
  rw [hended] at h
  exact h

/-- The step that a phase belongs to, from its start. -/
def again : ExecutionPhase → ExecutionPhase
  | .claimLocked | .claimNext | .claimUpdate _ => .claiming
  | .idleLocked | .idleEmpty => .idling
  | .submitting deliveryId resumed | .failing deliveryId resumed _ => deliver deliveryId resumed
  | phase => phase

/-- The delivery is attempted again, or its attempts are used up. -/
def retried (generation : Nat) (deliveryId : String) (resumed : Bool) :
    Option AssociationDeliveryError → ExecutionPhase
  | none => deliver deliveryId resumed
  | some failure =>
    .finalizing ⟨deliveryId, generation, .failed, some failure.code, some failure.message⟩

end ExecutionPhase

/-- An entry of a list that has grown by one is an old one or the new one. -/
theorem getElem?_append_singleton {α : Type} {list : List α} {last entry : α} {i : Nat}
    (h : (list ++ [last])[i]? = some entry) : list[i]? = some entry ∨ entry = last := by
  rw [List.getElem?_append] at h
  by_cases hlt : i < list.length
  · rw [if_pos hlt] at h
    exact .inl h
  · rw [if_neg hlt] at h
    have hmem := List.mem_of_getElem? h
    exact .inr (List.mem_singleton.mp hmem)

namespace DeliverySystem

/-- Before the first webhook event. -/
def start : DeliverySystem := ⟨none, [], none, [], [], []⟩

/-- Whether the row of the processor is that of a running generation. -/
def Running (s : DeliverySystem) (generation : Nat) : Prop :=
  s.processor = some ⟨generation, .running⟩

instance (s : DeliverySystem) (generation : Nat) : Decidable (s.Running generation) :=
  inferInstanceAs (Decidable (s.processor = _))

def setHandler (s : DeliverySystem) (i : Nat) (handler : WebhookHandler) (phase : HandlerPhase) :
    DeliverySystem :=
  { s with handlers := s.handlers.set i { handler with phase } }

def setExecution (s : DeliverySystem) (i : Nat) (execution : Execution) (phase : ExecutionPhase) :
    DeliverySystem :=
  { s with executions := s.executions.set i { execution with phase } }

def lock (s : DeliverySystem) (i : Nat) : DeliverySystem := { s with holder := some i }

def unlock (s : DeliverySystem) : DeliverySystem := { s with holder := none }

def setProcessor (s : DeliverySystem) (processor : Option DeliveryProcessor) : DeliverySystem :=
  { s with processor }

def setDeliveries (s : DeliverySystem) (deliveries : List AssociationDelivery) : DeliverySystem :=
  { s with deliveries }

/-- The workflow run of a generation, started once. -/
def startRun (s : DeliverySystem) (generation : Nat) : DeliverySystem :=
  if generation ∈ s.runs then s
  else { s with
    runs := s.runs ++ [generation]
    executions := s.executions ++ [⟨generation, .checking⟩] }

section

variable {s : DeliverySystem} {generation : Nat}

@[simp] theorem startRun_processor : (s.startRun generation).processor = s.processor := by
  unfold startRun
  split <;> rfl

@[simp] theorem startRun_deliveries : (s.startRun generation).deliveries = s.deliveries := by
  unfold startRun
  split <;> rfl

@[simp] theorem startRun_holder : (s.startRun generation).holder = s.holder := by
  unfold startRun
  split <;> rfl

@[simp] theorem startRun_handlers : (s.startRun generation).handlers = s.handlers := by
  unfold startRun
  split <;> rfl

theorem mem_startRun {other : Nat} :
    other ∈ (s.startRun generation).runs ↔ other ∈ s.runs ∨ other = generation := by
  unfold startRun
  by_cases hmem : generation ∈ s.runs
  · rw [if_pos hmem]
    refine ⟨.inl, fun h => h.elim id fun heq => ?_⟩
    rwa [heq]
  · rw [if_neg hmem, List.mem_append, List.mem_singleton]

/-- The executions after a start: those from before, and one of a new run. -/
theorem startRun_executions {i : Nat} {execution : Execution}
    (h : (s.startRun generation).executions[i]? = some execution) :
    s.executions[i]? = some execution ∨ execution = ⟨generation, .checking⟩ := by
  unfold startRun at h
  by_cases hmem : generation ∈ s.runs
  · rw [if_pos hmem] at h
    exact .inl h
  · rw [if_neg hmem] at h
    exact getElem?_append_singleton h

/-- No execution is lost by a start. -/
theorem startRun_keeps {i : Nat} {execution : Execution}
    (h : s.executions[i]? = some execution) :
    (s.startRun generation).executions[i]? = some execution := by
  unfold startRun
  by_cases hmem : generation ∈ s.runs
  · rwa [if_pos hmem]
  · rw [if_neg hmem]
    exact List.getElem?_append_left (List.getElem?_eq_some_iff.mp h).1 ▸ h

/-- A new run has an execution. -/
theorem startRun_new (hnew : generation ∉ s.runs) :
    (s.startRun generation).executions[s.executions.length]? = some ⟨generation, .checking⟩ := by
  unfold startRun
  rw [if_neg hnew, List.getElem?_concat_length]

end

/-! ### Handlers -/

/-- Where a handler gets to with a statement that leads to `t`. -/
def handled (s t : DeliverySystem) (i : Nat) (handler : WebhookHandler) (next again : HandlerPhase)
    (told : List Nat) : StatementFate → DeliverySystem × List Nat
  | .arrives => (t.setHandler i handler next, told)
  | .fails => (s.setHandler i handler again, [])
  | .lost => (t.setHandler i handler again, [])

/-- One statement of a handler. -/
def handle (s : DeliverySystem) (i : Nat) (handler : WebhookHandler) (newId : String)
    (now : Instant) (answer : StatementFate) : Option (DeliverySystem × List Nat) :=
  match handler.phase with
  | .enqueuing =>
    -- The id of a new row has not been used.
    if findRow AssociationDelivery.id newId s.deliveries = none then
      some (s.handled
        ((s.setDeliveries (enqueueAssociationDelivery handler.input newId now s.deliveries).1)
          |>.setProcessor (ensureAssociationDeliveryProcessor s.processor))
        i handler .inserting .enqueuing [] answer)
    else none
  | .inserting =>
    let inserted := insertRunningProcessor s.processor
    match inserted.2 with
    | some processor => some (s.handled (s.setProcessor inserted.1) i handler
        (.starting processor.generation) .enqueuing [processor.generation] answer)
    | none => some (s.handled s i handler .restarting .enqueuing [] answer)
  | .restarting =>
    let restarted := restartIdleProcessor s.processor
    match restarted.2 with
    | some processor =>
      if s.holder = none then
        some (s.handled (s.setProcessor restarted.1) i handler (.starting processor.generation)
          .enqueuing [processor.generation] answer)
      else none
    | none => some (s.handled s i handler .finding .enqueuing [] answer)
  | .finding =>
    some (s.handled s i handler (if s.processor.isSome then .done else .enqueuing) .enqueuing []
      answer)
  | .starting generation =>
    some (s.handled (s.startRun generation) i handler .done (.idling generation) [] answer)
  | .idling generation =>
    if s.Running generation then
      if s.holder = none then
        some (s.handled (s.setProcessor (setDeliveryProcessorIdle generation s.processor).1) i
          handler .enqueuing .enqueuing [] answer)
      else none
    else some (s.handled s i handler .enqueuing .enqueuing [] answer)
  | .done => none

/-! ### Executions -/

/-- Where an execution gets to with a statement that leads to `t`. -/
def executed (s t : DeliverySystem) (i : Nat) (execution : Execution)
    (next again : ExecutionPhase) : StatementFate → DeliverySystem
  | .arrives => t.setExecution i execution next
  | .fails => s.setExecution i execution again
  | .lost => t.setExecution i execution again

/-- The same for a statement of a transaction that goes on: what it has done is undone if its
    answer is lost. -/
def transacted (s t : DeliverySystem) (i : Nat) (execution : Execution)
    (next again : ExecutionPhase) : StatementFate → DeliverySystem
  | .arrives => t.setExecution i execution next
  | .fails | .lost => s.setExecution i execution again

/-- A transaction selects the row of the processor for update, if its generation is running. -/
def selectForUpdate (s : DeliverySystem) (i : Nat) (execution : Execution)
    (locked empty again : ExecutionPhase) (answer : StatementFate) : Option DeliverySystem :=
  if s.Running execution.generation then
    if s.holder = none then
      some (s.transacted (s.lock i) i execution locked again answer)
    else none
  else some (s.executed s i execution empty again answer)

/-- One statement of an execution. -/
def execute (collate : String → String → Ordering) (s : DeliverySystem) (i : Nat)
    (execution : Execution) (now : Instant) (answer : StatementFate) (outcome : SubmitOutcome)
    (usedUp : Option AssociationDeliveryError) : Option DeliverySystem :=
  let generation := execution.generation
  match execution.phase with
  | .checking =>
    some (s.executed s i execution (if s.Running generation then .claiming else .ended) .checking
      answer)
  | .claiming => s.selectForUpdate i execution .claimLocked .idling .claiming answer
  | .claimLocked =>
    match findActiveDelivery collate generation s.deliveries with
    | some delivery => some (s.unlock.executed s.unlock i execution
        (.deliver delivery.id (decide (delivery.status = .delivering))) .claiming answer)
    | none => some (s.unlock.transacted s i execution .claimNext .claiming answer)
  | .claimNext =>
    match findNextDelivery collate s.deliveries with
    | some delivery =>
      some (s.unlock.transacted s i execution (.claimUpdate delivery.id) .claiming answer)
    | none => some (s.unlock.executed s.unlock i execution .idling .claiming answer)
  | .claimUpdate deliveryId =>
    let claimed := claimDelivery generation deliveryId now s.deliveries
    some (s.unlock.executed (s.unlock.setDeliveries claimed.1) i execution
      (match claimed.2 with
      | some delivery => .marking delivery.id
      | none => .idling) .claiming answer)
  | .idling => s.selectForUpdate i execution .idleLocked .checking .idling answer
  | .idleLocked =>
    match findUnfinishedDelivery s.deliveries with
    | some _ => some (s.unlock.executed s.unlock i execution .checking .idling answer)
    | none => some (s.unlock.transacted s i execution .idleEmpty .idling answer)
  | .idleEmpty =>
    let idled := setDeliveryProcessorIdle generation s.processor
    some (s.unlock.executed (s.unlock.setProcessor idled.1) i execution
      (if idled.2 then .ended else .checking) .idling answer)
  | .marking deliveryId =>
    let marked := markDeliveryDelivering generation deliveryId now s.deliveries
    some (s.executed (s.setDeliveries marked.1) i execution
      (match marked.2 with
      | .ok _ => .submitting deliveryId false
      | .error failure => .failing deliveryId false failure)
      (.retried generation deliveryId false usedUp) answer)
  | .submitting deliveryId resumed =>
    some (s.setExecution i execution (match outcome with
      | .delivered => .finalizing ⟨deliveryId, generation, .completed, none, none⟩
      | .refused failure => .failing deliveryId resumed failure
      | .throws => .retried generation deliveryId resumed usedUp))
  | .failing deliveryId resumed failure =>
    let finalized := finalizeDelivery
      ⟨deliveryId, generation, .failed, some failure.code, some failure.message⟩ now s.deliveries
    some (s.executed (s.setDeliveries finalized.1) i execution
      (match finalized.2 with
      | .ok _ => .checking
      | .error _ => .retried generation deliveryId resumed usedUp)
      (.retried generation deliveryId resumed usedUp) answer)
  | .finalizing input =>
    let finalized := finalizeDelivery input now s.deliveries
    some (s.executed (s.setDeliveries finalized.1) i execution
      (match finalized.2 with
      | .ok _ => .checking
      | .error _ => .finalizing input) (.finalizing input) answer)
  | .ended => none

/-! ### Steps -/

def step (collate : String → String → Ordering) (s : DeliverySystem) :
    DeliveryInput → Option (DeliverySystem × List Nat)
  | .receives input => some ({ s with handlers := s.handlers ++ [⟨input, .enqueuing⟩] }, [])
  | .handles i newId now answer =>
    s.handlers[i]?.bind fun handler => s.handle i handler newId now answer
  | .interrupts i =>
    s.handlers[i]?.map fun handler => (s.setHandler i handler .enqueuing, [])
  | .executes i now answer outcome usedUp =>
    s.executions[i]?.bind fun execution =>
      (s.execute collate i execution now answer outcome usedUp).map fun t => (t, [])
  | .resumes i =>
    s.executions[i]?.map fun execution =>
      ({ s with
        executions := s.executions ++ [⟨execution.generation, execution.phase.again⟩] }, [])
  | .givesUp i =>
    s.executions[i]?.bind fun execution =>
      if execution.phase.Locked then none else some (s.setExecution i execution .ended, [])

/-- The steps of the system, as runs take them. -/
def Steps (collate : String → String → Ordering) (s : DeliverySystem) (i : DeliveryInput)
    (out : List Nat) (t : DeliverySystem) : Prop :=
  s.step collate i = some (t, out)

/-! ### What a step can do -/

/-- A statement that only moves its handler on, or back. -/
inductive HandlerTurn (s : DeliverySystem) (answer : StatementFate) :
    HandlerPhase → HandlerPhase → Prop
  | inserts (isSome : s.processor.isSome) : HandlerTurn s answer .inserting .restarting
  | restarts (busy : ∀ generation, s.processor ≠ some ⟨generation, .idle⟩) :
      HandlerTurn s answer .restarting .finding
  | finds (isSome : s.processor.isSome) : HandlerTurn s answer .finding .done
  | starts {generation : Nat} (fails : answer = .fails) :
      HandlerTurn s answer (.starting generation) (.idling generation)
  | idles {generation : Nat} (reason : answer = .fails ∨ ¬ s.Running generation) :
      HandlerTurn s answer (.idling generation) .enqueuing
  | again {phase : HandlerPhase} (early : phase = .enqueuing ∨ phase = .inserting ∨
      phase = .restarting ∨ phase = .finding) : HandlerTurn s answer phase .enqueuing

/-- What a statement of a handler can do. -/
inductive HandlerChange (s : DeliverySystem) (i : Nat) (handler : WebhookHandler)
    (answer : StatementFate) : List Nat → DeliverySystem → Prop
  | enqueues (newId : String) (now : Instant) {phase : HandlerPhase}
      (before : handler.phase = .enqueuing)
      (fresh : findRow AssociationDelivery.id newId s.deliveries = none)
      (after : phase = .inserting ∨ phase = .enqueuing) :
      HandlerChange s i handler answer []
        (((s.setDeliveries
          (enqueueAssociationDelivery handler.input newId now s.deliveries).1).setProcessor
            (ensureAssociationDeliveryProcessor s.processor)).setHandler i handler phase)
  | tells {generation : Nat} {phase : HandlerPhase} {told : List Nat}
      (before : handler.phase = .inserting ∨ handler.phase = .restarting)
      (row : s.processor = none ∧ generation = 1 ∨
        ∃ last, s.processor = some ⟨last, .idle⟩ ∧ generation = last + 1)
      (after : answer = .arrives ∧ phase = .starting generation ∧ told = [generation] ∨
        answer = .lost ∧ phase = .enqueuing ∧ told = []) :
      HandlerChange s i handler answer told
        ((s.setProcessor (some ⟨generation, .running⟩)).setHandler i handler phase)
  | starts {generation : Nat} {phase : HandlerPhase} (before : handler.phase = .starting generation)
      (after : answer = .arrives ∧ phase = .done ∨ answer = .lost ∧ phase = .idling generation) :
      HandlerChange s i handler answer [] ((s.startRun generation).setHandler i handler phase)
  | takesBack {generation : Nat} (before : handler.phase = .idling generation)
      (running : s.Running generation) (unlocked : s.holder = none) :
      HandlerChange s i handler answer []
        ((s.setProcessor (some ⟨generation, .idle⟩)).setHandler i handler .enqueuing)
  | turns {phase : HandlerPhase} (turn : HandlerTurn s answer handler.phase phase) :
      HandlerChange s i handler answer [] (s.setHandler i handler phase)

/-- A statement of a transaction that finds nothing in the way of the next one. -/
inductive TransactionRead (s : DeliverySystem) (generation : Nat) :
    ExecutionPhase → ExecutionPhase → Prop
  | inactive (none : ∀ delivery ∈ s.deliveries,
      delivery.processorGeneration = some generation → ¬ delivery.Active) :
      TransactionRead s generation .claimLocked .claimNext
  | next (deliveryId : String) : TransactionRead s generation .claimNext (.claimUpdate deliveryId)
  | empty (none : ∀ delivery ∈ s.deliveries, delivery.status ≠ .queued ∧ ¬ delivery.Active) :
      TransactionRead s generation .idleLocked .idleEmpty

/-- What a statement of an execution can do. -/
inductive ExecutionChange (s : DeliverySystem) (i : Nat) (execution : Execution) :
    DeliverySystem → Prop
  | locks {phase : ExecutionPhase} (running : s.Running execution.generation)
      (unlocked : s.holder = none)
      (turn : execution.phase = .claiming ∧ phase = .claimLocked ∨
        execution.phase = .idling ∧ phase = .idleLocked) :
      ExecutionChange s i execution ((s.lock i).setExecution i execution phase)
  | reads {phase : ExecutionPhase}
      (turn : TransactionRead s execution.generation execution.phase phase) :
      ExecutionChange s i execution (s.setExecution i execution phase)
  | leaves {phase : ExecutionPhase} (before : execution.phase.Locked) (after : phase.Going) :
      ExecutionChange s i execution (s.unlock.setExecution i execution phase)
  | claims {deliveryId : String} (now : Instant) {phase : ExecutionPhase}
      (before : execution.phase = .claimUpdate deliveryId) (after : phase.Going) :
      ExecutionChange s i execution
        ((s.unlock.setDeliveries
          (claimDelivery execution.generation deliveryId now s.deliveries).1).setExecution i
            execution phase)
  | idles {phase : ExecutionPhase} (before : execution.phase = .idleEmpty)
      (after : phase.Going ∨ phase = .ended) :
      ExecutionChange s i execution
        ((s.unlock.setProcessor
          (setDeliveryProcessorIdle execution.generation s.processor).1).setExecution i
            execution phase)
  | marks (deliveryId : String) (now : Instant) {phase : ExecutionPhase}
      (before : execution.phase.Going) (after : phase.Going) :
      ExecutionChange s i execution
        ((s.setDeliveries
          (markDeliveryDelivering execution.generation deliveryId now s.deliveries).1).setExecution
            i execution phase)
  | finalizes (input : FinalizeDeliveryInput) (now : Instant) {phase : ExecutionPhase}
      (before : execution.phase.Going) (after : phase.Going) :
      ExecutionChange s i execution
        ((s.setDeliveries (finalizeDelivery input now s.deliveries).1).setExecution i
          execution phase)
  | advances {phase : ExecutionPhase} (before : execution.phase.Going)
      (after : phase.Going ∨ phase = .ended ∧ ¬ s.Running execution.generation) :
      ExecutionChange s i execution (s.setExecution i execution phase)

/-- What a step can do. -/
inductive Change (s : DeliverySystem) : DeliveryInput → List Nat → DeliverySystem → Prop
  | receives (input : EnqueueAssociationDeliveryInput) :
      Change s (.receives input) [] { s with handlers := s.handlers ++ [⟨input, .enqueuing⟩] }
  | handles {i : Nat} {handler : WebhookHandler} {newId : String} {now : Instant}
      {answer : StatementFate} {told : List Nat} {t : DeliverySystem}
      (at_index : s.handlers[i]? = some handler)
      (change : HandlerChange s i handler answer told t) :
      Change s (.handles i newId now answer) told t
  | interrupts {i : Nat} {handler : WebhookHandler} (at_index : s.handlers[i]? = some handler) :
      Change s (.interrupts i) [] (s.setHandler i handler .enqueuing)
  | executes {i : Nat} {execution : Execution} {now : Instant} {answer : StatementFate}
      {outcome : SubmitOutcome} {usedUp : Option AssociationDeliveryError} {t : DeliverySystem}
      (at_index : s.executions[i]? = some execution) (change : ExecutionChange s i execution t) :
      Change s (.executes i now answer outcome usedUp) [] t
  | resumes {i : Nat} {execution : Execution} (at_index : s.executions[i]? = some execution) :
      Change s (.resumes i) [] { s with
        executions := s.executions ++ [⟨execution.generation, execution.phase.again⟩] }
  | givesUp {i : Nat} {execution : Execution} (at_index : s.executions[i]? = some execution)
      (before : ¬ execution.phase.Locked) :
      Change s (.givesUp i) [] (s.setExecution i execution .ended)

section

variable {collate : String → String → Ordering} {s t : DeliverySystem} {i : Nat}
  {handler : WebhookHandler} {execution : Execution} {now : Instant} {answer : StatementFate}
  {told : List Nat}

theorem handlerChange_of_handled {u : DeliverySystem} {next again : HandlerPhase} {tell : List Nat}
    (h : s.handled u i handler next again tell answer = (t, told))
    (harrives : answer = .arrives →
      HandlerChange s i handler answer tell (u.setHandler i handler next))
    (hfails : answer = .fails → HandlerChange s i handler answer [] (s.setHandler i handler again))
    (hlost : answer = .lost → HandlerChange s i handler answer [] (u.setHandler i handler again)) :
    HandlerChange s i handler answer told t := by
  cases answer with
  | arrives =>
      rw [handled, Prod.mk.injEq] at h
      rw [← h.1, ← h.2]
      exact harrives rfl
  | fails =>
      rw [handled, Prod.mk.injEq] at h
      rw [← h.1, ← h.2]
      exact hfails rfl
  | lost =>
      rw [handled, Prod.mk.injEq] at h
      rw [← h.1, ← h.2]
      exact hlost rfl

theorem handlerChange_of_handle {newId : String}
    (h : s.handle i handler newId now answer = some (t, told)) :
    HandlerChange s i handler answer told t := by
  cases hphase : handler.phase with
  | enqueuing =>
      rw [handle, hphase] at h
      by_cases hfresh : findRow AssociationDelivery.id newId s.deliveries = none
      · simp only [if_pos hfresh, Option.some.injEq] at h
        refine handlerChange_of_handled h (fun _ => ?_) (fun _ => ?_) (fun _ => ?_)
        · exact .enqueues newId now hphase hfresh (.inl rfl)
        · exact .turns (hphase.symm ▸ .again (.inl rfl))
        · exact .enqueues newId now hphase hfresh (.inr rfl)
      · simp only [if_neg hfresh, reduceCtorEq] at h
  | inserting =>
      rw [handle, hphase] at h
      have hagain : HandlerChange s i handler answer [] (s.setHandler i handler .enqueuing) :=
        .turns (hphase ▸ .again (.inr (.inl rfl)))
      cases hinserted : (insertRunningProcessor s.processor).2 with
      | some processor =>
          simp only [hinserted, Option.some.injEq] at h
          rcases insertRunningProcessor_some hinserted with ⟨hrow, hprocessor, hnew⟩
          rw [hnew, hprocessor] at h
          refine handlerChange_of_handled h (fun harrives => ?_) (fun _ => hagain) fun hlost => ?_
          · exact .tells (.inl hphase) (.inl ⟨hrow, rfl⟩) (.inl ⟨harrives, rfl, rfl⟩)
          · exact .tells (.inl hphase) (.inl ⟨hrow, rfl⟩) (.inr ⟨hlost, rfl, rfl⟩)
      | none =>
          simp only [hinserted, Option.some.injEq] at h
          refine handlerChange_of_handled h (fun _ => ?_) (fun _ => hagain) fun _ => hagain
          exact .turns (hphase ▸ .inserts (insertRunningProcessor_none hinserted))
  | restarting =>
      rw [handle, hphase] at h
      have hagain : HandlerChange s i handler answer [] (s.setHandler i handler .enqueuing) :=
        .turns (hphase ▸ .again (.inr (.inr (.inl rfl))))
      cases hrestarted : (restartIdleProcessor s.processor).2 with
      | some processor =>
          rcases restartIdleProcessor_some hrestarted with ⟨last, hrow, hprocessor, hnew⟩
          by_cases hholder : s.holder = none
          · simp only [hrestarted, if_pos hholder, Option.some.injEq] at h
            rw [hnew, hprocessor] at h
            refine handlerChange_of_handled h (fun harrives => ?_) (fun _ => hagain) fun hlost => ?_
            · exact .tells (.inr hphase) (.inr ⟨last, hrow, rfl⟩) (.inl ⟨harrives, rfl, rfl⟩)
            · exact .tells (.inr hphase) (.inr ⟨last, hrow, rfl⟩) (.inr ⟨hlost, rfl, rfl⟩)
          · simp only [hrestarted, if_neg hholder, reduceCtorEq] at h
      | none =>
          simp only [hrestarted, Option.some.injEq] at h
          refine handlerChange_of_handled h (fun _ => ?_) (fun _ => hagain) fun _ => hagain
          exact .turns (hphase ▸ .restarts (restartIdleProcessor_none hrestarted))
  | finding =>
      rw [handle, hphase] at h
      have hagain : HandlerChange s i handler answer [] (s.setHandler i handler .enqueuing) :=
        .turns (hphase ▸ .again (.inr (.inr (.inr rfl))))
      refine handlerChange_of_handled (Option.some.inj h) (fun _ => ?_) (fun _ => hagain) fun _ =>
        hagain
      by_cases hrow : s.processor.isSome
      · rw [if_pos hrow]
        exact .turns (hphase ▸ .finds hrow)
      · rw [if_neg hrow]
        exact hagain
  | starting generation =>
      rw [handle, hphase] at h
      refine handlerChange_of_handled (Option.some.inj h) (fun harrives => ?_) (fun hfails => ?_)
        fun hlost => ?_
      · exact .starts hphase (.inl ⟨harrives, rfl⟩)
      · exact .turns (hphase ▸ .starts hfails)
      · exact .starts hphase (.inr ⟨hlost, rfl⟩)
  | idling generation =>
      rw [handle, hphase] at h
      by_cases hrunning : s.Running generation
      · by_cases hholder : s.holder = none
        · simp only [if_pos hrunning, if_pos hholder, Option.some.injEq] at h
          rw [setDeliveryProcessorIdle_of_running hrunning] at h
          refine handlerChange_of_handled h (fun _ => ?_) (fun hfails => ?_) fun _ => ?_
          · exact .takesBack hphase hrunning hholder
          · exact .turns (hphase ▸ .idles (.inl hfails))
          · exact .takesBack hphase hrunning hholder
        · simp only [if_pos hrunning, if_neg hholder, reduceCtorEq] at h
      · simp only [if_neg hrunning, Option.some.injEq] at h
        have hturn : HandlerChange s i handler answer [] (s.setHandler i handler .enqueuing) :=
          .turns (hphase ▸ .idles (.inr hrunning))
        exact handlerChange_of_handled h (fun _ => hturn) (fun _ => hturn) fun _ => hturn
  | done =>
      rw [handle, hphase] at h
      exact absurd h (by simp only [reduceCtorEq, not_false_eq_true])

/-- What a statement of an execution can do, by its answer. -/
theorem executionChange_of_executed {before after : DeliverySystem} {next again : ExecutionPhase}
    (h : before.executed after i execution next again answer = t)
    (harrives : ExecutionChange s i execution (after.setExecution i execution next))
    (hfails : ExecutionChange s i execution (before.setExecution i execution again))
    (hlost : ExecutionChange s i execution (after.setExecution i execution again)) :
    ExecutionChange s i execution t := by
  rw [← h]
  cases answer with
  | arrives => exact harrives
  | fails => exact hfails
  | lost => exact hlost

theorem executionChange_of_transacted {before after : DeliverySystem} {next again : ExecutionPhase}
    (h : before.transacted after i execution next again answer = t)
    (harrives : ExecutionChange s i execution (after.setExecution i execution next))
    (hundone : ExecutionChange s i execution (before.setExecution i execution again)) :
    ExecutionChange s i execution t := by
  rw [← h]
  cases answer with
  | arrives => exact harrives
  | fails => exact hundone
  | lost => exact hundone

/-- A transaction begins, or there is nothing for it to do. -/
theorem executionChange_of_selectForUpdate {locked empty again : ExecutionPhase}
    (h : s.selectForUpdate i execution locked empty again answer = some t)
    (turn : execution.phase = .claiming ∧ locked = .claimLocked ∨
      execution.phase = .idling ∧ locked = .idleLocked) (hempty : empty.Going)
    (hagain : again.Going) : ExecutionChange s i execution t := by
  have hbefore : execution.phase.Going := by
    rcases turn with ⟨hphase, _⟩ | ⟨hphase, _⟩ <;>
      · rw [hphase]
        trivial
  have hstays : ExecutionChange s i execution (s.setExecution i execution again) :=
    .advances hbefore (.inl hagain)
  unfold selectForUpdate at h
  by_cases hrunning : s.Running execution.generation
  · rw [if_pos hrunning] at h
    by_cases hholder : s.holder = none
    · rw [if_pos hholder] at h
      refine executionChange_of_transacted (Option.some.inj h) ?_ hstays
      exact .locks hrunning hholder turn
    · rw [if_neg hholder] at h
      exact absurd h (by simp only [reduceCtorEq, not_false_eq_true])
  · rw [if_neg hrunning] at h
    exact executionChange_of_executed (Option.some.inj h) (.advances hbefore (.inl hempty)) hstays
      hstays

theorem deliver_going (deliveryId : String) (resumed : Bool) :
    (ExecutionPhase.deliver deliveryId resumed).Going := by
  cases resumed with
  | true => trivial
  | false => trivial

theorem retried_going (generation : Nat) (deliveryId : String) (resumed : Bool)
    (usedUp : Option AssociationDeliveryError) :
    (ExecutionPhase.retried generation deliveryId resumed usedUp).Going := by
  cases usedUp with
  | none => exact deliver_going deliveryId resumed
  | some failure => trivial

theorem executionChange_of_execute {outcome : SubmitOutcome}
    {usedUp : Option AssociationDeliveryError}
    (h : s.execute collate i execution now answer outcome usedUp = some t) :
    ExecutionChange s i execution t := by
  cases hphase : execution.phase with
  | checking =>
      rw [execute, hphase] at h
      have hbefore : execution.phase.Going := hphase ▸ trivial
      have hstays : ExecutionChange s i execution (s.setExecution i execution .checking) :=
        .advances hbefore (.inl trivial)
      refine executionChange_of_executed (Option.some.inj h) ?_ hstays hstays
      by_cases hrunning : s.Running execution.generation
      · rw [if_pos hrunning]
        exact .advances hbefore (.inl trivial)
      · rw [if_neg hrunning]
        exact .advances hbefore (.inr ⟨rfl, hrunning⟩)
  | claiming =>
      rw [execute, hphase] at h
      exact executionChange_of_selectForUpdate h (.inl ⟨hphase, rfl⟩) trivial trivial
  | claimLocked =>
      rw [execute, hphase] at h
      have hbefore : execution.phase.Locked := hphase ▸ trivial
      have hundone : ExecutionChange s i execution (s.unlock.setExecution i execution .claiming) :=
        .leaves hbefore trivial
      cases hactive : findActiveDelivery collate execution.generation s.deliveries with
      | some delivery =>
          simp only [hactive, Option.some.injEq] at h
          exact executionChange_of_executed h (.leaves hbefore (deliver_going _ _)) hundone hundone
      | none =>
          simp only [hactive, Option.some.injEq] at h
          refine executionChange_of_transacted h ?_ hundone
          refine .reads (hphase.symm ▸ .inactive fun delivery hmem hgeneration hact => ?_)
          exact findFirst_eq_none.mp hactive delivery hmem (decide_eq_true ⟨hgeneration, hact⟩)
  | claimNext =>
      rw [execute, hphase] at h
      have hbefore : execution.phase.Locked := hphase ▸ trivial
      have hundone : ExecutionChange s i execution (s.unlock.setExecution i execution .claiming) :=
        .leaves hbefore trivial
      cases hnext : findNextDelivery collate s.deliveries with
      | some delivery =>
          simp only [hnext, Option.some.injEq] at h
          exact executionChange_of_transacted h (.reads (hphase.symm ▸ .next delivery.id)) hundone
      | none =>
          simp only [hnext, Option.some.injEq] at h
          exact executionChange_of_executed h (.leaves hbefore trivial) hundone hundone
  | claimUpdate deliveryId =>
      rw [execute, hphase] at h
      have hbefore : execution.phase.Locked := hphase ▸ trivial
      refine executionChange_of_executed (Option.some.inj h) ?_ (.leaves hbefore trivial)
        (.claims now hphase trivial)
      cases (claimDelivery execution.generation deliveryId now s.deliveries).2 with
      | some delivery => exact .claims now hphase trivial
      | none => exact .claims now hphase trivial
  | idling =>
      rw [execute, hphase] at h
      exact executionChange_of_selectForUpdate h (.inr ⟨hphase, rfl⟩) trivial trivial
  | idleLocked =>
      rw [execute, hphase] at h
      have hbefore : execution.phase.Locked := hphase ▸ trivial
      have hundone : ExecutionChange s i execution (s.unlock.setExecution i execution .idling) :=
        .leaves hbefore trivial
      cases hunfinished : findUnfinishedDelivery s.deliveries with
      | some delivery =>
          simp only [hunfinished, Option.some.injEq] at h
          exact executionChange_of_executed h (.leaves hbefore trivial) hundone hundone
      | none =>
          simp only [hunfinished, Option.some.injEq] at h
          refine executionChange_of_transacted h ?_ hundone
          refine .reads (hphase.symm ▸ .empty fun delivery hmem => ?_)
          have hnone := List.find?_eq_none.mp hunfinished delivery hmem
          rw [decide_eq_true_eq, not_or] at hnone
          exact hnone
  | idleEmpty =>
      rw [execute, hphase] at h
      have hbefore : execution.phase.Locked := hphase ▸ trivial
      refine executionChange_of_executed (Option.some.inj h) (.idles hphase ?_)
        (.leaves hbefore trivial) (.idles hphase (.inl trivial))
      cases (setDeliveryProcessorIdle execution.generation s.processor).2 with
      | true => exact .inr rfl
      | false => exact .inl trivial
  | marking deliveryId =>
      rw [execute, hphase] at h
      have hbefore : execution.phase.Going := hphase ▸ trivial
      have hretried := retried_going execution.generation deliveryId false usedUp
      refine executionChange_of_executed (Option.some.inj h) ?_ (.advances hbefore (.inl hretried))
        (.marks deliveryId now hbefore hretried)
      cases (markDeliveryDelivering execution.generation deliveryId now s.deliveries).2 with
      | ok => exact .marks deliveryId now hbefore trivial
      | error => exact .marks deliveryId now hbefore trivial
  | submitting deliveryId resumed =>
      rw [execute, hphase] at h
      have hbefore : execution.phase.Going := hphase ▸ trivial
      rw [← Option.some.inj h]
      cases outcome with
      | delivered => exact .advances hbefore (.inl trivial)
      | refused => exact .advances hbefore (.inl trivial)
      | throws => exact .advances hbefore (.inl (retried_going _ _ _ _))
  | failing deliveryId resumed failure =>
      rw [execute, hphase] at h
      have hbefore : execution.phase.Going := hphase ▸ trivial
      have hretried := retried_going execution.generation deliveryId resumed usedUp
      refine executionChange_of_executed (Option.some.inj h) ?_ (.advances hbefore (.inl hretried))
        (.finalizes _ now hbefore hretried)
      cases (finalizeDelivery ⟨deliveryId, execution.generation, .failed, some failure.code,
        some failure.message⟩ now s.deliveries).2 with
      | ok => exact .finalizes _ now hbefore trivial
      | error => exact .finalizes _ now hbefore hretried
  | finalizing input =>
      rw [execute, hphase] at h
      have hbefore : execution.phase.Going := hphase ▸ trivial
      refine executionChange_of_executed (Option.some.inj h) ?_ (.advances hbefore (.inl trivial))
        (.finalizes input now hbefore trivial)
      cases (finalizeDelivery input now s.deliveries).2 with
      | ok => exact .finalizes input now hbefore trivial
      | error => exact .finalizes input now hbefore trivial
  | ended =>
      rw [execute, hphase] at h
      exact absurd h (by simp only [reduceCtorEq, not_false_eq_true])

/-- A step does one of these. -/
theorem change_of_step {input : DeliveryInput} (h : Steps collate s input told t) :
    Change s input told t := by
  cases input with
  | receives input =>
      rw [Steps, step, Option.some.injEq, Prod.mk.injEq] at h
      rw [← h.1, ← h.2]
      exact .receives input
  | handles i newId now answer =>
      rw [Steps, step] at h
      rcases Option.bind_eq_some_iff.mp h with ⟨handler, hat, h⟩
      exact .handles hat (handlerChange_of_handle h)
  | interrupts i =>
      rw [Steps, step] at h
      rcases Option.map_eq_some_iff.mp h with ⟨handler, hat, h⟩
      rw [Prod.mk.injEq] at h
      rw [← h.1, ← h.2]
      exact .interrupts hat
  | executes i now answer outcome usedUp =>
      rw [Steps, step] at h
      rcases Option.bind_eq_some_iff.mp h with ⟨execution, hat, h⟩
      rcases Option.map_eq_some_iff.mp h with ⟨next, hexecute, h⟩
      rw [Prod.mk.injEq] at h
      rw [← h.1, ← h.2]
      exact .executes hat (executionChange_of_execute hexecute)
  | resumes i =>
      rw [Steps, step] at h
      rcases Option.map_eq_some_iff.mp h with ⟨execution, hat, h⟩
      rw [Prod.mk.injEq] at h
      rw [← h.1, ← h.2]
      exact .resumes hat
  | givesUp i =>
      rw [Steps, step] at h
      rcases Option.bind_eq_some_iff.mp h with ⟨execution, hat, h⟩
      by_cases hlocked : execution.phase.Locked
      · rw [if_pos hlocked] at h
        exact absurd h (by simp only [reduceCtorEq, not_false_eq_true])
      · rw [if_neg hlocked, Option.some.injEq, Prod.mk.injEq] at h
        rw [← h.1, ← h.2]
        exact .givesUp hat hlocked

end

end DeliverySystem

end Mistle
