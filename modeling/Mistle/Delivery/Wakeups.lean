import Mistle.Delivery.Exclusive

/-!
# No Delivery is Left Behind

A handler that finds the processor running leaves its delivery to the run of it. The run has
to see the delivery before it makes the processor idle. It looks for deliveries in the
transaction that has selected the row of the processor for update; but a handler that only
finds the row is running does not wait for that transaction. So there is a window between
the look and the end of the transaction in which a handler may rely on a run that will not
look again.

Apart from the window, and from answers and runs that are lost for good, nothing is left
behind: when every handler is done and every execution has ended, every delivery is final.

## Main definitions

* `HandlerPhase.Early`: A handler has yet to see to the processor.
* `DeliverySystem.Working`: A generation has an execution that has not ended.
* `DeliverySystem.Awake`: What holds between any two steps.
* `NothingLost`: Nothing is lost for good, and no handler looks in the window.

## Theorems

* `DeliverySystem.Awake.step`: A step keeps it.
* `every_delivery_final`: Nothing is left behind.
* `delivery_left_behind`: A handler that looks in the window.
-/

namespace Mistle

/-- A handler has yet to see to the processor. -/
def HandlerPhase.Early : HandlerPhase → Prop
  | .enqueuing | .inserting | .restarting => True
  | _ => False

namespace DeliverySystem

/-- A generation has an execution that has not ended. -/
def Working (s : DeliverySystem) (generation : Nat) : Prop :=
  ∃ (i : Nat) (execution : Execution), s.executions[i]? = some execution ∧
    execution.generation = generation ∧ execution.phase ≠ .ended

def Nudged (s : DeliverySystem) : Prop :=
  ∃ (i : Nat) (handler : WebhookHandler), s.handlers[i]? = some handler ∧ handler.phase.Early

/-- The run of the processor has yet to look for deliveries before it makes it idle. -/
def Looking (s : DeliverySystem) : Prop :=
  (∃ generation, s.Running generation) ∧
    ∀ (i : Nat) (execution : Execution), s.executions[i]? = some execution →
      execution.phase ≠ .idleEmpty

def HasQueued (s : DeliverySystem) : Prop :=
  ∃ delivery ∈ s.deliveries, delivery.status = .queued

/-- Someone sees to what is queued, and the processor that is running has a run. -/
structure Awake (s : DeliverySystem) : Prop where
  row : s.deliveries ≠ [] → s.processor ≠ none
  live : ∀ generation, s.Running generation →
    (∃ i, s.owes i = some generation) ∨ s.Working generation
  wake : s.HasQueued → s.Nudged ∨ s.Looking

end DeliverySystem

/-- Nothing is lost for good, and no handler looks for an idle processor while an execution
    has seen that nothing is to do but has not made the processor idle yet. -/
structure NothingLost (s : DeliverySystem) (input : DeliveryInput) (_ : List Nat) : Prop where
  run : ∀ i, input ≠ .givesUp i
  step : ∀ i handler, input = .interrupts i → s.handlers[i]? = some handler →
    handler.phase.owes = none
  told : ∀ i newId now handler, input = .handles i newId now .lost →
    s.handlers[i]? = some handler →
    handler.phase ≠ .inserting ∧ handler.phase ≠ .restarting ∧
      ∀ generation, handler.phase ≠ .starting generation
  takenBack : ∀ i newId now handler generation, input = .handles i newId now .fails →
    s.handlers[i]? = some handler → handler.phase ≠ .idling generation
  window : ∀ i newId now answer handler, input = .handles i newId now answer →
    s.handlers[i]? = some handler → handler.phase = .restarting →
    ∀ (j : Nat) (execution : Execution), s.executions[j]? = some execution →
      execution.phase ≠ .idleEmpty

namespace DeliverySystem

variable {collate : String → String → Ordering} {s t : DeliverySystem} {i j : Nat}
  {handler : WebhookHandler} {execution other : Execution} {answer : StatementFate}
  {told : List Nat} {input : DeliveryInput}

/-! ### Handlers -/

theorem Nudged.of_early {phase : HandlerPhase} (hat : s.handlers[i]? = some handler)
    (hearly : phase.Early) : (s.setHandler i handler phase).Nudged := by
  rcases List.getElem?_eq_some_iff.mp hat with ⟨hlt, _⟩
  exact ⟨i, _, List.getElem?_set_self hlt, hearly⟩

/-- A handler moves on from where it had nothing to see to, or where it has seen to it. -/
theorem Nudged.keeps {phase : HandlerPhase} (h : s.Nudged) (hat : s.handlers[i]? = some handler)
    (hmoves : handler.phase.Early → phase.Early) : (s.setHandler i handler phase).Nudged := by
  rcases h with ⟨j, other, hother, hearly⟩
  by_cases hji : j = i
  · rw [hji, hat, Option.some.injEq] at hother
    rw [← hother] at hearly
    exact .of_early hat (hmoves hearly)
  · refine ⟨j, other, ?_, hearly⟩
    unfold setHandler
    rwa [List.getElem?_set_ne (fun heq => hji heq.symm)]

theorem owes_of_handler {generation : Nat} (hat : s.handlers[i]? = some handler)
    (howes : handler.phase.owes = some generation) : s.owes i = some generation := by
  rw [owes, hat, Option.bind_some]
  exact howes

/-- What is owed after a handler has moved on. -/
theorem owes_keeps {phase : HandlerPhase} {generation : Nat} (hat : s.handlers[i]? = some handler)
    (howes : handler.phase.owes = some generation → phase.owes = some generation)
    (h : s.owes j = some generation) : (s.setHandler i handler phase).owes j = some generation := by
  rw [owes_setHandler hat]
  by_cases hji : j = i
  · rw [if_pos hji]
    rw [hji, owes, hat, Option.bind_some] at h
    exact howes h
  · rwa [if_neg hji]

/-- A step of a handler that leaves the row of the processor as it is. -/
theorem Awake.turn {phase : HandlerPhase} (h : s.Awake) (hat : s.handlers[i]? = some handler)
    (howes : ∀ generation, s.Running generation → handler.phase.owes = some generation →
      phase.owes = some generation)
    (hwake : s.HasQueued → phase.Early ∨ ¬ handler.phase.Early ∨ s.Looking) :
    (s.setHandler i handler phase).Awake where
  row := h.row
  live := by
    intro generation hrun
    rcases h.live generation hrun with ⟨j, hj⟩ | hworking
    · exact .inl ⟨j, owes_keeps hat (howes generation hrun) hj⟩
    · exact .inr hworking
  wake := by
    intro hqueued
    rcases hwake hqueued with hearly | hnot | hlooking
    · exact .inl (.of_early hat hearly)
    · rcases h.wake hqueued with hnudged | hlooking
      · exact .inl (hnudged.keeps hat fun hearly => absurd hearly hnot)
      · exact .inr hlooking
    · exact .inr hlooking

theorem Exclusive.not_idleEmpty (h : s.Exclusive) (hidle : ∀ generation, ¬ s.Running generation)
    (hat : s.executions[i]? = some execution) : execution.phase ≠ .idleEmpty := by
  intro hphase
  have hlocked : execution.phase.Locked := hphase ▸ trivial
  exact hidle _ (h.locked i execution hat hlocked).2

theorem Awake.handlerChange (h : s.Awake) (howing : s.Owing) (hexclusive : s.Exclusive)
    (hat : s.handlers[i]? = some handler)
    (htold : answer = .lost → handler.phase ≠ .inserting ∧ handler.phase ≠ .restarting ∧
      ∀ generation, handler.phase ≠ .starting generation)
    (htakenBack : answer = .fails → ∀ generation, handler.phase ≠ .idling generation)
    (hwindow : handler.phase = .restarting → ∀ (j : Nat) (execution : Execution),
      s.executions[j]? = some execution → execution.phase ≠ .idleEmpty)
    (change : HandlerChange s i handler answer told t) : t.Awake := by
  have hnone : ∀ {phase : HandlerPhase} {generation : Nat}, handler.phase = phase →
      phase.owes = none → handler.phase.owes ≠ some generation := by
    intro phase generation hphase howes
    rw [hphase, howes]
    exact (Option.some_ne_none generation).symm
  cases change with
  | @enqueues newId now phase before fresh after =>
      refine ⟨fun _ => ?_, fun generation hrun => ?_, fun _ => .inl ?_⟩
      · exact ensureAssociationDeliveryProcessor_ne_none _
      · have hrun : s.Running generation := ensureAssociationDeliveryProcessor_running hrun
        rcases h.live generation hrun with ⟨j, hj⟩ | hworking
        · exact .inl ⟨j, owes_keeps (s := (s.setDeliveries _).setProcessor _) hat
            (fun howes => absurd howes (hnone before rfl)) hj⟩
        · exact .inr hworking
      · refine Nudged.of_early (s := (s.setDeliveries _).setProcessor _) hat ?_
        rcases after with hphase | hphase <;>
          · rw [hphase]
            trivial
  | @tells generation phase _ before row after =>
      rcases after with ⟨_, hphase, _⟩ | ⟨hlost, _⟩
      · refine ⟨fun _ => Option.some_ne_none _, fun other hrun => .inl ⟨i, ?_⟩, fun _ => .inr ?_⟩
        · have hat' : (s.setProcessor (some ⟨generation, .running⟩)).handlers[i]? = some handler :=
            hat
          rw [owes_setHandler hat', if_pos rfl, hphase]
          have hsame : some (DeliveryProcessor.mk generation .running) = some ⟨other, .running⟩ :=
            hrun
          rw [Option.some.injEq, DeliveryProcessor.mk.injEq] at hsame
          rw [← hsame.1]
          rfl
        · refine ⟨⟨generation, rfl⟩, fun j execution hother => ?_⟩
          refine hexclusive.not_idleEmpty (fun other hrun => ?_) hother
          have hrow : s.processor = some ⟨other, .running⟩ := hrun
          rcases row with ⟨hempty, _⟩ | ⟨last, hidle, _⟩
          · rw [hempty] at hrow
            exact absurd hrow (by simp only [reduceCtorEq, not_false_eq_true])
          · rw [hidle] at hrow
            exact absurd hrow idle_ne_running
      · rcases before with hphase | hphase
        · exact absurd hphase (htold hlost).1
        · exact absurd hphase (htold hlost).2.1
  | @starts generation phase before after =>
      rcases after with ⟨_, hphase⟩ | ⟨hlost, _⟩
      · have hnew : generation ∉ s.runs := by
          refine (howing.owed i generation (owes_of_handler hat ?_)).1
          rw [before]
          rfl
        have hat' : (s.startRun generation).handlers[i]? = some handler := by
          rwa [startRun_handlers]
        refine ⟨?_, fun other hrun => ?_, fun hqueued => ?_⟩
        · intro hsome
          have hrow : (s.startRun generation).processor ≠ none := by
            rw [startRun_processor]
            refine h.row ?_
            rw [← startRun_deliveries (s := s)]
            exact hsome
          exact hrow
        · have hrun : s.Running other := by
            rw [Running, ← startRun_processor (s := s)]
            exact hrun
          by_cases hsame : other = generation
          · -- The generation of the handler has a run now.
            rw [hsame]
            have hchecking : ExecutionPhase.Going .checking := trivial
            exact .inr ⟨_, _, startRun_new hnew, rfl, hchecking.ne_ended⟩
          · rcases h.live other hrun with ⟨j, hj⟩ | ⟨j, execution, hother, hgeneration, hphase⟩
            · refine .inl ⟨j, owes_keeps hat' (fun howes => ?_) ?_⟩
              · rw [before, HandlerPhase.owes, Option.some.injEq] at howes
                exact absurd howes.symm hsame
              · rw [owes, startRun_handlers]
                exact hj
            · exact .inr ⟨j, execution, startRun_keeps hother, hgeneration, hphase⟩
        · have hqueued : s.HasQueued := by
            unfold HasQueued
            rw [← startRun_deliveries (s := s)]
            exact hqueued
          rcases h.wake hqueued with hnudged | ⟨⟨other, hrun⟩, hlooking⟩
          · refine .inl (Nudged.keeps ?_ hat' fun hearly => ?_)
            · unfold Nudged
              rw [startRun_handlers]
              exact hnudged
            · rw [before] at hearly
              exact absurd hearly id
          · refine .inr ⟨⟨other, ?_⟩, fun j execution hother => ?_⟩
            · have hrow : (s.startRun generation).Running other := by
                rw [Running, startRun_processor]
                exact hrun
              exact hrow
            · rcases startRun_executions hother with hbefore | hnew
              · exact hlooking j execution hbefore
              · rw [hnew]
                exact fun hphase => ExecutionPhase.noConfusion hphase
      · exact absurd before ((htold hlost).2.2 generation)
  | @takesBack generation before running unlocked =>
      refine ⟨fun _ => Option.some_ne_none _, fun other hrun => ?_, fun _ => .inl ?_⟩
      · have hrow : some (DeliveryProcessor.mk generation .idle) = some ⟨other, .running⟩ := hrun
        exact absurd hrow idle_ne_running
      · exact Nudged.of_early (s := s.setProcessor _) hat trivial
  | @turns phase turn =>
      generalize hfrom : handler.phase = before at turn
      cases turn with
      | inserts =>
          exact h.turn hat (fun _ _ howes => absurd howes (hnone hfrom rfl)) fun _ => .inl trivial
      | restarts busy =>
          refine h.turn hat (fun _ _ howes => absurd howes (hnone hfrom rfl)) fun hqueued => ?_
          refine .inr (.inr ⟨?_, hwindow hfrom⟩)
          rcases hqueued with ⟨delivery, hmem, _⟩
          cases hrow : s.processor with
          | none => exact absurd hrow (h.row (List.ne_nil_of_mem hmem))
          | some processor =>
              rcases processor with ⟨generation, _ | _⟩
              · exact absurd hrow (busy generation)
              · exact ⟨generation, hrow⟩
      | finds =>
          refine h.turn hat (fun _ _ howes => absurd howes (hnone hfrom rfl)) fun _ => ?_
          exact .inr (.inl (hfrom ▸ id))
      | starts fails =>
          refine h.turn hat (fun generation _ howes => ?_) fun _ => .inr (.inl (hfrom ▸ id))
          rw [hfrom] at howes
          exact howes
      | @idles generation reason =>
          refine h.turn hat (fun other hrun howes => ?_) fun _ => .inl trivial
          rcases reason with hfails | hnot
          · exact absurd hfrom (htakenBack hfails generation)
          · rw [hfrom, HandlerPhase.owes, Option.some.injEq] at howes
            exact absurd (howes ▸ hrun) hnot
      | again early =>
          refine h.turn hat (fun _ _ howes => ?_) fun _ => .inl trivial
          rcases early with hphase | hphase | hphase | hphase <;>
            exact absurd howes (hnone (hfrom.trans hphase) rfl)

/-! ### Executions -/

/-- A generation has its execution, if it does not end. -/
theorem Working.keeps {phase : ExecutionPhase} {generation : Nat} (h : s.Working generation)
    (hat : s.executions[i]? = some execution)
    (hgoing : execution.generation = generation → phase ≠ .ended) :
    (s.setExecution i execution phase).Working generation := by
  rcases h with ⟨j, other, hother, hgeneration, hphase⟩
  unfold setExecution
  by_cases hji : j = i
  · rw [hji, hat, Option.some.injEq] at hother
    rw [← hother] at hgeneration
    rcases List.getElem?_eq_some_iff.mp hat with ⟨hlt, _⟩
    exact ⟨i, _, List.getElem?_set_self hlt, hgeneration, hgoing hgeneration⟩
  · refine ⟨j, other, ?_, hgeneration, hphase⟩
    rwa [List.getElem?_set_ne (fun heq => hji heq.symm)]

/-- A step of an execution that leaves the row of the processor as it is, and makes nothing
    queued. -/
theorem Awake.advance {phase : ExecutionPhase} (h : s.Awake) (holder : Option Nat)
    (deliveries : List AssociationDelivery) (hat : s.executions[i]? = some execution)
    (hids : deliveries ≠ [] → s.deliveries ≠ [])
    (hqueued : ∀ delivery ∈ deliveries, delivery.status = .queued → delivery ∈ s.deliveries)
    (hending : s.Running execution.generation → phase ≠ .ended)
    (hempty : s.HasQueued → phase ≠ .idleEmpty) :
    ({ s with holder, deliveries }.setExecution i execution phase).Awake where
  row := fun hsome => h.row (hids hsome)
  live := by
    intro generation hrun
    rcases h.live generation hrun with howes | hworking
    · exact .inl howes
    · have hkeeps := hworking.keeps hat fun hgeneration => hending (hgeneration ▸ hrun)
      exact .inr hkeeps
  wake := by
    rintro ⟨delivery, hmem, hstatus⟩
    have hbefore : s.HasQueued := ⟨delivery, hqueued delivery hmem hstatus, hstatus⟩
    rcases h.wake hbefore with hnudged | ⟨hrunning, hlooking⟩
    · exact .inl hnudged
    · refine .inr ⟨hrunning, fun j other hother => ?_⟩
      rcases executions_setExecution (s := { s with holder, deliveries }) hother with
        ⟨_, hsame⟩ | ⟨_, hother⟩
      · rw [hsame]
        exact hempty hbefore
      · exact hlooking j other hother

theorem not_idleEmpty_of_unlocked {phase : ExecutionPhase} (h : ¬ phase.Locked) :
    phase ≠ .idleEmpty := by
  intro hphase
  exact h (hphase ▸ trivial)

theorem Awake.executionChange (h : s.Awake) (hexclusive : s.Exclusive)
    (hat : s.executions[i]? = some execution) (change : ExecutionChange s i execution t) :
    t.Awake := by
  cases change with
  | @locks phase running unlocked turn =>
      have hphase : phase ≠ .ended ∧ phase ≠ .idleEmpty := by
        rcases turn with ⟨_, hphase⟩ | ⟨_, hphase⟩ <;>
          · rw [hphase]
            exact ⟨fun heq => ExecutionPhase.noConfusion heq, fun heq =>
              ExecutionPhase.noConfusion heq⟩
      exact h.advance (some i) s.deliveries hat id (fun _ hmem _ => hmem) (fun _ => hphase.1)
        fun _ => hphase.2
  | @reads phase turn =>
      have hphase : phase ≠ .ended ∧ (s.HasQueued → phase ≠ .idleEmpty) := by
        generalize execution.phase = before at turn
        cases turn with
        | inactive =>
            exact ⟨fun heq => ExecutionPhase.noConfusion heq, fun _ heq =>
              ExecutionPhase.noConfusion heq⟩
        | next =>
            exact ⟨fun heq => ExecutionPhase.noConfusion heq, fun _ heq =>
              ExecutionPhase.noConfusion heq⟩
        | empty hnone =>
            refine ⟨fun heq => ExecutionPhase.noConfusion heq, fun hqueued => ?_⟩
            rcases hqueued with ⟨delivery, hmem, hstatus⟩
            exact absurd hstatus (hnone delivery hmem).1
      exact h.advance s.holder s.deliveries hat id (fun _ hmem _ => hmem) (fun _ => hphase.1)
        hphase.2
  | @leaves phase before after =>
      exact h.advance none s.deliveries hat id (fun _ hmem _ => hmem) (fun _ => after.ne_ended)
        fun _ => not_idleEmpty_of_unlocked after.unlocked
  | @claims deliveryId now phase before after =>
      have hmoved : Moved s.deliveries _ := moved_claimDelivery execution.generation deliveryId now
      exact h.advance none _ hat hmoved.ne_nil (fun _ hmem hstatus => hmoved.queued hmem hstatus)
        (fun _ => after.ne_ended)
        fun _ => not_idleEmpty_of_unlocked after.unlocked
  | @idles phase before after =>
      have hlocked : execution.phase.Locked := before ▸ trivial
      have hrunning := (hexclusive.locked i execution hat hlocked).2
      have hidled : (setDeliveryProcessorIdle execution.generation s.processor).1 =
          some ⟨execution.generation, .idle⟩ := by
        rw [setDeliveryProcessorIdle_of_running hrunning]
      refine ⟨fun _ hrow => ?_, fun generation hrun => ?_, fun hqueued => ?_⟩
      · have hrow : (setDeliveryProcessorIdle execution.generation s.processor).1 = none := hrow
        rw [hidled] at hrow
        exact Option.some_ne_none _ hrow
      · have hrow : (setDeliveryProcessorIdle execution.generation s.processor).1 =
            some ⟨generation, .running⟩ := hrun
        rw [hidled] at hrow
        exact absurd hrow idle_ne_running
      · -- What has been queued since the transaction looked has a handler that sees to it.
        rcases h.wake hqueued with hnudged | ⟨_, hlooking⟩
        · exact .inl hnudged
        · exact absurd before (hlooking i execution hat)
  | @marks deliveryId now phase before after =>
      have hmoved : Moved s.deliveries _ :=
        moved_markDeliveryDelivering execution.generation deliveryId now
      exact h.advance s.holder _ hat hmoved.ne_nil
        (fun _ hmem hstatus => hmoved.queued hmem hstatus) (fun _ => after.ne_ended)
        fun _ => not_idleEmpty_of_unlocked after.unlocked
  | @finalizes input now phase before after =>
      have hmoved : Moved s.deliveries _ := moved_finalizeDelivery input now
      exact h.advance s.holder _ hat hmoved.ne_nil
        (fun _ hmem hstatus => hmoved.queued hmem hstatus) (fun _ => after.ne_ended)
        fun _ => not_idleEmpty_of_unlocked after.unlocked
  | @advances phase before after =>
      rcases after with hgoing | ⟨hended, hidle⟩
      · exact h.advance s.holder s.deliveries hat id (fun _ hmem _ => hmem)
          (fun _ => hgoing.ne_ended) fun _ => not_idleEmpty_of_unlocked hgoing.unlocked
      · refine h.advance s.holder s.deliveries hat id (fun _ hmem _ => hmem)
          (fun hrun => absurd hrun hidle) fun _ hphase => ?_
        exact ExecutionPhase.noConfusion (hended.symm.trans hphase)

/-! ### Steps -/

theorem Awake.step (h : (s.Owing ∧ s.Exclusive) ∧ s.Awake) (hkept : NothingLost s input told)
    (hstep : Steps collate s input told t) : (t.Owing ∧ t.Exclusive) ∧ t.Awake := by
  rcases h with ⟨hinv, hawake⟩
  have hanswered : StartsAnswered s input told := fun i newId now handler generation hinput hat =>
    (hkept.told i newId now handler hinput hat).2.2 generation
  refine ⟨Exclusive.step hinv hanswered hstep, ?_⟩
  cases change_of_step hstep with
  | receives input =>
      refine ⟨hawake.row, fun generation hrun => ?_, fun hqueued => ?_⟩
      · rcases hawake.live generation hrun with ⟨j, hj⟩ | hworking
        · rcases Option.bind_eq_some_iff.mp hj with ⟨handler, hat, hphase⟩
          refine .inl ⟨j, owes_of_handler ?_ hphase⟩
          exact List.getElem?_append_left (List.getElem?_eq_some_iff.mp hat).1 ▸ hat
        · exact .inr hworking
      · rcases hawake.wake hqueued with ⟨j, handler, hat, hearly⟩ | hlooking
        · refine .inl ⟨j, handler, ?_, hearly⟩
          exact List.getElem?_append_left (List.getElem?_eq_some_iff.mp hat).1 ▸ hat
        · exact .inr hlooking
  | @handles i handler newId now answer _ _ hat change =>
      refine hawake.handlerChange hinv.1 hinv.2 hat ?_ ?_ ?_ change
      · exact fun hlost => hkept.told i newId now handler (hlost ▸ rfl) hat
      · exact fun hfails generation =>
          hkept.takenBack i newId now handler generation (hfails ▸ rfl) hat
      · exact hkept.window i newId now answer handler rfl hat
  | @interrupts i handler hat =>
      refine hawake.turn hat (fun generation _ howes => ?_) fun _ => .inl trivial
      rw [hkept.step i handler rfl hat] at howes
      exact absurd howes (Option.some_ne_none generation).symm
  | executes hat change => exact hawake.executionChange hinv.2 hat change
  | @resumes i execution hat =>
      refine ⟨hawake.row, fun generation hrun => ?_, fun hqueued => ?_⟩
      · rcases hawake.live generation hrun with howes | ⟨j, other, hother, hworking⟩
        · exact .inl howes
        · refine .inr ⟨j, other, ?_, hworking⟩
          exact List.getElem?_append_left (List.getElem?_eq_some_iff.mp hother).1 ▸ hother
      · rcases hawake.wake hqueued with hnudged | ⟨hrunning, hlooking⟩
        · exact .inl hnudged
        · refine .inr ⟨hrunning, fun j other hother => ?_⟩
          rcases getElem?_append_singleton hother with hbefore | hnew
          · exact hlooking j other hbefore
          · rw [hnew]
            exact not_idleEmpty_of_unlocked (again_unlocked _)
  | @givesUp i execution hat before => exact absurd rfl (hkept.run i)

theorem Awake.init : start.Awake :=
  ⟨fun h => absurd rfl h,
    fun _ h => absurd h (by simp only [Running, start, reduceCtorEq, not_false_eq_true]),
    fun ⟨_, h, _⟩ => absurd h List.not_mem_nil⟩

theorem Awake.of_run {trace : List (Entry DeliveryInput Nat)}
    (run : Run (Steps collate) start trace t)
    (h : EveryStep (Steps collate) start trace NothingLost) :
    (t.Owing ∧ t.Exclusive) ∧ t.Awake := by
  refine (run.restrict h).invariant (P := fun s => (s.Owing ∧ s.Exclusive) ∧ s.Awake)
    ⟨Exclusive.init, Awake.init⟩ fun a input out b hinv hstep => ?_
  exact Awake.step hinv hstep.2 hstep.1

end DeliverySystem

theorem DeliveryStatus.final_of_not (status : DeliveryStatus) (hqueued : status ≠ .queued)
    (hclaimed : status ≠ .claimed) (hdelivering : status ≠ .delivering) : status.Final := by
  cases status with
  | queued => exact absurd rfl hqueued
  | claimed => exact absurd rfl hclaimed
  | delivering => exact absurd rfl hdelivering
  | completed => exact .inl rfl
  | failed => exact .inr (.inl rfl)
  | ignored => exact .inr (.inr rfl)

/-- When every handler is done and every execution has ended, every delivery is final. -/
theorem every_delivery_final {collate : String → String → Ordering}
    {trace : List (Entry DeliveryInput Nat)} {t : DeliverySystem}
    (run : Run (DeliverySystem.Steps collate) DeliverySystem.start trace t)
    (h : EveryStep (DeliverySystem.Steps collate) DeliverySystem.start trace NothingLost)
    (hdone : ∀ handler ∈ t.handlers, handler.phase = .done)
    (hended : ∀ execution ∈ t.executions, execution.phase = .ended) :
    ∀ delivery ∈ t.deliveries, delivery.status.Final := by
  rcases DeliverySystem.Awake.of_run run h with ⟨⟨_, hexclusive⟩, hawake⟩
  -- No generation is running: it would have a handler or an execution.
  have hidle : ∀ generation, ¬ t.Running generation := by
    intro generation hrun
    rcases hawake.live generation hrun with ⟨i, hi⟩ | ⟨i, execution, hat, _, hphase⟩
    · rcases Option.bind_eq_some_iff.mp hi with ⟨handler, hat, hphase⟩
      rw [hdone handler (List.mem_of_getElem? hat)] at hphase
      exact absurd hphase (by simp only [HandlerPhase.owes, reduceCtorEq, not_false_eq_true])
    · exact hphase (hended execution (List.mem_of_getElem? hat))
  intro delivery hmem
  have hinactive : ¬ delivery.Active := by
    intro hact
    rcases hexclusive.active delivery hmem hact with ⟨generation, _, hrun, _⟩
    exact hidle generation hrun
  refine delivery.status.final_of_not (fun hqueued => ?_)
    (fun hclaimed => hinactive (.inl hclaimed)) fun hdelivering => hinactive (.inr hdelivering)
  rcases hawake.wake ⟨delivery, hmem, hqueued⟩ with ⟨i, handler, hat, hearly⟩ |
    ⟨⟨generation, hrun⟩, _⟩
  · rw [hdone handler (List.mem_of_getElem? hat)] at hearly
    exact absurd hearly id
  · exact hidle generation hrun

/-! ### Runs to the end -/

/-- Whether a handler looks for a processor while no transaction is on its row. -/
def looksUnlocked (s : DeliverySystem) : DeliveryInput → Bool
  | .handles _ _ _ _ => s.executions.all fun execution => decide ¬ execution.phase.Locked
  | _ => true

def AllSettled (t : DeliverySystem) : Prop :=
  (∀ handler ∈ t.handlers, handler.phase = .done) ∧
    ∀ execution ∈ t.executions, execution.phase = .ended

instance (t : DeliverySystem) : Decidable (AllSettled t) :=
  inferInstanceAs (Decidable (_ ∧ _))

/-- A delivery is queued, claimed, delivered and completed, and the processor made idle. -/
def completeInputs : List DeliveryInput :=
  [.receives firstEvent] ++ List.replicate 4 (.handles 0 "prd_1" 0 .arrives) ++
    List.replicate 15 (.executes 0 0 .arrives .delivered none)

theorem every_delivery_final_completed :
    ∃ trace t, Run (DeliverySystem.Steps compare) DeliverySystem.start trace t ∧
      t.deliveries.map AssociationDelivery.status = [.completed] ∧
      ∀ delivery ∈ t.deliveries, delivery.status.Final := by
  have hexecutes : executesTo (DeliverySystem.step compare) DeliverySystem.start completeInputs
      (fun _ t => decide (AllSettled t ∧
        t.deliveries.map AssociationDelivery.status = [.completed])) = true := by decide
  have hpass : stepsPass (DeliverySystem.step compare) looksUnlocked DeliverySystem.start
      completeInputs = true := by decide
  rcases exists_run_of_stepsPass hexecutes hpass with ⟨trace, t, run, hinputs, hcheck, hevery⟩
  have hsettled := of_decide_eq_true hcheck
  refine ⟨trace, t, run, hsettled.2, ?_⟩
  refine every_delivery_final run (fun before input out after s htrace hbefore => ?_) hsettled.1.1
    hsettled.1.2
  have hmem : input ∈ completeInputs := by
    rw [← hinputs, htrace, List.map_append, List.map_cons]
    exact List.mem_append_right _ List.mem_cons_self
  have hlooks := hevery before input out after s htrace hbefore
  simp only [completeInputs, List.mem_append, List.mem_singleton, List.mem_replicate] at hmem
  refine ⟨fun i hinput => ?_, fun i handler hinput => ?_, fun i newId now handler hinput => ?_,
    fun i newId now handler generation hinput => ?_, ?_⟩
  · rw [hinput] at hmem
    simp only [reduceCtorEq, and_false, or_self] at hmem
  · rw [hinput] at hmem
    simp only [reduceCtorEq, and_false, or_self] at hmem
  · rw [hinput] at hmem
    simp only [reduceCtorEq, DeliveryInput.handles.injEq, and_false, or_self] at hmem
  · rw [hinput] at hmem
    simp only [reduceCtorEq, DeliveryInput.handles.injEq, and_false, or_self] at hmem
  · intro i newId now answer handler hinput _ _ j execution hat
    rw [hinput, looksUnlocked, List.all_eq_true] at hlooks
    have hunlocked := hlooks execution (List.mem_of_getElem? hat)
    exact DeliverySystem.not_idleEmpty_of_unlocked (of_decide_eq_true hunlocked)

/-- The handler of the second event queues its delivery when the run of the first one has seen
    that nothing is to do, and finds the processor running. -/
def windowInputs : List DeliveryInput :=
  [.receives firstEvent] ++ List.replicate 4 (.handles 0 "prd_1" 0 .arrives) ++
    List.replicate 14 (.executes 0 0 .arrives .delivered none) ++ [.receives secondEvent] ++
    List.replicate 4 (.handles 1 "prd_2" 0 .arrives) ++
    [.executes 0 0 .arrives .delivered none]

theorem delivery_left_behind :
    ∃ trace t, Run (DeliverySystem.Steps compare) DeliverySystem.start trace t ∧ AllSettled t ∧
      t.deliveries.map AssociationDelivery.status = [.completed, .queued] := by
  have hexecutes : executesTo (DeliverySystem.step compare) DeliverySystem.start windowInputs
      (fun _ t => decide (AllSettled t ∧
        t.deliveries.map AssociationDelivery.status = [.completed, .queued])) = true := by decide
  rcases exists_run_of_executesTo hexecutes with ⟨trace, t, run, _, hcheck⟩
  exact ⟨trace, t, run, of_decide_eq_true hcheck⟩

end Mistle
