import Mistle.Delivery.System

/-!
# One Delivery at a Time

Any number of executions of any generation take part, but a delivery is claimed only in a
transaction that has selected the row of the processor, with a generation that is running,
and that has seen no active delivery of it. And a processor becomes idle only when there is
nothing to do: either its run has seen that, or it has never been started. So there is at
most one active delivery, and it belongs to the generation that is running.

The handler that takes a processor back believes that its run was not started. It is wrong
if the run was started and the answer was lost, and this is the only way to two active
deliveries.

## Main definitions

* `HandlerPhase.owes`: The generation that a handler is to start.
* `DeliverySystem.Owing`, `DeliverySystem.Exclusive`: What holds between any two steps.
* `StartsAnswered`: No answer to a start is lost.

## Theorems

* `DeliverySystem.Owing.step`, `DeliverySystem.Exclusive.step`: A step keeps it.
* `one_active_delivery`: There is at most one active delivery.
* `two_active_deliveries`: A lost answer leads to two.
-/

namespace Mistle

/-- The generation that a handler is to start. -/
def HandlerPhase.owes : HandlerPhase → Option Nat
  | .starting generation | .idling generation => some generation
  | .enqueuing | .inserting | .restarting | .finding | .done => none

/-- In a transaction that has seen that nothing is active. -/
def ExecutionPhase.SeesNone : ExecutionPhase → Prop
  | .claimNext | .claimUpdate _ | .idleEmpty => True
  | _ => False

namespace DeliverySystem

def owes (s : DeliverySystem) (i : Nat) : Option Nat :=
  s.handlers[i]?.bind fun handler => handler.phase.owes

/-- What is owed is new. -/
structure Owing (s : DeliverySystem) : Prop where
  started : ∀ generation ∈ s.runs, ∃ processor, s.processor = some processor ∧
    generation ≤ processor.generation
  owed : ∀ i generation, s.owes i = some generation → generation ∉ s.runs ∧
    ∃ processor, s.processor = some processor ∧ generation ≤ processor.generation
  once : ∀ i j generation, s.owes i = some generation → s.owes j = some generation → i = j

/-- At most one delivery is active. -/
structure Exclusive (s : DeliverySystem) : Prop where
  ids : UniqueKeys AssociationDelivery.id s.deliveries
  active : ∀ delivery ∈ s.deliveries, delivery.Active → ∃ generation,
    delivery.processorGeneration = some generation ∧ s.Running generation ∧ generation ∈ s.runs
  single : ∀ delivery ∈ s.deliveries, ∀ other ∈ s.deliveries, delivery.Active → other.Active →
    delivery = other
  locked : ∀ (i : Nat) (execution : Execution), s.executions[i]? = some execution →
    execution.phase.Locked → s.holder = some i ∧ s.Running execution.generation
  seesNone : ∀ (i : Nat) (execution : Execution), s.executions[i]? = some execution →
    execution.phase.SeesNone → ∀ delivery ∈ s.deliveries, ¬ delivery.Active
  started : ∀ (i : Nat) (execution : Execution), s.executions[i]? = some execution →
    execution.generation ∈ s.runs

variable {collate : String → String → Ordering} {s t : DeliverySystem} {i j : Nat}
  {handler : WebhookHandler} {execution other : Execution} {answer : StatementFate}
  {told : List Nat}

/-! ### Handlers -/

theorem owes_setHandler {phase : HandlerPhase} (hat : s.handlers[i]? = some handler) :
    (s.setHandler i handler phase).owes j = if j = i then phase.owes else s.owes j := by
  unfold owes setHandler
  by_cases hji : j = i
  · rcases List.getElem?_eq_some_iff.mp hat with ⟨hlt, _⟩
    rw [if_pos hji, hji, List.getElem?_set_self hlt, Option.bind_some]
  · rw [if_neg hji, List.getElem?_set_ne (fun h => hji h.symm)]

/-- A handler that comes to owe nothing new. -/
theorem Owing.settle {phase : HandlerPhase} (h : s.Owing) (hat : s.handlers[i]? = some handler)
    (howes : phase.owes = none ∨ phase.owes = handler.phase.owes) :
    (s.setHandler i handler phase).Owing := by
  have howed : ∀ j generation, (s.setHandler i handler phase).owes j = some generation →
      s.owes j = some generation := by
    intro j generation hj
    rw [owes_setHandler hat] at hj
    by_cases hji : j = i
    · rw [if_pos hji] at hj
      rcases howes with hnone | hsame
      · rw [hnone] at hj
        exact absurd hj (by simp only [reduceCtorEq, not_false_eq_true])
      · rw [hji, owes, hat, Option.bind_some, ← hsame]
        exact hj
    · rwa [if_neg hji] at hj
  exact ⟨h.started, fun j generation hj => h.owed j generation (howed j generation hj),
    fun j k generation hj hk => h.once j k generation (howed j _ hj) (howed k _ hk)⟩

/-- Another row for the processor that has got at least as far. -/
theorem Owing.setProcessor {processor : Option DeliveryProcessor} (h : s.Owing)
    (hrow : ∀ last, s.processor = some last →
      ∃ next, processor = some next ∧ last.generation ≤ next.generation) :
    (s.setProcessor processor).Owing := by
  have hbound : ∀ generation, (∃ last, s.processor = some last ∧ generation ≤ last.generation) →
      ∃ next, processor = some next ∧ generation ≤ next.generation := by
    rintro generation ⟨last, hlast, hle⟩
    rcases hrow last hlast with ⟨next, hnext, hnextle⟩
    exact ⟨next, hnext, hle.trans hnextle⟩
  exact ⟨fun generation hmem => hbound generation (h.started generation hmem),
    fun j generation hj =>
      ⟨(h.owed j generation hj).1, hbound generation (h.owed j generation hj).2⟩,
    h.once⟩

theorem Owing.handlerChange (h : s.Owing) (hat : s.handlers[i]? = some handler)
    (hanswered : answer = .lost → ∀ generation, handler.phase ≠ .starting generation)
    (change : HandlerChange s i handler answer told t) : t.Owing := by
  cases change with
  | @enqueues newId now phase before fresh after =>
      refine Owing.settle ?_ hat (.inl ?_)
      · refine Owing.setProcessor (s := s.setDeliveries _) ⟨h.started, h.owed, h.once⟩ ?_
        intro last hlast
        refine ⟨last, ?_, le_rfl⟩
        have hrow : s.processor = some last := hlast
        rw [ensureAssociationDeliveryProcessor, hrow, Option.some_or]
      · rcases after with hphase | hphase <;>
          · rw [hphase]
            rfl
  | @tells generation phase _ before row after =>
      -- The new generation is above all that were there.
      have hnew : ∀ last, s.processor = some last → last.generation < generation := by
        intro last hlast
        rcases row with ⟨hnone, _⟩ | ⟨last', hrow, hgeneration⟩
        · rw [hnone] at hlast
          exact absurd hlast (by simp only [reduceCtorEq, not_false_eq_true])
        · rw [hrow, Option.some.injEq] at hlast
          rw [← hlast, hgeneration]
          exact Nat.lt_succ_self last'
      have hraised : (s.setProcessor (some ⟨generation, .running⟩)).Owing :=
        h.setProcessor fun last hlast => ⟨_, rfl, (hnew last hlast).le⟩
      have hatRaised :
          (s.setProcessor (some ⟨generation, .running⟩)).handlers[i]? = some handler := hat
      rcases after with ⟨_, hphase, _⟩ | ⟨_, hphase, _⟩
      · have hfresh : ∀ other, (∃ last, s.processor = some last ∧ other ≤ last.generation) →
            other ≠ generation := by
          rintro other ⟨last, hlast, hle⟩
          have hlt := hnew last hlast
          omega
        refine ⟨hraised.started, ?_, ?_⟩
        · intro j other hj
          rw [owes_setHandler hatRaised] at hj
          by_cases hji : j = i
          · rw [if_pos hji, hphase, HandlerPhase.owes, Option.some.injEq] at hj
            rw [← hj]
            exact ⟨fun hmem => hfresh generation (h.started generation hmem) rfl, _, rfl, le_rfl⟩
          · rw [if_neg hji] at hj
            exact hraised.owed j other hj
        · intro j k other hj hk
          rw [owes_setHandler hatRaised] at hj hk
          by_cases hji : j = i
          · by_cases hki : k = i
            · rw [hji, hki]
            · rw [if_pos hji, hphase, HandlerPhase.owes, Option.some.injEq] at hj
              rw [if_neg hki] at hk
              exact absurd hj.symm (hfresh other (h.owed k other hk).2)
          · rw [if_neg hji] at hj
            by_cases hki : k = i
            · rw [if_pos hki, hphase, HandlerPhase.owes, Option.some.injEq] at hk
              exact absurd hk.symm (hfresh other (h.owed j other hj).2)
            · rw [if_neg hki] at hk
              exact h.once j k other hj hk
      · refine hraised.settle hat (.inl ?_)
        rw [hphase]
        rfl
  | @starts generation phase before after =>
      rcases after with ⟨_, hphase⟩ | ⟨hlost, _⟩
      · have hat' : (s.startRun generation).handlers[i]? = some handler := by
          rwa [startRun_handlers]
        have howes : ∀ j other, ((s.startRun generation).setHandler i handler phase).owes j =
            some other → j ≠ i ∧ s.owes j = some other := by
          intro j other hj
          rw [owes_setHandler hat', hphase] at hj
          by_cases hji : j = i
          · rw [if_pos hji] at hj
            exact absurd hj (by simp only [HandlerPhase.owes, reduceCtorEq, not_false_eq_true])
          · rw [if_neg hji, owes, startRun_handlers] at hj
            exact ⟨hji, hj⟩
        have hi : s.owes i = some generation := by
          rw [owes, hat, Option.bind_some, before]
          rfl
        have hrow : ((s.startRun generation).setHandler i handler phase).processor = s.processor :=
          startRun_processor
        refine ⟨?_, ?_, ?_⟩
        · intro other hmem
          rw [hrow]
          rcases mem_startRun.mp hmem with hmem | hother
          · exact h.started other hmem
          · rw [hother]
            exact (h.owed i generation hi).2
        · intro j other hj
          rcases howes j other hj with ⟨hji, hj⟩
          rw [hrow]
          refine ⟨fun hmem => ?_, (h.owed j other hj).2⟩
          rcases mem_startRun.mp hmem with hmem | hother
          · exact (h.owed j other hj).1 hmem
          · rw [hother] at hj
            exact hji (h.once j i generation hj hi)
        · intro j k other hj hk
          exact h.once j k other (howes j other hj).2 (howes k other hk).2
      · exact absurd before (hanswered hlost generation)
  | @takesBack generation before running unlocked =>
      refine Owing.settle ?_ hat (.inl rfl)
      refine h.setProcessor fun last hlast => ⟨_, rfl, ?_⟩
      have hrow : s.processor = some ⟨generation, .running⟩ := running
      rw [hrow, Option.some.injEq] at hlast
      rw [← hlast]
  | turns turn =>
      refine h.settle hat ?_
      generalize hfrom : handler.phase = from_ at turn
      cases turn with
      | starts => exact .inr rfl
      | inserts => exact .inl rfl
      | restarts => exact .inl rfl
      | finds => exact .inl rfl
      | idles => exact .inl rfl
      | again => exact .inl rfl

/-! ### Executions -/

theorem executions_setExecution {phase : ExecutionPhase}
    (h : (s.setExecution i execution phase).executions[j]? = some other) :
    j = i ∧ other = ⟨execution.generation, phase⟩ ∨ j ≠ i ∧ s.executions[j]? = some other := by
  unfold setExecution at h
  by_cases hji : j = i
  · rw [hji] at h
    rcases List.getElem?_eq_some_iff.mp h with ⟨hlt, _⟩
    rw [List.length_set] at hlt
    rw [List.getElem?_set_self hlt, Option.some.injEq] at h
    exact .inl ⟨hji, h.symm⟩
  · rw [List.getElem?_set_ne (fun heq => hji heq.symm)] at h
    exact .inr ⟨hji, h⟩

theorem Owing.executionChange (h : s.Owing) (change : ExecutionChange s i execution t) :
    t.Owing := by
  cases change with
  | idles =>
      have hidled : (s.setProcessor
          (setDeliveryProcessorIdle execution.generation s.processor).1).Owing := by
        refine h.setProcessor fun last hlast => ?_
        rcases setDeliveryProcessorIdle_generation hlast with ⟨next, hnext, hgeneration⟩
        exact ⟨next, hnext, hgeneration.ge⟩
      exact ⟨hidled.started, hidled.owed, hidled.once⟩
  | locks => exact ⟨h.started, h.owed, h.once⟩
  | reads => exact ⟨h.started, h.owed, h.once⟩
  | leaves => exact ⟨h.started, h.owed, h.once⟩
  | claims => exact ⟨h.started, h.owed, h.once⟩
  | marks => exact ⟨h.started, h.owed, h.once⟩
  | finalizes => exact ⟨h.started, h.owed, h.once⟩
  | advances => exact ⟨h.started, h.owed, h.once⟩

theorem locked_of_seesNone {phase : ExecutionPhase} (h : phase.SeesNone) : phase.Locked := by
  cases phase with
  | claimNext => trivial
  | claimUpdate => trivial
  | claimLocked => trivial
  | idleLocked => trivial
  | idleEmpty => trivial
  | _ => exact h

/-- A step that makes nothing active and lets no transaction begin. -/
theorem Exclusive.frame (h : s.Exclusive) (hids : UniqueKeys AssociationDelivery.id t.deliveries)
    (hactive : ActiveWithin s.deliveries t.deliveries)
    (hrunning : ∀ generation, s.Running generation → t.Running generation)
    (hruns : ∀ generation ∈ s.runs, generation ∈ t.runs) (hholder : t.holder = s.holder)
    (hexecutions : ∀ (j : Nat) (other : Execution), t.executions[j]? = some other →
      other.generation ∈ t.runs ∧ (¬ other.phase.Locked ∨ s.executions[j]? = some other)) :
    t.Exclusive where
  ids := hids
  active := by
    intro delivery hmem hact
    rcases hactive delivery hmem hact with ⟨old, hold, _, hactOld, hgeneration⟩
    rcases h.active old hold hactOld with ⟨generation, hg, hrun, hmemRun⟩
    exact ⟨generation, hgeneration ▸ hg, hrunning generation hrun, hruns generation hmemRun⟩
  single := by
    intro delivery hmem other hother hact hactOther
    rcases hactive delivery hmem hact with ⟨old, hold, hid, hactOld, _⟩
    rcases hactive other hother hactOther with ⟨old', hold', hid', hactOld', _⟩
    have hsame := h.single old hold old' hold' hactOld hactOld'
    refine List.inj_on_of_nodup_map hids hmem hother ?_
    rw [← hid, ← hid', hsame]
  locked := by
    intro j other hother hlocked
    rcases (hexecutions j other hother).2 with hunlocked | hbefore
    · exact absurd hlocked hunlocked
    · rw [hholder]
      exact ⟨(h.locked j other hbefore hlocked).1, hrunning _ (h.locked j other hbefore hlocked).2⟩
  seesNone := by
    intro j other hother hsees delivery hmem hact
    rcases (hexecutions j other hother).2 with hunlocked | hbefore
    · exact hunlocked (locked_of_seesNone hsees)
    · rcases hactive delivery hmem hact with ⟨old, hold, _, hactOld, _⟩
      exact h.seesNone j other hbefore hsees old hold hactOld
  started := fun j other hother => (hexecutions j other hother).1

/-- A state without transactions on the row of the processor. -/
theorem Exclusive.of_unlocked (hids : UniqueKeys AssociationDelivery.id t.deliveries)
    (hactive : ∀ delivery ∈ t.deliveries, delivery.Active → ∃ generation,
      delivery.processorGeneration = some generation ∧ t.Running generation ∧ generation ∈ t.runs)
    (hsingle : ∀ delivery ∈ t.deliveries, ∀ other ∈ t.deliveries, delivery.Active → other.Active →
      delivery.id = other.id)
    (hexecutions : ∀ (j : Nat) (other : Execution), t.executions[j]? = some other →
      other.generation ∈ t.runs ∧ ¬ other.phase.Locked) : t.Exclusive where
  ids := hids
  active := hactive
  single := fun delivery hmem other hother hact hactOther =>
    List.inj_on_of_nodup_map hids hmem hother (hsingle delivery hmem other hother hact hactOther)
  locked := fun j other hother hlocked => absurd hlocked (hexecutions j other hother).2
  seesNone := fun j other hother hsees =>
    absurd (locked_of_seesNone hsees) (hexecutions j other hother).2
  started := fun j other hother => (hexecutions j other hother).1

/-- A transaction that ends leaves none behind. -/
theorem Exclusive.unlocked_after (h : s.Exclusive) (hat : s.executions[i]? = some execution)
    (hlocked : execution.phase.Locked) {phase : ExecutionPhase} (hphase : ¬ phase.Locked)
    (hother : (s.setExecution i execution phase).executions[j]? = some other) :
    other.generation ∈ s.runs ∧ ¬ other.phase.Locked := by
  rcases executions_setExecution hother with ⟨_, hsame⟩ | ⟨hji, hbefore⟩
  · rw [hsame]
    exact ⟨h.started i execution hat, hphase⟩
  · refine ⟨h.started j other hbefore, fun hlockedOther => hji ?_⟩
    have hholder := (h.locked i execution hat hlocked).1
    rw [(h.locked j other hbefore hlockedOther).1] at hholder
    exact Option.some.inj hholder

/-- The executions after one of them has turned to a phase outside of a transaction. -/
theorem Exclusive.turned (h : s.Exclusive) (hat : s.executions[i]? = some execution)
    {phase : ExecutionPhase} (hphase : ¬ phase.Locked)
    (hother : (s.setExecution i execution phase).executions[j]? = some other) :
    other.generation ∈ s.runs ∧ (¬ other.phase.Locked ∨ s.executions[j]? = some other) := by
  rcases executions_setExecution hother with ⟨_, hsame⟩ | ⟨_, hbefore⟩
  · rw [hsame]
    exact ⟨h.started i execution hat, .inl hphase⟩
  · exact ⟨h.started j other hbefore, .inr hbefore⟩

theorem Exclusive.executionChange (h : s.Exclusive) (hat : s.executions[i]? = some execution)
    (change : ExecutionChange s i execution t) : t.Exclusive := by
  cases change with
  | @locks phase running unlocked turn =>
      have hlockedPhase : phase.Locked ∧ ¬ phase.SeesNone := by
        rcases turn with ⟨_, hphase⟩ | ⟨_, hphase⟩ <;>
          · rw [hphase]
            exact ⟨trivial, id⟩
      -- The row was free, so no other transaction is on it.
      have hfree : ∀ (j : Nat) (other : Execution), s.executions[j]? = some other →
          ¬ other.phase.Locked := by
        intro j other hbefore hlocked
        rw [(h.locked j other hbefore hlocked).1] at unlocked
        exact absurd unlocked (by simp only [reduceCtorEq, not_false_eq_true])
      refine ⟨h.ids, h.active, h.single, ?_, ?_, ?_⟩
      · intro j other hother hlocked
        rcases executions_setExecution hother with ⟨hji, hsame⟩ | ⟨_, hbefore⟩
        · rw [hji, hsame]
          exact ⟨rfl, running⟩
        · exact absurd hlocked (hfree j other hbefore)
      · intro j other hother hsees
        rcases executions_setExecution hother with ⟨_, hsame⟩ | ⟨_, hbefore⟩
        · rw [hsame] at hsees
          exact absurd hsees hlockedPhase.2
        · exact absurd (locked_of_seesNone hsees) (hfree j other hbefore)
      · intro j other hother
        rcases executions_setExecution hother with ⟨_, hsame⟩ | ⟨_, hbefore⟩
        · rw [hsame]
          exact h.started i execution hat
        · exact h.started j other hbefore
  | @reads phase turn =>
      -- The transaction goes on, and what it has seen holds.
      have hseen : execution.phase.Locked ∧ (phase.SeesNone →
          ∀ delivery ∈ s.deliveries, ¬ delivery.Active) := by
        generalize hfrom : execution.phase = before at turn
        have hrunning := h.locked i execution hat
        cases turn with
        | inactive hnone =>
            refine ⟨trivial, fun _ delivery hmem hact => ?_⟩
            rcases h.active delivery hmem hact with ⟨generation, hgeneration, hrun, _⟩
            have hcurrent : s.Running execution.generation := (hrunning (hfrom ▸ trivial)).2
            have hsame : s.processor = some ⟨generation, .running⟩ := hrun
            rw [Running, hsame, Option.some.injEq, DeliveryProcessor.mk.injEq] at hcurrent
            exact hnone delivery hmem (hcurrent.1 ▸ hgeneration) hact
        | next =>
            exact ⟨trivial, fun _ => h.seesNone i execution hat (hfrom ▸ trivial)⟩
        | empty hnone => exact ⟨trivial, fun _ delivery hmem => (hnone delivery hmem).2⟩
      refine ⟨h.ids, h.active, h.single, ?_, ?_, ?_⟩
      · intro j other hother hlocked
        rcases executions_setExecution hother with ⟨hji, hsame⟩ | ⟨_, hbefore⟩
        · rw [hji, hsame]
          exact h.locked i execution hat hseen.1
        · exact h.locked j other hbefore hlocked
      · intro j other hother hsees
        rcases executions_setExecution hother with ⟨_, hsame⟩ | ⟨_, hbefore⟩
        · rw [hsame] at hsees
          exact hseen.2 hsees
        · exact h.seesNone j other hbefore hsees
      · intro j other hother
        rcases executions_setExecution hother with ⟨_, hsame⟩ | ⟨_, hbefore⟩
        · rw [hsame]
          exact h.started i execution hat
        · exact h.started j other hbefore
  | @leaves phase before after =>
      refine .of_unlocked h.ids h.active ?_ fun j other hother => ?_
      · intro delivery hmem other hother hact hactOther
        rw [h.single delivery hmem other hother hact hactOther]
      · exact h.unlocked_after hat before after.unlocked hother
  | @claims deliveryId now phase before after =>
      have hsees : execution.phase.SeesNone := before ▸ trivial
      have hlocked := h.locked i execution hat (locked_of_seesNone hsees)
      -- Nothing was active, so what is active has just been claimed.
      have hclaimed : ∀ delivery ∈
          (claimDelivery execution.generation deliveryId now s.deliveries).1, delivery.Active →
          delivery.id = deliveryId ∧ delivery.processorGeneration = some execution.generation := by
        intro delivery hmem hact
        rcases mem_claimDelivery hmem with hbefore | hclaimed
        · exact absurd hact (h.seesNone i execution hat hsees delivery hbefore)
        · exact hclaimed
      have hids := (moved_claimDelivery execution.generation deliveryId now).uniqueIds h.ids
      refine .of_unlocked hids ?_ ?_ fun j other hother => ?_
      · intro delivery hmem hact
        exact ⟨execution.generation, (hclaimed delivery hmem hact).2, hlocked.2,
          h.started i execution hat⟩
      · intro delivery hmem other hother hact hactOther
        rw [(hclaimed delivery hmem hact).1, (hclaimed other hother hactOther).1]
      · exact h.unlocked_after hat (locked_of_seesNone hsees) after.unlocked hother
  | @idles phase before after =>
      have hsees : execution.phase.SeesNone := before ▸ trivial
      have hnone := h.seesNone i execution hat hsees
      have hphase : ¬ phase.Locked := by
        rcases after with hgoing | hended
        · exact hgoing.unlocked
        · rw [hended]
          exact id
      refine .of_unlocked h.ids ?_ ?_ fun j other hother => ?_
      · exact fun delivery hmem hact => absurd hact (hnone delivery hmem)
      · exact fun delivery hmem _ _ hact => absurd hact (hnone delivery hmem)
      · exact h.unlocked_after hat (locked_of_seesNone hsees) hphase hother
  | @marks deliveryId now phase before after =>
      exact h.frame ((moved_markDeliveryDelivering _ _ _).uniqueIds h.ids)
        (active_markDeliveryDelivering _ _ _) (fun _ hrunning => hrunning) (fun _ hmem => hmem) rfl
        fun j other hother => h.turned hat after.unlocked hother
  | @finalizes input now phase before after =>
      exact h.frame ((moved_finalizeDelivery _ _).uniqueIds h.ids) (active_finalizeDelivery _ _)
        (fun _ hrunning => hrunning) (fun _ hmem => hmem) rfl
        fun j other hother => h.turned hat after.unlocked hother
  | @advances phase before after =>
      have hphase : ¬ phase.Locked := by
        rcases after with hgoing | ⟨hended, _⟩
        · exact hgoing.unlocked
        · rw [hended]
          exact id
      exact h.frame h.ids (ActiveWithin.refl _) (fun _ hrunning => hrunning) (fun _ hmem => hmem)
        rfl fun j other hother => h.turned hat hphase hother

/-! ### Steps -/

/-- A step of a handler that leaves rows and transactions as they are. -/
theorem Exclusive.setHandler (h : s.Exclusive) (phase : HandlerPhase) :
    (s.setHandler i handler phase).Exclusive :=
  ⟨h.ids, h.active, h.single, h.locked, h.seesNone, h.started⟩

theorem Exclusive.enqueue (h : s.Exclusive) (input : EnqueueAssociationDeliveryInput)
    {newId : String} (now : Instant)
    (hfresh : findRow AssociationDelivery.id newId s.deliveries = none) :
    ((s.setDeliveries (enqueueAssociationDelivery input newId now s.deliveries).1).setProcessor
      (ensureAssociationDeliveryProcessor s.processor)).Exclusive := by
  have hrunning : ∀ generation, s.Running generation →
      ensureAssociationDeliveryProcessor s.processor = some ⟨generation, .running⟩ := by
    intro generation hrun
    have hrow : s.processor = some ⟨generation, .running⟩ := hrun
    rw [ensureAssociationDeliveryProcessor, hrow, Option.some_or]
  refine h.frame ?_ ?_ hrunning (fun _ hmem => hmem) rfl fun j other hother =>
    ⟨h.started j other hother, .inr hother⟩
  · rcases enqueueAssociationDelivery_eq input newId now s.deliveries with heq |
      ⟨delivery, heq, hid, _⟩
    · exact (congrArg (UniqueKeys AssociationDelivery.id) heq).mpr h.ids
    · refine (congrArg (UniqueKeys AssociationDelivery.id) heq).mpr (h.ids.append ?_)
      rw [hid]
      exact hfresh
  · rcases enqueueAssociationDelivery_eq input newId now s.deliveries with heq |
      ⟨delivery, heq, _, hqueued, _⟩
    · exact (congrArg (ActiveWithin s.deliveries) heq).mpr (ActiveWithin.refl _)
    · refine (congrArg (ActiveWithin s.deliveries) heq).mpr fun moved hmoved hact => ?_
      rcases List.mem_append.mp hmoved with hmoved | hmoved
      · exact ActiveWithin.refl _ moved hmoved hact
      · rw [List.mem_singleton.mp hmoved, AssociationDelivery.Active, hqueued] at hact
        simp only [reduceCtorEq, or_self] at hact

/-- Where no generation is running there is nothing active, and no transaction. -/
theorem Exclusive.of_not_running (h : s.Exclusive)
    (hnone : ∀ generation, s.Running generation → generation ∉ s.runs)
    (processor : Option DeliveryProcessor) : (s.setProcessor processor).Exclusive := by
  have hinactive : ∀ delivery ∈ s.deliveries, ¬ delivery.Active := by
    intro delivery hmem hact
    rcases h.active delivery hmem hact with ⟨generation, _, hrun, hmemRun⟩
    exact hnone generation hrun hmemRun
  refine .of_unlocked h.ids ?_ ?_ fun j other hother =>
    ⟨h.started j other hother, fun hlocked => ?_⟩
  · exact fun delivery hmem hact => absurd hact (hinactive delivery hmem)
  · exact fun delivery hmem _ _ hact => absurd hact (hinactive delivery hmem)
  · exact hnone _ (h.locked j other hother hlocked).2 (h.started j other hother)

theorem Exclusive.handlerChange (h : s.Exclusive) (howing : s.Owing)
    (hat : s.handlers[i]? = some handler) (change : HandlerChange s i handler answer told t) :
    t.Exclusive := by
  cases change with
  | enqueues newId now before fresh after => exact (h.enqueue handler.input now fresh).setHandler _
  | @tells generation phase _ before row after =>
      refine (h.of_not_running (fun other hrun => ?_) _).setHandler phase
      have hrow : s.processor = some ⟨other, .running⟩ := hrun
      rcases row with ⟨hnone, _⟩ | ⟨last, hidle, _⟩
      · rw [hnone] at hrow
        exact absurd hrow (by simp only [reduceCtorEq, not_false_eq_true])
      · rw [hidle] at hrow
        exact absurd hrow idle_ne_running
  | @starts generation phase before after =>
      refine Exclusive.setHandler ?_ phase
      refine h.frame ?_ ?_ ?_ (fun _ hmem => mem_startRun.mpr (.inl hmem))
        startRun_holder fun j other hother => ?_
      · rw [startRun_deliveries]
        exact h.ids
      · rw [startRun_deliveries]
        exact ActiveWithin.refl _
      · intro other hrun
        rw [Running, startRun_processor]
        exact hrun
      · rcases startRun_executions hother with hbefore | hnew
        · exact ⟨mem_startRun.mpr (.inl (h.started j other hbefore)), .inr hbefore⟩
        · rw [hnew]
          exact ⟨mem_startRun.mpr (.inr rfl), .inl id⟩
  | @takesBack generation before running unlocked =>
      refine (h.of_not_running (fun other hrun => ?_) _).setHandler _
      -- The generation that is taken back has not been started.
      have hi : s.owes i = some generation := by
        rw [owes, hat, Option.bind_some, before]
        rfl
      have hrow : s.processor = some ⟨generation, .running⟩ := running
      rw [Running, hrow, Option.some.injEq, DeliveryProcessor.mk.injEq] at hrun
      rw [← hrun.1]
      exact (howing.owed i generation hi).1
  | turns => exact h.setHandler _

end DeliverySystem

/-- No answer to a start is lost. -/
def StartsAnswered (s : DeliverySystem) (input : DeliveryInput) (_ : List Nat) : Prop :=
  ∀ i newId now handler generation, input = .handles i newId now .lost →
    s.handlers[i]? = some handler → handler.phase ≠ .starting generation

namespace DeliverySystem

variable {input : DeliveryInput}

theorem again_unlocked (phase : ExecutionPhase) : ¬ phase.again.Locked := by
  intro hlocked
  cases phase with
  | submitting deliveryId resumed => exact (deliver_going deliveryId resumed).unlocked hlocked
  | failing deliveryId resumed failure => exact (deliver_going deliveryId resumed).unlocked hlocked
  | _ => exact hlocked

theorem Exclusive.step (h : s.Owing ∧ s.Exclusive) (hanswered : StartsAnswered s input told)
    (hstep : Steps collate s input told t) : t.Owing ∧ t.Exclusive := by
  rcases h with ⟨howing, hexclusive⟩
  cases change_of_step hstep with
  | receives input =>
      have howes : ∀ j generation,
          owes { s with handlers := s.handlers ++ [⟨input, .enqueuing⟩] } j = some generation →
          s.owes j = some generation := by
        intro j generation hj
        rcases Option.bind_eq_some_iff.mp hj with ⟨handler, hat, hphase⟩
        rcases getElem?_append_singleton hat with hbefore | hnew
        · rw [owes, hbefore]
          exact hphase
        · rw [hnew] at hphase
          exact absurd hphase (by simp only [HandlerPhase.owes, reduceCtorEq, not_false_eq_true])
      refine ⟨⟨howing.started, fun j generation hj => howing.owed j generation (howes j _ hj),
        fun j k generation hj hk => howing.once j k generation (howes j _ hj) (howes k _ hk)⟩, ?_⟩
      exact ⟨hexclusive.ids, hexclusive.active, hexclusive.single, hexclusive.locked,
        hexclusive.seesNone, hexclusive.started⟩
  | @handles i handler newId now answer _ _ hat change =>
      refine ⟨howing.handlerChange hat ?_ change, hexclusive.handlerChange howing hat change⟩
      intro hlost generation
      exact hanswered i newId now handler generation (hlost ▸ rfl) hat
  | interrupts hat => exact ⟨howing.settle hat (.inl rfl), hexclusive.setHandler _⟩
  | executes hat change =>
      exact ⟨howing.executionChange change, hexclusive.executionChange hat change⟩
  | @resumes i execution hat =>
      refine ⟨⟨howing.started, howing.owed, howing.once⟩, ?_⟩
      refine hexclusive.frame hexclusive.ids (ActiveWithin.refl _) (fun _ hrun => hrun)
        (fun _ hmem => hmem) rfl fun j other hother => ?_
      rcases getElem?_append_singleton hother with hbefore | hnew
      · exact ⟨hexclusive.started j other hbefore, .inr hbefore⟩
      · rw [hnew]
        exact ⟨hexclusive.started i execution hat, .inl (again_unlocked _)⟩
  | givesUp hat before =>
      refine ⟨⟨howing.started, howing.owed, howing.once⟩, ?_⟩
      exact hexclusive.frame hexclusive.ids (ActiveWithin.refl _) (fun _ hrun => hrun)
        (fun _ hmem => hmem) rfl fun j other hother => hexclusive.turned hat id hother

theorem Exclusive.init : start.Owing ∧ start.Exclusive :=
  ⟨⟨fun _ h => absurd h List.not_mem_nil,
      fun _ _ h => absurd h (by simp only [owes, start, List.getElem?_nil, Option.bind_none,
        reduceCtorEq, not_false_eq_true]),
      fun _ _ _ h => absurd h (by simp only [owes, start, List.getElem?_nil, Option.bind_none,
        reduceCtorEq, not_false_eq_true])⟩,
    ⟨List.nodup_nil, fun _ h => absurd h List.not_mem_nil, fun _ h => absurd h List.not_mem_nil,
      fun _ _ h => absurd h (by simp only [start, List.getElem?_nil, reduceCtorEq,
        not_false_eq_true]),
      fun _ _ h => absurd h (by simp only [start, List.getElem?_nil, reduceCtorEq,
        not_false_eq_true]),
      fun _ _ h => absurd h (by simp only [start, List.getElem?_nil, reduceCtorEq,
        not_false_eq_true])⟩⟩

/-- The invariant holds in every run in which no answer to a start is lost. -/
theorem Exclusive.of_run {trace : List (Entry DeliveryInput Nat)}
    (run : Run (Steps collate) start trace t)
    (h : EveryStep (Steps collate) start trace StartsAnswered) : t.Owing ∧ t.Exclusive := by
  refine (run.restrict h).invariant (P := fun s => s.Owing ∧ s.Exclusive) Exclusive.init
    fun a input out b hinv hstep => ?_
  exact Exclusive.step hinv hstep.2 hstep.1

end DeliverySystem

/-- At most one delivery is claimed or delivering, and it belongs to the generation that is
    running. -/
theorem one_active_delivery {collate : String → String → Ordering}
    {trace : List (Entry DeliveryInput Nat)} {t : DeliverySystem}
    (run : Run (DeliverySystem.Steps collate) DeliverySystem.start trace t)
    (h : EveryStep (DeliverySystem.Steps collate) DeliverySystem.start trace StartsAnswered) :
    t.deliveries.countP (fun delivery => decide delivery.Active) ≤ 1 ∧
      ∀ delivery ∈ t.deliveries, delivery.Active →
        ∃ generation, delivery.processorGeneration = some generation ∧ t.Running generation := by
  have hinv := (DeliverySystem.Exclusive.of_run run h).2
  refine ⟨?_, fun delivery hmem hact => ?_⟩
  · exact countP_le_one hinv.ids.of_map fun delivery other hmem hother hact hactOther =>
      hinv.single delivery hmem other hother (of_decide_eq_true hact) (of_decide_eq_true hactOther)
  · rcases hinv.active delivery hmem hact with ⟨generation, hgeneration, hrun, _⟩
    exact ⟨generation, hgeneration, hrun⟩

/-! ### Runs of one and of two handlers -/

def firstEvent : EnqueueAssociationDeliveryInput := ⟨"iwe_1", "1", "opened"⟩

def secondEvent : EnqueueAssociationDeliveryInput := ⟨"iwe_2", "2", "commented"⟩

/-- A handler queues a delivery and starts a processor, whose run claims the delivery. -/
def claimInputs : List DeliveryInput :=
  [.receives firstEvent] ++ List.replicate 4 (.handles 0 "prd_1" 0 .arrives) ++
    List.replicate 5 (.executes 0 0 .arrives .delivered none)

theorem one_active_delivery_claimed :
    ∃ trace t, Run (DeliverySystem.Steps compare) DeliverySystem.start trace t ∧
      t.deliveries.countP (fun delivery => decide delivery.Active) = 1 ∧
      t.deliveries.countP (fun delivery => decide delivery.Active) ≤ 1 := by
  have hexecutes : executesTo (DeliverySystem.step compare) DeliverySystem.start claimInputs
      (fun _ t => decide (t.deliveries.countP (fun delivery => decide delivery.Active) = 1)) =
      true := by decide
  rcases exists_run_of_executesTo hexecutes with ⟨trace, t, run, hinputs, hcount⟩
  refine ⟨trace, t, run, of_decide_eq_true hcount, (one_active_delivery run ?_).1⟩
  intro before input out after s htrace _ i newId now handler generation hinput _
  have hmem : input ∈ claimInputs := by
    rw [← hinputs, htrace, List.map_append, List.map_cons]
    exact List.mem_append_right _ List.mem_cons_self
  rw [hinput] at hmem
  simp only [claimInputs, List.mem_append, List.mem_singleton, List.mem_replicate, reduceCtorEq,
    DeliveryInput.handles.injEq, and_false, or_self] at hmem

/-- The handler of the first event is told that its start failed, and takes back the processor
    whose run has claimed the delivery. The handler of the second event starts another. -/
def takenBackInputs : List DeliveryInput :=
  [.receives firstEvent, .receives secondEvent] ++
    [.handles 0 "prd_1" 0 .arrives, .handles 1 "prd_2" 0 .arrives] ++
    List.replicate 2 (.handles 0 "prd_3" 0 .arrives) ++ [.handles 0 "prd_3" 0 .lost] ++
    List.replicate 5 (.executes 0 0 .arrives .delivered none) ++
    [.handles 0 "prd_3" 0 .arrives] ++ List.replicate 3 (.handles 1 "prd_3" 0 .arrives) ++
    List.replicate 5 (.executes 1 0 .arrives .delivered none)

theorem two_active_deliveries :
    ∃ trace t, Run (DeliverySystem.Steps compare) DeliverySystem.start trace t ∧
      t.deliveries.countP (fun delivery => decide delivery.Active) = 2 := by
  have hexecutes : executesTo (DeliverySystem.step compare) DeliverySystem.start takenBackInputs
      (fun _ t => decide (t.deliveries.countP (fun delivery => decide delivery.Active) = 2)) =
      true := by decide
  rcases exists_run_of_executesTo hexecutes with ⟨trace, t, run, _, hcount⟩
  exact ⟨trace, t, run, of_decide_eq_true hcount⟩

end Mistle
