import Mathlib.Logic.Relation
import Mistle.Delivery.Exclusive

/-!
# What is Settled Stays Settled

Whatever fails and whatever answers are lost: the generations that handlers are told to
start go up, so no generation is started by two of them; and a delivery is claimed once, by
one generation, and is not written to again after it is final. Nothing in use gives a
delivery back.

## Main definitions

* `DeliverySystem.Recorded`: What the row of a delivery says of itself.

## Theorems

* `DeliverySystem.Change.generations`: A step keeps the generation or tells of a later one.
* `told_increasing`: The generations go up.
* `DeliverySystem.Change.moved`: A step moves rows, and adds queued ones.
* `claimed_once`: What becomes of a delivery.
-/

namespace Mistle

namespace DeliverySystem

variable {collate : String → String → Ordering} {s t : DeliverySystem} {i : Nat}
  {handler : WebhookHandler} {execution : Execution} {answer : StatementFate} {told : List Nat}
  {input : DeliveryInput}

/-! ### Generations -/

/-- A later row for the processor. -/
def ProcessorLe (row next : Option DeliveryProcessor) : Prop :=
  ∀ processor, row = some processor →
    ∃ later, next = some later ∧ processor.generation ≤ later.generation

theorem ProcessorLe.refl (row : Option DeliveryProcessor) : ProcessorLe row row :=
  fun processor hrow => ⟨processor, hrow, le_rfl⟩

/-- A step keeps the generation, or goes to a later one that a handler is told of. -/
def Generations (s : DeliverySystem) (told : List Nat) (t : DeliverySystem) : Prop :=
  ProcessorLe s.processor t.processor ∧
    (told = [] ∨ ∃ generation status, told = [generation] ∧
      t.processor = some ⟨generation, status⟩ ∧
      ∀ processor, s.processor = some processor → processor.generation < generation)

theorem Change.generations (change : Change s input told t) : Generations s told t := by
  cases change with
  | receives => exact ⟨.refl _, .inl rfl⟩
  | interrupts => exact ⟨.refl _, .inl rfl⟩
  | resumes => exact ⟨.refl _, .inl rfl⟩
  | givesUp => exact ⟨.refl _, .inl rfl⟩
  | handles _ change =>
      cases change with
      | enqueues =>
          refine ⟨fun processor hrow => ⟨processor, ?_, le_rfl⟩, .inl rfl⟩
          have hsame : ensureAssociationDeliveryProcessor s.processor = some processor := by
            rw [ensureAssociationDeliveryProcessor, hrow, Option.some_or]
          exact hsame
      | @tells generation phase told before row after =>
          have hlater : ∀ processor, s.processor = some processor →
              processor.generation < generation := by
            intro processor hrow
            rcases row with ⟨hnone, _⟩ | ⟨last, hidle, hgeneration⟩
            · rw [hnone] at hrow
              exact absurd hrow (by simp only [reduceCtorEq, not_false_eq_true])
            · rw [hidle, Option.some.injEq] at hrow
              rw [← hrow, hgeneration]
              exact Nat.lt_succ_self last
          refine ⟨fun processor hrow => ⟨_, rfl, (hlater processor hrow).le⟩, ?_⟩
          rcases after with ⟨_, _, htold⟩ | ⟨_, _, htold⟩
          · exact .inr ⟨generation, _, htold, rfl, hlater⟩
          · exact .inl htold
      | @starts generation phase before after =>
          refine ⟨fun processor hrow => ⟨processor, ?_, le_rfl⟩, .inl rfl⟩
          have hsame : (s.startRun generation).processor = some processor := by
            rw [startRun_processor, hrow]
          exact hsame
      | @takesBack generation before running =>
          refine ⟨fun processor hrow => ⟨_, rfl, ?_⟩, .inl rfl⟩
          have hsame : s.processor = some ⟨generation, .running⟩ := running
          rw [hsame, Option.some.injEq] at hrow
          rw [← hrow]
      | turns => exact ⟨.refl _, .inl rfl⟩
  | executes _ change =>
      cases change with
      | idles =>
          refine ⟨fun processor hrow => ?_, .inl rfl⟩
          rcases setDeliveryProcessorIdle_generation hrow with ⟨later, hlater, hgeneration⟩
          exact ⟨later, hlater, hgeneration.ge⟩
      | locks => exact ⟨.refl _, .inl rfl⟩
      | reads => exact ⟨.refl _, .inl rfl⟩
      | leaves => exact ⟨.refl _, .inl rfl⟩
      | claims => exact ⟨.refl _, .inl rfl⟩
      | marks => exact ⟨.refl _, .inl rfl⟩
      | finalizes => exact ⟨.refl _, .inl rfl⟩
      | advances => exact ⟨.refl _, .inl rfl⟩

/-! ### Deliveries -/

/-- What the row of a delivery says of itself. -/
def Recorded (delivery : AssociationDelivery) : Prop :=
  delivery.attemptCount = (if delivery.status = .queued then 0 else 1) ∧
    (delivery.processorGeneration = none ↔ delivery.status = .queued)

theorem Recorded.move {delivery moved : AssociationDelivery} (h : Recorded delivery)
    (hmove : DeliveryMove delivery moved) : Recorded moved := by
  have hnot := hmove.not_queued
  rcases h with ⟨hcount, hgeneration⟩
  cases hmove with
  | claims generation now queued =>
      refine ⟨?_, ?_⟩
      · rw [if_neg hnot, AssociationDelivery.claim, hcount, if_pos queued]
      · exact iff_of_false (Option.some_ne_none generation) hnot
  | delivers now claimed =>
      have hbefore : delivery.status ≠ .queued := by
        rw [claimed]
        exact fun h => DeliveryStatus.noConfusion h
      refine ⟨?_, iff_of_false (fun hnone => hbefore (hgeneration.mp hnone)) hnot⟩
      rw [if_neg hnot, hcount, if_neg hbefore]
  | finishes failureCode failureMessage now active final =>
      have hbefore : delivery.status ≠ .queued := by
        rcases active with h | h <;>
          · rw [h]
            exact fun h => DeliveryStatus.noConfusion h
      refine ⟨?_, iff_of_false (fun hnone => hbefore (hgeneration.mp hnone)) hnot⟩
      rw [if_neg hnot, hcount, if_neg hbefore]

/-- The rows after a step: those from before, moved or left as they are, and a queued one. -/
def MovedOrQueued (old new : List AssociationDelivery) : Prop :=
  Moved old new ∨ ∃ delivery, new = old ++ [delivery] ∧ Recorded delivery ∧
    findRow AssociationDelivery.id delivery.id old = none

theorem Change.moved (change : Change s input told t) :
    MovedOrQueued s.deliveries t.deliveries := by
  cases change with
  | receives => exact .inl (.refl _)
  | interrupts => exact .inl (.refl _)
  | resumes => exact .inl (.refl _)
  | givesUp => exact .inl (.refl _)
  | @handles i handler _ _ _ _ _ _ change =>
      cases change with
      | @enqueues newId now _ _ fresh _ =>
          have hqueues : MovedOrQueued s.deliveries
              (enqueueAssociationDelivery handler.input newId now s.deliveries).1 := by
            rcases enqueueAssociationDelivery_eq handler.input newId now s.deliveries with heq |
              ⟨delivery, heq, hid, hqueued, hcount, hgeneration⟩
            · rw [heq]
              exact .inl (.refl _)
            · refine .inr ⟨delivery, heq, ⟨?_, ?_⟩, ?_⟩
              · rw [hcount, if_pos hqueued]
              · exact iff_of_true hgeneration hqueued
              · rw [hid]
                exact fresh
          exact hqueues
      | tells => exact .inl (.refl _)
      | @starts generation =>
          have hsame : Moved s.deliveries (s.startRun generation).deliveries := by
            rw [startRun_deliveries]
            exact .refl _
          exact .inl hsame
      | takesBack => exact .inl (.refl _)
      | turns => exact .inl (.refl _)
  | executes _ change =>
      cases change with
      | idles => exact .inl (.refl _)
      | locks => exact .inl (.refl _)
      | reads => exact .inl (.refl _)
      | leaves => exact .inl (.refl _)
      | claims => exact .inl (moved_claimDelivery _ _ _)
      | marks => exact .inl (moved_markDeliveryDelivering _ _ _)
      | finalizes => exact .inl (moved_finalizeDelivery _ _)
      | advances => exact .inl (.refl _)

/-- The rows have their own ids, and say of themselves what has become of them. -/
def Rows (s : DeliverySystem) : Prop :=
  UniqueKeys AssociationDelivery.id s.deliveries ∧ ∀ delivery ∈ s.deliveries, Recorded delivery

theorem Rows.step (h : s.Rows) (hstep : Steps collate s input told t) : t.Rows := by
  rcases (change_of_step hstep).moved with hmoved | ⟨delivery, heq, hrecorded, hfresh⟩
  · refine ⟨hmoved.uniqueIds h.1, fun moved hmem => ?_⟩
    rcases hmoved.mem hmem with ⟨delivery, hdelivery, hsame | hmove⟩
    · rw [hsame]
      exact h.2 delivery hdelivery
    · exact (h.2 delivery hdelivery).move hmove
  · unfold Rows
    rw [heq]
    refine ⟨h.1.append hfresh, fun other hmem => ?_⟩
    rcases List.mem_append.mp hmem with hmem | hmem
    · exact h.2 other hmem
    · rw [List.mem_singleton.mp hmem]
      exact hrecorded

theorem Rows.of_run {trace : List (Entry DeliveryInput Nat)}
    (run : Run (Steps collate) start trace t) : t.Rows :=
  run.invariant (P := Rows) ⟨List.nodup_nil, fun _ h => absurd h List.not_mem_nil⟩
    fun _ _ _ _ h hstep => h.step hstep

/-- A delivery is moved along a run, or left as it is. -/
theorem moves_along_run {trace : List (Entry DeliveryInput Nat)}
    (run : Run (Steps collate) s trace t) {delivery : AssociationDelivery}
    (hmem : delivery ∈ s.deliveries) :
    ∃ moved ∈ t.deliveries, Relation.ReflTransGen DeliveryMove delivery moved := by
  induction run with
  | nil => exact ⟨delivery, hmem, .refl⟩
  | snoc run last ih =>
      rcases ih with ⟨moved, hmoved, hchain⟩
      rcases (change_of_step last).moved with hstep | ⟨new, heq, _⟩
      · rcases hstep.exists hmoved with ⟨next, hnext, hsame | hmove⟩
        · rw [hsame] at hnext
          exact ⟨moved, hnext, hchain⟩
        · exact ⟨next, hnext, hchain.tail hmove⟩
      · refine ⟨moved, ?_, hchain⟩
        rw [heq]
        exact List.mem_append_left _ hmoved

end DeliverySystem

/-- What holds of a delivery after moves that keep it. -/
theorem DeliveryMove.chain {delivery moved : AssociationDelivery}
    (h : Relation.ReflTransGen DeliveryMove delivery moved) :
    moved.id = delivery.id ∧ (delivery.status.Final → moved = delivery) ∧
      ∀ generation, delivery.status ≠ .queued → delivery.processorGeneration = some generation →
        moved.status ≠ .queued ∧ moved.processorGeneration = some generation := by
  induction h with
  | refl => exact ⟨rfl, fun _ => rfl, fun _ hqueued hgeneration => ⟨hqueued, hgeneration⟩⟩
  | @tail moved next _ hmove ih =>
      rcases ih with ⟨hid, hfinal, hclaimed⟩
      refine ⟨hmove.id_eq.trans hid, fun h => ?_, fun generation hqueued hgeneration => ?_⟩
      · exact absurd (hfinal h ▸ h) hmove.not_final
      · rcases hclaimed generation hqueued hgeneration with ⟨hqueued, hgeneration⟩
        refine ⟨hmove.not_queued, ?_⟩
        cases hmove with
        | claims _ _ queued => exact absurd queued hqueued
        | delivers => exact hgeneration
        | finishes => exact hgeneration

/-- The generations that handlers are told to start go up. -/
theorem told_increasing {collate : String → String → Ordering}
    {trace : List (Entry DeliveryInput Nat)} {t : DeliverySystem}
    (run : Run (DeliverySystem.Steps collate) DeliverySystem.start trace t) :
    (outputs trace).Pairwise (· < ·) := by
  -- All of them are at most the generation of the row.
  have hinv : (outputs trace).Pairwise (· < ·) ∧ ∀ generation ∈ outputs trace,
      ∃ processor, t.processor = some processor ∧ generation ≤ processor.generation := by
    refine run.history (P := fun trace s => (outputs trace).Pairwise (· < ·) ∧
      ∀ generation ∈ outputs trace, ∃ processor, s.processor = some processor ∧
        generation ≤ processor.generation)
      ⟨List.Pairwise.nil, fun _ h => absurd h List.not_mem_nil⟩ ?_
    rintro trace s input told t _ ⟨hpairwise, hbound⟩ hstep
    rcases (DeliverySystem.change_of_step hstep).generations with ⟨hle, htold⟩
    have hkept : ∀ generation ∈ outputs trace,
        ∃ processor, t.processor = some processor ∧ generation ≤ processor.generation := by
      intro generation hmem
      rcases hbound generation hmem with ⟨processor, hrow, hgeneration⟩
      rcases hle processor hrow with ⟨later, hlater, hlaterLe⟩
      exact ⟨later, hlater, hgeneration.trans hlaterLe⟩
    rw [outputs_append, outputs_singleton]
    rcases htold with htold | ⟨generation, status, htold, hrow, hlater⟩
    · rw [htold, List.append_nil]
      exact ⟨hpairwise, hkept⟩
    · rw [htold]
      refine ⟨List.pairwise_append.mpr ⟨hpairwise, List.pairwise_singleton _ _, ?_⟩, ?_⟩
      · intro earlier hmem new hnew
        rcases hbound earlier hmem with ⟨processor, hbefore, hearlier⟩
        rw [List.mem_singleton.mp hnew]
        exact hearlier.trans_lt (hlater processor hbefore)
      · intro other hmem
        rcases List.mem_append.mp hmem with hmem | hmem
        · exact hkept other hmem
        · rw [List.mem_singleton.mp hmem]
          exact ⟨_, hrow, le_rfl⟩
  exact hinv.1

/-- The run of the first generation is not started; the handler takes the processor back, and
    starts the second. -/
def restartedInputs : List DeliveryInput :=
  [.receives firstEvent] ++ List.replicate 3 (.handles 0 "prd_1" 0 .arrives) ++
    [.handles 0 "prd_1" 0 .fails, .handles 0 "prd_1" 0 .arrives] ++
    List.replicate 3 (.handles 0 "prd_2" 0 .arrives)

theorem told_increasing_restarted :
    ∃ trace t, Run (DeliverySystem.Steps compare) DeliverySystem.start trace t ∧
      outputs trace = [1, 2] ∧ (outputs trace).Pairwise (· < ·) := by
  have hexecutes : executesTo (DeliverySystem.step compare) DeliverySystem.start restartedInputs
      (fun trace _ => decide (outputs trace = [1, 2])) = true := by decide
  rcases exists_run_of_executesTo hexecutes with ⟨trace, t, run, _, hcheck⟩
  exact ⟨trace, t, run, of_decide_eq_true hcheck, told_increasing run⟩

/-- A delivery keeps its row; it is claimed at most once, and by one generation; and what is
    final is not written to again. -/
theorem claimed_once {collate : String → String → Ordering}
    {before after : List (Entry DeliveryInput Nat)} {s t : DeliverySystem}
    (first : Run (DeliverySystem.Steps collate) DeliverySystem.start before s)
    (rest : Run (DeliverySystem.Steps collate) s after t) {delivery : AssociationDelivery}
    (hmem : delivery ∈ s.deliveries) :
    ∃ moved, findRow AssociationDelivery.id delivery.id t.deliveries = some moved ∧
      moved.attemptCount ≤ 1 ∧ (delivery.status.Final → moved = delivery) ∧
      ∀ generation, delivery.processorGeneration = some generation →
        moved.processorGeneration = some generation ∧
          moved.attemptCount = delivery.attemptCount := by
  rcases DeliverySystem.moves_along_run rest hmem with ⟨moved, hmoved, hchain⟩
  have hbefore := (DeliverySystem.Rows.of_run first).2 delivery hmem
  rcases DeliverySystem.Rows.of_run (first.trans rest) with ⟨hids, hrecorded⟩
  have hafter := hrecorded moved hmoved
  rcases DeliveryMove.chain hchain with ⟨hid, hfinal, hclaimed⟩
  refine ⟨moved, (findRow_eq_some_iff hids).mpr ⟨hmoved, hid⟩, ?_, hfinal, ?_⟩
  · rw [hafter.1]
    split <;> omega
  · intro generation hgeneration
    have hqueued : delivery.status ≠ .queued := by
      intro hstatus
      rw [hbefore.2.mpr hstatus] at hgeneration
      exact absurd hgeneration (by simp only [reduceCtorEq, not_false_eq_true])
    rcases hclaimed generation hqueued hgeneration with ⟨hmovedQueued, hmovedGeneration⟩
    refine ⟨hmovedGeneration, ?_⟩
    rw [hafter.1, hbefore.1, if_neg hmovedQueued, if_neg hqueued]

/-- A claimed delivery is delivered and completed. -/
theorem claimed_once_completed :
    ∃ before s after t delivery moved,
      Run (DeliverySystem.Steps compare) DeliverySystem.start before s ∧
      Run (DeliverySystem.Steps compare) s after t ∧ delivery ∈ s.deliveries ∧
      t.deliveries.map AssociationDelivery.status = [.completed] ∧
      findRow AssociationDelivery.id delivery.id t.deliveries = some moved ∧
      moved.processorGeneration = some 1 ∧ moved.attemptCount = delivery.attemptCount := by
  have hexecutes : executeAround (DeliverySystem.step compare) DeliverySystem.start claimInputs
      (.executes 0 0 .arrives .delivered none)
      (List.replicate 2 (.executes 0 0 .arrives .delivered none))
      (fun s _ t => decide (s.deliveries.map AssociationDelivery.processorGeneration = [some 1] ∧
        t.deliveries.map AssociationDelivery.status = [.completed])) = some true := by decide
  rcases exists_runs_of_executeAround hexecutes with ⟨before, s, out, u, after, t, first, hstep,
    hrest, hcheck⟩
  rcases of_decide_eq_true hcheck with ⟨hclaimed, hcompleted⟩
  have hgeneration : some 1 ∈ s.deliveries.map AssociationDelivery.processorGeneration := by
    rw [hclaimed]
    exact List.mem_singleton_self _
  rcases List.mem_map.mp hgeneration with ⟨delivery, hmem, hdelivery⟩
  have hstep : DeliverySystem.Steps compare s _ out u := hstep
  have rest := (Run.single hstep).trans (execute_run _ hrest)
  rcases claimed_once first rest hmem with ⟨moved, hmoved, _, _, hkeeps⟩
  exact ⟨before, s, _, t, delivery, moved, first, rest, hmem, hcompleted, hmoved,
    hkeeps 1 hdelivery⟩

end Mistle
