import Mistle.Schedule.Dispatch
import Mistle.Schedule.DueSchedules

/-!
# The System of Schedules and Workers

Workers dispatch actions, each call a program of statements that others may come
between. Outside of them batches of due schedules are claimed, each in a transaction of
its own, and users write the tables of schedules and targets.

An id that a statement makes for a new row has never been used before.

## Main definitions

* `ScheduleEvent`: A batch, or a write to the tables of schedules and targets.
* `scheduleSystem`: The system.
* `Ensures`: What a transaction that commits leads to.

## Theorems

* `Ensures.bind`, `Ensures.lift`, `Ensures.get`: The rules for transactions.
* `perform_eq`: A statement leaves the state that applying it leads to, or none.
* `batch_keeps`: A batch writes schedules and adds actions that are not dispatched.
-/

namespace Mistle

inductive ScheduleEvent where
  | configure (schedules : List Schedule) (targets : ScheduleTargets)
  | claimBatch (cutoffMinute : Instant) (choice : BatchChoice)

/-- An id that no row and no run has been given yet. -/
def FreshId (id : String) (s : ControlPlane) : Prop :=
  (∀ run ∈ s.triggerRuns, run.id ≠ id) ∧ ∀ run ∈ s.workflowRuns, run.idempotencyKey ≠ id

instance (id : String) (s : ControlPlane) : Decidable (FreshId id s) :=
  inferInstanceAs (Decidable ((∀ run ∈ s.triggerRuns, _) ∧ ∀ run ∈ s.workflowRuns, _))

def ScheduleEvent.apply (library : CronLibrary) (s : ControlPlane) : ScheduleEvent → ControlPlane
  | .configure schedules targets => { s with schedules, targets }
  | .claimBatch cutoffMinute choice =>
    match claimDueScheduleBatch library choice cutoffMinute s with
    | .ok (_, t) => t
    | .error _ => s

abbrev DispatchOutcome := Except DispatchError DispatchScheduledActionResult

def scheduleSystem (library : CronLibrary) :
    System ControlPlane ScheduleEvent DispatchScheduledActionInput DispatchChoice DispatchOutcome
      DispatchOp (Program.Fallible DispatchError DispatchOp.Row) where
  outside event s := some (event.apply library s)
  start input s := some (s, (dispatchScheduledAction input).run)
  perform _ op c s := if FreshId c.freshId s then some (op.perform c s) else none
  again _ _ := none

abbrev SchedulePool :=
  Pool ControlPlane DispatchScheduledActionInput DispatchOutcome DispatchOp
    (Program.Fallible DispatchError DispatchOp.Row)

abbrev ScheduleInput := PoolInput ScheduleEvent DispatchScheduledActionInput DispatchChoice

abbrev ScheduleStepEvent :=
  SystemEvent ScheduleEvent DispatchScheduledActionInput DispatchChoice DispatchOutcome DispatchOp

/-! ### Statements -/

theorem perform_eq (op : DispatchOp) (c : DispatchChoice) (s : ControlPlane) :
    (op.perform c s).1 = (op.apply c s).1 ∨ (op.perform c s).1 = s := by
  unfold DispatchOp.perform
  cases c.answer with
  | arrives => exact .inl rfl
  | fails message => exact .inr rfl
  | lost message => exact .inl rfl

theorem perform_ok {op : DispatchOp} {c : DispatchChoice} {s : ControlPlane} {row : op.Row}
    (h : (op.perform c s).2 = .ok row) :
    (op.perform c s).1 = (op.apply c s).1 ∧ row = (op.apply c s).2 := by
  unfold DispatchOp.perform at h ⊢
  cases hanswer : c.answer with
  | arrives =>
      rw [hanswer] at h
      exact ⟨rfl, (Except.ok.inj h).symm⟩
  | fails message =>
      rw [hanswer] at h
      exact absurd h (by simp only [reduceCtorEq, not_false_eq_true])
  | lost message =>
      rw [hanswer] at h
      exact absurd h (by simp only [reduceCtorEq, not_false_eq_true])

theorem perform_error {op : DispatchOp} {c : DispatchChoice} {s : ControlPlane}
    {e : DispatchError} (h : (op.perform c s).2 = .error e) : ∃ message, e = .other message := by
  unfold DispatchOp.perform at h
  cases hanswer : c.answer with
  | arrives =>
      rw [hanswer] at h
      exact absurd h (by simp only [reduceCtorEq, not_false_eq_true])
  | fails message =>
      rw [hanswer] at h
      exact ⟨message, (Except.error.inj h).symm⟩
  | lost message =>
      rw [hanswer] at h
      exact ⟨message, (Except.error.inj h).symm⟩

/-! ### Transactions -/

/-- Where a transaction commits. -/
def Ensures {α : Type} (m : Transaction α) (s : ControlPlane) (Q : α → ControlPlane → Prop) :
    Prop :=
  ∀ a t, m s = .ok (a, t) → Q a t

section

variable {α β : Type} {Q : α → ControlPlane → Prop}

theorem Ensures.bind {m : Transaction β} {f : β → Transaction α} {s : ControlPlane}
    (h : Ensures m s fun b t => Ensures (f b) t Q) : Ensures (m >>= f) s Q := by
  intro a u hrun
  have hbind : (m >>= f) s = m s >>= fun r => f r.1 r.2 := rfl
  rw [hbind] at hrun
  cases hm : m s with
  | error e =>
      rw [hm] at hrun
      exact absurd hrun (by simp only [Bind.bind, Except.bind, reduceCtorEq, not_false_eq_true])
  | ok r =>
      rw [hm] at hrun
      exact h r.1 r.2 hm a u hrun

theorem Ensures.pure {a : α} {s : ControlPlane} (h : Q a s) :
    Ensures (pure a : Transaction α) s Q := by
  intro b t hrun
  have hpure : (.ok (a, s) : Except String (α × ControlPlane)) = .ok (b, t) := hrun
  rw [Except.ok.injEq, Prod.mk.injEq] at hpure
  rw [← hpure.1, ← hpure.2]
  exact h

/-- An exception of a part without effects is one of the transaction. -/
theorem Ensures.lift {x : Except String α} {s : ControlPlane} (h : ∀ a, x = .ok a → Q a s) :
    Ensures (liftM x : Transaction α) s Q := by
  intro a t hrun
  have hlift : (liftM x : Transaction α) s = x >>= fun a => .ok (a, s) := rfl
  rw [hlift] at hrun
  cases hx : x with
  | error e =>
      rw [hx] at hrun
      exact absurd hrun (by simp only [Bind.bind, Except.bind, reduceCtorEq, not_false_eq_true])
  | ok b =>
      rw [hx] at hrun
      have hok : (.ok (b, s) : Except String (α × ControlPlane)) = .ok (a, t) := hrun
      rw [Except.ok.injEq, Prod.mk.injEq] at hok
      rw [← hok.1, ← hok.2]
      exact h b hx

theorem Ensures.get {Q : ControlPlane → ControlPlane → Prop} {s : ControlPlane} (h : Q s s) :
    Ensures (get : Transaction ControlPlane) s Q :=
  Ensures.pure h

theorem Ensures.imp {Q' : α → ControlPlane → Prop} {m : Transaction α} {s : ControlPlane}
    (h : Ensures m s Q) (himp : ∀ a t, Q a t → Q' a t) : Ensures m s Q' :=
  fun a t hrun => himp a t (h a t hrun)

end

/-! ### Batches -/

/-- What a batch leaves alone, and what it may add. -/
structure BatchKeeps (s t : ControlPlane) : Prop where
  actions : ∃ added, t.scheduledActions = s.scheduledActions ++ added ∧
    ∀ action ∈ added, action.status ≠ .dispatching ∧ action.status ≠ .dispatched ∧
      action.dispatchClaimKey = none ∧ action.targetWorkflowStartedAt = none
  keys : UniqueKeys ScheduledAction.id s.scheduledActions →
    UniqueKeys ScheduledAction.id t.scheduledActions
  targets : t.targets = s.targets
  triggerRuns : t.triggerRuns = s.triggerRuns
  workflowRuns : t.workflowRuns = s.workflowRuns
  handoffs : t.snapshotRefreshHandoffs = s.snapshotRefreshHandoffs

namespace BatchKeeps

theorem refl (s : ControlPlane) : BatchKeeps s s where
  actions := ⟨[], (List.append_nil _).symm, fun _ h => absurd h List.not_mem_nil⟩
  keys h := h
  targets := rfl
  triggerRuns := rfl
  workflowRuns := rfl
  handoffs := rfl

theorem trans {s t u : ControlPlane} (first : BatchKeeps s t) (rest : BatchKeeps t u) :
    BatchKeeps s u where
  actions := by
    rcases first.actions with ⟨a, ha, hfirst⟩
    rcases rest.actions with ⟨b, hb, hrest⟩
    refine ⟨a ++ b, by rw [hb, ha, List.append_assoc], ?_⟩
    intro action hmem
    rcases List.mem_append.mp hmem with hmem | hmem
    · exact hfirst action hmem
    · exact hrest action hmem
  keys h := rest.keys (first.keys h)
  targets := rest.targets.trans first.targets
  triggerRuns := rest.triggerRuns.trans first.triggerRuns
  workflowRuns := rest.workflowRuns.trans first.workflowRuns
  handoffs := rest.handoffs.trans first.handoffs

theorem insert {action : ScheduledAction} {s : ControlPlane}
    (hstatus : action.status ≠ .dispatching ∧ action.status ≠ .dispatched ∧
      action.dispatchClaimKey = none ∧ action.targetWorkflowStartedAt = none) :
    Ensures (insertScheduledAction action) s fun _ t => BatchKeeps s t := by
  intro a t h
  rw [insertScheduledAction] at h
  split at h
  · rw [Except.ok.injEq, Prod.mk.injEq] at h
    rw [← h.2]
    exact refl s
  · rename_i hconflict
    rw [Except.ok.injEq, Prod.mk.injEq] at h
    rw [← h.2]
    refine ⟨⟨[action], rfl, ?_⟩, fun hkeys => hkeys.append ?_, rfl, rfl, rfl, rfl⟩
    · intro other hmem
      rw [List.mem_singleton.mp hmem]
      exact hstatus
    · -- An action with the same id would have been a conflict.
      rw [findRow_eq_none]
      intro existing hmem hid
      exact hconflict ⟨existing, hmem, .inl hid.symm⟩

theorem update {scheduleId : String} {update : Schedule → Schedule} {s : ControlPlane} :
    Ensures (updateSchedule scheduleId update) s fun _ t => BatchKeeps s t := by
  intro a t h
  rw [updateSchedule] at h
  split at h
  · exact absurd h (by simp only [reduceCtorEq, not_false_eq_true])
  · rw [Except.ok.injEq, Prod.mk.injEq] at h
    rw [← h.2]
    exact { refl s with }

end BatchKeeps

section

variable {library : CronLibrary} {choice : BatchChoice}

theorem scheduledActionRow_status {schedule : ClaimedScheduleRow} {scheduledAt : Instant}
    {payload : Json String} {action : ScheduledAction}
    (h : scheduledActionRow library choice schedule scheduledAt payload = .ok action) :
    action.scheduleId = schedule.id ∧ action.organizationId = schedule.organizationId ∧
      action.targetType = schedule.targetType ∧ action.targetPayload = payload ∧
      action.status = .pending ∧ action.dispatchClaimKey = none ∧
      action.targetWorkflowStartedAt = none := by
  rw [scheduledActionRow] at h
  cases hslot : getScheduledLocalSlot library scheduledAt schedule.timezone with
  | error e =>
      rw [hslot] at h
      exact absurd h (by simp only [Bind.bind, Except.bind, reduceCtorEq, not_false_eq_true])
  | ok slot =>
      rw [hslot] at h
      rw [← Except.ok.inj h]
      exact ⟨rfl, rfl, rfl, rfl, rfl, rfl, rfl⟩

/-- A claimed schedule is consumed by adding at most one action and writing the schedule. -/
theorem consumeClaimedSchedule_keeps (schedule : ClaimedScheduleRow) (cutoffMinute : Instant)
    (s : ControlPlane) :
    Ensures (consumeClaimedSchedule library choice schedule cutoffMinute) s
      fun _ t => BatchKeeps s t := by
  rw [consumeClaimedSchedule]
  refine Ensures.bind (Ensures.get ?_)
  split
  · refine Ensures.bind (Ensures.bind (Ensures.lift fun action haction => ?_))
    have hrow := scheduledActionRow_status haction
    refine Ensures.imp (BatchKeeps.insert ?_) fun id t hinsert => ?_
    · exact ⟨by simp only [ne_eq, reduceCtorEq, not_false_eq_true],
        by simp only [ne_eq, reduceCtorEq, not_false_eq_true], hrow.2.2.2.2.2⟩
    refine Ensures.bind (BatchKeeps.update.imp fun _ u hupdate => ?_)
    exact Ensures.pure (hinsert.trans hupdate)
  · split
    · refine Ensures.bind (Ensures.lift fun range _ => ?_)
      refine Ensures.bind (Ensures.bind (Ensures.lift fun action haction => ?_))
      have hrow := scheduledActionRow_status haction
      refine Ensures.imp (BatchKeeps.insert ?_) fun id t hinsert => ?_
      · exact ⟨by simp only [ne_eq, reduceCtorEq, not_false_eq_true],
          by simp only [ne_eq, reduceCtorEq, not_false_eq_true], hrow.2.2.2.2.2⟩
      refine Ensures.bind (BatchKeeps.update.imp fun _ u hupdate => ?_)
      exact Ensures.pure (hinsert.trans hupdate)
    · refine Ensures.bind (Ensures.lift fun range _ => ?_)
      refine Ensures.bind (Ensures.bind (Ensures.lift fun action haction => ?_))
      have hrow := scheduledActionRow_status haction
      refine Ensures.imp (BatchKeeps.insert ?_) fun id t hinsert => ?_
      · rw [hrow.2.2.2.2.1]
        exact ⟨by decide, by decide, hrow.2.2.2.2.2⟩
      refine Ensures.bind (BatchKeeps.update.imp fun _ u hupdate => ?_)
      split
      · exact Ensures.pure (hinsert.trans hupdate)
      · exact Ensures.pure (hinsert.trans hupdate)

theorem consumeClaimedSchedules_keeps (cutoffMinute : Instant)
    (schedules : List ClaimedScheduleRow) : ∀ (result : DispatchDueSchedulesResult)
      (s : ControlPlane), Ensures (consumeClaimedSchedules library choice cutoffMinute schedules
        result) s fun _ t => BatchKeeps s t := by
  induction schedules with
  | nil => exact fun result s => Ensures.pure (BatchKeeps.refl s)
  | cons schedule schedules ih =>
      intro result s
      rw [consumeClaimedSchedules]
      refine Ensures.bind ((consumeClaimedSchedule_keeps schedule cutoffMinute s).imp
        fun created t hfirst => ?_)
      exact (ih (result.count created) t).imp fun _ u hrest => hfirst.trans hrest

theorem batch_keeps (cutoffMinute : Instant) (s : ControlPlane) :
    Ensures (claimDueScheduleBatch library choice cutoffMinute) s fun _ t => BatchKeeps s t := by
  rw [claimDueScheduleBatch]
  refine Ensures.bind (Ensures.get ?_)
  refine Ensures.bind (Ensures.lift fun claimed _ => ?_)
  exact consumeClaimedSchedules_keeps cutoffMinute claimed _ s

end

end Mistle
