import Mistle.Lib.Fallible
import Mistle.Schedule.ActionMachine
import Mistle.Schedule.DispatchLoop
import Mistle.Schedule.Handoff

/-!
# The Last Occurrence of a Schedule

A batch inserts the action of an occurrence and, where it finds no occurrence ahead,
disables the schedule in the same transaction. The worker that dispatches the action
afterwards finds the schedule disabled, and records the action as failed. So what is
scheduled for a trigger is handed off in the runs in which every batch leaves an
occurrence ahead.

## Main definitions

* `CronLibrary.NextRuns`: The library answers with the next occurrence.
* `OccurrenceAhead`: An occurrence that the cursor of a claimed schedule moves to.
* `TriggerSchedule.LeavesOccurrence`: A batch does not end the schedule.
* `TriggerSchedule.Upheld`: What users and batches have to keep.
* `TriggerSchedule.Created`: The start of a schedule.

## Theorems

* `consumeClaimedSchedule_spec`: What consuming a schedule inserts and updates.
* `TriggerSchedule.Inv.claimBatch_keeps`: A batch that leaves an occurrence ahead.
* `TriggerSchedule.handed_off`: Every run whose batches do.
* `last_occurrence_fails`: The last action of a schedule.
-/

namespace Mistle

open Fallible (bind_ok_iff exists_of_forall₂)

/-! ### Occurrences ahead -/

/-- The next run of an expression that is accepted is the first occurrence after an instant. -/
def CronLibrary.NextRuns (library : CronLibrary) (occurrences : Occurrences) : Prop :=
  ∀ cronExpression timezone, createPausedScheduleCron library cronExpression timezone = .ok () →
    ∀ after run, library.nextRun cronExpression timezone after = some run ↔
      IsLeast {other ∈ occurrences cronExpression timezone | after < other} run

/-- Whether a schedule is consumed later than the window. -/
def ClaimedScheduleRow.Late (schedule : ClaimedScheduleRow) (cutoffMinute : Instant) : Prop :=
  CatchUpWindowMs < cutoffMinute - schedule.nextScheduledAt

/-- An occurrence that is not after the end: behind the cutoff, or in the window of a
    schedule that is late. -/
def OccurrenceAhead (occurrences : Occurrences) (schedule : ClaimedScheduleRow)
    (cutoffMinute : Instant) : Prop :=
  ∃ run ∈ Within (occurrences schedule.cronExpression schedule.timezone) schedule.endAt,
    cutoffMinute < run ∨
      (schedule.Late cutoffMinute ∧ cutoffMinute - CatchUpWindowMs ≤ run)

section

variable {library : CronLibrary} {occurrences : Occurrences} {schedule : ClaimedScheduleRow}
  {cutoffMinute : Instant}

theorem nextOccurrenceAfter_isSome (hlibrary : library.NextRuns occurrences) {after : Instant}
    {next : Option Instant} (h : nextOccurrenceAfter library schedule after = .ok next)
    {run : Instant}
    (hrun : run ∈ Within (occurrences schedule.cronExpression schedule.timezone) schedule.endAt)
    (hafter : after < run) : ∃ first, next = some first := by
  rcases bind_ok_iff.mp h with ⟨found, hfound, hnext⟩
  rcases bind_ok_iff.mp hfound with ⟨_, haccepts, hfound⟩
  rcases exists_isLeast_of_mem after (fun other hother => hother.2.le)
    (show run ∈ {other ∈ occurrences schedule.cronExpression schedule.timezone | after < other}
      from ⟨hrun.1, hafter⟩) with ⟨first, hfirst⟩
  have hwithin : withinEnd schedule.endAt first = true :=
    withinEnd_of_le (hfirst.2 ⟨hrun.1, hafter⟩) hrun.2
  rw [(hlibrary _ _ haccepts after first).mpr hfirst] at hfound
  dsimp only at hfound
  rw [if_pos hwithin] at hfound
  rcases bind_ok_iff.mp hfound with ⟨occurrence, _, hsome⟩
  refine ⟨occurrence.scheduledAt, ?_⟩
  rw [← Except.ok.inj hnext, ← Except.ok.inj hsome]
  rfl

/-- An iteration of the loop over what is due that ends it, or leaves it to the next. -/
theorem dueScheduleRange_ok {iterationsLeft : Nat} {latest : Instant}
    {range : Instant × Option Instant}
    (h : dueScheduleRange library schedule cutoffMinute iterationsLeft latest = .ok range) :
    ∃ next, nextOccurrenceAfter library schedule latest = .ok next ∧
      (range.2 = next ∨ ∃ run left, next = some run ∧ run ≤ cutoffMinute ∧
        iterationsLeft = left + 1 ∧
        dueScheduleRange library schedule cutoffMinute left run = .ok range) := by
  cases hnext : nextOccurrenceAfter library schedule latest with
  | error e =>
      delta dueScheduleRange at h
      cases iterationsLeft with
      | zero =>
          change nextOccurrenceAfter library schedule latest >>= _ = _ at h
          rw [hnext] at h
          cases h
      | succ left =>
          change nextOccurrenceAfter library schedule latest >>= _ = _ at h
          rw [hnext] at h
          cases h
  | ok next =>
      refine ⟨next, rfl, ?_⟩
      cases next with
      | none =>
          rw [dueScheduleRange_of_none hnext, Except.ok.injEq] at h
          exact .inl (h ▸ rfl)
      | some run =>
          by_cases hle : run ≤ cutoffMinute
          · cases iterationsLeft with
            | zero =>
                delta dueScheduleRange at h
                change nextOccurrenceAfter library schedule latest >>= _ = _ at h
                rw [hnext] at h
                change (if run ≤ cutoffMinute then _ else _) = _ at h
                rw [if_pos hle] at h
                cases h
            | succ left =>
                rw [dueScheduleRange_of_le hnext hle] at h
                exact .inr ⟨run, left, rfl, hle, rfl, h⟩
          · rw [dueScheduleRange_of_not_le hnext hle, Except.ok.injEq] at h
            exact .inl (h ▸ rfl)

/-- The loop over what is due ends at an occurrence that is not, where there is one. -/
theorem dueScheduleRange_isSome (hlibrary : library.NextRuns occurrences) {run : Instant}
    (hrun : run ∈ Within (occurrences schedule.cronExpression schedule.timezone) schedule.endAt)
    (hafter : cutoffMinute < run) (iterationsLeft : Nat) {latest : Instant}
    (hdue : latest ≤ cutoffMinute) {range : Instant × Option Instant}
    (h : dueScheduleRange library schedule cutoffMinute iterationsLeft latest = .ok range) :
    range.2.isSome = true := by
  induction iterationsLeft generalizing latest with
  | zero =>
      rcases dueScheduleRange_ok h with ⟨next, hnext, hend | ⟨_, _, _, _, hleft, _⟩⟩
      · rcases nextOccurrenceAfter_isSome hlibrary hnext hrun (lt_of_le_of_lt hdue hafter) with
          ⟨first, hfirst⟩
        rw [hend, hfirst]
        rfl
      · exact absurd hleft.symm (Nat.succ_ne_zero _)
  | succ iterationsLeft ih =>
      rcases dueScheduleRange_ok h with ⟨next, hnext, hend | ⟨later, left, _, hle, hleft, hrest⟩⟩
      · rcases nextOccurrenceAfter_isSome hlibrary hnext hrun (lt_of_le_of_lt hdue hafter) with
          ⟨first, hfirst⟩
        rw [hend, hfirst]
        rfl
      · rw [← Nat.succ.inj hleft] at hrest
        exact ih hle hrest

theorem createScheduleOccurrence_scheduledAt {scheduledAt : Instant} {timezone : String}
    {occurrence : ScheduleOccurrence}
    (h : createScheduleOccurrence library scheduledAt timezone = .ok occurrence) :
    occurrence.scheduledAt = scheduledAt := by
  rcases bind_ok_iff.mp h with ⟨slot, _, hoccurrence⟩
  rw [← Except.ok.inj hoccurrence]

theorem findPreviousScheduleOccurrence_lt {cronExpression timezone : String} {before : Instant}
    {endAt : Option Instant} {occurrence : ScheduleOccurrence}
    (h : findPreviousScheduleOccurrence library cronExpression timezone before endAt =
      .ok (some occurrence)) : occurrence.scheduledAt < before := by
  rcases bind_ok_iff.mp h with ⟨_, _, h⟩
  dsimp only at h
  revert h
  generalize hfind : List.find? _ _ = previous
  cases previous with
  | none =>
      intro h
      cases h
  | some run =>
      intro h
      rcases bind_ok_iff.mp h with ⟨found, hfound, hsome⟩
      rw [← Option.some.inj (Except.ok.inj hsome), createScheduleOccurrence_scheduledAt hfound]
      have hrun := List.find?_some hfind
      rw [Bool.and_eq_true, decide_eq_true_eq] at hrun
      exact hrun.1

/-- What is skipped ends before the window. -/
theorem resolveSkippedLateRange_isSome (hlibrary : library.NextRuns occurrences) {run : Instant}
    (hrun : run ∈ Within (occurrences schedule.cronExpression schedule.timezone) schedule.endAt)
    (hlate : schedule.Late cutoffMinute) (hafter : cutoffMinute - CatchUpWindowMs ≤ run)
    {range : Instant × Option Instant}
    (h : resolveSkippedLateRange library schedule cutoffMinute = .ok range) :
    range.2.isSome = true := by
  rcases bind_ok_iff.mp h with ⟨found, hfound, h⟩
  rcases bind_ok_iff.mp h with ⟨next, hnext, h⟩
  have hskipped : (found.map ScheduleOccurrence.scheduledAt).getD schedule.nextScheduledAt <
      cutoffMinute - CatchUpWindowMs := by
    cases found with
    | none =>
        rw [ClaimedScheduleRow.Late] at hlate
        exact lt_sub_comm.mp hlate
    | some occurrence => exact findPreviousScheduleOccurrence_lt hfound
  rcases nextOccurrenceAfter_isSome hlibrary hnext hrun (lt_of_lt_of_le hskipped hafter) with
    ⟨first, hfirst⟩
  rw [← Except.ok.inj h, hfirst]
  rfl

end

/-! ### Consuming a schedule -/

/-- What consuming a schedule inserts and updates: at most one action of the schedule, and
    its row. -/
structure Consumption (library : CronLibrary) (schedule : ClaimedScheduleRow)
    (cutoffMinute : Instant) (s t : ControlPlane) (added : List ScheduledAction)
    (update : Schedule → Schedule) : Prop where
  actions : t.scheduledActions = s.scheduledActions ++ added
  schedules : t.schedules =
    updateRows (fun row => decide (row.id = schedule.id)) update s.schedules
  ids : ∀ row, (update row).id = row.id
  columns : ∀ action ∈ added, action.scheduleId = schedule.id ∧
    action.organizationId = schedule.organizationId ∧ action.targetType = schedule.targetType ∧
    action.targetWorkflowStartedAt = none
  payload : ∀ payload, resolveTargetPayload schedule.id schedule.targetType s = .resolved payload →
    ∀ action ∈ added, action.targetPayload = payload
  resolved : ∀ payload, resolveTargetPayload schedule.id schedule.targetType s = .resolved payload →
    ∃ range, update = Schedule.moveCursor range.2.isSome range.1 range.2 ∧
      ((schedule.Late cutoffMinute ∧ (∀ action ∈ added, action.status = .skippedLate) ∧
        resolveSkippedLateRange library schedule cutoffMinute = .ok range) ∨
      (¬ schedule.Late cutoffMinute ∧ (∀ action ∈ added, action.status = .pending) ∧
        resolveDueScheduleRange library schedule cutoffMinute = .ok range))

section

variable {library : CronLibrary} {choice : BatchChoice} {schedule : ClaimedScheduleRow}
  {cutoffMinute : Instant} {s : ControlPlane}

/-- An insert adds the action or nothing. -/
theorem Ensures.insert (action : ScheduledAction) (s : ControlPlane) :
    Ensures (insertScheduledAction action) s fun _ t =>
      t.schedules = s.schedules ∧ ∃ added, t.scheduledActions = s.scheduledActions ++ added ∧
        ∀ other ∈ added, other = action := by
  intro a t h
  rw [insertScheduledAction] at h
  split at h
  · rw [Except.ok.injEq, Prod.mk.injEq] at h
    rw [← h.2]
    exact ⟨rfl, [], (List.append_nil _).symm, fun _ hmem => absurd hmem List.not_mem_nil⟩
  · rw [Except.ok.injEq, Prod.mk.injEq] at h
    rw [← h.2]
    exact ⟨rfl, [action], rfl, fun _ hmem => List.mem_singleton.mp hmem⟩

theorem Ensures.update (scheduleId : String) (update : Schedule → Schedule) (s : ControlPlane) :
    Ensures (updateSchedule scheduleId update) s fun _ t =>
      t.scheduledActions = s.scheduledActions ∧
      t.schedules = updateRows (fun row => decide (row.id = scheduleId)) update s.schedules := by
  intro a t h
  rw [updateSchedule] at h
  split at h
  · cases h
  · rw [Except.ok.injEq, Prod.mk.injEq] at h
    rw [← h.2]
    exact ⟨rfl, rfl⟩

/-- An action is inserted, and the schedule updated behind it. -/
theorem Consumption.of_rows {u t : ControlPlane} {row : ScheduledAction}
    {update : Schedule → Schedule}
    (hinsert : u.schedules = s.schedules ∧ ∃ added,
      u.scheduledActions = s.scheduledActions ++ added ∧ ∀ other ∈ added, other = row)
    (hupdate : t.scheduledActions = u.scheduledActions ∧
      t.schedules = updateRows (fun other => decide (other.id = schedule.id)) update u.schedules)
    (hids : ∀ other, (update other).id = other.id)
    (hcolumns : row.scheduleId = schedule.id ∧ row.organizationId = schedule.organizationId ∧
      row.targetType = schedule.targetType ∧ row.targetWorkflowStartedAt = none)
    (hpayload : ∀ payload, resolveTargetPayload schedule.id schedule.targetType s =
      .resolved payload → row.targetPayload = payload)
    (hresolved : ∀ payload, resolveTargetPayload schedule.id schedule.targetType s =
      .resolved payload → ∃ range, update = Schedule.moveCursor range.2.isSome range.1 range.2 ∧
        ((schedule.Late cutoffMinute ∧ row.status = .skippedLate ∧
          resolveSkippedLateRange library schedule cutoffMinute = .ok range) ∨
        (¬ schedule.Late cutoffMinute ∧ row.status = .pending ∧
          resolveDueScheduleRange library schedule cutoffMinute = .ok range))) :
    ∃ added update, Consumption library schedule cutoffMinute s t added update := by
  rcases hinsert with ⟨hschedules, added, hadded, hall⟩
  refine ⟨added, update, hupdate.1.trans hadded, hschedules ▸ hupdate.2, hids, ?_, ?_, ?_⟩
  · intro action hmem
    rw [hall action hmem]
    exact hcolumns
  · intro payload hpay action hmem
    rw [hall action hmem]
    exact hpayload payload hpay
  · intro payload hpay
    rcases hresolved payload hpay with ⟨range, hupdated, hcase⟩
    refine ⟨range, hupdated, hcase.imp (fun h => ⟨h.1, ?_, h.2.2⟩) fun h => ⟨h.1, ?_, h.2.2⟩⟩
    · exact fun action hmem => (hall action hmem).symm ▸ h.2.1
    · exact fun action hmem => (hall action hmem).symm ▸ h.2.1

theorem consumeClaimedSchedule_spec :
    Ensures (consumeClaimedSchedule library choice schedule cutoffMinute) s fun _ t =>
      ∃ added update, Consumption library schedule cutoffMinute s t added update := by
  rw [consumeClaimedSchedule]
  refine Ensures.bind (Ensures.get ?_)
  split
  · rename_i payload failureCode failureMessage hunresolved
    have hnot : ∀ payload', resolveTargetPayload schedule.id schedule.targetType s ≠
        .resolved payload' := by
      rw [hunresolved]
      simp only [ne_eq, reduceCtorEq, not_false_eq_true, implies_true]
    refine Ensures.bind (Ensures.bind (Ensures.lift fun action haction => ?_))
    have hrow := scheduledActionRow_status haction
    refine (Ensures.insert _ s).imp fun id u hinsert => ?_
    refine Ensures.bind ((Ensures.update _ _ u).imp fun _ t hupdate => Ensures.pure ?_)
    exact Consumption.of_rows hinsert hupdate (fun _ => rfl) ⟨hrow.1, hrow.2.1, hrow.2.2.1, hrow.2.2.2.2.2.2⟩
      (fun payload' h => absurd h (hnot payload')) fun payload' h => absurd h (hnot payload')
  · rename_i payload hresolved
    have hpayload : ∀ payload', resolveTargetPayload schedule.id schedule.targetType s =
        .resolved payload' → payload = payload' := by
      rw [hresolved]
      exact fun payload' h => TargetPayloadResult.resolved.inj h
    split
    · rename_i hlate
      refine Ensures.bind (Ensures.lift fun range hrange => ?_)
      refine Ensures.bind (Ensures.bind (Ensures.lift fun action haction => ?_))
      have hrow := scheduledActionRow_status haction
      refine (Ensures.insert _ s).imp fun id u hinsert => ?_
      refine Ensures.bind ((Ensures.update _ _ u).imp fun _ t hupdate => Ensures.pure ?_)
      exact Consumption.of_rows hinsert hupdate (fun _ => rfl)
        ⟨hrow.1, hrow.2.1, hrow.2.2.1, hrow.2.2.2.2.2.2⟩
        (fun payload' h => hrow.2.2.2.1.trans (hpayload payload' h))
        fun _ _ => ⟨range, rfl, .inl ⟨hlate, rfl, hrange⟩⟩
    · rename_i hwithin
      refine Ensures.bind (Ensures.lift fun range hrange => ?_)
      refine Ensures.bind (Ensures.bind (Ensures.lift fun action haction => ?_))
      have hrow := scheduledActionRow_status haction
      refine (Ensures.insert _ s).imp fun id u hinsert => ?_
      refine Ensures.bind ((Ensures.update _ _ u).imp fun _ t hupdate => ?_)
      have hconsumed : ∃ added update,
          Consumption library schedule cutoffMinute s t added update :=
        Consumption.of_rows hinsert hupdate (fun _ => rfl)
          ⟨hrow.1, hrow.2.1, hrow.2.2.1, hrow.2.2.2.2.2.2⟩
          (fun payload' h => hrow.2.2.2.1.trans (hpayload payload' h))
          fun _ _ => ⟨range, rfl, .inr ⟨hwithin, hrow.2.2.2.2.1, hrange⟩⟩
      split
      · exact Ensures.pure hconsumed
      · exact Ensures.pure hconsumed

end

namespace TriggerSchedule

/-! ### Batches -/

/-- A batch does not end the schedule: it finds an occurrence ahead, or skips a schedule of
    which no occurrence was ever to be dispatched. -/
def LeavesOccurrence (occurrences : Occurrences) (plan : TriggerSchedule)
    (cutoffMinute : Instant) (s : ControlPlane) : Prop :=
  ∀ row ∈ s.schedules, row.id = plan.scheduleId → DueAt cutoffMinute row →
    ∀ schedule, claimedScheduleRow row = .ok schedule →
      OccurrenceAhead occurrences schedule cutoffMinute ∨
        (schedule.Late cutoffMinute ∧ plan.OnlySkipped s)

/-- A claimed row of the schedule, where the batch consumes it. -/
structure Ready (occurrences : Occurrences) (plan : TriggerSchedule)
    (schedule : ClaimedScheduleRow) (cutoffMinute : Instant) (s : ControlPlane) : Prop where
  organizationId : schedule.organizationId = plan.organizationId
  targetType : schedule.targetType = ScheduleTargetType.triggerRun.text
  due : schedule.nextScheduledAt ≤ cutoffMinute
  enabled : plan.Enabled s
  ahead : OccurrenceAhead occurrences schedule cutoffMinute ∨
    (schedule.Late cutoffMinute ∧ plan.OnlySkipped s)

/-- What consuming another schedule leaves. -/
structure Unaffected (plan : TriggerSchedule) (s t : ControlPlane) : Prop where
  schedules : ∀ row ∈ t.schedules, row.id = plan.scheduleId → row ∈ s.schedules
  actions : ∀ action ∈ t.scheduledActions, action.scheduleId = plan.scheduleId →
    action ∈ s.scheduledActions

section

variable {library : CronLibrary} {occurrences : Occurrences} {plan : TriggerSchedule}
  {schedule : ClaimedScheduleRow} {cutoffMinute : Instant} {s t : ControlPlane}
  {added : List ScheduledAction} {update : Schedule → Schedule}

theorem Ready.unaffected (h : Ready occurrences plan schedule cutoffMinute s)
    (hunaffected : plan.Unaffected s t) : Ready occurrences plan schedule cutoffMinute t :=
  { h with
    enabled := fun row hmem hid => h.enabled row (hunaffected.schedules row hmem hid) hid
    ahead := h.ahead.imp_right fun hlate => ⟨hlate.1, fun action hmem hmine =>
      hlate.2 action (hunaffected.actions action hmem hmine) hmine⟩ }

/-- More actions, and rows of schedules that stay what they are. -/
theorem Inv.addActions (h : plan.Inv s) (hkeeps : BatchKeeps s t)
    (hactions : t.scheduledActions = s.scheduledActions ++ added)
    (hadded : ∀ action ∈ added, action.scheduleId = plan.scheduleId → plan.Sound s action)
    (hkeys : UniqueKeys Schedule.id t.schedules) (hrow : ∃ row ∈ t.schedules, plan.IsRow row)
    (henabled : plan.Enabled t ∨ plan.OnlySkipped t) : plan.Keeps s t := by
  have hruns : s.triggerRuns ⊆ t.triggerRuns := hkeeps.triggerRuns ▸ fun _ hmem => hmem
  have hworkflows : s.workflowRuns ⊆ t.workflowRuns := hkeeps.workflowRuns ▸ fun _ hmem => hmem
  have hthere : ∀ action ∈ s.scheduledActions, action ∈ t.scheduledActions := fun action hmem =>
    hactions ▸ List.mem_append_left added hmem
  have hpresent : plan.Present t := by
    refine ⟨hkeys, hrow, ?_, h.present.named, ?_, ?_⟩
    · rw [hkeeps.targets]
      exact h.present.scheduleTrigger
    · rw [hkeeps.targets]
      exact h.present.trigger
    · rw [hkeeps.targets]
      exact h.present.target
  refine ⟨⟨hpresent, hkeeps.keys h.keys, henabled, ?_, ?_⟩, ?_, hruns, hworkflows⟩
  · intro action hmem hmine
    rw [hactions] at hmem
    rcases List.mem_append.mp hmem with hmem | hmem
    · exact (h.actions action hmem hmine).mono hruns hworkflows
    · exact (hadded action hmem hmine).mono hruns hworkflows
  · intro run hrun id hsource
    rw [hkeeps.triggerRuns] at hrun
    rcases h.runs run hrun id hsource with ⟨action, hmem, haction⟩
    exact ⟨action, hthere action hmem, haction⟩
  · exact fun action hmem => ⟨action, hthere action hmem, rfl, rfl, fun hstatus => hstatus⟩

/-- Another schedule is consumed. -/
theorem Inv.consume_other (h : plan.Inv s) (hkeeps : BatchKeeps s t)
    (hconsumed : Consumption library schedule cutoffMinute s t added update)
    (hother : schedule.id ≠ plan.scheduleId) : plan.Keeps s t ∧ plan.Unaffected s t := by
  have hunaffected : plan.Unaffected s t := by
    constructor
    · intro row hmem hid
      rw [hconsumed.schedules] at hmem
      rcases mem_updateRows.mp hmem with ⟨old, hold, heq⟩
      by_cases hsame : old.id = schedule.id
      · rw [if_pos (decide_eq_true hsame)] at heq
        rw [heq, hconsumed.ids, hsame] at hid
        exact absurd hid hother
      · rw [if_neg fun hdecide => hsame (of_decide_eq_true hdecide)] at heq
        exact heq ▸ hold
    · intro action hmem hmine
      rw [hconsumed.actions] at hmem
      rcases List.mem_append.mp hmem with hmem | hmem
      · exact hmem
      · exact absurd ((hconsumed.columns action hmem).1.symm.trans hmine) hother
  refine ⟨h.addActions hkeeps hconsumed.actions ?_ ?_ ?_ ?_, hunaffected⟩
  · intro action hmem hmine
    exact absurd ((hconsumed.columns action hmem).1.symm.trans hmine) hother
  · rw [hconsumed.schedules]
    exact h.present.keys.updateRows hconsumed.ids
  · rcases h.present.schedule with ⟨row, hmem, hrow⟩
    refine ⟨row, ?_, hrow⟩
    rw [hconsumed.schedules]
    refine mem_updateRows.mpr ⟨row, hmem, ?_⟩
    rw [if_neg fun hdecide => hother ((of_decide_eq_true hdecide).symm.trans hrow.id)]
  · exact h.enabled.imp
      (fun henabled row hmem hid => henabled row (hunaffected.schedules row hmem hid) hid)
      (fun hskipped action hmem hmine =>
        hskipped action (hunaffected.actions action hmem hmine) hmine)

/-- The schedule is moved to an occurrence ahead, unless it has nothing to dispatch. -/
theorem Ready.moved (hlibrary : library.NextRuns occurrences)
    (hready : Ready occurrences plan schedule cutoffMinute s) {range : Instant × Option Instant}
    (hcase : (schedule.Late cutoffMinute ∧ (∀ action ∈ added, action.status = .skippedLate) ∧
        resolveSkippedLateRange library schedule cutoffMinute = .ok range) ∨
      (¬ schedule.Late cutoffMinute ∧ (∀ action ∈ added, action.status = .pending) ∧
        resolveDueScheduleRange library schedule cutoffMinute = .ok range)) :
    range.2.isSome = true ∨
      (plan.OnlySkipped s ∧ ∀ action ∈ added, action.status = .skippedLate) := by
  rcases hready.ahead with ⟨run, hrun, hahead⟩ | ⟨hlate, hskipped⟩
  · left
    rcases hcase with ⟨hlate, _, hrange⟩ | ⟨hwithin, _, hrange⟩
    · refine resolveSkippedLateRange_isSome hlibrary hrun hlate ?_ hrange
      rcases hahead with hafter | ⟨_, hin⟩
      · have hwindow : (0 : Instant) ≤ CatchUpWindowMs := by decide
        linarith
      · exact hin
    · rcases hahead with hafter | ⟨hlate, _⟩
      · exact dueScheduleRange_isSome hlibrary hrun hafter MaxDueRangeIterations hready.due hrange
      · exact absurd hlate hwithin
  · right
    rcases hcase with ⟨_, hadded, _⟩ | ⟨hwithin, _⟩
    · exact ⟨hskipped, hadded⟩
    · exact absurd hlate hwithin

/-- The schedule is consumed, and an occurrence is ahead. -/
theorem Inv.consume_mine (h : plan.Inv s) (hlibrary : library.NextRuns occurrences)
    (hkeeps : BatchKeeps s t)
    (hconsumed : Consumption library schedule cutoffMinute s t added update)
    (hmine : schedule.id = plan.scheduleId)
    (hready : Ready occurrences plan schedule cutoffMinute s) : plan.Keeps s t := by
  have hresolved : resolveTargetPayload schedule.id schedule.targetType s =
      .resolved plan.payload := by
    rcases h.present.scheduleTrigger with ⟨scheduleTrigger, hfind, htrigger⟩
    rw [resolveTargetPayload, if_pos hready.targetType, hmine, hfind, payload, ← htrigger]
  rcases hconsumed.resolved _ hresolved with ⟨range, hupdate, hcase⟩
  have hmoved := hready.moved hlibrary hcase
  have hrows : ∀ row ∈ t.schedules, row.id = plan.scheduleId → row.enabled = range.2.isSome := by
    intro row hmem hid
    rw [hconsumed.schedules, hupdate] at hmem
    rcases mem_updateRows.mp hmem with ⟨old, _, heq⟩
    by_cases hsame : old.id = schedule.id
    · rw [heq, if_pos (decide_eq_true hsame)]
      rfl
    · rw [if_neg fun hdecide => hsame (of_decide_eq_true hdecide)] at heq
      exact absurd ((congrArg Schedule.id heq).symm.trans (hid.trans hmine.symm)) hsame
  refine h.addActions hkeeps hconsumed.actions ?_ ?_ ?_ ?_
  · intro action hmem _
    have hcolumns := hconsumed.columns action hmem
    have hstatus : action.status = .skippedLate ∨ action.status = .pending :=
      hcase.imp (fun hlate => hlate.2.1 action hmem) fun hwithin => hwithin.2.1 action hmem
    refine {
      organizationId := hcolumns.2.1.trans hready.organizationId
      targetType := hcolumns.2.2.1.trans hready.targetType
      targetPayload := hconsumed.payload _ hresolved action hmem
      notFailed := ?_
      dispatched := fun hdispatched => ?_
      started := fun hstarted => ?_ }
    · rcases hstatus with hstatus | hstatus
      · rw [hstatus]
        decide
      · rw [hstatus]
        decide
    · rcases hstatus with hstatus | hstatus
      · rw [hstatus] at hdispatched
        cases hdispatched
      · rw [hstatus] at hdispatched
        cases hdispatched
    · rw [hcolumns.2.2.2] at hstarted
      cases hstarted
  · rw [hconsumed.schedules]
    exact h.present.keys.updateRows hconsumed.ids
  · rcases h.present.schedule with ⟨row, hmem, hrow⟩
    refine ⟨row.moveCursor range.2.isSome range.1 range.2, ?_, { hrow with }⟩
    rw [hconsumed.schedules, hupdate]
    refine mem_updateRows.mpr ⟨row, hmem, ?_⟩
    rw [if_pos (decide_eq_true (hrow.id.trans hmine.symm))]
  · refine hmoved.imp (fun hsome row hmem hid => (hrows row hmem hid).trans hsome) ?_
    rintro ⟨hskipped, hadded⟩ action hmem hmine
    rw [hconsumed.actions] at hmem
    rcases List.mem_append.mp hmem with hmem | hmem
    · exact hskipped action hmem hmine
    · exact hadded action hmem

/-- The rows that a batch has claimed are consumed one after the other. -/
theorem consumeClaimedSchedules_keeps {choice : BatchChoice}
    (hlibrary : library.NextRuns occurrences) (claimed : List ClaimedScheduleRow) :
    ∀ (result : DispatchDueSchedulesResult) (s : ControlPlane), plan.Inv s →
      (claimed.map ClaimedScheduleRow.id).Nodup →
      (∀ schedule ∈ claimed, schedule.id = plan.scheduleId →
        Ready occurrences plan schedule cutoffMinute s) →
      Ensures (consumeClaimedSchedules library choice cutoffMinute claimed result) s
        fun _ t => plan.Keeps s t := by
  induction claimed with
  | nil => exact fun _ s h _ _ => Ensures.pure (.refl h)
  | cons schedule claimed ih =>
      intro result s h hnodup hready
      rw [List.map_cons, List.nodup_cons] at hnodup
      rw [consumeClaimedSchedules]
      refine Ensures.bind fun created t hrun => ?_
      have hkeeps := consumeClaimedSchedule_keeps schedule cutoffMinute s created t hrun
      rcases consumeClaimedSchedule_spec created t hrun with ⟨added, update, hconsumed⟩
      by_cases hmine : schedule.id = plan.scheduleId
      · have hst := h.consume_mine hlibrary hkeeps hconsumed hmine
          (hready schedule List.mem_cons_self hmine)
        refine (ih _ t hst.inv hnodup.2 fun other hother hid => ?_).imp fun _ u htu =>
          hst.trans htu
        -- The schedule is claimed once.
        exact absurd (List.mem_map_of_mem hother) (hid.trans hmine.symm ▸ hnodup.1)
      · rcases h.consume_other hkeeps hconsumed hmine with ⟨hst, hunaffected⟩
        refine (ih _ t hst.inv hnodup.2 fun other hother hid => ?_).imp fun _ u htu =>
          hst.trans htu
        exact (hready other (List.mem_cons_of_mem _ hother) hid).unaffected hunaffected

theorem claimedScheduleRow_organizationId {row : Schedule}
    (h : claimedScheduleRow row = .ok schedule) : schedule.organizationId = row.organizationId := by
  rw [claimedScheduleRow] at h
  split at h
  · cases h
  · cases h
  · cases h
  · rw [← Except.ok.inj h]

/-- A row of the schedule that a batch claims is ready. -/
theorem Inv.ready (h : plan.Inv s) (hleaves : plan.LeavesOccurrence occurrences cutoffMinute s)
    {row : Schedule} (hmem : row ∈ s.schedules) (hdue : DueAt cutoffMinute row)
    (hclaimed : claimedScheduleRow row = .ok schedule) (hmine : schedule.id = plan.scheduleId) :
    Ready occurrences plan schedule cutoffMinute s := by
  rcases claimedScheduleRow_spec hclaimed with ⟨hid, htype, _, hnext, _, _⟩
  rcases h.present.schedule with ⟨mine, hmineMem, hrow⟩
  have honly : ∀ other ∈ s.schedules, other.id = plan.scheduleId → other = row :=
    fun other hother heq => List.inj_on_of_nodup_map h.present.keys hother hmem
      (heq.trans (hmine.symm.trans hid))
  rw [honly mine hmineMem hrow.id] at hrow
  refine {
    organizationId := (claimedScheduleRow_organizationId hclaimed).trans hrow.organizationId
    targetType := htype.trans hrow.targetType
    due := ?_
    enabled := fun other hother heq => honly other hother heq ▸ hdue.1
    ahead := hleaves row hmem (hid.symm.trans hmine) hdue schedule hclaimed }
  rcases hdue.2.2.2 with ⟨next, hsome, hle⟩
  rw [hnext] at hsome
  rw [Option.some.inj hsome]
  exact hle

/-- A batch that leaves an occurrence of the schedule ahead. -/
theorem Inv.claimBatch_keeps {choice : BatchChoice} (h : plan.Inv s)
    (hlibrary : library.NextRuns occurrences)
    (hleaves : plan.LeavesOccurrence occurrences cutoffMinute s) :
    Ensures (claimDueScheduleBatch library choice cutoffMinute) s fun _ t => plan.Keeps s t := by
  rw [claimDueScheduleBatch]
  refine Ensures.bind (Ensures.get (Ensures.bind (Ensures.lift fun claimed hclaimed => ?_)))
  have hall : List.Forall₂ (fun row schedule => claimedScheduleRow row = .ok schedule)
      (dueRows choice cutoffMinute s.schedules) claimed := forall₂_of_mapM hclaimed
  have hids : claimed.map ClaimedScheduleRow.id =
      (dueRows choice cutoffMinute s.schedules).map Schedule.id := by
    rw [← List.forall₂_eq_eq_eq, List.forall₂_map_left_iff, List.forall₂_map_right_iff]
    exact (hall.imp fun _ _ hok => (claimedScheduleRow_spec hok).1).flip
  refine consumeClaimedSchedules_keeps hlibrary claimed _ s h ?_ fun schedule hmem hmine => ?_
  · rw [hids]
    exact dueRows_nodup h.present.keys choice cutoffMinute
  · rcases exists_of_forall₂ hall.flip hmem with ⟨row, hrow, hok⟩
    rcases mem_of_mem_dueRows hrow with ⟨hin, hdue⟩
    exact h.ready hleaves hin hdue hok hmine

end

/-! ### Runs -/

/-- What users and batches keep: the schedule is not deleted, its trigger and target stay, no
    user disables it, and no batch ends it. -/
def Upheld (occurrences : Occurrences) (plan : TriggerSchedule) (s : ControlPlane) :
    ScheduleStepEvent → Prop
  | .outside (.configure schedules targets) =>
    plan.Present { s with schedules, targets } ∧
      (plan.Enabled s → plan.Enabled { s with schedules, targets })
  | .outside (.claimBatch cutoffMinute _) => plan.LeavesOccurrence occurrences cutoffMinute s
  | _ => True

/-- A schedule that was created, enabled, and of which nothing was scheduled yet. -/
structure Created (plan : TriggerSchedule) (s : ControlPlane) : Prop where
  present : plan.Present s
  enabled : plan.Enabled s
  keys : UniqueKeys ScheduledAction.id s.scheduledActions
  unscheduled : ∀ action ∈ s.scheduledActions, action.scheduleId ≠ plan.scheduleId
  sources : ∀ run ∈ s.triggerRuns, ∀ actionId, run.sourceScheduledActionId = some actionId →
    ∃ action ∈ s.scheduledActions, action.id = actionId

/-- No action of the schedule has failed, and what was dispatched was handed off. -/
def Obeyed (plan : TriggerSchedule) (s : ControlPlane) : Prop :=
  ∀ action ∈ s.scheduledActions, action.scheduleId = plan.scheduleId →
    action.status ≠ .failed ∧ (action.status = .dispatched → plan.HandedOff action.id s)

section

variable {library : CronLibrary} {occurrences : Occurrences} {plan : TriggerSchedule}
  {s : ControlPlane}

theorem Created.inv (h : plan.Created s) : plan.Inv s where
  present := h.present
  keys := h.keys
  enabled := .inl h.enabled
  actions action hmem hmine := absurd hmine (h.unscheduled action hmem)
  runs run hrun actionId hsource := by
    rcases h.sources run hrun actionId hsource with ⟨action, hmem, hid⟩
    exact ⟨action, hmem, hid, fun hmine => absurd hmine (h.unscheduled action hmem)⟩

theorem Inv.obeyed (h : plan.Inv s) : plan.Obeyed s := fun action hmem hmine =>
  ⟨(h.actions action hmem hmine).notFailed, (h.actions action hmem hmine).dispatched⟩

/-- What users write. -/
theorem Inv.configure (h : plan.Inv s) {schedules : List Schedule} {targets : ScheduleTargets}
    (hpresent : plan.Present { s with schedules, targets })
    (henabled : plan.Enabled s → plan.Enabled { s with schedules, targets }) :
    plan.Keeps s { s with schedules, targets } where
  inv := {
    present := hpresent
    keys := h.keys
    enabled := h.enabled.imp_left henabled
    actions := fun action hmem hmine => { h.actions action hmem hmine with }
    runs := h.runs }
  actions action hmem := ⟨action, hmem, rfl, rfl, fun hstatus => hstatus⟩
  triggerRuns := fun _ hmem => hmem
  workflowRuns := fun _ hmem => hmem

theorem schedule_upholds (hlibrary : library.NextRuns occurrences) (plan : TriggerSchedule) :
    (scheduleSystem library).Upholds (Upheld occurrences plan) plan.Inv plan.Keeps
      plan.Answers where
  refl := fun _ h => .refl h
  trans := fun _ _ _ hst htu => hst.trans htu
  keeps := fun _ _ h => h.inv
  outside := by
    intro event s t hinv hstep hupheld
    rw [← Option.some.inj hstep]
    cases event with
    | configure schedules targets => exact hinv.configure hupheld.1 hupheld.2
    | claimBatch cutoffMinute choice =>
        simp only [ScheduleEvent.apply]
        cases hbatch : claimDueScheduleBatch library choice cutoffMinute s with
        | error e => exact .refl hinv
        | ok r => exact hinv.claimBatch_keeps hlibrary hupheld r.1 r.2 hbatch
  start := by
    intro input s t p hinv hstep _
    rw [← (Prod.mk.inj (Option.some.inj hstep)).1, ← (Prod.mk.inj (Option.some.inj hstep)).2]
    refine ⟨.refl hinv, dispatch_holds ?_ input s⟩
    rintro op a r b ⟨c, hperform, _⟩
    simp only [scheduleSystem] at hperform
    split at hperform
    · exact ⟨c, Option.some.inj hperform⟩
    · cases hperform
  again := fun _ _ _ _ _ _ h => absurd h (by simp only [scheduleSystem, reduceCtorEq,
    not_false_eq_true])

end

/-- In every run in which no batch ends the schedule, none of its actions fails, what was
    dispatched was handed off, and a worker answers no other than that. -/
theorem handed_off (library : CronLibrary) (occurrences : Occurrences)
    (hlibrary : library.NextRuns occurrences) (plan : TriggerSchedule) (s : ControlPlane)
    (hcreated : plan.Created s) (trace : List (Entry ScheduleInput ScheduleStepEvent))
    (pool : SchedulePool) (run : (scheduleSystem library).Runs ⟨s, []⟩ trace pool)
    (hupheld : EveryScheduleStep library ⟨s, []⟩ trace fun pool _ out =>
      ∀ event ∈ out, Upheld occurrences plan pool.shared event) :
    plan.Obeyed pool.shared ∧ EveryScheduleStep library ⟨s, []⟩ trace fun pool _ out =>
      ∀ input outcome, .returned input outcome ∈ out →
        plan.Answers input outcome pool.shared := by
  have hpool : System.Pool.Holds (scheduleSystem library) (Upheld occurrences plan) plan.Keeps
      plan.Answers ⟨s, []⟩ := fun call hcall => absurd hcall List.not_mem_nil
  have hupholds := schedule_upholds hlibrary plan
  exact ⟨(hupholds.run run hupheld hcreated.inv hpool).1.inv.obeyed,
    hupholds.returned run hupheld hcreated.inv hpool⟩

end TriggerSchedule

/-! ### The last day of a schedule -/

/-- The schedule of every day at nine, before its first action. -/
def dailyUnscheduled : ControlPlane := { dailyControlPlane with scheduledActions := [] }

def dailyPlan : TriggerSchedule := ⟨"sch_1", "org_1", "trg_1"⟩

/-- The schedule ends with its next occurrence. -/
def lastDay : ControlPlane :=
  { dailyUnscheduled with
    schedules := dailyUnscheduled.schedules.map fun row =>
      { row with endAt := some 1777453200000 } }

/-- The batch of a minute, in which the schedule gets an action. -/
def nineBatch : ScheduleEvent :=
  .claimBatch 1777453200000 {
    locked := fun _ => false
    now := 1777453200000
    newId := fun _ => "sca_2"
    idLe := fun _ _ => true }

/-- The batch, and a worker that dispatches the action. -/
def lastDayInputs : List ScheduleInput :=
  [.outside nineBatch, .start ⟨"sca_2", "schedule-dispatch-batch:a", 1777452300000⟩,
    .advance 0 { now := 1777453260000 }, .advance 0 { now := 1777453260000 },
    .advance 0 { now := 1777453260000 }, .finish 0]

theorem nineEveryDay_nextRuns : nineEveryDay.NextRuns fun _ _ => nineOClocks :=
  fun _ _ _ => nineEveryDay_neighbours.next

theorem dailyPlan_created {s : ControlPlane} {row : Schedule} (hschedules : s.schedules = [row])
    (hrow : dailyPlan.IsRow row) (henabled : row.enabled = true)
    (htargets : s.targets = dailyControlPlane.targets) (hactions : s.scheduledActions = [])
    (hruns : s.triggerRuns = []) : dailyPlan.Created s where
  present := {
    keys := by
      rw [hschedules]
      exact List.nodup_singleton _
    schedule := ⟨row, by rw [hschedules]; exact List.mem_singleton.mpr rfl, hrow⟩
    scheduleTrigger := ⟨_, by rw [htargets]; rfl, rfl⟩
    named := by decide
    trigger := ⟨_, by rw [htargets]; rfl, rfl, rfl⟩
    target := ⟨_, by rw [htargets]; rfl⟩ }
  enabled other hmem _ := by
    rw [hschedules] at hmem
    rw [List.mem_singleton.mp hmem]
    exact henabled
  keys := by
    rw [hactions]
    exact List.nodup_nil
  unscheduled action hmem := by
    rw [hactions] at hmem
    exact absurd hmem List.not_mem_nil
  sources run hrun := by
    rw [hruns] at hrun
    exact absurd hrun List.not_mem_nil

/-- No user writes anything, and the action of the last occurrence fails. -/
theorem last_occurrence_fails :
    dailyPlan.Created lastDay ∧ ∃ trace pool,
      (scheduleSystem nineEveryDay).Runs ⟨lastDay, []⟩ trace pool ∧
      trace.map Entry.input = lastDayInputs ∧
      (∃ action ∈ pool.shared.action? "sca_2", action.scheduleId = "sch_1" ∧
        action.status = .failed ∧ action.failureCode = some "schedule_disabled") ∧
      ¬ dailyPlan.Obeyed pool.shared := by
  refine ⟨dailyPlan_created rfl ⟨rfl, rfl, rfl, rfl⟩ rfl rfl rfl rfl, ?_⟩
  have h : executesTo (scheduleSystem nineEveryDay).step ⟨lastDay, []⟩ lastDayInputs
      (fun _ pool => decide (∃ action ∈ pool.shared.action? "sca_2",
        action.scheduleId = "sch_1" ∧ action.status = .failed ∧
          action.failureCode = some "schedule_disabled")) = true := by
    decide +kernel
  rcases exists_run_of_executesTo h with ⟨trace, pool, run, hinputs, hfails⟩
  have hfailed := of_decide_eq_true hfails
  refine ⟨trace, pool, run, hinputs, hfailed, fun hobeyed => ?_⟩
  rcases hfailed with ⟨action, haction, hmine, hstatus, _⟩
  exact (hobeyed action (findRow_mem haction) hmine).1 hstatus

/-- The batch, and a worker that hands the action off. -/
def nineInputs : List ScheduleInput :=
  [.outside nineBatch, .start ⟨"sca_2", "schedule-dispatch-batch:a", 1777452300000⟩,
    .advance 0 { now := 1777453260000 }, .advance 0 { now := 1777453260000 },
    .advance 0 { now := 1777453260000 }, .advance 0 { now := 1777453260000 },
    .advance 0 { now := 1777453260000 },
    .advance 0 { now := 1777453260000, freshId := "trn_1" },
    .advance 0 { now := 1777453260000, freshId := "wfr_1" },
    .advance 0 { now := 1777453260000 }, .finish 0]

/-- No user writes, and the schedules that a batch finds have no end. -/
def endless (pool : SchedulePool) : ScheduleInput → Bool
  | .outside (.claimBatch _ _) => decide (∀ row ∈ pool.shared.schedules, row.endAt = none)
  | .outside (.configure _ _) => false
  | _ => true

theorem upheld_of_endless {pool pool' : SchedulePool} {input : ScheduleInput}
    {out : List ScheduleStepEvent} (h : endless pool input = true)
    (hstep : (scheduleSystem nineEveryDay).step pool input = some (pool', out)) :
    ∀ event ∈ out, dailyPlan.Upheld (fun _ _ => nineOClocks) pool.shared event := by
  intro event hevent
  cases input with
  | outside e =>
      rcases System.step_outside hstep with ⟨t, _, _, hout⟩
      rw [hout] at hevent
      rw [List.mem_singleton.mp hevent]
      cases e with
      | configure schedules targets => exact absurd h Bool.false_ne_true
      | claimBatch cutoffMinute choice =>
          intro row hmem _ _ schedule hclaimed
          have hend : schedule.endAt = none :=
            (claimedScheduleRow_spec hclaimed).2.2.1.trans (of_decide_eq_true h row hmem)
          left
          -- Nine o'clock comes again, and there is no end.
          refine ⟨nineOClock ((cutoffMinute - 9 * HourMs) / DayMs + 1), ⟨⟨_, rfl⟩, ?_⟩,
            .inl (lt_nineOClock_iff.mpr le_rfl)⟩
          rw [hend]
          rfl
  | start i =>
      rcases System.step_start hstep with ⟨_, _, _, _, hout⟩
      rw [hout] at hevent
      rw [List.mem_singleton.mp hevent]
      trivial
  | advance n c =>
      rcases System.step_advance hstep with ⟨_, _, _, _, _, _, _, _, hout⟩
      rw [hout] at hevent
      rw [List.mem_singleton.mp hevent]
      trivial
  | finish n =>
      rcases System.step_finish hstep with ⟨_, _, _, _, hout⟩
      rw [hout] at hevent
      rw [List.mem_singleton.mp hevent]
      trivial

/-- A day of a schedule that has another before it. -/
theorem handed_off_of_day :
    ∃ trace pool, (scheduleSystem nineEveryDay).Runs ⟨dailyUnscheduled, []⟩ trace pool ∧
      trace.map Entry.input = nineInputs ∧
      (∃ action ∈ pool.shared.action? "sca_2", action.status = .dispatched) ∧
      dailyPlan.Obeyed pool.shared := by
  have h : executesTo (scheduleSystem nineEveryDay).step ⟨dailyUnscheduled, []⟩ nineInputs
      (fun _ pool => decide (∃ action ∈ pool.shared.action? "sca_2",
        action.status = .dispatched)) = true := by
    decide +kernel
  have hpass : stepsPass (scheduleSystem nineEveryDay).step endless ⟨dailyUnscheduled, []⟩
      nineInputs = true := by
    decide +kernel
  rcases exists_run_of_stepsPass h hpass with ⟨trace, pool, run, hinputs, hdispatched, hpasses⟩
  refine ⟨trace, pool, run, hinputs, of_decide_eq_true hdispatched, ?_⟩
  have hcreated : dailyPlan.Created dailyUnscheduled :=
    dailyPlan_created rfl ⟨rfl, rfl, rfl, rfl⟩ rfl rfl rfl rfl
  refine (TriggerSchedule.handed_off nineEveryDay (fun _ _ => nineOClocks) nineEveryDay_nextRuns
    dailyPlan dailyUnscheduled hcreated trace pool run ?_).1
  intro before input out after earlier htrace hbefore
  have hpassed := hpasses before input out after earlier htrace hbefore
  rw [htrace] at run
  rcases Run.step_at (functional_of_step _) run hbefore with ⟨later, hstep⟩
  exact upheld_of_endless hpassed hstep

end Mistle
