import Mathlib.Algebra.BigOperators.Group.List.Basic
import Mathlib.Data.List.Perm.Subperm
import Mistle.Schedule.Cursor

/-!
# The Loop over Batches

A dispatch claims batch after batch until one is empty. Each schedule that is claimed has
its cursor moved: a schedule that is late to the start of the window, so that it is due
once more, and any other behind the cutoff, so that it is not. So a dispatch claims no
schedule more than twice.

Between two batches others write schedules. They may move a cursor on, and they may not
make a schedule due that was not.

## Main definitions

* `dispatchDueSchedules`: The loop, with what others do before each batch.
* `Schedule.Sound`, `SoundSchedules`: The cursors are at occurrences.
* `claimsLeft`: How often a schedule can be claimed.
* `DispatchRun`: The batches of a dispatch, with the schedules that each claims.
* `CursorLaw`: What a dispatch does to the cursors.

## Theorems

* `claimDueScheduleBatch_spec`: A batch commits, and takes a claim from what it claims.
* `claims_le`: A run claims no schedule more often than can be.
* `dispatchBatches_run`: The loop ends, and is a run.
* `cursorLaw`: What a dispatch does to the cursors, where these are at occurrences.
-/

namespace Mistle

/-- The occurrences of an expression in a timezone. -/
abbrev Occurrences := String → String → Set Instant

def DispatchDueSchedulesResult.add (result batch : DispatchDueSchedulesResult) :
    DispatchDueSchedulesResult where
  pendingScheduledActionIds := result.pendingScheduledActionIds ++ batch.pendingScheduledActionIds
  claimedScheduleCount := result.claimedScheduleCount + batch.claimedScheduleCount
  backlogFastForwardedCount := result.backlogFastForwardedCount + batch.backlogFastForwardedCount
  createdScheduledActionCount :=
    result.createdScheduledActionCount + batch.createdScheduledActionCount
  duplicateScheduledActionCount :=
    result.duplicateScheduledActionCount + batch.duplicateScheduledActionCount
  failedScheduledActionCount := result.failedScheduledActionCount + batch.failedScheduledActionCount
  skippedLateCount := result.skippedLateCount + batch.skippedLateCount
  reachedMaxBatches := result.reachedMaxBatches

/-- The loop with the batches that are left, the choices of each batch and what others do
before it. An exception leaves what the batches before it have committed. -/
def dispatchBatches (library : CronLibrary) (choices : Nat → BatchChoice)
    (others : Nat → ControlPlane → ControlPlane) (cutoffMinute : Instant) :
    Nat → Nat → DispatchDueSchedulesResult → ControlPlane →
      Except String DispatchDueSchedulesResult × ControlPlane
  | 0, _, result, s => (.ok { result with reachedMaxBatches := true }, s)
  | batchesLeft + 1, batchCount, result, s =>
    let s := others batchCount s
    match claimDueScheduleBatch library (choices batchCount) cutoffMinute s with
    | .error e => (.error e, s)
    | .ok (batch, t) =>
      if batch.claimedScheduleCount = 0 then (.ok result, t)
      else dispatchBatches library choices others cutoffMinute batchesLeft (batchCount + 1)
        (result.add batch) t

def dispatchDueSchedules (library : CronLibrary) (choices : Nat → BatchChoice)
    (others : Nat → ControlPlane → ControlPlane) (cutoffMinute : Instant) (s : ControlPlane) :
    Except String DispatchDueSchedulesResult × ControlPlane :=
  dispatchBatches library choices others cutoffMinute MaxBatchesPerDispatch 0 {} s

/-! ### Cursors at occurrences -/

/-- The cursor of a recurring schedule is at one of its occurrences, not after its end. -/
def Schedule.Sound (library : CronLibrary) (occurrences : Occurrences) (row : Schedule) : Prop :=
  row.kind = .recurring → ∀ next, row.nextScheduledAt = some next →
    ∃ cronExpression timezone, row.cronExpression = some cronExpression ∧
      row.timezone = some timezone ∧
      library.Neighbours cronExpression timezone (occurrences cronExpression timezone) ∧
      next ∈ Within (occurrences cronExpression timezone) row.endAt

structure SoundSchedules (library : CronLibrary) (occurrences : Occurrences) (s : ControlPlane) :
    Prop where
  keys : UniqueKeys Schedule.id s.schedules
  sound : ∀ row ∈ s.schedules, row.Sound library occurrences

/-- How often a schedule can be claimed: twice from before the window, once from within. -/
def claimsLeft (cutoffMinute : Instant) (row : Schedule) : Nat :=
  if DueAt cutoffMinute row then
    if ∃ next ∈ row.nextScheduledAt, next < cutoffMinute - CatchUpWindowMs then 2 else 1
  else 0

theorem claimsLeft_le (cutoffMinute : Instant) (row : Schedule) :
    claimsLeft cutoffMinute row ≤ 2 := by
  rw [claimsLeft]
  split
  · split
    · exact le_rfl
    · exact one_le_two
  · exact zero_le_two

theorem claimsLeft_pos {cutoffMinute : Instant} {row : Schedule} :
    0 < claimsLeft cutoffMinute row ↔ DueAt cutoffMinute row := by
  rw [claimsLeft]
  split
  · rename_i hdue
    refine iff_of_true ?_ hdue
    split
    · exact zero_lt_two
    · exact zero_lt_one
  · rename_i hdue
    exact iff_of_false (lt_irrefl 0) hdue

/-- A schedule whose cursor is at an instant, or that has none. -/
theorem claimsLeft_of_next {cutoffMinute : Instant} {row : Schedule} {next : Instant}
    (hnext : row.nextScheduledAt = some next) :
    (cutoffMinute < next → claimsLeft cutoffMinute row = 0) ∧
    (cutoffMinute - CatchUpWindowMs ≤ next → claimsLeft cutoffMinute row ≤ 1) ∧
    (DueAt cutoffMinute row → next < cutoffMinute - CatchUpWindowMs →
      claimsLeft cutoffMinute row = 2) := by
  refine ⟨fun hlater => ?_, fun hin => ?_, fun hdue hlate => ?_⟩
  · refine if_neg fun hdue => ?_
    rcases hdue.2.2.2 with ⟨other, hother, hle⟩
    rw [hnext] at hother
    rw [← Option.some.inj hother] at hle
    exact absurd hlater (not_lt.mpr hle)
  · rw [claimsLeft]
    split
    · rw [if_neg]
      rintro ⟨other, hother, hlt⟩
      rw [hnext] at hother
      rw [← Option.some.inj hother] at hlt
      exact absurd hin (not_le.mpr hlt)
    · exact zero_le_one
  · rw [claimsLeft, if_pos hdue, if_pos ⟨next, hnext, hlate⟩]

theorem claimsLeft_of_none {cutoffMinute : Instant} {row : Schedule}
    (hnext : row.nextScheduledAt = none) : claimsLeft cutoffMinute row = 0 := by
  refine if_neg fun hdue => ?_
  rcases hdue.2.2.2 with ⟨other, hother, _⟩
  rw [hnext] at hother
  exact absurd hother (Option.not_mem_none other)

/-! ### A row that is claimed -/

theorem claimedScheduleRow_spec {row : Schedule} {schedule : ClaimedScheduleRow}
    (h : claimedScheduleRow row = .ok schedule) :
    schedule.id = row.id ∧ schedule.targetType = row.targetType ∧ schedule.endAt = row.endAt ∧
      row.nextScheduledAt = some schedule.nextScheduledAt ∧
      row.cronExpression = some schedule.cronExpression ∧
      row.timezone = some schedule.timezone := by
  rw [claimedScheduleRow] at h
  split at h
  · cases h
  · cases h
  · cases h
  · rename_i hnext hcron htimezone
    rw [← Except.ok.inj h]
    exact ⟨rfl, rfl, rfl, hnext, hcron, htimezone⟩

/-- A due schedule that is sound can be claimed, with its cursor at an occurrence. -/
theorem claimedScheduleRow_of_sound {library : CronLibrary} {occurrences : Occurrences}
    {cutoffMinute : Instant} {row : Schedule} (hsound : row.Sound library occurrences)
    (hdue : DueAt cutoffMinute row) :
    ∃ schedule, claimedScheduleRow row = .ok schedule ∧
      library.Neighbours schedule.cronExpression schedule.timezone
        (occurrences schedule.cronExpression schedule.timezone) ∧
      schedule.nextScheduledAt ∈
        Within (occurrences schedule.cronExpression schedule.timezone) schedule.endAt ∧
      schedule.nextScheduledAt ≤ cutoffMinute := by
  rcases hdue.2.2.2 with ⟨next, hnext, hle⟩
  rcases hsound hdue.2.1 next hnext with ⟨cronExpression, timezone, hcron, htimezone, hlib, hmem⟩
  have hclaimed : claimedScheduleRow row = .ok ⟨row.id, row.organizationId, row.targetType,
      cronExpression, timezone, next, row.endAt⟩ := by
    rw [claimedScheduleRow, hnext, hcron, htimezone]
  exact ⟨_, hclaimed, hlib, hmem, hle⟩

/-! ### Consuming a row -/

/-- What consuming a row does to the schedules: the row is moved, and can be claimed less often. -/
structure RowConsumed (library : CronLibrary) (occurrences : Occurrences) (cutoffMinute : Instant)
    (row : Schedule) (s t : ControlPlane) : Prop where
  moved : ∃ update : Schedule → Schedule, (∀ other, (update other).id = other.id) ∧
    (update row).Sound library occurrences ∧
    claimsLeft cutoffMinute (update row) < claimsLeft cutoffMinute row ∧
    t.schedules = updateRows (fun other => decide (other.id = row.id)) update s.schedules

section

variable {library : CronLibrary} {occurrences : Occurrences} {cutoffMinute : Instant}

/-- A cursor that is at an occurrence again is sound. -/
theorem Schedule.Sound.moveCursor {row : Schedule} {cronExpression timezone : String}
    {instants : Set Instant} {next : Option Instant} (enabled : Bool) (lastScheduledAt : Instant)
    (hcron : row.cronExpression = some cronExpression) (htimezone : row.timezone = some timezone)
    (hlib : library.Neighbours cronExpression timezone (occurrences cronExpression timezone))
    (hinstants : instants ⊆ occurrences cronExpression timezone)
    (hnext : CursorAt row.endAt instants next) :
    (row.moveCursor enabled lastScheduledAt next).Sound library occurrences := by
  intro _ run hrun
  have hat := (hnext run).mp hrun
  exact ⟨cronExpression, timezone, hcron, htimezone, hlib, hinstants hat.1.1, hat.2⟩

/-- A schedule whose cursor is moved can be claimed less often. -/
theorem RowConsumed.of_moved {row : Schedule} {schedule : ClaimedScheduleRow} {s t : ControlPlane}
    (hrow : claimedScheduleRow row = .ok schedule) (hdue : DueAt cutoffMinute row)
    (hlib : library.Neighbours schedule.cronExpression schedule.timezone
      (occurrences schedule.cronExpression schedule.timezone))
    (h : CursorMoved (occurrences schedule.cronExpression schedule.timezone) schedule cutoffMinute
      s t) :
    RowConsumed library occurrences cutoffMinute row s t := by
  rcases claimedScheduleRow_spec hrow with ⟨hid, _, hend, hnext, hcron, htimezone⟩
  by_cases hwithin : cutoffMinute - schedule.nextScheduledAt ≤ CatchUpWindowMs
  · rcases h.due hwithin with ⟨latest, next, hrange, hschedules⟩
    have hcursor := hrange.next
    rw [hend] at hcursor
    rw [hid] at hschedules
    have hsound : (row.moveCursor next.isSome latest next).Sound library occurrences :=
      .moveCursor _ _ hcron htimezone hlib (fun _ hrun => hrun.1) hcursor
    refine ⟨Schedule.moveCursor next.isSome latest next, fun _ => rfl, hsound, ?_, hschedules⟩
    refine lt_of_le_of_lt (le_of_eq ?_) (claimsLeft_pos.mpr hdue)
    cases next with
    | none => exact claimsLeft_of_none rfl
    | some run => exact (claimsLeft_of_next rfl).1 ((hcursor run).mp rfl).1.1.2
  · have hlate := not_le.mp hwithin
    rcases h.late hlate with ⟨skippedUntil, next, hrange, _, hschedules⟩
    have hcursor := hrange.next
    rw [hend] at hcursor
    rw [hid] at hschedules
    have hsound : (row.moveCursor next.isSome skippedUntil next).Sound library occurrences :=
      .moveCursor _ _ hcron htimezone hlib (fun _ hrun => hrun.1) hcursor
    refine ⟨Schedule.moveCursor next.isSome skippedUntil next, fun _ => rfl, hsound, ?_,
      hschedules⟩
    rw [(claimsLeft_of_next hnext).2.2 hdue (by linarith)]
    refine lt_of_le_of_lt (?_ : _ ≤ 1) one_lt_two
    cases next with
    | none => exact (claimsLeft_of_none rfl).le.trans zero_le_one
    | some run => exact (claimsLeft_of_next rfl).2.1 ((hcursor run).mp rfl).1.1.2

/-- A schedule without a target is deleted. -/
theorem consumeClaimedSchedule_unresolved {choice : BatchChoice} {row : Schedule}
    {schedule : ClaimedScheduleRow} {s : ControlPlane} {instants : Set Instant}
    {payload : Json String} {failureCode failureMessage : String}
    (hlib : library.Neighbours schedule.cronExpression schedule.timezone instants)
    (hkeys : UniqueKeys Schedule.id s.schedules) (hin : row ∈ s.schedules)
    (hid : schedule.id = row.id)
    (htarget : resolveTargetPayload schedule.id schedule.targetType s =
      .unresolved payload failureCode failureMessage) :
    Commits (consumeClaimedSchedule library choice schedule cutoffMinute) s fun _ t =>
      t.schedules = updateRows (fun other => decide (other.id = row.id))
        (Schedule.softDelete schedule.nextScheduledAt choice.now) s.schedules := by
  rcases hlib.slot schedule.nextScheduledAt with ⟨slot, hslot⟩
  rw [consumeClaimedSchedule]
  refine Commits.bind (Commits.get ?_)
  rw [htarget]
  dsimp only
  rw [insertFailedScheduledAction, scheduledActionRow_eq hslot]
  refine Commits.bind (Commits.bind (Commits.lift rfl ((Commits.insert _ s).imp ?_)))
  intro insertedId u hinsert
  rw [softDeleteScheduleWithMissingTarget, ← hid]
  exact Commits.moveAfter hkeys hin hid hinsert (fun t ht => Commits.pure ht)
    fun t _ _ hschedules => hschedules

/-- A schedule is consumed, whether it has a target or not. -/
theorem consumeClaimedSchedule_row {choice : BatchChoice} {row : Schedule}
    {schedule : ClaimedScheduleRow} {s : ControlPlane}
    (hrow : claimedScheduleRow row = .ok schedule) (hdue : DueAt cutoffMinute row)
    (hlib : library.Neighbours schedule.cronExpression schedule.timezone
      (occurrences schedule.cronExpression schedule.timezone))
    (hmem : schedule.nextScheduledAt ∈
      Within (occurrences schedule.cronExpression schedule.timezone) schedule.endAt)
    (hle : schedule.nextScheduledAt ≤ cutoffMinute)
    (hkeys : UniqueKeys Schedule.id s.schedules) (hin : row ∈ s.schedules) :
    Commits (consumeClaimedSchedule library choice schedule cutoffMinute) s fun _ t =>
      RowConsumed library occurrences cutoffMinute row s t := by
  have hid := (claimedScheduleRow_spec hrow).1
  cases htarget : resolveTargetPayload schedule.id schedule.targetType s with
  | resolved payload =>
      exact (consumeClaimedSchedule_resolved hlib hkeys hin hid htarget hmem hle).imp
        fun _ t h => .of_moved hrow hdue hlib h.2.1
  | unresolved payload failureCode failureMessage =>
      refine (consumeClaimedSchedule_unresolved hlib hkeys hin hid htarget).imp ?_
      intro _ t hschedules
      refine ⟨Schedule.softDelete schedule.nextScheduledAt choice.now, fun _ => rfl,
        fun _ next hnext => ?_, ?_, hschedules⟩
      · exact absurd hnext.symm (Option.some_ne_none next)
      · exact lt_of_le_of_lt (claimsLeft_of_none rfl).le (claimsLeft_pos.mpr hdue)

/-! ### Batches -/

/-- What a batch does: each schedule can be claimed less often by the claims of the batch. -/
structure BatchMoved (library : CronLibrary) (occurrences : Occurrences) (cutoffMinute : Instant)
    (ids : List String) (s t : ControlPlane) : Prop where
  sound : SoundSchedules library occurrences t
  claims : ∀ after ∈ t.schedules, ∃ before ∈ s.schedules, before.id = after.id ∧
    claimsLeft cutoffMinute after + ids.count after.id ≤ claimsLeft cutoffMinute before

/-- Consuming a row leaves the others as they are. -/
theorem RowConsumed.batchMoved {row : Schedule} {s t : ControlPlane}
    (h : RowConsumed library occurrences cutoffMinute row s t)
    (hsound : SoundSchedules library occurrences s) (hin : row ∈ s.schedules) :
    BatchMoved library occurrences cutoffMinute [row.id] s t ∧
      ∀ other ∈ s.schedules, other.id ≠ row.id → other ∈ t.schedules := by
  rcases h.moved with ⟨update, hid, hupdated, hless, hschedules⟩
  have hrow : ∀ other ∈ s.schedules, other.id = row.id → other = row := fun other hother heq =>
    List.inj_on_of_nodup_map hsound.keys hother hin heq
  refine ⟨⟨⟨?_, ?_⟩, ?_⟩, ?_⟩
  · rw [hschedules]
    exact hsound.keys.updateRows hid
  · intro after hafter
    rw [hschedules] at hafter
    rcases mem_updateRows.mp hafter with ⟨before, hbefore, heq⟩
    rw [heq]
    split
    · rename_i hsame
      rw [hrow before hbefore (of_decide_eq_true hsame)]
      exact hupdated
    · exact hsound.sound before hbefore
  · intro after hafter
    rw [hschedules] at hafter
    rcases mem_updateRows.mp hafter with ⟨before, hbefore, heq⟩
    by_cases hsame : before.id = row.id
    · rw [if_pos (decide_eq_true hsame), hrow before hbefore hsame] at heq
      refine ⟨row, hin, by rw [heq, hid], ?_⟩
      rw [heq, hid, List.count_singleton_self]
      exact hless
    · rw [if_neg fun hdecide => hsame (of_decide_eq_true hdecide)] at heq
      refine ⟨before, hbefore, by rw [heq], ?_⟩
      rw [heq, List.count_eq_zero.mpr fun hmem => hsame (List.mem_singleton.mp hmem)]
      exact le_rfl
  · intro other hother hne
    rw [hschedules]
    refine mem_updateRows.mpr ⟨other, hother, ?_⟩
    rw [if_neg fun hdecide => hne (of_decide_eq_true hdecide)]

theorem BatchMoved.trans {ids ids' : List String} {s t u : ControlPlane}
    (first : BatchMoved library occurrences cutoffMinute ids s t)
    (rest : BatchMoved library occurrences cutoffMinute ids' t u) :
    BatchMoved library occurrences cutoffMinute (ids ++ ids') s u where
  sound := rest.sound
  claims after hafter := by
    rcases rest.claims after hafter with ⟨between, hbetween, hid, hless⟩
    rcases first.claims between hbetween with ⟨before, hbefore, hid', hless'⟩
    refine ⟨before, hbefore, hid'.trans hid, ?_⟩
    rw [hid] at hless'
    rw [List.count_append]
    omega

theorem claimedScheduleCount_count (result : DispatchDueSchedulesResult)
    (created : CreatedScheduledAction) :
    (result.count created).claimedScheduleCount = result.claimedScheduleCount := by
  cases created with
  | pending id => rfl
  | duplicate => rfl
  | failed id => cases id <;> rfl
  | skippedLate id => cases id <;> rfl

/-- The rows that a batch has claimed are consumed one after the other. -/
theorem consumeClaimedSchedules_spec {choice : BatchChoice} {rows : List Schedule}
    {claimed : List ClaimedScheduleRow}
    (hclaimed : List.Forall₂ (fun row schedule => claimedScheduleRow row = .ok schedule) rows
      claimed)
    (hnodup : (rows.map Schedule.id).Nodup) {s : ControlPlane}
    (hsound : SoundSchedules library occurrences s)
    (hrows : ∀ row ∈ rows, row ∈ s.schedules ∧ DueAt cutoffMinute row)
    (result : DispatchDueSchedulesResult) :
    Commits (consumeClaimedSchedules library choice cutoffMinute claimed result) s fun answer t =>
      answer.claimedScheduleCount = result.claimedScheduleCount ∧
      BatchMoved library occurrences cutoffMinute (rows.map Schedule.id) s t := by
  induction hclaimed generalizing s result with
  | nil =>
      exact Commits.pure ⟨rfl, hsound, fun row hrow => ⟨row, hrow, rfl, le_rfl⟩⟩
  | @cons row schedule rows claimed hrow _ ih =>
      have hfirst := hrows row List.mem_cons_self
      rw [List.map_cons, List.nodup_cons] at hnodup
      rcases claimedScheduleRow_of_sound (hsound.sound row hfirst.1) hfirst.2 with
        ⟨schedule', hrow', hlib, hmem, hle⟩
      rw [hrow, Except.ok.injEq] at hrow'
      rw [← hrow'] at hlib hmem hle
      rw [consumeClaimedSchedules]
      refine Commits.bind ((consumeClaimedSchedule_row hrow hfirst.2 hlib hmem hle hsound.keys
        hfirst.1).imp fun created t hconsumed => ?_)
      rcases hconsumed.batchMoved hsound hfirst.1 with ⟨hmoved, hothers⟩
      have hrest : ∀ other ∈ rows, other ∈ t.schedules ∧ DueAt cutoffMinute other := by
        intro other hother
        have hthere := hrows other (List.mem_cons_of_mem _ hother)
        refine ⟨hothers other hthere.1 fun heq => hnodup.1 ?_, hthere.2⟩
        rw [← heq]
        exact List.mem_map_of_mem hother
      refine (ih hnodup.2 hmoved.sound hrest (result.count created)).imp fun answer u hu => ?_
      exact ⟨hu.1.trans (claimedScheduleCount_count result created), hmoved.trans hu.2⟩

theorem forall₂_of_mapM {α β : Type} {f : α → Except String β} {as : List α} {bs : List β}
    (h : as.mapM f = .ok bs) : List.Forall₂ (fun a b => f a = .ok b) as bs := by
  induction as generalizing bs with
  | nil =>
      rw [List.mapM_nil] at h
      rw [← Except.ok.inj h]
      exact .nil
  | cons a as ih =>
      rw [List.mapM_cons] at h
      cases ha : f a with
      | error e =>
          rw [ha] at h
          cases h
      | ok b =>
          rw [ha] at h
          cases has : as.mapM f with
          | error e =>
              rw [has] at h
              cases h
          | ok rest =>
              rw [has] at h
              rw [← Except.ok.inj h]
              exact .cons ha (ih has)

theorem exists_mapM {α β : Type} {f : α → Except String β} {as : List α}
    (h : ∀ a ∈ as, ∃ b, f a = .ok b) : ∃ bs, as.mapM f = .ok bs := by
  induction as with
  | nil => exact ⟨[], rfl⟩
  | cons a as ih =>
      rcases h a List.mem_cons_self with ⟨b, hb⟩
      rcases ih fun a ha => h a (List.mem_cons_of_mem _ ha) with ⟨bs, hbs⟩
      refine ⟨b :: bs, ?_⟩
      rw [List.mapM_cons, hb]
      change (as.mapM f >>= fun rest => pure (b :: rest)) = _
      rw [hbs]
      rfl

/-- The rows that a batch claims. -/
def dueRows (choice : BatchChoice) (cutoffMinute : Instant) (schedules : List Schedule) :
    List Schedule :=
  ((schedules.filter fun schedule =>
    decide (DueAt cutoffMinute schedule) && !choice.locked schedule.id).mergeSort
      (dueScheduleLe choice)).take ClaimBatchSize

theorem mem_of_mem_dueRows {choice : BatchChoice} {schedules : List Schedule} {row : Schedule}
    (h : row ∈ dueRows choice cutoffMinute schedules) :
    row ∈ schedules ∧ DueAt cutoffMinute row := by
  have hmem := (List.mergeSort_perm _ _).mem_iff.mp (List.mem_of_mem_take h)
  rcases List.mem_filter.mp hmem with ⟨hin, hdue⟩
  rw [Bool.and_eq_true, decide_eq_true_eq] at hdue
  exact ⟨hin, hdue.1⟩

theorem dueRows_nodup {schedules : List Schedule} (hkeys : UniqueKeys Schedule.id schedules)
    (choice : BatchChoice) (cutoffMinute : Instant) :
    ((dueRows choice cutoffMinute schedules).map Schedule.id).Nodup := by
  rw [dueRows, List.map_take]
  refine List.Nodup.sublist (List.take_sublist _ _) ?_
  refine ((List.mergeSort_perm _ _).map Schedule.id).nodup_iff.mpr ?_
  exact hkeys.sublist (List.filter_sublist.map Schedule.id)

/-- A batch commits, and takes a claim from each schedule that it claims. -/
theorem claimDueScheduleBatch_spec {s : ControlPlane}
    (hsound : SoundSchedules library occurrences s) (choice : BatchChoice)
    (cutoffMinute : Instant) :
    Commits (claimDueScheduleBatch library choice cutoffMinute) s fun result t =>
      result.claimedScheduleCount =
        ((dueRows choice cutoffMinute s.schedules).map Schedule.id).length ∧
      BatchMoved library occurrences cutoffMinute
        ((dueRows choice cutoffMinute s.schedules).map Schedule.id) s t := by
  have hrows : ∀ row ∈ dueRows choice cutoffMinute s.schedules, ∃ schedule,
      claimedScheduleRow row = .ok schedule := by
    intro row hrow
    have hdue := mem_of_mem_dueRows hrow
    rcases claimedScheduleRow_of_sound (hsound.sound row hdue.1) hdue.2 with ⟨schedule, hok, _⟩
    exact ⟨schedule, hok⟩
  rcases exists_mapM hrows with ⟨claimed, hclaimed⟩
  rw [claimDueScheduleBatch]
  refine Commits.bind (Commits.get (Commits.bind (Commits.lift hclaimed ?_)))
  have hall := forall₂_of_mapM hclaimed
  refine (consumeClaimedSchedules_spec hall (dueRows_nodup hsound.keys choice cutoffMinute) hsound
    (fun row hrow => mem_of_mem_dueRows hrow) _).imp fun result t h => ⟨?_, h.2⟩
  rw [h.1, List.length_map, hall.length_eq]

/-! ### Runs -/

/-- What others may do between batches: cursors stay at occurrences, and what is due was due
before, with its cursor no later. -/
structure Undisturbed (library : CronLibrary) (occurrences : Occurrences) (cutoffMinute : Instant)
    (s t : ControlPlane) : Prop where
  sound : SoundSchedules library occurrences t
  due : ∀ after ∈ t.schedules, DueAt cutoffMinute after → ∃ before ∈ s.schedules,
    before.id = after.id ∧ DueAt cutoffMinute before ∧
    ∃ earlier ∈ before.nextScheduledAt, ∃ later ∈ after.nextScheduledAt, earlier ≤ later

/-- The batches of a dispatch, with the ids of the schedules that each claims. -/
inductive DispatchRun (library : CronLibrary) (occurrences : Occurrences) (cutoffMinute : Instant) :
    ControlPlane → List (List String) → ControlPlane → Prop where
  | done (s : ControlPlane) : DispatchRun library occurrences cutoffMinute s [] s
  | batch {s s' t u : ControlPlane} {batches : List (List String)} (choice : BatchChoice)
      (result : DispatchDueSchedulesResult)
      (others : Undisturbed library occurrences cutoffMinute s s')
      (claims : claimDueScheduleBatch library choice cutoffMinute s' = .ok (result, t))
      (rest : DispatchRun library occurrences cutoffMinute t batches u) :
      DispatchRun library occurrences cutoffMinute s
        ((dueRows choice cutoffMinute s'.schedules).map Schedule.id :: batches) u

/-- What others do takes no claim back. -/
theorem Undisturbed.claims {s t : ControlPlane}
    (h : Undisturbed library occurrences cutoffMinute s t) {after : Schedule}
    (hafter : after ∈ t.schedules) (hdue : DueAt cutoffMinute after) :
    ∃ before ∈ s.schedules, before.id = after.id ∧
      claimsLeft cutoffMinute after ≤ claimsLeft cutoffMinute before := by
  rcases h.due after hafter hdue with
    ⟨before, hbefore, hid, hdue', earlier, hearlier, later, hlater, hle⟩
  refine ⟨before, hbefore, hid, ?_⟩
  by_cases hlate : later < cutoffMinute - CatchUpWindowMs
  · rw [(claimsLeft_of_next hearlier).2.2 hdue' (lt_of_le_of_lt hle hlate)]
    exact claimsLeft_le cutoffMinute after
  · exact ((claimsLeft_of_next hlater).2.1 (not_lt.mp hlate)).trans (claimsLeft_pos.mpr hdue')

/-- A schedule that a run claims was there, and could be claimed so often. -/
theorem claims_le {s t : ControlPlane} {batches : List (List String)}
    (h : DispatchRun library occurrences cutoffMinute s batches t) (id : String) :
    batches.flatten.count id = 0 ∨ ∃ row ∈ s.schedules, row.id = id ∧
      batches.flatten.count id ≤ claimsLeft cutoffMinute row := by
  induction h with
  | done s => exact .inl rfl
  | @batch s s' t u batches choice result others claims rest ih =>
      rcases claimDueScheduleBatch_spec others.sound choice cutoffMinute with
        ⟨result', t', hbatch, _, hmoved⟩
      rw [claims, Except.ok.injEq, Prod.mk.injEq] at hbatch
      rw [← hbatch.2] at hmoved
      rw [List.flatten_cons, List.count_append]
      generalize hids : (dueRows choice cutoffMinute s'.schedules).map Schedule.id = ids at hmoved
      -- The row that the batch has found, with all claims behind it.
      have hfound : ids.count id + batches.flatten.count id = 0 ∨ ∃ row ∈ s'.schedules,
          row.id = id ∧ ids.count id + batches.flatten.count id ≤ claimsLeft cutoffMinute row := by
        rcases ih with hnone | ⟨after, hafter, hid, hle⟩
        · by_cases hmem : id ∈ ids
          · rw [← hids] at hmem
            rcases List.mem_map.mp hmem with ⟨row, hrow, hid⟩
            have hdue := mem_of_mem_dueRows hrow
            have hnodup := dueRows_nodup others.sound.keys choice cutoffMinute
            rw [hids] at hnodup
            have hone := List.nodup_iff_count_le_one.mp hnodup id
            have hpos := claimsLeft_pos.mpr hdue.2
            exact .inr ⟨row, hdue.1, hid, by omega⟩
          · exact .inl (by rw [hnone, List.count_eq_zero.mpr hmem])
        · rcases hmoved.claims after hafter with ⟨before, hbefore, hid', hless⟩
          rw [hid] at hless hid'
          exact .inr ⟨before, hbefore, hid', by omega⟩
      rcases hfound with hnone | ⟨row, hrow, hid, hle⟩
      · exact .inl hnone
      · by_cases hzero : ids.count id + batches.flatten.count id = 0
        · exact .inl hzero
        · have hdue := claimsLeft_pos.mp (lt_of_lt_of_le (Nat.pos_of_ne_zero hzero) hle)
          rcases others.claims hrow hdue with ⟨before, hbefore, hid', hle'⟩
          exact .inr ⟨before, hbefore, hid'.trans hid, hle.trans hle'⟩

/-- No schedule is claimed more than twice. -/
theorem count_le_two {s t : ControlPlane} {batches : List (List String)}
    (h : DispatchRun library occurrences cutoffMinute s batches t) (id : String) :
    batches.flatten.count id ≤ 2 := by
  rcases claims_le h id with hnone | ⟨row, _, _, hle⟩
  · rw [hnone]
    exact zero_le_two
  · exact hle.trans (claimsLeft_le cutoffMinute row)

/-- Where each batch claims a schedule, there are at most two for each schedule. -/
theorem length_le {s t : ControlPlane} {batches : List (List String)}
    (h : DispatchRun library occurrences cutoffMinute s batches t)
    (hclaims : ∀ batch ∈ batches, batch ≠ []) : batches.length ≤ 2 * s.schedules.length := by
  have hsubperm : batches.flatten.Subperm
      (s.schedules.map Schedule.id ++ s.schedules.map Schedule.id) := by
    rw [List.subperm_ext_iff]
    intro id hmem
    rw [List.count_append]
    have htwice := count_le_two h id
    rcases claims_le h id with hnone | ⟨row, hrow, hid, _⟩
    · exact absurd hmem (List.count_eq_zero.mp hnone)
    · have hthere : 0 < (s.schedules.map Schedule.id).count id := by
        rw [List.count_pos_iff, ← hid]
        exact List.mem_map_of_mem hrow
      omega
  have hlength := hsubperm.length_le
  rw [List.length_append, List.length_map, List.length_flatten] at hlength
  have hsum : batches.length ≤ (batches.map List.length).sum := by
    have hone := List.length_le_sum_of_one_le (batches.map List.length) fun length hmem => by
      rcases List.mem_map.mp hmem with ⟨batch, hbatch, heq⟩
      rw [← heq]
      exact List.length_pos_of_ne_nil (hclaims batch hbatch)
    rw [List.length_map] at hone
    exact hone
  omega

/-- The loop ends without an exception, and is a run. -/
theorem dispatchBatches_run {choices : Nat → BatchChoice}
    {others : Nat → ControlPlane → ControlPlane}
    (hothers : ∀ i s, SoundSchedules library occurrences s →
      Undisturbed library occurrences cutoffMinute s (others i s))
    (batchesLeft batchCount : Nat) (result : DispatchDueSchedulesResult) {s : ControlPlane}
    (hsound : SoundSchedules library occurrences s) :
    ∃ answer t batches,
      dispatchBatches library choices others cutoffMinute batchesLeft batchCount result s =
        (.ok answer, t) ∧
      DispatchRun library occurrences cutoffMinute s batches t ∧
      answer.claimedScheduleCount = result.claimedScheduleCount + batches.flatten.length := by
  induction batchesLeft generalizing batchCount result s with
  | zero => exact ⟨_, s, [], rfl, .done s, rfl⟩
  | succ batchesLeft ih =>
      have hundisturbed := hothers batchCount s hsound
      rcases claimDueScheduleBatch_spec hundisturbed.sound (choices batchCount)
        cutoffMinute with ⟨batch, t, hbatch, hcount, hmoved⟩
      rw [dispatchBatches, hbatch]
      dsimp only
      split
      · rename_i hempty
        refine ⟨result, t, _, rfl, .batch _ batch hundisturbed hbatch (.done t), ?_⟩
        rw [List.flatten_cons, List.flatten_nil, List.append_nil, ← hcount, hempty, Nat.add_zero]
      · rcases ih (batchCount + 1) (result.add batch) hmoved.sound with
          ⟨answer, u, batches, hrun, hrest, hanswer⟩
        refine ⟨answer, u, _, hrun, .batch _ batch hundisturbed hbatch hrest, ?_⟩
        rw [hanswer, List.flatten_cons, List.length_append, ← hcount, ← Nat.add_assoc]
        rfl

end

/-! ### The law -/

/-- What a dispatch does to the cursors of schedules. -/
structure CursorLaw (library : CronLibrary) (occurrences : Occurrences) (cutoffMinute : Instant)
    (s : ControlPlane) : Prop where
  consumed : ∀ (choice : BatchChoice), ∀ row ∈ s.schedules, DueAt cutoffMinute row →
    (∃ payload, resolveTargetPayload row.id row.targetType s = .resolved payload) →
    (∀ existing ∈ s.scheduledActions, existing.id ≠ choice.newId row.id) →
    ∃ schedule, claimedScheduleRow row = .ok schedule ∧
      Commits (consumeClaimedSchedule library choice schedule cutoffMinute) s fun _ t =>
        Consumed library (occurrences schedule.cronExpression schedule.timezone) schedule
          cutoffMinute s t
  returns : ∀ (choices : Nat → BatchChoice) (others : Nat → ControlPlane → ControlPlane),
    (∀ i s, SoundSchedules library occurrences s →
      Undisturbed library occurrences cutoffMinute s (others i s)) →
    ∃ answer t batches,
      dispatchDueSchedules library choices others cutoffMinute s = (.ok answer, t) ∧
      DispatchRun library occurrences cutoffMinute s batches t ∧
      answer.claimedScheduleCount = batches.flatten.length
  twice : ∀ batches t, DispatchRun library occurrences cutoffMinute s batches t →
    ∀ id, batches.flatten.count id ≤ 2
  ends : ∀ batches t, DispatchRun library occurrences cutoffMinute s batches t →
    (∀ batch ∈ batches, batch ≠ []) → batches.length ≤ 2 * s.schedules.length

/-- The law holds where the cursors are at occurrences, for schedules that have a target. -/
theorem cursorLaw {library : CronLibrary} {occurrences : Occurrences} {s : ControlPlane}
    (hsound : SoundSchedules library occurrences s) (cutoffMinute : Instant) :
    CursorLaw library occurrences cutoffMinute s where
  consumed choice row hrow hdue htarget hfresh := by
    rcases claimedScheduleRow_of_sound (hsound.sound row hrow) hdue with
      ⟨schedule, hclaimed, hlib, hmem, hle⟩
    have hspec := claimedScheduleRow_spec hclaimed
    rcases htarget with ⟨payload, htarget⟩
    rw [← hspec.1, ← hspec.2.1] at htarget
    rw [← hspec.1] at hfresh
    exact ⟨schedule, hclaimed, (consumeClaimedSchedule_resolved hlib hsound.keys hrow hspec.1
      htarget hmem hle).imp fun _ t h => h.2.2 hfresh⟩
  returns choices others hothers := by
    rcases dispatchBatches_run hothers MaxBatchesPerDispatch 0 {} hsound with
      ⟨answer, t, batches, hrun, hbatches, hcount⟩
    exact ⟨answer, t, batches, hrun, hbatches, hcount.trans (Nat.zero_add _)⟩
  twice _ _ h := count_le_two h
  ends _ _ h := length_le h

/-- A schedule of every day at nine, with its cursor at nine o'clock of the first day. -/
def everyDayAtNine : Schedule where
  id := "sch"
  organizationId := "org"
  targetType := "trigger_run"
  kind := .recurring
  cronExpression := some "0 9 * * *"
  timezone := some "UTC"
  enabled := true
  nextScheduledAt := some (nineOClock 0)
  lastScheduledAt := none
  endAt := none
  deletedAt := none

/-- The schedule, with the table of what it is for. -/
def dueAtNine (scheduleTriggers : List ScheduleTrigger) : ControlPlane where
  schedules := [everyDayAtNine]
  targets := ⟨scheduleTriggers, [], [], []⟩
  scheduledActions := []
  triggerRuns := []
  workflowRuns := []
  snapshotRefreshHandoffs := []

theorem dueAtNine_sound (scheduleTriggers : List ScheduleTrigger) :
    SoundSchedules nineEveryDay (fun _ _ => nineOClocks) (dueAtNine scheduleTriggers) where
  keys := List.nodup_singleton _
  sound := by
    intro row hrow _ next hnext
    rw [List.mem_singleton.mp hrow] at hnext ⊢
    exact ⟨_, _, rfl, rfl, nineEveryDay_neighbours, ⟨0, (Option.some.inj hnext).symm⟩, rfl⟩

/-- The law of the schedule with its target. -/
theorem cursorLaw_dueAtNine :
    CursorLaw nineEveryDay (fun _ _ => nineOClocks) (nineOClock 0)
      (dueAtNine [⟨"sch", "trg"⟩]) :=
  cursorLaw (dueAtNine_sound [⟨"sch", "trg"⟩]) (nineOClock 0)

/-- Without its target it is deleted, and no cursor is moved. -/
theorem dueAtNine_deleted : ¬ ∀ (s : ControlPlane),
    SoundSchedules nineEveryDay (fun _ _ => nineOClocks) s → ∀ (choice : BatchChoice),
    ∀ row ∈ s.schedules, DueAt (nineOClock 0) row →
    (∀ existing ∈ s.scheduledActions, existing.id ≠ choice.newId row.id) →
    ∃ schedule, claimedScheduleRow row = .ok schedule ∧
      Commits (consumeClaimedSchedule nineEveryDay choice schedule (nineOClock 0)) s fun _ t =>
        Consumed nineEveryDay nineOClocks schedule (nineOClock 0) s t := by
  intro h
  have hsound := dueAtNine_sound []
  have hin : everyDayAtNine ∈ (dueAtNine []).schedules := List.mem_cons_self
  rcases h _ hsound ⟨fun _ => false, 0, id, fun _ _ => true⟩ _ hin (by decide)
    (fun _ hmem => absurd hmem List.not_mem_nil) with ⟨schedule, hclaimed, _, t, hrun, hlaw⟩
  have hschedule : schedule =
      ⟨"sch", "org", "trigger_run", "0 9 * * *", "UTC", nineOClock 0, none⟩ :=
    (Except.ok.inj hclaimed).symm
  have hlib : nineEveryDay.Neighbours schedule.cronExpression schedule.timezone nineOClocks := by
    rw [hschedule]
    exact nineEveryDay_neighbours
  have hmissing : resolveTargetPayload schedule.id schedule.targetType (dueAtNine []) =
      createMissingTargetPayload "sch" "trigger_run" := by
    rw [hschedule]
    rfl
  rcases hlaw.due (by rw [hschedule]; decide) with ⟨latest, next, _, hmoved⟩
  rcases consumeClaimedSchedule_unresolved hlib hsound.keys hin (by rw [hschedule]; rfl) hmissing
    with ⟨_, t', hrun', hdeleted⟩
  rw [hrun, Except.ok.injEq, Prod.mk.injEq] at hrun'
  rw [← hrun'.2, hmoved, hschedule] at hdeleted
  have hnone : [none] = [some (0 : Instant)] := congrArg (List.map Schedule.deletedAt) hdeleted
  exact absurd hnone (by decide)

end Mistle
