import Mathlib.Data.Int.LeastGreatest
import Mathlib.Order.Bounds.Basic
import Mathlib.Tactic.Linarith
import Mistle.Schedule.DueSchedules

/-!
# The Cursor of a Schedule

A claimed schedule is consumed from the occurrence that its cursor is at. Where this is
within the window, the occurrences up to the cutoff are gone through, the latest of them
gets an action and the cursor moves behind the cutoff. Where it is older, the cursor
moves to the start of the window.

What the library answers is assumed to be the neighbours of an instant in a set of
instants that are a minute apart. So the window has no more occurrences than the loop
has iterations.

## Main definitions

* `Neighbours`: The library answers with the neighbours in a set of instants.
* `DueRange`, `SkippedRange`: What is due, and where a schedule is that skips.
* `Commits`: What a transaction leads to, where it has no exception.

## Theorems

* `resolveDueScheduleRange_spec`: The loop finds the latest occurrence that is due.
* `resolveSkippedLateRange_spec`: What is skipped ends before the window.
* `consumeClaimedSchedule_resolved`: What becomes of a schedule with a target.
* `nineEveryDay_neighbours`: One library answers so.
-/

namespace Mistle

/-! ### Neighbours -/

/-- A set of instants that are a minute apart, and the library that answers with them. -/
structure CronLibrary.Neighbours (library : CronLibrary) (cronExpression timezone : String)
    (occurrences : Set Instant) : Prop where
  accepts : createPausedScheduleCron library cronExpression timezone = .ok ()
  formats : ∀ instant, ∃ slot, library.formatToParts timezone instant = .ok slot
  apart : ∀ a ∈ occurrences, ∀ b ∈ occurrences, a < b → a + MinuteMs ≤ b
  next : ∀ after run, library.nextRun cronExpression timezone after = some run ↔
    IsLeast {other ∈ occurrences | after < other} run
  previous_sorted : ∀ count reference,
    (library.previousRuns cronExpression timezone count reference).Pairwise fun a b => b < a
  previous_before : ∀ count reference,
    ∀ run ∈ library.previousRuns cronExpression timezone count reference,
      run ∈ occurrences ∧ run < reference
  previous_latest : ∀ count reference, ∀ run ∈ occurrences, run < reference →
    run ∈ library.previousRuns cronExpression timezone count reference ∨
      ((library.previousRuns cronExpression timezone count reference).length = count ∧
        ∀ other ∈ library.previousRuns cronExpression timezone count reference, run < other)

/-- An occurrence that is not after the end. -/
def Within (occurrences : Set Instant) (endAt : Option Instant) : Set Instant :=
  {run ∈ occurrences | withinEnd endAt run = true}

theorem withinEnd_of_le {endAt : Option Instant} {a b : Instant} (hle : a ≤ b)
    (h : withinEnd endAt b = true) : withinEnd endAt a = true := by
  cases endAt with
  | none => rfl
  | some endAt =>
      rw [withinEnd, decide_eq_true_eq] at h ⊢
      exact le_trans hle h

/-- Where there is an instant of a set behind another, there is a first. -/
theorem exists_isLeast_of_mem {instants : Set Instant} {run : Instant} (bound : Instant)
    (hbound : ∀ other ∈ instants, bound ≤ other) (hmem : run ∈ instants) :
    ∃ first, IsLeast instants first := by
  rcases Int.exists_least_of_bdd ⟨bound, hbound⟩ ⟨run, hmem⟩ with ⟨first, hfirst, hleast⟩
  exact ⟨first, hfirst, hleast⟩

theorem exists_isGreatest_of_mem {instants : Set Instant} {run : Instant} (bound : Instant)
    (hbound : ∀ other ∈ instants, other ≤ bound) (hmem : run ∈ instants) :
    ∃ last, IsGreatest instants last := by
  rcases Int.exists_greatest_of_bdd ⟨bound, hbound⟩ ⟨run, hmem⟩ with ⟨last, hlast, hgreatest⟩
  exact ⟨last, hlast, hgreatest⟩

/-- The cursor that a schedule moves to: the first occurrence of a set, where it is not
after the end. -/
def CursorAt (endAt : Option Instant) (instants : Set Instant) (cursor : Option Instant) : Prop :=
  ∀ run, cursor = some run ↔ IsLeast instants run ∧ withinEnd endAt run = true

section

variable {library : CronLibrary} {cronExpression timezone : String} {occurrences : Set Instant}

theorem CronLibrary.Neighbours.slot (h : library.Neighbours cronExpression timezone occurrences)
    (instant : Instant) : ∃ slot, getScheduledLocalSlot library instant timezone = .ok slot := by
  rcases h.formats instant with ⟨slot, hslot⟩
  have haccepts := h.accepts
  rw [createPausedScheduleCron] at haccepts
  cases hcron : validateScheduleCronExpression library cronExpression with
  | error e =>
      rw [hcron] at haccepts
      cases haccepts
  | ok u =>
      rw [hcron] at haccepts
      change validateIanaTimezone library timezone = .ok () at haccepts
      refine ⟨slot, ?_⟩
      rw [getScheduledLocalSlot, haccepts]
      exact hslot

theorem nextOccurrenceAfter_spec {schedule : ClaimedScheduleRow}
    (h : library.Neighbours schedule.cronExpression schedule.timezone occurrences)
    (after : Instant) :
    ∃ next, nextOccurrenceAfter library schedule after = .ok next ∧
      CursorAt schedule.endAt {run ∈ occurrences | after < run} next := by
  rw [nextOccurrenceAfter, findNextScheduleOccurrence, h.accepts]
  cases hnext : library.nextRun schedule.cronExpression schedule.timezone after with
  | none =>
      refine ⟨none, rfl, fun run => iff_of_false (by simp) fun hleast => ?_⟩
      rw [← h.next, hnext] at hleast
      exact absurd hleast.1.symm (Option.some_ne_none run)
  | some run =>
      have hleast := (h.next after run).mp hnext
      by_cases hwithin : withinEnd schedule.endAt run = true
      · rcases h.slot run with ⟨slot, hslot⟩
        refine ⟨some run, ?_, fun other => ?_⟩
        · change (do
            let occurrence ← (if withinEnd schedule.endAt run = true then do
                let occurrence ← createScheduleOccurrence library run schedule.timezone
                pure (some occurrence)
              else pure none : Except String (Option ScheduleOccurrence))
            pure (occurrence.map ScheduleOccurrence.scheduledAt)) = _
          rw [if_pos hwithin, createScheduleOccurrence, hslot]
          rfl
        · rw [Option.some.injEq]
          constructor
          · rintro rfl
            exact ⟨hleast, hwithin⟩
          · exact fun hother => hleast.unique hother.1
      · refine ⟨none, ?_, fun other => iff_of_false (by simp) fun hother => ?_⟩
        · change (do
            let occurrence ← (if withinEnd schedule.endAt run = true then do
                let occurrence ← createScheduleOccurrence library run schedule.timezone
                pure (some occurrence)
              else pure none : Except String (Option ScheduleOccurrence))
            pure (occurrence.map ScheduleOccurrence.scheduledAt)) = _
          rw [if_neg hwithin]
          rfl
        · rw [hother.1.unique hleast] at hother
          exact hwithin hother.2

/-- Of the two runs before the reference one is not after the end, as they are a minute apart. -/
theorem find?_previousRuns {schedule : ClaimedScheduleRow}
    (h : library.Neighbours schedule.cronExpression schedule.timezone occurrences)
    (before : Instant) (run : Instant) :
    ((library.previousRuns schedule.cronExpression schedule.timezone 2
        (match schedule.endAt with
          | some endAt => if endAt < before then endAt + CronResolutionMs else before
          | none => before)).find?
      fun run => decide (run < before) && withinEnd schedule.endAt run) = some run ↔
    IsGreatest {other ∈ Within occurrences schedule.endAt | other < before} run := by
  generalize hreference : (match schedule.endAt with
    | some endAt => if endAt < before then endAt + CronResolutionMs else before
    | none => before) = reference
  have hreach : ∀ other, other < before → withinEnd schedule.endAt other = true →
      other < reference := by
    intro other hbefore hwithin
    rw [← hreference]
    cases hend : schedule.endAt with
    | none => exact hbefore
    | some endAt =>
        rw [hend, withinEnd, decide_eq_true_eq] at hwithin
        dsimp only
        split
        · rw [CronResolutionMs]
          linarith
        · exact hbefore
  have hsecond : ∀ a ∈ occurrences, ∀ b ∈ occurrences, a < reference → b < a →
      b < before ∧ withinEnd schedule.endAt b = true := by
    intro a ha b hb hlt hba
    have hapart := h.apart b hb a ha hba
    rw [← hreference] at hlt
    rw [MinuteMs] at hapart
    cases hend : schedule.endAt with
    | none =>
        rw [hend] at hlt
        exact ⟨lt_trans hba hlt, rfl⟩
    | some endAt =>
        rw [hend] at hlt
        dsimp only at hlt
        rw [CronResolutionMs] at hlt
        rw [withinEnd, decide_eq_true_eq]
        split at hlt
        · rename_i hend
          exact ⟨by linarith, by linarith⟩
        · rename_i hend
          exact ⟨by linarith, by linarith⟩
  have hsorted := h.previous_sorted 2 reference
  have hbefore := h.previous_before 2 reference
  have hlatest := h.previous_latest 2 reference
  generalize library.previousRuns schedule.cronExpression schedule.timezone 2 reference = runs
    at hsorted hbefore hlatest
  have hfound : ∀ run, runs.find? (fun run => decide (run < before) &&
      withinEnd schedule.endAt run) = some run →
      IsGreatest {other ∈ Within occurrences schedule.endAt | other < before} run := by
    intro run hfind
    have hpred := List.find?_some hfind
    rw [Bool.and_eq_true, decide_eq_true_eq] at hpred
    have hmem := List.mem_of_find?_eq_some hfind
    refine ⟨⟨⟨(hbefore run hmem).1, hpred.2⟩, hpred.1⟩, ?_⟩
    rintro other ⟨⟨hother, hwithin⟩, hlt⟩
    rcases hlatest other hother (hreach other hlt hwithin) with hin | ⟨_, hall⟩
    · -- The first that meets the condition is the latest.
      rcases List.find?_eq_some_iff_append.mp hfind with ⟨_, earlier, later, hsplit, hnone⟩
      rw [hsplit] at hin hsorted
      rcases List.mem_append.mp hin with hin | hin
      · have hnot := hnone other hin
        rw [decide_eq_true hlt, hwithin] at hnot
        exact absurd hnot (by decide)
      · rcases List.mem_cons.mp hin with heq | hin
        · exact heq.le
        · exact ((List.pairwise_cons.mp (List.pairwise_append.mp hsorted).2.1).1 other hin).le
    · exact (hall run hmem).le
  constructor
  · exact hfound run
  · intro hgreatest
    cases hfind : runs.find? (fun run => decide (run < before) &&
        withinEnd schedule.endAt run) with
    | some other => rw [(hfound other hfind).unique hgreatest]
    | none =>
        rw [List.find?_eq_none] at hfind
        have hpred : ∀ other ∈ runs, ¬ (other < before ∧ withinEnd schedule.endAt other = true) := by
          intro other hmem hboth
          exact hfind other hmem (by rw [decide_eq_true hboth.1, hboth.2]; rfl)
        rcases hgreatest.1 with ⟨⟨hrun, hwithin⟩, hlt⟩
        rcases hlatest run hrun (hreach run hlt hwithin) with hin | ⟨hlength, _⟩
        · exact absurd ⟨hlt, hwithin⟩ (hpred run hin)
        · match runs, hlength with
          | [a, b], _ =>
              have ha := hbefore a (by simp)
              have hb := hbefore b (by simp)
              have hba := (List.pairwise_cons.mp hsorted).1 b (by simp)
              exact absurd (hsecond a ha.1 b hb.1 ha.2 hba) (hpred b (by simp))

theorem findPreviousScheduleOccurrence_spec {schedule : ClaimedScheduleRow}
    (h : library.Neighbours schedule.cronExpression schedule.timezone occurrences)
    (before : Instant) :
    ∃ found, findPreviousScheduleOccurrence library schedule.cronExpression schedule.timezone before
        schedule.endAt = .ok found ∧
      ∀ run, found.map ScheduleOccurrence.scheduledAt = some run ↔
        IsGreatest {other ∈ Within occurrences schedule.endAt | other < before} run := by
  have hfind := find?_previousRuns h before
  rw [findPreviousScheduleOccurrence.eq_def, h.accepts]
  simp only [bind, Except.bind]
  generalize List.find? _ _ = found at hfind ⊢
  cases found with
  | none => exact ⟨none, rfl, hfind⟩
  | some previousRun =>
      rcases h.slot previousRun with ⟨slot, hslot⟩
      refine ⟨some ⟨slot, previousRun⟩, ?_, hfind⟩
      dsimp only
      rw [createScheduleOccurrence, hslot]
      rfl

/-! ### What is due -/

/-- The latest occurrence that is due, and the first behind the cutoff. -/
structure DueRange (occurrences : Set Instant) (endAt : Option Instant) (cutoffMinute : Instant)
    (latest : Instant) (next : Option Instant) : Prop where
  latest : IsGreatest {run ∈ Within occurrences endAt | run ≤ cutoffMinute} latest
  next : CursorAt endAt {run ∈ occurrences | cutoffMinute < run} next

/-- An instant with no occurrence between it and the cutoff is the last one due. -/
theorem DueRange.of_last {endAt : Option Instant} {cutoffMinute latest : Instant}
    {next : Option Instant} (hmem : latest ∈ Within occurrences endAt) (hdue : latest ≤ cutoffMinute)
    (hnext : CursorAt endAt {run ∈ occurrences | latest < run} next)
    (hlast : ∀ run, next = some run → cutoffMinute < run) :
    DueRange occurrences endAt cutoffMinute latest next := by
  -- The first occurrence behind the latest, where there is one that is not after the end.
  have hfirst : ∀ run ∈ occurrences, latest < run → withinEnd endAt run = true →
      ∃ first ≤ run, next = some first ∧ IsLeast {run ∈ occurrences | latest < run} first := by
    intro run hrun hlt hwithin
    rcases exists_isLeast_of_mem latest (fun other hother => hother.2.le)
      (show run ∈ {run ∈ occurrences | latest < run} from ⟨hrun, hlt⟩) with ⟨first, hleast⟩
    have hle : first ≤ run := hleast.2 ⟨hrun, hlt⟩
    exact ⟨first, hle, (hnext first).mpr ⟨hleast, withinEnd_of_le hle hwithin⟩, hleast⟩
  constructor
  · refine ⟨⟨hmem, hdue⟩, ?_⟩
    rintro other ⟨⟨hother, hwithin⟩, hle⟩
    by_contra hlater
    rcases hfirst other hother (not_le.mp hlater) hwithin with ⟨first, hfirst, hsome, _⟩
    exact absurd (le_trans hfirst hle) (not_le.mpr (hlast first hsome))
  · intro run
    constructor
    · intro hsome
      have hleast := (hnext run).mp hsome
      refine ⟨⟨⟨hleast.1.1.1, hlast run hsome⟩, ?_⟩, hleast.2⟩
      exact fun other hother => hleast.1.2 ⟨hother.1, lt_of_le_of_lt hdue hother.2⟩
    · rintro ⟨hleast, hwithin⟩
      rcases hfirst run hleast.1.1 (lt_of_le_of_lt hdue hleast.1.2) hwithin with
        ⟨first, hle, hsome, hmine⟩
      have hge : run ≤ first := hleast.2 ⟨hmine.1.1, hlast first hsome⟩
      rw [hsome, le_antisymm hle hge]

section

-- What the library answers is not computed when the loop is unfolded.
attribute [local irreducible] nextOccurrenceAfter

variable {schedule : ClaimedScheduleRow} {cutoffMinute latest next : Instant}

theorem dueScheduleRange_of_none (hnext : nextOccurrenceAfter library schedule latest = .ok none)
    (iterationsLeft : Nat) :
    dueScheduleRange library schedule cutoffMinute iterationsLeft latest = .ok (latest, none) := by
  delta dueScheduleRange
  cases iterationsLeft with
  | zero =>
      change nextOccurrenceAfter library schedule latest >>= _ = _
      rw [hnext]
      rfl
  | succ iterationsLeft =>
      change nextOccurrenceAfter library schedule latest >>= _ = _
      rw [hnext]
      rfl

theorem dueScheduleRange_of_le
    (hnext : nextOccurrenceAfter library schedule latest = .ok (some next))
    (hle : next ≤ cutoffMinute) (iterationsLeft : Nat) :
    dueScheduleRange library schedule cutoffMinute (iterationsLeft + 1) latest =
      dueScheduleRange library schedule cutoffMinute iterationsLeft next := by
  delta dueScheduleRange
  change nextOccurrenceAfter library schedule latest >>= _ = _
  rw [hnext]
  exact if_pos hle

theorem dueScheduleRange_of_not_le
    (hnext : nextOccurrenceAfter library schedule latest = .ok (some next))
    (hle : ¬ next ≤ cutoffMinute) (iterationsLeft : Nat) :
    dueScheduleRange library schedule cutoffMinute iterationsLeft latest =
      .ok (latest, some next) := by
  delta dueScheduleRange
  cases iterationsLeft with
  | zero =>
      change nextOccurrenceAfter library schedule latest >>= _ = _
      rw [hnext]
      exact if_neg hle
  | succ iterationsLeft =>
      change nextOccurrenceAfter library schedule latest >>= _ = _
      rw [hnext]
      exact if_neg hle

end

/-- From an occurrence that is due the loop goes on to the next that is due, if there is one. -/
theorem dueScheduleRange_step {schedule : ClaimedScheduleRow}
    (h : library.Neighbours schedule.cronExpression schedule.timezone occurrences)
    {cutoffMinute latest : Instant} (hmem : latest ∈ Within occurrences schedule.endAt)
    (hdue : latest ≤ cutoffMinute) :
    (∃ next ∈ Within occurrences schedule.endAt, latest + MinuteMs ≤ next ∧ next ≤ cutoffMinute ∧
      nextOccurrenceAfter library schedule latest = .ok (some next)) ∨
    ∀ iterationsLeft, ∃ range,
      dueScheduleRange library schedule cutoffMinute iterationsLeft latest = .ok range ∧
      DueRange occurrences schedule.endAt cutoffMinute range.1 range.2 := by
  rcases nextOccurrenceAfter_spec h latest with ⟨next, hnext, hcursor⟩
  cases next with
  | none =>
      refine .inr fun iterationsLeft => ⟨_, dueScheduleRange_of_none hnext iterationsLeft, ?_⟩
      exact .of_last hmem hdue hcursor fun run hsome => absurd hsome.symm (Option.some_ne_none run)
  | some next =>
      by_cases hle : next ≤ cutoffMinute
      · have hfirst := (hcursor next).mp rfl
        have hafter := hfirst.1.1
        exact .inl ⟨next, ⟨hafter.1, hfirst.2⟩,
          h.apart latest hmem.1 next hafter.1 hafter.2, hle, hnext⟩
      · refine .inr fun iterationsLeft =>
          ⟨_, dueScheduleRange_of_not_le hnext hle iterationsLeft, ?_⟩
        refine .of_last hmem hdue hcursor fun run hsome => ?_
        rw [← Option.some.inj hsome]
        exact not_le.mp hle

/-- Where the iterations left reach to the cutoff, the loop ends with what is due. -/
theorem dueScheduleRange_spec {schedule : ClaimedScheduleRow}
    (h : library.Neighbours schedule.cronExpression schedule.timezone occurrences)
    {cutoffMinute : Instant} (iterationsLeft : Nat) {latest : Instant}
    (hmem : latest ∈ Within occurrences schedule.endAt) (hdue : latest ≤ cutoffMinute)
    (hleft : cutoffMinute - latest < (iterationsLeft + 1) * MinuteMs) :
    ∃ range, dueScheduleRange library schedule cutoffMinute iterationsLeft latest = .ok range ∧
      DueRange occurrences schedule.endAt cutoffMinute range.1 range.2 := by
  induction iterationsLeft generalizing latest with
  | zero =>
      rcases dueScheduleRange_step h hmem hdue with ⟨next, _, hminute, hle, _⟩ | hlast
      · -- The next occurrence would be a minute behind, and so behind the cutoff.
        push_cast at hleft
        exact absurd hle (not_le.mpr (by linarith))
      · exact hlast 0
  | succ iterationsLeft ih =>
      rcases dueScheduleRange_step h hmem hdue with ⟨next, hin, hminute, hle, hnext⟩ | hlast
      · rw [dueScheduleRange_of_le hnext hle]
        push_cast at hleft
        exact ih hin hle (by linarith)
      · exact hlast (iterationsLeft + 1)

/-- The window has fewer occurrences than the loop has iterations. -/
theorem resolveDueScheduleRange_spec {schedule : ClaimedScheduleRow}
    (h : library.Neighbours schedule.cronExpression schedule.timezone occurrences)
    {cutoffMinute : Instant} (hmem : schedule.nextScheduledAt ∈ Within occurrences schedule.endAt)
    (hdue : schedule.nextScheduledAt ≤ cutoffMinute)
    (hwindow : cutoffMinute - schedule.nextScheduledAt ≤ CatchUpWindowMs) :
    ∃ range, resolveDueScheduleRange library schedule cutoffMinute = .ok range ∧
      DueRange occurrences schedule.endAt cutoffMinute range.1 range.2 := by
  refine dueScheduleRange_spec h MaxDueRangeIterations hmem hdue (lt_of_le_of_lt hwindow ?_)
  decide

/-! ### What is skipped -/

/-- The last occurrence that is skipped, and the first that is not. -/
structure SkippedRange (occurrences : Set Instant) (endAt : Option Instant)
    (threshold : Instant) (skippedUntil : Instant) (next : Option Instant) : Prop where
  skippedUntil : IsGreatest {run ∈ Within occurrences endAt | run < threshold} skippedUntil
  next : CursorAt endAt {run ∈ occurrences | threshold ≤ run} next

/-- What is skipped ends before the window, and the cursor is at the first in it. -/
theorem resolveSkippedLateRange_spec {schedule : ClaimedScheduleRow}
    (h : library.Neighbours schedule.cronExpression schedule.timezone occurrences)
    {cutoffMinute : Instant} (hmem : schedule.nextScheduledAt ∈ Within occurrences schedule.endAt)
    (hlate : CatchUpWindowMs < cutoffMinute - schedule.nextScheduledAt) :
    ∃ range, resolveSkippedLateRange library schedule cutoffMinute = .ok range ∧
      SkippedRange occurrences schedule.endAt (cutoffMinute - CatchUpWindowMs) range.1 range.2 := by
  rcases findPreviousScheduleOccurrence_spec h (cutoffMinute - CatchUpWindowMs) with
    ⟨found, hfound, hprevious⟩
  rcases exists_isGreatest_of_mem (cutoffMinute - CatchUpWindowMs)
    (fun other hother => hother.2.le) (show schedule.nextScheduledAt ∈
      {run ∈ Within occurrences schedule.endAt | run < cutoffMinute - CatchUpWindowMs} from
        ⟨hmem, by linarith⟩) with ⟨last, hlast⟩
  have hsome := (hprevious last).mpr hlast
  rcases nextOccurrenceAfter_spec h last with ⟨next, hnext, hcursor⟩
  refine ⟨(last, next), ?_, hlast, ?_⟩
  · simp only [resolveSkippedLateRange, hfound, bind, Except.bind, hsome, Option.getD_some, hnext]
    rfl
  · -- Behind the last that is skipped, an occurrence is in the window or after the end.
    have hbetween : ∀ run ∈ occurrences, last < run → withinEnd schedule.endAt run = true →
        cutoffMinute - CatchUpWindowMs ≤ run := by
      intro run hrun hlt hwithin
      by_contra hbefore
      exact absurd (hlast.2 ⟨⟨hrun, hwithin⟩, not_le.mp hbefore⟩) (not_le.mpr hlt)
    intro run
    rw [hcursor run]
    constructor
    · rintro ⟨hleast, hwithin⟩
      refine ⟨⟨⟨hleast.1.1, hbetween run hleast.1.1 hleast.1.2 hwithin⟩, ?_⟩, hwithin⟩
      exact fun other hother => hleast.2 ⟨hother.1, lt_of_lt_of_le hlast.1.2 hother.2⟩
    · rintro ⟨hleast, hwithin⟩
      refine ⟨⟨⟨hleast.1.1, lt_of_lt_of_le hlast.1.2 hleast.1.2⟩, ?_⟩, hwithin⟩
      rintro other ⟨hother, hlt⟩
      by_contra hearlier
      have hle := (not_le.mp hearlier).le
      have hin := hbetween other hother hlt (withinEnd_of_le hle hwithin)
      exact hearlier (hleast.2 ⟨hother, hin⟩)

end

/-! ### Transactions -/

/-- A transaction that commits, and what it leads to. -/
def Commits {α : Type} (m : Transaction α) (s : ControlPlane) (Q : α → ControlPlane → Prop) :
    Prop :=
  ∃ a t, m s = .ok (a, t) ∧ Q a t

section

variable {α β : Type} {Q : α → ControlPlane → Prop} {s : ControlPlane}

theorem Commits.bind {m : Transaction β} {f : β → Transaction α}
    (h : Commits m s fun b t => Commits (f b) t Q) : Commits (m >>= f) s Q := by
  rcases h with ⟨b, t, hm, a, u, hf, hQ⟩
  refine ⟨a, u, ?_, hQ⟩
  have hbind : (m >>= f) s = m s >>= fun r => f r.1 r.2 := rfl
  rw [hbind, hm]
  exact hf

theorem Commits.pure {a : α} (h : Q a s) : Commits (pure a : Transaction α) s Q :=
  ⟨a, s, rfl, h⟩

theorem Commits.lift {x : Except String α} {a : α} (hx : x = .ok a) (h : Q a s) :
    Commits (liftM x : Transaction α) s Q := by
  refine ⟨a, s, ?_, h⟩
  rw [hx]
  rfl

theorem Commits.get {Q : ControlPlane → ControlPlane → Prop} (h : Q s s) :
    Commits (get : Transaction ControlPlane) s Q :=
  Commits.pure h

theorem Commits.imp {Q' : α → ControlPlane → Prop} {m : Transaction α} (h : Commits m s Q)
    (himp : ∀ a t, Q a t → Q' a t) : Commits m s Q' := by
  rcases h with ⟨a, t, hm, hQ⟩
  exact ⟨a, t, hm, himp a t hQ⟩

end

/-- What an insert does: a new row, where none conflicts with it. -/
structure InsertDone (action : ScheduledAction) (s t : ControlPlane) : Prop where
  old : (∃ existing ∈ s.scheduledActions, action.Conflicts existing) → t = s
  new : (¬ ∃ existing ∈ s.scheduledActions, action.Conflicts existing) →
    t = { s with scheduledActions := s.scheduledActions ++ [action] }

theorem Commits.insert (action : ScheduledAction) (s : ControlPlane) :
    Commits (insertScheduledAction action) s fun _ t => InsertDone action s t := by
  by_cases hconflict : ∃ existing ∈ s.scheduledActions, action.Conflicts existing
  · exact ⟨none, s, if_pos hconflict, fun _ => rfl, fun h => absurd hconflict h⟩
  · exact ⟨some action.id, _, if_neg hconflict, fun h => absurd h hconflict, fun _ => rfl⟩

theorem InsertDone.frame {action : ScheduledAction} {s t : ControlPlane}
    (h : InsertDone action s t) : t.schedules = s.schedules ∧ t.targets = s.targets := by
  by_cases hconflict : ∃ existing ∈ s.scheduledActions, action.Conflicts existing
  · rw [h.old hconflict]
    exact ⟨rfl, rfl⟩
  · rw [h.new hconflict]
    exact ⟨rfl, rfl⟩

theorem Commits.update {s : ControlPlane} {id : String}
    (hkeys : UniqueKeys Schedule.id s.schedules) {row : Schedule} (hmem : row ∈ s.schedules)
    (hid : id = row.id) (update : Schedule → Schedule) :
    Commits (updateSchedule id update) s fun _ t => t = { s with
      schedules := updateRows (fun other => decide (other.id = id)) update s.schedules } := by
  refine ⟨(), _, ?_, rfl⟩
  rw [updateSchedule, hid, hkeys.countP hmem]
  rfl

/-- The row of an action, where the library gives the slot. -/
def actionRow (choice : BatchChoice) (schedule : ClaimedScheduleRow) (scheduledAt : Instant)
    (payload : Json String) (slot : ScheduledLocalSlot) : ScheduledAction where
  id := choice.newId schedule.id
  scheduleId := schedule.id
  organizationId := schedule.organizationId
  targetType := schedule.targetType
  targetPayload := payload
  scheduledAt := scheduledAt
  localScheduledDate := slot.localScheduledDate
  localScheduledTime := slot.localScheduledTime

theorem scheduledActionRow_eq {library : CronLibrary} {schedule : ClaimedScheduleRow}
    {scheduledAt : Instant} {slot : ScheduledLocalSlot}
    (hslot : getScheduledLocalSlot library scheduledAt schedule.timezone = .ok slot)
    (choice : BatchChoice) (payload : Json String) :
    scheduledActionRow library choice schedule scheduledAt payload =
      .ok (actionRow choice schedule scheduledAt payload slot) := by
  rw [scheduledActionRow, hslot]
  rfl

/-! ### A schedule that is consumed -/

/-- Whether an action is there already for an occurrence of a schedule or its local slot. -/
def HasAction (library : CronLibrary) (schedule : ClaimedScheduleRow) (scheduledAt : Instant)
    (s : ControlPlane) : Prop :=
  ∃ existing ∈ s.scheduledActions, existing.scheduleId = schedule.id ∧
    (existing.scheduledAt = scheduledAt ∨
      getScheduledLocalSlot library scheduledAt schedule.timezone =
        .ok ⟨existing.localScheduledDate, existing.localScheduledTime⟩)

/-- Where the cursor of a schedule goes: behind the cutoff from within the window, and
otherwise strictly forward to the start of the window. -/
structure CursorMoved (occurrences : Set Instant) (schedule : ClaimedScheduleRow)
    (cutoffMinute : Instant) (s t : ControlPlane) : Prop where
  due : cutoffMinute - schedule.nextScheduledAt ≤ CatchUpWindowMs → ∃ latest next,
    DueRange occurrences schedule.endAt cutoffMinute latest next ∧
    t.schedules = updateRows (fun row => decide (row.id = schedule.id))
      (Schedule.moveCursor next.isSome latest next) s.schedules
  late : CatchUpWindowMs < cutoffMinute - schedule.nextScheduledAt → ∃ skippedUntil next,
    SkippedRange occurrences schedule.endAt (cutoffMinute - CatchUpWindowMs) skippedUntil next ∧
    (∀ run, next = some run → schedule.nextScheduledAt < run) ∧
    t.schedules = updateRows (fun row => decide (row.id = schedule.id))
      (Schedule.moveCursor next.isSome skippedUntil next) s.schedules

/-- What becomes of a schedule: its cursor is moved, and within the window there is one new
action, for the latest occurrence that is due, unless it or its local slot has one. -/
structure Consumed (library : CronLibrary) (occurrences : Set Instant)
    (schedule : ClaimedScheduleRow) (cutoffMinute : Instant) (s t : ControlPlane) : Prop extends
    CursorMoved occurrences schedule cutoffMinute s t where
  rows : cutoffMinute - schedule.nextScheduledAt ≤ CatchUpWindowMs →
    ∀ latest, IsGreatest {run ∈ Within occurrences schedule.endAt | run ≤ cutoffMinute} latest →
    (HasAction library schedule latest s → t.scheduledActions = s.scheduledActions) ∧
    (¬ HasAction library schedule latest s → ∃ action, action.scheduleId = schedule.id ∧
      action.scheduledAt = latest ∧ action.status = .pending ∧
      t.scheduledActions = s.scheduledActions ++ [action])

section

variable {library : CronLibrary} {choice : BatchChoice} {occurrences : Set Instant}
  {schedule : ClaimedScheduleRow} {cutoffMinute : Instant} {s : ControlPlane} {row : Schedule}

/-- A new id leaves the occurrence and its slot as what a row can conflict with. -/
theorem conflicts_actionRow_iff {scheduledAt : Instant} {slot : ScheduledLocalSlot}
    (hslot : getScheduledLocalSlot library scheduledAt schedule.timezone = .ok slot)
    (hfresh : ∀ existing ∈ s.scheduledActions, existing.id ≠ choice.newId schedule.id)
    (payload : Json String) :
    (∃ existing ∈ s.scheduledActions,
      (actionRow choice schedule scheduledAt payload slot).Conflicts existing) ↔
      HasAction library schedule scheduledAt s := by
  rw [HasAction, hslot]
  constructor
  · rintro ⟨existing, hmem, hid | ⟨hschedule, hsame⟩⟩
    · exact absurd hid.symm (hfresh existing hmem)
    · refine ⟨existing, hmem, hschedule.symm, ?_⟩
      rcases hsame with hat | ⟨hdate, htime⟩
      · exact .inl hat.symm
      · exact .inr (by rw [← hdate, ← htime]; rfl)
  · rintro ⟨existing, hmem, hschedule, hsame⟩
    refine ⟨existing, hmem, .inr ⟨hschedule.symm, ?_⟩⟩
    rcases hsame with hat | hslot
    · exact .inl hat.symm
    · rw [Except.ok.injEq] at hslot
      exact .inr ⟨congrArg ScheduledLocalSlot.localScheduledDate hslot,
        congrArg ScheduledLocalSlot.localScheduledTime hslot⟩

/-- A schedule is moved behind an insert. -/
theorem Commits.moveAfter {α : Type} {action : ScheduledAction} {u : ControlPlane}
    {update : Schedule → Schedule} {rest : Transaction α} {Q : ControlPlane → Prop}
    (hkeys : UniqueKeys Schedule.id s.schedules) (hmem : row ∈ s.schedules)
    (hid : schedule.id = row.id) (hinsert : InsertDone action s u)
    (hrest : ∀ t, Q t → Commits rest t fun _ t => Q t)
    (hQ : ∀ t, t.targets = s.targets → t.scheduledActions = u.scheduledActions →
      t.schedules = updateRows (fun other => decide (other.id = schedule.id)) update s.schedules →
      Q t) :
    Commits (updateSchedule schedule.id update >>= fun _ => rest) u fun _ t => Q t := by
  have hframe := hinsert.frame
  rw [← hframe.1] at hkeys hmem
  refine Commits.bind ((Commits.update hkeys hmem hid update).imp fun _ t hupdate => hrest t ?_)
  rw [hupdate]
  exact hQ _ hframe.2 rfl (by rw [hframe.1])

/-- What becomes of a schedule that has a target. -/
theorem consumeClaimedSchedule_resolved {payload : Json String}
    (h : library.Neighbours schedule.cronExpression schedule.timezone occurrences)
    (hkeys : UniqueKeys Schedule.id s.schedules) (hmem : row ∈ s.schedules)
    (hid : schedule.id = row.id)
    (htarget : resolveTargetPayload schedule.id schedule.targetType s = .resolved payload)
    (hnext : schedule.nextScheduledAt ∈ Within occurrences schedule.endAt)
    (hdue : schedule.nextScheduledAt ≤ cutoffMinute) :
    Commits (consumeClaimedSchedule library choice schedule cutoffMinute) s fun _ t =>
      t.targets = s.targets ∧ CursorMoved occurrences schedule cutoffMinute s t ∧
      ((∀ existing ∈ s.scheduledActions, existing.id ≠ choice.newId schedule.id) →
        Consumed library occurrences schedule cutoffMinute s t) := by
  rw [consumeClaimedSchedule]
  refine Commits.bind (Commits.get ?_)
  rw [htarget]
  dsimp only
  split
  · rename_i hlate
    rcases resolveSkippedLateRange_spec h hnext hlate with ⟨range, hrange, hskipped⟩
    rcases h.slot schedule.nextScheduledAt with ⟨slot, hslot⟩
    rw [skipLateScheduleBacklog]
    refine Commits.bind (Commits.lift hrange ?_)
    rw [insertSkippedLateScheduledAction, scheduledActionRow_eq hslot]
    refine Commits.bind (Commits.bind (Commits.lift rfl ((Commits.insert _ s).imp ?_)))
    intro insertedId u hinsert
    rw [updateScheduleCursor]
    refine Commits.moveAfter hkeys hmem hid hinsert (fun t ht => Commits.pure ht) ?_
    intro t htargets hactions hschedules
    have hmoved : CursorMoved occurrences schedule cutoffMinute s t := by
      refine ⟨fun hwithin => absurd hwithin (not_le.mpr hlate), fun _ => ?_⟩
      refine ⟨range.1, range.2, hskipped, fun run hsome => ?_, hschedules⟩
      -- The cursor was before the window, and is in it.
      have hin := ((hskipped.next run).mp hsome).1.1.2
      exact lt_of_lt_of_le (by linarith) hin
    exact ⟨htargets, hmoved, fun _ =>
      ⟨hmoved, fun hwithin => absurd hwithin (not_le.mpr hlate)⟩⟩
  · rename_i hwithin
    rcases resolveDueScheduleRange_spec h hnext hdue (not_lt.mp hwithin) with
      ⟨range, hrange, hrangeDue⟩
    rcases h.slot range.1 with ⟨slot, hslot⟩
    rw [consumeDueRange]
    refine Commits.bind (Commits.lift hrange ?_)
    rw [insertPendingScheduledAction, scheduledActionRow_eq hslot]
    refine Commits.bind (Commits.bind (Commits.lift rfl ((Commits.insert _ s).imp ?_)))
    intro insertedId u hinsert
    rw [updateScheduleCursor]
    refine Commits.moveAfter hkeys hmem hid hinsert (fun t ht => ?_) ?_
    · cases insertedId with
      | none => exact Commits.pure ht
      | some id => exact Commits.pure ht
    · intro t htargets hactions hschedules
      have hmoved : CursorMoved occurrences schedule cutoffMinute s t :=
        ⟨fun _ => ⟨range.1, range.2, hrangeDue, hschedules⟩, fun hlate => absurd hlate hwithin⟩
      refine ⟨htargets, hmoved, fun hfresh => ⟨hmoved, fun _ latest hlatest => ?_⟩⟩
      have hconflicts := conflicts_actionRow_iff hslot hfresh payload
      rw [hlatest.unique hrangeDue.latest]
      constructor
      · intro hthere
        rw [hactions, hinsert.old (hconflicts.mpr hthere)]
      · intro hnone
        refine ⟨actionRow choice schedule range.1 payload slot, rfl, rfl, rfl, ?_⟩
        rw [hactions, hinsert.new fun hthere => hnone (hconflicts.mp hthere)]

end

/-! ### Every day at nine -/

/-- Nine o'clock of a day. -/
def nineOClock (day : Int) : Int := day * DayMs + 9 * HourMs

/-- Nine o'clock of every day. -/
def nineOClocks : Set Instant := {instant | ∃ day, instant = nineOClock day}

theorem nineOClock_le {day day' : Int} (h : day ≤ day') : nineOClock day ≤ nineOClock day' := by
  simp only [nineOClock, DayMs, HourMs]
  omega

theorem nineOClock_apart {day day' : Int} (h : nineOClock day < nineOClock day') :
    nineOClock day + MinuteMs ≤ nineOClock day' := by
  simp only [nineOClock, DayMs, HourMs, MinuteMs] at *
  omega

theorem nineOClock_lt_iff {day day' : Int} : nineOClock day < nineOClock day' ↔ day < day' := by
  simp only [nineOClock, DayMs, HourMs]
  omega

/-- The day that an instant is before nine o'clock of. -/
theorem lt_nineOClock_iff {after day : Int} :
    after < nineOClock day ↔ (after - 9 * HourMs) / DayMs + 1 ≤ day := by
  simp only [nineOClock, DayMs, HourMs]
  omega

/-- The last day whose nine o'clock is before an instant. -/
def lastDayBefore (reference : Int) : Int := (reference - 9 * HourMs - 1) / DayMs

theorem nineOClock_lt_iff_le {day reference : Int} :
    nineOClock day < reference ↔ day ≤ lastDayBefore reference := by
  simp only [nineOClock, lastDayBefore, DayMs, HourMs]
  omega

theorem nineEveryDay_accepts :
    createPausedScheduleCron nineEveryDay "0 9 * * *" "UTC" = .ok () := by
  decide +kernel

theorem nineEveryDay_previousRuns (count : Nat) (reference : Int) :
    nineEveryDay.previousRuns "0 9 * * *" "UTC" count reference =
      (List.range count).map fun i : Nat => nineOClock (lastDayBefore reference - i) := by
  change ((List.range count).flatMap fun i : Nat => [(i : Int)]).map _ = _
  rw [List.map_flatMap]
  exact List.flatMap_pure_eq_map _ _

/-- The library answers with the neighbours among these. -/
theorem nineEveryDay_neighbours :
    nineEveryDay.Neighbours "0 9 * * *" "UTC" nineOClocks where
  accepts := nineEveryDay_accepts
  formats instant := ⟨_, rfl⟩
  apart := by
    rintro a ⟨day, rfl⟩ b ⟨day', rfl⟩ hlt
    exact nineOClock_apart hlt
  next after run := by
    have hleast : IsLeast {other ∈ nineOClocks | after < other}
        (nineOClock ((after - 9 * HourMs) / DayMs + 1)) := by
      refine ⟨⟨⟨_, rfl⟩, lt_nineOClock_iff.mpr le_rfl⟩, ?_⟩
      rintro other ⟨⟨day, rfl⟩, hlt⟩
      exact nineOClock_le (lt_nineOClock_iff.mp hlt)
    change some (nineOClock ((after - 9 * HourMs) / DayMs + 1)) = some run ↔ _
    rw [Option.some.injEq]
    exact ⟨fun heq => heq ▸ hleast, fun h => hleast.unique h⟩
  previous_sorted count reference := by
    rw [nineEveryDay_previousRuns]
    refine List.pairwise_map.mpr (List.pairwise_lt_range.imp fun {i j} hij => ?_)
    exact nineOClock_lt_iff.mpr (by omega)
  previous_before count reference run hmem := by
    rw [nineEveryDay_previousRuns, List.mem_map] at hmem
    rcases hmem with ⟨i, _, rfl⟩
    exact ⟨⟨_, rfl⟩, nineOClock_lt_iff_le.mpr (by omega)⟩
  previous_latest count reference := by
    rintro run ⟨day, rfl⟩ hlt
    have hday := nineOClock_lt_iff_le.mp hlt
    rw [nineEveryDay_previousRuns]
    by_cases hcount : lastDayBefore reference - day < count
    · refine .inl (List.mem_map.mpr ⟨(lastDayBefore reference - day).toNat,
        List.mem_range.mpr (by omega), congrArg nineOClock (by omega)⟩)
    · refine .inr ⟨by rw [List.length_map, List.length_range], fun other hmem => ?_⟩
      rcases List.mem_map.mp hmem with ⟨i, hi, rfl⟩
      have hlt := List.mem_range.mp hi
      exact nineOClock_lt_iff.mpr (by omega)

end Mistle
