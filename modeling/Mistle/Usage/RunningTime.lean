import Mathlib.MeasureTheory.Measure.Lebesgue.Basic
import Mathlib.MeasureTheory.Measure.Real
import Mistle.Usage.Aggregation

/-!
# Running Time and Counted Hours

An instance runs, in a generation of its compute, from a start until it stops, fails or
is replaced. So it runs at an instant when the latest of these events is a start, and the
time that it runs in the period is a set of instants, which has a measure.

The measure is the sum over all starts, each with the time until the next event. What is
counted is the sum over those whose next event is no start: a start that follows a start
takes its place, and with it the time between the two.

The days have what is counted when none of it is before the first of them. The first is
made out of what the start of the period shows, and for the years from 0 to 99 that is a
day of the twentieth century.

## Main definitions

* `Running`, `runningTime`: The instants at which an instance runs.
* `groupHours`: The hours counted for an instance and a generation.
* `ConservesTime`: All hours are there, in all places.
* `ReplacedWhileRunning`, `CountedInFull`: When they are.

## Theorems

* `measure_periodRunning`, `hoursOfGroup_eq`: Both are sums over starts.
* `lost_eq_zero_iff`: They differ by the starts that are replaced.
* `conservesTime_iff`: All hours are there exactly when no start is replaced while it runs.
-/

namespace Mistle

open MeasureTheory

/-- A start or an end of a runtime. -/
def SandboxUsageEventRow.isBoundary (event : SandboxUsageEventRow) : Bool :=
  event.isStart || event.isTerminal

/-- The latest boundary is a start, and where no end follows the request is still to come. -/
def Running (requestedAt : Int) (events : List SandboxUsageEventRow) (t : ℝ) : Prop :=
  ∃ before start after, events = before ++ start :: after ∧ start.isStart = true ∧
    (start.occurredAt : ℝ) ≤ t ∧
    (∀ event ∈ after, event.isBoundary = true → t < event.occurredAt) ∧
    ((∀ event ∈ after, event.isTerminal = false) → t < requestedAt)

section

variable (input : SandboxUsageAggregateInput)

/-- The events of an instance and a generation, in the order of time. -/
def eventsOf (id : String) (generation : Nat) : List SandboxUsageEventRow :=
  sortByTime (input.events.filter (SandboxUsageEventRow.isOf id generation))

/-- The instants of the period at which events have an instance running. -/
def periodRunning (events : List SandboxUsageEventRow) : Set ℝ :=
  {t | (input.periodStart : ℝ) ≤ t ∧ t < input.periodEnd ∧ Running input.requestedAt events t}

def runningTime (id : String) (generation : Nat) : Set ℝ :=
  periodRunning input (eventsOf input id generation)

/-- What the summary gains by a group. -/
def hoursOfGroup (events : List SandboxUsageEventRow) : ℚ :=
  ((UsageTally.start sandboxUsageActivities input).addGroup input events).summary.sandboxHours

/-- The hours counted for an instance and a generation. -/
def groupHours (id : String) (generation : Nat) : ℚ :=
  hoursOfGroup input
    (((groupEventsByIntervalKey input.events).get? (intervalKey id generation)).getD [])

/-- The hours of an instance and a generation are the measure of the time it runs, the
summary is their sum, and days, profiles and activities have what the summary has. -/
structure ConservesTime (localeCompare : String → String → Int) : Prop where
  measured : ∀ id ∈ input.instancesById.keys, ∀ generation,
    (groupHours input id generation : ℝ) * millisecondsPerHour =
      volume.real (runningTime input id generation)
  summed : (aggregateSandboxUsage sandboxUsageActivities input localeCompare).summary.sandboxHours =
    ((groupEventsByIntervalKey input.events).values.map (hoursOfGroup input)).sum
  daily : ((aggregateSandboxUsage sandboxUsageActivities input localeCompare).dailyUsage.map
      fun row => row.2.sandboxHours).sum =
    (aggregateSandboxUsage sandboxUsageActivities input localeCompare).summary.sandboxHours
  profiles : ((aggregateSandboxUsage sandboxUsageActivities input localeCompare).profileBreakdown.map
      fun row => row.2.sandboxHours).sum =
    (aggregateSandboxUsage sandboxUsageActivities input localeCompare).summary.sandboxHours
  activities :
    ((aggregateSandboxUsage sandboxUsageActivities input localeCompare).activityBreakdown.map
      fun row => row.2.sandboxHours).sum =
    (aggregateSandboxUsage sandboxUsageActivities input localeCompare).summary.sandboxHours

/-- Where the time of a start ends at the latest: with the period, and with the request
where no end follows. -/
def openEnd (after : List SandboxUsageEventRow) : Int :=
  if after.any SandboxUsageEventRow.isTerminal then input.periodEnd
  else min input.periodEnd input.requestedAt

/-- A start is followed by a start, and some time of the period is between them. -/
def ReplacedWhileRunning (events : List SandboxUsageEventRow) : Prop :=
  ∃ before start between next after,
    events = before ++ start :: (between ++ next :: after) ∧
    start.isStart = true ∧ next.isStart = true ∧
    (∀ event ∈ between, event.isBoundary = false) ∧
    max start.occurredAt input.periodStart < min next.occurredAt (openEnd input after)

/-- No start of a known instance is replaced while it runs, and none runs before the first
day. -/
structure CountedInFull : Prop where
  single : ∀ id ∈ input.instancesById.keys, ∀ generation,
    ¬ ReplacedWhileRunning input (eventsOf input id generation)
  first : ∀ id ∈ input.instancesById.keys, ∀ generation, ∀ t ∈ runningTime input id generation,
    (startOfUtcDay input.periodStart : ℝ) ≤ t

/-! ### Spans -/

/-- Where the time of a start ends. -/
def startEnd (after : List SandboxUsageEventRow) : Int :=
  min (((after.find? SandboxUsageEventRow.isBoundary).map
    SandboxUsageEventRow.occurredAt).getD input.periodEnd) (openEnd input after)

/-- The next boundary is a start. -/
def isReplaced (after : List SandboxUsageEventRow) : Bool :=
  (after.find? SandboxUsageEventRow.isBoundary).any SandboxUsageEventRow.isStart

/-- The times of the starts that are kept, by what follows them. -/
def spans (keep : List SandboxUsageEventRow → Bool) : List SandboxUsageEventRow → List (Int × Int)
  | [] => []
  | start :: after =>
    if start.isStart && keep after then
      (max start.occurredAt input.periodStart, startEnd input after) :: spans keep after
    else spans keep after

end

def spanLength (span : Int × Int) : Int := max 0 (span.2 - span.1)

def totalLength (spans : List (Int × Int)) : Int := (spans.map spanLength).sum

theorem totalLength_spans_cons (input : SandboxUsageAggregateInput)
    (keep : List SandboxUsageEventRow → Bool) (start : SandboxUsageEventRow)
    (after : List SandboxUsageEventRow) :
    totalLength (spans input keep (start :: after)) =
      (if start.isStart && keep after then
        spanLength (max start.occurredAt input.periodStart, startEnd input after) else 0) +
      totalLength (spans input keep after) := by
  rw [spans]
  split
  · rw [totalLength, List.map_cons, List.sum_cons]
    rfl
  · rw [zero_add]

/-- What runs is what is counted and what is lost. -/
theorem totalLength_spans (input : SandboxUsageAggregateInput)
    (events : List SandboxUsageEventRow) :
    totalLength (spans input (fun _ => true) events) =
      totalLength (spans input (fun after => !isReplaced after) events) +
        totalLength (spans input isReplaced events) := by
  induction events with
  | nil => rfl
  | cons start after ih =>
      rw [totalLength_spans_cons, totalLength_spans_cons, totalLength_spans_cons, ih]
      generalize hreplaced : isReplaced after = replaced
      cases start.isStart with
      | false => exact (zero_add _).trans (congrArg₂ _ (zero_add _).symm (zero_add _).symm)
      | true =>
          cases replaced with
          | false =>
              rw [Bool.not_false, Bool.and_self, Bool.and_false, if_pos rfl,
                if_neg Bool.false_ne_true]
              omega
          | true =>
              rw [Bool.not_true, Bool.and_self, Bool.and_false, if_pos rfl,
                if_neg Bool.false_ne_true]
              omega

theorem totalLength_nonneg (spans : List (Int × Int)) : 0 ≤ totalLength spans := by
  refine List.sum_nonneg fun length hmem => ?_
  rcases List.mem_map.mp hmem with ⟨span, _, hlength⟩
  rw [← hlength]
  exact le_max_left _ _

/-- A start is no end. -/
theorem isTerminal_of_isStart {event : SandboxUsageEventRow} (h : event.isStart = true) :
    event.isTerminal = false := by
  rw [SandboxUsageEventRow.isStart] at h
  rw [SandboxUsageEventRow.isTerminal]
  generalize event.eventType = eventType at h ⊢
  cases eventType with
  | sandboxAllocated => rfl
  | sandboxResumed => rfl
  | sandboxReady => rfl
  | sandboxStopped => exact absurd h (by decide)
  | sandboxFailed => exact absurd h (by decide)
  | sandboxReplaced => exact absurd h (by decide)

/-- A start is replaced when the next boundary is a start, behind events that are none. -/
theorem isReplaced_iff {after : List SandboxUsageEventRow} :
    isReplaced after = true ↔ ∃ between next after', after = between ++ next :: after' ∧
      next.isStart = true ∧ ∀ event ∈ between, event.isBoundary = false := by
  rw [isReplaced, Option.any_eq_true]
  constructor
  · rintro ⟨next, hfind, hstart⟩
    rcases List.find?_eq_some_iff_append.mp hfind with ⟨_, between, after', hsplit, hbetween⟩
    refine ⟨between, next, after', hsplit, hstart, fun event hmem => ?_⟩
    simpa using hbetween event hmem
  · rintro ⟨between, next, after', hsplit, hstart, hbetween⟩
    refine ⟨next, List.find?_eq_some_iff_append.mpr ⟨?_, between, after', hsplit, ?_⟩, hstart⟩
    · rw [SandboxUsageEventRow.isBoundary, hstart, Bool.true_or]
    · intro event hmem
      rw [hbetween event hmem]
      rfl

/-- The time of a start that is replaced ends with the next. -/
theorem startEnd_of_replaced (input : SandboxUsageAggregateInput)
    {between after : List SandboxUsageEventRow} {next : SandboxUsageEventRow}
    (hnext : next.isStart = true) (hbetween : ∀ event ∈ between, event.isBoundary = false) :
    startEnd input (between ++ next :: after) = min next.occurredAt (openEnd input after) := by
  have hboundary : next.isBoundary = true := by
    rw [SandboxUsageEventRow.isBoundary, hnext, Bool.true_or]
  have hnone : between.find? SandboxUsageEventRow.isBoundary = none := by
    rw [List.find?_eq_none]
    intro event hmem
    rw [hbetween event hmem]
    exact Bool.false_ne_true
  have hopen : between.any SandboxUsageEventRow.isTerminal = false := by
    rw [List.any_eq_false]
    intro event hmem hterminal
    have hneither := hbetween event hmem
    rw [SandboxUsageEventRow.isBoundary, hterminal, Bool.or_true] at hneither
    exact Bool.noConfusion hneither
  have hend : openEnd input (between ++ next :: after) = openEnd input after := by
    rw [openEnd, List.any_append, List.any_cons, hopen, isTerminal_of_isStart hnext, Bool.false_or,
      Bool.false_or]
    rfl
  rw [startEnd, hend, List.find?_append, hnone, List.find?_cons_of_pos hboundary]
  rfl

/-- The first start that is replaced is the first event, or one behind it. -/
theorem replacedWhileRunning_cons (input : SandboxUsageAggregateInput)
    (start : SandboxUsageEventRow) (after : List SandboxUsageEventRow) :
    ReplacedWhileRunning input (start :: after) ↔
      (start.isStart = true ∧ isReplaced after = true ∧
        max start.occurredAt input.periodStart < startEnd input after) ∨
      ReplacedWhileRunning input after := by
  constructor
  · rintro ⟨before, start', between, next, after', hsplit, hstart, hnext, hbetween, hlt⟩
    rcases List.cons_eq_append_iff.mp hsplit with ⟨_, hhead⟩ | ⟨before', _, htail⟩
    · injection hhead with hhead hafter
      rw [← startEnd_of_replaced input hnext hbetween, hafter, hhead] at hlt
      rw [hhead] at hstart
      exact .inl ⟨hstart, isReplaced_iff.mpr ⟨between, next, after', hafter.symm, hnext, hbetween⟩,
        hlt⟩
    · exact .inr ⟨before', start', between, next, after', htail, hstart, hnext, hbetween, hlt⟩
  · rintro (⟨hstart, hreplaced, hlt⟩ | ⟨before, start', between, next, after', hsplit, hrest⟩)
    · rcases isReplaced_iff.mp hreplaced with ⟨between, next, after', hsplit, hnext, hbetween⟩
      rw [hsplit, startEnd_of_replaced input hnext hbetween] at hlt
      exact ⟨[], start, between, next, after', by rw [hsplit]; rfl, hstart, hnext, hbetween, hlt⟩
    · exact ⟨start :: before, start', between, next, after', by rw [hsplit]; rfl, hrest⟩

theorem spanLength_eq_zero_iff {a b : Int} : spanLength (a, b) = 0 ↔ ¬ a < b := by
  rw [spanLength]
  omega

/-- Nothing is lost exactly when no start is replaced while it runs. -/
theorem lost_eq_zero_iff (input : SandboxUsageAggregateInput)
    (events : List SandboxUsageEventRow) :
    totalLength (spans input isReplaced events) = 0 ↔ ¬ ReplacedWhileRunning input events := by
  induction events with
  | nil =>
      refine iff_of_true rfl ?_
      rintro ⟨before, start, between, next, after, hsplit, _⟩
      exact absurd hsplit.symm (List.append_ne_nil_of_right_ne_nil _ (List.cons_ne_nil _ _))
  | cons start after ih =>
      have hrest := totalLength_nonneg (spans input isReplaced after)
      rw [totalLength_spans_cons, replacedWhileRunning_cons, not_or, ← ih]
      split
      · rename_i hkept
        rw [Bool.and_eq_true] at hkept
        rw [and_iff_right hkept.1, and_iff_right hkept.2, ← spanLength_eq_zero_iff]
        have hlength : 0 ≤ spanLength (max start.occurredAt input.periodStart,
          startEnd input after) := le_max_left _ _
        omega
      · rename_i hkept
        have hother : ¬ (start.isStart = true ∧ isReplaced after = true ∧
            max start.occurredAt input.periodStart < startEnd input after) := by
          rintro ⟨hstart, hreplaced, _⟩
          exact hkept (by rw [hstart, hreplaced]; rfl)
        rw [zero_add, and_iff_right hother]

/-! ### The measure -/

/-- In the order of time, what is before the first boundary is before all. -/
theorem lt_boundaries_iff {after : List SandboxUsageEventRow}
    (hsorted : after.Pairwise fun a b => a.occurredAt ≤ b.occurredAt) (t : ℝ) :
    (∀ first, after.find? SandboxUsageEventRow.isBoundary = some first → t < first.occurredAt) ↔
      ∀ event ∈ after, event.isBoundary = true → t < event.occurredAt := by
  constructor
  · intro hfirst event hmem hboundary
    cases hfind : after.find? SandboxUsageEventRow.isBoundary with
    | none => exact absurd hboundary (List.find?_eq_none.mp hfind event hmem)
    | some first =>
        rcases List.find?_eq_some_iff_append.mp hfind with ⟨_, before, rest, hsplit, hbefore⟩
        rw [hsplit] at hmem hsorted
        rcases List.mem_append.mp hmem with hearlier | hlater
        · have hnone := hbefore event hearlier
          rw [hboundary] at hnone
          exact absurd hnone Bool.false_ne_true
        · have hlt := hfirst first hfind
          rcases List.mem_cons.mp hlater with heq | hrest
          · rw [heq]
            exact hlt
          · have hle := (List.pairwise_cons.mp (List.pairwise_append.mp hsorted).2.1).1 event hrest
            exact lt_of_lt_of_le hlt (Int.cast_le.mpr hle)
  · intro hall first hfind
    exact hall first (List.mem_of_find?_eq_some hfind) (List.find?_some hfind)

/-- Before the end of a start: in the period, before all boundaries, and before the request
where no end follows. -/
theorem lt_startEnd_iff (input : SandboxUsageAggregateInput) {after : List SandboxUsageEventRow}
    (hsorted : after.Pairwise fun a b => a.occurredAt ≤ b.occurredAt) (t : ℝ) :
    t < (startEnd input after : Int) ↔ t < input.periodEnd ∧
      (∀ event ∈ after, event.isBoundary = true → t < event.occurredAt) ∧
      ((∀ event ∈ after, event.isTerminal = false) → t < input.requestedAt) := by
  have hopen : t < (openEnd input after : Int) ↔ t < input.periodEnd ∧
      ((∀ event ∈ after, event.isTerminal = false) → t < input.requestedAt) := by
    rw [openEnd]
    split
    · rename_i hany
      rcases List.any_eq_true.mp hany with ⟨event, hmem, hterminal⟩
      refine (and_iff_left fun hnone => ?_).symm
      rw [hnone event hmem] at hterminal
      exact absurd hterminal Bool.false_ne_true
    · rename_i hany
      rw [Bool.not_eq_true, List.any_eq_false] at hany
      have hnone : ∀ event ∈ after, event.isTerminal = false := fun event hmem =>
        Bool.eq_false_iff.mpr (hany event hmem)
      rw [Int.cast_min, lt_min_iff]
      exact and_congr_right' ⟨fun h _ => h, fun h => h hnone⟩
  rw [startEnd, Int.cast_min, lt_min_iff, hopen, ← lt_boundaries_iff hsorted]
  cases after.find? SandboxUsageEventRow.isBoundary with
  | none =>
      rw [Option.map_none, Option.getD_none]
      constructor
      · rintro ⟨_, hend, hrequest⟩
        exact ⟨hend, fun first h => absurd h.symm (Option.some_ne_none first), hrequest⟩
      · rintro ⟨hend, _, hrequest⟩
        exact ⟨hend, hend, hrequest⟩
  | some first =>
      rw [Option.map_some, Option.getD_some]
      constructor
      · rintro ⟨hfirst, hend, hrequest⟩
        refine ⟨hend, fun first' h => ?_, hrequest⟩
        rw [← Option.some.inj h]
        exact hfirst
      · rintro ⟨hend, hfirst, hrequest⟩
        exact ⟨hfirst first rfl, hend, hrequest⟩

/-- The instants of a span. -/
def spanTime (span : Int × Int) : Set ℝ := Set.Ico span.1 span.2

theorem measure_spanTime (span : Int × Int) :
    volume.real (spanTime span) = (spanLength span : Int) := by
  rw [spanTime, Real.volume_real_Ico, spanLength, Int.cast_max, Int.cast_sub, Int.cast_zero, max_comm]

/-- What runs from the first event, and what runs from those behind it. -/
theorem periodRunning_cons (input : SandboxUsageAggregateInput) {start : SandboxUsageEventRow}
    {after : List SandboxUsageEventRow}
    (hsorted : (start :: after).Pairwise fun a b => a.occurredAt ≤ b.occurredAt) :
    periodRunning input (start :: after) =
      (if start.isStart then
        spanTime (max start.occurredAt input.periodStart, startEnd input after) else ∅) ∪
      periodRunning input after := by
  ext t
  have hspan : start.isStart = true → (t ∈ spanTime (max start.occurredAt input.periodStart,
      startEnd input after) ↔ ((input.periodStart : ℝ) ≤ t ∧ t < input.periodEnd ∧
        (start.occurredAt : ℝ) ≤ t ∧
        (∀ event ∈ after, event.isBoundary = true → t < event.occurredAt) ∧
        ((∀ event ∈ after, event.isTerminal = false) → t < input.requestedAt))) := by
    intro hstart
    rw [spanTime, Set.mem_Ico, lt_startEnd_iff input (List.pairwise_cons.mp hsorted).2,
      Int.cast_max, max_le_iff]
    tauto
  constructor
  · rintro ⟨hfrom, hto, before, start', after', hsplit, hstart, hrest⟩
    rcases List.cons_eq_append_iff.mp hsplit with ⟨_, hhead⟩ | ⟨before', _, htail⟩
    · injection hhead with hhead hafter
      rw [hhead] at hstart hrest
      rw [hafter] at hrest
      rw [if_pos hstart]
      exact .inl ((hspan hstart).mpr ⟨hfrom, hto, hrest⟩)
    · exact .inr ⟨hfrom, hto, before', start', after', htail, hstart, hrest⟩
  · rintro (hmine | ⟨hfrom, hto, before, start', after', hsplit, hrest⟩)
    · by_cases hstart : start.isStart = true
      · rw [if_pos hstart] at hmine
        rcases (hspan hstart).mp hmine with ⟨hfrom, hto, hrest⟩
        exact ⟨hfrom, hto, [], start, after, rfl, hstart, hrest⟩
      · rw [if_neg hstart] at hmine
        exact absurd hmine (Set.notMem_empty t)
    · exact ⟨hfrom, hto, start :: before, start', after', by rw [hsplit]; rfl, hrest⟩

/-- What runs is the time of the starts. -/
theorem mem_periodRunning_iff (input : SandboxUsageAggregateInput)
    {events : List SandboxUsageEventRow}
    (hsorted : events.Pairwise fun a b => a.occurredAt ≤ b.occurredAt) (t : ℝ) :
    t ∈ periodRunning input events ↔
      ∃ span ∈ spans input (fun _ => true) events, t ∈ spanTime span := by
  induction events with
  | nil =>
      constructor
      · rintro ⟨_, _, before, start, after, hsplit, _⟩
        exact absurd hsplit.symm (List.append_ne_nil_of_right_ne_nil _ (List.cons_ne_nil _ _))
      · rintro ⟨span, hmem, _⟩
        exact absurd hmem List.not_mem_nil
  | cons start after ih =>
      rw [periodRunning_cons input hsorted, Set.mem_union, ih (List.pairwise_cons.mp hsorted).2,
        spans, Bool.and_true]
      split
      · rw [List.exists_mem_cons_iff]
      · exact or_iff_right (Set.notMem_empty t)

/-- The measure of the time that runs is the sum over the starts. -/
theorem measure_periodRunning (input : SandboxUsageAggregateInput)
    {events : List SandboxUsageEventRow}
    (hsorted : events.Pairwise fun a b => a.occurredAt ≤ b.occurredAt) :
    MeasurableSet (periodRunning input events) ∧
      volume.real (periodRunning input events) =
        (totalLength (spans input (fun _ => true) events) : Int) := by
  induction events with
  | nil =>
      have hempty : periodRunning input [] = ∅ := by
        refine Set.eq_empty_of_forall_notMem fun t hmem => ?_
        rcases (mem_periodRunning_iff input hsorted t).mp hmem with ⟨span, hspan, _⟩
        exact absurd hspan List.not_mem_nil
      rw [hempty]
      exact ⟨MeasurableSet.empty, by rw [measureReal_empty]; exact Int.cast_zero.symm⟩
  | cons start after ih =>
      have htail := (List.pairwise_cons.mp hsorted).2
      have hrest := ih htail
      rw [periodRunning_cons input hsorted, totalLength_spans_cons, Bool.and_true]
      split
      · -- A later start has its time behind the next boundary.
        have hdisjoint : Disjoint
            (spanTime (max start.occurredAt input.periodStart, startEnd input after))
            (periodRunning input after) := by
          rw [Set.disjoint_left]
          rintro t hmine ⟨_, _, before, start', after', hsplit, hstart, hle, _⟩
          have hbefore := ((lt_startEnd_iff input htail t).mp hmine.2).2.1 start'
            (by rw [hsplit]; exact List.mem_append_right _ List.mem_cons_self)
            (by rw [SandboxUsageEventRow.isBoundary, hstart, Bool.true_or])
          exact absurd hbefore (not_lt.mpr hle)
        refine ⟨measurableSet_Ico.union hrest.1, ?_⟩
        have hfinite : volume (periodRunning input after) ≠ ⊤ := by
          have hsubset : periodRunning input after ⊆ Set.Ico input.periodStart input.periodEnd :=
            fun t ht => ⟨ht.1, ht.2.1⟩
          exact measure_ne_top_of_subset hsubset measure_Ico_lt_top.ne
        rw [measureReal_union hdisjoint hrest.1 measure_Ico_lt_top.ne hfinite, hrest.2,
          measure_spanTime, Int.cast_add]
      · rw [Set.empty_union, zero_add]
        exact hrest

/-! ### The count -/

/-- The part of an interval that is in the period. -/
def clip (input : SandboxUsageAggregateInput) (interval : ResolvedRuntimeInterval) : Int × Int :=
  (clippedStart input interval, clippedEnd input interval)

/-- The intervals at the end, where an open start has one more. -/
def closeIntervals (state : List ResolvedRuntimeInterval × Option SandboxUsageEventRow) :
    List ResolvedRuntimeInterval :=
  match state.2 with
  | none => state.1
  | some openStart => state.1 ++ [createRuntimeInterval openStart none]

/-- The intervals so far stay before those to come. -/
theorem closeIntervals_foldl (events : List SandboxUsageEventRow)
    (intervals : List ResolvedRuntimeInterval) (openStart : Option SandboxUsageEventRow) :
    closeIntervals (events.foldl pairEvent (intervals, openStart)) =
      intervals ++ closeIntervals (events.foldl pairEvent ([], openStart)) := by
  induction events generalizing intervals openStart with
  | nil =>
      cases openStart with
      | none => exact (List.append_nil intervals).symm
      | some start => rfl
  | cons event events ih =>
      have hpair : ∃ more openStart', ∀ intervals : List ResolvedRuntimeInterval,
          pairEvent (intervals, openStart) event = (intervals ++ more, openStart') := by
        by_cases hstart : event.isStart = true
        · refine ⟨[], some event, fun intervals => ?_⟩
          rw [pairEvent, if_pos hstart, List.append_nil]
        · cases openStart with
          | none =>
              refine ⟨[], none, fun intervals => ?_⟩
              rw [pairEvent, if_neg hstart, List.append_nil]
          | some start =>
              by_cases hterminal : event.isTerminal = true
              · refine ⟨[createRuntimeInterval start (some event)], none, fun intervals => ?_⟩
                rw [pairEvent, if_neg hstart]
                exact if_pos hterminal
              · refine ⟨[], some start, fun intervals => ?_⟩
                rw [pairEvent, if_neg hstart, List.append_nil]
                exact if_neg hterminal
      rcases hpair with ⟨more, openStart', hpair⟩
      rw [List.foldl_cons, List.foldl_cons, hpair, hpair, ih, List.nil_append, ih more,
        List.append_assoc]

/-- What is counted of an open start: its time, where it is not replaced. -/
def openSpans (input : SandboxUsageAggregateInput) (openStart : Option SandboxUsageEventRow)
    (events : List SandboxUsageEventRow) : List (Int × Int) :=
  match openStart with
  | none => []
  | some start =>
    if isReplaced events then []
    else [(max start.occurredAt input.periodStart, startEnd input events)]

/-- An event that is no boundary changes nothing for the events before it. -/
theorem openSpans_of_other (input : SandboxUsageAggregateInput)
    (openStart : Option SandboxUsageEventRow) {event : SandboxUsageEventRow}
    (events : List SandboxUsageEventRow) (hstart : event.isStart = false)
    (hterminal : event.isTerminal = false) :
    openSpans input openStart (event :: events) = openSpans input openStart events := by
  have hother : ¬ event.isBoundary = true := by
    rw [SandboxUsageEventRow.isBoundary, hstart, hterminal]
    decide
  cases openStart with
  | none => rfl
  | some start =>
      rw [openSpans, openSpans, isReplaced, isReplaced, startEnd, startEnd, openEnd, openEnd,
        List.find?_cons_of_neg hother, List.any_cons, hterminal, Bool.false_or]

theorem map_clip_closeIntervals (input : SandboxUsageAggregateInput)
    (events : List SandboxUsageEventRow) (openStart : Option SandboxUsageEventRow) :
    (closeIntervals (events.foldl pairEvent ([], openStart))).map (clip input) =
      openSpans input openStart events ++
        spans input (fun after => !isReplaced after) events := by
  induction events generalizing openStart with
  | nil =>
      cases openStart with
      | none => rfl
      | some start =>
          have hopen : clippedEnd input (createRuntimeInterval start none) = startEnd input [] :=
            min_comm _ _
          exact congrArg (fun last => [(max start.occurredAt input.periodStart, last)]) hopen
  | cons event events ih =>
      rw [List.foldl_cons, pairEvent]
      cases hstart : event.isStart with
      | true =>
          -- What was open is replaced.
          have hboundary : event.isBoundary = true := by
            rw [SandboxUsageEventRow.isBoundary, hstart, Bool.true_or]
          have hreplaced : isReplaced (event :: events) = true := by
            rw [isReplaced, List.find?_cons_of_pos hboundary]
            exact hstart
          have hnone : openSpans input openStart (event :: events) = [] := by
            cases openStart with
            | none => rfl
            | some start => rw [openSpans, if_pos hreplaced]
          rw [if_pos rfl, ih, hnone, List.nil_append, openSpans, spans, hstart, Bool.true_and]
          cases isReplaced events with
          | true => rfl
          | false => rfl
      | false =>
          have hskip : spans input (fun after => !isReplaced after) (event :: events) =
              spans input (fun after => !isReplaced after) events := by
            rw [spans, hstart]
            rfl
          rw [if_neg Bool.false_ne_true, hskip]
          cases openStart with
          | none => exact ih none
          | some start =>
              cases hterminal : event.isTerminal with
              | true =>
                  have hboundary : event.isBoundary = true := by
                    rw [SandboxUsageEventRow.isBoundary, hterminal, Bool.or_true]
                  have hkept : isReplaced (event :: events) = false := by
                    rw [isReplaced, List.find?_cons_of_pos hboundary]
                    exact hstart
                  have hend : clippedEnd input (createRuntimeInterval start (some event)) =
                      startEnd input (event :: events) := by
                    rw [startEnd, openEnd, List.find?_cons_of_pos hboundary, List.any_cons,
                      hterminal]
                    rfl
                  have hclip : clip input (createRuntimeInterval start (some event)) =
                      (max start.occurredAt input.periodStart, startEnd input (event :: events)) :=
                    congrArg (Prod.mk _) hend
                  have hopen : openSpans input (some start) (event :: events) =
                      [(max start.occurredAt input.periodStart, startEnd input (event :: events))] := by
                    rw [openSpans, hkept, if_neg Bool.false_ne_true]
                  dsimp only
                  rw [if_pos rfl, closeIntervals_foldl, List.map_append, ih, hopen, List.nil_append,
                    List.map_cons, hclip]
                  rfl
              | false =>
                  dsimp only
                  rw [if_neg Bool.false_ne_true, ih,
                    openSpans_of_other input (some start) events hstart hterminal]

/-- The intervals have the time of the starts that are not replaced. -/
theorem map_clip_resolveRuntimeIntervals (input : SandboxUsageAggregateInput)
    (events : List SandboxUsageEventRow) :
    (resolveRuntimeIntervals events).map (clip input) =
      spans input (fun after => !isReplaced after) events :=
  map_clip_closeIntervals input events none

theorem sortByTime_sorted (events : List SandboxUsageEventRow) :
    (sortByTime events).Pairwise fun a b => a.occurredAt ≤ b.occurredAt := by
  have htrans : ∀ a b c : SandboxUsageEventRow, decide (a.occurredAt ≤ b.occurredAt) = true →
      decide (b.occurredAt ≤ c.occurredAt) = true → decide (a.occurredAt ≤ c.occurredAt) = true :=
    fun _ _ _ hab hbc => decide_eq_true (le_trans (of_decide_eq_true hab) (of_decide_eq_true hbc))
  have htotal : ∀ a b : SandboxUsageEventRow,
      (decide (a.occurredAt ≤ b.occurredAt) || decide (b.occurredAt ≤ a.occurredAt)) = true := by
    intro a b
    rw [Bool.or_eq_true, decide_eq_true_eq, decide_eq_true_eq]
    exact le_total _ _
  exact (List.pairwise_mergeSort htrans htotal events).imp of_decide_eq_true

/-- What an event leaves is of the instance that it and what was there are of. -/
theorem instance_of_pairEvent {id : String} {event : SandboxUsageEventRow}
    {state : List ResolvedRuntimeInterval × Option SandboxUsageEventRow}
    (hevent : event.sandboxInstanceId = id)
    (hstate : (∀ interval ∈ state.1, interval.sandboxInstanceId = id) ∧
      ∀ start ∈ state.2, start.sandboxInstanceId = id) :
    (∀ interval ∈ (pairEvent state event).1, interval.sandboxInstanceId = id) ∧
      ∀ start ∈ (pairEvent state event).2, start.sandboxInstanceId = id := by
  rw [pairEvent]
  split
  · refine ⟨hstate.1, fun start hmem => ?_⟩
    rw [← Option.some.inj hmem]
    exact hevent
  · split
    · exact hstate
    · rename_i start hopen
      split
      · refine ⟨fun interval hmem => ?_, fun start hmem => absurd hmem (Option.not_mem_none start)⟩
        rcases List.mem_append.mp hmem with hold | hnew
        · exact hstate.1 interval hold
        · rw [List.mem_singleton.mp hnew]
          exact hstate.2 start hopen
      · exact hstate

/-- The intervals of a group are of its instance. -/
theorem instance_of_mem_resolveRuntimeIntervals {id : String} {events : List SandboxUsageEventRow}
    (hid : ∀ event ∈ events, event.sandboxInstanceId = id) {interval : ResolvedRuntimeInterval}
    (hmem : interval ∈ resolveRuntimeIntervals events) : interval.sandboxInstanceId = id := by
  have hfold : ∀ (events : List SandboxUsageEventRow)
      (state : List ResolvedRuntimeInterval × Option SandboxUsageEventRow),
      (∀ event ∈ events, event.sandboxInstanceId = id) →
      ((∀ interval ∈ state.1, interval.sandboxInstanceId = id) ∧
        ∀ start ∈ state.2, start.sandboxInstanceId = id) →
      (∀ interval ∈ (events.foldl pairEvent state).1, interval.sandboxInstanceId = id) ∧
        ∀ start ∈ (events.foldl pairEvent state).2, start.sandboxInstanceId = id := by
    intro events
    induction events with
    | nil => exact fun _ _ hstate => hstate
    | cons event events ih =>
        intro state hid hstate
        exact ih _ (fun e he => hid e (List.mem_cons_of_mem _ he))
          (instance_of_pairEvent (hid event List.mem_cons_self) hstate)
  have hlast := hfold events ([], none) hid ⟨fun _ h => absurd h List.not_mem_nil,
    fun start h => absurd h (Option.not_mem_none start)⟩
  change interval ∈ closeIntervals (events.foldl pairEvent ([], none)) at hmem
  rw [closeIntervals] at hmem
  split at hmem
  · exact hlast.1 interval hmem
  · rename_i start hopen
    rcases List.mem_append.mp hmem with hold | hnew
    · exact hlast.1 interval hold
    · rw [List.mem_singleton.mp hnew]
      exact hlast.2 start hopen

/-- The hours of an interval of a known instance are those of its part in the period. -/
theorem countedHours_eq (input : SandboxUsageAggregateInput) {interval : ResolvedRuntimeInterval}
    (hknown : interval.sandboxInstanceId ∈ input.instancesById.keys) :
    countedHours input interval * millisecondsPerHour = (spanLength (clip input interval) : Int) := by
  have hhour : (millisecondsPerHour : ℚ) ≠ 0 := by
    rw [millisecondsPerHour]
    norm_num
  rw [countedHours, spanLength, clip]
  by_cases hlt : clippedStart input interval < clippedEnd input interval
  · rw [if_pos ⟨hknown, hlt⟩, hoursBetween, div_mul_cancel₀ _ hhour, max_eq_right (by omega)]
  · rw [if_neg fun hcounts => hlt hcounts.2, zero_mul, max_eq_left (by omega), Int.cast_zero]

/-- The hours of a group of a known instance are the sum over the starts that are kept. -/
theorem hoursOfGroup_eq (input : SandboxUsageAggregateInput) {id : String}
    {events : List SandboxUsageEventRow} (hknown : id ∈ input.instancesById.keys)
    (hid : ∀ event ∈ events, event.sandboxInstanceId = id) :
    hoursOfGroup input events * millisecondsPerHour =
      (totalLength (spans input (fun after => !isReplaced after) events) : Int) := by
  have hsum := ((UsageTally.Balanced.start input).addIntervals (resolveRuntimeIntervals events)).2.1
  have hlength : ∀ intervals : List ResolvedRuntimeInterval,
      (∀ interval ∈ intervals, interval.sandboxInstanceId = id) →
      (intervals.map (countedHours input)).sum * millisecondsPerHour =
        (totalLength (intervals.map (clip input)) : Int) := by
    intro intervals
    induction intervals with
    | nil => exact fun _ => zero_mul _
    | cons interval intervals ih =>
        intro hof
        have hrest := ih fun i hi => hof i (List.mem_cons_of_mem _ hi)
        have hinterval : countedHours input interval * millisecondsPerHour =
            (spanLength (clip input interval) : Int) :=
          countedHours_eq input (by rw [hof interval List.mem_cons_self]; exact hknown)
        rw [List.map_cons, List.sum_cons, add_mul, hrest, hinterval, totalLength, totalLength,
          List.map_cons, List.map_cons, List.sum_cons, Int.cast_add]
  rw [← map_clip_resolveRuntimeIntervals, ← hlength _ fun interval hmem =>
    instance_of_mem_resolveRuntimeIntervals hid hmem, hoursOfGroup, UsageTally.addGroup, hsum]
  exact congrArg (· * (millisecondsPerHour : ℚ)) (zero_add _)

theorem instance_of_mem_eventsOf {input : SandboxUsageAggregateInput} {id : String}
    {generation : Nat} {event : SandboxUsageEventRow} (hmem : event ∈ eventsOf input id generation) :
    event.sandboxInstanceId = id := by
  have hof := (List.mem_filter.mp ((List.mergeSort_perm _ _).mem_iff.mp hmem)).2
  rw [SandboxUsageEventRow.isOf, Bool.and_eq_true, decide_eq_true_eq] at hof
  exact hof.1

/-- The hours of a known instance are measured exactly when no start is replaced. -/
theorem measured_iff (input : SandboxUsageAggregateInput) {id : String}
    (hknown : id ∈ input.instancesById.keys) (generation : Nat) :
    (groupHours input id generation : ℝ) * millisecondsPerHour =
        volume.real (runningTime input id generation) ↔
      ¬ ReplacedWhileRunning input (eventsOf input id generation) := by
  have hsorted : (eventsOf input id generation).Pairwise fun a b => a.occurredAt ≤ b.occurredAt :=
    sortByTime_sorted _
  have hof : ∀ event ∈ eventsOf input id generation, event.sandboxInstanceId = id :=
    fun _ hmem => instance_of_mem_eventsOf hmem
  have hcounted := hoursOfGroup_eq input hknown hof
  have hgroup : groupHours input id generation =
      hoursOfGroup input (eventsOf input id generation) :=
    congrArg (hoursOfGroup input) (groupEventsByIntervalKey_spec input.events id generation)
  have hreal : (groupHours input id generation : ℝ) * millisecondsPerHour =
      ((totalLength (spans input (fun after => !isReplaced after)
        (eventsOf input id generation)) : Int) : ℝ) := by
    rw [hgroup]
    exact_mod_cast hcounted
  rw [hreal, runningTime, (measure_periodRunning input hsorted).2, Int.cast_inj,
    totalLength_spans, ← lost_eq_zero_iff]
  omega

/-- A group is that of an instance and a generation. -/
theorem eventsOf_of_mem_values {input : SandboxUsageAggregateInput}
    {group : List SandboxUsageEventRow}
    (hmem : group ∈ (groupEventsByIntervalKey input.events).values) :
    ∃ id generation, group = eventsOf input id generation := by
  rcases InsertionMap.mem_values_iff.mp hmem with ⟨key, hentry⟩
  have hkey : key ∈ (input.events.foldl collectEvents .empty).keys := by
    rcases List.mem_map.mp hentry with ⟨entry, hentry, heq⟩
    injection heq with hfirst _
    rw [← hfirst]
    exact List.mem_map_of_mem hentry
  rcases (collectEvents_spec input.events).2 key hkey with ⟨id, generation, hkey⟩
  have hspec := groupEventsByIntervalKey_spec input.events id generation
  rw [← hkey, InsertionMap.get?_eq_some_iff.mpr hentry, Option.getD_some] at hspec
  exact ⟨id, generation, hspec⟩

/-- The intervals are those of the instances and generations. -/
theorem forall_allIntervals_iff (input : SandboxUsageAggregateInput)
    (p : ResolvedRuntimeInterval → Prop) :
    (∀ interval ∈ allIntervals (groupEventsByIntervalKey input.events).values, p interval) ↔
      ∀ id generation, ∀ interval ∈ resolveRuntimeIntervals (eventsOf input id generation),
        p interval := by
  constructor
  · intro hall id generation interval hmem
    refine hall interval (List.mem_flatMap.mpr ⟨eventsOf input id generation, ?_, hmem⟩)
    have hspec := groupEventsByIntervalKey_spec input.events id generation
    change _ = eventsOf input id generation at hspec
    rw [← hspec] at hmem ⊢
    cases hget : (groupEventsByIntervalKey input.events).get? (intervalKey id generation) with
    | none =>
        rw [hget] at hmem
        exact absurd hmem List.not_mem_nil
    | some group =>
        exact InsertionMap.mem_values_iff.mpr ⟨_, InsertionMap.get?_eq_some_iff.mp hget⟩
  · intro hall interval hmem
    rcases List.mem_flatMap.mp hmem with ⟨group, hgroup, hinterval⟩
    rcases eventsOf_of_mem_values hgroup with ⟨id, generation, heq⟩
    rw [heq] at hinterval
    exact hall id generation interval hinterval

theorem mem_spans_cons {input : SandboxUsageAggregateInput}
    {keep : List SandboxUsageEventRow → Bool} {start : SandboxUsageEventRow}
    {after : List SandboxUsageEventRow} {span : Int × Int} :
    span ∈ spans input keep (start :: after) ↔
      (start.isStart = true ∧ keep after = true ∧
        span = (max start.occurredAt input.periodStart, startEnd input after)) ∨
      span ∈ spans input keep after := by
  rw [spans, ← and_assoc, ← Bool.and_eq_true]
  split
  · rename_i hkept
    rw [List.mem_cons, and_iff_right hkept]
  · rename_i hkept
    exact (or_iff_right fun h => hkept h.1).symm

/-- What runs is counted or lost. -/
theorem mem_spans_iff (input : SandboxUsageAggregateInput) (events : List SandboxUsageEventRow)
    (span : Int × Int) :
    span ∈ spans input (fun _ => true) events ↔
      span ∈ spans input (fun after => !isReplaced after) events ∨
        span ∈ spans input isReplaced events := by
  induction events with
  | nil => exact or_self_iff.symm
  | cons start after ih =>
      rw [mem_spans_cons, mem_spans_cons, mem_spans_cons, ih]
      cases isReplaced after with
      | true => simp only [Bool.not_true]; tauto
      | false => simp only [Bool.not_false]; tauto

/-- Where no start is replaced, all that runs is counted. -/
theorem mem_counted_of_running {input : SandboxUsageAggregateInput}
    {events : List SandboxUsageEventRow} (hsingle : ¬ ReplacedWhileRunning input events)
    {span : Int × Int} (hmem : span ∈ spans input (fun _ => true) events)
    (hlt : span.1 < span.2) : span ∈ spans input (fun after => !isReplaced after) events := by
  refine ((mem_spans_iff input events span).mp hmem).resolve_right fun hlost => ?_
  have hsum := (lost_eq_zero_iff input events).mpr hsingle
  have hnonneg : ∀ length ∈ (spans input isReplaced events).map spanLength, 0 ≤ length := by
    intro length hlength
    rcases List.mem_map.mp hlength with ⟨span, _, heq⟩
    rw [← heq]
    exact le_max_left _ _
  have hle := List.single_le_sum hnonneg _ (List.mem_map_of_mem hlost)
  change _ ≤ totalLength (spans input isReplaced events) at hle
  rw [hsum, spanLength] at hle
  omega

/-- What is counted of an instance is behind the first day exactly when all that runs is. -/
theorem first_iff {input : SandboxUsageAggregateInput} {id : String} {generation : Nat}
    (hknown : id ∈ input.instancesById.keys)
    (hsingle : ¬ ReplacedWhileRunning input (eventsOf input id generation)) :
    (∀ interval ∈ resolveRuntimeIntervals (eventsOf input id generation), Counts input interval →
      startOfUtcDay input.periodStart ≤ clippedStart input interval) ↔
    ∀ t ∈ runningTime input id generation, (startOfUtcDay input.periodStart : ℝ) ≤ t := by
  have hclip := map_clip_resolveRuntimeIntervals input (eventsOf input id generation)
  have hrunning := mem_periodRunning_iff input
    (sortByTime_sorted (input.events.filter (SandboxUsageEventRow.isOf id generation)))
  constructor
  · intro hcounted t ht
    rcases (hrunning t).mp ht with ⟨span, hspan, hle, hlt⟩
    have hmem := mem_counted_of_running hsingle hspan (Int.cast_lt.mp (lt_of_le_of_lt hle hlt))
    rw [← hclip] at hmem
    rcases List.mem_map.mp hmem with ⟨interval, hinterval, heq⟩
    have hid : interval.sandboxInstanceId = id :=
      instance_of_mem_resolveRuntimeIntervals (fun _ h => instance_of_mem_eventsOf h) hinterval
    have hcounts : Counts input interval := by
      refine ⟨by rw [hid]; exact hknown, ?_⟩
      rw [← heq] at hle hlt
      exact Int.cast_lt.mp (lt_of_le_of_lt hle hlt)
    have hfirst := hcounted interval hinterval hcounts
    rw [← heq] at hle
    exact le_trans (Int.cast_le.mpr hfirst) hle
  · intro hall interval hinterval hcounts
    have hmem : clip input interval ∈ spans input (fun after => !isReplaced after)
        (eventsOf input id generation) := by
      rw [← hclip]
      exact List.mem_map_of_mem hinterval
    have hspan := (mem_spans_iff input _ _).mpr (.inl hmem)
    have hfirst := hall (clippedStart input interval) ((hrunning _).mpr
      ⟨_, hspan, le_rfl, Int.cast_lt.mpr hcounts.2⟩)
    exact Int.cast_le.mp hfirst

/-! ### The law -/

/-- The summary is the sum over the groups. -/
theorem summary_eq_sum_groups (input : SandboxUsageAggregateInput)
    (localeCompare : String → String → Int) :
    (aggregateSandboxUsage sandboxUsageActivities input localeCompare).summary.sandboxHours =
      ((groupEventsByIntervalKey input.events).values.map (hoursOfGroup input)).sum := by
  rw [(aggregateSandboxUsage_spec input localeCompare).1, allIntervals, List.map_flatMap]
  have hgroup : ∀ events, hoursOfGroup input events =
      ((resolveRuntimeIntervals events).map (countedHours input)).sum := by
    intro events
    have hsum :=
      ((UsageTally.Balanced.start input).addIntervals (resolveRuntimeIntervals events)).2.1
    exact hsum.trans (zero_add _)
  induction (groupEventsByIntervalKey input.events).values with
  | nil => rfl
  | cons events groups ih =>
      rw [List.flatMap_cons, List.sum_append, ih, List.map_cons, List.sum_cons, hgroup]

/-- The days have all hours exactly when what counts of the known instances is behind the
first. -/
theorem daily_iff (input : SandboxUsageAggregateInput) (localeCompare : String → String → Int) :
    ((aggregateSandboxUsage sandboxUsageActivities input localeCompare).dailyUsage.map
      fun row => row.2.sandboxHours).sum =
    (aggregateSandboxUsage sandboxUsageActivities input localeCompare).summary.sandboxHours ↔
    ∀ id ∈ input.instancesById.keys, ∀ generation,
      ∀ interval ∈ resolveRuntimeIntervals (eventsOf input id generation),
        Counts input interval →
          startOfUtcDay input.periodStart ≤ clippedStart input interval := by
  have hspec := (aggregateSandboxUsage_spec input localeCompare).2.2.2
  refine hspec.trans ((forall_allIntervals_iff input _).trans ⟨fun h id _ => h id, ?_⟩)
  intro hknown id generation interval hinterval hcounts
  have hid : interval.sandboxInstanceId = id :=
    instance_of_mem_resolveRuntimeIntervals (fun _ h => instance_of_mem_eventsOf h) hinterval
  have hmem := hcounts.1
  rw [hid] at hmem
  exact hknown id hmem generation interval hinterval hcounts

theorem CountedInFull.conservesTime {input : SandboxUsageAggregateInput} (h : CountedInFull input)
    (localeCompare : String → String → Int) : ConservesTime input localeCompare where
  measured := fun id hknown generation =>
    (measured_iff input hknown generation).mpr (h.single id hknown generation)
  summed := summary_eq_sum_groups input localeCompare
  daily := (daily_iff input localeCompare).mpr fun id hknown generation =>
    (first_iff hknown (h.single id hknown generation)).mpr (h.first id hknown generation)
  profiles := (aggregateSandboxUsage_spec input localeCompare).2.1
  activities := (aggregateSandboxUsage_spec input localeCompare).2.2.1

theorem ConservesTime.countedInFull {input : SandboxUsageAggregateInput}
    {localeCompare : String → String → Int} (h : ConservesTime input localeCompare) :
    CountedInFull input := by
  have hsingle : ∀ id ∈ input.instancesById.keys, ∀ generation,
      ¬ ReplacedWhileRunning input (eventsOf input id generation) := fun id hknown generation =>
    (measured_iff input hknown generation).mp (h.measured id hknown generation)
  exact ⟨hsingle, fun id hknown generation =>
    (first_iff hknown (hsingle id hknown generation)).mp
      ((daily_iff input localeCompare).mp h.daily id hknown generation)⟩

/-- All hours are there exactly when no start is replaced while it runs, and nothing runs
before the first day. -/
theorem conservesTime_iff (input : SandboxUsageAggregateInput)
    (localeCompare : String → String → Int) :
    ConservesTime input localeCompare ↔ CountedInFull input :=
  ⟨ConservesTime.countedInFull, fun h => h.conservesTime localeCompare⟩

/-- Two starts an hour apart, and a stop an hour behind the second. -/
def resumedTwice : SandboxUsageAggregateInput where
  events := [⟨"sbi", some 1, .sandboxAllocated, 0, none, none, none⟩,
    ⟨"sbi", some 1, .sandboxResumed, 3600000, none, none, none⟩,
    ⟨"sbi", some 1, .sandboxStopped, 7200000, none, none, none⟩]
  instancesById := InsertionMap.empty.set "sbi" ⟨"sbp", .session, .dashboard⟩
  periodStart := 0
  periodEnd := 86400000
  requestedAt := 86400000
  runs := []

/-- The hour between them is in no interval. -/
theorem resumedTwice_loses :
    ¬ ∃ localeCompare : String → String → Int, ConservesTime resumedTwice localeCompare := by
  rintro ⟨localeCompare, h⟩
  have hsorted : eventsOf resumedTwice "sbi" 1 = resumedTwice.events :=
    List.mergeSort_of_pairwise (by decide)
  refine h.countedInFull.single "sbi" (by decide) 1 ?_
  rw [hsorted]
  exact ⟨[], _, [], _, _, rfl, rfl, rfl, fun _ h => absurd h List.not_mem_nil, by decide⟩

end Mistle
