import Mathlib.Algebra.BigOperators.Group.List.Basic
import Mathlib.Algebra.Order.Field.Rat
import Mathlib.Tactic.Linarith
import Mathlib.Tactic.Ring
import Mathlib.Data.List.Induction
import Std.Data.String.ToNat
import Mistle.Lib.Calendar
import Mistle.Lib.InsertionMap
import Mistle.Lib.Split
import Mistle.Lifecycle.Transition
import Mistle.Pagination.SandboxInstances

/-!
# Usage of Sandboxes

What a summary of usage adds up. The events of an instance and a generation of its
compute are sorted by time and paired: one that starts runtime with the one that ends
it. Each interval is cut to the period, an open one ends with the period or the request,
and its hours are added to four places: to the summary, to the profile, to the activity,
and day by day to the days of the period.

A start that follows a start takes its place, and the time between the two is in no
interval.

Times are in milliseconds, and hours are exact.

## Main definitions

* `SandboxUsageEventRow`, `SandboxUsageAggregateInput`: What a summary is made of.
* `groupEventsByIntervalKey`, `resolveRuntimeIntervals`: The intervals of runtime.
* `createDailyTotals`, `addDailyHours`: The days.
* `aggregateSandboxUsage`: The summary.

## Theorems

* `intervalKey_inj`, `groupEventsByIntervalKey_spec`: The events of a group are those of one
  instance and generation.
* `addDailyHours_spec`: What the days gain by an interval.
* `mem_keys_createDailyTotals`: The days of a period.
* `UsageTally.Balanced.addInterval`: An interval is added to all places alike.
-/

namespace Mistle

open Pagination (SandboxInstanceSource)

inductive SandboxUsageEventType where
  | sandboxAllocated
  | sandboxResumed
  | sandboxReady
  | sandboxStopped
  | sandboxFailed
  | sandboxReplaced
  deriving DecidableEq

def isStartEvent : SandboxUsageEventType → Bool
  | .sandboxAllocated | .sandboxResumed => true
  | _ => false

def isTerminalEvent : SandboxUsageEventType → Bool
  | .sandboxStopped | .sandboxFailed | .sandboxReplaced => true
  | _ => false

structure SandboxUsageEventRow where
  sandboxInstanceId : String
  computeGeneration : Option Nat
  eventType : SandboxUsageEventType
  occurredAt : Int
  vcpuCount : Option Nat
  memoryMb : Option Nat
  diskMb : Option Nat
  deriving DecidableEq

def SandboxUsageEventRow.isStart (event : SandboxUsageEventRow) : Bool :=
  isStartEvent event.eventType

def SandboxUsageEventRow.isTerminal (event : SandboxUsageEventRow) : Bool :=
  isTerminalEvent event.eventType

inductive SandboxUsageActivity where
  | userSessions
  | designerSessions
  | triggerRuns
  | setupAssistants
  | setupScriptChecks
  | snapshotMaintenance
  deriving DecidableEq

def sandboxUsageActivities : List SandboxUsageActivity :=
  [.userSessions, .designerSessions, .triggerRuns, .setupAssistants, .setupScriptChecks,
    .snapshotMaintenance]

structure SandboxUsageInstanceMetadata where
  sandboxProfileId : String
  purpose : SandboxInstancePurpose
  source : SandboxInstanceSource
  deriving DecidableEq

structure SandboxUsageRunRow where
  sandboxInstanceId : String
  startedAt : Int
  deriving DecidableEq

structure SandboxUsageAggregateInput where
  events : List SandboxUsageEventRow
  instancesById : InsertionMap String SandboxUsageInstanceMetadata
  periodStart : Int
  periodEnd : Int
  requestedAt : Int
  runs : List SandboxUsageRunRow

structure SandboxUsageTotals where
  sandboxHours : ℚ
  sandboxRuns : Nat
  vcpuHours : ℚ
  memoryGbHours : ℚ
  storageGbHours : ℚ
  deriving DecidableEq

structure DailyTotals where
  sandboxHours : ℚ
  runCount : Nat
  deriving DecidableEq

structure ResolvedRuntimeInterval where
  sandboxInstanceId : String
  startMs : Int
  endMs : Option Int
  vcpuCount : Option Nat
  memoryMb : Option Nat
  diskMb : Option Nat
  deriving DecidableEq

def millisecondsPerHour : Int := 60 * 60 * 1000

/-! ### Intervals -/

def intervalKey (sandboxInstanceId : String) (computeGeneration : Nat) : String :=
  s!"{sandboxInstanceId}:{computeGeneration}"

/-- The events as they come, by their keys. -/
def collectEvents (grouped : InsertionMap String (List SandboxUsageEventRow))
    (event : SandboxUsageEventRow) : InsertionMap String (List SandboxUsageEventRow) :=
  match event.computeGeneration with
  | none => grouped
  | some computeGeneration =>
    let key := intervalKey event.sandboxInstanceId computeGeneration
    match grouped.get? key with
    | none => grouped.set key [event]
    | some existing => grouped.set key (existing ++ [event])

def sortByTime (events : List SandboxUsageEventRow) : List SandboxUsageEventRow :=
  events.mergeSort fun left right => left.occurredAt ≤ right.occurredAt

def groupEventsByIntervalKey (events : List SandboxUsageEventRow) :
    InsertionMap String (List SandboxUsageEventRow) :=
  (events.foldl collectEvents .empty).mapValues sortByTime

def createRuntimeInterval (start : SandboxUsageEventRow) (ending : Option SandboxUsageEventRow) :
    ResolvedRuntimeInterval where
  sandboxInstanceId := start.sandboxInstanceId
  startMs := start.occurredAt
  endMs := ending.map SandboxUsageEventRow.occurredAt
  vcpuCount := start.vcpuCount
  memoryMb := start.memoryMb
  diskMb := start.diskMb

/-- The intervals so far and the start that is open, behind an event. -/
def pairEvent (state : List ResolvedRuntimeInterval × Option SandboxUsageEventRow)
    (event : SandboxUsageEventRow) : List ResolvedRuntimeInterval × Option SandboxUsageEventRow :=
  if event.isStart then (state.1, some event)
  else
    match state.2 with
    | none => state
    | some openStart =>
      if event.isTerminal then
        (state.1 ++ [createRuntimeInterval openStart (some event)], none)
      else state

def resolveRuntimeIntervals (events : List SandboxUsageEventRow) : List ResolvedRuntimeInterval :=
  let state := events.foldl pairEvent ([], none)
  match state.2 with
  | none => state.1
  | some openStart => state.1 ++ [createRuntimeInterval openStart none]

/-! ### Totals -/

def createEmptyTotals : SandboxUsageTotals := ⟨0, 0, 0, 0, 0⟩

def createIntervalTotals (hours : ℚ) (vcpuCount memoryMb diskMb : Option Nat) :
    SandboxUsageTotals where
  sandboxHours := hours
  sandboxRuns := 0
  vcpuHours := hours * (vcpuCount.getD 0 : Nat)
  memoryGbHours := hours * ((memoryMb.getD 0 : Nat) / 1024)
  storageGbHours := hours * ((diskMb.getD 0 : Nat) / 1024)

def addTotals (target source : SandboxUsageTotals) : SandboxUsageTotals where
  sandboxHours := target.sandboxHours + source.sandboxHours
  sandboxRuns := target.sandboxRuns + source.sandboxRuns
  vcpuHours := target.vcpuHours + source.vcpuHours
  memoryGbHours := target.memoryGbHours + source.memoryGbHours
  storageGbHours := target.storageGbHours + source.storageGbHours

section

variable {κ : Type} [DecidableEq κ]

def getOrCreateTotals (map : InsertionMap κ SandboxUsageTotals) (key : κ) : SandboxUsageTotals :=
  (map.get? key).getD createEmptyTotals

/-- The totals of a key, created where they are not there, changed in their place. -/
def changeTotals (map : InsertionMap κ SandboxUsageTotals) (key : κ)
    (change : SandboxUsageTotals → SandboxUsageTotals) : InsertionMap κ SandboxUsageTotals :=
  map.set key (change (getOrCreateTotals map key))

end

def countRun (totals : SandboxUsageTotals) : SandboxUsageTotals :=
  { totals with sandboxRuns := totals.sandboxRuns + 1 }

def resolveSandboxUsageActivity (instance_ : SandboxUsageInstanceMetadata) :
    SandboxUsageActivity :=
  match instance_.purpose with
  | .designer => .designerSessions
  | .setupAssistant => .setupAssistants
  | .setupCheck => .setupScriptChecks
  | .snapshot => .snapshotMaintenance
  | .skillsDiscovery => .snapshotMaintenance
  | .session =>
    if instance_.source = .webhook ∨ instance_.source = .schedule then .triggerRuns
    else .userSessions

/-! ### Days -/

def createDailyTotalsFrom (cursor periodEnd : Int) (totals : InsertionMap (List Char) DailyTotals) :
    InsertionMap (List Char) DailyTotals :=
  if cursor < periodEnd then
    createDailyTotalsFrom (cursor + millisecondsPerDay) periodEnd (totals.set (isoDay cursor) ⟨0, 0⟩)
  else totals
termination_by (periodEnd - cursor).toNat
decreasing_by
  rw [millisecondsPerDay]
  omega

def createDailyTotals (periodStart periodEnd : Int) : InsertionMap (List Char) DailyTotals :=
  createDailyTotalsFrom (startOfUtcDay periodStart) periodEnd .empty

/-- A day that is there gains hours. -/
def addHoursOfDay (dailyTotals : InsertionMap (List Char) DailyTotals) (day : List Char)
    (hours : ℚ) : InsertionMap (List Char) DailyTotals :=
  match dailyTotals.get? day with
  | some totals => dailyTotals.set day { totals with sandboxHours := totals.sandboxHours + hours }
  | none => dailyTotals

def addDailyHours (dailyTotals : InsertionMap (List Char) DailyTotals) (cursor endMs : Int) :
    InsertionMap (List Char) DailyTotals :=
  if cursor < endMs then
    let nextDayStart := startOfUtcDay cursor + millisecondsPerDay
    let segmentEnd := min endMs nextDayStart
    addDailyHours
      (addHoursOfDay dailyTotals (isoDay cursor) ((segmentEnd - cursor : Int) / millisecondsPerHour))
      segmentEnd endMs
  else dailyTotals
termination_by (endMs - cursor).toNat
decreasing_by
  have hnext := lt_startOfUtcDay cursor
  omega

/-! ### The summary -/

/-- What is added up. -/
structure UsageTally where
  summary : SandboxUsageTotals
  dailyTotals : InsertionMap (List Char) DailyTotals
  profileTotals : InsertionMap String SandboxUsageTotals
  activityTotals : InsertionMap SandboxUsageActivity SandboxUsageTotals

section

variable (activityRows : List SandboxUsageActivity) (input : SandboxUsageAggregateInput)

def UsageTally.start : UsageTally where
  summary := createEmptyTotals
  dailyTotals := createDailyTotals input.periodStart input.periodEnd
  profileTotals := .empty
  activityTotals :=
    activityRows.foldl (fun totals activity => totals.set activity createEmptyTotals) .empty

def clippedStart (interval : ResolvedRuntimeInterval) : Int :=
  max interval.startMs input.periodStart

def clippedEnd (interval : ResolvedRuntimeInterval) : Int :=
  min (interval.endMs.getD (min input.periodEnd input.requestedAt)) input.periodEnd

def intervalHours (interval : ResolvedRuntimeInterval) : ℚ :=
  (clippedEnd input interval - clippedStart input interval : Int) / millisecondsPerHour

def UsageTally.addInterval (tally : UsageTally) (interval : ResolvedRuntimeInterval) :
    UsageTally :=
  match input.instancesById.get? interval.sandboxInstanceId with
  | none => tally
  | some instance_ =>
    if clippedEnd input interval ≤ clippedStart input interval then tally
    else
      let totals := createIntervalTotals (intervalHours input interval) interval.vcpuCount
        interval.memoryMb interval.diskMb
      { summary := addTotals tally.summary totals
        profileTotals := changeTotals tally.profileTotals instance_.sandboxProfileId
          (addTotals · totals)
        activityTotals := changeTotals tally.activityTotals
          (resolveSandboxUsageActivity instance_) (addTotals · totals)
        dailyTotals := addDailyHours tally.dailyTotals (clippedStart input interval)
          (clippedEnd input interval) }

def UsageTally.addRun (tally : UsageTally) (run : SandboxUsageRunRow) : UsageTally :=
  match input.instancesById.get? run.sandboxInstanceId with
  | none => tally
  | some instance_ =>
    { summary := countRun tally.summary
      profileTotals := changeTotals tally.profileTotals instance_.sandboxProfileId countRun
      activityTotals :=
        changeTotals tally.activityTotals (resolveSandboxUsageActivity instance_) countRun
      dailyTotals :=
        match tally.dailyTotals.get? (isoDay run.startedAt) with
        | some totals =>
          tally.dailyTotals.set (isoDay run.startedAt)
            { totals with runCount := totals.runCount + 1 }
        | none => tally.dailyTotals }

def UsageTally.addGroup (tally : UsageTally) (events : List SandboxUsageEventRow) : UsageTally :=
  (resolveRuntimeIntervals events).foldl (UsageTally.addInterval input) tally

structure SandboxUsageAggregateResult where
  summary : SandboxUsageTotals
  dailyUsage : List (List Char × DailyTotals)
  profileBreakdown : List (String × SandboxUsageTotals)
  activityBreakdown : List (SandboxUsageActivity × SandboxUsageTotals)

def compareBreakdownRows (localeCompare : String → String → Int)
    (left right : String × SandboxUsageTotals) : ℚ :=
  if right.2.sandboxHours ≠ left.2.sandboxHours then
    right.2.sandboxHours - left.2.sandboxHours
  else localeCompare left.1 right.1

def UsageTally.result (localeCompare : String → String → Int) (tally : UsageTally) :
    SandboxUsageAggregateResult where
  summary := tally.summary
  dailyUsage := tally.dailyTotals.entries
  profileBreakdown := tally.profileTotals.entries.mergeSort fun left right =>
    compareBreakdownRows localeCompare left right ≤ 0
  activityBreakdown := activityRows.map fun activity =>
    (activity, getOrCreateTotals tally.activityTotals activity)

def aggregateSandboxUsage (localeCompare : String → String → Int) : SandboxUsageAggregateResult :=
  let tally := (groupEventsByIntervalKey input.events).values.foldl (UsageTally.addGroup input)
    (.start activityRows input)
  (input.runs.foldl (UsageTally.addRun input) tally).result activityRows localeCompare

end

/-! ### Groups -/

/-- An event of an instance and a generation. -/
def SandboxUsageEventRow.isOf (sandboxInstanceId : String) (computeGeneration : Nat)
    (event : SandboxUsageEventRow) : Bool :=
  decide (event.sandboxInstanceId = sandboxInstanceId) &&
    decide (event.computeGeneration = some computeGeneration)

/-- A generation has no colon in it, so the key tells where the instance ends. -/
theorem intervalKey_inj {id id' : String} {generation generation' : Nat}
    (h : intervalKey id generation = intervalKey id' generation') :
    id = id' ∧ generation = generation' := by
  have hcolon : ∀ n : Nat, ':' ∉ (toString n).toList := by
    intro n hmem
    rw [Nat.toString_eq_repr, Nat.repr, String.toList_ofList] at hmem
    have hdigit := Nat.isDigit_of_mem_toDigits (by decide) (by decide) hmem
    exact absurd hdigit (by decide)
  have hkey : ∀ (name : String) (n : Nat),
      (intervalKey name n).toList = name.toList ++ ':' :: (toString n).toList := by
    intro name n
    rw [intervalKey, String.toList_append, String.toList_append, List.append_assoc]
    rfl
  have hlist := congrArg String.toList h
  rw [hkey, hkey] at hlist
  have hsplit := congrArg (rsplitOnce ':') hlist
  rw [rsplitOnce_append (hcolon generation), rsplitOnce_append (hcolon generation'),
    Option.some.injEq, Prod.mk.injEq] at hsplit
  refine ⟨String.toList_injective hsplit.1, Nat.repr_injective ?_⟩
  exact String.toList_injective hsplit.2

theorem collectEvents_spec (events : List SandboxUsageEventRow) :
    (∀ id generation, ((events.foldl collectEvents .empty).get? (intervalKey id generation)).getD []
      = events.filter (SandboxUsageEventRow.isOf id generation)) ∧
    ∀ key ∈ (events.foldl collectEvents .empty).keys,
      ∃ id generation, key = intervalKey id generation := by
  induction events using List.reverseRecOn with
  | nil => exact ⟨fun _ _ => rfl, fun _ h => absurd h List.not_mem_nil⟩
  | append_singleton events event ih =>
      rw [List.foldl_append, List.foldl_cons, List.foldl_nil]
      generalize events.foldl collectEvents .empty = grouped at ih ⊢
      rw [collectEvents]
      split
      · rename_i hnone
        refine ⟨fun id generation => ?_, ih.2⟩
        have hother : event.isOf id generation = false := by
          rw [SandboxUsageEventRow.isOf, hnone]
          simp
        rw [ih.1, List.filter_append, List.filter_cons_of_neg (by rw [hother]; decide),
          List.filter_nil, List.append_nil]
      · rename_i generation hsome
        have hset : (match grouped.get? (intervalKey event.sandboxInstanceId generation) with
            | none => grouped.set (intervalKey event.sandboxInstanceId generation) [event]
            | some existing =>
              grouped.set (intervalKey event.sandboxInstanceId generation) (existing ++ [event])) =
            grouped.set (intervalKey event.sandboxInstanceId generation)
              ((grouped.get? (intervalKey event.sandboxInstanceId generation)).getD []
                ++ [event]) := by
          cases grouped.get? (intervalKey event.sandboxInstanceId generation) with
          | none => rfl
          | some existing => rfl
        dsimp only
        rw [hset]
        constructor
        · intro id generation'
          rw [InsertionMap.get?_set, List.filter_append]
          by_cases hkey : intervalKey id generation' =
              intervalKey event.sandboxInstanceId generation
          · have hof := intervalKey_inj hkey
            have hmine : event.isOf id generation' = true := by
              rw [SandboxUsageEventRow.isOf, hsome, hof.1, hof.2]
              simp
            rw [if_pos hkey, Option.getD_some, ← hkey, ih.1, List.filter_cons_of_pos hmine,
              List.filter_nil]
          · have hother : event.isOf id generation' ≠ true := by
              intro hmine
              rw [SandboxUsageEventRow.isOf, Bool.and_eq_true, decide_eq_true_eq,
                decide_eq_true_eq, hsome, Option.some.injEq] at hmine
              exact hkey (by rw [hmine.1, hmine.2])
            rw [if_neg hkey, ih.1, List.filter_cons_of_neg hother, List.filter_nil,
              List.append_nil]
        · intro key hmem
          rcases InsertionMap.mem_keys_set.mp hmem with hkey | hmem
          · exact ⟨_, _, hkey⟩
          · exact ih.2 key hmem

/-- The group of an instance and a generation has their events, sorted by time. -/
theorem groupEventsByIntervalKey_spec (events : List SandboxUsageEventRow) (id : String)
    (generation : Nat) :
    ((groupEventsByIntervalKey events).get? (intervalKey id generation)).getD [] =
      sortByTime (events.filter (SandboxUsageEventRow.isOf id generation)) := by
  have hspec := (collectEvents_spec events).1 id generation
  rw [groupEventsByIntervalKey, InsertionMap.get?_mapValues]
  cases hget : (events.foldl collectEvents .empty).get? (intervalKey id generation) with
  | none =>
      rw [hget] at hspec
      rw [← hspec]
      exact List.mergeSort_nil.symm
  | some group =>
      rw [hget] at hspec
      rw [← hspec]
      rfl

/-! ### Days -/

/-- What the days have in all. -/
def dailyHoursSum (dailyTotals : InsertionMap (List Char) DailyTotals) : ℚ :=
  (dailyTotals.values.map DailyTotals.sandboxHours).sum

/-- The hours between two times. -/
def hoursBetween (startMs endMs : Int) : ℚ :=
  (endMs - startMs : Int) / millisecondsPerHour

theorem hoursBetween_pos {startMs endMs : Int} (h : startMs < endMs) :
    0 < hoursBetween startMs endMs := by
  have hdiff : (0 : ℚ) < (endMs - startMs : Int) := by exact_mod_cast Int.sub_pos.mpr h
  have hhour : (0 : ℚ) < millisecondsPerHour := by
    rw [millisecondsPerHour]
    norm_num
  exact div_pos hdiff hhour

theorem hoursBetween_add (a b c : Int) : hoursBetween a b + hoursBetween b c = hoursBetween a c := by
  rw [hoursBetween, hoursBetween, hoursBetween, ← add_div]
  push_cast
  congr 1
  ring

/-- The days that a loop over them makes. -/
theorem mem_keys_createDailyTotalsFrom (periodEnd cursor : Int)
    (totals : InsertionMap (List Char) DailyTotals) (day : List Char) :
    day ∈ (createDailyTotalsFrom cursor periodEnd totals).keys ↔
      day ∈ totals.keys ∨ ∃ n : Nat, cursor + n * millisecondsPerDay < periodEnd ∧
        day = isoDay (cursor + n * millisecondsPerDay) := by
  induction cursor, totals using createDailyTotalsFrom.induct periodEnd with
  | case1 cursor totals hbefore ih =>
      rw [createDailyTotalsFrom, if_pos hbefore, ih, InsertionMap.mem_keys_set]
      constructor
      · rintro ((hday | hmem) | ⟨n, hn, hday⟩)
        · exact .inr ⟨0, by simpa using hbefore, by simpa using hday⟩
        · exact .inl hmem
        · have hnext : cursor + millisecondsPerDay + n * millisecondsPerDay =
              cursor + (n + 1 : Nat) * millisecondsPerDay := by
            push_cast
            ring
          rw [hnext] at hn hday
          exact .inr ⟨n + 1, hn, hday⟩
      · rintro (hmem | ⟨n, hn, hday⟩)
        · exact .inl (.inr hmem)
        · cases n with
          | zero => exact .inl (.inl (by simpa using hday))
          | succ n =>
              have hnext : cursor + millisecondsPerDay + n * millisecondsPerDay =
                  cursor + (n + 1 : Nat) * millisecondsPerDay := by
                push_cast
                ring
              exact .inr ⟨n, by rw [hnext]; exact hn, by rw [hnext]; exact hday⟩
  | case2 cursor totals hbefore =>
      rw [createDailyTotalsFrom, if_neg hbefore]
      refine ⟨.inl, fun h => h.elim id fun ⟨n, hn, _⟩ => absurd hn ?_⟩
      rw [millisecondsPerDay]
      omega

/-- A day starts at a multiple of its length. -/
theorem startOfUtcDay_eq (time : Int) :
    startOfUtcDay time = dayOf (startOfUtcDay time) * millisecondsPerDay := by
  have hmultiple : ∃ day : Int, startOfUtcDay time = day * millisecondsPerDay := by
    by_cases hyear : 0 ≤ yearFromDay (dayOf time) ∧ yearFromDay (dayOf time) ≤ 99
    · rcases startOfUtcDay_of_early hyear with ⟨later, hstart, _⟩
      exact ⟨_, hstart⟩
    · exact ⟨_, startOfUtcDay_of_year hyear⟩
  rcases hmultiple with ⟨day, hstart⟩
  rw [hstart, dayOf, Int.mul_ediv_cancel day (by decide)]

/-- Times of one day are written alike. -/
theorem isoDay_congr {a b : Int} (h : dayOf a = dayOf b) : isoDay a = isoDay b := by
  rw [isoDay, isoDay, h]

/-- A time that the first day comes after has a year of four digits. -/
theorem year_of_lt_startOfUtcDay {periodStart t : Int} (hstart : periodStart ≤ t)
    (hbefore : t < startOfUtcDay periodStart) :
    0 ≤ yearFromDay (dayOf t) ∧ yearFromDay (dayOf t) ≤ 9999 := by
  have hday := dayOf_spec periodStart
  have hearly : 0 ≤ yearFromDay (dayOf periodStart) ∧ yearFromDay (dayOf periodStart) ≤ 99 := by
    by_contra hyear
    rw [startOfUtcDay_of_year hyear] at hbefore
    omega
  rcases startOfUtcDay_of_early hearly with ⟨later, hlater, _, hle⟩
  have hdayt := dayOf_spec t
  have hlow : dayOf periodStart ≤ dayOf t := by
    rw [millisecondsPerDay] at hday hdayt
    omega
  have hhigh : dayOf t < dayOf periodStart + 693962 := by
    rw [hlater] at hbefore
    rw [millisecondsPerDay] at hbefore hday hdayt
    omega
  refine ⟨le_trans hearly.1 (yearFromDay_le hlow), ?_⟩
  by_contra hlate
  -- Some days of the year 100 are behind the day, and the year 10000 is not.
  have hnext := (yearFromDay_spec (dayOf periodStart)).2
  have hhundred := dayFromYear_le (show yearFromDay (dayOf periodStart) + 1 ≤ 100 by omega)
  have htenthousand := dayFromYear_le (show 10000 ≤ yearFromDay (dayOf t) by omega)
  have hspec := (yearFromDay_spec (dayOf t)).1
  have hfar : dayFromYear 100 + 693962 < dayFromYear 10000 := by decide
  omega

/-- The days of a period are there from the first that is made. -/
theorem mem_keys_createDailyTotals {periodStart periodEnd t : Int} (hstart : periodStart ≤ t)
    (hend : t < periodEnd) :
    isoDay t ∈ (createDailyTotals periodStart periodEnd).keys ↔ startOfUtcDay periodStart ≤ t := by
  rw [createDailyTotals, mem_keys_createDailyTotalsFrom]
  have hday := dayOf_spec t
  have hfirst := startOfUtcDay_eq periodStart
  constructor
  · rintro (hmem | ⟨n, _, heq⟩)
    · exact absurd hmem List.not_mem_nil
    · by_contra hbefore
      have hsame := isoDay_inj (year_of_lt_startOfUtcDay hstart (by omega)) heq
      have hlater : dayOf (startOfUtcDay periodStart + n * millisecondsPerDay) =
          dayOf (startOfUtcDay periodStart) + n := by
        rw [dayOf, Int.add_mul_ediv_right _ _ (by decide)]
        rfl
      rw [hlater] at hsame
      rw [millisecondsPerDay] at hfirst hday
      omega
  · intro hafter
    -- The days between the first and that of the time.
    have hle : dayOf (startOfUtcDay periodStart) ≤ dayOf t := by
      rw [millisecondsPerDay] at hfirst hday
      omega
    rcases Int.le.dest hle with ⟨n, hn⟩
    refine .inr ⟨n, ?_, isoDay_congr ?_⟩
    · rw [hfirst]
      rw [millisecondsPerDay] at hday ⊢
      omega
    · rw [← hn, dayOf, dayOf, Int.add_mul_ediv_right _ _ (by decide)]

theorem keys_addHoursOfDay (dailyTotals : InsertionMap (List Char) DailyTotals) (day : List Char)
    (hours : ℚ) : (addHoursOfDay dailyTotals day hours).keys = dailyTotals.keys := by
  rw [addHoursOfDay]
  split
  · rename_i totals hget
    have hmem := InsertionMap.mem_keys_of_mem (InsertionMap.get?_eq_some_iff.mp hget)
    exact InsertionMap.keys_set_of_mem hmem _
  · rfl

theorem dailyHoursSum_addHoursOfDay (dailyTotals : InsertionMap (List Char) DailyTotals)
    (day : List Char) (hours : ℚ) :
    dailyHoursSum (addHoursOfDay dailyTotals day hours) =
      dailyHoursSum dailyTotals + if day ∈ dailyTotals.keys then hours else 0 := by
  rw [addHoursOfDay]
  split
  · rename_i totals hget
    have hmem := InsertionMap.mem_keys_of_mem (InsertionMap.get?_eq_some_iff.mp hget)
    have hsum := InsertionMap.sum_values_set dailyTotals day
      { totals with sandboxHours := totals.sandboxHours + hours } DailyTotals.sandboxHours
    rw [hget, Option.map_some, Option.getD_some] at hsum
    rw [if_pos hmem, dailyHoursSum, dailyHoursSum]
    linarith
  · rename_i hget
    rw [if_neg (InsertionMap.get?_eq_none_iff.mp hget), add_zero]

theorem keys_addDailyHours (endMs cursor : Int) (dailyTotals : InsertionMap (List Char) DailyTotals) :
    (addDailyHours dailyTotals cursor endMs).keys = dailyTotals.keys := by
  induction dailyTotals, cursor using addDailyHours.induct endMs with
  | case1 dailyTotals cursor hbefore next segmentEnd ih =>
      rw [addDailyHours, if_pos hbefore]
      exact ih.trans (keys_addHoursOfDay _ _ _)
  | case2 dailyTotals cursor hbefore => rw [addDailyHours, if_neg hbefore]

/-- The days gain no more than the hours of the interval, and they gain these when the days
that are there start before it. -/
theorem addDailyHours_spec (first endMs cursor : Int)
    (dailyTotals : InsertionMap (List Char) DailyTotals) (hle : cursor ≤ endMs)
    (hdays : ∀ t, cursor ≤ t → t < endMs → (isoDay t ∈ dailyTotals.keys ↔ first ≤ t)) :
    dailyHoursSum (addDailyHours dailyTotals cursor endMs) ≤
      dailyHoursSum dailyTotals + hoursBetween cursor endMs ∧
    (dailyHoursSum (addDailyHours dailyTotals cursor endMs) =
      dailyHoursSum dailyTotals + hoursBetween cursor endMs ↔ cursor = endMs ∨ first ≤ cursor) := by
  induction dailyTotals, cursor using addDailyHours.induct endMs with
  | case1 dailyTotals cursor hbefore next segmentEnd ih =>
      have hnext : cursor < segmentEnd := lt_min hbefore (lt_startOfUtcDay cursor)
      have hlast : segmentEnd ≤ endMs := min_le_left _ _
      rw [addDailyHours, if_pos hbefore]
      have hrest := ih hlast fun t ht hend => by
        rw [keys_addHoursOfDay]
        exact hdays t (by omega) hend
      dsimp only
      have hhours : ((segmentEnd - cursor : Int) : ℚ) / millisecondsPerHour =
          hoursBetween cursor segmentEnd := rfl
      rw [dailyHoursSum_addHoursOfDay, hhours] at hrest
      rw [hhours]
      have hday := hdays cursor le_rfl hbefore
      have hsplit := hoursBetween_add cursor segmentEnd endMs
      by_cases hfirst : first ≤ cursor
      · have hmem := hday.mpr hfirst
        rw [if_pos hmem, add_assoc, hsplit] at hrest
        have heq := hrest.2.mpr (.inr (by omega))
        exact ⟨hrest.1, iff_of_true heq (.inr hfirst)⟩
      · -- The hours of this day are in none.
        have hmem := fun hmem => hfirst (hday.mp hmem)
        rw [if_neg hmem, add_zero] at hrest
        have hpos := hoursBetween_pos hnext
        refine ⟨by linarith [hrest.1], iff_of_false (fun heq => ?_) ?_⟩
        · linarith [hrest.1]
        · omega
  | case2 dailyTotals cursor hbefore =>
      have hend : cursor = endMs := by omega
      rw [addDailyHours, if_neg hbefore, hend, hoursBetween, sub_self]
      simp

/-! ### Sums -/

/-- The hours of all totals of a map. -/
def totalHours {κ : Type} (map : InsertionMap κ SandboxUsageTotals) : ℚ :=
  (map.values.map SandboxUsageTotals.sandboxHours).sum

/-- A map gains the hours that are added under a key. -/
theorem totalHours_changeTotals {κ : Type} [DecidableEq κ]
    (map : InsertionMap κ SandboxUsageTotals) (key : κ)
    {change : SandboxUsageTotals → SandboxUsageTotals} {gain : ℚ}
    (hchange : ∀ totals, (change totals).sandboxHours = totals.sandboxHours + gain) :
    totalHours (changeTotals map key change) = totalHours map + gain := by
  have hsum := InsertionMap.sum_values_set map key (change (getOrCreateTotals map key))
    SandboxUsageTotals.sandboxHours
  have hold : ((map.get? key).map SandboxUsageTotals.sandboxHours).getD 0 =
      (getOrCreateTotals map key).sandboxHours := by
    rw [getOrCreateTotals]
    cases map.get? key with
    | none => rfl
    | some totals => rfl
  rw [hold, hchange] at hsum
  rw [totalHours, totalHours, changeTotals]
  linarith

/-- What the places have in common: all have the hours of the summary, but for the days,
which have no more. -/
structure UsageTally.Balanced (input : SandboxUsageAggregateInput) (tally : UsageTally) : Prop where
  profiles : totalHours tally.profileTotals = tally.summary.sandboxHours
  activities : totalHours tally.activityTotals = tally.summary.sandboxHours
  rows : tally.activityTotals.keys = sandboxUsageActivities
  days : tally.dailyTotals.keys = (createDailyTotals input.periodStart input.periodEnd).keys
  daily : dailyHoursSum tally.dailyTotals ≤ tally.summary.sandboxHours

theorem dailyHoursSum_createDailyTotalsFrom (periodEnd cursor : Int)
    (totals : InsertionMap (List Char) DailyTotals)
    (hzero : ∀ day ∈ totals.values, day.sandboxHours = 0) :
    dailyHoursSum (createDailyTotalsFrom cursor periodEnd totals) = 0 := by
  induction cursor, totals using createDailyTotalsFrom.induct periodEnd with
  | case1 cursor totals hbefore ih =>
      rw [createDailyTotalsFrom, if_pos hbefore]
      refine ih fun day hday => ?_
      rcases InsertionMap.mem_values_iff.mp hday with ⟨key, hmem⟩
      rcases InsertionMap.mem_set_iff.mp hmem with ⟨_, hnew⟩ | ⟨_, hold⟩
      · rw [hnew]
      · exact hzero day (InsertionMap.mem_values_iff.mpr ⟨key, hold⟩)
  | case2 cursor totals hbefore =>
      rw [createDailyTotalsFrom, if_neg hbefore, dailyHoursSum]
      refine List.sum_eq_zero fun hours hmem => ?_
      rcases List.mem_map.mp hmem with ⟨day, hday, hhours⟩
      rw [← hhours, hzero day hday]

theorem UsageTally.Balanced.start (input : SandboxUsageAggregateInput) :
    (UsageTally.start sandboxUsageActivities input).Balanced input where
  profiles := rfl
  activities := by
    change ([0, 0, 0, 0, 0, 0] : List ℚ).sum = 0
    simp
  rows := rfl
  days := rfl
  daily := le_of_eq (dailyHoursSum_createDailyTotalsFrom _ _ _ fun _ h => absurd h List.not_mem_nil)

/-- All activities have a place. -/
theorem keys_changeTotals_activity {map : InsertionMap SandboxUsageActivity SandboxUsageTotals}
    (hrows : map.keys = sandboxUsageActivities) (activity : SandboxUsageActivity)
    (change : SandboxUsageTotals → SandboxUsageTotals) :
    (changeTotals map activity change).keys = sandboxUsageActivities := by
  have hmem : activity ∈ map.keys := by
    rw [hrows]
    cases activity <;> decide
  rw [changeTotals, InsertionMap.keys_set_of_mem hmem, hrows]

/-- An interval counts when its instance is known and some of it is in the period. -/
def Counts (input : SandboxUsageAggregateInput) (interval : ResolvedRuntimeInterval) : Prop :=
  interval.sandboxInstanceId ∈ input.instancesById.keys ∧
    clippedStart input interval < clippedEnd input interval

instance (input : SandboxUsageAggregateInput) (interval : ResolvedRuntimeInterval) :
    Decidable (Counts input interval) :=
  inferInstanceAs (Decidable (_ ∧ _))

theorem UsageTally.addInterval_of_not_counts {input : SandboxUsageAggregateInput}
    {interval : ResolvedRuntimeInterval} (h : ¬ Counts input interval) (tally : UsageTally) :
    tally.addInterval input interval = tally := by
  rw [UsageTally.addInterval]
  split
  · rfl
  · rename_i instance_ hget
    have hknown := InsertionMap.mem_keys_of_mem (InsertionMap.get?_eq_some_iff.mp hget)
    exact if_pos (Int.not_lt.mp fun hlt => h ⟨hknown, hlt⟩)

/-- An interval that counts is added to all places. -/
theorem UsageTally.addInterval_of_counts {input : SandboxUsageAggregateInput}
    {interval : ResolvedRuntimeInterval} (h : Counts input interval) (tally : UsageTally) :
    ∃ instance_ totals, totals.sandboxHours = intervalHours input interval ∧
      tally.addInterval input interval =
        { summary := addTotals tally.summary totals
          profileTotals := changeTotals tally.profileTotals
            instance_.sandboxProfileId (addTotals · totals)
          activityTotals := changeTotals tally.activityTotals
            (resolveSandboxUsageActivity instance_) (addTotals · totals)
          dailyTotals := addDailyHours tally.dailyTotals (clippedStart input interval)
            (clippedEnd input interval) } := by
  rcases InsertionMap.exists_of_mem_keys h.1 with ⟨instance_, hmem⟩
  have hget := InsertionMap.get?_eq_some_iff.mpr hmem
  refine ⟨instance_, createIntervalTotals (intervalHours input interval) interval.vcpuCount
    interval.memoryMb interval.diskMb, rfl, ?_⟩
  rw [UsageTally.addInterval, hget]
  exact if_neg (Int.not_le.mpr h.2)

/-- What an interval adds to the hours of the summary. -/
def countedHours (input : SandboxUsageAggregateInput) (interval : ResolvedRuntimeInterval) : ℚ :=
  if Counts input interval then
    hoursBetween (clippedStart input interval) (clippedEnd input interval)
  else 0

theorem UsageTally.hours_addInterval (input : SandboxUsageAggregateInput)
    (interval : ResolvedRuntimeInterval) (tally : UsageTally) :
    (tally.addInterval input interval).summary.sandboxHours =
      tally.summary.sandboxHours + countedHours input interval := by
  rw [countedHours]
  by_cases hcounts : Counts input interval
  · rcases tally.addInterval_of_counts hcounts with ⟨instance_, totals, hhours, hadd⟩
    rw [if_pos hcounts, hadd, addTotals, hhours]
    rfl
  · rw [if_neg hcounts, tally.addInterval_of_not_counts hcounts, add_zero]

/-- The days have all hours of the summary. -/
def UsageTally.Full (tally : UsageTally) : Prop :=
  dailyHoursSum tally.dailyTotals = tally.summary.sandboxHours

/-- An interval keeps the balance, and the days stay full where it starts behind the first. -/
theorem UsageTally.Balanced.addInterval {input : SandboxUsageAggregateInput} {tally : UsageTally}
    (h : tally.Balanced input) (interval : ResolvedRuntimeInterval) :
    (tally.addInterval input interval).Balanced input ∧
    ((tally.addInterval input interval).Full ↔ tally.Full ∧
      (Counts input interval → startOfUtcDay input.periodStart ≤ clippedStart input interval)) := by
  by_cases hcounts : Counts input interval
  · rcases tally.addInterval_of_counts hcounts with ⟨instance_, totals, hhours, hadd⟩
    have hgain : ∀ target, (addTotals target totals).sandboxHours =
        target.sandboxHours + intervalHours input interval := by
      intro target
      rw [addTotals, hhours]
    have hdays := addDailyHours_spec (startOfUtcDay input.periodStart) (clippedEnd input interval)
      (clippedStart input interval) tally.dailyTotals hcounts.2.le fun t hstart hend => by
        rw [h.days]
        exact mem_keys_createDailyTotals (le_trans (le_max_right _ _) hstart)
          (lt_of_lt_of_le hend (min_le_right _ _))
    have hsum : hoursBetween (clippedStart input interval) (clippedEnd input interval) =
        intervalHours input interval := rfl
    rw [hsum] at hdays
    have hdaily := h.daily
    rw [hadd]
    constructor
    · exact {
        profiles := by rw [totalHours_changeTotals _ _ hgain, hgain, h.profiles]
        activities := by rw [totalHours_changeTotals _ _ hgain, hgain, h.activities]
        rows := keys_changeTotals_activity h.rows _ _
        days := (keys_addDailyHours _ _ _).trans h.days
        daily := by
          rw [hgain]
          linarith [hdays.1] }
    · rw [UsageTally.Full, UsageTally.Full, hgain]
      constructor
      · intro hfull
        have hall : dailyHoursSum tally.dailyTotals = tally.summary.sandboxHours := by
          linarith [hdays.1]
        rw [← hall] at hfull
        exact ⟨hall, fun _ => (hdays.2.mp hfull).resolve_left hcounts.2.ne⟩
      · rintro ⟨hfull, hfirst⟩
        rw [← hfull]
        exact hdays.2.mpr (.inr (hfirst hcounts))
  · rw [tally.addInterval_of_not_counts hcounts]
    exact ⟨h, (and_iff_left fun hmine => absurd hmine hcounts).symm⟩

/-- A run has no hours. -/
theorem UsageTally.Balanced.addRun {input : SandboxUsageAggregateInput} {tally : UsageTally}
    (h : tally.Balanced input) (run : SandboxUsageRunRow) :
    (tally.addRun input run).Balanced input ∧
    (tally.addRun input run).summary.sandboxHours = tally.summary.sandboxHours ∧
    ((tally.addRun input run).Full ↔ tally.Full) := by
  rw [UsageTally.addRun]
  split
  · exact ⟨h, rfl, Iff.rfl⟩
  · rename_i instance_ _
    have hgain : ∀ totals, (countRun totals).sandboxHours = totals.sandboxHours + 0 := by
      intro totals
      rw [add_zero, countRun]
    have hdays : ∀ dailyTotals : InsertionMap (List Char) DailyTotals,
        dailyTotals = (match tally.dailyTotals.get? (isoDay run.startedAt) with
          | some totals =>
            tally.dailyTotals.set (isoDay run.startedAt)
              { totals with runCount := totals.runCount + 1 }
          | none => tally.dailyTotals) →
        dailyTotals.keys = tally.dailyTotals.keys ∧
          dailyHoursSum dailyTotals = dailyHoursSum tally.dailyTotals := by
      intro dailyTotals heq
      split at heq
      · rename_i totals hget
        have hmem := InsertionMap.mem_keys_of_mem (InsertionMap.get?_eq_some_iff.mp hget)
        have hsum := InsertionMap.sum_values_set tally.dailyTotals (isoDay run.startedAt)
          { totals with runCount := totals.runCount + 1 } DailyTotals.sandboxHours
        rw [hget, Option.map_some, Option.getD_some] at hsum
        rw [heq, InsertionMap.keys_set_of_mem hmem]
        exact ⟨rfl, add_right_cancel hsum⟩
      · rw [heq]
        exact ⟨rfl, rfl⟩
    rcases hdays _ rfl with ⟨hkeys, hsum⟩
    refine ⟨?_, rfl, ?_⟩
    · exact {
        profiles := by
          rw [totalHours_changeTotals _ _ hgain, h.profiles, add_zero]
          rfl
        activities := by
          rw [totalHours_changeTotals _ _ hgain, h.activities, add_zero]
          rfl
        rows := keys_changeTotals_activity h.rows _ _
        days := hkeys.trans h.days
        daily := hsum.le.trans h.daily }
    · rw [UsageTally.Full, UsageTally.Full, hsum]
      rfl

theorem UsageTally.Balanced.addIntervals {input : SandboxUsageAggregateInput} {tally : UsageTally}
    (h : tally.Balanced input) (intervals : List ResolvedRuntimeInterval) :
    (intervals.foldl (UsageTally.addInterval input) tally).Balanced input ∧
    (intervals.foldl (UsageTally.addInterval input) tally).summary.sandboxHours =
      tally.summary.sandboxHours + (intervals.map (countedHours input)).sum ∧
    ((intervals.foldl (UsageTally.addInterval input) tally).Full ↔ tally.Full ∧
      ∀ interval ∈ intervals, Counts input interval →
        startOfUtcDay input.periodStart ≤ clippedStart input interval) := by
  induction intervals generalizing tally with
  | nil => exact ⟨h, (add_zero _).symm, by simp⟩
  | cons interval intervals ih =>
      have hadd := h.addInterval interval
      have hrest := ih hadd.1
      rw [tally.hours_addInterval, add_assoc, hadd.2, and_assoc] at hrest
      rw [List.foldl_cons, List.map_cons, List.sum_cons, List.forall_mem_cons]
      exact hrest

/-- The intervals of all groups. -/
def allIntervals (groups : List (List SandboxUsageEventRow)) : List ResolvedRuntimeInterval :=
  groups.flatMap resolveRuntimeIntervals

theorem foldl_addGroup (input : SandboxUsageAggregateInput)
    (groups : List (List SandboxUsageEventRow)) (tally : UsageTally) :
    groups.foldl (UsageTally.addGroup input) tally =
      (allIntervals groups).foldl (UsageTally.addInterval input) tally := by
  rw [allIntervals, List.foldl_flatMap]
  rfl

theorem UsageTally.Balanced.addRuns {input : SandboxUsageAggregateInput} {tally : UsageTally}
    (h : tally.Balanced input) (runs : List SandboxUsageRunRow) :
    (runs.foldl (UsageTally.addRun input) tally).Balanced input ∧
    (runs.foldl (UsageTally.addRun input) tally).summary.sandboxHours =
      tally.summary.sandboxHours ∧
    ((runs.foldl (UsageTally.addRun input) tally).Full ↔ tally.Full) := by
  induction runs generalizing tally with
  | nil => exact ⟨h, rfl, Iff.rfl⟩
  | cons run runs ih =>
      have hadd := h.addRun run
      have hrest := ih hadd.1
      rw [hadd.2.1, hadd.2.2] at hrest
      exact hrest

/-- The rows have the hours of what was added up. -/
theorem UsageTally.Balanced.result {input : SandboxUsageAggregateInput} {tally : UsageTally}
    (h : tally.Balanced input) (localeCompare : String → String → Int) :
    let result := tally.result sandboxUsageActivities localeCompare
    (result.profileBreakdown.map fun row => row.2.sandboxHours).sum =
      result.summary.sandboxHours ∧
    (result.activityBreakdown.map fun row => row.2.sandboxHours).sum =
      result.summary.sandboxHours := by
  constructor
  · have hperm := (List.mergeSort_perm tally.profileTotals.entries fun left right =>
      compareBreakdownRows localeCompare left right ≤ 0).map fun row => row.2.sandboxHours
    refine hperm.sum_eq.trans (Eq.trans ?_ h.profiles)
    rw [totalHours, InsertionMap.values, List.map_map]
    rfl
  · refine Eq.trans ?_ h.activities
    rw [totalHours, UsageTally.result, ← h.rows, List.map_map]
    have hread := congrArg (List.map fun totals : Option SandboxUsageTotals =>
      (totals.getD createEmptyTotals).sandboxHours) tally.activityTotals.map_get?_keys
    rw [List.map_map, List.map_map] at hread
    exact congrArg List.sum hread

/-- What the groups are added up to. -/
theorem aggregateSandboxUsage_spec (input : SandboxUsageAggregateInput)
    (localeCompare : String → String → Int) :
    let result := aggregateSandboxUsage sandboxUsageActivities input localeCompare
    let intervals := allIntervals (groupEventsByIntervalKey input.events).values
    result.summary.sandboxHours = (intervals.map (countedHours input)).sum ∧
    (result.profileBreakdown.map fun row => row.2.sandboxHours).sum =
      result.summary.sandboxHours ∧
    (result.activityBreakdown.map fun row => row.2.sandboxHours).sum =
      result.summary.sandboxHours ∧
    ((result.dailyUsage.map fun row => row.2.sandboxHours).sum = result.summary.sandboxHours ↔
      ∀ interval ∈ intervals, Counts input interval →
        startOfUtcDay input.periodStart ≤ clippedStart input interval) := by
  intro result intervals
  have hstart := UsageTally.Balanced.start input
  have hgroups := hstart.addIntervals intervals
  have hruns := hgroups.1.addRuns input.runs
  rw [hgroups.2.1, hgroups.2.2, ← foldl_addGroup] at hruns
  have hresult : result = (input.runs.foldl (UsageTally.addRun input)
      ((groupEventsByIntervalKey input.events).values.foldl (UsageTally.addGroup input)
        (.start sandboxUsageActivities input))).result sandboxUsageActivities localeCompare := rfl
  generalize input.runs.foldl (UsageTally.addRun input)
    ((groupEventsByIntervalKey input.events).values.foldl (UsageTally.addGroup input)
      (.start sandboxUsageActivities input)) = tally at hruns hresult
  have hrows := hruns.1.result localeCompare
  have hempty : (UsageTally.start sandboxUsageActivities input).Full :=
    dailyHoursSum_createDailyTotalsFrom _ _ _ fun _ h => absurd h List.not_mem_nil
  rw [hresult]
  refine ⟨hruns.2.1.trans (zero_add _), hrows.1, hrows.2, ?_⟩
  have hdays : ((tally.result sandboxUsageActivities localeCompare).dailyUsage.map
      fun row => row.2.sandboxHours) = tally.dailyTotals.values.map DailyTotals.sandboxHours := by
    rw [InsertionMap.values, List.map_map]
    rfl
  rw [hdays]
  exact hruns.2.2.trans (and_iff_right hempty)

end Mistle
