import Mistle.Lib.Text
import Mistle.Schedule.Database

/-!
# Occurrences of a Schedule

The occurrences of a cron expression in a timezone, up to the end of the schedule.
What a cron expression means and what a timezone does to it is left to a library, of
which only what this code calls is named.

## Main definitions

* `CronLibrary`: The calls to the libraries for cron expressions and timezones.
* `findNextScheduleOccurrence`, `findPreviousScheduleOccurrence`: The neighbours of an
  instant among the occurrences.
* `getScheduledLocalSlot`: The date and time of an instant in a timezone.
* `nineEveryDay`: The libraries on one expression and one timezone.
-/

namespace Mistle

structure ScheduledLocalSlot where
  localScheduledDate : String
  localScheduledTime : String
  deriving DecidableEq

structure ScheduleOccurrence where
  slot : ScheduledLocalSlot
  scheduledAt : Instant

/-- The libraries for cron expressions and timezones. -/
structure CronLibrary where
  /-- `new Cron(cronExpression, { mode: "5-part", paused: true })` -/
  newCron : String → Except String Unit
  /-- `new Intl.DateTimeFormat("en-US", { timeZone })` -/
  newDateTimeFormat : String → Except String Unit
  nextRun : (cronExpression timezone : String) → Instant → Option Instant
  previousRuns : (cronExpression timezone : String) → Nat → Instant → List Instant
  formatToParts : (timezone : String) → Instant → Except String ScheduledLocalSlot

def CronResolutionMs : Int := 60 * 1000

/-- `split(/\s+/)` of a text without white space at its ends. -/
def splitFields (text : List Char) : List (List Char) :=
  text.foldr (fun c fields =>
    match isWhiteSpace c, fields with
    | true, [] :: rest => [] :: rest
    | true, fields => [] :: fields
    | false, [] => [[c]]
    | false, field :: rest => (c :: field) :: rest) [[]]

section

variable (library : CronLibrary)

def validateScheduleCronExpression (cronExpression : String) : Except String Unit := do
  if (splitFields (trim cronExpression).toList).length ≠ 5 then
    throw "Schedule cron expression must use exactly 5 fields."
  library.newCron cronExpression

def validateIanaTimezone (timezone : String) : Except String Unit :=
  match library.newDateTimeFormat timezone with
  | .ok () => .ok ()
  | .error _ => .error s!"Invalid IANA timezone: {timezone}"

def createPausedScheduleCron (cronExpression timezone : String) : Except String Unit := do
  validateScheduleCronExpression library cronExpression
  validateIanaTimezone library timezone

def getScheduledLocalSlot (scheduledAt : Instant) (timezone : String) :
    Except String ScheduledLocalSlot := do
  validateIanaTimezone library timezone
  library.formatToParts timezone scheduledAt

def createScheduleOccurrence (scheduledAt : Instant) (timezone : String) :
    Except String ScheduleOccurrence := do
  let slot ← getScheduledLocalSlot library scheduledAt timezone
  return ⟨slot, scheduledAt⟩

/-- Whether an instant is not after the end. -/
def withinEnd (endAt : Option Instant) (run : Instant) : Bool :=
  match endAt with
  | none => true
  | some endAt => decide (run ≤ endAt)

def findNextScheduleOccurrence (cronExpression timezone : String) (after : Instant)
    (endAt : Option Instant) : Except String (Option ScheduleOccurrence) := do
  createPausedScheduleCron library cronExpression timezone
  match library.nextRun cronExpression timezone after with
  | none => return none
  | some nextRun =>
    if withinEnd endAt nextRun then
      let occurrence ← createScheduleOccurrence library nextRun timezone
      return some occurrence
    else return none

def findPreviousScheduleOccurrence (cronExpression timezone : String) (before : Instant)
    (endAt : Option Instant) : Except String (Option ScheduleOccurrence) := do
  createPausedScheduleCron library cronExpression timezone
  let reference := match endAt with
    | some endAt => if endAt < before then endAt + CronResolutionMs else before
    | none => before
  match (library.previousRuns cronExpression timezone 2 reference).find?
      fun run => decide (run < before) && withinEnd endAt run with
  | none => return none
  | some previousRun =>
    let occurrence ← createScheduleOccurrence library previousRun timezone
    return some occurrence

end

/-! ### Every day at nine -/

def HourMs : Int := 60 * 60 * 1000

def DayMs : Int := 24 * HourMs

/-- The date of a day, counted from the first of January 1970. -/
def civilDate (day : Int) : Int × Int × Int :=
  let z := day + 719468
  let era := z / 146097
  let doe := z - era * 146097
  let yoe := (doe - doe / 1460 + doe / 36524 - doe / 146096) / 365
  let doy := doe - (365 * yoe + yoe / 4 - yoe / 100)
  let mp := (5 * doy + 2) / 153
  let d := doy - (153 * mp + 2) / 5 + 1
  let m := if mp < 10 then mp + 3 else mp - 9
  (yoe + era * 400 + (if m ≤ 2 then 1 else 0), m, d)

def twoDigits (n : Int) : String :=
  if n < 10 then s!"0{n}" else s!"{n}"

/-- The libraries on the one expression `0 9 * * *` and the one timezone UTC. -/
def nineEveryDay : CronLibrary where
  newCron cronExpression :=
    if cronExpression = "0 9 * * *" then .ok () else .error "CronPattern: invalid configuration"
  newDateTimeFormat timezone :=
    if timezone = "UTC" then .ok () else .error "RangeError: Invalid time zone specified"
  nextRun _ _ after := some (((after - 9 * HourMs) / DayMs + 1) * DayMs + 9 * HourMs)
  previousRuns _ _ count reference :=
    (List.range count).map fun i =>
      ((reference - 9 * HourMs - 1) / DayMs - i) * DayMs + 9 * HourMs
  formatToParts _ instant :=
    let (y, m, d) := civilDate (instant / DayMs)
    .ok ⟨s!"{y}-{twoDigits m}-{twoDigits d}",
      s!"{twoDigits (instant % DayMs / HourMs)}:{twoDigits (instant % HourMs / (60 * 1000))}"⟩

end Mistle
