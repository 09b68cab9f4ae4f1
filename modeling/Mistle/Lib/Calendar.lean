import Mathlib.Algebra.Ring.Int.Defs
import Mathlib.Algebra.Ring.Nat
import Mathlib.Tactic.Common

/-!
# Days of a Calendar

Days counted from the epoch, and the year, month and day of the month that they have
in the Gregorian calendar, extended to all years. The functions are those by which
JavaScript defines its dates. A time is a number of milliseconds.

Making a time out of a year, a month and a day has an exception: a year from 0 to 99
stands for a year of the twentieth century. So the start of the day of a time, made
out of what the time shows, is not always before the time.

## Main definitions

* `dayFromYear`, `yearFromDay`: The first day of a year, and the year of a day.
* `monthFromDay`, `dateFromDay`: The month and the day of the month.
* `dateUtc`: A time made out of a year, a month and a day.
* `startOfUtcDay`: The start of a day, made in that way.
* `isoDay`: The first ten characters of a time as it is written.

## Theorems

* `yearFromDay_spec`: The year of a day is the one that it is in.
* `startOfUtcDay_of_year`, `startOfUtcDay_of_early`: The start of a day, and the exception.
* `lt_startOfUtcDay`: It ends after every time that it is made of.
* `isoDay_inj`: What is written tells the days of four-digit years from all others.
-/

namespace Mistle

def millisecondsPerDay : Int := 24 * 60 * 60 * 1000

/-- The first day of a year. -/
def dayFromYear (year : Int) : Int :=
  365 * (year - 1970) + (year - 1969) / 4 - (year - 1901) / 100 + (year - 1601) / 400

/-- A hundred years have fewer leap days than years. -/
theorem dayFromYear_le {year year' : Int} (h : year ≤ year') :
    dayFromYear year ≤ dayFromYear year' := by
  have hleap : (year - 1969) / 4 ≤ (year' - 1969) / 4 := Int.ediv_le_ediv (by decide) (by omega)
  have hcentury : (year' - 1901) / 100 ≤ (year - 1901) / 100 + (year' - year) := by omega
  have hcycle : (year - 1601) / 400 ≤ (year' - 1601) / 400 :=
    Int.ediv_le_ediv (by decide) (by omega)
  rw [dayFromYear, dayFromYear]
  omega

/-- The year of a day, which is near the year that days of mean length lead to. -/
def yearFromDay (day : Int) : Int :=
  let year := 1970 + 400 * day / 146097
  if day < dayFromYear year then year - 1
  else if dayFromYear (year + 1) ≤ day then year + 1
  else year

theorem yearFromDay_spec (day : Int) :
    dayFromYear (yearFromDay day) ≤ day ∧ day < dayFromYear (yearFromDay day + 1) := by
  rw [yearFromDay]
  generalize hyear : 1970 + 400 * day / 146097 = year
  have hlow : 146097 * (year - 1970) ≤ 400 * day := by omega
  have hhigh : 400 * day < 146097 * (year - 1970) + 146097 := by omega
  split
  · rename_i hbefore
    rw [sub_add_cancel]
    simp only [dayFromYear] at *
    omega
  · rename_i hbefore
    split
    · rename_i hafter
      simp only [dayFromYear] at *
      omega
    · rename_i hafter
      simp only [dayFromYear] at *
      omega

def isLeapYear (year : Int) : Bool :=
  decide (year % 4 = 0) && (decide (year % 100 ≠ 0) || decide (year % 400 = 0))

/-- The days of a year before a month, where the first month is zero. -/
def daysBeforeMonth (leap : Bool) : Nat → Nat
  | 0 => 0
  | 1 => 31
  | month + 2 =>
    [59, 90, 120, 151, 181, 212, 243, 273, 304, 334].getD month 0 + (if leap then 1 else 0)

/-- The month that a day of a year is in. -/
def monthWithinYear (leap : Bool) (dayWithinYear : Nat) : Nat :=
  (List.range' 1 11).countP fun month => daysBeforeMonth leap month ≤ dayWithinYear

def dayWithinYear (day : Int) : Nat :=
  (day - dayFromYear (yearFromDay day)).toNat

def monthFromDay (day : Int) : Nat :=
  monthWithinYear (isLeapYear (yearFromDay day)) (dayWithinYear day)

/-- The day of the month, where the first day is one. -/
def dateFromDay (day : Int) : Int :=
  dayWithinYear day - daysBeforeMonth (isLeapYear (yearFromDay day)) (monthFromDay day) + 1

def makeDay (year : Int) (month : Nat) (date : Int) : Int :=
  dayFromYear year + daysBeforeMonth (isLeapYear year) month + date - 1

/-- A time made out of a year, a month and a day. -/
def dateUtc (year : Int) (month : Nat) (date : Int) : Int :=
  makeDay (if 0 ≤ year ∧ year ≤ 99 then 1900 + year else year) month date * millisecondsPerDay

def dayOf (time : Int) : Int :=
  time / millisecondsPerDay

/-- The start of the day of a time, made out of what the time shows. -/
def startOfUtcDay (time : Int) : Int :=
  dateUtc (yearFromDay (dayOf time)) (monthFromDay (dayOf time)) (dateFromDay (dayOf time))

/-- The years of days are in their order. -/
theorem yearFromDay_le {day day' : Int} (h : day ≤ day') : yearFromDay day ≤ yearFromDay day' := by
  by_contra hlt
  have hle := dayFromYear_le (show yearFromDay day' + 1 ≤ yearFromDay day by omega)
  have hspec := (yearFromDay_spec day).1
  have hspec' := (yearFromDay_spec day').2
  omega

/-- What a day shows leads back to it. -/
theorem makeDay_of_day (day : Int) :
    makeDay (yearFromDay day) (monthFromDay day) (dateFromDay day) = day := by
  have hyear := (yearFromDay_spec day).1
  rw [makeDay, dateFromDay, dayWithinYear]
  omega

theorem dayOf_spec (time : Int) :
    dayOf time * millisecondsPerDay ≤ time ∧
      time < dayOf time * millisecondsPerDay + millisecondsPerDay := by
  rw [dayOf, millisecondsPerDay]
  omega

theorem startOfUtcDay_of_year {time : Int}
    (hyear : ¬ (0 ≤ yearFromDay (dayOf time) ∧ yearFromDay (dayOf time) ≤ 99)) :
    startOfUtcDay time = dayOf time * millisecondsPerDay := by
  rw [startOfUtcDay, dateUtc, if_neg hyear, makeDay_of_day]

/-! ### The exception -/

theorem daysBeforeMonth_le (leap leap' : Bool) (month : Nat) :
    daysBeforeMonth leap month ≤ daysBeforeMonth leap' month + 1 := by
  match month with
  | 0 => exact Nat.zero_le _
  | 1 => exact Nat.le_succ 31
  | month + 2 =>
      rw [daysBeforeMonth, daysBeforeMonth]
      split
      · split <;> omega
      · split <;> omega

/-- A day in one of the years from 0 to 99 leads to one nineteen centuries later. -/
theorem startOfUtcDay_of_early {time : Int}
    (hyear : 0 ≤ yearFromDay (dayOf time) ∧ yearFromDay (dayOf time) ≤ 99) :
    ∃ later, startOfUtcDay time = (dayOf time + later) * millisecondsPerDay ∧
      693958 ≤ later ∧ later ≤ 693962 := by
  have hspec := yearFromDay_spec (dayOf time)
  rw [startOfUtcDay, dateUtc, if_pos hyear, makeDay, dateFromDay, dayWithinYear]
  have hless := daysBeforeMonth_le (isLeapYear (yearFromDay (dayOf time)))
    (isLeapYear (1900 + yearFromDay (dayOf time))) (monthFromDay (dayOf time))
  have hmore := daysBeforeMonth_le (isLeapYear (1900 + yearFromDay (dayOf time)))
    (isLeapYear (yearFromDay (dayOf time))) (monthFromDay (dayOf time))
  generalize daysBeforeMonth (isLeapYear (yearFromDay (dayOf time))) (monthFromDay (dayOf time))
    = before at hless hmore ⊢
  generalize daysBeforeMonth (isLeapYear (1900 + yearFromDay (dayOf time)))
    (monthFromDay (dayOf time)) = before' at hless hmore ⊢
  generalize yearFromDay (dayOf time) = year at *
  generalize dayOf time = day at *
  refine ⟨_, congrArg (· * millisecondsPerDay) (add_sub_cancel day _).symm, ?_⟩
  simp only [dayFromYear] at *
  omega

/-- The day that starts there ends after the time. -/
theorem lt_startOfUtcDay (time : Int) : time < startOfUtcDay time + millisecondsPerDay := by
  have hday := (dayOf_spec time).2
  by_cases hyear : 0 ≤ yearFromDay (dayOf time) ∧ yearFromDay (dayOf time) ≤ 99
  · rcases startOfUtcDay_of_early hyear with ⟨later, hstart, hlater, _⟩
    rw [hstart]
    rw [millisecondsPerDay] at *
    omega
  · rw [startOfUtcDay_of_year hyear]
    exact hday

/-! ### Days as they are written -/

/-- A number in a given number of digits. -/
def paddedDigits (width n : Nat) : List Char :=
  (List.range width).reverse.map fun i => Char.ofNat (48 + n / 10 ^ i % 10)

/-- A year as it is written: four digits, or six of them behind a sign. -/
def isoYear (year : Int) : List Char :=
  if 0 ≤ year ∧ year ≤ 9999 then paddedDigits 4 year.toNat
  else (if year < 0 then '-' else '+') :: paddedDigits 6 year.natAbs

/-- The first ten characters of a time as it is written. -/
def isoDay (time : Int) : List Char :=
  (isoYear (yearFromDay (dayOf time)) ++ '-' :: paddedDigits 2 (monthFromDay (dayOf time) + 1) ++
    '-' :: paddedDigits 2 (dateFromDay (dayOf time)).toNat).take 10

theorem digit_inj {m n : Nat} (h : Char.ofNat (48 + m % 10) = Char.ofNat (48 + n % 10)) :
    m % 10 = n % 10 := by
  have hdigits : ∀ a b : Fin 10, Char.ofNat (48 + a) = Char.ofNat (48 + b) → a = b := by decide
  have heq := hdigits ⟨m % 10, Nat.mod_lt m (by decide)⟩ ⟨n % 10, Nat.mod_lt n (by decide)⟩ h
  exact congrArg Fin.val heq

theorem digit_ne_sign (n : Nat) (negative : Prop) [Decidable negative] :
    Char.ofNat (48 + n % 10) ≠ if negative then '-' else '+' := by
  have hdigits : ∀ a : Fin 10, Char.ofNat (48 + a) ≠ '-' ∧ Char.ofNat (48 + a) ≠ '+' := by decide
  have hdigit := hdigits ⟨n % 10, Nat.mod_lt n (by decide)⟩
  split
  · exact hdigit.1
  · exact hdigit.2

theorem dayWithinYear_lt (day : Int) : dayWithinYear day < 366 := by
  have hspec := yearFromDay_spec day
  rw [dayWithinYear]
  generalize yearFromDay day = year at *
  simp only [dayFromYear] at *
  omega

theorem monthWithinYear_spec : ∀ (leap : Bool) (day : Fin 366), monthWithinYear leap day ≤ 11 ∧
    daysBeforeMonth leap (monthWithinYear leap day) ≤ day ∧
    day < daysBeforeMonth leap (monthWithinYear leap day) + 32 := by
  decide +kernel

theorem dateFromDay_spec (day : Int) : monthFromDay day ≤ 11 ∧ 1 ≤ dateFromDay day ∧
    dateFromDay day ≤ 32 := by
  have hspec := monthWithinYear_spec (isLeapYear (yearFromDay day))
    ⟨dayWithinYear day, dayWithinYear_lt day⟩
  rw [dateFromDay, monthFromDay]
  dsimp only at hspec
  omega

/-- Four digits, two digits and two digits are those of three numbers. -/
theorem writtenDay_inj {year month date year' month' date' : Nat}
    (h : (paddedDigits 4 year ++ '-' :: paddedDigits 2 month ++
        '-' :: paddedDigits 2 date).take 10 =
      (paddedDigits 4 year' ++ '-' :: paddedDigits 2 month' ++
        '-' :: paddedDigits 2 date').take 10) :
    year % 10000 = year' % 10000 ∧ month % 100 = month' % 100 ∧ date % 100 = date' % 100 := by
  simp only [paddedDigits, List.range_succ, List.range_zero, List.nil_append, List.cons_append,
    List.reverse_cons, List.reverse_nil, List.map_cons, List.map_nil, List.take_succ_cons,
    List.take_zero, List.cons.injEq, and_true, true_and] at h
  rcases h with ⟨hy₃, hy₂, hy₁, hy₀, hm₁, hm₀, hd₁, hd₀⟩
  have hyear : year % 10000 = year' % 10000 := by
    have hthousands := digit_inj hy₃
    have hhundreds := digit_inj hy₂
    have htens := digit_inj hy₁
    have hones := digit_inj hy₀
    omega
  have hmonth : month % 100 = month' % 100 := by
    have htens := digit_inj hm₁
    have hones := digit_inj hm₀
    omega
  have hdate : date % 100 = date' % 100 := by
    have htens := digit_inj hd₁
    have hones := digit_inj hd₀
    omega
  exact ⟨hyear, hmonth, hdate⟩

/-- What is written tells the days of four-digit years from all others. -/
theorem isoDay_inj {a b : Int}
    (hyear : 0 ≤ yearFromDay (dayOf a) ∧ yearFromDay (dayOf a) ≤ 9999)
    (h : isoDay a = isoDay b) : dayOf a = dayOf b := by
  have ha := dateFromDay_spec (dayOf a)
  have hb := dateFromDay_spec (dayOf b)
  rw [isoDay, isoDay, isoYear, if_pos hyear, isoYear] at h
  split at h
  · rename_i hyear'
    rw [← makeDay_of_day (dayOf a), ← makeDay_of_day (dayOf b)]
    generalize yearFromDay (dayOf a) = year at *
    generalize yearFromDay (dayOf b) = year' at *
    generalize monthFromDay (dayOf a) = month at *
    generalize monthFromDay (dayOf b) = month' at *
    generalize dateFromDay (dayOf a) = date at *
    generalize dateFromDay (dayOf b) = date' at *
    rcases writtenDay_inj h with ⟨hy, hm, hd⟩
    have hsame : year = year' ∧ month = month' ∧ date = date' := by omega
    rw [hsame.1, hsame.2.1, hsame.2.2]
  · -- Six digits have a sign before them.
    exact absurd (List.head_eq_of_cons_eq h) (digit_ne_sign _ _)

end Mistle
