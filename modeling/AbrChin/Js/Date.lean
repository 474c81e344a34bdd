import Mathlib.Algebra.Order.Ring.Int
import Mathlib.Data.Int.ConditionallyCompleteOrder
import Mathlib.Order.CompleteLatticeIntervals
import Mathlib.Order.SuccPred.IntervalSucc
import Mathlib.Tactic.Ring

/-!
# Dates

What the modelled functions use of the class `Date`: the UTC calendar, of which a date is
its number of milliseconds.  Months are counted from January of the year 0, so the month
of a date is twelve times its year plus its `getUTCMonth`.  The calendar goes on beyond the range
of the class; a time value does not.
-/

namespace AbrChin.Js

def msPerDay : ℤ := 86400000

/-! ## The calendar -/

/-- The number of the first day of a year that begins with March, so that the leap day is
the last of its year. -/
def yearStart (year : ℤ) : ℤ := 365 * year + year / 4 - year / 100 + year / 400 - 719468

/-- The number of the first day of a month. -/
def firstDay (month : ℤ) : ℤ := yearStart ((month - 2) / 12) + (153 * ((month - 2) % 12) + 2) / 5

/-- The month that a day is in. -/
def monthOfDay (day : ℤ) : ℤ :=
  let era := (day + 719468) / 146097
  let dayOfEra := (day + 719468) % 146097
  let century := min (dayOfEra / 36524) 3
  let dayOfCentury := dayOfEra - 36524 * century
  let cycle := dayOfCentury / 1461
  let dayOfCycle := dayOfCentury % 1461
  let year := min (dayOfCycle / 365) 3
  let dayOfYear := dayOfCycle - 365 * year
  12 * (400 * era + 100 * century + 4 * cycle + year) + (5 * dayOfYear + 2) / 153 + 2

theorem firstDay_eq {year month : ℤ} (hfrom : 0 ≤ month) (hto : month < 12) :
    firstDay (12 * year + month + 2) = yearStart year + (153 * month + 2) / 5 := by
  have hyear : (12 * year + month + 2 - 2) / 12 = year := by omega
  have hmonth : (12 * year + month + 2 - 2) % 12 = month := by omega
  rw [firstDay, hyear, hmonth]

/-- The month after the last one of a year is the first one of the next. -/
theorem firstDay_next (year : ℤ) : firstDay (12 * year + 11 + 2 + 1) = yearStart (year + 1) := by
  have hfirst : firstDay (12 * (year + 1) + 0 + 2) = yearStart (year + 1) + (153 * 0 + 2) / 5 :=
    firstDay_eq le_rfl (by decide)
  rw [show 12 * year + 11 + 2 + 1 = 12 * (year + 1) + 0 + 2 by ring, hfirst]
  exact add_zero _

/-- A month has between 28 and 31 days. -/
theorem firstDay_succ (month : ℤ) :
    firstDay month + 28 ≤ firstDay (month + 1) ∧ firstDay (month + 1) ≤ firstDay month + 31 := by
  obtain ⟨year, index, hfrom, hto, rfl⟩ : ∃ year index : ℤ, 0 ≤ index ∧ index < 12 ∧
      month = 12 * year + index + 2 :=
    ⟨(month - 2) / 12, (month - 2) % 12, by omega, by omega, by omega⟩
  rw [firstDay_eq hfrom hto]
  by_cases hlast : index = 11
  · subst hlast
    rw [firstDay_next]
    unfold yearStart
    omega
  · rw [show 12 * year + index + 2 + 1 = 12 * year + (index + 1) + 2 by ring,
      firstDay_eq (by omega) (by omega)]
    omega

theorem firstDay_strictMono : StrictMono firstDay := by
  refine strictMono_int_of_lt_succ fun month => ?_
  have := (firstDay_succ month).1
  omega

/-- The first day of a year, by its era, its century, its cycle of four years and its place in it. -/
theorem yearStart_eq {era century cycle year : ℤ} (hcentury : 0 ≤ century ∧ century ≤ 3)
    (hcycle : 0 ≤ cycle ∧ cycle ≤ 24) (hyear : 0 ≤ year ∧ year ≤ 3) :
    yearStart (400 * era + 100 * century + 4 * cycle + year) =
      146097 * era + 36524 * century + 1461 * cycle + 365 * year - 719468 := by
  unfold yearStart
  omega

/-- The last year of a cycle, a century or an era is followed by the first one of the next. -/
theorem yearStart_succ {era century cycle year : ℤ} (hcentury : 0 ≤ century ∧ century ≤ 3)
    (hcycle : 0 ≤ cycle ∧ cycle ≤ 24) (hyear : 0 ≤ year ∧ year ≤ 3) :
    yearStart (400 * era + 100 * century + 4 * cycle + year + 1) + 719468 =
      if year < 3 then 146097 * era + 36524 * century + 1461 * cycle + 365 * (year + 1)
      else if cycle < 24 then 146097 * era + 36524 * century + 1461 * (cycle + 1)
      else if century < 3 then 146097 * era + 36524 * (century + 1)
      else 146097 * (era + 1) := by
  unfold yearStart
  split_ifs <;> omega

/-- A day has a year, and its place in it gives its month. -/
theorem exists_parts (day : ℤ) : ∃ year dayOfYear : ℤ,
    day = yearStart year + dayOfYear ∧ 0 ≤ dayOfYear ∧ dayOfYear ≤ 365 ∧
      day < yearStart (year + 1) ∧ monthOfDay day = 12 * year + (5 * dayOfYear + 2) / 153 + 2 := by
  unfold monthOfDay
  simp only
  set era := (day + 719468) / 146097 with hera
  set dayOfEra := (day + 719468) % 146097 with hdayOfEra
  have hday : day + 719468 = 146097 * era + dayOfEra := by omega
  have hrange : 0 ≤ dayOfEra ∧ dayOfEra < 146097 := by omega
  clear_value era dayOfEra
  set century := min (dayOfEra / 36524) 3 with hcentury
  have hcenturyRange : (0 ≤ century ∧ century ≤ 3) ∧ 36524 * century ≤ dayOfEra ∧
      (century < 3 → dayOfEra < 36524 * (century + 1)) := by omega
  clear_value century
  set dayOfCentury := dayOfEra - 36524 * century with hdayOfCentury
  set cycle := dayOfCentury / 1461 with hcycle
  set dayOfCycle := dayOfCentury % 1461 with hdayOfCycle
  have hcycleRange : (0 ≤ cycle ∧ cycle ≤ 24) ∧ dayOfCentury = 1461 * cycle + dayOfCycle ∧
      0 ≤ dayOfCycle ∧ dayOfCycle < 1461 := by omega
  clear_value cycle dayOfCycle
  set year := min (dayOfCycle / 365) 3 with hyear
  have hyearRange : (0 ≤ year ∧ year ≤ 3) ∧ 365 * year ≤ dayOfCycle ∧
      (year < 3 → dayOfCycle < 365 * (year + 1)) := by omega
  clear_value year
  have hstart : yearStart (400 * era + 100 * century + 4 * cycle + year) = _ :=
    yearStart_eq hcenturyRange.1 hcycleRange.1 hyearRange.1
  have hsucc : yearStart (400 * era + 100 * century + 4 * cycle + year + 1) + 719468 = _ :=
    yearStart_succ hcenturyRange.1 hcycleRange.1 hyearRange.1
  refine ⟨400 * era + 100 * century + 4 * cycle + year, dayOfCycle - 365 * year, ?_, ?_, ?_, ?_, rfl⟩
  · rw [hstart]
    omega
  · omega
  · omega
  · split_ifs at hsucc <;> omega

/-- **The month of a day contains it.** -/
theorem monthOfDay_spec (day : ℤ) :
    firstDay (monthOfDay day) ≤ day ∧ day < firstDay (monthOfDay day + 1) := by
  obtain ⟨year, dayOfYear, hday, hfrom, hto, hnext, hmonth⟩ := exists_parts day
  set month := (5 * dayOfYear + 2) / 153 with hindex
  have hrange : 0 ≤ month ∧ month < 12 ∧ (153 * month + 2) / 5 ≤ dayOfYear ∧
      dayOfYear < (153 * (month + 1) + 2) / 5 := by omega
  rw [hmonth, firstDay_eq hrange.1 hrange.2.1]
  refine ⟨by omega, ?_⟩
  by_cases hlast : month = 11
  · rw [hlast, firstDay_next]
    exact hnext
  · rw [show 12 * year + month + 2 + 1 = 12 * year + (month + 1) + 2 by ring,
      firstDay_eq (by omega) (by omega)]
    omega

theorem monthOfDay_eq {day month : ℤ} (hfrom : firstDay month ≤ day)
    (hto : day < firstDay (month + 1)) : monthOfDay day = month := by
  obtain ⟨hfrom', hto'⟩ := monthOfDay_spec day
  have hle : month < monthOfDay day + 1 := firstDay_strictMono.lt_iff_lt.1 (hfrom.trans_lt hto')
  have hge : monthOfDay day < month + 1 := firstDay_strictMono.lt_iff_lt.1 (hfrom'.trans_lt hto)
  omega

/-! ## `Date` -/

/-- The day of a date. -/
def utcDay (value : ℤ) : ℤ := value / msPerDay

/-- The month of a date, with its year. -/
def utcMonth (value : ℤ) : ℤ := monthOfDay (utcDay value)

def getUTCDate (value : ℤ) : ℤ := utcDay value - firstDay (utcMonth value) + 1

/-- The time of the day of `value`, on another day. -/
def onDay (value day : ℤ) : ℤ := day * msPerDay + value % msPerDay

def setUTCDate (value date : ℤ) : ℤ := onDay value (firstDay (utcMonth value) + date - 1)

/-- `setUTCMonth(getUTCMonth() + months)` -/
def addUTCMonths (value months : ℤ) : ℤ :=
  onDay value (firstDay (utcMonth value + months) + getUTCDate value - 1)

/-- `Date.UTC(year, month, date)` -/
def dateUTC (month date : ℤ) : ℤ := (firstDay month + date - 1) * msPerDay

theorem msPerDay_pos : 0 < msPerDay := by decide

@[simp] theorem utcDay_onDay (value day : ℤ) : utcDay (onDay value day) = day := by
  have hmod := Int.emod_nonneg value msPerDay_pos.ne'
  have hlt := Int.emod_lt_of_pos value msPerDay_pos
  rw [utcDay, onDay, add_comm, Int.add_mul_ediv_right _ _ msPerDay_pos.ne',
    Int.ediv_eq_zero_of_lt hmod hlt, zero_add]

@[simp] theorem utcDay_dateUTC (month date : ℤ) : utcDay (dateUTC month date) = firstDay month + date - 1 :=
  Int.mul_ediv_cancel _ msPerDay_pos.ne'

theorem onDay_utcDay (value : ℤ) : onDay value (utcDay value) = value := by
  rw [onDay, utcDay, mul_comm]
  exact Int.mul_ediv_add_emod value msPerDay

@[simp] theorem onDay_onDay (value first second : ℤ) :
    onDay (onDay value first) second = onDay value second := by
  rw [onDay, onDay, onDay, add_comm (first * msPerDay), Int.add_mul_emod_self_right,
    Int.emod_emod_of_dvd _ dvd_rfl]

theorem onDay_add (value day days : ℤ) : onDay value (day + days) = onDay value day + days * msPerDay := by
  unfold onDay
  ring

/-- A day of a month. -/
theorem utcMonth_of_day {value month : ℤ} (date : ℤ)
    (hday : utcDay value = firstDay month + date - 1) (hfrom : 1 ≤ date) (hto : firstDay month + date ≤ firstDay (month + 1)) :
    utcMonth value = month :=
  monthOfDay_eq (by omega) (by omega)

/-! ## Time values

A `Date` as a time value, which is `NaN` (`none`) beyond the range of the class: a hundred million
days before and after 1970.  `Date.UTC` reads the years 0 to 99 as those of the 20th century.
-/

/-- The greatest time value. -/
def maxTime : ℤ := 8640000000000000

def timeClip (time : ℤ) : Option ℤ := if -maxTime ≤ time ∧ time ≤ maxTime then some time else none

/-- `new Date(time)` -/
def newDate (time : Option ℤ) : Option ℤ := time.bind timeClip

/-- `a < b` on Numbers -/
def lessThan : Option ℤ → Option ℤ → Bool
  | some a, some b => a < b
  | _, _ => false

/-! ## The parts of a date -/

def getUTCFullYear (value : ℤ) : ℤ := utcMonth value / 12

def getUTCMonth (value : ℤ) : ℤ := utcMonth value % 12

/-- 1970 began on a Thursday. -/
def weekday (day : ℤ) : ℤ := (day + 4) % 7

def getUTCDay (value : ℤ) : ℤ := weekday (utcDay value)

def getUTCHours (value : ℤ) : ℤ := value % msPerDay / 3600000

def getUTCMinutes (value : ℤ) : ℤ := value % 3600000 / 60000

def getUTCSeconds (value : ℤ) : ℤ := value % 60000 / 1000

def getUTCMilliseconds (value : ℤ) : ℤ := value % 1000

/-- `MakeFullYear` of the language -/
def makeFullYear (year : ℤ) : ℤ := if 0 ≤ year ∧ year ≤ 99 then 1900 + year else year

/-- `Date.UTC` of all its arguments -/
def dateUTCOf (year month date hour minute second millisecond : ℤ) : Option ℤ :=
  timeClip (dateUTC (12 * makeFullYear year + month) date +
    (hour * 3600000 + minute * 60000 + second * 1000 + millisecond))

theorem timeClip_eq {time : ℤ} (hfrom : -maxTime ≤ time) (hto : time ≤ maxTime) :
    timeClip time = some time :=
  if_pos ⟨hfrom, hto⟩

/-- Another time on the day of a date. -/
theorem dateUTCOf_parts {value : ℤ}
    (hyear : ¬ (0 ≤ getUTCFullYear value ∧ getUTCFullYear value ≤ 99)) (hour : ℤ) :
    dateUTCOf (getUTCFullYear value) (getUTCMonth value) (getUTCDate value) hour 0 0 0 =
      timeClip (utcDay value * msPerDay + hour * 3600000) := by
  have hmonth : 12 * getUTCFullYear value + getUTCMonth value = utcMonth value := by
    unfold getUTCFullYear getUTCMonth
    omega
  have hdate : firstDay (utcMonth value) + getUTCDate value - 1 = utcDay value := by
    unfold getUTCDate
    omega
  rw [dateUTCOf, makeFullYear, if_neg hyear, hmonth, dateUTC, hdate]
  congr 1
  omega

end AbrChin.Js
