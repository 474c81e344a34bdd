import AbrChin.Js.Date

/-!
# Billing periods

`lib/subscriptions/period.ts`: a billing month ends on the day of the next month that has
the number of the day it begins on, or on the last day of that month.
-/

namespace AbrChin.Subscriptions

open Js

def addBillingMonth (value : ℤ) : ℤ :=
  let originalDay := getUTCDate value
  let result := addUTCMonths (setUTCDate value 1) 1
  let lastDayOfTargetMonth := getUTCDate (dateUTC (utcMonth result + 1) 0)
  setUTCDate result (min originalDay lastDayOfTargetMonth)

/-- One month at least. -/
def addBillingMonths (value : ℤ) (months : ℤ) : ℤ := addBillingMonth^[(max 1 months).toNat] value

def addGracePeriod (value : ℤ) (days : ℤ) : ℤ := value + days * 24 * 60 * 60 * 1000

/-! ## The length of a month -/

theorem getUTCDate_pos (value : ℤ) : 1 ≤ getUTCDate value := by
  have := (monthOfDay_spec (utcDay value)).1
  unfold getUTCDate utcMonth
  omega

theorem getUTCDate_le (value : ℤ) :
    firstDay (utcMonth value) + getUTCDate value ≤ firstDay (utcMonth value + 1) := by
  have := (monthOfDay_spec (utcDay value)).2
  unfold getUTCDate utcMonth at *
  omega

/-- The day after a billing month. -/
theorem addBillingMonth_eq (value : ℤ) :
    addBillingMonth value = onDay value (firstDay (utcMonth value + 1) + min (getUTCDate value)
      (firstDay (utcMonth value + 2) - firstDay (utcMonth value + 1)) - 1) := by
  have hlong := firstDay_succ (utcMonth value)
  have hnext := firstDay_succ (utcMonth value + 1)
  rw [show utcMonth value + 1 + 1 = utcMonth value + 2 by ring] at hnext
  -- the first of the month, and the first of the next one
  set first := setUTCDate value 1 with hfirst
  have hfirstMonth : utcMonth first = utcMonth value :=
    utcMonth_of_day 1 (by simp [hfirst, setUTCDate]) le_rfl (by omega)
  have hfirstDate : getUTCDate first = 1 := by
    rw [getUTCDate, hfirstMonth, hfirst, setUTCDate, utcDay_onDay]
    ring
  set target := addUTCMonths first 1 with htarget
  have htargetDay : target = onDay value (firstDay (utcMonth value + 1)) := by
    rw [htarget, addUTCMonths, hfirstMonth, hfirstDate, hfirst, setUTCDate, onDay_onDay]
    congr 1
    ring
  have htargetMonth : utcMonth target = utcMonth value + 1 := by
    refine utcMonth_of_day 1 ?_ le_rfl ?_
    · rw [htargetDay, utcDay_onDay]
      ring
    · rw [show utcMonth value + 1 + 1 = utcMonth value + 2 by ring]
      omega
  -- the day before the month after that is the last one of the next month
  set lastDay := dateUTC (utcMonth target + 1) 0 with hlastDay
  have hlast : utcDay lastDay = firstDay (utcMonth value + 2) - 1 := by
    rw [hlastDay, utcDay_dateUTC, htargetMonth, show utcMonth value + 1 + 1 = utcMonth value + 2 by ring]
    ring
  have hlastMonth : utcMonth lastDay = utcMonth value + 1 := by
    refine monthOfDay_eq ?_ ?_
    · rw [hlast]
      omega
    · rw [hlast, show utcMonth value + 1 + 1 = utcMonth value + 2 by ring]
      omega
  have hlastDate : getUTCDate lastDay =
      firstDay (utcMonth value + 2) - firstDay (utcMonth value + 1) := by
    rw [getUTCDate, hlastMonth, hlast]
    ring
  show setUTCDate target (min (getUTCDate value) (getUTCDate lastDay)) = _
  rw [hlastDate, setUTCDate, htargetMonth, htargetDay, onDay_onDay]

/-- **A billing month has between 28 and 31 days.** -/
theorem addBillingMonth_bounds (value : ℤ) :
    value + 28 * msPerDay ≤ addBillingMonth value ∧ addBillingMonth value ≤ value + 31 * msPerDay := by
  have hlong := firstDay_succ (utcMonth value)
  have hnext := firstDay_succ (utcMonth value + 1)
  rw [show utcMonth value + 1 + 1 = utcMonth value + 2 by ring] at hnext
  have hpositive := getUTCDate_pos value
  have hle := getUTCDate_le value
  have hdate : getUTCDate value = utcDay value - firstDay (utcMonth value) + 1 := rfl
  -- the number of days that have passed
  obtain ⟨days, hdays, hfrom, hto⟩ : ∃ days, firstDay (utcMonth value + 1) + min (getUTCDate value)
      (firstDay (utcMonth value + 2) - firstDay (utcMonth value + 1)) - 1 = utcDay value + days ∧
      28 ≤ days ∧ days ≤ 31 :=
    ⟨firstDay (utcMonth value + 1) + min (getUTCDate value)
      (firstDay (utcMonth value + 2) - firstDay (utcMonth value + 1)) - 1 - utcDay value,
      by omega, by omega, by omega⟩
  rw [addBillingMonth_eq, hdays, onDay_add, onDay_utcDay]
  have hlower := Int.mul_le_mul_of_nonneg_right hfrom msPerDay_pos.le
  have hupper := Int.mul_le_mul_of_nonneg_right hto msPerDay_pos.le
  exact ⟨by omega, by omega⟩

theorem lt_addBillingMonth (value : ℤ) : value < addBillingMonth value := by
  have := (addBillingMonth_bounds value).1
  have := msPerDay_pos
  omega

/-- Billing months go forward. -/
theorem iterate_addBillingMonth_strictMono (value : ℤ) :
    StrictMono fun months : ℕ => addBillingMonth^[months] value := by
  refine strictMono_nat_of_lt_succ fun months => ?_
  rw [Function.iterate_succ_apply']
  exact lt_addBillingMonth _

example : addBillingMonth (dateUTC (12 * 2024 + 0) 31) = dateUTC (12 * 2024 + 1) 29 := by decide

end AbrChin.Subscriptions
