import AbrChin.Orders.PrepaidCancellation
import AbrChin.Subscriptions.CalendarMonths

/-!
# The end of a refund and the end of a subscription

A payment is consumed over months of 30 days, and a subscription ends after months of the
calendar.  The refund never grows, is whole at the start and is used up after the 30 days a month
(`refund_evenly`); where the calendar is shorter, as for a month that ends in February, a part is
left at the end of the period, unless it rounds to nothing.
-/

namespace AbrChin.Orders

open Lib Subscriptions

/-! ## What is left, as time passes -/

theorem applyFraction_mono {amount denominator : ℤ} (hamount : 0 ≤ amount)
    (hdenominator : 0 < denominator) {first second : ℤ} (h : first ≤ second) :
    applyFraction amount first denominator ≤ applyFraction amount second denominator := by
  have hmul : amount * first ≤ amount * second := mul_le_mul_of_nonneg_left h hamount
  unfold applyFraction
  split_ifs with hfirst hsecond hsecond
  · exact le_rfl
  · push Not at hsecond
    have hproduct := mul_nonneg hamount hsecond.2.le
    exact Int.ediv_nonneg (by omega) hdenominator.le
  · omega
  · exact Int.ediv_le_ediv hdenominator (by omega)

theorem unusedRial_antitone {amount : ℤ} (hamount : 0 ≤ amount) (termMonths : ℤ) :
    Antitone (unusedRial amount termMonths) := by
  intro first second h
  have hpart : min (max first 0) (termMilliseconds termMonths) ≤
      min (max second 0) (termMilliseconds termMonths) := by omega
  have := applyFraction_mono hamount (termMilliseconds_pos termMonths) hpart
  unfold unusedRial
  omega

theorem unusedRial_before {elapsed : ℤ} (h : elapsed ≤ 0) (amount termMonths : ℤ) :
    unusedRial amount termMonths elapsed = amount := by
  have hpositive := termMilliseconds_pos termMonths
  have hnone : min (max elapsed 0) (termMilliseconds termMonths) = 0 := by omega
  rw [unusedRial, hnone, applyFraction, if_pos (.inr le_rfl), sub_zero]

/-- Nothing is left when what is left rounds to nothing. -/
theorem unusedRial_eq_zero_iff {amount elapsed : ℤ} (hamount : 0 ≤ amount) (helapsed : 0 < elapsed)
    (termMonths : ℤ) : unusedRial amount termMonths elapsed = 0 ↔
      amount * (termMilliseconds termMonths - elapsed) ≤ termMilliseconds termMonths / 2 := by
  have hpositive := termMilliseconds_pos termMonths
  set term := termMilliseconds termMonths
  have hunused := @unusedRial_bounds amount termMonths elapsed hamount
  rcases hamount.eq_or_lt with rfl | hamount
  · have hzero : unusedRial 0 termMonths elapsed = 0 := by omega
    rw [hzero, zero_mul]
    exact iff_of_true rfl (by omega)
  · have hpart : 0 < min elapsed term := by omega
    have hfraction : applyFraction amount (min (max elapsed 0) term) term =
        (amount * min elapsed term + term / 2) / term := by
      rw [max_eq_left helapsed.le, applyFraction, if_neg (by omega)]
    have hround : amount ≤ (amount * min elapsed term + term / 2) / term ↔
        amount * (term - min elapsed term) ≤ term / 2 := by
      rw [Int.le_ediv_iff_mul_le hpositive, mul_sub]
      omega
    have hsame : amount * (term - min elapsed term) ≤ term / 2 ↔
        amount * (term - elapsed) ≤ term / 2 := by
      rcases le_total elapsed term with hle | hle
      · rw [min_eq_left hle]
      · rw [min_eq_right hle, sub_self, mul_zero]
        have hneg : amount * (term - elapsed) ≤ 0 :=
          mul_nonpos_of_nonneg_of_nonpos hamount.le (by omega)
        exact iff_of_true (by omega) (by omega)
    have hleast : 0 ≤ amount - applyFraction amount (min (max elapsed 0) term) term := hunused.1
    rw [← hsame, ← hround, ← hfraction]
    show amount - applyFraction amount (min (max elapsed 0) term) term = 0 ↔ _
    omega

/-- Every refund of a payment without a reserved part. -/
theorem exists_preview {paid : ℤ} (hpaid : 0 ≤ paid) (termMonths start asOf wallet : ℤ) :
    ∃ preview, computePrepaidCancellationPreview {
        originalPaidRial := paid
        termMonths
        serviceStartedAt := start
        asOf
        walletBalanceRial := wallet } = .ok preview ∧
      preview.consumedRial + preview.refundableRial = paid ∧
      preview.refundableRial = unusedRial paid termMonths (asOf - start) := by
  have hbounds := @unusedRial_bounds paid termMonths (asOf - start) hpaid
  have hguard : ¬ paid < 0 := not_lt.2 hpaid
  simp only [computePrepaidCancellationPreview, throwIf, hguard, Option.filter_none,
    Option.getD_none, if_false]
  refine ⟨_, rfl, ?_, ?_⟩
  all_goals
    unfold unusedRial at hbounds
    simp only [unusedRial, sub_zero, applyFraction_recognition]
    split_ifs <;> omega

/-! ## Main result -/

/-- **A payment is refunded evenly**: consumed and refunded parts add up, the refund never grows,
is whole up to the start and is nothing from the end of the 30 days a month on; and it is nothing
from the end of the subscription's period on, exactly when what the calendar is short of rounds
to nothing, as it is for a year. -/
theorem refund_evenly {paid : ℤ} (hpaid : 0 ≤ paid) (termMonths start wallet : ℤ) :
    ∃ refund : ℤ → ℤ,
      (∀ asOf, ∃ preview, computePrepaidCancellationPreview {
          originalPaidRial := paid
          termMonths
          serviceStartedAt := start
          asOf
          walletBalanceRial := wallet } = .ok preview ∧
        preview.consumedRial + preview.refundableRial = paid ∧
        preview.refundableRial = refund asOf) ∧
      Antitone refund ∧
      (∀ asOf ≤ start, refund asOf = paid) ∧
      (∀ asOf, start + termMilliseconds termMonths ≤ asOf → refund asOf = 0) ∧
      ((∀ asOf, addBillingMonths start termMonths ≤ asOf → refund asOf = 0) ↔
        paid * (start + termMilliseconds termMonths - addBillingMonths start termMonths) ≤
          termMilliseconds termMonths / 2) ∧
      (termMonths = 12 → ∀ asOf, addBillingMonths start termMonths ≤ asOf → refund asOf = 0) := by
  have hpositive := termMilliseconds_pos termMonths
  have hmono := unusedRial_antitone hpaid termMonths
  have hbounds (asOf : ℤ) := @unusedRial_bounds paid termMonths (asOf - start) hpaid
  -- the period has begun when it ends
  have hperiod : start < addBillingMonths start termMonths :=
    iterate_addBillingMonth_strictMono start (show 0 < (max 1 termMonths).toNat by omega)
  have hzero {finish : ℤ} (hfinish : start < finish) :
      (∀ asOf, finish ≤ asOf → unusedRial paid termMonths (asOf - start) = 0) ↔
        paid * (start + termMilliseconds termMonths - finish) ≤ termMilliseconds termMonths / 2 := by
    have hend := unusedRial_eq_zero_iff hpaid (sub_pos.2 hfinish) termMonths
    rw [show termMilliseconds termMonths - (finish - start) =
      start + termMilliseconds termMonths - finish by ring] at hend
    rw [← hend]
    constructor
    · exact fun h => h finish le_rfl
    · intro h asOf hasOf
      have hle := hmono (show finish - start ≤ asOf - start by omega)
      exact le_antisymm (hle.trans h.le) (hbounds asOf).1
  refine ⟨fun asOf => unusedRial paid termMonths (asOf - start),
    fun asOf => exists_preview hpaid termMonths start asOf wallet,
    fun first second h => hmono (by omega),
    fun asOf h => unusedRial_before (by omega) paid termMonths, ?_, hzero hperiod, ?_⟩
  · refine (hzero (by omega)).2 ?_
    rw [sub_self, mul_zero]
    omega
  · rintro rfl
    refine (hzero hperiod).2 ?_
    have hyear := twelve_months start
    have hterm : termMilliseconds 12 = 360 * Js.msPerDay := by decide
    have hneg : paid * (start + termMilliseconds 12 - addBillingMonths start 12) ≤ 0 :=
      mul_nonpos_of_nonneg_of_nonpos hpaid (by omega)
    omega

theorem refund_evenly_month :
    (0 : ℤ) ≤ 3000 ∧ ∃ refund : ℤ → ℤ, Antitone refund ∧ ∀ asOf ≤ (0 : ℤ), refund asOf = 3000 :=
  have hpaid : (0 : ℤ) ≤ 3000 := by decide
  have ⟨refund, _, hmono, hbefore, _⟩ := refund_evenly hpaid 1 0 0
  ⟨hpaid, refund, hmono, hbefore⟩

/-- At the end of a February, two days of 30 are left. -/
theorem left_after_february :
    (computePrepaidCancellationPreview {
      originalPaidRial := 3000
      termMonths := 1
      serviceStartedAt := Js.dateUTC (12 * 2023 + 1) 1
      asOf := addBillingMonths (Js.dateUTC (12 * 2023 + 1) 1) 1
      walletBalanceRial := 0 }).toOption.map PrepaidCancellationPreview.refundableRial =
        some 200 := by
  decide +kernel

end AbrChin.Orders
