import AbrChin.Lib.Transaction
import Mathlib.Algebra.Order.Ring.Int

/-!
# The unused part of a prepaid term

`lib/orders/prepaid-cancellation.ts`, and the part of `lib/accounting/kpis.ts` that it
uses: a payment is consumed evenly over its term, of which a month has 30 days, and the
consumed part is rounded half up.
-/

namespace AbrChin.Orders

open Lib

structure RecognitionInput where
  occurredAt : ℤ
  termMonths : ℤ
  asOf : ℤ
  periodFrom : Option ℤ := none
  periodTo : Option ℤ := none

/-- The length of a term. -/
def termMilliseconds (termMonths : ℤ) : ℤ := max 1 termMonths * 30 * 24 * 60 * 60 * 1000

/-- The part of a term that has been recognized, as a numerator and a denominator. -/
def recognitionFraction (input : RecognitionInput) : ℤ × ℤ :=
  let start := input.occurredAt
  let termEnd := start + termMilliseconds input.termMonths
  let windowStart := input.periodFrom.getD start
  let windowEnd := input.periodTo.getD input.asOf
  let recognizedThrough := min input.asOf termEnd
  let overlapStart := max start windowStart
  let overlapEnd := min recognizedThrough windowEnd
  if overlapEnd ≤ overlapStart ∨ termEnd ≤ start then (0, 1)
  else (overlapEnd - overlapStart, if 0 < termEnd - start then termEnd - start else 1)

def applyFraction (amount numerator denominator : ℤ) : ℤ :=
  if amount ≤ 0 ∨ numerator ≤ 0 then 0
  else (amount * numerator + denominator / 2) / denominator

structure PrepaidCancellationInput where
  originalPaidRial : ℤ
  termMonths : ℤ
  serviceStartedAt : ℤ
  asOf : ℤ
  nonRefundableRial : Option ℤ := none
  walletBalanceRial : ℤ

structure PrepaidCancellationPreview where
  originalPaidRial : ℤ
  serviceStartedAt : ℤ
  asOf : ℤ
  termMonths : ℤ
  consumedRial : ℤ
  nonRefundableRial : ℤ
  refundableRial : ℤ
  walletBalanceRial : ℤ
  walletBalanceAfterRefundRial : ℤ

def computePrepaidCancellationPreview (input : PrepaidCancellationInput) :
    Except String PrepaidCancellationPreview := do
  throwIf (input.originalPaidRial < 0) "invalid_original_paid"
  let nonRefundable := (input.nonRefundableRial.filter (0 < ·)).getD 0
  throwIf (input.originalPaidRial < nonRefundable) "invalid_non_refundable"
  let (recognizedNumerator, recognizedDenominator) := recognitionFraction {
    occurredAt := input.serviceStartedAt
    termMonths := input.termMonths
    asOf := input.asOf }
  let refundableBase := input.originalPaidRial - nonRefundable
  let consumed := applyFraction refundableBase recognizedNumerator recognizedDenominator
  let refundable := if consumed < refundableBase then refundableBase - consumed else 0
  pure {
    originalPaidRial := input.originalPaidRial
    serviceStartedAt := input.serviceStartedAt
    asOf := input.asOf
    termMonths := max 1 input.termMonths
    consumedRial := consumed
    nonRefundableRial := nonRefundable
    refundableRial := refundable
    walletBalanceRial := input.walletBalanceRial
    walletBalanceAfterRefundRial := input.walletBalanceRial + refundable }

/-! ## What is left of a payment -/

theorem termMilliseconds_pos (termMonths : ℤ) : 0 < termMilliseconds termMonths := by
  unfold termMilliseconds
  omega

/-- The part of a payment that is unused, some time after the start of its term. -/
def unusedRial (amount termMonths elapsed : ℤ) : ℤ :=
  amount - applyFraction amount (min (max elapsed 0) (termMilliseconds termMonths))
    (termMilliseconds termMonths)

/-- At most the whole amount is consumed. -/
theorem applyFraction_bounds {amount numerator denominator : ℤ} (hamount : 0 ≤ amount)
    (hdenominator : 0 < denominator) (hle : numerator ≤ denominator) :
    0 ≤ applyFraction amount numerator denominator ∧
      applyFraction amount numerator denominator ≤ amount := by
  unfold applyFraction
  split_ifs with hzero
  · exact ⟨le_rfl, hamount⟩
  · push Not at hzero
    have hproduct : 0 ≤ amount * numerator := mul_nonneg hamount hzero.2.le
    have hmul : amount * numerator ≤ amount * denominator := mul_le_mul_of_nonneg_left hle hamount
    refine ⟨Int.ediv_nonneg (by omega) hdenominator.le, ?_⟩
    have : (amount * numerator + denominator / 2) / denominator <
        amount + 1 := Int.ediv_lt_of_lt_mul hdenominator (by rw [add_mul]; omega)
    omega

theorem unusedRial_bounds {amount termMonths elapsed : ℤ} (hamount : 0 ≤ amount) :
    0 ≤ unusedRial amount termMonths elapsed ∧ unusedRial amount termMonths elapsed ≤ amount := by
  have hbounds := applyFraction_bounds hamount (termMilliseconds_pos termMonths)
    (min_le_right (max elapsed 0) (termMilliseconds termMonths))
  unfold unusedRial
  omega

/-- What has been recognized of a payment, by the time since the start of its term. -/
theorem applyFraction_recognition (amount occurredAt termMonths asOf : ℤ) :
    let fraction := recognitionFraction { occurredAt, termMonths, asOf }
    applyFraction amount fraction.1 fraction.2 =
      applyFraction amount (min (max (asOf - occurredAt) 0) (termMilliseconds termMonths))
        (termMilliseconds termMonths) := by
  have hpositive := termMilliseconds_pos termMonths
  simp only [recognitionFraction, Option.getD_none, max_self]
  by_cases hbegun : occurredAt < asOf
  · rw [if_neg (by omega), if_pos (by omega)]
    congr 1 <;> omega
  · have hnone : min (max (asOf - occurredAt) 0) (termMilliseconds termMonths) = 0 := by omega
    rw [if_pos (by omega), hnone]
    simp [applyFraction]

end AbrChin.Orders
