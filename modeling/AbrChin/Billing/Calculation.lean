import AbrChin.Lib.Transaction
import Mathlib.Algebra.Order.Ring.Int

/-!
# Billing lines

`lib/billing/calculation.ts`: what one rate charges for one slice of usage.  A
`bigint` is an `ℤ` whose division truncates, a count of resources is a `ℕ`, and a
`Date` its milliseconds.
-/

namespace AbrChin.Billing

open Lib

inductive BillingCadence where
  | hourly
  | daily
  deriving DecidableEq

inductive CalculationUnit where
  | second
  | minute
  | hour
  | day
  deriving DecidableEq

inductive RoundingPolicy where
  | exact
  | ceilUnit
  | floorUnit
  | nearestUnit
  deriving DecidableEq

inductive ComponentType where
  | compute
  | disk
  | ip
  | backup
  | traffic
  | snapshot
  | addon
  | oneTime
  | adjustment
  deriving DecidableEq

inductive ResourceUnit where
  | inst
  | vcpu
  | gbRam
  | gbDisk
  | ip
  | backup
  | gbTraffic
  | snapshot
  | addon
  deriving DecidableEq

inductive ResourceVersionState where
  | active
  | stopped
  | terminated
  deriving DecidableEq

structure ResourceQuantitySnapshot where
  state : ResourceVersionState
  vcpu : ℕ
  ramMb : ℕ
  diskGb : ℕ
  ipv4Count : ℕ
  backupEnabled : Bool
  snapshotCount : ℕ
  deriving DecidableEq

/-- How a provider turns time into units: the terms of a rate that do not depend on its amounts. -/
structure TimeTerms where
  calculationUnit : CalculationUnit
  minimumChargeSeconds : ℕ
  roundingPolicy : RoundingPolicy
  prorationSupported : Bool
  deriving DecidableEq

structure CalculableRate extends TimeTerms where
  resourceUnit : ResourceUnit
  normalizedProviderRial : ℤ
  customerRateRial : ℤ
  markupBasisPoints : ℤ
  deriving DecidableEq

/-- A quantity as a fraction. -/
structure Factor where
  numerator : ℤ
  denominator : ℤ
  deriving DecidableEq

def ceilDiv (numerator denominator : ℤ) : Except String ℤ := do
  throwIf (denominator ≤ 0 ∨ numerator < 0) "invalid_division"
  if numerator = 0 then pure 0 else pure ((numerator + denominator - 1).tdiv denominator)

def unitSeconds : CalculationUnit → ℤ
  | .second => 1
  | .minute => 60
  | .hour => 3600
  | .day => 86400

def resourceFactor (unit : ResourceUnit) (resource : ResourceQuantitySnapshot) :
    Except String Factor :=
  match unit with
  | .inst | .addon => .ok ⟨1, 1⟩
  | .vcpu => .ok ⟨resource.vcpu, 1⟩
  | .gbRam => .ok ⟨resource.ramMb, 1024⟩
  | .gbDisk => .ok ⟨resource.diskGb, 1⟩
  | .ip => .ok ⟨resource.ipv4Count, 1⟩
  | .backup => .ok ⟨if resource.backupEnabled then 1 else 0, 1⟩
  | .snapshot => .ok ⟨resource.snapshotCount, 1⟩
  | .gbTraffic => .error "metered_usage_required"

/-- How many units a duration counts for. -/
def roundedTimeFactor (durationSeconds : ℤ) (terms : TimeTerms) : Except String Factor :=
  let unit := unitSeconds terms.calculationUnit
  let duration := max (max 0 durationSeconds) terms.minimumChargeSeconds
  if terms.prorationSupported ∧ terms.roundingPolicy = .exact then .ok ⟨duration, unit⟩
  else if ¬ terms.prorationSupported ∨ terms.roundingPolicy = .ceilUnit then
    (ceilDiv duration unit).map (⟨·, 1⟩)
  else if terms.roundingPolicy = .floorUnit then .ok ⟨duration.tdiv unit, 1⟩
  else .ok ⟨(duration + unit.tdiv 2).tdiv unit, 1⟩

structure BillingLineAmount where
  quantityNumerator : ℤ
  quantityDenominator : ℤ
  providerCostRial : ℤ
  markupAmountRial : ℤ
  amountRial : ℤ
  deriving DecidableEq

def calculateBillingLineAmount (intervalStart intervalEnd : ℤ)
    (resource : ResourceQuantitySnapshot) (rate : CalculableRate) :
    Except String BillingLineAmount := do
  let durationMilliseconds := intervalEnd - intervalStart
  throwIf (durationMilliseconds ≤ 0 ∨ durationMilliseconds.tmod 1000 ≠ 0) "invalid_usage_interval"
  throwIf (rate.normalizedProviderRial < 0 ∨ rate.customerRateRial < 0 ∨
    rate.markupBasisPoints < 0) "invalid_rate"
  let time ← roundedTimeFactor (durationMilliseconds.tdiv 1000) rate.toTimeTerms
  let factor ← resourceFactor rate.resourceUnit resource
  let quantityNumerator := time.numerator * factor.numerator
  let quantityDenominator := time.denominator * factor.denominator
  let providerCostRial ← ceilDiv (rate.normalizedProviderRial * quantityNumerator)
    quantityDenominator
  let amountRial ← ceilDiv (rate.customerRateRial * quantityNumerator) quantityDenominator
  throwIf (amountRial < providerCostRial) "negative_markup"
  pure {
    quantityNumerator
    quantityDenominator
    providerCostRial
    markupAmountRial := amountRial - providerCostRial
    amountRial }

/-- The components that are billed while a service is stopped. -/
structure StopStateComponentPolicy where
  compute : Bool
  disk : Bool
  ip : Bool
  backup : Bool
  traffic : Bool
  snapshot : Bool
  deriving DecidableEq

def readPolicyBoolean (policy : StopStateComponentPolicy) : ComponentType → Bool
  | .compute => policy.compute
  | .disk => policy.disk
  | .ip => policy.ip
  | .backup => policy.backup
  | .traffic => policy.traffic
  | .snapshot => policy.snapshot
  | .addon | .oneTime | .adjustment => false

def requiredBillableComponents (resource : ResourceQuantitySnapshot)
    (policy : StopStateComponentPolicy) : List ComponentType :=
  let candidates : List ComponentType :=
    [.compute] ++ (if 0 < resource.diskGb then [.disk] else []) ++
      (if 0 < resource.ipv4Count then [.ip] else []) ++
      (if resource.backupEnabled then [.backup] else []) ++
      (if 0 < resource.snapshotCount then [.snapshot] else [])
  match resource.state with
  | .active => candidates
  | .terminated => candidates.filter fun component =>
      component ≠ .compute && readPolicyBoolean policy component
  | .stopped => candidates.filter fun component => readPolicyBoolean policy component

/-! ## Rounding up -/

theorem ceilDiv_eq_ok {numerator denominator result : ℤ} :
    ceilDiv numerator denominator = .ok result ↔
      0 < denominator ∧ 0 ≤ numerator ∧ result = (numerator + denominator - 1) / denominator := by
  unfold ceilDiv
  simp only [bind_eq_ok, throwIf_eq_ok, exists_const, not_or, not_le, not_lt, and_assoc]
  refine and_congr_right fun hdenominator => and_congr_right fun hnumerator => ?_
  have hdiv : (numerator + denominator - 1).tdiv denominator =
      (numerator + denominator - 1) / denominator :=
    Int.tdiv_eq_ediv_of_nonneg (by omega)
  by_cases hzero : numerator = 0
  · have hresult : (0 + denominator - 1) / denominator = 0 :=
      Int.ediv_eq_zero_of_lt (by omega) (by omega)
    rw [if_pos hzero, hzero, hresult]
    simp [pure, Except.pure, eq_comm]
  · simp [hzero, hdiv, pure, Except.pure, eq_comm]

/-! ## How many units a duration counts for -/

theorem unitSeconds_pos (unit : CalculationUnit) : 0 < unitSeconds unit := by
  cases unit <;> decide

/-- The seconds that count: at least the minimum charge. -/
def TimeTerms.charged (terms : TimeTerms) (seconds : ℕ) : ℕ :=
  max seconds terms.minimumChargeSeconds

/-- The units that a duration counts for. -/
def TimeTerms.units (terms : TimeTerms) (seconds : ℕ) : Factor :=
  let unit := unitSeconds terms.calculationUnit
  let duration : ℤ := terms.charged seconds
  if terms.prorationSupported ∧ terms.roundingPolicy = .exact then ⟨duration, unit⟩
  else if ¬ terms.prorationSupported ∨ terms.roundingPolicy = .ceilUnit then
    ⟨(duration + unit - 1) / unit, 1⟩
  else if terms.roundingPolicy = .floorUnit then ⟨duration / unit, 1⟩
  else ⟨(duration + unit / 2) / unit, 1⟩

theorem roundedTimeFactor_eq (seconds : ℕ) (terms : TimeTerms) :
    roundedTimeFactor seconds terms = .ok (terms.units seconds) := by
  have hunit := unitSeconds_pos terms.calculationUnit
  have hduration : max (max 0 (seconds : ℤ)) terms.minimumChargeSeconds =
      (terms.charged seconds : ℤ) := by
    unfold TimeTerms.charged
    omega
  have hhalf : (unitSeconds terms.calculationUnit).tdiv 2 =
      unitSeconds terms.calculationUnit / 2 := Int.tdiv_eq_ediv_of_nonneg hunit.le
  unfold roundedTimeFactor TimeTerms.units
  simp only [hduration, hhalf]
  split_ifs
  · rfl
  · have hceil : ceilDiv (terms.charged seconds) (unitSeconds terms.calculationUnit) = .ok _ :=
      ceilDiv_eq_ok.2 ⟨hunit, Int.natCast_nonneg (terms.charged seconds), rfl⟩
    rw [hceil]
    rfl
  · rw [Int.tdiv_eq_ediv_of_nonneg (Int.natCast_nonneg _)]
  · rw [Int.tdiv_eq_ediv_of_nonneg (by have := Int.natCast_nonneg (terms.charged seconds); omega)]

theorem TimeTerms.units_denominator_pos (terms : TimeTerms) (seconds : ℕ) :
    0 < (terms.units seconds).denominator := by
  unfold TimeTerms.units
  simp only
  split_ifs
  · exact unitSeconds_pos _
  all_goals exact Int.one_pos

theorem TimeTerms.units_numerator_nonneg (terms : TimeTerms) (seconds : ℕ) :
    0 ≤ (terms.units seconds).numerator := by
  have hunit := unitSeconds_pos terms.calculationUnit
  have hcharged := Int.natCast_nonneg (terms.charged seconds)
  unfold TimeTerms.units
  simp only
  split_ifs
  · exact hcharged
  all_goals exact Int.ediv_nonneg (by omega) hunit.le

/-! ## What a line charges -/

theorem resourceFactor_pos {unit : ResourceUnit} {resource : ResourceQuantitySnapshot}
    {factor : Factor} (h : resourceFactor unit resource = .ok factor) :
    0 ≤ factor.numerator ∧ 0 < factor.denominator := by
  cases unit
  case gbTraffic => cases h
  case backup =>
      cases h
      refine ⟨?_, Int.one_pos⟩
      show (0 : ℤ) ≤ if resource.backupEnabled then 1 else 0
      split_ifs <;> decide
  all_goals
    cases h
    constructor <;> simp

/-- The product of two quantities. -/
def Factor.times (first second : Factor) : Factor :=
  ⟨first.numerator * second.numerator, first.denominator * second.denominator⟩

/-- What a quantity costs at a price, rounded up. -/
def Factor.charge (quantity : Factor) (rial : ℤ) : ℤ :=
  (rial * quantity.numerator + quantity.denominator - 1) / quantity.denominator

/-- The quantity of a line. -/
def CalculableRate.quantity (rate : CalculableRate) (seconds : ℕ) (factor : Factor) : Factor :=
  (rate.units seconds).times factor

/-- The line of a quantity. -/
def CalculableRate.line (rate : CalculableRate) (quantity : Factor) : BillingLineAmount where
  quantityNumerator := quantity.numerator
  quantityDenominator := quantity.denominator
  providerCostRial := quantity.charge rate.normalizedProviderRial
  markupAmountRial := quantity.charge rate.customerRateRial -
    quantity.charge rate.normalizedProviderRial
  amountRial := quantity.charge rate.customerRateRial

theorem Factor.charge_mono {quantity : Factor} (hnumerator : 0 ≤ quantity.numerator)
    (hdenominator : 0 < quantity.denominator) {rial rial' : ℤ} (h : rial ≤ rial') :
    quantity.charge rial ≤ quantity.charge rial' := by
  have hmul : rial * quantity.numerator ≤ rial' * quantity.numerator :=
    mul_le_mul_of_nonneg_right h hnumerator
  exact Int.ediv_le_ediv hdenominator (by omega)

theorem CalculableRate.quantity_pos {rate : CalculableRate} {seconds : ℕ} {factor : Factor}
    (hnumerator : 0 ≤ factor.numerator) (hdenominator : 0 < factor.denominator) :
    0 ≤ (rate.quantity seconds factor).numerator ∧
      0 < (rate.quantity seconds factor).denominator :=
  ⟨mul_nonneg (rate.units_numerator_nonneg seconds) hnumerator,
    mul_pos (rate.units_denominator_pos seconds) hdenominator⟩

/-- The line of a whole number of seconds. -/
theorem calculateBillingLineAmount_eq_ok {start : ℤ} {seconds : ℕ} (hseconds : 0 < seconds)
    {resource : ResourceQuantitySnapshot} {rate : CalculableRate} {line : BillingLineAmount} :
    calculateBillingLineAmount start (start + seconds * 1000) resource rate = .ok line ↔
      (0 ≤ rate.normalizedProviderRial ∧ 0 ≤ rate.customerRateRial ∧ 0 ≤ rate.markupBasisPoints) ∧
      ∃ factor, resourceFactor rate.resourceUnit resource = .ok factor ∧
        (rate.quantity seconds factor).charge rate.normalizedProviderRial ≤
          (rate.quantity seconds factor).charge rate.customerRateRial ∧
        line = rate.line (rate.quantity seconds factor) := by
  have hduration : start + (seconds : ℤ) * 1000 - start = seconds * 1000 := by omega
  have hdiv : ((seconds : ℤ) * 1000).tdiv 1000 = seconds := Int.mul_tdiv_cancel _ (by decide)
  have hmod : ((seconds : ℤ) * 1000).tmod 1000 = 0 := Int.mul_tmod_left _ _
  have hpos : ¬ ((seconds : ℤ) * 1000 ≤ 0) := by omega
  unfold calculateBillingLineAmount
  simp only [hduration, hdiv, hmod, hpos, bind_eq_ok, throwIf_eq_ok, exists_const,
    roundedTimeFactor_eq, Except.ok.injEq, exists_eq_left', ne_eq, not_true_eq_false, or_self,
    not_false_eq_true, true_and, not_or, not_lt]
  refine and_congr_right fun hrials => exists_congr fun factor =>
    and_congr_right fun hfactor => ?_
  obtain ⟨hprovider, hcustomer, -⟩ := hrials
  obtain ⟨hnumerator, hdenominator⟩ := resourceFactor_pos hfactor
  obtain ⟨hnonneg, hpositive⟩ :=
    @CalculableRate.quantity_pos rate seconds factor hnumerator hdenominator
  have hcharge (rial : ℤ) (hrial : 0 ≤ rial) : ceilDiv
      (rial * ((rate.units seconds).numerator * factor.numerator))
      ((rate.units seconds).denominator * factor.denominator) =
        .ok ((rate.quantity seconds factor).charge rial) :=
    ceilDiv_eq_ok.2 ⟨hpositive, mul_nonneg hrial hnonneg, rfl⟩
  simp only [hcharge _ hprovider, hcharge _ hcustomer, Except.ok.injEq, exists_eq_left']
  refine and_congr_right fun _ => ?_
  simp only [pure, Except.pure, Except.ok.injEq, eq_comm (b := line)]
  rfl

end AbrChin.Billing
