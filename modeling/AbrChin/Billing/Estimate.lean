import AbrChin.Billing.Draft

/-!
# The charge and the estimate

An activation shows the customer an estimate per hour and per day, and
`startInitialUsageBillingTx` stores the hourly one as the price of the rate card.
The unit of that price is the unit of the provider's contract, which nothing
compares with an hour: a contract per second charges the hourly price 3600 times
an hour.

The charge agrees with the estimate exactly when `UnitMatchesEstimate` holds: the
contract is per hour, or it is per day, the service is settled by the hour and
every hour counts as a day.
-/

namespace AbrChin.Billing

open Lib

/-! ## Activations -/

/-- An activation that has passed the gate and whose contract is verified when the
provider confirms it. -/
structure Provisioned (activation : ActivationRequest)
    (contracts : List ProviderBillingContractVersion) (providerConfirmedAt : ℤ)
    (terms : TimeTerms) : Prop where
  estimate : ∃ quote,
    estimateForQuote quote = .ok activation.estimateSnapshot.toActivationEstimate
  gate : ∃ scope externalPlanId verified, evaluateProvisioningBillingContractGate contracts
    (some activation.toPendingService) scope externalPlanId = .ok verified
  contract : ∃ contract, activation.contractAt contracts providerConfirmedAt = .ok contract ∧
    contract.timeTerms = .ok terms
  minimum : terms.minimumChargeSeconds ≤ 3600

/-- Every full period of active use under the rate card has one compute line, of an amount. -/
def ChargesPerPeriod (rate : RateCardVersion) (cadence : BillingCadence) (rial : ℤ) : Prop :=
  ∀ (usage : BoundedUsage) (index : ℤ), usage.resource.state = .active →
    rate.effectiveFrom ≤ (fullPeriod cadence index).periodStart →
    ∃ line, rateLine usage (fullPeriod cadence index).span rate = .ok [line] ∧
      line.component = .compute ∧ line.amountRial = rial

/-- Every full hour costs the estimate per hour, and under daily settlement every full
day costs the estimate per day. -/
def ChargesAsEstimated (activation : ActivationRequest) (terms : TimeTerms)
    (providerConfirmedAt : ℤ) (id : String) : Prop :=
  let rate := activationRate activation terms providerConfirmedAt id
  ChargesPerPeriod rate .hourly activation.estimateSnapshot.hourlyEstimateRial ∧
    (activation.selectedCadence = .daily →
      ChargesPerPeriod rate .daily activation.estimateSnapshot.dailyEstimateRial)

/-- The unit of the contract is the hour, or a day that every hour counts for. -/
def UnitMatchesEstimate (activation : ActivationRequest) (terms : TimeTerms) : Prop :=
  terms.calculationUnit = .hour ∨
    (activation.selectedCadence = .hourly ∧ terms.calculationUnit = .day ∧
      (terms.prorationSupported = false ∨ terms.roundingPolicy = .ceilUnit ∨
        (terms.roundingPolicy = .exact ∧ activation.estimateSnapshot.hourlyEstimateRial = 1)))

/-! ## One period -/

/-- The quantity that a period has at the terms. -/
def TimeTerms.periodQuantity (terms : TimeTerms) (cadence : BillingCadence) : Factor :=
  (terms.units (periodSeconds cadence)).times ⟨1, 1⟩

variable {activation : ActivationRequest} {contracts : List ProviderBillingContractVersion}
  {providerConfirmedAt : ℤ} {terms : TimeTerms}

/-- Whether a period is charged an amount is a question about its quantity. -/
theorem chargesPerPeriod_iff (h : Provisioned activation contracts providerConfirmedAt terms)
    (id : String) (cadence : BillingCadence) (rial : ℤ) :
    ChargesPerPeriod (activationRate activation terms providerConfirmedAt id) cadence rial ↔
      (terms.periodQuantity cadence).numerator ≠ 0 ∧
        (terms.periodQuantity cadence).charge activation.estimateSnapshot.hourlyEstimateRial =
          rial := by
  obtain ⟨quote, hquote⟩ := h.estimate
  obtain ⟨hprovider, hcovers, hbasis, -⟩ := estimateForQuote_eq_ok hquote
  have hseconds : 0 < periodSeconds cadence := by cases cadence <;> decide
  let rate := activationRate activation terms providerConfirmedAt id
  have hquantity : rate.quantity (periodSeconds cadence) ⟨1, 1⟩ = terms.periodQuantity cadence :=
    rfl
  -- the amounts of the estimate pass every check, so the quantity alone decides
  have hline (usage : BoundedUsage) (index : ℤ) (lines : List LineDraft) :
      rateLine usage (fullPeriod cadence index).span rate = .ok lines ↔
        lines = if (terms.periodQuantity cadence).numerator = 0 then []
          else [lineDraft usage (fullPeriod cadence index).span rate
            (rate.line (terms.periodQuantity cadence))] := by
    rw [fullPeriod_span, rateLine_eq_ok hseconds]
    have hfactor : resourceFactor rate.resourceUnit usage.resource.toResourceQuantitySnapshot =
        .ok ⟨1, 1⟩ := rfl
    have hpositive := @CalculableRate.quantity_pos rate.toCalculableRate (periodSeconds cadence)
      ⟨1, 1⟩ Int.one_nonneg Int.one_pos
    have hmarkup := Factor.charge_mono hpositive.1 hpositive.2 hcovers
    have hcurrency : Js.trim rate.providerCurrency ≠ "" ∧ Js.trim rate.providerAmountUnit ≠ "" := by
      show Js.trim "IRR" ≠ "" ∧ Js.trim "RIAL" ≠ ""
      decide
    have hamounts : 0 ≤ rate.normalizedProviderRial ∧ 0 ≤ rate.customerRateRial ∧
        0 ≤ rate.markupBasisPoints := ⟨hprovider.le, hprovider.le.trans hcovers, hbasis⟩
    constructor
    · rintro ⟨-, -, factor, hfactor', -, rfl⟩
      cases hfactor.symm.trans hfactor'
      rw [hquantity]
    · rintro rfl
      exact ⟨hcurrency, hamounts, ⟨1, 1⟩, hfactor, hmarkup, by rw [hquantity]⟩
  constructor
  · intro hcharges
    -- a full period after the confirmation, with any active usage
    let index := max providerConfirmedAt 0
    have hstart : rate.effectiveFrom ≤ (fullPeriod cadence index).periodStart := by
      show providerConfirmedAt ≤ max providerConfirmedAt 0 * periodMilliseconds cadence
      cases cadence <;> simp only [periodMilliseconds] <;> omega
    let version := activationVersion activation ⟨"", "", "", .arvan, none, .active⟩ (1, 1, 0) 0 id
    let usage : BoundedUsage := ⟨⟨0, 0⟩, activationInterval activation "" 0 id, version⟩
    obtain ⟨line, hlines, -, hamount⟩ := hcharges usage index rfl hstart
    have hlines := (hline usage index _).1 hlines
    split_ifs at hlines with hzero
    obtain rfl := List.singleton_inj.1 hlines
    exact ⟨hzero, hamount⟩
  · rintro ⟨hnonzero, hamount⟩ usage index - -
    refine ⟨_, (hline usage index _).2 (by rw [if_neg hnonzero]), rfl, hamount⟩

/-! ## The quantity of an hour and of a day -/

theorem TimeTerms.charged_of_le {seconds : ℕ} (h : terms.minimumChargeSeconds ≤ seconds) :
    terms.charged seconds = seconds := max_eq_left h

theorem hourly_quantity_iff (hminimum : terms.minimumChargeSeconds ≤ 3600) {rial : ℤ}
    (hrial : 0 < rial) :
    (terms.periodQuantity .hourly).numerator ≠ 0 ∧ (terms.periodQuantity .hourly).charge rial = rial ↔
      terms.calculationUnit = .hour ∨ (terms.calculationUnit = .day ∧
        (terms.prorationSupported = false ∨ terms.roundingPolicy = .ceilUnit ∨
          (terms.roundingPolicy = .exact ∧ rial = 1))) := by
  have hcharged : terms.charged (periodSeconds .hourly) = 3600 := terms.charged_of_le hminimum
  unfold TimeTerms.periodQuantity TimeTerms.units
  rw [hcharged]
  obtain ⟨unit, minimum, policy, proration⟩ := terms
  cases unit <;> cases policy <;> cases proration <;>
    simp [Factor.times, Factor.charge, unitSeconds] <;> omega

theorem daily_quantity_iff (hminimum : terms.minimumChargeSeconds ≤ 3600) {rial : ℤ}
    (hrial : 0 < rial) :
    (terms.periodQuantity .daily).numerator ≠ 0 ∧
        (terms.periodQuantity .daily).charge rial = rial * 24 ↔
      terms.calculationUnit = .hour := by
  have hcharged : terms.charged (periodSeconds .daily) = 86400 :=
    terms.charged_of_le (hminimum.trans (by decide))
  unfold TimeTerms.periodQuantity TimeTerms.units
  rw [hcharged]
  obtain ⟨unit, minimum, policy, proration⟩ := terms
  cases unit <;> cases policy <;> cases proration <;>
    simp [Factor.times, Factor.charge, unitSeconds] <;> omega

/-- **The charge agrees with the estimate exactly when the unit matches it.** -/
theorem charges_as_estimated_iff (h : Provisioned activation contracts providerConfirmedAt terms)
    (id : String) : ChargesAsEstimated activation terms providerConfirmedAt id ↔
      UnitMatchesEstimate activation terms := by
  obtain ⟨quote, hquote⟩ := h.estimate
  obtain ⟨hprovider, hcovers, -, hdaily⟩ := estimateForQuote_eq_ok hquote
  have hpositive : 0 < activation.estimateSnapshot.hourlyEstimateRial := hprovider.trans_le hcovers
  unfold ChargesAsEstimated UnitMatchesEstimate
  simp only [chargesPerPeriod_iff h, hourly_quantity_iff h.minimum hpositive]
  rw [show activation.estimateSnapshot.dailyEstimateRial = _ from hdaily]
  simp only [daily_quantity_iff h.minimum hpositive]
  cases hcadence : activation.selectedCadence with
  | hourly => simp
  | daily => grind

/-! ## An activation under a contract per hour, and one under a contract per second -/

def sampleContract (unit : CalculationUnit) : ProviderBillingContractVersion where
  id := "contract"
  provider := .arvan
  providerApiVersion := "v1"
  productKind := .cloudServer
  version := 1
  status := .verified
  calculationUnit := some unit
  minimumChargeSeconds := some 60
  roundingPolicy := some .exact
  prorationSupported := some true
  hourlyRateAvailable := some true
  dailyRateAvailable := some true
  stopStateBillableComponents := some ⟨false, true, true, true, true, true⟩
  fieldVerification := requiredFields
  effectiveFrom := 0
  effectiveTo := none

def sampleTerms (unit : CalculationUnit) : TimeTerms := ⟨unit, 60, .exact, true⟩

def samplePolicy : BillingPolicyVersion where
  id := "policy"
  planId := some "plan"
  availability := .hourlyAndDaily
  defaultCadence := .hourly
  hourlyMinimumCreditHours := 24
  dailyMinimumCreditDays := 1
  hourlyGracePeriods := 1
  dailyGracePeriods := 1
  lowBalanceThresholdPeriods := 3
  timeTerms := sampleTerms .hour
  stopStateComponentPolicy := ⟨false, true, true, true, true, true⟩
  effectiveFrom := 0
  effectiveTo := none

def samplePlan : ActivationPlan where
  id := "plan"
  paygWallet := true
  vcpu := some 2
  ramGb := some 4
  storageGb := some 0
  provider := .arvan
  providerApiVersion := "v1"
  productKind := .cloudServer
  regionCode := "ir-1"
  sizeCode := "g2"
  externalPlanId := some "g2"

/-- A service of 1000 rials an hour without a markup, settled by the hour. -/
def sampleActivation : ActivationRequest where
  id := "activation"
  status := .approved
  plan := samplePlan
  minimumCreditRequiredRial := 24000
  providerBillingContractSnapshot := some ⟨"contract", .arvan, "v1", .cloudServer, 1⟩
  estimateSnapshot := {
    providerHourlyRial := 1000
    markupBasisPoints := 0
    hourlyEstimateRial := 1000
    dailyEstimateRial := 24000
    provider := .arvan
    providerApiVersion := "v1"
    productKind := .cloudServer
    externalPlanId := some "g2"
    billingPolicyVersionId := "policy"
    cadence := .hourly }
  selectedCadence := .hourly
  billingPolicyVersion := samplePolicy

theorem sample_provisioned (unit : CalculationUnit) :
    Provisioned sampleActivation [sampleContract unit] 0 (sampleTerms unit) where
  estimate := ⟨⟨"quote", some 1000, some 0, true⟩, rfl⟩
  gate := by
    refine ⟨⟨.arvan, "v1", .cloudServer, 0⟩, some "g2", ?_⟩
    cases unit <;> exact ⟨_, rfl⟩
  contract := by cases unit <;> exact ⟨_, rfl, rfl⟩
  minimum := show 60 ≤ 3600 by decide

theorem charges_as_estimated_hour :
    ChargesAsEstimated sampleActivation (sampleTerms .hour) 0 "rate" :=
  (charges_as_estimated_iff (sample_provisioned .hour) "rate").2 (.inl rfl)

/-- An hour under a contract per second is charged 3600 times the estimate. -/
theorem not_always_charges_as_estimated :
    ¬ ∀ (activation : ActivationRequest) (contracts : List ProviderBillingContractVersion)
      (providerConfirmedAt : ℤ) (terms : TimeTerms) (id : String),
      Provisioned activation contracts providerConfirmedAt terms →
        ChargesAsEstimated activation terms providerConfirmedAt id := by
  intro h
  have hcharges := h sampleActivation [sampleContract .second] 0 (sampleTerms .second) "rate"
    (sample_provisioned .second)
  have hquantity := ((chargesPerPeriod_iff (sample_provisioned .second) "rate" .hourly _).1
    hcharges.1).2
  revert hquantity
  decide

end AbrChin.Billing
