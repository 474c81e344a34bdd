import AbrChin.Billing.Calculation
import AbrChin.Pricing.PlanPricing

/-!
# Provider contracts and estimates

`lib/billing/provider-contract.ts`, `provisioning-contract-gate.ts` and the
prices of `activation.ts`: what an activation promises the customer per hour and
per day, and the contract of the provider that has to be verified before a
service is provisioned.  Rials that are stored as digit strings are integers.
-/

namespace AbrChin.Billing

open Lib Pricing

/-! ## The contract -/

inductive ContractStatus where
  | verified
  | unverified
  | revoked
  | invalid
  deriving DecidableEq

inductive ContractField where
  | calculationUnit
  | minimumChargeSeconds
  | roundingPolicy
  | prorationSupported
  | hourlyRateAvailable
  | dailyRateAvailable
  | stopStateBillableComponents
  deriving DecidableEq

def ContractField.name : ContractField → String
  | calculationUnit => "calculationUnit"
  | minimumChargeSeconds => "minimumChargeSeconds"
  | roundingPolicy => "roundingPolicy"
  | prorationSupported => "prorationSupported"
  | hourlyRateAvailable => "hourlyRateAvailable"
  | dailyRateAvailable => "dailyRateAvailable"
  | stopStateBillableComponents => "stopStateBillableComponents"

def requiredFields : List ContractField :=
  [.calculationUnit, .minimumChargeSeconds, .roundingPolicy, .prorationSupported,
    .hourlyRateAvailable, .dailyRateAvailable, .stopStateBillableComponents]

structure ProviderBillingContractVersion where
  id : String
  provider : InfrastructureProvider
  providerApiVersion : String
  productKind : InfrastructureProductKind
  version : ℤ
  status : ContractStatus
  calculationUnit : Option CalculationUnit
  minimumChargeSeconds : Option ℤ
  roundingPolicy : Option RoundingPolicy
  prorationSupported : Option Bool
  hourlyRateAvailable : Option Bool
  dailyRateAvailable : Option Bool
  /-- What `parsedStopStateComponents` reads of the column. -/
  stopStateBillableComponents : Option StopStateComponentPolicy
  /-- The fields whose verification is `VERIFIED`. -/
  fieldVerification : List ContractField
  effectiveFrom : ℤ
  effectiveTo : Option ℤ

structure VerifiedProviderBillingContract where
  id : String
  provider : InfrastructureProvider
  providerApiVersion : String
  productKind : InfrastructureProductKind
  calculationUnit : CalculationUnit
  minimumChargeSeconds : ℤ
  roundingPolicy : RoundingPolicy
  prorationSupported : Bool
  hourlyRateAvailable : Bool
  dailyRateAvailable : Bool
  stopStateBillableComponents : StopStateComponentPolicy

def maxSafeInteger : ℤ := 9007199254740991

/-- The reason for a column without a value. -/
def missingValue {α : Type} (field : ContractField) (value : Option α) : List String :=
  if value.isNone then [field.name ++ "_value"] else []

def providerBillingContractBlockingReasons (contract : ProviderBillingContractVersion) :
    List String :=
  (match contract.status with
    | .verified => []
    | .revoked => ["contract_revoked"]
    | .invalid => ["contract_invalid"]
    | .unverified => ["contract_unverified"]) ++
  (requiredFields.filter (· ∉ contract.fieldVerification)).map ContractField.name ++
  (if contract.version ≤ 0 ∨ maxSafeInteger < contract.version then ["contract_version_invalid"]
    else []) ++
  missingValue .calculationUnit contract.calculationUnit ++
  missingValue .minimumChargeSeconds contract.minimumChargeSeconds ++
  missingValue .roundingPolicy contract.roundingPolicy ++
  missingValue .prorationSupported contract.prorationSupported ++
  missingValue .hourlyRateAvailable contract.hourlyRateAvailable ++
  missingValue .dailyRateAvailable contract.dailyRateAvailable ++
  missingValue .stopStateBillableComponents contract.stopStateBillableComponents

/-- What an activation has stored of its contract. -/
structure ContractReference where
  id : String
  provider : InfrastructureProvider
  providerApiVersion : String
  productKind : InfrastructureProductKind
  version : ℤ

/-- The product that a contract has to be for, and when. -/
structure ContractScope where
  provider : InfrastructureProvider
  providerApiVersion : String
  productKind : InfrastructureProductKind
  instant : ℤ

/-- The contract of a stored reference, and why it blocks. -/
def getVerifiedProviderBillingContractFromSnapshot
    (contracts : List ProviderBillingContractVersion) (reference : Option ContractReference)
    (scope : ContractScope) : Option ProviderBillingContractVersion × List String :=
  match reference with
  | none => (none, ["provider_billing_contract_snapshot_missing"])
  | some reference =>
      match contracts.find? fun contract => contract.id = reference.id with
      | none => (none, ["provider_billing_contract_snapshot_not_found"])
      | some contract =>
          let mismatch := reference.provider ≠ scope.provider ∨
            reference.providerApiVersion ≠ scope.providerApiVersion ∨
            reference.productKind ≠ scope.productKind ∨ contract.provider ≠ scope.provider ∨
            contract.providerApiVersion ≠ scope.providerApiVersion ∨
            contract.productKind ≠ scope.productKind ∨ contract.version ≠ reference.version
          let ineffective := scope.instant < contract.effectiveFrom ∨
            contract.effectiveTo.any (· ≤ scope.instant) = true
          (some contract, providerBillingContractBlockingReasons contract ++
            (if mismatch then ["provider_billing_contract_snapshot_mismatch"] else []) ++
            if ineffective then ["provider_billing_contract_snapshot_not_effective"] else [])

/-- A contract that nothing blocks, with the values of its columns. -/
def requireVerifiedProviderBillingContract (contract : ProviderBillingContractVersion) :
    Except String VerifiedProviderBillingContract :=
  if providerBillingContractBlockingReasons contract ≠ [] then
    .error "provider_billing_contract_unverified"
  else
    match contract.calculationUnit, contract.minimumChargeSeconds, contract.roundingPolicy,
      contract.prorationSupported, contract.hourlyRateAvailable, contract.dailyRateAvailable,
      contract.stopStateBillableComponents with
    | some calculationUnit, some minimumChargeSeconds, some roundingPolicy,
      some prorationSupported, some hourlyRateAvailable, some dailyRateAvailable,
      some stopStateBillableComponents => .ok {
        id := contract.id
        provider := contract.provider
        providerApiVersion := contract.providerApiVersion
        productKind := contract.productKind
        calculationUnit
        minimumChargeSeconds
        roundingPolicy
        prorationSupported
        hourlyRateAvailable
        dailyRateAvailable
        stopStateBillableComponents }
    | _, _, _, _, _, _, _ => .error "provider_billing_contract_unverified"

/-! ## The estimate -/

def calculateMarkupRial (normalizedProviderCostRial markupBasisPoints : ℤ) : Except String ℤ :=
  if normalizedProviderCostRial < 0 ∨ markupBasisPoints < 0 ∨ 100000 < markupBasisPoints then
    .error "invalid_markup"
  else if normalizedProviderCostRial = 0 ∨ markupBasisPoints = 0 then .ok 0
  else .ok ((normalizedProviderCostRial * markupBasisPoints + 9999).tdiv 10000)

/-- The quote that an activation is asked for. -/
structure QuoteForEstimate where
  id : String
  providerHourlyPriceIrr : Option ℤ
  markupBasisPointsSnapshot : Option ℤ
  paygWallet : Bool

structure ActivationEstimate where
  providerHourlyRial : ℤ
  markupBasisPoints : ℤ
  hourlyEstimateRial : ℤ
  dailyEstimateRial : ℤ
  deriving DecidableEq

/-- The prices of `estimateForQuote`. -/
def estimateForQuote (quote : QuoteForEstimate) : Except String ActivationEstimate := do
  throwIf (!quote.paygWallet) "prepaid_checkout_required"
  match quote.providerHourlyPriceIrr, quote.markupBasisPointsSnapshot with
  | some providerHourlyRial, some markupBasisPoints => do
      throwIf (providerHourlyRial ≤ 0) "hourly_estimate_unavailable"
      let markupHourlyRial ← calculateMarkupRial providerHourlyRial markupBasisPoints
      let hourlyEstimateRial := providerHourlyRial + markupHourlyRial
      pure {
        providerHourlyRial
        markupBasisPoints
        hourlyEstimateRial
        dailyEstimateRial := hourlyEstimateRial * 24 }
  | _, _ => .error "hourly_estimate_unavailable"

/-! ## The gate -/

inductive BillingAvailability where
  | hourlyOnly
  | dailyOnly
  | hourlyAndDaily
  deriving DecidableEq

structure BillingPolicyVersion where
  id : String
  planId : Option String
  availability : BillingAvailability
  defaultCadence : BillingCadence
  hourlyMinimumCreditHours : ℤ
  dailyMinimumCreditDays : ℤ
  hourlyGracePeriods : ℤ
  dailyGracePeriods : ℤ
  lowBalanceThresholdPeriods : ℤ
  timeTerms : TimeTerms
  stopStateComponentPolicy : StopStateComponentPolicy
  effectiveFrom : ℤ
  effectiveTo : Option ℤ

def isCadenceAllowed : BillingAvailability → BillingCadence → Bool
  | .hourlyAndDaily, _ => true
  | .hourlyOnly, cadence => cadence = .hourly
  | .dailyOnly, cadence => cadence = .daily

def validateBillingPolicyContract (policy : BillingPolicyVersion) : Except String Unit := do
  throwIf (!isCadenceAllowed policy.availability policy.defaultCadence) "billing_cadence_disabled"
  throwIf ([policy.hourlyMinimumCreditHours, policy.dailyMinimumCreditDays,
    policy.lowBalanceThresholdPeriods].any fun value => value ≤ 0 ∨ maxSafeInteger < value)
    "invalid_billing_policy"
  throwIf ([policy.hourlyGracePeriods, policy.dailyGracePeriods].any fun value =>
    value < 0 ∨ maxSafeInteger < value) "invalid_billing_policy"

/-- What an activation has stored of its estimate, next to the prices. -/
structure EstimateSnapshot extends ActivationEstimate where
  provider : InfrastructureProvider
  providerApiVersion : String
  productKind : InfrastructureProductKind
  externalPlanId : Option String
  billingPolicyVersionId : String
  /-- The cadence of its billing snapshot. -/
  cadence : BillingCadence

/-- The parts of an activation that the gate reads. -/
structure PendingService where
  providerBillingContractSnapshot : Option ContractReference
  estimateSnapshot : EstimateSnapshot
  selectedCadence : BillingCadence
  billingPolicyVersion : BillingPolicyVersion

/-- Why the stored estimate blocks. -/
def estimateBlockingReasons (pending : PendingService) (scope : ContractScope)
    (externalPlanId : Option String) : List String :=
  let estimate := pending.estimateSnapshot
  let reason (p : Bool) (text : String) : List String := if p then [text] else []
  reason (estimate.provider ≠ scope.provider) "billing_snapshot_provider_mismatch" ++
  reason (estimate.providerApiVersion ≠ scope.providerApiVersion)
    "billing_snapshot_provider_api_version_mismatch" ++
  reason (estimate.productKind ≠ scope.productKind) "billing_snapshot_product_kind_mismatch" ++
  reason (estimate.cadence ≠ pending.selectedCadence) "billing_snapshot_cadence_mismatch" ++
  reason (estimate.billingPolicyVersionId ≠ pending.billingPolicyVersion.id)
    "billing_snapshot_policy_version_mismatch" ++
  reason (estimate.providerHourlyRial ≤ 0) "rate_card_provider_hourly_rate_missing" ++
  reason (estimate.hourlyEstimateRial ≤ 0) "rate_card_hourly_rate_missing" ++
  reason (estimate.dailyEstimateRial ≤ 0) "rate_card_daily_rate_missing" ++
  reason (match externalPlanId, estimate.externalPlanId with
    | some wanted, some stored => wanted ≠ "" && stored ≠ wanted
    | _, _ => false) "rate_card_external_plan_mismatch"

/-- The contract when provisioning is allowed, and why not otherwise. -/
def evaluateProvisioningBillingContractGate (contracts : List ProviderBillingContractVersion)
    (pending : Option PendingService) (scope : ContractScope) (externalPlanId : Option String) :
    Except (List String) VerifiedProviderBillingContract :=
  match pending with
  | none => .error ["pending_service_billing_snapshot_missing"]
  | some pending =>
      let policyReasons :=
        match validateBillingPolicyContract pending.billingPolicyVersion with
        | .ok _ => []
        | .error _ => ["billing_policy_snapshot_invalid"]
      let (contract, contractReasons) := getVerifiedProviderBillingContractFromSnapshot contracts
        pending.providerBillingContractSnapshot scope
      let blockingReasons :=
        policyReasons ++ estimateBlockingReasons pending scope externalPlanId ++ contractReasons
      match contract with
      | none => .error blockingReasons
      | some contract =>
          if blockingReasons ≠ [] then .error blockingReasons
          else
            match requireVerifiedProviderBillingContract contract with
            | .error code => .error [code]
            | .ok verified =>
                match pending.selectedCadence with
                | .hourly =>
                    if verified.hourlyRateAvailable then .ok verified
                    else .error ["provider_hourly_rate_not_verified"]
                | .daily =>
                    if verified.dailyRateAvailable then .ok verified
                    else .error ["provider_daily_rate_not_verified"]

/-! ## An estimate covers the provider's price -/

theorem estimateForQuote_eq_ok {quote : QuoteForEstimate} {estimate : ActivationEstimate}
    (h : estimateForQuote quote = .ok estimate) :
    0 < estimate.providerHourlyRial ∧
      estimate.providerHourlyRial ≤ estimate.hourlyEstimateRial ∧
      0 ≤ estimate.markupBasisPoints ∧
      estimate.dailyEstimateRial = estimate.hourlyEstimateRial * 24 := by
  unfold estimateForQuote at h
  obtain ⟨_, -, h⟩ := bind_eq_ok.1 h
  cases hprice : quote.providerHourlyPriceIrr with
  | none => simp [hprice] at h
  | some price =>
      cases hmarkup : quote.markupBasisPointsSnapshot with
      | none => simp [hprice, hmarkup] at h
      | some basisPoints =>
          simp only [hprice, hmarkup, bind_eq_ok, throwIf_eq_ok, exists_const] at h
          obtain ⟨hpositive, markup, hmarkup, h⟩ := h
          cases h
          unfold calculateMarkupRial at hmarkup
          split_ifs at hmarkup with hrange hzero
          all_goals have hbasis : 0 ≤ basisPoints := by omega
          · cases hmarkup
            exact ⟨not_le.1 hpositive, by simp, hbasis, rfl⟩
          · have hnonneg : 0 ≤ price * basisPoints := mul_nonneg (by omega) (by omega)
            have hmarkup := Except.ok.inj hmarkup
            have : 0 ≤ markup := hmarkup ▸ Int.tdiv_nonneg (by omega) (by decide)
            exact ⟨not_le.1 hpositive, by simpa using this, hbasis, rfl⟩

end AbrChin.Billing
