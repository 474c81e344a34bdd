import AbrChin.Orders.PrepaidCancellation
import AbrChin.Upgrade.Schema

/-!
# Upgrade quotes

`createUpgradeQuote` of `lib/orders/upgrade-quote.ts`: the charge for a larger plan is computed from
the server's order, its subscription and the published prices, and locked in a change request for an
hour.  The view of the quote and the wallet that it opens for the view are left out.

`seen` is what the queries of a call saw, in the order in which the code makes them: the server with
its order, the target plan, the rows of the pricing configuration, the billing policies, the quote
that has the key, and the open quotes of the server.
-/

namespace AbrChin.Upgrade

open Lib Js Pricing Wallet Orders Billing

/-- `RECOMMENDATION_QUOTE_VALIDITY_MS` -/
def recommendationQuoteValidityMs : ℤ := 60 * 60 * 1000

/-! ## The charge for a prepaid upgrade

`lib/orders/prepaid-upgrade.ts`: an upgrade in the middle of a prepaid term costs what is left of
the price of the target for the whole term, less the unused part of the original payment.  Both
parts are taken at the fraction of the term that is not recognized yet, and rounded half up.
-/

/-- The part of a term that has not been recognized, as a numerator and a denominator. -/
def remainingRecognitionFraction (occurredAt termMonths asOf : ℤ) : ℤ × ℤ :=
  let (recognizedNumerator, recognizedDenominator) :=
    recognitionFraction { occurredAt, termMonths, asOf }
  (if recognizedNumerator < recognizedDenominator then recognizedDenominator - recognizedNumerator
    else 0, recognizedDenominator)

structure PrepaidUpgradeInput where
  originalPaidRial : ℤ
  newFullTermPriceRial : ℤ
  termMonths : ℤ
  serviceStartedAt : ℤ
  asOf : ℤ

structure PrepaidUpgradeChargePreview where
  originalPaidRial : ℤ
  newFullTermPriceRial : ℤ
  termMonths : ℤ
  serviceStartedAt : ℤ
  asOf : ℤ
  unusedCurrentRial : ℤ
  remainingTargetRial : ℤ
  upgradeChargeRial : ℤ

/-- What is left of an amount that pays for a whole term. -/
def remainingRial (amount serviceStartedAt termMonths asOf : ℤ) : ℤ :=
  let (remainingNumerator, remainingDenominator) :=
    remainingRecognitionFraction serviceStartedAt termMonths asOf
  applyFraction amount remainingNumerator remainingDenominator

def computePrepaidUpgradeCharge (input : PrepaidUpgradeInput) :
    Except String PrepaidUpgradeChargePreview := do
  throwIf (input.originalPaidRial < 0) "invalid_original_paid"
  throwIf (input.newFullTermPriceRial < 0) "invalid_new_price"
  let termMonths := max 1 input.termMonths
  let unusedCurrentRial :=
    remainingRial input.originalPaidRial input.serviceStartedAt termMonths input.asOf
  let remainingTargetRial :=
    remainingRial input.newFullTermPriceRial input.serviceStartedAt termMonths input.asOf
  pure {
    originalPaidRial := input.originalPaidRial
    newFullTermPriceRial := input.newFullTermPriceRial
    termMonths
    serviceStartedAt := input.serviceStartedAt
    asOf := input.asOf
    unusedCurrentRial
    remainingTargetRial
    upgradeChargeRial :=
      if unusedCurrentRial < remainingTargetRial then remainingTargetRial - unusedCurrentRial
      else 0 }

/-- A positive charge is the difference of the two remaining values. -/
theorem upgradeChargeRial_of_pos {input : PrepaidUpgradeInput}
    {preview : PrepaidUpgradeChargePreview} (h : computePrepaidUpgradeCharge input = .ok preview)
    (hpositive : 0 < preview.upgradeChargeRial) :
    preview.upgradeChargeRial =
      remainingRial input.newFullTermPriceRial input.serviceStartedAt (max 1 input.termMonths)
          input.asOf -
        remainingRial input.originalPaidRial input.serviceStartedAt (max 1 input.termMonths)
          input.asOf := by
  simp only [computePrepaidUpgradeCharge, bind_eq_ok, throwIf_eq_ok] at h
  obtain ⟨_, -, _, -, h⟩ := h
  cases h
  simp only at hpositive ⊢
  by_cases hdearer : remainingRial input.originalPaidRial input.serviceStartedAt
      (max 1 input.termMonths) input.asOf <
    remainingRial input.newFullTermPriceRial input.serviceStartedAt (max 1 input.termMonths)
      input.asOf
  · rw [if_pos hdearer]
  · rw [if_neg hdearer] at hpositive
    exact absurd hpositive (lt_irrefl 0)

/-! ## Resources -/

def isStrictResourceUpgrade (current target : UpgradeResourceShape) : Bool :=
  current.vcpu ≤ target.vcpu && current.ramGb ≤ target.ramGb && current.diskGb ≤ target.diskGb &&
    (current.vcpu < target.vcpu || current.ramGb < target.ramGb || current.diskGb < target.diskGb)

def resourceShapeFromPlan (plan : UpgradePlan) : Option UpgradeResourceShape :=
  match plan.vcpu, plan.ramGb, plan.storageGb with
  | some vcpu, some ramGb, some storageGb =>
      if vcpu ≤ 0 ∨ ramGb ≤ 0 ∨ storageGb < 0 then none else some ⟨vcpu, ramGb, storageGb⟩
  | _, _, _ => none

/-- The resources of a version; its memory in whole gigabytes. -/
def shapeOfVersion (version : ResourceVersion) : UpgradeResourceShape :=
  ⟨version.vcpu, (version.ramMb + 1023) / 1024, version.diskGb⟩

/-! ## The server that is upgraded -/

structure UpgradeContext where
  server : Server
  plan : UpgradePlan
  order : ServiceOrder
  subscription : Option ServiceSubscription
  current : UpgradeResourceShape
  billingSnapshot : Option PolicySnapshot

def loadUpgradeContext (db : UpgradeDb) (instanceId userId : String) :
    Except String UpgradeContext := do
  let cloud ← (db.serverOf instanceId userId).elim (.error "not_found") .ok
  throwIf (cloud.status ≠ .active) "upgrade_not_eligible"
  -- the references of a server to its orders and its plan are never missing
  let server ← (db.servers.find? cloud.id).elim (.error "P2025") .ok
  let infra ← (db.service.infrastructureOrders.find? server.infrastructureOrderId).elim
    (.error "P2025") .ok
  let plan ← (db.planOf infra.planId).elim (.error "P2025") .ok
  let order ← (db.service.orders.find? infra.serviceOrderId).elim (.error "P2025") .ok
  throwIf (order.status ≠ .paid) "upgrade_not_eligible"
  let current ← (match db.timeline.currentVersion cloud.id with
    | some version => some (shapeOfVersion version)
    | none => resourceShapeFromPlan plan).elim (.error "upgrade_resources_unknown") .ok
  pure {
    server
    plan
    order
    subscription := db.service.subscriptionOf cloud.id
    current
    billingSnapshot := db.timeline.currentSnapshot cloud.id }

/-- When the term that is being upgraded has started. -/
def UpgradeContext.serviceStartedAt (ctx : UpgradeContext) : ℤ :=
  (ctx.subscription.map ServiceSubscription.currentPeriodStart <|> ctx.server.deliveredAt <|>
    ctx.server.provisionedAt <|> ctx.order.paidAt).getD ctx.order.createdAt

/-- `||` skips a term of no months. -/
def UpgradeContext.termMonths (ctx : UpgradeContext) : ℤ :=
  ((ctx.subscription.map ServiceSubscription.termMonths).filter (· ≠ 0) <|>
    (some ctx.order.termMonths).filter (· ≠ 0)).getD 1

def UpgradeContext.parchinLevel (ctx : UpgradeContext) : Option ParchinLevel :=
  ctx.subscription.bind ServiceSubscription.parchinLevel <|> ctx.order.parchinLevel <|>
    ctx.plan.minimumParchinLevel

/-! ## The charge -/

/-- `calculateMarkupRial` of `lib/billing/policy.ts` -/
def calculateMarkupRial (normalizedProviderCostRial markupBasisPoints : ℤ) : Except String ℤ := do
  throwIf (normalizedProviderCostRial < 0 ∨ markupBasisPoints < 0 ∨ 100000 < markupBasisPoints)
    "invalid_markup"
  pure (if normalizedProviderCostRial = 0 ∨ markupBasisPoints = 0 then 0
    else (normalizedProviderCostRial * markupBasisPoints + 9999) / 10000)

/-- What an hour or a day costs, now and after the upgrade. -/
structure PaygRates where
  currentHourlyEstimateRial : ℤ
  targetHourlyEstimateRial : ℤ
  currentDailyEstimateRial : ℤ
  targetDailyEstimateRial : ℤ

/-- `calculateResourceChangeBufferRial` of `lib/billing/policy.ts`, without one-time charges -/
def calculateResourceChangeBufferRial (policy : BillingPolicyVersion) (cadence : BillingCadence)
    (rates : PaygRates) : Except String ℤ := do
  validateBillingPolicyContract policy
  throwIf (!isCadenceAllowed policy.availability cadence) "billing_cadence_disabled"
  pure (match cadence with
    | .hourly => max 0 (rates.targetHourlyEstimateRial - rates.currentHourlyEstimateRial) *
        policy.hourlyMinimumCreditHours
    | .daily => max 0 (rates.targetDailyEstimateRial - rates.currentDailyEstimateRial) *
        policy.dailyMinimumCreditDays)

/-- The order of `effectiveFrom desc, version desc`. -/
def BillingPolicyRow.isLater (row other : BillingPolicyRow) : Bool :=
  other.effectiveFrom < row.effectiveFrom ||
    (other.effectiveFrom = row.effectiveFrom && other.version < row.version)

/-- The latest of the policies that are in force. -/
def latestPolicy (policies : List BillingPolicyRow) (scope : BillingPolicyRow → Bool) (now : ℤ) :
    Option BillingPolicyRow :=
  (policies.filter fun row => scope row && inRange row.effectiveFrom row.effectiveTo now).foldl
    (fun latest row => if latest.all row.isLater then some row else latest) none

/-- `getEffectiveBillingPolicy` of `lib/billing/policy-service.ts` -/
def getEffectiveBillingPolicy (db : UpgradeDb) (planId : String) (now : ℤ) :
    Except String BillingPolicyRow := do
  throwIf ((db.plans.find? planId).all (·.billingModel ≠ .paygWallet)) "payg_plan_not_found"
  let policy ← (latestPolicy db.policies (·.planId = some planId) now <|>
    latestPolicy db.policies (·.isGlobal) now).elim (.error "billing_policy_unavailable") .ok
  validateBillingPolicyContract policy.toBillingPolicyVersion
  pure policy

/-- What the charge of an upgrade is computed from. -/
structure ChargeInput where
  billingModel : ProductBillingModel
  orderAmount : ℤ
  termMonths : ℤ
  serviceStartedAt : ℤ
  parchinLevel : Option ParchinLevel
  current : UpgradeResourceShape
  targetPlan : UpgradePlan
  billingSnapshot : Option PolicySnapshot
  asOf : ℤ

structure ChargeResult where
  chargeRial : ℤ
  available : Bool
  targetShape : UpgradeResourceShape

/-- A target without a catalog item is not checked. -/
def UpgradePlan.catalogOk (plan : UpgradePlan) : Bool :=
  plan.catalogItem.all fun item => item.active && item.available

/-- The price of an hour of a target: the markups of its provider and its product, without a look
at whether the provider's configuration is enabled. -/
def paygTargetHourly (plan : UpgradePlan) (configs : PricingConfigs) : Except String ℤ :=
  match plan.catalogItem.bind ProviderCatalogItem.providerHourlyPriceIrr,
      configs.providers.find? (fun config => config.provider = plan.provider),
      configs.products.find? fun config =>
        config.provider = plan.provider && config.productKind = plan.productKind with
  | some providerHourly, some provider, some product =>
      if providerHourly ≤ 0 then .error "hourly_estimate_unavailable"
      else do
        let markup ← calculateMarkupRial providerHourly
          (provider.markupBasisPoints + product.markupBasisPoints)
        pure (providerHourly + markup)
  | _, _, _ => .error "hourly_estimate_unavailable"

/-- The charge of a server that pays as it goes: what the change adds to the credit it needs. -/
def paygCharge (input : ChargeInput) (configs : PricingConfigs) (seen : UpgradeDb) :
    Except String ℤ :=
  match input.billingSnapshot with
  | none => .error "billing_snapshot_missing"
  | some snapshot => do
      let targetHourly ← paygTargetHourly input.targetPlan configs
      let currentHourly := snapshot.hourlyEstimateRial.getD 0
      let policy ← getEffectiveBillingPolicy seen input.targetPlan.id input.asOf
      let buffer ← calculateResourceChangeBufferRial policy.toBillingPolicyVersion snapshot.cadence {
        currentHourlyEstimateRial := currentHourly
        targetHourlyEstimateRial := targetHourly
        currentDailyEstimateRial := snapshot.dailyEstimateRial.getD (currentHourly * 24)
        targetDailyEstimateRial := targetHourly * 24 }
      throwIf (buffer ≤ 0) "upgrade_charge_non_positive"
      pure buffer

/-- The terms that a price has a discount for; any other is read as one month. -/
def pricedTerm (termMonths : ℤ) : ℕ :=
  if termMonths = 3 ∨ termMonths = 6 ∨ termMonths = 12 then termMonths.toNat else 1

/-- What a target costs for the whole term. -/
def targetPrice (input : ChargeInput) (configs : PricingConfigs) : Except String ℤ := do
  let priced ← resolveConfiguredPlanPricing input.targetPlan.toInfrastructurePlan configs
    input.parchinLevel { termMonths := some (pricedTerm input.termMonths) } input.asOf
  let priced ← priced.elim (.error "target_price_unavailable") .ok
  pure priced.finalPriceRial

/-- The charge of a prepaid server. -/
def prepaidCharge (input : ChargeInput) (configs : PricingConfigs) : Except String ℤ := do
  let finalPriceRial ← targetPrice input configs
  let preview ← computePrepaidUpgradeCharge {
    originalPaidRial := input.orderAmount
    newFullTermPriceRial := finalPriceRial
    termMonths := pricedTerm input.termMonths
    serviceStartedAt := input.serviceStartedAt
    asOf := input.asOf }
  throwIf (preview.upgradeChargeRial ≤ 0) "upgrade_charge_non_positive"
  pure preview.upgradeChargeRial

def ChargeInput.chargeRial (input : ChargeInput) (configs : PricingConfigs) (seen : UpgradeDb) :
    Except String ℤ :=
  match input.billingModel with
  | .paygWallet => paygCharge input configs seen
  | .prepaidTerm => prepaidCharge input configs

def computeChargeForTarget (input : ChargeInput) (configs : PricingConfigs) (seen : UpgradeDb) :
    Except String ChargeResult := do
  let targetShape ← ((resourceShapeFromPlan input.targetPlan).filter
    (isStrictResourceUpgrade input.current)).elim (.error "invalid_upgrade_target") .ok
  let chargeRial ← input.chargeRial configs seen
  pure ⟨chargeRial, input.targetPlan.catalogOk, targetShape⟩

/-! ## `createUpgradeQuote` -/

structure CreateUpgradeQuote where
  instanceId : String
  userId : String
  targetPlanId : String
  now : ℤ
  newId : String

/-- A plan that a server can be moved to. -/
def UpgradePlan.isTargetOf (plan current : UpgradePlan) : Bool :=
  plan.active && plan.published && plan.deliveryMode = .managed &&
    plan.provider = current.provider && plan.providerApiVersion = current.providerApiVersion &&
    plan.productKind = current.productKind && plan.regionCode = current.regionCode

def UpgradeContext.chargeInput (ctx : UpgradeContext) (targetPlan : UpgradePlan) (now : ℤ) :
    ChargeInput where
  billingModel := ctx.plan.billingModel
  orderAmount := ctx.order.amount
  termMonths := ctx.termMonths
  serviceStartedAt := ctx.serviceStartedAt
  parchinLevel := ctx.parchinLevel
  current := ctx.current
  targetPlan
  billingSnapshot := ctx.billingSnapshot
  asOf := now

def CreateUpgradeQuote.snapshot (input : CreateUpgradeQuote) (ctx : UpgradeContext)
    (targetPlan : UpgradePlan) (priced : ChargeResult) : UpgradeSnapshot where
  billingModel := ctx.plan.billingModel
  expiresAt := input.now + recommendationQuoteValidityMs
  quotedAt := input.now
  lockedUpgradeChargeRial := priced.chargeRial
  current := ctx.current
  currentPlanId := ctx.plan.id
  target := priced.targetShape
  targetPlanId := targetPlan.id
  financial := none

def CreateUpgradeQuote.key (input : CreateUpgradeQuote) : String :=
  s!"customer-upgrade-quote:{input.instanceId}:{input.targetPlanId}:{input.userId}"

/-- The request of a quote; a key that has been used is told apart by the time. -/
def CreateUpgradeQuote.request (input : CreateUpgradeQuote) (snapshot : UpgradeSnapshot)
    (keyUsed : Bool) : ResourceChangeRequest where
  id := input.newId
  cloudInstanceId := input.instanceId
  status := .requested
  planId := input.targetPlanId
  requestedById := input.userId
  upgrade := true
  estimateSnapshot := some snapshot
  incrementalBufferRial := snapshot.lockedUpgradeChargeRial
  idempotencyKey := if keyUsed then s!"{input.key}:{input.now}" else input.key

/-- An open quote that has not expired is given again. -/
def ResourceChangeRequest.isOpenAt (row : ResourceChangeRequest) (now : ℤ) : Bool :=
  row.status = .requested && row.estimateSnapshot.any (now < ·.expiresAt)

/-- The open upgrade quotes of a server and a user. -/
def openUpgradeQuotes (input : CreateUpgradeQuote) (seen : UpgradeDb) :
    List ResourceChangeRequest :=
  seen.requests.rows.filter fun row => row.cloudInstanceId = input.instanceId &&
    row.requestedById = input.userId && row.status = .requested && row.estimateSnapshot.isSome

/-- Cancel the quotes that a query has found, one after the other, by their ids. -/
def cancelQuotes : List ResourceChangeRequest → Tx UpgradeDb String Unit
  | [] => pure ()
  | row :: rest => do
      setRequestStatus row.id .canceled
      cancelQuotes rest

structure CreatedQuote where
  request : ResourceChangeRequest
  reused : Bool

def createUpgradeQuote (input : CreateUpgradeQuote) (seen : ℕ → UpgradeDb) :
    Tx UpgradeDb String CreatedQuote := do
  let ctx ← Tx.ofExcept (loadUpgradeContext (seen 0) input.instanceId input.userId)
  let targetPlan ← Tx.orThrow "invalid_upgrade_target"
    (((seen 1).planOf input.targetPlanId).filter (·.isTargetOf ctx.plan))
  let priced ← Tx.ofExcept (computeChargeForTarget (ctx.chargeInput targetPlan input.now)
    (seen 2).rows.pricingConfigs (seen 3))
  Tx.throwIf (priced.available = false) "target_unavailable"
  let existing := (seen 4).requests.rows.find? fun row => row.idempotencyKey = input.key
  match existing.filter (·.isOpenAt input.now) with
  | some request => pure ⟨request, true⟩
  | none => do
      cancelQuotes (openUpgradeQuotes input (seen 5))
      let request := input.request (input.snapshot ctx targetPlan priced) existing.isSome
      Tx.attempt "P2002" fun db =>
        (db.requests.insert? request).map ({ db with requests := · })
      pure ⟨request, false⟩

end AbrChin.Upgrade
