import AbrChin.Orders.Schema
import AbrChin.Subscriptions.Period

/-!
# Renewals

`lib/subscriptions/service.ts`: a renewal quote is created for the period after the
current one, and paid from the wallet.  Its quote and its subscription are read without a
lock, and their rows are written by their ids; so `seen` is what the reads of a call saw,
in the order in which the code makes them, and the writes act on the rows of the version
that the transaction commits to.

Enrollments, journal entries and notifications are left out.
-/

namespace AbrChin.Subscriptions

open Lib Js Pricing Wallet Orders

def renewalQuoteValidityMs : ℤ := 10 * 60 * 1000

/-- `RENEWABLE_STATUSES` -/
def renewable : SubscriptionStatus → Bool
  | .active | .pastDue | .suspended => true
  | .canceled | .terminated => false

/-! ## The price of a renewal -/

/-- The configuration that a renewal is priced with. -/
structure RenewalConfig where
  plan : InfrastructurePlan
  /-- The markup of the provider, when its configuration is enabled. -/
  config : Option ℤ
  /-- The markup of the product, when its configuration is enabled. -/
  productConfig : Option ℤ
  /-- The tax of the commerce configuration, when there is one. -/
  taxBps : Option ℤ
  /-- The price of a level, when it is active. -/
  parchin : ParchinLevel → Option ℤ

def RenewalConfig.currentPricing (rows : RenewalConfig) (parchinLevel : ParchinLevel) (now : ℤ) :
    Except String (Option EffectivePlanPricing) :=
  match rows.config, rows.productConfig, rows.parchin parchinLevel with
  | some config, some markupBasisPoints, some priceRial =>
      resolvePlanPricing rows.plan (some config) {
        productMarkupBasisPoints := rows.plan.skuMarkupBasisPoints.getD markupBasisPoints
        taxBasisPoints := rows.taxBps.getD 1000
        parchinLevel := some parchinLevel
        parchinPriceRial := priceRial } now
  | _, _, _ => .ok none

/-- The price at which the catalog item of the plan is listed has to be the one that the
provider asks for now. -/
def revalidateRenewalSelection (plan : InfrastructurePlan) (monthlyPriceIrr : Except String ℤ) :
    Except String ℤ :=
  match (plan.catalogItem.bind ProviderCatalogItem.providerMonthlyPriceIrr).filter (· ≠ 0) with
  | none => .error "renewal_unavailable"
  | some listed => do
      let current ← monthlyPriceIrr
      throwIf (current ≠ listed) "renewal_price_changed"
      pure current

/-! ## `createRenewalQuote` -/

structure CreateRenewalQuote where
  instanceId : String
  userId : String
  now : ℤ
  rows : RenewalConfig
  monthlyPriceIrr : Except String ℤ
  newId : String

/-- The quote for the period after the current one. -/
def CreateRenewalQuote.quote (input : CreateRenewalQuote) (subscription : ServiceSubscription)
    (pricing : EffectivePlanPricing) : ServiceRenewalQuote where
  id := input.newId
  subscriptionId := subscription.id
  userId := input.userId
  status := .active
  catalogItemId := pricing.catalogItemId
  providerBasePriceRialSnapshot := pricing.providerBasePriceRial
  markupBasisPointsSnapshot := pricing.markupBasisPoints
  finalPriceRialSnapshot := pricing.finalPriceRial
  parchinLevel := some pricing.parchinLevel
  parchinPriceIrrSnapshot := some pricing.parchinPriceRial
  taxBasisPointsSnapshot := some pricing.taxBasisPoints
  taxAmountIrrSnapshot := some pricing.taxAmountRial
  periodStartSnapshot := subscription.currentPeriodEnd
  periodEndSnapshot := addBillingMonth subscription.currentPeriodEnd
  expiresAt := input.now + renewalQuoteValidityMs
  paidAt := none

def ServiceRenewalQuote.withStatus (status : RenewalQuoteStatus) (row : ServiceRenewalQuote) :
    ServiceRenewalQuote := { row with status }

/-- `serviceRenewalQuote.updateMany`: the active quotes of a subscription that the statement
saw, and that are still active, are invalidated. -/
def invalidateQuotes (seen : ServiceDb) (subscriptionId : String) : Tx ServiceDb String Unit :=
  Tx.modify fun db => { db with
    renewalQuotes := db.renewalQuotes.updateMany
      (fun row => row.subscriptionId = subscriptionId && row.status = .active &&
        (seen.renewalQuotes.find? row.id).any (·.status = .active))
      (ServiceRenewalQuote.withStatus .invalidated) fun _ => rfl }

def createRenewalQuote (input : CreateRenewalQuote) (seen : ℕ → ServiceDb) :
    Tx ServiceDb String ServiceRenewalQuote := do
  let subscription ← Tx.orThrow "not_found" ((seen 0).subscriptionOf input.instanceId)
  Tx.throwIf (subscription.userId ≠ input.userId) "not_found"
  Tx.throwIf (¬ renewable subscription.status) "invalid_status"
  let cloud ← Tx.orThrow "not_found" ((seen 1).instances.find? subscription.cloudInstanceId)
  Tx.throwIf (cloud.status = .terminated) "instance_terminated"
  let _ ← Tx.ofExcept (revalidateRenewalSelection input.rows.plan input.monthlyPriceIrr)
  let parchinLevel :=
    (subscription.parchinLevel <|> input.rows.plan.minimumParchinLevel).getD .start
  let pricing ← Tx.ofExcept (input.rows.currentPricing parchinLevel input.now)
  let pricing ← Tx.orThrow "renewal_unavailable" pricing
  invalidateQuotes (seen 2) subscription.id
  let quote := input.quote subscription pricing
  Tx.attempt "P2002" fun db => (db.renewalQuotes.insert? quote).map ({ db with renewalQuotes := · })
  pure quote

/-! ## `payRenewalQuote` -/

/-- The subscription after a renewal. -/
def ServiceSubscription.renew (quote : ServiceRenewalQuote) (parchinLevel : ParchinLevel)
    (row : ServiceSubscription) : ServiceSubscription :=
  { row with
    status := .active
    parchinLevel := some parchinLevel
    renewalPriceRial := quote.finalPriceRialSnapshot
    currentPeriodStart := quote.periodStartSnapshot
    currentPeriodEnd := quote.periodEndSnapshot
    nextRenewalAt := quote.periodEndSnapshot
    graceEndsAt := addGracePeriod quote.periodEndSnapshot 7
    autoRenew := false }

end AbrChin.Subscriptions
