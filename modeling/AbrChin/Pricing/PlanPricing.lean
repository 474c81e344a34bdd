import AbrChin.Pricing.CommercialEngine

/-!
# The price of a plan

`lib/pricing/plan-pricing.ts`: a plan has a price while it is mapped to a catalog
item that is on sale and whose provider price is known; the price itself comes
from the commercial engine.  The unit in which a provider quotes an amount is
kept as its multiplier, the result of `normalizeProviderPriceContract`.
-/

namespace AbrChin.Pricing

open Lib

/-! ## Catalog items and plans -/

inductive InfrastructureProvider where
  | arvan
  deriving DecidableEq

inductive InfrastructureProductKind where
  | readyInstantServer
  | cloudServer
  deriving DecidableEq

inductive CatalogItemSource where
  | apiCatalog
  | manualApiBacked
  | manualAdmin
  deriving DecidableEq

inductive OfferSource where
  | apiCatalog
  | manualApiBacked
  | preprovisionedInventory
  | manualAdmin
  deriving DecidableEq

inductive ParchinLevel where
  | start
  | active
  | stable
  deriving DecidableEq

inductive DeliveryMode where
  | raw
  | managed
  deriving DecidableEq

inductive ProviderCatalogStatus where
  | active
  | stale
  | unavailable
  | invalidResource
  | invalidPrice
  | disabled
  deriving DecidableEq

structure ProviderCatalogItem where
  id : String
  provider : InfrastructureProvider
  apiVersion : String
  productKind : InfrastructureProductKind
  source : CatalogItemSource
  regionCode : String
  sizeCode : String
  externalPlanId : Option String
  compatibleImageCodes : List String
  vcpu : Option ℕ
  ramMb : Option ℕ
  diskGb : Option ℕ
  available : Bool
  active : Bool
  status : ProviderCatalogStatus
  providerMonthlyPriceIrr : Option ℤ
  priceMonthlyAmount : Option ℤ
  priceScale : ℕ
  rialMultiplier : Option ℤ
  manualLastVerifiedAt : Option ℤ
  manualPriceValidUntil : Option ℤ
  providerHourlyPriceIrr : Option ℤ := none
  priceHourlyAmount : Option ℤ := none
  lastSyncedAt : ℤ := 0

structure InfrastructurePlan where
  id : String
  active : Bool
  /-- `catalogMappingStatus` is `MAPPED`. -/
  mapped : Bool
  catalogItem : Option ProviderCatalogItem
  offerSource : OfferSource
  provider : InfrastructureProvider
  providerApiVersion : String
  productKind : InfrastructureProductKind
  regionCode : String
  sizeCode : String
  imageCode : String
  offerLastVerifiedAt : Option ℤ
  offerPriceValidUntil : Option ℤ
  minimumParchinLevel : Option ParchinLevel
  parchinIncluded : Bool
  deliveryMode : DeliveryMode
  skuMarkupBasisPoints : Option ℤ

/-! ## The price -/

structure PlanPricingOptions where
  productMarkupBasisPoints : ℤ := 0
  taxBasisPoints : ℤ := 0
  parchinLevel : Option ParchinLevel := none
  parchinPriceRial : ℤ := 0
  termMonths : Option ℕ := none
  couponDiscountBps : Option ℤ := none
  minimumPostDiscountGrossMarginBps : Option ℤ := none
  infrastructureSaleRialOverride : Option ℤ := none

structure EffectivePlanPricing where
  catalogItemId : String
  providerBasePriceRial : ℤ
  markupBasisPoints : ℤ
  providerMarkupBasisPoints : ℤ
  productMarkupBasisPoints : ℤ
  markupAmountRial : ℤ
  parchinLevel : ParchinLevel
  parchinPriceRial : ℤ
  taxBasisPoints : ℤ
  taxAmountRial : ℤ
  termMonths : ℕ
  termDiscountBps : ℤ
  lineItems : List QuoteLineItem
  finalPriceRial : ℤ
  renewalPriceRial : ℤ
  vcpu : Option ℕ
  ramGb : Option ℕ
  storageGb : Option ℕ

def divideRoundUp (numerator denominator : ℤ) : Except String ℤ :=
  if numerator < 0 ∨ denominator ≤ 0 then .error "invalid_rounding_input"
  else .ok ((numerator + denominator - 1).tdiv denominator)

def providerAmountToRial (scaledAmount : ℤ) (scale : ℕ) (rialMultiplier : ℤ) : Except String ℤ :=
  if scaledAmount ≤ 0 then .error "invalid_provider_price"
  else divideRoundUp (scaledAmount * rialMultiplier) (10 ^ scale)

def catalogItemPriceRial (item : ProviderCatalogItem) (amount : Option ℤ) :
    Except String (Option ℤ) :=
  match amount.filter (0 < ·), item.rialMultiplier with
  | some amount, some multiplier =>
      (providerAmountToRial amount item.priceScale multiplier).map some
  | _, _ => .ok none

def catalogItemBasePriceRial (item : ProviderCatalogItem) : Except String (Option ℤ) :=
  match item.providerMonthlyPriceIrr with
  | some price => .ok (if 0 < price then some price else none)
  | none => catalogItemPriceRial item item.priceMonthlyAmount

def catalogItemBaseHourlyPriceRial (item : ProviderCatalogItem) : Except String (Option ℤ) :=
  match item.providerHourlyPriceIrr with
  | some price => .ok (if 0 < price then some price else none)
  | none => catalogItemPriceRial item item.priceHourlyAmount

/-- A manual item has a price while an admin has verified it. -/
def ProviderCatalogItem.manualContractValid (item : ProviderCatalogItem) (now : ℤ) : Bool :=
  item.source = .apiCatalog ||
    (item.manualLastVerifiedAt.isSome && item.manualPriceValidUntil.any (now < ·))

def resolveCatalogItemPricing (item : ProviderCatalogItem) (markupBasisPoints : ℤ)
    (options : PlanPricingOptions) (now : ℤ) : Except String (Option EffectivePlanPricing) := do
  let some providerBasePriceRial ← catalogItemBasePriceRial item | pure none
  if !item.active || !item.available || item.status ≠ .active ||
      !item.manualContractValid now then
    pure none
  else do
    let quote ← computeCommercialPriceBreakdown {
      providerMonthlyPriceIrr := providerBasePriceRial
      providerMarkupBps := markupBasisPoints
      productMarkupBps := options.productMarkupBasisPoints
      parchinPriceIrr := options.parchinPriceRial
      taxBps := options.taxBasisPoints
      termMonths := some (options.termMonths.getD 1)
      couponDiscountBps := options.couponDiscountBps
      minimumPostDiscountGrossMarginBps := options.minimumPostDiscountGrossMarginBps
      infrastructureSaleRialOverride := options.infrastructureSaleRialOverride }
    pure (some {
      catalogItemId := item.id
      providerBasePriceRial
      markupBasisPoints := quote.markupBps
      providerMarkupBasisPoints := markupBasisPoints
      productMarkupBasisPoints := options.productMarkupBasisPoints
      markupAmountRial := quote.totalMarkupRial
      parchinLevel := options.parchinLevel.getD .start
      parchinPriceRial := options.parchinPriceRial
      taxBasisPoints := options.taxBasisPoints
      taxAmountRial := quote.taxRial
      termMonths := quote.termMonths
      termDiscountBps := quote.termDiscountBps
      lineItems := quote.lineItems
      finalPriceRial := quote.finalPriceRial
      renewalPriceRial := quote.renewalPriceRial
      vcpu := item.vcpu
      ramGb := item.ramMb.map fun ramMb => (ramMb + 1023) / 1024
      storageGb := item.diskGb })

def parchinRank : ParchinLevel → ℕ
  | .start => 1
  | .active => 2
  | .stable => 3

/-- A ready server may be mapped to an item of a cloud server. -/
def InfrastructurePlan.compatibleProductKind (plan : InfrastructurePlan)
    (item : ProviderCatalogItem) : Bool :=
  item.productKind = plan.productKind ||
    (plan.provider = .arvan && plan.productKind = .readyInstantServer &&
      item.productKind = .cloudServer)

/-- The plan and its catalog item name the same thing. -/
def InfrastructurePlan.matches (plan : InfrastructurePlan) (item : ProviderCatalogItem) : Bool :=
  item.provider = plan.provider && item.apiVersion = plan.providerApiVersion &&
    plan.compatibleProductKind item && item.regionCode = plan.regionCode &&
    item.sizeCode = plan.sizeCode && item.compatibleImageCodes.contains plan.imageCode

/-- An offer that is not from the catalog needs a verified price that is still valid. -/
def InfrastructurePlan.offerValid (plan : InfrastructurePlan) (now : ℤ) : Bool :=
  plan.offerSource = .apiCatalog ||
    (plan.offerLastVerifiedAt.isSome && plan.offerPriceValidUntil.any (now < ·))

def InfrastructurePlan.minimumLevel (plan : InfrastructurePlan) : Option ParchinLevel :=
  plan.minimumParchinLevel <|> if plan.parchinIncluded then some .start else none

/-- `config` is the markup of the provider's pricing configuration. -/
def resolvePlanPricing (plan : InfrastructurePlan) (config : Option ℤ)
    (options : PlanPricingOptions) (now : ℤ) : Except String (Option EffectivePlanPricing) :=
  let manualAdmin := plan.offerSource = .manualAdmin
  match plan.catalogItem, (if manualAdmin then some 0 else config), plan.minimumLevel with
  | some item, some markup, some minimum =>
      if !plan.active || !plan.mapped || !plan.matches item || !plan.offerValid now ||
          plan.deliveryMode ≠ .managed ||
          options.parchinLevel.any (fun level => parchinRank level < parchinRank minimum) then
        .ok none
      else
        resolveCatalogItemPricing item markup
          { options with
            productMarkupBasisPoints := if manualAdmin then 0 else options.productMarkupBasisPoints
            parchinLevel := some (options.parchinLevel.getD minimum) } now
  | _, _, _ => .ok none

/-- The price that a quote has stored.  Its currency is `IRR`. -/
structure PriceSnapshot where
  catalogItemId : Option String
  providerBasePriceRial : Option ℤ
  markupBasisPoints : Option ℤ
  finalPriceRial : Option ℤ
  parchinLevel : Option ParchinLevel
  parchinPriceIrr : Option ℤ
  taxBasisPoints : Option ℤ
  taxAmountIrr : Option ℤ

def samePriceSnapshot (current : EffectivePlanPricing) (snapshot : PriceSnapshot) : Bool :=
  snapshot.catalogItemId = some current.catalogItemId &&
    snapshot.providerBasePriceRial = some current.providerBasePriceRial &&
    snapshot.markupBasisPoints = some current.markupBasisPoints &&
    snapshot.finalPriceRial = some current.finalPriceRial &&
    snapshot.parchinLevel = some current.parchinLevel &&
    snapshot.parchinPriceIrr = some current.parchinPriceRial &&
    snapshot.taxBasisPoints = some current.taxBasisPoints &&
    snapshot.taxAmountIrr = some current.taxAmountRial

/-! ## A price without discounts is positive -/

variable {options : PlanPricingOptions} {now : ℤ} {price : EffectivePlanPricing}

theorem resolveCatalogItemPricing_pos {item : ProviderCatalogItem} {markupBasisPoints : ℤ}
    (h : resolveCatalogItemPricing item markupBasisPoints options now = .ok (some price))
    (hterm : options.termMonths = none) (hcoupon : options.couponDiscountBps = none) :
    0 < price.finalPriceRial := by
  unfold resolveCatalogItemPricing at h
  obtain ⟨base, -, h⟩ := bind_eq_ok.1 h
  cases base with
  | none => cases h
  | some base =>
      simp only at h
      split_ifs at h
      · cases h
      · obtain ⟨quote, hquote, h⟩ := bind_eq_ok.1 h
        cases h
        refine finalPriceRial_pos hquote ?_ ?_
        · simp [hterm, termDiscountBps]
        · simp [hcoupon]

/-- **The price of a renewal is positive.** -/
theorem resolvePlanPricing_pos {plan : InfrastructurePlan} {config : Option ℤ}
    (h : resolvePlanPricing plan config options now = .ok (some price))
    (hterm : options.termMonths = none) (hcoupon : options.couponDiscountBps = none) :
    0 < price.finalPriceRial := by
  unfold resolvePlanPricing at h
  simp only at h
  split at h
  · split_ifs at h
    · cases h
    · exact resolveCatalogItemPricing_pos h hterm hcoupon
    · exact resolveCatalogItemPricing_pos h hterm hcoupon
  · cases h

end AbrChin.Pricing
