import AbrChin.Infrastructure.SalePolicy
import AbrChin.Pricing.ConfiguredPlans

/-!
# The cards of the storefront

`lib/storefront/assortment-service.ts` and `lib/storefront/dominance.ts`: the cards of a tier are
built from catalog items, limited to the capacity and the price band of the tier, and thinned out
by the cards that are at least as good.  A card has the id of the plan that publishes its item, and
can be bought while that plan is on sale.

What a region is called and how strings are collated are given with the shop.  Titles, texts,
commercial traits and the diagnostics of removed cards are left out.
-/

namespace AbrChin.Storefront

open Lib Pricing Infrastructure

/-! ## The shop -/

structure StorefrontAssortmentSlot where
  tier : StorefrontChinishTier
  /-- The role is `PRIMARY`, and not `RESERVE`. -/
  primary : Bool
  sortOrder : ℤ
  catalogItemId : String
  enabled : Bool
  deriving DecidableEq

/-- What the cards are made of. -/
structure Shop extends Catalog where
  slots : List StorefrontAssortmentSlot
  env : PublicSaleEnv
  lastCatalogSync : Option ℤ
  /-- The regions that are enabled for sale. -/
  saleRegions : List String
  /-- `storefrontLocationLabel` -/
  locationLabel : String → String
  localeCompare : String → String → Ordering

/-- The storefront shows a catalog that is up to a day old as fresh. -/
def isStorefrontDisplayFresh (lastSync : Option ℤ) (now : ℤ) : Bool :=
  lastSync.any fun lastSync => now - lastSync ≤ 24 * 60 * 60 * 1000

def Shop.settings (shop : Shop) : StorefrontSettings :=
  shop.storefront.getD defaultStorefrontSettings

/-- The plans that publish an item. -/
def SalePlan.listed (plan : SalePlan) : Bool :=
  plan.offerSource = .apiCatalog && plan.active && plan.published && plan.mapped

/-- `publishedByCatalogItemId`: of several plans for one item, the last one. -/
def Shop.publishedPlan (shop : Shop) (itemId : String) : Option SalePlan :=
  shop.plans.rows.reverse.find? fun plan =>
    SalePlan.listed plan && plan.catalogItemId = some itemId

/-! ## A card -/

structure PublicPlanOffer where
  id : String
  productKind : InfrastructureProductKind
  parchinLevel : ParchinLevel
  regionCode : String
  vcpu : Option ℕ
  ramGb : Option ℕ
  storageGb : Option ℕ
  salePriceRial : ℤ
  renewalPriceRial : ℤ
  purchaseState : PurchaseState
  checkedAt : ℤ
  available : Bool
  purchasable : Bool
  deriving DecidableEq

def isCatalogItemDisplayable (item : ProviderCatalogItem) (catalogFresh : Bool) :
    Except String Bool := do
  if !item.active || !item.available then pure false
  else if catalogFresh && item.status ≠ .active then pure false
  else if !catalogFresh && item.status ≠ .active && item.status ≠ .stale then pure false
  else do
    let hourly ← catalogItemBaseHourlyPriceRial item
    let monthly ← catalogItemBasePriceRial item
    pure (hourly.any (0 < ·) || monthly.any (0 < ·))

/-- `DEFAULT_LAUNCH_MARKUP_BASIS_POINTS` -/
def defaultLaunchMarkupBasisPoints : ℤ := 4286

def calculateFinalPriceRial (providerBasePriceRial markupBasisPoints : ℤ) : Except String ℤ := do
  throwIf (providerBasePriceRial ≤ 0) "invalid_provider_price"
  throwIf (markupBasisPoints < 0) "invalid_markup"
  divideRoundUp (providerBasePriceRial * (10000 + markupBasisPoints)) 10000

/-- An estimate for a card that has no price; it is only shown. -/
def fallbackDisplayMonthly (item : ProviderCatalogItem) : Except String ℤ := do
  let sellable (monthly : ℤ) : ℤ := if 1 < monthly then monthly else 0
  match (← catalogItemBasePriceRial item).filter (1 < ·) with
  | some monthlyBase =>
      let monthly ← calculateFinalPriceRial monthlyBase defaultLaunchMarkupBasisPoints
      pure (sellable monthly)
  | none =>
      match (← catalogItemBaseHourlyPriceRial item).filter (1 < ·) with
      | some hourlyBase =>
          let hourly ← calculateFinalPriceRial hourlyBase defaultLaunchMarkupBasisPoints
          pure (sellable (hourly * 720))
      | none => pure 0

/-- The card of an item: its price is the engine's for one month, when there is one. -/
def toPublicOffer (item : ProviderCatalogItem) (catalogFresh : Bool)
    (priced : Option EffectivePlanPricing) (purchaseState : PurchaseState) (purchasable : Bool)
    (planId : Option String) : Except String PublicPlanOffer := do
  let verified := priced.filter isVerifiedSellablePricing
  let monthlyPriceRial ← (match verified with
    | some priced => pure priced.finalPriceRial
    | none => fallbackDisplayMonthly item)
  pure {
    id := planId.getD item.id
    productKind := item.productKind
    parchinLevel := (priced.map EffectivePlanPricing.parchinLevel).getD .start
    regionCode := item.regionCode
    vcpu := item.vcpu
    ramGb := item.ramMb.map fun ramMb => (ramMb + 1023) / 1024
    storageGb := item.diskGb
    salePriceRial := monthlyPriceRial
    renewalPriceRial := (priced.map EffectivePlanPricing.renewalPriceRial).getD monthlyPriceRial
    purchaseState
    checkedAt := item.lastSyncedAt
    available := catalogFresh && item.available
    purchasable := purchasable && verified.isSome && !item.compatibleImageCodes.isEmpty }

/-! ## The price of a card -/

/-- What decides whether the profit curve applies to the card of an item. -/
def cardPlan (item : ProviderCatalogItem) (offerSource : OfferSource) : InfrastructurePlan where
  id := item.id
  active := item.active
  mapped := true
  catalogItem := some item
  offerSource
  provider := item.provider
  providerApiVersion := item.apiVersion
  productKind := item.productKind
  regionCode := item.regionCode
  sizeCode := item.sizeCode
  imageCode := ""
  offerLastVerifiedAt := none
  offerPriceValidUntil := none
  minimumParchinLevel := none
  parchinIncluded := true
  deliveryMode := .managed
  skuMarkupBasisPoints := none

/-- The markups of the provider and of the product of an item. -/
def PricingConfigs.ofItem (configs : PricingConfigs) (item : ProviderCatalogItem) :
    Option (ℤ × ℤ) := do
  let provider ← configs.providers.find? fun config => config.provider = item.provider &&
    config.apiVersion = item.apiVersion && config.enabled
  let product ← configs.products.find? fun config => config.provider = item.provider &&
    config.apiVersion = item.apiVersion && config.productKind = item.productKind
  some (provider.markupBasisPoints, product.markupBasisPoints)

/-- The price of the card of an item, for the level of its tier. -/
def cardPricing (configs : PricingConfigs) (item : ProviderCatalogItem)
    (tier : StorefrontChinishTier) (published : Option SalePlan) (now : ℤ) :
    Except String (Option EffectivePlanPricing) := do
  let pricingParchinLevel := storefrontParchinLevel tier
  let providerCostRial ← catalogItemBasePriceRial item
  match PricingConfigs.ofItem configs item with
  | none => pure none
  | some (providerMarkup, productMarkup) => do
      let curveMarkup ← resolveProviderMarkupForPlan {
        plan := cardPlan item ((published.map (·.offerSource)).getD .apiCatalog)
        providerMonthlyCostRial := providerCostRial.getD 0
        providerConfigMarkupBps := providerMarkup
        profitCurve := some configs.profitCurve }
      resolveCatalogItemPricing item curveMarkup.providerMarkupBps {
        productMarkupBasisPoints :=
          (published.bind (·.skuMarkupBasisPoints)).getD productMarkup
        taxBasisPoints := (configs.commerce.map CommercePricingConfig.taxBps).getD 1000
        parchinLevel := some pricingParchinLevel
        -- without a row that can be sold, the level is shown without a price
        parchinPriceRial := ((configs.parchin.find? fun config =>
          config.level = pricingParchinLevel).map ParchinPricingConfig.priceRial).getD 0
        termMonths := some 1
        minimumPostDiscountGrossMarginBps :=
          some (minimumPostDiscountMarginFromConfigs configs.commerce configs.profitCurve)
        infrastructureSaleRialOverride := curveMarkup.infrastructureSaleRialOverride } now

def buildOfferForItem (shop : Shop) (tier : StorefrontChinishTier) (now : ℤ)
    (item : ProviderCatalogItem) : Except String (Option PublicPlanOffer) := do
  let catalogFresh := isStorefrontDisplayFresh shop.lastCatalogSync now
  if !(← isCatalogItemDisplayable item catalogFresh) then pure none
  else do
    let regionSaleEnabled := shop.saleRegions.contains item.regionCode
    let priced ← cardPricing shop.rows.pricingConfigs item tier (shop.publishedPlan item.id) now
    match shop.publishedPlan item.id with
    | some published =>
        let access := resolveCatalogOfferAccess catalogFresh published.displayDuringProviderOutage
          (isPublicSaleEnabled shop.env published.productKind published.offerSource)
          regionSaleEnabled
        if !access.visible then pure none
        else do
          let offer ← toPublicOffer item catalogFresh priced access.purchaseState access.purchasable
            (some published.id)
          pure (some offer)
    | none =>
        let access := resolveCatalogOfferAccess catalogFresh true false regionSaleEnabled
        if !access.visible then pure none
        else do
          let offer ← toPublicOffer item catalogFresh priced
            (if item.available && item.status = .active then .skuUnpublished else .unavailable)
            false none
          pure (some offer)

def offerMatchesStorefrontTier (offer : PublicPlanOffer) (tier : StorefrontChinishTier)
    (settings : StorefrontSettings) : Bool :=
  let vcpu := offer.vcpu.getD 0
  let ramGb := offer.ramGb.getD 0
  0 < vcpu && 0 < ramGb &&
    classifyStorefrontCapacityTier vcpu ramGb settings.toStorefrontCapacityRules = tier &&
    offerMatchesTierPriceBand offer.salePriceRial (settings.priceBands tier)

/-! ## Dominated cards -/

/-- A card with the item that it was built from. -/
structure OfferRow where
  offer : PublicPlanOffer
  item : ProviderCatalogItem

def hasCompleteResources (offer : PublicPlanOffer) : Bool :=
  offer.vcpu.any (0 < ·) && offer.ramGb.any (0 < ·) && offer.storageGb.any (0 < ·)

/-- A card that is at least as strong and at most as expensive, and not the same. -/
def planDominates (a b : PublicPlanOffer) : Bool :=
  hasCompleteResources a && hasCompleteResources b &&
    b.vcpu.getD 0 ≤ a.vcpu.getD 0 && b.ramGb.getD 0 ≤ a.ramGb.getD 0 &&
    b.storageGb.getD 0 ≤ a.storageGb.getD 0 && a.salePriceRial ≤ b.salePriceRial &&
    (b.vcpu.getD 0 < a.vcpu.getD 0 || b.ramGb.getD 0 < a.ramGb.getD 0 ||
      b.storageGb.getD 0 < a.storageGb.getD 0 || a.salePriceRial < b.salePriceRial)

def resourcesEqual (a b : PublicPlanOffer) : Bool :=
  a.vcpu = b.vcpu && a.ramGb = b.ramGb && a.storageGb = b.storageGb &&
    a.salePriceRial = b.salePriceRial

/-- Cheaper, then fresher, then by id. -/
def Shop.compareDominancePreference (shop : Shop) (a b : PublicPlanOffer) : Ordering :=
  (compare a.salePriceRial b.salePriceRial).then <|
    (compare b.checkedAt a.checkedAt).then (shop.localeCompare a.id b.id)

/-- By price, memory, cores, disk and id. -/
def Shop.comparePublicCatalogOffers (shop : Shop) (a b : PublicPlanOffer) : Ordering :=
  (compare a.salePriceRial b.salePriceRial).then <|
    (compare (a.ramGb.getD 0) (b.ramGb.getD 0)).then <|
      (compare (a.vcpu.getD 0) (b.vcpu.getD 0)).then <|
        (compare (a.storageGb.getD 0) (b.storageGb.getD 0)).then (shop.localeCompare a.id b.id)

/-- A candidate joins the survivors unless one of them is as good; those that it dominates go. -/
def survive (survivors : List OfferRow) (candidate : OfferRow) : List OfferRow :=
  if survivors.any fun row => resourcesEqual row.offer candidate.offer ||
      planDominates row.offer candidate.offer then
    survivors
  else survivors.filter (fun row => !planDominates candidate.offer row.offer) ++ [candidate]

/-- The cards of one market are compared with each other. -/
def Shop.marketKey (shop : Shop) (row : OfferRow) : String × InfrastructureProductKind :=
  (shop.locationLabel row.offer.regionCode, row.offer.productKind)

def Shop.filterDominatedPlans (shop : Shop) (candidates : List OfferRow) : List OfferRow :=
  let eligible := candidates.filter fun row => row.offer.purchasable && row.offer.available &&
    hasCompleteResources row.offer
  let kept := (eligible.map shop.marketKey).eraseDups.flatMap fun key =>
    ((eligible.filter (shop.marketKey · = key)).insertionSort fun a b =>
      (shop.compareDominancePreference a.offer b.offer).isLE).foldl survive []
  kept.insertionSort fun a b => (shop.comparePublicCatalogOffers a.offer b.offer).isLE

/-! ## The cards of a tier -/

/-- Ascending, with unknown values last. -/
def compareNullsLast : Option ℕ → Option ℕ → Ordering
  | some a, some b => compare a b
  | some _, none => .lt
  | none, some _ => .gt
  | none, none => .eq

/-- The items of the slots of a tier, the primary ones first. -/
def Shop.slotItems (shop : Shop) (tier : StorefrontChinishTier) : List ProviderCatalogItem :=
  ((shop.slots.filter fun slot => slot.tier = tier && slot.enabled).insertionSort fun a b =>
    (a.primary && !b.primary) || (a.primary = b.primary && a.sortOrder ≤ b.sortOrder)).filterMap
      fun slot => shop.items.find? slot.catalogItemId

/-- The items of the catalog that can be shown, the smaller ones first. -/
def Shop.fillPool (shop : Shop) : List ProviderCatalogItem :=
  ((shop.items.rows.filter fun item => item.provider = .arvan && item.source = .apiCatalog &&
      item.active && item.available && item.status = .active &&
      (item.providerHourlyPriceIrr.any (0 < ·) || item.providerMonthlyPriceIrr.any (0 < ·))
    ).insertionSort fun a b => ((compareNullsLast a.vcpu b.vcpu).then <|
      (compareNullsLast a.ramMb b.ramMb).then (compareNullsLast a.diskGb b.diskGb)).isLE).take 5000

def addOnce (kept : List ProviderCatalogItem) (item : ProviderCatalogItem) :
    List ProviderCatalogItem :=
  if kept.any (·.id = item.id) then kept else kept ++ [item]

/-- Each item once, where it is first. -/
def byId (items : List ProviderCatalogItem) : List ProviderCatalogItem := items.foldl addOnce []

/-- The items of the pool whose resources belong to the tier. -/
def Shop.publishCandidates (shop : Shop) (tier : StorefrontChinishTier) :
    List ProviderCatalogItem :=
  (byId (shop.slotItems tier ++ shop.fillPool)).filter fun item =>
    0 < item.vcpu.getD 0 && 0 < (item.ramMb.map fun ramMb => (ramMb + 1023) / 1024).getD 0 &&
      tierOfItem item shop.settings.toStorefrontCapacityRules = tier

/-- A card of the tier is added once. -/
def consider (shop : Shop) (tier : StorefrontChinishTier) (now : ℤ) (rows : List OfferRow)
    (item : ProviderCatalogItem) : Except String (List OfferRow) := do
  match ← buildOfferForItem shop tier now item with
  | none => pure rows
  | some offer =>
      if offerMatchesStorefrontTier offer tier shop.settings &&
          !rows.any (·.offer.id = offer.id) then
        pure (rows ++ [⟨offer, item⟩])
      else pure rows

/-- The card of a row is built again. -/
def refresh (shop : Shop) (tier : StorefrontChinishTier) (now : ℤ) (row : OfferRow) :
    Except String (Option OfferRow) := do
  match ← buildOfferForItem shop tier now row.item with
  | none => pure none
  | some rebuilt =>
      pure (if offerMatchesStorefrontTier rebuilt tier shop.settings then some ⟨rebuilt, row.item⟩
        else none)

/-- `STOREFRONT_DISPLAY_LIMIT` -/
def storefrontDisplayLimit : ℕ := 500

def resolveStorefrontTierOffers (shop : Shop) (tier : StorefrontChinishTier) (now : ℤ) :
    Except String (List PublicPlanOffer) := do
  let rawRows ← (shop.slotItems tier ++ shop.publishCandidates tier).foldlM (consider shop tier now) []
  let refreshedRows ← rawRows.mapM (refresh shop tier now)
  let rationalized := shop.filterDominatedPlans (refreshedRows.filterMap id)
  pure ((rationalized.map OfferRow.offer).take storefrontDisplayLimit)

/-- The cards of every tier that can be bought. -/
def listPublicStorefrontTiers (shop : Shop) (now : ℤ) :
    Except String (List (StorefrontChinishTier × List PublicPlanOffer)) :=
  storefrontTiers.mapM fun tier => do
    let offers ← resolveStorefrontTierOffers shop tier now
    pure (tier, offers.filter PublicPlanOffer.purchasable)

end AbrChin.Storefront
