import AbrChin.Lib.Table
import AbrChin.Pricing.MonthlyPrice
import AbrChin.Storefront.CapacityRules

/-!
# Plans under the published configuration

`lib/orders/plans.ts`: the rows of the pricing configuration, and the price that they give a plan
for a protection level, a term and a coupon.  Every quote takes its price from here.

Titles, labels and the economics snapshot are left out, and so is the bypass that lets a test sell
a protection level without operational evidence.
-/

namespace AbrChin.Pricing

open Lib Storefront

/-! ## The configuration -/

structure ProviderPricingConfig where
  provider : InfrastructureProvider
  apiVersion : String
  enabled : Bool
  markupBasisPoints : ℤ
  deriving DecidableEq

structure ProductPricingConfig where
  provider : InfrastructureProvider
  apiVersion : String
  productKind : InfrastructureProductKind
  markupBasisPoints : ℤ
  enabled : Bool
  deriving DecidableEq

/-- The unique columns of a product's configuration. -/
def ProductPricingConfig.key (row : ProductPricingConfig) :
    InfrastructureProvider × String × InfrastructureProductKind :=
  (row.provider, row.apiVersion, row.productKind)

structure CommercePricingConfig where
  taxBps : ℤ
  minimumPostDiscountGrossMarginBps : ℤ
  deriving DecidableEq

structure ParchinPricingConfig where
  level : ParchinLevel
  priceRial : ℤ
  active : Bool
  operationalEvidenceApprovedAt : Option ℤ
  deriving DecidableEq

/-- A level is sold once there is operational evidence for it. -/
def isParchinConfigSellable (row : ParchinPricingConfig) : Bool :=
  row.active && row.operationalEvidenceApprovedAt.isSome

/-- The rows that a price is made of. -/
structure PricingRows where
  providers : Table ProviderPricingConfig.provider
  products : Table ProductPricingConfig.key
  commerce : Option CommercePricingConfig
  parchin : Table ParchinPricingConfig.level
  profitCurve : Option ProfitCurveConfigInput

/-- `DEFAULT_MINIMUM_POST_DISCOUNT_GROSS_MARGIN_BPS` -/
def defaultMinimumPostDiscountGrossMarginBps : ℤ := 2000

def defaultProfitCurveBands : List ProfitCurveBandInput := [
  ⟨some "band-0-5m", 0, 0, some 50000000, 7000⟩,
  ⟨some "band-5-10m", 1, 50000000, some 100000000, 6000⟩,
  ⟨some "band-10-15m", 2, 100000000, some 150000000, 5000⟩,
  ⟨some "band-15-25m", 3, 150000000, some 250000000, 4000⟩,
  ⟨some "band-25m-plus", 4, 250000000, none, 3000⟩]

/-- Without a published curve there is one that is not enabled. -/
def PricingRows.loadProfitCurveConfiguration (rows : PricingRows) : ProfitCurveConfigInput :=
  rows.profitCurve.getD ⟨false, defaultMinimumPostDiscountGrossMarginBps, defaultProfitCurveBands⟩

structure PricingConfigs where
  providers : List ProviderPricingConfig
  products : List ProductPricingConfig
  commerce : Option CommercePricingConfig
  parchin : List ParchinPricingConfig
  profitCurve : ProfitCurveConfigInput

def PricingRows.pricingConfigs (rows : PricingRows) : PricingConfigs where
  providers := rows.providers.rows
  products := rows.products.rows.filter (·.enabled)
  commerce := rows.commerce
  parchin := rows.parchin.rows.filter isParchinConfigSellable
  profitCurve := rows.loadProfitCurveConfiguration

/-- The floor under a discount is the curve's, the commerce configuration's, or the default one. -/
def minimumPostDiscountMarginFromConfigs (commerce : Option CommercePricingConfig)
    (profitCurve : Option ProfitCurveConfigInput) : ℤ :=
  match profitCurve, commerce with
  | some curve, _ => curve.minimumPostDiscountGrossMarginBps
  | none, some commerce => commerce.minimumPostDiscountGrossMarginBps
  | none, none => defaultMinimumPostDiscountGrossMarginBps

/-! ## The price of a plan -/

structure PlanTermPricingOptions where
  termMonths : Option ℕ := none
  couponDiscountBps : Option ℤ := none
  parchinLevel : Option ParchinLevel := none

/-- A placeholder of nothing or one rial is no price. -/
def isVerifiedSellablePricing (priced : EffectivePlanPricing) : Bool :=
  1 < priced.finalPriceRial && 1 < priced.renewalPriceRial && 1 < priced.providerBasePriceRial

/-- The markups of the provider and the product that apply to a plan. -/
def PricingConfigs.markups (configs : PricingConfigs) (plan : InfrastructurePlan) :
    Option (ℤ × ℤ) :=
  if plan.offerSource = .manualAdmin then some (0, 0)
  else do
    let provider ← configs.providers.find? fun config => config.provider = plan.provider &&
      config.apiVersion = plan.providerApiVersion && config.enabled
    let product ← configs.products.find? fun config => config.provider = plan.provider &&
      config.apiVersion = plan.providerApiVersion && config.productKind = plan.productKind
    some (provider.markupBasisPoints, plan.skuMarkupBasisPoints.getD product.markupBasisPoints)

/-- What the provider asks for the item of a plan. -/
def InfrastructurePlan.providerCostRial (plan : InfrastructurePlan) : Except String (Option ℤ) :=
  match plan.catalogItem with
  | some item => catalogItemBasePriceRial item
  | none => .ok none

def resolveConfiguredPlanPricing (plan : InfrastructurePlan) (configs : PricingConfigs)
    (requestedParchinLevel : Option ParchinLevel) (termOptions : PlanTermPricingOptions)
    (now : ℤ) : Except String (Option EffectivePlanPricing) :=
  let manualAdmin : Bool := plan.offerSource = .manualAdmin
  let parchin := (requestedParchinLevel <|> plan.minimumLevel).bind fun level =>
    configs.parchin.find? fun config => config.level = level
  match configs.markups plan, plan.minimumLevel, parchin with
  | some (providerMarkup, productMarkup), some _, some parchin => do
      let providerCostRial ← plan.providerCostRial
      if !manualAdmin && providerCostRial.all (· ≤ 0) then pure none
      else do
        let markup ← resolveProviderMarkupForPlan {
          plan
          providerMonthlyCostRial := providerCostRial.getD 0
          providerConfigMarkupBps := providerMarkup
          profitCurve := some configs.profitCurve
          manualAdmin }
        let priced ← resolvePlanPricing plan
          (if manualAdmin then none else some markup.providerMarkupBps) {
            productMarkupBasisPoints := productMarkup
            taxBasisPoints := (configs.commerce.map CommercePricingConfig.taxBps).getD 1000
            parchinLevel := some parchin.level
            parchinPriceRial := parchin.priceRial
            termMonths := some (termOptions.termMonths.getD 1)
            couponDiscountBps := termOptions.couponDiscountBps
            minimumPostDiscountGrossMarginBps :=
              some (minimumPostDiscountMarginFromConfigs configs.commerce configs.profitCurve)
            infrastructureSaleRialOverride := markup.infrastructureSaleRialOverride } now
        pure (priced.filter isVerifiedSellablePricing)
  | _, _, _ => .ok none

/-! ## The catalog -/

/-- A plan with what decides whether it is shown. -/
structure SalePlan extends InfrastructurePlan where
  /-- `publicationStatus` is `PUBLISHED`. -/
  published : Bool
  catalogItemId : Option String
  displayDuringProviderOutage : Bool

/-- Plans and catalog items.  A plan is read together with its item. -/
structure Catalog where
  plans : Table (fun plan : SalePlan => plan.id)
  items : Table ProviderCatalogItem.id
  rows : PricingRows
  /-- The settings of the storefront, when they have been saved. -/
  storefront : Option StorefrontSettings

/-- A plan with its item. -/
def Catalog.included (catalog : Catalog) (plan : SalePlan) : SalePlan :=
  { plan with catalogItem := plan.catalogItemId.bind catalog.items.find? }

/-- A plan that is on sale, with its item and its price. -/
structure PricedInfrastructurePlan where
  plan : SalePlan
  catalogItem : ProviderCatalogItem
  pricing : EffectivePlanPricing

def withEffectivePricing (plan : SalePlan) (pricing : EffectivePlanPricing) :
    Except String PricedInfrastructurePlan :=
  match plan.catalogItem with
  | none => .error "catalog_item_missing"
  | some catalogItem => .ok ⟨plan, catalogItem, pricing⟩

/-- The lowest level that a plan is sold with: the one of its tier, when it is from the catalog. -/
def Catalog.minimumStorefrontParchinLevel (catalog : Catalog) (plan : SalePlan) : ParchinLevel :=
  match plan.catalogItem with
  | some item =>
      if plan.offerSource = .apiCatalog then
        storefrontParchinLevel (tierOfItem item
          ((catalog.storefront.map StorefrontSettings.toStorefrontCapacityRules).getD
            defaultStorefrontCapacityRules))
      else plan.minimumParchinLevel.getD .start
  | none => plan.minimumParchinLevel.getD .start

/-- The plans that can be bought. -/
def SalePlan.onSale (plan : SalePlan) : Bool :=
  plan.active && plan.published && plan.deliveryMode = .managed && plan.parchinIncluded

def getActivePlanById (catalog : Catalog) (id : String) (termOptions : PlanTermPricingOptions)
    (now : ℤ) : Except String (Option PricedInfrastructurePlan) :=
  match (catalog.plans.find? id).filter SalePlan.onSale with
  | none => .ok none
  | some row => do
      let plan := catalog.included row
      let minimum := catalog.minimumStorefrontParchinLevel plan
      let requested := termOptions.parchinLevel.getD minimum
      if parchinRank requested < parchinRank minimum then pure none
      else
        match ← resolveConfiguredPlanPricing plan.toInfrastructurePlan
            catalog.rows.pricingConfigs (some requested) termOptions now with
        | none => pure none
        | some pricing => do
            let priced ← withEffectivePricing plan pricing
            pure (some priced)

/-! ## What a price is made of -/

section Prices

variable {options : PlanPricingOptions} {now : ℤ} {price : EffectivePlanPricing}
  {plan : InfrastructurePlan}

/-- What the engine is asked for an item. -/
def PlanPricingOptions.engineInput (options : PlanPricingOptions) (base markupBasisPoints : ℤ) :
    CommercialPricingInput where
  providerMonthlyPriceIrr := base
  providerMarkupBps := markupBasisPoints
  productMarkupBps := options.productMarkupBasisPoints
  parchinPriceIrr := options.parchinPriceRial
  taxBps := options.taxBasisPoints
  termMonths := some (options.termMonths.getD 1)
  couponDiscountBps := options.couponDiscountBps
  minimumPostDiscountGrossMarginBps := options.minimumPostDiscountGrossMarginBps
  infrastructureSaleRialOverride := options.infrastructureSaleRialOverride

/-- An item that is on sale. -/
def ProviderCatalogItem.onSale (item : ProviderCatalogItem) (now : ℤ) : Bool :=
  item.active && item.available && item.status = .active && item.manualContractValid now

variable {markupBasisPoints : ℤ}

/-- A priced item is on sale, and its price is the engine's. -/
theorem resolveCatalogItemPricing_spec {item : ProviderCatalogItem}
    (h : resolveCatalogItemPricing item markupBasisPoints options now = .ok (some price)) :
    ∃ base quote, catalogItemBasePriceRial item = .ok (some base) ∧ item.onSale now = true ∧
      computeCommercialPriceBreakdown (options.engineInput base markupBasisPoints) = .ok quote ∧
      price.providerBasePriceRial = base ∧ price.parchinLevel = options.parchinLevel.getD .start ∧
      price.finalPriceRial = quote.finalPriceRial ∧
      price.renewalPriceRial = quote.renewalPriceRial := by
  unfold resolveCatalogItemPricing at h
  obtain ⟨base, hbase, h⟩ := bind_eq_ok.1 h
  cases base with
  | none => cases h
  | some base =>
      simp only at h
      split_ifs at h with hsale
      · cases h
      · obtain ⟨quote, hquote, h⟩ := bind_eq_ok.1 h
        cases h
        refine ⟨base, quote, hbase, ?_, hquote, rfl, rfl, rfl, rfl⟩
        simpa [ProviderCatalogItem.onSale, and_assoc] using hsale

/-- An item that is on sale is priced when the engine accepts what it is asked. -/
theorem resolveCatalogItemPricing_isSome {item : ProviderCatalogItem} {base : ℤ}
    (hbase : catalogItemBasePriceRial item = .ok (some base)) (hsale : item.onSale now = true)
    (haccepted : (options.engineInput base markupBasisPoints).Accepted) :
    ∃ price, resolveCatalogItemPricing item markupBasisPoints options now = .ok (some price) := by
  obtain ⟨quote, hquote⟩ := compute_isOk_iff.2 haccepted
  unfold PlanPricingOptions.engineInput at hquote
  unfold ProviderCatalogItem.onSale at hsale
  simp only [Bool.and_eq_true, decide_eq_true_eq] at hsale
  obtain ⟨⟨⟨hactive, havailable⟩, hstatus⟩, hvalid⟩ := hsale
  unfold resolveCatalogItemPricing
  simp only [hbase, hactive, havailable, hstatus, hvalid, hquote, bind, Except.bind, Bool.not_true,
    Bool.or_self, ne_eq, not_true_eq_false, decide_false, Bool.false_eq_true, if_false]
  exact ⟨_, rfl⟩

/-- A plan that is sold at a level. -/
def InfrastructurePlan.sells (plan : InfrastructurePlan) (item : ProviderCatalogItem)
    (minimum level : ParchinLevel) (now : ℤ) : Bool :=
  plan.active && plan.mapped && plan.matches item && plan.offerValid now &&
    plan.deliveryMode = .managed && parchinRank minimum ≤ parchinRank level

/-- The markups that apply to a plan; a manual one is sold at its cost. -/
def PlanPricingOptions.forPlan (options : PlanPricingOptions) (plan : InfrastructurePlan)
    (level : ParchinLevel) : PlanPricingOptions :=
  { options with
    productMarkupBasisPoints :=
      if plan.offerSource = .manualAdmin then 0 else options.productMarkupBasisPoints
    parchinLevel := some level }

variable {level : ParchinLevel}

/-- A plan is priced as its item is. -/
theorem resolvePlanPricing_eq_some {config : Option ℤ}
    (hlevel : options.parchinLevel = some level) :
    resolvePlanPricing plan config options now = .ok (some price) ↔
      ∃ item minimum markup, plan.catalogItem = some item ∧ plan.minimumLevel = some minimum ∧
        (if plan.offerSource = .manualAdmin then some 0 else config) = some markup ∧
        plan.sells item minimum level now = true ∧
        resolveCatalogItemPricing item markup (options.forPlan plan level) now =
          .ok (some price) := by
  unfold resolvePlanPricing PlanPricingOptions.forPlan
  simp only [hlevel, Option.getD_some, Option.any_some]
  constructor
  · intro h
    split at h
    · rename_i item markup minimum hitem hmarkup hminimum
      split_ifs at h with hsells hmanual
      · cases h
      · refine ⟨item, minimum, markup, hitem, hminimum, hmarkup, ?_, by rw [if_pos hmanual]; exact h⟩
        simpa [InfrastructurePlan.sells, and_assoc] using hsells
      · refine ⟨item, minimum, markup, hitem, hminimum, hmarkup, ?_, by rw [if_neg hmanual]; exact h⟩
        simpa [InfrastructurePlan.sells, and_assoc] using hsells
    · cases h
  · rintro ⟨item, minimum, markup, hitem, hminimum, hmarkup, hsells, h⟩
    have hfits : ¬ (!plan.active || !plan.mapped || !plan.matches item || !plan.offerValid now ||
        decide (plan.deliveryMode ≠ .managed) ||
        decide (parchinRank level < parchinRank minimum)) = true := by
      simpa [InfrastructurePlan.sells, and_assoc] using hsells
    simp only [hitem, hmarkup, hminimum, if_neg hfits]
    exact h

/-- **What a month of a plan costs:** the taxed sum of its parts.  It is the price of a renewal, and
of one month that is bought without a coupon. -/
theorem resolvePlanPricing_month {config : Option ℤ}
    (h : resolvePlanPricing plan config options now = .ok (some price))
    (hlevel : options.parchinLevel = some level) :
    ∃ base markup input, plan.providerCostRial = .ok (some base) ∧
      (if plan.offerSource = .manualAdmin then some 0 else config) = some markup ∧
      input = (options.forPlan plan level).engineInput base markup ∧ input.Accepted ∧
      price.renewalPriceRial = taxed input.pretaxIrr options.taxBasisPoints ∧
      (options.termMonths.getD 1 = 1 → options.couponDiscountBps = none →
        price.finalPriceRial = taxed input.pretaxIrr options.taxBasisPoints) := by
  obtain ⟨item, _, markup, hitem, -, hmarkup, -, hpriced⟩ := (resolvePlanPricing_eq_some hlevel).1 h
  obtain ⟨base, quote, hbase, -, hquote, -, -, hfinal, hrenewal⟩ := resolveCatalogItemPricing_spec hpriced
  obtain ⟨haccepted, hspec, hmonth⟩ := compute_spec hquote
  refine ⟨base, markup, _, ?_, hmarkup, rfl, haccepted, hrenewal.trans hspec, ?_⟩
  · rw [InfrastructurePlan.providerCostRial, hitem]
    exact hbase
  · intro hterm hcoupon
    exact hfinal.trans (hmonth hterm hcoupon)

variable {configs : PricingConfigs} {requested : Option ParchinLevel}
  {termOptions : PlanTermPricingOptions}

/-- What a plan is priced with under a configuration. -/
def PricingConfigs.pricingOptions (configs : PricingConfigs) (productMarkup : ℤ)
    (parchin : ParchinPricingConfig) (termOptions : PlanTermPricingOptions)
    (markup : ResolvedProviderMarkup) : PlanPricingOptions where
  productMarkupBasisPoints := productMarkup
  taxBasisPoints := (configs.commerce.map CommercePricingConfig.taxBps).getD 1000
  parchinLevel := some parchin.level
  parchinPriceRial := parchin.priceRial
  termMonths := some (termOptions.termMonths.getD 1)
  couponDiscountBps := termOptions.couponDiscountBps
  minimumPostDiscountGrossMarginBps :=
    some (minimumPostDiscountMarginFromConfigs configs.commerce configs.profitCurve)
  infrastructureSaleRialOverride := markup.infrastructureSaleRialOverride

/-- The markup of a month at a resolved markup of the provider. -/
def monthlyMarkupAt (cost productMarkup : ℤ) (markup : ResolvedProviderMarkup) : ℤ :=
  match markup.infrastructureSaleRialOverride with
  | some sale => sale - cost + bpsUp (cost * productMarkup)
  | none => bpsUp (cost * (markup.providerMarkupBps + productMarkup))

/-- The engine's markup of a month is the one at the resolved markup of the provider. -/
theorem engineInput_markupIrr {markup : ResolvedProviderMarkup} {base : ℤ}
    (h : options.infrastructureSaleRialOverride = markup.infrastructureSaleRialOverride) :
    (options.engineInput base markup.providerMarkupBps).markupIrr =
      monthlyMarkupAt base options.productMarkupBasisPoints markup := by
  unfold CommercialPricingInput.markupIrr monthlyMarkupAt PlanPricingOptions.engineInput
  cases hsale : markup.infrastructureSaleRialOverride with
  | none => simp only [h, hsale]
  | some sale => simp only [h, hsale]

/-- The markup of the provider for a plan: the curve's, where it applies. -/
def PricingConfigs.providerMarkup (configs : PricingConfigs) (plan : InfrastructurePlan)
    (providerMarkup : ℤ) (cost : Option ℤ) : Except String ResolvedProviderMarkup :=
  resolveProviderMarkupForPlan {
    plan
    providerMonthlyCostRial := cost.getD 0
    providerConfigMarkupBps := providerMarkup
    profitCurve := some configs.profitCurve
    manualAdmin := plan.offerSource = .manualAdmin }

/-- **What the price of a plan is made of.** -/
theorem resolveConfiguredPlanPricing_eq_some :
    resolveConfiguredPlanPricing plan configs requested termOptions now = .ok (some price) ↔
      ∃ markups minimum level parchin cost markup, configs.markups plan = some markups ∧
        plan.minimumLevel = some minimum ∧ requested.getD minimum = level ∧
        configs.parchin.find? (fun config => config.level = level) = some parchin ∧
        plan.providerCostRial = .ok cost ∧
        (plan.offerSource ≠ .manualAdmin → ∃ base, cost = some base ∧ 0 < base) ∧
        configs.providerMarkup plan markups.1 cost = .ok markup ∧
        resolvePlanPricing plan
          (if plan.offerSource = .manualAdmin then none else some markup.providerMarkupBps)
          (configs.pricingOptions markups.2 parchin termOptions markup) now = .ok (some price) ∧
        isVerifiedSellablePricing price = true := by
  unfold resolveConfiguredPlanPricing
  cases hmarkups : configs.markups plan with
  | none => simp
  | some markups =>
      cases hminimum : plan.minimumLevel with
      | none => simp
      | some minimum =>
          have hlevel : (requested <|> some minimum) = some (requested.getD minimum) := by
            cases requested <;> rfl
          simp only [hlevel, Option.bind_some]
          cases hparchin : configs.parchin.find? fun config =>
              config.level = requested.getD minimum with
          | none => simp [hparchin]
          | some parchin =>
              constructor
              · intro h
                obtain ⟨cost, hcost, h⟩ := bind_eq_ok.1 h
                by_cases hguard : (!decide (plan.offerSource = .manualAdmin) &&
                    cost.all (· ≤ 0)) = true
                · rw [if_pos hguard] at h
                  cases h
                · rw [if_neg hguard] at h
                  obtain ⟨markup, hmarkup, h⟩ := bind_eq_ok.1 h
                  obtain ⟨priced, hpriced, h⟩ := bind_eq_ok.1 h
                  have hfilter := Except.ok.inj h
                  obtain ⟨hsome, hverified⟩ := Option.filter_eq_some_iff.1 hfilter
                  subst hsome
                  refine ⟨markups, minimum, _, parchin, cost, markup, rfl, rfl, rfl, hparchin, hcost,
                    ?_, hmarkup, ?_, hverified⟩
                  · intro hmanual
                    cases cost with
                    | none => simp [hmanual] at hguard
                    | some base => exact ⟨base, rfl, by simpa [hmanual] using hguard⟩
                  · simp only [decide_eq_true_eq] at hpriced
                    exact hpriced
              · rintro ⟨_, _, _, _, cost, markup, hsome, hsome', rfl, hparchin', hcost, hpositive,
                  hmarkup, hpriced, hverified⟩
                obtain rfl := Option.some.inj hsome
                obtain rfl := Option.some.inj hsome'
                obtain rfl := Option.some.inj (hparchin.symm.trans hparchin')
                have hguard : ¬ (!decide (plan.offerSource = .manualAdmin) &&
                    cost.all (· ≤ 0)) = true := by
                  by_cases hmanual : plan.offerSource = .manualAdmin
                  · simp [hmanual]
                  · obtain ⟨base, rfl, hbase⟩ := hpositive hmanual
                    simpa [hmanual] using hbase
                refine bind_eq_ok.2 ⟨cost, hcost, ?_⟩
                rw [if_neg hguard]
                refine bind_eq_ok.2 ⟨markup, hmarkup, bind_eq_ok.2 ⟨some price, ?_, ?_⟩⟩
                · simp only [decide_eq_true_eq]
                  exact hpriced
                · simp [pure, Except.pure, hverified]

/-- The tax of the commerce configuration. -/
def PricingConfigs.taxBps (configs : PricingConfigs) : ℤ :=
  (configs.commerce.map CommercePricingConfig.taxBps).getD 1000

/-- The engine's bounds on what a month is made of. -/
structure MonthAccepted (cost productMarkup taxBps : ℤ) (markup : ResolvedProviderMarkup) :
    Prop where
  cost_pos : 0 < cost
  markup_nonneg : 0 ≤ productMarkup
  markup_le : markup.providerMarkupBps + productMarkup ≤ 100000
  tax_nonneg : 0 ≤ taxBps

/-- **What a month costs when it is bought.** -/
theorem resolveConfiguredPlanPricing_month
    (h : resolveConfiguredPlanPricing plan configs (some level) termOptions now = .ok (some price)) :
    ∃ cost markups markup parchin, plan.providerCostRial = .ok (some cost) ∧
      configs.markups plan = some markups ∧
      configs.providerMarkup plan markups.1 (some cost) = .ok markup ∧
      configs.parchin.find? (fun config => config.level = level) = some parchin ∧
      MonthAccepted cost markups.2 configs.taxBps markup ∧
      price.renewalPriceRial =
        taxed (cost + monthlyMarkupAt cost markups.2 markup + parchin.priceRial) configs.taxBps ∧
      (termOptions.termMonths.getD 1 = 1 → termOptions.couponDiscountBps = none →
        price.finalPriceRial =
          taxed (cost + monthlyMarkupAt cost markups.2 markup + parchin.priceRial) configs.taxBps) := by
  obtain ⟨markups, minimum, _, parchin, found, markup, hmarkups, -, rfl, hparchin, hfound, -, hmarkup,
    hpriced, -⟩ := resolveConfiguredPlanPricing_eq_some.1 h
  obtain ⟨cost, applied, input, hcost, happlied, hinput, haccepted, hrenewal, hfinal⟩ :=
    resolvePlanPricing_month hpriced rfl
  obtain rfl := Except.ok.inj (hcost.symm.trans hfound)
  -- a manual offer has neither markup
  have hsame : applied = markup.providerMarkupBps ∧
      (if plan.offerSource = .manualAdmin then 0 else markups.2) = markups.2 := by
    by_cases hmanual : plan.offerSource = .manualAdmin
    · rw [if_pos hmanual] at happlied ⊢
      unfold PricingConfigs.markups at hmarkups
      rw [if_pos hmanual] at hmarkups
      unfold PricingConfigs.providerMarkup resolveProviderMarkupForPlan at hmarkup
      simp only [hmanual, decide_true, if_true, pure, Except.pure, Except.ok.injEq] at hmarkup
      obtain rfl := Option.some.inj happlied
      obtain rfl := Option.some.inj hmarkups
      subst hmarkup
      exact ⟨rfl, rfl⟩
    · rw [if_neg hmanual, if_neg hmanual] at happlied
      rw [if_neg hmanual]
      exact ⟨(Option.some.inj happlied).symm, rfl⟩
  obtain ⟨rfl, hproduct⟩ := hsame
  have hproductBps : input.productMarkupBps = markups.2 := by
    rw [hinput]
    exact hproduct
  have hpretax : input.pretaxIrr = cost + monthlyMarkupAt cost markups.2 markup + parchin.priceRial := by
    rw [hinput]
    unfold CommercialPricingInput.pretaxIrr
    rw [engineInput_markupIrr rfl]
    simp only [PlanPricingOptions.engineInput, PlanPricingOptions.forPlan,
      PricingConfigs.pricingOptions, hproduct, List.sum_nil, add_zero]
  have hproductMarkup := haccepted.productMarkup
  have hmarkupBps := haccepted.markup
  have hcostPositive := haccepted.provider
  have htax := haccepted.tax.1
  rw [hproductBps] at hproductMarkup hmarkupBps
  rw [hpretax] at hrenewal hfinal
  subst hinput
  exact ⟨cost, markups, markup, parchin, hcost, hmarkups, hmarkup, hparchin,
    ⟨hcostPositive, hproductMarkup, hmarkupBps, htax⟩, hrenewal, hfinal⟩

/-- A plan is priced at the level that is asked for. -/
theorem resolveConfiguredPlanPricing_parchinLevel
    (h : resolveConfiguredPlanPricing plan configs (some level) termOptions now = .ok (some price)) :
    price.parchinLevel = level := by
  obtain ⟨markups, minimum, _, parchin, cost, markup, -, -, rfl, hparchin, -, -, -, hpriced, -⟩ :=
    resolveConfiguredPlanPricing_eq_some.1 h
  have hlevel : parchin.level = level := by
    have hfound := List.find?_some hparchin
    exact of_decide_eq_true hfound
  obtain ⟨item, _, _, -, -, -, -, hprice⟩ := (resolvePlanPricing_eq_some rfl).1 hpriced
  obtain ⟨_, _, -, -, -, -, hpriceLevel, -⟩ := resolveCatalogItemPricing_spec hprice
  rw [hpriceLevel]
  exact hlevel

end Prices

/-! ## What an active plan is -/

section ActivePlans

variable {catalog : Catalog} {id : String} {termOptions : PlanTermPricingOptions} {now : ℤ}
  {priced : PricedInfrastructurePlan}

/-- The level that a plan is priced with when no level is asked for. -/
def Catalog.storefrontLevel (catalog : Catalog) (planId : String) : Option ParchinLevel :=
  (catalog.plans.find? planId).map fun row =>
    catalog.minimumStorefrontParchinLevel (catalog.included row)

/-- **What a plan that can be bought is sold for.** -/
theorem getActivePlanById_eq_some :
    getActivePlanById catalog id termOptions now = .ok (some priced) ↔
      ∃ row level, catalog.plans.find? id = some row ∧ row.onSale = true ∧
        termOptions.parchinLevel.getD
          (catalog.minimumStorefrontParchinLevel (catalog.included row)) = level ∧
        parchinRank (catalog.minimumStorefrontParchinLevel (catalog.included row)) ≤
          parchinRank level ∧
        priced.plan = catalog.included row ∧
        row.catalogItemId.bind catalog.items.find? = some priced.catalogItem ∧
        resolveConfiguredPlanPricing priced.plan.toInfrastructurePlan catalog.rows.pricingConfigs
          (some level) termOptions now = .ok (some priced.pricing) := by
  unfold getActivePlanById
  constructor
  · intro h
    cases hrow : (catalog.plans.find? id).filter SalePlan.onSale with
    | none => simp [hrow] at h
    | some row =>
        obtain ⟨hfind, hsale⟩ := Option.filter_eq_some_iff.1 hrow
        simp only [hrow] at h
        by_cases hrank : parchinRank (termOptions.parchinLevel.getD
            (catalog.minimumStorefrontParchinLevel (catalog.included row))) <
              parchinRank (catalog.minimumStorefrontParchinLevel (catalog.included row))
        · rw [if_pos hrank] at h
          cases h
        · rw [if_neg hrank] at h
          obtain ⟨pricing, hpricing, h⟩ := bind_eq_ok.1 h
          cases pricing with
          | none => cases h
          | some pricing =>
              obtain ⟨found, hfound, h⟩ := bind_eq_ok.1 h
              cases h
              unfold withEffectivePricing at hfound
              split at hfound
              · cases hfound
              · rename_i hitem
                cases hfound
                exact ⟨row, _, hfind, hsale, rfl, not_lt.1 hrank, rfl, hitem, hpricing⟩
  · rintro ⟨row, _, hfind, hsale, rfl, hrank, hplan, hitem, hpricing⟩
    cases priced with
    | mk plan catalogItem pricing =>
        obtain rfl : plan = catalog.included row := hplan
        have hincluded : (catalog.included row).catalogItem = some catalogItem := hitem
        rw [Option.filter_eq_some_iff.2 ⟨hfind, hsale⟩]
        simp only [if_neg (not_lt.2 hrank), hpricing, withEffectivePricing, hincluded, bind,
          Except.bind, pure, Except.pure]

/-- A plan that can be bought is found again by its id. -/
theorem id_of_getActivePlanById
    (h : getActivePlanById catalog id termOptions now = .ok (some priced)) : priced.plan.id = id := by
  obtain ⟨row, _, hfind, -, -, -, hplan, -⟩ := getActivePlanById_eq_some.1 h
  have hid := Table.key_of_find? hfind
  rw [hplan]
  exact hid

/-- A plan is sold at the level that is asked for, or at the one of its storefront tier. -/
theorem parchinLevel_of_getActivePlanById
    (h : getActivePlanById catalog id termOptions now = .ok (some priced)) :
    ∃ default, catalog.storefrontLevel id = some default ∧
      priced.pricing.parchinLevel = termOptions.parchinLevel.getD default ∧
      parchinRank default ≤ parchinRank priced.pricing.parchinLevel := by
  obtain ⟨row, level, hfind, -, hlevel, hrank, hplan, -, hpricing⟩ := getActivePlanById_eq_some.1 h
  have hpriced := resolveConfiguredPlanPricing_parchinLevel hpricing
  refine ⟨catalog.minimumStorefrontParchinLevel (catalog.included row), ?_, ?_, ?_⟩
  · rw [Catalog.storefrontLevel, hfind]
    rfl
  · rw [hpriced, hlevel]
  · rw [hpriced]
    exact hrank

/-- To ask for the level of the tier is to ask for none. -/
theorem getActivePlanById_of_storefrontLevel {level : ParchinLevel}
    (h : getActivePlanById catalog id termOptions now = .ok (some priced))
    (hnone : termOptions.parchinLevel = none) (hlevel : catalog.storefrontLevel id = some level) :
    getActivePlanById catalog id { termOptions with parchinLevel := some level } now =
      .ok (some priced) := by
  obtain ⟨row, _, hfind, hsale, rfl, hrank, hplan, hitem, hpricing⟩ := getActivePlanById_eq_some.1 h
  rw [Catalog.storefrontLevel, hfind] at hlevel
  obtain rfl := Option.some.inj hlevel
  rw [hnone, Option.getD_none] at hpricing
  exact getActivePlanById_eq_some.2 ⟨row, _, hfind, hsale, rfl, le_rfl, hplan, hitem, hpricing⟩

end ActivePlans

/-! ## A small catalog -/

/-- A server with one core and two gigabytes. -/
def sampleItem : ProviderCatalogItem where
  id := "item"
  provider := .arvan
  apiVersion := "v1"
  productKind := .cloudServer
  source := .apiCatalog
  regionCode := "ir-thr"
  sizeCode := "g1"
  externalPlanId := none
  compatibleImageCodes := ["linux"]
  vcpu := some 1
  ramMb := some 2048
  diskGb := some 25
  available := true
  active := true
  status := .active
  providerMonthlyPriceIrr := some 10000000
  priceMonthlyAmount := none
  priceScale := 0
  rialMultiplier := none
  manualLastVerifiedAt := none
  manualPriceValidUntil := none

def samplePlan : SalePlan where
  id := "plan"
  active := true
  mapped := true
  catalogItem := none
  offerSource := .apiCatalog
  provider := .arvan
  providerApiVersion := "v1"
  productKind := .cloudServer
  regionCode := "ir-thr"
  sizeCode := "g1"
  imageCode := "linux"
  offerLastVerifiedAt := none
  offerPriceValidUntil := none
  minimumParchinLevel := some .start
  parchinIncluded := true
  deliveryMode := .managed
  skuMarkupBasisPoints := none
  published := true
  catalogItemId := some "item"
  displayDuringProviderOutage := false

/-- Prices as they are seeded, with every protection level on sale. -/
def sampleRows (profitCurve : Option ProfitCurveConfigInput) : PricingRows where
  providers := ⟨[⟨.arvan, "v1", true, 4286⟩], by decide⟩
  products := ⟨[⟨.arvan, "v1", .cloudServer, 0, true⟩], by decide⟩
  commerce := some ⟨1000, 2000⟩
  parchin := ⟨[⟨.start, 0, true, some 0⟩, ⟨.active, 2000000, true, some 0⟩,
    ⟨.stable, 5000000, true, some 0⟩], by decide⟩
  profitCurve

/-- One plan, whose item is in the lowest tier. -/
def sampleCatalog (profitCurve : Option ProfitCurveConfigInput) : Catalog where
  plans := ⟨[samplePlan], by decide⟩
  items := ⟨[sampleItem], by decide⟩
  rows := sampleRows profitCurve
  storefront := none

end AbrChin.Pricing
