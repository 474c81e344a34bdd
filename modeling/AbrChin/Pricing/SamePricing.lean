import AbrChin.Lib.Upsert
import AbrChin.Pricing.ConfiguredPlans

/-!
# Configurations that price alike

The price of a plan reads little of the published rows: the markups that are enabled, the prices of
the protection levels that are sold, the tax and the curve.  The ids of the bands and the markup of
a row that is disabled are not among it.  Two configurations that agree on what is read
(`SamePricing`) give every plan the same price, or the same refusal.
-/

namespace AbrChin.Pricing

open Lib

/-! ## What is read of the rows -/

/-- The API version of a provider, and its markup when it is enabled. -/
def PricingRows.providerMarkup (rows : PricingRows) (provider : InfrastructureProvider) :
    Option (String × Option ℤ) :=
  (rows.providers.find? provider).map fun row =>
    (row.apiVersion, if row.enabled then some row.markupBasisPoints else none)

/-- The markup of a product that is enabled. -/
def PricingRows.productMarkup (rows : PricingRows)
    (key : InfrastructureProvider × String × InfrastructureProductKind) : Option ℤ :=
  ((rows.products.find? key).filter (·.enabled)).map ProductPricingConfig.markupBasisPoints

/-- The price of a protection level that is sold. -/
def PricingRows.parchinPrice (rows : PricingRows) (level : ParchinLevel) : Option ℤ :=
  ((rows.parchin.find? level).filter isParchinConfigSellable).map ParchinPricingConfig.priceRial

/-- A band without its id. -/
def ProfitCurveBandInput.unnamed (band : ProfitCurveBandInput) : ProfitCurveBandInput :=
  { band with id := none }

/-- What prices are made of is the same. -/
structure SamePricing (first later : PricingRows) : Prop where
  provider : ∀ provider, first.providerMarkup provider = later.providerMarkup provider
  product : ∀ key, first.productMarkup key = later.productMarkup key
  parchin : ∀ level, first.parchinPrice level = later.parchinPrice level
  tax : first.commerce.map CommercePricingConfig.taxBps =
    later.commerce.map CommercePricingConfig.taxBps
  enabled : first.loadProfitCurveConfiguration.enabled = later.loadProfitCurveConfiguration.enabled
  discountFloor : first.loadProfitCurveConfiguration.minimumPostDiscountGrossMarginBps =
    later.loadProfitCurveConfiguration.minimumPostDiscountGrossMarginBps
  bands : first.loadProfitCurveConfiguration.bands.map ProfitCurveBandInput.unnamed =
    later.loadProfitCurveConfiguration.bands.map ProfitCurveBandInput.unnamed

/-- Every plan has the same price or the same refusal, with every level, term and coupon. -/
def SamePrices (first later : PricingRows) : Prop :=
  ∀ plan level termOptions now,
    resolveConfiguredPlanPricing plan first.pricingConfigs level termOptions now =
      resolveConfiguredPlanPricing plan later.pricingConfigs level termOptions now

/-! ## The ids of the bands -/

/-- A resolution without the id of its band. -/
def ProfitCurveResolution.unnamed (resolved : ProfitCurveResolution) : ProfitCurveResolution :=
  { resolved with bandId := "" }

theorem sortBands_unnamed (bands : List ProfitCurveBandInput) :
    sortBands (bands.map ProfitCurveBandInput.unnamed) =
      (sortBands bands).map ProfitCurveBandInput.unnamed :=
  (List.map_insertionSort _ _ ProfitCurveBandInput.unnamed bands fun _ _ _ _ => Iff.rfl).symm

theorem transitionsFrom_unnamed (index : ℕ) (bands : List ProfitCurveBandInput) :
    transitionsFrom index (bands.map ProfitCurveBandInput.unnamed) = transitionsFrom index bands := by
  induction bands generalizing index with
  | nil => rfl
  | cons prev rest ih =>
      cases rest with
      | nil => rfl
      | cons next rest =>
          have hrest := ih (index + 1)
          simp only [List.map_cons] at hrest ⊢
          rw [transitionsFrom, transitionsFrom, hrest]
          rfl

theorem deriveProfitCurveTransitions_unnamed (bands : List ProfitCurveBandInput) :
    deriveProfitCurveTransitions (bands.map ProfitCurveBandInput.unnamed) =
      deriveProfitCurveTransitions bands := by
  rw [deriveProfitCurveTransitions, sortBands_unnamed, transitionsFrom_unnamed]
  rfl

theorem findBandIndex_unnamed (bands : List ProfitCurveBandInput) (cost : ℤ) :
    findBandIndex (bands.map ProfitCurveBandInput.unnamed) cost = findBandIndex bands cost := by
  unfold findBandIndex
  rw [sortBands_unnamed]
  simp only [List.length_map, List.getElem?_map, Option.any_map]
  rfl

/-- The ids of the bands do not enter a resolution, apart from the one that it names. -/
theorem resolveProfitCurve_unnamed (cost : ℤ) (bands : List ProfitCurveBandInput) :
    (resolveProfitCurve cost (bands.map ProfitCurveBandInput.unnamed)).map
        ProfitCurveResolution.unnamed =
      (resolveProfitCurve cost bands).map ProfitCurveResolution.unnamed := by
  unfold resolveProfitCurve
  simp only [sortBands_unnamed, deriveProfitCurveTransitions_unnamed, findBandIndex_unnamed,
    List.map_eq_nil_iff, List.getElem?_map]
  cases throwIf (cost < 0) "invalid_provider_cost" with
  | error e => rfl
  | ok _ =>
      cases throwIf (bands = []) "empty_profit_curve" with
      | error e => rfl
      | ok _ =>
          cases deriveProfitCurveTransitions (sortBands bands) with
          | error e => rfl
          | ok transitions =>
              simp only [bind, Except.bind]
              cases (sortBands bands)[findBandIndex (sortBands bands) cost]? with
              | none => rfl
              | some band =>
                  simp only [Option.map_some]
                  cases transitions.find? fun t => t.holds cost with
                  | none =>
                      -- the margin of a band does not depend on its id
                      show Except.map _ (Except.bind (grossMarginBpsToMarkupBps
                        band.targetGrossMarginBps) _) = _
                      cases grossMarginBpsToMarkupBps band.targetGrossMarginBps with
                      | error e => rfl
                      | ok markup =>
                          show Except.map _ (Except.bind (infrastructureSaleFromMargin cost
                            band.targetGrossMarginBps) _) = _
                          cases infrastructureSaleFromMargin cost band.targetGrossMarginBps with
                          | error e => rfl
                          | ok sale => rfl
                  | some active =>
                      dsimp only
                      cases effectiveMarginDuringTransition cost active.boundarySaleRial with
                      | error e => rfl
                      | ok margin =>
                          dsimp only
                          split
                          · rfl
                          · rfl

/-- What a price reads of a markup. -/
def ResolvedProviderMarkup.priced (markup : ResolvedProviderMarkup) : ℤ × Option ℤ :=
  (markup.providerMarkupBps, markup.infrastructureSaleRialOverride)

theorem resolveProviderMarkupForPlan_unnamed {first later : ProfitCurveConfigInput}
    (henabled : first.enabled = later.enabled)
    (hbands : first.bands.map ProfitCurveBandInput.unnamed =
      later.bands.map ProfitCurveBandInput.unnamed) (input : ProviderMarkupInput) :
    (resolveProviderMarkupForPlan { input with profitCurve := some first }).map
        ResolvedProviderMarkup.priced =
      (resolveProviderMarkupForPlan { input with profitCurve := some later }).map
        ResolvedProviderMarkup.priced := by
  have hpriced : ∀ curve : ProfitCurveConfigInput,
      (do
        let resolved ← resolveProfitCurve input.providerMonthlyCostRial curve.bands
        pure {
          providerMarkupBps := resolved.effectiveMarkupBps
          infrastructureSaleRialOverride :=
            if resolved.transition then some resolved.infrastructureSaleRial else none
          curve := some resolved
          source := MarkupSource.profitCurve } : Except String ResolvedProviderMarkup).map
            ResolvedProviderMarkup.priced =
        ((resolveProfitCurve input.providerMonthlyCostRial
          (curve.bands.map ProfitCurveBandInput.unnamed)).map ProfitCurveResolution.unnamed).map
            fun resolved => (resolved.effectiveMarkupBps,
              if resolved.transition then some resolved.infrastructureSaleRial else none) := by
    intro curve
    rw [resolveProfitCurve_unnamed]
    cases resolveProfitCurve input.providerMonthlyCostRial curve.bands with
    | error e => rfl
    | ok resolved => rfl
  unfold resolveProviderMarkupForPlan
  by_cases hmanual : input.manualAdmin = true
  · rw [if_pos hmanual, if_pos hmanual]
  · rw [if_neg hmanual, if_neg hmanual]
    simp only [Option.filter, henabled]
    by_cases happlies : (later.enabled && isProfitCurveEligiblePlan input.plan &&
        decide (0 < input.providerMonthlyCostRial)) = true
    · simp only [if_pos happlies]
      rw [hpriced, hpriced, hbands]
    · simp only [if_neg happlies]

/-! ## What is found in the rows -/

variable {rows first later : PricingRows} {plan : InfrastructurePlan}

theorem find?_providers_pricingConfigs (rows : PricingRows) (provider : InfrastructureProvider)
    (apiVersion : String) :
    (rows.pricingConfigs.providers.find? fun config => config.provider = provider &&
        config.apiVersion = apiVersion && config.enabled).map
          ProviderPricingConfig.markupBasisPoints =
      (rows.providerMarkup provider).bind fun markup =>
        if markup.1 = apiVersion then markup.2 else none := by
  rw [PricingRows.pricingConfigs, Table.find?_rows (k := provider)
    (p := fun config => config.apiVersion = apiVersion && config.enabled),
    PricingRows.providerMarkup]
  · cases rows.providers.find? provider with
    | none => rfl
    | some row => by_cases hversion : row.apiVersion = apiVersion <;>
        cases henabled : row.enabled <;> simp [Option.filter, hversion, henabled]
  · intro row
    simp

theorem find?_products_pricingConfigs (rows : PricingRows) (provider : InfrastructureProvider)
    (apiVersion : String) (productKind : InfrastructureProductKind) :
    (rows.pricingConfigs.products.find? fun config => config.provider = provider &&
        config.apiVersion = apiVersion && config.productKind = productKind).map
          ProductPricingConfig.markupBasisPoints =
      rows.productMarkup (provider, apiVersion, productKind) := by
  rw [PricingRows.pricingConfigs, List.find?_filter, Table.find?_rows
    (k := (provider, apiVersion, productKind)) (p := ProductPricingConfig.enabled)]
  · rfl
  · intro row
    simp [ProductPricingConfig.key, and_comm]

theorem find?_parchin_pricingConfigs (rows : PricingRows) (level : ParchinLevel) :
    (rows.pricingConfigs.parchin.find? fun config => config.level = level).map
        (fun config => (config.level, config.priceRial)) =
      (rows.parchinPrice level).map fun price => (level, price) := by
  rw [PricingRows.pricingConfigs, List.find?_filter, Table.find?_rows
    (k := level) (p := isParchinConfigSellable), PricingRows.parchinPrice]
  · cases hrow : rows.parchin.find? level with
    | none => rfl
    | some row =>
        obtain rfl := Table.key_of_find? hrow
        cases hsold : isParchinConfigSellable row <;> simp [Option.filter, hsold]
  · intro row
    simp [and_comm]

/-- The markups of a plan. -/
theorem SamePricing.markups (h : SamePricing first later) :
    first.pricingConfigs.markups plan = later.pricingConfigs.markups plan := by
  have hproviders := find?_providers_pricingConfigs first plan.provider plan.providerApiVersion
  rw [h.provider, ← find?_providers_pricingConfigs] at hproviders
  have hproducts := find?_products_pricingConfigs first plan.provider plan.providerApiVersion
    plan.productKind
  rw [h.product, ← find?_products_pricingConfigs] at hproducts
  have hmarkups : ∀ configs : PricingConfigs, configs.markups plan =
      if plan.offerSource = .manualAdmin then some (0, 0)
      else ((configs.providers.find? fun config => config.provider = plan.provider &&
          config.apiVersion = plan.providerApiVersion && config.enabled).map
            ProviderPricingConfig.markupBasisPoints).bind fun providerMarkup =>
        ((configs.products.find? fun config => config.provider = plan.provider &&
          config.apiVersion = plan.providerApiVersion && config.productKind = plan.productKind).map
            ProductPricingConfig.markupBasisPoints).map fun productMarkup =>
              (providerMarkup, plan.skuMarkupBasisPoints.getD productMarkup) := by
    intro configs
    unfold PricingConfigs.markups
    split
    · rfl
    · cases configs.providers.find? fun config => config.provider = plan.provider &&
          config.apiVersion = plan.providerApiVersion && config.enabled with
      | none => rfl
      | some provider =>
          cases configs.products.find? fun config => config.provider = plan.provider &&
              config.apiVersion = plan.providerApiVersion &&
                config.productKind = plan.productKind with
          | none => rfl
          | some product => rfl
  rw [hmarkups, hmarkups, hproviders, hproducts]

/-- The markup of the provider for a plan. -/
theorem SamePricing.providerMarkup (h : SamePricing first later) (plan : InfrastructurePlan)
    (markup : ℤ) (cost : Option ℤ) :
    (first.pricingConfigs.providerMarkup plan markup cost).map ResolvedProviderMarkup.priced =
      (later.pricingConfigs.providerMarkup plan markup cost).map ResolvedProviderMarkup.priced :=
  resolveProviderMarkupForPlan_unnamed h.enabled h.bands {
    plan
    providerMonthlyCostRial := cost.getD 0
    providerConfigMarkupBps := markup
    profitCurve := none
    manualAdmin := plan.offerSource = .manualAdmin }

/-- **Configurations that agree on what is read price alike.** -/
theorem SamePricing.samePrices (h : SamePricing first later) : SamePrices first later := by
  intro plan level termOptions now
  unfold resolveConfiguredPlanPricing
  rw [h.markups]
  cases later.pricingConfigs.markups plan with
  | none => rfl
  | some markups =>
      cases plan.minimumLevel with
      | none => rfl
      | some minimum =>
          cases level <|> some minimum with
          | none => rfl
          | some wanted =>
              have hparchin := find?_parchin_pricingConfigs first wanted
              rw [h.parchin, ← find?_parchin_pricingConfigs] at hparchin
              simp only [Option.bind_some]
              cases hfirst : first.pricingConfigs.parchin.find? fun config =>
                  config.level = wanted with
              | none =>
                  rw [hfirst, eq_comm, Option.map_none, Option.map_eq_none_iff] at hparchin
                  rw [hparchin]
              | some parchin =>
                  rw [hfirst, eq_comm, Option.map_some, Option.map_eq_some_iff] at hparchin
                  obtain ⟨other, hlater, hsame⟩ := hparchin
                  obtain ⟨hlevel, hprice⟩ := Prod.mk.inj hsame
                  simp only [hlater, hlevel, hprice]
                  cases plan.providerCostRial with
                  | error e => rfl
                  | ok cost =>
                      have hmarkup := h.providerMarkup plan markups.1 cost
                      have htax : first.pricingConfigs.commerce.map CommercePricingConfig.taxBps =
                        later.pricingConfigs.commerce.map CommercePricingConfig.taxBps := h.tax
                      have hfloor : minimumPostDiscountMarginFromConfigs
                            first.pricingConfigs.commerce (some first.pricingConfigs.profitCurve) =
                          minimumPostDiscountMarginFromConfigs later.pricingConfigs.commerce
                            (some later.pricingConfigs.profitCurve) := h.discountFloor
                      simp only [bind, Except.bind, htax, hfloor]
                      split
                      · rfl
                      · unfold PricingConfigs.providerMarkup at hmarkup
                        generalize resolveProviderMarkupForPlan _ = markup at hmarkup ⊢
                        generalize resolveProviderMarkupForPlan _ = markup' at hmarkup ⊢
                        cases markup with
                        | error e =>
                            cases markup' with
                            | error e' =>
                                cases hmarkup
                                rfl
                            | ok resolved' => cases hmarkup
                        | ok resolved =>
                            cases markup' with
                            | error e' => cases hmarkup
                            | ok resolved' =>
                                obtain ⟨hbps, hsale⟩ := Prod.mk.inj (Except.ok.inj hmarkup)
                                simp only [hbps, hsale]

end AbrChin.Pricing
