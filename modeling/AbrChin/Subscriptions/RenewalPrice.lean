import AbrChin.Recommendation.QuoteService
import AbrChin.Subscriptions.Renewal

/-!
# The promised price of a renewal

A quote stores the price of its renewal, and `createRenewalQuote` computes one.  The purchase takes
the provider's markup from the profit curve where it applies; the renewal takes the one of the
provider's configuration, and knows neither the curve nor the prices that it holds.  Everything else
is the same on both sides (`resolveConfiguredPlanPricing_month`, `month_of_renewal`), so the two prices agree exactly
where both markups come to the same amount (`renewal_is_promise_iff`).
-/

namespace AbrChin.Subscriptions

open Lib Js Pricing Orders Recommendation

/-! ## The rows of a renewal -/

/-- The rows that a renewal is priced with. -/
def renewalConfig (rows : PricingRows) (plan : InfrastructurePlan) : RenewalConfig where
  plan
  config := ((rows.providers.find? plan.provider).filter ProviderPricingConfig.enabled).map
    ProviderPricingConfig.markupBasisPoints
  productConfig :=
    ((rows.products.find? (plan.provider, plan.providerApiVersion, plan.productKind)).filter
      ProductPricingConfig.enabled).map ProductPricingConfig.markupBasisPoints
  taxBps := rows.commerce.map CommercePricingConfig.taxBps
  parchin := fun level => ((rows.parchin.find? level).filter ParchinPricingConfig.active).map
    ParchinPricingConfig.priceRial

@[simp] theorem renewalConfig_plan {rows : PricingRows} {plan : InfrastructurePlan} :
    (renewalConfig rows plan).plan = plan := rfl

@[simp] theorem renewalConfig_tax {rows : PricingRows} {plan : InfrastructurePlan} :
    (renewalConfig rows plan).taxBps.getD 1000 = rows.pricingConfigs.taxBps := rfl

/-- The markup of a month that the curve asks for. -/
def curveMarkup (cost productMarkup : ℤ) (resolved : ProfitCurveResolution) : ℤ :=
  if resolved.transition then
    resolved.infrastructureSaleRial - cost + bpsUp (cost * productMarkup)
  else bpsUp (cost * (resolved.effectiveMarkupBps + productMarkup))

/-- Where the curve applies, it asks for the markup of the provider's configuration. -/
def RenewsAtPromise (rows : PricingRows) (plan : InfrastructurePlan) : Prop :=
  rows.loadProfitCurveConfiguration.enabled = true → isProfitCurveEligiblePlan plan = true →
    ∀ cost markups resolved, plan.providerCostRial = .ok (some cost) →
      rows.pricingConfigs.markups plan = some markups →
      resolveProfitCurve cost rows.loadProfitCurveConfiguration.bands = .ok resolved →
      curveMarkup cost markups.2 resolved = bpsUp (cost * (markups.1 + markups.2))

section Agreement

variable {rows : PricingRows} {plan : InfrastructurePlan}

/-! ## The rows are the same -/

/-- The markups of a plan are those of the rows that its renewal reads. -/
theorem markups_eq {markups : ℤ × ℤ} {provider : ProviderPricingConfig}
    {product : ProductPricingConfig} (h : rows.pricingConfigs.markups plan = some markups)
    (hprovider : rows.providers.find? plan.provider = some provider)
    (hproduct : rows.products.find? (plan.provider, plan.providerApiVersion, plan.productKind) =
      some product) :
    markups = if plan.offerSource = .manualAdmin then (0, 0)
      else (provider.markupBasisPoints,
        plan.skuMarkupBasisPoints.getD product.markupBasisPoints) := by
  unfold PricingConfigs.markups at h
  by_cases hmanual : plan.offerSource = .manualAdmin
  · rw [if_pos hmanual] at h ⊢
    exact (Option.some.inj h).symm
  · rw [if_neg hmanual] at h ⊢
    obtain ⟨row, hrow, h⟩ := Option.bind_eq_some_iff.1 h
    obtain ⟨productRow, hproductRow, h⟩ := Option.bind_eq_some_iff.1 h
    have hsame : row = provider := by
      have hkey := List.find?_some hrow
      obtain ⟨hkey, -⟩ := Bool.and_eq_true_iff.1 hkey
      obtain ⟨hkey, -⟩ := Bool.and_eq_true_iff.1 hkey
      have hfind := Table.find?_eq_some.2
        ⟨List.mem_of_find?_eq_some hrow, of_decide_eq_true hkey⟩
      exact Option.some.inj (hfind.symm.trans hprovider)
    have hsameProduct : productRow = product := by
      obtain ⟨hfind, -⟩ := Table.find?_of_find?_filter
        (k := (plan.provider, plan.providerApiVersion, plan.productKind)) (fun other hother => by
          obtain ⟨hother, hkind⟩ := Bool.and_eq_true_iff.1 hother
          obtain ⟨hprovider, hversion⟩ := Bool.and_eq_true_iff.1 hother
          rw [ProductPricingConfig.key, of_decide_eq_true hprovider, of_decide_eq_true hversion,
            of_decide_eq_true hkind]) hproductRow
      exact Option.some.inj (hfind.symm.trans hproduct)
    rw [hsame, hsameProduct] at h
    exact (Option.some.inj h).symm

/-! ## A month on either side -/

/-- What a month costs when it is renewed. -/
theorem month_of_renewal {level : ParchinLevel} {now : ℤ} {price : EffectivePlanPricing}
    (h : (renewalConfig rows plan).currentPricing level now = .ok (some price)) :
    ∃ cost provider product parchin, plan.providerCostRial = .ok (some cost) ∧
      rows.providers.find? plan.provider = some provider ∧
      rows.products.find? (plan.provider, plan.providerApiVersion, plan.productKind) =
        some product ∧
      rows.parchin.find? level = some parchin ∧
      ∀ markups, rows.pricingConfigs.markups plan = some markups →
        price.finalPriceRial =
          taxed (cost + bpsUp (cost * (markups.1 + markups.2)) + parchin.priceRial)
            (rows.pricingConfigs.taxBps) := by
  unfold RenewalConfig.currentPricing at h
  split at h
  · rename_i config markupBasisPoints priceRial hconfig hproductConfig hparchin
    obtain ⟨provider, hprovider, rfl⟩ := Option.map_eq_some_iff.1 hconfig
    obtain ⟨product, hproduct, rfl⟩ := Option.map_eq_some_iff.1 hproductConfig
    obtain ⟨parchin, hrow, rfl⟩ := Option.map_eq_some_iff.1 hparchin
    obtain ⟨hprovider, -⟩ := Option.filter_eq_some_iff.1 hprovider
    obtain ⟨hproduct, -⟩ := Option.filter_eq_some_iff.1 hproduct
    obtain ⟨hrow, -⟩ := Option.filter_eq_some_iff.1 hrow
    simp only [renewalConfig_plan, renewalConfig_tax] at h
    obtain ⟨cost, markup, input, hcost, hmarkup, rfl, -, -, hfinal⟩ := resolvePlanPricing_month h rfl
    refine ⟨cost, provider, product, parchin, hcost, hprovider, hproduct, hrow, ?_⟩
    intro markups hmarkups
    rw [hfinal rfl rfl, markups_eq hmarkups hprovider hproduct]
    unfold CommercialPricingInput.pretaxIrr CommercialPricingInput.markupIrr
    simp only [PlanPricingOptions.engineInput, PlanPricingOptions.forPlan, List.sum_nil, add_zero]
    by_cases hmanual : plan.offerSource = .manualAdmin
    · rw [if_pos hmanual] at hmarkup
      obtain rfl := Option.some.inj hmarkup
      rw [if_pos hmanual, if_pos hmanual]
    · rw [if_neg hmanual] at hmarkup
      obtain rfl := Option.some.inj hmarkup
      rw [if_neg hmanual, if_neg hmanual]
  · cases h

/-! ## The promise -/

/-- The purchase and the renewal ask for the same markup exactly where the curve does. -/
theorem markup_eq_iff {cost : ℤ} {markups : ℤ × ℤ} {markup : ResolvedProviderMarkup}
    (hcost : plan.providerCostRial = .ok (some cost)) (hpositive : 0 < cost)
    (hmarkups : rows.pricingConfigs.markups plan = some markups)
    (hmarkup : rows.pricingConfigs.providerMarkup plan markups.1 (some cost) = .ok markup) :
    bpsUp (cost * (markups.1 + markups.2)) = monthlyMarkupAt cost markups.2 markup ↔
      RenewsAtPromise rows plan := by
  unfold PricingConfigs.providerMarkup resolveProviderMarkupForPlan at hmarkup
  simp only [Option.getD_some] at hmarkup
  by_cases hmanual : plan.offerSource = .manualAdmin
  · -- a manual offer is sold at its cost, with and without the curve
    have hzero : markups = (0, 0) := by
      unfold PricingConfigs.markups at hmarkups
      rw [if_pos hmanual] at hmarkups
      exact (Option.some.inj hmarkups).symm
    rw [if_pos (by simpa using hmanual)] at hmarkup
    cases hmarkup
    subst hzero
    refine iff_of_true rfl ?_
    intro _ heligible
    simp [isProfitCurveEligiblePlan, hmanual] at heligible
  · rw [if_neg (by simpa using hmanual)] at hmarkup
    split at hmarkup
    · rename_i curve hcurve
      obtain ⟨hsame, happlies⟩ := Option.filter_eq_some_iff.1 hcurve
      obtain rfl : curve = rows.loadProfitCurveConfiguration := (Option.some.inj hsame).symm
      simp only [Bool.and_eq_true, decide_eq_true_eq] at happlies
      obtain ⟨resolved, hresolved, hmarkup⟩ := bind_eq_ok.1 hmarkup
      cases hmarkup
      have hasks : monthlyMarkupAt cost markups.2
          ⟨resolved.effectiveMarkupBps,
            if resolved.transition then some resolved.infrastructureSaleRial else none,
            some resolved, .profitCurve⟩ = curveMarkup cost markups.2 resolved := by
        unfold monthlyMarkupAt curveMarkup
        cases resolved.transition <;> rfl
      rw [hasks]
      constructor
      · intro heq _ _ otherCost otherMarkups other hotherCost hotherMarkups hother
        obtain rfl := Option.some.inj (Except.ok.inj (hcost.symm.trans hotherCost))
        obtain rfl := Option.some.inj (hmarkups.symm.trans hotherMarkups)
        obtain rfl := Except.ok.inj (hresolved.symm.trans hother)
        exact heq.symm
      · intro hpromise
        exact (hpromise happlies.1.1 happlies.1.2 cost markups resolved hcost hmarkups
          hresolved).symm
    · rename_i hcurve
      cases hmarkup
      refine iff_of_true rfl ?_
      intro henabled heligible
      refine absurd ?_ (Option.filter_eq_none_iff.1 hcurve rows.loadProfitCurveConfiguration rfl)
      simp only [Bool.and_eq_true, decide_eq_true_eq]
      exact ⟨⟨henabled, heligible⟩, hpositive⟩

/-- A renewal quote asks for the current price at the level of its subscription. -/
theorem createRenewalQuote_commits {input : CreateRenewalQuote} {seen : ℕ → ServiceDb}
    {db db' : ServiceDb} {quote : ServiceRenewalQuote} {subscription : ServiceSubscription}
    {level : ParchinLevel} (hseen : (seen 0).subscriptionOf input.instanceId = some subscription)
    (hlevel : subscription.parchinLevel = some level)
    (h : (createRenewalQuote input seen).Commits db quote db') :
    ∃ pricing, input.rows.currentPricing level input.now = .ok (some pricing) ∧
      quote = input.quote subscription pricing := by
  unfold createRenewalQuote at h
  simp only [Tx.commits_bind, Tx.commits_orThrow, Tx.commits_throwIf, Tx.commits_ofExcept,
    Tx.commits_pure] at h
  obtain ⟨found, _, ⟨hfound, -⟩, _, _, -, _, _, -, _, _, -, _, _, -, _, _, -, pricing, _,
    ⟨hpricing, -⟩, current, _, ⟨rfl, -⟩, _, _, -, _, _, -, rfl, -⟩ := h
  obtain rfl := Option.some.inj (hseen.symm.trans hfound)
  rw [hlevel] at hpricing
  exact ⟨current, hpricing, rfl⟩

/-- **The price of a renewal is the promised one exactly where the curve and the configuration of
the provider ask for the same markup.** -/
theorem renewal_is_promise_iff {catalog : Catalog} {id : String}
    {termOptions : PlanTermPricingOptions} {boughtAt : ℤ} {priced : PricedInfrastructurePlan}
    {bought : QuotedPlan} {role : RecommendationOfferRole} {input : CreateRenewalQuote}
    {seen : ℕ → ServiceDb} {db db' : ServiceDb} {subscription : ServiceSubscription}
    {quote : ServiceRenewalQuote}
    (hpriced : getActivePlanById catalog id termOptions boughtAt = .ok (some priced))
    (hbought : bought = quotedPlan role priced termOptions.couponDiscountBps)
    (hrows : input.rows = renewalConfig catalog.rows priced.plan.toInfrastructurePlan)
    (hseen : (seen 0).subscriptionOf input.instanceId = some subscription)
    (hlevel : subscription.parchinLevel = some bought.parchinLevel)
    (hrenewed : (createRenewalQuote input seen).Commits db quote db') :
    quote.finalPriceRialSnapshot = bought.renewalAmountRial ↔
      RenewsAtPromise catalog.rows priced.plan.toInfrastructurePlan := by
  subst hbought
  obtain ⟨renewal, hrenewal, rfl⟩ := createRenewalQuote_commits hseen hlevel hrenewed
  obtain ⟨row, level, -, -, -, -, -, -, hpricing⟩ := getActivePlanById_eq_some.1 hpriced
  obtain rfl : priced.pricing.parchinLevel = level := resolveConfiguredPlanPricing_parchinLevel hpricing
  rw [hrows] at hrenewal
  obtain ⟨cost, markups, markup, parchin, hcost, hmarkups, hmarkup, hparchin, hmonth, hpromise, -⟩ :=
    resolveConfiguredPlanPricing_month hpricing
  obtain ⟨hparchin, -⟩ := Table.find?_of_find?_filter (k := priced.pricing.parchinLevel)
    (fun row hrow => of_decide_eq_true hrow) hparchin
  obtain ⟨renewalCost, _, _, renewalParchin, hrenewalCost, -, -, hrenewalParchin, hfinal⟩ :=
    month_of_renewal hrenewal
  obtain rfl := Option.some.inj (Except.ok.inj (hcost.symm.trans hrenewalCost))
  obtain rfl := Option.some.inj (hparchin.symm.trans hrenewalParchin)
  show renewal.finalPriceRial = priced.pricing.renewalPriceRial ↔ _
  rw [hfinal markups hmarkups, hpromise, taxed_inj hmonth.tax_nonneg, add_left_inj, add_right_inj]
  exact markup_eq_iff hcost hmonth.cost_pos hmarkups hmarkup

end Agreement

/-! ## A renewal in a small catalog -/

/-- A server that has been delivered at the first level. -/
def renewedDb : ServiceDb :=
  { emptyDb with
    instances := ⟨⟨[⟨"server", "infrastructure", "user", .active, none, none⟩], by decide⟩, by decide⟩
    subscriptions := ⟨⟨[{
      id := "subscription"
      cloudInstanceId := "server"
      sourceOrderId := "order"
      userId := "user"
      status := .active
      parchinLevel := some .start
      renewalPriceRial := 0
      currentPeriodStart := 0
      currentPeriodEnd := 2678400000
      nextRenewalAt := 2678400000
      graceEndsAt := 3283200000
      termMonths := 1
      suspendedAt := none
      autoRenew := false
      canceledAt := none }], by decide⟩, by decide⟩ }

def sampleRenewal (profitCurve : Option ProfitCurveConfigInput) : CreateRenewalQuote where
  instanceId := "server"
  userId := "user"
  now := 0
  rows := renewalConfig (sampleRows profitCurve)
    ((sampleCatalog profitCurve).included samplePlan).toInfrastructurePlan
  monthlyPriceIrr := .ok 10000000
  newId := "renewal"

/-- What the purchase has promised for a renewal, and what the renewal asks for. -/
def promisedAndAsked (profitCurve : Option ProfitCurveConfigInput) : Option ℤ × Option ℤ :=
  ((getActivePlanById (sampleCatalog profitCurve) "plan" {} 0).toOption.join.map fun priced =>
      (quotedPlan .recommended priced none).renewalAmountRial,
    ((createRenewalQuote (sampleRenewal profitCurve) fun _ => renewedDb).run renewedDb).1.toOption.map
      ServiceRenewalQuote.finalPriceRialSnapshot)

/-- Under the default curve, the renewal of a server asks for less than half of what the purchase
has promised. -/
theorem renewal_differs_from_promise :
    promisedAndAsked (some ⟨true, 2000, defaultProfitCurveBands⟩) =
      (some 36666300, some 15714600) := by
  decide +kernel

/-- Without a published curve, the renewal asks for what has been promised. -/
theorem renewal_is_promise_sample : ∃ priced quote db',
    getActivePlanById (sampleCatalog none) "plan" {} 0 = .ok (some priced) ∧
    (createRenewalQuote (sampleRenewal none) fun _ => renewedDb).Commits renewedDb quote db' ∧
    quote.finalPriceRialSnapshot = (quotedPlan .recommended priced none).renewalAmountRial := by
  have hpromised : (promisedAndAsked none).1.isSome = true := by decide +kernel
  have hasked : (promisedAndAsked none).2.isSome = true := by decide +kernel
  simp only [promisedAndAsked, Option.isSome_map] at hpromised hasked
  obtain ⟨priced, hjoin⟩ := Option.isSome_iff_exists.1 hpromised
  obtain ⟨quote, hquote⟩ := Option.isSome_iff_exists.1 hasked
  have hpriced := toOption_eq_some.1 (Option.join_eq_some_iff.1 hjoin)
  have hrenewed : (createRenewalQuote (sampleRenewal none) fun _ => renewedDb).Commits renewedDb
      quote ((createRenewalQuote (sampleRenewal none) fun _ => renewedDb).run renewedDb).2 :=
    Prod.ext (toOption_eq_some.1 hquote) rfl
  refine ⟨priced, quote, _, hpriced, hrenewed, ?_⟩
  refine (renewal_is_promise_iff hpriced rfl ?_ rfl ?_ hrenewed).2 ?_
  · obtain ⟨row, _, hrow, -, -, -, hplan, -⟩ := getActivePlanById_eq_some.1 hpriced
    have hsample : (sampleCatalog none).plans.find? "plan" = some samplePlan := rfl
    obtain rfl := Option.some.inj (hrow.symm.trans hsample)
    rw [hplan]
    rfl
  · obtain ⟨default, hdefault, hlevel, -⟩ := parchinLevel_of_getActivePlanById hpriced
    have hstart : (sampleCatalog none).storefrontLevel "plan" = some .start := by decide +kernel
    obtain rfl := Option.some.inj (hdefault.symm.trans hstart)
    exact congrArg some hlevel.symm
  · intro henabled
    cases henabled

end AbrChin.Subscriptions
