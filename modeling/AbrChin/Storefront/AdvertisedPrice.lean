import AbrChin.Storefront.Assortment

/-!
# The price of a card

The price of a card and the price of its plan come from two functions.  A card that can be bought
is traced back to the item and the plan that it was built from (`card_of_listed`); both prices are
then taxed sums over the same cost, and the plan is sold at the price of its card exactly when it is
`SoldAsShown` (`card_honoured_iff`).

The two sides differ in what they ask for: the card takes the markup of the kind of its item and a
level without a row at no price, the plan has to match its item, to be managed and to allow the
level of the tier.
-/

namespace AbrChin.Storefront

open Lib Pricing Infrastructure

variable {shop : Shop} {tier : StorefrontChinishTier} {now : ℤ} {item : ProviderCatalogItem}
  {offer : PublicPlanOffer}

/-! ## Where a card comes from -/

theorem mem_of_mem_foldl_addOnce {items kept : List ProviderCatalogItem}
    (h : item ∈ items.foldl addOnce kept) : item ∈ kept ∨ item ∈ items := by
  induction items generalizing kept with
  | nil => exact .inl h
  | cons next items ih =>
      rcases ih h with hkept | hmem
      · unfold addOnce at hkept
        split_ifs at hkept
        · exact .inl hkept
        · rcases List.mem_append.1 hkept with hold | hnew
          · exact .inl hold
          · rw [List.mem_singleton.1 hnew]
            exact .inr List.mem_cons_self
      · exact .inr (List.mem_cons_of_mem next hmem)

theorem mem_byId {items : List ProviderCatalogItem} (h : item ∈ byId items) : item ∈ items := by
  rcases mem_of_mem_foldl_addOnce h with hnone | hmem
  · cases hnone
  · exact hmem

theorem mem_items_of_mem_slotItems (h : item ∈ shop.slotItems tier) : item ∈ shop.items := by
  obtain ⟨slot, -, hfind⟩ := List.mem_filterMap.1 h
  exact Table.mem_of_find? hfind

theorem mem_items_of_mem_fillPool (h : item ∈ shop.fillPool) : item ∈ shop.items := by
  have hpool := (List.mem_insertionSort _).1 (List.mem_of_mem_take h)
  exact (List.mem_filter.1 hpool).1

theorem mem_items_of_mem_publishCandidates (h : item ∈ shop.publishCandidates tier) :
    item ∈ shop.items := by
  rcases List.mem_append.1 (mem_byId (List.mem_filter.1 h).1) with hslot | hpool
  · exact mem_items_of_mem_slotItems hslot
  · exact mem_items_of_mem_fillPool hpool

/-- A survivor was a candidate. -/
theorem mem_of_mem_survivors {rows survivors : List OfferRow} {row : OfferRow}
    (h : row ∈ rows.foldl survive survivors) : row ∈ survivors ∨ row ∈ rows := by
  induction rows generalizing survivors with
  | nil => exact .inl h
  | cons candidate rows ih =>
      rcases ih h with hsurvivor | hmem
      · unfold survive at hsurvivor
        split_ifs at hsurvivor
        · exact .inl hsurvivor
        · rcases List.mem_append.1 hsurvivor with hold | hnew
          · exact .inl (List.mem_filter.1 hold).1
          · rw [List.mem_singleton.1 hnew]
            exact .inr List.mem_cons_self
      · exact .inr (List.mem_cons_of_mem candidate hmem)

/-- A card that is kept was a candidate. -/
theorem mem_of_mem_filterDominatedPlans {rows : List OfferRow} {row : OfferRow}
    (h : row ∈ shop.filterDominatedPlans rows) : row ∈ rows := by
  have hkept := (List.mem_insertionSort _).1 h
  obtain ⟨key, -, hbucket⟩ := List.mem_flatMap.1 hkept
  rcases mem_of_mem_survivors hbucket with hnone | hbucket
  · cases hnone
  · have hsorted := (List.mem_insertionSort _).1 hbucket
    exact (List.mem_filter.1 (List.mem_filter.1 hsorted).1).1

/-- A card that is shown has been built for an item of the catalog, and belongs to its tier. -/
theorem built_of_resolved {offers : List PublicPlanOffer}
    (h : resolveStorefrontTierOffers shop tier now = .ok offers) (hoffer : offer ∈ offers) :
    ∃ item ∈ shop.items, buildOfferForItem shop tier now item = .ok (some offer) ∧
      offerMatchesStorefrontTier offer tier shop.settings = true := by
  unfold resolveStorefrontTierOffers at h
  obtain ⟨rawRows, hraw, h⟩ := bind_eq_ok.1 h
  obtain ⟨refreshed, hrefreshed, h⟩ := bind_eq_ok.1 h
  cases h
  have hitems : ∀ row ∈ rawRows, row.item ∈ shop.items := by
    refine foldlM_keeps (P := fun rows => ∀ row ∈ rows, row.item ∈ shop.items) ?_
      (fun _ hrow => absurd hrow List.not_mem_nil) hraw
    intro rows item rows' hitem hrows hconsider
    have hmem : item ∈ shop.items := by
      rcases List.mem_append.1 hitem with hslot | hcandidate
      · exact mem_items_of_mem_slotItems hslot
      · exact mem_items_of_mem_publishCandidates hcandidate
    unfold consider at hconsider
    obtain ⟨built, -, hconsider⟩ := bind_eq_ok.1 hconsider
    cases built with
    | none =>
        cases hconsider
        exact hrows
    | some built =>
        simp only at hconsider
        split_ifs at hconsider
        · cases hconsider
          intro row hrow
          rcases List.mem_append.1 hrow with hold | hnew
          · exact hrows row hold
          · rw [List.mem_singleton.1 hnew]
            exact hmem
        · cases hconsider
          exact hrows
  obtain ⟨row, hrow, rfl⟩ := List.mem_map.1 (List.mem_of_mem_take hoffer)
  obtain ⟨rebuilt, hrebuilt, hsome⟩ := List.mem_filterMap.1 (mem_of_mem_filterDominatedPlans hrow)
  obtain rfl : rebuilt = some row := hsome
  obtain ⟨raw, hmem, hrefresh⟩ := exists_of_mem_mapM hrefreshed hrebuilt
  unfold refresh at hrefresh
  obtain ⟨built, hbuilt, hrefresh⟩ := bind_eq_ok.1 hrefresh
  cases built with
  | none => cases hrefresh
  | some built =>
      have hif : (if offerMatchesStorefrontTier built tier shop.settings = true then
          some (⟨built, raw.item⟩ : OfferRow) else none) = some row := Except.ok.inj hrefresh
      split_ifs at hif with hmatches
      cases hif
      exact ⟨raw.item, hitems raw hmem, hbuilt, hmatches⟩

/-- The price of a card that can be bought is the engine's. -/
theorem toPublicOffer_purchasable {catalogFresh purchasable : Bool}
    {priced : Option EffectivePlanPricing} {purchaseState : PurchaseState} {planId : Option String}
    (h : toPublicOffer item catalogFresh priced purchaseState purchasable planId = .ok offer)
    (hpurchasable : offer.purchasable = true) :
    ∃ price, priced = some price ∧ isVerifiedSellablePricing price = true ∧
      purchasable = true ∧ offer.id = planId.getD item.id ∧
      offer.salePriceRial = price.finalPriceRial ∧ offer.parchinLevel = price.parchinLevel ∧
      offer.vcpu = item.vcpu ∧ offer.ramGb = item.ramMb.map fun ramMb => (ramMb + 1023) / 1024 := by
  unfold toPublicOffer at h
  obtain ⟨monthly, hmonthly, h⟩ := bind_eq_ok.1 h
  cases h
  simp only [Bool.and_eq_true] at hpurchasable
  obtain ⟨⟨hsale, hverified⟩, -⟩ := hpurchasable
  obtain ⟨price, hprice⟩ := Option.isSome_iff_exists.1 hverified
  obtain ⟨hpriced, hverified⟩ := Option.filter_eq_some_iff.1 hprice
  rw [hprice] at hmonthly
  cases hmonthly
  refine ⟨price, hpriced, hverified, hsale, rfl, rfl, ?_, rfl, rfl⟩
  rw [hpriced]
  rfl

/-- A card that can be bought has the id of the plan that publishes its item. -/
theorem card_of_built (h : buildOfferForItem shop tier now item = .ok (some offer))
    (hpurchasable : offer.purchasable = true) :
    ∃ plan price, shop.publishedPlan item.id = some plan ∧
      cardPricing shop.rows.pricingConfigs item tier (some plan) now = .ok (some price) ∧
      isVerifiedSellablePricing price = true ∧ offer.id = plan.id ∧
      offer.salePriceRial = price.finalPriceRial ∧ offer.parchinLevel = price.parchinLevel ∧
      offer.vcpu = item.vcpu ∧ offer.ramGb = item.ramMb.map fun ramMb => (ramMb + 1023) / 1024 := by
  unfold buildOfferForItem at h
  obtain ⟨displayable, -, h⟩ := bind_eq_ok.1 h
  by_cases hhidden : (!displayable) = true
  · rw [if_pos hhidden] at h
    cases h
  · rw [if_neg hhidden] at h
    obtain ⟨priced, hpriced, h⟩ := bind_eq_ok.1 h
    cases hplan : shop.publishedPlan item.id with
    | none =>
        rw [hplan] at h
        by_cases hvisible : (!(resolveCatalogOfferAccess
            (isStorefrontDisplayFresh shop.lastCatalogSync now) true false
            (shop.saleRegions.contains item.regionCode)).visible) = true
        · simp only [if_pos hvisible] at h
          cases h
        · simp only [if_neg hvisible] at h
          obtain ⟨built, hbuilt, h⟩ := bind_eq_ok.1 h
          cases h
          obtain ⟨_, -, -, hsale, -⟩ := toPublicOffer_purchasable hbuilt hpurchasable
          cases hsale
    | some plan =>
        rw [hplan] at h hpriced
        by_cases hvisible : (!(resolveCatalogOfferAccess
            (isStorefrontDisplayFresh shop.lastCatalogSync now) plan.displayDuringProviderOutage
            (isPublicSaleEnabled shop.env plan.productKind plan.offerSource)
            (shop.saleRegions.contains item.regionCode)).visible) = true
        · simp only [if_pos hvisible] at h
          cases h
        · simp only [if_neg hvisible] at h
          obtain ⟨built, hbuilt, h⟩ := bind_eq_ok.1 h
          cases h
          obtain ⟨price, rfl, hverified, -, hid, hrest⟩ :=
            toPublicOffer_purchasable hbuilt hpurchasable
          exact ⟨plan, price, rfl, hpriced, hverified, hid, hrest⟩

/-- The plan that publishes an item is a listed one for it. -/
theorem publishedPlan_spec {itemId : String} {plan : SalePlan}
    (h : shop.publishedPlan itemId = some plan) :
    shop.plans.find? plan.id = some plan ∧ SalePlan.listed plan = true ∧
      plan.catalogItemId = some itemId := by
  have hmem := List.mem_reverse.1 (List.mem_of_find?_eq_some h)
  have hlisted := List.find?_some h
  simp only [Bool.and_eq_true, decide_eq_true_eq] at hlisted
  exact ⟨Table.find?_eq_some.2 ⟨hmem, rfl⟩, hlisted⟩

/-- A card of a tier is for an item of the tier. -/
theorem tierOfItem_of_matches
    (h : offerMatchesStorefrontTier offer tier shop.settings = true)
    (hvcpu : offer.vcpu = item.vcpu)
    (hram : offer.ramGb = item.ramMb.map fun ramMb => (ramMb + 1023) / 1024) :
    tierOfItem item shop.settings.toStorefrontCapacityRules = tier := by
  unfold offerMatchesStorefrontTier at h
  simp only [Bool.and_eq_true, decide_eq_true_eq, hvcpu, hram] at h
  exact h.1.2

/-! ## The price of a card -/

theorem isProfitCurveEligiblePlan_of_apiCatalog {plan : InfrastructurePlan}
    (h : plan.offerSource = .apiCatalog) : isProfitCurveEligiblePlan plan = true := by
  unfold isProfitCurveEligiblePlan
  rw [h]
  cases plan.productKind <;> rfl

/-- The curve applies to a card where it applies to its plan. -/
theorem providerMarkup_cardPlan {configs : PricingConfigs} {plan : InfrastructurePlan}
    {providerMarkup : ℤ} {cost : Option ℤ} (h : plan.offerSource = .apiCatalog) :
    configs.providerMarkup (cardPlan item .apiCatalog) providerMarkup cost =
      configs.providerMarkup plan providerMarkup cost := by
  have hcard : (cardPlan item .apiCatalog).offerSource = .apiCatalog := rfl
  unfold PricingConfigs.providerMarkup resolveProviderMarkupForPlan
  simp only [hcard, h, isProfitCurveEligiblePlan_of_apiCatalog]

/-- What the card of an item asks the engine for. -/
def cardOptions (configs : PricingConfigs) (tier : StorefrontChinishTier) (shown : ℤ)
    (markup : ResolvedProviderMarkup) : PlanPricingOptions where
  productMarkupBasisPoints := shown
  taxBasisPoints := (configs.commerce.map CommercePricingConfig.taxBps).getD 1000
  parchinLevel := some (storefrontParchinLevel tier)
  parchinPriceRial := ((configs.parchin.find? fun config =>
    config.level = storefrontParchinLevel tier).map ParchinPricingConfig.priceRial).getD 0
  termMonths := some 1
  minimumPostDiscountGrossMarginBps :=
    some (minimumPostDiscountMarginFromConfigs configs.commerce configs.profitCurve)
  infrastructureSaleRialOverride := markup.infrastructureSaleRialOverride

/-- **What a card costs.** -/
theorem cardPricing_spec {configs : PricingConfigs} {plan : SalePlan} {price : EffectivePlanPricing}
    (hsource : plan.offerSource = .apiCatalog)
    (h : cardPricing configs item tier (some plan) now = .ok (some price)) :
    ∃ base markups markup, catalogItemBasePriceRial item = .ok (some base) ∧
      PricingConfigs.ofItem configs item = some markups ∧
      configs.providerMarkup plan.toInfrastructurePlan markups.1 (some base) = .ok markup ∧
      ProviderCatalogItem.onSale item now = true ∧
      ((cardOptions configs tier (plan.skuMarkupBasisPoints.getD markups.2) markup).engineInput base
        markup.providerMarkupBps).Accepted ∧
      price.parchinLevel = storefrontParchinLevel tier ∧ price.providerBasePriceRial = base ∧
      price.finalPriceRial = price.renewalPriceRial ∧
      price.finalPriceRial = taxed (base +
        monthlyMarkupAt base (plan.skuMarkupBasisPoints.getD markups.2) markup +
        (cardOptions configs tier 0 markup).parchinPriceRial)
          ((configs.commerce.map CommercePricingConfig.taxBps).getD 1000) := by
  unfold cardPricing at h
  obtain ⟨cost, hcost, h⟩ := bind_eq_ok.1 h
  cases hmarkups : PricingConfigs.ofItem configs item with
  | none =>
      rw [hmarkups] at h
      cases h
  | some markups =>
      rw [hmarkups] at h
      obtain ⟨markup, hmarkup, h⟩ := bind_eq_ok.1 h
      have hpriced : resolveCatalogItemPricing item markup.providerMarkupBps
          (cardOptions configs tier (plan.skuMarkupBasisPoints.getD markups.2) markup) now =
          .ok (some price) := h
      obtain ⟨base, quote, hbase, hsale, hquote, hprovider, hlevel, hfinal, hrenewal⟩ :=
        resolveCatalogItemPricing_spec hpriced
      obtain rfl := Except.ok.inj (hcost.symm.trans hbase)
      obtain ⟨haccepted, hspec, hmonth⟩ := compute_spec hquote
      refine ⟨base, markups, markup, hbase, rfl, ?_, hsale, haccepted, hlevel, hprovider, ?_, ?_⟩
      · simp only [Option.map_some, hsource, Option.getD_some] at hmarkup
        exact (providerMarkup_cardPlan hsource).symm.trans hmarkup
      · rw [hfinal, hrenewal, hspec, hmonth rfl rfl]
      · rw [hfinal, hmonth rfl rfl]
        unfold CommercialPricingInput.pretaxIrr
        rw [engineInput_markupIrr rfl]
        simp only [PlanPricingOptions.engineInput, cardOptions, List.sum_nil, add_zero]

/-! ## The price of its plan -/

/-- A product markup that the engine accepts, and that comes to the amount of the one shown. -/
structure SameMonth (base : ℤ) (markup : ResolvedProviderMarkup) (shown charged : ℤ) : Prop where
  nonneg : 0 ≤ charged
  accepted : markup.providerMarkupBps + charged ≤ 100000
  amount : monthlyMarkupAt base charged markup = monthlyMarkupAt base shown markup

/-- A plan that is sold at the level and the price of the card of its item. -/
structure SoldAsShown (configs : PricingConfigs) (plan : SalePlan) (item : ProviderCatalogItem)
    (level : ParchinLevel) : Prop where
  managed : plan.deliveryMode = .managed
  parchinIncluded : plan.parchinIncluded = true
  matched : plan.matches item = true
  minimum : ∀ minimum ∈ plan.minimumLevel, parchinRank minimum ≤ parchinRank level
  sellable : (configs.parchin.find? fun config => config.level = level).isSome = true
  /-- The product's markup is looked up by the kind of the item and by the kind of the plan. -/
  month : ∃ base shown markups markup, catalogItemBasePriceRial item = .ok (some base) ∧
    PricingConfigs.ofItem configs item = some shown ∧
    configs.markups plan.toInfrastructurePlan = some markups ∧
    configs.providerMarkup plan.toInfrastructurePlan markups.1 (some base) = .ok markup ∧
    SameMonth base markup (plan.skuMarkupBasisPoints.getD shown.2) markups.2

/-- Asked for the plan of a card for one month, without a coupon and a level, the checkout returns
it at the price and the level of the card. -/
def PublicPlanOffer.Honoured (card : PublicPlanOffer) (shop : Shop) (now : ℤ) : Prop :=
  ∃ priced, getActivePlanById shop.toCatalog card.id { termMonths := some 1 } now =
      .ok (some priced) ∧
    priced.pricing.finalPriceRial = card.salePriceRial ∧
    priced.pricing.parchinLevel = card.parchinLevel

/-- A matching plan and its item have the provider's markup in common. -/
theorem provider_of_matches {configs : PricingConfigs} {plan : InfrastructurePlan}
    {shown markups : ℤ × ℤ} (hsource : plan.offerSource = .apiCatalog)
    (hmatches : plan.matches item = true) (hshown : PricingConfigs.ofItem configs item = some shown)
    (hmarkups : configs.markups plan = some markups) : markups.1 = shown.1 := by
  unfold InfrastructurePlan.matches at hmatches
  simp only [Bool.and_eq_true, decide_eq_true_eq] at hmatches
  obtain ⟨⟨⟨⟨⟨hprovider, hversion⟩, -⟩, -⟩, -⟩, -⟩ := hmatches
  unfold PricingConfigs.ofItem at hshown
  unfold PricingConfigs.markups at hmarkups
  rw [if_neg (by rw [hsource]; decide)] at hmarkups
  obtain ⟨provider, hfind, hmarkups⟩ := Option.bind_eq_some_iff.1 hmarkups
  obtain ⟨_, -, hmarkups⟩ := Option.bind_eq_some_iff.1 hmarkups
  obtain ⟨other, hother, hshown⟩ := Option.bind_eq_some_iff.1 hshown
  obtain ⟨_, -, hshown⟩ := Option.bind_eq_some_iff.1 hshown
  rw [hversion] at hother
  obtain rfl := Option.some.inj (hfind.symm.trans hother)
  obtain rfl := Option.some.inj hmarkups
  obtain rfl := Option.some.inj hshown
  rfl

/-! ## A card and its plan -/

/-- What a card that can be bought was made of. -/
structure CardOf (shop : Shop) (tier : StorefrontChinishTier) (now : ℤ) (card : PublicPlanOffer)
    (plan : SalePlan) (item : ProviderCatalogItem) (price : EffectivePlanPricing) : Prop where
  found : shop.plans.find? card.id = some plan
  listed : SalePlan.listed plan = true
  mapped : plan.catalogItemId.bind shop.items.find? = some item
  classified : tierOfItem item shop.settings.toStorefrontCapacityRules = tier
  priced : cardPricing shop.rows.pricingConfigs item tier (some plan) now = .ok (some price)
  verified : isVerifiedSellablePricing price = true
  sale : card.salePriceRial = price.finalPriceRial
  level : card.parchinLevel = price.parchinLevel

/-- **A card that can be bought is priced for the plan that has its id.** -/
theorem card_of_listed {tiers : List (StorefrontChinishTier × List PublicPlanOffer)}
    {cards : List PublicPlanOffer} {card : PublicPlanOffer}
    (h : listPublicStorefrontTiers shop now = .ok tiers) (htier : (tier, cards) ∈ tiers)
    (hcard : card ∈ cards) : ∃ plan item price, CardOf shop tier now card plan item price := by
  unfold listPublicStorefrontTiers at h
  obtain ⟨_, -, h⟩ := exists_of_mem_mapM h htier
  obtain ⟨offers, hoffers, h⟩ := bind_eq_ok.1 h
  cases h
  obtain ⟨hoffer, hpurchasable⟩ := List.mem_filter.1 hcard
  obtain ⟨item, hmem, hbuilt, hmatches⟩ := built_of_resolved hoffers hoffer
  obtain ⟨plan, price, hplan, hpriced, hverified, hid, hsale, hlevel, hvcpu, hram⟩ :=
    card_of_built hbuilt hpurchasable
  obtain ⟨hfind, hlisted, hitem⟩ := publishedPlan_spec hplan
  refine ⟨plan, item, price, ?_, hlisted, ?_, tierOfItem_of_matches hmatches hvcpu hram, hpriced,
    hverified, hsale, hlevel⟩
  · rw [hid]
    exact hfind
  · rw [hitem]
    exact Table.find?_of_mem hmem

section Plan

variable {card : PublicPlanOffer} {plan : SalePlan} {price : EffectivePlanPricing}

theorem CardOf.apiCatalog (h : CardOf shop tier now card plan item price) :
    plan.offerSource = .apiCatalog ∧ plan.active = true ∧ plan.published = true ∧
      plan.mapped = true := by
  have hlisted := h.listed
  simp only [SalePlan.listed, Bool.and_eq_true, decide_eq_true_eq] at hlisted
  exact ⟨hlisted.1.1.1, hlisted.1.1.2, hlisted.1.2, hlisted.2⟩

/-- A plan from the catalog is sold at the level of the tier of its item. -/
theorem CardOf.minimumLevel (h : CardOf shop tier now card plan item price) :
    shop.minimumStorefrontParchinLevel (shop.included plan) = storefrontParchinLevel tier := by
  have hitem : (shop.included plan).catalogItem = some item := h.mapped
  have hsource : (shop.included plan).offerSource = .apiCatalog := h.apiCatalog.1
  have hrules : (shop.storefront.map StorefrontSettings.toStorefrontCapacityRules).getD
      defaultStorefrontCapacityRules = shop.settings.toStorefrontCapacityRules := by
    unfold Shop.settings
    cases shop.storefront <;> rfl
  unfold Catalog.minimumStorefrontParchinLevel
  rw [hitem]
  simp only [if_pos hsource, hrules, h.classified]

theorem CardOf.providerCostRial (h : CardOf shop tier now card plan item price) :
    (shop.included plan).toInfrastructurePlan.providerCostRial = catalogItemBasePriceRial item := by
  have hitem : (shop.included plan).catalogItem = some item := h.mapped
  unfold InfrastructurePlan.providerCostRial
  rw [hitem]

/-- The plan of a card that is honoured is sold as it is shown. -/
theorem CardOf.soldAsShown (h : CardOf shop tier now card plan item price)
    (hhonoured : card.Honoured shop now) :
    SoldAsShown shop.rows.pricingConfigs plan item (storefrontParchinLevel tier) := by
  obtain ⟨priced, hactive, hsame, -⟩ := hhonoured
  obtain ⟨row, level, hfind, honSale, hlevel, -, hplan, -, hpricing⟩ :=
    getActivePlanById_eq_some.1 hactive
  obtain rfl := Option.some.inj (h.found.symm.trans hfind)
  obtain rfl : storefrontParchinLevel tier = level := h.minimumLevel.symm.trans hlevel
  rw [hplan] at hpricing
  simp only [SalePlan.onSale, Bool.and_eq_true, decide_eq_true_eq] at honSale
  obtain ⟨cost, markups, markup, parchin, hcost, hmarkups, hmarkup, hparchin, hmonth, -, hfinal⟩ :=
    resolveConfiguredPlanPricing_month hpricing
  obtain ⟨cardCost, shown, cardMarkup, hcardCost, hshown, hcardMarkup, -, -, -, -, -, hcardFinal⟩ :=
    cardPricing_spec h.apiCatalog.1 h.priced
  obtain rfl := Option.some.inj (Except.ok.inj (hcost.symm.trans (h.providerCostRial.trans hcardCost)))
  obtain ⟨_, minimum, _, levelRow, _, _, -, hminimum, rfl, hlevelRow, -, -, -, hplanPriced, -⟩ :=
    resolveConfiguredPlanPricing_eq_some.1 hpricing
  obtain ⟨planItem, found, _, hplanItem, hfound, -, hsells, -⟩ :=
    (resolvePlanPricing_eq_some rfl).1 hplanPriced
  obtain rfl := Option.some.inj (Eq.symm (hplanItem.symm.trans h.mapped))
  simp only [InfrastructurePlan.sells, Bool.and_eq_true, decide_eq_true_eq] at hsells
  obtain ⟨⟨⟨⟨-, hmatches⟩, -⟩, -⟩, hrank⟩ := hsells
  have hprovider := provider_of_matches h.apiCatalog.1 hmatches hshown hmarkups
  rw [hprovider] at hmarkup
  obtain rfl := Except.ok.inj (hcardMarkup.symm.trans hmarkup)
  have hrow : levelRow.level = storefrontParchinLevel tier := by
    have hlevelFound := List.find?_some hlevelRow
    exact of_decide_eq_true hlevelFound
  have hparchinPrice : (cardOptions shop.rows.pricingConfigs tier 0 cardMarkup).parchinPriceRial =
      parchin.priceRial := by
    unfold cardOptions
    rw [hparchin]
    rfl
  have hamount : monthlyMarkupAt cost markups.2 cardMarkup =
      monthlyMarkupAt cost (plan.skuMarkupBasisPoints.getD shown.2) cardMarkup := by
    have hprices := (hfinal rfl rfl).symm.trans (hsame.trans (h.sale.trans hcardFinal))
    have hpretax := (taxed_inj hmonth.tax_nonneg).1 hprices
    rw [hparchinPrice] at hpretax
    omega
  refine ⟨honSale.1.2, honSale.2, hmatches, ?_, by rw [hparchin]; rfl, ?_⟩
  · intro other hother
    obtain rfl := Option.some.inj (hfound.symm.trans hother)
    rw [← hrow]
    exact hrank
  · refine ⟨cost, shown, markups, cardMarkup, hcardCost, hshown, hmarkups, ?_,
      hmonth.markup_nonneg, hmonth.markup_le, hamount⟩
    rw [hprovider]
    exact hcardMarkup

/-- The plan of a card is priced as the card is, when it is sold as it is shown. -/
theorem CardOf.planPriced (h : CardOf shop tier now card plan item price)
    (hsold : SoldAsShown shop.rows.pricingConfigs plan item (storefrontParchinLevel tier)) :
    ∃ base markups markup parchin minimum planPrice, catalogItemBasePriceRial item = .ok (some base) ∧
      0 < base ∧ shop.rows.pricingConfigs.markups plan.toInfrastructurePlan = some markups ∧
      shop.rows.pricingConfigs.providerMarkup plan.toInfrastructurePlan markups.1 (some base) =
        .ok markup ∧
      shop.rows.pricingConfigs.parchin.find?
        (fun config => config.level = storefrontParchinLevel tier) = some parchin ∧
      plan.minimumLevel = some minimum ∧
      resolvePlanPricing (shop.included plan).toInfrastructurePlan (some markup.providerMarkupBps)
        (shop.rows.pricingConfigs.pricingOptions markups.2 parchin { termMonths := some 1 } markup)
          now = .ok (some planPrice) ∧
      planPrice.finalPriceRial = price.finalPriceRial ∧
      planPrice.renewalPriceRial = price.renewalPriceRial ∧
      planPrice.providerBasePriceRial = price.providerBasePriceRial := by
  obtain ⟨base, shown, markups, markup, hbase, hshown, hmarkups, hmarkup, hsame⟩ := hsold.month
  obtain ⟨cardBase, cardShown, cardMarkup, hcardBase, hcardShown, hcardMarkup, hsale, haccepted,
    hcardLevel, hcardPrice, hrenewal, hcardFinal⟩ := cardPricing_spec h.apiCatalog.1 h.priced
  obtain rfl := Option.some.inj (Except.ok.inj (hbase.symm.trans hcardBase))
  obtain rfl := Option.some.inj (hshown.symm.trans hcardShown)
  have hprovider := provider_of_matches h.apiCatalog.1 hsold.matched hshown hmarkups
  rw [hprovider] at hmarkup
  obtain rfl := Except.ok.inj (hmarkup.symm.trans hcardMarkup)
  obtain ⟨parchin, hparchin⟩ := Option.isSome_iff_exists.1 hsold.sellable
  have hparchinPrice : ∀ other, (cardOptions shop.rows.pricingConfigs tier other
      markup).parchinPriceRial = parchin.priceRial := by
    intro other
    unfold cardOptions
    rw [hparchin]
    rfl
  obtain ⟨minimum, hminimum⟩ : ∃ minimum, plan.minimumLevel = some minimum := by
    unfold InfrastructurePlan.minimumLevel
    rw [hsold.parchinIncluded]
    cases plan.minimumParchinLevel with
    | none => exact ⟨.start, rfl⟩
    | some minimum => exact ⟨minimum, rfl⟩
  have hmanual : ¬ (shop.included plan).offerSource = .manualAdmin := by
    have hsource : (shop.included plan).offerSource = .apiCatalog := h.apiCatalog.1
    rw [hsource]
    decide
  set options := shop.rows.pricingConfigs.pricingOptions markups.2 parchin { termMonths := some 1 }
    markup with hoptions
  have hproduct : (options.forPlan (shop.included plan).toInfrastructurePlan
      parchin.level).productMarkupBasisPoints = markups.2 := if_neg hmanual
  have hplanAccepted : ((options.forPlan (shop.included plan).toInfrastructurePlan
      parchin.level).engineInput base markup.providerMarkupBps).Accepted := by
    refine ⟨haccepted.provider, ?_, haccepted.providerMarkup, ?_, ?_, haccepted.tax, rfl,
      haccepted.held, rfl, (fun _ hnone => nomatch hnone), haccepted.minimum⟩
    · have hcard := haccepted.parchin
      simp only [PlanPricingOptions.engineInput, hparchinPrice] at hcard
      exact hcard
    · exact le_of_le_of_eq hsame.nonneg hproduct.symm
    · show markup.providerMarkupBps + (options.forPlan (shop.included plan).toInfrastructurePlan
        parchin.level).productMarkupBasisPoints ≤ 100000
      rw [hproduct]
      exact hsame.accepted
  obtain ⟨planPrice, hplanPrice⟩ := resolveCatalogItemPricing_isSome hbase hsale hplanAccepted
  have hsells : (shop.included plan).sells item minimum parchin.level now = true := by
    have hlevel : parchin.level = storefrontParchinLevel tier := by
      have hfound := List.find?_some hparchin
      exact of_decide_eq_true hfound
    have hcatalog := h.apiCatalog
    unfold InfrastructurePlan.sells
    simp only [Bool.and_eq_true, decide_eq_true_eq]
    refine ⟨⟨⟨⟨⟨hcatalog.2.1, hcatalog.2.2.2⟩, hsold.matched⟩, ?_⟩, hsold.managed⟩, ?_⟩
    · unfold InfrastructurePlan.offerValid
      have hsource : (shop.included plan).offerSource = .apiCatalog := hcatalog.1
      rw [hsource]
      rfl
    · rw [hlevel]
      exact hsold.minimum minimum hminimum
  have hplanPriced : resolvePlanPricing (shop.included plan).toInfrastructurePlan
      (some markup.providerMarkupBps) options now = .ok (some planPrice) :=
    (resolvePlanPricing_eq_some rfl).2 ⟨item, minimum, markup.providerMarkupBps, h.mapped, hminimum,
      if_neg hmanual, hsells, hplanPrice⟩
  obtain ⟨planBase, applied, input, hplanBase, happlied, rfl, -, hplanRenewal, hplanFinal⟩ :=
    resolvePlanPricing_month hplanPriced rfl
  obtain rfl := Option.some.inj (Except.ok.inj (hbase.symm.trans (h.providerCostRial.symm.trans hplanBase)))
  rw [if_neg hmanual] at happlied
  obtain rfl := Option.some.inj happlied
  have hpretax : ((options.forPlan (shop.included plan).toInfrastructurePlan
      parchin.level).engineInput base markup.providerMarkupBps).pretaxIrr =
      base + monthlyMarkupAt base (plan.skuMarkupBasisPoints.getD shown.2) markup +
        parchin.priceRial := by
    unfold CommercialPricingInput.pretaxIrr
    rw [engineInput_markupIrr rfl, hproduct, hsame.amount]
    simp only [PlanPricingOptions.engineInput, PlanPricingOptions.forPlan, hoptions,
      PricingConfigs.pricingOptions, List.sum_nil, add_zero]
  rw [hparchinPrice] at hcardFinal
  rw [hpretax] at hplanRenewal hplanFinal
  obtain ⟨specBase, _, hspecBase, -, -, hspecPrice, -⟩ := resolveCatalogItemPricing_spec hplanPrice
  obtain rfl := Option.some.inj (Except.ok.inj (hbase.symm.trans hspecBase))
  refine ⟨base, markups, markup, parchin, minimum, planPrice, hbase, haccepted.provider, hmarkups, ?_,
    hparchin, hminimum, hplanPriced, (hplanFinal rfl rfl).trans hcardFinal.symm,
    hplanRenewal.trans (hcardFinal.symm.trans hrenewal), hspecPrice.trans hcardPrice.symm⟩
  rw [hprovider]
  exact hmarkup

/-- The plan of a card is sold as the card shows it. -/
theorem CardOf.honoured (h : CardOf shop tier now card plan item price)
    (hsold : SoldAsShown shop.rows.pricingConfigs plan item (storefrontParchinLevel tier)) :
    card.Honoured shop now := by
  obtain ⟨base, markups, markup, parchin, minimum, planPrice, hbase, hpositive, hmarkups, hmarkup,
    hparchin, hminimum, hplanPriced, hfinal, hrenewal, hprovider⟩ := h.planPriced hsold
  have hmanual : ¬ (shop.included plan).offerSource = .manualAdmin := by
    have hsource : (shop.included plan).offerSource = .apiCatalog := h.apiCatalog.1
    rw [hsource]
    decide
  have hverified : isVerifiedSellablePricing planPrice = true := by
    have hcard := h.verified
    unfold isVerifiedSellablePricing at hcard ⊢
    rw [hfinal, hrenewal, hprovider]
    exact hcard
  have hpricing : resolveConfiguredPlanPricing (shop.included plan).toInfrastructurePlan
      shop.rows.pricingConfigs (some (storefrontParchinLevel tier)) { termMonths := some 1 } now =
        .ok (some planPrice) := by
    refine resolveConfiguredPlanPricing_eq_some.2 ⟨markups, minimum, _, parchin, some base, markup,
      hmarkups, hminimum, rfl, hparchin, h.providerCostRial.trans hbase, ?_, hmarkup, ?_, hverified⟩
    · intro _
      exact ⟨base, rfl, hpositive⟩
    · rw [if_neg hmanual]
      exact hplanPriced
  have honSale : SalePlan.onSale plan = true := by
    have hcatalog := h.apiCatalog
    unfold SalePlan.onSale
    rw [hcatalog.2.1, hcatalog.2.2.1, hsold.managed, hsold.parchinIncluded]
    rfl
  refine ⟨⟨shop.included plan, item, planPrice⟩, ?_, hfinal.trans h.sale.symm, ?_⟩
  · refine getActivePlanById_eq_some.2 ⟨plan, storefrontParchinLevel tier, h.found, honSale, ?_, ?_, rfl,
      h.mapped, hpricing⟩
    · exact h.minimumLevel
    · rw [h.minimumLevel]
  · have hcard : price.parchinLevel = storefrontParchinLevel tier := by
      obtain ⟨_, _, _, -, -, -, -, -, hlevel, -⟩ := cardPricing_spec h.apiCatalog.1 h.priced
      exact hlevel
    rw [h.level, hcard]
    exact resolveConfiguredPlanPricing_parchinLevel hpricing

end Plan

/-- **Every card that can be bought is traced to a plan and an item, and the checkout honours it
exactly when the plan is sold as it is shown.** -/
theorem card_honoured_iff {tiers : List (StorefrontChinishTier × List PublicPlanOffer)}
    (h : listPublicStorefrontTiers shop now = .ok tiers) :
    ∀ tier cards, (tier, cards) ∈ tiers → ∀ card ∈ cards,
      ∃ plan item, shop.plans.find? card.id = some plan ∧
        plan.catalogItemId.bind shop.items.find? = some item ∧
        (card.Honoured shop now ↔
          SoldAsShown shop.rows.pricingConfigs plan item (storefrontParchinLevel tier)) := by
  intro tier cards htier card hcard
  obtain ⟨plan, item, price, hcardOf⟩ := card_of_listed h htier hcard
  refine ⟨plan, item, hcardOf.found, hcardOf.mapped, ?_⟩
  exact ⟨hcardOf.soldAsShown, hcardOf.honoured⟩

/-! ## A small shop -/

/-- A shop with one plan, freshly synchronised, and everything on sale. -/
def sampleShop (rows : PricingRows) (plan : SalePlan) : Shop where
  plans := ⟨[plan], List.nodup_singleton _⟩
  items := ⟨[sampleItem], List.nodup_singleton _⟩
  rows
  storefront := none
  slots := []
  env := ⟨true, true, true, true, true⟩
  lastCatalogSync := some 0
  saleRegions := ["ir-thr"]
  locationLabel := id
  localeCompare := compare

/-- The cards of a shop, and what the checkout asks for the plan of the sample. -/
def shownAndCharged (shop : Shop) : Option (List (String × ℤ)) × Option ℤ :=
  ((listPublicStorefrontTiers shop 0).toOption.map fun tiers => tiers.flatMap fun tier =>
      tier.2.map fun card => (card.id, card.salePriceRial),
    (getActivePlanById shop.toCatalog "plan" { termMonths := some 1 } 0).toOption.join.map
      fun priced => priced.pricing.finalPriceRial)

/-- The rows of the sample, with no evidence for the first level. -/
def unprovenRows : PricingRows :=
  { sampleRows none with parchin := ⟨[⟨.start, 0, true, none⟩], List.nodup_singleton _⟩ }

/-- The rows of the sample, with another markup for ready servers. -/
def readyRows : PricingRows :=
  { sampleRows none with
    products := ⟨[⟨.arvan, "v1", .cloudServer, 0, true⟩,
      ⟨.arvan, "v1", .readyInstantServer, 1000, true⟩], by decide⟩ }

/-- Without evidence for the level of the tier there is a card that can be bought, and the checkout
refuses its plan.  A ready server on an item of a cloud server is charged more than its card says. -/
theorem card_not_honoured :
    shownAndCharged (sampleShop unprovenRows samplePlan) = (some [("plan", 15714600)], none) ∧
    shownAndCharged (sampleShop readyRows { samplePlan with productKind := .readyInstantServer }) =
      (some [("plan", 15714600)], some 16814600) := by
  decide +kernel

/-- The condition decides about the card of the sample. -/
theorem sampleShop_cards : ∃ tiers,
    listPublicStorefrontTiers (sampleShop (sampleRows none) samplePlan) 0 = .ok tiers ∧
    ∀ tier cards, (tier, cards) ∈ tiers → ∀ card ∈ cards,
      ∃ plan item, (sampleShop (sampleRows none) samplePlan).plans.find? card.id = some plan ∧
        plan.catalogItemId.bind (sampleShop (sampleRows none) samplePlan).items.find? = some item ∧
        (card.Honoured (sampleShop (sampleRows none) samplePlan) 0 ↔
          SoldAsShown (sampleRows none).pricingConfigs plan item (storefrontParchinLevel tier)) := by
  have hsome : (listPublicStorefrontTiers (sampleShop (sampleRows none) samplePlan)
      0).toOption.isSome = true := by decide +kernel
  obtain ⟨tiers, htiers⟩ := Option.isSome_iff_exists.1 hsome
  have h := toOption_eq_some.1 htiers
  exact ⟨tiers, h, card_honoured_iff h⟩

end AbrChin.Storefront
