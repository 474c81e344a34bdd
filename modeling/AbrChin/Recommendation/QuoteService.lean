import AbrChin.Infrastructure.SalePolicy
import AbrChin.Pricing.ConfiguredPlans
import AbrChin.ProductFlow.StateMachine

/-!
# The quotes of a conversation

`lib/recommendation/quote-service.ts` and `lib/parchin/recommendation.ts`: the answers of a
conversation ask for a protection level, the customer selects one and a plan, and the plan and up
to two comparisons are quoted.

The score of an offer is a floating point number, so `rank` stands for `rankProviderOffers`: the
offers that clear the profile of a direction, best first.  The provider is asked for the locked
selection again; `revalidate` stands for its answer.  The transaction that stores the quotes, the
delivery configuration and the texts of a quote are left out.
-/

namespace AbrChin.Recommendation

open Lib Pricing Infrastructure

/-! ## What the answers ask for -/

inductive ProjectKind where
  | site
  | commerce
  | product
  | api
  | migration
  | data
  | other
  deriving DecidableEq

inductive StageKind where
  | idea
  | launch
  | active
  | growing
  | migration
  deriving DecidableEq

inductive UsageKind where
  | starting
  | light
  | daily
  | busy
  | unknown
  deriving DecidableEq

inductive ArchitectureKind where
  | single
  | appDb
  | multiService
  | dataHeavy
  | unknown
  deriving DecidableEq

inductive CriticalityKind where
  | low
  | medium
  | high
  | severe
  | unknown
  deriving DecidableEq

inductive BudgetKind where
  | under500k
  | from500kTo2m
  | from2mTo5m
  | over5m
  | unknown
  deriving DecidableEq

structure RecommendationAnswers where
  project : Option ProjectKind := none
  stage : Option StageKind := none
  usage : Option UsageKind := none
  architecture : Option ArchitectureKind := none
  criticality : Option CriticalityKind := none
  budget : Option BudgetKind := none
  deriving DecidableEq

def parchinLevels : List ParchinLevel := [.start, .active, .stable]

def parchinLevelRank (level : ParchinLevel) : ℕ := parchinLevels.idxOf level

def recommendedParchinLevel (answers : RecommendationAnswers) : ParchinLevel :=
  if answers.criticality = some .high ∨ answers.criticality = some .severe ∨
      (answers.project = some .commerce ∧
        (answers.usage = some .busy ∨ answers.stage = some .growing)) then
    .stable
  else if answers.criticality = some .medium ∨ answers.project = some .commerce ∨
      answers.project = some .data ∨ answers.architecture = some .dataHeavy ∨
      answers.stage = some .active ∨ answers.stage = some .growing then
    .active
  else .start

def assertParchinLevelAllowed (requested minimum : ParchinLevel) : Except String Unit :=
  throwIf (parchinLevelRank requested < parchinLevelRank minimum) "parchin_level_below_minimum"

/-! ## The plans that can be recommended -/

/-- What decides about a sale besides the catalog. -/
structure SaleContext where
  env : PublicSaleEnv
  /-- The regions of the provider that are enabled for sale. -/
  saleRegions : List String
  now : ℤ

/-- A plan from the catalog that is on sale in an enabled region. -/
def SaleContext.recommends (context : SaleContext) (plan : SalePlan) : Bool :=
  plan.onSale && plan.mapped && plan.providerApiVersion = "v1" &&
    plan.offerSource = .apiCatalog && plan.provider = .arvan && plan.productKind = .cloudServer &&
    context.saleRegions.contains plan.regionCode

/-- The price of a plan that is publicly on sale. -/
def listedPlan (catalog : Catalog) (requestedParchinLevel : Option ParchinLevel)
    (context : SaleContext) (row : SalePlan) : Except String (Option PricedInfrastructurePlan) :=
  let plan := catalog.included row
  if !isPublicSaleEnabled context.env plan.productKind plan.offerSource then pure none
  else do
    let some pricing ← resolveConfiguredPlanPricing plan.toInfrastructurePlan
      catalog.rows.pricingConfigs requestedParchinLevel {} context.now | pure none
    let priced ← withEffectivePricing plan pricing
    pure (some priced)

/-- The plans are listed in the order in which the catalog shows them. -/
def listActivePlans (catalog : Catalog) (requestedParchinLevel : Option ParchinLevel)
    (context : SaleContext) : Except String (List PricedInfrastructurePlan) := do
  let plans ← (catalog.plans.rows.filter context.recommends).mapM
    (listedPlan catalog requestedParchinLevel context)
  pure (plans.filterMap id)

/-! ## The selection -/

inductive RecommendationOfferRole where
  | economy
  | recommended
  | growth
  deriving DecidableEq

inductive RecommendationDirection where
  | economy
  | balanced
  | performance
  deriving DecidableEq

def selections : List (RecommendationOfferRole × RecommendationDirection) :=
  [(.recommended, .balanced), (.economy, .economy), (.growth, .performance)]

def budgetCeilingRial : Option BudgetKind → Option ℤ
  | some .under500k => some 5000000
  | some .from500kTo2m => some 20000000
  | some .from2mTo5m => some 50000000
  | _ => none

/-- `Number.MAX_SAFE_INTEGER` -/
def maxSafeInteger : ℤ := 9007199254740991

def bigintToSafeNumber (value : ℤ) : Except String ℤ :=
  if value ≤ 0 ∨ maxSafeInteger < value then .error "invalid_plan_price" else .ok value

/-- What the ranking sees of a plan. -/
structure ProviderOffer where
  planId : String
  regionCode : String
  vcpu : ℕ
  ramGb : ℕ
  storageGb : ℕ
  salePriceRial : ℤ
  available : Bool
  supportsBackup : Bool
  deriving DecidableEq

def planToProviderOffer (plan : PricedInfrastructurePlan) :
    Except String (Option ProviderOffer) :=
  match plan.pricing.vcpu.filter (· ≠ 0), plan.pricing.ramGb.filter (· ≠ 0),
    plan.pricing.storageGb.filter (· ≠ 0) with
  | some vcpu, some ramGb, some storageGb => do
      let salePriceRial ← bigintToSafeNumber plan.pricing.finalPriceRial
      pure (some {
        planId := plan.plan.id
        regionCode := plan.plan.regionCode
        vcpu
        ramGb
        storageGb
        salePriceRial
        available := plan.plan.active
        supportsBackup := plan.plan.parchinIncluded })
  | _, _, _ => pure none

/-- The resources of a plan. -/
def planResourceFingerprint (plan : PricedInfrastructurePlan) : ℕ × ℕ × ℕ :=
  (plan.pricing.vcpu.getD 0, plan.pricing.ramGb.getD 0, plan.pricing.storageGb.getD 0)

/-- The cheapest offer, and of two with one price the larger one. -/
def fallbackOffer (offers : List ProviderOffer) (usedPlanIds : List String) :
    Option ProviderOffer :=
  let unused := offers.filter fun offer => !usedPlanIds.contains offer.planId
  (unused.insertionSort fun a b => a.salePriceRial < b.salePriceRial ∨
    (a.salePriceRial = b.salePriceRial ∧ b.vcpu + b.ramGb ≤ a.vcpu + a.ramGb)).head?

structure SelectedQuote where
  role : RecommendationOfferRole
  plan : PricedInfrastructurePlan

section Selection

variable (rank : RecommendationDirection → List ProviderOffer → List ProviderOffer)
  (pool : List PricedInfrastructurePlan) (offers : List ProviderOffer)

/-- The offer for a direction: the best one whose plan and resources have not been used, or else
the cheapest one that is left. -/
def rankedOffer (used : List PricedInfrastructurePlan) (direction : RecommendationDirection) :
    Option ProviderOffer :=
  let usedPlanIds := used.map fun plan => plan.plan.id
  ((rank direction offers).find? fun offer =>
    !usedPlanIds.contains offer.planId &&
      (pool.find? fun plan => plan.plan.id = offer.planId).any fun plan =>
        !(used.map planResourceFingerprint).contains (planResourceFingerprint plan)) <|>
    fallbackOffer offers usedPlanIds

/-- One plan for each direction, as long as there are any. -/
def selectFrom (used : List PricedInfrastructurePlan) :
    List (RecommendationOfferRole × RecommendationDirection) → List SelectedQuote
  | [] => []
  | (role, direction) :: rest =>
      match (rankedOffer rank pool offers used direction).bind fun offer =>
          pool.find? fun plan => plan.plan.id = offer.planId with
      | none => selectFrom used rest
      | some plan => ⟨role, plan⟩ :: selectFrom (plan :: used) rest

end Selection

def roleOrder : RecommendationOfferRole → ℕ
  | .economy => 0
  | .recommended => 1
  | .growth => 2

/-- The plans within the budget, or all of them when there are none. -/
def withinBudget (budget : Option BudgetKind) (plans : List PricedInfrastructurePlan) :
    List PricedInfrastructurePlan :=
  match budgetCeilingRial budget with
  | none => plans
  | some ceiling =>
      let budgetFiltered := plans.filter fun plan => plan.pricing.finalPriceRial ≤ ceiling
      if budgetFiltered.isEmpty then plans else budgetFiltered

def selectQuotes (rank : RecommendationDirection → List ProviderOffer → List ProviderOffer)
    (plans : List PricedInfrastructurePlan) (budget : Option BudgetKind) :
    Except String (List SelectedQuote) := do
  let pool := withinBudget budget plans
  let offers ← pool.mapM planToProviderOffer
  pure ((selectFrom rank pool (offers.filterMap id) [] selections).insertionSort
    fun a b => roleOrder a.role ≤ roleOrder b.role)

/-! ## The quotes -/

/-- The columns of a quote that come from its plan and the price of the plan. -/
structure QuotedPlan where
  role : RecommendationOfferRole
  planId : String
  amountRial : ℤ
  renewalAmountRial : ℤ
  termMonths : ℕ
  termDiscountBps : ℤ
  couponDiscountBpsSnapshot : Option ℤ
  catalogItemId : String
  providerBasePriceRialSnapshot : ℤ
  markupBasisPointsSnapshot : ℤ
  parchinLevel : ParchinLevel
  parchinPriceIrr : ℤ
  taxBasisPointsSnapshot : ℤ
  taxAmountIrr : ℤ
  deriving DecidableEq

/-- The quote for a priced plan. -/
def quotedPlan (role : RecommendationOfferRole) (plan : PricedInfrastructurePlan)
    (couponDiscountBps : Option ℤ) : QuotedPlan where
  role
  planId := plan.plan.id
  amountRial := plan.pricing.finalPriceRial
  renewalAmountRial := plan.pricing.renewalPriceRial
  termMonths := plan.pricing.termMonths
  termDiscountBps := plan.pricing.termDiscountBps
  couponDiscountBpsSnapshot := couponDiscountBps
  catalogItemId := plan.pricing.catalogItemId
  providerBasePriceRialSnapshot := plan.pricing.providerBasePriceRial
  markupBasisPointsSnapshot := plan.pricing.markupBasisPoints
  parchinLevel := plan.pricing.parchinLevel
  parchinPriceIrr := plan.pricing.parchinPriceRial
  taxBasisPointsSnapshot := plan.pricing.taxBasisPoints
  taxAmountIrr := plan.pricing.taxAmountRial

/-- `createCatalogQuote`: the quote for a plan that the customer has picked.  A ready server is
asked for with `ready`, and `lock` stands for `lockAndRevalidatePlan`. -/
def createCatalogQuote (catalog : Catalog) (planId : String) (ready : Bool)
    (termPricing : PlanTermPricingOptions) (lock : PricedInfrastructurePlan → Except String Unit)
    (now : ℤ) : Except String QuotedPlan := do
  let plan ← getActivePlanById catalog planId termPricing now
  let some plan := plan.filter fun plan => !ready ||
    (plan.plan.providerApiVersion = "v1" && plan.plan.productKind = .readyInstantServer)
    | .error "quote_unavailable"
  lock plan
  pure (quotedPlan .recommended plan termPricing.couponDiscountBps)

structure LockedDeliveryConfiguration where
  planId : String
  imageAssetId : Option String
  deriving DecidableEq

structure ConversationSession where
  productFlowState : ProductFlow.ProductFlowState
  answers : RecommendationAnswers
  selectedParchinLevel : Option ParchinLevel
  /-- The delivery configuration, when it is complete. -/
  deliveryConfiguration : Option LockedDeliveryConfiguration

structure CreateRecommendationQuotes where
  session : ConversationSession
  requestedParchinLevel : Option ParchinLevel
  termMonths : Option ℕ
  /-- The discount of the coupon, when a code is given. -/
  coupon : Option (Except String ℤ)
  includeComparisons : Bool
  context : SaleContext
  rank : RecommendationDirection → List ProviderOffer → List ProviderOffer
  /-- The provider is asked for the locked selection, and its price is compared. -/
  revalidate : PricedInfrastructurePlan → Except String Unit
  /-- `lockAndRevalidatePlan` -/
  lock : PricedInfrastructurePlan → Except String Unit

/-- A plan is asked for again, with the term and the coupon. -/
def repricedPlan (catalog : Catalog) (termPricing : PlanTermPricingOptions) (now : ℤ)
    (selected : SelectedQuote) : Except String PricedInfrastructurePlan := do
  let some priced ← getActivePlanById catalog selected.plan.plan.id termPricing now
    | .error "quote_unavailable"
  pure priced

/-- A comparison, unless it cannot be locked. -/
def validatedComparison (catalog : Catalog) (termPricing : PlanTermPricingOptions)
    (lock : PricedInfrastructurePlan → Except String Unit) (now : ℤ) (selected : SelectedQuote) :
    Option SelectedQuote :=
  (do
    let priced ← repricedPlan catalog termPricing now selected
    lock priced
    pure { selected with plan := priced }).toOption

/-- The term and the coupon that the plans of a conversation are priced with. -/
def CreateRecommendationQuotes.termPricing (input : CreateRecommendationQuotes)
    (couponDiscountBps : Option ℤ) : PlanTermPricingOptions where
  termMonths := some ((input.termMonths.filter isBillingTermMonths).getD 1)
  couponDiscountBps

/-- The discount of the coupon. -/
def CreateRecommendationQuotes.couponDiscountBps (input : CreateRecommendationQuotes) :
    Except String (Option ℤ) :=
  match input.coupon with
  | none => pure none
  | some coupon => coupon.map some

/-- The level that is selected, once the delivery has been configured. -/
def CreateRecommendationQuotes.selection (input : CreateRecommendationQuotes) :
    Except String (LockedDeliveryConfiguration × ParchinLevel) := do
  throwIf (input.session.productFlowState ∉
    [ProductFlow.ProductFlowState.deliveryConfigured, .quoted, .quoteExpired])
    "conversation_requirements_not_confirmed"
  match input.session.deliveryConfiguration, input.session.selectedParchinLevel with
  | some configuration, some selected => do
      let selectedParchinLevel := input.requestedParchinLevel.getD selected
      assertParchinLevelAllowed selectedParchinLevel
        (recommendedParchinLevel input.session.answers)
      throwIf (selectedParchinLevel ≠ selected) "conversation_delivery_not_configured"
      pure (configuration, selectedParchinLevel)
  | _, _ => .error "conversation_delivery_not_configured"

def createRecommendationQuotes (catalog : Catalog) (input : CreateRecommendationQuotes) :
    Except String (List QuotedPlan) := do
  let now := input.context.now
  let (configuration, selectedParchinLevel) ← input.selection
  let couponDiscountBps ← input.couponDiscountBps
  let termPricing := input.termPricing couponDiscountBps
  let plans ← listActivePlans catalog (some selectedParchinLevel) input.context
  let candidates ← selectQuotes input.rank plans input.session.answers.budget
  let some configuredCandidate :=
      candidates.find? fun candidate => candidate.plan.plan.id = configuration.planId
    | .error "quote_unavailable"
  let configuredPlan ← repricedPlan catalog termPricing now configuredCandidate
  input.revalidate configuredPlan
  let comparisons :=
    if input.includeComparisons then
      (candidates.filter fun candidate => candidate.plan.plan.id ≠ configuredPlan.plan.id &&
        candidate.plan.plan.regionCode = configuredPlan.plan.regionCode &&
        configuration.imageAssetId.isSome).take 2
    else []
  let selected := ⟨.recommended, configuredPlan⟩ ::
    comparisons.filterMap (validatedComparison catalog termPricing input.lock now)
  pure (selected.map fun selected => quotedPlan selected.role selected.plan couponDiscountBps)

/-! ## Which level a quote is for -/

section Level

variable {catalog : Catalog} {input : CreateRecommendationQuotes} {quotes : List QuotedPlan}

/-- A quote is for the level that was selected, which is high enough for the answers, and it asks
for the price that its plan has at that level. -/
def QuotedPlan.HonoursSelection (quote : QuotedPlan) (catalog : Catalog)
    (input : CreateRecommendationQuotes) (level : ParchinLevel) : Prop :=
  quote.parchinLevel = level ∧
    parchinLevelRank (recommendedParchinLevel input.session.answers) ≤
      parchinLevelRank quote.parchinLevel ∧
    ∃ discount priced, input.couponDiscountBps = .ok discount ∧
      getActivePlanById catalog quote.planId
        { input.termPricing discount with parchinLevel := some level } input.context.now =
          .ok (some priced) ∧
      quote.amountRial = priced.pricing.finalPriceRial

/-- The selected level is the one of the session, and it is high enough. -/
theorem selection_eq_ok {configuration : LockedDeliveryConfiguration} {level : ParchinLevel}
    (h : input.selection = .ok (configuration, level)) :
    input.session.selectedParchinLevel = some level ∧
      parchinLevelRank (recommendedParchinLevel input.session.answers) ≤
        parchinLevelRank level := by
  unfold CreateRecommendationQuotes.selection at h
  obtain ⟨_, -, h⟩ := bind_eq_ok.1 h
  split at h
  · rename_i selected _ hselected
    obtain ⟨_, hallowed, h⟩ := bind_eq_ok.1 h
    obtain ⟨_, hsame, h⟩ := bind_eq_ok.1 h
    cases h
    have hsame := not_not.1 (throwIf_eq_ok.1 hsame)
    refine ⟨by rw [hselected, hsame], ?_⟩
    exact not_lt.1 (throwIf_eq_ok.1 hallowed)
  · cases h

/-- Every quote is for a plan that has been priced without a level. -/
theorem priced_of_createRecommendationQuotes
    (h : createRecommendationQuotes catalog input = .ok quotes) :
    ∃ configuration level discount, input.selection = .ok (configuration, level) ∧
      input.couponDiscountBps = .ok discount ∧
      ∀ quote ∈ quotes, ∃ role id priced,
        getActivePlanById catalog id (input.termPricing discount) input.context.now =
          .ok (some priced) ∧ quote = quotedPlan role priced discount := by
  have hrepriced : ∀ {discount : Option ℤ} {selected : SelectedQuote} {priced},
      repricedPlan catalog (input.termPricing discount) input.context.now selected = .ok priced →
      getActivePlanById catalog selected.plan.plan.id (input.termPricing discount)
        input.context.now = .ok (some priced) := by
    intro discount selected priced h
    unfold repricedPlan at h
    obtain ⟨found, hfound, h⟩ := bind_eq_ok.1 h
    cases found with
    | none => cases h
    | some found =>
        cases h
        exact hfound
  unfold createRecommendationQuotes at h
  obtain ⟨⟨configuration, level⟩, hselection, h⟩ := bind_eq_ok.1 h
  obtain ⟨discount, hdiscount, h⟩ := bind_eq_ok.1 h
  obtain ⟨plans, -, h⟩ := bind_eq_ok.1 h
  obtain ⟨candidates, -, h⟩ := bind_eq_ok.1 h
  split at h
  · rename_i candidate hcandidate
    obtain ⟨configured, hconfigured, h⟩ := bind_eq_ok.1 h
    obtain ⟨_, -, h⟩ := bind_eq_ok.1 h
    cases h
    refine ⟨configuration, level, discount, hselection, hdiscount, ?_⟩
    intro quote hquote
    obtain ⟨selected, hselected, rfl⟩ := List.mem_map.1 hquote
    rcases List.mem_cons.1 hselected with rfl | hcomparison
    · exact ⟨_, _, configured, hrepriced hconfigured, rfl⟩
    · obtain ⟨comparison, -, hvalidated⟩ := List.mem_filterMap.1 hcomparison
      obtain ⟨priced, hpriced, h⟩ := bind_eq_ok.1 (toOption_eq_some.1 hvalidated)
      obtain ⟨_, -, h⟩ := bind_eq_ok.1 h
      cases h
      exact ⟨_, _, priced, hrepriced hpriced, rfl⟩
  · cases h

/-- **A quote is for the selected level exactly when the storefront sells its plan at that level
by default.** -/
theorem quote_honours_selection_iff
    (h : createRecommendationQuotes catalog input = .ok quotes) :
    ∃ level, input.session.selectedParchinLevel = some level ∧
      ∀ quote ∈ quotes, quote.HonoursSelection catalog input level ↔
        catalog.storefrontLevel quote.planId = some level := by
  obtain ⟨configuration, level, discount, hselection, hdiscount, hquotes⟩ :=
    priced_of_createRecommendationQuotes h
  obtain ⟨hselected, hallowed⟩ := selection_eq_ok hselection
  refine ⟨level, hselected, ?_⟩
  intro quote hquote
  obtain ⟨role, id, priced, hpriced, rfl⟩ := hquotes quote hquote
  have hid : (quotedPlan role priced discount).planId = id := id_of_getActivePlanById hpriced
  obtain ⟨default, hdefault, hlevel, -⟩ := parchinLevel_of_getActivePlanById hpriced
  rw [hid, hdefault]
  constructor
  · rintro ⟨hquoted, -⟩
    exact congrArg some (hlevel.symm.trans hquoted)
  · intro hsame
    obtain rfl := Option.some.inj hsame
    have hquoted : (quotedPlan role priced discount).parchinLevel = default := hlevel
    refine ⟨hquoted, by rw [hquoted]; exact hallowed, discount, priced, hdiscount, ?_, rfl⟩
    rw [hid]
    exact getActivePlanById_of_storefrontLevel hpriced rfl hdefault

/-- A shop asks for the second level, and its owner selects it. -/
def sampleConversation (level : ParchinLevel) : CreateRecommendationQuotes where
  session := {
    productFlowState := .deliveryConfigured
    answers := { project := some .commerce }
    selectedParchinLevel := some level
    deliveryConfiguration := some ⟨"plan", some "image"⟩ }
  requestedParchinLevel := none
  termMonths := some 3
  coupon := none
  includeComparisons := true
  context := ⟨⟨true, true, true, true, true⟩, ["ir-thr"], 0⟩
  rank := fun _ offers => offers
  revalidate := fun _ => .ok ()
  lock := fun _ => .ok ()

/-- The condition decides about every quote of a conversation that succeeds. -/
theorem sampleConversation_quotes :
    ∃ quotes, createRecommendationQuotes (sampleCatalog none) (sampleConversation .active) =
        .ok quotes ∧
      ∃ level, (sampleConversation .active).session.selectedParchinLevel = some level ∧
        ∀ quote ∈ quotes,
          quote.HonoursSelection (sampleCatalog none) (sampleConversation .active) level ↔
            (sampleCatalog none).storefrontLevel quote.planId = some level := by
  have hsome : (createRecommendationQuotes (sampleCatalog none)
      (sampleConversation .active)).toOption.isSome = true := by decide +kernel
  obtain ⟨quotes, hquotes⟩ := Option.isSome_iff_exists.1 hsome
  have h := toOption_eq_some.1 hquotes
  exact ⟨quotes, h, quote_honours_selection_iff h⟩

/-- The shop gets a quote for the first level, below the one that its answers ask for. -/
theorem conversation_quoted_below_selection :
    (createRecommendationQuotes (sampleCatalog none) (sampleConversation .active)).toOption.map
        (fun quotes => quotes.map fun quote => (quote.planId, quote.parchinLevel)) =
      some [("plan", .start)] ∧
    (sampleConversation .active).session.selectedParchinLevel = some .active ∧
    recommendedParchinLevel (sampleConversation .active).session.answers = .active := by
  decide +kernel

end Level

end AbrChin.Recommendation
