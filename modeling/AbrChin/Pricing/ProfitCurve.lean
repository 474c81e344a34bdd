import AbrChin.Pricing.PlanPricing
import Mathlib.Data.List.Sort

/-!
# The profit curve

`lib/pricing/profit-curve.ts` and `lib/pricing/profit-curve-apply.ts`: bands of target margins
over the provider's monthly cost.  Where the margin falls from one band to the next, the price
at the boundary is held until the cost at which the lower margin reaches it.  A curve is
published when its structure is valid and no sampled cost has a lower price than the one
before it.

Margins and sort orders are integers: a band with another margin is refused, and sort orders
are integers when a configuration is parsed.  The messages and details of an issue are left
out; its code says which check has failed.
-/

namespace AbrChin.Pricing

open Lib

/-- Gross margin to markup, rounded to the nearest basis point and half up. -/
def grossMarginBpsToMarkupBps (marginBps : ℤ) : Except String ℤ :=
  if marginBps < 0 ∨ 10000 ≤ marginBps then .error "invalid_gross_margin"
  else if marginBps = 0 then .ok 0
  else .ok ((2 * (marginBps * 10000) + (10000 - marginBps)).tdiv (2 * (10000 - marginBps)))

structure ProfitCurveBandInput where
  id : Option String
  sortOrder : ℤ
  minProviderCostRial : ℤ
  maxProviderCostRial : Option ℤ
  targetGrossMarginBps : ℤ
  deriving DecidableEq

structure ProfitCurveConfigInput where
  enabled : Bool
  minimumPostDiscountGrossMarginBps : ℤ
  bands : List ProfitCurveBandInput

structure ProfitCurveTransition where
  bandIndex : ℕ
  boundaryRial : ℤ
  previousMarginBps : ℤ
  nextMarginBps : ℤ
  boundarySaleRial : ℤ
  transitionEndRial : ℤ
  deriving DecidableEq

/-- The bands by their sort order. -/
def sortBands (bands : List ProfitCurveBandInput) : List ProfitCurveBandInput :=
  bands.insertionSort fun a b => a.sortOrder ≤ b.sortOrder

/-! ## Transitions -/

/-- The sale price at a target margin. -/
def infrastructureSaleFromMargin (providerCostRial targetGrossMarginBps : ℤ) : Except String ℤ :=
  if providerCostRial < 0 then .error "invalid_provider_cost"
  else if providerCostRial = 0 then .ok 0
  else do
    let markupBps ← grossMarginBpsToMarkupBps targetGrossMarginBps
    let markup ← multiplyBpsRoundUp providerCostRial markupBps
    pure (providerCostRial + markup)

def boundarySaleFloor (boundaryCostRial previousMarginBps : ℤ) : Except String ℤ := do
  throwIf (boundaryCostRial ≤ 0) "invalid_boundary_cost"
  let keep := 10000 - previousMarginBps
  throwIf (keep ≤ 0) "invalid_margin"
  pure ((boundaryCostRial * bpsDenominator).tdiv keep)

/-- The price that is held from a boundary on. -/
def computeBoundarySaleRial (boundaryCostRial previousMarginBps : ℤ) : Except String ℤ := do
  let floorSale ← boundarySaleFloor boundaryCostRial previousMarginBps
  let engineAtBoundary ← infrastructureSaleFromMargin boundaryCostRial previousMarginBps
  let engineBefore ← (
    if 1 < boundaryCostRial then
      infrastructureSaleFromMargin (boundaryCostRial - 1) previousMarginBps
    else pure 0)
  pure (max (max floorSale engineAtBoundary) engineBefore)

/-- At most `guard` steps up, until the lower margin reaches the held price. -/
def nudgeTransitionEnd (nextMarginBps boundarySale : ℤ) : ℕ → ℤ → Except String ℤ
  | 0, stop => .ok stop
  | guard + 1, stop => do
      let sale ← infrastructureSaleFromMargin stop nextMarginBps
      if boundarySale ≤ sale then pure stop
      else nudgeTransitionEnd nextMarginBps boundarySale guard (stop + 1)

/-- The cost at which the next margin takes over. -/
def computeTransitionEndRial (boundaryCostRial previousMarginBps nextMarginBps boundarySale : ℤ) :
    Except String ℤ := do
  throwIf (previousMarginBps < nextMarginBps) "invalid_transition_margins"
  if nextMarginBps = previousMarginBps then pure boundaryCostRial
  else
    let geometric :=
      (boundaryCostRial * (10000 - nextMarginBps)).tdiv (10000 - previousMarginBps)
    nudgeTransitionEnd nextMarginBps boundarySale 64 (max geometric boundaryCostRial)

/-- The transitions at the starts of the bands after the first one, which has this index. -/
def transitionsFrom (index : ℕ) :
    List ProfitCurveBandInput → Except String (List ProfitCurveTransition)
  | prev :: next :: rest => do
      throwIf (prev.targetGrossMarginBps < next.targetGrossMarginBps) "ascending_margins"
      if next.targetGrossMarginBps = prev.targetGrossMarginBps then
        transitionsFrom (index + 1) (next :: rest)
      else do
        let boundary := next.minProviderCostRial
        let boundarySale ← computeBoundarySaleRial boundary prev.targetGrossMarginBps
        let transitionEnd ← computeTransitionEndRial boundary prev.targetGrossMarginBps
          next.targetGrossMarginBps boundarySale
        let later ← transitionsFrom (index + 1) (next :: rest)
        pure ({
          bandIndex := index + 1
          boundaryRial := boundary
          previousMarginBps := prev.targetGrossMarginBps
          nextMarginBps := next.targetGrossMarginBps
          boundarySaleRial := boundarySale
          transitionEndRial := transitionEnd } :: later)
  | _ => pure []

def deriveProfitCurveTransitions (bands : List ProfitCurveBandInput) :
    Except String (List ProfitCurveTransition) :=
  transitionsFrom 0 (sortBands bands)

/-! ## The resolution of a cost -/

/-- The last band that starts at or below a cost and ends above it, or is the last one. -/
def findBandIndex (bands : List ProfitCurveBandInput) (providerMonthlyCostRial : ℤ) : ℕ :=
  let sorted := sortBands bands
  ((List.range sorted.length).reverse.find? fun i => sorted[i]?.any fun band =>
    band.minProviderCostRial ≤ providerMonthlyCostRial &&
      (band.maxProviderCostRial.all (providerMonthlyCostRial < ·) ||
        i = sorted.length - 1)).getD 0

def effectiveMarginDuringTransition (providerCostRial boundarySaleRial : ℤ) : Except String ℤ := do
  throwIf (boundarySaleRial ≤ 0 ∨ providerCostRial < 0) "invalid_transition_inputs"
  throwIf (boundarySaleRial ≤ providerCostRial) "cost_exceeds_boundary_sale"
  let profit := boundarySaleRial - providerCostRial
  pure ((profit * bpsDenominator + boundarySaleRial.tdiv 2).tdiv boundarySaleRial)

structure ProfitCurveResolution where
  targetGrossMarginBps : ℤ
  effectiveGrossMarginBps : ℤ
  effectiveMarkupBps : ℤ
  bandId : String
  bandIndex : ℕ
  transition : Bool
  transitionStartRial : Option ℤ
  transitionEndRial : Option ℤ
  infrastructureSaleRial : ℤ
  deriving DecidableEq

def bandIdOf (band : ProfitCurveBandInput) (index : ℕ) : String := band.id.getD s!"band-{index}"

/-- The cost lies in the transition. -/
def ProfitCurveTransition.holds (t : ProfitCurveTransition) (providerMonthlyCostRial : ℤ) : Bool :=
  t.boundaryRial ≤ providerMonthlyCostRial && providerMonthlyCostRial < t.transitionEndRial

def resolveProfitCurve (providerMonthlyCostRial : ℤ) (bands : List ProfitCurveBandInput) :
    Except String ProfitCurveResolution := do
  throwIf (providerMonthlyCostRial < 0) "invalid_provider_cost"
  throwIf (bands = []) "empty_profit_curve"
  let sorted := sortBands bands
  let transitions ← deriveProfitCurveTransitions sorted
  let bandIndex := findBandIndex sorted providerMonthlyCostRial
  let some band := sorted[bandIndex]? | .error "empty_profit_curve"
  match transitions.find? (·.holds providerMonthlyCostRial) with
  | some active => do
      let effectiveGrossMarginBps ←
        effectiveMarginDuringTransition providerMonthlyCostRial active.boundarySaleRial
      let infrastructureSaleRial := active.boundarySaleRial
      let desiredMarkup := infrastructureSaleRial - providerMonthlyCostRial
      let flooredMarkupBps ← (
        if 0 < providerMonthlyCostRial ∧ 0 < desiredMarkup then
          pure ((desiredMarkup * bpsDenominator + providerMonthlyCostRial - 1).tdiv
            providerMonthlyCostRial)
        else grossMarginBpsToMarkupBps (min (max effectiveGrossMarginBps 0) 9999))
      pure {
        targetGrossMarginBps := active.nextMarginBps
        effectiveGrossMarginBps
        effectiveMarkupBps := flooredMarkupBps
        bandId := bandIdOf band bandIndex
        bandIndex
        transition := true
        transitionStartRial := some active.boundaryRial
        transitionEndRial := some active.transitionEndRial
        infrastructureSaleRial }
  | none => do
      let effectiveMarkupBps ← grossMarginBpsToMarkupBps band.targetGrossMarginBps
      let infrastructureSaleRial ←
        infrastructureSaleFromMargin providerMonthlyCostRial band.targetGrossMarginBps
      pure {
        targetGrossMarginBps := band.targetGrossMarginBps
        effectiveGrossMarginBps := band.targetGrossMarginBps
        effectiveMarkupBps
        bandId := bandIdOf band bandIndex
        bandIndex
        transition := false
        transitionStartRial := none
        transitionEndRial := none
        infrastructureSaleRial }

/-! ## Validation -/

/-- The issue of a check that has failed. -/
def issueIf (p : Prop) [Decidable p] (code : String) : List String := if p then [code] else []

/-- The issues of the bands, each with the one before it. -/
def bandIssues : Option ProfitCurveBandInput → List ProfitCurveBandInput → List String
  | _, [] => []
  | prev, band :: rest =>
      issueIf (band.targetGrossMarginBps < 1000 ∨ 7500 < band.targetGrossMarginBps)
        "margin_bounds" ++
      issueIf (band.minProviderCostRial < 0) "negative_threshold" ++
      issueIf (band.maxProviderCostRial.any (· ≤ band.minProviderCostRial)) "band_range" ++
      (match prev with
        | none => []
        | some prev =>
            issueIf (band.minProviderCostRial ≤ prev.minProviderCostRial)
              "thresholds_not_ascending" ++
            issueIf (prev.maxProviderCostRial.any (· ≠ band.minProviderCostRial))
              "band_gap_or_overlap" ++
            issueIf (prev.targetGrossMarginBps < band.targetGrossMarginBps)
              "margins_not_descending") ++
      bandIssues (some band) rest

def transitionIssues (bands : List ProfitCurveBandInput) (t : ProfitCurveTransition) : List String :=
  issueIf (t.transitionEndRial ≤ t.boundaryRial) "invalid_transition" ++
  issueIf (bands[t.bandIndex + 1]?.any (·.minProviderCostRial ≤ t.transitionEndRial))
    "transition_overlaps_next_boundary" ++
  issueIf (t.boundarySaleRial ≤ 0 ∨ t.transitionEndRial ≤ 0) "non_positive_sale"

/-- Structural validation: the codes of the issues. -/
def validateProfitCurveStructure (config : ProfitCurveConfigInput) : List String :=
  let bands := sortBands config.bands
  issueIf (bands.length ≠ 5) "band_count" ++
  issueIf (config.minimumPostDiscountGrossMarginBps < 1000 ∨
    7500 < config.minimumPostDiscountGrossMarginBps) "discount_floor" ++
  (if bands = [] then []
  else
    issueIf (bands.head?.any (·.minProviderCostRial ≠ 0)) "first_band_zero" ++
    issueIf (bands.getLast?.any (·.maxProviderCostRial.isSome)) "final_band_unbounded" ++
    bandIssues none bands ++
    match deriveProfitCurveTransitions bands with
    | .ok transitions => transitions.flatMap (transitionIssues bands)
    | .error _ => ["transition_derive_failed"])

structure MonotonicityOptions where
  catalogCostsRial : List ℤ := []
  syntheticPoints : ℤ := 2000
  maxCostRial : Option ℤ := none

/-- The costs at the edges of bands and transitions. -/
def criticalCosts (sorted : List ProfitCurveBandInput) (transitions : List ProfitCurveTransition) :
    List ℤ :=
  (sorted.flatMap fun band =>
    [band.minProviderCostRial, band.minProviderCostRial - 1, band.minProviderCostRial + 1] ++
      band.maxProviderCostRial.toList.flatMap fun max => [max, max - 1]) ++
  transitions.flatMap fun t =>
    [t.boundaryRial, t.boundaryRial - 1, t.boundaryRial + 1,
      t.transitionEndRial, t.transitionEndRial - 1, t.transitionEndRial + 1]

/-- Costs that are spread evenly up to the highest one. -/
def syntheticCosts (maxCost syntheticPoints : ℤ) : List ℤ :=
  let syntheticCount := max syntheticPoints 2
  if 0 < maxCost then
    (List.range syntheticCount.toNat).map fun i =>
      let cost := (maxCost * i).tdiv (syntheticCount - 1)
      if cost = 0 then 1 else cost
  else []

/-- The sampled costs, each once and in ascending order. -/
def sampledCosts (sorted : List ProfitCurveBandInput) (transitions : List ProfitCurveTransition)
    (options : MonotonicityOptions) : List ℤ :=
  let lastMin := (sorted.getLast?.map ProfitCurveBandInput.minProviderCostRial).getD 0
  let maxCost := options.maxCostRial.getD (if lastMin * 2 = 0 then 500000000 else lastMin * 2)
  let points := criticalCosts sorted transitions ++ options.catalogCostsRial ++
    syntheticCosts maxCost options.syntheticPoints
  ((points.filter (0 < ·)).dedup).insertionSort (· ≤ ·)

/-- The sale price of a cost, before the product's markup. -/
def saleOfCost (bands : List ProfitCurveBandInput) (cost : ℤ) : Except String ℤ := do
  let resolved ← resolveProfitCurve cost bands
  if resolved.transition then pure resolved.infrastructureSaleRial
  else do
    let markup ← multiplyBpsRoundUp cost resolved.effectiveMarkupBps
    pure (cost + markup)

/-- Compare the sale price of each cost with the one before it, up to 25 issues. -/
def checkSales (bands : List ProfitCurveBandInput) :
    List String → Option ℤ → List ℤ → Except String (List String)
  | issues, _, [] => pure issues
  | issues, previousSale, cost :: rest => do
      let sale ← saleOfCost bands cost
      let issues := issues ++ issueIf (sale ≤ 0) "non_positive_sale"
      if previousSale.any (sale < ·) then
        let issues := issues ++ ["sale_not_monotonic"]
        if 25 ≤ issues.length then pure issues else checkSales bands issues (some sale) rest
      else checkSales bands issues (some sale) rest

/-- The codes of the issues, and how many costs were sampled. -/
def validateProfitCurveMonotonicity (bands : List ProfitCurveBandInput)
    (options : MonotonicityOptions) : Except String (List String × ℕ) := do
  let sorted := sortBands bands
  let transitions ← deriveProfitCurveTransitions sorted
  throwIf (sorted = []) "empty_profit_curve"
  let ordered := sampledCosts sorted transitions options
  let issues ← checkSales sorted [] none ordered
  pure (issues, ordered.length)

/-! ## The markup of a plan -/

def isProfitCurveEligiblePlan (plan : InfrastructurePlan) : Bool :=
  plan.offerSource = .apiCatalog &&
    (plan.productKind = .cloudServer || plan.productKind = .readyInstantServer)

inductive MarkupSource where
  | profitCurve
  | providerConfig
  | manualZero
  deriving DecidableEq

structure ResolvedProviderMarkup where
  providerMarkupBps : ℤ
  infrastructureSaleRialOverride : Option ℤ
  curve : Option ProfitCurveResolution
  source : MarkupSource

structure ProviderMarkupInput where
  plan : InfrastructurePlan
  providerMonthlyCostRial : ℤ
  providerConfigMarkupBps : ℤ
  profitCurve : Option ProfitCurveConfigInput
  manualAdmin : Bool := false

def resolveProviderMarkupForPlan (input : ProviderMarkupInput) :
    Except String ResolvedProviderMarkup :=
  if input.manualAdmin then pure ⟨0, none, none, .manualZero⟩
  else
    match input.profitCurve.filter fun curve => curve.enabled &&
      isProfitCurveEligiblePlan input.plan && 0 < input.providerMonthlyCostRial with
    | some curve => do
        let resolved ← resolveProfitCurve input.providerMonthlyCostRial curve.bands
        pure {
          providerMarkupBps := resolved.effectiveMarkupBps
          infrastructureSaleRialOverride :=
            if resolved.transition then some resolved.infrastructureSaleRial else none
          curve := some resolved
          source := .profitCurve }
    | none => pure ⟨input.providerConfigMarkupBps, none, none, .providerConfig⟩

end AbrChin.Pricing
