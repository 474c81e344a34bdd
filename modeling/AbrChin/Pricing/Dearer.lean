import AbrChin.Pricing.MonthlyPrice
import AbrChin.Pricing.PublishedCurve
import Mathlib.Data.List.Dedup

/-!
# Dearer hardware and its price

The sale price of a cost, from the profit curve through the commercial engine.  On a published
curve the resolver computes `HeldCurve.sale` without the product's markup, and the sampled
validation accepts a curve exactly when each transition ends at a price that is not below the
held one (`validates_iff`).  The engine then adds the product's markup, which it rounds up
together with the provider's except while a price is held.
-/

namespace AbrChin.Pricing

open Lib

variable {raw : List ProfitCurveBandInput} {transitions : List ProfitCurveTransition}

/-! ## The resolver -/

/-- The end of a transition is at most one above its start or a cost below the held price. -/
theorem nudgeTransitionEnd_spec {nextMarginBps boundarySale start stop : ℤ} {guard : ℕ}
    (hstart : 1 ≤ start)
    (h : nudgeTransitionEnd nextMarginBps boundarySale guard start = .ok stop) :
    stop = start ∨ stop - 1 < boundarySale := by
  induction guard generalizing start with
  | zero =>
      cases h
      exact .inl rfl
  | succ guard ih =>
      unfold nudgeTransitionEnd at h
      obtain ⟨sale, hsale, h⟩ := bind_eq_ok.1 h
      split_ifs at h with hmet
      · cases h
        exact .inl rfl
      -- the cost that is left behind is below the held price
      have hbelow : start < boundarySale := by
        unfold infrastructureSaleFromMargin at hsale
        rw [if_neg (by omega), if_neg (by omega)] at hsale
        obtain ⟨markupBps, -, hsale⟩ := bind_eq_ok.1 hsale
        obtain ⟨markup, hmarkup, hsale⟩ := bind_eq_ok.1 hsale
        cases hsale
        have := multiplyBpsRoundUp_nonneg hmarkup
        omega
      rcases ih (by omega) h with rfl | hstop
      · exact .inr (by omega)
      · exact .inr hstop

variable {cost : ℤ}

/-- In a transition the held price is above the cost. -/
theorem Published.cost_lt_boundarySale (h : Published (sortBands raw) transitions)
    {t : ProfitCurveTransition} (ht : t ∈ transitions) (hholds : t.holds cost = true) :
    cost < t.boundarySaleRial := by
  obtain ⟨hfrom, hto⟩ := ProfitCurveTransition.holds_eq_true.1 hholds
  obtain ⟨i, prev, band, -, hprev, hband, hbetween⟩ := h.bandAt_of_transition ht hfrom hto.le
  obtain ⟨hlow, hhigh⟩ := (h.fits prev (List.mem_of_getElem? hprev)).margin
  obtain ⟨hlow', hhigh'⟩ := (h.fits band (List.mem_of_getElem? hband.1)).margin
  have hboundary := hbetween.boundary
  obtain ⟨hone, -⟩ := boundarySale_ge hlow hhigh hbetween.sale
  have hstop := hbetween.stop
  unfold computeTransitionEndRial at hstop
  obtain ⟨_, -, hstop⟩ := bind_eq_ok.1 hstop
  rw [if_neg hbetween.falls.ne] at hstop
  rcases nudgeTransitionEnd_spec (by omega) hstop with hend | hend
  · -- the geometric end is below the geometric price
    have hsale := hbetween.sale
    unfold computeBoundarySaleRial at hsale
    obtain ⟨floorSale, hfloor, hsale⟩ := bind_eq_ok.1 hsale
    obtain ⟨engineAt, -, hsale⟩ := bind_eq_ok.1 hsale
    obtain ⟨engineBefore, -, hsale⟩ := bind_eq_ok.1 hsale
    simp only [boundarySaleFloor, bind_eq_ok, throwIf_eq_ok] at hfloor
    obtain ⟨_, -, _, -, hfloor⟩ := hfloor
    have hfloorSale := Except.ok.inj hfloor
    have hmax := Except.ok.inj hsale
    unfold bpsDenominator at hfloorSale
    have hgeometric : (band.minProviderCostRial * (10000 - band.targetGrossMarginBps)).tdiv
        (10000 - prev.targetGrossMarginBps) ≤ floorSale := by
      rw [← hfloorSale, Int.tdiv_eq_ediv_of_nonneg (mul_nonneg (by omega) (by omega)),
        Int.tdiv_eq_ediv_of_nonneg (mul_nonneg (by omega) (by omega))]
      refine Int.ediv_le_ediv (by omega) ?_
      exact mul_le_mul_of_nonneg_left (by omega) (by omega)
    omega
  · omega

/-- **What the resolver returns on a published curve.** -/
theorem Published.resolveProfitCurve_eq (h : Published (sortBands raw) transitions)
    (hcost : 1 ≤ cost) : ∃ resolved, resolveProfitCurve cost raw = .ok resolved ∧
      ((∃ t ∈ transitions, t.holds cost = true ∧ resolved.transition = true ∧
          resolved.infrastructureSaleRial = t.boundarySaleRial ∧ resolved.effectiveMarkupBps =
            ((t.boundarySaleRial - cost) * bpsDenominator + cost - 1).tdiv cost) ∨
        (h.curve.Free cost ∧ resolved.transition = false ∧
          resolved.effectiveMarkupBps = markupAt (sortBands raw) cost ∧
          resolved.infrastructureSaleRial =
            cost + bpsUp (cost * markupAt (sortBands raw) cost))) := by
  obtain ⟨band, hband⟩ := h.exists_band (by omega : 0 ≤ cost)
  obtain ⟨hlow, hhigh⟩ := (h.fits band (List.mem_of_getElem? hband.1)).margin
  have hne : raw ≠ [] := by
    rintro rfl
    obtain ⟨first, hfirst, -⟩ := h.head
    cases hfirst
  have hcost' : ¬ cost < 0 := by omega
  unfold resolveProfitCurve deriveProfitCurveTransitions
  simp only [h.sorted, h.derived, hband.1, throwIf, if_neg hne, if_neg hcost', bind, Except.bind]
  cases hfind : transitions.find? (·.holds cost) with
  | some t =>
      have ht := List.mem_of_find?_eq_some hfind
      have hholds := List.find?_some hfind
      have hlt := h.cost_lt_boundarySale ht hholds
      have hguard : ¬ (t.boundarySaleRial ≤ 0 ∨ cost < 0) := by omega
      have hguard' : ¬ t.boundarySaleRial ≤ cost := by omega
      have hdesired : 0 < cost ∧ 0 < t.boundarySaleRial - cost := by omega
      simp only [effectiveMarginDuringTransition, throwIf, if_neg hguard, if_neg hguard', bind,
        Except.bind, pure, Except.pure, if_pos hdesired]
      exact ⟨_, rfl, .inl ⟨t, ht, hholds, rfl, rfl, rfl⟩⟩
  | none =>
      have hfree : h.curve.Free cost := fun t ht => by
        simpa using List.find?_eq_none.1 hfind t ht
      obtain ⟨-, hmarkup⟩ := markupOf_bounds hlow hhigh
      obtain ⟨hnonneg, -⟩ := markupOf_bounds hlow hhigh
      have hround : multiplyBpsRoundUp cost (markupOf band.targetGrossMarginBps) =
          .ok ((cost * markupOf band.targetGrossMarginBps + 9999).tdiv 10000) :=
        multiplyBpsRoundUp_eq_ok.2 ⟨by omega, hnonneg, hmarkup, rfl⟩
      simp only [infrastructureSaleFromMargin, grossMarginBpsToMarkupBps_eq hlow hhigh, if_neg hcost',
        if_neg (by omega : ¬ cost = 0), hround, bind, Except.bind, pure, Except.pure]
      refine ⟨_, rfl, .inr ⟨hfree, rfl, (h.markupAt_eq hband).symm, ?_⟩⟩
      have hproduct : 0 ≤ cost * markupOf band.targetGrossMarginBps := mul_nonneg (by omega) hnonneg
      rw [h.markupAt_eq hband, bpsUp, Int.tdiv_eq_ediv_of_nonneg (by omega)]

/-! ## The sampled validation -/

/-- The price that the validation compares is the one without a product's markup. -/
theorem Published.saleOfCost_eq (h : Published (sortBands raw) transitions) (hcost : 1 ≤ cost) :
    saleOfCost (sortBands raw) cost = .ok (h.curve.sale 0 cost) := by
  have hsorted : Published (sortBands (sortBands raw)) transitions := by
    rw [h.sorted]
    exact h
  obtain ⟨resolved, hresolved, hcase⟩ := hsorted.resolveProfitCurve_eq hcost
  unfold saleOfCost
  rw [hresolved]
  rcases hcase with ⟨t, ht, hholds, htransition, hsale, -⟩ | ⟨hfree, htransition, hmarkup, -⟩
  · have hheld : h.curve.sale 0 cost = t.boundarySaleRial + bpsUp (cost * 0) :=
      HeldCurve.sale_of_holds ht hholds
    simp [bind, Except.bind, pure, Except.pure, htransition, hsale, hheld, bpsUp]
  · rw [h.sorted] at hmarkup
    have hfree' : h.curve.sale 0 cost = cost + bpsUp (cost * (markupAt (sortBands raw) cost + 0)) :=
      HeldCurve.sale_of_free hfree
    obtain ⟨hnonneg, hhigh⟩ := h.markupAt_bounds cost
    have hround : multiplyBpsRoundUp cost (markupAt (sortBands raw) cost) =
        .ok ((cost * markupAt (sortBands raw) cost + 9999).tdiv 10000) :=
      multiplyBpsRoundUp_eq_ok.2 ⟨by omega, hnonneg, hhigh, rfl⟩
    have hproduct : 0 ≤ cost * markupAt (sortBands raw) cost := mul_nonneg (by omega) hnonneg
    rw [Int.tdiv_eq_ediv_of_nonneg (by omega)] at hround
    simp [bind, Except.bind, pure, Except.pure, htransition, hmarkup, hround, hfree', bpsUp]

/-- Without a product's markup there is nothing to round apart. -/
theorem HeldCurve.sale_zero (curve : HeldCurve) (cost : ℤ) :
    curve.sale 0 cost = curve.apartSale 0 cost := by
  unfold sale apartSale
  cases curve.transitions.find? (·.holds cost) <;> simp [bpsUp]

/-- **The sale price that the resolver returns is the curve's.** -/
theorem Published.resolved_sale (h : Published (sortBands raw) transitions) (hcost : 1 ≤ cost) :
    ∃ resolved, resolveProfitCurve cost raw = .ok resolved ∧
      resolved.infrastructureSaleRial = h.curve.sale 0 cost := by
  obtain ⟨resolved, hresolved, hcase⟩ := h.resolveProfitCurve_eq hcost
  refine ⟨resolved, hresolved, ?_⟩
  rcases hcase with ⟨t, ht, hholds, -, hsale, -⟩ | ⟨hfree, -, -, hsale⟩
  · have hheld : h.curve.sale 0 cost = t.boundarySaleRial + bpsUp (cost * 0) :=
      HeldCurve.sale_of_holds ht hholds
    rw [hsale, hheld]
    simp [bpsUp]
  · have hfree' : h.curve.sale 0 cost = cost + bpsUp (cost * (markupAt (sortBands raw) cost + 0)) :=
      HeldCurve.sale_of_free hfree
    rw [hsale, hfree', add_zero]

/-- Issues stay. -/
theorem checkSales_eq_nil {bands : List ProfitCurveBandInput} {issues : List String}
    {previous : Option ℤ} {costs : List ℤ} (h : checkSales bands issues previous costs = .ok []) :
    issues = [] := by
  induction costs generalizing issues previous with
  | nil => exact Except.ok.inj h
  | cons cost rest ih =>
      unfold checkSales at h
      obtain ⟨sale, -, h⟩ := bind_eq_ok.1 h
      dsimp only at h
      split_ifs at h
      · have := Except.ok.inj h
        simp at this
      · have := ih h
        simp at this
      · exact (List.append_eq_nil_iff.1 (ih h)).1

/-- Sales pass when none is below the one before it. -/
theorem checkSales_iff {bands : List ProfitCurveBandInput} {f : ℤ → ℤ} {previous : Option ℤ}
    {costs : List ℤ} (hsale : ∀ cost ∈ costs, saleOfCost bands cost = .ok (f cost) ∧ 0 < f cost) :
    checkSales bands [] previous costs = .ok [] ↔
      List.IsChain (· ≤ ·) (previous.toList ++ costs.map f) := by
  induction costs generalizing previous with
  | nil => cases previous <;> simp [checkSales, pure, Except.pure]
  | cons cost rest ih =>
      obtain ⟨hcost, hpositive⟩ := hsale cost List.mem_cons_self
      have hrest := @ih (some (f cost)) fun other hother => hsale other (List.mem_cons_of_mem _ hother)
      have hissue : issueIf (f cost ≤ 0) "non_positive_sale" = [] :=
        issueIf_eq_nil.2 (not_le.2 hpositive)
      unfold checkSales
      simp only [hcost, bind, Except.bind, hissue, List.append_nil, List.nil_append,
        List.length_singleton, List.map_cons]
      rw [if_neg (by decide : ¬ 25 ≤ 1)]
      cases previous with
      | none => simpa using hrest
      | some before =>
          simp only [Option.any_some, decide_eq_true_eq, Option.toList_some, List.singleton_append,
            List.isChain_cons_cons]
          split_ifs with hfall
          · constructor
            · intro h
              cases checkSales_eq_nil h
            · intro h
              omega
          · rw [hrest]
            simp [not_lt.1 hfall]

/-- In a sorted list of costs whose sales rise from each to the next, sales rise throughout. -/
theorem sale_le_of_sorted {f : ℤ → ℤ} {costs : List ℤ} (hsorted : costs.Pairwise (· ≤ ·))
    (hchain : List.IsChain (· ≤ ·) (costs.map f)) {c₁ c₂ : ℤ} (h₁ : c₁ ∈ costs) (h₂ : c₂ ∈ costs)
    (h : c₁ < c₂) : f c₁ ≤ f c₂ := by
  obtain ⟨i, hi, rfl⟩ := List.mem_iff_getElem.1 h₁
  obtain ⟨j, hj, rfl⟩ := List.mem_iff_getElem.1 h₂
  have hij : i < j := by
    by_contra hge
    rcases (not_lt.1 hge).eq_or_lt with rfl | hlt
    · exact lt_irrefl _ h
    · exact absurd (List.pairwise_iff_getElem.1 hsorted j i hj hi hlt) (not_le.2 h)
  have hpairs := List.pairwise_iff_getElem.1 hchain.pairwise i j (by simpa) (by simpa) hij
  simpa using hpairs

/-- The sale of a cost is above the cost. -/
theorem Published.lt_sale (h : Published (sortBands raw) transitions) (hcost : 1 ≤ cost) :
    cost ≤ h.curve.sale 0 cost := by
  rcases HeldCurve.free_or_holds h.curve cost with hfree | ⟨t, ht, hholds⟩
  · rw [HeldCurve.sale_of_free hfree]
    have hnonneg := bpsUp_nonneg (mul_nonneg (by omega : 0 ≤ cost) (h.markupAt_bounds cost).1)
    show cost ≤ cost + bpsUp (cost * (markupAt (sortBands raw) cost + 0))
    rw [add_zero]
    omega
  · have hlt := h.cost_lt_boundarySale ht hholds
    rw [HeldCurve.sale_of_holds ht hholds]
    simp only [mul_zero, bpsUp]
    omega

/-- **The sampled validation accepts a curve exactly when each transition ends at a price that
is not below the held one.** -/
theorem Published.validates_iff (h : Published (sortBands raw) transitions)
    (options : MonotonicityOptions) :
    (∃ sampled, validateProfitCurveMonotonicity raw options = .ok ([], sampled)) ↔
      h.curve.Exits := by
  have hne : sortBands raw ≠ [] := by
    intro hnil
    obtain ⟨first, hfirst, -⟩ := h.head
    rw [hnil] at hfirst
    cases hfirst
  set ordered := sampledCosts (sortBands raw) transitions options with hordered
  have hpositive : ∀ cost ∈ ordered, 1 ≤ cost := by
    intro cost hcost
    simp only [hordered, sampledCosts, List.mem_insertionSort, List.mem_dedup, List.mem_filter,
      decide_eq_true_eq] at hcost
    omega
  have hsale : ∀ cost ∈ ordered, saleOfCost (sortBands raw) cost = .ok (h.curve.sale 0 cost) ∧
      0 < h.curve.sale 0 cost := by
    intro cost hcost
    have := h.lt_sale (hpositive cost hcost)
    have := hpositive cost hcost
    exact ⟨h.saleOfCost_eq (hpositive cost hcost), by omega⟩
  have hchecks := @checkSales_iff (sortBands raw) (h.curve.sale 0) none ordered hsale
  have hvalidate : (∃ sampled, validateProfitCurveMonotonicity raw options = .ok ([], sampled)) ↔
      checkSales (sortBands raw) [] none ordered = .ok [] := by
    unfold validateProfitCurveMonotonicity deriveProfitCurveTransitions
    simp only [h.sorted, h.derived, throwIf, if_neg hne, bind, Except.bind]
    cases checkSales (sortBands raw) [] none ordered <;> simp [pure, Except.pure]
  have hsorted : ordered.Pairwise (· ≤ ·) := List.pairwise_insertionSort _ _
  rw [hvalidate, hchecks]
  simp only [Option.toList_none, List.nil_append]
  constructor
  · -- the end of a transition and the cost before it are sampled
    intro hchain t ht
    obtain ⟨i, prev, band, -, hprev, -, hbetween⟩ :=
      h.bandAt_of_transition ht le_rfl (h.proper t ht).1.le
    obtain ⟨hlow, hhigh⟩ := (h.fits prev (List.mem_of_getElem? hprev)).margin
    obtain ⟨hone, -⟩ := boundarySale_ge hlow hhigh hbetween.sale
    have hboundary := hbetween.boundary
    have hproper := (h.proper t ht).1
    have hsampled : ∀ cost, cost ∈ [t.boundaryRial, t.boundaryRial - 1, t.boundaryRial + 1,
        t.transitionEndRial, t.transitionEndRial - 1, t.transitionEndRial + 1] → 1 ≤ cost →
        cost ∈ ordered := by
      intro cost hcost hpositive
      simp only [hordered, sampledCosts, List.mem_insertionSort, List.mem_dedup, List.mem_filter,
        criticalCosts, List.mem_append, decide_eq_true_eq]
      exact ⟨.inl (.inl (.inr (List.mem_flatMap.2 ⟨t, ht, hcost⟩))), by omega⟩
    have hlast := hsampled (t.transitionEndRial - 1) (by simp) (by omega)
    have hend := hsampled t.transitionEndRial (by simp) (by omega)
    have hle := sale_le_of_sorted hsorted hchain hlast hend (by omega)
    have hholds : t.holds (t.transitionEndRial - 1) = true :=
      ProfitCurveTransition.holds_eq_true.2 ⟨by omega, by omega⟩
    have hfree : h.curve.Free t.transitionEndRial := HeldCurve.free_end ht
    have ht' : t ∈ h.curve.transitions := ht
    rw [HeldCurve.sale_of_holds ht' hholds, HeldCurve.sale_of_free hfree] at hle
    simpa [bpsUp] using hle
  · intro hexits
    have hmono : ordered.Pairwise fun a b => h.curve.sale 0 a ≤ h.curve.sale 0 b := by
      refine hsorted.imp_of_mem fun ha _ hab => ?_
      rw [HeldCurve.sale_zero, HeldCurve.sale_zero]
      exact HeldCurve.apartSale_mono hexits le_rfl (hpositive _ ha) hab
    exact (List.pairwise_map.2 hmono).isChain

/-- **The publication check is sound for all costs**: on a curve that passes both validations,
every positive cost is resolved, and a higher cost never to a lower sale price. -/
theorem published_sale_mono {config : ProfitCurveConfigInput} {options : MonotonicityOptions}
    {sampled : ℕ} (hstructure : validateProfitCurveStructure config = [])
    (hmonotonic : validateProfitCurveMonotonicity config.bands options = .ok ([], sampled))
    {c₁ c₂ : ℤ} (hc₁ : 1 ≤ c₁) (h : c₁ ≤ c₂) : ∃ resolved₁ resolved₂,
      resolveProfitCurve c₁ config.bands = .ok resolved₁ ∧
      resolveProfitCurve c₂ config.bands = .ok resolved₂ ∧
      resolved₁.infrastructureSaleRial ≤ resolved₂.infrastructureSaleRial := by
  obtain ⟨transitions, hpublished⟩ := published_of_structure hstructure
  have hexits := (hpublished.validates_iff options).1 ⟨sampled, hmonotonic⟩
  obtain ⟨resolved₁, hresolved₁, hsale₁⟩ := hpublished.resolved_sale hc₁
  obtain ⟨resolved₂, hresolved₂, hsale₂⟩ := hpublished.resolved_sale (hc₁.trans h)
  refine ⟨resolved₁, resolved₂, hresolved₁, hresolved₂, ?_⟩
  rw [hsale₁, hsale₂, HeldCurve.sale_zero, HeldCurve.sale_zero]
  exact HeldCurve.apartSale_mono hexits le_rfl hc₁ h

/-! ## The engine -/

/-- What a server is sold with, besides its cost and the curve. -/
structure SaleTerms where
  productMarkupBps : ℤ
  parchinPriceIrr : ℤ
  providerAddons : List ℤ
  taxBps : ℤ
  minimumPostDiscountGrossMarginBps : Option ℤ := none

/-- The price of one month: the curve's markup or held price goes into the engine. -/
def oneMonthPrice (plan : InfrastructurePlan) (config : ProfitCurveConfigInput) (terms : SaleTerms)
    (providerMonthlyCostRial : ℤ) : Except String CommercialPriceBreakdown := do
  let markup ← resolveProviderMarkupForPlan {
    plan
    providerMonthlyCostRial
    providerConfigMarkupBps := 0
    profitCurve := some config }
  computeCommercialPriceBreakdown {
    providerMonthlyPriceIrr := providerMonthlyCostRial
    providerMarkupBps := markup.providerMarkupBps
    productMarkupBps := terms.productMarkupBps
    parchinPriceIrr := terms.parchinPriceIrr
    providerAddons := terms.providerAddons
    taxBps := terms.taxBps
    minimumPostDiscountGrossMarginBps := terms.minimumPostDiscountGrossMarginBps
    infrastructureSaleRialOverride := markup.infrastructureSaleRialOverride }

/-- **On a published curve the price of one month is the taxed sale of the curve.** -/
theorem Published.oneMonthPrice_eq {config : ProfitCurveConfigInput} {plan : InfrastructurePlan}
    (h : Published (sortBands config.bands) transitions) (henabled : config.enabled = true)
    (heligible : isProfitCurveEligiblePlan plan = true) {terms : SaleTerms} (hcost : 1 ≤ cost)
    {price : CommercialPriceBreakdown} (hprice : oneMonthPrice plan config terms cost = .ok price) :
    0 ≤ terms.productMarkupBps ∧ 0 ≤ terms.taxBps ∧
      price.finalPriceRial = taxed (h.curve.sale terms.productMarkupBps cost +
        terms.parchinPriceIrr + terms.providerAddons.sum) terms.taxBps := by
  obtain ⟨resolved, hresolved, hcase⟩ := h.resolveProfitCurve_eq hcost
  have hguard : (config.enabled && isProfitCurveEligiblePlan plan && decide (0 < cost)) = true := by
    simp [henabled, heligible]
    omega
  have happlies : (some config).filter (fun curve => curve.enabled &&
      isProfitCurveEligiblePlan plan && decide (0 < cost)) = some config := by
    simp only [Option.filter_some, hguard, if_true]
  unfold oneMonthPrice resolveProviderMarkupForPlan at hprice
  simp only [Bool.false_eq_true, if_false, happlies, hresolved, bind, Except.bind, pure,
    Except.pure] at hprice
  obtain ⟨haccepted, -⟩ := compute_spec hprice
  refine ⟨haccepted.productMarkup, haccepted.tax.1, ?_⟩
  rw [finalPriceRial_eq hprice rfl rfl]
  unfold CommercialPricingInput.pretaxIrr CommercialPricingInput.markupIrr
  rcases hcase with ⟨t, ht, hholds, htransition, hsale, -⟩ | ⟨hfree, htransition, hmarkup, -⟩
  · have hheld : h.curve.sale terms.productMarkupBps cost =
        t.boundarySaleRial + bpsUp (cost * terms.productMarkupBps) := HeldCurve.sale_of_holds ht hholds
    simp only [htransition, if_true, hsale, hheld]
    congr 1
    ring
  · have hsale : h.curve.sale terms.productMarkupBps cost = cost + bpsUp (cost *
        (markupAt (sortBands config.bands) cost + terms.productMarkupBps)) :=
      HeldCurve.sale_of_free hfree
    simp only [htransition, Bool.false_eq_true, if_false, hmarkup, hsale]

/-! ## Dearer hardware -/

/-- `c₂` ends a transition of the curve that holds `c₁`, where the next margin asks for exactly
the held price; rounding the provider's and the product's markup up together loses a rial at
`c₂`, and the product's markup alone asks for as much at `c₁` as at `c₂`. -/
def LosesRial (bands : List ProfitCurveBandInput) (productMarkupBps c₁ c₂ : ℤ) : Prop :=
  ∃ transitions, deriveProfitCurveTransitions bands = .ok transitions ∧
    ∃ t ∈ transitions, t.holds c₁ = true ∧ c₂ = t.transitionEndRial ∧
      c₂ + bpsUp (c₂ * markupOf t.nextMarginBps) = t.boundarySaleRial ∧
      bpsUp (c₂ * (markupOf t.nextMarginBps + productMarkupBps)) <
        bpsUp (c₂ * markupOf t.nextMarginBps) + bpsUp (c₂ * productMarkupBps) ∧
      bpsUp (c₁ * productMarkupBps) = bpsUp (c₂ * productMarkupBps)

theorem Published.losesRial_iff (h : Published (sortBands raw) transitions) {p c₁ c₂ : ℤ} :
    LosesRial raw p c₁ c₂ ↔ h.curve.LosesRial p c₁ c₂ := by
  have hderived : deriveProfitCurveTransitions raw = .ok transitions := h.derived
  have hmarkup : ∀ t ∈ transitions,
      markupAt (sortBands raw) t.transitionEndRial = markupOf t.nextMarginBps := by
    intro t ht
    obtain ⟨i, prev, band, -, -, hband, hbetween⟩ :=
      h.bandAt_of_transition ht (h.proper t ht).1.le le_rfl
    rw [h.markupAt_eq hband, hbetween.margins.2]
  constructor
  · rintro ⟨_, hderived', t, ht, hholds, rfl, hmet, hlost, hsame⟩
    obtain rfl := Except.ok.inj (hderived.symm.trans hderived')
    rw [← hmarkup t ht] at hmet hlost
    exact ⟨t, ht, hholds, rfl, hmet, hlost, hsame⟩
  · rintro ⟨t, ht, hholds, rfl, hmet, hlost, hsame⟩
    have hat := hmarkup t ht
    refine ⟨transitions, hderived, t, ht, hholds, rfl, ?_, ?_, hsame⟩
    · rw [← hat]
      exact hmet
    · rw [← hat]
      exact hlost

/-- **Dearer hardware sells for at least as much exactly where no rial is lost at the end of a
transition.** -/
theorem dearer_sells_dearer_iff {config : ProfitCurveConfigInput} {options : MonotonicityOptions}
    {sampled : ℕ} (hstructure : validateProfitCurveStructure config = [])
    (hmonotonic : validateProfitCurveMonotonicity config.bands options = .ok ([], sampled))
    {plan : InfrastructurePlan} (henabled : config.enabled = true)
    (heligible : isProfitCurveEligiblePlan plan = true) (terms : SaleTerms) {c₁ c₂ : ℤ}
    (hc₁ : 1 ≤ c₁) (h : c₁ ≤ c₂) {price₁ price₂ : CommercialPriceBreakdown}
    (hprice₁ : oneMonthPrice plan config terms c₁ = .ok price₁)
    (hprice₂ : oneMonthPrice plan config terms c₂ = .ok price₂) :
    price₁.finalPriceRial ≤ price₂.finalPriceRial ↔
      ¬ LosesRial config.bands terms.productMarkupBps c₁ c₂ := by
  obtain ⟨transitions, hpublished⟩ := published_of_structure hstructure
  have hexits := (hpublished.validates_iff options).1 ⟨sampled, hmonotonic⟩
  obtain ⟨hproduct, htax, hfinal₁⟩ :=
    hpublished.oneMonthPrice_eq henabled heligible hc₁ hprice₁
  obtain ⟨-, -, hfinal₂⟩ :=
    hpublished.oneMonthPrice_eq henabled heligible (hc₁.trans h) hprice₂
  rw [hpublished.losesRial_iff, ← HeldCurve.sale_le_iff hexits hproduct hc₁ h, hfinal₁, hfinal₂,
    taxed_le_iff htax]
  omega

/-! ## A price that falls -/

/-- A curve that falls from half to a fifth at 50000016 rials. -/
def steepCurve : ProfitCurveConfigInput where
  enabled := true
  minimumPostDiscountGrossMarginBps := 2000
  bands := [
    ⟨some "first", 0, 0, some 50000016, 5000⟩,
    ⟨some "second", 1, 50000016, some 100000000, 2000⟩,
    ⟨some "third", 2, 100000000, some 150000000, 2000⟩,
    ⟨some "fourth", 3, 150000000, some 250000000, 2000⟩,
    ⟨some "fifth", 4, 250000000, none, 2000⟩]

/-- A server from the provider's catalog. -/
def catalogPlan : InfrastructurePlan where
  id := "plan"
  active := true
  mapped := true
  catalogItem := none
  offerSource := .apiCatalog
  provider := .arvan
  providerApiVersion := "v1"
  productKind := .cloudServer
  regionCode := "region"
  sizeCode := "size"
  imageCode := "image"
  offerLastVerifiedAt := none
  offerPriceValidUntil := none
  minimumParchinLevel := none
  parchinIncluded := false
  deliveryMode := .raw
  skuMarkupBasisPoints := some 1000

/-- A product markup of a tenth, and taxes of a tenth. -/
def plainTerms : SaleTerms where
  productMarkupBps := 1000
  parchinPriceIrr := 0
  providerAddons := []
  taxBps := 1000

theorem steepCurve_structure : validateProfitCurveStructure steepCurve = [] := by decide +kernel

theorem steepCurve_published : ∃ transitions,
    Published (sortBands steepCurve.bands) transitions :=
  published_of_structure steepCurve_structure

/-- The sampled validation accepts the curve. -/
theorem steepCurve_validates :
    ∃ sampled, validateProfitCurveMonotonicity steepCurve.bands {} = .ok ([], sampled) := by
  obtain ⟨transitions, hpublished⟩ := steepCurve_published
  have hderived : transitionsFrom 0 (sortBands steepCurve.bands) =
      .ok [⟨1, 50000016, 5000, 2000, 100000032, 80000025⟩] := by decide +kernel
  obtain rfl := Except.ok.inj (hpublished.derived.symm.trans hderived)
  refine (hpublished.validates_iff {}).2 fun t ht => ?_
  rw [List.mem_singleton.1 ht]
  show (100000032 : ℤ) ≤ 80000025 + bpsUp (80000025 * markupAt (sortBands steepCurve.bands) 80000025)
  decide +kernel

theorem published_sale_mono_steep : ∃ resolved₁ resolved₂,
    resolveProfitCurve 80000024 steepCurve.bands = .ok resolved₁ ∧
    resolveProfitCurve 80000025 steepCurve.bands = .ok resolved₂ ∧
    resolved₁.infrastructureSaleRial ≤ resolved₂.infrastructureSaleRial := by
  obtain ⟨sampled, hvalid⟩ := steepCurve_validates
  exact published_sale_mono steepCurve_structure hvalid (by decide) (by decide)

/-- The price of a month for a cost on that curve. -/
def steepPrice (cost : ℤ) : Option ℤ :=
  ((oneMonthPrice catalogPlan steepCurve plainTerms cost).map
    CommercialPriceBreakdown.finalPriceRial).toOption

theorem exists_of_steepPrice {final : ℤ} (h : steepPrice cost = some final) :
    ∃ price, oneMonthPrice catalogPlan steepCurve plainTerms cost = .ok price ∧
      price.finalPriceRial = final := by
  unfold steepPrice at h
  cases hprice : oneMonthPrice catalogPlan steepCurve plainTerms cost with
  | error e =>
      rw [hprice] at h
      cases h
  | ok price =>
      rw [hprice] at h
      exact ⟨price, rfl, Option.some.inj h⟩

/-- A server that costs one rial more is sold for one rial less. -/
theorem not_dearer_sells_dearer : ¬ ∀ (config : ProfitCurveConfigInput)
    (options : MonotonicityOptions) (sampled : ℕ) (plan : InfrastructurePlan) (terms : SaleTerms)
    (c₁ c₂ : ℤ) (price₁ price₂ : CommercialPriceBreakdown),
    validateProfitCurveStructure config = [] →
    validateProfitCurveMonotonicity config.bands options = .ok ([], sampled) →
    config.enabled = true → isProfitCurveEligiblePlan plan = true → 1 ≤ c₁ → c₁ ≤ c₂ →
    oneMonthPrice plan config terms c₁ = .ok price₁ →
    oneMonthPrice plan config terms c₂ = .ok price₂ →
    price₁.finalPriceRial ≤ price₂.finalPriceRial := by
  intro hall
  obtain ⟨sampled, hvalid⟩ := steepCurve_validates
  have hcheaper : steepPrice 80000024 = some 118800039 := by decide +kernel
  have hdearer : steepPrice 80000025 = some 118800038 := by decide +kernel
  obtain ⟨price₁, hprice₁, hfinal₁⟩ := exists_of_steepPrice hcheaper
  obtain ⟨price₂, hprice₂, hfinal₂⟩ := exists_of_steepPrice hdearer
  have hle := hall steepCurve {} sampled catalogPlan plainTerms 80000024 80000025 price₁ price₂
    steepCurve_structure hvalid rfl rfl (by decide) (by decide) hprice₁ hprice₂
  omega

theorem dearer_sells_dearer_iff_steep : ∃ price₁ price₂,
    oneMonthPrice catalogPlan steepCurve plainTerms 80000024 = .ok price₁ ∧
    oneMonthPrice catalogPlan steepCurve plainTerms 80000025 = .ok price₂ ∧
    (price₁.finalPriceRial ≤ price₂.finalPriceRial ↔
      ¬ LosesRial steepCurve.bands 1000 80000024 80000025) := by
  obtain ⟨sampled, hvalid⟩ := steepCurve_validates
  have hcheaper : steepPrice 80000024 = some 118800039 := by decide +kernel
  have hdearer : steepPrice 80000025 = some 118800038 := by decide +kernel
  obtain ⟨price₁, hprice₁, -⟩ := exists_of_steepPrice hcheaper
  obtain ⟨price₂, hprice₂, -⟩ := exists_of_steepPrice hdearer
  exact ⟨price₁, price₂, hprice₁, hprice₂, dearer_sells_dearer_iff steepCurve_structure hvalid rfl
    rfl plainTerms (by decide) (by decide) hprice₁ hprice₂⟩

end AbrChin.Pricing
