import AbrChin.Pricing.Breakdown
import AbrChin.Pricing.Dearer

/-!
# The resolver on a published curve, and the end of a transition

`lib/pricing/profit-curve.ts`, `resolveProfitCurve` and `computeTransitionEndRial`.

* On a published curve the resolver returns: inside a transition the cost is below the held price,
  which is at most four times the boundary, so the markup is at most 30000 basis points; outside, it
  is that of the band.  The held price goes to the engine as an override, and the engine charges
  exactly that (`resolver_never_fails`).
* A transition should end where the next margin asks for the held price again.  Its end is estimated
  by division and then nudged up, a rial at a time and at most 64 times.  The two markups are rounded
  to basis points, which moves both prices in proportion to the boundary: for a large boundary 64
  rials do not make up for it, and the price drops at the end of the transition
  (`transition_end_reaches_iff`).
-/

namespace AbrChin.Pricing

open Lib

/-! ## Prices of margins -/

/-- The sale price of a cost at a margin that bands may have. -/
def saleAt (cost marginBps : ℤ) : ℤ := cost + bpsUp (cost * markupOf marginBps)

variable {marginBps : ℤ}

theorem markupOf_le (hhigh : marginBps ≤ 7500) : markupOf marginBps ≤ 30000 := by
  have hlt : (2 * (marginBps * 10000) + (10000 - marginBps)) / (2 * (10000 - marginBps)) < 30001 :=
    Int.ediv_lt_of_lt_mul (by omega) (by omega)
  unfold markupOf
  omega

theorem markupOf_pos (hlow : 1000 ≤ marginBps) (hhigh : marginBps ≤ 7500) :
    0 < markupOf marginBps := by
  have hle : 1 ≤ (2 * (marginBps * 10000) + (10000 - marginBps)) / (2 * (10000 - marginBps)) :=
    Int.le_ediv_of_mul_le (by omega) (by omega)
  unfold markupOf
  omega

theorem bpsUp_pos {x : ℤ} (h : 0 < x) : 0 < bpsUp x := by
  unfold bpsUp
  omega

variable {cost : ℤ}

theorem lt_saleAt (hcost : 1 ≤ cost) (hlow : 1000 ≤ marginBps) (hhigh : marginBps ≤ 7500) :
    cost < saleAt cost marginBps := by
  have := bpsUp_pos (mul_pos (by omega : 0 < cost) (markupOf_pos hlow hhigh))
  unfold saleAt
  omega

theorem saleAt_mono {cost' : ℤ} (hlow : 1000 ≤ marginBps) (hhigh : marginBps ≤ 7500)
    (h : cost ≤ cost') : saleAt cost marginBps ≤ saleAt cost' marginBps := by
  have := bpsUp_mono (mul_le_mul_of_nonneg_right h (markupOf_pos hlow hhigh).le)
  unfold saleAt
  omega

/-- A markup of at most 30000 basis points charges the cost four times at most. -/
theorem saleAt_le (hcost : 0 ≤ cost) (hhigh : marginBps ≤ 7500) :
    saleAt cost marginBps ≤ 4 * cost := by
  have hmarkup := bpsUp_mono (mul_le_mul_of_nonneg_left (markupOf_le hhigh) hcost)
  unfold saleAt
  unfold bpsUp at hmarkup ⊢
  omega

theorem infrastructureSaleFromMargin_eq (hcost : 1 ≤ cost) (hlow : 1000 ≤ marginBps)
    (hhigh : marginBps ≤ 7500) :
    infrastructureSaleFromMargin cost marginBps = .ok (saleAt cost marginBps) := by
  obtain ⟨hnonneg, hmax⟩ := markupOf_bounds hlow hhigh
  unfold infrastructureSaleFromMargin
  rw [if_neg (by omega), if_neg (by omega), grossMarginBpsToMarkupBps_eq hlow hhigh]
  simp only [bind, Except.bind, multiplyBpsRoundUp_eq (by omega : 0 ≤ cost) hnonneg hmax]
  rfl

/-- The price that is held from a boundary on. -/
def heldSale (boundary previousMarginBps : ℤ) : ℤ :=
  max (boundary * 10000 / (10000 - previousMarginBps)) (saleAt boundary previousMarginBps)

/-- The engine's price just before the boundary is no higher than that at it. -/
theorem computeBoundarySaleRial_eq {boundary : ℤ} (hboundary : 1 ≤ boundary)
    (hlow : 1000 ≤ marginBps) (hhigh : marginBps ≤ 7500) :
    computeBoundarySaleRial boundary marginBps = .ok (heldSale boundary marginBps) := by
  have hguard : ¬ boundary ≤ 0 := by omega
  have hguard' : ¬ 10000 - marginBps ≤ 0 := by omega
  have hfloor : boundarySaleFloor boundary marginBps =
      .ok (boundary * 10000 / (10000 - marginBps)) := by
    have hdiv : (boundary * bpsDenominator).tdiv (10000 - marginBps) =
        boundary * 10000 / (10000 - marginBps) :=
      Int.tdiv_eq_ediv_of_nonneg (mul_nonneg (by omega) (by decide))
    unfold boundarySaleFloor
    simp only [throwIf, if_neg hguard, if_neg hguard', bind, Except.bind, pure, Except.pure, hdiv]
  unfold computeBoundarySaleRial
  simp only [hfloor, infrastructureSaleFromMargin_eq hboundary hlow hhigh, bind, Except.bind]
  by_cases hone : 1 < boundary
  · have hbefore := saleAt_mono hlow hhigh (by omega : boundary - 1 ≤ boundary)
    rw [if_pos hone, infrastructureSaleFromMargin_eq (by omega) hlow hhigh]
    exact congrArg Except.ok (max_eq_left (hbefore.trans (le_max_right _ _)))
  · have hpositive := lt_saleAt hboundary hlow hhigh
    rw [if_neg hone]
    exact congrArg Except.ok (max_eq_left (le_max_of_le_right (by omega)))

theorem heldSale_le {boundary : ℤ} (hboundary : 0 ≤ boundary) (hhigh : marginBps ≤ 7500) :
    heldSale boundary marginBps ≤ 4 * boundary := by
  refine max_le ?_ (saleAt_le hboundary hhigh)
  refine Int.ediv_le_of_le_mul (by omega) ?_
  have hkeep : 2500 ≤ 10000 - marginBps := by omega
  calc boundary * 10000 = 4 * boundary * 2500 := by ring
    _ ≤ 4 * boundary * (10000 - marginBps) := mul_le_mul_of_nonneg_left hkeep (by omega)

/-! ## The resolver -/

section Resolver

variable {raw : List ProfitCurveBandInput} {transitions : List ProfitCurveTransition}

/-- The transitions are in the order of their bands. -/
theorem transitionsFrom_ascending {index : ℕ} {bands : List ProfitCurveBandInput}
    (h : transitionsFrom index bands = .ok transitions) :
    (∀ t ∈ transitions, index < t.bandIndex) ∧
      transitions.Pairwise fun first second => first.bandIndex < second.bandIndex := by
  induction bands generalizing index transitions with
  | nil =>
      cases h
      exact ⟨fun _ ht => absurd ht List.not_mem_nil, List.Pairwise.nil⟩
  | cons prev rest ih =>
      cases rest with
      | nil =>
          cases h
          exact ⟨fun _ ht => absurd ht List.not_mem_nil, List.Pairwise.nil⟩
      | cons next rest =>
          simp only [transitionsFrom, bind_eq_ok, throwIf_eq_ok] at h
          obtain ⟨_, -, h⟩ := h
          split_ifs at h with hequal
          · obtain ⟨hlater, hpairs⟩ := ih h
            exact ⟨fun t ht => (Nat.lt_succ_self index).trans (hlater t ht), hpairs⟩
          · simp only [bind_eq_ok, pure, Except.pure, Except.ok.injEq] at h
            obtain ⟨boundarySale, -, transitionEnd, -, later, hderived, rfl⟩ := h
            obtain ⟨hlater, hpairs⟩ := ih hderived
            refine ⟨fun t ht => ?_, List.pairwise_cons.2 ⟨hlater, hpairs⟩⟩
            rcases List.mem_cons.1 ht with rfl | ht
            · exact Nat.lt_succ_self index
            · exact (Nat.lt_succ_self index).trans (hlater t ht)

/-- **At most one transition covers a cost.** -/
theorem Published.length_covering (h : Published (sortBands raw) transitions) (cost : ℤ) :
    (transitions.filter (·.holds cost)).length ≤ 1 := by
  have hpairs := (transitionsFrom_ascending h.derived).2
  have hfilter := hpairs.sublist (List.filter_sublist (p := fun t => t.holds cost))
  have hsame : ∀ t ∈ transitions.filter (·.holds cost), ∀ other ∈ transitions.filter (·.holds cost),
      other = t := by
    intro t ht other hother
    obtain ⟨ht, hholds⟩ := List.mem_filter.1 ht
    obtain ⟨hother, hholds'⟩ := List.mem_filter.1 hother
    obtain ⟨hfrom, hto⟩ := ProfitCurveTransition.holds_eq_true.1 hholds
    exact h.curve.apart t ht other hother cost hfrom hto.le hholds'
  match hcovering : transitions.filter (·.holds cost) with
  | [] =>
      rw [hcovering]
      exact Nat.zero_le 1
  | [_] =>
      rw [hcovering]
      exact le_rfl
  | first :: second :: rest =>
      rw [hcovering] at hfilter hsame
      have heq := hsame first List.mem_cons_self second (List.mem_cons_of_mem _ List.mem_cons_self)
      have hlt := (List.pairwise_cons.1 hfilter).1 second List.mem_cons_self
      rw [heq] at hlt
      exact absurd hlt (lt_irrefl _)

/-- The held price of a transition that covers a cost is at most four times the cost. -/
theorem Published.boundarySale_le (h : Published (sortBands raw) transitions)
    {t : ProfitCurveTransition} (ht : t ∈ transitions) (hholds : t.holds cost = true) :
    t.boundarySaleRial ≤ 4 * cost := by
  obtain ⟨hfrom, hto⟩ := ProfitCurveTransition.holds_eq_true.1 hholds
  obtain ⟨i, prev, band, -, hprev, hband, hbetween⟩ := h.bandAt_of_transition ht hfrom hto.le
  obtain ⟨hlow, hhigh⟩ := (h.fits prev (List.mem_of_getElem? hprev)).margin
  have hboundary := hbetween.boundary
  obtain ⟨hone, -⟩ := boundarySale_ge hlow hhigh hbetween.sale
  have hsale := hbetween.sale
  rw [computeBoundarySaleRial_eq hone hlow hhigh] at hsale
  have hheld := Except.ok.inj hsale
  have hle := heldSale_le (by omega : 0 ≤ band.minProviderCostRial) hhigh
  omega

/-- The markup that raises a cost to a price of at most four times the cost. -/
theorem markup_of_held {sale : ℤ} (hcost : 1 ≤ cost) (hlt : cost < sale) (hle : sale ≤ 4 * cost) :
    0 ≤ ((sale - cost) * bpsDenominator + cost - 1).tdiv cost ∧
      ((sale - cost) * bpsDenominator + cost - 1).tdiv cost ≤ 100000 := by
  unfold bpsDenominator
  rw [Int.tdiv_eq_ediv_of_nonneg (by omega)]
  refine ⟨Int.ediv_nonneg (by omega) (by omega), ?_⟩
  have hlt' : ((sale - cost) * 10000 + cost - 1) / cost < 30001 :=
    Int.ediv_lt_of_lt_mul (by omega) (by omega)
  omega

/-- What the engine makes of a held price, for every input that it accepts without it. -/
structure Reproduces (cost sale markupBps : ℤ) : Prop where
  /-- The provider's cost and its markup are the held price, month by month. -/
  held : ∀ (input : CommercialPricingInput) (base : CommercialPriceBreakdown),
    input.providerMonthlyPriceIrr = cost →
    computeCommercialPriceBreakdown { input with infrastructureSaleRialOverride := none } =
      .ok base →
    ∃ price, computeCommercialPriceBreakdown
        { input with infrastructureSaleRialOverride := some sale } = .ok price ∧
      price.providerCostRial + price.providerMarkupRial = sale * input.months
  /-- A month of nothing else costs the held price. -/
  plain : ∃ price, computeCommercialPriceBreakdown {
      providerMonthlyPriceIrr := cost
      providerMarkupBps := markupBps
      productMarkupBps := 0
      parchinPriceIrr := 0
      taxBps := 0
      infrastructureSaleRialOverride := some sale } = .ok price ∧ price.finalPriceRial = sale

theorem reproduces {sale markupBps : ℤ} (hcost : 1 ≤ cost) (hlt : cost < sale)
    (hlow : 0 ≤ markupBps) (hhigh : markupBps ≤ 100000) : Reproduces cost sale markupBps := by
  constructor
  · intro input base hprovider hbase
    have haccepted := (compute_spec hbase).1
    have hheld : CommercialPricingInput.Accepted
        { input with infrastructureSaleRialOverride := some sale } := by
      refine ⟨haccepted.provider, haccepted.parchin, haccepted.providerMarkup,
        haccepted.productMarkup, haccepted.markup, haccepted.tax, haccepted.term, ?_,
        haccepted.addons, haccepted.coupon, haccepted.minimum⟩
      rintro _ ⟨⟩
      exact hprovider.trans_lt hlt
    obtain ⟨price, hprice⟩ := compute_isOk_iff.2 hheld
    refine ⟨price, hprice, ?_⟩
    obtain ⟨markup, discount, hmarkup, -, hsold⟩ := soldFor_of_compute hprice
    obtain ⟨_, -, hmarkup⟩ := bind_eq_ok.1 hmarkup
    obtain ⟨product, -, hmarkup⟩ := bind_eq_ok.1 hmarkup
    cases hmarkup
    rw [hsold.providerCost, hsold.providerMarkup, ← add_mul]
    exact congrArg (· * input.months) (by dsimp only; omega)
  · have haccepted : CommercialPricingInput.Accepted {
        providerMonthlyPriceIrr := cost
        providerMarkupBps := markupBps
        productMarkupBps := 0
        parchinPriceIrr := 0
        taxBps := 0
        infrastructureSaleRialOverride := some sale } := by
      refine ⟨by dsimp only; omega, le_rfl, hlow, le_rfl, by dsimp only; omega,
        ⟨le_rfl, by dsimp only; omega⟩, rfl, ?_, rfl, nofun, nofun⟩
      rintro _ ⟨⟩
      exact hlt
    obtain ⟨price, hprice⟩ := compute_isOk_iff.2 haccepted
    refine ⟨price, hprice, ?_⟩
    rw [finalPriceRial_eq hprice rfl rfl]
    simp [taxed, bpsUp, CommercialPricingInput.pretaxIrr, CommercialPricingInput.markupIrr]

/-- What the resolver returns for a cost. -/
structure Resolves (bands : List ProfitCurveBandInput) (cost : ℤ)
    (resolved : ProfitCurveResolution) : Prop where
  returns : resolveProfitCurve cost bands = .ok resolved
  above : cost < resolved.infrastructureSaleRial
  markup : 0 ≤ resolved.effectiveMarkupBps ∧ resolved.effectiveMarkupBps ≤ 100000
  once : ∃ transitions, deriveProfitCurveTransitions bands = .ok transitions ∧
    (transitions.filter (·.holds cost)).length ≤ 1
  held : resolved.transition = true →
    Reproduces cost resolved.infrastructureSaleRial resolved.effectiveMarkupBps

/-- **The resolver never fails on a curve without structural issues.** -/
theorem resolver_never_fails {config : ProfitCurveConfigInput}
    (hstructure : validateProfitCurveStructure config = []) {cost : ℤ} (hcost : 1 ≤ cost) :
    ∃ resolved, Resolves config.bands cost resolved := by
  obtain ⟨transitions, hpublished⟩ := published_of_structure hstructure
  obtain ⟨resolved, hresolved, hcase⟩ := hpublished.resolveProfitCurve_eq hcost
  have honce : ∃ transitions, deriveProfitCurveTransitions config.bands = .ok transitions ∧
      (transitions.filter (·.holds cost)).length ≤ 1 :=
    ⟨transitions, hpublished.derived, hpublished.length_covering cost⟩
  rcases hcase with ⟨t, ht, hholds, htransition, hsale, hmarkup⟩ |
    ⟨hfree, htransition, hmarkup, hsale⟩
  · have hlt := hpublished.cost_lt_boundarySale ht hholds
    have hbounds := markup_of_held hcost hlt (hpublished.boundarySale_le ht hholds)
    rw [← hmarkup] at hbounds
    refine ⟨resolved, hresolved, hsale ▸ hlt, hbounds, honce, fun _ => ?_⟩
    rw [hsale]
    exact reproduces hcost hlt hbounds.1 hbounds.2
  · refine ⟨resolved, hresolved, ?_, hmarkup ▸ hpublished.markupAt_bounds cost, honce, ?_⟩
    · obtain ⟨band, hband⟩ := hpublished.exists_band (by omega : 0 ≤ cost)
      obtain ⟨hlow, hhigh⟩ := (hpublished.fits band (List.mem_of_getElem? hband.1)).margin
      rw [hsale, hpublished.markupAt_eq hband]
      exact lt_saleAt hcost hlow hhigh
    · intro hheld
      rw [htransition] at hheld
      cases hheld

theorem resolver_never_fails_steep :
    (resolveProfitCurve 60000000 steepCurve.bands).toOption.map
      (fun resolved => (resolved.transition, resolved.infrastructureSaleRial)) =
        some (true, 100000032) ∧
    ∃ resolved, Resolves steepCurve.bands 60000000 resolved :=
  ⟨by decide +kernel, resolver_never_fails steepCurve_structure (by decide)⟩

end Resolver

/-! ## The end of a transition -/

section TransitionEnd

variable {boundary previousMarginBps nextMarginBps : ℤ}

/-- The end that is estimated by division, before it is nudged up. -/
def geometricEnd (boundary previousMarginBps nextMarginBps : ℤ) : ℤ :=
  boundary * (10000 - nextMarginBps) / (10000 - previousMarginBps)

theorem boundary_le_geometricEnd (hboundary : 0 ≤ boundary)
    (hfalls : nextMarginBps ≤ previousMarginBps) (hhigh : previousMarginBps ≤ 7500) :
    boundary ≤ geometricEnd boundary previousMarginBps nextMarginBps :=
  Int.le_ediv_of_mul_le (by omega) (mul_le_mul_of_nonneg_left (by omega) hboundary)

/-- The steps of the loop reach a price exactly when the last of them does. -/
theorem nudgeTransitionEnd_reaches (hlow : 1000 ≤ nextMarginBps) (hhigh : nextMarginBps ≤ 7500)
    (sale : ℤ) (guard : ℕ) {start : ℤ} (hstart : 1 ≤ start) :
    ∃ stop, nudgeTransitionEnd nextMarginBps sale guard start = .ok stop ∧ start ≤ stop ∧
      (sale ≤ saleAt stop nextMarginBps ↔ sale ≤ saleAt (start + guard) nextMarginBps) := by
  induction guard generalizing start with
  | zero => exact ⟨start, rfl, le_rfl, by simp⟩
  | succ guard ih =>
      unfold nudgeTransitionEnd
      simp only [infrastructureSaleFromMargin_eq hstart hlow hhigh, bind, Except.bind]
      by_cases hreached : sale ≤ saleAt start nextMarginBps
      · rw [if_pos hreached]
        refine ⟨start, rfl, le_rfl, iff_of_true hreached ?_⟩
        exact hreached.trans (saleAt_mono hlow hhigh (by omega))
      · rw [if_neg hreached]
        obtain ⟨stop, hstop, hle, hiff⟩ := ih (by omega : 1 ≤ start + 1)
        refine ⟨stop, hstop, by omega, hiff.trans ?_⟩
        rw [Nat.cast_succ, add_assoc, add_comm (1 : ℤ)]

/-- The sixty-four rials of the loop make up for the rounding of the two markups. -/
def GuardSuffices (boundary previousMarginBps nextMarginBps : ℤ) : Prop :=
  heldSale boundary previousMarginBps ≤
    saleAt (geometricEnd boundary previousMarginBps nextMarginBps + 64) nextMarginBps

instance (boundary previousMarginBps nextMarginBps : ℤ) :
    Decidable (GuardSuffices boundary previousMarginBps nextMarginBps) :=
  inferInstanceAs (Decidable (_ ≤ _))

/-- At the end of the transition, the next margin asks for the held price. -/
def EndReaches (boundary previousMarginBps nextMarginBps : ℤ) : Prop :=
  ∃ held stop sale, computeBoundarySaleRial boundary previousMarginBps = .ok held ∧
    computeTransitionEndRial boundary previousMarginBps nextMarginBps held = .ok stop ∧
    infrastructureSaleFromMargin stop nextMarginBps = .ok sale ∧ held ≤ sale

/-- **A transition reaches its held price exactly when the guard of its loop suffices.** -/
theorem transition_end_reaches_iff (hboundary : 1 ≤ boundary) (hlow : 1000 ≤ nextMarginBps)
    (hfalls : nextMarginBps < previousMarginBps) (hhigh : previousMarginBps ≤ 7500) :
    EndReaches boundary previousMarginBps nextMarginBps ↔
      GuardSuffices boundary previousMarginBps nextMarginBps := by
  have hheld := computeBoundarySaleRial_eq hboundary (by omega : 1000 ≤ previousMarginBps) hhigh
  have hstart := boundary_le_geometricEnd (by omega : 0 ≤ boundary) hfalls.le hhigh
  obtain ⟨stop, hnudged, hstop, hreaches⟩ := nudgeTransitionEnd_reaches hlow (by omega)
    (heldSale boundary previousMarginBps) 64 (hboundary.trans hstart)
  have hend : computeTransitionEndRial boundary previousMarginBps nextMarginBps
      (heldSale boundary previousMarginBps) = .ok stop := by
    have hguard : ¬ previousMarginBps < nextMarginBps := by omega
    have hgeometric : (boundary * (10000 - nextMarginBps)).tdiv (10000 - previousMarginBps) =
        geometricEnd boundary previousMarginBps nextMarginBps :=
      Int.tdiv_eq_ediv_of_nonneg (mul_nonneg (by omega) (by omega))
    unfold computeTransitionEndRial
    simp only [throwIf, if_neg hguard, if_neg hfalls.ne, bind, Except.bind, hgeometric,
      max_eq_left hstart]
    exact hnudged
  have hsale := infrastructureSaleFromMargin_eq (hboundary.trans (hstart.trans hstop)) hlow
    (by omega : nextMarginBps ≤ 7500)
  constructor
  · rintro ⟨held, end', sale, hheld', hend', hsale', hle⟩
    rw [hheld] at hheld'
    cases hheld'
    rw [hend] at hend'
    cases hend'
    rw [hsale] at hsale'
    cases hsale'
    exact hreaches.1 hle
  · intro hsuffices
    exact ⟨_, stop, _, hheld, hend, hsale, hreaches.2 hsuffices⟩

theorem transition_end_reaches_iff_sample : GuardSuffices 50000000 7000 6000 ∧
    (EndReaches 50000000 7000 6000 ↔ GuardSuffices 50000000 7000 6000) :=
  ⟨by decide +kernel, transition_end_reaches_iff (by decide) (by decide) (by decide) (by decide)⟩

/-- **At five million tomans, from 70 to 65 percent, the price drops** by 2317 rials where the
transition ends. -/
theorem transition_end_falls_short : ¬ ∀ boundary previousMarginBps nextMarginBps : ℤ,
    1 ≤ boundary → 1000 ≤ nextMarginBps → nextMarginBps < previousMarginBps →
    previousMarginBps ≤ 7500 → EndReaches boundary previousMarginBps nextMarginBps := by
  intro hclaim
  obtain ⟨held, stop, sale, hheld, hstop, hsale, hle⟩ :=
    hclaim 50000000 7000 6500 (by decide) (by decide) (by decide) (by decide)
  have hheld' : computeBoundarySaleRial 50000000 7000 = .ok 166666666 := by decide +kernel
  rw [hheld'] at hheld
  cases hheld
  have hstop' : computeTransitionEndRial 50000000 7000 6500 166666666 = .ok 58333397 := by
    decide +kernel
  rw [hstop'] at hstop
  cases hstop
  have hsale' : infrastructureSaleFromMargin 58333397 6500 = .ok 166664349 := by decide +kernel
  rw [hsale'] at hsale
  cases hsale
  exact absurd hle (by decide)

end TransitionEnd

end AbrChin.Pricing
