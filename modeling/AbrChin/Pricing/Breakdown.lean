import AbrChin.Pricing.MonthlyPrice
import Mathlib.Algebra.Order.Field.Basic

/-!
# Where the rials of a price go

`computeCommercialPriceBreakdown` returns a price with its parts and its line items.

* Conservation: the markup is rounded up in one of two ways, is multiplied by the term after that,
  and the discount is taken from the sum before the tax is.  The parts add up in each case, and so do
  the line items (`every_rial_accounted`).
* The floor: a discount is cut down to what leaves the provider's cost its margin.  The floor is
  rounded up once for a month and multiplied by the term, which keeps the exact margin over the term
  (`margin_le_revenue`), and the discount is the largest that respects it (`isGreatest_discount`).
* A larger coupon asks for a larger discount, is cut down to the same maximum, and so never raises
  the price (`finalPriceRial_anti`).  A negative number is no coupon: the term's own discount applies.
-/

namespace AbrChin.Pricing

open Lib

/-! ## The parts of a price -/

namespace CommercialPricingInput

variable (input : CommercialPricingInput)

def months : ℤ := ((input.termMonths.getD 1 : ℕ) : ℤ)

/-- The price of the term before its discount and its tax. -/
def subtotalIrr : ℤ := input.pretaxIrr * input.months

/-- The largest discount of the term. -/
def maximumDiscountIrr : ℤ :=
  maximumAllowedDiscount input.minimumPostDiscountGrossMarginBps input.providerMonthlyPriceIrr
    input.months (input.parchinPriceIrr * input.months) (input.providerAddons.sum * input.months)
    input.subtotalIrr

end CommercialPricingInput

/-- What the engine returns, for a monthly markup and a discount. -/
structure SoldFor (input : CommercialPricingInput) (price : CommercialPriceBreakdown)
    (markup : ℤ × ℤ) (discount : ℤ × DiscountSource) : Prop where
  providerCost : price.providerCostRial = input.providerMonthlyPriceIrr * input.months
  providerMarkup : price.providerMarkupRial = markup.1 * input.months
  productMarkup : price.productMarkupRial = markup.2 * input.months
  totalMarkup : price.totalMarkupRial = input.markupIrr * input.months
  parchin : price.parchinRial = input.parchinPriceIrr * input.months
  addons : price.addonsRial = input.providerAddons.sum * input.months
  monthly : price.monthlyPretaxRial = input.pretaxIrr
  subtotal : price.subtotalBeforeDiscountRial = input.subtotalIrr
  requested : price.requestedDiscountRial = bpsUp (input.subtotalIrr * discount.1)
  applied : price.discountRial = min price.requestedDiscountRial input.maximumDiscountIrr
  taxable : price.taxableRial = price.subtotalBeforeDiscountRial - price.discountRial
  tax : price.taxRial = bpsUp (price.taxableRial * input.taxBps)
  final : price.finalPriceRial = price.taxableRial + price.taxRial
  lineItems : price.lineItems = [
      ⟨.providerInfrastructure, price.providerCostRial⟩,
      ⟨.infrastructureMarkup, price.totalMarkupRial⟩,
      ⟨.parchin, price.parchinRial⟩] ++
    input.providerAddons.map (fun amount => ⟨.providerAddon, amount * input.months⟩) ++
    (if 0 < price.discountRial then
      [⟨if discount.2 = .coupon then .couponDiscount else .termDiscount, -price.discountRial⟩]
    else []) ++
    [⟨.tax, price.taxRial⟩]

variable {input : CommercialPricingInput} {price : CommercialPriceBreakdown}

/-- **What an accepted input is sold for.** -/
theorem soldFor_of_compute (h : computeCommercialPriceBreakdown input = .ok price) :
    ∃ markup discount,
      monthlyMarkup input (input.providerMarkupBps + input.productMarkupBps) = .ok markup ∧
      resolveTermDiscountBps (input.termMonths.getD 1) input.couponDiscountBps = .ok discount ∧
      SoldFor input price markup discount := by
  unfold computeCommercialPriceBreakdown at h
  simp only [bind_eq_ok, throwIf_eq_ok, exists_const, Except.ok.injEq, pure, Except.pure,
    assertIntegerBps_eq_ok] at h
  obtain ⟨-, -, -, -, -, -, -, markup, hmarkup, -, discount, hdiscount, requested, hrequested, -,
    tax, htax, renewal, -, rfl⟩ := h
  have hsum := (monthlyMarkup_eq_ok hmarkup).1
  have hpretax : input.providerMonthlyPriceIrr + (markup.1 + markup.2) + input.parchinPriceIrr +
      input.providerAddons.sum = input.pretaxIrr := by
    rw [hsum]
    rfl
  have hrequested' := eq_of_multiplyBpsRoundUp hrequested
  have htax' := eq_of_multiplyBpsRoundUp htax
  rw [hpretax] at hrequested' htax'
  refine ⟨markup, discount, hmarkup, hdiscount, ?_⟩
  constructor
  · rfl
  · rfl
  · rfl
  · exact congrArg (· * input.months) hsum
  · rfl
  · rfl
  · exact hpretax
  · exact congrArg (· * input.months) hpretax
  · exact hrequested'
  · show min requested _ = min requested _
    rw [hpretax]
    rfl
  · rfl
  · show tax = bpsUp ((_ - min requested _) * input.taxBps)
    rw [htax', hpretax]
  · rfl
  · rfl

/-! ## Conservation -/

/-- The two parts of the markup, which is rounded up in one piece or holds a price. -/
theorem markup_nonneg {markup : ℤ × ℤ}
    (h : monthlyMarkup input (input.providerMarkupBps + input.productMarkupBps) = .ok markup)
    (hprovider : 0 ≤ input.providerMonthlyPriceIrr) (hproduct : 0 ≤ input.productMarkupBps) :
    0 ≤ markup.2 := by
  unfold monthlyMarkup at h
  cases hsale : input.infrastructureSaleRialOverride with
  | some sale =>
      rw [hsale] at h
      obtain ⟨_, -, h⟩ := bind_eq_ok.1 h
      obtain ⟨product, hrounded, h⟩ := bind_eq_ok.1 h
      cases h
      exact multiplyBpsRoundUp_nonneg hrounded
  | none =>
      rw [hsale] at h
      obtain ⟨total, htotal, h⟩ := bind_eq_ok.1 h
      obtain ⟨provider, hrounded, h⟩ := bind_eq_ok.1 h
      cases h
      -- the provider's part is at most the whole, which has the larger rate
      have hle : bpsUp (input.providerMonthlyPriceIrr * input.providerMarkupBps) ≤
          bpsUp (input.providerMonthlyPriceIrr *
            (input.providerMarkupBps + input.productMarkupBps)) :=
        bpsUp_mono (mul_le_mul_of_nonneg_left (by omega) hprovider)
      rw [← eq_of_multiplyBpsRoundUp htotal, ← eq_of_multiplyBpsRoundUp hrounded] at hle
      show 0 ≤ total - provider
      omega

theorem sum_addonItems (addons : List ℤ) (months : ℤ) :
    ((addons.map fun amount => (⟨.providerAddon, amount * months⟩ : QuoteLineItem)).map
      QuoteLineItem.amountIrr).sum = addons.sum * months := by
  induction addons with
  | nil => simp
  | cons amount rest ih =>
      rw [List.map_cons, List.map_cons, List.sum_cons, List.sum_cons, ih]
      ring

theorem months_nonneg (input : CommercialPricingInput) : 0 ≤ input.months := Int.natCast_nonneg _

theorem pretaxIrr_nonneg (h : input.Accepted) : 0 ≤ input.pretaxIrr := by
  obtain ⟨markup, hmarkup⟩ := monthlyMarkup_isOk h
  have hnonneg := monthlyMarkup_nonneg hmarkup
  rw [(monthlyMarkup_eq_ok hmarkup).1] at hnonneg
  have haddons := addons_nonneg (by rw [h.addons]; exact Bool.false_ne_true)
  have hprovider := h.provider
  have hparchin := h.parchin
  unfold CommercialPricingInput.pretaxIrr
  omega

theorem subtotalIrr_nonneg (h : input.Accepted) : 0 ≤ input.subtotalIrr :=
  mul_nonneg (pretaxIrr_nonneg h) (months_nonneg input)

theorem maximumDiscountIrr_bounds (h : input.Accepted) :
    0 ≤ input.maximumDiscountIrr ∧ input.maximumDiscountIrr ≤ input.subtotalIrr := by
  have hsubtotal := subtotalIrr_nonneg h
  have hmonths := months_nonneg input
  have haddons := addons_nonneg (by rw [h.addons]; exact Bool.false_ne_true)
  exact ⟨maximumAllowedDiscount_nonneg hsubtotal,
    maximumAllowedDiscount_le (fun margin hmargin => (h.minimum margin hmargin).2) h.provider.le
      hmonths (mul_nonneg h.parchin hmonths) (mul_nonneg haddons hmonths) hsubtotal⟩

/-- Every rial of a price is in one of its parts. -/
structure Accounted (input : CommercialPricingInput) (price : CommercialPriceBreakdown) : Prop where
  lines : (price.lineItems.map QuoteLineItem.amountIrr).sum = price.finalPriceRial
  markups : price.providerMarkupRial + price.productMarkupRial = price.totalMarkupRial
  product : 0 ≤ price.productMarkupRial
  parts : price.providerCostRial + price.totalMarkupRial + price.parchinRial + price.addonsRial =
    price.subtotalBeforeDiscountRial
  final : price.subtotalBeforeDiscountRial - price.discountRial + price.taxRial =
    price.finalPriceRial
  discount : 0 ≤ price.discountRial ∧ price.discountRial ≤ price.subtotalBeforeDiscountRial
  /-- The price of a renewal is that of one month before tax, with its tax. -/
  month : price.monthlyPretaxRial * input.months = price.subtotalBeforeDiscountRial
  renewal : price.renewalPriceRial = taxed price.monthlyPretaxRial input.taxBps

/-- **Every rial of a price is accounted for.** -/
theorem every_rial_accounted (h : computeCommercialPriceBreakdown input = .ok price) :
    Accounted input price := by
  obtain ⟨markup, discount, hmarkup, hdiscount, hsold⟩ := soldFor_of_compute h
  obtain ⟨haccepted, hrenewal, -⟩ := compute_spec h
  obtain ⟨hmaximum, hmaximumLe⟩ := maximumDiscountIrr_bounds haccepted
  have hsubtotal := subtotalIrr_nonneg haccepted
  have hrequested : 0 ≤ price.requestedDiscountRial := by
    obtain ⟨found, hfound, hlow, -⟩ := resolveTermDiscountBps_isOk haccepted
    rw [hdiscount] at hfound
    cases hfound
    rw [hsold.requested]
    exact bpsUp_nonneg (mul_nonneg hsubtotal hlow)
  have hparts : price.providerCostRial + price.totalMarkupRial + price.parchinRial +
      price.addonsRial = price.subtotalBeforeDiscountRial := by
    rw [hsold.providerCost, hsold.totalMarkup, hsold.parchin, hsold.addons, hsold.subtotal]
    unfold CommercialPricingInput.subtotalIrr CommercialPricingInput.pretaxIrr
    ring
  have happlied : 0 ≤ price.discountRial := by
    rw [hsold.applied]
    exact le_min hrequested hmaximum
  refine ⟨?_, ?_, ?_, hparts, ?_, ⟨happlied, ?_⟩, ?_, ?_⟩
  · have hline : ((if 0 < price.discountRial then
          [(⟨if discount.2 = .coupon then .couponDiscount else .termDiscount,
            -price.discountRial⟩ : QuoteLineItem)] else []).map
        QuoteLineItem.amountIrr).sum = -price.discountRial := by
      by_cases hpositive : 0 < price.discountRial
      · rw [if_pos hpositive]
        simp
      · -- without a discount there is no line for it
        rw [if_neg hpositive]
        simp only [List.map_nil, List.sum_nil]
        omega
    rw [hsold.lineItems, List.map_append, List.map_append, List.map_append, List.sum_append,
      List.sum_append, List.sum_append, sum_addonItems, hline]
    simp only [List.map_cons, List.map_nil, List.sum_cons, List.sum_nil]
    have haddons := hsold.addons
    have htaxable := hsold.taxable
    have hfinal := hsold.final
    omega
  · rw [hsold.providerMarkup, hsold.productMarkup, hsold.totalMarkup,
      ← (monthlyMarkup_eq_ok hmarkup).1]
    ring
  · rw [hsold.productMarkup]
    exact mul_nonneg (markup_nonneg hmarkup haccepted.provider.le haccepted.productMarkup)
      (months_nonneg input)
  · have htaxable := hsold.taxable
    have hfinal := hsold.final
    omega
  · calc price.discountRial
        ≤ input.maximumDiscountIrr := hsold.applied.trans_le (min_le_right _ _)
      _ ≤ input.subtotalIrr := hmaximumLe
      _ = price.subtotalBeforeDiscountRial := hsold.subtotal.symm
  · rw [hsold.monthly, hsold.subtotal]
    rfl
  · rw [hrenewal, hsold.monthly]

/-- A year of two add-ons with a held price, a capped discount and tax. -/
def yearInput : CommercialPricingInput where
  providerMonthlyPriceIrr := 1000003
  providerMarkupBps := 2500
  productMarkupBps := 333
  parchinPriceIrr := 70001
  providerAddons := [501, 999]
  taxBps := 1000
  termMonths := some 12
  minimumPostDiscountGrossMarginBps := some 2000
  infrastructureSaleRialOverride := some 1300007

theorem every_rial_accounted_year : ∃ price, computeCommercialPriceBreakdown yearInput = .ok price ∧
    price.finalPriceRial = 17443866 ∧ Accounted yearInput price :=
  ⟨_, rfl, by decide, every_rial_accounted rfl⟩

/-! ## The floor of a discount -/

/-- The infrastructure price of one month that keeps a margin, rounded up. -/
def CommercialPricingInput.monthlyInfraFloor (input : CommercialPricingInput) (margin : ℤ) : ℤ :=
  (input.providerMonthlyPriceIrr * 10000 + (10000 - margin) - 1) / (10000 - margin)

/-- After this discount, the infrastructure revenue is at least the monthly floor times the term. -/
def KeepsFloor (input : CommercialPricingInput) (price : CommercialPriceBreakdown)
    (margin discount : ℤ) : Prop :=
  input.monthlyInfraFloor margin * input.months ≤
    price.subtotalBeforeDiscountRial - discount - price.parchinRial - price.addonsRial

/-- What the minimum margin says of a discounted price. -/
structure DiscountFloor (input : CommercialPricingInput) (price : CommercialPriceBreakdown)
    (margin : ℤ) : Prop where
  /-- The exact margin of the revenue over the provider's cost. -/
  kept : 0 < price.discountRial →
    let revenue : ℤ := price.taxableRial - price.parchinRial - price.addonsRial
    0 < revenue ∧ (margin : ℚ) / 10000 ≤ (revenue - price.providerCostRial : ℚ) / revenue
  greatest : KeepsFloor input price margin 0 →
    IsGreatest {discount | discount ≤ price.requestedDiscountRial ∧
      KeepsFloor input price margin discount} price.discountRial
  below : ¬ KeepsFloor input price margin 0 → price.discountRial = 0

section Floor

variable {margin : ℤ}

/-- The floor of a month keeps the margin exactly. -/
theorem monthlyInfraFloor_spec (hmargin : margin < 10000) :
    input.providerMonthlyPriceIrr * 10000 ≤ input.monthlyInfraFloor margin * (10000 - margin) := by
  have hpositive : 0 < 10000 - margin := by omega
  have hdiv := Int.lt_ediv_add_one_mul_self
    (input.providerMonthlyPriceIrr * 10000 + (10000 - margin) - 1) hpositive
  unfold CommercialPricingInput.monthlyInfraFloor
  rw [add_mul, one_mul] at hdiv
  omega

theorem monthlyInfraFloor_nonneg (hprovider : 0 ≤ input.providerMonthlyPriceIrr)
    (hmargin : margin < 10000) : 0 ≤ input.monthlyInfraFloor margin := by
  have hproduct : 0 ≤ input.providerMonthlyPriceIrr * 10000 := mul_nonneg hprovider (by decide)
  exact Int.ediv_nonneg (by omega) (by omega)

/-- The maximum that the engine computes, when there is a margin to keep. -/
theorem maximumDiscountIrr_eq (hminimum : input.minimumPostDiscountGrossMarginBps = some margin)
    (hlow : 0 < margin) (hhigh : margin < 10000) (hprovider : 0 ≤ input.providerMonthlyPriceIrr) :
    input.maximumDiscountIrr = max 0 (input.subtotalIrr - (input.monthlyInfraFloor margin *
      input.months + input.parchinPriceIrr * input.months +
        input.providerAddons.sum * input.months)) := by
  have hfilter : input.minimumPostDiscountGrossMarginBps.filter (0 < ·) = some margin := by
    rw [hminimum]
    exact Option.filter_some_pos (by simpa using hlow)
  have hproduct : 0 ≤ input.providerMonthlyPriceIrr * 10000 := mul_nonneg hprovider (by decide)
  unfold CommercialPricingInput.maximumDiscountIrr maximumAllowedDiscount
    CommercialPricingInput.monthlyInfraFloor
  rw [hfilter]
  dsimp only
  rw [show bpsDenominator = 10000 from rfl, Int.tdiv_eq_ediv_of_nonneg (by omega)]
  split_ifs <;> omega

/-- A revenue of at least the floor keeps the exact margin over the term. -/
theorem margin_le_revenue {cost revenue floor months : ℤ} (hfloor : cost * 10000 ≤
    floor * (10000 - margin)) (hmonths : 0 ≤ months) (hrevenue : floor * months ≤ revenue)
    (hmargin : margin < 10000) (hpositive : 0 < revenue) :
    (margin : ℚ) / 10000 ≤ (revenue - (cost * months : ℤ) : ℚ) / revenue := by
  have hscaled : cost * months * 10000 ≤ revenue * (10000 - margin) :=
    calc cost * months * 10000 = cost * 10000 * months := by ring
      _ ≤ floor * (10000 - margin) * months := mul_le_mul_of_nonneg_right hfloor hmonths
      _ = floor * months * (10000 - margin) := by ring
      _ ≤ revenue * (10000 - margin) := mul_le_mul_of_nonneg_right hrevenue (by omega)
  have hcleared : margin * revenue ≤ (revenue - cost * months) * 10000 := by
    have hexpand : revenue * (10000 - margin) = revenue * 10000 - margin * revenue := by ring
    have hexpand' : (revenue - cost * months) * 10000 =
      revenue * 10000 - cost * months * 10000 := by ring
    omega
  have hrat : (margin : ℚ) * revenue ≤ (revenue - (cost * months : ℤ)) * 10000 := by
    exact_mod_cast hcleared
  rw [div_le_div_iff₀ (by norm_num) (by exact_mod_cast hpositive)]
  exact hrat

/-- **The discount floor.** -/
theorem discountFloor (h : computeCommercialPriceBreakdown input = .ok price)
    (hminimum : input.minimumPostDiscountGrossMarginBps = some margin) (hlow : 0 < margin) :
    DiscountFloor input price margin := by
  obtain ⟨markup, discount, -, hdiscount, hsold⟩ := soldFor_of_compute h
  have haccepted := (compute_spec h).1
  have hhigh := (haccepted.minimum margin hminimum).2
  have hmaximum := maximumDiscountIrr_eq hminimum hlow hhigh haccepted.provider.le
  have hrequested : 0 ≤ price.requestedDiscountRial := by
    obtain ⟨found, hfound, hnonneg, -⟩ := resolveTermDiscountBps_isOk haccepted
    rw [hdiscount] at hfound
    cases hfound
    rw [hsold.requested]
    exact bpsUp_nonneg (mul_nonneg (subtotalIrr_nonneg haccepted) hnonneg)
  have happlied := hsold.applied
  have hsubtotal := hsold.subtotal
  have hparchin := hsold.parchin
  have haddons := hsold.addons
  have htaxable := hsold.taxable
  have hfloor := monthlyInfraFloor_nonneg haccepted.provider.le hhigh
  refine ⟨fun hpositive => ?_, fun hkeeps => ⟨⟨?_, ?_⟩, fun other hother => ?_⟩, fun hkeeps => ?_⟩
  · -- a positive discount leaves at least the floor
    have hrevenue : input.monthlyInfraFloor margin * input.months ≤
        price.taxableRial - price.parchinRial - price.addonsRial := by omega
    have hmonths : 0 < input.months := by
      have hterm := haccepted.term
      unfold CommercialPricingInput.months
      generalize input.termMonths.getD 1 = months at hterm
      unfold isBillingTermMonths at hterm
      simp only [decide_eq_true_eq, List.mem_cons, List.not_mem_nil, or_false] at hterm
      omega
    have hcost := haccepted.provider
    have hspec : input.providerMonthlyPriceIrr * 10000 ≤
        input.monthlyInfraFloor margin * (10000 - margin) := monthlyInfraFloor_spec hhigh
    have hfloorPos : 0 < input.monthlyInfraFloor margin := by
      by_contra hzero
      have hnone : input.monthlyInfraFloor margin = 0 := le_antisymm (not_lt.1 hzero) hfloor
      rw [hnone, zero_mul] at hspec
      omega
    have hprod := mul_pos hfloorPos hmonths
    refine ⟨by omega, ?_⟩
    rw [hsold.providerCost]
    exact margin_le_revenue hspec hmonths.le hrevenue hhigh (by omega)
  · omega
  · unfold KeepsFloor at hkeeps ⊢
    omega
  · obtain ⟨hle, hother⟩ := hother
    unfold KeepsFloor at hother
    omega
  · unfold KeepsFloor at hkeeps
    omega

/-! ## Larger coupons -/

/-- A coupon of a non-negative number replaces the term's discount. -/
theorem resolveTermDiscountBps_coupon {termMonths : ℕ} {bps : ℤ} (hlow : 0 ≤ bps)
    {discount : ℤ × DiscountSource}
    (h : resolveTermDiscountBps termMonths (some bps) = .ok discount) :
    discount = (bps, .coupon) := by
  have hfilter : (some bps).filter (0 ≤ ·) = some bps := Option.filter_some_pos (by simpa using hlow)
  unfold resolveTermDiscountBps at h
  rw [hfilter] at h
  obtain ⟨_, -, h⟩ := bind_eq_ok.1 h
  cases h
  rfl

/-- **A larger coupon never raises the price.** -/
theorem finalPriceRial_anti {larger : CommercialPriceBreakdown} {bps bps' : ℤ}
    (h : computeCommercialPriceBreakdown input = .ok price)
    (hcoupon : input.couponDiscountBps = some bps) (hlow : 0 ≤ bps) (hle : bps ≤ bps')
    (h' : computeCommercialPriceBreakdown { input with couponDiscountBps := some bps' } =
      .ok larger) : larger.finalPriceRial ≤ price.finalPriceRial := by
  obtain ⟨markup, discount, -, hdiscount, hsold⟩ := soldFor_of_compute h
  obtain ⟨markup', discount', -, hdiscount', hsold'⟩ := soldFor_of_compute h'
  rw [hcoupon] at hdiscount
  obtain rfl := resolveTermDiscountBps_coupon hlow hdiscount
  obtain rfl := resolveTermDiscountBps_coupon (hlow.trans hle) hdiscount'
  have haccepted := (compute_spec h).1
  have hrequested : price.requestedDiscountRial ≤ larger.requestedDiscountRial := by
    rw [hsold.requested, hsold'.requested]
    exact bpsUp_mono (mul_le_mul_of_nonneg_left hle (subtotalIrr_nonneg haccepted))
  -- the maximum does not depend on the coupon
  have hmaximum : CommercialPricingInput.maximumDiscountIrr
      { input with couponDiscountBps := some bps' } = input.maximumDiscountIrr := rfl
  have hsubtotal : CommercialPricingInput.subtotalIrr
      { input with couponDiscountBps := some bps' } = input.subtotalIrr := rfl
  have htaxable : larger.taxableRial ≤ price.taxableRial := by
    rw [hsold.taxable, hsold'.taxable, hsold.applied, hsold'.applied, hsold.subtotal,
      hsold'.subtotal, hmaximum, hsubtotal]
    omega
  rw [hsold.final, hsold'.final, hsold.tax, hsold'.tax]
  exact (taxed_le_iff haccepted.tax.1).2 htaxable

/-- **The discount floor and the coupon.** -/
theorem discount_floor (h : computeCommercialPriceBreakdown input = .ok price)
    (hminimum : input.minimumPostDiscountGrossMarginBps = some margin) (hlow : 0 < margin) :
    DiscountFloor input price margin ∧ ∀ bps bps' larger, input.couponDiscountBps = some bps →
      0 ≤ bps → bps ≤ bps' →
      computeCommercialPriceBreakdown { input with couponDiscountBps := some bps' } = .ok larger →
      larger.finalPriceRial ≤ price.finalPriceRial :=
  ⟨discountFloor h hminimum hlow, fun _ _ _ hcoupon hnonneg hle hlarger =>
    finalPriceRial_anti h hcoupon hnonneg hle hlarger⟩

theorem discount_floor_year : ∃ price,
    computeCommercialPriceBreakdown { yearInput with couponDiscountBps := some 500 } = .ok price ∧
    price.discountRial = 842886 ∧ DiscountFloor { yearInput with couponDiscountBps := some 500 }
      price 2000 ∧ ∀ bps bps' larger, some 500 = some bps → 0 ≤ bps → bps ≤ bps' →
        computeCommercialPriceBreakdown { yearInput with couponDiscountBps := some bps' } =
          .ok larger → larger.finalPriceRial ≤ price.finalPriceRial :=
  ⟨_, rfl, by decide, discount_floor rfl rfl (by decide)⟩

/-- **A coupon of a negative number is none**: raised to nothing, it costs the term's discount. -/
theorem negative_coupon_lowers : ¬ ∀ (input : CommercialPricingInput)
    (price : CommercialPriceBreakdown) (margin : ℤ),
    computeCommercialPriceBreakdown input = .ok price →
    input.minimumPostDiscountGrossMarginBps = some margin → 0 < margin → margin < 10000 →
    DiscountFloor input price margin ∧ ∀ bps bps' larger, input.couponDiscountBps = some bps →
      bps ≤ bps' →
      computeCommercialPriceBreakdown { input with couponDiscountBps := some bps' } = .ok larger →
      larger.finalPriceRial ≤ price.finalPriceRial := by
  intro hclaim
  have hraised := (hclaim { yearInput with couponDiscountBps := some (-1) } _ 2000 rfl rfl
    (by decide) (by decide)).2 (-1) 0 _ rfl (by decide) rfl
  exact absurd hraised (by decide)

end Floor

end AbrChin.Pricing
