import AbrChin.Lib.Transaction
import Mathlib.Algebra.Order.BigOperators.Group.List
import Mathlib.Tactic.NormNum

/-!
# The commercial pricing engine

`lib/pricing/commercial-engine.ts`: the one place that computes a sale price.
Rials are `bigint`, hence `ℤ`; their division truncates toward zero (`Int.tdiv`).
Basis points are `number`s that the engine refuses unless they are integers, so
they are integers here.  Labels and metadata of the line items are left out.
-/

namespace AbrChin.Pricing

open Lib

def bpsDenominator : ℤ := 10000

/-- The fixed discount of a term. -/
def termDiscountBps : ℕ → ℤ
  | 3 => 500
  | 6 => 1000
  | 12 => 2000
  | _ => 0

def isBillingTermMonths (value : ℕ) : Bool := value ∈ [1, 3, 6, 12]

def assertIntegerBps (value : ℤ) (max : ℤ := 100000) : Except String Unit :=
  if value < 0 ∨ max < value then .error "invalid_basis_points" else .ok ()

/-- `ceil(amount × bps / 10000)`. -/
def multiplyBpsRoundUp (amount basisPoints : ℤ) : Except String ℤ :=
  if amount < 0 then .error "invalid_money"
  else do
    assertIntegerBps basisPoints
    if amount = 0 ∨ basisPoints = 0 then .ok 0
    else .ok ((amount * basisPoints + bpsDenominator - 1).tdiv bpsDenominator)

/-- The type of a line item. -/
inductive QuoteLineItemType where
  | providerInfrastructure
  | infrastructureMarkup
  | parchin
  | providerAddon
  | couponDiscount
  | termDiscount
  | tax
  deriving DecidableEq

structure QuoteLineItem where
  type : QuoteLineItemType
  amountIrr : ℤ
  deriving DecidableEq

structure CommercialPricingInput where
  providerMonthlyPriceIrr : ℤ
  providerMarkupBps : ℤ
  productMarkupBps : ℤ
  parchinPriceIrr : ℤ
  providerAddons : List ℤ := []
  taxBps : ℤ
  termMonths : Option ℕ := none
  couponDiscountBps : Option ℤ := none
  minimumPostDiscountGrossMarginBps : Option ℤ := none
  infrastructureSaleRialOverride : Option ℤ := none

inductive DiscountSource where
  | none
  | term
  | coupon
  deriving DecidableEq

structure CommercialPriceBreakdown where
  providerCostRial : ℤ
  providerMarkupRial : ℤ
  productMarkupRial : ℤ
  totalMarkupRial : ℤ
  parchinRial : ℤ
  addonsRial : ℤ
  subtotalBeforeDiscountRial : ℤ
  discountRial : ℤ
  taxableRial : ℤ
  taxRial : ℤ
  finalPriceRial : ℤ
  renewalPriceRial : ℤ
  effectiveMarkupBps : ℤ
  grossMarginBps : ℤ
  termMonths : ℕ
  lineItems : List QuoteLineItem
  markupBps : ℤ
  termDiscountBps : ℤ
  discountSource : DiscountSource
  monthlyPretaxRial : ℤ
  requestedDiscountRial : ℤ
  maximumAllowedDiscountRial : ℤ
  discountCapped : Bool
  minimumPostDiscountGrossMarginBps : Option ℤ

/-- A coupon that is a non-negative number replaces the discount of the term. -/
def resolveTermDiscountBps (termMonths : ℕ) (couponDiscountBps : Option ℤ) :
    Except String (ℤ × DiscountSource) :=
  match couponDiscountBps.filter (0 ≤ ·) with
  | some coupon => do
      assertIntegerBps coupon 10000
      pure (coupon, .coupon)
  | none =>
      if 0 < termDiscountBps termMonths then .ok (termDiscountBps termMonths, .term)
      else .ok (0, .none)

/-- The provider's and the product's part of the monthly markup. -/
def monthlyMarkup (input : CommercialPricingInput) (markupBps : ℤ) : Except String (ℤ × ℤ) :=
  match input.infrastructureSaleRialOverride with
  | some sale => do
      throwIf (sale ≤ input.providerMonthlyPriceIrr) "invalid_infrastructure_sale_override"
      let product ← multiplyBpsRoundUp input.providerMonthlyPriceIrr input.productMarkupBps
      pure (sale - input.providerMonthlyPriceIrr, product)
  | none => do
      let total ← multiplyBpsRoundUp input.providerMonthlyPriceIrr markupBps
      let provider ← multiplyBpsRoundUp input.providerMonthlyPriceIrr input.providerMarkupBps
      pure (provider, total - provider)

/-- The largest discount that leaves the protected floor. -/
def maximumAllowedDiscount (minPostMargin : Option ℤ)
    (providerMonthly termMultiplier parchinTerm addonsTerm termPretax : ℤ) : ℤ :=
  match minPostMargin.filter (0 < ·) with
  | some margin =>
      let keep := 10000 - margin
      let monthlyInfraFloor := (providerMonthly * bpsDenominator + keep - 1).tdiv keep
      let protectedFloor := monthlyInfraFloor * termMultiplier + parchinTerm + addonsTerm
      if protectedFloor < termPretax then termPretax - protectedFloor else 0
  | none => termPretax

def computeCommercialPriceBreakdown (input : CommercialPricingInput) :
    Except String CommercialPriceBreakdown := do
  throwIf (input.providerMonthlyPriceIrr ≤ 0) "invalid_provider_price"
  throwIf (input.parchinPriceIrr < 0) "invalid_parchin_price"
  assertIntegerBps input.providerMarkupBps
  assertIntegerBps input.productMarkupBps
  assertIntegerBps input.taxBps 10000
  let termMonths := input.termMonths.getD 1
  throwIf (!isBillingTermMonths termMonths) "invalid_term_months"
  let markupBps := input.providerMarkupBps + input.productMarkupBps
  assertIntegerBps markupBps
  let markup ← monthlyMarkup input markupBps
  let monthlyMarkupIrr := markup.1 + markup.2
  throwIf (input.providerAddons.any (· < 0)) "invalid_provider_addon"
  let monthlyAddonIrr := input.providerAddons.sum
  let monthlyPretaxIrr :=
    input.providerMonthlyPriceIrr + monthlyMarkupIrr + input.parchinPriceIrr + monthlyAddonIrr
  let termMultiplier : ℤ := termMonths
  let providerTermIrr := input.providerMonthlyPriceIrr * termMultiplier
  let markupTermIrr := monthlyMarkupIrr * termMultiplier
  let parchinTermIrr := input.parchinPriceIrr * termMultiplier
  let addonsTermIrr := monthlyAddonIrr * termMultiplier
  let termPretaxIrr := monthlyPretaxIrr * termMultiplier
  let discount ← resolveTermDiscountBps termMonths input.couponDiscountBps
  let requestedDiscountIrr ← multiplyBpsRoundUp termPretaxIrr discount.1
  let minPostMargin := input.minimumPostDiscountGrossMarginBps
  throwIf (minPostMargin.any fun margin => margin < 0 ∨ 10000 ≤ margin)
    "invalid_minimum_post_discount_margin"
  let maximumAllowedDiscountIrr := maximumAllowedDiscount minPostMargin
    input.providerMonthlyPriceIrr termMultiplier parchinTermIrr addonsTermIrr termPretaxIrr
  let discountIrr := min requestedDiscountIrr maximumAllowedDiscountIrr
  let taxableIrr := termPretaxIrr - discountIrr
  let taxAmountIrr ← multiplyBpsRoundUp taxableIrr input.taxBps
  let renewalTaxIrr ← multiplyBpsRoundUp monthlyPretaxIrr input.taxBps
  let infrastructureSaleIrr := providerTermIrr + markupTermIrr
  pure {
    providerCostRial := providerTermIrr
    providerMarkupRial := markup.1 * termMultiplier
    productMarkupRial := markup.2 * termMultiplier
    totalMarkupRial := markupTermIrr
    parchinRial := parchinTermIrr
    addonsRial := addonsTermIrr
    subtotalBeforeDiscountRial := termPretaxIrr
    discountRial := discountIrr
    taxableRial := taxableIrr
    taxRial := taxAmountIrr
    finalPriceRial := taxableIrr + taxAmountIrr
    renewalPriceRial := monthlyPretaxIrr + renewalTaxIrr
    effectiveMarkupBps :=
      if 0 < providerTermIrr then
        (markupTermIrr * 10000 + providerTermIrr.tdiv 2).tdiv providerTermIrr
      else 0
    grossMarginBps :=
      if 0 < infrastructureSaleIrr then
        (markupTermIrr * 10000 + infrastructureSaleIrr.tdiv 2).tdiv infrastructureSaleIrr
      else 0
    termMonths
    lineItems := [
      ⟨.providerInfrastructure, providerTermIrr⟩,
      ⟨.infrastructureMarkup, markupTermIrr⟩,
      ⟨.parchin, parchinTermIrr⟩] ++
      input.providerAddons.map (fun amount => ⟨.providerAddon, amount * termMultiplier⟩) ++
      (if 0 < discountIrr then
        [⟨if discount.2 = .coupon then .couponDiscount else .termDiscount, -discountIrr⟩] else []) ++
      [⟨.tax, taxAmountIrr⟩]
    markupBps
    termDiscountBps := discount.1
    discountSource := discount.2
    monthlyPretaxRial := monthlyPretaxIrr
    requestedDiscountRial := requestedDiscountIrr
    maximumAllowedDiscountRial := maximumAllowedDiscountIrr
    discountCapped := discountIrr < requestedDiscountIrr
    minimumPostDiscountGrossMarginBps := minPostMargin }

/-! ## A price is positive unless it is discounted -/

theorem assertIntegerBps_eq_ok {value max : ℤ} {u : Unit} :
    assertIntegerBps value max = .ok u ↔ 0 ≤ value ∧ value ≤ max := by
  unfold assertIntegerBps
  by_cases h : value < 0 ∨ max < value
  · simp only [h, if_true, reduceCtorEq, false_iff]
    omega
  · simp only [h, if_false, true_iff]
    omega

/-- What `multiplyBpsRoundUp` returns, when it returns. -/
theorem multiplyBpsRoundUp_eq_ok {amount basisPoints result : ℤ} :
    multiplyBpsRoundUp amount basisPoints = .ok result ↔
      0 ≤ amount ∧ 0 ≤ basisPoints ∧ basisPoints ≤ 100000 ∧
        result = (amount * basisPoints + 9999).tdiv 10000 := by
  unfold multiplyBpsRoundUp bpsDenominator
  by_cases hamount : amount < 0
  · simp only [hamount, if_true, reduceCtorEq, false_iff]
    omega
  · simp only [hamount, if_false, bind_eq_ok, assertIntegerBps_eq_ok, exists_const]
    have hdiv : (amount * basisPoints + 10000 - 1).tdiv 10000 =
        (amount * basisPoints + 9999).tdiv 10000 := by rw [add_sub_assoc]; rfl
    by_cases hzero : amount = 0 ∨ basisPoints = 0
    · have hproduct : amount * basisPoints = 0 := mul_eq_zero.2 hzero
      have hresult : (amount * basisPoints + 9999).tdiv 10000 = 0 := by rw [hproduct]; rfl
      simp only [hzero, if_true, Except.ok.injEq, hresult, eq_comm (a := result)]
      omega
    · simp only [hzero, if_false, Except.ok.injEq, hdiv, eq_comm (a := result)]
      omega

theorem multiplyBpsRoundUp_nonneg {amount basisPoints result : ℤ}
    (h : multiplyBpsRoundUp amount basisPoints = .ok result) : 0 ≤ result := by
  obtain ⟨hamount, hbps, -, rfl⟩ := multiplyBpsRoundUp_eq_ok.1 h
  have hproduct : 0 ≤ amount * basisPoints := mul_nonneg hamount hbps
  exact Int.tdiv_nonneg (by omega) (by decide)

theorem monthlyMarkup_nonneg {input : CommercialPricingInput} {markupBps : ℤ} {markup : ℤ × ℤ}
    (h : monthlyMarkup input markupBps = .ok markup) : 0 ≤ markup.1 + markup.2 := by
  unfold monthlyMarkup at h
  cases hsale : input.infrastructureSaleRialOverride with
  | some sale =>
      simp only [hsale] at h
      obtain ⟨_, hguard, hrest⟩ := bind_eq_ok.1 h
      obtain ⟨product, hproduct, hmarkup⟩ := bind_eq_ok.1 hrest
      cases hmarkup
      have := throwIf_eq_ok.1 hguard
      have := multiplyBpsRoundUp_nonneg hproduct
      show 0 ≤ sale - input.providerMonthlyPriceIrr + product
      omega
  | none =>
      simp only [hsale] at h
      obtain ⟨total, htotal, hrest⟩ := bind_eq_ok.1 h
      obtain ⟨provider, -, hmarkup⟩ := bind_eq_ok.1 hrest
      cases hmarkup
      have := multiplyBpsRoundUp_nonneg htotal
      show 0 ≤ provider + (total - provider)
      omega

theorem addons_nonneg {addons : List ℤ} (h : ¬ addons.any (· < 0) = true) : 0 ≤ addons.sum := by
  refine List.sum_nonneg fun amount hamount => ?_
  by_contra hneg
  exact h (List.any_eq_true.2 ⟨amount, hamount, by simpa using hneg⟩)

theorem resolveTermDiscountBps_none {termMonths : ℕ} {couponDiscountBps : Option ℤ}
    (hterm : termDiscountBps termMonths = 0) (hcoupon : couponDiscountBps.filter (0 ≤ ·) = none) :
    resolveTermDiscountBps termMonths couponDiscountBps = .ok (0, .none) := by
  simp [resolveTermDiscountBps, hterm, hcoupon]

/-- **An undiscounted price is positive.** -/
theorem finalPriceRial_pos {input : CommercialPricingInput} {price : CommercialPriceBreakdown}
    (h : computeCommercialPriceBreakdown input = .ok price)
    (hterm : termDiscountBps (input.termMonths.getD 1) = 0)
    (hcoupon : input.couponDiscountBps.filter (0 ≤ ·) = none) : 0 < price.finalPriceRial := by
  unfold computeCommercialPriceBreakdown at h
  simp only [bind_eq_ok, throwIf_eq_ok, exists_const, resolveTermDiscountBps_none hterm hcoupon,
    Except.ok.injEq, exists_eq_left', pure, Except.pure] at h
  obtain ⟨hprovider, hparchin, _, -, _, -, _, -, hmonths, _, -, markup, hmarkup, haddons,
    requested, hrequested, -, tax, htax, _, -, rfl⟩ := h
  have hmonthly : 0 < input.providerMonthlyPriceIrr + (markup.1 + markup.2) +
      input.parchinPriceIrr + input.providerAddons.sum := by
    have := monthlyMarkup_nonneg hmarkup
    have := addons_nonneg haddons
    omega
  have hmonths : 0 < input.termMonths.getD 1 := by
    simp only [Bool.not_eq_true', Bool.not_eq_false, isBillingTermMonths, decide_eq_true_eq] at hmonths
    rcases List.mem_cons.1 hmonths with h | hmonths
    · omega
    · simp at hmonths
      omega
  -- the discount of no basis points is nothing
  have hrequested : requested = 0 := by
    obtain ⟨-, -, -, rfl⟩ := multiplyBpsRoundUp_eq_ok.1 hrequested
    rw [mul_zero]
    rfl
  have htax := multiplyBpsRoundUp_nonneg htax
  have hterm := Int.mul_pos hmonthly (Int.natCast_pos.2 hmonths)
  subst hrequested
  have hdiscount := min_le_left (0 : ℤ) (maximumAllowedDiscount
    input.minimumPostDiscountGrossMarginBps input.providerMonthlyPriceIrr
    (input.termMonths.getD 1 : ℕ) (input.parchinPriceIrr * (input.termMonths.getD 1 : ℕ))
    (input.providerAddons.sum * (input.termMonths.getD 1 : ℕ))
    ((input.providerMonthlyPriceIrr + (markup.1 + markup.2) + input.parchinPriceIrr +
      input.providerAddons.sum) * (input.termMonths.getD 1 : ℕ)))
  show 0 < _ - _ + tax
  omega

end AbrChin.Pricing
