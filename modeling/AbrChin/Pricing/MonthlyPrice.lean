import AbrChin.Pricing.HeldCurve
import Mathlib.Tactic.Ring

/-!
# What the engine accepts and what it asks for

The engine returns a price exactly for the inputs that it accepts (`compute_isOk_iff`).  The price
of a renewal, and the price of one month without a coupon, are then the taxed sum of the cost, the
markup, the protection and the add-ons (`renewalPriceRial_eq`, `finalPriceRial_eq`).
-/

namespace AbrChin.Pricing

open Lib

/-! ## Taxed amounts -/

/-- An amount with its tax, which is rounded up. -/
def taxed (amount taxBps : ℤ) : ℤ := amount + bpsUp (amount * taxBps)

/-- A taxed amount rises with the amount. -/
theorem taxed_le_iff {x y taxBps : ℤ} (htax : 0 ≤ taxBps) :
    taxed x taxBps ≤ taxed y taxBps ↔ x ≤ y := by
  unfold taxed
  constructor
  · intro h
    by_contra hlt
    have := bpsUp_mono (mul_le_mul_of_nonneg_right (not_le.1 hlt).le htax)
    omega
  · intro h
    have := bpsUp_mono (mul_le_mul_of_nonneg_right h htax)
    omega

theorem taxed_inj {x y taxBps : ℤ} (htax : 0 ≤ taxBps) :
    taxed x taxBps = taxed y taxBps ↔ x = y := by
  rw [le_antisymm_iff, taxed_le_iff htax, taxed_le_iff htax, ← le_antisymm_iff]

/-- Rounding up in the engine. -/
theorem multiplyBpsRoundUp_eq {amount basisPoints : ℤ} (hamount : 0 ≤ amount)
    (hbps : 0 ≤ basisPoints) (hmax : basisPoints ≤ 100000) :
    multiplyBpsRoundUp amount basisPoints = .ok (bpsUp (amount * basisPoints)) := by
  have hproduct : 0 ≤ amount * basisPoints := mul_nonneg hamount hbps
  refine multiplyBpsRoundUp_eq_ok.2 ⟨hamount, hbps, hmax, ?_⟩
  rw [bpsUp, Int.tdiv_eq_ediv_of_nonneg (by omega)]

theorem eq_of_multiplyBpsRoundUp {amount basisPoints result : ℤ}
    (h : multiplyBpsRoundUp amount basisPoints = .ok result) :
    result = bpsUp (amount * basisPoints) := by
  obtain ⟨hamount, hbps, hmax, -⟩ := multiplyBpsRoundUp_eq_ok.1 h
  exact Except.ok.inj (h.symm.trans (multiplyBpsRoundUp_eq hamount hbps hmax))

/-! ## What the engine accepts -/

/-- The markup of one month: a held price is kept, and the product's markup is added to it. -/
def CommercialPricingInput.markupIrr (input : CommercialPricingInput) : ℤ :=
  match input.infrastructureSaleRialOverride with
  | some sale => sale - input.providerMonthlyPriceIrr +
      bpsUp (input.providerMonthlyPriceIrr * input.productMarkupBps)
  | none =>
      bpsUp (input.providerMonthlyPriceIrr * (input.providerMarkupBps + input.productMarkupBps))

/-- The price of one month before tax. -/
def CommercialPricingInput.pretaxIrr (input : CommercialPricingInput) : ℤ :=
  input.providerMonthlyPriceIrr + input.markupIrr + input.parchinPriceIrr +
    input.providerAddons.sum

/-- The inputs that the engine accepts. -/
structure CommercialPricingInput.Accepted (input : CommercialPricingInput) : Prop where
  provider : 0 < input.providerMonthlyPriceIrr
  parchin : 0 ≤ input.parchinPriceIrr
  providerMarkup : 0 ≤ input.providerMarkupBps
  productMarkup : 0 ≤ input.productMarkupBps
  markup : input.providerMarkupBps + input.productMarkupBps ≤ 100000
  tax : 0 ≤ input.taxBps ∧ input.taxBps ≤ 10000
  term : isBillingTermMonths (input.termMonths.getD 1) = true
  held : ∀ sale ∈ input.infrastructureSaleRialOverride, input.providerMonthlyPriceIrr < sale
  addons : input.providerAddons.any (· < 0) = false
  coupon : ∀ discount ∈ input.couponDiscountBps, discount ≤ 10000
  minimum : ∀ margin ∈ input.minimumPostDiscountGrossMarginBps, 0 ≤ margin ∧ margin < 10000

variable {input : CommercialPricingInput}

theorem monthlyMarkup_eq_ok {markup : ℤ × ℤ}
    (h : monthlyMarkup input (input.providerMarkupBps + input.productMarkupBps) = .ok markup) :
    markup.1 + markup.2 = input.markupIrr ∧
      ∀ sale ∈ input.infrastructureSaleRialOverride, input.providerMonthlyPriceIrr < sale := by
  unfold monthlyMarkup at h
  unfold CommercialPricingInput.markupIrr
  cases hsale : input.infrastructureSaleRialOverride with
  | some sale =>
      simp only [hsale, bind_eq_ok, throwIf_eq_ok, pure, Except.pure, Except.ok.injEq] at h
      obtain ⟨_, hheld, product, hproduct, rfl⟩ := h
      refine ⟨by rw [eq_of_multiplyBpsRoundUp hproduct], ?_⟩
      rintro _ ⟨⟩
      exact not_le.1 hheld
  | none =>
      simp only [hsale, bind_eq_ok, pure, Except.pure, Except.ok.injEq] at h
      obtain ⟨total, htotal, provider, -, rfl⟩ := h
      refine ⟨?_, fun _ hnone => nomatch hnone⟩
      show provider + (total - provider) = _
      rw [eq_of_multiplyBpsRoundUp htotal]
      ring

theorem maximumAllowedDiscount_nonneg {minPostMargin : Option ℤ}
    {providerMonthly termMultiplier parchinTerm addonsTerm termPretax : ℤ} (h : 0 ≤ termPretax) :
    0 ≤ maximumAllowedDiscount minPostMargin providerMonthly termMultiplier parchinTerm addonsTerm
      termPretax := by
  unfold maximumAllowedDiscount
  cases minPostMargin.filter (0 < ·) with
  | none => exact h
  | some margin =>
      dsimp only
      split_ifs <;> omega

/-- What an accepted input is sold for. -/
theorem compute_spec {price : CommercialPriceBreakdown}
    (h : computeCommercialPriceBreakdown input = .ok price) :
    input.Accepted ∧ price.renewalPriceRial = taxed input.pretaxIrr input.taxBps ∧
      (input.termMonths.getD 1 = 1 → input.couponDiscountBps = none →
        price.finalPriceRial = taxed input.pretaxIrr input.taxBps) := by
  unfold computeCommercialPriceBreakdown at h
  simp only [bind_eq_ok, throwIf_eq_ok, exists_const, Except.ok.injEq, pure, Except.pure,
    assertIntegerBps_eq_ok] at h
  obtain ⟨hprovider, hparchin, hproviderMarkup, hproductMarkup, htax, hterm, hsum, markup, hmarkup,
    haddons, discount, hdiscount, requested, hrequested, hminimum, tax, htaxed, renewalTax, hrenewal,
    rfl⟩ := h
  obtain ⟨hmarkups, hheld⟩ := monthlyMarkup_eq_ok hmarkup
  have hpretax : input.providerMonthlyPriceIrr + (markup.1 + markup.2) + input.parchinPriceIrr +
      input.providerAddons.sum = input.pretaxIrr := by
    rw [hmarkups]
    rfl
  have haddons : input.providerAddons.any (· < 0) = false := by simpa using haddons
  have hpositive : 0 ≤ input.pretaxIrr := by
    have := monthlyMarkup_nonneg hmarkup
    have := addons_nonneg (by rw [haddons]; exact Bool.false_ne_true)
    omega
  refine ⟨⟨by omega, by omega, hproviderMarkup.1, hproductMarkup.1, hsum.2, htax, by simpa using hterm,
    hheld, haddons, ?_, ?_⟩, ?_, ?_⟩
  · intro coupon hcoupon
    by_contra hlarge
    have hfilter : input.couponDiscountBps.filter (0 ≤ ·) = some coupon := by
      rw [Option.mem_def.1 hcoupon]
      simp only [Option.filter_some, decide_eq_true_eq, ite_eq_left_iff, reduceCtorEq, imp_false,
        not_not]
      omega
    unfold resolveTermDiscountBps at hdiscount
    rw [hfilter] at hdiscount
    obtain ⟨_, hassert, -⟩ := bind_eq_ok.1 hdiscount
    have := (assertIntegerBps_eq_ok.1 hassert).2
    omega
  · intro margin hmargin
    rw [Option.mem_def.1 hmargin] at hminimum
    simpa using hminimum
  · show input.providerMonthlyPriceIrr + (markup.1 + markup.2) + input.parchinPriceIrr +
      input.providerAddons.sum + renewalTax = _
    rw [eq_of_multiplyBpsRoundUp hrenewal, hpretax]
    rfl
  · intro hmonth hcoupon
    -- a month has no discount of its own
    have hnone : resolveTermDiscountBps (input.termMonths.getD 1) input.couponDiscountBps =
        .ok (0, .none) :=
      resolveTermDiscountBps_none (by rw [hmonth]; rfl) (by rw [hcoupon]; rfl)
    obtain rfl := Except.ok.inj (hdiscount.symm.trans hnone)
    have hrequested : requested = 0 := by
      have := eq_of_multiplyBpsRoundUp hrequested
      rw [this, mul_zero]
      rfl
    subst hrequested
    have hmax := @maximumAllowedDiscount_nonneg input.minimumPostDiscountGrossMarginBps
      input.providerMonthlyPriceIrr (input.termMonths.getD 1 : ℕ)
      (input.parchinPriceIrr * (input.termMonths.getD 1 : ℕ))
      (input.providerAddons.sum * (input.termMonths.getD 1 : ℕ))
      (input.pretaxIrr * (input.termMonths.getD 1 : ℕ)) (mul_nonneg hpositive (Int.natCast_nonneg _))
    rw [hpretax, min_eq_left hmax, sub_zero] at htaxed
    show (_ : ℤ) - min 0 _ + tax = _
    rw [hpretax, min_eq_left hmax, sub_zero, eq_of_multiplyBpsRoundUp htaxed, hmonth, Nat.cast_one,
      mul_one]
    rfl

/-- **What one month without a coupon costs.** -/
theorem finalPriceRial_eq {price : CommercialPriceBreakdown}
    (h : computeCommercialPriceBreakdown input = .ok price) (hmonth : input.termMonths.getD 1 = 1)
    (hcoupon : input.couponDiscountBps = none) :
    price.finalPriceRial = taxed input.pretaxIrr input.taxBps := (compute_spec h).2.2 hmonth hcoupon

/-! ## The engine returns -/

theorem monthlyMarkup_isOk (h : input.Accepted) : ∃ markup,
    monthlyMarkup input (input.providerMarkupBps + input.productMarkupBps) = .ok markup := by
  have hprovider := h.provider.le
  have hproviderMarkup := h.providerMarkup
  have hproductMarkup := h.productMarkup
  have hmarkup := h.markup
  unfold monthlyMarkup
  cases hsale : input.infrastructureSaleRialOverride with
  | some sale =>
      have hheld := h.held sale hsale
      simp only [throwIf, if_neg (not_le.2 hheld),
        multiplyBpsRoundUp_eq hprovider hproductMarkup (by omega), bind, Except.bind, pure,
        Except.pure]
      exact ⟨_, rfl⟩
  | none =>
      simp only [multiplyBpsRoundUp_eq hprovider (by omega) hmarkup,
        multiplyBpsRoundUp_eq hprovider hproviderMarkup (by omega), bind, Except.bind, pure,
        Except.pure]
      exact ⟨_, rfl⟩

theorem resolveTermDiscountBps_isOk (h : input.Accepted) : ∃ discount,
    resolveTermDiscountBps (input.termMonths.getD 1) input.couponDiscountBps = .ok discount ∧
      0 ≤ discount.1 ∧ discount.1 ≤ 10000 := by
  unfold resolveTermDiscountBps
  cases hfilter : input.couponDiscountBps.filter (0 ≤ ·) with
  | some coupon =>
      obtain ⟨hcoupon, hnonneg⟩ := Option.filter_eq_some_iff.1 hfilter
      have hmax := h.coupon coupon hcoupon
      have hnonneg := of_decide_eq_true hnonneg
      have hassert : assertIntegerBps coupon 10000 = .ok () := assertIntegerBps_eq_ok.2 ⟨hnonneg, hmax⟩
      simp only [hassert, bind, Except.bind, pure, Except.pure]
      exact ⟨_, rfl, hnonneg, hmax⟩
  | none =>
      have hterm := h.term
      unfold isBillingTermMonths at hterm
      simp only [decide_eq_true_eq] at hterm
      generalize input.termMonths.getD 1 = months at hterm ⊢
      simp only [List.mem_cons, List.not_mem_nil, or_false] at hterm
      rcases hterm with rfl | rfl | rfl | rfl
      · exact ⟨_, rfl, by decide, by decide⟩
      · exact ⟨_, rfl, by decide, by decide⟩
      · exact ⟨_, rfl, by decide, by decide⟩
      · exact ⟨_, rfl, by decide, by decide⟩

/-- No discount is larger than what it is taken from. -/
theorem maximumAllowedDiscount_le {minPostMargin : Option ℤ}
    {providerMonthly termMultiplier parchinTerm addonsTerm termPretax : ℤ}
    (hmargin : ∀ margin ∈ minPostMargin, margin < 10000) (hprovider : 0 ≤ providerMonthly)
    (hterm : 0 ≤ termMultiplier) (hparchin : 0 ≤ parchinTerm) (haddons : 0 ≤ addonsTerm)
    (hpretax : 0 ≤ termPretax) :
    maximumAllowedDiscount minPostMargin providerMonthly termMultiplier parchinTerm addonsTerm
      termPretax ≤ termPretax := by
  unfold maximumAllowedDiscount
  cases hfilter : minPostMargin.filter (0 < ·) with
  | none => exact le_rfl
  | some margin =>
      have hkeep := hmargin margin (Option.filter_eq_some_iff.1 hfilter).1
      have hfloor : 0 ≤ (providerMonthly * bpsDenominator + (10000 - margin) - 1).tdiv
          (10000 - margin) := by
        refine Int.tdiv_nonneg ?_ (by omega)
        have : 0 ≤ providerMonthly * bpsDenominator := mul_nonneg hprovider (by decide)
        omega
      have := mul_nonneg hfloor hterm
      dsimp only
      split_ifs
      · omega
      · exact hpretax

/-- **The engine returns a price exactly for the inputs that it accepts.** -/
theorem compute_isOk_iff :
    (∃ price, computeCommercialPriceBreakdown input = .ok price) ↔ input.Accepted := by
  constructor
  · rintro ⟨price, h⟩
    exact (compute_spec h).1
  · intro h
    obtain ⟨markup, hmarkup⟩ := monthlyMarkup_isOk h
    obtain ⟨discount, hdiscount, hdiscountLow, hdiscountHigh⟩ := resolveTermDiscountBps_isOk h
    have hmarkups := monthlyMarkup_nonneg hmarkup
    have haddons := addons_nonneg (by rw [h.addons]; exact Bool.false_ne_true)
    have hprovider := h.provider
    have hparchin := h.parchin
    have hproviderMarkup := h.providerMarkup
    have hproductMarkup := h.productMarkup
    have hsum := h.markup
    obtain ⟨htaxLow, htaxHigh⟩ := h.tax
    set months : ℤ := ((input.termMonths.getD 1 : ℕ) : ℤ) with hmonths
    have hterm : 0 ≤ months := Int.natCast_nonneg _
    set pretax := input.providerMonthlyPriceIrr + (markup.1 + markup.2) + input.parchinPriceIrr +
      input.providerAddons.sum with hpretax
    have hpretaxTerm : 0 ≤ pretax * months := mul_nonneg (by omega) hterm
    have hmax := maximumAllowedDiscount_le (fun margin hmargin => (h.minimum margin hmargin).2)
      hprovider.le hterm (mul_nonneg hparchin hterm) (mul_nonneg haddons hterm) hpretaxTerm
    have hrequested := multiplyBpsRoundUp_eq hpretaxTerm hdiscountLow (by omega)
    have htaxed := @multiplyBpsRoundUp_eq (pretax * months - min (bpsUp (pretax * months * discount.1))
      (maximumAllowedDiscount input.minimumPostDiscountGrossMarginBps input.providerMonthlyPriceIrr
        months (input.parchinPriceIrr * months) (input.providerAddons.sum * months)
        (pretax * months))) input.taxBps
      (by have := min_le_right (bpsUp (pretax * months * discount.1)) _ |>.trans hmax; omega)
      htaxLow (by omega)
    have hrenewal := multiplyBpsRoundUp_eq (by omega : 0 ≤ pretax) htaxLow (by omega)
    have hminimum : input.minimumPostDiscountGrossMarginBps.any
        (fun margin => margin < 0 ∨ 10000 ≤ margin) = false := by
      cases hmargin : input.minimumPostDiscountGrossMarginBps with
      | none => rfl
      | some margin =>
          have := h.minimum margin hmargin
          simp only [Option.any_some, decide_eq_false_iff_not]
          omega
    unfold computeCommercialPriceBreakdown
    simp only [throwIf, assertIntegerBps, bind, Except.bind, pure, Except.pure]
    rw [if_neg (by omega), if_neg (by omega), if_neg (by omega), if_neg (by omega), if_neg (by omega)]
    simp only [h.term, Bool.not_true, Bool.false_eq_true, if_false]
    rw [if_neg (by omega)]
    simp only [hmarkup, h.addons, Bool.false_eq_true, if_false, hdiscount]
    simp only [← hmonths, ← hpretax, hrequested, hminimum, Bool.false_eq_true, if_false, htaxed,
      hrenewal]
    exact ⟨_, rfl⟩

end AbrChin.Pricing
