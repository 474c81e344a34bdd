import AbrChin.Accounting.DoubleEntry
import AbrChin.Accounting.Posting
import Mathlib.Algebra.BigOperators.Ring.List

/-!
# The engine's price and its journal entry

The pricing engine splits a price into line items, and the posting of the purchase splits it
again, from the stored items.  This module says when the two agree, and for which stored items
the posting passes its own validation: for all but a negative infrastructure revenue that the
other components make up for.
-/

namespace AbrChin.Accounting

open Lib Js Pricing

/-! ## Lines that pass validation -/

/-- A line of a known account that moves one side. -/
structure JournalLineInput.Sound (line : JournalLineInput) : Prop where
  account : (isAccountCode line.accountCode).isSome
  oneSided : (0 < line.debitRial ∧ line.creditRial = 0) ∨
    (line.debitRial = 0 ∧ 0 < line.creditRial)

variable {line : JournalLineInput}

theorem normalizeLine_of_sound (h : line.Sound) (index : ℕ) :
    ∃ normalized, normalizeLine index line = .ok normalized := by
  have haccount : assertAccountCode line.accountCode = .ok line.accountCode := by
    unfold assertAccountCode
    obtain ⟨code, hcode⟩ := Option.isSome_iff_exists.1 h.account
    rw [hcode]
  have hsides := h.oneSided
  refine ⟨_, bind_eq_ok.2 ⟨_, haccount, bind_eq_ok.2 ⟨(), throwIf_eq_ok.2 (by omega),
    bind_eq_ok.2 ⟨(), throwIf_eq_ok.2 (by omega), bind_eq_ok.2 ⟨(), throwIf_eq_ok.2 (by omega),
    bind_eq_ok.2 ⟨(), throwIf_eq_ok.2 (by omega), rfl⟩⟩⟩⟩⟩⟩

variable {lines : List JournalLineInput}

theorem normalizeLines_of_sound (h : ∀ line ∈ lines, line.Sound) (index : ℕ) :
    ∃ normalized, normalizeLines index lines = .ok normalized := by
  induction lines generalizing index with
  | nil => exact ⟨[], rfl⟩
  | cons line rest ih =>
      obtain ⟨first, hfirst⟩ := normalizeLine_of_sound (h line List.mem_cons_self) index
      obtain ⟨others, hothers⟩ :=
        ih (fun other hother => h other (List.mem_cons_of_mem _ hother)) (index + 1)
      exact ⟨_, bind_eq_ok.2 ⟨first, hfirst, bind_eq_ok.2 ⟨others, hothers, rfl⟩⟩⟩

/-- The debits of lines that are to be posted. -/
def debits (lines : List JournalLineInput) : ℤ := (lines.map JournalLineInput.debitRial).sum

/-- The credits of lines that are to be posted. -/
def credits (lines : List JournalLineInput) : ℤ := (lines.map JournalLineInput.creditRial).sum

theorem totals_of_amounts {normalized : List JournalLine}
    (h : normalized.map JournalLine.amounts = lines.map JournalLineInput.amounts) :
    debitTotal normalized = debits lines ∧ creditTotal normalized = credits lines := by
  have hdebits := congrArg (fun amounts => (amounts.map fun line => line.2.1).sum) h
  have hcredits := congrArg (fun amounts => (amounts.map fun line => line.2.2).sum) h
  simp only [List.map_map] at hdebits hcredits
  exact ⟨hdebits, hcredits⟩

/-- Balanced lines of known accounts pass validation. -/
theorem validateLines_of_sound (h : ∀ line ∈ lines, line.Sound)
    (hbalanced : debits lines = credits lines) (hpositive : 0 < debits lines) :
    ∃ normalized, validateLines lines = .ok normalized := by
  obtain ⟨normalized, hnormalized⟩ := normalizeLines_of_sound h 0
  obtain ⟨hdebits, hcredits⟩ := totals_of_amounts (normalizeLines_eq_ok hnormalized).1
  have hlength : lines.length ≠ 0 := by
    intro hzero
    rw [List.length_eq_zero_iff.1 hzero] at hpositive
    exact lt_irrefl _ hpositive
  refine ⟨normalized, bind_eq_ok.2 ⟨(), throwIf_eq_ok.2 hlength, bind_eq_ok.2 ⟨normalized,
    hnormalized, bind_eq_ok.2 ⟨(), throwIf_eq_ok.2 ?_, bind_eq_ok.2 ⟨(), throwIf_eq_ok.2 ?_,
    rfl⟩⟩⟩⟩⟩
  · rw [hdebits, hcredits, hbalanced]
    simp
  · omega

/-! ## The lines of a purchase -/

@[simp] theorem debits_append (first second : List JournalLineInput) :
    debits (first ++ second) = debits first + debits second := by
  simp [debits]

@[simp] theorem credits_append (first second : List JournalLineInput) :
    credits (first ++ second) = credits first + credits second := by
  simp [credits]

@[simp] theorem debits_pushLine (code : AccountCode) (debitRial creditRial : ℤ)
    (description : String) :
    debits (pushLine code debitRial creditRial description) = debitRial := by
  unfold pushLine debits
  split
  · rename_i h
    simp [h.1]
  · simp

@[simp] theorem credits_pushLine (code : AccountCode) (debitRial creditRial : ℤ)
    (description : String) :
    credits (pushLine code debitRial creditRial description) = creditRial := by
  unfold pushLine credits
  split
  · rename_i h
    simp [h.2]
  · simp

/-- The line of an amount that is not negative. -/
theorem sound_pushLine {code : AccountCode} {debitRial creditRial : ℤ} {description : String}
    (h : (0 ≤ debitRial ∧ creditRial = 0) ∨ (debitRial = 0 ∧ 0 ≤ creditRial))
    (hline : line ∈ pushLine code debitRial creditRial description) :
    line.Sound := by
  unfold pushLine at hline
  split at hline
  · cases hline
  · rw [List.mem_singleton.1 hline]
    exact ⟨by simp, by dsimp only; omega⟩

theorem pushCogs_eq (code : AccountCode) (cogs : Option ℤ) (cost funding : String) :
    debits (pushCogs code cogs cost funding) = credits (pushCogs code cogs cost funding) ∧
      0 ≤ debits (pushCogs code cogs cost funding) ∧
      ∀ line ∈ pushCogs code cogs cost funding, line.Sound := by
  unfold pushCogs
  split
  · split
    · rename_i hpos
      refine ⟨by simp, by simp [hpos.le], fun line hline => ?_⟩
      rcases List.mem_append.1 hline with hline | hline
      · exact sound_pushLine (.inl ⟨hpos.le, rfl⟩) hline
      · exact sound_pushLine (.inr ⟨rfl, hpos.le⟩) hline
    · exact ⟨rfl, le_refl _, fun line hline => nomatch hline⟩
  · exact ⟨rfl, le_refl _, fun line hline => nomatch hline⟩

theorem clip_nonneg (amount : ℤ) : 0 ≤ if 0 < amount then amount else 0 := by
  split <;> omega

/-- The components other than the infrastructure revenue are not negative. -/
theorem components_nonneg (order : PurchasedOrder) :
    0 ≤ (resolveOrderSnapshots order).parchinRevenue ∧
    0 ≤ (resolveOrderSnapshots order).addonRevenue ∧
    0 ≤ (resolveOrderSnapshots order).termDiscount ∧
    0 ≤ (resolveOrderSnapshots order).couponDiscount ∧
    0 ≤ (resolveOrderSnapshots order).taxPayable :=
  ⟨clip_nonneg _, clip_nonneg _, abs_nonneg _, abs_nonneg _, clip_nonneg _⟩

/-- The totals of the lines of a purchase. -/
theorem totals_purchaseLines (snap : OrderSnapshots) (amount infrastructure : ℤ) :
    ∃ cogs : ℤ, 0 ≤ cogs ∧
      debits (snap.purchaseLines amount infrastructure) =
        amount + snap.termDiscount + snap.couponDiscount + cogs ∧
      credits (snap.purchaseLines amount infrastructure) =
        infrastructure + snap.parchinRevenue + snap.addonRevenue + snap.taxPayable + cogs := by
  unfold OrderSnapshots.purchaseLines buildPurchaseLines
  simp only [debits_append, credits_append, debits_pushLine, credits_pushLine]
  split
  · -- a cost and its funding have the same amount
    obtain ⟨hprovider, hprovider', -⟩ := pushCogs_eq .providerInfrastructureCogs
      snap.providerInfrastructureCogs "بهای تمام‌شده زیرساخت (Snapshot)" "تسویه تأمین زیرساخت"
    obtain ⟨haddon, haddon', -⟩ := pushCogs_eq .providerAddonCogs snap.providerAddonCogs
      "بهای تمام‌شده افزونه (Snapshot)" "تسویه تأمین افزونه"
    simp only [debits_append, credits_append]
    exact ⟨_, add_nonneg hprovider' haddon', by omega, by omega⟩
  · exact ⟨0, le_refl _, by simp [debits], by simp [credits]⟩

variable {order : PurchasedOrder} {infrastructure : ℤ}

/-- The lines of a purchase with components that are not negative. -/
theorem sound_purchaseLines (hamount : 0 ≤ order.amount) (hinfrastructure : 0 ≤ infrastructure)
    (hline : line ∈ (resolveOrderSnapshots order).purchaseLines order.amount infrastructure) :
    line.Sound := by
  obtain ⟨hparchin, haddon, hterm, hcoupon, htax⟩ := components_nonneg order
  unfold OrderSnapshots.purchaseLines buildPurchaseLines at hline
  simp only [List.mem_append] at hline
  rcases hline with ((((((hline | hline) | hline) | hline) | hline) | hline) | hline) | hline
  · exact sound_pushLine (.inl ⟨hamount, rfl⟩) hline
  · exact sound_pushLine (.inr ⟨rfl, hinfrastructure⟩) hline
  · exact sound_pushLine (.inr ⟨rfl, hparchin⟩) hline
  · exact sound_pushLine (.inr ⟨rfl, haddon⟩) hline
  · exact sound_pushLine (.inl ⟨hterm, rfl⟩) hline
  · exact sound_pushLine (.inl ⟨hcoupon, rfl⟩) hline
  · exact sound_pushLine (.inr ⟨rfl, htax⟩) hline
  · split at hline
    · rcases List.mem_append.1 hline with hline | hline
      · exact (pushCogs_eq _ _ _ _).2.2 line hline
      · exact (pushCogs_eq _ _ _ _).2.2 line hline
    · cases hline

/-- The lines of a purchase pass validation when they add up and the infrastructure revenue is
not negative. -/
theorem validateLines_purchaseLines (hamount : 0 < order.amount)
    (hinfrastructure : 0 ≤ infrastructure)
    (hsum : infrastructure = (resolveOrderSnapshots order).residual order.amount) :
    ∃ normalized, validateLines
      ((resolveOrderSnapshots order).purchaseLines order.amount infrastructure) =
        .ok normalized := by
  obtain ⟨-, -, hterm, hcoupon, -⟩ := components_nonneg order
  obtain ⟨cogs, hcogs, hdebits, hcredits⟩ := totals_purchaseLines (resolveOrderSnapshots order)
    order.amount infrastructure
  unfold OrderSnapshots.residual at hsum
  refine validateLines_of_sound (fun line hline => ?_) (by omega) (by omega)
  exact sound_purchaseLines hamount.le hinfrastructure hline

/-- A line with a negative amount does not pass. -/
theorem not_validateLines_of_negative (hline : line ∈ lines) (hnegative : line.creditRial < 0)
    (normalized : List JournalLine) :
    validateLines lines ≠ .ok normalized := by
  intro h
  obtain ⟨hbalanced, -, hamounts⟩ := validateLines_eq_ok h
  have hmem : line.amounts ∈ normalized.map JournalLine.amounts := by
    rw [hamounts]
    exact List.mem_map_of_mem hline
  obtain ⟨posted, hposted, hsame⟩ := List.mem_map.1 hmem
  have hcredit : posted.creditRial = line.creditRial :=
    congrArg (fun amounts => amounts.2.2) hsame
  have hsides := hbalanced.oneSided posted hposted
  omega

/-- The components of an order add up to its amount with a negative infrastructure revenue. -/
def PurchasedOrder.NegativeInfrastructure (order : PurchasedOrder) : Prop :=
  (resolveOrderSnapshots order).infrastructureRevenue < 0 ∧
    (resolveOrderSnapshots order).impliedWallet = order.amount

/-- **Which purchases pass validation.** -/
theorem servicePurchase_valid_iff (hamount : 0 < order.amount) :
    (∃ normalized, validateLines (servicePurchase order).lines = .ok normalized) ↔
      ¬ order.NegativeInfrastructure := by
  unfold PurchasedOrder.NegativeInfrastructure servicePurchase
  dsimp only
  by_cases himplied : (resolveOrderSnapshots order).impliedWallet ≠ order.amount
  · rw [if_pos himplied]
    refine ⟨fun _ h => himplied h.2, fun _ => ?_⟩
    split
    · rename_i hresidual
      exact validateLines_purchaseLines hamount hresidual rfl
    · refine validateLines_of_sound ?_ (by simp [debits, credits]) (by simpa [debits] using hamount)
      intro line hline
      simp only [List.mem_cons, List.not_mem_nil, or_false] at hline
      rcases hline with rfl | rfl
      · exact ⟨by simp, .inl ⟨hamount, rfl⟩⟩
      · exact ⟨by simp, .inr ⟨rfl, hamount⟩⟩
  · rw [if_neg himplied]
    have himplied := not_not.1 himplied
    constructor
    · rintro ⟨normalized, hvalid⟩ ⟨hnegative, -⟩
      have hpush : pushLine .infrastructureRevenue 0
          (resolveOrderSnapshots order).infrastructureRevenue "درآمد زیرساخت" =
          [⟨AccountCode.infrastructureRevenue.text, 0,
            (resolveOrderSnapshots order).infrastructureRevenue, some "درآمد زیرساخت", none⟩] :=
        if_neg (by omega)
      have hline : (⟨AccountCode.infrastructureRevenue.text, 0,
          (resolveOrderSnapshots order).infrastructureRevenue, some "درآمد زیرساخت", none⟩ :
            JournalLineInput) ∈ (resolveOrderSnapshots order).purchaseLines order.amount
              (resolveOrderSnapshots order).infrastructureRevenue := by
        simp only [OrderSnapshots.purchaseLines, buildPurchaseLines, hpush, List.mem_append,
          List.mem_singleton, true_or, or_true]
      exact not_validateLines_of_negative hline hnegative normalized hvalid
    · intro hnot
      refine validateLines_purchaseLines hamount (by omega) ?_
      unfold OrderSnapshots.impliedWallet at himplied
      unfold OrderSnapshots.residual
      omega

/-! ## The components of an engine price -/

/-- What the engine returns, read off its line items. -/
structure Components (price : CommercialPriceBreakdown) : Prop where
  provider : 0 < price.providerCostRial
  markup : 0 ≤ price.totalMarkupRial
  parchin : 0 ≤ price.parchinRial
  addons : 0 ≤ price.addonsRial
  discount : 0 ≤ price.discountRial
  tax : 0 ≤ price.taxRial
  final : price.finalPriceRial = price.providerCostRial + price.totalMarkupRial +
    price.parchinRial + price.addonsRial - price.discountRial + price.taxRial
  items : ∃ addons : List ℤ, addons.sum = price.addonsRial ∧ price.lineItems =
    [⟨.providerInfrastructure, price.providerCostRial⟩,
      ⟨.infrastructureMarkup, price.totalMarkupRial⟩, ⟨.parchin, price.parchinRial⟩] ++
    addons.map (fun amount => ⟨.providerAddon, amount⟩) ++
    (if 0 < price.discountRial then
      [⟨if price.discountSource = .coupon then .couponDiscount else .termDiscount,
        -price.discountRial⟩] else []) ++
    [⟨.tax, price.taxRial⟩]

theorem maximumAllowedDiscount_nonneg {margin : Option ℤ}
    {providerMonthly termMultiplier parchinTerm addonsTerm termPretax : ℤ} (h : 0 ≤ termPretax) :
    0 ≤ maximumAllowedDiscount margin providerMonthly termMultiplier parchinTerm addonsTerm
      termPretax := by
  unfold maximumAllowedDiscount
  split
  · dsimp only
    split <;> omega
  · exact h

variable {price : CommercialPriceBreakdown}

theorem components_of_compute {input : CommercialPricingInput}
    (h : computeCommercialPriceBreakdown input = .ok price) : Components price := by
  unfold computeCommercialPriceBreakdown at h
  simp only [bind_eq_ok, throwIf_eq_ok, exists_const, pure, Except.pure] at h
  obtain ⟨hprovider, hparchin, _, -, _, -, _, -, hmonths, _, -, markup, hmarkup, haddons,
    discount, -, requested, hrequested, -, tax, htax, _, -, h⟩ := h
  have hmarkup := monthlyMarkup_nonneg hmarkup
  have haddons := addons_nonneg haddons
  have hrequested := multiplyBpsRoundUp_nonneg hrequested
  have htax := multiplyBpsRoundUp_nonneg htax
  have hmonths : 0 < input.termMonths.getD 1 := by
    simp only [Bool.not_eq_true', Bool.not_eq_false, isBillingTermMonths,
      decide_eq_true_eq] at hmonths
    rcases List.mem_cons.1 hmonths with h | hmonths
    · omega
    · simp at hmonths
      omega
  have hterm : (0 : ℤ) < (input.termMonths.getD 1 : ℕ) := Int.natCast_pos.2 hmonths
  obtain rfl := Except.ok.inj h
  constructor
  case provider => exact mul_pos (by omega) hterm
  case markup => exact mul_nonneg hmarkup hterm.le
  case parchin => exact mul_nonneg (by omega) hterm.le
  case addons => exact mul_nonneg haddons hterm.le
  case discount =>
    refine le_min hrequested (maximumAllowedDiscount_nonneg ?_)
    exact mul_nonneg (by omega) hterm.le
  case tax => exact htax
  case final =>
    dsimp only
    ring
  case items =>
    refine ⟨input.providerAddons.map (· * (input.termMonths.getD 1 : ℕ)), ?_, ?_⟩
    · simp [List.sum_map_mul_right]
    · dsimp only
      rw [List.map_map]
      rfl

/-! ## The sums of the stored items -/

/-- The sum of the items of one type. -/
def typeSum (items : List QuoteLineItem) (type : QuoteLineItemType) : ℤ :=
  ((items.filter fun item => item.type = type).map QuoteLineItem.amountIrr).sum

@[simp] theorem typeSum_append (first second : List QuoteLineItem) (type : QuoteLineItemType) :
    typeSum (first ++ second) type = typeSum first type + typeSum second type := by
  simp [typeSum]

@[simp] theorem typeSum_cons (item : QuoteLineItem) (rest : List QuoteLineItem)
    (type : QuoteLineItemType) : typeSum (item :: rest) type =
      (if item.type = type then item.amountIrr else 0) + typeSum rest type := by
  by_cases h : item.type = type <;> simp [typeSum, h]

@[simp] theorem typeSum_nil (type : QuoteLineItemType) : typeSum [] type = 0 := rfl

@[simp] theorem typeSum_addons (addons : List ℤ) (type : QuoteLineItemType) :
    typeSum (addons.map fun amount => ⟨.providerAddon, amount⟩) type =
      if type = .providerAddon then addons.sum else 0 := by
  induction addons with
  | nil => simp
  | cons amount rest ih =>
      rw [List.map_cons, typeSum_cons, ih, List.sum_cons]
      by_cases h : type = .providerAddon
      · simp [h]
      · simp [h, Ne.symm h]

theorem lineItemType_injective {first second : QuoteLineItemType}
    (h : lineItemType first = lineItemType second) : first = second := by
  revert h
  cases first <;> cases second <;> decide

/-- The stored sums are the sums of the items. -/
theorem sumByType_serialized (items : List QuoteLineItem) (type : QuoteLineItemType) :
    sumByType (items.map fun item => ⟨lineItemType item.type, item.amountIrr⟩)
      (lineItemType type) = typeSum items type := by
  unfold sumByType typeSum
  rw [List.filter_map, List.map_map]
  congr 2
  apply List.filter_congr
  intro item _
  have hiff : lineItemType item.type = lineItemType type ↔ item.type = type :=
    ⟨lineItemType_injective, congrArg lineItemType⟩
  simp only [Function.comp_apply, hiff]

/-- The sums by type of an engine price. -/
theorem typeSum_lineItems (h : Components price) (type : QuoteLineItemType) :
    typeSum price.lineItems type =
      match type with
      | .providerInfrastructure => price.providerCostRial
      | .infrastructureMarkup => price.totalMarkupRial
      | .parchin => price.parchinRial
      | .providerAddon => price.addonsRial
      | .couponDiscount => if price.discountSource = .coupon then -price.discountRial else 0
      | .termDiscount => if price.discountSource = .coupon then 0 else -price.discountRial
      | .tax => price.taxRial := by
  obtain ⟨addons, hsum, hitems⟩ := h.items
  have hdiscount : typeSum (if 0 < price.discountRial then
      [⟨if price.discountSource = .coupon then .couponDiscount else .termDiscount,
        -price.discountRial⟩] else []) type =
      match type with
      | .couponDiscount => if price.discountSource = .coupon then -price.discountRial else 0
      | .termDiscount => if price.discountSource = .coupon then 0 else -price.discountRial
      | _ => 0 := by
    have hnonneg := h.discount
    by_cases hpos : 0 < price.discountRial
    · rw [if_pos hpos]
      by_cases hsource : price.discountSource = .coupon
      · cases type <;> simp [hsource]
      · cases type <;> simp [hsource]
    · have hzero : price.discountRial = 0 := by omega
      rw [if_neg hpos, hzero]
      cases type <;> simp
  rw [hitems, typeSum_append, typeSum_append, typeSum_append, hdiscount, typeSum_addons, hsum]
  cases type <;> simp

/-! ## An order at an engine price -/

/-- The order was quoted by the engine: its quote stores the line items, and its amount is the
final price. -/
structure PurchasedOrder.QuotedAt (order : PurchasedOrder) (price : CommercialPriceBreakdown) :
    Prop where
  items : order.recommendationQuote.bind PurchaseQuote.lineItemsSnapshot =
    some (serializeQuoteLineItems price.lineItems)
  amount : order.amount = price.finalPriceRial

/-- The markup that stands in for a missing item. -/
def PurchasedOrder.markupFallback (order : PurchasedOrder) : ℤ :=
  (order.markupMonthly.map (· * order.safeTermMonths)).getD 0

/-- The Parchin price that stands in for a missing item. -/
def PurchasedOrder.parchinFallback (order : PurchasedOrder) : ℤ :=
  (order.parchinMonthly.map (· * order.safeTermMonths)).getD 0

/-- Where an item of the price is zero, the other fields of the snapshots add nothing. -/
structure PurchasedOrder.Silent (order : PurchasedOrder) (price : CommercialPriceBreakdown) :
    Prop where
  markup : price.totalMarkupRial = 0 →
    order.markupFallback = 0 ∨ price.providerCostRial + order.markupFallback ≤ 0
  parchin : price.parchinRial = 0 → order.parchinFallback ≤ 0
  tax : price.taxRial = 0 → order.taxFallback ≤ 0

/-- The stored sums of an order at an engine price. -/
theorem sumByType_quoted (h : Components price) (hquoted : order.QuotedAt price)
    (type : QuoteLineItemType) :
    sumByType order.lines (lineItemType type) = typeSum price.lineItems type := by
  have hlines : order.lines =
      price.lineItems.map fun item => ⟨lineItemType item.type, item.amountIrr⟩ := by
    unfold PurchasedOrder.lines
    dsimp only
    rw [hquoted.items, parseSnapshotLines_serialize]
    obtain ⟨addons, -, hitems⟩ := h.items
    exact if_pos (by rw [hitems]; simp)
  rw [hlines, sumByType_serialized]

/-- The snapshot of an order at an engine price. -/
theorem resolve_quoted (h : Components price) (hquoted : order.QuotedAt price) :
    resolveOrderSnapshots order = {
      infrastructureRevenue := price.providerCostRial +
        (if 0 < price.totalMarkupRial then price.totalMarkupRial
        else if 0 < price.providerCostRial + order.markupFallback then order.markupFallback else 0)
      parchinRevenue :=
        if 0 < price.parchinRial then price.parchinRial else max 0 order.parchinFallback
      addonRevenue := price.addonsRial
      termDiscount := if price.discountSource = .coupon then 0 else price.discountRial
      couponDiscount := if price.discountSource = .coupon then price.discountRial else 0
      taxPayable := if 0 < price.taxRial then price.taxRial else max 0 order.taxFallback
      providerInfrastructureCogs := some price.providerCostRial
      providerAddonCogs := if 0 < price.addonsRial then some price.addonsRial else none
      hasProviderCost := true
      termMonths := order.safeTermMonths } := by
  have hprovider : sumByType order.lines "PROVIDER_INFRASTRUCTURE" = price.providerCostRial :=
    (sumByType_quoted h hquoted .providerInfrastructure).trans (typeSum_lineItems h _)
  have hmarkup : sumByType order.lines "INFRASTRUCTURE_MARKUP" = price.totalMarkupRial :=
    (sumByType_quoted h hquoted .infrastructureMarkup).trans (typeSum_lineItems h _)
  have hparchin : sumByType order.lines "PARCHIN" = price.parchinRial :=
    (sumByType_quoted h hquoted .parchin).trans (typeSum_lineItems h _)
  have haddon : sumByType order.lines "PROVIDER_ADDON" = price.addonsRial :=
    (sumByType_quoted h hquoted .providerAddon).trans (typeSum_lineItems h _)
  have hterm : sumByType order.lines "TERM_DISCOUNT" = _ :=
    (sumByType_quoted h hquoted .termDiscount).trans (typeSum_lineItems h _)
  have hcoupon : sumByType order.lines "COUPON_DISCOUNT" = _ :=
    (sumByType_quoted h hquoted .couponDiscount).trans (typeSum_lineItems h _)
  have htax : sumByType order.lines "TAX" = price.taxRial :=
    (sumByType_quoted h hquoted .tax).trans (typeSum_lineItems h _)
  have hpos := h.provider
  have hdiscount := h.discount
  have haddons := h.addons
  have hnonneg := h.markup
  have hmarkupFallback : (order.markupMonthly.map (· * order.safeTermMonths)).getD 0 =
      order.markupFallback := rfl
  have hparchinFallback : (order.parchinMonthly.map (· * order.safeTermMonths)).getD 0 =
      order.parchinFallback := rfl
  unfold resolveOrderSnapshots
  simp only [hprovider, hmarkup, hparchin, haddon, hterm, hcoupon, htax,
    hparchinFallback, Option.getD_some, Option.any_some, hpos, decide_true, if_true]
  congr 1
  case e_infrastructureRevenue =>
    by_cases hm : 0 < price.totalMarkupRial
    · simp only [if_pos hm, Option.getD_some]
      split_ifs <;> omega
    · simp only [if_neg hm, hmarkupFallback]
      split_ifs <;> omega
  case e_parchinRevenue => split_ifs <;> omega
  case e_addonRevenue => split_ifs <;> omega
  case e_termDiscount =>
    split
    · rw [abs_zero]
    · rw [abs_neg, abs_of_nonneg hdiscount]
  case e_couponDiscount =>
    split
    · rw [abs_neg, abs_of_nonneg hdiscount]
    · rw [abs_zero]
  case e_taxPayable => split_ifs <;> omega

/-! ## The entry of an engine price -/

/-- The amounts are not both zero. -/
def moves (amounts : String × ℤ × ℤ) : Bool := amounts.2.1 ≠ 0 || amounts.2.2 ≠ 0

/-- The lines that split a price into its components: those that are zero are left out. -/
def splitLines (walletAmount infrastructure parchin addons termDiscount couponDiscount tax
    providerCost : ℤ) : List (String × ℤ × ℤ) :=
  [(AccountCode.customerWalletLiability.text, walletAmount, 0),
    (AccountCode.infrastructureRevenue.text, 0, infrastructure),
    (AccountCode.parchinRevenue.text, 0, parchin),
    (AccountCode.addonRevenue.text, 0, addons),
    (AccountCode.termDiscount.text, termDiscount, 0),
    (AccountCode.couponDiscount.text, couponDiscount, 0),
    (AccountCode.taxPayable.text, 0, tax),
    (AccountCode.providerInfrastructureCogs.text, providerCost, 0),
    (AccountCode.providerFundingClearing.text, 0, providerCost),
    (AccountCode.providerAddonCogs.text, addons, 0),
    (AccountCode.providerFundingClearing.text, 0, addons)].filter moves

/-- The lines that the engine's components ask for. -/
def engineLines (price : CommercialPriceBreakdown) : List (String × ℤ × ℤ) :=
  splitLines price.finalPriceRial (price.providerCostRial + price.totalMarkupRial)
    price.parchinRial price.addonsRial
    (if price.discountSource = .coupon then 0 else price.discountRial)
    (if price.discountSource = .coupon then price.discountRial else 0)
    price.taxRial price.providerCostRial

theorem amounts_pushLine (code : AccountCode) (debitRial creditRial : ℤ) (description : String) :
    (pushLine code debitRial creditRial description).map JournalLineInput.amounts =
      [(code.text, debitRial, creditRial)].filter moves := by
  unfold pushLine moves
  by_cases h : debitRial = 0 ∧ creditRial = 0
  · rw [if_pos h]
    simp [h.1, h.2]
  · rw [if_neg h, List.filter_cons_of_pos]
    · rfl
    · by_cases hdebit : debitRial = 0
      · have hcredit : creditRial ≠ 0 := fun hcredit => h ⟨hdebit, hcredit⟩
        simp [hcredit]
      · simp [hdebit]

theorem amounts_pushCogs (code : AccountCode) {amount : ℤ} (hnonneg : 0 ≤ amount)
    (cost funding : String) :
    (pushCogs code (if 0 < amount then some amount else none) cost funding).map
        JournalLineInput.amounts =
      [(code.text, amount, 0), (AccountCode.providerFundingClearing.text, 0, amount)].filter
        moves := by
  unfold pushCogs
  by_cases hpos : 0 < amount
  · simp only [if_pos hpos]
    rw [List.map_append, amounts_pushLine, amounts_pushLine, ← List.filter_append]
    rfl
  · have hzero : amount = 0 := by omega
    simp [hzero, moves]

/-- The lines of an order at an engine price. -/
theorem amounts_purchaseLines (h : Components price) (hquoted : order.QuotedAt price)
    (amount infrastructure : ℤ) :
    ((resolveOrderSnapshots order).purchaseLines amount infrastructure).map
        JournalLineInput.amounts =
      splitLines amount infrastructure (resolveOrderSnapshots order).parchinRevenue
        price.addonsRial (if price.discountSource = .coupon then 0 else price.discountRial)
        (if price.discountSource = .coupon then price.discountRial else 0)
        (resolveOrderSnapshots order).taxPayable price.providerCostRial := by
  have hprovider : some price.providerCostRial =
      if 0 < price.providerCostRial then some price.providerCostRial else none :=
    (if_pos h.provider).symm
  unfold OrderSnapshots.purchaseLines buildPurchaseLines splitLines
  rw [resolve_quoted h hquoted]
  dsimp only
  rw [if_pos rfl, hprovider]
  simp only [List.map_append, amounts_pushLine, amounts_pushCogs _ h.provider.le,
    amounts_pushCogs _ h.addons, ← List.filter_append]
  rfl

/-- What the lines of an account add up to, on the credit side. -/
def accountNet (code : AccountCode) (amounts : List (String × ℤ × ℤ)) : ℤ :=
  ((amounts.filter fun line => line.1 = code.text).map fun line => line.2.2 - line.2.1).sum

/-- Lines that are zero add nothing to their account. -/
theorem accountNet_filter_moves (code : AccountCode) (amounts : List (String × ℤ × ℤ)) :
    accountNet code (amounts.filter moves) = accountNet code amounts := by
  unfold accountNet
  induction amounts with
  | nil => rfl
  | cons line rest ih =>
      by_cases hmoves : moves line = true
      · rw [List.filter_cons_of_pos hmoves]
        by_cases hcode : line.1 = code.text
        · simpa [hcode] using ih
        · simpa [hcode] using ih
      · have hzero : line.2.2 - line.2.1 = 0 := by
          simp only [moves, Bool.or_eq_true, decide_eq_true_eq, not_or, not_not] at hmoves
          omega
        rw [List.filter_cons_of_neg hmoves, ih]
        by_cases hcode : line.1 = code.text
        · simp [hcode, hzero]
        · simp [hcode]

theorem accountNet_splitLines (walletAmount infrastructure parchin addons termDiscount
    couponDiscount tax providerCost : ℤ) :
    let lines := splitLines walletAmount infrastructure parchin addons termDiscount couponDiscount
      tax providerCost
    accountNet .infrastructureRevenue lines = infrastructure ∧
      accountNet .parchinRevenue lines = parchin ∧ accountNet .taxPayable lines = tax := by
  unfold splitLines
  simp only [accountNet_filter_moves]
  refine ⟨?_, ?_, ?_⟩ <;> simp [accountNet, AccountCode.text]

/-- **When the entry of an order is the engine's split.** -/
theorem servicePurchase_quoted_iff (h : Components price) (hquoted : order.QuotedAt price) :
    ((servicePurchase order).quality = some .final ∧
      (servicePurchase order).lines.map JournalLineInput.amounts = engineLines price) ↔
    order.Silent price := by
  have hresolve := resolve_quoted h hquoted
  have hmarkup := h.markup
  have hparchin := h.parchin
  have htax := h.tax
  have hfinal := h.final
  have himplied : (resolveOrderSnapshots order).impliedWallet =
      (resolveOrderSnapshots order).infrastructureRevenue +
      (resolveOrderSnapshots order).parchinRevenue + price.addonsRial - price.discountRial +
      (resolveOrderSnapshots order).taxPayable := by
    have haddon : (resolveOrderSnapshots order).addonRevenue = price.addonsRial := by
      rw [hresolve]
    have hdiscount : (resolveOrderSnapshots order).termDiscount +
        (resolveOrderSnapshots order).couponDiscount = price.discountRial := by
      rw [hresolve]
      dsimp only
      split <;> omega
    unfold OrderSnapshots.impliedWallet
    omega
  have hcost : (resolveOrderSnapshots order).hasProviderCost = true := by rw [hresolve]
  have hinfrastructure := congrArg OrderSnapshots.infrastructureRevenue hresolve
  have hparchinRevenue := congrArg OrderSnapshots.parchinRevenue hresolve
  have htaxPayable := congrArg OrderSnapshots.taxPayable hresolve
  dsimp only at hinfrastructure hparchinRevenue htaxPayable
  unfold servicePurchase
  dsimp only
  constructor
  · rintro ⟨hquality, hlines⟩
    -- a residual or an unbalanced snapshot has another quality
    by_cases hsum : (resolveOrderSnapshots order).impliedWallet ≠ order.amount
    · rw [if_pos hsum] at hquality
      split at hquality <;> cases hquality
    · rw [if_neg hsum] at hlines
      rw [amounts_purchaseLines h hquoted, engineLines] at hlines
      obtain ⟨hi, hp, ht⟩ := accountNet_splitLines order.amount
        (resolveOrderSnapshots order).infrastructureRevenue
        (resolveOrderSnapshots order).parchinRevenue price.addonsRial
        (if price.discountSource = .coupon then 0 else price.discountRial)
        (if price.discountSource = .coupon then price.discountRial else 0)
        (resolveOrderSnapshots order).taxPayable price.providerCostRial
      rw [hlines] at hi hp ht
      obtain ⟨hi', hp', ht'⟩ := accountNet_splitLines price.finalPriceRial
        (price.providerCostRial + price.totalMarkupRial) price.parchinRial price.addonsRial
        (if price.discountSource = .coupon then 0 else price.discountRial)
        (if price.discountSource = .coupon then price.discountRial else 0)
        price.taxRial price.providerCostRial
      constructor
      · intro hzero
        rw [← hi, hi'] at hinfrastructure
        split_ifs at hinfrastructure <;> omega
      · intro hzero
        rw [← hp, hp'] at hparchinRevenue
        split_ifs at hparchinRevenue <;> omega
      · intro hzero
        rw [← ht, ht'] at htaxPayable
        split_ifs at htaxPayable <;> omega
  · intro hsilent
    have hi : (resolveOrderSnapshots order).infrastructureRevenue =
        price.providerCostRial + price.totalMarkupRial := by
      rw [hinfrastructure]
      by_cases hpos : 0 < price.totalMarkupRial
      · rw [if_pos hpos]
      · have hfallback := hsilent.markup (by omega)
        rw [if_neg hpos]
        split_ifs <;> omega
    have hp : (resolveOrderSnapshots order).parchinRevenue = price.parchinRial := by
      rw [hparchinRevenue]
      split_ifs with hpos
      · rfl
      · have hfallback := hsilent.parchin (by omega)
        omega
    have ht : (resolveOrderSnapshots order).taxPayable = price.taxRial := by
      rw [htaxPayable]
      split_ifs with hpos
      · rfl
      · have hfallback := hsilent.tax (by omega)
        omega
    have hamount := hquoted.amount
    have hsum : (resolveOrderSnapshots order).impliedWallet = order.amount := by omega
    rw [if_neg (not_not.2 hsum)]
    refine ⟨?_, ?_⟩
    · rw [hcost]
      rfl
    · show ((resolveOrderSnapshots order).purchaseLines _ _).map _ = _
      rw [amounts_purchaseLines h hquoted, hi, hp, ht, hamount]
      rfl

/-! ## Paying an order -/

theorem trim_purchaseKey (orderId : String) : trim (purchaseKey orderId) = purchaseKey orderId := by
  have hlist : (purchaseKey orderId).toList =
      ('s' :: ("ervice-order:".toList ++ orderId.toList ++ ":purchase:v".toList)) ++ ['1'] := by
    simp [purchaseKey]
  apply trim_of_ends
  · intro c hc
    rw [hlist, List.cons_append, List.head?_cons] at hc
    rw [← Option.some.inj hc]
    decide
  · intro c hc
    rw [hlist, List.getLast?_concat] at hc
    rw [← Option.some.inj hc]
    decide

theorem purchaseKey_ne_empty (orderId : String) : purchaseKey orderId ≠ "" := by
  intro h
  have hlist := congrArg String.toList h
  simp [purchaseKey] at hlist

/-- The entry that a paid order posts, in any journal in which its key is free. -/
def PurchasedOrder.Posts (order : PurchasedOrder) (price : CommercialPriceBreakdown) : Prop :=
  ∀ (journal : Journal) (id : String) (now : ℤ), byKey journal (purchaseKey order.id) = none →
    journal.find? id = none → ∃ entry journal',
      Tx.Commits (postServicePurchaseCompleted order id now) journal entry journal' ∧
      journal'.rows = journal.rows ++ [entry] ∧ entry.quality = .final ∧ Balanced entry.lines ∧
      entry.lines.map JournalLine.amounts = engineLines price

theorem servicePurchase_plain (order : PurchasedOrder) :
    (servicePurchase order).idempotencyKey = purchaseKey order.id ∧
      (servicePurchase order).reversesEntryId = none ∧
      ∃ quality, (servicePurchase order).quality = some quality := by
  unfold servicePurchase
  dsimp only
  split_ifs <;> exact ⟨rfl, rfl, _, rfl⟩

/-- An order at an engine price has a positive infrastructure revenue. -/
theorem not_negativeInfrastructure (h : Components price) (hquoted : order.QuotedAt price) :
    ¬ order.NegativeInfrastructure := by
  rintro ⟨hnegative, -⟩
  have hprovider := h.provider
  rw [resolve_quoted h hquoted] at hnegative
  dsimp only at hnegative
  split_ifs at hnegative <;> omega

theorem posts_iff (h : Components price) (hquoted : order.QuotedAt price)
    (hpositive : 0 < price.finalPriceRial) :
    order.Posts price ↔ order.Silent price := by
  obtain ⟨hkey, hplain, quality, hquality⟩ := servicePurchase_plain order
  have hamount : 0 < order.amount := by rw [hquoted.amount]; exact hpositive
  obtain ⟨normalized, hvalid⟩ :=
    (servicePurchase_valid_iff hamount).2 (not_negativeInfrastructure h hquoted)
  obtain ⟨hbalanced, -, hamounts⟩ := validateLines_eq_ok hvalid
  rw [← servicePurchase_quoted_iff h hquoted]
  constructor
  · intro hposts
    obtain ⟨entry, journal', hcommits, -, hfinal, -, hlines⟩ := hposts IndexedTable.empty "" 0 rfl rfl
    rcases commits_post hcommits with ⟨htaken, -⟩ | ⟨-, normalized', hvalid', rfl, -⟩
    · cases htaken
    · obtain ⟨-, -, hamounts'⟩ := validateLines_eq_ok hvalid'
      refine ⟨?_, hamounts' ▸ hlines⟩
      have hfinal : (servicePurchase order).quality.getD .final = .final := hfinal
      rw [hquality] at hfinal ⊢
      exact congrArg some hfinal
  · rintro ⟨hfinal, hlines⟩ journal id now hfree hid
    have htrim : trim (servicePurchase order).idempotencyKey = purchaseKey order.id := by
      rw [hkey, trim_purchaseKey]
    obtain ⟨journal', hcommits, hrows⟩ := commits_post_of_free
      (htrim ▸ purchaseKey_ne_empty order.id) hvalid hplain (htrim ▸ hfree) hid now
    refine ⟨_, journal', hcommits, hrows, ?_, hbalanced, hamounts.trans hlines⟩
    show (servicePurchase order).quality.getD .final = .final
    rw [hfinal]
    rfl

/-- **When the engine and the bookkeeping agree.**  The lines of an order with a positive amount
pass validation exactly when its stored items do not add up to the amount with a negative
infrastructure revenue.  An order at an engine price posts one balanced FINAL entry with the
engine's components exactly when, for the components that are zero, the other fields of the
snapshots add nothing. -/
theorem purchase_agrees_iff (order : PurchasedOrder) :
    (0 < order.amount →
      ((∃ normalized, validateLines (servicePurchase order).lines = .ok normalized) ↔
        ¬ order.NegativeInfrastructure)) ∧
    ∀ input price, computeCommercialPriceBreakdown input = .ok price →
      0 < price.finalPriceRial → order.QuotedAt price →
        (order.Posts price ↔ order.Silent price) := by
  refine ⟨servicePurchase_valid_iff, ?_⟩
  intro input price hprice hpositive hquoted
  exact posts_iff (components_of_compute hprice) hquoted hpositive

/-- A three-month order, quoted by the engine. -/
def sampleInput : CommercialPricingInput where
  providerMonthlyPriceIrr := 1000
  providerMarkupBps := 2000
  productMarkupBps := 0
  parchinPriceIrr := 100
  taxBps := 1000
  termMonths := some 3

/-- The items that the engine returns for it. -/
def sampleItems : List QuoteLineItem := [⟨.providerInfrastructure, 3000⟩,
  ⟨.infrastructureMarkup, 600⟩, ⟨.parchin, 300⟩, ⟨.termDiscount, -195⟩, ⟨.tax, 371⟩]

/-- An order with stored items. -/
def sampleOrder (amount : ℤ) (items : List QuoteLineItem) : PurchasedOrder where
  id := "o"
  amount := amount
  termMonths := 3
  planSnapshot := none
  recommendationQuote := some ⟨some (serializeQuoteLineItems items), none, none, none, none⟩
  provider := some "ARVAN"
  productKind := none
  parchinLevel := none
  paidAt := some 0
  createdAt := 0

theorem purchase_agrees_sample :
    (∃ normalized, validateLines (servicePurchase (sampleOrder 4076 sampleItems)).lines =
      .ok normalized) ∧
    ∃ price, computeCommercialPriceBreakdown sampleInput = .ok price ∧
      (sampleOrder 4076 sampleItems).Posts price := by
  have hlines : ¬ (sampleOrder 4076 sampleItems).NegativeInfrastructure := by
    unfold PurchasedOrder.NegativeInfrastructure
    decide +kernel
  refine ⟨((purchase_agrees_iff _).1 (by decide)).2 hlines, _, rfl, ?_⟩
  refine ((purchase_agrees_iff _).2 sampleInput _ rfl (by decide) ⟨rfl, rfl⟩).2 ?_
  constructor <;> decide +kernel

/-- A provider item of -5 rial and a Parchin item of 105 rial. -/
def negativeItems : List QuoteLineItem := [⟨.providerInfrastructure, -5⟩, ⟨.parchin, 105⟩]

/-- The two items add up to the order's 100 rial, and the posting throws on its own line. -/
theorem negativeItems_not_posted :
    (postServicePurchaseCompleted (sampleOrder 100 negativeItems) "e" 0 IndexedTable.empty).1 =
      .error (.accounting "negative_amount"
        "lines[1].creditRial must be a non-negative integer rial amount") := by
  rfl

end AbrChin.Accounting
