import AbrChin.Accounting.Journal
import AbrChin.Pricing.CommercialEngine

/-!
# Posting a purchase

The part of `lib/accounting/posting.ts` that turns a paid order into a journal entry.  The
amounts come from the line items that the quote or the plan has stored as JSON; where an item is
missing, other fields of the two stand in for it.  Item labels, which are not read, are left out.
-/

namespace AbrChin.Accounting

open Lib Js Pricing

/-! ## Snapshots -/

structure SnapshotLine where
  type : String
  amountIrr : ℤ
  deriving DecidableEq

def parseBigInt : Json → Option ℤ
  | .number value => if value.den = 1 then some value.num else none
  | .string value =>
      if Json.isInteger (trim value) then some (Json.toBigInt (trim value)) else none
  | _ => none

/-- An item of a snapshot, unless its type or its amount cannot be read. -/
def parseSnapshotLine (item : Json) : Option SnapshotLine :=
  match item.field "type", (item.field "amountIrr").bind parseBigInt with
  | some (.string type), some amountIrr => some ⟨type, amountIrr⟩
  | _, _ => none

def parseSnapshotLines : Option Json → List SnapshotLine
  | some (.array items) => items.filterMap parseSnapshotLine
  | _ => []

def sumByType (lines : List SnapshotLine) (type : String) : ℤ :=
  ((lines.filter fun line => line.type = type).map SnapshotLine.amountIrr).sum

/-- What a purchase reads of the order's quote. -/
structure PurchaseQuote where
  lineItemsSnapshot : Option Json
  providerBasePriceRialSnapshot : Option ℤ
  providerMonthlyPriceIrr : Option ℤ
  taxAmountIrr : Option ℤ
  parchinPriceIrr : Option ℤ

/-- What a purchase reads of the order.  `termMonths` is not null in the table, so the terms of
the quote and the plan are never read in its place. -/
structure PurchasedOrder where
  id : String
  amount : ℤ
  termMonths : ℤ
  planSnapshot : Option Json
  recommendationQuote : Option PurchaseQuote
  provider : Option String
  productKind : Option String
  parchinLevel : Option String
  paidAt : Option ℤ
  createdAt : ℤ

namespace PurchasedOrder

variable (order : PurchasedOrder)

/-- A field of the plan snapshot. -/
def planField (name : String) : Option Json := order.planSnapshot.bind (Json.field name)

/-- The line items of the quote, or of the plan when the quote has none. -/
def lines : List SnapshotLine :=
  let quoteLines :=
    parseSnapshotLines (order.recommendationQuote.bind PurchaseQuote.lineItemsSnapshot)
  let planLines := parseSnapshotLines (order.planField "lineItemsSnapshot")
  if 0 < quoteLines.length then quoteLines else planLines

def providerMonthly : Option ℤ :=
  (order.planField "providerBasePriceRialSnapshot").bind parseBigInt <|>
  (order.planField "estimatedProviderCostRial").bind parseBigInt <|>
  order.recommendationQuote.bind PurchaseQuote.providerBasePriceRialSnapshot <|>
  order.recommendationQuote.bind PurchaseQuote.providerMonthlyPriceIrr

def markupMonthly : Option ℤ := (order.planField "markupAmountRialSnapshot").bind parseBigInt

def parchinMonthly : Option ℤ :=
  (order.planField "parchinPriceRialSnapshot").bind parseBigInt <|>
  order.recommendationQuote.bind PurchaseQuote.parchinPriceIrr

/-- The tax of an order whose items have none. -/
def taxFallback : ℤ :=
  ((order.planField "taxAmountRialSnapshot").bind parseBigInt <|>
    order.recommendationQuote.bind PurchaseQuote.taxAmountIrr).getD 0

def safeTermMonths : ℤ := if 0 < order.termMonths then order.termMonths else 1

end PurchasedOrder

structure OrderSnapshots where
  infrastructureRevenue : ℤ
  parchinRevenue : ℤ
  addonRevenue : ℤ
  termDiscount : ℤ
  couponDiscount : ℤ
  taxPayable : ℤ
  providerInfrastructureCogs : Option ℤ
  providerAddonCogs : Option ℤ
  hasProviderCost : Bool
  termMonths : ℤ
  deriving DecidableEq

def resolveOrderSnapshots (order : PurchasedOrder) : OrderSnapshots :=
  let lines := order.lines
  let providerFromLines := sumByType lines "PROVIDER_INFRASTRUCTURE"
  let markupFromLines := sumByType lines "INFRASTRUCTURE_MARKUP"
  let parchinFromLines := sumByType lines "PARCHIN"
  let addonFromLines := sumByType lines "PROVIDER_ADDON"
  let termDiscountFromLines := |sumByType lines "TERM_DISCOUNT"|
  let couponDiscountFromLines := |sumByType lines "COUPON_DISCOUNT"|
  let taxFromLines := sumByType lines "TAX"
  let termMultiplier := order.safeTermMonths
  let providerFromSnapshot : Option ℤ :=
    if 0 < providerFromLines then some providerFromLines
    else order.providerMonthly.map (· * termMultiplier)
  let markupFromSnapshot : Option ℤ :=
    if 0 < markupFromLines then some markupFromLines
    else order.markupMonthly.map (· * termMultiplier)
  let infrastructureRevenue :=
    if 0 < providerFromSnapshot.getD 0 + markupFromSnapshot.getD 0 then
      providerFromSnapshot.getD 0 + markupFromSnapshot.getD 0
    else providerFromLines + markupFromLines
  let parchinRevenue :=
    if 0 < parchinFromLines then parchinFromLines
    else (order.parchinMonthly.map (· * termMultiplier)).getD 0
  let taxPayable := if 0 < taxFromLines then taxFromLines else order.taxFallback
  let hasProviderCost := providerFromSnapshot.any (0 < ·)
  { infrastructureRevenue :=
      if 0 < infrastructureRevenue then infrastructureRevenue
      else providerFromLines + markupFromLines
    parchinRevenue := if 0 < parchinRevenue then parchinRevenue else 0
    addonRevenue := if 0 < addonFromLines then addonFromLines else 0
    termDiscount := termDiscountFromLines
    couponDiscount := couponDiscountFromLines
    taxPayable := if 0 < taxPayable then taxPayable else 0
    providerInfrastructureCogs := if hasProviderCost then providerFromSnapshot else none
    providerAddonCogs := if 0 < addonFromLines then some addonFromLines else none
    hasProviderCost
    termMonths := order.safeTermMonths }

/-! ## Lines -/

/-- `pushLine`: a line without an amount is left out. -/
def pushLine (accountCode : AccountCode) (debitRial creditRial : ℤ) (description : String) :
    List JournalLineInput :=
  if debitRial = 0 ∧ creditRial = 0 then []
  else [⟨accountCode.text, debitRial, creditRial, some description, none⟩]

/-- A cost, and the funding that clears it. -/
def pushCogs (accountCode : AccountCode) (cogs : Option ℤ) (cost funding : String) :
    List JournalLineInput :=
  match cogs with
  | some amount =>
      if 0 < amount then
        pushLine accountCode amount 0 cost ++
          pushLine .providerFundingClearing 0 amount funding
      else []
  | none => []

structure PurchaseLines where
  walletAmount : ℤ
  infrastructureRevenue : ℤ
  parchinRevenue : ℤ
  addonRevenue : ℤ
  termDiscount : ℤ
  couponDiscount : ℤ
  taxPayable : ℤ
  providerInfrastructureCogs : Option ℤ
  providerAddonCogs : Option ℤ
  includeCogs : Bool

def buildPurchaseLines (input : PurchaseLines) : List JournalLineInput :=
  pushLine .customerWalletLiability input.walletAmount 0
      "آزادسازی بدهی کیف پول بابت خرید سرویس" ++
  pushLine .infrastructureRevenue 0 input.infrastructureRevenue "درآمد زیرساخت" ++
  pushLine .parchinRevenue 0 input.parchinRevenue "درآمد پرچین" ++
  pushLine .addonRevenue 0 input.addonRevenue "درآمد افزونه" ++
  pushLine .termDiscount input.termDiscount 0 "تخفیف دوره" ++
  pushLine .couponDiscount input.couponDiscount 0 "تخفیف کد" ++
  pushLine .taxPayable 0 input.taxPayable "مالیات پرداختنی" ++
  if input.includeCogs then
    pushCogs .providerInfrastructureCogs input.providerInfrastructureCogs
      "بهای تمام‌شده زیرساخت (Snapshot)" "تسویه تأمین زیرساخت" ++
    pushCogs .providerAddonCogs input.providerAddonCogs
      "بهای تمام‌شده افزونه (Snapshot)" "تسویه تأمین افزونه"
  else []

/-! ## The entry of a purchase -/

/-- What the components of a purchase add up to. -/
def OrderSnapshots.impliedWallet (snap : OrderSnapshots) : ℤ :=
  snap.infrastructureRevenue + snap.parchinRevenue + snap.addonRevenue - snap.termDiscount -
    snap.couponDiscount + snap.taxPayable

/-- What is left of an amount for the infrastructure. -/
def OrderSnapshots.residual (snap : OrderSnapshots) (amount : ℤ) : ℤ :=
  amount - (snap.parchinRevenue + snap.addonRevenue - snap.termDiscount - snap.couponDiscount +
    snap.taxPayable)

/-- The lines of a purchase with a given infrastructure revenue. -/
def OrderSnapshots.purchaseLines (snap : OrderSnapshots) (walletAmount infrastructure : ℤ) :
    List JournalLineInput :=
  buildPurchaseLines {
    walletAmount
    infrastructureRevenue := infrastructure
    parchinRevenue := snap.parchinRevenue
    addonRevenue := snap.addonRevenue
    termDiscount := snap.termDiscount
    couponDiscount := snap.couponDiscount
    taxPayable := snap.taxPayable
    providerInfrastructureCogs := snap.providerInfrastructureCogs
    providerAddonCogs := snap.providerAddonCogs
    includeCogs := snap.hasProviderCost }

/-- The idempotency key of a purchase. -/
def purchaseKey (orderId : String) : String := "service-order:" ++ orderId ++ ":purchase:v1"

/-- What `postServicePurchaseCompleted` posts. -/
def servicePurchase (order : PurchasedOrder) : PostJournalEntryInput :=
  let snap := resolveOrderSnapshots order
  let quality : AccountingQuality := if snap.hasProviderCost then .final else .needsReconciliation
  let post := fun (quality : AccountingQuality) (metadata : List (String × Json))
      (lines : List JournalLineInput) => {
    eventType := "service_purchase_completed"
    referenceType := "service_order"
    referenceId := order.id
    idempotencyKey := purchaseKey order.id
    occurredAt := order.paidAt.getD order.createdAt
    quality := some quality
    metadata := some (.object ([("termMonths", .number snap.termMonths),
      ("amountRial", .string (toString order.amount))] ++ metadata))
    lines : PostJournalEntryInput }
  let text := fun value : Option String => (value.map Json.string).getD .null
  let metadata : List (String × Json) := [("providerCostPresent", .bool snap.hasProviderCost),
    ("provider", text order.provider), ("productKind", text order.productKind),
    ("parchinLevel", text order.parchinLevel)]
  if snap.impliedWallet ≠ order.amount then
    -- the residual goes to the infrastructure, or all of it to deferred revenue
    if 0 ≤ snap.residual order.amount then
      post .needsReconciliation metadata
        (snap.purchaseLines order.amount (snap.residual order.amount))
    else
      post .needsReconciliation [("reason", .string "snapshot_unbalanced"),
          ("impliedWalletRial", .string (toString snap.impliedWallet))]
        [⟨AccountCode.customerWalletLiability.text, order.amount, 0, none, none⟩,
          ⟨AccountCode.deferredRevenue.text, 0, order.amount, some "نیاز به تطبیق Snapshot", none⟩]
  else post quality metadata (snap.purchaseLines order.amount snap.infrastructureRevenue)

def postServicePurchaseCompleted (order : PurchasedOrder) (id : String) (now : ℤ) :
    Tx Journal JournalError JournalEntry :=
  postJournalEntryTx (servicePurchase order) id now

/-! ## Snapshots of engine prices -/

/-- The stored type of a line item. -/
def lineItemType : QuoteLineItemType → String
  | .providerInfrastructure => "PROVIDER_INFRASTRUCTURE"
  | .infrastructureMarkup => "INFRASTRUCTURE_MARKUP"
  | .parchin => "PARCHIN"
  | .providerAddon => "PROVIDER_ADDON"
  | .couponDiscount => "COUPON_DISCOUNT"
  | .termDiscount => "TERM_DISCOUNT"
  | .tax => "TAX"

def serializeQuoteLineItems (items : List QuoteLineItem) : Json :=
  .array (items.map fun item => .object [("type", .string (lineItemType item.type)),
    ("amountIrr", .string (toString item.amountIrr))])

theorem parseBigInt_toString (n : ℤ) : parseBigInt (.string (toString n)) = some n := by
  obtain ⟨hinteger, hvalue, htrim⟩ := Json.toBigInt_toString n
  unfold parseBigInt
  dsimp only
  rw [htrim, hinteger, hvalue]
  rfl

/-- What is serialized is read back. -/
theorem parseSnapshotLines_serialize (items : List QuoteLineItem) :
    parseSnapshotLines (some (serializeQuoteLineItems items)) =
      items.map fun item => ⟨lineItemType item.type, item.amountIrr⟩ := by
  have hitem : ∀ item : QuoteLineItem, parseSnapshotLine (.object
      [("type", .string (lineItemType item.type)),
        ("amountIrr", .string (toString item.amountIrr))]) =
      some ⟨lineItemType item.type, item.amountIrr⟩ := by
    intro item
    have htype : (Json.object [("type", .string (lineItemType item.type)),
        ("amountIrr", .string (toString item.amountIrr))]).field "type" =
        some (.string (lineItemType item.type)) := by simp [Json.field]
    have hamount : (Json.object [("type", .string (lineItemType item.type)),
        ("amountIrr", .string (toString item.amountIrr))]).field "amountIrr" =
        some (.string (toString item.amountIrr)) := rfl
    unfold parseSnapshotLine
    rw [htype, hamount, Option.bind_some, parseBigInt_toString]
  unfold serializeQuoteLineItems parseSnapshotLines
  dsimp only
  rw [List.filterMap_map]
  simp only [Function.comp_def, hitem]
  rw [← List.filterMap_eq_map]
  rfl

end AbrChin.Accounting
