import AbrChin.Accounting.Journal
import AbrChin.Orders.PrepaidCancellation
import Mathlib.Algebra.Order.BigOperators.Group.List

/-!
# The accounting reports

`computeAccountingKpis` of `lib/accounting/kpis.ts`: it selects entries of the journal, adds up
their lines by class, and derives the totals from the sums.  The booked view takes an amount
whole, the recognized view takes the part of its term that falls into the window.
-/

namespace AbrChin.Accounting

open Lib Js Orders

inductive KpiView where
  | booked
  | recognized
  deriving DecidableEq

/-- What a report is asked for: `fromDate` and `toDate` are `from` and `to` of the source. -/
structure KpiQuery where
  fromDate : Option ℤ := none
  toDate : Option ℤ := none
  view : Option KpiView := none
  asOf : Option ℤ := none
  qualities : Option (List AccountingQuality) := none

/-- The sums that the report keeps while it reads the lines. -/
inductive KpiClass where
  | grossBilled
  | tax
  | contra
  | cogs
  | opex
  deriving DecidableEq

def revenueCodes : List AccountCode := [.infrastructureRevenue, .parchinRevenue, .addonRevenue]

def contraCodes : List AccountCode := [.termDiscount, .couponDiscount, .salesRefund]

def cogsCodes : List AccountCode := [.providerInfrastructureCogs, .providerAddonCogs]

def opexCodes : List AccountCode := [.gatewayFees, .smsExpense, .supportOperations,
  .hostingOperations, .marketingExpense, .payrollContractor, .otherOperatingExpense]

/-- The sum that a line of an account goes to. -/
def kpiClass (code : AccountCode) : Option KpiClass :=
  if code ∈ revenueCodes then some .grossBilled
  else if code ∈ contraCodes then some .contra
  else if code = .taxPayable then some .tax
  else if code ∈ cogsCodes then some .cogs
  else if code ∈ opexCodes ∨ code.accountClass = .opex then some .opex
  else none

/-! ## Recognition -/

def readTermMonths (metadata : Option Json) : ℤ :=
  match metadata.bind (Json.field "termMonths") with
  | some (.number value) => if value.den = 1 ∧ 0 < value.num then value.num else 1
  | some (.string value) =>
      if Json.isDigits value then if 0 < bigInt value then bigInt value else 1 else 1
  | _ => 1

/-- A share of an amount, rounded; `BigInt` division drops the fraction. -/
def applyFraction (amount numerator denominator : ℤ) : ℤ :=
  if amount = 0 ∨ numerator = 0 then 0
  else (amount * numerator + denominator.tdiv 2).tdiv denominator

def marginBps (grossProfit netSales : ℤ) : Option ℤ :=
  if netSales = 0 then none
  else
    let sign : ℤ := if netSales < 0 then -1 else 1
    let absNet := |netSales|
    some ((grossProfit * 10000 * sign + absNet.tdiv 2).tdiv absNet)

/-! ## The sums of a report -/

def KpiQuery.viewOrDefault (query : KpiQuery) : KpiView := query.view.getD .booked

def KpiQuery.qualitiesOrDefault (query : KpiQuery) : List AccountingQuality :=
  query.qualities.getD [.final, .estimated]

/-- The instant lies in the window of the query. -/
def KpiQuery.covers (query : KpiQuery) (instant : ℤ) : Bool :=
  query.fromDate.all (· ≤ instant) && query.toDate.all (instant ≤ ·)

/-- The `where` clause of the report's query. -/
def KpiQuery.selects (query : KpiQuery) (entry : JournalEntry) : Bool :=
  (entry.status = .posted || entry.status = .reversed) &&
    entry.quality ∈ query.qualitiesOrDefault && query.covers entry.occurredAt

/-- The loop does not skip the entry. -/
def counts (entry : JournalEntry) : Bool := entry.status ≠ .reversed && entry.quality ≠ .reversed

/-- The entries that a report reads, oldest first. -/
def KpiQuery.entries (query : KpiQuery) (journal : List JournalEntry) : List JournalEntry :=
  ((journal.filter query.selects).insertionSort fun first second =>
    first.occurredAt ≤ second.occurredAt).filter counts

/-- The part of an entry's term that the report recognizes. -/
def KpiQuery.fraction (query : KpiQuery) (entry : JournalEntry) (now : ℤ) : ℤ × ℤ :=
  match query.viewOrDefault with
  | .recognized => recognitionFraction {
      occurredAt := entry.occurredAt
      termMonths := readTermMonths entry.metadata
      asOf := (query.asOf <|> query.toDate).getD now
      periodFrom := query.fromDate
      periodTo := query.toDate }
  | .booked => (1, 1)

/-- What a line adds to the sum of its class. -/
def lineAmount (view : KpiView) (fraction : ℤ × ℤ) (line : JournalLine) : KpiClass → ℤ
  | .grossBilled =>
      match view with
      | .booked => line.creditRial - line.debitRial
      | .recognized => applyFraction (line.creditRial - line.debitRial) fraction.1 fraction.2
  | .contra | .cogs =>
      match view with
      | .booked => line.debitRial - line.creditRial
      | .recognized => applyFraction (line.debitRial - line.creditRial) fraction.1 fraction.2
  | .tax =>
      match view with
      | .booked => line.creditRial - line.debitRial
      | .recognized => 0
  | .opex => line.debitRial - line.creditRial

/-- What a line adds to a sum: a line of an unknown account, or of another class, nothing. -/
def lineSum (view : KpiView) (fraction : ℤ × ℤ) (cls : KpiClass) (line : JournalLine) : ℤ :=
  if (isAccountCode line.accountCode).bind kpiClass = some cls then
    lineAmount view fraction line cls
  else 0

/-- What an entry adds to a sum. -/
def KpiQuery.entrySum (query : KpiQuery) (now : ℤ) (cls : KpiClass) (entry : JournalEntry) : ℤ :=
  (entry.lines.map (lineSum query.viewOrDefault (query.fraction entry now) cls)).sum

/-- One of the sums, after the loop. -/
def KpiQuery.sum (query : KpiQuery) (now : ℤ) (journal : List JournalEntry) (cls : KpiClass) :
    ℤ :=
  ((query.entries journal).map (query.entrySum now cls)).sum

structure AccountingKpiTotals where
  view : KpiView
  grossBilledRial : ℤ
  taxRial : ℤ
  netSalesExclTaxRial : ℤ
  providerCogsRial : ℤ
  grossProfitRial : ℤ
  operatingExpenseRial : ℤ
  operatingProfitRial : ℤ
  effectiveMarginBps : Option ℤ
  grossProfitExact : Bool
  deriving DecidableEq

def computeAccountingKpis (journal : List JournalEntry) (query : KpiQuery) (now : ℤ) :
    AccountingKpiTotals :=
  let sum := query.sum now journal
  let netSales := sum .grossBilled - sum .contra
  let grossProfit := netSales - sum .cogs
  let operatingProfit := grossProfit - sum .opex
  { view := query.viewOrDefault
    grossBilledRial := sum .grossBilled
    taxRial := sum .tax
    netSalesExclTaxRial := netSales
    providerCogsRial := sum .cogs
    grossProfitRial := grossProfit
    operatingExpenseRial := sum .opex
    operatingProfitRial := operatingProfit
    effectiveMarginBps := marginBps grossProfit netSales
    grossProfitExact := .needsReconciliation ∉ query.qualitiesOrDefault }

/-! ## Reports as sums over the journal -/

/-- The report reads the entry and counts it. -/
def KpiQuery.reads (query : KpiQuery) (entry : JournalEntry) : Bool :=
  query.selects entry && counts entry

/-- The order in which the entries are read does not matter. -/
theorem sum_eq (query : KpiQuery) (now : ℤ) (journal : List JournalEntry) (cls : KpiClass) :
    query.sum now journal cls =
      ((journal.filter query.reads).map (query.entrySum now cls)).sum := by
  unfold KpiQuery.sum KpiQuery.entries
  apply List.Perm.sum_eq
  apply List.Perm.map
  calc ((journal.filter query.selects).insertionSort fun first second =>
        first.occurredAt ≤ second.occurredAt).filter counts
      |>.Perm ((journal.filter query.selects).filter counts) :=
        (List.perm_insertionSort _ _).filter _
    _ = journal.filter query.reads := by
        rw [List.filter_filter]
        congr 1
        funext entry
        exact Bool.and_comm _ _

/-- Two reports with one query are equal when their sums are. -/
theorem computeAccountingKpis_eq_iff {first second : List JournalEntry} {query : KpiQuery}
    {now : ℤ} : computeAccountingKpis first query now = computeAccountingKpis second query now ↔
      ∀ cls, query.sum now first cls = query.sum now second cls := by
  constructor
  · intro h cls
    have hgross := congrArg AccountingKpiTotals.grossBilledRial h
    have htax := congrArg AccountingKpiTotals.taxRial h
    have hnet := congrArg AccountingKpiTotals.netSalesExclTaxRial h
    have hcogs := congrArg AccountingKpiTotals.providerCogsRial h
    have hopex := congrArg AccountingKpiTotals.operatingExpenseRial h
    dsimp only [computeAccountingKpis] at hgross htax hnet hcogs hopex
    cases cls with
    | grossBilled => exact hgross
    | tax => exact htax
    | contra => omega
    | cogs => exact hcogs
    | opex => exact hopex
  · intro h
    unfold computeAccountingKpis
    simp only [h]

/-- In the booked view an entry adds its booked amounts. -/
theorem entrySum_booked {query : KpiQuery} (h : query.viewOrDefault = .booked) (now : ℤ)
    (cls : KpiClass) (entry : JournalEntry) :
    query.entrySum now cls entry = (entry.lines.map (lineSum .booked (1, 1) cls)).sum := by
  unfold KpiQuery.entrySum KpiQuery.fraction
  rw [h]

end AbrChin.Accounting
