import AbrChin.Accounting.DoubleEntry
import AbrChin.Accounting.Kpis
import AbrChin.Lib.Sums

/-!
# Profit and position

The reports leave out the accounts of assets, and of the liabilities they total only the tax.  What
these accounts grow by is known all the same: every entry is balanced, so that it is the operating
profit of the same window.
-/

namespace AbrChin.Accounting

open Lib

/-- What a line adds to the assets less the liabilities; an account out of the chart is among them. -/
def JournalLine.growth (line : JournalLine) : ℤ :=
  match (isAccountCode line.accountCode).map AccountCode.accountClass with
  | some .revenue | some .contraRevenue | some .cogs | some .opex => 0
  | _ => line.debitRial - line.creditRial

def JournalEntry.growth (entry : JournalEntry) : ℤ := (entry.lines.map JournalLine.growth).sum

/-- The class of an account decides to which sum its lines go. -/
theorem kpiClass_eq (code : AccountCode) : kpiClass code =
    match code.accountClass with
    | .revenue => some .grossBilled
    | .contraRevenue => some .contra
    | .cogs => some .cogs
    | .opex => some .opex
    | .asset => none
    | .liability => if code = .taxPayable then some .tax else none := by
  cases code <;> rfl

theorem lineSum_profit (line : JournalLine) :
    lineSum .booked (1, 1) .grossBilled line - lineSum .booked (1, 1) .contra line -
        lineSum .booked (1, 1) .cogs line - lineSum .booked (1, 1) .opex line =
      line.growth - (line.debitRial - line.creditRial) := by
  unfold lineSum JournalLine.growth
  cases isAccountCode line.accountCode with
  | none => simp
  | some code =>
      simp only [Option.bind_some, Option.map_some, kpiClass_eq, lineAmount]
      cases code.accountClass with
      | liability => by_cases htax : code = .taxPayable <;> simp [htax]
      | _ => simp

/-- What a balanced entry adds to the profit is what it adds to the position. -/
theorem sum_profit {entry : JournalEntry} (h : Balanced entry.lines) :
    (entry.lines.map fun line =>
      lineSum .booked (1, 1) .grossBilled line - lineSum .booked (1, 1) .contra line -
        lineSum .booked (1, 1) .cogs line - lineSum .booked (1, 1) .opex line).sum =
      entry.growth := by
  simp only [lineSum_profit]
  calc (entry.lines.map fun line => line.growth - (line.debitRial - line.creditRial)).sum
      = entry.growth - (debitTotal entry.lines - creditTotal entry.lines) := by
        rw [sum_map_sub, sum_map_sub]
        rfl
    _ = entry.growth := by rw [h.balanced, sub_self, sub_zero]

/-- **The operating profit is what the position grew by**, in every report over a journal that calls
have led to. -/
theorem operatingProfit_eq_growth (calls : List (Versions.Call Operation)) (query : KpiQuery)
    (now : ℤ) :
    let journal := (run stepJournal (Versions.init IndexedTable.empty) calls).current
    (computeAccountingKpis journal.rows { query with view := some .booked } now).operatingProfitRial =
      ((journal.rows.filter query.reads).map JournalEntry.growth).sum := by
  intro journal
  have hkept : Kept journal := (kept_run calls).current
  have hview : ({ query with view := some .booked } : KpiQuery).viewOrDefault = .booked := rfl
  simp only [computeAccountingKpis, sum_eq, entrySum_booked hview, ← sum_map_sub]
  refine congrArg List.sum (List.map_congr_left fun entry hentry => ?_)
  exact sum_profit (hkept.balanced entry (List.mem_of_mem_filter hentry))

end AbrChin.Accounting
