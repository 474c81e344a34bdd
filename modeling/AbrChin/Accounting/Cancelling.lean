import AbrChin.Accounting.DoubleEntry
import AbrChin.Accounting.Kpis
import AbrChin.Lib.Sums

/-!
# What a reversed entry leaves in the booked totals

A reversal carries the opposite amounts of its original, so the two should cancel.  The report
however skips the original, which is REVERSED, and counts the reversal, which is POSTED: the
pair leaves the opposite of the original behind.  It cancels exactly when the reversal is not
counted either, or the original moves none of the reported sums.
-/

namespace AbrChin.Accounting

open Lib

/-- What an entry adds to a sum in the booked view. -/
def JournalEntry.booked (entry : JournalEntry) (cls : KpiClass) : ℤ :=
  (entry.lines.map (lineSum .booked (1, 1) cls)).sum

/-- The journal without two of its entries. -/
def without (rows : List JournalEntry) (first second : JournalEntry) : List JournalEntry :=
  rows.filter fun entry => entry.id ≠ first.id ∧ entry.id ≠ second.id

/-! ## Exchanged sides -/

/-- What amounts add to a sum in the booked view. -/
def amountSum (cls : KpiClass) (amounts : String × ℤ × ℤ) : ℤ :=
  if (isAccountCode amounts.1).bind kpiClass = some cls then
    match cls with
    | .grossBilled | .tax => amounts.2.2 - amounts.2.1
    | .contra | .cogs | .opex => amounts.2.1 - amounts.2.2
  else 0

theorem amountSum_amounts (cls : KpiClass) (line : JournalLine) :
    amountSum cls line.amounts = lineSum .booked (1, 1) cls line := by
  unfold amountSum lineSum JournalLine.amounts
  cases cls <;> rfl

theorem amountSum_exchanged (cls : KpiClass) (line : JournalLine) :
    amountSum cls line.exchanged = -lineSum .booked (1, 1) cls line := by
  unfold amountSum lineSum JournalLine.exchanged lineAmount
  split
  · cases cls <;> dsimp only <;> omega
  · rfl

/-- Entries whose lines have the sides exchanged add opposite amounts. -/
theorem booked_of_exchanged {original reversal : JournalEntry}
    (h : reversal.lines.map JournalLine.amounts = original.lines.map JournalLine.exchanged)
    (cls : KpiClass) : reversal.booked cls = -original.booked cls := by
  have hsums := congrArg (List.map (amountSum cls)) h
  rw [List.map_map, List.map_map] at hsums
  calc reversal.booked cls
      = (reversal.lines.map (amountSum cls ∘ JournalLine.amounts)).sum := by
        unfold JournalEntry.booked
        congr 2
        funext line
        exact (amountSum_amounts cls line).symm
    _ = (original.lines.map (amountSum cls ∘ JournalLine.exchanged)).sum := by rw [hsums]
    _ = (original.lines.map fun line => -lineSum .booked (1, 1) cls line).sum := by
        congr 2
        funext line
        exact amountSum_exchanged cls line
    _ = -original.booked cls := by
        rw [JournalEntry.booked, List.sum_neg, List.map_map]
        rfl

/-! ## The pair in a report -/

/-- What an entry adds to a report that may not read it. -/
def KpiQuery.share (query : KpiQuery) (now : ℤ) (cls : KpiClass) (entry : JournalEntry) : ℤ :=
  if query.reads entry then query.entrySum now cls entry else 0

/-- The sums with and without two entries. -/
theorem sum_eq_add_without {journal : Journal} {first second : JournalEntry}
    (h₁ : first ∈ journal.rows) (h₂ : second ∈ journal.rows) (hne : first.id ≠ second.id)
    (query : KpiQuery) (now : ℤ) (cls : KpiClass) :
    query.sum now journal.rows cls = query.share now cls first + query.share now cls second +
      query.sum now (without journal.rows first second) cls := by
  rw [sum_eq, sum_eq, sum_filter, sum_filter]
  exact sum_eq_add_add_sum_ne journal.table.nodup h₁ h₂ hne (query.share now cls)

/-- No entry reverses itself: its lines would move both sides. -/
theorem id_ne_of_exchanged {original reversal : JournalEntry} {journal : Journal}
    (horiginal : original ∈ journal.rows) (hreversal : reversal ∈ journal.rows)
    (hbalanced : Balanced original.lines)
    (h : reversal.lines.map JournalLine.amounts = original.lines.map JournalLine.exchanged) :
    original.id ≠ reversal.id := by
  intro hid
  obtain rfl := Table.eq_of_key horiginal hreversal hid
  obtain ⟨line, hline⟩ := List.exists_mem_of_ne_nil _ hbalanced.nonempty
  have hsame : line.amounts = line.exchanged := List.map_inj_left.1 h line hline
  have hsides := hbalanced.oneSided line hline
  have hdebit : line.debitRial = line.creditRial := congrArg (fun amounts => amounts.2.1) hsame
  omega

/-- **When a reversal cancels its entry.**  In the booked view, over a window that contains the
reversal, and in particular over one that contains both, the totals are those of the journal
without the two exactly when the report does not count the
reversal or the entry moves no reported sum. -/
theorem kpis_cancel_iff {calls : List (Versions.Call Operation)}
    (hplain : ∀ call ∈ calls, call.input.Plain) {original reversal : JournalEntry}
    (horiginal : original ∈ (run stepJournal (Versions.init IndexedTable.empty) calls).current.rows)
    (hreversal : reversal ∈ (run stepJournal (Versions.init IndexedTable.empty) calls).current.rows)
    (hid : reversal.reversesEntryId = some original.id) {query : KpiQuery}
    (hview : query.viewOrDefault = .booked) (hcovers : query.covers reversal.occurredAt)
    (now : ℤ) :
    computeAccountingKpis (run stepJournal (Versions.init IndexedTable.empty) calls).current.rows
        query now =
      computeAccountingKpis (without
        (run stepJournal (Versions.init IndexedTable.empty) calls).current.rows original reversal)
        query now ↔
    (counts reversal = true → reversal.quality ∈ query.qualitiesOrDefault →
      ∀ cls, original.booked cls = 0) := by
  have hinit : (Kept (Versions.init IndexedTable.empty).current ∧
      Mirrored (Versions.init IndexedTable.empty).current) ∧
      (Versions.init IndexedTable.empty).Grown Grown :=
    ⟨⟨kept_empty, mirrored_empty⟩, Versions.grown_init Grown.refl _⟩
  obtain ⟨⟨hkept, hmirrored⟩, -⟩ := mirrored_run hinit hplain
  have hexchanged := hmirrored.exchanged original horiginal reversal hreversal hid
  have hmarked := hmirrored.marked original horiginal reversal hreversal hid
  have hne := id_ne_of_exchanged horiginal hreversal (hkept.balanced original horiginal) hexchanged
  -- the report skips the original
  have hskipped : ∀ cls, query.share now cls original = 0 := by
    intro cls
    have hreads : query.reads original = false := by
      simp [KpiQuery.reads, counts, hmarked]
    rw [KpiQuery.share, hreads]
    rfl
  -- and reads the reversal if it counts it, since the window contains it
  have hreads : query.reads reversal = true ↔
      counts reversal = true ∧ reversal.quality ∈ query.qualitiesOrDefault := by
    have hstatus := hkept.status reversal hreversal
    simp [KpiQuery.reads, KpiQuery.selects, hcovers, hstatus, and_comm]
  have hshare : ∀ cls, query.share now cls reversal =
      if query.reads reversal then -original.booked cls else 0 := by
    intro cls
    rw [KpiQuery.share, entrySum_booked hview, ← booked_of_exchanged hexchanged]
    rfl
  rw [computeAccountingKpis_eq_iff]
  constructor
  · intro hsums hcounts hquality cls
    have hsum := sum_eq_add_without horiginal hreversal hne query now cls
    rw [hsums cls, hskipped cls, hshare cls, if_pos (hreads.2 ⟨hcounts, hquality⟩)] at hsum
    omega
  · intro hcancels cls
    rw [sum_eq_add_without horiginal hreversal hne query now cls, hskipped cls, hshare cls]
    split
    · rename_i hread
      obtain ⟨hcounts, hquality⟩ := hreads.1 hread
      rw [hcancels hcounts hquality cls]
      omega
    · omega

/-- A sale of 100 rial with 60 rial of provider cost. -/
def sampleSale : PostJournalEntryInput where
  eventType := "service_purchase_completed"
  referenceType := "service_order"
  referenceId := "o"
  idempotencyKey := "service-order:o:purchase:v1"
  occurredAt := 0
  lines := [⟨"CUSTOMER_WALLET_LIABILITY", 100, 0, none, none⟩,
    ⟨"INFRASTRUCTURE_REVENUE", 0, 100, none, none⟩,
    ⟨"PROVIDER_INFRASTRUCTURE_COGS", 60, 0, none, none⟩,
    ⟨"PROVIDER_FUNDING_CLEARING", 0, 60, none, none⟩]

/-- The sale, refunded: its entry is reversed. -/
def refundedSale : List (Versions.Call Operation) := [
  ⟨.post sampleSale "a" 0, []⟩,
  ⟨.reverse { journalEntryId := "a", idempotencyKey := "refund:o:completed:v1" } "b" 5, []⟩]

/-- A window that contains the sale and its refund. -/
def sampleWindow : KpiQuery where
  fromDate := some 0
  toDate := some 10

/-- A refunded sale is reported as a sale of -100 rial at a cost of -60 rial; without the two
entries there is nothing to report. -/
theorem refundedSale_not_cancelled :
    let journal := (run stepJournal (Versions.init IndexedTable.empty) refundedSale).current
    ∃ original ∈ journal.rows, ∃ reversal ∈ journal.rows,
      reversal.reversesEntryId = some original.id ∧
      sampleWindow.covers original.occurredAt ∧ sampleWindow.covers reversal.occurredAt ∧
      (computeAccountingKpis journal.rows sampleWindow 0).netSalesExclTaxRial = -100 ∧
      (computeAccountingKpis journal.rows sampleWindow 0).operatingProfitRial = -40 ∧
      computeAccountingKpis journal.rows sampleWindow 0 ≠
        computeAccountingKpis (without journal.rows original reversal) sampleWindow 0 := by
  decide +kernel

/-- The reversal of a top-up, which moves no reported sum, cancels it. -/
theorem kpis_cancel_topUp :
    let calls := reversedTopUp.take 2
    let journal := (run stepJournal (Versions.init IndexedTable.empty) calls).current
    ∃ original ∈ journal.rows, ∃ reversal ∈ journal.rows,
      reversal.reversesEntryId = some original.id ∧
      computeAccountingKpis journal.rows sampleWindow 0 =
        computeAccountingKpis (without journal.rows original reversal) sampleWindow 0 := by
  have hpair : ∃ original ∈ (run stepJournal (Versions.init IndexedTable.empty)
      (reversedTopUp.take 2)).current.rows, ∃ reversal ∈ (run stepJournal
      (Versions.init IndexedTable.empty) (reversedTopUp.take 2)).current.rows,
      reversal.reversesEntryId = some original.id ∧ sampleWindow.covers reversal.occurredAt ∧
      ∀ cls ∈ [KpiClass.grossBilled, .tax, .contra, .cogs, .opex], original.booked cls = 0 := by
    decide +kernel
  obtain ⟨original, horiginal, reversal, hreversal, hid, hcovers, hbooked⟩ := hpair
  refine ⟨original, horiginal, reversal, hreversal, hid, ?_⟩
  exact (kpis_cancel_iff (by decide) horiginal hreversal hid rfl hcovers 0).2
    fun _ _ cls => hbooked cls (by cases cls <;> simp)

end AbrChin.Accounting
