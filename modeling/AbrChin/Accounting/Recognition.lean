import AbrChin.Accounting.Kpis
import AbrChin.Lib.Sums
import Mathlib.Algebra.BigOperators.Ring.List

/-!
# Recognized revenue over consecutive windows

A prepaid amount is recognized evenly over its term, so the recognized values of consecutive
windows should add up to the value of the whole interval.  The report selects an entry by the
instant at which it occurred, also in the recognized view, so that an entry is recognized in
the window in which it occurred and in no later one.

An interval is given by its start and the ends of its windows.  A `Term` is what matters of an
entry here: when it occurred and how many months it covers.
-/

namespace AbrChin.Accounting

open Lib Orders

/-! ## Windows -/

/-- The windows between consecutive instants. -/
def windows : ℤ → List ℤ → List (ℤ × ℤ)
  | _, [] => []
  | start, next :: rest => (start, next) :: windows next rest

/-- The end of the last window. -/
def lastEnd (start : ℤ) (ends : List ℤ) : ℤ := ends.getLastD start

@[simp] theorem lastEnd_cons (start next : ℤ) (rest : List ℤ) :
    lastEnd start (next :: rest) = lastEnd next rest := by
  cases rest <;> rfl

/-- The instants are in order. -/
def Ordered (start : ℤ) (ends : List ℤ) : Prop := (start :: ends).Pairwise (· ≤ ·)

variable {start next : ℤ} {rest : List ℤ}

theorem Ordered.head (h : Ordered start (next :: rest)) : start ≤ next :=
  (List.pairwise_cons.1 h).1 next List.mem_cons_self

theorem Ordered.tail (h : Ordered start (next :: rest)) : Ordered next rest :=
  (List.pairwise_cons.1 h).2

variable {ends : List ℤ}

theorem Ordered.le_lastEnd (h : Ordered start ends) : start ≤ lastEnd start ends := by
  induction ends generalizing start with
  | nil => exact le_refl _
  | cons next rest ih =>
      rw [lastEnd_cons]
      exact h.head.trans (ih h.tail)

/-- A window lies inside the interval. -/
theorem Ordered.window (h : Ordered start ends) {window : ℤ × ℤ}
    (hwindow : window ∈ windows start ends) :
    start ≤ window.1 ∧ window.1 ≤ window.2 ∧ window.2 ≤ lastEnd start ends := by
  induction ends generalizing start with
  | nil => cases hwindow
  | cons next rest ih =>
      rw [lastEnd_cons]
      rcases List.mem_cons.1 hwindow with rfl | hwindow
      · exact ⟨le_refl _, h.head, h.tail.le_lastEnd⟩
      · obtain ⟨hstart, hends, hlast⟩ := ih h.tail hwindow
        exact ⟨h.head.trans hstart, hends, hlast⟩

theorem length_windows (start : ℤ) (ends : List ℤ) : (windows start ends).length = ends.length := by
  induction ends generalizing start with
  | nil => rfl
  | cons next rest ih => simp [windows, ih]

/-! ## Terms -/

/-- When an entry occurred, and how many months it covers. -/
structure Term where
  occurredAt : ℤ
  termMonths : ℤ
  positive : 0 < termMonths

/-- The end of the term. -/
def Term.finish (term : Term) : ℤ := term.occurredAt + termMilliseconds term.termMonths

theorem Term.occurredAt_lt_finish (term : Term) : term.occurredAt < term.finish := by
  have hpos := termMilliseconds_pos term.termMonths
  unfold Term.finish
  omega

/-- The part of the term that a window recognizes. -/
def Term.fraction (term : Term) (fromDate toDate : ℤ) : ℤ × ℤ :=
  recognitionFraction {
    occurredAt := term.occurredAt
    termMonths := term.termMonths
    asOf := toDate
    periodFrom := some fromDate
    periodTo := some toDate }

theorem Term.fraction_eq (term : Term) (fromDate toDate : ℤ) :
    term.fraction fromDate toDate =
      if min toDate term.finish ≤ max term.occurredAt fromDate then (0, 1)
      else (min toDate term.finish - max term.occurredAt fromDate,
        term.finish - term.occurredAt) := by
  have hlt := term.occurredAt_lt_finish
  unfold Term.fraction recognitionFraction
  dsimp only
  change (if min (min toDate term.finish) toDate ≤ max term.occurredAt fromDate ∨
    term.finish ≤ term.occurredAt then ((0, 1) : ℤ × ℤ) else
    (min (min toDate term.finish) toDate - max term.occurredAt fromDate,
      if 0 < term.finish - term.occurredAt then term.finish - term.occurredAt else 1)) = _
  have hmin : min (min toDate term.finish) toDate = min toDate term.finish := by omega
  have hpos : 0 < term.finish - term.occurredAt := by omega
  have hnot : ¬ term.finish ≤ term.occurredAt := by omega
  rw [hmin, if_pos hpos]
  simp only [hnot, or_false]

/-- A stored entry covers at least a month. -/
theorem readTermMonths_pos (metadata : Option Js.Json) : 0 < readTermMonths metadata := by
  unfold readTermMonths
  split
  · split
    · rename_i h
      exact h.2
    · omega
  · split
    · split
      · assumption
      · omega
    · omega
  · omega

def JournalEntry.term (entry : JournalEntry) : Term :=
  ⟨entry.occurredAt, readTermMonths entry.metadata, readTermMonths_pos _⟩

/-! ## The recognized view of a window -/

/-- The recognized view of a window. -/
def recognizedIn (fromDate toDate : ℤ) : KpiQuery where
  fromDate := some fromDate
  toDate := some toDate
  view := some .recognized

/-- The report counts the entry when it occurred in the window. -/
def eligible (entry : JournalEntry) : Bool :=
  (entry.status = .posted || entry.status = .reversed) &&
    entry.quality ∈ [AccountingQuality.final, .estimated] && counts entry

theorem reads_recognizedIn (fromDate toDate : ℤ) (entry : JournalEntry) :
    (recognizedIn fromDate toDate).reads entry =
      (eligible entry && (fromDate ≤ entry.occurredAt && entry.occurredAt ≤ toDate)) := by
  simp only [KpiQuery.reads, KpiQuery.selects, KpiQuery.covers, KpiQuery.qualitiesOrDefault,
    recognizedIn, eligible, Option.getD_none, Option.all_some]
  ac_rfl

/-- What the lines of an entry add to a sum for some part of its term. -/
def JournalEntry.portion (entry : JournalEntry) (cls : KpiClass) (fromDate toDate : ℤ) : ℤ :=
  (entry.lines.map (lineSum .recognized (entry.term.fraction fromDate toDate) cls)).sum

theorem entrySum_recognizedIn (fromDate toDate now : ℤ) (cls : KpiClass) (entry : JournalEntry) :
    (recognizedIn fromDate toDate).entrySum now cls entry = entry.portion cls fromDate toDate :=
  rfl

/-- What an entry adds to the recognized sum of a window. -/
def JournalEntry.recognized (entry : JournalEntry) (cls : KpiClass) (fromDate toDate : ℤ) : ℤ :=
  if eligible entry && (fromDate ≤ entry.occurredAt && entry.occurredAt ≤ toDate) then
    entry.portion cls fromDate toDate
  else 0

/-- The recognized sum of a window. -/
theorem sum_recognizedIn (fromDate toDate now : ℤ) (journal : List JournalEntry) (cls : KpiClass) :
    (recognizedIn fromDate toDate).sum now journal cls =
      (journal.map fun entry => entry.recognized cls fromDate toDate).sum := by
  rw [sum_eq, sum_filter]
  congr 2
  funext entry
  rw [reads_recognizedIn, entrySum_recognizedIn]
  rfl

variable {entry : JournalEntry} {cls : KpiClass} {toDate fromDate : ℤ}

/-- Operating expenses have no term: they are left out of what follows. -/
theorem portion_eq_zero (hcls : cls ≠ .opex)
    (h : min toDate entry.term.finish ≤ max entry.occurredAt fromDate) :
    entry.portion cls fromDate toDate = 0 := by
  have hfraction : entry.term.fraction fromDate toDate = (0, 1) := by
    rw [Term.fraction_eq]
    exact if_pos h
  have hline : ∀ line, lineSum .recognized (0, 1) cls line = 0 := by
    intro line
    unfold lineSum
    split
    · cases cls <;> simp [lineAmount, applyFraction] at hcls ⊢
    · rfl
  unfold JournalEntry.portion
  rw [hfraction]
  apply List.sum_eq_zero
  intro amount hamount
  obtain ⟨line, -, rfl⟩ := List.mem_map.1 hamount
  exact hline line

/-- From its occurrence on, the portion depends on where its part of the term ends only. -/
theorem portion_congr {first second toDate' : ℤ} (h₁ : first ≤ entry.occurredAt)
    (h₂ : second ≤ entry.occurredAt)
    (h : min toDate entry.term.finish = min toDate' entry.term.finish) :
    entry.portion cls first toDate = entry.portion cls second toDate' := by
  have hfraction : entry.term.fraction first toDate = entry.term.fraction second toDate' := by
    have hstart : entry.term.occurredAt = entry.occurredAt := rfl
    rw [Term.fraction_eq, Term.fraction_eq, h, hstart, max_eq_left h₁, max_eq_left h₂]
  unfold JournalEntry.portion
  rw [hfraction]

/-! ## Windows that add up -/

/-- No window that begins after the entry occurred reaches into its term. -/
def Term.ClosedIn (term : Term) (start : ℤ) (ends : List ℤ) : Prop :=
  ∀ window ∈ windows start ends, start ≤ term.occurredAt → term.occurredAt < window.1 →
    min window.2 term.finish ≤ window.1

theorem Term.ClosedIn.tail {term : Term} (h : term.ClosedIn start (next :: rest))
    (hle : start ≤ next) : term.ClosedIn next rest := by
  intro window hwindow hnext hlt
  exact h window (List.mem_cons_of_mem _ hwindow) (hle.trans hnext) hlt

/-- Windows none of which reaches into the term start after it, or are empty. -/
theorem finish_le_or_lastEnd_eq {finish : ℤ} (hordered : Ordered start ends)
    (h : ∀ window ∈ windows start ends, min window.2 finish ≤ window.1) :
    finish ≤ start ∨ lastEnd start ends = start := by
  induction ends generalizing start with
  | nil => exact .inr rfl
  | cons next rest ih =>
      have hhead := h (start, next) List.mem_cons_self
      have hle := hordered.head
      rcases ih hordered.tail fun window hwindow => h window (List.mem_cons_of_mem _ hwindow) with
        hfinish | hlast
      · dsimp only at hhead
        left
        omega
      · rw [lastEnd_cons, hlast]
        dsimp only at hhead
        omega

/-- Two windows that meet add up, unless the entry occurred in the first and its term goes on in
the second. -/
theorem recognized_add (hcls : cls ≠ .opex) {last : ℤ} (h₁ : start ≤ next) (h₂ : next ≤ last)
    (h : start ≤ entry.occurredAt → entry.occurredAt < next →
      entry.term.finish ≤ next ∨ last = next) :
    entry.recognized cls start next + entry.recognized cls next last =
      entry.recognized cls start last := by
  unfold JournalEntry.recognized
  cases eligible entry with
  | false => rfl
  | true =>
      simp only [Bool.true_and, Bool.and_eq_true, decide_eq_true_eq]
      by_cases hstart : start ≤ entry.occurredAt
      · by_cases hnext : entry.occurredAt < next
        · -- it occurred in the first window, which its term does not leave
          have hsame : min next entry.term.finish = min last entry.term.finish := by
            rcases h hstart hnext with hfinish | rfl
            · omega
            · rfl
          rw [if_pos ⟨hstart, hnext.le⟩, if_neg (by omega), if_pos ⟨hstart, by omega⟩,
            portion_congr hstart hstart hsame, add_zero]
        · -- it occurred in the second window: the first one only touches it
          have hzero : (if start ≤ entry.occurredAt ∧ entry.occurredAt ≤ next then
              entry.portion cls start next else 0) = 0 := by
            split
            · exact portion_eq_zero hcls (by omega)
            · rfl
          rw [hzero, zero_add]
          by_cases hlast : entry.occurredAt ≤ last
          · rw [if_pos ⟨by omega, hlast⟩, if_pos ⟨hstart, hlast⟩]
            exact portion_congr (by omega) hstart rfl
          · rw [if_neg (by omega), if_neg (by omega)]
      · rw [if_neg (by omega), if_neg (by omega), if_neg (by omega), add_zero]

variable {journal : List JournalEntry}

/-- The recognized sums of consecutive windows, when no term leaves its window. -/
theorem sum_windows (hcls : cls ≠ .opex) (hordered : Ordered start ends)
    (hclosed : ∀ entry ∈ journal, entry.term.ClosedIn start ends) :
    ((windows start ends).map fun window =>
      (journal.map fun entry => entry.recognized cls window.1 window.2).sum).sum =
      (journal.map fun entry => entry.recognized cls start (lastEnd start ends)).sum := by
  induction ends generalizing start with
  | nil =>
      -- an interval without windows is empty
      symm
      apply List.sum_eq_zero
      intro amount hamount
      obtain ⟨entry, -, rfl⟩ := List.mem_map.1 hamount
      unfold JournalEntry.recognized
      split
      · exact portion_eq_zero hcls (by simp [lastEnd])
      · rfl
  | cons next rest ih =>
      have hle := hordered.head
      rw [windows, List.map_cons, List.sum_cons, lastEnd_cons,
        ih hordered.tail fun entry hentry => (hclosed entry hentry).tail hle, ← List.sum_map_add]
      congr 1
      apply List.map_congr_left
      intro entry hentry
      refine recognized_add hcls hle hordered.tail.le_lastEnd ?_
      intro hstart hlt
      apply finish_le_or_lastEnd_eq hordered.tail
      intro window hwindow
      have hterm : entry.term.occurredAt = entry.occurredAt := rfl
      have hafter := (hordered.tail.window hwindow).1
      exact hclosed entry hentry window (List.mem_cons_of_mem _ hwindow) hstart (by omega)

/-! ## The law, and the terms for which it holds -/

/-- The values of the windows add up to the value of the interval, up to one rial for each line
of each entry and each window. -/
def AddsUpIn (value : AccountingKpiTotals → ℤ) (journal : List JournalEntry) (start : ℤ)
    (ends : List ℤ) (now : ℤ) : Prop :=
  |((windows start ends).map fun window =>
      value (computeAccountingKpis journal (recognizedIn window.1 window.2) now)).sum -
    value (computeAccountingKpis journal (recognizedIn start (lastEnd start ends)) now)| ≤
    (journal.map fun entry => (entry.lines.length : ℤ)).sum * (windows start ends).length

/-- Gross billed, net sales and cost add up over the windows. -/
structure AddsUp (journal : List JournalEntry) (start : ℤ) (ends : List ℤ) (now : ℤ) : Prop where
  gross : AddsUpIn AccountingKpiTotals.grossBilledRial journal start ends now
  netSales : AddsUpIn AccountingKpiTotals.netSalesExclTaxRial journal start ends now
  cogs : AddsUpIn AccountingKpiTotals.providerCogsRial journal start ends now

/-- Each window recognizes the part of each term that it covers. -/
def InEveryWindow (journal : List JournalEntry) (start : ℤ) (ends : List ℤ) (now : ℤ) : Prop :=
  ∀ window ∈ windows start ends,
    (computeAccountingKpis journal (recognizedIn window.1 window.2) now).grossBilledRial =
      (journal.map fun entry =>
        if eligible entry then entry.portion .grossBilled window.1 window.2 else 0).sum

/-- The entry occurred in every window that its term reaches into. -/
def Term.OccursInEach (term : Term) (start : ℤ) (ends : List ℤ) : Prop :=
  ∀ window ∈ windows start ends, (window.1 ≤ term.occurredAt ∧ term.occurredAt ≤ window.2) ∨
    min window.2 term.finish ≤ max term.occurredAt window.1

theorem Term.OccursInEach.closedIn {term : Term} (h : term.OccursInEach start ends) :
    term.ClosedIn start ends := by
  intro window hwindow _ hlt
  have hcases := h window hwindow
  omega

theorem gross_eq (journal : List JournalEntry) (fromDate toDate now : ℤ) :
    (computeAccountingKpis journal (recognizedIn fromDate toDate) now).grossBilledRial =
      (journal.map fun entry => entry.recognized .grossBilled fromDate toDate).sum :=
  sum_recognizedIn fromDate toDate now journal .grossBilled

theorem cogs_eq (journal : List JournalEntry) (fromDate toDate now : ℤ) :
    (computeAccountingKpis journal (recognizedIn fromDate toDate) now).providerCogsRial =
      (journal.map fun entry => entry.recognized .cogs fromDate toDate).sum :=
  sum_recognizedIn fromDate toDate now journal .cogs

theorem netSales_eq (journal : List JournalEntry) (fromDate toDate now : ℤ) :
    (computeAccountingKpis journal (recognizedIn fromDate toDate) now).netSalesExclTaxRial =
      (journal.map fun entry => entry.recognized .grossBilled fromDate toDate).sum -
        (journal.map fun entry => entry.recognized .contra fromDate toDate).sum := by
  rw [← sum_recognizedIn fromDate toDate now, ← sum_recognizedIn fromDate toDate now]
  rfl

/-- Equal values leave nothing to the tolerance. -/
theorem addsUpIn_of_eq {value : AccountingKpiTotals → ℤ} {now : ℤ}
    (h : ((windows start ends).map fun window =>
        value (computeAccountingKpis journal (recognizedIn window.1 window.2) now)).sum =
      value (computeAccountingKpis journal (recognizedIn start (lastEnd start ends)) now)) :
    AddsUpIn value journal start ends now := by
  unfold AddsUpIn
  rw [h, sub_self, abs_zero]
  apply mul_nonneg _ (Int.natCast_nonneg _)
  apply List.sum_nonneg
  intro lines hlines
  obtain ⟨entry, -, rfl⟩ := List.mem_map.1 hlines
  exact Int.natCast_nonneg _

theorem addsUp_of_closedIn (hordered : Ordered start ends) (now : ℤ)
    (hclosed : ∀ entry ∈ journal, entry.term.ClosedIn start ends) :
    AddsUp journal start ends now := by
  constructor
  · apply addsUpIn_of_eq
    simp only [gross_eq]
    exact sum_windows (by decide) hordered hclosed
  · apply addsUpIn_of_eq
    simp only [netSales_eq]
    rw [Lib.sum_map_sub, sum_windows (by decide) hordered hclosed,
      sum_windows (by decide) hordered hclosed]
  · apply addsUpIn_of_eq
    simp only [cogs_eq]
    exact sum_windows (by decide) hordered hclosed

theorem inEveryWindow_of_occursInEach (now : ℤ)
    (h : ∀ entry ∈ journal, entry.term.OccursInEach start ends) :
    InEveryWindow journal start ends now := by
  intro window hwindow
  rw [gross_eq]
  congr 1
  apply List.map_congr_left
  intro entry hentry
  unfold JournalEntry.recognized
  cases eligible entry with
  | false => rfl
  | true =>
      simp only [Bool.true_and, Bool.and_eq_true, decide_eq_true_eq, if_true]
      split
      · rfl
      · rename_i hout
        rcases h entry hentry window hwindow with hin | hdisjoint
        · exact absurd hin hout
        · exact (portion_eq_zero (by decide) hdisjoint).symm

/-! ## Terms for which it fails -/

variable {denominator : ℤ}

/-- A share that is a whole number of rial is not rounded. -/
theorem applyFraction_mul {k numerator : ℤ} (hpos : 0 < denominator) (hk : 0 ≤ k)
    (hnumerator : 0 ≤ numerator) :
    applyFraction (denominator * k) numerator denominator = k * numerator := by
  unfold applyFraction
  split
  · rename_i h
    rcases h with h | h
    · rcases mul_eq_zero.1 h with h | h
      · omega
      · rw [h, zero_mul]
    · rw [h, mul_zero]
  · have hnonneg : 0 ≤ k * numerator := mul_nonneg hk hnumerator
    have hhalf : denominator.tdiv 2 = denominator / 2 :=
      Int.tdiv_eq_ediv_of_nonneg hpos.le
    have hsmall : denominator / 2 / denominator = 0 :=
      Int.ediv_eq_zero_of_lt (by omega) (by omega)
    have hproduct : denominator * k * numerator + denominator / 2 =
        denominator / 2 + denominator * (k * numerator) := by ring
    rw [hhalf, hproduct, Int.tdiv_eq_ediv_of_nonneg
      (add_nonneg (by omega) (mul_nonneg hpos.le hnonneg)),
      Int.add_mul_ediv_left _ _ (by omega), hsmall, zero_add]

/-- A sale whose term earns `k` rial a millisecond. -/
def Term.sale (term : Term) (k : ℤ) : JournalEntry where
  id := "sale"
  eventType := "service_purchase_completed"
  referenceType := "service_order"
  referenceId := "order"
  idempotencyKey := "service-order:order:purchase:v1"
  occurredAt := term.occurredAt
  status := .posted
  quality := .final
  metadata := some (.object [("termMonths", .number term.termMonths)])
  postedAt := term.occurredAt
  reversesEntryId := none
  actorUserId := none
  lines := [
    ⟨"CUSTOMER_WALLET_LIABILITY", (term.finish - term.occurredAt) * k, 0, none, none, 0⟩,
    ⟨"INFRASTRUCTURE_REVENUE", 0, (term.finish - term.occurredAt) * k, none, none, 1⟩]

theorem term_sale (term : Term) (k : ℤ) : (term.sale k).term = term := by
  have hmonths : readTermMonths (term.sale k).metadata = term.termMonths := by
    show (if ((term.termMonths : ℚ)).den = 1 ∧ 0 < ((term.termMonths : ℚ)).num then
      ((term.termMonths : ℚ)).num else 1) = _
    rw [Rat.num_intCast, Rat.den_intCast, if_pos ⟨rfl, term.positive⟩]
  unfold JournalEntry.term
  congr 1

/-- The revenue of the sale in a window: `k` rial for each millisecond of the overlap. -/
theorem portion_sale (term : Term) {k : ℤ} (hk : 0 ≤ k) (fromDate toDate : ℤ) :
    (term.sale k).portion .grossBilled fromDate toDate =
      k * max 0 (min toDate term.finish - max term.occurredAt fromDate) := by
  have hwallet : (isAccountCode "CUSTOMER_WALLET_LIABILITY").bind kpiClass = none := by decide
  have hrevenue : (isAccountCode "INFRASTRUCTURE_REVENUE").bind kpiClass =
      some .grossBilled := by decide
  have hlt := term.occurredAt_lt_finish
  unfold JournalEntry.portion
  rw [term_sale, Term.fraction_eq]
  simp only [Term.sale, List.map_cons, List.map_nil, List.sum_cons, List.sum_nil, lineSum,
    hwallet, hrevenue, reduceCtorEq, if_false, if_true, lineAmount, sub_zero, zero_add, add_zero]
  split
  · rename_i hempty
    have hzero : max 0 (min toDate term.finish - max term.occurredAt fromDate) = 0 :=
      max_eq_left (by omega)
    rw [hzero, mul_zero]
    simp [applyFraction]
  · rename_i hoverlap
    have hoverlap : max 0 (min toDate term.finish - max term.occurredAt fromDate) =
        min toDate term.finish - max term.occurredAt fromDate := max_eq_right (by omega)
    rw [hoverlap]
    exact applyFraction_mul (by omega) hk (by omega)

/-- The milliseconds of a term that the report of a window recognizes. -/
def Term.seen (term : Term) (fromDate toDate : ℤ) : ℤ :=
  if fromDate ≤ term.occurredAt ∧ term.occurredAt ≤ toDate then
    max 0 (min toDate term.finish - max term.occurredAt fromDate)
  else 0

theorem gross_sale (term : Term) {k : ℤ} (hk : 0 ≤ k) (fromDate toDate now : ℤ) :
    (computeAccountingKpis [term.sale k] (recognizedIn fromDate toDate) now).grossBilledRial =
      k * term.seen fromDate toDate := by
  have heligible : eligible (term.sale k) = true := rfl
  have hoccurred : (term.sale k).occurredAt = term.occurredAt := rfl
  rw [gross_eq, List.map_singleton, List.sum_singleton]
  unfold JournalEntry.recognized Term.seen
  rw [heligible, portion_sale term hk, hoccurred]
  simp only [Bool.true_and, Bool.and_eq_true, decide_eq_true_eq]
  split
  · rfl
  · rw [mul_zero]

/-- Windows that start after the entry occurred recognize nothing of it. -/
theorem sum_seen_eq_zero {term : Term} (hordered : Ordered start ends)
    (hlt : term.occurredAt < start) :
    ((windows start ends).map fun window => term.seen window.1 window.2).sum = 0 := by
  apply List.sum_eq_zero
  intro seen hseen
  obtain ⟨window, hwindow, rfl⟩ := List.mem_map.1 hseen
  have hstart := (hordered.window hwindow).1
  exact if_neg (by omega)

/-- When a later window reaches into the term, the windows recognize less than the interval. -/
theorem sum_seen_lt {term : Term} (hordered : Ordered start ends)
    (hstart : start ≤ term.occurredAt) {window : ℤ × ℤ} (hwindow : window ∈ windows start ends)
    (hlater : term.occurredAt < window.1) (hreaches : window.1 < min window.2 term.finish) :
    ((windows start ends).map fun window => term.seen window.1 window.2).sum <
      term.seen start (lastEnd start ends) := by
  have hfinish := term.occurredAt_lt_finish
  induction ends generalizing start with
  | nil => cases hwindow
  | cons next rest ih =>
      rw [windows, List.map_cons, List.sum_cons, lastEnd_cons]
      have htail : window ∈ windows next rest := by
        rcases List.mem_cons.1 hwindow with rfl | h
        · exact absurd hstart (not_le.2 hlater)
        · exact h
      obtain ⟨hafter, -, hlast⟩ := hordered.tail.window htail
      by_cases hnext : term.occurredAt < next
      · -- only the first window recognizes the entry, and its term goes on
        rw [sum_seen_eq_zero hordered.tail hnext]
        unfold Term.seen
        rw [if_pos ⟨hstart, hnext.le⟩, if_pos ⟨hstart, by omega⟩]
        omega
      · have hrest := ih hordered.tail (by omega) htail
        have hfirst : term.seen start next = 0 := by
          unfold Term.seen
          split <;> omega
        have hsame : term.seen next (lastEnd next rest) = term.seen start (lastEnd next rest) := by
          unfold Term.seen
          rw [max_eq_left hstart, max_eq_left (not_lt.1 hnext)]
          simp only [hstart, not_lt.1 hnext, true_and]
        rw [hfirst, zero_add, ← hsame]
        exact hrest

/-- A sale that is large enough shows the loss. -/
theorem not_addsUp_sale {term : Term} (hordered : Ordered start ends)
    (hopen : ¬ term.ClosedIn start ends) (now : ℤ) :
    ¬ AddsUp [term.sale (2 * ends.length + 1)] start ends now := by
  intro h
  unfold Term.ClosedIn at hopen
  push Not at hopen
  obtain ⟨window, hwindow, hstart, hlater, hreaches⟩ := hopen
  have hlt := sum_seen_lt hordered hstart hwindow hlater hreaches
  have hk : (0 : ℤ) ≤ 2 * ends.length + 1 := by omega
  have hgross := h.gross
  unfold AddsUpIn at hgross
  simp only [gross_sale term hk, List.sum_map_mul_left, length_windows] at hgross
  rw [← mul_sub, abs_mul] at hgross
  have hloss : 1 ≤ |((windows start ends).map fun window => term.seen window.1 window.2).sum -
      term.seen start (lastEnd start ends)| := by
    rw [abs_sub_comm]
    exact le_abs.2 (.inl (by omega))
  have hslack : ([term.sale (2 * ends.length + 1)].map fun entry =>
      (entry.lines.length : ℤ)).sum = 2 := rfl
  rw [hslack, abs_of_nonneg hk] at hgross
  nlinarith

/-- A window that the entry does not occur in loses its part of the term. -/
theorem not_inEveryWindow_sale {term : Term} (hmissed : ¬ term.OccursInEach start ends) (now : ℤ) :
    ¬ InEveryWindow [term.sale 1] start ends now := by
  intro h
  unfold Term.OccursInEach at hmissed
  push Not at hmissed
  obtain ⟨window, hwindow, hout, hreaches⟩ := hmissed
  have heligible : eligible (term.sale 1) = true := rfl
  have hwindow := h window hwindow
  rw [gross_sale term (by omega), List.map_singleton, List.sum_singleton, heligible, if_pos rfl,
    portion_sale term (by omega)] at hwindow
  unfold Term.seen at hwindow
  rw [if_neg fun hin => absurd hin.2 (not_le.2 (hout hin.1))] at hwindow
  omega

/-! ## A window that covers the whole term -/

/-- The whole of an amount is recognized, up to a rial for a negative one. -/
theorem abs_applyFraction_sub_le (hpos : 0 < denominator) (amount : ℤ) :
    |applyFraction amount denominator denominator - amount| ≤ 1 := by
  unfold applyFraction
  split
  · rename_i h
    rcases h with rfl | h
    · simp
    · omega
  · have hhalf : denominator.tdiv 2 = denominator / 2 := Int.tdiv_eq_ediv_of_nonneg hpos.le
    set total := amount * denominator + denominator.tdiv 2 with htotal
    have hsplit := Int.mul_tdiv_add_tmod total denominator
    have hbelow : total.tmod denominator < denominator := Int.tmod_lt_of_pos _ hpos
    have habove : -denominator < total.tmod denominator := Int.lt_tmod_of_pos _ hpos
    have herror : denominator * (total.tdiv denominator - amount) =
        denominator / 2 - total.tmod denominator := by
      rw [← hhalf]
      linarith
    have hlow : -1 < total.tdiv denominator - amount := by
      refine lt_of_mul_lt_mul_left ?_ hpos.le
      rw [herror]
      omega
    have hhigh : total.tdiv denominator - amount < 2 := by
      refine lt_of_mul_lt_mul_left ?_ hpos.le
      rw [herror]
      omega
    rw [abs_le]
    omega

/-- The booked view of a window. -/
def bookedIn (fromDate toDate : ℤ) : KpiQuery where
  fromDate := some fromDate
  toDate := some toDate
  view := some .booked

/-- A window that covers every term recognizes what is booked in it, up to a rial for a line. -/
theorem recognized_of_covered
    (h : ∀ entry ∈ journal, fromDate ≤ entry.occurredAt ∧ entry.term.finish ≤ toDate) (now : ℤ) :
    |(computeAccountingKpis journal (recognizedIn fromDate toDate) now).grossBilledRial -
      (computeAccountingKpis journal (bookedIn fromDate toDate) now).grossBilledRial| ≤
      (journal.map fun entry => (entry.lines.length : ℤ)).sum := by
  have hbooked : (computeAccountingKpis journal (bookedIn fromDate toDate) now).grossBilledRial =
      (journal.map fun entry => if (recognizedIn fromDate toDate).reads entry then
        (entry.lines.map (lineSum .booked (1, 1) .grossBilled)).sum else 0).sum := by
    rw [← sum_filter]
    exact sum_eq (bookedIn fromDate toDate) now journal .grossBilled
  rw [hbooked, gross_eq]
  apply abs_sum_sub_sum_le
  intro entry hentry
  unfold JournalEntry.recognized
  rw [reads_recognizedIn]
  split
  · -- the fraction is the whole term
    obtain ⟨hstart, hfinish⟩ := h entry hentry
    have hlt := entry.term.occurredAt_lt_finish
    have hterm : entry.term.occurredAt = entry.occurredAt := rfl
    have hfraction : entry.term.fraction fromDate toDate =
        (entry.term.finish - entry.occurredAt, entry.term.finish - entry.occurredAt) := by
      rw [Term.fraction_eq, hterm, min_eq_right hfinish, max_eq_left hstart]
      exact if_neg (by omega)
    have hlength : (entry.lines.length : ℤ) = (entry.lines.map fun _ => (1 : ℤ)).sum := by simp
    unfold JournalEntry.portion
    rw [hfraction, hlength]
    apply abs_sum_sub_sum_le
    intro line _
    unfold lineSum
    split
    · exact abs_applyFraction_sub_le (by omega) _
    · simp
  · simp

/-! ## The law -/

/-- An interval and the ends of its windows. -/
structure Partition where
  start : ℤ
  ends : List ℤ
  ordered : Ordered start ends

/-- **When recognized revenue is additive over time.**  For every journal with entries of given
terms the windows of an interval add up exactly when no window that begins after such an entry
occurred reaches into its term; they add up and each window recognizes its part of every term
exactly when every entry occurs in every window that its term reaches into.  A window that
covers every term recognizes the booked amount. -/
theorem recognition_additive_iff (terms : Set Term) (interval : Partition) (now : ℤ) :
    ((∀ journal : List JournalEntry, (∀ entry ∈ journal, entry.term ∈ terms) →
        AddsUp journal interval.start interval.ends now) ↔
      ∀ term ∈ terms, term.ClosedIn interval.start interval.ends) ∧
    ((∀ journal : List JournalEntry, (∀ entry ∈ journal, entry.term ∈ terms) →
        AddsUp journal interval.start interval.ends now ∧
          InEveryWindow journal interval.start interval.ends now) ↔
      ∀ term ∈ terms, term.OccursInEach interval.start interval.ends) ∧
    ∀ (journal : List JournalEntry) (fromDate toDate : ℤ),
      (∀ entry ∈ journal, fromDate ≤ entry.occurredAt ∧ entry.term.finish ≤ toDate) →
        |(computeAccountingKpis journal (recognizedIn fromDate toDate) now).grossBilledRial -
          (computeAccountingKpis journal (bookedIn fromDate toDate) now).grossBilledRial| ≤
          (journal.map fun entry => (entry.lines.length : ℤ)).sum := by
  refine ⟨⟨?_, ?_⟩, ⟨?_, ?_⟩, fun journal fromDate toDate h => recognized_of_covered h now⟩
  · intro h term hterm
    by_contra hopen
    refine not_addsUp_sale interval.ordered hopen now (h _ ?_)
    intro entry hentry
    rw [List.mem_singleton.1 hentry, term_sale]
    exact hterm
  · intro h journal hjournal
    exact addsUp_of_closedIn interval.ordered now fun entry hentry => h _ (hjournal entry hentry)
  · intro h term hterm
    by_contra hmissed
    refine not_inEveryWindow_sale hmissed now (h _ ?_).2
    intro entry hentry
    rw [List.mem_singleton.1 hentry, term_sale]
    exact hterm
  · intro h journal hjournal
    have hterms : ∀ entry ∈ journal, entry.term.OccursInEach interval.start interval.ends :=
      fun entry hentry => h _ (hjournal entry hentry)
    exact ⟨addsUp_of_closedIn interval.ordered now fun entry hentry =>
      (hterms entry hentry).closedIn, inEveryWindow_of_occursInEach now hterms⟩

/-- A sale of two months for 600 rial. -/
def twoMonthSale : JournalEntry :=
  { (Term.sale ⟨0, 2, by decide⟩ 0) with
    lines := [⟨"CUSTOMER_WALLET_LIABILITY", 600, 0, none, none, 0⟩,
      ⟨"INFRASTRUCTURE_REVENUE", 0, 600, none, none, 1⟩] }

/-- The first month of the sale recognizes 300 rial and the second one nothing; both together
recognize 600 rial. -/
theorem twoMonthSale_not_additive :
    let month : ℤ := 30 * 24 * 60 * 60 * 1000
    let gross := fun fromDate toDate =>
      (computeAccountingKpis [twoMonthSale] (recognizedIn fromDate toDate) 0).grossBilledRial
    gross 0 month = 300 ∧ gross month (2 * month) = 0 ∧ gross 0 (2 * month) = 600 ∧
      ¬ AddsUp [twoMonthSale] 0 [month, 2 * month] 0 := by
  refine ⟨by decide +kernel, by decide +kernel, by decide +kernel, fun h => ?_⟩
  have hgross := h.gross
  unfold AddsUpIn at hgross
  revert hgross
  decide +kernel

end AbrChin.Accounting
