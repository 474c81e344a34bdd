import AbrChin.Billing.Neutrality
import AbrChin.Billing.Slices
import AbrChin.Lib.Sums
import Mathlib.Algebra.BigOperators.Ring.Finset

/-!
# A rate card that changes under another

All rates of a usage are cut at the ends of all its rate cards, so a new price for the disk cuts
the lines of the computer too, and each slice is raised to the minimum charge and rounded to whole
units on its own.

* The slices are a partition of the usage, and a slice has one rate for a component and unit at
  most, so nothing is charged twice for an instant (`slices_partition`, `lineDrafts_once`).
* The lines of a rate that is in force throughout are the sum of what it charges for the lengths
  of the slices (`totalOf_linesFor`).  Rounding the amounts up costs less than a rial a slice, but
  rounding the time does not add up: two half hours of a rate by the started hour are two hours.

So a rate is billed as if nothing had been cut exactly for the lengths that its terms count alike
in slices and as a whole (`TimeTerms.AddsUp`, `billed_apart_iff`).
-/

namespace AbrChin.Billing

open Lib

/-! ## The time that counts -/

/-- The seconds that a duration counts for: at least the minimum charge, and whole units where
the terms round. -/
def TimeTerms.counted (terms : TimeTerms) (seconds : ℕ) : ℤ :=
  let unit := unitSeconds terms.calculationUnit
  let charged : ℤ := terms.charged seconds
  if terms.prorationSupported ∧ terms.roundingPolicy = .exact then charged
  else if ¬ terms.prorationSupported ∨ terms.roundingPolicy = .ceilUnit then
    charged + (-charged) % unit
  else if terms.roundingPolicy = .floorUnit then charged - charged % unit
  else charged + unit / 2 - (charged + unit / 2) % unit

/-- Slices of these lengths count for as much as the whole. -/
def TimeTerms.AddsUp (terms : TimeTerms) (lengths : List ℕ) : Prop :=
  (lengths.map terms.counted).sum = terms.counted lengths.sum

theorem units_counted (terms : TimeTerms) (seconds : ℕ) :
    (terms.units seconds).numerator * unitSeconds terms.calculationUnit =
      terms.counted seconds * (terms.units seconds).denominator := by
  obtain ⟨unit, minimum, policy, proration⟩ := terms
  unfold TimeTerms.counted TimeTerms.units
  cases unit <;> cases policy <;> cases proration <;> simp [unitSeconds] <;> omega

variable {lengths : List ℕ}

theorem addsUp_iff {terms : TimeTerms} : terms.AddsUp lengths ↔
    (lengths.map fun seconds => (terms.units seconds).numerator).sum =
      (terms.units lengths.sum).numerator := by
  have hunit := unitSeconds_pos terms.calculationUnit
  have hpositive := terms.units_denominator_pos lengths.sum
  have hparts : (lengths.map fun seconds => (terms.units seconds).numerator).sum *
      unitSeconds terms.calculationUnit =
        (lengths.map terms.counted).sum * (terms.units lengths.sum).denominator := by
    rw [← List.sum_map_mul_right, ← List.sum_map_mul_right]
    congr 1
    refine List.map_congr_left fun seconds _ => ?_
    rw [units_counted, units_denominator terms seconds lengths.sum]
  have hwhole := units_counted terms lengths.sum
  unfold TimeTerms.AddsUp
  constructor
  · intro h
    rw [h, ← hwhole] at hparts
    exact mul_right_cancel₀ hunit.ne' hparts
  · intro h
    rw [h, hwhole] at hparts
    exact (mul_right_cancel₀ hpositive.ne' hparts).symm

/-! ## Slices are a partition -/

section Slices

variable {boundaries : List ℤ}

/-- The slices between the first boundary and the last one. -/
theorem countP_slicesOf {first : ℤ} {rest : List ℤ} (hsorted : (first :: rest).Pairwise (· < ·))
    (instant : ℤ) : (slicesOf (first :: rest)).countP (·.Contains instant) =
      if first ≤ instant ∧ instant < (first :: rest).getLast (by simp) then 1 else 0 := by
  induction rest generalizing first with
  | nil =>
      rw [if_neg (by simp)]
      rfl
  | cons second rest ih =>
      obtain ⟨hfirst, hrest⟩ := List.pairwise_cons.1 hsorted
      have hsecond : second ≤ (second :: rest).getLast (by simp) := by
        rcases List.mem_cons.1 (List.getLast_mem (List.cons_ne_nil second rest)) with heq | hmem
        · exact heq.ge
        · exact ((List.pairwise_cons.1 hrest).1 _ hmem).le
      have hlt : first < second := hfirst second (by simp)
      rw [slicesOf, List.countP_cons, ih hrest, List.getLast_cons (List.cons_ne_nil second rest)]
      have hhead : (if decide ((⟨first, second⟩ : Span ℤ).Contains instant) = true then 1 else 0) =
          if first ≤ instant ∧ instant < second then 1 else 0 :=
        if_congr decide_eq_true_iff rfl rfl
      rw [hhead]
      -- the later slices begin at the second boundary, where the first one is over
      split_ifs <;> omega

theorem boundaries_ends {usage : Span ℤ} (husage : usage.start < usage.stop)
    (rates : List RateCardVersion) : ∃ second rest,
      orderedBoundaries usage rates = usage.start :: second :: rest ∧
        (second :: rest).getLast (by simp) = usage.stop := by
  have hsorted := orderedBoundaries_sorted usage rates
  have hstart : usage.start ∈ orderedBoundaries usage rates := mem_orderedBoundaries.2 (.inl rfl)
  have hstop : usage.stop ∈ orderedBoundaries usage rates :=
    mem_orderedBoundaries.2 (.inr (.inl rfl))
  have hwithin : ∀ instant ∈ orderedBoundaries usage rates,
      usage.start ≤ instant ∧ instant ≤ usage.stop := fun _ h => boundary_within husage h
  generalize orderedBoundaries usage rates = boundaries at *
  cases boundaries with
  | nil => cases hstart
  | cons first rest =>
      obtain ⟨hfirst, hrest⟩ := List.pairwise_cons.1 hsorted
      have heq : first = usage.start := by
        rcases List.mem_cons.1 hstart with heq | hmem
        · exact heq.symm
        · exact absurd (hfirst _ hmem) (not_lt.2 (hwithin first (by simp)).1)
      subst heq
      cases rest with
      | nil =>
          rw [List.mem_singleton] at hstop
          omega
      | cons second rest =>
          refine ⟨second, rest, rfl, le_antisymm ?_ ?_⟩
          · exact (hwithin _ (List.mem_cons_of_mem _ (List.getLast_mem _))).2
          · have hmem : usage.stop ∈ second :: rest := by
              rcases List.mem_cons.1 hstop with heq | hmem
              · omega
              · exact hmem
            rw [← List.dropLast_append_getLast (List.cons_ne_nil second rest)] at hmem hrest
            rcases List.mem_append.1 hmem with hmem | hlast
            · exact ((List.pairwise_append.1 hrest).2.2 _ hmem _ (List.mem_singleton_self _)).le
            · exact (List.mem_singleton.1 hlast).le

/-- **An instant of a usage lies in one of its slices, and no other instant does.** -/
theorem slices_partition {usage : BoundedUsage} (husage : usage.start < usage.stop)
    (rates : List RateCardVersion) (instant : ℤ) :
    (usage.slices rates).countP (·.Contains instant) =
      if usage.toSpan.Contains instant then 1 else 0 := by
  obtain ⟨second, rest, hboundaries, hlast⟩ := boundaries_ends husage rates
  have hsorted := orderedBoundaries_sorted usage.toSpan rates
  rw [hboundaries] at hsorted
  rw [BoundedUsage.slices, hboundaries, countP_slicesOf hsorted]
  rw [List.getLast_cons (List.cons_ne_nil second rest), hlast]
  rfl

end Slices

/-! ## Nothing twice -/

section Lines

variable {rows : TimelineRows} {snapshot : PolicySnapshot} {cadence : BillingCadence}
  {target : Span ℤ} {drafts : List LineDraft}

/-- Lines for one component and unit are for different times. -/
def ChargedOnce (rows : TimelineRows) (draft other : LineDraft) : Prop :=
  ∀ rate ∈ rows.rates, ∀ candidate ∈ rows.rates, draft.rateCardVersionId = rate.id →
    other.rateCardVersionId = candidate.id → sameUnit rate candidate = true →
      draft.intervalEnd ≤ other.intervalStart ∨ other.intervalEnd ≤ draft.intervalStart

theorem pairwise_of_single {α : Type} {same : α → α → Bool} (hrefl : ∀ a, same a a = true)
    {as : List α} (h : ∀ a ∈ as, as.countP (same a) ≤ 1) :
    as.Pairwise fun a b => same a b = false := by
  induction as with
  | nil => exact .nil
  | cons first rest ih =>
      refine List.pairwise_cons.2 ⟨fun later hlater => ?_, ih fun a ha => ?_⟩
      · have hfirst := h first (by simp)
        rw [List.countP_cons_of_pos (hrefl first)] at hfirst
        have hnone : rest.countP (same first) = 0 := by omega
        exact Bool.eq_false_iff.2 (List.countP_eq_zero.1 hnone later hlater)
      · have hall := h a (List.mem_cons_of_mem _ ha)
        rw [List.countP_cons] at hall
        omega

theorem sameUnit_refl (rate : RateCardVersion) : sameUnit rate rate = true := by
  simp [sameUnit]

variable {lines : List LineDraft} {components : List ComponentType} {slice : Span ℤ}

theorem sliceLines_once (hvalid : rows.Valid) {usage : BoundedUsage}
    (h : sliceLines components (rows.ratesOf components cadence usage) usage slice = .ok lines) :
    lines.Pairwise (ChargedOnce rows) := by
  have hmem {rate : RateCardVersion}
      (hrate : rate ∈ activeRates (rows.ratesOf components cadence usage) slice) :
      rate ∈ rows.rates :=
    List.mem_of_mem_filter ((List.mem_insertionSort _).1 (List.mem_of_mem_filter hrate))
  unfold sliceLines at h
  dsimp only at h
  split at h
  · cases h
  · rename_i hreview
    have hsingle := pairwise_of_single sameUnit_refl (rateReview_eq_none.1 hreview).2
    refine pairwise_of_collect h (fun rate _ part hpart => ?_)
      (hsingle.imp_of_mem fun {rate candidate} hrate hcandidate hdifferent => ?_)
    · rcases rateLine_cases hpart with rfl | ⟨calculated, -, rfl⟩
      · exact .nil
      · exact List.pairwise_singleton _ _
    · intro part part' hpart hpart' draft hdraft other hother
      rcases rateLine_cases hpart with rfl | ⟨calculated, -, rfl⟩
      · cases hdraft
      rcases rateLine_cases hpart' with rfl | ⟨calculated', -, rfl⟩
      · cases hother
      obtain rfl := List.mem_singleton.1 hdraft
      obtain rfl := List.mem_singleton.1 hother
      -- an id names one rate card
      intro rate' hrate' candidate' hcandidate' hid hid' hsame
      obtain rfl := List.inj_on_of_nodup_map hvalid.rateIds (hmem hrate) hrate' hid
      obtain rfl := List.inj_on_of_nodup_map hvalid.rateIds (hmem hcandidate) hcandidate' hid'
      rw [hdifferent] at hsame
      cases hsame

theorem usageLines_once (hvalid : rows.Valid) {usage : BoundedUsage}
    (h : usageLines rows snapshot cadence usage = .ok lines) :
    lines.Pairwise (ChargedOnce rows) := by
  unfold usageLines at h
  dsimp only at h
  split_ifs at h with hempty
  · cases h
    exact .nil
  · refine pairwise_of_collect h (fun slice _ part hpart => sliceLines_once hvalid hpart) ?_
    have hsorted := orderedBoundaries_sorted usage.toSpan (usage.rates rows snapshot cadence)
    refine (slicesOf_pairwise hsorted).imp fun {slice slice'} hle => ?_
    intro part part' hpart hpart' draft hdraft other hother rate _ candidate _ _ _ _
    obtain ⟨_, -, calculated, -, rfl⟩ := mem_sliceLines hpart hdraft
    obtain ⟨_, -, calculated', -, rfl⟩ := mem_sliceLines hpart' hother
    exact .inl hle

/-- **No component and unit is charged twice for an instant.** -/
theorem lineDrafts_once (hvalid : rows.Valid)
    (h : lineDrafts rows snapshot cadence target = .ok drafts) :
    drafts.Pairwise (ChargedOnce rows) := by
  obtain ⟨usages, husages, hlines⟩ := bind_eq_ok.1 h
  obtain ⟨hused, hdisjoint⟩ := usedIn_of_usageOf husages
  refine pairwise_of_collect hlines (fun usage _ part hpart => usageLines_once hvalid hpart) ?_
  refine hdisjoint.imp_of_mem fun {usage other} husage hother hor => ?_
  intro part part' hpart hpart' draft hdraft draft' hdraft' rate _ candidate _ _ _ _
  have horigin := origin_of_usage (hused usage husage) hpart hdraft
  have horigin' := origin_of_usage (hused other hother) hpart' hdraft'
  obtain ⟨hstart, -, hstop⟩ := horigin.start, horigin.proper, horigin.stop
  obtain ⟨hstart', -, hstop'⟩ := horigin'.start, horigin'.proper, horigin'.stop
  omega

/-! ## The lines of one rate -/

/-- The lines of a rate for a usage. -/
def linesFor (drafts : List LineDraft) (usage : BoundedUsage) (rate : RateCardVersion) :
    List LineDraft :=
  drafts.filter fun draft =>
    draft.usageIntervalId = usage.interval.id ∧ draft.rateCardVersionId = rate.id

/-- The length of a slice. -/
def sliceSeconds (slice : Span ℤ) : ℕ := ((slice.stop - slice.start) / 1000).toNat

/-- The total of the lines that are kept, part by part. -/
theorem totalOf_collect {α : Type} {f : α → Except DraftStop (List LineDraft)} {as : List α}
    {result : List LineDraft} (h : collect f as = .ok result) {p : LineDraft → Bool} {amount : α → ℤ}
    (hpart : ∀ a ∈ as, ∀ part, f a = .ok part → totalOf (part.filter p) = amount a) :
    totalOf (result.filter p) = (as.map amount).sum := by
  induction as generalizing result with
  | nil =>
      cases h
      rfl
  | cons first rest ih =>
      obtain ⟨part, hfirst, later, hlater, rfl⟩ := collect_cons_eq_ok.1 h
      rw [List.filter_append, totalOf_append, hpart first (by simp) part hfirst,
        ih hlater fun a ha => hpart a (by simp [ha]), List.map_cons, List.sum_cons]

/-- A sum to which one key adds. -/
theorem sum_of_key {α κ : Type} [DecidableEq κ] {key : α → κ} {as : List α}
    (hnodup : (as.map key).Nodup) {a : α} (ha : a ∈ as) (amount : ℤ) :
    (as.map fun other => if key other = key a then amount else 0).sum = amount := by
  rw [sum_eq_add_sum_ne hnodup ha, if_pos rfl]
  have hothers : ((as.filter fun other => key other ≠ key a).map fun other =>
      if key other = key a then amount else 0) =
      (as.filter fun other => key other ≠ key a).map fun _ => 0 := by
    refine List.map_congr_left fun other hother => if_neg ?_
    exact of_decide_eq_true (List.mem_filter.1 hother).2
  rw [hothers]
  simp

theorem slice_eq {resource : ResourceQuantitySnapshot} {rate : CalculableRate}
    {line : BillingLineAmount}
    (h : calculateBillingLineAmount slice.start slice.stop resource rate = .ok line) :
    0 < sliceSeconds slice ∧ slice = ⟨slice.start, slice.start + sliceSeconds slice * 1000⟩ := by
  obtain ⟨start, stop⟩ := slice
  simp only [calculateBillingLineAmount, bind_eq_ok, throwIf_eq_ok, not_or, not_le, ne_eq,
    not_not] at h
  obtain ⟨_, ⟨hproper, hwhole⟩, -⟩ := h
  obtain ⟨seconds, hseconds⟩ := Int.dvd_of_tmod_eq_zero hwhole
  have hlength : sliceSeconds ⟨start, stop⟩ = seconds.toNat := by
    simp only [sliceSeconds, hseconds]
    omega
  refine ⟨by omega, Span.mk.injEq .. ▸ ⟨rfl, ?_⟩⟩
  show stop = start + (sliceSeconds ⟨start, stop⟩ : ℤ) * 1000
  omega

/-- What a rate that is in force in a slice charges for it. -/
theorem totalOf_slice (hvalid : rows.Valid) {usage : BoundedUsage} {rate : RateCardVersion}
    (hrate : rate ∈ rows.ratesOf components cadence usage)
    (hcovers : Covers rate.effectiveFrom rate.effectiveTo slice) {part : List LineDraft}
    (h : sliceLines components (rows.ratesOf components cadence usage) usage slice = .ok part) :
    slice = ⟨slice.start, slice.start + sliceSeconds slice * 1000⟩ ∧
      totalOf (linesFor part usage rate) =
        rate.chargeFor usage.resource.toResourceQuantitySnapshot (sliceSeconds slice) := by
  set rates := rows.ratesOf components cadence usage
  have hnodup : (rates.map RateCardVersion.id).Nodup := by
    refine ((List.perm_insertionSort _ _).map _).nodup_iff.2 ?_
    exact hvalid.rateIds.sublist (List.filter_sublist.map _)
  have hactive : rate ∈ activeRates rates slice := by
    refine List.mem_filter.2 ⟨hrate, decide_eq_true ⟨hcovers.1, ?_⟩⟩
    cases hend : rate.effectiveTo with
    | none => rfl
    | some until_ => exact decide_eq_true (hcovers.2 until_ hend)
  unfold sliceLines at h
  dsimp only at h
  split at h
  · cases h
  · have hlength : ∀ active ∈ activeRates rates slice, 0 < sliceSeconds slice ∧
        slice = ⟨slice.start, slice.start + sliceSeconds slice * 1000⟩ := by
      intro active hmem
      obtain ⟨lines, hlines⟩ := ok_of_collect h hmem
      simp only [rateLine, bind_eq_ok] at hlines
      obtain ⟨_, -, hlines⟩ := hlines
      split at hlines
      · cases hlines
      · rename_i calculated hcalculated
        exact slice_eq hcalculated
    obtain ⟨hpositive, hslice⟩ := hlength rate hactive
    refine ⟨hslice, ?_⟩
    have hamount := @totalOf_collect _ _ _ _ h (fun draft => decide
      (draft.usageIntervalId = usage.interval.id ∧ draft.rateCardVersionId = rate.id))
      (fun other => if other.id = rate.id then
        rate.chargeFor usage.resource.toResourceQuantitySnapshot (sliceSeconds slice) else 0) ?_
    · exact hamount.trans (sum_of_key (hnodup.sublist (List.filter_sublist.map _)) hactive _)
    · intro other hother lines hlines
      by_cases hid : other.id = rate.id
      · -- the lines of the rate itself are all kept
        obtain rfl := List.inj_on_of_nodup_map hnodup (List.mem_of_mem_filter hother) hrate hid
        have hall : lines.filter (fun draft => decide (draft.usageIntervalId = usage.interval.id ∧
            draft.rateCardVersionId = other.id)) = lines := by
          refine List.filter_eq_self.2 fun draft hdraft => ?_
          rcases rateLine_cases hlines with rfl | ⟨calculated, -, rfl⟩
          · cases hdraft
          · obtain rfl := List.mem_singleton.1 hdraft
            exact decide_eq_true ⟨rfl, rfl⟩
        rw [hall, if_pos rfl]
        rw [hslice] at hlines
        exact totalOf_rateLine hpositive hlines
      · have hnone : lines.filter (fun draft => decide (draft.usageIntervalId = usage.interval.id ∧
            draft.rateCardVersionId = rate.id)) = [] := by
          refine List.filter_eq_nil_iff.2 fun draft hdraft => ?_
          rcases rateLine_cases hlines with rfl | ⟨calculated, -, rfl⟩
          · cases hdraft
          · obtain rfl := List.mem_singleton.1 hdraft
            simp [lineDraft, hid]
        rw [hnone, if_neg hid]
        rfl

/-- What a rate that is in force throughout charges for a usage. -/
theorem totalOf_usage (hvalid : rows.Valid) {usage : BoundedUsage}
    (husage : usage.start < usage.stop) {rate : RateCardVersion}
    (hrate : rate ∈ usage.rates rows snapshot cadence)
    (hcovers : Covers rate.effectiveFrom rate.effectiveTo usage.toSpan)
    (h : usageLines rows snapshot cadence usage = .ok lines) :
    (∀ slice ∈ usage.slices (usage.rates rows snapshot cadence),
      slice = ⟨slice.start, slice.start + sliceSeconds slice * 1000⟩) ∧
    totalOf (linesFor lines usage rate) =
      ((usage.slices (usage.rates rows snapshot cadence)).map fun slice =>
        rate.chargeFor usage.resource.toResourceQuantitySnapshot (sliceSeconds slice)).sum := by
  unfold usageLines at h
  dsimp only at h
  split_ifs at h with hempty
  · -- without components there are no rates
    simp [BoundedUsage.rates, TimelineRows.ratesOf, hempty] at hrate
  · have hslice {slice : Span ℤ} (hmem : slice ∈ usage.slices (usage.rates rows snapshot cadence))
        {part : List LineDraft} (hpart : sliceLines _ (usage.rates rows snapshot cadence) usage
          slice = .ok part) := by
      obtain ⟨hstart, -, hstop⟩ := BoundedUsage.slice_within husage hmem
      exact totalOf_slice hvalid hrate (hcovers.mono hstart hstop) hpart
    constructor
    · intro slice hmem
      obtain ⟨part, hpart⟩ := ok_of_collect h hmem
      exact (hslice hmem hpart).1
    · exact totalOf_collect h fun slice hmem part hpart => (hslice hmem hpart).2

/-- The usages of a window are of different intervals. -/
theorem usageIds_nodup (hvalid : rows.Valid) {usages : List BoundedUsage}
    (h : usageOf rows snapshot target = .ok usages) :
    (usages.map fun usage => usage.interval.id).Nodup := by
  unfold usageOf at h
  dsimp only at h
  split at h
  · cases h
  split_ifs at h with hreview
  obtain rfl := Except.ok.inj h
  have hids : ((rows.intervalsOf snapshot target).map UsageInterval.id).Nodup := by
    refine ((List.mergeSort_perm _ _).map _).nodup_iff.2 ?_
    exact hvalid.intervalIds.sublist (List.filter_sublist.map _)
  refine List.pairwise_map.2 ((List.pairwise_map.1 hids).filterMap _ ?_)
  intro interval other hne usage husage usage' husage'
  have hinterval {interval : UsageInterval} {usage : BoundedUsage}
      (h : boundedUsage rows target interval = some usage) : usage.interval = interval := by
    simp only [boundedUsage, Option.bind_eq_bind, Option.bind_eq_some_iff] at h
    obtain ⟨version, -, cut, -, resource, -, h⟩ := h
    cases h
    rfl
  rw [hinterval husage, hinterval husage']
  exact hne

/-- **What a rate that is in force throughout a usage charges for it in an invoice.** -/
theorem totalOf_linesFor (hvalid : rows.Valid) {usages : List BoundedUsage}
    (husages : usageOf rows snapshot target = .ok usages)
    (h : lineDrafts rows snapshot cadence target = .ok drafts) {usage : BoundedUsage}
    (husage : usage ∈ usages) {rate : RateCardVersion}
    (hrate : rate ∈ usage.rates rows snapshot cadence)
    (hcovers : Covers rate.effectiveFrom rate.effectiveTo usage.toSpan) :
    (∀ slice ∈ usage.slices (usage.rates rows snapshot cadence),
      slice = ⟨slice.start, slice.start + sliceSeconds slice * 1000⟩) ∧
    totalOf (linesFor drafts usage rate) =
      ((usage.slices (usage.rates rows snapshot cadence)).map fun slice =>
        rate.chargeFor usage.resource.toResourceQuantitySnapshot (sliceSeconds slice)).sum := by
  obtain ⟨usages', husages', hlines⟩ := bind_eq_ok.1 h
  obtain rfl := Except.ok.inj (husages.symm.trans husages')
  have hused := (usedIn_of_usageOf husages).1
  have hnodup := usageIds_nodup hvalid husages
  obtain ⟨own, hown⟩ := ok_of_collect hlines husage
  obtain ⟨hslices, hcharge⟩ := totalOf_usage hvalid (hused usage husage).proper hrate hcovers hown
  refine ⟨hslices, ?_⟩
  have hamount := @totalOf_collect _ _ _ _ hlines (fun draft => decide
    (draft.usageIntervalId = usage.interval.id ∧ draft.rateCardVersionId = rate.id))
    (fun other => if other.interval.id = usage.interval.id then totalOf (linesFor own usage rate)
      else 0) ?_
  · exact (hamount.trans (sum_of_key hnodup husage _)).trans hcharge
  · intro other hother part hpart
    by_cases hid : other.interval.id = usage.interval.id
    · obtain rfl := List.inj_on_of_nodup_map hnodup hother husage hid
      obtain rfl := Except.ok.inj (hown.symm.trans hpart)
      exact (if_pos rfl).symm
    · have hnone : part.filter (fun draft => decide (draft.usageIntervalId = usage.interval.id ∧
          draft.rateCardVersionId = rate.id)) = [] := by
        refine List.filter_eq_nil_iff.2 fun draft hdraft => ?_
        have horigin := origin_of_usage (hused other hother) hpart hdraft
        simp [horigin.interval, hid]
      rw [hnone, if_neg hid]
      rfl

end Lines

/-! ## The lines and the whole -/

/-- The lengths in seconds into which a usage may be cut: it lies in one hour or one day. -/
structure Cut where
  lengths : List ℕ
  nonempty : lengths ≠ []
  positive : ∀ seconds ∈ lengths, 0 < seconds
  withinDay : lengths.sum ≤ 86400

/-- A rate is billed for a usage as if the ends of other rate cards had not cut it: nothing is
charged twice, and its lines are at least what the whole is charged, and more by less than a
rial a slice. -/
structure BilledApart (rows : TimelineRows) (snapshot : PolicySnapshot) (cadence : BillingCadence)
    (drafts : List LineDraft) (usage : BoundedUsage) (rate : RateCardVersion)
    (whole : BillingLineAmount) : Prop where
  partitioned : ∀ instant, (usage.slices (usage.rates rows snapshot cadence)).countP
    (·.Contains instant) = if usage.toSpan.Contains instant then 1 else 0
  once : drafts.Pairwise (ChargedOnce rows)
  covered : whole.amountRial ≤ totalOf (linesFor drafts usage rate)
  bounded : totalOf (linesFor drafts usage rate) <
    whole.amountRial + (usage.slices (usage.rates rows snapshot cadence)).length

theorem getLast_of_slices {first : ℤ} {rest : List ℤ}
    (h : ∀ slice ∈ slicesOf (first :: rest),
      slice = ⟨slice.start, slice.start + sliceSeconds slice * 1000⟩) :
    (first :: rest).getLast (by simp) =
      first + (((slicesOf (first :: rest)).map sliceSeconds).sum : ℕ) * 1000 := by
  induction rest generalizing first with
  | nil => simp [slicesOf]
  | cons second rest ih =>
      have hsecond : second = first + sliceSeconds ⟨first, second⟩ * 1000 :=
        congrArg Span.stop (h ⟨first, second⟩ List.mem_cons_self)
      have hlast := ih fun slice hslice => h slice (List.mem_cons_of_mem _ hslice)
      rw [List.getLast_cons (List.cons_ne_nil second rest), hlast, slicesOf, List.map_cons,
        List.sum_cons]
      push_cast
      omega

/-- A usage is as long as its slices. -/
theorem stop_of_slices {usage : BoundedUsage} (husage : usage.start < usage.stop)
    {rates : List RateCardVersion} (h : ∀ slice ∈ usage.slices rates,
      slice = ⟨slice.start, slice.start + sliceSeconds slice * 1000⟩) :
    usage.stop = usage.start + (((usage.slices rates).map sliceSeconds).sum : ℕ) * 1000 := by
  obtain ⟨second, rest, hboundaries, hlast⟩ := boundaries_ends husage rates
  rw [BoundedUsage.slices, hboundaries] at h ⊢
  rw [← getLast_of_slices h, List.getLast_cons (List.cons_ne_nil second rest), hlast]

/-- The line of the whole usage. -/
theorem whole_amount {usage : BoundedUsage} {rate : RateCardVersion} {seconds : ℕ}
    (hseconds : 0 < seconds) (hstop : usage.stop = usage.start + seconds * 1000)
    {whole : BillingLineAmount}
    (h : calculateBillingLineAmount usage.start usage.stop
      usage.resource.toResourceQuantitySnapshot rate.toCalculableRate = .ok whole) :
    ∃ factor, resourceFactor rate.resourceUnit usage.resource.toResourceQuantitySnapshot =
        .ok factor ∧
      whole.amountRial =
        rate.chargeFor usage.resource.toResourceQuantitySnapshot seconds := by
  rw [hstop, calculateBillingLineAmount_eq_ok hseconds] at h
  obtain ⟨-, factor, hfactor, -, rfl⟩ := h
  exact ⟨factor, hfactor, by simp only [RateCardVersion.chargeFor, hfactor, CalculableRate.line]⟩

/-- Where the time adds up, each slice costs less than a rial for rounding. -/
theorem chargeFor_parts {rate : RateCardVersion} {resource : ResourceQuantitySnapshot}
    {factor : Factor} (hfactor : resourceFactor rate.resourceUnit resource = .ok factor)
    (hne : lengths ≠ []) (hadds : rate.toTimeTerms.AddsUp lengths) :
    rate.chargeFor resource lengths.sum ≤ (lengths.map (rate.chargeFor resource)).sum ∧
      (lengths.map (rate.chargeFor resource)).sum <
        rate.chargeFor resource lengths.sum + lengths.length := by
  obtain ⟨hnumerator, hdenominator⟩ := resourceFactor_pos hfactor
  obtain ⟨-, hpositive⟩ :=
    @CalculableRate.quantity_pos rate.toCalculableRate lengths.sum factor hnumerator hdenominator
  set unit := (rate.quantity lengths.sum factor).denominator with hunit
  let part (seconds : ℕ) : ℤ := rate.customerRateRial * (rate.quantity seconds factor).numerator
  have hpart (seconds : ℕ) : rate.chargeFor resource seconds = (part seconds + unit - 1) / unit := by
    simp only [RateCardVersion.chargeFor, hfactor, Factor.charge, part, hunit,
      CalculableRate.quantity, Factor.times,
      units_denominator rate.toTimeTerms seconds lengths.sum]
  have hsum : (lengths.map part).sum = part lengths.sum := by
    have hunits := addsUp_iff.1 hadds
    calc (lengths.map part).sum
        = (lengths.map fun seconds => (rate.units seconds).numerator *
            (rate.customerRateRial * factor.numerator)).sum := by
          congr 1
          refine List.map_congr_left fun seconds _ => ?_
          simp only [part, CalculableRate.quantity, Factor.times]
          ring
      _ = (rate.units lengths.sum).numerator * (rate.customerRateRial * factor.numerator) := by
          rw [List.sum_map_mul_right, hunits]
      _ = part lengths.sum := by
          simp only [part, CalculableRate.quantity, Factor.times]
          ring
  have hparts : lengths.map part ≠ [] := by simpa using hne
  have hbounds := sum_roundUp_bounds hpositive hparts
  rw [hsum, List.map_map, List.length_map] at hbounds
  rw [hpart, List.map_congr_left fun seconds _ => hpart seconds]
  exact hbounds

/-- A rate whose time adds up is billed apart. -/
theorem billedApart_of_addsUp {rows : TimelineRows} {snapshot : PolicySnapshot}
    {cadence : BillingCadence} {target : Span ℤ} {usages : List BoundedUsage}
    {drafts : List LineDraft} (hvalid : rows.Valid)
    (husages : usageOf rows snapshot target = .ok usages)
    (hdrafts : lineDrafts rows snapshot cadence target = .ok drafts) {usage : BoundedUsage}
    (husage : usage ∈ usages) {rate : RateCardVersion}
    (hrate : rate ∈ usage.rates rows snapshot cadence)
    (hcovers : Covers rate.effectiveFrom rate.effectiveTo usage.toSpan)
    (hadds : rate.toTimeTerms.AddsUp
      ((usage.slices (usage.rates rows snapshot cadence)).map sliceSeconds))
    {whole : BillingLineAmount}
    (hwhole : calculateBillingLineAmount usage.start usage.stop
      usage.resource.toResourceQuantitySnapshot rate.toCalculableRate = .ok whole) :
    BilledApart rows snapshot cadence drafts usage rate whole := by
  have hproper := ((usedIn_of_usageOf husages).1 usage husage).proper
  obtain ⟨hslices, htotal⟩ := totalOf_linesFor hvalid husages hdrafts husage hrate hcovers
  have hstop := stop_of_slices hproper hslices
  set lengths := (usage.slices (usage.rates rows snapshot cadence)).map sliceSeconds with hlengths
  have hseconds : 0 < lengths.sum := by omega
  have hne : lengths ≠ [] := by
    rintro hnil
    simp [hnil] at hseconds
  obtain ⟨factor, hfactor, hamount⟩ := whole_amount hseconds hstop hwhole
  obtain ⟨hlower, hupper⟩ := chargeFor_parts hfactor hne hadds
  have hmap : ((usage.slices (usage.rates rows snapshot cadence)).map fun slice =>
      rate.chargeFor usage.resource.toResourceQuantitySnapshot (sliceSeconds slice)) =
        lengths.map (rate.chargeFor usage.resource.toResourceQuantitySnapshot) := by
    rw [hlengths, List.map_map]
    rfl
  rw [hmap] at htotal
  exact {
    partitioned := slices_partition hproper _
    once := lineDrafts_once hvalid hdrafts
    covered := by rw [hamount, htotal]; exact hlower
    bounded := by
      rw [hamount, htotal]
      rw [hlengths, List.length_map] at hupper
      exact hupper }

/-- A price that the denominator divides is not rounded. -/
theorem Factor.charge_whole {quantity : Factor} (h : 0 < quantity.denominator) (rial : ℤ) :
    quantity.charge (rial * quantity.denominator) = rial * quantity.numerator := by
  have hsum : rial * quantity.denominator * quantity.numerator + quantity.denominator - 1 =
      quantity.denominator - 1 + rial * quantity.numerator * quantity.denominator := by ring
  rw [Factor.charge, hsum, Int.add_mul_ediv_right _ _ h.ne',
    Int.ediv_eq_zero_of_lt (by omega) (by omega), zero_add]

/-! ## A disk whose price changes

One service with a disk, whose rate card is replaced at the ends of the slices, while the rate
card of the computer is in force throughout. -/

/-- The ends of slices of these lengths. -/
def cutInstants (start : ℤ) : List ℕ → List ℤ
  | [] => [start]
  | seconds :: rest => start :: cutInstants (start + seconds * 1000) rest

theorem slicesOf_cutInstants (start : ℤ) (seconds : ℕ) (rest : List ℕ) :
    slicesOf (cutInstants start (seconds :: rest)) = ⟨start, start + seconds * 1000⟩ ::
      slicesOf (cutInstants (start + seconds * 1000) rest) := by
  cases rest <;> rfl

variable {instant : ℤ}

theorem cutInstants_within {start : ℤ} (h : instant ∈ cutInstants start lengths) :
    start ≤ instant ∧ instant ≤ start + (lengths.sum : ℕ) * 1000 := by
  induction lengths generalizing start with
  | nil =>
      obtain rfl := List.mem_singleton.1 h
      simp
  | cons seconds rest ih =>
      rw [List.sum_cons, Nat.cast_add]
      rcases List.mem_cons.1 h with rfl | hlater
      · omega
      · have := ih hlater
        omega

theorem cutInstants_sorted {start : ℤ} {lengths : List ℕ} (h : ∀ seconds ∈ lengths, 0 < seconds) :
    (cutInstants start lengths).Pairwise (· < ·) := by
  induction lengths generalizing start with
  | nil => exact List.pairwise_singleton _ _
  | cons seconds rest ih =>
      refine List.pairwise_cons.2 ⟨fun instant hinstant => ?_, ih fun later hlater => h later
        (by simp [hlater])⟩
      have hseconds := h seconds (by simp)
      have := (cutInstants_within hinstant).1
      omega

/-- Each slice has its length. -/
theorem cutInstants_lengths (start : ℤ) (lengths : List ℕ) :
    (slicesOf (cutInstants start lengths)).map sliceSeconds = lengths := by
  induction lengths generalizing start with
  | nil => rfl
  | cons seconds rest ih =>
      rw [slicesOf_cutInstants, List.map_cons, ih]
      congr 1
      simp only [sliceSeconds]
      omega

/-- An end of slices is the first one or ends a slice. -/
theorem mem_cutInstants {start : ℤ} :
    instant ∈ cutInstants start lengths ↔
      instant = start ∨ ∃ slice ∈ slicesOf (cutInstants start lengths), slice.stop = instant := by
  induction lengths generalizing start with
  | nil => simp [cutInstants, slicesOf]
  | cons seconds rest ih =>
      rw [slicesOf_cutInstants, cutInstants, List.mem_cons, ih]
      simp only [List.mem_cons, exists_eq_or_imp]
      exact or_congr_right (or_congr_left eq_comm)

theorem last_cutInstants (start : ℤ) (lengths : List ℕ) :
    start + (lengths.sum : ℕ) * 1000 ∈ cutInstants start lengths := by
  induction lengths generalizing start with
  | nil => simp [cutInstants]
  | cons seconds rest ih =>
      refine List.mem_cons_of_mem _ ?_
      have hlast := ih (start + seconds * 1000)
      rw [List.sum_cons, Nat.cast_add]
      rwa [add_mul, ← add_assoc]

/-- A slice lasts whole seconds. -/
theorem cutInstants_slice {start : ℤ} {lengths : List ℕ} {slice : Span ℤ}
    (h : slice ∈ slicesOf (cutInstants start lengths)) :
    slice = ⟨slice.start, slice.start + sliceSeconds slice * 1000⟩ := by
  induction lengths generalizing start with
  | nil => cases h
  | cons seconds rest ih =>
      rw [slicesOf_cutInstants] at h
      rcases List.mem_cons.1 h with rfl | hlater
      · have hlength : sliceSeconds ⟨start, start + seconds * 1000⟩ = seconds := by
          simp only [sliceSeconds]
          omega
        rw [hlength]
      · exact ih hlater

namespace Cut

variable (cut : Cut) (terms : TimeTerms)

def slices : List (Span ℤ) := slicesOf (cutInstants 0 cut.lengths)

/-- The window that is cut. -/
def window : Span ℤ := ⟨0, (cut.lengths.sum : ℕ) * 1000⟩

/-- As many rials for a unit as there are slices. -/
def rate : RateCardVersion :=
  { dayRate terms with customerRateRial := cut.lengths.length * (terms.units 0).denominator }

/-- The rate card of the disk in one slice. -/
def diskRate (index : ℕ) (slice : Span ℤ) : RateCardVersion :=
  { dayRate ⟨.second, 0, .exact, true⟩ with
    id := String.ofList (List.replicate index 'd')
    component := .disk
    resourceUnit := .gbDisk
    customerRateRial := 0
    effectiveFrom := slice.start
    effectiveTo := some slice.stop
    idempotencyKey := String.ofList (List.replicate index 'd') }

def diskRates : List RateCardVersion := cut.slices.mapIdx diskRate

def version : ResourceVersion := { dayVersion with diskGb := 1 }

def snapshot : PolicySnapshot := { daySnapshot terms with effectiveTo := some cut.window.stop }

def rows : TimelineRows :=
  { dayRows terms with
    snapshots := [cut.snapshot terms]
    versions := [version]
    rates := cut.rate terms :: cut.diskRates }

def usage : BoundedUsage := ⟨cut.window, dayInterval, version⟩

variable {cut terms}

theorem mem_rates {rate : RateCardVersion} : rate ∈ (cut.rows terms).rates ↔
    rate = cut.rate terms ∨ ∃ (index : ℕ) (h : index < cut.slices.length),
      diskRate index cut.slices[index] = rate := by
  simp [rows, diskRates, List.mem_mapIdx]

theorem window_proper (cut : Cut) : cut.window.start < cut.window.stop := by
  obtain ⟨seconds, hmem⟩ := List.exists_mem_of_ne_nil cut.lengths cut.nonempty
  have hseconds := cut.positive seconds hmem
  have := List.single_le_sum (by simp) seconds hmem
  simp only [window]
  omega

theorem slice_within {slice : Span ℤ} (h : slice ∈ cut.slices) :
    0 ≤ slice.start ∧ slice.start < slice.stop ∧ slice.stop ≤ cut.window.stop := by
  obtain ⟨hstart, hstop, hlt⟩ := mem_slicesOf (cutInstants_sorted cut.positive) h
  have hstart := (cutInstants_within hstart).1
  have hstop := (cutInstants_within hstop).2
  simp only [window]
  omega

/-- Slices that contain one slice are the same. -/
theorem index_unique {slice : Span ℤ} (hproper : slice.start < slice.stop) {i j : ℕ}
    (hi : i < cut.slices.length) (hj : j < cut.slices.length)
    (hini : cut.slices[i].start ≤ slice.start ∧ slice.stop ≤ cut.slices[i].stop)
    (hinj : cut.slices[j].start ≤ slice.start ∧ slice.stop ≤ cut.slices[j].stop) : i = j := by
  have hpairwise := List.pairwise_iff_getElem.1
    (slicesOf_pairwise (@cutInstants_sorted 0 cut.lengths cut.positive))
  rcases lt_trichotomy i j with hlt | heq | hlt
  · have := hpairwise i j hi hj hlt
    simp only [slices] at hini hinj
    omega
  · exact heq
  · have := hpairwise j i hj hi hlt
    simp only [slices] at hini hinj
    omega

theorem rateIds_nodup : ((cut.rows terms).rates.map RateCardVersion.id).Nodup := by
  have hdisk : cut.diskRates.map RateCardVersion.id =
      (List.range cut.slices.length).map fun index => String.ofList (List.replicate index 'd') := by
    refine List.ext_getElem (by simp [diskRates]) fun index _ _ => ?_
    simp [diskRates, diskRate]
  have hinjective : Function.Injective fun index => String.ofList (List.replicate index 'd') := by
    intro i j h
    have hlists := congrArg List.length (String.ofList_injective h)
    simpa using hlists
  show ("rate" :: cut.diskRates.map RateCardVersion.id).Nodup
  rw [hdisk]
  refine List.nodup_cons.2 ⟨?_, List.nodup_range.map hinjective⟩
  intro hmem
  obtain ⟨index, -, h⟩ := List.mem_map.1 hmem
  have hlists : List.replicate index 'd' = ['r', 'a', 't', 'e'] := String.ofList_injective h
  have hr : 'r' ∈ List.replicate index 'd' := by rw [hlists]; decide
  exact absurd (List.eq_of_mem_replicate hr) (by decide)

theorem rows_valid (cut : Cut) (terms : TimeTerms) : (cut.rows terms).Valid where
  snapshotIds := List.nodup_singleton _
  snapshotKeys := List.nodup_singleton _
  snapshotActivations := List.nodup_nil
  oneCurrentSnapshot := List.nodup_nil
  snapshotRanges := by
    intro row hrow stop hstop
    obtain rfl := List.mem_singleton.1 hrow
    obtain rfl := Option.some.inj hstop
    exact cut.window_proper
  rateIds := rateIds_nodup
  rateKeys := by
    have hsame : (cut.rows terms).rates.map RateCardVersion.idempotencyKey =
        (cut.rows terms).rates.map RateCardVersion.id := by
      refine List.map_congr_left fun rate hrate => ?_
      rcases mem_rates.1 hrate with rfl | ⟨index, hindex, rfl⟩ <;> rfl
    rw [hsame]
    exact rateIds_nodup
  rateAmounts := by
    intro rate hrate
    rcases mem_rates.1 hrate with rfl | ⟨index, hindex, rfl⟩
    · have hpositive := terms.units_denominator_pos 0
      exact ⟨le_rfl, mul_nonneg (Int.natCast_nonneg _) hpositive.le, le_rfl,
        show (0 : ℤ) ≤ 100000 by decide⟩
    · exact ⟨le_rfl, le_rfl, le_rfl, show (0 : ℤ) ≤ 100000 by decide⟩
  versionIds := List.nodup_singleton _
  versionKeys := List.nodup_singleton _
  versionSources := List.nodup_nil
  oneCurrentVersion := List.nodup_singleton _
  versionRanges := by
    intro row hrow stop hstop
    obtain rfl := List.mem_singleton.1 hrow
    cases hstop
  intervalIds := List.nodup_singleton _
  intervalKeys := List.nodup_singleton _
  oneOpenInterval := List.nodup_singleton _
  intervalRanges := by
    intro row hrow stop hstop
    obtain rfl := List.mem_singleton.1 hrow
    cases hstop

theorem target_eq (cut : Cut) (terms : TimeTerms) :
    targetOf (cut.snapshot terms) (fullPeriod .daily 0) = cut.window := by
  have hday : (cut.lengths.sum : ℤ) ≤ 86400 := by exact_mod_cast cut.withinDay
  have hstop : min (86400000 : ℤ) ((cut.lengths.sum : ℤ) * 1000) = (cut.lengths.sum : ℤ) * 1000 :=
    min_eq_right (by omega)
  simp only [targetOf, snapshot, daySnapshot, window, fullPeriod, periodMilliseconds]
  rw [Span.mk.injEq]
  exact ⟨by decide, hstop⟩

theorem usageOf_window (cut : Cut) (terms : TimeTerms) :
    usageOf (cut.rows terms) (cut.snapshot terms) cut.window = .ok [cut.usage] := by
  have hproper := cut.window_proper
  refine usageOf_of_covers hproper ?_ ⟨by decide, by decide⟩ ⟨le_rfl, nofun⟩ rfl ⟨le_rfl, nofun⟩
  have hkeep : dayInterval.cloudInstanceId = (cut.snapshot terms).cloudInstanceId ∧
      dayInterval.billingPolicySnapshotId = (cut.snapshot terms).id ∧
      dayInterval.startedAt < cut.window.stop ∧
      dayInterval.endedAt.all (cut.window.start < ·) = true := ⟨rfl, rfl, hproper, rfl⟩
  have hfilter : ([dayInterval].filter fun row =>
      row.cloudInstanceId = (cut.snapshot terms).cloudInstanceId ∧
        row.billingPolicySnapshotId = (cut.snapshot terms).id ∧
        row.startedAt < cut.window.stop ∧
        row.endedAt.all (cut.window.start < ·) = true) = [dayInterval] :=
    List.filter_cons_of_pos (decide_eq_true hkeep)
  exact (congrArg (List.mergeSort · _) hfilter).trans (List.mergeSort_singleton _)

theorem components_eq : requiredBillableComponents version.toResourceQuantitySnapshot
    (cut.snapshot terms).stopStateComponentPolicy = [.compute, .disk] := rfl

/-- Every rate card applies to the usage. -/
theorem mem_usage_rates {cadence : BillingCadence} {rate : RateCardVersion} :
    rate ∈ cut.usage.rates (cut.rows terms) (cut.snapshot terms) cadence ↔
      rate ∈ (cut.rows terms).rates := by
  have hproper := cut.window_proper
  unfold BoundedUsage.rates TimelineRows.ratesOf
  rw [List.mem_insertionSort, List.mem_filter, and_iff_left_iff_imp]
  intro hrate
  refine decide_eq_true ?_
  rcases mem_rates.1 hrate with rfl | ⟨index, hindex, rfl⟩
  · exact ⟨rfl, rfl, rfl, show ComponentType.compute ∈ [ComponentType.compute, .disk] by decide,
      .inr rfl, hproper, rfl⟩
  · obtain ⟨hstart, hslice, hstop⟩ := slice_within (List.getElem_mem hindex)
    exact ⟨rfl, rfl, rfl, show ComponentType.disk ∈ [ComponentType.compute, .disk] by decide,
      .inr rfl, hslice.trans_le hstop, decide_eq_true (hstart.trans_lt hslice)⟩

/-- The rate cards of the disk cut the usage. -/
theorem usage_slices (cadence : BillingCadence) : cut.usage.slices
    (cut.usage.rates (cut.rows terms) (cut.snapshot terms) cadence) = cut.slices := by
  have hproper := cut.window_proper
  have hsorted := @cutInstants_sorted 0 cut.lengths cut.positive
  set rates := cut.usage.rates (cut.rows terms) (cut.snapshot terms) cadence with hrates
  have hboundaries : orderedBoundaries cut.window rates = cutInstants 0 cut.lengths := by
    have hasymm : ∀ a b : ℤ, a ∈ orderedBoundaries cut.window rates →
        b ∈ cutInstants 0 cut.lengths → a < b → b < a → a = b :=
      fun a b _ _ hab hba => absurd hab hba.not_gt
    refine List.Perm.eq_of_pairwise hasymm (orderedBoundaries_sorted _ _) hsorted ?_
    refine (List.perm_ext_iff_of_nodup ((orderedBoundaries_sorted _ _).imp fun h => h.ne)
      (hsorted.imp fun h => h.ne)).2 fun instant => ?_
    rw [mem_orderedBoundaries]
    constructor
    · rintro (rfl | rfl | ⟨rate, hrate, hinner⟩)
      · exact mem_cutInstants.2 (.inl rfl)
      · have hlast := last_cutInstants 0 cut.lengths
        rwa [zero_add] at hlast
      · obtain ⟨hend, hinside⟩ := List.mem_filter.1 hinner
        have hinside := of_decide_eq_true hinside
        rcases mem_rates.1 (mem_usage_rates.1 hrate) with rfl | ⟨index, hindex, rfl⟩
        · -- the rate card of the computer ends nowhere inside
          obtain rfl := List.mem_singleton.1 hend
          exact absurd hinside.1 (lt_irrefl _)
        · obtain ⟨hstart, hstop, -⟩ := mem_slicesOf hsorted (List.getElem_mem hindex)
          rcases List.mem_cons.1 hend with rfl | hend
          · exact hstart
          · obtain rfl := List.mem_singleton.1 hend
            exact hstop
    · intro hinstant
      rcases mem_cutInstants.1 hinstant with rfl | ⟨slice, hslice, rfl⟩
      · exact .inl rfl
      · obtain ⟨hstart, hlt, hstop⟩ := @slice_within cut slice hslice
        rcases hstop.lt_or_eq with hinside | heq
        · obtain ⟨index, hindex, rfl⟩ := List.getElem_of_mem hslice
          refine .inr (.inr ⟨diskRate index cut.slices[index],
            mem_usage_rates.2 (mem_rates.2 (.inr ⟨index, hindex, rfl⟩)), ?_⟩)
          refine List.mem_filter.2 ⟨List.mem_cons_of_mem _ (List.mem_singleton_self _), ?_⟩
          exact decide_eq_true ⟨hstart.trans_lt hlt, hinside⟩
        · exact .inr (.inl heq)
  exact congrArg slicesOf hboundaries

/-- A rate that costs the provider nothing prices any time of one instance, or of one gigabyte. -/
theorem rate_prices {rate : RateCardVersion} (h : rate ∈ (cut.rows terms).rates) (seconds : ℕ) :
    (0 ≤ rate.normalizedProviderRial ∧ 0 ≤ rate.customerRateRial ∧ 0 ≤ rate.markupBasisPoints) ∧
      resourceFactor rate.resourceUnit version.toResourceQuantitySnapshot = .ok ⟨1, 1⟩ ∧
      (rate.quantity seconds ⟨1, 1⟩).charge rate.normalizedProviderRial ≤
        (rate.quantity seconds ⟨1, 1⟩).charge rate.customerRateRial := by
  obtain ⟨hprovider, hcustomer, hmarkup, -⟩ := (rows_valid cut terms).rateAmounts rate h
  obtain ⟨hnumerator, hdenominator⟩ :=
    @CalculableRate.quantity_pos rate.toCalculableRate seconds ⟨1, 1⟩ Int.one_nonneg Int.one_pos
  have hfree : rate.normalizedProviderRial = 0 ∧
      resourceFactor rate.resourceUnit version.toResourceQuantitySnapshot = .ok ⟨1, 1⟩ := by
    rcases mem_rates.1 h with rfl | ⟨index, hindex, rfl⟩ <;> exact ⟨rfl, rfl⟩
  refine ⟨⟨hprovider, hcustomer, hmarkup⟩, hfree.2, ?_⟩
  rw [hfree.1]
  exact Factor.charge_mono hnumerator hdenominator hcustomer

/-- Both components have one rate card in each slice. -/
theorem review_none {slice : Span ℤ} (hslice : slice ∈ cut.slices) (cadence : BillingCadence) :
    rateReview [.compute, .disk] (activeRates
      (cut.usage.rates (cut.rows terms) (cut.snapshot terms) cadence) slice) = none := by
  obtain ⟨hstart, hproper, hstop⟩ := slice_within hslice
  set rates := cut.usage.rates (cut.rows terms) (cut.snapshot terms) cadence with hrates
  have hmem {rate : RateCardVersion} : rate ∈ activeRates rates slice ↔
      rate ∈ (cut.rows terms).rates ∧ rate.effectiveFrom ≤ slice.start ∧
        rate.effectiveTo.all (slice.stop ≤ ·) = true := by
    rw [activeRates, List.mem_filter, hrates, mem_usage_rates, decide_eq_true_eq]
  have hnodup : (activeRates rates slice).Nodup := by
    have hids : (rates.map RateCardVersion.id).Nodup := by
      refine ((List.perm_insertionSort _ _).map _).nodup_iff.2 ?_
      exact (rows_valid cut terms).rateIds.sublist (List.filter_sublist.map _)
    exact (List.Nodup.of_map _ hids).filter _
  refine rateReview_eq_none.2 ⟨fun component hcomponent => ?_, fun rate hrate => ?_⟩
  · rcases List.mem_cons.1 hcomponent with rfl | hdisk
    · exact ⟨cut.rate terms, hmem.2 ⟨mem_rates.2 (.inl rfl), hstart, rfl⟩, rfl⟩
    · obtain rfl := List.mem_singleton.1 hdisk
      obtain ⟨index, hindex, rfl⟩ := List.getElem_of_mem hslice
      exact ⟨diskRate index cut.slices[index], hmem.2
        ⟨mem_rates.2 (.inr ⟨index, hindex, rfl⟩), le_rfl, decide_eq_true le_rfl⟩, rfl⟩
  · refine (countP_eq_one hnodup hrate (sameUnit_refl rate) fun other hother hsame => ?_).le
    obtain ⟨hrow, hfrom, huntil⟩ := hmem.1 hrate
    obtain ⟨hrow', hfrom', huntil'⟩ := hmem.1 hother
    have hcomponent : other.component = rate.component := (of_decide_eq_true hsame).1
    rcases mem_rates.1 hrow with rfl | ⟨i, hi, rfl⟩
    · rcases mem_rates.1 hrow' with rfl | ⟨j, hj, rfl⟩
      · rfl
      · cases hcomponent
    · rcases mem_rates.1 hrow' with rfl | ⟨j, hj, rfl⟩
      · cases hcomponent
      · -- two rate cards of the disk that are in force in one slice are those of one slice
        obtain rfl := index_unique hproper hi hj ⟨hfrom, of_decide_eq_true huntil⟩
          ⟨hfrom', of_decide_eq_true huntil'⟩
        rfl

/-- The invoice of the window is accepted. -/
theorem exists_drafts (cut : Cut) (terms : TimeTerms) (cadence : BillingCadence) :
    ∃ drafts, lineDrafts (cut.rows terms) (cut.snapshot terms) cadence cut.window = .ok drafts := by
  have hslices := @usage_slices cut terms cadence
  have husage : usageLines (cut.rows terms) (cut.snapshot terms) cadence cut.usage =
      collect (sliceLines [.compute, .disk]
        (cut.usage.rates (cut.rows terms) (cut.snapshot terms) cadence) cut.usage)
        (cut.usage.slices (cut.usage.rates (cut.rows terms) (cut.snapshot terms) cadence)) := by
    have hcomponents : requiredBillableComponents cut.usage.resource.toResourceQuantitySnapshot
        (cut.snapshot terms).stopStateComponentPolicy = [.compute, .disk] := components_eq
    simp only [usageLines, BoundedUsage.slices, BoundedUsage.rates, hcomponents, reduceCtorEq,
      if_false]
  rw [lineDrafts_of_usage (usageOf_window cut terms), husage]
  have hlines : ∀ slice ∈ cut.usage.slices
      (cut.usage.rates (cut.rows terms) (cut.snapshot terms) cadence),
      ∃ part, sliceLines [.compute, .disk]
        (cut.usage.rates (cut.rows terms) (cut.snapshot terms) cadence) cut.usage slice =
          .ok part := by
    intro slice hslice
    rw [hslices] at hslice
    obtain ⟨-, hproper, -⟩ := slice_within hslice
    have hwhole := @cutInstants_slice 0 cut.lengths slice hslice
    have hseconds : 0 < sliceSeconds slice := by
      have := congrArg Span.stop hwhole
      simp only at this
      omega
    simp only [sliceLines, review_none hslice cadence]
    have hrate : ∀ rate ∈ activeRates
        (cut.usage.rates (cut.rows terms) (cut.snapshot terms) cadence) slice,
        ∃ lines, rateLine cut.usage slice rate = .ok lines := by
      intro rate hactive
      have hrow := mem_usage_rates.1 (List.mem_of_mem_filter hactive)
      have hmoney : Js.trim rate.providerCurrency ≠ "" ∧ Js.trim rate.providerAmountUnit ≠ "" := by
        have hunits : rate.providerCurrency = "IRR" ∧ rate.providerAmountUnit = "RIAL" := by
          rcases mem_rates.1 hrow with rfl | ⟨index, hindex, rfl⟩ <;> exact ⟨rfl, rfl⟩
        rw [hunits.1, hunits.2]
        decide
      obtain ⟨hamounts, hfactor, hmarkup⟩ := rate_prices hrow (sliceSeconds slice)
      rw [hwhole]
      exact ⟨_, (@rateLine_eq_ok cut.usage slice.start (sliceSeconds slice) hseconds rate _).2
        ⟨hmoney, hamounts, ⟨1, 1⟩, hfactor, hmarkup, rfl⟩⟩
    choose! lines hlines using hrate
    exact ⟨_, collect_eq_flatMap hlines⟩
  choose! lines hlines using hlines
  exact ⟨_, collect_eq_flatMap hlines⟩

/-- The rate of the computer charges as many rials for a unit as there are slices. -/
theorem rate_charge (cut : Cut) (terms : TimeTerms) (seconds : ℕ) :
    (cut.rate terms).chargeFor version.toResourceQuantitySnapshot seconds =
      cut.lengths.length * (terms.units seconds).numerator := by
  have hpositive := terms.units_denominator_pos seconds
  have hquantity : (cut.rate terms).quantity seconds ⟨1, 1⟩ = terms.units seconds := by
    simp [CalculableRate.quantity, Factor.times, rate, dayRate]
  have hprice : (cut.rate terms).customerRateRial =
      cut.lengths.length * (terms.units seconds).denominator := by
    rw [units_denominator terms seconds 0]
    rfl
  show ((cut.rate terms).quantity seconds ⟨1, 1⟩).charge _ = _
  rw [hquantity, hprice, Factor.charge_whole hpositive]

/-- Lengths that do not add up are not billed apart. -/
theorem addsUp_of_billedApart (cadence : BillingCadence) {drafts : List LineDraft}
    (hdrafts : lineDrafts (cut.rows terms) (cut.snapshot terms) cadence cut.window = .ok drafts)
    (h : ∀ whole, calculateBillingLineAmount cut.usage.start cut.usage.stop
      cut.usage.resource.toResourceQuantitySnapshot (cut.rate terms).toCalculableRate = .ok whole →
        BilledApart (cut.rows terms) (cut.snapshot terms) cadence drafts cut.usage
          (cut.rate terms) whole) : terms.AddsUp cut.lengths := by
  have hproper := cut.window_proper
  have hrow : cut.rate terms ∈ (cut.rows terms).rates := mem_rates.2 (.inl rfl)
  have hcovers : Covers (cut.rate terms).effectiveFrom (cut.rate terms).effectiveTo
      cut.usage.toSpan := ⟨le_rfl, nofun⟩
  have hseconds : 0 < cut.lengths.sum := by
    simp only [window] at hproper
    omega
  obtain ⟨hamounts, hfactor, hmarkup⟩ := rate_prices hrow cut.lengths.sum
  have hline := (@calculateBillingLineAmount_eq_ok 0 cut.lengths.sum hseconds version.toResourceQuantitySnapshot
    (cut.rate terms).toCalculableRate _).2
    ⟨hamounts, ⟨1, 1⟩, hfactor, hmarkup, rfl⟩
  rw [zero_add] at hline
  obtain ⟨-, -, hcovered, hbounded⟩ := h _ hline
  obtain ⟨-, htotal⟩ := totalOf_linesFor (rows_valid cut terms) (usageOf_window cut terms) hdrafts
    (List.mem_singleton_self _) (mem_usage_rates.2 hrow) hcovers
  have hwhole : ((cut.rate terms).line ((cut.rate terms).quantity cut.lengths.sum ⟨1, 1⟩)).amountRial
      = cut.lengths.length * (terms.units cut.lengths.sum).numerator :=
    rate_charge cut terms cut.lengths.sum
  have hlengths : cut.slices.map sliceSeconds = cut.lengths := cutInstants_lengths 0 cut.lengths
  have hparts : totalOf (linesFor drafts cut.usage (cut.rate terms)) = cut.lengths.length *
      (cut.lengths.map fun seconds => (terms.units seconds).numerator).sum := by
    rw [htotal, usage_slices, ← List.sum_map_mul_left, ← hlengths, List.map_map]
    congr 1
    refine List.map_congr_left fun slice _ => ?_
    rw [hlengths]
    exact rate_charge cut terms (sliceSeconds slice)
  have hcount : (cut.slices.length : ℤ) = cut.lengths.length := by
    rw [← hlengths, List.length_map]
  rw [usage_slices, hcount] at hbounded
  rw [hwhole, hparts] at hcovered hbounded
  -- a unit costs as much as all that rounding may cost
  have hpositive : 0 < (cut.lengths.length : ℤ) := by
    exact_mod_cast List.length_pos_iff.2 cut.nonempty
  have hle := le_of_mul_le_mul_left hcovered hpositive
  have hlt : (cut.lengths.map fun seconds => (terms.units seconds).numerator).sum <
      (terms.units cut.lengths.sum).numerator + 1 := by
    refine lt_of_mul_lt_mul_left ?_ hpositive.le
    rw [mul_add, mul_one]
    exact hbounded
  exact addsUp_iff.2 (by omega)

end Cut

/-! ## Main results -/

/-- **A rate is billed as if nothing had been cut, exactly where its time adds up.** -/
theorem billed_apart_iff (terms : TimeTerms) (cut : Cut) :
    (∀ (rows : TimelineRows) (snapshot : PolicySnapshot) (cadence : BillingCadence) (index : ℤ)
      (usages : List BoundedUsage) (drafts : List LineDraft), rows.Valid →
      usageOf rows snapshot (targetOf snapshot (fullPeriod cadence index)) = .ok usages →
      lineDrafts rows snapshot cadence (targetOf snapshot (fullPeriod cadence index)) =
        .ok drafts →
      ∀ usage ∈ usages, ∀ rate ∈ usage.rates rows snapshot cadence,
        Covers rate.effectiveFrom rate.effectiveTo usage.toSpan →
        rate.toTimeTerms = terms →
        (usage.slices (usage.rates rows snapshot cadence)).map sliceSeconds = cut.lengths →
        ∀ whole, calculateBillingLineAmount usage.start usage.stop
          usage.resource.toResourceQuantitySnapshot rate.toCalculableRate = .ok whole →
        BilledApart rows snapshot cadence drafts usage rate whole) ↔
      terms.AddsUp cut.lengths := by
  constructor
  · intro h
    obtain ⟨drafts, hdrafts⟩ := cut.exists_drafts terms .daily
    refine Cut.addsUp_of_billedApart .daily hdrafts fun whole hwhole => ?_
    have hlengths : (cut.usage.slices
        (cut.usage.rates (cut.rows terms) (cut.snapshot terms) .daily)).map sliceSeconds =
          cut.lengths := by
      rw [Cut.usage_slices]
      exact cutInstants_lengths 0 cut.lengths
    refine h (cut.rows terms) (cut.snapshot terms) .daily 0 [cut.usage] drafts
      (cut.rows_valid terms) ?_ ?_ cut.usage (List.mem_singleton_self _) (cut.rate terms)
      (Cut.mem_usage_rates.2 (Cut.mem_rates.2 (.inl rfl))) ⟨le_rfl, nofun⟩ rfl hlengths whole hwhole
    · rw [Cut.target_eq]
      exact Cut.usageOf_window cut terms
    · rw [Cut.target_eq]
      exact hdrafts
  · intro hadds rows snapshot cadence index usages drafts hvalid husages hdrafts usage husage rate
      hrate hcovers hterms hlengths whole hwhole
    refine billedApart_of_addsUp hvalid husages hdrafts husage hrate hcovers ?_ hwhole
    rw [hterms, hlengths]
    exact hadds

/-- Two half hours at a rate by the started hour. -/
def halfHours : Cut := ⟨[1800, 1800], by decide, by decide, by decide⟩

/-- A new price of the disk in the middle of an hour charges the computer for two. -/
theorem not_always_billed_apart :
    ¬ ∀ (rows : TimelineRows) (snapshot : PolicySnapshot) (cadence : BillingCadence) (index : ℤ)
      (usages : List BoundedUsage) (drafts : List LineDraft), rows.Valid →
      usageOf rows snapshot (targetOf snapshot (fullPeriod cadence index)) = .ok usages →
      lineDrafts rows snapshot cadence (targetOf snapshot (fullPeriod cadence index)) =
        .ok drafts →
      ∀ usage ∈ usages, ∀ rate ∈ usage.rates rows snapshot cadence,
        Covers rate.effectiveFrom rate.effectiveTo usage.toSpan →
        ∀ whole, calculateBillingLineAmount usage.start usage.stop
          usage.resource.toResourceQuantitySnapshot rate.toCalculableRate = .ok whole →
        BilledApart rows snapshot cadence drafts usage rate whole := by
  intro h
  obtain ⟨drafts, hdrafts⟩ := halfHours.exists_drafts ⟨.hour, 0, .ceilUnit, true⟩ .daily
  have hadds : TimeTerms.AddsUp ⟨.hour, 0, .ceilUnit, true⟩ halfHours.lengths := by
    refine Cut.addsUp_of_billedApart .daily hdrafts fun whole hwhole => ?_
    refine h _ _ .daily 0 [halfHours.usage] drafts (halfHours.rows_valid _) ?_ ?_ halfHours.usage
      (List.mem_singleton_self _) _ (Cut.mem_usage_rates.2 (Cut.mem_rates.2 (.inl rfl)))
      ⟨le_rfl, nofun⟩ whole hwhole
    · rw [Cut.target_eq]
      exact Cut.usageOf_window halfHours _
    · rw [Cut.target_eq]
      exact hdrafts
  revert hadds
  unfold TimeTerms.AddsUp
  decide

end AbrChin.Billing
