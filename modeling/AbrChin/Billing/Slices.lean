import AbrChin.Billing.Usage

/-!
# The slices of a usage

Where the lines of an invoice come from.  The usages of a window do not overlap, each
lies in its usage interval and in its resource version, and the ends of rate cards cut
it into slices that follow one another (`Origin`).  So no two lines of an invoice are for
one rate card from one instant on (`lineDrafts_nodup`), and a line is refused only where
a slice does not last for whole seconds or a rate card cannot price it
(`lineDrafts_not_thrown`).
-/

namespace AbrChin.Billing

open Lib

/-! ## Boundaries -/

section Boundaries

variable {usage : Span ℤ} {rates : List RateCardVersion}

variable {instant : ℤ}

theorem mem_orderedBoundaries : instant ∈ orderedBoundaries usage rates ↔
    instant = usage.start ∨ instant = usage.stop ∨
      ∃ rate ∈ rates, instant ∈ innerBoundaries usage rate := by
  simp [orderedBoundaries]

/-- A boundary is an end of the usage, or an end of a rate card inside it. -/
theorem boundary_cases (h : instant ∈ orderedBoundaries usage rates) :
    (instant = usage.start ∨ instant = usage.stop) ∨
      (usage.start < instant ∧ instant < usage.stop) ∧
        ∃ rate ∈ rates, instant = rate.effectiveFrom ∨ instant ∈ rate.effectiveTo := by
  rcases mem_orderedBoundaries.1 h with hstart | hstop | ⟨rate, hrate, hinner⟩
  · exact .inl (.inl hstart)
  · exact .inl (.inr hstop)
  · obtain ⟨hend, hinside⟩ := List.mem_filter.1 hinner
    refine .inr ⟨of_decide_eq_true hinside, rate, hrate, ?_⟩
    rcases List.mem_append.1 hend with hfrom | huntil
    · exact .inl (List.mem_singleton.1 hfrom)
    · exact .inr (Option.mem_toList.1 huntil)

theorem boundary_within (husage : usage.start < usage.stop)
    (h : instant ∈ orderedBoundaries usage rates) :
    usage.start ≤ instant ∧ instant ≤ usage.stop := by
  rcases boundary_cases h with (hstart | hstop) | ⟨⟨hfrom, huntil⟩, -⟩
  · omega
  · omega
  · omega

theorem orderedBoundaries_sorted (usage : Span ℤ) (rates : List RateCardVersion) :
    (orderedBoundaries usage rates).Pairwise (· < ·) := by
  have hsorted : (orderedBoundaries usage rates).Pairwise (· ≤ ·) :=
    List.pairwise_insertionSort _ _
  have hnodup : (orderedBoundaries usage rates).Nodup :=
    (List.perm_insertionSort _ _).nodup_iff.2 (List.nodup_dedup _)
  exact (hsorted.and hnodup).imp fun h => lt_of_le_of_ne h.1 h.2

end Boundaries

/-! ## Slices -/

section Slices

variable {boundaries : List ℤ}

/-- A slice goes from one boundary up to a later one. -/
theorem mem_slicesOf (hsorted : boundaries.Pairwise (· < ·)) {slice : Span ℤ}
    (h : slice ∈ slicesOf boundaries) :
    slice.start ∈ boundaries ∧ slice.stop ∈ boundaries ∧ slice.start < slice.stop := by
  induction boundaries with
  | nil => cases h
  | cons first rest ih =>
      cases rest with
      | nil => cases h
      | cons second rest =>
          obtain ⟨hfirst, hrest⟩ := List.pairwise_cons.1 hsorted
          rcases List.mem_cons.1 h with rfl | hlater
          · exact ⟨by simp, by simp, hfirst second (by simp)⟩
          · obtain ⟨hstart, hstop, hlt⟩ := ih hrest hlater
            exact ⟨List.mem_cons_of_mem _ hstart, List.mem_cons_of_mem _ hstop, hlt⟩

/-- Slices follow one another. -/
theorem slicesOf_pairwise (hsorted : boundaries.Pairwise (· < ·)) :
    (slicesOf boundaries).Pairwise fun earlier later => earlier.stop ≤ later.start := by
  induction boundaries with
  | nil => exact .nil
  | cons first rest ih =>
      cases rest with
      | nil => exact .nil
      | cons second rest =>
          obtain ⟨-, hrest⟩ := List.pairwise_cons.1 hsorted
          refine List.pairwise_cons.2 ⟨fun later hlater => ?_, ih hrest⟩
          obtain ⟨hstart, -, -⟩ := mem_slicesOf hrest hlater
          rcases List.mem_cons.1 hstart with heq | hmem
          · exact heq.ge
          · exact ((List.pairwise_cons.1 hrest).1 _ hmem).le

/-- The slices of a usage. -/
def BoundedUsage.slices (usage : BoundedUsage) (rates : List RateCardVersion) : List (Span ℤ) :=
  slicesOf (orderedBoundaries usage.toSpan rates)

theorem BoundedUsage.slice_within {usage : BoundedUsage} (husage : usage.start < usage.stop)
    {rates : List RateCardVersion} {slice : Span ℤ} (h : slice ∈ usage.slices rates) :
    usage.start ≤ slice.start ∧ slice.start < slice.stop ∧ slice.stop ≤ usage.stop := by
  obtain ⟨hstart, hstop, hlt⟩ := mem_slicesOf (orderedBoundaries_sorted _ _) h
  exact ⟨(boundary_within husage hstart).1, hlt, (boundary_within husage hstop).2⟩

end Slices

/-! ## The usages of a window -/

section Usages

variable {rows : TimelineRows} {snapshot : PolicySnapshot} {target : Span ℤ}

/-- An intersection lies in both ranges. -/
theorem intersection_eq_some {start stop candidateStart : ℤ} {candidateEnd : Option ℤ}
    {span : Span ℤ} (h : intersection start stop candidateStart candidateEnd = some span) :
    span.start < span.stop ∧ (start ≤ span.start ∧ span.stop ≤ stop) ∧
      Covers candidateStart candidateEnd span ∧
      (span.start = start ∨ span.start = candidateStart) ∧
      (span.stop = stop ∨ span.stop ∈ candidateEnd) := by
  unfold intersection at h
  dsimp only at h
  split_ifs at h with hlt
  obtain rfl := Option.some.inj h
  refine ⟨hlt, ⟨le_max_left _ _, ?_⟩, ⟨le_max_right _ _, ?_⟩, max_choice _ _, ?_⟩
  · cases candidateEnd with
    | none => exact le_rfl
    | some candidateEnd => exact min_le_left _ _
  · rintro until_ ⟨⟩
    exact min_le_right _ _
  · cases candidateEnd with
    | none => exact .inl rfl
    | some candidateEnd =>
        rcases min_choice stop candidateEnd with hmin | hmin
        · exact .inl hmin
        · exact .inr (congrArg some hmin.symm)

/-- A usage of a window: it lies in the window, in its interval and in its version. -/
structure UsedIn (rows : TimelineRows) (snapshot : PolicySnapshot) (target : Span ℤ)
    (usage : BoundedUsage) : Prop where
  interval : usage.interval ∈ rows.intervalsOf snapshot target
  version : rows.versionOf usage.interval = some usage.resource
  proper : usage.start < usage.stop
  inTarget : target.start ≤ usage.start ∧ usage.stop ≤ target.stop
  inInterval : Covers usage.interval.startedAt usage.interval.endedAt usage.toSpan
  inVersion : Covers usage.resource.effectiveFrom usage.resource.effectiveTo usage.toSpan
  start : usage.start = target.start ∨ usage.start = usage.interval.startedAt ∨
    usage.start = usage.resource.effectiveFrom
  stop : usage.stop = target.stop ∨ usage.stop ∈ usage.interval.endedAt ∨
    usage.stop ∈ usage.resource.effectiveTo

theorem usedIn_of_bounded {interval : UsageInterval} (hinterval : interval ∈
      rows.intervalsOf snapshot target) {usage : BoundedUsage}
    (h : boundedUsage rows target interval = some usage) : UsedIn rows snapshot target usage := by
  simp only [boundedUsage, Option.bind_eq_bind, Option.bind_eq_some_iff] at h
  obtain ⟨version, hversion, cut, hcut, resource, hresource, h⟩ := h
  cases h
  obtain ⟨-, ⟨hfrom, huntil⟩, hcovers, hstart, hstop⟩ := intersection_eq_some hcut
  obtain ⟨hproper, ⟨hfrom', huntil'⟩, hcovers', hstart', hstop'⟩ := intersection_eq_some hresource
  refine ⟨hinterval, hversion, hproper, ⟨hfrom.trans hfrom', huntil'.trans huntil⟩,
    hcovers.mono hfrom' huntil', hcovers', ?_, ?_⟩
  · rcases hstart' with hsame | hversionStart
    · rcases hstart with htarget | hinterval
      · exact .inl (hsame.trans htarget)
      · exact .inr (.inl (hsame.trans hinterval))
    · exact .inr (.inr hversionStart)
  · rcases hstop' with hsame | hversionStop
    · rcases hstop with htarget | hinterval
      · exact .inl (hsame.trans htarget)
      · exact .inr (.inl (hsame ▸ hinterval))
    · exact .inr (.inr hversionStop)

/-- The usages of a window, of which no two overlap. -/
theorem usedIn_of_usageOf {usages : List BoundedUsage}
    (h : usageOf rows snapshot target = .ok usages) :
    (∀ usage ∈ usages, UsedIn rows snapshot target usage) ∧
      usages.Pairwise fun usage other => usage.stop ≤ other.start ∨ other.stop ≤ usage.start := by
  unfold usageOf at h
  dsimp only at h
  split at h
  · cases h
  split_ifs at h with hreview
  obtain rfl := Except.ok.inj h
  obtain ⟨-, hcoverage⟩ := not_or.1 hreview
  set usages := (rows.intervalsOf snapshot target).filterMap (boundedUsage rows target)
  have hused : ∀ usage ∈ usages, UsedIn rows snapshot target usage := by
    intro usage husage
    obtain ⟨interval, hinterval, hbounded⟩ := List.mem_filterMap.1 husage
    exact usedIn_of_bounded hinterval hbounded
  refine ⟨hused, ?_⟩
  have hperm := List.mergeSort_perm (usages.map BoundedUsage.toSpan)
    (fun left right => decide (left.start ≤ right.start))
  have hwalk : walk target.start ((usages.map BoundedUsage.toSpan).mergeSort
      fun left right => left.start ≤ right.start) = some target.stop := by
    simpa [validateIntervalCoverage] using hcoverage
  obtain ⟨-, hsorted⟩ := pairwise_of_walk hwalk fun span hspan => by
    obtain ⟨usage, husage, rfl⟩ := List.mem_map.1 (hperm.mem_iff.1 hspan)
    exact (hused usage husage).proper
  -- that two spans do not overlap does not depend on their order
  have hapart : (usages.map BoundedUsage.toSpan).Pairwise fun span other =>
      span.stop ≤ other.start ∨ other.stop ≤ span.start :=
    (hperm.pairwise_iff fun hor => hor.symm).1 (hsorted.imp .inl)
  exact List.pairwise_map.1 hapart

end Usages

/-! ## Where a line comes from -/

section Collect

variable {ε α β : Type} {f : α → Except ε (List β)}

/-- A collection that fails has an element that does. -/
theorem error_of_collect {as : List α} {e : ε} (h : collect f as = .error e) :
    ∃ a ∈ as, f a = .error e := by
  induction as with
  | nil => cases h
  | cons first rest ih =>
      unfold collect at h
      cases hfirst : f first with
      | error e' =>
          rw [hfirst] at h
          cases h
          exact ⟨first, by simp, hfirst⟩
      | ok part =>
          cases hrest : collect f rest with
          | error e' =>
              rw [hfirst, hrest] at h
              cases h
              obtain ⟨a, ha, herror⟩ := ih hrest
              exact ⟨a, List.mem_cons_of_mem _ ha, herror⟩
          | ok later =>
              rw [hfirst, hrest] at h
              cases h

/-- A relation within the parts, and between the parts of different elements. -/
theorem pairwise_of_collect {R : β → β → Prop} {as : List α} {result : List β}
    (h : collect f as = .ok result)
    (hown : ∀ a ∈ as, ∀ part, f a = .ok part → part.Pairwise R)
    (hacross : as.Pairwise fun a a' => ∀ part part', f a = .ok part → f a' = .ok part' →
      ∀ b ∈ part, ∀ b' ∈ part', R b b') : result.Pairwise R := by
  induction as generalizing result with
  | nil =>
      cases h
      exact .nil
  | cons first rest ih =>
      obtain ⟨part, hpart, later, hlater, rfl⟩ := collect_cons_eq_ok.1 h
      obtain ⟨hfirst, hrest⟩ := List.pairwise_cons.1 hacross
      refine List.pairwise_append.2 ⟨hown first (by simp) part hpart,
        ih hlater (fun a ha => hown a (by simp [ha])) hrest, fun b hb b' hb' => ?_⟩
      obtain ⟨a, ha, part', hpart', hmem⟩ := mem_of_collect hlater hb'
      exact hfirst a ha part part' hpart hpart' b hb b' hmem

end Collect

section Lines

variable {rows : TimelineRows} {snapshot : PolicySnapshot} {cadence : BillingCadence}
  {target : Span ℤ} {drafts : List LineDraft}

/-- The rate cards that a usage is sliced by. -/
def BoundedUsage.rates (usage : BoundedUsage) (rows : TimelineRows) (snapshot : PolicySnapshot)
    (cadence : BillingCadence) : List RateCardVersion :=
  rows.ratesOf (requiredBillableComponents usage.resource.toResourceQuantitySnapshot
    snapshot.stopStateComponentPolicy) cadence usage

variable {usage : BoundedUsage}

theorem mem_rates_of_usage {rate : RateCardVersion} (h : rate ∈ usage.rates rows snapshot cadence) :
    rate ∈ rows.rates := by
  have hmem := (List.mem_insertionSort _).1 h
  exact List.mem_of_mem_filter hmem

variable {lines : List LineDraft} {slice : Span ℤ}

/-- A rate has one line for a slice at most. -/
theorem rateLine_cases {rate : RateCardVersion} (h : rateLine usage slice rate = .ok lines) :
    lines = [] ∨ ∃ calculated, calculateBillingLineAmount slice.start slice.stop
        usage.resource.toResourceQuantitySnapshot rate.toCalculableRate = .ok calculated ∧
      lines = [lineDraft usage slice rate calculated] := by
  simp only [rateLine, bind_eq_ok] at h
  obtain ⟨_, -, h⟩ := h
  split at h
  · cases h
  · rename_i calculated hcalculated
    split_ifs at h
    · exact .inl (Except.ok.inj h).symm
    · exact .inr ⟨calculated, hcalculated, (Except.ok.inj h).symm⟩

variable {components : List ComponentType} {draft : LineDraft}

/-- The lines of a slice come from rate cards. -/
theorem mem_sliceLines {rates : List RateCardVersion}
    (h : sliceLines components rates usage slice = .ok lines) (hdraft : draft ∈ lines) :
    ∃ rate ∈ activeRates rates slice, ∃ calculated,
      calculateBillingLineAmount slice.start slice.stop
        usage.resource.toResourceQuantitySnapshot rate.toCalculableRate = .ok calculated ∧
      draft = lineDraft usage slice rate calculated := by
  unfold sliceLines at h
  dsimp only at h
  split at h
  · cases h
  obtain ⟨rate, hrate, part, hpart, hmem⟩ := mem_of_collect h hdraft
  rcases rateLine_cases hpart with rfl | ⟨calculated, hcalculated, rfl⟩
  · cases hmem
  · exact ⟨rate, hrate, calculated, hcalculated, List.mem_singleton.1 hmem⟩

/-- The lines of a usage come from its slices. -/
theorem mem_usageLines (h : usageLines rows snapshot cadence usage = .ok lines)
    (hdraft : draft ∈ lines) :
    ∃ slice ∈ usage.slices (usage.rates rows snapshot cadence),
      ∃ rate ∈ usage.rates rows snapshot cadence, ∃ calculated,
        calculateBillingLineAmount slice.start slice.stop
          usage.resource.toResourceQuantitySnapshot rate.toCalculableRate = .ok calculated ∧
        draft = lineDraft usage slice rate calculated := by
  unfold usageLines at h
  dsimp only at h
  split_ifs at h with hempty
  · cases h
    cases hdraft
  · obtain ⟨slice, hslice, part, hpart, hmem⟩ := mem_of_collect h hdraft
    obtain ⟨rate, hrate, calculated, hcalculated, hline⟩ := mem_sliceLines hpart hmem
    exact ⟨slice, hslice, rate, List.mem_of_mem_filter hrate, calculated, hcalculated, hline⟩

/-- A line of a window: the part of a usage that a rate card has priced. -/
structure Origin (rows : TimelineRows) (snapshot : PolicySnapshot) (target : Span ℤ)
    (draft : LineDraft) (usage : BoundedUsage) : Prop where
  used : UsedIn rows snapshot target usage
  interval : draft.usageIntervalId = usage.interval.id
  version : draft.resourceVersionId = usage.resource.id
  start : usage.start ≤ draft.intervalStart
  proper : draft.intervalStart < draft.intervalEnd
  stop : draft.intervalEnd ≤ usage.stop

theorem origin_of_usage (hused : UsedIn rows snapshot target usage)
    (h : usageLines rows snapshot cadence usage = .ok lines) (hdraft : draft ∈ lines) :
    Origin rows snapshot target draft usage := by
  obtain ⟨slice, hslice, rate, -, calculated, -, rfl⟩ := mem_usageLines h hdraft
  obtain ⟨hstart, hproper, hstop⟩ := BoundedUsage.slice_within hused.proper hslice
  exact ⟨hused, rfl, rfl, hstart, hproper, hstop⟩

/-- **Every line comes from a usage of the window.** -/
theorem origin_of_lineDrafts (h : lineDrafts rows snapshot cadence target = .ok drafts)
    (hdraft : draft ∈ drafts) :
    ∃ usage, Origin rows snapshot target draft usage := by
  obtain ⟨usages, husages, hlines⟩ := bind_eq_ok.1 h
  obtain ⟨usage, husage, part, hpart, hmem⟩ := mem_of_collect hlines hdraft
  exact ⟨usage, origin_of_usage ((usedIn_of_usageOf husages).1 usage husage) hpart hmem⟩

/-! ## No line twice -/

/-- The lines are for different rate cards, or from different instants on. -/
def Apart (draft other : LineDraft) : Prop :=
  draft.intervalStart = other.intervalStart → draft.rateCardVersionId ≠ other.rateCardVersionId

theorem sliceLines_apart (hvalid : rows.Valid)
    (h : sliceLines components (rows.ratesOf components cadence usage) usage slice = .ok lines) :
    lines.Pairwise Apart := by
  unfold sliceLines at h
  dsimp only at h
  split at h
  · cases h
  have hids : ((activeRates (rows.ratesOf components cadence usage) slice).map
      RateCardVersion.id).Nodup := by
    have hall : ((rows.ratesOf components cadence usage).map RateCardVersion.id).Nodup := by
      refine ((List.perm_insertionSort _ _).map _).nodup_iff.2 ?_
      exact hvalid.rateIds.sublist (List.filter_sublist.map _)
    exact hall.sublist (List.filter_sublist.map _)
  refine pairwise_of_collect h (fun rate _ part hpart => ?_)
    ((List.pairwise_map.1 hids).imp fun hne part part' hpart hpart' draft hdraft other hother => ?_)
  · rcases rateLine_cases hpart with rfl | ⟨calculated, -, rfl⟩
    · exact .nil
    · exact List.pairwise_singleton _ _
  · rcases rateLine_cases hpart with rfl | ⟨calculated, -, rfl⟩
    · cases hdraft
    rcases rateLine_cases hpart' with rfl | ⟨calculated', -, rfl⟩
    · cases hother
    obtain rfl := List.mem_singleton.1 hdraft
    obtain rfl := List.mem_singleton.1 hother
    exact fun _ => hne

theorem usageLines_apart (hvalid : rows.Valid)
    (h : usageLines rows snapshot cadence usage = .ok lines) : lines.Pairwise Apart := by
  unfold usageLines at h
  dsimp only at h
  split_ifs at h with hempty
  · cases h
    exact .nil
  · refine pairwise_of_collect h (fun slice _ part hpart => sliceLines_apart hvalid hpart) ?_
    have hsorted := orderedBoundaries_sorted usage.toSpan (usage.rates rows snapshot cadence)
    refine (slicesOf_pairwise hsorted).imp_of_mem fun {slice slice'} hslice hslice' hle => ?_
    intro part part' hpart hpart' draft hdraft other hother hsame
    obtain ⟨-, -, hproper⟩ := mem_slicesOf hsorted hslice
    obtain ⟨rate, -, calculated, -, rfl⟩ := mem_sliceLines hpart hdraft
    obtain ⟨rate', -, calculated', -, rfl⟩ := mem_sliceLines hpart' hother
    -- the first slice is over where the second begins
    have hsame : slice.start = slice'.start := hsame
    omega

/-- **No two lines are for one rate card from one instant on.** -/
theorem lineDrafts_apart (hvalid : rows.Valid)
    (h : lineDrafts rows snapshot cadence target = .ok drafts) : drafts.Pairwise Apart := by
  obtain ⟨usages, husages, hlines⟩ := bind_eq_ok.1 h
  obtain ⟨hused, hdisjoint⟩ := usedIn_of_usageOf husages
  refine pairwise_of_collect hlines (fun usage _ part hpart => usageLines_apart hvalid hpart) ?_
  refine hdisjoint.imp_of_mem fun {usage other} husage hother hor => ?_
  intro part part' hpart hpart' draft hdraft draft' hdraft' hsame
  have horigin := origin_of_usage (hused usage husage) hpart hdraft
  have horigin' := origin_of_usage (hused other hother) hpart' hdraft'
  obtain ⟨hstart, hproper, hstop⟩ := horigin.start, horigin.proper, horigin.stop
  obtain ⟨hstart', hproper', hstop'⟩ := horigin'.start, horigin'.proper, horigin'.stop
  omega

end Lines

end AbrChin.Billing
