import AbrChin.Pricing.HeldCurve

/-!
# Published profit curves

A curve without structural issues is a `HeldCurve`: its transitions are those at which the
margin falls, each begins with its band and ends before the next one.
-/

namespace AbrChin.Pricing

open Lib

/-! ## What the checks leave -/

theorem issueIf_eq_nil {p : Prop} [Decidable p] {code : String} : issueIf p code = [] ↔ ¬ p := by
  by_cases h : p <;> simp [issueIf, h]

/-- A band that stands where it may. -/
structure ProfitCurveBandInput.Fits (band : ProfitCurveBandInput) : Prop where
  margin : 1000 ≤ band.targetGrossMarginBps ∧ band.targetGrossMarginBps ≤ 7500

/-- Two bands that follow one another. -/
structure Follows (prev band : ProfitCurveBandInput) : Prop where
  thresholds : prev.minProviderCostRial < band.minProviderCostRial
  attached : ∀ max ∈ prev.maxProviderCostRial, max = band.minProviderCostRial
  margins : band.targetGrossMarginBps ≤ prev.targetGrossMarginBps

theorem follows_of_bandIssues {prev : Option ProfitCurveBandInput}
    {bands : List ProfitCurveBandInput} (h : bandIssues prev bands = []) :
    (∀ band ∈ bands, band.Fits) ∧ List.IsChain Follows (prev.toList ++ bands) := by
  induction bands generalizing prev with
  | nil => cases prev <;> simp
  | cons band rest ih =>
      simp only [bandIssues, List.append_eq_nil_iff, issueIf_eq_nil] at h
      obtain ⟨⟨⟨⟨hmargin, -⟩, -⟩, hprev⟩, hrest⟩ := h
      obtain ⟨hfits, hchain⟩ := ih hrest
      refine ⟨?_, ?_⟩
      · rintro other hother
        rcases List.mem_cons.1 hother with rfl | hother
        · exact ⟨by omega⟩
        · exact hfits other hother
      · cases prev with
        | none => simpa using hchain
        | some prev =>
            simp only [List.append_eq_nil_iff, issueIf_eq_nil] at hprev
            obtain ⟨⟨hthresholds, hattached⟩, hmargins⟩ := hprev
            refine List.isChain_cons_cons.2 ⟨⟨by omega, ?_, by omega⟩, by simpa using hchain⟩
            intro max hmax
            by_contra hne
            exact hattached (by simp [Option.mem_def.1 hmax, hne])

/-! ## Transitions by their index -/

/-- The transition between two bands with falling margins. -/
structure TransitionBetween (prev next : ProfitCurveBandInput) (t : ProfitCurveTransition) :
    Prop where
  boundary : t.boundaryRial = next.minProviderCostRial
  margins : t.previousMarginBps = prev.targetGrossMarginBps ∧
    t.nextMarginBps = next.targetGrossMarginBps
  falls : next.targetGrossMarginBps < prev.targetGrossMarginBps
  sale : computeBoundarySaleRial next.minProviderCostRial prev.targetGrossMarginBps =
    .ok t.boundarySaleRial
  stop : computeTransitionEndRial next.minProviderCostRial prev.targetGrossMarginBps
    next.targetGrossMarginBps t.boundarySaleRial = .ok t.transitionEndRial

/-- The transitions are those between neighbours whose margins differ. -/
theorem transitionsFrom_spec {index : ℕ} {bands : List ProfitCurveBandInput}
    {transitions : List ProfitCurveTransition} (h : transitionsFrom index bands = .ok transitions) :
    (∀ t ∈ transitions, ∃ i prev next, bands[i]? = some prev ∧ bands[i + 1]? = some next ∧
      t.bandIndex = index + i + 1 ∧ TransitionBetween prev next t) ∧
    (∀ i prev next, bands[i]? = some prev → bands[i + 1]? = some next →
      next.targetGrossMarginBps ≠ prev.targetGrossMarginBps →
        ∃ t ∈ transitions, t.bandIndex = index + i + 1) := by
  induction bands generalizing index transitions with
  | nil =>
      cases h
      simp
  | cons prev rest ih =>
      cases rest with
      | nil =>
          cases h
          simp
      | cons next rest =>
          simp only [transitionsFrom, bind_eq_ok, throwIf_eq_ok] at h
          obtain ⟨_, hmargins, h⟩ := h
          split_ifs at h with hequal
          · obtain ⟨hfrom, hto⟩ := ih h
            refine ⟨fun t ht => ?_, fun i before after hbefore hafter hne => ?_⟩
            · obtain ⟨i, before, after, hbefore, hafter, hindex, hbetween⟩ := hfrom t ht
              exact ⟨i + 1, before, after, hbefore, hafter, by omega, hbetween⟩
            · cases i with
              | zero =>
                  cases Option.some.inj hbefore
                  cases Option.some.inj hafter
                  exact absurd hequal hne
              | succ i =>
                  obtain ⟨t, ht, hindex⟩ := hto i before after hbefore hafter hne
                  exact ⟨t, ht, by omega⟩
          · simp only [bind_eq_ok, pure, Except.pure, Except.ok.injEq] at h
            obtain ⟨boundarySale, hsale, transitionEnd, hstop, later, hlater, rfl⟩ := h
            obtain ⟨hfrom, hto⟩ := ih hlater
            refine ⟨fun t ht => ?_, fun i before after hbefore hafter hne => ?_⟩
            · rcases List.mem_cons.1 ht with rfl | ht
              · exact ⟨0, prev, next, rfl, rfl, rfl, rfl, ⟨rfl, rfl⟩, by omega, hsale, hstop⟩
              · obtain ⟨i, before, after, hbefore, hafter, hindex, hbetween⟩ := hfrom t ht
                exact ⟨i + 1, before, after, hbefore, hafter, by omega, hbetween⟩
            · cases i with
              | zero => exact ⟨_, List.mem_cons_self, rfl⟩
              | succ i =>
                  obtain ⟨t, ht, hindex⟩ := hto i before after hbefore hafter hne
                  exact ⟨t, List.mem_cons_of_mem _ ht, by omega⟩

/-- Between two bands there is one transition. -/
theorem TransitionBetween.unique {prev next : ProfitCurveBandInput}
    {t other : ProfitCurveTransition} (h : TransitionBetween prev next t)
    (h' : TransitionBetween prev next other) (hindex : t.bandIndex = other.bandIndex) :
    t = other := by
  have hsale : t.boundarySaleRial = other.boundarySaleRial :=
    Except.ok.inj (h.sale.symm.trans h'.sale)
  have hstop : t.transitionEndRial = other.transitionEndRial := by
    have := h.stop
    rw [hsale, h'.stop] at this
    exact (Except.ok.inj this).symm
  cases t
  cases other
  simp only [ProfitCurveTransition.mk.injEq]
  exact ⟨hindex, h.boundary.trans h'.boundary.symm, h.margins.1.trans h'.margins.1.symm,
    h.margins.2.trans h'.margins.2.symm, hsale, hstop⟩

/-! ## The band of a cost -/

/-- The last index of a range that satisfies a predicate. -/
theorem find?_reverse_range {n i : ℕ} {p : ℕ → Bool} (hi : i < n) (hp : p i = true)
    (hlast : ∀ j, i < j → j < n → p j = false) : (List.range n).reverse.find? p = some i := by
  induction n with
  | zero => omega
  | succ n ih =>
      rw [List.range_succ, List.reverse_append, List.reverse_singleton, List.singleton_append,
        List.find?_cons]
      by_cases hin : i = n
      · subst hin
        rw [hp]
      · rw [hlast n (by omega) (by omega)]
        exact ih (by omega) fun j hj hjn => hlast j hj (by omega)

section Bands

variable {bands : List ProfitCurveBandInput} (hchain : List.IsChain Follows bands)
include hchain

theorem min_lt_of_lt {i j : ℕ} {first second : ProfitCurveBandInput} (hij : i < j)
    (hfirst : bands[i]? = some first) (hsecond : bands[j]? = some second) :
    first.minProviderCostRial < second.minProviderCostRial := by
  have hpairwise : bands.Pairwise fun a b => a.minProviderCostRial < b.minProviderCostRial := by
    have hmins : List.IsChain (fun a b : ProfitCurveBandInput =>
        a.minProviderCostRial < b.minProviderCostRial) bands :=
      hchain.imp fun _ _ h => h.thresholds
    have htrans : Trans (fun a b : ProfitCurveBandInput =>
        a.minProviderCostRial < b.minProviderCostRial) (fun a b : ProfitCurveBandInput =>
        a.minProviderCostRial < b.minProviderCostRial) (fun a b : ProfitCurveBandInput =>
        a.minProviderCostRial < b.minProviderCostRial) := ⟨fun h h' => h.trans h'⟩
    exact hmins.pairwise
  obtain ⟨hi, rfl⟩ := List.getElem?_eq_some_iff.1 hfirst
  obtain ⟨hj, rfl⟩ := List.getElem?_eq_some_iff.1 hsecond
  exact List.pairwise_iff_getElem.1 hpairwise i j hi hj hij

/-- The band with this index is the one of the cost. -/
def BandAt (bands : List ProfitCurveBandInput) (cost : ℤ) (i : ℕ) (band : ProfitCurveBandInput) :
    Prop :=
  bands[i]? = some band ∧ band.minProviderCostRial ≤ cost ∧
    ∀ next ∈ bands[i + 1]?, cost < next.minProviderCostRial

theorem BandAt.unique {cost : ℤ} {i j : ℕ} {first second : ProfitCurveBandInput}
    (h : BandAt bands cost i first) (h' : BandAt bands cost j second) : i = j := by
  obtain ⟨hfirst, hmin, hnext⟩ := h
  obtain ⟨hsecond, hmin', hnext'⟩ := h'
  -- a later band begins above the cost
  have hle : ∀ (i j : ℕ) (first second : ProfitCurveBandInput), bands[i]? = some first →
      bands[j]? = some second → second.minProviderCostRial ≤ cost →
      (∀ next ∈ bands[i + 1]?, cost < next.minProviderCostRial) → j ≤ i := by
    intro i j first second hfirst hsecond hmin hnext
    by_contra hlt
    have hlength := (List.getElem?_eq_some_iff.1 hsecond).1
    have hsucc : bands[i + 1]? = some bands[i + 1] := List.getElem?_eq_getElem (by omega)
    have habove := hnext _ hsucc
    rcases Nat.lt_or_ge (i + 1) j with hlater | hsame
    · have := min_lt_of_lt hchain hlater hsucc hsecond
      omega
    · obtain rfl : j = i + 1 := by omega
      rw [Option.some.inj (hsucc.symm.trans hsecond)] at habove
      omega
  have := hle i j first second hfirst hsecond hmin' hnext
  have := hle j i second first hsecond hfirst hmin hnext'
  omega

theorem exists_bandAt {cost : ℤ} (hhead : ∃ first ∈ bands.head?, first.minProviderCostRial ≤ cost) :
    ∃ i band, BandAt bands cost i band := by
  induction bands with
  | nil =>
      obtain ⟨first, hfirst, -⟩ := hhead
      cases hfirst
  | cons band rest ih =>
      obtain ⟨first, hfirst, hmin⟩ := hhead
      obtain rfl : band = first := Option.some.inj hfirst
      cases rest with
      | nil => exact ⟨0, band, rfl, hmin, by simp⟩
      | cons next rest =>
          by_cases hnext : cost < next.minProviderCostRial
          · refine ⟨0, band, rfl, hmin, ?_⟩
            rintro _ ⟨⟩
            exact hnext
          · obtain ⟨i, later, hlater⟩ := ih (List.isChain_cons_cons.1 hchain).2
              ⟨next, rfl, not_lt.1 hnext⟩
            exact ⟨i + 1, later, hlater⟩

/-- Neighbours follow one another. -/
theorem follows_of_getElem? {i : ℕ} {prev band : ProfitCurveBandInput} (hprev : bands[i]? = some prev)
    (hband : bands[i + 1]? = some band) : Follows prev band := by
  obtain ⟨hi, rfl⟩ := List.getElem?_eq_some_iff.1 hprev
  obtain ⟨hj, rfl⟩ := List.getElem?_eq_some_iff.1 hband
  exact List.isChain_iff_getElem.1 hchain i hj

/-- **The search finds the band of a cost.** -/
theorem findBandIndex_eq (hsorted : sortBands bands = bands) {cost : ℤ} {i : ℕ}
    {band : ProfitCurveBandInput} (h : BandAt bands cost i band) : findBandIndex bands cost = i := by
  obtain ⟨hband, hmin, hnext⟩ := h
  have hlength := (List.getElem?_eq_some_iff.1 hband).1
  have hends : band.maxProviderCostRial.all (cost < ·) = true ∨ i = bands.length - 1 := by
    by_cases hlast : i + 1 < bands.length
    · -- the band ends where the next one begins
      have hsucc : bands[i + 1]? = some bands[i + 1] := List.getElem?_eq_getElem hlast
      have hattached := (follows_of_getElem? hchain hband hsucc).attached
      have habove := hnext _ hsucc
      refine .inl ((Option.all_eq_true _ _).2 fun max hmax => ?_)
      rw [hattached max hmax]
      exact decide_eq_true habove
    · exact .inr (by omega)
  have hfind := @find?_reverse_range bands.length i (fun i => bands[i]?.any fun band =>
    band.minProviderCostRial ≤ cost && (band.maxProviderCostRial.all (cost < ·) ||
      i = bands.length - 1)) hlength (by simp [hband, hmin, hends]) ?_
  · unfold findBandIndex
    simp only [hsorted]
    rw [hfind]
    rfl
  · intro j hj hjlength
    have hlater : bands[j]? = some bands[j] := List.getElem?_eq_getElem hjlength
    have hsucc : bands[i + 1]? = some bands[i + 1] := List.getElem?_eq_getElem (by omega)
    have habove := hnext _ hsucc
    have hle : bands[i + 1].minProviderCostRial ≤ bands[j].minProviderCostRial := by
      rcases Nat.lt_or_ge (i + 1) j with hlt | hge
      · exact (min_lt_of_lt hchain hlt hsucc hlater).le
      · obtain rfl : j = i + 1 := by omega
        exact le_rfl
    simp only [hlater, Option.any_some, Bool.and_eq_false_iff, decide_eq_false_iff_not]
    exact .inl (by omega)

end Bands

/-! ## A published curve -/

/-- The markup of a margin that bands may have. -/
def markupOf (marginBps : ℤ) : ℤ :=
  (2 * (marginBps * 10000) + (10000 - marginBps)) / (2 * (10000 - marginBps))

theorem grossMarginBpsToMarkupBps_eq {marginBps : ℤ} (hlow : 1000 ≤ marginBps)
    (hhigh : marginBps ≤ 7500) : grossMarginBpsToMarkupBps marginBps = .ok (markupOf marginBps) := by
  unfold grossMarginBpsToMarkupBps markupOf
  rw [if_neg (by omega), if_neg (by omega), Int.tdiv_eq_ediv_of_nonneg (by omega)]

theorem markupOf_bounds {marginBps : ℤ} (hlow : 1000 ≤ marginBps) (hhigh : marginBps ≤ 7500) :
    0 ≤ markupOf marginBps ∧ markupOf marginBps ≤ 100000 := by
  unfold markupOf
  refine ⟨Int.ediv_nonneg (by omega) (by omega), ?_⟩
  have hlt : (2 * (marginBps * 10000) + (10000 - marginBps)) / (2 * (10000 - marginBps)) < 100001 :=
    Int.ediv_lt_of_lt_mul (by omega) (by omega)
  omega

/-- The markup of the band of a cost. -/
def markupAt (bands : List ProfitCurveBandInput) (cost : ℤ) : ℤ :=
  (bands[findBandIndex bands cost]?.map fun band => markupOf band.targetGrossMarginBps).getD 0

/-- Sorted bands without structural issues, and their transitions. -/
structure Published (bands : List ProfitCurveBandInput)
    (transitions : List ProfitCurveTransition) : Prop where
  sorted : sortBands bands = bands
  chain : List.IsChain Follows bands
  fits : ∀ band ∈ bands, band.Fits
  head : ∃ first ∈ bands.head?, first.minProviderCostRial = 0
  derived : transitionsFrom 0 bands = .ok transitions
  proper : ∀ t ∈ transitions, t.boundaryRial < t.transitionEndRial ∧
    ∀ next ∈ bands[t.bandIndex + 1]?, t.transitionEndRial < next.minProviderCostRial

namespace Published

variable {bands : List ProfitCurveBandInput} {transitions : List ProfitCurveTransition}

theorem exists_band (h : Published bands transitions) {cost : ℤ} (hcost : 0 ≤ cost) :
    ∃ band, BandAt bands cost (findBandIndex bands cost) band := by
  obtain ⟨first, hfirst, hmin⟩ := h.head
  obtain ⟨i, band, hband⟩ := exists_bandAt h.chain ⟨first, hfirst, hmin.trans_le hcost⟩
  rw [findBandIndex_eq h.chain h.sorted hband]
  exact ⟨band, hband⟩

theorem markupAt_eq (h : Published bands transitions) {cost : ℤ} {i : ℕ}
    {band : ProfitCurveBandInput} (hband : BandAt bands cost i band) :
    markupAt bands cost = markupOf band.targetGrossMarginBps := by
  rw [markupAt, findBandIndex_eq h.chain h.sorted hband, hband.1]
  rfl

theorem markupAt_bounds (h : Published bands transitions) (cost : ℤ) :
    0 ≤ markupAt bands cost ∧ markupAt bands cost ≤ 100000 := by
  unfold markupAt
  cases hband : bands[findBandIndex bands cost]? with
  | none => exact ⟨le_rfl, by decide⟩
  | some band =>
      obtain ⟨hlow, hhigh⟩ := (h.fits band (List.mem_of_getElem? hband)).margin
      exact markupOf_bounds hlow hhigh

/-- Between its start and its end, a transition is in its band. -/
theorem bandAt_of_transition (h : Published bands transitions) {t : ProfitCurveTransition}
    (ht : t ∈ transitions) {cost : ℤ} (hfrom : t.boundaryRial ≤ cost)
    (hto : cost ≤ t.transitionEndRial) : ∃ i prev band, t.bandIndex = i + 1 ∧
      bands[i]? = some prev ∧ BandAt bands cost (i + 1) band ∧ TransitionBetween prev band t := by
  obtain ⟨i, prev, band, hprev, hband, hindex, hbetween⟩ := (transitionsFrom_spec h.derived).1 t ht
  have hindex : t.bandIndex = i + 1 := by omega
  refine ⟨i, prev, band, hindex, hprev, ⟨hband, ?_, fun next hnext => ?_⟩, hbetween⟩
  · rw [← hbetween.boundary]
    exact hfrom
  · have hend := (h.proper t ht).2 next (hindex ▸ hnext)
    omega

/-- A held price is at least the one of the margin before it. -/
theorem boundarySale_ge {boundary margin sale : ℤ} (hlow : 1000 ≤ margin) (hhigh : margin ≤ 7500)
    (hsale : computeBoundarySaleRial boundary margin = .ok sale) :
    1 ≤ boundary ∧ boundary + bpsUp (boundary * markupOf margin) ≤ sale := by
  unfold computeBoundarySaleRial at hsale
  obtain ⟨floorSale, hfloor, hsale⟩ := bind_eq_ok.1 hsale
  obtain ⟨engineAt, hengine, hsale⟩ := bind_eq_ok.1 hsale
  obtain ⟨engineBefore, -, hsale⟩ := bind_eq_ok.1 hsale
  cases hsale
  obtain ⟨_, hguard, -⟩ := bind_eq_ok.1 hfloor
  have hboundary := throwIf_eq_ok.1 hguard
  refine ⟨by omega, ?_⟩
  unfold infrastructureSaleFromMargin at hengine
  rw [if_neg (by omega), if_neg (by omega)] at hengine
  simp only [grossMarginBpsToMarkupBps_eq hlow hhigh, bind_eq_ok, Except.ok.injEq, exists_eq_left',
    pure, Except.pure] at hengine
  obtain ⟨markup, hmarkup, rfl⟩ := hengine
  obtain ⟨-, hbps, -, rfl⟩ := multiplyBpsRoundUp_eq_ok.1 hmarkup
  have hproduct : 0 ≤ boundary * markupOf margin := mul_nonneg (by omega) hbps
  rw [Int.tdiv_eq_ediv_of_nonneg (by omega)]
  unfold bpsUp
  omega

/-- **A published curve holds its prices.** -/
def curve (h : Published bands transitions) : HeldCurve where
  markup := markupAt bands
  transitions := transitions
  nonneg := fun cost => (h.markupAt_bounds cost).1
  proper := fun t ht => (h.proper t ht).1
  entry := by
    intro t ht hone
    obtain ⟨i, prev, band, hindex, hprev, hband, hbetween⟩ :=
      h.bandAt_of_transition ht le_rfl (h.proper t ht).1.le
    obtain ⟨hlow, hhigh⟩ := (h.fits prev (List.mem_of_getElem? hprev)).margin
    have hsale := (boundarySale_ge hlow hhigh hbetween.sale).2
    -- the cost before the boundary is in the band before it
    have hbefore : BandAt bands (t.boundaryRial - 1) i prev := by
      have hthresholds := (follows_of_getElem? h.chain hprev hband.1).thresholds
      have hboundary := hbetween.boundary
      refine ⟨hprev, by omega, fun next hnext => ?_⟩
      obtain rfl : band = next := Option.some.inj (hband.1.symm.trans hnext)
      omega
    rw [h.markupAt_eq hbefore, hbetween.boundary]
    exact hsale
  apart := by
    intro t ht other hother cost hfrom hto hholds
    obtain ⟨hfrom', hto'⟩ := ProfitCurveTransition.holds_eq_true.1 hholds
    obtain ⟨i, prev, band, hindex, hprev, hband, hbetween⟩ := h.bandAt_of_transition ht hfrom hto
    obtain ⟨j, prev', band', hindex', hprev', hband', hbetween'⟩ :=
      h.bandAt_of_transition hother hfrom' hto'.le
    obtain rfl : i = j := by
      have := BandAt.unique h.chain hband hband'
      omega
    obtain rfl : prev = prev' := Option.some.inj (hprev.symm.trans hprev')
    obtain rfl : band = band' := Option.some.inj (hband.1.symm.trans hband'.1)
    exact hbetween'.unique hbetween (by omega)
  smooth := by
    intro cost hcost hfree hfree'
    obtain ⟨band, hband⟩ := h.exists_band (by omega : 0 ≤ cost)
    set i := findBandIndex bands cost
    rw [h.markupAt_eq hband]
    by_cases hsame : ∀ next ∈ bands[i + 1]?, cost + 1 < next.minProviderCostRial
    · exact h.markupAt_eq ⟨hband.1, by have := hband.2.1; omega, hsame⟩
    · -- the next band begins at the next cost, and its margin does not differ
      push Not at hsame
      obtain ⟨next, hnext, hmin⟩ := hsame
      have habove := hband.2.2 next hnext
      have hnext' : BandAt bands (cost + 1) (i + 1) next := by
        refine ⟨hnext, hmin, fun later hlater => ?_⟩
        have := (follows_of_getElem? h.chain hnext hlater).thresholds
        omega
      rw [h.markupAt_eq hnext']
      by_contra hmarkups
      have hmargins : next.targetGrossMarginBps ≠ band.targetGrossMarginBps := by
        intro hmargins
        rw [hmargins] at hmarkups
        exact hmarkups rfl
      obtain ⟨t, ht, hindex⟩ := (transitionsFrom_spec h.derived).2 i band next hband.1 hnext hmargins
      obtain ⟨j, before, after, hbefore, hafter, hindex', hbetween⟩ :=
        (transitionsFrom_spec h.derived).1 t ht
      obtain rfl : j = i := by omega
      obtain rfl : after = next := Option.some.inj (hafter.symm.trans hnext)
      have hboundary := hbetween.boundary
      have hproper := (h.proper t ht).1
      have hholds : t.holds (cost + 1) = true :=
        ProfitCurveTransition.holds_eq_true.2 ⟨by omega, by omega⟩
      rw [hfree' t ht] at hholds
      cases hholds

end Published

/-- **A curve that passes structural validation is published.** -/
theorem published_of_structure {config : ProfitCurveConfigInput}
    (h : validateProfitCurveStructure config = []) :
    ∃ transitions, Published (sortBands config.bands) transitions := by
  have hsorted : sortBands (sortBands config.bands) = sortBands config.bands :=
    List.Pairwise.insertionSort_eq (List.pairwise_insertionSort _ _)
  simp only [validateProfitCurveStructure, List.append_eq_nil_iff, issueIf_eq_nil] at h
  obtain ⟨⟨hcount, -⟩, h⟩ := h
  have hne : sortBands config.bands ≠ [] := by
    intro hnil
    simp [hnil] at hcount
  rw [if_neg hne] at h
  simp only [List.append_eq_nil_iff, issueIf_eq_nil, deriveProfitCurveTransitions, hsorted] at h
  obtain ⟨⟨⟨hhead, -⟩, hbands⟩, htransitions⟩ := h
  obtain ⟨hfits, hchain⟩ := follows_of_bandIssues hbands
  cases hderived : transitionsFrom 0 (sortBands config.bands) with
  | error e =>
      rw [hderived] at htransitions
      cases htransitions
  | ok transitions =>
      rw [hderived] at htransitions
      refine ⟨transitions, hsorted, by simpa using hchain, hfits, ?_, hderived, fun t ht => ?_⟩
      · obtain ⟨first, hfirst⟩ := Option.isSome_iff_exists.1 (List.isSome_head?.2 hne)
        refine ⟨first, hfirst, ?_⟩
        by_contra hmin
        exact hhead (by simp [hfirst, hmin])
      · have hissues := List.flatMap_eq_nil_iff.1 htransitions t ht
        simp only [transitionIssues, List.append_eq_nil_iff, issueIf_eq_nil] at hissues
        obtain ⟨⟨hproper, hnext⟩, -⟩ := hissues
        refine ⟨by omega, fun next hnext' => ?_⟩
        by_contra hle
        exact hnext (by simp [Option.mem_def.1 hnext', not_lt.1 hle])

end AbrChin.Pricing
