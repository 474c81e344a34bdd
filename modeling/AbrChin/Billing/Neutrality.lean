import AbrChin.Billing.Draft
import Mathlib.Tactic.Linarith
import Mathlib.Tactic.Ring

/-!
# Settlement by the hour and by the day

A rate card without a cadence prices usage, whatever the settlement: the 24
invoices of the hours of a day should come to what the one invoice of the day
comes to, up to the rounding of each line.  They do so exactly for the time terms
of `CadenceNeutral`.  Each slice is rounded to whole units and raised to the
minimum charge on its own, so a unit of a day, or a minimum charge above an hour,
is charged 24 times a day under settlement by the hour.
-/

namespace AbrChin.Billing

open Lib

/-- An hour counts for a 24th of what a day counts for. -/
def TimeTerms.CadenceNeutral (terms : TimeTerms) : Prop :=
  let unit := unitSeconds terms.calculationUnit
  if terms.prorationSupported ∧ terms.roundingPolicy = .exact then
    terms.minimumChargeSeconds ≤ 3600
  else terms.calculationUnit ≠ .day ∧
    if ¬ terms.prorationSupported ∨ terms.roundingPolicy = .ceilUnit then
      terms.minimumChargeSeconds ≤ 3600
    else if terms.roundingPolicy = .floorUnit then terms.minimumChargeSeconds < 3600 + unit
    else terms.minimumChargeSeconds + unit / 2 < 3600 + unit

/-! ## A day of usage -/

/-- A day that one usage interval of one resource version covers, under rate cards
without a cadence that are valid throughout. -/
structure FullDay (rows : TimelineRows) (snapshot : PolicySnapshot) (interval : UsageInterval)
    (version : ResourceVersion) (day : ℤ) : Prop where
  inForce : Covers snapshot.effectiveFrom snapshot.effectiveTo (fullPeriod .daily day).span
  alone : rows.intervalsOf snapshot (fullPeriod .daily day).span = [interval]
  complete : interval.status ≠ .incomplete ∧ interval.status ≠ .review
  used : Covers interval.startedAt interval.endedAt (fullPeriod .daily day).span
  refers : rows.versionOf interval = some version
  resource : Covers version.effectiveFrom version.effectiveTo (fullPeriod .daily day).span
  rates : ∀ rate ∈ rows.rates, rate.planId = some version.planId →
    rate.effectiveFrom < (fullPeriod .daily day).periodEnd →
    rate.effectiveTo.all ((fullPeriod .daily day).periodStart < ·) = true →
    rate.rateCadence = none ∧
      Covers rate.effectiveFrom rate.effectiveTo (fullPeriod .daily day).span

/-- The rate cards that apply to a day of usage. -/
def dayRates (rows : TimelineRows) (snapshot : PolicySnapshot) (interval : UsageInterval)
    (version : ResourceVersion) (day : ℤ) : List RateCardVersion :=
  rows.ratesOf (requiredBillableComponents version.toResourceQuantitySnapshot
    snapshot.stopStateComponentPolicy) .daily ⟨(fullPeriod .daily day).span, interval, version⟩

/-- The hours of a day. -/
def hourOf (day : ℤ) (hour : ℕ) : Period := fullPeriod .hourly (24 * day + hour)

/-- Where all invoices can be drafted, the 24 of the hours differ from the one of the day by
less than 24 rials a rate. -/
def SettlesAlike (rows : TimelineRows) (snapshot : PolicySnapshot) (day : ℤ) (rates : ℕ) : Prop :=
  ∀ (hours : ℕ → List LineDraft) (lines : List LineDraft),
    (∀ hour < 24, lineDrafts rows snapshot .hourly (targetOf snapshot (hourOf day hour)) =
      .ok (hours hour)) →
    lineDrafts rows snapshot .daily (targetOf snapshot (fullPeriod .daily day)) = .ok lines →
    let difference := ((List.range 24).map fun hour => totalOf (hours hour)).sum - totalOf lines
    |difference| < 24 * rates ∨ difference = 0

/-! ## The slices of a day -/

theorem targetOf_of_covers {snapshot : PolicySnapshot} {period : Period}
    (h : Covers snapshot.effectiveFrom snapshot.effectiveTo period.span) :
    targetOf snapshot period = period.span := by
  have hstart : max period.periodStart snapshot.effectiveFrom = period.periodStart :=
    max_eq_left h.1
  cases hstop : snapshot.effectiveTo with
  | none => simp [targetOf, hstart, hstop, Period.span]
  | some until_ =>
      have hend : min period.periodEnd until_ = period.periodEnd :=
        min_eq_left (h.2 until_ hstop)
      simp [targetOf, hstart, hstop, hend, Period.span]

theorem hourOf_within (day : ℤ) {hour : ℕ} (hhour : hour < 24) :
    (fullPeriod .daily day).periodStart ≤ (hourOf day hour).periodStart ∧
      (hourOf day hour).periodStart < (hourOf day hour).periodEnd ∧
      (hourOf day hour).periodEnd ≤ (fullPeriod .daily day).periodEnd := by
  simp only [hourOf, fullPeriod, periodMilliseconds]
  omega

section Day

variable {rows : TimelineRows} {snapshot : PolicySnapshot} {interval : UsageInterval}
  {version : ResourceVersion} {day : ℤ}

theorem FullDay.intervals_part (h : FullDay rows snapshot interval version day) {part : Span ℤ}
    (hstart : (fullPeriod .daily day).periodStart ≤ part.start) (hpart : part.start < part.stop)
    (hstop : part.stop ≤ (fullPeriod .daily day).periodEnd) :
    rows.intervalsOf snapshot part = [interval] := by
  have hday := h.alone
  have hperm := (List.mergeSort_perm (rows.intervals.filter fun row =>
    row.cloudInstanceId = snapshot.cloudInstanceId ∧ row.billingPolicySnapshotId = snapshot.id ∧
      row.startedAt < (fullPeriod .daily day).span.stop ∧
      row.endedAt.all ((fullPeriod .daily day).span.start < ·) = true)
    (fun left right => left.startedAt ≤ right.startedAt)).symm
  rw [show List.mergeSort _ _ = [interval] from hday, List.perm_singleton] at hperm
  have hmem : interval ∈ [interval] := List.mem_singleton_self interval
  rw [← hperm, List.mem_filter] at hmem
  obtain ⟨hinstance, hsnapshot, -⟩ := of_decide_eq_true hmem.2
  -- an interval that meets the part meets the day, and the one of the day meets the part
  have hfilter : (rows.intervals.filter fun row =>
      row.cloudInstanceId = snapshot.cloudInstanceId ∧ row.billingPolicySnapshotId = snapshot.id ∧
        row.startedAt < part.stop ∧ row.endedAt.all (part.start < ·) = true) = [interval] := by
    rw [← hperm]
    refine List.filter_congr fun row hrow => ?_
    rw [decide_eq_decide]
    constructor
    · rintro ⟨hi, hs, hfrom, huntil⟩
      refine ⟨hi, hs, hfrom.trans_le hstop, ?_⟩
      cases hend : row.endedAt with
      | none => rfl
      | some until_ =>
          have huntil : part.start < until_ := by simpa [hend] using huntil
          exact decide_eq_true (lt_of_le_of_lt hstart huntil)
    · rintro ⟨hi, hs, hfrom, huntil⟩
      have hin : row ∈ [interval] := by
        rw [← hperm]
        exact List.mem_filter.2 ⟨hrow, decide_eq_true ⟨hi, hs, hfrom, huntil⟩⟩
      obtain rfl := List.mem_singleton.1 hin
      refine ⟨hi, hs, lt_of_le_of_lt h.used.1 (lt_of_le_of_lt hstart hpart), ?_⟩
      cases hend : row.endedAt with
      | none => rfl
      | some until_ =>
          have := h.used.2 until_ hend
          simpa using lt_of_lt_of_le hpart (hstop.trans this)
  rw [TimelineRows.intervalsOf, hfilter, List.mergeSort_singleton]

/-- The same rates apply to every part of the day, under both cadences. -/
theorem FullDay.rates_part (h : FullDay rows snapshot interval version day)
    (cadence : BillingCadence) {part : Span ℤ}
    (hstart : (fullPeriod .daily day).periodStart ≤ part.start) (hpart : part.start < part.stop)
    (hstop : part.stop ≤ (fullPeriod .daily day).periodEnd) :
    rows.ratesOf (requiredBillableComponents version.toResourceQuantitySnapshot
      snapshot.stopStateComponentPolicy) cadence ⟨part, interval, version⟩ =
        dayRates rows snapshot interval version day := by
  unfold dayRates TimelineRows.ratesOf
  congr 1
  refine List.filter_congr fun rate hrate => ?_
  rw [decide_eq_decide]
  constructor
  · rintro ⟨hplan, hprovider, hkind, hcomponent, -, hfrom, huntil⟩
    have hfrom' : rate.effectiveFrom < (fullPeriod .daily day).periodEnd := hfrom.trans_le hstop
    have huntil' : rate.effectiveTo.all ((fullPeriod .daily day).periodStart < ·) = true := by
      cases hend : rate.effectiveTo with
      | none => rfl
      | some until_ =>
          have huntil : part.start < until_ := by simpa [hend] using huntil
          simpa using lt_of_le_of_lt hstart huntil
    exact ⟨hplan, hprovider, hkind, hcomponent,
      .inr (h.rates rate hrate hplan hfrom' huntil').1, hfrom', huntil'⟩
  · rintro ⟨hplan, hprovider, hkind, hcomponent, -, hfrom, huntil⟩
    obtain ⟨hcadence, hcovers⟩ := h.rates rate hrate hplan hfrom huntil
    refine ⟨hplan, hprovider, hkind, hcomponent, .inr hcadence,
      lt_of_le_of_lt hcovers.1 (lt_of_le_of_lt hstart hpart), ?_⟩
    cases hend : rate.effectiveTo with
    | none => rfl
    | some until_ => simpa using lt_of_lt_of_le hpart (hstop.trans (hcovers.2 until_ hend))

theorem mem_dayRates (h : FullDay rows snapshot interval version day) {rate : RateCardVersion}
    (hrate : rate ∈ dayRates rows snapshot interval version day) :
    Covers rate.effectiveFrom rate.effectiveTo (fullPeriod .daily day).span := by
  obtain ⟨hmem, hkeep⟩ := List.mem_filter.1 ((List.mem_insertionSort _).1 hrate)
  obtain ⟨hplan, -, -, -, -, hfrom, huntil⟩ := of_decide_eq_true hkeep
  exact (h.rates rate hmem hplan hfrom huntil).2

/-- Each period of the day is one slice. -/
theorem FullDay.lineDrafts_eq (h : FullDay rows snapshot interval version day)
    (cadence : BillingCadence) {period : Period}
    (hstart : (fullPeriod .daily day).periodStart ≤ period.periodStart)
    (hperiod : period.periodStart < period.periodEnd)
    (hstop : period.periodEnd ≤ (fullPeriod .daily day).periodEnd) :
    lineDrafts rows snapshot cadence (targetOf snapshot period) =
      sliceLines (requiredBillableComponents version.toResourceQuantitySnapshot
        snapshot.stopStateComponentPolicy) (dayRates rows snapshot interval version day)
        ⟨period.span, interval, version⟩ period.span := by
  rw [targetOf_of_covers (h.inForce.mono hstart hstop)]
  exact lineDrafts_of_covers hperiod (h.intervals_part hstart hperiod hstop) h.complete
    (h.used.mono hstart hstop) h.refers (h.resource.mono hstart hstop) rfl
    (h.rates_part cadence hstart hperiod hstop).symm
    fun rate hrate => (mem_dayRates h hrate).mono hstart hstop

end Day

/-! ## What a rate charges for a slice -/

/-- What a rate charges a resource for a number of seconds. -/
def RateCardVersion.chargeFor (rate : RateCardVersion) (resource : ResourceQuantitySnapshot)
    (seconds : ℕ) : ℤ :=
  match resourceFactor rate.resourceUnit resource with
  | .ok factor => (rate.quantity seconds factor).charge rate.customerRateRial
  | .error _ => 0

theorem totalOf_append (first later : List LineDraft) :
    totalOf (first ++ later) = totalOf first + totalOf later := by
  simp [totalOf]

/-- A quantity of zero has no line, and would cost nothing. -/
theorem Factor.charge_zero {quantity : Factor} (hzero : quantity.numerator = 0)
    (hpositive : 0 < quantity.denominator) (rial : ℤ) : quantity.charge rial = 0 := by
  unfold Factor.charge
  rw [hzero, mul_zero]
  exact Int.ediv_eq_zero_of_lt (by omega) (by omega)

variable {lines : List LineDraft} {seconds : ℕ}

theorem totalOf_rateLine {usage : BoundedUsage} {start : ℤ} (hseconds : 0 < seconds)
    {rate : RateCardVersion} (h : rateLine usage ⟨start, start + seconds * 1000⟩ rate = .ok lines) :
    totalOf lines = rate.chargeFor usage.resource.toResourceQuantitySnapshot seconds := by
  obtain ⟨-, -, factor, hfactor, -, rfl⟩ := (rateLine_eq_ok hseconds).1 h
  obtain ⟨hnumerator, hdenominator⟩ := resourceFactor_pos hfactor
  simp only [RateCardVersion.chargeFor, hfactor]
  split_ifs with hzero
  · exact (Factor.charge_zero hzero (rate.quantity_pos hnumerator hdenominator).2 _).symm
  · exact List.sum_singleton

theorem totalOf_sliceLines {components : List ComponentType} {rates : List RateCardVersion}
    {usage : BoundedUsage} {start : ℤ} (hseconds : 0 < seconds) (hvalid : ∀ rate ∈ rates,
      Covers rate.effectiveFrom rate.effectiveTo ⟨start, start + seconds * 1000⟩)
    (h : sliceLines components rates usage ⟨start, start + seconds * 1000⟩ = .ok lines) :
    totalOf lines = (rates.map fun rate =>
      rate.chargeFor usage.resource.toResourceQuantitySnapshot seconds).sum := by
  have hactive : activeRates rates ⟨start, start + seconds * 1000⟩ = rates := by
    refine List.filter_eq_self.2 fun rate hrate => decide_eq_true ⟨(hvalid rate hrate).1, ?_⟩
    cases hend : rate.effectiveTo with
    | none => rfl
    | some until_ => exact decide_eq_true ((hvalid rate hrate).2 until_ hend)
  simp only [sliceLines, hactive] at h
  cases hreview : rateReview components rates with
  | some review => simp [hreview] at h
  | none =>
      simp only [hreview] at h
      clear hreview hactive hvalid
      induction rates generalizing lines with
      | nil =>
          cases h
          rfl
      | cons rate rest ih =>
          obtain ⟨first, hfirst, later, hlater, rfl⟩ := collect_cons_eq_ok.1 h
          rw [totalOf_append, totalOf_rateLine hseconds hfirst, ih hlater, List.map_cons,
            List.sum_cons]

/-! ## Rounding 24 hours and rounding a day -/

/-- Rounding up 24 equal parts exceeds rounding up their sum by less than 24. -/
theorem ceil_parts {numerator denominator : ℤ} (h : 0 < denominator) :
    0 ≤ 24 * ((numerator + denominator - 1) / denominator) -
        (24 * numerator + denominator - 1) / denominator ∧
      24 * ((numerator + denominator - 1) / denominator) -
        (24 * numerator + denominator - 1) / denominator < 24 := by
  set part := (numerator + denominator - 1) / denominator with hpart
  set whole := (24 * numerator + denominator - 1) / denominator with hwhole
  have hpartLower := Int.lt_ediv_add_one_mul_self (numerator + denominator - 1) h
  have hpartUpper := Int.ediv_mul_le (numerator + denominator - 1) h.ne'
  have hwholeLower := Int.lt_ediv_add_one_mul_self (24 * numerator + denominator - 1) h
  have hwholeUpper := Int.ediv_mul_le (24 * numerator + denominator - 1) h.ne'
  rw [← hpart] at hpartLower hpartUpper
  rw [← hwhole] at hwholeLower hwholeUpper
  constructor
  · by_contra hneg
    have : 24 * part - whole ≤ -1 := by omega
    nlinarith
  · by_contra hlarge
    have : 24 ≤ 24 * part - whole := by omega
    nlinarith

/-- The units of 24 hours are those of a day. -/
theorem units_day_iff (terms : TimeTerms) : terms.CadenceNeutral ↔
    24 * (terms.units 3600).numerator = (terms.units 86400).numerator := by
  obtain ⟨unit, minimum, policy, proration⟩ := terms
  unfold TimeTerms.CadenceNeutral TimeTerms.units TimeTerms.charged
  cases unit <;> cases policy <;> cases proration <;> simp [unitSeconds] <;> omega

theorem units_denominator (terms : TimeTerms) (seconds seconds' : ℕ) :
    (terms.units seconds).denominator = (terms.units seconds').denominator := by
  unfold TimeTerms.units
  simp only
  split_ifs <;> rfl

/-- A rate with neutral terms charges 24 hours and a day alike. -/
theorem chargeFor_neutral {rate : RateCardVersion} (h : rate.toTimeTerms.CadenceNeutral)
    (resource : ResourceQuantitySnapshot) :
    |24 * rate.chargeFor resource 3600 - rate.chargeFor resource 86400| < 24 := by
  unfold RateCardVersion.chargeFor
  cases hfactor : resourceFactor rate.resourceUnit resource with
  | error code => simp
  | ok factor =>
      obtain ⟨hnumerator, hdenominator⟩ := resourceFactor_pos hfactor
      have hpositive : 0 < (rate.quantity 3600 factor).denominator :=
        (rate.quantity_pos hnumerator hdenominator).2
      have hday : rate.customerRateRial * (rate.quantity 86400 factor).numerator =
          24 * (rate.customerRateRial * (rate.quantity 3600 factor).numerator) := by
        simp only [CalculableRate.quantity, Factor.times, ← (units_day_iff _).1 h]
        ring
      have hsame : (rate.quantity 86400 factor).denominator =
          (rate.quantity 3600 factor).denominator := by
        simp only [CalculableRate.quantity, Factor.times,
          units_denominator rate.toTimeTerms 86400 3600]
      obtain ⟨hlower, hupper⟩ :=
        @ceil_parts (rate.customerRateRial * (rate.quantity 3600 factor).numerator) _ hpositive
      simp only [Factor.charge, hday, hsame]
      rw [abs_of_nonneg hlower]
      exact hupper

/-! ## A day of neutral rates -/

theorem sum_const_range (count : ℕ) (value : ℤ) :
    ((List.range count).map fun _ => value).sum = count * value := by
  simp

/-- The difference of the totals is the sum of the differences of the rates. -/
theorem difference_eq {rows : TimelineRows} {snapshot : PolicySnapshot} {interval : UsageInterval}
    {version : ResourceVersion} {day : ℤ} (h : FullDay rows snapshot interval version day)
    {hours : ℕ → List LineDraft} (hhours : ∀ hour < 24,
      lineDrafts rows snapshot .hourly (targetOf snapshot (hourOf day hour)) = .ok (hours hour))
    (hlines : lineDrafts rows snapshot .daily (targetOf snapshot (fullPeriod .daily day)) =
      .ok lines) :
    ((List.range 24).map fun hour => totalOf (hours hour)).sum - totalOf lines =
      ((dayRates rows snapshot interval version day).map fun rate =>
        24 * rate.chargeFor version.toResourceQuantitySnapshot 3600 -
          rate.chargeFor version.toResourceQuantitySnapshot 86400).sum := by
  have hcovered {period : Period} (hstart : (fullPeriod .daily day).periodStart ≤ period.periodStart)
      (hstop : period.periodEnd ≤ (fullPeriod .daily day).periodEnd) :
      ∀ rate ∈ dayRates rows snapshot interval version day,
        Covers rate.effectiveFrom rate.effectiveTo period.span :=
    fun rate hrate => (mem_dayRates h hrate).mono hstart hstop
  have hhour : ∀ hour ∈ List.range 24, totalOf (hours hour) =
      ((dayRates rows snapshot interval version day).map fun rate =>
        rate.chargeFor version.toResourceQuantitySnapshot 3600).sum := by
    intro hour hmem
    obtain ⟨hstart, hperiod, hstop⟩ := hourOf_within day (List.mem_range.1 hmem)
    have hdraft := hhours hour (List.mem_range.1 hmem)
    have hvalid := hcovered hstart hstop
    rw [h.lineDrafts_eq .hourly hstart hperiod hstop] at hdraft
    rw [hourOf, fullPeriod_span] at hdraft hvalid
    have hseconds : 0 < 3600 := by decide
    exact totalOf_sliceLines hseconds hvalid hdraft
  have hday : totalOf lines = ((dayRates rows snapshot interval version day).map fun rate =>
      rate.chargeFor version.toResourceQuantitySnapshot 86400).sum := by
    have hperiod : (fullPeriod .daily day).periodStart < (fullPeriod .daily day).periodEnd := by
      simp only [fullPeriod, periodMilliseconds]
      omega
    have hvalid := @hcovered (fullPeriod .daily day) le_rfl le_rfl
    rw [h.lineDrafts_eq .daily le_rfl hperiod le_rfl] at hlines
    rw [fullPeriod_span] at hlines hvalid
    have hseconds : 0 < 86400 := by decide
    exact totalOf_sliceLines hseconds hvalid hlines
  rw [List.map_congr_left hhour, sum_const_range, hday]
  induction dayRates rows snapshot interval version day with
  | nil => simp
  | cons rate rest ih =>
      simp only [List.map_cons, List.sum_cons, Nat.cast_ofNat] at ih ⊢
      rw [← ih]
      ring

/-- A sum of fewer than 24 rials a term. -/
theorem abs_sum_lt {values : List ℤ} (h : ∀ value ∈ values, |value| < 24) :
    |values.sum| < 24 * values.length ∨ values.sum = 0 := by
  have hbound : |values.sum| ≤ 23 * values.length := by
    induction values with
    | nil => simp
    | cons value rest ih =>
        have hvalue := h value (by simp)
        have hrest := ih fun later hlater => h later (by simp [hlater])
        have habs := abs_add_le value rest.sum
        simp only [List.sum_cons, List.length_cons]
        push_cast
        omega
  cases values with
  | nil => exact .inr rfl
  | cons value rest =>
      refine .inl (hbound.trans_lt ?_)
      simp only [List.length_cons]
      push_cast
      omega

/-- A day whose rates all have neutral terms is settled alike. -/
theorem settlesAlike_of_neutral {rows : TimelineRows} {snapshot : PolicySnapshot}
    {interval : UsageInterval} {version : ResourceVersion} {day : ℤ}
    (h : FullDay rows snapshot interval version day)
    (hneutral : ∀ rate ∈ dayRates rows snapshot interval version day,
      rate.toTimeTerms.CadenceNeutral) :
    SettlesAlike rows snapshot day (dayRates rows snapshot interval version day).length := by
  intro hours lines hhours hlines
  have hsum := @abs_sum_lt ((dayRates rows snapshot interval version day).map fun rate =>
    24 * rate.chargeFor version.toResourceQuantitySnapshot 3600 -
      rate.chargeFor version.toResourceQuantitySnapshot 86400) (by
    intro value hvalue
    obtain ⟨rate, hrate, rfl⟩ := List.mem_map.1 hvalue
    exact chargeFor_neutral (hneutral rate hrate) _)
  rw [← difference_eq h hhours hlines, List.length_map] at hsum
  exact hsum

/-! ## A day that shows the difference

One service for a day, at a price of 25 rials for the smallest part of a unit. -/

def daySnapshot (terms : TimeTerms) : PolicySnapshot where
  id := "snapshot"
  cloudInstanceId := "instance"
  activationRequestId := none
  cadence := .hourly
  timeTerms := terms
  hourlyEstimateRial := none
  dailyEstimateRial := none
  minimumCreditRial := 0
  gracePeriods := 0
  lowBalanceThresholdPeriods := 1
  stopStateComponentPolicy := ⟨false, false, false, false, false, false⟩
  effectiveFrom := 0
  effectiveTo := none
  idempotencyKey := "snapshot"

def dayVersion : ResourceVersion where
  toResourceQuantitySnapshot := ⟨.active, 1, 1024, 0, 0, false, 0⟩
  id := "version"
  cloudInstanceId := "instance"
  planId := "plan"
  provider := .arvan
  sourceChangeRequestId := none
  effectiveFrom := 0
  effectiveTo := none
  idempotencyKey := "version"

def dayInterval : UsageInterval where
  id := "interval"
  cloudInstanceId := "instance"
  resourceVersionId := "version"
  billingPolicySnapshotId := "snapshot"
  status := .open
  startedAt := 0
  endedAt := none
  idempotencyKey := "interval"

def dayRate (terms : TimeTerms) : RateCardVersion where
  id := "rate"
  planId := some "plan"
  provider := .arvan
  providerApiVersion := "v1"
  productKind := .cloudServer
  externalPlanId := "g2"
  regionCode := "ir-1"
  component := .compute
  resourceUnit := .inst
  rateCadence := none
  toTimeTerms := terms
  providerCurrency := "IRR"
  providerAmountUnit := "RIAL"
  normalizedProviderRial := 0
  customerRateRial := 25 * (terms.units 3600).denominator
  markupBasisPoints := 0
  effectiveFrom := 0
  effectiveTo := none
  idempotencyKey := "rate"

def dayRows (terms : TimeTerms) : TimelineRows where
  instances := [⟨"instance", "user", "plan", .arvan, none, .active⟩]
  snapshots := [daySnapshot terms]
  rates := [dayRate terms]
  versions := [dayVersion]
  intervals := [dayInterval]

theorem dayRows_fullDay (terms : TimeTerms) :
    FullDay (dayRows terms) (daySnapshot terms) dayInterval dayVersion 0 where
  inForce := ⟨show (0 : ℤ) ≤ 0 by decide, by simp [daySnapshot]⟩
  alone := by
    simp [TimelineRows.intervalsOf, dayRows, dayInterval, daySnapshot, fullPeriod, Period.span,
      periodMilliseconds]
  complete := by decide
  used := ⟨by decide, by simp [dayInterval]⟩
  refers := rfl
  resource := ⟨by decide, by simp [dayVersion]⟩
  rates := by
    intro rate hrate _ _ _
    obtain rfl := List.mem_singleton.1 hrate
    exact ⟨rfl, show (0 : ℤ) ≤ 0 by decide, by simp [dayRate]⟩

theorem dayRows_rates (terms : TimeTerms) :
    dayRates (dayRows terms) (daySnapshot terms) dayInterval dayVersion 0 = [dayRate terms] := by
  simp [dayRates, TimelineRows.ratesOf, dayRows, dayRate, dayVersion, daySnapshot,
    requiredBillableComponents, fullPeriod, Period.span, periodMilliseconds]

/-- The quantity of the day's rate. -/
theorem dayRate_quantity (terms : TimeTerms) (seconds : ℕ) :
    (dayRate terms).quantity seconds ⟨1, 1⟩ = terms.units seconds := by
  simp [CalculableRate.quantity, Factor.times, dayRate]

theorem dayRows_lines (terms : TimeTerms) (cadence : BillingCadence) {period : Period}
    {seconds : ℕ} (hseconds : 0 < seconds)
    (hstart : 0 ≤ period.periodStart) (hstop : period.periodEnd ≤ 86400000)
    (hperiod : period.span = ⟨period.periodStart, period.periodStart + seconds * 1000⟩) :
    ∃ lines, lineDrafts (dayRows terms) (daySnapshot terms) cadence
      (targetOf (daySnapshot terms) period) = .ok lines := by
  have hend : period.periodEnd = period.periodStart + seconds * 1000 := congrArg Span.stop hperiod
  have hfull := dayRows_fullDay terms
  rw [hfull.lineDrafts_eq cadence (by simpa [fullPeriod] using hstart) (by omega)
    (by simpa [fullPeriod, periodMilliseconds] using hstop), dayRows_rates, hperiod]
  let usage : BoundedUsage :=
    ⟨⟨period.periodStart, period.periodStart + seconds * 1000⟩, dayInterval, dayVersion⟩
  have hdenominator := terms.units_denominator_pos 3600
  have hquantity := @CalculableRate.quantity_pos (dayRate terms).toCalculableRate seconds ⟨1, 1⟩
    Int.one_nonneg Int.one_pos
  have hprice : 0 ≤ (dayRate terms).customerRateRial := by
    simp only [dayRate]
    omega
  have hline := (@rateLine_eq_ok usage period.periodStart seconds hseconds (dayRate terms) _).2
    ⟨show Js.trim "IRR" ≠ "" ∧ Js.trim "RIAL" ≠ "" by decide, ⟨le_rfl, hprice, le_rfl⟩, ⟨1, 1⟩, rfl,
      Factor.charge_mono hquantity.1 hquantity.2 hprice, rfl⟩
  have hactive : activeRates [dayRate terms] usage.toSpan = [dayRate terms] := by
    simp [activeRates, dayRate, usage, hstart]
  have hreview : rateReview (requiredBillableComponents dayVersion.toResourceQuantitySnapshot
      (daySnapshot terms).stopStateComponentPolicy) [dayRate terms] = none := by
    simp [rateReview, requiredBillableComponents, dayVersion, dayRate, sameUnit]
  have hslice : sliceLines (requiredBillableComponents dayVersion.toResourceQuantitySnapshot
      (daySnapshot terms).stopStateComponentPolicy) [dayRate terms] usage usage.toSpan =
        collect (rateLine usage usage.toSpan) [dayRate terms] := by
    simp only [sliceLines, hactive, hreview]
  exact ⟨_, hslice.trans (collect_singleton.trans hline)⟩

theorem dayRate_charge (terms : TimeTerms) (seconds : ℕ) :
    (dayRate terms).chargeFor dayVersion.toResourceQuantitySnapshot seconds =
      25 * (terms.units seconds).numerator := by
  have hpositive := terms.units_denominator_pos seconds
  show ((dayRate terms).quantity seconds ⟨1, 1⟩).charge _ = _
  rw [dayRate_quantity, Factor.charge]
  have hprice : (dayRate terms).customerRateRial = 25 * (terms.units seconds).denominator := by
    rw [units_denominator terms seconds 3600]
    rfl
  rw [hprice]
  have hsum : 25 * (terms.units seconds).denominator * (terms.units seconds).numerator +
      (terms.units seconds).denominator - 1 = (terms.units seconds).denominator - 1 +
      25 * (terms.units seconds).numerator * (terms.units seconds).denominator := by ring
  rw [hsum, Int.add_mul_ediv_right _ _ hpositive.ne',
    Int.ediv_eq_zero_of_lt (by omega) (by omega), zero_add]

/-- Terms whose days are settled alike are neutral. -/
theorem neutral_of_settlesAlike {terms : TimeTerms}
    (h : SettlesAlike (dayRows terms) (daySnapshot terms) 0 1) : terms.CadenceNeutral := by
  have hhour (hour : ℕ) (hhour : hour < 24) : ∃ lines, lineDrafts (dayRows terms)
      (daySnapshot terms) .hourly (targetOf (daySnapshot terms) (hourOf 0 hour)) = .ok lines := by
    have hseconds : 0 < 3600 := by decide
    refine dayRows_lines terms .hourly hseconds ?_ ?_ (fullPeriod_span _ _)
    all_goals
      simp only [hourOf, fullPeriod, periodMilliseconds]
      omega
  choose! hours hhours using hhour
  obtain ⟨lines, hlines⟩ := @dayRows_lines terms .daily (fullPeriod .daily 0) 86400 (by decide)
    (by decide) (by decide) (fullPeriod_span _ _)
  have hdifference := difference_eq (dayRows_fullDay terms) hhours hlines
  rw [dayRows_rates, List.map_singleton, List.sum_singleton, dayRate_charge, dayRate_charge]
    at hdifference
  have halike := h hours lines hhours hlines
  simp only [hdifference] at halike
  rw [units_day_iff]
  rcases halike with hsmall | hzero
  · rw [abs_lt] at hsmall
    omega
  · omega

/-- **Settlement by the hour and by the day agree exactly for neutral time terms.** -/
theorem settles_alike_iff (allowed : Set TimeTerms) :
    (∀ (rows : TimelineRows) (snapshot : PolicySnapshot) (interval : UsageInterval)
      (version : ResourceVersion) (day : ℤ), FullDay rows snapshot interval version day →
      (∀ rate ∈ dayRates rows snapshot interval version day, rate.toTimeTerms ∈ allowed) →
      SettlesAlike rows snapshot day (dayRates rows snapshot interval version day).length) ↔
    ∀ terms ∈ allowed, terms.CadenceNeutral := by
  constructor
  · intro h terms hterms
    have halike := h _ _ _ _ _ (dayRows_fullDay terms) (by
      rw [dayRows_rates]
      intro rate hrate
      obtain rfl := List.mem_singleton.1 hrate
      exact hterms)
    rw [dayRows_rates] at halike
    exact neutral_of_settlesAlike halike
  · intro h rows snapshot interval version day hfull hallowed
    exact settlesAlike_of_neutral hfull fun rate hrate => h _ (hallowed rate hrate)

/-- Under whole days a service of one hour a day is charged a day every hour. -/
theorem not_always_settles_alike :
    ¬ ∀ (rows : TimelineRows) (snapshot : PolicySnapshot) (interval : UsageInterval)
      (version : ResourceVersion) (day : ℤ), FullDay rows snapshot interval version day →
      SettlesAlike rows snapshot day (dayRates rows snapshot interval version day).length := by
  intro h
  have halike := h _ _ _ _ _ (dayRows_fullDay ⟨.day, 0, .ceilUnit, true⟩)
  rw [dayRows_rates] at halike
  have hneutral := neutral_of_settlesAlike halike
  revert hneutral
  simp [TimeTerms.CadenceNeutral]

end AbrChin.Billing
