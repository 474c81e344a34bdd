import AbrChin.Billing.Once

/-!
# The backlog of a cadence

What `listClosedBillingPeriodsForCatchUp` is for: the closed periods of a cadence in which a
policy snapshot is in force and whose run is not over.  `Outstanding` says so without the
loop; the loop lists the first of them, in order.

The argument is about one step of the loop.  A period that it passes is outstanding or not by
the tests it makes; a gap that it jumps over has no outstanding period, because a snapshot in
force there would be in force in the period before the jump, or begin after it.
-/

namespace AbrChin.Billing

/-- Some instant of the period is in the window of the snapshot. -/
def PolicySnapshot.Meets (snapshot : PolicySnapshot) (period : Period) : Prop :=
  ∃ instant, period.periodStart ≤ instant ∧ instant < period.periodEnd ∧
    snapshot.effectiveFrom ≤ instant ∧ ∀ stop ∈ snapshot.effectiveTo, instant < stop

/-- A period of the cadence. -/
def Period.Aligned (cadence : BillingCadence) (period : Period) : Prop :=
  periodMilliseconds cadence ∣ period.periodStart ∧
    period.periodEnd = period.periodStart + periodMilliseconds cadence

/-- A closed period that a snapshot meets and that has no completed or partial run. -/
structure Outstanding (db : BillingDb) (cadence : BillingCadence) (now : ℤ) (period : Period) :
    Prop where
  aligned : period.Aligned cadence
  closed : period.periodEnd ≤ now
  used : ∃ snapshot ∈ db.timeline.snapshots, snapshot.cadence = cadence ∧ snapshot.Meets period
  unsettled : ∀ run ∈ db.runs.rows, run.key.cadence = cadence → run.key.period = period →
    run.status.terminal = false

/-- A list of the first `limit` periods that are wanted, in order. -/
structure FirstOf (wanted : Period → Prop) (limit : ℕ) (periods : List Period) : Prop where
  ordered : periods.Pairwise fun first second => first.periodStart < second.periodStart
  sound : ∀ period ∈ periods, wanted period
  length : periods.length ≤ limit
  /-- What is left out comes after a full list. -/
  complete : ∀ period, wanted period → period ∉ periods →
    periods.length = limit ∧ ∀ listed ∈ periods, listed.periodStart < period.periodStart

/-! ## Windows and periods -/

variable {cadence : BillingCadence} {period : Period}

/-- The test of the loop says whether a window meets a period. -/
theorem PolicySnapshot.meets_iff {snapshot : PolicySnapshot}
    (hrange : ∀ stop ∈ snapshot.effectiveTo, snapshot.effectiveFrom < stop)
    (hperiod : period.periodStart < period.periodEnd) :
    snapshot.Meets period ↔ snapshot.effectiveFrom < period.periodEnd ∧
      snapshot.effectiveTo.all (period.periodStart < ·) = true := by
  rw [Option.all_eq_true]
  constructor
  · rintro ⟨instant, hfrom, hto, hbegun, hopen⟩
    refine ⟨by omega, fun stop hstop => decide_eq_true ?_⟩
    have := hopen stop hstop
    omega
  · rintro ⟨hbefore, hafter⟩
    refine ⟨max period.periodStart snapshot.effectiveFrom, by omega, by omega, by omega,
      fun stop hstop => ?_⟩
    have := of_decide_eq_true (hafter stop hstop)
    have := hrange stop hstop
    omega

/-- Two periods of a cadence, the first not before the second. -/
theorem le_of_lt_end {first second : ℤ} (hfirst : periodMilliseconds cadence ∣ first)
    (hsecond : periodMilliseconds cadence ∣ second)
    (h : first < second + periodMilliseconds cadence) : first ≤ second := by
  obtain ⟨m, rfl⟩ := hfirst
  obtain ⟨n, rfl⟩ := hsecond
  have hpositive := periodMilliseconds_pos cadence
  have hlt : m < n + 1 := by
    refine lt_of_mul_lt_mul_left ?_ hpositive.le
    rw [mul_add, mul_one]
    exact h
  exact mul_le_mul_of_nonneg_left (by omega) hpositive.le

/-- The period of an instant begins at or before it, and less than a period before. -/
theorem periodContainingUtc_bounds (cadence : BillingCadence) (instant : ℤ) :
    periodMilliseconds cadence ∣ (periodContainingUtc cadence instant).periodStart ∧
      (periodContainingUtc cadence instant).periodStart ≤ instant ∧
      instant < (periodContainingUtc cadence instant).periodStart + periodMilliseconds cadence := by
  have hpositive := periodMilliseconds_pos cadence
  have hnonneg := Int.emod_nonneg instant hpositive.ne'
  have hlt := Int.emod_lt_of_pos instant hpositive
  refine ⟨Int.dvd_self_sub_emod .., ?_, ?_⟩
  · show instant - instant % periodMilliseconds cadence ≤ instant
    omega
  · show instant < instant - instant % periodMilliseconds cadence + periodMilliseconds cadence
    omega

/-- A snapshot that meets a period begins in it, or in one before it. -/
theorem periodContainingUtc_le {snapshot : PolicySnapshot} (haligned : period.Aligned cadence)
    (hbefore : snapshot.effectiveFrom < period.periodEnd) :
    (periodContainingUtc cadence snapshot.effectiveFrom).periodStart ≤ period.periodStart := by
  obtain ⟨hdvd, hle, -⟩ := periodContainingUtc_bounds cadence snapshot.effectiveFrom
  rw [haligned.2] at hbefore
  exact le_of_lt_end hdvd haligned.1 (by omega)

/-! ## Lists of the first periods -/

section FirstOf

variable {wanted wanted' : Period → Prop} {limit : ℕ} {periods : List Period}

theorem FirstOf.nil (h : (∀ period, ¬ wanted period) ∨ limit = 0) : FirstOf wanted limit [] where
  ordered := List.Pairwise.nil
  sound := by simp
  length := Nat.zero_le _
  complete := by
    intro period hperiod _
    rcases h with hnone | rfl
    · exact absurd hperiod (hnone period)
    · exact ⟨rfl, by simp⟩

theorem FirstOf.congr (h : FirstOf wanted limit periods) (hsame : ∀ period, wanted' period ↔ wanted period) :
    FirstOf wanted' limit periods where
  ordered := h.ordered
  sound := fun period hperiod => (hsame period).2 (h.sound period hperiod)
  length := h.length
  complete := fun period hperiod => h.complete period ((hsame period).1 hperiod)

/-- The first wanted period, and the list of those after it. -/
theorem FirstOf.cons (h : FirstOf wanted (limit - 1) periods) (hlimit : limit ≠ 0) {first : Period}
    (hlater : ∀ period, wanted period → first.periodStart < period.periodStart)
    (hsame : ∀ period, wanted' period ↔ period = first ∨ wanted period) :
    FirstOf wanted' limit (first :: periods) where
  ordered := List.pairwise_cons.2 ⟨fun period hperiod => hlater period (h.sound period hperiod), h.ordered⟩
  sound := by
    intro period hperiod
    rcases List.mem_cons.1 hperiod with rfl | hperiod
    · exact (hsame _).2 (.inl rfl)
    · exact (hsame _).2 (.inr (h.sound period hperiod))
  length := by
    have := h.length
    simp only [List.length_cons]
    omega
  complete := by
    intro period hperiod hleft
    simp only [List.mem_cons, not_or] at hleft
    have hwanted := ((hsame period).1 hperiod).resolve_left hleft.1
    obtain ⟨hfull, hafter⟩ := h.complete period hwanted hleft.2
    refine ⟨by simp only [List.length_cons]; omega, fun listed hlisted => ?_⟩
    rcases List.mem_cons.1 hlisted with rfl | hlisted
    · exact hlater period hwanted
    · exact hafter listed hlisted

end FirstOf

/-! ## The loop -/

/-- The test of the loop. -/
def usedBy (snapshots : List PolicySnapshot) (period : Period) : Prop :=
  ∃ row ∈ snapshots, row.effectiveFrom < period.periodEnd ∧
    row.effectiveTo.all (period.periodStart < ·) = true

/-- What the loop still has to list from `periodStart` on. -/
structure Remaining (cadence : BillingCadence) (snapshots : List PolicySnapshot)
    (completed : List Period) (latestEnd periodStart : ℤ) (period : Period) : Prop where
  aligned : period.Aligned cadence
  from_ : periodStart ≤ period.periodStart
  closed : period.periodEnd ≤ latestEnd
  used : usedBy snapshots period
  unsettled : period ∉ completed

section Loop

variable {snapshots : List PolicySnapshot} {completed : List Period} {latestEnd periodStart : ℤ}

/-- A period of the cadence is the current one or comes after it. -/
theorem Remaining.current_or_later (h : Remaining cadence snapshots completed latestEnd periodStart period)
    (hstart : periodMilliseconds cadence ∣ periodStart) :
    period = ⟨periodStart, periodStart + periodMilliseconds cadence⟩ ∨
      Remaining cadence snapshots completed latestEnd (periodStart + periodMilliseconds cadence)
        period := by
  obtain ⟨hdvd, hend⟩ := h.aligned
  by_cases hcurrent : period.periodStart < periodStart + periodMilliseconds cadence
  · have hle := le_of_lt_end hdvd hstart hcurrent
    have hfrom := h.from_
    left
    cases period
    simp only [Period.mk.injEq] at *
    omega
  · exact .inr ⟨h.aligned, not_lt.1 hcurrent, h.closed, h.used, h.unsettled⟩

theorem Remaining.earlier {later : ℤ} (h : Remaining cadence snapshots completed latestEnd later period)
    (hle : periodStart ≤ later) : Remaining cadence snapshots completed latestEnd periodStart period :=
  ⟨h.aligned, hle.trans h.from_, h.closed, h.used, h.unsettled⟩

/-- **A gap holds nothing that remains**: what is left after a period without usage is in or
after the period of the next snapshot. -/
theorem Remaining.after_gap (h : Remaining cadence snapshots completed latestEnd periodStart period)
    (hgap : ¬ usedBy snapshots ⟨periodStart, periodStart + periodMilliseconds cadence⟩) :
    ∃ row ∈ snapshots, periodStart + periodMilliseconds cadence ≤ row.effectiveFrom ∧
      row.effectiveFrom < period.periodEnd := by
  obtain ⟨row, hrow, hbefore, hafter⟩ := h.used
  refine ⟨row, hrow, ?_, hbefore⟩
  -- a window that began before the end of the gap would have been open in it
  by_contra hbegun
  refine hgap ⟨row, hrow, not_le.1 hbegun, (Option.all_eq_true _ _).2 fun stop hstop => ?_⟩
  have hopen := of_decide_eq_true ((Option.all_eq_true _ _).1 hafter stop hstop)
  have hfrom := h.from_
  show decide (periodStart < stop) = true
  exact decide_eq_true (by omega)

/-- In a sorted list the first snapshot with a property begins no later than any other. -/
theorem find?_le_of_sorted {p : PolicySnapshot → Bool} {first row : PolicySnapshot}
    (hsorted : snapshots.Pairwise fun left right => left.effectiveFrom ≤ right.effectiveFrom)
    (hfirst : snapshots.find? p = some first) (hrow : row ∈ snapshots) (hp : p row = true) :
    first.effectiveFrom ≤ row.effectiveFrom := by
  obtain ⟨-, before, after, rfl, hbefore⟩ := List.find?_eq_some_iff_append.1 hfirst
  rcases List.mem_append.1 hrow with hrow | hrow
  · have := hbefore row hrow
    simp [hp] at this
  · rcases List.mem_cons.1 hrow with rfl | hrow
    · exact le_rfl
    · exact (List.pairwise_cons.1 (List.pairwise_append.1 hsorted).2.1).1 row hrow

/-- **The loop lists the first of what remains.** -/
theorem closedPeriodsFrom_firstOf {limit : ℕ}
    (hsorted : snapshots.Pairwise fun left right => left.effectiveFrom ≤ right.effectiveFrom)
    (hstart : periodMilliseconds cadence ∣ periodStart)
    (hstop : periodMilliseconds cadence ∣ latestEnd) :
    FirstOf (Remaining cadence snapshots completed latestEnd periodStart) limit
      (closedPeriodsFrom cadence snapshots completed latestEnd limit periodStart) := by
  have hpositive := periodMilliseconds_pos cadence
  fun_induction closedPeriodsFrom cadence snapshots completed latestEnd limit periodStart with
  | case1 limit periodStart hmore current hwindow hdone ih =>
      refine (ih (dvd_add_self_right.2 hstart)).congr fun period => ⟨fun h => ?_, fun h => ?_⟩
      · rcases h.current_or_later hstart with rfl | hlater
        · exact absurd hdone h.unsettled
        · exact hlater
      · exact h.earlier (by show periodStart ≤ periodStart + periodMilliseconds cadence; omega)
  | case2 limit periodStart hmore current hwindow hopen ih =>
      refine (ih (dvd_add_self_right.2 hstart)).cons hmore.2 (fun period h => ?_) fun period =>
        ⟨fun h => h.current_or_later hstart, ?_⟩
      · have hfrom : periodStart + periodMilliseconds cadence ≤ period.periodStart := h.from_
        show periodStart < period.periodStart
        omega
      · rintro (rfl | h)
        · -- the current period ends at or before the end, which is a boundary too
          have hend : periodStart + periodMilliseconds cadence ≤ latestEnd :=
            le_of_lt_end (dvd_add_self_right.2 hstart) hstop (by have := hmore.1; omega)
          refine ⟨⟨hstart, rfl⟩, le_rfl, hend, ?_, hopen⟩
          obtain ⟨row, hrow, htest⟩ := List.any_eq_true.1 hwindow
          exact ⟨row, hrow, of_decide_eq_true htest⟩
        · exact h.earlier (by show periodStart ≤ periodStart + periodMilliseconds cadence; omega)
  | case3 limit periodStart hmore current hwindow hnone =>
      refine FirstOf.nil (.inl fun period h => ?_)
      have hgap : ¬ usedBy snapshots current := by
        rintro ⟨row, hrow, htest⟩
        exact hwindow (List.any_eq_true.2 ⟨row, hrow, decide_eq_true htest⟩)
      obtain ⟨row, hrow, hlater, -⟩ := h.after_gap hgap
      have := List.find?_eq_none.1 hnone row hrow
      simp [hlater, current] at this
  | case4 limit periodStart hmore current hwindow next hnext ih =>
      have hgap : ¬ usedBy snapshots current := by
        rintro ⟨row, hrow, htest⟩
        exact hwindow (List.any_eq_true.2 ⟨row, hrow, decide_eq_true htest⟩)
      obtain ⟨hdvd, hle, hlt⟩ := periodContainingUtc_bounds cadence next.effectiveFrom
      have hafter : current.periodEnd ≤ next.effectiveFrom := by simpa using List.find?_some hnext
      refine (ih hdvd).congr fun period => ⟨fun h => ?_, fun h => ?_⟩
      · obtain ⟨row, hrow, hlater, hbefore⟩ := h.after_gap hgap
        -- the next snapshot is the first one that begins after the gap
        have hfirst : next.effectiveFrom ≤ row.effectiveFrom :=
          find?_le_of_sorted hsorted hnext hrow (decide_eq_true hlater)
        exact ⟨h.aligned, periodContainingUtc_le h.aligned (hfirst.trans_lt hbefore), h.closed,
          h.used, h.unsettled⟩
      · refine h.earlier ?_
        have hcurrent : current.periodEnd = periodStart + periodMilliseconds cadence := rfl
        exact le_of_lt_end hstart hdvd (by omega)
  | case5 limit periodStart hdone =>
      refine FirstOf.nil ?_
      by_cases hlimit : limit = 0
      · exact .inr hlimit
      · refine .inl fun period h => hdone ⟨?_, hlimit⟩
        have hend := h.aligned.2
        have hfrom := h.from_
        have hclosed := h.closed
        omega

end Loop

/-! ## The listing -/

/-- **Catch-up is complete and in order.** -/
theorem listClosedBillingPeriods_firstOf (cadence : BillingCadence) (now : ℤ) (limit : ℕ)
    (db : BillingDb) : FirstOf (Outstanding db cadence now) limit
      (listClosedBillingPeriodsForCatchUp cadence now limit db) := by
  have hpositive := periodMilliseconds_pos cadence
  obtain ⟨hlatest, hle, hlt⟩ := periodContainingUtc_bounds cadence now
  set latestEnd := (latestClosedPeriodUtc cadence now).periodEnd with hlatestEnd
  have hlatestEnd' : latestEnd = (periodContainingUtc cadence now).periodStart := rfl
  set snapshots := (db.timeline.snapshots.filter fun row => row.cadence = cadence ∧
    row.effectiveFrom < latestEnd).insertionSort fun left right =>
      left.effectiveFrom ≤ right.effectiveFrom with hsnapshots
  have hmem : ∀ row, row ∈ snapshots ↔
      row ∈ db.timeline.snapshots ∧ row.cadence = cadence ∧ row.effectiveFrom < latestEnd := by
    simp [hsnapshots]
  have hsorted : snapshots.Pairwise fun left right => left.effectiveFrom ≤ right.effectiveFrom :=
    List.pairwise_insertionSort _ _
  -- an aligned period is closed when it ends by the end of the latest closed one
  have hclosed : ∀ period : Period, period.Aligned cadence →
      (period.periodEnd ≤ now ↔ period.periodEnd ≤ latestEnd) := by
    intro period haligned
    have hend : periodMilliseconds cadence ∣ period.periodEnd := by
      rw [haligned.2]
      exact dvd_add_self_right.2 haligned.1
    constructor
    · intro h
      exact le_of_lt_end hend hlatest (by omega)
    · intro h
      omega
  have hused : ∀ period : Period, period.Aligned cadence → period.periodEnd ≤ latestEnd →
      ((∃ snapshot ∈ db.timeline.snapshots, snapshot.cadence = cadence ∧ snapshot.Meets period) ↔
        usedBy snapshots period) := by
    intro period haligned hend
    have hforward : period.periodStart < period.periodEnd := by
      have := haligned.2
      omega
    have hranges := db.timeline.valid.snapshotRanges
    constructor
    · rintro ⟨row, hrow, hcadence, hmeets⟩
      have htest := (PolicySnapshot.meets_iff (fun stop hstop => hranges row hrow stop hstop) hforward).1
        hmeets
      exact ⟨row, (hmem row).2 ⟨hrow, hcadence, by omega⟩, htest⟩
    · rintro ⟨row, hrow, htest⟩
      obtain ⟨hrow, hcadence, -⟩ := (hmem row).1 hrow
      exact ⟨row, hrow, hcadence, (PolicySnapshot.meets_iff
        (fun stop hstop => hranges row hrow stop hstop) hforward).2 htest⟩
  unfold listClosedBillingPeriodsForCatchUp
  simp only
  rw [← hlatestEnd, ← hsnapshots]
  cases hrows : snapshots with
  | nil =>
      refine FirstOf.nil (.inl fun period h => ?_)
      obtain ⟨row, hrow, -⟩ := (hused period h.aligned ((hclosed period h.aligned).1 h.closed)).1 h.used
      rw [hrows] at hrow
      cases hrow
  | cons earliest rest =>
      obtain ⟨hfirst, hfirstLe, -⟩ := periodContainingUtc_bounds cadence earliest.effectiveFrom
      dsimp only
      rw [← hrows]
      refine (closedPeriodsFrom_firstOf hsorted hfirst hlatest).congr fun period => ⟨fun h => ?_, fun h => ?_⟩
      · have hend := (hclosed period h.aligned).1 h.closed
        have husage := (hused period h.aligned hend).1 h.used
        obtain ⟨row, hrow, hbefore, -⟩ := husage
        have hearliest : earliest.effectiveFrom ≤ row.effectiveFrom := by
          rw [hrows] at hsorted hrow
          rcases List.mem_cons.1 hrow with rfl | hrow
          · exact le_rfl
          · exact (List.pairwise_cons.1 hsorted).1 row hrow
        refine ⟨h.aligned, periodContainingUtc_le h.aligned (hearliest.trans_lt hbefore), hend,
          (hused period h.aligned hend).1 h.used, fun hdone => ?_⟩
        obtain ⟨run, hrun, rfl⟩ := List.mem_map.1 hdone
        obtain ⟨hrun, hkeep⟩ := List.mem_filter.1 hrun
        obtain ⟨hcadence, -, -, -, hover⟩ := of_decide_eq_true hkeep
        rw [h.unsettled run hrun hcadence rfl] at hover
        cases hover
      · have hforward := h.aligned.2
        refine ⟨h.aligned, (hclosed period h.aligned).2 h.closed,
          (hused period h.aligned h.closed).2 h.used, fun run hrun hcadence hperiod => ?_⟩
        by_contra hover
        refine h.unsettled (List.mem_map.2 ⟨run, List.mem_filter.2 ⟨hrun, decide_eq_true ?_⟩, hperiod⟩)
        have hclosed' := h.closed
        rw [hperiod]
        exact ⟨hcadence, h.from_, by omega, hclosed', Bool.not_eq_false _ ▸ hover⟩

/-- **A worker that catches up never tries a period that settlement refuses**: what it lists has
ended, has the length of its cadence, and begins at an hour or a day. -/
theorem validatePeriod_of_listed {now : ℤ} {limit : ℕ} {seen : BillingDb}
    (h : period ∈ listClosedBillingPeriodsForCatchUp cadence now limit seen)
    (workerId runId : String) (newId : String → String) :
    validatePeriod ⟨cadence, period, workerId, now, runId, newId⟩ = .ok () := by
  unfold listClosedBillingPeriodsForCatchUp at h
  simp only at h
  split at h
  · cases h
  next =>
    have hpositive := periodMilliseconds_pos cadence
    obtain ⟨hlatest, hle, -⟩ := periodContainingUtc_bounds cadence now
    obtain ⟨⟨hdvd, hend⟩, -, hclosed, -, -⟩ := (closedPeriodsFrom_firstOf
      (List.pairwise_insertionSort _ _) (periodContainingUtc_bounds ..).1 hlatest).sound _ h
    have hnow : period.periodEnd ≤ now := hclosed.trans hle
    refine validatePeriod_eq_ok.2 ⟨⟨?_, hnow⟩, ?_, ?_, ?_⟩
    · show period.periodStart < period.periodEnd
      omega
    · show period.periodEnd - period.periodStart = periodMilliseconds cadence
      omega
    · refine Int.emod_eq_zero_of_dvd (dvd_trans ?_ hdvd)
      cases cadence <;> decide
    · rintro rfl
      exact Int.emod_eq_zero_of_dvd hdvd

theorem validatePeriod_of_listed_hour : validatePeriod ⟨.hourly, ⟨3600000, 7200000⟩, "worker",
    7200000, "run", id⟩ = .ok () :=
  @validatePeriod_of_listed _ ⟨3600000, 7200000⟩ 7200000 2 { sampleDb with timeline := sampleStarted }
    (by decide +kernel) "worker" "run" id

end AbrChin.Billing
