import AbrChin.Billing.Live

/-!
# Whole seconds

A line is calculated for a whole number of seconds, and a slice that does not last for
one makes the transaction of the period fail for every service.  The ends of slices are
ends of periods, of policy snapshots, resource versions and usage intervals, and of rate
cards.  Periods and changes of cadence are on hours; a confirmation is at any
millisecond that the provider reports.  While confirmations and rate cards are on whole
seconds, everything is (`WholeSeconds`), and no settlement is refused.
-/

namespace AbrChin.Billing

open Lib Wallet Relation

/-! ## A timeline on whole seconds -/

/-- Both ends are whole seconds. -/
def WholeRange (start : ℤ) (stop : Option ℤ) : Prop := 1000 ∣ start ∧ ∀ until_ ∈ stop, 1000 ∣ until_

instance (start : ℤ) (stop : Option ℤ) : Decidable (WholeRange start stop) :=
  inferInstanceAs (Decidable (_ ∧ ∀ until_ ∈ stop, 1000 ∣ until_))

/-- Everything in the timeline begins and ends on a whole second. -/
structure WholeSeconds (rows : TimelineRows) : Prop where
  snapshots : ∀ row ∈ rows.snapshots, WholeRange row.effectiveFrom row.effectiveTo
  versions : ∀ row ∈ rows.versions, WholeRange row.effectiveFrom row.effectiveTo
  intervals : ∀ row ∈ rows.intervals, WholeRange row.startedAt row.endedAt

/-- The customer pays at least what the provider is paid. -/
def RateCardVersion.CoversCost (rate : RateCardVersion) : Prop :=
  0 ≤ rate.normalizedProviderRial ∧ rate.normalizedProviderRial ≤ rate.customerRateRial

/-- A rate card begins and ends on a whole second, and is not for metered traffic. -/
def RateCardVersion.Sliceable (rate : RateCardVersion) : Prop :=
  WholeRange rate.effectiveFrom rate.effectiveTo ∧ rate.resourceUnit ≠ .gbTraffic

instance (rate : RateCardVersion) : Decidable rate.CoversCost := inferInstanceAs (Decidable (_ ∧ _))

instance (rate : RateCardVersion) : Decidable rate.Sliceable := inferInstanceAs (Decidable (_ ∧ _))

theorem wholeRange_open {start : ℤ} (h : 1000 ∣ start) : WholeRange start none := ⟨h, nofun⟩

theorem whole_periodMilliseconds (cadence : BillingCadence) :
    (1000 : ℤ) ∣ periodMilliseconds cadence := by
  cases cadence <;> decide

/-- Boundaries of a cadence are whole seconds. -/
theorem whole_periodStart (cadence : BillingCadence) (instant : ℤ) :
    1000 ∣ (periodContainingUtc cadence instant).periodStart :=
  (whole_periodMilliseconds cadence).trans (Int.dvd_self_sub_emod ..)

/-! ### What the writers of the timeline keep -/

section Writers

variable {timeline timeline' : Timeline}

theorem WholeSeconds.start (h : WholeSeconds timeline.toTimelineRows) {input : StartInput}
    {result : Option PolicySnapshot} (hwhole : 1000 ∣ input.providerConfirmedAt)
    (hcommit : Tx.Commits (startInitialUsageBillingTx input) timeline result timeline') :
    WholeSeconds timeline'.toTimelineRows := by
  rcases commits_start hcommit with rfl | ⟨activation, cloud, contract, terms, resources, -, -, -, -,
    -, hrows⟩
  · exact h
  rw [hrows]
  constructor
  · intro row hrow
    rcases List.mem_append.1 hrow with hrow | hrow
    · exact h.snapshots row hrow
    · obtain rfl := List.mem_singleton.1 hrow
      exact wholeRange_open hwhole
  · intro row hrow
    rcases List.mem_append.1 hrow with hrow | hrow
    · exact h.versions row hrow
    · obtain rfl := List.mem_singleton.1 hrow
      exact wholeRange_open hwhole
  · intro row hrow
    rcases List.mem_append.1 hrow with hrow | hrow
    · exact h.intervals row hrow
    · obtain rfl := List.mem_singleton.1 hrow
      exact wholeRange_open hwhole

/-- Cutting and moving intervals at a whole second keeps them on whole seconds. -/
theorem wholeRange_recut {current version : ResourceVersion} {instant : ℤ} (hwhole : 1000 ∣ instant)
    {row : UsageInterval} (h : WholeRange row.startedAt row.endedAt) :
    WholeRange (recut current version instant row).startedAt
      (recut current version instant row).endedAt := by
  have hcut : WholeRange (cutInterval version.cloudInstanceId current.id instant row).startedAt
      (cutInterval version.cloudInstanceId current.id instant row).endedAt := by
    unfold cutInterval
    split_ifs
    · exact ⟨h.1, by simpa using hwhole⟩
    · exact h
  unfold recut moveInterval
  split_ifs
  · exact hcut
  · exact hcut

theorem WholeSeconds.record (h : WholeSeconds timeline.toTimelineRows) {input : RecordInput}
    {result : ResourceVersion} (hwhole : 1000 ∣ input.providerConfirmedAt)
    (hcommit : Tx.Commits (recordProviderConfirmedResourceVersion input) timeline result timeline') :
    WholeSeconds timeline'.toTimelineRows := by
  rcases commits_record hcommit with rfl | ⟨cloud, mid, -, -, -, hmid, hrows⟩
  · exact h
  have hwholeMid : WholeSeconds mid.toTimelineRows := by
    rw [hmid]
    cases timeline.currentVersion cloud.id with
    | none =>
        refine ⟨h.snapshots, fun row hrow => ?_, h.intervals⟩
        rcases List.mem_append.1 hrow with hrow | hrow
        · exact h.versions row hrow
        · obtain rfl := List.mem_singleton.1 hrow
          exact wholeRange_open hwhole
    | some current =>
        refine ⟨h.snapshots, fun row hrow => ?_, fun row hrow => ?_⟩
        · rcases List.mem_append.1 hrow with hrow | hrow
          · obtain ⟨before, hbefore, rfl⟩ := List.mem_map.1 hrow
            have hrange := h.versions before hbefore
            unfold endVersion
            split_ifs
            · exact ⟨hrange.1, by simpa using hwhole⟩
            · exact hrange
          · obtain rfl := List.mem_singleton.1 hrow
            exact wholeRange_open hwhole
        · obtain ⟨between, hbetween, rfl⟩ := List.mem_map.1 hrow
          obtain ⟨before, hbefore, rfl⟩ := List.mem_map.1 hbetween
          exact wholeRange_recut hwhole (h.intervals before hbefore)
  rw [hrows]
  refine ⟨hwholeMid.snapshots, hwholeMid.versions, fun row hrow => ?_⟩
  rcases List.mem_append.1 hrow with hrow | hrow
  · exact hwholeMid.intervals row hrow
  · -- the new interval ends with its policy snapshot
    obtain ⟨snapshot, hsnapshot, rfl⟩ :=
      Option.map_eq_some_iff.1 (Option.mem_toList.1 hrow)
    obtain ⟨hfound, -⟩ := Option.filter_eq_some_iff.1 hsnapshot
    exact ⟨hwhole, (h.snapshots snapshot (snapshotAt_eq_some hfound).1).2⟩

theorem WholeSeconds.cadence (h : WholeSeconds timeline.toTimelineRows) {input : CadenceInput}
    {result : PolicySnapshot}
    (hcommit : Tx.Commits (scheduleServiceBillingCadenceChange input) timeline result timeline') :
    WholeSeconds timeline'.toTimelineRows := by
  obtain ⟨current, -, openUsage, -, minimumCreditRial, -, -, -, -, ⟨hboundary, -⟩, hrows⟩ :=
    commits_cadence hcommit
  have hwhole : 1000 ∣ input.effectiveFrom := hboundary ▸ whole_periodStart _ _
  rw [hrows]
  refine ⟨fun row hrow => ?_, h.versions, fun row hrow => ?_⟩
  · rcases List.mem_append.1 hrow with hrow | hrow
    · obtain ⟨before, hbefore, rfl⟩ := List.mem_map.1 hrow
      have hrange := h.snapshots before hbefore
      unfold endSnapshot
      split_ifs
      · exact ⟨hrange.1, by simpa using hwhole⟩
      · exact hrange
    · obtain rfl := List.mem_singleton.1 hrow
      exact wholeRange_open hwhole
  · rcases List.mem_append.1 hrow with hrow | hrow
    · obtain ⟨before, hbefore, rfl⟩ := List.mem_map.1 hrow
      have hrange := h.intervals before hbefore
      unfold endInterval
      split_ifs
      · exact ⟨hrange.1, by simpa using hwhole⟩
      · exact hrange
    · obtain rfl := List.mem_singleton.1 hrow
      exact wholeRange_open hwhole

end Writers

/-! ## No line is refused -/

section Refused

/-- A rate card that is not for traffic prices every resource. -/
theorem exists_resourceFactor {unit : ResourceUnit} (hunit : unit ≠ .gbTraffic)
    (resource : ResourceQuantitySnapshot) : ∃ factor, resourceFactor unit resource = .ok factor := by
  cases unit with
  | gbTraffic => exact absurd rfl hunit
  | _ => exact ⟨_, rfl⟩

/-- A slice of whole seconds has a line for every rate card that covers its cost. -/
theorem exists_line {slice : Span ℤ} (hproper : slice.start < slice.stop)
    (hwhole : 1000 ∣ slice.stop - slice.start) {rate : RateCardVersion} (hcovers : rate.CoversCost)
    (hbasis : 0 ≤ rate.markupBasisPoints) (hunit : rate.resourceUnit ≠ .gbTraffic)
    (resource : ResourceQuantitySnapshot) : ∃ line,
      calculateBillingLineAmount slice.start slice.stop resource rate.toCalculableRate = .ok line := by
  obtain ⟨hprovider, hcustomer⟩ := hcovers
  obtain ⟨factor, hfactor⟩ := exists_resourceFactor hunit resource
  obtain ⟨seconds, hseconds⟩ := hwhole
  have hpositive : 0 < seconds.toNat := by omega
  have hstop : slice.stop = slice.start + (seconds.toNat : ℤ) * 1000 := by omega
  have hpos := resourceFactor_pos hfactor
  have hquantity := @CalculableRate.quantity_pos rate.toCalculableRate seconds.toNat factor
    hpos.1 hpos.2
  rw [hstop]
  exact ⟨_, (calculateBillingLineAmount_eq_ok hpositive).2 ⟨⟨hprovider, hprovider.trans hcustomer,
    hbasis⟩, factor, hfactor, Factor.charge_mono hquantity.1 hquantity.2 hcustomer, rfl⟩⟩

variable {rows : TimelineRows} {snapshot : PolicySnapshot} {cadence : BillingCadence}

/-- The window of a snapshot in a closed period. -/
theorem whole_targetOf {input : BillingPeriod} (hvalid : validatePeriod input = .ok ())
    (hsnapshot : WholeRange snapshot.effectiveFrom snapshot.effectiveTo) :
    1000 ∣ (targetOf snapshot input.period).start ∧ 1000 ∣ (targetOf snapshot input.period).stop := by
  obtain ⟨-, hlength, -⟩ := validatePeriod_eq_ok.1 hvalid
  have hstart : 1000 ∣ input.period.periodStart :=
    (whole_periodMilliseconds input.cadence).trans (dvd_periodStart hvalid)
  have hstop : 1000 ∣ input.period.periodEnd := by
    have hcadence := whole_periodMilliseconds input.cadence
    omega
  constructor
  · show (1000 : ℤ) ∣ max input.period.periodStart snapshot.effectiveFrom
    rcases max_choice input.period.periodStart snapshot.effectiveFrom with hmax | hmax
    · rw [hmax]
      exact hstart
    · rw [hmax]
      exact hsnapshot.1
  · unfold targetOf
    cases hend : snapshot.effectiveTo with
    | none => exact hstop
    | some effectiveTo =>
        show (1000 : ℤ) ∣ min input.period.periodEnd effectiveTo
        rcases min_choice input.period.periodEnd effectiveTo with hmin | hmin
        · rw [hmin]
          exact hstop
        · rw [hmin]
          exact hsnapshot.2 effectiveTo hend

/-- The usages of a window on whole seconds are on whole seconds. -/
theorem UsedIn.whole (hwhole : WholeSeconds rows) {target : Span ℤ}
    (htarget : 1000 ∣ target.start ∧ 1000 ∣ target.stop) {usage : BoundedUsage}
    (h : UsedIn rows snapshot target usage) : 1000 ∣ usage.start ∧ 1000 ∣ usage.stop := by
  have hinterval := hwhole.intervals usage.interval (mem_intervalsOf.1 h.interval).1
  have hversion := hwhole.versions usage.resource (mem_of_find? h.version).1
  constructor
  · rcases h.start with hstart | hstart | hstart
    · exact hstart ▸ htarget.1
    · exact hstart ▸ hinterval.1
    · exact hstart ▸ hversion.1
  · rcases h.stop with hstop | hstop | hstop
    · exact hstop ▸ htarget.2
    · exact hinterval.2 _ hstop
    · exact hversion.2 _ hstop

/-- **Every slice is positive, and begins and ends on a whole second.** -/
theorem slice_whole (hwhole : WholeSeconds rows) {target : Span ℤ}
    (htarget : 1000 ∣ target.start ∧ 1000 ∣ target.stop) {usage : BoundedUsage}
    (hused : UsedIn rows snapshot target usage)
    (hrates : ∀ rate ∈ rows.rates, WholeRange rate.effectiveFrom rate.effectiveTo)
    {slice : Span ℤ} (hslice : slice ∈ usage.slices (usage.rates rows snapshot cadence)) :
    slice.start < slice.stop ∧ 1000 ∣ slice.start ∧ 1000 ∣ slice.stop := by
  obtain ⟨hstart, hstop, hproper⟩ := mem_slicesOf (orderedBoundaries_sorted _ _) hslice
  have husage := hused.whole hwhole htarget
  have hboundary : ∀ instant ∈ orderedBoundaries usage.toSpan (usage.rates rows snapshot cadence),
      1000 ∣ instant := by
    intro instant hinstant
    rcases boundary_cases hinstant with (rfl | rfl) | ⟨-, rate, hrate, hend⟩
    · exact husage.1
    · exact husage.2
    · have hrange := hrates rate (mem_rates_of_usage hrate)
      rcases hend with rfl | huntil
      · exact hrange.1
      · exact hrange.2 instant huntil
  exact ⟨hproper, hboundary _ hstart, hboundary _ hstop⟩

/-- **No line of a window is refused.** -/
theorem lineDrafts_not_thrown (hvalid : rows.Valid) (hwhole : WholeSeconds rows) {target : Span ℤ}
    (htarget : 1000 ∣ target.start ∧ 1000 ∣ target.stop)
    (hrates : ∀ rate ∈ rows.rates, rate.CoversCost ∧ rate.Sliceable) (code : String) :
    lineDrafts rows snapshot cadence target ≠ .error (.thrown code) := by
  intro hthrown
  unfold lineDrafts at hthrown
  cases husages : usageOf rows snapshot target with
  | error stop =>
      rw [husages] at hthrown
      cases hthrown
      -- the usages of a window are found, or go to review
      unfold usageOf at husages
      dsimp only at husages
      split at husages
      · cases husages
      · split_ifs at husages
        cases husages
  | ok usages =>
      rw [husages] at hthrown
      obtain ⟨usage, husage, hthrown⟩ := error_of_collect hthrown
      have hused := (usedIn_of_usageOf husages).1 usage husage
      unfold usageLines at hthrown
      dsimp only at hthrown
      split_ifs at hthrown with hempty
      · cases hthrown
      obtain ⟨slice, hslice, hthrown⟩ := error_of_collect hthrown
      obtain ⟨hproper, hstart, hstop⟩ :=
        slice_whole hwhole htarget hused (fun rate hrate => (hrates rate hrate).2.1) hslice
      unfold sliceLines at hthrown
      dsimp only at hthrown
      split at hthrown
      · cases hthrown
      obtain ⟨rate, hrate, hthrown⟩ := error_of_collect hthrown
      have hmem : rate ∈ rows.rates := mem_rates_of_usage (List.mem_of_mem_filter hrate)
      obtain ⟨hcovers, -, hunit⟩ := hrates rate hmem
      obtain ⟨line, hline⟩ := exists_line hproper (dvd_sub hstop hstart) hcovers
        (hvalid.rateAmounts rate hmem).2.2.1 hunit usage.resource.toResourceQuantitySnapshot
      unfold rateLine at hthrown
      rw [hline] at hthrown
      unfold throwIf at hthrown
      split_ifs at hthrown with hmoney
      · cases hthrown
      · change (if line.quantityNumerator = 0 then pure [] else pure _ :
          Except DraftStop (List LineDraft)) = _ at hthrown
        split_ifs at hthrown
        · cases hthrown
        · cases hthrown

end Refused

/-! ## Every run -/

/-- The instances that are there stay. -/
def TimelineEvent.KeepsInstances (db : BillingDb) : TimelineEvent → Prop
  | .instances rows => ∀ cloud ∈ db.timeline.instances, ∃ later ∈ rows, later.id = cloud.id
  | _ => True

/-- The provider has confirmed on a whole second. -/
def TimelineEvent.OnWholeSecond : TimelineEvent → Prop
  | .start input => 1000 ∣ input.providerConfirmedAt
  | .record input => 1000 ∣ input.providerConfirmedAt
  | _ => True

/-- Every policy snapshot is of an instance that is there. -/
def SnapshotsKnown (rows : TimelineRows) : Prop :=
  ∀ snapshot ∈ rows.snapshots, ∃ cloud ∈ rows.instances, cloud.id = snapshot.cloudInstanceId

section Events

variable {timeline timeline' : Timeline} {event : TimelineEvent}

theorem WholeSeconds.after (h : WholeSeconds timeline.toTimelineRows)
    (hwhole : event.OnWholeSecond) (hcommit : Tx.Commits event.tx timeline () timeline') :
    WholeSeconds timeline'.toTimelineRows := by
  cases event with
  | start input =>
      simp only [TimelineEvent.tx, Tx.commits_bind, Tx.commits_pure] at hcommit
      obtain ⟨_, _, hcommit, -, rfl⟩ := hcommit
      exact h.start hwhole hcommit
  | record input =>
      simp only [TimelineEvent.tx, Tx.commits_bind, Tx.commits_pure] at hcommit
      obtain ⟨_, _, hcommit, -, rfl⟩ := hcommit
      exact h.record hwhole hcommit
  | cadence input =>
      simp only [TimelineEvent.tx, Tx.commits_bind, Tx.commits_pure] at hcommit
      obtain ⟨_, _, hcommit, -, rfl⟩ := hcommit
      exact h.cadence hcommit
  | instances rows =>
      obtain rfl := Tx.commits_modify.1 hcommit
      exact ⟨h.snapshots, h.versions, h.intervals⟩

theorem SnapshotsKnown.after {db : BillingDb} (h : SnapshotsKnown db.timeline.toTimelineRows)
    (hkeeps : event.KeepsInstances db) (hcommit : Tx.Commits event.tx db.timeline () timeline') :
    SnapshotsKnown timeline'.toTimelineRows := by
  cases event with
  | start input =>
      simp only [TimelineEvent.tx, Tx.commits_bind, Tx.commits_pure] at hcommit
      obtain ⟨_, _, hcommit, -, rfl⟩ := hcommit
      rcases commits_start hcommit with rfl | ⟨activation, cloud, contract, terms, resources, -,
        hcloud, -, -, -, hrows⟩
      · exact h
      · rw [hrows]
        intro snapshot hsnapshot
        rcases List.mem_append.1 hsnapshot with hsnapshot | hsnapshot
        · exact h snapshot hsnapshot
        · obtain rfl := List.mem_singleton.1 hsnapshot
          exact ⟨cloud, List.mem_of_find?_eq_some hcloud, rfl⟩
  | record input =>
      simp only [TimelineEvent.tx, Tx.commits_bind, Tx.commits_pure] at hcommit
      obtain ⟨_, _, hcommit, -, rfl⟩ := hcommit
      rcases commits_record hcommit with rfl | ⟨cloud, mid, -, -, -, hmid, hrows⟩
      · exact h
      · have hknown : SnapshotsKnown mid.toTimelineRows := by
          rw [hmid]
          cases db.timeline.currentVersion cloud.id <;> exact h
        rw [hrows]
        intro snapshot hsnapshot
        obtain ⟨own, hown, hid⟩ := hknown snapshot hsnapshot
        refine ⟨confirmInstance cloud.id input.resources.state own, List.mem_map_of_mem hown, ?_⟩
        unfold confirmInstance
        split_ifs <;> exact hid
  | cadence input =>
      simp only [TimelineEvent.tx, Tx.commits_bind, Tx.commits_pure] at hcommit
      obtain ⟨_, _, hcommit, -, rfl⟩ := hcommit
      obtain ⟨current, hcurrent, openUsage, -, minimumCreditRial, howner, -, -, -, -, hrows⟩ :=
        commits_cadence hcommit
      rw [hrows]
      intro snapshot hsnapshot
      rcases List.mem_append.1 hsnapshot with hsnapshot | hsnapshot
      · obtain ⟨before, hbefore, rfl⟩ := List.mem_map.1 hsnapshot
        obtain ⟨own, hown, hid⟩ := h before hbefore
        exact ⟨own, hown, hid.trans (endSnapshot_keeps _ _ before).2.1.symm⟩
      · obtain rfl := List.mem_singleton.1 hsnapshot
        obtain ⟨own, hown, hid⟩ := h current hcurrent
        exact ⟨own, hown, hid.trans howner⟩
  | instances rows =>
      obtain rfl := Tx.commits_modify.1 hcommit
      intro snapshot hsnapshot
      obtain ⟨own, hown, hid⟩ := h snapshot hsnapshot
      obtain ⟨later, hlater, hsame⟩ := hkeeps own hown
      exact ⟨later, hlater, hsame.trans hid⟩

end Events

/-- Nothing has been used and nothing has been billed yet. -/
structure BillingDb.Fresh (db : BillingDb) : Prop extends db.Unbilled where
  lines : db.lines = []
  snapshots : db.timeline.snapshots = []
  versions : db.timeline.versions = []
  intervals : db.timeline.intervals = []

/-- What holds in every state of a run whose confirmations are on whole seconds. -/
structure Unstopped (opening : String → ℤ) (db : BillingDb) : Prop
    extends Standing opening db where
  filed : Filed db
  whole : WholeSeconds db.timeline.toTimelineRows
  snapshotsKnown : SnapshotsKnown db.timeline.toTimelineRows

theorem BillingDb.Fresh.unstopped {db : BillingDb} (h : db.Fresh) :
    Unstopped db.books.openingBalance db where
  toStanding := h.toUnbilled.standing
  filed := ⟨by simp [h.invoices], by simp [h.lines], by simp [h.lines]⟩
  whole := ⟨by simp [h.snapshots], by simp [h.versions], by simp [h.intervals]⟩
  snapshotsKnown := by simp [SnapshotsKnown, h.snapshots]

/-- Confirmations are on whole seconds, and no instance is removed. -/
def WholeConfirmations (db : BillingDb) (event : TimelineEvent) : Prop :=
  event.KeepsInstances db ∧ event.OnWholeSecond

section System

variable {opening : String → ℤ} {system system' : BillingSystem}

/-- One step keeps everything on whole seconds. -/
theorem Unstopped.step (h : Unstopped opening system.db)
    (hstep : system.Live WholeConfirmations system') : Unstopped opening system'.db := by
  refine ⟨h.toStanding.live hstep, h.filed.live h.toStanding hstep, ?_, ?_⟩
  · cases hstep with
    | worked hquiet => exact hquiet.2 ▸ h.whole
    | changed haccepted hcommit => exact h.whole.after haccepted.2 hcommit
    | repriced rates hrows =>
        rw [hrows]
        exact ⟨h.whole.snapshots, h.whole.versions, h.whole.intervals⟩
  · cases hstep with
    | worked hquiet => exact hquiet.2 ▸ h.snapshotsKnown
    | changed haccepted hcommit => exact h.snapshotsKnown.after haccepted.1 hcommit
    | repriced rates hrows =>
        rw [hrows]
        exact h.snapshotsKnown

theorem Unstopped.run (h : Unstopped opening system.db)
    (hrun : ReflTransGen (BillingSystem.Live WholeConfirmations) system system') :
    Unstopped opening system'.db := by
  induction hrun with
  | refl => exact h
  | tail _ hstep ih => exact ih.step hstep

end System

/-- A snapshot that is loaded for a period is in force in it. -/
theorem target_of_loaded {timeline : Timeline} {input : BillingPeriod} {snapshot : PolicySnapshot}
    (hvalid : validatePeriod input = .ok ())
    (hsnapshot : snapshot ∈ timeline.toTimelineRows.loadSnapshots input.key) :
    (targetOf snapshot input.period).start < (targetOf snapshot input.period).stop := by
  obtain ⟨hmem, -, hbegun, hnotOver⟩ := mem_loadSnapshots.1 hsnapshot
  obtain ⟨⟨hforward, -⟩, -⟩ := validatePeriod_eq_ok.1 hvalid
  have hbegun : snapshot.effectiveFrom < input.period.periodEnd := hbegun
  have hrange := timeline.valid.snapshotRanges snapshot hmem
  unfold targetOf
  cases hend : snapshot.effectiveTo with
  | none => exact max_lt hforward hbegun
  | some effectiveTo =>
      have hproper := hrange effectiveTo hend
      have hopen : input.period.periodStart < effectiveTo := by
        rw [hend] at hnotOver
        exact of_decide_eq_true hnotOver
      show max input.period.periodStart snapshot.effectiveFrom <
        min input.period.periodEnd effectiveTo
      exact max_lt (lt_min hforward hopen) (lt_min hbegun hproper)

def twoServices : BillingDb where
  timeline := .initial [⟨"instance", "user", "plan", .arvan, none, .active⟩,
    ⟨"other", "user", "other plan", .arvan, none, .active⟩]
  books := sampleDb.books
  runs := .empty
  invoices := .empty
  lines := []

def otherActivation : ActivationRequest :=
  { sampleActivation with
    id := "other activation"
    plan := { sampleActivation.plan with id := "other plan" } }

/-- One service is confirmed at the beginning of the hour, and the other one at some instant. -/
def bothStarts (confirmedAt : ℤ) : List TimelineEvent :=
  [.start ⟨"instance", confirmedAt, some sampleActivation, [sampleContract .hour], "new"⟩,
    .start ⟨"other", 0, some otherActivation, [sampleContract .hour], "other new"⟩]

def bothStarted (confirmedAt : ℤ) : BillingSystem where
  db := { twoServices with
    timeline := run stepTimeline twoServices.timeline (bothStarts confirmedAt) }
  workers := []

/-- Events one after another are a run of the system. -/
theorem live_of_events {accepted : BillingDb → TimelineEvent → Prop} {workers : List CatchUp}
    {events : List TimelineEvent} {db : BillingDb}
    (h : ∀ timeline : Timeline, ∀ event ∈ events, accepted { db with timeline } event) :
    ReflTransGen (BillingSystem.Live accepted) ⟨db, workers⟩
      ⟨{ db with timeline := run stepTimeline db.timeline events }, workers⟩ := by
  induction events generalizing db with
  | nil => exact .refl
  | cons event rest ih =>
      have hrest : ReflTransGen (BillingSystem.Live accepted)
          ⟨{ db with timeline := (stepTimeline db.timeline event).1 }, workers⟩
          ⟨{ db with timeline := run stepTimeline db.timeline (event :: rest) }, workers⟩ :=
        @ih { db with timeline := (stepTimeline db.timeline event).1 } fun timeline later hlater =>
          h timeline later (List.mem_cons_of_mem _ hlater)
      cases hcommit : event.tx.transaction db.timeline with
      | mk result timeline =>
          have hstep : (stepTimeline db.timeline event).1 = timeline := by
            rw [stepTimeline, hcommit]
          rw [hstep] at hrest
          cases result with
          | error e =>
              -- what is refused leaves no trace
              obtain ⟨rfl, -⟩ := Tx.transaction_error hcommit
              exact hrest
          | ok u =>
              exact .head (.changed (h db.timeline event (by simp)) (Tx.transaction_ok.1 hcommit))
                hrest

theorem twoServices_fresh : twoServices.Fresh where
  invoices := rfl
  ledger := rfl
  wallets := by
    show ∀ wallet ∈ sampleDb.books.wallets.rows, 0 ≤ wallet.availableBalance
    decide
  lines := rfl
  snapshots := rfl
  versions := rfl
  intervals := rfl

theorem bothStarted_run {accepted : BillingDb → TimelineEvent → Prop} {confirmedAt : ℤ}
    (h : ∀ db, ∀ event ∈ bothStarts confirmedAt, accepted db event) :
    ReflTransGen (BillingSystem.Live accepted) ⟨twoServices, []⟩ (bothStarted confirmedAt) :=
  live_of_events fun _ => h _

theorem bothStarted_newIds (confirmedAt : ℤ) : sampleHour.NewIds (bothStarted confirmedAt).db := by
  have hinvoices : (bothStarted confirmedAt).db.invoices.rows = [] := rfl
  have hledger : (bothStarted confirmedAt).db.books.ledger.rows = [] := rfl
  refine ⟨fun _ _ hid => (String.append_right_inj _).1 hid, fun id => ⟨?_, ?_⟩⟩
  · rw [hinvoices]
    simp
  · rw [hledger]
    simp

theorem sampleHour_valid : validatePeriod sampleHour = .ok () :=
  validatePeriod_eq_ok.2 ⟨by decide, by decide, by decide, nofun⟩

end AbrChin.Billing
