import AbrChin.Billing.WholeSeconds

/-!
# What has been billed was used

A line charges one resource version for a slice of one usage interval.  When it is
written, the slice lies in the window of the version and in the interval; but a
confirmation ends the version in force at whatever time the provider reports, and that
time may lie in a period that has been settled.  While no confirmation reaches back
behind what has been billed, every line stays inside its version and its interval
(`Grounded`), whatever else happens.
-/

namespace AbrChin.Billing

open Lib Wallet Relation

instance (start : ℤ) (stop : Option ℤ) (span : Span ℤ) : Decidable (Covers start stop span) :=
  inferInstanceAs (Decidable (_ ∧ ∀ until_ ∈ stop, span.stop ≤ until_))

/-! ## Lines inside the timeline -/

/-- The slice that a line is for. -/
def BillingLine.slice (line : BillingLine) : Span ℤ := ⟨line.intervalStart, line.intervalEnd⟩

/-- The usage interval of a line: of the line's policy snapshot and version, and it covers it. -/
structure LineInterval (line : BillingLine) (interval : UsageInterval) : Prop where
  id : interval.id = line.usageIntervalId
  snapshot : interval.billingPolicySnapshotId = line.idempotencyKey.billingPolicySnapshotId
  owner : interval.cloudInstanceId = line.idempotencyKey.cloudInstanceId
  version : interval.resourceVersionId = line.resourceVersionId
  covers : Covers interval.startedAt interval.endedAt line.slice

/-- The resource version that a line charges, whose window covers it. -/
structure LineVersion (line : BillingLine) (version : ResourceVersion) : Prop where
  id : version.id = line.resourceVersionId
  owner : version.cloudInstanceId = line.idempotencyKey.cloudInstanceId
  covers : Covers version.effectiveFrom version.effectiveTo line.slice

/-- A line lies inside a usage interval and inside a resource version of the timeline. -/
structure Grounded (rows : TimelineRows) (line : BillingLine) : Prop where
  proper : line.slice.start < line.slice.stop
  interval : ∃ interval ∈ rows.intervals, LineInterval line interval
  version : ∃ version ∈ rows.versions, LineVersion line version

/-- **A line that is written is grounded.** -/
theorem grounded_of_drafts {rows : TimelineRows} (hvalid : rows.Valid) (htiled : Tiled rows)
    {snapshot : PolicySnapshot} {cadence : BillingCadence} {target : Span ℤ} {drafts : List LineDraft}
    (hdrafts : lineDrafts rows snapshot cadence target = .ok drafts) {draft : LineDraft}
    (hdraft : draft ∈ drafts) (invoiceId : String) :
    Grounded rows (billingLine snapshot invoiceId draft) := by
  obtain ⟨usage, horigin⟩ := origin_of_lineDrafts hdrafts hdraft
  obtain ⟨hmem, howner, hof, -, -⟩ := mem_intervalsOf.1 horigin.used.interval
  obtain ⟨hversion, hkeep⟩ := mem_of_find? horigin.used.version
  have hrefers : usage.resource.id = usage.interval.resourceVersionId := of_decide_eq_true hkeep
  refine ⟨horigin.proper, ⟨usage.interval, hmem, ⟨horigin.interval.symm, hof, howner,
    hrefers.symm.trans horigin.version.symm, ?_⟩⟩, ⟨usage.resource, hversion,
    ⟨horigin.version.symm, ?_, ?_⟩⟩⟩
  · exact horigin.used.inInterval.mono horigin.start horigin.stop
  · -- the version of an interval is of the same instance
    obtain ⟨own, hown, hid, hinstance, -⟩ := htiled.inVersion usage.interval hmem
    obtain rfl := version_ext hvalid hown hversion (hid.trans hrefers.symm)
    exact hinstance.trans howner
  · exact horigin.used.inVersion.mono horigin.start horigin.stop

/-! ## What the writers of the timeline keep -/

section Writers

variable {timeline timeline' : Timeline} {line : BillingLine}

/-- Further rows leave a line where it is. -/
theorem Grounded.append {rows : TimelineRows} (h : Grounded rows line) {rows' : TimelineRows}
    (hintervals : ∀ row ∈ rows.intervals, row ∈ rows'.intervals)
    (hversions : ∀ row ∈ rows.versions, row ∈ rows'.versions) : Grounded rows' line := by
  obtain ⟨interval, hinterval, hof⟩ := h.interval
  obtain ⟨version, hversion, hcharged⟩ := h.version
  exact ⟨h.proper, ⟨interval, hintervals interval hinterval, hof⟩,
    ⟨version, hversions version hversion, hcharged⟩⟩

theorem Grounded.start (h : Grounded timeline.toTimelineRows line) {input : StartInput}
    {result : Option PolicySnapshot}
    (hcommit : Tx.Commits (startInitialUsageBillingTx input) timeline result timeline') :
    Grounded timeline'.toTimelineRows line := by
  rcases commits_start hcommit with rfl | ⟨_, _, _, _, _, -, -, -, -, -, hrows⟩
  · exact h
  · rw [hrows]
    exact h.append (fun _ => List.mem_append_left _) fun _ => List.mem_append_left _

/-- A range that is ended after a line still covers it. -/
theorem covers_ended {start instant : ℤ} {stop : Option ℤ} {span : Span ℤ}
    (h : Covers start stop span) (hended : span.stop ≤ instant) : Covers start (some instant) span :=
  ⟨h.1, by simpa using hended⟩

/-- A confirmation after a line cuts its interval behind it, if at all. -/
theorem LineInterval.recut {interval : UsageInterval} (h : LineInterval line interval)
    (hproper : line.slice.start < line.slice.stop) {current version : ResourceVersion}
    {instant : ℤ} (hlater : version.cloudInstanceId = line.idempotencyKey.cloudInstanceId →
      line.slice.stop ≤ instant) : LineInterval line (recut current version instant interval) := by
  have hcut : LineInterval line (cutInterval version.cloudInstanceId current.id instant interval) ∧
      (cutInterval version.cloudInstanceId current.id instant interval).startedAt =
        interval.startedAt := by
    unfold cutInterval
    split_ifs with hcuts
    · have hended := hlater (hcuts.1.symm.trans h.owner)
      exact ⟨⟨h.id, h.snapshot, h.owner, h.version, covers_ended h.covers hended⟩, rfl⟩
    · exact ⟨h, rfl⟩
  unfold Billing.recut moveInterval
  split_ifs with hmoves
  · -- an interval that begins after the line does not cover it
    have hended := hlater (hmoves.1.symm.trans hcut.1.owner)
    have hbegins := hcut.1.covers.1
    omega
  · exact hcut.1

/-- **A confirmation that does not reach back behind a line leaves it grounded.** -/
theorem Grounded.record (h : Grounded timeline.toTimelineRows line) {input : RecordInput}
    {result : ResourceVersion}
    (hlater : (timeline.versions.find? fun row => row.idempotencyKey = input.idempotencyKey) =
      none → line.idempotencyKey.cloudInstanceId = input.cloudInstanceId →
        line.slice.stop ≤ input.providerConfirmedAt)
    (hcommit : Tx.Commits (recordProviderConfirmedResourceVersion input) timeline result timeline') :
    Grounded timeline'.toTimelineRows line := by
  rcases commits_record hcommit with rfl | ⟨cloud, mid, hid, hnew, -, hmid, hrows⟩
  · exact h
  have hended : cloud.id = line.idempotencyKey.cloudInstanceId →
      line.slice.stop ≤ input.providerConfirmedAt := fun howner =>
    hlater hnew (howner.symm.trans hid)
  have hgrounded : Grounded mid.toTimelineRows line := by
    rw [hmid]
    cases hcurrent : timeline.currentVersion cloud.id with
    | none => exact h.append (fun _ => id) fun _ => List.mem_append_left _
    | some current =>
        obtain ⟨hcurrentMem, hcurrentOwner, -⟩ := currentVersion_eq_some hcurrent
        obtain ⟨interval, hinterval, hof⟩ := h.interval
        obtain ⟨version, hversion, hcharged⟩ := h.version
        refine ⟨h.proper, ⟨Billing.recut current (input.version cloud) input.providerConfirmedAt
          interval, ?_, hof.recut h.proper hended⟩,
          ⟨endVersion current.id input.providerConfirmedAt version,
            List.mem_append_left _ (List.mem_map_of_mem hversion), ?_⟩⟩
        · show _ ∈ List.map _ (List.map _ _)
          rw [List.map_map]
          exact List.mem_map_of_mem hinterval
        · unfold endVersion
          split_ifs with hends
          · obtain rfl := version_ext timeline.valid hversion hcurrentMem hends
            exact ⟨hcharged.id, hcharged.owner, covers_ended hcharged.covers
              (hended (hcurrentOwner.symm.trans hcharged.owner))⟩
          · exact hcharged
  rw [hrows]
  exact hgrounded.append (fun _ => List.mem_append_left _) fun _ => id

/-- **A change of cadence in the future of a line leaves it grounded.** -/
theorem Grounded.cadence (h : Grounded timeline.toTimelineRows line) {input : CadenceInput}
    {result : PolicySnapshot}
    (hlater : line.idempotencyKey.cloudInstanceId = input.cloudInstanceId →
      line.slice.stop ≤ input.now)
    (hcommit : Tx.Commits (scheduleServiceBillingCadenceChange input) timeline result timeline') :
    Grounded timeline'.toTimelineRows line := by
  obtain ⟨current, -, openUsage, husage, minimumCreditRial, -, -, howner, -, ⟨-, hboundary⟩, hrows⟩ :=
    commits_cadence hcommit
  obtain ⟨interval, hinterval, hof⟩ := h.interval
  rw [hrows]
  refine ⟨h.proper, ⟨endInterval openUsage.id input.effectiveFrom interval,
    List.mem_append_left _ (List.mem_map_of_mem hinterval), ?_⟩, h.version⟩
  unfold endInterval
  split_ifs with hends
  · have hsame : interval = openUsage :=
      List.inj_on_of_nodup_map timeline.valid.intervalIds hinterval husage hends
    have hbilled := hlater (hof.owner.symm.trans (hsame ▸ howner))
    -- the change is at the end of the period that contains the time of the request
    have hfuture : input.now < (periodContainingUtc current.cadence input.now).periodEnd := by
      have hmod := Int.emod_lt_of_pos input.now (periodMilliseconds_pos current.cadence)
      show input.now < input.now - input.now % periodMilliseconds current.cadence +
        periodMilliseconds current.cadence
      omega
    exact ⟨hof.id, hof.snapshot, hof.owner, hof.version, covers_ended hof.covers (by omega)⟩
  · exact hof

end Writers

/-! ## Every run -/

/-- A confirmation does not reach back behind what its instance has been billed for, and a change
of cadence is not requested before it. -/
def AfterBilled (db : BillingDb) : TimelineEvent → Prop
  | .record input =>
      (db.timeline.versions.find? fun row => row.idempotencyKey = input.idempotencyKey) = none →
        ∀ line ∈ db.lines, line.idempotencyKey.cloudInstanceId = input.cloudInstanceId →
          line.intervalEnd ≤ input.providerConfirmedAt
  | .cadence input => ∀ line ∈ db.lines,
      line.idempotencyKey.cloudInstanceId = input.cloudInstanceId → line.intervalEnd ≤ input.now
  | _ => True

/-- Every line is grounded in a timeline without gaps. -/
structure Consistent (opening : String → ℤ) (db : BillingDb) : Prop
    extends Standing opening db where
  tiled : Tiled db.timeline.toTimelineRows
  lines : ∀ line ∈ db.lines, Grounded db.timeline.toTimelineRows line

section System

variable {opening : String → ℤ} {db db' : BillingDb} {system system' : BillingSystem}

theorem Tiled.after {timeline timeline' : Timeline} {event : TimelineEvent}
    (h : Tiled timeline.toTimelineRows) (hcommit : Tx.Commits event.tx timeline () timeline') :
    Tiled timeline'.toTimelineRows := by
  have hstep := tiled_step timeline event h
  rwa [stepTimeline, Tx.transaction_ok.2 hcommit] at hstep

theorem Grounded.after {event : TimelineEvent} (hafter : AfterBilled db event)
    {line : BillingLine} (hline : line ∈ db.lines) (h : Grounded db.timeline.toTimelineRows line) {timeline : Timeline}
    (hcommit : Tx.Commits event.tx db.timeline () timeline) :
    Grounded timeline.toTimelineRows line := by
  cases event with
  | start input =>
      simp only [TimelineEvent.tx, Tx.commits_bind, Tx.commits_pure] at hcommit
      obtain ⟨_, _, hcommit, -, rfl⟩ := hcommit
      exact h.start hcommit
  | record input =>
      simp only [TimelineEvent.tx, Tx.commits_bind, Tx.commits_pure] at hcommit
      obtain ⟨_, _, hcommit, -, rfl⟩ := hcommit
      exact h.record (fun hnew => hafter hnew line hline) hcommit
  | cadence input =>
      simp only [TimelineEvent.tx, Tx.commits_bind, Tx.commits_pure] at hcommit
      obtain ⟨_, _, hcommit, -, rfl⟩ := hcommit
      exact h.cadence (hafter line hline) hcommit
  | instances rows =>
      obtain rfl := Tx.commits_modify.1 hcommit
      exact h.append (fun _ => id) fun _ => id

/-- The transaction of a period writes grounded lines, and leaves the timeline. -/
theorem Consistent.settle (h : Consistent opening db) {input : BillingPeriod}
    {run : Option BillingRun}
    (hcommit : Tx.Commits (settleClosedBillingPeriod input) db run db') :
    db'.timeline = db.timeline ∧ ∀ line ∈ db'.lines, Grounded db.timeline.toTimelineRows line := by
  refine h.settle_keeps (P := fun later => later.timeline = db.timeline ∧
      ∀ line ∈ later.lines, Grounded db.timeline.toTimelineRows line)
    (fun later runs hkeep => hkeep) (fun later books hkeep => hkeep)
    (fun hvalid snapshot hsnapshot runId later after hsettling hfresh hkeep hprocessed => ?_)
    ⟨rfl, h.lines⟩ hcommit
  obtain ⟨htimeline, hlines⟩ := hkeep
  cases hprocessed with
  | skipped => exact ⟨htimeline, hlines⟩
  | reviewed => exact ⟨htimeline, hlines⟩
  | settled hdrafts hsettle =>
      obtain ⟨_, _, _, books, -, -, -, rfl⟩ := commits_settleDrafts hfresh hsettle
      refine ⟨htimeline, fun line hline => ?_⟩
      rcases List.mem_append.1 hline with hline | hline
      · exact hlines line (List.mem_of_mem_filter hline)
      · obtain ⟨draft, hdraft, rfl⟩ := List.mem_map.1 hline
        rw [htimeline] at hdrafts
        exact grounded_of_drafts db.timeline.valid h.tiled hdrafts hdraft _

/-- Everything that the workers do keeps the lines grounded. -/
theorem Consistent.quiet (h : Consistent opening system.db) (hquiet : system.Quiet system') :
    ∀ line ∈ system'.db.lines, Grounded system.db.timeline.toTimelineRows line := by
  obtain ⟨hstep, htimeline⟩ := hquiet
  cases hstep with
  | settled hcommit => exact (h.settle hcommit).2
  | failed hcommit =>
      obtain ⟨runs, rfl, -⟩ := commits_recordFailure hcommit
      exact h.lines
  | listed => exact h.lines
  | caughtUp hnext hcommit => exact (h.settle hcommit).2
  | stopped hnext hcommit =>
      obtain ⟨runs, rfl, -⟩ := commits_recordFailure hcommit
      exact h.lines
  | crashed => exact h.lines
  | scheduled timeline => exact h.lines
  | moved hmoved => exact h.lines

/-- One step keeps every line grounded. -/
theorem Consistent.step (h : Consistent opening system.db)
    (hstep : system.Live AfterBilled system') : Consistent opening system'.db := by
  refine ⟨h.toStanding.live hstep, ?_, ?_⟩
  · cases hstep with
    | worked hquiet => exact hquiet.2 ▸ h.tiled
    | changed haccepted hcommit => exact h.tiled.after hcommit
    | repriced rates hrows =>
        rw [hrows]
        exact { h.tiled with }
  · cases hstep with
    | worked hquiet =>
        rw [hquiet.2]
        exact h.quiet hquiet
    | changed haccepted hcommit =>
        exact fun line hline => (h.lines line hline).after haccepted hline hcommit
    | repriced rates hrows =>
        intro line hline
        rw [hrows]
        exact (h.lines line hline).append (fun _ => id) fun _ => id

theorem Consistent.run (h : Consistent opening system.db)
    (hrun : ReflTransGen (BillingSystem.Live AfterBilled) system system') :
    Consistent opening system'.db := by
  induction hrun with
  | refl => exact h
  | tail _ hstep ih => exact ih.step hstep

theorem BillingDb.Fresh.consistent (h : db.Fresh) : Consistent db.books.openingBalance db where
  toStanding := h.toUnbilled.standing
  tiled := by
    constructor
    case versions => exact fun _ => by simp [TimelineRows.versionsOf, h.versions, Contiguous.nil]
    case snapshots => exact fun _ => by simp [TimelineRows.snapshotsOf, h.snapshots, Contiguous.nil]
    all_goals simp [h.snapshots, h.intervals]
  lines := by simp [h.lines]

end System

/-- What a line of an invoice says about the timeline: the version that it charges covers it and
is the one in force throughout, and an interval of its policy snapshot covers it. -/
def LineInForce (rows : TimelineRows) (line : BillingLine) : Prop :=
  (∃ interval ∈ rows.intervals,
    interval.billingPolicySnapshotId = line.idempotencyKey.billingPolicySnapshotId ∧
      Covers interval.startedAt interval.endedAt line.slice) ∧
  ∃ version ∈ rows.versions, version.id = line.resourceVersionId ∧
    Covers version.effectiveFrom version.effectiveTo line.slice ∧
    ∀ other ∈ rows.versions, other.cloudInstanceId = version.cloudInstanceId →
      ∀ instant, line.slice.Contains instant →
        Within other.effectiveFrom other.effectiveTo instant → other = version

theorem Grounded.inForce {rows : TimelineRows} (htiled : Tiled rows) {line : BillingLine}
    (h : Grounded rows line) : LineInForce rows line := by
  obtain ⟨interval, hinterval, hof⟩ := h.interval
  obtain ⟨version, hversion, hcharged⟩ := h.version
  refine ⟨⟨interval, hinterval, hof.snapshot, hof.covers⟩, version, hversion, hcharged.id,
    hcharged.covers, fun other hother howner instant hinstant hwithin => ?_⟩
  obtain ⟨hfrom, huntil⟩ := hinstant
  refine htiled.version_eq hother hversion howner hwithin ⟨hcharged.covers.1.trans hfrom,
    fun until_ hend => huntil.trans_le (hcharged.covers.2 until_ hend)⟩

/-- **What has been billed stays what was in force**, in every run in which no confirmation
reaches back behind a line of its instance and no clock runs behind one. -/
theorem settled_lines_in_force {start now : BillingSystem} (hstart : start.db.Fresh)
    (hrun : ReflTransGen (BillingSystem.Live AfterBilled) start now) :
    ∀ invoice ∈ now.db.invoices.rows, invoice.status.settled = true →
      ∀ line ∈ now.db.linesOf invoice.id, LineInForce now.db.timeline.toTimelineRows line := by
  intro invoice _ _ line hline
  have hnow := hstart.consistent.run hrun
  exact (hnow.lines line (List.mem_of_mem_filter hline)).inForce hnow.tiled

/-! ## A service that is resized within an hour that has been settled -/

def sampleUse : StartInput :=
  ⟨"instance", 0, some sampleActivation, [sampleContract .hour], "new"⟩

def sampleUsed : BillingDb :=
  { sampleDb with timeline := run stepTimeline sampleDb.timeline [.start sampleUse] }

def sampleBilled : BillingDb := (settleClosedBillingPeriod sampleHour sampleUsed).2

/-- The service gets more memory, a second after the hour. -/
def resized (confirmedAt : ℤ) : TimelineEvent :=
  .record {
    cloudInstanceId := "instance"
    planId := "plan"
    planProvider := .arvan
    paygWallet := true
    resources := ⟨.active, 2, 8192, 0, 0, false, 0⟩
    providerEventId := "event"
    providerConfirmedAt := confirmedAt
    idempotencyKey := "resize"
    sourceChangeRequest := none
    now := 3601000
    newId := "resized" }

def resizedAt (confirmedAt : ℤ) : BillingSystem where
  db := { sampleBilled with
    timeline := run stepTimeline sampleBilled.timeline [resized confirmedAt] }
  workers := []

theorem sampleDb_fresh : sampleDb.Fresh where
  invoices := rfl
  ledger := rfl
  wallets := by decide
  lines := rfl
  snapshots := rfl
  versions := rfl
  intervals := rfl

theorem sampleUsed_run {accepted : BillingDb → TimelineEvent → Prop}
    (h : ∀ db input, accepted db (.start input)) :
    ReflTransGen (BillingSystem.Live accepted) ⟨sampleDb, []⟩ ⟨sampleUsed, []⟩ :=
  live_of_events fun timeline event hevent => by
    obtain rfl := List.mem_singleton.1 hevent
    exact h _ _

theorem resizedAt_run {accepted : BillingDb → TimelineEvent → Prop} {confirmedAt : ℤ}
    (hstarts : ∀ db input, accepted db (.start input))
    (hresizes : ∀ timeline, accepted { sampleBilled with timeline } (resized confirmedAt)) :
    ReflTransGen (BillingSystem.Live accepted) ⟨sampleDb, []⟩ (resizedAt confirmedAt) := by
  have hok : (settleClosedBillingPeriod sampleHour sampleUsed).1.isOk = true := by decide +kernel
  obtain ⟨run, hcommit⟩ := Tx.commits_of_isOk hok
  have hused := sampleDb_fresh.consistent.run (sampleUsed_run fun _ _ => trivial)
  have hquiet : BillingSystem.Quiet ⟨sampleUsed, []⟩ ⟨sampleBilled, []⟩ :=
    ⟨.settled hcommit, (hused.settle hcommit).1⟩
  refine ((sampleUsed_run hstarts).tail (.worked hquiet)).trans ?_
  exact live_of_events fun timeline event hevent => by
    obtain rfl := List.mem_singleton.1 hevent
    exact hresizes timeline

/-- Resized when the hour was over, its line stays what was in force. -/
theorem settled_lines_in_force_after :
    (resizedAt 3600000).db.timeline.versions.length = 2 ∧
    ∀ invoice ∈ (resizedAt 3600000).db.invoices.rows, invoice.status.settled = true →
      ∀ line ∈ (resizedAt 3600000).db.linesOf invoice.id,
        LineInForce (resizedAt 3600000).db.timeline.toTimelineRows line := by
  refine ⟨by decide +kernel, settled_lines_in_force sampleDb_fresh
    (resizedAt_run (fun _ _ => trivial) fun timeline => ?_)⟩
  show _ → ∀ line ∈ sampleBilled.lines, line.idempotencyKey.cloudInstanceId = "instance" →
    line.intervalEnd ≤ 3600000
  intro _
  decide +kernel

/-- Resized half an hour before, its line charges an hour of the version that was over. -/
theorem settled_lines_overtaken :
    ¬ ∀ start now : BillingSystem, start.db.Fresh →
      ReflTransGen (BillingSystem.Live fun _ _ => True) start now →
      ∀ invoice ∈ now.db.invoices.rows, invoice.status.settled = true →
        ∀ line ∈ now.db.linesOf invoice.id, LineInForce now.db.timeline.toTimelineRows line := by
  intro h
  have hlines := h _ _ sampleDb_fresh
    (@resizedAt_run (fun _ _ => True) 1800000 (fun _ _ => trivial) fun _ => trivial)
  have hovertaken : ∃ invoice ∈ (resizedAt 1800000).db.invoices.rows,
      invoice.status.settled = true ∧ ∃ line ∈ (resizedAt 1800000).db.linesOf invoice.id,
        ∀ version ∈ (resizedAt 1800000).db.timeline.versions, version.id = line.resourceVersionId →
          ¬ Covers version.effectiveFrom version.effectiveTo line.slice := by decide +kernel
  obtain ⟨invoice, hinvoice, hsettled, line, hline, hnone⟩ := hovertaken
  obtain ⟨-, version, hversion, hid, hcovers, -⟩ := hlines invoice hinvoice hsettled line hline
  exact hnone version hversion hid hcovers

end AbrChin.Billing
