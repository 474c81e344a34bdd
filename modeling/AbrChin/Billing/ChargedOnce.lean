import AbrChin.Billing.Grounded
import AbrChin.Billing.RateChange

/-!
# No time is charged twice

`settleClosedBillingPeriod` refuses a second invoice of a period, and the lines of one invoice are
for different times.  That a server pays a rate card once for an instant is a property of all
invoices together (`charged_once`), and two more things stand in its way.

* **Other periods.**  The periods of a policy snapshot are cut on a grid, so that two of them have
  no instant in common (`Filed.period_apart`), and a line ends in the period that it begins in.
* **Other snapshots.**  A change of cadence starts another snapshot, with periods of another
  length.  A line lies in the window of its snapshot, and the windows of a server do not overlap.

Lines are compared when the later one is written.  What happens to the timeline afterwards does not
matter, because a line keeps its times.
-/

namespace AbrChin.Billing

open Lib Relation

variable {opening : String → ℤ} {db db' : BillingDb} {input : BillingPeriod}
  {snapshot : PolicySnapshot} {drafts : List LineDraft}

/-- Lines of one server for one rate card are for different times. -/
def LinesApart (line other : BillingLine) : Prop :=
  line.idempotencyKey.cloudInstanceId = other.idempotencyKey.cloudInstanceId →
    line.rateCardVersionId = other.rateCardVersionId →
      line.intervalEnd ≤ other.intervalStart ∨ other.intervalEnd ≤ line.intervalStart

/-- Every line ends in the period of its invoice, and no time is charged twice. -/
structure ChargedApart (db : BillingDb) : Prop where
  ends : ∀ line ∈ db.lines, ∃ invoice ∈ db.invoices.rows, line.Of invoice ∧
    line.idempotencyKey.intervalStart = line.intervalStart ∧
    line.intervalEnd ≤ invoice.scope.period.periodEnd
  apart : db.lines.Pairwise LinesApart

/-! ## The lines of one invoice -/

theorem draft_ends (hdrafts : lineDrafts db.timeline.toTimelineRows snapshot input.cadence
    (targetOf snapshot input.period) = .ok drafts) {draft : LineDraft} (hdraft : draft ∈ drafts) :
    draft.intervalEnd ≤ input.period.periodEnd := by
  obtain ⟨usage, horigin⟩ := origin_of_lineDrafts hdrafts hdraft
  calc draft.intervalEnd
      ≤ usage.stop := horigin.stop
    _ ≤ (targetOf snapshot input.period).stop := horigin.used.inTarget.2
    _ ≤ input.period.periodEnd := targetOf_stop_le snapshot input.period

theorem rate_of_draft {rows : TimelineRows} {cadence : BillingCadence} {target : Span ℤ}
    (hdrafts : lineDrafts rows snapshot cadence target = .ok drafts) {draft : LineDraft}
    (hdraft : draft ∈ drafts) : ∃ rate ∈ rows.rates, draft.rateCardVersionId = rate.id := by
  obtain ⟨usages, -, hlines⟩ := bind_eq_ok.1 hdrafts
  obtain ⟨usage, -, part, hpart, hmem⟩ := mem_of_collect hlines hdraft
  obtain ⟨slice, -, rate, hrate, calculated, -, rfl⟩ := mem_usageLines hpart hmem
  exact ⟨rate, mem_rates_of_usage hrate, rfl⟩

theorem drafts_apart {rows : TimelineRows} {cadence : BillingCadence} {target : Span ℤ}
    (hvalid : rows.Valid) (hdrafts : lineDrafts rows snapshot cadence target = .ok drafts)
    (newId : String) : (drafts.map (billingLine snapshot newId)).Pairwise LinesApart := by
  refine List.pairwise_map.2 ((lineDrafts_once hvalid hdrafts).imp_of_mem ?_)
  intro draft other hdraft _ honce _ hrate
  obtain ⟨rate, hmem, hid⟩ := rate_of_draft hdrafts hdraft
  exact honce rate hmem rate hmem hid (hrate.symm.trans hid) (by simp [sameUnit])

/-! ## What a settlement keeps -/

/-- A line that has been written and one that is written later are for different times. -/
theorem ChargedApart.new_apart (h : ChargedApart db) (hfiled : Filed db)
    (hsettling : Settling opening db) (htiled : Tiled db.timeline.toTimelineRows)
    (hvalid : validatePeriod input = .ok ()) (hknown : snapshot ∈ db.timeline.snapshots)
    (hcadence : snapshot.cadence = input.cadence)
    (hfresh : db.invoices.find? (input.scope snapshot) = none)
    (hdrafts : lineDrafts db.timeline.toTimelineRows snapshot input.cadence
      (targetOf snapshot input.period) = .ok drafts) {line : BillingLine} (hline : line ∈ db.lines)
    (hgrounded : Grounded db.timeline.toTimelineRows line) {draft : LineDraft}
    (hdraft : draft ∈ drafts) (newId : String) :
    LinesApart line (billingLine snapshot newId draft) := by
  intro howner _
  show line.intervalEnd ≤ draft.intervalStart ∨ draft.intervalEnd ≤ line.intervalStart
  by_contra hmeet
  obtain ⟨hbefore, hafter⟩ := not_or.1 hmeet
  -- an instant that both charge is in the windows of both snapshots
  obtain ⟨interval, hinterval, hof⟩ := hgrounded.interval
  obtain ⟨own, hown, hid, hinstance, hinside⟩ := htiled.inSnapshot interval hinterval
  obtain ⟨interval', hinterval', hof'⟩ :=
    (grounded_of_drafts db.timeline.valid htiled hdrafts hdraft newId).interval
  obtain ⟨own', hown', hid', hinstance', hinside'⟩ := htiled.inSnapshot interval' hinterval'
  have hlater : own' = snapshot :=
    snapshot_ext db.timeline.valid hown' hknown (hid'.trans hof'.snapshot)
  have hproper := hgrounded.proper
  have hproper' := (grounded_of_drafts db.timeline.valid htiled hdrafts hdraft newId).proper
  have hwithin : Within own.effectiveFrom own.effectiveTo
      (max line.intervalStart draft.intervalStart) :=
    hinside.within ⟨hof.covers.1.trans (le_max_left _ _), fun stop hstop =>
      (max_lt hproper (not_le.1 hbefore)).trans_le (hof.covers.2 stop hstop)⟩
  have hwithin' : Within own'.effectiveFrom own'.effectiveTo
      (max line.intervalStart draft.intervalStart) :=
    hinside'.within ⟨hof'.covers.1.trans (le_max_right _ _), fun stop hstop =>
      (max_lt (not_le.1 hafter) hproper').trans_le (hof'.covers.2 stop hstop)⟩
  obtain rfl := htiled.snapshot_eq hown hown' (hinstance.trans (hof.owner.trans
    (howner.trans (hof'.owner.symm.trans hinstance'.symm)))) hwithin hwithin'
  obtain rfl := hlater
  -- so both are in periods of one snapshot, which are different
  obtain ⟨invoice, hinvoice, ⟨hsnapshot, hfrom, huntil⟩, hkey, hend⟩ := h.ends line hline
  obtain ⟨hstart, hstop⟩ := (fileable_of_drafts hknown hcadence hdrafts).inside draft hdraft
  have hstop' := draft_ends hdrafts hdraft
  rcases hfiled.period_apart hsettling hvalid hknown hcadence hfresh hinvoice
    (hid.trans (hof.snapshot.trans hsnapshot)) with hle | hle
  · exact hbefore (hend.trans (hle.trans hstart))
  · exact hafter (hstop'.trans (hle.trans (hkey ▸ hfrom)))

theorem ChargedApart.processed (h : ChargedApart db) (hfiled : Filed db)
    (hsettling : Settling opening db) (htiled : Tiled db.timeline.toTimelineRows)
    (hlines : ∀ line ∈ db.lines, Grounded db.timeline.toTimelineRows line)
    (hvalid : validatePeriod input = .ok ()) (hknown : snapshot ∈ db.timeline.snapshots)
    (hcadence : snapshot.cadence = input.cadence)
    (hfresh : db.invoices.find? (input.scope snapshot) = none) {runId : String}
    (hprocessed : Processed input runId snapshot db db') :
    ChargedApart db' ∧ ∀ line ∈ db'.lines, Grounded db.timeline.toTimelineRows line := by
  obtain ⟨-, -, hkept, hnew⟩ := hfiled.processed hsettling hvalid hknown hcadence hfresh hprocessed
  have hends : ∀ line ∈ db.lines, ∃ invoice ∈ db'.invoices.rows, line.Of invoice ∧
      line.idempotencyKey.intervalStart = line.intervalStart ∧
      line.intervalEnd ≤ invoice.scope.period.periodEnd := by
    intro line hline
    obtain ⟨invoice, hinvoice, hof⟩ := h.ends line hline
    exact ⟨invoice, hkept invoice hinvoice, hof⟩
  cases hprocessed with
  | skipped => exact ⟨h, hlines⟩
  | reviewed => exact ⟨⟨hends, h.apart⟩, hlines⟩
  | @settled userId walletId drafts _ hdrafts hsettle =>
      obtain ⟨_, _, _, _, -, -, -, rfl⟩ := commits_settleDrafts hfresh hsettle
      refine ⟨⟨fun line hline => ?_, ?_⟩, fun line hline => ?_⟩
      · rcases List.mem_append.1 hline with hline | hline
        · exact hends line (List.mem_of_mem_filter hline)
        · obtain ⟨draft, hdraft, rfl⟩ := List.mem_map.1 hline
          obtain ⟨usage, horigin⟩ := origin_of_lineDrafts hdrafts hdraft
          obtain ⟨hstart, hproper, hstop⟩ := horigin.start, horigin.proper, horigin.stop
          obtain ⟨hfrom, huntil⟩ := horigin.used.inTarget
          obtain ⟨invoice, hinvoice, hscope⟩ := hnew (by omega)
          refine ⟨invoice, hinvoice, ⟨?_, ?_⟩, rfl, ?_⟩
          · rw [hscope]
            rfl
          · rw [hscope]
            exact (fileable_of_drafts hknown hcadence hdrafts).inside draft hdraft
          · rw [hscope]
            exact draft_ends hdrafts hdraft
      · refine List.pairwise_append.2 ⟨h.apart.filter _, drafts_apart db.timeline.valid hdrafts _,
          fun line hline other hother => ?_⟩
        obtain ⟨draft, hdraft, rfl⟩ := List.mem_map.1 hother
        have hmem := List.mem_of_mem_filter hline
        exact h.new_apart hfiled hsettling htiled hvalid hknown hcadence hfresh hdrafts hmem
          (hlines line hmem) hdraft _
      · rcases List.mem_append.1 hline with hline | hline
        · exact hlines line (List.mem_of_mem_filter hline)
        · obtain ⟨draft, hdraft, rfl⟩ := List.mem_map.1 hline
          exact grounded_of_drafts db.timeline.valid htiled hdrafts hdraft _

/-- The transaction of a period charges no time that has been charged. -/
theorem ChargedApart.settle (h : ChargedApart db) (hfiled : Filed db)
    (hconsistent : Consistent opening db) {run : Option BillingRun}
    (hcommit : Tx.Commits (settleClosedBillingPeriod input) db run db') : ChargedApart db' := by
  refine (hconsistent.settle_keeps (P := fun later => (Filed later ∧ ChargedApart later) ∧
      later.timeline = db.timeline ∧ ∀ line ∈ later.lines, Grounded db.timeline.toTimelineRows line)
    (fun later runs hkeep => ⟨⟨⟨hkeep.1.1.fits, hkeep.1.1.lines, hkeep.1.1.keys⟩, hkeep.1.2.ends,
      hkeep.1.2.apart⟩, hkeep.2⟩)
    (fun later books hkeep => ⟨⟨hkeep.1.1.withBooks books, hkeep.1.2.ends, hkeep.1.2.apart⟩,
      hkeep.2⟩)
    (fun hvalid snapshot hsnapshot runId later after hsettling hfresh hkeep hprocessed => ?_)
    ⟨⟨hfiled, h⟩, rfl, hconsistent.lines⟩ hcommit).1.2
  obtain ⟨⟨hfiled, hcharged⟩, htimeline, hlines⟩ := hkeep
  obtain ⟨hknown, hcadence, -⟩ := mem_loadSnapshots.1 hsnapshot
  have htiled := hconsistent.tiled
  rw [← htimeline] at hknown hlines htiled ⊢
  obtain ⟨hfiled', ⟨hsame, -⟩, -⟩ :=
    hfiled.processed hsettling hvalid hknown hcadence hfresh hprocessed
  obtain ⟨hcharged', hlines'⟩ := hcharged.processed hfiled hsettling htiled hlines hvalid hknown
    hcadence hfresh hprocessed
  exact ⟨⟨hfiled', hcharged'⟩, hsame, hlines'⟩

/-! ## Runs -/

theorem ChargedApart.step {system system' : BillingSystem} (h : ChargedApart system.db)
    (hfiled : Filed system.db) (hconsistent : Consistent opening system.db)
    (hstep : system.Live AfterBilled system') : ChargedApart system'.db := by
  cases hstep with
  | worked hquiet =>
      obtain ⟨hstep, -⟩ := hquiet
      cases hstep with
      | settled hcommit => exact h.settle hfiled hconsistent hcommit
      | failed hcommit =>
          obtain ⟨runs, rfl, -⟩ := commits_recordFailure hcommit
          exact ⟨h.ends, h.apart⟩
      | listed => exact h
      | caughtUp hnext hcommit => exact h.settle hfiled hconsistent hcommit
      | stopped hnext hcommit =>
          obtain ⟨runs, rfl, -⟩ := commits_recordFailure hcommit
          exact ⟨h.ends, h.apart⟩
      | crashed => exact h
      | scheduled timeline => exact ⟨h.ends, h.apart⟩
      | moved hmoved => exact ⟨h.ends, h.apart⟩
  | changed haccepted hcommit => exact ⟨h.ends, h.apart⟩
  | repriced rates hrows => exact ⟨h.ends, h.apart⟩

/-- **No instant of a server is charged twice for one rate card**, whatever invoices the lines are
of: in every run in which no confirmation reaches back behind a line of its server, and no clock
runs behind one. -/
theorem charged_once {start now : BillingSystem} (hstart : start.db.Fresh)
    (hrun : ReflTransGen (BillingSystem.Live AfterBilled) start now) :
    now.db.lines.Pairwise LinesApart := by
  suffices h : (Filed now.db ∧ ChargedApart now.db) ∧
      Consistent start.db.books.openingBalance now.db from h.1.2.apart
  induction hrun with
  | refl =>
      refine ⟨⟨hstart.unstopped.filed, ?_, ?_⟩, hstart.consistent⟩
      · simp [hstart.lines]
      · simp [hstart.lines]
  | tail _ hstep ih =>
      obtain ⟨⟨hfiled, hcharged⟩, hconsistent⟩ := ih
      exact ⟨⟨hfiled.live hconsistent.toStanding hstep, hcharged.step hfiled hconsistent hstep⟩,
        hconsistent.step hstep⟩

def secondHour : BillingPeriod :=
  { sampleHour with
    period := ⟨3600000, 7200000⟩
    now := 7200000
    runId := "second"
    newId := fun snapshotId => s!"second invoice of {snapshotId}" }

/-- Two hours of one service, in two invoices. -/
theorem charged_once_hours :
    let later := (settleClosedBillingPeriod secondHour sampleBilled).2
    later.lines.map (fun line => line.intervalEnd) = [3600000, 7200000] ∧
      later.lines.Pairwise LinesApart := by
  have hok : (settleClosedBillingPeriod sampleHour sampleUsed).1.isOk = true := by decide +kernel
  have hok' : (settleClosedBillingPeriod secondHour sampleBilled).1.isOk = true := by
    decide +kernel
  obtain ⟨first, hfirst⟩ := Tx.commits_of_isOk hok
  obtain ⟨second, hsecond⟩ := Tx.commits_of_isOk hok'
  have hrun := @sampleUsed_run AfterBilled fun _ _ => trivial
  have hused := sampleDb_fresh.consistent.run hrun
  have hbilled : Consistent sampleDb.books.openingBalance sampleBilled :=
    hused.step (.worked ⟨.settled hfirst, (hused.settle hfirst).1⟩)
  refine ⟨by decide +kernel, charged_once sampleDb_fresh
    ((hrun.tail (.worked ⟨.settled hfirst, (hused.settle hfirst).1⟩)).tail
      (.worked ⟨.settled hsecond, (hbilled.settle hsecond).1⟩))⟩

end AbrChin.Billing
