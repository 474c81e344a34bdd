import AbrChin.Billing.Billable

/-!
# Settlements while the timeline changes

The system in which periods are settled while services are started, their resources
confirmed and their cadences changed (`BillingSystem.Live`).  Invoices and lines keep
fitting the timeline (`Filed.live`), because no writer removes a policy snapshot; and so
the transaction of a period commits whenever no line of it is refused
(`exists_commits_settle`).
-/

namespace AbrChin.Billing

open Lib Wallet Relation

/-! ## The system -/

/-- The workers, the writers of the timeline, and other rate cards. -/
inductive BillingSystem.Live (accepted : BillingDb → TimelineEvent → Prop) :
    BillingSystem → BillingSystem → Prop
  /-- A worker moves, or another transaction moves money. -/
  | worked {system system' : BillingSystem} (h : system.Quiet system') :
      Live accepted system system'
  /-- A transaction that writes the timeline commits. -/
  | changed {system : BillingSystem} {event : TimelineEvent} {timeline : Timeline}
      (haccepted : accepted system.db event)
      (hcommit : Tx.Commits event.tx system.db.timeline () timeline) :
      Live accepted system { system with db := { system.db with timeline } }
  /-- The rate cards are replaced by any others that the tables allow. -/
  | repriced {system : BillingSystem} {timeline : Timeline} (rates : List RateCardVersion)
      (hrows : timeline.toTimelineRows = { system.db.timeline.toTimelineRows with rates }) :
      Live accepted system { system with db := { system.db with timeline } }

/-! ## What a run of snapshots keeps -/

section Keeps

variable {opening : String → ℤ} {db db' : BillingDb} {input : BillingPeriod} {runId : String}
  {seen : Books}

/-- What every processed snapshot keeps, a run of them keeps. -/
theorem Running.runs_keep {snapshots : List PolicySnapshot} {P : BillingDb → Prop}
    (h : Running opening input (snapshots.map PolicySnapshot.id) db)
    (hnodup : (snapshots.map PolicySnapshot.id).Nodup)
    (hperiod : input.period.periodEnd - input.period.periodStart =
      periodMilliseconds input.cadence)
    (hbooks : ∀ (db : BillingDb) (books : Books), P db → P { db with books })
    (hstep : ∀ snapshot ∈ snapshots, ∀ db db' : BillingDb, Settling opening db →
      db.invoices.find? (input.scope snapshot) = none → P db →
        Processed input runId snapshot db db' → P db')
    (hP : P db) {counts : ℕ × ℕ}
    (hcommit : Tx.Commits (processSnapshots input runId seen snapshots) db counts db') : P db' := by
  induction snapshots generalizing db counts with
  | nil =>
      obtain ⟨-, rfl⟩ := Tx.commits_pure.1 hcommit
      exact hP
  | cons snapshot rest ih =>
      obtain ⟨hdone, hrest⟩ := List.nodup_cons.1 hnodup
      simp only [processSnapshots, Tx.commits_bind, Tx.commits_pure] at hcommit
      obtain ⟨result, mid, hprocess, later, _, hlater, -, rfl⟩ := hcommit
      have hfresh := h.fresh hperiod
      obtain ⟨userId, wallet, books, hensure, hprocessed⟩ := processed_of_commits hfresh hprocess
      obtain ⟨hkept, hledger⟩ := ensured h.kept hensure
      have hmid : P mid := hstep snapshot (by simp) _ mid (h.opened hkept hledger).toSettling hfresh
        (hbooks db books hP) hprocessed
      exact ih (h.processes hdone hperiod hprocess).1 hrest
        (fun other hother => hstep other (by simp [hother])) hmid hlater

/-- What every processed snapshot keeps, the transaction of a period keeps. -/
theorem Standing.settle_keeps {P : BillingDb → Prop} (h : Standing opening db)
    (hruns : ∀ (db : BillingDb) (runs : Table BillingRun.key), P db → P { db with runs })
    (hbooks : ∀ (db : BillingDb) (books : Books), P db → P { db with books })
    (hstep : validatePeriod input = .ok () →
      ∀ snapshot ∈ db.timeline.toTimelineRows.loadSnapshots input.key,
      ∀ (runId : String) (db db' : BillingDb), Settling opening db →
        db.invoices.find? (input.scope snapshot) = none → P db →
        Processed input runId snapshot db db' → P db')
    (hP : P db) {run : Option BillingRun}
    (hcommit : Tx.Commits (settleClosedBillingPeriod input) db run db') : P db' := by
  simp only [settleClosedBillingPeriod, Tx.commits_bind, Tx.commits_ofExcept, Tx.commits_get]
    at hcommit
  obtain ⟨_, _, ⟨hvalid, rfl⟩, _, db, ⟨rfl, rfl⟩, hcommit⟩ := hcommit
  rcases Tx.commits_ite.1 hcommit with ⟨-, hcommit⟩ | ⟨hopen, hcommit⟩
  · obtain ⟨-, rfl⟩ := Tx.commits_pure.1 hcommit
    exact hP
  simp only [Tx.commits_bind, Tx.commits_get, updateRun, Tx.commits_modify, Tx.commits_pure]
    at hcommit
  obtain ⟨runId, _, hstart, _, started, ⟨rfl, rfl⟩, counts, processed, hprocess, _, _, rfl, _, _,
    ⟨rfl, rfl⟩, -, rfl⟩ := hcommit
  obtain ⟨hrunning, -, -⟩ := h.starts (Bool.eq_false_iff.2 hopen) hstart
  obtain ⟨runs, rfl, -⟩ := commits_openRun hstart
  refine hruns _ _ (hrunning.runs_keep (nodup_loadSnapshots _ _)
    (validatePeriod_eq_ok.1 hvalid).2.1 hbooks (fun snapshot hsnapshot => ?_) (hruns _ _ hP)
    hprocess)
  exact hstep hvalid snapshot hsnapshot runId

end Keeps

/-! ## Invoices and lines fit the timeline -/

section Filed

variable {opening : String → ℤ} {db db' : BillingDb} {input : BillingPeriod} {runId : String}
  {snapshot : PolicySnapshot}

theorem le_targetOf_start (snapshot : PolicySnapshot) (period : Period) :
    period.periodStart ≤ (targetOf snapshot period).start := le_max_left _ _

/-- The lines that are drafted for a snapshot can be filed. -/
theorem fileable_of_drafts (hknown : snapshot ∈ db.timeline.snapshots)
    (hcadence : snapshot.cadence = input.cadence) {drafts : List LineDraft}
    (hdrafts : lineDrafts db.timeline.toTimelineRows snapshot input.cadence
      (targetOf snapshot input.period) = .ok drafts) : Fileable input db snapshot drafts where
  known := hknown
  cadence := hcadence
  apart := lineDrafts_apart db.timeline.valid hdrafts
  inside := by
    intro draft hdraft
    obtain ⟨usage, horigin⟩ := origin_of_lineDrafts hdrafts hdraft
    have hfrom := le_targetOf_start snapshot input.period
    have huntil := targetOf_stop_le snapshot input.period
    obtain ⟨hstart, hstop⟩ := horigin.used.inTarget
    obtain ⟨hstart', hproper, hstop'⟩ := horigin.start, horigin.proper, horigin.stop
    constructor <;> omega

theorem Filed.withBooks (h : Filed db) (books : Books) : Filed { db with books } :=
  ⟨h.fits, h.lines, h.keys⟩

/-- An invoice that goes to review fits the timeline. -/
theorem Filed.reviewed (h : Filed db) (hvalid : validatePeriod input = .ok ())
    (hknown : snapshot ∈ db.timeline.snapshots) (hcadence : snapshot.cadence = input.cadence)
    {userId walletId : String} {reason : Option String} {invoices}
    (hinsert : db.invoices.insert?
      (input.invoice runId snapshot userId walletId .underReview reason) = some invoices) :
    Filed { db with invoices } := by
  have hrows := IndexedTable.rows_of_insert? hinsert
  refine ⟨fun invoice hinvoice => ?_, fun line hline => ?_, h.keys⟩
  · rw [show ({ db with invoices } : BillingDb).invoices = invoices from rfl, hrows] at hinvoice
    rcases List.mem_append.1 hinvoice with hinvoice | hinvoice
    · exact h.fits invoice hinvoice
    · obtain rfl := List.mem_singleton.1 hinvoice
      exact ⟨dvd_periodStart hvalid, snapshot, hknown, rfl, rfl, hcadence⟩
  · obtain ⟨invoice, hinvoice, hof⟩ := h.lines line hline
    refine ⟨invoice, ?_, hof⟩
    show invoice ∈ invoices.rows
    rw [hrows]
    exact List.mem_append_left _ hinvoice

/-- **Processing a snapshot keeps the files, adds one invoice at most, and one at least if the
snapshot is in force.** -/
theorem Filed.processed (h : Filed db) (hsettling : Settling opening db)
    (hvalid : validatePeriod input = .ok ()) (hknown : snapshot ∈ db.timeline.snapshots)
    (hcadence : snapshot.cadence = input.cadence)
    (hfresh : db.invoices.find? (input.scope snapshot) = none)
    (hprocessed : Processed input runId snapshot db db') :
    Filed db' ∧ (db'.timeline = db.timeline ∧ db'.runs = db.runs) ∧
      (∀ invoice ∈ db.invoices.rows, invoice ∈ db'.invoices.rows) ∧
      ((targetOf snapshot input.period).start < (targetOf snapshot input.period).stop →
        ∃ invoice ∈ db'.invoices.rows, invoice.scope = input.scope snapshot) := by
  cases hprocessed with
  | skipped htarget =>
      exact ⟨h, ⟨rfl, rfl⟩, fun _ => id, fun hlt => absurd htarget (not_le.2 hlt)⟩
  | @reviewed userId walletId review invoices hdrafts hinsert =>
      have hmem (invoice : BillingInvoice) : invoice ∈ invoices.rows ↔ invoice ∈ db.invoices.rows ∨
          invoice = input.invoice runId snapshot userId walletId .underReview
            (some review.reason) := by
        simp [IndexedTable.rows_of_insert? hinsert]
      exact ⟨h.reviewed hvalid hknown hcadence hinsert, ⟨rfl, rfl⟩,
        fun invoice hinvoice => (hmem invoice).2 (.inl hinvoice),
        fun _ => ⟨_, (hmem _).2 (.inr rfl), rfl⟩⟩
  | settled hdrafts hsettle =>
      obtain ⟨hfiled, hsame, -, new, hscope, -, hmem⟩ := h.settles hsettling hvalid
        (fileable_of_drafts hknown hcadence hdrafts) hfresh hsettle
      exact ⟨hfiled, hsame, fun invoice hinvoice => (hmem invoice).2 (.inl hinvoice),
        fun _ => ⟨new, (hmem new).2 (.inr rfl), hscope⟩⟩

/-- The transaction of a period keeps the files and the timeline. -/
theorem Filed.settle (h : Filed db) (hstanding : Standing opening db) {run : Option BillingRun}
    (hcommit : Tx.Commits (settleClosedBillingPeriod input) db run db') :
    Filed db' ∧ db'.timeline = db.timeline := by
  refine hstanding.settle_keeps (P := fun later => Filed later ∧ later.timeline = db.timeline)
    (fun later runs hkeep => ⟨⟨hkeep.1.fits, hkeep.1.lines, hkeep.1.keys⟩, hkeep.2⟩)
    (fun later books hkeep => ⟨hkeep.1.withBooks books, hkeep.2⟩)
    (fun hvalid snapshot hsnapshot runId later after hsettling hfresh hkeep hprocessed => ?_)
    ⟨h, rfl⟩ hcommit
  obtain ⟨hfiled, htimeline⟩ := hkeep
  obtain ⟨hknown, hcadence, -⟩ := mem_loadSnapshots.1 hsnapshot
  rw [← htimeline] at hknown
  obtain ⟨hfiled', ⟨hsame, -⟩, -⟩ :=
    hfiled.processed hsettling hvalid hknown hcadence hfresh hprocessed
  exact ⟨hfiled', hsame.trans htimeline⟩

/-- Recording a failure keeps the files and the timeline. -/
theorem Filed.fail (h : Filed db) {failureCode : String} {u : Unit}
    (hcommit : Tx.Commits (recordBillingRunFailure input failureCode) db u db') :
    Filed db' ∧ db'.timeline = db.timeline := by
  obtain ⟨runs, rfl, -⟩ := commits_recordFailure hcommit
  exact ⟨⟨h.fits, h.lines, h.keys⟩, rfl⟩

/-! ### What the writers of the timeline keep -/

/-- Every policy snapshot is still there, with its instance and its cadence. -/
def KeepsSnapshots (rows rows' : TimelineRows) : Prop :=
  ∀ snapshot ∈ rows.snapshots, ∃ later ∈ rows'.snapshots, later.id = snapshot.id ∧
    later.cloudInstanceId = snapshot.cloudInstanceId ∧ later.cadence = snapshot.cadence

theorem keepsSnapshots_of_eq {rows rows' : TimelineRows} (h : rows'.snapshots = rows.snapshots) :
    KeepsSnapshots rows rows' :=
  fun snapshot hsnapshot => ⟨snapshot, h ▸ hsnapshot, rfl, rfl, rfl⟩

/-- No writer removes a snapshot. -/
theorem keepsSnapshots_of_event {event : TimelineEvent} {timeline timeline' : Timeline}
    (hcommit : Tx.Commits event.tx timeline () timeline') :
    KeepsSnapshots timeline.toTimelineRows timeline'.toTimelineRows := by
  cases event with
  | start input =>
      simp only [TimelineEvent.tx, Tx.commits_bind, Tx.commits_pure] at hcommit
      obtain ⟨_, mid, hcommit, -, rfl⟩ := hcommit
      rcases commits_start hcommit with rfl | ⟨_, _, _, _, _, -, -, -, -, -, hrows⟩
      · exact keepsSnapshots_of_eq rfl
      · intro snapshot hsnapshot
        rw [hrows]
        exact ⟨snapshot, List.mem_append_left _ hsnapshot, rfl, rfl, rfl⟩
  | record input =>
      simp only [TimelineEvent.tx, Tx.commits_bind, Tx.commits_pure] at hcommit
      obtain ⟨_, mid, hcommit, -, rfl⟩ := hcommit
      rcases commits_record hcommit with rfl | ⟨cloud, between, -, -, -, hbetween, hrows⟩
      · exact keepsSnapshots_of_eq rfl
      · have hsame : between.snapshots = timeline.snapshots := by
          rw [hbetween]
          cases timeline.currentVersion cloud.id <;> rfl
        refine keepsSnapshots_of_eq ?_
        rw [hrows]
        exact hsame
  | cadence input =>
      simp only [TimelineEvent.tx, Tx.commits_bind, Tx.commits_pure] at hcommit
      obtain ⟨_, mid, hcommit, -, rfl⟩ := hcommit
      obtain ⟨current, -, openUsage, -, minimumCreditRial, -, -, -, -, -, hrows⟩ :=
        commits_cadence hcommit
      intro snapshot hsnapshot
      refine ⟨endSnapshot current.id input.effectiveFrom snapshot, ?_, ?_⟩
      · rw [hrows]
        exact List.mem_append_left _ (List.mem_map_of_mem hsnapshot)
      · unfold endSnapshot
        split_ifs <;> exact ⟨rfl, rfl, rfl⟩
  | instances rows =>
      obtain rfl := Tx.commits_modify.1 hcommit
      exact keepsSnapshots_of_eq rfl

theorem Filed.rescheduled (h : Filed db) {timeline : Timeline}
    (hkeeps : KeepsSnapshots db.timeline.toTimelineRows timeline.toTimelineRows) :
    Filed { db with timeline } := by
  refine ⟨fun invoice hinvoice => ?_, h.lines, h.keys⟩
  obtain ⟨haligned, snapshot, hsnapshot, hid, hinstance, hcadence⟩ := h.fits invoice hinvoice
  obtain ⟨later, hlater, hsame, hsame', hsame''⟩ := hkeeps snapshot hsnapshot
  exact ⟨haligned, later, hlater, hsame.trans hid, hsame'.trans hinstance, hsame''.trans hcadence⟩

/-- Every step keeps the files. -/
theorem Filed.live {accepted : BillingDb → TimelineEvent → Prop} {system system' : BillingSystem}
    (h : Filed system.db) (hstanding : Standing opening system.db)
    (hstep : system.Live accepted system') : Filed system'.db := by
  cases hstep with
  | worked hquiet =>
      obtain ⟨hstep, htimeline⟩ := hquiet
      cases hstep with
      | settled hcommit => exact (h.settle hstanding hcommit).1
      | failed hcommit => exact (h.fail hcommit).1
      | listed => exact h
      | caughtUp hnext hcommit => exact (h.settle hstanding hcommit).1
      | stopped hnext hcommit => exact (h.fail hcommit).1
      | crashed => exact h
      | scheduled timeline =>
          obtain rfl : timeline = system.db.timeline := htimeline
          exact h
      | moved hmoved => exact h.withBooks _
  | changed haccepted hcommit => exact h.rescheduled (keepsSnapshots_of_event hcommit)
  | repriced rates hrows =>
      exact h.rescheduled (keepsSnapshots_of_eq (by rw [hrows]))

theorem Standing.live {accepted : BillingDb → TimelineEvent → Prop} {system system' : BillingSystem}
    (h : Standing opening system.db) (hstep : system.Live accepted system') :
    Standing opening system'.db := by
  cases hstep with
  | worked hquiet => exact (h.step hquiet.1).1
  | changed haccepted hcommit => exact (h.scheduled _).1
  | repriced rates hrows => exact (h.scheduled _).1

end Filed

/-! ## A settlement commits -/

/-- A snapshot of the period whose user has a wallet, and of which no line is refused. -/
structure Settleable (timeline : Timeline) (input : BillingPeriod) (seen : Books)
    (snapshot : PolicySnapshot) : Prop where
  known : snapshot ∈ timeline.snapshots
  cadence : snapshot.cadence = input.cadence
  user : ∃ cloud wallet,
    (timeline.instances.find? fun row => row.id = snapshot.cloudInstanceId) = some cloud ∧
      seen.walletOf cloud.userId = some wallet
  unrefused : ∀ code, lineDrafts timeline.toTimelineRows snapshot input.cadence
    (targetOf snapshot input.period) ≠ .error (.thrown code)

/-- A run of which some snapshots are still pending, with new ids for them. -/
structure Progressing (opening : String → ℤ) (input : BillingPeriod) (seen : Books)
    (pending : List PolicySnapshot) (db : BillingDb) : Prop
    extends Running opening input (pending.map PolicySnapshot.id) db where
  filed : Filed db
  wallets : Books.Bookings seen db.books
  new : ∀ snapshot ∈ pending, NewFor (input.newId snapshot.id) db

section Progressing

variable {opening : String → ℤ} {db db' : BillingDb} {input : BillingPeriod} {seen : Books}
  {snapshot : PolicySnapshot} {rest : List PolicySnapshot}

/-- A snapshot of which no line is refused can be processed. -/
theorem Progressing.exists_commits (h : Progressing opening input seen (snapshot :: rest) db)
    (hready : Settleable db.timeline input seen snapshot) (hvalid : validatePeriod input = .ok ())
    (runId : String) :
    ∃ result db', Tx.Commits (processSnapshot input runId seen snapshot) db result db' := by
  have hfresh := h.toRunning.fresh (validatePeriod_eq_ok.1 hvalid).2.1
  have hnew := h.new snapshot (by simp)
  obtain ⟨cloud, wallet, hcloud, hwallet⟩ := hready.user
  simp only [processSnapshot, Tx.commits_bind, Tx.commits_get, Tx.commits_orThrow, hcloud,
    commits_ensure_seen hwallet, Option.some.injEq, and_assoc, exists_and_left, exists_eq_left,
    exists_eq_left']
  by_cases htarget : (targetOf snapshot input.period).stop ≤ (targetOf snapshot input.period).start
  · rw [if_pos htarget]
    exact ⟨_, db, Tx.commits_pure.2 ⟨rfl, rfl⟩⟩
  rw [if_neg htarget, hfresh]
  cases hdrafts : lineDrafts db.timeline.toTimelineRows snapshot input.cadence
      (targetOf snapshot input.period) with
  | error stop =>
      cases stop with
      | thrown code => exact absurd hdrafts (hready.unrefused code)
      | review review =>
          obtain ⟨invoices, hupsert⟩ : ∃ invoices, Tx.Commits (upsertInvoice (input.invoice runId
              snapshot cloud.userId wallet.id .underReview (some review.reason))) db _
              { db with invoices } := exists_commits_upsertInvoice hfresh hnew.invoices
          refine ⟨⟨true, true⟩, { db with invoices }, ?_⟩
          simp only [Option.any_none, Bool.false_eq_true, if_false, markInvoiceForReview,
            Tx.commits_bind, Tx.commits_pure]
          exact ⟨_, _, hupsert, trivial, rfl⟩
  | ok drafts =>
      obtain ⟨db', hsettle⟩ : ∃ db', Tx.Commits
          (settleDrafts input runId snapshot cloud.userId wallet.id drafts) db () db' :=
        exists_commits_settleDrafts hfresh hnew.invoices hnew.entries
          (wallet_isSome_of_seen h.wallets hwallet) (h.filed.keys_nodup h.toSettling hvalid
            (fileable_of_drafts hready.known hready.cadence hdrafts) hfresh _)
      refine ⟨⟨true, false⟩, db', ?_⟩
      simp only [Option.any_none, Bool.false_eq_true, if_false, Tx.commits_bind, Tx.commits_pure]
      exact ⟨(), db', hsettle, trivial, rfl⟩

/-- Processing a snapshot leaves the ids of the others new. -/
theorem NewFor.processed {newId runId : String} (h : NewFor newId db)
    (hother : input.newId snapshot.id ≠ newId)
    (hfresh : db.invoices.find? (input.scope snapshot) = none)
    (hprocessed : Processed input runId snapshot db db') : NewFor newId db' := by
  cases hprocessed with
  | skipped => exact h
  | reviewed hdrafts hinsert =>
      refine ⟨fun invoice hinvoice => ?_, h.entries⟩
      simp only [IndexedTable.rows_of_insert? hinsert] at hinvoice
      rcases List.mem_append.1 hinvoice with hinvoice | hinvoice
      · exact h.invoices invoice hinvoice
      · obtain rfl := List.mem_singleton.1 hinvoice
        exact hother
  | settled hdrafts hsettle => exact h.settles hother hfresh hsettle

/-- Processing a snapshot moves no wallet away. -/
theorem bookings_of_processed {runId : String}
    (hfresh : db.invoices.find? (input.scope snapshot) = none)
    (hprocessed : Processed input runId snapshot db db') : Books.Bookings db.books db'.books := by
  cases hprocessed with
  | skipped => exact .refl
  | reviewed => exact .refl
  | settled hdrafts hsettle =>
      obtain ⟨_, _, _, books, -, -, hpay, rfl⟩ := commits_settleDrafts hfresh hsettle
      exact bookings_of_settleInvoice hpay

/-- **A snapshot that is processed leaves the others to be processed.** -/
theorem Progressing.processes (h : Progressing opening input seen (snapshot :: rest) db)
    (hready : Settleable db.timeline input seen snapshot)
    (hdone : snapshot.id ∉ rest.map PolicySnapshot.id) (hinjective : Function.Injective input.newId)
    (hvalid : validatePeriod input = .ok ()) {runId : String} {result : SnapshotResult}
    (hcommit : Tx.Commits (processSnapshot input runId seen snapshot) db result db') :
    Progressing opening input seen rest db' ∧
      (db'.timeline = db.timeline ∧ db'.runs = db.runs) ∧
      (∀ invoice ∈ db.invoices.rows, invoice ∈ db'.invoices.rows) ∧
      ((targetOf snapshot input.period).start < (targetOf snapshot input.period).stop →
        ∃ invoice ∈ db'.invoices.rows, invoice.scope = input.scope snapshot) := by
  have hperiod := (validatePeriod_eq_ok.1 hvalid).2.1
  have hfresh := h.toRunning.fresh hperiod
  obtain ⟨userId, wallet, books, hensure, hprocessed⟩ := processed_of_commits hfresh hcommit
  obtain ⟨hkept, hledger⟩ := ensured h.kept hensure
  have hopened := h.toRunning.opened hkept hledger
  have hfresh' : ({ db with books } : BillingDb).invoices.find? (input.scope snapshot) = none :=
    hfresh
  obtain ⟨hfiled, hsame, hstays, hinvoice⟩ := (h.filed.withBooks books).processed
    hopened.toSettling hvalid hready.known hready.cadence hfresh' hprocessed
  have hbookings : Books.Bookings seen db'.books :=
    (h.wallets.trans (bookings_of_ensure hensure)).trans (bookings_of_processed hfresh' hprocessed)
  refine ⟨⟨(h.toRunning.processes hdone hperiod hcommit).1, hfiled, hbookings,
    fun other hother => ?_⟩, hsame, hstays, hinvoice⟩
  have hnew := h.new other (List.mem_cons_of_mem _ hother)
  have hopenedNew : NewFor (input.newId other.id) { db with books } :=
    ⟨hnew.invoices, fun entry hentry => hnew.entries entry (hledger ▸ hentry)⟩
  refine hopenedNew.processed (fun hsame => hdone ?_) hfresh' hprocessed
  rw [hinjective hsame]
  exact List.mem_map_of_mem hother

theorem Progressing.exists_runs {snapshots : List PolicySnapshot}
    (h : Progressing opening input seen snapshots db)
    (hready : ∀ snapshot ∈ snapshots, Settleable db.timeline input seen snapshot)
    (hnodup : (snapshots.map PolicySnapshot.id).Nodup)
    (hinjective : Function.Injective input.newId) (hvalid : validatePeriod input = .ok ())
    (runId : String) :
    ∃ counts db', Tx.Commits (processSnapshots input runId seen snapshots) db counts db' ∧
      (∀ invoice ∈ db.invoices.rows, invoice ∈ db'.invoices.rows) ∧
      ∀ snapshot ∈ snapshots,
        (targetOf snapshot input.period).start < (targetOf snapshot input.period).stop →
        ∃ invoice ∈ db'.invoices.rows, invoice.scope = input.scope snapshot := by
  induction snapshots generalizing db with
  | nil => exact ⟨(0, 0), db, Tx.commits_pure.2 ⟨rfl, rfl⟩, fun _ => id, by simp⟩
  | cons snapshot rest ih =>
      obtain ⟨hdone, hrest⟩ := List.nodup_cons.1 hnodup
      obtain ⟨result, mid, hprocess⟩ := h.exists_commits (hready snapshot (by simp)) hvalid runId
      obtain ⟨hmid, ⟨htimeline, -⟩, hstays, hinvoice⟩ :=
        h.processes (hready snapshot (by simp)) hdone hinjective hvalid hprocess
      obtain ⟨counts, db', hlater, hstays', hall⟩ := ih hmid
        (fun other hother => htimeline ▸ hready other (by simp [hother])) hrest
      refine ⟨(counts.1 + result.invoiced.toNat, counts.2 + result.review.toNat), db', ?_,
        fun invoice hmem => hstays' _ (hstays _ hmem), fun other hother htarget => ?_⟩
      · simp only [processSnapshots, Tx.commits_bind, Tx.commits_pure]
        exact ⟨result, mid, hprocess, counts, db', hlater, rfl, rfl⟩
      · rcases List.mem_cons.1 hother with rfl | hother
        · obtain ⟨invoice, hmem, hscope⟩ := hinvoice htarget
          exact ⟨invoice, hstays' invoice hmem, hscope⟩
        · exact hall other hother htarget

end Progressing

/-- **The transaction of a period commits when no line is refused**, and unless its run is over
already, every snapshot that is in force in the period then has its invoice. -/
theorem exists_commits_settle {opening : String → ℤ} {db : BillingDb} {input : BillingPeriod}
    (hstanding : Standing opening db) (hfiled : Filed db) (hvalid : validatePeriod input = .ok ())
    (hnew : input.NewIds db)
    (hready : ∀ snapshot ∈ db.timeline.toTimelineRows.loadSnapshots input.key,
      Settleable db.timeline input db.books snapshot) :
    ∃ run db', Tx.Commits (settleClosedBillingPeriod input) db run db' ∧
      ((db.runs.find? input.key).any (fun run => run.status.terminal) = false →
        ∀ snapshot ∈ db.timeline.toTimelineRows.loadSnapshots input.key,
          (targetOf snapshot input.period).start < (targetOf snapshot input.period).stop →
          ∃ invoice ∈ db'.invoices.rows, invoice.scope = input.scope snapshot) := by
  by_cases hover : (db.runs.find? input.key).any (fun run => run.status.terminal) = true
  · refine ⟨db.runs.find? input.key, db, ?_, fun hopen => absurd hover (by simp [hopen])⟩
    simp only [settleClosedBillingPeriod, Tx.commits_bind, Tx.commits_ofExcept, Tx.commits_get]
    refine ⟨(), db, ⟨hvalid, rfl⟩, db, db, ⟨rfl, rfl⟩, ?_⟩
    rw [if_pos hover]
    exact Tx.commits_pure.2 ⟨rfl, rfl⟩
  · obtain ⟨runId, started, hstart⟩ := exists_commits_openRun input db
    have hrunning : Running opening input
        ((db.timeline.toTimelineRows.loadSnapshots input.key).map PolicySnapshot.id) started :=
      (hstanding.starts (Bool.eq_false_iff.2 hover) hstart).1
    obtain ⟨runs, rfl, -⟩ := commits_openRun hstart
    have hprogressing : Progressing opening input db.books
        (db.timeline.toTimelineRows.loadSnapshots input.key) { db with runs } :=
      ⟨hrunning, ⟨hfiled.fits, hfiled.lines, hfiled.keys⟩, .refl,
        fun snapshot _ => ⟨(hnew.2 snapshot.id).invoices, (hnew.2 snapshot.id).entries⟩⟩
    obtain ⟨counts, processed, hprocess, -, hall⟩ := hprogressing.exists_runs hready
      (nodup_loadSnapshots _ _) hnew.1 hvalid runId
    refine ⟨(processed.runs.modify input.key (·.finish counts) fun _ => rfl).find? input.key,
      { processed with runs := processed.runs.modify input.key (·.finish counts) fun _ => rfl },
      ?_, fun _ => hall⟩
    simp only [settleClosedBillingPeriod, Tx.commits_bind, Tx.commits_ofExcept, Tx.commits_get]
    refine ⟨(), db, ⟨hvalid, rfl⟩, db, db, ⟨rfl, rfl⟩, ?_⟩
    rw [if_neg hover]
    simp only [Tx.commits_bind, Tx.commits_get, updateRun, Tx.commits_modify, Tx.commits_pure]
    exact ⟨runId, _, hstart, _, _, ⟨rfl, rfl⟩, counts, processed, hprocess, (), _, rfl, _, _,
      ⟨rfl, rfl⟩, rfl, rfl⟩

end AbrChin.Billing
