import AbrChin.Billing.Once
import AbrChin.Billing.Services
import AbrChin.Billing.Slices

/-!
# A settlement commits

When the ids that it draws are new, the wallets of its users are there and the lines of
its snapshots can be drafted, nothing refuses what the transaction of a period writes.
-/

namespace AbrChin.Billing

open Lib Wallet

section Statements

variable {books : Books} {db : BillingDb} {input : BillingPeriod} {snapshot : PolicySnapshot}

theorem exists_commits_debitLocked {data : Books.EntryData}
    (hwallet : (books.wallets.find? data.walletId).isSome) (hreversed : data.reversedEntryId = none)
    (hfresh : ∀ entry ∈ books.ledger.rows,
      entry.id ≠ data.id ∧ entry.idempotencyKey ≠ data.idempotencyKey) :
    ∃ entry books', Tx.Commits (Books.debitLocked data) books entry books' := by
  obtain ⟨wallet, hwallet⟩ := Option.isSome_iff_exists.1 hwallet
  have hmodified : (books.wallets.modify? data.walletId (·.add (-data.amount))
      fun _ => rfl).isSome := IndexedTable.modify?_isSome (by simp [WalletRow.add])
  obtain ⟨wallets, hmodify⟩ := Option.isSome_iff_exists.1 hmodified
  set entry := data.entry (wallet.add (-data.amount)).availableBalance with hentry
  have hkey : books.ledger.find? entry.idempotencyKey = none := by
    cases hfind : books.ledger.find? entry.idempotencyKey with
    | none => rfl
    | some other =>
        obtain ⟨hmem, hsame⟩ := IndexedTable.find?_eq_some.1 hfind
        exact absurd hsame (hfresh other hmem).2
  have hinserted : (books.ledger.insert? entry).isSome := by
    refine IndexedTable.insert?_isSome hkey fun index hindex value hvalue other hother => ?_
    rcases List.mem_cons.1 hindex with rfl | hindex
    · cases hvalue
      exact fun hsame => (hfresh other hother).1 (Option.some.inj hsame)
    · obtain rfl := List.mem_singleton.1 hindex
      simp [WalletLedgerEntry.reversal, hentry, Books.EntryData.entry, hreversed] at hvalue
  obtain ⟨ledger, hinsert⟩ := Option.isSome_iff_exists.1 hinserted
  refine ⟨entry, { wallets, ledger }, ?_⟩
  rw [Books.debitLocked, Tx.commits_bind]
  exact ⟨_, _, Books.commits_addBalance.2 ⟨wallet, hwallet, rfl, wallets, hmodify, rfl⟩,
    Books.commits_createEntry.2 ⟨rfl, ledger, hinsert, rfl⟩⟩

theorem exists_commits_settleInvoice {charge : InvoiceCharge} {walletId : String}
    (hwallet : (books.wallets.find? walletId).isSome)
    (hfresh : ∀ entry ∈ books.ledger.rows, entry.id ≠ charge.ids.entry ∧
      entry.idempotencyKey ≠ invoiceDebitKey charge.invoiceId) :
    ∃ paid books', Tx.Commits (settleInvoice charge walletId) books paid books' := by
  obtain ⟨wallet, hfind⟩ := Option.isSome_iff_exists.1 hwallet
  set paid := payable wallet.availableBalance charge.totalAmountRial with hpaid
  simp only [settleInvoice, Tx.commits_bind, Tx.commits_get, Tx.commits_orThrow]
  by_cases hpositive : 0 < paid
  · have hdebit : ∃ entry books',
        Tx.Commits (Books.debitLocked (invoiceDebit charge walletId paid)) books entry books' :=
      exists_commits_debitLocked hwallet rfl hfresh
    obtain ⟨entry, books', hdebit⟩ := hdebit
    refine ⟨paid, books', books, books, ⟨rfl, rfl⟩, wallet, books, ⟨hfind, rfl⟩, ?_⟩
    simp only [← hpaid, if_pos hpositive, Tx.commits_bind, Tx.commits_pure]
    exact ⟨entry, books', hdebit, trivial, rfl⟩
  · refine ⟨paid, books, books, books, ⟨rfl, rfl⟩, wallet, books, ⟨hfind, rfl⟩, ?_⟩
    simp only [← hpaid, if_neg hpositive, Tx.commits_pure]
    exact ⟨trivial, trivial⟩

theorem exists_commits_upsertInvoice {create : BillingInvoice}
    (hfresh : db.invoices.find? create.scope = none)
    (hid : ∀ invoice ∈ db.invoices.rows, invoice.id ≠ create.id) :
    ∃ invoices, Tx.Commits (upsertInvoice create) db create { db with invoices } := by
  have hinserted : (db.invoices.insert? create).isSome := by
    refine IndexedTable.insert?_isSome hfresh fun index hindex value hvalue other hother => ?_
    obtain rfl := List.mem_singleton.1 hindex
    cases hvalue
    exact fun hsame => hid other hother (Option.some.inj hsame)
  obtain ⟨invoices, hinsert⟩ := Option.isSome_iff_exists.1 hinserted
  refine ⟨invoices, ?_⟩
  simp only [upsertInvoice, Tx.commits_bind, Tx.commits_get]
  refine ⟨db, db, ⟨rfl, rfl⟩, ?_⟩
  simp only [hfresh, Tx.commits_bind, Tx.commits_attempt, Tx.commits_pure]
  exact ⟨(), _, by rw [hinsert]; rfl, trivial, rfl⟩

theorem exists_commits_settleDrafts {runId userId walletId : String} {drafts : List LineDraft}
    (hfresh : db.invoices.find? (input.scope snapshot) = none)
    (hid : ∀ invoice ∈ db.invoices.rows, invoice.id ≠ input.newId snapshot.id)
    (hentries : ∀ entry ∈ db.books.ledger.rows, entry.id ≠ input.newId snapshot.id ∧
      entry.idempotencyKey ≠ invoiceDebitKey (input.newId snapshot.id))
    (hwallet : (db.books.wallets.find? walletId).isSome)
    (hlines : (((db.lines.filter fun line => line.billingInvoiceId ≠ input.newId snapshot.id) ++
      drafts.map (billingLine snapshot (input.newId snapshot.id))).map
        BillingLine.idempotencyKey).Nodup) :
    ∃ db', Tx.Commits (settleDrafts input runId snapshot userId walletId drafts) db () db' := by
  set create := input.invoice runId snapshot userId walletId .calculating none
  set newId := input.newId snapshot.id
  obtain ⟨created, hupsert⟩ : ∃ created,
      Tx.Commits (upsertInvoice create) db create { db with invoices := created } :=
    exists_commits_upsertInvoice hfresh hid
  obtain ⟨paid, books, hsettle⟩ : ∃ paid books, Tx.Commits (settleInvoice
      ⟨newId, userId, totalOf drafts, ⟨newId, newId, newId⟩⟩ walletId) db.books paid books :=
    exists_commits_settleInvoice hwallet hentries
  have hmodified : (created.modify? (input.scope snapshot) (·.settle (totalOf drafts) paid)
      (BillingInvoice.scope_settle _ _)).isSome :=
    IndexedTable.modify?_isSome (by simp [BillingInvoice.settle])
  obtain ⟨invoices, hfinish⟩ := Option.isSome_iff_exists.1 hmodified
  simp only [settleDrafts, Tx.commits_bind]
  refine ⟨_, _, _, hupsert, (), _, Tx.commits_attempt.2 (if_pos hlines), paid, _,
    commits_onBooks.2 ⟨books, hsettle, rfl⟩, commits_finishInvoice.2 ⟨invoices, hfinish, rfl⟩⟩

/-- A wallet that the run has seen is not opened again. -/
theorem commits_ensure_seen {seen : Books} {userId newId : String} {wallet found : WalletRow}
    {mid : BillingDb} (hwallet : seen.walletOf userId = some wallet) :
    Tx.Commits (onBooks (Books.ensureWalletForUser seen userId newId)) db found mid ↔
      found = wallet ∧ mid = db := by
  rw [commits_onBooks]
  simp only [Books.ensureWalletForUser, hwallet, Tx.commits_pure]
  constructor
  · rintro ⟨_, ⟨rfl, rfl⟩, rfl⟩
    exact ⟨rfl, rfl⟩
  · rintro ⟨rfl, rfl⟩
    exact ⟨_, ⟨rfl, rfl⟩, rfl⟩

/-- A snapshot that is in force and whose lines can be drafted is settled. -/
theorem commits_processSnapshot {runId : String} {seen : Books} {cloud : CloudInstance}
    {wallet : WalletRow} {drafts : List LineDraft} {result : SnapshotResult} {db' : BillingDb}
    (hcloud : (db.timeline.instances.find? fun row => row.id = snapshot.cloudInstanceId) =
      some cloud)
    (hwallet : seen.walletOf cloud.userId = some wallet)
    (htarget : (targetOf snapshot input.period).start < (targetOf snapshot input.period).stop)
    (hfresh : db.invoices.find? (input.scope snapshot) = none)
    (hdrafts : lineDrafts db.timeline.toTimelineRows snapshot input.cadence
      (targetOf snapshot input.period) = .ok drafts) :
    Tx.Commits (processSnapshot input runId seen snapshot) db result db' ↔
      result = ⟨true, false⟩ ∧
        Tx.Commits (settleDrafts input runId snapshot cloud.userId wallet.id drafts) db () db' := by
  have hensure {found : WalletRow} {mid : BillingDb} :
      Tx.Commits (onBooks (Books.ensureWalletForUser seen cloud.userId (input.newId snapshot.id)))
        db found mid ↔ found = wallet ∧ mid = db := commits_ensure_seen hwallet
  simp only [processSnapshot, Tx.commits_bind, Tx.commits_get, Tx.commits_orThrow]
  constructor
  · rintro ⟨_, db, ⟨rfl, rfl⟩, found, _, ⟨hfound, rfl⟩, _, _, hwallet, h⟩
    cases hcloud.symm.trans hfound
    obtain ⟨rfl, rfl⟩ := hensure.1 hwallet
    simp only [if_neg htarget.not_ge, hfresh, Option.any_none, Bool.false_eq_true, if_false,
      hdrafts, Tx.commits_bind, Tx.commits_pure] at h
    obtain ⟨_, _, hsettle, rfl, rfl⟩ := h
    exact ⟨rfl, hsettle⟩
  · rintro ⟨rfl, hsettle⟩
    refine ⟨db, db, ⟨rfl, rfl⟩, cloud, db, ⟨hcloud, rfl⟩, wallet, db, hensure.2 ⟨rfl, rfl⟩, ?_⟩
    simp only [if_neg htarget.not_ge, hfresh, Option.any_none, Bool.false_eq_true, if_false,
      hdrafts, Tx.commits_bind, Tx.commits_pure]
    exact ⟨(), db', hsettle, trivial, rfl⟩

end Statements

/-! ## What fits the timeline -/

/-- An invoice is for a snapshot of the timeline and a period of its cadence. -/
def BillingInvoice.Fits (rows : TimelineRows) (invoice : BillingInvoice) : Prop :=
  periodMilliseconds invoice.cadence ∣ invoice.scope.period.periodStart ∧
    ∃ snapshot ∈ rows.snapshots, snapshot.id = invoice.scope.billingPolicySnapshotId ∧
      snapshot.cloudInstanceId = invoice.scope.cloudInstanceId ∧ snapshot.cadence = invoice.cadence

/-- A line is one of an invoice, for some time of its period. -/
def BillingLine.Of (invoice : BillingInvoice) (line : BillingLine) : Prop :=
  line.idempotencyKey.billingPolicySnapshotId = invoice.scope.billingPolicySnapshotId ∧
    invoice.scope.period.periodStart ≤ line.idempotencyKey.intervalStart ∧
    line.idempotencyKey.intervalStart < invoice.scope.period.periodEnd

/-- Every invoice is settled, and the invoices and lines fit the timeline. -/
structure Neat (db : BillingDb) : Prop where
  settled : ∀ invoice ∈ db.invoices.rows, invoice.status.settled = true
  fits : ∀ invoice ∈ db.invoices.rows, invoice.Fits db.timeline.toTimelineRows
  lines : ∀ line ∈ db.lines, ∃ invoice ∈ db.invoices.rows, line.Of invoice
  keys : (db.lines.map BillingLine.idempotencyKey).Nodup

/-- The invoices and lines fit the timeline. -/
structure Filed (db : BillingDb) : Prop where
  fits : ∀ invoice ∈ db.invoices.rows, invoice.Fits db.timeline.toTimelineRows
  lines : ∀ line ∈ db.lines, ∃ invoice ∈ db.invoices.rows, line.Of invoice
  keys : (db.lines.map BillingLine.idempotencyKey).Nodup

theorem Neat.filed {db : BillingDb} (h : Neat db) : Filed db := ⟨h.fits, h.lines, h.keys⟩

section Fits

variable {opening : String → ℤ} {db db' : BillingDb} {input : BillingPeriod}
  {snapshot : PolicySnapshot} {drafts : List LineDraft}

/-- A period that begins on a multiple of its length is given by an instant in it. -/
theorem start_of_mem {length start instant : ℤ} (hstart : length ∣ start) (hfrom : start ≤ instant)
    (huntil : instant < start + length) : start = instant - instant % length := by
  obtain ⟨index, rfl⟩ := hstart
  have hmod : (instant - length * index) % length = instant - length * index :=
    Int.emod_eq_of_lt (by omega) (by omega)
  rw [Int.sub_mul_emod_self_left] at hmod
  omega

/-- A period that can be settled begins on a boundary of its cadence. -/
theorem dvd_periodStart (hvalid : validatePeriod input = .ok ()) :
    periodMilliseconds input.cadence ∣ input.period.periodStart := by
  obtain ⟨-, -, hhour, hday⟩ := validatePeriod_eq_ok.1 hvalid
  refine Int.dvd_of_emod_eq_zero ?_
  cases hcadence : input.cadence with
  | hourly => exact hhour
  | daily => exact hday hcadence

/-- What a run may assume of the snapshot that it settles next. -/
structure Fileable (input : BillingPeriod) (db : BillingDb) (snapshot : PolicySnapshot)
    (drafts : List LineDraft) : Prop where
  known : snapshot ∈ db.timeline.snapshots
  cadence : snapshot.cadence = input.cadence
  apart : drafts.Pairwise Apart
  inside : ∀ draft ∈ drafts, input.period.periodStart ≤ draft.intervalStart ∧
    draft.intervalStart < input.period.periodEnd

/-- What a run may assume of a snapshot that has one line at most. -/
structure Due (input : BillingPeriod) (db : BillingDb) (snapshot : PolicySnapshot)
    (drafts : List LineDraft) : Prop where
  known : snapshot ∈ db.timeline.snapshots
  cadence : snapshot.cadence = input.cadence
  single : drafts.length ≤ 1
  inside : ∀ draft ∈ drafts, input.period.periodStart ≤ draft.intervalStart ∧
    draft.intervalStart < input.period.periodEnd

theorem Due.fileable (h : Due input db snapshot drafts) : Fileable input db snapshot drafts where
  known := h.known
  cadence := h.cadence
  inside := h.inside
  apart := by
    have hsingle := h.single
    match drafts with
    | [] => exact .nil
    | [draft] => exact List.pairwise_singleton _ _
    | first :: second :: rest => simp at hsingle

/-- The periods of a snapshot are cut on a grid: one that has no invoice yet has no instant in
common with one that has. -/
theorem Filed.period_apart (h : Filed db) (hsettling : Settling opening db)
    (hvalid : validatePeriod input = .ok ()) (hknown : snapshot ∈ db.timeline.snapshots)
    (hcadence : snapshot.cadence = input.cadence)
    (hfresh : db.invoices.find? (input.scope snapshot) = none) {invoice : BillingInvoice}
    (hinvoice : invoice ∈ db.invoices.rows)
    (hsnapshot : snapshot.id = invoice.scope.billingPolicySnapshotId) :
    invoice.scope.period.periodEnd ≤ input.period.periodStart ∨
      input.period.periodEnd ≤ invoice.scope.period.periodStart := by
  obtain ⟨haligned, own, hown, hid, hinstance, hsame⟩ := h.fits invoice hinvoice
  obtain ⟨-, hlength, -, -⟩ := validatePeriod_eq_ok.1 hvalid
  obtain rfl : own = snapshot :=
    snapshot_ext db.timeline.valid hown hknown (hid.trans hsnapshot.symm)
  have hlength' := hsettling.length invoice hinvoice
  rw [hsame.symm.trans hcadence] at haligned hlength'
  by_contra hmeet
  -- both periods contain the later of their starts
  have hstart : invoice.scope.period.periodStart = input.period.periodStart :=
    (@start_of_mem _ _ (max invoice.scope.period.periodStart input.period.periodStart) haligned
      (by omega) (by omega)).trans (start_of_mem (dvd_periodStart hvalid) (by omega) (by omega)).symm
  have hend : invoice.scope.period.periodEnd = input.period.periodEnd := by omega
  clear hmeet
  have hscope : invoice.scope = input.scope own := by
    have : invoice.scope.period = input.period := by
      cases hp : invoice.scope.period
      cases hq : input.period
      simp_all
    cases hs : invoice.scope
    simp_all [BillingPeriod.scope]
  rw [IndexedTable.find?_eq_some.2 ⟨hinvoice, hscope⟩] at hfresh
  cases hfresh

/-- The line of a snapshot that has no invoice yet is new. -/
theorem Filed.keys_fresh (h : Filed db) (hsettling : Settling opening db)
    (hvalid : validatePeriod input = .ok ()) (hdue : Fileable input db snapshot drafts)
    (hfresh : db.invoices.find? (input.scope snapshot) = none) {newId : String}
    {line : BillingLine} (hline : line ∈ db.lines) {draft : LineDraft} (hdraft : draft ∈ drafts) :
    line.idempotencyKey ≠ (billingLine snapshot newId draft).idempotencyKey := by
  intro hkey
  obtain ⟨invoice, hinvoice, hsnapshot, hfrom, huntil⟩ := h.lines line hline
  rw [hkey] at hsnapshot hfrom huntil
  obtain ⟨hstart, hstop⟩ := hdue.inside draft hdraft
  rcases h.period_apart hsettling hvalid hdue.known hdue.cadence hfresh hinvoice hsnapshot
    with hle | hle
  · exact absurd (huntil.trans_le (hle.trans hstart)) (lt_irrefl _)
  · exact absurd (hstop.trans_le (hle.trans hfrom)) (lt_irrefl _)

/-- The keys of the lines stay different. -/
theorem Filed.keys_nodup (h : Filed db) (hsettling : Settling opening db)
    (hvalid : validatePeriod input = .ok ()) (hdue : Fileable input db snapshot drafts)
    (hfresh : db.invoices.find? (input.scope snapshot) = none) (newId : String) :
    (((db.lines.filter fun line => line.billingInvoiceId ≠ newId) ++
      drafts.map (billingLine snapshot newId)).map BillingLine.idempotencyKey).Nodup := by
  rw [List.map_append, List.nodup_append]
  refine ⟨h.keys.sublist (List.filter_sublist.map _), ?_, fun first hfirst second hsecond hsame => ?_⟩
  · rw [List.map_map]
    refine List.pairwise_map.2 (hdue.apart.imp fun {draft other} hapart hsame => ?_)
    have hsame : (⟨snapshot.cloudInstanceId, snapshot.id, draft.resourceVersionId,
        draft.rateCardVersionId, draft.intervalStart, draft.intervalEnd⟩ : LineKey) =
      ⟨snapshot.cloudInstanceId, snapshot.id, other.resourceVersionId,
        other.rateCardVersionId, other.intervalStart, other.intervalEnd⟩ := hsame
    obtain ⟨-, -, -, hrate, hstart, -⟩ := LineKey.mk.inj hsame
    exact hapart hstart hrate
  · obtain ⟨line, hline, rfl⟩ := List.mem_map.1 hfirst
    obtain ⟨new, hnew, rfl⟩ := List.mem_map.1 hsecond
    obtain ⟨draft, hdraft, rfl⟩ := List.mem_map.1 hnew
    exact h.keys_fresh hsettling hvalid hdue hfresh (List.mem_of_mem_filter hline) hdraft hsame

/-- **A settlement keeps the files, and adds its invoice.** -/
theorem Filed.settles (h : Filed db) (hsettling : Settling opening db)
    (hvalid : validatePeriod input = .ok ()) (hdue : Fileable input db snapshot drafts)
    (hfresh : db.invoices.find? (input.scope snapshot) = none) {runId userId walletId : String}
    (hcommit : Tx.Commits (settleDrafts input runId snapshot userId walletId drafts) db () db') :
    Filed db' ∧ (db'.timeline = db.timeline ∧ db'.runs = db.runs) ∧
      Books.Bookings db.books db'.books ∧
      ∃ new, new.scope = input.scope snapshot ∧ new.status.settled = true ∧
        ∀ invoice, invoice ∈ db'.invoices.rows ↔ invoice ∈ db.invoices.rows ∨ invoice = new := by
  obtain ⟨created, invoices, paid, books, hinsert, hmodify, hsettle, hdb'⟩ :=
    commits_settleDrafts hfresh hcommit
  set new := (input.invoice runId snapshot userId walletId .calculating none).settle
    (totalOf drafts) paid
  have hmem (invoice : BillingInvoice) : invoice ∈ db'.invoices.rows ↔
      invoice ∈ db.invoices.rows ∨ invoice = new := by
    rw [hdb']
    exact mem_settled hinsert hmodify
  refine ⟨⟨fun invoice hinvoice => ?_, fun line hline => ?_, ?_⟩, by rw [hdb']; exact ⟨rfl, rfl⟩,
    by rw [hdb']; exact bookings_of_settleInvoice hsettle, new, rfl, settle_settled _, hmem⟩
  · rw [hdb']
    rcases (hmem invoice).1 hinvoice with hinvoice | rfl
    · exact h.fits invoice hinvoice
    · exact ⟨dvd_periodStart hvalid, snapshot, hdue.known, rfl, rfl, hdue.cadence⟩
  · rw [hdb'] at hline
    rcases List.mem_append.1 hline with hline | hline
    · obtain ⟨invoice, hinvoice, hof⟩ := h.lines line (List.mem_of_mem_filter hline)
      exact ⟨invoice, (hmem invoice).2 (.inl hinvoice), hof⟩
    · obtain ⟨draft, hdraft, rfl⟩ := List.mem_map.1 hline
      exact ⟨new, (hmem new).2 (.inr rfl), rfl, hdue.inside draft hdraft⟩
  · rw [hdb']
    exact h.keys_nodup hsettling hvalid hdue hfresh _

/-- A settlement leaves everything neat. -/
theorem Neat.settles (h : Neat db) (hsettling : Settling opening db)
    (hvalid : validatePeriod input = .ok ()) (hdue : Due input db snapshot drafts)
    (hfresh : db.invoices.find? (input.scope snapshot) = none) {runId userId walletId : String}
    (hcommit : Tx.Commits (settleDrafts input runId snapshot userId walletId drafts) db () db') :
    Neat db' ∧ (db'.timeline = db.timeline ∧ db'.runs = db.runs) ∧
      Books.Bookings db.books db'.books ∧
      ∀ invoice ∈ db.invoices.rows, invoice ∈ db'.invoices.rows := by
  obtain ⟨hfiled, hsame, hbookings, new, -, hsettled, hmem⟩ :=
    h.filed.settles hsettling hvalid hdue.fileable hfresh hcommit
  refine ⟨⟨fun invoice hinvoice => ?_, hfiled.fits, hfiled.lines, hfiled.keys⟩, hsame, hbookings,
    fun invoice hinvoice => (hmem invoice).2 (.inl hinvoice)⟩
  rcases (hmem invoice).1 hinvoice with hinvoice | rfl
  · exact h.settled invoice hinvoice
  · exact hsettled

end Fits

/-! ## New ids -/

/-- Nothing has the ids of a snapshot yet. -/
structure NewFor (newId : String) (db : BillingDb) : Prop where
  invoices : ∀ invoice ∈ db.invoices.rows, invoice.id ≠ newId
  entries : ∀ entry ∈ db.books.ledger.rows,
    entry.id ≠ newId ∧ entry.idempotencyKey ≠ invoiceDebitKey newId

/-- The ids that a run draws are different and new. -/
def BillingPeriod.NewIds (input : BillingPeriod) (db : BillingDb) : Prop :=
  Function.Injective input.newId ∧ ∀ id, NewFor (input.newId id) db

theorem invoiceDebitKey_injective : Function.Injective invoiceDebitKey := by
  intro first second h
  unfold invoiceDebitKey at h
  exact (String.append_right_inj _).1 h

/-- Settling one snapshot leaves the ids of the others new. -/
theorem NewFor.settles {db db' : BillingDb} {input : BillingPeriod} {snapshot : PolicySnapshot}
    {runId userId walletId newId : String} {drafts : List LineDraft} (h : NewFor newId db)
    (hother : input.newId snapshot.id ≠ newId)
    (hfresh : db.invoices.find? (input.scope snapshot) = none)
    (hcommit : Tx.Commits (settleDrafts input runId snapshot userId walletId drafts) db () db') :
    NewFor newId db' := by
  obtain ⟨created, invoices, paid, books, hinsert, hmodify, hsettle, hdb'⟩ :=
    commits_settleDrafts hfresh hcommit
  refine ⟨fun invoice hinvoice => ?_, fun entry hentry => ?_⟩
  · rw [hdb'] at hinvoice
    rcases (mem_settled hinsert hmodify).1 hinvoice with hinvoice | rfl
    · exact h.invoices invoice hinvoice
    · exact hother
  · rw [hdb'] at hentry
    obtain ⟨wallet, -, -, ⟨-, own, hposted, hown⟩ | ⟨-, hsame⟩⟩ := commits_settleInvoice hsettle
    · simp only [IndexedTable.rows_of_insert? hposted.ledger] at hentry
      rcases List.mem_append.1 hentry with hentry | hentry
      · exact h.entries entry hentry
      · obtain rfl := List.mem_singleton.1 hentry
        rw [hown]
        exact ⟨hother, fun hkey => hother (invoiceDebitKey_injective hkey)⟩
    · simp only [hsame] at hentry
      exact h.entries entry hentry

/-! ## A run whose snapshots can all be drafted -/

/-- A snapshot that the run of a period can settle. -/
structure Draftable (timeline : Timeline) (input : BillingPeriod) (seen : Books)
    (snapshot : PolicySnapshot) : Prop where
  known : snapshot ∈ timeline.snapshots
  cadence : snapshot.cadence = input.cadence
  user : ∃ cloud wallet,
    (timeline.instances.find? fun row => row.id = snapshot.cloudInstanceId) = some cloud ∧
      seen.walletOf cloud.userId = some wallet
  target : (targetOf snapshot input.period).start < (targetOf snapshot input.period).stop
  drafts : ∃ drafts, lineDrafts timeline.toTimelineRows snapshot input.cadence
      (targetOf snapshot input.period) = .ok drafts ∧ drafts.length ≤ 1 ∧
    ∀ draft ∈ drafts, draft.intervalStart = (targetOf snapshot input.period).start

/-- A run of which some snapshots are still pending, and everything is neat. -/
structure Underway (opening : String → ℤ) (input : BillingPeriod) (seen : Books)
    (pending : List PolicySnapshot) (db : BillingDb) : Prop
    extends Running opening input (pending.map PolicySnapshot.id) db where
  neat : Neat db
  wallets : Books.Bookings seen db.books

section Underway

variable {opening : String → ℤ} {db db' : BillingDb} {input : BillingPeriod} {seen : Books}
  {snapshot : PolicySnapshot} {rest : List PolicySnapshot}

theorem targetOf_stop_le (snapshot : PolicySnapshot) (period : Period) :
    (targetOf snapshot period).stop ≤ period.periodEnd := by
  unfold targetOf
  cases snapshot.effectiveTo with
  | none => exact le_rfl
  | some effectiveTo => exact min_le_left _ _

theorem Draftable.due (h : Draftable db.timeline input seen snapshot) {drafts : List LineDraft}
    (hsingle : drafts.length ≤ 1)
    (hstart : ∀ draft ∈ drafts, draft.intervalStart = (targetOf snapshot input.period).start) :
    Due input db snapshot drafts where
  known := h.known
  cadence := h.cadence
  single := hsingle
  inside := by
    intro draft hdraft
    rw [hstart draft hdraft]
    exact ⟨le_max_left _ _, h.target.trans_le (targetOf_stop_le snapshot input.period)⟩

/-- The wallet of a user is still there. -/
theorem wallet_isSome_of_seen {books : Books} (hbookings : Books.Bookings seen books)
    {userId : String} {wallet : WalletRow} (hwallet : seen.walletOf userId = some wallet) :
    (books.wallets.find? wallet.id).isSome := by
  obtain ⟨later, hlater, hid, -⟩ := Books.wallet_stays hbookings (List.mem_of_find?_eq_some hwallet)
  rw [IndexedTable.find?_eq_some.2 ⟨hlater, hid⟩]
  rfl

/-- **A snapshot that can be drafted is settled.** -/
theorem Underway.processes (h : Underway opening input seen (snapshot :: rest) db)
    (hready : Draftable db.timeline input seen snapshot)
    (hdone : snapshot.id ∉ rest.map PolicySnapshot.id)
    (hvalid : validatePeriod input = .ok ()) {runId : String} {result : SnapshotResult}
    (hcommit : Tx.Commits (processSnapshot input runId seen snapshot) db result db') :
    Underway opening input seen rest db' ∧ (db'.timeline = db.timeline ∧ db'.runs = db.runs) ∧
      (∀ invoice ∈ db.invoices.rows, invoice ∈ db'.invoices.rows) ∧
      (∃ invoice ∈ db'.invoices.rows, invoice.scope = input.scope snapshot) ∧
      ∀ newId, input.newId snapshot.id ≠ newId → NewFor newId db → NewFor newId db' := by
  have hperiod := (validatePeriod_eq_ok.1 hvalid).2.1
  have hfresh := h.toRunning.fresh hperiod
  obtain ⟨cloud, wallet, hcloud, hwallet⟩ := hready.user
  obtain ⟨drafts, hdrafts, hsingle, hstart⟩ := hready.drafts
  obtain ⟨-, hsettle⟩ :=
    (commits_processSnapshot hcloud hwallet hready.target hfresh hdrafts).1 hcommit
  have hrunning := (h.toRunning.processes hdone hperiod hcommit).1
  obtain ⟨hneat, hsame, hbookings, hstays⟩ :=
    h.neat.settles h.toSettling hvalid (hready.due hsingle hstart) hfresh hsettle
  have hinvoice : ∃ invoice ∈ db'.invoices.rows, invoice.scope = input.scope snapshot := by
    obtain ⟨created, invoices, paid, books, hinsert, hmodify, -, rfl⟩ :=
      commits_settleDrafts hfresh hsettle
    exact ⟨_, (mem_settled hinsert hmodify).2 (.inr rfl), rfl⟩
  exact ⟨⟨hrunning, hneat, h.wallets.trans hbookings⟩, hsame, hstays, hinvoice,
    fun newId hother hnew => hnew.settles hother hfresh hsettle⟩

theorem Underway.exists_commits (h : Underway opening input seen (snapshot :: rest) db)
    (hready : Draftable db.timeline input seen snapshot)
    (hvalid : validatePeriod input = .ok ()) (hnew : NewFor (input.newId snapshot.id) db)
    (runId : String) :
    ∃ result db', Tx.Commits (processSnapshot input runId seen snapshot) db result db' := by
  have hfresh := h.toRunning.fresh (validatePeriod_eq_ok.1 hvalid).2.1
  obtain ⟨cloud, wallet, hcloud, hwallet⟩ := hready.user
  obtain ⟨drafts, hdrafts, hsingle, hstart⟩ := hready.drafts
  obtain ⟨db', hsettle⟩ : ∃ db', Tx.Commits
      (settleDrafts input runId snapshot cloud.userId wallet.id drafts) db () db' :=
    exists_commits_settleDrafts hfresh hnew.invoices hnew.entries (wallet_isSome_of_seen h.wallets hwallet)
      (h.neat.filed.keys_nodup h.toSettling hvalid (hready.due hsingle hstart).fileable hfresh _)
  exact ⟨_, db',
    (commits_processSnapshot hcloud hwallet hready.target hfresh hdrafts).2 ⟨rfl, hsettle⟩⟩

end Underway

end AbrChin.Billing
