import AbrChin.Billing.CatchUp
import AbrChin.Billing.Estimate

/-!
# Usage is settled once

For every run of the system: an invoice has one debit at most, its amounts are those of
its lines and of that debit, and once it is settled nothing changes it any more.

Between two transactions every invoice belongs to a run that is over (`Standing`).  A
settlement starts or resumes a run that is not over, so no invoice of its period is
there yet; the argument within it is `Running.runs`.
-/

namespace AbrChin.Billing

open Lib Wallet Relation

/-! ## Runs that are over -/

section Runs

variable {db : BillingDb} {key : RunKey}

theorem Over.insert (h : Over db key) {run : BillingRun} {runs}
    (hinsert : db.runs.insert? run = some runs) : Over { db with runs } key := by
  obtain ⟨other, hother, hkey, hover⟩ := h
  exact ⟨other, (Table.mem_insert? hinsert).2 (.inl hother), hkey, hover⟩

/-- Changing a run that is not over leaves the others. -/
theorem Over.modify (h : Over db key) {run : BillingRun} (hrun : run ∈ db.runs)
    (hopen : run.status.terminal = false) {f : BillingRun → BillingRun}
    {hf : ∀ row, (f row).key = row.key} :
    Over { db with runs := db.runs.modify run.key f hf } key := by
  obtain ⟨other, hother, hkey, hover⟩ := h
  refine ⟨other, Table.mem_modify_of_ne hf hother fun hsame => ?_, hkey, hover⟩
  rw [Table.eq_of_key hother hrun hsame, hopen] at hover
  cases hover

end Runs

/-! ## Between two transactions -/

/-- What holds between two transactions. -/
structure Standing (opening : String → ℤ) (db : BillingDb) : Prop extends Settling opening db where
  ended : ∀ invoice ∈ db.invoices.rows, Over db invoice.key

section Standing

variable {opening : String → ℤ} {db db' : BillingDb} {input : BillingPeriod}

theorem Settling.withRuns (h : Settling opening db) (runs : Table BillingRun.key) :
    Settling opening { db with runs } :=
  ⟨h.kept, fun invoice hinvoice hsettled => (h.settled invoice hinvoice hsettled).frame rfl rfl,
    h.known, h.length⟩

theorem advance_withRuns (opening : String → ℤ) (db : BillingDb) (runs : Table BillingRun.key) :
    Advance opening db { db with runs } := by
  have happend : db.books.ledger.rows = db.books.ledger.rows ++ [] := (List.append_nil _).symm
  exact Advance.of_foreign happend (by simp) rfl (fun _ => id) fun _ hinvoice _ => hinvoice

/-- A run of the period is under way. -/
theorem Standing.starts (h : Standing opening db) {pending : List String} {runId : String}
    (hopen : (db.runs.find? input.key).any (fun run => run.status.terminal) = false)
    (hcommit : Tx.Commits (openRun input) db runId db') :
    Running opening input pending db' ∧ Advance opening db db' ∧ db'.timeline = db.timeline := by
  simp only [openRun, Tx.commits_bind, Tx.commits_get] at hcommit
  obtain ⟨_, db, ⟨rfl, rfl⟩, hcommit⟩ := hcommit
  cases hfind : db.runs.find? input.key with
  | some existing =>
      obtain ⟨hmem, hkey⟩ := Table.find?_eq_some.1 hfind
      have hrunning : existing.status.terminal = false := by simpa [hfind] using hopen
      simp only [hfind, updateRun, Tx.commits_bind, Tx.commits_modify, Tx.commits_pure] at hcommit
      obtain ⟨_, _, rfl, rfl, rfl⟩ := hcommit
      have hstarted := Table.mem_modify_of_eq (·.restart input.workerId) (fun _ => rfl) hmem hkey
      refine ⟨⟨h.withRuns _, ⟨_, hstarted, hkey, rfl⟩, fun invoice hinvoice => .inl ?_⟩,
        advance_withRuns opening db _, rfl⟩
      simp only [← hkey]
      exact (h.ended invoice hinvoice).modify hmem hrunning
  | none =>
      simp only [hfind, createRun, Tx.commits_bind, Tx.commits_attempt, Option.map_eq_some_iff,
        Tx.commits_pure] at hcommit
      obtain ⟨_, _, ⟨runs, hinsert, rfl⟩, rfl, rfl⟩ := hcommit
      refine ⟨⟨h.withRuns _, ⟨_, (Table.mem_insert? hinsert).2 (.inr rfl), rfl, rfl⟩,
        fun invoice hinvoice => .inl ?_⟩, advance_withRuns opening db _, rfl⟩
      exact (h.ended invoice hinvoice).insert hinsert

/-- A run that has processed all its snapshots is over. -/
theorem Running.finishes (h : Running opening input [] db) (counts : ℕ × ℕ) :
    Standing opening
      { db with runs := db.runs.modify input.key (·.finish counts) fun _ => rfl } := by
  obtain ⟨run, hrun, hkey, hopen⟩ := h.started
  refine ⟨h.withRuns _, fun invoice hinvoice => ?_⟩
  rcases h.owned invoice hinvoice with hover | ⟨hown, -⟩
  · simp only [← hkey]
    exact hover.modify hrun hopen
  · refine ⟨run.finish counts, Table.mem_modify_of_eq (·.finish counts) (fun _ => rfl) hrun hkey,
      hkey.trans hown.symm, ?_⟩
    unfold BillingRun.finish
    dsimp only
    split_ifs <;> rfl

/-- The snapshots of a period are in force in some part of it. -/
theorem mem_loadSnapshots {rows : TimelineRows} {key : RunKey} {snapshot : PolicySnapshot} :
    snapshot ∈ rows.loadSnapshots key ↔ snapshot ∈ rows.snapshots ∧ snapshot.cadence = key.cadence ∧
      snapshot.effectiveFrom < key.period.periodEnd ∧
      snapshot.effectiveTo.all (key.period.periodStart < ·) = true := by
  simp [TimelineRows.loadSnapshots]

/-- The snapshots that a run loads are different ones. -/
theorem nodup_loadSnapshots (timeline : Timeline) (key : RunKey) :
    ((timeline.toTimelineRows.loadSnapshots key).map PolicySnapshot.id).Nodup := by
  refine (List.Perm.nodup_iff ((List.perm_insertionSort _ _).map _)).2 ?_
  exact timeline.valid.snapshotIds.sublist (List.filter_sublist.map _)

/-- **The transaction of a period.** -/
theorem Standing.settles (h : Standing opening db) {run : Option BillingRun}
    (hcommit : Tx.Commits (settleClosedBillingPeriod input) db run db') :
    Standing opening db' ∧ Advance opening db db' := by
  simp only [settleClosedBillingPeriod, Tx.commits_bind, Tx.commits_ofExcept, Tx.commits_get]
    at hcommit
  obtain ⟨_, _, ⟨hvalid, rfl⟩, _, db, ⟨rfl, rfl⟩, hcommit⟩ := hcommit
  obtain ⟨-, hperiod, -, -⟩ := validatePeriod_eq_ok.1 hvalid
  rcases Tx.commits_ite.1 hcommit with ⟨-, hcommit⟩ | ⟨hopen, hcommit⟩
  · obtain ⟨-, rfl⟩ := Tx.commits_pure.1 hcommit
    exact ⟨h, Advance.refl opening db'⟩
  simp only [Tx.commits_bind, Tx.commits_get, updateRun, Tx.commits_modify, Tx.commits_pure]
    at hcommit
  obtain ⟨runId, started, hstart, _, _, ⟨rfl, rfl⟩, counts, processed, hprocess, _, _, rfl, _, _,
    ⟨rfl, rfl⟩, -, rfl⟩ := hcommit
  obtain ⟨hrunning, hfirst, htimeline⟩ := h.starts (Bool.eq_false_iff.2 hopen) hstart
  obtain ⟨hdone, hsecond⟩ := hrunning.runs (nodup_loadSnapshots _ _) hperiod hprocess
  exact ⟨hdone.finishes counts, (hfirst.trans hsecond).trans (advance_withRuns opening _ _)⟩

theorem Standing.fails (h : Standing opening db) {failureCode : String} {u : Unit}
    (hcommit : Tx.Commits (recordBillingRunFailure input failureCode) db u db') :
    Standing opening db' ∧ Advance opening db db' := by
  simp only [recordBillingRunFailure, Tx.commits_bind, Tx.commits_get] at hcommit
  obtain ⟨_, db, ⟨rfl, rfl⟩, hcommit⟩ := hcommit
  cases hfind : db.runs.find? input.key with
  | some existing =>
      obtain ⟨hmem, hkey⟩ := Table.find?_eq_some.1 hfind
      simp only [hfind] at hcommit
      rcases Tx.commits_ite.1 hcommit with ⟨-, hcommit⟩ | ⟨hopen, hcommit⟩
      · obtain ⟨-, rfl⟩ := Tx.commits_pure.1 hcommit
        exact ⟨h, Advance.refl opening db'⟩
      · obtain rfl := Tx.commits_modify.1 hcommit
        refine ⟨⟨h.withRuns _, fun invoice hinvoice => ?_⟩, advance_withRuns opening db _⟩
        simp only [← hkey]
        exact (h.ended invoice hinvoice).modify hmem (Bool.eq_false_iff.2 hopen)
  | none =>
      simp only [hfind, createRun, Tx.commits_attempt, Option.map_eq_some_iff] at hcommit
      obtain ⟨runs, hinsert, rfl⟩ := hcommit
      exact ⟨⟨h.withRuns _, fun invoice hinvoice => (h.ended invoice hinvoice).insert hinsert⟩,
        advance_withRuns opening db _⟩

/-- Other transactions write no debit of an invoice. -/
theorem Standing.moves (h : Standing opening db) {books : Books}
    (hmoved : ForeignBooking db.books books) :
    Standing opening { db with books } ∧ Advance opening db { db with books } := by
  obtain ⟨hbookings, more, hledger, hforeign⟩ := hmoved
  refine ⟨⟨⟨h.kept.bookings hbookings, fun invoice hinvoice hsettled => ?_,
    fun entry hentry htype => ?_, h.length⟩, h.ended⟩,
    Advance.of_foreign hledger hforeign rfl (fun _ => id) fun _ hinvoice _ => hinvoice⟩
  · exact (h.settled invoice hinvoice hsettled).frame rfl
      (debitsOf_append hledger fun entry hentry htype => absurd htype (hforeign entry hentry))
  · simp only [hledger] at hentry
    rcases List.mem_append.1 hentry with hentry | hentry
    · exact h.known entry hentry htype
    · exact absurd htype (hforeign entry hentry)

theorem Standing.scheduled (h : Standing opening db) (timeline : Timeline) :
    Standing opening { db with timeline } ∧ Advance opening db { db with timeline } := by
  have happend : db.books.ledger.rows = db.books.ledger.rows ++ [] := (List.append_nil _).symm
  exact ⟨⟨⟨h.kept, fun invoice hinvoice hsettled =>
    (h.settled invoice hinvoice hsettled).frame rfl rfl, h.known, h.length⟩, h.ended⟩,
    Advance.of_foreign happend (by simp) rfl (fun _ => id) fun _ hinvoice _ => hinvoice⟩

end Standing

/-! ## Every run of the system -/

section System

variable {opening : String → ℤ} {system system' : BillingSystem}

/-- **What every step keeps.** -/
theorem Standing.step (h : Standing opening system.db) (hstep : system.Step system') :
    Standing opening system'.db ∧ Advance opening system.db system'.db := by
  cases hstep with
  | settled hcommit => exact h.settles hcommit
  | failed hcommit => exact h.fails hcommit
  | listed => exact ⟨h, Advance.refl opening system.db⟩
  | caughtUp hnext hcommit => exact h.settles hcommit
  | stopped hnext hcommit => exact h.fails hcommit
  | crashed => exact ⟨h, Advance.refl opening _⟩
  | scheduled timeline => exact h.scheduled timeline
  | moved hmoved => exact h.moves hmoved

theorem Standing.run (h : Standing opening system.db)
    (hrun : ReflTransGen BillingSystem.Step system system') :
    Standing opening system'.db ∧ Advance opening system.db system'.db := by
  induction hrun with
  | refl => exact ⟨h, Advance.refl opening system.db⟩
  | tail _ hstep ih =>
      obtain ⟨hstanding, hadvance⟩ := ih
      obtain ⟨hnext, hlater⟩ := hstanding.step hstep
      exact ⟨hnext, hadvance.trans hlater⟩

end System

/-- Nothing has been billed yet, and no wallet owes anything. -/
structure BillingDb.Unbilled (db : BillingDb) : Prop where
  invoices : db.invoices.rows = []
  ledger : db.books.ledger.rows = []
  wallets : ∀ wallet ∈ db.books.wallets.rows, 0 ≤ wallet.availableBalance

theorem BillingDb.Unbilled.standing {db : BillingDb} (h : db.Unbilled) :
    Standing db.books.openingBalance db where
  kept := Books.kept_start h.ledger h.wallets
  settled := by simp [h.invoices]
  known := by simp [h.ledger]
  length := by simp [h.invoices]
  ended := by simp [h.invoices]

/-- The debits of usage of an instance in a period under a policy snapshot. -/
def BillingDb.usageDebits (db : BillingDb) (scope : InvoiceScope) : List WalletLedgerEntry :=
  db.books.ledger.rows.filter fun entry => entry.type = .usageSettlement ∧
    (db.invoices.find? scope).any fun invoice => entry.referenceId = some invoice.id

/-- The debits of a scope are those of its invoice. -/
theorem Standing.length_usageDebits {opening : String → ℤ} {db : BillingDb}
    (h : Standing opening db) (scope : InvoiceScope) : (db.usageDebits scope).length ≤ 1 := by
  unfold BillingDb.usageDebits
  cases hfind : db.invoices.find? scope with
  | none => simp
  | some invoice =>
      have hsame : (db.books.ledger.rows.filter fun entry => entry.type = .usageSettlement ∧
          (some invoice).any fun invoice => entry.referenceId = some invoice.id) =
            db.debitsOf invoice.id := by
        simp [BillingDb.debitsOf]
      obtain ⟨hmem, -⟩ := IndexedTable.find?_eq_some.1 hfind
      rw [hsame]
      by_cases hsettled : invoice.status.settled = true
      · rcases (h.settled invoice hmem hsettled).debit with ⟨-, hnone⟩ | ⟨entry, -, hone, -⟩
        · simp [hnone]
        · simp [hone]
      · -- a debit would be one of a settled invoice with the same id
        have hnone : db.debitsOf invoice.id = [] := by
          refine List.filter_eq_nil_iff.2 fun entry hentry hkeep => ?_
          obtain ⟨htype, href⟩ := of_decide_eq_true hkeep
          obtain ⟨other, hother, hothersettled, hotherref⟩ := h.known entry hentry htype
          have hid : other.id = invoice.id := Option.some.inj (hotherref.symm.trans href)
          have hother' : other ∈ db.invoices.rows := hother
          have heq : other = invoice := IndexedTable.eq_of_index hother' hmem
            (List.mem_singleton_self _) (congrArg some hid) rfl
          exact hsettled (heq ▸ hothersettled)
        simp [hnone]

/-- **Usage is settled once, and adds up.** -/
theorem usage_settled_once {start now : BillingSystem} (hstart : start.db.Unbilled)
    (hrun : ReflTransGen BillingSystem.Step start now) :
    let opening := start.db.books.openingBalance
    (∀ scope, (now.db.usageDebits scope).length ≤ 1) ∧
    (∀ entry ∈ now.db.books.ledger.rows, entry.type = .usageSettlement →
      ∃ invoice ∈ now.db.invoices.rows, invoice.status.settled = true ∧
        entry.referenceId = some invoice.id) ∧
    (∀ invoice ∈ now.db.invoices.rows, invoice.status.settled = true →
      SettledInvoice now.db invoice) ∧
    (∀ later, ReflTransGen BillingSystem.Step now later → Advance opening now.db later.db) ∧
    (∀ wallet ∈ now.db.books.wallets.rows, 0 ≤ wallet.availableBalance ∧
      wallet.availableBalance = balanceAt opening wallet.id now.db.books.ledger.rows) := by
  intro opening
  have hnow : Standing opening now.db := (hstart.standing.run hrun).1
  refine ⟨hnow.length_usageDebits, hnow.known, hnow.settled,
    fun later hlater => (hnow.run hlater).2, fun wallet hwallet => ?_⟩
  have hfind : now.db.books.wallets.find? wallet.id = some wallet :=
    IndexedTable.find?_eq_some.2 ⟨hwallet, rfl⟩
  exact ⟨hnow.kept.nonneg _ _ hfind, hnow.kept.balance _ _ hfind⟩

/-! ## A user with 300 rials and a service of 1000 rials an hour -/

def sampleDb : BillingDb where
  timeline := ⟨⟨[⟨"instance", "user", "plan", .arvan, none, .active⟩], [], [], [], []⟩, by decide⟩
  books := ⟨⟨⟨[⟨"wallet", "user", 300, .active, "IRR"⟩], by decide⟩, by decide⟩, .empty⟩
  runs := .empty
  invoices := .empty
  lines := []

/-- The timeline after the service has been started. -/
def sampleStarted : Timeline :=
  (startInitialUsageBillingTx ⟨"instance", 0, some sampleActivation, [sampleContract .hour], "new"⟩
    sampleDb.timeline).2

def sampleHour : BillingPeriod where
  cadence := .hourly
  period := ⟨0, 3600000⟩
  workerId := "worker"
  now := 3600000
  runId := "run"
  newId snapshotId := s!"invoice of {snapshotId}"

/-- The tables after the first hour has been settled. -/
def sampleSettled : BillingDb :=
  (settleClosedBillingPeriod sampleHour { sampleDb with timeline := sampleStarted }).2

theorem sample_run :
    ReflTransGen BillingSystem.Step ⟨sampleDb, []⟩ ⟨sampleSettled, []⟩ := by
  have hok : (settleClosedBillingPeriod sampleHour
      { sampleDb with timeline := sampleStarted }).1.isOk = true := by decide +kernel
  obtain ⟨run, hcommit⟩ := Tx.commits_of_isOk hok
  exact (ReflTransGen.single (.scheduled sampleStarted)).tail (.settled hcommit)

theorem usage_settled_once_hour :
    let scope : InvoiceScope := ⟨"instance", ⟨0, 3600000⟩, "new"⟩
    (sampleSettled.usageDebits scope).map WalletLedgerEntry.amount = [300] ∧
    sampleSettled.invoices.rows.map BillingInvoice.status = [.partiallyPaid] ∧
    (sampleSettled.usageDebits scope).length ≤ 1 := by
  have hstart : sampleDb.Unbilled := ⟨rfl, rfl, by decide⟩
  exact ⟨by decide +kernel, by decide +kernel, (usage_settled_once hstart sample_run).1 _⟩

end AbrChin.Billing
