import AbrChin.Billing.Worker
import AbrChin.Wallet.Invariant

/-!
# Usage is settled once

For every order in which workers settle periods, record failures, crash and are
retried, while the timeline changes and other transactions move money: an invoice
has one debit at most, its amounts are those of its lines and of that debit, and
once it is settled nothing changes it any more.

The argument follows one run of a period (`Running`): every invoice that is there
belongs to a run that is over, or to a snapshot that this run has already processed.
So the invoice of the next snapshot is not there yet, and is created with the wallet
that pays it.
-/

namespace AbrChin.Billing

open Lib Wallet

/-! ## What a settled invoice says -/

/-- The run of an invoice. -/
def BillingInvoice.key (invoice : BillingInvoice) : RunKey := ⟨invoice.cadence, invoice.scope.period⟩

namespace BillingDb

/-- The debits of an invoice. -/
def debitsOf (db : BillingDb) (invoiceId : String) : List WalletLedgerEntry :=
  db.books.ledger.rows.filter fun entry =>
    entry.type = .usageSettlement ∧ entry.referenceId = some invoiceId

def linesOf (db : BillingDb) (invoiceId : String) : List BillingLine :=
  db.lines.filter fun line => line.billingInvoiceId = invoiceId

end BillingDb

/-- The balance of a wallet when its ledger had some entries. -/
def balanceAt (opening : String → ℤ) (walletId : String) (entries : List WalletLedgerEntry) : ℤ :=
  opening walletId + net (entries.filter fun entry => entry.walletId = walletId)

/-- The amounts, the debit and the status of a settled invoice agree. -/
structure SettledInvoice (db : BillingDb) (invoice : BillingInvoice) : Prop where
  total : invoice.totalAmountRial =
    ((db.linesOf invoice.id).map fun line => line.amountRial).sum
  split : invoice.paidAmountRial + invoice.outstandingAmountRial = invoice.totalAmountRial
  debit : (invoice.paidAmountRial = 0 ∧ db.debitsOf invoice.id = []) ∨
    ∃ entry, 0 < invoice.paidAmountRial ∧ db.debitsOf invoice.id = [entry] ∧
      entry.walletId = invoice.walletId ∧ entry.direction = .debit ∧ entry.status = .completed ∧
      entry.amount = invoice.paidAmountRial
  paid : invoice.status = .paid ↔ invoice.outstandingAmountRial = 0
  unpaid : invoice.status = .unpaid ↔
    invoice.paidAmountRial = 0 ∧ 0 < invoice.totalAmountRial
  partiallyPaid : invoice.status = .partiallyPaid ↔
    0 < invoice.paidAmountRial ∧ 0 < invoice.outstandingAmountRial

/-- An invoice was settled when the ledger had some entries, and others perhaps:
it took what the balance covered then. -/
def DrawnAfter (opening : String → ℤ) (entries : List WalletLedgerEntry) (db : BillingDb)
    (invoice : BillingInvoice) : Prop :=
  ∃ earlier later, entries <+: earlier ∧ db.books.ledger.rows = earlier ++ later ∧
    db.debitsOf invoice.id <+: later ∧
    invoice.paidAmountRial =
      min (balanceAt opening invoice.walletId earlier) invoice.totalAmountRial

section Frame

variable {opening : String → ℤ} {db db' : BillingDb} {invoice : BillingInvoice}

/-- Entries that are not its debits leave those of an invoice as they are. -/
theorem debitsOf_append {invoiceId : String} {more : List WalletLedgerEntry}
    (hledger : db'.books.ledger.rows = db.books.ledger.rows ++ more)
    (hmore : ∀ entry ∈ more, entry.type = .usageSettlement →
      entry.referenceId ≠ some invoiceId) : db'.debitsOf invoiceId = db.debitsOf invoiceId := by
  have hnone : (more.filter fun entry =>
      entry.type = .usageSettlement ∧ entry.referenceId = some invoiceId) = [] := by
    refine List.filter_eq_nil_iff.2 fun entry hentry hkeep => ?_
    obtain ⟨htype, href⟩ := of_decide_eq_true hkeep
    exact hmore entry hentry htype href
  unfold BillingDb.debitsOf
  rw [hledger, List.filter_append, hnone, List.append_nil]

theorem SettledInvoice.frame (h : SettledInvoice db invoice)
    (hlines : db'.linesOf invoice.id = db.linesOf invoice.id)
    (hdebits : db'.debitsOf invoice.id = db.debitsOf invoice.id) : SettledInvoice db' invoice :=
  ⟨by rw [hlines, h.total], h.split, by rw [hdebits]; exact h.debit, h.paid, h.unpaid,
    h.partiallyPaid⟩

end Frame

/-! ## The statements -/

section Statements

variable {books books' : Books} {db db' : BillingDb}

theorem payable_eq_min (balance total : ℤ) : payable balance total = min balance total := by
  unfold payable
  omega

/-- The entry of an invoice that is paid from a wallet. -/
def invoiceDebit (charge : InvoiceCharge) (walletId : String) (paidAmountRial : ℤ) :
    Books.EntryData where
  id := charge.ids.entry
  walletId
  direction := .debit
  type := .usageSettlement
  amount := paidAmountRial
  referenceType := some "billing_invoice"
  referenceId := some charge.invoiceId
  idempotencyKey := invoiceDebitKey charge.invoiceId

theorem commits_settleInvoice {charge : InvoiceCharge} {walletId : String} {paid : ℤ}
    (h : Tx.Commits (settleInvoice charge walletId) books paid books') :
    ∃ wallet, books.wallets.find? walletId = some wallet ∧
      paid = min wallet.availableBalance charge.totalAmountRial ∧
      ((0 < paid ∧ ∃ entry, Books.Posted entry books books' ∧
          entry = (invoiceDebit charge walletId paid).entry entry.balanceAfter) ∨
        (paid ≤ 0 ∧ books' = books)) := by
  simp only [settleInvoice, Tx.commits_bind, Tx.commits_get, Tx.commits_orThrow] at h
  obtain ⟨_, _, ⟨rfl, rfl⟩, wallet, _, ⟨hwallet, rfl⟩, h⟩ := h
  rcases Tx.commits_ite.1 h with ⟨hpositive, h⟩ | ⟨hnonpositive, h⟩
  · simp only [Tx.commits_bind, Tx.commits_pure] at h
    obtain ⟨entry, _, hdebit, rfl, rfl⟩ := h
    obtain ⟨hposted, hentry⟩ := Books.commits_debitLocked hdebit rfl hpositive (by
      intro row hrow
      cases hwallet.symm.trans hrow
      exact payable_le _ _)
    exact ⟨wallet, hwallet, payable_eq_min _ _, .inl ⟨hpositive, entry, hposted, hentry⟩⟩
  · obtain ⟨rfl, rfl⟩ := Tx.commits_pure.1 h
    exact ⟨wallet, hwallet, payable_eq_min _ _, .inr ⟨not_lt.1 hnonpositive, rfl⟩⟩

theorem commits_onBooks {α : Type} {body : Tx Books String α} {a : α} :
    Tx.Commits (onBooks body) db a db' ↔
      ∃ books', Tx.Commits body db.books a books' ∧ db' = { db with books := books' } :=
  Tx.commits_zoom

/-- The invoice of a scope that has none is created. -/
theorem commits_upsertInvoice {create invoice : BillingInvoice}
    (hfresh : db.invoices.find? create.scope = none)
    (h : Tx.Commits (upsertInvoice create) db invoice db') :
    invoice = create ∧ ∃ invoices, db.invoices.insert? create = some invoices ∧
      db' = { db with invoices } := by
  simp only [upsertInvoice, Tx.commits_bind, Tx.commits_get] at h
  obtain ⟨_, _, ⟨rfl, rfl⟩, h⟩ := h
  simp only [hfresh, Tx.commits_bind, Tx.commits_attempt, Option.map_eq_some_iff,
    Tx.commits_pure] at h
  obtain ⟨_, _, ⟨invoices, hinsert, rfl⟩, rfl, rfl⟩ := h
  exact ⟨rfl, invoices, hinsert, rfl⟩

theorem commits_replaceLines {invoiceId : String} {lines : List BillingLine} {u : Unit}
    (h : Tx.Commits (replaceLines invoiceId lines) db u db') :
    db' = { db with
      lines := (db.lines.filter fun line => line.billingInvoiceId ≠ invoiceId) ++ lines } := by
  have h := Tx.commits_attempt.1 h
  simp only at h
  split at h
  · exact (Option.some.inj h).symm
  · cases h

theorem commits_finishInvoice {scope : InvoiceScope} {total paid : ℤ} {u : Unit} :
    Tx.Commits (finishInvoice scope total paid) db u db' ↔
      ∃ invoices, db.invoices.modify? scope (·.settle total paid)
        (BillingInvoice.scope_settle _ _) = some invoices ∧ db' = { db with invoices } := by
  simp only [finishInvoice, Tx.commits_attempt, Option.map_eq_some_iff, eq_comm (a := db')]

end Statements

/-! ## Amounts are not negative -/

theorem calculateBillingLineAmount_nonneg {start stop : ℤ} {resource : ResourceQuantitySnapshot}
    {rate : CalculableRate} {line : BillingLineAmount}
    (h : calculateBillingLineAmount start stop resource rate = .ok line) : 0 ≤ line.amountRial := by
  unfold calculateBillingLineAmount at h
  simp only [bind_eq_ok] at h
  obtain ⟨_, -, _, -, time, -, factor, -, cost, -, amount, hamount, _, -, h⟩ := h
  cases h
  obtain ⟨hdenominator, hnumerator, rfl⟩ := ceilDiv_eq_ok.1 hamount
  exact Int.ediv_nonneg (by omega) hdenominator.le

theorem rateLine_nonneg {usage : BoundedUsage} {slice : Span ℤ} {rate : RateCardVersion}
    {lines : List LineDraft} (h : rateLine usage slice rate = .ok lines) :
    ∀ line ∈ lines, 0 ≤ line.amountRial := by
  simp only [rateLine, bind_eq_ok] at h
  obtain ⟨_, -, h⟩ := h
  split at h
  · cases h
  · rename_i calculated hcalculated
    split_ifs at h
    · cases h
      simp
    · cases h
      intro line hline
      obtain rfl := List.mem_singleton.1 hline
      exact calculateBillingLineAmount_nonneg hcalculated

theorem lineDrafts_nonneg {rows : TimelineRows} {snapshot : PolicySnapshot}
    {cadence : BillingCadence} {target : Span ℤ} {lines : List LineDraft}
    (h : lineDrafts rows snapshot cadence target = .ok lines) :
    ∀ line ∈ lines, 0 ≤ line.amountRial := by
  intro line hline
  obtain ⟨usages, -, hlines⟩ := bind_eq_ok.1 h
  obtain ⟨usage, -, part, hpart, hline⟩ := mem_of_collect hlines hline
  unfold usageLines at hpart
  simp only at hpart
  split_ifs at hpart with hempty
  · cases hpart
    cases hline
  · obtain ⟨slice, -, part, hpart, hline⟩ := mem_of_collect hpart hline
    unfold sliceLines at hpart
    simp only at hpart
    split at hpart
    · cases hpart
    · obtain ⟨rate, -, part, hpart, hline⟩ := mem_of_collect hpart hline
      exact rateLine_nonneg hpart line hline

theorem totalOf_nonneg {lines : List LineDraft} (h : ∀ line ∈ lines, 0 ≤ line.amountRial) :
    0 ≤ totalOf lines :=
  List.sum_nonneg fun amount hamount => by
    obtain ⟨line, hline, rfl⟩ := List.mem_map.1 hamount
    exact h line hline

/-! ## Inside a run -/

/-- What holds also between two snapshots of one transaction. -/
structure Settling (opening : String → ℤ) (db : BillingDb) : Prop where
  kept : db.books.Kept opening
  settled : ∀ invoice ∈ db.invoices.rows, invoice.status.settled = true → SettledInvoice db invoice
  known : ∀ entry ∈ db.books.ledger.rows, entry.type = .usageSettlement →
    ∃ invoice ∈ db.invoices.rows, invoice.status.settled = true ∧
      entry.referenceId = some invoice.id
  length : ∀ invoice ∈ db.invoices.rows, invoice.scope.period.periodEnd -
    invoice.scope.period.periodStart = periodMilliseconds invoice.cadence

/-- The run of a key is over. -/
def Over (db : BillingDb) (key : RunKey) : Prop :=
  ∃ run ∈ db.runs, run.key = key ∧ run.status.terminal = true

/-- A run that still has to process some snapshots. -/
structure Running (opening : String → ℤ) (input : BillingPeriod) (pending : List String)
    (db : BillingDb) : Prop extends Settling opening db where
  started : ∃ run ∈ db.runs, run.key = input.key ∧ run.status.terminal = false
  owned : ∀ invoice ∈ db.invoices.rows, Over db invoice.key ∨
    (invoice.key = input.key ∧ invoice.scope.billingPolicySnapshotId ∉ pending)

/-- What happens to the settled invoices: those that are there stay, with their lines
and their debit, and others have been settled since. -/
structure Advance (opening : String → ℤ) (db db' : BillingDb) : Prop where
  ledger : db.books.ledger.rows <+: db'.books.ledger.rows
  stays : ∀ invoice ∈ db.invoices.rows, invoice.status.settled = true →
    invoice ∈ db'.invoices.rows ∧ db'.linesOf invoice.id = db.linesOf invoice.id ∧
      db'.debitsOf invoice.id = db.debitsOf invoice.id
  drawn : ∀ invoice ∈ db'.invoices.rows, invoice.status.settled = true →
    invoice ∈ db.invoices.rows ∨ DrawnAfter opening db.books.ledger.rows db' invoice

namespace Advance

variable {opening : String → ℤ} {db mid db' : BillingDb}

theorem refl (opening : String → ℤ) (db : BillingDb) : Advance opening db db :=
  ⟨List.prefix_rfl, fun _ hinvoice _ => ⟨hinvoice, rfl, rfl⟩, fun _ hinvoice _ => .inl hinvoice⟩

theorem trans (h : Advance opening db mid) (h' : Advance opening mid db') :
    Advance opening db db' where
  ledger := h.ledger.trans h'.ledger
  stays := by
    intro invoice hinvoice hsettled
    obtain ⟨hmid, hlines, hdebits⟩ := h.stays invoice hinvoice hsettled
    obtain ⟨hmem, hlines', hdebits'⟩ := h'.stays invoice hmid hsettled
    exact ⟨hmem, hlines'.trans hlines, hdebits'.trans hdebits⟩
  drawn := by
    intro invoice hinvoice hsettled
    rcases h'.drawn invoice hinvoice hsettled with hmid | ⟨earlier, later, hprefix, hrest⟩
    · rcases h.drawn invoice hmid hsettled with hmem | hdrawn
      · exact .inl hmem
      · -- it was settled on the way to the middle, and has stayed since
        obtain ⟨earlier, later, hprefix, hledger, hdebits, hpaid⟩ := hdrawn
        obtain ⟨more, hmore⟩ := h'.ledger
        refine .inr ⟨earlier, later ++ more, hprefix, ?_, ?_, hpaid⟩
        · rw [← hmore, hledger, List.append_assoc]
        · rw [(h'.stays invoice hmid hsettled).2.2]
          exact hdebits.trans (List.prefix_append later more)
    · exact .inr ⟨earlier, later, h.ledger.trans hprefix, hrest⟩

/-- Where no invoice is settled and no entry is a debit of one. -/
theorem of_foreign {more : List WalletLedgerEntry}
    (hledger : db'.books.ledger.rows = db.books.ledger.rows ++ more)
    (hmore : ∀ entry ∈ more, entry.type ≠ .usageSettlement) (hlines : db'.lines = db.lines)
    (hstay : ∀ invoice ∈ db.invoices.rows, invoice ∈ db'.invoices.rows)
    (hback : ∀ invoice ∈ db'.invoices.rows, invoice.status.settled = true →
      invoice ∈ db.invoices.rows) : Advance opening db db' where
  ledger := ⟨more, hledger.symm⟩
  stays := fun invoice hinvoice _ => ⟨hstay invoice hinvoice, by simp [BillingDb.linesOf, hlines],
    debitsOf_append hledger fun entry hentry htype => absurd htype (hmore entry hentry)⟩
  drawn := fun invoice hinvoice hsettled => .inl (hback invoice hinvoice hsettled)

end Advance

section Loop

variable {opening : String → ℤ} {input : BillingPeriod} {snapshot : PolicySnapshot}
  {pending : List String} {db db' : BillingDb}

theorem periodMilliseconds_injective {cadence cadence' : BillingCadence}
    (h : periodMilliseconds cadence = periodMilliseconds cadence') : cadence = cadence' := by
  cases cadence <;> cases cadence' <;> simp_all [periodMilliseconds]

/-- The snapshot that is processed next has no invoice yet. -/
theorem Running.fresh (h : Running opening input (snapshot.id :: pending) db)
    (hperiod : input.period.periodEnd - input.period.periodStart =
      periodMilliseconds input.cadence) : db.invoices.find? (input.scope snapshot) = none := by
  cases hfind : db.invoices.find? (input.scope snapshot) with
  | none => rfl
  | some invoice =>
      obtain ⟨hmem, hscope⟩ := IndexedTable.find?_eq_some.1 hfind
      have hlength := h.length invoice hmem
      rw [hscope] at hlength
      have hcadence : invoice.cadence = input.cadence :=
        periodMilliseconds_injective (hlength.symm.trans hperiod)
      have hkey : invoice.key = input.key := by
        rw [BillingInvoice.key, hcadence, hscope]
        rfl
      rcases h.owned invoice hmem with ⟨run, hrun, hrunKey, hover⟩ | ⟨-, hdone⟩
      · obtain ⟨own, hown, hownKey, hrunning⟩ := h.started
        have hsame := Table.eq_of_key hrun hown (hrunKey.trans (hkey.trans hownKey.symm))
        rw [hsame, hrunning] at hover
        cases hover
      · rw [hscope] at hdone
        exact absurd List.mem_cons_self hdone

variable {books : Books}

/-- A new invoice and new books, as a run writes them. -/
theorem Running.opened (h : Running opening input (snapshot.id :: pending) db)
    (hkept : books.Kept opening) (hledger : books.ledger.rows = db.books.ledger.rows) :
    Running opening input pending { db with books } where
  kept := hkept
  settled invoice hinvoice hsettled :=
    (h.settled invoice hinvoice hsettled).frame rfl (by simp [BillingDb.debitsOf, hledger])
  known entry hentry htype := h.known entry (hledger ▸ hentry) htype
  length := h.length
  started := h.started
  owned invoice hinvoice := by
    rcases h.owned invoice hinvoice with hover | ⟨hkey, hdone⟩
    · exact .inl hover
    · exact .inr ⟨hkey, fun hmem => hdone (List.mem_cons_of_mem _ hmem)⟩

variable {seen : Books} {userId : String}

/-- Opening a wallet writes no entry. -/
theorem ensured {books' : Books} (hkept : books.Kept opening) {newId : String}
    {wallet : WalletRow}
    (h : Tx.Commits (Books.ensureWalletForUser seen userId newId) books wallet books') :
    books'.Kept opening ∧ books'.ledger.rows = books.ledger.rows := by
  refine ⟨hkept.bookings (bookings_of_ensure h), ?_⟩
  rcases Books.commits_ensureWallet h with ⟨-, rfl⟩ | ⟨-, -, wallets, -, rfl⟩
  · rfl
  · rfl

variable {invoice : BillingInvoice}

/-- The ids of two invoices differ. -/
theorem id_ne_of_insert {create : BillingInvoice} {invoices}
    (hinsert : db.invoices.insert? create = some invoices) (hinvoice : invoice ∈ db.invoices.rows) :
    invoice.id ≠ create.id := by
  intro hid
  have hrows := IndexedTable.rows_of_insert? hinsert
  have hold : invoice ∈ invoices.rows := by simp [hrows, hinvoice]
  have hnew : create ∈ invoices.rows := by simp [hrows]
  have heq : invoice = create :=
    IndexedTable.eq_of_index hold hnew (List.mem_singleton_self _) (congrArg some hid) rfl
  have hfresh := IndexedTable.fresh_of_insert? hinsert
  rw [← heq, IndexedTable.find?_eq_some.2 ⟨hinvoice, rfl⟩] at hfresh
  cases hfresh

/-- An invoice that goes to review is not settled. -/
theorem Running.reviewed (h : Running opening input pending db)
    (hdone : snapshot.id ∉ pending)
    (hperiod : input.period.periodEnd - input.period.periodStart =
      periodMilliseconds input.cadence)
    {runId userId walletId : String} {reason : Option String} {invoices}
    (hinsert : db.invoices.insert?
      (input.invoice runId snapshot userId walletId .underReview reason) = some invoices) :
    Running opening input pending { db with invoices } ∧
      Advance opening db { db with invoices } := by
  have hrows := IndexedTable.rows_of_insert? hinsert
  have hold {invoice : BillingInvoice} (hinvoice : invoice ∈ db.invoices.rows) :
      invoice ∈ invoices.rows := by
    rw [hrows]
    exact List.mem_append_left _ hinvoice
  have hnew {invoice : BillingInvoice} (hinvoice : invoice ∈ invoices.rows) :
      invoice ∈ db.invoices.rows ∨
        invoice = input.invoice runId snapshot userId walletId .underReview reason := by
    rw [hrows] at hinvoice
    simpa using hinvoice
  constructor
  · refine ⟨⟨h.kept, fun invoice hinvoice hsettled => ?_, fun entry hentry htype => ?_,
      fun invoice hinvoice => ?_⟩, h.started, fun invoice hinvoice => ?_⟩
    · rcases hnew hinvoice with hinvoice | rfl
      · exact (h.settled invoice hinvoice hsettled).frame rfl rfl
      · cases hsettled
    · obtain ⟨invoice, hinvoice, hsettled⟩ := h.known entry hentry htype
      exact ⟨invoice, hold hinvoice, hsettled⟩
    · rcases hnew hinvoice with hinvoice | rfl
      · exact h.length invoice hinvoice
      · exact hperiod
    · rcases hnew hinvoice with hinvoice | rfl
      · exact h.owned invoice hinvoice
      · exact .inr ⟨rfl, hdone⟩
  · have hledger : db.books.ledger.rows = db.books.ledger.rows ++ [] := (List.append_nil _).symm
    refine Advance.of_foreign hledger (by simp) rfl (fun _ => hold)
      fun invoice hinvoice hsettled => ?_
    rcases hnew hinvoice with hinvoice | rfl
    · exact hinvoice
    · cases hsettled

variable {walletId runId : String}

/-- The writes of a settlement. -/
theorem commits_settleDrafts {drafts : List LineDraft} {u : Unit}
    (hfresh : db.invoices.find? (input.scope snapshot) = none)
    (h : Tx.Commits (settleDrafts input runId snapshot userId walletId drafts) db u db') :
    let create := input.invoice runId snapshot userId walletId .calculating none
    let newId := input.newId snapshot.id
    ∃ created invoices paid books,
      db.invoices.insert? create = some created ∧
      created.modify? create.scope (·.settle (totalOf drafts) paid)
        (BillingInvoice.scope_settle _ _) = some invoices ∧
      Tx.Commits (settleInvoice ⟨newId, userId, totalOf drafts, ⟨newId, newId, newId⟩⟩ walletId)
        db.books paid books ∧
      db' = { db with
        invoices
        books
        lines := (db.lines.filter fun line => line.billingInvoiceId ≠ newId) ++
          drafts.map (billingLine snapshot newId) } := by
  simp only [settleDrafts, Tx.commits_bind] at h
  obtain ⟨invoice, mid, hupsert, _, mid', hlines, paid, mid'', hpay, hfinish⟩ := h
  obtain ⟨rfl, created, hinsert, rfl⟩ := commits_upsertInvoice hfresh hupsert
  obtain rfl := commits_replaceLines hlines
  obtain ⟨books, hsettle, rfl⟩ := commits_onBooks.1 hpay
  obtain ⟨invoices, hmodify, rfl⟩ := commits_finishInvoice.1 hfinish
  exact ⟨created, invoices, paid, books, hinsert, hmodify, hsettle, rfl⟩

/-- The invoices after a settlement. -/
theorem mem_settled {create : BillingInvoice} {total paid : ℤ} {created invoices}
    (hinsert : db.invoices.insert? create = some created)
    (hmodify : created.modify? create.scope (·.settle total paid)
      (BillingInvoice.scope_settle _ _) = some invoices) :
    invoice ∈ invoices.rows ↔ invoice ∈ db.invoices.rows ∨ invoice = create.settle total paid := by
  have hrows := IndexedTable.rows_of_insert? hinsert
  have htable := IndexedTable.table_of_build? hmodify
  have hmem : invoice ∈ invoices.rows ↔ invoice ∈ invoices.table := Iff.rfl
  rw [hmem, htable, Table.mem_modify]
  have hfresh := IndexedTable.fresh_of_insert? hinsert
  have hother {row : BillingInvoice} (hrow : row ∈ db.invoices.rows) :
      row.scope ≠ create.scope := fun hscope => by
    rw [IndexedTable.find?_eq_some.2 ⟨hrow, hscope⟩] at hfresh
    cases hfresh
  have hcreated {row : BillingInvoice} : row ∈ created.table ↔
      row ∈ db.invoices.rows ∨ row = create := by
    show row ∈ created.rows ↔ _
    rw [hrows]
    simp
  constructor
  · rintro ⟨row, hrow, rfl⟩
    rcases hcreated.1 hrow with hrow | rfl
    · rw [if_neg (hother hrow)]
      exact .inl hrow
    · rw [if_pos rfl]
      exact .inr rfl
  · rintro (hrow | rfl)
    · exact ⟨invoice, hcreated.2 (.inl hrow), by rw [if_neg (hother hrow)]⟩
    · exact ⟨create, hcreated.2 (.inr rfl), by rw [if_pos rfl]⟩

section Settle

variable {total paid : ℤ} (row : BillingInvoice)

theorem settle_status : (row.settle total paid).status =
    if total - paid = 0 then .paid else if 0 < paid then .partiallyPaid else .unpaid := rfl

theorem settle_settled : (row.settle total paid).status.settled = true := by
  rw [settle_status]
  split_ifs <;> rfl

theorem settle_paid_iff : (row.settle total paid).status = .paid ↔ total - paid = 0 := by
  rw [settle_status]
  split_ifs with hzero <;> simp [hzero]

theorem settle_unpaid_iff (hpaid : 0 ≤ paid) (hle : paid ≤ total) :
    (row.settle total paid).status = .unpaid ↔ paid = 0 ∧ 0 < total := by
  rw [settle_status]
  split_ifs with hzero hpositive
  · exact ⟨nofun, fun h => by omega⟩
  · exact ⟨nofun, fun h => by omega⟩
  · exact ⟨fun _ => by omega, fun _ => rfl⟩

theorem settle_partiallyPaid_iff (hle : paid ≤ total) :
    (row.settle total paid).status = .partiallyPaid ↔ 0 < paid ∧ 0 < total - paid := by
  rw [settle_status]
  split_ifs with hzero hpositive
  · exact ⟨nofun, fun h => by omega⟩
  · exact ⟨fun _ => by omega, fun _ => rfl⟩
  · exact ⟨nofun, fun h => absurd h.1 hpositive⟩

end Settle

section Lines

variable {lines : List BillingLine} {drafts : List LineDraft} {newId other : String}

/-- Writing the lines of one invoice leaves those of the others. -/
theorem lines_of_other (hother : other ≠ newId) :
    (((lines.filter fun line => line.billingInvoiceId ≠ newId) ++
      drafts.map (billingLine snapshot newId)).filter fun line => line.billingInvoiceId = other) =
      lines.filter fun line => line.billingInvoiceId = other := by
  have hown : ((drafts.map (billingLine snapshot newId)).filter fun line =>
      line.billingInvoiceId = other) = [] := by
    refine List.filter_eq_nil_iff.2 fun line hline hkeep => ?_
    obtain ⟨draft, -, rfl⟩ := List.mem_map.1 hline
    exact hother (of_decide_eq_true hkeep).symm
  rw [List.filter_append, List.filter_filter, hown, List.append_nil]
  refine List.filter_congr fun line _ => ?_
  by_cases hline : line.billingInvoiceId = other
  · simp [hline, hother]
  · simp [hline]

theorem lines_of_own :
    (((lines.filter fun line => line.billingInvoiceId ≠ newId) ++
      drafts.map (billingLine snapshot newId)).filter fun line => line.billingInvoiceId = newId) =
      drafts.map (billingLine snapshot newId) := by
  have hnone : (lines.filter fun line => decide (line.billingInvoiceId = newId) &&
      decide (line.billingInvoiceId ≠ newId)) = [] := by
    refine List.filter_eq_nil_iff.2 fun line _ hkeep => ?_
    simp at hkeep
  rw [List.filter_append, List.filter_filter, hnone, List.nil_append]
  refine List.filter_eq_self.2 fun line hline => ?_
  obtain ⟨draft, -, rfl⟩ := List.mem_map.1 hline
  exact decide_eq_true rfl

end Lines

/-- What a settlement takes: nothing, or one debit of its invoice. -/
def Debited (walletId invoiceId : String) (paid : ℤ) (entries : List WalletLedgerEntry) : Prop :=
  (paid = 0 ∧ entries = []) ∨ ∃ entry, 0 < paid ∧ entries = [entry] ∧
    entry.walletId = walletId ∧ entry.direction = .debit ∧ entry.status = .completed ∧
    entry.amount = paid ∧ entry.type = .usageSettlement ∧ entry.referenceId = some invoiceId

variable {entries : List WalletLedgerEntry} {invoiceId : String}

theorem Debited.all {paid : ℤ} (h : Debited walletId invoiceId paid entries) :
    ∀ entry ∈ entries, entry.type = .usageSettlement ∧ entry.referenceId = some invoiceId := by
  intro entry hentry
  rcases h with ⟨-, rfl⟩ | ⟨own, -, rfl, -, -, -, -, htype, href⟩
  · cases hentry
  · obtain rfl := List.mem_singleton.1 hentry
    exact ⟨htype, href⟩

/-- What a settlement appends to the ledger. -/
theorem entries_of_settleInvoice {charge : InvoiceCharge} {paid : ℤ} {books' : Books}
    (hkept : books.Kept opening) (htotal : 0 ≤ charge.totalAmountRial)
    (h : Tx.Commits (settleInvoice charge walletId) books paid books') :
    books'.Kept opening ∧ 0 ≤ paid ∧ paid ≤ charge.totalAmountRial ∧
      paid = min (balanceAt opening walletId books.ledger.rows) charge.totalAmountRial ∧
      ∃ entries, books'.ledger.rows = books.ledger.rows ++ entries ∧
        Debited walletId charge.invoiceId paid entries := by
  have hkept' := hkept.bookings (bookings_of_settleInvoice h)
  obtain ⟨wallet, hwallet, hpaid, hcases⟩ := commits_settleInvoice h
  have hnonneg := hkept.nonneg _ _ hwallet
  have hbalance : wallet.availableBalance = balanceAt opening walletId books.ledger.rows :=
    hkept.balance _ _ hwallet
  refine ⟨hkept', by omega, by omega, by rw [← hbalance]; exact hpaid, ?_⟩
  rcases hcases with ⟨hpositive, entry, hposted, hentry⟩ | ⟨hzero, rfl⟩
  · refine ⟨[entry], IndexedTable.rows_of_insert? hposted.ledger, .inr ⟨entry, hpositive, rfl, ?_⟩⟩
    rw [hentry]
    exact ⟨rfl, rfl, rfl, rfl, rfl, rfl⟩
  · exact ⟨[], (List.append_nil _).symm, .inl ⟨by omega, rfl⟩⟩

/-- The debits of an invoice that is settled for the first time. -/
theorem debitsOf_debited {paid : ℤ} {earlier : List WalletLedgerEntry}
    (hledger : db.books.ledger.rows = earlier ++ entries)
    (hunknown : ∀ entry ∈ earlier, entry.type = .usageSettlement →
      entry.referenceId ≠ some invoiceId) (hdebited : Debited walletId invoiceId paid entries) :
    db.debitsOf invoiceId = entries := by
  have hnone : (earlier.filter fun entry =>
      entry.type = .usageSettlement ∧ entry.referenceId = some invoiceId) = [] := by
    refine List.filter_eq_nil_iff.2 fun entry hentry hkeep => ?_
    obtain ⟨htype, href⟩ := of_decide_eq_true hkeep
    exact hunknown entry hentry htype href
  unfold BillingDb.debitsOf
  rw [hledger, List.filter_append, hnone, List.nil_append]
  exact List.filter_eq_self.2 fun entry hentry => decide_eq_true (hdebited.all entry hentry)

theorem settledInvoice_of_debited {drafts : List LineDraft} {paid : ℤ}
    (hdebits : db.debitsOf invoice.id = entries)
    (hlines : db.linesOf invoice.id = drafts.map (billingLine snapshot invoice.id))
    (hnonneg : 0 ≤ paid) (hle : paid ≤ totalOf drafts)
    (hdebited : Debited invoice.walletId invoice.id paid entries) :
    SettledInvoice db (invoice.settle (totalOf drafts) paid) := by
  constructor
  case total =>
      show totalOf drafts = ((db.linesOf invoice.id).map fun line => line.amountRial).sum
      rw [hlines, List.map_map]
      rfl
  case split => exact add_sub_cancel paid (totalOf drafts)
  case debit =>
      show (paid = 0 ∧ db.debitsOf invoice.id = []) ∨ _
      rcases hdebited with ⟨hzero, hnone⟩ |
        ⟨entry, hpositive, hone, hwallet, hdirection, hstatus, hamount, -, -⟩
      · exact .inl ⟨hzero, hdebits.trans hnone⟩
      · exact .inr ⟨entry, hpositive, hdebits.trans hone, hwallet, hdirection, hstatus, hamount⟩
  case paid => exact settle_paid_iff invoice
  case unpaid => exact settle_unpaid_iff invoice hnonneg hle
  case partiallyPaid => exact settle_partiallyPaid_iff invoice hle

/-- **A settlement makes a settled invoice, and leaves the others as they are.** -/
theorem Running.settles (h : Running opening input pending db) (hdone : snapshot.id ∉ pending)
    (hperiod : input.period.periodEnd - input.period.periodStart =
      periodMilliseconds input.cadence) (hfresh : db.invoices.find? (input.scope snapshot) = none)
    {drafts : List LineDraft} {u : Unit} (hdrafts : ∀ draft ∈ drafts, 0 ≤ draft.amountRial)
    (hcommit : Tx.Commits (settleDrafts input runId snapshot userId walletId drafts) db u db') :
    Running opening input pending db' ∧ Advance opening db db' ∧
      ∃ invoice ∈ db'.invoices.rows, invoice.scope = input.scope snapshot ∧
        invoice.status.settled = true := by
  obtain ⟨created, invoices, paid, books, hinsert, hmodify, hsettle, hdb'⟩ :=
    commits_settleDrafts hfresh hcommit
  obtain ⟨hkept, hnonneg, hle, hpaid, entries, hentries, hdebited⟩ :=
    entries_of_settleInvoice h.kept (totalOf_nonneg hdrafts) hsettle
  have hledger : db'.books.ledger.rows = db.books.ledger.rows ++ entries := by
    rw [hdb']
    exact hentries
  set create := input.invoice runId snapshot userId walletId .calculating none
  have hmem {invoice : BillingInvoice} : invoice ∈ db'.invoices.rows ↔
      invoice ∈ db.invoices.rows ∨ invoice = create.settle (totalOf drafts) paid := by
    rw [hdb']
    exact mem_settled hinsert hmodify
  have hid {invoice : BillingInvoice} (hinvoice : invoice ∈ db.invoices.rows) :
      invoice.id ≠ input.newId snapshot.id := id_ne_of_insert hinsert hinvoice
  have hlines {invoice : BillingInvoice} (hinvoice : invoice ∈ db.invoices.rows) :
      db'.linesOf invoice.id = db.linesOf invoice.id := by
    rw [hdb']
    exact lines_of_other (hid hinvoice)
  have hdebits {invoice : BillingInvoice} (hinvoice : invoice ∈ db.invoices.rows) :
      db'.debitsOf invoice.id = db.debitsOf invoice.id :=
    debitsOf_append hledger fun entry hentry _ href =>
      hid hinvoice (Option.some.inj (href.symm.trans (hdebited.all entry hentry).2))
  -- every earlier usage settlement is of an invoice with another id
  have hown : db'.debitsOf (input.newId snapshot.id) = entries := by
    refine debitsOf_debited hledger (fun entry hentry htype href => ?_) hdebited
    obtain ⟨invoice, hinvoice, -, hother⟩ := h.known entry hentry htype
    exact hid hinvoice (Option.some.inj (hother.symm.trans href))
  have hownLines : db'.linesOf (input.newId snapshot.id) =
      drafts.map (billingLine snapshot (input.newId snapshot.id)) := by
    rw [hdb']
    exact lines_of_own
  have hnew := hmem.2 (.inr rfl)
  refine ⟨⟨⟨by rw [hdb']; exact hkept, fun invoice hinvoice hsettled => ?_,
    fun entry hentry htype => ?_, fun invoice hinvoice => ?_⟩, by rw [hdb']; exact h.started,
    fun invoice hinvoice => ?_⟩, ⟨⟨entries, hledger.symm⟩, fun invoice hinvoice _ =>
      ⟨hmem.2 (.inl hinvoice), hlines hinvoice, hdebits hinvoice⟩,
      fun invoice hinvoice hsettled => ?_⟩, ⟨_, hnew, rfl, settle_settled _⟩⟩
  · rcases hmem.1 hinvoice with hinvoice | rfl
    · exact (h.settled invoice hinvoice hsettled).frame (hlines hinvoice) (hdebits hinvoice)
    · exact settledInvoice_of_debited hown hownLines hnonneg hle hdebited
  · rw [hledger] at hentry
    rcases List.mem_append.1 hentry with hentry | hentry
    · obtain ⟨invoice, hinvoice, hsettled⟩ := h.known entry hentry htype
      exact ⟨invoice, hmem.2 (.inl hinvoice), hsettled⟩
    · exact ⟨_, hnew, settle_settled _, (hdebited.all entry hentry).2⟩
  · rcases hmem.1 hinvoice with hinvoice | rfl
    · exact h.length invoice hinvoice
    · exact hperiod
  · rcases hmem.1 hinvoice with hinvoice | rfl
    · rcases h.owned invoice hinvoice with hover | howned
      · exact .inl (by rw [hdb']; exact hover)
      · exact .inr howned
    · exact .inr ⟨rfl, hdone⟩
  · rcases hmem.1 hinvoice with hinvoice | rfl
    · exact .inl hinvoice
    · exact .inr ⟨db.books.ledger.rows, entries, List.prefix_rfl, hledger,
        hown.symm ▸ List.prefix_rfl, hpaid⟩

/-! ## One snapshot, and all of them -/

/-- What processing a snapshot does that has no invoice yet, once its wallet is there. -/
inductive Processed (input : BillingPeriod) (runId : String) (snapshot : PolicySnapshot)
    (opened : BillingDb) : BillingDb → Prop
  /-- The snapshot is not in force in the period. -/
  | skipped (htarget : (targetOf snapshot input.period).stop ≤
      (targetOf snapshot input.period).start) : Processed input runId snapshot opened opened
  | reviewed {userId walletId : String} {review : InvoiceReview} {invoices}
      (hdrafts : lineDrafts opened.timeline.toTimelineRows snapshot input.cadence
        (targetOf snapshot input.period) = .error (.review review))
      (hinsert : opened.invoices.insert? (input.invoice runId snapshot userId walletId .underReview
        (some review.reason)) = some invoices) :
      Processed input runId snapshot opened { opened with invoices }
  | settled {userId walletId : String} {drafts : List LineDraft} {db : BillingDb}
      (hdrafts : lineDrafts opened.timeline.toTimelineRows snapshot input.cadence
        (targetOf snapshot input.period) = .ok drafts)
      (hsettle : Tx.Commits (settleDrafts input runId snapshot userId walletId drafts) opened ()
        db) : Processed input runId snapshot opened db

theorem processed_of_commits (hfresh : db.invoices.find? (input.scope snapshot) = none)
    {result : SnapshotResult}
    (hcommit : Tx.Commits (processSnapshot input runId seen snapshot) db result db') :
    ∃ userId wallet books, Tx.Commits (Books.ensureWalletForUser seen userId
        (input.newId snapshot.id)) db.books wallet books ∧
      Processed input runId snapshot { db with books } db' := by
  simp only [processSnapshot, Tx.commits_bind, Tx.commits_get, Tx.commits_orThrow] at hcommit
  obtain ⟨_, _, ⟨rfl, rfl⟩, cloud, db, ⟨-, rfl⟩, wallet, mid, hwallet, hcommit⟩ := hcommit
  obtain ⟨books, hensure, rfl⟩ := commits_onBooks.1 hwallet
  have hopened : ({ db with books } : BillingDb).invoices.find? (input.scope snapshot) = none :=
    hfresh
  refine ⟨cloud.userId, wallet, books, hensure, ?_⟩
  rcases Tx.commits_ite.1 hcommit with ⟨htarget, hcommit⟩ | ⟨-, hcommit⟩
  · obtain ⟨-, rfl⟩ := Tx.commits_pure.1 hcommit
    exact .skipped htarget
  rcases Tx.commits_ite.1 hcommit with ⟨hexisting, -⟩ | ⟨-, hcommit⟩
  · rw [hfresh] at hexisting
    cases hexisting
  split at hcommit
  · rename_i review hdrafts
    simp only [markInvoiceForReview, Tx.commits_bind, Tx.commits_pure] at hcommit
    obtain ⟨_, _, hupsert, -, rfl⟩ := hcommit
    obtain ⟨rfl, invoices, hinsert, rfl⟩ := commits_upsertInvoice hopened hupsert
    exact .reviewed hdrafts hinsert
  · exact absurd hcommit Tx.commits_throw
  · rename_i drafts hdrafts
    simp only [Tx.commits_bind, Tx.commits_pure] at hcommit
    obtain ⟨_, _, hsettle, -, rfl⟩ := hcommit
    exact .settled hdrafts hsettle

/-- **What one snapshot does to a run.** -/
theorem Running.processes (h : Running opening input (snapshot.id :: pending) db)
    (hdone : snapshot.id ∉ pending) (hperiod : input.period.periodEnd - input.period.periodStart =
      periodMilliseconds input.cadence) {result : SnapshotResult}
    (hcommit : Tx.Commits (processSnapshot input runId seen snapshot) db result db') :
    Running opening input pending db' ∧ Advance opening db db' := by
  have hfresh := h.fresh hperiod
  obtain ⟨userId, wallet, books, hensure, hprocessed⟩ := processed_of_commits hfresh hcommit
  obtain ⟨hkept, hledger⟩ := ensured h.kept hensure
  have hopened := h.opened hkept hledger
  have hadvance : Advance opening db { db with books } := by
    have happend : books.ledger.rows = db.books.ledger.rows ++ [] := by simp [hledger]
    exact Advance.of_foreign happend (by simp) rfl (fun _ => id) fun _ hinvoice _ => hinvoice
  cases hprocessed with
  | skipped => exact ⟨hopened, hadvance⟩
  | reviewed hdrafts hinsert =>
      obtain ⟨hreviewed, hlater⟩ := hopened.reviewed hdone hperiod hinsert
      exact ⟨hreviewed, hadvance.trans hlater⟩
  | settled hdrafts hsettle =>
      obtain ⟨hsettled, hlater, -⟩ :=
        hopened.settles hdone hperiod hfresh (lineDrafts_nonneg hdrafts) hsettle
      exact ⟨hsettled, hadvance.trans hlater⟩

theorem Running.runs {snapshots : List PolicySnapshot}
    (h : Running opening input (snapshots.map PolicySnapshot.id) db)
    (hnodup : (snapshots.map PolicySnapshot.id).Nodup)
    (hperiod : input.period.periodEnd - input.period.periodStart =
      periodMilliseconds input.cadence) {counts : ℕ × ℕ}
    (hcommit : Tx.Commits (processSnapshots input runId seen snapshots) db counts db') :
    Running opening input [] db' ∧ Advance opening db db' := by
  induction snapshots generalizing db counts with
  | nil =>
      obtain ⟨-, rfl⟩ := Tx.commits_pure.1 hcommit
      exact ⟨h, Advance.refl opening db'⟩
  | cons snapshot rest ih =>
      obtain ⟨hdone, hrest⟩ := List.nodup_cons.1 hnodup
      simp only [processSnapshots, Tx.commits_bind, Tx.commits_pure] at hcommit
      obtain ⟨result, mid, hprocess, later, _, hlater, -, rfl⟩ := hcommit
      obtain ⟨hrunning, hfirst⟩ := h.processes hdone hperiod hprocess
      obtain ⟨hover, hsecond⟩ := ih hrunning hrest hlater
      exact ⟨hover, hfirst.trans hsecond⟩

end Loop

end AbrChin.Billing
