import AbrChin.Upgrade.Effects

/-!
# Upgrades are debited once

The system is a database with its versions, on which calls run that create quotes, pay, approve and
fulfil them.  Everything else the program does is `elsewhere`: it may write anything, such as
top-ups, prices and servers, but no upgrade quote and no debit of one.

What a call does is a sequence of four kinds of `Change`.  Each of them keeps `ChargedOnce`, by which
the debits of upgrades and the paid quotes belong to each other, and lets quotes and debits only
grow: what a quote has locked and when it expires stays, and so does a debit.

An admin approves from a queue that has the open quotes too, so that a request can be approved
before it is paid, when the wallet covers what it has locked; nothing is debited then.
-/

namespace AbrChin.Upgrade

open Lib Js Pricing Wallet Orders Billing

/-! ## The system -/

/-- The requests that are upgrade quotes. -/
def UpgradeDb.quotes (db : UpgradeDb) : List ResourceChangeRequest :=
  db.requests.rows.filter fun row => row.estimateSnapshot.isSome

/-- The entry is the debit of a change request. -/
def isUpgradeDebit (entry : WalletLedgerEntry) : Bool :=
  entry.referenceType = some "resource_change_request"

/-- The debits of upgrades. -/
def UpgradeDb.debits (db : UpgradeDb) : List WalletLedgerEntry :=
  db.books.ledger.rows.filter isUpgradeDebit

inductive UpgradeCall where
  | createUpgradeQuote (input : CreateUpgradeQuote)
  | payUpgradeQuoteWithWallet (input : PayUpgradeQuote)
  | approveResourceChangeRequest (input : ApproveResourceChange)
  | beginFulfilment (input : FulfillManually)
  | recordUpgrade (input : FulfillManually) (read : Fulfilment)
  | moveToPlan (read : Fulfilment)
  /-- Another part of the program commits its version. -/
  | elsewhere (next : UpgradeDb)

/-- What another part of the program commits has the same quotes and debits. -/
def commitElsewhere (next : UpgradeDb) : Tx UpgradeDb String Unit :=
  Tx.attempt "elsewhere" fun db =>
    if next.quotes = db.quotes ∧ next.debits = db.debits then some next else none

/-- The transaction of a call; of its results, only that of a payment matters. -/
def UpgradeCall.tx (call : UpgradeCall) (seen : ℕ → UpgradeDb) :
    Tx UpgradeDb String (Option UpgradePayment) :=
  match call with
  | createUpgradeQuote input => do
      let _ ← Upgrade.createUpgradeQuote input seen
      pure none
  | payUpgradeQuoteWithWallet input => do
      let payment ← Upgrade.payUpgradeQuoteWithWallet input seen
      pure (some payment)
  | approveResourceChangeRequest input => do
      Upgrade.approveResourceChangeRequest input seen
      pure none
  | beginFulfilment input => do
      let _ ← Upgrade.beginFulfilment input (seen 0)
      pure none
  | recordUpgrade input read => do
      Upgrade.recordUpgrade input read
      pure none
  | moveToPlan read => do
      Upgrade.moveToPlan read
      pure none
  | elsewhere next => do
      commitElsewhere next
      pure none

/-- One call on the database with its versions. -/
def stepUpgrade : Versions UpgradeDb → Versions.Call UpgradeCall →
    Versions UpgradeDb × Except String (Option UpgradePayment) :=
  Versions.step UpgradeCall.tx

/-! ## What holds of every version -/

/-- The debit of a quote, which the quote names. -/
structure DebitOf (row : ResourceChangeRequest) (entry : WalletLedgerEntry) : Prop where
  reference : entry.referenceId = some row.id
  key : entry.idempotencyKey = upgradeDebitIdempotencyKey row.id
  direction : entry.direction = .debit
  completed : entry.status = .completed
  amount : ∃ snap financial, row.estimateSnapshot = some snap ∧ snap.financial = some financial ∧
    financial.ledgerEntryId = entry.id ∧ entry.amount = snap.lockedUpgradeChargeRial ∧
    financial.walletDebitedAt < snap.expiresAt

/-- Debits and paid quotes belong to each other, and a request that waits for an admin's approval is
paid. -/
structure ChargedOnce (db : UpgradeDb) : Prop where
  debits : ∀ entry ∈ db.debits, ∃ row ∈ db.quotes, DebitOf row entry
  paid : ∀ row ∈ db.quotes, upgradeQuoteHasFinancialCommitment row.estimateSnapshot = true →
    ∃ entry ∈ db.debits, DebitOf row entry
  waiting : ∀ row ∈ db.quotes, row.status = .waitingAdminApproval →
    upgradeQuoteHasFinancialCommitment row.estimateSnapshot = true

/-- **A request is debited at most once.** -/
theorem ChargedOnce.once {db : UpgradeDb} (h : ChargedOnce db) (id : String) :
    (db.debits.filter fun entry => entry.referenceId = some id).length ≤ 1 := by
  have hkey : ∀ entry ∈ db.books.ledger.table,
      (decide (entry.referenceId = some id) && isUpgradeDebit entry) = true →
        entry.idempotencyKey = upgradeDebitIdempotencyKey id := by
    intro entry hentry hrefers
    obtain ⟨hid, hdebit⟩ := Bool.and_eq_true_iff.1 hrefers
    obtain ⟨row, -, hof⟩ := h.debits entry (List.mem_filter.2 ⟨hentry, hdebit⟩)
    obtain rfl : id = row.id :=
      Option.some.inj ((of_decide_eq_true hid).symm.trans hof.reference)
    exact hof.key
  rw [UpgradeDb.debits, List.filter_filter]
  exact Table.length_filter_le_one hkey

/-- What may become of a quote: its status changes, and its debit is added. -/
structure Follows (row later : ResourceChangeRequest) : Prop where
  id : later.id = row.id
  owner : later.requestedById = row.requestedById
  quote : ∀ snap, row.estimateSnapshot = some snap → ∃ snap', later.estimateSnapshot = some snap' ∧
    snap'.lockedUpgradeChargeRial = snap.lockedUpgradeChargeRial ∧
    snap'.expiresAt = snap.expiresAt ∧ snap'.targetPlanId = snap.targetPlanId ∧
    (snap.financial.isSome → snap'.financial = snap.financial)

theorem Follows.refl (row : ResourceChangeRequest) : Follows row row :=
  ⟨rfl, rfl, fun snap hsnap => ⟨snap, hsnap, rfl, rfl, rfl, fun _ => rfl⟩⟩

theorem Follows.trans {row mid later : ResourceChangeRequest} (h₁ : Follows row mid)
    (h₂ : Follows mid later) : Follows row later := by
  refine ⟨h₂.id.trans h₁.id, h₂.owner.trans h₁.owner, fun snap hsnap => ?_⟩
  obtain ⟨snap', hsnap', hlocked, hexpires, htarget, hpaid⟩ := h₁.quote snap hsnap
  obtain ⟨snap'', hsnap'', hlocked', hexpires', htarget', hpaid'⟩ := h₂.quote snap' hsnap'
  refine ⟨snap'', hsnap'', hlocked'.trans hlocked, hexpires'.trans hexpires,
    htarget'.trans htarget, fun hsome => ?_⟩
  have hkept := hpaid hsome
  exact (hpaid' (hkept ▸ hsome)).trans hkept

/-- Quotes and debits only grow. -/
structure Grew (before after : UpgradeDb) : Prop where
  quotes : ∀ row ∈ before.quotes, ∃ later ∈ after.quotes, Follows row later
  debits : ∀ entry ∈ before.debits, entry ∈ after.debits

theorem Grew.refl (db : UpgradeDb) : Grew db db :=
  ⟨fun row hrow => ⟨row, hrow, .refl row⟩, fun _ h => h⟩

theorem Grew.trans (first second third : UpgradeDb) (h₁ : Grew first second)
    (h₂ : Grew second third) : Grew first third := by
  refine ⟨fun row hrow => ?_, fun entry h => h₂.debits entry (h₁.debits entry h)⟩
  obtain ⟨mid, hmid, hfirst⟩ := h₁.quotes row hrow
  obtain ⟨later, hlater, hsecond⟩ := h₂.quotes mid hmid
  exact ⟨later, hlater, hfirst.trans hsecond⟩

/-! ## The changes -/

/-- What a call does, one thing after the other. -/
inductive Change : UpgradeDb → UpgradeDb → Prop
  | aside {db db' : UpgradeDb} (hquotes : db'.quotes = db.quotes) (hdebits : db'.debits = db.debits) :
      Change db db'
  | status {db : UpgradeDb} (id : String) (status : Billing.ResourceChangeStatus)
      (hstatus : status ≠ .waitingAdminApproval) {requests}
      (hmodify : db.requests.modify? id (ResourceChangeRequest.withStatus status)
        (ResourceChangeRequest.id_withStatus status) = some requests) :
      Change db { db with requests }
  | quoted {db : UpgradeDb} (row : ResourceChangeRequest) (hstatus : row.status = .requested)
      (hunpaid : upgradeQuoteHasFinancialCommitment row.estimateSnapshot = false) {requests}
      (hinsert : db.requests.insert? row = some requests) : Change db { db with requests }
  | debited {db db' : UpgradeDb} {input : PayUpgradeQuote} {seen : ℕ → UpgradeDb}
      {request : ResourceChangeRequest} {snap : UpgradeSnapshot} {entry : WalletLedgerEntry}
      (h : Debited input seen db db' request snap entry) : Change db db'

variable {db db' : UpgradeDb}

/-- The quotes after a change of a status. -/
theorem mem_quotes_of_modify {id : String} {f : ResourceChangeRequest → ResourceChangeRequest}
    {hf : ∀ row, (f row).id = row.id} {requests}
    (hmodify : db.requests.modify? id f hf = some requests)
    (hquote : ∀ row ∈ db.requests.rows, row.id = id →
      (f row).estimateSnapshot.isSome = row.estimateSnapshot.isSome)
    (later : ResourceChangeRequest) :
    later ∈ requests.rows.filter (fun row => row.estimateSnapshot.isSome) ↔
      ∃ row ∈ db.quotes, later = if row.id = id then f row else row := by
  rw [IndexedTable.rows_of_modify? hmodify, UpgradeDb.quotes]
  simp only [List.mem_filter, List.mem_map]
  constructor
  · rintro ⟨⟨row, hrow, rfl⟩, hsome⟩
    refine ⟨row, ⟨hrow, ?_⟩, rfl⟩
    by_cases hid : row.id = id
    · rw [if_pos hid, hquote row hrow hid] at hsome
      exact hsome
    · rwa [if_neg hid] at hsome
  · rintro ⟨row, ⟨hrow, hsome⟩, rfl⟩
    refine ⟨⟨row, hrow, rfl⟩, ?_⟩
    by_cases hid : row.id = id
    · rw [if_pos hid, hquote row hrow hid]
      exact hsome
    · rwa [if_neg hid]

variable {entry : WalletLedgerEntry}

/-- A debit stays the debit of a quote that keeps its snapshot. -/
theorem DebitOf.of_same {row later : ResourceChangeRequest} (h : DebitOf row entry)
    (hid : later.id = row.id) (hsnap : later.estimateSnapshot = row.estimateSnapshot) :
    DebitOf later entry :=
  ⟨hid ▸ h.reference, hid ▸ h.key, h.direction, h.completed, hsnap ▸ h.amount⟩

/-- A change of a status keeps the debits of the quotes. -/
theorem ChargedOnce.status (h : ChargedOnce db) {id : String}
    {status : Billing.ResourceChangeStatus} (hstatus : status ≠ .waitingAdminApproval) {requests}
    (hmodify : db.requests.modify? id (ResourceChangeRequest.withStatus status)
      (ResourceChangeRequest.id_withStatus status) = some requests) :
    ChargedOnce { db with requests } ∧ Grew db { db with requests } := by
  have hmem := mem_quotes_of_modify hmodify fun _ _ _ => rfl
  -- a row and what it becomes have the id and the snapshot in common
  have hsame : ∀ row : ResourceChangeRequest,
      (if row.id = id then row.withStatus status else row).id = row.id ∧
      (if row.id = id then row.withStatus status else row).requestedById = row.requestedById ∧
      (if row.id = id then row.withStatus status else row).estimateSnapshot =
        row.estimateSnapshot := by
    intro row
    by_cases hid : row.id = id
    · rw [if_pos hid]
      exact ⟨rfl, rfl, rfl⟩
    · rw [if_neg hid]
      exact ⟨rfl, rfl, rfl⟩
  refine ⟨⟨fun entry hentry => ?_, fun later hlater hpaid => ?_, fun later hlater hwaiting => ?_⟩,
    ⟨fun row hrow => ?_, fun _ hentry => hentry⟩⟩
  · obtain ⟨row, hrow, hof⟩ := h.debits entry hentry
    exact ⟨_, (hmem _).2 ⟨row, hrow, rfl⟩, hof.of_same (hsame row).1 (hsame row).2.2⟩
  · obtain ⟨row, hrow, rfl⟩ := (hmem later).1 hlater
    rw [(hsame row).2.2] at hpaid
    obtain ⟨entry, hentry, hof⟩ := h.paid row hrow hpaid
    exact ⟨entry, hentry, hof.of_same (hsame row).1 (hsame row).2.2⟩
  · obtain ⟨row, hrow, rfl⟩ := (hmem later).1 hlater
    rw [(hsame row).2.2]
    by_cases hid : row.id = id
    · rw [if_pos hid] at hwaiting
      exact absurd hwaiting hstatus
    · rw [if_neg hid] at hwaiting
      exact h.waiting row hrow hwaiting
  · refine ⟨_, (hmem _).2 ⟨row, hrow, rfl⟩, (hsame row).1, (hsame row).2.1, fun snap hsnap => ?_⟩
    exact ⟨snap, (hsame row).2.2.trans hsnap, rfl, rfl, rfl, fun _ => rfl⟩

/-- A new quote has no debit. -/
theorem ChargedOnce.quoted (h : ChargedOnce db) {row : ResourceChangeRequest}
    (hstatus : row.status = .requested)
    (hunpaid : upgradeQuoteHasFinancialCommitment row.estimateSnapshot = false) {requests}
    (hinsert : db.requests.insert? row = some requests) :
    ChargedOnce { db with requests } ∧ Grew db { db with requests } := by
  have hmem : ∀ later, later ∈ ({ db with requests } : UpgradeDb).quotes ↔
      later ∈ db.quotes ∨ (later = row ∧ row.estimateSnapshot.isSome) := by
    intro later
    rw [UpgradeDb.quotes, IndexedTable.rows_of_insert? hinsert, List.filter_append, List.mem_append]
    refine or_congr Iff.rfl ?_
    rw [List.mem_filter, List.mem_singleton]
    constructor
    · rintro ⟨rfl, hsome⟩
      exact ⟨rfl, hsome⟩
    · rintro ⟨rfl, hsome⟩
      exact ⟨rfl, hsome⟩
  refine ⟨⟨fun entry hentry => ?_, fun later hlater hpaid => ?_, fun later hlater hwaiting => ?_⟩,
    ⟨fun old hold => ⟨old, (hmem old).2 (.inl hold), .refl old⟩, fun _ hentry => hentry⟩⟩
  · obtain ⟨old, hold, hof⟩ := h.debits entry hentry
    exact ⟨old, (hmem old).2 (.inl hold), hof⟩
  · rcases (hmem later).1 hlater with hold | ⟨rfl, -⟩
    · exact h.paid later hold hpaid
    · cases hunpaid.symm.trans hpaid
  · rcases (hmem later).1 hlater with hold | ⟨rfl, -⟩
    · exact h.waiting later hold hwaiting
    · cases hstatus.symm.trans hwaiting

variable {seen : ℕ → UpgradeDb} {request : ResourceChangeRequest} {input : PayUpgradeQuote}
  {snap : UpgradeSnapshot}

/-- What a payment has written. -/
theorem Debited.debitOf (h : Debited input seen db db' request snap entry) :
    DebitOf (request.pay (snap.withFinancial {
      walletDebitedAt := input.now
      ledgerIdempotencyKey := upgradeDebitIdempotencyKey request.id
      ledgerEntryId := entry.id
      amountRial := snap.lockedUpgradeChargeRial })) entry := by
  have hentry := h.debit
  refine ⟨congrArg WalletLedgerEntry.referenceId hentry,
    congrArg WalletLedgerEntry.idempotencyKey hentry, congrArg WalletLedgerEntry.direction hentry,
    congrArg WalletLedgerEntry.status hentry, _, _, rfl, rfl, rfl,
    congrArg WalletLedgerEntry.amount hentry, h.valid⟩

/-- The ledger after a payment. -/
theorem Debited.ledger (h : Debited input seen db db' request snap entry) :
    db'.books.ledger.rows = db.books.ledger.rows ++ [entry] := by
  obtain ⟨wallet, mid, hwallet, -, hposted⟩ := h.posted
  rw [IndexedTable.rows_of_insert? hposted.ledger]
  simp only [activeWallet, Tx.commits_bind, Tx.commits_throwIf, Tx.commits_pure] at hwallet
  obtain ⟨_, _, hensure, _, _, ⟨-, rfl⟩, rfl, rfl⟩ := hwallet
  rcases Books.commits_ensureWallet hensure with ⟨-, rfl⟩ | ⟨-, rfl, wallets, -, rfl⟩
  · rfl
  · rfl

/-- A payment adds the debit of a quote that had none. -/
theorem ChargedOnce.debited (h : ChargedOnce db)
    (hdebited : Debited input seen db db' request snap entry) :
    ChargedOnce db' ∧ Grew db db' := by
  obtain ⟨hrequest, -⟩ := IndexedTable.find?_eq_some.1 hdebited.found
  -- the paid request is the only row with its id
  have honly : ∀ row ∈ db.requests.rows, row.id = request.id → row = request := by
    intro row hrow hid
    have hfirst : db.requests.find? row.id = some row := IndexedTable.find?_eq_some.2 ⟨hrow, rfl⟩
    have hsecond : db.requests.find? row.id = some request :=
      IndexedTable.find?_eq_some.2 ⟨hrequest, hid.symm⟩
    exact Option.some.inj (hfirst.symm.trans hsecond)
  have hquote : request ∈ db.quotes :=
    List.mem_filter.2 ⟨hrequest, by rw [hdebited.quote]; rfl⟩
  have hmem := mem_quotes_of_modify hdebited.marked fun row hrow hid => by
    rw [honly row hrow hid, hdebited.quote]
    rfl
  have hpaid := hdebited.debitOf
  have hunpaid : upgradeQuoteHasFinancialCommitment request.estimateSnapshot = false := by
    rw [hdebited.quote]
    show (snap.financial).isSome = false
    rw [hdebited.unpaid]
    rfl
  have hdebits : db'.debits = db.debits ++ [entry] := by
    have hdebit : isUpgradeDebit entry = true := by
      unfold isUpgradeDebit
      rw [hdebited.debit]
      exact decide_eq_true rfl
    rw [UpgradeDb.debits, hdebited.ledger, List.filter_append, UpgradeDb.debits]
    exact congrArg _ (List.filter_cons_of_pos hdebit)
  have hentry : entry ∈ db'.debits := by
    rw [hdebits]
    exact List.mem_append_right _ (List.mem_singleton.2 rfl)
  have hkept : ∀ old ∈ db.debits, old ∈ db'.debits := by
    intro old hold
    rw [hdebits]
    exact List.mem_append_left _ hold
  have hother : ∀ row ∈ db.quotes, row.id ≠ request.id → row ∈ db'.quotes := fun row hrow hid =>
    (hmem row).2 ⟨row, hrow, by rw [if_neg hid]⟩
  have hlater := (hmem _).2 ⟨request, hquote, (if_pos rfl).symm⟩
  refine ⟨⟨fun other hother' => ?_, fun later hin hcommitted => ?_, fun later hin hwaiting => ?_⟩,
    ⟨fun row hrow => ?_, hkept⟩⟩
  · rw [hdebits] at hother'
    rcases List.mem_append.1 hother' with hold | hnew
    · obtain ⟨row, hrow, hof⟩ := h.debits other hold
      refine ⟨row, hother row hrow fun hid => ?_, hof⟩
      -- the quote of an older debit is paid already
      obtain rfl := honly row (List.mem_filter.1 hrow).1 hid
      obtain ⟨snap', financial, hsnap', hfinancial, -⟩ := hof.amount
      rw [hsnap'] at hunpaid
      have hsome : (snap'.financial).isSome = false := hunpaid
      rw [hfinancial] at hsome
      cases hsome
    · obtain rfl := List.mem_singleton.1 hnew
      exact ⟨_, hlater, hpaid⟩
  · obtain ⟨row, hrow, rfl⟩ := (hmem later).1 hin
    by_cases hid : row.id = request.id
    · obtain rfl := honly row (List.mem_filter.1 hrow).1 hid
      rw [if_pos rfl]
      exact ⟨entry, hentry, hpaid⟩
    · rw [if_neg hid] at hcommitted ⊢
      obtain ⟨old, hold, hof⟩ := h.paid row hrow hcommitted
      exact ⟨old, hkept old hold, hof⟩
  · obtain ⟨row, hrow, rfl⟩ := (hmem later).1 hin
    by_cases hid : row.id = request.id
    · rw [if_pos hid]
      rfl
    · rw [if_neg hid] at hwaiting ⊢
      exact h.waiting row hrow hwaiting
  · by_cases hid : row.id = request.id
    · obtain rfl := honly row (List.mem_filter.1 hrow).1 hid
      refine ⟨_, hlater, rfl, rfl, fun snap' hsnap' => ?_⟩
      obtain rfl := Option.some.inj (hdebited.quote.symm.trans hsnap')
      refine ⟨_, rfl, rfl, rfl, rfl, fun hsome => ?_⟩
      rw [hdebited.unpaid] at hsome
      cases hsome
    · exact ⟨row, hother row hrow hid, .refl row⟩

/-- **A change keeps the debits of the quotes.** -/
theorem ChargedOnce.change (h : ChargedOnce db) (hchange : Change db db') :
    ChargedOnce db' ∧ Grew db db' := by
  cases hchange with
  | aside hquotes hdebits =>
      refine ⟨⟨?_, ?_, ?_⟩, ⟨fun row hrow => ⟨row, by rwa [hquotes], .refl row⟩, ?_⟩⟩
      · rw [hquotes, hdebits]
        exact h.debits
      · rw [hquotes, hdebits]
        exact h.paid
      · rw [hquotes]
        exact h.waiting
      · rw [hdebits]
        exact fun _ hentry => hentry
  | status id status hstatus hmodify => exact h.status hstatus hmodify
  | quoted row hstatus hunpaid hinsert => exact h.quoted hstatus hunpaid hinsert
  | debited hdebited => exact h.debited hdebited

theorem ChargedOnce.changes (h : ChargedOnce db) (hchanges : Relation.ReflTransGen Change db db') :
    ChargedOnce db' ∧ Grew db db' := by
  induction hchanges with
  | refl => exact ⟨h, .refl db⟩
  | tail _ hchange ih =>
      obtain ⟨hcharged, hgrew⟩ := ih
      obtain ⟨hcharged', hgrew'⟩ := hcharged.change hchange
      exact ⟨hcharged', .trans _ _ _ hgrew hgrew'⟩

/-! ## What the calls change -/

abbrev Changes (db db' : UpgradeDb) : Prop := Relation.ReflTransGen Change db db'

variable {u : Unit}

theorem changes_setRequestStatus {id : String} {status : Billing.ResourceChangeStatus}
    (hstatus : status ≠ .waitingAdminApproval)
    (h : Tx.Commits (setRequestStatus id status) db u db') : Changes db db' := by
  obtain ⟨row, requests, -, hmodify, rfl⟩ := commits_setRequestStatus.1 h
  exact .single (.status id status hstatus hmodify)

theorem changes_cancelQuotes {quotes : List ResourceChangeRequest}
    (h : Tx.Commits (cancelQuotes quotes) db u db') : Changes db db' := by
  induction quotes generalizing db with
  | nil =>
      obtain ⟨-, rfl⟩ := Tx.commits_pure.1 h
      exact .refl
  | cons row rest ih =>
      obtain ⟨_, mid, hfirst, hrest⟩ := Tx.commits_bind.1 h
      exact (changes_setRequestStatus (by decide) hfirst).trans (ih hrest)

theorem changes_createUpgradeQuote {input : CreateUpgradeQuote} {quote : CreatedQuote}
    (h : Tx.Commits (createUpgradeQuote input seen) db quote db') :
    Changes db db' := by
  rcases createUpgradeQuote_cases h with ⟨-, rfl⟩ | ⟨-, ctx, plan, priced, hquoted⟩
  · exact .refl
  · obtain ⟨mid, requests, hcancel, hinsert, rfl⟩ := hquoted.written
    obtain ⟨keyUsed, hasked⟩ := hquoted.asked
    refine (changes_cancelQuotes hcancel).tail (.quoted quote.request ?_ ?_ hinsert)
    · exact congrArg (fun row : ResourceChangeRequest => row.status) hasked
    · rw [hasked]
      rfl

/-- A wallet that is opened is no change of the quotes. -/
theorem changes_ensureWallet {read books : Books} {userId newId : String} {wallet : WalletRow}
    (h : Tx.Commits (Books.ensureWalletForUser read userId newId) db.books wallet books) :
    Changes db { db with service := { db.service with books } } := by
  refine .single (.aside rfl ?_)
  rcases Books.commits_ensureWallet h with ⟨-, rfl⟩ | ⟨-, rfl, wallets, -, rfl⟩
  · rfl
  · rfl

theorem changes_payUpgradeQuoteWithWallet {payment : UpgradePayment}
    (h : Tx.Commits (payUpgradeQuoteWithWallet input seen) db payment db') : Changes db db' := by
  rcases payUpgradeQuoteWithWallet_cases h with ⟨-, _, _, _, hensure, rfl⟩ | ⟨-, _, _, _, hdebited⟩
  · exact changes_ensureWallet hensure
  · exact .single (.debited hdebited)

theorem changes_approveResourceChangeRequest {input : ApproveResourceChange}
    (h : Tx.Commits (approveResourceChangeRequest input seen) db u db') : Changes db db' := by
  rcases approveResourceChangeRequest_cases h with
    rfl | ⟨request, requests, receipts, -, -, -, hmodify, rfl⟩
  · exact .refl
  · have hstatus : Changes db { db with requests } :=
      .single (.status request.id .approved (by decide) hmodify)
    exact hstatus.tail (.aside rfl rfl)

variable {read : Fulfilment}

theorem changes_beginFulfilment {input : FulfillManually} {seen : UpgradeDb}
    (h : Tx.Commits (beginFulfilment input seen) db read db') : Changes db db' := by
  simp only [beginFulfilment, Tx.commits_bind, Tx.commits_orThrow, Tx.commits_throwIf,
    Tx.commits_pure] at h
  obtain ⟨_, _, ⟨-, rfl⟩, _, _, ⟨-, rfl⟩, _, _, ⟨-, rfl⟩, _, _, ⟨-, rfl⟩, _, _, ⟨-, rfl⟩, _, _,
    ⟨-, rfl⟩, _, _, ⟨-, rfl⟩, _, _, hstatus, -, rfl⟩ := h
  exact changes_setRequestStatus (by decide) hstatus

theorem changes_recordUpgrade {input : FulfillManually}
    (h : Tx.Commits (recordUpgrade input read) db u db') : Changes db db' := by
  simp only [recordUpgrade, Tx.commits_bind, Tx.commits_get, Tx.commits_orThrow, onTimeline,
    Tx.commits_zoom] at h
  obtain ⟨_, db, ⟨rfl, rfl⟩, _, _, ⟨-, rfl⟩, _, _, ⟨-, rfl⟩, _, _, ⟨timeline, -, rfl⟩, h⟩ := h
  have htimeline (start : UpgradeDb) : Changes start { start with timeline } :=
    .single (.aside rfl rfl)
  rcases Tx.commits_ite.1 h with ⟨-, h⟩ | ⟨-, h⟩
  · rw [(Tx.commits_pure.1 h).2]
    exact htimeline _
  · exact (htimeline _).trans (changes_setRequestStatus (by decide) h)

theorem changes_moveToPlan (h : Tx.Commits (moveToPlan read) db u db') : Changes db db' := by
  have hbooks : db'.books = db.books := keeps_moveToPlan_books _ _ _ h
  simp only [moveToPlan, Tx.commits_bind, Tx.commits_modify, onService, Tx.commits_zoom,
    Tx.commits_attempt, Option.map_eq_some_iff] at h
  obtain ⟨_, _, rfl, _, _, ⟨_, ⟨infras, -, rfl⟩, rfl⟩, service, -, rfl⟩ := h
  refine .single (.aside rfl ?_)
  unfold UpgradeDb.debits
  rw [hbooks]

/-- **A call is a sequence of changes.** -/
theorem changes_tx {call : UpgradeCall} {result : Option UpgradePayment}
    (h : Tx.Commits (call.tx seen) db result db') : Changes db db' := by
  cases call with
  | createUpgradeQuote input =>
      obtain ⟨_, _, h, hpure⟩ := Tx.commits_bind.1 h
      rw [(Tx.commits_pure.1 hpure).2]
      exact changes_createUpgradeQuote h
  | payUpgradeQuoteWithWallet input =>
      obtain ⟨_, _, h, hpure⟩ := Tx.commits_bind.1 h
      rw [(Tx.commits_pure.1 hpure).2]
      exact changes_payUpgradeQuoteWithWallet h
  | approveResourceChangeRequest input =>
      obtain ⟨_, _, h, hpure⟩ := Tx.commits_bind.1 h
      rw [(Tx.commits_pure.1 hpure).2]
      exact changes_approveResourceChangeRequest h
  | beginFulfilment input =>
      obtain ⟨_, _, h, hpure⟩ := Tx.commits_bind.1 h
      rw [(Tx.commits_pure.1 hpure).2]
      exact changes_beginFulfilment h
  | recordUpgrade input read =>
      obtain ⟨_, _, h, hpure⟩ := Tx.commits_bind.1 h
      rw [(Tx.commits_pure.1 hpure).2]
      exact changes_recordUpgrade h
  | moveToPlan read =>
      obtain ⟨_, _, h, hpure⟩ := Tx.commits_bind.1 h
      rw [(Tx.commits_pure.1 hpure).2]
      exact changes_moveToPlan h
  | elsewhere next =>
      obtain ⟨_, mid, h, hpure⟩ := Tx.commits_bind.1 h
      rw [(Tx.commits_pure.1 hpure).2]
      simp only [commitElsewhere, Tx.commits_attempt] at h
      split_ifs at h with hsame
      obtain rfl := Option.some.inj h
      exact .single (.aside hsame.1 hsame.2)

/-! ## Runs -/

/-- Nobody has asked for an upgrade. -/
structure Unasked (db : UpgradeDb) : Prop where
  quotes : db.quotes = []
  debits : db.debits = []

theorem Unasked.chargedOnce (h : Unasked db) : ChargedOnce db := by
  refine ⟨?_, ?_, ?_⟩
  · rw [h.debits]
    exact fun entry hentry => absurd hentry (List.not_mem_nil)
  · rw [h.quotes]
    exact fun row hrow => absurd hrow (List.not_mem_nil)
  · rw [h.quotes]
    exact fun row hrow => absurd hrow (List.not_mem_nil)

/-- Every version of a run is charged once, and its quotes and debits lead to the current ones. -/
theorem chargedOnce_run {start : UpgradeDb} (h : Unasked start)
    (calls : List (Versions.Call UpgradeCall)) :
    (run stepUpgrade (Versions.init start) calls).Ever ChargedOnce ∧
      (run stepUpgrade (Versions.init start) calls).Grown Grew := by
  refine Versions.grown_run UpgradeCall.tx ChargedOnce Grew Grew.refl Grew.trans ?_ ?_ calls
  · intro call seen db result db' _ hcharged hcommits
    exact hcharged.changes (changes_tx hcommits)
  · exact ⟨Versions.ever_init h.chargedOnce, Versions.grown_init Grew.refl start⟩

/-- What a confirmation does: it fails and changes nothing, it finds that the quote is paid and
takes nothing, or it takes what the quote has locked. -/
def ConfirmsOnce (versions : Versions UpgradeDb) (input : PayUpgradeQuote) (ages : List ℕ) : Prop :=
  let outcome := stepUpgrade versions ⟨.payUpgradeQuoteWithWallet input, ages⟩
  match outcome.2 with
  | .error _ => outcome.1 = versions
  | .ok (some ⟨true, _⟩) => outcome.1.current.requests = versions.current.requests ∧
      outcome.1.current.books.ledger = versions.current.books.ledger ∧
      ∀ wallet ∈ versions.current.books.wallets.rows,
        wallet ∈ outcome.1.current.books.wallets.rows
  | .ok (some ⟨false, _⟩) => ∃ request snap entry,
      Debited input (versions.seen ages) versions.current outcome.1.current request snap entry
  | .ok none => False

theorem confirmsOnce (versions : Versions UpgradeDb) (input : PayUpgradeQuote) (ages : List ℕ) :
    ConfirmsOnce versions input ages := by
  unfold ConfirmsOnce
  rcases Versions.step_cases UpgradeCall.tx versions ⟨.payUpgradeQuoteWithWallet input, ages⟩ with
    ⟨result, db, hcommits, heq⟩ | ⟨e, heq⟩
  · obtain ⟨payment, mid, hpay, hpure⟩ := Tx.commits_bind.1 hcommits
    obtain ⟨rfl, rfl⟩ := Tx.commits_pure.1 hpure
    rw [stepUpgrade, heq]
    obtain ⟨reused, ledgerEntryId⟩ := payment
    rcases payUpgradeQuoteWithWallet_cases hpay with
      ⟨hreused, read, wallet, books, hensure, rfl⟩ | ⟨hfresh, request, snap, entry, hdebited⟩
    · obtain rfl : reused = true := hreused
      rcases Books.commits_ensureWallet hensure with ⟨-, rfl⟩ | ⟨-, rfl, wallets, hinsert, rfl⟩
      · exact ⟨rfl, rfl, fun _ hwallet => hwallet⟩
      · refine ⟨rfl, rfl, fun wallet hwallet => ?_⟩
        show wallet ∈ wallets.rows
        rw [IndexedTable.rows_of_insert? hinsert]
        exact List.mem_append_left _ hwallet
    · obtain rfl : reused = false := hfresh
      exact ⟨request, snap, entry, hdebited⟩
  · rw [stepUpgrade, heq]

/-- What an approval does: it debits nothing, and takes a request that is paid, whose charge is not
positive, or whose charge the wallet covers. -/
def ApprovesCovered (versions : Versions UpgradeDb) (input : ApproveResourceChange)
    (ages : List ℕ) : Prop :=
  let outcome := stepUpgrade versions ⟨.approveResourceChangeRequest input, ages⟩
  outcome.1 = versions ∨ (outcome.1.current.books = versions.current.books ∧
    (outcome.1.current.requests = versions.current.requests ∨
      ∃ request, versions.current.requests.find? input.resourceChangeRequestId = some request ∧
        inApprovalQueue request.status = true ∧
        (upgradeQuoteHasFinancialCommitment request.estimateSnapshot = true ∨
          request.incrementalBufferRial ≤ 0 ∨
          ∃ wallet, (versions.seen ages 1).walletOfServer request.cloudInstanceId = some wallet ∧
            request.incrementalBufferRial ≤ wallet.availableBalance)))

theorem approvesCovered (versions : Versions UpgradeDb) (input : ApproveResourceChange)
    (ages : List ℕ) : ApprovesCovered versions input ages := by
  unfold ApprovesCovered
  rcases Versions.step_cases UpgradeCall.tx versions ⟨.approveResourceChangeRequest input, ages⟩ with
    ⟨result, db, hcommits, heq⟩ | ⟨e, heq⟩
  · obtain ⟨_, mid, happrove, hpure⟩ := Tx.commits_bind.1 hcommits
    obtain ⟨rfl, rfl⟩ := Tx.commits_pure.1 hpure
    rw [stepUpgrade, heq]
    refine .inr ?_
    rcases approveResourceChangeRequest_cases happrove with
      rfl | ⟨request, requests, receipts, hfound, hqueued, hcredit, hmodify, rfl⟩
    · exact ⟨rfl, .inl rfl⟩
    · refine ⟨rfl, .inr ⟨request, hfound, hqueued, ?_⟩⟩
      by_cases hpaid : upgradeQuoteHasFinancialCommitment request.estimateSnapshot = true
      · exact .inl hpaid
      by_cases hpositive : 0 < request.incrementalBufferRial
      · refine .inr (.inr ?_)
        unfold ResourceChangeRequest.lacksCredit at hcredit
        rw [decide_eq_true hpositive, Bool.eq_false_of_not_eq_true hpaid] at hcredit
        cases hwallet : (versions.seen ages 1).walletOfServer request.cloudInstanceId with
        | none =>
            rw [hwallet] at hcredit
            cases hcredit
        | some wallet =>
            rw [hwallet] at hcredit
            have hcovered : ¬ wallet.availableBalance < request.incrementalBufferRial :=
              of_decide_eq_false hcredit
            exact ⟨wallet, rfl, not_lt.1 hcovered⟩
      · exact .inr (.inl (not_lt.1 hpositive))
  · rw [stepUpgrade, heq]
    exact .inl rfl

/-- A request is in the queue of the approvals, or approved, only once it is debited. -/
def QueuedOnceDebited (db : UpgradeDb) : Prop :=
  ∀ row ∈ db.quotes, inApprovalQueue row.status = true ∨ row.status = .approved →
    row.incrementalBufferRial ≤ 0 ∨ ∃ entry ∈ db.debits, entry.referenceId = some row.id

end AbrChin.Upgrade
