import AbrChin.Orders.RefundReplay
import AbrChin.Upgrade.Payment
import AbrChin.Wallet.Invariant

/-!
# What the steps of an upgrade do

One lemma for each transaction: what has been read, what has been checked, and which rows are
written.  The proofs about upgrades use these lemmas and do not open the transactions again.
-/

namespace AbrChin.Upgrade

open Lib Js Pricing Wallet Orders Billing

variable {db db' : UpgradeDb} {seen : ℕ → UpgradeDb}

/-! ## Statements on the shared tables -/

theorem commits_onBooks {α : Type} {body : Tx Books String α} {a : α} :
    Tx.Commits (onService (Orders.onBooks body)) db a db' ↔
      ∃ books, Tx.Commits body db.books a books ∧
        db' = { db with service := { db.service with books } } := by
  simp only [onService, Orders.onBooks, Tx.commits_zoom]
  constructor
  · rintro ⟨_, ⟨books, hbody, rfl⟩, rfl⟩
    exact ⟨books, hbody, rfl⟩
  · rintro ⟨books, hbody, rfl⟩
    exact ⟨_, ⟨books, hbody, rfl⟩, rfl⟩

theorem commits_setRequestStatus {id : String} {status : Billing.ResourceChangeStatus} {u : Unit} :
    Tx.Commits (setRequestStatus id status) db u db' ↔
      ∃ row requests, db.requests.find? id = some row ∧
        db.requests.modify? id (ResourceChangeRequest.withStatus status)
          (ResourceChangeRequest.id_withStatus status) = some requests ∧
        db' = { db with requests } := by
  simp only [setRequestStatus, Tx.commits_attempt, Option.map_eq_some_iff,
    IndexedTable.updateIf?_eq_some]
  constructor
  · rintro ⟨requests, ⟨row, hrow, -, hmodify⟩, rfl⟩
    exact ⟨row, requests, hrow, hmodify, rfl⟩
  · rintro ⟨row, requests, hrow, hmodify, rfl⟩
    exact ⟨requests, ⟨row, hrow, trivial, hmodify⟩, rfl⟩

/-! ## The quote -/

theorem elim_error_eq_ok {α : Type} {x : Option α} {e : String} {a : α} :
    x.elim (.error e) Except.ok = .ok a ↔ x = some a := by
  cases x <;> simp

/-- A new quote: the charge that it locks, the quotes that it cancels, and its request. -/
structure Quoted (input : CreateUpgradeQuote) (seen : ℕ → UpgradeDb) (db db' : UpgradeDb)
    (request : ResourceChangeRequest) (ctx : UpgradeContext) (targetPlan : UpgradePlan)
    (priced : ChargeResult) : Prop where
  context : loadUpgradeContext (seen 0) input.instanceId input.userId = .ok ctx
  target : (seen 1).planOf input.targetPlanId = some targetPlan
  charge : computeChargeForTarget (ctx.chargeInput targetPlan input.now)
    (seen 2).rows.pricingConfigs (seen 3) = .ok priced
  asked : ∃ keyUsed, request = input.request (input.snapshot ctx targetPlan priced) keyUsed
  written : ∃ mid requests,
    Tx.Commits (cancelQuotes (openUpgradeQuotes input (seen 5))) db () mid ∧
      mid.requests.insert? request = some requests ∧ db' = { mid with requests }

/-- An open quote is given again, or there is a new one. -/
theorem createUpgradeQuote_cases {input : CreateUpgradeQuote} {quote : CreatedQuote}
    (h : Tx.Commits (createUpgradeQuote input seen) db quote db') :
    (quote.reused = true ∧ db' = db) ∨
      (quote.reused = false ∧ ∃ ctx targetPlan priced,
        Quoted input seen db db' quote.request ctx targetPlan priced) := by
  simp only [createUpgradeQuote, Tx.commits_bind, Tx.commits_ofExcept, Tx.commits_orThrow,
    Tx.commits_throwIf] at h
  obtain ⟨ctx, _, ⟨hctx, rfl⟩, targetPlan, _, ⟨htarget, rfl⟩, priced, _, ⟨hpriced, rfl⟩, _, _,
    ⟨-, rfl⟩, h⟩ := h
  cases hopen : ((seen 4).requests.rows.find? fun row => row.idempotencyKey = input.key).filter
    (·.isOpenAt input.now) with
  | some request =>
      simp only [hopen, Tx.commits_pure] at h
      obtain ⟨rfl, rfl⟩ := h
      exact .inl ⟨rfl, rfl⟩
  | none =>
      simp only [hopen, Tx.commits_bind, Tx.commits_attempt, Option.map_eq_some_iff,
        Tx.commits_pure] at h
      obtain ⟨_, mid, hcancel, _, _, ⟨requests, hinsert, rfl⟩, rfl, rfl⟩ := h
      exact .inr ⟨rfl, ctx, targetPlan, priced, hctx, (Option.filter_eq_some_iff.1 htarget).1,
        hpriced, ⟨_, rfl⟩, mid, requests, hcancel, hinsert, rfl⟩

/-! ## The payment -/

/-- A payment that debits: what it finds, and what it writes. -/
structure Debited (input : PayUpgradeQuote) (seen : ℕ → UpgradeDb) (db db' : UpgradeDb)
    (request : ResourceChangeRequest) (snap : UpgradeSnapshot) (entry : WalletLedgerEntry) :
    Prop where
  found : db.requests.find? input.resourceChangeRequestId = some request
  owner : request.requestedById = input.userId
  quote : request.estimateSnapshot = some snap
  unpaid : snap.financial = none
  awaiting : request.status = .requested
  valid : input.now < snap.expiresAt
  positive : 0 < snap.lockedUpgradeChargeRial
  debit : entry = (upgradeDebit request snap.lockedUpgradeChargeRial entry.id
    entry.walletId).entry entry.balanceAfter
  posted : ∃ wallet mid, Tx.Commits (activeWallet (seen 2).books input.userId input.ids.wallet)
    db.books wallet mid ∧ entry.walletId = wallet.id ∧ Books.Posted entry mid db'.books
  marked : db.requests.modify? request.id (ResourceChangeRequest.pay (snap.withFinancial {
      walletDebitedAt := input.now
      ledgerIdempotencyKey := upgradeDebitIdempotencyKey request.id
      ledgerEntryId := entry.id
      amountRial := snap.lockedUpgradeChargeRial })) (ResourceChangeRequest.id_pay _) =
    some db'.requests

theorem postPrepaidUpgradeCharge_frame {request : ResourceChangeRequest} {snap : UpgradeSnapshot}
    {ledgerEntryId journalId : String} {now : ℤ} {u : Unit}
    (h : Tx.Commits (postPrepaidUpgradeCharge request snap ledgerEntryId journalId now) db u db') :
    ∃ accounting, db' = { db with service := { db.service with accounting } } := by
  unfold postPrepaidUpgradeCharge at h
  rcases Tx.commits_ite.1 h with ⟨-, h⟩ | ⟨-, h⟩
  · rw [(Tx.commits_pure.1 h).2]
    exact ⟨db.service.accounting, rfl⟩
  · simp only [onService, onAccounting, Tx.commits_bind, Tx.commits_zoom, Tx.commits_mapError,
      Tx.commits_pure] at h
    obtain ⟨_, _, ⟨_, ⟨accounting, -, rfl⟩, rfl⟩, -, rfl⟩ := h
    exact ⟨accounting, rfl⟩

theorem debitUpgrade_spec {input : PayUpgradeQuote} {request : ResourceChangeRequest}
    {snap : UpgradeSnapshot} {read : UpgradeDb} {payment : UpgradePayment}
    (h : Tx.Commits (debitUpgrade input request snap read) db payment db')
    (hpositive : 0 < snap.lockedUpgradeChargeRial) :
    payment.reused = false ∧ ∃ entry wallet mid accounting requests books,
      Tx.Commits (activeWallet read.books input.userId input.ids.wallet) db.books wallet mid ∧
      entry.walletId = wallet.id ∧
      entry = (upgradeDebit request snap.lockedUpgradeChargeRial entry.id
        entry.walletId).entry entry.balanceAfter ∧
      Books.Posted entry mid books ∧
      db.requests.modify? request.id (ResourceChangeRequest.pay (snap.withFinancial {
          walletDebitedAt := input.now
          ledgerIdempotencyKey := upgradeDebitIdempotencyKey request.id
          ledgerEntryId := entry.id
          amountRial := snap.lockedUpgradeChargeRial })) (ResourceChangeRequest.id_pay _) =
        some requests ∧
      db' = { db with service := { db.service with books, accounting }, requests } := by
  simp only [debitUpgrade, markPaid, Tx.commits_bind, commits_onBooks, Tx.commits_attempt,
    Option.map_eq_some_iff, IndexedTable.updateIf?_eq_some, Tx.commits_pure] at h
  obtain ⟨wallet, _, ⟨mid, hwallet, rfl⟩, entry, _, ⟨books, hdebit, rfl⟩, _, _,
    ⟨requests, ⟨row, -, -, hmodify⟩, rfl⟩, _, _, hpost, rfl, rfl⟩ := h
  obtain ⟨accounting, rfl⟩ := postPrepaidUpgradeCharge_frame hpost
  obtain ⟨hposted, hentry⟩ := Books.commits_debit hdebit rfl hpositive
  have hid : entry.id = input.ids.entry := congrArg WalletLedgerEntry.id hentry
  have hwalletId : entry.walletId = wallet.id := congrArg WalletLedgerEntry.walletId hentry
  refine ⟨rfl, entry, wallet, mid, accounting, requests, books, hwallet, hwalletId, ?_, hposted,
    hmodify, rfl⟩
  rw [hid, hwalletId]
  exact hentry

/-- A payment finds that the quote has been paid, or debits what it has locked. -/
theorem payUpgradeQuoteWithWallet_cases {input : PayUpgradeQuote} {payment : UpgradePayment}
    (h : Tx.Commits (payUpgradeQuoteWithWallet input seen) db payment db') :
    (payment.reused = true ∧ ∃ read wallet books,
        Tx.Commits (Books.ensureWalletForUser read input.userId input.ids.wallet) db.books wallet
          books ∧ db' = { db with service := { db.service with books } }) ∨
      (payment.reused = false ∧ ∃ request snap entry,
        Debited input seen db db' request snap entry) := by
  unfold payUpgradeQuoteWithWallet at h
  cases hprior : priorDebit (seen 0) input.resourceChangeRequestId with
  | some prior =>
      simp only [hprior, Tx.commits_bind, Tx.commits_orThrow, commits_onBooks, Tx.commits_pure] at h
      obtain ⟨_, _, ⟨-, rfl⟩, wallet, _, ⟨books, hensure, rfl⟩, rfl, rfl⟩ := h
      exact .inl ⟨rfl, _, wallet, books, hensure, rfl⟩
  | none =>
      simp only [hprior, confirmUpgradeQuote, Tx.commits_bind, Tx.commits_get,
        Tx.commits_orThrow, Option.filter_eq_some_iff, decide_eq_true_eq] at h
      obtain ⟨_, _, ⟨rfl, rfl⟩, request, _, ⟨⟨hfound, howner⟩, rfl⟩, snap, _, ⟨hquote, rfl⟩, h⟩ := h
      cases hfinancial : snap.financial with
      | some financial =>
          simp only [hfinancial, Tx.commits_bind, commits_onBooks, Tx.commits_pure] at h
          obtain ⟨wallet, _, ⟨books, hensure, rfl⟩, rfl, rfl⟩ := h
          exact .inl ⟨rfl, _, wallet, books, hensure, rfl⟩
      | none =>
          simp only [hfinancial, Tx.commits_bind, Tx.commits_throwIf, Tx.commits_ofExcept] at h
          obtain ⟨_, _, ⟨hstatus, rfl⟩, _, _, ⟨hexpired, rfl⟩, _, _, ⟨hpayable, rfl⟩, h⟩ := h
          simp only [assertUpgradePayable, bind_eq_ok, throwIf_eq_ok, not_or, not_le] at hpayable
          obtain ⟨_, -, _, -, _, -, _, -, _, -, hpositive, -⟩ := hpayable
          obtain ⟨hfresh, entry, wallet, mid, accounting, requests, books, hwallet, hwalletId, hentry,
            hposted, hmodify, rfl⟩ := debitUpgrade_spec h hpositive
          exact .inr ⟨hfresh, request, snap, entry, hfound, howner, hquote, hfinancial,
            not_not.1 hstatus, not_le.1 hexpired, hpositive, hentry,
            ⟨wallet, mid, hwallet, hwalletId, hposted⟩, hmodify⟩

/-! ## The approval -/

/-- What is approved is taken from the queue, and does not lack credit: the status of a request that
does is not committed. -/
theorem approveRequest_spec {id : String} {seen : UpgradeDb} {u : Unit}
    (h : Tx.Commits (approveRequest id seen) db u db') : ∃ request requests,
      db.requests.find? id = some request ∧ inApprovalQueue request.status = true ∧
      request.lacksCredit (seen.walletOfServer request.cloudInstanceId) = false ∧
      db.requests.modify? request.id (ResourceChangeRequest.withStatus .approved)
        (ResourceChangeRequest.id_withStatus .approved) = some requests ∧
      db' = { db with requests } := by
  simp only [approveRequest, Tx.commits_bind, Tx.commits_get, Tx.commits_orThrow,
    Tx.commits_throwIf] at h
  obtain ⟨_, _, ⟨rfl, rfl⟩, request, _, ⟨hfound, rfl⟩, _, _, ⟨hqueued, rfl⟩, h⟩ := h
  rcases Tx.commits_ite.1 h with ⟨-, h⟩ | ⟨hcredit, h⟩
  · obtain ⟨_, _, -, hthrow⟩ := Tx.commits_bind.1 h
    exact absurd hthrow Tx.commits_throw
  · obtain ⟨_, requests, -, hmodify, rfl⟩ := commits_setRequestStatus.1 h
    exact ⟨request, requests, hfound, by simpa using hqueued, by simpa using hcredit, hmodify, rfl⟩

/-- An approval is a repeated one, or takes a request from the queue that does not lack credit. -/
theorem approveResourceChangeRequest_cases {input : ApproveResourceChange} {u : Unit}
    (h : Tx.Commits (approveResourceChangeRequest input seen) db u db') :
    db' = db ∨ ∃ request requests receipts,
      db.requests.find? input.resourceChangeRequestId = some request ∧
      inApprovalQueue request.status = true ∧
      request.lacksCredit ((seen 1).walletOfServer request.cloudInstanceId) = false ∧
      db.requests.modify? request.id (ResourceChangeRequest.withStatus .approved)
        (ResourceChangeRequest.id_withStatus .approved) = some requests ∧
      db' = { db with service := { db.service with receipts }, requests } := by
  simp only [approveResourceChangeRequest, Tx.commits_bind, Tx.commits_ofExcept,
    Tx.commits_throwIf, onService, Tx.commits_zoom, commits_replayAdminCommand] at h
  obtain ⟨command, _, ⟨-, rfl⟩, _, _, ⟨-, rfl⟩, replay, _, ⟨_, ⟨rfl, -⟩, rfl⟩, h⟩ := h
  rcases Tx.commits_ite.1 h with ⟨-, h⟩ | ⟨-, h⟩
  · exact .inl (Tx.commits_pure.1 h).2
  · obtain ⟨_, mid, happrove, hpersist⟩ := Tx.commits_bind.1 h
    obtain ⟨request, requests, hfound, hqueued, hcredit, hmodify, rfl⟩ :=
      approveRequest_spec happrove
    simp only [Tx.commits_zoom, commits_persistAdminCommandReceipt] at hpersist
    obtain ⟨_, ⟨receipts, -, rfl⟩, rfl⟩ := hpersist
    exact .inr ⟨request, requests, receipts, hfound, hqueued, hcredit, hmodify, rfl⟩

/-! ## The fulfilment -/

/-- A fulfilment moves no money. -/
theorem keeps_moveToPlan_books {read : Fulfilment} :
    Tx.Keeps UpgradeDb.books (moveToPlan read) := by
  refine Tx.keeps_bind (Tx.keeps_modify fun _ => rfl) fun _ => ?_
  have hservice {body : Tx ServiceDb String Unit} (hbody : Tx.Keeps ServiceDb.books body) :
      Tx.Keeps UpgradeDb.books (onService body) := by
    intro db u db' h
    obtain ⟨service, hservice, rfl⟩ := Tx.commits_zoom.1 h
    exact hbody _ _ _ hservice
  refine Tx.keeps_bind (hservice (Tx.keeps_attempt fun db db' h => ?_)) fun _ => hservice ?_
  · obtain ⟨_, -, rfl⟩ := Option.map_eq_some_iff.1 h
    rfl
  · unfold moveSubscription
    split
    · exact Tx.keeps_pure
    · refine Tx.keeps_attempt fun db db' h => ?_
      obtain ⟨_, -, rfl⟩ := Option.map_eq_some_iff.1 h
      rfl

/-! ## A server to upgrade -/

/-- A plan of the sample catalog, with its item. -/
def sampleUpgradePlan (id : String) (vcpu ramGb storageGb : ℤ) : UpgradePlan where
  toInfrastructurePlan := { samplePlan.toInfrastructurePlan with id, sizeCode := id }
  published := true
  billingModel := .prepaidTerm
  catalogItemId := some id
  vcpu := some vcpu
  ramGb := some ramGb
  storageGb := some storageGb
  renewalPriceRial := none

def sampleUpgradeItem (id : String) (providerMonthlyPriceIrr : ℤ) : ProviderCatalogItem :=
  { sampleItem with id, sizeCode := id, providerMonthlyPriceIrr := some providerMonthlyPriceIrr }

/-- An order of the smallest plan, for a month. -/
def sampleUpgradeOrder : ServiceOrder where
  id := "order"
  userId := "user"
  amount := 15714600
  termMonths := 1
  couponCodeSnapshot := none
  status := .paid
  planId := some "a"
  planSnapshot := none
  recommendationQuoteId := none
  quoteExpiresAt := none
  provider := some "ARVAN"
  productKind := some "CLOUD_SERVER"
  parchinLevel := some .start
  paidAt := some 0
  createdAt := 0

def sampleInfrastructure : InfrastructureOrder where
  id := "infra"
  serviceOrderId := "order"
  userId := "user"
  planId := "a"
  status := .active
  manualInventoryReserved := false
  preprovisionedInventoryItemId := none
  desiredInstanceName := none
  provisioningJobs := []
  reconcileNoResourceConfirmedAt := none
  reconcileNoResourceConfirmedJobId := none
  reconcileNoResourceConfirmedAttempt := none

/-- A server of the smallest of three plans, whose owner has money for both upgrades. -/
def sampleUpgradeDb : UpgradeDb where
  service := { emptyDb with
    books := ⟨⟨⟨[⟨"wallet", "user", 100000000, .active, "IRR"⟩], by decide⟩, by decide⟩, .empty⟩
    orders := ⟨[sampleUpgradeOrder], by decide⟩
    infrastructureOrders := ⟨⟨[sampleInfrastructure], by decide⟩, by decide⟩ }
  timeline := ⟨⟨[⟨"vm", "user", "a", .arvan, none, .active⟩], [], [], [], []⟩, by decide⟩
  servers := ⟨[⟨"vm", "infra", some 0, none, "a"⟩], by decide⟩
  plans := ⟨[sampleUpgradePlan "a" 1 2 25, sampleUpgradePlan "b" 2 4 50,
    sampleUpgradePlan "c" 4 8 100], by decide⟩
  items := ⟨[sampleUpgradeItem "a" 10000000, sampleUpgradeItem "b" 20000000,
    sampleUpgradeItem "c" 40000000], by decide⟩
  rows := sampleRows none
  policies := []
  requests := .empty

/-- Half of a month. -/
def sampleNow : ℤ := 15 * 24 * 60 * 60 * 1000

def sampleCreate (planId newId : String) : CreateUpgradeQuote :=
  ⟨"vm", "user", planId, sampleNow, newId⟩

def samplePay (requestId : String) : PayUpgradeQuote :=
  ⟨requestId, "user", sampleNow, ⟨"new-wallet", "debit-" ++ requestId, ""⟩, "journal-" ++ requestId⟩

def sampleApprove (requestId : String) : ApproveResourceChange :=
  ⟨requestId, "admin", "paid upgrade", "approve-upgrade:" ++ requestId⟩

end AbrChin.Upgrade
