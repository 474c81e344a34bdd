import AbrChin.Upgrade.Quote

/-!
# The payment, approval and fulfilment of an upgrade

`payUpgradeQuoteWithWallet` of `lib/orders/upgrade-quote.ts` debits what a quote has locked,
`approveResourceChangeRequest` of `lib/billing/admin-review.ts` approves the request, and the
upgrade branch of the route `fulfill-manually` records the new resources and moves the server to
the plan.

The payment and the approval lock the row of the request, so that it is read as it is when they
commit; `seen` is what the other reads saw, in the order in which the code makes them.
-/

namespace AbrChin.Upgrade

open Lib Js Wallet Orders Billing
open Accounting (JournalLineInput PostJournalEntryInput postJournalEntryTx)

/-! ## `payUpgradeQuoteWithWallet` -/

structure PayUpgradeQuote where
  resourceChangeRequestId : String
  userId : String
  now : ℤ
  ids : NewIds
  journalId : String

structure UpgradePayment where
  reused : Bool
  ledgerEntryId : String
  deriving DecidableEq

/-- The debit of a quote. -/
def upgradeDebit (request : ResourceChangeRequest) (locked : ℤ) (id walletId : String) :
    Books.EntryData where
  id
  walletId
  direction := .debit
  type := .servicePurchase
  amount := locked
  referenceType := some "resource_change_request"
  referenceId := some request.id
  idempotencyKey := upgradeDebitIdempotencyKey request.id

/-- A snapshot once its charge has been debited. -/
def UpgradeSnapshot.withFinancial (snap : UpgradeSnapshot) (financial : UpgradeFinancial) :
    UpgradeSnapshot := { snap with financial := some financial }

/-- The request of a quote that has been paid. -/
def ResourceChangeRequest.pay (snap : UpgradeSnapshot) (row : ResourceChangeRequest) :
    ResourceChangeRequest :=
  { row with
    status := .waitingAdminApproval
    estimateSnapshot := some snap
    incrementalBufferRial := snap.lockedUpgradeChargeRial }

@[simp] theorem ResourceChangeRequest.id_pay (snap : UpgradeSnapshot)
    (row : ResourceChangeRequest) : (row.pay snap).id = row.id := rfl

/-- The server and the target are as the quote has them. -/
def assertUpgradePayable (request : ResourceChangeRequest) (snap : UpgradeSnapshot)
    (seen : UpgradeDb) : Except String Unit := do
  let cloud ← (seen.timeline.instances.find? fun row => row.id = request.cloudInstanceId).elim
    (.error "P2025") .ok
  throwIf (cloud.status ≠ .active) "upgrade_not_eligible"
  let plan ← (seen.planOf request.planId).elim (.error "P2025") .ok
  throwIf ((resourceShapeFromPlan plan).all (fun shape => !isStrictResourceUpgrade snap.current shape)
    ∨ plan.id ≠ snap.targetPlanId) "target_unavailable"
  throwIf (plan.catalogOk = false) "target_unavailable"
  throwIf (snap.lockedUpgradeChargeRial ≤ 0 ∨
    snap.lockedUpgradeChargeRial ≠ request.incrementalBufferRial) "invalid_upgrade_quote"

/-- `postPrepaidUpgradeCharge` of `lib/accounting/posting.ts` -/
def upgradeCharged (request : ResourceChangeRequest) (snap : UpgradeSnapshot) (ledgerEntryId : String)
    (occurredAt : ℤ) : PostJournalEntryInput where
  eventType := "resource_upgrade_charged"
  referenceType := "resource_change_request"
  referenceId := request.id
  idempotencyKey := s!"resource-change:{request.id}:upgrade:v1"
  occurredAt
  quality := some .final
  metadata := some (.object [("kind", .string "resource_upgrade"),
    ("billingModel", .string (match snap.billingModel with
      | .paygWallet => "PAYG_WALLET"
      | .prepaidTerm => "PREPAID_TERM")),
    ("amountRial", .string s!"{snap.lockedUpgradeChargeRial}"),
    ("ledgerEntryId", .string ledgerEntryId)])
  lines := [
    ⟨"CUSTOMER_WALLET_LIABILITY", snap.lockedUpgradeChargeRial, 0,
      some "آزادسازی بدهی کیف پول بابت ارتقا منابع", none⟩,
    ⟨"INFRASTRUCTURE_REVENUE", 0, snap.lockedUpgradeChargeRial,
      some "درآمد ارتقا منابع سرور", none⟩]

def postPrepaidUpgradeCharge (request : ResourceChangeRequest) (snap : UpgradeSnapshot)
    (ledgerEntryId journalId : String) (now : ℤ) : Tx UpgradeDb String Unit :=
  if snap.lockedUpgradeChargeRial ≤ 0 then pure ()
  else do
    let _ ← onService (onAccounting
      (postJournalEntryTx (upgradeCharged request snap ledgerEntryId now) journalId now))

/-- `resourceChangeRequest.updateMany`: the request has to be open still. -/
def markPaid (request : ResourceChangeRequest) (snap : UpgradeSnapshot) :
    Tx UpgradeDb String Unit :=
  Tx.attempt "invalid_status" fun db =>
    (db.requests.updateIf? request.id (·.status = .requested) (ResourceChangeRequest.pay snap)
      (ResourceChangeRequest.id_pay snap)).map ({ db with requests := · })

/-- Debit what a quote has locked, and mark its request as paid. -/
def debitUpgrade (input : PayUpgradeQuote) (request : ResourceChangeRequest)
    (snap : UpgradeSnapshot) (seen : UpgradeDb) : Tx UpgradeDb String UpgradePayment := do
  let locked := snap.lockedUpgradeChargeRial
  let wallet ← onService (Orders.onBooks (activeWallet seen.books input.userId input.ids.wallet))
  let ledger ← onService (Orders.onBooks
    (Books.debit (upgradeDebit request locked input.ids.entry wallet.id) true))
  markPaid request (snap.withFinancial {
    walletDebitedAt := input.now
    ledgerIdempotencyKey := upgradeDebitIdempotencyKey request.id
    ledgerEntryId := ledger.id
    amountRial := locked })
  postPrepaidUpgradeCharge request snap ledger.id input.journalId input.now
  pure ⟨false, ledger.id⟩

/-- The transaction of a payment. -/
def confirmUpgradeQuote (input : PayUpgradeQuote) (seen : ℕ → UpgradeDb) :
    Tx UpgradeDb String UpgradePayment := do
  let db ← Tx.get
  let request ← Tx.orThrow "not_found" ((db.requests.find? input.resourceChangeRequestId).filter
    (·.requestedById = input.userId))
  let snap ← Tx.orThrow "invalid_upgrade_quote" request.estimateSnapshot
  match snap.financial with
  | some financial => do
      let _ ← onService (Orders.onBooks
        (Books.ensureWalletForUser (seen 0).books input.userId input.ids.wallet))
      pure ⟨true, financial.ledgerEntryId⟩
  | none => do
      Tx.throwIf (request.status ≠ .requested) "invalid_status"
      Tx.throwIf (snap.expiresAt ≤ input.now) "quote_expired"
      Tx.ofExcept (assertUpgradePayable request snap (seen 0))
      debitUpgrade input request snap (seen 1)

/-- The entry that has paid for a request, when it is completed. -/
def priorDebit (seen : UpgradeDb) (resourceChangeRequestId : String) : Option WalletLedgerEntry :=
  (seen.books.ledger.find? (upgradeDebitIdempotencyKey resourceChangeRequestId)).filter
    (·.status = .completed)

def payUpgradeQuoteWithWallet (input : PayUpgradeQuote) (seen : ℕ → UpgradeDb) :
    Tx UpgradeDb String UpgradePayment :=
  match priorDebit (seen 0) input.resourceChangeRequestId with
  | some priorLedger => do
      let _ ← Tx.orThrow "P2025" (((seen 1).requests.find? input.resourceChangeRequestId).filter
        (·.requestedById = input.userId))
      let _ ← onService (Orders.onBooks
        (Books.ensureWalletForUser (seen 2).books input.userId input.ids.wallet))
      pure ⟨true, priorLedger.id⟩
  | none => confirmUpgradeQuote input fun place => seen (place + 1)

/-! ## `approveResourceChangeRequest` -/

/-- What has been debited for a quote, which is never nothing. -/
def upgradeQuoteHasFinancialCommitment (estimateSnapshot : Option UpgradeSnapshot) : Bool :=
  (estimateSnapshot.bind UpgradeSnapshot.financial).isSome

structure ApproveResourceChange where
  resourceChangeRequestId : String
  actorUserId : String
  reason : String
  idempotencyKey : String

def ApproveResourceChange.command (input : ApproveResourceChange) : AdminCommand where
  operation := "approve_resource_change"
  idempotencyKey := input.idempotencyKey
  actorUserId := input.actorUserId
  infrastructureOrderId := none
  serviceOrderId := none
  reason := input.reason
  payload := [("resourceChangeRequestId", .string input.resourceChangeRequestId)]

/-- The statuses of the queue that an admin approves from. -/
def inApprovalQueue : Billing.ResourceChangeStatus → Bool
  | .requested | .waitingAdminApproval => true
  | _ => false

/-- The wallet of the user that a server belongs to. -/
def UpgradeDb.walletOfServer (db : UpgradeDb) (cloudInstanceId : String) : Option WalletRow :=
  (db.timeline.instances.find? fun row => row.id = cloudInstanceId).bind fun cloud =>
    db.books.walletOf cloud.userId

/-- A request for more credit than the wallet has, of which nothing has been debited. -/
def ResourceChangeRequest.lacksCredit (row : ResourceChangeRequest) (wallet : Option WalletRow) :
    Bool :=
  0 < row.incrementalBufferRial && !upgradeQuoteHasFinancialCommitment row.estimateSnapshot &&
    wallet.all (·.availableBalance < row.incrementalBufferRial)

/-- Approve a request, or mark it as one that lacks credit and throw. -/
def approveRequest (resourceChangeRequestId : String) (seen : UpgradeDb) :
    Tx UpgradeDb String Unit := do
  let db ← Tx.get
  let request ← Tx.orThrow "P2025" (db.requests.find? resourceChangeRequestId)
  Tx.throwIf (inApprovalQueue request.status = false) "resource_change_not_eligible"
  if request.lacksCredit (seen.walletOfServer request.cloudInstanceId) = true then do
    setRequestStatus request.id .creditRequired
    Tx.throw "insufficient_credit"
  else setRequestStatus request.id .approved

def approveResourceChangeRequest (input : ApproveResourceChange) (seen : ℕ → UpgradeDb) :
    Tx UpgradeDb String Unit := do
  let command ← Tx.ofExcept (normalizeAdminCommand input.command)
  Tx.throwIf (input.actorUserId ∉ (seen 0).service.eligibleAdmins) "forbidden"
  let replay ← onService (replayAdminCommand command)
  if replay = true then pure ()
  else do
    approveRequest input.resourceChangeRequestId (seen 1)
    onService (persistAdminCommandReceipt command)

/-! ## The fulfilment -/

/-- What an admin fulfils a request with; resources that are no valid numbers are left out. -/
structure FulfillManually where
  resourceChangeRequestId : String
  idempotencyKey : String
  vcpu : Option ℕ
  ramMb : Option ℕ
  diskGb : Option ℕ
  now : ℤ
  newId : String

/-- What the route has read: the request with its quote, its plan, its server and the server's
subscription. -/
structure Fulfilment where
  change : ResourceChangeRequest
  snap : UpgradeSnapshot
  plan : UpgradePlan
  server : Server
  subscription : Option ServiceSubscription

/-- The checks of the route for an upgrade, and the status that it sets before the timeline is
written. -/
def beginFulfilment (input : FulfillManually) (seen : UpgradeDb) :
    Tx UpgradeDb String Fulfilment := do
  let change ← Tx.orThrow "not_found" (seen.requests.find? input.resourceChangeRequestId)
  Tx.throwIf (change.status ≠ .approved ∧ change.status ≠ .providerMutationPending ∧
    change.status ≠ .waitingAdminApproval) "invalid_status"
  -- what is no upgrade takes another branch of the route
  Tx.throwIf (change.upgrade = false ∧ change.estimateSnapshot.isNone) "not_an_upgrade"
  let snap ← Tx.orThrow "not_committed"
    (change.estimateSnapshot.filter fun snap => snap.financial.isSome)
  Tx.throwIf (change.status ≠ .approved ∧ change.status ≠ .providerMutationPending) "not_approved"
  let plan ← Tx.orThrow "P2025" (seen.planOf change.planId)
  let server ← Tx.orThrow "P2025" (seen.servers.find? change.cloudInstanceId)
  setRequestStatus change.id .providerMutationPending
  pure ⟨change, snap, plan, server, seen.service.subscriptionOf change.cloudInstanceId⟩

/-- The resources of an upgrade: those that the admin gives, or those of the target. -/
def FulfillManually.resources (input : FulfillManually) (snap : UpgradeSnapshot) :
    ResourceQuantitySnapshot where
  state := .active
  vcpu := (input.vcpu.filter (0 < ·)).getD snap.target.vcpu.toNat
  ramMb := (input.ramMb.filter (0 < ·)).getD (snap.target.ramGb.toNat * 1024)
  diskGb := input.diskGb.getD snap.target.diskGb.toNat
  ipv4Count := 1
  backupEnabled := false
  snapshotCount := 0

/-- `recordProviderConfirmedResourceVersion`, which applies the request. -/
def recordUpgrade (input : FulfillManually) (read : Fulfilment) : Tx UpgradeDb String Unit := do
  let db ← Tx.get
  let plan ← Tx.orThrow "P2025" (db.planOf read.change.planId)
  let current ← Tx.orThrow "P2025" (db.requests.find? read.change.id)
  let replayed := db.timeline.versions.any fun row => row.idempotencyKey = input.idempotencyKey
  let _ ← onTimeline (recordProviderConfirmedResourceVersion {
    cloudInstanceId := read.change.cloudInstanceId
    planId := read.change.planId
    planProvider := plan.provider
    paygWallet := plan.billingModel = .paygWallet
    resources := input.resources read.snap
    providerEventId := s!"manual-fulfill:{read.change.id}"
    providerConfirmedAt := input.now
    idempotencyKey := input.idempotencyKey
    sourceChangeRequest := some current.toResourceChangeRequest
    now := input.now
    newId := input.newId })
  if replayed = true then pure () else setRequestStatus read.change.id .applied

/-- A server of a plan. -/
def Server.withSize (size : String) (row : Server) : Server := { row with size }

def infrastructureOrderWithPlan (planId : String) (row : InfrastructureOrder) :
    InfrastructureOrder := { row with planId }

def subscriptionWithRenewalPrice (renewalPriceRial : ℤ) (row : ServiceSubscription) :
    ServiceSubscription := { row with renewalPriceRial }

/-- The subscription of a server that moves to a plan: its renewal costs what the plan says. -/
def moveSubscription (read : Fulfilment) : Tx ServiceDb String Unit :=
  match read.subscription with
  | none => pure ()
  | some subscription => Tx.attempt "P2025" fun service =>
      (service.subscriptions.updateIf? subscription.id (fun _ => true)
        (subscriptionWithRenewalPrice
          (read.plan.renewalPriceRial.getD subscription.renewalPriceRial)) fun _ => rfl).map
            ({ service with subscriptions := · })

/-- Move the server, its order and its subscription to the plan. -/
def moveToPlan (read : Fulfilment) : Tx UpgradeDb String Unit := do
  Tx.modify fun db => { db with
    servers := db.servers.modify read.server.id (Server.withSize read.plan.sizeCode) fun _ => rfl }
  onService (Tx.attempt "P2025" fun service =>
    (service.infrastructureOrders.updateIf? read.server.infrastructureOrderId (fun _ => true)
      (infrastructureOrderWithPlan read.change.planId) fun _ => rfl).map
        ({ service with infrastructureOrders := · }))
  onService (moveSubscription read)

end AbrChin.Upgrade
