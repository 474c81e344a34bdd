import AbrChin.Upgrade.Payment

/-!
# Activation requests

`requestActivation` and `approveActivation` of `lib/billing/activation.ts`: a server that is paid by
its usage is asked for with credit in the wallet, and an admin approves it.  Both are SERIALIZABLE
transactions, as is `approveResourceChangeRequest`, so that a run is a sequence of them.

What is checked of a quote and its sale, and the estimate that is computed from it, are inputs of a
call.  The other writers of an activation are those that the server's own transactions run: the
start of its billing, the record of a server that was made by hand, and its delivery.
-/

namespace AbrChin.Billing

open Lib Orders Wallet Upgrade
open ProductFlow (OwnerKind OwnerRow transitionProductFlowTx)

/-! ## Rows -/

/-- The parts of a request, of which the hash is stored. -/
structure ActivationFingerprint where
  quoteId : String
  userId : String
  cadence : BillingCadence
  deriving DecidableEq

structure ActivationRow where
  id : String
  userId : String
  serviceOrderId : String
  planId : String
  infrastructureOrderId : Option String
  selectedCadence : BillingCadence
  status : ActivationRequestStatus
  minimumCreditRequiredRial : ℤ
  requestFingerprint : ActivationFingerprint
  idempotencyKey : String
  deriving DecidableEq

structure ActivationDb where
  upgrades : UpgradeDb
  activations : IndexedTable ActivationRow.id [fun row => some row.serviceOrderId,
    (·.infrastructureOrderId), fun row => some row.idempotencyKey]

namespace ActivationDb

def service (db : ActivationDb) : ServiceDb := db.upgrades.service

/-- Run a statement on the other tables. -/
def onUpgrades {α : Type} (body : Tx UpgradeDb String α) : Tx ActivationDb String α :=
  body.zoom ActivationDb.upgrades fun db upgrades => { db with upgrades }

/-- Run a statement on the tables of orders. -/
def onOrders {α : Type} (body : Tx ServiceDb String α) : Tx ActivationDb String α :=
  onUpgrades (Upgrade.onService body)

/-- `activationRequest.update` -/
def update (id : String) (f : ActivationRow → ActivationRow)
    (hf : ∀ row, (f row).id = row.id) : Tx ActivationDb String Unit :=
  Tx.attempt "P2025" fun db =>
    (db.activations.updateIf? id (fun _ => true) f hf).map ({ db with activations := · })

end ActivationDb

open ActivationDb

def ActivationRow.withStatus (status : ActivationRequestStatus) (row : ActivationRow) :
    ActivationRow := { row with status }

@[simp] theorem ActivationRow.id_withStatus (status : ActivationRequestStatus)
    (row : ActivationRow) : (row.withStatus status).id = row.id := rfl

def setActivationStatus (id : String) (status : ActivationRequestStatus) :
    Tx ActivationDb String Unit :=
  ActivationDb.update id (ActivationRow.withStatus status) (ActivationRow.id_withStatus status)

/-- A wallet that is there, with the credit that an activation needs. -/
def hasCredit (wallet : Option WalletRow) (row : ActivationRow) : Bool :=
  wallet.any (row.minimumCreditRequiredRial ≤ ·.availableBalance)

/-! ## `requestActivation` -/

/-- What a new request reads of the plan of its quote, and what it estimates. -/
structure QuoteEstimate where
  minimumCreditRial : ℤ
  planSnapshot : Option Js.Json
  provider : Option String
  productKind : Option String

structure RequestActivation where
  quoteId : String
  userId : String
  cadence : BillingCadence
  idempotencyKey : String
  now : ℤ
  /-- The quote is one of the user for a cloud server. -/
  quoteAllowed : Bool
  /-- The checks of the sale, and the estimate of the quote. -/
  estimate : Except String QuoteEstimate
  orderId : String
  activationId : String

def RequestActivation.fingerprint (input : RequestActivation) : ActivationFingerprint :=
  ⟨input.quoteId, input.userId, input.cadence⟩

/-- A request that is repeated is approved by an admin once the wallet has its credit. -/
def replayActivation (input : RequestActivation) (existing : ActivationRow) :
    Tx ActivationDb String ActivationRow := do
  Tx.throwIf (existing.requestFingerprint ≠ input.fingerprint) "idempotency_conflict"
  if existing.status = .creditRequired then do
    let db ← Tx.get
    let wallet ← Tx.orThrow "P2025" (db.service.books.walletOf input.userId)
    if existing.minimumCreditRequiredRial ≤ wallet.availableBalance then do
      setActivationStatus existing.id .waitingAdminApproval
      pure (existing.withStatus .waitingAdminApproval)
    else pure existing
  else pure existing

/-- The order of a request. -/
def activationOrder (input : RequestActivation) (quote : RecommendationQuote)
    (estimate : QuoteEstimate) : ServiceOrder where
  id := input.orderId
  userId := input.userId
  amount := 0
  termMonths := 1
  couponCodeSnapshot := none
  status := .activationRequested
  planId := some quote.planId
  planSnapshot := estimate.planSnapshot
  recommendationQuoteId := some quote.id
  quoteExpiresAt := some quote.expiresAt
  provider := estimate.provider
  productKind := estimate.productKind
  parchinLevel := quote.parchinLevel
  paidAt := none
  createdAt := input.now

/-- The request that is created. -/
def newActivation (input : RequestActivation) (quote : RecommendationQuote)
    (estimate : QuoteEstimate) (wallet : WalletRow) : ActivationRow where
  id := input.activationId
  userId := input.userId
  serviceOrderId := input.orderId
  planId := quote.planId
  infrastructureOrderId := none
  selectedCadence := input.cadence
  status := if estimate.minimumCreditRial ≤ wallet.availableBalance then .waitingAdminApproval
    else .creditRequired
  minimumCreditRequiredRial := estimate.minimumCreditRial
  requestFingerprint := input.fingerprint
  idempotencyKey := input.idempotencyKey

/-- The revision of a session in the product flow. -/
def revisionOf (db : ServiceDb) (sessionId : String) : ℤ :=
  (((db.flow.owners .recommendationSession).find? sessionId).map
    OwnerRow.productFlowRevision).getD 0

/-- The rows of a new request, apart from the request itself. -/
def createActivationOrder (input : RequestActivation) (quote : RecommendationQuote)
    (estimate : QuoteEstimate) : Tx ServiceDb String Unit := do
  Tx.attempt "P2002" fun db =>
    (db.orders.insert? (activationOrder input quote estimate)).map ({ db with orders := · })
  Tx.attempt "P2002" fun db =>
    ((db.flow.owners .serviceOrder).insert?
      ⟨input.orderId, some "QUOTED", revisionOf db quote.sessionId⟩).map fun rows =>
        { db with flow :=
          { db.flow with owners := Function.update db.flow.owners .serviceOrder rows } }

/-- What a request does to its quote, and to the session of the quote. -/
def selectQuote (input : RequestActivation) (quote : RecommendationQuote) :
    Tx ServiceDb String Unit := do
  Tx.modify fun db => { db with
    quotes := db.quotes.modify quote.id ({ · with status := .selected }) fun _ => rfl
    sessions := db.sessions.modify quote.sessionId ({ · with status := .checkout }) fun _ => rfl }
  let db ← Tx.get
  let _ ← onFlow (transitionProductFlowTx {
    owner := {
      recommendationSessionId := some quote.sessionId
      serviceOrderId := some input.orderId }
    fromState := .quoted
    toState := .activationRequested
    reason := "wallet_first_activation_requested"
    idempotencyKey := "activation-flow:" ++ input.activationId
    actorUserId := some input.userId } fun _ => db.flow)

/-- The request of a quote that has an order: only one that has come from a request. -/
def activationOfQuote (db : ActivationDb) (order : ServiceOrder) :
    Except String ActivationRow :=
  (db.activations.rows.find? (·.serviceOrderId = order.id)).elim
    (.error "direct_checkout_not_allowed") .ok

/-- A request with a new key. -/
def createActivation (input : RequestActivation) (db : ActivationDb) :
    Tx ActivationDb String ActivationRow := do
  let quote ← Tx.orThrow "quote_expired" (db.service.quotes.find? input.quoteId)
  let session ← Tx.orThrow "quote_expired" (db.service.sessions.find? quote.sessionId)
  Tx.throwIf (input.quoteAllowed = false ∨ (quote.status ≠ .active ∧ quote.status ≠ .selected) ∨
    quote.expiresAt ≤ input.now ∨ session.expiresAt ≤ input.now) "quote_expired"
  match db.service.orders.rows.find? (·.recommendationQuoteId = some quote.id) with
  | some order => Tx.ofExcept (activationOfQuote db order)
  | none => do
      let estimate ← Tx.ofExcept input.estimate
      let wallet ← Tx.orThrow "P2025" (db.service.books.walletOf input.userId)
      onOrders (createActivationOrder input quote estimate)
      let activation := newActivation input quote estimate wallet
      Tx.attempt "P2002" fun db =>
        (db.activations.insert? activation).map ({ db with activations := · })
      onOrders (selectQuote input quote)
      pure activation

def requestActivation (input : RequestActivation) : Tx ActivationDb String ActivationRow := do
  Tx.throwIf (isIdempotencyKey input.idempotencyKey = false) "invalid_idempotency_key"
  let db ← Tx.get
  match db.activations.rows.find? (·.idempotencyKey = input.idempotencyKey) with
  | some existing => replayActivation input existing
  | none => createActivation input db

/-! ## `approveActivation` -/

structure ApproveActivation where
  activationRequestId : String
  adminUserId : String
  reason : String
  idempotencyKey : String
  /-- The checks of the sale, of the catalog and of the provider's contract. -/
  revalidation : Except String Unit
  infrastructureOrderId : String

def ApproveActivation.command (input : ApproveActivation) (activation : ActivationRow)
    (infrastructureOrderId : String) : AdminCommand where
  operation := "APPROVE_PROVISION"
  idempotencyKey := input.idempotencyKey
  actorUserId := input.adminUserId
  infrastructureOrderId := some infrastructureOrderId
  serviceOrderId := some activation.serviceOrderId
  reason := input.reason
  payload := [("activationRequestId", .string activation.id)]

/-- The plan is one of servers that are kept ready. -/
def fromInventory (db : ServiceDb) (planId : String) : Bool :=
  (db.plans.find? (·.id = planId)).any (·.offerSource = .preprovisionedInventory)

/-- The infrastructure order of an activation. -/
def activationInfrastructure (input : ApproveActivation) (activation : ActivationRow)
    (quote : RecommendationQuote) (db : ServiceDb) : InfrastructureOrder where
  id := input.infrastructureOrderId
  serviceOrderId := activation.serviceOrderId
  userId := activation.userId
  planId := activation.planId
  status := .fundingConfirmed
  manualInventoryReserved := false
  preprovisionedInventoryItemId :=
    if fromInventory db activation.planId then quote.preprovisionedInventoryItemId else none
  -- `abrchin-${serviceOrderId.slice(-12)}-1`
  desiredInstanceName := some ("abrchin-" ++ String.ofList (activation.serviceOrderId.toList.drop
    (activation.serviceOrderId.length - 12)) ++ "-1")
  provisioningJobs := []
  reconcileNoResourceConfirmedAt := none
  reconcileNoResourceConfirmedJobId := none
  reconcileNoResourceConfirmedAttempt := none

/-- Create the infrastructure order of an activation. -/
def createInfrastructure (input : ApproveActivation) (activation : ActivationRow)
    (quote : RecommendationQuote) : Tx ServiceDb String Unit := do
  Tx.attempt "P2002" fun db =>
    (db.infrastructureOrders.insert? (activationInfrastructure input activation quote db)).map
      ({ db with infrastructureOrders := · })
  Tx.attempt "P2002" fun db =>
    ((db.flow.owners .infrastructureOrder).insert?
      ⟨input.infrastructureOrderId, some "ACTIVATION_REQUESTED",
        revisionOf db quote.sessionId⟩).map fun rows =>
          { db with flow :=
            { db.flow with owners := Function.update db.flow.owners .infrastructureOrder rows } }
  let db ← Tx.get
  let _ ← onFlow (transitionProductFlowTx {
    owner := {
      recommendationSessionId := some quote.sessionId
      serviceOrderId := some activation.serviceOrderId
      infrastructureOrderId := some input.infrastructureOrderId }
    fromState := .activationRequested
    toState := .provisionApproved
    reason := "admin_activation_approved"
    idempotencyKey := "activation-approved:" ++ activation.id
    actorUserId := some input.adminUserId } fun _ => db.flow)

def ActivationRow.approve (infrastructureOrderId : String) (row : ActivationRow) : ActivationRow :=
  { row with status := .approved, infrastructureOrderId := some infrastructureOrderId }

/-- The quote of the order of an activation. -/
def quoteOfActivation (db : ActivationDb) (activation : ActivationRow) :
    Option RecommendationQuote :=
  ((db.service.orders.find? activation.serviceOrderId).bind
    ServiceOrder.recommendationQuoteId).bind db.service.quotes.find?

/-- An activation whose user has the credit is approved. -/
def approveWithCredit (input : ApproveActivation) (activation : ActivationRow) (db : ActivationDb) :
    Tx ActivationDb String Unit := do
  let quote ← Tx.orThrow "estimate_snapshot_missing" (quoteOfActivation db activation)
  Tx.ofExcept input.revalidation
  onOrders (createInfrastructure input activation quote)
  ActivationDb.update activation.id (ActivationRow.approve input.infrastructureOrderId) fun _ => rfl

/-- An activation is marked as one that lacks credit, and refused. -/
def refuseWithoutCredit (activation : ActivationRow) : Tx ActivationDb String Unit := do
  setActivationStatus activation.id .creditRequired
  Tx.throw "insufficient_credit"

def approveActivation (input : ApproveActivation) : Tx ActivationDb String Unit := do
  let db ← Tx.get
  Tx.throwIf (input.adminUserId ∉ db.service.eligibleAdmins) "forbidden"
  let activation ← Tx.orThrow "not_found" (db.activations.find? input.activationRequestId)
  let command ← Tx.ofExcept (normalizeAdminCommand (input.command activation
    (activation.infrastructureOrderId.getD input.infrastructureOrderId)))
  let replay ← onOrders (replayAdminCommand command)
  if replay = true then pure ()
  else do
    Tx.throwIf (activation.status ≠ .waitingAdminApproval ∨
      activation.infrastructureOrderId.isSome = true) "invalid_status"
    if hasCredit (db.service.books.walletOf activation.userId) activation = false then
      refuseWithoutCredit activation
    else do
      approveWithCredit input activation db
      onOrders (persistAdminCommandReceipt command)

/-! ## Runs -/

/-- What a server's own transactions do to its activation. -/
inductive ActivationProgress where
  /-- `startInitialUsageBillingTx` -/
  | billingStarted
  /-- `completeManualReadyDelivery`: the server was made by hand. -/
  | manuallyProvisioned
  /-- `activateApprovedDeliveryTx` -/
  | delivered
  deriving DecidableEq

def ActivationProgress.status : ActivationProgress → ActivationRequestStatus
  | .billingStarted => .providerConfirmed
  | .manuallyProvisioned => .waitingDeliveryApproval
  | .delivered => .active

/-- The activation of an infrastructure order makes progress, when there is one. -/
def recordProgress (infrastructureOrderId : String) (progress : ActivationProgress) :
    Tx ActivationDb String Unit := do
  let db ← Tx.get
  match db.activations.rows.find? (·.infrastructureOrderId = some infrastructureOrderId) with
  | none => pure ()
  | some activation => do
      Tx.throwIf (progress = .billingStarted ∧ activation.status ≠ .approved ∧
        activation.status ≠ .provisioning) "activation_not_provider_confirmable"
      setActivationStatus activation.id progress.status

/-- A transaction on the tables. -/
inductive ActivationCall where
  | request (input : RequestActivation)
  | approve (input : ApproveActivation)
  | approveChange (input : ApproveResourceChange)
  | progress (infrastructureOrderId : String) (kind : ActivationProgress)
  /-- Any other transaction: none of them writes activations. -/
  | other (upgrades : UpgradeDb)

def ActivationCall.tx : ActivationCall → Tx ActivationDb String Unit
  | .request input => do
      let _ ← requestActivation input
      pure ()
  | .approve input => approveActivation input
  | .approveChange input => do
      let db ← Tx.get
      onUpgrades (approveResourceChangeRequest input fun _ => db.upgrades)
  | .progress infrastructureOrderId kind => recordProgress infrastructureOrderId kind
  | .other upgrades => Tx.modify ({ · with upgrades })

/-- A call: an error rolls back what its transaction has written. -/
def stepActivation (db : ActivationDb) (call : ActivationCall) :
    ActivationDb × Except String Unit := (call.tx.transaction db).swap

end AbrChin.Billing
