import AbrChin.Accounting.Refund
import AbrChin.Orders.ResourceDisposition

/-!
# Refunds by an admin

`refundOrder` of `lib/orders/service.ts`, and the receipts of `lib/admin/command-receipt.ts`: an
admin gives a paid order's money back, once; a repeated command is answered from its receipt, and
a new command for an order that is refunded posts the refund again.

The order, its infrastructure order and its session are locked, so that they are read as they
are when the transaction commits.  `seen` is what the other reads saw, in the order in which the
code makes them.
-/

namespace AbrChin.Orders

open Lib Js Wallet
open Accounting (RefundIds postServiceRefundCompleted)
open ProductFlow (ProductFlowState ProductFlowOwner ProductFlowTransitionInput OwnerRow stateText
  assertProductFlowOwnerState transitionProductFlowTx isProductFlowState)

/-! ## Admin commands -/

structure AdminCommand where
  operation : String
  idempotencyKey : String
  actorUserId : String
  infrastructureOrderId : Option String
  serviceOrderId : Option String
  reason : String
  payload : List (String × Json) := []

/-- `/^[A-Za-z0-9._:-]{16,128}$/` -/
def isIdempotencyKey (key : String) : Bool :=
  16 ≤ key.toList.length && key.toList.length ≤ 128 && key.toList.all fun c =>
    c.isAlphanum || c = '.' || c = '_' || c = ':' || c = '-'

/-- A command as it has been asked for, with a reason that has been trimmed. -/
def normalizeAdminCommand (input : AdminCommand) : Except String AdminCommand := do
  let reason := trim input.reason
  throwIf (length reason < 3 ∨ 500 < length reason) "invalid_reason"
  throwIf (isIdempotencyKey input.idempotencyKey = false) "invalid_idempotency_key"
  pure { input with reason }

def AdminCommand.receiptKey (command : AdminCommand) : String :=
  "admin-command:" ++ command.idempotencyKey

/-- The text whose hash is the fingerprint of a command. -/
def AdminCommand.requestFingerprint (command : AdminCommand) : String :=
  let text := fun value : Option String => (value.map Json.string).getD .null
  (Json.object [("operation", .string command.operation),
    ("actorUserId", .string command.actorUserId),
    ("infrastructureOrderId", text command.infrastructureOrderId),
    ("serviceOrderId", text command.serviceOrderId), ("reason", .string command.reason),
    ("payload", .object command.payload)]).stableJson

def AdminCommand.receipt (command : AdminCommand) : AdminCommandReceipt where
  operation := command.operation
  idempotencyKey := command.receiptKey
  requestFingerprint := command.requestFingerprint
  actorUserId := command.actorUserId
  infrastructureOrderId := command.infrastructureOrderId
  serviceOrderId := command.serviceOrderId

/-- Whether a command has a receipt.  Its key is locked. -/
def replayAdminCommand (command : AdminCommand) : Tx ServiceDb String Bool := do
  let db ← Tx.get
  match db.receipts.find? command.receiptKey with
  | none => pure false
  | some receipt => do
      Tx.throwIf (receipt ≠ command.receipt) "idempotency_conflict"
      pure true

def persistAdminCommandReceipt (command : AdminCommand) : Tx ServiceDb String Unit :=
  Tx.attempt "P2002" fun db =>
    (db.receipts.insert? command.receipt).map ({ db with receipts := · })

/-! ## What can be refunded -/

/-- The stored state of an order in the product flow. -/
def ServiceDb.flowStateOf (db : ServiceDb) (kind : ProductFlow.OwnerKind) (id : String) :
    Option String :=
  ((db.flow.owners kind).find? id).bind OwnerRow.productFlowState

def refundableInfrastructure : InfrastructureOrderStatus → Bool
  | .waitingAdminFunding | .blockedProviderBalance | .manualReview | .failed | .canceled => true
  | _ => false

def ProvisioningJob.isActive (job : ProvisioningJob) : Bool :=
  job.status = .queued || job.status = .running

/-- The infrastructure order of a refund, when there is one, has no resource, and none is being
created. -/
def assertInfrastructureRefundable (infra : Option InfrastructureOrder) (db : ServiceDb)
    (seen : ℕ → ServiceDb) : Except String Unit := do
  let some infra := infra | .ok ()
  let audit := absenceAuditMatchesAttempt (absenceAuditOf infra (seen 0)) infra
  throwIf (refundAllowed infra (db.flowStateOf .infrastructureOrder infra.id)
    (db.instanceOf infra.id) audit = false) "refund_blocked"
  throwIf (refundableInfrastructure infra.status = false) "refund_blocked"
  throwIf (infra.provisioningJobs.any ProvisioningJob.isActive = true) "refund_blocked"
  let audit := absenceAuditMatchesAttempt (absenceAuditOf infra (seen 1)) infra
  throwIf ((assessRefundResourceSafety infra (db.instanceOf infra.id) audit).safe = false)
    "refund_blocked"

def refundableFlowStates : List ProductFlowState :=
  [.paid, .provisioningRetryable, .provisioningManualReview, .healthCheckFailed,
    .deliveryRetryable, .cancelled]

/-- The state of an order in the flow, from which it can be refunded. -/
def refundableFlowState (productFlowState : Option String) : Except String ProductFlowState :=
  match (productFlowState.bind isProductFlowState).filter (· ∈ refundableFlowStates) with
  | some state => .ok state
  | none => .error "refund_blocked"

/-- Another order of the session that is neither refunded nor canceled. -/
def ServiceDb.liveSibling (db : ServiceDb) (sessionId orderId : String) : Option ServiceOrder :=
  db.orders.rows.find? fun row => row.id ≠ orderId &&
    (db.quoteOf row).any (·.sessionId = sessionId) &&
    row.status ≠ .refunded && row.status ≠ .canceled

def ManualStock.restock (row : ManualStock) : ManualStock :=
  { row with manualAvailableUnits := row.manualAvailableUnits + 1 }

/-- Give the unit of manual stock back that an order has reserved. -/
def restockManual (order : ServiceOrder) (infra : Option InfrastructureOrder) (seen : ServiceDb) :
    Tx ServiceDb String Unit :=
  let plan := order.planId.bind seen.planOf
  match (plan.filter (·.offerSource = .manualAdmin)).bind ServicePlan.catalogItemId with
  | some catalogItemId =>
      if infra.any (·.manualInventoryReserved) then
        Tx.attempt "P2025" fun db =>
          (db.stock.updateIf? catalogItemId (fun _ => true) ManualStock.restock fun _ => rfl).map
            ({ db with stock := · })
      else pure ()
  | none => pure ()

/-! ## `refundOrder` -/

structure RefundOrder where
  orderId : String
  actorUserId : String
  reason : String
  idempotencyKey : String
  now : ℤ
  ids : NewIds
  journalIds : RefundIds

def RefundOrder.command (input : RefundOrder) (infra : Option InfrastructureOrder) :
    AdminCommand where
  operation := "ADMIN_REFUND_ORDER"
  idempotencyKey := input.idempotencyKey
  actorUserId := input.actorUserId
  infrastructureOrderId := infra.map InfrastructureOrder.id
  serviceOrderId := some input.orderId
  reason := input.reason

def ServiceOrder.withStatus (status : ServiceOrderStatus) (row : ServiceOrder) : ServiceOrder :=
  { row with status }

@[simp] theorem ServiceOrder.id_withStatus (status : ServiceOrderStatus) (row : ServiceOrder) :
    (row.withStatus status).id = row.id := rfl

def InfrastructureOrder.withStatus (status : InfrastructureOrderStatus)
    (row : InfrastructureOrder) : InfrastructureOrder := { row with status }

def setOrderStatus (orderId : String) (status : ServiceOrderStatus) : Tx ServiceDb String Unit :=
  Tx.attempt "P2025" fun db =>
    (db.orders.updateIf? orderId (fun _ => true) (ServiceOrder.withStatus status)
      (ServiceOrder.id_withStatus status)).map ({ db with orders := · })

def setInfrastructureStatus (infrastructureOrderId : String) (status : InfrastructureOrderStatus) :
    Tx ServiceDb String Unit :=
  Tx.attempt "P2025" fun db =>
    (db.infrastructureOrders.updateIf? infrastructureOrderId (fun _ => true)
      (InfrastructureOrder.withStatus status) fun _ => rfl).map
        ({ db with infrastructureOrders := · })

/-- The transition of a refunded order to CANCELLED. -/
def refundTransition (input : RefundOrder) (reason : String) (order : ServiceOrder)
    (owner : ProductFlowOwner) (flowState : ProductFlowState) (refundEntry : WalletLedgerEntry) :
    ProductFlowTransitionInput where
  owner := owner
  fromState := flowState
  toState := .cancelled
  reason := "wallet_refund_completed"
  idempotencyKey := s!"refund-flow:{order.id}"
  actorUserId := some input.actorUserId
  metadata := some (.object [("refundLedgerEntryId", .string refundEntry.id),
    ("reason", .string reason), ("containsSecret", .bool false)])

/-- Move the owners of a refunded order to CANCELLED, unless they are there. -/
def cancelFlow (transition : ProductFlowTransitionInput) (seen : ServiceDb) :
    Tx ServiceDb String Unit :=
  if transition.fromState = .cancelled then pure ()
  else do
    let db ← Tx.get
    let _ ← onFlow (transitionProductFlowTx transition
      fun place => if place = 0 then seen.flow else db.flow)
    pure ()

def refundInfrastructure (infra : Option InfrastructureOrder) : Tx ServiceDb String Unit :=
  match infra with
  | some infra => setInfrastructureStatus infra.id .refunded
  | none => pure ()

/-- Give the money of a paid order back. -/
def refundPaidOrder (input : RefundOrder) (reason : String) (order : ServiceOrder)
    (infra : Option InfrastructureOrder) (seen : ℕ → ServiceDb) : Tx ServiceDb String Unit := do
  let db ← Tx.get
  let sessionId := (db.quoteOf order).map RecommendationQuote.sessionId
  Tx.ofExcept (assertInfrastructureRefundable infra db seen)
  let flowState ← Tx.ofExcept (refundableFlowState (db.flowStateOf .serviceOrder order.id))
  let liveSibling := sessionId.bind fun sessionId => (seen 2).liveSibling sessionId order.id
  let owner : ProductFlowOwner := {
    recommendationSessionId := if liveSibling.isSome then none else sessionId
    serviceOrderId := some order.id
    infrastructureOrderId := infra.map InfrastructureOrder.id }
  let _ ← onFlow (Tx.ofExcept (assertProductFlowOwnerState owner flowState fun _ => db.flow))
  let refundEntry ← onBooks
    (creditOrderRefund order.id input.ids fun place => (seen (place + 3)).books)
  restockManual order infra (seen 6)
  cancelFlow (refundTransition input reason order owner flowState refundEntry) (seen 7)
  setOrderStatus order.id .refunded
  refundInfrastructure infra

/-- Post the refund of an order that is refunded. -/
def postRefund (input : RefundOrder) (order : ServiceOrder) : Tx ServiceDb String Unit := do
  let db ← Tx.get
  let _ ← onAccounting
    (postServiceRefundCompleted (db.purchased order) input.journalIds input.now)

def refundOrder (input : RefundOrder) (seen : ℕ → ServiceDb) :
    Tx ServiceDb String ServiceOrder := do
  let db ← Tx.get
  let order ← Tx.orThrow "not_found" (db.orders.find? input.orderId)
  let infra := db.infrastructureOf order.id
  let command ← Tx.ofExcept (normalizeAdminCommand (input.command infra))
  Tx.throwIf (input.actorUserId ∉ (seen 0).eligibleAdmins) "forbidden"
  let replay ← replayAdminCommand command
  if replay = true then pure (order.withStatus .refunded)
  else if order.status = .refunded then do
    postRefund input order
    persistAdminCommandReceipt command
    pure order
  else do
    Tx.throwIf (order.status ≠ .paid) "invalid_status"
    refundPaidOrder input command.reason order infra fun place => seen (place + 1)
    postRefund input (order.withStatus .refunded)
    persistAdminCommandReceipt command
    pure (order.withStatus .refunded)

/-- One call of `refundOrder` on the database with its versions. -/
def stepRefund : Versions ServiceDb → Versions.Call RefundOrder →
    Versions ServiceDb × Except String ServiceOrder :=
  Versions.step refundOrder

end AbrChin.Orders
