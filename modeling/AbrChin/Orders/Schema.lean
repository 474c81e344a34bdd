import AbrChin.Accounting.Posting
import AbrChin.ProductFlow.Service
import AbrChin.Wallet.Writers

/-!
# Orders, servers and subscriptions

The rows that the payment of an order, its delivery, its renewals and its cancellation
read and write.  What only informs people or other parts of the program is left out:
titles, notifications, outboxes, audit logs and the details of the provider's selection.
-/

namespace AbrChin.Orders

open Lib Js Pricing Wallet
open Accounting (Journal JournalError PurchaseQuote PurchasedOrder)
open ProductFlow (FlowDb FlowError)

/-! ## Orders -/

inductive ServiceOrderStatus where
  | draft
  | activationRequested
  | pendingPayment
  | paid
  | canceled
  | refunded
  deriving DecidableEq

structure ServiceOrder where
  id : String
  userId : String
  amount : ℤ
  termMonths : ℤ
  couponCodeSnapshot : Option String
  status : ServiceOrderStatus
  planId : Option String
  planSnapshot : Option Json
  recommendationQuoteId : Option String
  quoteExpiresAt : Option ℤ
  provider : Option String
  productKind : Option String
  parchinLevel : Option ParchinLevel
  paidAt : Option ℤ
  createdAt : ℤ

inductive ProductBillingModel where
  | paygWallet
  | prepaidTerm
  deriving DecidableEq

/-- A plan, with its catalog item. -/
structure ServicePlan extends InfrastructurePlan where
  billingModel : ProductBillingModel
  catalogItemId : Option String

inductive RecommendationQuoteStatus where
  | active
  | selected
  | converted
  | expired
  | invalidated
  deriving DecidableEq

structure RecommendationQuote extends PurchaseQuote where
  id : String
  sessionId : String
  planId : String
  status : RecommendationQuoteStatus
  amountRial : ℤ
  couponDiscountBpsSnapshot : Option ℤ
  parchinLevel : Option ParchinLevel
  preprovisionedInventoryItemId : Option String
  expiresAt : ℤ

inductive RecommendationFlowStatus where
  | quoted
  | checkout
  | converted
  | expired
  | other
  deriving DecidableEq

structure RecommendationSession where
  id : String
  status : RecommendationFlowStatus
  expiresAt : ℤ
  deriving DecidableEq

/-- The stock of a catalog item that an admin keeps by hand. -/
structure ManualStock where
  catalogItemId : String
  source : CatalogItemSource
  active : Bool
  status : ProviderCatalogStatus
  manualAvailableUnits : ℤ
  manualPriceValidUntil : Option ℤ
  deriving DecidableEq

inductive PreprovisionedInventoryStatus where
  | available
  | reserved
  | assigned
  | delivered
  | unhealthy
  | stale
  | disabled
  deriving DecidableEq

structure InventoryItem where
  id : String
  inventoryStatus : PreprovisionedInventoryStatus
  reservedByQuoteId : Option String
  reservedByOrderId : Option String
  reservedRevision : Option ℕ
  assignedOrderId : Option String
  deriving DecidableEq

structure Coupon where
  id : String
  code : String
  redemptionCount : ℕ
  deriving DecidableEq

structure CouponRedemption where
  couponId : String
  userId : String
  serviceOrderId : Option String
  amountRial : ℤ
  idempotencyKey : String
  deriving DecidableEq

/-! ## Servers -/

inductive InfrastructureOrderStatus where
  | waitingAdminFunding
  | fundingConfirmed
  | queued
  | provisioning
  | active
  | blockedProviderBalance
  | needsReconciliation
  | manualReview
  | failed
  | canceled
  | refunded
  deriving DecidableEq

inductive ProvisioningJobStatus where
  | queued
  | running
  | succeeded
  | failed
  | blockedProviderBalance
  | needsReconciliation
  deriving DecidableEq

structure ProvisioningJob where
  id : String
  operation : String
  attempt : ℤ
  status : ProvisioningJobStatus
  createSentAt : Option ℤ
  providerTaskId : Option String
  providerResourceId : Option String
  lastErrorCode : Option String
  createdAt : ℤ
  deriving DecidableEq

/-- An infrastructure order, with its provisioning jobs. -/
structure InfrastructureOrder where
  id : String
  serviceOrderId : String
  userId : String
  planId : String
  status : InfrastructureOrderStatus
  manualInventoryReserved : Bool
  preprovisionedInventoryItemId : Option String
  desiredInstanceName : Option String
  provisioningJobs : List ProvisioningJob
  reconcileNoResourceConfirmedAt : Option ℤ
  reconcileNoResourceConfirmedJobId : Option String
  reconcileNoResourceConfirmedAttempt : Option ℤ
  deriving DecidableEq

/-- An audit log with which an admin has confirmed that an attempt has left no resource. -/
structure AbsenceAudit where
  idempotencyKey : String
  action : String
  entityType : String
  entityId : Option String
  afterData : Option Json

inductive CloudInstanceStatus where
  | pending
  | active
  | failed
  | terminated
  deriving DecidableEq

structure CloudInstance where
  id : String
  infrastructureOrderId : String
  userId : String
  status : CloudInstanceStatus
  terminatedAt : Option ℤ
  providerInstanceId : Option String := none
  deriving DecidableEq

inductive ResourceChangeStatus where
  | requested
  | creditRequired
  | waitingAdminApproval
  | approved
  | providerMutationPending
  | providerConfirmed
  | applied
  | review
  | canceled
  deriving DecidableEq

structure ResourceChangeRequest where
  id : String
  cloudInstanceId : String
  requestedById : String
  /-- The requested action is `TERMINATE`. -/
  terminate : Bool
  /-- The refund that the preview of the request has shown. -/
  refundPreview : Option ℤ
  status : ResourceChangeStatus
  idempotencyKey : String
  deriving DecidableEq

/-! ## Subscriptions -/

inductive SubscriptionStatus where
  | active
  | pastDue
  | suspended
  | canceled
  | terminated
  deriving DecidableEq

structure ServiceSubscription where
  id : String
  cloudInstanceId : String
  sourceOrderId : String
  userId : String
  status : SubscriptionStatus
  parchinLevel : Option ParchinLevel
  renewalPriceRial : ℤ
  currentPeriodStart : ℤ
  currentPeriodEnd : ℤ
  nextRenewalAt : ℤ
  graceEndsAt : ℤ
  termMonths : ℤ
  suspendedAt : Option ℤ
  autoRenew : Bool
  canceledAt : Option ℤ
  deriving DecidableEq

inductive RenewalQuoteStatus where
  | active
  | paid
  | expired
  | invalidated
  deriving DecidableEq

structure ServiceRenewalQuote where
  id : String
  subscriptionId : String
  userId : String
  status : RenewalQuoteStatus
  catalogItemId : String
  providerBasePriceRialSnapshot : ℤ
  markupBasisPointsSnapshot : ℤ
  finalPriceRialSnapshot : ℤ
  parchinLevel : Option ParchinLevel
  parchinPriceIrrSnapshot : Option ℤ
  taxBasisPointsSnapshot : Option ℤ
  taxAmountIrrSnapshot : Option ℤ
  periodStartSnapshot : ℤ
  periodEndSnapshot : ℤ
  expiresAt : ℤ
  paidAt : Option ℤ
  deriving DecidableEq

/-! ## Admin commands -/

/-- What an admin command has done; its result is only shown. -/
structure AdminCommandReceipt where
  operation : String
  idempotencyKey : String
  requestFingerprint : String
  actorUserId : String
  infrastructureOrderId : Option String
  serviceOrderId : Option String
  deriving DecidableEq

/-! ## The database -/

/-- The unique columns of `InfrastructureOrder`. -/
def InfrastructureOrder.indexes : List (InfrastructureOrder → Option String) :=
  [fun row => some row.serviceOrderId, (·.desiredInstanceName), (·.preprovisionedInventoryItemId)]

/-- The unique columns of `ServiceSubscription`. -/
def ServiceSubscription.indexes : List (ServiceSubscription → Option String) :=
  [fun row => some row.cloudInstanceId, fun row => some row.sourceOrderId]

structure ServiceDb where
  books : Books
  orders : Table ServiceOrder.id
  plans : List ServicePlan
  quotes : Table RecommendationQuote.id
  sessions : Table RecommendationSession.id
  stock : Table ManualStock.catalogItemId
  inventory : Table InventoryItem.id
  coupons : Table Coupon.id
  redemptions : Table CouponRedemption.idempotencyKey
  accounting : Journal
  flow : FlowDb
  infrastructureOrders : IndexedTable InfrastructureOrder.id InfrastructureOrder.indexes
  instances : IndexedTable CloudInstance.id [fun row => some row.infrastructureOrderId]
  changes : IndexedTable ResourceChangeRequest.id [fun row => some row.idempotencyKey]
  subscriptions : IndexedTable ServiceSubscription.id ServiceSubscription.indexes
  renewalQuotes : Table ServiceRenewalQuote.id
  absenceAudits : Table AbsenceAudit.idempotencyKey
  receipts : Table AdminCommandReceipt.idempotencyKey
  /-- The users that are eligible admins. -/
  eligibleAdmins : List String

/-- Run a statement on the wallets and their ledger. -/
def onBooks {α : Type} (body : Tx Books String α) : Tx ServiceDb String α :=
  body.zoom ServiceDb.books fun db books => { db with books }

/-- The code of an error of the product flow. -/
def flowErrorCode : FlowError → String
  | .invalidProductFlowTransition fromState toState =>
      s!"invalid_product_flow_transition:{ProductFlow.stateText fromState}:" ++
        ProductFlow.stateText toState
  | .productFlowOwnerRequired => "product_flow_owner_required"
  | .productFlowStateConflict => "product_flow_state_conflict"
  | .productFlowIdempotencyConflict => "product_flow_idempotency_conflict"
  | .productFlowInvariantFailed => "product_flow_invariant_failed"
  | .constraint => "P2002"

/-- Run a statement on the product flow. -/
def onFlow {α : Type} (body : Tx FlowDb FlowError α) : Tx ServiceDb String α :=
  (body.zoom ServiceDb.flow fun db flow => { db with flow }).mapError flowErrorCode

/-- The code of an error of the journal. -/
def journalErrorCode : JournalError → String
  | .accounting code _ => code
  | .unknownAccountCode value => s!"unknown_account_code:{value}"
  | .idempotencyConflict => "idempotency_conflict"
  | .purchaseJournalMissing orderId => s!"purchase_journal_missing_after_post:{orderId}"
  | .constraint => "P2002"

/-- Run a statement on the accounting journal. -/
def onAccounting {α : Type} (body : Tx Journal JournalError α) : Tx ServiceDb String α :=
  (body.zoom ServiceDb.accounting fun db accounting => { db with accounting }).mapError
    journalErrorCode

/-- A database without rows, and with one admin. -/
def emptyDb : ServiceDb where
  books := .empty
  orders := .empty
  plans := []
  quotes := .empty
  sessions := .empty
  stock := .empty
  inventory := .empty
  coupons := .empty
  redemptions := .empty
  accounting := .empty
  flow := ⟨fun _ => .empty, .empty, .empty⟩
  infrastructureOrders := .empty
  instances := .empty
  changes := .empty
  subscriptions := .empty
  renewalQuotes := .empty
  absenceAudits := .empty
  receipts := .empty
  eligibleAdmins := ["admin"]

/-- The subscription of a server. -/
def ServiceDb.subscriptionOf (db : ServiceDb) (instanceId : String) : Option ServiceSubscription :=
  db.subscriptions.rows.find? fun row => row.cloudInstanceId = instanceId

def ServiceDb.planOf (db : ServiceDb) (planId : String) : Option ServicePlan :=
  db.plans.find? fun row => row.id = planId

/-- The infrastructure order of an order. -/
def ServiceDb.infrastructureOf (db : ServiceDb) (orderId : String) : Option InfrastructureOrder :=
  db.infrastructureOrders.rows.find? fun row => row.serviceOrderId = orderId

/-- The server of an infrastructure order. -/
def ServiceDb.instanceOf (db : ServiceDb) (infrastructureOrderId : String) : Option CloudInstance :=
  db.instances.rows.find? fun row => row.infrastructureOrderId = infrastructureOrderId

def ServiceDb.quoteOf (db : ServiceDb) (order : ServiceOrder) : Option RecommendationQuote :=
  order.recommendationQuoteId.bind db.quotes.find?

def parchinLevelText : ParchinLevel → String
  | .start => "START"
  | .active => "ACTIVE"
  | .stable => "STABLE"

/-- An order as its accounting reads it. -/
def ServiceDb.purchased (db : ServiceDb) (order : ServiceOrder) : PurchasedOrder where
  id := order.id
  amount := order.amount
  termMonths := order.termMonths
  planSnapshot := order.planSnapshot
  recommendationQuote := (db.quoteOf order).map (·.toPurchaseQuote)
  provider := order.provider
  productKind := order.productKind
  parchinLevel := order.parchinLevel.map parchinLevelText
  paidAt := order.paidAt
  createdAt := order.createdAt

end AbrChin.Orders
