import AbrChin.MessageGo.Authority
import AbrChin.Parchin.Quota

/-!
# Who owns a server

The owner of a server is in the rows of its order, of its infrastructure order, of the server, of its
subscription with the renewal quotes, and of its Parchin enrollment.  The rows are written by the payment
(`executePayOrderWithWalletTx`), by the creation of the server, by its delivery
(`activateApprovedDeliveryTx`), by renewal quotes and their payment (`lib/subscriptions/service.ts`), by
requests for a level (`lib/parchin/service.ts`), and by the transfers of an admin
(`adminTransferServer` and `adminAttachServer` of `lib/admin/user-admin.ts`).

The other checks of the calls, of prices, wallets and stock, come with the calls as their outcome.  What
else happens to the rows writes no owner: it is one `Elsewhere`, at any time.  Receipts and audit logs of
the admin commands are left out.
-/

namespace AbrChin.Ownership

open Lib
open MessageGo (UserAccountStatus)
open Orders (ServiceOrderStatus CloudInstanceStatus SubscriptionStatus RenewalQuoteStatus)
open Parchin (ParchinEnrollmentStatus)
open Pricing (ParchinLevel)
open ProductFlow (ProductFlowState)
open Subscriptions (addBillingMonth renewable)

/-! ## Rows -/

structure User where
  id : String
  accountStatus : UserAccountStatus

structure ServiceOrder where
  id : String
  userId : String
  status : ServiceOrderStatus
  parchinLevel : Option ParchinLevel

structure InfrastructureOrder where
  id : String
  serviceOrderId : String
  userId : String
  parchinLevel : Option ParchinLevel
  /-- The billing model of the plan is `PREPAID_TERM`. -/
  prepaidTerm : Bool
  productFlowState : ProductFlowState

structure CloudInstance where
  id : String
  infrastructureOrderId : String
  userId : String
  status : CloudInstanceStatus

structure ServiceSubscription where
  id : String
  cloudInstanceId : String
  sourceOrderId : String
  userId : String
  status : SubscriptionStatus
  parchinLevel : Option ParchinLevel
  currentPeriodEnd : ℤ

structure ServiceRenewalQuote where
  id : String
  subscriptionId : String
  userId : String
  status : RenewalQuoteStatus
  parchinLevel : Option ParchinLevel
  periodStartSnapshot : ℤ
  periodEndSnapshot : ℤ
  expiresAt : ℤ

structure ParchinEnrollment where
  id : String
  userId : String
  cloudInstanceId : String
  serviceOrderId : String
  subscriptionId : Option String
  level : ParchinLevel
  status : ParchinEnrollmentStatus
  requestedNextLevel : Option ParchinLevel

/-! ## The database -/

def ServiceSubscription.indexes : List (ServiceSubscription → Option String) :=
  [fun row => some row.cloudInstanceId, fun row => some row.sourceOrderId]

def ParchinEnrollment.indexes : List (ParchinEnrollment → Option String) :=
  [fun row => some row.cloudInstanceId, fun row => some row.serviceOrderId, (·.subscriptionId)]

structure OwnershipDb where
  users : Table User.id
  orders : Table ServiceOrder.id
  infrastructureOrders : IndexedTable InfrastructureOrder.id [fun row => some row.serviceOrderId]
  instances : IndexedTable CloudInstance.id [fun row => some row.infrastructureOrderId]
  subscriptions : IndexedTable ServiceSubscription.id ServiceSubscription.indexes
  renewalQuotes : Table ServiceRenewalQuote.id
  enrollments : IndexedTable ParchinEnrollment.id ParchinEnrollment.indexes

def emptyDb : OwnershipDb := ⟨.empty, .empty, .empty, .empty, .empty, .empty, .empty⟩

namespace OwnershipDb

def infrastructureOf (db : OwnershipDb) (orderId : String) : Option InfrastructureOrder :=
  db.infrastructureOrders.rows.find? fun row => row.serviceOrderId = orderId

def instanceOf (db : OwnershipDb) (infrastructureOrderId : String) : Option CloudInstance :=
  db.instances.rows.find? fun row => row.infrastructureOrderId = infrastructureOrderId

def subscriptionOf (db : OwnershipDb) (instanceId : String) : Option ServiceSubscription :=
  db.subscriptions.rows.find? fun row => row.cloudInstanceId = instanceId

def enrollmentOf (db : OwnershipDb) (instanceId : String) : Option ParchinEnrollment :=
  db.enrollments.rows.find? fun row => row.cloudInstanceId = instanceId

end OwnershipDb

inductive OwnershipError where
  | notFound
  | invalidStatus
  | invalidInput
  | refused
  | alreadyOwner
  | userNotFound
  | targetBlocked
  | sourceMismatch
  | instanceTerminated
  | renewalPeriodChanged
  | quoteExpired
  /-- A row is not there, or a unique column is taken. -/
  | constraint
  deriving DecidableEq

abbrev OwnershipTx (α : Type) : Type := Tx OwnershipDb OwnershipError α

/-! ## The writes -/

def updateOrder (id : String) (f : ServiceOrder → ServiceOrder) (hf : ∀ row, (f row).id = row.id) :
    OwnershipTx Unit :=
  Tx.modify fun db => { db with orders := db.orders.modify id f hf }

def updateInfrastructure (id : String) (f : InfrastructureOrder → InfrastructureOrder)
    (hf : ∀ row, (f row).id = row.id) : OwnershipTx Unit :=
  Tx.attempt .constraint fun db =>
    (db.infrastructureOrders.modify? id f hf).map ({ db with infrastructureOrders := · })

def updateInstance (id : String) (f : CloudInstance → CloudInstance)
    (hf : ∀ row, (f row).id = row.id) : OwnershipTx Unit :=
  Tx.attempt .constraint fun db => (db.instances.modify? id f hf).map ({ db with instances := · })

def updateSubscription (id : String) (f : ServiceSubscription → ServiceSubscription)
    (hf : ∀ row, (f row).id = row.id) : OwnershipTx Unit :=
  Tx.attempt .constraint fun db =>
    (db.subscriptions.modify? id f hf).map ({ db with subscriptions := · })

def updateQuotes (p : ServiceRenewalQuote → Bool) (f : ServiceRenewalQuote → ServiceRenewalQuote)
    (hf : ∀ row, (f row).id = row.id) : OwnershipTx Unit :=
  Tx.modify fun db => { db with renewalQuotes := db.renewalQuotes.updateMany p f hf }

def updateEnrollment (id : String) (f : ParchinEnrollment → ParchinEnrollment)
    (hf : ∀ row, (f row).id = row.id) : OwnershipTx Unit :=
  Tx.attempt .constraint fun db => (db.enrollments.modify? id f hf).map ({ db with enrollments := · })

def insertOrder (row : ServiceOrder) : OwnershipTx Unit :=
  Tx.attempt .constraint fun db => (db.orders.insert? row).map ({ db with orders := · })

def insertInfrastructure (row : InfrastructureOrder) : OwnershipTx Unit :=
  Tx.attempt .constraint fun db =>
    (db.infrastructureOrders.insert? row).map ({ db with infrastructureOrders := · })

def insertInstance (row : CloudInstance) : OwnershipTx Unit :=
  Tx.attempt .constraint fun db => (db.instances.insert? row).map ({ db with instances := · })

def insertSubscription (row : ServiceSubscription) : OwnershipTx Unit :=
  Tx.attempt .constraint fun db => (db.subscriptions.insert? row).map ({ db with subscriptions := · })

def insertQuote (row : ServiceRenewalQuote) : OwnershipTx Unit :=
  Tx.attempt .constraint fun db => (db.renewalQuotes.insert? row).map ({ db with renewalQuotes := · })

def insertEnrollment (row : ParchinEnrollment) : OwnershipTx Unit :=
  Tx.attempt .constraint fun db => (db.enrollments.insert? row).map ({ db with enrollments := · })

/-! ## Payment and creation -/

structure PayOrder where
  orderId : String
  userId : String
  infrastructureOrderId : String
  prepaidTerm : Bool
  parchinLevel : Option ParchinLevel
  /-- The other checks of the payment pass, and the wallet is debited. -/
  accepted : Bool

/-- `executePayOrderWithWalletTx` -/
def payOrder (input : PayOrder) : OwnershipTx Unit := do
  let db ← Tx.get
  let order ← Tx.orThrow .notFound (db.orders.find? input.orderId)
  Tx.throwIf (order.userId ≠ input.userId) .notFound
  if order.status = .paid then pure ()
  else do
    Tx.throwIf (order.status ≠ .pendingPayment) .invalidStatus
    Tx.throwIf (input.accepted = false) .refused
    updateOrder order.id (fun row => { row with status := .paid }) fun _ => rfl
    match db.infrastructureOf order.id with
    | some _ => pure ()
    | none =>
        insertInfrastructure
          { id := input.infrastructureOrderId
            serviceOrderId := order.id
            userId := input.userId
            parchinLevel := order.parchinLevel <|> input.parchinLevel
            prepaidTerm := input.prepaidTerm
            productFlowState := .paid }

/-- The server of an infrastructure order, which the job for it, an assignment or an admin creates. -/
def createInstance (infrastructureOrderId instanceId : String) : OwnershipTx Unit := do
  let db ← Tx.get
  let order ← Tx.orThrow .notFound (db.infrastructureOrders.find? infrastructureOrderId)
  match db.instanceOf order.id with
  | some _ => pure ()
  | none =>
      insertInstance
        { id := instanceId
          infrastructureOrderId := order.id
          userId := order.userId
          status := .pending }

/-! ## Delivery -/

structure EnrollmentInput where
  newId : String
  userId : String
  cloudInstanceId : String
  serviceOrderId : String
  subscriptionId : Option String
  level : ParchinLevel

/-- `activateParchinEnrollmentTx` -/
def activateParchinEnrollment (input : EnrollmentInput) : OwnershipTx Unit := do
  let db ← Tx.get
  match db.enrollmentOf input.cloudInstanceId with
  | some enrollment =>
      updateEnrollment enrollment.id (fun row =>
        { row with
          subscriptionId := input.subscriptionId <|> row.subscriptionId
          level := input.level
          requestedNextLevel := none
          status := .active }) fun _ => rfl
  | none =>
      insertEnrollment
        { id := input.newId
          userId := input.userId
          cloudInstanceId := input.cloudInstanceId
          serviceOrderId := input.serviceOrderId
          subscriptionId := input.subscriptionId
          level := input.level
          status := .active
          requestedNextLevel := none }

structure Activate where
  infrastructureOrderId : String
  subscriptionId : String
  enrollmentId : String
  periodEnd : ℤ
  /-- The server has an address, a health check and what its access method needs. -/
  ready : Bool

/-- The subscription of a server, which is created if it is not there. -/
def upsertSubscription (input : Activate) (order : InfrastructureOrder) (server : CloudInstance) :
    OwnershipTx (Option String) := do
  if order.prepaidTerm = true then do
    let db ← Tx.get
    match db.subscriptionOf server.id with
    | some subscription => pure (some subscription.id)
    | none => do
        insertSubscription
          { id := input.subscriptionId
            cloudInstanceId := server.id
            sourceOrderId := order.serviceOrderId
            userId := order.userId
            status := .active
            parchinLevel := order.parchinLevel
            currentPeriodEnd := input.periodEnd }
        pure (some input.subscriptionId)
  else pure none

/-- `activateApprovedDeliveryTx` -/
def activateApprovedDelivery (input : Activate) : OwnershipTx Unit := do
  let db ← Tx.get
  let order ← Tx.orThrow .notFound (db.infrastructureOrders.find? input.infrastructureOrderId)
  let server ← Tx.orThrow .refused (db.instanceOf order.id)
  Tx.throwIf (input.ready = false) .refused
  Tx.throwIf (order.productFlowState ≠ .delivered ∧ order.productFlowState ≠ .deliveryRetryable)
    .invalidStatus
  updateInfrastructure order.id (fun row => { row with productFlowState := .active }) fun _ => rfl
  updateInstance server.id (fun row => { row with status := .active }) fun _ => rfl
  let subscriptionId ← upsertSubscription input order server
  let serviceOrder ← Tx.orThrow .notFound (db.orders.find? order.serviceOrderId)
  match order.parchinLevel <|> serviceOrder.parchinLevel with
  | none => pure ()
  | some level =>
      activateParchinEnrollment
        { newId := input.enrollmentId
          userId := order.userId
          cloudInstanceId := server.id
          serviceOrderId := order.serviceOrderId
          subscriptionId := subscriptionId
          level := level }

/-! ## Renewals -/

def renewalQuoteValidityMs : ℤ := 10 * 60 * 1000

structure CreateRenewalQuote where
  instanceId : String
  userId : String
  newId : String
  now : ℤ
  parchinLevel : ParchinLevel
  /-- There is a price for the server now. -/
  priced : Bool

def createRenewalQuote (input : CreateRenewalQuote) : OwnershipTx Unit := do
  let db ← Tx.get
  let subscription ← Tx.orThrow .notFound (db.subscriptionOf input.instanceId)
  Tx.throwIf (subscription.userId ≠ input.userId) .notFound
  Tx.throwIf (renewable subscription.status = false) .invalidStatus
  let server ← Tx.orThrow .notFound (db.instances.find? subscription.cloudInstanceId)
  Tx.throwIf (server.status = .terminated) .instanceTerminated
  Tx.throwIf (input.priced = false) .refused
  updateQuotes (fun row => row.subscriptionId = subscription.id && row.status = .active)
    (fun row => { row with status := .invalidated }) fun _ => rfl
  insertQuote
    { id := input.newId
      subscriptionId := subscription.id
      userId := input.userId
      status := .active
      parchinLevel := some input.parchinLevel
      periodStartSnapshot := subscription.currentPeriodEnd
      periodEndSnapshot := addBillingMonth subscription.currentPeriodEnd
      expiresAt := input.now + renewalQuoteValidityMs }

structure PayRenewalQuote where
  instanceId : String
  userId : String
  renewalQuoteId : String
  enrollmentId : String
  now : ℤ
  /-- The minimum level of the plan. -/
  minimumParchinLevel : Option ParchinLevel
  /-- The price stands, and the wallet is debited. -/
  accepted : Bool
  /-- The level of the renewal is active. -/
  levelActive : Bool

/-- The enrollment is activated if the level is active. -/
def renewEnrollment (input : PayRenewalQuote) (subscription : ServiceSubscription)
    (level : ParchinLevel) : OwnershipTx Unit :=
  if input.levelActive = true then
    activateParchinEnrollment
      { newId := input.enrollmentId
        userId := subscription.userId
        cloudInstanceId := subscription.cloudInstanceId
        serviceOrderId := subscription.sourceOrderId
        subscriptionId := some subscription.id
        level := level }
  else pure ()

def payRenewalQuote (input : PayRenewalQuote) : OwnershipTx Unit := do
  let db ← Tx.get
  let quote ← Tx.orThrow .notFound (db.renewalQuotes.find? input.renewalQuoteId)
  let subscription ← Tx.orThrow .notFound (db.subscriptions.find? quote.subscriptionId)
  Tx.throwIf (quote.userId ≠ input.userId ∨ subscription.cloudInstanceId ≠ input.instanceId) .notFound
  if quote.status = .paid then pure ()
  else do
    Tx.throwIf (quote.status ≠ .active) .invalidStatus
    Tx.throwIf (quote.expiresAt ≤ input.now) .quoteExpired
    Tx.throwIf (renewable subscription.status = false) .invalidStatus
    let server ← Tx.orThrow .notFound (db.instances.find? subscription.cloudInstanceId)
    Tx.throwIf (server.status = .terminated) .instanceTerminated
    Tx.throwIf (quote.periodStartSnapshot ≠ subscription.currentPeriodEnd) .renewalPeriodChanged
    Tx.throwIf (input.accepted = false) .refused
    let level := (quote.parchinLevel <|> subscription.parchinLevel <|>
      input.minimumParchinLevel).getD .start
    updateSubscription subscription.id (fun row =>
      { row with
        status := .active
        parchinLevel := some level
        currentPeriodEnd := quote.periodEndSnapshot }) fun _ => rfl
    renewEnrollment input subscription level
    updateQuotes (fun row => row.id = quote.id) (fun row => { row with status := .paid }) fun _ => rfl

/-! ## The enrollment of a customer -/

/-- `getCustomerParchinEnrollment` -/
def getCustomerParchinEnrollment (db : OwnershipDb) (userId enrollmentId : String) :
    Option ParchinEnrollment :=
  (db.enrollments.find? enrollmentId).filter fun row => row.userId = userId

def levelRank : ParchinLevel → ℕ
  | .stable => 3
  | .active => 2
  | .start => 1

structure LevelRequest where
  enrollmentId : String
  userId : String
  requestedLevel : ParchinLevel
  /-- The level is offered. -/
  sellable : Bool

/-- `requestParchinLevelUpgrade` -/
def requestParchinLevelUpgrade (input : LevelRequest) : OwnershipTx Unit := do
  let db ← Tx.get
  let enrollment ← Tx.orThrow .notFound
    (getCustomerParchinEnrollment db input.userId input.enrollmentId)
  Tx.throwIf (enrollment.status ≠ .active) .invalidStatus
  Tx.throwIf (levelRank input.requestedLevel ≤ levelRank enrollment.level) .invalidInput
  Tx.throwIf (input.sellable = false) .notFound
  updateEnrollment enrollment.id (fun row =>
    { row with requestedNextLevel := some input.requestedLevel }) fun _ => rfl
  match enrollment.subscriptionId with
  | none => pure ()
  | some subscriptionId => do
      updateSubscription subscriptionId (fun row =>
        { row with parchinLevel := some input.requestedLevel }) fun _ => rfl
      updateQuotes (fun row => row.subscriptionId = subscriptionId && row.status = .active)
        (fun row => { row with status := .invalidated }) fun _ => rfl

/-! ## Transfers -/

/-- `reassignCloudInstanceOwnershipTx` -/
def reassignCloudInstanceOwnership (cloudInstanceId targetUserId : String) : OwnershipTx Unit := do
  let db ← Tx.get
  let server ← Tx.orThrow .notFound (db.instances.find? cloudInstanceId)
  Tx.throwIf (server.userId = targetUserId) .alreadyOwner
  let target ← Tx.orThrow .userNotFound (db.users.find? targetUserId)
  Tx.throwIf (target.accountStatus = .blocked) .targetBlocked
  let order ← Tx.orThrow .notFound (db.infrastructureOrders.find? server.infrastructureOrderId)
  updateInstance server.id (fun row => { row with userId := target.id }) fun _ => rfl
  updateInfrastructure server.infrastructureOrderId (fun row =>
    { row with userId := target.id }) fun _ => rfl
  updateOrder order.serviceOrderId (fun row => { row with userId := target.id }) fun _ => rfl
  match db.subscriptionOf server.id with
  | none => pure ()
  | some subscription => do
      updateSubscription subscription.id (fun row => { row with userId := target.id }) fun _ => rfl
      updateQuotes (fun row => row.subscriptionId = subscription.id)
        (fun row => { row with userId := target.id }) fun _ => rfl

def adminTransferServer (cloudInstanceId fromUserId toUserId : String) : OwnershipTx Unit := do
  let db ← Tx.get
  let server ← Tx.orThrow .notFound (db.instances.find? cloudInstanceId)
  Tx.throwIf (server.userId ≠ fromUserId) .sourceMismatch
  reassignCloudInstanceOwnership cloudInstanceId toUserId

def adminAttachServer (targetUserId cloudInstanceId : String) : OwnershipTx Unit :=
  reassignCloudInstanceOwnership cloudInstanceId targetUserId

/-! ## The system -/

/-- What happens in other parts, to no owner. -/
inductive Elsewhere where
  | user (user : User)
  | accountStatus (userId : String) (status : UserAccountStatus)
  | orderStatus (orderId : String) (status : ServiceOrderStatus)
  | flow (infrastructureOrderId : String) (state : ProductFlowState)
  | instanceStatus (instanceId : String) (status : CloudInstanceStatus)
  | subscriptionStatus (subscriptionId : String) (status : SubscriptionStatus)
  | enrollmentStatus (enrollmentId : String) (status : ParchinEnrollmentStatus)

def elsewhere : Elsewhere → OwnershipTx Unit
  | .user user =>
      Tx.attempt .constraint fun db => (db.users.insert? user).map ({ db with users := · })
  | .accountStatus userId status =>
      Tx.modify fun db => { db with
        users := db.users.modify userId (fun row => { row with accountStatus := status }) fun _ => rfl }
  | .orderStatus orderId status => updateOrder orderId (fun row => { row with status }) fun _ => rfl
  | .flow infrastructureOrderId state =>
      updateInfrastructure infrastructureOrderId (fun row =>
        { row with productFlowState := state }) fun _ => rfl
  | .instanceStatus instanceId status =>
      updateInstance instanceId (fun row => { row with status }) fun _ => rfl
  | .subscriptionStatus subscriptionId status =>
      updateSubscription subscriptionId (fun row => { row with status }) fun _ => rfl
  | .enrollmentStatus enrollmentId status =>
      updateEnrollment enrollmentId (fun row => { row with status }) fun _ => rfl

inductive OwnershipEvent where
  /-- A user places an order. -/
  | placeOrder (order : ServiceOrder)
  | payOrder (input : PayOrder)
  | createInstance (infrastructureOrderId instanceId : String)
  | activateApprovedDelivery (input : Activate)
  | createRenewalQuote (input : CreateRenewalQuote)
  | payRenewalQuote (input : PayRenewalQuote)
  | requestParchinLevelUpgrade (input : LevelRequest)
  | adminTransferServer (cloudInstanceId fromUserId toUserId : String)
  | adminAttachServer (targetUserId cloudInstanceId : String)
  | elsewhere (change : Elsewhere)

def OwnershipEvent.tx : OwnershipEvent → OwnershipTx Unit
  | .placeOrder order => insertOrder order
  | .payOrder input => Ownership.payOrder input
  | .createInstance infrastructureOrderId instanceId =>
      Ownership.createInstance infrastructureOrderId instanceId
  | .activateApprovedDelivery input => Ownership.activateApprovedDelivery input
  | .createRenewalQuote input => Ownership.createRenewalQuote input
  | .payRenewalQuote input => Ownership.payRenewalQuote input
  | .requestParchinLevelUpgrade input => Ownership.requestParchinLevelUpgrade input
  | .adminTransferServer cloudInstanceId fromUserId toUserId =>
      Ownership.adminTransferServer cloudInstanceId fromUserId toUserId
  | .adminAttachServer targetUserId cloudInstanceId =>
      Ownership.adminAttachServer targetUserId cloudInstanceId
  | .elsewhere change => Ownership.elsewhere change

def step (db : OwnershipDb) (event : OwnershipEvent) : OwnershipDb × Except OwnershipError Unit :=
  (event.tx.transaction db).swap

end AbrChin.Ownership
