import AbrChin.Inventory.Integrity

/-!
# The sale of ready servers

Over the inventory stand the quotes and the orders of ready servers: the quote reserves an item
(`lib/recommendation/quote-service.ts`), the checkout binds it to the order, the payment checks it once
more (`lib/orders/pay-order-tx.ts`), and the dispatch that an admin has approved assigns it
(`lib/infrastructure/provision-dispatch.ts`).

A payment that fails looks at the order once more, and releases its reservation when the order is not
paid; these are steps of their own, as are the read and the write of an observation and of the expiry of a
quote.  The session of a quote and its order move through the product flow together; what a payment checks
besides the reservation is an input of the step.
-/

namespace AbrChin.Inventory

open Lib Orders ProductFlow

/-- A move of the product flow to `QUOTE_EXPIRED`, as the log has it. -/
structure ExpiryTransition where
  orderId : Option String
  fromState : ProductFlowState
  reason : String
  deriving DecidableEq

/-- A quote with the state of its session. -/
structure ReadyQuote where
  id : String
  inventoryItemId : String
  expiresAt : ℤ
  status : RecommendationQuoteStatus := .active
  sessionFlowState : ProductFlowState := .quoted
  expiryTransition : Option ExpiryTransition := none
  deriving DecidableEq

/-- An order with its infrastructure order. -/
structure ReadyOrder where
  id : String
  quoteId : String
  /-- The item of the quote; `preprovisionedInventoryItemId` from the payment on. -/
  inventoryItemId : String
  productFlowRevision : ℕ
  productFlowState : ProductFlowState := .awaitingPayment
  status : ServiceOrderStatus := .pendingPayment
  /-- `providerSelectionSnapshot`, from the payment on. -/
  selection : Option InventoryMapping := none
  /-- A provisioning job is there. -/
  dispatched : Bool := false
  deriving DecidableEq

def ReadyOrder.moveTo (state : ProductFlowState) (order : ReadyOrder) : ReadyOrder :=
  { order with productFlowState := state }

structure SaleDb where
  inventory : InventoryDb
  quotes : Table ReadyQuote.id
  orders : Table ReadyOrder.id

abbrev SaleTx := Tx SaleDb String

/-- A writer of the inventory, in a larger transaction. -/
def onInventory {α : Type} (body : InventoryTx α) : SaleTx α :=
  Tx.zoom SaleDb.inventory (fun db inventory => { db with inventory }) body

def updateQuote (quoteId : String) (f : ReadyQuote → ReadyQuote) (hf : ∀ row, (f row).id = row.id) :
    SaleTx Unit :=
  Tx.modify fun db => { db with quotes := db.quotes.modify quoteId f hf }

def updateOrder (orderId : String) (f : ReadyOrder → ReadyOrder) (hf : ∀ row, (f row).id = row.id) :
    SaleTx Unit :=
  Tx.modify fun db => { db with orders := db.orders.modify orderId f hf }

/-! ## Quote, checkout and payment -/

/-- The rows that `createCatalogServerQuote` writes. -/
def createCatalogServerQuote (input : ReserveForQuote) : SaleTx Unit := do
  Tx.attempt "P2002" fun db =>
    (db.quotes.insert? {
      id := input.quoteId
      inventoryItemId := input.inventoryItemId
      expiresAt := input.expiresAt }).map ({ db with quotes := · })
  onInventory (reserveLockedInventoryForQuoteTx input)

/-- `ACTIVE` or `SELECTED`; so is `EXPIREABLE_QUOTE_STATUSES`. -/
def ReadyQuote.isPayable (quote : ReadyQuote) : Bool :=
  quote.status = .active || quote.status = .selected

structure Checkout where
  orderId : String
  quoteId : String
  /-- The revision of the flow after the transition of the checkout. -/
  revision : ℕ
  /-- What the plan and the quote ask for. -/
  expected : InventoryExpectedSelection
  /-- The other checks pass. -/
  accepted : Bool
  now : ℤ

def ReadyQuote.select (quote : ReadyQuote) : ReadyQuote :=
  { quote with status := .selected, sessionFlowState := .awaitingPayment }

def ReadyQuote.order (quote : ReadyQuote) (input : Checkout) : ReadyOrder where
  id := input.orderId
  quoteId := quote.id
  inventoryItemId := quote.inventoryItemId
  productFlowRevision := input.revision

def createServiceOrderFromQuote (input : Checkout) : SaleTx Unit := do
  let db ← Tx.get
  let quote ← Tx.orThrow "invalid_quote" (db.quotes.find? input.quoteId)
  if (db.orders.rows.find? fun row => row.quoteId = quote.id).isSome = true then pure () else do
    Tx.throwIf (quote.isPayable = false) "invalid_quote_status"
    Tx.throwIf (quote.expiresAt ≤ input.now) "quote_expired"
    Tx.throwIf (input.accepted = false) "quote_unavailable"
    Tx.throwIf (quote.sessionFlowState ≠ .quoted) "product_flow_state_conflict"
    Tx.attempt "P2002" fun db =>
      (db.orders.insert? (quote.order input)).map ({ db with orders := · })
    updateQuote quote.id ReadyQuote.select fun _ => rfl
    onInventory (bindInventoryReservationToOrderTx
      ⟨quote.inventoryItemId, quote.id, input.orderId, input.revision, input.now⟩ input.expected)

structure PayOrder where
  orderId : String
  expected : InventoryExpectedSelection
  /-- The other checks pass, and the wallet covers the amount. -/
  accepted : Bool
  now : ℤ

/-- The order is paid; its infrastructure order is created with the item, and without a job. -/
def ReadyOrder.pay (item : PreprovisionedInventoryItem) (order : ReadyOrder) : ReadyOrder :=
  { order with
    status := .paid
    productFlowState := .paid
    inventoryItemId := item.id
    selection := some item.mapping
    dispatched := false }

def ReadyQuote.convert (quote : ReadyQuote) : ReadyQuote :=
  { quote with status := .converted, sessionFlowState := .paid }

/-- An order that is paid already is returned. -/
def executePayOrderWithWalletTx (input : PayOrder) : SaleTx Unit := do
  let db ← Tx.get
  let order ← Tx.orThrow "not_found" (db.orders.find? input.orderId)
  if order.status = .paid then pure () else do
    Tx.throwIf (order.status ≠ .pendingPayment) "invalid_status"
    let quote ← Tx.orThrow "invalid_plan" (db.quotes.find? order.quoteId)
    Tx.throwIf (quote.isPayable = false) "invalid_quote_status"
    Tx.throwIf (quote.expiresAt ≤ input.now) "quote_expired"
    Tx.throwIf (order.productFlowState ≠ .awaitingPayment ∨ quote.sessionFlowState ≠ .awaitingPayment)
      "product_flow_state_conflict"
    let item ← onInventory (lockReservedInventoryForPaymentTx
      ⟨quote.inventoryItemId, quote.id, order.id, order.productFlowRevision, input.now⟩ input.expected)
    Tx.throwIf (item.selection ≠ input.expected) "inventory_snapshot_mismatch"
    Tx.throwIf (input.accepted = false) "insufficient_balance"
    updateOrder order.id (ReadyOrder.pay item) fun _ => rfl
    updateQuote quote.id ReadyQuote.convert fun _ => rfl

/-! ## Approval, dispatch and refund -/

/-- The order waits for its dispatch. -/
def ReadyOrder.isApproved (order : ReadyOrder) : Bool :=
  order.status = .paid && order.productFlowState = .provisionApproved && !order.dispatched

def approveProvision (orderId : String) (canApprove : Bool) : SaleTx Unit := do
  let db ← Tx.get
  let order ← Tx.orThrow "not_found" (db.orders.find? orderId)
  Tx.throwIf (order.status ≠ .paid ∨ order.productFlowState ≠ .paid ∨ order.dispatched = true)
    "invalid_status"
  if canApprove = true then
    updateOrder orderId (ReadyOrder.moveTo .provisionApproved) fun _ => rfl
  else pure ()

structure Dispatch where
  orderId : String
  /-- The catalog item that the plan has now. -/
  catalogItemId : String
  cloudInstanceId : String
  now : ℤ

def ReadyOrder.submit (order : ReadyOrder) : ReadyOrder :=
  { order with dispatched := true, productFlowState := .provisioningSubmitted }

/-- The reserved item, when it is the one that has been paid for. -/
def ReadyOrder.reservation (order : ReadyOrder) (item : Option PreprovisionedInventoryItem)
    (input : Dispatch) : Option InventoryOfOrder :=
  match item, order.selection with
  | some item, some selection =>
      if item.mapping = { selection with catalogItemId := input.catalogItemId } then
        item.reservedByQuoteId.bind fun quoteId => item.reservedRevision.map fun revision =>
          ⟨item.id, quoteId, order.id, revision, input.now⟩
      else none
  | _, _ => none

/-- `dispatchApprovedProvision`; whether it has dispatched. -/
def dispatchApprovedProvision (input : Dispatch) : SaleTx Bool := do
  let db ← Tx.get
  let order ← Tx.orThrow "not_found" (db.orders.find? input.orderId)
  if order.isApproved = true then do
    let reservation ← Tx.orThrow "inventory_assignment_conflict"
      (order.reservation (db.inventory.items.find? order.inventoryItemId) input)
    onInventory (adoptInventoryTx reservation input.cloudInstanceId)
    updateOrder order.id ReadyOrder.submit fun _ => rfl
    pure true
  else pure false

/-- `refundOrder`, once it has passed its other checks. -/
def refundOrder (orderId : String) : SaleTx Unit := do
  let db ← Tx.get
  let order ← Tx.orThrow "not_found" (db.orders.find? orderId)
  Tx.throwIf (order.status ≠ .paid) "invalid_status"
  updateOrder orderId ({ · with status := .refunded, productFlowState := .cancelled }) fun _ => rfl

/-! ## The expiry of a quote -/

/-- What `expireLockedQuoteContractTx` reads. -/
structure ReadQuote where
  quote : ReadyQuote
  order : Option ReadyOrder
  item : Option ReadItem
  reason : String

def ReadQuote.fromState (read : ReadQuote) : ProductFlowState :=
  (read.order.map ReadyOrder.productFlowState).getD read.quote.sessionFlowState

def ReadQuote.transition (read : ReadQuote) : ExpiryTransition :=
  ⟨read.order.map ReadyOrder.id, read.fromState, read.reason⟩

/-- `EXPIREABLE_FLOW_STATES` -/
def expireableFlowStates : List ProductFlowState := [.quoted, .authRequired, .awaitingPayment]

def SaleDb.readQuote (db : SaleDb) (quote : ReadyQuote) (reason : String) : ReadQuote where
  quote := quote
  order := db.orders.rows.find? fun row => row.quoteId = quote.id
  item := (db.inventory.reservedFor quote.id).map db.inventory.read
  reason := reason

/-- The transition that the log has of the quote. -/
def ReadQuote.existing (read : ReadQuote) (db : SaleDb) : Option ExpiryTransition :=
  (db.quotes.find? read.quote.id).bind ReadyQuote.expiryTransition

/-- The states of the session and of the order that the expiry has read. -/
def ReadQuote.ownerStates (read : ReadQuote) (db : SaleDb) : List ProductFlowState :=
  ((db.quotes.find? read.quote.id).map ReadyQuote.sessionFlowState).toList ++
    (read.order.bind fun order => db.orders.find? order.id).toList.map ReadyOrder.productFlowState

/-- The transition of the flow, which is replayed when the log has it already. -/
def ReadQuote.transitionFlow (read : ReadQuote) : SaleTx Unit := do
  let db ← Tx.get
  match read.existing db with
  | some existing => Tx.throwIf (existing ≠ read.transition) "product_flow_idempotency_conflict"
  | none => do
      Tx.throwIf (¬ ∀ state ∈ read.ownerStates db, state = read.fromState) "product_flow_state_conflict"
      updateQuote read.quote.id
        ({ · with sessionFlowState := .quoteExpired, expiryTransition := some read.transition })
        fun _ => rfl
      match read.order with
      | none => pure ()
      | some order =>
          updateOrder order.id (ReadyOrder.moveTo .quoteExpired) fun _ => rfl

def ReadQuote.expireQuote (read : ReadQuote) : SaleTx Unit :=
  if read.quote.isPayable = true then
    updateQuote read.quote.id ({ · with status := .expired }) fun _ => rfl
  else pure ()

def ReadQuote.expireFlow (read : ReadQuote) : SaleTx Unit :=
  if read.fromState ∈ expireableFlowStates then read.transitionFlow else pure ()

def ReadQuote.releaseItem (read : ReadQuote) (now : ℤ) : SaleTx Unit :=
  match read.item with
  | none => pure ()
  | some item => onInventory (releaseReadInventory item.item item.credential now)

/-- The writes of `expireLockedQuoteContractTx`. -/
def expireReadQuote (read : ReadQuote) (now : ℤ) : SaleTx Unit := do
  read.expireQuote
  read.expireFlow
  read.releaseItem now

/-! ## The system -/

inductive SaleCall where
  | done
  | observing (observation : Observation) (existing : Option ReadItem)
  | expiring (read : ReadQuote) (now : ℤ)
  /-- A payment has failed. -/
  | failed (orderId : String)
  /-- The order was not paid, at the second look. -/
  | unpaid (orderId : String)
  /-- The reservation of the order is released. -/
  | releasing (candidate : Option String)

structure SaleSystem where
  db : SaleDb
  calls : List SaleCall

inductive SaleEvent where
  | observe (observation : Observation)
  | storeCredential (input : StoreCredential)
  | quote (input : ReserveForQuote)
  | expireQuote (quoteId reason : String) (now : ℤ)
  | releaseExpired (itemId : String) (now : ℤ)
  | checkout (input : Checkout)
  | pay (input : PayOrder)
  | approve (orderId : String) (canApprove : Bool)
  | dispatch (input : Dispatch)
  | refund (orderId : String)
  | healthChecked (itemId orderId : String) (healthy : Bool) (now : ℤ)
  | deliver (itemId orderId : String) (now : ℤ)
  /-- A call goes on. -/
  | proceed (call : ℕ) (now : ℤ)

inductive SaleOutcome where
  | dispatched (orderId : String)
  deriving DecidableEq

namespace SaleSystem

variable (sys : SaleSystem)

def commit {α : Type} (body : SaleTx α) : SaleSystem :=
  { sys with db := (Tx.transaction body sys.db).2 }

def begin (call : SaleCall) : SaleSystem := { sys with calls := sys.calls ++ [call] }

def become (place : ℕ) (call : SaleCall) : SaleSystem := { sys with calls := sys.calls.set place call }

/-- The next step of a call. -/
def proceed (place : ℕ) (now : ℤ) : SaleCall → SaleSystem
  | .done => sys
  | .observing observation existing =>
      (sys.commit (onInventory (registerObservation observation existing))).become place .done
  | .expiring read expiredAt => (sys.commit (expireReadQuote read expiredAt)).become place .done
  | .failed orderId =>
      if (sys.db.orders.find? orderId).any (·.status = .paid) = true then sys.become place .done
      else sys.become place (.unpaid orderId)
  | .unpaid orderId =>
      sys.become place (.releasing ((sys.db.inventory.boundTo orderId).map (·.id)))
  | .releasing candidate =>
      (sys.commit (onInventory (releaseInventoryReservationForOrder candidate now))).become place .done

end SaleSystem

/-- The quote is not final, and its time is over. -/
def ReadyQuote.isDue (quote : ReadyQuote) (now : ℤ) : Bool :=
  quote.status ≠ .expired && quote.status ≠ .invalidated && quote.status ≠ .converted &&
    quote.expiresAt ≤ now

theorem PreprovisionedInventoryItem.id_checked (status : PreprovisionedInventoryStatus)
    (health : PreprovisionedHealthStatus) (now : ℤ) (item : PreprovisionedInventoryItem) :
    (item.checked status health now).id = item.id :=
  rfl

theorem PreprovisionedInventoryItem.id_deliver (now : ℤ) (item : PreprovisionedInventoryItem) :
    (item.deliver now).id = item.id :=
  rfl

/-- The outcome of a health check of an assigned server. -/
def recordHealth (itemId orderId : String) (healthy : Bool) (now : ℤ) : InventoryTx Unit :=
  updateAssigned itemId orderId (·.checked (if healthy = true then .assigned else .unhealthy)
    (if healthy = true then .healthy else .unhealthy) now)
    (PreprovisionedInventoryItem.id_checked _ _ now)

def stepSale (sys : SaleSystem) : SaleEvent → SaleSystem × Option SaleOutcome
  | .observe observation =>
      (sys.begin (.observing observation
        ((observation.find sys.db.inventory).map sys.db.inventory.read)), none)
  | .storeCredential input =>
      (sys.commit (onInventory (storePreprovisionedInventoryCredential input)), none)
  | .quote input => (sys.commit (createCatalogServerQuote input), none)
  | .expireQuote quoteId reason now =>
      (match (sys.db.quotes.find? quoteId).filter (·.isDue now) with
      | none => sys
      | some quote => sys.begin (.expiring (sys.db.readQuote quote reason) now), none)
  | .releaseExpired itemId now =>
      (sys.commit (onInventory (releaseExpiredInventoryReservation itemId now)), none)
  | .checkout input => (sys.commit (createServiceOrderFromQuote input), none)
  | .pay input =>
      match Tx.transaction (executePayOrderWithWalletTx input) sys.db with
      | (.ok _, db) => ({ sys with db }, none)
      | (.error _, _) => (sys.begin (.failed input.orderId), none)
  | .approve orderId canApprove => (sys.commit (approveProvision orderId canApprove), none)
  | .dispatch input =>
      match Tx.transaction (dispatchApprovedProvision input) sys.db with
      | (.ok true, db) => ({ sys with db }, some (.dispatched input.orderId))
      | (_, db) => ({ sys with db }, none)
  | .refund orderId => (sys.commit (refundOrder orderId), none)
  | .healthChecked itemId orderId healthy now =>
      (sys.commit (onInventory (recordHealth itemId orderId healthy now)), none)
  | .deliver itemId orderId now =>
      (sys.commit (onInventory (updateAssigned itemId orderId (·.deliver now)
        (PreprovisionedInventoryItem.id_deliver now))), none)
  | .proceed place now =>
      match sys.calls[place]? with
      | none => (sys, none)
      | some call => (sys.proceed place now call, none)

/-- Before the first observation. -/
def SaleSystem.start : SaleSystem := ⟨⟨.empty, .empty, .empty⟩, []⟩

end AbrChin.Inventory
