import AbrChin.Inventory.Adoption

/-!
# The queue of approved orders

`lib/infrastructure/provision-dispatch.ts` and `runProvisioningWorkerCycle` of
`lib/infrastructure/provisioning-service.ts`.  Every cycle of the worker takes the approved order whose row
is the oldest, dispatches it, and claims a job.  The dispatch is modelled with all of its outcomes; what it
asks outside of the order and the inventory is a parameter (`DispatchEnv`).
-/

namespace AbrChin.Dispatch

open Lib Orders Pricing ProductFlow Inventory

/-! ## Orders -/

/-- A receipt of the operation `APPROVE_PROVISION`, with its result. -/
structure ApprovalReceipt where
  actorUserId : String
  approved : Bool
  createdAt : ℤ
  deriving DecidableEq

structure DispatchJob where
  operation : String
  status : ProvisioningJobStatus
  deriving DecidableEq

/-- What `parseLockedProvisioningSelection` reads of the snapshot. -/
structure LockedSelection where
  region : String
  externalPlanId : String
  externalImageId : String
  deriving DecidableEq

/-- An infrastructure order with its plan, its service order, its receipts and its jobs, the oldest
first. -/
structure DispatchOrder where
  id : String
  serviceOrderId : String
  serviceOrderStatus : ServiceOrderStatus
  planId : String
  catalogItemId : String
  billingModel : ProductBillingModel
  offerSource : OfferSource
  provider : String
  providerApiVersion : String
  /-- `none` when the snapshot is not complete. -/
  selection : Option LockedSelection
  preprovisionedInventoryItemId : Option String
  approvals : List ApprovalReceipt
  jobs : List DispatchJob
  status : InfrastructureOrderStatus
  productFlowState : ProductFlowState
  updatedAt : ℤ
  deriving DecidableEq

/-- The unique columns besides the key. -/
def DispatchOrder.indexes : List (DispatchOrder → Option String) :=
  [fun row => some row.serviceOrderId, fun row => row.preprovisionedInventoryItemId]

structure DispatchDb where
  orders : IndexedTable DispatchOrder.id DispatchOrder.indexes
  inventory : InventoryDb

abbrev DispatchTx := Tx DispatchDb String

/-- What a dispatch asks besides the order and the inventory. -/
structure DispatchEnv where
  /-- The provider is configured, and its mutations are enabled. -/
  mutationsEnabled : Bool
  /-- The blocking reasons of `evaluateProvisioningBillingContractGate`, for an order and the external
  plan at a time. -/
  billingGate : String → Option String → ℤ → List String
  /-- The unique columns of the instance, of its name and of the job, and the product flow take the rows
  of the order. -/
  accepts : String → Bool

/-- `automationEnabled`; there is one provider. -/
def DispatchEnv.automationEnabled (env : DispatchEnv) (offerSource : OfferSource) : Bool :=
  offerSource = .apiCatalog && env.mutationsEnabled

/-! ## The dispatch of one order -/

inductive DispatchState where
  | dispatched
  | alreadyDispatched
  | manualFulfillmentRequired
  | billingContractBlocked
  | notApproved
  deriving DecidableEq

namespace DispatchOrder

variable (order : DispatchOrder)

/-- The newest approval. -/
def approval : Option ApprovalReceipt :=
  (order.approvals.insertionSort fun left right => right.createdAt ≤ left.createdAt).head?

/-- `loadApprovedOrderTx` -/
def approvedById : Option String :=
  if order.status = .fundingConfirmed ∧ order.productFlowState = .provisionApproved ∧
      (order.serviceOrderStatus = .paid ∨ order.serviceOrderStatus = .activationRequested) then
    (order.approval.filter ApprovalReceipt.approved).map ApprovalReceipt.actorUserId
  else none

/-- The order has a job that makes or hands over its server. -/
def hasDispatchJob : Bool :=
  order.jobs.any fun job =>
    job.operation = "create_instance" || job.operation = "adopt_preprovisioned_inventory"

def operation : String :=
  if order.offerSource = .preprovisionedInventory then "adopt_preprovisioned_inventory"
  else "create_instance"

def block (now : ℤ) : DispatchOrder :=
  { order with
    status := .manualReview
    productFlowState := .provisioningManualReview
    updatedAt := now }

def submit (now : ℤ) : DispatchOrder :=
  { order with
    status := .queued
    productFlowState := .provisioningSubmitted
    jobs := order.jobs ++ [⟨order.operation, .queued⟩]
    updatedAt := now }

/-- The item shows what has been paid for. -/
def matchesItem (selection : LockedSelection) (item : PreprovisionedInventoryItem) : Bool :=
  item.mapping = ⟨order.planId, order.catalogItemId, order.provider, order.providerApiVersion,
    selection.region, selection.externalPlanId, selection.externalImageId⟩

/-- The assignment of the reserved item, when it is the one that has been paid for. -/
def reservation (inventory : InventoryDb) (selection : LockedSelection) (now : ℤ) :
    Option InventoryOfOrder :=
  ((order.preprovisionedInventoryItemId.bind inventory.items.find?).filter
    (order.matchesItem selection)).bind fun item =>
      item.reservedByQuoteId.bind fun quoteId => item.reservedRevision.map fun revision =>
        ⟨item.id, quoteId, order.serviceOrderId, revision, now⟩

end DispatchOrder

def updateOrder (orderId : String) (f : DispatchOrder → DispatchOrder)
    (hf : ∀ row, (f row).id = row.id) : DispatchTx Unit :=
  Tx.attempt "P2025" fun db => (db.orders.modify? orderId f hf).map ({ db with orders := · })

def onInventory {α : Type} (body : InventoryTx α) : DispatchTx α :=
  Tx.zoom DispatchDb.inventory (fun db inventory => { db with inventory }) body

/-- A plan that is paid by use has its billing contract checked. -/
def DispatchEnv.blocks (env : DispatchEnv) (order : DispatchOrder) (externalPlanId : Option String)
    (now : ℤ) : Bool :=
  order.billingModel = .paygWallet && !(env.billingGate order.id externalPlanId now).isEmpty

def blockProvisionForBillingContract (order : DispatchOrder) (now : ℤ) : DispatchTx DispatchState := do
  updateOrder order.id (·.block now) fun _ => rfl
  pure .billingContractBlocked

/-- The instance of an order stands under the order's id. -/
def assignInventory (order : DispatchOrder) (selection : LockedSelection) (now : ℤ) :
    DispatchTx Unit :=
  if order.offerSource = .preprovisionedInventory then do
    let db ← Tx.get
    let reservation ← Tx.orThrow "inventory_assignment_conflict"
      (order.reservation db.inventory selection now)
    onInventory (adoptInventoryTx reservation order.id)
  else pure ()

def dispatchOrder (env : DispatchEnv) (order : DispatchOrder) (selection : LockedSelection) (now : ℤ) :
    DispatchTx DispatchState := do
  assignInventory order selection now
  Tx.throwIf (env.accepts order.id = false) "P2002"
  updateOrder order.id (·.submit now) fun _ => rfl
  pure .dispatched

def dispatchApprovedOrder (env : DispatchEnv) (order : DispatchOrder) (now : ℤ) :
    DispatchTx DispatchState :=
  if env.blocks order none now = true then blockProvisionForBillingContract order now
  else if order.offerSource ≠ .preprovisionedInventory ∧
      env.automationEnabled order.offerSource = false then pure .manualFulfillmentRequired
  else do
    let selection ← Tx.orThrow "provider_lock_incomplete" order.selection
    if env.blocks order (some selection.externalPlanId) now = true then
      blockProvisionForBillingContract order now
    else dispatchOrder env order selection now

def dispatchApprovedProvision (env : DispatchEnv) (orderId : String) (now : ℤ) :
    DispatchTx DispatchState := do
  let db ← Tx.get
  let order ← Tx.orThrow "not_found" (db.orders.find? orderId)
  if order.hasDispatchJob = true then pure .alreadyDispatched
  else if order.approvedById = none then pure .notApproved
  else dispatchApprovedOrder env order now

/-! ## A cycle of the worker -/

/-- The `where` clause of `dispatchApprovedProvisionCommands`. -/
def DispatchOrder.isCandidate (order : DispatchOrder) : Bool :=
  order.status = .fundingConfirmed && order.productFlowState = .provisionApproved &&
    !order.approvals.isEmpty

/-- The candidates, in the order `updatedAt: "asc"`. -/
def approvedOrders (db : DispatchDb) : List DispatchOrder :=
  (db.orders.rows.filter DispatchOrder.isCandidate).insertionSort fun left right =>
    left.updatedAt ≤ right.updatedAt

/-- Dispatch one order after the other; an error ends the loop. -/
def dispatchAll (env : DispatchEnv) (now : ℤ) : List String → DispatchDb → Except String ℕ × DispatchDb
  | [], db => (.ok 0, db)
  | id :: rest, db =>
      match Tx.transaction (dispatchApprovedProvision env id now) db with
      | (.ok state, db') =>
          let later := dispatchAll env now rest db'
          (later.1.map (· + if state = .dispatched then 1 else 0), later.2)
      | (.error e, db') => (.error e, db')

def dispatchApprovedProvisionCommands (env : DispatchEnv) (limit : ℕ) (now : ℤ) (db : DispatchDb) :
    Except String ℕ × DispatchDb :=
  dispatchAll env now (((approvedOrders db).take (min limit 20)).map DispatchOrder.id) db

/-- A job of the order waits for a worker. -/
def DispatchOrder.isClaimable (order : DispatchOrder) : Bool :=
  (order.productFlowState = .provisioningSubmitted || order.productFlowState = .provisioning) &&
    order.jobs.any (·.status = .queued)

/-- The first of the jobs that wait is started. -/
def startFirst : List DispatchJob → List DispatchJob
  | [] => []
  | job :: rest =>
      if job.status = .queued then { job with status := .running } :: rest
      else job :: startFirst rest

def DispatchOrder.claim (order : DispatchOrder) (now : ℤ) : DispatchOrder :=
  { order with
    status := if order.status = .queued then .provisioning else order.status
    productFlowState := .provisioning
    jobs := startFirst order.jobs
    updatedAt := now }

structure Cycle where
  now : ℤ
  /-- The order of the job that the claim finds. -/
  claim : Option String

def claimNextProvisioningJob (cycle : Cycle) : DispatchTx Bool := do
  let db ← Tx.get
  match (cycle.claim.bind db.orders.find?).filter DispatchOrder.isClaimable with
  | none => pure false
  | some order => do
      updateOrder order.id (·.claim cycle.now) fun _ => rfl
      pure true

/-- A cycle that fails claims nothing. -/
def runProvisioningWorkerCycle (env : DispatchEnv) (db : DispatchDb) (cycle : Cycle) :
    DispatchDb × Except String Bool :=
  match dispatchApprovedProvisionCommands env 1 cycle.now db with
  | (.error e, db') => (db', .error e)
  | (.ok dispatched, db') =>
      match Tx.transaction (claimNextProvisioningJob cycle) db' with
      | (.error e, db'') => (db'', .error e)
      | (.ok claimed, db'') => (db'', .ok (claimed || 0 < dispatched))

end AbrChin.Dispatch
