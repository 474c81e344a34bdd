import AbrChin.Billing.Timeline
import AbrChin.Orders.Refund
import AbrChin.Pricing.ConfiguredPlans

/-!
# Upgrades

The rows that the quote, the payment, the approval and the fulfilment of an upgrade read and write.
The tables that upgrades share with orders are those of `ServiceDb`, and what a server is and has
been is its `Timeline`; `Server` has the columns that the timeline leaves out.

A change request that is no upgrade quote has no `UpgradeSnapshot`: `parseUpgradeQuoteSnapshot`
gives `null` for what it stores.  The snapshot is stored as JSON, with its amounts and dates as
texts that are read back as they were written; titles, the difference of the resources and the
workings of the charge are only shown, and left out.
-/

namespace AbrChin.Upgrade

open Lib Js Pricing Wallet Orders Billing

structure UpgradeResourceShape where
  vcpu : ℤ
  ramGb : ℤ
  diskGb : ℤ
  deriving DecidableEq

/-- A plan as an upgrade reads it. -/
structure UpgradePlan extends InfrastructurePlan where
  /-- `publicationStatus` is `PUBLISHED`. -/
  published : Bool
  billingModel : ProductBillingModel
  catalogItemId : Option String
  vcpu : Option ℤ
  ramGb : Option ℤ
  storageGb : Option ℤ
  renewalPriceRial : Option ℤ

structure Server where
  id : String
  infrastructureOrderId : String
  deliveredAt : Option ℤ
  provisionedAt : Option ℤ
  size : String
  deriving DecidableEq

/-- A version of a billing policy, of a plan or of all plans. -/
structure BillingPolicyRow extends BillingPolicyVersion where
  version : ℤ
  /-- `policyKey` is `global` and `scope` is `GLOBAL`. -/
  isGlobal : Bool

/-! ## Change requests -/

/-- The debit that has paid for a quote. -/
structure UpgradeFinancial where
  walletDebitedAt : ℤ
  ledgerIdempotencyKey : String
  ledgerEntryId : String
  amountRial : ℤ
  deriving DecidableEq

structure UpgradeSnapshot where
  billingModel : ProductBillingModel
  expiresAt : ℤ
  quotedAt : ℤ
  lockedUpgradeChargeRial : ℤ
  current : UpgradeResourceShape
  currentPlanId : String
  target : UpgradeResourceShape
  targetPlanId : String
  financial : Option UpgradeFinancial
  deriving DecidableEq

deriving instance DecidableEq for Billing.ResourceChangeRequest

structure ResourceChangeRequest extends Billing.ResourceChangeRequest where
  planId : String
  requestedById : String
  /-- `requestedResources.action` is `UPGRADE`. -/
  upgrade : Bool
  estimateSnapshot : Option UpgradeSnapshot
  incrementalBufferRial : ℤ
  idempotencyKey : String
  deriving DecidableEq

def ResourceChangeRequest.withStatus (status : Billing.ResourceChangeStatus)
    (row : ResourceChangeRequest) : ResourceChangeRequest := { row with status }

@[simp] theorem ResourceChangeRequest.id_withStatus (status : Billing.ResourceChangeStatus)
    (row : ResourceChangeRequest) : (row.withStatus status).id = row.id := rfl

def upgradeDebitIdempotencyKey (resourceChangeRequestId : String) : String :=
  "resource_change_upgrade_debit_" ++ resourceChangeRequestId

/-! ## The database -/

structure UpgradeDb where
  service : ServiceDb
  timeline : Timeline
  servers : Table Server.id
  plans : Table (fun plan : UpgradePlan => plan.id)
  items : Table ProviderCatalogItem.id
  rows : PricingRows
  policies : List BillingPolicyRow
  requests : IndexedTable (fun row : ResourceChangeRequest => row.id)
    [fun row => some row.idempotencyKey]

/-- Run a statement on the tables that upgrades share with orders. -/
def onService {α : Type} (body : Tx ServiceDb String α) : Tx UpgradeDb String α :=
  body.zoom UpgradeDb.service fun db service => { db with service }

/-- Run a statement on the timeline of the servers. -/
def onTimeline {α : Type} (body : Tx Timeline String α) : Tx UpgradeDb String α :=
  body.zoom UpgradeDb.timeline fun db timeline => { db with timeline }

def UpgradeDb.books (db : UpgradeDb) : Books := db.service.books

/-- A plan with its item. -/
def UpgradeDb.planOf (db : UpgradeDb) (id : String) : Option UpgradePlan :=
  (db.plans.find? id).map fun plan =>
    { plan with catalogItem := plan.catalogItemId.bind db.items.find? }

/-- The server of a user. -/
def UpgradeDb.serverOf (db : UpgradeDb) (instanceId userId : String) :
    Option Billing.CloudInstance :=
  db.timeline.instances.find? fun row => row.id = instanceId ∧ row.userId = userId

/-- `resourceChangeRequest.update` of the status. -/
def setRequestStatus (id : String) (status : Billing.ResourceChangeStatus) :
    Tx UpgradeDb String Unit :=
  Tx.attempt "P2025" fun db =>
    (db.requests.updateIf? id (fun _ => true) (ResourceChangeRequest.withStatus status)
      (ResourceChangeRequest.id_withStatus status)).map ({ db with requests := · })

end AbrChin.Upgrade
