import AbrChin.Orders.Schema

/-!
# Ready servers

The rows of `lib/infrastructure/preprovisioned-inventory.ts`: a server that exists already is an item
of the inventory, with a credential of its own.  An item is reserved for a quote, bound to the order of
the quote, and assigned to the order; a resource of the provider, a quote and an order have one item at
most, by the unique columns of the table.

`assessPreprovisionedInventoryEligibility` is the check that all writers share.
-/

namespace AbrChin.Inventory

open Lib Orders

def preprovisionedObservationMaxAgeMs : ℤ := 5 * 60 * 1000

def preprovisionedHealthMaxAgeMs : ℤ := 5 * 60 * 1000

inductive PreprovisionedHealthStatus where
  | unknown
  | healthy
  | unhealthy
  deriving DecidableEq

/-- What an item is sold as. -/
structure InventoryMapping where
  planId : String
  catalogItemId : String
  provider : String
  apiVersion : String
  regionCode : String
  externalPlanId : String
  externalImageId : String
  deriving DecidableEq

structure InventoryExpectedSelection where
  mapping : InventoryMapping
  externalNetworkId : Option String
  externalSecurityId : Option String
  deriving DecidableEq

structure PreprovisionedInventoryItem where
  id : String
  mapping : InventoryMapping
  providerResourceId : String
  observedState : String
  observedIpv4 : Option String
  observedNetworkId : Option String
  observedSecurityId : Option String
  lastObservedAt : ℤ
  lastHealthCheckedAt : Option ℤ
  healthStatus : PreprovisionedHealthStatus
  inventoryStatus : PreprovisionedInventoryStatus
  reservedByQuoteId : Option String := none
  reservedByOrderId : Option String := none
  reservedRevision : Option ℕ := none
  reservedAt : Option ℤ := none
  reservationExpiresAt : Option ℤ := none
  assignedOrderId : Option String := none
  assignedAt : Option ℤ := none
  deliveredAt : Option ℤ := none
  deriving DecidableEq

/-- `@@unique([provider, apiVersion, providerResourceId])` -/
def PreprovisionedInventoryItem.resourceKey (row : PreprovisionedInventoryItem) : List String :=
  [row.mapping.provider, row.mapping.apiVersion, row.providerResourceId]

/-- The unique columns besides the key. -/
def PreprovisionedInventoryItem.indexes : List (PreprovisionedInventoryItem → Option (List String)) :=
  [fun row => row.reservedByQuoteId.map ([·]), fun row => row.reservedByOrderId.map ([·]),
    fun row => row.assignedOrderId.map ([·]), fun row => some row.resourceKey]

inductive CredentialStatus where
  | ready
  | transferred
  | revoked
  deriving DecidableEq

/-- A secret as it is stored. -/
structure SealedSecret where
  ciphertext : String
  iv : String
  authTag : String
  deriving DecidableEq

/-- `PreprovisionedInventoryCredential`; an item has one at most. -/
structure InventoryCredential where
  inventoryItemId : String
  username : String
  secret : SealedSecret
  secretFingerprint : String
  status : CredentialStatus
  createdById : String
  transferredAt : Option ℤ := none
  deriving DecidableEq

structure InstanceCredential where
  cloudInstanceId : String
  createdById : String
  username : String
  secret : SealedSecret
  expiresAt : ℤ
  deriving DecidableEq

structure InventoryDb where
  items : IndexedTable PreprovisionedInventoryItem.id PreprovisionedInventoryItem.indexes
  credentials : Table InventoryCredential.inventoryItemId
  instanceCredentials : Table InstanceCredential.cloudInstanceId

/-! ## Eligibility -/

/-- `Boolean(value)` of a string that may be missing. -/
def truthy (value : Option String) : Bool := value.any (· ≠ "")

def isPreprovisionedInventoryFresh (item : PreprovisionedInventoryItem) (now : ℤ) : Bool :=
  item.healthStatus = .healthy && item.observedState.toLower = "active" &&
    truthy item.observedIpv4 && truthy item.observedNetworkId && truthy item.observedSecurityId &&
    now - preprovisionedObservationMaxAgeMs ≤ item.lastObservedAt &&
    item.lastHealthCheckedAt.any (now - preprovisionedHealthMaxAgeMs ≤ ·)

inductive InventoryEligibilityStage where
  | available
  | reservedQuote (quoteId : String)
  | reservedOrder (quoteId orderId : String) (revision : ℕ)
  | assigned (orderId : String)

/-- The item is reserved, for a time that is not over. -/
def PreprovisionedInventoryItem.isReserved (item : PreprovisionedInventoryItem) (now : ℤ) : Bool :=
  item.inventoryStatus = .reserved && item.assignedOrderId = none &&
    item.reservationExpiresAt.any (now < ·)

/-- The stage of the item is the one that is asked for. -/
def InventoryEligibilityStage.holds (item : PreprovisionedInventoryItem) (now : ℤ) :
    InventoryEligibilityStage → Except String Unit
  | .available => throwIf (¬ (item.inventoryStatus = .available ∧ item.assignedOrderId = none ∧
      item.reservedByQuoteId = none ∧ item.reservedByOrderId = none)) "inventory_not_available"
  | .reservedQuote quoteId => throwIf (¬ (item.isReserved now = true ∧
      item.reservedByQuoteId = some quoteId ∧ item.reservedByOrderId = none))
      "inventory_quote_reservation_invalid"
  | .reservedOrder quoteId orderId revision => throwIf (¬ (item.isReserved now = true ∧
      item.reservedByQuoteId = some quoteId ∧ item.reservedByOrderId = some orderId ∧
      item.reservedRevision = some revision)) "inventory_order_reservation_invalid"
  | .assigned orderId => throwIf (¬ (item.inventoryStatus = .assigned ∧
      item.assignedOrderId = some orderId)) "inventory_assignment_mismatch"

/-- The credential can be handed over. -/
def InventoryCredential.isReady (credential : InventoryCredential) : Bool :=
  credential.status = .ready && credential.secret.ciphertext ≠ "" && credential.secret.iv ≠ "" &&
    credential.secret.authTag ≠ ""

/-- The reason why an item is not eligible is the error. -/
def assessPreprovisionedInventoryEligibility (item : PreprovisionedInventoryItem)
    (credential : Option InventoryCredential) (expected : InventoryExpectedSelection)
    (stage : InventoryEligibilityStage) (now : ℤ) : Except String Unit := do
  throwIf (¬ (item.mapping = expected.mapping ∧
    item.observedNetworkId = expected.externalNetworkId ∧
    item.observedSecurityId = expected.externalSecurityId)) "inventory_mapping_mismatch"
  throwIf (isPreprovisionedInventoryFresh item now = false) "inventory_not_fresh"
  match stage with
  | .assigned orderId => do
      InventoryEligibilityStage.holds item now (.assigned orderId)
      throwIf (credential.map InventoryCredential.status ≠ some .transferred)
        "inventory_assignment_mismatch"
  | stage => do
      throwIf (credential.any InventoryCredential.isReady = false) "inventory_credential_not_ready"
      stage.holds item now

/-- The selection that an item itself shows. -/
def PreprovisionedInventoryItem.selection (item : PreprovisionedInventoryItem) :
    InventoryExpectedSelection :=
  ⟨item.mapping, item.observedNetworkId, item.observedSecurityId⟩

section Eligibility

variable {item : PreprovisionedInventoryItem} {credential : Option InventoryCredential}
  {expected : InventoryExpectedSelection} {now : ℤ} {u : Unit}

/-- An eligible item that is not assigned has a credential that is ready, and is at its stage. -/
theorem eligible_spec {stage : InventoryEligibilityStage}
    (hstage : ∀ orderId, stage ≠ .assigned orderId)
    (h : assessPreprovisionedInventoryEligibility item credential expected stage now = .ok u) :
    isPreprovisionedInventoryFresh item now = true ∧
      (∃ ready, credential = some ready ∧ ready.isReady = true) ∧
      ∃ u, stage.holds item now = .ok u := by
  unfold assessPreprovisionedInventoryEligibility at h
  obtain ⟨_, -, h⟩ := bind_eq_ok.1 h
  obtain ⟨_, hfresh, h⟩ := bind_eq_ok.1 h
  have hfresh : isPreprovisionedInventoryFresh item now = true := by
    simpa using throwIf_eq_ok.1 hfresh
  have hrest : ∀ other : InventoryEligibilityStage,
      ((do
        throwIf (credential.any InventoryCredential.isReady = false) "inventory_credential_not_ready"
        other.holds item now : Except String Unit) = .ok u) →
      (∃ ready, credential = some ready ∧ ready.isReady = true) ∧
        ∃ u, other.holds item now = .ok u := by
    intro other hother
    obtain ⟨_, hready, hholds⟩ := bind_eq_ok.1 hother
    have hready : credential.any InventoryCredential.isReady = true := by
      simpa using throwIf_eq_ok.1 hready
    exact ⟨(Option.any_eq_true _ _).1 hready, _, hholds⟩
  cases stage with
  | assigned orderId => exact absurd rfl (hstage orderId)
  | available => exact ⟨hfresh, hrest _ h⟩
  | reservedQuote quoteId => exact ⟨hfresh, hrest _ h⟩
  | reservedOrder quoteId orderId revision => exact ⟨hfresh, hrest _ h⟩

theorem InventoryCredential.status_of_isReady {ready : InventoryCredential}
    (h : ready.isReady = true) : ready.status = .ready := by
  simp only [InventoryCredential.isReady, Bool.and_eq_true, decide_eq_true_eq] at h
  exact h.1.1.1

theorem isReserved_iff : item.isReserved now = true ↔
    item.inventoryStatus = .reserved ∧ item.assignedOrderId = none ∧
      ∃ expiry, item.reservationExpiresAt = some expiry ∧ now < expiry := by
  simp only [PreprovisionedInventoryItem.isReserved, Bool.and_eq_true, decide_eq_true_eq,
    Option.any_eq_true, and_assoc]

end Eligibility

end AbrChin.Inventory
