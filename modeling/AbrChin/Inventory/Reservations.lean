import AbrChin.Inventory.Items

/-!
# Reservations

The writers of the inventory.  Most of them lock the item and its credential, look at both, and write
in the same transaction, so that each is one step.  Two do not: the observation of a resource
(`observeAndRegisterPreprovisionedInventory`) and the expiry of a quote (`expireLockedQuoteContractTx`
of `lib/orders/quote-expiration.ts`) write to an item what they have concluded from an earlier read of
it; their writes take what has been read as an argument.
-/

namespace AbrChin.Inventory

open Lib Orders

/-! ## Writes -/

namespace PreprovisionedInventoryItem

variable (item : PreprovisionedInventoryItem)

/-- The reservation is given up. -/
def release (status : PreprovisionedInventoryStatus) : PreprovisionedInventoryItem :=
  { item with
    inventoryStatus := status
    reservedByQuoteId := none
    reservedByOrderId := none
    reservedRevision := none
    reservedAt := none
    reservationExpiresAt := none }

def reserve (quoteId : String) (revision : ℕ) (now expiresAt : ℤ) : PreprovisionedInventoryItem :=
  { item with
    inventoryStatus := .reserved
    reservedByQuoteId := some quoteId
    reservedRevision := some revision
    reservedAt := some now
    reservationExpiresAt := some expiresAt }

def bind (orderId : String) (revision : ℕ) : PreprovisionedInventoryItem :=
  { item with reservedByOrderId := some orderId, reservedRevision := some revision }

def assign (orderId : String) (now : ℤ) : PreprovisionedInventoryItem :=
  { item with
    inventoryStatus := .assigned
    assignedOrderId := some orderId
    assignedAt := some now
    reservationExpiresAt := none }

def withStatus (status : PreprovisionedInventoryStatus) : PreprovisionedInventoryItem :=
  { item with inventoryStatus := status }

/-- The outcome of a health check of an assigned server. -/
def checked (status : PreprovisionedInventoryStatus) (health : PreprovisionedHealthStatus) (now : ℤ) :
    PreprovisionedInventoryItem :=
  { item with inventoryStatus := status, healthStatus := health, lastHealthCheckedAt := some now }

def deliver (now : ℤ) : PreprovisionedInventoryItem :=
  { item.checked .delivered .healthy now with deliveredAt := some now }

end PreprovisionedInventoryItem

abbrev InventoryTx := Tx InventoryDb String

/-- Update an item by its id; a unique column may refuse it. -/
def updateItem (itemId : String) (f : PreprovisionedInventoryItem → PreprovisionedInventoryItem)
    (hf : ∀ row, (f row).id = row.id) : InventoryTx Unit :=
  Tx.attempt "P2002" fun db =>
    (db.items.updateIf? itemId (fun _ => true) f hf).map ({ db with items := · })

/-- `updateMany` by the id and further columns; a count of zero throws. -/
def updateItemIf (e : String) (itemId : String) (p : PreprovisionedInventoryItem → Bool)
    (f : PreprovisionedInventoryItem → PreprovisionedInventoryItem)
    (hf : ∀ row, (f row).id = row.id) : InventoryTx Unit := do
  let db ← Tx.get
  Tx.throwIf ((db.items.find? itemId).any p = false) e
  updateItem itemId f hf

/-- `lockInventoryAndCredentialTx`, of an item that has to be there. -/
def lockInventoryAndCredentialTx (e : String) (itemId : String) :
    InventoryTx (PreprovisionedInventoryItem × Option InventoryCredential) := do
  let db ← Tx.get
  let item ← Tx.orThrow e (db.items.find? itemId)
  pure (item, db.credentials.find? itemId)

/-- An item can be sold again when it is fresh and its credential is ready. -/
def releasedStatus (item : PreprovisionedInventoryItem) (credential : Option InventoryCredential)
    (now : ℤ) : PreprovisionedInventoryStatus :=
  if isPreprovisionedInventoryFresh item now = true ∧
    credential.map InventoryCredential.status = some .ready then .available else .stale

/-! ## Releases -/

/-- `releaseExpiredInventoryReservationsTx`, for one of its candidates. -/
def releaseExpiredInventoryReservation (itemId : String) (now : ℤ) : InventoryTx Bool := do
  let db ← Tx.get
  match db.items.find? itemId with
  | none => pure false
  | some item =>
      if item.inventoryStatus = .reserved ∧ item.assignedOrderId = none ∧
          item.reservationExpiresAt.any (· ≤ now) = true then do
        updateItem itemId (·.release (releasedStatus item (db.credentials.find? itemId) now))
          fun _ => rfl
        pure true
      else pure false

/-- `releaseInventoryReservationForOrder`, with the candidate that it has found. -/
def releaseInventoryReservationForOrder (candidate : Option String) (now : ℤ) :
    InventoryTx Bool := do
  let db ← Tx.get
  match candidate.bind db.items.find? with
  | none => pure false
  | some item =>
      if item.inventoryStatus = .reserved ∧ item.assignedOrderId = none then do
        updateItem item.id (·.release (releasedStatus item (db.credentials.find? item.id) now))
          fun _ => rfl
        pure true
      else pure false

/-- The item that `expireLockedQuoteContractTx` has read is released, when it was reserved. -/
def releaseReadInventory (read : PreprovisionedInventoryItem) (credential : Option InventoryCredential)
    (now : ℤ) : InventoryTx Unit :=
  if read.inventoryStatus = .reserved ∧ read.assignedOrderId = none then
    updateItem read.id (·.release (releasedStatus read credential now)) fun _ => rfl
  else pure ()

/-! ## From the quote to the order -/

structure ReserveForQuote where
  inventoryItemId : String
  quoteId : String
  revision : ℕ
  expiresAt : ℤ
  now : ℤ

def reserveLockedInventoryForQuoteTx (input : ReserveForQuote) : InventoryTx Unit := do
  let (item, credential) ←
    lockInventoryAndCredentialTx "inventory_reservation_conflict" input.inventoryItemId
  Tx.ofExcept (assessPreprovisionedInventoryEligibility item credential item.selection .available
    input.now)
  updateItemIf "inventory_reservation_conflict" input.inventoryItemId
    (fun row => row.inventoryStatus = .available && row.healthStatus = .healthy &&
      row.assignedOrderId = none && row.reservedByQuoteId = none)
    (·.reserve input.quoteId input.revision input.now input.expiresAt) fun _ => rfl

structure InventoryOfOrder where
  inventoryItemId : String
  quoteId : String
  orderId : String
  revision : ℕ
  now : ℤ

def bindInventoryReservationToOrderTx (input : InventoryOfOrder)
    (expected : InventoryExpectedSelection) : InventoryTx Unit := do
  let (item, credential) ←
    lockInventoryAndCredentialTx "inventory_reservation_expired" input.inventoryItemId
  Tx.ofExcept (assessPreprovisionedInventoryEligibility item credential expected
    (.reservedQuote input.quoteId) input.now)
  updateItem item.id (·.bind input.orderId input.revision) fun _ => rfl

/-- The check of a payment, which changes nothing. -/
def lockReservedInventoryForPaymentTx (input : InventoryOfOrder)
    (expected : InventoryExpectedSelection) : InventoryTx PreprovisionedInventoryItem := do
  let (item, credential) ← lockInventoryAndCredentialTx "inventory_unavailable" input.inventoryItemId
  if item.inventoryStatus = .assigned ∧ item.assignedOrderId = some input.orderId ∧
      item.reservedByQuoteId = some input.quoteId ∧ item.reservedByOrderId = some input.orderId ∧
      item.reservedRevision = some input.revision then do
    -- a replayed payment sees the assignment that the first one has led to
    Tx.ofExcept (assessPreprovisionedInventoryEligibility item credential expected
      (.assigned input.orderId) input.now)
    pure item
  else do
    Tx.ofExcept (assessPreprovisionedInventoryEligibility item credential expected
      (.reservedOrder input.quoteId input.orderId input.revision) input.now)
    pure item

def assignReservedInventoryTx (input : InventoryOfOrder) : InventoryTx Unit := do
  let (item, credential) ←
    lockInventoryAndCredentialTx "inventory_assignment_conflict" input.inventoryItemId
  Tx.ofExcept (assessPreprovisionedInventoryEligibility item credential item.selection
    (.reservedOrder input.quoteId input.orderId input.revision) input.now)
  updateItemIf "inventory_assignment_conflict" input.inventoryItemId
    (fun row => row.inventoryStatus = .reserved && row.reservedByQuoteId = some input.quoteId &&
      row.reservedByOrderId = some input.orderId && row.assignedOrderId = none)
    (·.assign input.orderId input.now) fun _ => rfl

/-! ## Credentials -/

def InventoryCredential.transfer (now : ℤ) (row : InventoryCredential) : InventoryCredential :=
  { row with status := .transferred, transferredAt := some now }

def InventoryCredential.forInstance (cloudInstanceId : String) (now : ℤ) (row : InventoryCredential) :
    InstanceCredential where
  cloudInstanceId := cloudInstanceId
  createdById := row.createdById
  username := row.username
  secret := row.secret
  expiresAt := now + 24 * 60 * 60 * 1000

def transferInventoryCredentialToInstanceTx (itemId cloudInstanceId : String) (now : ℤ) :
    InventoryTx Unit := do
  let db ← Tx.get
  let credential ← Tx.orThrow "inventory_credential_not_ready" (db.credentials.find? itemId)
  Tx.throwIf (credential.status ≠ .ready) "inventory_credential_not_ready"
  Tx.attempt "P2002" fun db =>
    (db.instanceCredentials.insert? (credential.forInstance cloudInstanceId now)).map
      ({ db with instanceCredentials := · })
  Tx.attempt "inventory_credential_transfer_conflict" fun db =>
    (db.credentials.updateIf? itemId (fun row => row.status = .ready && row.transferredAt = none)
      (InventoryCredential.transfer now) fun _ => rfl).map ({ db with credentials := · })

/-- The part of a dispatch that adopts a ready server: assign it, and hand its credential over. -/
def adoptInventoryTx (input : InventoryOfOrder) (cloudInstanceId : String) : InventoryTx Unit := do
  assignReservedInventoryTx input
  transferInventoryCredentialToInstanceTx input.inventoryItemId cloudInstanceId input.now

def isUsernameStart (c : Char) : Bool := c.isAlpha || c = '_'

/-- `INVENTORY_USERNAME_PATTERN` -/
def isInventoryUsername (username : String) : Bool :=
  match username.toList with
  | [] => false
  | first :: rest => isUsernameStart first && rest.length ≤ 31 &&
      rest.all fun c => isUsernameStart c || c.isDigit || c = '-'

structure StoreCredential where
  inventoryItemId : String
  actorUserId : String
  /-- The username without the blanks around it. -/
  username : String
  secretLength : ℕ
  /-- The secret, encrypted, and its fingerprint. -/
  encrypted : SealedSecret
  secretFingerprint : String
  now : ℤ

def StoreCredential.credential (input : StoreCredential) : InventoryCredential where
  inventoryItemId := input.inventoryItemId
  username := input.username
  secret := input.encrypted
  secretFingerprint := input.secretFingerprint
  status := .ready
  createdById := input.actorUserId

/-- The row of an item gets the values of a new credential. -/
def InventoryCredential.replaceBy (credential row : InventoryCredential) : InventoryCredential :=
  { credential with inventoryItemId := row.inventoryItemId }

/-- The upsert of the credential. -/
def upsertCredential (credential : InventoryCredential) : InventoryTx Unit :=
  Tx.attempt "P2002" fun db =>
    match db.credentials.find? credential.inventoryItemId with
    | some _ => some { db with
        credentials := db.credentials.modify credential.inventoryItemId credential.replaceBy
          fun _ => rfl }
    | none => (db.credentials.insert? credential).map ({ db with credentials := · })

/-- The status of an item with a new credential. -/
def storedStatus (item : PreprovisionedInventoryItem) (now : ℤ) : PreprovisionedInventoryStatus :=
  if isPreprovisionedInventoryFresh item now = true then .available
  else if item.healthStatus = .unhealthy then .unhealthy else .stale

def storePreprovisionedInventoryCredential (input : StoreCredential) : InventoryTx Unit := do
  Tx.throwIf (isInventoryUsername input.username = false ∨ input.secretLength < 8 ∨
    4096 < input.secretLength) "invalid_inventory_credential"
  let (item, existing) ←
    lockInventoryAndCredentialTx "inventory_credential_locked" input.inventoryItemId
  Tx.throwIf (item.assignedOrderId ≠ none ∨ item.inventoryStatus = .assigned ∨
    item.inventoryStatus = .delivered ∨ item.inventoryStatus = .reserved) "inventory_credential_locked"
  Tx.throwIf (existing.map InventoryCredential.status = some .transferred)
    "inventory_credential_transferred"
  let db ← Tx.get
  Tx.throwIf ((db.credentials.rows.find? fun row =>
    row.secretFingerprint = input.secretFingerprint).any (·.inventoryItemId ≠ item.id))
    "inventory_credential_reused"
  upsertCredential input.credential
  updateItem item.id (·.withStatus (storedStatus item input.now)) fun _ => rfl

/-! ## Observations -/

/-- What the provider shows of a resource, for a plan whose region, plan and image it has. -/
structure Observation where
  mapping : InventoryMapping
  providerResourceId : String
  state : String
  ipv4 : Option String
  networkId : Option String
  securityId : Option String
  observedAt : ℤ
  /-- The probe reaches the server. -/
  probe : Bool
  now : ℤ
  /-- The id of a new item. -/
  newId : String

namespace Observation

variable (observation : Observation)

def resourceKey : List String :=
  [observation.mapping.provider, observation.mapping.apiVersion, observation.providerResourceId]

def reachable : Bool :=
  observation.state.toLower = "active" && truthy observation.ipv4 && truthy observation.networkId &&
    truthy observation.securityId && observation.probe

def healthStatus : PreprovisionedHealthStatus :=
  if observation.reachable = true then .healthy else .unhealthy

def find (db : InventoryDb) : Option PreprovisionedInventoryItem :=
  db.items.rows.find? fun row => row.resourceKey = observation.resourceKey

/-- `update` of the upsert. -/
def update (status : PreprovisionedInventoryStatus) (row : PreprovisionedInventoryItem) :
    PreprovisionedInventoryItem :=
  { row with
    mapping := { observation.mapping with
      provider := row.mapping.provider, apiVersion := row.mapping.apiVersion }
    observedState := observation.state
    observedIpv4 := observation.ipv4
    observedNetworkId := observation.networkId
    observedSecurityId := observation.securityId
    lastObservedAt := observation.observedAt
    lastHealthCheckedAt := some observation.now
    healthStatus := observation.healthStatus
    inventoryStatus := status }

/-- `create` of the upsert: a new item has no credential yet. -/
def create : PreprovisionedInventoryItem where
  id := observation.newId
  mapping := observation.mapping
  providerResourceId := observation.providerResourceId
  observedState := observation.state
  observedIpv4 := observation.ipv4
  observedNetworkId := observation.networkId
  observedSecurityId := observation.securityId
  lastObservedAt := observation.observedAt
  lastHealthCheckedAt := some observation.now
  healthStatus := observation.healthStatus
  inventoryStatus := if observation.reachable = true then .stale else .unhealthy

end Observation

/-- What an observation has read of the inventory. -/
structure ReadItem where
  item : PreprovisionedInventoryItem
  credential : Option InventoryCredential
  deriving DecidableEq

/-- An item that is reserved, assigned or delivered is not observed; ids are not empty. -/
def ReadItem.taken (read : ReadItem) : Bool :=
  read.item.assignedOrderId.isSome || read.item.inventoryStatus = .reserved ||
    read.item.inventoryStatus = .delivered

/-- The status of an item after an observation, by the credential that has been read. -/
def Observation.status (observation : Observation) (existing : Option ReadItem) :
    PreprovisionedInventoryStatus :=
  if observation.reachable = true then
    if (existing.bind ReadItem.credential).map InventoryCredential.status = some .ready then .available
    else .stale
  else .unhealthy

/-- The last two statements of `observeAndRegisterPreprovisionedInventory`: the check of what has been
read, and the upsert. -/
def registerObservation (observation : Observation) (existing : Option ReadItem) :
    InventoryTx Unit := do
  Tx.throwIf (existing.any ReadItem.taken = true) "inventory_already_assigned"
  Tx.attempt "P2002" fun db =>
    match observation.find db with
    | some row =>
        (db.items.modify? row.id (observation.update (observation.status existing))
          fun _ => rfl).map ({ db with items := · })
    | none => (db.items.insert? observation.create).map ({ db with items := · })

end AbrChin.Inventory
