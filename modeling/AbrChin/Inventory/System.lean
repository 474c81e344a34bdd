import AbrChin.Inventory.Reservations

/-!
# The writers of the inventory, in any order

Every operation is a step.  The three calls that have read an item without a lock are under way between
their read and their write; the others take place in between.  The expired reservations are released
one after the other, and the item that a quote reserves is any that is available, so that each of these
is a step of its own.  The times at which calls look at the clock are part of the events.
-/

namespace AbrChin.Inventory

open Lib Orders

/-- A call between its read and its write. -/
inductive Call where
  | done
  | observing (observation : Observation) (existing : Option ReadItem)
  /-- The expiry of a quote, with the item that the quote has reserved. -/
  | expiring (read : ReadItem) (now : ℤ)
  /-- The release for an order, with the item that it has found. -/
  | releasing (candidate : Option String) (now : ℤ)

structure InventorySystem where
  db : InventoryDb
  calls : List Call

inductive Event where
  | observe (observation : Observation)
  | expireQuote (quoteId : String) (now : ℤ)
  | releaseForOrder (orderId : String) (now : ℤ)
  /-- A call writes what it has concluded. -/
  | write (call : ℕ)
  | releaseExpired (itemId : String) (now : ℤ)
  | storeCredential (input : StoreCredential)
  | reserveForQuote (input : ReserveForQuote)
  | bindToOrder (input : InventoryOfOrder) (expected : InventoryExpectedSelection)
  /-- A dispatch assigns the item and hands its credential over to an instance. -/
  | adopt (input : InventoryOfOrder) (cloudInstanceId : String)
  /-- The health check of an assigned server has an outcome. -/
  | healthChecked (itemId orderId : String) (healthy : Bool) (now : ℤ)
  | deliver (itemId orderId : String) (now : ℤ)

inductive Outcome where
  | transferred (itemId cloudInstanceId : String)
  deriving DecidableEq

namespace InventoryDb

variable (db : InventoryDb)

/-- An item, read with its credential. -/
def read (item : PreprovisionedInventoryItem) : ReadItem := ⟨item, db.credentials.find? item.id⟩

def reservedFor (quoteId : String) : Option PreprovisionedInventoryItem :=
  db.items.rows.find? fun row => row.reservedByQuoteId = some quoteId

def boundTo (orderId : String) : Option PreprovisionedInventoryItem :=
  db.items.rows.find? fun row => row.reservedByOrderId = some orderId

end InventoryDb

/-- `updateMany` of an item that is assigned to the order. -/
def updateAssigned (itemId orderId : String)
    (f : PreprovisionedInventoryItem → PreprovisionedInventoryItem)
    (hf : ∀ row, (f row).id = row.id) : InventoryTx Unit := do
  let db ← Tx.get
  if (db.items.find? itemId).any (·.assignedOrderId = some orderId) = true then
    updateItem itemId f hf
  else pure ()

/-- The rest of a call. -/
def Call.rest : Call → InventoryTx Unit
  | .done => pure ()
  | .observing observation existing => registerObservation observation existing
  | .expiring read now => releaseReadInventory read.item read.credential now
  | .releasing candidate now => do
      let _ ← releaseInventoryReservationForOrder candidate now

namespace InventorySystem

variable (sys : InventorySystem)

/-- A transaction that throws leaves the inventory as it was. -/
def commit {α : Type} (body : InventoryTx α) : InventorySystem :=
  { sys with db := (Tx.transaction body sys.db).2 }

def begin (call : Call) : InventorySystem := { sys with calls := sys.calls ++ [call] }

end InventorySystem

def stepInventory (sys : InventorySystem) : Event → InventorySystem × Option Outcome
  | .observe observation =>
      (sys.begin (.observing observation ((observation.find sys.db).map sys.db.read)), none)
  | .expireQuote quoteId now =>
      (match sys.db.reservedFor quoteId with
      | none => sys
      | some item => sys.begin (.expiring (sys.db.read item) now), none)
  | .releaseForOrder orderId now =>
      (sys.begin (.releasing ((sys.db.boundTo orderId).map (·.id)) now), none)
  | .write place =>
      match sys.calls[place]? with
      | none => (sys, none)
      | some call => ({ sys.commit call.rest with calls := sys.calls.set place .done }, none)
  | .releaseExpired itemId now => (sys.commit (releaseExpiredInventoryReservation itemId now), none)
  | .storeCredential input => (sys.commit (storePreprovisionedInventoryCredential input), none)
  | .reserveForQuote input => (sys.commit (reserveLockedInventoryForQuoteTx input), none)
  | .bindToOrder input expected => (sys.commit (bindInventoryReservationToOrderTx input expected), none)
  | .adopt input cloudInstanceId =>
      (sys.commit (adoptInventoryTx input cloudInstanceId),
        if (Tx.transaction (adoptInventoryTx input cloudInstanceId) sys.db).1.isOk = true then
          some (.transferred input.inventoryItemId cloudInstanceId)
        else none)
  | .healthChecked itemId orderId healthy now =>
      (sys.commit (updateAssigned itemId orderId (·.checked
        (if healthy = true then .assigned else .unhealthy)
        (if healthy = true then .healthy else .unhealthy) now) fun _ => rfl), none)
  | .deliver itemId orderId now =>
      (sys.commit (updateAssigned itemId orderId (·.deliver now) fun _ => rfl), none)

def InventoryDb.empty : InventoryDb := ⟨.empty, .empty, .empty⟩

/-- Before the first observation. -/
def InventorySystem.start : InventorySystem := ⟨.empty, []⟩

end AbrChin.Inventory
