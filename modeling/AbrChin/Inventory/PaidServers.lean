import AbrChin.Inventory.Consistency
import AbrChin.Inventory.SaleSteps

/-!
# A paid ready server stays with its buyer

The reservation of an item has a clock of its own, which a payment looks at and does not stop.  When it
runs out before the order is dispatched, the item is released, and can be sold again
(`released_after_payment`).  `paid_servers_kept` is about the runs in which no release, and no write of an
earlier read, meets an item that a paid order has, and every approved dispatch comes in time.
-/

namespace AbrChin.Inventory

open Lib Orders ProductFlow

/-- The item is reserved for the order, or assigned to it. -/
def PreprovisionedInventoryItem.StaysWith (item : PreprovisionedInventoryItem) (order : ReadyOrder) :
    Prop :=
  (item.reservedByOrderId = some order.id ∧ item.reservedByQuoteId = some order.quoteId) ∧
    ((item.inventoryStatus = .reserved ∧ item.assignedOrderId = none) ∨
      (item.inventoryStatus ≠ .available ∧ item.assignedOrderId = some order.id))

/-- What holds of a run for the buyers of ready servers. -/
structure PaidServersKept (events : List SaleEvent) : Prop where
  /-- In every state, the item of a paid order is with it. -/
  stays : ∀ first second, events = first ++ second →
    ∀ order ∈ (run stepSale .start first).db.orders.rows, order.status = .paid →
      ∃ item ∈ (run stepSale .start first).db.inventory.items.rows,
        item.id = order.inventoryItemId ∧ item.StaysWith order
  /-- No item has been sold to two orders. -/
  alone : ∀ first second, events = first ++ second →
    ∀ order ∈ (run stepSale .start first).db.orders.rows,
      ∀ other ∈ (run stepSale .start first).db.orders.rows, order.status = .paid →
        other.status = .paid → order.inventoryItemId = other.inventoryItemId → order = other
  /-- The dispatch of a paid order that is approved finds the item. -/
  found : ∀ entry ∈ trace stepSale .start events, ∀ input, entry.event = .dispatch input →
    ∀ order ∈ entry.before.db.orders.find? input.orderId, order.isApproved = true →
      entry.result = some (.dispatched input.orderId)

/-! ## Steps -/

/-- The call does not write to an item that a paid order has. -/
def SaleCall.Spares (db : SaleDb) : SaleCall → Prop
  | .observing observation existing => existing.any ReadItem.taken = false →
      ∀ row ∈ observation.find db.inventory, ¬ db.sold row.id
  | .expiring read _ => read.Stands db → ∀ item ∈ read.item,
      item.item.inventoryStatus = .reserved ∧ item.item.assignedOrderId = none →
        ¬ db.sold item.item.id
  | .releasing candidate => ∀ itemId ∈ candidate, ¬ db.awaiting itemId
  | .done | .failed _ | .unpaid _ => True

instance (db : SaleDb) : ∀ call : SaleCall, Decidable (call.Spares db)
  | .observing observation existing => inferInstanceAs (Decidable
      (existing.any ReadItem.taken = false → ∀ row ∈ observation.find db.inventory, ¬ _))
  | .expiring read _ => inferInstanceAs (Decidable
      (read.Stands db → ∀ item ∈ read.item, _ ∧ _ → ¬ db.sold item.item.id))
  | .releasing candidate => inferInstanceAs (Decidable (∀ itemId ∈ candidate, ¬ _))
  | .done | .failed _ | .unpaid _ => .isTrue trivial

instance (input : Dispatch) (db : SaleDb) : Decidable (input.InTime db) :=
  inferInstanceAs (Decidable (∀ order ∈ db.orders.find? input.orderId, order.isApproved = true →
    (∀ item ∈ db.inventory.items.find? order.inventoryItemId,
      _ ∧ (∀ expiry ∈ item.reservationExpiresAt, _) ∧ _) ∧ _))

/-- The step takes no item from a paid order, and a dispatch comes in time. -/
def Spares (sys : SaleSystem) : SaleEvent → Prop
  | .proceed place _ => ∀ call ∈ sys.calls[place]?, call.Spares sys.db
  | .releaseExpired itemId now => ¬ sys.db.overdue itemId now
  | .dispatch input => input.InTime sys.db
  | _ => True

instance (sys : SaleSystem) : ∀ event, Decidable (Spares sys event)
  | .proceed place _ => inferInstanceAs (Decidable (∀ call ∈ sys.calls[place]?, call.Spares sys.db))
  | .releaseExpired itemId now => inferInstanceAs (Decidable (¬ sys.db.overdue itemId now))
  | .dispatch input => inferInstanceAs (Decidable (input.InTime sys.db))
  | .observe _ | .storeCredential _ | .quote _ | .expireQuote _ _ _ | .checkout _ | .pay _
  | .approve _ _ | .refund _ | .healthChecked _ _ _ _ | .deliver _ _ _ => .isTrue trivial

theorem ok_proceed {sys : SaleSystem} (hok : sys.db.Ok) (place : ℕ) (now : ℤ) {call : SaleCall}
    (hspares : call.Spares sys.db) : (sys.proceed place now call).db.Ok := by
  cases call with
  | done => exact hok
  | observing observation existing => exact (keepsSale_register hok hspares).transaction hok
  | expiring read expiredAt => exact (keepsSale_expire hok read expiredAt hspares).transaction hok
  | failed orderId =>
      simp only [SaleSystem.proceed]
      split
      · exact hok
      · exact hok
  | unpaid orderId => exact hok
  | releasing candidate => exact (keepsSale_releaseForOrder hok hspares).transaction hok

/-- **A step that spares the items of paid orders keeps the sale in order.** -/
theorem ok_stepSale (sys : SaleSystem) (event : SaleEvent) (hspares : Spares sys event)
    (hok : sys.db.Ok) : (stepSale sys event).1.db.Ok := by
  cases event with
  | observe observation => exact hok
  | storeCredential input => exact (keepsSale_store hok input).transaction hok
  | quote input => exact (keepsSale_quote hok input).transaction hok
  | expireQuote quoteId reason now =>
      simp only [stepSale]
      split
      · exact hok
      · exact hok
  | releaseExpired itemId now => exact (keepsSale_releaseExpired hok hspares).transaction hok
  | checkout input => exact (keepsSale_checkout hok input).transaction hok
  | pay input =>
      have hpay := (keepsSale_pay hok input).transaction hok
      simp only [stepSale]
      split
      · rename_i hbody
        rw [hbody] at hpay
        exact hpay
      · exact hok
  | approve orderId canApprove => exact (keepsSale_approve hok canApprove).transaction hok
  | dispatch input =>
      have hdispatch := (keepsSale_dispatch hok input).transaction hok
      simp only [stepSale]
      split
      · rename_i hbody
        rw [hbody] at hdispatch
        exact hdispatch
      · rename_i hbody
        rw [hbody] at hdispatch
        exact hdispatch
  | refund orderId => exact (keepsSale_refund hok).transaction hok
  | healthChecked itemId orderId healthy now =>
      refine KeepsSale.transaction (keepsSale_updateAssigned hok (fun _ => ⟨rfl, rfl, rfl⟩)
        fun row => ?_) hok
      cases healthy with
      | true => exact ⟨nofun, nofun⟩
      | false => exact ⟨nofun, nofun⟩
  | deliver itemId orderId now =>
      exact KeepsSale.transaction (keepsSale_updateAssigned hok (fun _ => ⟨rfl, rfl, rfl⟩)
        fun row => ⟨nofun, nofun⟩) hok
  | proceed place now =>
      cases hcall : sys.calls[place]? with
      | none =>
          simp only [stepSale, hcall]
          exact hok
      | some call =>
          simp only [stepSale, hcall]
          exact ok_proceed hok place now (hspares call hcall)

theorem result_of_dispatch {sys : SaleSystem} (hok : sys.db.Ok) {input : Dispatch}
    (hinTime : input.InTime sys.db) {order : ReadyOrder}
    (horder : sys.db.orders.find? input.orderId = some order) (happroved : order.isApproved = true) :
    (stepSale sys (.dispatch input)).2 = some (.dispatched input.orderId) := by
  obtain ⟨db', hcommits⟩ := commits_dispatch hok hinTime horder happroved
  simp only [stepSale, Tx.transaction_ok.2 hcommits]

/-! ## Runs -/

theorem ok_startSale : SaleSystem.start.db.Ok :=
  ⟨(fun _ horder => by cases horder), (fun _ _ _ hitem => by cases hitem),
    fun _ _ hcredential => by cases hcredential⟩

theorem Holding.staysWith {order : ReadyOrder} {item : PreprovisionedInventoryItem}
    {credential : Option InventoryCredential} (h : Holding order item credential) :
    item.StaysWith order := by
  refine ⟨⟨h.bound, h.quoted⟩, ?_⟩
  cases hassigned : item.assignedOrderId with
  | none => exact .inl ⟨(h.reservedFor hassigned).2.status, rfl⟩
  | some orderId =>
      have hheld := (h.assignedTo hassigned).2
      exact .inr ⟨hheld.status.1, hassigned.symm.trans hheld.assigned⟩

def sampleSelection : InventoryExpectedSelection :=
  ⟨⟨"plan", "catalog", "ARVAN", "v1", "region", "size", "image"⟩, some "network", some "security"⟩

/-- A server is observed, quoted, and paid for. -/
def payingRun : List SaleEvent :=
  [.observe (sampleObservation 0), .proceed 0 0,
    .storeCredential ⟨"item", "admin", "root", 20, ⟨"ciphertext", "iv", "tag"⟩, "fingerprint", 1000⟩,
    .quote ⟨"item", "quote", 1, 900000, 3000⟩,
    .checkout ⟨"order", "quote", 2, sampleSelection, true, 4000⟩,
    .pay ⟨"order", sampleSelection, true, 5000⟩]

end AbrChin.Inventory
