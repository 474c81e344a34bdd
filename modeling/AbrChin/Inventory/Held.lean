import AbrChin.Inventory.Sale

/-!
# The item of a paid order

What a sale relies on (`SaleDb.Ok`): the item of an order that is paid is reserved for the order until the
order is dispatched, with all that the dispatch asks for, and is assigned to it from then on (`Holding`).

`ok_of_wrote` says what a write of one item has to show; one lemma a writer follows.  A write can harm an
item that is held when it releases an item, or writes one by what it has read of it before; the lemmas
about these writers ask that their item is not held.
-/

namespace AbrChin.Inventory

open Lib Orders ProductFlow

/-- The item waits for the dispatch of its order. -/
structure ReservedFor (order : ReadyOrder) (item : PreprovisionedInventoryItem)
    (credential : Option InventoryCredential) : Prop where
  status : item.inventoryStatus = .reserved
  bound : item.reservedByOrderId = some order.id
  quoted : item.reservedByQuoteId = some order.quoteId
  unassigned : item.assignedOrderId = none
  selection : order.selection = some item.mapping
  revision : ∃ revision, item.reservedRevision = some revision
  expiry : ∃ expiry, item.reservationExpiresAt = some expiry
  credential : ∃ ready, credential = some ready ∧ ready.isReady = true

structure AssignedTo (order : ReadyOrder) (item : PreprovisionedInventoryItem) : Prop where
  bound : item.reservedByOrderId = some order.id
  quoted : item.reservedByQuoteId = some order.quoteId
  assigned : item.assignedOrderId = some order.id
  status : item.inventoryStatus ≠ .available ∧ item.inventoryStatus ≠ .reserved

def Holding (order : ReadyOrder) (item : PreprovisionedInventoryItem)
    (credential : Option InventoryCredential) : Prop :=
  if order.dispatched = true then AssignedTo order item else ReservedFor order item credential

def Holds (order : ReadyOrder) (inventory : InventoryDb) : Prop :=
  ∃ item, inventory.items.find? order.inventoryItemId = some item ∧
    Holding order item (inventory.credentials.find? order.inventoryItemId)

structure SaleDb.Ok (db : SaleDb) : Prop where
  holds : ∀ order ∈ db.orders, order.status = .paid → Holds order db.inventory
  assigned : ∀ itemId item orderId, db.inventory.items.find? itemId = some item →
    item.assignedOrderId = some orderId → ∃ order, db.orders.find? orderId = some order ∧
      order.dispatched = true ∧ order.status ≠ .pendingPayment
  unused : ∀ itemId credential, db.inventory.credentials.find? itemId = some credential →
    credential.status = .ready → credential.transferredAt = none

section Holding

variable {order : ReadyOrder} {item : PreprovisionedInventoryItem}
  {credential : Option InventoryCredential} (h : Holding order item credential)
include h

theorem Holding.bound : item.reservedByOrderId = some order.id := by
  unfold Holding at h
  split at h
  · exact h.bound
  · exact h.bound

theorem Holding.quoted : item.reservedByQuoteId = some order.quoteId := by
  unfold Holding at h
  split at h
  · exact h.quoted
  · exact h.quoted

theorem Holding.not_available : item.inventoryStatus ≠ .available := by
  unfold Holding at h
  split at h
  · exact h.status.1
  · rw [h.status]
    nofun

/-- An item that is not assigned waits for the dispatch. -/
theorem Holding.reservedFor (hassigned : item.assignedOrderId = none) :
    order.dispatched = false ∧ ReservedFor order item credential := by
  unfold Holding at h
  split at h
  · have horder := h.assigned
    rw [hassigned] at horder
    cases horder
  · rename_i hdispatched
    exact ⟨by simpa using hdispatched, h⟩

/-- An item that is assigned has been dispatched. -/
theorem Holding.assignedTo {orderId : String} (hassigned : item.assignedOrderId = some orderId) :
    order.dispatched = true ∧ AssignedTo order item := by
  unfold Holding at h
  split at h
  · exact ⟨‹_›, h⟩
  · have horder := h.unassigned
    rw [hassigned] at horder
    cases horder

end Holding

/-- The flow of an order is not what its hold depends on. -/
theorem Holds.moveTo {order : ReadyOrder} {inventory : InventoryDb} (h : Holds order inventory)
    (state : ProductFlowState) : Holds (order.moveTo state) inventory := by
  obtain ⟨item, hitem, hholding⟩ := h
  refine ⟨item, hitem, ?_⟩
  unfold Holding at hholding ⊢
  cases hdispatched : order.dispatched with
  | true =>
      rw [if_pos hdispatched] at hholding
      rw [ReadyOrder.moveTo, if_pos hdispatched]
      exact ⟨hholding.bound, hholding.quoted, hholding.assigned, hholding.status⟩
  | false =>
      have hopen : ¬ order.dispatched = true := by simp [hdispatched]
      rw [if_neg hopen] at hholding
      rw [ReadyOrder.moveTo, if_neg hopen]
      exact ⟨hholding.status, hholding.bound, hholding.quoted, hholding.unassigned,
        hholding.selection, hholding.revision, hholding.expiry, hholding.credential⟩

section Sale

variable {db : SaleDb} {inventory : InventoryDb} {itemId : String}
  {item later : PreprovisionedInventoryItem}

/-- Two paid orders do not share an item. -/
theorem SaleDb.Ok.alone (hok : db.Ok) {order other : ReadyOrder} (horder : order ∈ db.orders)
    (hpaid : order.status = .paid) (hother : other ∈ db.orders) (hotherPaid : other.status = .paid)
    (hitem : order.inventoryItemId = other.inventoryItemId) : order = other := by
  obtain ⟨item, hfind, hholding⟩ := hok.holds order horder hpaid
  obtain ⟨_, hfind', hholding'⟩ := hok.holds other hother hotherPaid
  rw [hitem, hfind'] at hfind
  obtain rfl := Option.some.inj hfind
  exact Table.eq_of_key horder hother (Option.some.inj (hholding.bound.symm.trans hholding'.bound))

/-- The write of an item keeps the sale in order, when a paid order that holds the item goes on to. -/
theorem ok_of_wrote (hok : db.Ok) (hwrote : Wrote itemId item later db.inventory inventory)
    (hassigned : later.assignedOrderId = item.assignedOrderId)
    (hkept : ∀ order ∈ db.orders, order.status = .paid → order.inventoryItemId = itemId →
      Holding order item (db.inventory.credentials.find? itemId) →
        Holding order later (db.inventory.credentials.find? itemId)) :
    ({ db with inventory } : SaleDb).Ok where
  holds order horder hpaid := by
    obtain ⟨row, hfind, hholding⟩ := hok.holds order horder hpaid
    by_cases hitem : order.inventoryItemId = itemId
    · rw [hitem] at hfind hholding
      obtain rfl := Option.some.inj (hwrote.found.symm.trans hfind)
      refine ⟨later, hitem ▸ hwrote.written, ?_⟩
      rw [hitem, hwrote.credentials]
      exact hkept order horder hpaid hitem hholding
    · refine ⟨row, (hwrote.others _ hitem).trans hfind, ?_⟩
      rw [hwrote.credentials]
      exact hholding
  assigned other row orderId hrow horder := by
    by_cases hother : other = itemId
    · subst hother
      obtain rfl := Option.some.inj (hwrote.written.symm.trans hrow)
      exact hok.assigned other item orderId hwrote.found (hassigned ▸ horder)
    · exact hok.assigned other row orderId ((hwrote.others _ hother).symm.trans hrow) horder
  unused other credential hfind hready := by
    rw [hwrote.credentials] at hfind
    exact hok.unused other credential hfind hready

/-- What a transaction of the sale leaves is in order. -/
def KeepsSale {α : Type} (body : SaleTx α) (db : SaleDb) : Prop :=
  ∀ a db', Tx.Commits body db a db' → db'.Ok

theorem commits_onInventory {α : Type} {body : InventoryTx α} {a : α} {db' : SaleDb} :
    Tx.Commits (onInventory body) db a db' ↔
      ∃ inventory, Tx.Commits body db.inventory a inventory ∧ db' = { db with inventory } :=
  Tx.commits_zoom

theorem KeepsSale.transaction {α : Type} {body : SaleTx α} (h : KeepsSale body db) (hok : db.Ok) :
    (Tx.transaction body db).2.Ok := by
  cases hbody : Tx.transaction body db with
  | mk result db' =>
      cases result with
      | ok a => exact h a db' (Tx.transaction_ok.1 hbody)
      | error e =>
          obtain rfl := (Tx.transaction_error hbody).1
          exact hok

/-! ## Writers of the inventory -/

/-- A paid order has the item. -/
def SaleDb.sold (db : SaleDb) (itemId : String) : Prop :=
  ∃ order ∈ db.orders.rows, order.status = .paid ∧ order.inventoryItemId = itemId

/-- A paid order waits for the dispatch of the item. -/
def SaleDb.awaiting (db : SaleDb) (itemId : String) : Prop :=
  ∃ order ∈ db.orders.rows, (order.status = .paid ∧ order.dispatched = false) ∧
    order.inventoryItemId = itemId

instance (db : SaleDb) (itemId : String) : Decidable (db.sold itemId) :=
  inferInstanceAs (Decidable (∃ order ∈ db.orders.rows, _ ∧ _))

instance (db : SaleDb) (itemId : String) : Decidable (db.awaiting itemId) :=
  inferInstanceAs (Decidable (∃ order ∈ db.orders.rows, (_ ∧ _) ∧ _))

/-- An item that no paid order waits for may be released. -/
theorem ok_release (hok : db.Ok) {status : PreprovisionedInventoryStatus}
    (hassigned : item.assignedOrderId = none) (hfree : ¬ db.awaiting itemId)
    (hwrote : Wrote itemId item (item.release status) db.inventory inventory) :
    ({ db with inventory } : SaleDb).Ok := by
  refine ok_of_wrote hok hwrote rfl fun order horder hpaid hitem hholding => ?_
  obtain ⟨hdispatched, -⟩ := hholding.reservedFor hassigned
  exact absurd ⟨order, horder, ⟨hpaid, hdispatched⟩, hitem⟩ hfree

/-- The reservation of a paid order is over. -/
def SaleDb.overdue (db : SaleDb) (itemId : String) (now : ℤ) : Prop :=
  db.awaiting itemId ∧ ∃ item ∈ db.inventory.items.find? itemId,
    ∃ expiry ∈ item.reservationExpiresAt, expiry ≤ now

instance (db : SaleDb) (itemId : String) (now : ℤ) : Decidable (db.overdue itemId now) :=
  inferInstanceAs (Decidable (_ ∧ ∃ item ∈ db.inventory.items.find? itemId,
    ∃ expiry ∈ item.reservationExpiresAt, _))

theorem keepsSale_releaseExpired (hok : db.Ok) {now : ℤ} (hfree : ¬ db.overdue itemId now) :
    KeepsSale (onInventory (releaseExpiredInventoryReservation itemId now)) db := by
  intro a db' hcommits
  obtain ⟨inventory, hbody, rfl⟩ := commits_onInventory.1 hcommits
  rcases releaseExpired_spec hbody with rfl | ⟨item, ⟨-, hassigned, hdue⟩, hwrote⟩
  · exact hok
  · obtain ⟨expiry, hexpiry, hle⟩ := (Option.any_eq_true _ _).1 hdue
    exact ok_release hok hassigned (fun hawaiting => hfree
      ⟨hawaiting, item, hwrote.found, expiry, hexpiry, of_decide_eq_true hle⟩) hwrote

theorem keepsSale_releaseForOrder (hok : db.Ok) {candidate : Option String} {now : ℤ}
    (hfree : ∀ itemId ∈ candidate, ¬ db.awaiting itemId) :
    KeepsSale (onInventory (releaseInventoryReservationForOrder candidate now)) db := by
  intro a db' hcommits
  obtain ⟨inventory, hbody, rfl⟩ := commits_onInventory.1 hcommits
  rcases releaseForOrder_spec hbody with rfl | ⟨itemId, item, hcandidate, ⟨-, hassigned⟩, hwrote⟩
  · exact hok
  · exact ok_release hok hassigned (hfree itemId hcandidate) hwrote

theorem keepsSale_releaseRead (hok : db.Ok) {read : ReadItem} {now : ℤ}
    (hfree : read.item.inventoryStatus = .reserved ∧ read.item.assignedOrderId = none →
      ¬ db.sold read.item.id) :
    KeepsSale (onInventory (releaseReadInventory read.item read.credential now)) db := by
  intro a db' hcommits
  obtain ⟨inventory, hbody, rfl⟩ := commits_onInventory.1 hcommits
  rcases releaseRead_spec hbody with rfl | ⟨item, hreserved, hwrote⟩
  · exact hok
  · refine ok_of_wrote hok hwrote rfl fun order horder hpaid hitem hholding => ?_
    exact absurd ⟨order, horder, hpaid, hitem⟩ (hfree hreserved)

theorem keepsSale_reserve (hok : db.Ok) (input : ReserveForQuote) :
    KeepsSale (onInventory (reserveLockedInventoryForQuoteTx input)) db := by
  intro a db' hcommits
  obtain ⟨inventory, hbody, rfl⟩ := commits_onInventory.1 hcommits
  obtain ⟨item, ⟨havailable, -⟩, hwrote⟩ := reserve_spec hbody
  exact ok_of_wrote hok hwrote rfl fun order _ _ _ hholding =>
    absurd havailable hholding.not_available

theorem keepsSale_bind (hok : db.Ok) (input : InventoryOfOrder) (expected : InventoryExpectedSelection) :
    KeepsSale (onInventory (bindInventoryReservationToOrderTx input expected)) db := by
  intro a db' hcommits
  obtain ⟨inventory, hbody, rfl⟩ := commits_onInventory.1 hcommits
  obtain ⟨item, ⟨-, -, hunbound⟩, hwrote⟩ := bind_spec hbody
  refine ok_of_wrote hok hwrote rfl fun order _ _ _ hholding => ?_
  have horder := hholding.bound
  rw [hunbound] at horder
  cases horder

theorem keepsSale_register (hok : db.Ok) {observation : Observation} {existing : Option ReadItem}
    (hfree : existing.any ReadItem.taken = false →
      ∀ row ∈ observation.find db.inventory, ¬ db.sold row.id) :
    KeepsSale (onInventory (registerObservation observation existing)) db := by
  intro a db' hcommits
  obtain ⟨inventory, hbody, rfl⟩ := commits_onInventory.1 hcommits
  obtain ⟨htaken, ⟨row, hrow, hwrote⟩ | ⟨items, hinsert, rfl⟩⟩ := register_spec hbody
  · exact ok_of_wrote hok hwrote rfl fun order horder hpaid hitem _ =>
      absurd ⟨order, horder, hpaid, hitem⟩ (hfree htaken row hrow)
  · have hfind := IndexedTable.find?_insert? hinsert
    have hfresh := IndexedTable.fresh_of_insert? hinsert
    refine ⟨fun order horder hpaid => ?_, fun itemId item orderId hitem horder => ?_, hok.unused⟩
    · obtain ⟨item, hitem, hholding⟩ := hok.holds order horder hpaid
      refine ⟨item, (hfind _).trans ?_, hholding⟩
      rw [if_neg]
      · exact hitem
      · intro hsame
        rw [hsame, hitem] at hfresh
        cases hfresh
    · rw [hfind] at hitem
      by_cases hsame : observation.create.id = itemId
      · rw [if_pos hsame] at hitem
        obtain rfl := Option.some.inj hitem
        cases horder
      · rw [if_neg hsame] at hitem
        exact hok.assigned itemId item orderId hitem horder

/-- The health check of an assigned server, and its delivery. -/
theorem keepsSale_updateAssigned (hok : db.Ok) {orderId : String}
    {f : PreprovisionedInventoryItem → PreprovisionedInventoryItem} {hf : ∀ row, (f row).id = row.id}
    (hrefs : ∀ row, (f row).assignedOrderId = row.assignedOrderId ∧
      (f row).reservedByOrderId = row.reservedByOrderId ∧
      (f row).reservedByQuoteId = row.reservedByQuoteId)
    (hstatus : ∀ row, (f row).inventoryStatus ≠ .available ∧ (f row).inventoryStatus ≠ .reserved) :
    KeepsSale (onInventory (updateAssigned itemId orderId f hf)) db := by
  intro a db' hcommits
  obtain ⟨inventory, hbody, rfl⟩ := commits_onInventory.1 hcommits
  rcases updateAssigned_spec hbody with rfl | ⟨item, hassigned, hwrote⟩
  · exact hok
  · obtain ⟨hsame, horder, hquote⟩ := hrefs item
    refine ok_of_wrote hok hwrote hsame fun order _ _ _ hholding => ?_
    obtain ⟨hdispatched, hheld⟩ := hholding.assignedTo hassigned
    rw [Holding, if_pos hdispatched]
    exact ⟨horder.trans hheld.bound, hquote.trans hheld.quoted, hsame.trans hheld.assigned,
      hstatus item⟩

/-- A new credential is stored for an item that nobody holds. -/
theorem keepsSale_store (hok : db.Ok) (input : StoreCredential) :
    KeepsSale (onInventory (storePreprovisionedInventoryCredential input)) db := by
  intro a db' hcommits
  obtain ⟨inventory, hbody, rfl⟩ := commits_onInventory.1 hcommits
  obtain ⟨item, mid, ⟨hassigned, hreserved, -⟩, ⟨hitems, ⟨new, hnew, -, hunused⟩, hothers⟩, hwrote⟩ :=
    store_spec hbody
  have hfound := hwrote.found
  rw [hitems] at hfound
  have hfree : ∀ order credential, ¬ Holding order item credential := fun order credential hholding =>
    hreserved (hholding.reservedFor hassigned).2.status
  have hmid : ({ db with inventory := mid } : SaleDb).Ok := by
    refine ⟨fun order horder hpaid => ?_, fun itemId row orderId hrow horder => ?_,
      fun itemId credential hcredential hready => ?_⟩
    · obtain ⟨row, hrow, hholding⟩ := hok.holds order horder hpaid
      have hother : order.inventoryItemId ≠ input.inventoryItemId := by
        intro hsame
        rw [hsame, hfound] at hrow
        obtain rfl := Option.some.inj hrow
        exact hfree _ _ hholding
      refine ⟨row, ?_, ?_⟩
      · rw [hitems]
        exact hrow
      · rw [hothers _ hother]
        exact hholding
    · rw [hitems] at hrow
      exact hok.assigned itemId row orderId hrow horder
    · by_cases hsame : itemId = input.inventoryItemId
      · subst hsame
        obtain rfl := Option.some.inj (hnew.symm.trans hcredential)
        exact hunused
      · rw [hothers _ hsame] at hcredential
        exact hok.unused itemId credential hcredential hready
  have hlast := ok_of_wrote hmid hwrote rfl fun order _ _ _ hholding => absurd hholding (hfree order _)
  exact hlast

end Sale

end AbrChin.Inventory
