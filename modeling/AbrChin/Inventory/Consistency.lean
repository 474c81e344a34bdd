import AbrChin.Inventory.Integrity

/-!
# Whole runs of the inventory

What `ItemOk` gives for the runs of the inventory: the columns of every item belong together, a quote
and an order have one item, an assignment stays, and a credential goes to one instance.
-/

namespace AbrChin.Inventory

open Lib Orders

/-- The item is reserved for the order, or assigned to it. -/
def PreprovisionedInventoryItem.heldBy (item : PreprovisionedInventoryItem) (orderId : String) : Prop :=
  item.reservedByOrderId = some orderId ∨ item.assignedOrderId = some orderId

structure Consistent (db : InventoryDb) : Prop where
  available : ∀ item ∈ db.items.rows, item.inventoryStatus = .available →
    (item.reservedByQuoteId = none ∧ item.reservedByOrderId = none ∧ item.assignedOrderId = none) ∧
      (db.credentials.find? item.id).map InventoryCredential.status = some .ready
  reserved : ∀ item ∈ db.items.rows, item.inventoryStatus = .reserved ↔
    item.reservedByQuoteId.isSome ∧ item.reservationExpiresAt.isSome ∧ item.assignedOrderId = none
  assigned : ∀ item ∈ db.items.rows, item.inventoryStatus = .assigned ∨
    item.inventoryStatus = .delivered → item.assignedOrderId.isSome
  quote : ∀ first ∈ db.items.rows, ∀ second ∈ db.items.rows, ∀ quoteId,
    first.reservedByQuoteId = some quoteId → second.reservedByQuoteId = some quoteId → first = second
  order : ∀ first ∈ db.items.rows, ∀ second ∈ db.items.rows, ∀ orderId,
    first.heldBy orderId → second.heldBy orderId → first = second

theorem InventoryDb.Ok.consistent {db : InventoryDb} (h : db.Ok) : Consistent db := by
  have hrow : ∀ item ∈ db.items.rows, ItemOk item (db.credentials.find? item.id) := fun item hitem =>
    h item.id item (IndexedTable.find?_eq_some.2 ⟨hitem, rfl⟩)
  refine ⟨fun item hitem hstatus => ?_, fun item hitem => ⟨fun hstatus => ?_, fun hrefs => ?_⟩,
    fun item hitem => (hrow item hitem).taken, fun first hfirst second hsecond quoteId hq hq' => ?_,
    fun first hfirst second hsecond orderId ho ho' => ?_⟩
  · have hassigned : item.assignedOrderId = none := by
      cases horder : item.assignedOrderId with
      | none => rfl
      | some orderId => exact absurd hstatus ((hrow item hitem).assigned orderId horder).2
    obtain ⟨hquote, horder, -⟩ := (hrow item hitem).free hassigned (by rw [hstatus]; nofun)
    exact ⟨⟨hquote, horder, hassigned⟩, (hrow item hitem).ready (.inl hstatus)⟩
  · obtain ⟨hassigned, hquote, hexpiry⟩ := (hrow item hitem).reserved hstatus
    exact ⟨hquote, hexpiry, hassigned⟩
  · obtain ⟨hquote, -, hassigned⟩ := hrefs
    by_contra hstatus
    rw [((hrow item hitem).free hassigned hstatus).1] at hquote
    cases hquote
  · exact IndexedTable.eq_of_index hfirst hsecond List.mem_cons_self
      (congrArg (Option.map ([·])) hq) (congrArg (Option.map ([·])) hq')
  · -- an item that is assigned to an order is bound to it too
    have hbound : ∀ item ∈ db.items.rows, item.heldBy orderId →
        item.reservedByOrderId = some orderId := fun item hitem hheld =>
      hheld.elim id fun hassigned => ((hrow item hitem).assigned orderId hassigned).1
    exact IndexedTable.eq_of_index hfirst hsecond (List.mem_cons_of_mem _ List.mem_cons_self)
      (congrArg (Option.map ([·])) (hbound first hfirst ho))
      (congrArg (Option.map ([·])) (hbound second hsecond ho'))

/-- The credential of the item was handed over. -/
def transfers (itemId : String) (entry : Entry InventorySystem Event (Option Outcome)) : Bool :=
  match entry.result with
  | some (.transferred id _) => id = itemId
  | none => false

/-- What holds of a run of the inventory. -/
structure InventoryKept (events : List Event) : Prop where
  /-- The columns of all items belong together in every state of the run. -/
  consistent : ∀ first second, events = first ++ second →
    Consistent (run stepInventory .start first).db
  /-- An item that is assigned or delivered has an order, and keeps it. -/
  assigned : ∀ first second, events = first ++ second →
    ∀ item ∈ (run stepInventory .start first).db.items.rows,
      item.inventoryStatus = .assigned ∨ item.inventoryStatus = .delivered →
        ∃ orderId, item.assignedOrderId = some orderId ∧
          ∃ later ∈ (run stepInventory .start events).db.items.rows,
            later.id = item.id ∧ later.assignedOrderId = some orderId
  /-- A credential is handed over to one instance at most. -/
  transferred : ∀ itemId,
    ((trace stepInventory .start events).filter (transfers itemId)).length ≤ 1

theorem ok_start : InventorySystem.start.db.Ok := by
  intro itemId item hitem
  cases hitem

/-- What a run of current writes keeps, from any state in order. -/
theorem ok_run {sys : InventorySystem} {events : List Event} (hok : sys.db.Ok)
    (hmeets : Meets stepInventory Current sys events) :
    (run stepInventory sys events).db.Ok ∧ Grows sys.db (run stepInventory sys events).db :=
  run_of_meets (p := fun later => later.db.Ok ∧ Grows sys.db later.db)
    (fun later event hcurrent h =>
      ⟨(ok_step later event hcurrent h.1).1, h.2.trans (ok_step later event hcurrent h.1).2⟩)
    ⟨hok, .refl _⟩ hmeets

/-- A hand-over finds the credential ready, and leaves it transferred. -/
theorem transferred_of_transfers {sys : InventorySystem} {event : Event} {itemId : String}
    (h : transfers itemId ⟨sys, event, (stepInventory sys event).2⟩ = true) :
    (sys.db.credentials.find? itemId).map InventoryCredential.status = some .ready ∧
      ((stepInventory sys event).1.db.credentials.find? itemId).map InventoryCredential.status =
        some .transferred := by
  cases event with
  | adopt input cloudInstanceId =>
      simp only [transfers, stepInventory] at h
      cases hbody : Tx.transaction (adoptInventoryTx input cloudInstanceId) sys.db with
      | mk result db' =>
          rw [hbody] at h
          cases result with
          | error e => simp [Except.isOk, Except.toBool] at h
          | ok a =>
              have hid : input.inventoryItemId = itemId := by
                simpa [Except.isOk, Except.toBool] using h
              obtain ⟨hready, htransferred⟩ := adopt_spec (Tx.transaction_ok.1 hbody)
              simp only [stepInventory, InventorySystem.commit, hbody]
              rw [hid] at hready htransferred
              exact ⟨hready, htransferred⟩
  | write place =>
      -- the writes of calls that have read before hand nothing over
      cases hcall : sys.calls[place]? with
      | none =>
          simp only [stepInventory, hcall] at h
          cases h
      | some call =>
          simp only [stepInventory, hcall] at h
          cases h
  | expireQuote quoteId now => simp [transfers, stepInventory] at h
  | observe _ | releaseForOrder _ _ | releaseExpired _ _ | storeCredential _ | reserveForQuote _
  | bindToOrder _ _ | healthChecked _ _ _ _ | deliver _ _ _ => cases h

/-- **The inventory stays in order** in every run whose writes after an earlier read are current. -/
theorem inventory_kept (events : List Event)
    (hcurrent : Meets stepInventory Current .start events) : InventoryKept events where
  consistent first second hsplit := by
    rw [hsplit, meets_append] at hcurrent
    exact (ok_run ok_start hcurrent.1).1.consistent
  assigned first second hsplit item hitem hstatus := by
    rw [hsplit, meets_append] at hcurrent
    obtain ⟨hok, -⟩ := ok_run ok_start hcurrent.1
    obtain ⟨-, hgrows⟩ := ok_run hok hcurrent.2
    have hfind := IndexedTable.find?_eq_some.2 ⟨hitem, rfl⟩
    obtain ⟨orderId, horder⟩ := Option.isSome_iff_exists.1 ((hok item.id item hfind).taken hstatus)
    obtain ⟨later, hlater, hassigned⟩ := hgrows.assigned item.id item orderId hfind horder
    rw [← run_append, ← hsplit] at hlater
    obtain ⟨hmem, hid⟩ := IndexedTable.find?_eq_some.1 hlater
    exact ⟨orderId, horder, later, hmem, hid, hassigned⟩
  transferred itemId := by
    have hinv : ∀ (sys : InventorySystem) (event : Event), Current sys event → sys.db.Ok →
        (stepInventory sys event).1.db.Ok := fun sys event hevent hok => (ok_step sys event hevent hok).1
    refine length_filter_le_one hinv (fun sys event hevent hok h =>
      (ok_step sys event hevent hok).2.transferred itemId h) (fun sys event hevent hok hfires => ?_)
      ok_start hcurrent
    obtain ⟨hready, htransferred⟩ := transferred_of_transfers hfires
    refine ⟨fun hspent => ?_, htransferred⟩
    rw [hready] at hspent
    cases hspent

/-! ### Two runs -/

def sampleObservation (now : ℤ) : Observation where
  mapping := ⟨"plan", "catalog", "ARVAN", "v1", "region", "size", "image"⟩
  providerResourceId := "resource"
  state := "active"
  ipv4 := some "192.0.2.1"
  networkId := some "network"
  securityId := some "security"
  observedAt := now
  probe := true
  now := now
  newId := "item"

/-- A server is observed, and gets a credential; so it is available. -/
def registering : List Event :=
  [.observe (sampleObservation 0), .write 0,
    .storeCredential ⟨"item", "admin", "root", 20, ⟨"ciphertext", "iv", "tag"⟩, "fingerprint", 1000⟩]

def selling : List Event :=
  [.bindToOrder ⟨"item", "quote", "order", 2, 4000⟩
      ⟨⟨"plan", "catalog", "ARVAN", "v1", "region", "size", "image"⟩, some "network", some "security"⟩,
    .adopt ⟨"item", "quote", "order", 2, 5000⟩ "instance"]

def sellingRun : List Event :=
  registering ++ [.observe (sampleObservation 2000), .write 1,
    .reserveForQuote ⟨"item", "quote", 1, 900000, 3000⟩] ++ selling

theorem inventory_kept_sample : InventoryKept sellingRun :=
  inventory_kept sellingRun (by decide +kernel)

/-- The item is reserved while it is observed. -/
def observedRun : List Event :=
  registering ++ [.observe (sampleObservation 2000),
    .reserveForQuote ⟨"item", "quote", 1, 900000, 3000⟩, .write 1]

/-- **An item that is reserved for a quote is made available again.** -/
theorem sold_while_observed : ¬ ∀ events : List Event, InventoryKept events := by
  intro hkept
  have hconsistent := (hkept observedRun).consistent observedRun [] (List.append_nil _).symm
  have hitem : ∃ item ∈ (run stepInventory .start observedRun).db.items.rows,
      item.inventoryStatus = .available ∧ item.reservedByQuoteId = some "quote" := by
    decide +kernel
  obtain ⟨item, hmem, hstatus, hquote⟩ := hitem
  have hnone := (hconsistent.available item hmem hstatus).1.1
  rw [hquote] at hnone
  cases hnone

end AbrChin.Inventory
