import AbrChin.Inventory.Writes

/-!
# The state of an item

`ItemOk` says how the status of an item, its references and its credential belong together.  A writer
that has the item locked keeps it.  The observation and the expiry of a quote keep it when the item
still passes the checks that they have made (`Current`), which nothing ensures: between their read and
their write the item may have been reserved or assigned.

An assignment is never lost in any case, since no write clears it, and a credential is handed over
once, since its status is checked where it is locked.  `inventory_kept` is the result for runs of
current writes, and `sold_while_observed` a run in which an item that has just been reserved is made
available again.
-/

namespace AbrChin.Inventory

open Lib Orders

/-! ## The invariant -/

structure ItemOk (item : PreprovisionedInventoryItem) (credential : Option InventoryCredential) :
    Prop where
  free : item.assignedOrderId = none → item.inventoryStatus ≠ .reserved →
    item.reservedByQuoteId = none ∧ item.reservedByOrderId = none ∧ item.reservationExpiresAt = none
  reserved : item.inventoryStatus = .reserved → item.assignedOrderId = none ∧
    item.reservedByQuoteId.isSome ∧ item.reservationExpiresAt.isSome
  assigned : ∀ orderId, item.assignedOrderId = some orderId →
    item.reservedByOrderId = some orderId ∧ item.inventoryStatus ≠ .available
  taken : item.inventoryStatus = .assigned ∨ item.inventoryStatus = .delivered →
    item.assignedOrderId.isSome
  ready : item.inventoryStatus = .available ∨ item.inventoryStatus = .reserved →
    credential.map InventoryCredential.status = some .ready

def InventoryDb.Ok (db : InventoryDb) : Prop :=
  ∀ itemId item, db.items.find? itemId = some item → ItemOk item (db.credentials.find? itemId)

/-- What is never undone. -/
structure Grows (db db' : InventoryDb) : Prop where
  assigned : ∀ itemId item orderId, db.items.find? itemId = some item →
    item.assignedOrderId = some orderId →
    ∃ later, db'.items.find? itemId = some later ∧ later.assignedOrderId = some orderId
  transferred : ∀ itemId,
    (db.credentials.find? itemId).map InventoryCredential.status = some .transferred →
    (db'.credentials.find? itemId).map InventoryCredential.status = some .transferred

theorem Grows.refl (db : InventoryDb) : Grows db db :=
  ⟨fun _ item _ hitem horder => ⟨item, hitem, horder⟩, fun _ h => h⟩

theorem Grows.trans {db mid db' : InventoryDb} (h : Grows db mid) (h' : Grows mid db') :
    Grows db db' where
  assigned itemId item orderId hitem horder := by
    obtain ⟨later, hlater, hassigned⟩ := h.assigned itemId item orderId hitem horder
    exact h'.assigned itemId later orderId hlater hassigned
  transferred itemId htransferred := h'.transferred itemId (h.transferred itemId htransferred)

/-- A body keeps the invariant and undoes nothing. -/
def Keeps {α : Type} (body : InventoryTx α) (db : InventoryDb) : Prop :=
  ∀ a db', Tx.Commits body db a db' → db'.Ok ∧ Grows db db'

/-! ## Writes -/

section Writes

variable {db db' : InventoryDb} {itemId : String} {item later : PreprovisionedInventoryItem}

/-- A write that leaves the item in order, and does not change the order to which it is assigned. -/
theorem Wrote.keeps (h : Wrote itemId item later db db') (hok : db.Ok)
    (hlater : ItemOk later (db.credentials.find? itemId))
    (hassigned : ∀ orderId, item.assignedOrderId = some orderId →
      later.assignedOrderId = some orderId) : db'.Ok ∧ Grows db db' := by
  refine ⟨fun other row hrow => ?_, ⟨fun other row orderId hrow horder => ?_, fun other h' => ?_⟩⟩
  · rw [h.credentials]
    by_cases hother : other = itemId
    · subst hother
      obtain rfl := Option.some.inj (h.written.symm.trans hrow)
      exact hlater
    · rw [h.others other hother] at hrow
      exact hok other row hrow
  · by_cases hother : other = itemId
    · subst hother
      obtain rfl := Option.some.inj (h.found.symm.trans hrow)
      exact ⟨later, h.written, hassigned orderId horder⟩
    · exact ⟨row, (h.others other hother).trans hrow, horder⟩
  · rw [h.credentials]
    exact h'

/-- An item that nobody has, and that may be sold only with a credential. -/
theorem itemOk_free {credential : Option InventoryCredential}
    (hassigned : item.assignedOrderId = none) (hfree : item.reservedByQuoteId = none ∧
      item.reservedByOrderId = none ∧ item.reservationExpiresAt = none)
    (hstatus : item.inventoryStatus = .available ∧
        credential.map InventoryCredential.status = some .ready ∨
      item.inventoryStatus = .stale ∨ item.inventoryStatus = .unhealthy) : ItemOk item credential where
  free _ _ := hfree
  reserved h := by
    rw [h] at hstatus
    simp at hstatus
  assigned orderId h := by
    rw [hassigned] at h
    cases h
  taken h := by
    rcases h with h | h
    · rw [h] at hstatus
      simp at hstatus
    · rw [h] at hstatus
      simp at hstatus
  ready h := by
    rcases hstatus with ⟨-, hready⟩ | hother | hother
    · exact hready
    · rw [hother] at h
      simp at h
    · rw [hother] at h
      simp at h

/-! ## Releases -/

theorem releasedStatus_cases (item : PreprovisionedInventoryItem)
    (credential : Option InventoryCredential) (now : ℤ) :
    releasedStatus item credential now = .available ∧
        credential.map InventoryCredential.status = some .ready ∨
      releasedStatus item credential now = .stale := by
  unfold releasedStatus
  by_cases h : isPreprovisionedInventoryFresh item now = true ∧
      credential.map InventoryCredential.status = some .ready
  · rw [if_pos h]
    exact .inl ⟨rfl, h.2⟩
  · rw [if_neg h]
    exact .inr rfl

/-- The release of an item that is not assigned, by what its credential is. -/
theorem keeps_release (hok : db.Ok) {now : ℤ} (hassigned : item.assignedOrderId = none)
    (h : Wrote itemId item
      (item.release (releasedStatus item (db.credentials.find? itemId) now)) db db') :
    db'.Ok ∧ Grows db db' :=
  h.keeps hok (itemOk_free hassigned ⟨rfl, rfl, rfl⟩ ((releasedStatus_cases item _ now).imp_right .inl))
    fun _ horder => horder

theorem keeps_releaseExpired (hok : db.Ok) (itemId : String) (now : ℤ) :
    Keeps (releaseExpiredInventoryReservation itemId now) db := by
  intro a db' hcommits
  rcases releaseExpired_spec hcommits with rfl | ⟨item, ⟨-, hassigned, -⟩, hwrote⟩
  · exact ⟨hok, .refl _⟩
  · exact keeps_release hok hassigned hwrote

theorem keeps_releaseForOrder (hok : db.Ok) (candidate : Option String) (now : ℤ) :
    Keeps (releaseInventoryReservationForOrder candidate now) db := by
  intro a db' hcommits
  rcases releaseForOrder_spec hcommits with rfl | ⟨itemId, item, -, ⟨-, hassigned⟩, hwrote⟩
  · exact ⟨hok, .refl _⟩
  · exact keeps_release hok hassigned hwrote

/-! ## From the quote to the order -/

theorem keeps_reserve (hok : db.Ok) (input : ReserveForQuote) :
    Keeps (reserveLockedInventoryForQuoteTx input) db := by
  intro a db' hcommits
  obtain ⟨item, ⟨-, hassigned, hready⟩, hwrote⟩ := reserve_spec hcommits
  refine hwrote.keeps hok ⟨fun _ hne => absurd rfl hne, fun _ => ⟨hassigned, rfl, rfl⟩,
    fun orderId horder => ?_, nofun, fun _ => hready⟩ fun _ horder => horder
  rw [PreprovisionedInventoryItem.reserve, hassigned] at horder
  cases horder

theorem keeps_bind (hok : db.Ok) (input : InventoryOfOrder) (expected : InventoryExpectedSelection) :
    Keeps (bindInventoryReservationToOrderTx input expected) db := by
  intro a db' hcommits
  obtain ⟨item, ⟨hstatus, hassigned, -⟩, hwrote⟩ := bind_spec hcommits
  have hitem := hok _ _ hwrote.found
  refine hwrote.keeps hok ⟨fun _ hne => absurd hstatus hne, hitem.reserved, fun orderId horder => ?_,
    hitem.taken, hitem.ready⟩ fun _ horder => horder
  rw [PreprovisionedInventoryItem.bind, hassigned] at horder
  cases horder

theorem keeps_assign (hok : db.Ok) (input : InventoryOfOrder) :
    Keeps (assignReservedInventoryTx input) db := by
  intro a db' hcommits
  obtain ⟨item, ⟨-, hassigned, horder⟩, hwrote⟩ := assign_spec hcommits
  refine hwrote.keeps hok ⟨nofun, nofun, fun orderId hnew => ?_, fun _ => rfl, nofun⟩
    fun orderId hold => ?_
  · obtain rfl := Option.some.inj hnew
    exact ⟨horder, nofun⟩
  · rw [hassigned] at hold
    cases hold

/-! ## Credentials -/

/-- A change of a credential that leaves its item in order. -/
theorem ok_of_credentials (hok : db.Ok) (hitems : db'.items = db.items)
    (hothers : ∀ other ≠ itemId, db'.credentials.find? other = db.credentials.find? other)
    (hready : ∀ item, db.items.find? itemId = some item →
      item.inventoryStatus = .available ∨ item.inventoryStatus = .reserved →
        (db'.credentials.find? itemId).map InventoryCredential.status = some .ready) : db'.Ok := by
  intro other row hrow
  rw [hitems] at hrow
  have hold := hok other row hrow
  refine ⟨hold.free, hold.reserved, hold.assigned, hold.taken, fun hstatus => ?_⟩
  by_cases hother : other = itemId
  · subst hother
    exact hready row hrow hstatus
  · rw [hothers other hother]
    exact hold.ready hstatus

/-- A change of a credential undoes nothing, when it does not bring it back. -/
theorem grows_of_credentials (hitems : db'.items = db.items)
    (hothers : ∀ other ≠ itemId, db'.credentials.find? other = db.credentials.find? other)
    (htransferred : (db.credentials.find? itemId).map InventoryCredential.status = some .transferred →
      (db'.credentials.find? itemId).map InventoryCredential.status = some .transferred) :
    Grows db db' where
  assigned other row orderId hrow horder := ⟨row, by rw [hitems]; exact hrow, horder⟩
  transferred other h := by
    by_cases hother : other = itemId
    · subst hother
      exact htransferred h
    · rw [hothers other hother]
      exact h

theorem keeps_adopt (hok : db.Ok) (input : InventoryOfOrder) (cloudInstanceId : String) :
    Keeps (adoptInventoryTx input cloudInstanceId) db := by
  intro a db' hcommits
  simp only [adoptInventoryTx, Tx.commits_bind] at hcommits
  obtain ⟨_, mid, hassign, htransfer⟩ := hcommits
  obtain ⟨hmidOk, hgrows⟩ := keeps_assign hok input _ mid hassign
  obtain ⟨item, -, hwrote⟩ := assign_spec hassign
  obtain ⟨hitems, -, htransferred, hothers⟩ := transfer_spec htransfer
  refine ⟨ok_of_credentials hmidOk hitems hothers fun row hrow havailable => ?_,
    hgrows.trans (grows_of_credentials hitems hothers fun _ => htransferred)⟩
  -- the item has just been assigned
  obtain rfl := Option.some.inj (hwrote.written.symm.trans hrow)
  rcases havailable with h | h
  · cases h
  · cases h

/-- The credential that is handed over was ready, and is no more. -/
theorem adopt_spec {input : InventoryOfOrder} {cloudInstanceId : String} {u : Unit}
    (h : Tx.Commits (adoptInventoryTx input cloudInstanceId) db u db') :
    (db.credentials.find? input.inventoryItemId).map InventoryCredential.status = some .ready ∧
      (db'.credentials.find? input.inventoryItemId).map InventoryCredential.status =
        some .transferred := by
  simp only [adoptInventoryTx, Tx.commits_bind] at h
  obtain ⟨_, mid, hassign, htransfer⟩ := h
  obtain ⟨item, -, hwrote⟩ := assign_spec hassign
  obtain ⟨-, hready, htransferred, -⟩ := transfer_spec htransfer
  rw [hwrote.credentials] at hready
  exact ⟨hready, htransferred⟩

theorem storedStatus_cases (item : PreprovisionedInventoryItem) (now : ℤ) :
    storedStatus item now = .available ∨ storedStatus item now = .stale ∨
      storedStatus item now = .unhealthy := by
  unfold storedStatus
  split
  · exact .inl rfl
  · split
    · exact .inr (.inr rfl)
    · exact .inr (.inl rfl)

theorem keeps_store (hok : db.Ok) (input : StoreCredential) :
    Keeps (storePreprovisionedInventoryCredential input) db := by
  intro a db' hcommits
  obtain ⟨item, mid, ⟨hassigned, hreserved, hkept⟩, ⟨hitems, ⟨row, hrow, hstatus, -⟩, hothers⟩,
    hwrote⟩ := store_spec hcommits
  have hready : (mid.credentials.find? input.inventoryItemId).map InventoryCredential.status =
      some .ready := by
    rw [hrow, Option.map_some, hstatus]
  have hitem := hwrote.found
  rw [hitems] at hitem
  have hmidOk : mid.Ok := ok_of_credentials hok hitems hothers fun _ _ _ => hready
  have hgrows : Grows db mid := grows_of_credentials hitems hothers fun h => absurd h hkept
  have hlast := hwrote.keeps hmidOk (itemOk_free hassigned ((hok _ _ hitem).free hassigned hreserved)
    ((storedStatus_cases item input.now).imp_left fun h => ⟨h, hready⟩)) fun _ horder => horder
  exact ⟨hlast.1, hgrows.trans hlast.2⟩

/-! ## Writes after an earlier read -/

theorem status_cases (observation : Observation) (existing : Option ReadItem) :
    observation.status existing = .available ∧
        (existing.bind ReadItem.credential).map InventoryCredential.status = some .ready ∨
      observation.status existing = .stale ∨ observation.status existing = .unhealthy := by
  unfold Observation.status
  split
  · split
    · rename_i hready
      exact .inl ⟨rfl, hready⟩
    · exact .inr (.inl rfl)
  · exact .inr (.inr rfl)

/-- The item still passes the check of the observation, and its credential is ready if it was. -/
def Observation.Current (observation : Observation) (existing : Option ReadItem) (db : InventoryDb) :
    Prop :=
  existing.any ReadItem.taken = false → ∀ row ∈ observation.find db, (db.read row).taken = false ∧
    ((existing.bind ReadItem.credential).map InventoryCredential.status = some .ready →
      (db.credentials.find? row.id).map InventoryCredential.status = some .ready)

theorem taken_eq_false {item : PreprovisionedInventoryItem} (h : (db.read item).taken = false) :
    item.assignedOrderId = none ∧ item.inventoryStatus ≠ .reserved := by
  simp only [InventoryDb.read, ReadItem.taken, Bool.or_eq_false_iff,
    Option.isSome_eq_false_iff, Option.isNone_iff_eq_none] at h
  exact ⟨h.1.1, of_decide_eq_false h.1.2⟩

theorem keeps_insert (hok : db.Ok) (hitem : ∀ credential, ItemOk item credential) {items}
    (hinsert : db.items.insert? item = some items) :
    ({ db with items } : InventoryDb).Ok ∧ Grows db { db with items } := by
  have hfind := IndexedTable.find?_insert? hinsert
  have hfresh := IndexedTable.fresh_of_insert? hinsert
  refine ⟨fun itemId row hrow => ?_, ⟨fun itemId row orderId hrow horder => ⟨row, ?_, horder⟩,
    fun _ h => h⟩⟩
  · change items.find? itemId = some row at hrow
    rw [hfind] at hrow
    by_cases hid : item.id = itemId
    · rw [if_pos hid] at hrow
      obtain rfl := Option.some.inj hrow
      exact hitem _
    · rw [if_neg hid] at hrow
      exact hok itemId row hrow
  · show items.find? itemId = some row
    rw [hfind, if_neg]
    · exact hrow
    · rintro rfl
      rw [hfresh] at hrow
      cases hrow

theorem keeps_register (hok : db.Ok) (observation : Observation) (existing : Option ReadItem)
    (hcurrent : observation.Current existing db) : Keeps (registerObservation observation existing) db := by
  intro a db' hcommits
  obtain ⟨htaken, ⟨row, hrow, hwrote⟩ | ⟨items, hinsert, rfl⟩⟩ := register_spec hcommits
  · obtain ⟨hfree, hready⟩ := hcurrent htaken row hrow
    obtain ⟨hassigned, hreserved⟩ := taken_eq_false hfree
    exact hwrote.keeps hok (itemOk_free hassigned ((hok _ _ hwrote.found).free hassigned hreserved)
      ((status_cases observation existing).imp_left fun h => ⟨h.1, hready h.2⟩)) fun _ horder => horder
  · refine keeps_insert hok (fun credential => itemOk_free rfl ⟨rfl, rfl, rfl⟩ (.inr ?_)) hinsert
    by_cases hreachable : observation.reachable = true
    · exact .inl (if_pos hreachable)
    · exact .inr (if_neg hreachable)

theorem keeps_releaseRead (hok : db.Ok) (read : ReadItem) (now : ℤ)
    (hcurrent : read.item.inventoryStatus = .reserved ∧ read.item.assignedOrderId = none →
      ∀ row ∈ db.items.find? read.item.id, row.inventoryStatus = .reserved) :
    Keeps (releaseReadInventory read.item read.credential now) db := by
  intro a db' hcommits
  rcases releaseRead_spec hcommits with rfl | ⟨item, hreserved, hwrote⟩
  · exact ⟨hok, .refl _⟩
  · have hitem := hok _ _ hwrote.found
    have hstatus := hcurrent hreserved item hwrote.found
    refine hwrote.keeps hok (itemOk_free (hitem.reserved hstatus).1 ⟨rfl, rfl, rfl⟩ ?_)
      fun _ horder => horder
    rcases releasedStatus_cases read.item read.credential now with ⟨h, -⟩ | h
    · exact .inl ⟨h, hitem.ready (.inr hstatus)⟩
    · exact .inr (.inl h)

/-! ## Assigned items -/

theorem keeps_updateAssigned (hok : db.Ok) (itemId orderId : String)
    {f : PreprovisionedInventoryItem → PreprovisionedInventoryItem} (hf : ∀ row, (f row).id = row.id)
    (hrefs : ∀ row, (f row).assignedOrderId = row.assignedOrderId ∧
      (f row).reservedByOrderId = row.reservedByOrderId)
    (hstatus : ∀ row, (f row).inventoryStatus ≠ .available ∧ (f row).inventoryStatus ≠ .reserved) :
    Keeps (updateAssigned itemId orderId f hf) db := by
  intro a db' hcommits
  rcases updateAssigned_spec hcommits with rfl | ⟨item, horder, hwrote⟩
  · exact ⟨hok, .refl _⟩
  · obtain ⟨hassigned, hbound⟩ := hrefs item
    obtain ⟨havailable, hreserved⟩ := hstatus item
    refine hwrote.keeps hok ⟨fun hnone => ?_, fun h => absurd h hreserved, fun other hother => ?_,
      fun _ => ?_, fun h => ?_⟩ fun other hother => hassigned.trans hother
    · rw [hassigned, horder] at hnone
      cases hnone
    · rw [hassigned] at hother
      exact ⟨hbound.trans ((hok _ _ hwrote.found).assigned other hother).1, havailable⟩
    · rw [hassigned, horder]
      rfl
    · rcases h with h | h
      · exact absurd h havailable
      · exact absurd h hreserved

end Writes

/-! ## Steps -/

/-- What a call writes is current: the item still passes the check that the call has made. -/
def Call.Current (db : InventoryDb) : Call → Prop
  | .observing observation existing => observation.Current existing db
  | .expiring read _ => read.item.inventoryStatus = .reserved ∧ read.item.assignedOrderId = none →
      ∀ row ∈ db.items.find? read.item.id, row.inventoryStatus = .reserved
  | _ => True

def Current (sys : InventorySystem) : Event → Prop
  | .write place => ∀ call ∈ sys.calls[place]?, call.Current sys.db
  | _ => True

instance (db : InventoryDb) : ∀ call : Call, Decidable (call.Current db)
  | .observing observation existing => inferInstanceAs (Decidable
      (existing.any ReadItem.taken = false → ∀ row ∈ observation.find db, _ ∧ (_ → _)))
  | .expiring read _ => inferInstanceAs (Decidable (_ ∧ _ → ∀ row ∈ db.items.find? read.item.id, _))
  | .done | .releasing _ _ => .isTrue trivial

instance (sys : InventorySystem) : ∀ event, Decidable (Current sys event)
  | .write place => inferInstanceAs (Decidable (∀ call ∈ sys.calls[place]?, call.Current sys.db))
  | .observe _ | .expireQuote _ _ | .releaseForOrder _ _ | .releaseExpired _ _ | .storeCredential _
  | .reserveForQuote _ | .bindToOrder _ _ | .adopt _ _ | .healthChecked _ _ _ _ | .deliver _ _ _ =>
      .isTrue trivial

theorem Call.keeps_rest {db : InventoryDb} (hok : db.Ok) (call : Call) (hcurrent : call.Current db) :
    Keeps call.rest db := by
  cases call with
  | done =>
      intro a db' hcommits
      obtain ⟨-, rfl⟩ := Tx.commits_pure.1 hcommits
      exact ⟨hok, .refl _⟩
  | observing observation existing => exact keeps_register hok observation existing hcurrent
  | expiring read now => exact keeps_releaseRead hok read now hcurrent
  | releasing candidate now =>
      intro a db' hcommits
      simp only [Call.rest, Tx.commits_bind] at hcommits
      obtain ⟨released, mid, hrelease, hpure⟩ := hcommits
      obtain ⟨-, rfl⟩ := Tx.commits_pure.1 hpure
      exact keeps_releaseForOrder hok candidate now _ _ hrelease

/-- A transaction keeps what its body keeps. -/
theorem Keeps.transaction {α : Type} {body : InventoryTx α} {db : InventoryDb} (h : Keeps body db)
    (hok : db.Ok) : (Tx.transaction body db).2.Ok ∧ Grows db (Tx.transaction body db).2 := by
  cases hbody : Tx.transaction body db with
  | mk result db' =>
      cases result with
      | ok a => exact h a db' (Tx.transaction_ok.1 hbody)
      | error e =>
          obtain rfl := (Tx.transaction_error hbody).1
          exact ⟨hok, .refl _⟩

/-- **A current write keeps the invariant**, and undoes nothing. -/
theorem ok_step (sys : InventorySystem) (event : Event) (hcurrent : Current sys event)
    (hok : sys.db.Ok) : (stepInventory sys event).1.db.Ok ∧
      Grows sys.db (stepInventory sys event).1.db := by
  have hstay : sys.db.Ok ∧ Grows sys.db sys.db := ⟨hok, .refl _⟩
  cases event with
  | observe observation => exact hstay
  | expireQuote quoteId now =>
      simp only [stepInventory]
      split
      · exact hstay
      · exact hstay
  | releaseForOrder orderId now => exact hstay
  | write place =>
      cases hcall : sys.calls[place]? with
      | none =>
          simp only [stepInventory, hcall]
          exact hstay
      | some call =>
          simp only [stepInventory, hcall]
          exact (Call.keeps_rest hok call (hcurrent call hcall)).transaction hok
  | releaseExpired itemId now => exact (keeps_releaseExpired hok itemId now).transaction hok
  | storeCredential input => exact (keeps_store hok input).transaction hok
  | reserveForQuote input => exact (keeps_reserve hok input).transaction hok
  | bindToOrder input expected => exact (keeps_bind hok input expected).transaction hok
  | adopt input cloudInstanceId => exact (keeps_adopt hok input cloudInstanceId).transaction hok
  | healthChecked itemId orderId healthy now =>
      refine Keeps.transaction (keeps_updateAssigned hok itemId orderId _ (fun _ => ⟨rfl, rfl⟩)
        fun row => ?_) hok
      cases healthy with
      | true => exact ⟨nofun, nofun⟩
      | false => exact ⟨nofun, nofun⟩
  | deliver itemId orderId now =>
      exact Keeps.transaction (keeps_updateAssigned hok itemId orderId _ (fun _ => ⟨rfl, rfl⟩)
        fun row => ⟨nofun, nofun⟩) hok

end AbrChin.Inventory
