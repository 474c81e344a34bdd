import AbrChin.Inventory.System

/-!
# What the writers of the inventory do

One lemma a writer: when it commits, it has found an item in the state that its checks ask for, and has
written that item alone (`Wrote`), or it has changed nothing.
-/

namespace AbrChin.Inventory

open Lib Orders

/-- One item has been written, and no credential. -/
structure Wrote (itemId : String) (item later : PreprovisionedInventoryItem) (db db' : InventoryDb) :
    Prop where
  found : db.items.find? itemId = some item
  written : db'.items.find? itemId = some later
  others : ∀ other ≠ itemId, db'.items.find? other = db.items.find? other
  credentials : db'.credentials = db.credentials

section Writes

variable {db db' : InventoryDb} {itemId : String} {u : Unit}
  {f : PreprovisionedInventoryItem → PreprovisionedInventoryItem} {hf : ∀ row, (f row).id = row.id}

theorem updateItem_spec (h : Tx.Commits (updateItem itemId f hf) db u db') :
    ∃ item, Wrote itemId item (f item) db db' := by
  simp only [updateItem, Tx.commits_attempt] at h
  obtain ⟨items, hupdate, rfl⟩ := Option.map_eq_some_iff.1 h
  obtain ⟨item, hitem, -, hmodify⟩ := IndexedTable.updateIf?_eq_some.1 hupdate
  refine ⟨item, hitem, ?_, fun other hother => ?_, rfl⟩
  · rw [IndexedTable.find?_modify? hmodify, if_pos rfl, hitem]
    rfl
  · rw [IndexedTable.find?_modify? hmodify, if_neg hother]

variable {item : PreprovisionedInventoryItem}

/-- The item that an update writes is the one that has been found before. -/
theorem wrote_of_updateItem (hitem : db.items.find? itemId = some item)
    (h : Tx.Commits (updateItem itemId f hf) db u db') : Wrote itemId item (f item) db db' := by
  obtain ⟨other, hwrote⟩ := updateItem_spec h
  obtain rfl := Option.some.inj (hitem.symm.trans hwrote.found)
  exact hwrote

theorem updateItemIf_spec {e : String} {p : PreprovisionedInventoryItem → Bool}
    (h : Tx.Commits (updateItemIf e itemId p f hf) db u db') :
    ∃ item, p item = true ∧ Wrote itemId item (f item) db db' := by
  simp only [updateItemIf, Tx.commits_bind, Tx.commits_get, Tx.commits_throwIf] at h
  obtain ⟨_, _, ⟨rfl, rfl⟩, _, db, ⟨hp, rfl⟩, hupdate⟩ := h
  have hany : (db.items.find? itemId).any p = true := by simpa using hp
  obtain ⟨item, hitem, hp⟩ := (Option.any_eq_true _ _).1 hany
  exact ⟨item, hp, wrote_of_updateItem hitem hupdate⟩

theorem lockInventory_spec {e : String} {read : PreprovisionedInventoryItem × Option InventoryCredential}
    (h : Tx.Commits (lockInventoryAndCredentialTx e itemId) db read db') :
    db.items.find? itemId = some read.1 ∧ read.2 = db.credentials.find? itemId ∧ db' = db := by
  simp only [lockInventoryAndCredentialTx, Tx.commits_bind, Tx.commits_get, Tx.commits_orThrow,
    Tx.commits_pure] at h
  obtain ⟨seen, mid, ⟨rfl, rfl⟩, item, mid, ⟨hitem, rfl⟩, rfl, rfl⟩ := h
  exact ⟨hitem, rfl, rfl⟩

/-! ## Releases -/

variable {now : ℤ} {released : Bool}

theorem releaseExpired_spec
    (h : Tx.Commits (releaseExpiredInventoryReservation itemId now) db released db') :
    db' = db ∨ ∃ item, (item.inventoryStatus = .reserved ∧ item.assignedOrderId = none ∧
        item.reservationExpiresAt.any (· ≤ now) = true) ∧
      Wrote itemId item (item.release (releasedStatus item (db.credentials.find? itemId) now)) db db' := by
  simp only [releaseExpiredInventoryReservation, Tx.commits_bind, Tx.commits_get] at h
  obtain ⟨_, db, ⟨rfl, rfl⟩, h⟩ := h
  cases hitem : db.items.find? itemId with
  | none =>
      rw [hitem] at h
      exact .inl (Tx.commits_pure.1 h).2
  | some item =>
      rw [hitem] at h
      rcases Tx.commits_ite.1 h with ⟨hdue, h⟩ | ⟨-, h⟩
      · obtain ⟨_, mid, hupdate, hpure⟩ := Tx.commits_bind.1 h
        obtain ⟨-, rfl⟩ := Tx.commits_pure.1 hpure
        exact .inr ⟨item, hdue, wrote_of_updateItem hitem hupdate⟩
      · exact .inl (Tx.commits_pure.1 h).2

theorem releaseForOrder_spec {candidate : Option String}
    (h : Tx.Commits (releaseInventoryReservationForOrder candidate now) db released db') :
    db' = db ∨ ∃ itemId item, candidate = some itemId ∧
      (item.inventoryStatus = .reserved ∧ item.assignedOrderId = none) ∧
      Wrote itemId item (item.release (releasedStatus item (db.credentials.find? itemId) now)) db db' := by
  simp only [releaseInventoryReservationForOrder, Tx.commits_bind, Tx.commits_get] at h
  obtain ⟨_, db, ⟨rfl, rfl⟩, h⟩ := h
  cases hitem : candidate.bind db.items.find? with
  | none =>
      rw [hitem] at h
      exact .inl (Tx.commits_pure.1 h).2
  | some item =>
      rw [hitem] at h
      obtain ⟨itemId, hcandidate, hfind⟩ := Option.bind_eq_some_iff.1 hitem
      obtain rfl : item.id = itemId := (IndexedTable.find?_eq_some.1 hfind).2
      rcases Tx.commits_ite.1 h with ⟨hreserved, h⟩ | ⟨-, h⟩
      · obtain ⟨_, mid, hupdate, hpure⟩ := Tx.commits_bind.1 h
        obtain ⟨-, rfl⟩ := Tx.commits_pure.1 hpure
        exact .inr ⟨item.id, item, hcandidate, hreserved, wrote_of_updateItem hfind hupdate⟩
      · exact .inl (Tx.commits_pure.1 h).2

theorem releaseRead_spec {read : ReadItem}
    (h : Tx.Commits (releaseReadInventory read.item read.credential now) db u db') :
    db' = db ∨ ∃ item, (read.item.inventoryStatus = .reserved ∧ read.item.assignedOrderId = none) ∧
      Wrote read.item.id item (item.release (releasedStatus read.item read.credential now)) db db' := by
  rw [releaseReadInventory] at h
  rcases Tx.commits_ite.1 h with ⟨hreserved, hupdate⟩ | ⟨-, hpure⟩
  · obtain ⟨item, hwrote⟩ := updateItem_spec hupdate
    exact .inr ⟨item, hreserved, hwrote⟩
  · exact .inl (Tx.commits_pure.1 hpure).2

/-! ## From the quote to the order -/

theorem reserve_spec {input : ReserveForQuote}
    (h : Tx.Commits (reserveLockedInventoryForQuoteTx input) db u db') :
    ∃ item, (item.inventoryStatus = .available ∧ item.assignedOrderId = none ∧
        (db.credentials.find? input.inventoryItemId).map InventoryCredential.status = some .ready) ∧
      Wrote input.inventoryItemId item
        (item.reserve input.quoteId input.revision input.now input.expiresAt) db db' := by
  simp only [reserveLockedInventoryForQuoteTx, Tx.commits_bind, Tx.commits_ofExcept] at h
  obtain ⟨⟨item, credential⟩, _, hlock, _, db, ⟨heligible, rfl⟩, hupdate⟩ := h
  obtain ⟨hitem, hcredential, rfl⟩ := lockInventory_spec hlock
  obtain ⟨-, ⟨ready, hready, hisReady⟩, -⟩ := eligible_spec (by simp) heligible
  obtain ⟨row, hp, hwrote⟩ := updateItemIf_spec hupdate
  simp only [Bool.and_eq_true, decide_eq_true_eq] at hp
  refine ⟨row, ⟨hp.1.1.1, hp.1.2, ?_⟩, hwrote⟩
  rw [← hcredential, hready, Option.map_some, InventoryCredential.status_of_isReady hisReady]

variable {quoteId : String}

theorem holds_reservedQuote
    (h : InventoryEligibilityStage.holds item now (.reservedQuote quoteId) = .ok u) :
    item.isReserved now = true ∧ item.reservedByQuoteId = some quoteId ∧
      item.reservedByOrderId = none :=
  not_not.1 (throwIf_eq_ok.1 h)

variable {orderId : String}

theorem holds_reservedOrder {revision : ℕ}
    (h : InventoryEligibilityStage.holds item now (.reservedOrder quoteId orderId revision) = .ok u) :
    item.isReserved now = true ∧ item.reservedByQuoteId = some quoteId ∧
      item.reservedByOrderId = some orderId ∧ item.reservedRevision = some revision :=
  not_not.1 (throwIf_eq_ok.1 h)

variable {input : InventoryOfOrder}

theorem bind_spec {expected : InventoryExpectedSelection}
    (h : Tx.Commits (bindInventoryReservationToOrderTx input expected) db u db') :
    ∃ item, (item.inventoryStatus = .reserved ∧ item.assignedOrderId = none ∧
        item.reservedByOrderId = none) ∧
      Wrote input.inventoryItemId item (item.bind input.orderId input.revision) db db' := by
  simp only [bindInventoryReservationToOrderTx, Tx.commits_bind, Tx.commits_ofExcept] at h
  obtain ⟨⟨item, credential⟩, _, hlock, _, db, ⟨heligible, rfl⟩, hupdate⟩ := h
  obtain ⟨hitem, -, rfl⟩ := lockInventory_spec hlock
  have hid : item.id = input.inventoryItemId := (IndexedTable.find?_eq_some.1 hitem).2
  dsimp only at hupdate
  rw [hid] at hupdate
  obtain ⟨-, -, _, hstage⟩ := eligible_spec (by simp) heligible
  obtain ⟨hreserved, -, hfree⟩ := holds_reservedQuote hstage
  obtain ⟨hstatus, hassigned, -⟩ := isReserved_iff.1 hreserved
  exact ⟨item, ⟨hstatus, hassigned, hfree⟩, wrote_of_updateItem hitem hupdate⟩

/-- A payment finds its item assigned to the order already, or reserved for it with a credential that can
be handed over. -/
theorem lockReserved_spec {expected : InventoryExpectedSelection}
    (h : Tx.Commits (lockReservedInventoryForPaymentTx input expected) db item db') :
    db' = db ∧ db.items.find? input.inventoryItemId = some item ∧
      (item.assignedOrderId = some input.orderId ∨
        (item.isReserved input.now = true ∧ item.reservedByQuoteId = some input.quoteId ∧
          item.reservedByOrderId = some input.orderId ∧
          item.reservedRevision = some input.revision) ∧
        ∃ ready, db.credentials.find? input.inventoryItemId = some ready ∧ ready.isReady = true) := by
  obtain ⟨⟨row, credential⟩, mid, hlock, hcheck⟩ := Tx.commits_bind.1 h
  obtain ⟨hitem, hcredential, rfl⟩ := lockInventory_spec hlock
  dsimp only at hcheck hcredential
  rcases Tx.commits_ite.1 hcheck with ⟨hassigned, hcheck⟩ | ⟨-, hcheck⟩
  · simp only [Tx.commits_bind, Tx.commits_ofExcept, Tx.commits_pure] at hcheck
    obtain ⟨_, _, ⟨-, rfl⟩, rfl, rfl⟩ := hcheck
    exact ⟨rfl, hitem, .inl hassigned.2.1⟩
  · simp only [Tx.commits_bind, Tx.commits_ofExcept, Tx.commits_pure] at hcheck
    obtain ⟨_, _, ⟨heligible, rfl⟩, rfl, rfl⟩ := hcheck
    obtain ⟨-, hready, _, hstage⟩ := eligible_spec (by simp) heligible
    rw [hcredential] at hready
    exact ⟨rfl, hitem, .inr ⟨holds_reservedOrder hstage, hready⟩⟩

theorem assign_spec (h : Tx.Commits (assignReservedInventoryTx input) db u db') :
    ∃ item, (item.inventoryStatus = .reserved ∧ item.assignedOrderId = none ∧
        item.reservedByOrderId = some input.orderId) ∧
      Wrote input.inventoryItemId item (item.assign input.orderId input.now) db db' := by
  simp only [assignReservedInventoryTx, Tx.commits_bind, Tx.commits_ofExcept] at h
  obtain ⟨⟨item, credential⟩, _, hlock, _, db, ⟨-, rfl⟩, hupdate⟩ := h
  obtain ⟨-, -, rfl⟩ := lockInventory_spec hlock
  obtain ⟨row, hp, hwrote⟩ := updateItemIf_spec hupdate
  simp only [Bool.and_eq_true, decide_eq_true_eq] at hp
  exact ⟨row, ⟨hp.1.1.1, hp.2, hp.1.2⟩, hwrote⟩

/-! ## Credentials -/

theorem transfer_spec {cloudInstanceId : String}
    (h : Tx.Commits (transferInventoryCredentialToInstanceTx itemId cloudInstanceId now) db u db') :
    db'.items = db.items ∧
      (db.credentials.find? itemId).map InventoryCredential.status = some .ready ∧
      (db'.credentials.find? itemId).map InventoryCredential.status = some .transferred ∧
      ∀ other ≠ itemId, db'.credentials.find? other = db.credentials.find? other := by
  simp only [transferInventoryCredentialToInstanceTx, Tx.commits_bind, Tx.commits_get,
    Tx.commits_orThrow, Tx.commits_throwIf, Tx.commits_attempt] at h
  obtain ⟨_, _, ⟨rfl, rfl⟩, credential, _, ⟨hcredential, rfl⟩, _, db, ⟨hready, rfl⟩, _, _, hinsert,
    hupdate⟩ := h
  obtain ⟨created, -, rfl⟩ := Option.map_eq_some_iff.1 hinsert
  obtain ⟨credentials, hmodify, rfl⟩ := Option.map_eq_some_iff.1 hupdate
  obtain ⟨row, hrow, -, rfl⟩ := Table.updateIf?_eq_some.1 hmodify
  have hfind : ∀ other, (db.credentials.modify itemId (InventoryCredential.transfer now)
      fun _ => rfl).find? other = if other = itemId
        then (db.credentials.find? itemId).map (InventoryCredential.transfer now)
        else db.credentials.find? other := Table.find?_modify _
  change db.credentials.find? itemId = some row at hrow
  refine ⟨rfl, ?_, ?_, fun other hother => ?_⟩
  · rw [hcredential, Option.map_some, not_not.1 hready]
  · have hsame := hfind itemId
    rw [if_pos rfl, hrow] at hsame
    exact congrArg (Option.map InventoryCredential.status) hsame
  · exact (hfind other).trans (if_neg hother)

theorem upsertCredential_spec {credential : InventoryCredential}
    (h : Tx.Commits (upsertCredential credential) db u db') : db'.items = db.items ∧
      (∃ row, db'.credentials.find? credential.inventoryItemId = some row ∧
        row.status = credential.status ∧ row.transferredAt = credential.transferredAt) ∧
      ∀ other ≠ credential.inventoryItemId,
        db'.credentials.find? other = db.credentials.find? other := by
  simp only [upsertCredential, Tx.commits_attempt] at h
  cases hfound : db.credentials.find? credential.inventoryItemId with
  | some row =>
      rw [hfound] at h
      obtain rfl := Option.some.inj h
      have hfind : ∀ other, (db.credentials.modify credential.inventoryItemId credential.replaceBy
          fun _ => rfl).find? other = if other = credential.inventoryItemId
            then (db.credentials.find? credential.inventoryItemId).map credential.replaceBy
            else db.credentials.find? other := Table.find?_modify _
      refine ⟨rfl, ⟨credential.replaceBy row, ?_, rfl, rfl⟩, fun other hother =>
        (hfind other).trans (if_neg hother)⟩
      have hsame := hfind credential.inventoryItemId
      rw [if_pos rfl, hfound] at hsame
      exact hsame
  | none =>
      rw [hfound] at h
      obtain ⟨credentials, hinsert, rfl⟩ := Option.map_eq_some_iff.1 h
      refine ⟨rfl, ⟨credential, ?_, rfl, rfl⟩, fun other hother => ?_⟩
      · show credentials.find? _ = _
        rw [Table.find?_insert? hinsert, if_pos rfl]
      · show credentials.find? other = _
        rw [Table.find?_insert? hinsert, if_neg (Ne.symm hother)]

/-- A new credential is stored for an item that nobody has, before the status of the item. -/
theorem store_spec {input : StoreCredential}
    (h : Tx.Commits (storePreprovisionedInventoryCredential input) db u db') :
    ∃ item mid, (item.assignedOrderId = none ∧ item.inventoryStatus ≠ .reserved ∧
        (db.credentials.find? input.inventoryItemId).map InventoryCredential.status ≠
          some .transferred) ∧
      (mid.items = db.items ∧
        (∃ row, mid.credentials.find? input.inventoryItemId = some row ∧ row.status = .ready ∧
          row.transferredAt = none) ∧
        ∀ other ≠ input.inventoryItemId,
          mid.credentials.find? other = db.credentials.find? other) ∧
      Wrote input.inventoryItemId item (item.withStatus (storedStatus item input.now)) mid db' := by
  simp only [storePreprovisionedInventoryCredential, Tx.commits_bind, Tx.commits_throwIf,
    Tx.commits_get] at h
  obtain ⟨_, _, ⟨-, rfl⟩, ⟨item, existing⟩, _, hlock, _, _, ⟨hfree, rfl⟩, _, _, ⟨hkept, rfl⟩, _, _,
    ⟨rfl, rfl⟩, _, db, ⟨-, rfl⟩, _, mid, hupsert, hupdate⟩ := h
  obtain ⟨hitem, rfl, rfl⟩ := lockInventory_spec hlock
  have hid : item.id = input.inventoryItemId := (IndexedTable.find?_eq_some.1 hitem).2
  dsimp only at hupdate hfree
  rw [hid] at hupdate
  simp only [not_or, ne_eq, not_not] at hfree
  have hspec := upsertCredential_spec hupsert
  have hmid : mid.items.find? input.inventoryItemId = some item := by
    rw [hspec.1]
    exact hitem
  exact ⟨item, mid, ⟨hfree.1, hfree.2.2.2, hkept⟩, hspec, wrote_of_updateItem hmid hupdate⟩

/-! ## Observations -/

theorem register_spec {observation : Observation} {existing : Option ReadItem}
    (h : Tx.Commits (registerObservation observation existing) db u db') :
    existing.any ReadItem.taken = false ∧
      ((∃ row, observation.find db = some row ∧
        Wrote row.id row (observation.update (observation.status existing) row) db db') ∨
      ∃ items, db.items.insert? observation.create = some items ∧ db' = { db with items }) := by
  simp only [registerObservation, Tx.commits_bind, Tx.commits_throwIf, Tx.commits_attempt] at h
  obtain ⟨_, db, ⟨htaken, rfl⟩, hupsert⟩ := h
  refine ⟨by simpa using htaken, ?_⟩
  cases hfound : observation.find db with
  | some row =>
      rw [hfound] at hupsert
      obtain ⟨items, hmodify, rfl⟩ := Option.map_eq_some_iff.1 hupsert
      have hrow : db.items.find? row.id = some row :=
        IndexedTable.find?_eq_some.2 ⟨List.mem_of_find?_eq_some hfound, rfl⟩
      have hfind := IndexedTable.find?_modify? hmodify
      refine .inl ⟨row, rfl, hrow, ?_, fun other hother => ?_, rfl⟩
      · rw [hfind, if_pos rfl, hrow]
        rfl
      · rw [hfind, if_neg hother]
  | none =>
      rw [hfound] at hupsert
      obtain ⟨items, hinsert, rfl⟩ := Option.map_eq_some_iff.1 hupsert
      exact .inr ⟨items, hinsert, rfl⟩

theorem updateAssigned_spec (h : Tx.Commits (updateAssigned itemId orderId f hf) db u db') :
    db' = db ∨ ∃ item, item.assignedOrderId = some orderId ∧ Wrote itemId item (f item) db db' := by
  simp only [updateAssigned, Tx.commits_bind, Tx.commits_get] at h
  obtain ⟨_, db, ⟨rfl, rfl⟩, h⟩ := h
  rcases Tx.commits_ite.1 h with ⟨hany, hupdate⟩ | ⟨-, hpure⟩
  · obtain ⟨item, hitem, horder⟩ := (Option.any_eq_true _ _).1 hany
    exact .inr ⟨item, of_decide_eq_true horder, wrote_of_updateItem hitem hupdate⟩
  · exact .inl (Tx.commits_pure.1 hpure).2

end Writes

end AbrChin.Inventory
