import AbrChin.Inventory.Writes

/-!
# When a ready server can be adopted

`commits_adopt_iff`: a dispatch can take a ready server over if and only if the item is reserved for the
order, fresh and not overdue, its credential has never been handed over, nothing else is assigned to the
order, and the instance has no credential yet (`Adoptable`).
-/

namespace AbrChin.Inventory

open Lib Orders

/-- What the adoption of an item asks for. -/
structure Adoptable (inventory : InventoryDb) (input : InventoryOfOrder) (cloudInstanceId : String) :
    Prop where
  item : ∃ item, inventory.items.find? input.inventoryItemId = some item ∧
    isPreprovisionedInventoryFresh item input.now = true ∧ item.isReserved input.now = true ∧
    item.reservedByQuoteId = some input.quoteId ∧ item.reservedByOrderId = some input.orderId ∧
    item.reservedRevision = some input.revision
  credential : ∃ ready, inventory.credentials.find? input.inventoryItemId = some ready ∧
    ready.isReady = true ∧ ready.transferredAt = none
  unassigned : ∀ other ∈ inventory.items.rows, other.assignedOrderId ≠ some input.orderId
  newInstance : inventory.instanceCredentials.find? cloudInstanceId = none

section Adoption

variable {inventory : InventoryDb} {input : InventoryOfOrder} {item : PreprovisionedInventoryItem}
  {ready : InventoryCredential}

theorem eligible_of_reserved (hfresh : isPreprovisionedInventoryFresh item input.now = true)
    (hready : ready.isReady = true) (hreserved : item.isReserved input.now = true)
    (hrefs : item.reservedByQuoteId = some input.quoteId ∧
      item.reservedByOrderId = some input.orderId ∧ item.reservedRevision = some input.revision) :
    assessPreprovisionedInventoryEligibility item (some ready) item.selection
      (.reservedOrder input.quoteId input.orderId input.revision) input.now = .ok () := by
  have hstage : InventoryEligibilityStage.holds item input.now
      (.reservedOrder input.quoteId input.orderId input.revision) = .ok () :=
    throwIf_eq_ok.2 (not_not.2 ⟨hreserved, hrefs⟩)
  unfold assessPreprovisionedInventoryEligibility
  refine bind_eq_ok.2 ⟨(), throwIf_eq_ok.2 (not_not.2 ⟨rfl, rfl, rfl⟩), bind_eq_ok.2 ⟨(), ?_, ?_⟩⟩
  · apply throwIf_eq_ok.2
    rw [hfresh]
    nofun
  · refine bind_eq_ok.2 ⟨(), throwIf_eq_ok.2 ?_, hstage⟩
    rw [Option.any_some, hready]
    nofun

/-- The assignment of a reserved item is refused by no unique column, when nothing else is assigned to the
order. -/
theorem commits_assign (hitem : inventory.items.find? input.inventoryItemId = some item)
    (hcredential : inventory.credentials.find? input.inventoryItemId = some ready)
    (hready : ready.isReady = true) (hfresh : isPreprovisionedInventoryFresh item input.now = true)
    (hreserved : item.isReserved input.now = true)
    (hrefs : item.reservedByQuoteId = some input.quoteId ∧
      item.reservedByOrderId = some input.orderId ∧ item.reservedRevision = some input.revision)
    (hfree : ∀ other ∈ inventory.items.rows, other.assignedOrderId ≠ some input.orderId) :
    ∃ items, Tx.Commits (assignReservedInventoryTx input) inventory () { inventory with items } := by
  obtain ⟨hstatus, hassigned, -⟩ := isReserved_iff.1 hreserved
  have hsome : (inventory.items.modify? input.inventoryItemId (·.assign input.orderId input.now)
      fun _ => rfl).isSome := by
    apply IndexedTable.modify?_isSome_of_unused
    intro index hindex row _
    simp only [PreprovisionedInventoryItem.indexes, List.mem_cons, List.not_mem_nil, or_false]
      at hindex
    rcases hindex with rfl | rfl | rfl | rfl
    · exact .inl rfl
    · exact .inl rfl
    · refine .inr fun other hother heq => hfree other hother ?_
      obtain ⟨orderId, horder, hsame⟩ := Option.map_eq_some_iff.1 heq
      rw [horder, List.singleton_inj.1 hsame]
    · exact .inl rfl
  obtain ⟨items, hmodify⟩ := Option.isSome_iff_exists.1 hsome
  have hchecked : (inventory.items.find? input.inventoryItemId).any (fun row =>
      row.inventoryStatus = .reserved && row.reservedByQuoteId = some input.quoteId &&
        row.reservedByOrderId = some input.orderId && row.assignedOrderId = none) = true := by
    rw [hitem, Option.any_some]
    simp [hstatus, hassigned, hrefs.1, hrefs.2.1]
  refine ⟨items, ?_⟩
  simp only [assignReservedInventoryTx, lockInventoryAndCredentialTx, updateItemIf, updateItem,
    Tx.commits_bind, Tx.commits_get, Tx.commits_orThrow, Tx.commits_ofExcept, Tx.commits_throwIf,
    Tx.commits_attempt, Tx.commits_pure]
  refine ⟨_, _, ⟨_, _, ⟨rfl, rfl⟩, item, _, ⟨hitem, rfl⟩, rfl, rfl⟩, (), _, ⟨?_, rfl⟩, _, _,
    ⟨rfl, rfl⟩, (), _, ⟨?_, rfl⟩, ?_⟩
  · dsimp only
    rw [hcredential]
    exact eligible_of_reserved hfresh hready hreserved hrefs
  · rw [hchecked]
    rintro ⟨⟩
  · refine Option.map_eq_some_iff.2 ⟨items, ?_, rfl⟩
    exact IndexedTable.updateIf?_eq_some.2 ⟨item, hitem, rfl, hmodify⟩

variable {cloudInstanceId : String}

theorem commits_transfer {itemId : String} {now : ℤ}
    (hcredential : inventory.credentials.find? itemId = some ready)
    (hready : ready.isReady = true) (hunused : ready.transferredAt = none)
    (hinstance : inventory.instanceCredentials.find? cloudInstanceId = none) :
    ∃ later, Tx.Commits (transferInventoryCredentialToInstanceTx itemId cloudInstanceId now)
      inventory () later := by
  have hstatus := InventoryCredential.status_of_isReady hready
  have hsome : (inventory.instanceCredentials.insert?
      (ready.forInstance cloudInstanceId now)).isSome := Table.insert?_isSome hinstance
  obtain ⟨created, hinsert⟩ := Option.isSome_iff_exists.1 hsome
  refine ⟨{ inventory with
    instanceCredentials := created
    credentials := inventory.credentials.modify itemId (InventoryCredential.transfer now)
      fun _ => rfl }, ?_⟩
  simp only [transferInventoryCredentialToInstanceTx, Tx.commits_bind, Tx.commits_get,
    Tx.commits_orThrow, Tx.commits_throwIf, Tx.commits_attempt]
  refine ⟨_, _, ⟨rfl, rfl⟩, ready, _, ⟨hcredential, rfl⟩, (), _, ⟨not_not.2 hstatus, rfl⟩, (), _,
    Option.map_eq_some_iff.2 ⟨created, hinsert, rfl⟩, Option.map_eq_some_iff.2 ⟨_, ?_, rfl⟩⟩
  refine Table.updateIf?_eq_some.2 ⟨ready, hcredential, ?_, rfl⟩
  simp [hstatus, hunused]

variable {later : InventoryDb}

/-- An assignment finds the item fresh, reserved and with a credential, and nothing else assigned to the
order. -/
theorem assign_inv {u : Unit} (h : Tx.Commits (assignReservedInventoryTx input) inventory u later) :
    (∃ item, inventory.items.find? input.inventoryItemId = some item ∧
      isPreprovisionedInventoryFresh item input.now = true ∧ item.isReserved input.now = true ∧
      item.reservedByQuoteId = some input.quoteId ∧ item.reservedByOrderId = some input.orderId ∧
      item.reservedRevision = some input.revision) ∧
    (∃ ready, inventory.credentials.find? input.inventoryItemId = some ready ∧
      ready.isReady = true) ∧
    (∀ other ∈ inventory.items.rows, other.assignedOrderId ≠ some input.orderId) ∧
    ∃ items, later = { inventory with items } := by
  simp only [assignReservedInventoryTx, Tx.commits_bind, Tx.commits_ofExcept, updateItemIf,
    Tx.commits_get, Tx.commits_throwIf, updateItem, Tx.commits_attempt] at h
  obtain ⟨⟨item, credential⟩, _, hlock, _, _, ⟨heligible, rfl⟩, _, _, ⟨rfl, rfl⟩, _, inventory, ⟨-, rfl⟩,
    hmap⟩ := h
  obtain ⟨hitem, hcredential, rfl⟩ := lockInventory_spec hlock
  dsimp only at hitem hcredential heligible
  obtain ⟨hfresh, hready, _, hstage⟩ := eligible_spec (by simp) heligible
  obtain ⟨hreserved, hrefs⟩ := holds_reservedOrder hstage
  obtain ⟨items, hupdate, rfl⟩ := Option.map_eq_some_iff.1 hmap
  obtain ⟨row, hrow, -, hmodify⟩ := IndexedTable.updateIf?_eq_some.1 hupdate
  rw [hcredential] at hready
  refine ⟨⟨item, hitem, hfresh, hreserved, hrefs⟩, hready, fun other hother hassigned => ?_, items, rfl⟩
  -- the unique column has accepted the assignment, so that `other` would be the item itself
  obtain ⟨-, hunassigned, -⟩ := isReserved_iff.1 hreserved
  have hne : other.id ≠ input.inventoryItemId := by
    intro hid
    have hsame := IndexedTable.find?_eq_some.2 ⟨hother, hid⟩
    rw [hitem] at hsame
    obtain rfl := Option.some.inj hsame
    rw [hunassigned] at hassigned
    cases hassigned
  have hotherFind : items.find? other.id = some other := by
    rw [IndexedTable.find?_modify? hmodify, if_neg hne]
    exact IndexedTable.find?_eq_some.2 ⟨hother, rfl⟩
  have hitemFind : items.find? input.inventoryItemId = some (item.assign input.orderId input.now) := by
    rw [IndexedTable.find?_modify? hmodify, if_pos rfl, hitem]
    rfl
  obtain ⟨hmem, -⟩ := IndexedTable.find?_eq_some.1 hotherFind
  obtain ⟨hitemMem, hitemId⟩ := IndexedTable.find?_eq_some.1 hitemFind
  have hsame := IndexedTable.eq_of_index hmem hitemMem
    (List.mem_cons_of_mem _ (List.mem_cons_of_mem _ List.mem_cons_self))
    (congrArg (Option.map ([·])) hassigned) rfl
  exact hne (hsame ▸ hitemId)

theorem transfer_inv {itemId : String} {now : ℤ} {u : Unit}
    (h : Tx.Commits (transferInventoryCredentialToInstanceTx itemId cloudInstanceId now) inventory u
      later) :
    (∀ ready, inventory.credentials.find? itemId = some ready → ready.transferredAt = none) ∧
      inventory.instanceCredentials.find? cloudInstanceId = none ∧
      ∀ other ≠ cloudInstanceId,
        later.instanceCredentials.find? other = inventory.instanceCredentials.find? other := by
  simp only [transferInventoryCredentialToInstanceTx, Tx.commits_bind, Tx.commits_get,
    Tx.commits_orThrow, Tx.commits_throwIf, Tx.commits_attempt] at h
  obtain ⟨_, _, ⟨rfl, rfl⟩, credential, _, ⟨hcredential, rfl⟩, _, db, ⟨-, rfl⟩, _, _, hinsert,
    hupdate⟩ := h
  obtain ⟨created, hcreated, rfl⟩ := Option.map_eq_some_iff.1 hinsert
  obtain ⟨credentials, hmodify, rfl⟩ := Option.map_eq_some_iff.1 hupdate
  obtain ⟨row, hrow, hunused, rfl⟩ := Table.updateIf?_eq_some.1 hmodify
  have hfresh := Table.fresh_of_insert? hcreated
  change db.credentials.find? itemId = some row at hrow
  refine ⟨fun ready hready => ?_, hfresh, fun other hother => ?_⟩
  · rw [hrow] at hready
    obtain rfl := Option.some.inj hready
    simp only [Bool.and_eq_true, decide_eq_true_eq] at hunused
    exact hunused.2
  · show created.find? other = _
    rw [Table.find?_insert? hcreated, if_neg]
    exact fun hsame => hother hsame.symm

/-- **What an adoption asks for is enough**, and no more than it finds. -/
theorem commits_adopt_iff :
    (∃ later, Tx.Commits (adoptInventoryTx input cloudInstanceId) inventory () later) ↔
      Adoptable inventory input cloudInstanceId := by
  constructor
  · rintro ⟨later, h⟩
    obtain ⟨_, mid, hassign, htransfer⟩ := Tx.commits_bind.1 h
    obtain ⟨hitem, ⟨ready, hcredential, hready⟩, hfree, items, rfl⟩ := assign_inv hassign
    obtain ⟨hunused, hinstance, -⟩ := transfer_inv htransfer
    exact ⟨hitem, ⟨ready, hcredential, hready, hunused ready hcredential⟩, hfree, hinstance⟩
  · rintro ⟨⟨item, hitem, hfresh, hreserved, hrefs⟩, ⟨ready, hcredential, hready, hunused⟩, hfree,
      hinstance⟩
    obtain ⟨items, hassign⟩ := commits_assign hitem hcredential hready hfresh hreserved hrefs hfree
    have htransfer : ∃ later, Tx.Commits (transferInventoryCredentialToInstanceTx
        input.inventoryItemId cloudInstanceId input.now) { inventory with items } () later :=
      commits_transfer hcredential hready hunused hinstance
    obtain ⟨later, htransfer⟩ := htransfer
    exact ⟨later, Tx.commits_bind.2 ⟨(), _, hassign, htransfer⟩⟩

/-- An adoption is in nobody else's way. -/
theorem Adoptable.of_adopt {other : InventoryOfOrder} {otherInstanceId : String}
    (h : Adoptable inventory input cloudInstanceId) {u : Unit}
    (hadopt : Tx.Commits (adoptInventoryTx other otherInstanceId) inventory u later)
    (hitem : other.inventoryItemId ≠ input.inventoryItemId)
    (horder : other.orderId ≠ input.orderId) (hinstance : otherInstanceId ≠ cloudInstanceId) :
    Adoptable later input cloudInstanceId := by
  obtain ⟨_, mid, hassign, htransfer⟩ := Tx.commits_bind.1 hadopt
  obtain ⟨item, -, hwrote⟩ := assign_spec hassign
  obtain ⟨-, -, -, items, rfl⟩ := assign_inv hassign
  obtain ⟨hitems, -, -, hcredentials⟩ := transfer_spec htransfer
  obtain ⟨-, -, hinstances⟩ := transfer_inv htransfer
  obtain ⟨⟨row, hrow, hreserved⟩, ⟨ready, hready, hunused⟩, hfree, hnew⟩ := h
  refine ⟨⟨row, ?_, hreserved⟩, ⟨ready, ?_, hunused⟩, fun seen hseen hassigned => ?_, ?_⟩
  · rw [hitems]
    exact (hwrote.others _ (Ne.symm hitem)).trans hrow
  · rw [hcredentials _ (Ne.symm hitem)]
    exact hready
  · rw [hitems] at hseen
    have hfind : items.find? seen.id = some seen := IndexedTable.find?_eq_some.2 ⟨hseen, rfl⟩
    by_cases hid : seen.id = other.inventoryItemId
    · rw [hid] at hfind
      obtain rfl := Option.some.inj (hwrote.written.symm.trans hfind)
      exact horder (Option.some.inj hassigned)
    · have hold := (hwrote.others _ hid).symm.trans hfind
      exact hfree seen (IndexedTable.find?_eq_some.1 hold).1 hassigned
  · rw [hinstances _ (Ne.symm hinstance)]
    exact hnew

/-- What the check of an adoption looks at. -/
def adoptableItem (input : InventoryOfOrder) (item : PreprovisionedInventoryItem) : Bool :=
  isPreprovisionedInventoryFresh item input.now && item.isReserved input.now &&
    item.reservedByQuoteId = some input.quoteId && item.reservedByOrderId = some input.orderId &&
    item.reservedRevision = some input.revision

instance (inventory : InventoryDb) (input : InventoryOfOrder) (cloudInstanceId : String) :
    Decidable (Adoptable inventory input cloudInstanceId) :=
  decidable_of_iff
    ((inventory.items.find? input.inventoryItemId).any (adoptableItem input) = true ∧
      (inventory.credentials.find? input.inventoryItemId).any
        (fun ready => ready.isReady && ready.transferredAt = none) = true ∧
      (∀ other ∈ inventory.items.rows, other.assignedOrderId ≠ some input.orderId) ∧
      inventory.instanceCredentials.find? cloudInstanceId = none) (by
    simp only [Option.any_eq_true, adoptableItem, Bool.and_eq_true, decide_eq_true_eq, and_assoc]
    constructor
    · rintro ⟨hitem, hcredential, hfree, hinstance⟩
      exact ⟨hitem, hcredential, hfree, hinstance⟩
    · rintro ⟨hitem, hcredential, hfree, hinstance⟩
      exact ⟨hitem, hcredential, hfree, hinstance⟩)

end Adoption

end AbrChin.Inventory
