import AbrChin.Dispatch.Queue

/-!
# What a dispatch does

An order is `Ready` when its dispatch succeeds, `Blocked` when its billing contract moves it to the manual
review, and `Waits` when its dispatch returns and leaves everything as it is.  In all other cases the
dispatch throws.

`dispatch_spec` is the converse direction, and `Ready.of_dispatch` says that the dispatch of one order takes
nothing from another one.
-/

namespace AbrChin.Dispatch

open Lib Orders Pricing ProductFlow Inventory

/-! ## The outcomes -/

/-- The reserved item of the order can be adopted. -/
def CanBeAssigned (inventory : InventoryDb) (order : DispatchOrder) (selection : LockedSelection)
    (now : ℤ) : Prop :=
  order.offerSource = .preprovisionedInventory →
    ∃ reservation ∈ order.reservation inventory selection now,
      Adoptable inventory reservation order.id

/-- The dispatch goes on by itself. -/
def DispatchEnv.automatic (env : DispatchEnv) (order : DispatchOrder) : Bool :=
  order.offerSource = .preprovisionedInventory || env.automationEnabled order.offerSource

/-- The order is approved, and has no job yet. -/
def DispatchOrder.isOpen (order : DispatchOrder) : Bool :=
  !order.hasDispatchJob && order.approvedById.isSome

def Ready (env : DispatchEnv) (inventory : InventoryDb) (order : DispatchOrder) (now : ℤ) : Prop :=
  order.isOpen = true ∧ env.blocks order none now = false ∧ env.automatic order = true ∧
    ∃ selection ∈ order.selection, env.blocks order (some selection.externalPlanId) now = false ∧
      CanBeAssigned inventory order selection now ∧ env.accepts order.id = true

def Blocked (env : DispatchEnv) (order : DispatchOrder) (now : ℤ) : Prop :=
  order.isOpen = true ∧ (env.blocks order none now = true ∨
    (env.automatic order = true ∧
      ∃ selection ∈ order.selection, env.blocks order (some selection.externalPlanId) now = true))

def Waits (env : DispatchEnv) (order : DispatchOrder) (now : ℤ) : Prop :=
  order.isOpen = false ∨ (env.blocks order none now = false ∧ env.automatic order = false)

instance (inventory : InventoryDb) (order : DispatchOrder) (selection : LockedSelection) (now : ℤ) :
    Decidable (CanBeAssigned inventory order selection now) :=
  inferInstanceAs (Decidable (_ → ∃ reservation ∈ order.reservation inventory selection now, _))

instance (env : DispatchEnv) (inventory : InventoryDb) (order : DispatchOrder) (now : ℤ) :
    Decidable (Ready env inventory order now) :=
  inferInstanceAs (Decidable (_ ∧ _ ∧ _ ∧ ∃ selection ∈ order.selection, _ ∧ _ ∧ _))

instance (env : DispatchEnv) (order : DispatchOrder) (now : ℤ) : Decidable (Blocked env order now) :=
  inferInstanceAs (Decidable (_ ∧ (_ ∨ (_ ∧ ∃ selection ∈ order.selection, _))))

instance (env : DispatchEnv) (order : DispatchOrder) (now : ℤ) : Decidable (Waits env order now) :=
  inferInstanceAs (Decidable (_ ∨ _))

section Outcomes

variable {env : DispatchEnv} {db later : DispatchDb} {order : DispatchOrder} {id : String} {now : ℤ}

theorem isOpen_iff : order.isOpen = true ↔
    order.hasDispatchJob = false ∧ order.approvedById ≠ none := by
  simp only [DispatchOrder.isOpen, Bool.and_eq_true, Bool.not_eq_true', Option.isSome_iff_ne_none]

/-- The automation is what lets an order through that no item is reserved for. -/
theorem automatic_iff : env.automatic order = false ↔
    order.offerSource ≠ .preprovisionedInventory ∧ env.automationEnabled order.offerSource = false := by
  simp only [DispatchEnv.automatic, Bool.or_eq_false_iff, decide_eq_false_iff_not]

theorem commits_updateOrder (db : DispatchDb) (id : String) (f : DispatchOrder → DispatchOrder)
    (hf : ∀ row, (f row).id = row.id) (hindexes : ∀ row, (f row).serviceOrderId = row.serviceOrderId ∧
      (f row).preprovisionedInventoryItemId = row.preprovisionedInventoryItemId) :
    ∃ orders, db.orders.modify? id f hf = some orders ∧
      Tx.Commits (updateOrder id f hf) db () { db with orders } := by
  have hsome : (db.orders.modify? id f hf).isSome := by
    apply IndexedTable.modify?_isSome
    intro index hindex row
    simp only [DispatchOrder.indexes, List.mem_cons, List.not_mem_nil, or_false] at hindex
    rcases hindex with rfl | rfl
    · exact congrArg some (hindexes row).1
    · exact (hindexes row).2
  obtain ⟨orders, hmodify⟩ := Option.isSome_iff_exists.1 hsome
  exact ⟨orders, hmodify, Tx.commits_attempt.2 (Option.map_eq_some_iff.2 ⟨orders, hmodify, rfl⟩)⟩

variable {state : DispatchState}

/-- The dispatch of an order that is there and open goes on with the order. -/
theorem commits_dispatch (horder : db.orders.find? order.id = some order)
    (hopen : order.isOpen = true)
    (h : Tx.Commits (dispatchApprovedOrder env order now) db state later) :
    Tx.Commits (dispatchApprovedProvision env order.id now) db state later := by
  obtain ⟨hjob, happroved⟩ := isOpen_iff.1 hopen
  simp only [dispatchApprovedProvision, Tx.commits_bind, Tx.commits_get, Tx.commits_orThrow]
  refine ⟨_, _, ⟨rfl, rfl⟩, order, db, ⟨horder, rfl⟩, ?_⟩
  rw [if_neg (by simp [hjob]), if_neg happroved]
  exact h

theorem commits_block (db : DispatchDb) (order : DispatchOrder) (now : ℤ) : ∃ later,
    Tx.Commits (blockProvisionForBillingContract order now) db .billingContractBlocked later := by
  obtain ⟨orders, -, hupdate⟩ := commits_updateOrder db order.id (·.block now) (fun _ => rfl)
    fun _ => ⟨rfl, rfl⟩
  exact ⟨_, Tx.commits_bind.2 ⟨(), _, hupdate, Tx.commits_pure.2 ⟨rfl, rfl⟩⟩⟩

/-- **An order that is ready is dispatched.** -/
theorem commits_of_ready (horder : db.orders.find? order.id = some order)
    (hready : Ready env db.inventory order now) :
    ∃ later, Tx.Commits (dispatchApprovedProvision env order.id now) db .dispatched later := by
  obtain ⟨hopen, hunblocked, hautomatic, selection, hselection, hlocked, hassigned, haccepted⟩ := hready
  have hassign : ∃ inventory, Tx.Commits (assignInventory order selection now) db ()
      { db with inventory } := by
    unfold assignInventory
    by_cases hsource : order.offerSource = .preprovisionedInventory
    · obtain ⟨reservation, hreservation, hadoptable⟩ := hassigned hsource
      obtain ⟨inventory, hadopt⟩ := commits_adopt_iff.2 hadoptable
      refine ⟨inventory, ?_⟩
      rw [if_pos hsource]
      simp only [Tx.commits_bind, Tx.commits_get, Tx.commits_orThrow]
      exact ⟨_, _, ⟨rfl, rfl⟩, reservation, _, ⟨hreservation, rfl⟩,
        Tx.commits_zoom.2 ⟨inventory, hadopt, rfl⟩⟩
    · refine ⟨db.inventory, ?_⟩
      rw [if_neg hsource]
      exact Tx.commits_pure.2 ⟨rfl, rfl⟩
  obtain ⟨inventory, hassign⟩ := hassign
  obtain ⟨orders, -, hsubmit⟩ := commits_updateOrder { db with inventory } order.id (·.submit now)
    (fun _ => rfl) fun _ => ⟨rfl, rfl⟩
  refine ⟨{ db with inventory, orders }, commits_dispatch horder hopen ?_⟩
  unfold dispatchApprovedOrder
  rw [if_neg (by simp [hunblocked]), if_neg]
  · simp only [Tx.commits_bind, Tx.commits_orThrow]
    refine ⟨selection, db, ⟨hselection, rfl⟩, ?_⟩
    rw [if_neg (by simp [hlocked])]
    simp only [dispatchOrder, Tx.commits_bind, Tx.commits_throwIf, Tx.commits_pure]
    exact ⟨(), _, hassign, (), _, ⟨by simp [haccepted], rfl⟩, (), _, hsubmit, trivial, rfl⟩
  · intro hmanual
    rw [automatic_iff.2 hmanual] at hautomatic
    cases hautomatic

/-- An order whose billing contract is not verified is moved to the manual review. -/
theorem commits_of_blocked (horder : db.orders.find? order.id = some order)
    (hblocked : Blocked env order now) :
    ∃ later, Tx.Commits (dispatchApprovedProvision env order.id now) db .billingContractBlocked
      later := by
  obtain ⟨hopen, hblocked⟩ := hblocked
  obtain ⟨later, hblock⟩ := commits_block db order now
  refine ⟨later, commits_dispatch horder hopen ?_⟩
  unfold dispatchApprovedOrder
  by_cases hfirst : env.blocks order none now = true
  · rw [if_pos hfirst]
    exact hblock
  · obtain ⟨hautomatic, selection, hselection, hlocked⟩ := hblocked.resolve_left hfirst
    rw [if_neg hfirst, if_neg]
    · simp only [Tx.commits_bind, Tx.commits_orThrow]
      refine ⟨selection, db, ⟨hselection, rfl⟩, ?_⟩
      rw [if_pos hlocked]
      exact hblock
    · intro hmanual
      rw [automatic_iff.2 hmanual] at hautomatic
      cases hautomatic

/-- The dispatch of an order that waits returns. -/
theorem commits_of_waits (horder : db.orders.find? order.id = some order) (hwaits : Waits env order now) :
    ∃ state, Tx.Commits (dispatchApprovedProvision env order.id now) db state db := by
  have hcommits : ∃ state, Tx.Commits (if order.hasDispatchJob = true then
      (pure .alreadyDispatched : DispatchTx DispatchState)
      else if order.approvedById = none then pure .notApproved
      else dispatchApprovedOrder env order now) db state db := by
    by_cases hjob : order.hasDispatchJob = true
    · exact ⟨_, Tx.commits_ite.2 (.inl ⟨hjob, Tx.commits_pure.2 ⟨rfl, rfl⟩⟩)⟩
    · by_cases happroved : order.approvedById = none
      · exact ⟨_, Tx.commits_ite.2 (.inr ⟨hjob, Tx.commits_ite.2
          (.inl ⟨happroved, Tx.commits_pure.2 ⟨rfl, rfl⟩⟩)⟩)⟩
      · rcases hwaits with hclosed | ⟨hunblocked, hmanual⟩
        · rw [isOpen_iff.2 ⟨by simpa using hjob, happroved⟩] at hclosed
          cases hclosed
        · refine ⟨.manualFulfillmentRequired, ?_⟩
          rw [if_neg hjob, if_neg happroved, dispatchApprovedOrder, if_neg (by simp [hunblocked]),
            if_pos (automatic_iff.1 hmanual)]
          exact Tx.commits_pure.2 ⟨rfl, rfl⟩
  obtain ⟨state, hcommits⟩ := hcommits
  refine ⟨state, ?_⟩
  simp only [dispatchApprovedProvision, Tx.commits_bind, Tx.commits_get, Tx.commits_orThrow]
  exact ⟨_, _, ⟨rfl, rfl⟩, order, db, ⟨horder, rfl⟩, hcommits⟩

/-! ## What a dispatch leaves -/

/-- The item of the order has been adopted, when one is reserved for it. -/
def Adopts (order : DispatchOrder) (now : ℤ) (inventory later : InventoryDb) : Prop :=
  later = inventory ∨ ∃ selection reservation u,
    order.reservation inventory selection now = some reservation ∧
      Tx.Commits (adoptInventoryTx reservation order.id) inventory u later

/-- The row of the order goes on to `f`, and the inventory is what the order makes of it. -/
structure Moves (order : DispatchOrder) (now : ℤ) (f : DispatchOrder → DispatchOrder)
    (db later : DispatchDb) : Prop where
  orders : ∃ hf, db.orders.modify? order.id f hf = some later.orders
  inventory : Adopts order now db.inventory later.inventory

theorem updateOrder_spec {f : DispatchOrder → DispatchOrder} {hf : ∀ row, (f row).id = row.id}
    {u : Unit} (h : Tx.Commits (updateOrder id f hf) db u later) :
    ∃ orders, db.orders.modify? id f hf = some orders ∧ later = { db with orders } := by
  simp only [updateOrder, Tx.commits_attempt] at h
  obtain ⟨orders, hmodify, rfl⟩ := Option.map_eq_some_iff.1 h
  exact ⟨orders, hmodify, rfl⟩

theorem moves_of_updateOrder {f : DispatchOrder → DispatchOrder} {hf : ∀ row, (f row).id = row.id}
    {u : Unit} (h : Tx.Commits (updateOrder order.id f hf) db u later) : Moves order now f db later := by
  obtain ⟨orders, hmodify, rfl⟩ := updateOrder_spec h
  exact ⟨⟨hf, hmodify⟩, .inl rfl⟩

theorem block_spec (h : Tx.Commits (blockProvisionForBillingContract order now) db state later) :
    state = .billingContractBlocked ∧ Moves order now (·.block now) db later := by
  obtain ⟨_, _, hupdate, hpure⟩ := Tx.commits_bind.1 h
  obtain ⟨rfl, rfl⟩ := Tx.commits_pure.1 hpure
  exact ⟨rfl, moves_of_updateOrder hupdate⟩

variable {selection : LockedSelection}

theorem dispatchOrder_spec (h : Tx.Commits (dispatchOrder env order selection now) db state later) :
    state = .dispatched ∧ Moves order now (·.submit now) db later := by
  simp only [dispatchOrder, Tx.commits_bind, Tx.commits_throwIf, Tx.commits_pure] at h
  obtain ⟨_, mid, hassign, _, _, ⟨-, rfl⟩, _, _, hupdate, rfl, rfl⟩ := h
  refine ⟨rfl, ?_⟩
  obtain ⟨orders, hmodify, rfl⟩ := updateOrder_spec hupdate
  unfold assignInventory at hassign
  rcases Tx.commits_ite.1 hassign with ⟨-, hassign⟩ | ⟨-, hpure⟩
  · simp only [Tx.commits_bind, Tx.commits_get, Tx.commits_orThrow] at hassign
    obtain ⟨_, _, ⟨rfl, rfl⟩, reservation, _, ⟨hreservation, rfl⟩, hzoom⟩ := hassign
    obtain ⟨inventory, hadopt, rfl⟩ := Tx.commits_zoom.1 hzoom
    exact ⟨⟨_, hmodify⟩, .inr ⟨selection, reservation, _, hreservation, hadopt⟩⟩
  · obtain ⟨-, rfl⟩ := Tx.commits_pure.1 hpure
    exact ⟨⟨_, hmodify⟩, .inl rfl⟩

/-- **A dispatch that returns** leaves everything as it is, or moves its order, which was open. -/
theorem dispatch_spec (h : Tx.Commits (dispatchApprovedProvision env id now) db state later) :
    (later = db ∧ state ≠ .dispatched ∧ state ≠ .billingContractBlocked) ∨
      ∃ order, db.orders.find? id = some order ∧ order.isOpen = true ∧
        ((state = .dispatched ∧ Moves order now (·.submit now) db later) ∨
          state = .billingContractBlocked ∧ Moves order now (·.block now) db later) := by
  simp only [dispatchApprovedProvision, Tx.commits_bind, Tx.commits_get, Tx.commits_orThrow] at h
  obtain ⟨_, _, ⟨rfl, rfl⟩, order, db, ⟨horder, rfl⟩, h⟩ := h
  have hsame : ∀ other : DispatchState,
      Tx.Commits (pure other : DispatchTx DispatchState) db state later → other ≠ .dispatched →
        other ≠ .billingContractBlocked →
          later = db ∧ state ≠ .dispatched ∧ state ≠ .billingContractBlocked := by
    intro other hpure hdispatched hblocked
    obtain ⟨rfl, rfl⟩ := Tx.commits_pure.1 hpure
    exact ⟨rfl, hdispatched, hblocked⟩
  rcases Tx.commits_ite.1 h with ⟨-, h⟩ | ⟨hjob, h⟩
  · exact .inl (hsame _ h (by rintro ⟨⟩) (by rintro ⟨⟩))
  rcases Tx.commits_ite.1 h with ⟨-, h⟩ | ⟨happroved, h⟩
  · exact .inl (hsame _ h (by rintro ⟨⟩) (by rintro ⟨⟩))
  have hopen : order.isOpen = true := isOpen_iff.2 ⟨by simpa using hjob, happroved⟩
  unfold dispatchApprovedOrder at h
  rcases Tx.commits_ite.1 h with ⟨-, h⟩ | ⟨-, h⟩
  · exact .inr ⟨order, horder, hopen, .inr (block_spec h)⟩
  rcases Tx.commits_ite.1 h with ⟨-, h⟩ | ⟨-, h⟩
  · exact .inl (hsame _ h (by rintro ⟨⟩) (by rintro ⟨⟩))
  obtain ⟨selection, _, hselection, hrest⟩ := Tx.commits_bind.1 h
  obtain ⟨-, rfl⟩ := Tx.commits_orThrow.1 hselection
  rcases Tx.commits_ite.1 hrest with ⟨-, h⟩ | ⟨-, h⟩
  · exact .inr ⟨order, horder, hopen, .inr (block_spec h)⟩
  · exact .inr ⟨order, horder, hopen, .inl (dispatchOrder_spec h)⟩

/-- **An order that is dispatched has been ready.** -/
theorem ready_of_commits (horder : db.orders.find? order.id = some order)
    (h : Tx.Commits (dispatchApprovedProvision env order.id now) db .dispatched later) :
    Ready env db.inventory order now := by
  simp only [dispatchApprovedProvision, Tx.commits_bind, Tx.commits_get, Tx.commits_orThrow] at h
  obtain ⟨_, _, ⟨rfl, rfl⟩, found, db, ⟨hfound, rfl⟩, h⟩ := h
  obtain rfl := Option.some.inj (hfound.symm.trans horder)
  rcases Tx.commits_ite.1 h with ⟨-, h⟩ | ⟨hjob, h⟩
  · cases (Tx.commits_pure.1 h).1
  rcases Tx.commits_ite.1 h with ⟨-, h⟩ | ⟨happroved, h⟩
  · cases (Tx.commits_pure.1 h).1
  unfold dispatchApprovedOrder at h
  rcases Tx.commits_ite.1 h with ⟨-, h⟩ | ⟨hunblocked, h⟩
  · cases (block_spec h).1
  rcases Tx.commits_ite.1 h with ⟨-, h⟩ | ⟨hautomatic, h⟩
  · cases (Tx.commits_pure.1 h).1
  obtain ⟨selection, _, hselection, hrest⟩ := Tx.commits_bind.1 h
  obtain ⟨hchosen, rfl⟩ := Tx.commits_orThrow.1 hselection
  rcases Tx.commits_ite.1 hrest with ⟨-, h⟩ | ⟨hlocked, h⟩
  · cases (block_spec h).1
  simp only [dispatchOrder, Tx.commits_bind, Tx.commits_throwIf, Tx.commits_pure] at h
  obtain ⟨_, mid, hassign, _, _, ⟨haccepted, -⟩, -⟩ := h
  refine ⟨isOpen_iff.2 ⟨by simpa using hjob, happroved⟩, by simpa using hunblocked, ?_, selection,
    hchosen, by simpa using hlocked, fun hsource => ?_, by simpa using haccepted⟩
  · by_contra hmanual
    exact hautomatic (automatic_iff.1 (by simpa using hmanual))
  · rw [assignInventory, if_pos hsource] at hassign
    simp only [Tx.commits_bind, Tx.commits_get, Tx.commits_orThrow] at hassign
    obtain ⟨_, _, ⟨rfl, rfl⟩, reservation, _, ⟨hreservation, rfl⟩, hzoom⟩ := hassign
    obtain ⟨inventory, hadopt, -⟩ := Tx.commits_zoom.1 hzoom
    exact ⟨reservation, hreservation, commits_adopt_iff.1 ⟨inventory, hadopt⟩⟩

variable {inventory : InventoryDb}

theorem reservation_spec {reservation : InventoryOfOrder}
    (h : order.reservation inventory selection now = some reservation) :
    order.preprovisionedInventoryItemId = some reservation.inventoryItemId ∧
      reservation.orderId = order.serviceOrderId := by
  obtain ⟨item, hitem, h⟩ := Option.bind_eq_some_iff.1 h
  obtain ⟨quoteId, -, h⟩ := Option.bind_eq_some_iff.1 h
  obtain ⟨revision, -, rfl⟩ := Option.map_eq_some_iff.1 h
  obtain ⟨itemId, hid, hfind⟩ := Option.bind_eq_some_iff.1 (Option.filter_eq_some_iff.1 hitem).1
  refine ⟨?_, rfl⟩
  rw [hid]
  exact congrArg some (IndexedTable.find?_eq_some.1 hfind).2.symm

/-- The reservation of an order depends on its item alone. -/
theorem reservation_congr {other : InventoryDb}
    (h : ∀ itemId ∈ order.preprovisionedInventoryItemId,
      other.items.find? itemId = inventory.items.find? itemId) :
    order.reservation other selection now = order.reservation inventory selection now := by
  have hitem : order.preprovisionedInventoryItemId.bind other.items.find? =
      order.preprovisionedInventoryItemId.bind inventory.items.find? := by
    cases hid : order.preprovisionedInventoryItemId with
    | none => rfl
    | some itemId => exact h itemId hid
  unfold DispatchOrder.reservation
  rw [hitem]

/-- **What another order adopts is not what an order waits for.** -/
theorem Ready.of_adopts {other : DispatchOrder} {time : ℤ} (horder : order ∈ db.orders.rows)
    (hother : other ∈ db.orders.rows) (hne : other.id ≠ order.id)
    (hready : Ready env db.inventory order now)
    (hadopts : Adopts other time db.inventory inventory) : Ready env inventory order now := by
  rcases hadopts with rfl | ⟨otherSelection, adopted, _, hadopted, hadopt⟩
  · exact hready
  obtain ⟨hitem, hservice⟩ := reservation_spec hadopted
  have hserviceNe : other.serviceOrderId ≠ order.serviceOrderId := fun heq =>
    hne (congrArg DispatchOrder.id (IndexedTable.eq_of_index hother horder List.mem_cons_self
      (congrArg some heq) rfl))
  have hitemNe : ∀ itemId ∈ order.preprovisionedInventoryItemId, itemId ≠ adopted.inventoryItemId := by
    rintro itemId hid rfl
    exact hne (congrArg DispatchOrder.id (IndexedTable.eq_of_index hother horder
      (List.mem_cons_of_mem _ List.mem_cons_self) hitem hid))
  obtain ⟨hopen, hunblocked, hautomatic, selection, hselection, hlocked, hassigned, haccepted⟩ := hready
  refine ⟨hopen, hunblocked, hautomatic, selection, hselection, hlocked, fun hsource => ?_, haccepted⟩
  obtain ⟨reservation, hreservation, hadoptable⟩ := hassigned hsource
  obtain ⟨hown, hownService⟩ := reservation_spec hreservation
  refine ⟨reservation, ?_, hadoptable.of_adopt hadopt (Ne.symm (hitemNe _ hown)) ?_ hne⟩
  · refine (reservation_congr fun itemId hid => ?_).trans hreservation
    obtain ⟨_, mid, hassign, htransfer⟩ := Tx.commits_bind.1 hadopt
    obtain ⟨item, -, hwrote⟩ := assign_spec hassign
    rw [(transfer_spec htransfer).1]
    exact hwrote.others itemId (hitemNe itemId hid)
  · rw [hservice, hownService]
    exact hserviceNe

end Outcomes

end AbrChin.Dispatch
