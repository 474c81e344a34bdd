import AbrChin.Inventory.Adoption
import AbrChin.Inventory.Held

/-!
# The steps of a sale

The transactions that write the orders keep the sale in order: a payment finds its item reserved for the
order, a dispatch assigns it (`keepsSale_dispatch`), and nothing else touches what a paid order holds.

`commits_dispatch` is the other direction: the dispatch of an order whose item is held is not refused, as
long as the item is fresh and its reservation is not over.
-/

namespace AbrChin.Inventory

open Lib Orders ProductFlow

section Orders

variable {db : SaleDb} {orderId : String}

theorem ok_quotes (hok : db.Ok) (quotes : Table ReadyQuote.id) : ({ db with quotes } : SaleDb).Ok :=
  ⟨hok.holds, hok.assigned, hok.unused⟩

/-- The update of an order that holds its item when it is paid, and does not take a dispatch back. -/
theorem ok_updateOrder (hok : db.Ok) {f : ReadyOrder → ReadyOrder} {hf : ∀ row, (f row).id = row.id}
    (hholds : ∀ row ∈ db.orders, row.id = orderId → (f row).status = .paid →
      Holds (f row) db.inventory)
    (hstays : ∀ row ∈ db.orders, row.id = orderId → row.dispatched = true →
      row.status ≠ .pendingPayment →
        (f row).dispatched = true ∧ (f row).status ≠ .pendingPayment) :
    ({ db with orders := db.orders.modify orderId f hf } : SaleDb).Ok where
  holds order horder hpaid := by
    have h : order ∈ db.orders.modify orderId f hf := horder
    obtain ⟨row, hrow, rfl⟩ := Table.mem_modify.1 h
    by_cases hid : row.id = orderId
    · rw [if_pos hid] at hpaid ⊢
      exact hholds row hrow hid hpaid
    · rw [if_neg hid] at hpaid ⊢
      exact hok.holds row hrow hpaid
  assigned itemId item other hitem hassigned := by
    obtain ⟨row, hrow, hdispatched, hstatus⟩ := hok.assigned itemId item other hitem hassigned
    have hfind : ∀ other, (db.orders.modify orderId f hf).find? other =
        if other = orderId then (db.orders.find? orderId).map f else db.orders.find? other :=
      Table.find?_modify hf
    by_cases hother : other = orderId
    · subst hother
      obtain ⟨hmem, hid⟩ := Table.find?_eq_some.1 hrow
      refine ⟨f row, ?_, hstays row hmem hid hdispatched hstatus⟩
      rw [hfind, if_pos rfl, hrow]
      rfl
    · refine ⟨row, ?_, hdispatched, hstatus⟩
      rw [hfind, if_neg hother]
      exact hrow
  unused := hok.unused

theorem ok_moveTo (hok : db.Ok) {state : ProductFlowState} :
    ({ db with orders := db.orders.modify orderId (.moveTo state) fun _ => rfl } : SaleDb).Ok :=
  ok_updateOrder hok (fun row hrow _ hpaid => (hok.holds row hrow hpaid).moveTo state)
    fun _ _ _ hdispatched hstatus => ⟨hdispatched, hstatus⟩

theorem keepsSale_quote (hok : db.Ok) (input : ReserveForQuote) :
    KeepsSale (createCatalogServerQuote input) db := by
  intro a db' hcommits
  simp only [createCatalogServerQuote, Tx.commits_bind, Tx.commits_attempt] at hcommits
  obtain ⟨_, mid, hinsert, hreserve⟩ := hcommits
  obtain ⟨quotes, -, rfl⟩ := Option.map_eq_some_iff.1 hinsert
  exact keepsSale_reserve (ok_quotes hok quotes) input _ _ hreserve

theorem keepsSale_checkout (hok : db.Ok) (input : Checkout) :
    KeepsSale (createServiceOrderFromQuote input) db := by
  intro a db' hcommits
  simp only [createServiceOrderFromQuote, Tx.commits_bind, Tx.commits_get, Tx.commits_orThrow]
    at hcommits
  obtain ⟨_, _, ⟨rfl, rfl⟩, quote, db, ⟨-, rfl⟩, hcommits⟩ := hcommits
  rcases Tx.commits_ite.1 hcommits with ⟨-, hcommits⟩ | ⟨-, hcommits⟩
  · obtain ⟨-, rfl⟩ := Tx.commits_pure.1 hcommits
    exact hok
  · simp only [Tx.commits_bind, Tx.commits_throwIf, Tx.commits_attempt, updateQuote,
      Tx.commits_modify] at hcommits
    obtain ⟨_, _, ⟨-, rfl⟩, _, _, ⟨-, rfl⟩, _, _, ⟨-, rfl⟩, _, db, ⟨-, rfl⟩, _, _, hmap, _, _, rfl,
      hbind⟩ := hcommits
    obtain ⟨orders, hinsert, rfl⟩ := Option.map_eq_some_iff.1 hmap
    have hordered : ({ db with orders } : SaleDb).Ok := by
      refine ⟨fun order horder hpaid => ?_, fun itemId item orderId hitem hassigned => ?_, hok.unused⟩
      · rcases (Table.mem_insert? hinsert).1 horder with hold | rfl
        · exact hok.holds order hold hpaid
        · cases hpaid
      · obtain ⟨order, horder, hrest⟩ := hok.assigned itemId item orderId hitem hassigned
        refine ⟨order, ?_, hrest⟩
        show orders.find? orderId = some order
        rw [Table.find?_insert? hinsert, if_neg]
        · exact horder
        · rintro rfl
          rw [Table.fresh_of_insert? hinsert] at horder
          cases horder
    exact keepsSale_bind (ok_quotes hordered _) _ _ _ _ hbind

/-- A payment finds the item of its order reserved for the order. -/
theorem keepsSale_pay (hok : db.Ok) (input : PayOrder) :
    KeepsSale (executePayOrderWithWalletTx input) db := by
  intro a db' hcommits
  simp only [executePayOrderWithWalletTx, Tx.commits_bind, Tx.commits_get, Tx.commits_orThrow]
    at hcommits
  obtain ⟨_, _, ⟨rfl, rfl⟩, order, db, ⟨horder, rfl⟩, hcommits⟩ := hcommits
  rcases Tx.commits_ite.1 hcommits with ⟨-, hcommits⟩ | ⟨-, hcommits⟩
  · obtain ⟨-, rfl⟩ := Tx.commits_pure.1 hcommits
    exact hok
  · simp only [Tx.commits_bind, Tx.commits_throwIf, Tx.commits_orThrow, updateQuote, updateOrder,
      Tx.commits_modify] at hcommits
    obtain ⟨_, _, ⟨hstatus, rfl⟩, quote, _, ⟨hquote, rfl⟩, _, _, ⟨-, rfl⟩, _, _, ⟨-, rfl⟩, _, db,
      ⟨-, rfl⟩, item, _, hlock, _, _, ⟨-, rfl⟩, _, _, ⟨-, rfl⟩, _, _, rfl, rfl⟩ := hcommits
    obtain ⟨inventory, hbody, rfl⟩ := commits_onInventory.1 hlock
    obtain ⟨rfl, hitem, hheld⟩ := lockReserved_spec hbody
    have hpending : order.status = .pendingPayment := not_not.1 hstatus
    obtain ⟨hmem, hid⟩ := Table.find?_eq_some.1 horder
    obtain ⟨-, hquoteId⟩ := Table.find?_eq_some.1 hquote
    refine ok_quotes (ok_updateOrder hok (fun row hrow hrowId _ => ?_)
      fun row hrow hrowId _ hnever => ?_) _
    · obtain rfl : row = order := Table.eq_of_key hrow hmem hrowId
      rcases hheld with hassigned | ⟨⟨hreserved, hquoted, hbound, hrevision⟩, hready⟩
      · -- an item is assigned to an order that has been paid before
        obtain ⟨other, hother, -, hnever⟩ := hok.assigned _ _ _ hitem hassigned
        rw [hid, horder] at hother
        obtain rfl := Option.some.inj hother
        exact absurd hpending hnever
      · obtain ⟨hitemStatus, hassigned, expiry, hexpiry, -⟩ := isReserved_iff.1 hreserved
        have hitemId : item.id = quote.inventoryItemId := (IndexedTable.find?_eq_some.1 hitem).2
        refine ⟨item, by rw [ReadyOrder.pay, hitemId]; exact hitem, ?_⟩
        rw [Holding, ReadyOrder.pay, if_neg Bool.false_ne_true]
        refine ⟨hitemStatus, hbound, hquoted.trans (congrArg some hquoteId), hassigned, rfl,
          ⟨_, hrevision⟩, ⟨expiry, hexpiry⟩, ?_⟩
        rw [hitemId]
        exact hready
    · obtain rfl : row = order := Table.eq_of_key hrow hmem hrowId
      exact absurd hpending hnever

theorem keepsSale_approve (hok : db.Ok) (canApprove : Bool) :
    KeepsSale (approveProvision orderId canApprove) db := by
  intro a db' hcommits
  simp only [approveProvision, Tx.commits_bind, Tx.commits_get, Tx.commits_orThrow,
    Tx.commits_throwIf] at hcommits
  obtain ⟨_, _, ⟨rfl, rfl⟩, order, _, ⟨-, rfl⟩, _, db, ⟨-, rfl⟩, hcommits⟩ := hcommits
  rcases Tx.commits_ite.1 hcommits with ⟨-, hupdate⟩ | ⟨-, hpure⟩
  · obtain rfl := Tx.commits_modify.1 hupdate
    exact ok_moveTo hok
  · obtain ⟨-, rfl⟩ := Tx.commits_pure.1 hpure
    exact hok

theorem keepsSale_refund (hok : db.Ok) : KeepsSale (refundOrder orderId) db := by
  intro a db' hcommits
  simp only [refundOrder, Tx.commits_bind, Tx.commits_get, Tx.commits_orThrow, Tx.commits_throwIf,
    updateOrder, Tx.commits_modify] at hcommits
  obtain ⟨_, _, ⟨rfl, rfl⟩, order, _, ⟨-, rfl⟩, _, db, ⟨-, rfl⟩, rfl⟩ := hcommits
  exact ok_updateOrder hok (fun row _ _ hpaid => by cases hpaid)
    fun row _ _ hdispatched _ => ⟨hdispatched, by rintro ⟨⟩⟩

/-! ## The expiry of a quote -/

/-- The flow is where the expiry has read it, or has been moved by the same expiry. -/
def ReadQuote.Stands (read : ReadQuote) (db : SaleDb) : Prop :=
  read.fromState ∈ expireableFlowStates →
    read.existing db = some read.transition ∨
      (read.existing db = none ∧ ∀ state ∈ read.ownerStates db, state = read.fromState)

instance (read : ReadQuote) (db : SaleDb) : Decidable (read.Stands db) :=
  inferInstanceAs (Decidable (_ → _))

/-- A move of the flow sells nothing. -/
theorem sold_of_moveTo {state : ProductFlowState} {itemId : String}
    (h : ({ db with orders := db.orders.modify orderId (.moveTo state) fun _ => rfl } :
      SaleDb).sold itemId) : db.sold itemId := by
  obtain ⟨order, horder, hpaid, hitem⟩ := h
  have h : order ∈ db.orders.modify orderId (.moveTo state) fun _ => rfl := horder
  obtain ⟨row, hrow, rfl⟩ := Table.mem_modify.1 h
  refine ⟨row, hrow, ?_⟩
  by_cases hid : row.id = orderId
  · rw [if_pos hid] at hpaid hitem
    exact ⟨hpaid, hitem⟩
  · rw [if_neg hid] at hpaid hitem
    exact ⟨hpaid, hitem⟩

/-- The transition of the flow finds it where the expiry has read it, and sells nothing. -/
theorem transitionFlow_spec {read : ReadQuote} {db' : SaleDb} {u : Unit} (hok : db.Ok)
    (h : Tx.Commits read.transitionFlow db u db') :
    (read.existing db = some read.transition ∨
      (read.existing db = none ∧ ∀ state ∈ read.ownerStates db, state = read.fromState)) ∧
      db'.Ok ∧ ∀ itemId, db'.sold itemId → db.sold itemId := by
  simp only [ReadQuote.transitionFlow, Tx.commits_bind, Tx.commits_get] at h
  obtain ⟨_, db, ⟨rfl, rfl⟩, h⟩ := h
  cases hexisting : read.existing db with
  | some existing =>
      rw [hexisting] at h
      obtain ⟨hsame, rfl⟩ := Tx.commits_throwIf.1 h
      exact ⟨.inl (congrArg some (not_not.1 hsame)), hok, fun _ hsold => hsold⟩
  | none =>
      rw [hexisting] at h
      simp only [Tx.commits_bind, Tx.commits_throwIf, updateQuote, Tx.commits_modify] at h
      obtain ⟨_, db, ⟨hstates, rfl⟩, _, _, rfl, h⟩ := h
      refine ⟨.inr ⟨rfl, not_not.1 hstates⟩, ?_⟩
      cases horder : read.order with
      | none =>
          rw [horder] at h
          obtain ⟨-, rfl⟩ := Tx.commits_pure.1 h
          exact ⟨ok_quotes hok _, fun _ hsold => hsold⟩
      | some order =>
          rw [horder] at h
          obtain rfl := Tx.commits_modify.1 h
          exact ⟨ok_moveTo (ok_quotes hok _), fun itemId hsold => sold_of_moveTo hsold⟩

/-- The status of the quote is not what the transition looks at. -/
theorem stands_expired {read : ReadQuote} {status : RecommendationQuoteStatus} {quoteId : String}
    {hf : ∀ row : ReadyQuote, ({ row with status } : ReadyQuote).id = row.id} :
    read.existing { db with quotes := db.quotes.modify quoteId ({ · with status }) hf } =
        read.existing db ∧
      read.ownerStates { db with quotes := db.quotes.modify quoteId ({ · with status }) hf } =
        read.ownerStates db := by
  have hfind : ∀ other, (db.quotes.modify quoteId ({ · with status }) hf).find? other =
      if other = quoteId then (db.quotes.find? quoteId).map ({ · with status })
      else db.quotes.find? other := Table.find?_modify hf
  simp only [ReadQuote.existing, ReadQuote.ownerStates, hfind]
  by_cases hid : read.quote.id = quoteId
  · rw [if_pos hid, hid]
    cases db.quotes.find? quoteId with
    | none => exact ⟨rfl, rfl⟩
    | some quote => exact ⟨rfl, rfl⟩
  · rw [if_neg hid]
    exact ⟨rfl, rfl⟩

/-- An expiry whose item is not sold meanwhile. -/
theorem keepsSale_expire (hok : db.Ok) (read : ReadQuote) (now : ℤ)
    (hfree : read.Stands db → ∀ item ∈ read.item,
      item.item.inventoryStatus = .reserved ∧ item.item.assignedOrderId = none →
        ¬ db.sold item.item.id) : KeepsSale (expireReadQuote read now) db := by
  intro a db' hcommits
  simp only [expireReadQuote, Tx.commits_bind] at hcommits
  obtain ⟨_, mid, hstatus, _, mid', hflow, hrelease⟩ := hcommits
  have hmid : mid.Ok ∧ (∀ itemId, mid.sold itemId → db.sold itemId) ∧
      read.existing mid = read.existing db ∧ read.ownerStates mid = read.ownerStates db := by
    rcases Tx.commits_ite.1 hstatus with ⟨-, hupdate⟩ | ⟨-, hpure⟩
    · obtain rfl := Tx.commits_modify.1 hupdate
      exact ⟨ok_quotes hok _, fun _ hsold => hsold, stands_expired⟩
    · obtain ⟨-, rfl⟩ := Tx.commits_pure.1 hpure
      exact ⟨hok, fun _ hsold => hsold, rfl, rfl⟩
  obtain ⟨hmidOk, hmidSold, hexisting, hstates⟩ := hmid
  have hmid' : read.Stands db ∧ mid'.Ok ∧ ∀ itemId, mid'.sold itemId → mid.sold itemId := by
    rcases Tx.commits_ite.1 hflow with ⟨-, htransition⟩ | ⟨hout, hpure⟩
    · obtain ⟨hstands, hrest⟩ := transitionFlow_spec hmidOk htransition
      rw [hexisting, hstates] at hstands
      exact ⟨fun _ => hstands, hrest⟩
    · obtain ⟨-, rfl⟩ := Tx.commits_pure.1 hpure
      exact ⟨fun hin => absurd hin hout, hmidOk, fun _ hsold => hsold⟩
  obtain ⟨hstands, hmidOk', hmidSold'⟩ := hmid'
  unfold ReadQuote.releaseItem at hrelease
  cases hitem : read.item with
  | none =>
      rw [hitem] at hrelease
      obtain ⟨-, rfl⟩ := Tx.commits_pure.1 hrelease
      exact hmidOk'
  | some item =>
      rw [hitem] at hrelease
      exact keepsSale_releaseRead hmidOk' (fun hreserved hsold => hfree hstands item hitem hreserved
        (hmidSold _ (hmidSold' _ hsold))) _ _ hrelease

/-! ## The dispatch -/

theorem isApproved_iff {order : ReadyOrder} : order.isApproved = true ↔
    order.status = .paid ∧ order.productFlowState = .provisionApproved ∧ order.dispatched = false := by
  simp only [ReadyOrder.isApproved, Bool.and_eq_true, decide_eq_true_eq, Bool.not_eq_true', and_assoc]

theorem reservation_spec {order : ReadyOrder} {item : Option PreprovisionedInventoryItem}
    {input : Dispatch} {reservation : InventoryOfOrder}
    (h : order.reservation item input = some reservation) :
    ∃ row, item = some row ∧ reservation.inventoryItemId = row.id ∧ reservation.orderId = order.id := by
  unfold ReadyOrder.reservation at h
  split at h
  · rename_i row selection _
    split at h
    · obtain ⟨quoteId, -, h⟩ := Option.bind_eq_some_iff.1 h
      obtain ⟨revision, -, rfl⟩ := Option.map_eq_some_iff.1 h
      exact ⟨row, rfl, rfl, rfl⟩
    · cases h
  · cases h

/-- **A dispatch assigns the item to its order**, and touches no other item. -/
theorem keepsSale_dispatch (hok : db.Ok) (input : Dispatch) :
    KeepsSale (dispatchApprovedProvision input) db := by
  intro a db' hcommits
  simp only [dispatchApprovedProvision, Tx.commits_bind, Tx.commits_get, Tx.commits_orThrow] at hcommits
  obtain ⟨_, _, ⟨rfl, rfl⟩, order, db, ⟨horder, rfl⟩, hcommits⟩ := hcommits
  rcases Tx.commits_ite.1 hcommits with ⟨happroved, hcommits⟩ | ⟨-, hcommits⟩
  · simp only [Tx.commits_bind, Tx.commits_orThrow, updateOrder, Tx.commits_modify, Tx.commits_pure]
      at hcommits
    obtain ⟨reservation, db, ⟨hreservation, rfl⟩, _, _, hadopt, _, _, rfl, -, rfl⟩ := hcommits
    obtain ⟨inventory, hbody, rfl⟩ := commits_onInventory.1 hadopt
    obtain ⟨_, mid, hassign, htransfer⟩ := Tx.commits_bind.1 hbody
    obtain ⟨item, -, hwrote⟩ := assign_spec hassign
    obtain ⟨hitems, -, htransferred, hothers⟩ := transfer_spec htransfer
    obtain ⟨row, hrow, hrowId, horderId⟩ := reservation_spec hreservation
    obtain ⟨hpaid, -, hopen⟩ := isApproved_iff.1 happroved
    obtain ⟨hmem, hid⟩ := Table.find?_eq_some.1 horder
    -- the item that is assigned is the one that the order holds
    have hitemId : reservation.inventoryItemId = order.inventoryItemId := by
      rw [hrowId]
      exact (IndexedTable.find?_eq_some.1 hrow).2
    rw [hitemId, horderId] at hwrote
    rw [hitemId] at htransferred hothers
    obtain ⟨_, hfind, hholding⟩ := hok.holds order hmem hpaid
    obtain rfl := Option.some.inj (hwrote.found.symm.trans hfind)
    refine ⟨fun other hother hotherPaid => ?_, fun itemId seen orderId hseen hassigned => ?_,
      fun itemId credential hcredential hready => ?_⟩
    · have h : other ∈ db.orders.modify order.id ReadyOrder.submit fun _ => rfl := hother
      obtain ⟨before, hbefore, rfl⟩ := Table.mem_modify.1 h
      by_cases hsame : before.id = order.id
      · obtain rfl := Table.eq_of_key hbefore hmem hsame
        rw [if_pos rfl]
        refine ⟨_, (congrArg (IndexedTable.find? · _) hitems).trans hwrote.written, ?_⟩
        rw [Holding, ReadyOrder.submit, if_pos rfl]
        exact ⟨hholding.bound, hholding.quoted, rfl, by rintro ⟨⟩, by rintro ⟨⟩⟩
      · rw [if_neg hsame] at hotherPaid ⊢
        have hne : before.inventoryItemId ≠ order.inventoryItemId := fun heq =>
          hsame (congrArg ReadyOrder.id (hok.alone hbefore hotherPaid hmem hpaid heq))
        obtain ⟨seen, hseen, hheld⟩ := hok.holds before hbefore hotherPaid
        refine ⟨seen, ?_, ?_⟩
        · rw [hitems, hwrote.others _ hne]
          exact hseen
        · rw [hothers _ hne, hwrote.credentials]
          exact hheld
    · have hfind : ∀ other, (db.orders.modify order.id ReadyOrder.submit fun _ => rfl).find? other =
          if other = order.id then (db.orders.find? order.id).map ReadyOrder.submit
          else db.orders.find? other := Table.find?_modify _
      have hown : db.orders.find? order.id = some order := Table.find?_of_mem hmem
      by_cases hsame : orderId = order.id
      · refine ⟨order.submit, (hfind orderId).trans ?_, rfl, ?_⟩
        · rw [if_pos hsame, hown]
          rfl
        · rw [ReadyOrder.submit, hpaid]
          rintro ⟨⟩
      · rw [hitems] at hseen
        by_cases hitem : itemId = order.inventoryItemId
        · rw [hitem, hwrote.written] at hseen
          obtain rfl := Option.some.inj hseen
          exact absurd (Option.some.inj hassigned).symm hsame
        · rw [hwrote.others _ hitem] at hseen
          obtain ⟨other, hother, hrest⟩ := hok.assigned itemId seen orderId hseen hassigned
          exact ⟨other, ((hfind orderId).trans (if_neg hsame)).trans hother, hrest⟩
    · by_cases hitem : itemId = order.inventoryItemId
      · rw [hitem] at hcredential
        rw [hcredential, Option.map_some, hready] at htransferred
        cases htransferred
      · rw [hothers _ hitem, hwrote.credentials] at hcredential
        exact hok.unused itemId credential hcredential hready
  · obtain ⟨-, rfl⟩ := Tx.commits_pure.1 hcommits
    exact hok

end Orders

/-! ## A dispatch that finds its item -/

/-- The dispatch meets what `assignReservedInventoryTx` asks for of the clock and of the plan: the item is
fresh, its reservation is not over, and the plan still has its catalog item. -/
def Dispatch.InTime (input : Dispatch) (db : SaleDb) : Prop :=
  ∀ order ∈ db.orders.find? input.orderId, order.isApproved = true →
    (∀ item ∈ db.inventory.items.find? order.inventoryItemId,
      isPreprovisionedInventoryFresh item input.now = true ∧
        (∀ expiry ∈ item.reservationExpiresAt, input.now < expiry) ∧
        item.mapping.catalogItemId = input.catalogItemId) ∧
      db.inventory.instanceCredentials.find? input.cloudInstanceId = none

/-- **The dispatch of an order that is paid and approved finds its item.** -/
theorem commits_dispatch {db : SaleDb} (hok : db.Ok) {input : Dispatch} (hinTime : input.InTime db)
    {order : ReadyOrder} (horder : db.orders.find? input.orderId = some order)
    (happroved : order.isApproved = true) :
    ∃ db', Tx.Commits (dispatchApprovedProvision input) db true db' := by
  obtain ⟨hpaid, -, hopen⟩ := isApproved_iff.1 happroved
  obtain ⟨hmem, hid⟩ := Table.find?_eq_some.1 horder
  obtain ⟨item, hitem, hholding⟩ := hok.holds order hmem hpaid
  rw [Holding, if_neg (by simp [hopen])] at hholding
  obtain ⟨hintime, hinstance⟩ := hinTime order horder happroved
  obtain ⟨hfresh, hunexpired, hcatalog⟩ := hintime item hitem
  obtain ⟨revision, hrevision⟩ := hholding.revision
  obtain ⟨expiry, hexpiry⟩ := hholding.expiry
  obtain ⟨ready, hcredential, hready⟩ := hholding.credential
  have hitemId : item.id = order.inventoryItemId := (IndexedTable.find?_eq_some.1 hitem).2
  have hreservation : order.reservation (some item) input =
      some ⟨item.id, order.quoteId, order.id, revision, input.now⟩ := by
    unfold ReadyOrder.reservation
    rw [hholding.selection]
    dsimp only
    rw [if_pos, hholding.quoted, hrevision]
    · rfl
    · rw [← hcatalog]
  have hreserved : item.isReserved input.now = true :=
    isReserved_iff.2 ⟨hholding.status, hholding.unassigned, expiry, hexpiry, hunexpired expiry hexpiry⟩
  have hfree : ∀ other ∈ db.inventory.items.rows, other.assignedOrderId ≠ some order.id := by
    intro other hother hassigned
    obtain ⟨seen, hseen, hdispatched, -⟩ := hok.assigned other.id other order.id
      (IndexedTable.find?_eq_some.2 ⟨hother, rfl⟩) hassigned
    rw [Table.find?_of_mem hmem] at hseen
    obtain rfl := Option.some.inj hseen
    rw [hopen] at hdispatched
    cases hdispatched
  rw [← hitemId] at hitem hcredential
  have hadoptable : ∃ later, Tx.Commits (adoptInventoryTx
      ⟨item.id, order.quoteId, order.id, revision, input.now⟩ input.cloudInstanceId) db.inventory ()
      later :=
    commits_adopt_iff.2 ⟨⟨item, hitem, hfresh, hreserved, hholding.quoted, hholding.bound, hrevision⟩,
      ⟨ready, hcredential, hready,
        hok.unused _ _ hcredential (InventoryCredential.status_of_isReady hready)⟩, hfree, hinstance⟩
  obtain ⟨later, hadoptable⟩ := hadoptable
  have hadopt : Tx.Commits (onInventory (adoptInventoryTx
      ⟨item.id, order.quoteId, order.id, revision, input.now⟩ input.cloudInstanceId)) db ()
      { db with inventory := later } :=
    commits_onInventory.2 ⟨later, hadoptable, rfl⟩
  refine ⟨{ db with
    inventory := later
    orders := db.orders.modify order.id ReadyOrder.submit fun _ => rfl }, ?_⟩
  simp only [dispatchApprovedProvision, Tx.commits_bind, Tx.commits_get, Tx.commits_orThrow]
  refine ⟨_, _, ⟨rfl, rfl⟩, order, _, ⟨horder, rfl⟩, Tx.commits_ite.2 (.inl ⟨happroved, ?_⟩)⟩
  simp only [Tx.commits_bind, Tx.commits_orThrow, updateOrder, Tx.commits_modify, Tx.commits_pure]
  exact ⟨_, db, ⟨by rw [← hitemId, hitem, hreservation], rfl⟩, (), _, hadopt, (), _, rfl, trivial, rfl⟩

end AbrChin.Inventory
