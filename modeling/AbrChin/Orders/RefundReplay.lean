import AbrChin.Orders.Refund

/-!
# Refunding an order again

A command with a new key for an order that is refunded posts the refund again.  The first refund
has changed the quality of the purchase's entry, so that the replay check refuses the purchase;
only where the first refund has not reversed the purchase do further commands go through.
-/

namespace AbrChin.Orders

open Lib Js Wallet
open Accounting (Journal JournalEntry RefundIds RefundKeyTaken PurchasedOrder
  postServiceRefundCompleted stepJournal)

/-! ## The statements of the larger database -/

section Zooms

variable {α : Type} {db db' : ServiceDb} {a : α}

theorem commits_onBooks {body : Tx Books String α} :
    Tx.Commits (onBooks body) db a db' ↔
      ∃ books, Tx.Commits body db.books a books ∧ db' = { db with books } := by
  simp only [onBooks, Tx.commits_zoom]

theorem commits_onFlow {body : Tx ProductFlow.FlowDb ProductFlow.FlowError α} :
    Tx.Commits (onFlow body) db a db' ↔
      ∃ flow, Tx.Commits body db.flow a flow ∧ db' = { db with flow } := by
  simp only [onFlow, Tx.commits_mapError, Tx.commits_zoom]

theorem commits_onAccounting {body : Tx Journal Accounting.JournalError α} :
    Tx.Commits (onAccounting body) db a db' ↔
      ∃ accounting, Tx.Commits body db.accounting a accounting ∧ db' = { db with accounting } := by
  simp only [onAccounting, Tx.commits_mapError, Tx.commits_zoom]

end Zooms

/-! ## What a refund leaves alone -/

/-- The columns that a refund reads again when it is repeated. -/
structure Untouched (db db' : ServiceDb) : Prop where
  accounting : db'.accounting = db.accounting
  quotes : db'.quotes = db.quotes
  receipts : db'.receipts = db.receipts

theorem purchased_withStatus (db : ServiceDb) (order : ServiceOrder) (status : ServiceOrderStatus) :
    db.purchased (order.withStatus status) = db.purchased order := rfl

theorem purchased_congr {db db' : ServiceDb} (h : db'.quotes = db.quotes) (order : ServiceOrder) :
    db'.purchased order = db.purchased order := by
  unfold ServiceDb.purchased ServiceDb.quoteOf
  rw [h]

variable {infra : Option InfrastructureOrder} {u : Unit}

theorem commits_restockManual {order : ServiceOrder} {seen db db' : ServiceDb}
    (h : Tx.Commits (restockManual order infra seen) db u db') :
    ∃ stock, db' = { db with stock } := by
  unfold restockManual at h
  dsimp only at h
  split at h
  · split at h
    · simp only [Tx.commits_attempt, Option.map_eq_some_iff] at h
      obtain ⟨stock, -, rfl⟩ := h
      exact ⟨stock, rfl⟩
    · obtain ⟨-, rfl⟩ := Tx.commits_pure.1 h
      exact ⟨_, rfl⟩
  · obtain ⟨-, rfl⟩ := Tx.commits_pure.1 h
    exact ⟨_, rfl⟩

variable {orderId : String}

theorem commits_setOrderStatus {status : ServiceOrderStatus} {db db' : ServiceDb}
    (h : Tx.Commits (setOrderStatus orderId status) db u db') :
    ∃ orders, db' = { db with orders } ∧
      orders.find? orderId = (db.orders.find? orderId).map (ServiceOrder.withStatus status) := by
  unfold setOrderStatus at h
  simp only [Tx.commits_attempt, Option.map_eq_some_iff] at h
  obtain ⟨orders, hupdate, rfl⟩ := h
  obtain ⟨row, hrow, -, rfl⟩ := Table.updateIf?_eq_some.1 hupdate
  refine ⟨_, rfl, ?_⟩
  rw [Table.find?_modify, if_pos rfl]

theorem commits_setInfrastructureStatus {id : String} {status : InfrastructureOrderStatus}
    {db db' : ServiceDb} (h : Tx.Commits (setInfrastructureStatus id status) db u db') :
    ∃ infrastructureOrders, db' = { db with infrastructureOrders } := by
  unfold setInfrastructureStatus at h
  simp only [Tx.commits_attempt, Option.map_eq_some_iff] at h
  obtain ⟨infrastructureOrders, -, rfl⟩ := h
  exact ⟨infrastructureOrders, rfl⟩

theorem commits_cancelFlow {transition : ProductFlow.ProductFlowTransitionInput}
    {seen db db' : ServiceDb} (h : Tx.Commits (cancelFlow transition seen) db u db') :
    ∃ flow, db' = { db with flow } := by
  unfold cancelFlow at h
  split at h
  · obtain ⟨-, rfl⟩ := Tx.commits_pure.1 h
    exact ⟨_, rfl⟩
  · simp only [Tx.commits_bind, Tx.commits_get, commits_onFlow, Tx.commits_pure] at h
    obtain ⟨_, _, ⟨rfl, rfl⟩, _, _, ⟨flow, -, rfl⟩, -, rfl⟩ := h
    exact ⟨flow, rfl⟩

theorem commits_refundInfrastructure {db db' : ServiceDb}
    (h : Tx.Commits (refundInfrastructure infra) db u db') :
    ∃ infrastructureOrders, db' = { db with infrastructureOrders } := by
  unfold refundInfrastructure at h
  cases infra with
  | none =>
      obtain ⟨-, rfl⟩ := Tx.commits_pure.1 h
      exact ⟨_, rfl⟩
  | some infra => exact commits_setInfrastructureStatus h

/-- The refund of a paid order marks it, and leaves the journal to the posting. -/
theorem commits_refundPaidOrder {input : RefundOrder} {reason : String} {order : ServiceOrder}
    {seen : ℕ → ServiceDb} {db db' : ServiceDb}
    (h : Tx.Commits (refundPaidOrder input reason order infra seen) db u db') :
    Untouched db db' ∧ db'.orders.find? order.id =
      (db.orders.find? order.id).map (ServiceOrder.withStatus .refunded) := by
  unfold refundPaidOrder at h
  simp only [Tx.commits_bind, Tx.commits_get, Tx.commits_ofExcept, commits_onFlow,
    commits_onBooks] at h
  obtain ⟨_, _, ⟨rfl, rfl⟩, _, _, ⟨-, rfl⟩, flowState, _, ⟨-, rfl⟩, _, _, ⟨flow, ⟨-, rfl⟩, rfl⟩,
    refundEntry, _, ⟨books, -, rfl⟩, _, _, hrestock, _, _, hcancel, _, _, horder, hinfra⟩ := h
  obtain ⟨stock, rfl⟩ := commits_restockManual hrestock
  obtain ⟨flow, rfl⟩ := commits_cancelFlow hcancel
  obtain ⟨orders, rfl, hmarked⟩ := commits_setOrderStatus horder
  obtain ⟨infrastructureOrders, rfl⟩ := commits_refundInfrastructure hinfra
  exact ⟨⟨rfl, rfl, rfl⟩, hmarked⟩

theorem commits_postRefund {input : RefundOrder} {order : ServiceOrder} {db db' : ServiceDb} :
    Tx.Commits (postRefund input order) db u db' ↔
      ∃ entry accounting, Tx.Commits (postServiceRefundCompleted (db.purchased order)
        input.journalIds input.now) db.accounting entry accounting ∧
        db' = { db with accounting } := by
  simp only [postRefund, Tx.commits_bind, Tx.commits_get, commits_onAccounting, Tx.commits_pure]
  constructor
  · rintro ⟨_, _, ⟨rfl, rfl⟩, entry, _, ⟨accounting, hpost, rfl⟩, -, rfl⟩
    exact ⟨entry, accounting, hpost, rfl⟩
  · rintro ⟨entry, accounting, hpost, rfl⟩
    exact ⟨_, _, ⟨rfl, rfl⟩, entry, _, ⟨accounting, hpost, rfl⟩, trivial, rfl⟩

theorem commits_replayAdminCommand {command : AdminCommand} {db db' : ServiceDb} {replay : Bool} :
    Tx.Commits (replayAdminCommand command) db replay db' ↔
      db' = db ∧ ((db.receipts.find? command.receiptKey = none ∧ replay = false) ∨
        (db.receipts.find? command.receiptKey = some command.receipt ∧ replay = true)) := by
  simp only [replayAdminCommand, Tx.commits_bind, Tx.commits_get]
  cases hreceipt : db.receipts.find? command.receiptKey with
  | none =>
      constructor
      · rintro ⟨_, _, ⟨rfl, rfl⟩, h⟩
        simp only [hreceipt, Tx.commits_pure] at h
        exact ⟨h.2, .inl ⟨rfl, h.1⟩⟩
      · rintro ⟨rfl, ⟨-, rfl⟩ | ⟨hsome, -⟩⟩
        · refine ⟨_, _, ⟨rfl, rfl⟩, ?_⟩
          simp only [hreceipt, Tx.commits_pure, true_and]
        · cases hsome
  | some receipt =>
      constructor
      · rintro ⟨_, _, ⟨rfl, rfl⟩, h⟩
        simp only [hreceipt, Tx.commits_bind, Tx.commits_throwIf, Tx.commits_pure] at h
        obtain ⟨_, _, ⟨hsame, rfl⟩, rfl, rfl⟩ := h
        exact ⟨rfl, .inr ⟨congrArg some (not_not.1 hsame), rfl⟩⟩
      · rintro ⟨rfl, ⟨hnone, -⟩ | ⟨hsame, rfl⟩⟩
        · cases hnone
        · refine ⟨_, _, ⟨rfl, rfl⟩, ?_⟩
          simp only [hreceipt, Tx.commits_bind, Tx.commits_throwIf, Tx.commits_pure]
          exact ⟨(), _, ⟨not_not.2 (Option.some.inj hsame), rfl⟩, trivial, rfl⟩

theorem commits_persistAdminCommandReceipt {command : AdminCommand} {db db' : ServiceDb} :
    Tx.Commits (persistAdminCommandReceipt command) db u db' ↔
      ∃ receipts, db.receipts.insert? command.receipt = some receipts ∧
        db' = { db with receipts } := by
  simp only [persistAdminCommandReceipt, Tx.commits_attempt, Option.map_eq_some_iff]
  exact exists_congr fun receipts => and_congr_right fun _ => eq_comm

/-! ## A first refund -/

/-- A call that refunds a paid order. -/
structure FirstRefund (versions : Versions ServiceDb) (call : Versions.Call RefundOrder)
    (order : ServiceOrder) : Prop where
  found : versions.current.orders.find? call.input.orderId = some order
  paid : order.status = .paid
  refunded : ((stepRefund versions call).1.current.orders.find? call.input.orderId).map
    ServiceOrder.status = some .refunded

/-- What a first refund posts and marks. -/
theorem FirstRefund.posts {versions : Versions ServiceDb} {call : Versions.Call RefundOrder}
    {order : ServiceOrder} (h : FirstRefund versions call order) :
    ∃ entry, Tx.Commits (postServiceRefundCompleted (versions.current.purchased order)
        call.input.journalIds call.input.now) versions.current.accounting entry
        (stepRefund versions call).1.current.accounting ∧
      (stepRefund versions call).1.current.quotes = versions.current.quotes ∧
      (stepRefund versions call).1.current.orders.find? order.id =
        some (order.withStatus .refunded) := by
  have hid : order.id = call.input.orderId := Table.key_of_find? h.found
  have hrefunded := h.refunded
  have hmoves : (stepRefund versions call).1.current ≠ versions.current := by
    intro hsame
    rw [hsame, h.found, Option.map_some, h.paid] at hrefunded
    cases hrefunded
  unfold stepRefund at hmoves ⊢
  rcases Versions.step_cases refundOrder versions call with ⟨result, db, hcommits, hstep⟩ | ⟨e, hstep⟩
  · rw [hstep] at hmoves ⊢
    simp only [refundOrder, Tx.commits_bind, Tx.commits_get, Tx.commits_orThrow,
      Tx.commits_ofExcept, Tx.commits_throwIf, commits_replayAdminCommand] at hcommits
    obtain ⟨_, _, ⟨rfl, rfl⟩, found, _, ⟨hfound, rfl⟩, command, _, ⟨-, rfl⟩, _, _, ⟨-, rfl⟩, replay,
      _, ⟨rfl, hreplay⟩, hbody⟩ := hcommits
    rw [h.found] at hfound
    cases hfound
    rcases hreplay with ⟨-, rfl⟩ | ⟨-, rfl⟩
    · have hpaid : ¬ order.status = .refunded := by
        rw [h.paid]
        rintro ⟨⟩
      simp only [Bool.false_eq_true, if_false, if_neg hpaid, Tx.commits_bind, Tx.commits_throwIf,
        commits_postRefund, commits_persistAdminCommandReceipt, Tx.commits_pure] at hbody
      obtain ⟨_, _, ⟨-, rfl⟩, _, middle, hrefund, _, _, ⟨entry, accounting, hpost, rfl⟩, _, _,
        ⟨receipts, -, rfl⟩, -, rfl⟩ := hbody
      obtain ⟨huntouched, hmarked⟩ := commits_refundPaidOrder hrefund
      rw [purchased_withStatus, purchased_congr huntouched.quotes, huntouched.accounting] at hpost
      rw [hid, h.found, Option.map_some] at hmarked
      exact ⟨entry, hpost, huntouched.quotes, by rw [hid]; exact hmarked⟩
    · -- a replayed command changes nothing
      simp only [if_true, Tx.commits_pure] at hbody
      exact absurd hbody.2 hmoves
  · rw [hstep] at hmoves
    exact absurd rfl hmoves

/-! ## Further refunds -/

/-- A well-formed command of an admin for an order, with a key that is new. -/
structure Further (orderId : String) (versions : Versions ServiceDb)
    (call : Versions.Call RefundOrder) : Prop where
  order : call.input.orderId = orderId
  reason : 3 ≤ length (trim call.input.reason) ∧ length (trim call.input.reason) ≤ 500
  key : isIdempotencyKey call.input.idempotencyKey = true
  isNew : versions.current.receipts.find? ("admin-command:" ++ call.input.idempotencyKey) = none
  eligible : call.input.actorUserId ∈ (versions.seen call.ages 0).eligibleAdmins

/-- What a further command reads of the database, since a first refund. -/
structure Settled (after : ServiceDb) (order : ServiceOrder) (db : ServiceDb) : Prop where
  found : db.orders.find? order.id = some (order.withStatus .refunded)
  quotes : db.quotes = after.quotes
  accounting : db.accounting = after.accounting
  books : db.books = after.books

theorem normalizeAdminCommand_of_further {versions : Versions ServiceDb}
    {call : Versions.Call RefundOrder} (h : Further orderId versions call)
    (infra : Option InfrastructureOrder) :
    ∃ command, normalizeAdminCommand (call.input.command infra) = .ok command ∧
      command.receiptKey = "admin-command:" ++ call.input.idempotencyKey := by
  refine ⟨_, bind_eq_ok.2 ⟨(), throwIf_eq_ok.2 ?_, bind_eq_ok.2 ⟨(), throwIf_eq_ok.2 ?_, rfl⟩⟩, rfl⟩
  · have hreason := h.reason
    show ¬ (length (trim call.input.reason) < 3 ∨ 500 < length (trim call.input.reason))
    omega
  · show ¬ isIdempotencyKey call.input.idempotencyKey = false
    rw [h.key]
    exact fun heq => nomatch heq

section

variable {versions : Versions ServiceDb} {call : Versions.Call RefundOrder} {order : ServiceOrder}
  (h : Further order.id versions call)
  (hfound : versions.current.orders.find? order.id = some (order.withStatus .refunded))
include h hfound

/-- A further command that returns has posted the refund again. -/
theorem posted_of_further {result : ServiceOrder} {db : ServiceDb}
    (hcommits : Tx.Commits (refundOrder call.input (versions.seen call.ages)) versions.current
      result db) :
    ∃ entry accounting receipts,
      Tx.Commits (postServiceRefundCompleted (versions.current.purchased order)
        call.input.journalIds call.input.now) versions.current.accounting entry accounting ∧
      db = { versions.current with accounting, receipts } := by
  have hfound' := hfound
  rw [← h.order] at hfound'
  simp only [refundOrder, Tx.commits_bind, Tx.commits_get, Tx.commits_orThrow, Tx.commits_ofExcept,
    Tx.commits_throwIf, commits_replayAdminCommand] at hcommits
  obtain ⟨_, _, ⟨rfl, rfl⟩, found, _, ⟨hfound, rfl⟩, command, _, ⟨hcommand, rfl⟩, _, _, ⟨-, rfl⟩,
    replay, _, ⟨rfl, hreplay⟩, hbody⟩ := hcommits
  rw [hfound'] at hfound
  cases hfound
  obtain ⟨command', hcommand', hkey⟩ := normalizeAdminCommand_of_further h
    (versions.current.infrastructureOf (order.withStatus .refunded).id)
  obtain rfl : command' = command := Except.ok.inj (hcommand'.symm.trans hcommand)
  rw [hkey, h.isNew] at hreplay
  rcases hreplay with ⟨-, rfl⟩ | ⟨hsome, -⟩
  · have hrefunded : (order.withStatus .refunded).status = .refunded := rfl
    simp only [Bool.false_eq_true, if_false, if_pos hrefunded, Tx.commits_bind, commits_postRefund,
      commits_persistAdminCommandReceipt, Tx.commits_pure] at hbody
    obtain ⟨_, _, ⟨entry, accounting, hpost, rfl⟩, _, _, ⟨receipts, -, rfl⟩, -, rfl⟩ := hbody
    exact ⟨entry, accounting, receipts, hpost, rfl⟩
  · cases hsome

/-- A further command returns when the refund can be posted again. -/
theorem further_of_posted {entry : JournalEntry} {accounting : Journal}
    (hpost : Tx.Commits (postServiceRefundCompleted (versions.current.purchased order)
      call.input.journalIds call.input.now) versions.current.accounting entry accounting) :
    ∃ receipts, Tx.Commits (refundOrder call.input (versions.seen call.ages)) versions.current
      (order.withStatus .refunded) { versions.current with accounting, receipts } := by
  have hfound' := hfound
  rw [← h.order] at hfound'
  obtain ⟨command, hcommand, hkey⟩ := normalizeAdminCommand_of_further h
    (versions.current.infrastructureOf (order.withStatus .refunded).id)
  have hfree : versions.current.receipts.find? command.receiptKey = none := by
    rw [hkey, h.isNew]
  have hinsert : (versions.current.receipts.insert? command.receipt).isSome :=
    Table.insert?_isSome hfree
  obtain ⟨receipts, hreceipts⟩ := Option.isSome_iff_exists.1 hinsert
  refine ⟨receipts, ?_⟩
  simp only [refundOrder, Tx.commits_bind, Tx.commits_get, Tx.commits_orThrow, Tx.commits_ofExcept,
    Tx.commits_throwIf, commits_replayAdminCommand]
  refine ⟨_, _, ⟨rfl, rfl⟩, _, _, ⟨hfound', rfl⟩, command, _, ⟨hcommand, rfl⟩, (), _,
    ⟨not_not.2 h.eligible, rfl⟩, false, _, ⟨rfl, .inl ⟨hfree, rfl⟩⟩, ?_⟩
  have hrefunded : (order.withStatus .refunded).status = .refunded := rfl
  simp only [Bool.false_eq_true, if_false, if_pos hrefunded, Tx.commits_bind, commits_postRefund,
    commits_persistAdminCommandReceipt, Tx.commits_pure]
  exact ⟨(), _, ⟨entry, accounting, hpost, rfl⟩, (), _, ⟨receipts, hreceipts, rfl⟩, trivial, rfl⟩

end

/-- Further commands leave what they read alone, when posting again leaves the journal alone. -/
theorem Settled.step {after : ServiceDb} {order : ServiceOrder} {versions : Versions ServiceDb}
    {call : Versions.Call RefundOrder}
    (hpost : ∀ ids now entry accounting, Tx.Commits
      (postServiceRefundCompleted (after.purchased order) ids now) after.accounting entry accounting →
        accounting = after.accounting)
    (hcall : Further order.id versions call) (h : Settled after order versions.current) :
    Settled after order (stepRefund versions call).1.current := by
  unfold stepRefund
  rcases Versions.step_cases refundOrder versions call with ⟨result, db, hcommits, hstep⟩ | ⟨e, hstep⟩
  · rw [hstep]
    obtain ⟨entry, accounting, receipts, hposted, rfl⟩ := posted_of_further hcall h.found hcommits
    rw [purchased_congr h.quotes, h.accounting] at hposted
    exact ⟨h.found, h.quotes, hpost _ _ _ _ hposted, h.books⟩
  · rw [hstep]
    exact h

/-- What posting again does after a first refund. -/
theorem post_again {versions : Versions ServiceDb} {first : Versions.Call RefundOrder}
    {order : ServiceOrder} {operations : List (Versions.Call Accounting.Operation)}
    (hjournal : versions.current.accounting =
      (run stepJournal (Versions.init IndexedTable.empty) operations).current)
    (hfirst : FirstRefund versions first order) :
    let after := (stepRefund versions first).1.current
    ∃ entry, Tx.Commits (postServiceRefundCompleted (versions.current.purchased order)
        first.input.journalIds first.input.now) versions.current.accounting entry after.accounting ∧
      (RefundKeyTaken order.id versions.current.accounting → ∀ ids now, Tx.Commits
        (postServiceRefundCompleted (after.purchased order) ids now) after.accounting entry
          after.accounting) ∧
      (¬ RefundKeyTaken order.id versions.current.accounting → ∀ ids now entry accounting,
        ¬ Tx.Commits (postServiceRefundCompleted (after.purchased order) ids now) after.accounting
          entry accounting) := by
  intro after
  obtain ⟨entry, hposted, hquotes, -⟩ := hfirst.posts
  have hkept : Accounting.Kept versions.current.accounting := by
    rw [hjournal]
    exact (Accounting.kept_run operations).current
  have hmarked : Accounting.Marked versions.current.accounting := by
    rw [hjournal]
    exact Accounting.marked_run operations
  have hpurchased : after.purchased order = versions.current.purchased order :=
    purchased_congr hquotes order
  refine ⟨entry, hposted, ?_, ?_⟩
  · intro htaken ids now
    rw [hpurchased]
    exact Accounting.refund_again_of_taken hkept hposted htaken ids now
  · intro hfree ids now other accounting hagain
    rw [hpurchased] at hagain
    obtain ⟨stored, hstored, hquality⟩ :=
      Accounting.reversed_of_refund hkept hmarked hposted hfree
    obtain ⟨purchase, mid, hpurchase, -⟩ := Accounting.commits_refund.1 hagain
    exact Accounting.not_purchased_of_reversed hstored hquality hpurchase

/-- **A refunded order is refunded again** without effect exactly when the first refund has found
its key taken by an entry that does not reverse the purchase.  Everywhere else each further
command, whatever commands have come before it, is refused or posts something else. -/
theorem refund_idempotent_iff (operations : List (Versions.Call Accounting.Operation))
    {versions : Versions ServiceDb} {first : Versions.Call RefundOrder} {order : ServiceOrder}
    (hjournal : versions.current.accounting =
      (run stepJournal (Versions.init IndexedTable.empty) operations).current)
    (hfirst : FirstRefund versions first order) {calls : List (Versions.Call RefundOrder)}
    (hcalls : Meets stepRefund (Further order.id) (stepRefund versions first).1 calls)
    {call : Versions.Call RefundOrder}
    (hcall : Further order.id (run stepRefund (stepRefund versions first).1 calls) call) :
    let after := (stepRefund versions first).1
    let last := run stepRefund after calls
    (∃ entry,
      Tx.Commits (postServiceRefundCompleted (versions.current.purchased order)
        first.input.journalIds first.input.now) versions.current.accounting entry
          after.current.accounting ∧
      Tx.Commits (postServiceRefundCompleted (last.current.purchased order)
        call.input.journalIds call.input.now) last.current.accounting entry
          after.current.accounting ∧
      (stepRefund last call).2 = .ok (order.withStatus .refunded) ∧
      (stepRefund last call).1.current.accounting = after.current.accounting ∧
      (stepRefund last call).1.current.books = after.current.books) ↔
    RefundKeyTaken order.id versions.current.accounting := by
  intro after last
  obtain ⟨entry, hposted, htaken, hfree⟩ := post_again hjournal hfirst
  have hunchanged : ∀ ids now other accounting, Tx.Commits
      (postServiceRefundCompleted (after.current.purchased order) ids now) after.current.accounting
        other accounting → accounting = after.current.accounting := by
    intro ids now other accounting hagain
    by_cases hkey : RefundKeyTaken order.id versions.current.accounting
    · have hsame : (Except.ok other, accounting) = (Except.ok entry, after.current.accounting) :=
        hagain.symm.trans (htaken hkey ids now)
      exact (Prod.mk.inj hsame).2
    · exact absurd hagain (hfree hkey ids now other accounting)
  obtain ⟨_, -, -, hfound⟩ := hfirst.posts
  have hstart : Settled after.current order after.current := ⟨hfound, rfl, rfl, rfl⟩
  have hlast : Settled after.current order last.current :=
    run_of_meets (p := fun versions : Versions ServiceDb =>
        Settled after.current order versions.current)
      (fun _ _ hfurther hsettled => hsettled.step hunchanged hfurther) hstart hcalls
  have hsame : last.current.purchased order = after.current.purchased order :=
    purchased_congr hlast.quotes order
  constructor
  · rintro ⟨other, -, hagain, -⟩
    by_contra hkey
    rw [hsame, hlast.accounting] at hagain
    exact hfree hkey _ _ _ _ hagain
  · intro hkey
    have hagain : Tx.Commits (postServiceRefundCompleted (last.current.purchased order)
        call.input.journalIds call.input.now) last.current.accounting entry
          after.current.accounting := by
      rw [hsame, hlast.accounting]
      exact htaken hkey _ _
    obtain ⟨receipts, hcommits⟩ := further_of_posted hcall hlast.found hagain
    have hstep := Versions.step_commits hcommits
    refine ⟨entry, hposted, hagain, ?_, ?_, ?_⟩
    · unfold stepRefund
      rw [hstep]
    · unfold stepRefund
      rw [hstep]
      rfl
    · unfold stepRefund
      rw [hstep]
      exact hlast.books

/-- An order that has been paid from a wallet. -/
def sampleOrder : ServiceOrder where
  id := "o"
  userId := "u"
  amount := 100
  termMonths := 1
  couponCodeSnapshot := none
  status := .paid
  planId := none
  planSnapshot := none
  recommendationQuoteId := none
  quoteExpiresAt := none
  provider := none
  productKind := none
  parchinLevel := none
  paidAt := some 0
  createdAt := 0

/-- The wallet that has paid it. -/
def sampleBooks : Books where
  wallets := (IndexedTable.empty.insert? ⟨"w", "u", 0, .active, "IRR"⟩).getD .empty
  ledger := (IndexedTable.empty.insert? {
    id := "debit"
    walletId := "w"
    direction := .debit
    type := .servicePurchase
    amount := 100
    status := .completed
    referenceType := some "order"
    referenceId := some "o"
    idempotencyKey := "order_pay_o"
    balanceAfter := 0 }).getD .empty

/-- The journal in which its purchase is posted. -/
def samplePosted : List (Versions.Call Accounting.Operation) :=
  [⟨.post (Accounting.servicePurchase (emptyDb.purchased sampleOrder)) "purchase" 0, []⟩]

/-- The order before it is refunded. -/
def sampleDb (operations : List (Versions.Call Accounting.Operation)) : ServiceDb :=
  { emptyDb with
    books := sampleBooks
    orders := (Table.empty.insert? sampleOrder).getD .empty
    accounting := (run stepJournal (Versions.init IndexedTable.empty) operations).current
    flow := ⟨fun
      | .serviceOrder => (Table.empty.insert? ⟨"o", some "PAID", 0⟩).getD .empty
      | _ => .empty, .empty, .empty⟩ }

/-- A command to refund the order. -/
def sampleRefund (key : String) (entry : String) : Versions.Call RefundOrder :=
  ⟨{ orderId := "o"
     actorUserId := "admin"
     reason := "customer asked"
     idempotencyKey := key
     now := 1
     ids := ⟨"w", entry, ""⟩
     journalIds := ⟨entry ++ "-purchase", entry ++ "-reversal"⟩ }, []⟩

/-- Another entry has the key of the refund. -/
def sampleTaken : List (Versions.Call Accounting.Operation) := samplePosted ++
  [⟨.post {
    Accounting.servicePurchase (emptyDb.purchased sampleOrder) with
    idempotencyKey := "refund:o:completed:v1" } "other" 0, []⟩]

/-- Refunding again has no effect where the key of the refund is taken. -/
theorem refund_idempotent_sample :
    ∃ entry, Tx.Commits (postServiceRefundCompleted
      ((run stepRefund (stepRefund (Versions.init (sampleDb sampleTaken))
        (sampleRefund "first-refund-key" "a")).1 []).current.purchased sampleOrder)
        ⟨"b-purchase", "b-reversal"⟩ 1)
      (run stepRefund (stepRefund (Versions.init (sampleDb sampleTaken))
        (sampleRefund "first-refund-key" "a")).1 []).current.accounting entry
      (stepRefund (Versions.init (sampleDb sampleTaken))
        (sampleRefund "first-refund-key" "a")).1.current.accounting := by
  have hfirst : FirstRefund (Versions.init (sampleDb sampleTaken))
      (sampleRefund "first-refund-key" "a") sampleOrder := ⟨rfl, rfl, by decide +kernel⟩
  have hcall : Further sampleOrder.id (run stepRefund (stepRefund (Versions.init
      (sampleDb sampleTaken)) (sampleRefund "first-refund-key" "a")).1 [])
      (sampleRefund "second-refund-key" "b") := by
    constructor <;> decide +kernel
  have htaken : RefundKeyTaken sampleOrder.id
      (Versions.init (sampleDb sampleTaken)).current.accounting :=
    Accounting.refundKeyTaken_of_plain (by decide +kernel)
  have hnone : Meets stepRefund (Further sampleOrder.id) (stepRefund (Versions.init
      (sampleDb sampleTaken)) (sampleRefund "first-refund-key" "a")).1 [] :=
    fun _ hentry => absurd hentry List.not_mem_nil
  obtain ⟨entry, -, hagain, -⟩ :=
    (refund_idempotent_iff sampleTaken rfl hfirst hnone hcall).2 htaken
  exact ⟨entry, hagain⟩

/-- The order is refunded, and then a further command is refused. -/
theorem second_refund_refused :
    let after := (stepRefund (Versions.init (sampleDb samplePosted))
      (sampleRefund "first-refund-key" "a")).1
    (after.current.orders.find? "o").map ServiceOrder.status = some .refunded ∧
      Further "o" after (sampleRefund "second-refund-key" "b") ∧
      (stepRefund after (sampleRefund "second-refund-key" "b")).2.isOk = false := by
  refine ⟨by decide +kernel, ?_, by decide +kernel⟩
  constructor <;> decide +kernel

end AbrChin.Orders
