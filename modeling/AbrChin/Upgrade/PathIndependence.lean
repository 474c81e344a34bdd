import AbrChin.Upgrade.Effects

/-!
# Upgrades by way of a smaller plan

A server of plan `A` is upgraded to `B`, and once the upgrade is fulfilled from `B` to `C`, all
priced at one instant; or it is upgraded to `C` directly.  With `left` for the remaining value of an
amount, `paid` for the amount of the order and a name for the price of a plan, the ways cost

  `(left B - left paid) + (left C - left paid)`   and   `left C - left paid`:

the fulfilment moves the order to the plan, and leaves its amount, against which the second quote
credits.  So the ways cost the same up to two rials exactly when the first upgrade is as good as
free.  Where neither the order nor its subscription has a Parchin level, `C` is priced at the least
level of the plan that the server is on, which may be another one after the move.

* `Bought.cost`: a payment takes what the quote has locked, and nothing else changes the balance;
* `Bought.locked`: what a quote locks, by the context that it is priced in;
* `Fulfilled.context`: that context after an upgrade.
-/

namespace AbrChin.Upgrade

open Lib Js Pricing Wallet Orders Billing

/-! ## Two ways -/

/-- A new quote for a plan, and its payment. -/
structure Bought (create : CreateUpgradeQuote) (pay : PayUpgradeQuote)
    (request : ResourceChangeRequest) (db db' : UpgradeDb) : Prop where
  pays : pay.resourceChangeRequestId = request.id
  payer : pay.userId = create.userId
  steps : ∃ mid payment,
    Tx.Commits (createUpgradeQuote create fun _ => db) db ⟨request, false⟩ mid ∧
      Tx.Commits (payUpgradeQuoteWithWallet pay fun _ => mid) mid payment db' ∧
      payment.reused = false

/-- The approval of a request, and its fulfilment. -/
structure Fulfilled (approve : ApproveResourceChange) (fulfil : FulfillManually)
    (request : ResourceChangeRequest) (db db' : UpgradeDb) : Prop where
  approves : approve.resourceChangeRequestId = request.id
  fulfils : fulfil.resourceChangeRequestId = request.id
  steps : ∃ approved read begun recorded,
    Tx.Commits (approveResourceChangeRequest approve fun _ => db) db () approved ∧
      Tx.Commits (beginFulfilment fulfil approved) approved read begun ∧
      Tx.Commits (recordUpgrade fulfil read) begun () recorded ∧
      Tx.Commits (moveToPlan read) recorded () db'

/-- The balance of a user's wallet. -/
def UpgradeDb.balanceOf (db : UpgradeDb) (userId : String) : ℤ :=
  ((db.books.walletOf userId).map WalletRow.availableBalance).getD 0

/-- What is left of an amount that pays for the term of a server. -/
def UpgradeContext.left (ctx : UpgradeContext) (now amount : ℤ) : ℤ :=
  remainingRial amount ctx.serviceStartedAt (pricedTerm ctx.termMonths) now

/-- The price of a plan for the term of a server, at a Parchin level. -/
def UpgradeContext.priceOf (ctx : UpgradeContext) (db : UpgradeDb) (plan : UpgradePlan)
    (level : Option ParchinLevel) (now : ℤ) : ℤ :=
  ((targetPrice { ctx.chargeInput plan now with parchinLevel := level }
    db.rows.pricingConfigs).toOption).getD 0

/-- The level at which a server is upgraded once it is on a plan. -/
def UpgradeContext.levelOn (ctx : UpgradeContext) (plan : UpgradePlan) : Option ParchinLevel :=
  ctx.subscription.bind ServiceSubscription.parchinLevel <|> ctx.order.parchinLevel <|>
    plan.minimumParchinLevel

/-- The remaining value of the first plan exceeds that of the payment by at most two rials, when a
change of the level at which the second one is sold is added to it. -/
def WorthWhatIsPaid (db : UpgradeDb) (ctx : UpgradeContext) (first second : UpgradePlan)
    (now : ℤ) : Prop :=
  let left := ctx.left now
  |left (ctx.priceOf db first ctx.parchinLevel now) - left ctx.order.amount +
    (left (ctx.priceOf db second (ctx.levelOn first) now) -
      left (ctx.priceOf db second ctx.parchinLevel now))| ≤ 2

/-! ## What the steps leave as it is -/

/-- What an upgrade is priced with, and no quote, payment or approval writes. -/
def UpgradeDb.ground (db : UpgradeDb) :=
  (db.plans, db.items, db.rows, db.servers, db.service.orders, db.service.infrastructureOrders,
    db.service.subscriptions)

section Frames

variable {id : String} {status : Billing.ResourceChangeStatus}

variable {π : Type} {part : UpgradeDb → π}

theorem keeps_setRequestStatus (hpart : ∀ db requests, part { db with requests } = part db) :
    Tx.Keeps part (setRequestStatus id status) := by
  refine Tx.keeps_attempt fun db db' h => ?_
  obtain ⟨requests, -, rfl⟩ := Option.map_eq_some_iff.1 h
  exact hpart db requests

theorem keeps_cancelQuotes (hpart : ∀ db requests, part { db with requests } = part db) :
    ∀ quotes, Tx.Keeps part (cancelQuotes quotes)
  | [] => Tx.keeps_pure
  | _ :: rest => Tx.keeps_bind (keeps_setRequestStatus hpart) fun _ =>
      keeps_cancelQuotes hpart rest

variable {seen : ℕ → UpgradeDb}

theorem keeps_createUpgradeQuote {create : CreateUpgradeQuote}
    (hpart : ∀ db requests, part { db with requests } = part db) :
    Tx.Keeps part (createUpgradeQuote create seen) := by
  intro db quote db' h
  rcases createUpgradeQuote_cases h with ⟨-, rfl⟩ | ⟨-, _, _, _, hquoted⟩
  · rfl
  · obtain ⟨mid, requests, hcancel, -, rfl⟩ := hquoted.written
    rw [hpart]
    exact keeps_cancelQuotes hpart _ _ _ _ hcancel

theorem keeps_onBooks {α : Type} {body : Tx Books String α} :
    Tx.Keeps UpgradeDb.ground (onService (Orders.onBooks body)) := by
  intro db a db' h
  obtain ⟨books, -, rfl⟩ := commits_onBooks.1 h
  rfl

theorem keeps_payUpgradeQuoteWithWallet {pay : PayUpgradeQuote} :
    Tx.Keeps UpgradeDb.ground (payUpgradeQuoteWithWallet pay seen) := by
  unfold payUpgradeQuoteWithWallet
  split
  · exact Tx.keeps_bind Tx.keeps_orThrow fun _ => Tx.keeps_bind keeps_onBooks fun _ => Tx.keeps_pure
  · refine Tx.keeps_bind Tx.keeps_get fun _ => Tx.keeps_bind Tx.keeps_orThrow fun request =>
      Tx.keeps_bind Tx.keeps_orThrow fun snap => ?_
    split
    · exact Tx.keeps_bind keeps_onBooks fun _ => Tx.keeps_pure
    · refine Tx.keeps_bind Tx.keeps_throwIf fun _ => Tx.keeps_bind Tx.keeps_throwIf fun _ =>
        Tx.keeps_bind Tx.keeps_ofExcept fun _ => ?_
      refine Tx.keeps_bind keeps_onBooks fun _ => Tx.keeps_bind keeps_onBooks fun _ => ?_
      refine Tx.keeps_bind (Tx.keeps_attempt fun db db' h => ?_) fun _ =>
        Tx.keeps_bind (fun db u db' h => ?_) fun _ => Tx.keeps_pure
      · obtain ⟨requests, -, rfl⟩ := Option.map_eq_some_iff.1 h
        rfl
      · obtain ⟨accounting, rfl⟩ := postPrepaidUpgradeCharge_frame h
        rfl

theorem keeps_approve {approve : ApproveResourceChange} (hpart : ∀ db receipts requests,
      part { db with service := { db.service with receipts }, requests } = part db) :
    Tx.Keeps part (approveResourceChangeRequest approve seen) := by
  intro db u db' h
  rcases approveResourceChangeRequest_cases h with rfl | ⟨_, requests, receipts, -, -, -, -, rfl⟩
  · rfl
  · exact hpart db receipts requests

theorem keeps_beginFulfilment {fulfil : FulfillManually} {seen : UpgradeDb}
    (hpart : ∀ db requests, part { db with requests } = part db) :
    Tx.Keeps part (beginFulfilment fulfil seen) :=
  Tx.keeps_bind Tx.keeps_orThrow fun _ => Tx.keeps_bind Tx.keeps_throwIf fun _ =>
    Tx.keeps_bind Tx.keeps_throwIf fun _ => Tx.keeps_bind Tx.keeps_orThrow fun _ =>
    Tx.keeps_bind Tx.keeps_throwIf fun _ => Tx.keeps_bind Tx.keeps_orThrow fun _ =>
    Tx.keeps_bind Tx.keeps_orThrow fun _ => Tx.keeps_bind (keeps_setRequestStatus hpart) fun _ =>
    Tx.keeps_pure

theorem keeps_recordUpgrade {fulfil : FulfillManually} {read : Fulfilment}
    (hrequests : ∀ db requests, part { db with requests } = part db)
    (htimeline : ∀ db timeline, part { db with timeline } = part db) :
    Tx.Keeps part (recordUpgrade fulfil read) := by
  refine Tx.keeps_bind Tx.keeps_get fun _ => Tx.keeps_bind Tx.keeps_orThrow fun _ =>
    Tx.keeps_bind Tx.keeps_orThrow fun _ => Tx.keeps_bind (Tx.keeps_zoom htimeline) fun _ => ?_
  exact Tx.keeps_ite Tx.keeps_pure (keeps_setRequestStatus hrequests)

end Frames

/-! ## What the steps cost -/

variable {userId : String} {wallet : WalletRow} {books : Books}

theorem walletOf_eq_some :
    books.walletOf userId = some wallet ↔ wallet ∈ books.wallets.rows ∧ wallet.userId = userId := by
  constructor
  · intro h
    have howner := List.find?_some h
    exact ⟨List.mem_of_find?_eq_some h, of_decide_eq_true howner⟩
  · rintro ⟨hmem, howner⟩
    have hsome : (books.walletOf userId).isSome := by
      rw [Books.walletOf, List.find?_isSome]
      exact ⟨wallet, hmem, decide_eq_true howner⟩
    obtain ⟨found, hfound⟩ := Option.isSome_iff_exists.1 hsome
    have hfoundOwner := List.find?_some hfound
    -- the user of a wallet is a unique column
    have hsame : found = wallet :=
      IndexedTable.eq_of_index (List.mem_of_find?_eq_some hfound) hmem
        (List.mem_singleton.2 rfl) (congrArg some (of_decide_eq_true hfoundOwner))
        (congrArg some howner)
    rw [hfound, hsame]

/-- A wallet after an entry has been posted to it. -/
theorem walletOf_posted {books' : Books} {entry : WalletLedgerEntry}
    (h : Books.Posted entry books books') (hwallet : books.walletOf userId = some wallet)
    (hid : entry.walletId = wallet.id) :
    books'.walletOf userId = some (wallet.add entry.signedAmount) := by
  obtain ⟨hmem, howner⟩ := walletOf_eq_some.1 hwallet
  obtain ⟨later, hlater, hrow⟩ := IndexedTable.mem_of_modify? h.wallets hmem
  rw [if_pos hid.symm] at hrow
  exact walletOf_eq_some.2 ⟨hrow ▸ hlater, howner⟩

/-- The wallet that a payment asks for is the user's, which it opens when there is none. -/
theorem balanceOf_activeWallet {mid : Books} {newId : String}
    (h : Tx.Commits (activeWallet books userId newId) books wallet mid) :
    mid.walletOf userId = some wallet ∧
      ((books.walletOf userId).map WalletRow.availableBalance).getD 0 = wallet.availableBalance := by
  simp only [activeWallet, Tx.commits_bind, Tx.commits_throwIf, Tx.commits_pure] at h
  obtain ⟨_, _, hensure, _, _, ⟨-, rfl⟩, rfl, rfl⟩ := h
  rcases Books.commits_ensureWallet hensure with ⟨hfound, rfl⟩ | ⟨hnone, rfl, wallets, hinsert, rfl⟩
  · rw [hfound]
    exact ⟨rfl, rfl⟩
  · rw [hnone]
    refine ⟨walletOf_eq_some.2 ⟨?_, rfl⟩, rfl⟩
    show _ ∈ IndexedTable.rows wallets
    rw [IndexedTable.rows_of_insert? hinsert]
    exact List.mem_append_right _ (List.mem_singleton.2 rfl)

variable {create : CreateUpgradeQuote} {pay : PayUpgradeQuote} {request : ResourceChangeRequest}
  {approve : ApproveResourceChange} {fulfil : FulfillManually} {db db' : UpgradeDb}

/-- **A payment takes from the wallet what the quote has locked.** -/
theorem Bought.cost (h : Bought create pay request db db') :
    ∃ snap, request.estimateSnapshot = some snap ∧
      db'.balanceOf create.userId = db.balanceOf create.userId - snap.lockedUpgradeChargeRial := by
  obtain ⟨mid, payment, hcreate, hpay, hfresh⟩ := h.steps
  have hbooks : mid.books = db.books :=
    keeps_createUpgradeQuote (fun _ _ => rfl) _ _ _ hcreate
  rcases createUpgradeQuote_cases hcreate with ⟨hreused, -⟩ | ⟨-, _, _, _, hquoted⟩
  · cases hreused
  rcases payUpgradeQuoteWithWallet_cases hpay with ⟨hreused, -⟩ | ⟨-, row, snap, entry, hdebited⟩
  · cases hfresh.symm.trans hreused
  obtain ⟨cancelled, requests, -, hinsert, rfl⟩ := hquoted.written
  -- the request that is paid is the one that has just been inserted
  have hrow : row = request := by
    have hfound : requests.find? pay.resourceChangeRequestId = some row := hdebited.found
    rw [h.pays, IndexedTable.find?_insert? hinsert, if_pos rfl] at hfound
    exact (Option.some.inj hfound).symm
  subst hrow
  refine ⟨snap, hdebited.quote, ?_⟩
  obtain ⟨wallet, opened, hwallet, hid, hposted⟩ := hdebited.posted
  obtain ⟨hfound, hbalance⟩ := balanceOf_activeWallet hwallet
  have hsigned : entry.signedAmount = -snap.lockedUpgradeChargeRial := by
    rw [hdebited.debit]
    rfl
  rw [h.payer] at hfound hbalance
  have hafter := walletOf_posted hposted hfound hid
  have hbefore : db.balanceOf create.userId = wallet.availableBalance := by
    rw [UpgradeDb.balanceOf, ← hbooks]
    exact hbalance
  rw [hbefore, UpgradeDb.balanceOf, hafter, hsigned]
  exact (sub_eq_add_neg _ _).symm

/-- The request of a payment names the server and the plan of its quote. -/
theorem Bought.names (h : Bought create pay request db db') :
    ∃ row, db'.requests.find? request.id = some row ∧ row.planId = create.targetPlanId ∧
      row.cloudInstanceId = create.instanceId := by
  obtain ⟨mid, payment, hcreate, hpay, hfresh⟩ := h.steps
  rcases createUpgradeQuote_cases hcreate with ⟨hreused, -⟩ | ⟨-, _, _, _, hquoted⟩
  · cases hreused
  rcases payUpgradeQuoteWithWallet_cases hpay with ⟨hreused, -⟩ | ⟨-, row, snap, entry, hdebited⟩
  · cases hfresh.symm.trans hreused
  obtain ⟨cancelled, requests, -, hinsert, rfl⟩ := hquoted.written
  have hfound : requests.find? request.id = some row := by
    have hfound : requests.find? pay.resourceChangeRequestId = some row := hdebited.found
    rwa [h.pays] at hfound
  have hrow : row = request := by
    rw [IndexedTable.find?_insert? hinsert, if_pos rfl] at hfound
    exact (Option.some.inj hfound).symm
  subst hrow
  have hlater := IndexedTable.find?_modify? hdebited.marked row.id
  rw [if_pos rfl] at hlater
  refine ⟨_, by rw [hlater, hfound]; rfl, ?_⟩
  obtain ⟨keyUsed, hasked⟩ := hquoted.asked
  exact ⟨congrArg ResourceChangeRequest.planId hasked,
    congrArg (fun row : ResourceChangeRequest => row.cloudInstanceId) hasked⟩

theorem Bought.ground (h : Bought create pay request db db') : db'.ground = db.ground := by
  obtain ⟨mid, payment, hcreate, hpay, -⟩ := h.steps
  calc db'.ground = mid.ground := keeps_payUpgradeQuoteWithWallet _ _ _ hpay
    _ = db.ground := keeps_createUpgradeQuote (fun _ _ => rfl) _ _ _ hcreate

/-- The approval and the fulfilment cost nothing. -/
theorem Fulfilled.cost (h : Fulfilled approve fulfil request db db') (userId : String) :
    db'.balanceOf userId = db.balanceOf userId := by
  obtain ⟨approved, read, begun, recorded, happrove, hbegin, hrecord, hmove⟩ := h.steps
  have hbooks : db'.books = db.books := by
    calc db'.books = recorded.books := keeps_moveToPlan_books _ _ _ hmove
      _ = begun.books := keeps_recordUpgrade (fun _ _ => rfl) (fun _ _ => rfl) _ _ _ hrecord
      _ = approved.books := keeps_beginFulfilment (fun _ _ => rfl) _ _ _ hbegin
      _ = db.books := keeps_approve (fun _ _ _ => rfl) _ _ _ happrove
  rw [UpgradeDb.balanceOf, hbooks, UpgradeDb.balanceOf]

/-! ## What the fulfilment changes -/

/-- A server has been moved to a plan, with its order and its subscription. -/
structure MovedTo (instanceId planId : String) (before after : UpgradeDb) : Prop where
  plans : after.plans = before.plans
  items : after.items = before.items
  rows : after.rows = before.rows
  orders : after.service.orders = before.service.orders
  server : ∃ server size, before.servers.find? instanceId = some server ∧
    after.servers.find? instanceId = some (server.withSize size) ∧
    ∃ infra, before.service.infrastructureOrders.find? server.infrastructureOrderId = some infra ∧
      after.service.infrastructureOrders.find? server.infrastructureOrderId =
        some (infrastructureOrderWithPlan planId infra)
  subscription : ∃ price, after.service.subscriptionOf instanceId =
    (before.service.subscriptionOf instanceId).map (subscriptionWithRenewalPrice price)

variable {instanceId : String}

/-- The subscription of a server keeps all but the price of its renewal. -/
theorem commits_moveSubscription {read : Fulfilment} {service service' : ServiceDb} {u : Unit}
    (h : Tx.Commits (moveSubscription read) service u service')
    (hread : read.subscription = service.subscriptionOf instanceId) :
    service'.orders = service.orders ∧
      service'.infrastructureOrders = service.infrastructureOrders ∧
      ∃ price, service'.subscriptionOf instanceId =
        (service.subscriptionOf instanceId).map (subscriptionWithRenewalPrice price) := by
  unfold moveSubscription at h
  cases hsubscription : read.subscription with
  | none =>
      simp only [hsubscription, Tx.commits_pure] at h
      obtain ⟨-, rfl⟩ := h
      refine ⟨rfl, rfl, 0, ?_⟩
      rw [← hread, hsubscription]
      rfl
  | some subscription =>
      simp only [hsubscription, Tx.commits_attempt, Option.map_eq_some_iff] at h
      obtain ⟨subscriptions, hupdate, rfl⟩ := h
      obtain ⟨row, -, -, hmodify⟩ := IndexedTable.updateIf?_eq_some.1 hupdate
      refine ⟨rfl, rfl, read.plan.renewalPriceRial.getD subscription.renewalPriceRial, ?_⟩
      have hfound : service.subscriptionOf instanceId = some subscription := by
        rw [← hread, hsubscription]
      unfold ServiceDb.subscriptionOf at hfound ⊢
      rw [IndexedTable.rows_of_modify? hmodify, List.find?_map]
      -- an update of the price leaves the server of a subscription
      have hsame : ((fun row : ServiceSubscription => decide (row.cloudInstanceId = instanceId)) ∘
          fun row => if row.id = subscription.id then subscriptionWithRenewalPrice
            (read.plan.renewalPriceRial.getD subscription.renewalPriceRial) row else row) =
          fun row => decide (row.cloudInstanceId = instanceId) := by
        funext row
        by_cases hid : row.id = subscription.id
        · simp only [Function.comp_apply, if_pos hid, subscriptionWithRenewalPrice]
        · simp only [Function.comp_apply, if_neg hid]
      rw [hsame, hfound, Option.map_some, Option.map_some, if_pos rfl]

/-- **A fulfilled request has moved its server to the plan.** -/
theorem Fulfilled.moved (h : Fulfilled approve fulfil request db db') {row : ResourceChangeRequest}
    (hrow : db.requests.find? request.id = some row) :
    MovedTo row.cloudInstanceId row.planId db db' := by
  obtain ⟨approved, read, begun, recorded, happrove, hbegin, hrecord, hmove⟩ := h.steps
  have happroved : approved.ground = db.ground := keeps_approve (fun _ _ _ => rfl) _ _ _ happrove
  have hrecorded : recorded.ground = db.ground := by
    calc recorded.ground = begun.ground :=
          keeps_recordUpgrade (fun _ _ => rfl) (fun _ _ => rfl) _ _ _ hrecord
      _ = approved.ground := keeps_beginFulfilment (fun _ _ => rfl) _ _ _ hbegin
      _ = db.ground := happroved
  -- the request that is read names the same server and the same plan
  have hchange : ∃ change, approved.requests.find? request.id = some change ∧
      change.cloudInstanceId = row.cloudInstanceId ∧ change.planId = row.planId := by
    rcases approveResourceChangeRequest_cases happrove with
      rfl | ⟨found, requests, receipts, hfound, -, -, hmodify, rfl⟩
    · exact ⟨row, hrow, rfl, rfl⟩
    · rw [h.approves] at hfound
      obtain rfl := Option.some.inj (hrow.symm.trans hfound)
      have hid : row.id = request.id := (IndexedTable.find?_eq_some.1 hrow).2
      have hlater := IndexedTable.find?_modify? hmodify request.id
      rw [if_pos hid.symm, hid, hrow] at hlater
      exact ⟨_, hlater, rfl, rfl⟩
  obtain ⟨change, hchange, hserver, hplan⟩ := hchange
  simp only [UpgradeDb.ground, Prod.mk.injEq] at happroved hrecorded
  obtain ⟨-, -, -, hservers, -, -, hsubscriptions⟩ := happroved
  obtain ⟨hplans, hitems, hrows, hservers', horders, hinfras, hsubscriptions'⟩ := hrecorded
  have hread (id : String) : approved.service.subscriptionOf id = db.service.subscriptionOf id := by
    unfold ServiceDb.subscriptionOf
    rw [hsubscriptions]
  have hsame (id : String) : recorded.service.subscriptionOf id = db.service.subscriptionOf id := by
    unfold ServiceDb.subscriptionOf
    rw [hsubscriptions']
  simp only [beginFulfilment, Tx.commits_bind, Tx.commits_orThrow, Tx.commits_throwIf,
    Tx.commits_pure] at hbegin
  obtain ⟨change', _, ⟨hfirst, rfl⟩, _, _, ⟨-, rfl⟩, _, _, ⟨-, rfl⟩, snap, _, ⟨-, rfl⟩, _, _, ⟨-, rfl⟩,
    plan, _, ⟨-, rfl⟩, server, _, ⟨hfound, rfl⟩, _, _, -, rfl, rfl⟩ := hbegin
  rw [h.fulfils] at hfirst
  obtain rfl := Option.some.inj (hchange.symm.trans hfirst)
  simp only [moveToPlan, Tx.commits_bind, Tx.commits_modify, onService, Tx.commits_zoom,
    Tx.commits_attempt, Option.map_eq_some_iff] at hmove
  obtain ⟨_, _, rfl, _, _, ⟨_, ⟨infras, hupdate, rfl⟩, rfl⟩, service, hsub, rfl⟩ := hmove
  obtain ⟨infra, hinfra, -, hmodify⟩ := IndexedTable.updateIf?_eq_some.1 hupdate
  obtain ⟨horders', hinfras', price, hprice⟩ := commits_moveSubscription hsub
    ((hread change.cloudInstanceId).trans (hsame change.cloudInstanceId).symm)
  have hid : server.id = change.cloudInstanceId := Table.key_of_find? hfound
  rw [← hserver, ← hplan]
  exact {
    plans := hplans
    items := hitems
    rows := hrows
    orders := horders'.trans horders
    server := by
      refine ⟨server, plan.sizeCode, by rw [← hservers]; exact hfound, ?_, infra, ?_, ?_⟩
      · have hlater : (recorded.servers.modify server.id (Server.withSize plan.sizeCode)
            fun _ => rfl).find? change.cloudInstanceId = _ := Table.find?_modify _ _
        refine hlater.trans ?_
        rw [if_pos hid.symm, hservers', ← hservers, hid, hfound]
        rfl
      · rw [← hinfras]
        exact hinfra
      · rw [hinfras', IndexedTable.find?_modify? hmodify, if_pos rfl]
        exact congrArg (Option.map (infrastructureOrderWithPlan change.planId)) hinfra
    subscription := ⟨price, hprice.trans (congrArg _ (hsame _))⟩ }

/-! ## What a quote locks -/

theorem pricedTerm_pos (termMonths : ℤ) : max 1 (pricedTerm termMonths : ℤ) = pricedTerm termMonths := by
  unfold pricedTerm
  split_ifs <;> omega

/-- A prepaid charge is the difference of what is left of the price and of the payment. -/
theorem prepaidCharge_eq {input : ChargeInput} {configs : PricingConfigs} {charge : ℤ}
    (h : prepaidCharge input configs = .ok charge) :
    ∃ price, targetPrice input configs = .ok price ∧ charge =
      remainingRial price input.serviceStartedAt (pricedTerm input.termMonths) input.asOf -
        remainingRial input.orderAmount input.serviceStartedAt (pricedTerm input.termMonths)
          input.asOf := by
  simp only [prepaidCharge, bind_eq_ok, throwIf_eq_ok] at h
  obtain ⟨price, hprice, preview, hpreview, _, hpositive, h⟩ := h
  cases h
  have hdifference := upgradeChargeRial_of_pos hpreview (not_le.1 hpositive)
  rw [pricedTerm_pos] at hdifference
  exact ⟨price, hprice, hdifference⟩

variable {ctx : UpgradeContext}

/-- **A quote of a prepaid server locks what is left of the target's price, less what is left of the
order's amount.** -/
theorem Bought.locked (h : Bought create pay request db db') {plan : UpgradePlan}
    {snap : UpgradeSnapshot}
    (hctx : loadUpgradeContext db create.instanceId create.userId = .ok ctx)
    (hplan : db.planOf create.targetPlanId = some plan)
    (hprepaid : ctx.plan.billingModel = .prepaidTerm)
    (hsnap : request.estimateSnapshot = some snap) :
    snap.lockedUpgradeChargeRial =
      ctx.left create.now (ctx.priceOf db plan ctx.parchinLevel create.now) -
        ctx.left create.now ctx.order.amount := by
  obtain ⟨mid, payment, hcreate, -, -⟩ := h.steps
  rcases createUpgradeQuote_cases hcreate with ⟨hreused, -⟩ | ⟨-, ctx', plan', priced, hquoted⟩
  · cases hreused
  obtain rfl := Except.ok.inj (hctx.symm.trans hquoted.context)
  obtain rfl := Option.some.inj (hplan.symm.trans hquoted.target)
  obtain ⟨keyUsed, rfl⟩ := hquoted.asked
  obtain rfl := Option.some.inj hsnap
  have hcharge := hquoted.charge
  unfold computeChargeForTarget at hcharge
  obtain ⟨shape, -, hcharge⟩ := bind_eq_ok.1 hcharge
  obtain ⟨charge, hprepaidCharge, hcharge⟩ := bind_eq_ok.1 hcharge
  cases hcharge
  have hmodel : (ctx.chargeInput plan create.now).billingModel = .prepaidTerm := hprepaid
  simp only [ChargeInput.chargeRial, hmodel] at hprepaidCharge
  obtain ⟨price, hprice, hdifference⟩ := prepaidCharge_eq hprepaidCharge
  have hpriceOf : ctx.priceOf db plan ctx.parchinLevel create.now = price := by
    unfold UpgradeContext.priceOf
    rw [show ({ ctx.chargeInput plan create.now with parchinLevel := ctx.parchinLevel } :
      ChargeInput) = ctx.chargeInput plan create.now from rfl, hprice]
    rfl
  rw [hpriceOf]
  exact hdifference

/-! ## The context after a move -/

theorem loadUpgradeContext_eq_ok (h : loadUpgradeContext db instanceId userId = .ok ctx) :
    ∃ infra, db.servers.find? instanceId = some ctx.server ∧
      db.service.infrastructureOrders.find? ctx.server.infrastructureOrderId = some infra ∧
      db.planOf infra.planId = some ctx.plan ∧
      db.service.orders.find? infra.serviceOrderId = some ctx.order ∧
      ctx.subscription = db.service.subscriptionOf instanceId := by
  simp only [loadUpgradeContext, bind_eq_ok, throwIf_eq_ok, elim_error_eq_ok] at h
  obtain ⟨cloud, hcloud, _, -, server, hserver, infra, hinfra, plan, hplan, order, horder, _, -,
    current, -, h⟩ := h
  cases h
  have hid := List.find?_some hcloud
  have hid : cloud.id = instanceId := (of_decide_eq_true hid).1
  rw [hid] at hserver
  exact ⟨infra, hserver, hinfra, hplan, horder, by rw [hid]⟩

/-- Only what upgrades are priced with matters for a move. -/
theorem MovedTo.of_ground {planId : String} {mid : UpgradeDb}
    (h : MovedTo instanceId planId mid db') (hground : mid.ground = db.ground) :
    MovedTo instanceId planId db db' := by
  simp only [UpgradeDb.ground, Prod.mk.injEq] at hground
  obtain ⟨hplans, hitems, hrows, hservers, horders, hinfras, hsubscriptions⟩ := hground
  have hsubscription : mid.service.subscriptionOf instanceId =
      db.service.subscriptionOf instanceId := by
    unfold ServiceDb.subscriptionOf
    rw [hsubscriptions]
  exact {
    plans := h.plans.trans hplans
    items := h.items.trans hitems
    rows := h.rows.trans hrows
    orders := h.orders.trans horders
    server := by
      rw [← hservers, ← hinfras]
      exact h.server
    subscription := by
      rw [← hsubscription]
      exact h.subscription }

/-- The terms of a server do not change when it is moved to a plan. -/
theorem MovedTo.context {planId : String} {ctx' : UpgradeContext}
    (h : MovedTo instanceId planId db db')
    (hctx : loadUpgradeContext db instanceId userId = .ok ctx)
    (hctx' : loadUpgradeContext db' instanceId userId = .ok ctx') :
    ctx'.order = ctx.order ∧ ctx'.termMonths = ctx.termMonths ∧
      ctx'.serviceStartedAt = ctx.serviceStartedAt ∧ db.planOf planId = some ctx'.plan ∧
      ctx'.parchinLevel = ctx.levelOn ctx'.plan := by
  obtain ⟨infra, hserver, hinfra, -, horder, hsubscription⟩ := loadUpgradeContext_eq_ok hctx
  obtain ⟨infra', hserver', hinfra', hplan', horder', hsubscription'⟩ :=
    loadUpgradeContext_eq_ok hctx'
  obtain ⟨server, size, hbefore, hafter, found, hfound, hmoved⟩ := h.server
  obtain rfl := Option.some.inj (hserver.symm.trans hbefore)
  have hsize : ctx'.server = ctx.server.withSize size :=
    Option.some.inj (hserver'.symm.trans hafter)
  have hreference : ctx'.server.infrastructureOrderId = ctx.server.infrastructureOrderId := by
    rw [hsize]
    rfl
  rw [hreference] at hinfra'
  obtain rfl := Option.some.inj (hinfra.symm.trans hfound)
  obtain rfl := Option.some.inj (hinfra'.symm.trans hmoved)
  have hordered : ctx'.order = ctx.order := by
    rw [h.orders] at horder'
    exact Option.some.inj (horder'.symm.trans horder)
  obtain ⟨price, hprice⟩ := h.subscription
  rw [hprice, ← hsubscription] at hsubscription'
  refine ⟨hordered, ?_, ?_, ?_, ?_⟩
  · unfold UpgradeContext.termMonths
    rw [hsubscription', hordered, Option.map_map]
    rfl
  · unfold UpgradeContext.serviceStartedAt
    rw [hsubscription', hordered, hsize, Option.map_map]
    rfl
  · have hplans : db'.planOf planId = db.planOf planId := by
      unfold UpgradeDb.planOf
      rw [h.plans, h.items]
    rw [← hplans]
    exact hplan'
  · unfold UpgradeContext.parchinLevel UpgradeContext.levelOn
    rw [hsubscription', hordered]
    cases ctx.subscription <;> rfl

/-! ## The two ways compared -/

/-- The cost of a way is within the rounding of the cost of the other. -/
def CostsTheSame (userId : String) (start first second : UpgradeDb) : Prop :=
  |(start.balanceOf userId - first.balanceOf userId) -
    (start.balanceOf userId - second.balanceOf userId)| ≤ 2

theorem priceOf_congr {before after : UpgradeDb} {ctx' : UpgradeContext}
    (hrows : after.rows = before.rows) (hterm : ctx'.termMonths = ctx.termMonths)
    (plan : UpgradePlan) (level : Option ParchinLevel) (now : ℤ) :
    ctx'.priceOf after plan level now = ctx.priceOf before plan level now := by
  unfold UpgradeContext.priceOf targetPrice UpgradeContext.chargeInput
  rw [hrows, hterm]

/-- **Upgrades are path independent exactly when the first one is as good as free:** an upgrade to
one plan and from there to another, priced at one instant, costs what the direct one does if and only
if the first plan is worth what has been paid for the order. -/
theorem path_independent_iff {instanceId userId firstId secondId id₀ id₁ id₂ : String} {now : ℤ}
    {pay₀ pay₁ pay₂ : PayUpgradeQuote} {request₀ request₁ request₂ : ResourceChangeRequest}
    {ctx : UpgradeContext} {first second : UpgradePlan}
    {start direct bought upgraded arrived : UpgradeDb}
    (hctx : loadUpgradeContext start instanceId userId = .ok ctx)
    (hfirst : start.planOf firstId = some first) (hsecond : start.planOf secondId = some second)
    (hprepaid : ctx.plan.billingModel = .prepaidTerm) (hprepaid' : first.billingModel = .prepaidTerm)
    (hdirect : Bought ⟨instanceId, userId, secondId, now, id₀⟩ pay₀ request₀ start direct)
    (hbought : Bought ⟨instanceId, userId, firstId, now, id₁⟩ pay₁ request₁ start bought)
    (hfulfilled : Fulfilled approve fulfil request₁ bought upgraded)
    (harrived : Bought ⟨instanceId, userId, secondId, now, id₂⟩ pay₂ request₂ upgraded arrived) :
    CostsTheSame userId start arrived direct ↔ WorthWhatIsPaid start ctx first second now := by
  -- the three charges
  obtain ⟨snap₀, hsnap₀, hcost₀⟩ := hdirect.cost
  obtain ⟨snap₁, hsnap₁, hcost₁⟩ := hbought.cost
  obtain ⟨snap₂, hsnap₂, hcost₂⟩ := harrived.cost
  have hlocked₀ := hdirect.locked hctx hsecond hprepaid hsnap₀
  have hlocked₁ := hbought.locked hctx hfirst hprepaid hsnap₁
  -- the context of the last quote
  obtain ⟨row, hrow, hplanId, hserver⟩ := hbought.names
  have hmoved := hfulfilled.moved hrow
  rw [hplanId, hserver] at hmoved
  obtain ⟨ctx', hctx'⟩ : ∃ ctx', loadUpgradeContext upgraded instanceId userId = .ok ctx' := by
    obtain ⟨_, _, hcreate, -, -⟩ := harrived.steps
    rcases createUpgradeQuote_cases hcreate with ⟨hreused, -⟩ | ⟨-, ctx', _, _, hquoted⟩
    · cases hreused
    · exact ⟨ctx', hquoted.context⟩
  have hmoved := hmoved.of_ground hbought.ground
  obtain ⟨horder, hterm, hstarted, hplan, hlevel⟩ := hmoved.context hctx hctx'
  obtain rfl : first = ctx'.plan := Option.some.inj (hfirst.symm.trans hplan)
  have hsecond' : upgraded.planOf secondId = some second := by
    unfold UpgradeDb.planOf at hsecond ⊢
    rw [hmoved.plans, hmoved.items]
    exact hsecond
  have hlocked₂ := harrived.locked hctx' hsecond' hprepaid' hsnap₂
  have hleft (amount : ℤ) : ctx'.left now amount = ctx.left now amount := by
    unfold UpgradeContext.left
    rw [hstarted, hterm]
  simp only [hleft, horder, hlevel, priceOf_congr hmoved.rows hterm] at hlocked₂
  -- the fulfilment costs nothing, so that the ways differ by the first charge
  have hfree : upgraded.balanceOf userId = bought.balanceOf userId := hfulfilled.cost userId
  simp only at hcost₀ hcost₁ hcost₂ hlocked₀ hlocked₁
  unfold CostsTheSame WorthWhatIsPaid
  simp only
  rw [hcost₂, hfree, hcost₁, hcost₀, hlocked₀, hlocked₁, hlocked₂]
  generalize ctx.left now = left at *
  rw [show ∀ balance one two paid three : ℤ,
    balance - (balance - (one - paid) - (two - paid)) - (balance - (balance - (three - paid))) =
      one - paid + (two - three) by intros; omega]

/-! ## A server upgraded twice -/

def sampleQuoted (planId newId : String) (db : UpgradeDb) : UpgradeDb :=
  (createUpgradeQuote (sampleCreate planId newId) (fun _ => db) db).2

def sampleBought (planId newId : String) (db : UpgradeDb) : UpgradeDb :=
  (payUpgradeQuoteWithWallet (samplePay newId) (fun _ => sampleQuoted planId newId db)
    (sampleQuoted planId newId db)).2

def sampleFulfil (requestId : String) : FulfillManually :=
  ⟨requestId, "fulfil:" ++ requestId, none, none, none, sampleNow, "version-" ++ requestId⟩

def sampleApproved (requestId : String) (db : UpgradeDb) : UpgradeDb :=
  (approveResourceChangeRequest (sampleApprove requestId) (fun _ => db) db).2

def sampleBegun (requestId : String) (db : UpgradeDb) : Except String Fulfilment × UpgradeDb :=
  beginFulfilment (sampleFulfil requestId) (sampleApproved requestId db)
    (sampleApproved requestId db)

def sampleRecorded (requestId : String) (db : UpgradeDb) (read : Fulfilment) : UpgradeDb :=
  (recordUpgrade (sampleFulfil requestId) read (sampleBegun requestId db).2).2

def sampleMoved (requestId : String) (db : UpgradeDb) : UpgradeDb :=
  match (sampleBegun requestId db).1 with
  | .ok read => (moveToPlan read (sampleRecorded requestId db read)).2
  | .error _ => db

theorem commits_of_toOption {σ ε α : Type} {body : Tx σ ε α} {db : σ} {a : α}
    (h : (body db).1.toOption = some a) : Tx.Commits body db a (body db).2 :=
  Prod.ext (toOption_eq_some.1 h) rfl

theorem sampleBought_spec {planId newId : String} {db : UpgradeDb}
    (hquote : ((createUpgradeQuote (sampleCreate planId newId) (fun _ => db) db).1.toOption.map
      fun quote => (quote.request.id, quote.reused)) = some (newId, false))
    (hpay : ((payUpgradeQuoteWithWallet (samplePay newId) (fun _ => sampleQuoted planId newId db)
      (sampleQuoted planId newId db)).1.toOption.map UpgradePayment.reused) = some false) :
    ∃ request, request.id = newId ∧ Bought (sampleCreate planId newId) (samplePay newId) request db
      (sampleBought planId newId db) := by
  obtain ⟨⟨request, reused⟩, hquote, hsame⟩ := Option.map_eq_some_iff.1 hquote
  obtain ⟨hid, rfl⟩ := Prod.mk.inj hsame
  obtain ⟨payment, hpay, hfresh⟩ := Option.map_eq_some_iff.1 hpay
  exact ⟨request, hid, hid.symm, rfl, _, payment, commits_of_toOption hquote,
    commits_of_toOption hpay, hfresh⟩

theorem sampleMoved_spec {requestId : String} (hid : request.id = requestId)
    (happrove : (approveResourceChangeRequest (sampleApprove requestId) (fun _ => db)
      db).1.toOption = some ()) (hmove : ((sampleBegun requestId db).1.toOption.bind fun read =>
      (recordUpgrade (sampleFulfil requestId) read (sampleBegun requestId db).2).1.toOption.bind
        fun _ => (moveToPlan read (sampleRecorded requestId db read)).1.toOption) = some ()) :
    Fulfilled (sampleApprove requestId) (sampleFulfil requestId) request db
      (sampleMoved requestId db) := by
  obtain ⟨read, hread, hmove⟩ := Option.bind_eq_some_iff.1 hmove
  obtain ⟨_, hrecord, hmove⟩ := Option.bind_eq_some_iff.1 hmove
  refine ⟨hid.symm, hid.symm, _, read, _, _, commits_of_toOption happrove,
    commits_of_toOption hread, commits_of_toOption hrecord, ?_⟩
  have hmoved : sampleMoved requestId db =
      (moveToPlan read (sampleRecorded requestId db read)).2 := by
    unfold sampleMoved
    rw [toOption_eq_some.1 hread]
  rw [hmoved]
  exact commits_of_toOption hmove

/-- The ways of the sample server, to the largest plan. -/
def sampleUpgraded : UpgradeDb := sampleMoved "one" (sampleBought "b" "one" sampleUpgradeDb)

set_option maxRecDepth 4000 in
theorem sampleWays : ∃ request₀ request₁ request₂ : ResourceChangeRequest,
    Bought (sampleCreate "c" "direct") (samplePay "direct") request₀ sampleUpgradeDb
        (sampleBought "c" "direct" sampleUpgradeDb) ∧
      Bought (sampleCreate "b" "one") (samplePay "one") request₁ sampleUpgradeDb
        (sampleBought "b" "one" sampleUpgradeDb) ∧
      Fulfilled (sampleApprove "one") (sampleFulfil "one") request₁
        (sampleBought "b" "one" sampleUpgradeDb) sampleUpgraded ∧
      Bought (sampleCreate "c" "two") (samplePay "two") request₂ sampleUpgraded
        (sampleBought "c" "two" sampleUpgraded) := by
  obtain ⟨request₀, -, hdirect⟩ := @sampleBought_spec "c" "direct" sampleUpgradeDb
    (by decide +kernel) (by decide +kernel)
  obtain ⟨request₁, hid, hfirst⟩ := @sampleBought_spec "b" "one" sampleUpgradeDb
    (by decide +kernel) (by decide +kernel)
  obtain ⟨request₂, -, hsecond⟩ := @sampleBought_spec "c" "two" sampleUpgraded
    (by decide +kernel) (by decide +kernel)
  exact ⟨request₀, request₁, request₂, hdirect, hfirst,
    sampleMoved_spec hid (by decide +kernel) (by decide +kernel), hsecond⟩

theorem path_independent_sample : ∃ ctx first second,
    loadUpgradeContext sampleUpgradeDb "vm" "user" = .ok ctx ∧
      sampleUpgradeDb.planOf "b" = some first ∧ sampleUpgradeDb.planOf "c" = some second ∧
      (CostsTheSame "user" sampleUpgradeDb (sampleBought "c" "two" sampleUpgraded)
          (sampleBought "c" "direct" sampleUpgradeDb) ↔
        WorthWhatIsPaid sampleUpgradeDb ctx first second sampleNow) := by
  obtain ⟨request₀, request₁, request₂, hdirect, hbought, hfulfilled, harrived⟩ := sampleWays
  have hloaded : ((loadUpgradeContext sampleUpgradeDb "vm" "user").toOption.map
      fun ctx => ctx.plan.billingModel) = some .prepaidTerm := by decide +kernel
  obtain ⟨ctx, hctx, hprepaid⟩ := Option.map_eq_some_iff.1 hloaded
  have hctx := toOption_eq_some.1 hctx
  exact ⟨ctx, _, _, hctx, rfl, rfl,
    path_independent_iff hctx rfl rfl hprepaid rfl hdirect hbought hfulfilled harrived⟩

/-- **An upgrade by way of a smaller plan costs more than the direct one:** in the middle of a month,
31 429 200 rials against 23 571 900, at prices of 15 714 600, 31 429 200 and 62 858 400 rials. -/
theorem path_charged_twice : ∃ request₀ request₁ request₂ : ResourceChangeRequest,
    Bought (sampleCreate "c" "direct") (samplePay "direct") request₀ sampleUpgradeDb
        (sampleBought "c" "direct" sampleUpgradeDb) ∧
      Bought (sampleCreate "b" "one") (samplePay "one") request₁ sampleUpgradeDb
        (sampleBought "b" "one" sampleUpgradeDb) ∧
      Fulfilled (sampleApprove "one") (sampleFulfil "one") request₁
        (sampleBought "b" "one" sampleUpgradeDb) sampleUpgraded ∧
      Bought (sampleCreate "c" "two") (samplePay "two") request₂ sampleUpgraded
        (sampleBought "c" "two" sampleUpgraded) ∧
      sampleUpgradeDb.balanceOf "user" - (sampleBought "c" "two" sampleUpgraded).balanceOf "user" =
        31429200 ∧
      sampleUpgradeDb.balanceOf "user" -
        (sampleBought "c" "direct" sampleUpgradeDb).balanceOf "user" = 23571900 ∧
      ¬ CostsTheSame "user" sampleUpgradeDb (sampleBought "c" "two" sampleUpgraded)
        (sampleBought "c" "direct" sampleUpgradeDb) := by
  obtain ⟨request₀, request₁, request₂, hdirect, hbought, hfulfilled, harrived⟩ := sampleWays
  have hway : sampleUpgradeDb.balanceOf "user" -
      (sampleBought "c" "two" sampleUpgraded).balanceOf "user" = 31429200 := by decide +kernel
  have hdirectly : sampleUpgradeDb.balanceOf "user" -
      (sampleBought "c" "direct" sampleUpgradeDb).balanceOf "user" = 23571900 := by decide +kernel
  refine ⟨request₀, request₁, request₂, hdirect, hbought, hfulfilled, harrived, hway, hdirectly, ?_⟩
  unfold CostsTheSame
  rw [hway, hdirectly]
  decide

end AbrChin.Upgrade
