import AbrChin.Wallet.Writers

/-!
# The books add up

Whatever the writers commit, in whatever order and on however stale reads, the
balance of a wallet is its opening balance and what its ledger says, it is never
negative, every amount is positive, and each entry carries the balance right
after it.  Every writer makes `Booking`s only, and one booking keeps `Kept`.
-/

namespace AbrChin.Wallet

open Lib Pricing

/-! ## What a booking keeps -/

/-- The books agree with the balances that the wallets opened with. -/
structure Books.Kept (opening : String → ℤ) (books : Books) : Prop where
  balance : ∀ id wallet, books.wallets.find? id = some wallet →
    wallet.availableBalance = opening id + net (books.entriesOf id)
  nonneg : ∀ id wallet, books.wallets.find? id = some wallet → 0 ≤ wallet.availableBalance
  running : ∀ id, (books.entriesOf id).map WalletLedgerEntry.balanceAfter =
    balances (opening id) ((books.entriesOf id).map WalletLedgerEntry.signedAmount)
  completed : ∀ entry ∈ books.ledger.rows, entry.status = .completed
  positive : ∀ entry ∈ books.ledger.rows, 0 < entry.amount
  known : ∀ entry ∈ books.ledger.rows, (books.wallets.find? entry.walletId).isSome
  fresh : ∀ id, books.wallets.find? id = none → opening id = 0

namespace Books

variable {books books' : Books} {opening : String → ℤ}

variable {entry : WalletLedgerEntry}

theorem entriesOf_posted (h : Posted entry books books') (id : String) :
    books'.entriesOf id = books.entriesOf id ++ if entry.walletId = id then [entry] else [] := by
  unfold entriesOf
  rw [IndexedTable.rows_of_insert? h.ledger, List.filter_append]
  by_cases hid : entry.walletId = id <;> simp [hid]

theorem find?_posted (h : Posted entry books books') (id : String) :
    books'.wallets.find? id =
      if id = entry.walletId then (books.wallets.find? id).map (·.add entry.signedAmount)
      else books.wallets.find? id := by
  rw [IndexedTable.find?_modify? h.wallets]
  by_cases hid : id = entry.walletId <;> simp [hid]

theorem Kept.posted (h : books.Kept opening) (hposted : Posted entry books books') :
    books'.Kept opening := by
  obtain ⟨wallet, hwallet, hafter, hcovered⟩ := hposted.balance
  have hbalance := h.balance _ _ hwallet
  constructor
  case balance =>
    intro id row hrow
    rw [find?_posted hposted] at hrow
    rw [entriesOf_posted hposted]
    by_cases hid : id = entry.walletId
    · subst hid
      simp only [if_true, hwallet, Option.map_some, Option.some.injEq] at hrow
      subst hrow
      simp only [if_true, net, List.map_append, List.sum_append, List.map_singleton,
        List.sum_singleton, WalletRow.add] at hbalance ⊢
      omega
    · rw [if_neg hid] at hrow
      rw [if_neg (Ne.symm hid), List.append_nil]
      exact h.balance id row hrow
  case nonneg =>
    intro id row hrow
    rw [find?_posted hposted] at hrow
    by_cases hid : id = entry.walletId
    · subst hid
      simp only [if_true, hwallet, Option.map_some, Option.some.injEq] at hrow
      subst hrow
      have hnonneg := h.nonneg _ _ hwallet
      have hpositive := hposted.positive
      show 0 ≤ wallet.availableBalance + entry.signedAmount
      unfold WalletLedgerEntry.signedAmount
      cases hdirection : entry.direction with
      | credit =>
          show 0 ≤ wallet.availableBalance + entry.amount
          omega
      | debit =>
          have := hcovered hdirection
          show 0 ≤ wallet.availableBalance + -entry.amount
          omega
    · rw [if_neg hid] at hrow
      exact h.nonneg id row hrow
  case running =>
    intro id
    rw [entriesOf_posted hposted]
    by_cases hid : entry.walletId = id
    · subst hid
      simp only [if_true, List.map_append, List.map_singleton, balances_concat, h.running]
      rw [hafter, hbalance]
      rfl
    · simpa [hid] using h.running id
  case completed =>
    intro other hother
    rw [IndexedTable.rows_of_insert? hposted.ledger] at hother
    rcases List.mem_append.1 hother with hother | hother
    · exact h.completed other hother
    · rw [List.mem_singleton.1 hother]
      exact hposted.completed
  case positive =>
    intro other hother
    rw [IndexedTable.rows_of_insert? hposted.ledger] at hother
    rcases List.mem_append.1 hother with hother | hother
    · exact h.positive other hother
    · rw [List.mem_singleton.1 hother]
      exact hposted.positive
  case known =>
    intro other hother
    rw [IndexedTable.rows_of_insert? hposted.ledger] at hother
    rw [find?_posted hposted]
    have hknown : (books.wallets.find? other.walletId).isSome := by
      rcases List.mem_append.1 hother with hother | hother
      · exact h.known other hother
      · rw [List.mem_singleton.1 hother, hwallet]
        rfl
    by_cases hid : other.walletId = entry.walletId <;> simp [hid, hknown, hwallet]
  case fresh =>
    intro id hnone
    rw [find?_posted hposted] at hnone
    by_cases hid : id = entry.walletId
    · subst hid
      simp [hwallet] at hnone
    · rw [if_neg hid] at hnone
      exact h.fresh id hnone

theorem Kept.opened (h : books.Kept opening) {wallet : WalletRow}
    (hzero : wallet.availableBalance = 0) {wallets}
    (hinsert : books.wallets.insert? wallet = some wallets) :
    Kept opening { books with wallets } := by
  have hfresh : books.wallets.find? wallet.id = none := IndexedTable.fresh_of_insert? hinsert
  -- a wallet that was not there has no entries and opens with nothing
  have hnone : books.entriesOf wallet.id = [] := by
    refine List.filter_eq_nil_iff.2 fun entry hentry hid => ?_
    have hknown := h.known entry hentry
    rw [of_decide_eq_true hid, hfresh] at hknown
    cases hknown
  have hfind := IndexedTable.find?_insert? hinsert
  refine ⟨fun id row hrow => ?_, fun id row hrow => ?_, h.running, h.completed, h.positive,
    fun entry hentry => ?_, fun id hid => ?_⟩
  · rw [hfind] at hrow
    by_cases hid : wallet.id = id
    · subst hid
      cases (if_pos rfl).symm.trans hrow
      show wallet.availableBalance = opening wallet.id + net (books.entriesOf wallet.id)
      rw [hnone, h.fresh _ hfresh, hzero]
      rfl
    · rw [if_neg hid] at hrow
      exact h.balance id row hrow
  · rw [hfind] at hrow
    by_cases hid : wallet.id = id
    · rw [if_pos hid] at hrow
      cases hrow
      exact hzero.ge
    · rw [if_neg hid] at hrow
      exact h.nonneg id row hrow
  · have hknown := h.known entry hentry
    rw [hfind]
    by_cases hid : wallet.id = entry.walletId <;> simp [hid, hknown]
  · rw [hfind] at hid
    by_cases hwallet : wallet.id = id
    · rw [if_pos hwallet] at hid
      cases hid
    · rw [if_neg hwallet] at hid
      exact h.fresh id hid

theorem Kept.marked (h : books.Kept opening) {walletId : String} {status : WalletStatus} {wallets}
    (hmodify : books.wallets.modify? walletId (·.withStatus status) (fun _ => rfl) = some wallets) :
    Kept opening { books with wallets } := by
  -- every wallet keeps its balance
  have hfind : ∀ id, wallets.find? id =
      (books.wallets.find? id).map fun row => if id = walletId then row.withStatus status else row := by
    intro id
    rw [IndexedTable.find?_modify? hmodify]
    by_cases hid : id = walletId <;> simp [hid]
  have hback : ∀ id row, wallets.find? id = some row → ∃ before,
      books.wallets.find? id = some before ∧ row.availableBalance = before.availableBalance := by
    intro id row hrow
    rw [hfind] at hrow
    obtain ⟨before, hbefore, rfl⟩ := Option.map_eq_some_iff.1 hrow
    exact ⟨before, hbefore, by split <;> rfl⟩
  refine ⟨fun id row hrow => ?_, fun id row hrow => ?_, h.running, h.completed, h.positive,
    fun entry hentry => ?_, fun id hid => ?_⟩
  · obtain ⟨before, hbefore, hsame⟩ := hback id row hrow
    exact hsame.trans (h.balance id before hbefore)
  · obtain ⟨before, hbefore, hsame⟩ := hback id row hrow
    rw [hsame]
    exact h.nonneg id before hbefore
  · rw [hfind, Option.isSome_map]
    exact h.known entry hentry
  · rw [hfind, Option.map_eq_none_iff] at hid
    exact h.fresh id hid

/-- **Bookings keep the books.** -/
theorem Kept.bookings (h : books.Kept opening) (hbookings : Bookings books books') :
    books'.Kept opening := by
  induction hbookings with
  | refl => exact h
  | tail _ hbooking ih =>
      cases hbooking with
      | opened wallet hzero hinsert => exact ih.opened hzero hinsert
      | posted entry hposted => exact ih.posted hposted
      | marked walletId status hmodify => exact ih.marked hmodify

end Books

/-! ## Every writer makes bookings -/

open Books

variable {books books' : Books} {seen : ℕ → Books} {opening : String → ℤ}

theorem bookings_of_posted {entry : WalletLedgerEntry} (h : Posted entry books books') :
    Bookings books books' :=
  .single (.posted entry h)

variable {userId : String} {read : Books}

theorem bookings_of_ensure {newId : String} {wallet : WalletRow}
    (h : Tx.Commits (ensureWalletForUser read userId newId) books wallet books') :
    Bookings books books' := by
  rcases commits_ensureWallet h with ⟨-, rfl⟩ | ⟨-, rfl, wallets, hinsert, rfl⟩
  · exact .refl
  · exact .single (.opened _ rfl hinsert)

theorem bookings_of_activeWallet {newId : String} {wallet : WalletRow}
    (h : Tx.Commits (activeWallet read userId newId) books wallet books') :
    Bookings books books' := by
  simp only [activeWallet, Tx.commits_bind, Tx.commits_throwIf, Tx.commits_pure] at h
  obtain ⟨_, mid, hensure, _, _, ⟨-, rfl⟩, rfl, rfl⟩ := h
  exact bookings_of_ensure hensure

variable {ids : NewIds}

theorem bookings_of_creditWallet {input : CreditInput} {entry : WalletLedgerEntry}
    (h : Tx.Commits (creditWallet input ids seen) books entry books') : Bookings books books' := by
  simp only [creditWallet, Tx.commits_bind, Tx.commits_throwIf] at h
  obtain ⟨_, _, ⟨hamount, rfl⟩, h⟩ := h
  cases hfind : (seen 0).ledger.find? input.idempotencyKey with
  | some existing =>
      simp only [hfind, Tx.commits_bind, Tx.commits_throwIf, Tx.commits_pure] at h
      obtain ⟨_, _, ⟨-, rfl⟩, -, rfl⟩ := h
      exact .refl
  | none =>
      simp only [hfind, Tx.commits_bind] at h
      obtain ⟨wallet, mid, hwallet, hcredit⟩ := h
      have hposted := (commits_credit hcredit rfl (not_le.1 hamount)).1
      exact (bookings_of_activeWallet hwallet).trans (bookings_of_posted hposted)

theorem bookings_of_debitWallet {input : CreditInput} {entry : WalletLedgerEntry}
    (h : Tx.Commits (debitWallet input ids seen) books entry books') : Bookings books books' := by
  simp only [debitWallet, Tx.commits_bind, Tx.commits_throwIf] at h
  obtain ⟨_, _, ⟨hamount, rfl⟩, h⟩ := h
  cases hfind : (seen 0).ledger.find? input.idempotencyKey with
  | some existing =>
      simp only [hfind, Tx.commits_bind, Tx.commits_throwIf, Tx.commits_pure] at h
      obtain ⟨_, _, ⟨-, rfl⟩, -, rfl⟩ := h
      exact .refl
  | none =>
      simp only [hfind, Tx.commits_bind] at h
      obtain ⟨wallet, mid, hwallet, hdebit⟩ := h
      have hposted := (commits_debit hdebit rfl (not_le.1 hamount)).1
      exact (bookings_of_activeWallet hwallet).trans (bookings_of_posted hposted)

theorem mem_of_entryById {id : String} {entry : WalletLedgerEntry}
    (h : books.entryById id = some entry) : entry ∈ books.ledger.rows :=
  List.mem_of_find?_eq_some h

/-- A reversal moves an amount that an earlier version of the ledger holds. -/
theorem bookings_of_reverseLedgerEntry (hseen : ∀ place, (seen place).Kept opening)
    {input : ReverseInput} {entry : WalletLedgerEntry}
    (h : Tx.Commits (reverseLedgerEntry input ids seen) books entry books') :
    Bookings books books' := by
  unfold reverseLedgerEntry at h
  cases hfind : (seen 0).ledger.find? input.idempotencyKey with
  | some existing =>
      simp only [hfind, Tx.commits_bind, Tx.commits_throwIf, Tx.commits_pure] at h
      obtain ⟨_, _, ⟨-, rfl⟩, -, rfl⟩ := h
      exact .refl
  | none =>
      simp only [hfind, Tx.commits_bind, Tx.commits_throwIf, Tx.commits_orThrow] at h
      obtain ⟨original, _, ⟨horiginal, rfl⟩, _, _, ⟨-, rfl⟩, h⟩ := h
      have hpositive := (hseen 1).positive original (mem_of_entryById horiginal)
      cases hprior : (seen 2).reverseOf original.id with
      | some prior =>
          simp only [hprior, Tx.commits_pure] at h
          obtain ⟨-, rfl⟩ := h
          exact .refl
      | none =>
          simp only [hprior, Tx.commits_bind, Tx.commits_throwIf, Tx.commits_orThrow] at h
          obtain ⟨wallet, _, ⟨-, rfl⟩, _, _, ⟨-, rfl⟩, h⟩ := h
          cases hdirection : original.direction with
          | debit =>
              rw [hdirection] at h
              exact bookings_of_posted (commits_credit h rfl hpositive).1
          | credit =>
              rw [hdirection] at h
              exact bookings_of_posted (commits_debit h rfl hpositive).1

variable {u : Unit}

theorem bookings_of_settleVerifiedAttempt {topUp : IssuedTopUp}
    (h : Tx.Commits (settleVerifiedAttempt topUp ids seen) books u books') :
    Bookings books books' := by
  simp only [settleVerifiedAttempt, Tx.commits_bind, Tx.commits_throwIf, Tx.commits_orThrow] at h
  obtain ⟨wallet, _, ⟨-, rfl⟩, _, _, ⟨-, rfl⟩, h⟩ := h
  cases hfind : (seen 0).ledger.find? s!"topup_credit_{topUp.id}" with
  | some existing =>
      simp only [hfind, Tx.commits_pure] at h
      obtain ⟨-, rfl⟩ := h
      exact .refl
  | none =>
      simp only [hfind, Tx.commits_bind] at h
      obtain ⟨_, mid, hcredit, h⟩ := h
      have hposted := (commits_credit hcredit rfl topUp.positive).1
      refine (bookings_of_posted hposted).trans ?_
      cases hbonus : topUp.bonusRialSnapshot.filter
          fun bonus => 0 < bonus ∧ topUp.couponCode.isSome with
      | none =>
          simp only [hbonus, Tx.commits_pure] at h
          obtain ⟨-, rfl⟩ := h
          exact .refl
      | some bonus =>
          simp only [hbonus, Tx.commits_bind, Tx.commits_pure] at h
          obtain ⟨_, _, hcredit, -, rfl⟩ := h
          have hpositive : 0 < bonus := by
            have := (Option.filter_eq_some_iff.1 hbonus).2
            exact (of_decide_eq_true this).1
          exact bookings_of_posted (commits_credit hcredit rfl hpositive).1

theorem bookings_of_requestControlledTopUpRefund {topUp : IssuedTopUp} {refundId : String}
    (h : Tx.Commits (requestControlledTopUpRefund topUp refundId ids seen) books u books') :
    Bookings books books' := by
  simp only [requestControlledTopUpRefund, Tx.commits_bind, Tx.commits_throwIf, Tx.commits_orThrow,
    Tx.commits_get] at h
  obtain ⟨wallet, _, ⟨-, rfl⟩, _, _, ⟨rfl, rfl⟩, _, _, ⟨hunchanged, rfl⟩, h⟩ := h
  rcases Tx.commits_ite.1 h with ⟨hcovered, h⟩ | ⟨-, h⟩
  · simp only [Tx.commits_bind, Tx.commits_pure] at h
    obtain ⟨_, _, hdebit, -, rfl⟩ := h
    refine bookings_of_posted (commits_debitLocked hdebit rfl topUp.positive ?_).1
    -- the wallet that was read is the one that is locked
    rw [not_ne_iff.1 hunchanged]
    rintro _ ⟨⟩
    exact hcovered
  · obtain ⟨-, rfl⟩ := Tx.commits_pure.1 h
    exact .refl

variable {orderId : String} {amountRial : ℤ}

theorem bookings_of_chargeOrder {entry : WalletLedgerEntry} (hpositive : 0 < amountRial)
    (h : Tx.Commits (chargeOrder userId orderId amountRial ids read) books entry books') :
    Bookings books books' := by
  simp only [chargeOrder, Tx.commits_bind] at h
  obtain ⟨wallet, mid, hwallet, hdebit⟩ := h
  exact (bookings_of_activeWallet hwallet).trans
    (bookings_of_posted (commits_debit hdebit rfl hpositive).1)

theorem bookings_of_payOrder
    (h : Tx.Commits (payOrder userId orderId amountRial ids seen) books u books') :
    Bookings books books' := by
  simp only [payOrder, Tx.commits_bind, Tx.commits_throwIf] at h
  obtain ⟨_, _, ⟨hamount, rfl⟩, h⟩ := h
  rcases Tx.commits_ite.1 h with ⟨-, h⟩ | ⟨-, h⟩
  · obtain ⟨-, rfl⟩ := Tx.commits_pure.1 h
    exact .refl
  · simp only [Tx.commits_bind, Tx.commits_pure] at h
    obtain ⟨_, _, hcharge, -, rfl⟩ := h
    exact bookings_of_chargeOrder (by omega) hcharge

theorem mem_of_orderDebitOf {entry : WalletLedgerEntry}
    (h : books.orderDebitOf orderId = some entry) : entry ∈ books.ledger.rows :=
  List.mem_of_find?_eq_some h

theorem bookings_of_creditOrderRefund (hseen : ∀ place, (seen place).Kept opening)
    {entry : WalletLedgerEntry}
    (h : Tx.Commits (creditOrderRefund orderId ids seen) books entry books') :
    Bookings books books' := by
  simp only [creditOrderRefund, Tx.commits_bind, Tx.commits_orThrow] at h
  obtain ⟨debit, _, ⟨hdebit, rfl⟩, h⟩ := h
  cases hprior : Books.priorRefund (seen 1) (seen 2) orderId debit.id with
  | some prior =>
      simp only [hprior, Tx.commits_bind, Tx.commits_throwIf, Tx.commits_pure] at h
      obtain ⟨_, _, ⟨-, rfl⟩, -, rfl⟩ := h
      exact .refl
  | none =>
      simp only [hprior] at h
      have hpositive := (hseen 0).positive debit (mem_of_orderDebitOf hdebit)
      exact bookings_of_posted (commits_credit h rfl hpositive).1

theorem bookings_of_creditCancellationRefund {entry : WalletLedgerEntry}
    (hpositive : 0 < amountRial)
    (h : Tx.Commits (creditCancellationRefund userId orderId amountRial ids seen) books entry
      books') : Bookings books books' := by
  unfold creditCancellationRefund at h
  cases hfind : (seen 0).ledger.find? (cancelRefundKey orderId) with
  | some existing =>
      simp only [hfind, Tx.commits_bind, Tx.commits_throwIf, Tx.commits_pure] at h
      obtain ⟨_, _, ⟨-, rfl⟩, -, rfl⟩ := h
      exact .refl
  | none =>
      simp only [hfind, Tx.commits_bind] at h
      obtain ⟨wallet, mid, hwallet, hcredit⟩ := h
      exact (bookings_of_activeWallet hwallet).trans
        (bookings_of_posted (commits_credit hcredit rfl hpositive).1)

theorem bookings_of_completeCancellation {refundableRial : ℤ}
    (h : Tx.Commits (completeCancellation userId orderId refundableRial ids seen) books u books') :
    Bookings books books' := by
  unfold completeCancellation at h
  rcases Tx.commits_ite.1 h with ⟨-, h⟩ | ⟨-, h⟩
  · obtain ⟨-, rfl⟩ := Tx.commits_pure.1 h
    exact .refl
  rcases Tx.commits_ite.1 h with ⟨hpositive, h⟩ | ⟨-, h⟩
  · simp only [Tx.commits_bind, Tx.commits_pure] at h
    obtain ⟨_, _, hcredit, -, rfl⟩ := h
    exact bookings_of_creditCancellationRefund hpositive hcredit
  · obtain ⟨-, rfl⟩ := Tx.commits_pure.1 h
    exact .refl

/-- A confirmed price is a current one. -/
theorem confirmRenewalPrice_pos {pricing : RenewalPricing} {snapshot : PriceSnapshot}
    {price : EffectivePlanPricing} (h : confirmRenewalPrice pricing snapshot = .ok price) :
    0 < price.finalPriceRial := by
  obtain ⟨current, hcurrent, h⟩ := bind_eq_ok.1 h
  cases current with
  | none => cases h
  | some current =>
      obtain ⟨_, -, h⟩ := bind_eq_ok.1 h
      cases h
      exact resolvePlanPricing_pos hcurrent rfl rfl

variable {quoteId : String}

theorem bookings_of_chargeRenewal {finalPriceRial : ℤ} {entry : WalletLedgerEntry}
    (hpositive : 0 < finalPriceRial)
    (h : Tx.Commits (chargeRenewal userId quoteId finalPriceRial ids read) books entry books') :
    Bookings books books' := by
  simp only [chargeRenewal, Tx.commits_bind] at h
  obtain ⟨wallet, mid, hwallet, hdebit⟩ := h
  exact (bookings_of_activeWallet hwallet).trans
    (bookings_of_posted (commits_debit hdebit rfl hpositive).1)

theorem bookings_of_payRenewal {pricing : RenewalPricing} {snapshot : PriceSnapshot}
    (h : Tx.Commits (payRenewal userId quoteId pricing snapshot ids seen) books u books') :
    Bookings books books' := by
  simp only [payRenewal, Tx.commits_bind, Tx.commits_ofExcept] at h
  obtain ⟨price, _, ⟨hprice, rfl⟩, h⟩ := h
  rcases Tx.commits_ite.1 h with ⟨-, h⟩ | ⟨-, h⟩
  · obtain ⟨-, rfl⟩ := Tx.commits_pure.1 h
    exact .refl
  · simp only [Tx.commits_bind, Tx.commits_pure] at h
    obtain ⟨_, _, hcharge, -, rfl⟩ := h
    exact bookings_of_chargeRenewal (confirmRenewalPrice_pos hprice) hcharge

theorem payable_le (balance total : ℤ) : payable balance total ≤ balance := by
  unfold payable
  split <;> omega

variable {walletId : String}

theorem bookings_of_settleInvoice {charge : InvoiceCharge} {paid : ℤ}
    (h : Tx.Commits (settleInvoice charge walletId) books paid books') : Bookings books books' := by
  simp only [settleInvoice, Tx.commits_bind, Tx.commits_get, Tx.commits_orThrow] at h
  obtain ⟨_, _, ⟨rfl, rfl⟩, wallet, _, ⟨hwallet, rfl⟩, h⟩ := h
  rcases Tx.commits_ite.1 h with ⟨hpositive, h⟩ | ⟨-, h⟩
  · simp only [Tx.commits_bind, Tx.commits_pure] at h
    obtain ⟨_, _, hdebit, -, rfl⟩ := h
    refine bookings_of_posted (commits_debitLocked hdebit rfl hpositive ?_).1
    intro row hrow
    cases hwallet.symm.trans hrow
    exact payable_le _ _
  · obtain ⟨-, rfl⟩ := Tx.commits_pure.1 h
    exact .refl

theorem bookings_of_settleInvoices {charges : List InvoiceCharge}
    (h : Tx.Commits (settleInvoices read charges) books u books') : Bookings books books' := by
  induction charges generalizing books with
  | nil =>
      obtain ⟨-, rfl⟩ := Tx.commits_pure.1 h
      exact .refl
  | cons charge rest ih =>
      simp only [settleInvoices, Tx.commits_bind] at h
      obtain ⟨wallet, mid, hwallet, paid, mid', hsettle, hrest⟩ := h
      exact ((bookings_of_ensure hwallet).trans (bookings_of_settleInvoice hsettle)).trans (ih hrest)

theorem bookings_of_applyProviderBillingAdjustment {reconciliationId adjustmentId : String}
    (h : Tx.Commits (applyProviderBillingAdjustment reconciliationId adjustmentId walletId amountRial
      ids) books u books') : Bookings books books' := by
  simp only [applyProviderBillingAdjustment, Tx.commits_bind, Tx.commits_get, Tx.commits_orThrow,
    Tx.commits_throwIf] at h
  obtain ⟨_, _, ⟨-, rfl⟩, _, _, ⟨rfl, rfl⟩, wallet, _, ⟨hwallet, rfl⟩, h⟩ := h
  rcases Tx.commits_ite.1 h with ⟨hpositive, h⟩ | ⟨-, h⟩
  · simp only [Tx.commits_bind, Tx.commits_pure] at h
    obtain ⟨_, _, hmove, -, rfl⟩ := h
    unfold moveAdjustment at hmove
    by_cases hdebit : 0 < amountRial
    · simp only [hdebit, decide_true, if_true] at hmove hpositive
      refine bookings_of_posted (commits_debitLocked hmove rfl hpositive ?_).1
      intro row hrow
      cases hwallet.symm.trans hrow
      exact payable_le _ _
    · simp only [hdebit, decide_false, Bool.false_eq_true, if_false] at hmove hpositive
      exact bookings_of_posted (commits_credit hmove rfl hpositive).1
  · obtain ⟨-, rfl⟩ := Tx.commits_pure.1 h
    exact .refl

/-- **Whatever a writer commits is bookings.** -/
theorem bookings_of_writer (hseen : ∀ place, (seen place).Kept opening) {writer : Writer}
    (h : Tx.Commits (writer.tx seen) books u books') : Bookings books books' := by
  cases writer with
  | credit input ids =>
      simp only [Writer.tx, Tx.commits_bind, Tx.commits_pure] at h
      obtain ⟨_, _, h, -, rfl⟩ := h
      exact bookings_of_creditWallet h
  | debit input ids =>
      simp only [Writer.tx, Tx.commits_bind, Tx.commits_pure] at h
      obtain ⟨_, _, h, -, rfl⟩ := h
      exact bookings_of_debitWallet h
  | reverse input ids =>
      simp only [Writer.tx, Tx.commits_bind, Tx.commits_pure] at h
      obtain ⟨_, _, h, -, rfl⟩ := h
      exact bookings_of_reverseLedgerEntry hseen h
  | settleTopUp topUp ids => exact bookings_of_settleVerifiedAttempt h
  | payOrder userId orderId amountRial ids => exact bookings_of_payOrder h
  | payRenewal userId quoteId pricing snapshot ids => exact bookings_of_payRenewal h
  | refundOrder orderId ids =>
      simp only [Writer.tx, Tx.commits_bind, Tx.commits_pure] at h
      obtain ⟨_, _, h, -, rfl⟩ := h
      exact bookings_of_creditOrderRefund hseen h
  | cancel userId orderId refundableRial ids => exact bookings_of_completeCancellation h
  | refundTopUp topUp refundId ids => exact bookings_of_requestControlledTopUpRefund h
  | settleBilling charges => exact bookings_of_settleInvoices h
  | adjust reconciliationId adjustmentId walletId amountRial ids =>
      exact bookings_of_applyProviderBillingAdjustment h
  | mark walletId status =>
      simp only [Writer.tx, Tx.commits_attempt, Option.map_eq_some_iff] at h
      obtain ⟨wallets, hmodify, rfl⟩ := h
      exact .single (.marked walletId status hmodify)

/-! ## Every run of the writers -/

/-- The balance that a wallet had at the start; a wallet opened later had none. -/
def Books.openingBalance (start : Books) (id : String) : ℤ :=
  ((start.wallets.find? id).map WalletRow.availableBalance).getD 0

theorem Books.kept_start {start : Books} (hempty : start.ledger.rows = [])
    (hstart : ∀ wallet ∈ start.wallets.rows, 0 ≤ wallet.availableBalance) :
    start.Kept start.openingBalance := by
  have hnone : ∀ id, start.entriesOf id = [] := by
    intro id
    simp [Books.entriesOf, hempty]
  refine ⟨fun id wallet hwallet => ?_, fun id wallet hwallet => ?_, fun id => ?_, ?_, ?_, ?_,
    fun id hid => ?_⟩
  · simp [hnone, net, Books.openingBalance, hwallet]
  · exact hstart wallet (IndexedTable.find?_eq_some.1 hwallet).1
  · simp [hnone]
  · simp [hempty]
  · simp [hempty]
  · simp [hempty]
  · simp [Books.openingBalance, hid]

theorem kept_run {start : Books} (h : start.Kept opening) (calls : List (Versions.Call Writer)) :
    (run stepBooks (Versions.init start) calls).current.Kept opening := by
  have hrun := Versions.ever_run Writer.tx (Books.Kept opening)
    (fun writer seen db result db' hseen hdb hcommits =>
      hdb.bookings (bookings_of_writer hseen hcommits)) (Versions.ever_init h) calls
  exact hrun.current

/-- The completed entries of a wallet. -/
def Books.completedOf (books : Books) (walletId : String) : List WalletLedgerEntry :=
  (books.entriesOf walletId).filter fun entry => entry.status = .completed

/-- **The wallet ledger invariant.** -/
theorem wallet_ledger_invariant (start : Books) (hempty : start.ledger.rows = [])
    (hstart : ∀ wallet ∈ start.wallets.rows, 0 ≤ wallet.availableBalance)
    (calls : List (Versions.Call Writer)) (id : String) :
    let books := (run stepBooks (Versions.init start) calls).current
    (∀ wallet ∈ books.wallets.find? id,
      wallet.availableBalance =
        start.openingBalance id + credits (books.completedOf id) - debits (books.completedOf id) ∧
      0 ≤ wallet.availableBalance) ∧
    (∀ entry ∈ books.entriesOf id, 0 < entry.amount) ∧
    (books.entriesOf id).map WalletLedgerEntry.balanceAfter =
      balances (start.openingBalance id)
        ((books.entriesOf id).map WalletLedgerEntry.signedAmount) := by
  intro books
  have hkept : books.Kept start.openingBalance := kept_run (Books.kept_start hempty hstart) calls
  have hcompleted : books.completedOf id = books.entriesOf id := by
    refine List.filter_eq_self.2 fun entry hentry => ?_
    exact decide_eq_true (hkept.completed entry (List.mem_of_mem_filter hentry))
  refine ⟨fun wallet hwallet => ⟨?_, hkept.nonneg id wallet hwallet⟩,
    fun entry hentry => hkept.positive entry (List.mem_of_mem_filter hentry), hkept.running id⟩
  have hbalance := hkept.balance id wallet hwallet
  rw [net_eq] at hbalance
  rw [hcompleted]
  omega

/-- Books with one wallet of 1000 rials. -/
def Books.sample : Books :=
  ⟨⟨⟨[⟨"wallet", "user", 1000, .active, "IRR"⟩], by decide⟩, by decide⟩, .empty⟩

/-- An order for 300 rials, its refund, and a debit that the balance does not cover. -/
def sampleCalls : List (Versions.Call Writer) := [
  ⟨.payOrder "user" "order" 300 ⟨"new", "first", ""⟩, []⟩,
  ⟨.refundOrder "order" ⟨"new", "second", ""⟩, []⟩,
  ⟨.debit ⟨"user", 2000, .adminAdjustment, "key", none, none⟩ ⟨"new", "third", ""⟩, [2, 1]⟩]

theorem wallet_ledger_invariant_sample :
    let books := (run stepBooks (Versions.init Books.sample) sampleCalls).current
    (books.entriesOf "wallet").map WalletLedgerEntry.balanceAfter = [700, 1000] ∧
    (∀ wallet ∈ books.wallets.find? "wallet",
      wallet.availableBalance =
        Books.sample.openingBalance "wallet" + credits (books.completedOf "wallet") -
          debits (books.completedOf "wallet") ∧
      0 ≤ wallet.availableBalance) :=
  ⟨by decide +kernel,
    (wallet_ledger_invariant Books.sample rfl (by decide) sampleCalls "wallet").1⟩

end AbrChin.Wallet
