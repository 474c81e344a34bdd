import AbrChin.Orders.RefundReplay
import AbrChin.Wallet.Invariant

/-!
# An entry is reversed once

The ledger functions of `lib/wallet/ledger.ts` and `refundOrder`, interleaved at READ COMMITTED.
A reversal looks for an earlier one without a lock, so that two of them may both find none.  Only
the partial unique index `WalletLedgerEntry_one_reverse_per_original` tells them apart: the one
that commits second throws.

What a call adds to the ledger undoes an entry that the ledger holds, or no entry.  With the index
it follows that the reversals of an entry add up to nothing or to its amount, once.
-/

namespace AbrChin.Orders

open Lib Wallet
open Wallet.Books (EntryData)

/-! ## The calls -/

/-- A call that reverses an entry, or writes one that can be reversed. -/
inductive LedgerCall where
  | credit (input : CreditInput) (ids : NewIds)
  | debit (input : CreditInput) (ids : NewIds)
  | reverse (input : ReverseInput) (ids : NewIds)
  | refund (input : RefundOrder)

/-- Run a call for its writes only. -/
def LedgerCall.tx (call : LedgerCall) (seen : ℕ → ServiceDb) : Tx ServiceDb String Unit :=
  match call with
  | credit input ids => do
      let _ ← onBooks (creditWallet input ids fun place => (seen place).books)
  | debit input ids => do
      let _ ← onBooks (debitWallet input ids fun place => (seen place).books)
  | reverse input ids => do
      let _ ← onBooks (reverseLedgerEntry input ids fun place => (seen place).books)
  | refund input => do
      let _ ← refundOrder input seen

/-- One call on the database with its versions. -/
def stepLedger : Versions ServiceDb → Versions.Call LedgerCall →
    Versions ServiceDb × Except String Unit :=
  Versions.step LedgerCall.tx

/-! ## What is added to the ledger -/

/-- An entry moves the amount of another one back. -/
structure Undoes (entry original : WalletLedgerEntry) : Prop where
  wallet : entry.walletId = original.walletId
  amount : entry.amount = original.amount
  direction : entry.direction ≠ original.direction

theorem Undoes.signedAmount_eq {entry original : WalletLedgerEntry} (h : Undoes entry original) :
    entry.signedAmount = -original.signedAmount := by
  have hdirection := h.direction
  unfold WalletLedgerEntry.signedAmount
  rw [h.amount]
  cases hentry : entry.direction <;> cases horiginal : original.direction
  · rw [hentry, horiginal] at hdirection
    exact absurd rfl hdirection
  · show original.amount = -(-original.amount)
    rw [neg_neg]
  · rfl
  · rw [hentry, horiginal] at hdirection
    exact absurd rfl hdirection

/-- The ledger has grown, by entries that undo the entry that they reverse. -/
def Extends (books books' : Books) : Prop :=
  ∃ more, books'.ledger.rows = books.ledger.rows ++ more ∧
    ∀ entry ∈ more, ∀ id ∈ entry.reversedEntryId,
      ∃ original ∈ books'.ledger.rows, original.id = id ∧ Undoes entry original

namespace Extends

variable {first second third : Books}

theorem of_same (h : second.ledger = first.ledger) : Extends first second :=
  ⟨[], by rw [h, List.append_nil], fun _ hentry => nomatch hentry⟩

theorem mem (h : Extends first second) {entry : WalletLedgerEntry}
    (hentry : entry ∈ first.ledger.rows) : entry ∈ second.ledger.rows := by
  obtain ⟨more, hrows, -⟩ := h
  rw [hrows]
  exact List.mem_append_left _ hentry

theorem trans (h : Extends first second) (h' : Extends second third) : Extends first third := by
  have hmem := @mem second third h'
  obtain ⟨more, hrows, hmore⟩ := h
  obtain ⟨later, hrows', hlater⟩ := h'
  refine ⟨more ++ later, by rw [hrows', hrows, List.append_assoc], ?_⟩
  intro entry hentry id hid
  rcases List.mem_append.1 hentry with hentry | hentry
  · obtain ⟨original, horiginal, hsame, hundoes⟩ := hmore entry hentry id hid
    exact ⟨original, hmem horiginal, hsame, hundoes⟩
  · exact hlater entry hentry id hid

end Extends

section Writes

variable {books books' : Books} {seen : ℕ → Books} {entry : WalletLedgerEntry}

variable {data : EntryData}

/-- A statement that moves an amount adds the entry of its data. -/
theorem extends_of_insert {balanceAfter : ℤ}
    (hinsert : books.ledger.insert? (data.entry balanceAfter) = some books'.ledger)
    (hundoes : ∀ id ∈ data.reversedEntryId, ∃ original ∈ books.ledger.rows, original.id = id ∧
      Undoes (data.entry balanceAfter) original) : Extends books books' := by
  have hrows := IndexedTable.rows_of_insert? hinsert
  refine ⟨[data.entry balanceAfter], hrows, ?_⟩
  intro entry hentry id hid
  rw [List.mem_singleton.1 hentry] at hid ⊢
  obtain ⟨original, horiginal, hsame, hundoes⟩ := hundoes id hid
  exact ⟨original, by rw [hrows]; exact List.mem_append_left _ horiginal, hsame, hundoes⟩

theorem insert_of_credit (h : Tx.Commits (Books.credit data) books entry books') :
    ∃ balanceAfter, books.ledger.insert? (data.entry balanceAfter) = some books'.ledger := by
  simp only [Books.credit, Tx.commits_bind] at h
  obtain ⟨row, _, hadd, hcreate⟩ := h
  obtain ⟨_, _, rfl, _, _, rfl⟩ := Books.commits_addBalance.1 hadd
  obtain ⟨-, ledger, hinsert, rfl⟩ := Books.commits_createEntry.1 hcreate
  exact ⟨_, hinsert⟩

theorem insert_of_debit {onlyActive : Bool}
    (h : Tx.Commits (Books.debit data onlyActive) books entry books') :
    ∃ balanceAfter, books.ledger.insert? (data.entry balanceAfter) = some books'.ledger := by
  simp only [Books.debit, Tx.commits_bind] at h
  obtain ⟨row, _, htake, hcreate⟩ := h
  obtain ⟨_, _, _, _, rfl, _, _, rfl⟩ := Books.commits_takeBalance.1 htake
  obtain ⟨-, ledger, hinsert, rfl⟩ := Books.commits_createEntry.1 hcreate
  exact ⟨_, hinsert⟩

theorem ledger_of_activeWallet {read : Books} {userId newId : String} {wallet : WalletRow}
    (h : Tx.Commits (activeWallet read userId newId) books wallet books') :
    books'.ledger = books.ledger := by
  simp only [activeWallet, Tx.commits_bind, Tx.commits_throwIf, Tx.commits_pure] at h
  obtain ⟨_, mid, hensure, _, _, ⟨-, rfl⟩, -, rfl⟩ := h
  rcases Books.commits_ensureWallet hensure with ⟨-, rfl⟩ | ⟨-, -, wallets, -, rfl⟩
  · rfl
  · rfl

variable {ids : NewIds}

theorem extends_of_creditWallet {input : CreditInput}
    (h : Tx.Commits (creditWallet input ids seen) books entry books') : Extends books books' := by
  simp only [creditWallet, Tx.commits_bind, Tx.commits_throwIf] at h
  obtain ⟨_, _, ⟨-, rfl⟩, h⟩ := h
  cases hfind : (seen 0).ledger.find? input.idempotencyKey with
  | some existing =>
      simp only [hfind, Tx.commits_bind, Tx.commits_throwIf, Tx.commits_pure] at h
      obtain ⟨_, _, ⟨-, rfl⟩, -, rfl⟩ := h
      exact .of_same rfl
  | none =>
      simp only [hfind, Tx.commits_bind] at h
      obtain ⟨wallet, mid, hwallet, hcredit⟩ := h
      obtain ⟨balanceAfter, hinsert⟩ := insert_of_credit hcredit
      exact (Extends.of_same (ledger_of_activeWallet hwallet)).trans
        (extends_of_insert hinsert fun _ hid => by cases hid)

theorem extends_of_debitWallet {input : CreditInput}
    (h : Tx.Commits (debitWallet input ids seen) books entry books') : Extends books books' := by
  simp only [debitWallet, Tx.commits_bind, Tx.commits_throwIf] at h
  obtain ⟨_, _, ⟨-, rfl⟩, h⟩ := h
  cases hfind : (seen 0).ledger.find? input.idempotencyKey with
  | some existing =>
      simp only [hfind, Tx.commits_bind, Tx.commits_throwIf, Tx.commits_pure] at h
      obtain ⟨_, _, ⟨-, rfl⟩, -, rfl⟩ := h
      exact .of_same rfl
  | none =>
      simp only [hfind, Tx.commits_bind] at h
      obtain ⟨wallet, mid, hwallet, hdebit⟩ := h
      obtain ⟨balanceAfter, hinsert⟩ := insert_of_debit hdebit
      exact (Extends.of_same (ledger_of_activeWallet hwallet)).trans
        (extends_of_insert hinsert fun _ hid => by cases hid)

/-- **A reversal undoes the entry that it has read.** -/
theorem extends_of_reverseLedgerEntry {input : ReverseInput}
    (hseen : ∀ place, Extends (seen place) books)
    (h : Tx.Commits (reverseLedgerEntry input ids seen) books entry books') :
    Extends books books' := by
  unfold reverseLedgerEntry at h
  cases hfind : (seen 0).ledger.find? input.idempotencyKey with
  | some existing =>
      simp only [hfind, Tx.commits_bind, Tx.commits_throwIf, Tx.commits_pure] at h
      obtain ⟨_, _, ⟨-, rfl⟩, -, rfl⟩ := h
      exact .of_same rfl
  | none =>
      simp only [hfind, Tx.commits_bind, Tx.commits_throwIf, Tx.commits_orThrow] at h
      obtain ⟨original, _, ⟨horiginal, rfl⟩, _, _, ⟨-, rfl⟩, h⟩ := h
      have hmem := (hseen 1).mem (mem_of_entryById horiginal)
      cases hprior : (seen 2).reverseOf original.id with
      | some prior =>
          simp only [hprior, Tx.commits_pure] at h
          obtain ⟨-, rfl⟩ := h
          exact .of_same rfl
      | none =>
          simp only [hprior, Tx.commits_bind, Tx.commits_throwIf, Tx.commits_orThrow] at h
          obtain ⟨wallet, _, ⟨-, rfl⟩, _, _, ⟨-, rfl⟩, h⟩ := h
          cases hdirection : original.direction with
          | debit =>
              rw [hdirection] at h
              obtain ⟨balanceAfter, hinsert⟩ := insert_of_credit h
              refine extends_of_insert hinsert ?_
              rintro _ ⟨⟩
              exact ⟨original, hmem, rfl, rfl, rfl, by rw [hdirection]; rintro ⟨⟩⟩
          | credit =>
              rw [hdirection] at h
              obtain ⟨balanceAfter, hinsert⟩ := insert_of_debit h
              refine extends_of_insert hinsert ?_
              rintro _ ⟨⟩
              exact ⟨original, hmem, rfl, rfl, rfl, by rw [hdirection]; rintro ⟨⟩⟩

variable {orderId : String}

/-- The debit of an order is a debit of the ledger. -/
theorem orderDebitOf_spec {debit : WalletLedgerEntry}
    (h : books.orderDebitOf orderId = some debit) :
    debit ∈ books.ledger.rows ∧ debit.direction = .debit := by
  refine ⟨List.mem_of_find?_eq_some h, ?_⟩
  have hfound := List.find?_some h
  simp only [Bool.and_eq_true, decide_eq_true_eq] at hfound
  exact hfound.2

/-- **The refund of an order undoes its debit.** -/
theorem extends_of_creditOrderRefund (hseen : ∀ place, Extends (seen place) books)
    (h : Tx.Commits (creditOrderRefund orderId ids seen) books entry books') :
    Extends books books' := by
  simp only [creditOrderRefund, Tx.commits_bind, Tx.commits_orThrow] at h
  obtain ⟨debit, _, ⟨hdebit, rfl⟩, h⟩ := h
  obtain ⟨hmem, hdirection⟩ := orderDebitOf_spec hdebit
  cases hprior : Books.priorRefund (seen 1) (seen 2) orderId debit.id with
  | some prior =>
      simp only [hprior, Tx.commits_bind, Tx.commits_throwIf, Tx.commits_pure] at h
      obtain ⟨_, _, ⟨-, rfl⟩, -, rfl⟩ := h
      exact .of_same rfl
  | none =>
      rw [hprior] at h
      obtain ⟨balanceAfter, hinsert⟩ := insert_of_credit h
      refine extends_of_insert hinsert ?_
      rintro _ ⟨⟩
      exact ⟨debit, (hseen 0).mem hmem, rfl, rfl, rfl,
        by rw [hdirection]; rintro ⟨⟩⟩

end Writes

/-! ## What a call does to the ledger -/

section Calls

variable {db db' : ServiceDb} {seen : ℕ → ServiceDb}

/-- Refunding a paid order writes to the books with the refund of its debit only. -/
theorem extends_of_refundPaidOrder {input : RefundOrder} {reason : String} {order : ServiceOrder}
    {infra : Option InfrastructureOrder} {u : Unit}
    (hseen : ∀ place, Extends (seen place).books db.books)
    (h : Tx.Commits (refundPaidOrder input reason order infra seen) db u db') :
    Extends db.books db'.books := by
  unfold refundPaidOrder at h
  simp only [Tx.commits_bind, Tx.commits_get, Tx.commits_ofExcept, commits_onFlow,
    commits_onBooks] at h
  obtain ⟨_, _, ⟨rfl, rfl⟩, _, _, ⟨-, rfl⟩, flowState, _, ⟨-, rfl⟩, _, _, ⟨flow, ⟨-, rfl⟩, rfl⟩,
    refundEntry, _, ⟨books, hrefund, rfl⟩, _, _, hrestock, _, _, hcancel, _, _, horder, hinfra⟩ := h
  obtain ⟨stock, rfl⟩ := commits_restockManual hrestock
  obtain ⟨flow, rfl⟩ := commits_cancelFlow hcancel
  obtain ⟨orders, rfl, -⟩ := commits_setOrderStatus horder
  obtain ⟨infrastructureOrders, rfl⟩ := commits_refundInfrastructure hinfra
  exact extends_of_creditOrderRefund (fun place => hseen (place + 3)) hrefund

theorem extends_of_refundOrder {input : RefundOrder} {result : ServiceOrder}
    (hseen : ∀ place, Extends (seen place).books db.books)
    (h : Tx.Commits (refundOrder input seen) db result db') : Extends db.books db'.books := by
  simp only [refundOrder, Tx.commits_bind, Tx.commits_get, Tx.commits_orThrow,
    Tx.commits_ofExcept, Tx.commits_throwIf, commits_replayAdminCommand] at h
  obtain ⟨_, _, ⟨rfl, rfl⟩, order, _, ⟨-, rfl⟩, command, _, ⟨-, rfl⟩, _, _, ⟨-, rfl⟩, replay, _,
    ⟨rfl, -⟩, h⟩ := h
  rcases Tx.commits_ite.1 h with ⟨-, h⟩ | ⟨-, h⟩
  · obtain ⟨-, rfl⟩ := Tx.commits_pure.1 h
    exact .of_same rfl
  rcases Tx.commits_ite.1 h with ⟨-, h⟩ | ⟨-, h⟩
  · simp only [Tx.commits_bind, commits_postRefund, commits_persistAdminCommandReceipt,
      Tx.commits_pure] at h
    obtain ⟨_, _, ⟨_, _, -, rfl⟩, _, _, ⟨_, -, rfl⟩, -, rfl⟩ := h
    exact .of_same rfl
  · simp only [Tx.commits_bind, Tx.commits_throwIf, commits_postRefund,
      commits_persistAdminCommandReceipt, Tx.commits_pure] at h
    obtain ⟨_, _, ⟨-, rfl⟩, _, _, hrefund, _, _, ⟨_, _, -, rfl⟩, _, _, ⟨_, -, rfl⟩, -, rfl⟩ := h
    have hrefunded := extends_of_refundPaidOrder (fun place => hseen (place + 1)) hrefund
    exact hrefunded

/-- **Whatever a call commits extends the ledger.** -/
theorem extends_of_call {call : LedgerCall} {u : Unit}
    (hseen : ∀ place, Extends (seen place).books db.books)
    (h : Tx.Commits (call.tx seen) db u db') : Extends db.books db'.books := by
  cases call with
  | credit input ids =>
      simp only [LedgerCall.tx, Tx.commits_bind, commits_onBooks, Tx.commits_pure] at h
      obtain ⟨_, _, ⟨books, hcredit, rfl⟩, -, rfl⟩ := h
      exact extends_of_creditWallet hcredit
  | debit input ids =>
      simp only [LedgerCall.tx, Tx.commits_bind, commits_onBooks, Tx.commits_pure] at h
      obtain ⟨_, _, ⟨books, hdebit, rfl⟩, -, rfl⟩ := h
      exact extends_of_debitWallet hdebit
  | reverse input ids =>
      simp only [LedgerCall.tx, Tx.commits_bind, commits_onBooks, Tx.commits_pure] at h
      obtain ⟨_, _, ⟨books, hreverse, rfl⟩, -, rfl⟩ := h
      exact extends_of_reverseLedgerEntry hseen hreverse
  | refund input =>
      simp only [LedgerCall.tx, Tx.commits_bind, Tx.commits_pure] at h
      obtain ⟨_, _, hrefund, -, rfl⟩ := h
      exact extends_of_refundOrder hseen hrefund

end Calls

/-! ## Once -/

/-- The completed entries that reverse an entry. -/
def reversalsOf (books : Books) (id : String) : List WalletLedgerEntry :=
  books.ledger.rows.filter fun entry => entry.reversal = some id

theorem extends_run (start : ServiceDb) (calls : List (Versions.Call LedgerCall)) :
    Extends start.books (run stepLedger (Versions.init start) calls).current.books := by
  have hrun := Versions.grown_run LedgerCall.tx (fun db => Extends start.books db.books)
    (fun db db' => Extends db.books db'.books) (fun _ => .of_same rfl)
    (fun _ _ _ h h' => h.trans h')
    (fun call seen db _ db' hseen hdb hcommits => by
      have hextends := extends_of_call (fun place => (hseen place).2) hcommits
      exact ⟨hdb.trans hextends, hextends⟩)
    ⟨Versions.ever_init (.of_same rfl), Versions.grown_init (fun _ => .of_same rfl) start⟩ calls
  exact hrun.1.current

/-- **An entry is reversed at most once**, whatever the order of the calls and whatever their reads
saw: there is at most one completed reversal of it, and those that are created move back nothing or
just what the entry has moved. -/
theorem reversed_at_most_once (start : ServiceDb) (calls : List (Versions.Call LedgerCall))
    (id : String) :
    let books := (run stepLedger (Versions.init start) calls).current.books
    (reversalsOf books id).length ≤ 1 ∧
    (reversalsOf start.books id = [] → ∀ original ∈ books.entryById id,
      net (reversalsOf books id) = 0 ∨ net (reversalsOf books id) = -original.signedAmount) := by
  intro books
  have hone : (reversalsOf books id).length ≤ 1 :=
    IndexedTable.length_filter_le_one (List.mem_cons_of_mem _ List.mem_cons_self)
  refine ⟨hone, fun hnone original horiginal => ?_⟩
  cases hreversals : reversalsOf books id with
  | nil => exact .inl rfl
  | cons entry rest =>
      obtain rfl : rest = [] := by
        rw [hreversals] at hone
        exact List.length_eq_zero_iff.1 (by simpa using hone)
      have hentry : entry ∈ reversalsOf books id := by rw [hreversals]; exact List.mem_singleton_self _
      obtain ⟨hrow, hreversal⟩ := List.mem_filter.1 hentry
      have hreversal := of_decide_eq_true hreversal
      obtain ⟨more, hrows, hmore⟩ := extends_run start calls
      -- the reversal has not been there from the start
      have hmem : entry ∈ more := by
        rw [hrows] at hrow
        rcases List.mem_append.1 hrow with hrow | hrow
        · have hstart : entry ∈ reversalsOf start.books id :=
            List.mem_filter.2 ⟨hrow, decide_eq_true hreversal⟩
          rw [hnone] at hstart
          cases hstart
        · exact hrow
      have hreversed : entry.reversedEntryId = some id := by
        unfold WalletLedgerEntry.reversal at hreversal
        split_ifs at hreversal
        exact hreversal
      obtain ⟨other, hother, hid, hundoes⟩ := hmore entry hmem id hreversed
      have hfound : books.ledger.rows.find? (fun entry => entry.id = id) = some original := horiginal
      have hid' : original.id = id := by simpa using List.find?_some hfound
      have hsame : other = original := IndexedTable.eq_of_index hother
        (List.mem_of_find?_eq_some hfound) List.mem_cons_self (congrArg some hid)
        (congrArg some hid')
      right
      rw [← hsame, ← hundoes.signedAmount_eq]
      simp [net]

/-- Two reversals of one debit, neither of which has seen the other, and a refund of its order. -/
def racedReversals : List (Versions.Call LedgerCall) := [
  ⟨.reverse ⟨"u", "debit", "first"⟩ ⟨"w", "a", ""⟩, []⟩,
  ⟨.reverse ⟨"u", "debit", "second"⟩ ⟨"w", "b", ""⟩, [1, 1, 1, 1]⟩,
  ⟨.refund (sampleRefund "first-refund-key" "c").input, []⟩]

theorem reversed_at_most_once_raced :
    let books := (run stepLedger (Versions.init (sampleDb samplePosted)) racedReversals).current.books
    (reversalsOf books "debit").map WalletLedgerEntry.id = ["a"] ∧
    (∀ original ∈ books.entryById "debit",
      net (reversalsOf books "debit") = 0 ∨
        net (reversalsOf books "debit") = -original.signedAmount) :=
  ⟨by decide +kernel, (reversed_at_most_once (sampleDb samplePosted) racedReversals "debit").2
    (by decide +kernel)⟩

end AbrChin.Orders
