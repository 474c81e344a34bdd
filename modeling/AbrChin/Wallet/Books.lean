import AbrChin.Lib.Sums
import AbrChin.Lib.Index
import AbrChin.Lib.Transaction
import AbrChin.Wallet.Schema

/-!
# The wallet books

The tables `Wallet` and `WalletLedgerEntry` together, with the few statements
through which every writer changes them.  Unique are the user of a wallet, the
key and the id of an entry, and the entry that a completed entry reverses.

`Booking` is all that happens to the books: an empty wallet is opened, the status
of a wallet changes, or an amount is moved and its entry written with the balance
after it.
-/

namespace AbrChin.Wallet

open Lib

/-- The entry that a completed entry reverses. -/
def WalletLedgerEntry.reversal (entry : WalletLedgerEntry) : Option String :=
  if entry.status = .completed then entry.reversedEntryId else none

structure Books where
  wallets : IndexedTable WalletRow.id [fun row => some row.userId]
  ledger : IndexedTable WalletLedgerEntry.idempotencyKey
    [fun entry => some entry.id, WalletLedgerEntry.reversal]

namespace Books

def empty : Books := ⟨.empty, .empty⟩

/-! ## Reads -/

def walletOf (books : Books) (userId : String) : Option WalletRow :=
  books.wallets.rows.find? fun row => row.userId = userId

def entryById (books : Books) (id : String) : Option WalletLedgerEntry :=
  books.ledger.rows.find? fun entry => entry.id = id

/-- The completed entry that reverses another one. -/
def reverseOf (books : Books) (id : String) : Option WalletLedgerEntry :=
  books.ledger.rows.find? fun entry => entry.reversal = some id

/-- The entries of a wallet, in the order in which they were committed. -/
def entriesOf (books : Books) (walletId : String) : List WalletLedgerEntry :=
  books.ledger.rows.filter fun entry => entry.walletId = walletId

/-! ## Statements -/

/-- `wallet.update` of the balance: the new row. -/
def addBalance (walletId : String) (amount : ℤ) : Tx Books String WalletRow := do
  let books ← Tx.get
  let wallet ← Tx.orThrow "P2025" (books.wallets.find? walletId)
  Tx.attempt "P2002" fun books =>
    (books.wallets.modify? walletId (·.add amount) fun _ => rfl).map ({ books with wallets := · })
  pure (wallet.add amount)

/-- `wallet.updateMany` of a wallet that covers the amount, and is active where
that is asked for; the number of rows has to be one. -/
def takeBalance (walletId : String) (amount : ℤ) (onlyActive : Bool) :
    Tx Books String WalletRow := do
  let books ← Tx.get
  let wallet ← Tx.orThrow "insufficient_funds" ((books.wallets.find? walletId).filter fun wallet =>
    amount ≤ wallet.availableBalance ∧ (onlyActive = true → wallet.status = .active))
  Tx.attempt "P2002" fun books =>
    (books.wallets.modify? walletId (·.add (-amount)) fun _ => rfl).map ({ books with wallets := · })
  pure (wallet.add (-amount))

def createEntry (entry : WalletLedgerEntry) : Tx Books String WalletLedgerEntry := do
  Tx.attempt "P2002" fun books =>
    (books.ledger.insert? entry).map ({ books with ledger := · })
  pure entry

/-- `ensureWalletForUser`: the wallet that the read saw, or a new empty one. -/
def ensureWalletForUser (seen : Books) (userId newId : String) : Tx Books String WalletRow :=
  match seen.walletOf userId with
  | some wallet => pure wallet
  | none => do
      let wallet : WalletRow := ⟨newId, userId, 0, .active, "IRR"⟩
      Tx.attempt "P2002" fun books =>
        (books.wallets.insert? wallet).map ({ books with wallets := · })
      pure wallet

/-- A completed entry before its balance is known. -/
structure EntryData where
  id : String
  walletId : String
  direction : LedgerDirection
  type : LedgerType
  amount : ℤ
  referenceType : Option String
  referenceId : Option String
  idempotencyKey : String
  reversedEntryId : Option String := none

def EntryData.entry (data : EntryData) (balanceAfter : ℤ) : WalletLedgerEntry :=
  { data with status := .completed, balanceAfter }

/-- Increment the balance and write the entry with the new one. -/
def credit (data : EntryData) : Tx Books String WalletLedgerEntry := do
  let updated ← addBalance data.walletId data.amount
  createEntry (data.entry updated.availableBalance)

/-- Decrement a balance that covers the amount and write the entry with the new one. -/
def debit (data : EntryData) (onlyActive : Bool) : Tx Books String WalletLedgerEntry := do
  let updated ← takeBalance data.walletId data.amount onlyActive
  createEntry (data.entry updated.availableBalance)

/-- Decrement the balance of a wallet that is locked and has been read, and write
the entry with the new one. -/
def debitLocked (data : EntryData) : Tx Books String WalletLedgerEntry := do
  let updated ← addBalance data.walletId (-data.amount)
  createEntry (data.entry updated.availableBalance)

/-! ## What the statements do -/

variable {books mid books' : Books}

variable {walletId : String} {amount : ℤ}

theorem commits_addBalance {row : WalletRow} :
    Tx.Commits (addBalance walletId amount) books row books' ↔
      ∃ wallet, books.wallets.find? walletId = some wallet ∧ row = wallet.add amount ∧
        ∃ wallets, books.wallets.modify? walletId (·.add amount) (fun _ => rfl) = some wallets ∧
          books' = { books with wallets } := by
  simp only [addBalance, Tx.commits_bind, Tx.commits_get, Tx.commits_orThrow, Tx.commits_attempt,
    Tx.commits_pure, Option.map_eq_some_iff]
  constructor
  · rintro ⟨_, _, ⟨rfl, rfl⟩, wallet, _, ⟨hwallet, rfl⟩, _, _, ⟨wallets, hmodify, rfl⟩, rfl, rfl⟩
    exact ⟨wallet, hwallet, rfl, wallets, hmodify, rfl⟩
  · rintro ⟨wallet, hwallet, rfl, wallets, hmodify, rfl⟩
    exact ⟨_, _, ⟨rfl, rfl⟩, wallet, _, ⟨hwallet, rfl⟩, (), _, ⟨wallets, hmodify, rfl⟩, rfl, rfl⟩

variable {onlyActive : Bool}

theorem commits_takeBalance {row : WalletRow} :
    Tx.Commits (takeBalance walletId amount onlyActive) books row books' ↔
      ∃ wallet, books.wallets.find? walletId = some wallet ∧ amount ≤ wallet.availableBalance ∧
        (onlyActive = true → wallet.status = .active) ∧ row = wallet.add (-amount) ∧
        ∃ wallets, books.wallets.modify? walletId (·.add (-amount)) (fun _ => rfl) = some wallets ∧
          books' = { books with wallets } := by
  simp only [takeBalance, Tx.commits_bind, Tx.commits_get, Tx.commits_orThrow, Tx.commits_attempt,
    Tx.commits_pure, Option.map_eq_some_iff, Option.filter_eq_some_iff, decide_eq_true_eq]
  constructor
  · rintro ⟨_, _, ⟨rfl, rfl⟩, wallet, _, ⟨⟨hwallet, hcovered, hactive⟩, rfl⟩, _, _,
      ⟨wallets, hmodify, rfl⟩, rfl, rfl⟩
    exact ⟨wallet, hwallet, hcovered, hactive, rfl, wallets, hmodify, rfl⟩
  · rintro ⟨wallet, hwallet, hcovered, hactive, rfl, wallets, hmodify, rfl⟩
    exact ⟨_, _, ⟨rfl, rfl⟩, wallet, _, ⟨⟨hwallet, hcovered, hactive⟩, rfl⟩, (), _,
      ⟨wallets, hmodify, rfl⟩, rfl, rfl⟩

theorem commits_createEntry {entry row : WalletLedgerEntry} :
    Tx.Commits (createEntry entry) books row books' ↔
      row = entry ∧ ∃ ledger, books.ledger.insert? entry = some ledger ∧
        books' = { books with ledger } := by
  simp only [createEntry, Tx.commits_bind, Tx.commits_attempt, Tx.commits_pure,
    Option.map_eq_some_iff]
  constructor
  · rintro ⟨_, _, ⟨ledger, hinsert, rfl⟩, rfl, rfl⟩
    exact ⟨rfl, ledger, hinsert, rfl⟩
  · rintro ⟨rfl, ledger, hinsert, rfl⟩
    exact ⟨(), _, ⟨ledger, hinsert, rfl⟩, rfl, rfl⟩

/-- An amount has been moved and its entry written. -/
structure Posted (entry : WalletLedgerEntry) (books books' : Books) : Prop where
  balance : ∃ wallet, books.wallets.find? entry.walletId = some wallet ∧
    entry.balanceAfter = wallet.availableBalance + entry.signedAmount ∧
    (entry.direction = .debit → entry.amount ≤ wallet.availableBalance)
  wallets : books.wallets.modify? entry.walletId (·.add entry.signedAmount) (fun _ => rfl) =
    some books'.wallets
  ledger : books.ledger.insert? entry = some books'.ledger
  completed : entry.status = .completed
  positive : 0 < entry.amount

variable {wallet : WalletRow}

theorem posted_of_add {entry row : WalletLedgerEntry}
    (hadd : Tx.Commits (addBalance entry.walletId entry.signedAmount) books wallet mid)
    (hcreate : Tx.Commits (createEntry entry) mid row books')
    (hbalance : entry.balanceAfter = wallet.availableBalance)
    (hcompleted : entry.status = .completed) (hpositive : 0 < entry.amount)
    (hcovered : entry.direction = .debit → ∀ before ∈ books.wallets.find? entry.walletId,
      entry.amount ≤ before.availableBalance) :
    Posted entry books books' := by
  obtain ⟨before, hbefore, rfl, wallets, hmodify, rfl⟩ := commits_addBalance.1 hadd
  obtain ⟨-, ledger, hinsert, rfl⟩ := commits_createEntry.1 hcreate
  exact ⟨⟨before, hbefore, hbalance, fun hdebit => hcovered hdebit before hbefore⟩, hmodify,
    hinsert, hcompleted, hpositive⟩

theorem posted_of_take {entry row : WalletLedgerEntry}
    (htake : Tx.Commits (takeBalance entry.walletId entry.amount onlyActive) books wallet mid)
    (hcreate : Tx.Commits (createEntry entry) mid row books')
    (hbalance : entry.balanceAfter = wallet.availableBalance)
    (hcompleted : entry.status = .completed) (hpositive : 0 < entry.amount)
    (hdebit : entry.direction = .debit) : Posted entry books books' := by
  obtain ⟨before, hbefore, hcovered, -, rfl, wallets, hmodify, rfl⟩ := commits_takeBalance.1 htake
  obtain ⟨-, ledger, hinsert, rfl⟩ := commits_createEntry.1 hcreate
  have hsigned : entry.signedAmount = -entry.amount := by
    simp [WalletLedgerEntry.signedAmount, hdebit]
  refine ⟨⟨before, hbefore, ?_, fun _ => hcovered⟩, ?_, hinsert, hcompleted, hpositive⟩
  · rw [hsigned]
    exact hbalance
  · rw [hsigned]
    exact hmodify

variable {data : EntryData}

theorem commits_credit {entry : WalletLedgerEntry}
    (h : Tx.Commits (credit data) books entry books') (hdirection : data.direction = .credit)
    (hpositive : 0 < data.amount) :
    Posted entry books books' ∧ entry = data.entry entry.balanceAfter := by
  simp only [credit, Tx.commits_bind] at h
  obtain ⟨row, mid, hadd, hcreate⟩ := h
  obtain ⟨rfl, -⟩ := commits_createEntry.1 hcreate
  have hsigned : (data.entry row.availableBalance).signedAmount = data.amount := by
    simp [EntryData.entry, WalletLedgerEntry.signedAmount, hdirection]
  refine ⟨posted_of_add (by rw [hsigned]; exact hadd) hcreate rfl rfl hpositive ?_, rfl⟩
  intro hdebit
  cases hdirection.symm.trans hdebit

theorem commits_debit {entry : WalletLedgerEntry}
    (h : Tx.Commits (debit data onlyActive) books entry books')
    (hdirection : data.direction = .debit) (hpositive : 0 < data.amount) :
    Posted entry books books' ∧ entry = data.entry entry.balanceAfter := by
  simp only [debit, Tx.commits_bind] at h
  obtain ⟨row, mid, htake, hcreate⟩ := h
  obtain ⟨rfl, -⟩ := commits_createEntry.1 hcreate
  exact ⟨posted_of_take htake hcreate rfl rfl hpositive hdirection, rfl⟩

theorem commits_debitLocked {entry : WalletLedgerEntry}
    (h : Tx.Commits (debitLocked data) books entry books') (hdirection : data.direction = .debit)
    (hpositive : 0 < data.amount) (hcovered : ∀ wallet ∈ books.wallets.find? data.walletId,
      data.amount ≤ wallet.availableBalance) :
    Posted entry books books' ∧ entry = data.entry entry.balanceAfter := by
  simp only [debitLocked, Tx.commits_bind] at h
  obtain ⟨row, mid, hadd, hcreate⟩ := h
  obtain ⟨rfl, -⟩ := commits_createEntry.1 hcreate
  have hsigned : (data.entry row.availableBalance).signedAmount = -data.amount := by
    simp [EntryData.entry, WalletLedgerEntry.signedAmount, hdirection]
  exact ⟨posted_of_add (by rw [hsigned]; exact hadd) hcreate rfl rfl hpositive
    fun _ => hcovered, rfl⟩

/-- One change of the books. -/
inductive Booking : Books → Books → Prop
  | opened {books : Books} (wallet : WalletRow) (hzero : wallet.availableBalance = 0)
      {wallets} (hinsert : books.wallets.insert? wallet = some wallets) :
      Booking books { books with wallets }
  | posted {books books' : Books} (entry : WalletLedgerEntry) (h : Posted entry books books') :
      Booking books books'
  | marked {books : Books} (walletId : String) (status : WalletStatus) {wallets}
      (hmodify : books.wallets.modify? walletId (·.withStatus status) (fun _ => rfl) =
        some wallets) : Booking books { books with wallets }

/-- A sequence of changes. -/
abbrev Bookings (books books' : Books) : Prop := Relation.ReflTransGen Booking books books'

theorem commits_ensureWallet {seen : Books} {userId newId : String}
    (h : Tx.Commits (ensureWalletForUser seen userId newId) books wallet books') :
    (seen.walletOf userId = some wallet ∧ books' = books) ∨
      (seen.walletOf userId = none ∧ wallet = ⟨newId, userId, 0, .active, "IRR"⟩ ∧
        ∃ wallets, books.wallets.insert? wallet = some wallets ∧ books' = { books with wallets }) := by
  unfold ensureWalletForUser at h
  cases hseen : seen.walletOf userId with
  | some found =>
      simp only [hseen, Tx.commits_pure] at h
      obtain ⟨rfl, rfl⟩ := h
      exact .inl ⟨rfl, rfl⟩
  | none =>
      simp only [hseen, Tx.commits_bind, Tx.commits_attempt, Option.map_eq_some_iff,
        Tx.commits_pure] at h
      obtain ⟨_, _, ⟨wallets, hinsert, rfl⟩, rfl, rfl⟩ := h
      exact .inr ⟨rfl, rfl, wallets, hinsert, rfl⟩

/-- A user keeps the wallet. -/
theorem wallet_stays (h : Bookings books books') (hwallet : wallet ∈ books.wallets.rows) :
    ∃ later ∈ books'.wallets.rows, later.id = wallet.id ∧ later.userId = wallet.userId := by
  induction h with
  | refl => exact ⟨wallet, hwallet, rfl, rfl⟩
  | tail _ hbooking ih =>
      obtain ⟨mid, hmid, hid, huser⟩ := ih
      cases hbooking with
      | opened new hzero hinsert =>
          refine ⟨mid, ?_, hid, huser⟩
          show mid ∈ IndexedTable.rows _
          rw [IndexedTable.rows_of_insert? hinsert]
          exact List.mem_append_left _ hmid
      | posted entry hposted =>
          obtain ⟨later, hlater, rfl⟩ := IndexedTable.mem_of_modify? hposted.wallets hmid
          exact ⟨_, hlater, by split_ifs <;> exact hid, by split_ifs <;> exact huser⟩
      | marked walletId status hmodify =>
          obtain ⟨later, hlater, rfl⟩ := IndexedTable.mem_of_modify? hmodify hmid
          exact ⟨_, hlater, by split_ifs <;> exact hid, by split_ifs <;> exact huser⟩

end Books

end AbrChin.Wallet
