import AbrChin.MessageGo.Errors

/-!
# What a call can do

One inversion lemma for each settlement transaction.  A transaction that
commits either replays a recorded operation, or records a denial, or performs
one `Move` of the reservation it is about and records the outcome; everything
else it could have written is rolled back.  `Effect` lists these cases, with
the guards that the transaction has checked, and every invariant of the later
modules is proved by cases on it: no later proof unfolds a transaction.

The lemmas follow the layers of the code: the writes, then the two postings
`debitHold` and `creditRelease`, then the wrappers (`unlessRecorded`,
`withReservation`, `catchInsufficientFunds`), then the bodies.
-/

namespace AbrChin.MessageGo

open Lib Lib.Tx Wallet

variable {db db' : Db} {key : OperationKey} {committed : Committed}

/-! ## Writes -/

@[simp] theorem commits_writeBook {write : Book → Option Book} {u : Unit} :
    Commits (writeBook write) db u db' ↔
      ∃ book, write db.toBook = some book ∧ db' = { db with toBook := book } := by
  simp [writeBook, eq_comm]

variable {failure : Failure}

@[simp] theorem throws_writeBook {write : Book → Option Book} :
    Throws (writeBook write) db failure db' ↔
      write db.toBook = none ∧ failure = .database ∧ db' = db := by
  simp [writeBook]

variable {code : SettlementErrorCode} {message : String}

@[simp] theorem commits_reject {α : Type} {a : α} :
    ¬ Commits (Tx.reject code message) db a db' := commits_throw

@[simp] theorem throws_reject {α : Type} :
    Throws (Tx.reject code message : Tx α) db failure db' ↔
      failure = .settlement ⟨code, message⟩ ∧ db' = db := throws_throw

theorem find?_setReservation (book : Book) (id other : String) (holds settled : Option ℤ)
    (status : ReservationStatus) :
    (book.setReservation id holds settled status).reservations.find? other =
      if other = id then (book.reservations.find? id).map fun row => row.updated holds settled status
      else book.reservations.find? other := by
  rw [Book.setReservation, Table.find?_modify]

variable {row : Reservation}

theorem commits_updateReservation {id : String} {holds settled : Option ℤ}
    {status : ReservationStatus} :
    Commits (updateReservation id holds settled status) db row db' ↔
      ∃ before, db.reservations.find? id = some before ∧
        row = before.updated holds settled status ∧
        db' = { db with toBook := db.toBook.setReservation id holds settled status } := by
  simp only [updateReservation, commits_bind, commits_get, commits_orThrow, commits_writeBook,
    Option.some.injEq]
  constructor
  · rintro ⟨_, _, ⟨rfl, rfl⟩, before, _, ⟨hbefore, rfl⟩, _, _, ⟨_, rfl, rfl⟩, _, _, ⟨rfl, rfl⟩,
      hrow, rfl⟩
    rw [find?_setReservation, if_pos rfl, hbefore] at hrow
    exact ⟨before, hbefore, by simpa using hrow.symm, rfl⟩
  · rintro ⟨before, hbefore, rfl, rfl⟩
    refine ⟨_, _, ⟨rfl, rfl⟩, before, _, ⟨hbefore, rfl⟩, (), _, ⟨_, rfl, rfl⟩, _, _, ⟨rfl, rfl⟩,
      ?_, rfl⟩
    rw [find?_setReservation, if_pos rfl, hbefore]
    rfl

/-- The operation that a denial records. -/
def OperationKey.denial (key : OperationKey) (reservationId : Option String)
    (code : SettlementErrorCode) : Operation where
  operationId := key.operationId
  kind := key.kind
  bodyFingerprint := key.fingerprint
  reservationId
  accountId := key.accountId
  recorded := .error code

/-- The operation that an accepted call records. -/
def OperationKey.acceptance (key : OperationKey) (reservationId : String)
    (outcome : AuthorityOutcome) : Operation where
  operationId := key.operationId
  kind := key.kind
  bodyFingerprint := key.fingerprint
  reservationId := some reservationId
  accountId := key.accountId
  recorded := .ok outcome

/-- `db'` is `db` with one more operation, of an account that exists. -/
def Records (db : Db) (operation : Operation) (db' : Db) : Prop :=
  db.users.find? operation.accountId ≠ none ∧
    ∃ operations, db.operations.insert? operation = some operations ∧ db' = { db with operations }

variable {operation : Operation}

theorem Records.find? (h : Records db operation db') (o : String) :
    db'.operations.find? o =
      if operation.operationId = o then some operation else db.operations.find? o := by
  obtain ⟨-, operations, hinsert, rfl⟩ := h
  exact Table.find?_insert? hinsert o

theorem Records.find?_self (h : Records db operation db') :
    db'.operations.find? operation.operationId = some operation := by
  rw [h.find?, if_pos rfl]

theorem records_of_commits {u : Unit} (h : Commits (recordOperation operation) db u db') :
    Records db operation db' := by
  simp only [recordOperation, commits_attempt] at h
  split at h
  · cases h
  · rename_i hkeys
    push Not at hkeys
    obtain ⟨operations, hinsert, rfl⟩ := Option.map_eq_some_iff.1 h
    exact ⟨hkeys.1, operations, hinsert, rfl⟩

variable {reservationId : Option String}

theorem commits_deny (h : Commits (key.deny reservationId code message) db committed db') :
    committed = .error code message ∧ Records db (key.denial reservationId code) db' := by
  simp only [OperationKey.deny, commits_bind, commits_pure] at h
  obtain ⟨_, _, hrecord, rfl, rfl⟩ := h
  exact ⟨rfl, records_of_commits hrecord⟩

theorem commits_accept {reservationId : String} {outcome : AuthorityOutcome}
    (h : Commits (key.accept reservationId outcome) db committed db') :
    committed = .ok outcome ∧ Records db (key.acceptance reservationId outcome) db' := by
  simp only [OperationKey.accept, commits_bind, commits_pure] at h
  obtain ⟨_, _, hrecord, rfl, rfl⟩ := h
  exact ⟨rfl, records_of_commits hrecord⟩

theorem commits_recordEvent {event : ReservationEvent} {u : Unit}
    (h : Commits (recordEvent event) db u db') : ∃ events, db' = { db with events } := by
  simp only [recordEvent, commits_attempt] at h
  split at h
  · cases h
  · exact ⟨_, (Option.some.inj h).symm⟩

/-! ## Postings -/

/-- The balance and the ledger move together. -/
def Book.post (book : Book) (entry : WalletLedgerEntry) : Option Book :=
  (book.addToBalance entry.walletId entry.signedAmount).createLedgerEntry entry

/-- What a posting does: nothing if its amount is zero, otherwise one entry that
carries the new balance.  A debit is covered by the balance it finds. -/
inductive Posts (book : Book) (posting : Posting) (direction : LedgerDirection) :
    Option WalletLedgerEntry → Book → Prop
  | nothing (hamount : posting.amountRial = 0) : Posts book posting direction none book
  | entry {entryId : String} {wallet : WalletRow} {balanceAfter : ℤ} {posted : Book}
      (hamount : posting.amountRial ≠ 0)
      (hwallet : book.wallets.find? posting.walletId = some wallet)
      (hcovered : direction = .debit → posting.amountRial ≤ wallet.availableBalance)
      (hbalance : balanceAfter = wallet.availableBalance +
        (posting.entry entryId direction balanceAfter).signedAmount)
      (hpost : book.post (posting.entry entryId direction balanceAfter) = some posted) :
      Posts book posting direction (some (posting.entry entryId direction balanceAfter)) posted

theorem find?_addToBalance (book : Book) (walletId other : String) (amount : ℤ) :
    (book.addToBalance walletId amount).wallets.find? other =
      if other = walletId then (book.wallets.find? walletId).map fun wallet => wallet.add amount
      else book.wallets.find? other := by
  rw [Book.addToBalance, Table.find?_modify]

variable {entry : Option WalletLedgerEntry} {entryId : String} {posting : Posting}

theorem commits_debitHold (h : Commits (debitHold entryId posting) db entry db') :
    ∃ book, Posts db.toBook posting .debit entry book ∧ db' = { db with toBook := book } := by
  unfold debitHold at h
  split at h
  · rename_i hamount
    obtain ⟨rfl, rfl⟩ := commits_pure.1 h
    exact ⟨_, .nothing hamount, rfl⟩
  · rename_i hamount
    simp only [commits_bind, commits_get] at h
    obtain ⟨_, _, ⟨rfl, rfl⟩, h⟩ := h
    split at h
    · exact (commits_reject h).elim
    · rename_i hmatched
      simp only [commits_bind, commits_writeBook, commits_get, commits_orThrow, commits_pure,
        Option.some.injEq] at h
      obtain ⟨_, _, ⟨_, rfl, rfl⟩, _, _, ⟨rfl, rfl⟩, fresh, _, ⟨hfresh, rfl⟩, _, _,
        ⟨book, hcreate, rfl⟩, rfl, rfl⟩ := h
      rw [find?_addToBalance, if_pos rfl] at hfresh
      obtain ⟨wallet, hwallet, rfl⟩ := Option.map_eq_some_iff.1 hfresh
      rw [hwallet] at hmatched
      have hcovered : posting.amountRial ≤ wallet.availableBalance := by
        simp only [Option.any_some, Bool.not_eq_false, decide_eq_true_eq] at hmatched
        exact hmatched.1
      exact ⟨book, .entry hamount hwallet (fun _ => hcovered) rfl hcreate, rfl⟩

theorem throws_debitHold {error : SettlementError}
    (h : Throws (debitHold entryId posting) db (.settlement error) db') : db' = db := by
  unfold debitHold at h
  split at h
  · exact (throws_pure h).elim
  · simp only [throws_bind, throws_get, commits_get, false_or] at h
    obtain ⟨_, _, ⟨rfl, rfl⟩, h⟩ := h
    split at h
    · exact (throws_reject.1 h).2
    · simp only [throws_bind, throws_writeBook, throws_get, throws_orThrow, throws_pure,
        reduceCtorEq, false_and, and_false, exists_false, or_false] at h

theorem commits_creditRelease (h : Commits (creditRelease entryId posting) db entry db') :
    ∃ book, Posts db.toBook posting .credit entry book ∧ db' = { db with toBook := book } := by
  unfold creditRelease at h
  split at h
  · rename_i hamount
    obtain ⟨rfl, rfl⟩ := commits_pure.1 h
    exact ⟨_, .nothing hamount, rfl⟩
  · rename_i hamount
    simp only [commits_bind, commits_writeBook, commits_get, commits_orThrow, commits_pure,
      Option.some.injEq] at h
    obtain ⟨_, _, ⟨rfl, rfl⟩, _, _, ⟨-, rfl⟩, _, _, ⟨_, rfl, rfl⟩, _, _, ⟨rfl, rfl⟩, updated, _,
      ⟨hupdated, rfl⟩, _, _, ⟨book, hcreate, rfl⟩, rfl, rfl⟩ := h
    rw [find?_addToBalance, if_pos rfl] at hupdated
    obtain ⟨wallet, hwallet, rfl⟩ := Option.map_eq_some_iff.1 hupdated
    exact ⟨book, .entry hamount hwallet (by simp) rfl hcreate, rfl⟩

/-! ## The wrappers -/

variable {body : Tx Committed}

theorem commits_unlessRecorded (h : Commits (key.unlessRecorded body) db committed db') :
    (∃ existing outcome, db.operations.find? key.operationId = some existing ∧
        replay existing key.kind key.fingerprint = .ok outcome ∧
        committed = .replay outcome ∧ db' = db) ∨
      db.operations.find? key.operationId = none ∧ Commits body db committed db' := by
  simp only [OperationKey.unlessRecorded, commits_bind, commits_get] at h
  obtain ⟨_, _, ⟨rfl, rfl⟩, h⟩ := h
  split at h
  · rename_i existing hexisting
    simp only [commits_bind, commits_ofExcept, commits_pure] at h
    obtain ⟨outcome, _, ⟨hreplay, rfl⟩, rfl, rfl⟩ := h
    exact .inl ⟨existing, outcome, hexisting, hreplay, rfl, rfl⟩
  · rename_i hfresh
    exact .inr ⟨hfresh, h⟩

theorem throws_unlessRecorded (h : Throws (key.unlessRecorded body) db failure db') :
    (∃ existing, db.operations.find? key.operationId = some existing ∧
        replay existing key.kind key.fingerprint = .error failure) ∨
      db.operations.find? key.operationId = none ∧ Throws body db failure db' := by
  simp only [OperationKey.unlessRecorded, throws_bind, throws_get, commits_get, false_or] at h
  obtain ⟨_, _, ⟨rfl, rfl⟩, h⟩ := h
  split at h
  · rename_i existing hexisting
    simp only [throws_bind, throws_ofExcept, throws_pure, and_false, exists_false, or_false] at h
    exact .inl ⟨existing, hexisting, h.1⟩
  · rename_i hfresh
    exact .inr ⟨hfresh, h⟩

variable {scope : Scope}

theorem commits_loadInScope :
    Commits (loadInScope scope) db row db' ↔
      db.reservations.find? scope.authorityReservationId = some row ∧
        assertScope row scope = .ok () ∧ db' = db := by
  simp only [loadInScope, loadReservationForMutation, commits_bind, commits_get,
    commits_ofExcept, commits_pure]
  constructor
  · rintro ⟨found, _, ⟨_, _, ⟨rfl, rfl⟩, hload⟩, _, _, ⟨hscope, rfl⟩, rfl, rfl⟩
    split at hload
    · rename_i found hfound
      obtain ⟨rfl, rfl⟩ := commits_pure.1 hload
      exact ⟨hfound, hscope, rfl⟩
    · exact (commits_reject hload).elim
  · rintro ⟨hrow, hscope, rfl⟩
    refine ⟨row, _, ⟨_, _, ⟨rfl, rfl⟩, ?_⟩, (), _, ⟨hscope, rfl⟩, rfl, rfl⟩
    rw [hrow]
    exact commits_pure.2 ⟨rfl, rfl⟩

theorem throws_assertScope (h : assertScope row scope = .error failure) :
    ∃ message, failure = .settlement ⟨.notFound, message⟩ ∨
      failure = .settlement ⟨.scopeMismatch, message⟩ := by
  unfold assertScope at h
  split at h
  · cases h
    exact ⟨_, .inl rfl⟩
  · split at h
    · cases h
      exact ⟨_, .inr rfl⟩
    · cases h

theorem throws_loadInScope (h : Throws (loadInScope scope) db failure db') :
    db' = db ∧ ∃ message, failure = .settlement ⟨.notFound, message⟩ ∨
      failure = .settlement ⟨.scopeMismatch, message⟩ := by
  simp only [loadInScope, loadReservationForMutation, throws_bind, throws_get, commits_bind,
    commits_get, throws_ofExcept, throws_pure, and_false, exists_false, or_false, false_or] at h
  rcases h with ⟨_, _, ⟨rfl, rfl⟩, h⟩ | ⟨row, _, ⟨_, _, ⟨rfl, rfl⟩, hload⟩, hscope, rfl⟩
  · split at h
    · exact (throws_pure h).elim
    · obtain ⟨rfl, rfl⟩ := throws_reject.1 h
      exact ⟨rfl, _, .inl rfl⟩
  · refine ⟨?_, throws_assertScope hscope⟩
    split at hload
    · exact (commits_pure.1 hload).2
    · exact (commits_reject hload).elim

theorem commits_withReservation {body : Reservation → Tx Committed}
    (h : Commits (key.withReservation scope body) db committed db') :
    (∃ row, db.reservations.find? scope.authorityReservationId = some row ∧
        assertScope row scope = .ok () ∧ Commits (body row) db committed db') ∨
      ∃ reservationId code message, code ≠ .insufficientFunds ∧
        committed = .error code message ∧ Records db (key.denial reservationId code) db' := by
  simp only [OperationKey.withReservation, commits_bind, commits_tryCatch, commits_pure,
    throws_bind, throws_pure, and_false, exists_false, or_false, commits_loadInScope] at h
  obtain ⟨loaded, mid, ⟨row, _, ⟨hrow, hscope, rfl⟩, rfl, rfl⟩ | ⟨failure, start, hthrow, hhandler⟩,
    h⟩ := h
  · exact .inl ⟨row, hrow, hscope, h⟩
  · obtain ⟨rfl, message, rfl | rfl⟩ := throws_loadInScope hthrow
    all_goals
      simp only [commits_bind, commits_pure] at hhandler
      obtain ⟨denied, _, hdeny, rfl, rfl⟩ := hhandler
      obtain ⟨rfl, rfl⟩ := commits_pure.1 h
      obtain ⟨rfl, hrecords⟩ := commits_deny hdeny
      exact .inr ⟨_, _, _, by decide, rfl, hrecords⟩

theorem commits_catchInsufficientFunds {reservationId : String}
    (h : Commits (key.catchInsufficientFunds reservationId body) db committed db') :
    Commits body db committed db' ∨
      ∃ message mid, Throws body db (.settlement ⟨.insufficientFunds, message⟩) mid ∧
        committed = .error .insufficientFunds message ∧
        Records mid (key.denial (some reservationId) .insufficientFunds) db' := by
  simp only [OperationKey.catchInsufficientFunds, commits_tryCatch] at h
  rcases h with h | ⟨failure, mid, hthrow, hhandler⟩
  · exact .inl h
  · split at hhandler
    · rename_i message
      obtain ⟨rfl, hrecords⟩ := commits_deny hhandler
      exact .inr ⟨message, mid, hthrow, rfl, hrecords⟩
    · exact (commits_throw hhandler).elim

/-! ## Moves -/

/-- A reservation that still holds its money. -/
def Reservation.Open (row : Reservation) : Prop :=
  row.status = .reserved ∨ row.status = .uncertain

/-- A reservation that has been charged. -/
def Reservation.Charged (row : Reservation) : Prop :=
  row.status = .settled ∨ row.status = .reconciled

/-- The amount that a usage costs under the row's price snapshot. -/
def Reservation.billable (row : Reservation) (usage : ProviderUsageTokens) : Except Failure ℤ := do
  let snapshot ← reservationPriceSnapshot row
  deriveBillableRial snapshot.rates usage snapshot.maxInput snapshot.maxOutput

/-- The hold is the cost of the token bounds in the row's price snapshot. -/
def Reservation.Priced (row : Reservation) : Prop :=
  ∃ snapshot input output, reservationPriceSnapshot row = .ok snapshot ∧
    costRial snapshot.maxInput snapshot.rates.inputRialPerMillion = .ok input ∧
    costRial snapshot.maxOutput snapshot.rates.outputRialPerMillion = .ok output ∧
    row.holdAmountRial = input + output

/-- A wallet may have been opened, with nothing in it. -/
def Opens (book opened : Book) : Prop :=
  opened = book ∨ ∃ wallet : WalletRow, wallet.availableBalance = 0 ∧
    book.createWallet wallet = some opened

/-- What `applyBillable` posts before it closes the reservation. -/
def AppliesBillable (book : Book) (row : Reservation) (billable : ℤ) (posted : Book) : Prop :=
  ∃ posting entry, posting.walletId = row.walletId ∧ posting.referenceId = row.id ∧
    (billable ≤ row.remainingHoldRial ∧ posting.type = .messagegoHoldRelease ∧
        posting.amountRial = row.remainingHoldRial - billable ∧
        Posts book posting .credit entry posted ∨
      row.remainingHoldRial < billable ∧
        posting.amountRial = billable - row.remainingHoldRial ∧
        Posts book posting .debit entry posted)

/-- What an accepted call asks for: a reservation for an account, or something of
the reservation `target`. -/
inductive Label where
  | reserve (accountId : String)
  | uncertain (target : String)
  | charge (target : String) (usage : ProviderUsageTokens) (final : ReservationStatus)
  | release (target : String)

/-- A label of a reserve call. -/
def Label.IsReserve : Label → Prop
  | .reserve _ => True
  | _ => False

/-- What an accepted call does to the tables that hold money, with the guards
that it has checked. -/
inductive Move (book : Book) : Label → String → Book → Prop
  | hold {opened held posted : Book} {row : Reservation} {wallet : WalletRow} {posting : Posting}
      {entry : Option WalletLedgerEntry} (hopens : Opens book opened)
      (hwallet : opened.wallets.find? row.walletId = some wallet)
      (hstatus : row.status = .reserved) (hremaining : row.remainingHoldRial = row.holdAmountRial)
      (hsettled : row.settledAmountRial = 0) (hpriced : row.Priced)
      (hcreate : opened.createReservation row = some held)
      (hposting : posting.walletId = row.walletId ∧ posting.referenceId = row.id ∧
        posting.type = .messagegoReserveHold ∧ posting.amountRial = row.holdAmountRial)
      (hpost : Posts held posting .debit entry posted) :
      Move book (.reserve row.accountId) row.id posted
  | uncertain {row : Reservation} (hrow : book.reservations.find? row.id = some row)
      (hopen : row.Open) :
      Move book (.uncertain row.id) row.id (book.setReservation row.id none none .uncertain)
  | recharge {row : Reservation} {usage : ProviderUsageTokens} {final : ReservationStatus}
      (hrow : book.reservations.find? row.id = some row) (hcharged : row.Charged)
      (hbillable : row.billable usage = .ok row.settledAmountRial) :
      Move book (.charge row.id usage final) row.id book
  | charge {row : Reservation} {usage : ProviderUsageTokens} {final : ReservationStatus}
      {billable : ℤ} {posted : Book} (hrow : book.reservations.find? row.id = some row)
      (hopen : row.Open) (hfinal : final = .settled ∨ final = .reconciled)
      (hbillable : row.billable usage = .ok billable)
      (happlies : AppliesBillable book row billable posted) :
      Move book (.charge row.id usage final) row.id
        (posted.setReservation row.id (some 0) (some (row.settledAmountRial + billable)) final)
  | rerelease {row : Reservation} (hrow : book.reservations.find? row.id = some row)
      (hreleased : row.status = .released) : Move book (.release row.id) row.id book
  | release {row : Reservation} {posting : Posting} {entry : Option WalletLedgerEntry}
      {posted : Book} (hrow : book.reservations.find? row.id = some row)
      (hreserved : row.status = .reserved)
      (hposting : posting.walletId = row.walletId ∧ posting.referenceId = row.id ∧
        posting.type = .messagegoHoldRelease ∧ posting.amountRial = row.remainingHoldRial)
      (hpost : Posts book posting .credit entry posted) :
      Move book (.release row.id) row.id (posted.setReservation row.id (some 0) none .released)

/-- A charge that exceeds what its reservation holds. -/
def Overcharge (book : Book) (label : Label) : Prop :=
  ∃ row usage final billable, label = .charge row.id usage final ∧
    book.reservations.find? row.id = some row ∧ row.Open ∧
    row.billable usage = .ok billable ∧ row.remainingHoldRial < billable

/-- What one call, after its input has been parsed, can do: replay, fail without
a trace, record a denial, or move its reservation and record the outcome.  Apart
from a reserve call, only an overcharge is denied for lack of funds. -/
inductive Effect (key : OperationKey) (label : Label) (db : Db) :
    Except Failure AuthorityOutcome → Db → Prop
  | replayed {existing : Operation}
      (hexisting : db.operations.find? key.operationId = some existing) :
      Effect key label db (replay existing key.kind key.fingerprint) db
  | failed {failure : Failure} (hfresh : db.operations.find? key.operationId = none)
      (hfailure : ¬ label.IsReserve → failure.Other) :
      Effect key label db (.error failure) db
  | denied {opened : Book} {reservationId : Option String} {code : SettlementErrorCode}
      {message : String} {db' : Db} (hfresh : db.operations.find? key.operationId = none)
      (hcode : ¬ label.IsReserve → code = .insufficientFunds → Overcharge db.toBook label)
      (hopens : Opens db.toBook opened)
      (hrecords : Records { db with toBook := opened } (key.denial reservationId code) db') :
      Effect key label db (reject code message) db'
  | accepted {book : Book} {reservationId : String} {outcome : AuthorityOutcome}
      {events : List ReservationEvent} {db' : Db}
      (hfresh : db.operations.find? key.operationId = none)
      (hmove : Move db.toBook label reservationId book)
      (houtcome : outcome.authorityReservationId = reservationId)
      (hrecords : Records { db with toBook := book, events } (key.acceptance reservationId outcome)
        db') :
      Effect key label db (.ok outcome) db'

/-- A call is its transaction: what the body commits, or nothing. -/
theorem effect_of_body {label : Label}
    (hthrows : ¬ label.IsReserve → ThrowsOnly Failure.Other body)
    (hbody : ∀ {committed db'}, db.operations.find? key.operationId = none →
      Commits body db committed db' → Effect key label db committed.result db') :
    Effect key label db (commit (key.unlessRecorded body) db).1
      (commit (key.unlessRecorded body) db).2 := by
  unfold commit
  cases h : Lib.Tx.transaction (key.unlessRecorded body) db with
  | mk result db' =>
      cases result with
      | ok committed =>
          rcases commits_unlessRecorded (transaction_ok.1 h) with
            ⟨existing, outcome, hexisting, hreplay, rfl, rfl⟩ | ⟨hfresh, hcommits⟩
          · have heffect : Effect key label _ _ _ := .replayed hexisting
            rw [hreplay] at heffect
            exact heffect
          · exact hbody hfresh hcommits
      | error failure =>
          obtain ⟨rfl, mid, hthrow⟩ := transaction_error h
          rcases throws_unlessRecorded hthrow with ⟨existing, hexisting, hreplay⟩ | ⟨hfresh, hthrow⟩
          · have heffect : Effect key label _ _ _ := .replayed hexisting
            rw [hreplay] at heffect
            exact heffect
          · exact .failed hfresh fun hlabel => hthrows hlabel _ _ _ hthrow

/-- The common part of the calls on an existing reservation. -/
theorem effect_withReservation {label : Label} {body : Reservation → Tx Committed} {start : Db}
    (hfresh : start.operations.find? key.operationId = none)
    (h : Commits (key.withReservation scope body) start committed db')
    (hbody : ∀ row, row.id = scope.authorityReservationId →
      start.reservations.find? row.id = some row → Commits (body row) start committed db' →
      Effect key label start committed.result db') :
    Effect key label start committed.result db' := by
  rcases commits_withReservation h with ⟨row, hrow, hscope, hcommits⟩ |
    ⟨reservationId, code, message, hcode, rfl, hrecords⟩
  · have hid : row.id = scope.authorityReservationId := Table.key_of_find? hrow
    exact hbody row hid (hid ▸ hrow) hcommits
  · exact .denied hfresh (fun _ h => absurd h hcode) (.inl rfl) hrecords

/-- A denial on an existing reservation. -/
theorem effect_deny {label : Label} (hfresh : db.operations.find? key.operationId = none)
    (hcode : code ≠ .insufficientFunds)
    (h : Commits (key.deny reservationId code message) db committed db') :
    Effect key label db committed.result db' := by
  obtain ⟨rfl, hrecords⟩ := commits_deny h
  exact .denied hfresh (fun _ h => absurd h hcode) (.inl rfl) hrecords

/-! ## Settle and reconcile -/

variable {posted : Book}

theorem Posts.reservations_eq {book : Book} {direction : LedgerDirection}
    (h : Posts book posting direction entry posted) : posted.reservations = book.reservations := by
  cases h with
  | nothing hamount => rfl
  | entry hamount hwallet hcovered hbalance hpost =>
      simp only [Book.post, Book.createLedgerEntry] at hpost
      split at hpost
      · cases hpost
      · obtain ⟨ledger, hinsert, rfl⟩ := Option.map_eq_some_iff.1 hpost
        rfl

theorem AppliesBillable.reservations_eq {book : Book} {billable : ℤ}
    (h : AppliesBillable book row billable posted) : posted.reservations = book.reservations := by
  obtain ⟨posting, entry, -, -, ⟨-, -, -, hpost⟩ | ⟨-, -, hpost⟩⟩ := h
  · exact hpost.reservations_eq
  · exact hpost.reservations_eq

variable {operationId : String}

theorem commits_postBillable {billable : ℤ}
    (h : Commits (postBillable entryId row billable operationId) db entry db') :
    ∃ posted, AppliesBillable db.toBook row billable posted ∧
      db' = { db with toBook := posted } := by
  simp only [postBillable, commits_ite] at h
  rcases h with ⟨hover, h⟩ | ⟨hcovered, h⟩
  · obtain ⟨posted, hpost, rfl⟩ := commits_debitHold h
    exact ⟨posted, ⟨_, _, rfl, rfl, .inr ⟨hover, rfl, hpost⟩⟩, rfl⟩
  · obtain ⟨posted, hpost, rfl⟩ := commits_creditRelease h
    exact ⟨posted, ⟨_, _, rfl, rfl, .inl ⟨not_lt.1 hcovered, rfl, rfl, hpost⟩⟩, rfl⟩

theorem throws_postBillable {billable : ℤ} (hfunds : failure.OfFunds)
    (h : Throws (postBillable entryId row billable operationId) db failure db') :
    db' = db ∧ row.remainingHoldRial < billable := by
  unfold postBillable at h
  dsimp only at h
  split at h
  · rename_i hover
    cases failure with
    | settlement error => exact ⟨throws_debitHold h, hover⟩
    | database => exact hfunds.elim
  · exact (creditRelease_other _ _ _ _ _ h hfunds).elim

theorem commits_applyBillable {billable : ℤ} {applied : Applied}
    (hrow : db.reservations.find? row.id = some row)
    (h : Commits (applyBillable entryId row billable operationId) db applied db') :
    ∃ posted, AppliesBillable db.toBook row billable posted ∧
      applied.reservation =
        row.updated (some 0) (some (row.settledAmountRial + billable)) .settled ∧
      db' = { db with
        toBook := posted.setReservation row.id (some 0)
          (some (row.settledAmountRial + billable)) .settled } := by
  simp only [applyBillable, commits_bind, commits_pure] at h
  obtain ⟨entry, _, hpost, updated, _, hupdate, rfl, rfl⟩ := h
  obtain ⟨posted, happlies, rfl⟩ := commits_postBillable hpost
  obtain ⟨before, hbefore, rfl, rfl⟩ := commits_updateReservation.1 hupdate
  have hsame : before = row := by
    rw [happlies.reservations_eq, hrow] at hbefore
    exact (Option.some.inj hbefore).symm
  exact ⟨posted, happlies, by rw [hsame], rfl⟩

theorem throws_applyBillable {billable : ℤ} (hfunds : failure.OfFunds)
    (h : Throws (applyBillable entryId row billable operationId) db failure db') :
    db' = db ∧ row.remainingHoldRial < billable := by
  unfold applyBillable at h
  rcases throws_bind.1 h with h | ⟨entry, mid, -, h⟩
  · exact throws_postBillable hfunds h
  · have hother := throwsOnly_bind (updateReservation_other _ _ _ _) (fun _ => throwsOnly_pure)
      _ _ _ h
    exact (hother hfunds).elim

/-- Two updates of one reservation: the second status stays. -/
theorem setReservation_setReservation (book : Book) (id : String) (holds settled : Option ℤ)
    (first second : ReservationStatus) :
    (book.setReservation id holds settled first).setReservation id none none second =
      book.setReservation id holds settled second := by
  have hrows : ∀ row : Reservation,
      (if (if row.id = id then row.updated holds settled first else row).id = id
        then (if row.id = id then row.updated holds settled first else row).updated none none second
        else if row.id = id then row.updated holds settled first else row) =
      if row.id = id then row.updated holds settled second else row := by
    intro row
    by_cases h : row.id = id <;> simp [h, Reservation.updated]
  simp only [Book.setReservation, Table.modify, List.map_map]
  congr 2
  exact List.map_congr_left fun row _ => hrows row

/-- The status that a charging call leaves. -/
def OpKind.final (kind : OpKind) : ReservationStatus :=
  if kind = .reconcile then .reconciled else .settled

theorem OpKind.final_cases (kind : OpKind) : kind.final = .settled ∨ kind.final = .reconciled := by
  unfold OpKind.final
  split
  · exact .inr rfl
  · exact .inl rfl

/-- What a settle call asks of its reservation. -/
def SettleRequest.label (request : SettleRequest) : Label :=
  match request.usage with
  | none => .uncertain request.scope.authorityReservationId
  | some usage => .charge request.scope.authorityReservationId usage request.key.kind.final

theorem outcomeFromReservation_id {ledgerEntryIds : List String} {outcome : AuthorityOutcome}
    (h : outcomeFromReservation row ledgerEntryIds = .ok outcome) :
    outcome.authorityReservationId = row.id := by
  simp only [outcomeFromReservation, bind_eq_ok, pure, Except.pure, Except.ok.injEq] at h
  obtain ⟨_, -, _, -, _, -, rfl⟩ := h
  rfl

variable {request : SettleRequest}

/-- The end of a charge, after the billable amount has been applied. -/
theorem commits_charge {ids : Ids} {billable : ℤ} (hrow : db.reservations.find? row.id = some row)
    (h : Commits (request.charge ids row billable) db committed db') :
    (∃ posted outcome events, AppliesBillable db.toBook row billable posted ∧
        committed = .ok outcome ∧ outcome.authorityReservationId = row.id ∧
        Records { db with
          toBook := posted.setReservation row.id (some 0)
            (some (row.settledAmountRial + billable)) request.key.kind.final
          events } (request.key.acceptance row.id outcome) db') ∨
      ∃ message, row.remainingHoldRial < billable ∧ committed = .error .insufficientFunds message ∧
        Records db (request.key.denial (some row.id) .insufficientFunds) db' := by
  rcases commits_catchInsufficientFunds h with h | ⟨message, mid, hthrow, rfl, hrecords⟩
  · obtain ⟨applied, mid, happly, h⟩ := commits_bind.1 h
    obtain ⟨posted, happlies, happlied, rfl⟩ := commits_applyBillable hrow happly
    rw [SettleRequest.finish, commits_ite] at h
    rcases h with ⟨hkind, h⟩ | ⟨hkind, h⟩
    · simp only [commits_bind, commits_ofExcept] at h
      obtain ⟨reconciled, _, hupdate, outcome, _, ⟨houtcome, rfl⟩, _, _, hevent, h⟩ := h
      obtain ⟨before, hbefore, rfl, rfl⟩ := commits_updateReservation.1 hupdate
      obtain ⟨rfl, hrecords⟩ := commits_accept h
      obtain ⟨events, rfl⟩ := commits_recordEvent hevent
      have hid : before.id = row.id := by
        rw [Table.key_of_find? hbefore, happlied, Reservation.id_updated]
      refine .inl ⟨posted, outcome, events, happlies, rfl,
        (outcomeFromReservation_id houtcome).trans hid, ?_⟩
      simpa only [happlied, hid, Reservation.id_updated, setReservation_setReservation,
        OpKind.final, hkind, if_true] using hrecords
    · simp only [commits_bind, commits_ofExcept] at h
      obtain ⟨outcome, _, ⟨houtcome, rfl⟩, _, _, hevent, h⟩ := h
      obtain ⟨rfl, hrecords⟩ := commits_accept h
      obtain ⟨events, rfl⟩ := commits_recordEvent hevent
      have hid : applied.reservation.id = row.id := by rw [happlied, Reservation.id_updated]
      refine .inl ⟨posted, outcome, events, happlies, rfl,
        (outcomeFromReservation_id houtcome).trans hid, ?_⟩
      simpa only [happlied, Reservation.id_updated, OpKind.final, hkind, if_false] using hrecords
  · have hfunds : (Failure.settlement ⟨.insufficientFunds, message⟩).OfFunds := rfl
    rcases throws_bind.1 hthrow with hthrow | ⟨applied, _, -, hthrow⟩
    · obtain ⟨rfl, hover⟩ := throws_applyBillable hfunds hthrow
      exact .inr ⟨message, hover, rfl, hrecords⟩
    · exact absurd hfunds (finish_other _ _ _ _ _ _ hthrow)

theorem effect_settleKnown {ids : Ids} {usage : ProviderUsageTokens} {conflict : String}
    (hfresh : db.operations.find? request.key.operationId = none)
    (hrow : db.reservations.find? row.id = some row) (hreleased : row.status ≠ .released)
    (h : Commits (request.settleKnown ids row usage conflict) db committed db') :
    Effect request.key (.charge row.id usage request.key.kind.final) db committed.result db' := by
  simp only [SettleRequest.settleKnown, commits_bind, commits_ofExcept, commits_ite] at h
  obtain ⟨snapshot, _, ⟨hsnapshot, rfl⟩, billable, _, ⟨hderive, rfl⟩, _, _, ⟨-, rfl⟩, h⟩ := h
  have hbillable : row.billable usage = .ok billable := by
    simp only [Reservation.billable, hsnapshot]
    exact hderive
  rcases h with ⟨hcharged, ⟨-, h⟩ | ⟨hsame, outcome, _, ⟨houtcome, rfl⟩, h⟩⟩ | ⟨hcharged, h⟩
  · exact effect_deny hfresh (by decide) h
  · obtain ⟨rfl, hrecords⟩ := commits_accept h
    rw [← not_not.1 hsame] at hbillable
    exact .accepted hfresh (.recharge hrow hcharged hbillable)
      (outcomeFromReservation_id houtcome) hrecords
  · have hopen : row.Open := by
      cases hstatus : row.status <;> simp_all [Reservation.Open]
    rcases commits_charge hrow h with ⟨posted, outcome, events, happlies, rfl, hid, hrecords⟩ |
      ⟨message, hover, rfl, hrecords⟩
    · exact .accepted hfresh
        (.charge hrow hopen request.key.kind.final_cases hbillable happlies) hid hrecords
    · exact .denied hfresh
        (fun _ _ => ⟨row, usage, _, billable, rfl, hrow, hopen, hbillable, hover⟩) (.inl rfl)
        hrecords

theorem effect_settleUncertain (hfresh : db.operations.find? request.key.operationId = none)
    (hrow : db.reservations.find? row.id = some row) (hreleased : row.status ≠ .released)
    (h : Commits (request.settleUncertain row) db committed db') :
    Effect request.key (.uncertain row.id) db committed.result db' := by
  simp only [SettleRequest.settleUncertain, commits_ite] at h
  rcases h with ⟨-, h⟩ | ⟨hcharged, h⟩
  · exact effect_deny hfresh (by decide) h
  · have hopen : row.Open := by
      cases hstatus : row.status <;> simp_all [Reservation.Open]
    simp only [commits_bind, commits_ofExcept] at h
    obtain ⟨updated, _, hupdate, outcome, _, ⟨houtcome, rfl⟩, _, _, hevent, h⟩ := h
    obtain ⟨before, hbefore, rfl, rfl⟩ := commits_updateReservation.1 hupdate
    cases Option.some.inj (hrow.symm.trans hbefore)
    obtain ⟨rfl, hrecords⟩ := commits_accept h
    obtain ⟨events, rfl⟩ := commits_recordEvent hevent
    have hid := outcomeFromReservation_id houtcome
    exact .accepted hfresh (.uncertain hrow hopen) hid hrecords

/-- What a settle call does, once its input has been parsed. -/
theorem effect_settle (request : SettleRequest) (ids : Ids) (db : Db) :
    Effect request.key request.label db (commit (request.settleBody ids) db).1
      (commit (request.settleBody ids) db).2 := by
  refine effect_of_body (fun _ => settleBody_other request ids) fun hfresh hload =>
    effect_withReservation hfresh hload fun row hid hrow h => ?_
  simp only [SettleRequest.settleReservation, commits_bind, commits_ofExcept, commits_ite] at h
  obtain ⟨_, _, ⟨-, rfl⟩, ⟨-, h⟩ | ⟨hreleased, h⟩⟩ := h
  · exact effect_deny hfresh (by decide) h
  · unfold SettleRequest.label
    rw [← hid]
    cases husage : request.usage with
    | none =>
        rw [husage] at h
        exact effect_settleUncertain hfresh hrow hreleased h
    | some usage =>
        rw [husage] at h
        exact effect_settleKnown hfresh hrow hreleased h

/-- What a reconcile call does, once its input has been parsed. -/
theorem effect_reconcile (request : SettleRequest) (ids : Ids) (usage : ProviderUsageTokens)
    (db : Db) :
    Effect request.key
      (.charge request.scope.authorityReservationId usage request.key.kind.final) db
      (commit (request.reconcileBody ids usage) db).1
      (commit (request.reconcileBody ids usage) db).2 := by
  refine effect_of_body (fun _ => reconcileBody_other request ids usage) fun hfresh hload =>
    effect_withReservation hfresh hload fun row hid hrow h => ?_
  simp only [SettleRequest.reconcileReservation, commits_bind, commits_ofExcept, commits_ite] at h
  obtain ⟨_, _, ⟨-, rfl⟩, ⟨-, h⟩ | ⟨hreleased, h⟩⟩ := h
  · exact effect_deny hfresh (by decide) h
  · rw [← hid]
    exact effect_settleKnown hfresh hrow hreleased h

/-! ## Release -/

/-- What a release call does, once its input has been parsed. -/
theorem effect_release (request : ReleaseRequest) (ids : Ids) (db : Db) :
    Effect request.key (.release request.scope.authorityReservationId) db (commit (request.body ids) db).1
      (commit (request.body ids) db).2 := by
  refine effect_of_body (fun _ => releaseBody_other request ids) fun hfresh hload =>
    effect_withReservation hfresh hload fun row hid hrow h => ?_
  simp only [ReleaseRequest.releaseReservation, commits_ite] at h
  rcases h with ⟨-, h⟩ | ⟨hlive, ⟨hreleased, h⟩ | ⟨hreleased, h⟩⟩
  · exact effect_deny hfresh (by decide) h
  · simp only [commits_bind, commits_ofExcept] at h
    obtain ⟨outcome, _, ⟨houtcome, rfl⟩, h⟩ := h
    obtain ⟨rfl, hrecords⟩ := commits_accept h
    rw [← hid]
    exact .accepted hfresh (.rerelease hrow hreleased) (outcomeFromReservation_id houtcome) hrecords
  · have hreserved : row.status = .reserved := by
      cases hstatus : row.status <;> simp_all
    simp only [commits_bind, commits_ofExcept] at h
    obtain ⟨releaseEntry, _, hcredit, updated, _, hupdate, outcome, _, ⟨houtcome, rfl⟩, _, _,
      hevent, h⟩ := h
    obtain ⟨posted, hpost, rfl⟩ := commits_creditRelease hcredit
    obtain ⟨before, hbefore, rfl, rfl⟩ := commits_updateReservation.1 hupdate
    obtain ⟨events, rfl⟩ := commits_recordEvent hevent
    have hsame : before = row := by
      rw [hpost.reservations_eq, hrow] at hbefore
      exact (Option.some.inj hbefore).symm
    rw [hsame] at h houtcome
    obtain ⟨rfl, hrecords⟩ := commits_accept h
    have houtcomeId := outcomeFromReservation_id houtcome
    rw [← hid]
    exact .accepted hfresh (.release hrow hreserved ⟨rfl, rfl, rfl, rfl⟩ hpost) houtcomeId hrecords

/-! ## Reserve -/

variable {walletId : String}

theorem commits_ensureWalletForUser {userId : String} {wallet : WalletRow}
    (h : Commits (ensureWalletForUser walletId userId) db wallet db') :
    ∃ opened, Opens db.toBook opened ∧ db' = { db with toBook := opened } := by
  simp only [ensureWalletForUser, commits_bind, commits_get] at h
  obtain ⟨_, _, ⟨rfl, rfl⟩, h⟩ := h
  split at h
  · obtain ⟨rfl, rfl⟩ := commits_pure.1 h
    exact ⟨_, .inl rfl, rfl⟩
  · simp only [commits_bind, commits_writeBook, commits_pure] at h
    obtain ⟨_, _, ⟨opened, hcreate, rfl⟩, rfl, rfl⟩ := h
    exact ⟨opened, .inr ⟨_, rfl, hcreate⟩, rfl⟩

variable {holdAmount : ℤ}

/-- The row that a reserve call creates is priced by the hold derived for it. -/
theorem reservation_priced {request : ReserveRequest} {id : String} {price : CustomerPrice}
    (h : deriveHoldRial price request.estimatedMaxInputTokens request.requestedMaxOutputTokens =
      .ok holdAmount) : (request.reservation id walletId price holdAmount).Priced := by
  obtain ⟨input, output, hinput, houtput, hhold⟩ := deriveHoldRial_ok h
  exact ⟨_, input, output, rfl, hinput, houtput, hhold⟩

theorem effect_hold {request : ReserveRequest} {ids : Ids} {wallet funded : WalletRow}
    {price : CustomerPrice} {opened : Book}
    (hfresh : db.operations.find? request.key.operationId = none)
    (hopens : Opens db.toBook opened) (hwallet : opened.wallets.find? wallet.id = some funded)
    (hprice : deriveHoldRial price request.estimatedMaxInputTokens
      request.requestedMaxOutputTokens = .ok holdAmount)
    (h : Commits (request.hold ids wallet price holdAmount) { db with toBook := opened }
      committed db') :
    Effect request.key (.reserve request.key.accountId) db committed.result db' := by
  simp only [ReserveRequest.hold, commits_bind, commits_writeBook, commits_ofExcept] at h
  obtain ⟨_, _, ⟨held, hcreate, rfl⟩, entry, _, hdebit, outcome, _, ⟨houtcome, rfl⟩, _, _,
    hevent, h⟩ := h
  obtain ⟨posted, hpost, rfl⟩ := commits_debitHold hdebit
  obtain ⟨events, rfl⟩ := commits_recordEvent hevent
  obtain ⟨rfl, hrecords⟩ := commits_accept h
  exact .accepted hfresh (.hold hopens hwallet rfl rfl rfl (reservation_priced hprice) hcreate
    ⟨rfl, rfl, rfl, rfl⟩ hpost) (outcomeFromReservation_id houtcome) hrecords

/-- What a reserve call does, once its input has been parsed. -/
theorem effect_reserve (request : ReserveRequest) (ids : Ids) (db : Db) :
    Effect request.key (.reserve request.key.accountId) db (commit (request.body ids) db).1
      (commit (request.body ids) db).2 := by
  refine effect_of_body (fun hlabel => absurd trivial hlabel) fun hfresh hbody => ?_
  simp only [commits_bind, commits_get] at hbody
  obtain ⟨_, _, ⟨rfl, rfl⟩, hbody⟩ := hbody
  split at hbody
  · exact (commits_reject hbody).elim
  · rw [commits_ite] at hbody
    rcases hbody with ⟨-, h⟩ | ⟨-, hbody⟩
    · exact effect_deny hfresh (by decide) h
    · split at hbody
      · exact effect_deny hfresh (by decide) hbody
      · simp only [commits_bind, commits_get, commits_orThrow, commits_ite, commits_ofExcept]
          at hbody
        obtain ⟨wallet, _, hwallet, _, _, ⟨rfl, rfl⟩, locked, _, ⟨hlocked, rfl⟩, hbody⟩ := hbody
        obtain ⟨opened, hopens, rfl⟩ := commits_ensureWalletForUser hwallet
        rcases hbody with ⟨-, h⟩ | ⟨-, price, _, ⟨-, rfl⟩, _, _, ⟨-, rfl⟩, holdAmount, _,
          ⟨hprice, rfl⟩, _, _, ⟨-, rfl⟩, ⟨-, h⟩ | ⟨-, h⟩⟩
        · obtain ⟨rfl, hrecords⟩ := commits_deny h
          exact .denied hfresh (fun hlabel => absurd trivial hlabel) hopens hrecords
        · obtain ⟨rfl, hrecords⟩ := commits_deny h
          exact .denied hfresh (fun hlabel => absurd trivial hlabel) hopens hrecords
        · exact effect_hold hfresh hopens hlocked hprice h

end AbrChin.MessageGo
