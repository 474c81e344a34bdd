import AbrChin.Wallet.Invariant

/-!
# Idempotency keys of the wallet

`creditWallet`, `debitWallet` and `reverseLedgerEntry` share one space of keys, and each of them
first looks for the entry of its key.  A credit asks of this entry only that it is a credit, a
debit that it is a debit, and a reversal nothing: neither the amount nor the wallet nor the
reversed entry is compared.  And a reversal whose entry has been reversed under another key
succeeds and leaves its own key free.

* What a successful call leaves under its key carries its request (`carries_of_writer`), where the
  entry it returns does (`Matched`).
* Entries and the users of wallets stay (`Carries.later`), and a key has one entry, which carries
  one request (`Carries.eq`).

So in a run of matched calls a key is one request (`one_request_a_key`).
-/

namespace AbrChin.Wallet

open Lib

/-! ## Requests -/

/-- What a call asks for: to move an amount of a user's wallet, or to reverse an entry of it. -/
inductive Request where
  | move (userId : String) (direction : LedgerDirection) (amount : ℤ)
  | reversal (userId originalEntryId : String)
  deriving DecidableEq

/-- The key and the request of the calls of the ledger functions. -/
def Writer.keyed : Writer → Option (String × Request)
  | credit input _ => some (input.idempotencyKey, .move input.userId .credit input.amountRial)
  | debit input _ => some (input.idempotencyKey, .move input.userId .debit input.amountRial)
  | reverse input _ => some (input.idempotencyKey, .reversal input.userId input.originalEntryId)
  | _ => none

/-- The wallet of the user. -/
def Books.Owns (books : Books) (userId walletId : String) : Prop :=
  ∃ wallet ∈ books.wallets.rows, wallet.id = walletId ∧ wallet.userId = userId

/-- The entry is the one that the request asks for. -/
def Carries (books : Books) (entry : WalletLedgerEntry) : Request → Prop
  | .move userId direction amount => entry.direction = direction ∧ entry.amount = amount ∧
      entry.reversedEntryId = none ∧ books.Owns userId entry.walletId
  | .reversal userId originalEntryId => entry.reversedEntryId = some originalEntryId ∧
      books.Owns userId entry.walletId

/-- What a call returns without having written it is what it asks for: a credit or a debit that
finds an entry of its direction under its key, a reversal that finds any, and a reversal with a
new key that finds its original reversed. -/
def Writer.Matched (seen : ℕ → Books) : Writer → Prop
  | credit input _ => ∀ existing ∈ (seen 0).ledger.find? input.idempotencyKey,
      0 < input.amountRial → existing.direction = .credit →
        Carries (seen 0) existing (.move input.userId .credit input.amountRial)
  | debit input _ => ∀ existing ∈ (seen 0).ledger.find? input.idempotencyKey,
      0 < input.amountRial → existing.direction = .debit →
        Carries (seen 0) existing (.move input.userId .debit input.amountRial)
  | reverse input _ =>
      (∀ existing ∈ (seen 0).ledger.find? input.idempotencyKey,
        Carries (seen 0) existing (.reversal input.userId input.originalEntryId)) ∧
      ((seen 0).ledger.find? input.idempotencyKey = none →
        ∀ prior ∈ (seen 2).reverseOf input.originalEntryId,
          prior.idempotencyKey = input.idempotencyKey ∧ (seen 2).Owns input.userId prior.walletId)
  | _ => True

def Matched (versions : Versions Books) (call : Versions.Call Writer) : Prop :=
  call.input.Matched (versions.seen call.ages)

instance (books : Books) (userId walletId : String) : Decidable (books.Owns userId walletId) :=
  inferInstanceAs (Decidable (∃ wallet ∈ books.wallets.rows, _))

instance (books : Books) (entry : WalletLedgerEntry) (request : Request) :
    Decidable (Carries books entry request) :=
  match request with
  | .move _ _ _ => inferInstanceAs (Decidable (_ ∧ _ ∧ _ ∧ _))
  | .reversal _ _ => inferInstanceAs (Decidable (_ ∧ _))

instance (seen : ℕ → Books) (writer : Writer) : Decidable (writer.Matched seen) :=
  match writer with
  | .credit input _ => inferInstanceAs
      (Decidable (∀ existing ∈ (seen 0).ledger.find? input.idempotencyKey, _))
  | .debit input _ => inferInstanceAs
      (Decidable (∀ existing ∈ (seen 0).ledger.find? input.idempotencyKey, _))
  | .reverse input _ => inferInstanceAs (Decidable
      ((∀ existing ∈ (seen 0).ledger.find? input.idempotencyKey, _) ∧
        (_ → ∀ prior ∈ (seen 2).reverseOf input.originalEntryId, _)))
  | .settleTopUp _ _ | .payOrder _ _ _ _ | .payRenewal _ _ _ _ _ | .refundOrder _ _
  | .cancel _ _ _ _ | .refundTopUp _ _ _ | .settleBilling _ | .adjust _ _ _ _ _ | .mark _ _ =>
      .isTrue trivial

instance (versions : Versions Books) (call : Versions.Call Writer) :
    Decidable (Matched versions call) :=
  inferInstanceAs (Decidable (call.input.Matched _))

/-! ## What stays -/

section Later

variable {books books' : Books}

variable {walletId : String}

theorem Books.Owns.later {userId : String} (h : books.Owns userId walletId)
    (hlater : Books.Bookings books books') : books'.Owns userId walletId := by
  obtain ⟨wallet, hwallet, hid, huser⟩ := h
  obtain ⟨later, hmem, hid', huser'⟩ := Books.wallet_stays hlater hwallet
  exact ⟨later, hmem, hid'.trans hid, huser'.trans huser⟩

variable {entry : WalletLedgerEntry}

theorem Books.entry_stays (hlater : Books.Bookings books books') (h : entry ∈ books.ledger.rows) :
    entry ∈ books'.ledger.rows := by
  induction hlater with
  | refl => exact h
  | tail _ hbooking ih =>
      cases hbooking with
      | opened wallet hzero hinsert => exact ih
      | posted posted hposted =>
          rw [IndexedTable.rows_of_insert? hposted.ledger]
          exact List.mem_append_left _ ih
      | marked walletId status hmodify => exact ih

/-- An entry goes on carrying its request. -/
theorem Carries.later {request : Request} (h : Carries books entry request)
    (hlater : Books.Bookings books books') :
    Carries books' entry request := by
  cases request with
  | move userId direction amount => exact ⟨h.1, h.2.1, h.2.2.1, h.2.2.2.later hlater⟩
  | reversal userId originalEntryId => exact ⟨h.1, h.2.later hlater⟩

/-- A wallet has one user. -/
theorem Books.Owns.eq {first second : String} (h : books.Owns first walletId)
    (h' : books.Owns second walletId) : first = second := by
  obtain ⟨wallet, hwallet, hid, rfl⟩ := h
  obtain ⟨other, hother, hid', rfl⟩ := h'
  rw [Table.eq_of_key hwallet hother (hid.trans hid'.symm)]

/-- An entry carries one request. -/
theorem Carries.eq {first second : Request} (h : Carries books entry first)
    (h' : Carries books entry second) : first = second := by
  cases first with
  | move userId direction amount =>
      obtain ⟨rfl, rfl, hnone, howns⟩ := h
      cases second with
      | move userId' direction' amount' =>
          obtain ⟨rfl, rfl, -, howns'⟩ := h'
          rw [howns.eq howns']
      | reversal userId' originalEntryId => cases hnone.symm.trans h'.1
  | reversal userId originalEntryId =>
      obtain ⟨hsome, howns⟩ := h
      cases second with
      | move userId' direction amount => cases hsome.symm.trans h'.2.2.1
      | reversal userId' originalEntryId' =>
          obtain rfl := Option.some.inj (hsome.symm.trans h'.1)
          rw [howns.eq h'.2]

end Later

/-! ## What a call leaves under its key -/

section Leaves

variable {books books' : Books} {seen : ℕ → Books}

/-- The ledger has an entry with the key that carries the request. -/
def Leaves (books : Books) (key : String) (request : Request) : Prop :=
  ∃ entry ∈ books.ledger.rows, entry.idempotencyKey = key ∧ Carries books entry request

variable {request : Request} {key : String}

theorem Leaves.later (h : Leaves books key request) (hlater : Books.Bookings books books') :
    Leaves books' key request := by
  obtain ⟨entry, hentry, hkey, hcarries⟩ := h
  exact ⟨entry, Books.entry_stays hlater hentry, hkey, hcarries.later hlater⟩

/-- A key is one request. -/
theorem Leaves.eq {first second : Request} (h : Leaves books key first)
    (h' : Leaves books key second) : first = second := by
  obtain ⟨entry, hentry, hkey, hcarries⟩ := h
  obtain ⟨other, hother, hkey', hcarries'⟩ := h'
  obtain rfl := Table.eq_of_key hentry hother (hkey.trans hkey'.symm)
  exact hcarries.eq hcarries'

variable {entry : WalletLedgerEntry}

/-- What an earlier version holds under a key. -/
theorem leaves_of_found {read : Books} (hfind : read.ledger.find? key = some entry)
    (hcarries : Carries read entry request) (hlater : Books.Bookings read books) :
    Leaves books key request := by
  obtain ⟨hmem, hkey⟩ := IndexedTable.find?_eq_some.1 hfind
  exact ⟨entry, Books.entry_stays hlater hmem, hkey, hcarries.later hlater⟩

/-- The wallet that a call finds or opens is that of its user. -/
theorem owns_of_activeWallet {read : Books} {userId newId : String} {wallet : WalletRow}
    (hread : Books.Bookings read books)
    (h : Tx.Commits (activeWallet read userId newId) books wallet books') :
    books'.Owns userId wallet.id := by
  have hbookings := bookings_of_activeWallet h
  simp only [activeWallet, Tx.commits_bind, Tx.commits_throwIf, Tx.commits_pure] at h
  obtain ⟨_, mid, hensure, _, _, ⟨-, rfl⟩, rfl, rfl⟩ := h
  rcases Books.commits_ensureWallet hensure with ⟨hfound, rfl⟩ | ⟨-, rfl, wallets, hinsert, rfl⟩
  · have howns : read.Owns userId wallet.id :=
      ⟨wallet, List.mem_of_find?_eq_some hfound, rfl, by simpa using List.find?_some hfound⟩
    exact howns.later hread
  · refine ⟨_, ?_, rfl, rfl⟩
    show _ ∈ IndexedTable.rows _
    rw [IndexedTable.rows_of_insert? hinsert]
    exact List.mem_append_right _ (List.mem_singleton_self _)

/-- A posted entry is in the ledger. -/
theorem leaves_of_posted {entry : WalletLedgerEntry} (h : Books.Posted entry books books')
    {request : Request} (hcarries : Carries books' entry request) :
    Leaves books' entry.idempotencyKey request := by
  refine ⟨entry, ?_, rfl, hcarries⟩
  rw [IndexedTable.rows_of_insert? h.ledger]
  exact List.mem_append_right _ (List.mem_singleton_self _)

variable (hseen : ∀ place, Books.Bookings (seen place) books)
include hseen

variable {ids : NewIds}

theorem leaves_of_creditWallet {input : CreditInput}
    (hmatched : ∀ existing ∈ (seen 0).ledger.find? input.idempotencyKey, 0 < input.amountRial →
      existing.direction = .credit →
        Carries (seen 0) existing (.move input.userId .credit input.amountRial))
    (h : Tx.Commits (creditWallet input ids seen) books entry books') :
    Leaves books' input.idempotencyKey (.move input.userId .credit input.amountRial) := by
  simp only [creditWallet, Tx.commits_bind, Tx.commits_throwIf] at h
  obtain ⟨_, _, ⟨hamount, rfl⟩, h⟩ := h
  have hpositive := not_le.1 hamount
  cases hfind : (seen 0).ledger.find? input.idempotencyKey with
  | some existing =>
      simp only [hfind, Tx.commits_bind, Tx.commits_throwIf, Tx.commits_pure] at h
      obtain ⟨_, _, ⟨hcredit, rfl⟩, -, rfl⟩ := h
      exact leaves_of_found hfind (hmatched existing hfind hpositive (not_not.1 hcredit).2) (hseen 0)
  | none =>
      simp only [hfind, Tx.commits_bind] at h
      obtain ⟨wallet, mid, hwallet, hcredit⟩ := h
      obtain ⟨hposted, hentry⟩ := Books.commits_credit hcredit rfl hpositive
      have howns := (owns_of_activeWallet (hseen 1) hwallet).later (bookings_of_posted hposted)
      have hleaves := @leaves_of_posted _ _ _ hposted
        (.move input.userId .credit input.amountRial) (by rw [hentry]; exact ⟨rfl, rfl, rfl, howns⟩)
      rwa [hentry] at hleaves

theorem leaves_of_debitWallet {input : CreditInput}
    (hmatched : ∀ existing ∈ (seen 0).ledger.find? input.idempotencyKey, 0 < input.amountRial →
      existing.direction = .debit →
        Carries (seen 0) existing (.move input.userId .debit input.amountRial))
    (h : Tx.Commits (debitWallet input ids seen) books entry books') :
    Leaves books' input.idempotencyKey (.move input.userId .debit input.amountRial) := by
  simp only [debitWallet, Tx.commits_bind, Tx.commits_throwIf] at h
  obtain ⟨_, _, ⟨hamount, rfl⟩, h⟩ := h
  have hpositive := not_le.1 hamount
  cases hfind : (seen 0).ledger.find? input.idempotencyKey with
  | some existing =>
      simp only [hfind, Tx.commits_bind, Tx.commits_throwIf, Tx.commits_pure] at h
      obtain ⟨_, _, ⟨hdebit, rfl⟩, -, rfl⟩ := h
      exact leaves_of_found hfind (hmatched existing hfind hpositive (not_not.1 hdebit).2) (hseen 0)
  | none =>
      simp only [hfind, Tx.commits_bind] at h
      obtain ⟨wallet, mid, hwallet, hdebit⟩ := h
      obtain ⟨hposted, hentry⟩ := Books.commits_debit hdebit rfl hpositive
      have howns := (owns_of_activeWallet (hseen 1) hwallet).later (bookings_of_posted hposted)
      have hleaves := @leaves_of_posted _ _ _ hposted
        (.move input.userId .debit input.amountRial) (by rw [hentry]; exact ⟨rfl, rfl, rfl, howns⟩)
      rwa [hentry] at hleaves

/-- A reversal leaves its own entry, or one that it has found. -/
theorem leaves_of_reverseLedgerEntry {opening : String → ℤ}
    (hkept : ∀ place, (seen place).Kept opening) {input : ReverseInput}
    (hkey : ∀ existing ∈ (seen 0).ledger.find? input.idempotencyKey,
      Carries (seen 0) existing (.reversal input.userId input.originalEntryId))
    (hprior : (seen 0).ledger.find? input.idempotencyKey = none →
      ∀ prior ∈ (seen 2).reverseOf input.originalEntryId,
        prior.idempotencyKey = input.idempotencyKey ∧ (seen 2).Owns input.userId prior.walletId)
    (h : Tx.Commits (reverseLedgerEntry input ids seen) books entry books') :
    Leaves books' input.idempotencyKey (.reversal input.userId input.originalEntryId) := by
  unfold reverseLedgerEntry at h
  cases hfind : (seen 0).ledger.find? input.idempotencyKey with
  | some existing =>
      simp only [hfind, Tx.commits_bind, Tx.commits_throwIf, Tx.commits_pure] at h
      obtain ⟨_, _, ⟨-, rfl⟩, -, rfl⟩ := h
      exact leaves_of_found hfind (hkey existing hfind) (hseen 0)
  | none =>
      simp only [hfind, Tx.commits_bind, Tx.commits_throwIf, Tx.commits_orThrow] at h
      obtain ⟨original, _, ⟨horiginal, rfl⟩, _, _, ⟨-, rfl⟩, h⟩ := h
      have hpositive := (hkept 1).positive original (mem_of_entryById horiginal)
      have hid : original.id = input.originalEntryId := by simpa using List.find?_some horiginal
      cases hreverse : (seen 2).reverseOf original.id with
      | some prior =>
          -- the call returns the earlier reversal, which the condition gives its own key
          simp only [hreverse, Tx.commits_pure] at h
          obtain ⟨-, rfl⟩ := h
          rw [hid] at hreverse
          obtain ⟨hsame, howns⟩ := hprior hfind prior hreverse
          have hreversal : prior.reversal = some input.originalEntryId := by
            simpa using List.find?_some hreverse
          have hreversed : prior.reversedEntryId = some input.originalEntryId := by
            unfold WalletLedgerEntry.reversal at hreversal
            split_ifs at hreversal
            exact hreversal
          exact ⟨prior, Books.entry_stays (hseen 2) (List.mem_of_find?_eq_some hreverse), hsame,
            hreversed, howns.later (hseen 2)⟩
      | none =>
          simp only [hreverse, Tx.commits_bind, Tx.commits_throwIf, Tx.commits_orThrow] at h
          obtain ⟨wallet, _, ⟨hwallet, rfl⟩, _, _, ⟨huser, rfl⟩, h⟩ := h
          obtain ⟨hmem, hwalletId⟩ := IndexedTable.find?_eq_some.1 hwallet
          have howns : (seen 3).Owns input.userId original.walletId :=
            ⟨wallet, hmem, hwalletId, not_not.1 huser⟩
          cases hdirection : original.direction with
          | debit =>
              rw [hdirection] at h
              obtain ⟨hposted, hentry⟩ := Books.commits_credit h rfl hpositive
              have hleaves := @leaves_of_posted _ _ _ hposted
                (.reversal input.userId input.originalEntryId) (by
                  rw [hentry]
                  exact ⟨congrArg some hid, howns.later ((hseen 3).trans (bookings_of_posted hposted))⟩)
              rwa [hentry] at hleaves
          | credit =>
              rw [hdirection] at h
              obtain ⟨hposted, hentry⟩ := Books.commits_debit h rfl hpositive
              have hleaves := @leaves_of_posted _ _ _ hposted
                (.reversal input.userId input.originalEntryId) (by
                  rw [hentry]
                  exact ⟨congrArg some hid, howns.later ((hseen 3).trans (bookings_of_posted hposted))⟩)
              rwa [hentry] at hleaves

/-- A matched call leaves an entry of its request under its key. -/
theorem leaves_of_writer {opening : String → ℤ} (hkept : ∀ place, (seen place).Kept opening)
    {writer : Writer} (hmatched : writer.Matched seen) {u : Unit}
    (h : Tx.Commits (writer.tx seen) books u books') (hkeyed : writer.keyed = some (key, request)) :
    Leaves books' key request := by
  cases writer with
  | credit input ids =>
      obtain ⟨rfl, rfl⟩ := Prod.mk.inj (Option.some.inj hkeyed)
      simp only [Writer.tx, Tx.commits_bind, Tx.commits_pure] at h
      obtain ⟨entry, _, h, -, rfl⟩ := h
      exact leaves_of_creditWallet hseen hmatched h
  | debit input ids =>
      obtain ⟨rfl, rfl⟩ := Prod.mk.inj (Option.some.inj hkeyed)
      simp only [Writer.tx, Tx.commits_bind, Tx.commits_pure] at h
      obtain ⟨entry, _, h, -, rfl⟩ := h
      exact leaves_of_debitWallet hseen hmatched h
  | reverse input ids =>
      obtain ⟨rfl, rfl⟩ := Prod.mk.inj (Option.some.inj hkeyed)
      simp only [Writer.tx, Tx.commits_bind, Tx.commits_pure] at h
      obtain ⟨entry, _, h, -, rfl⟩ := h
      exact leaves_of_reverseLedgerEntry hseen hkept hmatched.1 hmatched.2 h
  | _ => cases hkeyed

end Leaves

/-! ## Every run -/

/-- Once a call has succeeded, its key is its request: another request with this key is rejected
and changes nothing. -/
def OneRequest (first later : Entry (Versions Books) (Versions.Call Writer) (Except String Unit)) :
    Prop :=
  ∀ key request request', first.event.input.keyed = some (key, request) →
    first.result = .ok () → later.event.input.keyed = some (key, request') →
      request' = request ∨
        ∃ code, later.result = .error code ∧ (stepBooks later.before later.event).1 = later.before

/-- The books are kept in every version, which leads to the current one. -/
def Coherent (opening : String → ℤ) (versions : Versions Books) : Prop :=
  versions.Ever (Books.Kept opening) ∧ versions.Grown Books.Bookings

theorem coherent_step {opening : String → ℤ} {versions : Versions Books}
    (h : Coherent opening versions) (call : Versions.Call Writer) :
    Coherent opening (stepBooks versions call).1 :=
  Versions.grown_step Writer.tx (Books.Kept opening) Books.Bookings (fun _ => .refl)
    (fun _ _ _ first second => first.trans second)
    (fun writer seen db result db' hseen hdb hcommits => by
      have hbookings := bookings_of_writer (fun place => (hseen place).1) hcommits
      exact ⟨hdb.bookings hbookings, hbookings⟩) h call

/-- A matched call that succeeds leaves its request under its key. -/
theorem leaves_of_step {opening : String → ℤ} {versions : Versions Books}
    (h : Coherent opening versions) {call : Versions.Call Writer}
    (hmatched : Matched versions call) {key : String} {request : Request}
    (hkeyed : call.input.keyed = some (key, request))
    (hok : (stepBooks versions call).2 = .ok ()) :
    Leaves (stepBooks versions call).1.current key request := by
  rcases Versions.step_cases Writer.tx versions call with ⟨result, db, hcommits, heq⟩ | ⟨e, heq⟩
  · rw [stepBooks, heq]
    exact leaves_of_writer (fun place => h.2.seen call.ages place)
      (fun place => h.1.seen call.ages place) hmatched hcommits hkeyed
  · rw [stepBooks, heq] at hok
    cases hok

/-- **A key is one request**, in every run whose calls are matched. -/
theorem one_request_a_key (start : Books) (hempty : start.ledger.rows = [])
    (hstart : ∀ wallet ∈ start.wallets.rows, 0 ≤ wallet.availableBalance)
    (calls : List (Versions.Call Writer))
    (hmatched : Meets stepBooks Matched (Versions.init start) calls) :
    (trace stepBooks (Versions.init start) calls).Pairwise OneRequest := by
  have hcoherent : Coherent start.openingBalance (Versions.init start) :=
    ⟨Versions.ever_init (Books.kept_start hempty hstart), Versions.grown_init (fun _ => .refl) start⟩
  let left (entry : Entry (Versions Books) (Versions.Call Writer) (Except String Unit))
      (versions : Versions Books) : Prop :=
    ∀ key request, entry.event.input.keyed = some (key, request) → entry.result = .ok () →
      Leaves versions.current key request
  have hgrows {versions : Versions Books} (h : Coherent start.openingBalance versions)
      (call : Versions.Call Writer) :
      Books.Bookings versions.current (stepBooks versions call).1.current := by
    rcases Versions.step_cases Writer.tx versions call with ⟨result, db, hcommits, heq⟩ | ⟨e, heq⟩
    · rw [stepBooks, heq]
      exact bookings_of_writer (fun place => h.1.seen call.ages place) hcommits
    · rw [stepBooks, heq]
  refine @pairwise_of_meets _ _ _ stepBooks Matched (Coherent start.openingBalance) left OneRequest
    (fun versions call _ h => coherent_step h call)
    (fun versions call hmatched h key request hkeyed hok => leaves_of_step h hmatched hkeyed hok)
    (fun entry versions call _ h hleft key request hkeyed hok =>
      (hleft key request hkeyed hok).later (hgrows h call)) ?_ _ hcoherent calls hmatched
  intro entry versions call hmatched h hleft key request request' hkeyed hok hkeyed'
  cases hresult : (stepBooks versions call).2 with
  | ok u =>
      -- both requests are carried by the entry of the key
      have hfirst := (hleft key request hkeyed hok).later (hgrows h call)
      exact .inl ((leaves_of_step h hmatched hkeyed' hresult).eq hfirst)
  | error code =>
      refine .inr ⟨code, rfl, ?_⟩
      show (stepBooks versions call).1 = versions
      rcases Versions.step_cases Writer.tx versions call with ⟨_, db, -, heq⟩ | ⟨e, heq⟩
      · rw [stepBooks, heq] at hresult
        cases hresult
      · rw [stepBooks, heq]

/-- A credit of the sample wallet under one key. -/
def creditCall (amountRial : ℤ) (entryId : String) : Versions.Call Writer :=
  ⟨.credit ⟨"user", amountRial, .adminAdjustment, "key", none, none⟩ ⟨"new", entryId, ""⟩, []⟩

theorem one_request_a_key_retried :
    Meets stepBooks Matched (Versions.init Books.sample)
      [creditCall 100 "first", creditCall 100 "second"] ∧
    (trace stepBooks (Versions.init Books.sample)
      [creditCall 100 "first", creditCall 100 "second"]).Pairwise OneRequest :=
  have hmatched : Meets stepBooks Matched (Versions.init Books.sample)
      [creditCall 100 "first", creditCall 100 "second"] := by decide +kernel
  ⟨hmatched, one_request_a_key Books.sample rfl (by decide) _ hmatched⟩

/-- A key that has credited 100 rials answers a credit of 200. -/
theorem key_of_two_amounts :
    (trace stepBooks (Versions.init Books.sample)
      [creditCall 100 "first", creditCall 200 "second"]).map Entry.result = [.ok (), .ok ()] ∧
    ¬ (trace stepBooks (Versions.init Books.sample)
      [creditCall 100 "first", creditCall 200 "second"]).Pairwise OneRequest := by
  have hresults : (trace stepBooks (Versions.init Books.sample)
      [creditCall 100 "first", creditCall 200 "second"]).map Entry.result = [.ok (), .ok ()] := by
    decide +kernel
  refine ⟨hresults, fun h => ?_⟩
  simp only [trace, List.map_cons, List.map_nil, List.cons.injEq, and_true] at hresults
  have hpair := (List.pairwise_cons.1 h).1 _ List.mem_cons_self
  rcases hpair "key" (.move "user" .credit 100) (.move "user" .credit 200) rfl hresults.1 rfl with
    hsame | ⟨code, herror, -⟩
  · cases hsame
  · rw [hresults.2] at herror
    cases herror

end AbrChin.Wallet
