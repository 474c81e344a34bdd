import AbrChin.Lib.Escrow
import AbrChin.MessageGo.System
import Mathlib.Data.Int.ConditionallyCompleteOrder

/-!
# Conservation of money

A reservation is an escrow: `Represents` relates a row to the `Escrow` it
stands for, `Turn` lists what one event does to a row and to the ledger entries
that reference it, and `Turn.simulates` shows that every turn is a step of the
escrow.  The amount that a customer has paid and not got back for a reservation
is then the outstanding amount of its escrow, in every state of every run.

The balances are a separate account: every posting moves a wallet and the
ledger together, so a balance is what it was at the start of the run plus the
entries that the run has written.
-/

namespace AbrChin.MessageGo

open Lib Wallet

variable {book book' opened posted : Book} {db : Db}

/-! ## Entries of a reservation -/

/-- The entry references a reservation. -/
def References (id : String) (entry : WalletLedgerEntry) : Prop :=
  entry.referenceType = some referenceType ∧ entry.referenceId = some id

instance (id : String) (entry : WalletLedgerEntry) : Decidable (References id entry) :=
  inferInstanceAs (Decidable (_ ∧ _))

/-- The ledger entries that reference a reservation. -/
def Book.entriesOf (book : Book) (id : String) : List WalletLedgerEntry :=
  book.ledger.rows.filter fun entry => References id entry

/-- What `Book.post` does. -/
theorem post_spec {entry : WalletLedgerEntry} (h : book.post entry = some posted) :
    posted.ledger.rows = book.ledger.rows ++ [entry] ∧
      posted.reservations = book.reservations ∧
      ∃ wallet, book.wallets.find? entry.walletId = some wallet ∧
        ∀ k, posted.wallets.find? k =
          if k = entry.walletId then some (wallet.add entry.signedAmount)
          else book.wallets.find? k := by
  simp only [Book.post, Book.createLedgerEntry] at h
  split at h
  · cases h
  · rename_i hwallet
    obtain ⟨ledger, hinsert, rfl⟩ := Option.map_eq_some_iff.1 h
    refine ⟨Table.rows_of_insert? hinsert, rfl, ?_⟩
    rw [find?_addToBalance, if_pos rfl, Option.map_eq_none_iff] at hwallet
    push Not at hwallet
    obtain ⟨wallet, hwallet⟩ := Option.ne_none_iff_exists'.1 hwallet.2
    refine ⟨wallet, hwallet, fun k => ?_⟩
    rw [find?_addToBalance, hwallet]
    rfl

/-- What a posting adds to the ledger. -/
theorem Posts.ledger_eq {posting : Posting} {direction : LedgerDirection}
    {entry : Option WalletLedgerEntry} (h : Posts book posting direction entry posted) :
    posted.ledger.rows = book.ledger.rows ++ entry.toList := by
  cases h with
  | nothing hamount => simp
  | entry hamount hwallet hcovered hbalance hpost => exact (post_spec hpost).1

theorem Posts.entriesOf_eq {posting : Posting} {direction : LedgerDirection}
    {entry : Option WalletLedgerEntry} (h : Posts book posting direction entry posted)
    (id : String) :
    posted.entriesOf id =
      book.entriesOf id ++ if id = posting.referenceId then entry.toList else [] := by
  rw [Book.entriesOf, h.ledger_eq, List.filter_append]
  congr 1
  cases h with
  | nothing hamount => simp
  | entry hamount hwallet hcovered hbalance hpost =>
      by_cases hid : id = posting.referenceId <;>
        simp [References, Posting.entry, hid, Ne.symm]

/-- What the entry of a posting is worth. -/
theorem Posts.net_eq {posting : Posting} {direction : LedgerDirection}
    {entry : Option WalletLedgerEntry} (h : Posts book posting direction entry posted) :
    net entry.toList =
      match direction with
      | .credit => posting.amountRial
      | .debit => -posting.amountRial := by
  cases h with
  | nothing hamount => cases direction <;> simp [net, hamount]
  | entry hamount hwallet hcovered hbalance hpost =>
      cases direction <;> simp [net, WalletLedgerEntry.signedAmount, Posting.entry]

theorem Posts.type_eq {posting : Posting} {direction : LedgerDirection}
    {entry : Option WalletLedgerEntry} (h : Posts book posting direction entry posted) :
    ∀ e ∈ entry.toList, e.type = posting.type := by
  cases h with
  | nothing hamount => simp
  | entry hamount hwallet hcovered hbalance hpost => simp [Posting.entry]

/-- What opening a wallet leaves alone, and the wallet it adds. -/
theorem Opens.spec (h : Opens book opened) :
    opened.ledger = book.ledger ∧ opened.reservations = book.reservations ∧
      (∀ {k wallet}, book.wallets.find? k = some wallet →
        opened.wallets.find? k = some wallet) ∧
      ∀ {k wallet}, opened.wallets.find? k = some wallet →
        book.wallets.find? k = some wallet ∨
          book.wallets.find? k = none ∧ wallet.availableBalance = 0 := by
  rcases h with rfl | ⟨wallet, hzero, hcreate⟩
  · exact ⟨rfl, rfl, id, .inl⟩
  · simp only [Book.createWallet] at hcreate
    split at hcreate
    · cases hcreate
    · obtain ⟨wallets, hinsert, rfl⟩ := Option.map_eq_some_iff.1 hcreate
      have hfresh := Table.fresh_of_insert? hinsert
      refine ⟨rfl, rfl, fun {k old} hold => ?_, fun {k found} hfound => ?_⟩
      · rw [Table.find?_insert? hinsert, if_neg]
        · exact hold
        · rintro rfl
          rw [hfresh] at hold
          cases hold
      · rw [Table.find?_insert? hinsert] at hfound
        split at hfound
        · rename_i hkey
          cases hfound
          exact .inr ⟨hkey ▸ hfresh, hzero⟩
        · exact .inl hfound

theorem Opens.entriesOf_eq (h : Opens book opened) (id : String) :
    opened.entriesOf id = book.entriesOf id := by
  rw [Book.entriesOf, h.spec.1, Book.entriesOf]

theorem createReservation_spec {row : Reservation}
    (h : book.createReservation row = some book') :
    book'.wallets = book.wallets ∧ book'.ledger = book.ledger ∧
      book.reservations.find? row.id = none ∧
      ∀ k, book'.reservations.find? k =
        if row.id = k then some row else book.reservations.find? k := by
  simp only [Book.createReservation] at h
  split at h
  · cases h
  · obtain ⟨reservations, hinsert, rfl⟩ := Option.map_eq_some_iff.1 h
    exact ⟨rfl, rfl, Table.fresh_of_insert? hinsert, Table.find?_insert? hinsert⟩

/-! ## Turns of a reservation -/

/-- What one event does to a reservation, with the entries it writes for it. -/
inductive Turn : Label → Reservation → List WalletLedgerEntry → Reservation → Prop
  | keep (label : Label) (row : Reservation) : Turn label row [] row
  | uncertain {row : Reservation} (hopen : row.Open) :
      Turn (.uncertain row.id) row [] (row.updated none none .uncertain)
  | charge {row : Reservation} {usage : ProviderUsageTokens} {final : ReservationStatus}
      {billable : ℤ} {entries : List WalletLedgerEntry} (hopen : row.Open)
      (hfinal : final = .settled ∨ final = .reconciled)
      (hbillable : row.billable usage = .ok billable)
      (hnet : net entries = row.remainingHoldRial - billable)
      (htype : billable ≤ row.remainingHoldRial →
        ∀ entry ∈ entries, entry.type = .messagegoHoldRelease) :
      Turn (.charge row.id usage final) row entries
        (row.updated (some 0) (some (row.settledAmountRial + billable)) final)
  | release {row : Reservation} {entries : List WalletLedgerEntry}
      (hreserved : row.status = .reserved) (hnet : net entries = row.remainingHoldRial)
      (htype : ∀ entry ∈ entries, entry.type = .messagegoHoldRelease) :
      Turn (.release row.id) row entries (row.updated (some 0) none .released)

theorem AppliesBillable.entriesOf_eq {row : Reservation} {billable : ℤ}
    (h : AppliesBillable book row billable posted) :
    ∃ entries, net entries = row.remainingHoldRial - billable ∧
      (billable ≤ row.remainingHoldRial →
        ∀ entry ∈ entries, entry.type = .messagegoHoldRelease) ∧
      ∀ id, posted.entriesOf id = book.entriesOf id ++ if id = row.id then entries else [] := by
  obtain ⟨posting, entry, -, hid, hcase⟩ := h
  refine ⟨entry.toList, ?_⟩
  rcases hcase with ⟨hcovered, htype, hamount, hpost⟩ | ⟨hover, hamount, hpost⟩
  · refine ⟨?_, fun _ => htype ▸ hpost.type_eq, hid ▸ hpost.entriesOf_eq⟩
    simpa [hamount] using hpost.net_eq
  · refine ⟨?_, fun hcovered => absurd hcovered (not_le.2 hover), hid ▸ hpost.entriesOf_eq⟩
    have hnet := hpost.net_eq
    simp only [hamount] at hnet
    omega

/-- A reservation that a move creates. -/
structure Born (row : Reservation) (entries : List WalletLedgerEntry) : Prop where
  status : row.status = .reserved
  remaining : row.remainingHoldRial = row.holdAmountRial
  settled : row.settledAmountRial = 0
  priced : row.Priced
  net : net entries = -row.holdAmountRial
  type : ∀ entry ∈ entries, entry.type = .messagegoReserveHold

/-- One event in the life of a reservation: it is created, or it takes a turn. -/
inductive Life : Label → Option Reservation → List WalletLedgerEntry → Reservation → Prop
  | born {row : Reservation} {entries : List WalletLedgerEntry} (hborn : Born row entries) :
      Life (.reserve row.accountId) none entries row
  | turn {label : Label} {row row' : Reservation} {entries : List WalletLedgerEntry}
      (hturn : Turn label row entries row') : Life label (some row) entries row'

/-- An event in the life of one reservation; the others and their entries stay as they are. -/
def Touches (label : Label) (book : Book) (id : String) (book' : Book) : Prop :=
  ∃ entries row, Life label (book.reservations.find? id) entries row ∧
    (∀ other, book'.reservations.find? other =
      if other = id then some row else book.reservations.find? other) ∧
    ∀ other, book'.entriesOf other = book.entriesOf other ++ if other = id then entries else []

theorem touches_update {label : Label} {row : Reservation} {entries : List WalletLedgerEntry}
    {holds settled : Option ℤ} {status : ReservationStatus}
    (hreservations : posted.reservations = book.reservations)
    (hentries : ∀ other, posted.entriesOf other =
      book.entriesOf other ++ if other = row.id then entries else [])
    (hrow : book.reservations.find? row.id = some row)
    (hturn : Turn label row entries (row.updated holds settled status)) :
    Touches label book row.id (posted.setReservation row.id holds settled status) := by
  refine ⟨entries, row.updated holds settled status, ?_, fun other => ?_, hentries⟩
  · rw [hrow]
    exact .turn hturn
  · rw [find?_setReservation, hreservations, hrow]
    rfl

theorem touches_keep {label : Label} {row : Reservation}
    (hrow : book.reservations.find? row.id = some row) : Touches label book row.id book := by
  refine ⟨[], row, ?_, fun other => ?_, fun other => by simp⟩
  · rw [hrow]
    exact .turn (.keep label row)
  · split
    · rename_i hid
      rw [hid, hrow]
    · rfl

theorem Move.touches {label : Label} {id : String} (h : Move book label id book') :
    Touches label book id book' := by
  cases h with
  | @hold opened held _ row wallet posting entry hopens hwallet hstatus hremaining hsettled
      hpriced hcreate hposting hpost =>
      obtain ⟨-, hledger, hfresh, hfind⟩ := createReservation_spec hcreate
      obtain ⟨-, hreference, htype, hamount⟩ := hposting
      have hnet := hpost.net_eq
      simp only [hamount] at hnet
      rw [hopens.spec.2.1] at hfresh
      have hborn : Born row entry.toList :=
        ⟨hstatus, hremaining, hsettled, hpriced, hnet, htype ▸ hpost.type_eq⟩
      refine ⟨entry.toList, row, ?_, fun other => ?_, fun other => ?_⟩
      · rw [hfresh]
        exact .born hborn
      · rw [hpost.reservations_eq, hfind, hopens.spec.2.1]
        simp only [eq_comm]
      · rw [hpost.entriesOf_eq, hreference, Book.entriesOf, hledger]
        exact congrArg (· ++ _) (hopens.entriesOf_eq other)
  | uncertain hrow hopen => exact touches_update rfl (by simp) hrow (.uncertain hopen)
  | recharge hrow hcharged hbillable => exact touches_keep hrow
  | charge hrow hopen hfinal hbillable happlies =>
      obtain ⟨entries, hnet, htype, hentries⟩ := happlies.entriesOf_eq
      exact touches_update happlies.reservations_eq hentries hrow
        (.charge hopen hfinal hbillable hnet htype)
  | rerelease hrow hreleased => exact touches_keep hrow
  | release hrow hreserved hposting hpost =>
      obtain ⟨-, hid, htype, hamount⟩ := hposting
      have hnet := hpost.net_eq
      simp only [hamount] at hnet
      exact touches_update hpost.reservations_eq (hid ▸ hpost.entriesOf_eq) hrow
        (.release hreserved hnet (htype ▸ hpost.type_eq))

/-! ## Reservations are escrows -/

/-- The row stands for the escrow: the same three amounts, in the same phase. -/
structure Represents (row : Reservation) (e : Escrow ℤ) : Prop where
  amount : row.holdAmountRial = e.amount
  remaining : row.remainingHoldRial = e.remaining
  settled : row.settledAmountRial = e.charge
  phase : match e with
    | .held .. => row.Open
    | .captured .. => row.Charged
    | .released .. => row.status = .released

theorem Reservation.Priced.hold_nonneg {row : Reservation} (h : row.Priced) :
    0 ≤ row.holdAmountRial := by
  obtain ⟨snapshot, input, output, -, hinput, houtput, hhold⟩ := h
  have := costRial_nonneg hinput
  have := costRial_nonneg houtput
  omega

/-- An accepted usage costs at most the hold, since the hold is the cost of the
bounds that the usage is checked against, at the same rates. -/
theorem Reservation.Priced.billable_le {row : Reservation} {usage : ProviderUsageTokens}
    {billable : ℤ} (h : row.Priced) (hbillable : row.billable usage = .ok billable) :
    0 ≤ billable ∧ billable ≤ row.holdAmountRial := by
  obtain ⟨snapshot, input, output, hsnapshot, hinput, houtput, hhold⟩ := h
  simp only [Reservation.billable, hsnapshot] at hbillable
  refine ⟨deriveBillableRial_nonneg hbillable, ?_⟩
  rw [hhold]
  exact deriveBillableRial_le_hold hinput houtput hbillable

/-- An open row stands for a held escrow. -/
theorem Represents.held {row : Reservation} {e : Escrow ℤ} (h : Represents row e)
    (hopen : row.Open) : ∃ hnonneg, e = .held row.holdAmountRial hnonneg := by
  cases e with
  | held amount nonneg => exact ⟨h.amount ▸ nonneg, by simp only [h.amount, Escrow.amount]⟩
  | captured amount charge nonneg covered =>
      have hphase := h.phase
      simp only [Reservation.Charged] at hphase
      rcases hopen with hstatus | hstatus <;> simp [hstatus] at hphase
  | released amount nonneg =>
      have hphase := h.phase
      rcases hopen with hstatus | hstatus <;> simp [hstatus] at hphase

/-- The terms of a reservation: what no turn changes. -/
structure SameTerms (row row' : Reservation) : Prop where
  hold : row'.holdAmountRial = row.holdAmountRial
  snapshot : reservationPriceSnapshot row' = reservationPriceSnapshot row
  wallet : row'.walletId = row.walletId
  account : row'.accountId = row.accountId

theorem sameTerms_updated (row : Reservation) (holds settled : Option ℤ)
    (status : ReservationStatus) : SameTerms row (row.updated holds settled status) :=
  ⟨rfl, rfl, rfl, rfl⟩

theorem Turn.sameTerms {label : Label} {row row' : Reservation}
    {entries : List WalletLedgerEntry} (h : Turn label row entries row') : SameTerms row row' := by
  cases h with
  | keep => exact ⟨rfl, rfl, rfl, rfl⟩
  | uncertain hopen => exact sameTerms_updated _ _ _ _
  | charge hopen hfinal hbillable hnet htype => exact sameTerms_updated _ _ _ _
  | release hreserved hnet htype => exact sameTerms_updated _ _ _ _

theorem SameTerms.priced {row row' : Reservation} (h : SameTerms row row') (hpriced : row.Priced) :
    row'.Priced := by
  obtain ⟨snapshot, input, output, hsnapshot, hinput, houtput, hhold⟩ := hpriced
  exact ⟨snapshot, input, output, h.snapshot.trans hsnapshot, hinput, houtput,
    h.hold.trans hhold⟩

/-- **Every turn of a reservation is a step of its escrow**, which pays back what
the entries of the turn are worth. -/
theorem Turn.simulates {label : Label} {row row' : Reservation}
    {entries : List WalletLedgerEntry} {e : Escrow ℤ} (h : Turn label row entries row')
    (hpriced : row.Priced) (hrep : Represents row e) :
    ∃ e', Escrow.Step e (net entries) e' ∧ Represents row' e' := by
  cases h with
  | keep => exact ⟨e, by simpa [net] using Escrow.Step.stay e, hrep⟩
  | uncertain hopen =>
      refine ⟨e, by simpa [net] using Escrow.Step.stay e, hrep.amount, hrep.remaining,
        hrep.settled, ?_⟩
      obtain ⟨hnonneg, rfl⟩ := hrep.held hopen
      exact .inr rfl
  | charge hopen hfinal hbillable hnet htype =>
      obtain ⟨hnonneg, rfl⟩ := hrep.held hopen
      obtain ⟨hcharge, hcovered⟩ := hpriced.billable_le hbillable
      have hremaining : row.remainingHoldRial = row.holdAmountRial := hrep.remaining
      have hsettled : row.settledAmountRial = 0 := hrep.settled
      rw [hnet, hremaining]
      refine ⟨_, .capture hnonneg hcharge hcovered, rfl, rfl, ?_, hfinal⟩
      simp [Reservation.updated, Escrow.charge, hsettled]
  | release hreserved hnet htype =>
      obtain ⟨hnonneg, rfl⟩ := hrep.held (.inl hreserved)
      have hremaining : row.remainingHoldRial = row.holdAmountRial := hrep.remaining
      rw [hnet, hremaining]
      exact ⟨_, .release hnonneg, rfl, rfl, hrep.settled, rfl⟩

theorem Born.represents {row : Reservation} {entries : List WalletLedgerEntry}
    (h : Born row entries) : Represents row (.held row.holdAmountRial h.priced.hold_nonneg) :=
  ⟨rfl, h.remaining, h.settled, .inl h.status⟩

/-! ## The invariant of the reservations -/

/-- A reservation and the entries that reference it: the row stands for an
escrow whose outstanding amount is what the entries have taken from the
customer, its hold is the price of its bounds, and the entries are its hold and
its refund. -/
structure SoundRow (row : Reservation) (entries : List WalletLedgerEntry) : Prop where
  escrow : ∃ e, Represents row e ∧ net entries = -e.outstanding
  priced : row.Priced
  types : ∀ entry ∈ entries,
    entry.type = .messagegoReserveHold ∨ entry.type = .messagegoHoldRelease

/-- Every reservation is sound, and no entry references a missing one. -/
def Sound (book : Book) : Prop :=
  ∀ id, match book.reservations.find? id with
    | none => book.entriesOf id = []
    | some row => SoundRow row (book.entriesOf id)

theorem Sound.row {id : String} {row : Reservation} (h : Sound book)
    (hrow : book.reservations.find? id = some row) : SoundRow row (book.entriesOf id) := by
  have hid := h id
  rwa [hrow] at hid

/-- No accepted usage costs more than an open reservation holds. -/
theorem SoundRow.covered {row : Reservation} {entries : List WalletLedgerEntry}
    {usage : ProviderUsageTokens} {billable : ℤ} (h : SoundRow row entries) (hopen : row.Open)
    (hbillable : row.billable usage = .ok billable) :
    billable ≤ row.remainingHoldRial ∧ row.remainingHoldRial = row.holdAmountRial := by
  obtain ⟨e, hrep, -⟩ := h.escrow
  obtain ⟨hnonneg, rfl⟩ := hrep.held hopen
  have hremaining : row.remainingHoldRial = row.holdAmountRial := hrep.remaining
  exact ⟨hremaining ▸ (h.priced.billable_le hbillable).2, hremaining⟩

theorem Turn.types {label : Label} {row row' : Reservation}
    {entries written : List WalletLedgerEntry} (h : Turn label row written row')
    (hsound : SoundRow row entries) :
    ∀ entry ∈ written, entry.type = .messagegoHoldRelease := by
  cases h with
  | keep => simp
  | uncertain hopen => simp
  | charge hopen hfinal hbillable hnet htype => exact htype (hsound.covered hopen hbillable).1
  | release hreserved hnet htype => exact htype

theorem net_append (first second : List WalletLedgerEntry) :
    net (first ++ second) = net first + net second := by
  simp [net]

theorem Born.sound {row : Reservation} {entries : List WalletLedgerEntry}
    (h : Born row entries) : SoundRow row entries where
  escrow := ⟨_, h.represents, by
    rw [h.net]
    simp [Escrow.outstanding, Escrow.remaining, Escrow.charge]⟩
  priced := h.priced
  types := fun entry hentry => .inl (h.type entry hentry)

theorem Turn.sound {label : Label} {row row' : Reservation}
    {entries written : List WalletLedgerEntry} (h : Turn label row written row')
    (hsound : SoundRow row entries) : SoundRow row' (entries ++ written) := by
  obtain ⟨e, hrep, hnet⟩ := hsound.escrow
  obtain ⟨e', hstep, hrep'⟩ := h.simulates hsound.priced hrep
  refine ⟨⟨e', hrep', ?_⟩, h.sameTerms.priced hsound.priced, fun entry hentry => ?_⟩
  · rw [net_append, hnet, hstep.outstanding_eq]
    omega
  · rcases List.mem_append.1 hentry with hentry | hentry
    · exact hsound.types entry hentry
    · exact .inr (h.types hsound entry hentry)

theorem Touches.sound {label : Label} {id : String} (h : Touches label book id book')
    (hsound : Sound book) : Sound book' := by
  obtain ⟨written, row, hlife, hrows, hentries⟩ := h
  intro other
  rw [hrows, hentries]
  by_cases hid : other = id
  · rw [if_pos hid, if_pos hid, hid]
    have hbefore := hsound id
    cases hfind : book.reservations.find? id with
    | none =>
        rw [hfind] at hlife hbefore
        cases hlife with
        | born hborn =>
            rw [hbefore]
            exact hborn.sound
    | some before =>
        rw [hfind] at hlife hbefore
        cases hlife with
        | turn hturn => exact hturn.sound hbefore
  · rw [if_neg hid, if_neg hid, List.append_nil]
    exact hsound other

/-- A book with the same reservations and the same entries for them is as sound. -/
theorem sound_of_same (hsound : Sound book) (hreservations : book'.reservations = book.reservations)
    (hentries : ∀ id, book'.entriesOf id = book.entriesOf id) : Sound book' := by
  intro id
  rw [hreservations, hentries]
  exact hsound id

/-- A change from elsewhere leaves the reservations and their entries alone. -/
theorem Drift.same (h : Drift book book') :
    book'.reservations = book.reservations ∧ ∀ id, book'.entriesOf id = book.entriesOf id := by
  cases h with
  | stay => exact ⟨rfl, fun id => rfl⟩
  | opened hopens => exact ⟨hopens.spec.2.1, hopens.entriesOf_eq⟩
  | restatus walletId status => exact ⟨rfl, fun id => rfl⟩
  | posted hforeign hwallet hcovered hpost =>
      obtain ⟨hledger, hreservations, -⟩ := post_spec hpost
      refine ⟨hreservations, fun id => ?_⟩
      rw [Book.entriesOf, hledger, List.filter_append, Book.entriesOf]
      simp [References, hforeign]

/-- What one event does to the reservations: nothing, or it is an accepted call
that touches one of them. -/
theorem step_touches (sha256Hex : String → String) (db : Db) (event : Event) :
    ((step sha256Hex db event).1.reservations = db.reservations ∧
        ∀ id, (step sha256Hex db event).1.entriesOf id = db.entriesOf id) ∨
      ∃ ids call key label id outcome, event = .call ids call ∧
        call.request sha256Hex = .ok (key, label) ∧
        (step sha256Hex db event).2 = some (.ok outcome) ∧
        outcome.authorityReservationId = id ∧ db.operations.find? key.operationId = none ∧
        Touches label db.toBook id (step sha256Hex db event).1.toBook := by
  have hcases := step_cases sha256Hex db event
  revert hcases
  generalize step sha256Hex db event = next
  intro hcases
  cases hcases with
  | invalid hrequest => exact .inl ⟨rfl, fun id => rfl⟩
  | elsewhere change => exact .inl (drift_apply db change).same
  | call hrequest heffect =>
      cases heffect with
      | replayed hexisting => exact .inl ⟨rfl, fun id => rfl⟩
      | failed hfresh hfailure => exact .inl ⟨rfl, fun id => rfl⟩
      | denied hfresh hcode hopens hrecords =>
          obtain ⟨-, operations, -, rfl⟩ := hrecords
          exact .inl ⟨hopens.spec.2.1, hopens.entriesOf_eq⟩
      | accepted hfresh hmove houtcome hrecords =>
          obtain ⟨-, operations, -, rfl⟩ := hrecords
          exact .inr ⟨_, _, _, _, _, _, rfl, hrequest, rfl, houtcome, hfresh, hmove.touches⟩

variable {sha256Hex : String → String}

theorem step_sound (event : Event) (hsound : Sound db.toBook) :
    Sound (step sha256Hex db event).1.toBook := by
  rcases step_touches sha256Hex db event with ⟨hreservations, hentries⟩ |
    ⟨ids, call, key, label, id, outcome, -, -, -, -, -, htouches⟩
  · exact sound_of_same hsound hreservations hentries
  · exact htouches.sound hsound

/-! ## The invariant of the wallets -/

/-- The balance with which a wallet enters a run; a wallet opened later starts at zero. -/
def Book.opening (book : Book) (walletId : String) : ℤ :=
  ((book.wallets.find? walletId).map WalletRow.availableBalance).getD 0

/-- `book` has been reached from `start` by writing the entries `written`. -/
structure Accounts (start book : Book) (written : List WalletLedgerEntry) : Prop where
  ledger : book.ledger.rows = start.ledger.rows ++ written
  wallets : ∀ k, book.wallets.find? k = none → start.wallets.find? k = none
  entries : ∀ entry ∈ written, book.wallets.find? entry.walletId ≠ none
  balances : ∀ k wallet, book.wallets.find? k = some wallet → 0 ≤ wallet.availableBalance ∧
    wallet.availableBalance =
      start.opening k + net (written.filter fun entry => entry.walletId = k)

section Accounts

variable {start : Book} {written : List WalletLedgerEntry}

theorem Accounts.same (h : Accounts start book written) (hledger : book'.ledger = book.ledger)
    (hwallets : ∀ k, (book'.wallets.find? k).map WalletRow.availableBalance =
      (book.wallets.find? k).map WalletRow.availableBalance) : Accounts start book' written := by
  have hnone : ∀ k, book'.wallets.find? k = none → book.wallets.find? k = none := by
    intro k hk
    simpa [hk, eq_comm] using hwallets k
  refine ⟨hledger ▸ h.ledger, fun k hk => h.wallets k (hnone k hk),
    fun entry hentry hk => h.entries entry hentry (hnone _ hk), fun k wallet hwallet => ?_⟩
  have hbalance := hwallets k
  rw [hwallet] at hbalance
  obtain ⟨old, hold, heq⟩ := Option.map_eq_some_iff.1 hbalance.symm
  exact heq ▸ h.balances k old hold

theorem Accounts.post {entry : WalletLedgerEntry} {wallet : WalletRow}
    (h : Accounts start book written)
    (hwallet : book.wallets.find? entry.walletId = some wallet)
    (hcovered : 0 ≤ wallet.availableBalance + entry.signedAmount)
    (hpost : book.post entry = some posted) : Accounts start posted (written ++ [entry]) := by
  obtain ⟨hledger, -, wallet', hwallet', hfind⟩ := post_spec hpost
  cases Option.some.inj (hwallet.symm.trans hwallet')
  constructor
  · rw [hledger, h.ledger, List.append_assoc]
  · intro k hnone
    rw [hfind] at hnone
    split at hnone
    · cases hnone
    · exact h.wallets k hnone
  · intro other hother
    rw [hfind]
    split
    · simp
    · rename_i hne
      rcases List.mem_append.1 hother with hother | hother
      · exact h.entries other hother
      · exact absurd (congrArg WalletLedgerEntry.walletId (List.mem_singleton.1 hother)) hne
  · intro k found hfound
    rw [hfind] at hfound
    rw [List.filter_append, net_append]
    split at hfound
    · rename_i hid
      cases hfound
      have hbalance := (h.balances k wallet (hid ▸ hwallet)).2
      refine ⟨hcovered, ?_⟩
      simp only [WalletRow.add, net, hid, List.filter_cons, decide_true, if_true,
        List.filter_nil, List.map_cons, List.map_nil, List.sum_cons, List.sum_nil] at hbalance ⊢
      omega
    · rename_i hid
      obtain ⟨hnonneg, hbalance⟩ := h.balances k found hfound
      refine ⟨hnonneg, hbalance.trans ?_⟩
      have hother : ([entry].filter fun entry => entry.walletId = k) = [] := by
        simp [Ne.symm hid]
      rw [hother]
      simp [net]

theorem Accounts.posts {posting : Posting} {direction : LedgerDirection}
    {entry : Option WalletLedgerEntry} (h : Accounts start book written)
    (hamount : direction = .credit → 0 ≤ posting.amountRial)
    (hpost : Posts book posting direction entry posted) :
    Accounts start posted (written ++ entry.toList) := by
  cases hpost with
  | nothing => simpa using h
  | entry hne hwallet hcovered hbalance hpost =>
      refine h.post hwallet ?_ hpost
      have hnonneg := (h.balances _ _ hwallet).1
      cases direction with
      | credit =>
          have := hamount rfl
          simp only [Posting.entry, WalletLedgerEntry.signedAmount]
          omega
      | debit =>
          have := hcovered rfl
          simp only [Posting.entry, WalletLedgerEntry.signedAmount]
          omega

theorem Accounts.opens (h : Accounts start book written) (hopens : Opens book opened) :
    Accounts start opened written := by
  obtain ⟨hledger, -, hkept, hfound⟩ := hopens.spec
  have hnone : ∀ k, opened.wallets.find? k = none → book.wallets.find? k = none := by
    intro k hnone
    cases hbook : book.wallets.find? k with
    | none => rfl
    | some wallet =>
        rw [hkept hbook] at hnone
        cases hnone
  refine ⟨hledger ▸ h.ledger, fun k hk => h.wallets k (hnone k hk),
    fun entry hentry hk => h.entries entry hentry (hnone _ hk), fun k wallet hwallet => ?_⟩
  rcases hfound hwallet with hold | ⟨hnew, hzero⟩
  · exact h.balances k wallet hold
  · have hempty : (written.filter fun entry => entry.walletId = k) = [] := by
      refine List.filter_eq_nil_iff.2 fun entry hentry hid => ?_
      exact h.entries entry hentry (of_decide_eq_true hid ▸ hnew)
    rw [hzero, hempty, Book.opening, h.wallets k hnew]
    exact ⟨le_rfl, rfl⟩

theorem Accounts.applies {row : Reservation} {billable : ℤ} (h : Accounts start book written)
    (happlies : AppliesBillable book row billable posted) :
    ∃ written', Accounts start posted written' := by
  obtain ⟨posting, entry, -, -, ⟨hcovered, -, hamount, hpost⟩ | ⟨-, -, hpost⟩⟩ := happlies
  · exact ⟨_, h.posts (fun _ => by omega) hpost⟩
  · exact ⟨_, h.posts (by simp) hpost⟩

theorem Accounts.move {label : Label} {id : String} (h : Accounts start book written)
    (hsound : Sound book) (hmove : Move book label id book') :
    ∃ written', Accounts start book' written' := by
  cases hmove with
  | hold hopens hwallet hstatus hremaining hsettled hpriced hcreate hposting hpost =>
      obtain ⟨hwallets, hledger, -, -⟩ := createReservation_spec hcreate
      exact ⟨_, ((h.opens hopens).same hledger fun k => by rw [hwallets]).posts (by simp) hpost⟩
  | uncertain hrow hopen => exact ⟨written, h.same rfl fun k => rfl⟩
  | recharge hrow hcharged hbillable => exact ⟨written, h⟩
  | charge hrow hopen hfinal hbillable happlies =>
      obtain ⟨written', h'⟩ := h.applies happlies
      exact ⟨written', h'.same rfl fun k => rfl⟩
  | rerelease hrow hreleased => exact ⟨written, h⟩
  | release hrow hreserved hposting hpost =>
      obtain ⟨-, -, -, hamount⟩ := hposting
      obtain ⟨e, hrep, -⟩ := (hsound.row hrow).escrow
      obtain ⟨hnonneg, rfl⟩ := hrep.held (.inl hreserved)
      have hremaining : _ = _ := hrep.remaining
      simp only [Escrow.remaining] at hremaining
      exact ⟨_, (h.posts (fun _ => by omega) hpost).same rfl fun k => rfl⟩

theorem Accounts.drift (h : Accounts start book written) (hdrift : Drift book book') :
    ∃ written', Accounts start book' written' := by
  cases hdrift with
  | stay => exact ⟨written, h⟩
  | opened hopens => exact ⟨written, h.opens hopens⟩
  | restatus walletId status =>
      refine ⟨written, h.same rfl fun k => ?_⟩
      rw [Table.find?_modify]
      split
      · rename_i hid
        rw [hid, Option.map_map]
        rfl
      · rfl
  | posted hforeign hwallet hcovered hpost => exact ⟨_, h.post hwallet hcovered hpost⟩

end Accounts

/-! ## The result -/

/-- What a run keeps: sound reservations, and balances accounted for. -/
def Invariant (start : Book) (db : Db) : Prop :=
  Sound db.toBook ∧ ∃ written, Accounts start db.toBook written

theorem step_invariant {start : Book} (event : Event) (h : Invariant start db) :
    Invariant start (step sha256Hex db event).1 := by
  obtain ⟨hsound, written, haccounts⟩ := h
  refine ⟨step_sound event hsound, ?_⟩
  have hcases := step_cases sha256Hex db event
  revert hcases
  generalize step sha256Hex db event = next
  intro hcases
  cases hcases with
  | invalid hrequest => exact ⟨written, haccounts⟩
  | elsewhere change => exact haccounts.drift (drift_apply db change)
  | call hrequest heffect =>
      cases heffect with
      | replayed hexisting => exact ⟨written, haccounts⟩
      | failed hfresh hfailure => exact ⟨written, haccounts⟩
      | denied hfresh hcode hopens hrecords =>
          obtain ⟨-, operations, -, rfl⟩ := hrecords
          exact ⟨written, haccounts.opens hopens⟩
      | accepted hfresh hmove houtcome hrecords =>
          obtain ⟨-, operations, -, rfl⟩ := hrecords
          exact haccounts.move hsound hmove

/-- A database in which the settlement authority has not been used yet. -/
structure Fresh (db : Db) : Prop where
  reservations : db.reservations.rows = []
  ledger : ∀ entry ∈ db.ledger.rows, entry.referenceType ≠ some referenceType
  balances : ∀ wallet ∈ db.wallets.rows, 0 ≤ wallet.availableBalance

theorem Fresh.invariant (h : Fresh db) : Invariant db.toBook db := by
  refine ⟨fun id => ?_, [], by simp, fun k hk => hk, by simp, fun k wallet hwallet => ?_⟩
  · have hnone : db.reservations.find? id = none := by
      rw [Table.find?, h.reservations]
      rfl
    rw [hnone]
    refine List.filter_eq_nil_iff.2 fun entry hentry href => ?_
    exact h.ledger entry hentry (of_decide_eq_true href).1
  · refine ⟨h.balances wallet (Table.mem_of_find? hwallet), ?_⟩
    simp [Book.opening, hwallet, net]

theorem run_invariant (sha256Hex : String → String) (start : Db) (h : Fresh start) (events : List Event) :
    Invariant start.toBook (run (step sha256Hex) start events) :=
  run_induction (p := Invariant start.toBook) (fun _ event hstate => step_invariant event hstate)
    h.invariant events

/-- The amounts of a sound reservation, by its status. -/
theorem SoundRow.amounts {row : Reservation} {entries : List WalletLedgerEntry}
    (h : SoundRow row entries) :
    debits entries - credits entries = row.remainingHoldRial + row.settledAmountRial ∧
      (row.status = .reserved ∨ row.status = .uncertain →
        row.remainingHoldRial = row.holdAmountRial ∧ row.settledAmountRial = 0) ∧
      (row.status = .settled ∨ row.status = .reconciled ∨ row.status = .released →
        row.remainingHoldRial = 0) ∧
      (row.status = .released → row.settledAmountRial = 0) := by
  obtain ⟨e, hrep, hnet⟩ := h.escrow
  have hsum : debits entries - credits entries = row.remainingHoldRial + row.settledAmountRial := by
    rw [net_eq, Escrow.outstanding, ← hrep.remaining, ← hrep.settled] at hnet
    omega
  refine ⟨hsum, ?_⟩
  have hremaining := hrep.remaining
  have hsettled := hrep.settled
  have hamount := hrep.amount
  have hphase := hrep.phase
  cases e with
  | held amount nonneg =>
      simp only [Escrow.remaining, Escrow.charge, Escrow.amount] at hremaining hsettled hamount
      rcases hphase with hstatus | hstatus <;> simp [hstatus, hremaining, hsettled, hamount]
  | captured amount charge nonneg covered =>
      simp only [Escrow.remaining, Escrow.charge, Escrow.amount] at hremaining hsettled hamount
      rcases hphase with hstatus | hstatus <;> simp [hstatus, hremaining]
  | released amount nonneg =>
      simp only [Escrow.remaining, Escrow.charge, Escrow.amount] at hremaining hsettled hamount
      simp only at hphase
      simp [hphase, hremaining, hsettled]

/-- **Conservation of money over every run.**  For every reservation, what its
entries have taken from the customer is what it still holds plus what it has
settled, and its amounts fit its status.  Every balance is the balance at the
start of the run plus the credits less the debits that the run has written, and
it is not negative. -/
theorem reservations_conserve_money (sha256Hex : String → String) (start : Db)
    (hfresh : Fresh start) (events : List Event) :
    let db := run (step sha256Hex) start events
    (∀ row ∈ db.reservations.rows,
      debits (db.entriesOf row.id) - credits (db.entriesOf row.id) =
          row.remainingHoldRial + row.settledAmountRial ∧
        (row.status = .reserved ∨ row.status = .uncertain →
          row.remainingHoldRial = row.holdAmountRial ∧ row.settledAmountRial = 0) ∧
        (row.status = .settled ∨ row.status = .reconciled ∨ row.status = .released →
          row.remainingHoldRial = 0) ∧
        (row.status = .released → row.settledAmountRial = 0)) ∧
      ∃ written, db.ledger.rows = start.ledger.rows ++ written ∧
        ∀ wallet ∈ db.wallets.rows, 0 ≤ wallet.availableBalance ∧
          wallet.availableBalance = start.opening wallet.id +
            credits (written.filter fun entry => entry.walletId = wallet.id) -
            debits (written.filter fun entry => entry.walletId = wallet.id) := by
  intro db
  obtain ⟨hsound, written, haccounts⟩ := run_invariant sha256Hex start hfresh events
  refine ⟨fun row hrow => ?_, written, haccounts.ledger, fun wallet hwallet => ?_⟩
  · exact (hsound.row (Table.find?_of_mem hrow)).amounts
  · obtain ⟨hnonneg, hbalance⟩ := haccounts.balances _ _ (Table.find?_of_mem hwallet)
    refine ⟨hnonneg, ?_⟩
    rw [hbalance, net_eq]
    omega

/-! A run of one account, for the witnesses: a price of one rial for an input and
two rials for an output token, and a reservation of ten tokens each. -/

/-- The published price. -/
def examplePrice : CustomerPrice where
  stableModelAlias := "model"
  revision := 1
  pricingVersion := "v1"
  pricingFingerprint := "price"
  inputRialPerMillion := 1000000
  outputRialPerMillion := 2000000
  maxInputTokens := 100
  maxOutputTokens := 100
  positiveRates := by decide
  positiveBounds := by decide

/-- One active account with a hundred rials. -/
def exampleAccount : Db where
  wallets := ⟨[⟨"wallet", "account", 100, .active, "IRR"⟩], by decide⟩
  ledger := .empty
  reservations := .empty
  users := ⟨[⟨"account", .active⟩], by decide⟩
  prices := [examplePrice]
  operations := .empty
  events := []

theorem exampleAccount_fresh : Fresh exampleAccount :=
  ⟨rfl, by simp [exampleAccount, Table.empty], by simp [exampleAccount]⟩

/-- Reserve the hold for ten input and ten output tokens, thirty rials. -/
def exampleReserve : Call :=
  .reserve {
    operationId := "op-1"
    accountId := "account"
    productId := "product"
    workspaceId := "workspace"
    runId := "run"
    usageReservationId := "usage"
    callerServiceId := "service"
    modelAlias := "model"
    estimatedMaxInputTokens := .number (.integer 10)
    requestedMaxOutputTokens := .number (.integer 10)
    providerPricingFingerprint := "fingerprint"
    providerPricingVersion := "1" }

/-- A settle or reconcile input for that reservation. -/
def exampleSettlement (operationId : String) (supplied : Js.Value) (input output : ℤ) :
    SettleInput where
  operationId
  accountId := "account"
  productId := "product"
  workspaceId := "workspace"
  runId := "run"
  usageReservationId := "usage"
  authorityReservationId := "reservation"
  callerServiceId := "service"
  customerBillableAmount := supplied
  providerUsage := .object [
    ("input_text_tokens", .number (.integer input)),
    ("output_text_tokens", .number (.integer output))]

/-- The ids that the database generates for the transactions of the example. -/
def exampleIds (entry : String) : Ids := ⟨"wallet", "reservation", entry⟩

/-- The reservation, and its settlement for four input and five output tokens. -/
def exampleRun : List Event := [
  .call (exampleIds "entry-1") exampleReserve,
  .call (exampleIds "entry-2") (.settle (exampleSettlement "op-2" .undefined 4 5))]

/-- The reservation of the run ends settled, for fourteen rials. -/
theorem exampleRun_conserves_money :
    ∃ row ∈ (run (step id) exampleAccount exampleRun).reservations.rows,
      row.status = .settled ∧ row.settledAmountRial = 14 ∧
        debits ((run (step id) exampleAccount exampleRun).entriesOf row.id) -
          credits ((run (step id) exampleAccount exampleRun).entriesOf row.id) =
            row.remainingHoldRial + row.settledAmountRial := by
  have hconserves := (reservations_conserve_money id exampleAccount exampleAccount_fresh
    exampleRun).1
  obtain ⟨row, hrow, hstatus, hsettled⟩ :
      ∃ row ∈ (run (step id) exampleAccount exampleRun).reservations.rows,
        row.status = .settled ∧ row.settledAmountRial = 14 := by decide
  exact ⟨row, hrow, hstatus, hsettled, (hconserves row hrow).1⟩

end AbrChin.MessageGo
