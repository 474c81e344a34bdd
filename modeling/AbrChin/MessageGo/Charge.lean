import AbrChin.MessageGo.Conservation

/-!
# Charges

What a reservation costs its customer, over whole runs.

A reservation is charged at most once.  Only a turn of an open reservation can
charge it, a charge closes it, and a closed reservation takes no further turn;
`length_latches` turns this into exactly one charging step for each charged
reservation.  And a charge is bounded by the hold: in every reachable state an
open reservation still holds its full amount, which is the cost of the token
bounds that a usage has to respect.

So two branches of the code are dead: the extra debit of `applyBillable`, and
with it the `insufficient_funds` of settle and reconcile.
-/

namespace AbrChin.MessageGo

open Lib Lib.Tx Wallet

variable {book book' : Book} {db : Db} {sha256Hex : String → String}

/-! ## Turns and charges -/

/-- A reservation that will not change any more. -/
def Reservation.Closed (row : Reservation) : Prop :=
  row.status = .settled ∨ row.status = .reconciled ∨ row.status = .released

theorem Reservation.Open.not_closed {row : Reservation} (h : row.Open) : ¬ row.Closed := by
  rcases h with hstatus | hstatus <;> simp [Reservation.Closed, hstatus]

theorem Turn.of_closed {label : Label} {row row' : Reservation}
    {entries : List WalletLedgerEntry} (h : Turn label row entries row') (hclosed : row.Closed) :
    row' = row ∧ entries = [] := by
  cases h with
  | keep => exact ⟨rfl, rfl⟩
  | uncertain hopen => exact (hopen.not_closed hclosed).elim
  | charge hopen hfinal hbillable hnet htype => exact (hopen.not_closed hclosed).elim
  | release hreserved hnet htype =>
      have hopen : row.Open := .inl hreserved
      exact (hopen.not_closed hclosed).elim

/-- What one event does to a reservation that exists. -/
theorem step_turn (sha256Hex : String → String) {id : String} {row : Reservation} (event : Event)
    (hrow : db.reservations.find? id = some row) :
    ∃ entries row', (step sha256Hex db event).1.reservations.find? id = some row' ∧
      (step sha256Hex db event).1.entriesOf id = db.entriesOf id ++ entries ∧
      (row' = row ∧ entries = [] ∨
        ∃ ids call key label outcome, event = .call ids call ∧
          call.request sha256Hex = .ok (key, label) ∧
          (step sha256Hex db event).2 = some (.ok outcome) ∧
          outcome.authorityReservationId = id ∧ Turn label row entries row') := by
  rcases step_touches sha256Hex db event with ⟨hreservations, hentries⟩ |
    ⟨ids, call, key, label, other, outcome, hevent, hrequest, hresult, houtcome, -, entries, row',
      hlife, hrows, hentries⟩
  · exact ⟨[], row, hreservations ▸ hrow, by simp [hentries], .inl ⟨rfl, rfl⟩⟩
  · by_cases hid : id = other
    · subst hid
      rw [hrow] at hlife
      cases hlife with
      | turn hturn =>
          exact ⟨entries, row', by rw [hrows, if_pos rfl], by rw [hentries, if_pos rfl],
            .inr ⟨ids, call, key, label, outcome, hevent, hrequest, hresult, houtcome, hturn⟩⟩
    · exact ⟨[], row, by rw [hrows, if_neg hid, hrow], by rw [hentries, if_neg hid],
        .inl ⟨rfl, rfl⟩⟩

/-- A reservation that an event creates is reserved. -/
theorem step_born {id : String} {row' : Reservation} (event : Event)
    (hnone : db.reservations.find? id = none)
    (hafter : (step sha256Hex db event).1.reservations.find? id = some row') :
    row'.status = .reserved := by
  rcases step_touches sha256Hex db event with ⟨hreservations, -⟩ |
    ⟨ids, call, key, label, other, outcome, -, -, -, -, -, entries, row, hlife, hrows, -⟩
  · rw [hreservations, hnone] at hafter
    cases hafter
  · rw [hrows] at hafter
    split at hafter
    · rename_i hid
      cases hafter
      rw [← hid, hnone] at hlife
      cases hlife with
      | born hborn => exact hborn.status
    · rw [hnone] at hafter
      cases hafter

/-- A closed reservation and its entries survive every event as they are. -/
theorem step_of_closed {id : String} {row : Reservation} (event : Event)
    (hrow : db.reservations.find? id = some row) (hclosed : row.Closed) :
    (step sha256Hex db event).1.reservations.find? id = some row ∧
      (step sha256Hex db event).1.entriesOf id = db.entriesOf id := by
  obtain ⟨entries, row', hafter, hentries, hsame | ⟨_, _, _, _, _, -, -, -, -, hturn⟩⟩ :=
    step_turn sha256Hex event hrow
  · obtain ⟨rfl, rfl⟩ := hsame
    exact ⟨hafter, by simpa using hentries⟩
  · obtain ⟨rfl, rfl⟩ := hturn.of_closed hclosed
    exact ⟨hafter, by simpa using hentries⟩

theorem run_of_closed {id : String} {row : Reservation} (events : List Event)
    (hrow : db.reservations.find? id = some row) (hclosed : row.Closed) :
    (run (step sha256Hex) db events).reservations.find? id = some row ∧
      (run (step sha256Hex) db events).entriesOf id = db.entriesOf id :=
  run_induction (p := fun state : Db =>
      state.reservations.find? id = some row ∧ state.entriesOf id = db.entriesOf id)
    (fun state event h => by
      obtain ⟨hkept, hsame⟩ := step_of_closed event h.1 hclosed
      exact ⟨hkept, hsame.trans h.2⟩) ⟨hrow, rfl⟩ events

/-- The reservation has been charged. -/
def isCharged (id : String) (db : Db) : Bool :=
  (db.reservations.find? id).any fun row => row.status = .settled ∨ row.status = .reconciled

theorem isCharged_iff {id : String} :
    isCharged id db = true ↔ ∃ row, db.reservations.find? id = some row ∧ row.Charged := by
  simp [isCharged, Reservation.Charged, Option.any_eq_true]

/-- The event is an accepted settle or reconcile call that charges the open
reservation `id` with the amount derived for the usage of the call. -/
def ChargedBy (sha256Hex : String → String) (id : String) (entry : Entry Db Event Result) : Prop :=
  ∃ ids call key usage final outcome row row' billable,
    entry.event = .call ids call ∧ (call.kind = .settle ∨ call.kind = .reconcile) ∧
      call.request sha256Hex = .ok (key, .charge id usage final) ∧
      entry.result = some (.ok outcome) ∧ outcome.authorityReservationId = id ∧
      entry.before.reservations.find? id = some row ∧ row.Open ∧ row.settledAmountRial = 0 ∧
      row.billable usage = .ok billable ∧
      (step sha256Hex entry.before entry.event).1.reservations.find? id = some row' ∧
      row'.settledAmountRial = billable

theorem kind_of_charge {call : Call} {key : OperationKey} {target : String}
    {usage : ProviderUsageTokens} {final : ReservationStatus}
    (h : call.request sha256Hex = .ok (key, .charge target usage final)) :
    call.kind = .settle ∨ call.kind = .reconcile := by
  have hspec := (request_spec h).2.2
  cases call with
  | reserve input => cases hspec
  | settle input => exact .inl rfl
  | release input =>
      obtain ⟨other, hlabel⟩ := hspec
      cases hlabel
  | reconcile input => exact .inr rfl

/-- A turn that charges a reservation, or changes its settled amount, is a charge. -/
theorem Turn.charge_of_change {label : Label} {row row' : Reservation}
    {entries : List WalletLedgerEntry} (h : Turn label row entries row')
    (hchange : ¬ row.Charged ∧ row'.Charged ∨ row'.settledAmountRial ≠ row.settledAmountRial) :
    row.Open ∧ row'.Charged ∧ ∃ usage final billable, label = .charge row.id usage final ∧
      row.billable usage = .ok billable ∧
      row'.settledAmountRial = row.settledAmountRial + billable := by
  cases h with
  | keep => tauto
  | uncertain hopen =>
      rcases hchange with ⟨-, hcharged⟩ | hne
      · simp [Reservation.Charged, Reservation.updated] at hcharged
      · simp [Reservation.updated] at hne
  | charge hopen hfinal hbillable hnet htype =>
      exact ⟨hopen, hfinal, _, _, _, rfl, hbillable, rfl⟩
  | release hreserved hnet htype =>
      rcases hchange with ⟨-, hcharged⟩ | hne
      · simp [Reservation.Charged, Reservation.updated] at hcharged
      · simp [Reservation.updated] at hne

theorem Reservation.Open.not_charged {row : Reservation} (h : row.Open) : ¬ row.Charged := by
  rcases h with hstatus | hstatus <;> simp [Reservation.Charged, hstatus]

/-- An event that charges a reservation, or changes its settled amount, is a
settle or reconcile call that charges it. -/
theorem charge_of_step {id : String} {row row' : Reservation} {event : Event}
    (hsound : Sound db.toBook) (hrow : db.reservations.find? id = some row)
    (hafter : (step sha256Hex db event).1.reservations.find? id = some row')
    (hchange : ¬ row.Charged ∧ row'.Charged ∨ row'.settledAmountRial ≠ row.settledAmountRial) :
    ¬ row.Charged ∧ row'.Charged ∧
      ChargedBy sha256Hex id ⟨db, event, (step sha256Hex db event).2⟩ := by
  obtain ⟨entries, found, hfound, -, hsame | ⟨ids, call, key, label, outcome, hevent, hrequest,
    hresult, houtcome, hturn⟩⟩ := step_turn sha256Hex event hrow
  · cases Option.some.inj (hfound.symm.trans hafter)
    obtain ⟨rfl, -⟩ := hsame
    tauto
  · cases Option.some.inj (hfound.symm.trans hafter)
    obtain ⟨hopen, hcharged, usage, final, billable, hlabel, hbillable, hamount⟩ :=
      hturn.charge_of_change hchange
    have hzero : row.settledAmountRial = 0 := ((hsound.row hrow).amounts.2.1 hopen).2
    have hid : row.id = id := Table.key_of_find? hrow
    refine ⟨hopen.not_charged, hcharged, ids, call, key, usage, final, outcome, row, row',
      billable, hevent, kind_of_charge (hlabel ▸ hrequest), ?_, hresult, houtcome, hrow, hopen,
      hzero, hbillable, hafter, ?_⟩
    · rw [hrequest, hlabel, hid]
    · rw [hamount, hzero, zero_add]

/-- A step after which a reservation is charged that was not charged before. -/
theorem charge_of_latches {id : String} {event : Event} {result : Result}
    (hsound : Sound db.toBook) (hresult : result = (step sha256Hex db event).2)
    (hlatches : latches (step sha256Hex) (isCharged id) ⟨db, event, result⟩ = true) :
    ChargedBy sha256Hex id ⟨db, event, result⟩ := by
  subst hresult
  simp only [latches, Bool.and_eq_true, Bool.not_eq_true'] at hlatches
  obtain ⟨hbefore, hafter⟩ := hlatches
  obtain ⟨row', hrow', hcharged⟩ := isCharged_iff.1 hafter
  cases hrow : db.reservations.find? id with
  | none =>
      have hstatus := step_born event hrow hrow'
      simp [Reservation.Charged, hstatus] at hcharged
  | some row =>
      have hnot : ¬ row.Charged := fun h => by
        simp [isCharged_iff.2 ⟨row, hrow, h⟩] at hbefore
      exact (charge_of_step hsound hrow hrow' (.inl ⟨hnot, hcharged⟩)).2.2

/-! ## Rejected calls -/

/-- The checks of a settle or reconcile call before it compares amounts. -/
def SettleRequest.Passes (request : SettleRequest) (row : Reservation) (billable : ℤ) : Prop :=
  assertScope row request.scope = .ok () ∧
    assertStoredCustomerPricing row request.pricingFingerprint request.pricingVersion = .ok () ∧
    (request.suppliedBillable = none ∨ request.suppliedBillable = some billable)

theorem commits_deny_of {key : OperationKey} {id : String} {row : Reservation}
    (code : SettlementErrorCode) (message : String)
    (hfresh : db.operations.find? key.operationId = none)
    (huser : db.users.find? key.accountId ≠ none) (hrow : db.reservations.find? id = some row) :
    ∃ db', Commits (key.deny (some id) code message) db (.error code message) db' := by
  have hsome : (db.operations.insert? (key.denial (some id) code)).isSome :=
    Table.insert?_isSome hfresh
  obtain ⟨operations, hinsert⟩ := Option.isSome_iff_exists.1 hsome
  refine ⟨{ db with operations }, ?_⟩
  simp only [OperationKey.deny, recordOperation, commits_bind, commits_attempt, commits_pure]
  refine ⟨(), _, ?_, trivial, rfl⟩
  rw [if_neg (by simp [huser, hrow])]
  exact Option.map_eq_some_iff.2 ⟨operations, hinsert, rfl⟩

theorem result_of_commits {key : OperationKey} {scope : Scope} {row : Reservation}
    {body : Reservation → Tx Committed} {committed : Committed} {db' : Db}
    (hfresh : db.operations.find? key.operationId = none)
    (hrow : db.reservations.find? scope.authorityReservationId = some row)
    (hscope : assertScope row scope = .ok ()) (h : Commits (body row) db committed db') :
    (commit (key.unlessRecorded (key.withReservation scope body)) db).1 = committed.result := by
  have hcommits : Commits (key.unlessRecorded (key.withReservation scope body)) db committed db' := by
    simp only [OperationKey.unlessRecorded, OperationKey.withReservation, commits_bind, commits_get]
    refine ⟨_, _, ⟨rfl, rfl⟩, ?_⟩
    rw [hfresh]
    simp only [commits_bind, commits_tryCatch, commits_loadInScope, commits_pure]
    exact ⟨.inl row, db, .inl ⟨row, db, ⟨hrow, hscope, rfl⟩, rfl, rfl⟩, h⟩
  unfold commit
  rw [transaction_ok.2 hcommits]

theorem rejectUntrustedAmount_ok {supplied : Option ℤ} {derived : ℤ} {field : String}
    (h : supplied = none ∨ supplied = some derived) :
    rejectUntrustedAmount supplied derived field = .ok () := by
  rcases h with rfl | rfl <;> simp [rejectUntrustedAmount]

/-- A charged reservation refuses a different amount. -/
theorem settleKnown_conflict {request : SettleRequest} (ids : Ids) {row : Reservation}
    {usage : ProviderUsageTokens} (conflict : String) {billable : ℤ}
    (hfresh : db.operations.find? request.key.operationId = none)
    (huser : db.users.find? request.key.accountId ≠ none)
    (hrow : db.reservations.find? row.id = some row) (hcharged : row.Charged)
    (hsupplied : request.suppliedBillable = none ∨ request.suppliedBillable = some billable)
    (hbillable : row.billable usage = .ok billable) (hne : billable ≠ row.settledAmountRial) :
    ∃ db', Commits (request.settleKnown ids row usage conflict) db
      (.error .stateConflict conflict) db' := by
  obtain ⟨snapshot, hsnapshot, hderive⟩ := bind_eq_ok.1 hbillable
  obtain ⟨db', hdeny⟩ := commits_deny_of .stateConflict conflict hfresh huser hrow
  refine ⟨db', ?_⟩
  simp only [SettleRequest.settleKnown, commits_bind, commits_ofExcept]
  refine ⟨snapshot, db, ⟨hsnapshot, rfl⟩, billable, db, ⟨hderive, rfl⟩, (), db,
    ⟨rejectUntrustedAmount_ok hsupplied, rfl⟩, ?_⟩
  have hstatus : row.status = .settled ∨ row.status = .reconciled := hcharged
  rw [if_pos hstatus, if_pos hne.symm]
  exact hdeny

theorem settleReservation_conflict {request : SettleRequest} (ids : Ids) {row : Reservation}
    {usage : ProviderUsageTokens} {billable : ℤ} (husage : request.usage = some usage)
    (hfresh : db.operations.find? request.key.operationId = none)
    (huser : db.users.find? request.key.accountId ≠ none)
    (hrow : db.reservations.find? row.id = some row) (hcharged : row.Charged)
    (hpasses : request.Passes row billable) (hbillable : row.billable usage = .ok billable)
    (hne : billable ≠ row.settledAmountRial) :
    ∃ db', Commits (request.settleReservation ids row) db
      (.error .stateConflict "Reservation is already settled with a different amount") db' := by
  obtain ⟨-, hpricing, hsupplied⟩ := hpasses
  obtain ⟨db', hconflict⟩ := settleKnown_conflict ids
    "Reservation is already settled with a different amount" hfresh huser hrow hcharged hsupplied
    hbillable hne
  refine ⟨db', ?_⟩
  have hreleased : row.status ≠ .released := by
    rcases hcharged with hstatus | hstatus <;> simp [hstatus]
  simp only [SettleRequest.settleReservation, commits_bind, commits_ofExcept]
  refine ⟨(), db, ⟨hpricing, rfl⟩, ?_⟩
  rw [if_neg hreleased, husage]
  exact hconflict

theorem reconcileReservation_conflict {request : SettleRequest} (ids : Ids) {row : Reservation}
    {usage : ProviderUsageTokens} {billable : ℤ}
    (hfresh : db.operations.find? request.key.operationId = none)
    (huser : db.users.find? request.key.accountId ≠ none)
    (hrow : db.reservations.find? row.id = some row) (hcharged : row.Charged)
    (hpasses : request.Passes row billable) (hbillable : row.billable usage = .ok billable)
    (hne : billable ≠ row.settledAmountRial) :
    ∃ db', Commits (request.reconcileReservation ids usage row) db
      (.error .stateConflict "Historical settlement cannot be overwritten") db' := by
  obtain ⟨-, hpricing, hsupplied⟩ := hpasses
  obtain ⟨db', hconflict⟩ := settleKnown_conflict ids
    "Historical settlement cannot be overwritten" hfresh huser hrow hcharged hsupplied
    hbillable hne
  refine ⟨db', ?_⟩
  have hreleased : row.status ≠ .released := by
    rcases hcharged with hstatus | hstatus <;> simp [hstatus]
  simp only [SettleRequest.reconcileReservation, commits_bind, commits_ofExcept]
  refine ⟨(), db, ⟨hpricing, rfl⟩, ?_⟩
  rw [if_neg hreleased]
  exact hconflict

theorem releaseReservation_conflict {request : ReleaseRequest} (ids : Ids) {row : Reservation}
    (hfresh : db.operations.find? request.key.operationId = none)
    (huser : db.users.find? request.key.accountId ≠ none)
    (hrow : db.reservations.find? row.id = some row)
    (hstatus : row.status = .settled ∨ row.status = .reconciled ∨ row.status = .uncertain) :
    ∃ db', Commits (request.releaseReservation ids row) db
      (.error .stateConflict "Reservation is not eligible for release") db' := by
  obtain ⟨db', hdeny⟩ := commits_deny_of .stateConflict "Reservation is not eligible for release"
    hfresh huser hrow
  refine ⟨db', ?_⟩
  unfold ReleaseRequest.releaseReservation
  rw [if_pos hstatus]
  exact hdeny

/-- Every reservation belongs to an account that exists. -/
def AccountsExist (db : Db) : Prop :=
  ∀ id row, db.reservations.find? id = some row → db.users.find? row.accountId ≠ none

theorem users_apply (change : Elsewhere) {id : String} (h : db.users.find? id ≠ none) :
    (change.apply db).users.find? id ≠ none := by
  cases change with
  | createUser user =>
      simp only [Elsewhere.apply]
      cases hinsert : db.users.insert? user with
      | none => exact h
      | some users =>
          simp only [Option.elim_some]
          rw [Table.find?_insert? hinsert]
          split <;> simp [h]
  | setAccountStatus userId status =>
      simp only [Elsewhere.apply]
      rw [Table.find?_modify]
      split
      · rename_i hid
        simp [← hid, h]
      · exact h
  | publishPrice price => exact h
  | openWallet wallet =>
      simp only [Elsewhere.apply]
      split
      · cases db.createWallet wallet <;> exact h
      · exact h
  | setWalletStatus walletId status => exact h
  | post entry =>
      simp only [Elsewhere.apply]
      split
      · cases db.post entry <;> exact h
      · exact h

/-- A reserve call records its operation for the account of the reservation. -/
theorem account_of_reserve {call : Call} {key : OperationKey} {accountId : String}
    (h : call.request sha256Hex = .ok (key, .reserve accountId)) : key.accountId = accountId := by
  have hspec := (request_spec h).2.2
  cases call with
  | reserve input =>
      injection hspec with haccount
      exact haccount.symm
  | settle input => rcases hspec with ⟨target, hlabel⟩ | ⟨target, usage, hlabel⟩ <;> cases hlabel
  | release input =>
      obtain ⟨target, hlabel⟩ := hspec
      cases hlabel
  | reconcile input =>
      obtain ⟨target, usage, hlabel⟩ := hspec
      cases hlabel

theorem step_accountsExist (event : Event) (h : AccountsExist db) :
    AccountsExist (step sha256Hex db event).1 := by
  have hcases := step_cases sha256Hex db event
  revert hcases
  generalize step sha256Hex db event = next
  intro hcases id row hrow
  cases hcases with
  | invalid hrequest => exact h id row hrow
  | elsewhere change =>
      rw [(drift_apply db change).same.1] at hrow
      exact users_apply change (h id row hrow)
  | call hrequest heffect =>
      cases heffect with
      | replayed hexisting => exact h id row hrow
      | failed hfresh hfailure => exact h id row hrow
      | denied hfresh hcode hopens hrecords =>
          obtain ⟨-, operations, -, rfl⟩ := hrecords
          rw [hopens.spec.2.1] at hrow
          exact h id row hrow
      | @accepted _ reservationId _ _ _ hfresh hmove houtcome hrecords =>
          obtain ⟨huser, operations, -, rfl⟩ := hrecords
          obtain ⟨entries, row', hlife, hrows, -⟩ := hmove.touches
          rw [hrows] at hrow
          split at hrow
          · cases hrow
            cases hbefore : db.reservations.find? reservationId with
            | none =>
                rw [hbefore] at hlife
                cases hlife with
                | born hborn => exact account_of_reserve hrequest ▸ huser
            | some before =>
                rw [hbefore] at hlife
                cases hlife with
                | turn hturn => exact hturn.sameTerms.account ▸ h _ _ hbefore
          · exact h id row hrow

/-- The parsed request of a settle or reconcile call. -/
def Call.Settles (sha256Hex : String → String) (call : Call) (request : SettleRequest) : Prop :=
  match call with
  | .settle input => input.parseSettle sha256Hex = .ok request
  | .reconcile input => input.parseReconcile sha256Hex = .ok request
  | _ => False

/-- The parsed request of a release call. -/
def Call.Releases (sha256Hex : String → String) (call : Call) (request : ReleaseRequest) : Prop :=
  match call with
  | .release input => input.parse sha256Hex = .ok request
  | _ => False

theorem Call.Settles.spec {call : Call} {request : SettleRequest}
    (h : call.Settles sha256Hex request) :
    request.key.accountId = request.scope.accountId ∧
      ∀ usage, request.usage = some usage →
        call.request sha256Hex = .ok (request.key,
          .charge request.scope.authorityReservationId usage request.key.kind.final) := by
  cases call with
  | reserve input => exact h.elim
  | settle input =>
      refine ⟨?_, fun usage husage => ?_⟩
      · simp only [Call.Settles, SettleInput.parseSettle, bind_eq_ok, pure, Except.pure,
          Except.ok.injEq] at h
        obtain ⟨_, -, _, -, _, -, _, -, _, -, _, -, _, -, _, -, _, -, _, -, rfl⟩ := h
        rfl
      · have hparse : input.parseSettle sha256Hex = .ok request := h
        simp [Call.request, hparse, Except.map, SettleRequest.label, husage]
  | release input => exact h.elim
  | reconcile input =>
      refine ⟨?_, fun usage husage => ?_⟩
      · simp only [Call.Settles, SettleInput.parseReconcile, bind_eq_ok, pure, Except.pure,
          Except.ok.injEq] at h
        obtain ⟨_, -, _, -, _, -, _, -, _, -, _, -, _, -, _, -, _, -, _, -, rfl⟩ := h
        rfl
      · have hparse : input.parseReconcile sha256Hex = .ok request := h
        simp [Call.request, hparse, Except.map, husage]

theorem Call.Releases.spec {call : Call} {request : ReleaseRequest}
    (h : call.Releases sha256Hex request) :
    request.key.accountId = request.scope.accountId ∧
      call.request sha256Hex = .ok (request.key, .release request.scope.authorityReservationId) := by
  cases call with
  | release input =>
      refine ⟨?_, ?_⟩
      · simp only [Call.Releases, ReleaseInput.parse, bind_eq_ok, pure, Except.pure,
          Except.ok.injEq] at h
        obtain ⟨_, -, _, -, _, -, _, -, _, -, _, -, _, -, _, -, _, -, rfl⟩ := h
        rfl
      · have hparse : input.parse sha256Hex = .ok request := h
        simp [Call.request, hparse, Except.map]
  | reserve input => exact h.elim
  | settle input => exact h.elim
  | reconcile input => exact h.elim

theorem account_of_assertScope {row : Reservation} {scope : Scope}
    (h : assertScope row scope = .ok ()) : row.accountId = scope.accountId := by
  unfold assertScope at h
  split at h
  · cases h
  · split at h
    · cases h
    · rename_i hscope
      push Not at hscope
      exact hscope.1

/-- A new call is rejected, or it is accepted and a move. -/
theorem rejected_or_move (ids : Ids) {call : Call} {key : OperationKey} {label : Label}
    (hrequest : call.request sha256Hex = .ok (key, label))
    (hfresh : db.operations.find? key.operationId = none) :
    (∃ failure, (step sha256Hex db (.call ids call)).2 = some (.error failure)) ∨
      ∃ outcome id book', (step sha256Hex db (.call ids call)).2 = some (.ok outcome) ∧
        Move db.toBook label id book' := by
  have hcases := step_cases sha256Hex db (.call ids call)
  revert hcases
  generalize step sha256Hex db (.call ids call) = next
  intro hcases
  cases hcases with
  | invalid hinvalid => exact .inl ⟨_, rfl⟩
  | call hrequest' heffect =>
      cases hrequest.symm.trans hrequest'
      cases heffect with
      | replayed hexisting => exact absurd (hfresh.symm.trans hexisting) (by simp)
      | failed hfresh hfailure => exact .inl ⟨_, rfl⟩
      | denied hfresh hcode hopens hrecords => exact .inl ⟨_, rfl⟩
      | accepted hfresh hmove houtcome hrecords => exact .inr ⟨_, _, _, rfl, hmove⟩

/-- The failure of a call as an event is the failure of its function. -/
theorem failure_of_execute {ids : Ids} {call : Call} {failure thrown : Failure}
    (hstep : (step sha256Hex db (.call ids call)).2 = some (.error failure))
    (hexecute : (call.execute sha256Hex ids db).1 = .error thrown) : failure = thrown := by
  have hresult : (step sha256Hex db (.call ids call)).2 = some (.error thrown) :=
    congrArg some hexecute
  rw [hstep] at hresult
  injection hresult with hresult
  injection hresult

/-- A charge needs an open reservation, or a charged one with the same amount. -/
theorem Move.of_charge {label : Label} {id target : String} {usage : ProviderUsageTokens}
    {final : ReservationStatus} (h : Move book label id book')
    (hlabel : label = .charge target usage final) :
    ∃ row billable, book.reservations.find? target = some row ∧
      row.billable usage = .ok billable ∧
      (row.Open ∨ row.Charged ∧ billable = row.settledAmountRial) := by
  cases h with
  | hold => cases hlabel
  | uncertain hrow hopen => cases hlabel
  | recharge hrow hcharged hbillable =>
      injection hlabel with htarget husage hfinal
      subst htarget husage
      exact ⟨_, _, hrow, hbillable, .inr ⟨hcharged, rfl⟩⟩
  | charge hrow hopen hfinal hbillable happlies =>
      injection hlabel with htarget husage hfinal
      subst htarget husage
      exact ⟨_, _, hrow, hbillable, .inl hopen⟩
  | rerelease hrow hreleased => cases hlabel
  | release hrow hreserved hposting hpost => cases hlabel

/-- A release needs a reserved or a released reservation. -/
theorem Move.of_release {label : Label} {id target : String} (h : Move book label id book')
    (hlabel : label = .release target) :
    ∃ row, book.reservations.find? target = some row ∧
      (row.status = .reserved ∨ row.status = .released) := by
  cases h with
  | hold => cases hlabel
  | uncertain hrow hopen => cases hlabel
  | recharge hrow hcharged hbillable => cases hlabel
  | charge hrow hopen hfinal hbillable happlies => cases hlabel
  | rerelease hrow hreleased =>
      injection hlabel with htarget
      subst htarget
      exact ⟨_, hrow, .inr hreleased⟩
  | release hrow hreserved hposting hpost =>
      injection hlabel with htarget
      subst htarget
      exact ⟨_, hrow, .inl hreserved⟩

/-- A different amount for a charged reservation is rejected, with
`state_conflict` unless an earlier check fails. -/
theorem different_amount_rejected {id : String} {row : Reservation} {ids : Ids} {call : Call}
    {request : SettleRequest} {usage : ProviderUsageTokens} {billable : ℤ}
    (haccounts : AccountsExist db) (hrow : db.reservations.find? id = some row)
    (hcharged : row.Charged) (hsettles : call.Settles sha256Hex request)
    (htarget : request.scope.authorityReservationId = id) (husage : request.usage = some usage)
    (hfresh : db.operations.find? request.key.operationId = none)
    (hbillable : row.billable usage = .ok billable) (hne : billable ≠ row.settledAmountRial) :
    ∃ failure, (step sha256Hex db (.call ids call)).2 = some (.error failure) ∧
      (request.Passes row billable → ∃ message, failure = .settlement ⟨.stateConflict, message⟩) := by
  subst htarget
  obtain ⟨haccount, hrequest⟩ := hsettles.spec
  have hid : row.id = request.scope.authorityReservationId := Table.key_of_find? hrow
  obtain ⟨failure, hfailure⟩ :
      ∃ failure, (step sha256Hex db (.call ids call)).2 = some (.error failure) := by
    rcases rejected_or_move ids (hrequest usage husage) hfresh with hrejected |
      ⟨outcome, id, book', -, hmove⟩
    · exact hrejected
    · obtain ⟨found, amount, hfound, hamount, hcase⟩ := hmove.of_charge rfl
      cases Option.some.inj (hrow.symm.trans hfound)
      cases hbillable.symm.trans hamount
      rcases hcase with hopen | ⟨-, hsame⟩
      · exact (hopen.not_charged hcharged).elim
      · exact (hne hsame).elim
  refine ⟨failure, hfailure, fun hpasses => ?_⟩
  have huser : db.users.find? request.key.accountId ≠ none := by
    rw [haccount, ← account_of_assertScope hpasses.1]
    exact haccounts _ row hrow
  have hconflict : ∃ message, (call.execute sha256Hex ids db).1 =
      .error (.settlement ⟨.stateConflict, message⟩) := by
    cases call with
    | settle input =>
        obtain ⟨db', hcommits⟩ := settleReservation_conflict ids husage hfresh huser (hid ▸ hrow)
          hcharged hpasses hbillable hne
        have hparse : input.parseSettle sha256Hex = .ok request := hsettles
        simp only [Call.execute, settleWalletAuthority, hparse, perform]
        exact ⟨_, result_of_commits hfresh hrow hpasses.1 hcommits⟩
    | reconcile input =>
        obtain ⟨db', hcommits⟩ := reconcileReservation_conflict ids hfresh huser (hid ▸ hrow)
          hcharged hpasses hbillable hne
        have hparse : input.parseReconcile sha256Hex = .ok request := hsettles
        simp only [Call.execute, reconcileWalletAuthority, hparse, perform, husage,
          Option.getD_some]
        exact ⟨_, result_of_commits hfresh hrow hpasses.1 hcommits⟩
    | reserve input => exact hsettles.elim
    | release input => exact hsettles.elim
  obtain ⟨message, hmessage⟩ := hconflict
  exact ⟨message, failure_of_execute hfailure hmessage⟩

/-- A release of an uncertain or charged reservation is rejected, with
`state_conflict` unless the call is out of scope. -/
theorem release_rejected {id : String} {row : Reservation} {ids : Ids} {call : Call}
    {request : ReleaseRequest} (haccounts : AccountsExist db)
    (hrow : db.reservations.find? id = some row)
    (hstatus : row.status = .settled ∨ row.status = .reconciled ∨ row.status = .uncertain)
    (hreleases : call.Releases sha256Hex request)
    (htarget : request.scope.authorityReservationId = id)
    (hfresh : db.operations.find? request.key.operationId = none) :
    ∃ failure, (step sha256Hex db (.call ids call)).2 = some (.error failure) ∧
      (assertScope row request.scope = .ok () →
        ∃ message, failure = .settlement ⟨.stateConflict, message⟩) := by
  subst htarget
  obtain ⟨haccount, hrequest⟩ := hreleases.spec
  have hid : row.id = request.scope.authorityReservationId := Table.key_of_find? hrow
  obtain ⟨failure, hfailure⟩ :
      ∃ failure, (step sha256Hex db (.call ids call)).2 = some (.error failure) := by
    rcases rejected_or_move ids hrequest hfresh with hrejected | ⟨outcome, id, book', -, hmove⟩
    · exact hrejected
    · obtain ⟨found, hfound, hcase⟩ := hmove.of_release rfl
      cases Option.some.inj (hrow.symm.trans hfound)
      rcases hcase with h | h <;> simp [h] at hstatus
  refine ⟨failure, hfailure, fun hscope => ?_⟩
  have huser : db.users.find? request.key.accountId ≠ none := by
    rw [haccount, ← account_of_assertScope hscope]
    exact haccounts _ row hrow
  have hconflict : ∃ message, (call.execute sha256Hex ids db).1 =
      .error (.settlement ⟨.stateConflict, message⟩) := by
    cases call with
    | release input =>
        obtain ⟨db', hcommits⟩ := releaseReservation_conflict ids hfresh huser (hid ▸ hrow) hstatus
        have hparse : input.parse sha256Hex = .ok request := hreleases
        simp only [Call.execute, releaseWalletAuthority, hparse, perform]
        exact ⟨_, result_of_commits hfresh hrow hscope hcommits⟩
    | reserve input => exact hreleases.elim
    | settle input => exact hreleases.elim
    | reconcile input => exact hreleases.elim
  obtain ⟨message, hmessage⟩ := hconflict
  exact ⟨message, failure_of_execute hfailure hmessage⟩

/-! ## Runs -/

/-- What every state of a run from a fresh database satisfies. -/
structure Reached (db : Db) : Prop where
  sound : Sound db.toBook
  accounts : AccountsExist db

theorem step_reached (event : Event) (h : Reached db) : Reached (step sha256Hex db event).1 :=
  ⟨step_sound event h.sound, step_accountsExist event h.accounts⟩

theorem Fresh.reached (h : Fresh db) : Reached db := by
  refine ⟨h.invariant.1, fun id row hrow => ?_⟩
  have hmem := Table.mem_of_find? hrow
  rw [Table.mem_def, h.reservations] at hmem
  cases hmem

theorem run_reached (h : Reached db) (events : List Event) :
    Reached (run (step sha256Hex) db events) :=
  run_induction (fun _ event hstate => step_reached event hstate) h events

theorem step_isCharged {id : String} (event : Event) (h : isCharged id db = true) :
    isCharged id (step sha256Hex db event).1 = true := by
  obtain ⟨row, hrow, hcharged⟩ := isCharged_iff.1 h
  have hclosed : row.Closed := by
    rcases hcharged with hstatus | hstatus <;> simp [Reservation.Closed, hstatus]
  exact isCharged_iff.2 ⟨row, (step_of_closed event hrow hclosed).1, hcharged⟩

/-- **A reservation is charged at most once.**  In every run from a fresh
database:

* a settled, reconciled or released reservation and its ledger entries stay as
  they are, whatever happens later;
* exactly one step charges a reservation that ends charged, and no step any
  other; a charging step is an accepted settle or reconcile call, and it takes
  the settled amount from zero to the amount derived for the call's usage; no
  other step changes a settled amount;
* a later settle or reconcile whose derived amount differs is rejected, with
  `state_conflict` when its scope, pricing and supplied amount pass;
* a release of an uncertain, settled or reconciled reservation is rejected, with
  `state_conflict` when its scope passes. -/
theorem reservation_is_charged_once (sha256Hex : String → String) (start : Db)
    (hfresh : Fresh start) (events : List Event) (id : String) :
    let db := run (step sha256Hex) start events
    (∀ row later, db.reservations.find? id = some row → row.Closed →
      (run (step sha256Hex) db later).reservations.find? id = some row ∧
        (run (step sha256Hex) db later).entriesOf id = db.entriesOf id) ∧
    ((trace (step sha256Hex) start events).filter
        (latches (step sha256Hex) (isCharged id))).length =
      (if isCharged id db then 1 else 0) ∧
    (∀ entry ∈ trace (step sha256Hex) start events,
      latches (step sha256Hex) (isCharged id) entry = true → ChargedBy sha256Hex id entry) ∧
    (∀ entry ∈ trace (step sha256Hex) start events, ∀ row row',
      entry.before.reservations.find? id = some row →
      (step sha256Hex entry.before entry.event).1.reservations.find? id = some row' →
      row'.settledAmountRial ≠ row.settledAmountRial →
      latches (step sha256Hex) (isCharged id) entry = true) ∧
    (∀ row ids call request usage billable, db.reservations.find? id = some row → row.Charged →
      call.Settles sha256Hex request → request.scope.authorityReservationId = id →
      request.usage = some usage → db.operations.find? request.key.operationId = none →
      row.billable usage = .ok billable → billable ≠ row.settledAmountRial →
      ∃ failure, (step sha256Hex db (.call ids call)).2 = some (.error failure) ∧
        (request.Passes row billable →
          ∃ message, failure = .settlement ⟨.stateConflict, message⟩)) ∧
    ∀ row ids call request, db.reservations.find? id = some row →
      (row.status = .settled ∨ row.status = .reconciled ∨ row.status = .uncertain) →
      call.Releases sha256Hex request → request.scope.authorityReservationId = id →
      db.operations.find? request.key.operationId = none →
      ∃ failure, (step sha256Hex db (.call ids call)).2 = some (.error failure) ∧
        (assertScope row request.scope = .ok () →
          ∃ message, failure = .settlement ⟨.stateConflict, message⟩) := by
  intro db
  have hreached : Reached db := run_reached hfresh.reached events
  have hmem : ∀ entry ∈ trace (step sha256Hex) start events,
      Reached entry.before ∧ entry.result = (step sha256Hex entry.before entry.event).2 :=
    fun entry => inv_of_mem_trace (fun _ event h => step_reached event h) hfresh.reached
  refine ⟨fun row later hrow hclosed => run_of_closed later hrow hclosed, ?_, ?_, ?_, ?_, ?_⟩
  · have hstart : isCharged id start = false := by
      simp [isCharged, Table.find?, hfresh.reservations]
    have hstay : ∀ (state : Db) event, Reached state → isCharged id state = true →
        isCharged id (step sha256Hex state event).1 = true :=
      fun _ event _ => step_isCharged event
    simpa [hstart] using
      length_latches (fun _ event h => step_reached event h) hstay hfresh.reached events
  · intro entry hentry hlatches
    obtain ⟨hbefore, hresult⟩ := hmem entry hentry
    exact charge_of_latches hbefore.sound hresult hlatches
  · intro entry hentry row row' hrow hrow' hne
    obtain ⟨hbefore, -⟩ := hmem entry hentry
    obtain ⟨hnot, hcharged, -⟩ := charge_of_step hbefore.sound hrow hrow' (.inr hne)
    have hfalse : isCharged id entry.before = false := by
      refine Bool.eq_false_iff.2 fun h => ?_
      obtain ⟨found, hfound, hfoundCharged⟩ := isCharged_iff.1 h
      cases Option.some.inj (hrow.symm.trans hfound)
      exact hnot hfoundCharged
    simp [latches, hfalse, isCharged_iff.2 ⟨row', hrow', hcharged⟩]
  · intro row ids call request usage billable hrow hcharged hsettles htarget husage hnew hbillable
      hne
    exact different_amount_rejected hreached.accounts hrow hcharged hsettles htarget husage hnew
      hbillable hne
  · intro row ids call request hrow hstatus hreleases htarget hnew
    exact release_rejected hreached.accounts hrow hstatus hreleases htarget hnew

/-- The one reservation of the example run is charged in exactly one of its steps. -/
theorem exampleRun_charges_once :
    ((trace (step id) exampleAccount exampleRun).filter
      (latches (step id) (isCharged "reservation"))).length = 1 :=
  (reservation_is_charged_once id exampleAccount exampleAccount_fresh exampleRun
    "reservation").2.1.trans (by decide)

/-- A later settle with a different amount is not always rejected with
`state_conflict`: a wrong supplied amount is reported first. -/
theorem different_amount_not_always_state_conflict :
    ¬ ∀ (sha256Hex : String → String) (start : Db) (events : List Event) (row : Reservation)
      (ids : Ids) (call : Call) (request : SettleRequest) (usage : ProviderUsageTokens)
      (billable : ℤ), Fresh start →
      let db := run (step sha256Hex) start events
      db.reservations.find? request.scope.authorityReservationId = some row → row.Charged →
      call.Settles sha256Hex request → request.usage = some usage →
      db.operations.find? request.key.operationId = none →
      row.billable usage = .ok billable → billable ≠ row.settledAmountRial →
      ∃ message, (step sha256Hex db (.call ids call)).2 =
        some (.error (.settlement ⟨.stateConflict, message⟩)) := by
  intro h
  obtain ⟨message, hconflict⟩ := h id exampleAccount exampleRun _ (exampleIds "entry-3")
    (.settle (exampleSettlement "op-3" (.string "99") 5 5)) _ ⟨5, 5⟩ 15 exampleAccount_fresh
    rfl (.inl rfl) rfl rfl rfl rfl (by decide)
  have huntrusted : (step id (run (step id) exampleAccount exampleRun)
      (.call (exampleIds "entry-3") (.settle (exampleSettlement "op-3" (.string "99") 5 5)))).2 =
      some (.error (.settlement ⟨.customerAmountUntrusted,
        "customer_billable_amount is not the AbrChin-derived amount"⟩)) := rfl
  cases hconflict.symm.trans huntrusted

/-! ## The bound -/

/-- A reservation costs at most its hold. -/
theorem SoundRow.bounded {row : Reservation} {entries : List WalletLedgerEntry}
    (h : SoundRow row entries) :
    row.settledAmountRial ≤ row.holdAmountRial ∧
      debits entries - credits entries ≤ row.holdAmountRial := by
  obtain ⟨e, hrep, hnet⟩ := h.escrow
  rw [hrep.settled, hrep.amount]
  rw [net_eq] at hnet
  have := e.outstanding_le_amount
  exact ⟨e.charge_le_amount, by omega⟩

theorem Sound.types {id : String} {entry : WalletLedgerEntry} (h : Sound book)
    (hentry : entry ∈ book.entriesOf id) :
    entry.type = .messagegoReserveHold ∨ entry.type = .messagegoHoldRelease := by
  cases hrow : book.reservations.find? id with
  | none =>
      have hempty := h id
      rw [hrow] at hempty
      simp [hempty] at hentry
  | some row => exact (h.row hrow).types entry hentry

/-- No settle, release or reconcile call has been denied for lack of funds. -/
def NeverShort (db : Db) : Prop :=
  ∀ o operation, db.operations.find? o = some operation → operation.kind ≠ .reserve →
    operation.recorded ≠ .error .insufficientFunds

/-- No call on an existing reservation overcharges it. -/
theorem Sound.not_overcharge {label : Label} (h : Sound book) : ¬ Overcharge book label := by
  rintro ⟨row, usage, final, billable, -, hrow, hopen, hbillable, hover⟩
  have := ((h.row hrow).covered hopen hbillable).1
  omega

theorem isReserve_iff {call : Call} {key : OperationKey} {label : Label}
    (h : call.request sha256Hex = .ok (key, label)) : label.IsReserve ↔ key.kind = .reserve := by
  obtain ⟨-, hkind, hlabel⟩ := request_spec h
  rw [hkind]
  cases call with
  | reserve input => simp [hlabel, Label.IsReserve, Call.kind]
  | settle input =>
      rcases hlabel with ⟨target, rfl⟩ | ⟨target, usage, rfl⟩ <;> simp [Label.IsReserve, Call.kind]
  | release input =>
      obtain ⟨target, rfl⟩ := hlabel
      simp [Label.IsReserve, Call.kind]
  | reconcile input =>
      obtain ⟨target, usage, rfl⟩ := hlabel
      simp [Label.IsReserve, Call.kind]

theorem step_neverShort (event : Event) (hsound : Sound db.toBook) (h : NeverShort db) :
    NeverShort (step sha256Hex db event).1 := by
  have hcases := step_cases sha256Hex db event
  revert hcases
  generalize step sha256Hex db event = next
  intro hcases o operation hrecorded hkind
  cases hcases with
  | invalid hrequest => exact h o operation hrecorded hkind
  | elsewhere change =>
      rw [operations_apply] at hrecorded
      exact h o operation hrecorded hkind
  | call hrequest heffect =>
      cases heffect with
      | replayed hexisting => exact h o operation hrecorded hkind
      | failed hfresh hfailure => exact h o operation hrecorded hkind
      | denied hfresh hcode hopens hrecords =>
          rw [hrecords.find?] at hrecorded
          split at hrecorded
          · cases hrecorded
            have hreserve := fun hlabel => hkind ((isReserve_iff hrequest).1 hlabel)
            intro hshort
            injection hshort with hshort
            exact hsound.not_overcharge (hcode hreserve hshort)
          · exact h o operation hrecorded hkind
      | accepted hfresh hmove houtcome hrecords =>
          rw [hrecords.find?] at hrecorded
          split at hrecorded
          · cases hrecorded
            intro hshort
            cases hshort
          · exact h o operation hrecorded hkind

theorem run_neverShort (hreached : Reached db) (h : NeverShort db) (events : List Event) :
    NeverShort (run (step sha256Hex) db events) :=
  (run_induction (p := fun state : Db => Reached state ∧ NeverShort state)
    (fun _ event hstate =>
      ⟨step_reached event hstate.1, step_neverShort event hstate.1.sound hstate.2⟩)
    ⟨hreached, h⟩ events).2

theorem replay_other {operation : Operation} {kind : OpKind} (fingerprint : String)
    (h : operation.kind = kind → operation.recorded ≠ .error .insufficientFunds) :
    ErrsOnly Failure.Other (replay operation kind fingerprint) := by
  unfold replay
  split
  · exact errsOnly_reject (by decide)
  · rename_i hsame
    push Not at hsame
    cases hrecorded : operation.recorded with
    | ok outcome => exact errsOnly_ok
    | error code =>
        refine errsOnly_reject fun hshort => ?_
        rw [hshort] at hrecorded
        exact h hsame.1 hrecorded

/-- A settle or reconcile call never reports missing funds. -/
theorem settle_other {ids : Ids} {call : Call} {failure : Failure} (hsound : Sound db.toBook)
    (hshort : NeverShort db) (hkind : call.kind = .settle ∨ call.kind = .reconcile)
    (h : (step sha256Hex db (.call ids call)).2 = some (.error failure)) : failure.Other := by
  have hcases := step_cases sha256Hex db (.call ids call)
  revert hcases h
  generalize step sha256Hex db (.call ids call) = next
  intro h hcases
  cases hcases with
  | invalid hrequest =>
      cases h
      cases call with
      | reserve input => simp [Call.kind] at hkind
      | settle input => exact (errsOnly_map (parseSettle_other sha256Hex input)) _ hrequest
      | release input => simp [Call.kind] at hkind
      | reconcile input => exact (errsOnly_map (parseReconcile_other sha256Hex input)) _ hrequest
  | @call _ _ key label _ _ hrequest heffect =>
      have hreserve : key.kind ≠ .reserve := by
        rw [(request_spec hrequest).2.1]
        rcases hkind with hkind | hkind <;> simp [hkind]
      have hlabel : ¬ label.IsReserve := fun h => hreserve ((isReserve_iff hrequest).1 h)
      cases heffect with
      | replayed hexisting =>
          have hother := replay_other key.fingerprint
            (fun hsame => hshort _ _ hexisting (hsame ▸ hreserve))
          exact hother failure (Option.some.inj h)
      | failed hfresh hfailure =>
          cases h
          exact hfailure hlabel
      | denied hfresh hcode hopens hrecords =>
          cases h
          exact fun hfunds => hsound.not_overcharge (hcode hlabel hfunds)
      | accepted hfresh hmove houtcome hrecords => cases h

/-- **A charge is bounded by its hold.**  In every state of every run from a
fresh database:

* a usage that the price snapshot of an open reservation accepts costs at most
  what the reservation still holds, which is its whole hold;
* a settle or reconcile call that is accepted is for an open reservation, and
  its amount is covered by the hold, or for a charged one, and its amount is
  the settled one;
* no call overcharges its reservation, no entry of an extra debit exists, and
  settle and reconcile never report missing funds;
* no reservation has been charged, and no customer has paid for it, more than
  its hold. -/
theorem charge_is_bounded_by_hold (sha256Hex : String → String) (start : Db)
    (hfresh : Fresh start) (hunused : start.operations.rows = []) (events : List Event) :
    let db := run (step sha256Hex) start events
    (∀ id row usage billable, db.reservations.find? id = some row → row.Open →
      row.billable usage = .ok billable →
      billable ≤ row.remainingHoldRial ∧ row.remainingHoldRial = row.holdAmountRial) ∧
    (∀ ids call key target usage final outcome,
      call.request sha256Hex = .ok (key, .charge target usage final) →
      db.operations.find? key.operationId = none →
      (step sha256Hex db (.call ids call)).2 = some (.ok outcome) →
      ∃ row billable, db.reservations.find? target = some row ∧
        row.billable usage = .ok billable ∧ billable ≤ row.holdAmountRial ∧
        (row.Open ∧ billable ≤ row.remainingHoldRial ∨
          row.Charged ∧ billable = row.settledAmountRial)) ∧
    (∀ label, ¬ Overcharge db.toBook label) ∧
    (∀ id, ∀ entry ∈ db.entriesOf id, entry.type ≠ .messagegoSettlement) ∧
    (∀ ids call message, (call.kind = .settle ∨ call.kind = .reconcile) →
      (step sha256Hex db (.call ids call)).2 ≠
        some (.error (.settlement ⟨.insufficientFunds, message⟩))) ∧
    ∀ id row, db.reservations.find? id = some row →
      row.settledAmountRial ≤ row.holdAmountRial ∧
        debits (db.entriesOf id) - credits (db.entriesOf id) ≤ row.holdAmountRial := by
  intro db
  have hreached : Reached db := run_reached hfresh.reached events
  have hshort : NeverShort db := by
    refine run_neverShort hfresh.reached (fun o operation hrecorded => ?_) events
    have hmem := Table.mem_of_find? hrecorded
    rw [Table.mem_def, hunused] at hmem
    cases hmem
  refine ⟨fun id row usage billable hrow hopen hbillable =>
    (hreached.sound.row hrow).covered hopen hbillable, ?_,
    fun label => hreached.sound.not_overcharge, ?_, ?_, ?_⟩
  · intro ids call key target usage final outcome hrequest hnew hresult
    rcases rejected_or_move ids hrequest hnew with ⟨failure, hfailure⟩ | ⟨_, _, _, -, hmove⟩
    · cases hresult.symm.trans hfailure
    · obtain ⟨row, billable, hrow, hbillable, hcase⟩ := hmove.of_charge rfl
      have hsound := hreached.sound.row hrow
      refine ⟨row, billable, hrow, hbillable, (hsound.priced.billable_le hbillable).2, ?_⟩
      exact hcase.imp_left fun hopen => ⟨hopen, (hsound.covered hopen hbillable).1⟩
  · intro id entry hentry
    rcases hreached.sound.types hentry with htype | htype <;> simp [htype]
  · intro ids call message hkind hresult
    exact settle_other hreached.sound hshort hkind hresult rfl
  · intro id row hrow
    exact (hreached.sound.row hrow).bounded

/-- The example's reservation has held thirty rials and costs no more. -/
theorem exampleRun_charge_is_bounded :
    ∃ row, (run (step id) exampleAccount exampleRun).reservations.find? "reservation" = some row ∧
      row.holdAmountRial = 30 ∧ row.settledAmountRial ≤ row.holdAmountRial := by
  have hbounded := (charge_is_bounded_by_hold id exampleAccount exampleAccount_fresh rfl
    exampleRun).2.2.2.2.2 "reservation" _ rfl
  exact ⟨_, rfl, by decide, hbounded.1⟩

/-- An accepted amount is not always covered by what is still held: a settled
reservation holds nothing, and accepts its own amount again. -/
theorem accepted_amount_not_always_held :
    ¬ ∀ (sha256Hex : String → String) (start : Db) (events : List Event) (ids : Ids)
      (call : Call) (key : OperationKey) (target : String) (usage : ProviderUsageTokens)
      (final : ReservationStatus) (outcome : AuthorityOutcome) (row : Reservation) (billable : ℤ),
      Fresh start → start.operations.rows = [] →
      let db := run (step sha256Hex) start events
      call.request sha256Hex = .ok (key, .charge target usage final) →
      db.operations.find? key.operationId = none →
      (step sha256Hex db (.call ids call)).2 = some (.ok outcome) →
      db.reservations.find? target = some row → row.billable usage = .ok billable →
      billable ≤ row.remainingHoldRial := by
  intro h
  have hheld := h id exampleAccount exampleRun (exampleIds "entry-3")
    (.settle (exampleSettlement "op-3" .undefined 4 5)) _ _ _ _ _ _ 14 exampleAccount_fresh rfl rfl
    rfl rfl rfl rfl
  exact absurd hheld (by decide)

end AbrChin.MessageGo
