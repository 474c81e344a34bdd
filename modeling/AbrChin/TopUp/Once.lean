import AbrChin.TopUp.Final
import AbrChin.TopUp.Review

/-!
# A top-up is credited once

The books are in order in every run (`books_step`): a top-up has at most one
credit and at most one bonus.  What can go wrong is the status: when a credited
attempt loses its `SUCCEEDED`, nothing but the ledger remembers the credit.  In
a run in which no step overwrites a row that has succeeded, a top-up is credited
exactly when one of its attempts has succeeded (`Db.Kept`).

The second half follows a second attempt that the gateway also confirms.  Its
call is under way until the attempt is under review, and it stays there.
-/

namespace AbrChin.TopUp

open Lib Payments Wallet

/-! ## Credit and success -/

/-- What is credited has succeeded, in a top-up and one of its attempts. -/
def Db.Kept (db : Db) : Prop :=
  ∀ topUpId, db.Credited topUpId → db.topUpSucceeded topUpId = true ∧
    ∃ id row, db.attempts.find? id = some row ∧ row.walletTopUpId = topUpId ∧
      row.status = .succeeded

/-- **Where no step overwrites a success, what is credited has succeeded.** -/
theorem kept_step (state : State) (event : Event) (hspares : SparesSucceeded state event)
    (h : state.db.Kept) : (step state event).1.db.Kept := by
  intro topUpId hcredited
  by_cases hbefore : state.db.Credited topUpId
  · obtain ⟨htopUp, id, row, hrow, hlink, hstatus⟩ := h topUpId hbefore
    refine ⟨topUpSucceeded_step state event hspares htopUp, id, ?_⟩
    have hattempt := attemptSucceeded_step state event hspares
      (Db.attemptSucceeded_iff.2 ⟨row, hrow, hstatus⟩)
    obtain ⟨row', hrow', hstatus'⟩ := Db.attemptSucceeded_iff.1 hattempt
    obtain ⟨other, hother, hidentity⟩ := (extends_stepState state event).attempts id row hrow
    have hsame : other = row' := Option.some.inj (hother.symm.trans hrow')
    subst hsame
    exact ⟨other, hother, (congrArg Prod.fst hidentity).trans hlink, hstatus'⟩
  · obtain ⟨i, ids, acknowledged, call, verified, attempt, -, -, -, -, ⟨topUp, htopUp, hstatus, -⟩,
      row, hrow⟩ := settles_of_credited hbefore hcredited
    exact ⟨Db.topUpSucceeded_iff.2 ⟨topUp, htopUp, hstatus⟩, call.attemptId, row, hrow⟩

theorem kept_initial : State.initial.db.Kept := by
  intro topUpId hcredited
  cases hcredited

/-! ## The entries of a top-up -/

/-- The ledger entries of a type that refer to a top-up. -/
def Db.entries (db : Db) (type : LedgerType) (topUpId : String) : List WalletLedgerEntry :=
  db.ledger.rows.filter fun entry => entry.type = type && entry.referenceId = some topUpId

/-- The top-up is credited at most once, with its amount, and at most once with
its bonus, not without the credit; it is credited exactly when one of its
attempts has succeeded. -/
structure Db.CreditedOnce (db : Db) (topUp : WalletTopUp) : Prop where
  credits : (db.entries .topUp topUp.id).length ≤ 1
  credit : ∀ entry ∈ db.entries .topUp topUp.id, entry.direction = .credit ∧
    entry.status = .completed ∧ entry.walletId = topUp.walletId ∧ entry.amount = topUp.amount
  bonuses : (db.entries .topUpBonus topUp.id).length ≤ 1
  bonus : ∀ entry ∈ db.entries .topUpBonus topUp.id, entry.direction = .credit ∧
    entry.status = .completed ∧ entry.walletId = topUp.walletId ∧
    topUp.bonusRialSnapshot = some entry.amount ∧ db.entries .topUp topUp.id ≠ []
  succeeded : db.entries .topUp topUp.id ≠ [] ↔
    ∃ attempt ∈ db.attempts.rows, attempt.walletTopUpId = topUp.id ∧ attempt.status = .succeeded

instance (db : Db) (topUp : WalletTopUp) : Decidable (db.CreditedOnce topUp) :=
  decidable_of_iff (_ ∧ _ ∧ _ ∧ _ ∧ _)
    ⟨fun h => ⟨h.1, h.2.1, h.2.2.1, h.2.2.2.1, h.2.2.2.2⟩, fun h => ⟨h.1, h.2, h.3, h.4, h.5⟩⟩

variable {topUp : WalletTopUp} {db : Db}

/-- An entry of a top-up is its credit or its bonus. -/
theorem Db.Booked.entry (h : db.Booked) (htopUp : db.topUps.find? topUp.id = some topUp)
    {entry : WalletLedgerEntry} (hentry : entry ∈ db.ledger)
    (hreference : entry.referenceId = some topUp.id) :
    IsCredit topUp entry ∨ (IsBonus topUp entry ∧ db.Credited topUp.id) := by
  obtain ⟨other, hother, hcases⟩ := h _ entry (Table.find?_of_mem hentry)
  have hid : other.id = topUp.id := by
    rcases hcases with hcredit | ⟨hbonus, -⟩
    · exact Option.some.inj (hcredit.reference.symm.trans hreference)
    · exact Option.some.inj (hbonus.reference.symm.trans hreference)
  rw [hid, htopUp] at hother
  obtain rfl := Option.some.inj hother
  exact hcases

theorem mem_entries {type : LedgerType} {topUpId : String} {entry : WalletLedgerEntry} :
    entry ∈ db.entries type topUpId ↔
      entry ∈ db.ledger ∧ entry.type = type ∧ entry.referenceId = some topUpId := by
  simp [Db.entries, Table.mem_def]

/-- A credited top-up has its credit in the ledger. -/
theorem entries_ne_nil_iff (hbooked : db.Booked) (htopUp : db.topUps.find? topUp.id = some topUp) :
    db.entries .topUp topUp.id ≠ [] ↔ db.Credited topUp.id := by
  constructor
  · intro hne
    obtain ⟨entry, hentry⟩ := List.exists_mem_of_ne_nil _ hne
    obtain ⟨hmem, htype, hreference⟩ := mem_entries.1 hentry
    rcases hbooked.entry htopUp hmem hreference with hcredit | ⟨hbonus, -⟩
    · have hfind := Table.find?_of_mem hmem
      rw [hcredit.key] at hfind
      exact Option.isSome_iff_exists.2 ⟨entry, hfind⟩
    · rw [hbonus.type] at htype
      cases htype
  · intro hcredited
    obtain ⟨entry, hentry⟩ := Option.isSome_iff_exists.1 hcredited
    have hkey := Table.key_of_find? hentry
    obtain ⟨other, hother, hcases⟩ := hbooked _ entry hentry
    rcases hcases with hcredit | ⟨hbonus, -⟩
    · have hid : other.id = topUp.id := creditKey_injective (hcredit.key.symm.trans hkey)
      refine List.ne_nil_of_mem (mem_entries.2 ⟨Table.mem_of_find? hentry, hcredit.type, ?_⟩)
      rw [hcredit.reference, hid]
    · exact absurd (hkey.symm.trans hbonus.key) (creditKey_ne_bonusKey _ _)

/-- Books in order, and success kept where there is credit, make one credit a top-up. -/
theorem creditedOnce_of_books (hbooks : db.Books) (hkept : db.Kept)
    (htopUp : topUp ∈ db.topUps.rows) : db.CreditedOnce topUp := by
  have hfind : db.topUps.find? topUp.id = some topUp :=
    IndexedTable.find?_eq_some.2 ⟨htopUp, rfl⟩
  have hcredit : ∀ entry ∈ db.entries .topUp topUp.id, IsCredit topUp entry := by
    intro entry hentry
    obtain ⟨hmem, htype, hreference⟩ := mem_entries.1 hentry
    rcases hbooks.booked.entry hfind hmem hreference with hcredit | ⟨hbonus, -⟩
    · exact hcredit
    · rw [hbonus.type] at htype
      cases htype
  have hbonus : ∀ entry ∈ db.entries .topUpBonus topUp.id,
      IsBonus topUp entry ∧ db.Credited topUp.id := by
    intro entry hentry
    obtain ⟨hmem, htype, hreference⟩ := mem_entries.1 hentry
    rcases hbooks.booked.entry hfind hmem hreference with hcredit | hbonus
    · rw [hcredit.type] at htype
      cases htype
    · exact hbonus
  constructor
  · refine Table.length_filter_le_one (k := creditKey topUp.id) fun entry hmem hentry => ?_
    exact (hcredit entry (List.mem_filter.2 ⟨hmem, hentry⟩)).key
  · intro entry hentry
    have h := hcredit entry hentry
    exact ⟨h.direction, h.status, h.wallet, h.amount⟩
  · refine Table.length_filter_le_one (k := bonusKey topUp.id) fun entry hmem hentry => ?_
    exact (hbonus entry (List.mem_filter.2 ⟨hmem, hentry⟩)).1.key
  · intro entry hentry
    obtain ⟨h, hcredited⟩ := hbonus entry hentry
    exact ⟨h.direction, h.status, h.wallet, h.amount,
      (entries_ne_nil_iff hbooks.booked hfind).2 hcredited⟩
  · rw [entries_ne_nil_iff hbooks.booked hfind]
    constructor
    · intro hcredited
      obtain ⟨-, id, row, hrow, hlink, hstatus⟩ := hkept _ hcredited
      exact ⟨row, (IndexedTable.find?_eq_some.1 hrow).1, hlink, hstatus⟩
    · rintro ⟨row, hrow, hlink, hstatus⟩
      have hpaid := hbooks.paid.attempts row.id row
        (IndexedTable.find?_eq_some.2 ⟨hrow, rfl⟩) hstatus
      rwa [hlink] at hpaid

/-! ## Second attempts -/

/-- The payment that could not be made. -/
def Task.unpaid : Task → Option ExternalPayment
  | persistFailure input _ => some input
  | _ => none

/-- The step does not let the failure of a payment request overwrite the review
of an attempt whose top-up has succeeded. -/
def SparesReview (state : State) (event : Event) : Prop :=
  match event with
  | .commit i _ _ => ∀ task ∈ state.tasks[i]?, ∀ input ∈ task.unpaid,
      ¬ (state.db.UnderReview input.attemptId ∧ state.db.topUpSucceeded input.topUpId = true)
  | _ => True

instance : (state : State) → (event : Event) → Decidable (SparesReview state event)
  | state, .commit i _ _ => inferInstanceAs (Decidable (∀ task ∈ state.tasks[i]?,
      ∀ input ∈ task.unpaid,
        ¬ (state.db.UnderReview input.attemptId ∧ state.db.topUpSucceeded input.topUpId = true)))
  | _, .ensureWallet _ _ | _, .create _ | _, .retry _ | _, .callback _ | _, .adminReverify _ _
  | _, .adminReconcile _ _ | _, .adminMarkFailed _ | _, .paymentAnswer _ _ | _, .verifyAnswer _ _
  | _, .fault _ | _, .crash _ => inferInstanceAs (Decidable True)

/-- The attempt belongs to a top-up that another attempt has credited. -/
structure Db.Second (db : Db) (attempt other topUpId : String) : Prop where
  ne : other ≠ attempt
  belongs : db.Belongs attempt topUpId
  other : ∃ row, db.attempts.find? other = some row ∧ row.walletTopUpId = topUpId ∧
    row.status = .succeeded
  topUp : db.topUpSucceeded topUpId = true

section Second

variable {state : State} {event : Event} {attempt other topUpId : String}
  (hlinked : state.Holds Db.Linked Linked) (hsecond : state.db.Second attempt other topUpId)
  (hspares : SparesSucceeded state event)
include hlinked hsecond hspares

omit hlinked in
theorem second_step : (stepState state event).db.Second attempt other topUpId := by
  have hextends := extends_stepState state event
  refine ⟨hsecond.ne, hsecond.belongs.extend hextends, ?_,
    topUpSucceeded_step state event hspares hsecond.topUp⟩
  obtain ⟨row, hrow, hlink, hstatus⟩ := hsecond.other
  obtain ⟨row', hrow', hstatus'⟩ := Db.attemptSucceeded_iff.1
    (attemptSucceeded_step state event hspares (Db.attemptSucceeded_iff.2 ⟨row, hrow, hstatus⟩))
  obtain ⟨row'', hrow'', hidentity⟩ := hextends.attempts other row hrow
  obtain rfl : row'' = row' := Option.some.inj (hrow''.symm.trans hrow')
  exact ⟨row'', hrow'', (congrArg Prod.fst hidentity).trans hlink, hstatus'⟩

/-- No task writes the attempt unseen together with its top-up, which has succeeded. -/
theorem not_blindTopUp {i : ℕ} {ids : LedgerIds} {acknowledged : Bool} {task : Task}
    (hevent : event = .commit i ids acknowledged) (htask : state.tasks[i]? = some task)
    {topUp : String} {status : TopUpStatus} (hblind : task.blindTopUp = some (topUp, status))
    (hnames : task.names = some (attempt, topUp)) : False := by
  subst hevent
  have hbelongs := hlinked.2 task (List.mem_of_getElem? htask) _ hnames
  have hsame : topUp = topUpId := hbelongs.unique hsecond.belongs
  have hfalse := (hspares task htask).2 _ hblind
  simp only [hsame, hsecond.topUp] at hfalse
  cases hfalse

omit hlinked hspares in
/-- No settlement finds the attempt alone. -/
theorem not_alone {call : Call} {row : PaymentAttempt}
    (hattempt : state.db.attempts.find? call.attemptId = some row)
    (hother : state.db.otherSucceeded row = false) (hid : call.attemptId = attempt) : False := by
  obtain ⟨first, hfirst, hlink, hstatus⟩ := hsecond.other
  obtain ⟨second, hsecondRow, hbelongs⟩ := hsecond.belongs
  rw [hid, hsecondRow] at hattempt
  obtain rfl := Option.some.inj hattempt
  have hrow : second.id = attempt := (IndexedTable.find?_eq_some.1 hsecondRow).2
  have hsame := otherSucceeded_eq_false.1 hother other first hfirst (hlink.trans hbelongs.symm)
    hstatus
  exact hsecond.ne (hsame.trans hrow)

omit hlinked hspares in
/-- The attempt does not succeed. -/
theorem not_succeeded (hsingle : state.db.Single)
    (h : state.db.attemptSucceeded attempt = true) : False := by
  obtain ⟨row, hrow, hstatus⟩ := Db.attemptSucceeded_iff.1 h
  obtain ⟨first, hfirst, hlink, hstatus'⟩ := hsecond.other
  have hbelongs := hsecond.belongs.unique ⟨row, hrow, rfl⟩
  exact hsecond.ne (hsingle other first attempt row hfirst hrow (hlink.trans hbelongs) hstatus'
    hstatus)

/-- The review of a second attempt stays. -/
theorem underReview_step (hreview : SparesReview state event)
    (h : state.db.UnderReview attempt) : (stepState state event).db.UnderReview attempt := by
  refine stepState_induction (p := fun db => db.UnderReview attempt) h ?_
  rintro statement hwrites before after - ⟨⟨row, hrow, hstatus⟩, case, hcase, hopen⟩ heffect
  rw [Option.mem_def] at hrow hcase
  have hattempt : (statement.attemptData before attempt).status = none ∨
      (statement.attemptData before attempt).status = some .review := by
    cases hwrites with
    | @task i ids acknowledged task _ htask hwrites =>
        cases hwrites with
        | @blindAttempt _ target status data hblind hset hverified hreference =>
            by_cases hid : attempt = target
            · subst hid
              rcases review_or_blindTopUp hblind with rfl | ⟨topUp, topUpStatus, htopUp, hnames⟩
              · exact .inr (by simp [Statement.attemptData, hset])
              · exact (not_blindTopUp hlinked hsecond hspares rfl htask htopUp hnames).elim
            · exact .inl (by simp [Statement.attemptData, hid])
        | failedAttempt input code =>
            by_cases hid : attempt = input.attemptId
            · -- the failure of the request would find the review
              have hbelongs := hlinked.2 _ (List.mem_of_getElem? htask) _ rfl
              have hsame : input.topUpId = topUpId := hbelongs.unique (hid ▸ hsecond.belongs)
              exact (hreview _ htask _ rfl ⟨hid ▸ h, hsame ▸ hsecond.topUp⟩).elim
            · exact .inl (by simp [Statement.attemptData, hid])
        | verified call verified =>
            refine .inl ?_
            simp only [Statement.attemptData]
            split <;> rfl
        | @succeededAttempt call verified found hfound hother =>
            by_cases hid : call.attemptId = attempt
            · exact (not_alone hsecond hfound hother hid).elim
            · exact .inl (by simp [Statement.attemptData, Ne.symm hid])
        | _ => exact .inl rfl
    | @expired input topUp latest htopUp hnew hlatest hexpires =>
        by_cases hid : attempt = latest.id
        · -- a top-up that is tried again has not succeeded
          obtain ⟨hfound, hlink⟩ := find?_of_latestAttempt hlatest
          have hsame : input.topUpId = topUpId :=
            Db.Belongs.unique ⟨latest, hid ▸ hfound, hlink⟩ hsecond.belongs
          obtain ⟨succeeded, hfind, hsucceeded⟩ := Db.topUpSucceeded_iff.1 hsecond.topUp
          rw [← hsame, htopUp] at hfind
          exact absurd (Option.some.inj hfind ▸ hsucceeded) hnew
        · exact .inl (by simp [Statement.attemptData, hid])
    | _ => exact .inl rfl
  have hcases : ∃ row, statement.caseAfter before attempt = some row ∧ row.status = .open := by
    cases hwrites with
    | @task i ids acknowledged task _ htask hwrites =>
        cases hwrites with
        | @openCase _ create update hblind hcreate =>
            simp only [Statement.caseAfter]
            split
            · exact ⟨_, rfl, by simp [hcase, CaseData.apply]⟩
            · exact ⟨case, hcase, hopen⟩
        | @failedCase _ target unless? hfails =>
            by_cases hid : attempt = target
            · subst hid
              obtain ⟨topUp, status, htopUp, hnames⟩ := blindTopUp_of_failsCase hfails
              exact (not_blindTopUp hlinked hsecond hspares rfl htask htopUp hnames).elim
            · exact ⟨case, by simp [Statement.caseAfter, hid, hcase], hopen⟩
        | @resolvedCase call verified found hfound hother =>
            by_cases hid : call.attemptId = attempt
            · exact (not_alone hsecond hfound hother hid).elim
            · exact ⟨case, by simp [Statement.caseAfter, Ne.symm hid, hcase], hopen⟩
        | newCase hnewCase => exact ⟨case, by simp [Statement.caseAfter, hcase], hopen⟩
        | _ => exact ⟨case, hcase, hopen⟩
    | _ => exact ⟨case, hcase, hopen⟩
  refine ⟨⟨_, heffect.attempt hrow, ?_⟩, ?_⟩
  · rcases hattempt with hnone | hset
    · simp [hnone, hstatus]
    · simp [hset]
  · rw [heffect.cases]
    exact hcases

end Second

/-! ## Runs -/

/-- A credited top-up gets no further entry. -/
theorem entries_step {state : State} {event : Event} {topUpId : String}
    (hcredited : state.db.Credited topUpId) {entry : WalletLedgerEntry}
    (hreference : entry.referenceId = some topUpId) :
    entry ∈ (stepState state event).db.ledger ↔ entry ∈ state.db.ledger := by
  have hnew : ∀ key entry, (stepState state event).db.ledger.find? key = some entry →
      entry.referenceId = some topUpId → state.db.ledger.find? key = some entry := by
    refine stepState_induction (p := fun db => ∀ key entry, db.ledger.find? key = some entry →
      entry.referenceId = some topUpId → state.db.ledger.find? key = some entry)
      (fun _ _ h _ => h) ?_
    intro statement hwrites before after _ hbefore heffect key entry hentry hreference
    rw [heffect.ledger] at hentry
    cases hold : before.ledger.find? key with
    | some old =>
        rw [hold] at hentry
        obtain rfl := Option.some.inj hentry
        exact hbefore key old hold hreference
    | none =>
        -- a new entry belongs to a top-up that has no credit yet
        rw [hold, Option.none_or] at hentry
        cases hwrites with
        | task htask hwrites =>
            cases hwrites with
            | @credit call verified attempt topUp data hattempt htopUp hfresh hdata =>
                simp only [Statement.newEntry] at hentry
                split at hentry
                · obtain ⟨wallet, -, rfl⟩ := Option.map_eq_some_iff.1 hentry
                  have hid : topUp.id = attempt.walletTopUpId :=
                    (IndexedTable.find?_eq_some.1 htopUp).2
                  have htarget : topUp.id = topUpId := by
                    rcases hdata with rfl | hbonus
                    · exact Option.some.inj hreference
                    · exact Option.some.inj ((isBonus_entry hbonus 0).reference.symm.trans hreference)
                  rw [← hid, htarget] at hfresh
                  exact absurd (hfresh.symm.trans hcredited) (by decide)
                · cases hentry
            | _ => cases hentry
        | _ => cases hentry
  constructor
  · intro hmem
    exact Table.mem_of_find? (hnew _ entry (Table.find?_of_mem hmem) hreference)
  · intro hmem
    exact Table.mem_of_find?
      ((extends_stepState state event).ledger _ entry (Table.find?_of_mem hmem))

/-- The step overwrites no success and no review of a second attempt. -/
def SparesOutcome (state : State) (event : Event) : Prop :=
  SparesSucceeded state event ∧ SparesReview state event

instance (state : State) (event : Event) : Decidable (SparesOutcome state event) :=
  inferInstanceAs (Decidable (_ ∧ _))

/-- What holds of the database and its tasks in such a run. -/
structure Orderly (state : State) : Prop where
  linked : state.Holds Db.Linked Linked
  books : state.db.Books
  kept : state.db.Kept

theorem orderly_step (state : State) (event : Event) (hspares : SparesOutcome state event)
    (h : Orderly state) : Orderly (step state event).1 :=
  ⟨linked_step state event h.linked, books_step state event h.books,
    kept_step state event hspares.1 h.kept⟩

theorem orderly_initial : Orderly State.initial := ⟨linked_initial, books_initial, kept_initial⟩

/-- What a run does to a second attempt whose call is under way. -/
theorem second_run {state : State} {attempt other topUpId : String} (h : Orderly state)
    (hsecond : state.db.Second attempt other topUpId) {events : List Event}
    (hmeets : Meets step SparesOutcome state events)
    (hunderway : state.db.UnderReview attempt ∨ Underway state attempt) :
    (run step state events).db.UnderReview attempt ∨ Underway (run step state events) attempt ∨
      ∃ entry ∈ trace step state events, Loses entry.before entry.event attempt := by
  induction events generalizing state with
  | nil => exact hunderway.imp_right .inl
  | cons event rest ih =>
      obtain ⟨hspares, hrest⟩ := meets_cons.1 hmeets
      by_cases hlost : Loses state event attempt
      · exact .inr (.inr ⟨_, List.mem_cons_self, hlost⟩)
      have hsecond' := second_step hsecond hspares.1
      have horderly := orderly_step state event hspares h
      have hnext : (step state event).1.db.UnderReview attempt ∨
          Underway (step state event).1 attempt := by
        rcases hunderway with hreviewed | hunderway
        · exact .inl (underReview_step h.linked hsecond hspares.1 hspares.2 hreviewed)
        obtain ⟨row, hrow, -⟩ := hsecond.belongs
        rcases underway_step h.linked hrow hunderway hlost with hreviewed | hsucceeded | hstill
        · exact .inl hreviewed
        · exact (not_succeeded hsecond' horderly.books.single hsucceeded).elim
        · exact .inr hstill
      rcases ih horderly hsecond' hrest hnext with
        hdone | hstill | ⟨entry, hentry, hloses⟩
      · exact .inl hdone
      · exact .inr (.inl hstill)
      · exact .inr (.inr ⟨entry, List.mem_cons_of_mem _ hentry, hloses⟩)

/-- **In a run in which no step overwrites a success or the review of a second
attempt, every top-up is credited at most once, with its amount and its bonus,
and exactly when one of its attempts has succeeded.  A second attempt that is
being settled adds no entry, and its call goes on until it is under review, where
it stays, unless the call is lost.** -/
theorem topUp_credited_once (first rest : List Event)
    (hmeets : Meets step SparesOutcome .initial (first ++ rest)) :
    (∀ topUp ∈ (run step .initial first).db.topUps.rows,
      (run step .initial first).db.CreditedOnce topUp) ∧
    ∀ attempt ∈ (run step .initial first).db.attempts.rows,
      (run step .initial first).db.otherSucceeded attempt = true →
      (run step .initial first).db.UnderReview attempt.id ∨
        Underway (run step .initial first) attempt.id →
      (∀ entry, entry.referenceId = some attempt.walletTopUpId →
        (entry ∈ (run step .initial (first ++ rest)).db.ledger ↔
          entry ∈ (run step .initial first).db.ledger)) ∧
      ((run step .initial (first ++ rest)).db.UnderReview attempt.id ∨
        Underway (run step .initial (first ++ rest)) attempt.id ∨
        ∃ entry ∈ trace step (run step .initial first) rest,
          Loses entry.before entry.event attempt.id) := by
  obtain ⟨hfirst, hrest⟩ := meets_append.1 hmeets
  have horderly := run_of_meets orderly_step orderly_initial hfirst
  rw [run_append]
  refine ⟨fun topUp htopUp => creditedOnce_of_books horderly.books horderly.kept htopUp, ?_⟩
  intro attempt hattempt hother hunderway
  have hfind : (run step .initial first).db.attempts.find? attempt.id = some attempt :=
    IndexedTable.find?_eq_some.2 ⟨hattempt, rfl⟩
  obtain ⟨other, hmem, hsame⟩ := List.any_eq_true.1 hother
  simp only [Bool.and_eq_true, decide_eq_true_eq] at hsame
  obtain ⟨⟨hlink, hstatus⟩, hne⟩ := hsame
  have hfindOther := IndexedTable.find?_eq_some.2 ⟨hmem, rfl⟩
  have hcredited : (run step .initial first).db.Credited attempt.walletTopUpId :=
    hlink ▸ horderly.books.paid.attempts other.id other hfindOther hstatus
  have hsecond : (run step .initial first).db.Second attempt.id other.id attempt.walletTopUpId :=
    ⟨hne, ⟨attempt, hfind, rfl⟩, ⟨other, hfindOther, hlink, hstatus⟩,
      (horderly.kept _ hcredited).1⟩
  refine ⟨fun entry hreference => ?_, second_run horderly hsecond hrest hunderway⟩
  have hrun : (run step (run step .initial first) rest).db.Credited attempt.walletTopUpId ∧
      (entry ∈ (run step (run step .initial first) rest).db.ledger ↔
        entry ∈ (run step .initial first).db.ledger) := by
    refine run_induction (p := fun state : State => state.db.Credited attempt.walletTopUpId ∧
      (entry ∈ state.db.ledger ↔ entry ∈ (run step .initial first).db.ledger)) ?_
      ⟨hcredited, Iff.rfl⟩ rest
    rintro state event ⟨hcredited, hiff⟩
    exact ⟨hcredited.extend (extends_stepState state event),
      (entries_step hcredited hreference).trans hiff⟩
  exact hrun.2

/-! ## A review that overwrites a credited attempt -/

/-- Two callbacks of one payment: the first gets no answer and is to be reviewed,
the second settles between its read and its write. -/
def exampleStaleReview : List Event :=
  examplePaid ++ [
    exampleCallback "OK", .verifyAnswer 0 (.error "verify_failed"), .commit 0 exampleIds true,
    exampleCallback "OK", .verifyAnswer 1 (exampleConfirmed "R1"), .commit 1 exampleIds true,
    .commit 1 exampleIds true, .commit 0 exampleIds true]

/-- The top-up is credited, and none of its attempts has succeeded. -/
theorem topUp_credited_without_success :
    ¬ ∀ topUp ∈ (run step .initial exampleStaleReview).db.topUps.rows,
      (run step .initial exampleStaleReview).db.CreditedOnce topUp := by
  decide +kernel

/-- The first attempt is credited, and the second confirmed after it. -/
def exampleSecond : List Event :=
  exampleRetry false ++ [
    .callback {
      expectedGateway := .zarinpal, paymentAttemptId := some "second", topUpId := none,
      tokenHash := "hash-2", authority := some "A2", statusHint := some "OK", now := 3000 },
    .verifyAnswer 0 (exampleConfirmed "R2")]

/-- The transactions of its call. -/
def exampleSecondEnds : List Event := List.replicate 4 (.commit 0 exampleIds true)

/-- The second attempt ends under review. -/
theorem topUp_credited_once_example :
    (∀ topUp ∈ (run step .initial exampleSecond).db.topUps.rows,
      (run step .initial exampleSecond).db.CreditedOnce topUp) ∧
    (∃ attempt ∈ (run step .initial exampleSecond).db.attempts.rows, attempt.id = "second" ∧
      ∀ entry, entry.referenceId = some attempt.walletTopUpId →
        (entry ∈ (run step .initial (exampleSecond ++ exampleSecondEnds)).db.ledger ↔
          entry ∈ (run step .initial exampleSecond).db.ledger)) ∧
    (run step .initial (exampleSecond ++ exampleSecondEnds)).db.UnderReview "second" := by
  have hmeets : Meets step SparesOutcome .initial (exampleSecond ++ exampleSecondEnds) := by
    decide +kernel
  have hsecond : ∃ attempt ∈ (run step .initial exampleSecond).db.attempts.rows,
      attempt.id = "second" ∧ (run step .initial exampleSecond).db.otherSucceeded attempt = true ∧
        Underway (run step .initial exampleSecond) attempt.id := by decide +kernel
  obtain ⟨attempt, hmem, hid, hother, hunderway⟩ := hsecond
  obtain ⟨honce, hreview⟩ := topUp_credited_once _ _ hmeets
  exact ⟨honce, ⟨attempt, hmem, hid, (hreview attempt hmem hother (.inr hunderway)).1⟩,
    by decide +kernel⟩

end AbrChin.TopUp
