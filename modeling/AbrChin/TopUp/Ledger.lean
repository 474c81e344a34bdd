import AbrChin.TopUp.Effects

/-!
# What the top-up flow books

Only `settleVerifiedAttempt` writes the ledger.  Every entry is the credit of a
top-up or its bonus, with the amounts of the top-up, and a bonus never comes
without the credit (`Db.Booked`).  Nothing succeeds before it is credited
(`Db.Paid`), and no top-up has two successful attempts (`Db.Single`).

Most statements are quiet: they write no entry and let nothing succeed, and so
keep these three.  Those of a settlement keep them because of their order.
-/

namespace AbrChin.TopUp

open Lib Payments Wallet

/-! ## Keys -/

theorem creditKey_injective {first second : String} (h : creditKey first = creditKey second) :
    first = second := by
  have hlist := congrArg String.toList h
  simp only [creditKey, String.toList_append] at hlist
  exact String.toList_inj.1 (List.append_cancel_left hlist)

theorem creditKey_ne_bonusKey (first second : String) : creditKey first ≠ bonusKey second := by
  intro h
  have hlist := congrArg (fun key => key.toList.take 7) h
  simp only [creditKey, bonusKey, String.toList_append] at hlist
  rw [List.take_append_of_le_length (by decide), List.take_append_of_le_length (by decide)] at hlist
  revert hlist
  decide

/-! ## Entries of a top-up -/

/-- The top-up has been credited. -/
def Db.Credited (db : Db) (topUpId : String) : Prop :=
  (db.ledger.find? (creditKey topUpId)).isSome = true

instance (db : Db) (topUpId : String) : Decidable (db.Credited topUpId) :=
  inferInstanceAs (Decidable (_ = true))

/-- The entry is the credit of the top-up. -/
structure IsCredit (topUp : WalletTopUp) (entry : WalletLedgerEntry) : Prop where
  key : entry.idempotencyKey = creditKey topUp.id
  reference : entry.referenceId = some topUp.id
  type : entry.type = .topUp
  direction : entry.direction = .credit
  status : entry.status = .completed
  wallet : entry.walletId = topUp.walletId
  amount : entry.amount = topUp.amount

/-- The entry is the bonus of the top-up. -/
structure IsBonus (topUp : WalletTopUp) (entry : WalletLedgerEntry) : Prop where
  key : entry.idempotencyKey = bonusKey topUp.id
  reference : entry.referenceId = some topUp.id
  type : entry.type = .topUpBonus
  direction : entry.direction = .credit
  status : entry.status = .completed
  wallet : entry.walletId = topUp.walletId
  amount : topUp.bonusRialSnapshot = some entry.amount

/-- Every entry is the credit of a top-up, or the bonus of a credited one. -/
def Db.Booked (db : Db) : Prop :=
  ∀ key entry, db.ledger.find? key = some entry →
    ∃ topUp, db.topUps.find? topUp.id = some topUp ∧
      (IsCredit topUp entry ∨ (IsBonus topUp entry ∧ db.Credited topUp.id))

/-- Nothing succeeds before it is credited. -/
structure Db.Paid (db : Db) : Prop where
  attempts : ∀ id row, db.attempts.find? id = some row → row.status = .succeeded →
    db.Credited row.walletTopUpId
  topUps : ∀ id row, db.topUps.find? id = some row → row.status = .succeeded → db.Credited id

/-- A top-up has at most one successful attempt. -/
def Db.Single (db : Db) : Prop :=
  ∀ id row id' row', db.attempts.find? id = some row → db.attempts.find? id' = some row' →
    row.walletTopUpId = row'.walletTopUpId → row.status = .succeeded → row'.status = .succeeded →
    id = id'

/-- The books are in order. -/
structure Db.Books (db : Db) : Prop where
  booked : db.Booked
  paid : db.Paid
  single : db.Single

variable {topUpId : String}

theorem Db.Credited.extend {db db' : Db} (h : db.Credited topUpId) (hextends : db.Extends db') :
    db'.Credited topUpId := by
  obtain ⟨entry, hentry⟩ := Option.isSome_iff_exists.1 h
  exact Option.isSome_iff_exists.2 ⟨entry, hextends.ledger _ _ hentry⟩

/-! ## What one statement books -/

section Effect

variable {statement : Statement} {db db' : Db} (heffect : statement.Effect db db')
include heffect

/-- Old entries stay booked; a new one has to be. -/
theorem Db.Booked.effect (h : db.Booked)
    (hnew : ∀ data, statement = .credit data → ∀ balance,
      ∃ topUp, db.topUps.find? topUp.id = some topUp ∧
        (IsCredit topUp (data.entry balance) ∨
          (IsBonus topUp (data.entry balance) ∧ db.Credited topUp.id))) :
    db'.Booked := by
  have hextends := heffect.extends_db
  -- the top-up of an entry may have changed, but not in what the entry depends on
  have hkeep : ∀ entry, (∃ topUp, db.topUps.find? topUp.id = some topUp ∧
      (IsCredit topUp entry ∨ (IsBonus topUp entry ∧ db.Credited topUp.id))) →
      ∃ topUp, db'.topUps.find? topUp.id = some topUp ∧
        (IsCredit topUp entry ∨ (IsBonus topUp entry ∧ db'.Credited topUp.id)) := by
    rintro entry ⟨topUp, htopUp, hentry⟩
    refine ⟨(statement.topUpData db topUp.id).apply topUp, heffect.topUp htopUp, ?_⟩
    rcases hentry with hcredit | ⟨hbonus, hcredited⟩
    · obtain ⟨h₁, h₂, h₃, h₄, h₅, h₆, h₇⟩ := hcredit
      exact .inl ⟨h₁, h₂, h₃, h₄, h₅, h₆, h₇⟩
    · obtain ⟨h₁, h₂, h₃, h₄, h₅, h₆, h₇⟩ := hbonus
      exact .inr ⟨⟨h₁, h₂, h₃, h₄, h₅, h₆, h₇⟩, hcredited.extend hextends⟩
  intro key entry hentry
  rw [heffect.ledger] at hentry
  cases hold : db.ledger.find? key with
  | some old =>
      rw [hold] at hentry
      cases hentry
      exact hkeep entry (h key entry hold)
  | none =>
      rw [hold, Option.none_or] at hentry
      cases statement with
      | credit data =>
          simp only [Statement.newEntry] at hentry
          split at hentry
          · obtain ⟨wallet, -, rfl⟩ := Option.map_eq_some_iff.1 hentry
            exact hkeep _ (hnew data rfl _)
          · cases hentry
      | _ => cases hentry

/-- A successful attempt was successful before, or the statement makes it so. -/
theorem Statement.Effect.attempt_succeeded
    (hnew : ∀ id row, statement.newAttempt id = some row → row.status ≠ .succeeded) {id : String}
    {row' : PaymentAttempt} (hrow' : db'.attempts.find? id = some row')
    (hstatus : row'.status = .succeeded) :
    ∃ row, db.attempts.find? id = some row ∧ row.walletTopUpId = row'.walletTopUpId ∧
      (row.status = .succeeded ∨ (statement.attemptData db id).status = some .succeeded) := by
  rcases heffect.attempt_before hrow' with ⟨row, hrow, rfl⟩ | ⟨-, hcreated⟩
  · refine ⟨row, hrow, rfl, ?_⟩
    rw [AttemptData.apply_status] at hstatus
    cases hdata : (statement.attemptData db id).status with
    | none => exact .inl (by simpa [hdata] using hstatus)
    | some status => exact .inr (by simpa [hdata] using hstatus)
  · exact absurd hstatus (hnew id row' hcreated)

/-- A row that succeeds has to be credited. -/
theorem Db.Paid.effect (h : db.Paid)
    (hattempt : ∀ id row, db.attempts.find? id = some row →
      (statement.attemptData db id).status = some .succeeded → db.Credited row.walletTopUpId)
    (htopUp : ∀ id, (statement.topUpData db id).status = some .succeeded → db.Credited id)
    (hnewAttempt : ∀ id row, statement.newAttempt id = some row → row.status ≠ .succeeded)
    (hnewTopUp : ∀ id row, statement.newTopUp id = some row → row.status ≠ .succeeded) :
    db'.Paid := by
  have hextends := heffect.extends_db
  constructor
  · intro id row' hrow' hstatus
    obtain ⟨row, hrow, hlink, hold | hset⟩ := heffect.attempt_succeeded hnewAttempt hrow' hstatus
    · exact hlink ▸ (h.attempts id row hrow hold).extend hextends
    · exact hlink ▸ (hattempt id row hrow hset).extend hextends
  · intro id row' hrow' hstatus
    rcases heffect.topUp_before hrow' with ⟨row, hrow, rfl⟩ | ⟨-, hcreated⟩
    · rw [TopUpData.apply_status] at hstatus
      cases hdata : (statement.topUpData db id).status with
      | none => exact (h.topUps id row hrow (by simpa [hdata] using hstatus)).extend hextends
      | some status => exact (htopUp id (by simpa [hdata] using hstatus)).extend hextends
    · exact absurd hstatus (hnewTopUp id row' hcreated)

/-- An attempt that succeeds has to be the only one of its top-up. -/
theorem Db.Single.effect (h : db.Single)
    (hattempt : ∀ id row, db.attempts.find? id = some row →
      (statement.attemptData db id).status = some .succeeded →
      ∀ id' row', db.attempts.find? id' = some row' → row'.walletTopUpId = row.walletTopUpId →
        row'.status = .succeeded ∨ (statement.attemptData db id').status = some .succeeded →
        id' = id)
    (hnewAttempt : ∀ id row, statement.newAttempt id = some row → row.status ≠ .succeeded) :
    db'.Single := by
  intro id row id' row' hrow hrow' hlink hstatus hstatus'
  obtain ⟨old, hold, hsame, hcase⟩ := heffect.attempt_succeeded hnewAttempt hrow hstatus
  obtain ⟨old', hold', hsame', hcase'⟩ := heffect.attempt_succeeded hnewAttempt hrow' hstatus'
  have hlink' : old.walletTopUpId = old'.walletTopUpId := hsame.trans (hlink.trans hsame'.symm)
  by_cases hset : (statement.attemptData db id).status = some .succeeded
  · exact (hattempt id old hold hset id' old' hold' hlink'.symm hcase').symm
  by_cases hset' : (statement.attemptData db id').status = some .succeeded
  · exact hattempt id' old' hold' hset' id old hold hlink' hcase
  · exact h id old id' old' hold hold' hlink' (hcase.resolve_right hset) (hcase'.resolve_right hset')

end Effect

/-! ## Quiet statements -/

/-- The statement writes no entry and lets nothing succeed. -/
structure Statement.Quiet (statement : Statement) : Prop where
  entries : ∀ data, statement ≠ .credit data
  attempts : ∀ db id, (statement.attemptData db id).status ≠ some .succeeded
  topUps : ∀ db id, (statement.topUpData db id).status ≠ some .succeeded
  newAttempts : ∀ id row, statement.newAttempt id = some row → row.status ≠ .succeeded
  newTopUps : ∀ id row, statement.newTopUp id = some row → row.status ≠ .succeeded

theorem Db.Books.quiet {statement : Statement} {db db' : Db} (h : db.Books)
    (hquiet : statement.Quiet) (heffect : statement.Effect db db') : db'.Books where
  booked := h.booked.effect heffect fun data hdata => absurd hdata (hquiet.entries data)
  paid := h.paid.effect heffect (fun id _ _ hset => absurd hset (hquiet.attempts db id))
    (fun id hset => absurd hset (hquiet.topUps db id)) hquiet.newAttempts hquiet.newTopUps
  single := h.single.effect heffect (fun id _ _ hset => absurd hset (hquiet.attempts db id))
    hquiet.newAttempts

namespace Statement

variable {id : String}

theorem quiet_updateAttempt {data : AttemptData} (h : data.status ≠ some .succeeded) :
    (updateAttempt id data).Quiet where
  entries _ := nofun
  attempts db target := by
    simp only [attemptData]
    split
    · exact h
    · simp
  topUps db target := by simp [topUpData]
  newAttempts _ _ := nofun
  newTopUps _ _ := nofun

theorem quiet_updateAttemptUnlessSucceeded {data : AttemptData}
    (h : data.status ≠ some .succeeded) : (updateAttemptUnlessSucceeded id data).Quiet where
  entries _ := nofun
  attempts db target := by
    simp only [attemptData]
    split
    · exact h
    · simp
  topUps db target := by simp [topUpData]
  newAttempts _ _ := nofun
  newTopUps _ _ := nofun

theorem quiet_updateTopUp {data : TopUpData} (h : data.status ≠ some .succeeded) :
    (updateTopUp id data).Quiet where
  entries _ := nofun
  attempts db target := by simp [attemptData]
  topUps db target := by
    simp only [topUpData]
    split
    · exact h
    · simp
  newAttempts _ _ := nofun
  newTopUps _ _ := nofun

theorem quiet_updateTopUpUnlessSucceeded {data : TopUpData} (h : data.status ≠ some .succeeded) :
    (updateTopUpUnlessSucceeded id data).Quiet where
  entries _ := nofun
  attempts db target := by simp [attemptData]
  topUps db target := by
    simp only [topUpData]
    split
    · exact h
    · simp
  newAttempts _ _ := nofun
  newTopUps _ _ := nofun

theorem quiet_createAttempt {row : PaymentAttempt} (h : row.status ≠ .succeeded) :
    (createAttempt row).Quiet where
  entries _ := nofun
  attempts db target := by simp [attemptData]
  topUps db target := by simp [topUpData]
  newAttempts id other hother := by
    simp only [newAttempt] at hother
    split at hother
    · exact Option.some.inj hother ▸ h
    · cases hother
  newTopUps _ _ := nofun

theorem quiet_createTopUp {row : WalletTopUp} (h : row.status ≠ .succeeded) :
    (createTopUp row).Quiet where
  entries _ := nofun
  attempts db target := by simp [attemptData]
  topUps db target := by simp [topUpData]
  newAttempts _ _ := nofun
  newTopUps id other hother := by
    simp only [newTopUp] at hother
    split at hother
    · exact Option.some.inj hother ▸ h
    · cases hother

/-- A statement on wallets or recovery cases is quiet. -/
theorem quiet_of_frame {statement : Statement} (hentries : ∀ data, statement ≠ .credit data)
    (hattempts : ∀ db id, statement.attemptData db id = {})
    (htopUps : ∀ db id, statement.topUpData db id = {})
    (hnewAttempts : ∀ id, statement.newAttempt id = none)
    (hnewTopUps : ∀ id, statement.newTopUp id = none) : statement.Quiet where
  entries := hentries
  attempts db id := by simp [hattempts]
  topUps db id := by simp [htopUps]
  newAttempts id row := by simp [hnewAttempts]
  newTopUps id row := by simp [hnewTopUps]

theorem quiet_createWallet (row : WalletRow) : (createWallet row).Quiet :=
  quiet_of_frame (fun _ => nofun) (fun _ _ => rfl) (fun _ _ => rfl) (fun _ => rfl) fun _ => rfl

theorem quiet_createCase (row : PaymentRecoveryCase) : (createCase row).Quiet :=
  quiet_of_frame (fun _ => nofun) (fun _ _ => rfl) (fun _ _ => rfl) (fun _ => rfl) fun _ => rfl

theorem quiet_upsertCase (create : PaymentRecoveryCase) (update : CaseData) :
    (upsertCase create update).Quiet :=
  quiet_of_frame (fun _ => nofun) (fun _ _ => rfl) (fun _ _ => rfl) (fun _ => rfl) fun _ => rfl

theorem quiet_updateCases (id : String) (unless? : Option PaymentReviewStatus)
    (status : PaymentReviewStatus) : (updateCases id unless? status).Quiet :=
  quiet_of_frame (fun _ => nofun) (fun _ _ => rfl) (fun _ _ => rfl) (fun _ => rfl) fun _ => rfl

end Statement

variable {task : Task}

theorem blindAttempt_ne_succeeded {id : String} {status : PaymentAttemptStatus}
    (h : task.blindAttempt = some (id, status)) : status ≠ .succeeded := by
  cases task with
  | failureWrite call code topUpId =>
      obtain ⟨-, rfl⟩ := Prod.mk.inj (Option.some.inj h)
      split <;> decide
  | persist input payment | persistReview input payment =>
      obtain ⟨-, rfl⟩ := Prod.mk.inj (Option.some.inj h)
      decide
  | reviewWrite call review fallback attempt topUpStatus | markFailedWrite attempt hasCase =>
      obtain ⟨-, rfl⟩ := Prod.mk.inj (Option.some.inj h)
      decide
  | _ => cases h

theorem blindTopUp_ne_succeeded {id : String} {status : TopUpStatus}
    (h : task.blindTopUp = some (id, status)) : status ≠ .succeeded := by
  cases task with
  | failureWrite call code topUpId =>
      obtain ⟨-, rfl⟩ := Prod.mk.inj (Option.some.inj h)
      split <;> decide
  | persist input payment | markFailedWrite attempt hasCase =>
      obtain ⟨-, rfl⟩ := Prod.mk.inj (Option.some.inj h)
      decide
  | reviewWrite call review fallback attempt topUpStatus =>
      simp only [Task.blindTopUp] at h
      split at h
      · cases h
      · obtain ⟨-, rfl⟩ := Prod.mk.inj (Option.some.inj h)
        decide
  | _ => cases h

variable {ids : LedgerIds}

/-- Only a settlement is not quiet. -/
theorem quiet_of_writes {db : Db} {statement : Statement} (h : task.Writes ids db statement)
    (htask : ∀ call verified, task ≠ .settle call verified) :
    statement.Quiet := by
  cases h with
  | blindAttempt hblind hstatus hverified hreference =>
      exact Statement.quiet_updateAttempt (by simpa [hstatus] using blindAttempt_ne_succeeded hblind)
  | blindTopUp hblind hstatus =>
      exact Statement.quiet_updateTopUp (by simpa [hstatus] using blindTopUp_ne_succeeded hblind)
  | failedAttempt input code => exact Statement.quiet_updateAttemptUnlessSucceeded (by simp)
  | verified call verified => exact Statement.quiet_updateAttemptUnlessSucceeded (by simp)
  | failedTopUp input code => exact Statement.quiet_updateTopUpUnlessSucceeded (by simp)
  | unsavedTopUp input payment hstatus =>
      exact Statement.quiet_updateTopUpUnlessSucceeded (by simp [hstatus])
  | credit hattempt htopUp hfresh hdata => exact absurd rfl (htask _ _)
  | succeededAttempt hattempt hother => exact absurd rfl (htask _ _)
  | succeededTopUp hattempt htopUp hopen => exact absurd rfl (htask _ _)
  | resolvedCase hattempt hother => exact absurd rfl (htask _ _)
  | openCase hblind hcreate => exact Statement.quiet_upsertCase _ _
  | failedCase hfails => exact Statement.quiet_updateCases _ _ _
  | newCase hstatus => exact Statement.quiet_createCase _

/-! ## What a settlement books -/

theorem isCredit_entry (ids : LedgerIds) (topUp : WalletTopUp) (balance : ℤ) :
    IsCredit topUp ((creditData ids topUp).entry balance) :=
  ⟨rfl, rfl, rfl, rfl, rfl, rfl, rfl⟩

variable {topUp : WalletTopUp}

theorem isBonus_entry {data : CreditData} (h : bonusData ids topUp = some data) (balance : ℤ) :
    IsBonus topUp (data.entry balance) := by
  unfold bonusData at h
  split at h
  · rename_i bonus hcode hbonus
    split at h
    · obtain rfl := Option.some.inj h
      exact ⟨rfl, rfl, rfl, rfl, rfl, rfl, hbonus⟩
    · cases h
  · cases h

/-- A credit leaves attempts and top-ups alone, and so what depends on them. -/
theorem Db.Books.credit {data : CreditData} {db db' : Db} (h : db.Books)
    (heffect : (Statement.credit data).Effect db db')
    (hentry : ∀ balance, ∃ topUp, db.topUps.find? topUp.id = some topUp ∧
      (IsCredit topUp (data.entry balance) ∨
        (IsBonus topUp (data.entry balance) ∧ db.Credited topUp.id))) : db'.Books := by
  refine ⟨h.booked.effect heffect fun other hother balance => ?_, ?_, ?_⟩
  · rw [← Statement.credit.inj hother]
    exact hentry balance
  · exact h.paid.effect heffect (fun _ _ _ hset => by cases hset) (fun _ hset => by cases hset)
      (fun _ _ hnew => by cases hnew) fun _ _ hnew => by cases hnew
  · exact h.single.effect heffect (fun _ _ _ hset => by cases hset) fun _ _ hnew => by cases hnew

/-- The first of the credit statements credits the top-up. -/
theorem credited_of_run {db db' : Db}
    (h : (Statement.credit (creditData ids topUp)).run db = some db') : db'.Credited topUp.id := by
  simp only [Statement.run, Db.credit, Option.bind_eq_bind, Option.bind_eq_some_iff,
    Option.pure_def, Option.some.injEq] at h
  obtain ⟨wallet, -, wallets, -, ledger, hinsert, rfl⟩ := h
  have hkey : ((creditData ids topUp).entry
      (wallet.availableBalance + (creditData ids topUp).amount)).idempotencyKey =
      creditKey topUp.id := rfl
  have hfind := Table.find?_insert? hinsert (creditKey topUp.id)
  rw [if_pos hkey] at hfind
  exact Option.isSome_iff_exists.2 ⟨_, hfind⟩

/-- The credit statements of a settlement keep the books and credit the top-up. -/
theorem credit_execute {db mid : Db} (htopUp : db.topUps.find? topUp.id = some topUp)
    (hbooks : db.Books) (hexecute : execute (creditStatements ids topUp) db = some mid) :
    mid.Books ∧ mid.Credited topUp.id ∧ ∀ id, mid.attempts.find? id = db.attempts.find? id := by
  obtain ⟨first, hcredit, hbonus⟩ := execute_cons.1 hexecute
  have heffect := Statement.effect_of_run hcredit
  have hcredited := credited_of_run hcredit
  have hbooks' : first.Books :=
    hbooks.credit heffect fun balance => ⟨topUp, htopUp, .inl (isCredit_entry ids topUp balance)⟩
  have hattempts : ∀ id, first.attempts.find? id = db.attempts.find? id := fun id => by
    simpa [Statement.attemptData, Statement.newAttempt] using heffect.attempts id
  cases hdata : bonusData ids topUp with
  | none =>
      rw [hdata] at hbonus
      obtain rfl := Option.some.inj hbonus
      exact ⟨hbooks', hcredited, hattempts⟩
  | some data =>
      rw [hdata] at hbonus
      obtain ⟨last, hrun, hnil⟩ := execute_cons.1 hbonus
      obtain rfl := Option.some.inj hnil
      have heffect' := Statement.effect_of_run hrun
      have htopUp' : first.topUps.find? topUp.id = some topUp := by
        simpa [Statement.topUpData] using heffect.topUp htopUp
      refine ⟨hbooks'.credit heffect' fun balance => ?_, hcredited.extend heffect'.extends_db,
        fun id => ?_⟩
      · exact ⟨topUp, htopUp', .inr ⟨isBonus_entry hdata balance, hcredited⟩⟩
      · rw [← hattempts id]
        simpa [Statement.attemptData, Statement.newAttempt] using heffect'.attempts id

variable {attempt : PaymentAttempt}

theorem otherSucceeded_eq_false {db : Db} :
    db.otherSucceeded attempt = false ↔ ∀ id row, db.attempts.find? id = some row →
      row.walletTopUpId = attempt.walletTopUpId → row.status = .succeeded → id = attempt.id := by
  simp only [Db.otherSucceeded, List.any_eq_false, Bool.and_eq_true, decide_eq_true_eq]
  constructor
  · intro h id row hrow hlink hstatus
    obtain ⟨hmem, hid⟩ := IndexedTable.find?_eq_some.1 hrow
    by_contra hne
    exact h row hmem ⟨⟨hlink, hstatus⟩, fun heq => hne (hid.symm.trans heq)⟩
  · rintro h row hmem ⟨⟨hlink, hstatus⟩, hne⟩
    exact hne (h row.id row (IndexedTable.find?_eq_some.2 ⟨hmem, rfl⟩) hlink hstatus)

variable {verified : VerifiedPayment}

/-- Success is written once the top-up is credited and when no other attempt has succeeded. -/
theorem success_execute {now : ℤ} {db db' : Db} (hbooks : db.Books)
    (hcredited : db.Credited attempt.walletTopUpId)
    (hattempt : ∃ row, db.attempts.find? attempt.id = some row ∧
      row.walletTopUpId = attempt.walletTopUpId)
    (hother : ∀ id row, db.attempts.find? id = some row →
      row.walletTopUpId = attempt.walletTopUpId → row.status = .succeeded → id = attempt.id)
    (hexecute : execute (successStatements attempt verified now) db = some db') : db'.Books := by
  obtain ⟨first, hrun, hexecute⟩ := execute_cons.1 hexecute
  obtain ⟨second, hrun', hexecute⟩ := execute_cons.1 hexecute
  obtain ⟨third, hrun'', hnil⟩ := execute_cons.1 hexecute
  obtain rfl := Option.some.inj hnil
  have heffect := Statement.effect_of_run hrun
  have heffect' := Statement.effect_of_run hrun'
  -- only the attempt that is settled is written
  have honly : ∀ id, ((Statement.updateAttempt attempt.id {
      status := some .succeeded
      authority := some verified.authority
      gatewayReference := some verified.gatewayReference
      verifiedAt := some now
      failureCode := some none }).attemptData db id).status = some .succeeded → id = attempt.id := by
    intro id hset
    by_contra hne
    simp [Statement.attemptData, hne] at hset
  obtain ⟨row, hrow, hlink⟩ := hattempt
  have hfirst : first.Books := by
    refine ⟨hbooks.booked.effect heffect fun _ hdata => (by cases hdata), ?_, ?_⟩
    · refine hbooks.paid.effect heffect ?_ ?_ (fun _ _ hnew => by cases hnew)
        fun _ _ hnew => by cases hnew
      · intro id other hother' hset
        obtain rfl := honly id hset
        rw [hrow] at hother'
        cases hother'
        exact hlink ▸ hcredited
      · intro id hset
        cases hset
    · refine hbooks.single.effect heffect ?_ fun _ _ hnew => by cases hnew
      intro id other hother' hset id' row' hrow' hlink' hstatus'
      obtain rfl := honly id hset
      rw [hrow] at hother'
      cases hother'
      rcases hstatus' with hold | hset'
      · exact hother id' row' hrow' (hlink'.trans hlink) hold
      · exact honly id' hset'
  have hsecond : second.Books := by
    refine ⟨hfirst.booked.effect heffect' fun _ hdata => (by cases hdata), ?_, ?_⟩
    · refine hfirst.paid.effect heffect' ?_ ?_ (fun _ _ hnew => by cases hnew)
        fun _ _ hnew => by cases hnew
      · intro id other _ hset
        cases hset
      · intro id hset
        by_cases hid : id = attempt.walletTopUpId
        · exact hid ▸ hcredited.extend heffect.extends_db
        · simp [Statement.topUpData, hid] at hset
    · refine hfirst.single.effect heffect' ?_ fun _ _ hnew => by cases hnew
      intro id other _ hset
      cases hset
  exact hsecond.quiet (Statement.quiet_updateCases _ _ _) (Statement.effect_of_run hrun'')

/-- After a settlement that credits, the top-up has succeeded by the payment, and
the attempt has succeeded. -/
theorem succeeded_of_execute {now : ℤ} {db db' : Db} {row : PaymentAttempt}
    (hattempt : db.attempts.find? attempt.id = some row)
    (htopUp : db.topUps.find? attempt.walletTopUpId = some topUp)
    (hexecute : execute (successStatements attempt verified now) db = some db') :
    (∃ topUp', db'.topUps.find? attempt.walletTopUpId = some topUp' ∧
      topUp'.status = .succeeded ∧ topUp'.gateway = attempt.gateway ∧
      topUp'.authority = some verified.authority ∧
      topUp'.gatewayReference = some verified.gatewayReference) ∧
    ∃ row', db'.attempts.find? attempt.id = some row' ∧
      row'.walletTopUpId = row.walletTopUpId ∧ row'.status = .succeeded := by
  obtain ⟨first, hrun, hexecute⟩ := execute_cons.1 hexecute
  obtain ⟨second, hrun', hexecute⟩ := execute_cons.1 hexecute
  obtain ⟨third, hrun'', hnil⟩ := execute_cons.1 hexecute
  obtain rfl := Option.some.inj hnil
  have heffect := Statement.effect_of_run hrun
  have heffect' := Statement.effect_of_run hrun'
  have heffect'' := Statement.effect_of_run hrun''
  constructor
  · have hwritten := heffect''.topUp (heffect'.topUp (heffect.topUp htopUp))
    refine ⟨_, hwritten, ?_⟩
    simp [Statement.topUpData, TopUpData.apply]
  · have hwritten := heffect''.attempt (heffect'.attempt (heffect.attempt hattempt))
    refine ⟨_, hwritten, rfl, ?_⟩
    simp [Statement.attemptData]

/-- A settlement keeps the books, and credits when it writes at all. -/
theorem settle_execute {call : Call} {db db' : Db} {plan : Plan}
    (hplan : settlePlan ids call verified db = some plan) (hbooks : db.Books)
    (hexecute : execute plan.statements db = some db') :
    db'.Books ∧ ∀ attempt, db.attempts.find? call.attemptId = some attempt →
      plan.statements ≠ [] → db'.Credited attempt.walletTopUpId := by
  obtain ⟨attempt, topUp, hattempt, htopUp, hcases⟩ := settlePlan_cases hplan
  have hid : attempt.id = call.attemptId := (IndexedTable.find?_eq_some.1 hattempt).2
  have hkey : topUp.id = attempt.walletTopUpId := (IndexedTable.find?_eq_some.1 htopUp).2
  rcases hcases with ⟨-, -, rfl⟩ | ⟨-, rfl⟩ | ⟨hother, -, rfl⟩
  · exact ⟨Option.some.inj hexecute ▸ hbooks, fun _ _ hne => absurd rfl hne⟩
  · exact ⟨Option.some.inj hexecute ▸ hbooks, fun _ _ hne => absurd rfl hne⟩
  obtain ⟨mid, hcredit, hsuccess⟩ := execute_append.1 hexecute
  have hmid : mid.Books ∧ mid.Credited topUp.id ∧
      ∀ id, mid.attempts.find? id = db.attempts.find? id := by
    split at hcredit
    · rename_i hexisting
      obtain rfl := Option.some.inj hcredit
      exact ⟨hbooks, hkey ▸ hexisting, fun _ => rfl⟩
    · exact credit_execute (hkey ▸ htopUp) hbooks hcredit
  obtain ⟨hbooks', hcredited, hsame⟩ := hmid
  rw [hkey] at hcredited
  constructor
  · refine success_execute hbooks' hcredited ⟨attempt, ?_, rfl⟩ ?_ hsuccess
    · rw [hsame, hid]
      exact hattempt
    · intro id row hrow
      rw [hsame] at hrow
      exact otherSucceeded_eq_false.1 hother id row hrow
  · intro found hfound _
    obtain rfl := Option.some.inj (hattempt.symm.trans hfound)
    exact hcredited.extend (extends_of_execute hsuccess)

/-! ## What a step credits -/

/-- A transaction without a credit of the top-up does not credit it. -/
theorem credited_of_execute {statements : List Statement} {db db' : Db}
    (hother : ∀ data, .credit data ∈ statements → data.idempotencyKey ≠ creditKey topUpId)
    (hexecute : execute statements db = some db') (h : db'.Credited topUpId) :
    db.Credited topUpId := by
  by_contra hbefore
  have hafter : ¬ db'.Credited topUpId := by
    refine execute_induction (p := fun db => ¬ db.Credited topUpId) hbefore ?_ hexecute
    intro statement hmem before after hnot heffect hcredited
    refine hnot ?_
    rw [Db.Credited, heffect.ledger] at hcredited
    cases hold : before.ledger.find? (creditKey topUpId) with
    | some entry => simp [Db.Credited, hold]
    | none =>
        cases statement with
        | credit data =>
            have hkey := hother data hmem
            simp [hold, Statement.newEntry, hkey] at hcredited
        | _ => simp [hold, Statement.newEntry] at hcredited
  exact hafter h

/-- A step that credits a top-up commits a settlement of one of its attempts; the
top-up and the attempt have then succeeded. -/
theorem settles_of_credited {state : State} {event : Event}
    (hbefore : ¬ state.db.Credited topUpId) (hafter : (stepState state event).db.Credited topUpId) :
    ∃ i ids acknowledged call verified attempt, event = .commit i ids acknowledged ∧
      state.tasks[i]? = some (.settle call verified) ∧
      state.db.attempts.find? call.attemptId = some attempt ∧ attempt.walletTopUpId = topUpId ∧
      (∃ topUp, (stepState state event).db.topUps.find? topUpId = some topUp ∧
        topUp.status = .succeeded ∧ topUp.gateway = attempt.gateway ∧
        topUp.authority = some verified.authority ∧
        topUp.gatewayReference = some verified.gatewayReference) ∧
      ∃ row, (stepState state event).db.attempts.find? call.attemptId = some row ∧
        row.walletTopUpId = topUpId ∧ row.status = .succeeded := by
  rcases db_stepState state event with hsame | ⟨plan, hplan, hexecute⟩
  · exact absurd (hsame ▸ hafter) hbefore
  by_cases hcredit : ∀ data, Statement.credit data ∈ plan.statements →
      data.idempotencyKey ≠ creditKey topUpId
  · exact absurd (credited_of_execute hcredit hexecute hafter) hbefore
  push Not at hcredit
  obtain ⟨data, hmem, hkey⟩ := hcredit
  cases writes_of_mem_eventPlan hplan hmem with
  | @task i ids acknowledged task _ htask hwrites =>
      cases hwrites with
      | @credit call verified attempt topUp _ hattempt htopUp hfresh hdata =>
          have hid : attempt.id = call.attemptId := (IndexedTable.find?_eq_some.1 hattempt).2
          have htopUpId : topUp.id = attempt.walletTopUpId :=
            (IndexedTable.find?_eq_some.1 htopUp).2
          have htarget : attempt.walletTopUpId = topUpId := by
            rcases hdata with rfl | hbonus
            · exact htopUpId.symm.trans (creditKey_injective hkey)
            · have hbonusKey := (isBonus_entry hbonus 0).key
              exact absurd (hkey.symm.trans hbonusKey) (creditKey_ne_bonusKey _ _)
          simp only [eventPlan, htask, Option.bind_some] at hplan
          obtain ⟨attempt', topUp', hattempt', htopUp', hcases⟩ := settlePlan_cases hplan
          obtain rfl := Option.some.inj (hattempt.symm.trans hattempt')
          rcases hcases with ⟨-, -, rfl⟩ | ⟨-, rfl⟩ | ⟨-, -, rfl⟩
          · cases hmem
          · cases hmem
          obtain ⟨mid, hfirst, hsecond⟩ := execute_append.1 hexecute
          have hextends := extends_of_execute hfirst
          obtain ⟨row, hrow, hidentity⟩ := hextends.attempts _ _ hattempt
          obtain ⟨topUpRow, htopUpRow, -⟩ := hextends.topUps _ _ htopUp
          obtain ⟨hdone, row', hrow', hlink, hstatus⟩ :=
            succeeded_of_execute (hid ▸ hrow) htopUpRow hsecond
          refine ⟨i, ids, acknowledged, call, verified, attempt, rfl, htask, hattempt, htarget,
            htarget ▸ hdone, row', hid ▸ hrow', ?_, hstatus⟩
          exact hlink.trans ((congrArg Prod.fst hidentity).trans htarget)

/-! ## Runs -/

/-- **Every event keeps the books in order.** -/
theorem books_step (state : State) (event : Event) (h : state.db.Books) :
    (step state event).1.db.Books := by
  -- only a settlement is not quiet
  have hquiet : (∀ statement, EventWrites state event statement → statement.Quiet) →
      (stepState state event).db.Books := fun hquiet =>
    stepState_induction h fun statement hwrites _ _ _ hbefore heffect =>
      hbefore.quiet (hquiet statement hwrites) heffect
  cases event with
  | commit i ids acknowledged =>
      cases htask : state.tasks[i]? with
      | none =>
          refine hquiet fun statement hwrites => ?_
          cases hwrites with
          | task hfound hwrites => simp [htask] at hfound
      | some task =>
          by_cases hsettle : ∃ call verified, task = .settle call verified
          · obtain ⟨call, verified, rfl⟩ := hsettle
            rcases db_stepState state (.commit i ids acknowledged) with
              hsame | ⟨plan, hplan, hexecute⟩
            · exact (congrArg Db.Books hsame).mpr h
            · simp only [eventPlan, htask, Option.bind_some] at hplan
              exact (settle_execute hplan h hexecute).1
          · refine hquiet fun statement hwrites => ?_
            cases hwrites with
            | task hfound hwrites =>
                rw [htask] at hfound
                obtain rfl := Option.some.inj hfound
                exact quiet_of_writes hwrites fun call verified heq =>
                  hsettle ⟨call, verified, heq⟩
  | create input =>
      refine hquiet fun statement hwrites => ?_
      cases hwrites with
      | topUp hstatus => exact Statement.quiet_createTopUp (by simp [hstatus])
      | attempt hstatus hverified => exact Statement.quiet_createAttempt (by simp [hstatus])
  | retry input =>
      refine hquiet fun statement hwrites => ?_
      cases hwrites with
      | expired htopUp hnew hlatest hexpires => exact Statement.quiet_updateAttempt (by simp)
      | retried htopUp hnew hlink hamount hstatus hverified =>
          exact Statement.quiet_createAttempt (by simp [hstatus])
      | reopened htopUp hnew hstatus => exact Statement.quiet_updateTopUp (by simp [hstatus])
  | ensureWallet walletId userId =>
      refine hquiet fun statement hwrites => ?_
      cases hwrites with
      | wallet => exact Statement.quiet_createWallet _
  | _ => exact hquiet fun statement hwrites => by cases hwrites

theorem books_initial : State.initial.db.Books where
  booked := by
    intro key entry hentry
    cases hentry
  paid := by
    constructor
    · intro id row hrow
      cases hrow
    · intro id row hrow
      cases hrow
  single := by
    intro id row id' row' hrow
    cases hrow

end AbrChin.TopUp
