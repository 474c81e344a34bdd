import AbrChin.TopUp.Schema

/-!
# Statements and transactions

A transaction is a list of statements; `execute` runs it and refuses it as a
whole when one statement violates a constraint.  `Statement.Effect` says table
by table what one statement does, and `execute_induction` carries what every
statement preserves through a transaction.
-/

namespace AbrChin.TopUp

open Lib Payments Wallet

/-! ## Statements -/

/-- A ledger entry before its balance is known. -/
structure CreditData where
  id : String
  walletId : String
  type : LedgerType
  amount : ℤ
  referenceType : String
  referenceId : String
  idempotencyKey : String

/-- The entry that a credit writes. -/
def CreditData.entry (credit : CreditData) (balanceAfter : ℤ) : WalletLedgerEntry where
  id := credit.id
  walletId := credit.walletId
  direction := .credit
  type := credit.type
  amount := credit.amount
  status := .completed
  referenceType := some credit.referenceType
  referenceId := some credit.referenceId
  idempotencyKey := credit.idempotencyKey
  balanceAfter

/-- One statement of a transaction. -/
inductive Statement where
  | createWallet (row : WalletRow)
  | createTopUp (row : WalletTopUp)
  | createAttempt (row : PaymentAttempt)
  /-- `paymentAttempt.update({ where: { id }, data })` -/
  | updateAttempt (id : String) (data : AttemptData)
  /-- `paymentAttempt.updateMany({ where: { id, status: { not: SUCCEEDED } }, data })` -/
  | updateAttemptUnlessSucceeded (id : String) (data : AttemptData)
  /-- `walletTopUp.update({ where: { id }, data })` -/
  | updateTopUp (id : String) (data : TopUpData)
  /-- `walletTopUp.updateMany({ where: { id, status: { not: SUCCEEDED } }, data })` -/
  | updateTopUpUnlessSucceeded (id : String) (data : TopUpData)
  | createCase (row : PaymentRecoveryCase)
  /-- `paymentRecoveryCase.upsert({ where: { attemptId }, create, update })` -/
  | upsertCase (create : PaymentRecoveryCase) (update : CaseData)
  /-- `paymentRecoveryCase.updateMany({ where: { attemptId, status: { not } }, data: { status } })` -/
  | updateCases (attemptId : String) (unless? : Option PaymentReviewStatus)
      (status : PaymentReviewStatus)
  /-- `wallet.update` with an increment, and the ledger entry with the new balance. -/
  | credit (credit : CreditData)

namespace Db

/-- Write the attempt `id`, if there is one. -/
def writeAttempt (db : Db) (id : String) (data : AttemptData) : Option Db :=
  (db.attempts.modify? id data.apply fun _ => rfl).map fun attempts => { db with attempts }

/-- Write the top-up `id`, if there is one. -/
def writeTopUp (db : Db) (id : String) (data : TopUpData) : Option Db :=
  (db.topUps.modify? id data.apply fun _ => rfl).map fun topUps => { db with topUps }

/-- Increment the balance of a wallet and write the entry. -/
def credit (db : Db) (credit : CreditData) : Option Db := do
  let wallet ← db.wallets.find? credit.walletId
  let wallets ← db.wallets.modify? credit.walletId (fun row => row.add credit.amount) fun _ => rfl
  let ledger ← db.ledger.insert? (credit.entry (wallet.availableBalance + credit.amount))
  pure { db with wallets, ledger }

def attemptSucceeded (db : Db) (id : String) : Bool :=
  (db.attempts.find? id).any fun row => row.status = .succeeded

def topUpSucceeded (db : Db) (id : String) : Bool :=
  (db.topUps.find? id).any fun row => row.status = .succeeded

end Db

theorem Db.attemptSucceeded_iff {db : Db} {id : String} :
    db.attemptSucceeded id = true ↔
      ∃ row, db.attempts.find? id = some row ∧ row.status = .succeeded := by
  simp [attemptSucceeded, Option.any_eq_true]

theorem Db.topUpSucceeded_iff {db : Db} {id : String} :
    db.topUpSucceeded id = true ↔
      ∃ row, db.topUps.find? id = some row ∧ row.status = .succeeded := by
  simp [topUpSucceeded, Option.any_eq_true]

/-- The recovery case after an update of its status. -/
def PaymentRecoveryCase.withStatus (row : PaymentRecoveryCase) (unless? : Option PaymentReviewStatus)
    (status : PaymentReviewStatus) : PaymentRecoveryCase :=
  if unless? = some row.status then row else { row with status }

theorem PaymentRecoveryCase.attemptId_withStatus (row : PaymentRecoveryCase)
    (unless? : Option PaymentReviewStatus) (status : PaymentReviewStatus) :
    (row.withStatus unless? status).attemptId = row.attemptId := by
  unfold PaymentRecoveryCase.withStatus
  split <;> rfl

/-- Run a statement; `none` when a constraint refuses it. -/
def Statement.run (db : Db) : Statement → Option Db
  | createWallet row => (db.wallets.insert? row).map fun wallets => { db with wallets }
  | createTopUp row => (db.topUps.insert? row).map fun topUps => { db with topUps }
  | createAttempt row => (db.attempts.insert? row).map fun attempts => { db with attempts }
  | updateAttempt id data =>
      if (db.attempts.find? id).isSome then db.writeAttempt id data else none
  | updateAttemptUnlessSucceeded id data =>
      if db.attemptSucceeded id then some db else db.writeAttempt id data
  | updateTopUp id data =>
      if (db.topUps.find? id).isSome then db.writeTopUp id data else none
  | updateTopUpUnlessSucceeded id data =>
      if db.topUpSucceeded id then some db else db.writeTopUp id data
  | createCase row => (db.cases.insert? row).map fun cases => { db with cases }
  | upsertCase create update =>
      match db.cases.find? create.attemptId with
      | some _ => some { db with
          cases := db.cases.modify create.attemptId update.apply update.attemptId_apply }
      | none => (db.cases.insert? create).map fun cases => { db with cases }
  | updateCases attemptId unless? status => some { db with
      cases := db.cases.modify attemptId (·.withStatus unless? status)
        (·.attemptId_withStatus unless? status) }
  | credit data => db.credit data

/-- Run the statements of a transaction. -/
def execute (statements : List Statement) (db : Db) : Option Db :=
  statements.foldlM Statement.run db

/-! ## What one statement does -/

namespace Statement

/-- What a statement writes to the attempt `id`. -/
def attemptData (db : Db) (id : String) : Statement → AttemptData
  | updateAttempt target data => if id = target then data else {}
  | updateAttemptUnlessSucceeded target data =>
      if id = target ∧ ¬ db.attemptSucceeded id then data else {}
  | _ => {}

/-- What a statement writes to the top-up `id`. -/
def topUpData (db : Db) (id : String) : Statement → TopUpData
  | updateTopUp target data => if id = target then data else {}
  | updateTopUpUnlessSucceeded target data =>
      if id = target ∧ ¬ db.topUpSucceeded id then data else {}
  | _ => {}

/-- The attempt that a statement creates under `id`. -/
def newAttempt (id : String) : Statement → Option PaymentAttempt
  | createAttempt row => if row.id = id then some row else none
  | _ => none

/-- The top-up that a statement creates under `id`. -/
def newTopUp (id : String) : Statement → Option WalletTopUp
  | createTopUp row => if row.id = id then some row else none
  | _ => none

/-- The ledger entry that a statement writes under `key`. -/
def newEntry (db : Db) (key : String) : Statement → Option WalletLedgerEntry
  | credit data =>
      if data.idempotencyKey = key then
        (db.wallets.find? data.walletId).map fun wallet =>
          data.entry (wallet.availableBalance + data.amount)
      else none
  | _ => none

/-- The recovery case of the attempt `id` after a statement. -/
def caseAfter (db : Db) (id : String) : Statement → Option PaymentRecoveryCase
  | createCase row => (db.cases.find? id).or (if row.attemptId = id then some row else none)
  | upsertCase create update =>
      if create.attemptId = id then some (((db.cases.find? id).map update.apply).getD create)
      else db.cases.find? id
  | updateCases target unless? status =>
      if id = target then (db.cases.find? id).map (·.withStatus unless? status)
      else db.cases.find? id
  | _ => db.cases.find? id

/-- What a statement does to each table.  A new row never takes the place of an old one. -/
structure Effect (statement : Statement) (db db' : Db) : Prop where
  attempts : ∀ id, db'.attempts.find? id =
    ((db.attempts.find? id).map (statement.attemptData db id).apply).or (statement.newAttempt id)
  topUps : ∀ id, db'.topUps.find? id =
    ((db.topUps.find? id).map (statement.topUpData db id).apply).or (statement.newTopUp id)
  ledger : ∀ key, db'.ledger.find? key =
    (db.ledger.find? key).or (statement.newEntry db key)
  cases : ∀ id, db'.cases.find? id = statement.caseAfter db id

variable {db db' : Db} {statement : Statement}

theorem attempts_writeAttempt {target : String} {data : AttemptData}
    (h : db.writeAttempt target data = some db') :
    (∀ id, db'.attempts.find? id =
      (db.attempts.find? id).map (if id = target then data else {}).apply) ∧
    db' = { db with attempts := db'.attempts } := by
  obtain ⟨attempts, hmodify, rfl⟩ := Option.map_eq_some_iff.1 h
  refine ⟨fun id => ?_, rfl⟩
  rw [IndexedTable.find?_modify? hmodify]
  by_cases hid : id = target
  · simp [hid]
  · simp only [hid, if_false]
    cases db.attempts.find? id <;> simp

theorem topUps_writeTopUp {target : String} {data : TopUpData}
    (h : db.writeTopUp target data = some db') :
    (∀ id, db'.topUps.find? id =
      (db.topUps.find? id).map (if id = target then data else {}).apply) ∧
    db' = { db with topUps := db'.topUps } := by
  obtain ⟨topUps, hmodify, rfl⟩ := Option.map_eq_some_iff.1 h
  refine ⟨fun id => ?_, rfl⟩
  rw [IndexedTable.find?_modify? hmodify]
  by_cases hid : id = target
  · simp [hid]
  · simp only [hid, if_false]
    cases db.topUps.find? id <;> simp

@[simp] theorem map_apply_empty_attempt (attempt : Option PaymentAttempt) :
    attempt.map ({} : AttemptData).apply = attempt := by
  cases attempt <;> simp

@[simp] theorem map_apply_empty_topUp (topUp : Option WalletTopUp) :
    topUp.map ({} : TopUpData).apply = topUp := by
  cases topUp <;> simp

/-- **What a statement does, table by table.** -/
theorem effect_of_run (h : statement.run db = some db') : statement.Effect db db' := by
  cases statement with
  | createWallet row =>
      obtain ⟨_, -, rfl⟩ := Option.map_eq_some_iff.1 h
      constructor <;> simp [newAttempt, attemptData, newTopUp, topUpData, newEntry, caseAfter]
  | createTopUp row =>
      obtain ⟨topUps, hinsert, rfl⟩ := Option.map_eq_some_iff.1 h
      constructor <;> simp [newAttempt, attemptData, newTopUp, topUpData, newEntry, caseAfter]
      intro id
      rw [IndexedTable.find?_insert? hinsert]
      by_cases hid : row.id = id
      · subst hid
        simp [IndexedTable.fresh_of_insert? hinsert]
      · simp [hid]
  | createAttempt row =>
      obtain ⟨attempts, hinsert, rfl⟩ := Option.map_eq_some_iff.1 h
      constructor <;> simp [newAttempt, attemptData, newTopUp, topUpData, newEntry, caseAfter]
      intro id
      rw [IndexedTable.find?_insert? hinsert]
      by_cases hid : row.id = id
      · subst hid
        simp [IndexedTable.fresh_of_insert? hinsert]
      · simp [hid]
  | updateAttempt target data =>
      simp only [run] at h
      split at h
      · obtain ⟨hattempts, hrest⟩ := attempts_writeAttempt h
        rw [hrest]
        constructor <;> simp [newAttempt, attemptData, newTopUp, topUpData, newEntry, caseAfter]
        exact hattempts
      · cases h
  | updateAttemptUnlessSucceeded target data =>
      simp only [run] at h
      split at h
      · rename_i hsucceeded
        cases h
        constructor <;> simp [newAttempt, attemptData, newTopUp, topUpData, newEntry, caseAfter]
        intro id
        by_cases hid : id = target
        · subst hid
          simp [hsucceeded]
        · simp [hid]
      · rename_i hsucceeded
        obtain ⟨hattempts, hrest⟩ := attempts_writeAttempt h
        rw [hrest]
        constructor <;> simp [newAttempt, attemptData, newTopUp, topUpData, newEntry, caseAfter]
        intro id
        rw [hattempts id]
        by_cases hid : id = target
        · subst hid
          simp [hsucceeded]
        · simp [hid]
  | updateTopUp target data =>
      simp only [run] at h
      split at h
      · obtain ⟨htopUps, hrest⟩ := topUps_writeTopUp h
        rw [hrest]
        constructor <;> simp [newAttempt, attemptData, newTopUp, topUpData, newEntry, caseAfter]
        exact htopUps
      · cases h
  | updateTopUpUnlessSucceeded target data =>
      simp only [run] at h
      split at h
      · rename_i hsucceeded
        cases h
        constructor <;> simp [newAttempt, attemptData, newTopUp, topUpData, newEntry, caseAfter]
        intro id
        by_cases hid : id = target
        · subst hid
          simp [hsucceeded]
        · simp [hid]
      · rename_i hsucceeded
        obtain ⟨htopUps, hrest⟩ := topUps_writeTopUp h
        rw [hrest]
        constructor <;> simp [newAttempt, attemptData, newTopUp, topUpData, newEntry, caseAfter]
        intro id
        rw [htopUps id]
        by_cases hid : id = target
        · subst hid
          simp [hsucceeded]
        · simp [hid]
  | createCase row =>
      obtain ⟨cases, hinsert, rfl⟩ := Option.map_eq_some_iff.1 h
      constructor <;> simp [newAttempt, attemptData, newTopUp, topUpData, newEntry, caseAfter]
      intro id
      rw [Table.find?_insert? hinsert]
      by_cases hid : row.attemptId = id
      · subst hid
        simp [Table.fresh_of_insert? hinsert]
      · simp [hid]
  | upsertCase create update =>
      simp only [run] at h
      split at h
      · rename_i row hrow
        cases h
        constructor <;> simp [newAttempt, attemptData, newTopUp, topUpData, newEntry, caseAfter]
        intro id
        rw [Table.find?_modify]
        by_cases hid : id = create.attemptId
        · subst hid
          simp [hrow]
        · simp [hid, Ne.symm hid]
      · rename_i hnone
        obtain ⟨cases, hinsert, rfl⟩ := Option.map_eq_some_iff.1 h
        constructor <;> simp [newAttempt, attemptData, newTopUp, topUpData, newEntry, caseAfter]
        intro id
        rw [Table.find?_insert? hinsert]
        by_cases hid : create.attemptId = id
        · subst hid
          simp [hnone]
        · simp [hid]
  | updateCases target unless? status =>
      cases h
      constructor <;> simp [newAttempt, attemptData, newTopUp, topUpData, newEntry, caseAfter]
      intro id
      rw [Table.find?_modify]
      by_cases hid : id = target
      · subst hid
        simp
      · simp [hid]
  | credit data =>
      simp only [run, Db.credit, Option.bind_eq_bind, Option.bind_eq_some_iff, Option.pure_def,
        Option.some.injEq] at h
      obtain ⟨wallet, hwallet, wallets, -, ledger, hinsert, rfl⟩ := h
      constructor <;> simp [newAttempt, attemptData, newTopUp, topUpData, newEntry, caseAfter]
      intro key
      rw [Table.find?_insert? hinsert]
      have hfresh := Table.fresh_of_insert? hinsert
      by_cases hkey : data.idempotencyKey = key
      · subst hkey
        simp only [CreditData.entry] at hfresh
        simp [CreditData.entry, hwallet, hfresh]
      · simp [CreditData.entry, hkey]

end Statement

/-! ## What a transaction does -/

@[simp] theorem execute_nil (db : Db) : execute [] db = some db := rfl

@[simp] theorem execute_cons {statement : Statement} {rest : List Statement} {db db' : Db} :
    execute (statement :: rest) db = some db' ↔
      ∃ mid, statement.run db = some mid ∧ execute rest mid = some db' := by
  simp [execute, Option.bind_eq_some_iff]

theorem execute_append {first second : List Statement} {db db' : Db} :
    execute (first ++ second) db = some db' ↔
      ∃ mid, execute first db = some mid ∧ execute second mid = some db' := by
  simp [execute, List.foldlM_append, Option.bind_eq_some_iff]

/-- What every statement of a transaction preserves, the transaction preserves. -/
theorem execute_induction {p : Db → Prop} {statements : List Statement} {db db' : Db} (h : p db)
    (hstep : ∀ statement ∈ statements, ∀ before after, p before →
      statement.Effect before after → p after)
    (hexecute : execute statements db = some db') : p db' := by
  induction statements generalizing db with
  | nil => exact Option.some.inj hexecute ▸ h
  | cons statement rest ih =>
      obtain ⟨mid, hrun, hrest⟩ := execute_cons.1 hexecute
      have hmid : p mid :=
        hstep statement List.mem_cons_self db mid h (Statement.effect_of_run hrun)
      exact ih hmid (fun other hother => hstep other (List.mem_cons_of_mem _ hother)) hrest

end AbrChin.TopUp
