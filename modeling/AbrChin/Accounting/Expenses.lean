import AbrChin.Accounting.Journal

/-!
# Operating expenses

`createDraftExpense`, `postExpense` and `reverseExpense` of `lib/accounting/expenses.ts`, with the
journal entries of `lib/accounting/posting.ts` that belong to them.

The transactions run at READ COMMITTED.  The row of an expense is read without a lock; `seen` is the
version that such a read saw.  The lookup of a post is made under a lock on its key, which keeps
others from creating the entry but not from reversing it, so that it too is a read of an earlier
version.  Audit records without a key are left out.
-/

namespace AbrChin.Accounting

open Lib Js

/-! ## Rows -/

inductive OperatingExpenseCategory where
  | gatewayFees
  | smsExpense
  | supportOperations
  | hostingOperations
  | marketingExpense
  | payrollContractor
  | otherOperatingExpense
  deriving DecidableEq

/-- `CATEGORY_TO_ACCOUNT` -/
def categoryToAccount : OperatingExpenseCategory → String
  | .gatewayFees => "GATEWAY_FEES"
  | .smsExpense => "SMS_EXPENSE"
  | .supportOperations => "SUPPORT_OPERATIONS"
  | .hostingOperations => "HOSTING_OPERATIONS"
  | .marketingExpense => "MARKETING_EXPENSE"
  | .payrollContractor => "PAYROLL_CONTRACTOR"
  | .otherOperatingExpense => "OTHER_OPERATING_EXPENSE"

inductive OperatingExpenseStatus where
  | draft
  | posted
  | reversed
  deriving DecidableEq

/-- The text of a status. -/
def OperatingExpenseStatus.text : OperatingExpenseStatus → String
  | .draft => "DRAFT"
  | .posted => "POSTED"
  | .reversed => "REVERSED"

structure OperatingExpense where
  id : String
  date : ℤ
  amountRial : ℤ
  category : OperatingExpenseCategory
  title : String
  description : Option String
  vendor : Option String
  reference : Option String
  notes : Option String
  status : OperatingExpenseStatus
  createdById : String
  postedById : Option String
  reversedById : Option String
  postedAt : Option ℤ
  reversedAt : Option ℤ
  journalEntryId : Option String
  reversalReason : Option String
  idempotencyKey : Option String
  deriving DecidableEq

/-- The unique columns of `OperatingExpense`. -/
def OperatingExpense.indexes : List (OperatingExpense → Option String) :=
  [(·.journalEntryId), (·.idempotencyKey)]

/-- An audit record with a key. -/
structure AuditLog where
  idempotencyKey : String
  actorUserId : String
  action : String
  entityType : String
  entityId : String
  beforeData : Json
  afterData : Json

structure ExpenseDb where
  expenses : IndexedTable OperatingExpense.id OperatingExpense.indexes
  journal : Journal
  audits : Table AuditLog.idempotencyKey

inductive ExpenseError where
  | operatingExpense (code : String)
  | journal (error : JournalError)
  | idempotencyConflict
  | journalMissing (expenseId : String)
  /-- A row that has to be there is not. -/
  | notFound
  /-- A constraint of a table refuses a write. -/
  | constraint
  deriving DecidableEq

/-- Run a statement on the journal. -/
def onJournal {α : Type} (body : Tx Journal JournalError α) : Tx ExpenseDb ExpenseError α :=
  (body.zoom ExpenseDb.journal fun db journal => { db with journal }).mapError .journal

/-! ## `writeAuditLog` -/

/-- A record that is written again. -/
def AuditLog.replays (existing row : AuditLog) : Bool :=
  existing.actorUserId = row.actorUserId && existing.action = row.action &&
    existing.entityType = row.entityType && existing.entityId = row.entityId &&
    existing.beforeData.stableJson = row.beforeData.stableJson &&
    existing.afterData.stableJson = row.afterData.stableJson

/-- A record whose key is free or taken by itself; a record without a key is not written here. -/
def auditAllowed (db : ExpenseDb) (row : AuditLog) : Bool :=
  row.idempotencyKey = "" || (db.audits.find? row.idempotencyKey).all (·.replays row)

/-- The key is locked before the lookup. -/
def writeAuditLog (row : AuditLog) : Tx ExpenseDb ExpenseError Unit := do
  let db ← Tx.get
  Tx.throwIf (auditAllowed db row = false) .idempotencyConflict
  if row.idempotencyKey = "" ∨ (db.audits.find? row.idempotencyKey).isSome = true then pure ()
  else Tx.attempt .constraint fun db =>
    (db.audits.insert? row).map ({ db with audits := · })

/-! ## `createDraftExpense` -/

/-- `assertManualCategory`; `AUTOMATIC_PROVIDER_COGS_CODES` are no accounts of a category. -/
def assertManualCategory (category : OperatingExpenseCategory) : Except ExpenseError String := do
  let account := categoryToAccount category
  throwIf (account ∈ ["PROVIDER_INFRASTRUCTURE_COGS", "PROVIDER_ADDON_COGS"])
    (.operatingExpense "provider_cogs_not_allowed")
  pure account

structure CreateDraftExpense where
  date : ℤ
  amountRial : ℤ
  category : OperatingExpenseCategory
  title : String
  description : Option String
  vendor : Option String
  reference : Option String
  notes : Option String
  actorUserId : String
  idempotencyKey : Option String
  newId : String

/-- `text?.trim() || null` -/
def trimmed (text : Option String) : Option String := (text.map trim).filter (· ≠ "")

/-- A text that is too long. -/
def tooLong (text : Option String) (limit : ℕ) : Bool := text.any (limit < length ·)

/-- The row of a draft. -/
def CreateDraftExpense.row (input : CreateDraftExpense) : OperatingExpense where
  id := input.newId
  date := input.date
  amountRial := input.amountRial
  category := input.category
  title := trim input.title
  description := trimmed input.description
  vendor := trimmed input.vendor
  reference := trimmed input.reference
  notes := trimmed input.notes
  status := .draft
  createdById := input.actorUserId
  postedById := none
  reversedById := none
  postedAt := none
  reversedAt := none
  journalEntryId := none
  reversalReason := none
  idempotencyKey := trimmed input.idempotencyKey

/-- The checks before the transaction. -/
def CreateDraftExpense.check (input : CreateDraftExpense) : Except ExpenseError Unit := do
  throwIf (input.amountRial ≤ 0) (.operatingExpense "invalid_amount")
  let _ ← assertManualCategory input.category
  throwIf (length input.row.title < 2) (.operatingExpense "invalid_title")
  throwIf (200 < length input.row.title) (.operatingExpense "invalid_title")
  throwIf (tooLong input.row.description 2000 = true) (.operatingExpense "invalid_description")
  throwIf (tooLong input.row.vendor 200 = true) (.operatingExpense "invalid_vendor")
  throwIf (tooLong input.row.reference 200 = true) (.operatingExpense "invalid_reference")
  throwIf (tooLong input.row.notes 2000 = true) (.operatingExpense "invalid_notes")

/-- A text, or `null`. -/
def textOrNull (text : Option String) : Json := (text.map Json.string).getD .null

/-- The text whose hash is the fingerprint of a draft; the date as its number. -/
def CreateDraftExpense.requestFingerprint (input : CreateDraftExpense) : String :=
  (Json.object [("date", .string s!"{input.date}"), ("amountRial", .string s!"{input.amountRial}"),
    ("category", .string (categoryToAccount input.category)), ("title", .string input.row.title),
    ("description", textOrNull input.row.description), ("vendor", textOrNull input.row.vendor),
    ("reference", textOrNull input.row.reference),
    ("notes", textOrNull input.row.notes)]).stableJson

def draftAuditKey (key : String) : String := "opex-draft:" ++ key

/-- The record of a draft; one without a key is not looked up. -/
def CreateDraftExpense.audit (input : CreateDraftExpense) : AuditLog where
  idempotencyKey := (input.row.idempotencyKey.map draftAuditKey).getD ""
  actorUserId := input.actorUserId
  action := "operating_expense_draft_created"
  entityType := "operating_expense"
  entityId := input.newId
  beforeData := .object [("requestFingerprint", .string input.requestFingerprint)]
  afterData := .object [("id", .string input.newId), ("amountRial", .string s!"{input.amountRial}"),
    ("category", .string (categoryToAccount input.category)), ("title", .string input.row.title),
    ("status", .string "DRAFT")]

/-- The expense with a given key. -/
def ExpenseDb.withKey (db : ExpenseDb) (key : Option String) : Option OperatingExpense :=
  key.bind fun key => db.expenses.rows.find? (·.idempotencyKey = some key)

/-- The fingerprint of the draft that was recorded under a key. -/
def ExpenseDb.draftFingerprint (db : ExpenseDb) (key : Option String) : String :=
  match ((key.bind fun key => db.audits.find? (draftAuditKey key)).map
      AuditLog.beforeData).bind (Json.field "requestFingerprint") with
  | some (.string fingerprint) => fingerprint
  | _ => ""

/-- A write that a unique column refuses aborts the transaction, with the lookup of the handler. -/
def createDraftExpense (input : CreateDraftExpense) :
    Tx ExpenseDb ExpenseError OperatingExpense := do
  Tx.ofExcept input.check
  let db ← Tx.get
  match db.withKey input.row.idempotencyKey with
  | some existing => do
      Tx.throwIf (db.draftFingerprint input.row.idempotencyKey ≠ "" ∧
        db.draftFingerprint input.row.idempotencyKey ≠ input.requestFingerprint)
        .idempotencyConflict
      pure existing
  | none => do
      Tx.attempt .constraint fun db =>
        (db.expenses.insert? input.row).map ({ db with expenses := · })
      writeAuditLog input.audit
      pure input.row

/-! ## `postExpense` -/

def postedKey (expenseId : String) : String := "manual-expense:" ++ expenseId ++ ":posted:v1"

def reversedKey (expenseId : String) : String := "manual-expense:" ++ expenseId ++ ":reversed:v1"

/-- The entry of an expense. -/
def manualExpense (expense : OperatingExpense) (account : String) : PostJournalEntryInput where
  eventType := "manual_expense_posted"
  referenceType := "operating_expense"
  referenceId := expense.id
  idempotencyKey := postedKey expense.id
  occurredAt := expense.date
  quality := some .final
  metadata := some (.object [("category", .string account), ("title", .string expense.title),
    ("amountRial", .string s!"{expense.amountRial}")])
  lines := [⟨account, expense.amountRial, 0, some expense.title, none⟩,
    ⟨"CASH_GATEWAY", 0, expense.amountRial, some "پرداخت هزینه عملیاتی", none⟩]

/-- `postJournalEntryTx` when its lookup saw `seen`: what it has found is compared as it was, and
what it has not found is not there yet. -/
def postJournalEntrySeen (input : PostJournalEntryInput) (seen : Journal) (id : String) (now : ℤ) :
    Tx Journal JournalError JournalEntry := do
  let key := trim input.idempotencyKey
  Tx.throwIf (key = "") (.accounting "missing_idempotency_key" "idempotencyKey required")
  let normalized ← Tx.ofExcept (validateLines input.lines)
  match byKey seen key with
  | some existing => do
      Tx.ofExcept (assertReplayMatch existing input normalized)
      pure existing
  | none => do
      Tx.attempt .constraint (createEntry (input.entry normalized id now))
      pure (input.entry normalized id now)

structure PostExpense where
  expenseId : String
  actorUserId : String
  idempotencyKey : Option String
  now : ℤ
  newId : String

/-- An expense that has been posted. -/
def OperatingExpense.post (input : PostExpense) (journalEntryId : String)
    (expense : OperatingExpense) : OperatingExpense :=
  { expense with
    status := .posted
    postedById := some input.actorUserId
    postedAt := some input.now
    journalEntryId := some journalEntryId }

/-- `operatingExpense.update` -/
def updateExpense (id : String) (f : OperatingExpense → OperatingExpense)
    (hf : ∀ row, (f row).id = row.id) : Tx ExpenseDb ExpenseError OperatingExpense := do
  Tx.attempt .constraint fun db =>
    (db.expenses.updateIf? id (fun _ => true) f hf).map ({ db with expenses := · })
  let db ← Tx.get
  Tx.orThrow .notFound (db.expenses.find? id)

/-- The record of a post: the row as it was read, and as it is now. -/
def PostExpense.audit (input : PostExpense) (expense : OperatingExpense) (journalEntryId : String) :
    AuditLog where
  idempotencyKey := input.idempotencyKey.getD ("audit:opex-post:" ++ expense.id)
  actorUserId := input.actorUserId
  action := "operating_expense_posted"
  entityType := "operating_expense"
  entityId := expense.id
  beforeData := .object [("status", .string expense.status.text),
    ("amountRial", .string s!"{expense.amountRial}")]
  afterData := .object [("status", .string "POSTED"), ("journalEntryId", .string journalEntryId),
    ("amountRial", .string s!"{expense.amountRial}"),
    ("category", .string (categoryToAccount expense.category)), ("quality", .string "FINAL")]

def postExpense (input : PostExpense) (seen : ℕ → ExpenseDb) :
    Tx ExpenseDb ExpenseError OperatingExpense := do
  let expense ← Tx.orThrow .notFound ((seen 0).expenses.find? input.expenseId)
  match expense.status with
  | .posted => pure expense
  | .reversed => Tx.throw (.operatingExpense "already_reversed")
  | .draft => do
      let account ← Tx.ofExcept (assertManualCategory expense.category)
      let journal ← onJournal (postJournalEntrySeen (manualExpense expense account)
        (seen 1).journal input.newId input.now)
      let posted ← updateExpense expense.id (OperatingExpense.post input journal.id) fun _ => rfl
      writeAuditLog (input.audit expense journal.id)
      pure posted

/-! ## `reverseExpense` -/

structure ReverseExpense where
  expenseId : String
  actorUserId : String
  reason : String
  idempotencyKey : Option String
  now : ℤ
  newId : String

/-- An expense that has been reversed. -/
def OperatingExpense.reverse (input : ReverseExpense) (expense : OperatingExpense) :
    OperatingExpense :=
  { expense with
    status := .reversed
    reversedById := some input.actorUserId
    reversedAt := some input.now
    reversalReason := some (trim input.reason) }

/-- What a reversal asks `reverseJournalEntry` for. -/
def manualExpenseReversal (expenseId journalEntryId : String) : ReverseJournalEntryInput where
  journalEntryId
  idempotencyKey := reversedKey expenseId
  reason := some "manual_expense_reversed"

/-- The entry that is reversed: the one that the expense names, or that has its key. -/
def postedEntry (expense : OperatingExpense) (seen : Journal) : Except ExpenseError String :=
  match expense.journalEntryId.filter (· ≠ "") with
  | some journalEntryId => .ok journalEntryId
  | none =>
      ((byKey seen (postedKey expense.id)).map JournalEntry.id).elim
        (.error (.journalMissing expense.id)) .ok

/-- The record of a reversal. -/
def ReverseExpense.audit (input : ReverseExpense) (expense : OperatingExpense) : AuditLog where
  idempotencyKey := input.idempotencyKey.getD ("audit:opex-reverse:" ++ expense.id)
  actorUserId := input.actorUserId
  action := "operating_expense_reversed"
  entityType := "operating_expense"
  entityId := expense.id
  beforeData := .object [("status", .string expense.status.text),
    ("journalEntryId", textOrNull expense.journalEntryId)]
  afterData := .object [("status", .string "REVERSED"), ("reason", .string (trim input.reason))]

def reverseExpense (input : ReverseExpense) (seen : ℕ → ExpenseDb) :
    Tx ExpenseDb ExpenseError OperatingExpense := do
  Tx.throwIf (length (trim input.reason) < 3) (.operatingExpense "invalid_reason")
  let expense ← Tx.orThrow .notFound ((seen 0).expenses.find? input.expenseId)
  match expense.status with
  | .reversed => pure expense
  | .draft => Tx.throw (.operatingExpense "not_posted")
  | .posted => do
      let journalEntryId ← Tx.ofExcept (postedEntry expense (seen 1).journal)
      let _ ← onJournal (reverseJournalEntryTx (manualExpenseReversal expense.id journalEntryId)
        (fun place => (seen (place + 2)).journal) input.newId input.now)
      let reversed ← updateExpense expense.id (OperatingExpense.reverse input) fun _ => rfl
      writeAuditLog (input.audit expense)
      pure reversed

/-! ## Runs of calls -/

inductive ExpenseCall where
  | createDraft (input : CreateDraftExpense)
  | post (input : PostExpense)
  | reverse (input : ReverseExpense)

/-- The transaction of a call. -/
def ExpenseCall.tx : ExpenseCall → (ℕ → ExpenseDb) → Tx ExpenseDb ExpenseError OperatingExpense
  | .createDraft input, _ => createDraftExpense input
  | .post input, seen => postExpense input seen
  | .reverse input, seen => reverseExpense input seen

/-- One call on the expenses with their versions. -/
def stepExpense : Versions ExpenseDb → Versions.Call ExpenseCall →
    Versions ExpenseDb × Except ExpenseError OperatingExpense :=
  Versions.step ExpenseCall.tx

end AbrChin.Accounting
