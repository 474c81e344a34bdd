import AbrChin.Accounting.Accounts
import AbrChin.Js.Json
import AbrChin.Lib.Index
import AbrChin.Lib.Versions

/-!
# The accounting journal

`lib/accounting/journal.ts`.  An entry has one key and a list of lines, and may say which
other entry it reverses.  The key and the reversed entry are unique columns, and the reversed
entry is a reference.

Both operations take an advisory lock on the key before they look it up, so that this read is
one of the current version.  A constraint that refuses the insert of a transaction aborts it:
the lookup in the `catch` branch of `postJournalEntryTx` fails, and the call throws.
-/

namespace AbrChin.Accounting

open Lib Js

inductive AccountingQuality where
  | final
  | estimated
  | needsReconciliation
  | reversed
  deriving DecidableEq

inductive AccountingJournalStatus where
  | pending
  | posted
  | reversed
  deriving DecidableEq

structure JournalLine where
  accountCode : String
  debitRial : ℤ
  creditRial : ℤ
  description : Option String
  metadata : Option Json
  sortOrder : ℕ

structure JournalEntry where
  id : String
  eventType : String
  referenceType : String
  referenceId : String
  idempotencyKey : String
  occurredAt : ℤ
  status : AccountingJournalStatus
  quality : AccountingQuality
  metadata : Option Json
  postedAt : ℤ
  reversesEntryId : Option String
  actorUserId : Option String
  lines : List JournalLine

/-- What the replay check compares of a line. -/
def JournalLine.amounts (line : JournalLine) : String × ℤ × ℤ :=
  (line.accountCode, line.debitRial, line.creditRial)

/-- `[...lines].sort((a, b) => a.sortOrder - b.sortOrder)`. -/
def sortLines (lines : List JournalLine) : List JournalLine :=
  lines.insertionSort fun first second => first.sortOrder ≤ second.sortOrder

/-- The unique columns of `AccountingJournalEntry`. -/
def JournalEntry.indexes : List (JournalEntry → Option String) :=
  [fun entry => some entry.idempotencyKey, (·.reversesEntryId)]

/-- The table `AccountingJournalEntry`, each entry with its lines. -/
abbrev Journal := IndexedTable JournalEntry.id JournalEntry.indexes

/-- The entry with a given idempotency key. -/
def byKey (journal : Journal) (key : String) : Option JournalEntry :=
  journal.rows.find? fun entry => entry.idempotencyKey = key

/-- The entry that reverses a given one: `reversedByEntry`. -/
def reversalOf (journal : Journal) (id : String) : Option JournalEntry :=
  journal.rows.find? fun entry => entry.reversesEntryId = some id

/-! ## Errors -/

inductive JournalError where
  | accounting (code message : String)
  | unknownAccountCode (value : String)
  | idempotencyConflict
  | purchaseJournalMissing (orderId : String)
  /-- A constraint of the table refuses a write. -/
  | constraint
  deriving DecidableEq

/-! ## Lines -/

structure JournalLineInput where
  accountCode : String
  debitRial : ℤ
  creditRial : ℤ
  description : Option String := none
  metadata : Option Json := none

def assertAccountCode (value : String) : Except JournalError String :=
  match isAccountCode value with
  | some _ => .ok value
  | none => .error (.unknownAccountCode value)

def assertMoneyNonNegative (value : ℤ) (field : String) : Except JournalError Unit :=
  throwIf (value < 0)
    (.accounting "negative_amount" s!"{field} must be a non-negative integer rial amount")

/-- The callback of `lines.map` in `validateLines`. -/
def normalizeLine (index : ℕ) (line : JournalLineInput) : Except JournalError JournalLine := do
  let accountCode ← assertAccountCode line.accountCode
  assertMoneyNonNegative line.debitRial s!"lines[{index}].debitRial"
  assertMoneyNonNegative line.creditRial s!"lines[{index}].creditRial"
  throwIf (line.debitRial = 0 ∧ line.creditRial = 0)
    (.accounting "zero_line" s!"lines[{index}] must have debit or credit")
  throwIf (0 < line.debitRial ∧ 0 < line.creditRial)
    (.accounting "mixed_line" s!"lines[{index}] cannot debit and credit together")
  pure {
    accountCode
    debitRial := line.debitRial
    creditRial := line.creditRial
    description := (line.description.map trim).filter (· ≠ "")
    metadata := line.metadata
    sortOrder := index }

/-- `lines.map`, from a given index on. -/
def normalizeLines (index : ℕ) : List JournalLineInput → Except JournalError (List JournalLine)
  | [] => .ok []
  | line :: rest => do
      let normalized ← normalizeLine index line
      let others ← normalizeLines (index + 1) rest
      pure (normalized :: others)

def debitTotal (lines : List JournalLine) : ℤ := (lines.map JournalLine.debitRial).sum

def creditTotal (lines : List JournalLine) : ℤ := (lines.map JournalLine.creditRial).sum

def validateLines (lines : List JournalLineInput) : Except JournalError (List JournalLine) := do
  throwIf (lines.length = 0) (.accounting "empty_lines" "Journal entry requires lines")
  let normalized ← normalizeLines 0 lines
  throwIf (debitTotal normalized ≠ creditTotal normalized) (.accounting "unbalanced"
    s!"Unbalanced journal: debit={debitTotal normalized} credit={creditTotal normalized}")
  throwIf (debitTotal normalized = 0)
    (.accounting "zero_entry" "Journal totals cannot be zero")
  pure normalized

/-! ## Posting -/

structure PostJournalEntryInput where
  eventType : String
  referenceType : String
  referenceId : String
  idempotencyKey : String
  occurredAt : ℤ
  lines : List JournalLineInput
  quality : Option AccountingQuality := none
  metadata : Option Json := none
  actorUserId : Option String := none
  reversesEntryId : Option String := none

def assertReplayMatch (existing : JournalEntry) (input : PostJournalEntryInput)
    (normalized : List JournalLine) : Except JournalError Unit := do
  throwIf (existing.eventType ≠ input.eventType ∨
    existing.referenceType ≠ input.referenceType ∨
    existing.referenceId ≠ input.referenceId ∨
    existing.quality ≠ input.quality.getD .final ∨
    (existing.metadata.getD .null).stableJson ≠ (input.metadata.getD .null).stableJson)
    .idempotencyConflict
  throwIf (existing.lines.length ≠ normalized.length) .idempotencyConflict
  throwIf ((sortLines existing.lines).map JournalLine.amounts ≠
    normalized.map JournalLine.amounts) .idempotencyConflict

/-- The row that a post creates. -/
def PostJournalEntryInput.entry (input : PostJournalEntryInput) (normalized : List JournalLine)
    (id : String) (now : ℤ) : JournalEntry where
  id := id
  eventType := input.eventType
  referenceType := input.referenceType
  referenceId := input.referenceId
  idempotencyKey := trim input.idempotencyKey
  occurredAt := input.occurredAt
  status := .posted
  quality := input.quality.getD .final
  metadata := input.metadata
  postedAt := now
  reversesEntryId := input.reversesEntryId
  actorUserId := input.actorUserId
  lines := normalized

/-- `accountingJournalEntry.create`: the entry it reverses has to be there. -/
def createEntry (entry : JournalEntry) (journal : Journal) : Option Journal :=
  if entry.reversesEntryId.all fun id => id = entry.id || (journal.find? id).isSome then
    journal.insert? entry
  else none

/-- `postJournalEntry`; `id` and `now` are what the database gives the new row. -/
def postJournalEntryTx (input : PostJournalEntryInput) (id : String) (now : ℤ) :
    Tx Journal JournalError JournalEntry := do
  let key := trim input.idempotencyKey
  Tx.throwIf (key = "") (.accounting "missing_idempotency_key" "idempotencyKey required")
  let normalized ← Tx.ofExcept (validateLines input.lines)
  let journal ← Tx.get
  match byKey journal key with
  | some existing => do
      Tx.ofExcept (assertReplayMatch existing input normalized)
      pure existing
  | none => do
      Tx.attempt .constraint (createEntry (input.entry normalized id now))
      pure (input.entry normalized id now)

/-! ## Reversing -/

structure ReverseJournalEntryInput where
  journalEntryId : String
  idempotencyKey : String
  actorUserId : Option String := none
  reason : Option String := none

/-- An entry that has been reversed. -/
def JournalEntry.markReversed (entry : JournalEntry) : JournalEntry :=
  { entry with status := .reversed, quality := .reversed }

/-- A line with debit and credit exchanged. -/
def JournalLine.reversing (line : JournalLine) : JournalLineInput where
  accountCode := line.accountCode
  debitRial := line.creditRial
  creditRial := line.debitRial
  description := some (if line.description.getD "" = "" then "برگشت سند حسابداری"
    else "برگشت: " ++ line.description.getD "")
  metadata := line.metadata

/-- What `reverseJournalEntryTx` posts. -/
def JournalEntry.reversal (original : JournalEntry) (input : ReverseJournalEntryInput)
    (now : ℤ) : PostJournalEntryInput where
  eventType := original.eventType ++ ":reversal"
  referenceType := original.referenceType
  referenceId := original.referenceId
  idempotencyKey := trim input.idempotencyKey
  occurredAt := now
  quality := some .final
  actorUserId := input.actorUserId
  reversesEntryId := some original.id
  metadata := some (.object [("reversesEntryId", .string original.id),
    ("reason", (input.reason.map Json.string).getD .null),
    ("originalEventType", .string original.eventType)])
  lines := (sortLines original.lines).map JournalLine.reversing

/-- Mark the row with a given id as reversed; `p` is the rest of the `where` clause. -/
def updateReversed (id : String) (p : JournalEntry → Bool) (journal : Journal) : Option Journal :=
  journal.updateIf? id p JournalEntry.markReversed fun _ => rfl

/-- `reverseJournalEntry`.  The original, and the entry that reverses it, are read without a
lock: `seen` is the version that these reads saw. -/
def reverseJournalEntryTx (input : ReverseJournalEntryInput) (seen : ℕ → Journal) (id : String)
    (now : ℤ) : Tx Journal JournalError JournalEntry := do
  let key := trim input.idempotencyKey
  Tx.throwIf (key = "") (.accounting "missing_idempotency_key" "idempotencyKey required")
  let journal ← Tx.get
  match byKey journal key with
  | some existingReversal => do
      Tx.throwIf (existingReversal.reversesEntryId.any fun reversed =>
        reversed ≠ "" && reversed ≠ input.journalEntryId) .idempotencyConflict
      if existingReversal.reversesEntryId = some input.journalEntryId then
        -- `updateMany` changes no row when the entry is not POSTED any more
        Tx.modify fun journal =>
          (updateReversed input.journalEntryId (·.status = .posted) journal).getD journal
      pure existingReversal
  | none => do
      let original ← Tx.orThrow (.accounting "not_found" "Journal entry not found")
        ((seen 0).find? input.journalEntryId)
      if original.status = .reversed then
        let reversedByEntry ← Tx.orThrow
          (.accounting "already_reversed" "Journal entry already reversed")
          (reversalOf (seen 1) original.id)
        Tx.orThrow .constraint (journal.find? reversedByEntry.id)
      else do
        Tx.throwIf (original.status ≠ .posted)
          (.accounting "not_posted" "Only POSTED journal entries can be reversed")
        let reversal ← postJournalEntryTx (original.reversal input now) id now
        Tx.attempt .constraint (updateReversed original.id fun _ => true)
        pure reversal

/-! ## Runs of calls -/

/-- A call of `postJournalEntry` or `reverseJournalEntry`. -/
inductive Operation where
  | post (input : PostJournalEntryInput) (id : String) (now : ℤ)
  | reverse (input : ReverseJournalEntryInput) (id : String) (now : ℤ)

/-- The transaction of a call. -/
def Operation.tx : Operation → (ℕ → Journal) → Tx Journal JournalError JournalEntry
  | post input id now, _ => postJournalEntryTx input id now
  | reverse input id now, seen => reverseJournalEntryTx input seen id now

/-- One call on a journal with its versions. -/
def stepJournal : Versions Journal → Versions.Call Operation →
    Versions Journal × Except JournalError JournalEntry :=
  Versions.step Operation.tx

end AbrChin.Accounting
