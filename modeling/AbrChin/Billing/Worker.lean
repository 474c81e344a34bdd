import AbrChin.Billing.Draft
import AbrChin.Wallet.Writers

/-!
# The billing worker

`lib/billing/worker.ts`: one transaction settles a closed period for every policy
snapshot of a cadence that is in force in it, and another one records that this has
failed.  Both are SERIALIZABLE and take an advisory lock on the period first.  The
snapshot of a transaction may be taken before the lock is granted, and then the row
of the run, which another worker has written meanwhile, makes it fail; so what
commits has acted on the current tables.  A worker that crashes, or whose attempt is
aborted and retried, leaves no trace before it commits.

Reconciliations, notifications, dunning cases and outstanding balances are left out,
as is the time at which an invoice is finalized: nothing here reads them.
-/

namespace AbrChin.Billing

open Lib Wallet

/-! ## Tables -/

inductive BillingRunStatus where
  | running
  | completed
  | partially
  | failed
  deriving DecidableEq

inductive BillingInvoiceStatus where
  | calculating
  | paid
  | partiallyPaid
  | unpaid
  | underReview
  | void
  deriving DecidableEq

/-- `SETTLED_INVOICE_STATUSES` -/
def BillingInvoiceStatus.settled : BillingInvoiceStatus → Bool
  | .paid | .partiallyPaid | .unpaid => true
  | .calculating | .underReview | .void => false

/-- `TERMINAL_BILLING_RUN_STATUSES` -/
def BillingRunStatus.terminal : BillingRunStatus → Bool
  | .completed | .partially => true
  | .running | .failed => false

/-- The period that a run is for; its idempotency key. -/
structure RunKey where
  cadence : BillingCadence
  period : Period
  deriving DecidableEq

structure BillingRun where
  id : String
  key : RunKey
  status : BillingRunStatus
  workerId : String
  invoiceCount : ℕ
  reviewCount : ℕ
  failureCode : Option String
  deriving DecidableEq

/-- What an invoice is for; its unique columns. -/
structure InvoiceScope where
  cloudInstanceId : String
  period : Period
  billingPolicySnapshotId : String
  deriving DecidableEq

structure BillingInvoice where
  id : String
  billingRunId : String
  userId : String
  walletId : String
  scope : InvoiceScope
  cadence : BillingCadence
  status : BillingInvoiceStatus
  totalAmountRial : ℤ
  paidAmountRial : ℤ
  outstandingAmountRial : ℤ
  reviewReason : Option String
  deriving DecidableEq

/-- The idempotency key of a line. -/
structure LineKey where
  cloudInstanceId : String
  billingPolicySnapshotId : String
  resourceVersionId : String
  rateCardVersionId : String
  intervalStart : ℤ
  intervalEnd : ℤ
  deriving DecidableEq

structure BillingLine extends LineDraft where
  billingInvoiceId : String
  idempotencyKey : LineKey
  deriving DecidableEq

structure BillingDb where
  timeline : Timeline
  books : Books
  runs : Table BillingRun.key
  invoices : IndexedTable BillingInvoice.scope [fun row => some row.id]
  lines : List BillingLine

/-! ## Statements -/

/-- Run a statement on the wallets and their ledger. -/
def onBooks {α : Type} (body : Tx Books String α) : Tx BillingDb String α :=
  body.zoom BillingDb.books fun db books => { db with books }

/-- `billingRun.create` -/
def createRun (run : BillingRun) : Tx BillingDb String Unit :=
  Tx.attempt "P2002" fun db => (db.runs.insert? run).map ({ db with runs := · })

/-- `billingRun.update` -/
def updateRun (key : RunKey) (f : BillingRun → BillingRun) (hf : ∀ row, (f row).key = row.key) :
    Tx BillingDb String Unit :=
  Tx.modify fun db => { db with runs := db.runs.modify key f hf }

/-- What an upsert changes of an invoice that is there. -/
def BillingInvoice.reopen (runId : String) (status : BillingInvoiceStatus)
    (reviewReason : Option String) (row : BillingInvoice) : BillingInvoice :=
  { row with billingRunId := runId, status, reviewReason }

/-- `billingInvoice.upsert`: the invoice of a scope, created if it is not there. -/
def upsertInvoice (create : BillingInvoice) : Tx BillingDb String BillingInvoice := do
  let db ← Tx.get
  match db.invoices.find? create.scope with
  | some existing => do
      Tx.attempt "P2002" fun db =>
        (db.invoices.modify? create.scope
          (·.reopen create.billingRunId create.status create.reviewReason) fun _ => rfl).map
          ({ db with invoices := · })
      pure (existing.reopen create.billingRunId create.status create.reviewReason)
  | none => do
      Tx.attempt "P2002" fun db => (db.invoices.insert? create).map ({ db with invoices := · })
      pure create

/-- `billingLine.deleteMany` and `billingLine.create` for each line. -/
def replaceLines (invoiceId : String) (lines : List BillingLine) : Tx BillingDb String Unit :=
  Tx.attempt "P2002" fun db =>
    let lines := (db.lines.filter fun line => line.billingInvoiceId ≠ invoiceId) ++ lines
    if (lines.map BillingLine.idempotencyKey).Nodup then some { db with lines } else none

/-- The amounts and the status of a settled invoice. -/
def BillingInvoice.settle (totalAmountRial paidAmountRial : ℤ) (row : BillingInvoice) :
    BillingInvoice :=
  let outstandingAmountRial := totalAmountRial - paidAmountRial
  { row with
    status :=
      if outstandingAmountRial = 0 then .paid
      else if 0 < paidAmountRial then .partiallyPaid
      else .unpaid
    totalAmountRial
    paidAmountRial
    outstandingAmountRial
    reviewReason := none }

theorem BillingInvoice.scope_settle (totalAmountRial paidAmountRial : ℤ) (row : BillingInvoice) :
    (row.settle totalAmountRial paidAmountRial).scope = row.scope := rfl

/-- `billingInvoice.update` with the amounts. -/
def finishInvoice (scope : InvoiceScope) (totalAmountRial paidAmountRial : ℤ) :
    Tx BillingDb String Unit :=
  Tx.attempt "P2002" fun db =>
    (db.invoices.modify? scope (·.settle totalAmountRial paidAmountRial)
      (BillingInvoice.scope_settle _ _)).map ({ db with invoices := · })

/-! ## `processSnapshot` -/

structure BillingPeriod where
  cadence : BillingCadence
  period : Period
  workerId : String
  now : ℤ
  /-- The id of a run that is created. -/
  runId : String
  /-- The id of the rows that are created for a policy snapshot. -/
  newId : String → String

def BillingPeriod.key (input : BillingPeriod) : RunKey := ⟨input.cadence, input.period⟩

def BillingPeriod.scope (input : BillingPeriod) (snapshot : PolicySnapshot) : InvoiceScope :=
  ⟨snapshot.cloudInstanceId, input.period, snapshot.id⟩

/-- The invoice that a run creates for a snapshot. -/
def BillingPeriod.invoice (input : BillingPeriod) (runId : String) (snapshot : PolicySnapshot)
    (userId walletId : String) (status : BillingInvoiceStatus) (reviewReason : Option String) :
    BillingInvoice where
  id := input.newId snapshot.id
  billingRunId := runId
  userId
  walletId
  scope := input.scope snapshot
  cadence := input.cadence
  status
  totalAmountRial := 0
  paidAmountRial := 0
  outstandingAmountRial := 0
  reviewReason

def billingLine (snapshot : PolicySnapshot) (invoiceId : String) (draft : LineDraft) :
    BillingLine where
  toLineDraft := draft
  billingInvoiceId := invoiceId
  idempotencyKey := ⟨snapshot.cloudInstanceId, snapshot.id, draft.resourceVersionId,
    draft.rateCardVersionId, draft.intervalStart, draft.intervalEnd⟩

structure SnapshotResult where
  invoiced : Bool
  review : Bool
  deriving DecidableEq

def markInvoiceForReview (input : BillingPeriod) (runId : String) (snapshot : PolicySnapshot)
    (userId walletId : String) (review : InvoiceReview) : Tx BillingDb String BillingInvoice :=
  upsertInvoice (input.invoice runId snapshot userId walletId .underReview (some review.reason))

/-- Write the invoice and its lines, and take from the wallet what it covers. -/
def settleDrafts (input : BillingPeriod) (runId : String) (snapshot : PolicySnapshot)
    (userId walletId : String) (drafts : List LineDraft) : Tx BillingDb String Unit := do
  let invoice ← upsertInvoice
    (input.invoice runId snapshot userId walletId .calculating none)
  replaceLines invoice.id (drafts.map (billingLine snapshot invoice.id))
  let totalAmountRial := totalOf drafts
  let newId := input.newId snapshot.id
  let paidAmountRial ← onBooks
    (settleInvoice ⟨invoice.id, userId, totalAmountRial, ⟨newId, newId, newId⟩⟩ walletId)
  finishInvoice (input.scope snapshot) totalAmountRial paidAmountRial

/-- Settle one snapshot; the wallet of its user is the one that the run has seen. -/
def processSnapshot (input : BillingPeriod) (runId : String) (seen : Books)
    (snapshot : PolicySnapshot) : Tx BillingDb String SnapshotResult := do
  let db ← Tx.get
  let cloud ← Tx.orThrow "P2025"
    (db.timeline.instances.find? fun row => row.id = snapshot.cloudInstanceId)
  let wallet ← onBooks
    (Books.ensureWalletForUser seen cloud.userId (input.newId snapshot.id))
  let target := targetOf snapshot input.period
  if target.stop ≤ target.start then pure ⟨false, false⟩
  else if (db.invoices.find? (input.scope snapshot)).any fun existing => existing.status.settled then
    pure ⟨true, false⟩
  else
    match lineDrafts db.timeline.toTimelineRows snapshot input.cadence target with
    | .error (.review review) => do
        let _ ← markInvoiceForReview input runId snapshot cloud.userId wallet.id review
        pure ⟨true, true⟩
    | .error (.thrown code) => Tx.throw code
    | .ok drafts => do
        settleDrafts input runId snapshot cloud.userId wallet.id drafts
        pure ⟨true, false⟩

/-! ## `settleClosedBillingPeriod` -/

def validatePeriod (input : BillingPeriod) : Except String Unit := do
  let period := input.period
  throwIf (period.periodEnd ≤ period.periodStart ∨ input.now < period.periodEnd)
    "billing_period_not_closed"
  throwIf (period.periodEnd - period.periodStart ≠ periodMilliseconds input.cadence ∨
    period.periodStart % periodMilliseconds .hourly ≠ 0 ∨
    (input.cadence = .daily ∧ period.periodStart % periodMilliseconds .daily ≠ 0))
    "billing_period_not_utc_aligned"

theorem validatePeriod_eq_ok {input : BillingPeriod} {u : Unit} :
    validatePeriod input = .ok u ↔
      (input.period.periodStart < input.period.periodEnd ∧ input.period.periodEnd ≤ input.now) ∧
        input.period.periodEnd - input.period.periodStart = periodMilliseconds input.cadence ∧
        input.period.periodStart % periodMilliseconds .hourly = 0 ∧
        (input.cadence = .daily → input.period.periodStart % periodMilliseconds .daily = 0) := by
  simp only [validatePeriod, bind_eq_ok, throwIf_eq_ok, exists_const, not_or, not_le, not_lt, ne_eq,
    not_not, not_and]

/-- The snapshots of a cadence that are in force in a period. -/
def TimelineRows.loadSnapshots (rows : TimelineRows) (key : RunKey) : List PolicySnapshot :=
  (rows.snapshots.filter fun row => row.cadence = key.cadence ∧
    row.effectiveFrom < key.period.periodEnd ∧
    row.effectiveTo.all (key.period.periodStart < ·) = true).insertionSort fun left right =>
      left.cloudInstanceId < right.cloudInstanceId ∨
        (left.cloudInstanceId = right.cloudInstanceId ∧ left.effectiveFrom ≤ right.effectiveFrom)

/-- Settle the snapshots one after another, and count the results. -/
def processSnapshots (input : BillingPeriod) (runId : String) (seen : Books) :
    List PolicySnapshot → Tx BillingDb String (ℕ × ℕ)
  | [] => pure (0, 0)
  | snapshot :: rest => do
      let result ← processSnapshot input runId seen snapshot
      let (invoiceCount, reviewCount) ← processSnapshots input runId seen rest
      pure (invoiceCount + result.invoiced.toNat, reviewCount + result.review.toNat)

def BillingRun.restart (workerId : String) (row : BillingRun) : BillingRun :=
  { row with status := .running, workerId, failureCode := none }

def BillingRun.finish (counts : ℕ × ℕ) (row : BillingRun) : BillingRun :=
  { row with
    status := if 0 < counts.2 then .partially else .completed
    invoiceCount := counts.1
    reviewCount := counts.2 }

def BillingRun.fail (workerId failureCode : String) (row : BillingRun) : BillingRun :=
  { row with status := .failed, workerId, failureCode := some failureCode }

/-- Start the run of a period, or take it up again. -/
def openRun (input : BillingPeriod) : Tx BillingDb String String := do
  let db ← Tx.get
  match db.runs.find? input.key with
  | some existing => do
      updateRun input.key (·.restart input.workerId) fun _ => rfl
      pure existing.id
  | none => do
      createRun ⟨input.runId, input.key, .running, input.workerId, 0, 0, none⟩
      pure input.runId

/-- The transaction of `settleClosedBillingPeriod`. -/
def settleClosedBillingPeriod (input : BillingPeriod) : Tx BillingDb String (Option BillingRun) := do
  Tx.ofExcept (validatePeriod input)
  let db ← Tx.get
  if (db.runs.find? input.key).any fun existing => existing.status.terminal then
    pure (db.runs.find? input.key)
  else do
    let runId ← openRun input
    let db ← Tx.get
    let counts ← processSnapshots input runId db.books
      (db.timeline.toTimelineRows.loadSnapshots input.key)
    updateRun input.key (·.finish counts) fun _ => rfl
    let db ← Tx.get
    pure (db.runs.find? input.key)

/-- The transaction of `recordBillingRunFailure`. -/
def recordBillingRunFailure (input : BillingPeriod) (failureCode : String) :
    Tx BillingDb String Unit := do
  let db ← Tx.get
  match db.runs.find? input.key with
  | some existing =>
      if existing.status.terminal then pure ()
      else updateRun input.key (·.fail input.workerId failureCode) fun _ => rfl
  | none => createRun ⟨input.runId, input.key, .failed, input.workerId, 0, 0, some failureCode⟩

end AbrChin.Billing
