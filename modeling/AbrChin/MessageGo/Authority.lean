import AbrChin.Lib.Run
import AbrChin.Lib.Table
import AbrChin.Lib.Transaction
import AbrChin.MessageGo.Pricing
import AbrChin.Wallet.Schema

/-!
# The wallet authority

`lib/messagego/settlement/authority.ts`: the four settlement transactions
`reserve`, `settle`, `release` and `reconcile` over the tables they touch.

A call first parses its input (`ReserveInput.parse` and its siblings); a call
that fails there never opens a transaction.  The transaction body is a `Tx`
that ends in a `Committed` value: the outcome, a replayed outcome, or a denial
that has been recorded and is thrown only after the commit.  Every other throw
rolls the transaction back.

The advisory lock on the operation id and the row locks only order concurrent
calls; the model runs the calls one after another, so they do not appear.  The
ids that the database generates (`cuid()`) come from outside, as `Ids`, and a
taken id is refused by the primary key.  SHA-256 is a parameter.
-/

namespace AbrChin.MessageGo

open Lib Wallet

/-! ## Tables -/

inductive UserAccountStatus where
  | active
  | blocked
  deriving DecidableEq

structure User where
  id : String
  accountStatus : UserAccountStatus
  deriving DecidableEq

inductive ReservationStatus where
  | reserved
  | settled
  | released
  | uncertain
  | reconciled
  deriving DecidableEq

/-- A row of `MessageGoAuthorityReservation`. -/
structure Reservation where
  id : String
  accountId : String
  walletId : String
  productId : String
  workspaceId : String
  runId : String
  usageReservationId : String
  callerServiceId : String
  holdAmountRial : ℤ
  remainingHoldRial : ℤ
  settledAmountRial : ℤ
  status : ReservationStatus
  pricingFingerprint : String
  pricingVersion : String
  modelAlias : Option String
  estimatedMaxInputTokens : Option ℤ
  requestedMaxOutputTokens : Option ℤ
  customerInputRialPerMillion : Option ℤ
  customerOutputRialPerMillion : Option ℤ
  providerPricingFingerprint : Option String
  providerPricingVersion : Option String
  reserveOperationId : String
  deriving DecidableEq

/-- `AuthorityOutcome`.  The status is `reservationStatusToOutcome`, which only
changes its case. -/
structure AuthorityOutcome where
  contractId : String := "MESSAGEGO-V2-ABRCHIN-SETTLEMENT"
  contractVersion : String := "2.1.0"
  authorityReservationId : String
  status : ReservationStatus
  holdAmount : String
  remainingHoldAmount : String
  settledAmount : String
  accountId : String
  productId : String
  workspaceId : String
  runId : String
  usageReservationId : String
  pricingFingerprint : String
  pricingVersion : String
  ledgerEntryIds : List String
  walletAuthority : String := "abrchin"
  inferenceProxy : Bool := false
  deriving DecidableEq

inductive OpKind where
  | reserve
  | settle
  | release
  | reconcile
  deriving DecidableEq

/-- A row of `MessageGoSettlementOperation`.  `recorded` is `outcomeJson` and
`errorCode` together: a denial stores its code in both, an outcome has no code. -/
structure Operation where
  operationId : String
  kind : OpKind
  bodyFingerprint : String
  reservationId : Option String
  accountId : String
  recorded : Except SettlementErrorCode AuthorityOutcome

/-- `technicalQuantities`. -/
structure TechnicalQuantities where
  providerUsage : Js.Value
  providerCost : Option String
  walletDerivedFromProviderUsage : Bool := true
  providerCostIgnoredForWallet : Bool := true

/-- The payload of a reservation event: the outcome and what the call adds. -/
structure EventPayload where
  outcome : AuthorityOutcome
  technical : Option TechnicalQuantities := none
  reason : Option String := none
  previousStatus : Option ReservationStatus := none

/-- A row of `MessageGoReservationEvent`. -/
structure ReservationEvent where
  reservationId : String
  kind : String
  operationId : String
  payload : EventPayload

/-- The tables that hold money: wallets, their ledger and the reservations. -/
structure Book where
  wallets : Table WalletRow.id
  ledger : Table WalletLedgerEntry.idempotencyKey
  reservations : Table Reservation.id

/-- The database, as the settlement authority sees it. -/
structure Db extends Book where
  users : Table User.id
  prices : List CustomerPrice
  operations : Table Operation.operationId
  events : List ReservationEvent

/-- The ids that the database generates for the rows of one transaction. -/
structure Ids where
  wallet : String
  reservation : String
  entry : String

/-- A transaction of the settlement authority. -/
abbrev Tx := Lib.Tx Db Failure

/-- `throw new SettlementError(code, message)`, inside a transaction. -/
def Tx.reject {α : Type} (code : SettlementErrorCode) (message : String) : Tx α :=
  Lib.Tx.throw (.settlement ⟨code, message⟩)

/-! ## Writes, with the constraints of the schema -/

/-- The reference type of the authority's ledger entries. -/
def referenceType : String := "messagego_reservation"

/-- Change the balance of one wallet. -/
def Book.addToBalance (book : Book) (walletId : String) (amount : ℤ) : Book :=
  { book with
    wallets := book.wallets.modify walletId (fun wallet => wallet.add amount)
      fun wallet => wallet.id_add amount }

/-- `walletLedgerEntry.create`: the id and the idempotency key are unique, the
wallet exists. -/
def Book.createLedgerEntry (book : Book) (entry : WalletLedgerEntry) : Option Book :=
  if (∃ other ∈ book.ledger.rows, other.id = entry.id) ∨ book.wallets.find? entry.walletId = none
  then none
  else (book.ledger.insert? entry).map fun ledger => { book with ledger }

/-- `messageGoAuthorityReservation.create`: the id, the usage reservation and
the reserving operation are unique, the wallet exists. -/
def Book.createReservation (book : Book) (row : Reservation) : Option Book :=
  if (∃ other ∈ book.reservations.rows, other.usageReservationId = row.usageReservationId ∨
      other.reserveOperationId = row.reserveOperationId) ∨
      book.wallets.find? row.walletId = none
  then none
  else (book.reservations.insert? row).map fun reservations => { book with reservations }

/-- `wallet.create`: one wallet per user. -/
def Book.createWallet (book : Book) (row : WalletRow) : Option Book :=
  if ∃ other ∈ book.wallets.rows, other.userId = row.userId then none
  else (book.wallets.insert? row).map fun wallets => { book with wallets }

/-- A reservation row after an update of its amounts and status. -/
def Reservation.updated (row : Reservation) (holds settled : Option ℤ)
    (status : ReservationStatus) : Reservation :=
  { row with
    remainingHoldRial := holds.getD row.remainingHoldRial
    settledAmountRial := settled.getD row.settledAmountRial
    status }

@[simp] theorem Reservation.id_updated (row : Reservation) (holds settled : Option ℤ)
    (status : ReservationStatus) : (row.updated holds settled status).id = row.id := rfl

/-- Update one reservation row. -/
def Book.setReservation (book : Book) (id : String) (holds settled : Option ℤ)
    (status : ReservationStatus) : Book :=
  { book with
    reservations := book.reservations.modify id (fun row => row.updated holds settled status)
      fun row => row.id_updated holds settled status }

/-- A write to the money tables that a constraint may refuse. -/
def writeBook (write : Book → Option Book) : Tx Unit :=
  Lib.Tx.attempt .database fun db => (write db.toBook).map fun book => { db with toBook := book }

/-- `messageGoAuthorityReservation.update`, which returns the new row. -/
def updateReservation (id : String) (holds settled : Option ℤ) (status : ReservationStatus) :
    Tx Reservation := do
  let db ← Lib.Tx.get
  let _ ← Lib.Tx.orThrow .database (db.reservations.find? id)
  writeBook fun book => some (book.setReservation id holds settled status)
  let db ← Lib.Tx.get
  Lib.Tx.orThrow .database (db.reservations.find? id)

/-- `recordOperation`: the operation id is unique, the account exists, and so
does the reservation, if one is named. -/
def recordOperation (operation : Operation) : Tx Unit :=
  Lib.Tx.attempt .database fun db =>
    if db.users.find? operation.accountId = none ∨
        (operation.reservationId.any fun id => (db.reservations.find? id).isNone) then none
    else (db.operations.insert? operation).map fun operations => { db with operations }

/-- `recordEvent`. -/
def recordEvent (event : ReservationEvent) : Tx Unit :=
  Lib.Tx.attempt .database fun db =>
    if (db.reservations.find? event.reservationId).isNone then none
    else some { db with events := db.events ++ [event] }

/-! ## The steps of the transactions -/

/-- `requiredText`. -/
def requiredText (value : String) (field : String) (max : ℕ := 500) : Except Failure String :=
  let trimmed := Js.trim value
  if trimmed = "" ∨ max < Js.length trimmed ∨ Js.hasLineBreakOrNul trimmed then
    reject .invalidRequest s!"{field} is required"
  else .ok trimmed

/-- `requiredId`. -/
def requiredId (value : String) (field : String) : Except Failure String :=
  requiredText value field 200

/-- `outcomeFromReservation`. -/
def outcomeFromReservation (reservation : Reservation) (ledgerEntryIds : List String) :
    Except Failure AuthorityOutcome := do
  let holdAmount ← walletAmountString reservation.holdAmountRial
  let remainingHoldAmount ← walletAmountString reservation.remainingHoldRial
  let settledAmount ← walletAmountString reservation.settledAmountRial
  return {
    authorityReservationId := reservation.id
    status := reservation.status
    holdAmount, remainingHoldAmount, settledAmount
    accountId := reservation.accountId
    productId := reservation.productId
    workspaceId := reservation.workspaceId
    runId := reservation.runId
    usageReservationId := reservation.usageReservationId
    pricingFingerprint := reservation.pricingFingerprint
    pricingVersion := reservation.pricingVersion
    ledgerEntryIds }

/-- `replay`. -/
def replay (existing : Operation) (kind : OpKind) (fingerprint : String) :
    Except Failure AuthorityOutcome :=
  if existing.kind ≠ kind ∨ existing.bodyFingerprint ≠ fingerprint then
    reject .idempotencyConflict "Same operation_id with a conflicting semantic body"
  else
    match existing.recorded with
    | .error code => reject code "Idempotent replay of the recorded financial denial"
    | .ok outcome => .ok outcome

/-- The scope that a call names. -/
structure Scope where
  accountId : String
  productId : String
  workspaceId : String
  runId : String
  usageReservationId : String
  authorityReservationId : String

/-- `assertScope`. -/
def assertScope (reservation : Reservation) (scope : Scope) : Except Failure Unit :=
  if reservation.id ≠ scope.authorityReservationId then
    reject .notFound "Unknown authority reservation"
  else if reservation.accountId ≠ scope.accountId ∨ reservation.productId ≠ scope.productId ∨
      reservation.workspaceId ≠ scope.workspaceId ∨ reservation.runId ≠ scope.runId ∨
      reservation.usageReservationId ≠ scope.usageReservationId then
    reject .scopeMismatch "Account or scope does not match the reservation"
  else .ok ()

/-- What `debitHold` and `creditRelease` are given. -/
structure Posting where
  walletId : String
  amountRial : ℤ
  type : LedgerType
  idempotencyKey : String
  referenceId : String

/-- The ledger entry of a posting. -/
def Posting.entry (posting : Posting) (entryId : String) (direction : LedgerDirection)
    (balanceAfter : ℤ) : WalletLedgerEntry where
  id := entryId
  walletId := posting.walletId
  direction
  type := posting.type
  amount := posting.amountRial
  status := .completed
  referenceType := some referenceType
  referenceId := some posting.referenceId
  idempotencyKey := posting.idempotencyKey
  balanceAfter

/-- `debitHold`: the update only matches an active wallet with enough money. -/
def debitHold (entryId : String) (posting : Posting) : Tx (Option WalletLedgerEntry) :=
  if posting.amountRial = 0 then pure none
  else do
    let db ← Lib.Tx.get
    let matched := (db.wallets.find? posting.walletId).any fun wallet =>
      posting.amountRial ≤ wallet.availableBalance ∧ wallet.status = .active
    if matched = false then Tx.reject .insufficientFunds "موجودی کافی نیست."
    else do
      writeBook fun book => some (book.addToBalance posting.walletId (-posting.amountRial))
      let db ← Lib.Tx.get
      let fresh ← Lib.Tx.orThrow .database (db.wallets.find? posting.walletId)
      let entry := posting.entry entryId .debit fresh.availableBalance
      writeBook fun book => book.createLedgerEntry entry
      return some entry

/-- `creditRelease`. -/
def creditRelease (entryId : String) (posting : Posting) : Tx (Option WalletLedgerEntry) :=
  if posting.amountRial = 0 then pure none
  else do
    let db ← Lib.Tx.get
    let _ ← Lib.Tx.orThrow .database (db.wallets.find? posting.walletId)
    writeBook fun book => some (book.addToBalance posting.walletId posting.amountRial)
    let db ← Lib.Tx.get
    let updated ← Lib.Tx.orThrow .database (db.wallets.find? posting.walletId)
    let entry := posting.entry entryId .credit updated.availableBalance
    writeBook fun book => book.createLedgerEntry entry
    return some entry

/-- What `applyBillable` returns. -/
structure Applied where
  reservation : Reservation
  ledgerIds : List String

/-- The two branches of `applyBillable`: charge more than the hold, or give the
rest of it back. -/
def postBillable (entryId : String) (reservation : Reservation) (billable : ℤ)
    (operationId : String) : Tx (Option WalletLedgerEntry) :=
  let remaining := reservation.remainingHoldRial
  if remaining < billable then
    debitHold entryId {
      walletId := reservation.walletId
      amountRial := billable - remaining
      type := .messagegoSettlement
      idempotencyKey := s!"messagego:settle:{operationId}:debit"
      referenceId := reservation.id }
  else
    creditRelease entryId {
      walletId := reservation.walletId
      amountRial := remaining - billable
      type := .messagegoHoldRelease
      idempotencyKey := s!"messagego:settle:{operationId}:release"
      referenceId := reservation.id }

/-- `applyBillable`. -/
def applyBillable (entryId : String) (reservation : Reservation) (billable : ℤ)
    (operationId : String) : Tx Applied := do
  let entry ← postBillable entryId reservation billable operationId
  let updated ← updateReservation reservation.id (some 0)
    (some (reservation.settledAmountRial + billable)) .settled
  return ⟨updated, entry.toList.map WalletLedgerEntry.id⟩

/-- `technicalQuantities`. -/
def technicalQuantities (providerUsage providerCost : Js.Value) : TechnicalQuantities where
  providerUsage :=
    match providerUsage with
    | .undefined => .null
    | usage => usage
  providerCost :=
    match providerCost with
    | .string cost => some cost
    | _ => none

/-- What `reservationPriceSnapshot` returns. -/
structure PriceSnapshot where
  rates : Rates
  maxInput : ℤ
  maxOutput : ℤ
  deriving DecidableEq

/-- `reservationPriceSnapshot`. -/
def reservationPriceSnapshot (reservation : Reservation) : Except Failure PriceSnapshot :=
  match reservation.estimatedMaxInputTokens, reservation.requestedMaxOutputTokens,
    reservation.customerInputRialPerMillion, reservation.customerOutputRialPerMillion with
  | some maxInput, some maxOutput, some inputRate, some outputRate =>
      .ok ⟨⟨inputRate, outputRate⟩, maxInput, maxOutput⟩
  | _, _, _, _ => reject .unknownPricing "reservation is missing the customer price snapshot"

/-- The fingerprint and version that a call may supply have to be the given ones. -/
def assertPricing (pricingFingerprint pricingVersion : String) (fingerprint version : Option String) :
    Except Failure Unit :=
  let suppliedFingerprint := Js.trim (fingerprint.getD "")
  let suppliedVersion := Js.trim (version.getD "")
  if suppliedFingerprint ≠ "" ∧ suppliedFingerprint ≠ pricingFingerprint then
    reject .stalePricing "customer pricing fingerprint is stale"
  else if suppliedVersion ≠ "" ∧ suppliedVersion ≠ pricingVersion then
    reject .stalePricing "customer pricing version is stale"
  else .ok ()

/-- `assertStoredCustomerPricing`. -/
def assertStoredCustomerPricing (reservation : Reservation) (fingerprint version : Option String) :
    Except Failure Unit :=
  assertPricing reservation.pricingFingerprint reservation.pricingVersion fingerprint version

/-- `ensureWalletForUser`. -/
def ensureWalletForUser (walletId userId : String) : Tx WalletRow := do
  let db ← Lib.Tx.get
  match db.wallets.rows.find? fun wallet => wallet.userId = userId with
  | some wallet => return wallet
  | none => do
      let wallet : WalletRow := { id := walletId, userId, availableBalance := 0, status := .active }
      writeBook fun book => book.createWallet wallet
      return wallet

/-- How a transaction ends when it commits. -/
inductive Committed where
  | replay (outcome : AuthorityOutcome)
  | ok (outcome : AuthorityOutcome)
  | error (code : SettlementErrorCode) (message : String)

/-- What the caller gets after the commit. -/
def Committed.result : Committed → Except Failure AuthorityOutcome
  | .replay outcome => .ok outcome
  | .ok outcome => .ok outcome
  | .error code message => reject code message

/-- The operation that a transaction records. -/
structure OperationKey where
  operationId : String
  kind : OpKind
  fingerprint : String
  accountId : String

/-- `recordOperation` with a denial, and the end of the transaction. -/
def OperationKey.deny (key : OperationKey) (reservationId : Option String)
    (code : SettlementErrorCode) (message : String) : Tx Committed := do
  recordOperation {
    operationId := key.operationId
    kind := key.kind
    bodyFingerprint := key.fingerprint
    reservationId
    accountId := key.accountId
    recorded := .error code }
  return .error code message

/-- `recordOperation` with an outcome, and the end of the transaction. -/
def OperationKey.accept (key : OperationKey) (reservationId : String)
    (outcome : AuthorityOutcome) : Tx Committed := do
  recordOperation {
    operationId := key.operationId
    kind := key.kind
    bodyFingerprint := key.fingerprint
    reservationId := some reservationId
    accountId := key.accountId
    recorded := .ok outcome }
  return .ok outcome

/-- The start of every transaction: a recorded operation is replayed. -/
def OperationKey.unlessRecorded (key : OperationKey) (body : Tx Committed) : Tx Committed := do
  let db ← Lib.Tx.get
  match db.operations.find? key.operationId with
  | some existing => do
      let outcome ← Lib.Tx.ofExcept (replay existing key.kind key.fingerprint)
      return .replay outcome
  | none => body

/-- `loadReservationForMutation`. -/
def loadReservationForMutation (authorityReservationId : String) : Tx Reservation := do
  let db ← Lib.Tx.get
  match db.reservations.find? authorityReservationId with
  | some reservation => return reservation
  | none => Tx.reject .notFound "Unknown authority reservation"

/-- Load a reservation and check its scope. -/
def loadInScope (scope : Scope) : Tx Reservation := do
  let reservation ← loadReservationForMutation scope.authorityReservationId
  Lib.Tx.ofExcept (assertScope reservation scope)
  return reservation

/-- Run a body on the reservation in scope; the two denials of loading it are recorded. -/
def OperationKey.withReservation (key : OperationKey) (scope : Scope)
    (body : Reservation → Tx Committed) : Tx Committed := do
  let loaded ← Lib.Tx.tryCatch
    (do
      let reservation ← loadInScope scope
      return Sum.inl reservation)
    fun failure =>
      match failure with
      | .settlement ⟨.notFound, message⟩ => do
          let denied ← key.deny none .notFound message
          return Sum.inr denied
      | .settlement ⟨.scopeMismatch, message⟩ => do
          let denied ← key.deny (some scope.authorityReservationId) .scopeMismatch message
          return Sum.inr denied
      | failure => Lib.Tx.throw failure
  match loaded with
  | .inl reservation => body reservation
  | .inr denied => return denied

/-- A body whose `insufficient_funds` is recorded as a denial. -/
def OperationKey.catchInsufficientFunds (key : OperationKey) (reservationId : String)
    (body : Tx Committed) : Tx Committed :=
  Lib.Tx.tryCatch body fun failure =>
    match failure with
    | .settlement ⟨.insufficientFunds, message⟩ =>
        key.deny (some reservationId) .insufficientFunds message
    | failure => Lib.Tx.throw failure

/-- Run a transaction and turn its end into the result of the call. -/
def commit (body : Tx Committed) (db : Db) : Except Failure AuthorityOutcome × Db :=
  match Lib.Tx.transaction body db with
  | (.ok committed, db') => (committed.result, db')
  | (.error failure, db') => (.error failure, db')

/-- A call: parse the input and, if that succeeds, run the transaction. -/
def perform {ρ : Type} (parsed : Except Failure ρ) (body : ρ → Tx Committed) (db : Db) :
    Except Failure AuthorityOutcome × Db :=
  match parsed with
  | .error failure => (.error failure, db)
  | .ok request => commit (body request) db

/-! ## `reserveWalletAuthority` -/

structure ReserveInput where
  operationId : String
  accountId : String
  productId : String
  workspaceId : String
  runId : String
  usageReservationId : String
  callerServiceId : String
  holdAmount : Js.Value := .undefined
  modelAlias : String
  estimatedMaxInputTokens : Js.Value
  requestedMaxOutputTokens : Js.Value
  providerPricingFingerprint : String
  providerPricingVersion : String
  providerCostCeiling : Js.Value := .undefined
  pricingFingerprint : Option String := none
  pricingVersion : Option String := none

/-- A reserve call whose input has been parsed. -/
structure ReserveRequest where
  key : OperationKey
  productId : String
  workspaceId : String
  runId : String
  usageReservationId : String
  callerServiceId : String
  modelAlias : String
  estimatedMaxInputTokens : ℤ
  requestedMaxOutputTokens : ℤ
  providerPricingFingerprint : String
  providerPricingVersion : String
  suppliedHold : Option ℤ
  pricingFingerprint : Option String
  pricingVersion : Option String

/-- The part of `reserveWalletAuthority` before its transaction. -/
def ReserveInput.parse (sha256Hex : String → String) (input : ReserveInput) :
    Except Failure ReserveRequest := do
  let operationId ← requiredId input.operationId "operation_id"
  let accountId ← requiredId input.accountId "account_id"
  let productId ← requiredId input.productId "product_id"
  let workspaceId ← requiredId input.workspaceId "workspace_id"
  let runId ← requiredId input.runId "run_id"
  let usageReservationId ← requiredId input.usageReservationId "usage_reservation_id"
  let callerServiceId ← requiredId input.callerServiceId "caller_service_id"
  let modelAlias ← requiredText input.modelAlias "model_alias" 64
  let estimatedMaxInputTokens ←
    parseTokenCount input.estimatedMaxInputTokens "estimated_max_input_tokens"
  let requestedMaxOutputTokens ←
    parseTokenCount input.requestedMaxOutputTokens "requested_max_output_tokens"
  let providerPricingFingerprint ←
    requiredText input.providerPricingFingerprint "provider_pricing_fingerprint" 128
  let providerPricingVersion ←
    requiredText input.providerPricingVersion "provider_pricing_version" 128
  let suppliedHold ← parseOptionalWalletAmount input.holdAmount "hold_amount"
  let _ ← parseOptionalWalletAmount input.providerCostCeiling "provider_cost_ceiling"
  let fingerprint := sha256Hex (Js.stableJson [
    ("account_id", accountId), ("product_id", productId), ("workspace_id", workspaceId),
    ("run_id", runId), ("usage_reservation_id", usageReservationId),
    ("caller_service_id", callerServiceId), ("model_alias", modelAlias),
    ("estimated_max_input_tokens", toString estimatedMaxInputTokens),
    ("requested_max_output_tokens", toString requestedMaxOutputTokens),
    ("provider_pricing_fingerprint", providerPricingFingerprint),
    ("provider_pricing_version", providerPricingVersion)])
  return {
    key := { operationId, kind := .reserve, fingerprint, accountId }
    productId, workspaceId, runId, usageReservationId, callerServiceId, modelAlias,
    estimatedMaxInputTokens, requestedMaxOutputTokens, providerPricingFingerprint,
    providerPricingVersion, suppliedHold
    pricingFingerprint := input.pricingFingerprint
    pricingVersion := input.pricingVersion }

/-- The reservation row that a reserve call creates. -/
def ReserveRequest.reservation (request : ReserveRequest) (id walletId : String)
    (price : CustomerPrice) (holdAmount : ℤ) : Reservation where
  id
  accountId := request.key.accountId
  walletId
  productId := request.productId
  workspaceId := request.workspaceId
  runId := request.runId
  usageReservationId := request.usageReservationId
  callerServiceId := request.callerServiceId
  holdAmountRial := holdAmount
  remainingHoldRial := holdAmount
  settledAmountRial := 0
  status := .reserved
  pricingFingerprint := price.pricingFingerprint
  pricingVersion := price.pricingVersion
  modelAlias := some request.modelAlias
  estimatedMaxInputTokens := some request.estimatedMaxInputTokens
  requestedMaxOutputTokens := some request.requestedMaxOutputTokens
  customerInputRialPerMillion := some price.inputRialPerMillion
  customerOutputRialPerMillion := some price.outputRialPerMillion
  providerPricingFingerprint := some request.providerPricingFingerprint
  providerPricingVersion := some request.providerPricingVersion
  reserveOperationId := request.key.operationId

/-- The part of the reserve transaction after the balance check. -/
def ReserveRequest.hold (request : ReserveRequest) (ids : Ids) (wallet : WalletRow)
    (price : CustomerPrice) (holdAmount : ℤ) : Tx Committed := do
  let reservation := request.reservation ids.reservation wallet.id price holdAmount
  writeBook fun book => book.createReservation reservation
  let holdEntry ← debitHold ids.entry {
    walletId := wallet.id
    amountRial := holdAmount
    type := .messagegoReserveHold
    idempotencyKey := s!"messagego:reserve:{request.key.operationId}"
    referenceId := reservation.id }
  let outcome ← Lib.Tx.ofExcept
    (outcomeFromReservation reservation (holdEntry.toList.map WalletLedgerEntry.id))
  recordEvent ⟨reservation.id, "reserved", request.key.operationId, { outcome }⟩
  request.key.accept reservation.id outcome

/-- The transaction of `reserveWalletAuthority`. -/
def ReserveRequest.body (request : ReserveRequest) (ids : Ids) : Tx Committed :=
  request.key.unlessRecorded do
    let db ← Lib.Tx.get
    match db.users.find? request.key.accountId with
    | none => Tx.reject .notFound "Unknown account"
    | some user =>
      if user.accountStatus ≠ .active then
        request.key.deny none .accountInactive "Account is not financially active"
      else
        match db.reservations.rows.find? fun row =>
            row.usageReservationId = request.usageReservationId with
        | some duplicateUsage =>
            request.key.deny (some duplicateUsage.id) .idempotencyConflict
              "usage_reservation_id is already bound to an authority reservation"
        | none => do
            let wallet ← ensureWalletForUser ids.wallet request.key.accountId
            let db ← Lib.Tx.get
            let lockedWallet ← Lib.Tx.orThrow .database (db.wallets.find? wallet.id)
            if lockedWallet.status ≠ .active then
              request.key.deny none .walletFrozen "Wallet is not active"
            else do
              let price ← Lib.Tx.ofExcept (latestCustomerPrice db.prices request.modelAlias)
              Lib.Tx.ofExcept (assertPricing price.pricingFingerprint price.pricingVersion
                request.pricingFingerprint request.pricingVersion)
              let holdAmount ← Lib.Tx.ofExcept (deriveHoldRial price
                request.estimatedMaxInputTokens request.requestedMaxOutputTokens)
              Lib.Tx.ofExcept (rejectUntrustedAmount request.suppliedHold holdAmount "hold_amount")
              if lockedWallet.availableBalance < holdAmount then
                request.key.deny none .insufficientFunds "موجودی کافی نیست."
              else request.hold ids wallet price holdAmount

/-- `reserveWalletAuthority`. -/
def reserveWalletAuthority (sha256Hex : String → String) (ids : Ids) (input : ReserveInput)
    (db : Db) : Except Failure AuthorityOutcome × Db :=
  perform (input.parse sha256Hex) (fun request => request.body ids) db

/-! ## `settleWalletAuthority` -/

inductive OutcomeClass where
  | known
  | uncertain
  deriving DecidableEq

/-- The input of a settle or a reconcile call; only settle reads `outcomeClass`. -/
structure SettleInput where
  operationId : String
  accountId : String
  productId : String
  workspaceId : String
  runId : String
  usageReservationId : String
  authorityReservationId : String
  callerServiceId : String
  customerBillableAmount : Js.Value := .undefined
  pricingFingerprint : Option String := none
  pricingVersion : Option String := none
  outcomeClass : Option OutcomeClass := none
  providerUsage : Js.Value := .undefined
  providerCost : Js.Value := .undefined

/-- A settle or reconcile call whose input has been parsed; `usage` is absent
for an uncertain outcome. -/
structure SettleRequest where
  key : OperationKey
  scope : Scope
  suppliedBillable : Option ℤ
  usage : Option ProviderUsageTokens
  pricingFingerprint : Option String
  pricingVersion : Option String
  technical : TechnicalQuantities

/-- An uncertain settle does not look at the usage. -/
def SettleInput.settleUsage (input : SettleInput) : Except Failure (Option ProviderUsageTokens) :=
  if input.outcomeClass = some .uncertain then .ok none
  else (parseProviderUsage input.providerUsage).map some

/-- The part of `settleWalletAuthority` before its transaction. -/
def SettleInput.parseSettle (sha256Hex : String → String) (input : SettleInput) :
    Except Failure SettleRequest := do
  let operationId ← requiredId input.operationId "operation_id"
  let accountId ← requiredId input.accountId "account_id"
  let productId ← requiredId input.productId "product_id"
  let workspaceId ← requiredId input.workspaceId "workspace_id"
  let runId ← requiredId input.runId "run_id"
  let usageReservationId ← requiredId input.usageReservationId "usage_reservation_id"
  let authorityReservationId ← requiredId input.authorityReservationId "authority_reservation_id"
  let callerServiceId ← requiredId input.callerServiceId "caller_service_id"
  let suppliedBillable ←
    parseOptionalWalletAmount input.customerBillableAmount "customer_billable_amount"
  let usage ← input.settleUsage
  let fingerprint := sha256Hex (Js.stableJson [
    ("account_id", accountId), ("product_id", productId), ("workspace_id", workspaceId),
    ("run_id", runId), ("usage_reservation_id", usageReservationId),
    ("authority_reservation_id", authorityReservationId), ("caller_service_id", callerServiceId),
    ("outcome_class", if input.outcomeClass = some .uncertain then "uncertain" else "known"),
    ("input_text_tokens", (usage.map fun tokens => toString tokens.inputTextTokens).getD ""),
    ("output_text_tokens", (usage.map fun tokens => toString tokens.outputTextTokens).getD "")])
  return {
    key := { operationId, kind := .settle, fingerprint, accountId }
    scope := {
      accountId, productId, workspaceId, runId, usageReservationId, authorityReservationId }
    suppliedBillable, usage
    pricingFingerprint := input.pricingFingerprint
    pricingVersion := input.pricingVersion
    technical := technicalQuantities input.providerUsage input.providerCost }

/-- After a charge: the status that a reconcile call adds, the event, the record. -/
def SettleRequest.finish (request : SettleRequest) (reservation : Reservation)
    (applied : Applied) : Tx Committed :=
  if request.key.kind = .reconcile then do
    let reconciled ← updateReservation applied.reservation.id none none .reconciled
    let outcome ← Lib.Tx.ofExcept (outcomeFromReservation reconciled applied.ledgerIds)
    recordEvent ⟨reconciled.id, "reconciled", request.key.operationId,
      { outcome, technical := some request.technical
        previousStatus := some reservation.status }⟩
    request.key.accept reconciled.id outcome
  else do
    let outcome ← Lib.Tx.ofExcept (outcomeFromReservation applied.reservation applied.ledgerIds)
    recordEvent ⟨applied.reservation.id, "settled", request.key.operationId,
      { outcome, technical := some request.technical }⟩
    request.key.accept applied.reservation.id outcome

/-- The end of a known settle and of a reconcile, for an open reservation. -/
def SettleRequest.charge (request : SettleRequest) (ids : Ids) (reservation : Reservation)
    (billable : ℤ) : Tx Committed :=
  request.key.catchInsufficientFunds reservation.id do
    let applied ← applyBillable ids.entry reservation billable request.key.operationId
    request.finish reservation applied

/-- A known settle and a reconcile, once the reservation is not released: derive
the amount; a charged reservation is left alone and only compared with it. -/
def SettleRequest.settleKnown (request : SettleRequest) (ids : Ids) (reservation : Reservation)
    (usage : ProviderUsageTokens) (conflict : String) : Tx Committed := do
  let snapshot ← Lib.Tx.ofExcept (reservationPriceSnapshot reservation)
  let billable ← Lib.Tx.ofExcept
    (deriveBillableRial snapshot.rates usage snapshot.maxInput snapshot.maxOutput)
  Lib.Tx.ofExcept
    (rejectUntrustedAmount request.suppliedBillable billable "customer_billable_amount")
  if reservation.status = .settled ∨ reservation.status = .reconciled then
    if reservation.settledAmountRial ≠ billable then
      request.key.deny (some reservation.id) .stateConflict conflict
    else do
      let outcome ← Lib.Tx.ofExcept (outcomeFromReservation reservation [])
      request.key.accept reservation.id outcome
  else request.charge ids reservation billable

/-- The uncertain branch of the settle transaction. -/
def SettleRequest.settleUncertain (request : SettleRequest) (reservation : Reservation) :
    Tx Committed :=
  if reservation.status = .settled ∨ reservation.status = .reconciled then
    request.key.deny (some reservation.id) .stateConflict
      "Reservation is already settled with a different amount"
  else do
    let updated ← updateReservation reservation.id none none .uncertain
    let outcome ← Lib.Tx.ofExcept (outcomeFromReservation updated [])
    recordEvent ⟨updated.id, "uncertain", request.key.operationId,
      { outcome, technical := some request.technical }⟩
    request.key.accept updated.id outcome

/-- The part of the settle transaction after the reservation is loaded. -/
def SettleRequest.settleReservation (request : SettleRequest) (ids : Ids)
    (reservation : Reservation) : Tx Committed := do
  Lib.Tx.ofExcept (assertStoredCustomerPricing reservation request.pricingFingerprint
    request.pricingVersion)
  if reservation.status = .released then
    request.key.deny (some reservation.id) .stateConflict
      "Reservation was released and cannot be settled"
  else
    match request.usage with
    | none => request.settleUncertain reservation
    | some usage =>
        request.settleKnown ids reservation usage
          "Reservation is already settled with a different amount"

/-- The transaction of `settleWalletAuthority`. -/
def SettleRequest.settleBody (request : SettleRequest) (ids : Ids) : Tx Committed :=
  request.key.unlessRecorded
    (request.key.withReservation request.scope (request.settleReservation ids))

/-- `settleWalletAuthority`. -/
def settleWalletAuthority (sha256Hex : String → String) (ids : Ids) (input : SettleInput)
    (db : Db) : Except Failure AuthorityOutcome × Db :=
  perform (input.parseSettle sha256Hex) (fun request => request.settleBody ids) db

/-! ## `releaseWalletAuthority` -/

structure ReleaseInput where
  operationId : String
  accountId : String
  productId : String
  workspaceId : String
  runId : String
  usageReservationId : String
  authorityReservationId : String
  callerServiceId : String
  reason : String

/-- A release call whose input has been parsed. -/
structure ReleaseRequest where
  key : OperationKey
  scope : Scope
  reason : String

/-- The part of `releaseWalletAuthority` before its transaction. -/
def ReleaseInput.parse (sha256Hex : String → String) (input : ReleaseInput) :
    Except Failure ReleaseRequest := do
  let operationId ← requiredId input.operationId "operation_id"
  let accountId ← requiredId input.accountId "account_id"
  let productId ← requiredId input.productId "product_id"
  let workspaceId ← requiredId input.workspaceId "workspace_id"
  let runId ← requiredId input.runId "run_id"
  let usageReservationId ← requiredId input.usageReservationId "usage_reservation_id"
  let authorityReservationId ← requiredId input.authorityReservationId "authority_reservation_id"
  let callerServiceId ← requiredId input.callerServiceId "caller_service_id"
  let reason ← requiredText input.reason "reason"
  let fingerprint := sha256Hex (Js.stableJson [
    ("account_id", accountId), ("product_id", productId), ("workspace_id", workspaceId),
    ("run_id", runId), ("usage_reservation_id", usageReservationId),
    ("authority_reservation_id", authorityReservationId), ("caller_service_id", callerServiceId),
    ("reason", reason)])
  return {
    key := { operationId, kind := .release, fingerprint, accountId }
    scope := {
      accountId, productId, workspaceId, runId, usageReservationId, authorityReservationId }
    reason }

/-- The part of the release transaction after the reservation is loaded. -/
def ReleaseRequest.releaseReservation (request : ReleaseRequest) (ids : Ids)
    (reservation : Reservation) : Tx Committed :=
  if reservation.status = .settled ∨ reservation.status = .reconciled ∨
      reservation.status = .uncertain then
    request.key.deny (some reservation.id) .stateConflict
      "Reservation is not eligible for release"
  else if reservation.status = .released then do
    let outcome ← Lib.Tx.ofExcept (outcomeFromReservation reservation [])
    request.key.accept reservation.id outcome
  else do
    let releaseEntry ← creditRelease ids.entry {
      walletId := reservation.walletId
      amountRial := reservation.remainingHoldRial
      type := .messagegoHoldRelease
      idempotencyKey := s!"messagego:release:{request.key.operationId}"
      referenceId := reservation.id }
    let updated ← updateReservation reservation.id (some 0) none .released
    let outcome ← Lib.Tx.ofExcept
      (outcomeFromReservation updated (releaseEntry.toList.map WalletLedgerEntry.id))
    recordEvent ⟨updated.id, "released", request.key.operationId,
      { outcome, reason := some request.reason }⟩
    request.key.accept updated.id outcome

/-- The transaction of `releaseWalletAuthority`. -/
def ReleaseRequest.body (request : ReleaseRequest) (ids : Ids) : Tx Committed :=
  request.key.unlessRecorded
    (request.key.withReservation request.scope (request.releaseReservation ids))

/-- `releaseWalletAuthority`. -/
def releaseWalletAuthority (sha256Hex : String → String) (ids : Ids) (input : ReleaseInput)
    (db : Db) : Except Failure AuthorityOutcome × Db :=
  perform (input.parse sha256Hex) (fun request => request.body ids) db

/-! ## `reconcileWalletAuthority` -/

/-- The part of `reconcileWalletAuthority` before its transaction. -/
def SettleInput.parseReconcile (sha256Hex : String → String) (input : SettleInput) :
    Except Failure SettleRequest := do
  let operationId ← requiredId input.operationId "operation_id"
  let accountId ← requiredId input.accountId "account_id"
  let productId ← requiredId input.productId "product_id"
  let workspaceId ← requiredId input.workspaceId "workspace_id"
  let runId ← requiredId input.runId "run_id"
  let usageReservationId ← requiredId input.usageReservationId "usage_reservation_id"
  let authorityReservationId ← requiredId input.authorityReservationId "authority_reservation_id"
  let callerServiceId ← requiredId input.callerServiceId "caller_service_id"
  let suppliedBillable ←
    parseOptionalWalletAmount input.customerBillableAmount "customer_billable_amount"
  let usage ← parseProviderUsage input.providerUsage
  let fingerprint := sha256Hex (Js.stableJson [
    ("account_id", accountId), ("product_id", productId), ("workspace_id", workspaceId),
    ("run_id", runId), ("usage_reservation_id", usageReservationId),
    ("authority_reservation_id", authorityReservationId), ("caller_service_id", callerServiceId),
    ("input_text_tokens", toString usage.inputTextTokens),
    ("output_text_tokens", toString usage.outputTextTokens)])
  return {
    key := { operationId, kind := .reconcile, fingerprint, accountId }
    scope := {
      accountId, productId, workspaceId, runId, usageReservationId, authorityReservationId }
    suppliedBillable
    usage := some usage
    pricingFingerprint := input.pricingFingerprint
    pricingVersion := input.pricingVersion
    technical := technicalQuantities input.providerUsage input.providerCost }

/-- The part of the reconcile transaction after the reservation is loaded. -/
def SettleRequest.reconcileReservation (request : SettleRequest) (ids : Ids)
    (usage : ProviderUsageTokens) (reservation : Reservation) : Tx Committed := do
  Lib.Tx.ofExcept (assertStoredCustomerPricing reservation request.pricingFingerprint
    request.pricingVersion)
  if reservation.status = .released then
    request.key.deny (some reservation.id) .stateConflict
      "Released reservation cannot be reconciled into a charge"
  else request.settleKnown ids reservation usage "Historical settlement cannot be overwritten"

/-- The transaction of `reconcileWalletAuthority`. -/
def SettleRequest.reconcileBody (request : SettleRequest) (ids : Ids)
    (usage : ProviderUsageTokens) : Tx Committed :=
  request.key.unlessRecorded
    (request.key.withReservation request.scope (request.reconcileReservation ids usage))

/-- `reconcileWalletAuthority`. -/
def reconcileWalletAuthority (sha256Hex : String → String) (ids : Ids) (input : SettleInput)
    (db : Db) : Except Failure AuthorityOutcome × Db :=
  perform (input.parseReconcile sha256Hex)
    (fun request => request.reconcileBody ids (request.usage.getD ⟨0, 0⟩)) db

end AbrChin.MessageGo
