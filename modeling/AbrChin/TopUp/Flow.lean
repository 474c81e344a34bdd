import AbrChin.Lib.Pool
import AbrChin.TopUp.Statements

/-!
# The top-up flow

The calls of `lib/wallet/topup.ts` and of the admin recovery actions as
sequences of tasks over one database: creating a top-up, retrying its payment,
gateway callbacks, admin re-verification and reconciliation, marking a payment
failed.

A task is one database transaction or one gateway call.  `settle` and the
transaction of a retry are serializable and lock the rows they read, so each is
one task.  `recordPaymentReview` and `recordTerminalFailure` run at the default
isolation level: they read the attempt and its top-up without a lock and write
them later by id, so the read and the write are two tasks, and anything may be
committed between them.  The same holds for `adminMarkPaymentDefinitivelyFailed`,
except that it locks the attempt from its read on.

An event starts a call, answers a gateway call, or ends the transaction of a
task: by a commit, whose acknowledgement may get lost, or by a failure.  A crash
removes a task and with it the rest of its call.
-/

namespace AbrChin.TopUp

open Lib Payments Wallet

/-! ## Limits and codes -/

/-- `BigInt(MAX_TOPUP_TOMAN) * 10n`. -/
def maxTopUpRial : ℤ := 50000000 * 10

/-- `TOPUP_TTL_MS`. -/
def topUpTtlMs : ℤ := 30 * 60 * 1000

/-- `TERMINAL_VERIFY_CODES`. -/
def terminalVerifyCodes : List String := ["canceled", "failed", "invalid_authority"]

/-- `NON_EXPIRABLE_ATTEMPT_STATUSES`. -/
def nonExpirableAttemptStatuses : List PaymentAttemptStatus := [.succeeded, .failed, .canceled]

/-- `RETRYABLE_ATTEMPT_STATUSES`. -/
def retryableAttemptStatuses : List PaymentAttemptStatus := [.failed, .canceled, .expired]

/-- `/^[A-Za-z0-9._:-]{16,128}$/.test`. -/
def isIdempotencyKey (key : String) : Bool :=
  16 ≤ key.length && key.length ≤ 128 &&
    key.toList.all fun c => c.isAlphanum || c ∈ ['.', '_', ':', '-']

/-! ## Tasks -/

/-- Who started the verification or the settlement of an attempt. -/
inductive Origin where
  | callback
  | adminReverify
  | adminReconcile
  deriving DecidableEq

/-- A verification or settlement under way. -/
structure Call where
  origin : Origin
  attemptId : String
  now : ℤ
  deriving DecidableEq

/-- The input of `createExternalPaymentForAttempt`. -/
structure ExternalPayment where
  topUpId : String
  attemptId : String
  gateway : PaymentGatewayProvider
  amountRial : ℤ

/-- What `verifyAndSettleTopUpAttempt` has read before it asks the gateway. -/
structure VerifyRequest where
  gateway : PaymentGatewayProvider
  amount : ℤ
  currency : String
  authority : String
  statusHint : Option String

/-- The input of `recordPaymentReview`. -/
structure Review where
  reasonCode : String
  observedAmount : Option ℤ := none
  observedCurrency : Option String := none

inductive Task where
  /-- `provider.createPayment` has been called. -/
  | createPayment (input : ExternalPayment)
  /-- The transaction of `createExternalPaymentForAttempt` after an error of the gateway. -/
  | persistFailure (input : ExternalPayment) (code : String)
  /-- Its transaction after the gateway has made the payment. -/
  | persist (input : ExternalPayment) (payment : CreatePaymentResult)
  /-- Its fallback when that transaction fails. -/
  | persistReview (input : ExternalPayment) (payment : CreatePaymentResult)
  /-- `provider.verifyPayment` has been called. -/
  | verify (call : Call) (request : VerifyRequest)
  /-- The update of the attempt once the gateway has confirmed the payment. -/
  | markVerified (call : Call) (verified : VerifiedPayment)
  /-- `settleVerifiedAttempt`. -/
  | settle (call : Call) (verified : VerifiedPayment)
  /-- `recordPaymentReview` up to its read; a failure goes on with `fallback`. -/
  | reviewRead (call : Call) (review : Review) (fallback : Option Review)
  /-- The writes of `recordPaymentReview`, after what it has read of the attempt and the top-up. -/
  | reviewWrite (call : Call) (review : Review) (fallback : Option Review)
      (attempt : PaymentAttempt) (topUpStatus : TopUpStatus)
  /-- `recordTerminalFailure` up to its read. -/
  | failureRead (call : Call) (code : String)
  /-- The writes of `recordTerminalFailure`. -/
  | failureWrite (call : Call) (code : String) (topUpId : String)
  /-- The writes of `adminMarkPaymentDefinitivelyFailed`, which holds the lock of the attempt. -/
  | markFailedWrite (attempt : PaymentAttempt) (hasCase : Bool)
  /-- `persistAttemptAction` of an admin command. -/
  | recoveryAction (attemptId : String)

/-- What follows a call that returns: an admin command records its action. -/
def Call.done (call : Call) : List Task :=
  match call.origin with
  | .callback => []
  | .adminReverify | .adminReconcile => [.recoveryAction call.attemptId]

/-! ## Reads -/

namespace Db

/-- The first attempt in the order `attemptNumber: "desc"`. -/
def latest (rows : List PaymentAttempt) : Option PaymentAttempt :=
  rows.foldl (fun latest row =>
    match latest with
    | none => some row
    | some other => if other.attemptNumber < row.attemptNumber then some row else some other) none

/-- The latest attempt of a top-up. -/
def latestAttempt (db : Db) (topUpId : String) : Option PaymentAttempt :=
  latest (db.attempts.rows.filter fun row => row.walletTopUpId = topUpId)

/-- Another attempt of the top-up has succeeded. -/
def otherSucceeded (db : Db) (attempt : PaymentAttempt) : Bool :=
  db.attempts.rows.any fun row =>
    row.walletTopUpId = attempt.walletTopUpId && row.status = .succeeded && row.id ≠ attempt.id

/-- The owner of a top-up. -/
def ownerOf (db : Db) (topUp : WalletTopUp) : Option String :=
  (db.wallets.find? topUp.walletId).map WalletRow.userId

end Db

/-! ## Transactions -/

/-- What a transaction does: its statements, and the tasks that follow it. -/
structure Plan where
  statements : List Statement := []
  next : List Task := []

/-- Run a transaction: the database after it, and the tasks that follow. -/
def Plan.run (plan : Plan) (db : Db) : Option (Db × List Task) :=
  (execute plan.statements db).map (·, plan.next)

/-- The idempotency key of the credit of a top-up. -/
def creditKey (topUpId : String) : String := s!"topup_credit_{topUpId}"

/-- The idempotency key of the bonus of a top-up. -/
def bonusKey (topUpId : String) : String := s!"topup_bonus_{topUpId}"

/-- The ids of the entries that a settlement writes. -/
structure LedgerIds where
  credit : String
  bonus : String

/-- The credit of a top-up. -/
def creditData (ids : LedgerIds) (topUp : WalletTopUp) : CreditData where
  id := ids.credit
  walletId := topUp.walletId
  type := .topUp
  amount := topUp.amount
  referenceType := "wallet_topup"
  referenceId := topUp.id
  idempotencyKey := creditKey topUp.id

/-- The bonus of a top-up, if its coupon promises one. -/
def bonusData (ids : LedgerIds) (topUp : WalletTopUp) : Option CreditData :=
  match topUp.couponCode, topUp.bonusRialSnapshot with
  | some code, some bonus =>
      if code ≠ "" ∧ 0 < bonus then
        some {
          id := ids.bonus
          walletId := topUp.walletId
          type := .topUpBonus
          amount := bonus
          referenceType := "wallet_topup_bonus"
          referenceId := topUp.id
          idempotencyKey := bonusKey topUp.id }
      else none
  | _, _ => none

/-- The credit statements of a settlement. -/
def creditStatements (ids : LedgerIds) (topUp : WalletTopUp) : List Statement :=
  .credit (creditData ids topUp) :: ((bonusData ids topUp).map Statement.credit).toList

/-- The status updates of a settlement. -/
def successStatements (attempt : PaymentAttempt) (verified : VerifiedPayment) (now : ℤ) :
    List Statement := [
  .updateAttempt attempt.id {
    status := some .succeeded
    authority := some verified.authority
    gatewayReference := some verified.gatewayReference
    verifiedAt := some now
    failureCode := some none },
  .updateTopUp attempt.walletTopUpId {
    status := some .succeeded
    gateway := some attempt.gateway
    authority := some (some verified.authority)
    gatewayReference := some (some verified.gatewayReference)
    verifiedAt := some now
    failureCode := some none },
  .updateCases attempt.id none .resolved]

/-- The review of a payment whose top-up another payment has credited. -/
def duplicateReview (verified : VerifiedPayment) : Review where
  reasonCode := "duplicate_successful_payment"
  observedAmount := some verified.amountRial
  observedCurrency := some verified.currency

/-- The review of a confirmed payment whose credit has failed. -/
def pendingCreditReview (verified : VerifiedPayment) : Review where
  reasonCode := "wallet_credit_pending"
  observedAmount := some verified.amountRial
  observedCurrency := some verified.currency

/-- What a failure of `settleVerifiedAttempt` leads to: only
`verifyAndSettleTopUpAttempt` catches it. -/
def settleFallback (call : Call) (verified : VerifiedPayment) : Option Review :=
  if call.origin = .adminReconcile then none else some (pendingCreditReview verified)

/-- `settleVerifiedAttempt`; `none` when it throws. -/
def settlePlan (ids : LedgerIds) (call : Call) (verified : VerifiedPayment) (db : Db) :
    Option Plan := do
  let attempt ← db.attempts.find? call.attemptId
  let topUp ← db.topUps.find? attempt.walletTopUpId
  let existingLedger := (db.ledger.find? (creditKey attempt.walletTopUpId)).isSome
  if attempt.status = .succeeded ∧ existingLedger then pure { next := call.done }
  else if db.otherSucceeded attempt ∨ (topUp.status = .succeeded ∧ existingLedger) then
    pure { next := [.reviewRead call (duplicateReview verified) (settleFallback call verified)] }
  else do
    let wallet ← db.wallets.find? topUp.walletId
    if wallet.currency ≠ "IRR" then none
    else pure {
      statements := (if existingLedger then [] else creditStatements ids topUp) ++
        successStatements attempt verified call.now
      next := call.done }

/-- The transaction of a task; `none` when it throws or the task has none. -/
def Task.plan (ids : LedgerIds) (db : Db) : Task → Option Plan
  | createPayment _ => none
  | persistFailure input code => some {
      statements := [
        .updateAttemptUnlessSucceeded input.attemptId {
          status := some .failed, failureCode := some (some code) },
        .updateTopUpUnlessSucceeded input.topUpId {
          status := some .failed, failureCode := some (some code) }] }
  | persist input payment => some {
      statements := [
        .updateAttempt input.attemptId {
          status := some .pending
          authority := some payment.authority
          gatewayReference := some (payment.gatewayReference.getD payment.authority)
          redirectUrl := some payment.redirectUrl },
        .updateTopUp input.topUpId {
          gateway := some input.gateway
          status := some .pending
          authority := some (some payment.authority)
          gatewayReference := some (some (payment.gatewayReference.getD payment.authority))
          redirectUrl := some (some payment.redirectUrl)
          failureCode := some none }] }
  | persistReview input payment => some {
      statements := [
        .updateAttempt input.attemptId {
          status := some .review
          authority := some payment.authority
          gatewayReference := some (payment.gatewayReference.getD payment.authority)
          redirectUrl := some payment.redirectUrl
          failureCode := some (some "payment_intent_persist_failed") },
        .updateTopUpUnlessSucceeded input.topUpId {
          status := some .pending
          authority := some (some payment.authority)
          gatewayReference := some (some (payment.gatewayReference.getD payment.authority))
          redirectUrl := some (some payment.redirectUrl)
          failureCode := some (some "payment_intent_persist_failed") },
        .upsertCase {
          attemptId := input.attemptId
          walletTopUpId := input.topUpId
          status := .open
          reasonCode := "payment_intent_persist_failed"
          expectedAmount := input.amountRial
          expectedCurrency := "IRR" } { reasonCode := "payment_intent_persist_failed" }] }
  | verify _ _ => none
  | markVerified call verified => some {
      statements := [
        .updateAttemptUnlessSucceeded call.attemptId {
          authority := some verified.authority
          gatewayReference := some verified.gatewayReference
          verifiedAt := some call.now }]
      next := [.settle call verified] }
  | settle call verified => settlePlan ids call verified db
  | reviewRead call review fallback => do
      let attempt ← db.attempts.find? call.attemptId
      let topUp ← db.topUps.find? attempt.walletTopUpId
      if attempt.status = .succeeded then pure { next := call.done }
      else pure { next := [.reviewWrite call review fallback attempt topUp.status] }
  | reviewWrite call review _ attempt topUpStatus => some {
      statements := [
        .updateAttempt call.attemptId {
          status := some .review, failureCode := some (some review.reasonCode) }] ++
        (if topUpStatus = .succeeded then [] else [
          .updateTopUp attempt.walletTopUpId {
            status := some .pending, failureCode := some (some review.reasonCode) }]) ++ [
        .upsertCase {
          attemptId := call.attemptId
          walletTopUpId := attempt.walletTopUpId
          status := .open
          reasonCode := review.reasonCode
          expectedAmount := attempt.amount
          observedAmount := review.observedAmount
          expectedCurrency := attempt.currency
          observedCurrency := review.observedCurrency } {
          reasonCode := review.reasonCode
          observed := some (review.observedAmount, review.observedCurrency) }]
      next := call.done }
  | failureRead call code => do
      let attempt ← db.attempts.find? call.attemptId
      let topUp ← db.topUps.find? attempt.walletTopUpId
      if attempt.status = .succeeded ∨ topUp.status = .succeeded then pure { next := call.done }
      else pure { next := [.failureWrite call code attempt.walletTopUpId] }
  | failureWrite call code topUpId => some {
      statements := [
        .updateAttempt call.attemptId {
          status := some (if code = "canceled" then .canceled else .failed)
          failureCode := some (some code) },
        .updateTopUp topUpId {
          status := some (if code = "canceled" then .canceled else .failed)
          failureCode := some (some code) },
        .updateCases call.attemptId (some .resolved) .definitivelyFailed]
      next := call.done }
  | markFailedWrite attempt hasCase => some {
      statements := [
        .updateAttempt attempt.id {
          status := some .failed, failureCode := some (some "admin_definitively_failed") },
        .updateTopUp attempt.walletTopUpId {
          status := some .failed, failureCode := some (some "admin_definitively_failed") }] ++
        (if hasCase then [] else [
          .createCase {
            attemptId := attempt.id
            walletTopUpId := attempt.walletTopUpId
            status := .open
            reasonCode := "admin_definitively_failed"
            expectedAmount := attempt.amount
            expectedCurrency := attempt.currency }]) ++ [
        .updateCases attempt.id none .definitivelyFailed] }
  | recoveryAction attemptId => do
      let attempt ← db.attempts.find? attemptId
      if (db.cases.find? attemptId).isSome then pure {}
      else pure {
        statements := [
          .createCase {
            attemptId := attempt.id
            walletTopUpId := attempt.walletTopUpId
            status := if attempt.status = .succeeded then .resolved else .open
            reasonCode := "admin_recovery_action"
            expectedAmount := attempt.amount
            expectedCurrency := attempt.currency }] }

/-- What a call does when the transaction of its task fails. -/
def Task.onFault : Task → List Task
  | persist input payment => [.persistReview input payment]
  | markVerified call verified => [.reviewRead call (pendingCreditReview verified) none]
  | settle call verified =>
      ((settleFallback call verified).map fun review => .reviewRead call review none).toList
  | reviewRead call _ fallback => (fallback.map fun review => .reviewRead call review none).toList
  | reviewWrite call _ fallback _ _ =>
      (fallback.map fun review => .reviewRead call review none).toList
  | _ => []

/-! ## Calls -/

/-- The input of `createTopUpIntentRial`, with the ids and the gateway that it gets. -/
structure CreateInput where
  topUpId : String
  attemptId : String
  userId : String
  amountRial : ℤ
  gateway : PaymentGatewayProvider
  idempotencyKey : String
  callbackTokenHash : String
  purchaseOrderId : Option String := none
  requestFingerprint : Option String := none
  couponCode : Option String := none
  bonusRialSnapshot : Option ℤ := none
  now : ℤ

/-- The transaction of `createTopUpIntentRial`.  A key that was used before
creates nothing: the call returns the first top-up or throws. -/
def createPlan (input : CreateInput) (db : Db) : Option Plan :=
  if input.amountRial ≤ 0 ∨ input.amountRial > maxTopUpRial then none
  else do
    let wallet ← db.wallets.rows.find? fun row => row.userId = input.userId
    if db.topUps.rows.any fun row => row.idempotencyKey = input.idempotencyKey then none
    else pure {
      statements := [
        .createTopUp {
          id := input.topUpId
          walletId := wallet.id
          amount := input.amountRial
          gateway := input.gateway
          status := .created
          idempotencyKey := input.idempotencyKey
          purchaseOrderId := input.purchaseOrderId
          requestFingerprint := input.requestFingerprint
          couponCode := input.couponCode
          bonusRialSnapshot := input.bonusRialSnapshot
          callbackTokenHash := input.callbackTokenHash
          expiresAt := input.now + topUpTtlMs },
        .createAttempt {
          id := input.attemptId
          walletTopUpId := input.topUpId
          attemptNumber := 1
          amount := input.amountRial
          currency := "IRR"
          gateway := input.gateway
          status := .created
          callbackTokenHash := input.callbackTokenHash
          expiresAt := input.now + topUpTtlMs
          idempotencyKey := s!"payment-attempt:{input.topUpId}:1" }]
      next := [.createPayment ⟨input.topUpId, input.attemptId, input.gateway, input.amountRial⟩] }

/-- The input of `retryTopUpPayment`, with the id and the gateway that it gets. -/
structure RetryInput where
  attemptId : String
  userId : String
  topUpId : String
  gateway : PaymentGatewayProvider
  idempotencyKey : String
  callbackTokenHash : String
  now : ℤ

/-- The local deadline of an open attempt has passed. -/
def expires (attempt : PaymentAttempt) (now : ℤ) : Bool :=
  attempt.expiresAt ≤ now && attempt.status ∉ nonExpirableAttemptStatuses

/-- The transaction of `retryTopUpPayment`. -/
def retryPlan (input : RetryInput) (db : Db) : Option Plan :=
  if ¬ isIdempotencyKey input.idempotencyKey then none
  else if db.attempts.rows.any fun row => row.idempotencyKey = input.idempotencyKey then none
  else do
    let topUp ← db.topUps.find? input.topUpId
    if db.ownerOf topUp ≠ some input.userId ∨ topUp.status = .succeeded then none
    else
      let latest := db.latestAttempt topUp.id
      let expired := latest.any fun attempt => expires attempt input.now
      if latest.any (fun attempt => attempt.status ∉ retryableAttemptStatuses) ∧ ¬ expired then none
      else pure {
        statements :=
          ((latest.filter fun attempt => expires attempt input.now).map fun attempt =>
            Statement.updateAttempt attempt.id {
              status := some .expired, failureCode := some (some "expired") }).toList ++ [
          .createAttempt {
            id := input.attemptId
            walletTopUpId := topUp.id
            attemptNumber := (latest.map PaymentAttempt.attemptNumber).getD 0 + 1
            amount := topUp.amount
            currency := "IRR"
            gateway := input.gateway
            status := .created
            callbackTokenHash := input.callbackTokenHash
            expiresAt := input.now + topUpTtlMs
            idempotencyKey := input.idempotencyKey },
          .updateTopUp topUp.id {
            gateway := some input.gateway
            callbackTokenHash := some input.callbackTokenHash
            expiresAt := some (input.now + topUpTtlMs)
            status := some .created
            authority := some none
            gatewayReference := some none
            redirectUrl := some none
            failureCode := some none }]
        next := [.createPayment ⟨topUp.id, input.attemptId, input.gateway, topUp.amount⟩] }

/-- The start of `verifyAndSettleTopUpAttempt`: its read, up to the gateway call. -/
def startVerify (db : Db) (call : Call) (authority statusHint : Option String) : List Task :=
  match db.attempts.find? call.attemptId with
  | none => []
  | some attempt =>
      if attempt.status = .succeeded then call.done
      else
        match (authority.filter (· ≠ "")).or (attempt.authority.filter (· ≠ "")) with
        | none => []
        | some authority => [.verify call {
            gateway := attempt.gateway
            amount := attempt.amount
            currency := attempt.currency
            authority
            statusHint }]

/-- The parameters of a callback. -/
structure CallbackInput where
  expectedGateway : PaymentGatewayProvider
  paymentAttemptId : Option String
  topUpId : Option String
  tokenHash : String
  authority : Option String
  statusHint : Option String
  now : ℤ

/-- The attempt that a callback names: by its id, or the latest one of a top-up
that has the token. -/
def callbackAttempt (db : Db) (input : CallbackInput) : Option PaymentAttempt :=
  match input.paymentAttemptId, input.topUpId with
  | some attemptId, _ => db.attempts.find? attemptId
  | none, some topUpId =>
      Db.latest (db.attempts.rows.filter fun row =>
        row.walletTopUpId = topUpId && row.callbackTokenHash = input.tokenHash)
  | none, none => none

/-- `finalizeTopUpFromCallback`. -/
def startCallback (db : Db) (input : CallbackInput) : List Task :=
  match callbackAttempt db input with
  | none => []
  | some attempt =>
      if attempt.callbackTokenHash ≠ input.tokenHash ∨ attempt.gateway ≠ input.expectedGateway then
        []
      else startVerify db ⟨.callback, attempt.id, input.now⟩ input.authority input.statusHint

/-- `reconcileVerifiedWalletCredit`, up to its settlement. -/
def startReconcile (db : Db) (attemptId : String) (now : ℤ) : List Task :=
  match db.attempts.find? attemptId with
  | none => []
  | some attempt =>
      match attempt.verifiedAt, attempt.authority, attempt.gatewayReference with
      | some _, some authority, some gatewayReference =>
          if authority = "" ∨ gatewayReference = "" then []
          else [.settle ⟨.adminReconcile, attempt.id, now⟩
            ⟨authority, gatewayReference, attempt.amount, "IRR"⟩]
      | _, _, _ => []

/-- `adminMarkPaymentDefinitivelyFailed`, up to its writes. -/
def startMarkFailed (db : Db) (attemptId : String) : List Task :=
  match db.attempts.find? attemptId with
  | none => []
  | some attempt =>
      if attempt.status = .succeeded ∨ db.topUpSucceeded attempt.walletTopUpId then []
      else [.markFailedWrite attempt (db.cases.find? attemptId).isSome]

/-- What `verifyAndSettleTopUpAttempt` does with the answer of the gateway. -/
def afterVerify (call : Call) (request : VerifyRequest) (answer : GatewayAnswer) : Task :=
  match verifyPayment request.gateway ⟨request.authority, request.amount, request.statusHint⟩
      answer with
  | .error code => .reviewRead call { reasonCode := code } none
  | .ok (.failed code) =>
      if code ∈ terminalVerifyCodes then .failureRead call code
      else .reviewRead call { reasonCode := code } none
  | .ok (.ok verified) =>
      if verified.amountRial ≠ request.amount ∨ verified.currency ≠ request.currency then
        .reviewRead call {
          reasonCode :=
            if verified.amountRial ≠ request.amount then "amount_mismatch" else "currency_mismatch"
          observedAmount := some verified.amountRial
          observedCurrency := some verified.currency } none
      else .markVerified call verified

/-! ## Steps -/

abbrev State := Pool Db Task

/-- The state before the first call. -/
def State.initial : State := ⟨.empty, []⟩

inductive Event where
  /-- `ensureWalletForUser` for a user without a wallet. -/
  | ensureWallet (walletId userId : String)
  | create (input : CreateInput)
  | retry (input : RetryInput)
  | callback (input : CallbackInput)
  | adminReverify (attemptId : String) (now : ℤ)
  | adminReconcile (attemptId : String) (now : ℤ)
  | adminMarkFailed (attemptId : String)
  /-- The gateway answers a `createPayment`: the code of an error, or a payment. -/
  | paymentAnswer (task : ℕ) (answer : Except String CreatePaymentResult)
  /-- The gateway answers a `verifyPayment`. -/
  | verifyAnswer (task : ℕ) (answer : GatewayAnswer)
  /-- The transaction of a task commits; an acknowledgement that gets lost looks like a failure. -/
  | commit (task : ℕ) (ids : LedgerIds) (acknowledged : Bool)
  /-- The transaction of a task fails. -/
  | fault (task : ℕ)
  | crash (task : ℕ)

/-- The attempt that a task writes. -/
def Task.writesAttempt : Task → Option String
  | persistFailure input _ | persist input _ | persistReview input _ => some input.attemptId
  | markVerified call _ | settle call _ | reviewWrite call _ _ _ _ | failureWrite call _ _ =>
      some call.attemptId
  | markFailedWrite attempt _ => some attempt.id
  | _ => none

/-- Some other task than the one at place `i` holds the lock of an attempt. -/
def locked (tasks : List Task) (attemptId : String) (i : Option ℕ) : Bool :=
  tasks.zipIdx.any fun (task, j) =>
    some j ≠ i &&
      match task with
      | .markFailedWrite attempt _ => attempt.id = attemptId
      | _ => false

/-- The transaction of the task at place `i` commits, unless it has to wait for
a lock; a transaction that throws leaves the database as it was. -/
def commitTask (state : State) (i : ℕ) (task : Task) (ids : LedgerIds) (acknowledged : Bool) :
    State :=
  if task.writesAttempt.any fun attemptId => locked state.tasks attemptId (some i) then state
  else
    match (task.plan ids state.db).bind fun plan => plan.run state.db with
    | some (db, next) => state.finish i db (if acknowledged then next else task.onFault)
    | none => state.finish i state.db task.onFault

/-- The transaction that starts a call, and its first task. -/
def startCall (state : State) (plan : Option Plan) : State :=
  match plan.bind fun plan => plan.run state.db with
  | some (db, next) => Pool.start ⟨db, state.tasks⟩ next
  | none => state

/-- A retry has to wait when the attempt that it would expire is locked. -/
def retryWaits (state : State) (input : RetryInput) : Bool :=
  (state.db.latestAttempt input.topUpId).any fun attempt =>
    expires attempt input.now && locked state.tasks attempt.id none

/-- The transaction that an event runs, if it runs one. -/
def eventPlan (state : State) : Event → Option Plan
  | .ensureWallet walletId userId => some {
      statements := [.createWallet {
        id := walletId, userId, availableBalance := 0, status := .active }] }
  | .create input => createPlan input state.db
  | .retry input => if retryWaits state input then none else retryPlan input state.db
  | .commit i ids _ => state.tasks[i]?.bind fun task => task.plan ids state.db
  | _ => none

def stepState (state : State) : Event → State
  | .ensureWallet walletId userId => startCall state (eventPlan state (.ensureWallet walletId userId))
  | .create input => startCall state (eventPlan state (.create input))
  | .retry input => startCall state (eventPlan state (.retry input))
  | .callback input => state.start (startCallback state.db input)
  | .adminReverify attemptId now =>
      state.start (startVerify state.db ⟨.adminReverify, attemptId, now⟩ none none)
  | .adminReconcile attemptId now => state.start (startReconcile state.db attemptId now)
  | .adminMarkFailed attemptId =>
      if locked state.tasks attemptId none then state
      else state.start (startMarkFailed state.db attemptId)
  | .paymentAnswer i answer =>
      match state.tasks[i]?, answer with
      | some (.createPayment input), .ok payment =>
          state.finish i state.db [.persist input payment]
      | some (.createPayment input), .error code =>
          state.finish i state.db [.persistFailure input code]
      | _, _ => state
  | .verifyAnswer i answer =>
      match state.tasks[i]? with
      | some (.verify call request) => state.finish i state.db [afterVerify call request answer]
      | _ => state
  | .commit i ids acknowledged =>
      match state.tasks[i]? with
      | some (.createPayment _) | some (.verify _ _) | none => state
      | some task => commitTask state i task ids acknowledged
  | .fault i =>
      match state.tasks[i]? with
      | some (.createPayment _) | some (.verify _ _) | none => state
      | some task => state.finish i state.db task.onFault
  | .crash i => state.finish i state.db []

/-- One event.  Its result is the state that it leaves. -/
def step (state : State) (event : Event) : State × Unit := (stepState state event, ())

end AbrChin.TopUp
