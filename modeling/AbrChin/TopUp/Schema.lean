import AbrChin.Lib.Index
import AbrChin.Payments.Providers
import AbrChin.Wallet.Schema

/-!
# Top-ups, payment attempts and recovery cases

The rows that `lib/wallet/topup.ts` and `lib/payments/recovery.ts` write.

The `data` of an update names the columns it writes: `AttemptData`, `TopUpData`.
A column that is `none` there keeps its value.  Messages for people, metadata,
`nextReconcileAt` and `verificationAttempts` are left out: the code writes them
and never reads them.
-/

namespace AbrChin.TopUp

open Lib Payments Wallet

/-! ## Rows -/

inductive TopUpStatus where
  | created
  | pending
  | succeeded
  | failed
  | canceled
  | expired
  deriving DecidableEq

inductive PaymentAttemptStatus where
  | created
  | pending
  | succeeded
  | review
  | failed
  | canceled
  | expired
  deriving DecidableEq

inductive PaymentReviewStatus where
  | «open»
  | reconciling
  | resolved
  | definitivelyFailed
  | refundReview
  deriving DecidableEq

structure WalletTopUp where
  id : String
  walletId : String
  amount : ℤ
  gateway : PaymentGatewayProvider
  status : TopUpStatus
  authority : Option String := none
  gatewayReference : Option String := none
  idempotencyKey : String
  callbackTokenHash : String
  failureCode : Option String := none
  verifiedAt : Option ℤ := none
  expiresAt : ℤ
  purchaseOrderId : Option String
  requestFingerprint : Option String
  redirectUrl : Option String := none
  couponCode : Option String
  bonusRialSnapshot : Option ℤ
  deriving DecidableEq

structure PaymentAttempt where
  id : String
  walletTopUpId : String
  attemptNumber : ℕ
  amount : ℤ
  currency : String
  gateway : PaymentGatewayProvider
  status : PaymentAttemptStatus
  authority : Option String := none
  gatewayReference : Option String := none
  callbackTokenHash : String
  expiresAt : ℤ
  verifiedAt : Option ℤ := none
  failureCode : Option String := none
  idempotencyKey : String
  redirectUrl : Option String := none
  deriving DecidableEq

structure PaymentRecoveryCase where
  attemptId : String
  walletTopUpId : String
  status : PaymentReviewStatus
  reasonCode : String
  expectedAmount : ℤ
  expectedCurrency : String
  observedAmount : Option ℤ := none
  observedCurrency : Option String := none
  deriving DecidableEq

/-! ## Unique columns -/

/-- The unique columns of `WalletTopUp`. -/
def WalletTopUp.indexes : List (WalletTopUp → Option String) :=
  [(·.authority), (·.gatewayReference), fun row => some row.idempotencyKey]

/-- The unique columns of `PaymentAttempt`; the last is `(walletTopUpId, attemptNumber)`. -/
def PaymentAttempt.indexes : List (PaymentAttempt → Option (String × ℕ)) :=
  [fun row => row.authority.map (·, 0), fun row => row.gatewayReference.map (·, 0),
    fun row => some (row.idempotencyKey, 0), fun row => some (row.walletTopUpId, row.attemptNumber)]

structure Db where
  wallets : IndexedTable WalletRow.id [fun row => some row.userId]
  ledger : Table WalletLedgerEntry.idempotencyKey
  topUps : IndexedTable WalletTopUp.id WalletTopUp.indexes
  attempts : IndexedTable PaymentAttempt.id PaymentAttempt.indexes
  cases : Table PaymentRecoveryCase.attemptId

/-- The database before the first call. -/
def Db.empty : Db := ⟨.empty, .empty, .empty, .empty, .empty⟩

/-! ## The data of updates -/

/-- The `data` of an update of `PaymentAttempt`. -/
structure AttemptData where
  status : Option PaymentAttemptStatus := none
  authority : Option String := none
  gatewayReference : Option String := none
  verifiedAt : Option ℤ := none
  failureCode : Option (Option String) := none
  redirectUrl : Option String := none

def AttemptData.apply (data : AttemptData) (row : PaymentAttempt) : PaymentAttempt :=
  { row with
    status := data.status.getD row.status
    authority := data.authority <|> row.authority
    gatewayReference := data.gatewayReference <|> row.gatewayReference
    verifiedAt := data.verifiedAt <|> row.verifiedAt
    failureCode := data.failureCode.getD row.failureCode
    redirectUrl := data.redirectUrl <|> row.redirectUrl }

/-- The `data` of an update of `WalletTopUp`. -/
structure TopUpData where
  status : Option TopUpStatus := none
  gateway : Option PaymentGatewayProvider := none
  authority : Option (Option String) := none
  gatewayReference : Option (Option String) := none
  callbackTokenHash : Option String := none
  verifiedAt : Option ℤ := none
  expiresAt : Option ℤ := none
  failureCode : Option (Option String) := none
  redirectUrl : Option (Option String) := none

def TopUpData.apply (data : TopUpData) (row : WalletTopUp) : WalletTopUp :=
  { row with
    status := data.status.getD row.status
    gateway := data.gateway.getD row.gateway
    authority := data.authority.getD row.authority
    gatewayReference := data.gatewayReference.getD row.gatewayReference
    callbackTokenHash := data.callbackTokenHash.getD row.callbackTokenHash
    verifiedAt := data.verifiedAt <|> row.verifiedAt
    expiresAt := data.expiresAt.getD row.expiresAt
    failureCode := data.failureCode.getD row.failureCode
    redirectUrl := data.redirectUrl.getD row.redirectUrl }

/-- The `update` of an upsert of `PaymentRecoveryCase`; `none` keeps what was observed. -/
structure CaseData where
  reasonCode : String
  observed : Option (Option ℤ × Option String) := none

def CaseData.apply (data : CaseData) (row : PaymentRecoveryCase) : PaymentRecoveryCase :=
  { row with
    status := .open
    reasonCode := data.reasonCode
    observedAmount := (data.observed.map Prod.fst).getD row.observedAmount
    observedCurrency := (data.observed.map Prod.snd).getD row.observedCurrency }

theorem CaseData.attemptId_apply (data : CaseData) (row : PaymentRecoveryCase) :
    (data.apply row).attemptId = row.attemptId := rfl

section Apply

variable (data : AttemptData) (attempt : PaymentAttempt) (topUpData : TopUpData)
  (topUp : WalletTopUp)

@[simp] theorem AttemptData.apply_status :
    (data.apply attempt).status = data.status.getD attempt.status := rfl

@[simp] theorem AttemptData.apply_empty : ({} : AttemptData).apply attempt = attempt := by
  cases attempt
  simp [AttemptData.apply]

@[simp] theorem TopUpData.apply_status :
    (topUpData.apply topUp).status = topUpData.status.getD topUp.status := rfl

@[simp] theorem TopUpData.apply_empty : ({} : TopUpData).apply topUp = topUp := by
  cases topUp
  rfl

end Apply

end AbrChin.TopUp
