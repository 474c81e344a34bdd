import AbrChin.Lib.Versions
import AbrChin.Pricing.PlanPricing
import AbrChin.TopUp.Schema
import AbrChin.Wallet.Books

/-!
# The writers of the wallet

Every transaction that changes a balance, as far as it reads and writes the
books: the ledger functions of `lib/wallet/ledger.ts` and the wallet parts of
top-ups, orders, renewals, cancellations and billing.  `seen` is what the
unlocked reads of a call saw, in the order in which the code makes them; the rows
that a transaction updates are those of the version it commits to.  `NewIds` are
the ids that the database draws for its new rows.
-/

namespace AbrChin.Wallet

open Lib Pricing

structure NewIds where
  wallet : String
  entry : String
  bonus : String := ""

/-! ## `lib/wallet/ledger.ts` -/

structure CreditInput where
  userId : String
  amountRial : ℤ
  type : LedgerType
  idempotencyKey : String
  referenceType : Option String := none
  referenceId : Option String := none

/-- The entry of a credit or debit that is asked for directly. -/
def CreditInput.data (input : CreditInput) (direction : LedgerDirection) (id walletId : String) :
    Books.EntryData where
  id
  walletId
  direction
  type := input.type
  amount := input.amountRial
  referenceType := input.referenceType
  referenceId := input.referenceId
  idempotencyKey := input.idempotencyKey

/-- The wallet of a user, opened when there is none, which has to be active. -/
def activeWallet (seen : Books) (userId newId : String) : Tx Books String WalletRow := do
  let wallet ← Books.ensureWalletForUser seen userId newId
  Tx.throwIf (wallet.status ≠ .active) "wallet_frozen"
  pure wallet

def creditWallet (input : CreditInput) (ids : NewIds) (seen : ℕ → Books) :
    Tx Books String WalletLedgerEntry := do
  Tx.throwIf (input.amountRial ≤ 0) "invalid_amount"
  match (seen 0).ledger.find? input.idempotencyKey with
  | some existing =>
      Tx.throwIf (¬ (existing.status = .completed ∧ existing.direction = .credit))
        "idempotency_conflict"
      pure existing
  | none =>
      let wallet ← activeWallet (seen 1) input.userId ids.wallet
      Books.credit (input.data .credit ids.entry wallet.id)

def debitWallet (input : CreditInput) (ids : NewIds) (seen : ℕ → Books) :
    Tx Books String WalletLedgerEntry := do
  Tx.throwIf (input.amountRial ≤ 0) "invalid_amount"
  match (seen 0).ledger.find? input.idempotencyKey with
  | some existing =>
      Tx.throwIf (¬ (existing.status = .completed ∧ existing.direction = .debit))
        "idempotency_conflict"
      pure existing
  | none =>
      let wallet ← activeWallet (seen 1) input.userId ids.wallet
      Books.debit (input.data .debit ids.entry wallet.id) true

structure ReverseInput where
  userId : String
  originalEntryId : String
  idempotencyKey : String

/-- The entry that reverses another one. -/
def ReverseInput.data (input : ReverseInput) (original : WalletLedgerEntry)
    (direction : LedgerDirection) (type : LedgerType) (id : String) : Books.EntryData where
  id
  walletId := original.walletId
  direction
  type
  amount := original.amount
  referenceType := some "ledger"
  referenceId := some original.id
  idempotencyKey := input.idempotencyKey
  reversedEntryId := some original.id

def reverseLedgerEntry (input : ReverseInput) (ids : NewIds) (seen : ℕ → Books) :
    Tx Books String WalletLedgerEntry :=
  match (seen 0).ledger.find? input.idempotencyKey with
  | some existing => do
      Tx.throwIf (existing.status ≠ .completed) "idempotency_conflict"
      pure existing
  | none => do
      let original ← Tx.orThrow "invalid_entry" ((seen 1).entryById input.originalEntryId)
      Tx.throwIf (original.status ≠ .completed) "invalid_entry"
      match (seen 2).reverseOf original.id with
      | some prior => pure prior
      | none =>
          let wallet ← Tx.orThrow "P2025" ((seen 3).wallets.find? original.walletId)
          Tx.throwIf (wallet.userId ≠ input.userId) "forbidden"
          match original.direction with
          | .debit => Books.credit (input.data original .credit .refund ids.entry)
          | .credit => Books.debit (input.data original .debit .adminAdjustment ids.entry) false

/-! ## Top-ups -/

/-- A top-up as `createTopUpIntentRial` issues it, for a positive amount. -/
structure IssuedTopUp extends TopUp.WalletTopUp where
  positive : 0 < amount

/-- `settleVerifiedAttempt`: the credit of a top-up and its bonus. -/
def settleVerifiedAttempt (topUp : IssuedTopUp) (ids : NewIds) (seen : ℕ → Books) :
    Tx Books String Unit := do
  let wallet ← Tx.orThrow "P2025" ((seen 1).wallets.find? topUp.walletId)
  Tx.throwIf (wallet.currency ≠ "IRR") "wallet_currency_mismatch"
  match (seen 0).ledger.find? s!"topup_credit_{topUp.id}" with
  | some _ => pure ()
  | none =>
      let _ ← Books.credit {
        id := ids.entry
        walletId := wallet.id
        direction := .credit
        type := .topUp
        amount := topUp.amount
        referenceType := some "wallet_topup"
        referenceId := some topUp.id
        idempotencyKey := s!"topup_credit_{topUp.id}" }
      match topUp.bonusRialSnapshot.filter fun bonus => 0 < bonus ∧ topUp.couponCode.isSome with
      | none => pure ()
      | some bonus =>
          let _ ← Books.credit {
            id := ids.bonus
            walletId := wallet.id
            direction := .credit
            type := .topUpBonus
            amount := bonus
            referenceType := some "wallet_topup_bonus"
            referenceId := some topUp.id
            idempotencyKey := s!"topup_bonus_{topUp.id}" }
          pure ()

/-- `requestControlledTopUpRefund`: a SERIALIZABLE transaction, so that locking a
wallet that has changed since the transaction began is refused. -/
def requestControlledTopUpRefund (topUp : IssuedTopUp) (refundId : String) (ids : NewIds)
    (seen : ℕ → Books) : Tx Books String Unit := do
  let wallet ← Tx.orThrow "P2025" ((seen 0).wallets.find? topUp.walletId)
  let current ← Tx.get
  Tx.throwIf (current.wallets.find? topUp.walletId ≠ some wallet) "P2034"
  if topUp.amount ≤ wallet.availableBalance then
    let _ ← Books.debitLocked {
      id := ids.entry
      walletId := topUp.walletId
      direction := .debit
      type := .topUpRefund
      amount := topUp.amount
      referenceType := some "wallet_topup_refund"
      referenceId := some refundId
      idempotencyKey := s!"topup_refund_debit:{topUp.id}" }
    pure ()
  else pure ()

/-! ## Orders -/

def orderPayKey (orderId : String) : String := s!"order_pay_{orderId}"

def orderRefundKey (orderId : String) : String := s!"order_refund_{orderId}"

def cancelRefundKey (orderId : String) : String := s!"order_cancel_refund_{orderId}"

/-- The debit of an order. -/
def orderDebit (orderId : String) (amountRial : ℤ) (id walletId : String) : Books.EntryData where
  id
  walletId
  direction := .debit
  type := .servicePurchase
  amount := amountRial
  referenceType := some "order"
  referenceId := some orderId
  idempotencyKey := orderPayKey orderId

/-- The debit part of `executePayOrderWithWalletTx`. -/
def chargeOrder (userId orderId : String) (amountRial : ℤ) (ids : NewIds) (seen : Books) :
    Tx Books String WalletLedgerEntry := do
  let wallet ← activeWallet seen userId ids.wallet
  Books.debit (orderDebit orderId amountRial ids.entry wallet.id) true

/-- `executePayOrderWithWalletTx`: nothing more to charge when its entry is there. -/
def payOrder (userId orderId : String) (amountRial : ℤ) (ids : NewIds) (seen : ℕ → Books) :
    Tx Books String Unit := do
  Tx.throwIf (amountRial ≤ 1) "pricing_unavailable"
  if ((seen 0).ledger.find? (orderPayKey orderId)).any (·.status = .completed) then pure ()
  else
    let _ ← chargeOrder userId orderId amountRial ids (seen 1)
    pure ()

/-- The completed debit of an order. -/
def Books.orderDebitOf (books : Books) (orderId : String) : Option WalletLedgerEntry :=
  books.ledger.rows.find? fun entry =>
    entry.referenceType = some "order" && entry.referenceId = some orderId &&
      entry.type = .servicePurchase && entry.status = .completed && entry.direction = .debit

/-- The refund that an order has had before: under its key, or as a reversal of its debit. -/
def Books.priorRefund (byKey byReversal : Books) (orderId debitId : String) :
    Option WalletLedgerEntry :=
  byKey.ledger.find? (orderRefundKey orderId) <|>
    byReversal.ledger.rows.find? fun entry =>
      entry.type = .refund && entry.reversal = some debitId

/-- The credit part of `refundOrder`: the entry that pays the debit back. -/
def creditOrderRefund (orderId : String) (ids : NewIds) (seen : ℕ → Books) :
    Tx Books String WalletLedgerEntry := do
  let debit ← Tx.orThrow "missing_debit" ((seen 0).orderDebitOf orderId)
  match Books.priorRefund (seen 1) (seen 2) orderId debit.id with
  | some prior =>
      Tx.throwIf (prior.walletId ≠ debit.walletId ∨ prior.direction ≠ .credit ∨
        prior.type ≠ .refund ∨ prior.status ≠ .completed ∨ prior.amount ≠ debit.amount ∨
        prior.reversedEntryId ≠ some debit.id) "idempotency_conflict"
      pure prior
  | none =>
      Books.credit {
        id := ids.entry
        walletId := debit.walletId
        direction := .credit
        type := .refund
        amount := debit.amount
        referenceType := some "ledger"
        referenceId := some debit.id
        idempotencyKey := orderRefundKey orderId
        reversedEntryId := some debit.id }

/-- `creditCancellationRefundTx` -/
def creditCancellationRefund (userId orderId : String) (amountRial : ℤ) (ids : NewIds)
    (seen : ℕ → Books) : Tx Books String WalletLedgerEntry :=
  match (seen 0).ledger.find? (cancelRefundKey orderId) with
  | some existing => do
      Tx.throwIf (¬ (existing.status = .completed ∧ existing.direction = .credit ∧
        existing.amount = amountRial)) "idempotency_conflict"
      pure existing
  | none => do
      let wallet ← activeWallet (seen 1) userId ids.wallet
      Books.credit {
        id := ids.entry
        walletId := wallet.id
        direction := .credit
        type := .refund
        amount := amountRial
        referenceType := some "order"
        referenceId := some orderId
        idempotencyKey := cancelRefundKey orderId }

/-- The wallet part of the second transaction of `completeCancellationAfterTermination`. -/
def completeCancellation (userId orderId : String) (refundableRial : ℤ) (ids : NewIds)
    (seen : ℕ → Books) : Tx Books String Unit := do
  if ((seen 0).ledger.find? (cancelRefundKey orderId)).isSome then pure ()
  else if 0 < refundableRial then
    let _ ← creditCancellationRefund userId orderId refundableRial ids fun place => seen (place + 1)
    pure ()
  else pure ()

/-! ## Renewals -/

def renewalPayKey (quoteId : String) : String := s!"renewal_quote_pay_{quoteId}"

/-- What a renewal is priced with. -/
structure RenewalPricing where
  plan : InfrastructurePlan
  config : Option ℤ
  productMarkupBasisPoints : ℤ
  taxBasisPoints : ℤ
  parchinLevel : ParchinLevel
  parchinPriceRial : ℤ
  now : ℤ

/-- The current price of a renewal, which has no term and no coupon. -/
def RenewalPricing.current (pricing : RenewalPricing) :
    Except String (Option EffectivePlanPricing) :=
  resolvePlanPricing pricing.plan pricing.config {
    productMarkupBasisPoints := pricing.productMarkupBasisPoints
    taxBasisPoints := pricing.taxBasisPoints
    parchinLevel := some pricing.parchinLevel
    parchinPriceRial := pricing.parchinPriceRial } pricing.now

/-- The price of a quote is confirmed when it is still the current one. -/
def confirmRenewalPrice (pricing : RenewalPricing) (snapshot : PriceSnapshot) :
    Except String EffectivePlanPricing := do
  match ← pricing.current with
  | none => .error "renewal_unavailable"
  | some current => do
      throwIf (¬ samePriceSnapshot current snapshot) "quote_price_changed"
      pure current

/-- The debit part of `payRenewalQuote`. -/
def chargeRenewal (userId quoteId : String) (finalPriceRial : ℤ) (ids : NewIds) (seen : Books) :
    Tx Books String WalletLedgerEntry := do
  let wallet ← activeWallet seen userId ids.wallet
  Books.debit {
    id := ids.entry
    walletId := wallet.id
    direction := .debit
    type := .serviceRenewal
    amount := finalPriceRial
    referenceType := some "renewal_quote"
    referenceId := some quoteId
    idempotencyKey := renewalPayKey quoteId } true

/-- `payRenewalQuote`: nothing more to charge when its entry is there. -/
def payRenewal (userId quoteId : String) (pricing : RenewalPricing) (snapshot : PriceSnapshot)
    (ids : NewIds) (seen : ℕ → Books) : Tx Books String Unit := do
  let current ← Tx.ofExcept (confirmRenewalPrice pricing snapshot)
  if ((seen 0).ledger.find? (renewalPayKey quoteId)).any (·.status = .completed) then pure ()
  else
    let _ ← chargeRenewal userId quoteId current.finalPriceRial ids (seen 1)
    pure ()

/-! ## Billing -/

/-- What `processSnapshot` draws from the wallet of an invoice. -/
structure InvoiceCharge where
  invoiceId : String
  userId : String
  totalAmountRial : ℤ
  ids : NewIds

def invoiceDebitKey (invoiceId : String) : String := s!"billing-invoice-debit:{invoiceId}"

/-- What a balance pays of a total. -/
def payable (balance total : ℤ) : ℤ := if balance < total then balance else total

/-- The settlement part of `processSnapshot`: the wallet is locked and read, and
pays what it has.  The result is the paid amount. -/
def settleInvoice (charge : InvoiceCharge) (walletId : String) : Tx Books String ℤ := do
  let books ← Tx.get
  let wallet ← Tx.orThrow "P2025" (books.wallets.find? walletId)
  let paidAmountRial := payable wallet.availableBalance charge.totalAmountRial
  if 0 < paidAmountRial then
    let _ ← Books.debitLocked {
      id := charge.ids.entry
      walletId
      direction := .debit
      type := .usageSettlement
      amount := paidAmountRial
      referenceType := some "billing_invoice"
      referenceId := some charge.invoiceId
      idempotencyKey := invoiceDebitKey charge.invoiceId }
    pure paidAmountRial
  else pure paidAmountRial

/-- A billing run settles its invoices one after another in one transaction; the
wallets of the users are those that its snapshot saw. -/
def settleInvoices (seen : Books) : List InvoiceCharge → Tx Books String Unit
  | [] => pure ()
  | charge :: rest => do
      let wallet ← Books.ensureWalletForUser seen charge.userId charge.ids.wallet
      let _ ← settleInvoice charge wallet.id
      settleInvoices seen rest

/-- The entry of an adjustment, and the move of the balance that goes with it. -/
def moveAdjustment (reconciliationId adjustmentId walletId : String) (isDebit : Bool)
    (settledAmountRial : ℤ) (id : String) : Tx Books String WalletLedgerEntry :=
  let data : Books.EntryData := {
    id
    walletId
    direction := if isDebit then .debit else .credit
    type := .billingAdjustment
    amount := settledAmountRial
    referenceType := some "billing_adjustment"
    referenceId := some adjustmentId
    idempotencyKey := s!"billing-adjustment-ledger:{reconciliationId}" }
  if isDebit then Books.debitLocked data else Books.credit data

/-- `applyProviderBillingAdjustment`: a debit takes what the balance covers. -/
def applyProviderBillingAdjustment (reconciliationId adjustmentId walletId : String)
    (amountRial : ℤ) (ids : NewIds) : Tx Books String Unit := do
  Tx.throwIf (amountRial = 0) "invalid_adjustment_amount"
  let books ← Tx.get
  let wallet ← Tx.orThrow "P2025" (books.wallets.find? walletId)
  let isDebit : Bool := 0 < amountRial
  let settledAmountRial :=
    if isDebit then payable wallet.availableBalance amountRial else -amountRial
  if 0 < settledAmountRial then
    let _ ← moveAdjustment reconciliationId adjustmentId walletId isDebit settledAmountRial ids.entry
    pure ()
  else pure ()

/-! ## Calls -/

/-- One call that changes the books. -/
inductive Writer where
  | credit (input : CreditInput) (ids : NewIds)
  | debit (input : CreditInput) (ids : NewIds)
  | reverse (input : ReverseInput) (ids : NewIds)
  | settleTopUp (topUp : IssuedTopUp) (ids : NewIds)
  | payOrder (userId orderId : String) (amountRial : ℤ) (ids : NewIds)
  | payRenewal (userId quoteId : String) (pricing : RenewalPricing) (snapshot : PriceSnapshot)
      (ids : NewIds)
  | refundOrder (orderId : String) (ids : NewIds)
  | cancel (userId orderId : String) (refundableRial : ℤ) (ids : NewIds)
  | refundTopUp (topUp : IssuedTopUp) (refundId : String) (ids : NewIds)
  | settleBilling (charges : List InvoiceCharge)
  | adjust (reconciliationId adjustmentId walletId : String) (amountRial : ℤ) (ids : NewIds)
  /-- An admin freezes a wallet or makes it active again. -/
  | mark (walletId : String) (status : WalletStatus)

/-- Run a call for its writes only. -/
def Writer.tx (writer : Writer) (seen : ℕ → Books) : Tx Books String Unit :=
  match writer with
  | credit input ids => do let _ ← creditWallet input ids seen
  | debit input ids => do let _ ← debitWallet input ids seen
  | reverse input ids => do let _ ← reverseLedgerEntry input ids seen
  | settleTopUp topUp ids => settleVerifiedAttempt topUp ids seen
  | payOrder userId orderId amountRial ids => Wallet.payOrder userId orderId amountRial ids seen
  | payRenewal userId quoteId pricing snapshot ids =>
      Wallet.payRenewal userId quoteId pricing snapshot ids seen
  | refundOrder orderId ids => do let _ ← creditOrderRefund orderId ids seen
  | cancel userId orderId refundableRial ids =>
      completeCancellation userId orderId refundableRial ids seen
  | refundTopUp topUp refundId ids => requestControlledTopUpRefund topUp refundId ids seen
  | settleBilling charges => settleInvoices (seen 0) charges
  | adjust reconciliationId adjustmentId walletId amountRial ids =>
      applyProviderBillingAdjustment reconciliationId adjustmentId walletId amountRial ids
  | mark walletId status => Tx.attempt "P2002" fun books =>
      (books.wallets.modify? walletId (·.withStatus status) fun _ => rfl).map
        ({ books with wallets := · })

/-- One step of the books: a call commits, or throws and changes nothing. -/
def stepBooks : Versions Books → Versions.Call Writer → Versions Books × Except String Unit :=
  Versions.step Writer.tx

end AbrChin.Wallet
