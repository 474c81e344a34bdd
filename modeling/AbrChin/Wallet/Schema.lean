import Mathlib.Data.List.Basic
import Mathlib.Algebra.Order.Ring.Int

/-!
# Wallets and their ledger

The rows of `Wallet` and `WalletLedgerEntry` and the totals the invariants talk
about.  Amounts are `bigint` in the source, hence `ℤ`.  Descriptions, metadata
and creation times are left out: no modelled function reads them.
-/

namespace AbrChin.Wallet

inductive WalletStatus where
  | active
  | frozen
  deriving DecidableEq

inductive LedgerDirection where
  | credit
  | debit
  deriving DecidableEq

inductive LedgerType where
  | topUp
  | topUpBonus
  | topUpRefund
  | servicePurchase
  | serviceRenewal
  | usageSettlement
  | billingAdjustment
  | refund
  | adminAdjustment
  | messagegoReserveHold
  | messagegoSettlement
  | messagegoHoldRelease
  deriving DecidableEq

inductive LedgerStatus where
  | pending
  | completed
  | reversed
  | failed
  deriving DecidableEq

structure WalletRow where
  id : String
  userId : String
  availableBalance : ℤ
  status : WalletStatus
  currency : String := "IRR"
  deriving DecidableEq

/-- A wallet row whose balance changes by an amount. -/
def WalletRow.add (wallet : WalletRow) (amount : ℤ) : WalletRow :=
  { wallet with availableBalance := wallet.availableBalance + amount }

@[simp] theorem WalletRow.id_add (wallet : WalletRow) (amount : ℤ) :
    (wallet.add amount).id = wallet.id := rfl

/-- A wallet row whose status changes. -/
def WalletRow.withStatus (wallet : WalletRow) (status : WalletStatus) : WalletRow :=
  { wallet with status }

@[simp] theorem WalletRow.id_withStatus (wallet : WalletRow) (status : WalletStatus) :
    (wallet.withStatus status).id = wallet.id := rfl

structure WalletLedgerEntry where
  id : String
  walletId : String
  direction : LedgerDirection
  type : LedgerType
  amount : ℤ
  status : LedgerStatus
  referenceType : Option String
  referenceId : Option String
  idempotencyKey : String
  balanceAfter : ℤ
  reversedEntryId : Option String := none
  deriving DecidableEq

/-- What an entry adds to the balance. -/
def WalletLedgerEntry.signedAmount (entry : WalletLedgerEntry) : ℤ :=
  match entry.direction with
  | .credit => entry.amount
  | .debit => -entry.amount

/-- The sum of the amounts of one direction. -/
def total (direction : LedgerDirection) (entries : List WalletLedgerEntry) : ℤ :=
  ((entries.filter fun entry => entry.direction = direction).map WalletLedgerEntry.amount).sum

/-- The sum of the CREDIT amounts. -/
abbrev credits (entries : List WalletLedgerEntry) : ℤ := total .credit entries

/-- The sum of the DEBIT amounts. -/
abbrev debits (entries : List WalletLedgerEntry) : ℤ := total .debit entries

@[simp] theorem total_cons (direction : LedgerDirection) (entry : WalletLedgerEntry)
    (rest : List WalletLedgerEntry) :
    total direction (entry :: rest) =
      (if entry.direction = direction then entry.amount else 0) + total direction rest := by
  by_cases h : entry.direction = direction <;> simp [total, h]

/-- Credits less debits: what a list of entries adds to a balance. -/
def net (entries : List WalletLedgerEntry) : ℤ :=
  (entries.map WalletLedgerEntry.signedAmount).sum

theorem net_eq (entries : List WalletLedgerEntry) :
    net entries = credits entries - debits entries := by
  induction entries with
  | nil => rfl
  | cons entry rest ih =>
      have hcons : net (entry :: rest) = entry.signedAmount + net rest := by simp [net]
      rw [hcons, ih]
      unfold credits debits
      cases hdirection : entry.direction <;>
        simp only [total_cons, WalletLedgerEntry.signedAmount, hdirection, if_true, reduceCtorEq,
          if_false] <;> omega

end AbrChin.Wallet
