import Mathlib.Algebra.Order.Group.Defs
import Mathlib.Tactic.Abel

/-!
# Amounts in escrow

An escrow holds an amount of a payer until it is either captured, for a charge
that the amount covers, or released.  A captured escrow whose charge exceeds its
amount cannot be built: the bound is part of the constructor.

`Step` is one move of an escrow with what it pays back.  The two laws are that
`outstanding`, what the payer is out of pocket, falls by exactly what is paid
back, and that a closed escrow never moves again.
-/

namespace Lib

/-- An escrow over amounts of type `M`. -/
inductive Escrow (M : Type*) [Zero M] [LE M] where
  | held (amount : M) (nonneg : 0 ≤ amount)
  | captured (amount charge : M) (nonneg : 0 ≤ charge) (covered : charge ≤ amount)
  | released (amount : M) (nonneg : 0 ≤ amount)

namespace Escrow

variable {M : Type*} [AddCommGroup M] [PartialOrder M] {e e' : Escrow M} {refund : M}

/-- The amount that was put in escrow. -/
def amount : Escrow M → M
  | held amount _ => amount
  | captured amount _ _ _ => amount
  | released amount _ => amount

/-- What is still held. -/
def remaining : Escrow M → M
  | held amount _ => amount
  | captured .. => 0
  | released .. => 0

/-- What has been charged. -/
def charge : Escrow M → M
  | held .. => 0
  | captured _ charge _ _ => charge
  | released .. => 0

/-- What the payer is out of pocket. -/
def outstanding (e : Escrow M) : M := e.remaining + e.charge

/-- One move, with what it pays back to the payer. -/
inductive Step : Escrow M → M → Escrow M → Prop
  | stay (e : Escrow M) : Step e 0 e
  | capture {amount charge : M} (hamount : 0 ≤ amount) (hcharge : 0 ≤ charge)
      (hcovered : charge ≤ amount) :
      Step (held amount hamount) (amount - charge) (captured amount charge hcharge hcovered)
  | release {amount : M} (hamount : 0 ≤ amount) :
      Step (held amount hamount) amount (released amount hamount)

theorem charge_le_amount (e : Escrow M) : e.charge ≤ e.amount := by
  cases e with
  | held amount nonneg => exact nonneg
  | captured amount charge nonneg covered => exact covered
  | released amount nonneg => exact nonneg

/-- A payer is never out of pocket for more than the amount. -/
theorem outstanding_le_amount (e : Escrow M) : e.outstanding ≤ e.amount := by
  cases e with
  | held amount nonneg => simp [outstanding, remaining, charge, Escrow.amount]
  | captured amount charge nonneg covered => simpa [outstanding, remaining, Escrow.charge]
  | released amount nonneg => simpa [outstanding, remaining, charge]

/-- **The outstanding amount falls by what is paid back.** -/
theorem Step.outstanding_eq (h : Step e refund e') : e'.outstanding = e.outstanding - refund := by
  cases h with
  | stay => simp
  | capture hamount hcharge hcovered => simp [outstanding, remaining, charge]
  | release hamount => simp [outstanding, remaining, charge]

end Escrow

end Lib
