import Mathlib.Algebra.BigOperators.Group.List.Basic
import Mathlib.Tactic.Linarith
import Mathlib.Tactic.Ring

/-!
# Sums over rows

The sum of a quantity over the rows of a table, over those of its rows that satisfy a
condition, and over what is left when a row is taken out; and what rounding each term up
adds to a sum.
-/

namespace Lib

variable {ρ κ M : Type*} [AddCommMonoid M]

/-- Rows that do not satisfy the condition add nothing. -/
theorem sum_filter (p : ρ → Bool) (f : ρ → M) (rows : List ρ) :
    ((rows.filter p).map f).sum = (rows.map fun row => if p row then f row else 0).sum := by
  induction rows with
  | nil => rfl
  | cons row rest ih =>
      cases hrow : p row with
      | true => simp [hrow, ih]
      | false => simp [hrow, ih]

/-- Taking the row with a given key out of the sum. -/
theorem sum_eq_add_sum_ne [DecidableEq κ] {key : ρ → κ} {rows : List ρ}
    (hnodup : (rows.map key).Nodup) {row : ρ} (hrow : row ∈ rows) (f : ρ → M) :
    (rows.map f).sum = f row + ((rows.filter fun other => key other ≠ key row).map f).sum := by
  induction rows with
  | nil => cases hrow
  | cons first rest ih =>
      rw [List.map_cons, List.nodup_cons] at hnodup
      by_cases hkey : key first = key row
      · -- the row is the first one, and no other row has its key
        have hrest : ∀ other ∈ rest, key other ≠ key row := by
          intro other hother heq
          exact hnodup.1 (List.mem_map.2 ⟨other, hother, heq.trans hkey.symm⟩)
        have hfirst : row = first := by
          rcases List.mem_cons.1 hrow with h | h
          · exact h
          · exact absurd rfl (hrest row h)
        rw [List.filter_cons_of_neg (by simpa using hkey),
          List.filter_eq_self.2 (by simpa using hrest), List.map_cons, List.sum_cons, hfirst]
      · have hmem : row ∈ rest := by
          rcases List.mem_cons.1 hrow with rfl | h
          · exact absurd rfl hkey
          · exact h
        rw [List.filter_cons_of_pos (by simpa using hkey), List.map_cons, List.map_cons,
          List.sum_cons, List.sum_cons, ih hnodup.2 hmem, add_left_comm]

/-- Taking two rows out of the sum. -/
theorem sum_eq_add_add_sum_ne [DecidableEq κ] {key : ρ → κ} {rows : List ρ}
    (hnodup : (rows.map key).Nodup) {first second : ρ} (h₁ : first ∈ rows) (h₂ : second ∈ rows)
    (hne : key first ≠ key second) (f : ρ → M) :
    (rows.map f).sum = f first + f second + ((rows.filter fun other =>
      key other ≠ key first ∧ key other ≠ key second).map f).sum := by
  have hrest : ((rows.filter fun other => key other ≠ key first).map key).Nodup :=
    hnodup.sublist (List.filter_sublist.map key)
  have hmem : second ∈ rows.filter fun other => key other ≠ key first :=
    List.mem_filter.2 ⟨h₂, by simpa using hne.symm⟩
  rw [sum_eq_add_sum_ne hnodup h₁, sum_eq_add_sum_ne hrest hmem, List.filter_filter, add_assoc]
  congr 3
  apply congrArg
  apply List.filter_congr
  intro other _
  simp [Bool.and_comm]

/-- The sum of differences. -/
theorem sum_map_sub {G : Type*} [AddCommGroup G] (f g : ρ → G) (rows : List ρ) :
    (rows.map fun row => f row - g row).sum = (rows.map f).sum - (rows.map g).sum := by
  induction rows with
  | nil => simp
  | cons row rest ih =>
      rw [List.map_cons, List.sum_cons, ih, List.map_cons, List.map_cons, List.sum_cons,
        List.sum_cons, add_sub_add_comm]

/-- Sums whose terms are close are close. -/
theorem abs_sum_sub_sum_le {f g b : ρ → ℤ} {rows : List ρ}
    (h : ∀ row ∈ rows, |f row - g row| ≤ b row) :
    |(rows.map f).sum - (rows.map g).sum| ≤ (rows.map b).sum := by
  induction rows with
  | nil => exact le_refl _
  | cons row rest ih =>
      have hrest := ih fun other hother => h other (List.mem_cons_of_mem _ hother)
      have hrow := h row List.mem_cons_self
      rw [List.map_cons, List.map_cons, List.map_cons, List.sum_cons, List.sum_cons,
        List.sum_cons, add_sub_add_comm]
      exact (abs_add_le _ _).trans (add_le_add hrow hrest)

/-! ## Rounding up -/

/-- The quotient rounded up. -/
theorem roundUp_bounds (part : ℤ) {unit : ℤ} (h : 0 < unit) :
    part ≤ (part + unit - 1) / unit * unit ∧ (part + unit - 1) / unit * unit < part + unit := by
  have hlower := Int.lt_ediv_add_one_mul_self (part + unit - 1) h
  have hupper := Int.ediv_mul_le (part + unit - 1) h.ne'
  rw [add_one_mul] at hlower
  constructor <;> omega

/-- Rounding up each part gives at least the sum rounded up, and less than one more for each part. -/
theorem sum_roundUp_bounds {unit : ℤ} (h : 0 < unit) {parts : List ℤ} (hparts : parts ≠ []) :
    (parts.sum + unit - 1) / unit ≤ (parts.map fun part => (part + unit - 1) / unit).sum ∧
      (parts.map fun part => (part + unit - 1) / unit).sum <
        (parts.sum + unit - 1) / unit + parts.length := by
  have hsum : parts.sum ≤ (parts.map fun part => (part + unit - 1) / unit).sum * unit ∧
      (parts.map fun part => (part + unit - 1) / unit).sum * unit ≤
        parts.sum + parts.length * (unit - 1) := by
    clear hparts
    induction parts with
    | nil => simp
    | cons part rest ih =>
        obtain ⟨hlower, hupper⟩ := roundUp_bounds part h
        obtain ⟨hlower', hupper'⟩ := ih
        simp only [List.map_cons, List.sum_cons, List.length_cons, add_mul, Nat.cast_add,
          Nat.cast_one, one_mul]
        constructor <;> omega
  obtain ⟨hlower, hupper⟩ := hsum
  obtain ⟨hwhole, hwhole'⟩ := roundUp_bounds parts.sum h
  have hlength : 0 < (parts.length : ℤ) := by
    exact_mod_cast List.length_pos_iff.2 hparts
  constructor
  · by_contra hless
    nlinarith
  · by_contra hmore
    nlinarith

/-! ## Running balances

An account opens with a balance; each posting adds an amount to it.  `balances` lists the balance
after each posting.
-/

section Balances

variable {M : Type*} [AddCommGroup M]

/-- The balances after each of the postings. -/
def balances (opening : M) : List M → List M
  | [] => []
  | amount :: rest => (opening + amount) :: balances (opening + amount) rest

@[simp] theorem balances_nil (opening : M) : balances opening [] = [] := rfl

theorem balances_append (opening : M) (first second : List M) :
    balances opening (first ++ second) =
      balances opening first ++ balances (opening + first.sum) second := by
  induction first generalizing opening with
  | nil => simp
  | cons amount rest ih => simp [balances, ih, add_assoc]

/-- One more posting adds one more balance. -/
theorem balances_concat (opening : M) (amounts : List M) (amount : M) :
    balances opening (amounts ++ [amount]) =
      balances opening amounts ++ [opening + amounts.sum + amount] := by
  rw [balances_append]
  rfl

end Balances

end Lib
