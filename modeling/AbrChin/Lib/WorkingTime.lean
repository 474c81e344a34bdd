import Mathlib.Algebra.Order.Interval.Finset.Basic
import Mathlib.Data.Int.ConditionallyCompleteOrder
import Mathlib.Data.Int.Interval
import Mathlib.Order.CompleteLatticeIntervals
import Mathlib.Tactic.Ring

/-!
# Working time

Instants are integers, and some of them are working.  The time that is worked between two instants
is the number of working instants.  Work proceeds by quanta: a quantum is worked in one piece, at
the first instant from which on it fits.

The borders of the working time lie on a grid of quanta.  Time is therefore lost only once, by the
first quantum that is worked after an instant off the grid: from then on all instants are on it, and
every working instant starts a piece of at least a quantum.  Work that takes `k` quanta ends after
at least `k` and less than `k + 1` quanta of working time.
-/

namespace Lib

section Worked

variable (Working : ℤ → Prop) [DecidablePred Working]

/-- The working time in `[a, b)`. -/
noncomputable def worked (a b : ℤ) : ℕ := ((Finset.Ico a b).filter Working).card

variable {Working} {a b c : ℤ}

theorem worked_add (hab : a ≤ b) (hbc : b ≤ c) :
    worked Working a b + worked Working b c = worked Working a c := by
  have hunion : Finset.Ico a c = Finset.Ico a b ∪ Finset.Ico b c :=
    (Finset.Ico_union_Ico_eq_Ico hab hbc).symm
  have hdisjoint : Disjoint (Finset.Ico a b) (Finset.Ico b c) :=
    Finset.Ico_disjoint_Ico_consecutive a b c
  rw [worked, worked, worked, hunion, Finset.filter_union, Finset.card_union_of_disjoint]
  exact Finset.disjoint_filter_filter hdisjoint

theorem worked_mono (hab : a ≤ b) (hbc : b ≤ c) : worked Working a b ≤ worked Working a c := by
  rw [← worked_add hab hbc]
  exact Nat.le_add_right _ _

/-- Nothing is worked while nothing works. -/
theorem worked_eq_zero (h : ∀ x, a ≤ x → x < b → ¬ Working x) : worked Working a b = 0 := by
  rw [worked, Finset.card_eq_zero, Finset.filter_eq_empty_iff]
  intro x hx
  rw [Finset.mem_Ico] at hx
  exact h x hx.1 hx.2

theorem worked_of_working (hab : a ≤ b) (h : ∀ x, a ≤ x → x < b → Working x) :
    (worked Working a b : ℤ) = b - a := by
  have hall : (Finset.Ico a b).filter Working = Finset.Ico a b := by
    rw [Finset.filter_eq_self]
    intro x hx
    rw [Finset.mem_Ico] at hx
    exact h x hx.1 hx.2
  rw [worked, hall, Int.card_Ico, Int.toNat_of_nonneg (by omega)]

/-- No more is worked than there is time up to the last working instant. -/
theorem worked_le (hac : a ≤ c) (h : ∀ x, a ≤ x → x < b → Working x → x < c) :
    (worked Working a b : ℤ) ≤ c - a := by
  have hsubset : (Finset.Ico a b).filter Working ⊆ Finset.Ico a c := by
    intro x hx
    rw [Finset.mem_filter, Finset.mem_Ico] at hx
    exact Finset.mem_Ico.2 ⟨hx.1.1, h x hx.1.1 hx.1.2 hx.2⟩
  have hcard := Finset.card_le_card hsubset
  rw [Int.card_Ico] at hcard
  rw [worked]
  omega

end Worked

/-! ## Quanta -/

/-- A quantum can be worked from `x` on. -/
def Fits (Working : ℤ → Prop) (quantum x : ℤ) : Prop := ∀ y, x ≤ y → y < x + quantum → Working y

/-- The working time is a union of cells of the grid.  `next` finds the next working instant, and
`fit` the next one from which on a quantum can be worked. -/
structure Calendar (Working : ℤ → Prop) (quantum : ℤ) (next fit : ℤ → ℤ) : Prop where
  pos : 0 < quantum
  cells : ∀ {x y}, x / quantum = y / quantum → Working x → Working y
  next_isLeast : ∀ x, IsLeast {y | x ≤ y ∧ Working y} (next x)
  fit_isLeast : ∀ x, IsLeast {y | x ≤ y ∧ Fits Working quantum y} (fit x)

/-- The end of a quantum. -/
def work (quantum : ℤ) (fit : ℤ → ℤ) (x : ℤ) : ℤ := fit x + quantum

/-- The end of work that takes `k` quanta. -/
def after (quantum : ℤ) (next fit : ℤ → ℤ) (x : ℤ) : ℕ → ℤ
  | 0 => next x
  | k + 1 => (work quantum fit)^[k + 1] x

namespace Calendar

variable {Working : ℤ → Prop} {quantum : ℤ} {next fit : ℤ → ℤ} {x y : ℤ}

/-- The cell of an instant fits when the instant works. -/
theorem fits_cell (h : Calendar Working quantum next fit) (hx : Working x) :
    Fits Working quantum (x / quantum * quantum) := by
  intro y hfrom hto
  refine h.cells ?_ hx
  have hpos := h.pos
  refine le_antisymm ?_ ?_
  · exact (Int.le_ediv_iff_mul_le hpos).2 hfrom
  · refine Int.lt_add_one_iff.1 ((Int.ediv_lt_iff_lt_mul hpos).2 ?_)
    rw [add_mul, one_mul]
    exact hto

theorem le_next (h : Calendar Working quantum next fit) (x : ℤ) : x ≤ next x :=
  (h.next_isLeast x).1.1

theorem working_next (h : Calendar Working quantum next fit) (x : ℤ) : Working (next x) :=
  (h.next_isLeast x).1.2

theorem next_le (h : Calendar Working quantum next fit) (hle : x ≤ y) (hy : Working y) :
    next x ≤ y :=
  (h.next_isLeast x).2 ⟨hle, hy⟩

theorem le_fit (h : Calendar Working quantum next fit) (x : ℤ) : x ≤ fit x :=
  (h.fit_isLeast x).1.1

theorem fits_fit (h : Calendar Working quantum next fit) (x : ℤ) : Fits Working quantum (fit x) :=
  (h.fit_isLeast x).1.2

theorem fit_le (h : Calendar Working quantum next fit) (hle : x ≤ y)
    (hy : Fits Working quantum y) : fit x ≤ y :=
  (h.fit_isLeast x).2 ⟨hle, hy⟩

theorem working_fit (h : Calendar Working quantum next fit) (x : ℤ) : Working (fit x) :=
  h.fits_fit x (fit x) le_rfl (lt_add_of_pos_right _ h.pos)

theorem next_mono (h : Calendar Working quantum next fit) : Monotone next :=
  fun _ y hle => h.next_le (hle.trans (h.le_next y)) (h.working_next y)

theorem fit_mono (h : Calendar Working quantum next fit) : Monotone fit :=
  fun _ y hle => h.fit_le (hle.trans (h.le_fit y)) (h.fits_fit y)

theorem next_le_fit (h : Calendar Working quantum next fit) (x : ℤ) : next x ≤ fit x :=
  h.next_le (h.le_fit x) (h.working_fit x)

/-- Waiting for the next working instant is no loss. -/
theorem fit_next (h : Calendar Working quantum next fit) (x : ℤ) : fit (next x) = fit x :=
  le_antisymm (h.fit_le (h.next_le_fit x) (h.fits_fit x)) (h.fit_mono (h.le_next x))

theorem fit_of_fits (h : Calendar Working quantum next fit) (hx : Fits Working quantum x) :
    fit x = x :=
  le_antisymm (h.fit_le le_rfl hx) (h.le_fit x)

/-! ## Work -/

theorem work_mono (h : Calendar Working quantum next fit) : Monotone (work quantum fit) :=
  fun _ _ hle => Int.add_le_add_right (h.fit_mono hle) _

theorem lt_work (h : Calendar Working quantum next fit) (x : ℤ) : x < work quantum fit x := by
  have hle := h.le_fit x
  have hpos := h.pos
  unfold work
  omega

theorem next_le_work (h : Calendar Working quantum next fit) (x : ℤ) :
    next x ≤ work quantum fit x := by
  have hle := h.next_le_fit x
  have hpos := h.pos
  unfold work
  omega

theorem after_eq_iterate (h : Calendar Working quantum next fit) (x : ℤ) {k : ℕ} (hk : 1 ≤ k) :
    after quantum next fit x k = (work quantum fit)^[k] (next x) := by
  obtain ⟨k, rfl⟩ := Nat.exists_eq_add_of_le' hk
  rw [after, Function.iterate_succ_apply, Function.iterate_succ_apply, work, work, h.fit_next]

theorem after_mono_left (h : Calendar Working quantum next fit) (k : ℕ) :
    Monotone fun x => after quantum next fit x k := by
  cases k with
  | zero => exact h.next_mono
  | succ k => exact h.work_mono.iterate (k + 1)

/-- **Longer work ends later.** -/
theorem after_mono_right (h : Calendar Working quantum next fit) (x : ℤ) :
    Monotone (after quantum next fit x) := by
  refine monotone_nat_of_le_succ fun k => ?_
  cases k with
  | zero => exact h.next_le_work x
  | succ k =>
      rw [after, after, Function.iterate_succ_apply' _ (k + 1)]
      exact (h.lt_work _).le

/-- **Work that is divided takes no longer.** -/
theorem after_after {x : ℤ} {k n : ℕ} (hk : 1 ≤ k) (hn : 1 ≤ n) :
    after quantum next fit (after quantum next fit x k) n = after quantum next fit x (k + n) := by
  obtain ⟨k, rfl⟩ := Nat.exists_eq_add_of_le' hk
  obtain ⟨n, rfl⟩ := Nat.exists_eq_add_of_le' hn
  rw [show k + 1 + (n + 1) = n + 1 + k + 1 by omega, after, after, after,
    ← Function.iterate_add_apply, add_assoc (n + 1)]

theorem le_after (h : Calendar Working quantum next fit) (x : ℤ) (k : ℕ) :
    x ≤ after quantum next fit x k :=
  (h.le_next x).trans (h.after_mono_right x (Nat.zero_le k))

/-! ## The time that is lost -/

/-- On the grid, every working instant starts a quantum. -/
theorem fit_eq_next (h : Calendar Working quantum next fit) (hx : quantum ∣ x) :
    fit x = next x := by
  refine le_antisymm (h.fit_le (h.le_next x) ?_) (h.next_le_fit x)
  -- the cell of the next working instant begins with it
  have hcell : Fits Working quantum (next x / quantum * quantum) :=
    h.fits_cell (h.working_next x)
  have hfirst : next x / quantum * quantum = next x := by
    refine le_antisymm (Int.ediv_mul_le _ h.pos.ne') (h.next_le ?_ ?_)
    · obtain ⟨i, rfl⟩ := hx
      rw [mul_comm quantum]
      refine Int.mul_le_mul_of_nonneg_right ?_ h.pos.le
      rw [Int.le_ediv_iff_mul_le h.pos, mul_comm]
      exact h.le_next _
    · exact hcell _ le_rfl (lt_add_of_pos_right _ h.pos)
  rwa [hfirst] at hcell

/-- After a wait the instant is on the grid. -/
theorem dvd_fit (h : Calendar Working quantum next fit) (hlt : x < fit x) : quantum ∣ fit x := by
  have hpos := h.pos
  have hcell : fit x / quantum * quantum ≤ fit x := Int.ediv_mul_le _ hpos.ne'
  have hnext : fit x < fit x / quantum * quantum + quantum := by
    have := Int.lt_ediv_add_one_mul_self (fit x) hpos
    rwa [add_mul, one_mul] at this
  have hfits : Fits Working quantum (fit x / quantum * quantum) := h.fits_cell (h.working_fit x)
  by_cases hx : x ≤ fit x / quantum * quantum
  · exact ⟨fit x / quantum, by rw [mul_comm]; exact le_antisymm (h.fit_le hx hfits) hcell⟩
  · -- otherwise `x` is in the cell, and the quantum fits from `x` on
    refine absurd (h.fit_le le_rfl fun y hfrom hto => ?_) (not_le.2 hlt)
    by_cases hy : y < fit x
    · exact hfits y (by omega) (by omega)
    · exact h.fits_fit x y (by omega) (by omega)

variable [DecidablePred Working]

/-- Nothing is worked until the next working instant. -/
theorem worked_next (h : Calendar Working quantum next fit) (x : ℤ) :
    worked Working x (next x) = 0 :=
  worked_eq_zero fun _ hle hlt hy => absurd (h.next_le hle hy) (not_le.2 hlt)

/-- Less than a quantum is lost. -/
theorem worked_fit_lt (h : Calendar Working quantum next fit) (x : ℤ) :
    (worked Working x (fit x) : ℤ) < quantum := by
  have hpos := h.pos
  by_cases hx : quantum ∣ x
  · rw [h.fit_eq_next hx, h.worked_next]
    exact hpos
  · have hcell : x / quantum * quantum ≤ x := Int.ediv_mul_le _ hpos.ne'
    have hne : x / quantum * quantum ≠ x :=
      fun heq => hx ⟨x / quantum, by rw [mul_comm]; exact heq.symm⟩
    have hnext := Int.lt_ediv_add_one_mul_self x hpos
    rw [add_mul, one_mul] at hnext
    have hle := @worked_le Working _ x (fit x) (x / quantum * quantum + quantum) hnext.le
      fun y hfrom _ hy => by
        by_contra hnot
        -- the cell of `y` begins after `x`
        have hstart : x ≤ y / quantum * quantum := by
          have : x / quantum + 1 ≤ y / quantum := by
            rw [Int.le_ediv_iff_mul_le hpos, add_mul, one_mul]
            exact not_lt.1 hnot
          have := Int.mul_le_mul_of_nonneg_right this hpos.le
          rw [add_mul, one_mul] at this
          omega
        have := h.fit_le hstart (h.fits_cell hy)
        have := Int.ediv_mul_le y hpos.ne'
        omega
    omega

theorem worked_quantum (h : Calendar Working quantum next fit) (x : ℤ) :
    (worked Working (fit x) (work quantum fit x) : ℤ) = quantum := by
  have hpos := h.pos
  have hworked : (worked Working (fit x) (fit x + quantum) : ℤ) = fit x + quantum - fit x :=
    worked_of_working (by omega) (h.fits_fit x)
  rw [work, hworked]
  omega

/-- The end of work: either nothing is lost yet, or the end is on the grid. -/
def Ended (quantum x : ℤ) (lost : ℤ) : Prop := lost = 0 ∨ quantum ∣ x ∧ 0 ≤ lost ∧ lost < quantum

theorem ended_iterate (h : Calendar Working quantum next fit) (x : ℤ) (k : ℕ) :
    x ≤ (work quantum fit)^[k] x ∧
    Ended quantum ((work quantum fit)^[k] x)
      (worked Working x ((work quantum fit)^[k] x) - k * quantum) := by
  induction k with
  | zero =>
      refine ⟨le_rfl, .inl ?_⟩
      rw [Function.iterate_zero_apply, worked_eq_zero fun y hle hlt => absurd hlt (not_lt.2 hle)]
      simp
  | succ k ih =>
      obtain ⟨hle, hended⟩ := ih
      rw [Function.iterate_succ_apply']
      set z := (work quantum fit)^[k] x
      have hwait := h.le_fit z
      have hwork : fit z ≤ work quantum fit z := by
        have hpos := h.pos
        unfold work
        omega
      have htotal : (worked Working x (work quantum fit z) : ℤ) =
          worked Working x z + worked Working z (fit z) + quantum := by
        rw [← worked_add (hle.trans hwait) hwork, ← worked_add hle hwait]
        push_cast
        rw [h.worked_quantum z]
      refine ⟨hle.trans (hwait.trans hwork), ?_⟩
      have hlost := h.worked_fit_lt z
      have hlost' : (worked Working x (work quantum fit z) : ℤ) - (k + 1 : ℕ) * quantum =
          worked Working x z - k * quantum + worked Working z (fit z) := by
        rw [htotal]
        push_cast
        ring
      rw [hlost']
      rcases hended with hzero | ⟨hgrid, hfrom, hto⟩
      · rw [hzero, zero_add]
        by_cases hlt : z < fit z
        · exact .inr ⟨Int.dvd_add (h.dvd_fit hlt) dvd_rfl, by omega, hlost⟩
        · left
          rw [worked_eq_zero fun _ hle hlt' => by omega]
          rfl
      · rw [h.fit_eq_next hgrid, h.worked_next]
        refine .inr ⟨?_, by omega, by omega⟩
        rw [work]
        by_cases hlt : z < fit z
        · exact Int.dvd_add (h.dvd_fit hlt) dvd_rfl
        · rw [show fit z = z by omega]
          exact Int.dvd_add hgrid dvd_rfl

/-- **Work takes its time**: at least `k` and less than `k + 1` quanta. -/
theorem worked_after (h : Calendar Working quantum next fit) (x : ℤ) (k : ℕ) :
    k * quantum ≤ worked Working x (after quantum next fit x k) ∧
      worked Working x (after quantum next fit x k) < (k + 1) * quantum := by
  have hpos := h.pos
  cases k with
  | zero =>
      rw [after, h.worked_next]
      simpa using hpos
  | succ k =>
      obtain ⟨-, hended⟩ := h.ended_iterate x (k + 1)
      rw [after]
      generalize ((work quantum fit)^[k + 1] x) = z at hended ⊢
      rw [add_mul, one_mul]
      rcases hended with hzero | ⟨-, hfrom, hto⟩
      · constructor
        · omega
        · omega
      · constructor
        · omega
        · omega

end Calendar

end Lib
