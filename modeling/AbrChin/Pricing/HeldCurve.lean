import AbrChin.Pricing.ProfitCurve

/-!
# Held prices

What the profit curve is for, without its bands: over the cost there is a markup, and there
are stretches over which the sale price is held.  `HeldCurve` carries the facts that make
such a price rise with the cost: a held price is at least what the markup before it asks for,
and the markup changes only where a stretch begins.

The product's markup `p` is rounded up together with the provider's outside the stretches and
on its own inside them.  `apartSale` rounds them apart everywhere, and is monotone
(`apartSale_mono`); `sale` is at most one rial below it, so it can fall only where
`apartSale` stands still, and that is at the end of a stretch (`sale_le_iff`).
-/

namespace AbrChin.Pricing

open Lib

/-- Basis points of an amount, rounded up: `ceil(x / 10000)`. -/
def bpsUp (x : ℤ) : ℤ := (x + 9999) / 10000

theorem bpsUp_mono {x y : ℤ} (h : x ≤ y) : bpsUp x ≤ bpsUp y := by
  unfold bpsUp
  omega

theorem bpsUp_nonneg {x : ℤ} (h : 0 ≤ x) : 0 ≤ bpsUp x := by
  unfold bpsUp
  omega

/-- Rounding up together loses one rial at most. -/
theorem bpsUp_add (x y : ℤ) :
    bpsUp (x + y) ≤ bpsUp x + bpsUp y ∧ bpsUp x + bpsUp y ≤ bpsUp (x + y) + 1 := by
  unfold bpsUp
  omega

/-- A markup over the cost, and stretches over which the sale price is held. -/
structure HeldCurve where
  markup : ℤ → ℤ
  transitions : List ProfitCurveTransition
  nonneg : ∀ cost, 0 ≤ markup cost
  proper : ∀ t ∈ transitions, t.boundaryRial < t.transitionEndRial
  /-- A held price is at least what the markup before it asks for. -/
  entry : ∀ t ∈ transitions, 1 < t.boundaryRial →
    t.boundaryRial + bpsUp (t.boundaryRial * markup (t.boundaryRial - 1)) ≤ t.boundarySaleRial
  /-- From its start to its end, a stretch is the only one. -/
  apart : ∀ t ∈ transitions, ∀ other ∈ transitions, ∀ cost, t.boundaryRial ≤ cost →
    cost ≤ t.transitionEndRial → other.holds cost = true → other = t
  /-- The markup changes only where a stretch begins. -/
  smooth : ∀ cost, 1 ≤ cost → (∀ t ∈ transitions, t.holds cost = false) →
    (∀ t ∈ transitions, t.holds (cost + 1) = false) → markup (cost + 1) = markup cost

variable {t : ProfitCurveTransition}

theorem ProfitCurveTransition.holds_eq_true {cost : ℤ} :
    t.holds cost = true ↔ t.boundaryRial ≤ cost ∧ cost < t.transitionEndRial := by
  simp [ProfitCurveTransition.holds]

namespace HeldCurve

variable (curve : HeldCurve)

/-- The sale price with the product's markup `p`. -/
def sale (p cost : ℤ) : ℤ :=
  match curve.transitions.find? (·.holds cost) with
  | some t => t.boundarySaleRial + bpsUp (cost * p)
  | none => cost + bpsUp (cost * (curve.markup cost + p))

/-- The sale price if the two markups were rounded up apart. -/
def apartSale (p cost : ℤ) : ℤ :=
  match curve.transitions.find? (·.holds cost) with
  | some t => t.boundarySaleRial + bpsUp (cost * p)
  | none => cost + (bpsUp (cost * curve.markup cost) + bpsUp (cost * p))

/-- At the end of each stretch the next markup has reached the held price. -/
def Exits : Prop :=
  ∀ t ∈ curve.transitions, t.boundarySaleRial ≤
    t.transitionEndRial + bpsUp (t.transitionEndRial * curve.markup t.transitionEndRial)

/-- The cost is in no stretch. -/
def Free (cost : ℤ) : Prop := ∀ t ∈ curve.transitions, t.holds cost = false

variable {curve} {p cost : ℤ}

theorem find?_of_holds (ht : t ∈ curve.transitions) (h : t.holds cost = true) :
    curve.transitions.find? (·.holds cost) = some t := by
  obtain ⟨hfrom, hto⟩ := ProfitCurveTransition.holds_eq_true.1 h
  cases hfind : curve.transitions.find? (·.holds cost) with
  | none => exact absurd h (List.find?_eq_none.1 hfind t ht)
  | some other =>
      have hother := List.find?_some hfind
      rw [curve.apart t ht other (List.mem_of_find?_eq_some hfind) cost hfrom hto.le hother]

theorem find?_of_free (h : curve.Free cost) : curve.transitions.find? (·.holds cost) = none :=
  List.find?_eq_none.2 fun t ht hholds => by simp [h t ht] at hholds

variable (curve) in
theorem free_or_holds (cost : ℤ) :
    curve.Free cost ∨ ∃ t ∈ curve.transitions, t.holds cost = true := by
  by_cases h : curve.Free cost
  · exact .inl h
  · unfold Free at h
    push Not at h
    obtain ⟨t, ht, hholds⟩ := h
    exact .inr ⟨t, ht, by simpa using hholds⟩

/-- The end of a stretch is in none. -/
theorem free_end (ht : t ∈ curve.transitions) : curve.Free t.transitionEndRial := by
  intro other hother
  by_contra hholds
  have hholds : other.holds t.transitionEndRial = true := by simpa using hholds
  have hsame := curve.apart t ht other hother _ (curve.proper t ht).le le_rfl hholds
  rw [hsame] at hholds
  exact lt_irrefl _ (ProfitCurveTransition.holds_eq_true.1 hholds).2

theorem sale_of_free (h : curve.Free cost) :
    curve.sale p cost = cost + bpsUp (cost * (curve.markup cost + p)) := by
  simp only [sale, find?_of_free h]

theorem apartSale_of_free (h : curve.Free cost) :
    curve.apartSale p cost = cost + (bpsUp (cost * curve.markup cost) + bpsUp (cost * p)) := by
  simp only [apartSale, find?_of_free h]

theorem sale_of_holds (ht : t ∈ curve.transitions) (h : t.holds cost = true) :
    curve.sale p cost = t.boundarySaleRial + bpsUp (cost * p) := by
  simp only [sale, find?_of_holds ht h]

theorem apartSale_of_holds (ht : t ∈ curve.transitions) (h : t.holds cost = true) :
    curve.apartSale p cost = t.boundarySaleRial + bpsUp (cost * p) := by
  simp only [apartSale, find?_of_holds ht h]

variable (curve) in
/-- Rounding together loses one rial at most. -/
theorem sale_bounds (p cost : ℤ) :
    curve.sale p cost ≤ curve.apartSale p cost ∧ curve.apartSale p cost ≤ curve.sale p cost + 1 := by
  rcases free_or_holds curve cost with hfree | ⟨t, ht, hholds⟩
  · have hround := bpsUp_add (cost * curve.markup cost) (cost * p)
    rw [sale_of_free hfree, apartSale_of_free hfree, mul_add]
    omega
  · rw [sale_of_holds ht hholds, apartSale_of_holds ht hholds]
    omega

/-! ## Rounded apart, the price rises -/

/-- Outside the stretches a dearer cost is dearer by one rial at least. -/
theorem apartSale_succ_of_free (hp : 0 ≤ p) (hcost : 1 ≤ cost) (hfree : curve.Free cost) :
    curve.apartSale p cost + 1 ≤ curve.apartSale p (cost + 1) := by
  have hproduct : bpsUp (cost * p) ≤ bpsUp ((cost + 1) * p) :=
    bpsUp_mono (mul_le_mul_of_nonneg_right (by omega) hp)
  have hprovider : bpsUp (cost * curve.markup cost) ≤ bpsUp ((cost + 1) * curve.markup cost) :=
    bpsUp_mono (mul_le_mul_of_nonneg_right (by omega) (curve.nonneg cost))
  rw [apartSale_of_free hfree]
  rcases free_or_holds curve (cost + 1) with hnext | ⟨t, ht, hholds⟩
  · rw [apartSale_of_free hnext, curve.smooth cost hcost hfree hnext]
    omega
  · -- a stretch that holds the next cost but not this one begins there
    obtain ⟨hfrom, hto⟩ := ProfitCurveTransition.holds_eq_true.1 hholds
    have hstart : t.boundaryRial = cost + 1 := by
      by_contra hne
      have hholds' : t.holds cost = true :=
        ProfitCurveTransition.holds_eq_true.2 ⟨by omega, by omega⟩
      rw [hfree t ht] at hholds'
      cases hholds'
    have hentry := curve.entry t ht (by omega)
    rw [hstart, add_sub_cancel_right] at hentry
    rw [apartSale_of_holds ht hholds]
    omega

theorem apartSale_succ (hexits : curve.Exits) (hp : 0 ≤ p) (hcost : 1 ≤ cost) :
    curve.apartSale p cost ≤ curve.apartSale p (cost + 1) := by
  rcases free_or_holds curve cost with hfree | ⟨t, ht, hholds⟩
  · have := apartSale_succ_of_free hp hcost hfree
    omega
  · obtain ⟨hfrom, hto⟩ := ProfitCurveTransition.holds_eq_true.1 hholds
    have hproduct : bpsUp (cost * p) ≤ bpsUp ((cost + 1) * p) :=
      bpsUp_mono (mul_le_mul_of_nonneg_right (by omega) hp)
    rw [apartSale_of_holds ht hholds]
    by_cases hlast : cost + 1 < t.transitionEndRial
    · have hnext : t.holds (cost + 1) = true :=
        ProfitCurveTransition.holds_eq_true.2 ⟨by omega, hlast⟩
      rw [apartSale_of_holds ht hnext]
      omega
    · have hend : t.transitionEndRial = cost + 1 := by omega
      have hexit := hexits t ht
      have hfree := free_end ht
      rw [hend] at hexit hfree
      rw [apartSale_of_free hfree]
      omega

/-- **Rounded apart, a dearer cost never has a lower price.** -/
theorem apartSale_mono (hexits : curve.Exits) (hp : 0 ≤ p) {c₁ c₂ : ℤ} (hc₁ : 1 ≤ c₁)
    (h : c₁ ≤ c₂) : curve.apartSale p c₁ ≤ curve.apartSale p c₂ := by
  induction c₂, h using Int.leInduction with
  | base => exact le_rfl
  | succ cost hcost ih => exact ih.trans (apartSale_succ hexits hp (hc₁.trans hcost))

/-! ## Where the price falls -/

variable (curve) in
/-- `c₂` is the end of a stretch that holds `c₁`, and without the product's markup its price
is the held one; rounding both markups together loses a rial there, and the product's markup
asks for as much at `c₁` as at `c₂`. -/
def LosesRial (p c₁ c₂ : ℤ) : Prop :=
  ∃ t ∈ curve.transitions, t.holds c₁ = true ∧ c₂ = t.transitionEndRial ∧
    c₂ + bpsUp (c₂ * curve.markup c₂) = t.boundarySaleRial ∧
    bpsUp (c₂ * (curve.markup c₂ + p)) < bpsUp (c₂ * curve.markup c₂) + bpsUp (c₂ * p) ∧
    bpsUp (c₁ * p) = bpsUp (c₂ * p)

/-- **A dearer cost has a lower price exactly where a rial is lost at the end of a stretch.** -/
theorem sale_le_iff (hexits : curve.Exits) (hp : 0 ≤ p) {c₁ c₂ : ℤ} (hc₁ : 1 ≤ c₁)
    (h : c₁ ≤ c₂) : curve.sale p c₁ ≤ curve.sale p c₂ ↔ ¬ curve.LosesRial p c₁ c₂ := by
  have hproduct : bpsUp (c₁ * p) ≤ bpsUp (c₂ * p) :=
    bpsUp_mono (mul_le_mul_of_nonneg_right h hp)
  constructor
  · rintro hle ⟨t, ht, hholds, rfl, hmet, hlost, hsame⟩
    rw [sale_of_holds ht hholds, sale_of_free (free_end ht)] at hle
    omega
  intro hkept
  -- a free cost on the way lifts the price by a rial, which is all that rounding can lose
  have hlift : ∀ cost, c₁ ≤ cost → cost < c₂ → curve.Free cost → curve.sale p c₁ ≤ curve.sale p c₂ := by
    intro cost hfrom hto hfree
    have hbefore := apartSale_mono hexits hp hc₁ hfrom
    have hrise := apartSale_succ_of_free hp (hc₁.trans hfrom) hfree
    have hafter := apartSale_mono hexits hp (by omega : 1 ≤ cost + 1) (by omega : cost + 1 ≤ c₂)
    have hfirst := (sale_bounds curve p c₁).1
    have hsecond := (sale_bounds curve p c₂).2
    omega
  rcases h.eq_or_lt with rfl | hlt
  · exact le_rfl
  rcases free_or_holds curve c₁ with hfree | ⟨t, ht, hholds⟩
  · exact hlift c₁ le_rfl hlt hfree
  obtain ⟨hfrom, hto⟩ := ProfitCurveTransition.holds_eq_true.1 hholds
  rcases lt_trichotomy c₂ t.transitionEndRial with hbefore | hend | hafter
  · have hholds₂ : t.holds c₂ = true := ProfitCurveTransition.holds_eq_true.2 ⟨by omega, hbefore⟩
    rw [sale_of_holds ht hholds, sale_of_holds ht hholds₂]
    omega
  · have hexit := hexits t ht
    have hround := bpsUp_add (c₂ * curve.markup c₂) (c₂ * p)
    rw [← mul_add] at hround
    by_contra hlower
    rw [sale_of_holds ht hholds, hend, sale_of_free (free_end ht), ← hend] at hlower
    rw [← hend] at hexit
    exact hkept ⟨t, ht, hholds, hend, by omega, by omega, by omega⟩
  · exact hlift _ hto.le hafter (free_end ht)

end HeldCurve

end AbrChin.Pricing
