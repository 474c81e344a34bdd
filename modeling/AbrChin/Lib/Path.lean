import Mathlib.Data.List.Basic
import Mathlib.Tactic.Ring

/-!
# Paths of a labelled step

`Path step a labels b`: the labels lead from `a` to `b`, one step each.  A log of what has
happened to something is the labels of a path from its first position to its current one.
-/

namespace Lib

variable {σ ε : Type*}

/-- The labels lead from one position to another. -/
inductive Path (step : σ → ε → σ → Prop) : σ → List ε → σ → Prop
  | nil (a : σ) : Path step a [] a
  | cons {a b c : σ} {label : ε} {labels : List ε} (hstep : step a label b)
      (hrest : Path step b labels c) : Path step a (label :: labels) c

namespace Path

variable {step : σ → ε → σ → Prop} {a b c : σ}

theorem single {label : ε} (h : step a label b) : Path step a [label] b := .cons h (.nil b)

theorem append {first second : List ε} (hfirst : Path step a first b)
    (hsecond : Path step b second c) : Path step a (first ++ second) c := by
  induction hfirst with
  | nil => exact hsecond
  | cons hstep _ ih => exact .cons hstep (ih hsecond)

/-- A counter that every step increments has counted the labels. -/
theorem count {f : σ → ℤ} (hcount : ∀ a label b, step a label b → f b = f a + 1)
    {labels : List ε} (h : Path step a labels b) : f b = f a + labels.length := by
  induction h with
  | nil => simp
  | cons hstep _ ih =>
      rw [ih, hcount _ _ _ hstep, List.length_cons]
      push_cast
      ring

/-- What the last label says of the position that it leads to. -/
theorem of_getLast? {p : ε → σ → Prop} (hstep : ∀ a label b, step a label b → p label b)
    {labels : List ε} {label : ε} (h : Path step a labels b)
    (hlast : labels.getLast? = some label) : p label b := by
  induction h with
  | nil => cases hlast
  | @cons a b c first labels hfirst hrest ih =>
      cases labels with
      | nil =>
          cases hrest
          cases hlast
          exact hstep _ _ _ hfirst
      | cons second rest =>
          rw [List.getLast?_cons_cons] at hlast
          exact ih hlast

end Path

end Lib
