import AbrChin.Lib.Ranges
import Mathlib.Algebra.Order.Ring.Int

/-!
# Ranges that cover a period

`assertCoveredByRanges` of `lib/billing/calculation.ts`: the ranges that meet the period are cut
down to it, put in the order of their starts, and followed by a cursor.  Instants are milliseconds.

The ranges may overlap, lie in one another or come in any order.  None of this matters, since the
cursor only goes forward (`sweep_reaches_iff`); what is cut off a range lies outside of the period.
-/

namespace AbrChin.Billing

open Lib

/-- A range meets the period. -/
def meetsPeriod (start stop : ℤ) (range : Span ℤ) : Bool :=
  start < range.stop && range.start < stop

/-- A range, cut down to the period. -/
def clip (start stop : ℤ) (range : Span ℤ) : Span ℤ where
  start := if start < range.start then range.start else start
  stop := if range.stop < stop then range.stop else stop

/-- `assertCoveredByRanges` -/
def assertCoveredByRanges (start stop : ℤ) (ranges : List (Span ℤ)) : Bool :=
  let sorted := ((ranges.filter (meetsPeriod start stop)).map (clip start stop)).insertionSort
    fun left right => left.start ≤ right.start
  (sweep start sorted).any (stop ≤ ·)

/-- Cutting a range down keeps the instants of the period. -/
theorem contains_clip {start stop instant : ℤ} {range : Span ℤ} (hfrom : start ≤ instant)
    (huntil : instant < stop) :
    meetsPeriod start stop range = true ∧ (clip start stop range).Contains instant ↔
      range.Contains instant := by
  simp only [meetsPeriod, clip, Span.Contains, Bool.and_eq_true, decide_eq_true_eq]
  split_ifs <;> omega

/-- **The test answers yes exactly when every instant of the period lies in some range.** -/
theorem assertCoveredByRanges_iff (start stop : ℤ) (ranges : List (Span ℤ)) :
    assertCoveredByRanges start stop ranges = true ↔
      ∀ instant, start ≤ instant → instant < stop → ∃ range ∈ ranges, range.Contains instant := by
  set clipped := (ranges.filter (meetsPeriod start stop)).map (clip start stop) with hclipped
  have hsorted : (clipped.insertionSort fun left right => left.start ≤ right.start).Pairwise
      (·.start ≤ ·.start) := List.pairwise_insertionSort _ _
  have hbefore : ∀ range ∈ clipped.insertionSort fun left right => left.start ≤ right.start,
      range.start ≤ start ∨ range.start < stop := by
    intro range hrange
    rw [List.mem_insertionSort, hclipped] at hrange
    obtain ⟨whole, hwhole, rfl⟩ := List.mem_map.1 hrange
    obtain ⟨-, hmeets⟩ := List.mem_filter.1 hwhole
    simp only [meetsPeriod, Bool.and_eq_true, decide_eq_true_eq] at hmeets
    simp only [clip]
    split_ifs <;> omega
  have hreaches := sweep_reaches_iff hsorted hbefore
  refine hreaches.trans (forall_congr' fun instant => forall₂_congr fun hfrom huntil => ?_)
  constructor
  · rintro ⟨range, hrange, hcontains⟩
    rw [List.mem_insertionSort, hclipped] at hrange
    obtain ⟨whole, hwhole, rfl⟩ := List.mem_map.1 hrange
    obtain ⟨hwhole, hmeets⟩ := List.mem_filter.1 hwhole
    exact ⟨whole, hwhole, (contains_clip hfrom huntil).1 ⟨hmeets, hcontains⟩⟩
  · rintro ⟨range, hrange, hcontains⟩
    obtain ⟨hmeets, hclip⟩ := (contains_clip hfrom huntil).2 hcontains
    refine ⟨clip start stop range, ?_, hclip⟩
    rw [List.mem_insertionSort, hclipped]
    exact List.mem_map_of_mem (List.mem_filter.2 ⟨hrange, hmeets⟩)

/-- Nested, touching and unsorted ranges around a period. -/
example : assertCoveredByRanges 0 10 [⟨6, 12⟩, ⟨3, 4⟩, ⟨-5, 6⟩] = true := by decide

end AbrChin.Billing
