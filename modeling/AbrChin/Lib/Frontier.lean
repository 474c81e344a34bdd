import Mathlib.Data.List.Induction
import Mathlib.Data.List.Pairwise

/-!
# The best of a list in one pass

The elements of a list are compared by a preorder, `le a b` saying that `b` is at least as good as
`a`.  One pass keeps a list of survivors: an element is dropped when a survivor is as good, and
otherwise joins them in place of those that it is as good as.

That the survivors at the end are the best elements needs the transitivity of the order twice: an
element may be dropped for a survivor that a later element drives out, and so may an element that
was equally good.  `Frontier` therefore relates the survivors to all elements so far: each of them
has a survivor that is as good.
-/

namespace Lib

variable {α : Type*} (le before : α → α → Prop)

/-- The survivors after one more element. -/
def keepBest [DecidableRel le] (survivors : List α) (candidate : α) : List α :=
  if ∃ survivor ∈ survivors, le candidate survivor then survivors
  else survivors.filter (fun survivor => ¬ le survivor candidate) ++ [candidate]

/-- The survivors are the best of the elements so far.  Among equally good ones it is the one that
comes first. -/
structure Frontier (processed survivors : List α) : Prop where
  subset : ∀ survivor ∈ survivors, survivor ∈ processed
  covered : ∀ element ∈ processed, ∃ survivor ∈ survivors, le element survivor
  apart : survivors.Pairwise fun first second => ¬ le first second ∧ ¬ le second first
  first : ∀ survivor ∈ survivors, ∀ element ∈ processed, le element survivor →
    le survivor element → element = survivor ∨ before survivor element

variable {le before} {processed survivors : List α} {candidate : α}

theorem Frontier.nil : Frontier le before [] [] where
  subset _ h := h
  covered _ h := nomatch h
  apart := .nil
  first _ h := nomatch h

instance symmApart : Std.Symm fun first second => ¬ le first second ∧ ¬ le second first :=
  ⟨fun _ _ h => h.symm⟩

/-- Survivors that are comparable are one. -/
theorem Frontier.eq_of_le (h : Frontier le before processed survivors) {first second : α}
    (hfirst : first ∈ survivors) (hsecond : second ∈ survivors) (hle : le first second) :
    first = second := by
  by_contra hne
  exact (h.apart.forall hfirst hsecond hne).1 hle

/-- **One element more.**  It comes after all elements before it. -/
theorem Frontier.keepBest [DecidableRel le] (hrefl : ∀ a, le a a)
    (htrans : ∀ {a b c}, le a b → le b c → le a c)
    (h : Frontier le before processed survivors) (hbefore : ∀ x ∈ processed, before x candidate) :
    Frontier le before (processed ++ [candidate]) (keepBest le survivors candidate) := by
  unfold Lib.keepBest
  by_cases hdrop : ∃ survivor ∈ survivors, le candidate survivor
  · rw [if_pos hdrop]
    constructor
    · exact fun survivor hsurvivor => List.mem_append_left _ (h.subset survivor hsurvivor)
    · intro element helement
      rcases List.mem_append.1 helement with helement | helement
      · exact h.covered element helement
      · rw [List.mem_singleton.1 helement]
        exact hdrop
    · exact h.apart
    · intro survivor hsurvivor element helement hle hge
      rcases List.mem_append.1 helement with helement | helement
      · exact h.first survivor hsurvivor element helement hle hge
      · rw [List.mem_singleton.1 helement]
        exact .inr (hbefore survivor (h.subset survivor hsurvivor))
  · rw [if_neg hdrop]
    have hnone : ∀ survivor ∈ survivors, ¬ le candidate survivor :=
      fun survivor hsurvivor hle => hdrop ⟨survivor, hsurvivor, hle⟩
    -- nothing before the candidate is as good, because a survivor would be
    have hnew : ∀ element ∈ processed, ¬ le candidate element := by
      intro element helement hle
      obtain ⟨survivor, hsurvivor, hcovered⟩ := h.covered element helement
      exact hnone survivor hsurvivor (htrans hle hcovered)
    have hstays {survivor : α}
        (hmem : survivor ∈ survivors.filter fun survivor => ¬ le survivor candidate) :
        survivor ∈ survivors ∧ ¬ le survivor candidate := by
      simpa using List.mem_filter.1 hmem
    constructor
    · intro survivor hsurvivor
      rcases List.mem_append.1 hsurvivor with hsurvivor | hsurvivor
      · exact List.mem_append_left _ (h.subset survivor (hstays hsurvivor).1)
      · exact List.mem_append_right _ hsurvivor
    · intro element helement
      rcases List.mem_append.1 helement with helement | helement
      · -- its survivor stays, or the candidate drives it out and is as good
        obtain ⟨survivor, hsurvivor, hcovered⟩ := h.covered element helement
        by_cases hout : le survivor candidate
        · exact ⟨candidate, by simp, htrans hcovered hout⟩
        · exact ⟨survivor, by simp [hsurvivor, hout], hcovered⟩
      · rw [List.mem_singleton.1 helement]
        exact ⟨candidate, by simp, hrefl candidate⟩
    · refine List.pairwise_append.2 ⟨h.apart.filter _, List.pairwise_singleton _ _, ?_⟩
      intro survivor hsurvivor other hother
      rw [List.mem_singleton.1 hother]
      exact ⟨(hstays hsurvivor).2, hnone survivor (hstays hsurvivor).1⟩
    · intro survivor hsurvivor element helement hle hge
      rcases List.mem_append.1 hsurvivor with hsurvivor | hsurvivor
      · rcases List.mem_append.1 helement with helement | helement
        · exact h.first survivor (hstays hsurvivor).1 element helement hle hge
        · rw [List.mem_singleton.1 helement] at hge
          exact absurd hge (hstays hsurvivor).2
      · rw [List.mem_singleton.1 hsurvivor] at hge ⊢
        rcases List.mem_append.1 helement with helement | helement
        · exact absurd hge (hnew element helement)
        · exact .inl (List.mem_singleton.1 helement)

/-- The survivors of a sorted list. -/
theorem frontier_foldl [DecidableRel le] (hrefl : ∀ a, le a a)
    (htrans : ∀ {a b c}, le a b → le b c → le a c) {elements : List α}
    (hsorted : elements.Pairwise before) :
    Frontier le before elements (elements.foldl (keepBest le) []) := by
  induction elements using List.reverseRecOn with
  | nil => exact .nil
  | append_singleton elements candidate ih =>
      rw [List.foldl_append]
      obtain ⟨hsorted, -, hbefore⟩ := List.pairwise_append.1 hsorted
      exact (ih hsorted).keepBest hrefl htrans
        fun element helement => hbefore element helement candidate (List.mem_singleton.2 rfl)

/-- **What survives does not depend on the pass**: it is what nothing is better than, and of equally
good elements the one that comes first. -/
theorem Frontier.mem_iff (h : Frontier le before processed survivors)
    (htrans : ∀ {a b c}, le a b → le b c → le a c)
    (hasymm : ∀ {a b}, before a b → ¬ before b a) {element : α} :
    element ∈ survivors ↔ element ∈ processed ∧ (∀ other ∈ processed, le element other →
      le other element ∧ (other = element ∨ before element other)) := by
  constructor
  · intro hmem
    refine ⟨h.subset element hmem, fun other hother hle => ?_⟩
    obtain ⟨survivor, hsurvivor, hcovered⟩ := h.covered other hother
    cases h.eq_of_le hmem hsurvivor (htrans hle hcovered)
    exact ⟨hcovered, h.first element hmem other hother hcovered hle⟩
  · rintro ⟨hmem, hbest⟩
    obtain ⟨survivor, hsurvivor, hcovered⟩ := h.covered element hmem
    obtain ⟨hback, hfirst⟩ := hbest survivor (h.subset survivor hsurvivor) hcovered
    rcases hfirst with rfl | hfirst
    · exact hsurvivor
    · rcases h.first survivor hsurvivor element hmem hcovered hback with rfl | hsecond
      · exact hsurvivor
      · exact absurd hfirst (hasymm hsecond)

end Lib
