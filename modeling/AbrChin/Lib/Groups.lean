import Mathlib.Data.List.Basic

/-!
# Grouping by a key

Elements are put into groups with one key, as a map from keys to lists does it: the groups stand in
the order of their first elements.
-/

namespace Lib

variable {α β : Type*} [DecidableEq β] (key : α → β)

/-- The groups of elements with one key. -/
def groups (elements : List α) : List (List α) :=
  (elements.map key).eraseDups.map fun k => elements.filter (key · = k)

variable {key} {elements group : List α} {element : α}

/-- A group is what has the key of one of the elements. -/
theorem mem_groups : group ∈ groups key elements ↔
    ∃ element ∈ elements, group = elements.filter (key · = key element) := by
  constructor
  · intro hgroup
    obtain ⟨k, hk, rfl⟩ := List.mem_map.1 hgroup
    obtain ⟨element, helement, rfl⟩ := List.mem_map.1 (List.mem_eraseDups.1 hk)
    exact ⟨element, helement, rfl⟩
  · rintro ⟨element, helement, rfl⟩
    exact List.mem_map.2
      ⟨key element, List.mem_eraseDups.2 (List.mem_map_of_mem helement), rfl⟩

/-- The first element's group, and the groups of what has another key. -/
theorem groups_cons (element : α) (elements : List α) : groups key (element :: elements) =
    (element :: elements).filter (key · = key element) ::
      groups key (elements.filter (key · ≠ key element)) := by
  have hkeys : ((elements.map key).filter fun k => !k == key element) =
      (elements.filter (key · ≠ key element)).map key := by
    rw [List.filter_map]
    congr 2
    funext other
    simp [beq_eq_decide]
  have hfilter : ∀ k ∈ ((elements.filter (key · ≠ key element)).map key).eraseDups,
      (element :: elements).filter (key · = k) =
        (elements.filter (key · ≠ key element)).filter (key · = k) := by
    intro k hk
    obtain ⟨other, hother, rfl⟩ := List.mem_map.1 (List.mem_eraseDups.1 hk)
    have hne : key other ≠ key element := by simpa using (List.mem_filter.1 hother).2
    rw [List.filter_cons_of_neg (by simpa using hne.symm), List.filter_filter]
    refine List.filter_congr fun third _ => ?_
    simp only [decide_not, ne_eq]
    by_cases hthird : key third = key other
    · simp [hthird, hne]
    · simp [hthird]
  unfold groups
  rw [List.map_cons, List.eraseDups_cons, hkeys, List.map_cons]
  exact congrArg _ (List.map_congr_left hfilter)

/-- **Every element is in one group, once.** -/
theorem flatten_groups_perm (elements : List α) : (groups key elements).flatten.Perm elements := by
  induction hlength : elements.length using Nat.strongRecOn generalizing elements with
  | ind n ih =>
      cases elements with
      | nil => rfl
      | cons element elements =>
          rw [groups_cons, List.flatten_cons]
          have hshorter : (elements.filter (key · ≠ key element)).length < n := by
            have hle := List.length_filter_le (key · ≠ key element) elements
            rw [List.length_cons] at hlength
            omega
          have hrest : (element :: elements).filter
              (fun other => !decide (key other = key element)) =
              elements.filter (key · ≠ key element) := by
            rw [List.filter_cons_of_neg (by simp)]
            simp
          refine ((ih _ hshorter _ rfl).append_left _).trans ?_
          rw [← hrest]
          exact List.filter_append_perm _ _

end Lib
