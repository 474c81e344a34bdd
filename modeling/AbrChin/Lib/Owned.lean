import Mathlib.Data.List.Nodup

/-!
# Rows with an owner that refer to each other

An `Owned` row has a key, the key of a row of another table, and an owner.  `Follows` says that each row
of a table refers to a row of another one that is there and has the same owner.

Tables grow (`Follows.append`, `Follows.append_parent`), and rows are given to another owner (`give`).
`Follows.give` is the rule for that: the rows that refer to each other have to be given together.
-/

namespace Lib

/-- The columns of a row that its ownership is about. -/
structure Owned (κ υ : Type*) where
  id : κ
  ref : κ
  owner : υ
  deriving DecidableEq

namespace Owned

variable {κ υ : Type*} {children parents : List (Owned κ υ)}

/-- Each row refers to a row with its owner. -/
def Follows (children parents : List (Owned κ υ)) : Prop :=
  ∀ child ∈ children, ∃ parent ∈ parents, parent.id = child.ref ∧ parent.owner = child.owner

theorem follows_nil : Follows [] parents := fun _ hchild => nomatch hchild

theorem Follows.append_parent (h : Follows children parents) (parent : Owned κ υ) :
    Follows children (parents ++ [parent]) := by
  intro child hchild
  obtain ⟨other, hother, hsame⟩ := h child hchild
  exact ⟨other, List.mem_append_left _ hother, hsame⟩

theorem Follows.append (h : Follows children parents) {child parent : Owned κ υ}
    (hparent : parent ∈ parents) (hid : parent.id = child.ref) (howner : parent.owner = child.owner) :
    Follows (children ++ [child]) parents := by
  intro other hother
  rcases List.mem_append.1 hother with hold | hnew
  · exact h other hold
  · obtain rfl := List.mem_singleton.1 hnew
    exact ⟨parent, hparent, hid, howner⟩

/-- Where keys are unique, a row has the owner of the row that it refers to. -/
theorem Follows.owner_eq (h : Follows children parents) (hunique : (parents.map id).Nodup)
    {child parent : Owned κ υ} (hchild : child ∈ children) (hparent : parent ∈ parents)
    (hid : parent.id = child.ref) : parent.owner = child.owner := by
  obtain ⟨other, hother, hsame, howner⟩ := h child hchild
  rw [List.inj_on_of_nodup_map hunique hparent hother (hid.trans hsame.symm)]
  exact howner

def withOwner (owner : υ) (row : Owned κ υ) : Owned κ υ := { row with owner }

/-- The rows of a kind are given to an owner. -/
def give (p : Owned κ υ → Bool) (owner : υ) (rows : List (Owned κ υ)) : List (Owned κ υ) :=
  rows.map fun row => if p row = true then row.withOwner owner else row

theorem give_of_none {p : Owned κ υ → Bool} {owner : υ} {rows : List (Owned κ υ)}
    (h : ∀ row ∈ rows, p row = false) : give p owner rows = rows := by
  refine (List.map_congr_left fun row hrow => ?_).trans (List.map_id rows)
  rw [h row hrow]
  rfl

/-- **Rows that refer to each other are given together.** -/
theorem Follows.give (h : Follows children parents) {p q : Owned κ υ → Bool} {owner : υ}
    (hsame : ∀ child ∈ children, ∀ parent ∈ parents, parent.id = child.ref → p child = q parent) :
    Follows (give p owner children) (give q owner parents) := by
  intro given hgiven
  obtain ⟨child, hchild, rfl⟩ := List.mem_map.1 hgiven
  obtain ⟨parent, hparent, hid, howner⟩ := h child hchild
  refine ⟨_, List.mem_map_of_mem hparent, ?_⟩
  have hboth := hsame child hchild parent hparent hid
  by_cases hp : p child = true
  · rw [if_pos hp, if_pos (hboth ▸ hp)]
    exact ⟨hid, rfl⟩
  · rw [if_neg hp, if_neg (hboth ▸ hp)]
    exact ⟨hid, howner⟩

/-- A row and the one that it refers to, where no other row refers to that one. -/
theorem Follows.give_row [DecidableEq κ] (h : Follows children parents)
    (hids : (children.map id).Nodup) (hrefs : (children.map ref).Nodup) {row : Owned κ υ}
    (hrow : row ∈ children) (owner : υ) :
    Follows (Owned.give (fun child => child.id = row.id) owner children)
      (Owned.give (fun parent => parent.id = row.ref) owner parents) := by
  refine h.give fun child hchild parent _ hid => ?_
  rw [decide_eq_decide, hid]
  constructor
  · intro hsame
    rw [List.inj_on_of_nodup_map hids hchild hrow hsame]
  · intro hsame
    rw [List.inj_on_of_nodup_map hrefs hchild hrow hsame]

end Owned

end Lib
