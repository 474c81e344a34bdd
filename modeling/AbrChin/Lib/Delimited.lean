import Mathlib.Data.List.Forall2

/-!
# Texts that are read back

A value is *read back* from its text when, whatever follows the text, no other value has a text
that starts the same way.  A text need not end by itself for that: digits go on as long as digits
follow, hence what may follow is a parameter.

A list is written as its items with a separator between them and a closing bracket at the end.  The
items are read back one by one, because the separator and the bracket may follow each of them, and
because no item starts with the bracket.
-/

namespace Lib

variable {α γ : Type*}

/-- The value is read back from its text, among the values that satisfy `Valid` and up to `Same`,
when something follows that satisfies `Ends`. -/
def ReadBack (Valid : α → Prop) (Same : α → α → Prop) (Ends : List γ → Prop)
    (text : α → List γ) (value : α) : Prop :=
  ∀ other rest rest', Valid other → Ends rest → Ends rest' →
    text value ++ rest = text other ++ rest' → Same value other ∧ rest = rest'

variable {Valid : α → Prop} {Same : α → α → Prop} {Ends : List γ → Prop} {text : α → List γ}
  {separator bracket : γ}

/-- The separator stands before each item but the first. -/
theorem intercalate_cons (first : List γ) (others : List (List γ)) :
    [separator].intercalate (first :: others) =
      first ++ others.flatMap fun other => separator :: other := by
  induction others generalizing first with
  | nil => simp
  | cons second others ih =>
      rw [List.intercalate_cons_cons, ih second, List.flatMap_cons, List.append_assoc]
      rfl

/-- The separator of the next item or the bracket follows every item. -/
theorem ends_others (hseparator : ∀ rest, Ends (separator :: rest))
    (hbracket : ∀ rest, Ends (bracket :: rest)) (values : List α) (rest : List γ) :
    Ends ((values.flatMap fun value => separator :: text value) ++ bracket :: rest) := by
  cases values with
  | nil => exact hbracket rest
  | cons value values => exact hseparator _

/-- The items after the first. -/
theorem readBack_others (hseparator : ∀ rest, Ends (separator :: rest))
    (hbracket : ∀ rest, Ends (bracket :: rest)) (hne : separator ≠ bracket)
    {values : List α} (hvalues : ∀ value ∈ values, ReadBack Valid Same Ends text value) :
    ∀ {others : List α} {rest rest' : List γ}, (∀ other ∈ others, Valid other) →
      (values.flatMap fun value => separator :: text value) ++ bracket :: rest =
        (others.flatMap fun other => separator :: text other) ++ bracket :: rest' →
      List.Forall₂ Same values others ∧ rest = rest' := by
  induction values with
  | nil =>
      intro others rest rest' hothers h
      cases others with
      | nil => exact ⟨.nil, (List.cons.inj h).2⟩
      | cons other others => exact absurd (List.cons.inj h).1.symm hne
  | cons value values ih =>
      intro others rest rest' hothers h
      cases others with
      | nil => exact absurd (List.cons.inj h).1 hne
      | cons other others =>
          rw [List.flatMap_cons, List.flatMap_cons, List.append_assoc, List.append_assoc] at h
          obtain ⟨hsame, hrest⟩ := hvalues value List.mem_cons_self other _ _
            (hothers other List.mem_cons_self) (ends_others hseparator hbracket values rest)
            (ends_others hseparator hbracket others rest') (List.cons.inj h).2
          obtain ⟨hall, hrest⟩ := ih
            (fun value hvalue => hvalues value (List.mem_cons_of_mem _ hvalue))
            (fun other hother => hothers other (List.mem_cons_of_mem _ hother)) hrest
          exact ⟨.cons hsame hall, hrest⟩

/-- **A list is read back from the texts of its items.** -/
theorem readBack_list (hseparator : ∀ rest, Ends (separator :: rest))
    (hbracket : ∀ rest, Ends (bracket :: rest)) (hne : separator ≠ bracket)
    (hstart : ∀ value, Valid value → ∀ rest rest', text value ++ rest ≠ bracket :: rest')
    {values others : List α} (hvalues : ∀ value ∈ values, ReadBack Valid Same Ends text value)
    (hvalid : ∀ value ∈ values, Valid value) (hothers : ∀ other ∈ others, Valid other)
    {rest rest' : List γ}
    (h : [separator].intercalate (values.map text) ++ bracket :: rest =
      [separator].intercalate (others.map text) ++ bracket :: rest') :
    List.Forall₂ Same values others ∧ rest = rest' := by
  cases values with
  | nil =>
      cases others with
      | nil => exact ⟨.nil, (List.cons.inj h).2⟩
      | cons other others =>
          rw [List.map_cons, intercalate_cons, List.append_assoc] at h
          exact absurd h.symm (hstart other (hothers other List.mem_cons_self) _ _)
  | cons value values =>
      cases others with
      | nil =>
          rw [List.map_cons, intercalate_cons, List.append_assoc] at h
          exact absurd h (hstart value (hvalid value List.mem_cons_self) _ _)
      | cons other others =>
          rw [List.map_cons, List.map_cons, intercalate_cons, intercalate_cons, List.append_assoc,
            List.append_assoc, List.flatMap_map, List.flatMap_map] at h
          obtain ⟨hsame, hrest⟩ := hvalues value List.mem_cons_self other _ _
            (hothers other List.mem_cons_self) (ends_others hseparator hbracket values rest)
            (ends_others hseparator hbracket others rest') h
          obtain ⟨hall, hrest⟩ := readBack_others hseparator hbracket hne
            (fun value hvalue => hvalues value (List.mem_cons_of_mem _ hvalue))
            (fun other hother => hothers other (List.mem_cons_of_mem _ hother)) hrest
          exact ⟨.cons hsame hall, hrest⟩

end Lib
