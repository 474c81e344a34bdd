import AbrChin.Js.Value

/-!
# Sorting texts

`Array.prototype.sort` compares texts by their UTF-16 code units.  Two texts with the same units are
one text, so that a list has one sorted order, whatever order it comes in.
-/

namespace AbrChin.Js

/-- The code units of one character. -/
def utf16Char (c : Char) : List ℕ :=
  if c.val < 0x10000 then [c.toNat]
  else [0xD800 + (c.toNat - 0x10000) / 0x400, 0xDC00 + (c.toNat - 0x10000) % 0x400]

theorem utf16_eq (s : String) : utf16 s = s.toList.flatMap utf16Char := rfl

/-- No character is a surrogate, so that the first unit says how many a character has. -/
theorem utf16Char_append_inj {c d : Char} {rest rest' : List ℕ}
    (h : utf16Char c ++ rest = utf16Char d ++ rest') : c = d ∧ rest = rest' := by
  have hvalid (c : Char) : c.toNat < 0xD800 ∨ (0xDFFF < c.toNat ∧ c.toNat < 0x110000) := c.valid
  have hc := hvalid c
  have hd := hvalid d
  have hval (c : Char) : c.val < 0x10000 ↔ c.toNat < 0x10000 := UInt32.lt_iff_toNat_lt
  have hsame (hnat : c.toNat = d.toNat) : c = d := by
    rw [← Char.ofNat_toNat c, hnat, Char.ofNat_toNat]
  unfold utf16Char at h
  simp only [hval] at h
  by_cases hone : c.toNat < 0x10000
  · by_cases hone' : d.toNat < 0x10000
    · rw [if_pos hone, if_pos hone'] at h
      obtain ⟨hhead, hrest⟩ := List.cons.inj h
      exact ⟨hsame hhead, hrest⟩
    · rw [if_pos hone, if_neg hone'] at h
      obtain ⟨hhead, -⟩ := List.cons.inj h
      omega
  · by_cases hone' : d.toNat < 0x10000
    · rw [if_neg hone, if_pos hone'] at h
      obtain ⟨hhead, -⟩ := List.cons.inj h
      omega
    · rw [if_neg hone, if_neg hone'] at h
      obtain ⟨hhead, h⟩ := List.cons.inj h
      obtain ⟨hsecond, hrest⟩ := List.cons.inj h
      exact ⟨hsame (by omega), hrest⟩

theorem utf16_injective : Function.Injective utf16 := by
  have hlist : ∀ chars chars' : List Char,
      chars.flatMap utf16Char = chars'.flatMap utf16Char → chars = chars' := by
    have hne (c : Char) (rest : List ℕ) : utf16Char c ++ rest ≠ [] := by
      unfold utf16Char
      split_ifs <;> simp
    intro chars
    induction chars with
    | nil =>
        intro chars' h
        cases chars' with
        | nil => rfl
        | cons d rest' => exact absurd h.symm (hne d _)
    | cons c rest ih =>
        intro chars' h
        cases chars' with
        | nil => exact absurd h (hne c _)
        | cons d rest' =>
            obtain ⟨hcd, hrest⟩ := utf16Char_append_inj h
            rw [hcd, ih rest' hrest]
  intro s t h
  exact String.toList_injective (hlist s.toList t.toList h)

theorem sort_perm (strings : List String) : (sort strings).Perm strings :=
  List.perm_insertionSort _ _

/-- Lists with the same texts are sorted alike. -/
theorem sort_eq_of_perm {first second : List String} (h : first.Perm second) :
    sort first = sort second := by
  let before : String → String → Prop := fun a b => ¬ utf16 b < utf16 a
  have htotal : Std.Total before := ⟨fun a b => by
    rcases le_total (utf16 a) (utf16 b) with hle | hle
    · exact .inl (not_lt.2 hle)
    · exact .inr (not_lt.2 hle)⟩
  have htrans : IsTrans String before :=
    ⟨fun a b c hab hbc => not_lt.2 ((not_lt.1 hab).trans (not_lt.1 hbc))⟩
  refine List.Perm.eq_of_pairwise (fun a b _ _ hab hba => ?_)
    (List.pairwise_insertionSort before first) (List.pairwise_insertionSort before second)
    (((sort_perm first).trans h).trans (sort_perm second).symm)
  exact utf16_injective (le_antisymm (not_lt.1 hab) (not_lt.1 hba))

end AbrChin.Js
