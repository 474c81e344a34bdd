import AbrChin.Js.Value

/-!
# Reading UTF-8

`TextDecoder` as the Encoding Standard describes it: a byte that cannot go on with a character ends
it with a replacement character, and is read again as the first byte of the next one.
-/

namespace AbrChin.Js

/-- Inside a character: how many bytes are still needed, what has been read of the code point, and
between which bounds the next byte has to be. -/
structure Utf8Pending where
  needed : ℕ
  codePoint : ℕ
  lower : ℕ
  upper : ℕ

def replacementCharacter : Char := '\uFFFD'

/-- The first byte of a character. -/
def utf8Start (byte : ℕ) : List Char × Option Utf8Pending :=
  if byte ≤ 0x7F then ([Char.ofNat byte], none)
  else if 0xC2 ≤ byte ∧ byte ≤ 0xDF then ([], some ⟨1, byte - 0xC0, 0x80, 0xBF⟩)
  else if 0xE0 ≤ byte ∧ byte ≤ 0xEF then
    ([], some ⟨2, byte - 0xE0, if byte = 0xE0 then 0xA0 else 0x80,
      if byte = 0xED then 0x9F else 0xBF⟩)
  else if 0xF0 ≤ byte ∧ byte ≤ 0xF4 then
    ([], some ⟨3, byte - 0xF0, if byte = 0xF0 then 0x90 else 0x80,
      if byte = 0xF4 then 0x8F else 0xBF⟩)
  else ([replacementCharacter], none)

/-- The characters that a byte completes, and where the decoder is then. -/
def utf8Step (pending : Option Utf8Pending) (byte : ℕ) : List Char × Option Utf8Pending :=
  match pending with
  | none => utf8Start byte
  | some pending =>
      if pending.lower ≤ byte ∧ byte ≤ pending.upper then
        let codePoint := 64 * pending.codePoint + (byte - 0x80)
        if pending.needed = 1 then ([Char.ofNat codePoint], none)
        else ([], some ⟨pending.needed - 1, codePoint, 0x80, 0xBF⟩)
      else
        let (chars, next) := utf8Start byte
        (replacementCharacter :: chars, next)

def utf8DecodeFrom : Option Utf8Pending → List UInt8 → List Char
  | none, [] => []
  | some _, [] => [replacementCharacter]
  | pending, byte :: rest =>
      let (chars, next) := utf8Step pending byte.toNat
      chars ++ utf8DecodeFrom next rest

/-- "UTF-8 decode without BOM". -/
def utf8Decode (bytes : List UInt8) : String := String.ofList (utf8DecodeFrom none bytes)

/-! ## What has been encoded -/

theorem utf8DecodeFrom_cons {pending next : Option Utf8Pending} {byte : ℕ} {chars : List Char}
    {rest : List UInt8} (hbyte : byte < 256) (hstep : utf8Step pending byte = (chars, next)) :
    utf8DecodeFrom pending (UInt8.ofNat byte :: rest) = chars ++ utf8DecodeFrom next rest := by
  have hnat : (UInt8.ofNat byte).toNat = byte := by
    rw [UInt8.toNat_ofNat', Nat.mod_eq_of_lt (by simpa using hbyte)]
  rw [utf8DecodeFrom, hnat, hstep]

/-- The last byte of a character. -/
theorem utf8Step_last {codePoint lower upper six : ℕ} (hlower : lower ≤ six + 0x80)
    (hupper : six + 0x80 ≤ upper) :
    utf8Step (some ⟨1, codePoint, lower, upper⟩) (six + 0x80) =
      ([Char.ofNat (64 * codePoint + six)], none) := by
  simp only [utf8Step, if_pos (And.intro hlower hupper), Nat.add_sub_cancel, if_true]

/-- A byte between the first and the last one. -/
theorem utf8Step_more {needed codePoint lower upper six : ℕ} (hneeded : needed ≠ 1)
    (hlower : lower ≤ six + 0x80) (hupper : six + 0x80 ≤ upper) :
    utf8Step (some ⟨needed, codePoint, lower, upper⟩) (six + 0x80) =
      ([], some ⟨needed - 1, 64 * codePoint + six, 0x80, 0xBF⟩) := by
  simp only [utf8Step, if_pos (And.intro hlower hupper), Nat.add_sub_cancel, if_neg hneeded]

theorem utf8Step_one {byte : ℕ} (h : byte ≤ 0x7F) :
    utf8Step none byte = ([Char.ofNat byte], none) := if_pos h

theorem utf8Step_two {five : ℕ} (h : 2 ≤ five ∧ five < 0x20) :
    utf8Step none (five + 0xC0) = ([], some ⟨1, five, 0x80, 0xBF⟩) := by
  show utf8Start _ = _
  unfold utf8Start
  rw [if_neg (by omega), if_pos (by omega), Nat.add_sub_cancel]

theorem utf8Step_three {four : ℕ} (h : four < 0x10) :
    utf8Step none (four + 0xE0) = ([], some ⟨2, four, if four = 0 then 0xA0 else 0x80,
      if four = 0xD then 0x9F else 0xBF⟩) := by
  show utf8Start _ = _
  unfold utf8Start
  rw [if_neg (by omega), if_neg (by omega), if_pos (by omega), Nat.add_sub_cancel]
  simp only [Nat.add_eq_right, show four + 0xE0 = 0xED ↔ four = 0xD by omega]

theorem utf8Step_four {three : ℕ} (h : three < 5) :
    utf8Step none (three + 0xF0) = ([], some ⟨3, three, if three = 0 then 0x90 else 0x80,
      if three = 4 then 0x8F else 0xBF⟩) := by
  show utf8Start _ = _
  unfold utf8Start
  rw [if_neg (by omega), if_neg (by omega), if_neg (by omega), if_pos (by omega),
    Nat.add_sub_cancel]
  simp only [Nat.add_eq_right, show three + 0xF0 = 0xF4 ↔ three = 4 by omega]

/-- A character is read back.  The bounds of the second byte leave out what would be a longer form
of a shorter character, a surrogate, or beyond the last character. -/
theorem utf8DecodeFrom_utf8EncodeChar (c : Char) (rest : List UInt8) :
    utf8DecodeFrom none (String.utf8EncodeChar c ++ rest) = c :: utf8DecodeFrom none rest := by
  have hvalid : c.toNat < 0xD800 ∨ (0xDFFF < c.toNat ∧ c.toNat < 0x110000) := c.valid
  have hchar : Char.ofNat c.toNat = c := Char.ofNat_toNat c
  have hcode : String.utf8EncodeChar c =
      if c.toNat ≤ 0x7F then [UInt8.ofNat c.toNat]
      else if c.toNat ≤ 0x7FF then
        [UInt8.ofNat (c.toNat / 64 % 0x20 + 0xC0), UInt8.ofNat (c.toNat % 0x40 + 0x80)]
      else if c.toNat ≤ 0xFFFF then
        [UInt8.ofNat (c.toNat / 4096 % 0x10 + 0xE0), UInt8.ofNat (c.toNat / 64 % 0x40 + 0x80),
          UInt8.ofNat (c.toNat % 0x40 + 0x80)]
      else
        [UInt8.ofNat (c.toNat / 262144 % 0x08 + 0xF0), UInt8.ofNat (c.toNat / 4096 % 0x40 + 0x80),
          UInt8.ofNat (c.toNat / 64 % 0x40 + 0x80), UInt8.ofNat (c.toNat % 0x40 + 0x80)] := rfl
  generalize c.toNat = v at *
  rw [hcode, ← hchar]
  by_cases hone : v ≤ 0x7F
  · rw [if_pos hone]
    exact utf8DecodeFrom_cons (by omega) (utf8Step_one hone)
  rw [if_neg hone]
  by_cases htwo : v ≤ 0x7FF
  · rw [if_pos htwo]
    have hfirst := @utf8Step_two (v / 64 % 0x20) (by omega)
    have hlast := @utf8Step_last (v / 64 % 0x20) 0x80 0xBF (v % 0x40) (by omega) (by omega)
    have hv : 64 * (v / 64 % 0x20) + v % 0x40 = v := by omega
    rw [hv] at hlast
    rw [List.cons_append, utf8DecodeFrom_cons (by omega) hfirst, List.nil_append, List.cons_append,
      utf8DecodeFrom_cons (by omega) hlast]
    rfl
  rw [if_neg htwo]
  by_cases hthree : v ≤ 0xFFFF
  · rw [if_pos hthree]
    have hfirst := @utf8Step_three (v / 4096 % 0x10) (by omega)
    have hsecond := @utf8Step_more 2 (v / 4096 % 0x10)
      (if v / 4096 % 0x10 = 0 then 0xA0 else 0x80) (if v / 4096 % 0x10 = 0xD then 0x9F else 0xBF)
      (v / 64 % 0x40) (by decide) (by split_ifs <;> omega) (by split_ifs <;> omega)
    have hlast := @utf8Step_last (64 * (v / 4096 % 0x10) + v / 64 % 0x40) 0x80 0xBF (v % 0x40)
      (by omega) (by omega)
    have hv : 64 * (64 * (v / 4096 % 0x10) + v / 64 % 0x40) + v % 0x40 = v := by omega
    rw [hv] at hlast
    rw [List.cons_append, utf8DecodeFrom_cons (by omega) hfirst, List.nil_append, List.cons_append,
      utf8DecodeFrom_cons (by omega) hsecond, List.nil_append, List.cons_append,
      utf8DecodeFrom_cons (by omega) hlast]
    rfl
  · rw [if_neg hthree]
    have hfirst := @utf8Step_four (v / 262144 % 0x08) (by omega)
    have hsecond := @utf8Step_more 3 (v / 262144 % 0x08)
      (if v / 262144 % 0x08 = 0 then 0x90 else 0x80)
      (if v / 262144 % 0x08 = 4 then 0x8F else 0xBF)
      (v / 4096 % 0x40) (by decide) (by split_ifs <;> omega) (by split_ifs <;> omega)
    have hthird := @utf8Step_more 2 (64 * (v / 262144 % 0x08) + v / 4096 % 0x40) 0x80 0xBF
      (v / 64 % 0x40) (by decide) (by omega) (by omega)
    have hlast := @utf8Step_last (64 * (64 * (v / 262144 % 0x08) + v / 4096 % 0x40) + v / 64 % 0x40)
      0x80 0xBF (v % 0x40) (by omega) (by omega)
    have hv : 64 * (64 * (64 * (v / 262144 % 0x08) + v / 4096 % 0x40) + v / 64 % 0x40) + v % 0x40 =
        v := by omega
    rw [hv] at hlast
    rw [List.cons_append, utf8DecodeFrom_cons (by omega) hfirst, List.nil_append, List.cons_append,
      utf8DecodeFrom_cons (by omega) hsecond, List.nil_append, List.cons_append,
      utf8DecodeFrom_cons (by omega) hthird, List.nil_append, List.cons_append,
      utf8DecodeFrom_cons (by omega) hlast]
    rfl

theorem utf8Decode_utf8 (s : String) : utf8Decode (utf8 s) = s := by
  have hlist : ∀ chars : List Char,
      utf8DecodeFrom none (chars.flatMap String.utf8EncodeChar) = chars := by
    intro chars
    induction chars with
    | nil => rfl
    | cons c rest ih => rw [List.flatMap_cons, utf8DecodeFrom_utf8EncodeChar, ih]
  rw [utf8Decode, utf8, hlist, String.ofList_toList]

example : utf8Decode [0x61, 0xC3, 0xE2, 0x82, 0x28, 0xED, 0xA0, 0xC2, 0xA9, 0xF0] =
    "a\uFFFD\uFFFD(\uFFFD\uFFFD©\uFFFD" := by decide +kernel

end AbrChin.Js
