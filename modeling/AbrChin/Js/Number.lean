import AbrChin.Js.Value
import Mathlib.Data.Int.Log
import Mathlib.Data.Rat.Floor

/-!
# Strings as numbers

`Number(text)` and `BigInt(text)`: the literals they accept and the double that
`Number` rounds a literal to.
-/

namespace AbrChin.Js

/-- The value of a digit in a radix up to 36. -/
def digitValue (radix : ℕ) (c : Char) : Option ℕ :=
  let value :=
    if c.isDigit then c.toNat - '0'.toNat
    else if c.isLower then c.toNat - 'a'.toNat + 10
    else if c.isUpper then c.toNat - 'A'.toNat + 10
    else radix
  if value < radix then some value else none

/-- The value of a non-empty list of digits. -/
def digitsValue (radix : ℕ) (digits : List Char) : Option ℕ :=
  if digits = [] then none
  else digits.foldlM (fun value c => (digitValue radix c).map (radix * value + ·)) 0

/-- A literal with one of the prefixes `0x`, `0o`, `0b`. -/
def nonDecimalLiteral : List Char → Option ℕ
  | '0' :: letter :: digits =>
      if letter ∈ ['x', 'X'] then digitsValue 16 digits
      else if letter ∈ ['o', 'O'] then digitsValue 8 digits
      else if letter ∈ ['b', 'B'] then digitsValue 2 digits
      else none
  | _ => none

/-- A sign and what follows it. -/
def signed : List Char → ℤ × List Char
  | '-' :: rest => (-1, rest)
  | '+' :: rest => (1, rest)
  | text => (1, text)

/-- The value of decimal digits; no digits are zero. -/
def decimal (digits : List Char) : ℕ :=
  digits.foldl (fun value c => 10 * value + (c.toNat - '0'.toNat)) 0

/-- The exponent part of a decimal literal. -/
def exponent : List Char → Option ℤ
  | [] => some 0
  | e :: rest =>
      let (sign, digits) := signed rest
      if e ∈ ['e', 'E'] ∧ digits ≠ [] ∧ digits.all Char.isDigit then some (sign * decimal digits)
      else none

/-- An unsigned decimal literal: digits, a fraction, an exponent. -/
def decimalLiteral (text : List Char) : Option ℚ :=
  let whole := text.takeWhile Char.isDigit
  let rest := text.dropWhile Char.isDigit
  let (fraction, rest) :=
    match rest with
    | '.' :: rest => (rest.takeWhile Char.isDigit, rest.dropWhile Char.isDigit)
    | rest => ([], rest)
  if whole = [] ∧ fraction = [] then none
  else (exponent rest).map fun power =>
    (decimal (whole ++ fraction) : ℚ) / 10 ^ fraction.length * 10 ^ power

/-- The nearest integer, the even one of two. -/
def roundHalfEven (q : ℚ) : ℤ :=
  let floor := ⌊q⌋
  if q - floor < 1 / 2 then floor
  else if q - floor > 1 / 2 then floor + 1
  else if floor % 2 = 0 then floor
  else floor + 1

/-- The double nearest to a number; `none` where it overflows to an infinity. -/
def double (q : ℚ) : Option ℚ :=
  if q.den = 1 ∧ |q.num| ≤ 2 ^ 53 then some q
  else
    let power := max (Int.log 2 |q| - 52) (-1074)
    let rounded := (roundHalfEven (q / (2 : ℚ) ^ power) : ℚ) * (2 : ℚ) ^ power
    if |rounded| < 2 ^ 1024 then some rounded else none

/-- `Number(text)`; `none` when the result is not finite. -/
def toNumber (text : String) : Option ℚ :=
  let chars := (trim text).toList
  if chars = [] then some 0
  else
    match nonDecimalLiteral chars with
    | some value => double value
    | none =>
        let (sign, literal) := signed chars
        (decimalLiteral literal).bind fun value => double (sign * value)

/-- `BigInt(text)`; `none` when it throws. -/
def toBigInt (text : String) : Option ℤ :=
  let chars := (trim text).toList
  if chars = [] then some 0
  else
    match nonDecimalLiteral chars with
    | some value => some value
    | none =>
        let (sign, digits) := signed chars
        (digitsValue 10 digits).map fun value => sign * value

/-! ## Plain numerals -/

/-- A positive decimal numeral without leading zeros that a Number holds exactly. -/
def isPlainNumeral (text : String) : Bool :=
  isPositiveDecimal text && decimal text.toList ≤ 2 ^ 53

theorem isDigit_of_isPositiveDecimal {text : String} (h : isPositiveDecimal text = true) :
    ∃ first rest, text.toList = first :: rest ∧ first ≠ '0' ∧ ∀ c ∈ text.toList, c.isDigit := by
  unfold isPositiveDecimal at h
  split at h
  · cases h
  · rename_i first rest htext
    simp only [Bool.and_eq_true, decide_eq_true_eq, List.all_eq_true] at h
    refine ⟨first, rest, htext, h.1.2, ?_⟩
    rw [htext]
    intro c hc
    rcases List.mem_cons.1 hc with rfl | hc
    · exact h.1.1
    · exact h.2 c hc

theorem isWhiteSpace_of_isDigit {c : Char} (h : c.isDigit = true) : isWhiteSpace c = false := by
  have hrange : 48 ≤ c.val.toNat ∧ c.val.toNat ≤ 57 := by
    simp only [Char.isDigit, Bool.and_eq_true, decide_eq_true_eq] at h
    exact ⟨UInt32.le_iff_toNat_le.1 h.1, UInt32.le_iff_toNat_le.1 h.2⟩
  by_contra hspace
  simp only [Bool.not_eq_false, isWhiteSpace, List.mem_cons, List.not_mem_nil, or_false,
    Bool.or_eq_true, Bool.and_eq_true, decide_eq_true_eq, ← UInt32.toNat_inj,
    UInt32.le_iff_toNat_le, UInt32.reduceToNat] at hspace
  omega

/-- A string that neither starts nor ends with white space. -/
theorem trim_of_ends {s : String} (hhead : ∀ c ∈ s.toList.head?, isWhiteSpace c = false)
    (hlast : ∀ c ∈ s.toList.getLast?, isWhiteSpace c = false) : trim s = s := by
  apply String.ext
  have hleft : s.toList.dropWhile isWhiteSpace = s.toList :=
    List.dropWhile_eq_self_iff.2 fun hpos => by
      simp [hhead _ (List.head?_eq_getElem? (l := s.toList) ▸ List.getElem?_eq_getElem hpos)]
  have hright : s.toList.rdropWhile isWhiteSpace = s.toList :=
    List.rdropWhile_eq_self_iff.2 fun hne => by
      simp [hlast _ (List.getLast?_eq_some_getLast hne)]
  rw [toList_trim, hleft, hright]

theorem trim_eq_self {s : String} (h : ∀ c ∈ s.toList, isWhiteSpace c = false) : trim s = s :=
  trim_of_ends (fun c hc => h c (List.mem_of_mem_head? hc))
    fun c hc => h c (List.mem_of_mem_getLast? hc)

theorem trim_of_isDigit {text : String} (h : ∀ c ∈ text.toList, c.isDigit) : trim text = text :=
  trim_eq_self fun c hc => isWhiteSpace_of_isDigit (h c hc)

/-- `Number` of a plain numeral is its value. -/
theorem toNumber_of_isPlainNumeral {text : String} (h : isPlainNumeral text = true) :
    toNumber text = some (decimal text.toList : ℚ) := by
  simp only [isPlainNumeral, Bool.and_eq_true, decide_eq_true_eq] at h
  obtain ⟨first, rest, htext, hzero, hdigits⟩ := isDigit_of_isPositiveDecimal h.1
  have hfirst : first.isDigit = true := hdigits first (by rw [htext]; exact List.mem_cons_self)
  have hplus : first ≠ '+' := by rintro rfl; revert hfirst; decide
  have hminus : first ≠ '-' := by rintro rfl; revert hfirst; decide
  have hliteral : nonDecimalLiteral text.toList = none := by
    rw [htext]
    unfold nonDecimalLiteral
    split
    · rename_i heq
      exact absurd (List.cons.inj heq).1 hzero
    · rfl
  have hsigned : signed text.toList = (1, text.toList) := by
    rw [htext]
    unfold signed
    split
    · rename_i heq
      exact absurd (List.cons.inj heq).1 hminus
    · rename_i heq
      exact absurd (List.cons.inj heq).1 hplus
    · rfl
  have htake : text.toList.takeWhile Char.isDigit = text.toList :=
    List.takeWhile_eq_self_iff.2 hdigits
  have hdrop : text.toList.dropWhile Char.isDigit = [] :=
    List.dropWhile_eq_nil_iff.2 hdigits
  have hnil : text.toList ≠ [] := by simp [htext]
  have hvalue : decimalLiteral text.toList = some (decimal text.toList : ℚ) := by
    simp [decimalLiteral, htake, hdrop, exponent, hnil]
  simp only [toNumber, trim_of_isDigit hdigits, hnil, if_false, hliteral, hsigned, hvalue,
    Option.bind_some]
  have hle : |(decimal text.toList : ℤ)| ≤ 2 ^ 53 := by
    rw [abs_of_nonneg (by positivity)]
    exact_mod_cast h.2
  simp only [double, Int.cast_one, one_mul, Rat.den_natCast, Rat.num_natCast, hle, and_self,
    if_true]

theorem decimal_append (digits : List Char) (c : Char) :
    decimal (digits ++ [c]) = 10 * decimal digits + (c.toNat - '0'.toNat) := by
  simp [decimal]

theorem lt_ten_of_isDigit {c : Char} (h : c.isDigit = true) : c.toNat - '0'.toNat < 10 := by
  simp only [Char.isDigit, Bool.and_eq_true, decide_eq_true_eq] at h
  have hhigh : c.val.toNat ≤ 57 := h.2
  have hcode : c.toNat = c.val.toNat := rfl
  have hzero : '0'.toNat = 48 := rfl
  omega

theorem eq_of_isDigit {c d : Char} (hc : c.isDigit = true) (hd : d.isDigit = true)
    (h : c.toNat - '0'.toNat = d.toNat - '0'.toNat) : c = d := by
  simp only [Char.isDigit, Bool.and_eq_true, decide_eq_true_eq] at hc hd
  have hclow : 48 ≤ c.val.toNat := hc.1
  have hdlow : 48 ≤ d.val.toNat := hd.1
  have hzero : '0'.toNat = 48 := rfl
  have hval : c.toNat = d.toNat := by
    have hccode : c.toNat = c.val.toNat := rfl
    have hdcode : d.toNat = d.val.toNat := rfl
    omega
  exact Char.toNat_inj.1 hval

/-- Digits that do not start with a zero have a positive value. -/
theorem decimal_pos {first : Char} {rest : List Char} (hfirst : first.isDigit = true)
    (hzero : first ≠ '0') : 0 < decimal (first :: rest) := by
  have hhead : 0 < first.toNat - '0'.toNat := by
    by_contra hle
    refine hzero (eq_of_isDigit hfirst (by decide) ?_)
    omega
  -- from a positive start, further digits keep the value positive
  have hgrow : ∀ (digits : List Char) (start : ℕ), 0 < start →
      0 < digits.foldl (fun value c => 10 * value + (c.toNat - '0'.toNat)) start := by
    intro digits
    induction digits with
    | nil => exact fun _ h => h
    | cons c digits ih =>
        intro start hstart
        exact ih _ (Nat.add_pos_left (Nat.mul_pos (by decide) hstart) _)
  exact hgrow rest _ (Nat.add_pos_right _ hhead)

/-- Plain numerals of one value are one string. -/
theorem eq_of_decimal_eq : ∀ {first second : List Char},
    (∀ c ∈ first, c.isDigit = true) → (∀ c ∈ second, c.isDigit = true) →
    (∀ c rest, first = c :: rest → c ≠ '0') → (∀ c rest, second = c :: rest → c ≠ '0') →
    decimal first = decimal second → first = second := by
  intro first
  induction first using List.reverseRecOn with
  | nil =>
      intro second _ hsecond _ hzero h
      cases second with
      | nil => rfl
      | cons d rest =>
          have hpos := @decimal_pos d rest (hsecond d List.mem_cons_self) (hzero d rest rfl)
          simp only [decimal, List.foldl_nil] at h hpos
          omega
  | append_singleton firsts c ih =>
      intro second hfirst hsecond hzero₁ hzero₂ h
      induction second using List.reverseRecOn with
      | nil =>
          cases hcons : firsts ++ [c] with
          | nil => rfl
          | cons d rest =>
              rw [hcons] at hfirst hzero₁ h
              have hpos := @decimal_pos d rest (hfirst d List.mem_cons_self) (hzero₁ d rest rfl)
              simp only [decimal, List.foldl_nil] at h hpos
              omega
      | append_singleton seconds d _ =>
          rw [decimal_append, decimal_append] at h
          have hc : c.isDigit = true := hfirst c (by simp)
          have hd : d.isDigit = true := hsecond d (by simp)
          have hclt := lt_ten_of_isDigit hc
          have hdlt := lt_ten_of_isDigit hd
          -- the last digit is the remainder by ten, the digits before it the quotient
          have hlast : c = d := eq_of_isDigit hc hd (by omega)
          have hinit : firsts = seconds := by
            refine ih (fun x hx => hfirst x (by simp [hx])) (fun x hx => hsecond x (by simp [hx]))
              ?_ ?_ (by omega)
            · rintro x rest rfl
              exact hzero₁ x (rest ++ [c]) rfl
            · rintro x rest rfl
              exact hzero₂ x (rest ++ [d]) rfl
          rw [hlast, hinit]

/-- **Plain numerals are determined by their number.** -/
theorem toNumber_injective {first second : String} (h₁ : isPlainNumeral first = true)
    (h₂ : isPlainNumeral second = true) (h : toNumber first = toNumber second) :
    first = second := by
  rw [toNumber_of_isPlainNumeral h₁, toNumber_of_isPlainNumeral h₂] at h
  have hvalue : decimal first.toList = decimal second.toList := by
    exact_mod_cast Option.some.inj h
  simp only [isPlainNumeral, Bool.and_eq_true] at h₁ h₂
  obtain ⟨c, cs, hfirst, hc, hdigits₁⟩ := isDigit_of_isPositiveDecimal h₁.1
  obtain ⟨d, ds, hsecond, hd, hdigits₂⟩ := isDigit_of_isPositiveDecimal h₂.1
  refine String.toList_inj.1 (eq_of_decimal_eq hdigits₁ hdigits₂ ?_ ?_ hvalue)
  · rw [hfirst]
    rintro x rest hx
    exact (List.cons.inj hx).1 ▸ hc
  · rw [hsecond]
    rintro x rest hx
    exact (List.cons.inj hx).1 ▸ hd

end AbrChin.Js
