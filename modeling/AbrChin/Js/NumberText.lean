import AbrChin.Js.Number
import Mathlib.Data.Nat.Prime.Basic

/-!
# Numbers as text

`String(value)` of a finite Number: the shortest decimal digits that `Number` rounds back to it,
written with an exponent where the point would be far away.

Three facts are needed before a number can be read back from its text.

* **There are such digits.**  A double is a fraction of a power of two, and has therefore finitely
  many decimal digits; all of them certainly round back to it.
* **The four ways to write them.**  In each of them `decimalLiteral` reads the same value, because
  zeros before the digits do not count and zeros after them count as powers of ten.
* **The sign.**  It is written before the digits of the absolute value, and rounding is symmetric.
-/

namespace AbrChin.Js

/-! ## The text -/

/-- `numerator * 10 ^ power`, with as few digits as possible, is rounded to the value. -/
def shortestDecimal (value : ℚ) : ℕ × ℤ :=
  let length := Int.log 10 value + 1
  let candidates := (List.range (length + Nat.log 2 value.den).toNat).map fun (digits : ℕ) =>
    let power := length - (digits + 1 : ℕ)
    ((roundHalfEven (value / 10 ^ power)).toNat, power)
  (candidates.find? fun candidate =>
    double (candidate.1 * (10 : ℚ) ^ candidate.2) = some value).getD (0, 0)

/-- One digit before the point, and an exponent. -/
def writeExponent (digits : List Char) (point : ℤ) : List Char :=
  let sign := if 0 < point then '+' else '-'
  let power := 'e' :: sign :: (point - 1).natAbs.repr.toList
  match digits with
  | [digit] => digit :: power
  | digits => digits.take 1 ++ '.' :: (digits.drop 1 ++ power)

/-- The digits of a number that end with another digit than zero, `point` of them before the
point. -/
def writeDigits (digits : List Char) (point : ℤ) : List Char :=
  if digits.length ≤ point ∧ point ≤ 21 then
    digits ++ List.replicate (point - digits.length).toNat '0'
  else if 0 < point ∧ point ≤ 21 then
    digits.take point.toNat ++ '.' :: digits.drop point.toNat
  else if -6 < point ∧ point ≤ 0 then
    '0' :: '.' :: (List.replicate (-point).toNat '0' ++ digits)
  else writeExponent digits point

/-- `String(value)` of a positive number. -/
def positiveText (value : ℚ) : List Char :=
  let (numerator, power) := shortestDecimal value
  let digits := Nat.toDigits 10 numerator
  writeDigits (digits.rdropWhile (· = '0')) (digits.length + power)

/-- `String(value)` of a finite number. -/
def numberText (value : ℚ) : String :=
  if value = 0 then "0"
  else if value < 0 then String.ofList ('-' :: positiveText (-value))
  else String.ofList (positiveText value)

example : numberText (1 / 2) = "0.5" := by decide +kernel

/-! ## Rounding -/

theorem roundHalfEven_intCast (z : ℤ) : roundHalfEven (z : ℚ) = z := by
  unfold roundHalfEven
  simp

theorem roundHalfEven_neg (q : ℚ) : roundHalfEven (-q) = -roundHalfEven q := by
  by_cases hfract : Int.fract q = 0
  · obtain ⟨z, rfl⟩ := Int.fract_eq_zero_iff.1 hfract
    rw [← Int.cast_neg, roundHalfEven_intCast, roundHalfEven_intCast]
  · have hfloor : ⌊-q⌋ = -⌊q⌋ - 1 := by
      have hpos : 0 < Int.fract q := lt_of_le_of_ne (Int.fract_nonneg q) (Ne.symm hfract)
      have hlt := Int.lt_floor_add_one q
      rw [Int.fract] at hpos
      refine Int.floor_eq_iff.2 ⟨?_, ?_⟩
      · push_cast
        linarith
      · push_cast
        linarith
    have hrest : -q - (⌊-q⌋ : ℚ) = 1 - (q - ⌊q⌋) := by
      rw [hfloor]
      push_cast
      ring
    simp only [roundHalfEven, hrest]
    rw [hfloor]
    rcases lt_trichotomy (q - (⌊q⌋ : ℚ)) (1 / 2) with hlt | heq | hgt
    · rw [if_neg (by linarith), if_pos (by linarith), if_pos hlt]
      ring
    · -- of the two numbers that are equally near, the even one
      simp only [heq, lt_irrefl, if_false]
      rw [if_neg (by norm_num), if_neg (by norm_num)]
      split_ifs with hup hdown
      · omega
      · ring
      · ring
      · omega
    · rw [if_pos (by linarith), if_neg (by linarith), if_pos hgt]
      ring

theorem double_neg (q : ℚ) : double (-q) = (double q).map (-·) := by
  unfold double
  simp only [Rat.den_neg_eq_den, Rat.num_neg_eq_neg_num, abs_neg, neg_div, roundHalfEven_neg,
    Int.cast_neg, neg_mul]
  split_ifs
  · rfl
  · rfl
  · rfl

/-- A double is a fraction of a power of two. -/
theorem den_of_double {value : ℚ} (h : double value = some value) : ∃ n, value.den = 2 ^ n := by
  unfold double at h
  by_cases hinteger : value.den = 1 ∧ |value.num| ≤ 2 ^ 53
  · exact ⟨0, hinteger.1⟩
  · rw [if_neg hinteger] at h
    simp only [Option.ite_none_right_eq_some, Option.some.injEq] at h
    set power := max (Int.log 2 |value| - 52) (-1074)
    set rounded := roundHalfEven (value / 2 ^ power)
    have hscaled : value * 2 ^ (-power).toNat = (rounded * 2 ^ power.toNat : ℤ) := by
      have hpower : (2 : ℚ) ^ power * 2 ^ (-power).toNat = 2 ^ power.toNat := by
        rw [← zpow_natCast, ← zpow_natCast, ← zpow_add₀ (by norm_num)]
        congr 1
        omega
      rw [← h.2]
      push_cast
      rw [mul_assoc, hpower]
    have hdvd : value.den ∣ 2 ^ (-power).toNat := by
      have hvalue : value = Rat.divInt (rounded * 2 ^ power.toNat) (2 ^ (-power).toNat) := by
        rw [Rat.divInt_eq_div, ← hscaled]
        push_cast
        field_simp
      have hden := Rat.den_dvd (rounded * 2 ^ power.toNat) (2 ^ (-power).toNat)
      rw [← hvalue] at hden
      exact_mod_cast hden
    obtain ⟨n, -, hn⟩ := (Nat.dvd_prime_pow Nat.prime_two).1 hdvd
    exact ⟨n, hn⟩

/-! ## There are digits -/

variable {value : ℚ}

/-- The exact decimal digits of a double are among the candidates. -/
theorem shortestDecimal_spec (hpos : 0 < value) (h : double value = some value) :
    double ((shortestDecimal value).1 * (10 : ℚ) ^ (shortestDecimal value).2) = some value := by
  obtain ⟨n, hden⟩ := den_of_double h
  have hlog : Nat.log 2 value.den = n := by rw [hden, Nat.log_pow (by decide)]
  have hscaled : value * 10 ^ n = (value.num * 5 ^ n : ℤ) := by
    have hten : (10 : ℚ) ^ n = value.den * 5 ^ n := by
      rw [hden]
      push_cast
      rw [← mul_pow]
      norm_num
    rw [hten, ← mul_assoc, Rat.mul_den_eq_num]
    push_cast
    ring
  -- the value times `10 ^ n` is a positive integer below `10 ^ (length + n)`
  have hlength : 0 < Int.log 10 value + 1 + n := by
    have hone : (1 : ℚ) ≤ value * 10 ^ n := by
      have hnum : 0 < value.num * 5 ^ n := mul_pos (Rat.num_pos.2 hpos) (by positivity)
      rw [hscaled]
      exact_mod_cast hnum
    have hlt : value * 10 ^ n < (10 : ℚ) ^ (Int.log 10 value + 1 + n) := by
      rw [zpow_add₀ (by norm_num), zpow_natCast]
      exact mul_lt_mul_of_pos_right (Int.lt_zpow_succ_log_self (by decide) value) (by positivity)
    by_contra hle
    have hsmall : (10 : ℚ) ^ (Int.log 10 value + 1 + n) ≤ 1 :=
      zpow_le_one_of_nonpos₀ (by norm_num) (not_lt.1 hle)
    linarith
  unfold shortestDecimal
  simp only [hlog]
  generalize hfind : List.find? _ _ = found
  cases found with
  | some candidate => simpa using List.find?_some hfind
  | none =>
      rw [List.find?_eq_none] at hfind
      refine absurd ?_ (hfind _ (List.mem_map.2 ⟨(Int.log 10 value + 1 + n).toNat - 1,
        List.mem_range.2 (by omega), rfl⟩))
      have hpower : Int.log 10 value + 1 - (((Int.log 10 value + 1 + n).toNat - 1 + 1 : ℕ) : ℤ) =
          -(n : ℤ) := by omega
      have hexact : value / 10 ^ (-(n : ℤ)) = (value.num * 5 ^ n : ℤ) := by
        rw [← hscaled, zpow_neg, div_inv_eq_mul, zpow_natCast]
      have hnonneg : 0 ≤ value.num * 5 ^ n := mul_nonneg (Rat.num_pos.2 hpos).le (by positivity)
      have hback : (((value.num * 5 ^ n).toNat : ℕ) : ℚ) * 10 ^ (-(n : ℤ)) = value := by
        have hcast : (((value.num * 5 ^ n).toNat : ℕ) : ℚ) = value * 10 ^ n := by
          rw [hscaled]
          exact_mod_cast Int.toNat_of_nonneg hnonneg
        rw [hcast, zpow_neg, zpow_natCast]
        field_simp
      simp only [hpower, hexact, roundHalfEven_intCast, hback, decide_eq_true_iff]
      exact h

theorem double_zero : double 0 = some 0 := by decide +kernel

theorem shortestDecimal_pos (hpos : 0 < value) (h : double value = some value) :
    0 < (shortestDecimal value).1 := by
  by_contra hzero
  have hspec := shortestDecimal_spec hpos h
  rw [Nat.eq_zero_of_not_pos hzero, Nat.cast_zero, zero_mul, double_zero] at hspec
  exact absurd (Option.some.inj hspec) hpos.ne

/-! ## The ways to write digits -/

theorem decimal_eq (digits : List Char) : decimal digits = Nat.ofDigitChars 10 digits 0 :=
  Nat.ofDigitChars_eq_foldl.symm

theorem decimal_zeros_append (n : ℕ) (digits : List Char) :
    decimal (List.replicate n '0' ++ digits) = decimal digits := by
  rw [decimal_eq, decimal_eq, Nat.ofDigitChars_append, Nat.ofDigitChars_replicate_zero, mul_zero]

theorem decimal_append_zeros (digits : List Char) (n : ℕ) :
    decimal (digits ++ List.replicate n '0') = 10 ^ n * decimal digits := by
  rw [decimal_eq, decimal_eq, Nat.ofDigitChars_append, Nat.ofDigitChars_replicate_zero]

/-- What follows digits, when its first character is not one. -/
theorem takeWhile_digits {digits rest : List Char} (hdigits : ∀ c ∈ digits, c.isDigit = true)
    (hrest : ∀ c ∈ rest.head?, c.isDigit = false) :
    (digits ++ rest).takeWhile Char.isDigit = digits ∧
      (digits ++ rest).dropWhile Char.isDigit = rest := by
  have htake : rest.takeWhile Char.isDigit = [] ∧ rest.dropWhile Char.isDigit = rest := by
    cases rest with
    | nil => exact ⟨rfl, rfl⟩
    | cons c rest =>
        have hc : ¬ c.isDigit = true := by simpa using hrest c rfl
        exact ⟨List.takeWhile_cons_of_neg hc, List.dropWhile_cons_of_neg hc⟩
  constructor
  · rw [List.takeWhile_append_of_pos hdigits, htake.1, List.append_nil]
  · rw [List.dropWhile_append, List.dropWhile_eq_nil_iff.2 hdigits]
    simpa using htake.2

/-- A literal with a point; an exponent may follow. -/
theorem decimalLiteral_fraction {whole fraction power : List Char} (hne : whole ≠ [])
    (hwhole : ∀ c ∈ whole, c.isDigit = true) (hfraction : ∀ c ∈ fraction, c.isDigit = true)
    (hpower : ∀ c ∈ power.head?, c.isDigit = false) :
    decimalLiteral (whole ++ '.' :: (fraction ++ power)) = (exponent power).map fun exponent =>
      (decimal (whole ++ fraction) : ℚ) / 10 ^ fraction.length * 10 ^ exponent := by
  obtain ⟨htake, hdrop⟩ := @takeWhile_digits whole ('.' :: (fraction ++ power)) hwhole
    (fun c hc => by rw [← Option.mem_some.1 hc]; decide)
  obtain ⟨htake', hdrop'⟩ := takeWhile_digits hfraction hpower
  simp only [decimalLiteral, htake, hdrop, htake', hdrop', hne, false_and, if_false]

/-- A literal without a point; an exponent may follow. -/
theorem decimalLiteral_whole {whole power : List Char} (hne : whole ≠ [])
    (hwhole : ∀ c ∈ whole, c.isDigit = true)
    (hpower : ∀ c ∈ power.head?, c.isDigit = false ∧ c ≠ '.') :
    decimalLiteral (whole ++ power) =
      (exponent power).map fun exponent => (decimal whole : ℚ) * 10 ^ exponent := by
  obtain ⟨htake, hdrop⟩ := takeWhile_digits hwhole fun c hc => (hpower c hc).1
  unfold decimalLiteral
  simp only [htake, hdrop]
  split
  · exact absurd rfl (hpower '.' rfl).2
  · simp [hne]

theorem exponent_text (sign : ℤ) (c : Char) (hsign : c = '+' ∧ sign = 1 ∨ c = '-' ∧ sign = -1)
    (n : ℕ) : exponent ('e' :: c :: n.repr.toList) = some (sign * n) := by
  rw [Nat.toList_repr]
  have hall : ∀ x ∈ Nat.toDigits 10 n, x.isDigit = true :=
    fun x hx => Nat.isDigit_of_mem_toDigits (b := 10) (by decide) (by decide) hx
  have hvalue : decimal (Nat.toDigits 10 n) = n := by
    rw [decimal_eq, Nat.ofDigitChars_ten_toDigits]
  have hread : signed (c :: Nat.toDigits 10 n) = (sign, Nat.toDigits 10 n) := by
    rcases hsign with ⟨rfl, rfl⟩ | ⟨rfl, rfl⟩
    · rfl
    · rfl
  simp [exponent, hread, hvalue, List.all_eq_true.2 hall]

theorem decimalLiteral_writeExponent {digits : List Char} (hne : digits ≠ [])
    (hdigits : ∀ c ∈ digits, c.isDigit = true) (point : ℤ) :
    decimalLiteral (writeExponent digits point) =
      some (decimal digits * (10 : ℚ) ^ (point - digits.length)) := by
  have hsign : (if 0 < point then 1 else -1) * ((point - 1).natAbs : ℤ) = point - 1 := by
    split_ifs <;> omega
  have hexponent := exponent_text (if 0 < point then 1 else -1) (if 0 < point then '+' else '-')
    (by split_ifs <;> simp) (point - 1).natAbs
  rw [hsign] at hexponent
  unfold writeExponent
  generalize (if 0 < point then '+' else '-') = c at hexponent ⊢
  cases digits with
  | nil => exact absurd rfl hne
  | cons digit rest =>
      have hdigit : ∀ c ∈ [digit], c.isDigit = true :=
        fun c hc => hdigits c (by rw [List.mem_singleton.1 hc]; exact List.mem_cons_self)
      cases rest with
      | nil =>
          have hread := @decimalLiteral_whole [digit]
            ('e' :: c :: (point - 1).natAbs.repr.toList) (by simp) hdigit
            (by rintro c ⟨⟩; decide)
          rw [List.singleton_append, hexponent] at hread
          exact hread
      | cons digit' rest =>
          have hread := @decimalLiteral_fraction [digit] (digit' :: rest)
            ('e' :: c :: (point - 1).natAbs.repr.toList) (by simp) hdigit
            (fun c hc => hdigits c (List.mem_cons_of_mem _ hc)) (by rintro c ⟨⟩; decide)
          rw [hexponent, List.singleton_append, List.singleton_append] at hread
          refine hread.trans ?_
          have hpower : point - ((digit :: digit' :: rest).length : ℤ) =
              -((digit' :: rest).length : ℤ) + (point - 1) := by
            simp only [List.length_cons]
            push_cast
            ring
          rw [hpower, zpow_add₀ (by norm_num), zpow_neg, zpow_natCast, Option.map_some,
            div_eq_mul_inv, mul_assoc]

/-- **However digits are written, they are read as the same value.** -/
theorem decimalLiteral_writeDigits {digits : List Char} (hne : digits ≠ [])
    (hdigits : ∀ c ∈ digits, c.isDigit = true) (point : ℤ) :
    decimalLiteral (writeDigits digits point) =
      some (decimal digits * (10 : ℚ) ^ (point - digits.length)) := by
  have hlength : 0 < digits.length := List.length_pos_iff.2 hne
  have hzeros (n : ℕ) : ∀ c ∈ List.replicate n '0', c.isDigit = true := fun c hc => by
    rw [(List.mem_replicate.1 hc).2]
    decide
  unfold writeDigits
  split_ifs with hafter hinside hbefore
  · -- zeros up to the point
    have hread := @decimalLiteral_whole _ [] (by simp [hne])
      (List.forall_mem_append.2 ⟨hdigits, hzeros (point - digits.length).toNat⟩) (by simp)
    rw [List.append_nil] at hread
    rw [hread, decimal_append_zeros]
    have hpower : point - (digits.length : ℤ) = ((point - digits.length).toNat : ℕ) := by omega
    rw [hpower, zpow_natCast]
    simp [exponent, mul_comm]
  · -- the point among the digits
    have hread := @decimalLiteral_fraction (digits.take point.toNat) (digits.drop point.toNat) []
      (by simp [hne]; omega) (fun c hc => hdigits c (List.mem_of_mem_take hc))
      (fun c hc => hdigits c (List.mem_of_mem_drop hc)) (by simp)
    rw [List.append_nil, List.take_append_drop] at hread
    rw [hread]
    have hpower : point - (digits.length : ℤ) = -((digits.drop point.toNat).length : ℤ) := by
      rw [List.length_drop]
      omega
    rw [hpower, zpow_neg, zpow_natCast]
    simp [exponent, div_eq_mul_inv]
  · -- zeros between the point and the digits
    have hread := @decimalLiteral_fraction ['0'] (List.replicate (-point).toNat '0' ++ digits) []
      (by simp)
      (hzeros 1) (List.forall_mem_append.2 ⟨hzeros _, hdigits⟩) (by simp)
    have hvalue : decimal (['0'] ++ (List.replicate (-point).toNat '0' ++ digits)) =
        decimal digits := by
      rw [← List.append_assoc]
      exact decimal_zeros_append ((-point).toNat + 1) digits
    rw [hvalue, List.append_nil, List.singleton_append] at hread
    rw [hread]
    have hpower : point - (digits.length : ℤ) =
        -(((List.replicate (-point).toNat '0' ++ digits).length : ℕ) : ℤ) := by
      rw [List.length_append, List.length_replicate]
      omega
    rw [hpower, zpow_neg, zpow_natCast]
    simp [exponent, div_eq_mul_inv]
  · exact decimalLiteral_writeExponent hne hdigits point

/-! ## The text is read back -/

/-- Digits without the zeros at their end. -/
theorem rdropWhile_zeros (digits : List Char) : ∃ n,
    digits = digits.rdropWhile (· = '0') ++ List.replicate n '0' := by
  refine ⟨(digits.rtakeWhile (· = '0')).length, ?_⟩
  have hzeros : digits.rtakeWhile (· = '0') =
      List.replicate (digits.rtakeWhile (· = '0')).length '0' :=
    List.eq_replicate_of_mem fun c hc => by simpa using List.mem_rtakeWhile_imp hc
  rw [← hzeros, List.rdropWhile_append_rtakeWhile]

theorem decimalLiteral_positiveText (hpos : 0 < value) (h : double value = some value) :
    (decimalLiteral (positiveText value)).bind double = some value := by
  have hnumerator := shortestDecimal_pos hpos h
  have hspec := shortestDecimal_spec hpos h
  unfold positiveText
  generalize shortestDecimal value = shortest at hnumerator hspec ⊢
  obtain ⟨numerator, power⟩ := shortest
  simp only at hnumerator hspec ⊢
  obtain ⟨n, hdigits⟩ := rdropWhile_zeros (Nat.toDigits 10 numerator)
  set kept := (Nat.toDigits 10 numerator).rdropWhile (· = '0')
  have hvalue : 10 ^ n * decimal kept = numerator := by
    rw [← decimal_append_zeros, ← hdigits, decimal_eq, Nat.ofDigitChars_ten_toDigits]
  have hne : kept ≠ [] := by
    intro hnil
    rw [hnil] at hvalue
    exact absurd hvalue.symm hnumerator.ne'
  have hkept : ∀ c ∈ kept, c.isDigit = true := fun c hc =>
    Nat.isDigit_of_mem_toDigits (b := 10) (n := numerator) (by decide) (by decide)
      (hdigits ▸ List.mem_append_left _ hc)
  have hpower : ((Nat.toDigits 10 numerator).length : ℤ) + power - kept.length = n + power := by
    have hlength := congrArg List.length hdigits
    rw [List.length_append, List.length_replicate] at hlength
    omega
  rw [decimalLiteral_writeDigits hne hkept, hpower, zpow_add₀ (by norm_num), zpow_natCast,
    Option.bind_some, ← mul_assoc, mul_comm (decimal kept : ℚ)]
  rw [← hvalue] at hspec
  exact_mod_cast hspec

/-- The characters of numbers. -/
def isNumberChar (c : Char) : Bool := c.isDigit || c ∈ ['-', '+', '.', 'e']

theorem isNumberChar_writeDigits {digits : List Char} (h : ∀ c ∈ digits, c.isDigit = true)
    {point : ℤ} {c : Char} (hc : c ∈ writeDigits digits point) : isNumberChar c = true := by
  have hdigit {c : Char} (hc : c.isDigit = true) : isNumberChar c = true := by
    rw [isNumberChar, hc, Bool.true_or]
  have hzero {n : ℕ} {c : Char} (hc : c ∈ List.replicate n '0') : isNumberChar c = true := by
    rw [(List.mem_replicate.1 hc).2]
    decide
  have hpower {c : Char} (hc : c ∈ (point - 1).natAbs.repr.toList) : isNumberChar c = true := by
    rw [Nat.toList_repr] at hc
    exact hdigit (Nat.isDigit_of_mem_toDigits (b := 10) (by decide) (by decide) hc)
  have hpoint : isNumberChar '.' = true := by decide
  have he : isNumberChar 'e' = true := by decide
  have hsign : isNumberChar (if 0 < point then '+' else '-') = true := by
    split_ifs
    · decide
    · decide
  unfold writeDigits at hc
  split_ifs at hc
  · rcases List.mem_append.1 hc with hc | hc
    · exact hdigit (h c hc)
    · exact hzero hc
  · rcases List.mem_append.1 hc with hc | hc
    · exact hdigit (h c (List.mem_of_mem_take hc))
    · rcases List.mem_cons.1 hc with rfl | hc
      · exact hpoint
      · exact hdigit (h c (List.mem_of_mem_drop hc))
  · rcases List.mem_cons.1 hc with rfl | hc
    · decide
    · rcases List.mem_cons.1 hc with rfl | hc
      · exact hpoint
      · rcases List.mem_append.1 hc with hc | hc
        · exact hzero hc
        · exact hdigit (h c hc)
  · unfold writeExponent at hc
    have hexponent {c : Char} (hc : c ∈ 'e' :: (if 0 < point then '+' else '-') ::
        (point - 1).natAbs.repr.toList) : isNumberChar c = true := by
      rcases List.mem_cons.1 hc with rfl | hc
      · exact he
      · rcases List.mem_cons.1 hc with rfl | hc
        · exact hsign
        · exact hpower hc
    simp only at hc
    split at hc
    · rcases List.mem_cons.1 hc with rfl | hc
      · exact hdigit (h _ List.mem_cons_self)
      · exact hexponent hc
    · rcases List.mem_append.1 hc with hc | hc
      · exact hdigit (h c (List.mem_of_mem_take hc))
      · rcases List.mem_cons.1 hc with rfl | hc
        · exact hpoint
        · rcases List.mem_append.1 hc with hc | hc
          · exact hdigit (h c (List.mem_of_mem_drop hc))
          · exact hexponent hc

theorem isNumberChar_positiveText {c : Char} (hc : c ∈ positiveText value) :
    isNumberChar c = true := by
  unfold positiveText at hc
  refine isNumberChar_writeDigits (fun c hc => ?_) hc
  have hmem := (List.rdropWhile_prefix (fun c => decide (c = '0')) _).subset hc
  exact Nat.isDigit_of_mem_toDigits (b := 10) (by decide) (by decide) hmem

theorem isNumberChar_numberText {c : Char} (hc : c ∈ (numberText value).toList) :
    isNumberChar c = true := by
  unfold numberText at hc
  split_ifs at hc
  · rw [List.mem_singleton.1 hc]
    decide
  · rw [String.toList_ofList] at hc
    rcases List.mem_cons.1 hc with rfl | hc
    · decide
    · exact isNumberChar_positiveText hc
  · rw [String.toList_ofList] at hc
    exact isNumberChar_positiveText hc

theorem isWhiteSpace_of_isNumberChar {c : Char} (h : isNumberChar c = true) :
    isWhiteSpace c = false := by
  unfold isNumberChar at h
  rcases Bool.or_eq_true_iff.1 h with hdigit | hother
  · exact isWhiteSpace_of_isDigit hdigit
  · simp only [List.mem_cons, List.not_mem_nil, or_false, decide_eq_true_iff] at hother
    rcases hother with rfl | rfl | rfl | rfl
    · decide
    · decide
    · decide
    · decide

/-- A text of these characters has no prefix such as `0x`. -/
theorem nonDecimalLiteral_of_isNumberChar {chars : List Char}
    (h : ∀ c ∈ chars, isNumberChar c = true) : nonDecimalLiteral chars = none := by
  unfold nonDecimalLiteral
  split
  · rename_i letter digits
    have hletter := h letter (by simp)
    have hnot (prefixes : List Char) (hprefixes : ∀ c ∈ prefixes, isNumberChar c = false) :
        letter ∉ prefixes := by
      intro hmem
      rw [hprefixes letter hmem] at hletter
      cases hletter
    rw [if_neg (hnot ['x', 'X'] (by simp; decide)), if_neg (hnot ['o', 'O'] (by simp; decide)),
      if_neg (hnot ['b', 'B'] (by simp; decide))]
  · rfl

/-- The text of a positive number has no sign. -/
theorem signed_positiveText (hpos : 0 < value) (h : double value = some value) :
    signed (positiveText value) = (1, positiveText value) := by
  have hread := decimalLiteral_positiveText hpos h
  unfold signed
  split
  · rename_i rest htext
    rw [htext] at hread
    cases hread
  · rename_i rest htext
    rw [htext] at hread
    cases hread
  · rfl

/-- **`Number` reads a number back from its text.** -/
theorem toNumber_numberText (h : double value = some value) :
    toNumber (numberText value) = some value := by
  have hchars := fun c => @isNumberChar_numberText value c
  have htrim : trim (numberText value) = numberText value :=
    trim_eq_self fun c hc => isWhiteSpace_of_isNumberChar (hchars c hc)
  unfold toNumber
  simp only [htrim, nonDecimalLiteral_of_isNumberChar hchars]
  unfold numberText
  rcases lt_trichotomy value 0 with hneg | rfl | hpos
  · have hpos : 0 < -value := neg_pos.2 hneg
    have hdouble : double (-value) = some (-value) := by rw [double_neg, h, Option.map_some]
    have hread := decimalLiteral_positiveText hpos hdouble
    rw [if_neg hneg.ne, if_pos hneg, String.toList_ofList, if_neg (List.cons_ne_nil _ _)]
    obtain ⟨literal, hliteral, hrounded⟩ := Option.bind_eq_some_iff.1 hread
    simp only [signed, hliteral, Option.bind_some]
    have hsign : ((-1 : ℤ) : ℚ) * literal = -literal := by push_cast; ring
    rw [hsign, double_neg, hrounded, Option.map_some, neg_neg]
  · decide +kernel
  · have hread := decimalLiteral_positiveText hpos h
    have hne : positiveText value ≠ [] := by
      intro hnil
      rw [hnil] at hread
      cases hread
    rw [if_neg hpos.ne', if_neg hpos.not_gt, String.toList_ofList, if_neg hne]
    simp only [signed_positiveText hpos h, Int.cast_one, one_mul]
    exact hread

end AbrChin.Js
