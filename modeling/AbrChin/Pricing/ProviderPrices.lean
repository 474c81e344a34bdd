import AbrChin.Js.Json
import AbrChin.Pricing.PlanPricing
import Mathlib.Data.Bool.AllAny

/-!
# Prices as the provider writes them

`lib/pricing/provider-pricing.ts`: a price is a decimal text, which is read as an integer of a scale
and rounded up to whole rials.

The text is cut at its point.  The digits after it are cut off or filled up to the scale, so that
they stand for the same fraction exactly when only zeros are cut off.
-/

namespace AbrChin.Pricing

open Js

/-! ## Reading -/

/-- `/^\d+(?:\.\d+)?$/.test` -/
def isDecimalAmount (text : String) : Bool :=
  text.toList.takeWhile Char.isDigit ≠ [] &&
    match text.toList.dropWhile Char.isDigit with
    | [] => true
    | '.' :: fraction => fraction ≠ [] && fraction.all Char.isDigit
    | _ => false

/-- `/[1-9]/.test` -/
def hasNonzeroDigit (chars : List Char) : Bool := chars.any fun c => '1' ≤ c && c ≤ '9'

/-- `fraction.slice(0, scale).padEnd(scale, "0")` -/
def padFraction (fraction : List Char) (scale : ℕ) : List Char :=
  fraction.take scale ++ List.replicate (scale - (fraction.take scale).length) '0'

def decimalToScaledInteger (value : String) (scale : ℕ) : Except String ℤ :=
  let normalized := trim value
  if !isDecimalAmount normalized then .error "invalid_provider_price"
  else
    let parts := normalized.toList.splitOn '.'
    let whole := parts.getD 0 []
    let fraction := parts.getD 1 []
    if scale < fraction.length && hasNonzeroDigit (fraction.drop scale) then
      .error "provider_price_precision_exceeded"
    else
      let padded := padFraction fraction scale
      .ok (bigInt (String.ofList whole) * 10 ^ scale +
        bigInt (if padded = [] then "0" else String.ofList padded))

inductive AmountUnit where
  | rial
  | toman
  deriving DecidableEq

/-- A contract is in IRR; only its unit matters. -/
structure ProviderPriceContract where
  amountUnit : AmountUnit
  deriving DecidableEq

def ProviderPriceContract.rialMultiplier (contract : ProviderPriceContract) : ℤ :=
  match contract.amountUnit with
  | .rial => 1
  | .toman => 10

theorem ProviderPriceContract.rialMultiplier_pos (contract : ProviderPriceContract) :
    0 < contract.rialMultiplier := by
  unfold ProviderPriceContract.rialMultiplier
  cases contract.amountUnit with
  | rial => decide
  | toman => decide

/-! ## Decimal texts -/

/-- Digits, or digits with a point and digits after it. -/
structure DecimalText where
  whole : List Char
  fraction : List Char
  whole_digits : ∀ c ∈ whole, c.isDigit = true
  fraction_digits : ∀ c ∈ fraction, c.isDigit = true
  whole_ne_nil : whole ≠ []

namespace DecimalText

variable (decimal : DecimalText)

def chars : List Char :=
  if decimal.fraction = [] then decimal.whole else decimal.whole ++ '.' :: decimal.fraction

def text : String := String.ofList decimal.chars

/-- The number that digits stand for. -/
def digitsValue (digits : List Char) : ℕ := Nat.ofDigitChars 10 digits 0

def value : ℚ :=
  digitsValue decimal.whole + digitsValue decimal.fraction / 10 ^ decimal.fraction.length

end DecimalText

variable {decimal : DecimalText} {scale : ℕ}

theorem point_notMem {digits : List Char} (h : ∀ c ∈ digits, c.isDigit = true) : '.' ∉ digits := by
  intro hmem
  exact absurd (h '.' hmem) (by decide)

theorem isDecimalAmount_text : isDecimalAmount decimal.text = true := by
  have hwhole : decimal.whole.takeWhile Char.isDigit = decimal.whole :=
    List.takeWhile_eq_self_iff.2 decimal.whole_digits
  have hdrop : decimal.whole.dropWhile Char.isDigit = [] :=
    List.dropWhile_eq_nil_iff.2 decimal.whole_digits
  unfold isDecimalAmount DecimalText.text DecimalText.chars
  rw [String.toList_ofList]
  by_cases hfraction : decimal.fraction = []
  · rw [if_pos hfraction, hwhole, hdrop]
    simpa using decimal.whole_ne_nil
  · have hafter : (decimal.whole ++ '.' :: decimal.fraction).dropWhile Char.isDigit =
        '.' :: decimal.fraction := by
      rw [List.dropWhile_append, hdrop]
      rfl
    have hbefore : (decimal.whole ++ '.' :: decimal.fraction).takeWhile Char.isDigit =
        decimal.whole := by
      rw [List.takeWhile_append_of_pos decimal.whole_digits]
      exact List.append_nil _
    rw [if_neg hfraction, hbefore, hafter]
    simpa [hfraction] using ⟨decimal.whole_ne_nil, decimal.fraction_digits⟩

theorem trim_text : trim decimal.text = decimal.text := by
  refine trim_eq_self fun c hc => ?_
  have hdigit {c : Char} (h : c.isDigit = true) := isWhiteSpace_of_isDigit h
  rw [DecimalText.text, String.toList_ofList, DecimalText.chars] at hc
  split at hc
  · exact hdigit (decimal.whole_digits c hc)
  · rcases List.mem_append.1 hc with hc | hc
    · exact hdigit (decimal.whole_digits c hc)
    · rcases List.mem_cons.1 hc with rfl | hc
      · decide
      · exact hdigit (decimal.fraction_digits c hc)

/-- The text is cut at its point. -/
theorem parts_text : (decimal.text.toList.splitOn '.').getD 0 [] = decimal.whole ∧
    (decimal.text.toList.splitOn '.').getD 1 [] = decimal.fraction := by
  rw [DecimalText.text, String.toList_ofList, DecimalText.chars]
  by_cases hfraction : decimal.fraction = []
  · have hsplit : (['.'].intercalate [decimal.whole]).splitOn '.' = [decimal.whole] := by
      refine List.splitOn_intercalate '.' (fun part hpart => ?_) (by simp)
      rw [List.mem_singleton.1 hpart]
      exact point_notMem decimal.whole_digits
    have hone : ['.'].intercalate [decimal.whole] = decimal.whole := by simp [List.intercalate]
    rw [hone] at hsplit
    rw [if_pos hfraction, hsplit, hfraction]
    exact ⟨rfl, rfl⟩
  · have hsplit : (['.'].intercalate [decimal.whole, decimal.fraction]).splitOn '.' =
        [decimal.whole, decimal.fraction] := by
      refine List.splitOn_intercalate '.' (fun part hpart => ?_) (by simp)
      rcases List.mem_pair.1 hpart with rfl | rfl
      · exact point_notMem decimal.whole_digits
      · exact point_notMem decimal.fraction_digits
    have htwo : ['.'].intercalate [decimal.whole, decimal.fraction] =
        decimal.whole ++ '.' :: decimal.fraction := by simp [List.intercalate]
    rw [htwo] at hsplit
    rw [if_neg hfraction, hsplit]
    exact ⟨rfl, rfl⟩

/-! ## What is cut off -/

theorem hasNonzeroDigit_iff {digits : List Char} (h : ∀ c ∈ digits, c.isDigit = true) :
    hasNonzeroDigit digits = true ↔ ∃ c ∈ digits, c ≠ '0' := by
  have hchar {c : Char} (hc : c.isDigit = true) : ('1' ≤ c && c ≤ '9') = true ↔ c ≠ '0' := by
    have hrange : 48 ≤ c.val.toNat ∧ c.val.toNat ≤ 57 := by
      simpa [Char.isDigit, UInt32.le_iff_toNat_le] using hc
    have hzero : c = '0' ↔ c.val.toNat = 48 := by
      rw [← Char.val_inj, ← UInt32.toNat_inj]
      rfl
    simp only [Bool.and_eq_true, decide_eq_true_eq, Char.le_def, UInt32.le_iff_toNat_le, ne_eq,
      hzero]
    show 49 ≤ c.val.toNat ∧ c.val.toNat ≤ 57 ↔ _
    omega
  rw [hasNonzeroDigit, List.any_eq_true]
  exact exists_congr fun c => and_congr_right fun hc => hchar (h c hc)

theorem digitsValue_append (first second : List Char) :
    DecimalText.digitsValue (first ++ second) =
      10 ^ second.length * DecimalText.digitsValue first + DecimalText.digitsValue second := by
  unfold DecimalText.digitsValue
  rw [Nat.ofDigitChars_append, Nat.ofDigitChars_eq_ofDigitChars_zero]

theorem digitsValue_zeros {digits : List Char} (h : ∀ c ∈ digits, c = '0') :
    DecimalText.digitsValue digits = 0 := by
  rw [List.eq_replicate_of_mem h, DecimalText.digitsValue, Nat.ofDigitChars_replicate_zero,
    mul_zero]

/-- What is kept of the fraction is the fraction when only zeros are cut off. -/
theorem digitsValue_padFraction (h : ∀ c ∈ decimal.fraction.drop scale, c = '0') :
    (DecimalText.digitsValue (padFraction decimal.fraction scale) : ℚ) =
      DecimalText.digitsValue decimal.fraction / 10 ^ decimal.fraction.length * 10 ^ scale := by
  have hkept : DecimalText.digitsValue decimal.fraction =
      10 ^ (decimal.fraction.drop scale).length *
        DecimalText.digitsValue (decimal.fraction.take scale) := by
    conv_lhs => rw [← List.take_append_drop scale decimal.fraction]
    rw [digitsValue_append, digitsValue_zeros h, add_zero]
  have hpadded : DecimalText.digitsValue (padFraction decimal.fraction scale) =
      10 ^ (scale - (decimal.fraction.take scale).length) *
        DecimalText.digitsValue (decimal.fraction.take scale) := by
    rw [padFraction, digitsValue_append, digitsValue_zeros fun c hc => (List.mem_replicate.1 hc).2,
      add_zero, List.length_replicate]
  -- both powers are `scale + (length - scale)` in the end
  have hlength : (decimal.fraction.drop scale).length + scale =
      scale - (decimal.fraction.take scale).length + decimal.fraction.length := by
    rw [List.length_drop, List.length_take]
    omega
  have hpow : (10 : ℚ) ^ (decimal.fraction.drop scale).length * 10 ^ scale =
      10 ^ (scale - (decimal.fraction.take scale).length) * 10 ^ decimal.fraction.length := by
    rw [← pow_add, ← pow_add, hlength]
  rw [hkept, hpadded, div_mul_eq_mul_div, eq_div_iff (by positivity)]
  push_cast
  calc (10 : ℚ) ^ (scale - (decimal.fraction.take scale).length) *
          DecimalText.digitsValue (decimal.fraction.take scale) * 10 ^ decimal.fraction.length
      = (10 ^ (scale - (decimal.fraction.take scale).length) * 10 ^ decimal.fraction.length) *
          DecimalText.digitsValue (decimal.fraction.take scale) := by ring
    _ = (10 ^ (decimal.fraction.drop scale).length * 10 ^ scale) *
          DecimalText.digitsValue (decimal.fraction.take scale) := by rw [hpow]
    _ = _ := by ring

/-! ## What is read -/

theorem bigInt_padFraction (fraction : List Char) :
    bigInt (if padFraction fraction scale = [] then "0"
        else String.ofList (padFraction fraction scale)) =
      DecimalText.digitsValue (padFraction fraction scale) := by
  by_cases hpadded : padFraction fraction scale = []
  · rw [if_pos hpadded, hpadded]
    decide
  · rw [if_neg hpadded]
    exact Json.bigInt_ofList _

/-- The guard on the length does nothing: a fraction that is short enough has nothing to cut off. -/
theorem cut_iff : (scale < decimal.fraction.length &&
      hasNonzeroDigit (decimal.fraction.drop scale)) = true ↔
    ∃ c ∈ decimal.fraction.drop scale, c ≠ '0' := by
  rw [Bool.and_eq_true, decide_eq_true_iff, hasNonzeroDigit_iff fun c hc =>
    decimal.fraction_digits c (List.mem_of_mem_drop hc)]
  refine ⟨fun h => h.2, fun h => ⟨?_, h⟩⟩
  obtain ⟨c, hc, -⟩ := h
  by_contra hshort
  rw [List.drop_eq_nil_of_le (not_lt.1 hshort)] at hc
  exact List.not_mem_nil hc

theorem decimalToScaledInteger_text [Decidable (∃ c ∈ decimal.fraction.drop scale, c ≠ '0')] :
    decimalToScaledInteger decimal.text scale =
    if ∃ c ∈ decimal.fraction.drop scale, c ≠ '0' then .error "provider_price_precision_exceeded"
    else .ok (DecimalText.digitsValue decimal.whole * 10 ^ scale +
      DecimalText.digitsValue (padFraction decimal.fraction scale)) := by
  unfold decimalToScaledInteger
  simp only [trim_text, isDecimalAmount_text, parts_text.1, parts_text.2, Bool.not_true,
    Bool.false_eq_true, if_false, bigInt_padFraction, Json.bigInt_ofList, cut_iff,
    DecimalText.digitsValue]

/-- **The integer is the value at the scale.** -/
theorem decimalToScaledInteger_value {scaled : ℤ}
    (h : decimalToScaledInteger decimal.text scale = .ok scaled) :
    (scaled : ℚ) = decimal.value * 10 ^ scale := by
  rw [decimalToScaledInteger_text] at h
  by_cases hcut : ∃ c ∈ decimal.fraction.drop scale, c ≠ '0'
  · rw [if_pos hcut] at h
    cases h
  · rw [if_neg hcut] at h
    cases h
    have hzeros : ∀ c ∈ decimal.fraction.drop scale, c = '0' := by simpa using hcut
    push_cast
    rw [digitsValue_padFraction hzeros, DecimalText.value]
    ring

/-! ## Rounding up -/

/-- A quotient that is rounded up is the least integer above it. -/
theorem isLeast_divideRoundUp {numerator denominator : ℤ} (hdenominator : 0 < denominator)
    (hnumerator : 0 ≤ numerator) :
    ∃ quotient, divideRoundUp numerator denominator = .ok quotient ∧
      IsLeast {k : ℤ | (numerator : ℚ) / denominator ≤ k} quotient := by
  refine ⟨(numerator + denominator - 1).tdiv denominator, ?_, ?_⟩
  · rw [divideRoundUp, if_neg (by omega)]
  · have hpos : (0 : ℚ) < denominator := by exact_mod_cast hdenominator
    have habove (k : ℤ) : (numerator : ℚ) / denominator ≤ k ↔ numerator ≤ k * denominator := by
      rw [div_le_iff₀ hpos]
      exact_mod_cast Iff.rfl
    rw [Int.tdiv_eq_ediv_of_nonneg (by omega)]
    constructor
    · have hlt := Int.lt_ediv_add_one_mul_self (numerator + denominator - 1) hdenominator
      rw [add_mul] at hlt
      exact (habove _).2 (by omega)
    · intro k hk
      have hk := (habove k).1 hk
      have hle : numerator + denominator - 1 < (k + 1) * denominator := by
        rw [add_mul]
        omega
      exact Int.lt_add_one_iff.1 (Int.ediv_lt_of_lt_mul hdenominator hle)

/-- The amount in rials, where the amount is not zero. -/
theorem isLeast_providerAmountToRial {scaled : ℤ} {contract : ProviderPriceContract}
    (hpos : 0 < scaled) {value : ℚ} (hvalue : (scaled : ℚ) = value * 10 ^ scale) :
    ∃ rial, providerAmountToRial scaled scale contract.rialMultiplier = .ok rial ∧
      IsLeast {k : ℤ | value * contract.rialMultiplier ≤ k} rial := by
  obtain ⟨rial, hrial, hleast⟩ := @isLeast_divideRoundUp
    (scaled * contract.rialMultiplier) (10 ^ scale) (by positivity)
    (mul_nonneg hpos.le contract.rialMultiplier_pos.le)
  have hquotient : ((scaled * contract.rialMultiplier : ℤ) : ℚ) / ((10 ^ scale : ℤ) : ℚ) =
      value * contract.rialMultiplier := by
    push_cast
    rw [hvalue]
    field_simp
  rw [hquotient] at hleast
  refine ⟨rial, ?_, hleast⟩
  rw [providerAmountToRial, if_neg (by omega), hrial]

theorem DecimalText.value_nonneg (decimal : DecimalText) : 0 ≤ decimal.value := by
  exact add_nonneg (Nat.cast_nonneg _) (div_nonneg (Nat.cast_nonneg _) (by positivity))

/-- Rounding up keeps the order of the amounts. -/
theorem least_le_of_le {value other multiplier : ℚ} (hle : value ≤ other)
    (hmultiplier : 0 < multiplier) {rial rial' : ℤ}
    (hrial : IsLeast {k : ℤ | value * multiplier ≤ k} rial)
    (hrial' : IsLeast {k : ℤ | other * multiplier ≤ k} rial') : rial ≤ rial' := by
  apply hrial.2
  calc value * multiplier ≤ other * multiplier := mul_le_mul_of_nonneg_right hle hmultiplier.le
    _ ≤ rial' := hrial'.1

/-- **Prices are read exactly.**  A text is refused when a digit other than zero would be cut off,
and is otherwise read as its value at the scale.  A price that is not zero is rounded up to the
least number of rials, so that a larger price is never a smaller number of rials. -/
theorem decimal_price_exact (decimal : DecimalText) (scale : ℕ)
    (contract : ProviderPriceContract) :
    ((∃ message, decimalToScaledInteger decimal.text scale = .error message) ↔
      ∃ c ∈ decimal.fraction.drop scale, c ≠ '0') ∧
    ∀ scaled, decimalToScaledInteger decimal.text scale = .ok scaled →
      (scaled : ℚ) = decimal.value * 10 ^ scale ∧
      (decimal.value = 0 → providerAmountToRial scaled scale contract.rialMultiplier =
        .error "invalid_provider_price") ∧
      (decimal.value ≠ 0 → ∃ rial,
        providerAmountToRial scaled scale contract.rialMultiplier = .ok rial ∧
        IsLeast {k : ℤ | decimal.value * contract.rialMultiplier ≤ k} rial) ∧
      ∀ (other : DecimalText) (scaled' : ℤ) (scale' : ℕ) (rial rial' : ℤ),
        decimalToScaledInteger other.text scale' = .ok scaled' →
        providerAmountToRial scaled scale contract.rialMultiplier = .ok rial →
        providerAmountToRial scaled' scale' contract.rialMultiplier = .ok rial' →
        decimal.value ≤ other.value → rial ≤ rial' := by
  constructor
  · rw [decimalToScaledInteger_text]
    split_ifs with hcut
    · simpa using hcut
    · simpa using hcut
  · intro scaled hscaled
    have hvalue := decimalToScaledInteger_value hscaled
    -- a price that is converted is not zero, and is therefore rounded up
    have hleast {decimal : DecimalText} {scaled rial : ℤ} {scale : ℕ}
        (hvalue : (scaled : ℚ) = decimal.value * 10 ^ scale)
        (hrial : providerAmountToRial scaled scale contract.rialMultiplier = .ok rial) :
        IsLeast {k : ℤ | decimal.value * contract.rialMultiplier ≤ k} rial := by
      have hpos : 0 < scaled := by
        by_contra hzero
        rw [providerAmountToRial, if_pos (by omega)] at hrial
        cases hrial
      obtain ⟨rial', hrial', hleast⟩ :=
        @isLeast_providerAmountToRial _ _ contract hpos _ hvalue
      rw [hrial] at hrial'
      cases hrial'
      exact hleast
    refine ⟨hvalue, fun hzero => ?_, fun hne => ?_, ?_⟩
    · have hscaled : scaled = 0 := by
        rw [hzero, zero_mul] at hvalue
        exact_mod_cast hvalue
      rw [hscaled, providerAmountToRial, if_pos le_rfl]
    · have hpos : (0 : ℚ) < scaled := by
        rw [hvalue]
        exact mul_pos (decimal.value_nonneg.lt_of_ne' hne) (by positivity)
      exact isLeast_providerAmountToRial (by exact_mod_cast hpos) hvalue
    · intro other scaled' scale' rial rial' hscaled' hrial hrial' hle
      exact least_le_of_le hle (by exact_mod_cast contract.rialMultiplier_pos)
        (hleast hvalue hrial) (hleast (decimalToScaledInteger_value hscaled') hrial')

def samplePrice : DecimalText where
  whole := ['1', '2']
  fraction := ['3', '4', '0']
  whole_digits := List.all_iff_forall_prop.1 (by decide)
  fraction_digits := List.all_iff_forall_prop.1 (by decide)
  whole_ne_nil := by decide

/-- 12.34 tomans are 123.4 rials, hence 124. -/
theorem decimal_price_exact_sample :
    samplePrice.text = "12.340" ∧ decimalToScaledInteger samplePrice.text 2 = .ok 1234 ∧
    samplePrice.value ≠ 0 ∧
    ∃ rial, providerAmountToRial 1234 2 10 = .ok rial ∧
      IsLeast {k : ℤ | samplePrice.value * 10 ≤ k} rial := by
  have hread : decimalToScaledInteger samplePrice.text 2 = .ok 1234 := by decide +kernel
  have hne : samplePrice.value ≠ 0 := by decide +kernel
  refine ⟨by decide +kernel, hread, hne, ?_⟩
  exact_mod_cast ((decimal_price_exact samplePrice 2 ⟨.toman⟩).2 1234 hread).2.2.1 hne

def zeroPrice : DecimalText where
  whole := ['0']
  fraction := []
  whole_digits := List.all_iff_forall_prop.1 (by decide)
  fraction_digits := List.all_iff_forall_prop.1 (by decide)
  whole_ne_nil := by decide

/-- The least integer above zero is zero, and a price of zero is refused. -/
theorem zero_price_refused :
    zeroPrice.text = "0" ∧ decimalToScaledInteger zeroPrice.text 6 = .ok 0 ∧
    providerAmountToRial 0 6 1 = .error "invalid_provider_price" ∧
    IsLeast {k : ℤ | zeroPrice.value * 1 ≤ k} 0 := by
  have hvalue : zeroPrice.value = 0 := by decide +kernel
  refine ⟨by decide +kernel, by decide +kernel, by decide +kernel, ?_⟩
  rw [hvalue, zero_mul]
  exact ⟨by simp, fun k hk => by simpa using hk⟩

end AbrChin.Pricing
