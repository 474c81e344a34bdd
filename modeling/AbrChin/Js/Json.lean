import AbrChin.Js.NumberText

/-!
# Stored JSON

A `Json` column holds a value without `undefined`.  `lib/idempotency.ts` compares two such
values by the text that `stableJson` makes of them, in which the keys of an object are sorted.
-/

namespace AbrChin.Js

/-! ## Values -/

/-- The value of a `Json` column. -/
inductive Json where
  | null
  | bool (value : Bool)
  | number (value : ℚ)
  | string (value : String)
  | array (items : List Json)
  | object (fields : List (String × Json))

namespace Json

/-- `value[name]` of an object; nothing else has fields. -/
def field (name : String) : Json → Option Json
  | object fields => fields.lookup name
  | _ => none

/-- `/^\d+$/.test`. -/
def isDigits (s : String) : Bool := s ≠ "" && s.toList.all Char.isDigit

/-- `/^-?\d+$/.test`. -/
def isInteger (s : String) : Bool :=
  match s.toList with
  | '-' :: rest => rest ≠ [] && rest.all Char.isDigit
  | digits => digits ≠ [] && digits.all Char.isDigit

/-- `BigInt` of a string of the form `-?\d+`. -/
def toBigInt (s : String) : ℤ :=
  match s.toList with
  | '-' :: rest => -bigInt (String.ofList rest)
  | _ => bigInt s

/-! ## Integers as text -/

theorem bigInt_ofList (digits : List Char) :
    bigInt (String.ofList digits) = (Nat.ofDigitChars 10 digits 0 : ℕ) := by
  have hfold : ∀ start : ℕ, digits.foldl
      (fun (value : ℤ) c => 10 * value + (c.toNat - '0'.toNat : ℕ)) start =
      (Nat.ofDigitChars 10 digits start : ℕ) := by
    induction digits with
    | nil => intro start; rfl
    | cons c rest ih =>
        intro start
        rw [List.foldl_cons, Nat.ofDigitChars_cons]
        have hcast : 10 * (start : ℤ) + (c.toNat - '0'.toNat : ℕ) =
            ((10 * start + (c.toNat - '0'.toNat) : ℕ) : ℤ) := by push_cast; rfl
        rw [hcast]
        exact ih _
  simpa [bigInt] using hfold 0

theorem bigInt_repr (n : ℕ) : bigInt n.repr = n := by
  have hlist : n.repr = String.ofList (Nat.toDigits 10 n) := Nat.repr_eq_ofList_toDigits
  rw [hlist, bigInt_ofList, Nat.ofDigitChars_ten_toDigits]

theorem isDigit_of_mem_repr {n : ℕ} {c : Char} (h : c ∈ n.repr.toList) : c.isDigit = true := by
  rw [Nat.toList_repr] at h
  exact Nat.isDigit_of_mem_toDigits (by decide) (by decide) h

/-- The characters of an integer: an optional sign and at least one digit. -/
theorem toList_toString (n : ℤ) : ∃ m : ℕ,
    (toString n).toList = m.repr.toList ∧ n = m ∨
      (toString n).toList = '-' :: m.repr.toList ∧ n = -m := by
  cases n with
  | ofNat m => exact ⟨m, .inl ⟨rfl, rfl⟩⟩
  | negSucc m =>
      refine ⟨m + 1, .inr ⟨?_, Int.negSucc_eq m⟩⟩
      have htext : toString (Int.negSucc m) = "-" ++ (m + 1).repr := rfl
      rw [htext, String.toList_append]
      rfl

/-- The text of an integer is one that `BigInt` reads back. -/
theorem toBigInt_toString (n : ℤ) :
    isInteger (toString n) = true ∧ toBigInt (toString n) = n ∧ trim (toString n) = toString n := by
  obtain ⟨m, h⟩ := toList_toString n
  have hall : m.repr.toList.all Char.isDigit = true :=
    List.all_eq_true.2 fun c hc => isDigit_of_mem_repr hc
  have hspace : ∀ c ∈ m.repr.toList, isWhiteSpace c = false :=
    fun c hc => isWhiteSpace_of_isDigit (isDigit_of_mem_repr hc)
  rcases h with ⟨htext, rfl⟩ | ⟨htext, rfl⟩
  · -- the first character is a digit, hence no sign
    have hsign : ∀ rest, (toString (m : ℤ)).toList ≠ '-' :: rest := by
      intro rest hrest
      have hdigit := isDigit_of_mem_repr (n := m) (c := '-') (by rw [← htext, hrest]; simp)
      exact absurd hdigit (by decide)
    refine ⟨?_, ?_, trim_eq_self (by rw [htext]; exact hspace)⟩
    · unfold isInteger
      split
      · rename_i hrest
        exact absurd hrest (hsign _)
      · rw [htext, hall]
        simp
    · unfold toBigInt
      split
      · rename_i hrest
        exact absurd hrest (hsign _)
      · exact bigInt_repr m
  · refine ⟨?_, ?_, trim_eq_self ?_⟩
    · unfold isInteger
      rw [htext]
      simp only [hall, Bool.and_true]
      simp
    · unfold toBigInt
      rw [htext]
      simp [bigInt_ofList]
    · intro c hc
      rw [htext] at hc
      rcases List.mem_cons.1 hc with rfl | hc
      · decide
      · exact hspace c hc

/-! ## Stable text -/

mutual

/-- `stableJson`. -/
def stableJson : Json → String
  | null => "null"
  | bool value => if value then "true" else "false"
  | number value => numberText value
  | string value => quote value
  | array items => "[" ++ ",".intercalate (itemTexts items) ++ "]"
  | object fields =>
      let sorted := (fieldTexts fields).insertionSort fun first second =>
        ¬ utf16 second.1 < utf16 first.1
      "\x7b" ++ ",".intercalate (sorted.map fun field => quote field.1 ++ ":" ++ field.2) ++ "\x7d"

/-- The texts of the items of an array. -/
def itemTexts : List Json → List String
  | [] => []
  | item :: rest => stableJson item :: itemTexts rest

/-- The keys of an object, each with the text of its value. -/
def fieldTexts : List (String × Json) → List (String × String)
  | [] => []
  | (name, value) :: rest => (name, stableJson value) :: fieldTexts rest

end

example : stableJson (object [("b", number 2), ("a", array [null, string "x"])]) =
    "\x7b\"a\":[null,\"x\"],\"b\":2\x7d" := by decide +kernel

end Json

end AbrChin.Js
