import Mathlib.Algebra.Order.Ring.Int
import Mathlib.Data.List.DropRight
import Mathlib.Data.List.Sort
import Mathlib.Data.String.Basic
import Mathlib.Data.Rat.Defs

/-!
# JavaScript values

What the modelled functions use of the language: `trim`, `length`, the decimal
patterns and `BigInt` of a decimal string, values of type `unknown` as
`JSON.parse` returns them, and the stable JSON text that `lib/idempotency.ts`
hashes.
-/

namespace AbrChin.Js

/-! ## Strings -/

/-- White space and line terminators, as `String.prototype.trim` removes them. -/
def isWhiteSpace (c : Char) : Bool :=
  c.val ∈ [0x9, 0xA, 0xB, 0xC, 0xD, 0x20, 0xA0, 0x1680, 0x2028, 0x2029, 0x202F, 0x205F, 0x3000,
    0xFEFF] || (0x2000 ≤ c.val && c.val ≤ 0x200A)

/-- `String.prototype.trim`. -/
def trim (s : String) : String :=
  String.ofList (((s.toList.dropWhile isWhiteSpace).reverse.dropWhile isWhiteSpace).reverse)

theorem toList_trim (s : String) :
    (trim s).toList = (s.toList.dropWhile isWhiteSpace).rdropWhile isWhiteSpace := by
  simp [trim, List.rdropWhile]

theorem trim_trim (s : String) : trim (trim s) = trim s := by
  -- what is left after both ends are trimmed starts with a character that stays
  have hleft : ((s.toList.dropWhile isWhiteSpace).rdropWhile isWhiteSpace).dropWhile
      isWhiteSpace = (s.toList.dropWhile isWhiteSpace).rdropWhile isWhiteSpace := by
    rw [List.dropWhile_eq_self_iff]
    intro hpos
    have hinit := List.rdropWhile_prefix isWhiteSpace (l := s.toList.dropWhile isWhiteSpace)
    have hlength := hinit.length_le
    rw [hinit.getElem hpos]
    exact List.dropWhile_get_zero_not _ _ (by omega)
  apply String.ext
  rw [toList_trim, toList_trim, hleft, List.rdropWhile_idempotent]

/-- `String.prototype.length`: the number of UTF-16 code units. -/
def length (s : String) : ℕ :=
  (s.toList.map fun c => if c.val < 0x10000 then 1 else 2).sum

/-- The UTF-16 code units, by which `Array.prototype.sort` compares strings. -/
def utf16 (s : String) : List ℕ :=
  s.toList.flatMap fun c =>
    if c.val < 0x10000 then [c.toNat]
    else [0xD800 + (c.toNat - 0x10000) / 0x400, 0xDC00 + (c.toNat - 0x10000) % 0x400]

/-- `Array.prototype.sort` of strings. -/
def sort (strings : List String) : List String :=
  strings.insertionSort fun first second => ¬ utf16 second < utf16 first

/-- `toLowerCase` of a header value, whose characters are at most U+00FF. -/
def toLowerCase (s : String) : String :=
  s.map fun c =>
    if c.isUpper || (0xC0 ≤ c.val && c.val ≤ 0xDE && c.val ≠ 0xD7) then Char.ofNat (c.toNat + 0x20)
    else c

/-- `toUpperCase` of a request method, which is ASCII. -/
def toUpperCase (s : String) : String := s.map Char.toUpper

/-- The UTF-8 bytes of a string. -/
def utf8 (s : String) : List UInt8 := s.toList.flatMap String.utf8EncodeChar

/-- The smallest integer that a Number rounds to `Infinity`. -/
def overflow : ℤ := 2 ^ 1024 - 2 ^ 970

/-- `Number.parseInt(s, 10)`; `none` when the result is not finite.  The integer
is exact: rounding it to a double only matters above `Number.MAX_SAFE_INTEGER`. -/
def parseInt (s : String) : Option ℤ :=
  let text := s.toList.dropWhile isWhiteSpace
  let (sign, text) : ℤ × List Char :=
    match text with
    | '-' :: rest => (-1, rest)
    | '+' :: rest => (1, rest)
    | text => (1, text)
  let digits := text.takeWhile Char.isDigit
  let value : ℤ := digits.foldl (fun value c => 10 * value + (c.toNat - '0'.toNat : ℕ)) 0
  if digits = [] || overflow ≤ value then none else some (sign * value)

/-- `/[\r\n\0]/.test`. -/
def hasLineBreakOrNul (s : String) : Bool :=
  s.toList.any fun c => c.val ∈ [0xD, 0xA, 0x0]

/-- `/^[1-9][0-9]*$/.test`. -/
def isPositiveDecimal (s : String) : Bool :=
  match s.toList with
  | [] => false
  | first :: rest => first.isDigit && first ≠ '0' && rest.all Char.isDigit

/-- `/^(0|[1-9][0-9]*)$/.test`. -/
def isDecimal (s : String) : Bool := s = "0" || isPositiveDecimal s

/-- `BigInt` of a string of decimal digits. -/
def bigInt (s : String) : ℤ :=
  s.toList.foldl (fun value c => 10 * value + (c.toNat - '0'.toNat : ℕ)) 0

/-! ## Values of type `unknown` -/

/-- A Number: an integer, or anything else (a fraction, `NaN`, an infinity). -/
inductive Number where
  | integer (value : ℤ)
  | other
  deriving DecidableEq

/-- `Number.MAX_SAFE_INTEGER`. -/
def maxSafeInteger : ℤ := 2 ^ 53 - 1

/-- A value of type `unknown`, as it comes out of `JSON.parse`. -/
inductive Value where
  | undefined
  | null
  | bool (value : Bool)
  | number (value : Number)
  | string (value : String)
  | array (items : List Value)
  | object (fields : List (String × Value))

/-- `record[field]`. -/
def Value.field (fields : List (String × Value)) (name : String) : Value :=
  (fields.lookup name).getD .undefined

/-! ## Stable JSON -/

/-- One character inside a JSON string literal. -/
def escape (c : Char) : List Char :=
  let hex := fun n : ℕ => (Nat.toDigits 16 n)
  if c = '\x22' then ['\\', '\x22']
  else if c = '\\' then ['\\', '\\']
  else if c.val = 0x8 then ['\\', 'b']
  else if c.val = 0xC then ['\\', 'f']
  else if c.val = 0xA then ['\\', 'n']
  else if c.val = 0xD then ['\\', 'r']
  else if c.val = 0x9 then ['\\', 't']
  else if c.val < 0x10 then ['\\', 'u', '0', '0', '0'] ++ hex c.toNat
  else if c.val < 0x20 then ['\\', 'u', '0', '0'] ++ hex c.toNat
  else [c]

/-- `JSON.stringify` of a string. -/
def quote (s : String) : String :=
  String.ofList (['\x22'] ++ s.toList.flatMap escape ++ ['\x22'])

/-- `stableJson` of an object whose values are strings: the keys in order. -/
def stableJson (fields : List (String × String)) : String :=
  let sorted := fields.insertionSort fun first second => first.1 ≤ second.1
  "\x7b" ++ ",".intercalate (sorted.map fun field => quote field.1 ++ ":" ++ quote field.2) ++ "\x7d"

example : bigInt "1204" = 1204 := by decide

example : stableJson [("b", "x"), ("a", "\"")] = "\x7b\"a\":\"\\\"\",\"b\":\"x\"\x7d" := by decide

end AbrChin.Js
