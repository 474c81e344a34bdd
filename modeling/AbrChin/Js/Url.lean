import AbrChin.Js.Utf8
import AbrChin.Lib.Replace

/-!
# Queries of a URL

`encodeURIComponent`, and `URLSearchParams` of a text: its parameters, in the order of the text,
with repeated names and empty names and values.  A parameter that is written with
`encodeURIComponent` and a plus for every space is read back (`searchParams_form`), because a plus
and a percent sign of its own are escaped, and because no separator of the query is left as it is.
-/

namespace AbrChin.Js

open Lib

/-! ## Writing -/

def upperHexDigit (n : ℕ) : Char :=
  if n < 10 then Char.ofNat (0x30 + n) else Char.ofNat (0x41 + (n - 10))

/-- `%XY` -/
def percentByte (byte : UInt8) : List Char :=
  ['%', upperHexDigit (byte.toNat / 16), upperHexDigit (byte.toNat % 16)]

/-- The characters that `encodeURIComponent` leaves as they are. -/
def isUnreserved (c : Char) : Bool :=
  c.isAlphanum || c ∈ ['-', '_', '.', '!', '~', '*', '\x27', '(', ')']

def encodeChar (c : Char) : List Char :=
  if isUnreserved c = true then [c] else (String.utf8EncodeChar c).flatMap percentByte

def encodeURIComponent (text : String) : String := String.ofList (text.toList.flatMap encodeChar)

/-! ## Reading -/

/-- The value of a hexadecimal digit of either case. -/
def hexByte (byte : UInt8) : Option ℕ :=
  let n := byte.toNat
  if 0x30 ≤ n ∧ n ≤ 0x39 then some (n - 0x30)
  else if 0x41 ≤ n ∧ n ≤ 0x46 then some (n - 0x41 + 10)
  else if 0x61 ≤ n ∧ n ≤ 0x66 then some (n - 0x61 + 10)
  else none

/-- "Percent-decode": a percent sign that no two digits follow stays. -/
def percentDecode : List UInt8 → List UInt8
  | [] => []
  | [byte] => [byte]
  | [byte, last] => [byte, last]
  | byte :: high :: low :: rest =>
      if byte = 0x25 then
        match hexByte high, hexByte low with
        | some high, some low => UInt8.ofNat (16 * high + low) :: percentDecode rest
        | _, _ => byte :: percentDecode (high :: low :: rest)
      else byte :: percentDecode (high :: low :: rest)

/-- A plus stands for a space. -/
def plusToSpace (byte : UInt8) : UInt8 := if byte = 0x2B then 0x20 else byte

def decodeParam (bytes : List UInt8) : String := utf8Decode (percentDecode (bytes.map plusToSpace))

/-- A name and its value, which stands behind the first equals sign. -/
def parseParam (bytes : List UInt8) : String × String :=
  (decodeParam (bytes.takeWhile (· ≠ 0x3D)), decodeParam ((bytes.dropWhile (· ≠ 0x3D)).drop 1))

/-- `[...new URLSearchParams(text)]`: one question mark at the start is left out. -/
def searchParams (text : String) : List (String × String) :=
  let chars := match text.toList with
    | '?' :: rest => rest
    | chars => chars
  (((chars.flatMap String.utf8EncodeChar).splitOn 0x26).filter (· ≠ [])).map parseParam

example : searchParams "?a=1&&b&=+%2B%zz%C3%A9&a=%F0=" =
    [("a", "1"), ("b", ""), ("", " +%zzé"), ("a", "\uFFFD=")] := by decide +kernel

/-! ## What has been written -/

/-- A character of a form: a space is written as a plus. -/
def formChar (c : Char) : List Char := if c = ' ' then ['+'] else encodeChar c

/-- The characters of a form. -/
def isFormChar (c : Char) : Bool := isUnreserved c || c = '+' || c = '%'

variable {c : Char}

theorem isUpper_eq : c.isUpper = decide (65 ≤ c.val ∧ c.val ≤ 90) := rfl

theorem isAlpha_eq : c.isAlpha = (decide (65 ≤ c.val ∧ c.val ≤ 90) || (97 ≤ c.val && c.val ≤ 122)) :=
  rfl

theorem isUnreserved_bounds (h : isUnreserved c = true) :
    0x20 < c.toNat ∧ c.toNat < 0x7F ∧ c ≠ '%' ∧ c ≠ '+' := by
  have hnat {d : Char} (hd : d.toNat ≠ c.toNat) : c ≠ d := fun heq => hd (heq ▸ rfl)
  rw [isUnreserved, Bool.or_eq_true] at h
  rcases h with hword | hmark
  · have hbounds : (65 ≤ c.toNat ∧ c.toNat ≤ 90) ∨ (97 ≤ c.toNat ∧ c.toNat ≤ 122) ∨
        (48 ≤ c.toNat ∧ c.toNat ≤ 57) := by
      simpa [Char.isAlphanum, isAlpha_eq, Char.isDigit, UInt32.le_iff_toNat_le, or_assoc]
        using hword
    refine ⟨by omega, by omega, hnat ?_, hnat ?_⟩
    · show 0x25 ≠ c.toNat
      omega
    · show 0x2B ≠ c.toNat
      omega
  · simp only [decide_eq_true_eq, List.mem_cons, List.not_mem_nil, or_false] at hmark
    rcases hmark with rfl | rfl | rfl | rfl | rfl | rfl | rfl | rfl | rfl <;> decide

/-- The byte of an ASCII character. -/
def asciiByte (c : Char) : UInt8 := UInt8.ofNat c.toNat

theorem toNat_asciiByte (h : c.toNat < 0x80) : (asciiByte c).toNat = c.toNat := by
  rw [asciiByte, UInt8.toNat_ofNat', Nat.mod_eq_of_lt (by omega)]

theorem utf8EncodeChar_ascii (h : c.toNat < 0x80) :
    String.utf8EncodeChar c = [asciiByte c] := if_pos (Nat.le_of_lt_succ h)

theorem asciiByte_inj {d : Char} (hc : c.toNat < 0x80) (hd : d.toNat < 0x80) :
    asciiByte c = asciiByte d ↔ c = d := by
  constructor
  · intro h
    have hnat : c.toNat = d.toNat := by rw [← toNat_asciiByte hc, ← toNat_asciiByte hd, h]
    rw [← Char.ofNat_toNat c, hnat, Char.ofNat_toNat]
  · rintro rfl
    rfl

theorem upperHexDigit_spec {n : ℕ} (h : n < 16) :
    isUnreserved (upperHexDigit n) = true ∧ hexByte (asciiByte (upperHexDigit n)) = some n ∧
      (upperHexDigit n = '2' → n = 2) ∧ (upperHexDigit n = '0' → n = 0) := by
  have hall : ∀ n < 16, isUnreserved (upperHexDigit n) = true ∧
      hexByte (asciiByte (upperHexDigit n)) = some n ∧
      (upperHexDigit n = '2' → n = 2) ∧ (upperHexDigit n = '0' → n = 0) := by decide +kernel
  exact hall n h

theorem digits_lt (byte : UInt8) : byte.toNat / 16 < 16 ∧ byte.toNat % 16 < 16 := by
  have hbyte : byte.toNat < 256 := byte.toNat_lt
  omega

/-! ### One character -/

/-- A byte that is written as `%XY` is read back. -/
theorem percentDecode_percentByte (byte : UInt8) (rest : List UInt8) :
    percentDecode (((percentByte byte).map asciiByte).map plusToSpace ++ rest) =
      byte :: percentDecode rest := by
  obtain ⟨hhigh, hlow⟩ := digits_lt byte
  have hplain {n : ℕ} (hn : n < 16) :
      plusToSpace (asciiByte (upperHexDigit n)) = asciiByte (upperHexDigit n) := by
    obtain ⟨-, hlt, -, hplus⟩ := isUnreserved_bounds (upperHexDigit_spec hn).1
    refine if_neg fun h => hplus ?_
    exact (asciiByte_inj (by omega) (by decide)).1 h
  have hpercent : plusToSpace (asciiByte '%') = 0x25 := by decide
  have hbyte : UInt8.ofNat (16 * (byte.toNat / 16) + byte.toNat % 16) = byte := by
    rw [Nat.div_add_mod, UInt8.ofNat_toNat]
  simp only [percentByte, List.map_cons, List.map_nil, hplain hhigh, hplain hlow, hpercent,
    List.cons_append, List.nil_append, percentDecode, if_true, (upperHexDigit_spec hhigh).2.1,
    (upperHexDigit_spec hlow).2.1, hbyte]

theorem percentDecode_percentBytes (bytes rest : List UInt8) :
    percentDecode (((bytes.flatMap percentByte).map asciiByte).map plusToSpace ++ rest) =
      bytes ++ percentDecode rest := by
  induction bytes with
  | nil => rfl
  | cons byte bytes ih =>
      rw [List.flatMap_cons, List.map_append, List.map_append, List.append_assoc,
        percentDecode_percentByte, ih, List.cons_append]

variable {byte : UInt8}

/-- A byte that is no percent sign stays. -/
theorem percentDecode_cons (h : byte ≠ 0x25) (rest : List UInt8) :
    percentDecode (byte :: rest) = byte :: percentDecode rest := by
  match rest with
  | [] => rfl
  | [_] => rfl
  | _ :: _ :: _ => rw [percentDecode, if_neg h]

/-- A character that is written in a form is read back as its bytes. -/
theorem percentDecode_formChar (c : Char) (rest : List UInt8) :
    percentDecode (((formChar c).map asciiByte).map plusToSpace ++ rest) =
      String.utf8EncodeChar c ++ percentDecode rest := by
  unfold formChar
  by_cases hspace : c = ' '
  · rw [if_pos hspace, hspace]
    exact percentDecode_cons (by decide) rest
  rw [if_neg hspace]
  unfold encodeChar
  by_cases hplain : isUnreserved c = true
  · rw [if_pos hplain]
    obtain ⟨-, hlt, hpercent, hplus⟩ := isUnreserved_bounds hplain
    have hsame : plusToSpace (asciiByte c) = asciiByte c :=
      if_neg fun h => hplus ((asciiByte_inj (by omega) (by decide)).1 h)
    have hne : asciiByte c ≠ 0x25 :=
      fun h => hpercent ((asciiByte_inj (by omega) (by decide)).1 h)
    rw [utf8EncodeChar_ascii (by omega)]
    simp only [List.map_cons, List.map_nil, hsame, List.cons_append, List.nil_append]
    exact percentDecode_cons hne rest
  · rw [if_neg hplain]
    exact percentDecode_percentBytes _ rest

/-- A text that is written in a form is read back. -/
theorem decodeParam_form (text : String) :
    decodeParam ((text.toList.flatMap formChar).map asciiByte) = text := by
  have hbytes : ∀ chars : List Char,
      percentDecode (((chars.flatMap formChar).map asciiByte).map plusToSpace) =
        chars.flatMap String.utf8EncodeChar := by
    intro chars
    induction chars with
    | nil => rfl
    | cons c rest ih =>
        rw [List.flatMap_cons, List.map_append, List.map_append, percentDecode_formChar, ih,
          List.flatMap_cons]
  rw [decodeParam, hbytes]
  exact utf8Decode_utf8 text

/-! ### A whole query -/

/-- A form has no separators. -/
theorem isFormChar_eq_false (h : c ∈ ['&', '=', '?', '\n']) : isFormChar c = false := by
  simp only [List.mem_cons, List.not_mem_nil, or_false] at h
  rcases h with rfl | rfl | rfl | rfl <;> decide

theorem isFormChar_of_mem_percentByte (h : c ∈ percentByte byte) : isFormChar c = true := by
  obtain ⟨hhigh, hlow⟩ := digits_lt byte
  simp only [percentByte, List.mem_cons, List.not_mem_nil, or_false] at h
  rcases h with rfl | rfl | rfl
  · decide
  · simp [isFormChar, (upperHexDigit_spec hhigh).1]
  · simp [isFormChar, (upperHexDigit_spec hlow).1]

theorem isFormChar_of_mem {text : String} (h : c ∈ text.toList.flatMap formChar) :
    isFormChar c = true := by
  obtain ⟨d, -, hc⟩ := List.mem_flatMap.1 h
  unfold formChar at hc
  by_cases hspace : d = ' '
  · rw [if_pos hspace, List.mem_singleton] at hc
    rw [hc]
    decide
  rw [if_neg hspace] at hc
  unfold encodeChar at hc
  by_cases hplain : isUnreserved d = true
  · rw [if_pos hplain, List.mem_singleton] at hc
    simp [isFormChar, hc, hplain]
  · rw [if_neg hplain] at hc
    obtain ⟨byte, -, hbyte⟩ := List.mem_flatMap.1 hc
    exact isFormChar_of_mem_percentByte hbyte

theorem isFormChar_lt (h : isFormChar c = true) : c.toNat < 0x80 := by
  simp only [isFormChar, Bool.or_eq_true, decide_eq_true_eq] at h
  rcases h with (hplain | rfl) | rfl
  · have hbounds := isUnreserved_bounds hplain
    omega
  · decide
  · decide

/-- A parameter in a form. -/
def formPart (param : String × String) : List Char :=
  param.1.toList.flatMap formChar ++ '=' :: param.2.toList.flatMap formChar

/-- The characters of a part, but for its equals sign. -/
theorem mem_formPart {param : String × String} (h : c ∈ formPart param) :
    isFormChar c = true ∨ c = '=' := by
  rcases List.mem_append.1 h with h | h
  · exact .inl (isFormChar_of_mem h)
  · rcases List.mem_cons.1 h with h | h
    · exact .inr h
    · exact .inl (isFormChar_of_mem h)

theorem asciiByte_ne {text : String} {d : Char} (hd : d.toNat < 0x80)
    (hform : isFormChar d = false) {byte : UInt8}
    (h : byte ∈ (text.toList.flatMap formChar).map asciiByte) : byte ≠ asciiByte d := by
  obtain ⟨c, hc, rfl⟩ := List.mem_map.1 h
  have hform' := isFormChar_of_mem hc
  intro heq
  rw [(asciiByte_inj (isFormChar_lt hform') hd).1 heq, hform] at hform'
  cases hform'

theorem parseParam_formPart (param : String × String) :
    parseParam ((formPart param).map asciiByte) = param := by
  have hname : ∀ byte ∈ (param.1.toList.flatMap formChar).map asciiByte,
      decide (byte ≠ 0x3D) = true := by
    intro byte hbyte
    exact decide_eq_true (@asciiByte_ne _ '=' (by decide) (isFormChar_eq_false (by simp)) _ hbyte)
  unfold parseParam formPart
  rw [List.map_append, List.map_cons, List.takeWhile_append_of_pos hname,
    List.dropWhile_append_of_pos hname, List.takeWhile_cons_of_neg (by decide),
    List.dropWhile_cons_of_neg (by decide), List.append_nil, List.drop_one, List.tail_cons,
    decodeParam_form, decodeParam_form]

theorem flatMap_ascii {chars : List Char} (h : ∀ c ∈ chars, c.toNat < 0x80) :
    chars.flatMap String.utf8EncodeChar = chars.map asciiByte := by
  induction chars with
  | nil => rfl
  | cons c rest ih =>
      rw [List.flatMap_cons, List.map_cons, utf8EncodeChar_ascii (h c List.mem_cons_self),
        ih fun d hd => h d (List.mem_cons_of_mem _ hd)]
      rfl

theorem map_intercalate {α β : Type} (f : α → β) (sep : List α) (parts : List (List α)) :
    (sep.intercalate parts).map f = (sep.map f).intercalate (parts.map (List.map f)) := by
  induction parts with
  | nil => rfl
  | cons part rest ih =>
      cases rest with
      | nil => simp
      | cons next rest =>
          rw [List.intercalate_cons_cons, List.map_append, List.map_append, ih]
          simp only [List.map_cons, List.intercalate_cons_cons, List.append_assoc]

theorem mem_intercalate {α : Type} {sep : List α} {parts : List (List α)} {a : α}
    (h : a ∈ sep.intercalate parts) : a ∈ sep ∨ ∃ part ∈ parts, a ∈ part := by
  induction parts with
  | nil => cases h
  | cons part rest ih =>
      cases rest with
      | nil =>
          rw [List.intercalate_singleton] at h
          exact .inr ⟨part, List.mem_cons_self, h⟩
      | cons next rest =>
          rw [List.intercalate_cons_cons] at h
          rcases List.mem_append.1 h with h | h
          · rcases List.mem_append.1 h with h | h
            · exact .inr ⟨part, List.mem_cons_self, h⟩
            · exact .inl h
          · refine (ih h).imp_right ?_
            rintro ⟨later, hlater, hmem⟩
            exact ⟨later, List.mem_cons_of_mem _ hlater, hmem⟩

/-- A query that has been written, as the text of its parameters. -/
def formQuery (params : List (String × String)) : List Char :=
  ['&'].intercalate (params.map formPart)

/-- The characters of a query, but for its separators. -/
theorem mem_formQuery {params : List (String × String)} (h : c ∈ formQuery params) :
    isFormChar c = true ∨ c = '=' ∨ c = '&' := by
  rcases mem_intercalate h with h | ⟨part, hpart, hmem⟩
  · exact .inr (.inr (List.mem_singleton.1 h))
  · obtain ⟨param, -, rfl⟩ := List.mem_map.1 hpart
    exact (mem_formPart hmem).imp_right .inl

theorem formQuery_lt {params : List (String × String)} (h : c ∈ formQuery params) :
    c.toNat < 0x80 := by
  rcases mem_formQuery h with h | rfl | rfl
  · exact isFormChar_lt h
  · decide
  · decide

/-- **A query that has been written is read back**, whatever its parameters are. -/
theorem searchParams_formQuery (params : List (String × String)) :
    searchParams (String.ofList (formQuery params)) = params := by
  have hhead : (match formQuery params with
      | '?' :: rest => rest
      | chars => chars) = formQuery params := by
    split
    · next rest hquery =>
        have hmem : '?' ∈ formQuery params := by rw [hquery]; exact List.mem_cons_self
        rcases mem_formQuery hmem with h | h | h
        · rw [isFormChar_eq_false (by simp)] at h
          cases h
        · cases h
        · cases h
    · rfl
  unfold searchParams
  rw [String.toList_ofList]
  simp only [hhead]
  rw [flatMap_ascii fun c hc => formQuery_lt hc, formQuery, map_intercalate, List.map_map]
  cases params with
  | nil => rfl
  | cons param rest =>
      have hseparator : [asciiByte '&'] = [0x26] := by decide
      have hparts : ∀ part ∈ (param :: rest).map (List.map asciiByte ∘ formPart),
          0x26 ∉ part ∧ part ≠ [] := by
        intro part hpart
        obtain ⟨param, -, rfl⟩ := List.mem_map.1 hpart
        refine ⟨fun hmem => ?_, by simp [formPart]⟩
        obtain ⟨c, hc, hbyte⟩ := List.mem_map.1 hmem
        have hamp {d : Char} (hd : d.toNat < 0x80) (h : asciiByte d = 0x26) : d = '&' :=
          (asciiByte_inj hd (by decide)).1 h
        rcases mem_formPart hc with hform | rfl
        · rw [hamp (isFormChar_lt hform) hbyte, isFormChar_eq_false (by simp)] at hform
          cases hform
        · cases hamp (by decide) hbyte
      rw [List.map_singleton, hseparator, List.splitOn_intercalate _ (fun part hpart =>
        (hparts part hpart).1) (by simp), List.filter_eq_self.2 fun part hpart =>
          decide_eq_true (hparts part hpart).2, List.map_map]
      conv_rhs => rw [← List.map_id (param :: rest)]
      exact List.map_congr_left fun param _ => parseParam_formPart param

/-! ### The pluses -/

/-- A byte below 128 is a character of its own. -/
theorem toNat_of_mem_utf8EncodeChar (h : byte ∈ String.utf8EncodeChar c) (hlt : byte.toNat < 0x80) :
    c.toNat = byte.toNat := by
  have hhigh {n : ℕ} (hn : 0x80 ≤ n ∧ n < 256) : byte ≠ UInt8.ofNat n := by
    rintro rfl
    rw [UInt8.toNat_ofNat', Nat.mod_eq_of_lt (by omega)] at hlt
    omega
  unfold String.utf8EncodeChar at h
  by_cases hone : c.val.toNat ≤ 0x7F
  · rw [if_pos hone, List.mem_singleton] at h
    rw [h]
    exact (toNat_asciiByte (Nat.lt_succ_of_le hone)).symm
  rw [if_neg hone] at h
  exfalso
  by_cases htwo : c.val.toNat ≤ 0x7FF
  · rw [if_pos htwo, List.mem_pair] at h
    rcases h with h | h
    · exact hhigh (by omega) h
    · exact hhigh (by omega) h
  rw [if_neg htwo] at h
  by_cases hthree : c.val.toNat ≤ 0xFFFF
  · rw [if_pos hthree, List.mem_cons, List.mem_pair] at h
    rcases h with h | h | h
    · exact hhigh (by omega) h
    · exact hhigh (by omega) h
    · exact hhigh (by omega) h
  · rw [if_neg hthree, List.mem_cons, List.mem_cons, List.mem_pair] at h
    rcases h with h | h | h | h
    · exact hhigh (by omega) h
    · exact hhigh (by omega) h
    · exact hhigh (by omega) h
    · exact hhigh (by omega) h

/-- Of the bytes that are written as `%XY`, only a space is written as `%20`. -/
theorem replaced_percentByte (hbyte : byte ≠ 0x20) {rest out : List Char}
    (h : Replaced ['%', '2', '0'] ['+'] rest out) :
    Replaced ['%', '2', '0'] ['+'] (percentByte byte ++ rest) (percentByte byte ++ out) := by
  obtain ⟨hhigh, hlow⟩ := digits_lt byte
  have hdigit {n : ℕ} (hn : n < 16) : upperHexDigit n ≠ '%' :=
    (isUnreserved_bounds (upperHexDigit_spec hn).1).2.2.1
  have hother {c : Char} (hc : c ≠ '%') (text : List Char) :
      ¬ ['%', '2', '0'] <+: c :: text := by
    intro hprefix
    exact hc (List.cons_prefix_cons.1 hprefix).1.symm
  show Replaced _ _ ('%' :: upperHexDigit (byte.toNat / 16) :: upperHexDigit (byte.toNat % 16) ::
    rest) ('%' :: upperHexDigit (byte.toNat / 16) :: upperHexDigit (byte.toNat % 16) :: out)
  refine .kept ?_ (.kept (hother (hdigit hhigh) _) (.kept (hother (hdigit hlow) _) h))
  intro hprefix
  have hprefix : '2' = upperHexDigit (byte.toNat / 16) ∧
      '0' = upperHexDigit (byte.toNat % 16) := by
    simpa only [List.cons_prefix_cons, List.nil_prefix, and_true, true_and] using hprefix
  have htwo := (upperHexDigit_spec hhigh).2.2.1 hprefix.1.symm
  have hzero := (upperHexDigit_spec hlow).2.2.2 hprefix.2.symm
  refine hbyte (UInt8.toNat_inj.1 ?_)
  show byte.toNat = 32
  omega

theorem replaced_encodeChar (chars : List Char) : Replaced ['%', '2', '0'] ['+']
    (chars.flatMap encodeChar) (chars.flatMap formChar) := by
  induction chars with
  | nil => exact .nil
  | cons c rest ih =>
      rw [List.flatMap_cons, List.flatMap_cons]
      by_cases hspace : c = ' '
      · have hencode : encodeChar ' ' = ['%', '2', '0'] := by decide
        rw [hspace, hencode]
        exact .found ih
      rw [formChar, if_neg hspace]
      unfold encodeChar
      by_cases hplain : isUnreserved c = true
      · rw [if_pos hplain]
        refine .kept (fun hprefix => ?_) ih
        exact (isUnreserved_bounds hplain).2.2.1 (List.cons_prefix_cons.1 hprefix).1.symm
      rw [if_neg hplain]
      have hbytes : ∀ byte ∈ String.utf8EncodeChar c, byte ≠ 0x20 := by
        rintro byte hbyte rfl
        have hnat := toNat_of_mem_utf8EncodeChar hbyte (by decide)
        exact hspace (by rw [← Char.ofNat_toNat c, hnat]; rfl)
      generalize String.utf8EncodeChar c = bytes at hbytes
      induction bytes with
      | nil => exact ih
      | cons byte bytes ihbytes =>
          rw [List.flatMap_cons, List.append_assoc, List.append_assoc]
          exact replaced_percentByte (hbytes byte List.mem_cons_self)
            (ihbytes fun other hother => hbytes other (List.mem_cons_of_mem _ hother))

/-- `encodeURIComponent(text).replace(/%20/g, "+")`. -/
theorem replace_encodeURIComponent (text : String) :
    ((encodeURIComponent text).replace "%20" "+").toList = text.toList.flatMap formChar := by
  have hreplace := @replaced_replace "%20" (by decide) (encodeURIComponent text) "+"
  have hencode : (encodeURIComponent text).toList = text.toList.flatMap encodeChar :=
    String.toList_ofList
  rw [hencode] at hreplace
  exact hreplace.unique (by decide) (replaced_encodeChar text.toList)

end AbrChin.Js
