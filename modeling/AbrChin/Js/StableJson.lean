import AbrChin.Js.Json
import AbrChin.Js.Sort
import AbrChin.Lib.Delimited
import Mathlib.Data.Bool.AllAny

/-!
# Stable text is canonical

`lib/idempotency.ts`: two requests are the same request when the texts that `stableJson` makes of
them have one fingerprint.  Two values have one text exactly when they are equal up to the order of
the keys of their objects.

## Strategy

From equal values to equal texts, the fields of an object are sorted by their keys, and fields with
distinct keys have only one sorted order.

From equal texts to equal values, a value is read back from a text that something may follow: the
next item, the next field or the end of what contains it.

* **The kind of a value** is visible in the first character of its text.
* **A number** ends before the first character that no number has.  Its text is read back by
  `Number`.
* **A string** ends with the first quote that is not escaped: no escape of a character starts
  another's, and none starts with a quote.
* **Arrays and objects** are lists of texts with commas between them and a bracket at the end.
-/

namespace AbrChin.Js.Json

open Lib

/-! ## JSON values -/

/-- A value as JSON has it: numbers are finite doubles, and the keys of an object are distinct. -/
inductive WellFormed : Json → Prop
  | null : WellFormed .null
  | bool (value : Bool) : WellFormed (.bool value)
  | number {value : ℚ} (h : double value = some value) : WellFormed (.number value)
  | string (value : String) : WellFormed (.string value)
  | array {items : List Json} (h : ∀ item ∈ items, WellFormed item) : WellFormed (.array items)
  | object {fields : List (String × Json)} (hkeys : (fields.map Prod.fst).Nodup)
      (h : ∀ field ∈ fields, WellFormed field.2) : WellFormed (.object fields)

/-- The values are equal, except that the keys of their objects may stand in another order. -/
inductive Same : Json → Json → Prop
  | null : Same .null .null
  | bool (value : Bool) : Same (.bool value) (.bool value)
  | number (value : ℚ) : Same (.number value) (.number value)
  | string (value : String) : Same (.string value) (.string value)
  | array {items items' : List Json} (hlength : items.length = items'.length)
      (h : ∀ (i : ℕ) (item item' : Json), items[i]? = some item → items'[i]? = some item' →
        Same item item') :
      Same (.array items) (.array items')
  | object {fields fields' : List (String × Json)}
      (hkeys : ∀ name, name ∈ fields.map Prod.fst ↔ name ∈ fields'.map Prod.fst)
      (h : ∀ name value value', (name, value) ∈ fields → (name, value') ∈ fields' →
        Same value value') :
      Same (.object fields) (.object fields')

/-- `createHash("sha256").update(stableJson(value)).digest("hex")` -/
def idempotencyFingerprint (sha256Hex : String → String) (value : Json) : String :=
  sha256Hex (stableJson value)

/-! ## The texts of lists -/

/-- The order in which fields are written. -/
def before {α : Type} (first second : String × α) : Prop := ¬ utf16 second.1 < utf16 first.1

instance {α : Type} : DecidableRel (before (α := α)) :=
  fun first second => inferInstanceAs (Decidable (¬ utf16 second.1 < utf16 first.1))

theorem itemTexts_eq (items : List Json) : itemTexts items = items.map stableJson := by
  induction items with
  | nil => rw [itemTexts, List.map_nil]
  | cons item items ih => rw [itemTexts, ih, List.map_cons]

theorem fieldTexts_eq (fields : List (String × Json)) :
    fieldTexts fields = fields.map fun field => (field.1, stableJson field.2) := by
  induction fields with
  | nil => rw [fieldTexts, List.map_nil]
  | cons field fields ih => rw [fieldTexts, ih, List.map_cons]

/-- The text of a value, as characters. -/
def chars (value : Json) : List Char := (stableJson value).toList

/-- The text of a field. -/
def fieldChars (field : String × Json) : List Char :=
  (quote field.1).toList ++ ':' :: chars field.2

theorem chars_array (items : List Json) :
    chars (.array items) = '[' :: ([','].intercalate (items.map chars) ++ [']']) := by
  unfold chars
  rw [stableJson, itemTexts_eq, String.toList_append, String.toList_append,
    String.toList_intercalate, List.map_map]
  rfl

theorem chars_object (fields : List (String × Json)) :
    chars (.object fields) =
      '\x7b' :: ([','].intercalate ((fields.insertionSort before).map fieldChars) ++ ['\x7d']) := by
  have hsorted : (fieldTexts fields).insertionSort before =
      (fields.insertionSort before).map fun field => (field.1, stableJson field.2) := by
    rw [fieldTexts_eq]
    exact (List.map_insertionSort before before (fun field => (field.1, stableJson field.2)) fields
      fun _ _ _ _ => Iff.rfl).symm
  have htext (field : String × Json) :
      (quote field.1 ++ ":" ++ stableJson field.2).toList = fieldChars field := by
    rw [String.toList_append, String.toList_append, List.append_assoc]
    rfl
  unfold chars
  rw [stableJson]
  show ("\x7b" ++ ",".intercalate (((fieldTexts fields).insertionSort before).map
    fun field => quote field.1 ++ ":" ++ field.2) ++ "\x7d").toList = _
  rw [hsorted, String.toList_append, String.toList_append, String.toList_intercalate, List.map_map,
    List.map_map]
  simp only [Function.comp_def, htext]
  rfl

theorem map_fieldChars (fields : List (String × Json)) :
    (fields.insertionSort before).map fieldChars =
      ((fields.map fun field => (field.1, chars field.2)).insertionSort before).map
        fun field => (quote field.1).toList ++ ':' :: field.2 := by
  rw [← List.map_insertionSort before before (fun field => (field.1, chars field.2)) fields
    fun _ _ _ _ => Iff.rfl, List.map_map]
  rfl

/-! ## Equal values have equal texts -/

theorem pairwise_before {α : Type} (fields : List (String × α)) :
    (fields.insertionSort before).Pairwise before := by
  have htotal : Std.Total (before (α := α)) := ⟨fun a b => by
    rcases le_total (utf16 a.1) (utf16 b.1) with hle | hle
    · exact .inl (not_lt.2 hle)
    · exact .inr (not_lt.2 hle)⟩
  have htrans : IsTrans (String × α) before :=
    ⟨fun a b c hab hbc => not_lt.2 ((not_lt.1 hab).trans (not_lt.1 hbc))⟩
  exact List.pairwise_insertionSort before fields

/-- Fields with distinct keys have only one sorted order. -/
theorem insertionSort_eq_of_perm {α : Type} {fields fields' : List (String × α)}
    (hkeys : (fields.map Prod.fst).Nodup) (h : fields.Perm fields') :
    fields.insertionSort before = fields'.insertionSort before := by
  refine List.Perm.eq_of_pairwise (fun a b ha hb hab hba => ?_) (pairwise_before fields)
    (pairwise_before fields') (((List.perm_insertionSort _ _).trans h).trans
      (List.perm_insertionSort _ _).symm)
  have hname : a.1 = b.1 := utf16_injective (le_antisymm (not_lt.1 hab) (not_lt.1 hba))
  have ha := (List.mem_insertionSort _).1 ha
  have hb := h.mem_iff.2 ((List.mem_insertionSort _).1 hb)
  exact List.inj_on_of_nodup_map hkeys ha hb hname

theorem keys_map {α β : Type} (f : α → β) (fields : List (String × α)) :
    (fields.map fun field => (field.1, f field.2)).map Prod.fst = fields.map Prod.fst := by
  rw [List.map_map]
  rfl

theorem chars_eq_of_same {x y : Json} (hx : x.WellFormed) (hy : y.WellFormed)
    (h : Same x y) : chars x = chars y := by
  induction h with
  | null => rfl
  | bool value => rfl
  | number value => rfl
  | string value => rfl
  | @array items items' hlength _ ih =>
      cases hx with
      | array hitems =>
          cases hy with
          | array hitems' =>
              have htexts : items.map chars = items'.map chars := by
                refine List.ext_getElem (by simpa using hlength) fun i hi hi' => ?_
                rw [List.length_map] at hi hi'
                rw [List.getElem_map, List.getElem_map]
                exact ih i _ _ (List.getElem?_eq_getElem hi) (List.getElem?_eq_getElem hi')
                  (hitems _ (List.getElem_mem hi)) (hitems' _ (List.getElem_mem hi'))
              rw [chars_array, chars_array, htexts]
  | @object fields fields' hnames _ ih =>
      cases hx with
      | object hkeys hfields =>
          cases hy with
          | object hkeys' hfields' =>
              -- the same keys with the same texts, hence one sorted list of fields
              have hsame : ∀ name value value', (name, value) ∈ fields →
                  (name, value') ∈ fields' → chars value = chars value' :=
                fun name value value' hmem hmem' =>
                  ih name value value' hmem hmem' (hfields _ hmem) (hfields' _ hmem')
              have hperm : (fields.map fun field => (field.1, chars field.2)).Perm
                  (fields'.map fun field => (field.1, chars field.2)) := by
                refine (List.perm_ext_iff_of_nodup
                  (List.Nodup.of_map Prod.fst (by rwa [keys_map]))
                  (List.Nodup.of_map Prod.fst (by rwa [keys_map]))).2 fun field => ?_
                constructor
                · intro htext
                  obtain ⟨⟨name, value⟩, hmem, rfl⟩ := List.mem_map.1 htext
                  obtain ⟨⟨name, value'⟩, hmem', rfl⟩ :=
                    List.mem_map.1 ((hnames name).1 (List.mem_map_of_mem hmem))
                  exact List.mem_map.2 ⟨_, hmem', by rw [hsame _ _ _ hmem hmem']⟩
                · intro htext
                  obtain ⟨⟨name, value'⟩, hmem', rfl⟩ := List.mem_map.1 htext
                  obtain ⟨⟨name, value⟩, hmem, rfl⟩ :=
                    List.mem_map.1 ((hnames name).2 (List.mem_map_of_mem hmem'))
                  exact List.mem_map.2 ⟨_, hmem, by rw [hsame _ _ _ hmem hmem']⟩
              have hsorted := insertionSort_eq_of_perm (by rwa [keys_map]) hperm
              rw [chars_object, chars_object, map_fieldChars, map_fieldChars, hsorted]

/-! ## Strings are read back -/

/-- The characters that are escaped. -/
def escaped : List Char := '\x22' :: '\\' :: (List.range 32).map Char.ofNat

variable {c : Char}

theorem mem_escaped (h : escape c ≠ [c]) : c ∈ escaped := by
  by_contra hmem
  simp only [escaped, List.mem_cons, List.mem_map, List.mem_range, not_or, not_exists,
    not_and] at hmem
  obtain ⟨hquote, hbackslash, hcontrol⟩ := hmem
  have hlow : ¬ c.val < 0x20 := by
    intro hlt
    exact hcontrol c.toNat (UInt32.lt_iff_toNat_lt.1 hlt) (Char.ofNat_toNat c)
  have hne (code : UInt32) (hcode : code < 0x20) : c.val ≠ code := by
    rintro rfl
    exact hlow hcode
  refine h ?_
  unfold escape
  rw [if_neg hquote, if_neg hbackslash, if_neg (hne 0x8 (by decide)), if_neg (hne 0xC (by decide)),
    if_neg (hne 0xA (by decide)), if_neg (hne 0xD (by decide)), if_neg (hne 0x9 (by decide)),
    if_neg fun hlt : c.val < 0x10 => hlow (UInt32.lt_trans hlt (by decide)), if_neg hlow]

theorem escape_head : ∀ c ∈ escaped, (escape c).head? = some '\\' :=
  List.all_iff_forall_prop.1 (by decide +kernel)

/-- No escape starts another. -/
theorem escape_prefixFree {d : Char} (hc : c ∈ escaped) (hd : d ∈ escaped)
    (h : escape c <+: escape d) : c = d := by
  have hpairs : escaped.all (fun c => escaped.all fun d => escape c <+: escape d → c = d) = true := by
    decide +kernel
  have hof : ∀ d ∈ escaped, escape c <+: escape d → c = d :=
    List.all_iff_forall_prop.1 (List.all_eq_true.1 hpairs c hc)
  exact hof d hd h

theorem escape_of_ne (h : escape c ≠ [c]) : ∃ tail, escape c = '\\' :: tail :=
  List.head?_eq_some_iff.1 (escape_head c (mem_escaped h))

variable {rest rest' : List Char}

/-- A backslash does not stand for itself. -/
theorem escape_append_ne_of_plain {d : Char} (hc : escape c = [c]) (hd : escape d ≠ [d]) :
    escape c ++ rest ≠ escape d ++ rest' := by
  intro h
  obtain ⟨tail, htail⟩ := escape_of_ne hd
  rw [hc, htail] at h
  cases (List.cons.inj h).1
  exact absurd hc (by decide)

theorem escape_append_inj {d : Char} (h : escape c ++ rest = escape d ++ rest') :
    c = d ∧ rest = rest' := by
  have hcd : c = d := by
    by_cases hc : escape c = [c]
    · by_cases hd : escape d = [d]
      · rw [hc, hd] at h
        exact (List.cons.inj h).1
      · exact absurd h (escape_append_ne_of_plain hc hd)
    · by_cases hd : escape d = [d]
      · exact absurd h.symm (escape_append_ne_of_plain hd hc)
      · rcases List.append_eq_append_iff.1 h with ⟨_, hprefix, -⟩ | ⟨_, hprefix, -⟩
        · exact escape_prefixFree (mem_escaped hc) (mem_escaped hd) ⟨_, hprefix.symm⟩
        · exact (escape_prefixFree (mem_escaped hd) (mem_escaped hc) ⟨_, hprefix.symm⟩).symm
  rw [hcd] at h
  exact ⟨hcd, List.append_cancel_left h⟩

/-- A quote is escaped. -/
theorem escape_append_ne (c : Char) (rest rest' : List Char) :
    escape c ++ rest ≠ '\x22' :: rest' := by
  intro h
  by_cases hc : escape c = [c]
  · rw [hc] at h
    cases (List.cons.inj h).1
    exact absurd hc (by decide)
  · obtain ⟨tail, htail⟩ := escape_of_ne hc
    rw [htail] at h
    cases (List.cons.inj h).1

theorem flatMap_escape_inj : ∀ {first second rest rest' : List Char},
    first.flatMap escape ++ '\x22' :: rest = second.flatMap escape ++ '\x22' :: rest' →
      first = second ∧ rest = rest' := by
  intro first
  induction first with
  | nil =>
      intro second rest rest' h
      cases second with
      | nil => exact ⟨rfl, (List.cons.inj h).2⟩
      | cons d second =>
          rw [List.flatMap_cons, List.append_assoc] at h
          exact absurd h.symm (escape_append_ne d _ _)
  | cons c first ih =>
      intro second rest rest' h
      rw [List.flatMap_cons, List.append_assoc] at h
      cases second with
      | nil => exact absurd h (escape_append_ne c _ _)
      | cons d second =>
          rw [List.flatMap_cons, List.append_assoc] at h
          obtain ⟨rfl, htail⟩ := escape_append_inj h
          obtain ⟨rfl, hrest⟩ := ih htail
          exact ⟨rfl, hrest⟩

/-- A string is read back, whatever follows. -/
theorem quote_append_inj {s t : String} (h : (quote s).toList ++ rest = (quote t).toList ++ rest') :
    s = t ∧ rest = rest' := by
  unfold quote at h
  simp only [String.toList_ofList, List.cons_append, List.append_assoc, List.nil_append] at h
  obtain ⟨hchars, hrest⟩ := flatMap_escape_inj (List.cons.inj h).2
  exact ⟨String.toList_injective hchars, hrest⟩

/-! ## Numbers are read back -/

/-- What may follow a value. -/
def Ends (rest : List Char) : Prop := ∀ c ∈ rest.head?, c ∈ [',', ']', '\x7d']

theorem takeWhile_number {value : ℚ} (hrest : Ends rest) :
    ((numberText value).toList ++ rest).takeWhile isNumberChar = (numberText value).toList := by
  have hstop : rest.takeWhile isNumberChar = [] := by
    cases rest with
    | nil => rfl
    | cons c rest =>
        have hnot : ∀ c ∈ [',', ']', '\x7d'], ¬ isNumberChar c = true :=
          List.all_iff_forall_prop.1 (by decide)
        exact List.takeWhile_cons_of_neg (hnot c (hrest c rfl))
  rw [List.takeWhile_append_of_pos fun c hc => isNumberChar_numberText hc, hstop, List.append_nil]

theorem numberText_append_inj {value value' : ℚ} (h : double value = some value)
    (h' : double value' = some value') (hrest : Ends rest) (hrest' : Ends rest')
    (htext : (numberText value).toList ++ rest = (numberText value').toList ++ rest') :
    value = value' ∧ rest = rest' := by
  have hnumber : (numberText value).toList = (numberText value').toList := by
    rw [← takeWhile_number hrest, htext, takeWhile_number hrest']
  refine ⟨Option.some.inj ?_, List.append_cancel_left (hnumber ▸ htext)⟩
  calc some value = toNumber (numberText value) := (toNumber_numberText h).symm
    _ = toNumber (numberText value') := by rw [String.toList_injective hnumber]
    _ = some value' := toNumber_numberText h'

/-! ## Values are read back -/

/-- The kind of a value, which the first character of its text shows. -/
def kindOf (c : Char) : ℕ :=
  if c = 'n' then 0
  else if c = 't' ∨ c = 'f' then 1
  else if c = '\x22' then 2
  else if c = '[' then 3
  else if c = '\x7b' then 4
  else if isNumberChar c then 5
  else 6

def kind : Json → ℕ
  | .null => 0
  | .bool _ => 1
  | .string _ => 2
  | .array _ => 3
  | .object _ => 4
  | .number _ => 5

theorem kindOf_of_isNumberChar (h : isNumberChar c = true) : kindOf c = 5 := by
  have hne (d : Char) (hd : isNumberChar d = false) : c ≠ d := by
    rintro rfl
    rw [hd] at h
    cases h
  unfold kindOf
  rw [if_neg (hne 'n' (by decide)), if_neg (not_or.2 ⟨hne 't' (by decide), hne 'f' (by decide)⟩),
    if_neg (hne '\x22' (by decide)), if_neg (hne '[' (by decide)), if_neg (hne '\x7b' (by decide)),
    if_pos h]

variable {value : Json}

theorem kindOf_chars (h : value.WellFormed) :
    ∃ c rest, chars value = c :: rest ∧ kindOf c = kind value := by
  cases h with
  | null => exact ⟨'n', _, rfl, rfl⟩
  | bool value =>
      cases value with
      | false => exact ⟨'f', _, rfl, rfl⟩
      | true => exact ⟨'t', _, rfl, rfl⟩
  | @number value h =>
      show ∃ c rest, (numberText value).toList = c :: rest ∧ kindOf c = 5
      cases htext : (numberText value).toList with
      | nil =>
          -- no text is read as zero, and zero has a text
          have hempty : numberText value = "" := String.toList_injective (by rw [htext]; rfl)
          have hread := toNumber_numberText h
          rw [hempty] at hread
          cases Option.some.inj ((by decide +kernel : toNumber "" = some 0).symm.trans hread)
          exact absurd hempty (by decide +kernel)
      | cons c rest =>
          have hc := @isNumberChar_numberText value c (by rw [htext]; exact List.mem_cons_self)
          exact ⟨c, rest, rfl, kindOf_of_isNumberChar hc⟩
  | string value =>
      have hchars : chars (.string value) = (quote value).toList := by
        rw [chars, stableJson]
      rw [hchars, quote, String.toList_ofList]
      exact ⟨'\x22', _, rfl, rfl⟩
  | array _ => exact ⟨'[', _, chars_array _, rfl⟩
  | object _ _ => exact ⟨'\x7b', _, chars_object _, rfl⟩

/-- Texts that start alike are texts of values of one kind. -/
theorem kind_eq_of_append {x y : Json} (hx : x.WellFormed) (hy : y.WellFormed)
    (h : chars x ++ rest = chars y ++ rest') : kind x = kind y := by
  obtain ⟨c, tail, hc, hkind⟩ := kindOf_chars hx
  obtain ⟨d, tail', hd, hkind'⟩ := kindOf_chars hy
  rw [hc, hd] at h
  rw [← hkind, ← hkind', (List.cons.inj h).1]

/-- No value starts with a closing bracket. -/
theorem chars_append_ne (h : value.WellFormed) (rest rest' : List Char) :
    chars value ++ rest ≠ ']' :: rest' := by
  intro htext
  obtain ⟨c, tail, hc, hkind⟩ := kindOf_chars h
  rw [hc] at htext
  rw [(List.cons.inj htext).1] at hkind
  cases value with
  | null => cases hkind
  | bool _ => cases hkind
  | number _ => cases hkind
  | string _ => cases hkind
  | array _ => cases hkind
  | object _ => cases hkind

theorem fieldChars_append_ne (field : String × Json) (rest rest' : List Char) :
    fieldChars field ++ rest ≠ '\x7d' :: rest' := by
  unfold fieldChars quote
  rw [String.toList_ofList]
  intro h
  cases (List.cons.inj h).1

/-- The fields are the same: the key is equal, and the value is the same. -/
def SameField (field field' : String × Json) : Prop :=
  field.1 = field'.1 ∧ Same field.2 field'.2

/-- A field is read back when its value is. -/
theorem readBack_field {field : String × Json}
    (h : ReadBack WellFormed Same Ends chars field.2) :
    ReadBack (fun field => WellFormed field.2) SameField Ends fieldChars field := by
  intro field' rest rest' hfield' hrest hrest' htext
  unfold fieldChars at htext
  rw [List.append_assoc, List.append_assoc] at htext
  obtain ⟨hname, htext⟩ := quote_append_inj htext
  obtain ⟨hsame, hrest⟩ := h field'.2 rest rest' hfield' hrest hrest' (List.cons.inj htext).2
  exact ⟨⟨hname, hsame⟩, hrest⟩

/-- Sorted fields that are the same one by one are the fields of the same object. -/
theorem same_object {fields fields' : List (String × Json)}
    (hkeys' : (fields'.map Prod.fst).Nodup)
    (h : List.Forall₂ SameField (fields.insertionSort before) (fields'.insertionSort before)) :
    Same (.object fields) (.object fields') := by
  have hnames : (fields.insertionSort before).map Prod.fst =
      (fields'.insertionSort before).map Prod.fst := by
    rw [← List.forall₂_eq_eq_eq, List.forall₂_map_left_iff, List.forall₂_map_right_iff]
    exact h.imp fun _ _ hfield => hfield.1
  refine .object (fun name => ?_) fun name value value' hmem hmem' => ?_
  · rw [← ((List.perm_insertionSort before fields).map Prod.fst).mem_iff, hnames,
      ((List.perm_insertionSort before fields').map Prod.fst).mem_iff]
  · obtain ⟨i, hi, hget⟩ := List.mem_iff_getElem.1 ((List.mem_insertionSort before).2 hmem)
    have hi' : i < (fields'.insertionSort before).length := h.length_eq ▸ hi
    obtain ⟨hname, hsame⟩ := h.get hi hi'
    rw [List.get_eq_getElem, hget] at hname hsame
    -- the field at the same place is the one with the key
    have hfield : (fields'.insertionSort before)[i] = (name, value') :=
      List.inj_on_of_nodup_map hkeys'
        ((List.mem_insertionSort before).1 (List.getElem_mem hi')) hmem' hname.symm
    rw [List.get_eq_getElem, hfield] at hsame
    exact hsame

/-- **Every value is read back from its text.** -/
theorem readBack_chars (h : value.WellFormed) : ReadBack WellFormed Same Ends chars value := by
  have hends {c : Char} (hc : c ∈ [',', ']', '\x7d']) (rest : List Char) : Ends (c :: rest) := by
    rintro d ⟨⟩
    exact hc
  induction h with
  | null =>
      intro other rest rest' hother hrest hrest' htext
      have hkind := kind_eq_of_append .null hother htext
      cases other with
      | null => exact ⟨.null, List.append_cancel_left htext⟩
      | _ => cases hkind
  | bool value =>
      intro other rest rest' hother hrest hrest' htext
      have hkind := kind_eq_of_append (.bool value) hother htext
      cases other with
      | bool value' =>
          have hvalue : value = value' := by
            cases value with
            | false =>
                cases value' with
                | false => rfl
                | true => cases (List.cons.inj htext).1
            | true =>
                cases value' with
                | false => cases (List.cons.inj htext).1
                | true => rfl
          subst hvalue
          exact ⟨.bool value, List.append_cancel_left htext⟩
      | _ => cases hkind
  | @number value h =>
      intro other rest rest' hother hrest hrest' htext
      have hkind := kind_eq_of_append (.number h) hother htext
      cases hother with
      | @number value' h' =>
          obtain ⟨rfl, hrest⟩ := numberText_append_inj h h' hrest hrest' htext
          exact ⟨.number value, hrest⟩
      | _ => cases hkind
  | string value =>
      intro other rest rest' hother hrest hrest' htext
      have hkind := kind_eq_of_append (.string value) hother htext
      cases other with
      | string value' =>
          unfold chars at htext
          rw [stableJson, stableJson] at htext
          obtain ⟨rfl, hrest⟩ := quote_append_inj htext
          exact ⟨.string value, hrest⟩
      | _ => cases hkind
  | @array items h ih =>
      intro other rest rest' hother hrest hrest' htext
      have hkind := kind_eq_of_append (.array h) hother htext
      cases hother with
      | @array items' h' =>
          rw [chars_array, chars_array] at htext
          simp only [List.cons_append, List.append_assoc, List.nil_append] at htext
          obtain ⟨hall, hrest⟩ := readBack_list (hends (by decide)) (hends (by decide)) (by decide)
            (fun value hvalue => chars_append_ne hvalue) ih h h' (List.cons.inj htext).2
          refine ⟨.array hall.length_eq fun i item item' hitem hitem' => ?_, hrest⟩
          obtain ⟨hi, rfl⟩ := List.getElem?_eq_some_iff.1 hitem
          obtain ⟨hi', rfl⟩ := List.getElem?_eq_some_iff.1 hitem'
          exact hall.get hi hi'
      | _ => cases hkind
  | @object fields hkeys h ih =>
      intro other rest rest' hother hrest hrest' htext
      have hkind := kind_eq_of_append (.object hkeys h) hother htext
      cases hother with
      | @object fields' hkeys' h' =>
          rw [chars_object, chars_object] at htext
          simp only [List.cons_append, List.append_assoc, List.nil_append] at htext
          obtain ⟨hall, hrest⟩ := @readBack_list _ _ (fun field => WellFormed field.2) SameField
            Ends fieldChars ',' '\x7d' (hends (by decide)) (hends (by decide)) (by decide)
            (fun field _ => fieldChars_append_ne field) _ _
            (fun field hfield => readBack_field (ih field ((List.mem_insertionSort _).1 hfield)))
            (fun field hfield => h field ((List.mem_insertionSort _).1 hfield))
            (fun field hfield => h' field ((List.mem_insertionSort _).1 hfield))
            _ _ (List.cons.inj htext).2
          exact ⟨same_object hkeys' hall, hrest⟩
      | _ => cases hkind

def sampleBody : Json :=
  .object [("b", .number (1 / 2)), ("a", .array [.null, .string "x"])]

def sampleBodyReordered : Json :=
  .object [("a", .array [.null, .string "x"]), ("b", .number (1 / 2))]

theorem wellFormed_sample : sampleBody.WellFormed ∧ sampleBodyReordered.WellFormed := by
  have hnumber : WellFormed (.number (1 / 2)) := .number (by decide +kernel)
  have harray : WellFormed (.array [.null, .string "x"]) := by
    refine .array fun item hitem => ?_
    rcases List.mem_pair.1 hitem with rfl | rfl
    · exact .null
    · exact .string "x"
  constructor
  · refine .object (by decide) fun field hfield => ?_
    rcases List.mem_pair.1 hfield with rfl | rfl
    · exact hnumber
    · exact harray
  · refine .object (by decide) fun field hfield => ?_
    rcases List.mem_pair.1 hfield with rfl | rfl
    · exact harray
    · exact hnumber

end AbrChin.Js.Json
