import AbrChin.Js.Json
import AbrChin.Js.Sort
import AbrChin.Js.Url
import AbrChin.S2S.Hmac
import Mathlib.Data.List.Dedup
import Mathlib.Data.List.Perm.Lattice

/-!
# What a canonical string says

The string that is signed determines the content of a request up to what the two sides write
differently: the case of the method and the nonce, spaces around the identity, the order and the
escapes of the query.

* *The query.*  Sorting the parameters loses only their order, and what is written is read back, so
  that a canonical query has its own parameters and two of them are equal exactly when the
  parameters are the same up to their order.
* *The lines.*  The parts are joined by newlines.  The query and the hash have none, but a method, a
  path or an identity with a newline would be read as two lines.
-/

namespace AbrChin.S2S

open Js

/-- The runtime, but for its hash functions. -/
def runtime (sha256 : Bytes → Bytes) (hmacSha256 : Bytes → Bytes → Bytes) : Web where
  sha256
  hmacSha256
  searchParams := Js.searchParams
  encodeURIComponent := Js.encodeURIComponent

variable {sha256 : Bytes → Bytes} {hmacSha256 : Bytes → Bytes → Bytes}

/-! ## Queries -/

/-- A query without the question mark in front of it. -/
def rawParams (rawQuery : String) : String :=
  if rawQuery.startsWith "?" then (rawQuery.drop 1).toString else rawQuery

/-- The parameters of a query, decoded. -/
def queryParams (rawQuery : String) : List (String × String) := Js.searchParams (rawParams rawQuery)

/-- The parameters by their names, and those of one name by their values. -/
def sortParams (params : List (String × String)) : List (String × String) :=
  (Js.sort (params.map Prod.fst).dedup).flatMap fun key =>
    (Js.sort ((params.filter fun param => param.1 = key).map Prod.snd)).map fun value =>
      (key, value)

theorem toList_queryEscape (value : String) :
    (queryEscape (runtime sha256 hmacSha256) value).toList = value.toList.flatMap formChar :=
  replace_encodeURIComponent value

/-- A canonical query is the sorted parameters, written again. -/
theorem canonicalQuery_eq (rawQuery : String) :
    canonicalQuery (runtime sha256 hmacSha256) rawQuery =
      String.ofList (formQuery (sortParams (queryParams rawQuery))) := by
  have hquery : canonicalQuery (runtime sha256 hmacSha256) rawQuery =
      if rawParams rawQuery = "" then ""
      else
        "&".intercalate ((Js.sort ((queryParams rawQuery).map Prod.fst).dedup).flatMap fun key =>
          (Js.sort (((queryParams rawQuery).filter fun param => param.1 = key).map Prod.snd)).map
            fun value => queryEscape (runtime sha256 hmacSha256) key ++ "=" ++
              queryEscape (runtime sha256 hmacSha256) value) := rfl
  apply String.toList_injective
  rw [String.toList_ofList, hquery]
  by_cases hempty : rawParams rawQuery = ""
  · rw [if_pos hempty, queryParams, hempty]
    rfl
  · rw [if_neg hempty, String.toList_intercalate, formQuery, sortParams]
    refine congrArg (['&'].intercalate ·) ?_
    rw [List.map_flatMap, List.map_flatMap]
    refine List.flatMap_congr fun key _ => ?_
    rw [List.map_map, List.map_map]
    refine List.map_congr_left fun value _ => ?_
    show (queryEscape (runtime sha256 hmacSha256) key ++ "=" ++
      queryEscape (runtime sha256 hmacSha256) value).toList = _
    rw [String.toList_append, String.toList_append, toList_queryEscape, toList_queryEscape,
      List.append_assoc]
    rfl

/-- Each name with its values makes up all parameters. -/
theorem flatMap_filter_perm {keys : List String} (hkeys : keys.Nodup)
    {params : List (String × String)} (hall : ∀ param ∈ params, param.1 ∈ keys) :
    (keys.flatMap fun key => params.filter fun param => param.1 = key).Perm params := by
  induction keys generalizing params with
  | nil =>
      have hempty : params = [] := List.eq_nil_iff_forall_not_mem.2 fun param hparam => by
        cases hall param hparam
      rw [hempty]
      rfl
  | cons key rest ih =>
      obtain ⟨hfresh, hrest⟩ := List.nodup_cons.1 hkeys
      -- what is left has other names
      have hothers : (rest.flatMap fun other => params.filter fun param => param.1 = other).Perm
          (params.filter fun param => !decide (param.1 = key)) := by
        have hsame : (rest.flatMap fun other => params.filter fun param => param.1 = other) =
            rest.flatMap fun other => (params.filter fun param => !decide (param.1 = key)).filter
              fun param => param.1 = other := by
          refine List.flatMap_congr fun other hother => ?_
          rw [List.filter_filter]
          refine List.filter_congr fun param _ => ?_
          by_cases hparam : param.1 = other
          · have hne : param.1 ≠ key := fun h => hfresh (h ▸ hparam ▸ hother)
            simp [hparam, hparam ▸ hne]
          · simp [hparam]
        rw [hsame]
        refine ih hrest fun param hparam => ?_
        obtain ⟨hmem, hne⟩ := List.mem_filter.1 hparam
        have hne : param.1 ≠ key := by simpa using hne
        exact (List.mem_cons.1 (hall param hmem)).resolve_left hne
      rw [List.flatMap_cons]
      exact (List.Perm.append_left _ hothers).trans (List.filter_append_perm _ params)

/-- Sorting keeps the parameters. -/
theorem sortParams_perm (params : List (String × String)) : (sortParams params).Perm params := by
  have hkeys : (Js.sort (params.map Prod.fst).dedup).Nodup :=
    (sort_perm _).nodup_iff.2 (List.nodup_dedup _)
  have hall : ∀ param ∈ params, param.1 ∈ Js.sort (params.map Prod.fst).dedup := fun param hparam =>
    (sort_perm _).mem_iff.2 (List.mem_dedup.2 (List.mem_map_of_mem hparam))
  refine List.Perm.trans ?_ (flatMap_filter_perm hkeys hall)
  refine List.Perm.flatMap_left _ fun key _ => ?_
  have hvalues := (sort_perm ((params.filter fun param => param.1 = key).map Prod.snd)).map
    (Prod.mk key)
  have hsame : ((params.filter fun param => param.1 = key).map Prod.snd).map (Prod.mk key) =
      params.filter fun param => param.1 = key := by
    rw [List.map_map]
    conv_rhs => rw [← List.map_id (params.filter fun param => param.1 = key)]
    refine List.map_congr_left fun param hparam => ?_
    have hkey : param.1 = key := by simpa using (List.mem_filter.1 hparam).2
    rw [← hkey]
    rfl
  rwa [hsame] at hvalues

/-- Parameters in another order are sorted alike. -/
theorem sortParams_eq_of_perm {params params' : List (String × String)} (h : params.Perm params') :
    sortParams params = sortParams params' := by
  have hkeys : Js.sort (params.map Prod.fst).dedup = Js.sort (params'.map Prod.fst).dedup :=
    sort_eq_of_perm (h.map _).dedup
  rw [sortParams, sortParams, hkeys]
  refine List.flatMap_congr fun key _ => ?_
  rw [sort_eq_of_perm ((h.filter fun param => param.1 = key).map Prod.snd)]

theorem head_formQuery (params : List (String × String)) :
    ¬ (String.ofList (formQuery params)).startsWith "?" = true := by
  rw [String.startsWith_string_iff]
  intro hprefix
  have hmem : '?' ∈ (String.ofList (formQuery params)).toList :=
    hprefix.subset List.mem_cons_self
  rw [String.toList_ofList] at hmem
  rcases mem_formQuery hmem with h | h | h
  · rw [isFormChar_eq_false (by simp)] at h
    cases h
  · cases h
  · cases h

/-- A canonical query has the parameters of the query. -/
theorem queryParams_canonicalQuery (rawQuery : String) :
    queryParams (canonicalQuery (runtime sha256 hmacSha256) rawQuery) =
      sortParams (queryParams rawQuery) := by
  rw [canonicalQuery_eq, queryParams, rawParams, if_neg (head_formQuery _), searchParams_formQuery]

theorem canonicalQuery_eq_iff {rawQuery rawQuery' : String} :
    canonicalQuery (runtime sha256 hmacSha256) rawQuery =
        canonicalQuery (runtime sha256 hmacSha256) rawQuery' ↔
      (queryParams rawQuery).Perm (queryParams rawQuery') := by
  constructor
  · intro h
    have hsorted : sortParams (queryParams rawQuery) = sortParams (queryParams rawQuery') := by
      rw [← @queryParams_canonicalQuery sha256 hmacSha256, h, queryParams_canonicalQuery]
    have hperm := sortParams_perm (queryParams rawQuery)
    rw [hsorted] at hperm
    exact hperm.symm.trans (sortParams_perm _)
  · intro h
    rw [canonicalQuery_eq, canonicalQuery_eq, sortParams_eq_of_perm h]

theorem canonicalQuery_canonicalQuery (rawQuery : String) :
    canonicalQuery (runtime sha256 hmacSha256)
        (canonicalQuery (runtime sha256 hmacSha256) rawQuery) =
      canonicalQuery (runtime sha256 hmacSha256) rawQuery := by
  rw [canonicalQuery_eq_iff, queryParams_canonicalQuery]
  exact sortParams_perm _

/-! ## Lines -/

/-- The text has no newline. -/
def OneLine (text : String) : Prop := '\n' ∉ text.toList

instance (text : String) : Decidable (OneLine text) := inferInstanceAs (Decidable (¬ _))

/-- Lines that are joined can be told apart. -/
theorem intercalate_inj {lines lines' : List String} (hlines : ∀ line ∈ lines, OneLine line)
    (hlines' : ∀ line ∈ lines', OneLine line) (hne : lines ≠ []) (hne' : lines' ≠ [])
    (h : "\n".intercalate lines = "\n".intercalate lines') : lines = lines' := by
  have hsplit {lines : List String} (hlines : ∀ line ∈ lines, OneLine line) (hne : lines ≠ []) :
      (("\n".intercalate lines).toList).splitOn '\n' = lines.map String.toList := by
    rw [String.toList_intercalate]
    refine List.splitOn_intercalate '\n' (fun line hline => ?_) (by simpa using hne)
    obtain ⟨line, hmem, rfl⟩ := List.mem_map.1 hline
    exact hlines line hmem
  refine List.map_injective_iff.2 (fun _ _ h => String.toList_injective h) ?_
  rw [← hsplit hlines hne, ← hsplit hlines' hne', h]

theorem OneLine.trim {text : String} (h : OneLine text) : OneLine (Js.trim text) := by
  intro hmem
  rw [toList_trim] at hmem
  exact h ((List.dropWhile_suffix _).subset ((List.rdropWhile_prefix _ _).subset hmem))

/-- Folding cases makes no newlines. -/
theorem OneLine.map {text : String} (h : OneLine text) {f : Char → Char}
    (hf : ∀ c, f c = '\n' → c = '\n') : OneLine (text.map f) := by
  intro hmem
  rw [String.toList_map] at hmem
  obtain ⟨c, hc, hfc⟩ := List.mem_map.1 hmem
  exact h (hf c hfc ▸ hc)

theorem OneLine.toUpperCase {text : String} (h : OneLine text) : OneLine (Js.toUpperCase text) := by
  refine h.map fun c hc => ?_
  unfold Char.toUpper at hc
  split at hc
  · next hlower =>
      exfalso
      have hbounds : 97 ≤ c.val.toNat ∧ c.val.toNat ≤ 122 :=
        ⟨UInt32.le_iff_toNat_le.1 hlower.1, UInt32.le_iff_toNat_le.1 hlower.2⟩
      have hnat := congrArg UInt32.toNat (congrArg Char.val hc)
      simp only [UInt32.toNat_add] at hnat
      rw [show ('A'.val - 'a'.val).toNat = 4294967264 by decide,
        show '\n'.val.toNat = 10 by decide] at hnat
      omega
  · exact hc

theorem toNat_ofNat {n : ℕ} (h : n < 0xD800) : (Char.ofNat n).toNat = n := by
  rw [Char.ofNat, dif_pos (.inl h)]
  rfl

theorem OneLine.toLowerCase {text : String} (h : OneLine text) : OneLine (Js.toLowerCase text) := by
  refine h.map fun c hc => ?_
  split at hc
  · next hupper =>
      have hlt : c.toNat + 0x20 < 0xD800 := by
        rcases Bool.or_eq_true_iff.1 hupper with hupper | hupper
        · have hbounds : 65 ≤ c.toNat ∧ c.toNat ≤ 90 := by
            simpa [Js.isUpper_eq, UInt32.le_iff_toNat_le] using hupper
          omega
        · have hbounds : (0xC0 ≤ c.toNat ∧ c.toNat ≤ 0xDE) ∧ c.val ≠ 0xD7 := by
            simpa [UInt32.le_iff_toNat_le] using hupper
          omega
      have hnat : (Char.ofNat (c.toNat + 0x20)).toNat = c.toNat + 0x20 :=
        toNat_ofNat hlt
      rw [hc] at hnat
      have hten : '\n'.toNat = 10 := rfl
      omega
  · exact hc

theorem OneLine.canonicalPath {path : String} (h : OneLine path) :
    OneLine (S2S.canonicalPath path) := by
  unfold S2S.canonicalPath
  by_cases hempty : Js.trim path = ""
  · rw [if_pos hempty]
    decide
  rw [if_neg hempty]
  by_cases hslash : (Js.trim path).startsWith "/" = true
  · rw [if_pos hslash]
    exact h.trim
  · rw [if_neg hslash]
    intro hmem
    have hmem : '\n' ∈ ("/" ++ Js.trim path).toList := hmem
    rw [String.toList_append] at hmem
    rcases List.mem_append.1 hmem with hmem | hmem
    · exact absurd hmem (by decide)
    · exact h.trim hmem

theorem oneLine_canonicalQuery (rawQuery : String) :
    OneLine (canonicalQuery (runtime sha256 hmacSha256) rawQuery) := by
  intro hmem
  rw [canonicalQuery_eq, String.toList_ofList] at hmem
  rcases mem_formQuery hmem with h | h | h
  · rw [isFormChar_eq_false (by simp)] at h
    cases h
  · cases h
  · cases h

/-- The characters of a hash. -/
theorem exists_digit_of_mem_toHex {bytes : Bytes} {c : Char} (h : c ∈ (toHex bytes).toList) :
    ∃ n < 16, c = Nat.digitChar n := by
  rw [toHex, String.toList_ofList] at h
  obtain ⟨byte, -, hc⟩ := List.mem_flatMap.1 h
  obtain ⟨hhigh, hlow⟩ := digits_lt byte
  rcases List.mem_pair.1 hc with rfl | rfl
  · exact ⟨_, hhigh, rfl⟩
  · exact ⟨_, hlow, rfl⟩

theorem oneLine_toHex (bytes : Bytes) : OneLine (toHex bytes) := by
  intro hmem
  obtain ⟨n, hn, hdigit⟩ := exists_digit_of_mem_toHex hmem
  have hall : ∀ n < 16, '\n' ≠ Nat.digitChar n := by decide
  exact hall n hn hdigit

theorem oneLine_toString (n : ℤ) : OneLine (toString n) := by
  intro hmem
  obtain ⟨m, ⟨htext, -⟩ | ⟨htext, -⟩⟩ := Json.toList_toString n
  · rw [htext] at hmem
    exact absurd (Json.isDigit_of_mem_repr hmem) (by decide)
  · rw [htext] at hmem
    rcases List.mem_cons.1 hmem with hsign | hmem
    · cases hsign
    · exact absurd (Json.isDigit_of_mem_repr hmem) (by decide)

theorem toString_injective {n m : ℤ} (h : toString n = toString m) : n = m := by
  rw [← (Json.toBigInt_toString n).2.1, h, (Json.toBigInt_toString m).2.1]

/-! ## The signed string -/

/-- The parts of a request that may be written in its string have no newline. -/
structure S2SFields.OneLine (fields : S2SFields) : Prop where
  method : S2S.OneLine fields.method
  path : S2S.OneLine fields.path
  serviceId : S2S.OneLine fields.serviceId
  keyId : S2S.OneLine fields.keyId
  nonce : S2S.OneLine fields.nonce
  contractId : S2S.OneLine fields.contractId
  contractVersion : S2S.OneLine fields.contractVersion

/-- Two requests have the same content. -/
structure SameContent (web : Web) (first second : S2SFields) : Prop where
  method : Js.trim (Js.toUpperCase first.method) = Js.trim (Js.toUpperCase second.method)
  path : canonicalPath first.path = canonicalPath second.path
  query : (queryParams first.rawQuery).Perm (queryParams second.rawQuery)
  bodyHash : bodySha256 web first.body = bodySha256 web second.body
  serviceId : Js.trim first.serviceId = Js.trim second.serviceId
  keyId : Js.trim first.keyId = Js.trim second.keyId
  timestamp : first.timestampUnix = second.timestampUnix
  nonce : Js.toLowerCase (Js.trim first.nonce) = Js.toLowerCase (Js.trim second.nonce)
  contractId : Js.trim first.contractId = Js.trim second.contractId
  contractVersion : Js.trim first.contractVersion = Js.trim second.contractVersion

/-- The lines of the signed string. -/
def canonicalLines (web : Web) (fields : S2SFields) : List String :=
  [S2S_PROTOCOL, Js.trim (Js.toUpperCase fields.method), canonicalPath fields.path,
    canonicalQuery web fields.rawQuery, bodySha256 web fields.body, Js.trim fields.serviceId,
    Js.trim fields.keyId, toString fields.timestampUnix, Js.toLowerCase (Js.trim fields.nonce),
    Js.trim fields.contractId, Js.trim fields.contractVersion]

theorem canonicalString_eq (web : Web) (fields : S2SFields) :
    canonicalString web fields = "\n".intercalate (canonicalLines web fields) := rfl

theorem S2SFields.OneLine.lines {fields : S2SFields} (h : fields.OneLine) :
    ∀ line ∈ canonicalLines (runtime sha256 hmacSha256) fields, S2S.OneLine line := by
  intro line hline
  simp only [canonicalLines, List.mem_cons, List.not_mem_nil, or_false] at hline
  rcases hline with rfl | rfl | rfl | rfl | rfl | rfl | rfl | rfl | rfl | rfl | rfl
  · decide
  · exact h.method.toUpperCase.trim
  · exact h.path.canonicalPath
  · exact oneLine_canonicalQuery _
  · exact oneLine_toHex _
  · exact h.serviceId.trim
  · exact h.keyId.trim
  · exact oneLine_toString _
  · exact h.nonce.trim.toLowerCase
  · exact h.contractId.trim
  · exact h.contractVersion.trim

/-- Requests of one line have the same string exactly when they have the same content. -/
theorem canonicalString_eq_iff {first second : S2SFields} (h₁ : first.OneLine)
    (h₂ : second.OneLine) : canonicalString (runtime sha256 hmacSha256) first =
      canonicalString (runtime sha256 hmacSha256) second ↔
        SameContent (runtime sha256 hmacSha256) first second := by
  constructor
  · intro h
    have hlines := intercalate_inj h₁.lines h₂.lines (by simp [canonicalLines])
      (by simp [canonicalLines]) h
    simp only [canonicalLines, List.cons.injEq, and_true, true_and] at hlines
    obtain ⟨hmethod, hpath, hquery, hbody, hservice, hkey, htime, hnonce, hcontract, hversion⟩ :=
      hlines
    exact ⟨hmethod, hpath, canonicalQuery_eq_iff.1 hquery, hbody, hservice, hkey,
      toString_injective htime, hnonce, hcontract, hversion⟩
  · intro h
    rw [canonicalString_eq, canonicalString_eq, canonicalLines, canonicalLines, h.method, h.path,
      canonicalQuery_eq_iff.2 h.query, h.bodyHash, h.serviceId, h.keyId, h.timestamp, h.nonce,
      h.contractId, h.contractVersion]

end AbrChin.S2S
