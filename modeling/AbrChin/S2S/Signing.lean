import AbrChin.S2S.Canonical
import AbrChin.S2S.Keyring

/-!
# Signing a request

`applyHeaders` and `signRequest` of `lib/messagego/s2s/hmac.ts`, and what the other side makes of
the headers: it signs the fields that it has read, and compares.  The fields that are read are not
the ones that were written (they are trimmed, by the `Headers` class and once more, and the nonce is
in lower case), but they have the same canonical string.
-/

namespace AbrChin.S2S

open Lib Js

/-! ## Headers -/

inductive SignFailure where
  | s2s (error : S2SError)
  /-- The `TypeError` of a value that no header can have. -/
  | typeError
  deriving DecidableEq

/-- The white space that `Headers` removes at the ends of a value. -/
def isHeaderSpace (c : Char) : Bool := c.val ∈ [0x9, 0xA, 0xD, 0x20]

/-- The characters of a value: bytes, but for NUL, newline and carriage return. -/
def isHeaderChar (c : Char) : Bool := c.val ≤ 0xFF && c.val ∉ [0x0, 0xA, 0xD]

def normalizeValue (value : String) : String :=
  String.ofList (((value.toList.dropWhile isHeaderSpace).reverse.dropWhile isHeaderSpace).reverse)

/-- `headers.set` -/
def setHeader (headers : List (String × String)) (name value : String) :
    Except SignFailure (List (String × String)) :=
  if (normalizeValue value).toList.all isHeaderChar = true then
    .ok ((name, normalizeValue value) :: headers.filter (·.1 ≠ name))
  else .error .typeError

/-- One header after the other. -/
def setHeaders (headers : List (String × String)) :
    List (String × String) → Except SignFailure (List (String × String))
  | [] => .ok headers
  | (name, value) :: rest => do
      let headers ← setHeader headers name value
      setHeaders headers rest

/-- The headers of a signed request. -/
def s2sHeaders (web : Web) (fields : S2SFields) (signature : String) : List (String × String) := [
  ("x-messagego-s2s-version", S2S_PROTOCOL),
  ("x-messagego-s2s-service-id", fields.serviceId),
  ("x-messagego-s2s-key-id", fields.keyId),
  ("x-messagego-s2s-timestamp", toString fields.timestampUnix),
  ("x-messagego-s2s-nonce", fields.nonce),
  ("x-messagego-s2s-content-sha256", bodySha256 web fields.body),
  ("x-messagego-s2s-contract-id", fields.contractId),
  ("x-messagego-s2s-contract-version", fields.contractVersion),
  ("x-messagego-s2s-signature", signature)]

/-- `applyHeaders` -/
def applyHeaders (web : Web) (headers : List (String × String)) (fields : S2SFields)
    (signature : String) : Except SignFailure (List (String × String)) :=
  setHeaders headers (s2sHeaders web fields signature)

/-! ## Signing -/

/-- What a request is signed for; `random` are the bytes of `randomNonce`. -/
structure SignRequest where
  serviceId : String
  method : String
  path : String
  rawQuery : String
  body : Bytes
  contractId : String
  contractVersion : String
  now : ℤ
  random : Bytes
  length_random : random.length = 16

def SignRequest.fields (input : SignRequest) (keyId : String) : S2SFields where
  method := input.method
  path := input.path
  rawQuery := input.rawQuery
  body := input.body
  serviceId := input.serviceId
  keyId
  timestampUnix := input.now
  nonce := toHex input.random
  contractId := input.contractId
  contractVersion := input.contractVersion

/-- `signRequest`: the fields, and the headers. -/
def signRequest (web : Web) (headers : List (String × String)) (ring : S2SKeyring)
    (direction : S2SDirection) (input : SignRequest) :
    Except SignFailure (S2SFields × List (String × String)) := do
  let key ← (activeSigner ring direction).mapError .s2s
  let fields := input.fields key.keyId
  let signature ← (sign web key.secret fields).mapError .s2s
  let headers ← applyHeaders web headers fields signature
  pure (fields, headers)

/-- The request with the headers, as the other side gets it. -/
def SignRequest.request (input : SignRequest) (headers : List (String × String)) : Request where
  method := input.method
  pathname := input.path
  rawQuery := input.rawQuery
  headers
  rawBody := input.body

theorem mapError_eq_ok {ε ε' α : Type} {f : ε → ε'} {x : Except ε α} {a : α} :
    x.mapError f = .ok a ↔ x = .ok a := by
  cases x with
  | error e => exact ⟨nofun, nofun⟩
  | ok b => exact ⟨fun h => congrArg _ (Except.ok.inj h), fun h => congrArg _ (Except.ok.inj h)⟩

/-! ## Trimming twice -/

theorem trimmed_append {α : Type} {p : α → Bool} {before text after : List α}
    (hbefore : ∀ a ∈ before, p a = true) (hafter : ∀ a ∈ after, p a = true) :
    ((before ++ text ++ after).dropWhile p).rdropWhile p = (text.dropWhile p).rdropWhile p := by
  have hdrop (text : List α) : (text ++ after).rdropWhile p = text.rdropWhile p := by
    unfold List.rdropWhile
    rw [List.reverse_append, List.dropWhile_append_of_pos fun a ha =>
      hafter a (List.mem_reverse.1 ha)]
  rw [List.append_assoc, List.dropWhile_append_of_pos hbefore, List.dropWhile_append]
  by_cases hempty : (text.dropWhile p).isEmpty = true
  · rw [if_pos hempty, List.isEmpty_iff.1 hempty, List.dropWhile_eq_nil_iff.2 hafter]
  · rw [if_neg hempty, hdrop]

theorem isWhiteSpace_of_isHeaderSpace {c : Char} (h : isHeaderSpace c = true) :
    isWhiteSpace c = true := by
  simp only [isHeaderSpace, decide_eq_true_eq, List.mem_cons, List.not_mem_nil, or_false] at h
  rcases h with h | h | h | h <;> simp [isWhiteSpace, h]

/-- What `Headers` removes would be trimmed anyway. -/
theorem trim_normalizeValue (value : String) : Js.trim (normalizeValue value) = Js.trim value := by
  have hparts : value.toList = value.toList.takeWhile isHeaderSpace ++
      (normalizeValue value).toList ++
        (value.toList.dropWhile isHeaderSpace).rtakeWhile isHeaderSpace := by
    rw [normalizeValue, String.toList_ofList, List.append_assoc]
    show _ = _ ++ ((value.toList.dropWhile isHeaderSpace).rdropWhile isHeaderSpace ++ _)
    rw [List.rdropWhile_append_rtakeWhile, List.takeWhile_append_dropWhile]
  apply String.toList_injective
  rw [toList_trim, toList_trim, hparts, trimmed_append]
  · intro c hc
    exact isWhiteSpace_of_isHeaderSpace (List.mem_takeWhile_imp hc)
  · intro c hc
    exact isWhiteSpace_of_isHeaderSpace (List.mem_rtakeWhile_imp hc)

/-! ## Reading what was set -/

/-- A text that a header can have. -/
def IsHeaderText (value : String) : Prop := (normalizeValue value).toList.all isHeaderChar = true

instance (value : String) : Decidable (IsHeaderText value) :=
  inferInstanceAs (Decidable ((normalizeValue value).toList.all isHeaderChar = true))

theorem mem_of_mem_normalizeValue {value : String} {c : Char}
    (h : c ∈ (normalizeValue value).toList) : c ∈ value.toList := by
  rw [normalizeValue, String.toList_ofList, List.mem_reverse] at h
  have hmem := List.mem_reverse.1 ((List.dropWhile_suffix _).subset h)
  exact (List.dropWhile_suffix _).subset hmem

/-- A value without white space is kept as it is. -/
theorem normalizeValue_eq_self {value : String} (h : ∀ c ∈ value.toList, isHeaderSpace c = false) :
    normalizeValue value = value := by
  have hkeep {chars : List Char} (hchars : ∀ c ∈ chars, isHeaderSpace c = false) :
      chars.dropWhile isHeaderSpace = chars :=
    List.dropWhile_eq_self_iff.2 fun hpos => by simp [hchars _ (List.getElem_mem hpos)]
  apply String.toList_injective
  rw [normalizeValue, String.toList_ofList, hkeep h,
    hkeep fun c hc => h c (List.mem_reverse.1 hc), List.reverse_reverse]

theorem lookup_filter_ne {headers : List (String × String)} {name other : String}
    (h : other ≠ name) : (headers.filter (·.1 ≠ name)).lookup other = headers.lookup other := by
  induction headers with
  | nil => rfl
  | cons header rest ih =>
      obtain ⟨key, value⟩ := header
      by_cases hkey : key = name
      · have hother : (other == key) = false := by simpa [hkey] using h
        rw [List.filter_cons_of_neg (by simpa using hkey), ih, List.lookup_cons, hother]
      · rw [List.filter_cons_of_pos (by simpa using hkey), List.lookup_cons, List.lookup_cons, ih]

theorem isHeaderText_of_chars {value : String} (h : ∀ c ∈ value.toList, isHeaderChar c = true) :
    IsHeaderText value :=
  List.all_eq_true.2 fun c hc => h c (mem_of_mem_normalizeValue hc)

theorem setHeader_ok {headers out : List (String × String)} {name value : String} :
    setHeader headers name value = .ok out ↔
      IsHeaderText value ∧ out = (name, normalizeValue value) :: headers.filter (·.1 ≠ name) := by
  unfold setHeader
  by_cases htext : (normalizeValue value).toList.all isHeaderChar = true
  · rw [if_pos htext]
    constructor
    · intro h
      exact ⟨htext, (Except.ok.inj h).symm⟩
    · rintro ⟨-, rfl⟩
      rfl
  · rw [if_neg htext]
    constructor
    · intro h
      cases h
    · rintro ⟨h, -⟩
      exact absurd h htext

/-- Headers that can be set are. -/
theorem setHeaders_ok {pairs : List (String × String)} (headers : List (String × String))
    (htext : ∀ pair ∈ pairs, IsHeaderText pair.2) : ∃ out, setHeaders headers pairs = .ok out := by
  induction pairs generalizing headers with
  | nil => exact ⟨headers, rfl⟩
  | cons pair rest ih =>
      obtain ⟨hfirst, hrest⟩ := List.forall_mem_cons.1 htext
      obtain ⟨out, hout⟩ :=
        ih ((pair.1, normalizeValue pair.2) :: headers.filter (·.1 ≠ pair.1)) hrest
      refine ⟨out, ?_⟩
      rw [setHeaders, setHeader_ok.2 ⟨hfirst, rfl⟩]
      exact hout

/-- Each header is read as it was set. -/
theorem setHeaders_lookup {pairs headers out : List (String × String)}
    (h : setHeaders headers pairs = .ok out) (hnames : (pairs.map Prod.fst).Nodup) :
    (∀ pair ∈ pairs, IsHeaderText pair.2) ∧
      (∀ pair ∈ pairs, out.lookup pair.1 = some (normalizeValue pair.2)) ∧
      ∀ name ∉ pairs.map Prod.fst, out.lookup name = headers.lookup name := by
  induction pairs generalizing headers with
  | nil =>
      cases h
      exact ⟨List.forall_mem_nil _, List.forall_mem_nil _, fun _ _ => rfl⟩
  | cons pair rest ih =>
      obtain ⟨hfresh, hrest⟩ := List.nodup_cons.1 hnames
      obtain ⟨next, hnext, h⟩ := bind_eq_ok.1 h
      obtain ⟨htext, rfl⟩ := setHeader_ok.1 hnext
      obtain ⟨htexts, hset, hkept⟩ := ih h hrest
      refine ⟨List.forall_mem_cons.2 ⟨htext, htexts⟩, List.forall_mem_cons.2 ⟨?_, hset⟩, ?_⟩
      · rw [hkept _ hfresh, List.lookup_cons_self]
      · intro name hname
        obtain ⟨hne, hname⟩ := not_or.1 (mt List.mem_cons.2 hname)
        have hother : (name == pair.1) = false := by simpa using hne
        rw [hkept name hname, List.lookup_cons, hother, lookup_filter_ne hne]

/-! ## Digits -/

/-- A digit of a hash has a value, is in lower case, and can stand in a header. -/
theorem hexValue_digitChar {n : ℕ} (h : n < 16) : hexValue (Nat.digitChar n) = some n := by
  have hall : ∀ n < 16, hexValue (Nat.digitChar n) = some n := by decide
  exact hall n h

theorem fromHex_toHex (bytes : Bytes) : fromHex (toHex bytes).toList = bytes := by
  rw [toHex, String.toList_ofList]
  induction bytes with
  | nil => rfl
  | cons byte rest ih =>
      obtain ⟨hhigh, hlow⟩ := digits_lt byte
      have hbyte : 16 * (byte.toNat / 16) + byte.toNat % 16 = byte.toNat := by omega
      show fromHex (Nat.digitChar (byte.toNat / 16) :: Nat.digitChar (byte.toNat % 16) :: _) = _
      rw [fromHex, hexValue_digitChar hhigh, hexValue_digitChar hlow]
      simp only [hbyte, UInt8.ofNat_toNat]
      exact congrArg (byte :: ·) ih

theorem toHex_injective : Function.Injective toHex := by
  intro bytes bytes' h
  rw [← fromHex_toHex bytes, h, fromHex_toHex]

theorem toHex_chars {bytes : Bytes} {c : Char} (h : c ∈ (toHex bytes).toList) :
    isWhiteSpace c = false ∧ isHeaderSpace c = false ∧ isHeaderChar c = true ∧
      (c.isUpper || (0xC0 ≤ c.val && c.val ≤ 0xDE && c.val ≠ 0xD7)) = false := by
  obtain ⟨n, hn, rfl⟩ := exists_digit_of_mem_toHex h
  have hall : ∀ n < 16, isWhiteSpace (Nat.digitChar n) = false ∧
      isHeaderSpace (Nat.digitChar n) = false ∧ isHeaderChar (Nat.digitChar n) = true ∧
      ((Nat.digitChar n).isUpper || (0xC0 ≤ (Nat.digitChar n).val && (Nat.digitChar n).val ≤ 0xDE &&
        (Nat.digitChar n).val ≠ 0xD7)) = false := by decide
  exact hall n hn

theorem trim_toHex (bytes : Bytes) : Js.trim (toHex bytes) = toHex bytes :=
  trim_eq_self fun _ hc => (toHex_chars hc).1

theorem toLowerCase_toHex (bytes : Bytes) : Js.toLowerCase (toHex bytes) = toHex bytes := by
  apply String.toList_injective
  rw [Js.toLowerCase, String.toList_map]
  conv_rhs => rw [← List.map_id (toHex bytes).toList]
  refine List.map_congr_left fun c hc => ?_
  rw [if_neg (by rw [(toHex_chars hc).2.2.2]; exact Bool.false_ne_true)]
  rfl

theorem normalizeValue_toHex (bytes : Bytes) : normalizeValue (toHex bytes) = toHex bytes :=
  normalizeValue_eq_self fun _ hc => (toHex_chars hc).2.1

theorem isHeaderText_toHex (bytes : Bytes) : IsHeaderText (toHex bytes) :=
  isHeaderText_of_chars fun _ hc => (toHex_chars hc).2.2.1

theorem compareSignature_toHex {bytes : Bytes} (h : bytes ≠ []) :
    compareSignature (toHex bytes) (toHex bytes) = true := by
  have hlength : bytes.length ≠ 0 := fun hzero => h (List.length_eq_zero_iff.1 hzero)
  rw [compareSignature, trim_toHex, fromHex_toHex]
  simp [hlength]

/-! ## Timestamps -/

theorem toString_chars {n : ℤ} {c : Char} (h : c ∈ (toString n).toList) :
    isHeaderSpace c = false ∧ isHeaderChar c = true := by
  have hdigit {c : Char} (h : c.isDigit = true) :
      isHeaderSpace c = false ∧ isHeaderChar c = true := by
    have hrange : 48 ≤ c.val.toNat ∧ c.val.toNat ≤ 57 := by
      simpa [Char.isDigit, UInt32.le_iff_toNat_le] using h
    constructor
    · simp only [isHeaderSpace, decide_eq_false_iff_not, List.mem_cons, List.not_mem_nil, or_false,
        ← UInt32.toNat_inj, UInt32.reduceToNat]
      omega
    · simp only [isHeaderChar, Bool.and_eq_true, decide_eq_true_eq, List.mem_cons, List.not_mem_nil,
        or_false, ← UInt32.toNat_inj, UInt32.reduceToNat, UInt32.le_iff_toNat_le]
      omega
  obtain ⟨m, ⟨htext, -⟩ | ⟨htext, -⟩⟩ := Json.toList_toString n
  · rw [htext] at h
    exact hdigit (Json.isDigit_of_mem_repr h)
  · rw [htext] at h
    rcases List.mem_cons.1 h with rfl | h
    · decide
    · exact hdigit (Json.isDigit_of_mem_repr h)

/-- The integer that is read from a sign and digits. -/
theorem parseInt_eq {text : String} {sign : ℤ} {digits : List Char}
    (htext : text.toList = digits ∧ sign = 1 ∨ text.toList = '-' :: digits ∧ sign = -1)
    (hdigits : ∀ c ∈ digits, c.isDigit = true) (hne : digits ≠ [])
    (hlt : bigInt (String.ofList digits) < overflow) :
    parseInt text = some (sign * bigInt (String.ofList digits)) := by
  have htake : digits.takeWhile Char.isDigit = digits :=
    List.takeWhile_eq_self_iff.2 hdigits
  have hvalue : digits.foldl (fun (value : ℤ) c => 10 * value + (c.toNat - '0'.toNat : ℕ)) 0 =
      bigInt (String.ofList digits) := by rw [bigInt, String.toList_ofList]
  have hkeep : text.toList.dropWhile isWhiteSpace = text.toList := by
    cases digits with
    | nil => exact absurd rfl hne
    | cons c rest =>
        rcases htext with ⟨htext, -⟩ | ⟨htext, -⟩
        · rw [htext, List.dropWhile_cons_of_neg (by
            rw [isWhiteSpace_of_isDigit (hdigits c List.mem_cons_self)]; exact Bool.false_ne_true)]
        · rw [htext, List.dropWhile_cons_of_neg (by decide)]
  unfold parseInt
  rw [hkeep]
  rcases htext with ⟨htext, rfl⟩ | ⟨htext, rfl⟩
  · -- a digit is neither of the signs
    have hsign (c : Char) (hc : c.isDigit = false) (rest : List Char) : digits ≠ c :: rest := by
      rintro rfl
      rw [hdigits c List.mem_cons_self] at hc
      cases hc
    rw [htext]
    dsimp only
    split
    · exact absurd rfl (hsign '-' (by decide) _)
    · exact absurd rfl (hsign '+' (by decide) _)
    · simp only [htake, hvalue]
      rw [if_neg (by simpa [hne] using hlt)]
  · rw [htext]
    simp only [htake, hvalue]
    rw [if_neg (by simpa [hne] using hlt)]

theorem parseInt_toString {n : ℤ} (h : |n| < overflow) : parseInt (toString n) = some n := by
  obtain ⟨m, hm⟩ := Json.toList_toString n
  have hne : m.repr.toList ≠ [] := by
    rw [Nat.toList_repr]
    exact Nat.toDigits_ne_nil
  have hdigits : ∀ c ∈ m.repr.toList, c.isDigit = true := fun c hc => Json.isDigit_of_mem_repr hc
  have hvalue : bigInt (String.ofList m.repr.toList) = m := by
    rw [String.ofList_toList, Json.bigInt_repr]
  rcases hm with ⟨htext, rfl⟩ | ⟨htext, rfl⟩
  · rw [Nat.abs_cast, ← hvalue] at h
    rw [parseInt_eq (.inl ⟨htext, rfl⟩) hdigits hne h, hvalue, one_mul]
  · rw [abs_neg, Nat.abs_cast, ← hvalue] at h
    rw [parseInt_eq (.inr ⟨htext, rfl⟩) hdigits hne h, hvalue, neg_one_mul]

/-! ## What the other side reads -/

/-- The fields as they are read from the headers. -/
def S2SFields.read (fields : S2SFields) : S2SFields where
  __ := fields
  serviceId := Js.trim fields.serviceId
  keyId := Js.trim fields.keyId
  nonce := Js.toLowerCase (Js.trim fields.nonce)
  contractId := Js.trim fields.contractId
  contractVersion := Js.trim fields.contractVersion

/-- The fields name both sides and their contract, at a time of the clock. -/
structure S2SFields.Identified (fields : S2SFields) : Prop where
  serviceId : Js.trim fields.serviceId ≠ ""
  keyId : Js.trim fields.keyId ≠ ""
  contractId : Js.trim fields.contractId ≠ ""
  contractVersion : Js.trim fields.contractVersion ≠ ""
  timestamp : |fields.timestampUnix| ≤ maxSafeInteger

variable {web : Web} {fields : S2SFields} {random : Bytes}

theorem toHex_ne_empty {bytes : Bytes} (h : bytes ≠ []) : toHex bytes ≠ "" := by
  intro hempty
  exact h (toHex_injective hempty)

theorem nodup_s2sHeaders (signature : String) :
    ((s2sHeaders web fields signature).map Prod.fst).Nodup := by
  simp [s2sHeaders]

/-- The headers can be set when the identity can. -/
theorem isHeaderText_s2sHeaders (hservice : IsHeaderText fields.serviceId)
    (hkey : IsHeaderText fields.keyId) (hcontract : IsHeaderText fields.contractId)
    (hversion : IsHeaderText fields.contractVersion) (hnonce : fields.nonce = toHex random)
    (digest : Bytes) : ∀ pair ∈ s2sHeaders web fields (toHex digest), IsHeaderText pair.2 := by
  intro pair hpair
  simp only [s2sHeaders, List.mem_cons, List.not_mem_nil, or_false] at hpair
  rcases hpair with rfl | rfl | rfl | rfl | rfl | rfl | rfl | rfl | rfl
  · show IsHeaderText S2S_PROTOCOL
    decide
  · exact hservice
  · exact hkey
  · exact isHeaderText_of_chars fun c hc => (toString_chars hc).2
  · show IsHeaderText fields.nonce
    rw [hnonce]
    exact isHeaderText_toHex _
  · exact isHeaderText_toHex _
  · exact hcontract
  · exact hversion
  · exact isHeaderText_toHex _

/-- The fields that were sent are read, and the signature as it was written. -/
theorem parseHeaders_sent {headers : List (String × String)} {digest : Bytes}
    (h : fields.Identified) (hrandom : random ≠ []) (hnonce : fields.nonce = toHex random)
    (hset : ∀ pair ∈ s2sHeaders web fields (toHex digest),
      headers.lookup pair.1 = some (normalizeValue pair.2)) :
    parseHeaders web ⟨fields.method, fields.path, fields.rawQuery, headers, fields.body⟩ =
      .ok (fields.read, toHex digest) := by
  simp only [s2sHeaders, List.forall_mem_cons] at hset
  obtain ⟨hversion, hservice, hkey, htime, hnonceHeader, hcontent, hcontract, hcontractVersion,
    hsignature, -⟩ := hset
  have hprotocol : normalizeValue S2S_PROTOCOL = S2S_PROTOCOL := by decide
  have hinteger : parseInt (Js.trim (toString fields.timestampUnix)) =
      some fields.timestampUnix := by
    rw [(Json.toBigInt_toString _).2.2]
    exact parseInt_toString (h.timestamp.trans_lt (by decide +kernel))
  have hread : Js.toLowerCase (Js.trim fields.nonce) = toHex random := by
    rw [hnonce, trim_toHex, toLowerCase_toHex]
  have hidentity : ¬ (Js.trim fields.serviceId = "" ∨ Js.trim fields.keyId = "" ∨
      Js.toLowerCase (Js.trim fields.nonce) = "" ∨ Js.trim fields.contractId = "" ∨
        Js.trim fields.contractVersion = "") := by
    rw [hread]
    rintro (hblank | hblank | hblank | hblank | hblank)
    · exact h.serviceId hblank
    · exact h.keyId hblank
    · exact toHex_ne_empty hrandom hblank
    · exact h.contractId hblank
    · exact h.contractVersion hblank
  unfold parseHeaders
  simp only [Request.header, hversion, hservice, hkey, htime, hnonceHeader, hcontent, hcontract,
    hcontractVersion, hsignature, Option.getD_some, hprotocol, trim_normalizeValue, hinteger,
    bodySha256, normalizeValue_toHex, trim_toHex]
  rw [if_neg (not_not.2 rfl), if_neg hidentity, if_neg (not_not.2 rfl)]
  rfl

/-- The fields that are read have the canonical string of those that were sent. -/
theorem canonicalString_read (hnonce : fields.nonce = toHex random) :
    canonicalString web fields.read = canonicalString web fields := by
  rw [canonicalString_eq, canonicalString_eq]
  simp only [canonicalLines, S2SFields.read, trim_trim, hnonce, trim_toHex, toLowerCase_toHex]

theorem sign_read (secret : Bytes) (hnonce : fields.nonce = toHex random) :
    sign web secret fields.read = sign web secret fields := by
  rw [sign, sign, canonicalString_read hnonce]

theorem sign_ok {secret : Bytes} {signature : String} :
    sign web secret fields = .ok signature ↔ 32 ≤ secret.length ∧
      signature = toHex (web.hmacSha256 secret (Js.utf8 (canonicalString web fields))) := by
  unfold sign
  by_cases hshort : secret.length < 32
  · rw [if_pos hshort]
    constructor
    · intro h
      cases h
    · rintro ⟨hlong, -⟩
      exact absurd hlong (not_le.2 hshort)
  · rw [if_neg hshort]
    constructor
    · intro h
      exact ⟨not_lt.1 hshort, (Except.ok.inj h).symm⟩
    · rintro ⟨-, rfl⟩
      rfl

/-! ## The round trip -/

variable {headers out : List (String × String)} {ring : S2SKeyring} {direction : S2SDirection}
  {input : SignRequest}

/-- What was sent by a call that returned. -/
theorem signRequest_ok (h : signRequest web headers ring direction input = .ok (fields, out)) :
    ∃ key, activeSigner ring direction = .ok key ∧ fields = input.fields key.keyId ∧
      ∃ signature, sign web key.secret fields = .ok signature ∧
        applyHeaders web headers fields signature = .ok out := by
  obtain ⟨key, hkey, h⟩ := bind_eq_ok.1 h
  obtain ⟨signature, hsignature, h⟩ := bind_eq_ok.1 h
  obtain ⟨sent, hsent, h⟩ := bind_eq_ok.1 h
  cases h
  exact ⟨key, mapError_eq_ok.1 hkey, rfl, signature, mapError_eq_ok.1 hsignature, hsent⟩

/-- A request is signed exactly when there is one key to sign it with and a header can have each
part of the identity. -/
theorem signRequest_isOk_iff (hvalid : ValidKeyring ring) :
    (∃ sent, signRequest web headers ring direction input = .ok sent) ↔
      ∃ key, activeSigner ring direction = .ok key ∧ IsHeaderText input.serviceId ∧
        IsHeaderText key.keyId ∧ IsHeaderText input.contractId ∧
          IsHeaderText input.contractVersion := by
  constructor
  · rintro ⟨⟨fields, out⟩, h⟩
    obtain ⟨key, hkey, rfl, signature, -, happly⟩ := signRequest_ok h
    obtain ⟨htext, -⟩ := setHeaders_lookup happly (nodup_s2sHeaders signature)
    simp only [s2sHeaders, List.forall_mem_cons] at htext
    obtain ⟨-, hservice, hid, -, -, -, hcontract, hversion, -⟩ := htext
    exact ⟨key, hkey, hservice, hid, hcontract, hversion⟩
  · rintro ⟨key, hkey, hservice, hid, hcontract, hversion⟩
    have hsecret := hvalid.secrets key (activeSigner_ok hkey).1
    obtain ⟨out, hout⟩ := setHeaders_ok headers (@isHeaderText_s2sHeaders web
      (input.fields key.keyId) _ hservice hid hcontract hversion rfl
      (web.hmacSha256 key.secret (Js.utf8 (canonicalString web (input.fields key.keyId)))))
    refine ⟨(input.fields key.keyId, out), ?_⟩
    refine bind_eq_ok.2 ⟨key, mapError_eq_ok.2 hkey, bind_eq_ok.2 ⟨_, mapError_eq_ok.2
      (sign_ok.2 ⟨hsecret, rfl⟩), bind_eq_ok.2 ⟨out, hout, rfl⟩⟩⟩

end AbrChin.S2S
