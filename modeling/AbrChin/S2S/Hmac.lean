import AbrChin.Js.Value
import Mathlib.Data.Rat.Floor

/-!
# Signed server-to-server requests

`lib/messagego/s2s/hmac.ts`: the keyring, the fields of a signed request, its
canonical string, and reading the fields back from the headers.

SHA-256, HMAC-SHA-256 and the two functions of the URL standard are parameters
(`Web`).  Header names are in lower case, as `Headers` compares them.
-/

namespace AbrChin.S2S

/-- Bytes of a `Buffer`. -/
abbrev Bytes := List UInt8

/-- What the runtime provides. -/
structure Web where
  sha256 : Bytes → Bytes
  /-- `createHmac("sha256", secret).update(message).digest()`. -/
  hmacSha256 : Bytes → Bytes → Bytes
  /-- `[...new URLSearchParams(raw)]`. -/
  searchParams : String → List (String × String)
  encodeURIComponent : String → String

/-! ## Errors -/

inductive S2SErrorCode where
  | unauthenticated
  | replay
  | clockSkew
  | invalidKey
  | unknownKey
  | direction
  deriving DecidableEq

/-- `S2SError`. -/
structure S2SError where
  code : S2SErrorCode
  message : String
  deriving DecidableEq

/-! ## Keys -/

inductive S2SDirection where
  | messagegoToAbrchin
  | abrchinToMessagego
  deriving DecidableEq

/-- The status of a key; `parseKeyringJSON` keeps any other text as it is. -/
inductive S2SKeyStatus where
  | active
  | previous
  | revoked
  | other (text : String)
  deriving DecidableEq

structure S2SKey where
  keyId : String
  secret : Bytes
  direction : S2SDirection
  status : S2SKeyStatus
  deriving DecidableEq

structure S2SKeyring where
  keys : List S2SKey
  deriving DecidableEq

/-- `verificationKey`. -/
def verificationKey (ring : S2SKeyring) (keyId : String) (direction : S2SDirection) :
    Except S2SError S2SKey :=
  match ring.keys.find? fun item => item.keyId = keyId with
  | none => .error ⟨.unknownKey, "s2s key_id is unknown or revoked"⟩
  | some key =>
      if key.direction ≠ direction then .error ⟨.direction, "s2s key direction mismatch"⟩
      else if key.status = .revoked ∨ (key.status ≠ .active ∧ key.status ≠ .previous) then
        .error ⟨.unknownKey, "s2s key_id is unknown or revoked"⟩
      else .ok key

/-- `boundSkewSeconds`; `none` is a value that is not finite. -/
def boundSkewSeconds (value : Option ℚ) : ℤ :=
  match value with
  | none => 30
  | some value =>
      if value < 30 then 30
      else if value > 600 then 600
      else ⌊value⌋

/-- Whatever is configured, the skew lies between 30 and 600 seconds. -/
theorem boundSkewSeconds_mem (value : Option ℚ) :
    30 ≤ boundSkewSeconds value ∧ boundSkewSeconds value ≤ 600 := by
  cases value with
  | none => exact ⟨by decide, by decide⟩
  | some value =>
      unfold boundSkewSeconds
      by_cases hlow : value < 30
      · simp [hlow]
      · by_cases hhigh : value > 600
        · simp [hlow, hhigh]
        · have hfloor : (30 : ℤ) ≤ ⌊value⌋ := Int.le_floor.2 (by simpa using hlow)
          have hceil : ⌊value⌋ ≤ 600 := by
            have hcast : (⌊value⌋ : ℚ) ≤ 600 := (Int.floor_le value).trans (not_lt.1 hhigh)
            exact_mod_cast hcast
          simp [hlow, hhigh, hfloor, hceil]

/-! ## Canonical strings -/

def S2S_PROTOCOL : String := "MESSAGEGO-S2S-HMAC-V1"

structure S2SFields where
  method : String
  path : String
  rawQuery : String
  body : Bytes
  serviceId : String
  keyId : String
  timestampUnix : ℤ
  nonce : String
  contractId : String
  contractVersion : String
  deriving DecidableEq

/-- `digest("hex")`. -/
def toHex (bytes : Bytes) : String :=
  String.ofList (bytes.flatMap fun byte =>
    [Nat.digitChar (byte.toNat / 16), Nat.digitChar (byte.toNat % 16)])

/-- The value of a hexadecimal digit of either case. -/
def hexValue (c : Char) : Option ℕ :=
  if c.isDigit then some (c.toNat - '0'.toNat)
  else if 'a' ≤ c ∧ c ≤ 'f' then some (c.toNat - 'a'.toNat + 10)
  else if 'A' ≤ c ∧ c ≤ 'F' then some (c.toNat - 'A'.toNat + 10)
  else none

/-- `Buffer.from(text, "hex")`: the pairs of digits before the first that is not one. -/
def fromHex : List Char → Bytes
  | high :: low :: rest =>
      match hexValue high, hexValue low with
      | some high, some low => UInt8.ofNat (16 * high + low) :: fromHex rest
      | _, _ => []
  | _ => []

section Signing

variable (web : Web)

/-- `queryEscape`. -/
def queryEscape (value : String) : String := (web.encodeURIComponent value).replace "%20" "+"

/-- `canonicalQuery`. -/
def canonicalQuery (rawQuery : String) : String :=
  let raw := if rawQuery.startsWith "?" then (rawQuery.drop 1).toString else rawQuery
  if raw = "" then ""
  else
    let params := web.searchParams raw
    let keys := Js.sort (params.map Prod.fst).dedup
    let parts := keys.flatMap fun key =>
      let values := Js.sort ((params.filter fun param => param.1 = key).map Prod.snd)
      values.map fun value => s!"{queryEscape web key}={queryEscape web value}"
    "&".intercalate parts

/-- `bodySha256`. -/
def bodySha256 (body : Bytes) : String := toHex (web.sha256 body)

/-- `canonicalPath`. -/
def canonicalPath (path : String) : String :=
  let trimmed := Js.trim path
  if trimmed = "" then "/"
  else if trimmed.startsWith "/" then trimmed
  else s!"/{trimmed}"

/-- `canonicalString`. -/
def canonicalString (fields : S2SFields) : String :=
  "\n".intercalate [
    S2S_PROTOCOL,
    Js.trim (Js.toUpperCase fields.method),
    canonicalPath fields.path,
    canonicalQuery web fields.rawQuery,
    bodySha256 web fields.body,
    Js.trim fields.serviceId,
    Js.trim fields.keyId,
    toString fields.timestampUnix,
    Js.toLowerCase (Js.trim fields.nonce),
    Js.trim fields.contractId,
    Js.trim fields.contractVersion]

/-- `sign`. -/
def sign (secret : Bytes) (fields : S2SFields) : Except S2SError String :=
  if secret.length < 32 then .error ⟨.invalidKey, "HMAC secret shorter than 32 bytes"⟩
  else .ok (toHex (web.hmacSha256 secret (Js.utf8 (canonicalString web fields))))

end Signing

/-- `compareSignature`. -/
def compareSignature (left right : String) : Bool :=
  let a := fromHex (Js.trim left).toList
  let b := fromHex (Js.trim right).toList
  if a.length = 0 ∨ a.length ≠ b.length then false else a = b

/-! ## Requests -/

/-- A request: `url.pathname`, `url.search` without its question mark, and the
combined value of each header. -/
structure Request where
  method : String
  pathname : String
  rawQuery : String
  headers : List (String × String)
  rawBody : Bytes

/-- `request.headers.get(name)`. -/
def Request.header (request : Request) (name : String) : Option String :=
  request.headers.lookup name

/-- `parseHeaders`: the signed fields of a request and its signature. -/
def parseHeaders (web : Web) (request : Request) : Except S2SError (S2SFields × String) :=
  let text := fun name => (request.header name).getD ""
  if text "x-messagego-s2s-version" ≠ S2S_PROTOCOL then
    .error ⟨.unauthenticated, "protocol version"⟩
  else
    match Js.parseInt (Js.trim (text "x-messagego-s2s-timestamp")) with
    | none => .error ⟨.unauthenticated, "timestamp"⟩
    | some timestampUnix =>
        let fields : S2SFields := {
          method := request.method
          path := request.pathname
          rawQuery := request.rawQuery
          body := request.rawBody
          serviceId := Js.trim (text "x-messagego-s2s-service-id")
          keyId := Js.trim (text "x-messagego-s2s-key-id")
          timestampUnix
          nonce := Js.toLowerCase (Js.trim (text "x-messagego-s2s-nonce"))
          contractId := Js.trim (text "x-messagego-s2s-contract-id")
          contractVersion := Js.trim (text "x-messagego-s2s-contract-version") }
        if fields.serviceId = "" ∨ fields.keyId = "" ∨ fields.nonce = "" ∨
            fields.contractId = "" ∨ fields.contractVersion = "" then
          .error ⟨.unauthenticated, "missing s2s identity fields"⟩
        else if text "x-messagego-s2s-content-sha256" ≠ bodySha256 web request.rawBody then
          .error ⟨.unauthenticated, "content hash mismatch"⟩
        else .ok (fields, Js.trim (text "x-messagego-s2s-signature"))

end AbrChin.S2S
