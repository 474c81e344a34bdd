import AbrChin.S2S.Signing

/-!
# Signed requests verify, and only for the same content

The signer writes the identity as it has it, and the verifier trims what it reads; both come to one
canonical string, so that the signature is accepted under the same key.  A canonical string stands
for one content.

* *What cannot be sent.*  A header has bytes only, so that an identity with other characters makes
  `signRequest` throw, and a blank one is refused by `parseHeaders`.
* *What is written alike.*  A path is signed with a slash in front of it and, like the method and
  the nonce, without spaces around it.
* *What runs together.*  The lines of the string are not escaped: a newline in a path can stand for
  the end of the method.
-/

namespace AbrChin.S2S

open Lib Js

/-- The request names its sides and its contract, at a time of the clock. -/
structure SignRequest.Identified (input : SignRequest) : Prop where
  serviceId : Js.trim input.serviceId ≠ ""
  contractId : Js.trim input.contractId ≠ ""
  contractVersion : Js.trim input.contractVersion ≠ ""
  now : |input.now| ≤ maxSafeInteger

/-- The verifier finds the key of the signer and accepts the signature. -/
def Accepted (web : Web) (ring : S2SKeyring) (direction : S2SDirection) (request : Request) :
    Prop :=
  ∃ key parsed signature expected, activeSigner ring direction = .ok key ∧
    parseHeaders web request = .ok (parsed, signature) ∧
    verificationKey ring parsed.keyId direction = .ok key ∧
    sign web key.secret parsed = .ok expected ∧ compareSignature expected signature = true

variable {web : Web} {headers out : List (String × String)} {ring : S2SKeyring}
  {direction : S2SDirection} {input : SignRequest} {fields : S2SFields}

/-- A request that was signed is accepted. -/
theorem accepted_of_signRequest
    (hdigest : ∀ secret message, (web.hmacSha256 secret message).length = 32)
    (hvalid : ValidKeyring ring) (hidentified : input.Identified)
    (h : signRequest web headers ring direction input = .ok (fields, out)) :
    Accepted web ring direction (input.request out) := by
  obtain ⟨key, hkey, rfl, signature, hsignature, happly⟩ := signRequest_ok h
  obtain ⟨hsecret, rfl⟩ := sign_ok.1 hsignature
  obtain ⟨-, hset, -⟩ := setHeaders_lookup happly (nodup_s2sHeaders _)
  have hmem := (activeSigner_ok hkey).1
  have hkeyId : Js.trim key.keyId = key.keyId := hvalid.trimmed key hmem
  have hfields : (input.fields key.keyId).Identified := by
    refine ⟨hidentified.serviceId, ?_, hidentified.contractId, hidentified.contractVersion,
      hidentified.now⟩
    show Js.trim key.keyId ≠ ""
    rw [hkeyId]
    exact hvalid.nonempty key hmem
  have hrandom : input.random ≠ [] := by
    intro hnil
    have hlength := input.length_random
    rw [hnil] at hlength
    exact absurd hlength (by decide)
  have hnonempty : web.hmacSha256 key.secret
      (Js.utf8 (canonicalString web (input.fields key.keyId))) ≠ [] := by
    intro hnil
    have hlength := hdigest key.secret (Js.utf8 (canonicalString web (input.fields key.keyId)))
    rw [hnil] at hlength
    exact absurd hlength (by decide)
  have hparse := parseHeaders_sent hfields hrandom rfl hset
  refine ⟨key, (input.fields key.keyId).read, _, _, hkey, hparse, ?_, ?_,
    compareSignature_toHex hnonempty⟩
  · show verificationKey ring (Js.trim key.keyId) direction = _
    rw [hkeyId]
    exact verificationKey_activeSigner hvalid hkey
  · rw [sign_read _ rfl]
    exact hsignature

theorem bodySha256_eq_iff (hinjective : Function.Injective web.sha256) {body body' : Bytes} :
    bodySha256 web body = bodySha256 web body' ↔ body = body' :=
  (toHex_injective.comp hinjective).eq_iff

/-- **Signed requests verify, and only for the same content.**  With a keyring that was read, a
request is signed exactly when one key is active for it and its identity can stand in headers, and
then the other side accepts it, unless a part of the identity is blank.  Canonical queries are their
own, and the order of the parameters does not matter.  Two requests without newlines have the same
canonical string exactly when they have the same content, and the same body where the hash tells
bodies apart. -/
theorem signed_requests_verify (sha256 : Bytes → Bytes) (hmacSha256 : Bytes → Bytes → Bytes)
    (hdigest : ∀ secret message, (hmacSha256 secret message).length = 32) :
    (∀ headers ring direction input, ValidKeyring ring →
      ((∃ sent, signRequest (runtime sha256 hmacSha256) headers ring direction input = .ok sent) ↔
        ∃ key, activeSigner ring direction = .ok key ∧ IsHeaderText input.serviceId ∧
          IsHeaderText key.keyId ∧ IsHeaderText input.contractId ∧
            IsHeaderText input.contractVersion) ∧
      (input.Identified → ∀ fields out,
        signRequest (runtime sha256 hmacSha256) headers ring direction input = .ok (fields, out) →
          Accepted (runtime sha256 hmacSha256) ring direction (input.request out))) ∧
    (∀ rawQuery, canonicalQuery (runtime sha256 hmacSha256)
        (canonicalQuery (runtime sha256 hmacSha256) rawQuery) =
      canonicalQuery (runtime sha256 hmacSha256) rawQuery) ∧
    (∀ rawQuery rawQuery', (queryParams rawQuery).Perm (queryParams rawQuery') →
      canonicalQuery (runtime sha256 hmacSha256) rawQuery =
        canonicalQuery (runtime sha256 hmacSha256) rawQuery') ∧
    (∀ first second : S2SFields, first.OneLine → second.OneLine →
      (canonicalString (runtime sha256 hmacSha256) first =
          canonicalString (runtime sha256 hmacSha256) second ↔
        SameContent (runtime sha256 hmacSha256) first second)) ∧
    (Function.Injective sha256 → ∀ first second,
      SameContent (runtime sha256 hmacSha256) first second → first.body = second.body) := by
  refine ⟨?_, ?_, ?_, ?_, ?_⟩
  · intro headers ring direction input hvalid
    refine ⟨signRequest_isOk_iff hvalid, ?_⟩
    intro hidentified fields out h
    exact accepted_of_signRequest hdigest hvalid hidentified h
  · exact canonicalQuery_canonicalQuery
  · intro rawQuery rawQuery' hperm
    exact canonicalQuery_eq_iff.2 hperm
  · intro first second hfirst hsecond
    exact canonicalString_eq_iff hfirst hsecond
  · intro hinjective first second hsame
    exact (bodySha256_eq_iff hinjective).1 hsame.bodyHash

/-! ## A request with spaces around its names -/

/-- The digest of the empty text, in front of the text itself. -/
def sampleSha256 (bytes : Bytes) : Bytes :=
  fromHex "e3b0c44298fc1c149afbf4c8996fb92427ae41e4649b934ca495991b7852b855".toList ++ bytes

/-- The digest of the string of the request below. -/
def sampleHmac (_ _ : Bytes) : Bytes :=
  fromHex "4f9086fd5d48efdbd526d940e0036e15bd947f3b29cb8cba17f0161962431b51".toList

def sampleWeb : Web := runtime sampleSha256 sampleHmac

def sampleRing : S2SKeyring := ⟨[⟨"k1", List.replicate 32 107, .messagegoToAbrchin, .active⟩]⟩

def sampleInput : SignRequest where
  serviceId := " messagego"
  method := "post"
  path := "api/settlement"
  rawQuery := "?b=2&a=%201&b="
  body := []
  contractId := "MESSAGEGO-V2-ABRCHIN-SETTLEMENT"
  contractVersion := "2.1.0 "
  now := 1000
  random := fromHex "00112233445566778899aabbccddeeff".toList
  length_random := by decide +kernel

/-- The fields of the request, and how another side may have them. -/
def sampleFields : S2SFields := sampleInput.fields "k1"

def sampleOther : S2SFields :=
  { sampleFields.read with
    method := "POST ", path := "/api/settlement", rawQuery := "b=&b=%32&a=+1" }

theorem sampleRing_valid : ValidKeyring sampleRing where
  distinct := by decide +kernel
  trimmed := by decide +kernel
  nonempty := by decide +kernel
  secrets := by decide +kernel

/-- The request is signed and accepted, and its query in another order and with other escapes is
signed alike. -/
theorem signed_requests_verify_sample :
    (∃ fields out, signRequest sampleWeb [] sampleRing .messagegoToAbrchin sampleInput =
        .ok (fields, out) ∧
      Accepted sampleWeb sampleRing .messagegoToAbrchin (sampleInput.request out)) ∧
    canonicalQuery sampleWeb "?b=2&a=%201&b=" = canonicalQuery sampleWeb "b=&b=%32&a=+1" ∧
    canonicalString sampleWeb sampleFields = canonicalString sampleWeb sampleOther ∧
    (Function.Injective sampleSha256 ∧ sampleFields.body = sampleOther.body) := by
  have hverify := signed_requests_verify sampleSha256 sampleHmac
    fun _ _ => show (sampleHmac [] []).length = 32 by decide +kernel
  have hinjective : Function.Injective sampleSha256 := fun _ _ h => List.append_cancel_left h
  have hsame : SameContent sampleWeb sampleFields sampleOther := by
    constructor <;> decide +kernel
  have hfirst : sampleFields.OneLine := by constructor <;> decide +kernel
  have hsecond : sampleOther.OneLine := by constructor <;> decide +kernel
  refine ⟨?_, ?_, ?_, hinjective, ?_⟩
  · obtain ⟨hsigned, haccepted⟩ := hverify.1 [] sampleRing .messagegoToAbrchin sampleInput
      sampleRing_valid
    obtain ⟨⟨fields, out⟩, hsent⟩ := hsigned.2 ⟨⟨"k1", List.replicate 32 107, .messagegoToAbrchin,
      .active⟩, by decide +kernel, by decide +kernel, by decide +kernel, by decide +kernel,
      by decide +kernel⟩
    exact ⟨fields, out, hsent, haccepted ⟨by decide +kernel, by decide +kernel, by decide +kernel,
      by decide +kernel⟩ fields out hsent⟩
  · exact hverify.2.2.1 _ _ (by decide +kernel)
  · exact (hverify.2.2.2.1 _ _ hfirst hsecond).2 hsame
  · exact hverify.2.2.2.2 hinjective _ _ hsame

/-! ## What is written alike, and what is not accepted -/

/-- Paths with and without the slash, and methods and nonces with spaces around them, are signed
alike; so are two requests of which one has in its path what the other has in its method.  A request
of a blank service is signed but not accepted, and one of a service whose name is no header text is
not signed. -/
theorem signed_requests_differ :
    (∃ first second : S2SFields,
      canonicalString sampleWeb first = canonicalString sampleWeb second ∧
        Js.toUpperCase first.method ≠ Js.toUpperCase second.method ∧ first.path ≠ second.path ∧
        Js.toLowerCase first.nonce ≠ Js.toLowerCase second.nonce) ∧
    (canonicalString sampleWeb
        { sampleFields with rawQuery := "", method := "GET", path := "/A\n/b" } =
      canonicalString sampleWeb
        { sampleFields with rawQuery := "", method := "GET\n/A", path := "/b" } ∧
      Js.trim (Js.toUpperCase "GET") ≠ Js.trim (Js.toUpperCase "GET\n/A")) ∧
    (∃ fields out, signRequest sampleWeb [] sampleRing .messagegoToAbrchin
        { sampleInput with rawQuery := "", serviceId := " " } = .ok (fields, out) ∧
      parseHeaders sampleWeb
          (SignRequest.request { sampleInput with rawQuery := "", serviceId := " " } out) =
        .error ⟨.unauthenticated, "missing s2s identity fields"⟩) ∧
    signRequest sampleWeb [] sampleRing .messagegoToAbrchin
        { sampleInput with rawQuery := "", serviceId := "پیام" } = .error .typeError := by
  refine ⟨?_, by decide +kernel, ?_, by decide +kernel⟩
  · let second : S2SFields := { sampleFields with
      method := "POST ", path := "/api/settlement", nonce := " 00112233445566778899AABBCCDDEEFF" }
    have hfirst : sampleFields.OneLine := by constructor <;> decide +kernel
    have hsecond : second.OneLine := by constructor <;> decide +kernel
    have hnonce : Js.toLowerCase (Js.trim sampleFields.nonce) =
        Js.toLowerCase (Js.trim second.nonce) := by
      trans "00112233445566778899aabbccddeeff"
      · decide +kernel
      · decide +kernel
    have hsame : SameContent sampleWeb sampleFields second :=
      ⟨by decide +kernel, by decide +kernel, by decide +kernel, rfl, rfl, rfl, rfl, hnonce, rfl,
        rfl⟩
    exact ⟨sampleFields, second, (canonicalString_eq_iff hfirst hsecond).2 hsame,
      by decide +kernel, by decide +kernel, by decide +kernel⟩
  · have hblank : (signRequest sampleWeb [] sampleRing .messagegoToAbrchin
        { sampleInput with rawQuery := "", serviceId := " " }).toOption.any (fun sent =>
      parseHeaders sampleWeb
          (SignRequest.request { sampleInput with rawQuery := "", serviceId := " " } sent.2) =
        .error ⟨.unauthenticated, "missing s2s identity fields"⟩) = true := by decide +kernel
    cases hsent : signRequest sampleWeb [] sampleRing .messagegoToAbrchin
        { sampleInput with rawQuery := "", serviceId := " " } with
    | error e =>
        rw [hsent] at hblank
        cases hblank
    | ok sent =>
        rw [hsent] at hblank
        exact ⟨sent.1, sent.2, rfl, of_decide_eq_true hblank⟩

end AbrChin.S2S
