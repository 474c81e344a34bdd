import AbrChin.Js.Json
import AbrChin.Lib.Transaction
import AbrChin.S2S.Hmac

/-!
# Keyrings

`parseKeyringJSON`, `activeSigner` and `verificationKey` of `lib/messagego/s2s/hmac.ts`.  The two
sides look for a key in different ways: the signer takes the only active key of its direction, the
verifier the first key with the identifier.  In a keyring that was read no two keys share an
identifier, so that both find the same key.
-/

namespace AbrChin.S2S

open Lib

/-! ## Reading a keyring -/

/-- A key of the file, as `JSON.parse` returns it. -/
structure KeyringItem where
  keyId : Option String
  secretB64 : Option String
  secretHex : Option String
  direction : Option String
  status : Option String

structure KeyringFile where
  protocol : Option String
  keys : Option (List KeyringItem)

def S2SDirection.ofText (text : String) : Option S2SDirection :=
  if text = "messagego_to_abrchin" then some .messagegoToAbrchin
  else if text = "abrchin_to_messagego" then some .abrchinToMessagego
  else none

/-- `(item.status ?? "active").trim() || "active"` -/
def S2SKeyStatus.ofText (text : String) : S2SKeyStatus :=
  let status := Js.trim text
  if status = "" ∨ status = "active" then .active
  else if status = "previous" then .previous
  else if status = "revoked" then .revoked
  else .other status

def checkSecret (secret : Bytes) : Except S2SError Bytes :=
  if secret.length < 32 then .error ⟨.invalidKey, "secret shorter than 32 bytes"⟩ else .ok secret

/-- `decodeSecret`; `fromBase64` is `Buffer.from(text, "base64")`. -/
def decodeSecret (fromBase64 : String → Bytes) (b64 hexSecret : String) : Except S2SError Bytes :=
  if Js.trim b64 ≠ "" then checkSecret (fromBase64 (Js.trim b64))
  else if Js.trim hexSecret ≠ "" then checkSecret (fromHex (Js.trim hexSecret).toList)
  else .error ⟨.invalidKey, "missing secret material"⟩

/-- The keys of the file after those whose identifiers are `seen`. -/
def readKeys (fromBase64 : String → Bytes) :
    List String → List KeyringItem → Except S2SError (List S2SKey)
  | _, [] => .ok []
  | seen, item :: rest =>
      let keyId := Js.trim (item.keyId.getD "")
      if keyId = "" then .error ⟨.invalidKey, "key_id required"⟩
      else if keyId ∈ seen then .error ⟨.invalidKey, "duplicate key_id"⟩
      else
        match S2SDirection.ofText (Js.trim (item.direction.getD "")) with
        | none => .error ⟨.invalidKey, "direction"⟩
        | some direction => do
            let secret ← decodeSecret fromBase64 (item.secretB64.getD "") (item.secretHex.getD "")
            let keys ← readKeys fromBase64 (keyId :: seen) rest
            pure (⟨keyId, secret, direction, .ofText (item.status.getD "active")⟩ :: keys)

/-- `parseKeyringJSON`, after `JSON.parse`. -/
def parseKeyringJSON (fromBase64 : String → Bytes) (parsed : KeyringFile) :
    Except S2SError S2SKeyring :=
  if (parsed.protocol.getD "") ≠ "" ∧ parsed.protocol ≠ some S2S_PROTOCOL then
    .error ⟨.invalidKey, "unexpected protocol"⟩
  else do
    let keys ← readKeys fromBase64 [] (parsed.keys.getD [])
    if keys = [] then .error ⟨.invalidKey, "empty keyring"⟩ else .ok ⟨keys⟩

/-! ## What a keyring has that was read -/

structure ValidKeyring (ring : S2SKeyring) : Prop where
  distinct : (ring.keys.map S2SKey.keyId).Nodup
  trimmed : ∀ key ∈ ring.keys, Js.trim key.keyId = key.keyId
  nonempty : ∀ key ∈ ring.keys, key.keyId ≠ ""
  secrets : ∀ key ∈ ring.keys, 32 ≤ key.secret.length

variable {fromBase64 : String → Bytes}

theorem length_decodeSecret {b64 hexSecret : String} {secret : Bytes}
    (h : decodeSecret fromBase64 b64 hexSecret = .ok secret) : 32 ≤ secret.length := by
  have hcheck {decoded : Bytes} (h : checkSecret decoded = .ok secret) : 32 ≤ secret.length := by
    unfold checkSecret at h
    split at h
    · cases h
    · next hshort =>
        cases h
        exact not_lt.1 hshort
  unfold decodeSecret at h
  split at h
  · exact hcheck h
  · split at h
    · exact hcheck h
    · cases h

/-- The keys that are read have new identifiers. -/
theorem readKeys_spec {seen : List String} {items : List KeyringItem} {keys : List S2SKey}
    (h : readKeys fromBase64 seen items = .ok keys) :
    ValidKeyring ⟨keys⟩ ∧ ∀ key ∈ keys, key.keyId ∉ seen := by
  induction items generalizing seen keys with
  | nil =>
      cases h
      exact ⟨⟨List.nodup_nil, List.forall_mem_nil _, List.forall_mem_nil _, List.forall_mem_nil _⟩,
        List.forall_mem_nil _⟩
  | cons item rest ih =>
      rw [readKeys] at h
      by_cases hempty : Js.trim (item.keyId.getD "") = ""
      · rw [if_pos hempty] at h
        cases h
      by_cases hseen : Js.trim (item.keyId.getD "") ∈ seen
      · rw [if_neg hempty, if_pos hseen] at h
        cases h
      rw [if_neg hempty, if_neg hseen] at h
      cases hdirection : S2SDirection.ofText (Js.trim (item.direction.getD "")) with
      | none =>
          rw [hdirection] at h
          cases h
      | some direction =>
          rw [hdirection] at h
          obtain ⟨secret, hsecret, h⟩ := bind_eq_ok.1 h
          obtain ⟨later, hlater, h⟩ := bind_eq_ok.1 h
          cases h
          obtain ⟨hvalid, hfresh⟩ := ih hlater
          refine ⟨⟨?_, ?_, ?_, ?_⟩, ?_⟩
          · refine List.nodup_cons.2 ⟨fun hmem => ?_, hvalid.distinct⟩
            obtain ⟨key, hkey, hsame⟩ := List.mem_map.1 hmem
            exact hfresh key hkey (hsame ▸ List.mem_cons_self)
          · exact List.forall_mem_cons.2 ⟨Js.trim_trim _, hvalid.trimmed⟩
          · exact List.forall_mem_cons.2 ⟨hempty, hvalid.nonempty⟩
          · exact List.forall_mem_cons.2 ⟨length_decodeSecret hsecret, hvalid.secrets⟩
          · exact List.forall_mem_cons.2
              ⟨hseen, fun key hkey hmem => hfresh key hkey (List.mem_cons_of_mem _ hmem)⟩

variable {ring : S2SKeyring}

theorem parseKeyringJSON_valid {parsed : KeyringFile}
    (h : parseKeyringJSON fromBase64 parsed = .ok ring) :
    ValidKeyring ring := by
  unfold parseKeyringJSON at h
  split at h
  · cases h
  · obtain ⟨keys, hkeys, h⟩ := bind_eq_ok.1 h
    split at h
    · cases h
    · cases h
      exact (readKeys_spec hkeys).1

/-! ## Both sides find one key -/

/-- `activeSigner` -/
def activeSigner (ring : S2SKeyring) (direction : S2SDirection) : Except S2SError S2SKey :=
  match ring.keys.filter fun key => key.direction = direction ∧ key.status = .active with
  | [key] => .ok key
  | _ => .error ⟨.invalidKey, "exactly one active signing key is required"⟩

variable {direction : S2SDirection}

theorem activeSigner_ok {key : S2SKey} (h : activeSigner ring direction = .ok key) :
    key ∈ ring.keys ∧ key.direction = direction ∧ key.status = .active := by
  unfold activeSigner at h
  split at h
  · next hfilter =>
      cases h
      have hmem : key ∈ ring.keys.filter fun key =>
          key.direction = direction ∧ key.status = .active := by
        rw [hfilter]
        exact List.mem_cons_self
      obtain ⟨hring, hkey⟩ := List.mem_filter.1 hmem
      exact ⟨hring, of_decide_eq_true hkey⟩
  · cases h

/-- The verifier finds the keys of a keyring that are not revoked. -/
theorem verificationKey_of_mem (hvalid : ValidKeyring ring) {key : S2SKey} (hmem : key ∈ ring.keys)
    (hstatus : key.status = .active ∨ key.status = .previous) :
    verificationKey ring key.keyId key.direction = .ok key := by
  have hfind : (ring.keys.find? fun item => item.keyId = key.keyId) = some key := by
    cases hfound : ring.keys.find? fun item => item.keyId = key.keyId with
    | none =>
        have hnone := List.find?_eq_none.1 hfound key hmem
        simp at hnone
    | some other =>
        have hsame : other.keyId = key.keyId := by simpa using List.find?_some hfound
        rw [List.inj_on_of_nodup_map hvalid.distinct (List.mem_of_find?_eq_some hfound) hmem hsame]
  rw [verificationKey, hfind]
  rcases hstatus with hstatus | hstatus <;> simp [hstatus]

/-- The verifier finds the key of the signer. -/
theorem verificationKey_activeSigner (hvalid : ValidKeyring ring) {key : S2SKey}
    (h : activeSigner ring direction = .ok key) :
    verificationKey ring key.keyId direction = .ok key := by
  obtain ⟨hmem, rfl, hstatus⟩ := activeSigner_ok h
  exact verificationKey_of_mem hvalid hmem (.inl hstatus)

/-- **What a verifier accepts**, when its keyring has been read: under an identifier and for a
direction, the one key of the file with both, unless it is revoked. -/
theorem verificationKey_iff {parsed : KeyringFile}
    (h : parseKeyringJSON fromBase64 parsed = .ok ring) {keyId : String} {key : S2SKey} :
    verificationKey ring keyId direction = .ok key ↔
      key ∈ ring.keys ∧ key.keyId = keyId ∧ key.direction = direction ∧
        (key.status = .active ∨ key.status = .previous) := by
  refine ⟨fun hkey => ?_, ?_⟩
  · unfold verificationKey at hkey
    split at hkey
    · cases hkey
    · next found hfound =>
        split_ifs at hkey with hdirection hrevoked
        cases hkey
        exact ⟨List.mem_of_find?_eq_some hfound, by simpa using List.find?_some hfound,
          not_not.1 hdirection, by grind⟩
  · rintro ⟨hmem, rfl, rfl, hstatus⟩
    exact verificationKey_of_mem (parseKeyringJSON_valid h) hmem hstatus

/-- A key that has been replaced. -/
def previousKey : S2SKey := ⟨"k0", List.replicate 32 0, .messagegoToAbrchin, .previous⟩

theorem verificationKey_iff_previous :
    verificationKey ⟨[previousKey]⟩ "k0" .messagegoToAbrchin = .ok previousKey := by
  refine (@verificationKey_iff (fun _ => []) ⟨[previousKey]⟩ .messagegoToAbrchin
    ⟨none, some [⟨some "k0", none, some ("".pushn '0' 64), some "messagego_to_abrchin",
      some "previous"⟩]⟩ ?_ "k0" previousKey).2 ⟨?_, rfl, rfl, .inr rfl⟩
  · decide +kernel
  · exact List.mem_cons_self

end AbrChin.S2S
