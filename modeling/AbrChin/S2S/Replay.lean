import AbrChin.Lib.Run
import AbrChin.Lib.Table
import AbrChin.Lib.Transaction
import AbrChin.MessageGo.Pricing
import AbrChin.S2S.Hmac

/-!
# Authentication of settlement requests and replay protection

`authenticateSettlementRequest` of `lib/messagego/settlement/service-auth.ts`
and the nonce table of `lib/messagego/s2s/replay.ts`.

A signed request is accepted when its timestamp lies within the allowed skew of
the clock, its signature verifies, and its nonce is new; the nonce is then
stored until the window of the timestamp is over.  A worker purges the nonces
whose expiry has passed.  The window is measured in whole seconds, the expiry
in milliseconds, and the two ends do not meet: for almost one second a purge
deletes a nonce whose request is still within its window.

One call is one event of a run; the clock never goes back.
-/

namespace AbrChin.S2S

open Lib MessageGo

/-! ## The nonce table -/

/-- A row of `MessageGoS2SReplayNonce`; times are in milliseconds. -/
structure ReplayNonce where
  serviceId : String
  keyId : String
  nonce : String
  expiresAt : ℤ
  deriving DecidableEq

/-- `@@id([serviceId, keyId, nonce])`. -/
def ReplayNonce.key (row : ReplayNonce) : String × String × String :=
  (row.serviceId, row.keyId, row.nonce)

abbrev ReplayNonces := Table ReplayNonce.key

/-- What the signed branch can throw: an `S2SError`, or any other error. -/
inductive HmacFailure where
  | s2s (error : S2SError)
  | other
  deriving DecidableEq

/-- `claimS2SReplay`. -/
def claimS2SReplay (row : ReplayNonce) : Tx ReplayNonces HmacFailure Unit :=
  Tx.attempt (.s2s ⟨.replay, "s2s nonce replay"⟩) fun nonces => nonces.insert? row

/-- `purgeExpiredS2SReplayNonces`: the remaining rows. -/
def purgeExpiredS2SReplayNonces (now : ℤ) (nonces : ReplayNonces) : ReplayNonces :=
  nonces.filter fun row => ¬ row.expiresAt < now

/-! ## Authentication -/

/-- What `getEnv` returns of the settings used here; `none` is a skew that is
not finite. -/
structure Env where
  isProduction : Bool
  messageGoSettlementEnabled : Bool
  messageGoSettlementServiceCredential : String
  messageGoS2SKeyringFile : String
  messageGoS2SAllowedServiceIds : List String
  messageGoS2SMaxClockSkewSeconds : Option ℚ

/-- The skew in force, in seconds. -/
def Env.skew (env : Env) : ℤ := boundSkewSeconds env.messageGoS2SMaxClockSkewSeconds

/-- `Math.abs(Math.floor(Date.now() / 1000) - timestampUnix) <= skew`. -/
def Env.withinSkew (env : Env) (now timestampUnix : ℤ) : Bool :=
  |now / 1000 - timestampUnix| ≤ env.skew

/-- `Boolean(request.headers.get("X-MessageGo-S2S-Signature"))`. -/
def hasHmacHeaders (request : Request) : Bool :=
  (request.header "x-messagego-s2s-signature").getD "" ≠ ""

/-- `hmacConfigured`. -/
def hmacConfigured (env : Env) : Bool := 0 < Js.length env.messageGoS2SKeyringFile

/-- The checks on the fields that come before the key is looked up. -/
def checkFields (env : Env) (now : ℤ) (fields : S2SFields) : Except HmacFailure Unit :=
  if fields.contractId ≠ "MESSAGEGO-V2-ABRCHIN-SETTLEMENT" ∨ fields.contractVersion ≠ "2.1.0" then
    .error (.s2s ⟨.unauthenticated, "contract identity"⟩)
  else if env.messageGoS2SAllowedServiceIds ≠ [] ∧
      fields.serviceId ∉ env.messageGoS2SAllowedServiceIds then
    .error (.s2s ⟨.unauthenticated, "service_id"⟩)
  else if env.withinSkew now fields.timestampUnix then .ok ()
  else .error (.s2s ⟨.clockSkew, "s2s timestamp outside allowed skew"⟩)

/-- The signed fields of a request, once everything but the nonce is checked.
`keyring` is what `loadKeyringFile` returns or throws. -/
def verifySignature (web : Web) (env : Env) (now : ℤ) (keyring : Except HmacFailure S2SKeyring)
    (request : Request) : Except HmacFailure S2SFields := do
  let ring ← keyring
  let (fields, signature) ← (parseHeaders web request).mapError .s2s
  checkFields env now fields
  let key ← (verificationKey ring fields.keyId .messagegoToAbrchin).mapError .s2s
  let expected ← (sign web key.secret fields).mapError .s2s
  if compareSignature expected signature then .ok fields
  else .error (.s2s ⟨.unauthenticated, "signature"⟩)

/-- The row that protects signed fields against a replay. -/
def replayNonce (env : Env) (fields : S2SFields) : ReplayNonce where
  serviceId := fields.serviceId
  keyId := fields.keyId
  nonce := fields.nonce
  expiresAt := (fields.timestampUnix + env.skew) * 1000

/-- The signed branch of `authenticateSettlementRequest`. -/
def authenticateHmac (web : Web) (env : Env) (now : ℤ) (keyring : Except HmacFailure S2SKeyring)
    (request : Request) : Tx ReplayNonces HmacFailure String := do
  let fields ← Tx.ofExcept (verifySignature web env now keyring request)
  claimS2SReplay (replayNonce env fields)
  pure fields.serviceId

/-- The token of `/^Bearer\s+(\S+)$/i`. -/
def bearerToken (authorization : String) : Option String :=
  let scheme := authorization.toList.take 6
  let rest := authorization.toList.drop 6
  let token := rest.dropWhile Js.isWhiteSpace
  if scheme.map Char.toLower = "bearer".toList ∧ token.length < rest.length ∧ token ≠ [] ∧
      token.all (fun c => !Js.isWhiteSpace c) then
    some (String.ofList token)
  else none

/-- `secretsEqual`. -/
def secretsEqual (web : Web) (left right : String) : Bool :=
  web.sha256 (Js.utf8 left) = web.sha256 (Js.utf8 right)

/-- The branch of `authenticateSettlementRequest` for a service credential. -/
def authenticateBearer (web : Web) (env : Env) (request : Request) :
    Except SettlementError String :=
  let callerServiceId := Js.trim ((request.header "x-messagego-caller-service-id").getD "")
  let authorization := (request.header "authorization").getD ""
  let credential := env.messageGoSettlementServiceCredential
  if env.isProduction ∧ env.messageGoSettlementEnabled then
    .error ⟨.unauthenticated,
      "HMAC S2S authentication is required when MessageGo settlement is enabled in production"⟩
  else if Js.length credential < 32 then
    .error ⟨.settlementRuntimeUnavailable,
      "Settlement service credential is not configured; fail closed"⟩
  else if ¬ (bearerToken authorization).any (secretsEqual web · credential) then
    .error ⟨.unauthenticated, "Settlement service identity is invalid"⟩
  else if callerServiceId = "" ∨ Js.length callerServiceId > 128 ∨
      Js.hasLineBreakOrNul callerServiceId then
    .error ⟨.invalidRequest, "caller_service_id header is required"⟩
  else .ok callerServiceId

/-- How an error of the signed branch leaves it: every code becomes `unauthenticated`. -/
def HmacFailure.toSettlementError : HmacFailure → SettlementError
  | .s2s error => ⟨.unauthenticated, error.message⟩
  | .other => ⟨.unauthenticated, "Settlement service identity is invalid"⟩

/-- `authenticateSettlementRequest`: the id of the calling service. -/
def authenticateSettlementRequest (web : Web) (env : Env) (now : ℤ)
    (keyring : Except HmacFailure S2SKeyring) (request : Request) :
    Tx ReplayNonces SettlementError String :=
  if (request.header "cookie").getD "" ≠ "" then
    Tx.throw ⟨.browserForbidden,
      "Settlement is private server-to-server and is not callable by a browser"⟩
  else if env.isProduction ∧ ¬ env.messageGoSettlementEnabled then
    Tx.throw ⟨.productionDenied, "MessageGo settlement runtime is denied in production"⟩
  else if hasHmacHeaders request then
    if hmacConfigured env then
      Tx.mapError HmacFailure.toSettlementError (authenticateHmac web env now keyring request)
    else
      Tx.throw ⟨.settlementRuntimeUnavailable,
        "Settlement HMAC keyring is not configured; fail closed"⟩
  else Tx.ofExcept (authenticateBearer web env request)

/-! ## Runs -/

/-- The clock, in milliseconds, and the nonce table. -/
structure ReplayState where
  clock : ℤ
  nonces : ReplayNonces

inductive ReplayAction where
  | authenticate (keyring : Except HmacFailure S2SKeyring) (request : Request)
  | purge

/-- A call, and the time since the one before. -/
structure ReplayEvent where
  elapsed : ℕ
  action : ReplayAction

inductive ReplayResult where
  | authenticated (result : Except SettlementError String)
  | purged

/-- One call at the time of the clock. -/
def replayStep (web : Web) (env : Env) (state : ReplayState) (event : ReplayEvent) :
    ReplayState × ReplayResult :=
  let now := state.clock + event.elapsed
  match event.action with
  | .authenticate keyring request =>
      let call := (authenticateSettlementRequest web env now keyring request).run state.nonces
      (⟨now, call.2⟩, .authenticated call.1)
  | .purge => (⟨now, purgeExpiredS2SReplayNonces now state.nonces⟩, .purged)

/-- What makes two signed requests the same. -/
structure SignedRequest where
  serviceId : String
  keyId : String
  nonce : String
  timestampUnix : ℤ
  signature : String
  deriving DecidableEq

/-- The signed request that a request carries. -/
def Request.signed? (web : Web) (request : Request) : Option SignedRequest :=
  if hasHmacHeaders request then
    match parseHeaders web request with
    | .ok (fields, signature) =>
        some ⟨fields.serviceId, fields.keyId, fields.nonce, fields.timestampUnix, signature⟩
    | .error _ => none
  else none

/-- The step accepts the signed request. -/
def accepts (web : Web) (signed : SignedRequest)
    (entry : Entry ReplayState ReplayEvent ReplayResult) : Bool :=
  match entry.event.action, entry.result with
  | .authenticate _ request, .authenticated (.ok _) => request.signed? web = some signed
  | _, _ => false

end AbrChin.S2S
