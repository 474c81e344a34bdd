import AbrChin.Lib.Program
import AbrChin.Orders.Schema

/-!
# Credentials of servers

`lib/security/instance-credentials.ts` with `writeAuditLogTx` of `lib/audit/service.ts`.  A server has
one row for its credential.  `storeInstanceCredential` looks at the server, and then overwrites the row
in one statement; `revealInstanceCredential` is one transaction, which locks the row of the credential,
if there is one, reads it together with the server, writes an audit record under a key of the row, and
takes the secret out of the row.

What happens to the servers elsewhere, to their owners (`reassignCloudInstanceOwnershipTx`), to the
orders and to the clock, happens between two statements.  Two columns of the row are kept for the
theorems, and nothing reads them: the secret as it was stored, and how many have been stored.

The failure that tests inject is left out.  An audit record is its actor: the other fields are the same
for all records under one key.
-/

namespace AbrChin.Security

open Lib
open Orders (CloudInstanceStatus)

/-! ## The rows -/

structure EncryptedCredential where
  ciphertext : String
  iv : String
  authTag : String
  deriving DecidableEq

/-- `lib/security/credential-vault.ts`: decryption inverts encryption. -/
structure CredentialVault where
  encrypt : String → String → EncryptedCredential
  decrypt : EncryptedCredential → String
  decrypt_encrypt : ∀ iv secret, decrypt (encrypt iv secret) = secret

/-- A server with the fields of its infrastructure order. -/
structure ServerRow where
  userId : String
  status : CloudInstanceStatus
  ipv4 : Option String
  healthCheckedAt : Option ℤ
  orderStatus : String
  productFlowState : Option String
  deriving DecidableEq

inductive InstanceCredentialStatus where
  | ready
  | revealed
  | revoked
  | expired
  deriving DecidableEq

structure InstanceCredential where
  username : String
  encrypted : Option EncryptedCredential
  status : InstanceCredentialStatus
  expiresAt : ℤ
  revealedAt : Option ℤ
  secret : String
  version : ℕ
  deriving DecidableEq

inductive CredentialRow where
  | server (id : String)
  | credential (id : String)
  /-- The audit record under `credential-revealed:${credential.id}` of the credential of a server. -/
  | audit (id : String)
  | auditLock (id : String)
  | clock
  deriving DecidableEq

abbrev CredentialVal : CredentialRow → Type
  | .server _ => Option ServerRow
  | .credential _ => Option InstanceCredential
  | .audit _ => Option String
  | .auditLock _ => Unit
  | .clock => ℤ

abbrev CredentialDb : Type := (row : CredentialRow) → CredentialVal row

def CredentialDb.server (db : CredentialDb) (id : String) : Option ServerRow := db (.server id)

def CredentialDb.credential (db : CredentialDb) (id : String) : Option InstanceCredential :=
  db (.credential id)

def CredentialDb.audit (db : CredentialDb) (id : String) : Option String := db (.audit id)

def CredentialDb.clock (db : CredentialDb) : ℤ := db .clock

inductive CredentialError where
  | invalidInput
  | instanceNotReady
  | notFound
  | alreadyRevealed
  | expired
  | idempotencyConflict
  deriving DecidableEq

abbrev CredentialScript (α : Type) : Type := Script CredentialVal CredentialError α

/-! ## The calls -/

structure StoreInput where
  instanceId : String
  username : String
  secret : String
  ttlHours : ℤ := 24
  /-- The bytes that `encryptCredential` draws. -/
  iv : String

structure RevealInput where
  instanceId : String
  userId : String
  deriving DecidableEq

inductive CredentialCall where
  | storeInstanceCredential (input : StoreInput)
  | revealInstanceCredential (input : RevealInput)

/-- What a reveal returns, with the credential that it has read and the time it has looked at. -/
structure Revealed where
  input : RevealInput
  secret : String
  ipv4 : Option String
  read : InstanceCredential
  now : ℤ
  deriving DecidableEq

inductive CredentialAnswer where
  | stored
  | revealed (what : Revealed)

/-- What a reveal has read when it goes on. -/
structure Checked where
  input : RevealInput
  read : InstanceCredential
  encrypted : EncryptedCredential
  ipv4 : Option String
  now : ℤ

inductive CredentialPoint where
  /-- The checks and the read of the server, before the write. -/
  | preparing (input : StoreInput)
  | upserting (input : StoreInput)
  | locking (input : RevealInput)
  | checking (input : RevealInput)
  /-- The credential that has been read is over. -/
  | expiring (input : RevealInput) (read : InstanceCredential)
  /-- `writeAuditLogTx`: the lock, the search for a record, its creation and the read after that. -/
  | auditing (checked : Checked)
  | searching (checked : Checked)
  | recording (checked : Checked)
  | confirming (checked : Checked)
  | consuming (checked : Checked) (now : ℤ)

abbrev CredentialNext : Type := Next CredentialPoint CredentialAnswer

/-! ## `storeInstanceCredential` -/

def isUsernameStart (c : Char) : Bool := c.isAlpha || c = '_'

/-- `/^[a-z_][a-z0-9_-]{0,31}$/i` -/
def isUsername (username : String) : Bool :=
  match username.toList with
  | [] => false
  | first :: rest => isUsernameStart first && rest.length ≤ 31 &&
      rest.all fun c => isUsernameStart c || c.isDigit || c = '-'

def StoreInput.isValid (input : StoreInput) : Bool :=
  isUsername (Js.trim input.username) && 8 ≤ Js.length input.secret && Js.length input.secret ≤ 4096 &&
    1 ≤ input.ttlHours && input.ttlHours ≤ 168

/-- A server that has an address, and has been checked or is active. -/
def ServerRow.takesCredential (server : ServerRow) : Bool :=
  server.ipv4.any (· ≠ "") && (server.healthCheckedAt.isSome || server.status = .active)

def prepareStore (input : StoreInput) : CredentialScript CredentialNext := do
  Script.throwIf (input.isValid = false) .invalidInput
  let server ← Script.query fun db : CredentialDb => db.server input.instanceId
  Script.throwIf (server.all (fun server => !server.takesCredential) = true) .instanceNotReady
  pure (.goto (.upserting input))

variable (vault : CredentialVault)

def upserted (input : StoreInput) (now : ℤ) (old : Option InstanceCredential) : InstanceCredential where
  username := Js.trim input.username
  encrypted := some (vault.encrypt input.iv input.secret)
  status := .ready
  expiresAt := now + input.ttlHours * 3600000
  revealedAt := none
  secret := input.secret
  version := (old.map InstanceCredential.version).getD 0 + 1

def upsertCredential (input : StoreInput) : CredentialScript CredentialNext := do
  let now ← Script.query CredentialDb.clock
  let _ ← Script.updateMany (CredentialRow.credential input.instanceId) fun old =>
    some (some (upserted vault input now old))
  pure (.answer .stored)

/-! ## `revealInstanceCredential` -/

/-- `SELECT … FOR UPDATE OF credential`, of the row if there is one. -/
def lockCredential (input : RevealInput) : CredentialScript CredentialNext := do
  let found ← Script.query fun db : CredentialDb =>
    (db.server input.instanceId).isSome && (db.credential input.instanceId).isSome
  Script.onlyIf (found = true) (do
    let _ ← Script.getLocked (CredentialRow.credential input.instanceId)
    pure ())
  pure (.goto (.checking input))

/-- The server is delivered to the user. -/
def ServerRow.isOwnedBy (server : ServerRow) (userId : String) : Bool :=
  server.userId = userId && server.status = .active && server.orderStatus = "ACTIVE" &&
    server.productFlowState = some "ACTIVE"

/-- The credential that the user may see, with the address of the server. -/
def CredentialDb.visible (db : CredentialDb) (input : RevealInput) :
    Option (InstanceCredential × Option String) :=
  match db.credential input.instanceId, db.server input.instanceId with
  | some credential, some server =>
      if server.isOwnedBy input.userId = true then some (credential, server.ipv4) else none
  | _, _ => none

/-- What follows from the credential that has been read at a time. -/
def checkCredential (input : RevealInput) (now : ℤ) :
    Option (InstanceCredential × Option String) → CredentialScript CredentialNext
  | none => Script.throw .notFound
  | some (read, ipv4) =>
      if read.expiresAt ≤ now then pure (.goto (.expiring input read))
      else
        match read.encrypted with
        | some encrypted =>
            if read.status = .ready then pure (.goto (.auditing ⟨input, read, encrypted, ipv4, now⟩))
            else Script.throw .alreadyRevealed
        | none => Script.throw .alreadyRevealed

def readCredential (input : RevealInput) : CredentialScript CredentialNext := do
  let (now, found) ← Script.query fun db : CredentialDb => (db.clock, db.visible input)
  checkCredential input now found

/-- The credential is set to expired, and the transaction fails. -/
def expireCredential (input : RevealInput) : CredentialScript CredentialNext := do
  let _ ← Script.updateMany (CredentialRow.credential input.instanceId)
    fun row : Option InstanceCredential => row.bind fun row =>
      if row.status = .ready then some (some { row with status := .expired, encrypted := none }) else none
  Script.throw .expired

def lockAudit (checked : Checked) : CredentialScript CredentialNext := do
  let _ ← Script.getLocked (CredentialRow.auditLock checked.input.instanceId)
  pure (.goto (.searching checked))

/-- `assertAuditReplay` -/
def replayAudit (checked : Checked) (now : ℤ) (actorUserId : String) : CredentialScript CredentialNext :=
  if actorUserId = checked.input.userId then pure (.goto (.consuming checked now))
  else Script.throw .idempotencyConflict

def searchAudit (checked : Checked) : CredentialScript CredentialNext := do
  let (now, existing) ← Script.query fun db : CredentialDb =>
    (db.clock, db.audit checked.input.instanceId)
  match existing with
  | some actorUserId => replayAudit checked now actorUserId
  | none => pure (.goto (.recording checked))

/-- `createMany` with `skipDuplicates` -/
def recordAudit (checked : Checked) : CredentialScript CredentialNext := do
  let _ ← Script.updateMany (CredentialRow.audit checked.input.instanceId)
    fun row : Option String => if row.isNone = true then some (some checked.input.userId) else none
  pure (.goto (.confirming checked))

def confirmAudit (checked : Checked) : CredentialScript CredentialNext := do
  let (now, persisted) ← Script.query fun db : CredentialDb =>
    (db.clock, db.audit checked.input.instanceId)
  match persisted with
  | some actorUserId => replayAudit checked now actorUserId
  | none => Script.throw .notFound

def InstanceCredential.consumed (now : ℤ) (row : InstanceCredential) : InstanceCredential :=
  { row with status := .revealed, revealedAt := some now, encrypted := none }

def revealedAnswer (checked : Checked) : CredentialAnswer :=
  .revealed
    { input := checked.input
      secret := vault.decrypt checked.encrypted
      ipv4 := checked.ipv4
      read := checked.read
      now := checked.now }

def consumeCredential (checked : Checked) (now : ℤ) : CredentialScript CredentialNext := do
  let claimed ← Script.updateMany (CredentialRow.credential checked.input.instanceId)
    fun row : Option InstanceCredential => row.bind fun row =>
      if row.status = .ready ∧ row.revealedAt = none then some (some (row.consumed now)) else none
  if claimed = true then pure (.answer (revealedAnswer vault checked)) else Script.throw .alreadyRevealed

/-! ## The program -/

def credentialScript : CredentialPoint → CredentialScript CredentialNext
  | .preparing input => prepareStore input
  | .upserting input => upsertCredential vault input
  | .locking input => lockCredential input
  | .checking input => readCredential input
  | .expiring input _ => expireCredential input
  | .auditing checked => lockAudit checked
  | .searching checked => searchAudit checked
  | .recording checked => recordAudit checked
  | .confirming checked => confirmAudit checked
  | .consuming checked now => consumeCredential vault checked now

/-- Only the read of the server is not in the transaction of what follows. -/
def CredentialPoint.ends : CredentialPoint → Bool
  | .preparing _ => true
  | _ => false

inductive CredentialWorld where
  /-- A transfer of a server has been committed. -/
  | transfer (id targetUserId : String)
  /-- A server has been written elsewhere; its owner stays. -/
  | service (id : String) (server : ServerRow)
  | tick (ms : ℕ)

def changeServer (db : CredentialDb) (id : String) (change : Option ServerRow → Option ServerRow) :
    CredentialDb :=
  Function.update db (.server id) (change (db.server id))

def credentialWorld : CredentialWorld → CredentialDb → CredentialDb
  | .transfer id targetUserId, db =>
      changeServer db id (Option.map fun server => { server with userId := targetUserId })
  | .service id server, db => changeServer db id fun old =>
      some { server with userId := (old.map ServerRow.userId).getD server.userId }
  | .tick ms, db => Function.update db .clock (db.clock + ms)

def credentialProgram : Program CredentialVal CredentialError CredentialPoint CredentialAnswer
    CredentialCall CredentialWorld where
  start
    | .storeInstanceCredential input => .preparing input
    | .revealInstanceCredential input => .locking input
  script := credentialScript vault
  ends := CredentialPoint.ends
  world := credentialWorld

abbrev CredentialSystem : Type :=
  Clients ℕ CredentialVal CredentialError CredentialPoint CredentialAnswer

abbrev CredentialEvent : Type := ClientEvent ℕ CredentialCall CredentialWorld

abbrev CredentialSession : Type := Session CredentialVal CredentialError CredentialNext

end AbrChin.Security
