import AbrChin.Auth.Otp
import AbrChin.Js.Value
import AbrChin.Lib.Program

/-!
# Email addresses and their verification

`requestEmailVerification` and `verifyEmailVerificationCode` of `lib/identity/email-verification.ts` and
the `PATCH` of `app/api/account/profile/route.ts`, as the calls of one user.  All their transactions
lock the row of the user first.  Outside of them a profile change reads the row of the user and looks
for another account with the address, it deletes challenges once more at its end, and a request whose
message cannot be sent deletes its challenge.

Whether another account has an address, and whether a message is sent, are given with the call.  Names
and texts are left out.  A row of its own keeps which codes have been proved; it is written together
with the consumption of a challenge, and nothing reads it.
-/

namespace AbrChin.Auth

open Lib

/-! ## The rows -/

structure EmailUser where
  email : Option String
  emailVerifiedAt : Option ℤ := none
  deriving DecidableEq

structure EmailChallenge where
  id : String
  email : String
  codeHash : String
  expiresAt : ℤ
  attempts : ℕ := 0
  consumedAt : Option ℤ := none
  createdAt : ℤ
  deriving DecidableEq

/-- A challenge that has been consumed with a code. -/
structure EmailProof where
  challenge : EmailChallenge
  code : String
  deriving DecidableEq

inductive EmailRow where
  | user
  | challenge (id : String)
  /-- The ids of the challenges, by which a query finds them. -/
  | challengeIds
  /-- `pg_advisory_xact_lock` -/
  | advisoryLock
  | proofs
  deriving DecidableEq

abbrev EmailVal : EmailRow → Type
  | .user => EmailUser
  | .challenge _ => Option EmailChallenge
  | .challengeIds => List String
  | .advisoryLock => Unit
  | .proofs => List EmailProof

abbrev EmailDb : Type := (row : EmailRow) → EmailVal row

inductive EmailError where
  /-- A row that is to be updated is gone. -/
  | recordNotFound
  /-- A unique value that another row has. -/
  | uniqueViolation
  deriving DecidableEq

abbrev EmailScript (α : Type) : Type := Script EmailVal EmailError α

def EmailDb.user (db : EmailDb) : EmailUser := db .user

def EmailDb.proofs (db : EmailDb) : List EmailProof := db .proofs

def EmailDb.challenge (db : EmailDb) (id : String) : Option EmailChallenge := db (.challenge id)

/-- The challenges of the user. -/
def EmailDb.challenges (db : EmailDb) : List EmailChallenge :=
  let ids : List String := db .challengeIds
  ids.filterMap db.challenge

/-- The challenge of a list that has been created last (`orderBy: { createdAt: "desc" }`). -/
def latest : List EmailChallenge → Option EmailChallenge
  | [] => none
  | challenge :: rest =>
      match latest rest with
      | none => some challenge
      | some other => if challenge.createdAt < other.createdAt then some other else some challenge

/-- `deleteMany` of challenges that are not consumed: those that are listed are visited one by one. -/
def deleteRows (keep : EmailChallenge → Bool) : List String → EmailScript Unit
  | [] => pure ()
  | id :: rest => do
      let _ ← Script.updateMany (EmailRow.challenge id) fun challenge : Option EmailChallenge =>
        challenge.bind fun challenge =>
          if challenge.consumedAt.isNone && !keep challenge then some none else none
      deleteRows keep rest

def deleteUnconsumed (keep : EmailChallenge → Bool) : EmailScript Unit := do
  let listed ← Script.query fun db : EmailDb =>
    (db.challenges.filter fun challenge => challenge.consumedAt.isNone && !keep challenge).map (·.id)
  deleteRows keep listed

/-! ## The calls -/

structure PatchInput where
  /-- `normalizeEmail(payload.email)` -/
  email : String
  /-- Another account has the address, when it is looked for. -/
  duplicate : Bool := false
  /-- Another account has the address, when it is written. -/
  taken : Bool := false

structure RequestInput where
  challengeId : String
  code : String
  /-- The moment of the cooldown check and of the creation. -/
  now : ℤ
  ttlMs : ℤ
  sent : Bool := true

structure VerifyInput where
  /-- The code that is submitted. -/
  code : String
  now : ℤ

inductive EmailCall where
  | patch (input : PatchInput)
  | request (input : RequestInput)
  | verify (input : VerifyInput)

inductive EmailAnswer where
  | updated
  | emailTaken
  | requested
  | refused
  | verified
  | alreadyVerified
  deriving DecidableEq

/-- How far a call has come. -/
inductive EmailPoint where
  /-- `findUniqueOrThrow` of the user, before the transaction. -/
  | reading (input : PatchInput)
  /-- `findFirst` of another account with the address, before the transaction. -/
  | searching (input : PatchInput)
  /-- The transaction, up to the write of the user. -/
  | changing (input : PatchInput) (emailChanged : Bool)
  | writing (input : PatchInput) (emailChanged : Bool)
  /-- `invalidateEmailChallengesForUser` -/
  | invalidating
  | reserving (input : RequestInput)
  | sending (input : RequestInput)
  /-- The message has not been sent; the challenge is deleted. -/
  | withdrawing (id : String)
  /-- The transaction of a verification, up to the consumption of the challenge. -/
  | verifying (input : VerifyInput)
  | proving (input : VerifyInput) (challenge : EmailChallenge)
  /-- The write of the user. -/
  | marking (input : VerifyInput) (challenge : EmailChallenge)

abbrev EmailNext : Type := Next EmailPoint EmailAnswer

/-! ## The profile -/

/-- The reads of the `PATCH`. -/
def readExisting (input : PatchInput) : EmailScript EmailNext := do
  let existing ← Script.query EmailDb.user
  if existing.email = some input.email then pure (.goto (.changing input false))
  else pure (.goto (.searching input))

def searchDuplicate (input : PatchInput) : EmailScript EmailNext :=
  if input.duplicate = true then pure (.answer .emailTaken) else pure (.goto (.changing input true))

def lockUser : EmailScript EmailUser := Script.getLocked EmailRow.user

def changeProfile (input : PatchInput) (emailChanged : Bool) : EmailScript EmailNext := do
  let _ ← lockUser
  Script.onlyIf (emailChanged = true) (deleteUnconsumed fun _ => false)
  pure (.goto (.writing input emailChanged))

def EmailUser.patch (input : PatchInput) (emailChanged : Bool) (user : EmailUser) : EmailUser :=
  { user with
    email := some input.email
    emailVerifiedAt := if emailChanged = true then none else user.emailVerifiedAt }

def writeProfile (input : PatchInput) (emailChanged : Bool) : EmailScript EmailNext := do
  Script.throwIf (input.taken = true) .uniqueViolation
  let _ ← Script.updateMany EmailRow.user fun user => some (EmailUser.patch input emailChanged user)
  if emailChanged = true then pure (.goto .invalidating) else pure (.answer .updated)

/-! ## `requestEmailVerification` -/

variable (hashWithSecret : String → String)

def reserve (input : RequestInput) : EmailScript EmailNext := do
  let _ ← lockUser
  let _ ← Script.getLocked EmailRow.advisoryLock
  let user ← Script.query EmailDb.user
  match user.email, user.emailVerifiedAt with
  | some email, none => do
      let recent ← Script.query fun db : EmailDb =>
        latest (db.challenges.filter fun challenge =>
          challenge.email = email && challenge.consumedAt.isNone)
      if recent.any (fun challenge => 0 < secondsUntilResend challenge.createdAt input.now) = true then
        pure (.answer .refused)
      else do
        let challenge : EmailChallenge :=
          { id := input.challengeId
            email
            codeHash := hashWithSecret input.code
            expiresAt := input.now + input.ttlMs
            createdAt := input.now }
        let created ← Script.updateMany (EmailRow.challenge input.challengeId)
          fun row : Option EmailChallenge => if row.isNone = true then some (some challenge) else none
        Script.throwIf (created = false) .uniqueViolation
        let _ ← Script.updateMany EmailRow.challengeIds fun ids => some (input.challengeId :: ids)
        deleteUnconsumed fun other => other.id = input.challengeId
        pure (.goto (.sending input))
  | _, _ => pure (.answer .refused)

def send (input : RequestInput) : EmailScript EmailNext :=
  if input.sent = true then pure (.answer .requested)
  else pure (.goto (.withdrawing input.challengeId))

def deleteChallenge (id : String) : EmailScript EmailNext := do
  let _ ← Script.updateMany (EmailRow.challenge id) fun row : Option EmailChallenge => row.map fun _ => none
  pure (.answer .refused)

/-! ## `verifyEmailVerificationCode` -/

/-- `code.trim().replace(/[۰-۹]/g, …)` -/
def normalizeCode (code : String) : String :=
  (Js.trim code).map fun c =>
    if '۰' ≤ c ∧ c ≤ '۹' then Char.ofNat (c.toNat - '۰'.toNat + '0'.toNat) else c

def EmailChallenge.toOtp (challenge : EmailChallenge) : OtpChallenge :=
  { id := 0
    mobile := challenge.email
    codeHash := challenge.codeHash
    expiresAt := challenge.expiresAt
    attempts := challenge.attempts
    consumedAt := challenge.consumedAt
    createdAt := challenge.createdAt }

/-- The submitted code is the one that the challenge was issued for. -/
def EmailProof.isCorrect (proof : EmailProof) : Bool :=
  safeEqualHex (hashWithSecret (normalizeCode proof.code)) proof.challenge.codeHash

def countAttempt (challenge : EmailChallenge) : EmailScript EmailNext := do
  let counted ← Script.updateMany (EmailRow.challenge challenge.id) fun row : Option EmailChallenge =>
    row.map fun row => some { row with attempts := row.attempts + 1 }
  Script.throwIf (counted = false) .recordNotFound
  pure (.answer .refused)

def consume (input : VerifyInput) (challenge : EmailChallenge) : EmailScript EmailNext := do
  let consumed ← Script.updateMany (EmailRow.challenge challenge.id) fun row : Option EmailChallenge =>
    row.bind fun row =>
      if row.consumedAt.isNone = true then some (some { row with consumedAt := some input.now }) else none
  if consumed = true then pure (.goto (.proving input challenge)) else pure (.answer .refused)

def verifyCode (input : VerifyInput) : EmailScript EmailNext := do
  let _ ← lockUser
  let user ← Script.query EmailDb.user
  match user.email, user.emailVerifiedAt with
  | none, _ => pure (.answer .refused)
  | some _, some _ => pure (.answer .alreadyVerified)
  | some email, none => do
      let newest ← Script.query fun db : EmailDb =>
        latest (db.challenges.filter fun challenge => challenge.email = email)
      match newest with
      | none => pure (.answer .refused)
      | some challenge =>
          if (canAttemptOtp challenge.toOtp input.now).isSome = true then pure (.answer .refused)
          else if EmailProof.isCorrect hashWithSecret ⟨challenge, input.code⟩ = false then
            countAttempt challenge
          else consume input challenge

def verifyEmailVerificationCode (input : VerifyInput) : EmailScript EmailNext :=
  if isOtpCode (normalizeCode input.code) = false then pure (.answer .refused)
  else verifyCode hashWithSecret input

/-- The record of what has been proved. -/
def recordProof (input : VerifyInput) (challenge : EmailChallenge) : EmailScript EmailNext := do
  let _ ← Script.updateMany EmailRow.proofs fun proofs => some (⟨challenge, input.code⟩ :: proofs)
  pure (.goto (.marking input challenge))

def markVerified (input : VerifyInput) (challenge : EmailChallenge) : EmailScript EmailNext := do
  let marked ← Script.updateMany EmailRow.user fun user : EmailUser =>
    if user.email = some challenge.email ∧ user.emailVerifiedAt = none then
      some { user with emailVerifiedAt := some input.now } else none
  if marked = true then pure (.answer .verified)
  else do
    let latest ← Script.query EmailDb.user
    pure (.answer (if latest.emailVerifiedAt.isSome = true then .alreadyVerified else .refused))

/-! ## The program -/

def emailScript : EmailPoint → EmailScript EmailNext
  | .reading input => readExisting input
  | .searching input => searchDuplicate input
  | .changing input emailChanged => changeProfile input emailChanged
  | .writing input emailChanged => writeProfile input emailChanged
  | .invalidating => do
      deleteUnconsumed fun _ => false
      pure (.answer .updated)
  | .reserving input => reserve hashWithSecret input
  | .sending input => send input
  | .withdrawing id => deleteChallenge id
  | .verifying input => verifyEmailVerificationCode hashWithSecret input
  | .proving input challenge => recordProof input challenge
  | .marking input challenge => markVerified input challenge

def EmailPoint.ends : EmailPoint → Bool
  | .changing _ _ | .verifying _ | .proving _ _ => false
  | _ => true

def emailProgram : Program EmailVal EmailError EmailPoint EmailAnswer EmailCall Empty where
  start
    | .patch input => .reading input
    | .request input => .reserving input
    | .verify input => .verifying input
  script := emailScript hashWithSecret
  ends := EmailPoint.ends
  world event := nomatch event

abbrev EmailSystem : Type := Clients ℕ EmailVal EmailError EmailPoint EmailAnswer

abbrev EmailEvent : Type := ClientEvent ℕ EmailCall Empty

abbrev EmailSession : Type := Session EmailVal EmailError EmailNext

end AbrChin.Auth
