import AbrChin.Lib.Pool
import AbrChin.Lib.Table
import Mathlib.Data.List.Sort

/-!
# Login codes

`requestLoginOtp` and `verifyLoginOtp` of `lib/auth-service.ts` with the rules of `lib/otp-rules.ts`.
Calls run at the same time, and each of their statements is a step of its own: between two steps of a
call the challenges may change and time may pass.  A request holds an advisory lock for its mobile from
the cooldown check to the commit; its writes are seen together, when it commits.

A `Call` is what a call does next, with its variables.  Ids are given in order; `hashWithSecret` is a
parameter, and so is the time for which a code is valid.
-/

namespace AbrChin.Auth

open Lib

/-! ## `otp-rules.ts` -/

def otpMaxAttempts : ℕ := 5

def otpResendCooldownSeconds : ℤ := 60

structure OtpChallenge where
  id : ℕ
  mobile : String
  codeHash : String
  expiresAt : ℤ
  attempts : ℕ := 0
  consumedAt : Option ℤ := none
  createdAt : ℤ
  deriving DecidableEq

inductive OtpValidationFailure where
  | expired
  | consumed
  | maxAttempts
  deriving DecidableEq

def isOtpExpired (challenge : OtpChallenge) (now : ℤ) : Bool := challenge.expiresAt ≤ now

def canAttemptOtp (challenge : OtpChallenge) (now : ℤ) : Option OtpValidationFailure :=
  if challenge.consumedAt.isSome then some .consumed
  else if isOtpExpired challenge now = true then some .expired
  else if otpMaxAttempts ≤ challenge.attempts then some .maxAttempts
  else none

/-- `Math.ceil(ms / 1000)` -/
def ceilSeconds (ms : ℤ) : ℤ := -(-ms / 1000)

def secondsUntilResend (lastCreatedAt now : ℤ) : ℤ :=
  let remainingMs := otpResendCooldownSeconds * 1000 - (now - lastCreatedAt)
  if 0 < remainingMs then ceilSeconds remainingMs else 0

/-- No waiting is left once the cooldown is over. -/
theorem secondsUntilResend_pos {lastCreatedAt now : ℤ} :
    0 < secondsUntilResend lastCreatedAt now ↔ now < lastCreatedAt + 60000 := by
  unfold secondsUntilResend
  dsimp only
  have hcooldown : otpResendCooldownSeconds = 60 := rfl
  by_cases h : 0 < otpResendCooldownSeconds * 1000 - (now - lastCreatedAt)
  · rw [if_pos h]
    unfold ceilSeconds
    omega
  · rw [if_neg h]
    omega

/-! ## Codes -/

/-- `/^\d{6}$/` -/
def isOtpCode (code : String) : Bool :=
  code.toList.length = 6 && code.toList.all Char.isDigit

def hexDigit (c : Char) : Option ℕ :=
  if '0' ≤ c ∧ c ≤ '9' then some (c.toNat - '0'.toNat)
  else if 'a' ≤ c ∧ c ≤ 'f' then some (c.toNat - 'a'.toNat + 10)
  else if 'A' ≤ c ∧ c ≤ 'F' then some (c.toNat - 'A'.toNat + 10)
  else none

/-- `Buffer.from(_, "hex")`, which stops at the first pair that is not hexadecimal. -/
def hexBytes : List Char → List ℕ
  | high :: low :: rest =>
      match hexDigit high, hexDigit low with
      | some high, some low => (16 * high + low) :: hexBytes rest
      | _, _ => []
  | _ => []

def safeEqualHex (a b : String) : Bool :=
  a.length = b.length && a.length ≠ 0 && hexBytes a.toList ≠ [] &&
    hexBytes a.toList = hexBytes b.toList

/-! ## Calls -/

/-- What a call does next. -/
inductive Call where
  | done
  /-- A request that waits for the lock of its mobile. -/
  | requesting (mobile codeHash : String) (expiresAt : ℤ)
  /-- It has the lock; the cooldown check comes next. -/
  | locked (mobile codeHash : String) (expiresAt : ℤ)
  /-- The cooldown is over; the challenge is written next. -/
  | reserving (mobile codeHash : String) (expiresAt : ℤ)
  | sending (challengeId : ℕ)
  /-- The code was not delivered; its challenge is deleted next. -/
  | undelivered (challengeId : ℕ)
  /-- A verification that reads the challenge next. -/
  | verifying (mobile code : String)
  /-- `canAttemptOtp` has passed. -/
  | comparing (code : String) (challenge : OtpChallenge)
  /-- The code is wrong; the attempt is counted next. -/
  | rejecting (challenge : OtpChallenge)
  /-- The code is right; the challenge is consumed next. -/
  | consuming (challenge : OtpChallenge)
  /-- The challenge is consumed; the session is opened next. -/
  | opening (challenge : OtpChallenge)
  deriving DecidableEq

/-- The mobile whose lock the call holds. -/
def Call.lock : Call → Option String
  | .locked mobile _ _ | .reserving mobile _ _ => some mobile
  | _ => none

structure LoginSystem where
  challenges : Table OtpChallenge.id
  calls : List Call
  clock : ℤ
  nextId : ℕ

/-- What a step does that is not only a read. -/
inductive Outcome where
  | issued (challenge : OtpChallenge)
  | undelivered (challengeId : ℕ)
  /-- A submitted code was compared with the hash of the challenge. -/
  | compared (challengeId : ℕ)
  | consumed (challengeId : ℕ)
  /-- A session was opened with the challenge. -/
  | opened (challenge : OtpChallenge) (now : ℤ)
  deriving DecidableEq

/-- What a step gets from outside the challenges. -/
structure CallInput where
  /-- The provider has taken the message. -/
  delivered : Bool := true
  /-- The user of the mobile is blocked. -/
  blocked : Bool := false

/-- The first of the rows in the order `createdAt: "desc"`. -/
def newest (rows : List OtpChallenge) : Option OtpChallenge :=
  (rows.insertionSort fun left right => right.createdAt ≤ left.createdAt).head?

def isOpenFor (mobile : String) (row : OtpChallenge) : Bool :=
  row.mobile = mobile && row.consumedAt = none

def OtpChallenge.countAttempt (row : OtpChallenge) : OtpChallenge :=
  { row with attempts := row.attempts + 1 }

def OtpChallenge.consume (now : ℤ) (row : OtpChallenge) : OtpChallenge :=
  { row with consumedAt := some now }

namespace LoginSystem

variable (hashWithSecret : String → String) (sys : LoginSystem)

/-- The latest challenge that has not been consumed. -/
def recent (mobile : String) : Option OtpChallenge :=
  newest (sys.challenges.rows.filter (isOpenFor mobile))

/-- The challenge that a verification reads. -/
def latest (mobile : String) : Option OtpChallenge :=
  newest (sys.challenges.rows.filter fun row => row.mobile = mobile)

/-- The challenge that a request creates. -/
def newChallenge (mobile codeHash : String) (expiresAt : ℤ) : OtpChallenge where
  id := sys.nextId
  mobile := mobile
  codeHash := codeHash
  expiresAt := expiresAt
  createdAt := sys.clock

/-- Create the challenge and delete the others that are open. -/
def reserve (challenge : OtpChallenge) : Option (Table OtpChallenge.id) :=
  (sys.challenges.insert? challenge).map fun challenges =>
    challenges.filter fun row => !(isOpenFor challenge.mobile row && row.id ≠ challenge.id)

/-- The next step of a call: what it does next, the challenges, and the outcome. -/
def next (input : CallInput) : Call → Call × Table OtpChallenge.id × Option Outcome
  | .done => (.done, sys.challenges, none)
  | .requesting mobile codeHash expiresAt =>
      if sys.calls.any (fun call => call.lock = some mobile) then
        (.requesting mobile codeHash expiresAt, sys.challenges, none)
      else (.locked mobile codeHash expiresAt, sys.challenges, none)
  | .locked mobile codeHash expiresAt =>
      if (sys.recent mobile).any (fun row => 0 < secondsUntilResend row.createdAt sys.clock) then
        (.done, sys.challenges, none)
      else (.reserving mobile codeHash expiresAt, sys.challenges, none)
  | .reserving mobile codeHash expiresAt =>
      let challenge := sys.newChallenge mobile codeHash expiresAt
      match sys.reserve challenge with
      | some challenges => (.sending challenge.id, challenges, some (.issued challenge))
      | none => (.done, sys.challenges, none)
  | .sending challengeId =>
      if input.delivered = true then (.done, sys.challenges, none)
      else (.undelivered challengeId, sys.challenges, some (.undelivered challengeId))
  | .undelivered challengeId =>
      (.done, sys.challenges.filter (fun row => row.id ≠ challengeId), none)
  | .verifying mobile code =>
      match sys.latest mobile with
      | none => (.done, sys.challenges, none)
      | some challenge =>
          if (canAttemptOtp challenge sys.clock).isSome then (.done, sys.challenges, none)
          else (.comparing code challenge, sys.challenges, none)
  | .comparing code challenge =>
      if safeEqualHex (hashWithSecret code) challenge.codeHash = true then
        (.consuming challenge, sys.challenges, some (.compared challenge.id))
      else (.rejecting challenge, sys.challenges, some (.compared challenge.id))
  | .rejecting challenge =>
      (.done, sys.challenges.modify challenge.id OtpChallenge.countAttempt fun _ => rfl, none)
  | .consuming challenge =>
      match sys.challenges.updateIf? challenge.id (fun row => row.consumedAt = none)
          (OtpChallenge.consume sys.clock) fun _ => rfl with
      | some challenges => (.opening challenge, challenges, some (.consumed challenge.id))
      | none => (.done, sys.challenges, none)
  | .opening challenge =>
      if input.blocked = true then (.done, sys.challenges, none)
      else (.done, sys.challenges, some (.opened challenge sys.clock))

end LoginSystem

/-! ## The system -/

inductive Event where
  /-- A request with the code that is generated for it; the mobile's user may be blocked. -/
  | requestLoginOtp (mobile code : String) (blocked : Bool)
  | verifyLoginOtp (mobile code : String)
  /-- The call at a place of the list takes its next step. -/
  | step (call : ℕ) (input : CallInput)
  /-- Milliseconds pass. -/
  | tick (ms : ℕ)

variable (hashWithSecret : String → String) (otpTtlSeconds : ℤ)

/-- A call begins. -/
def LoginSystem.begin (sys : LoginSystem) (call : Call) : LoginSystem :=
  { sys with calls := sys.calls ++ [call] }

def stepLogin (sys : LoginSystem) : Event → LoginSystem × Option Outcome
  | .requestLoginOtp mobile code blocked =>
      if blocked = true then (sys, none)
      else (sys.begin (.requesting mobile (hashWithSecret code) (sys.clock + otpTtlSeconds * 1000)),
        none)
  | .verifyLoginOtp mobile code =>
      if isOtpCode code = true then (sys.begin (.verifying mobile code), none) else (sys, none)
  | .step place input =>
      match sys.calls[place]? with
      | none => (sys, none)
      | some call =>
          let (next, challenges, outcome) := sys.next hashWithSecret input call
          let issued := outcome.any fun
            | .issued _ => true
            | _ => false
          ({ sys with
              challenges
              calls := sys.calls.set place next
              nextId := if issued then sys.nextId + 1 else sys.nextId }, outcome)
  | .tick ms => ({ sys with clock := sys.clock + ms }, none)

/-- Before the first request. -/
def LoginSystem.start : LoginSystem := ⟨.empty, [], 0, 0⟩

end AbrChin.Auth
