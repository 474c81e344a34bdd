import AbrChin.Auth.Otp

/-!
# Guesses are counted

The attempts of a challenge are read before a code is compared with its hash, and counted after that,
so that the codes which have been compared are not all in the counter: those of calls that have still
to write what came of it are missing (`Bounded.written`).  The number of comparisons is bounded when a
verification that passes `canAttemptOtp` finds fewer than `OTP_MAX_ATTEMPTS` attempts and calls of this
kind together (`Prompt`).  That is so when the verifications of a challenge run one after another.

The consumption of a challenge is atomic, so that it opens one session at most.  Whether it has expired
is not looked at again; what `Prompt` asks for is that time does not run past it while a verification
with the right code is under way.

The cooldown holds in any case: from the check to the commit a request holds the lock, and the
challenge that is issued before is still open, unless it has been consumed or not been delivered.
-/

namespace AbrChin.Auth

open Lib

/-! ## What a step may do -/

/-- The steps of a call, with what they need. -/
inductive Moves (hashWithSecret : String → String) (sys : LoginSystem) :
    Call → Call → Table OtpChallenge.id → Option Outcome → Prop
  /-- A call ends.  A challenge that was to be consumed is not open any more. -/
  | stop (call : Call) (hrejecting : ∀ challenge, call ≠ .rejecting challenge)
      (hconsuming : ∀ challenge, call = .consuming challenge →
        ∀ row ∈ sys.challenges, row.id = challenge.id → row.consumedAt ≠ none) :
      Moves hashWithSecret sys call .done sys.challenges none
  | wait (mobile codeHash : String) (expiresAt : ℤ) :
      Moves hashWithSecret sys (.requesting mobile codeHash expiresAt)
        (.requesting mobile codeHash expiresAt) sys.challenges none
  | lock (mobile codeHash : String) (expiresAt : ℤ)
      (hfree : ∀ call ∈ sys.calls, call.lock ≠ some mobile) :
      Moves hashWithSecret sys (.requesting mobile codeHash expiresAt)
        (.locked mobile codeHash expiresAt) sys.challenges none
  | check (mobile codeHash : String) (expiresAt : ℤ)
      (hrecent : ∀ row, sys.recent mobile = some row → row.createdAt + 60000 ≤ sys.clock) :
      Moves hashWithSecret sys (.locked mobile codeHash expiresAt)
        (.reserving mobile codeHash expiresAt) sys.challenges none
  | issue (mobile codeHash : String) (expiresAt : ℤ) (challenges : Table OtpChallenge.id)
      (hreserve : sys.reserve (sys.newChallenge mobile codeHash expiresAt) = some challenges) :
      Moves hashWithSecret sys (.reserving mobile codeHash expiresAt) (.sending sys.nextId)
        challenges (some (.issued (sys.newChallenge mobile codeHash expiresAt)))
  | fail (challengeId : ℕ) :
      Moves hashWithSecret sys (.sending challengeId) (.undelivered challengeId) sys.challenges
        (some (.undelivered challengeId))
  | delete (challengeId : ℕ) :
      Moves hashWithSecret sys (.undelivered challengeId) .done
        (sys.challenges.filter fun row => row.id ≠ challengeId) none
  | read (mobile code : String) (challenge : OtpChallenge)
      (hlatest : sys.latest mobile = some challenge)
      (hattempt : canAttemptOtp challenge sys.clock = none) :
      Moves hashWithSecret sys (.verifying mobile code) (.comparing code challenge) sys.challenges none
  | compare (code : String) (challenge : OtpChallenge) (next : Call)
      (hnext : (next = .consuming challenge ∧
          safeEqualHex (hashWithSecret code) challenge.codeHash = true) ∨
        next = .rejecting challenge) :
      Moves hashWithSecret sys (.comparing code challenge) next sys.challenges
        (some (.compared challenge.id))
  | count (challenge : OtpChallenge) :
      Moves hashWithSecret sys (.rejecting challenge) .done
        (sys.challenges.modify challenge.id OtpChallenge.countAttempt fun _ => rfl) none
  | consume (challenge : OtpChallenge) (challenges : Table OtpChallenge.id)
      (hupdate : sys.challenges.updateIf? challenge.id (fun row => row.consumedAt = none)
        (OtpChallenge.consume sys.clock) (fun _ => rfl) = some challenges) :
      Moves hashWithSecret sys (.consuming challenge) (.opening challenge) challenges
        (some (.consumed challenge.id))
  | openSession (challenge : OtpChallenge) :
      Moves hashWithSecret sys (.opening challenge) .done sys.challenges
        (some (.opened challenge sys.clock))

variable {hashWithSecret : String → String} {sys : LoginSystem}

theorem moves_next (input : CallInput) (call : Call) :
    Moves hashWithSecret sys call (sys.next hashWithSecret input call).1
      (sys.next hashWithSecret input call).2.1 (sys.next hashWithSecret input call).2.2 := by
  have hstop : ∀ call : Call, (∀ challenge, call ≠ .rejecting challenge) →
      (∀ challenge, call ≠ .consuming challenge) →
      Moves hashWithSecret sys call .done sys.challenges none :=
    fun call hrejecting hconsuming => .stop call hrejecting
      fun challenge hcall => absurd hcall (hconsuming challenge)
  cases call with
  | done => exact hstop _ (by simp) (by simp)
  | requesting mobile codeHash expiresAt =>
      simp only [LoginSystem.next]
      split
      · exact .wait mobile codeHash expiresAt
      · rename_i hfree
        refine .lock mobile codeHash expiresAt fun call hcall hlock => hfree ?_
        exact List.any_eq_true.2 ⟨call, hcall, decide_eq_true hlock⟩
  | locked mobile codeHash expiresAt =>
      simp only [LoginSystem.next]
      split
      · exact hstop _ (by simp) (by simp)
      · rename_i hwait
        refine .check mobile codeHash expiresAt fun row hrow => ?_
        by_contra hlt
        refine hwait ((Option.any_eq_true _ _).2 ⟨row, hrow, decide_eq_true ?_⟩)
        exact secondsUntilResend_pos.2 (not_le.1 hlt)
  | reserving mobile codeHash expiresAt =>
      simp only [LoginSystem.next]
      split
      · rename_i challenges hreserve
        exact .issue mobile codeHash expiresAt challenges hreserve
      · exact hstop _ (by simp) (by simp)
  | sending challengeId =>
      simp only [LoginSystem.next]
      split
      · exact hstop _ (by simp) (by simp)
      · exact .fail challengeId
  | undelivered challengeId => exact .delete challengeId
  | verifying mobile code =>
      simp only [LoginSystem.next]
      split
      · exact hstop _ (by simp) (by simp)
      · rename_i challenge hlatest
        split
        · exact hstop _ (by simp) (by simp)
        · rename_i hattempt
          exact .read mobile code challenge hlatest (by simpa using hattempt)
  | comparing code challenge =>
      simp only [LoginSystem.next]
      split
      · rename_i hmatches
        exact .compare code challenge _ (.inl ⟨rfl, hmatches⟩)
      · exact .compare code challenge _ (.inr rfl)
  | rejecting challenge => exact .count challenge
  | consuming challenge =>
      simp only [LoginSystem.next]
      split
      · rename_i challenges hupdate
        exact .consume challenge challenges hupdate
      · rename_i hnone
        refine .stop _ (by simp) fun other hother row hrow hid hunconsumed => ?_
        obtain rfl : challenge = other := by simpa using hother
        unfold Table.updateIf? at hnone
        rw [← hid, Table.find?_of_mem hrow] at hnone
        simp [hunconsumed] at hnone
  | opening challenge =>
      simp only [LoginSystem.next]
      split
      · exact hstop _ (by simp) (by simp)
      · exact .openSession challenge

/-- The state after a step of a call. -/
def LoginSystem.after (sys : LoginSystem) (place : ℕ) (call : Call)
    (challenges : Table OtpChallenge.id) (outcome : Option Outcome) : LoginSystem where
  challenges := challenges
  calls := sys.calls.set place call
  clock := sys.clock
  nextId := if outcome.any (fun
    | .issued _ => true
    | _ => false) then sys.nextId + 1 else sys.nextId

/-- What an event does. -/
theorem stepLogin_cases (otpTtlSeconds : ℤ) {p : LoginSystem → Option Outcome → Prop} (event : Event)
    (hsame : p sys none)
    (hbegin : ∀ call : Call, (∃ mobile codeHash expiresAt, call = .requesting mobile codeHash expiresAt) ∨
      (∃ mobile code, call = .verifying mobile code) → p (sys.begin call) none)
    (hmove : ∀ place input, event = .step place input → ∀ call next challenges outcome,
      sys.calls[place]? = some call → Moves hashWithSecret sys call next challenges outcome →
      p (sys.after place next challenges outcome) outcome)
    (htick : ∀ ms : ℕ, event = .tick ms → p { sys with clock := sys.clock + ms } none) :
    p (stepLogin hashWithSecret otpTtlSeconds sys event).1
      (stepLogin hashWithSecret otpTtlSeconds sys event).2 := by
  cases event with
  | requestLoginOtp mobile code blocked =>
      simp only [stepLogin]
      split
      · exact hsame
      · exact hbegin _ (.inl ⟨_, _, _, rfl⟩)
  | verifyLoginOtp mobile code =>
      simp only [stepLogin]
      split
      · exact hbegin _ (.inr ⟨_, _, rfl⟩)
      · exact hsame
  | step place input =>
      cases hcall : sys.calls[place]? with
      | none =>
          simp only [stepLogin, hcall]
          exact hsame
      | some call =>
          simp only [stepLogin, hcall]
          exact hmove place input rfl call _ _ _ hcall (moves_next input call)
  | tick ms => exact htick ms rfl

/-! ## Counting -/

/-- The call compares a code with the hash of the challenge next. -/
def Call.isComparing (id : ℕ) : Call → Bool
  | .comparing _ challenge => challenge.id = id
  | _ => false

/-- The call has compared a code and has not written what came of it. -/
def Call.isUnwritten (id : ℕ) : Call → Bool
  | .rejecting challenge | .consuming challenge => challenge.id = id
  | _ => false

def Call.isOpening (id : ℕ) : Call → Bool
  | .opening challenge => challenge.id = id
  | _ => false

/-- The challenge that the call has read. -/
def Call.challenge? : Call → Option OtpChallenge
  | .comparing _ challenge | .rejecting challenge | .consuming challenge | .opening challenge =>
      some challenge
  | _ => none

/-- The call has passed `canAttemptOtp` and has not written what came of it. -/
def Call.isPending (id : ℕ) (call : Call) : Bool := call.isComparing id || call.isUnwritten id

def compares (id : ℕ) : Option Outcome → Bool
  | some (.compared challengeId) => challengeId = id
  | _ => false

def opens (id : ℕ) : Option Outcome → Bool
  | some (.opened challenge _) => challenge.id = id
  | _ => false

/-- The calls that have passed `canAttemptOtp` compare a code next, or have compared one. -/
theorem countP_isPending (calls : List Call) (id : ℕ) : calls.countP (·.isPending id) =
    calls.countP (·.isComparing id) + calls.countP (·.isUnwritten id) := by
  induction calls with
  | nil => rfl
  | cons call rest ih =>
      simp only [List.countP_cons, ih]
      cases call <;> simp [Call.isPending, Call.isComparing, Call.isUnwritten] <;> omega

/-- What is counted for a challenge, in the results of a run and the calls under way. -/
@[ext]
structure Tally where
  compared : ℕ
  comparing : ℕ
  unwritten : ℕ
  opened : ℕ
  opening : ℕ

def tally (results : List (Option Outcome)) (calls : List Call) (id : ℕ) : Tally where
  compared := results.countP (compares id)
  comparing := calls.countP (·.isComparing id)
  unwritten := calls.countP (·.isUnwritten id)
  opened := results.countP (opens id)
  opening := calls.countP (·.isOpening id)

/-- The counts are those of challenges that have been issued, and bounded. -/
structure Bounded (counts : ℕ → Tally) (challenges : Table OtpChallenge.id) (nextId : ℕ) : Prop where
  below : ∀ row ∈ challenges, row.id < nextId
  /-- Nothing is counted for a challenge that has not been issued. -/
  fresh : ∀ id, nextId ≤ id → counts id = ⟨0, 0, 0, 0, 0⟩
  compared : ∀ id, (counts id).compared + (counts id).comparing ≤ otpMaxAttempts
  /-- The comparisons of an open challenge are in its counter, or still to be written. -/
  written : ∀ row ∈ challenges, row.consumedAt = none →
    (counts row.id).compared = row.attempts + (counts row.id).unwritten
  unopened : ∀ row ∈ challenges, row.consumedAt = none →
    (counts row.id).opened = 0 ∧ (counts row.id).opening = 0
  opened : ∀ id, (counts id).opened + (counts id).opening ≤ 1

/-- The challenge for which the call has the right code. -/
def Call.granted (hashWithSecret : String → String) : Call → Option OtpChallenge
  | .comparing code challenge =>
      if safeEqualHex (hashWithSecret code) challenge.codeHash then some challenge else none
  | .consuming challenge | .opening challenge => some challenge
  | _ => none

/-- The mobile whose challenge the call reads next. -/
def Call.verifies : Call → Option String
  | .verifying mobile _ => some mobile
  | _ => none

/-- Steps under which the guesses are bounded: a verification that passes `canAttemptOtp` finds fewer
than `OTP_MAX_ATTEMPTS` attempts and pending verifications, and time does not run past the expiry of a
challenge while a verification with the right code is under way. -/
def Prompt (hashWithSecret : String → String) (sys : LoginSystem) : Event → Prop
  | .step place _ => ∀ call ∈ sys.calls[place]?, ∀ mobile ∈ call.verifies,
      ∀ challenge ∈ sys.latest mobile, canAttemptOtp challenge sys.clock = none →
        challenge.attempts + sys.calls.countP (·.isPending challenge.id) < otpMaxAttempts
  | .tick ms => ∀ call ∈ sys.calls, ∀ challenge ∈ call.granted hashWithSecret,
      sys.clock + ms < challenge.expiresAt
  | _ => True

instance (hashWithSecret : String → String) (sys : LoginSystem) :
    ∀ event, Decidable (Prompt hashWithSecret sys event)
  | .step place _ => inferInstanceAs (Decidable (∀ call ∈ sys.calls[place]?, ∀ mobile ∈ call.verifies,
      ∀ challenge ∈ sys.latest mobile, canAttemptOtp challenge sys.clock = none →
        challenge.attempts + sys.calls.countP (·.isPending challenge.id) < otpMaxAttempts))
  | .tick ms => inferInstanceAs (Decidable (∀ call ∈ sys.calls,
      ∀ challenge ∈ call.granted hashWithSecret, sys.clock + ms < challenge.expiresAt))
  | .requestLoginOtp _ _ _ | .verifyLoginOtp _ _ => .isTrue trivial

/-! ### Changes of the counts -/

namespace Bounded

variable {counts counts' : ℕ → Tally} {challenges challenges' : Table OtpChallenge.id} {nextId : ℕ}

/-- A challenge for which something is counted has been issued. -/
theorem lt_nextId (h : Bounded counts challenges nextId) {id : ℕ}
    (hcounted : counts id ≠ ⟨0, 0, 0, 0, 0⟩) : id < nextId := by
  by_contra hlt
  exact hcounted (h.fresh id (not_lt.1 hlt))

/-- A step that changes the counts of one challenge, and at most its row. -/
theorem change (h : Bounded counts challenges nextId) {id : ℕ} (hid : id < nextId)
    (hothers : ∀ other ≠ id, counts' other = counts other)
    (hcompared : (counts' id).compared + (counts' id).comparing ≤ otpMaxAttempts)
    (hopened : (counts' id).opened + (counts' id).opening ≤ 1)
    (hrows : ∀ row ∈ challenges', row.id ≠ id → row ∈ challenges)
    (hrow : ∀ row ∈ challenges', row.id = id → row.consumedAt = none →
      (counts' id).compared = row.attempts + (counts' id).unwritten ∧
        (counts' id).opened = 0 ∧ (counts' id).opening = 0) :
    Bounded counts' challenges' nextId where
  below row hmem := by
    by_cases hsame : row.id = id
    · rw [hsame]
      exact hid
    · exact h.below row (hrows row hmem hsame)
  fresh other hfresh := by
    rw [hothers other (by omega)]
    exact h.fresh other hfresh
  compared other := by
    by_cases hsame : other = id
    · rw [hsame]
      exact hcompared
    · rw [hothers other hsame]
      exact h.compared other
  written row hmem hunconsumed := by
    by_cases hsame : row.id = id
    · rw [hsame]
      exact (hrow row hmem hsame hunconsumed).1
    · rw [hothers row.id hsame]
      exact h.written row (hrows row hmem hsame) hunconsumed
  unopened row hmem hunconsumed := by
    by_cases hsame : row.id = id
    · rw [hsame]
      exact (hrow row hmem hsame hunconsumed).2
    · rw [hothers row.id hsame]
      exact h.unopened row (hrows row hmem hsame) hunconsumed
  opened other := by
    by_cases hsame : other = id
    · rw [hsame]
      exact hopened
    · rw [hothers other hsame]
      exact h.opened other

/-- Rows are lost. -/
theorem mono (h : Bounded counts challenges nextId) (hrows : ∀ row ∈ challenges', row ∈ challenges) :
    Bounded counts challenges' nextId :=
  ⟨fun row hrow => h.below row (hrows row hrow), h.fresh, h.compared,
    fun row hrow => h.written row (hrows row hrow), fun row hrow => h.unopened row (hrows row hrow),
    h.opened⟩

/-- A challenge is issued. -/
theorem issue (h : Bounded counts challenges nextId) (challenge : OtpChallenge)
    (hid : challenge.id = nextId) (hattempts : challenge.attempts = 0)
    (hrows : ∀ row ∈ challenges', row ∈ challenges ∨ row = challenge) :
    Bounded counts challenges' (nextId + 1) where
  below row hmem := by
    rcases hrows row hmem with hold | rfl
    · exact Nat.lt_succ_of_lt (h.below row hold)
    · rw [hid]
      exact Nat.lt_succ_self nextId
  fresh other hfresh := h.fresh other (by omega)
  compared := h.compared
  written row hmem hunconsumed := by
    rcases hrows row hmem with hold | rfl
    · exact h.written row hold hunconsumed
    · rw [hid, h.fresh nextId (le_refl _), hattempts]
      rfl
  unopened row hmem hunconsumed := by
    rcases hrows row hmem with hold | rfl
    · exact h.unopened row hold hunconsumed
    · rw [hid, h.fresh nextId (le_refl _)]
      exact ⟨rfl, rfl⟩
  opened := h.opened

end Bounded

/-! ### Steps -/

section Steps

variable {results : List (Option Outcome)} {place : ℕ} {call next : Call} {outcome : Option Outcome}

/-- What a step changes in the counts of a challenge. -/
theorem tally_after (results : List (Option Outcome)) (next : Call) (outcome : Option Outcome)
    (hcall : sys.calls[place]? = some call) (id : ℕ) :
    let before := tally results sys.calls id
    let after := tally (results ++ [outcome]) (sys.calls.set place next) id
    after.compared = before.compared + (if compares id outcome then 1 else 0) ∧
      after.opened = before.opened + (if opens id outcome then 1 else 0) ∧
      after.comparing + (if call.isComparing id then 1 else 0) =
        before.comparing + (if next.isComparing id then 1 else 0) ∧
      after.unwritten + (if call.isUnwritten id then 1 else 0) =
        before.unwritten + (if next.isUnwritten id then 1 else 0) ∧
      after.opening + (if call.isOpening id then 1 else 0) =
        before.opening + (if next.isOpening id then 1 else 0) :=
  ⟨Calls.countP_begin _, Calls.countP_begin _, Calls.countP_step _ hcall, Calls.countP_step _ hcall,
    Calls.countP_step _ hcall⟩

/-- The call, the next stage and the outcome count nothing for the challenge. -/
def Uncounted (call next : Call) (outcome : Option Outcome) (id : ℕ) : Prop :=
  compares id outcome = false ∧ opens id outcome = false ∧ call.isComparing id = false ∧
    next.isComparing id = false ∧ call.isUnwritten id = false ∧ next.isUnwritten id = false ∧
    call.isOpening id = false ∧ next.isOpening id = false

theorem tally_of_uncounted (hcall : sys.calls[place]? = some call) {id : ℕ}
    (h : Uncounted call next outcome id) :
    tally (results ++ [outcome]) (sys.calls.set place next) id = tally results sys.calls id := by
  obtain ⟨hcompared, hopened, hcomparing, hunwritten, hopening⟩ :=
    tally_after results next outcome hcall id
  obtain ⟨h₁, h₂, h₃, h₄, h₅, h₆, h₇, h₈⟩ := h
  rw [h₁] at hcompared
  rw [h₂] at hopened
  rw [h₃, h₄] at hcomparing
  rw [h₅, h₆] at hunwritten
  rw [h₇, h₈] at hopening
  exact Tally.ext hcompared hcomparing hunwritten hopened hopening

/-- Nothing is counted for other challenges than that of the call. -/
theorem uncounted_of_ne {id other : ℕ} (hother : other ≠ id)
    (hcall : ∀ challenge, call.challenge? = some challenge → challenge.id = id)
    (hnext : ∀ challenge, next.challenge? = some challenge → challenge.id = id)
    (hcompares : compares other outcome = false) (hopens : opens other outcome = false) :
    Uncounted call next outcome other := by
  have hnone : ∀ call : Call, (∀ challenge, call.challenge? = some challenge → challenge.id = id) →
      call.isComparing other = false ∧ call.isUnwritten other = false ∧
        call.isOpening other = false := by
    intro call hcall
    cases call with
    | comparing code challenge =>
        have hid := hcall challenge rfl
        exact ⟨decide_eq_false fun heq => hother (heq.symm.trans hid), rfl, rfl⟩
    | rejecting challenge | consuming challenge =>
        have hid := hcall challenge rfl
        exact ⟨rfl, decide_eq_false fun heq => hother (heq.symm.trans hid), rfl⟩
    | opening challenge =>
        have hid := hcall challenge rfl
        exact ⟨rfl, rfl, decide_eq_false fun heq => hother (heq.symm.trans hid)⟩
    | done | requesting | locked | reserving | sending | undelivered | verifying =>
        exact ⟨rfl, rfl, rfl⟩
  obtain ⟨h₁, h₂, h₃⟩ := hnone call hcall
  obtain ⟨h₄, h₅, h₆⟩ := hnone next hnext
  exact ⟨hcompares, hopens, h₁, h₄, h₂, h₅, h₃, h₆⟩

/-- A call that is about no challenge counts nothing. -/
theorem uncounted_of_none (hcall : call.challenge? = none) (hnext : next.challenge? = none)
    (hcompares : ∀ id, compares id outcome = false) (hopens : ∀ id, opens id outcome = false)
    (id : ℕ) : Uncounted call next outcome id := by
  refine uncounted_of_ne (Nat.succ_ne_self id).symm ?_ ?_ (hcompares id) (hopens id)
  · rw [hcall]
    exact fun _ h => by cases h
  · rw [hnext]
    exact fun _ h => by cases h

/-- A challenge that a call has read is counted. -/
theorem counted_of_call (hcall : sys.calls[place]? = some call) {challenge : OtpChallenge}
    (hchallenge : call.challenge? = some challenge) :
    tally results sys.calls challenge.id ≠ ⟨0, 0, 0, 0, 0⟩ := by
  have hmem := List.mem_of_getElem? hcall
  have hcount : ∀ p : Call → Bool, p call = true → sys.calls.countP p ≠ 0 := by
    intro p hp
    exact Nat.pos_iff_ne_zero.1 (List.countP_pos_iff.2 ⟨call, hmem, hp⟩)
  intro hzero
  cases call with
  | comparing code other =>
      obtain rfl := Option.some.inj hchallenge
      exact hcount _ (decide_eq_true rfl) (congrArg Tally.comparing hzero)
  | rejecting other | consuming other =>
      obtain rfl := Option.some.inj hchallenge
      exact hcount _ (decide_eq_true rfl) (congrArg Tally.unwritten hzero)
  | opening other =>
      obtain rfl := Option.some.inj hchallenge
      exact hcount _ (decide_eq_true rfl) (congrArg Tally.opening hzero)
  | done | requesting | locked | reserving | sending | undelivered | verifying => cases hchallenge

/-- A row of the latest challenge is one of the rows. -/
theorem mem_of_newest {rows : List OtpChallenge} {challenge : OtpChallenge}
    (h : newest rows = some challenge) : challenge ∈ rows := by
  unfold newest at h
  exact (List.mem_insertionSort _).1 (List.mem_of_mem_head? h)

/-- **A step keeps the counts bounded**, when a verification that passes `canAttemptOtp` finds fewer
than `OTP_MAX_ATTEMPTS` attempts and pending verifications. -/
theorem bounded_after (h : Bounded (tally results sys.calls) sys.challenges sys.nextId)
    {challenges : Table OtpChallenge.id} (hcall : sys.calls[place]? = some call)
    (hprompt : ∀ mobile code challenge, call = .verifying mobile code →
      sys.latest mobile = some challenge → canAttemptOtp challenge sys.clock = none →
      challenge.attempts + sys.calls.countP (·.isPending challenge.id) < otpMaxAttempts)
    (hmove : Moves hashWithSecret sys call next challenges outcome) :
    Bounded (tally (results ++ [outcome]) (sys.after place next challenges outcome).calls)
      (sys.after place next challenges outcome).challenges
      (sys.after place next challenges outcome).nextId := by
  have hquiet : ∀ (hnone : call.challenge? = none ∧ next.challenge? = none ∧
      (∀ id, compares id outcome = false) ∧ ∀ id, opens id outcome = false),
      tally (results ++ [outcome]) (sys.calls.set place next) = tally results sys.calls :=
    fun ⟨h₁, h₂, h₃, h₄⟩ => funext fun id =>
      tally_of_uncounted hcall (uncounted_of_none h₁ h₂ h₃ h₄ id)
  change Bounded (tally (results ++ [outcome]) (sys.calls.set place next)) challenges
    (sys.after place next challenges outcome).nextId
  have hothers : ∀ id : ℕ, (∀ challenge, call.challenge? = some challenge → challenge.id = id) →
      (∀ challenge, next.challenge? = some challenge → challenge.id = id) →
      (∀ other ≠ id, compares other outcome = false ∧ opens other outcome = false) →
      ∀ other ≠ id, tally (results ++ [outcome]) (sys.calls.set place next) other =
        tally results sys.calls other := fun id h₁ h₂ h₃ other hother =>
    tally_of_uncounted hcall (uncounted_of_ne hother h₁ h₂ (h₃ other hother).1 (h₃ other hother).2)
  have hlt : ∀ challenge, call.challenge? = some challenge → challenge.id < sys.nextId :=
    fun challenge hchallenge => h.lt_nextId (counted_of_call hcall hchallenge)
  have hstep := fun id => tally_after results next outcome hcall id
  cases hmove with
  | stop _ hrejecting hconsuming =>
      have hclose : ∀ challenge, call.challenge? = some challenge → (∀ row ∈ sys.challenges,
          row.id = challenge.id → row.consumedAt = none → call.isUnwritten challenge.id = false) →
          Bounded (tally (results ++ [none]) (sys.calls.set place .done)) sys.challenges
            sys.nextId := by
        intro challenge hchallenge hwritten
        obtain ⟨hcompared, hopened, hcomparing, hunwritten, hopening⟩ := hstep challenge.id
        have hless := Nat.le.intro hcomparing
        have hfewer := Nat.le.intro hopening
        refine h.change (hlt challenge hchallenge) (hothers challenge.id (fun other hother => ?_)
          (fun _ hnone => by cases hnone) fun _ _ => ⟨rfl, rfl⟩) ?_ ?_ (fun row hrow _ => hrow)
          fun row hrow hid hunconsumed => ?_
        · rw [hchallenge] at hother
          exact congrArg OtpChallenge.id (Option.some.inj hother.symm)
        · rw [hcompared]
          exact (Nat.add_le_add_left hless _).trans (h.compared challenge.id)
        · rw [hopened]
          exact (Nat.add_le_add_left hfewer _).trans (h.opened challenge.id)
        · have hcount := h.written row hrow hunconsumed
          obtain ⟨hnone, hnot⟩ := h.unopened row hrow hunconsumed
          rw [hwritten row hrow hid hunconsumed] at hunwritten
          rw [hid] at hcount hnone hnot
          refine ⟨?_, hopened.trans hnone, Nat.le_zero.1 (hfewer.trans (le_of_eq hnot))⟩
          rw [hcompared]
          exact hcount.trans (congrArg (row.attempts + ·) hunwritten.symm)
      cases call with
      | comparing code challenge => exact hclose challenge rfl fun _ _ _ _ => rfl
      | opening challenge => exact hclose challenge rfl fun _ _ _ _ => rfl
      | rejecting challenge => exact absurd rfl (hrejecting challenge)
      | consuming challenge =>
          exact hclose challenge rfl fun row hrow hid hunconsumed =>
            absurd hunconsumed (hconsuming challenge rfl row hrow hid)
      | done | requesting | locked | reserving | sending | undelivered | verifying =>
          have heq := hquiet ⟨rfl, rfl, fun _ => rfl, fun _ => rfl⟩
          rw [← heq] at h
          exact h
  | wait mobile codeHash expiresAt =>
      have heq := hquiet ⟨rfl, rfl, fun _ => rfl, fun _ => rfl⟩
      rw [← heq] at h
      exact h
  | lock mobile codeHash expiresAt hfree =>
      have heq := hquiet ⟨rfl, rfl, fun _ => rfl, fun _ => rfl⟩
      rw [← heq] at h
      exact h
  | check mobile codeHash expiresAt hrecent =>
      have heq := hquiet ⟨rfl, rfl, fun _ => rfl, fun _ => rfl⟩
      rw [← heq] at h
      exact h
  | fail challengeId =>
      have heq := hquiet ⟨rfl, rfl, fun _ => rfl, fun _ => rfl⟩
      rw [← heq] at h
      exact h
  | issue mobile codeHash expiresAt challenges hreserve =>
      have heq := hquiet ⟨rfl, rfl, fun _ => rfl, fun _ => rfl⟩
      rw [← heq] at h
      obtain ⟨inserted, hinsert, rfl⟩ := Option.map_eq_some_iff.1 hreserve
      refine h.issue (sys.newChallenge mobile codeHash expiresAt) rfl rfl fun row hrow => ?_
      exact (Table.mem_insert? hinsert).1 (Table.mem_filter.1 hrow).1
  | delete challengeId =>
      have heq := hquiet ⟨rfl, rfl, fun _ => rfl, fun _ => rfl⟩
      rw [← heq] at h
      exact h.mono fun row hrow => (Table.mem_filter.1 hrow).1
  | read mobile code challenge hlatest hattempt =>
      obtain ⟨hcompared, hopened, hcomparing, hunwritten, hopening⟩ := hstep challenge.id
      have hmem : challenge ∈ sys.challenges := by
        have hmem := mem_of_newest hlatest
        exact (List.mem_filter.1 hmem).1
      have hunconsumed : challenge.consumedAt = none := by
        by_contra hsome
        unfold canAttemptOtp at hattempt
        rw [if_pos (Option.isSome_iff_ne_none.2 hsome)] at hattempt
        cases hattempt
      have hpending := hprompt mobile code challenge rfl hlatest hattempt
      rw [countP_isPending] at hpending
      have hcount := h.written challenge hmem hunconsumed
      obtain ⟨hnone, hnot⟩ := h.unopened challenge hmem hunconsumed
      simp only [compares, opens, Call.isComparing, Call.isUnwritten, Call.isOpening, decide_true,
        Bool.false_eq_true, if_true, if_false, Nat.add_zero]
        at hcompared hopened hcomparing hunwritten hopening
      refine h.change (h.below challenge hmem) (hothers challenge.id (fun _ hother => by cases hother)
        (fun other hother => congrArg OtpChallenge.id (Option.some.inj hother.symm))
        fun _ _ => ⟨rfl, rfl⟩) ?_ (by omega) (fun row hrow _ => hrow) fun row hrow hid _ => ?_
      · have hbound : challenge.attempts + ((tally results sys.calls challenge.id).comparing +
            (tally results sys.calls challenge.id).unwritten) < otpMaxAttempts := hpending
        omega
      · obtain rfl := Table.eq_of_key hrow hmem hid
        omega
  | compare code challenge _ hnext =>
      have hkind : next.challenge? = some challenge ∧ next.isComparing challenge.id = false ∧
          next.isUnwritten challenge.id = true ∧ next.isOpening challenge.id = false := by
        rcases hnext with ⟨rfl, -⟩ | rfl
        · exact ⟨rfl, rfl, decide_eq_true rfl, rfl⟩
        · exact ⟨rfl, rfl, decide_eq_true rfl, rfl⟩
      obtain ⟨hcompared, hopened, hcomparing, hunwritten, hopening⟩ := hstep challenge.id
      have hbound := h.compared challenge.id
      have honce := h.opened challenge.id
      rw [hkind.2.1] at hcomparing
      rw [hkind.2.2.1] at hunwritten
      rw [hkind.2.2.2] at hopening
      simp only [compares, opens, Call.isComparing, Call.isUnwritten, Call.isOpening, decide_true,
        Bool.false_eq_true, if_true, if_false, Nat.add_zero]
        at hcompared hopened hcomparing hunwritten hopening
      refine h.change (hlt challenge rfl) (hothers challenge.id
        (fun other hother => congrArg OtpChallenge.id (Option.some.inj hother.symm))
        (fun other hother => ?_) fun other hother => ⟨decide_eq_false (Ne.symm hother), rfl⟩)
        (by omega) (by omega) (fun row hrow _ => hrow) fun row hrow hrowId hunconsumed => ?_
      · rw [hkind.1] at hother
        exact congrArg OtpChallenge.id (Option.some.inj hother.symm)
      · have hcount := h.written row hrow hunconsumed
        have hnone := h.unopened row hrow hunconsumed
        rw [hrowId] at hcount hnone
        omega
  | count challenge =>
      obtain ⟨hcompared, hopened, hcomparing, hunwritten, hopening⟩ := hstep challenge.id
      have hid := hlt challenge rfl
      have hbound := h.compared challenge.id
      have honce := h.opened challenge.id
      simp only [compares, opens, Call.isComparing, Call.isUnwritten, Call.isOpening, decide_true,
        Bool.false_eq_true, if_true, if_false, Nat.add_zero]
        at hcompared hopened hcomparing hunwritten hopening
      refine h.change hid (hothers challenge.id
        (fun other hother => congrArg OtpChallenge.id (Option.some.inj hother.symm))
        (fun other hother => by cases hother) fun _ _ => ⟨rfl, rfl⟩) (by omega) (by omega)
        (fun row hrow hne => ?_) fun row hrow hrowId hunconsumed => ?_
      · obtain ⟨old, hold, rfl⟩ := Table.mem_modify.1 hrow
        by_cases hsame : old.id = challenge.id
        · rw [if_pos hsame] at hne
          exact absurd hsame hne
        · rw [if_neg hsame]
          exact hold
      · obtain ⟨old, hold, rfl⟩ := Table.mem_modify.1 hrow
        by_cases hsame : old.id = challenge.id
        · rw [if_pos hsame] at hunconsumed ⊢
          have hcount := h.written old hold hunconsumed
          have hnone := h.unopened old hold hunconsumed
          rw [hsame] at hcount hnone
          have hcounted : old.countAttempt.attempts = old.attempts + 1 := rfl
          omega
        · rw [if_neg hsame] at hrowId
          exact absurd hrowId hsame
  | consume challenge challenges hupdate =>
      obtain ⟨hcompared, hopened, hcomparing, hunwritten, hopening⟩ := hstep challenge.id
      have hid := hlt challenge rfl
      have hbound := h.compared challenge.id
      have honce := h.opened challenge.id
      simp only [compares, opens, Call.isComparing, Call.isUnwritten, Call.isOpening, decide_true,
        Bool.false_eq_true, if_true, if_false, Nat.add_zero]
        at hcompared hopened hcomparing hunwritten hopening
      obtain ⟨row, hfound, hopen, rfl⟩ := Table.updateIf?_eq_some.1 hupdate
      have hmem := Table.mem_of_find? hfound
      have hrowId : row.id = challenge.id := Table.key_of_find? hfound
      have hnone := h.unopened row hmem (of_decide_eq_true hopen)
      rw [hrowId] at hnone
      refine h.change hid (hothers challenge.id
        (fun other hother => congrArg OtpChallenge.id (Option.some.inj hother.symm))
        (fun other hother => congrArg OtpChallenge.id (Option.some.inj hother.symm))
        fun _ _ => ⟨rfl, rfl⟩) (by omega) (by omega) (fun later hlater hne => ?_)
        fun later hlater hlaterId hunconsumed => ?_
      · obtain ⟨old, hold, rfl⟩ := Table.mem_modify.1 hlater
        by_cases hsame : old.id = challenge.id
        · rw [if_pos hsame] at hne
          exact absurd hsame hne
        · rw [if_neg hsame]
          exact hold
      · obtain ⟨old, hold, rfl⟩ := Table.mem_modify.1 hlater
        by_cases hsame : old.id = challenge.id
        · rw [if_pos hsame] at hunconsumed
          cases hunconsumed
        · rw [if_neg hsame] at hlaterId
          exact absurd hlaterId hsame
  | openSession challenge =>
      obtain ⟨hcompared, hopened, hcomparing, hunwritten, hopening⟩ := hstep challenge.id
      have hid := hlt challenge rfl
      have hbound := h.compared challenge.id
      have honce := h.opened challenge.id
      simp only [compares, opens, Call.isComparing, Call.isUnwritten, Call.isOpening, decide_true,
        Bool.false_eq_true, if_true, if_false, Nat.add_zero]
        at hcompared hopened hcomparing hunwritten hopening
      refine h.change hid (hothers challenge.id
        (fun other hother => congrArg OtpChallenge.id (Option.some.inj hother.symm))
        (fun other hother => by cases hother)
        fun other hother => ⟨rfl, decide_eq_false (Ne.symm hother)⟩) (by omega) (by omega)
        (fun row hrow _ => hrow) fun row hrow hrowId hunconsumed => ?_
      have hnone := h.unopened row hrow hunconsumed
      rw [hrowId] at hnone
      omega

end Steps

end AbrChin.Auth
