import AbrChin.Auth.EmailVerification

/-!
# A verified address has been proved

A verification sets `emailVerifiedAt` only on a row that has the address of the challenge it has
consumed (`inv_marked`), and a profile change that has found another address resets it.  A profile
change that has found its own address in the row leaves `emailVerifiedAt` as it is.  It has found it
before its transaction, though, and in the meantime another change may have replaced the address and a
verification may have proved the other one (`unproved_email`).

`keeps_emailGood` shows that this is the only way: as long as a profile change that leaves
`emailVerifiedAt` alone does not meet a row that is verified with another address, a verified address
has been proved.
-/

namespace AbrChin.Auth

open Lib

variable {hashWithSecret : String → String} {db later : EmailDb}

/-! ## What is claimed, and the condition -/

/-- The address of the user, if it is verified, is the one of a challenge that has been consumed with
its code. -/
def VerifiedIsProved (hashWithSecret : String → String) (db : EmailDb) : Prop :=
  ∀ verifiedAt, db.user.emailVerifiedAt = some verifiedAt →
    ∃ proof ∈ db.proofs, db.user.email = some proof.challenge.email ∧
      proof.isCorrect hashWithSecret = true

/-- A challenge for the address has been consumed with its code. -/
def Proved (db : EmailDb) (email : String) : Prop :=
  ∃ proof ∈ db.proofs, proof.challenge.email = email

instance (db : EmailDb) (email : String) : Decidable (Proved db email) :=
  inferInstanceAs (Decidable (∃ proof ∈ db.proofs, proof.challenge.email = email))

/-- A profile change that has found its address in the row does not find the row verified with another
one, unless its own address has been proved. -/
def Unchanged (sys : EmailSystem) : EmailEvent → Prop
  | .statement client => ∀ activity, sys.activity client = some activity →
      match activity.point with
      | .writing input false => (EmailDb.user sys.shared.db).emailVerifiedAt.isSome = true →
          (EmailDb.user sys.shared.db).email = some input.email ∨ Proved sys.shared.db input.email
      | _ => True
  | _ => True

/-! ## The invariant -/

structure EmailGood (hashWithSecret : String → String) (db : EmailDb) : Prop where
  verified : db.user.emailVerifiedAt.isSome = true →
    ∃ email, db.user.email = some email ∧ Proved db email
  correct : ∀ proof ∈ db.proofs, proof.isCorrect hashWithSecret = true

theorem EmailGood.verifiedIsProved (h : EmailGood hashWithSecret db) :
    VerifiedIsProved hashWithSecret db := by
  intro verifiedAt hverified
  have hsome : db.user.emailVerifiedAt.isSome = true := by
    rw [hverified]
    rfl
  obtain ⟨email, hemail, proof, hproof, rfl⟩ := h.verified hsome
  exact ⟨proof, hproof, hemail, h.correct proof hproof⟩

/-- Neither the user nor what has been proved is written. -/
def Elsewhere (row : EmailRow) (_ _ : EmailVal row) : Prop := row ≠ .user ∧ row ≠ .proofs

/-- What a profile change writes. -/
def PatchWrites (input : PatchInput) (emailChanged : Bool) :
    (row : EmailRow) → EmailVal row → EmailVal row → Prop
  | .user, old, new => EmailUser.email new = some input.email ∧
      EmailUser.emailVerifiedAt new = if emailChanged = true then none else EmailUser.emailVerifiedAt old
  | .proofs, _, _ => False
  | _, _, _ => True

/-- What a verification writes once it has consumed its challenge. -/
def MarkWrites (proof : EmailProof) : (row : EmailRow) → EmailVal row → EmailVal row → Prop
  | .user, _, new => EmailUser.email new = some proof.challenge.email
  | .proofs, old, new => proof ∈ (show List EmailProof from new) ∧
      (∀ other ∈ (show List EmailProof from old), other ∈ (show List EmailProof from new)) ∧
      ∀ other ∈ (show List EmailProof from new), other = proof ∨ other ∈ (show List EmailProof from old)
  | _, _, _ => True

/-- The points that a call can come to without having consumed a challenge. -/
def EmailPoint.isOpen : EmailPoint → Bool
  | .proving _ _ | .marking _ _ => false
  | _ => true

def GoesOpen (next : EmailNext) : Prop := ∀ point, next = .goto point → point.isOpen = true

/-- A verification goes on with a challenge that its code is right for. -/
def GoesProved (hashWithSecret : String → String) (input : VerifyInput) (next : EmailNext) : Prop :=
  ∀ point, next = .goto point → ∃ challenge, point = .proving input challenge ∧
    EmailProof.isCorrect hashWithSecret ⟨challenge, input.code⟩ = true

/-- What holds of a call at its point. -/
def EmailInv (hashWithSecret : String → String) (db : EmailDb) : EmailPoint → EmailSession → Prop
  | .writing input emailChanged, session => session.Does (PatchWrites input emailChanged) GoesOpen db
  | .verifying input, session => session.Does Elsewhere (GoesProved hashWithSecret input) db
  | .proving input challenge, session =>
      EmailProof.isCorrect hashWithSecret ⟨challenge, input.code⟩ = true ∧
        session.script = emailScript hashWithSecret (.proving input challenge) ∧
        ∀ row new, session.written row = some new → Elsewhere row (db row) new
  | .marking input challenge, session =>
      EmailProof.isCorrect hashWithSecret ⟨challenge, input.code⟩ = true ∧
        session.Does (MarkWrites ⟨challenge, input.code⟩) (fun next => ∃ a, next = .answer a) db ∧
        (session.written .proofs).isSome = true
  | _, session => session.Does Elsewhere GoesOpen db

/-! ## The scripts -/

theorem elsewhere_trans (row : EmailRow) (a b c : EmailVal row) (h : Elsewhere row a b)
    (_ : Elsewhere row b c) : Elsewhere row a c := h

theorem writes_deleteRows (keep : EmailChallenge → Bool) (ids : List String) :
    (deleteRows keep ids).Writes Elsewhere := by
  induction ids with
  | nil => exact Script.writes_pure _
  | cons id rest ih =>
      have hfirst : ∀ f, (Script.updateMany (EmailRow.challenge id) f : EmailScript Bool).Writes
          Elsewhere := by
        intro f
        exact Script.writes_updateMany fun _ _ _ => ⟨EmailRow.noConfusion, EmailRow.noConfusion⟩
      exact (hfirst _).bind fun _ => ih

theorem writes_deleteUnconsumed (keep : EmailChallenge → Bool) :
    (deleteUnconsumed keep).Writes Elsewhere :=
  (Script.writes_query _).bind fun ids => writes_deleteRows keep ids

theorem goesOpen_answer (a : EmailAnswer) : GoesOpen (.answer a) := by
  intro point hpoint
  cases hpoint

variable {point : EmailPoint}

theorem goesOpen_goto (h : point.isOpen = true) : GoesOpen (.goto point) := by
  intro next hnext
  cases hnext
  exact h

theorem writes_challenge (id : String) (f : Option EmailChallenge → Option (Option EmailChallenge)) :
    (Script.updateMany (EmailRow.challenge id) f : EmailScript Bool).Writes Elsewhere :=
  Script.writes_updateMany fun _ _ _ => ⟨EmailRow.noConfusion, EmailRow.noConfusion⟩

theorem does_answer {R : (row : EmailRow) → EmailVal row → EmailVal row → Prop} (a : EmailAnswer) :
    (pure (.answer a) : EmailScript EmailNext).Does R GoesOpen :=
  Script.does_pure (goesOpen_answer a)

theorem does_goto {R : (row : EmailRow) → EmailVal row → EmailVal row → Prop}
    (h : point.isOpen = true) : (pure (.goto point) : EmailScript EmailNext).Does R GoesOpen :=
  Script.does_pure (goesOpen_goto h)

theorem does_readExisting (input : PatchInput) : (readExisting input).Does Elsewhere GoesOpen := by
  refine (Script.writes_query _).does fun existing => ?_
  by_cases hsame : existing.email = some input.email
  · rw [if_pos hsame]
    exact does_goto rfl
  · rw [if_neg hsame]
    exact does_goto rfl

theorem does_searchDuplicate (input : PatchInput) :
    (searchDuplicate input).Does Elsewhere GoesOpen := by
  unfold searchDuplicate
  by_cases hduplicate : input.duplicate = true
  · rw [if_pos hduplicate]
    exact does_answer _
  · rw [if_neg hduplicate]
    exact does_goto rfl

theorem does_changeProfile (input : PatchInput) (emailChanged : Bool) :
    (changeProfile input emailChanged).Does Elsewhere GoesOpen :=
  (Script.writes_getLocked _).does fun _ =>
    (Script.writes_onlyIf (writes_deleteUnconsumed _)).does fun _ => does_goto rfl

theorem does_writeProfile (input : PatchInput) (emailChanged : Bool) :
    (writeProfile input emailChanged).Does (PatchWrites input emailChanged) GoesOpen := by
  have hwrite : (Script.updateMany EmailRow.user fun user =>
      some (EmailUser.patch input emailChanged user) : EmailScript Bool).Writes
        (PatchWrites input emailChanged) := by
    refine Script.writes_updateMany fun old new hnew => ?_
    obtain rfl := Option.some.inj hnew
    exact ⟨rfl, rfl⟩
  refine Script.writes_throwIf.does fun _ => hwrite.does fun _ => ?_
  cases emailChanged with
  | true => exact does_goto rfl
  | false => exact does_answer _

theorem does_send (input : RequestInput) : (send input).Does Elsewhere GoesOpen := by
  unfold send
  by_cases hsent : input.sent = true
  · rw [if_pos hsent]
    exact does_answer _
  · rw [if_neg hsent]
    exact does_goto rfl

theorem does_reserve (input : RequestInput) :
    (reserve hashWithSecret input).Does Elsewhere GoesOpen := by
  refine (Script.writes_getLocked _).does fun _ => (Script.writes_getLocked _).does fun _ =>
    (Script.writes_query _).does fun user => ?_
  cases user.email with
  | none => exact does_answer _
  | some email =>
      cases user.emailVerifiedAt with
      | some verifiedAt => exact does_answer _
      | none =>
          refine (Script.writes_query _).does fun recent => ?_
          by_cases hrecent : recent.any (fun challenge =>
              0 < secondsUntilResend challenge.createdAt input.now) = true
          · rw [if_pos hrecent]
            exact does_answer _
          · rw [if_neg hrecent]
            have hids : ∀ f, (Script.updateMany EmailRow.challengeIds f : EmailScript Bool).Writes
                Elsewhere := by
              intro f
              exact Script.writes_updateMany fun _ _ _ => ⟨EmailRow.noConfusion, EmailRow.noConfusion⟩
            exact (writes_challenge _ _).does fun _ => Script.writes_throwIf.does fun _ =>
              (hids _).does fun _ => (writes_deleteUnconsumed _).does fun _ => does_goto rfl

/-- A verification goes on only where its code is right. -/
theorem does_verify (input : VerifyInput) : (verifyEmailVerificationCode hashWithSecret input).Does
    Elsewhere (GoesProved hashWithSecret input) := by
  have hanswer : ∀ a, (pure (.answer a) : EmailScript EmailNext).Does Elsewhere
      (GoesProved hashWithSecret input) := by
    intro a
    refine Script.does_pure fun point hpoint => ?_
    cases hpoint
  unfold verifyEmailVerificationCode
  by_cases hcode : isOtpCode (normalizeCode input.code) = false
  · rw [if_pos hcode]
    exact hanswer _
  · rw [if_neg hcode]
    refine (Script.writes_getLocked _).does fun _ => (Script.writes_query _).does fun user => ?_
    cases user.email with
    | none => exact hanswer _
    | some email =>
        cases user.emailVerifiedAt with
        | some verifiedAt => exact hanswer _
        | none =>
            refine (Script.writes_query _).does fun newest => ?_
            cases newest with
            | none => exact hanswer _
            | some challenge =>
                dsimp only
                by_cases hblocked : (canAttemptOtp challenge.toOtp input.now).isSome = true
                · rw [if_pos hblocked]
                  exact hanswer _
                · rw [if_neg hblocked]
                  by_cases hright : EmailProof.isCorrect hashWithSecret ⟨challenge, input.code⟩ = false
                  · rw [if_pos hright]
                    exact (writes_challenge _ _).does fun _ => Script.writes_throwIf.does fun _ =>
                      hanswer _
                  · rw [if_neg hright]
                    refine (writes_challenge _ _).does fun consumed => ?_
                    cases consumed with
                    | false => exact hanswer _
                    | true =>
                        refine Script.does_pure fun point hpoint => ?_
                        cases hpoint
                        exact ⟨challenge, rfl, Bool.eq_true_of_not_eq_false hright⟩

theorem does_markVerified (input : VerifyInput) (challenge : EmailChallenge) :
    (markVerified input challenge).Does (MarkWrites ⟨challenge, input.code⟩)
      fun next => ∃ a, next = .answer a := by
  have hwrite : (Script.updateMany EmailRow.user fun user : EmailUser =>
      if user.email = some challenge.email ∧ user.emailVerifiedAt = none then
        some { user with emailVerifiedAt := some input.now } else none : EmailScript Bool).Writes
          (MarkWrites ⟨challenge, input.code⟩) := by
    refine Script.writes_updateMany fun old new hnew => ?_
    by_cases hmarks : EmailUser.email old = some challenge.email ∧ EmailUser.emailVerifiedAt old = none
    · rw [if_pos hmarks] at hnew
      obtain rfl := Option.some.inj hnew
      exact hmarks.1
    · rw [if_neg hmarks] at hnew
      cases hnew
  refine hwrite.does fun marked => ?_
  cases marked with
  | true => exact Script.does_pure ⟨_, rfl⟩
  | false => exact (Script.writes_query _).does fun latest => Script.does_pure ⟨_, rfl⟩

/-! ## The points of a call -/

variable {session : EmailSession}

/-- A call comes to an open point without having written the user or what has been proved. -/
theorem inv_open (hopen : point.isOpen = true)
    (hwritten : ∀ row new, session.written row = some new → Elsewhere row (db row) new) :
    EmailInv hashWithSecret db point ((emailProgram hashWithSecret).resume session point).session := by
  have hresume : ∀ {R : (row : EmailRow) → EmailVal row → EmailVal row → Prop} {Q : EmailNext → Prop},
      (emailScript hashWithSecret point).Does R Q →
      (∀ row old new, Elsewhere row old new → R row old new) →
      ((emailProgram hashWithSecret).resume session point).session.Does R Q db := by
    intro R Q hdoes helsewhere
    exact hdoes.resume fun row new hnew => helsewhere _ _ _ (hwritten row new hnew)
  cases point with
  | proving input challenge => cases hopen
  | marking input challenge => cases hopen
  | reading input => exact hresume (does_readExisting input) fun _ _ _ => id
  | searching input => exact hresume (does_searchDuplicate input) fun _ _ _ => id
  | changing input emailChanged => exact hresume (does_changeProfile input emailChanged) fun _ _ _ => id
  | invalidating =>
      exact hresume ((writes_deleteUnconsumed _).does fun _ => does_answer _) fun _ _ _ => id
  | reserving input => exact hresume (does_reserve input) fun _ _ _ => id
  | sending input => exact hresume (does_send input) fun _ _ _ => id
  | withdrawing challengeId =>
      exact hresume ((writes_challenge _ _).does fun _ => does_answer _) fun _ _ _ => id
  | verifying input => exact hresume (does_verify input) fun _ _ _ => id
  | writing input emailChanged =>
      refine hresume (does_writeProfile input emailChanged) fun row old new helsewhere => ?_
      cases row with
      | user => exact (helsewhere.1 rfl).elim
      | proofs => exact (helsewhere.2 rfl).elim
      | challenge id => trivial
      | challengeIds => trivial
      | advisoryLock => trivial

theorem inv_enter (hopen : point.isOpen = true) :
    EmailInv hashWithSecret db point ((emailProgram hashWithSecret).enter point).session := by
  let session : EmailSession := ⟨pure (.answer .refused), fun _ => none, false⟩
  have hwritten : ∀ row new, session.written row = some new → Elsewhere row (db row) new := by
    intro row new hnew
    cases hnew
  exact inv_open hopen hwritten

variable {emailChanged : Bool}

theorem patchWrites_trans {input : PatchInput} (row : EmailRow) (a b c : EmailVal row)
    (hfirst : PatchWrites input emailChanged row a b)
    (hsecond : PatchWrites input emailChanged row b c) :
    PatchWrites input emailChanged row a c := by
  cases row with
  | user =>
      refine ⟨hsecond.1, hsecond.2.trans ?_⟩
      cases emailChanged with
      | true => rfl
      | false => exact hfirst.2
  | proofs => exact hfirst.elim
  | challenge id => trivial
  | challengeIds => trivial
  | advisoryLock => trivial

theorem markWrites_trans {proof : EmailProof} (row : EmailRow) (a b c : EmailVal row)
    (hfirst : MarkWrites proof row a b) (hsecond : MarkWrites proof row b c) :
    MarkWrites proof row a c := by
  cases row with
  | user => exact hsecond
  | proofs =>
      refine ⟨hsecond.1, fun other hother => hsecond.2.1 other (hfirst.2.1 other hother), ?_⟩
      intro other hother
      rcases hsecond.2.2 other hother with hnew | hold
      · exact .inl hnew
      · exact hfirst.2.2 other hold
  | challenge id => trivial
  | challengeIds => trivial
  | advisoryLock => trivial

/-- A verification records what it has proved. -/
theorem inv_marking {input : VerifyInput} {challenge : EmailChallenge}
    (hinv : EmailInv hashWithSecret db (.proving input challenge) session)
    {proofs : EmailVal .proofs}
    (hproofs : proofs = ⟨challenge, input.code⟩ :: session.view db .proofs) {wrote : Bool} :
    EmailInv hashWithSecret db (.marking input challenge) ((emailProgram hashWithSecret).resume
      (⟨.done (.goto (.marking input challenge)),
        Function.update session.written .proofs (some proofs), wrote⟩ : EmailSession)
      (.marking input challenge)).session := by
  obtain ⟨hcorrect, -, hwritten⟩ := hinv
  have hview : session.view db .proofs = db .proofs := by
    cases hold : session.written .proofs with
    | none =>
        rw [Session.view, hold]
        rfl
    | some old => exact ((hwritten .proofs old hold).2 rfl).elim
  rw [hview] at hproofs
  refine ⟨hcorrect, (does_markVerified input challenge).resume fun row new hnew => ?_, ?_⟩
  · replace hnew : Function.update session.written .proofs (some proofs) row = some new := hnew
    by_cases hrow : row = .proofs
    · subst hrow
      rw [Function.update_self] at hnew
      obtain rfl := Option.some.inj hnew
      rw [hproofs]
      exact ⟨List.mem_cons_self, fun other hother => List.mem_cons_of_mem _ hother,
        fun other hother => List.mem_cons.1 hother⟩
    · rw [Function.update_of_ne hrow] at hnew
      cases row with
      | user => exact ((hwritten .user new hnew).1 rfl).elim
      | proofs => exact (hrow rfl).elim
      | challenge id => trivial
      | challengeIds => trivial
      | advisoryLock => trivial
  · show (Function.update session.written .proofs (some proofs) .proofs).isSome = true
    rw [Function.update_self]
    rfl

/-- Where a call goes on in its transaction, its point holds. -/
theorem inv_resume {next : EmailPoint} (hends : point.ends = false)
    (hinv : EmailInv hashWithSecret db point session)
    (hscript : session.script = .done (.goto next)) :
    EmailInv hashWithSecret db next ((emailProgram hashWithSecret).resume session next).session := by
  cases point with
  | changing input emailChanged =>
      have hgoes := hinv.ends
      rw [hscript] at hgoes
      exact inv_open (hgoes next rfl) hinv.writes.written
  | verifying input =>
      have hgoes := hinv.ends
      rw [hscript] at hgoes
      obtain ⟨challenge, rfl, hcorrect⟩ := hgoes next rfl
      exact ⟨hcorrect, rfl, hinv.writes.written⟩
  | proving input challenge =>
      obtain ⟨-, hcode, -⟩ := hinv
      rw [hscript] at hcode
      cases hcode
  | reading input => cases hends
  | searching input => cases hends
  | writing input emailChanged => cases hends
  | invalidating => cases hends
  | reserving input => cases hends
  | sending input => cases hends
  | withdrawing challengeId => cases hends
  | marking input challenge => cases hends

variable {client : ℕ}

theorem inv_statement {sys : EmailSystem}
    {activity : Activity EmailVal EmailError EmailPoint EmailAnswer} {later : Shared ℕ EmailVal}
    (hinv : EmailInv hashWithSecret sys.shared.db activity.point activity.session)
    (h : activity.session.statement client sys.shared = (later, .running session)) :
    EmailInv hashWithSecret sys.shared.db
      ((emailProgram hashWithSecret).advance ⟨activity.point, session⟩).point
      ((emailProgram hashWithSecret).advance ⟨activity.point, session⟩).session := by
  obtain ⟨point, before⟩ := activity
  have hkept : EmailInv hashWithSecret sys.shared.db point session →
      EmailInv hashWithSecret sys.shared.db
        ((emailProgram hashWithSecret).advance ⟨point, session⟩).point
        ((emailProgram hashWithSecret).advance ⟨point, session⟩).session := by
    intro hrest
    rcases (emailProgram hashWithSecret).advance_cases ⟨point, session⟩ with
      hsame | ⟨next, hends, hscript, hnext⟩
    · rw [hsame]
      exact hrest
    · rw [hnext]
      exact inv_resume hends hrest hscript
  cases point with
  | reading input => exact hkept (hinv.statement elsewhere_trans h)
  | searching input => exact hkept (hinv.statement elsewhere_trans h)
  | changing input emailChanged => exact hkept (hinv.statement elsewhere_trans h)
  | writing input emailChanged => exact hkept (hinv.statement patchWrites_trans h)
  | invalidating => exact hkept (hinv.statement elsewhere_trans h)
  | reserving input => exact hkept (hinv.statement elsewhere_trans h)
  | sending input => exact hkept (hinv.statement elsewhere_trans h)
  | withdrawing challengeId => exact hkept (hinv.statement elsewhere_trans h)
  | verifying input => exact hkept (hinv.statement elsewhere_trans h)
  | marking input challenge =>
      obtain ⟨hcorrect, hdoes, hwritten⟩ := hinv
      refine hkept ⟨hcorrect, hdoes.statement markWrites_trans h, ?_⟩
      exact written_statement hwritten h
  | proving input challenge =>
      have hcode := hinv.2.1
      rcases statement_cases h with ⟨next, heq, -⟩ | ⟨row, next, heq, -⟩ |
        ⟨row, f, next, heq, hvalue, -⟩ | ⟨row, f, next, value, heq, hvalue, -, rfl⟩
      all_goals
        rw [hcode] at heq
        cases heq
      · cases hvalue
      · exact inv_marking hinv (Option.some.inj hvalue).symm

/-! ## The commits -/

theorem emailGood_congr (h : EmailGood hashWithSecret db) (huser : later.user = db.user)
    (hproofs : later.proofs = db.proofs) : EmailGood hashWithSecret later := by
  refine ⟨fun hverified => ?_, fun proof hproof => ?_⟩
  · rw [huser] at hverified ⊢
    obtain ⟨email, hemail, hproved⟩ := h.verified hverified
    refine ⟨email, hemail, ?_⟩
    unfold Proved
    rw [hproofs]
    exact hproved
  · rw [hproofs] at hproof
    exact h.correct proof hproof

/-- A commit that writes elsewhere. -/
theorem emailGood_elsewhere (h : EmailGood hashWithSecret db)
    (hwrites : ∀ row, later row = db row ∨ Elsewhere row (db row) (later row)) :
    EmailGood hashWithSecret later := by
  refine emailGood_congr h ?_ ?_
  · rcases hwrites .user with hsame | helsewhere
    · exact hsame
    · exact (helsewhere.1 rfl).elim
  · rcases hwrites .proofs with hsame | helsewhere
    · exact hsame
    · exact (helsewhere.2 rfl).elim

/-- The commit of a profile change. -/
theorem emailGood_patched {input : PatchInput} (h : EmailGood hashWithSecret db)
    (hwrites : ∀ row, later row = db row ∨ PatchWrites input emailChanged row (db row) (later row))
    (hcondition : emailChanged = false → db.user.emailVerifiedAt.isSome = true →
      db.user.email = some input.email ∨ Proved db input.email) :
    EmailGood hashWithSecret later := by
  have hproofs : later.proofs = db.proofs := by
    rcases hwrites .proofs with hsame | hnever
    · exact hsame
    · exact hnever.elim
  rcases hwrites .user with hsame | ⟨hemail, hverifiedAt⟩
  · exact emailGood_congr h hsame hproofs
  · have hcorrect : ∀ proof ∈ later.proofs, proof.isCorrect hashWithSecret = true := by
      rw [hproofs]
      exact h.correct
    refine ⟨fun hverified => ⟨input.email, hemail, ?_⟩, hcorrect⟩
    have hsome : (EmailUser.emailVerifiedAt (later .user)).isSome = true := hverified
    rw [hverifiedAt] at hsome
    cases emailChanged with
    | true => cases hsome
    | false =>
        have hproved : Proved db input.email := by
          rcases hcondition rfl hsome with hsameEmail | hproved
          · obtain ⟨email, hown, hproved⟩ := h.verified hsome
            rw [hsameEmail] at hown
            obtain rfl := Option.some.inj hown
            exact hproved
          · exact hproved
        unfold Proved
        rw [hproofs]
        exact hproved

/-- The commit of a verification that has consumed its challenge. -/
theorem inv_marked {proof : EmailProof} (h : EmailGood hashWithSecret db)
    (hcorrect : proof.isCorrect hashWithSecret = true)
    (hwrites : ∀ row, later row = db row ∨ MarkWrites proof row (db row) (later row))
    (hproofs : MarkWrites proof .proofs (db .proofs) (later .proofs)) :
    EmailGood hashWithSecret later := by
  obtain ⟨hnew, hold, hother⟩ := hproofs
  refine ⟨fun hverified => ?_, fun other hmem => ?_⟩
  · rcases hwrites .user with hsame | hemail
    · have huser : later.user = db.user := hsame
      rw [huser] at hverified ⊢
      obtain ⟨email, hown, proved, hproved, hsameEmail⟩ := h.verified hverified
      exact ⟨email, hown, proved, hold proved hproved, hsameEmail⟩
    · exact ⟨proof.challenge.email, hemail, proof, hnew, rfl⟩
  · rcases hother other hmem with rfl | hbefore
    · exact hcorrect
    · exact h.correct other hbefore

/-- What others commit leaves a call as it is. -/
theorem inv_aside (hinv : EmailInv hashWithSecret db point session)
    (hunchanged : ∀ row, (session.written row).isSome = true → later row = db row) :
    EmailInv hashWithSecret later point session := by
  cases point with
  | reading input => exact hinv.of_unchanged hunchanged
  | searching input => exact hinv.of_unchanged hunchanged
  | changing input emailChanged => exact hinv.of_unchanged hunchanged
  | writing input emailChanged => exact hinv.of_unchanged hunchanged
  | invalidating => exact hinv.of_unchanged hunchanged
  | reserving input => exact hinv.of_unchanged hunchanged
  | sending input => exact hinv.of_unchanged hunchanged
  | withdrawing challengeId => exact hinv.of_unchanged hunchanged
  | verifying input => exact hinv.of_unchanged hunchanged
  | proving input challenge => exact hinv
  | marking input challenge => exact ⟨hinv.1, hinv.2.1.of_unchanged hunchanged, hinv.2.2⟩

/-- A call that commits leaves a verified address proved, and goes on at an open point. -/
theorem emailGood_commit {sys : EmailSystem}
    {activity : Activity EmailVal EmailError EmailPoint EmailAnswer} {next : EmailNext}
    (hok : Unchanged sys (.statement client)) (hgood : EmailGood hashWithSecret sys.shared.db)
    (hactivity : sys.activity client = some activity)
    (hinv : EmailInv hashWithSecret sys.shared.db activity.point activity.session)
    (hscript : activity.session.script = .done next)
    (hends : ∀ point, next = .goto point → activity.point.ends = true) :
    EmailGood hashWithSecret (sys.shared.commit client activity.session).db ∧ GoesOpen next := by
  have hcondition := hok activity hactivity
  obtain ⟨point, session⟩ := activity
  have helsewhere : session.Does Elsewhere GoesOpen sys.shared.db →
      EmailGood hashWithSecret (sys.shared.commit client session).db ∧ GoesOpen next := by
    intro hdoes
    have hgoes := hdoes.ends
    rw [hscript] at hgoes
    exact ⟨emailGood_elsewhere hgood (hdoes.writes.commit client), hgoes⟩
  cases point with
  | reading input => exact helsewhere hinv
  | searching input => exact helsewhere hinv
  | changing input emailChanged => exact helsewhere hinv
  | invalidating => exact helsewhere hinv
  | reserving input => exact helsewhere hinv
  | sending input => exact helsewhere hinv
  | withdrawing challengeId => exact helsewhere hinv
  | verifying input =>
      refine ⟨emailGood_elsewhere hgood (hinv.writes.commit client), fun point hpoint => ?_⟩
      have hfalse := hends point hpoint
      cases hfalse
  | writing input emailChanged =>
      have hgoes := hinv.ends
      rw [hscript] at hgoes
      refine ⟨emailGood_patched hgood (hinv.writes.commit client) ?_, hgoes⟩
      intro hunchanged hverified
      subst hunchanged
      exact hcondition hverified
  | proving input challenge =>
      obtain ⟨-, hcode, -⟩ := hinv
      rw [hscript] at hcode
      cases hcode
  | marking input challenge =>
      obtain ⟨hcorrect, hdoes, hwritten⟩ := hinv
      obtain ⟨proofs, hproofs⟩ := Option.isSome_iff_exists.1 hwritten
      have hcommitted : (sys.shared.commit client session).db .proofs = proofs := by
        show (session.written .proofs).getD (sys.shared.db .proofs) = proofs
        rw [hproofs]
        rfl
      refine ⟨inv_marked hgood hcorrect (hdoes.writes.commit client) ?_, fun point hpoint => ?_⟩
      · rw [hcommitted]
        exact hdoes.writes.written .proofs proofs hproofs
      · have hanswer := hdoes.ends
        rw [hscript] at hanswer
        obtain ⟨a, rfl⟩ := hanswer
        cases hpoint

theorem keeps_emailGood (hashWithSecret : String → String) :
    (emailProgram hashWithSecret).Keeps Unchanged (EmailGood hashWithSecret)
      (EmailInv hashWithSecret) where
  call db call _ := by
    cases call with
    | patch input => exact inv_enter rfl
    | request input => exact inv_enter rfl
    | verify input => exact inv_enter rfl
  statement sys client activity later session _ hsound hactivity h :=
    inv_statement (hsound.calls client activity hactivity) h
  resume db point next session hends _ hinv hscript := inv_resume hends hinv hscript
  rescue db point next session e _ _ hnext := by cases hnext
  world sys event := nomatch event
  commit sys client activity next hok hsound hactivity hscript hends := by
    obtain ⟨hgood, hgoes⟩ := emailGood_commit hok hsound.db hactivity
      (hsound.calls client activity hactivity) hscript hends
    exact ⟨hgood, fun point hpoint => inv_enter (hgoes point hpoint), fun other aside _ haside =>
      inv_aside (hsound.calls other aside haside)⟩

/-- **A verified address has been proved**, in a run in which no profile change that has found its
address in the row writes it into a row that is verified with another one. -/
theorem verified_email_proved (hashWithSecret : String → String) (db : EmailDb)
    (hunverified : db.user.emailVerifiedAt = none) (hproofs : db.proofs = [])
    (events : List EmailEvent)
    (hunchanged : Meets (emailProgram hashWithSecret).step Unchanged (Clients.start db) events) :
    VerifiedIsProved hashWithSecret
      (run (emailProgram hashWithSecret).step (Clients.start db) events).shared.db := by
  have hstart : EmailGood hashWithSecret db := by
    refine ⟨fun hverified => ?_, fun proof hproof => ?_⟩
    · rw [hunverified] at hverified
      cases hverified
    · rw [hproofs] at hproof
      cases hproof
  have hsound := run_of_meets
    (fun sys event hok h => (keeps_emailGood hashWithSecret).step event hok h) (sound_start hstart)
    hunchanged
  exact hsound.db.verifiedIsProved

/-! ## Two runs -/

def unchangedCheck (sys : EmailSystem) : EmailEvent → Bool
  | .statement client => (sys.activity client).all fun activity =>
      match activity.point with
      | .writing input false => !(EmailDb.user sys.shared.db).emailVerifiedAt.isSome ||
          decide ((EmailDb.user sys.shared.db).email = some input.email ∨
            Proved sys.shared.db input.email)
      | _ => true
  | _ => true

theorem unchanged_of_check (sys : EmailSystem) (event : EmailEvent)
    (h : unchangedCheck sys event = true) : Unchanged sys event := by
  cases event with
  | call client call => trivial
  | crash client => trivial
  | world event => trivial
  | statement client =>
      intro activity hactivity
      simp only [unchangedCheck, hactivity, Option.all_some] at h
      cases hpoint : activity.point with
      | writing input emailChanged =>
          cases emailChanged with
          | true => trivial
          | false =>
              intro hverified
              simpa [hpoint, hverified] using h
      | _ => trivial

/-- A user with an address that is not verified. -/
def sampleDb : EmailDb
  | .user => ⟨some "old@abrchin.ir", none⟩
  | .challenge _ => none
  | .challengeIds => []
  | .advisoryLock => ()
  | .proofs => []

def statements (client n : ℕ) : List EmailEvent := List.replicate n (.statement client)

/-- One client changes the address and verifies the new one. -/
def changeAndVerify (client : ℕ) : List EmailEvent :=
  .call client (.patch { email := "new@abrchin.ir" }) :: statements client 9 ++
    .call client (.request { challengeId := "c", code := "123456", now := 0, ttlMs := 600000 }) ::
      statements client 9 ++
    .call client (.verify { code := "123456", now := 1000 }) :: statements client 9

/-- The profile is saved with its address while a verification is under way. -/
theorem verified_email_proved_sample : VerifiedIsProved id (run (emailProgram id).step
    (Clients.start sampleDb) (changeAndVerify 0 ++
      .call 1 (.patch { email := "new@abrchin.ir" }) :: statements 1 9)).shared.db :=
  verified_email_proved id sampleDb rfl rfl _
    (meets_of_passes (n := 2) (fun sys event _ => unchanged_of_check sys event) (fun _ _ => rfl)
      (by decide +kernel))

/-- A profile change reads the row before the address is replaced, and writes the old address when the
new one has been verified. -/
def staleProfile : List EmailEvent :=
  .call 1 (.patch { email := "old@abrchin.ir" }) :: statements 1 2 ++ changeAndVerify 0 ++
    statements 1 3

/-- **A profile change on a read of the row before its transaction leaves an address verified that
nobody has proved.** -/
theorem unproved_email : ¬ ∀ (hashWithSecret : String → String) (db : EmailDb),
    db.user.emailVerifiedAt = none → db.proofs = [] → ∀ events : List EmailEvent,
      VerifiedIsProved hashWithSecret
        (run (emailProgram hashWithSecret).step (Clients.start db) events).shared.db := by
  intro hclaim
  have hproved := hclaim id sampleDb rfl rfl staleProfile
  have huser : EmailDb.user (run (emailProgram id).step (Clients.start sampleDb) staleProfile).shared.db =
      ⟨some "old@abrchin.ir", some 1000⟩ := by
    decide +kernel
  have hproofs : (EmailDb.proofs (run (emailProgram id).step (Clients.start sampleDb)
      staleProfile).shared.db).map (·.challenge.email) = ["new@abrchin.ir"] := by
    decide +kernel
  generalize run (emailProgram id).step (Clients.start sampleDb) staleProfile = sys at *
  obtain ⟨proof, hproof, hemail, -⟩ := hproved 1000 (by rw [huser])
  have hmem := List.mem_map_of_mem (f := (·.challenge.email)) hproof
  rw [hproofs, List.mem_singleton] at hmem
  rw [huser, hmem] at hemail
  exact absurd (Option.some.inj hemail) (by decide)

end AbrChin.Auth
