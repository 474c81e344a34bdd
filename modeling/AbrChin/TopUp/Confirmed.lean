import AbrChin.TopUp.Final
import AbrChin.TopUp.Review

/-!
# A confirmed payment is not written off

`verifiedAt` says that the gateway has confirmed the money of an attempt.  Until
its top-up is credited the attempt should be settled or reviewed, and nothing
else.  `recordTerminalFailure` looks only at `SUCCEEDED`, though, so a callback
that claims a cancellation writes the payment off; the failure of a payment
request does the same, a retry may let the attempt expire, and the record of a
payment request that comes late makes it pending again.  In a run without these,
and without admin actions, a confirmed payment is kept until it is credited.
-/

namespace AbrChin.TopUp

open Lib Payments Wallet

/-! ## Confirmed payments -/

/-- The gateway has confirmed the attempt. -/
def Db.Verified (db : Db) (attemptId : String) : Prop :=
  ∃ row ∈ db.attempts.find? attemptId, row.verifiedAt.isSome = true

/-- A confirmed payment of the top-up waits for its credit. -/
def Db.Awaiting (db : Db) (topUpId : String) : Prop :=
  ¬ db.Credited topUpId ∧
    ∃ row ∈ db.attempts.rows, row.walletTopUpId = topUpId ∧ row.verifiedAt.isSome = true

instance (db : Db) (attemptId : String) : Decidable (db.Verified attemptId) :=
  inferInstanceAs (Decidable (∃ row ∈ db.attempts.find? attemptId, row.verifiedAt.isSome = true))

instance (db : Db) (topUpId : String) : Decidable (db.Awaiting topUpId) :=
  inferInstanceAs (Decidable (_ ∧ _))

def Db.attemptFailed (db : Db) (id : String) : Bool :=
  (db.attempts.find? id).any fun row => row.status = .failed || row.status = .canceled

def Db.topUpFailed (db : Db) (id : String) : Bool :=
  (db.topUps.find? id).any fun row => row.status = .failed || row.status = .canceled

def Db.caseFailed (db : Db) (attemptId : String) : Bool :=
  (db.cases.find? attemptId).any fun row => row.status = .definitivelyFailed

/-! ## Steps that do not write them off -/

/-- The top-up that the transaction of a task writes as failed or canceled. -/
def Task.failsTopUp : Task → Option String
  | persistFailure input _ => some input.topUpId
  | failureWrite _ _ topUpId => some topUpId
  | markFailedWrite attempt _ => some attempt.walletTopUpId
  | _ => none

/-- The attempt that the transaction of a task makes pending, and its top-up. -/
def Task.pends : Task → Option (String × String)
  | persist input _ => some (input.attemptId, input.topUpId)
  | _ => none

/-- The step is no admin action, fails no top-up that waits for the credit of a
confirmed payment, and neither expires nor makes pending such a payment. -/
def SparesConfirmed (state : State) (event : Event) : Prop :=
  match event with
  | .adminReverify _ _ | .adminReconcile _ _ | .adminMarkFailed _ => False
  | .retry input => ∀ latest ∈ state.db.latestAttempt input.topUpId,
      expires latest input.now = true →
        ¬ (latest.verifiedAt.isSome = true ∧ ¬ state.db.Credited input.topUpId)
  | .commit i _ _ => ∀ task ∈ state.tasks[i]?,
      (∀ topUpId ∈ task.failsTopUp, ¬ state.db.Awaiting topUpId) ∧
      ∀ names ∈ task.pends, ¬ (state.db.Verified names.1 ∧ ¬ state.db.Credited names.2)
  | _ => True

instance : (state : State) → (event : Event) → Decidable (SparesConfirmed state event)
  | _, .adminReverify _ _ | _, .adminReconcile _ _ | _, .adminMarkFailed _ =>
      inferInstanceAs (Decidable False)
  | state, .retry input => inferInstanceAs (Decidable (
      ∀ latest ∈ state.db.latestAttempt input.topUpId, expires latest input.now = true →
        ¬ (latest.verifiedAt.isSome = true ∧ ¬ state.db.Credited input.topUpId)))
  | state, .commit i _ _ => inferInstanceAs (Decidable (∀ task ∈ state.tasks[i]?,
      (∀ topUpId ∈ task.failsTopUp, ¬ state.db.Awaiting topUpId) ∧
      ∀ names ∈ task.pends, ¬ (state.db.Verified names.1 ∧ ¬ state.db.Credited names.2)))
  | _, .ensureWallet _ _ | _, .create _ | _, .callback _ | _, .paymentAnswer _ _
  | _, .verifyAnswer _ _ | _, .fault _ | _, .crash _ => inferInstanceAs (Decidable True)

/-- What a step leaves of an attempt, its top-up and its case: none of them fails,
and a review stays open. -/
structure Db.Keeps (attemptId topUpId : String) (db db' : Db) : Prop where
  attempt : db'.attemptFailed attemptId = true → db.attemptFailed attemptId = true
  topUp : db'.topUpFailed topUpId = true → db.topUpFailed topUpId = true
  case : db'.caseFailed attemptId = true → db.caseFailed attemptId = true
  review : db.UnderReview attemptId → db'.UnderReview attemptId

theorem Db.Keeps.refl (attemptId topUpId : String) (db : Db) : db.Keeps attemptId topUpId db :=
  ⟨id, id, id, id⟩

theorem Db.Keeps.trans {attemptId topUpId : String} {first second third : Db}
    (h₁ : first.Keeps attemptId topUpId second) (h₂ : second.Keeps attemptId topUpId third) :
    first.Keeps attemptId topUpId third :=
  ⟨h₁.attempt ∘ h₂.attempt, h₁.topUp ∘ h₂.topUp, h₁.case ∘ h₂.case, h₂.review ∘ h₁.review⟩

/-- A statement keeps an attempt that it leaves alone or puts under review, with a
top-up that it does not fail and a case that it leaves alone or opens. -/
theorem Db.Keeps.effect {statement : Statement} {attemptId topUpId : String} {before after : Db}
    {attempt : PaymentAttempt} {topUp : WalletTopUp}
    (heffect : statement.Effect before after)
    (hattempt : before.attempts.find? attemptId = some attempt)
    (htopUp : before.topUps.find? topUpId = some topUp)
    (hreview : (statement.attemptData before attemptId).status = none ∨
      (statement.attemptData before attemptId).status = some .review)
    (hstatus : ∀ status, (statement.topUpData before topUpId).status = some status →
      status ≠ .failed ∧ status ≠ .canceled)
    (hcase : statement.caseAfter before attemptId = before.cases.find? attemptId ∨
      (∃ row, statement.caseAfter before attemptId = some row ∧ row.status = .open) ∨
      (before.cases.find? attemptId = none ∧
        ∀ row, statement.caseAfter before attemptId = some row →
          row.status ≠ .definitivelyFailed)) :
    before.Keeps attemptId topUpId after := by
  have hattempt' := heffect.attempt hattempt
  have htopUp' := heffect.topUp htopUp
  have hcase' := heffect.cases attemptId
  constructor
  · intro hfailed
    rcases hreview with hnone | hset
    · simpa [Db.attemptFailed, hattempt, hattempt', hnone] using hfailed
    · simp [Db.attemptFailed, hattempt', hset] at hfailed
  · intro hfailed
    cases hset : (statement.topUpData before topUpId).status with
    | none => simpa [Db.topUpFailed, htopUp, htopUp', hset] using hfailed
    | some status =>
        obtain ⟨h₁, h₂⟩ := hstatus status hset
        simp [Db.topUpFailed, htopUp', hset, h₁, h₂] at hfailed
  · intro hfailed
    rcases hcase with hsame | ⟨row, hrow, hopen⟩ | ⟨-, hnew⟩
    · simpa [Db.caseFailed, hcase', hsame] using hfailed
    · simp [Db.caseFailed, hcase', hrow, hopen] at hfailed
    · rw [Db.caseFailed, hcase'] at hfailed
      obtain ⟨row, hrow, hstatus'⟩ := (Option.any_eq_true _ _).1 hfailed
      exact absurd (by simpa using hstatus') (hnew row hrow)
  · rintro ⟨⟨row, hrow, hrowReview⟩, case, hcaseRow, hopen⟩
    rw [Option.mem_def] at hrow hcaseRow
    obtain rfl := Option.some.inj (hattempt.symm.trans hrow)
    refine ⟨⟨_, hattempt', ?_⟩, ?_⟩
    · rcases hreview with hnone | hset
      · simp [hnone, hrowReview]
      · simp [hset]
    · rw [hcase']
      rcases hcase with hsame | ⟨row, hafter, hopen'⟩ | ⟨hnone, -⟩
      · exact ⟨case, hsame.trans hcaseRow, hopen⟩
      · exact ⟨row, hafter, hopen'⟩
      · cases hnone.symm.trans hcaseRow

/-! ## What tasks write -/

theorem blindAttempt_cases {task : Task} {id : String} {status : PaymentAttemptStatus}
    (h : task.blindAttempt = some (id, status)) :
    status = .review ∨ ∃ topUpId, task.names = some (id, topUpId) ∧
      (task.failsTopUp = some topUpId ∨ task.pends = some (id, topUpId)) := by
  cases task with
  | persist input payment =>
      obtain ⟨rfl, rfl⟩ := Prod.mk.inj (Option.some.inj h)
      exact .inr ⟨_, rfl, .inr rfl⟩
  | persistReview input payment =>
      obtain ⟨rfl, rfl⟩ := Prod.mk.inj (Option.some.inj h)
      exact .inl rfl
  | reviewWrite call review fallback attempt topUpStatus =>
      obtain ⟨rfl, rfl⟩ := Prod.mk.inj (Option.some.inj h)
      exact .inl rfl
  | failureWrite call code topUpId =>
      obtain ⟨rfl, rfl⟩ := Prod.mk.inj (Option.some.inj h)
      exact .inr ⟨_, rfl, .inl rfl⟩
  | markFailedWrite attempt hasCase =>
      obtain ⟨rfl, rfl⟩ := Prod.mk.inj (Option.some.inj h)
      exact .inr ⟨_, rfl, .inl rfl⟩
  | _ => cases h

theorem blindTopUp_cases {task : Task} {id : String} {status : TopUpStatus}
    (h : task.blindTopUp = some (id, status)) :
    status = .pending ∨ task.failsTopUp = some id := by
  cases task with
  | persist input payment =>
      obtain ⟨rfl, rfl⟩ := Prod.mk.inj (Option.some.inj h)
      exact .inl rfl
  | reviewWrite call review fallback attempt topUpStatus =>
      simp only [Task.blindTopUp] at h
      split at h
      · cases h
      · obtain ⟨rfl, rfl⟩ := Prod.mk.inj (Option.some.inj h)
        exact .inl rfl
  | failureWrite call code topUpId =>
      obtain ⟨rfl, rfl⟩ := Prod.mk.inj (Option.some.inj h)
      exact .inr rfl
  | markFailedWrite attempt hasCase =>
      obtain ⟨rfl, rfl⟩ := Prod.mk.inj (Option.some.inj h)
      exact .inr rfl
  | _ => cases h

theorem failsTopUp_of_failsCase {task : Task} {id : String} (h : task.failsCase = some id) :
    ∃ topUpId, task.names = some (id, topUpId) ∧ task.failsTopUp = some topUpId := by
  cases task with
  | failureWrite call code topUpId =>
      obtain rfl := Option.some.inj h
      exact ⟨_, rfl, rfl⟩
  | markFailedWrite attempt hasCase =>
      obtain rfl := Option.some.inj h
      exact ⟨_, rfl, rfl⟩
  | _ => cases h

/-! ## Steps -/

section Step

variable {state : State} {event : Event} {attemptId topUpId : String}
  (hlinked : state.Holds Db.Linked Linked) (hbooks : state.db.Books)
  (hspares : SparesConfirmed state event) (hbelongs : state.db.Belongs attemptId topUpId)
  (hverified : state.db.Verified attemptId)
  (hwaits : ¬ (stepState state event).db.Credited topUpId)
include hlinked hbooks hspares hbelongs hverified hwaits

omit hlinked hbooks hspares in
theorem awaiting_of_verified : state.db.Awaiting topUpId := by
  refine ⟨fun hcredited => hwaits (hcredited.extend (extends_stepState state event)), ?_⟩
  obtain ⟨row, hrow, hset⟩ := hverified
  have hlink : row.walletTopUpId = topUpId := Db.Belongs.unique ⟨row, hrow, rfl⟩ hbelongs
  exact ⟨row, (IndexedTable.find?_eq_some.1 hrow).1, hlink, hset⟩

/-- What a statement of the step writes to the attempt, the top-up and the case. -/
theorem writes_of_confirmed {plan : Plan} (hplan : eventPlan state event = some plan)
    (hexecute : execute plan.statements state.db = some (stepState state event).db)
    {statement : Statement} (hmem : statement ∈ plan.statements) (before : Db) :
    ((statement.attemptData before attemptId).status = none ∨
      (statement.attemptData before attemptId).status = some .review) ∧
    (∀ status, (statement.topUpData before topUpId).status = some status →
      status ≠ .failed ∧ status ≠ .canceled) ∧
    (statement.caseAfter before attemptId = before.cases.find? attemptId ∨
      (∃ row, statement.caseAfter before attemptId = some row ∧ row.status = .open) ∨
      (before.cases.find? attemptId = none ∧
        ∀ row, statement.caseAfter before attemptId = some row →
          row.status ≠ .definitivelyFailed)) := by
  have hawaiting := awaiting_of_verified hbelongs hverified hwaits
  have hnone : ∀ status : TopUpStatus, (none : Option TopUpStatus) = some status →
      status ≠ .failed ∧ status ≠ .canceled := nofun
  cases writes_of_mem_eventPlan hplan hmem with
  | @task i ids acknowledged task _ htask hwrites =>
      obtain ⟨hfails, hpends⟩ := hspares task htask
      have htask' := List.mem_of_getElem? htask
      cases hwrites with
      | @blindAttempt _ target status data hblind hset hunverified hreference =>
          refine ⟨?_, hnone, .inl rfl⟩
          by_cases hid : attemptId = target
          · subst hid
            rcases blindAttempt_cases hblind with rfl | ⟨topUp, hnames, hwrite⟩
            · exact .inr (by simp [Statement.attemptData, hset])
            · -- the task fails the top-up, or makes the attempt pending
              obtain rfl : topUp = topUpId := (hlinked.2 task htask' _ hnames).unique hbelongs
              rcases hwrite with hfail | hpend
              · exact (hfails _ hfail hawaiting).elim
              · exact (hpends _ hpend ⟨hverified, hawaiting.1⟩).elim
          · exact .inl (by simp [Statement.attemptData, hid])
      | @blindTopUp _ target status data hblind hset =>
          refine ⟨.inl rfl, fun other hother => ?_, .inl rfl⟩
          by_cases hid : topUpId = target
          · subst hid
            rcases blindTopUp_cases hblind with rfl | hfail
            · simp only [Statement.topUpData, if_true, hset, Option.some.injEq] at hother
              subst hother
              decide
            · exact (hfails _ hfail hawaiting).elim
          · simp [Statement.topUpData, hid] at hother
      | failedAttempt input code =>
          refine ⟨?_, hnone, .inl rfl⟩
          by_cases hid : attemptId = input.attemptId
          · have hsame : input.topUpId = topUpId :=
              (hlinked.2 _ htask' _ rfl).unique (hid ▸ hbelongs)
            exact (hfails _ rfl (hsame ▸ hawaiting)).elim
          · exact .inl (by simp [Statement.attemptData, hid])
      | failedTopUp input code =>
          refine ⟨.inl rfl, fun other hother => ?_, .inl rfl⟩
          by_cases hid : topUpId = input.topUpId
          · exact (hfails _ rfl (hid ▸ hawaiting)).elim
          · simp [Statement.topUpData, hid] at hother
      | unsavedTopUp input payment hset =>
          refine ⟨.inl rfl, fun other hother => ?_, .inl rfl⟩
          simp only [Statement.topUpData] at hother
          split at hother
          · rw [hset] at hother
            obtain rfl := Option.some.inj hother
            decide
          · cases hother
      | verified call verified =>
          refine ⟨.inl ?_, hnone, .inl rfl⟩
          simp only [Statement.attemptData]
          split <;> rfl
      | credit hattempt htopUp hfresh hdata => exact ⟨.inl rfl, hnone, .inl rfl⟩
      | @succeededAttempt call verified attempt hattempt hother =>
          refine ⟨.inl ?_, hnone, .inl rfl⟩
          have hid : attemptId ≠ call.attemptId := by
            rintro rfl
            simp only [eventPlan, htask, Option.bind_some] at hplan
            have hcredited := (settle_execute hplan hbooks hexecute).2 attempt hattempt
              (List.ne_nil_of_mem hmem)
            exact hwaits (hbelongs.unique ⟨attempt, hattempt, rfl⟩ ▸ hcredited)
          simp [Statement.attemptData, hid]
      | @succeededTopUp call verified attempt topUp hattempt htopUp hopen =>
          refine ⟨.inl rfl, fun other hother => ?_, .inl rfl⟩
          simp only [Statement.topUpData] at hother
          split at hother
          · obtain rfl := Option.some.inj hother
            decide
          · cases hother
      | @resolvedCase call verified attempt hattempt hother =>
          refine ⟨.inl rfl, hnone, .inl ?_⟩
          have hid : attemptId ≠ call.attemptId := by
            rintro rfl
            simp only [eventPlan, htask, Option.bind_some] at hplan
            have hcredited := (settle_execute hplan hbooks hexecute).2 attempt hattempt
              (List.ne_nil_of_mem hmem)
            exact hwaits (hbelongs.unique ⟨attempt, hattempt, rfl⟩ ▸ hcredited)
          simp [Statement.caseAfter, hid]
      | @openCase _ create update hblind hcreate =>
          refine ⟨.inl rfl, hnone, ?_⟩
          simp only [Statement.caseAfter]
          split
          · refine .inr (.inl ⟨_, rfl, ?_⟩)
            cases before.cases.find? attemptId with
            | none => exact hcreate
            | some row => rfl
          · exact .inl rfl
      | @failedCase _ target unless? hfailsCase =>
          refine ⟨.inl rfl, hnone, ?_⟩
          by_cases hid : attemptId = target
          · subst hid
            obtain ⟨topUp, hnames, hfail⟩ := failsTopUp_of_failsCase hfailsCase
            obtain rfl : topUp = topUpId := (hlinked.2 task htask' _ hnames).unique hbelongs
            exact (hfails _ hfail hawaiting).elim
          · exact .inl (by simp [Statement.caseAfter, hid])
      | @newCase _ row hstatus =>
          refine ⟨.inl rfl, hnone, ?_⟩
          cases hcase : before.cases.find? attemptId with
          | some case => exact .inl (by simp [Statement.caseAfter, hcase])
          | none =>
              refine .inr (.inr ⟨rfl, fun other hother => ?_⟩)
              simp only [Statement.caseAfter, hcase, Option.none_or] at hother
              split at hother
              · obtain rfl := Option.some.inj hother
                rcases hstatus with h | h <;> simp [h]
              · cases hother
  | @expired input topUp latest htopUp hnew hlatest hexpires =>
      refine ⟨.inl ?_, hnone, .inl rfl⟩
      have hid : attemptId ≠ latest.id := by
        rintro rfl
        obtain ⟨hfound, hlink⟩ := find?_of_latestAttempt hlatest
        obtain ⟨row, hrow, hset⟩ := hverified
        obtain rfl := Option.some.inj (hfound.symm.trans hrow)
        have hsame : input.topUpId = topUpId := Db.Belongs.unique ⟨latest, hfound, hlink⟩ hbelongs
        exact hspares latest hlatest hexpires ⟨hset, hsame ▸ hawaiting.1⟩
      simp [Statement.attemptData, hid]
  | reopened htopUp hnew hstatus =>
      refine ⟨.inl rfl, fun other hother => ?_, .inl rfl⟩
      simp only [Statement.topUpData] at hother
      split at hother
      · rw [hstatus] at hother
        obtain rfl := Option.some.inj hother
        decide
      · cases hother
  | _ => exact ⟨.inl rfl, hnone, .inl rfl⟩

/-- A step that leaves the top-up uncredited keeps the confirmed payment. -/
theorem keeps_step : state.db.Keeps attemptId topUpId (stepState state event).db := by
  obtain ⟨row, hrow, hset⟩ := hverified
  obtain ⟨topUp, htopUp, -⟩ := hlinked.1 _ row hrow
  have hlink : row.walletTopUpId = topUpId := Db.Belongs.unique ⟨row, hrow, rfl⟩ hbelongs
  rw [hlink] at htopUp
  refine transaction_induction (p := fun db => state.db.Keeps attemptId topUpId db) (.refl _ _ _) ?_
  intro plan hplan hexecute statement hmem before after hextends hbefore heffect
  obtain ⟨row', hrow', -⟩ := hextends.attempts _ _ hrow
  obtain ⟨topUp', htopUp', -⟩ := hextends.topUps _ _ htopUp
  obtain ⟨hattempt, hstatus, hcase⟩ := writes_of_confirmed hlinked hbooks hspares hbelongs
    ⟨row, hrow, hset⟩ hwaits hplan hexecute hmem before
  exact hbefore.trans (.effect heffect hrow' htopUp' hattempt hstatus hcase)

end Step

/-- A confirmation is never taken back. -/
theorem verified_step {state : State} {event : Event} {attemptId : String}
    (h : state.db.Verified attemptId) : (stepState state event).db.Verified attemptId := by
  refine stepState_induction (p := fun db => db.Verified attemptId) h ?_
  rintro statement - before after - ⟨row, hrow, hset⟩ heffect
  refine ⟨_, heffect.attempt hrow, ?_⟩
  simp only [AttemptData.apply]
  cases (statement.attemptData before attemptId).verifiedAt with
  | none => simpa using hset
  | some now => rfl

/-! ## Runs -/

theorem credited_run {state : State} {topUpId : String} (h : state.db.Credited topUpId)
    (events : List Event) : (run step state events).db.Credited topUpId :=
  run_induction (p := fun state : State => state.db.Credited topUpId)
    (fun state event hcredited => hcredited.extend (extends_stepState state event)) h events

/-- What a run that leaves the top-up uncredited does to a confirmed payment. -/
theorem confirmed_run {state : State} {attemptId topUpId : String} {events : List Event}
    (hlinked : state.Holds Db.Linked Linked) (hbooks : state.db.Books)
    (hbelongs : state.db.Belongs attemptId topUpId) (hverified : state.db.Verified attemptId)
    (hmeets : Meets step SparesConfirmed state events)
    (hwaits : ¬ (run step state events).db.Credited topUpId) :
    state.db.Keeps attemptId topUpId (run step state events).db ∧
      (state.db.UnderReview attemptId ∨ Underway state attemptId →
        (run step state events).db.UnderReview attemptId ∨
          Underway (run step state events) attemptId ∨
          ∃ entry ∈ trace step state events, Loses entry.before entry.event attemptId) := by
  induction events generalizing state with
  | nil => exact ⟨.refl _ _ _, fun h => h.imp_right .inl⟩
  | cons event rest ih =>
      obtain ⟨hspares, hrest⟩ := meets_cons.1 hmeets
      have hwaits' : ¬ (stepState state event).db.Credited topUpId := by
        intro hcredited
        have hlater : (run step (step state event).1 rest).db.Credited topUpId :=
          credited_run hcredited rest
        exact hwaits hlater
      have hkeeps := keeps_step hlinked hbooks hspares hbelongs hverified hwaits'
      have hbelongs' := hbelongs.extend (extends_stepState state event)
      have hbooks' := books_step state event hbooks
      obtain ⟨hkept, hprogress⟩ := ih (linked_step state event hlinked) hbooks' hbelongs'
        (verified_step hverified) hrest hwaits
      refine ⟨hkeeps.trans hkept, fun hunderway => ?_⟩
      by_cases hlost : Loses state event attemptId
      · exact .inr (.inr ⟨_, List.mem_cons_self, hlost⟩)
      have hnext : (stepState state event).db.UnderReview attemptId ∨
          Underway (stepState state event) attemptId := by
        rcases hunderway with hreview | hunderway
        · exact .inl (hkeeps.review hreview)
        obtain ⟨row, hrow, -⟩ := hbelongs
        rcases underway_step hlinked hrow hunderway hlost with hreview | hsucceeded | hstill
        · exact .inl hreview
        · -- a success would be credited
          obtain ⟨row', hrow', hstatus⟩ := Db.attemptSucceeded_iff.1 hsucceeded
          have hcredited := hbooks'.paid.attempts _ row' hrow' hstatus
          have hlink : row'.walletTopUpId = topUpId :=
            Db.Belongs.unique ⟨row', hrow', rfl⟩ hbelongs'
          exact absurd (hlink ▸ hcredited) hwaits'
        · exact .inr hstill
      rcases hprogress hnext with hreview | hstill | ⟨entry, hentry, hloses⟩
      · exact .inl hreview
      · exact .inr (.inl hstill)
      · exact .inr (.inr ⟨entry, List.mem_cons_of_mem _ hentry, hloses⟩)

/-- **In a run without admin actions in which no step fails a top-up that waits
for the credit of a confirmed payment, or expires such a payment or makes it
pending, neither the attempt, its top-up nor its case fails until the top-up is
credited.  A call that goes on with the payment does so until the attempt is
under review, unless it is lost, and the review stays open.** -/
theorem confirmed_payment_kept (first rest : List Event)
    (hmeets : Meets step SparesConfirmed .initial (first ++ rest)) :
    ∀ attempt ∈ (run step .initial first).db.attempts.rows, attempt.verifiedAt.isSome = true →
      ¬ (run step .initial (first ++ rest)).db.Credited attempt.walletTopUpId →
      (run step .initial first).db.Keeps attempt.id attempt.walletTopUpId
          (run step .initial (first ++ rest)).db ∧
        ((run step .initial first).db.UnderReview attempt.id ∨
          Underway (run step .initial first) attempt.id →
          (run step .initial (first ++ rest)).db.UnderReview attempt.id ∨
            Underway (run step .initial (first ++ rest)) attempt.id ∨
            ∃ entry ∈ trace step (run step .initial first) rest,
              Loses entry.before entry.event attempt.id) := by
  intro attempt hattempt hset hwaits
  have hfind : (run step .initial first).db.attempts.find? attempt.id = some attempt :=
    IndexedTable.find?_eq_some.2 ⟨hattempt, rfl⟩
  have hlinked := run_induction linked_step linked_initial first
  have hbooks := run_induction (p := fun state : State => state.db.Books) books_step books_initial
    first
  rw [run_append] at hwaits ⊢
  exact confirmed_run hlinked hbooks ⟨attempt, hfind, rfl⟩ ⟨attempt, hfind, hset⟩
    (meets_append.1 hmeets).2 hwaits

/-! ## A cancellation that writes a confirmed payment off -/

/-- The payment is confirmed, its credit fails, and the attempt goes under review. -/
def exampleWaiting : List Event :=
  examplePaid ++ [
    exampleCallback "OK", .verifyAnswer 0 (exampleConfirmed "R1"), .commit 0 exampleIds true,
    .fault 0, .commit 0 exampleIds true, .commit 0 exampleIds true]

/-- A further callback with a status, and its transactions. -/
def exampleFurther (status : String) : List Event :=
  [exampleCallback status, .verifyAnswer 0 (.error "timeout"), .commit 0 exampleIds true,
    .commit 0 exampleIds true]

/-- A callback that claims a cancellation writes the confirmed payment off. -/
theorem confirmed_payment_written_off :
    ((run step .initial exampleWaiting).db.Verified "first" ∧
      (run step .initial exampleWaiting).db.UnderReview "first" ∧
      (run step .initial exampleWaiting).db.topUpFailed "topup" = false) ∧
    ¬ (run step .initial (exampleWaiting ++ exampleFurther "NOK")).db.Credited "topup" ∧
    (run step .initial (exampleWaiting ++ exampleFurther "NOK")).db.attemptFailed "first" = true ∧
    (run step .initial (exampleWaiting ++ exampleFurther "NOK")).db.topUpFailed "topup" = true ∧
    (run step .initial (exampleWaiting ++ exampleFurther "NOK")).db.caseFailed "first" = true := by
  decide +kernel

/-- A callback that the gateway does not answer leaves the review open. -/
theorem confirmed_payment_kept_example :
    ∃ attempt ∈ (run step .initial exampleWaiting).db.attempts.rows, attempt.id = "first" ∧
      (run step .initial exampleWaiting).db.Keeps attempt.id attempt.walletTopUpId
        (run step .initial (exampleWaiting ++ exampleFurther "OK")).db := by
  have hmeets : Meets step SparesConfirmed .initial (exampleWaiting ++ exampleFurther "OK") := by
    decide +kernel
  have hwaits : ∃ attempt ∈ (run step .initial exampleWaiting).db.attempts.rows,
      attempt.id = "first" ∧ attempt.verifiedAt.isSome = true ∧
        ¬ (run step .initial (exampleWaiting ++ exampleFurther "OK")).db.Credited
          attempt.walletTopUpId := by decide +kernel
  obtain ⟨attempt, hmem, hid, hset, hwaits⟩ := hwaits
  exact ⟨attempt, hmem, hid, (confirmed_payment_kept _ _ hmeets attempt hmem hset hwaits).1⟩

end AbrChin.TopUp
