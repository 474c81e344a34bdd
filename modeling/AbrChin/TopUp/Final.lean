import AbrChin.TopUp.Ledger

/-!
# A successful top-up is final

`SUCCEEDED` is written by `settleVerifiedAttempt` alone and never taken back by
an update that asks for `status: { not: SUCCEEDED }`.  The other updates of a
status look at nothing: those of `createExternalPaymentForAttempt` once the
gateway has made a payment, and those of `recordPaymentReview`,
`recordTerminalFailure` and `adminMarkPaymentDefinitivelyFailed`, whose look at
the rows lies one statement back.  In a run in which none of these finds a row
that has succeeded, success is final.
-/

namespace AbrChin.TopUp

open Lib Payments Wallet

/-! ## Updates that do not look -/

/-- The step overwrites no row that has succeeded. -/
def SparesSucceeded (state : State) (event : Event) : Prop :=
  match event with
  | .commit i _ _ => ∀ task ∈ state.tasks[i]?,
      (∀ write ∈ task.blindAttempt, state.db.attemptSucceeded write.1 = false) ∧
      ∀ write ∈ task.blindTopUp, state.db.topUpSucceeded write.1 = false
  | _ => True

instance : (state : State) → (event : Event) → Decidable (SparesSucceeded state event)
  | state, .commit i _ _ => inferInstanceAs (Decidable (∀ task ∈ state.tasks[i]?,
      (∀ write ∈ task.blindAttempt, state.db.attemptSucceeded write.1 = false) ∧
      ∀ write ∈ task.blindTopUp, state.db.topUpSucceeded write.1 = false))
  | _, .ensureWallet _ _ | _, .create _ | _, .retry _ | _, .callback _ | _, .adminReverify _ _
  | _, .adminReconcile _ _ | _, .adminMarkFailed _ | _, .paymentAnswer _ _ | _, .verifyAnswer _ _
  | _, .fault _ | _, .crash _ => inferInstanceAs (Decidable True)

/-! ## Statements that leave success alone -/

/-- The statement leaves the attempt `id` succeeded if it is. -/
def Statement.SparesAttempt (statement : Statement) (id : String) : Prop :=
  ∀ db : Db, db.attemptSucceeded id = true →
    (statement.attemptData db id).status = none ∨
      (statement.attemptData db id).status = some .succeeded

/-- The statement leaves the top-up `id` succeeded if it is. -/
def Statement.SparesTopUp (statement : Statement) (id : String) : Prop :=
  ∀ db : Db, db.topUpSucceeded id = true →
    (statement.topUpData db id).status = none ∨
      (statement.topUpData db id).status = some .succeeded

theorem Statement.sparesAttempt_updateAttempt {target id : String} {data : AttemptData}
    (h : target = id → data.status = some .succeeded) :
    (updateAttempt target data).SparesAttempt id := by
  intro db _
  by_cases hid : id = target
  · exact .inr (by simpa [attemptData, hid] using h hid.symm)
  · exact .inl (by simp [attemptData, hid])

theorem Statement.sparesAttempt_unlessSucceeded (target id : String) (data : AttemptData) :
    (updateAttemptUnlessSucceeded target data).SparesAttempt id := by
  intro db hsucceeded
  exact .inl (by simp [attemptData, hsucceeded])

theorem Statement.sparesTopUp_updateTopUp {target id : String} {data : TopUpData}
    (h : target = id → data.status = some .succeeded) :
    (updateTopUp target data).SparesTopUp id := by
  intro db _
  by_cases hid : id = target
  · exact .inr (by simpa [topUpData, hid] using h hid.symm)
  · exact .inl (by simp [topUpData, hid])

theorem Statement.sparesTopUp_unlessSucceeded (target id : String) (data : TopUpData) :
    (updateTopUpUnlessSucceeded target data).SparesTopUp id := by
  intro db hsucceeded
  exact .inl (by simp [topUpData, hsucceeded])

section Effect

variable {statement : Statement} {db db' : Db} {id : String}

theorem attemptSucceeded_effect (hspares : statement.SparesAttempt id)
    (h : db.attemptSucceeded id = true) (heffect : statement.Effect db db') :
    db'.attemptSucceeded id = true := by
  obtain ⟨row, hrow, hstatus⟩ := Db.attemptSucceeded_iff.1 h
  refine Db.attemptSucceeded_iff.2 ⟨_, heffect.attempt hrow, ?_⟩
  rcases hspares db h with hnone | hsome
  · simp [hnone, hstatus]
  · simp [hsome]

theorem topUpSucceeded_effect (hspares : statement.SparesTopUp id)
    (h : db.topUpSucceeded id = true) (heffect : statement.Effect db db') :
    db'.topUpSucceeded id = true := by
  obtain ⟨row, hrow, hstatus⟩ := Db.topUpSucceeded_iff.1 h
  refine Db.topUpSucceeded_iff.2 ⟨_, heffect.topUp hrow, ?_⟩
  rcases hspares db h with hnone | hsome
  · simp [hnone, hstatus]
  · simp [hsome]

end Effect

/-! ## Transactions of tasks -/

/-- The statements of a task spare every attempt but the one it overwrites unseen. -/
theorem sparesAttempt_of_writes {ids : LedgerIds} {db : Db} {task : Task} {id : String}
    (hblind : ∀ write ∈ task.blindAttempt, write.1 ≠ id) {statement : Statement}
    (h : task.Writes ids db statement) : statement.SparesAttempt id := by
  cases h with
  | blindAttempt hwrite hstatus hverified hreference =>
      exact Statement.sparesAttempt_updateAttempt fun htarget => absurd htarget (hblind _ hwrite)
  | succeededAttempt hattempt hother => exact Statement.sparesAttempt_updateAttempt fun _ => rfl
  | failedAttempt input code => exact Statement.sparesAttempt_unlessSucceeded _ id _
  | verified call verified => exact Statement.sparesAttempt_unlessSucceeded _ id _
  | _ => exact fun _ _ => .inl rfl

/-- The statements of a task spare every top-up but the one it overwrites unseen. -/
theorem sparesTopUp_of_writes {ids : LedgerIds} {db : Db} {task : Task} {id : String}
    (hblind : ∀ write ∈ task.blindTopUp, write.1 ≠ id) {statement : Statement}
    (h : task.Writes ids db statement) : statement.SparesTopUp id := by
  cases h with
  | blindTopUp hwrite hstatus =>
      exact Statement.sparesTopUp_updateTopUp fun htarget => absurd htarget (hblind _ hwrite)
  | succeededTopUp hattempt htopUp hopen => exact Statement.sparesTopUp_updateTopUp fun _ => rfl
  | failedTopUp input code => exact Statement.sparesTopUp_unlessSucceeded _ id _
  | unsavedTopUp input payment hstatus => exact Statement.sparesTopUp_unlessSucceeded _ id _
  | _ => exact fun _ _ => .inl rfl

/-! ## Steps -/

/-- The statements of an event that overwrites no succeeded row spare a succeeded attempt. -/
theorem sparesAttempt_event {state : State} {event : Event} {statement : Statement} {id : String}
    (hspares : SparesSucceeded state event) (h : state.db.attemptSucceeded id = true)
    (hwrites : EventWrites state event statement) : statement.SparesAttempt id := by
  cases hwrites with
  | task htask hwrites =>
      refine sparesAttempt_of_writes (fun write hwrite hid => ?_) hwrites
      have hfalse := (hspares _ htask).1 write hwrite
      rw [hid, h] at hfalse
      cases hfalse
  | expired htopUp hnew hlatest hexpires =>
      -- a succeeded attempt does not expire
      refine Statement.sparesAttempt_updateAttempt fun htarget => ?_
      obtain ⟨row, hrow, hstatus⟩ := Db.attemptSucceeded_iff.1 h
      rw [← htarget, (find?_of_latestAttempt hlatest).1] at hrow
      cases hrow
      simp [expires, nonExpirableAttemptStatuses, hstatus] at hexpires
  | _ => exact fun _ _ => .inl rfl

/-- The statements of an event that overwrites no succeeded row spare a succeeded top-up. -/
theorem sparesTopUp_event {state : State} {event : Event} {statement : Statement} {id : String}
    (hspares : SparesSucceeded state event) (h : state.db.topUpSucceeded id = true)
    (hwrites : EventWrites state event statement) : statement.SparesTopUp id := by
  cases hwrites with
  | task htask hwrites =>
      refine sparesTopUp_of_writes (fun write hwrite hid => ?_) hwrites
      have hfalse := (hspares _ htask).2 write hwrite
      rw [hid, h] at hfalse
      cases hfalse
  | reopened htopUp hnew hstatus =>
      -- the top-up that is reopened has not succeeded
      refine Statement.sparesTopUp_updateTopUp fun htarget => ?_
      obtain ⟨row, hrow, hsucceeded⟩ := Db.topUpSucceeded_iff.1 h
      rw [← htarget, htopUp] at hrow
      cases hrow
      exact absurd hsucceeded hnew
  | _ => exact fun _ _ => .inl rfl

theorem attemptSucceeded_step (state : State) (event : Event)
    (hspares : SparesSucceeded state event) {id : String}
    (h : state.db.attemptSucceeded id = true) :
    (step state event).1.db.attemptSucceeded id = true := by
  refine stepState_induction (p := fun db => db.attemptSucceeded id = true) h ?_
  intro statement hwrites before after _ hbefore heffect
  exact attemptSucceeded_effect (sparesAttempt_event hspares h hwrites) hbefore heffect

theorem topUpSucceeded_step (state : State) (event : Event)
    (hspares : SparesSucceeded state event) {id : String}
    (h : state.db.topUpSucceeded id = true) :
    (step state event).1.db.topUpSucceeded id = true := by
  refine stepState_induction (p := fun db => db.topUpSucceeded id = true) h ?_
  intro statement hwrites before after _ hbefore heffect
  exact topUpSucceeded_effect (sparesTopUp_event hspares h hwrites) hbefore heffect

/-- **In a run in which no step overwrites a row that has succeeded, a successful
top-up is credited and stays successful, and so does a successful attempt.** -/
theorem success_is_final (first rest : List Event)
    (hspares : Meets step SparesSucceeded .initial (first ++ rest)) (id : String) :
    ((run step .initial first).db.topUpSucceeded id = true →
      (run step .initial first).db.Credited id ∧
        (run step .initial (first ++ rest)).db.topUpSucceeded id = true) ∧
    ((run step .initial first).db.attemptSucceeded id = true →
      (run step .initial (first ++ rest)).db.attemptSucceeded id = true) := by
  have hbooks : (run step .initial first).db.Books :=
    run_induction (p := fun state : State => state.db.Books) books_step books_initial first
  rw [run_append]
  have hrest := (meets_append.1 hspares).2
  refine ⟨fun h => ⟨?_, ?_⟩, fun h => ?_⟩
  · obtain ⟨row, hrow, hstatus⟩ := Db.topUpSucceeded_iff.1 h
    exact hbooks.paid.topUps id row hrow hstatus
  · exact run_of_meets (p := fun state : State => state.db.topUpSucceeded id = true)
      (fun state event hevent => topUpSucceeded_step state event hevent) h hrest
  · exact run_of_meets (p := fun state : State => state.db.attemptSucceeded id = true)
      (fun state event hevent => attemptSucceeded_step state event hevent) h hrest

/-! ## A retry that forgets a success -/

/-- The ids of the entries in the examples. -/
def exampleIds : LedgerIds := ⟨"entry-1", "entry-2"⟩

/-- A top-up of one million rials through ZarinPal, with its payment `A1`. -/
def examplePaid : List Event := [
  .ensureWallet "wallet" "user",
  .create {
    topUpId := "topup", attemptId := "first", userId := "user", amountRial := 1000000,
    gateway := .zarinpal, idempotencyKey := "create-key-000001", callbackTokenHash := "hash-1",
    now := 0 },
  .paymentAnswer 0 (.ok ⟨"A1", none, "https://gateway/A1"⟩),
  .commit 0 exampleIds true]

/-- A callback of the first attempt, with its own token and authority. -/
def exampleCallback (status : String) : Event :=
  .callback {
    expectedGateway := .zarinpal, paymentAttemptId := some "first", topUpId := none,
    tokenHash := "hash-1", authority := some "A1", statusHint := some status, now := 1000 }

/-- The gateway confirms the payment under a reference. -/
def exampleConfirmed (reference : String) : GatewayAnswer :=
  .payload (.object [("data", .object [
    ("code", .number (some 100) "100"), ("ref_id", .string reference)])])

/-- The customer cancels and tries again.  The gateway has made the second
payment when the first is confirmed after all; then the second is written down
before or after the credit. -/
def exampleRetry (writtenLate : Bool) : List Event :=
  examplePaid ++ [
    exampleCallback "NOK", .verifyAnswer 0 (.error "unused"),
    .commit 0 exampleIds true, .commit 0 exampleIds true,
    .retry {
      attemptId := "second", userId := "user", topUpId := "topup", gateway := .zarinpal,
      idempotencyKey := "retry-key-0000001", callbackTokenHash := "hash-2", now := 2000 },
    .paymentAnswer 0 (.ok ⟨"A2", none, "https://gateway/A2"⟩)] ++
  (if writtenLate then [] else [.commit 0 exampleIds true]) ++ [
    exampleCallback "OK", .verifyAnswer (if writtenLate then 1 else 0) (exampleConfirmed "R1"),
    .commit (if writtenLate then 1 else 0) exampleIds true,
    .commit (if writtenLate then 1 else 0) exampleIds true]

/-- The second payment, written down after the credit, makes the top-up pending again. -/
theorem success_is_forgotten :
    (run step .initial (exampleRetry true)).db.topUpSucceeded "topup" = true ∧
      (run step .initial (exampleRetry true ++ [.commit 0 exampleIds true])).db.topUpSucceeded
        "topup" = false := by
  decide +kernel

/-- Written down before the credit, it leaves the success alone. -/
theorem success_is_final_example :
    Meets step SparesSucceeded .initial (exampleRetry false ++ [exampleCallback "NOK"]) ∧
      (run step .initial (exampleRetry false)).db.topUpSucceeded "topup" = true ∧
      (run step .initial (exampleRetry false ++ [exampleCallback "NOK"])).db.topUpSucceeded
        "topup" = true := by
  have hspares : Meets step SparesSucceeded .initial
      (exampleRetry false ++ [exampleCallback "NOK"]) := by decide +kernel
  have hsucceeded : (run step .initial (exampleRetry false)).db.topUpSucceeded "topup" = true := by
    decide +kernel
  exact ⟨hspares, hsucceeded, ((success_is_final _ _ hspares "topup").1 hsucceeded).2⟩

end AbrChin.TopUp
