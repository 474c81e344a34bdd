import AbrChin.TopUp.Flow

/-!
# What an event does

An event leaves the database alone or runs the transaction `eventPlan` on it
(`db_stepState`), and each task that it adds comes from one of the places that
`Spawned` lists.  No transaction takes a row away or changes what it belongs to
(`Db.Extends`), and a task keeps naming an attempt together with its top-up
(`Linked`).
-/

namespace AbrChin.TopUp

open Lib Payments Wallet

/-! ## Database and tasks after an event -/

theorem db_startCall (state : State) (plan : Option Plan) :
    (startCall state plan).db = state.db ∨ ∃ done, plan = some done ∧
      execute done.statements state.db = some (startCall state plan).db := by
  unfold startCall
  cases plan with
  | none => exact .inl rfl
  | some done =>
      cases hexecute : execute done.statements state.db with
      | none => simp [Plan.run, hexecute]
      | some db => simp [Plan.run, hexecute, Pool.start]

theorem db_commitTask (state : State) (i : ℕ) (task : Task) (ids : LedgerIds)
    (acknowledged : Bool) :
    (commitTask state i task ids acknowledged).db = state.db ∨
      ∃ done, task.plan ids state.db = some done ∧ execute done.statements state.db =
        some (commitTask state i task ids acknowledged).db := by
  unfold commitTask
  split
  · exact .inl rfl
  cases hplan : task.plan ids state.db with
  | none => exact .inl (by simp [Pool.finish])
  | some done =>
      cases hexecute : execute done.statements state.db with
      | none => simp [Plan.run, hexecute, Pool.finish]
      | some db => simp [Plan.run, hexecute, Pool.finish]

/-- **An event leaves the database alone or runs its transaction.** -/
theorem db_stepState (state : State) (event : Event) :
    (stepState state event).db = state.db ∨ ∃ plan, eventPlan state event = some plan ∧
      execute plan.statements state.db = some (stepState state event).db := by
  cases event with
  | ensureWallet walletId userId => exact db_startCall state _
  | create input => exact db_startCall state _
  | retry input => exact db_startCall state _
  | callback input => exact .inl rfl
  | adminReverify attemptId now => exact .inl rfl
  | adminReconcile attemptId now => exact .inl rfl
  | adminMarkFailed attemptId =>
      refine .inl ?_
      simp only [stepState]
      split <;> rfl
  | paymentAnswer i answer =>
      refine .inl ?_
      simp only [stepState]
      split <;> rfl
  | verifyAnswer i answer =>
      refine .inl ?_
      simp only [stepState]
      split <;> rfl
  | commit i ids acknowledged =>
      simp only [stepState]
      split
      · exact .inl rfl
      · exact .inl rfl
      · exact .inl rfl
      · rename_i task _ _ htask
        simpa only [eventPlan, htask, Option.bind_some] using
          db_commitTask state i task ids acknowledged
  | fault i =>
      refine .inl ?_
      simp only [stepState]
      split <;> rfl
  | crash i => exact .inl rfl

/-- Where the tasks that an event adds come from. -/
inductive Spawned (state : State) : Event → Task → Prop
  /-- They follow the transaction that the event runs, -/
  | next {event : Event} {plan : Plan} {task : Task} (hplan : eventPlan state event = some plan)
      (hexecute : execute plan.statements state.db = some (stepState state event).db)
      (htask : task ∈ plan.next) : Spawned state event task
  /-- or its failure, -/
  | fault {event : Event} {i : ℕ} {failed task : Task} (hfailed : state.tasks[i]? = some failed)
      (htask : task ∈ failed.onFault) : Spawned state event task
  /-- or they start a verification, -/
  | verify {event : Event} {call : Call} {authority statusHint : Option String} {task : Task}
      (htask : task ∈ startVerify state.db call authority statusHint) : Spawned state event task
  /-- a reconciliation, -/
  | reconcile {attemptId : String} {now : ℤ} {task : Task}
      (htask : task ∈ startReconcile state.db attemptId now) :
      Spawned state (.adminReconcile attemptId now) task
  /-- or an admin decision, -/
  | markFailed {attemptId : String} {task : Task}
      (htask : task ∈ startMarkFailed state.db attemptId) :
      Spawned state (.adminMarkFailed attemptId) task
  /-- or go on after an answer of the gateway. -/
  | paid {i : ℕ} {input : ExternalPayment} {payment : CreatePaymentResult}
      (htask : state.tasks[i]? = some (.createPayment input)) :
      Spawned state (.paymentAnswer i (.ok payment)) (.persist input payment)
  | unpaid {i : ℕ} {input : ExternalPayment} {code : String}
      (htask : state.tasks[i]? = some (.createPayment input)) :
      Spawned state (.paymentAnswer i (.error code)) (.persistFailure input code)
  | verified {i : ℕ} {call : Call} {request : VerifyRequest} {answer : GatewayAnswer}
      (htask : state.tasks[i]? = some (.verify call request)) :
      Spawned state (.verifyAnswer i answer) (afterVerify call request answer)

variable {task : Task} {state : State}

private theorem mem_start {tasks : List Task} (h : task ∈ (state.start tasks).tasks) :
    task ∈ state.tasks ∨ task ∈ tasks :=
  List.mem_append.1 h

private theorem mem_finish {state : State} {i : ℕ} {db : Db} {next : List Task} {task : Task}
    (h : task ∈ (state.finish i db next).tasks) : task ∈ state.tasks ∨ task ∈ next :=
  (List.mem_append.1 h).imp_left List.mem_of_mem_eraseIdx

variable {event : Event}

private theorem mem_startCall
    (hstep : stepState state event = startCall state (eventPlan state event))
    (h : task ∈ (stepState state event).tasks) :
    task ∈ state.tasks ∨ Spawned state event task := by
  rw [hstep] at h
  unfold startCall at h
  cases hplan : eventPlan state event with
  | none =>
      rw [hplan] at h
      exact .inl h
  | some plan =>
      rw [hplan] at h
      cases hexecute : execute plan.statements state.db with
      | none =>
          simp only [Option.bind_some, Plan.run, hexecute, Option.map_none] at h
          exact .inl h
      | some db =>
          simp only [Option.bind_some, Plan.run, hexecute, Option.map_some] at h
          refine (mem_start h).imp_right fun htask => .next hplan ?_ htask
          rw [hstep, hexecute]
          simp [startCall, Plan.run, hplan, hexecute, Pool.start]

theorem mem_startCallback {db : Db} {input : CallbackInput} (h : task ∈ startCallback db input) :
    ∃ call, task ∈ startVerify db call input.authority input.statusHint := by
  unfold startCallback at h
  split at h
  · cases h
  · split at h
    · cases h
    · exact ⟨_, h⟩

/-- **A task after an event was there before or comes from one of these places.** -/
theorem mem_tasks_stepState (h : task ∈ (stepState state event).tasks) :
    task ∈ state.tasks ∨ Spawned state event task := by
  cases event with
  | ensureWallet walletId userId => exact mem_startCall rfl h
  | create input => exact mem_startCall rfl h
  | retry input => exact mem_startCall rfl h
  | callback input =>
      refine (mem_start h).imp_right fun htask => ?_
      obtain ⟨call, hverify⟩ := mem_startCallback htask
      exact .verify hverify
  | adminReverify attemptId now => exact (mem_start h).imp_right .verify
  | adminReconcile attemptId now => exact (mem_start h).imp_right .reconcile
  | adminMarkFailed attemptId =>
      simp only [stepState] at h
      split at h
      · exact .inl h
      · exact (mem_start h).imp_right .markFailed
  | paymentAnswer i answer =>
      simp only [stepState] at h
      split at h
      · rename_i htask
        refine (mem_finish h).imp_right fun hnew => ?_
        rw [List.mem_singleton.1 hnew]
        exact .paid htask
      · rename_i htask
        refine (mem_finish h).imp_right fun hnew => ?_
        rw [List.mem_singleton.1 hnew]
        exact .unpaid htask
      · exact .inl h
  | verifyAnswer i answer =>
      simp only [stepState] at h
      split at h
      · rename_i htask
        refine (mem_finish h).imp_right fun hnew => ?_
        rw [List.mem_singleton.1 hnew]
        exact .verified htask
      · exact .inl h
  | commit i ids acknowledged =>
      simp only [stepState] at h
      split at h
      · exact .inl h
      · exact .inl h
      · exact .inl h
      · rename_i committed hcreate hverify htask
        have hstep : stepState state (.commit i ids acknowledged) =
            commitTask state i committed ids acknowledged := by
          simp only [stepState, htask]
        unfold commitTask at h hstep
        split at h
        · exact .inl h
        rename_i hfree
        rw [if_neg hfree] at hstep
        cases hplan : (committed.plan ids state.db).bind fun plan => plan.run state.db with
        | none =>
            rw [hplan] at h
            exact (mem_finish h).imp_right (.fault htask)
        | some done =>
            rw [hplan] at h hstep
            obtain ⟨plan, hcommitted, hmap⟩ := Option.bind_eq_some_iff.1 hplan
            obtain ⟨db, hexecute, rfl⟩ := Option.map_eq_some_iff.1 hmap
            refine (mem_finish h).imp_right fun hnew => ?_
            cases acknowledged with
            | true =>
                refine @Spawned.next _ _ plan _ ?_ ?_ hnew
                · simpa only [eventPlan, htask, Option.bind_some] using hcommitted
                · rw [hstep, hexecute]
                  rfl
            | false => exact .fault htask hnew
  | fault i =>
      simp only [stepState] at h
      split at h
      · exact .inl h
      · exact .inl h
      · exact .inl h
      · rename_i htask
        exact (mem_finish h).imp_right (.fault htask)
  | crash i => exact (mem_finish h).imp_right fun hnew => absurd hnew List.not_mem_nil

/-! ## Rows stay -/

/-- What an attempt keeps for ever. -/
def PaymentAttempt.identity (row : PaymentAttempt) : String × ℤ × String × PaymentGatewayProvider :=
  (row.walletTopUpId, row.amount, row.currency, row.gateway)

/-- What a top-up keeps for ever. -/
def WalletTopUp.identity (row : WalletTopUp) : String × ℤ × Option String × Option ℤ :=
  (row.walletId, row.amount, row.couponCode, row.bonusRialSnapshot)

/-- Every row is still there, is the same row, and no ledger entry has changed. -/
structure Db.Extends (db db' : Db) : Prop where
  attempts : ∀ id row, db.attempts.find? id = some row →
    ∃ row', db'.attempts.find? id = some row' ∧ row'.identity = row.identity
  topUps : ∀ id row, db.topUps.find? id = some row →
    ∃ row', db'.topUps.find? id = some row' ∧ row'.identity = row.identity
  ledger : ∀ key entry, db.ledger.find? key = some entry → db'.ledger.find? key = some entry

theorem Db.Extends.refl (db : Db) : db.Extends db :=
  ⟨fun _ row h => ⟨row, h, rfl⟩, fun _ row h => ⟨row, h, rfl⟩, fun _ _ h => h⟩

theorem Db.Extends.trans {first second third : Db} (h₁ : first.Extends second)
    (h₂ : second.Extends third) : first.Extends third where
  attempts id row h := by
    obtain ⟨mid, hmid, heq⟩ := h₁.attempts id row h
    obtain ⟨last, hlast, heq'⟩ := h₂.attempts id mid hmid
    exact ⟨last, hlast, heq'.trans heq⟩
  topUps id row h := by
    obtain ⟨mid, hmid, heq⟩ := h₁.topUps id row h
    obtain ⟨last, hlast, heq'⟩ := h₂.topUps id mid hmid
    exact ⟨last, hlast, heq'.trans heq⟩
  ledger key entry h := h₂.ledger key entry (h₁.ledger key entry h)

namespace Statement.Effect

variable {statement : Statement} {db db' : Db} (heffect : statement.Effect db db')
include heffect

variable {id : String}

/-- The attempt `id` after a statement, if it was there before. -/
theorem attempt {row : PaymentAttempt} (h : db.attempts.find? id = some row) :
    db'.attempts.find? id = some ((statement.attemptData db id).apply row) := by
  rw [heffect.attempts, h]
  rfl

/-- The top-up `id` after a statement, if it was there before. -/
theorem topUp {row : WalletTopUp} (h : db.topUps.find? id = some row) :
    db'.topUps.find? id = some ((statement.topUpData db id).apply row) := by
  rw [heffect.topUps, h]
  rfl

/-- An attempt after a statement was there before, or the statement creates it. -/
theorem attempt_before {row' : PaymentAttempt} (h : db'.attempts.find? id = some row') :
    (∃ row, db.attempts.find? id = some row ∧ row' = (statement.attemptData db id).apply row) ∨
      (db.attempts.find? id = none ∧ statement.newAttempt id = some row') := by
  rw [heffect.attempts] at h
  cases hrow : db.attempts.find? id with
  | none =>
      rw [hrow] at h
      exact .inr ⟨rfl, h⟩
  | some row =>
      rw [hrow] at h
      exact .inl ⟨row, rfl, (Option.some.inj h).symm⟩

/-- A top-up after a statement was there before, or the statement creates it. -/
theorem topUp_before {row' : WalletTopUp} (h : db'.topUps.find? id = some row') :
    (∃ row, db.topUps.find? id = some row ∧ row' = (statement.topUpData db id).apply row) ∨
      (db.topUps.find? id = none ∧ statement.newTopUp id = some row') := by
  rw [heffect.topUps] at h
  cases hrow : db.topUps.find? id with
  | none =>
      rw [hrow] at h
      exact .inr ⟨rfl, h⟩
  | some row =>
      rw [hrow] at h
      exact .inl ⟨row, rfl, (Option.some.inj h).symm⟩

theorem extends_db : db.Extends db' where
  attempts _ _ h := ⟨_, heffect.attempt h, rfl⟩
  topUps _ _ h := ⟨_, heffect.topUp h, rfl⟩
  ledger key entry h := by rw [heffect.ledger, h]; rfl

end Statement.Effect

variable {statements : List Statement}

theorem extends_of_execute {db db' : Db} (h : execute statements db = some db') : db.Extends db' :=
  execute_induction (p := fun after => db.Extends after) (.refl db)
    (fun _ _ _ _ hbefore heffect => hbefore.trans heffect.extends_db) h

theorem extends_stepState (state : State) (event : Event) :
    state.db.Extends (stepState state event).db := by
  rcases db_stepState state event with hsame | ⟨plan, -, hexecute⟩
  · rw [hsame]
    exact .refl _
  · exact extends_of_execute hexecute

/-! ## Attempts and their top-ups -/

/-- The attempt `attemptId` belongs to the top-up `topUpId`. -/
def Db.Belongs (db : Db) (attemptId topUpId : String) : Prop :=
  ∃ row, db.attempts.find? attemptId = some row ∧ row.walletTopUpId = topUpId

variable {attemptId topUpId : String}

theorem Db.Belongs.extend {db db' : Db} (h : db.Belongs attemptId topUpId)
    (hextends : db.Extends db') :
    db'.Belongs attemptId topUpId := by
  obtain ⟨row, hrow, rfl⟩ := h
  obtain ⟨row', hrow', hidentity⟩ := hextends.attempts _ _ hrow
  exact ⟨row', hrow', congrArg Prod.fst hidentity⟩

theorem Db.Belongs.unique {db : Db} {attemptId first second : String}
    (h₁ : db.Belongs attemptId first) (h₂ : db.Belongs attemptId second) : first = second := by
  obtain ⟨row, hrow, rfl⟩ := h₁
  obtain ⟨row', hrow', rfl⟩ := h₂
  rw [hrow] at hrow'
  rw [Option.some.inj hrow']

/-- The attempt and the top-up that a task names together. -/
def Task.names : Task → Option (String × String)
  | createPayment input | persistFailure input _ | persist input _ | persistReview input _ =>
      some (input.attemptId, input.topUpId)
  | reviewWrite call _ _ attempt _ => some (call.attemptId, attempt.walletTopUpId)
  | markFailedWrite attempt _ => some (attempt.id, attempt.walletTopUpId)
  | failureWrite call _ topUpId => some (call.attemptId, topUpId)
  | _ => none

/-- A task names an attempt together with its own top-up. -/
def Linked (db : Db) (task : Task) : Prop :=
  ∀ names, task.names = some names → db.Belongs names.1 names.2

/-- Every attempt has a top-up, of the same amount. -/
def Db.Linked (db : Db) : Prop :=
  ∀ id row, db.attempts.find? id = some row →
    ∃ topUp, db.topUps.find? row.walletTopUpId = some topUp ∧ topUp.amount = row.amount

/-- A statement that creates no attempt, or one of an existing top-up, keeps attempts linked. -/
theorem Db.Linked.effect {statement : Statement} {db db' : Db} (h : db.Linked)
    (heffect : statement.Effect db db')
    (hnew : ∀ id row, statement.newAttempt id = some row →
      ∃ topUp, db.topUps.find? row.walletTopUpId = some topUp ∧ topUp.amount = row.amount) :
    db'.Linked := by
  have hkeep : ∀ (row : PaymentAttempt) topUp, db.topUps.find? row.walletTopUpId = some topUp →
      topUp.amount = row.amount →
      ∃ topUp', db'.topUps.find? row.walletTopUpId = some topUp' ∧ topUp'.amount = row.amount :=
    fun row topUp htopUp hamount => ⟨_, heffect.topUp htopUp, hamount⟩
  intro id row' hrow'
  rcases heffect.attempt_before hrow' with ⟨row, hrow, rfl⟩ | ⟨-, hrow⟩
  · obtain ⟨topUp, htopUp, hamount⟩ := h id row hrow
    exact hkeep row topUp htopUp hamount
  · obtain ⟨topUp, htopUp, hamount⟩ := hnew id row' hrow
    exact hkeep row' topUp htopUp hamount

/-! ## What settlement does -/

variable {plan : Plan} {ids : LedgerIds} {call : Call}

/-- The three outcomes of `settleVerifiedAttempt`: nothing is left to do, another
payment has credited the top-up, or the attempt succeeds and the top-up is
credited unless it was. -/
theorem settlePlan_cases {verified : VerifiedPayment} {db : Db}
    (h : settlePlan ids call verified db = some plan) :
    ∃ attempt topUp, db.attempts.find? call.attemptId = some attempt ∧
      db.topUps.find? attempt.walletTopUpId = some topUp ∧
      ((attempt.status = .succeeded ∧ (db.ledger.find? (creditKey attempt.walletTopUpId)).isSome ∧
          plan = { next := call.done }) ∨
        ((db.otherSucceeded attempt = true ∨ (topUp.status = .succeeded ∧
            (db.ledger.find? (creditKey attempt.walletTopUpId)).isSome)) ∧
          plan = {
            next := [.reviewRead call (duplicateReview verified) (settleFallback call verified)] }) ∨
        (db.otherSucceeded attempt = false ∧ ¬ (topUp.status = .succeeded ∧
            (db.ledger.find? (creditKey attempt.walletTopUpId)).isSome) ∧ plan = {
          statements :=
            (if (db.ledger.find? (creditKey attempt.walletTopUpId)).isSome then []
              else creditStatements ids topUp) ++ successStatements attempt verified call.now
          next := call.done })) := by
  unfold settlePlan at h
  simp only [Option.bind_eq_bind, Option.bind_eq_some_iff, Option.pure_def] at h
  obtain ⟨attempt, hattempt, topUp, htopUp, h⟩ := h
  refine ⟨attempt, topUp, hattempt, htopUp, ?_⟩
  split at h
  · rename_i hdone
    exact .inl ⟨hdone.1, hdone.2, (Option.some.inj h).symm⟩
  split at h
  · rename_i hduplicate
    exact .inr (.inl ⟨hduplicate, (Option.some.inj h).symm⟩)
  · rename_i hfirst
    simp only [Option.bind_eq_some_iff] at h
    obtain ⟨wallet, -, h⟩ := h
    split at h
    · cases h
    · have hother : db.otherSucceeded attempt = false := by
        simpa using fun hother => hfirst (.inl hother)
      exact .inr (.inr ⟨hother, fun hcredited => hfirst (.inr hcredited),
        (Option.some.inj h).symm⟩)

/-- The statements of a settlement. -/
theorem mem_settle {verified : VerifiedPayment} {db : Db}
    (h : settlePlan ids call verified db = some plan) {statement : Statement}
    (hmem : statement ∈ plan.statements) :
    ∃ attempt topUp, db.attempts.find? call.attemptId = some attempt ∧
      db.topUps.find? attempt.walletTopUpId = some topUp ∧
      db.otherSucceeded attempt = false ∧
      ¬ (topUp.status = .succeeded ∧
        (db.ledger.find? (creditKey attempt.walletTopUpId)).isSome) ∧
      (((db.ledger.find? (creditKey attempt.walletTopUpId)).isSome = false ∧
          statement ∈ creditStatements ids topUp) ∨
        statement ∈ successStatements attempt verified call.now) := by
  obtain ⟨attempt, topUp, hattempt, htopUp, hcases⟩ := settlePlan_cases h
  refine ⟨attempt, topUp, hattempt, htopUp, ?_⟩
  rcases hcases with ⟨-, -, rfl⟩ | ⟨-, rfl⟩ | ⟨hother, hopen, rfl⟩
  · cases hmem
  · cases hmem
  · refine ⟨hother, hopen, ?_⟩
    rcases List.mem_append.1 hmem with hmem | hmem
    · split at hmem
      · cases hmem
      · rename_i hfresh
        exact .inl ⟨by simpa using hfresh, hmem⟩
    · exact .inr hmem

/-! ## What the transactions of tasks write -/

/-- The attempt that the transaction of a task writes without a look at its
status, and the status that it writes. -/
def Task.blindAttempt : Task → Option (String × PaymentAttemptStatus)
  | persist input _ => some (input.attemptId, .pending)
  | persistReview input _ => some (input.attemptId, .review)
  | reviewWrite call _ _ _ _ => some (call.attemptId, .review)
  | failureWrite call code _ =>
      some (call.attemptId, if code = "canceled" then .canceled else .failed)
  | markFailedWrite attempt _ => some (attempt.id, .failed)
  | _ => none

/-- The top-up that the transaction of a task writes without a look at its
status, and the status that it writes. -/
def Task.blindTopUp : Task → Option (String × TopUpStatus)
  | persist input _ => some (input.topUpId, .pending)
  | reviewWrite _ _ _ attempt topUpStatus =>
      if topUpStatus = .succeeded then none else some (attempt.walletTopUpId, .pending)
  | failureWrite _ code topUpId => some (topUpId, if code = "canceled" then .canceled else .failed)
  | markFailedWrite attempt _ => some (attempt.walletTopUpId, .failed)
  | _ => none

/-- The recovery case that the transaction of a task closes as a failure. -/
def Task.failsCase : Task → Option String
  | failureWrite call _ _ => some call.attemptId
  | markFailedWrite attempt _ => some attempt.id
  | _ => none

/-- The transaction belongs to a payment that the gateway has made. -/
def Task.IsPersist : Task → Prop
  | persist _ _ | persistReview _ _ => True
  | _ => False

/-- The statements that the transaction of a task can run. -/
inductive Task.Writes (ids : LedgerIds) (db : Db) : Task → Statement → Prop
  /-- An update of an attempt that looks at nothing, -/
  | blindAttempt {task : Task} {id : String} {status : PaymentAttemptStatus} {data : AttemptData}
      (hblind : task.blindAttempt = some (id, status)) (hstatus : data.status = some status)
      (hverified : data.verifiedAt = none)
      (hreference : task.IsPersist ∨ (data.authority = none ∧ data.gatewayReference = none)) :
      Writes ids db task (.updateAttempt id data)
  /-- or of a top-up; -/
  | blindTopUp {task : Task} {id : String} {status : TopUpStatus} {data : TopUpData}
      (hblind : task.blindTopUp = some (id, status)) (hstatus : data.status = some status) :
      Writes ids db task (.updateTopUp id data)
  /-- the payment could not be made; -/
  | failedAttempt (input : ExternalPayment) (code : String) :
      Writes ids db (.persistFailure input code) (.updateAttemptUnlessSucceeded input.attemptId {
        status := some .failed, failureCode := some (some code) })
  | failedTopUp (input : ExternalPayment) (code : String) :
      Writes ids db (.persistFailure input code) (.updateTopUpUnlessSucceeded input.topUpId {
        status := some .failed, failureCode := some (some code) })
  /-- it was made but not written down; -/
  | unsavedTopUp (input : ExternalPayment) (payment : CreatePaymentResult) {data : TopUpData}
      (hstatus : data.status = some .pending) :
      Writes ids db (.persistReview input payment) (.updateTopUpUnlessSucceeded input.topUpId data)
  /-- the gateway has confirmed it; -/
  | verified (call : Call) (verified : VerifiedPayment) :
      Writes ids db (.markVerified call verified) (.updateAttemptUnlessSucceeded call.attemptId {
        authority := some verified.authority
        gatewayReference := some verified.gatewayReference
        verifiedAt := some call.now })
  /-- the first settlement credits, -/
  | credit {call : Call} {verified : VerifiedPayment} {attempt : PaymentAttempt}
      {topUp : WalletTopUp} {data : CreditData}
      (hattempt : db.attempts.find? call.attemptId = some attempt)
      (htopUp : db.topUps.find? attempt.walletTopUpId = some topUp)
      (hfresh : (db.ledger.find? (creditKey attempt.walletTopUpId)).isSome = false)
      (hdata : data = creditData ids topUp ∨ bonusData ids topUp = some data) :
      Writes ids db (.settle call verified) (.credit data)
  /-- and sets the attempt, -/
  | succeededAttempt {call : Call} {verified : VerifiedPayment} {attempt : PaymentAttempt}
      (hattempt : db.attempts.find? call.attemptId = some attempt)
      (hother : db.otherSucceeded attempt = false) :
      Writes ids db (.settle call verified) (.updateAttempt call.attemptId {
        status := some .succeeded
        authority := some verified.authority
        gatewayReference := some verified.gatewayReference
        verifiedAt := some call.now
        failureCode := some none })
  /-- the top-up, -/
  | succeededTopUp {call : Call} {verified : VerifiedPayment} {attempt : PaymentAttempt}
      {topUp : WalletTopUp} (hattempt : db.attempts.find? call.attemptId = some attempt)
      (htopUp : db.topUps.find? attempt.walletTopUpId = some topUp)
      (hopen : ¬ (topUp.status = .succeeded ∧
        (db.ledger.find? (creditKey attempt.walletTopUpId)).isSome)) :
      Writes ids db (.settle call verified) (.updateTopUp attempt.walletTopUpId {
        status := some .succeeded
        gateway := some attempt.gateway
        authority := some (some verified.authority)
        gatewayReference := some (some verified.gatewayReference)
        verifiedAt := some call.now
        failureCode := some none })
  /-- and the recovery case; -/
  | resolvedCase {call : Call} {verified : VerifiedPayment} {attempt : PaymentAttempt}
      (hattempt : db.attempts.find? call.attemptId = some attempt)
      (hother : db.otherSucceeded attempt = false) :
      Writes ids db (.settle call verified) (.updateCases call.attemptId none .resolved)
  /-- a review opens the case, -/
  | openCase {task : Task} {create : PaymentRecoveryCase} {update : CaseData}
      (hblind : task.blindAttempt = some (create.attemptId, .review))
      (hcreate : create.status = .open) : Writes ids db task (.upsertCase create update)
  /-- a failure closes it, -/
  | failedCase {task : Task} {id : String} {unless? : Option PaymentReviewStatus}
      (hfails : task.failsCase = some id) :
      Writes ids db task (.updateCases id unless? .definitivelyFailed)
  /-- and admin actions create it. -/
  | newCase {task : Task} {row : PaymentRecoveryCase}
      (hstatus : row.status = .open ∨ row.status = .resolved) : Writes ids db task (.createCase row)

/-- **What the transaction of a task can run.** -/
theorem writes_of_mem_plan {db : Db} (hplan : task.plan ids db = some plan)
    {statement : Statement} (hmem : statement ∈ plan.statements) :
    task.Writes ids db statement := by
  cases task with
  | createPayment input => cases hplan
  | verify call request => cases hplan
  | persistFailure input code =>
      cases hplan
      rcases List.mem_pair.1 hmem with rfl | rfl
      · exact .failedAttempt input code
      · exact .failedTopUp input code
  | persist input payment =>
      cases hplan
      rcases List.mem_pair.1 hmem with rfl | rfl
      · exact .blindAttempt rfl rfl rfl (.inl trivial)
      · exact .blindTopUp rfl rfl
  | persistReview input payment =>
      cases hplan
      simp only [List.mem_cons, List.not_mem_nil, or_false] at hmem
      rcases hmem with rfl | rfl | rfl
      · exact .blindAttempt rfl rfl rfl (.inl trivial)
      · exact .unsavedTopUp input payment rfl
      · exact .openCase rfl rfl
  | markVerified call verified =>
      cases hplan
      rw [List.mem_singleton.1 hmem]
      exact .verified call verified
  | settle call verified =>
      obtain ⟨attempt, topUp, hattempt, htopUp, hother, hopen, hstatement⟩ :=
        mem_settle hplan hmem
      have hid : attempt.id = call.attemptId := (IndexedTable.find?_eq_some.1 hattempt).2
      rcases hstatement with ⟨hfresh, hcredit⟩ | hsuccess
      · rcases List.mem_cons.1 hcredit with rfl | hbonus
        · exact .credit hattempt htopUp hfresh (.inl rfl)
        · obtain ⟨data, hdata, rfl⟩ := Option.map_eq_some_iff.1 (Option.mem_toList.1 hbonus)
          exact .credit hattempt htopUp hfresh (.inr hdata)
      · simp only [successStatements, hid, List.mem_cons, List.not_mem_nil, or_false] at hsuccess
        rcases hsuccess with rfl | rfl | rfl
        · exact .succeededAttempt hattempt hother
        · exact .succeededTopUp hattempt htopUp hopen
        · exact .resolvedCase hattempt hother
  | reviewRead call review fallback =>
      simp only [Task.plan, Option.bind_eq_bind, Option.bind_eq_some_iff, Option.pure_def] at hplan
      obtain ⟨attempt, -, topUp, -, hplan⟩ := hplan
      split at hplan <;> cases hplan <;> cases hmem
  | reviewWrite call review fallback attempt topUpStatus =>
      cases hplan
      simp only [List.mem_append, List.mem_singleton] at hmem
      rcases hmem with (rfl | htopUp) | rfl
      · exact .blindAttempt rfl rfl rfl (.inr ⟨rfl, rfl⟩)
      · split at htopUp
        · cases htopUp
        · rename_i hstatus
          rw [List.mem_singleton.1 htopUp]
          have hblind : (Task.reviewWrite call review fallback attempt topUpStatus).blindTopUp =
              some (attempt.walletTopUpId, .pending) := by
            simp [Task.blindTopUp, hstatus]
          exact .blindTopUp hblind rfl
      · exact .openCase rfl rfl
  | failureRead call code =>
      simp only [Task.plan, Option.bind_eq_bind, Option.bind_eq_some_iff, Option.pure_def] at hplan
      obtain ⟨attempt, -, topUp, -, hplan⟩ := hplan
      split at hplan <;> cases hplan <;> cases hmem
  | failureWrite call code topUpId =>
      cases hplan
      simp only [List.mem_cons, List.not_mem_nil, or_false] at hmem
      rcases hmem with rfl | rfl | rfl
      · exact .blindAttempt rfl rfl rfl (.inr ⟨rfl, rfl⟩)
      · exact .blindTopUp rfl rfl
      · exact .failedCase rfl
  | markFailedWrite attempt hasCase =>
      cases hplan
      simp only [List.mem_append, List.mem_cons, List.not_mem_nil, or_false] at hmem
      rcases hmem with ((rfl | rfl) | hcase) | rfl
      · exact .blindAttempt rfl rfl rfl (.inr ⟨rfl, rfl⟩)
      · exact .blindTopUp rfl rfl
      · split at hcase
        · cases hcase
        · rw [List.mem_singleton.1 hcase]
          exact .newCase (.inl rfl)
      · exact .failedCase rfl
  | recoveryAction attemptId =>
      simp only [Task.plan, Option.bind_eq_bind, Option.bind_eq_some_iff, Option.pure_def] at hplan
      obtain ⟨attempt, -, hplan⟩ := hplan
      split at hplan <;> cases hplan
      · cases hmem
      · rw [List.mem_singleton.1 hmem]
        refine .newCase ?_
        by_cases hstatus : attempt.status = .succeeded <;> simp [hstatus]

/-- The transaction of a task creates no attempt. -/
theorem newAttempt_of_writes {db : Db} {statement : Statement} (h : task.Writes ids db statement)
    (id : String) : statement.newAttempt id = none := by
  cases h <;> rfl

/-! ## What events write -/

private theorem foldl_latest (rows : List PaymentAttempt) (start : Option PaymentAttempt)
    {row : PaymentAttempt}
    (h : rows.foldl (fun latest row =>
      match latest with
      | none => some row
      | some other => if other.attemptNumber < row.attemptNumber then some row else some other)
      start = some row) : row ∈ rows ∨ start = some row := by
  induction rows generalizing start with
  | nil => exact .inr h
  | cons first rest ih =>
      rcases ih _ h with hmem | hstart
      · exact .inl (List.mem_cons_of_mem _ hmem)
      · cases start with
        | none =>
            cases hstart
            exact .inl List.mem_cons_self
        | some other =>
            simp only at hstart
            split at hstart
            · cases hstart
              exact .inl List.mem_cons_self
            · exact .inr hstart

/-- The latest attempt of a top-up is one of its attempts. -/
theorem find?_of_latestAttempt {db : Db} {attempt : PaymentAttempt}
    (h : db.latestAttempt topUpId = some attempt) :
    db.attempts.find? attempt.id = some attempt ∧ attempt.walletTopUpId = topUpId := by
  rcases foldl_latest _ _ h with hmem | hnone
  · obtain ⟨hrow, htopUp⟩ := List.mem_filter.1 hmem
    exact ⟨IndexedTable.find?_eq_some.2 ⟨hrow, rfl⟩, by simpa using htopUp⟩
  · cases hnone

/-- A new top-up comes with its first attempt. -/
theorem createPlan_eq {input : CreateInput} {db : Db} (h : createPlan input db = some plan) :
    ∃ topUp attempt, plan.statements = [.createTopUp topUp, .createAttempt attempt] ∧
      topUp.id = input.topUpId ∧ attempt.id = input.attemptId ∧
      topUp.status = .created ∧ attempt.status = .created ∧
      attempt.verifiedAt = none ∧ attempt.walletTopUpId = topUp.id ∧
      attempt.amount = topUp.amount ∧
      plan.next = [.createPayment ⟨input.topUpId, input.attemptId, input.gateway,
        input.amountRial⟩] := by
  unfold createPlan at h
  split at h
  · cases h
  simp only [Option.bind_eq_bind, Option.bind_eq_some_iff, Option.pure_def] at h
  obtain ⟨wallet, -, h⟩ := h
  split at h
  · cases h
  · cases h
    exact ⟨_, _, rfl, rfl, rfl, rfl, rfl, rfl, rfl, rfl, rfl⟩

/-- A retry expires at most the latest attempt, adds one, and reopens the top-up,
which has not succeeded. -/
theorem retryPlan_eq {input : RetryInput} {db : Db} (h : retryPlan input db = some plan) :
    ∃ topUp attempt data, db.topUps.find? input.topUpId = some topUp ∧
      topUp.status ≠ .succeeded ∧
      plan.statements =
        (((db.latestAttempt topUp.id).filter fun latest => expires latest input.now).map
          fun latest => Statement.updateAttempt latest.id {
            status := some .expired, failureCode := some (some "expired") }).toList ++
        [.createAttempt attempt, .updateTopUp topUp.id data] ∧
      attempt.id = input.attemptId ∧ attempt.status = .created ∧ attempt.verifiedAt = none ∧
      attempt.walletTopUpId = topUp.id ∧ attempt.amount = topUp.amount ∧
      data.status = some .created ∧
      plan.next = [.createPayment ⟨topUp.id, input.attemptId, input.gateway, topUp.amount⟩] := by
  unfold retryPlan at h
  split at h
  · cases h
  split at h
  · cases h
  simp only [Option.bind_eq_bind, Option.bind_eq_some_iff, Option.pure_def] at h
  obtain ⟨topUp, htopUp, h⟩ := h
  split at h
  · cases h
  rename_i howner
  split at h
  · cases h
  · cases h
    exact ⟨topUp, _, _, htopUp, fun hstatus => howner (.inr hstatus), rfl, rfl, rfl, rfl, rfl, rfl,
      rfl, rfl⟩

/-- The statements that an event can run. -/
inductive EventWrites (state : State) : Event → Statement → Prop
  | wallet {walletId userId : String} {row : WalletRow} :
      EventWrites state (.ensureWallet walletId userId) (.createWallet row)
  /-- A new top-up comes with its first attempt. -/
  | topUp {input : CreateInput} {topUp : WalletTopUp} (hstatus : topUp.status = .created) :
      EventWrites state (.create input) (.createTopUp topUp)
  | attempt {input : CreateInput} {attempt : PaymentAttempt} (hstatus : attempt.status = .created)
      (hverified : attempt.verifiedAt = none) :
      EventWrites state (.create input) (.createAttempt attempt)
  /-- A retry may expire the latest attempt, -/
  | expired {input : RetryInput} {topUp : WalletTopUp} {latest : PaymentAttempt}
      (htopUp : state.db.topUps.find? input.topUpId = some topUp)
      (hnew : topUp.status ≠ .succeeded)
      (hlatest : state.db.latestAttempt input.topUpId = some latest)
      (hexpires : expires latest input.now = true) :
      EventWrites state (.retry input) (.updateAttempt latest.id {
        status := some .expired, failureCode := some (some "expired") })
  /-- adds one, -/
  | retried {input : RetryInput} {topUp : WalletTopUp} {attempt : PaymentAttempt}
      (htopUp : state.db.topUps.find? input.topUpId = some topUp)
      (hnew : topUp.status ≠ .succeeded) (hlink : attempt.walletTopUpId = input.topUpId)
      (hamount : attempt.amount = topUp.amount) (hstatus : attempt.status = .created)
      (hverified : attempt.verifiedAt = none) :
      EventWrites state (.retry input) (.createAttempt attempt)
  /-- and reopens the top-up. -/
  | reopened {input : RetryInput} {topUp : WalletTopUp} {data : TopUpData}
      (htopUp : state.db.topUps.find? input.topUpId = some topUp)
      (hnew : topUp.status ≠ .succeeded) (hstatus : data.status = some .created) :
      EventWrites state (.retry input) (.updateTopUp input.topUpId data)
  | task {i : ℕ} {ids : LedgerIds} {acknowledged : Bool} {task : Task} {statement : Statement}
      (htask : state.tasks[i]? = some task) (hwrites : task.Writes ids state.db statement) :
      EventWrites state (.commit i ids acknowledged) statement

/-- **What an event can run.** -/
theorem writes_of_mem_eventPlan (hplan : eventPlan state event = some plan)
    {statement : Statement} (hmem : statement ∈ plan.statements) :
    EventWrites state event statement := by
  cases event with
  | create input =>
      obtain ⟨topUp, attempt, hstatements, -, -, htopUp, hattempt, hverified, -⟩ :=
        createPlan_eq hplan
      rw [hstatements] at hmem
      rcases List.mem_pair.1 hmem with rfl | rfl
      · exact .topUp htopUp
      · exact .attempt hattempt hverified
  | retry input =>
      simp only [eventPlan] at hplan
      split at hplan
      · cases hplan
      obtain ⟨topUp, attempt, data, hfind, hnew, hstatements, -, hattempt, hverified, hlink,
        hamount, hdata, -⟩ := retryPlan_eq hplan
      have hid : topUp.id = input.topUpId := (IndexedTable.find?_eq_some.1 hfind).2
      rw [hstatements, hid] at hmem
      simp only [List.mem_append, List.mem_cons, List.not_mem_nil, or_false, Option.mem_toList,
        Option.map_eq_some_iff] at hmem
      rcases hmem with ⟨latest, hlatest, rfl⟩ | rfl | rfl
      · obtain ⟨hlatest, hexpires⟩ := Option.filter_eq_some_iff.1 hlatest
        exact .expired hfind hnew hlatest hexpires
      · exact .retried hfind hnew (hlink.trans hid) hamount hattempt hverified
      · exact .reopened hfind hnew hdata
  | commit i ids acknowledged =>
      obtain ⟨task, htask, hplan⟩ := Option.bind_eq_some_iff.1 hplan
      exact .task htask (writes_of_mem_plan hplan hmem)
  | ensureWallet walletId userId =>
      cases hplan
      rw [List.mem_singleton.1 hmem]
      exact .wallet
  | _ => cases hplan

/-- What every statement of the transaction of an event preserves, the event preserves. -/
theorem transaction_induction {p : Db → Prop} (h : p state.db)
    (hstep : ∀ plan, eventPlan state event = some plan →
      execute plan.statements state.db = some (stepState state event).db →
      ∀ statement ∈ plan.statements, ∀ before after, state.db.Extends before → p before →
        statement.Effect before after → p after) :
    p (stepState state event).db := by
  rcases db_stepState state event with hsame | ⟨plan, hplan, hexecute⟩
  · rw [hsame]
    exact h
  · have hboth : state.db.Extends (stepState state event).db ∧ p (stepState state event).db := by
      refine execute_induction (p := fun db => state.db.Extends db ∧ p db) ⟨.refl _, h⟩ ?_ hexecute
      rintro statement hmem before after ⟨hextends, hbefore⟩ heffect
      exact ⟨hextends.trans heffect.extends_db,
        hstep plan hplan hexecute statement hmem before after hextends hbefore heffect⟩
    exact hboth.2

/-- What every statement that an event can run preserves, the event preserves. -/
theorem stepState_induction {p : Db → Prop} (h : p state.db)
    (hstep : ∀ statement, EventWrites state event statement → ∀ before after,
      state.db.Extends before → p before → statement.Effect before after → p after) :
    p (stepState state event).db :=
  transaction_induction h fun _ hplan _ statement hmem =>
    hstep statement (writes_of_mem_eventPlan hplan hmem)

/-! ## Linked runs -/

private theorem linked_execute {db db' : Db} (h : db.Linked)
    (hexecute : execute plan.statements db = some db')
    (hnew : ∀ statement ∈ plan.statements, ∀ id row, statement.newAttempt id = some row →
      ∃ topUp, db.topUps.find? row.walletTopUpId = some topUp ∧ topUp.amount = row.amount) :
    db'.Linked := by
  have hrun : db.Extends db' ∧ db'.Linked := by
    refine execute_induction (p := fun after => db.Extends after ∧ after.Linked) ⟨.refl db, h⟩ ?_
      hexecute
    rintro statement hmem before after ⟨hextends, hbefore⟩ heffect
    refine ⟨hextends.trans heffect.extends_db, hbefore.effect heffect fun id row hrow => ?_⟩
    obtain ⟨topUp, htopUp, hamount⟩ := hnew statement hmem id row hrow
    obtain ⟨topUp', htopUp', hidentity⟩ := hextends.topUps _ _ htopUp
    have hsame : topUp'.amount = topUp.amount := congrArg (fun t => t.2.1) hidentity
    exact ⟨topUp', htopUp', hsame.trans hamount⟩
  exact hrun.2

/-- Attempts stay linked to their top-ups. -/
theorem linked_stepState (h : state.db.Linked) : (stepState state event).db.Linked := by
  rcases db_stepState state event with hsame | ⟨plan, hplan, hexecute⟩
  · rw [hsame]
    exact h
  cases event with
  | create input =>
      obtain ⟨topUp, attempt, hstatements, -, -, -, -, -, htopUp, hamount, -⟩ := createPlan_eq hplan
      -- the attempt belongs to the top-up that the statement before it creates
      rw [hstatements] at hexecute
      obtain ⟨mid, hcreate, hexecute⟩ := execute_cons.1 hexecute
      obtain ⟨last, hattempt, hexecute⟩ := execute_cons.1 hexecute
      cases hexecute
      have hmid := h.effect (Statement.effect_of_run hcreate) (by simp [Statement.newAttempt])
      refine hmid.effect (Statement.effect_of_run hattempt) fun id row hrow => ?_
      have hrow : attempt = row := by
        simp only [Statement.newAttempt] at hrow
        split at hrow
        · exact Option.some.inj hrow
        · cases hrow
      subst hrow
      obtain ⟨topUps, hinsert, rfl⟩ := Option.map_eq_some_iff.1 hcreate
      refine ⟨topUp, ?_, hamount.symm⟩
      simp [IndexedTable.find?_insert? hinsert, htopUp]
  | retry input =>
      simp only [eventPlan] at hplan
      split at hplan
      · cases hplan
      obtain ⟨topUp, attempt, data, hfind, -, hstatements, -, -, -, htopUp, hamount, -, -⟩ :=
        retryPlan_eq hplan
      refine linked_execute h hexecute fun statement hmem id row hrow => ?_
      have hkey : topUp.id = input.topUpId := (IndexedTable.find?_eq_some.1 hfind).2
      rw [hstatements] at hmem
      simp only [List.mem_append, List.mem_cons, List.not_mem_nil, or_false, Option.mem_toList,
        Option.map_eq_some_iff] at hmem
      rcases hmem with ⟨latest, -, rfl⟩ | rfl | rfl
      · cases hrow
      · simp only [Statement.newAttempt] at hrow
        split at hrow
        · cases hrow
          exact ⟨topUp, by rw [htopUp, hkey]; exact hfind, hamount.symm⟩
        · cases hrow
      · cases hrow
  | commit i ids acknowledged =>
      obtain ⟨task, -, hplan⟩ := Option.bind_eq_some_iff.1 hplan
      refine linked_execute h hexecute fun statement hmem id row hrow => ?_
      rw [newAttempt_of_writes (writes_of_mem_plan hplan hmem) id] at hrow
      cases hrow
  | ensureWallet walletId userId =>
      cases hplan
      refine linked_execute h hexecute fun statement hmem id row hrow => ?_
      rw [List.mem_singleton.1 hmem] at hrow
      cases hrow
  | _ => cases hplan

/-- An attempt that a transaction creates is there after it. -/
private theorem belongs_of_execute {db db' : Db} {attempt : PaymentAttempt}
    (hmem : .createAttempt attempt ∈ statements) (hexecute : execute statements db = some db') :
    db'.Belongs attempt.id attempt.walletTopUpId := by
  induction statements generalizing db with
  | nil => cases hmem
  | cons statement rest ih =>
      obtain ⟨mid, hrun, hrest⟩ := execute_cons.1 hexecute
      rcases List.mem_cons.1 hmem with rfl | hmem
      · obtain ⟨attempts, hinsert, rfl⟩ := Option.map_eq_some_iff.1 hrun
        refine Db.Belongs.extend ⟨attempt, ?_, rfl⟩ (extends_of_execute hrest)
        simp [IndexedTable.find?_insert? hinsert]
      · exact ih hmem hrest

private theorem names_of_mem_done (h : task ∈ call.done) : task.names = none := by
  unfold Call.done at h
  split at h
  · cases h
  · rw [List.mem_singleton.1 h]
    rfl
  · rw [List.mem_singleton.1 h]
    rfl

private theorem linked_of_names {db : Db} (h : task.names = none) : Linked db task := by
  intro names hnames
  rw [h] at hnames
  cases hnames

/-- The tasks that follow the transaction of a task are linked. -/
private theorem linked_next {db : Db} {next : Task} (hplan : task.plan ids db = some plan)
    (hmem : next ∈ plan.next) : Linked db next := by
  cases task with
  | settle call verified =>
      obtain ⟨attempt, topUp, -, -, hcases⟩ := settlePlan_cases hplan
      rcases hcases with ⟨-, -, rfl⟩ | ⟨-, rfl⟩ | ⟨-, -, rfl⟩
      · exact linked_of_names (names_of_mem_done hmem)
      · rw [List.mem_singleton.1 hmem]
        exact linked_of_names rfl
      · exact linked_of_names (names_of_mem_done hmem)
  | reviewRead call review fallback =>
      simp only [Task.plan, Option.bind_eq_bind, Option.bind_eq_some_iff, Option.pure_def] at hplan
      obtain ⟨attempt, hattempt, topUp, -, hplan⟩ := hplan
      split at hplan
      · cases hplan
        exact linked_of_names (names_of_mem_done hmem)
      · cases hplan
        rw [List.mem_singleton.1 hmem]
        rintro _ ⟨⟩
        exact ⟨attempt, hattempt, rfl⟩
  | failureRead call code =>
      simp only [Task.plan, Option.bind_eq_bind, Option.bind_eq_some_iff, Option.pure_def] at hplan
      obtain ⟨attempt, hattempt, topUp, -, hplan⟩ := hplan
      split at hplan
      · cases hplan
        exact linked_of_names (names_of_mem_done hmem)
      · cases hplan
        rw [List.mem_singleton.1 hmem]
        rintro _ ⟨⟩
        exact ⟨attempt, hattempt, rfl⟩
  | recoveryAction attemptId =>
      simp only [Task.plan, Option.bind_eq_bind, Option.bind_eq_some_iff, Option.pure_def] at hplan
      obtain ⟨attempt, -, hplan⟩ := hplan
      split at hplan <;> cases hplan <;> cases hmem
  | markVerified call verified =>
      cases hplan
      rw [List.mem_singleton.1 hmem]
      exact linked_of_names rfl
  | reviewWrite call review fallback attempt topUpStatus =>
      cases hplan
      exact linked_of_names (names_of_mem_done hmem)
  | failureWrite call code topUpId =>
      cases hplan
      exact linked_of_names (names_of_mem_done hmem)
  | _ => cases hplan <;> cases hmem

private theorem linked_onFault {db : Db} {next : Task} (h : Linked db task)
    (hmem : next ∈ task.onFault) : Linked db next := by
  cases task with
  | persist input payment =>
      rw [List.mem_singleton.1 hmem]
      exact h
  | markVerified call verified =>
      rw [List.mem_singleton.1 hmem]
      exact linked_of_names rfl
  | settle call verified =>
      obtain ⟨review, -, rfl⟩ := Option.map_eq_some_iff.1 (Option.mem_toList.1 hmem)
      exact linked_of_names rfl
  | reviewRead call review fallback =>
      obtain ⟨review, -, rfl⟩ := Option.map_eq_some_iff.1 (Option.mem_toList.1 hmem)
      exact linked_of_names rfl
  | reviewWrite call review fallback attempt topUpStatus =>
      obtain ⟨review, -, rfl⟩ := Option.map_eq_some_iff.1 (Option.mem_toList.1 hmem)
      exact linked_of_names rfl
  | _ => cases hmem

private theorem names_of_mem_startVerify {db : Db} {authority statusHint : Option String}
    (h : task ∈ startVerify db call authority statusHint) : task.names = none := by
  unfold startVerify at h
  split at h
  · cases h
  split at h
  · exact names_of_mem_done h
  split at h
  · cases h
  · rw [List.mem_singleton.1 h]
    rfl

private theorem names_of_mem_startReconcile {db : Db} {now : ℤ}
    (h : task ∈ startReconcile db attemptId now) : task.names = none := by
  unfold startReconcile at h
  split at h
  · cases h
  split at h
  · split at h
    · cases h
    · rw [List.mem_singleton.1 h]
      rfl
  · cases h

theorem names_afterVerify (call : Call) (request : VerifyRequest) (answer : GatewayAnswer) :
    (afterVerify call request answer).names = none := by
  unfold afterVerify
  split
  · rfl
  · split <;> rfl
  · split <;> rfl

/-- The tasks that an event adds are linked. -/
private theorem linked_spawned (h : ∀ task ∈ state.tasks, Linked state.db task)
    (hspawned : Spawned state event task) :
    Linked (stepState state event).db task := by
  have hextends := extends_stepState state event
  have hextend : ∀ {task : Task}, Linked state.db task → Linked (stepState state event).db task :=
    fun hlinked names hnames => (hlinked names hnames).extend hextends
  cases hspawned with
  | @next event plan task hplan hexecute htask =>
      cases event with
      | create input =>
          obtain ⟨topUp, attempt, hstatements, hid, hattempt, -, -, -, htopUp, -, hnext⟩ :=
            createPlan_eq hplan
          rw [hnext] at htask
          rw [List.mem_singleton.1 htask]
          rintro _ ⟨⟩
          have hmem : Statement.createAttempt attempt ∈ plan.statements := by simp [hstatements]
          have hbelongs := belongs_of_execute hmem hexecute
          rwa [hattempt, htopUp, hid] at hbelongs
      | retry input =>
          simp only [eventPlan] at hplan
          split at hplan
          · cases hplan
          obtain ⟨topUp, attempt, data, -, -, hstatements, hattempt, -, -, htopUp, -, -, hnext⟩ :=
            retryPlan_eq hplan
          rw [hnext] at htask
          rw [List.mem_singleton.1 htask]
          rintro _ ⟨⟩
          have hmem : Statement.createAttempt attempt ∈ plan.statements := by simp [hstatements]
          have hbelongs := belongs_of_execute hmem hexecute
          rwa [hattempt, htopUp] at hbelongs
      | commit i ids acknowledged =>
          obtain ⟨committed, -, hplan⟩ := Option.bind_eq_some_iff.1 hplan
          exact hextend (linked_next hplan htask)
      | ensureWallet walletId userId =>
          cases hplan
          cases htask
      | _ => cases hplan
  | fault hfailed htask => exact hextend (linked_onFault (h _ (List.mem_of_getElem? hfailed)) htask)
  | verify htask => exact linked_of_names (names_of_mem_startVerify htask)
  | reconcile htask => exact linked_of_names (names_of_mem_startReconcile htask)
  | markFailed htask =>
      refine hextend ?_
      unfold startMarkFailed at htask
      split at htask
      · cases htask
      rename_i attempt hattempt
      split at htask
      · cases htask
      · rw [List.mem_singleton.1 htask]
        rintro _ ⟨⟩
        have hid : attempt.id = _ := (IndexedTable.find?_eq_some.1 hattempt).2
        exact ⟨attempt, by rw [hid]; exact hattempt, rfl⟩
  | paid htask =>
      have hlinked := h _ (List.mem_of_getElem? htask)
      exact hextend fun names hnames => hlinked names hnames
  | unpaid htask =>
      have hlinked := h _ (List.mem_of_getElem? htask)
      exact hextend fun names hnames => hlinked names hnames
  | verified htask => exact linked_of_names (names_afterVerify _ _ _)

/-- **In every run attempts keep their top-ups, and tasks name them together.** -/
theorem linked_step (state : State) (event : Event) (h : state.Holds Db.Linked Linked) :
    (step state event).1.Holds Db.Linked Linked := by
  refine ⟨linked_stepState h.1, fun task htask => ?_⟩
  rcases mem_tasks_stepState htask with hold | hnew
  · exact fun names hnames => (h.2 task hold names hnames).extend (extends_stepState state event)
  · exact linked_spawned h.2 hnew

theorem linked_initial : State.initial.Holds Db.Linked Linked := by
  refine ⟨fun id row hrow => ?_, fun task htask => ?_⟩
  · cases hrow
  · cases htask

end AbrChin.TopUp
