import AbrChin.TopUp.Final

/-!
# One transaction of the gateway funds one credit

The authority of a callback is the customer's to choose, so the same gateway
transaction can be presented for several attempts.  What makes it count once are
the unique authorities and references of top-ups: a transaction that has funded a
top-up is spent (`Spent`), because a second settlement would write the same
authority or the same reference.

This needs that authorities of one transaction are one string.  Zibal reads the
track number as a number, so where it reports no reference a second spelling of
the number would pass; the theorem is about runs in which such track numbers are
plain numerals.  Where a gateway does not report the amount, the adapter takes
the amount that it expects.
-/

namespace AbrChin.TopUp

open Lib Payments Wallet

/-! ## What the gateway knows -/

/-- A transaction that was paid: its amount, and the amount and the reference
that the gateway reports, where it does. -/
structure BankPayment where
  amount : ℤ
  reported : Option ℤ
  reference : Option String
  honest : ∀ other ∈ reported, other = amount

/-- The transactions that were paid. -/
abbrev Bank := GatewayTransaction → Option BankPayment

/-- A payment confirms an attempt through an authority and a reference. -/
structure Confirms (payment : BankPayment) (transaction : GatewayTransaction)
    (gateway : PaymentGatewayProvider) (amount : ℤ) (authority reference : String) : Prop where
  names : transactionOf gateway authority = some transaction
  reference : reference = payment.reference.getD authority
  amount : ∀ reported ∈ payment.reported, reported = amount
  plain : gateway = .zibal → payment.reference = none → Js.isPlainNumeral authority = true

instance (payment : BankPayment) (transaction : GatewayTransaction)
    (gateway : PaymentGatewayProvider) (amount : ℤ) (authority reference : String) :
    Decidable (Confirms payment transaction gateway amount authority reference) :=
  decidable_of_iff (_ ∧ _ ∧ _ ∧ _)
    ⟨fun h => ⟨h.1, h.2.1, h.2.2.1, h.2.2.2⟩, fun h => ⟨h.1, h.2, h.3, h.4⟩⟩

/-- **Confirmations by one payment share the authority or the reference.** -/
theorem Confirms.unique {payment : BankPayment} {transaction : GatewayTransaction}
    {gateway₁ gateway₂ : PaymentGatewayProvider} {amount₁ amount₂ : ℤ}
    {authority₁ authority₂ reference₁ reference₂ : String}
    (h₁ : Confirms payment transaction gateway₁ amount₁ authority₁ reference₁)
    (h₂ : Confirms payment transaction gateway₂ amount₂ authority₂ reference₂) :
    authority₁ = authority₂ ∨ reference₁ = reference₂ := by
  rcases eq_of_transactionOf_eq h₁.names h₂.names with hsame | ⟨hzibal₁, hzibal₂, hnumber⟩
  · exact .inl hsame
  cases hreference : payment.reference with
  | some reference =>
      have hfirst := h₁.reference
      have hsecond := h₂.reference
      rw [hreference] at hfirst hsecond
      exact .inr (hfirst.trans hsecond.symm)
  | none =>
      exact .inl (Js.toNumber_injective (h₁.plain hzibal₁ hreference) (h₂.plain hzibal₂ hreference)
        hnumber)

/-! ## Fair runs -/

/-- What the gateway has been asked. -/
def Task.request : Task → Option VerifyRequest
  | verify _ request => some request
  | _ => none

/-- The adapter takes an answer for a success. -/
def accepted (request : VerifyRequest) (answer : GatewayAnswer) : Bool :=
  match verifyPayment request.gateway ⟨request.authority, request.amount, request.statusHint⟩
      answer with
  | .ok (.ok _) => true
  | _ => false

/-- An answer that is taken for a success is about a transaction that was paid,
and reports what the gateway knows of it. -/
def HonestAnswer (bank : Bank) (request : VerifyRequest) (answer : GatewayAnswer) : Prop :=
  accepted request answer = true →
    ∃ payment ∈ (transactionOf request.gateway request.authority).bind bank,
      reportOf request.gateway answer = ⟨payment.reported, payment.reference⟩

instance (bank : Bank) (request : VerifyRequest) (answer : GatewayAnswer) :
    Decidable (HonestAnswer bank request answer) :=
  inferInstanceAs (Decidable (_ → ∃ payment ∈ _, _ = _))

/-- The gateway answers honestly. -/
def AnswersHonestly (bank : Bank) (state : State) (event : Event) : Prop :=
  match event with
  | .verifyAnswer i answer => ∀ task ∈ state.tasks[i]?, ∀ request ∈ task.request,
      HonestAnswer bank request answer
  | _ => True

instance (bank : Bank) : (state : State) → (event : Event) →
    Decidable (AnswersHonestly bank state event)
  | state, .verifyAnswer i answer => inferInstanceAs (Decidable (∀ task ∈ state.tasks[i]?,
      ∀ request ∈ task.request, HonestAnswer bank request answer))
  | _, .ensureWallet _ _ | _, .create _ | _, .retry _ | _, .callback _ | _, .adminReverify _ _
  | _, .adminReconcile _ _ | _, .adminMarkFailed _ | _, .paymentAnswer _ _ | _, .commit _ _ _
  | _, .fault _ | _, .crash _ => inferInstanceAs (Decidable True)

/-- A track number that Zibal answers without a reference is a plain numeral. -/
def TracksPlainly (state : State) (event : Event) : Prop :=
  match event with
  | .verifyAnswer i answer => ∀ task ∈ state.tasks[i]?, ∀ request ∈ task.request,
      request.gateway = .zibal → (reportOf request.gateway answer).reference = none →
        Js.isPlainNumeral request.authority = true
  | _ => True

instance : (state : State) → (event : Event) → Decidable (TracksPlainly state event)
  | state, .verifyAnswer i answer => inferInstanceAs (Decidable (∀ task ∈ state.tasks[i]?,
      ∀ request ∈ task.request, request.gateway = .zibal →
        (reportOf request.gateway answer).reference = none →
          Js.isPlainNumeral request.authority = true))
  | _, .ensureWallet _ _ | _, .create _ | _, .retry _ | _, .callback _ | _, .adminReverify _ _
  | _, .adminReconcile _ _ | _, .adminMarkFailed _ | _, .paymentAnswer _ _ | _, .commit _ _ _
  | _, .fault _ | _, .crash _ => inferInstanceAs (Decidable True)

/-- The authority and the reference of an attempt come from a payment. -/
def ConfirmedBy (bank : Bank) (attempt : PaymentAttempt) : Prop :=
  ∀ authority ∈ attempt.authority, ∀ reference ∈ attempt.gatewayReference,
    ∃ transaction ∈ transactionOf attempt.gateway authority, ∃ payment ∈ bank transaction,
      Confirms payment transaction attempt.gateway attempt.amount authority reference

instance (bank : Bank) (attempt : PaymentAttempt) : Decidable (ConfirmedBy bank attempt) :=
  inferInstanceAs (Decidable (∀ authority ∈ attempt.authority,
    ∀ reference ∈ attempt.gatewayReference,
      ∃ transaction ∈ transactionOf attempt.gateway authority, ∃ payment ∈ bank transaction,
        Confirms payment transaction attempt.gateway attempt.amount authority reference))

/-- An admin reconciles an attempt that still has what the gateway has confirmed. -/
def ReconcilesConfirmed (bank : Bank) (state : State) (event : Event) : Prop :=
  match event with
  | .adminReconcile attemptId _ => ∀ attempt ∈ state.db.attempts.find? attemptId,
      attempt.verifiedAt.isSome = true → ConfirmedBy bank attempt
  | _ => True

instance (bank : Bank) : (state : State) → (event : Event) →
    Decidable (ReconcilesConfirmed bank state event)
  | state, .adminReconcile attemptId _ => inferInstanceAs (Decidable (
      ∀ attempt ∈ state.db.attempts.find? attemptId,
        attempt.verifiedAt.isSome = true → ConfirmedBy bank attempt))
  | _, .ensureWallet _ _ | _, .create _ | _, .retry _ | _, .callback _ | _, .adminReverify _ _
  | _, .adminMarkFailed _ | _, .paymentAnswer _ _ | _, .verifyAnswer _ _ | _, .commit _ _ _
  | _, .fault _ | _, .crash _ => inferInstanceAs (Decidable True)

/-- A step of a run in which the gateway is honest, track numbers are plain where
nothing else identifies them, and success is not overwritten. -/
structure Fair (bank : Bank) (state : State) (event : Event) : Prop where
  spares : SparesSucceeded state event
  honest : AnswersHonestly bank state event
  plain : TracksPlainly state event
  reconciles : ReconcilesConfirmed bank state event

instance (bank : Bank) (state : State) (event : Event) : Decidable (Fair bank state event) :=
  decidable_of_iff (_ ∧ _ ∧ _ ∧ _)
    ⟨fun h => ⟨h.1, h.2.1, h.2.2.1, h.2.2.2⟩, fun h => ⟨h.1, h.2, h.3, h.4⟩⟩

/-! ## Tasks that carry a confirmation -/

/-- A verification asks about its attempt, and a confirmation comes from a payment. -/
def Genuine (bank : Bank) (db : Db) : Task → Prop
  | .verify call request => ∃ row, db.attempts.find? call.attemptId = some row ∧
      request.gateway = row.gateway ∧ request.amount = row.amount
  | .markVerified call verified | .settle call verified =>
      ∃ row transaction payment, db.attempts.find? call.attemptId = some row ∧
        bank transaction = some payment ∧ Confirms payment transaction row.gateway row.amount
          verified.authority verified.gatewayReference
  | _ => True

variable {bank : Bank}

variable {task : Task} {db : Db}

theorem Genuine.extend {db' : Db} (h : Genuine bank db task) (hextends : db.Extends db') :
    Genuine bank db' task := by
  have hkeep : ∀ {id row}, db.attempts.find? id = some row →
      ∃ row', db'.attempts.find? id = some row' ∧ row'.gateway = row.gateway ∧
        row'.amount = row.amount := by
    intro id row hrow
    obtain ⟨row', hrow', hidentity⟩ := hextends.attempts id row hrow
    simp only [PaymentAttempt.identity, Prod.mk.injEq] at hidentity
    exact ⟨row', hrow', hidentity.2.2.2, hidentity.2.1⟩
  cases task with
  | verify call request =>
      obtain ⟨row, hrow, hgateway, hamount⟩ := h
      obtain ⟨row', hrow', hsame, hsame'⟩ := hkeep hrow
      exact ⟨row', hrow', hgateway.trans hsame.symm, hamount.trans hsame'.symm⟩
  | markVerified call verified | settle call verified =>
      obtain ⟨row, transaction, payment, hrow, hbank, hconfirms⟩ := h
      obtain ⟨row', hrow', hsame, hsame'⟩ := hkeep hrow
      exact ⟨row', transaction, payment, hrow', hbank, by rw [hsame, hsame']; exact hconfirms⟩
  | _ => trivial

variable {call : Call}

theorem genuine_of_mem_done (h : task ∈ call.done) : Genuine bank db task := by
  unfold Call.done at h
  split at h
  · cases h
  · rw [List.mem_singleton.1 h]
    trivial
  · rw [List.mem_singleton.1 h]
    trivial

/-- What follows a confirmed transaction of a task is as genuine as the task. -/
theorem genuine_next {ids : LedgerIds} {next : Task} {plan : Plan} (h : Genuine bank db task)
    (hplan : task.plan ids db = some plan) (hmem : next ∈ plan.next) :
    Genuine bank db next := by
  cases task with
  | markVerified call verified =>
      obtain rfl := Option.some.inj hplan
      rw [List.mem_singleton.1 hmem]
      exact h
  | settle call verified =>
      obtain ⟨attempt, topUp, -, -, hcases⟩ := settlePlan_cases hplan
      rcases hcases with ⟨-, -, rfl⟩ | ⟨-, rfl⟩ | ⟨-, -, rfl⟩
      · exact genuine_of_mem_done hmem
      · rw [List.mem_singleton.1 hmem]
        trivial
      · exact genuine_of_mem_done hmem
  | reviewRead call review fallback =>
      simp only [Task.plan, Option.bind_eq_bind, Option.bind_eq_some_iff, Option.pure_def] at hplan
      obtain ⟨attempt, -, topUp, -, hplan⟩ := hplan
      split at hplan
      · obtain rfl := Option.some.inj hplan
        exact genuine_of_mem_done hmem
      · obtain rfl := Option.some.inj hplan
        rw [List.mem_singleton.1 hmem]
        trivial
  | failureRead call code =>
      simp only [Task.plan, Option.bind_eq_bind, Option.bind_eq_some_iff, Option.pure_def] at hplan
      obtain ⟨attempt, -, topUp, -, hplan⟩ := hplan
      split at hplan
      · obtain rfl := Option.some.inj hplan
        exact genuine_of_mem_done hmem
      · obtain rfl := Option.some.inj hplan
        rw [List.mem_singleton.1 hmem]
        trivial
  | recoveryAction attemptId =>
      simp only [Task.plan, Option.bind_eq_bind, Option.bind_eq_some_iff, Option.pure_def] at hplan
      obtain ⟨attempt, -, hplan⟩ := hplan
      split at hplan <;> cases hplan <;> cases hmem
  | reviewWrite call review fallback attempt topUpStatus | failureWrite call code topUpId =>
      obtain rfl := Option.some.inj hplan
      exact genuine_of_mem_done hmem
  | _ => cases hplan <;> cases hmem

theorem genuine_onFault {next : Task} (hmem : next ∈ task.onFault) : Genuine bank db next := by
  cases task with
  | persist input payment | markVerified call verified =>
      rw [List.mem_singleton.1 hmem]
      trivial
  | settle call verified | reviewRead call review fallback
  | reviewWrite call review fallback attempt topUpStatus =>
      obtain ⟨review, -, rfl⟩ := Option.map_eq_some_iff.1 (Option.mem_toList.1 hmem)
      trivial
  | _ => cases hmem

theorem genuine_startVerify {authority statusHint : Option String}
    (h : task ∈ startVerify db call authority statusHint) : Genuine bank db task := by
  unfold startVerify at h
  split at h
  · cases h
  rename_i attempt hattempt
  split at h
  · exact genuine_of_mem_done h
  split at h
  · cases h
  · rw [List.mem_singleton.1 h]
    exact ⟨attempt, hattempt, rfl, rfl⟩

theorem genuine_startReconcile {state : State} {attemptId : String} {now : ℤ}
    (hreconciles : ReconcilesConfirmed bank state (.adminReconcile attemptId now))
    (h : task ∈ startReconcile state.db attemptId now) : Genuine bank state.db task := by
  unfold startReconcile at h
  split at h
  · cases h
  rename_i attempt hattempt
  split at h
  · rename_i verifiedAt authority reference hverified hauthority hreference
    split at h
    · cases h
    · have hid : attempt.id = attemptId := (IndexedTable.find?_eq_some.1 hattempt).2
      obtain ⟨transaction, -, payment, hbank, hconfirms⟩ := hreconciles attempt hattempt
        (by simp [hverified]) authority hauthority reference hreference
      rw [List.mem_singleton.1 h]
      exact ⟨attempt, transaction, payment, hid.symm ▸ hattempt, hbank, hconfirms⟩
  · cases h

/-- An honest answer makes the confirmation genuine. -/
theorem genuine_afterVerify {request : VerifyRequest} {answer : GatewayAnswer}
    (h : Genuine bank db (.verify call request)) (hhonest : HonestAnswer bank request answer)
    (hplain : request.gateway = .zibal → (reportOf request.gateway answer).reference = none →
      Js.isPlainNumeral request.authority = true) :
    Genuine bank db (afterVerify call request answer) := by
  obtain ⟨row, hrow, hgateway, hamount⟩ := h
  unfold afterVerify
  split
  · trivial
  · split <;> trivial
  rename_i verified hverify
  split
  · trivial
  rename_i hmatch
  obtain ⟨-, hverified⟩ := verifyPayment_ok hverify
  obtain ⟨payment, hbank, hreport⟩ := hhonest (by simp [accepted, hverify])
  obtain ⟨transaction, hnames, hbank⟩ := Option.bind_eq_some_iff.1 hbank
  refine ⟨row, transaction, payment, hrow, hbank, ?_⟩
  rw [hreport] at hverified hplain
  rw [← hgateway, ← hamount]
  have hamountRial : verified.amountRial = request.amount := by
    by_contra hne
    exact hmatch (.inl hne)
  subst hverified
  refine ⟨hnames, rfl, fun reported hreported => ?_, hplain⟩
  simpa [Option.mem_def.1 hreported] using hamountRial

/-- **In a fair run every confirmation that a call carries comes from a payment.** -/
theorem genuine_step {state : State} {event : Event} (hfair : Fair bank state event)
    (h : ∀ task ∈ state.tasks, Genuine bank state.db task) :
    ∀ task ∈ (stepState state event).tasks, Genuine bank (stepState state event).db task := by
  intro task hmem
  have hextends := extends_stepState state event
  rcases mem_tasks_stepState hmem with hold | hspawned
  · exact (h task hold).extend hextends
  refine Genuine.extend ?_ hextends
  cases hspawned with
  | @next event plan task hplan hexecute hnext =>
      cases event with
      | create input =>
          obtain ⟨topUp, attempt, -, -, -, -, -, -, -, -, hnextEq⟩ := createPlan_eq hplan
          rw [hnextEq] at hnext
          rw [List.mem_singleton.1 hnext]
          trivial
      | retry input =>
          simp only [eventPlan] at hplan
          split at hplan
          · cases hplan
          obtain ⟨topUp, attempt, data, -, -, -, -, -, -, -, -, -, hnextEq⟩ := retryPlan_eq hplan
          rw [hnextEq] at hnext
          rw [List.mem_singleton.1 hnext]
          trivial
      | commit i ids acknowledged =>
          obtain ⟨committed, hcommitted, hplan⟩ := Option.bind_eq_some_iff.1 hplan
          exact genuine_next (h _ (List.mem_of_getElem? hcommitted)) hplan hnext
      | ensureWallet walletId userId =>
          cases hplan
          cases hnext
      | _ => cases hplan
  | fault hfailed hnext => exact genuine_onFault hnext
  | verify hverify => exact genuine_startVerify hverify
  | reconcile hreconcile => exact genuine_startReconcile hfair.reconciles hreconcile
  | markFailed hmarkFailed =>
      unfold startMarkFailed at hmarkFailed
      split at hmarkFailed
      · cases hmarkFailed
      split at hmarkFailed
      · cases hmarkFailed
      · rw [List.mem_singleton.1 hmarkFailed]
        trivial
  | paid htask => trivial
  | unpaid htask => trivial
  | @verified i call request answer htask =>
      exact genuine_afterVerify (h _ (List.mem_of_getElem? htask))
        (hfair.honest _ htask request rfl) (hfair.plain _ htask request rfl)

/-! ## Spent transactions -/

/-- A top-up that has succeeded stays as it is. -/
theorem settled_step {state : State} {event : Event} (hpaid : state.db.Paid)
    (hspares : SparesSucceeded state event) {id : String} {row : WalletTopUp}
    (hrow : state.db.topUps.find? id = some row) (hstatus : row.status = .succeeded) :
    (stepState state event).db.topUps.find? id = some row := by
  have hsucceeded : state.db.topUpSucceeded id = true :=
    Db.topUpSucceeded_iff.2 ⟨row, hrow, hstatus⟩
  refine stepState_induction (p := fun db => db.topUps.find? id = some row) hrow ?_
  intro statement hwrites before after _ hbefore heffect
  have hbefore' : before.topUpSucceeded id = true := Db.topUpSucceeded_iff.2 ⟨row, hbefore, hstatus⟩
  have hdata : statement.topUpData before id = {} := by
    cases hwrites with
    | task htask hwrites =>
        cases hwrites with
        | @blindTopUp _ target status data hblind hset =>
            by_cases hid : id = target
            · subst hid
              have hfalse := (hspares _ htask).2 _ hblind
              cases hfalse.symm.trans hsucceeded
            · simp [Statement.topUpData, hid]
        | failedTopUp input code => simp [Statement.topUpData, hbefore']
        | unsavedTopUp input payment hset => simp [Statement.topUpData, hbefore']
        | @succeededTopUp call verified attempt topUp hattempt htopUp hopen =>
            by_cases hid : id = attempt.walletTopUpId
            · -- a settlement finds the top-up succeeded and credited
              subst hid
              obtain rfl := Option.some.inj (htopUp.symm.trans hrow)
              exact absurd ⟨hstatus, hpaid.topUps _ topUp hrow hstatus⟩ hopen
            · simp [Statement.topUpData, hid]
        | _ => rfl
    | @reopened input topUp data htopUp hnew hset =>
        by_cases hid : id = input.topUpId
        · subst hid
          obtain rfl := Option.some.inj (htopUp.symm.trans hrow)
          exact absurd hstatus hnew
        · simp [Statement.topUpData, hid]
    | _ => rfl
  simpa [hdata] using heffect.topUp hbefore

/-- A top-up that has succeeded was funded by the transaction. -/
def Spent (bank : Bank) (transaction : GatewayTransaction) (state : State) : Prop :=
  ∃ id topUp authority reference, state.db.topUps.find? id = some topUp ∧
    topUp.status = .succeeded ∧ topUp.authority = some authority ∧
    topUp.gatewayReference = some reference ∧
    ∃ payment, bank transaction = some payment ∧ ∃ gateway amount,
      Confirms payment transaction gateway amount authority reference

/-- The step commits the settlement by which a transaction credits a top-up. -/
def funds (transaction : GatewayTransaction) (entry : Entry State Event Unit) : Bool :=
  match entry.event with
  | .commit i _ _ => (entry.before.tasks[i]?).any fun
      | .settle call verified =>
          (entry.before.db.attempts.find? call.attemptId).any fun attempt =>
            transactionOf attempt.gateway verified.authority = some transaction &&
              decide (¬ entry.before.db.Credited attempt.walletTopUpId) &&
              decide ((stepState entry.before entry.event).db.Credited attempt.walletTopUpId)
      | _ => false
  | _ => false

/-- What holds in every state of a fair run. -/
structure FairState (bank : Bank) (state : State) : Prop where
  linked : state.Holds Db.Linked Linked
  books : state.db.Books
  genuine : ∀ task ∈ state.tasks, Genuine bank state.db task

theorem fairState_step (state : State) (event : Event) (hfair : Fair bank state event)
    (h : FairState bank state) : FairState bank (step state event).1 :=
  ⟨linked_step state event h.linked, books_step state event h.books,
    genuine_step hfair h.genuine⟩

theorem fairState_initial : FairState bank State.initial where
  linked := linked_initial
  books := books_initial
  genuine := by
    intro task htask
    cases htask

variable {transaction : GatewayTransaction}

theorem spent_step (state : State) (event : Event) (hfair : Fair bank state event)
    (hstate : FairState bank state) (h : Spent bank transaction state) :
    Spent bank transaction (step state event).1 := by
  obtain ⟨id, topUp, authority, reference, hrow, hstatus, hrest⟩ := h
  exact ⟨id, topUp, authority, reference,
    settled_step hstate.books.paid hfair.spares hrow hstatus, hstatus, hrest⟩

section Credit

variable {state : State} {event : Event} (hfair : Fair bank state event)
  (hstate : FairState bank state) {topUpId : String} (hbefore : ¬ state.db.Credited topUpId)
  (hafter : (stepState state event).db.Credited topUpId)
include hfair hstate hbefore hafter

/-- **A step that credits a top-up is funded by a transaction that was paid and
that is not spent before.** -/
theorem funds_of_credited :
    ∃ transaction payment amount, funds transaction ⟨state, event, ()⟩ = true ∧
      bank transaction = some payment ∧ (∀ reported ∈ payment.reported, reported = amount) ∧
      ¬ Spent bank transaction state ∧ Spent bank transaction (stepState state event) ∧
      ∃ credit topUp, (stepState state event).db.ledger.find? (creditKey topUpId) = some credit ∧
        (stepState state event).db.topUps.find? topUpId = some topUp ∧
        credit.amount = topUp.amount ∧ credit.amount = amount := by
  obtain ⟨i, ids, acknowledged, call, verified, attempt, rfl, htask, hattempt, rfl,
    ⟨topUp, htopUp, hstatus, hgateway, hauthority, hreference⟩, -⟩ :=
    settles_of_credited hbefore hafter
  obtain ⟨row, transaction, payment, hrow, hbank, hconfirms⟩ :=
    hstate.genuine _ (List.mem_of_getElem? htask)
  obtain rfl := Option.some.inj (hattempt.symm.trans hrow)
  have hstate' := fairState_step state _ hfair hstate
  refine ⟨transaction, payment, attempt.amount, ?_, hbank, hconfirms.amount, ?_, ?_, ?_⟩
  · simp [funds, htask, hattempt, hconfirms.names, hbefore, hafter]
  · -- two top-ups of one transaction would share a unique column
    rintro ⟨other, row, authority, reference, hother, hsucceeded, hauthority', hreference',
      payment', hbank', gateway, amount, hconfirms'⟩
    obtain rfl := Option.some.inj (hbank.symm.trans hbank')
    have hstays := settled_step hstate.books.paid hfair.spares hother hsucceeded
    obtain ⟨hmem, hid⟩ := IndexedTable.find?_eq_some.1 htopUp
    obtain ⟨hmem', hid'⟩ := IndexedTable.find?_eq_some.1 hstays
    have hsame : topUp = row := by
      rcases hconfirms.unique hconfirms' with hshared | hshared
      · have hindex : (fun row => row.authority) ∈ WalletTopUp.indexes := by
          simp [WalletTopUp.indexes]
        exact IndexedTable.eq_of_index hmem hmem' hindex hauthority (hshared ▸ hauthority')
      · have hindex : (fun row => row.gatewayReference) ∈ WalletTopUp.indexes := by
          simp [WalletTopUp.indexes]
        exact IndexedTable.eq_of_index hmem hmem' hindex hreference (hshared ▸ hreference')
    have hcredited := hstate.books.paid.topUps other row hother hsucceeded
    rw [← hid', ← hsame, hid] at hcredited
    exact hbefore hcredited
  · exact ⟨_, topUp, _, _, htopUp, hstatus, hauthority, hreference, payment, hbank,
      attempt.gateway, attempt.amount, hconfirms⟩
  · obtain ⟨credit, hcredit⟩ := Option.isSome_iff_exists.1 hafter
    obtain ⟨booked, hbooked, hcases⟩ := hstate'.books.booked _ credit hcredit
    have hkey := Table.key_of_find? hcredit
    rcases hcases with hentry | ⟨hbonus, -⟩
    · have hid : booked.id = attempt.walletTopUpId :=
        creditKey_injective (hentry.key.symm.trans hkey)
      rw [hid] at hbooked
      obtain rfl := Option.some.inj (hbooked.symm.trans htopUp)
      -- the attempt has the amount of its top-up
      obtain ⟨owner, howner, hamount⟩ := hstate.linked.1 _ attempt hattempt
      obtain ⟨owner', howner', hidentity⟩ :=
        (extends_stepState state (.commit i ids acknowledged)).topUps _ owner howner
      obtain rfl := Option.some.inj (howner'.symm.trans htopUp)
      have hsame : owner'.amount = owner.amount := congrArg (fun t => t.2.1) hidentity
      exact ⟨credit, owner', hcredit, htopUp, hentry.amount,
        hentry.amount.trans (hsame.trans hamount)⟩
    · exact absurd (hkey.symm.trans hbonus.key) (creditKey_ne_bonusKey _ _)

end Credit

/-- What a funding step commits. -/
theorem of_funds {state : State} {event : Event} (h : funds transaction ⟨state, event, ()⟩ = true) :
    ∃ i ids acknowledged call verified attempt, event = .commit i ids acknowledged ∧
      state.tasks[i]? = some (.settle call verified) ∧
      state.db.attempts.find? call.attemptId = some attempt ∧
      transactionOf attempt.gateway verified.authority = some transaction ∧
      ¬ state.db.Credited attempt.walletTopUpId ∧
      (stepState state event).db.Credited attempt.walletTopUpId := by
  cases event with
  | commit i ids acknowledged =>
      obtain ⟨task, htask, hfunds⟩ := (Option.any_eq_true _ _).1 h
      cases task with
      | settle call verified =>
          obtain ⟨attempt, hattempt, hfunds⟩ := (Option.any_eq_true _ _).1 hfunds
          simp only [Bool.and_eq_true, decide_eq_true_eq] at hfunds
          exact ⟨i, ids, acknowledged, call, verified, attempt, rfl, htask, hattempt, hfunds.1.1,
            hfunds.1.2, hfunds.2⟩
      | _ => cases hfunds
  | _ => cases h

/-- A step is funded by one transaction. -/
theorem funds_unique {state : State} {event : Event} {first second : GatewayTransaction}
    (h₁ : funds first ⟨state, event, ()⟩ = true) (h₂ : funds second ⟨state, event, ()⟩ = true) :
    first = second := by
  obtain ⟨i, ids, acknowledged, call, verified, attempt, rfl, htask, hattempt, hnames, -⟩ :=
    of_funds h₁
  obtain ⟨i', ids', acknowledged', call', verified', attempt', hevent, htask', hattempt', hnames',
    -⟩ := of_funds h₂
  cases hevent
  obtain ⟨rfl, rfl⟩ := Task.settle.inj (Option.some.inj (htask.symm.trans htask'))
  obtain rfl := Option.some.inj (hattempt.symm.trans hattempt')
  exact Option.some.inj (hnames.symm.trans hnames')

theorem spent_of_funds (state : State) (event : Event) (hfair : Fair bank state event)
    (hstate : FairState bank state) (h : funds transaction ⟨state, event, ()⟩ = true) :
    ¬ Spent bank transaction state ∧ Spent bank transaction (step state event).1 := by
  obtain ⟨i, ids, acknowledged, call, verified, attempt, -, -, -, -, hbefore, hafter⟩ := of_funds h
  obtain ⟨other, payment, amount, hfunds, -, -, hfresh, hspent, -⟩ :=
    funds_of_credited hfair hstate hbefore hafter
  obtain rfl := funds_unique h hfunds
  exact ⟨hfresh, hspent⟩

/-! ## Runs -/

/-- **In a fair run a transaction of the gateway funds at most one credit, and
every credit is funded by a transaction that was paid.  The credit has the amount
of its top-up, which is the amount paid if the gateway reports the amount.** -/
theorem transaction_funds_one_credit (bank : Bank) (events : List Event)
    (hfair : Meets step (Fair bank) .initial events) :
    (∀ transaction, ((trace step .initial events).filter (funds transaction)).length ≤ 1) ∧
    ∀ entry ∈ trace step .initial events, ∀ topUpId, ¬ entry.before.db.Credited topUpId →
      (stepState entry.before entry.event).db.Credited topUpId →
      ∃ transaction payment credit topUp, funds transaction entry = true ∧
        bank transaction = some payment ∧
        (stepState entry.before entry.event).db.ledger.find? (creditKey topUpId) = some credit ∧
        (stepState entry.before entry.event).db.topUps.find? topUpId = some topUp ∧
        credit.amount = topUp.amount ∧
        (payment.reported.isSome = true → credit.amount = payment.amount) := by
  constructor
  · intro transaction
    exact length_filter_le_one fairState_step spent_step spent_of_funds fairState_initial hfair
  · rintro ⟨state, event, ⟨⟩⟩ hentry topUpId hbefore hafter
    obtain ⟨hstate, hevent, -⟩ := of_mem_trace_of_meets fairState_step fairState_initial hfair hentry
    obtain ⟨transaction, payment, amount, hfunds, hbank, hreported, -, -, credit, topUp, hcredit,
      htopUp, hamount, hpaid⟩ := funds_of_credited hevent hstate hbefore hafter
    refine ⟨transaction, payment, credit, topUp, hfunds, hbank, hcredit, htopUp, hamount, ?_⟩
    intro hsome
    obtain ⟨reported, hreport⟩ := Option.isSome_iff_exists.1 hsome
    calc credit.amount = amount := hpaid
      _ = reported := (hreported reported hreport).symm
      _ = payment.amount := payment.honest reported hreport

/-! ## Another spelling of the track number -/

/-- Zibal knows one paid transaction, of ten thousand rials, and reports it if `reports`. -/
def exampleBank (reports : Bool) : Bank := fun transaction =>
  if transaction = .zibal 123 then
    some ⟨10000, if reports then some 10000 else none, if reports then some "R1" else none, by
      cases reports <;> simp⟩
  else none

/-- A top-up through Zibal, with its payment. -/
def exampleZibal (topUpId attemptId key trackId : String) (amount : ℤ) : List Event := [
  .create {
    topUpId, attemptId, userId := "user", amountRial := amount, gateway := .zibal,
    idempotencyKey := key, callbackTokenHash := attemptId, now := 0 },
  .paymentAnswer 0 (.ok ⟨trackId, some trackId, "https://gateway/pay"⟩),
  .commit 0 exampleIds true]

/-- A callback with a track number of the customer's choice, confirmed and settled. -/
def exampleTrack (attemptId trackId : String) (reports : Bool) : List Event := [
  .callback {
    expectedGateway := .zibal, paymentAttemptId := some attemptId, topUpId := none,
    tokenHash := attemptId, authority := some trackId, statusHint := some "1", now := 1000 },
  .verifyAnswer 0 (.payload (.object (("result", .number (some 100) "100") ::
    if reports then
      [("amount", .number (some 10000) "10000"), ("refNumber", .string "R1")]
    else []))),
  .commit 0 exampleIds true, .commit 0 exampleIds true]

/-- A small top-up and a large one; the payment of the small one is presented for
the large one too, in another spelling. -/
def exampleSpellings (reports : Bool) : List Event :=
  .ensureWallet "wallet" "user" :: exampleZibal "small" "first" "create-key-000001" "123" 10000 ++
    exampleZibal "large" "second" "create-key-000002" "124" 1000000 ++
    exampleTrack "first" "123" reports ++ exampleTrack "second" "0123" reports

/-- Where Zibal reports neither amount nor reference, one payment of ten thousand
rials funds two credits, one of them of a million. -/
theorem transaction_funds_two_credits :
    Meets step (AnswersHonestly (exampleBank false)) .initial (exampleSpellings false) ∧
    ((trace step .initial (exampleSpellings false)).filter (funds (.zibal 123))).length = 2 ∧
    ((run step .initial (exampleSpellings false)).db.ledger.find? (creditKey "large")).map
      WalletLedgerEntry.amount = some 1000000 := by
  decide +kernel

/-- Where Zibal reports both, the payment funds one credit. -/
theorem transaction_funds_one_credit_example :
    ((trace step .initial (exampleSpellings true)).filter (funds (.zibal 123))).length ≤ 1 := by
  have hfair : Meets step (Fair (exampleBank true)) .initial (exampleSpellings true) := by
    decide +kernel
  exact (transaction_funds_one_credit (exampleBank true) _ hfair).1 _

end AbrChin.TopUp
