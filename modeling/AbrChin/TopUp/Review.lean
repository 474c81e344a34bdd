import AbrChin.TopUp.Ledger

/-!
# From a confirmation to a review

Once the gateway has confirmed a payment, its call goes on through the update of
the attempt and the settlement, and where that fails through a review.  Unless
the call is lost it ends with a success or with the attempt under review
(`underway_step`): a failure is caught, and the writes of a review are never
refused.
-/

namespace AbrChin.TopUp

open Lib Payments Wallet

/-! ## Reviews -/

/-- The attempt is under review, with an open case. -/
def Db.UnderReview (db : Db) (attemptId : String) : Prop :=
  (∃ row ∈ db.attempts.find? attemptId, row.status = .review) ∧
    ∃ row ∈ db.cases.find? attemptId, row.status = .open

instance (db : Db) (attemptId : String) : Decidable (db.UnderReview attemptId) :=
  inferInstanceAs (Decidable (_ ∧ _))

/-- The attempt whose confirmed payment a task goes on with, to settle or to review it. -/
def Task.goesOn : Task → Option String
  | markVerified call _ | settle call _ | reviewRead call _ _ | reviewWrite call _ _ _ _ =>
      some call.attemptId
  | _ => none

/-- A call goes on with the confirmed payment of an attempt. -/
def Underway (state : State) (attemptId : String) : Prop :=
  ∃ task ∈ state.tasks, task.goesOn = some attemptId

instance (state : State) (attemptId : String) : Decidable (Underway state attemptId) :=
  inferInstanceAs (Decidable (∃ task ∈ state.tasks, task.goesOn = some attemptId))

/-- The step ends such a call early: by a crash, by the failure of a transaction
that nothing catches, or by a settlement that is refused when nothing catches that. -/
def Loses (state : State) (event : Event) (attemptId : String) : Prop :=
  match event with
  | .crash i => ∃ task ∈ state.tasks[i]?, task.goesOn = some attemptId
  | .fault i => ∃ task ∈ state.tasks[i]?, task.goesOn = some attemptId ∧ task.onFault = []
  | .commit i ids acknowledged => ∃ task ∈ state.tasks[i]?, task.goesOn = some attemptId ∧
      task.onFault = [] ∧ (acknowledged = false ∨ ∃ call verified, task = .settle call verified ∧
        (settlePlan ids call verified state.db).bind (fun plan => plan.run state.db) = none)
  | _ => False

variable {id : String} {task : Task}

/-- A task that writes an attempt unseen puts it under review or writes its
top-up unseen too. -/
theorem review_or_blindTopUp {status : PaymentAttemptStatus}
    (h : task.blindAttempt = some (id, status)) :
    status = .review ∨ ∃ topUpId topUpStatus, task.blindTopUp = some (topUpId, topUpStatus) ∧
      task.names = some (id, topUpId) := by
  cases task with
  | persist input payment =>
      obtain ⟨rfl, rfl⟩ := Prod.mk.inj (Option.some.inj h)
      exact .inr ⟨_, _, rfl, rfl⟩
  | persistReview input payment =>
      obtain ⟨rfl, rfl⟩ := Prod.mk.inj (Option.some.inj h)
      exact .inl rfl
  | reviewWrite call review fallback attempt topUpStatus =>
      obtain ⟨rfl, rfl⟩ := Prod.mk.inj (Option.some.inj h)
      exact .inl rfl
  | failureWrite call code topUpId =>
      obtain ⟨rfl, rfl⟩ := Prod.mk.inj (Option.some.inj h)
      exact .inr ⟨_, _, rfl, rfl⟩
  | markFailedWrite attempt hasCase =>
      obtain ⟨rfl, rfl⟩ := Prod.mk.inj (Option.some.inj h)
      exact .inr ⟨_, _, rfl, rfl⟩
  | _ => cases h

/-- A task that fails the case of an attempt writes its top-up unseen. -/
theorem blindTopUp_of_failsCase (h : task.failsCase = some id) :
    ∃ topUpId status, task.blindTopUp = some (topUpId, status) ∧
      task.names = some (id, topUpId) := by
  cases task with
  | failureWrite call code topUpId =>
      obtain rfl := Option.some.inj h
      exact ⟨_, _, rfl, rfl⟩
  | markFailedWrite attempt hasCase =>
      obtain rfl := Option.some.inj h
      exact ⟨_, _, rfl, rfl⟩
  | _ => cases h

/-! ## The writes of a review -/

variable {row : PaymentAttempt}

/-- An update that leaves authority and reference alone is not refused. -/
theorem Statement.run_updateAttempt {db : Db} {data : AttemptData}
    (hrow : db.attempts.find? id = some row) (hauthority : data.authority = none)
    (hreference : data.gatewayReference = none) :
    ∃ db', (updateAttempt id data).run db = some db' := by
  have hindexes : ∀ index ∈ PaymentAttempt.indexes, ∀ row, index (data.apply row) = index row := by
    intro index hindex row
    simp only [PaymentAttempt.indexes, List.mem_cons, List.not_mem_nil, or_false] at hindex
    rcases hindex with rfl | rfl | rfl | rfl
    · simp [AttemptData.apply, hauthority]
    · simp [AttemptData.apply, hreference]
    · rfl
    · rfl
  have hsome : (db.attempts.modify? id data.apply fun _ => rfl).isSome :=
    IndexedTable.modify?_isSome hindexes
  obtain ⟨attempts, hattempts⟩ := Option.isSome_iff_exists.1 hsome
  exact ⟨{ db with attempts }, by simp [run, hrow, Db.writeAttempt, hattempts]⟩

theorem Statement.run_updateTopUp {db : Db} {row : WalletTopUp} {data : TopUpData}
    (hrow : db.topUps.find? id = some row) (hauthority : data.authority = none)
    (hreference : data.gatewayReference = none) :
    ∃ db', (updateTopUp id data).run db = some db' := by
  have hindexes : ∀ index ∈ WalletTopUp.indexes, ∀ row, index (data.apply row) = index row := by
    intro index hindex row
    simp only [WalletTopUp.indexes, List.mem_cons, List.not_mem_nil, or_false] at hindex
    rcases hindex with rfl | rfl | rfl
    · simp [TopUpData.apply, hauthority]
    · simp [TopUpData.apply, hreference]
    · rfl
  have hsome : (db.topUps.modify? id data.apply fun _ => rfl).isSome :=
    IndexedTable.modify?_isSome hindexes
  obtain ⟨topUps, htopUps⟩ := Option.isSome_iff_exists.1 hsome
  exact ⟨{ db with topUps }, by simp [run, hrow, Db.writeTopUp, htopUps]⟩

/-- An upsert of a case is never refused, and leaves the case open. -/
theorem Statement.run_upsertCase {db : Db} {create : PaymentRecoveryCase} {update : CaseData}
    (hopen : create.status = .open) :
    ∃ db', (upsertCase create update).run db = some db' ∧
      ∃ row, db'.cases.find? create.attemptId = some row ∧ row.status = .open := by
  have hrun : ∃ db', (upsertCase create update).run db = some db' := by
    simp only [run]
    cases hcase : db.cases.find? create.attemptId with
    | some row => exact ⟨_, rfl⟩
    | none =>
        obtain ⟨cases, hcases⟩ := Option.isSome_iff_exists.1 (Table.insert?_isSome hcase)
        exact ⟨{ db with cases }, by simp [hcases]⟩
  obtain ⟨db', hrun⟩ := hrun
  refine ⟨db', hrun, ?_⟩
  rw [(effect_of_run hrun).cases]
  simp only [caseAfter, if_true]
  refine ⟨_, rfl, ?_⟩
  cases db.cases.find? create.attemptId with
  | none => exact hopen
  | some row => rfl

/-- The writes of a review are not refused, and put the attempt under review. -/
theorem reviewWrite_execute {ids : LedgerIds} {db : Db} {call : Call} {review : Review}
    {fallback : Option Review} {attempt : PaymentAttempt} {topUpStatus : TopUpStatus}
    {topUp : WalletTopUp} {plan : Plan}
    (hplan : (Task.reviewWrite call review fallback attempt topUpStatus).plan ids db = some plan)
    (hrow : db.attempts.find? call.attemptId = some row)
    (htopUp : db.topUps.find? attempt.walletTopUpId = some topUp) :
    ∃ db', execute plan.statements db = some db' ∧ db'.UnderReview call.attemptId := by
  obtain rfl := (Option.some.inj hplan).symm
  obtain ⟨first, hfirst⟩ : ∃ first, (Statement.updateAttempt call.attemptId {
      status := some .review, failureCode := some (some review.reasonCode) }).run db =
        some first := Statement.run_updateAttempt hrow rfl rfl
  have heffect := Statement.effect_of_run hfirst
  have hrow' := heffect.attempt hrow
  -- the update of the top-up, which is left out when it has succeeded
  have hsecond : ∃ second, execute (if topUpStatus = .succeeded then [] else [
      Statement.updateTopUp attempt.walletTopUpId {
        status := some .pending, failureCode := some (some review.reasonCode) }]) first =
        some second ∧ second.attempts.find? call.attemptId = first.attempts.find? call.attemptId := by
    split
    · exact ⟨first, rfl, rfl⟩
    · obtain ⟨second, hsecond⟩ : ∃ second, (Statement.updateTopUp attempt.walletTopUpId {
          status := some .pending, failureCode := some (some review.reasonCode) }).run first =
            some second := Statement.run_updateTopUp (heffect.topUp htopUp) rfl rfl
      refine ⟨second, execute_cons.2 ⟨second, hsecond, rfl⟩, ?_⟩
      simpa [Statement.attemptData, Statement.newAttempt] using
        (Statement.effect_of_run hsecond).attempts call.attemptId
  obtain ⟨second, hsecond, hsame⟩ := hsecond
  let create : PaymentRecoveryCase := {
    attemptId := call.attemptId
    walletTopUpId := attempt.walletTopUpId
    status := .open
    reasonCode := review.reasonCode
    expectedAmount := attempt.amount
    observedAmount := review.observedAmount
    expectedCurrency := attempt.currency
    observedCurrency := review.observedCurrency }
  let update : CaseData := {
    reasonCode := review.reasonCode
    observed := some (review.observedAmount, review.observedCurrency) }
  obtain ⟨third, hthird, hcase⟩ := @Statement.run_upsertCase second create update rfl
  refine ⟨third, ?_, ⟨_, (Statement.effect_of_run hthird).attempt (hsame.trans hrow'), ?_⟩, hcase⟩
  · refine execute_append.2 ⟨second, ?_, execute_cons.2 ⟨third, hthird, rfl⟩⟩
    exact execute_append.2 ⟨first, execute_cons.2 ⟨first, hfirst, rfl⟩, hsecond⟩
  · simp [Statement.attemptData]

/-- A failure that is caught goes on with the same attempt. -/
theorem goesOn_onFault (h : task.goesOn = some id) (hcaught : task.onFault ≠ []) :
    ∃ next ∈ task.onFault, next.goesOn = some id := by
  obtain ⟨next, hnext⟩ := List.exists_mem_of_ne_nil _ hcaught
  refine ⟨next, hnext, ?_⟩
  cases task with
  | markVerified call verified =>
      rw [List.mem_singleton.1 hnext]
      exact h
  | settle call verified | reviewRead call review fallback
  | reviewWrite call review fallback attempt topUpStatus =>
      obtain ⟨review, -, rfl⟩ := Option.map_eq_some_iff.1 (Option.mem_toList.1 hnext)
      exact h
  | _ => cases h


/-! ## Until the review -/

section Underway

variable {state : State} {attempt : String} (hlinked : state.Holds Db.Linked Linked)
include hlinked

/-- The transaction of such a task ends with a success, ends with a review or
leaves a task that goes on.  Where it is refused its failure is caught, unless it
is a settlement that nothing catches. -/
theorem goesOn_commit {ids : LedgerIds} {task : Task} (hmem : task ∈ state.tasks)
    (h : task.goesOn = some attempt) {row : PaymentAttempt}
    (hrow : state.db.attempts.find? attempt = some row) :
    match (task.plan ids state.db).bind fun plan => plan.run state.db with
    | some (db, next) => db.UnderReview attempt ∨ db.attemptSucceeded attempt = true ∨
        ∃ after ∈ next, after.goesOn = some attempt
    | none => (∃ call verified, task = .settle call verified) ∨
        ∃ after ∈ task.onFault, after.goesOn = some attempt := by
  obtain ⟨topUp, htopUp, -⟩ := hlinked.1 _ row hrow
  cases task with
  | markVerified call verified =>
      split
      · rename_i db next hdone
        obtain ⟨plan, hplan, hrun⟩ := Option.bind_eq_some_iff.1 hdone
        obtain ⟨mid, -, hnext⟩ := Option.map_eq_some_iff.1 hrun
        obtain ⟨-, rfl⟩ := Prod.mk.inj hnext
        obtain rfl := Option.some.inj hplan
        exact .inr (.inr ⟨_, List.mem_singleton_self _, h⟩)
      · exact .inr ⟨_, List.mem_singleton_self _, h⟩
  | settle call verified =>
      obtain rfl : call.attemptId = attempt := Option.some.inj h
      split
      · rename_i db next hdone
        obtain ⟨plan, hplan, hrun⟩ := Option.bind_eq_some_iff.1 hdone
        obtain ⟨mid, hexecute, hnext⟩ := Option.map_eq_some_iff.1 hrun
        obtain ⟨rfl, rfl⟩ := Prod.mk.inj hnext
        obtain ⟨found, topUp', hfound, htopUp', hcases⟩ := settlePlan_cases hplan
        rw [hrow] at hfound
        obtain rfl := Option.some.inj hfound
        rcases hcases with ⟨hstatus, -, rfl⟩ | ⟨-, rfl⟩ | ⟨-, -, rfl⟩
        · obtain rfl := Option.some.inj hexecute
          exact .inr (.inl (Db.attemptSucceeded_iff.2 ⟨row, hrow, hstatus⟩))
        · exact .inr (.inr ⟨_, List.mem_singleton_self _, rfl⟩)
        · obtain ⟨credited, hcredit, hsuccess⟩ := execute_append.1 hexecute
          have hextends := extends_of_execute hcredit
          have hid : row.id = call.attemptId := (IndexedTable.find?_eq_some.1 hrow).2
          obtain ⟨row', hrow', -⟩ := hextends.attempts _ _ hrow
          obtain ⟨topUpRow, htopUpRow, -⟩ := hextends.topUps _ _ htopUp
          obtain ⟨-, last, hlast, -, hstatus⟩ :=
            succeeded_of_execute (hid ▸ hrow') htopUpRow hsuccess
          exact .inr (.inl (Db.attemptSucceeded_iff.2 ⟨last, hid ▸ hlast, hstatus⟩))
      · exact .inl ⟨call, verified, rfl⟩
  | reviewRead call review fallback =>
      obtain rfl : call.attemptId = attempt := Option.some.inj h
      by_cases hstatus : row.status = .succeeded
      · have hplan : (Task.reviewRead call review fallback).plan ids state.db =
            some { next := call.done } := by simp [Task.plan, hrow, htopUp, hstatus]
        simp only [hplan, Option.bind_some, Plan.run, execute_nil, Option.map_some]
        exact .inr (.inl (Db.attemptSucceeded_iff.2 ⟨row, hrow, hstatus⟩))
      · have hplan : (Task.reviewRead call review fallback).plan ids state.db =
            some { next := [.reviewWrite call review fallback row topUp.status] } := by
          simp [Task.plan, hrow, htopUp, hstatus]
        simp only [hplan, Option.bind_some, Plan.run, execute_nil, Option.map_some]
        exact .inr (.inr ⟨_, List.mem_singleton_self _, rfl⟩)
  | reviewWrite call review fallback read topUpStatus =>
      obtain rfl : call.attemptId = attempt := Option.some.inj h
      have hbelongs := (hlinked.2 _ hmem _ rfl).unique ⟨row, hrow, rfl⟩
      rw [← show read.walletTopUpId = row.walletTopUpId from hbelongs] at htopUp
      cases hplan : (Task.reviewWrite call review fallback read topUpStatus).plan ids state.db with
      | none => cases hplan
      | some plan =>
          obtain ⟨db', hexecute, hreview⟩ := reviewWrite_execute hplan hrow htopUp
          simp only [Option.bind_some, Plan.run, hexecute, Option.map_some]
          exact .inl hreview
  | _ => cases h

/-- **A call that goes on with an attempt does so until the attempt has succeeded
or is under review, unless the call is lost.** -/
theorem underway_step {event : Event} (hrow : state.db.attempts.find? attempt = some row)
    (h : Underway state attempt) (hkept : ¬ Loses state event attempt) :
    (stepState state event).db.UnderReview attempt ∨
      (stepState state event).db.attemptSucceeded attempt = true ∨
      Underway (stepState state event) attempt := by
  obtain ⟨task, hmem, hgoesOn⟩ := h
  have hsame : Underway state attempt := ⟨task, hmem, hgoesOn⟩
  have hstart : ∀ tasks, Underway (state.start tasks) attempt := fun tasks =>
    ⟨task, List.mem_append_left _ hmem, hgoesOn⟩
  have hcall : ∀ plan, Underway (startCall state plan) attempt := by
    intro plan
    unfold startCall
    split
    · exact ⟨task, List.mem_append_left _ hmem, hgoesOn⟩
    · exact hsame
  have hfinish : ∀ i db next, (state.tasks[i]? = some task → db.UnderReview attempt ∨
      db.attemptSucceeded attempt = true ∨ ∃ after ∈ next, after.goesOn = some attempt) →
      (state.finish i db next).db.UnderReview attempt ∨
        (state.finish i db next).db.attemptSucceeded attempt = true ∨
        Underway (state.finish i db next) attempt := by
    intro i db next hnext
    rcases @Pool.mem_finish _ _ state i db next task hmem with hstays | hdone
    · exact .inr (.inr ⟨task, hstays, hgoesOn⟩)
    · rcases hnext hdone with hreviewed | hsucceeded | ⟨after, hafter, hgoes⟩
      · exact .inl hreviewed
      · exact .inr (.inl hsucceeded)
      · exact .inr (.inr ⟨after, List.mem_append_right _ hafter, hgoes⟩)
  -- a gateway call is not one of these tasks
  have hother : ∀ i other db next, state.tasks[i]? = some other → other.goesOn = none →
      (state.finish i db next).db.UnderReview attempt ∨
        (state.finish i db next).db.attemptSucceeded attempt = true ∨
        Underway (state.finish i db next) attempt := by
    intro i other db next hother hnone
    refine hfinish i db next fun hdone => ?_
    obtain rfl := Option.some.inj (hother.symm.trans hdone)
    cases hnone.symm.trans hgoesOn
  cases event with
  | ensureWallet walletId userId => exact .inr (.inr (hcall _))
  | create input => exact .inr (.inr (hcall _))
  | retry input => exact .inr (.inr (hcall _))
  | callback input => exact .inr (.inr (hstart _))
  | adminReverify attemptId now => exact .inr (.inr (hstart _))
  | adminReconcile attemptId now => exact .inr (.inr (hstart _))
  | adminMarkFailed attemptId =>
      simp only [stepState]
      split
      · exact .inr (.inr hsame)
      · exact .inr (.inr (hstart _))
  | paymentAnswer i answer =>
      simp only [stepState]
      split
      · rename_i hcreate
        exact hother i _ _ _ hcreate rfl
      · rename_i hcreate
        exact hother i _ _ _ hcreate rfl
      · exact .inr (.inr hsame)
  | verifyAnswer i answer =>
      simp only [stepState]
      split
      · rename_i hverify
        exact hother i _ _ _ hverify rfl
      · exact .inr (.inr hsame)
  | commit i ids acknowledged =>
      simp only [stepState]
      split
      · exact .inr (.inr hsame)
      · exact .inr (.inr hsame)
      · exact .inr (.inr hsame)
      · rename_i committed _ _ hcommitted
        unfold commitTask
        split
        · exact .inr (.inr hsame)
        by_cases hdone : state.tasks[i]? = some task
        · obtain rfl := Option.some.inj (hcommitted.symm.trans hdone)
          have hnext := @goesOn_commit _ _ hlinked ids _ hmem hgoesOn _ hrow
          split
          · rename_i db next houtcome
            rw [houtcome] at hnext
            refine hfinish _ _ _ fun _ => hnext.imp_right (Or.imp_right fun hgoes => ?_)
            cases acknowledged with
            | true => exact hgoes
            | false =>
                -- the acknowledgement is lost, and the call sees a failure
                refine goesOn_onFault hgoesOn fun hnil => hkept ?_
                exact ⟨committed, hcommitted, hgoesOn, hnil, .inl rfl⟩
          · rename_i houtcome
            rw [houtcome] at hnext
            refine hfinish _ _ _ fun _ => .inr (.inr ?_)
            rcases hnext with ⟨call, verified, rfl⟩ | hgoes
            · refine goesOn_onFault hgoesOn fun hnil => hkept ?_
              exact ⟨_, hcommitted, hgoesOn, hnil, .inr ⟨call, verified, rfl, houtcome⟩⟩
            · exact hgoes
        · split <;> exact hfinish _ _ _ fun h => absurd h hdone
  | fault i =>
      simp only [stepState]
      split
      · exact .inr (.inr hsame)
      · exact .inr (.inr hsame)
      · exact .inr (.inr hsame)
      · rename_i failed _ _ hfailed
        refine hfinish _ _ _ fun hdone => .inr (.inr ?_)
        obtain rfl := Option.some.inj (hfailed.symm.trans hdone)
        exact goesOn_onFault hgoesOn fun hnil => hkept ⟨failed, hfailed, hgoesOn, hnil⟩
  | crash i =>
      refine hfinish _ _ _ fun hdone => ?_
      exact absurd ⟨task, hdone, hgoesOn⟩ hkept

end Underway

end AbrChin.TopUp
