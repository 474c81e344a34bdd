import AbrChin.Billing.Activation
import AbrChin.Upgrade.Effects

/-!
# Refusals for want of credit are not recorded

Both approvals mark a request that lacks credit as `CREDIT_REQUIRED` and then throw, to refuse the
call.  The mark is a part of the transaction that the error rolls back: after the refusal the
request is in the queue as before (`refusals_not_recorded`).

A request is therefore marked only when it is created, and it loses the mark only when it is
repeated with enough credit (`leaves_creditRequired`): the other writers reach an activation through
its infrastructure order, which a request that was never approved does not have.
-/

namespace AbrChin.Billing

open Lib Orders Wallet Upgrade ActivationDb

variable {db db' : ActivationDb} {u : Unit}

/-! ## The mark -/

/-- The activation is marked, and nothing else has changed. -/
def ActivationMarked (id : String) (db db' : ActivationDb) : Prop :=
  ∃ activations, db.activations.modify? id (ActivationRow.withStatus .creditRequired)
    (ActivationRow.id_withStatus .creditRequired) = some activations ∧
      db' = { db with activations }

/-- The request for other resources is marked, and nothing else has changed. -/
def ChangeMarked (id : String) (db db' : ActivationDb) : Prop :=
  ∃ requests, db.upgrades.requests.modify? id (Upgrade.ResourceChangeRequest.withStatus .creditRequired)
    (Upgrade.ResourceChangeRequest.id_withStatus .creditRequired) = some requests ∧
      db' = { db with upgrades := { db.upgrades with requests } }

theorem status_of_activationMarked {id : String} {row : ActivationRow}
    (h : ActivationMarked id db db') (hrow : db'.activations.find? id = some row) :
    row.status = .creditRequired := by
  obtain ⟨activations, hmodify, rfl⟩ := h
  rw [IndexedTable.find?_modify? hmodify, if_pos rfl] at hrow
  obtain ⟨before, -, rfl⟩ := Option.map_eq_some_iff.1 hrow
  rfl

theorem status_of_changeMarked {id : String} {row : Upgrade.ResourceChangeRequest}
    (h : ChangeMarked id db db') (hrow : db'.upgrades.requests.find? id = some row) :
    row.status = .creditRequired := by
  obtain ⟨requests, hmodify, rfl⟩ := h
  rw [IndexedTable.find?_modify? hmodify, if_pos rfl] at hrow
  obtain ⟨before, -, rfl⟩ := Option.map_eq_some_iff.1 hrow
  rfl

/-- An update of a row that is there. -/
theorem commits_update {id : String} {f : ActivationRow → ActivationRow}
    {hf : ∀ row, (f row).id = row.id} : Tx.Commits (ActivationDb.update id f hf) db u db' ↔
      ∃ row activations, db.activations.find? id = some row ∧
        db.activations.modify? id f hf = some activations ∧ db' = { db with activations } := by
  simp only [ActivationDb.update, Tx.commits_attempt, Option.map_eq_some_iff,
    IndexedTable.updateIf?_eq_some]
  constructor
  · rintro ⟨activations, ⟨row, hrow, -, hmodify⟩, rfl⟩
    exact ⟨row, activations, hrow, hmodify, rfl⟩
  · rintro ⟨row, activations, hrow, hmodify, rfl⟩
    exact ⟨activations, ⟨row, hrow, trivial, hmodify⟩, rfl⟩

/-- **The refusal marks the activation** before it throws. -/
theorem refuseWithoutCredit_marks {activation : ActivationRow}
    (hrow : db.activations.find? activation.id = some activation) :
    ∃ mid, ActivationMarked activation.id db mid ∧
      Tx.Throws (refuseWithoutCredit activation) db "insufficient_credit" mid := by
  have hindexes : ∀ index ∈ [fun row : ActivationRow => some row.serviceOrderId,
      (·.infrastructureOrderId), fun row => some row.idempotencyKey], ∀ row,
      index (ActivationRow.withStatus .creditRequired row) = index row := by
    intro index hindex row
    simp only [List.mem_cons, List.not_mem_nil, or_false] at hindex
    rcases hindex with rfl | rfl | rfl
    · rfl
    · rfl
    · rfl
  obtain ⟨activations, hmodify⟩ := Option.isSome_iff_exists.1
    (@IndexedTable.modify?_isSome _ _ _ _ _ _ _ db.activations activation.id
      (ActivationRow.withStatus .creditRequired) (ActivationRow.id_withStatus .creditRequired)
      hindexes)
  refine ⟨{ db with activations }, ⟨activations, hmodify, rfl⟩, ?_⟩
  rw [refuseWithoutCredit, Tx.throws_bind]
  exact .inr ⟨(), _, commits_update.2 ⟨activation, activations, hrow, hmodify, rfl⟩,
    Tx.throws_throw.2 ⟨rfl, rfl⟩⟩

/-- A call that is refused leaves the tables as they were. -/
theorem eq_of_refused {call : ActivationCall} {error : String}
    (h : stepActivation db call = (db', .error error)) : db' = db := by
  have hswap : call.tx.transaction db = (.error error, db') := by
    have hfirst := congrArg Prod.swap h
    rwa [stepActivation, Prod.swap_swap] at hfirst
  exact (Tx.transaction_error hswap).1

/-- **No refusal for want of credit is recorded.**

A request of the queue of which the approval is refused with `insufficient_credit` is not marked,
and stays in the queue. -/
theorem refusals_not_recorded (db db' : ActivationDb) :
    (∀ input activation,
      db.activations.find? input.activationRequestId = some activation →
      activation.status = .waitingAdminApproval →
      stepActivation db (.approve input) = (db', .error "insufficient_credit") →
      ¬ ActivationMarked input.activationRequestId db db' ∧ db' = db) ∧
    (∀ input request,
      db.upgrades.requests.find? input.resourceChangeRequestId = some request →
      inApprovalQueue request.status = true →
      stepActivation db (.approveChange input) = (db', .error "insufficient_credit") →
      ¬ ChangeMarked input.resourceChangeRequestId db db' ∧ db' = db) := by
  constructor
  · intro input activation hrow hstatus hstep
    obtain rfl := eq_of_refused hstep
    refine ⟨fun hmarked => ?_, rfl⟩
    rw [status_of_activationMarked hmarked hrow] at hstatus
    cases hstatus
  · intro input request hrow hqueued hstep
    obtain rfl := eq_of_refused hstep
    refine ⟨fun hmarked => ?_, rfl⟩
    rw [status_of_changeMarked hmarked hrow] at hqueued
    cases hqueued

/-- A request of a user who has half of the credit that it needs. -/
def sampleActivationRow : ActivationRow where
  id := "activation"
  userId := "user"
  serviceOrderId := "order"
  planId := "a"
  infrastructureOrderId := none
  selectedCadence := .hourly
  status := .waitingAdminApproval
  minimumCreditRequiredRial := 200000000
  requestFingerprint := ⟨"quote", "user", .hourly⟩
  idempotencyKey := "activation-request-1"

/-- A request of the same user for a larger server. -/
def sampleChangeRow : Upgrade.ResourceChangeRequest where
  id := "change"
  cloudInstanceId := "vm"
  planId := "b"
  requestedById := "user"
  upgrade := true
  status := .requested
  idempotencyKey := "change-request-one"
  estimateSnapshot := none
  incrementalBufferRial := 200000000

def sampleActivationDb : ActivationDb where
  upgrades := { sampleUpgradeDb with requests := ⟨⟨[sampleChangeRow], by decide⟩, by decide⟩ }
  activations := ⟨⟨[sampleActivationRow], by decide⟩, by decide⟩

def sampleApproval : ApproveActivation where
  activationRequestId := "activation"
  adminUserId := "admin"
  reason := "approved"
  idempotencyKey := "approve-activation-1"
  revalidation := .ok ()
  infrastructureOrderId := "infra-new"

def sampleChangeApproval : ApproveResourceChange where
  resourceChangeRequestId := "change"
  actorUserId := "admin"
  reason := "approved"
  idempotencyKey := "approve-change-request"

theorem sampleApproval_refused :
    stepActivation sampleActivationDb (.approve sampleApproval) =
      ((stepActivation sampleActivationDb (.approve sampleApproval)).1,
        .error "insufficient_credit") :=
  Prod.ext rfl (by decide +kernel)

theorem sampleChangeApproval_refused :
    stepActivation sampleActivationDb (.approveChange sampleChangeApproval) =
      ((stepActivation sampleActivationDb (.approveChange sampleChangeApproval)).1,
        .error "insufficient_credit") :=
  Prod.ext rfl (by decide +kernel)

theorem refusals_not_recorded_sample :
    (¬ ActivationMarked "activation" sampleActivationDb
        (stepActivation sampleActivationDb (.approve sampleApproval)).1 ∧
      (stepActivation sampleActivationDb (.approve sampleApproval)).1 = sampleActivationDb) ∧
    ¬ ChangeMarked "change" sampleActivationDb
        (stepActivation sampleActivationDb (.approveChange sampleChangeApproval)).1 ∧
      (stepActivation sampleActivationDb (.approveChange sampleChangeApproval)).1 =
        sampleActivationDb :=
  ⟨(refusals_not_recorded _ _).1 sampleApproval sampleActivationRow rfl rfl sampleApproval_refused,
    (refusals_not_recorded _ _).2 sampleChangeApproval sampleChangeRow rfl rfl
      sampleChangeApproval_refused⟩

/-- A user with half of the credit: the approval is refused, and the request is not marked. -/
theorem refusal_lost : ¬ ∀ db db' input activation,
    db.activations.find? input.activationRequestId = some activation →
    activation.status = .waitingAdminApproval →
    stepActivation db (.approve input) = (db', .error "insufficient_credit") →
    ActivationMarked input.activationRequestId db db' := by
  intro h
  have hmarked := h _ _ sampleApproval sampleActivationRow rfl rfl sampleApproval_refused
  rw [eq_of_refused sampleApproval_refused] at hmarked
  have hstatus := status_of_activationMarked hmarked
    (show sampleActivationDb.activations.find? "activation" = some sampleActivationRow from rfl)
  cases hstatus

/-! ## What a call does to the activations -/

theorem keeps_onUpgrades {α : Type} {body : Tx UpgradeDb String α} :
    Tx.Keeps ActivationDb.activations (onUpgrades body) := by
  intro db a db' h
  obtain ⟨upgrades, -, rfl⟩ := Tx.commits_zoom.1 h
  rfl

/-- A request is repeated with enough credit. -/
structure Credited (db : ActivationDb) (call : ActivationCall) (row : ActivationRow) : Prop where
  repeated : ∃ input, call = .request input ∧ input.idempotencyKey = row.idempotencyKey ∧
    hasCredit (db.service.books.walletOf input.userId) row = true

/-- What a call does to the activations: it leaves them, creates one, or takes one out of the
requests without credit when it is repeated with enough of it or has an infrastructure order. -/
inductive Touches (db : ActivationDb) (call : ActivationCall) (db' : ActivationDb) : Prop where
  | kept (h : db'.activations = db.activations)
  | created (row : ActivationRow) (hrow : row.infrastructureOrderId = none)
      (h : db.activations.insert? row = some db'.activations)
  | changed (row : ActivationRow) (f : ActivationRow → ActivationRow)
      (hf : ∀ row, (f row).id = row.id) (hrow : db.activations.find? row.id = some row)
      (h : db.activations.modify? row.id f hf = some db'.activations)
      (hstatus : (f row).status ≠ .creditRequired)
      (hleft : row.status = .creditRequired →
        row.infrastructureOrderId ≠ none ∨ Credited db call row)

theorem requestActivation_touches {input : RequestActivation} {result : ActivationRow}
    (h : Tx.Commits (requestActivation input) db result db') :
    Touches db (.request input) db' := by
  unfold requestActivation at h
  have h := Tx.commits_get_bind.1 (Tx.commits_throwIf_bind.1 h).2
  cases hfind : db.activations.rows.find? (·.idempotencyKey = input.idempotencyKey) with
  | some existing =>
      simp only [hfind, replayActivation] at h
      obtain ⟨-, h⟩ := Tx.commits_throwIf_bind.1 h
      rcases Tx.commits_ite.1 h with ⟨hrequired, h⟩ | ⟨-, h⟩
      · obtain ⟨wallet, hwallet, h⟩ := Tx.commits_orThrow_bind.1 (Tx.commits_get_bind.1 h)
        rcases Tx.commits_ite.1 h with ⟨hcredit, h⟩ | ⟨-, h⟩
        · simp only [Tx.commits_bind, setActivationStatus, commits_update, Tx.commits_pure] at h
          obtain ⟨_, _, ⟨row, activations, hrow, hmodify, rfl⟩, -, rfl⟩ := h
          have hexisting : db.activations.find? existing.id = some existing :=
            IndexedTable.find?_eq_some.2 ⟨List.mem_of_find?_eq_some hfind, rfl⟩
          have hkey : existing.idempotencyKey = input.idempotencyKey := by
            simpa using List.find?_some hfind
          refine .changed existing _ _ hexisting hmodify (fun h => nomatch h) fun _ => .inr
            ⟨input, rfl, hkey.symm, ?_⟩
          rw [hasCredit, hwallet]
          simpa using hcredit
        · obtain ⟨-, rfl⟩ := Tx.commits_pure.1 h
          exact .kept rfl
      · obtain ⟨-, rfl⟩ := Tx.commits_pure.1 h
        exact .kept rfl
  | none =>
      simp only [hfind, createActivation] at h
      obtain ⟨quote, -, h⟩ := Tx.commits_orThrow_bind.1 h
      obtain ⟨session, -, h⟩ := Tx.commits_orThrow_bind.1 h
      obtain ⟨-, h⟩ := Tx.commits_throwIf_bind.1 h
      cases horder : db.service.orders.rows.find? (·.recommendationQuoteId = some quote.id) with
      | some order =>
          simp only [horder, Tx.commits_ofExcept] at h
          obtain ⟨-, rfl⟩ := h
          exact .kept rfl
      | none =>
          simp only [horder, Tx.commits_bind, Tx.commits_ofExcept, Tx.commits_orThrow,
            Tx.commits_attempt, Option.map_eq_some_iff, Tx.commits_pure] at h
          obtain ⟨estimate, _, ⟨-, rfl⟩, wallet, _, ⟨-, rfl⟩, _, first, hfirst, _, second,
            ⟨activations, hinsert, rfl⟩, _, third, hthird, -, rfl⟩ := h
          have hsecond : _ = activations := keeps_onUpgrades _ _ _ hthird
          have hbefore : first.activations = _ := keeps_onUpgrades _ _ _ hfirst
          refine .created (newActivation input quote estimate wallet) rfl ?_
          rw [hsecond, ← hbefore]
          exact hinsert

theorem approveActivation_touches {input : ApproveActivation}
    (h : Tx.Commits (approveActivation input) db u db') : Touches db (.approve input) db' := by
  unfold approveActivation at h
  obtain ⟨-, h⟩ := Tx.commits_throwIf_bind.1 (Tx.commits_get_bind.1 h)
  obtain ⟨activation, hfound, h⟩ := Tx.commits_orThrow_bind.1 h
  obtain ⟨command, first, hfirst, h⟩ := Tx.commits_bind.1 h
  obtain ⟨-, rfl⟩ := Tx.commits_ofExcept.1 hfirst
  obtain ⟨replay, second, hreplay, h⟩ := Tx.commits_bind.1 h
  have hsecond : second.activations = _ := keeps_onUpgrades _ _ _ hreplay
  rcases Tx.commits_ite.1 h with ⟨-, h⟩ | ⟨-, h⟩
  · obtain ⟨-, rfl⟩ := Tx.commits_pure.1 h
    exact .kept hsecond
  · obtain ⟨hstatus, h⟩ := Tx.commits_throwIf_bind.1 h
    rcases Tx.commits_ite.1 h with ⟨-, h⟩ | ⟨-, h⟩
    · simp only [refuseWithoutCredit, Tx.commits_bind, Tx.commits_throw] at h
      obtain ⟨_, _, -, hthrow⟩ := h
      exact hthrow.elim
    · obtain ⟨_, last, happrove, hlast⟩ := Tx.commits_bind.1 h
      unfold approveWithCredit at happrove
      obtain ⟨quote, -, happrove⟩ := Tx.commits_orThrow_bind.1 happrove
      simp only [Tx.commits_bind, Tx.commits_ofExcept] at happrove
      obtain ⟨_, _, ⟨-, rfl⟩, _, third, hthird, hupdate⟩ := happrove
      obtain ⟨row, activations, hrow, hmodify, rfl⟩ := commits_update.1 hupdate
      have hcreated : third.activations = _ := keeps_onUpgrades _ _ _ hthird
      have hdone : db'.activations = activations := keeps_onUpgrades _ _ _ hlast
      rw [hcreated, hsecond] at hrow hmodify
      obtain ⟨hmem, hid⟩ := IndexedTable.find?_eq_some.1 hfound
      refine .changed activation _ _ (IndexedTable.find?_eq_some.2 ⟨hmem, rfl⟩)
        (by rw [hdone]; exact hmodify) (by simp [ActivationRow.approve]) fun hrequired => ?_
      exact absurd (.inl (by rw [hrequired]; rintro ⟨⟩)) hstatus

theorem recordProgress_touches {infrastructureOrderId : String} {kind : ActivationProgress}
    (h : Tx.Commits (recordProgress infrastructureOrderId kind) db u db') :
    Touches db (.progress infrastructureOrderId kind) db' := by
  unfold recordProgress at h
  have h := Tx.commits_get_bind.1 h
  cases hfind : db.activations.rows.find?
      (·.infrastructureOrderId = some infrastructureOrderId) with
  | none =>
      simp only [hfind, Tx.commits_pure] at h
      obtain ⟨-, rfl⟩ := h
      exact .kept rfl
  | some activation =>
      simp only [hfind] at h
      obtain ⟨row, activations, -, hmodify, rfl⟩ :=
        commits_update.1 (Tx.commits_throwIf_bind.1 h).2
      have hlinked : activation.infrastructureOrderId = some infrastructureOrderId := by
        simpa using List.find?_some hfind
      refine .changed activation _ _
        (IndexedTable.find?_eq_some.2 ⟨List.mem_of_find?_eq_some hfind, rfl⟩) hmodify ?_
        fun _ => .inl (by rw [hlinked]; exact Option.some_ne_none _)
      cases kind with
      | billingStarted => exact fun h => nomatch h
      | manuallyProvisioned => exact fun h => nomatch h
      | delivered => exact fun h => nomatch h

/-- **What a call does to the activations.** -/
theorem touches_of_commits {call : ActivationCall} (h : Tx.Commits call.tx db u db') :
    Touches db call db' := by
  cases call with
  | request input =>
      obtain ⟨result, mid, hrequest, h⟩ := Tx.commits_bind.1 h
      obtain ⟨-, rfl⟩ := Tx.commits_pure.1 h
      exact requestActivation_touches hrequest
  | approve input => exact approveActivation_touches h
  | approveChange input =>
      exact .kept (keeps_onUpgrades _ _ _ (Tx.commits_get_bind.1 h))
  | progress infrastructureOrderId kind => exact recordProgress_touches h
  | other upgrades =>
      obtain rfl := Tx.commits_modify.1 h
      exact .kept rfl

/-- What a call leaves has come from its transaction, or is what was there. -/
theorem stepActivation_cases (db : ActivationDb) (call : ActivationCall) :
    (stepActivation db call).1 = db ∨ Touches db call (stepActivation db call).1 := by
  cases hrun : call.tx.transaction db with
  | mk result after =>
      have hafter : (stepActivation db call).1 = after := by rw [stepActivation, hrun]; rfl
      rw [hafter]
      cases result with
      | ok u => exact .inr (touches_of_commits (Tx.transaction_ok.1 hrun))
      | error error => exact .inl (Tx.transaction_error hrun).1

/-! ## Runs -/

/-- A request without credit has no infrastructure order. -/
def Unlinked (db : ActivationDb) : Prop := ∀ id row, db.activations.find? id = some row →
  row.status = .creditRequired → row.infrastructureOrderId = none

theorem Unlinked.touches {call : ActivationCall} (hdb : Unlinked db) (h : Touches db call db') :
    Unlinked db' := by
  intro id row hrow hrequired
  cases h with
  | kept h =>
      rw [h] at hrow
      exact hdb id row hrow hrequired
  | created new hnew h =>
      rw [IndexedTable.find?_insert? h] at hrow
      split_ifs at hrow with hid
      · cases hrow
        exact hnew
      · exact hdb id row hrow hrequired
  | changed old f hf hold h hstatus hleft =>
      rw [IndexedTable.find?_modify? h] at hrow
      split_ifs at hrow with hid
      · rw [hold] at hrow
        cases hrow
        exact absurd hrequired hstatus
      · exact hdb id row hrow hrequired

theorem Unlinked.step (hdb : Unlinked db) (call : ActivationCall) :
    Unlinked (stepActivation db call).1 := by
  rcases stepActivation_cases db call with heq | htouches
  · rw [heq]
    exact hdb
  · exact hdb.touches htouches

/-- **An activation leaves `CREDIT_REQUIRED` only when it is repeated with enough credit**, in every
run from tables in which no request without credit has an infrastructure order. -/
theorem leaves_creditRequired {start : ActivationDb} (hstart : Unlinked start)
    (calls : List ActivationCall) (call : ActivationCall) {row after : ActivationRow}
    (hrow : (run stepActivation start calls).activations.find? row.id = some row)
    (hrequired : row.status = .creditRequired)
    (hafter : (run stepActivation start (calls ++ [call])).activations.find? row.id = some after)
    (hleft : after.status ≠ .creditRequired) :
    Credited (run stepActivation start calls) call row := by
  have hunlinked : Unlinked (run stepActivation start calls) :=
    run_induction (fun db call hdb => hdb.step call) hstart calls
  rw [run_append, run_cons, run_nil] at hafter
  generalize run stepActivation start calls = db at hrow hafter hunlinked ⊢
  rcases stepActivation_cases db call with heq | htouches
  · rw [heq, hrow] at hafter
    cases hafter
    exact absurd hrequired hleft
  · generalize (stepActivation db call).1 = db' at hafter htouches
    cases htouches with
    | kept h =>
        rw [h, hrow] at hafter
        cases hafter
        exact absurd hrequired hleft
    | created new hnew h =>
        have hfresh := IndexedTable.fresh_of_insert? h
        rw [IndexedTable.find?_insert? h] at hafter
        split_ifs at hafter with hid
        · rw [hid, hrow] at hfresh
          cases hfresh
        · rw [hrow] at hafter
          cases hafter
          exact absurd hrequired hleft
    | changed old f hf hold h hstatus hreason =>
        rw [IndexedTable.find?_modify? h] at hafter
        split_ifs at hafter with hid
        · rw [← hid, hrow] at hold
          cases hold
          rcases hreason hrequired with hlinked | hcredited
          · exact absurd (hunlinked _ _ hrow hrequired) hlinked
          · exact hcredited
        · rw [hrow] at hafter
          cases hafter
          exact absurd hrequired hleft

def sampleMarked : ActivationRow := sampleActivationRow.withStatus .creditRequired

/-- The user pays in what is missing. -/
def samplePaidIn : UpgradeDb :=
  { sampleUpgradeDb with service := { sampleUpgradeDb.service with
    books := ⟨⟨⟨[⟨"wallet", "user", 200000000, .active, "IRR"⟩], by decide⟩, by decide⟩, .empty⟩ } }

theorem leaves_creditRequired_sample :
    Credited (run stepActivation
        { sampleActivationDb with activations := ⟨⟨[sampleMarked], by decide⟩, by decide⟩ }
        [.other samplePaidIn])
      (.request ⟨"quote", "user", .hourly, "activation-request-1", 0, true, .error "", "", ""⟩)
      sampleMarked := by
  refine @leaves_creditRequired _ (fun id row hrow _ => ?_) _ _ _
    (sampleMarked.withStatus .waitingAdminApproval) ?_ rfl ?_ (by decide)
  · rw [List.mem_singleton.1 (IndexedTable.find?_eq_some.1 hrow).1]
    rfl
  · rfl
  · decide +kernel

end AbrChin.Billing
