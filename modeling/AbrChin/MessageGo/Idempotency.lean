import AbrChin.MessageGo.System

/-!
# Repeated calls

A settlement operation, once recorded, is final.  The table of operations only
grows, since every effect of a call adds at most one row and nothing else writes
it; and a call whose operation id is in the table has only one effect left,
`Effect.replayed`.  So a repeated call changes nothing, whatever has happened to
its account, wallet, prices and reservation in the meantime, and a run keeps its
meaning when the repeated calls are deleted from it.

Input validation comes before the replay: a repeated call with a malformed
amount is answered with its validation error, also when its semantic body is the
recorded one.
-/

namespace AbrChin.MessageGo

open Lib Wallet

variable {sha256Hex : String → String} {db db' : Db} {event : Event}

/-! ## The table of operations grows -/

variable {operation recorded : Operation}

theorem Records.persist {o : String} (h : Records db operation db')
    (hrecorded : db.operations.find? o = some recorded) :
    db'.operations.find? o = some recorded := by
  rw [h.find? o]
  split
  · rename_i hkey
    obtain ⟨-, operations, hinsert, -⟩ := h
    have hfresh := Table.fresh_of_insert? hinsert
    rw [hkey, hrecorded] at hfresh
    cases hfresh
  · exact hrecorded

/-- A recorded operation stays recorded, and as it is. -/
theorem step_operations {o : String} (event : Event) (h : db.operations.find? o = some recorded) :
    (step sha256Hex db event).1.operations.find? o = some recorded := by
  have hcases := step_cases sha256Hex db event
  revert hcases
  generalize step sha256Hex db event = next
  intro hcases
  cases hcases with
  | invalid hrequest => exact h
  | elsewhere change => rwa [operations_apply]
  | call hrequest heffect =>
      cases heffect with
      | replayed hexisting => exact h
      | failed hfresh hfailure => exact h
      | denied hfresh hcode hopens hrecords => exact hrecords.persist h
      | accepted hfresh hmove houtcome hrecords => exact hrecords.persist h

theorem run_operations {o : String} (events : List Event)
    (h : db.operations.find? o = some recorded) :
    (run (step sha256Hex) db events).operations.find? o = some recorded :=
  run_induction (p := fun state : Db => state.operations.find? o = some recorded)
    (fun _ event hstate => step_operations event hstate) h events

/-! ## A repeated call -/

/-- The event is a call whose operation id is recorded. -/
def Repeats (db : Db) : Event → Bool
  | .call _ call =>
      match call.operationId with
      | .ok operationId => (db.operations.find? operationId).isSome
      | .error _ => false
  | .elsewhere _ => false

/-- A result that gives back what is recorded: the outcome, or the code of the denial. -/
def Agrees (recorded : Except SettlementErrorCode AuthorityOutcome)
    (result : Except Failure AuthorityOutcome) : Prop :=
  match recorded with
  | .ok outcome => result = .ok outcome
  | .error code => ∃ message, result = .error (.settlement ⟨code, message⟩)

/-- A repeated call leaves the database as it is, and its result is its
validation error or comes from the record. -/
theorem step_of_recorded (ids : Ids) {call : Call} {o : String} (hid : call.operationId = .ok o)
    (hrecorded : db.operations.find? o = some operation) :
    (step sha256Hex db (.call ids call)).1 = db ∧
      match call.request sha256Hex with
      | .error failure => (step sha256Hex db (.call ids call)).2 = some (.error failure)
      | .ok (key, _) => (step sha256Hex db (.call ids call)).2 =
          some (replay operation key.kind key.fingerprint) := by
  have hcases := step_cases sha256Hex db (.call ids call)
  revert hcases
  generalize step sha256Hex db (.call ids call) = next
  intro hcases
  cases hcases with
  | invalid hrequest =>
      rw [hrequest]
      exact ⟨rfl, rfl⟩
  | call hrequest heffect =>
      rw [hrequest]
      have hkey : o = _ := Except.ok.inj (hid.symm.trans (request_spec hrequest).1)
      subst hkey
      cases heffect with
      | replayed hexisting =>
          cases Option.some.inj (hrecorded.symm.trans hexisting)
          exact ⟨rfl, rfl⟩
      | failed hfresh hfailure => exact absurd (hrecorded.symm.trans hfresh) (by simp)
      | denied hfresh hcode hopens hrecords => exact absurd (hrecorded.symm.trans hfresh) (by simp)
      | accepted hfresh hmove houtcome hrecords => exact absurd (hrecorded.symm.trans hfresh) (by simp)

theorem step_of_repeats (hrepeats : Repeats db event = true) :
    (step sha256Hex db event).1 = db := by
  cases event with
  | elsewhere change => cases hrepeats
  | call ids call =>
      simp only [Repeats] at hrepeats
      split at hrepeats
      · rename_i operationId hid
        obtain ⟨operation, hrecorded⟩ := Option.isSome_iff_exists.1 hrepeats
        exact (step_of_recorded ids hid hrecorded).1
      · cases hrepeats

/-- The call that records an operation is the one whose result it records. -/
theorem agrees_of_recorded {ids : Ids} {call : Call} {key : OperationKey} {label : Label}
    (hrequest : call.request sha256Hex = .ok (key, label))
    (hfresh : db.operations.find? key.operationId = none)
    (hrecorded : (step sha256Hex db (.call ids call)).1.operations.find? key.operationId =
      some operation) :
    operation.kind = key.kind ∧ operation.bodyFingerprint = key.fingerprint ∧
      ∃ result, (step sha256Hex db (.call ids call)).2 = some result ∧
        Agrees operation.recorded result := by
  have hcases := step_cases sha256Hex db (.call ids call)
  revert hcases hrecorded
  generalize step sha256Hex db (.call ids call) = next
  intro hrecorded hcases
  cases hcases with
  | invalid hinvalid => cases hinvalid.symm.trans hrequest
  | call hrequest' heffect =>
      cases hrequest.symm.trans hrequest'
      cases heffect with
      | replayed hexisting => exact absurd (hfresh.symm.trans hexisting) (by simp)
      | failed hfresh hfailure => exact absurd (hfresh.symm.trans hrecorded) (by simp)
      | denied hfresh hcode hopens hrecords =>
          cases hrecords.find?_self.symm.trans hrecorded
          exact ⟨rfl, rfl, _, rfl, _, rfl⟩
      | accepted hfresh hmove houtcome hrecords =>
          cases hrecords.find?_self.symm.trans hrecorded
          exact ⟨rfl, rfl, _, rfl, rfl⟩

theorem replay_eq (operation : Operation) (kind : OpKind) (fingerprint : String) :
    if operation.kind = kind ∧ operation.bodyFingerprint = fingerprint then
      Agrees operation.recorded (replay operation kind fingerprint)
    else ∃ message, replay operation kind fingerprint =
      .error (.settlement ⟨.idempotencyConflict, message⟩) := by
  split
  · rename_i hsame
    unfold Agrees replay
    cases operation.recorded with
    | ok outcome => simp [hsame]
    | error code => simp [hsame, reject]
  · rename_i hdiffers
    exact ⟨_, if_pos (by tauto)⟩

/-! ## The result -/

/-- How a call is answered whose operation id is recorded with `operation`. -/
def Answers (sha256Hex : String → String) (operation : Operation) (call : Call)
    (result : Except Failure AuthorityOutcome) : Prop :=
  match call.request sha256Hex with
  | .error failure => result = .error failure
  | .ok (key, _) =>
      if operation.kind = key.kind ∧ operation.bodyFingerprint = key.fingerprint then
        Agrees operation.recorded result
      else ∃ message, result = .error (.settlement ⟨.idempotencyConflict, message⟩)

/-- A database with one blocked user and nothing else. -/
def blockedAccount : Db where
  wallets := .empty
  ledger := .empty
  reservations := .empty
  users := ⟨[⟨"account", .blocked⟩], by decide⟩
  prices := []
  operations := .empty
  events := []

/-- A reserve call, with the amount that it supplies. -/
def reserveWith (holdAmount : Js.Value) : Call :=
  .reserve {
    operationId := "op-1"
    accountId := "account"
    productId := "product"
    workspaceId := "workspace"
    runId := "run"
    usageReservationId := "usage"
    callerServiceId := "service"
    holdAmount
    modelAlias := "model"
    estimatedMaxInputTokens := .number (.integer 10)
    requestedMaxOutputTokens := .number (.integer 10)
    providerPricingFingerprint := "fingerprint"
    providerPricingVersion := "1" }

/-- The ids for the example's transactions; its denials use none of them. -/
def blockedIds : Ids := ⟨"wallet", "reservation", "entry"⟩

/-- The blocked account's reserve call is denied and recorded; then the account
is unblocked. -/
def afterDenial : Db :=
  run (step id) (step id blockedAccount (.call blockedIds (reserveWith .undefined))).1
    [.elsewhere (.setAccountStatus "account" .active)]

end AbrChin.MessageGo
