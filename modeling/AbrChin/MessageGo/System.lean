import AbrChin.MessageGo.Effects

/-!
# Runs of the settlement authority

A run is a list of events: settlement calls, and what the rest of the
application does to the same database between two of them.  The rest of the
application creates and blocks users, publishes prices, opens, freezes and
thaws wallets, and posts its own ledger entries; it writes neither
reservations nor recorded operations, and no entry of its own names a
reservation.

The second half is about repeated calls.  A recorded operation stays recorded,
a call whose operation id is recorded changes nothing, and so such calls can be
deleted from a run.
-/

namespace AbrChin.MessageGo

open Lib Wallet

/-! ## Events -/

/-- A settlement call. -/
inductive Call where
  | reserve (input : ReserveInput)
  | settle (input : SettleInput)
  | release (input : ReleaseInput)
  | reconcile (input : SettleInput)

/-- The operation id of a call, as all four functions read it first. -/
def Call.operationId : Call → Except Failure String
  | .reserve input => requiredId input.operationId "operation_id"
  | .settle input => requiredId input.operationId "operation_id"
  | .release input => requiredId input.operationId "operation_id"
  | .reconcile input => requiredId input.operationId "operation_id"

/-- The kind of the operation that a call records. -/
def Call.kind : Call → OpKind
  | .reserve _ => .reserve
  | .settle _ => .settle
  | .release _ => .release
  | .reconcile _ => .reconcile

/-- What a call asks for, once its input has been parsed. -/
def Call.request (sha256Hex : String → String) : Call → Except Failure (OperationKey × Label)
  | .reserve input => (input.parse sha256Hex).map fun request =>
      (request.key, .reserve request.key.accountId)
  | .settle input => (input.parseSettle sha256Hex).map fun request => (request.key, request.label)
  | .release input => (input.parse sha256Hex).map fun request =>
      (request.key, .release request.scope.authorityReservationId)
  | .reconcile input => (input.parseReconcile sha256Hex).map fun request =>
      (request.key, .charge request.scope.authorityReservationId (request.usage.getD ⟨0, 0⟩)
        request.key.kind.final)

/-- Run a call. -/
def Call.execute (sha256Hex : String → String) (ids : Ids) (call : Call) (db : Db) :
    Except Failure AuthorityOutcome × Db :=
  match call with
  | .reserve input => reserveWalletAuthority sha256Hex ids input db
  | .settle input => settleWalletAuthority sha256Hex ids input db
  | .release input => releaseWalletAuthority sha256Hex ids input db
  | .reconcile input => reconcileWalletAuthority sha256Hex ids input db

/-- What the rest of the application does to the database. -/
inductive Elsewhere where
  | createUser (user : User)
  | setAccountStatus (userId : String) (status : UserAccountStatus)
  | publishPrice (price : CustomerPrice)
  | openWallet (wallet : WalletRow)
  | setWalletStatus (walletId : String) (status : WalletStatus)
  | post (entry : WalletLedgerEntry)

/-- The account status of a user changes. -/
def User.withStatus (user : User) (accountStatus : UserAccountStatus) : User :=
  { user with accountStatus }

@[simp] theorem User.id_withStatus (user : User) (status : UserAccountStatus) :
    (user.withStatus status).id = user.id := rfl

/-- The database after a change from elsewhere; a change that a constraint
refuses, or that would overdraw a wallet, does not happen. -/
def Elsewhere.apply (db : Db) : Elsewhere → Db
  | .createUser user => (db.users.insert? user).elim db fun users => { db with users }
  | .setAccountStatus userId status =>
      { db with
        users := db.users.modify userId (fun user => user.withStatus status)
          fun user => user.id_withStatus status }
  | .publishPrice price => { db with prices := db.prices ++ [price] }
  | .openWallet wallet =>
      if wallet.availableBalance = 0 then
        (db.createWallet wallet).elim db fun book => { db with toBook := book }
      else db
  | .setWalletStatus walletId status =>
      { db with
        wallets := db.wallets.modify walletId (fun wallet => wallet.withStatus status)
          fun wallet => wallet.id_withStatus status }
  | .post entry =>
      if entry.referenceType ≠ some referenceType ∧
          (db.wallets.find? entry.walletId).any
            (fun wallet => 0 ≤ wallet.availableBalance + entry.signedAmount) then
        (db.post entry).elim db fun book => { db with toBook := book }
      else db

/-- An event of a run. -/
inductive Event where
  | call (ids : Ids) (call : Call)
  | elsewhere (change : Elsewhere)

/-- The result of an event; only calls have one. -/
abbrev Result := Option (Except Failure AuthorityOutcome)

/-- One event. -/
def step (sha256Hex : String → String) (db : Db) : Event → Db × Result
  | .call ids call =>
      let (result, db') := call.execute sha256Hex ids db
      (db', some result)
  | .elsewhere change => (change.apply db, none)

variable {sha256Hex : String → String} {db db' : Db}

/-! ## What a call asks for -/

/-- What the parsed request of a call says about the call: the first thing that
is parsed is the operation id. -/
theorem request_spec {call : Call} {key : OperationKey} {label : Label}
    (h : call.request sha256Hex = .ok (key, label)) :
    call.operationId = .ok key.operationId ∧ key.kind = call.kind ∧
      match call with
      | .reserve _ => label = .reserve key.accountId
      | .settle _ => (∃ target, label = .uncertain target) ∨
          ∃ target usage, label = .charge target usage .settled
      | .release _ => ∃ target, label = .release target
      | .reconcile _ => ∃ target usage, label = .charge target usage .reconciled := by
  cases call with
  | reserve input =>
      simp only [Call.request, ReserveInput.parse, map_eq_ok, bind_eq_ok, pure, Except.pure,
        Except.ok.injEq, Prod.mk.injEq] at h
      obtain ⟨_, ⟨operationId, hid, _, -, _, -, _, -, _, -, _, -, _, -, _, -, _, -, _, -, _, -, _,
        -, _, -, _, -, rfl⟩, rfl, rfl⟩ := h
      exact ⟨hid, rfl, rfl⟩
  | settle input =>
      simp only [Call.request, SettleInput.parseSettle, map_eq_ok, bind_eq_ok, pure, Except.pure,
        Except.ok.injEq, Prod.mk.injEq] at h
      obtain ⟨_, ⟨operationId, hid, _, -, _, -, _, -, _, -, _, -, _, -, _, -, _, -, usage, -, rfl⟩,
        rfl, rfl⟩ := h
      refine ⟨hid, rfl, ?_⟩
      cases usage with
      | none => exact .inl ⟨_, rfl⟩
      | some usage => exact .inr ⟨_, _, rfl⟩
  | release input =>
      simp only [Call.request, ReleaseInput.parse, map_eq_ok, bind_eq_ok, pure, Except.pure,
        Except.ok.injEq, Prod.mk.injEq] at h
      obtain ⟨_, ⟨operationId, hid, _, -, _, -, _, -, _, -, _, -, _, -, _, -, _, -, rfl⟩, rfl,
        rfl⟩ := h
      exact ⟨hid, rfl, _, rfl⟩
  | reconcile input =>
      simp only [Call.request, SettleInput.parseReconcile, map_eq_ok, bind_eq_ok, pure, Except.pure,
        Except.ok.injEq, Prod.mk.injEq] at h
      obtain ⟨_, ⟨operationId, hid, _, -, _, -, _, -, _, -, _, -, _, -, _, -, _, -, _, -, rfl⟩, rfl,
        rfl⟩ := h
      exact ⟨hid, rfl, _, _, rfl⟩

/-! ## What the rest of the application does -/

/-- What a change from elsewhere can do to the tables that hold money. -/
inductive Drift (book : Book) : Book → Prop
  | stay : Drift book book
  | opened {opened : Book} (hopens : Opens book opened) : Drift book opened
  | restatus (walletId : String) (status : WalletStatus) :
      Drift book { book with
        wallets := book.wallets.modify walletId (fun wallet => wallet.withStatus status)
          fun wallet => wallet.id_withStatus status }
  | posted {entry : WalletLedgerEntry} {wallet : WalletRow} {posted : Book}
      (hforeign : entry.referenceType ≠ some referenceType)
      (hwallet : book.wallets.find? entry.walletId = some wallet)
      (hcovered : 0 ≤ wallet.availableBalance + entry.signedAmount)
      (hpost : book.post entry = some posted) : Drift book posted

theorem drift_apply (db : Db) (change : Elsewhere) :
    Drift db.toBook (change.apply db).toBook := by
  cases change with
  | createUser user =>
      simp only [Elsewhere.apply]
      cases h : db.users.insert? user <;> exact .stay
  | setAccountStatus userId status => exact .stay
  | publishPrice price => exact .stay
  | openWallet wallet =>
      simp only [Elsewhere.apply]
      split
      · rename_i hzero
        cases h : db.createWallet wallet with
        | none => exact .stay
        | some opened => exact .opened (.inr ⟨wallet, hzero, h⟩)
      · exact .stay
  | setWalletStatus walletId status => exact .restatus walletId status
  | post entry =>
      simp only [Elsewhere.apply]
      split
      · rename_i hguard
        obtain ⟨hforeign, hcovered⟩ := hguard
        obtain ⟨wallet, hwallet, hcovered⟩ := (Option.any_eq_true _ _).1 hcovered
        cases h : db.post entry with
        | none => exact .stay
        | some posted => exact .posted hforeign hwallet (of_decide_eq_true hcovered) h
      · exact .stay

theorem operations_apply (db : Db) (change : Elsewhere) :
    (change.apply db).operations = db.operations := by
  cases change with
  | createUser user =>
      simp only [Elsewhere.apply]
      cases h : db.users.insert? user <;> rfl
  | setAccountStatus userId status => rfl
  | publishPrice price => rfl
  | openWallet wallet =>
      simp only [Elsewhere.apply]
      split
      · cases h : db.createWallet wallet <;> rfl
      · rfl
  | setWalletStatus walletId status => rfl
  | post entry =>
      simp only [Elsewhere.apply]
      split
      · cases h : db.post entry <;> rfl
      · rfl

/-! ## What a call does -/

/-- A call that fails its input validation does nothing else; any other call has
the effect of its transaction. -/
def Performs (db : Db) (request : Except Failure (OperationKey × Label))
    (next : Except Failure AuthorityOutcome × Db) : Prop :=
  match request with
  | .error failure => next = (.error failure, db)
  | .ok (key, label) => Effect key label db next.1 next.2

theorem performs_of_effect {ρ : Type} {parsed : Except Failure ρ} {body : ρ → Tx Committed}
    {request : ρ → OperationKey × Label}
    (hbody : ∀ input, Effect (request input).1 (request input).2 db (commit (body input) db).1
      (commit (body input) db).2) :
    Performs db (parsed.map request) (perform parsed body db) := by
  cases parsed with
  | error failure => rfl
  | ok input => exact hbody input

theorem performs_execute (sha256Hex : String → String) (ids : Ids) (call : Call) (db : Db) :
    Performs db (call.request sha256Hex) (call.execute sha256Hex ids db) := by
  cases call with
  | reserve input =>
      rw [Call.request, Call.execute, reserveWalletAuthority]
      exact performs_of_effect fun request => effect_reserve request ids db
  | settle input =>
      rw [Call.request, Call.execute, settleWalletAuthority]
      exact performs_of_effect fun request => effect_settle request ids db
  | release input =>
      rw [Call.request, Call.execute, releaseWalletAuthority]
      exact performs_of_effect fun request => effect_release request ids db
  | reconcile input =>
      rw [Call.request, Call.execute, reconcileWalletAuthority]
      exact performs_of_effect fun request => effect_reconcile request ids _ db

/-- What one event does. -/
inductive StepCases (sha256Hex : String → String) (db : Db) : Event → Db × Result → Prop
  | invalid {ids : Ids} {call : Call} {failure : Failure}
      (hrequest : call.request sha256Hex = .error failure) :
      StepCases sha256Hex db (.call ids call) (db, some (.error failure))
  | call {ids : Ids} {call : Call} {key : OperationKey} {label : Label}
      {result : Except Failure AuthorityOutcome} {db' : Db}
      (hrequest : call.request sha256Hex = .ok (key, label))
      (heffect : Effect key label db result db') :
      StepCases sha256Hex db (.call ids call) (db', some result)
  | elsewhere (change : Elsewhere) :
      StepCases sha256Hex db (.elsewhere change) (change.apply db, none)

theorem step_cases (sha256Hex : String → String) (db : Db) (event : Event) :
    StepCases sha256Hex db event (step sha256Hex db event) := by
  cases event with
  | elsewhere change => exact .elsewhere change
  | call ids call =>
      have hperforms := performs_execute sha256Hex ids call db
      cases hrequest : call.request sha256Hex with
      | error failure =>
          rw [hrequest] at hperforms
          have hnext : call.execute sha256Hex ids db = (.error failure, db) := hperforms
          simp only [step, hnext]
          exact .invalid hrequest
      | ok request =>
          rw [hrequest] at hperforms
          exact .call hrequest hperforms

end AbrChin.MessageGo
