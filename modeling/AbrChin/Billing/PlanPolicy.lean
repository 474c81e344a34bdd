import AbrChin.Billing.Contract
import AbrChin.Lib.Ranges
import AbrChin.Orders.Refund

/-!
# Billing policies of plans

`lib/billing/policy-admin.ts`: an admin gives a plan a policy of its own, from an instant on that
may be ahead.  `parsePlanBillingPolicyInput` reads the body of the request, and
`createPlanBillingPolicyVersion` ends the version that is in force at that instant and adds the
next one.  A row of the table is refused when it breaks one of its unique indexes (a version occurs
once for each key, and each key has one row without an end) or one of its checks.

The transaction is serializable and starts with a lock on the plan, so that it is one step here.
The audit log and the snapshot that a receipt answers with are left out.
-/

namespace AbrChin.Billing

open Lib Js
open Orders (ServiceDb AdminCommand normalizeAdminCommand replayAdminCommand
  persistAdminCommandReceipt ProductBillingModel)
open Pricing (InfrastructureProductKind)

/-! ## The rows -/

inductive BillingPriceDisplayMode where
  | hourly
  | daily
  | both
  deriving DecidableEq

inductive BillingPolicyScope where
  | global
  | plan
  deriving DecidableEq

/-- The place of a scope in its enumeration, by which the database orders it. -/
def BillingPolicyScope.place : BillingPolicyScope → ℕ
  | global => 0
  | plan => 1

/-- A row of `BillingPolicyVersion`. -/
structure PolicyRow extends BillingPolicyVersion where
  policyKey : String
  version : ℤ
  scope : BillingPolicyScope
  displayMode : BillingPriceDisplayMode
  enabledCadences : List BillingCadence
  createdById : Option String
  changeReason : String

/-- The row is in force. -/
abbrev PolicyRow.InForce (row : PolicyRow) (instant : ℤ) : Prop :=
  Within row.effectiveFrom row.effectiveTo instant

/-- The checks of the table. -/
def PolicyRow.accepted (row : PolicyRow) : Bool :=
  decide (row.scope = .global ↔ row.planId = none) &&
    isCadenceAllowed row.availability row.defaultCadence &&
    [row.hourlyMinimumCreditHours, row.dailyMinimumCreditDays,
      row.lowBalanceThresholdPeriods].all (0 < ·) &&
    [row.hourlyGracePeriods, row.dailyGracePeriods].all (0 ≤ ·) &&
    row.effectiveTo.all (row.effectiveFrom < ·)

/-- The unique indexes: on the key and the version, and on the key of a row without an end. -/
def PolicyRow.indexes : List (PolicyRow → Option (String × Option ℤ)) :=
  [fun row => some (row.policyKey, some row.version),
    fun row => if row.effectiveTo = none then some (row.policyKey, none) else none]

/-- A plan as its policy reads and writes it. -/
structure PolicyPlan where
  id : String
  productKind : InfrastructureProductKind
  billingModel : ProductBillingModel
  billingPolicyVersionId : Option String
  updatedById : Option String

structure PolicyDb where
  service : ServiceDb
  plans : Table PolicyPlan.id
  policies : IndexedTable (fun row : PolicyRow => row.id) PolicyRow.indexes

/-- Run a statement on the tables of the orders. -/
def onReceipts {α : Type} (body : Tx ServiceDb String α) : Tx PolicyDb String α :=
  body.zoom PolicyDb.service fun db service => { db with service }

/-! ## The request -/

structure PlanBillingPolicyInput where
  availability : BillingAvailability
  defaultCadence : BillingCadence
  displayMode : BillingPriceDisplayMode
  hourlyMinimumCreditHours : ℤ
  dailyMinimumCreditDays : ℤ
  hourlyGracePeriods : ℤ
  dailyGracePeriods : ℤ
  lowBalanceThresholdPeriods : ℤ
  effectiveFrom : ℤ
  changeReason : String

def BillingAvailability.text : BillingAvailability → String
  | hourlyOnly => "HOURLY_ONLY"
  | dailyOnly => "DAILY_ONLY"
  | hourlyAndDaily => "HOURLY_AND_DAILY"

def BillingCadence.text : BillingCadence → String
  | hourly => "HOURLY"
  | daily => "DAILY"

def BillingPriceDisplayMode.text : BillingPriceDisplayMode → String
  | hourly => "HOURLY"
  | daily => "DAILY"
  | both => "BOTH"

/-- The member of an enumeration with a text.  (An array of one such text, which has the same
text, is refused when it is stored.) -/
def memberOf {α : Type} (text : α → String) (members : List α) : Value → Option α
  | .string name => members.find? fun member => text member = name
  | _ => none

def enabledCadences : BillingAvailability → List BillingCadence
  | .hourlyOnly => [.hourly]
  | .dailyOnly => [.daily]
  | .hourlyAndDaily => [.hourly, .daily]

/-- The integer that a value of type `unknown` is the number of. -/
def wholeNumber : Value → Option ℤ
  | .number (.integer value) => some value
  | .string text =>
      if trim text = "" then none
      else (toNumber text).bind fun value => if value.den = 1 then some value.num else none
  | _ => none

/-- A whole number from `least` up to 10000, which is a safe integer. -/
def integerFrom (least : ℤ) (value : Value) : Except String ℤ :=
  match (wholeNumber value).filter fun parsed => least ≤ parsed ∧ parsed ≤ 10000 with
  | some parsed => .ok parsed
  | none => .error "invalid_billing_policy"

def positiveInteger : Value → Except String ℤ := integerFrom 1

def nonNegativeInteger : Value → Except String ℤ := integerFrom 0

/-- `validateBillingPolicyContract` of a policy that is not stored yet -/
def PlanBillingPolicyInput.validate (policy : PlanBillingPolicyInput) : Except String Unit := do
  throwIf (!isCadenceAllowed policy.availability policy.defaultCadence) "billing_cadence_disabled"
  throwIf ([policy.hourlyMinimumCreditHours, policy.dailyMinimumCreditDays,
    policy.lowBalanceThresholdPeriods].any fun value => value ≤ 0 ∨ maxSafeInteger < value)
    "invalid_billing_policy"
  throwIf ([policy.hourlyGracePeriods, policy.dailyGracePeriods].any fun value =>
    value < 0 ∨ maxSafeInteger < value) "invalid_billing_policy"

/-- The start that a body asks for, or now; `dateOf` is the time of `new Date(String(value))`,
when it has one. -/
def parseEffectiveFrom (dateOf : Value → Option ℤ) (value : Value) (now : ℤ) :
    Except String ℤ :=
  let asked := match value with
    | .undefined | .null => some now
    | value => dateOf value
  match asked.filter (now - 5000 ≤ ·) with
  | some effectiveFrom => .ok effectiveFrom
  | none => .error "retroactive_billing_policy"

def parsePlanBillingPolicyInput (dateOf : Value → Option ℤ) (body : List (String × Value))
    (now : ℤ) : Except String PlanBillingPolicyInput := do
  let field := Value.field body
  let availability := memberOf BillingAvailability.text [.hourlyOnly, .dailyOnly, .hourlyAndDaily]
    (field "availability")
  let defaultCadence := memberOf BillingCadence.text [.hourly, .daily] (field "defaultCadence")
  let displayMode := memberOf BillingPriceDisplayMode.text [.hourly, .daily, .both]
    (field "displayMode")
  match availability, defaultCadence, displayMode with
  | some availability, some defaultCadence, some displayMode => do
      let effectiveFrom ← parseEffectiveFrom dateOf (field "effectiveFrom") now
      let changeReason := match field "changeReason" with
        | .string text => trim text
        | _ => ""
      throwIf (length changeReason < 3 ∨ 500 < length changeReason) "invalid_reason"
      let parsed : PlanBillingPolicyInput := {
        availability
        defaultCadence
        displayMode
        hourlyMinimumCreditHours := ← positiveInteger (field "hourlyMinimumCreditHours")
        dailyMinimumCreditDays := ← positiveInteger (field "dailyMinimumCreditDays")
        hourlyGracePeriods := ← nonNegativeInteger (field "hourlyGracePeriods")
        dailyGracePeriods := ← nonNegativeInteger (field "dailyGracePeriods")
        lowBalanceThresholdPeriods := ← positiveInteger (field "lowBalanceThresholdPeriods")
        effectiveFrom
        changeReason }
      parsed.validate
      pure parsed
  | _, _, _ => .error "invalid_billing_policy"

/-! ## The next version -/

structure CreatePolicy where
  planId : String
  actorUserId : String
  policy : PlanBillingPolicyInput
  idempotencyKey : String
  /-- When the pending version is looked for. -/
  now : ℤ
  newId : String

/-- The start stands as its milliseconds, which its ISO text is written from. -/
def CreatePolicy.command (input : CreatePolicy) : AdminCommand where
  operation := "UPDATE_PLAN_BILLING_POLICY"
  idempotencyKey := input.idempotencyKey
  actorUserId := input.actorUserId
  infrastructureOrderId := none
  serviceOrderId := none
  reason := input.policy.changeReason
  payload :=
    let policy := input.policy
    [("planId", .string input.planId), ("availability", .string policy.availability.text),
      ("defaultCadence", .string policy.defaultCadence.text),
      ("displayMode", .string policy.displayMode.text),
      ("hourlyMinimumCreditHours", .number policy.hourlyMinimumCreditHours),
      ("dailyMinimumCreditDays", .number policy.dailyMinimumCreditDays),
      ("hourlyGracePeriods", .number policy.hourlyGracePeriods),
      ("dailyGracePeriods", .number policy.dailyGracePeriods),
      ("lowBalanceThresholdPeriods", .number policy.lowBalanceThresholdPeriods),
      ("effectiveFrom", .number policy.effectiveFrom),
      ("changeReason", .string policy.changeReason)]

def planPolicyKey (planId : String) : String := "plan:" ++ planId

/-- A version of the plan that is still to come. -/
def pendingPolicy (rows : List PolicyRow) (planId : String) (now : ℤ) : Option PolicyRow :=
  rows.find? fun row => row.planId = some planId ∧ now < row.effectiveFrom ∧ row.effectiveTo = none

/-- The row of `findFirst` with an order: no other row of the list comes before it. -/
def firstBy {ρ : Type} (before : ρ → ρ → Bool) : List ρ → Option ρ
  | [] => none
  | row :: rest =>
      match firstBy before rest with
      | none => some row
      | some first => if before first row then some first else some row

/-- The order of `scope desc, effectiveFrom desc`. -/
def PolicyRow.isCloser (row other : PolicyRow) : Bool :=
  other.scope.place < row.scope.place ||
    (other.scope.place = row.scope.place && other.effectiveFrom < row.effectiveFrom)

/-- The version that is in force: of the plan before the global one, and then the latest. -/
def previousPolicy (rows : List PolicyRow) (planId : String) (instant : ℤ) : Option PolicyRow :=
  firstBy PolicyRow.isCloser (rows.filter fun row => row.InForce instant ∧
    (row.planId = some planId ∨ (row.policyKey = "global" ∧ row.scope = .global)))

/-- The version of the plan that is in force. -/
def previousPlanPolicy (rows : List PolicyRow) (planId : String) (instant : ℤ) :
    Option PolicyRow :=
  firstBy (fun row other => other.effectiveFrom < row.effectiveFrom)
    (rows.filter fun row => row.InForce instant ∧ row.planId = some planId)

/-- The highest version of a key, and 0 when it has none. -/
def latestVersion (rows : List PolicyRow) (policyKey : String) : ℤ :=
  ((firstBy (fun row other => other.version < row.version)
    (rows.filter (·.policyKey = policyKey))).map PolicyRow.version).getD 0

def PolicyRow.endAt (instant : ℤ) (row : PolicyRow) : PolicyRow :=
  { row with effectiveTo := some instant }

/-- The row of the next version; what the provider's contract says is taken from `previous`. -/
def CreatePolicy.row (input : CreatePolicy) (previous : PolicyRow) (latest : ℤ) : PolicyRow where
  id := input.newId
  policyKey := planPolicyKey input.planId
  version := latest + 1
  scope := .plan
  planId := some input.planId
  availability := input.policy.availability
  defaultCadence := input.policy.defaultCadence
  displayMode := input.policy.displayMode
  hourlyMinimumCreditHours := input.policy.hourlyMinimumCreditHours
  dailyMinimumCreditDays := input.policy.dailyMinimumCreditDays
  hourlyGracePeriods := input.policy.hourlyGracePeriods
  dailyGracePeriods := input.policy.dailyGracePeriods
  lowBalanceThresholdPeriods := input.policy.lowBalanceThresholdPeriods
  timeTerms := previous.timeTerms
  stopStateComponentPolicy := previous.stopStateComponentPolicy
  enabledCadences := Billing.enabledCadences input.policy.availability
  effectiveFrom := input.policy.effectiveFrom
  effectiveTo := none
  createdById := some input.actorUserId
  changeReason := input.policy.changeReason

/-- `billingPolicyVersion.update` of the end. -/
def endPolicy (instant : ℤ) : Option PolicyRow → Tx PolicyDb String Unit
  | none => pure ()
  | some row => Tx.attempt "23514" fun db =>
      (db.policies.updateIf? row.id (fun row => (row.endAt instant).accepted)
        (PolicyRow.endAt instant) fun _ => rfl).map ({ db with policies := · })

/-- `billingPolicyVersion.create` -/
def insertPolicy (row : PolicyRow) : Tx PolicyDb String Unit := do
  Tx.throwIf (row.accepted = false) "23514"
  Tx.attempt "P2002" fun db => (db.policies.insert? row).map ({ db with policies := · })

def PolicyPlan.withPolicy (policyId actorUserId : String) (plan : PolicyPlan) : PolicyPlan :=
  { plan with
    billingModel := .paygWallet
    billingPolicyVersionId := some policyId
    updatedById := some actorUserId }

/-- What a plan that may have a policy of its own is given: the versions are read in `db`. -/
def addPolicyVersion (input : CreatePolicy) (db : PolicyDb) : Tx PolicyDb String PolicyRow := do
  let rows := db.policies.rows
  let effectiveFrom := input.policy.effectiveFrom
  Tx.throwIf ((pendingPolicy rows input.planId input.now).isSome = true)
    "billing_policy_change_pending"
  let previous ← Tx.orThrow "billing_policy_unavailable"
    (previousPolicy rows input.planId effectiveFrom)
  endPolicy effectiveFrom (previousPlanPolicy rows input.planId effectiveFrom)
  let created := input.row previous (latestVersion rows (planPolicyKey input.planId))
  insertPolicy created
  Tx.modify fun db => { db with
    plans := db.plans.modify input.planId (PolicyPlan.withPolicy created.id input.actorUserId)
      fun _ => rfl }
  pure created

/-- The version that has been created, or nothing when the command is replayed. -/
def createPlanBillingPolicyVersion (input : CreatePolicy) :
    Tx PolicyDb String (Option PolicyRow) := do
  let command ← Tx.ofExcept (normalizeAdminCommand input.command)
  let db ← Tx.get
  Tx.throwIf (input.actorUserId ∉ db.service.eligibleAdmins) "forbidden"
  let replay ← onReceipts (replayAdminCommand command)
  if replay = true then pure none
  else do
    let plan ← Tx.orThrow "P2025" (db.plans.find? input.planId)
    Tx.throwIf (plan.productKind ≠ .cloudServer) "billing_policy_not_allowed"
    let created ← addPolicyVersion input db
    onReceipts (persistAdminCommandReceipt command)
    pure (some created)

/-! ## What a call leaves -/

/-- A request: its body is read at `parsedAt`, and the version is created by a transaction. -/
structure PolicyCall where
  body : List (String × Value)
  parsedAt : ℤ
  planId : String
  actorUserId : String
  idempotencyKey : String
  now : ℤ
  newId : String

def PolicyCall.input (call : PolicyCall) (policy : PlanBillingPolicyInput) : CreatePolicy where
  planId := call.planId
  actorUserId := call.actorUserId
  policy
  idempotencyKey := call.idempotencyKey
  now := call.now
  newId := call.newId

/-- The route: a body that is refused, or a transaction that throws, leaves the tables alone. -/
def stepPolicy (dateOf : Value → Option ℤ) (db : PolicyDb) (call : PolicyCall) :
    PolicyDb × Except String (Option PolicyRow) :=
  match parsePlanBillingPolicyInput dateOf call.body call.parsedAt with
  | .error code => (db, .error code)
  | .ok policy =>
      let (result, db) := Tx.transaction (createPlanBillingPolicyVersion (call.input policy)) db
      (db, result)

end AbrChin.Billing
