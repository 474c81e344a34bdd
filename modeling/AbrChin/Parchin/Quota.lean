import AbrChin.Subscriptions.Renewal

/-!
# The routine quota of an enrollment

A Parchin contract comes with a number of routine requests.  An enrollment counts them for its quota
period, and three writers set this period: the delivery (`activateApprovedDeliveryTx` of
`lib/infrastructure/health-check-service.ts`) and the renewal (`payRenewalQuote` of
`lib/subscriptions/service.ts`), both through `activateParchinEnrollmentTx` of
`lib/parchin/operations.ts`, and a routine request that finds the period over (`createSupportRequest`
of `lib/support/service.ts`).

A routine request locks the enrollment, reads it again and writes it in the same transaction, so that
this part is one step.  What a call has read before, without the lock, comes with its event and may be
of any earlier time.  The checks of a delivery and of a payment, and the other writers of the status,
are left out: any of their steps may happen.
-/

namespace AbrChin.Parchin

open Lib Pricing Orders Subscriptions

/-! ## Contracts -/

/-- `routineRequestLimit` of `OPERATIONAL_POLICIES` -/
def routineRequestLimit : ParchinLevel → ℕ
  | .start => 1
  | .active => 2
  | .stable => 4

inductive ParchinEnrollmentStatus where
  | active
  | pastDue
  | suspended
  | canceled
  | ended
  deriving DecidableEq

structure ParchinEnrollment where
  id : String
  userId : String
  cloudInstanceId : String
  serviceOrderId : String
  subscriptionId : Option String
  level : ParchinLevel
  status : ParchinEnrollmentStatus
  routineRequestLimit : ℕ
  routineRequestsUsed : ℕ
  quotaPeriodStart : ℤ
  quotaPeriodEnd : ℤ
  activatedAt : ℤ
  deriving DecidableEq

/-- A quota period with its limit. -/
structure QuotaPeriod where
  quotaPeriodStart : ℤ
  quotaPeriodEnd : ℤ
  limit : ℕ
  deriving DecidableEq

def ParchinEnrollment.period (row : ParchinEnrollment) : QuotaPeriod :=
  ⟨row.quotaPeriodStart, row.quotaPeriodEnd, row.routineRequestLimit⟩

structure ParchinSystem where
  subscriptions : Table ServiceSubscription.id
  enrollments : Table ParchinEnrollment.id
  clock : ℤ

/-! ## `activateParchinEnrollmentTx` -/

structure ActivateEnrollment where
  newId : String
  userId : String
  cloudInstanceId : String
  serviceOrderId : String
  subscriptionId : Option String
  level : ParchinLevel
  /-- The level of the contract snapshot, when it can be read. -/
  contractLevel : Option ParchinLevel
  activatedAt : ℤ
  quotaPeriodStart : ℤ
  quotaPeriodEnd : ℤ

/-- The operational policy is that of the level of the contract. -/
def ActivateEnrollment.limit (input : ActivateEnrollment) : ℕ :=
  Parchin.routineRequestLimit (input.contractLevel.getD input.level)

def ActivateEnrollment.update (input : ActivateEnrollment) (row : ParchinEnrollment) :
    ParchinEnrollment :=
  { row with
    subscriptionId := input.subscriptionId <|> row.subscriptionId
    level := input.level
    routineRequestLimit := input.limit
    routineRequestsUsed := 0
    quotaPeriodStart := input.quotaPeriodStart
    quotaPeriodEnd := input.quotaPeriodEnd
    status := .active }

def ActivateEnrollment.create (input : ActivateEnrollment) : ParchinEnrollment where
  id := input.newId
  userId := input.userId
  cloudInstanceId := input.cloudInstanceId
  serviceOrderId := input.serviceOrderId
  subscriptionId := input.subscriptionId
  level := input.level
  status := .active
  routineRequestLimit := input.limit
  routineRequestsUsed := 0
  quotaPeriodStart := input.quotaPeriodStart
  quotaPeriodEnd := input.quotaPeriodEnd
  activatedAt := input.activatedAt

/-- The upsert; `none` when the new row breaks a unique column. -/
def activateParchinEnrollmentTx (enrollments : Table ParchinEnrollment.id)
    (input : ActivateEnrollment) : Option (Table ParchinEnrollment.id) :=
  match enrollments.rows.find? fun row => row.cloudInstanceId = input.cloudInstanceId with
  | some row => some (enrollments.modify row.id input.update fun _ => rfl)
  | none =>
      if enrollments.rows.any fun row => row.serviceOrderId = input.serviceOrderId ||
          (row.subscriptionId.isSome && row.subscriptionId = input.subscriptionId) then none
      else enrollments.insert? input.create

/-! ## Deliveries and renewals -/

/-- A delivery that the checks have let through. -/
structure ApprovedDelivery where
  userId : String
  cloudInstanceId : String
  serviceOrderId : String
  /-- The plan is `PREPAID_TERM`. -/
  prepaid : Bool
  /-- The term of the order. -/
  termMonths : ℤ
  renewalPriceRial : ℤ
  suspendGraceDaysAfterZero : ℤ
  parchinLevel : Option ParchinLevel
  contractLevel : Option ParchinLevel
  newSubscriptionId : String
  newEnrollmentId : String

def ApprovedDelivery.months (input : ApprovedDelivery) : ℤ :=
  if input.termMonths = 3 ∨ input.termMonths = 6 ∨ input.termMonths = 12 then input.termMonths else 1

/-- The subscription that a delivery creates. -/
def ApprovedDelivery.subscription (input : ApprovedDelivery) (deliveredAt : ℤ) :
    ServiceSubscription where
  id := input.newSubscriptionId
  cloudInstanceId := input.cloudInstanceId
  sourceOrderId := input.serviceOrderId
  userId := input.userId
  status := .active
  parchinLevel := input.parchinLevel
  renewalPriceRial := input.renewalPriceRial
  currentPeriodStart := deliveredAt
  currentPeriodEnd := addBillingMonths deliveredAt input.months
  nextRenewalAt := addBillingMonths deliveredAt input.months
  graceEndsAt :=
    addGracePeriod (addBillingMonths deliveredAt input.months) input.suspendGraceDaysAfterZero
  termMonths := input.months
  suspendedAt := none
  autoRenew := false
  canceledAt := none

namespace ParchinSystem

variable (sys : ParchinSystem)

def subscriptionOf (cloudInstanceId : String) : Option ServiceSubscription :=
  sys.subscriptions.rows.find? fun row => row.cloudInstanceId = cloudInstanceId

/-- The subscription of a delivered instance; one that is there stays as it is. -/
def deliveredSubscription (input : ApprovedDelivery) : Option ServiceSubscription :=
  if input.prepaid = true then
    some ((sys.subscriptionOf input.cloudInstanceId).getD (input.subscription sys.clock))
  else none

/-- The enrollment that a delivery activates. -/
def enrollment (input : ApprovedDelivery) (level : ParchinLevel) : ActivateEnrollment where
  newId := input.newEnrollmentId
  userId := input.userId
  cloudInstanceId := input.cloudInstanceId
  serviceOrderId := input.serviceOrderId
  subscriptionId := (sys.deliveredSubscription input).map ServiceSubscription.id
  level := level
  contractLevel := input.contractLevel
  activatedAt := sys.clock
  quotaPeriodStart :=
    (sys.deliveredSubscription input).elim sys.clock ServiceSubscription.currentPeriodStart
  quotaPeriodEnd := (sys.deliveredSubscription input).elim (addBillingMonths sys.clock 1)
    ServiceSubscription.currentPeriodEnd

def upsertSubscription (input : ApprovedDelivery) : Option (Table ServiceSubscription.id) :=
  if input.prepaid = true ∧ (sys.subscriptionOf input.cloudInstanceId).isNone then
    sys.subscriptions.insert? (input.subscription sys.clock)
  else some sys.subscriptions

def activateEnrollment (input : ApprovedDelivery) : Option (Table ParchinEnrollment.id) :=
  match input.parchinLevel with
  | none => some sys.enrollments
  | some level => activateParchinEnrollmentTx sys.enrollments (sys.enrollment input level)

def activateApprovedDelivery (input : ApprovedDelivery) : Option ParchinSystem := do
  let subscriptions ← sys.upsertSubscription input
  let enrollments ← sys.activateEnrollment input
  some { sys with subscriptions, enrollments }

end ParchinSystem

/-- A renewal that the checks have let through, with what it has read. -/
structure RenewalPayment where
  quote : ServiceRenewalQuote
  subscription : ServiceSubscription
  parchinLevel : ParchinLevel
  /-- The price of the level is active. -/
  parchinActive : Bool
  newEnrollmentId : String

/-- The enrollment that a renewal activates. -/
def RenewalPayment.enrollment (input : RenewalPayment) : ActivateEnrollment where
  newId := input.newEnrollmentId
  userId := input.subscription.userId
  cloudInstanceId := input.subscription.cloudInstanceId
  serviceOrderId := input.subscription.sourceOrderId
  subscriptionId := some input.subscription.id
  level := input.parchinLevel
  contractLevel := some input.parchinLevel
  activatedAt := input.quote.periodStartSnapshot
  quotaPeriodStart := input.quote.periodStartSnapshot
  quotaPeriodEnd := input.quote.periodEndSnapshot

namespace ParchinSystem

variable (sys : ParchinSystem)

def renewEnrollment (input : RenewalPayment) : Option (Table ParchinEnrollment.id) :=
  if input.parchinActive = true then activateParchinEnrollmentTx sys.enrollments input.enrollment
  else some sys.enrollments

def payRenewalQuote (input : RenewalPayment) : Option ParchinSystem :=
  if input.quote.periodStartSnapshot ≠ input.subscription.currentPeriodEnd then none
  else do
    let subscriptions ← sys.subscriptions.updateIf? input.subscription.id (fun _ => true)
      (ServiceSubscription.renew input.quote input.parchinLevel) fun _ => rfl
    let enrollments ← sys.renewEnrollment input
    some { sys with subscriptions, enrollments }

end ParchinSystem

/-! ## `createSupportRequest` -/

inductive SupportRequestKind where
  | general
  | routine
  | p1Incident
  deriving DecidableEq

structure CreateSupportRequest where
  kind : SupportRequestKind
  /-- The length of the subject and of the description, without the blanks around them. -/
  subjectLength : ℕ
  descriptionLength : ℕ
  cloudInstanceId : Option String
  serviceOrderId : Option String
  /-- The instance, or else the order, is found among those of the user. -/
  found : Bool

/-- The active enrollment of the instance, or else of the order. -/
def resolveLinkedParchin (seen : Table ParchinEnrollment.id) (input : CreateSupportRequest) :
    Except String (Option ParchinEnrollment) :=
  let active := fun row : ParchinEnrollment => row.status = .active
  match input.cloudInstanceId, input.serviceOrderId with
  | some cloudInstanceId, _ =>
      if input.found = false then .error "not_found"
      else .ok ((seen.rows.find? fun row => row.cloudInstanceId = cloudInstanceId).filter active)
  | none, some serviceOrderId =>
      if input.found = false then .error "not_found"
      else .ok ((seen.rows.find? fun row => row.serviceOrderId = serviceOrderId).filter active)
  | none, none => .ok none

/-- A quota period that is over gives way to a month from now. -/
def ParchinEnrollment.rollOver (now : ℤ) (row : ParchinEnrollment) : ParchinEnrollment :=
  if row.quotaPeriodEnd ≤ now then
    { row with
      quotaPeriodStart := now
      quotaPeriodEnd := addBillingMonths now 1
      routineRequestsUsed := 0 }
  else row

def ParchinEnrollment.countRequest (row : ParchinEnrollment) : ParchinEnrollment :=
  { row with routineRequestsUsed := row.routineRequestsUsed + 1 }

/-- What a call says about the quota. -/
inductive Outcome where
  | accepted (enrollmentId : String) (now : ℤ) (period : QuotaPeriod)
  /-- `routine_quota_exhausted` -/
  | exhausted (enrollmentId : String) (now : ℤ) (limit : ℕ)
  deriving DecidableEq

theorem ParchinEnrollment.id_rollOver (now : ℤ) (row : ParchinEnrollment) :
    (row.rollOver now).id = row.id := by
  unfold ParchinEnrollment.rollOver
  split <;> rfl

namespace ParchinSystem

variable (sys : ParchinSystem)

/-- The part of a routine request that has the enrollment locked.  A request that is refused leaves
it as it was. -/
def consumeRoutineQuota (enrollmentId : String) : ParchinSystem × Option Outcome :=
  match sys.enrollments.find? enrollmentId with
  | none => (sys, none)
  | some row =>
      let enrollment := row.rollOver sys.clock
      if enrollment.routineRequestLimit ≤ enrollment.routineRequestsUsed then
        (sys, some (.exhausted enrollmentId sys.clock enrollment.routineRequestLimit))
      else
        ({ sys with
            enrollments := sys.enrollments.modify enrollmentId
              (fun row => (row.rollOver sys.clock).countRequest)
              fun row => row.id_rollOver sys.clock },
          some (.accepted enrollmentId sys.clock enrollment.period))

/-- The checks before the quota; `none` when no quota is used. -/
def routineEnrollment (input : CreateSupportRequest) (seen : Table ParchinEnrollment.id) :
    Except String (Option String) := do
  if input.subjectLength < 3 ∨ 160 < input.subjectLength then .error "invalid_input"
  if input.descriptionLength < 10 ∨ 4000 < input.descriptionLength then .error "invalid_input"
  let linked ← resolveLinkedParchin seen input
  if (input.kind = .routine ∨ input.kind = .p1Incident) ∧ linked.isNone then
    .error "parchin_required"
  if input.kind = .p1Incident ∧ linked.map ParchinEnrollment.level ≠ some .stable then
    .error "p1_not_included"
  if input.kind = .routine then .ok (linked.map ParchinEnrollment.id) else .ok none

def createSupportRequest (input : CreateSupportRequest) (seen : Table ParchinEnrollment.id) :
    ParchinSystem × Option Outcome :=
  match routineEnrollment input seen with
  | .ok (some enrollmentId) => sys.consumeRoutineQuota enrollmentId
  | _ => (sys, none)

end ParchinSystem

/-! ## The system -/

inductive Event where
  | deliver (input : ApprovedDelivery)
  | payRenewalQuote (input : RenewalPayment)
  /-- A support request, with the enrollments as its first reads saw them. -/
  | createSupportRequest (input : CreateSupportRequest) (seen : Table ParchinEnrollment.id)
  /-- The status of an enrollment is changed by its lifecycle or a cancellation. -/
  | setStatus (enrollmentId : String) (status : ParchinEnrollmentStatus)
  /-- Milliseconds pass. -/
  | tick (ms : ℕ)

def ParchinEnrollment.withStatus (status : ParchinEnrollmentStatus) (row : ParchinEnrollment) :
    ParchinEnrollment := { row with status }

/-- A call that throws leaves the state as it was. -/
def stepQuota (sys : ParchinSystem) : Event → ParchinSystem × Option Outcome
  | .deliver input => ((sys.activateApprovedDelivery input).getD sys, none)
  | .payRenewalQuote input => ((sys.payRenewalQuote input).getD sys, none)
  | .createSupportRequest input seen => sys.createSupportRequest input seen
  | .setStatus enrollmentId status =>
      ({ sys with
          enrollments := sys.enrollments.modify enrollmentId (ParchinEnrollment.withStatus status)
            fun _ => rfl }, none)
  | .tick ms => ({ sys with clock := sys.clock + ms }, none)

/-- Before the first delivery. -/
def ParchinSystem.start : ParchinSystem := ⟨.empty, .empty, 0⟩

end AbrChin.Parchin
