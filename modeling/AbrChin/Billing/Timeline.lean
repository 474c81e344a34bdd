import AbrChin.Billing.Contract
import AbrChin.Js.Value

/-!
# The usage timeline

The tables of `prisma/schema.prisma` that say what a service used and when: its
policy snapshots, resource versions, usage intervals and rate cards, with the
constraints that the migrations put on them.  `Timeline` carries the constraints
as a proof, and `Timeline.write` refuses a write that would break one.

Below are the three transactions that write these tables:
`startInitialUsageBillingTx`, `recordProviderConfirmedResourceVersion` and
`scheduleServiceBillingCadenceChange`.  The last two are SERIALIZABLE and lock the
instance, and the first only inserts rows that unique indexes guard, so a run is
a sequence of them.
-/

namespace AbrChin.Billing

open Lib Pricing

/-! ## Rows -/

inductive CloudInstanceStatus where
  | pending
  | active
  | failed
  | terminated
  deriving DecidableEq

structure CloudInstance where
  id : String
  userId : String
  planId : String
  provider : InfrastructureProvider
  ipv4 : Option String
  status : CloudInstanceStatus
  deriving DecidableEq

structure PolicySnapshot where
  id : String
  cloudInstanceId : String
  activationRequestId : Option String
  cadence : BillingCadence
  timeTerms : TimeTerms
  hourlyEstimateRial : Option ℤ
  dailyEstimateRial : Option ℤ
  minimumCreditRial : ℤ
  gracePeriods : ℤ
  lowBalanceThresholdPeriods : ℤ
  stopStateComponentPolicy : StopStateComponentPolicy
  effectiveFrom : ℤ
  effectiveTo : Option ℤ
  idempotencyKey : String
  deriving DecidableEq

structure RateCardVersion extends CalculableRate where
  id : String
  planId : Option String
  provider : InfrastructureProvider
  providerApiVersion : String
  productKind : InfrastructureProductKind
  externalPlanId : String
  regionCode : String
  component : ComponentType
  rateCadence : Option BillingCadence
  providerCurrency : String
  providerAmountUnit : String
  effectiveFrom : ℤ
  effectiveTo : Option ℤ
  idempotencyKey : String
  deriving DecidableEq

structure ResourceVersion extends ResourceQuantitySnapshot where
  id : String
  cloudInstanceId : String
  planId : String
  provider : InfrastructureProvider
  sourceChangeRequestId : Option String
  effectiveFrom : ℤ
  effectiveTo : Option ℤ
  idempotencyKey : String
  deriving DecidableEq

inductive UsageIntervalStatus where
  | open
  | complete
  | incomplete
  | review
  deriving DecidableEq

structure UsageInterval where
  id : String
  cloudInstanceId : String
  resourceVersionId : String
  billingPolicySnapshotId : String
  status : UsageIntervalStatus
  startedAt : ℤ
  endedAt : Option ℤ
  completenessReason : Option String := none
  idempotencyKey : String
  deriving DecidableEq

/-! ## Tables and constraints -/

structure TimelineRows where
  instances : List CloudInstance
  snapshots : List PolicySnapshot
  rates : List RateCardVersion
  versions : List ResourceVersion
  intervals : List UsageInterval

/-- The instance of a row whose range is open. -/
def openFor (instanceId : String) (until? : Option ℤ) : Option String :=
  if until?.isNone then some instanceId else none

/-- A range that ends, ends after it begins. -/
def RangeCheck (start : ℤ) (end? : Option ℤ) : Prop := ∀ stop ∈ end?, start < stop

instance (start : ℤ) (end? : Option ℤ) : Decidable (RangeCheck start end?) :=
  inferInstanceAs (Decidable (∀ stop ∈ end?, start < stop))

/-- Primary keys, unique indexes and checks. -/
structure TimelineRows.Valid (rows : TimelineRows) : Prop where
  snapshotIds : (rows.snapshots.map PolicySnapshot.id).Nodup
  snapshotKeys : (rows.snapshots.map PolicySnapshot.idempotencyKey).Nodup
  snapshotActivations : (rows.snapshots.filterMap PolicySnapshot.activationRequestId).Nodup
  oneCurrentSnapshot :
    (rows.snapshots.filterMap fun row => openFor row.cloudInstanceId row.effectiveTo).Nodup
  snapshotRanges : ∀ row ∈ rows.snapshots, RangeCheck row.effectiveFrom row.effectiveTo
  rateIds : (rows.rates.map RateCardVersion.id).Nodup
  rateKeys : (rows.rates.map RateCardVersion.idempotencyKey).Nodup
  rateAmounts : ∀ row ∈ rows.rates, 0 ≤ row.normalizedProviderRial ∧ 0 ≤ row.customerRateRial ∧
    0 ≤ row.markupBasisPoints ∧ row.markupBasisPoints ≤ 100000
  versionIds : (rows.versions.map ResourceVersion.id).Nodup
  versionKeys : (rows.versions.map ResourceVersion.idempotencyKey).Nodup
  versionSources : (rows.versions.filterMap ResourceVersion.sourceChangeRequestId).Nodup
  oneCurrentVersion :
    (rows.versions.filterMap fun row => openFor row.cloudInstanceId row.effectiveTo).Nodup
  versionRanges : ∀ row ∈ rows.versions, RangeCheck row.effectiveFrom row.effectiveTo
  intervalIds : (rows.intervals.map UsageInterval.id).Nodup
  intervalKeys : (rows.intervals.map UsageInterval.idempotencyKey).Nodup
  oneOpenInterval :
    (rows.intervals.filterMap fun row => openFor row.cloudInstanceId row.endedAt).Nodup
  intervalRanges : ∀ row ∈ rows.intervals, RangeCheck row.startedAt row.endedAt

instance (rows : TimelineRows) : Decidable rows.Valid :=
  decidable_of_iff (_ ∧ _ ∧ _ ∧ _ ∧ _ ∧ _ ∧ _ ∧ _ ∧ _ ∧ _ ∧ _ ∧ _ ∧ _ ∧ _ ∧ _ ∧ _ ∧ _)
    ⟨fun ⟨h₁, h₂, h₃, h₄, h₅, h₆, h₇, h₈, h₉, h₁₀, h₁₁, h₁₂, h₁₃, h₁₄, h₁₅, h₁₆, h₁₇⟩ =>
      ⟨h₁, h₂, h₃, h₄, h₅, h₆, h₇, h₈, h₉, h₁₀, h₁₁, h₁₂, h₁₃, h₁₄, h₁₅, h₁₆, h₁₇⟩,
    fun h => ⟨h.1, h.2, h.3, h.4, h.5, h.6, h.7, h.8, h.9, h.10, h.11, h.12, h.13, h.14, h.15,
      h.16, h.17⟩⟩

structure Timeline extends TimelineRows where
  valid : toTimelineRows.Valid

namespace Timeline

/-- Write the tables, unless a constraint refuses the write. -/
def write (f : TimelineRows → TimelineRows) : Tx Timeline String Unit :=
  Tx.attempt "P2002" fun db =>
    if h : (f db.toTimelineRows).Valid then some ⟨f db.toTimelineRows, h⟩ else none

theorem commits_write {f : TimelineRows → TimelineRows} {db db' : Timeline} {u : Unit} :
    Tx.Commits (write f) db u db' ↔ db'.toTimelineRows = f db.toTimelineRows := by
  rw [write, Tx.commits_attempt]
  split
  · rw [Option.some.injEq]
    constructor
    · rintro rfl
      rfl
    · intro h
      cases db'
      cases h
      rfl
  · rename_i hinvalid
    simp only [false_iff, reduceCtorEq]
    intro h
    exact hinvalid (h ▸ db'.valid)

/-- No constraint is about the instances. -/
def setInstances (instances : List CloudInstance) (db : Timeline) : Timeline :=
  ⟨{ db.toTimelineRows with instances }, { db.valid with }⟩

end Timeline

/-! ## `lib/billing/start.ts` -/

inductive ActivationRequestStatus where
  | creditRequired
  | waitingAdminApproval
  | approved
  | provisioning
  | providerConfirmed
  | waitingDeliveryApproval
  | active
  | held
  | canceled
  deriving DecidableEq

/-- The plan of an activation. -/
structure ActivationPlan where
  id : String
  paygWallet : Bool
  vcpu : Option ℕ
  ramGb : Option ℕ
  storageGb : Option ℕ
  provider : InfrastructureProvider
  providerApiVersion : String
  productKind : InfrastructureProductKind
  regionCode : String
  sizeCode : String
  externalPlanId : Option String

structure ActivationRequest extends PendingService where
  id : String
  status : ActivationRequestStatus
  plan : ActivationPlan
  minimumCreditRequiredRial : ℤ

structure StartInput where
  cloudInstanceId : String
  providerConfirmedAt : ℤ
  activation : Option ActivationRequest
  contracts : List ProviderBillingContractVersion
  /-- The id that the new rows get. -/
  newId : String

/-- The contract of an activation at the time the provider confirms it. -/
def ActivationRequest.contractAt (activation : ActivationRequest)
    (contracts : List ProviderBillingContractVersion) (providerConfirmedAt : ℤ) :
    Except String VerifiedProviderBillingContract :=
  let plan := activation.plan
  match getVerifiedProviderBillingContractFromSnapshot contracts
    activation.providerBillingContractSnapshot
    ⟨plan.provider, plan.providerApiVersion, plan.productKind, providerConfirmedAt⟩ with
  | (some contract, []) => requireVerifiedProviderBillingContract contract
  | _ => .error "provider_billing_contract_unverified"

/-- The time terms of a contract; the tables refuse a negative minimum charge. -/
def VerifiedProviderBillingContract.timeTerms (contract : VerifiedProviderBillingContract) :
    Except String TimeTerms :=
  if contract.minimumChargeSeconds < 0 then .error "P2004"
  else .ok {
    calculationUnit := contract.calculationUnit
    minimumChargeSeconds := contract.minimumChargeSeconds.toNat
    roundingPolicy := contract.roundingPolicy
    prorationSupported := contract.prorationSupported }

/-- The resources of a plan; a plan without processors or memory has none. -/
def ActivationPlan.resources (plan : ActivationPlan) : Option (ℕ × ℕ × ℕ) :=
  match plan.vcpu, plan.ramGb, plan.storageGb with
  | some vcpu, some ramGb, some storageGb =>
      if plan.paygWallet ∧ vcpu ≠ 0 ∧ ramGb ≠ 0 then some (vcpu, ramGb, storageGb) else none
  | _, _, _ => none

/-- The rate card that a start creates. -/
def activationRate (activation : ActivationRequest) (timeTerms : TimeTerms)
    (providerConfirmedAt : ℤ) (id : String) : RateCardVersion where
  id
  planId := some activation.plan.id
  provider := activation.plan.provider
  providerApiVersion := activation.plan.providerApiVersion
  productKind := activation.plan.productKind
  externalPlanId := activation.estimateSnapshot.externalPlanId.getD
    (activation.plan.externalPlanId.getD activation.plan.sizeCode)
  regionCode := activation.plan.regionCode
  component := .compute
  resourceUnit := .inst
  rateCadence := none
  toTimeTerms := timeTerms
  providerCurrency := "IRR"
  providerAmountUnit := "RIAL"
  normalizedProviderRial := activation.estimateSnapshot.providerHourlyRial
  markupBasisPoints := activation.estimateSnapshot.markupBasisPoints
  customerRateRial := activation.estimateSnapshot.hourlyEstimateRial
  effectiveFrom := providerConfirmedAt
  effectiveTo := none
  idempotencyKey := s!"rate:activation:{activation.id}:compute"

/-- The policy snapshot that a start creates. -/
def activationSnapshot (activation : ActivationRequest) (contract : VerifiedProviderBillingContract)
    (timeTerms : TimeTerms) (cloudInstanceId : String) (providerConfirmedAt : ℤ) (id : String) :
    PolicySnapshot where
  id
  cloudInstanceId
  activationRequestId := some activation.id
  cadence := activation.selectedCadence
  timeTerms
  hourlyEstimateRial := some activation.estimateSnapshot.hourlyEstimateRial
  dailyEstimateRial := some activation.estimateSnapshot.dailyEstimateRial
  minimumCreditRial := activation.minimumCreditRequiredRial
  gracePeriods := match activation.selectedCadence with
    | .hourly => activation.billingPolicyVersion.hourlyGracePeriods
    | .daily => activation.billingPolicyVersion.dailyGracePeriods
  lowBalanceThresholdPeriods := activation.billingPolicyVersion.lowBalanceThresholdPeriods
  stopStateComponentPolicy := contract.stopStateBillableComponents
  effectiveFrom := providerConfirmedAt
  effectiveTo := none
  idempotencyKey := s!"billing-policy:activation:{activation.id}"

/-- The resource version that a start creates. -/
def activationVersion (activation : ActivationRequest) (cloud : CloudInstance)
    (resources : ℕ × ℕ × ℕ) (providerConfirmedAt : ℤ) (id : String) : ResourceVersion where
  id
  cloudInstanceId := cloud.id
  planId := activation.plan.id
  provider := cloud.provider
  sourceChangeRequestId := none
  state := .active
  vcpu := resources.1
  ramMb := resources.2.1 * 1024
  diskGb := resources.2.2
  ipv4Count := if cloud.ipv4.any (· ≠ "") then 1 else 0
  backupEnabled := false
  snapshotCount := 0
  effectiveFrom := providerConfirmedAt
  effectiveTo := none
  idempotencyKey := s!"resource:activation:{activation.id}"

/-- The first usage interval of a service. -/
def activationInterval (activation : ActivationRequest) (cloudInstanceId : String)
    (providerConfirmedAt : ℤ) (id : String) : UsageInterval where
  id
  cloudInstanceId
  resourceVersionId := id
  billingPolicySnapshotId := id
  status := .open
  startedAt := providerConfirmedAt
  endedAt := none
  idempotencyKey := s!"usage:activation:{activation.id}"

/-- The first policy snapshot, rate card, resource version and usage interval of a
service.  A second start of one activation returns what the first has made. -/
def startInitialUsageBillingTx (input : StartInput) : Tx Timeline String (Option PolicySnapshot) := do
  let db ← Tx.get
  let cloud ← Tx.orThrow "P2025" (db.instances.find? fun row => row.id = input.cloudInstanceId)
  match input.activation with
  | none => pure none
  | some activation =>
      match db.snapshots.find? fun row => row.activationRequestId = some activation.id with
      | some replay => pure (some replay)
      | none =>
          Tx.throwIf (activation.status ≠ .approved ∧ activation.status ≠ .provisioning)
            "activation_not_provider_confirmable"
          let resources ← Tx.orThrow "resource_snapshot_incomplete" activation.plan.resources
          let contract ← Tx.ofExcept
            (activation.contractAt input.contracts input.providerConfirmedAt)
          Tx.throwIf (activation.estimateSnapshot.providerHourlyRial < 0 ∨
            activation.estimateSnapshot.hourlyEstimateRial < 0 ∨
            activation.estimateSnapshot.dailyEstimateRial < 0) "billing_estimate_snapshot_invalid"
          let timeTerms ← Tx.ofExcept contract.timeTerms
          let snapshot := activationSnapshot activation contract timeTerms cloud.id
            input.providerConfirmedAt input.newId
          Timeline.write fun rows => { rows with
            snapshots := rows.snapshots ++ [snapshot]
            rates := rows.rates ++
              [activationRate activation timeTerms input.providerConfirmedAt input.newId]
            versions := rows.versions ++
              [activationVersion activation cloud resources input.providerConfirmedAt input.newId]
            intervals := rows.intervals ++
              [activationInterval activation cloud.id input.providerConfirmedAt input.newId] }
          pure (some snapshot)

/-! ## `lib/billing/resource-timeline.ts` -/

inductive ResourceChangeStatus where
  | requested
  | creditRequired
  | waitingAdminApproval
  | approved
  | providerMutationPending
  | providerConfirmed
  | applied
  | review
  | canceled
  deriving DecidableEq

structure ResourceChangeRequest where
  id : String
  cloudInstanceId : String
  status : ResourceChangeStatus

structure RecordInput where
  cloudInstanceId : String
  planId : String
  planProvider : InfrastructureProvider
  paygWallet : Bool
  resources : ResourceQuantitySnapshot
  providerEventId : String
  providerConfirmedAt : ℤ
  idempotencyKey : String
  sourceChangeRequest : Option ResourceChangeRequest
  now : ℤ
  newId : String

/-- The version that a confirmation creates. -/
def RecordInput.version (input : RecordInput) (cloud : CloudInstance) : ResourceVersion where
  toResourceQuantitySnapshot := input.resources
  id := input.newId
  cloudInstanceId := cloud.id
  planId := input.planId
  provider := cloud.provider
  sourceChangeRequestId := input.sourceChangeRequest.map ResourceChangeRequest.id
  effectiveFrom := input.providerConfirmedAt
  effectiveTo := none
  idempotencyKey := input.idempotencyKey

/-- The usage interval that a confirmation creates under a policy snapshot. -/
def RecordInput.interval (input : RecordInput) (snapshot : PolicySnapshot) : UsageInterval where
  id := input.newId
  cloudInstanceId := input.cloudInstanceId
  resourceVersionId := input.newId
  billingPolicySnapshotId := snapshot.id
  status := if snapshot.effectiveTo.isSome then .complete else .open
  startedAt := input.providerConfirmedAt
  endedAt := snapshot.effectiveTo
  idempotencyKey := s!"usage:{input.idempotencyKey}"

/-- The range contains an instant. -/
def inRange (start : ℤ) (end? : Option ℤ) (instant : ℤ) : Bool :=
  start ≤ instant && end?.all (instant < ·)

/-- `usageInterval.updateMany`: an interval of the old version that a confirmation cuts. -/
def cutInterval (cloudInstanceId versionId : String) (instant : ℤ) (row : UsageInterval) :
    UsageInterval :=
  if row.cloudInstanceId = cloudInstanceId ∧ row.resourceVersionId = versionId ∧
      row.startedAt < instant ∧ row.endedAt.all (instant < ·) = true then
    { row with status := .complete, endedAt := some instant }
  else row

/-- `usageInterval.updateMany`: a later interval goes over to the new version. -/
def moveInterval (cloudInstanceId versionId newVersionId : String) (instant : ℤ)
    (row : UsageInterval) : UsageInterval :=
  if row.cloudInstanceId = cloudInstanceId ∧ row.resourceVersionId = versionId ∧
      instant ≤ row.startedAt then
    { row with resourceVersionId := newVersionId }
  else row

/-- `resourceVersion.update`: the version ends. -/
def endVersion (versionId : String) (instant : ℤ) (row : ResourceVersion) : ResourceVersion :=
  if row.id = versionId then { row with effectiveTo := some instant } else row

/-- The version that is in force for an instance. -/
def TimelineRows.currentVersion (rows : TimelineRows) (cloudInstanceId : String) :
    Option ResourceVersion :=
  rows.versions.find? fun row => row.cloudInstanceId = cloudInstanceId ∧ row.effectiveTo = none

/-- The policy snapshot of an instance at an instant. -/
def TimelineRows.snapshotAt (rows : TimelineRows) (cloudInstanceId : String) (instant : ℤ) :
    Option PolicySnapshot :=
  rows.snapshots.find? fun row => row.cloudInstanceId = cloudInstanceId ∧
    inRange row.effectiveFrom row.effectiveTo instant = true

/-- End the version in force and cut and move its intervals. -/
def TimelineRows.replaceVersion (rows : TimelineRows) (current : ResourceVersion)
    (version : ResourceVersion) (instant : ℤ) : TimelineRows :=
  { rows with
    versions := rows.versions.map (endVersion current.id instant) ++ [version]
    intervals := (rows.intervals.map (cutInterval version.cloudInstanceId current.id instant)).map
      (moveInterval version.cloudInstanceId current.id version.id instant) }

/-- The interval of the new version that is there already. -/
def TimelineRows.scheduledInterval (rows : TimelineRows) (cloudInstanceId versionId : String)
    (snapshot : PolicySnapshot) (instant : ℤ) : Option UsageInterval :=
  rows.intervals.find? fun row => row.cloudInstanceId = cloudInstanceId ∧
    row.resourceVersionId = versionId ∧ row.billingPolicySnapshotId = snapshot.id ∧
    inRange row.startedAt row.endedAt instant = true

/-- The status of an instance whose resources have been confirmed. -/
def confirmInstance (cloudInstanceId : String) (state : ResourceVersionState)
    (row : CloudInstance) : CloudInstance :=
  if row.id = cloudInstanceId then
    { row with status := if state = .terminated then .terminated else .active }
  else row

def recordProviderConfirmedResourceVersion (input : RecordInput) :
    Tx Timeline String ResourceVersion := do
  Tx.throwIf (input.resources.vcpu = 0 ∨ input.resources.ramMb = 0)
    "invalid_provider_resource_snapshot"
  Tx.throwIf (Js.trim input.providerEventId = "" ∨ input.now + 60000 < input.providerConfirmedAt)
    "invalid_provider_confirmation"
  let db ← Tx.get
  match db.versions.find? fun row => row.idempotencyKey = input.idempotencyKey with
  | some replay => pure replay
  | none =>
      let cloud ← Tx.orThrow "P2025" (db.instances.find? fun row => row.id = input.cloudInstanceId)
      Tx.throwIf (input.planProvider ≠ cloud.provider) "resource_plan_provider_mismatch"
      let current := db.currentVersion cloud.id
      Tx.throwIf (current.any (input.providerConfirmedAt ≤ ·.effectiveFrom))
        "non_monotonic_resource_version"
      let snapshot := db.snapshotAt cloud.id input.providerConfirmedAt
      Tx.throwIf (snapshot.isNone ∧ input.paygWallet) "billing_policy_snapshot_missing"
      Tx.throwIf (input.sourceChangeRequest.any fun change => change.cloudInstanceId ≠ cloud.id ||
        (change.status ≠ .approved && change.status ≠ .providerMutationPending))
        "resource_change_not_provider_confirmable"
      let version := input.version cloud
      Timeline.write fun rows =>
        match current with
        | some current => rows.replaceVersion current version input.providerConfirmedAt
        | none => { rows with versions := rows.versions ++ [version] }
      let db ← Tx.get
      let missing := snapshot.filter fun snapshot =>
        (db.scheduledInterval cloud.id version.id snapshot input.providerConfirmedAt).isNone
      Timeline.write fun rows => { rows with
        intervals := rows.intervals ++ (missing.map input.interval).toList
        instances := rows.instances.map (confirmInstance cloud.id input.resources.state) }
      pure version

/-! ## `lib/billing/policy-admin.ts` -/

def periodMilliseconds : BillingCadence → ℤ
  | .hourly => 60 * 60 * 1000
  | .daily => 24 * 60 * 60 * 1000

structure Period where
  periodStart : ℤ
  periodEnd : ℤ
  deriving DecidableEq

def periodContainingUtc (cadence : BillingCadence) (instant : ℤ) : Period :=
  let start := instant - instant % periodMilliseconds cadence
  ⟨start, start + periodMilliseconds cadence⟩

def calculateMinimumCreditRial (policy : BillingPolicyVersion) (cadence : BillingCadence)
    (hourlyEstimateRial dailyEstimateRial : Option ℤ) (oneTimeChargesRial : ℤ) :
    Except String ℤ := do
  throwIf (!isCadenceAllowed policy.availability cadence) "billing_cadence_disabled"
  throwIf (oneTimeChargesRial < 0) "invalid_one_time_charge"
  match cadence with
  | .hourly =>
      match hourlyEstimateRial.filter (0 ≤ ·) with
      | some estimate => pure (estimate * policy.hourlyMinimumCreditHours + oneTimeChargesRial)
      | none => .error "hourly_estimate_unavailable"
  | .daily =>
      match dailyEstimateRial.filter (0 ≤ ·) with
      | some estimate => pure (estimate * policy.dailyMinimumCreditDays + oneTimeChargesRial)
      | none => .error "daily_estimate_unavailable"

structure CadenceInput where
  cloudInstanceId : String
  targetPolicy : BillingPolicyVersion
  targetCadence : BillingCadence
  effectiveFrom : ℤ
  receiptKey : String
  walletBalance : Option ℤ
  now : ℤ
  newId : String

/-- The snapshot that a change of cadence creates. -/
def CadenceInput.snapshot (input : CadenceInput) (current : PolicySnapshot)
    (minimumCreditRial : ℤ) : PolicySnapshot where
  id := input.newId
  cloudInstanceId := input.cloudInstanceId
  activationRequestId := none
  cadence := input.targetCadence
  timeTerms := input.targetPolicy.timeTerms
  hourlyEstimateRial := current.hourlyEstimateRial
  dailyEstimateRial := current.dailyEstimateRial
  minimumCreditRial
  gracePeriods := match input.targetCadence with
    | .hourly => input.targetPolicy.hourlyGracePeriods
    | .daily => input.targetPolicy.dailyGracePeriods
  lowBalanceThresholdPeriods := input.targetPolicy.lowBalanceThresholdPeriods
  stopStateComponentPolicy := input.targetPolicy.stopStateComponentPolicy
  effectiveFrom := input.effectiveFrom
  effectiveTo := none
  idempotencyKey := s!"billing-cadence:{input.cloudInstanceId}:{input.receiptKey}"

/-- The usage interval that a change of cadence creates. -/
def CadenceInput.interval (input : CadenceInput) (openUsage : UsageInterval) : UsageInterval where
  id := input.newId
  cloudInstanceId := input.cloudInstanceId
  resourceVersionId := openUsage.resourceVersionId
  billingPolicySnapshotId := input.newId
  status := .open
  startedAt := input.effectiveFrom
  endedAt := none
  idempotencyKey := s!"usage-cadence:{input.cloudInstanceId}:{input.receiptKey}"

def TimelineRows.currentSnapshot (rows : TimelineRows) (cloudInstanceId : String) :
    Option PolicySnapshot :=
  rows.snapshots.find? fun row => row.cloudInstanceId = cloudInstanceId ∧ row.effectiveTo = none

def TimelineRows.openInterval (rows : TimelineRows) (cloudInstanceId : String) :
    Option UsageInterval :=
  rows.intervals.find? fun row => row.cloudInstanceId = cloudInstanceId ∧ row.endedAt = none

/-- `serviceBillingPolicySnapshot.update`: the snapshot ends. -/
def endSnapshot (snapshotId : String) (instant : ℤ) (row : PolicySnapshot) : PolicySnapshot :=
  if row.id = snapshotId then { row with effectiveTo := some instant } else row

/-- `usageInterval.update`: the interval ends. -/
def endInterval (intervalId : String) (instant : ℤ) (row : UsageInterval) : UsageInterval :=
  if row.id = intervalId then { row with status := .complete, endedAt := some instant } else row

def scheduleServiceBillingCadenceChange (input : CadenceInput) :
    Tx Timeline String PolicySnapshot := do
  let db ← Tx.get
  let cloud ← Tx.orThrow "P2025" (db.instances.find? fun row => row.id = input.cloudInstanceId)
  let current ← Tx.orThrow "billing_cadence_change_not_eligible" (db.currentSnapshot cloud.id)
  let openUsage ← Tx.orThrow "billing_cadence_change_not_eligible" (db.openInterval cloud.id)
  Tx.throwIf (cloud.status ≠ .active) "billing_cadence_change_not_eligible"
  Tx.throwIf
    (input.effectiveFrom ≠ (periodContainingUtc current.cadence input.effectiveFrom).periodStart ∨
      input.effectiveFrom < (periodContainingUtc current.cadence input.now).periodEnd)
    "billing_cadence_boundary_required"
  Tx.throwIf (input.targetPolicy.planId ≠ some cloud.planId ∨
    input.effectiveFrom < input.targetPolicy.effectiveFrom ∨
    input.targetPolicy.effectiveTo.any (· ≤ input.effectiveFrom) = true)
    "billing_policy_unavailable"
  Tx.throwIf (!isCadenceAllowed input.targetPolicy.availability input.targetCadence)
    "billing_cadence_disabled"
  let minimumCreditRial ← Tx.ofExcept (calculateMinimumCreditRial input.targetPolicy
    input.targetCadence current.hourlyEstimateRial current.dailyEstimateRial 0)
  Tx.throwIf (input.walletBalance.all (· < minimumCreditRial)) "insufficient_credit"
  Tx.throwIf (db.snapshots.any fun row =>
    row.cloudInstanceId = cloud.id && input.now < row.effectiveFrom)
    "billing_cadence_change_pending"
  let next := input.snapshot current minimumCreditRial
  Timeline.write fun rows => { rows with
    snapshots := rows.snapshots.map (endSnapshot current.id input.effectiveFrom) ++ [next]
    intervals := rows.intervals.map (endInterval openUsage.id input.effectiveFrom) ++
      [input.interval openUsage] }
  pure next

end AbrChin.Billing
