import AbrChin.Orders.Schema

/-!
# What a provider may still have of an order

`lib/infrastructure/resource-disposition.ts`, as far as it decides about refunds: an order may
have a resource at its provider as long as its server is not terminated, or an attempt to create
one has not been confirmed to have left none.
-/

namespace AbrChin.Orders

open Lib Js
open ProductFlow (stateText)

def providerAttemptMayHaveResource (job : ProvisioningJob) : Bool :=
  job.createSentAt.isSome || (job.providerTaskId.filter (· ≠ "")).isSome ||
    (job.providerResourceId.filter (· ≠ "")).isSome || job.status = .needsReconciliation ||
    job.lastErrorCode = some "provider_ambiguous" || job.lastErrorCode = some "provider_timeout"

/-- The order in which attempts are sorted, the latest one first.  Ids are compared by code
units, as the locale compares the ids that are generated. -/
def ProvisioningJob.isLater (left right : ProvisioningJob) : Bool :=
  right.attempt < left.attempt || (right.attempt = left.attempt &&
    (right.createdAt < left.createdAt || (right.createdAt = left.createdAt && right.id < left.id)))

def latestCreateAttempt (jobs : List ProvisioningJob) : Option ProvisioningJob :=
  (jobs.filter fun job => job.operation = "create_instance").foldl
    (fun latest job => if latest.all job.isLater then some job else latest) none

inductive DispositionReason where
  | resourceTerminated
  | resourceNotTerminated
  | createNeverSent
  | reconciliationRequired
  | reconciliationStale
  | latestAttemptConfirmedAbsent
  deriving DecidableEq

def DispositionReason.safe : DispositionReason → Bool
  | .resourceTerminated | .createNeverSent | .latestAttemptConfirmedAbsent => true
  | .resourceNotTerminated | .reconciliationRequired | .reconciliationStale => false

def assessRefundResourceSafety (infra : InfrastructureOrder) (cloudInstance : Option CloudInstance)
    (absenceAuditMatches : Bool) : DispositionReason :=
  match cloudInstance with
  | some cloud =>
      if cloud.status = .terminated ∧ cloud.terminatedAt.isSome then .resourceTerminated
      else .resourceNotTerminated
  | none =>
      let riskyJobs := infra.provisioningJobs.filter providerAttemptMayHaveResource
      if riskyJobs.length = 0 then .createNeverSent
      else match latestCreateAttempt infra.provisioningJobs, infra.reconcileNoResourceConfirmedAt with
        | some latest, some confirmedAt =>
            if infra.reconcileNoResourceConfirmedJobId ≠ some latest.id ∨
                infra.reconcileNoResourceConfirmedAttempt ≠ some latest.attempt ∨
                absenceAuditMatches = false then .reconciliationRequired
            else if ∃ job ∈ riskyJobs, job.id ≠ latest.id ∧
                (latest.attempt < job.attempt ∨ confirmedAt < job.createdAt) then
              .reconciliationStale
            else .latestAttemptConfirmedAbsent
        | _, _ => .reconciliationRequired

def absenceAuditMatchesAttempt (audit : Option AbsenceAudit) (infra : InfrastructureOrder) : Bool :=
  audit.any fun audit =>
    let data := fun name => audit.afterData.bind (Json.field name)
    audit.action = "reconciliation" && audit.entityType = "infrastructure_order" &&
      audit.entityId = some infra.id &&
      (match data "noResourceConfirmed" with
        | some (.bool true) => true
        | _ => false) &&
      (match data "provisioningJobId", infra.reconcileNoResourceConfirmedJobId with
        | some (.string id), some confirmed => id = confirmed
        | some .null, none => true
        | _, _ => false) &&
      (match data "attempt", infra.reconcileNoResourceConfirmedAttempt with
        | some (.number attempt), some confirmed => attempt = confirmed
        | some .null, none => true
        | _, _ => false)

/-- The audit log that confirms the absence of what an attempt would have created. -/
def absenceAuditOf (infra : InfrastructureOrder) (seen : ServiceDb) : Option AbsenceAudit :=
  match infra.reconcileNoResourceConfirmedJobId.filter (· ≠ ""),
      infra.reconcileNoResourceConfirmedAttempt with
  | some jobId, some attempt =>
      seen.absenceAudits.find? s!"provider-absence-confirmed:{infra.id}:{jobId}:{attempt}"
  | _, _ => none

/-- `assessInfrastructureRecoveryActions`: whether the allowed actions have the refund. -/
def refundAllowed (infra : InfrastructureOrder) (productFlowState : Option String)
    (cloudInstance : Option CloudInstance) (absenceAuditMatches : Bool) : Bool :=
  let safe := (assessRefundResourceSafety infra cloudInstance absenceAuditMatches).safe
  let inState := fun states : List ProductFlow.ProductFlowState =>
    states.any fun state => productFlowState = some (stateText state)
  let hasCloudInstance := cloudInstance.isSome
  let first :=
    if infra.status = .needsReconciliation ∧ ¬ hasCloudInstance then false
    else if (infra.status = .failed ∨ infra.status = .manualReview) ∧ ¬ hasCloudInstance ∧
        inState [.provisioningManualReview] then safe
    else if infra.status = .failed ∧ ¬ hasCloudInstance ∧ inState [.provisioningRetryable] ∧ safe then
      true
    else if infra.status = .waitingAdminFunding ∧ ¬ hasCloudInstance ∧
        inState [.provisioningManualReview] then safe
    else false
  first ||
    (safe && !hasCloudInstance &&
      (infra.status = .waitingAdminFunding || infra.status = .blockedProviderBalance ||
        infra.status = .canceled) &&
      inState [.paid, .provisioningRetryable, .provisioningManualReview, .cancelled]) ||
    (safe && (cloudInstance.any fun cloud => cloud.status = .terminated) &&
      (infra.status = .failed || infra.status = .manualReview || infra.status = .canceled) &&
      inState [.provisioningRetryable, .provisioningManualReview, .cancelled]) ||
    (infra.status = .manualReview && inState [.provisioningManualReview] && hasCloudInstance && safe)

/-! ## `assessInfrastructureRecoveryActions` -/

inductive InfrastructureRecoveryAction where
  | reconcile
  | retry
  | healthRetry
  | healthObserve
  | healthRecovery
  | refund
  | confirmNoResource
  deriving DecidableEq

/-- What an admin may do with an order that is stuck. -/
def assessInfrastructureRecoveryActions (infra : InfrastructureOrder)
    (productFlowState : Option String) (cloudInstance : Option CloudInstance)
    (absenceAuditMatches : Bool) : List InfrastructureRecoveryAction :=
  let safe := (assessRefundResourceSafety infra cloudInstance absenceAuditMatches).safe
  let inState := fun states : List ProductFlow.ProductFlowState =>
    states.any fun state => productFlowState = some (stateText state)
  let hasCloudInstance := cloudInstance.isSome
  let latestSnapshotInvalid := (latestCreateAttempt infra.provisioningJobs).any fun job =>
    job.lastErrorCode = some "provider_lock_incomplete"
  let first : List InfrastructureRecoveryAction :=
    if infra.status = .needsReconciliation ∧ ¬ hasCloudInstance then
      [.reconcile, .confirmNoResource]
    else if (infra.status = .failed ∨ infra.status = .manualReview) ∧ ¬ hasCloudInstance ∧
        inState [.provisioningManualReview] then
      if ¬ safe then [.reconcile, .confirmNoResource]
      else if latestSnapshotInvalid then [.refund]
      else [.retry, .refund]
    else if infra.status = .failed ∧ ¬ hasCloudInstance ∧ inState [.provisioningRetryable] ∧ safe then
      [.retry, .refund]
    else if infra.status = .waitingAdminFunding ∧ ¬ hasCloudInstance ∧
        inState [.provisioningManualReview] then
      if safe then [.retry, .refund] else [.reconcile, .confirmNoResource]
    else []
  let unmade : List InfrastructureRecoveryAction :=
    if .refund ∉ first ∧ safe ∧ ¬ hasCloudInstance ∧
        (infra.status = .waitingAdminFunding ∨ infra.status = .blockedProviderBalance ∨
          infra.status = .canceled) ∧
        inState [.paid, .provisioningRetryable, .provisioningManualReview, .cancelled] then [.refund]
    else []
  let terminated :=
    if .refund ∉ first ++ unmade ∧ safe ∧
        (cloudInstance.any fun cloud => cloud.status = .terminated) ∧
        (infra.status = .failed ∨ infra.status = .manualReview ∨ infra.status = .canceled) ∧
        inState [.provisioningRetryable, .provisioningManualReview, .cancelled] then [.refund]
    else []
  let failedCheck :=
    if inState [.healthCheckFailed] ∧ hasCloudInstance then [.healthRetry] else []
  let review :=
    if infra.status = .manualReview ∧ inState [.provisioningManualReview] ∧ hasCloudInstance then
      [.healthObserve, .healthRecovery] ++ if safe then [.refund] else []
    else []
  first ++ unmade ++ terminated ++ failedCheck ++ review

/-- The refund is one of the actions exactly when `refundAllowed` says so. -/
theorem refund_mem_assessInfrastructureRecoveryActions (infra : InfrastructureOrder)
    (productFlowState : Option String) (cloudInstance : Option CloudInstance) (audit : Bool) :
    .refund ∈ assessInfrastructureRecoveryActions infra productFlowState cloudInstance audit ↔
      refundAllowed infra productFlowState cloudInstance audit = true := by
  unfold assessInfrastructureRecoveryActions refundAllowed
  simp only [List.mem_append]
  generalize (assessRefundResourceSafety infra cloudInstance audit).safe = safe
  generalize cloudInstance.isSome = hasCloudInstance
  cases infra.status <;> cases safe <;> cases hasCloudInstance <;> simp <;> grind

end AbrChin.Orders
