import AbrChin.Lib.Transaction

/-!
# The product flow

`lib/product-flow/state-machine.ts`.  A state is stored as text, and the text of the column is
checked when it is read.
-/

namespace AbrChin.ProductFlow

inductive ProductFlowState where
  | draft
  | understandingConfirmed
  | requirementsComplete
  | recommended
  | parchinSelected
  | deliveryConfigured
  | quoted
  | activationRequested
  | authRequired
  | awaitingPayment
  | paid
  | provisionApproved
  | provisioningSubmitted
  | provisioning
  | healthChecking
  | waitingAdminDeliveryApproval
  | delivered
  | active
  | quoteExpired
  | paymentReview
  | provisioningRetryable
  | provisioningReconciling
  | provisioningManualReview
  | healthCheckFailed
  | deliveryRetryable
  | cancelled
  deriving DecidableEq

open ProductFlowState

def productFlowStates : List ProductFlowState :=
  [draft, understandingConfirmed, requirementsComplete, recommended, parchinSelected,
    deliveryConfigured, quoted, activationRequested, authRequired, awaitingPayment, paid,
    provisionApproved, provisioningSubmitted, provisioning, healthChecking,
    waitingAdminDeliveryApproval, delivered, active, quoteExpired, paymentReview,
    provisioningRetryable, provisioningReconciling, provisioningManualReview, healthCheckFailed,
    deliveryRetryable, cancelled]

/-- The state as it is stored. -/
def stateText : ProductFlowState → String
  | draft => "DRAFT"
  | understandingConfirmed => "UNDERSTANDING_CONFIRMED"
  | requirementsComplete => "REQUIREMENTS_COMPLETE"
  | recommended => "RECOMMENDED"
  | parchinSelected => "PARCHIN_SELECTED"
  | deliveryConfigured => "DELIVERY_CONFIGURED"
  | quoted => "QUOTED"
  | activationRequested => "ACTIVATION_REQUESTED"
  | authRequired => "AUTH_REQUIRED"
  | awaitingPayment => "AWAITING_PAYMENT"
  | paid => "PAID"
  | provisionApproved => "PROVISION_APPROVED"
  | provisioningSubmitted => "PROVISIONING_SUBMITTED"
  | provisioning => "PROVISIONING"
  | healthChecking => "HEALTH_CHECKING"
  | waitingAdminDeliveryApproval => "WAITING_ADMIN_DELIVERY_APPROVAL"
  | delivered => "DELIVERED"
  | active => "ACTIVE"
  | quoteExpired => "QUOTE_EXPIRED"
  | paymentReview => "PAYMENT_REVIEW"
  | provisioningRetryable => "PROVISIONING_RETRYABLE"
  | provisioningReconciling => "PROVISIONING_RECONCILING"
  | provisioningManualReview => "PROVISIONING_MANUAL_REVIEW"
  | healthCheckFailed => "HEALTH_CHECK_FAILED"
  | deliveryRetryable => "DELIVERY_RETRYABLE"
  | cancelled => "CANCELLED"

/-- The states that may follow a state. -/
def transitions : ProductFlowState → List ProductFlowState
  | draft => [understandingConfirmed, cancelled]
  | understandingConfirmed => [draft, requirementsComplete, cancelled]
  | requirementsComplete => [understandingConfirmed, recommended, cancelled]
  | recommended => [understandingConfirmed, requirementsComplete, parchinSelected, cancelled]
  | parchinSelected =>
      [understandingConfirmed, requirementsComplete, recommended, deliveryConfigured, cancelled]
  | deliveryConfigured =>
      [understandingConfirmed, parchinSelected, requirementsComplete, quoted, cancelled]
  | quoted =>
      [activationRequested, authRequired, awaitingPayment, quoteExpired, deliveryConfigured,
        understandingConfirmed, requirementsComplete, cancelled]
  | authRequired => [awaitingPayment, quoteExpired, cancelled]
  | activationRequested => [provisionApproved, quoteExpired, cancelled]
  | awaitingPayment => [paid, paymentReview, quoteExpired, cancelled]
  | paid => [provisionApproved, provisioningSubmitted, provisioningManualReview, cancelled]
  | provisionApproved => [provisioningSubmitted, provisioningManualReview, cancelled]
  | provisioningSubmitted =>
      [provisioning, provisioningReconciling, provisioningRetryable, provisioningManualReview]
  | provisioning =>
      [healthChecking, provisioningReconciling, provisioningRetryable, provisioningManualReview]
  | healthChecking => [waitingAdminDeliveryApproval, healthCheckFailed]
  | waitingAdminDeliveryApproval => [delivered, provisioningManualReview, cancelled]
  | delivered => [active, deliveryRetryable]
  | active => []
  | quoteExpired =>
      [understandingConfirmed, requirementsComplete, recommended, deliveryConfigured, cancelled]
  | paymentReview => [awaitingPayment, paid, cancelled]
  | provisioningRetryable =>
      [provisioningSubmitted, provisioningReconciling, provisioningManualReview, cancelled]
  | provisioningReconciling =>
      [provisioning, healthChecking, provisioningRetryable, provisioningManualReview]
  | provisioningManualReview =>
      [provisioningReconciling, provisioningRetryable, provisioningSubmitted, healthChecking,
        cancelled]
  | healthCheckFailed => [healthChecking, provisioningManualReview, cancelled]
  | deliveryRetryable => [delivered, provisioningManualReview, cancelled]
  | cancelled => []

/-- `isProductFlowState`: the state that a text stands for. -/
def isProductFlowState (value : String) : Option ProductFlowState :=
  productFlowStates.find? fun state => stateText state = value

def canTransitionProductFlow (fromState toState : ProductFlowState) : Bool :=
  (transitions fromState).contains toState

@[simp] theorem isProductFlowState_text (state : ProductFlowState) :
    isProductFlowState (stateText state) = some state := by
  cases state <;> decide

end AbrChin.ProductFlow
