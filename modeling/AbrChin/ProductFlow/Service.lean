import AbrChin.Js.Json
import AbrChin.Lib.Table
import AbrChin.Lib.Versions
import AbrChin.Pricing.PlanPricing
import AbrChin.ProductFlow.StateMachine

/-!
# Transitions of the product flow

`lib/product-flow/service.ts`.  A session, a service order and an infrastructure order may be in
the flow, each with its state and its revision.  A transition moves the owners that it names, one
to three of them, and writes a row to a log.

The lookup of the key, the states of the owners and the configuration of the session are read
without a lock: `seen` is what these reads saw, in the order in which the code makes them.  The
updates compare the state and the revision again, on the rows that they lock.
-/

namespace AbrChin.ProductFlow

open Lib Js

inductive OwnerKind where
  | recommendationSession
  | serviceOrder
  | infrastructureOrder
  deriving DecidableEq

/-- What the flow reads and writes of a row of one of the three tables. -/
structure OwnerRow where
  id : String
  productFlowState : Option String
  productFlowRevision : ℤ
  deriving DecidableEq

/-- What the flow reads of the configuration of a session. -/
structure SessionConfiguration where
  sessionId : String
  selectedParchinLevel : Option Pricing.ParchinLevel
  deliveryConfiguration : Option Json

structure ProductFlowTransition where
  recommendationSessionId : Option String
  serviceOrderId : Option String
  infrastructureOrderId : Option String
  fromState : String
  toState : String
  reason : Option String
  metadata : Option Json
  idempotencyKey : String
  ownerFingerprint : String
  fromRevision : ℤ
  toRevision : ℤ
  actorUserId : Option String

structure FlowDb where
  owners : OwnerKind → Table OwnerRow.id
  configurations : Table SessionConfiguration.sessionId
  productFlowTransitions : Table ProductFlowTransition.idempotencyKey

inductive FlowError where
  | invalidProductFlowTransition (fromState toState : ProductFlowState)
  | productFlowOwnerRequired
  | productFlowStateConflict
  | productFlowIdempotencyConflict
  | productFlowInvariantFailed
  /-- A constraint of a table refuses a write. -/
  | constraint
  deriving DecidableEq

/-! ## Owners -/

structure ProductFlowOwner where
  recommendationSessionId : Option String := none
  serviceOrderId : Option String := none
  infrastructureOrderId : Option String := none
  deriving DecidableEq

/-- The id of the owner of some kind; an empty id names nobody. -/
def ProductFlowOwner.named (owner : ProductFlowOwner) : OwnerKind → Option String
  | .recommendationSession => owner.recommendationSessionId.filter (· ≠ "")
  | .serviceOrder => owner.serviceOrderId.filter (· ≠ "")
  | .infrastructureOrder => owner.infrastructureOrderId.filter (· ≠ "")

def ownerFingerprint (owner : ProductFlowOwner) : Except FlowError String := do
  let values := [owner.recommendationSessionId.getD "-", owner.serviceOrderId.getD "-",
    owner.infrastructureOrderId.getD "-"]
  throwIf (∀ value ∈ values, value = "-") .productFlowOwnerRequired
  pure (":".intercalate values)

structure ProductFlowTransitionInput where
  owner : ProductFlowOwner
  fromState : ProductFlowState
  toState : ProductFlowState
  idempotencyKey : String
  reason : String
  metadata : Option Json := none
  actorUserId : Option String := none

def assertProductFlowTransition (fromState toState : ProductFlowState) : Except FlowError Unit :=
  throwIf (canTransitionProductFlow fromState toState = false)
    (.invalidProductFlowTransition fromState toState)

/-- Before its delivery is configured, and before it is quoted, a session has a level and a
configuration. -/
def assertTransitionInvariant (input : ProductFlowTransitionInput) (seen : FlowDb) :
    Except FlowError Unit :=
  match input.owner.named .recommendationSession with
  | none => .ok ()
  | some sessionId =>
      let session := seen.configurations.find? sessionId
      throwIf ((input.toState = .deliveryConfigured ∨ input.toState = .quoted) ∧
        ¬ ((session.bind SessionConfiguration.selectedParchinLevel).isSome ∧
          (session.bind SessionConfiguration.deliveryConfiguration).any fun
            | .object _ => true
            | _ => false)) .productFlowInvariantFailed

/-- The state that a column stands for. -/
def currentState (productFlowState : Option String) : Option ProductFlowState :=
  match productFlowState with
  | none => some .draft
  | some value => isProductFlowState value

structure OwnerState where
  state : ProductFlowState
  revision : ℤ
  deriving DecidableEq

/-- The rows of the named owners that are there, each as a read of its own saw it. -/
def presentRows (owner : ProductFlowOwner) (seen : ℕ → FlowDb) : List OwnerRow :=
  let read := fun (kind : OwnerKind) (place : ℕ) =>
    (owner.named kind).bind fun id => ((seen place).owners kind).find? id
  [read .recommendationSession 0, read .serviceOrder 1, read .infrastructureOrder 2].filterMap
    fun row => row

def currentOwnerState (owner : ProductFlowOwner) (seen : ℕ → FlowDb) :
    Except FlowError OwnerState := do
  match presentRows owner seen with
  | [] => .error .productFlowStateConflict
  | first :: rest =>
      let some state := currentState first.productFlowState | .error .productFlowStateConflict
      throwIf (∃ row ∈ rest, currentState row.productFlowState ≠ some state ∨
        row.productFlowRevision ≠ first.productFlowRevision) .productFlowStateConflict
      pure ⟨state, first.productFlowRevision⟩

def assertProductFlowOwnerState (owner : ProductFlowOwner) (expected : ProductFlowState)
    (seen : ℕ → FlowDb) : Except FlowError OwnerState := do
  let current ← currentOwnerState owner seen
  throwIf (current.state ≠ expected) .productFlowStateConflict
  pure current

/-! ## `transitionProductFlowTx` -/

/-- The `where` clause of an update: a session that has no state yet is a draft, but an order
without a state is not. -/
def OwnerRow.isAt (row : OwnerRow) (kind : OwnerKind) (state : ProductFlowState) (revision : ℤ) :
    Bool :=
  row.productFlowRevision = revision &&
    (row.productFlowState = some (stateText state) ||
      (kind = .recommendationSession && state = .draft && row.productFlowState = none))

def OwnerRow.advance (row : OwnerRow) (toState : ProductFlowState) : OwnerRow :=
  { row with
    productFlowState := some (stateText toState)
    productFlowRevision := row.productFlowRevision + 1 }

@[simp] theorem OwnerRow.id_advance (row : OwnerRow) (toState : ProductFlowState) :
    (row.advance toState).id = row.id := rfl

/-- `updateMany` of the owner of a kind; the call throws unless it updates one row. -/
def updateOwner (input : ProductFlowTransitionInput) (revision : ℤ) (kind : OwnerKind) :
    Tx FlowDb FlowError Unit :=
  match input.owner.named kind with
  | none => pure ()
  | some id => Tx.attempt .productFlowStateConflict fun db =>
      ((db.owners kind).updateIf? id (·.isAt kind input.fromState revision)
        (·.advance input.toState) fun row => row.id_advance input.toState).map
        fun rows => { db with owners := Function.update db.owners kind rows }

/-- The row that a transition writes. -/
def ProductFlowTransitionInput.transition (input : ProductFlowTransitionInput)
    (fingerprint : String) (revision : ℤ) : ProductFlowTransition where
  recommendationSessionId := input.owner.recommendationSessionId
  serviceOrderId := input.owner.serviceOrderId
  infrastructureOrderId := input.owner.infrastructureOrderId
  fromState := stateText input.fromState
  toState := stateText input.toState
  reason := some input.reason
  metadata := input.metadata
  idempotencyKey := input.idempotencyKey
  ownerFingerprint := fingerprint
  fromRevision := revision
  toRevision := revision + 1
  actorUserId := input.actorUserId

/-- What the replay check compares. -/
def ProductFlowTransition.differs (existing : ProductFlowTransition)
    (input : ProductFlowTransitionInput) (fingerprint : String) : Prop :=
  existing.ownerFingerprint ≠ fingerprint ∨ existing.fromState ≠ stateText input.fromState ∨
    existing.toState ≠ stateText input.toState ∨ existing.reason ≠ some input.reason ∨
    (existing.metadata.getD .null).stableJson ≠ (input.metadata.getD .null).stableJson

instance (existing : ProductFlowTransition) (input : ProductFlowTransitionInput)
    (fingerprint : String) : Decidable (existing.differs input fingerprint) :=
  inferInstanceAs (Decidable (_ ∨ _))

def transitionProductFlowTx (input : ProductFlowTransitionInput) (seen : ℕ → FlowDb) :
    Tx FlowDb FlowError ProductFlowTransition := do
  Tx.ofExcept (assertProductFlowTransition input.fromState input.toState)
  let fingerprint ← Tx.ofExcept (ownerFingerprint input.owner)
  match (seen 0).productFlowTransitions.find? input.idempotencyKey with
  | some existing => do
      Tx.throwIf (existing.differs input fingerprint) .productFlowIdempotencyConflict
      pure existing
  | none => do
      let current ← Tx.ofExcept (currentOwnerState input.owner fun place => seen (place + 1))
      Tx.throwIf (current.state ≠ input.fromState) .productFlowStateConflict
      Tx.ofExcept (assertTransitionInvariant input (seen 4))
      updateOwner input current.revision .recommendationSession
      updateOwner input current.revision .serviceOrder
      updateOwner input current.revision .infrastructureOrder
      let transition := input.transition fingerprint current.revision
      Tx.attempt .constraint fun db => (db.productFlowTransitions.insert? transition).map
        ({ db with productFlowTransitions := · })
      pure transition

/-! ## Runs of calls -/

/-- A call of `transitionProductFlow`, or the creation of a row that joins the flow somewhere. -/
inductive FlowCall where
  | transition (input : ProductFlowTransitionInput)
  | join (kind : OwnerKind) (row : OwnerRow)

/-- The transaction of a call. -/
def FlowCall.tx : FlowCall → (ℕ → FlowDb) → Tx FlowDb FlowError (Option ProductFlowTransition)
  | transition input, seen => do
      let row ← transitionProductFlowTx input seen
      pure (some row)
  | join kind row, _ => do
      Tx.attempt .constraint fun db => ((db.owners kind).insert? row).map
        fun rows => { db with owners := Function.update db.owners kind rows }
      pure none

/-- One call on the flow with its versions. -/
def stepFlow : Versions FlowDb → Versions.Call FlowCall →
    Versions FlowDb × Except FlowError (Option ProductFlowTransition) :=
  Versions.step FlowCall.tx

end AbrChin.ProductFlow
