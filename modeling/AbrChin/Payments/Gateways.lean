import AbrChin.Lib.Program
import AbrChin.Payments.Providers

/-!
# The payment gateways of the site

`lib/payments/gateway-config.ts`: one row a gateway, one of them the default.  Two calls of the administrators
write the rows, `updateGatewayConfig` and `makeGatewayDefault`.  Both look at the flags of the rows first, and
take no lock for it; a write takes the lock of its row and keeps it until the transaction ends.

`updateMany` is a statement over several rows: it lists the rows that match when it begins (`listing`), and then
goes from one to the next, waits for its lock, looks again whether it still matches, and writes it (`promoting`).
A row that has come to match since is not on the list.

Any number of administrators work at the same time, and the statements of their transactions interleave in every
way.  The audit log, which no check looks at, is left out.
-/

namespace AbrChin.Payments

open Lib

/-! ## The rows -/

inductive PaymentGatewayEnvironment where
  | production
  | sandbox
  | development
  deriving DecidableEq

structure PaymentGatewayConfig where
  enabled : Bool
  isDefault : Bool
  priority : ℤ
  environment : PaymentGatewayEnvironment
  deriving DecidableEq

/-- Every gateway has its row (`ensureGatewayConfigsSeeded`). -/
abbrev GatewayConfigs (_ : PaymentGatewayProvider) : Type := PaymentGatewayConfig

abbrev GatewayDb : Type := PaymentGatewayProvider → PaymentGatewayConfig

inductive GatewayError where
  | configuration
  | invalidEnvironment
  | defaultLocked
  | lastGateway
  deriving DecidableEq

abbrev GatewayScript (α : Type) : Type := Script GatewayConfigs GatewayError α

/-- What the server is configured with, and the order in which a statement meets the rows. -/
structure GatewayEnv where
  isProduction : Bool
  hasServerCredentials : PaymentGatewayProvider → Bool
  scan : List PaymentGatewayProvider
  complete : ∀ provider, provider ∈ scan
  nodup : scan.Nodup

variable (env : GatewayEnv)

/-- `getDefaultGatewayConfig` -/
def getDefaultGatewayConfig (db : GatewayDb) : Option PaymentGatewayProvider :=
  env.scan.find? fun provider => (db provider).enabled && (db provider).isDefault

/-! ## `updateGatewayConfig` -/

structure UpdateGatewayParams where
  provider : PaymentGatewayProvider
  enabled : Option Bool := none
  priority : Option ℤ := none
  environment : Option PaymentGatewayEnvironment := none

def UpdateGatewayParams.nextEnabled (params : UpdateGatewayParams) (current : PaymentGatewayConfig) : Bool :=
  params.enabled.getD current.enabled

def UpdateGatewayParams.apply (params : UpdateGatewayParams) (current row : PaymentGatewayConfig) :
    PaymentGatewayConfig :=
  { row with
    enabled := params.nextEnabled current
    priority := params.priority.getD current.priority
    environment := params.environment.getD current.environment }

/-- The enabled gateways that could take the place of the gateway. -/
def remainingGateways (provider : PaymentGatewayProvider) (db : GatewayDb) : ℕ :=
  (env.scan.filter fun other => (db other).enabled && other ≠ .mock && other ≠ provider).length

/-- The reads of `updateGatewayConfig`, and what it refuses. -/
def checkUpdate (params : UpdateGatewayParams) : GatewayScript PaymentGatewayConfig := do
  let current ← Script.get params.provider
  Script.throwIf (params.nextEnabled current = true ∧ env.hasServerCredentials params.provider = false)
    .configuration
  Script.throwIf (env.isProduction = true ∧ params.provider = .mock ∧ params.nextEnabled current = true)
    .invalidEnvironment
  Script.throwIf (current.isDefault = true ∧ params.nextEnabled current = false) .defaultLocked
  Script.onlyIf (env.isProduction = true ∧ current.enabled = true ∧ params.nextEnabled current = false) (do
    let remaining ← Script.query (remainingGateways env params.provider)
    Script.throwIf (remaining < 1) .lastGateway)
  pure current

/-- The write of `updateGatewayConfig`. -/
def writeUpdate (params : UpdateGatewayParams) (current : PaymentGatewayConfig) : GatewayScript Unit := do
  let _ ← Script.updateMany params.provider fun row => some (params.apply current row)
  pure ()

/-! ## `makeGatewayDefault` -/

/-- The first reads of `makeGatewayDefault`, and what it refuses. -/
def checkPromotion (target : PaymentGatewayProvider) : GatewayScript Unit := do
  let _target ← Script.get target
  Script.throwIf (env.hasServerCredentials target = false) .configuration
  Script.throwIf (env.isProduction = true ∧ target = .mock) .invalidEnvironment
  let _previousDefault ← Script.query fun db => env.scan.find? fun provider => (db provider).isDefault
  pure ()

/-- The rows that the `updateMany` of `makeGatewayDefault` lists. -/
def listDefaults (db : GatewayDb) : List PaymentGatewayProvider :=
  env.scan.filter fun provider => (db provider).isDefault

def unsetDefault (row : PaymentGatewayConfig) : Option PaymentGatewayConfig :=
  if row.isDefault = true then some { row with isDefault := false } else none

def PaymentGatewayConfig.promoted (row : PaymentGatewayConfig) : PaymentGatewayConfig :=
  { row with isDefault := true, enabled := true }

/-! ## The calls -/

inductive GatewayCall where
  | updateGatewayConfig (params : UpdateGatewayParams)
  | makeGatewayDefault (target : PaymentGatewayProvider)

/-- How far a call has come. -/
inductive GatewayPoint where
  | checkingUpdate (params : UpdateGatewayParams)
  /-- The checks have been passed on the row as it has been read. -/
  | updating (params : UpdateGatewayParams) (current : PaymentGatewayConfig)
  | checkingPromotion (target : PaymentGatewayProvider)
  /-- The checks have been passed, and the defaults are listed next. -/
  | listing (target : PaymentGatewayProvider)
  /-- Some rows of the list are still to be visited. -/
  | promoting (target : PaymentGatewayProvider) (rows : List PaymentGatewayProvider)

abbrev GatewayNext : Type := Next GatewayPoint Unit

/-- The statements of a call from a point on. -/
def gatewayScript : GatewayPoint → GatewayScript GatewayNext
  | .checkingUpdate params => do
      let current ← checkUpdate env params
      pure (.goto (.updating params current))
  | .updating params current => do
      writeUpdate params current
      pure (.answer ())
  | .checkingPromotion target => do
      checkPromotion env target
      pure (.goto (.listing target))
  | .listing target => do
      let rows ← Script.query (listDefaults env)
      pure (.goto (.promoting target rows))
  | .promoting target (row :: rest) => do
      let _ ← Script.updateMany row unsetDefault
      pure (.goto (.promoting target rest))
  | .promoting target [] => do
      let _ ← Script.updateMany target fun row => some row.promoted
      pure (.answer ())

/-- A call is one transaction. -/
def gatewayProgram : Program GatewayConfigs GatewayError GatewayPoint Unit GatewayCall Empty where
  start
    | .updateGatewayConfig params => .checkingUpdate params
    | .makeGatewayDefault target => .checkingPromotion target
  script := gatewayScript env
  ends _ := false
  world event := nomatch event

/-- The administrators, and what is committed. -/
abbrev GatewaySystem : Type := Clients ℕ GatewayConfigs GatewayError GatewayPoint Unit

abbrev GatewayEvent : Type := ClientEvent ℕ GatewayCall Empty

abbrev GatewaySession : Type := Session GatewayConfigs GatewayError GatewayNext

end AbrChin.Payments
