import AbrChin.Finance.Configuration
import AbrChin.Lib.Run

/-!
# Publishing the finance configuration

`applyFinanceConfiguration` and `rollbackFinanceConfiguration` of
`lib/admin/finance-configuration.ts`, and the rows that they write.

A publish first completes its input: an omitted curve is the current one, and the omitted fields of a
protection level are those of its row.  It then writes every row in one transaction, under an
advisory lock that makes the transactions of two publishes wait for each other.  A revision keeps the
snapshot of the completed input; a rollback publishes the input that the snapshot gives back.

The sampled prices of a curve and the comparison of cards with quotes are checks over the catalog;
here a call carries what they say.  Ids and times are what the database generates for a call.  The
other columns of a row (who updated it, since when it applies) and audit records without a key are
left out.
-/

namespace AbrChin.Finance

open Lib Pricing

/-! ## The rows -/

structure FinanceCommerceConfig extends CommercePricingConfig where
  reminderDaysBeforeDue : ℤ
  suspendGraceDaysAfterZero : ℤ
  deleteDaysAfterSuspend : ℤ
  compassServicePrices : CompassServicePrices
  deriving DecidableEq

/-- The row of the published curve, without its bands. -/
structure ProfitCurveConfiguration where
  enabled : Bool
  minimumPostDiscountGrossMarginBps : ℤ
  activeRevisionId : Option String
  deriving DecidableEq

structure FinanceConfigurationRevision where
  id : String
  createdAt : String
  actorUserId : Option String
  reason : Option String
  rollbackOfId : Option String
  snapshot : FinanceSnapshot

/-- An audit record that has an idempotency key. -/
structure FinanceAudit where
  idempotencyKey : String
  entityId : String
  deriving DecidableEq

structure FinanceDb where
  providers : Table ProviderPricingConfig.provider
  products : Table ProductPricingConfig.key
  commerce : Option FinanceCommerceConfig
  parchin : Table fun row : ParchinContract => row.level
  priceDisplay : Option PriceDisplay
  curve : Option ProfitCurveConfiguration
  /-- The bands of the published curve, in their order. -/
  bands : List ProfitCurveBandInput
  revisions : Table FinanceConfigurationRevision.id
  auditLog : Table FinanceAudit.idempotencyKey

/-- A curve without bands counts as none. -/
def currentProfitCurve (row : Option ProfitCurveConfiguration) (bands : List ProfitCurveBandInput) :
    Option ProfitCurveConfigInput :=
  row.bind fun row =>
    if bands = [] then none
    else some ⟨row.enabled, row.minimumPostDiscountGrossMarginBps, bands⟩

def FinanceDb.loadCurrentProfitCurveConfig (db : FinanceDb) : Option ProfitCurveConfigInput :=
  currentProfitCurve db.curve db.bands

/-- What prices are made of. -/
def FinanceDb.pricingRows (db : FinanceDb) : PricingRows where
  providers := db.providers
  products := db.products
  commerce := db.commerce.map FinanceCommerceConfig.toCommercePricingConfig
  parchin := db.parchin.map ParchinContract.toParchinPricingConfig fun _ => rfl
  profitCurve := db.curve.map fun row =>
    ⟨row.enabled, row.minimumPostDiscountGrossMarginBps, db.bands⟩

/-! ## Calls -/

/-- What the checks over the catalog say. -/
structure FinanceChecks where
  /-- `validateProfitCurveMonotonicity` finds no issue. -/
  monotonic : List ProfitCurveBandInput → Bool
  /-- `checkCardQuoteParity` -/
  parity : FinanceConfigurationInput → Bool

/-- What the database generates for a call. -/
structure Generated where
  revisionId : String
  createdAt : String
  bandId : ℕ → String

structure FinanceCall where
  input : FinanceConfigurationInput
  actorUserId : Option String
  rollbackOfId : Option String
  idempotencyKey : Option String
  checks : FinanceChecks
  generated : Generated

/-- A string that is not empty. -/
def nonEmpty (text : Option String) : Option String := text.filter (· ≠ "")

def FinanceCall.auditIdempotencyKey (call : FinanceCall) : Option String :=
  (nonEmpty call.idempotencyKey).map fun key => s!"finance-config:{key}"

def FinanceCall.validate (call : FinanceCall) : Except FinanceConfigurationError Unit := do
  let _ ← validateFinanceConfiguration call.input (nonEmpty call.rollbackOfId).isSome

/-- The curve that is published, when this is the current one. -/
def FinanceCall.profitCurve (call : FinanceCall) (current : Option ProfitCurveConfigInput) :
    ProfitCurveConfigInput :=
  call.input.profitCurve.getD (current.getD defaultProfitCurveConfig)

/-- The checks of the curve and of the prices that it gives. -/
def FinanceCall.check (call : FinanceCall) (profitCurve : ProfitCurveConfigInput) :
    Except FinanceConfigurationError Unit := do
  throwIf (validateProfitCurveStructure profitCurve ≠ []) .invalidProfitCurve
  throwIf (call.checks.monotonic profitCurve.bands = false) .profitCurveNotMonotonic
  throwIf (call.checks.parity { call.input with profitCurve := some profitCurve } = false)
    .cardQuoteParityFailed

/-- A publish before its transaction. -/
structure PreparedPublish where
  call : FinanceCall
  profitCurve : ProfitCurveConfigInput
  input : FinanceConfigurationInput
  snapshot : FinanceSnapshot

def FinanceCall.mergedInput (call : FinanceCall) (profitCurve : ProfitCurveConfigInput)
    (existing : ParchinLevel → Option ParchinContract) : FinanceConfigurationInput :=
  { call.input with
    profitCurve := some profitCurve
    parchin := call.input.parchin.map fun item =>
      mergeParchinInputWithExisting item (existing item.level) }

def FinanceCall.prepare (call : FinanceCall) (profitCurve : ProfitCurveConfigInput)
    (existing : ParchinLevel → Option ParchinContract) :
    Except FinanceConfigurationError PreparedPublish := do
  let input := call.mergedInput profitCurve existing
  let snapshot ← (financeConfigurationSnapshot input).mapError .thrown
  pure { call, profitCurve, input, snapshot }

/-! ## The transaction -/

/-- The revision that was published under the key of a call. -/
def FinanceDb.replayed (db : FinanceDb) (call : FinanceCall) :
    Option FinanceConfigurationRevision := do
  let key ← call.auditIdempotencyKey
  let _ ← nonEmpty call.actorUserId
  let prior ← db.auditLog.find? key
  db.revisions.find? prior.entityId

def upsertProvider (table : Table ProviderPricingConfig.provider) (item : FinanceProviderInput) :
    Except FinanceConfigurationError (Table ProviderPricingConfig.provider) := do
  let markupBasisPoints ← (grossMarginBpsToMarkupBps item.targetGrossMarginBps).mapError .thrown
  pure (table.upsert ⟨item.provider, "v1", item.enabled, markupBasisPoints⟩
    (fun row => { row with markupBasisPoints, enabled := item.enabled }) fun _ => rfl)

def upsertProduct (table : Table ProductPricingConfig.key) (item : FinanceProductMarkupInput) :
    Except FinanceConfigurationError (Table ProductPricingConfig.key) :=
  pure (table.upsert
    ⟨item.provider, "v1", item.productKind, item.markupBasisPoints, item.enabled⟩
    (fun row => { row with markupBasisPoints := item.markupBasisPoints, enabled := item.enabled })
    fun _ => rfl)

/-- The row of a level after a publish: where the input is `null`, the old value stays. -/
def ParchinContract.published (item : FinanceParchinInput) (existing : ParchinContract) :
    ParchinContract :=
  { existing with
    title := item.title
    subtitle := item.subtitle.join <|> existing.subtitle
    description := item.description
    priceRial := item.priceRial
    active := item.active
    includedServices := item.includedServices.getD []
    excludedServices := item.excludedServices.getD []
    supportWindow := item.supportWindow.join <|> existing.supportWindow
    firstResponseTarget := item.firstResponseTarget.join <|> existing.firstResponseTarget
    version :=
      if parchinContractMateriallyChanged existing item then existing.version + 1
      else existing.version }

def updateParchin (table : Table fun row : ParchinContract => row.level)
    (item : FinanceParchinInput) :
    Except FinanceConfigurationError (Table fun row : ParchinContract => row.level) :=
  match table.find? item.level with
  | none => .error .invalidConfiguration
  | some _ => pure (table.modify item.level (ParchinContract.published item) fun _ => rfl)

/-- A band without an id gets one. -/
def createdBand (bandId : ℕ → String) (index : ℕ) (band : ProfitCurveBandInput) :
    ProfitCurveBandInput :=
  { band with id := some ((nonEmpty band.id).getD (bandId index)) }

/-- The bands are created in their order; ids and sort orders are unique. -/
def createBands (bandId : ℕ → String) (bands : List ProfitCurveBandInput) :
    Except FinanceConfigurationError (List ProfitCurveBandInput) := do
  let created := (sortBands bands).mapIdx (createdBand bandId)
  throwIf (¬ (created.map ProfitCurveBandInput.id).Nodup ∨
    ¬ (created.map ProfitCurveBandInput.sortOrder).Nodup) (.thrown "P2002")
  pure created

def PreparedPublish.commerce (prepared : PreparedPublish) : FinanceCommerceConfig where
  taxBps := prepared.input.taxBps
  minimumPostDiscountGrossMarginBps := prepared.profitCurve.minimumPostDiscountGrossMarginBps
  reminderDaysBeforeDue := prepared.input.reminderDaysBeforeDue
  suspendGraceDaysAfterZero := prepared.input.suspendGraceDaysAfterZero
  deleteDaysAfterSuspend := prepared.input.deleteDaysAfterSuspend
  compassServicePrices := prepared.input.compassServicePrices

def PreparedPublish.revision (prepared : PreparedPublish) : FinanceConfigurationRevision where
  id := prepared.call.generated.revisionId
  createdAt := prepared.call.generated.createdAt
  actorUserId := prepared.call.actorUserId
  reason := nonEmpty (prepared.input.reason.map Js.trim)
  rollbackOfId := prepared.call.rollbackOfId
  snapshot := prepared.snapshot

/-- The row is created; a key that is taken fails the transaction. -/
def create {ρ : Type} {key : ρ → String} (table : Table key) (row : ρ) :
    Except FinanceConfigurationError (Table key) :=
  match table.insert? row with
  | some later => .ok later
  | none => .error (.thrown "P2002")

/-- The audit record of a publish, when an administrator has sent it with a key. -/
def writeAuditLog (prepared : PreparedPublish) (table : Table FinanceAudit.idempotencyKey) :
    Except FinanceConfigurationError (Table FinanceAudit.idempotencyKey) :=
  match nonEmpty prepared.call.actorUserId, prepared.call.auditIdempotencyKey with
  | some _, some key => create table ⟨key, prepared.revision.id⟩
  | _, _ => .ok table

/-- The writes of a publish. -/
def PreparedPublish.write (prepared : PreparedPublish) (db : FinanceDb) :
    Except FinanceConfigurationError (FinanceConfigurationRevision × FinanceDb) := do
  let providers ← prepared.input.providers.foldlM upsertProvider db.providers
  let products ← prepared.input.productMarkups.foldlM upsertProduct db.products
  let parchin ← prepared.input.parchin.foldlM updateParchin db.parchin
  let bands ← createBands prepared.call.generated.bandId prepared.profitCurve.bands
  let revisions ← create db.revisions prepared.revision
  let auditLog ← writeAuditLog prepared db.auditLog
  pure (prepared.revision, {
    providers
    products
    commerce := some prepared.commerce
    parchin
    priceDisplay := some prepared.input.priceDisplay
    curve := some {
      enabled := prepared.profitCurve.enabled
      minimumPostDiscountGrossMarginBps := prepared.profitCurve.minimumPostDiscountGrossMarginBps
      activeRevisionId := some prepared.revision.id }
    bands
    revisions
    auditLog })

/-- The transaction of a publish. -/
def PreparedPublish.commit (prepared : PreparedPublish) (db : FinanceDb) :
    Except FinanceConfigurationError (FinanceConfigurationRevision × FinanceDb) :=
  match db.replayed prepared.call with
  | some revision => .ok (revision, db)
  | none => prepared.write db

/-! ## A call that nothing overlaps -/

structure RollbackCall where
  revisionId : String
  actorUserId : Option String
  reason : Option String
  idempotencyKey : Option String
  checks : FinanceChecks
  generated : Generated

/-- What a rollback publishes. -/
def RollbackCall.call (rollback : RollbackCall) (db : FinanceDb) :
    Except FinanceConfigurationError FinanceCall :=
  match db.revisions.find? rollback.revisionId with
  | none => .error .revisionNotFound
  | some revision => .ok {
      input := { financeInputFromSnapshot revision.snapshot with
        reason := some ((nonEmpty (rollback.reason.map Js.trim)).getD
          s!"بازگشت به نسخه {revision.createdAt}") }
      actorUserId := rollback.actorUserId
      rollbackOfId := some revision.id
      idempotencyKey := rollback.idempotencyKey
      checks := rollback.checks
      generated := rollback.generated }

inductive FinanceRequest where
  | apply (call : FinanceCall)
  | rollback (params : RollbackCall)

def FinanceRequest.call (request : FinanceRequest) (db : FinanceDb) :
    Except FinanceConfigurationError FinanceCall :=
  match request with
  | .apply call => .ok call
  | .rollback params => params.call db

/-- What a call publishes, when it reads these rows. -/
def FinanceCall.prepareFrom (call : FinanceCall) (db : FinanceDb) :
    Except FinanceConfigurationError PreparedPublish := do
  call.validate
  let profitCurve := call.profitCurve db.loadCurrentProfitCurveConfig
  call.check profitCurve
  call.prepare profitCurve db.parchin.find?

def FinanceRequest.publish (request : FinanceRequest) (db : FinanceDb) :
    Except FinanceConfigurationError (FinanceConfigurationRevision × FinanceDb) := do
  let call ← request.call db
  let prepared ← call.prepareFrom db
  prepared.commit db

/-- A request on its own: what fails changes nothing. -/
def execute (db : FinanceDb) (request : FinanceRequest) :
    FinanceDb × Except FinanceConfigurationError FinanceConfigurationRevision :=
  match request.publish db with
  | .ok (revision, later) => (later, .ok revision)
  | .error e => (db, .error e)

/-! ## What a publish leaves -/

section Written

variable {prepared : PreparedPublish} {db later : FinanceDb}
  {revision : FinanceConfigurationRevision}

/-- The unique columns of the row of a product. -/
def FinanceProductMarkupInput.key (item : FinanceProductMarkupInput) :
    InfrastructureProvider × String × InfrastructureProductKind :=
  (item.provider, "v1", item.productKind)

theorem find?_upsertProvider {table next : Table ProviderPricingConfig.provider}
    {item : FinanceProviderInput} (h : upsertProvider table item = .ok next) :
    ∃ markupBasisPoints, grossMarginBpsToMarkupBps item.targetGrossMarginBps = .ok markupBasisPoints ∧
      next.find? = Function.update table.find? item.provider
        (some ((table.find? item.provider).elim ⟨item.provider, "v1", item.enabled, markupBasisPoints⟩
          fun row => { row with markupBasisPoints, enabled := item.enabled })) := by
  obtain ⟨markup, hmarkup, h⟩ := bind_eq_ok.1 h
  cases h
  refine ⟨markup, ?_, Table.find?_upsert⟩
  cases hbps : grossMarginBpsToMarkupBps item.targetGrossMarginBps with
  | error e =>
      rw [hbps] at hmarkup
      cases hmarkup
  | ok found =>
      rw [hbps] at hmarkup
      cases hmarkup
      rfl

theorem find?_upsertProduct {table next : Table ProductPricingConfig.key}
    {item : FinanceProductMarkupInput} (h : upsertProduct table item = .ok next) :
    next.find? = Function.update table.find? item.key
      (some ((table.find? item.key).elim
        ⟨item.provider, "v1", item.productKind, item.markupBasisPoints, item.enabled⟩ fun row =>
          { row with markupBasisPoints := item.markupBasisPoints, enabled := item.enabled })) := by
  cases h
  exact Table.find?_upsert

theorem find?_updateParchin {table next : Table fun row : ParchinContract => row.level}
    {item : FinanceParchinInput} (h : updateParchin table item = .ok next) :
    ∃ existing, table.find? item.level = some existing ∧ next.find? =
      Function.update table.find? item.level (some (existing.published item)) := by
  unfold updateParchin at h
  cases hfind : table.find? item.level with
  | none =>
      rw [hfind] at h
      cases h
  | some existing =>
      rw [hfind] at h
      cases h
      refine ⟨existing, rfl, funext fun level => ?_⟩
      refine (Table.find?_modify (f := ParchinContract.published item) (fun _ => rfl) level).trans ?_
      by_cases hlevel : level = item.level
      · subst hlevel
        rw [if_pos rfl, hfind, Function.update_self]
        rfl
      · rw [if_neg hlevel, Function.update_of_ne hlevel]

theorem bands_of_createBands {bandId : ℕ → String} {bands created : List ProfitCurveBandInput}
    (h : createBands bandId bands = .ok created) :
    created.map ProfitCurveBandInput.unnamed =
      (sortBands bands).map ProfitCurveBandInput.unnamed := by
  obtain ⟨_, -, h⟩ := bind_eq_ok.1 h
  cases h
  exact map_mapIdx fun _ _ _ => rfl

/-- What the transaction of a publish has written. -/
structure Written (prepared : PreparedPublish) (db : FinanceDb)
    (revision : FinanceConfigurationRevision) (later : FinanceDb) : Prop where
  revision : revision = prepared.revision
  providers : prepared.input.providers.foldlM upsertProvider db.providers = .ok later.providers
  products : prepared.input.productMarkups.foldlM upsertProduct db.products = .ok later.products
  parchin : prepared.input.parchin.foldlM updateParchin db.parchin = .ok later.parchin
  bands : createBands prepared.call.generated.bandId prepared.profitCurve.bands = .ok later.bands
  commerce : later.commerce = some prepared.commerce
  priceDisplay : later.priceDisplay = some prepared.input.priceDisplay
  curve : later.curve = some {
    enabled := prepared.profitCurve.enabled
    minimumPostDiscountGrossMarginBps := prepared.profitCurve.minimumPostDiscountGrossMarginBps
    activeRevisionId := some prepared.revision.id }
  revisions : db.revisions.insert? prepared.revision = some later.revisions

theorem insert?_of_create {ρ : Type} {key : ρ → String} {table later : Table key} {row : ρ}
    (h : create table row = .ok later) : table.insert? row = some later := by
  unfold create at h
  cases hinsert : table.insert? row with
  | none =>
      rw [hinsert] at h
      cases h
  | some created =>
      rw [hinsert] at h
      cases h
      rfl

theorem written_of_write (h : prepared.write db = .ok (revision, later)) :
    Written prepared db revision later := by
  unfold PreparedPublish.write at h
  obtain ⟨providers, hproviders, h⟩ := bind_eq_ok.1 h
  obtain ⟨products, hproducts, h⟩ := bind_eq_ok.1 h
  obtain ⟨parchin, hparchin, h⟩ := bind_eq_ok.1 h
  obtain ⟨bands, hbands, h⟩ := bind_eq_ok.1 h
  obtain ⟨revisions, hrevisions, h⟩ := bind_eq_ok.1 h
  obtain ⟨auditLog, -, h⟩ := bind_eq_ok.1 h
  cases h
  exact ⟨rfl, hproviders, hproducts, hparchin, hbands, rfl, rfl, rfl, insert?_of_create hrevisions⟩

/-- The transaction of a publish either finds it published or writes it. -/
theorem commit_cases (h : prepared.commit db = .ok (revision, later)) :
    (db.replayed prepared.call = some revision ∧ later = db) ∨
      (db.replayed prepared.call = none ∧ Written prepared db revision later) := by
  unfold PreparedPublish.commit at h
  cases hreplayed : db.replayed prepared.call with
  | some prior =>
      rw [hreplayed] at h
      cases h
      exact .inl ⟨rfl, rfl⟩
  | none =>
      rw [hreplayed] at h
      exact .inr ⟨rfl, written_of_write h⟩

/-- Revisions stay. -/
theorem Written.find?_revision (h : Written prepared db revision later) {id : String}
    {old : FinanceConfigurationRevision} (hold : db.revisions.find? id = some old) :
    later.revisions.find? id = some old := by
  obtain ⟨hmem, rfl⟩ := Table.find?_eq_some.1 hold
  exact Table.find?_of_mem ((Table.mem_insert? h.revisions).2 (.inl hmem))

theorem Written.find?_new (h : Written prepared db revision later) :
    later.revisions.find? revision.id = some revision := by
  rw [h.revision]
  exact Table.find?_of_mem ((Table.mem_insert? h.revisions).2 (.inr rfl))

/-- What a request on its own does. -/
theorem execute_cases (db : FinanceDb) (request : FinanceRequest) :
    (∃ e, execute db request = (db, .error e)) ∨
      ∃ call prepared revision later, request.call db = .ok call ∧
        call.prepareFrom db = .ok prepared ∧ prepared.commit db = .ok (revision, later) ∧
        execute db request = (later, .ok revision) := by
  unfold execute
  cases hpublish : request.publish db with
  | error e => exact .inl ⟨e, rfl⟩
  | ok result =>
      obtain ⟨call, hcall, h⟩ := bind_eq_ok.1 hpublish
      obtain ⟨prepared, hprepared, h⟩ := bind_eq_ok.1 h
      exact .inr ⟨call, prepared, result.1, result.2, hcall, hprepared, h, rfl⟩

/-- What a call has prepared. -/
theorem prepared_of_prepare {call : FinanceCall} {profitCurve : ProfitCurveConfigInput}
    {existing : ParchinLevel → Option ParchinContract}
    (h : call.prepare profitCurve existing = .ok prepared) :
    prepared.call = call ∧ prepared.profitCurve = profitCurve ∧
      prepared.input = call.mergedInput profitCurve existing ∧
      financeConfigurationSnapshot prepared.input = .ok prepared.snapshot := by
  obtain ⟨snapshot, hsnapshot, h⟩ := bind_eq_ok.1 h
  cases h
  refine ⟨rfl, rfl, rfl, ?_⟩
  cases hsame : financeConfigurationSnapshot (call.mergedInput profitCurve existing) with
  | error e =>
      rw [hsame] at hsnapshot
      cases hsnapshot
  | ok found =>
      rw [hsame] at hsnapshot
      cases hsnapshot
      rfl

theorem prepared_of_prepareFrom {call : FinanceCall}
    (h : call.prepareFrom db = .ok prepared) :
    prepared.profitCurve = call.profitCurve db.loadCurrentProfitCurveConfig ∧
      prepared.input = call.mergedInput prepared.profitCurve db.parchin.find? ∧
      financeConfigurationSnapshot prepared.input = .ok prepared.snapshot ∧
      call.input.providers ≠ [] ∧ prepared.call = call := by
  obtain ⟨_, hvalid, h⟩ := bind_eq_ok.1 h
  obtain ⟨_, -, h⟩ := bind_eq_ok.1 h
  obtain ⟨hcall, hcurve, hinput, hsnapshot⟩ := prepared_of_prepare h
  refine ⟨hcurve, ?_, hsnapshot, ?_, hcall⟩
  · rw [hcurve]
    exact hinput
  · obtain ⟨_, hguardrail, -⟩ := bind_eq_ok.1 hvalid
    obtain ⟨_, hproviders, -⟩ := bind_eq_ok.1 hguardrail
    exact throwIf_eq_ok.1 hproviders

end Written

/-! ## A small configuration -/

/-- The form with these products: the curve is omitted, and one protection level is listed. -/
def sampleBody (productMarkups : List FinanceProductMarkupInput) : FinanceConfigurationBody where
  providers := [⟨.arvan, 3000, true⟩]
  productMarkups
  taxBps := 1000
  reminderDaysBeforeDue := 7
  suspendGraceDaysAfterZero := 7
  deleteDaysAfterSuspend := 7
  compassServicePrices := {}
  parchin := [⟨.start, some "Start", none, some 5000000, true⟩]
  priceDisplay := {}
  profitCurve := none
  reason := none
  highMarginConfirmation := none

def sampleInput (productMarkups : List FinanceProductMarkupInput) : FinanceConfigurationInput where
  providers := [⟨.arvan, 3000, true⟩]
  productMarkups
  taxBps := 1000
  reminderDaysBeforeDue := 7
  suspendGraceDaysAfterZero := 7
  deleteDaysAfterSuspend := 7
  compassServicePrices := ⟨0, 0, 0, 0, 0⟩
  parchin := [{ level := .start, title := "Start", description := none, priceRial := 5000000, active := true }]
  priceDisplay := ⟨true, true, true⟩
  profitCurve := none

theorem parse_sampleBody (productMarkups : List FinanceProductMarkupInput) :
    parseFinanceConfigurationBody (sampleBody productMarkups) = .ok (sampleInput productMarkups) := by
  rfl

/-- The rows as they are seeded, with one protection level. -/
def sampleDb : FinanceDb where
  providers := (sampleRows none).providers
  products := (sampleRows none).products
  commerce := none
  parchin := ⟨[{
    level := .start
    priceRial := 5000000
    active := true
    operationalEvidenceApprovedAt := some 0
    version := 1
    title := "Start"
    subtitle := none
    description := none
    includedServices := ["setup"]
    excludedServices := []
    supportWindow := none
    firstResponseTarget := none }], by decide⟩
  priceDisplay := none
  curve := none
  bands := []
  revisions := Table.empty
  auditLog := Table.empty

end AbrChin.Finance
