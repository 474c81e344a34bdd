import AbrChin.Js.Value
import AbrChin.Pricing.SamePricing

/-!
# The finance configuration

`lib/admin/finance-configuration.ts` and `lib/admin/finance-configuration-parse.ts`: what an
administrator publishes, what is refused, the snapshot that a revision keeps, and the input that a
snapshot gives back for a rollback.

A body is typed here: its numbers are integers, its prices are decimal numerals, and its enumerated
fields have one of their values; the parser and the validation refuse everything else.  Messages are
left out, an error is its code.
-/

namespace AbrChin.Finance

open Lib Pricing

inductive FinanceConfigurationError where
  | invalidMargin
  | marginConfirmationRequired
  | cardQuoteParityFailed
  | invalidConfiguration
  | invalidProfitCurve
  | profitCurveNotMonotonic
  | revisionNotFound
  /-- An error of another module, or of the database. -/
  | thrown (message : String)
  deriving DecidableEq

/-! ## What is published -/

structure FinanceProviderInput where
  provider : InfrastructureProvider
  targetGrossMarginBps : ℤ
  enabled : Bool
  deriving DecidableEq

structure FinanceProductMarkupInput where
  provider : InfrastructureProvider
  productKind : InfrastructureProductKind
  markupBasisPoints : ℤ
  enabled : Bool
  deriving DecidableEq

/-- A level of protection.  A field that may be omitted is an option, over the option of `null`. -/
structure FinanceParchinInput where
  level : ParchinLevel
  title : String
  subtitle : Option (Option String) := none
  description : Option String
  priceRial : ℤ
  active : Bool
  includedServices : Option (List String) := none
  excludedServices : Option (List String) := none
  supportWindow : Option (Option String) := none
  firstResponseTarget : Option (Option String) := none
  deriving DecidableEq

/-- The prices of `COMPASS_SERVICE_CODES`. -/
structure CompassServicePrices where
  siteMigration : ℕ
  initialSetup : ℕ
  domainSsl : ℕ
  backupRestore : ℕ
  architectureLight : ℕ
  deriving DecidableEq

structure PriceDisplay where
  showHourlyPrice : Bool
  showDailyPrice : Bool
  showMonthlyPrice : Bool
  deriving DecidableEq

structure FinanceConfigurationInput where
  providers : List FinanceProviderInput
  productMarkups : List FinanceProductMarkupInput
  taxBps : ℤ
  reminderDaysBeforeDue : ℤ
  suspendGraceDaysAfterZero : ℤ
  deleteDaysAfterSuspend : ℤ
  compassServicePrices : CompassServicePrices
  parchin : List FinanceParchinInput
  priceDisplay : PriceDisplay
  profitCurve : Option ProfitCurveConfigInput
  reason : Option String := none
  highMarginConfirmation : Option String := none

/-! ## Profit curves as JSON -/

structure ProfitCurveBandJson where
  id : Option String
  sortOrder : Option ℤ
  minProviderCostRial : Option ℤ
  maxProviderCostRial : Option ℤ
  targetGrossMarginBps : ℤ
  equivalentMarkupBps : Option ℤ := none

structure ProfitCurveJson where
  enabled : Option Bool
  minimumPostDiscountGrossMarginBps : Option ℤ
  bands : Option (List ProfitCurveBandJson)
  transitions : List ProfitCurveTransition := []

def serializeProfitCurveBand (band : ProfitCurveBandInput) (index : ℕ) :
    Except String ProfitCurveBandJson := do
  let equivalentMarkupBps ← grossMarginBpsToMarkupBps band.targetGrossMarginBps
  pure {
    id := some (bandIdOf band index)
    sortOrder := some band.sortOrder
    minProviderCostRial := some band.minProviderCostRial
    maxProviderCostRial := band.maxProviderCostRial
    targetGrossMarginBps := band.targetGrossMarginBps
    equivalentMarkupBps := some equivalentMarkupBps }

def serializeProfitCurveConfig (config : ProfitCurveConfigInput) :
    Except String ProfitCurveJson := do
  let bands ← (sortBands config.bands).zipIdx.mapM fun (band, index) =>
    serializeProfitCurveBand band index
  let transitions ← deriveProfitCurveTransitions config.bands
  pure {
    enabled := some config.enabled
    minimumPostDiscountGrossMarginBps := some config.minimumPostDiscountGrossMarginBps
    bands := some bands
    transitions }

def parseProfitCurveBand (index : ℕ) (item : ProfitCurveBandJson) : ProfitCurveBandInput where
  id := some (item.id.getD s!"band-{index}")
  sortOrder := item.sortOrder.getD index
  minProviderCostRial := item.minProviderCostRial.getD 0
  maxProviderCostRial := item.maxProviderCostRial
  targetGrossMarginBps := item.targetGrossMarginBps

def parseProfitCurveConfig (value : ProfitCurveJson) : Option ProfitCurveConfigInput :=
  value.bands.map fun bands => {
    enabled := value.enabled ≠ some false
    minimumPostDiscountGrossMarginBps :=
      value.minimumPostDiscountGrossMarginBps.getD defaultMinimumPostDiscountGrossMarginBps
    bands := bands.mapIdx parseProfitCurveBand }

def defaultProfitCurveConfig : ProfitCurveConfigInput where
  enabled := true
  minimumPostDiscountGrossMarginBps := defaultMinimumPostDiscountGrossMarginBps
  bands := defaultProfitCurveBands

/-! ## The body of a request -/

structure FinanceParchinBody where
  level : ParchinLevel
  title : Option String
  description : Option String
  priceRial : Option ℕ
  active : Bool

structure CompassServicePricesBody where
  siteMigration : Option ℕ := none
  initialSetup : Option ℕ := none
  domainSsl : Option ℕ := none
  backupRestore : Option ℕ := none
  architectureLight : Option ℕ := none

structure PriceDisplayBody where
  showHourlyPrice : Option Bool := none
  showDailyPrice : Option Bool := none
  showMonthlyPrice : Option Bool := none

structure FinanceConfigurationBody where
  providers : List FinanceProviderInput
  productMarkups : List FinanceProductMarkupInput
  taxBps : ℤ
  reminderDaysBeforeDue : ℤ
  suspendGraceDaysAfterZero : ℤ
  deleteDaysAfterSuspend : ℤ
  compassServicePrices : CompassServicePricesBody
  parchin : List FinanceParchinBody
  priceDisplay : PriceDisplayBody
  profitCurve : Option ProfitCurveJson
  reason : Option String
  highMarginConfirmation : Option String

def parseProfitCurveBody : Option ProfitCurveJson →
    Except String (Option ProfitCurveConfigInput)
  | none => .ok none
  | some raw =>
      match parseProfitCurveConfig raw with
      | none => .error "invalid_configuration_body"
      | some parsed => .ok (some parsed)

/-- The services, the windows and the subtitle of a level are not in the form. -/
def parseFinanceParchinBody (item : FinanceParchinBody) : Except String FinanceParchinInput :=
  match item.priceRial with
  | none => .error "invalid_configuration_body"
  | some priceRial => .ok {
      level := item.level
      title := Js.trim (item.title.getD "")
      description := item.description.map Js.trim
      priceRial := priceRial
      active := item.active }

/-- Strict body parser for `PATCH /api/admin/finance/configuration`. -/
def parseFinanceConfigurationBody (body : FinanceConfigurationBody) :
    Except String FinanceConfigurationInput := do
  throwIf (body.providers = []) "invalid_configuration_body"
  let parchin ← body.parchin.mapM parseFinanceParchinBody
  let profitCurve ← parseProfitCurveBody body.profitCurve
  pure {
    providers := body.providers
    productMarkups := body.productMarkups
    taxBps := body.taxBps
    reminderDaysBeforeDue := body.reminderDaysBeforeDue
    suspendGraceDaysAfterZero := body.suspendGraceDaysAfterZero
    deleteDaysAfterSuspend := body.deleteDaysAfterSuspend
    compassServicePrices := {
      siteMigration := body.compassServicePrices.siteMigration.getD 0
      initialSetup := body.compassServicePrices.initialSetup.getD 0
      domainSsl := body.compassServicePrices.domainSsl.getD 0
      backupRestore := body.compassServicePrices.backupRestore.getD 0
      architectureLight := body.compassServicePrices.architectureLight.getD 0 }
    parchin
    priceDisplay := {
      showHourlyPrice := body.priceDisplay.showHourlyPrice ≠ some false
      showDailyPrice := body.priceDisplay.showDailyPrice ≠ some false
      showMonthlyPrice := body.priceDisplay.showMonthlyPrice ≠ some false }
    profitCurve
    reason := body.reason
    highMarginConfirmation := body.highMarginConfirmation }

/-! ## Validation -/

inductive MarginGuardrailLevel where
  | ok
  | warn
  | confirm
  deriving DecidableEq

def evaluateMarginGuardrail (marginBps : ℤ) : Except String MarginGuardrailLevel :=
  if marginBps < 0 ∨ 10000 ≤ marginBps then .error "invalid_gross_margin"
  else if 7000 ≤ marginBps then .ok .confirm
  else if 5000 ≤ marginBps then .ok .warn
  else .ok .ok

/-- The stronger of two levels. -/
def MarginGuardrailLevel.raise (strongest level : MarginGuardrailLevel) : MarginGuardrailLevel :=
  if level = .confirm then .confirm
  else if level = .warn ∧ strongest = .ok then .warn
  else strongest

/-- `guardrailForProviders` and `guardrailForProvidersAndCurve` over the margins they look at. -/
def guardrailForMargins (margins : List ℤ) : Except String MarginGuardrailLevel :=
  margins.foldlM (fun strongest margin => do
    let level ← evaluateMarginGuardrail margin
    pure (strongest.raise level)) .ok

/-- `HIGH_MARGIN_CONFIRMATION_PHRASE` -/
def highMarginConfirmationPhrase : String := "تایید حاشیه بالا"

/-- The margins that a publish may have to confirm. -/
def FinanceConfigurationInput.margins (input : FinanceConfigurationInput) : List ℤ :=
  input.providers.map FinanceProviderInput.targetGrossMarginBps ++
    match input.profitCurve with
    | some curve => curve.bands.map ProfitCurveBandInput.targetGrossMarginBps
    | none => []

def validateFinanceConfiguration (input : FinanceConfigurationInput)
    (skipHighMarginConfirmation : Bool) :
    Except FinanceConfigurationError MarginGuardrailLevel := do
  throwIf (input.providers = []) .invalidConfiguration
  throwIf (input.providers.any fun item =>
    (evaluateMarginGuardrail item.targetGrossMarginBps).toOption.isNone) .invalidMargin
  throwIf (input.profitCurve.any fun curve => validateProfitCurveStructure curve ≠ [])
    .invalidProfitCurve
  let guardrail ← (guardrailForMargins input.margins).mapError .thrown
  throwIf (guardrail = .confirm ∧ skipHighMarginConfirmation = false ∧
    input.highMarginConfirmation ≠ some highMarginConfirmationPhrase) .marginConfirmationRequired
  throwIf (input.taxBps < 0 ∨ 10000 < input.taxBps) .invalidConfiguration
  throwIf ([input.reminderDaysBeforeDue, input.suspendGraceDaysAfterZero,
    input.deleteDaysAfterSuspend].any fun day => day < 1 || 90 < day) .invalidConfiguration
  throwIf (input.productMarkups.any fun item =>
    item.markupBasisPoints < 0 || 100000 < item.markupBasisPoints) .invalidConfiguration
  throwIf (!input.parchin.any fun item => item.level = .start && item.active)
    .invalidConfiguration
  throwIf (input.parchin.any fun item => Js.trim item.title = "" || item.priceRial < 0)
    .invalidConfiguration
  pure guardrail

/-! ## Snapshots -/

structure FinanceProviderSnapshot extends FinanceProviderInput where
  markupBasisPoints : ℤ
  deriving DecidableEq

structure FinanceParchinSnapshot where
  level : ParchinLevel
  title : String
  subtitle : Option String
  description : Option String
  priceRial : ℤ
  active : Bool
  includedServices : List String
  excludedServices : List String
  supportWindow : Option String
  firstResponseTarget : Option String
  deriving DecidableEq

structure FinanceSnapshot where
  providers : List FinanceProviderSnapshot
  productMarkups : List FinanceProductMarkupInput
  taxBps : ℤ
  reminderDaysBeforeDue : ℤ
  suspendGraceDaysAfterZero : ℤ
  deleteDaysAfterSuspend : ℤ
  compassServicePrices : CompassServicePrices
  parchin : List FinanceParchinSnapshot
  priceDisplay : PriceDisplay
  profitCurve : ProfitCurveJson
  minimumPostDiscountGrossMarginBps : ℤ

def providerSnapshot (item : FinanceProviderInput) : Except String FinanceProviderSnapshot := do
  let markupBasisPoints ← grossMarginBpsToMarkupBps item.targetGrossMarginBps
  pure { item with markupBasisPoints }

def parchinSnapshot (item : FinanceParchinInput) : FinanceParchinSnapshot where
  level := item.level
  title := item.title
  subtitle := item.subtitle.join
  description := item.description
  priceRial := item.priceRial
  active := item.active
  includedServices := item.includedServices.getD []
  excludedServices := item.excludedServices.getD []
  supportWindow := item.supportWindow.join
  firstResponseTarget := item.firstResponseTarget.join

def financeConfigurationSnapshot (input : FinanceConfigurationInput) :
    Except String FinanceSnapshot := do
  let profitCurve := input.profitCurve.getD defaultProfitCurveConfig
  let providers ← input.providers.mapM providerSnapshot
  let serialized ← serializeProfitCurveConfig profitCurve
  pure {
    providers
    productMarkups := input.productMarkups
    taxBps := input.taxBps
    reminderDaysBeforeDue := input.reminderDaysBeforeDue
    suspendGraceDaysAfterZero := input.suspendGraceDaysAfterZero
    deleteDaysAfterSuspend := input.deleteDaysAfterSuspend
    compassServicePrices := input.compassServicePrices
    parchin := input.parchin.map parchinSnapshot
    priceDisplay := input.priceDisplay
    profitCurve := serialized
    minimumPostDiscountGrossMarginBps := profitCurve.minimumPostDiscountGrossMarginBps }

/-- A list that is empty in a snapshot is taken to be omitted. -/
def omittedIfEmpty (services : List String) : Option (List String) :=
  if services = [] then none else some services

def parchinInputFromSnapshot (item : FinanceParchinSnapshot) : FinanceParchinInput where
  level := item.level
  title := item.title
  subtitle := some item.subtitle
  description := item.description
  priceRial := item.priceRial
  active := item.active
  includedServices := omittedIfEmpty item.includedServices
  excludedServices := omittedIfEmpty item.excludedServices
  supportWindow := some item.supportWindow
  firstResponseTarget := some item.firstResponseTarget

def financeInputFromSnapshot (snapshot : FinanceSnapshot) : FinanceConfigurationInput where
  providers := snapshot.providers.map FinanceProviderSnapshot.toFinanceProviderInput
  productMarkups := snapshot.productMarkups
  taxBps := snapshot.taxBps
  reminderDaysBeforeDue := snapshot.reminderDaysBeforeDue
  suspendGraceDaysAfterZero := snapshot.suspendGraceDaysAfterZero
  deleteDaysAfterSuspend := snapshot.deleteDaysAfterSuspend
  compassServicePrices := snapshot.compassServicePrices
  parchin := snapshot.parchin.map parchinInputFromSnapshot
  priceDisplay := snapshot.priceDisplay
  profitCurve :=
    some ((parseProfitCurveConfig snapshot.profitCurve).getD defaultProfitCurveConfig)

/-! ## The contract of a level -/

/-- The row of a level: what its price is made of, and its contract. -/
structure ParchinContract extends ParchinPricingConfig where
  version : ℕ
  title : String
  subtitle : Option String
  description : Option String
  includedServices : List String
  excludedServices : List String
  supportWindow : Option String
  firstResponseTarget : Option String
  deriving DecidableEq

/-- Fields that are omitted are taken from the row. -/
def mergeParchinInputWithExisting (incoming : FinanceParchinInput)
    (existing : Option ParchinContract) : FinanceParchinInput where
  level := incoming.level
  title := incoming.title
  subtitle := some (incoming.subtitle.getD (existing.bind ParchinContract.subtitle))
  description := incoming.description
  priceRial := incoming.priceRial
  active := incoming.active
  includedServices := some (incoming.includedServices.getD
    ((existing.map ParchinContract.includedServices).getD []))
  excludedServices := some (incoming.excludedServices.getD
    ((existing.map ParchinContract.excludedServices).getD []))
  supportWindow := some (incoming.supportWindow.getD (existing.bind ParchinContract.supportWindow))
  firstResponseTarget :=
    some (incoming.firstResponseTarget.getD (existing.bind ParchinContract.firstResponseTarget))

def parchinContractMateriallyChanged (existing : ParchinContract) (next : FinanceParchinInput) :
    Bool :=
  existing.title ≠ next.title ||
    existing.subtitle ≠ next.subtitle.join ||
    existing.description ≠ next.description ||
    existing.priceRial ≠ next.priceRial ||
    existing.active ≠ next.active ||
    existing.includedServices ≠ next.includedServices.getD [] ||
    existing.excludedServices ≠ next.excludedServices.getD [] ||
    existing.supportWindow ≠ next.supportWindow.join ||
    existing.firstResponseTarget ≠ next.firstResponseTarget.join

/-! ## Round trips -/

/-- What is read of the results is what is read of the elements. -/
theorem map_of_mapM {ε α β γ : Type} {f : α → Except ε β} {g : β → γ} {k : α → γ}
    (hread : ∀ a b, f a = .ok b → g b = k a) {xs : List α} {ys : List β}
    (h : xs.mapM f = .ok ys) : ys.map g = xs.map k := by
  induction xs generalizing ys with
  | nil =>
      cases h
      rfl
  | cons x xs ih =>
      rw [List.mapM_cons] at h
      obtain ⟨y, hy, h⟩ := bind_eq_ok.1 h
      obtain ⟨rest, hrest, h⟩ := bind_eq_ok.1 h
      cases h
      rw [List.map_cons, List.map_cons, hread x y hy, ih hrest]

/-- What is read of an element does not depend on its place. -/
theorem map_mapIdx {α β γ : Type} {f : ℕ → α → β} {g : β → γ} {k : α → γ} {xs : List α}
    (hread : ∀ i, ∀ a ∈ xs, g (f i a) = k a) : (xs.mapIdx f).map g = xs.map k := by
  apply List.ext_getElem
  · simp
  · intro i hi hi'
    simp only [List.getElem_map, List.getElem_mapIdx]
    exact hread i _ (List.getElem_mem _)

/-- A band that has been serialized has its fields when it is parsed. -/
theorem parseProfitCurveBand_serialize {band : ProfitCurveBandInput} {i j : ℕ}
    {json : ProfitCurveBandJson} (h : serializeProfitCurveBand band i = .ok json) :
    parseProfitCurveBand j json = { band with id := some (bandIdOf band i) } := by
  obtain ⟨markup, -, h⟩ := bind_eq_ok.1 h
  cases h
  rfl

/-- **A curve that is serialized and parsed has its bands in their order.** -/
theorem parse_serialize {config : ProfitCurveConfigInput} {json : ProfitCurveJson}
    (h : serializeProfitCurveConfig config = .ok json) :
    ∃ parsed, parseProfitCurveConfig json = some parsed ∧ parsed.enabled = config.enabled ∧
      parsed.minimumPostDiscountGrossMarginBps = config.minimumPostDiscountGrossMarginBps ∧
      parsed.bands.map ProfitCurveBandInput.unnamed =
        (sortBands config.bands).map ProfitCurveBandInput.unnamed := by
  obtain ⟨bands, hbands, h⟩ := bind_eq_ok.1 h
  obtain ⟨transitions, -, h⟩ := bind_eq_ok.1 h
  cases h
  have hparsed : (bands.mapIdx parseProfitCurveBand).map ProfitCurveBandInput.unnamed =
      bands.map fun json => (parseProfitCurveBand 0 json).unnamed := by
    apply map_mapIdx
    intro i json hjson
    obtain ⟨⟨band, index⟩, -, hserialized⟩ := exists_of_mem_mapM hbands hjson
    rw [parseProfitCurveBand_serialize hserialized, parseProfitCurveBand_serialize hserialized]
  have hserialized : bands.map (fun json => (parseProfitCurveBand 0 json).unnamed) =
      (sortBands config.bands).zipIdx.map fun entry => entry.1.unnamed := by
    apply map_of_mapM _ hbands
    intro entry json hjson
    rw [parseProfitCurveBand_serialize hjson]
    rfl
  refine ⟨_, rfl, ?_, rfl, ?_⟩
  · cases config.enabled <;> rfl
  · show (bands.mapIdx parseProfitCurveBand).map _ = _
    rw [hparsed, hserialized]
    calc (sortBands config.bands).zipIdx.map (fun entry => entry.1.unnamed)
        = ((sortBands config.bands).zipIdx.map Prod.fst).map ProfitCurveBandInput.unnamed := by
          rw [List.map_map]
          rfl
      _ = (sortBands config.bands).map ProfitCurveBandInput.unnamed := by
          rw [List.zipIdx_map_fst]

/-- **A snapshot gives back what it lists**: the providers, the products, the tax, the prices of the
protection levels, and the curve with its bands in their order. -/
theorem financeInputFromSnapshot_spec {input : FinanceConfigurationInput}
    {snapshot : FinanceSnapshot} (h : financeConfigurationSnapshot input = .ok snapshot) :
    (financeInputFromSnapshot snapshot).providers = input.providers ∧
    snapshot.productMarkups = input.productMarkups ∧ snapshot.taxBps = input.taxBps ∧
    (financeInputFromSnapshot snapshot).parchin.map (fun item =>
      (item.level, item.priceRial, item.active)) =
        input.parchin.map (fun item => (item.level, item.priceRial, item.active)) ∧
    ∃ curve, (financeInputFromSnapshot snapshot).profitCurve = some curve ∧
      curve.enabled = (input.profitCurve.getD defaultProfitCurveConfig).enabled ∧
      curve.minimumPostDiscountGrossMarginBps =
        (input.profitCurve.getD defaultProfitCurveConfig).minimumPostDiscountGrossMarginBps ∧
      curve.bands.map ProfitCurveBandInput.unnamed =
        (sortBands (input.profitCurve.getD defaultProfitCurveConfig).bands).map
          ProfitCurveBandInput.unnamed := by
  obtain ⟨providers, hproviders, h⟩ := bind_eq_ok.1 h
  obtain ⟨serialized, hserialized, h⟩ := bind_eq_ok.1 h
  cases h
  obtain ⟨curve, hcurve, henabled, hfloor, hbands⟩ := parse_serialize hserialized
  refine ⟨?_, rfl, rfl, ?_, curve, ?_, henabled, hfloor, hbands⟩
  · refine (map_of_mapM (k := id) ?_ hproviders).trans (List.map_id _)
    intro item written hwritten
    obtain ⟨markup, -, hwritten⟩ := bind_eq_ok.1 hwritten
    cases hwritten
    rfl
  · show ((input.parchin.map parchinSnapshot).map parchinInputFromSnapshot).map _ = _
    rw [List.map_map, List.map_map]
    rfl
  · show some ((parseProfitCurveConfig serialized).getD _) = some curve
    rw [hcurve]
    rfl

end AbrChin.Finance
