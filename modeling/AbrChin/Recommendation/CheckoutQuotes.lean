import AbrChin.Lib.Index
import AbrChin.Lib.Run
import AbrChin.Recommendation.QuoteService
import Mathlib.Data.List.Infix

/-!
# Quotes of a catalog checkout

`createCatalogServerQuote` and `refreshRecommendationQuote` of
`lib/recommendation/quote-service.ts`, for the quotes of a server that is picked from the catalog.
A checkout is a session with one quote, and is found again by its idempotency key.

The hash of a checkout request stands for the request.  A coupon code is what `normalizeCouponCode`
leaves of it.  What a call finds out from other services is an input: the discount of a coupon,
whether an image is a Windows image, the answer of the provider, and the reservation of an
inventory item.
-/

namespace AbrChin.Recommendation

open Lib Js Pricing Infrastructure

/-! ## What the customer picks -/

inductive AccessMethod where
  | oneTimePassword
  | sshKey
  | windowsPassword
  deriving DecidableEq

structure CatalogDeliverySelection where
  imageAssetId : String
  accessMethod : AccessMethod
  sshKeyName : Option String
  serverName : String
  deriving DecidableEq

/-- What `deliveryConfiguration` holds of the selection. -/
structure LockedDelivery where
  imageAssetId : String
  accessMethod : AccessMethod
  sshKeyName : Option String
  serverName : Option String
  deriving DecidableEq

/-- `.replace(/\s+/g, "-")`; `afterSpace` says that the last character was white space. -/
def hyphenate : Bool → List Char → List Char
  | _, [] => []
  | afterSpace, c :: rest =>
      if isWhiteSpace c then
        if afterSpace then hyphenate true rest else '-' :: hyphenate true rest
      else c :: hyphenate false rest

def hyphenated (value : String) : String := String.ofList (hyphenate false (trim value).toList)

/-- `letter` are the characters of the classes `\p{L}` and `\p{N}`. -/
def isValidCustomerServerName (letter : Char → Bool) (value : String) : Bool :=
  let trimmed := hyphenated value
  2 ≤ length trimmed && length trimmed ≤ 64 &&
    trimmed.toList.head?.any letter && trimmed.toList.all (fun c => letter c || c = '-') &&
    !decide (['-', '-'] <:+: trimmed.toList)

def normalizeCustomerServerName (letter : Char → Bool) (value : String) : Option String :=
  if isValidCustomerServerName letter (hyphenated value) then some (hyphenated value) else none

/-- `/^[A-Za-z0-9._:-]{16,128}$/` -/
def isCheckoutKey (key : String) : Bool :=
  16 ≤ key.length && key.length ≤ 128 &&
    key.toList.all fun c => c.isAlphanum || c ∈ ['.', '_', ':', '-']

/-! ## Rows -/

/-- What the hash of a checkout request is made of. -/
structure CatalogCheckoutRequest where
  planId : String
  expectedProductKind : InfrastructureProductKind
  imageAssetId : String
  accessMethod : AccessMethod
  sshKeyName : Option String
  serverName : String
  termMonths : ℕ
  couponCode : Option String
  requestedParchinLevel : Option ParchinLevel
  deriving DecidableEq

inductive RecommendationQuoteStatus where
  | active
  | selected
  | converted
  | expired
  | invalidated
  deriving DecidableEq

/-- The session of a checkout; its profile says where the server comes from. -/
structure CheckoutSession where
  id : String
  userId : Option String
  catalogCheckoutIdempotencyKey : String
  catalogCheckoutRequestHash : CatalogCheckoutRequest
  profileSource : InfrastructureProductKind
  deriving DecidableEq

/-- The unique columns of a session. -/
def CheckoutSession.indexes : List (CheckoutSession → Option String) :=
  [fun session => some session.catalogCheckoutIdempotencyKey]

structure CatalogQuote where
  id : String
  sessionId : String
  status : RecommendationQuoteStatus
  priced : QuotedPlan
  couponCodeSnapshot : Option String
  deliveryConfigurationSnapshot : Option LockedDelivery
  expiresAt : ℤ
  deriving DecidableEq

structure CheckoutDb where
  sessions : IndexedTable CheckoutSession.id CheckoutSession.indexes
  quotes : Table CatalogQuote.id

def CheckoutDb.empty : CheckoutDb := ⟨IndexedTable.empty, Table.empty⟩

/-- The session of a key. -/
def CheckoutDb.sessionOf (db : CheckoutDb) (key : String) : Option CheckoutSession :=
  db.sessions.rows.find? fun session => session.catalogCheckoutIdempotencyKey = key

/-- `quotes[0]` of a session -/
def CheckoutDb.firstQuote (db : CheckoutDb) (sessionId : String) : Option CatalogQuote :=
  db.quotes.rows.find? fun quote => quote.sessionId = sessionId

/-! ## Locking the delivery -/

/-- An image, with the flags of its payload. -/
structure CatalogImage where
  id : String
  externalId : String
  name : String
  sshKey : Option Bool
  sshPassword : Option Bool

structure ProviderCatalogAsset extends CatalogImage where
  provider : InfrastructureProvider
  apiVersion : String
  regionCode : String
  /-- `status` is `ACTIVE`. -/
  active : Bool
  available : Bool

/-- What a call reads besides sessions and quotes. -/
structure CheckoutContext where
  catalog : Catalog
  env : PublicSaleEnv
  /-- The regions of the provider that are enabled for sale. -/
  saleRegions : List String
  assets : List ProviderCatalogAsset
  letter : Char → Bool
  /-- `windows` of `normalizeCustomerImageIdentity` -/
  windows : CatalogImage → Bool
  /-- `resolveServerPurchaseCoupon` for a code and a term -/
  coupon : String → ℕ → Except String ℤ
  /-- The defaults, the availability and the price that the provider gives, or the inventory. -/
  probe : PricedInfrastructurePlan → Except String Unit
  /-- `lockAvailableInventoryTx` -/
  reserve : PricedInfrastructurePlan → Except String Unit
  now : ℤ
  newSessionId : String
  newQuoteId : String

def syntheticPrefix : String := "catalog-code:"

/-- What follows a prefix. -/
def afterPrefix (start text : String) : Option String :=
  if start.toList <+: text.toList then some (String.ofList (text.toList.drop start.toList.length))
  else none

/-- An image of the region of a plan. -/
def ProviderCatalogAsset.serves (asset : ProviderCatalogAsset) (plan : SalePlan) : Bool :=
  asset.provider = plan.provider && asset.apiVersion = plan.providerApiVersion &&
    asset.regionCode = plan.regionCode

def CheckoutContext.lockAdminFulfilledCatalogPlan (context : CheckoutContext)
    (plan : PricedInfrastructurePlan) (delivery : CatalogDeliverySelection) :
    Except String LockedDelivery := do
  let compatible := plan.catalogItem.compatibleImageCodes.filter (· ≠ "")
  let syntheticCode := afterPrefix syntheticPrefix delivery.imageAssetId
  let storedImage :=
    if syntheticCode.any (· ≠ "") then none
    else context.assets.find? fun asset =>
      asset.id = delivery.imageAssetId && asset.serves plan.plan
  let imageCode := (storedImage.map fun image => image.externalId) <|> syntheticCode
  let some externalImageId := imageCode.filter fun code => code ≠ "" && compatible.contains code
    | .error "quote_unavailable"
  let image := (storedImage.map ProviderCatalogAsset.toCatalogImage).getD
    ⟨"", externalImageId, externalImageId, none, none⟩
  let expectedAccessMethod := if context.windows image then .windowsPassword else .oneTimePassword
  throwIf (delivery.accessMethod ≠ expectedAccessMethod) "quote_unavailable"
  pure {
    imageAssetId :=
      (storedImage.map fun image => image.id).getD (syntheticPrefix ++ externalImageId)
    accessMethod := expectedAccessMethod
    sshKeyName := none
    serverName := some delivery.serverName }

/-- The image that is selected for a plan that is not fulfilled from the catalog. -/
def CheckoutContext.selectedImage (context : CheckoutContext) (plan : SalePlan)
    (delivery : CatalogDeliverySelection) : Option CatalogImage :=
  if plan.offerSource = .manualAdmin then
    if delivery.imageAssetId = "manual:" ++ plan.id then
      some ⟨"manual:" ++ plan.id, plan.imageCode, plan.imageCode, some false, some true⟩
    else none
  else (context.assets.find? fun asset => asset.id = delivery.imageAssetId && asset.serves plan &&
    asset.active && asset.available).map ProviderCatalogAsset.toCatalogImage

/-- No customer may choose a key of their own (`isCustomerSshSelfServeEnabled`). -/
def CheckoutContext.lockAndRevalidatePlan (context : CheckoutContext)
    (plan : PricedInfrastructurePlan) (delivery : CatalogDeliverySelection) :
    Except String LockedDelivery :=
  if plan.plan.offerSource = .apiCatalog then context.lockAdminFulfilledCatalogPlan plan delivery
  else do
    assertProviderRoute plan.plan.providerApiVersion
    let some image := (context.selectedImage plan.plan delivery).filter
        fun image => plan.catalogItem.compatibleImageCodes.contains image.externalId
      | .error "quote_unavailable"
    throwIf ((delivery.accessMethod = .sshKey ∧ image.sshKey = some false) ∨
      (delivery.accessMethod = .oneTimePassword ∧ image.sshPassword = some false))
      "quote_unavailable"
    throwIf ((context.windows image = true ∧ delivery.accessMethod ≠ .windowsPassword) ∨
      (context.windows image = false ∧ delivery.accessMethod = .windowsPassword))
      "quote_unavailable"
    throwIf (plan.plan.offerLastVerifiedAt = none ∨
      ¬ plan.plan.offerPriceValidUntil.any (context.now < ·)) "quote_unavailable"
    throwIf (delivery.accessMethod = .sshKey) "quote_unavailable"
    context.probe plan
    pure {
      imageAssetId := image.id
      accessMethod := delivery.accessMethod
      sshKeyName := none
      serverName := some delivery.serverName }

/-! ## `createCatalogServerQuote` -/

/-- `RECOMMENDATION_QUOTE_VALIDITY_MS` -/
def recommendationQuoteValidityMs : ℤ := 60 * 60 * 1000

structure CreateCatalogServerQuote where
  planId : String
  userId : Option String
  expectedProductKind : InfrastructureProductKind
  delivery : CatalogDeliverySelection
  idempotencyKey : String
  termMonths : Option ℕ
  couponCode : Option String
  requestedParchinLevel : Option ParchinLevel

/-- The term that a quote is for. -/
def CreateCatalogServerQuote.term (input : CreateCatalogServerQuote) : ℕ :=
  (input.termMonths.filter isBillingTermMonths).getD 1

/-- `catalogCheckoutRequestHash` -/
def CreateCatalogServerQuote.request (input : CreateCatalogServerQuote) (serverName : String) :
    CatalogCheckoutRequest where
  planId := input.planId
  expectedProductKind := input.expectedProductKind
  imageAssetId := input.delivery.imageAssetId
  accessMethod := input.delivery.accessMethod
  sshKeyName := (input.delivery.sshKeyName.map trim).filter (· ≠ "")
  serverName
  termMonths := input.term
  couponCode := input.couponCode
  requestedParchinLevel := input.requestedParchinLevel

/-- The plan is of the kind that is asked for, and may be sold. -/
def CheckoutContext.assertRoute (context : CheckoutContext) (input : CreateCatalogServerQuote) :
    Except String Unit := do
  let some route := (context.catalog.plans.find? input.planId).filter fun route =>
      route.productKind = input.expectedProductKind && route.providerApiVersion = "v1"
    | .error "quote_unavailable"
  (assertProviderRoute route.providerApiVersion).mapError fun _ => "quote_unavailable"
  assertPublicSaleEnabled context.env route.productKind route.offerSource
  throwIf (route.offerSource = .apiCatalog ∧ context.saleRegions.contains route.regionCode = false)
    "provider_sale_disabled"

/-- The discount of the coupon, when there is a code. -/
def CheckoutContext.couponDiscountBps (context : CheckoutContext)
    (input : CreateCatalogServerQuote) : Except String (Option ℤ) :=
  match input.couponCode with
  | none => .ok none
  | some code => (context.coupon code input.term).map some

/-- `getActivePlanById`, or `getActiveReadyServerPlanById` -/
def CheckoutContext.activePlan (context : CheckoutContext) (input : CreateCatalogServerQuote)
    (couponDiscountBps : Option ℤ) : Except String PricedInfrastructurePlan := do
  let plan ← getActivePlanById context.catalog input.planId {
    termMonths := some input.term
    couponDiscountBps
    parchinLevel := input.requestedParchinLevel } context.now
  let some plan := plan.filter fun plan => input.expectedProductKind ≠ .readyInstantServer ||
      (plan.plan.providerApiVersion = "v1" && plan.plan.productKind = .readyInstantServer)
    | .error "quote_unavailable"
  pure plan

/-- The quote that is stored. -/
def CheckoutContext.quote (context : CheckoutContext) (input : CreateCatalogServerQuote)
    (couponDiscountBps : Option ℤ) (plan : PricedInfrastructurePlan) (delivery : LockedDelivery)
    (serverName : String) : CatalogQuote where
  id := context.newQuoteId
  sessionId := context.newSessionId
  status := .active
  priced := quotedPlan .recommended plan couponDiscountBps
  couponCodeSnapshot := input.couponCode
  deliveryConfigurationSnapshot := some { delivery with serverName := some serverName }
  expiresAt := context.now + recommendationQuoteValidityMs

/-- Calls follow one another, so that the lookup of the transaction finds what the first one has
found. -/
def createCatalogServerQuote (input : CreateCatalogServerQuote) (context : CheckoutContext) :
    Tx CheckoutDb String CatalogQuote := do
  Tx.throwIf (isCheckoutKey input.idempotencyKey = false) "invalid_idempotency_key"
  let serverName ← Tx.orThrow "invalid_server_name"
    (normalizeCustomerServerName context.letter input.delivery.serverName)
  let couponDiscountBps ← Tx.ofExcept (context.couponDiscountBps input)
  Tx.ofExcept (context.assertRoute input)
  let db ← Tx.get
  match db.sessionOf input.idempotencyKey with
  | some existing => do
      Tx.throwIf (existing.catalogCheckoutRequestHash ≠ input.request serverName ∨
        existing.userId ≠ input.userId) "idempotency_conflict"
      Tx.orThrow "catalog_quote_not_created" (db.firstQuote existing.id)
  | none => do
      let plan ← Tx.ofExcept (context.activePlan input couponDiscountBps)
      let delivery ← Tx.ofExcept (context.lockAndRevalidatePlan plan
        { input.delivery with serverName })
      Tx.ofExcept (context.reserve plan)
      Tx.attempt "constraint" fun db => (db.sessions.insert? {
        id := context.newSessionId
        userId := input.userId
        catalogCheckoutIdempotencyKey := input.idempotencyKey
        catalogCheckoutRequestHash := input.request serverName
        profileSource := input.expectedProductKind }).map ({ db with sessions := · })
      let quote := context.quote input couponDiscountBps plan delivery serverName
      Tx.attempt "constraint" fun db => (db.quotes.insert? quote).map ({ db with quotes := · })
      pure quote

/-! ## `refreshRecommendationQuote` -/

def refreshKey (quoteId : String) : String := "quote-refresh:" ++ quoteId

/-- What a refresh asks for, from the columns of the quote. -/
def CatalogQuote.refreshInput (previous : CatalogQuote) (session : CheckoutSession)
    (userId : String) (delivery : LockedDelivery) : CreateCatalogServerQuote where
  planId := previous.priced.planId
  userId := some userId
  expectedProductKind := session.profileSource
  delivery := {
    imageAssetId := delivery.imageAssetId
    accessMethod := delivery.accessMethod
    sshKeyName := delivery.sshKeyName
    serverName := delivery.serverName.getD "abrchin-server" }
  idempotencyKey := refreshKey previous.id
  termMonths := none
  couponCode := none
  requestedParchinLevel := none

/-- A quote that could still be bought is invalidated. -/
def CatalogQuote.invalidate (quote : CatalogQuote) : CatalogQuote :=
  if quote.status = .active ∨ quote.status = .selected then { quote with status := .invalidated }
  else quote

theorem CatalogQuote.invalidate_id (quote : CatalogQuote) : quote.invalidate.id = quote.id := by
  unfold CatalogQuote.invalidate
  split <;> rfl

/-- `updateMany` with the id of a quote -/
def CheckoutDb.invalidate (db : CheckoutDb) (quoteId : String) : CheckoutDb :=
  { db with quotes := db.quotes.modify quoteId CatalogQuote.invalidate CatalogQuote.invalidate_id }

/-- A delivery configuration without the fields that are needed is `none`. -/
def refreshRecommendationQuote (quoteId userId : String) (context : CheckoutContext) :
    Tx CheckoutDb String CatalogQuote := do
  let db ← Tx.get
  let previous ← Tx.orThrow "quote_not_found" (db.quotes.find? quoteId)
  let session ← Tx.orThrow "quote_not_found" (db.sessions.find? previous.sessionId)
  Tx.throwIf (session.userId.any (· ≠ userId) = true) "quote_not_found"
  let delivery ← Tx.orThrow "delivery_configuration_required" previous.deliveryConfigurationSnapshot
  let replacement ← createCatalogServerQuote (previous.refreshInput session userId delivery) context
  Tx.modify (·.invalidate previous.id)
  pure replacement

/-! ## Runs of calls -/

inductive CheckoutEvent where
  | create (input : CreateCatalogServerQuote) (context : CheckoutContext)
  | refresh (quoteId userId : String) (context : CheckoutContext)
  /-- Another part of the program sets the status of a quote. -/
  | mark (quoteId : String) (status : RecommendationQuoteStatus)

/-- The transaction of an event. -/
def CheckoutEvent.tx : CheckoutEvent → Tx CheckoutDb String (Option CatalogQuote)
  | .create input context => some <$> createCatalogServerQuote input context
  | .refresh quoteId userId context => some <$> refreshRecommendationQuote quoteId userId context
  | .mark quoteId status => do
      Tx.modify fun db => { db with
        quotes := db.quotes.modify quoteId ({ · with status }) fun _ => rfl }
      pure none

def stepCheckout (db : CheckoutDb) (event : CheckoutEvent) :
    CheckoutDb × Except String (Option CatalogQuote) :=
  ((Tx.transaction event.tx db).2, (Tx.transaction event.tx db).1)

end AbrChin.Recommendation
