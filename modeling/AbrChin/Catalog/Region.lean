import AbrChin.Lib.Upsert
import AbrChin.Pricing.PlanPricing

/-!
# The catalogue of a region

`lib/infrastructure/multi-provider-catalog-service.ts`: what a catalogue sync writes for one region
of the provider, in one transaction (`persistProviderCatalogRegion`).

* The images, networks and security groups of the listing, and then its plans, are created or
  updated, in the order in which they are listed.  An update writes what a creation writes, so a
  listing that has an id twice leaves its last entry (`find?_upsertItem`, `find?_upsertAsset`).
* What the listing has left out is made stale.  It is known by its time: a row that was not seen in
  this sync was seen before it, or never.

So the rows on sale are those of the listing, when every row of the region was last seen before the
sync (`mirrors_persist`).  The catalogue is that of one provider and of its API version, which every
query here fixes; raw payloads, their hashes and external keys are left out.
-/

namespace AbrChin.Catalog

open Lib

open Pricing (InfrastructureProductKind ProviderCatalogStatus CatalogItemSource)

/-! ## What the provider lists -/

structure ProviderRegion where
  code : String
  available : Bool
  deriving DecidableEq

structure ProviderPlan where
  externalPlanId : String
  name : String
  vcpu : Option ℤ
  ramMb : Option ℤ
  diskGb : Option ℤ
  transfer : Option String
  resourceContractValid : Bool
  available : Bool
  /-- `none` where the provider does not say, `some none` where it says `null`. -/
  priceHourlyAmount : Option (Option ℤ)
  priceMonthlyAmount : Option (Option ℤ)
  priceScale : Option ℤ
  currencyCode : Option (Option String)
  amountUnit : Option (Option String)
  priceHourlyIrr : Option ℤ
  priceMonthlyIrr : Option ℤ
  deriving DecidableEq

/-- A network, a security group, or what is stored of an image. -/
structure ProviderAsset where
  externalId : String
  name : String
  isDefault : Option Bool
  available : Bool
  deriving DecidableEq

structure ProviderImage where
  externalId : String
  name : String
  minDiskGb : Option ℤ
  minRamMb : Option ℤ
  available : Bool
  deriving DecidableEq

def ProviderImage.asset (image : ProviderImage) : ProviderAsset where
  externalId := image.externalId
  name := image.name
  isDefault := none
  available := image.available

/-- The value is absent or not positive. -/
def missing (value : Option ℤ) : Bool := value.all fun amount => decide (amount ≤ 0)

def providerCatalogStatus (plan : ProviderPlan) (productKind : InfrastructureProductKind) :
    ProviderCatalogStatus :=
  if !plan.resourceContractValid || missing plan.vcpu || missing plan.ramMb ||
      missing plan.diskGb then .invalidResource
  else if missing plan.priceMonthlyIrr then .invalidPrice
  else if decide (productKind = .cloudServer) && missing plan.priceHourlyIrr then .invalidPrice
  else if plan.available then .active
  else .unavailable

/-- A minimum that is not known, or of a plan whose size is not known, is met. -/
def fits (minimum size : Option ℤ) : Bool :=
  minimum.all fun least => size.all fun amount => decide (least ≤ amount)

def compatibleImages (plan : ProviderPlan) (images : List ProviderImage) : List ProviderImage :=
  images.filter fun image =>
    image.available && fits image.minDiskGb plan.diskGb && fits image.minRamMb plan.ramMb

/-! ## The rows -/

inductive ProviderCatalogAssetKind where
  | image
  | network
  | security
  deriving DecidableEq

/-- The unique columns of an item.  An item that an older release has left without a provider plan
is identified by its id. -/
inductive ItemKey where
  | plan (regionCode externalPlanId : String)
  | legacy (regionCode id : String)
  deriving DecidableEq

def ItemKey.regionCode : ItemKey → String
  | .plan regionCode _ => regionCode
  | .legacy regionCode _ => regionCode

structure ProviderCatalogItem where
  key : ItemKey
  productKind : InfrastructureProductKind
  source : CatalogItemSource
  sizeName : String
  compatibleImageCodes : List String
  vcpu : Option ℤ
  ramMb : Option ℤ
  diskGb : Option ℤ
  transfer : Option String
  available : Bool
  active : Bool
  status : ProviderCatalogStatus
  priceHourlyAmount : Option ℤ
  priceMonthlyAmount : Option ℤ
  priceScale : ℤ
  currencyCode : Option String
  amountUnit : Option String
  providerHourlyPriceIrr : Option ℤ
  providerMonthlyPriceIrr : Option ℤ
  lastSyncedAt : ℤ
  lastSeenAt : Option ℤ
  catalogVersion : Option String
  unavailableAt : Option ℤ
  manualAvailableUnits : Option ℤ
  manualPriceValidUntil : Option ℤ
  manualLastVerifiedAt : Option ℤ
  manualUpdatedById : Option String
  deriving DecidableEq

/-- The item is no longer seen. -/
def ProviderCatalogItem.stale (row : ProviderCatalogItem) (time : ℤ) : ProviderCatalogItem :=
  { row with status := .stale, available := false, unavailableAt := some time }

@[simp] theorem ProviderCatalogItem.key_stale (row : ProviderCatalogItem) (time : ℤ) :
    (row.stale time).key = row.key := rfl

structure AssetKey where
  regionCode : String
  kind : ProviderCatalogAssetKind
  externalId : String
  deriving DecidableEq

structure ProviderCatalogAsset where
  key : AssetKey
  name : String
  status : ProviderCatalogStatus
  available : Bool
  isDefault : Bool
  lastSeenAt : ℤ
  lastSyncedAt : ℤ
  deriving DecidableEq

/-- The asset is no longer seen. -/
def ProviderCatalogAsset.stale (row : ProviderCatalogAsset) : ProviderCatalogAsset :=
  { row with status := .stale, available := false }

@[simp] theorem ProviderCatalogAsset.key_stale (row : ProviderCatalogAsset) :
    row.stale.key = row.key := rfl

structure ProviderCatalogRegionState where
  regionCode : String
  available : Bool
  status : ProviderCatalogStatus
  lastSeenAt : Option ℤ
  lastSyncedAt : Option ℤ
  lastSuccessfulSyncAt : Option ℤ
  lastError : Option String

structure CatalogDb where
  items : Table ProviderCatalogItem.key
  assets : Table ProviderCatalogAsset.key
  regions : Table ProviderCatalogRegionState.regionCode
  /-- The lease columns of the row of the provider; a row that is not there yet has no lease. -/
  syncLeaseToken : Option ℕ
  syncLeaseExpiresAt : Option ℤ

/-! ## Writing a region -/

structure ProviderCatalogRegionPersistenceInput where
  productKind : InfrastructureProductKind
  region : ProviderRegion
  plans : List ProviderPlan
  images : List ProviderImage
  networks : List ProviderAsset
  securities : List ProviderAsset
  syncedAt : ℤ
  catalogVersion : String

namespace ProviderCatalogRegionPersistenceInput

variable (input : ProviderCatalogRegionPersistenceInput)

/-- Images, networks and security groups, in the order in which they are written. -/
def assets : List (ProviderCatalogAssetKind × ProviderAsset) :=
  input.images.map (fun image => (.image, image.asset)) ++
    input.networks.map (fun network => (.network, network)) ++
    input.securities.map (fun security => (.security, security))

def assetKey (entry : ProviderCatalogAssetKind × ProviderAsset) : AssetKey :=
  ⟨input.region.code, entry.1, entry.2.externalId⟩

/-- The `update` of `upsertAsset`. -/
def updateAsset (entry : ProviderCatalogAssetKind × ProviderAsset) (row : ProviderCatalogAsset) :
    ProviderCatalogAsset :=
  { row with
    name := entry.2.name
    status := if entry.2.available then .active else .unavailable
    available := entry.2.available
    isDefault := entry.2.isDefault = some true
    lastSeenAt := input.syncedAt
    lastSyncedAt := input.syncedAt }

/-- The `create` of `upsertAsset`. -/
def createAsset (entry : ProviderCatalogAssetKind × ProviderAsset) : ProviderCatalogAsset where
  key := input.assetKey entry
  name := entry.2.name
  status := if entry.2.available then .active else .unavailable
  available := entry.2.available
  isDefault := entry.2.isDefault = some true
  lastSeenAt := input.syncedAt
  lastSyncedAt := input.syncedAt

def itemKey (plan : ProviderPlan) : ItemKey := .plan input.region.code plan.externalPlanId

/-- The status of a plan of the region; its compatible images are not asked for here. -/
def status (plan : ProviderPlan) : ProviderCatalogStatus :=
  if input.region.available then providerCatalogStatus plan input.productKind else .unavailable

/-- The plan is put on sale. -/
def onSale (plan : ProviderPlan) : Bool :=
  decide (input.status plan = .active) && decide (0 < (compatibleImages plan input.images).length)

/-- The `update` of a plan: a plan that was entered by hand becomes one of the catalogue. -/
def updateItem (plan : ProviderPlan) (row : ProviderCatalogItem) : ProviderCatalogItem :=
  let images := compatibleImages plan input.images
  { row with
    source := .apiCatalog
    manualAvailableUnits := none
    manualPriceValidUntil := none
    manualLastVerifiedAt := none
    manualUpdatedById := none
    productKind := input.productKind
    sizeName := plan.name
    compatibleImageCodes := images.map ProviderImage.externalId
    vcpu := plan.vcpu
    ramMb := plan.ramMb
    diskGb := plan.diskGb
    transfer := plan.transfer
    available := input.onSale plan
    active := true
    status := if input.status plan = .active ∧ images.length = 0 then .unavailable
      else input.status plan
    priceHourlyAmount := plan.priceHourlyAmount.getD plan.priceHourlyIrr
    priceMonthlyAmount := plan.priceMonthlyAmount.getD plan.priceMonthlyIrr
    priceScale := plan.priceScale.getD 0
    currencyCode := plan.currencyCode.getD (some "IRR")
    amountUnit := plan.amountUnit.getD (some "RIAL")
    providerHourlyPriceIrr := plan.priceHourlyIrr
    providerMonthlyPriceIrr := plan.priceMonthlyIrr
    lastSeenAt := some input.syncedAt
    lastSyncedAt := input.syncedAt
    catalogVersion := some input.catalogVersion
    unavailableAt := if input.onSale plan then none else some input.syncedAt }

/-- The `create` of a plan. -/
def createItem (plan : ProviderPlan) : ProviderCatalogItem :=
  let images := compatibleImages plan input.images
  { key := input.itemKey plan
    productKind := input.productKind
    source := .apiCatalog
    sizeName := plan.name
    compatibleImageCodes := images.map ProviderImage.externalId
    vcpu := plan.vcpu
    ramMb := plan.ramMb
    diskGb := plan.diskGb
    transfer := plan.transfer
    available := input.onSale plan
    active := true
    status := if input.status plan = .active ∧ images.length = 0 then .unavailable
      else input.status plan
    priceHourlyAmount := plan.priceHourlyAmount.getD plan.priceHourlyIrr
    priceMonthlyAmount := plan.priceMonthlyAmount.getD plan.priceMonthlyIrr
    priceScale := plan.priceScale.getD 0
    currencyCode := plan.currencyCode.getD (some "IRR")
    amountUnit := plan.amountUnit.getD (some "RIAL")
    providerHourlyPriceIrr := plan.priceHourlyIrr
    providerMonthlyPriceIrr := plan.priceMonthlyIrr
    lastSyncedAt := input.syncedAt
    lastSeenAt := some input.syncedAt
    catalogVersion := some input.catalogVersion
    unavailableAt := if input.onSale plan then none else some input.syncedAt
    manualAvailableUnits := none
    manualPriceValidUntil := none
    manualLastVerifiedAt := none
    manualUpdatedById := none }

/-- The `update` of the row of the region. -/
def updateRegion (row : ProviderCatalogRegionState) : ProviderCatalogRegionState :=
  { row with
    available := input.region.available
    status := if input.region.available then .active else .unavailable
    lastSeenAt := some input.syncedAt
    lastSyncedAt := some input.syncedAt
    lastSuccessfulSyncAt := some input.syncedAt
    lastError := none }

def createRegion : ProviderCatalogRegionState where
  regionCode := input.region.code
  available := input.region.available
  status := if input.region.available then .active else .unavailable
  lastSeenAt := some input.syncedAt
  lastSyncedAt := some input.syncedAt
  lastSuccessfulSyncAt := some input.syncedAt
  lastError := none

end ProviderCatalogRegionPersistenceInput

namespace CatalogDb

variable (db : CatalogDb) (input : ProviderCatalogRegionPersistenceInput)

def upsertRegion : CatalogDb :=
  { db with regions := db.regions.upsert input.createRegion input.updateRegion fun _ => rfl }

def upsertAsset (entry : ProviderCatalogAssetKind × ProviderAsset) : CatalogDb :=
  { db with
    assets := db.assets.upsert (input.createAsset entry) (input.updateAsset entry) fun _ => rfl }

def upsertItem (plan : ProviderPlan) : CatalogDb :=
  { db with
    items := db.items.upsert (input.createItem plan) (input.updateItem plan) fun _ => rfl }

/-- An item of the region that the sync has not seen. -/
def staleItem (row : ProviderCatalogItem) : Bool :=
  decide (row.key.regionCode = input.region.code) && decide (row.source = .apiCatalog) &&
    row.lastSeenAt.all (fun seenAt => decide (seenAt < input.syncedAt)) &&
    decide (row.status ≠ .disabled)

def staleAsset (row : ProviderCatalogAsset) : Bool :=
  decide (row.key.regionCode = input.region.code) &&
    decide (row.lastSeenAt < input.syncedAt) && decide (row.status ≠ .disabled)

/-- What the listing has left out is made stale. -/
def sweep : CatalogDb :=
  { db with
    items := db.items.updateMany (staleItem input) (·.stale input.syncedAt) fun row =>
      row.key_stale input.syncedAt
    assets := db.assets.updateMany (staleAsset input) (·.stale) ProviderCatalogAsset.key_stale }

/-- The transaction, after the lease was found to be that of the sync. -/
def persistProviderCatalogRegion : CatalogDb :=
  let db := db.upsertRegion input
  let db := input.assets.foldl (fun db entry => db.upsertAsset input entry) db
  let db := input.plans.foldl (fun db plan => db.upsertItem input plan) db
  db.sweep input

end CatalogDb

/-! ## What is claimed of a region -/

/-- The rows on sale of the region are those of the plans and assets of a listing. -/
structure Mirrors (input : ProviderCatalogRegionPersistenceInput) (plans : ProviderPlan → Prop)
    (assets : ProviderCatalogAssetKind × ProviderAsset → Prop) (db : CatalogDb) : Prop where
  items : ∀ row, (row ∈ db.items ∧ row.key.regionCode = input.region.code ∧
    row.source = .apiCatalog ∧ row.available = true) ↔
      ∃ plan, plans plan ∧ row = input.createItem plan
  assets : ∀ row, (row ∈ db.assets ∧ row.key.regionCode = input.region.code ∧
    row.available = true) ↔ ∃ entry, assets entry ∧ row = input.createAsset entry

/-- A plan that is listed as valid and available. -/
def ListedPlan (input : ProviderCatalogRegionPersistenceInput) (plan : ProviderPlan) : Prop :=
  plan ∈ input.plans ∧ providerCatalogStatus plan input.productKind = .active

def ListedAsset (input : ProviderCatalogRegionPersistenceInput)
    (entry : ProviderCatalogAssetKind × ProviderAsset) : Prop :=
  entry ∈ input.assets ∧ entry.2.available = true

/-- The last entry of its key, valid and available, in an available region and with an image that it
can run. -/
structure OfferedPlan (input : ProviderCatalogRegionPersistenceInput) (plan : ProviderPlan) :
    Prop where
  last : LastListed input.itemKey input.plans plan
  valid : providerCatalogStatus plan input.productKind = .active
  region : input.region.available = true
  image : compatibleImages plan input.images ≠ []

/-- The last entry of its key, which is available. -/
structure OfferedAsset (input : ProviderCatalogRegionPersistenceInput)
    (entry : ProviderCatalogAssetKind × ProviderAsset) : Prop where
  last : LastListed input.assetKey input.assets entry
  available : entry.2.available = true

/-! ## The loops -/

section Persist

variable {db : CatalogDb} {input : ProviderCatalogRegionPersistenceInput}

variable {row : ProviderCatalogAsset}

/-- An update writes all that a creation writes. -/
theorem updateAsset_eq {entry : ProviderCatalogAssetKind × ProviderAsset}
    (hkey : row.key = input.assetKey entry) :
    input.updateAsset entry row = input.createAsset entry := by
  cases row
  cases hkey
  rfl

theorem updateItem_eq {plan : ProviderPlan} {row : ProviderCatalogItem}
    (hkey : row.key = input.itemKey plan) :
    input.updateItem plan row = input.createItem plan := by
  cases row
  cases hkey
  rfl

theorem find?_upsertAsset (db : CatalogDb) (entry : ProviderCatalogAssetKind × ProviderAsset) :
    (db.upsertAsset input entry).assets.find? =
      Function.update db.assets.find? (input.assetKey entry) (some (input.createAsset entry)) :=
  Table.find?_upsert_put fun _ => updateAsset_eq

theorem find?_upsertItem (db : CatalogDb) (plan : ProviderPlan) :
    (db.upsertItem input plan).items.find? =
      Function.update db.items.find? (input.itemKey plan) (some (input.createItem plan)) :=
  Table.find?_upsert_put fun _ => updateItem_eq

/-- The loop over the assets leaves the items alone, and puts the assets. -/
theorem find?_foldl_upsertAsset (input : ProviderCatalogRegionPersistenceInput)
    (entries : List (ProviderCatalogAssetKind × ProviderAsset)) (db : CatalogDb) :
    (entries.foldl (fun db entry => db.upsertAsset input entry) db).items = db.items ∧
      (entries.foldl (fun db entry => db.upsertAsset input entry) db).assets.find? =
        entries.foldl (fun rows entry => Function.update rows (input.assetKey entry)
          (some (input.createAsset entry))) db.assets.find? := by
  induction entries generalizing db with
  | nil => exact ⟨rfl, rfl⟩
  | cons entry rest ih =>
      rw [List.foldl_cons, List.foldl_cons, ← find?_upsertAsset]
      exact ih (db.upsertAsset input entry)

/-- The loop over the plans leaves the assets alone, and puts the items. -/
theorem find?_foldl_upsertItem (input : ProviderCatalogRegionPersistenceInput)
    (plans : List ProviderPlan) (db : CatalogDb) :
    (plans.foldl (fun db plan => db.upsertItem input plan) db).assets = db.assets ∧
      (plans.foldl (fun db plan => db.upsertItem input plan) db).items.find? =
        plans.foldl (fun rows plan => Function.update rows (input.itemKey plan)
          (some (input.createItem plan))) db.items.find? := by
  induction plans generalizing db with
  | nil => exact ⟨rfl, rfl⟩
  | cons plan rest ih =>
      rw [List.foldl_cons, List.foldl_cons, ← find?_upsertItem]
      exact ih (db.upsertItem input plan)

/-- The rows that the transaction has written before it sweeps. -/
def CatalogDb.written (db : CatalogDb) (input : ProviderCatalogRegionPersistenceInput) :
    CatalogDb :=
  input.plans.foldl (fun db plan => db.upsertItem input plan)
    (input.assets.foldl (fun db entry => db.upsertAsset input entry) (db.upsertRegion input))

theorem persist_eq (db : CatalogDb) (input : ProviderCatalogRegionPersistenceInput) :
    db.persistProviderCatalogRegion input = (db.written input).sweep input := rfl

theorem syncLeaseToken_persist (db : CatalogDb) (input : ProviderCatalogRegionPersistenceInput) :
    (db.persistProviderCatalogRegion input).syncLeaseToken = db.syncLeaseToken := by
  have hassets : (input.assets.foldl (fun db entry => db.upsertAsset input entry)
      (db.upsertRegion input)).syncLeaseToken = db.syncLeaseToken :=
    List.foldlRecOn input.assets _ (motive := fun state : CatalogDb =>
      state.syncLeaseToken = db.syncLeaseToken) rfl fun _ hstate _ _ => hstate
  exact List.foldlRecOn input.plans _ (motive := fun state : CatalogDb =>
    state.syncLeaseToken = db.syncLeaseToken) hassets fun _ hstate _ _ => hstate

/-- An item that is written is that of the last entry of its plan, or one that is not listed. -/
theorem mem_items_written {row : ProviderCatalogItem} : row ∈ (db.written input).items ↔
    (∃ plan, LastListed input.itemKey input.plans plan ∧ row = input.createItem plan) ∨
      (row.key ∉ input.plans.map input.itemKey ∧ row ∈ db.items) := by
  have hassets := (find?_foldl_upsertAsset input input.assets (db.upsertRegion input)).1
  have hitems := (find?_foldl_upsertItem input input.plans
    (input.assets.foldl (fun db entry => db.upsertAsset input entry) (db.upsertRegion input))).2
  rw [hassets] at hitems
  constructor
  · intro hrow
    have hfind := Table.find?_of_mem hrow
    rw [show (db.written input).items.find? = _ from hitems] at hfind
    rcases foldl_update_eq_some.1 hfind with ⟨plan, hlast, -, hplan⟩ | ⟨hfresh, hold⟩
    · exact .inl ⟨plan, hlast, hplan.symm⟩
    · exact .inr ⟨hfresh, Table.mem_of_find? hold⟩
  · intro hrow
    have hfind : (db.written input).items.find? row.key = some row := by
      rw [show (db.written input).items.find? = _ from hitems]
      rcases hrow with ⟨plan, hlast, rfl⟩ | ⟨hfresh, hold⟩
      · exact foldl_update_eq_some.2 (.inl ⟨plan, hlast, rfl, rfl⟩)
      · exact foldl_update_eq_some.2 (.inr ⟨hfresh, Table.find?_of_mem hold⟩)
    exact Table.mem_of_find? hfind

theorem mem_assets_written : row ∈ (db.written input).assets ↔
    (∃ entry, LastListed input.assetKey input.assets entry ∧ row = input.createAsset entry) ∨
      (row.key ∉ input.assets.map input.assetKey ∧ row ∈ db.assets) := by
  have hitems := (find?_foldl_upsertItem input input.plans
    (input.assets.foldl (fun db entry => db.upsertAsset input entry) (db.upsertRegion input))).1
  have hassets := (find?_foldl_upsertAsset input input.assets (db.upsertRegion input)).2
  constructor
  · intro hrow
    have hfind := Table.find?_of_mem hrow
    rw [show (db.written input).assets = _ from hitems, hassets] at hfind
    rcases foldl_update_eq_some.1 hfind with ⟨entry, hlast, -, hentry⟩ | ⟨hfresh, hold⟩
    · exact .inl ⟨entry, hlast, hentry.symm⟩
    · exact .inr ⟨hfresh, Table.mem_of_find? hold⟩
  · intro hrow
    have hfind : (db.written input).assets.find? row.key = some row := by
      rw [show (db.written input).assets = _ from hitems, hassets]
      rcases hrow with ⟨entry, hlast, rfl⟩ | ⟨hfresh, hold⟩
      · exact foldl_update_eq_some.2 (.inl ⟨entry, hlast, rfl, rfl⟩)
      · exact foldl_update_eq_some.2 (.inr ⟨hfresh, Table.find?_of_mem hold⟩)
    exact Table.mem_of_find? hfind

/-! ## The sweep -/

/-- No row is switched off by hand. -/
structure CatalogDb.NoneDisabled (db : CatalogDb) : Prop where
  items : ∀ row ∈ db.items, row.status ≠ .disabled
  assets : ∀ row ∈ db.assets, row.status ≠ .disabled

/-- The rows of a region that were last seen before some time. -/
structure CatalogDb.SeenBefore (db : CatalogDb) (regionCode : String) (time : ℤ) : Prop where
  items : ∀ row ∈ db.items, row.key.regionCode = regionCode →
    ∀ seenAt ∈ row.lastSeenAt, seenAt < time
  assets : ∀ row ∈ db.assets, row.key.regionCode = regionCode → row.lastSeenAt < time

theorem onSale_iff {plan : ProviderPlan} : input.onSale plan = true ↔
    input.region.available = true ∧ providerCatalogStatus plan input.productKind = .active ∧
      compatibleImages plan input.images ≠ [] := by
  unfold ProviderCatalogRegionPersistenceInput.onSale ProviderCatalogRegionPersistenceInput.status
  cases input.region.available <;> simp [List.length_pos_iff]

theorem mem_items_sweep {row : ProviderCatalogItem} : row ∈ (db.sweep input).items ↔
    ∃ before ∈ db.items, row =
      if CatalogDb.staleItem input before then before.stale input.syncedAt else before := by
  have hitems : (db.sweep input).items = db.items.updateMany (CatalogDb.staleItem input)
    (·.stale input.syncedAt) fun row => row.key_stale input.syncedAt := rfl
  rw [hitems, Table.mem_updateMany]

theorem mem_assets_sweep : row ∈ (db.sweep input).assets ↔
    ∃ before ∈ db.assets, row =
      if CatalogDb.staleAsset input before then before.stale else before := by
  have hassets : (db.sweep input).assets = db.assets.updateMany (CatalogDb.staleAsset input)
    (·.stale) ProviderCatalogAsset.key_stale := rfl
  rw [hassets, Table.mem_updateMany]

theorem providerCatalogStatus_ne_disabled (plan : ProviderPlan)
    (productKind : InfrastructureProductKind) :
    providerCatalogStatus plan productKind ≠ .disabled := by
  unfold providerCatalogStatus
  split_ifs <;> decide

theorem status_createItem (plan : ProviderPlan) : (input.createItem plan).status ≠ .disabled := by
  unfold ProviderCatalogRegionPersistenceInput.createItem
    ProviderCatalogRegionPersistenceInput.status
  have hstatus := providerCatalogStatus_ne_disabled plan input.productKind
  dsimp only
  split_ifs <;> simp_all

theorem status_createAsset (entry : ProviderCatalogAssetKind × ProviderAsset) :
    (input.createAsset entry).status ≠ .disabled := by
  unfold ProviderCatalogRegionPersistenceInput.createAsset
  dsimp only
  split_ifs <;> decide

/-- A row that the sync has written is no stale one. -/
theorem staleItem_createItem (plan : ProviderPlan) :
    CatalogDb.staleItem input (input.createItem plan) = false := by
  simp [CatalogDb.staleItem, ProviderCatalogRegionPersistenceInput.createItem]

theorem staleAsset_createAsset (entry : ProviderCatalogAssetKind × ProviderAsset) :
    CatalogDb.staleAsset input (input.createAsset entry) = false := by
  simp [CatalogDb.staleAsset, ProviderCatalogRegionPersistenceInput.createAsset]

/-- **The rows on sale of a region are those of the listing**, after its transaction. -/
theorem mirrors_persist (hclean : db.NoneDisabled)
    (hseen : db.SeenBefore input.region.code input.syncedAt) :
    Mirrors input (OfferedPlan input) (OfferedAsset input)
      (db.persistProviderCatalogRegion input) := by
  rw [persist_eq]
  constructor
  · intro row
    constructor
    · rintro ⟨hrow, hregion, hsource, havailable⟩
      obtain ⟨before, hbefore, rfl⟩ := mem_items_sweep.1 hrow
      by_cases hstale : CatalogDb.staleItem input before = true
      · rw [if_pos hstale] at havailable
        cases havailable
      · rw [if_neg hstale] at hregion hsource havailable ⊢
        rcases mem_items_written.1 hbefore with ⟨plan, hlast, rfl⟩ | ⟨-, hold⟩
        · obtain ⟨havailable, hvalid, himage⟩ := onSale_iff.1 havailable
          exact ⟨plan, ⟨hlast, hvalid, havailable, himage⟩, rfl⟩
        · -- a row of the region that is not listed was seen before the sync
          refine absurd ?_ hstale
          have hbeforeSync : before.lastSeenAt.all (fun seenAt => decide (seenAt < input.syncedAt)) =
              true := by
            rw [Option.all_eq_true]
            intro seenAt hat
            exact decide_eq_true (hseen.items before hold hregion seenAt hat)
          simp [CatalogDb.staleItem, hregion, hsource, hbeforeSync, hclean.items before hold]
    · rintro ⟨plan, ⟨hlast, hvalid, havailable, himage⟩, rfl⟩
      refine ⟨mem_items_sweep.2 ⟨input.createItem plan, mem_items_written.2 (.inl
        ⟨plan, hlast, rfl⟩), ?_⟩, rfl, rfl, onSale_iff.2 ⟨havailable, hvalid, himage⟩⟩
      rw [staleItem_createItem]
      rfl
  · intro row
    constructor
    · rintro ⟨hrow, hregion, havailable⟩
      obtain ⟨before, hbefore, rfl⟩ := mem_assets_sweep.1 hrow
      by_cases hstale : CatalogDb.staleAsset input before = true
      · rw [if_pos hstale] at havailable
        cases havailable
      · rw [if_neg hstale] at hregion havailable ⊢
        rcases mem_assets_written.1 hbefore with ⟨entry, hlast, rfl⟩ | ⟨-, hold⟩
        · exact ⟨entry, ⟨hlast, havailable⟩, rfl⟩
        · refine absurd ?_ hstale
          simp [CatalogDb.staleAsset, hregion, hseen.assets before hold hregion,
            hclean.assets before hold]
    · rintro ⟨entry, ⟨hlast, havailable⟩, rfl⟩
      refine ⟨mem_assets_sweep.2 ⟨input.createAsset entry, mem_assets_written.2 (.inl
        ⟨entry, hlast, rfl⟩), ?_⟩, rfl, havailable⟩
      rw [staleAsset_createAsset]
      rfl

/-- A row after the transaction has a row before it, or was seen in it. -/
theorem item_of_persist {row : ProviderCatalogItem}
    (h : row ∈ (db.persistProviderCatalogRegion input).items) :
    (row.key.regionCode = input.region.code ∧ row.lastSeenAt = some input.syncedAt ∧
      row.status ≠ .disabled) ∨
      ∃ before ∈ db.items, row.key = before.key ∧ row.lastSeenAt = before.lastSeenAt ∧
        (row.status = before.status ∨ row.status = .stale) := by
  obtain ⟨before, hbefore, rfl⟩ := mem_items_sweep.1 h
  rcases mem_items_written.1 hbefore with ⟨plan, -, rfl⟩ | ⟨-, hold⟩
  · rw [staleItem_createItem]
    exact .inl ⟨rfl, rfl, status_createItem plan⟩
  · refine .inr ⟨before, hold, ?_⟩
    by_cases hstale : CatalogDb.staleItem input before = true
    · rw [if_pos hstale]
      exact ⟨rfl, rfl, .inr rfl⟩
    · rw [if_neg hstale]
      exact ⟨rfl, rfl, .inl rfl⟩

theorem asset_of_persist (h : row ∈ (db.persistProviderCatalogRegion input).assets) :
    (row.key.regionCode = input.region.code ∧ row.lastSeenAt = input.syncedAt ∧
      row.status ≠ .disabled) ∨
      ∃ before ∈ db.assets, row.key = before.key ∧ row.lastSeenAt = before.lastSeenAt ∧
        (row.status = before.status ∨ row.status = .stale) := by
  obtain ⟨before, hbefore, rfl⟩ := mem_assets_sweep.1 h
  rcases mem_assets_written.1 hbefore with ⟨entry, -, rfl⟩ | ⟨-, hold⟩
  · rw [staleAsset_createAsset]
    exact .inl ⟨rfl, rfl, status_createAsset entry⟩
  · refine .inr ⟨before, hold, ?_⟩
    by_cases hstale : CatalogDb.staleAsset input before = true
    · rw [if_pos hstale]
      exact ⟨rfl, rfl, .inr rfl⟩
    · rw [if_neg hstale]
      exact ⟨rfl, rfl, .inl rfl⟩

end Persist

end AbrChin.Catalog
