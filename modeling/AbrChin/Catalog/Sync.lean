import AbrChin.Catalog.Region
import AbrChin.Lib.Run

/-!
# Syncs of the catalogue

`lib/infrastructure/multi-provider-catalog-service.ts`: a sync takes the lease of its provider, lists
the regions, writes each of them in a transaction of its own, and closes with one that makes the
regions stale which it did not list.  The lease expires after some minutes, and the next sync takes it
over while the old one may still be running.

* Every transaction first locks the row of the provider and looks for its own token there.  A sync
  whose lease was taken over finds another token and writes nothing, so each transaction is one step.
* A region that fails leaves its rows, and the sync goes on with the next one.
* What a region no longer lists is known by its time, so the times of the syncs have to increase:
  then a region that the holder of the lease has not written yet was last seen before its time
  (`Inv.holder`).

The times of the syncs are not compared by the code.  The model keeps the latest one (`latest`) for
the statement only; the counter of the tokens stands for `randomUUID`.  The provider's answers, the
clocks and whether a transaction commits are part of the events.
-/

namespace AbrChin.Catalog

open Lib

open Pricing (InfrastructureProductKind)

/-! ## One sync -/

def catalogSyncLeaseMs : ℤ := 10 * 60 * 1000

/-- The regions that an adapter lists: `parseArvanRegionCodes` keeps each code once. -/
structure ProviderRegions where
  list : List ProviderRegion
  nodup : (list.map ProviderRegion.code).Nodup

/-- What the adapter answers for a region. -/
structure RegionListing where
  plans : List ProviderPlan
  images : List ProviderImage
  networks : List ProviderAsset
  securities : List ProviderAsset
  deriving DecidableEq

structure CatalogSync where
  token : ℕ
  now : ℤ
  catalogVersion : String
  productKind : InfrastructureProductKind
  /-- The adapter has to see a default network and a default security group. -/
  strictObserved : Bool
  deriving DecidableEq

def CatalogSync.input (sync : CatalogSync) (region : ProviderRegion) (listing : RegionListing) :
    ProviderCatalogRegionPersistenceInput where
  productKind := sync.productKind
  region := region
  plans := listing.plans
  images := listing.images
  networks := listing.networks
  securities := listing.securities
  syncedAt := sync.now
  catalogVersion := sync.catalogVersion

def hasDefault (assets : List ProviderAsset) : Bool :=
  assets.any fun asset => asset.available && decide (asset.isDefault = some true)

def CatalogSync.topologyObserved (sync : CatalogSync) (listing : RegionListing) : Bool :=
  !sync.strictObserved || (hasDefault listing.networks && hasDefault listing.securities)

/-- `assertCatalogSyncLeaseTx`. -/
def CatalogSync.holdsLease (sync : CatalogSync) (db : CatalogDb) : Bool :=
  decide (db.syncLeaseToken = some sync.token)

namespace CatalogDb

variable (db : CatalogDb)

/-- The `where` of the acquisition. -/
def leaseFree (clock : ℤ) : Bool :=
  db.syncLeaseToken.isNone || db.syncLeaseExpiresAt.all fun expiresAt => decide (expiresAt ≤ clock)

/-- The transaction of a region that failed; it sees no item and no asset. -/
def failRegion (now : ℤ) (region : ProviderRegion) : CatalogDb :=
  { db with
    regions := db.regions.upsert
      { regionCode := region.code
        available := false
        status := .stale
        lastSeenAt := none
        lastSyncedAt := some now
        lastSuccessfulSyncAt := none
        lastError := some "provider_sync_failed" }
      (fun row => { row with
        lastSyncedAt := some now
        lastError := some "provider_sync_failed"
        status := .stale
        available := false })
      fun _ => rfl }

def unlistedItem (codes : List String) (row : ProviderCatalogItem) : Bool :=
  decide (row.source = .apiCatalog) && decide (row.key.regionCode ∉ codes) &&
    decide (row.status ≠ .disabled)

def unlistedAsset (codes : List String) (row : ProviderCatalogAsset) : Bool :=
  decide (row.key.regionCode ∉ codes) && decide (row.status ≠ .disabled)

/-- The transaction that closes a sync of these regions. -/
def closeSync (now : ℤ) (codes : List String) : CatalogDb :=
  { db with
    regions := db.regions.updateMany
      (fun row => decide (row.regionCode ∉ codes) && decide (row.status ≠ .disabled))
      (fun row => { row with available := false, status := .stale }) fun _ => rfl
    items := db.items.updateMany (unlistedItem codes) (·.stale now) fun row => row.key_stale now
    assets := db.assets.updateMany (unlistedAsset codes) (·.stale) ProviderCatalogAsset.key_stale }

end CatalogDb

/-! ## Several syncs -/

/-- What a sync does next. -/
inductive SyncPoint where
  /-- List the regions. -/
  | listing
  /-- Ask for a region and write it. -/
  | writing (all : List ProviderRegion) (region : ProviderRegion) (rest : List ProviderRegion)
  /-- Note that a region failed. -/
  | failing (all : List ProviderRegion) (region : ProviderRegion) (rest : List ProviderRegion)
  | closing (all : List ProviderRegion)
  /-- Give the lease back. -/
  | ending

/-- The regions that are still to be written. -/
def SyncPoint.pending : SyncPoint → List ProviderRegion
  | .writing _ region rest => region :: rest
  | .failing _ _ rest => rest
  | _ => []

def SyncPoint.next (all : List ProviderRegion) : List ProviderRegion → SyncPoint
  | [] => .closing all
  | region :: rest => .writing all region rest

structure SyncActivity where
  sync : CatalogSync
  point : SyncPoint

/-- What the provider and the database answer to the next request of a sync. -/
structure SyncReply where
  regions : Option ProviderRegions
  listing : Option RegionListing
  /-- The transaction commits, as far as it does not fail by itself. -/
  commits : Bool

inductive SyncEvent where
  | start (worker : ℕ) (now clock : ℤ) (catalogVersion : String)
      (productKind : InfrastructureProductKind) (strictObserved : Bool)
  | advance (worker : ℕ) (reply : SyncReply)
  | renew (worker : ℕ) (clock : ℤ)
  | crash (worker : ℕ)

inductive SyncOutcome where
  | pending
  /-- Another sync holds the lease. -/
  | alreadyRunning
  | leased (sync : CatalogSync)
  | persisted (input : ProviderCatalogRegionPersistenceInput)
  | regionFailed (sync : CatalogSync) (region : ProviderRegion)
  | closed (sync : CatalogSync) (codes : List String)
  | failed

structure CatalogSystem where
  db : CatalogDb
  nextToken : ℕ
  latest : ℤ
  calls : ℕ → Option SyncActivity

/-- A catalogue that no sync is writing; its rows were seen up to the time `latest`. -/
def CatalogSystem.start (db : CatalogDb) (latest : ℤ) : CatalogSystem where
  db := db
  nextToken := db.syncLeaseToken.elim 0 (· + 1)
  latest := latest
  calls := fun _ => none

namespace CatalogSystem

variable (sys : CatalogSystem)

/-- The sync goes on at a point, over these rows. -/
def goOn (worker : ℕ) (sync : CatalogSync) (point : SyncPoint) (db : CatalogDb) : CatalogSystem :=
  { sys with db := db, calls := Function.update sys.calls worker (some ⟨sync, point⟩) }

/-- The sync is over. -/
def drop (worker : ℕ) (db : CatalogDb) : CatalogSystem :=
  { sys with db := db, calls := Function.update sys.calls worker none }

/-- The next request of a sync, or its next transaction. -/
def advance (worker : ℕ) (sync : CatalogSync) (point : SyncPoint) (reply : SyncReply) :
    CatalogSystem × SyncOutcome :=
  match point with
  | .listing =>
      match reply.regions with
      | some regions => (sys.goOn worker sync (.next regions.list regions.list) sys.db, .pending)
      | none => (sys.goOn worker sync .ending sys.db, .failed)
  | .writing all region rest =>
      match reply.listing with
      | none => (sys.goOn worker sync (.failing all region rest) sys.db, .pending)
      | some listing =>
          if sync.topologyObserved listing && sync.holdsLease sys.db && reply.commits then
            (sys.goOn worker sync (.next all rest)
              (sys.db.persistProviderCatalogRegion (sync.input region listing)),
              .persisted (sync.input region listing))
          else (sys.goOn worker sync (.failing all region rest) sys.db, .pending)
  | .failing all region rest =>
      if sync.holdsLease sys.db && reply.commits then
        (sys.goOn worker sync (.next all rest) (sys.db.failRegion sync.now region),
          .regionFailed sync region)
      else (sys.goOn worker sync .ending sys.db, .failed)
  | .closing all =>
      if sync.holdsLease sys.db && reply.commits then
        (sys.goOn worker sync .ending (sys.db.closeSync sync.now (all.map ProviderRegion.code)),
          .closed sync (all.map ProviderRegion.code))
      else (sys.goOn worker sync .ending sys.db, .failed)
  | .ending =>
      if sync.holdsLease sys.db then
        (sys.drop worker { sys.db with syncLeaseToken := none, syncLeaseExpiresAt := none }, .pending)
      else (sys.drop worker sys.db, .pending)

end CatalogSystem

def step (sys : CatalogSystem) (event : SyncEvent) : CatalogSystem × SyncOutcome :=
  match event with
  | .start worker now clock catalogVersion productKind strictObserved =>
      match sys.calls worker with
      | some _ => (sys, .pending)
      | none =>
          if sys.db.leaseFree clock then
            let sync : CatalogSync := ⟨sys.nextToken, now, catalogVersion, productKind, strictObserved⟩
            ({ db := { sys.db with
                 syncLeaseToken := some sync.token
                 syncLeaseExpiresAt := some (clock + catalogSyncLeaseMs) }
               nextToken := sys.nextToken + 1
               latest := now
               calls := Function.update sys.calls worker (some ⟨sync, .listing⟩) }, .leased sync)
          else (sys, .alreadyRunning)
  | .renew worker clock =>
      match sys.calls worker with
      | none => (sys, .pending)
      | some activity =>
          if activity.sync.holdsLease sys.db then
            ({ sys with db := { sys.db with
                syncLeaseExpiresAt := some (clock + catalogSyncLeaseMs) } }, .pending)
          else (sys, .pending)
  | .crash worker => (sys.drop worker sys.db, .pending)
  | .advance worker reply =>
      match sys.calls worker with
      | none => (sys, .pending)
      | some activity => sys.advance worker activity.sync activity.point reply

/-! ## What is claimed -/

/-- A sync that takes the lease has a later time than all before it. -/
def Increasing (sys : CatalogSystem) : SyncEvent → Prop
  | .start _ now clock _ _ _ => sys.db.leaseFree clock = true → sys.latest < now
  | _ => True

/-- The rows of the catalogue were last seen up to a time. -/
structure CatalogDb.SeenUpTo (db : CatalogDb) (time : ℤ) : Prop where
  items : ∀ row ∈ db.items, ∀ seenAt ∈ row.lastSeenAt, seenAt ≤ time
  assets : ∀ row ∈ db.assets, row.lastSeenAt ≤ time

/-- What a step leaves of the catalogue, where a listing puts these plans and assets on sale. -/
structure CatalogMirrors
    (plans : ProviderCatalogRegionPersistenceInput → ProviderPlan → Prop)
    (assets : ProviderCatalogRegionPersistenceInput →
      ProviderCatalogAssetKind × ProviderAsset → Prop)
    (before : CatalogSystem) (event : SyncEvent) (result : SyncOutcome) : Prop where
  /-- A region that is written mirrors its listing. -/
  persisted : ∀ input, result = .persisted input →
    Mirrors input (plans input) (assets input) (step before event).1.db
  /-- Nothing else than a region that is written, or the end of a sync, changes a row: a region that
  fails does not. -/
  kept : (∀ input, result ≠ .persisted input) → (∀ sync codes, result ≠ .closed sync codes) →
    (step before event).1.db.items = before.db.items ∧
      (step before event).1.db.assets = before.db.assets
  /-- A sync that has lost its lease changes no row. -/
  lost : ∀ worker reply activity, event = .advance worker reply →
    before.calls worker = some activity → activity.sync.holdsLease before.db = false →
      (step before event).1.db.items = before.db.items ∧
        (step before event).1.db.assets = before.db.assets
  /-- A sync that closes leaves no item of another region on sale. -/
  closed : ∀ sync codes, result = .closed sync codes →
    ∀ row ∈ (step before event).1.db.items, row.source = .apiCatalog →
      row.key.regionCode ∉ codes → row.available = false

/-! ## The rows a step leaves -/

/-- Rows after a step that are those before it, seen as before; only a sweep touches their status. -/
structure CatalogDb.KeepsSeen (db later : CatalogDb) : Prop where
  items : ∀ row ∈ later.items, ∃ before ∈ db.items, row.key = before.key ∧
    row.lastSeenAt = before.lastSeenAt ∧ (row.status = before.status ∨ row.status = .stale)
  assets : ∀ row ∈ later.assets, ∃ before ∈ db.assets, row.key = before.key ∧
    row.lastSeenAt = before.lastSeenAt ∧ (row.status = before.status ∨ row.status = .stale)

section Rows

variable {db later : CatalogDb} {codes : List String} {time : ℤ}

theorem CatalogDb.KeepsSeen.of_eq (hitems : later.items = db.items)
    (hassets : later.assets = db.assets) : db.KeepsSeen later where
  items row hrow := ⟨row, hitems ▸ hrow, rfl, rfl, .inl rfl⟩
  assets row hrow := ⟨row, hassets ▸ hrow, rfl, rfl, .inl rfl⟩

theorem mem_items_closeSync {row : ProviderCatalogItem} : row ∈ (db.closeSync time codes).items ↔
    ∃ before ∈ db.items, row =
      if CatalogDb.unlistedItem codes before then before.stale time else before := by
  have hitems : (db.closeSync time codes).items = db.items.updateMany
    (CatalogDb.unlistedItem codes) (·.stale time) fun row => row.key_stale time := rfl
  rw [hitems, Table.mem_updateMany]

theorem mem_assets_closeSync {row : ProviderCatalogAsset} :
    row ∈ (db.closeSync time codes).assets ↔ ∃ before ∈ db.assets, row =
      if CatalogDb.unlistedAsset codes before then before.stale else before := by
  have hassets : (db.closeSync time codes).assets = db.assets.updateMany
    (CatalogDb.unlistedAsset codes) (·.stale) ProviderCatalogAsset.key_stale := rfl
  rw [hassets, Table.mem_updateMany]

theorem keepsSeen_closeSync : db.KeepsSeen (db.closeSync time codes) where
  items row hrow := by
    obtain ⟨before, hbefore, rfl⟩ := mem_items_closeSync.1 hrow
    refine ⟨before, hbefore, ?_⟩
    by_cases hunlisted : CatalogDb.unlistedItem codes before = true
    · rw [if_pos hunlisted]
      exact ⟨rfl, rfl, .inr rfl⟩
    · rw [if_neg hunlisted]
      exact ⟨rfl, rfl, .inl rfl⟩
  assets row hrow := by
    obtain ⟨before, hbefore, rfl⟩ := mem_assets_closeSync.1 hrow
    refine ⟨before, hbefore, ?_⟩
    by_cases hunlisted : CatalogDb.unlistedAsset codes before = true
    · rw [if_pos hunlisted]
      exact ⟨rfl, rfl, .inr rfl⟩
    · rw [if_neg hunlisted]
      exact ⟨rfl, rfl, .inl rfl⟩

/-- **A closed sync leaves no item of another region on sale.** -/
theorem available_closeSync (hclean : db.NoneDisabled) {row : ProviderCatalogItem}
    (hrow : row ∈ (db.closeSync time codes).items) (hsource : row.source = .apiCatalog)
    (hregion : row.key.regionCode ∉ codes) : row.available = false := by
  obtain ⟨before, hbefore, rfl⟩ := mem_items_closeSync.1 hrow
  by_cases hunlisted : CatalogDb.unlistedItem codes before = true
  · rw [if_pos hunlisted]
    rfl
  · rw [if_neg hunlisted] at hsource hregion
    refine absurd ?_ hunlisted
    simp [CatalogDb.unlistedItem, hsource, hregion, hclean.items before hbefore]

theorem CatalogDb.NoneDisabled.keep (h : db.NoneDisabled) (hkeeps : db.KeepsSeen later) :
    later.NoneDisabled where
  items row hrow := by
    obtain ⟨before, hbefore, -, -, hstatus | hstatus⟩ := hkeeps.items row hrow
    · rw [hstatus]
      exact h.items before hbefore
    · rw [hstatus]
      decide
  assets row hrow := by
    obtain ⟨before, hbefore, -, -, hstatus | hstatus⟩ := hkeeps.assets row hrow
    · rw [hstatus]
      exact h.assets before hbefore
    · rw [hstatus]
      decide

theorem CatalogDb.SeenUpTo.keep (h : db.SeenUpTo time) (hkeeps : db.KeepsSeen later) :
    later.SeenUpTo time where
  items row hrow seenAt hat := by
    obtain ⟨before, hbefore, -, hseen, -⟩ := hkeeps.items row hrow
    exact h.items before hbefore seenAt (hseen ▸ hat)
  assets row hrow := by
    obtain ⟨before, hbefore, -, hseen, -⟩ := hkeeps.assets row hrow
    rw [hseen]
    exact h.assets before hbefore

theorem CatalogDb.SeenBefore.keep {code : String} (h : db.SeenBefore code time)
    (hkeeps : db.KeepsSeen later) : later.SeenBefore code time where
  items row hrow hregion seenAt hat := by
    obtain ⟨before, hbefore, hkey, hseen, -⟩ := hkeeps.items row hrow
    exact h.items before hbefore (hkey ▸ hregion) seenAt (hseen ▸ hat)
  assets row hrow hregion := by
    obtain ⟨before, hbefore, hkey, hseen, -⟩ := hkeeps.assets row hrow
    rw [hseen]
    exact h.assets before hbefore (hkey ▸ hregion)

variable {input : ProviderCatalogRegionPersistenceInput}

theorem CatalogDb.NoneDisabled.persist (h : db.NoneDisabled) :
    (db.persistProviderCatalogRegion input).NoneDisabled where
  items row hrow := by
    rcases item_of_persist hrow with ⟨-, -, hstatus⟩ | ⟨before, hbefore, -, -, hstatus | hstatus⟩
    · exact hstatus
    · rw [hstatus]
      exact h.items before hbefore
    · rw [hstatus]
      decide
  assets row hrow := by
    rcases asset_of_persist hrow with ⟨-, -, hstatus⟩ | ⟨before, hbefore, -, -, hstatus | hstatus⟩
    · exact hstatus
    · rw [hstatus]
      exact h.assets before hbefore
    · rw [hstatus]
      decide

theorem CatalogDb.SeenUpTo.persist (h : db.SeenUpTo time) (htime : input.syncedAt ≤ time) :
    (db.persistProviderCatalogRegion input).SeenUpTo time where
  items row hrow seenAt hat := by
    rcases item_of_persist hrow with ⟨-, hseen, -⟩ | ⟨before, hbefore, -, hseen, -⟩
    · rw [hseen] at hat
      cases hat
      exact htime
    · exact h.items before hbefore seenAt (hseen ▸ hat)
  assets row hrow := by
    rcases asset_of_persist hrow with ⟨-, hseen, -⟩ | ⟨before, hbefore, -, hseen, -⟩
    · rw [hseen]
      exact htime
    · rw [hseen]
      exact h.assets before hbefore

/-- Writing a region leaves the rows of the others as they were seen. -/
theorem CatalogDb.SeenBefore.persist {code : String} (h : db.SeenBefore code time)
    (hcode : code ≠ input.region.code) :
    (db.persistProviderCatalogRegion input).SeenBefore code time where
  items row hrow hregion seenAt hat := by
    rcases item_of_persist hrow with ⟨hwritten, -, -⟩ | ⟨before, hbefore, hkey, hseen, -⟩
    · exact absurd (hregion.symm.trans hwritten) hcode
    · exact h.items before hbefore (hkey ▸ hregion) seenAt (hseen ▸ hat)
  assets row hrow hregion := by
    rcases asset_of_persist hrow with ⟨hwritten, -, -⟩ | ⟨before, hbefore, hkey, hseen, -⟩
    · exact absurd (hregion.symm.trans hwritten) hcode
    · rw [hseen]
      exact h.assets before hbefore (hkey ▸ hregion)

theorem CatalogDb.SeenUpTo.before (h : db.SeenUpTo time) {now : ℤ} (hnow : time < now)
    (code : String) : db.SeenBefore code now where
  items row hrow _ seenAt hat := (h.items row hrow seenAt hat).trans_lt hnow
  assets row hrow _ := (h.assets row hrow).trans_lt hnow

end Rows

/-! ## What holds between the steps -/

/-- The region is still to be written; before the regions are listed, each of them is. -/
def SyncPoint.Unwritten (point : SyncPoint) (code : String) : Prop :=
  point = .listing ∨ code ∈ point.pending.map ProviderRegion.code

structure Inv (sys : CatalogSystem) : Prop where
  clean : sys.db.NoneDisabled
  seen : sys.db.SeenUpTo sys.latest
  lease : ∀ token ∈ sys.db.syncLeaseToken, token < sys.nextToken
  tokens : ∀ worker activity, sys.calls worker = some activity →
    activity.sync.token < sys.nextToken
  distinct : ∀ first second one two, sys.calls first = some one → sys.calls second = some two →
    one.sync.token = two.sync.token → first = second
  nodup : ∀ worker activity, sys.calls worker = some activity →
    (activity.point.pending.map ProviderRegion.code).Nodup
  /-- The holder of the lease has the latest time, and has not seen the regions that it has not
  written. -/
  holder : ∀ worker activity, sys.calls worker = some activity →
    activity.sync.holdsLease sys.db = true → activity.sync.now = sys.latest ∧
      ∀ code, activity.point.Unwritten code → sys.db.SeenBefore code sys.latest

section Steps

variable {sys : CatalogSystem} {worker : ℕ} {sync : CatalogSync} {point next : SyncPoint}
  {later : CatalogDb}

theorem inv_start {db : CatalogDb} {latest : ℤ} (hclean : db.NoneDisabled)
    (hseen : db.SeenUpTo latest) : Inv (.start db latest) where
  clean := hclean
  seen := hseen
  lease token htoken := by
    show token < db.syncLeaseToken.elim 0 (· + 1)
    rw [show db.syncLeaseToken = some token from htoken]
    exact Nat.lt_succ_self token
  tokens worker activity h := by cases h
  distinct first second one two h := by cases h
  nodup worker activity h := by cases h
  holder worker activity h := by cases h

theorem holdsLease_eq_true {db : CatalogDb} :
    sync.holdsLease db = true ↔ db.syncLeaseToken = some sync.token := by
  simp [CatalogSync.holdsLease]

/-- A sync goes on, over rows that it may write while it holds the lease. -/
theorem inv_goOn (h : Inv sys) (hcall : sys.calls worker = some ⟨sync, point⟩)
    (htoken : later.syncLeaseToken = sys.db.syncLeaseToken) (hclean : later.NoneDisabled)
    (hseen : later.SeenUpTo sys.latest) (hnodup : (next.pending.map ProviderRegion.code).Nodup)
    (hself : sync.holdsLease sys.db = true → ∀ code, next.Unwritten code →
      later.SeenBefore code sys.latest)
    (hothers : sync.holdsLease sys.db = false → sys.db.KeepsSeen later) :
    Inv (sys.goOn worker sync next later) := by
  have hcases : ∀ other activity, (sys.goOn worker sync next later).calls other = some activity →
      (other = worker ∧ activity = ⟨sync, next⟩) ∨
        (other ≠ worker ∧ sys.calls other = some activity) :=
    fun _ _ hactivity => update_some_cases hactivity
  refine ⟨hclean, hseen, fun token hat => h.lease token (htoken ▸ hat), ?_, ?_, ?_, ?_⟩
  · intro other activity hactivity
    rcases hcases other activity hactivity with ⟨-, rfl⟩ | ⟨-, hold⟩
    · exact h.tokens worker ⟨sync, point⟩ hcall
    · exact h.tokens other activity hold
  · intro first second one two hone htwo hsame
    rcases hcases first one hone with ⟨rfl, rfl⟩ | ⟨-, holdOne⟩
    · rcases hcases second two htwo with ⟨rfl, -⟩ | ⟨-, holdTwo⟩
      · rfl
      · exact h.distinct _ _ _ _ hcall holdTwo hsame
    · rcases hcases second two htwo with ⟨rfl, rfl⟩ | ⟨-, holdTwo⟩
      · exact h.distinct _ _ _ _ holdOne hcall hsame
      · exact h.distinct _ _ _ _ holdOne holdTwo hsame
  · intro other activity hactivity
    rcases hcases other activity hactivity with ⟨-, rfl⟩ | ⟨-, hold⟩
    · exact hnodup
    · exact h.nodup other activity hold
  · intro other activity hactivity hholds
    have hheld : activity.sync.holdsLease sys.db = true :=
      holdsLease_eq_true.2 (htoken ▸ holdsLease_eq_true.1 hholds)
    rcases hcases other activity hactivity with ⟨-, rfl⟩ | ⟨hother, hold⟩
    · exact ⟨(h.holder worker _ hcall hheld).1, hself hheld⟩
    · obtain ⟨hnow, hbefore⟩ := h.holder other activity hold hheld
      refine ⟨hnow, fun code hcode => (hbefore code hcode).keep (hothers ?_)⟩
      -- two syncs do not hold the lease at once
      by_contra hboth
      have hown := holdsLease_eq_true.1 ((Bool.not_eq_false _).mp hboth)
      have hsame := Option.some.inj ((holdsLease_eq_true.1 hheld).symm.trans hown)
      exact hother (h.distinct other worker _ _ hold hcall hsame)

/-- A sync goes on, over rows that are seen as before. -/
theorem inv_goOn_keep (h : Inv sys) (hcall : sys.calls worker = some ⟨sync, point⟩)
    (htoken : later.syncLeaseToken = sys.db.syncLeaseToken) (hkeeps : sys.db.KeepsSeen later)
    (hnodup : (next.pending.map ProviderRegion.code).Nodup)
    (hpending : ∀ code, next.Unwritten code → point.Unwritten code) :
    Inv (sys.goOn worker sync next later) := by
  refine inv_goOn h hcall htoken (h.clean.keep hkeeps) (h.seen.keep hkeeps) hnodup ?_
    fun _ => hkeeps
  intro hholds code hcode
  exact ((h.holder worker _ hcall hholds).2 code (hpending code hcode)).keep hkeeps

/-- A sync that is over. -/
theorem inv_drop (h : Inv sys) (worker : ℕ) (hkeeps : sys.db.KeepsSeen later)
    (htoken : ∀ token ∈ later.syncLeaseToken, sys.db.syncLeaseToken = some token) :
    Inv (sys.drop worker later) := by
  have hold : ∀ other activity, (sys.drop worker later).calls other = some activity →
      sys.calls other = some activity := fun _ _ hactivity => (update_none_eq_some hactivity).2
  refine ⟨h.clean.keep hkeeps, h.seen.keep hkeeps, fun token hat => h.lease token (htoken token hat),
    fun other activity hactivity => h.tokens other activity (hold other activity hactivity),
    fun first second one two hone htwo =>
      h.distinct first second one two (hold first one hone) (hold second two htwo),
    fun other activity hactivity => h.nodup other activity (hold other activity hactivity), ?_⟩
  intro other activity hactivity hholds
  have hheld : activity.sync.holdsLease sys.db = true :=
    holdsLease_eq_true.2 (htoken _ (holdsLease_eq_true.1 hholds))
  obtain ⟨hnow, hbefore⟩ := h.holder other activity (hold other activity hactivity) hheld
  exact ⟨hnow, fun code hcode => (hbefore code hcode).keep hkeeps⟩

theorem pending_next (all rest : List ProviderRegion) : (SyncPoint.next all rest).pending = rest := by
  cases rest with
  | nil => rfl
  | cons region rest => rfl

theorem unwritten_next {all rest : List ProviderRegion} {code : String} :
    (SyncPoint.next all rest).Unwritten code ↔ code ∈ rest.map ProviderRegion.code := by
  unfold SyncPoint.Unwritten
  rw [pending_next]
  refine or_iff_right ?_
  cases rest with
  | nil => exact fun h => nomatch h
  | cons region rest => exact fun h => nomatch h

theorem not_unwritten_ending {code : String} : ¬ SyncPoint.ending.Unwritten code := by
  rintro (h | h)
  · cases h
  · cases h

theorem inv_advance (h : Inv sys) (hcall : sys.calls worker = some ⟨sync, point⟩)
    (reply : SyncReply) : Inv (sys.advance worker sync point reply).1 := by
  have hsame : sys.db.KeepsSeen sys.db := .of_eq rfl rfl
  have hending : Inv (sys.goOn worker sync .ending sys.db) :=
    inv_goOn_keep h hcall rfl hsame List.nodup_nil fun code hcode =>
      absurd hcode not_unwritten_ending
  have hnodup := h.nodup worker _ hcall
  cases point with
  | listing =>
      simp only [CatalogSystem.advance]
      cases reply.regions with
      | none => exact hending
      | some regions =>
          refine inv_goOn_keep h hcall rfl hsame ?_ fun code _ => .inl rfl
          rw [pending_next]
          exact regions.nodup
  | writing all region rest =>
      have hrest : ((SyncPoint.failing all region rest).pending.map ProviderRegion.code).Nodup :=
        (List.nodup_cons.1 hnodup).2
      have hfailing : Inv (sys.goOn worker sync (.failing all region rest) sys.db) := by
        refine inv_goOn_keep h hcall rfl hsame hrest fun code hcode => ?_
        rcases hcode with hlisting | hcode
        · cases hlisting
        · exact .inr (List.mem_cons_of_mem _ hcode)
      simp only [CatalogSystem.advance]
      cases reply.listing with
      | none => exact hfailing
      | some listing =>
          dsimp only
          by_cases hcommit : (sync.topologyObserved listing && sync.holdsLease sys.db &&
              reply.commits) = true
          · rw [if_pos hcommit]
            rw [Bool.and_eq_true, Bool.and_eq_true] at hcommit
            obtain ⟨hnow, hbefore⟩ := h.holder worker _ hcall hcommit.1.2
            refine inv_goOn h hcall (syncLeaseToken_persist _ _) h.clean.persist (h.seen.persist (le_of_eq hnow)) ?_ ?_ ?_
            · rw [pending_next]
              exact hrest
            · intro _ code hcode
              have hcode := unwritten_next.1 hcode
              refine (hbefore code (.inr (List.mem_cons_of_mem _ hcode))).persist ?_
              -- the codes of a sync are distinct, so this region is not written again
              rintro rfl
              exact (List.nodup_cons.1 hnodup).1 hcode
            · intro hlost
              rw [hcommit.1.2] at hlost
              cases hlost
          · rw [if_neg hcommit]
            exact hfailing
  | failing all region rest =>
      simp only [CatalogSystem.advance]
      by_cases hcommit : (sync.holdsLease sys.db && reply.commits) = true
      · rw [if_pos hcommit]
        refine inv_goOn_keep h hcall rfl (.of_eq rfl rfl) ?_ fun code hcode => ?_
        · rw [pending_next]
          exact hnodup
        · exact .inr (unwritten_next.1 hcode)
      · rw [if_neg hcommit]
        exact hending
  | closing all =>
      simp only [CatalogSystem.advance]
      by_cases hcommit : (sync.holdsLease sys.db && reply.commits) = true
      · rw [if_pos hcommit]
        exact inv_goOn_keep h hcall rfl keepsSeen_closeSync List.nodup_nil fun code hcode =>
          absurd hcode not_unwritten_ending
      · rw [if_neg hcommit]
        exact hending
  | ending =>
      simp only [CatalogSystem.advance]
      by_cases hholds : sync.holdsLease sys.db = true
      · rw [if_pos hholds]
        exact inv_drop h worker (.of_eq rfl rfl) fun token hat => by cases hat
      · rw [if_neg hholds]
        exact inv_drop h worker hsame fun token hat => hat

/-- A sync that takes the lease has seen nothing yet. -/
theorem inv_leased (h : Inv sys) {now expiresAt : ℤ} (hnow : sys.latest < now) (sync : CatalogSync)
    (htoken : sync.token = sys.nextToken) (htime : sync.now = now) :
    Inv { db := { sys.db with
            syncLeaseToken := some sync.token
            syncLeaseExpiresAt := some expiresAt }
          nextToken := sys.nextToken + 1
          latest := now
          calls := Function.update sys.calls worker (some ⟨sync, .listing⟩) } where
  clean := ⟨h.clean.items, h.clean.assets⟩
  seen := by
    refine ⟨fun row hrow seenAt hat => ?_, fun row hrow => ?_⟩
    · exact (h.seen.items row hrow seenAt hat).trans hnow.le
    · exact (h.seen.assets row hrow).trans hnow.le
  lease := by
    intro token hat
    cases hat
    exact htoken ▸ Nat.lt_succ_self sys.nextToken
  tokens := by
    intro other activity hactivity
    rcases update_some_cases hactivity with ⟨-, rfl⟩ | ⟨-, hold⟩
    · exact htoken ▸ Nat.lt_succ_self sys.nextToken
    · exact (h.tokens other activity hold).trans (Nat.lt_succ_self sys.nextToken)
  distinct := by
    intro first second one two hone htwo hsame
    rcases update_some_cases hone with ⟨rfl, rfl⟩ | ⟨-, holdOne⟩
    · rcases update_some_cases htwo with ⟨rfl, -⟩ | ⟨-, holdTwo⟩
      · rfl
      · have hfresh := h.tokens second two holdTwo
        rw [← hsame, htoken] at hfresh
        exact absurd hfresh (lt_irrefl _)
    · rcases update_some_cases htwo with ⟨rfl, rfl⟩ | ⟨-, holdTwo⟩
      · have hfresh := h.tokens first one holdOne
        rw [hsame, htoken] at hfresh
        exact absurd hfresh (lt_irrefl _)
      · exact h.distinct _ _ _ _ holdOne holdTwo hsame
  nodup := by
    intro other activity hactivity
    rcases update_some_cases hactivity with ⟨-, rfl⟩ | ⟨-, hold⟩
    · exact List.nodup_nil
    · exact h.nodup other activity hold
  holder := by
    intro other activity hactivity hholds
    rcases update_some_cases hactivity with ⟨-, rfl⟩ | ⟨-, hold⟩
    · refine ⟨htime, fun code _ => ?_⟩
      have hbefore : sys.db.SeenBefore code now := h.seen.before hnow code
      exact ⟨hbefore.items, hbefore.assets⟩
    · have hfresh := h.tokens other activity hold
      rw [← Option.some.inj (holdsLease_eq_true.1 hholds), htoken] at hfresh
      exact absurd hfresh (lt_irrefl _)

theorem inv_step (sys : CatalogSystem) (event : SyncEvent) (hok : Increasing sys event)
    (h : Inv sys) : Inv (step sys event).1 := by
  cases event with
  | advance worker reply =>
      simp only [step]
      cases hcall : sys.calls worker with
      | none => exact h
      | some activity => exact inv_advance h hcall reply
  | crash worker => exact inv_drop h worker (.of_eq rfl rfl) fun token hat => hat
  | renew worker clock =>
      simp only [step]
      cases sys.calls worker with
      | none => exact h
      | some activity =>
          dsimp only
          by_cases hholds : activity.sync.holdsLease sys.db = true
          · rw [if_pos hholds]
            exact ⟨⟨h.clean.items, h.clean.assets⟩, ⟨h.seen.items, h.seen.assets⟩, h.lease, h.tokens,
              h.distinct, h.nodup, fun other holder hother hlease =>
                ⟨(h.holder other holder hother hlease).1, fun code hcode =>
                  ⟨((h.holder other holder hother hlease).2 code hcode).items,
                    ((h.holder other holder hother hlease).2 code hcode).assets⟩⟩⟩
          · rw [if_neg hholds]
            exact h
  | start worker now clock catalogVersion productKind strictObserved =>
      simp only [step]
      cases hcall : sys.calls worker with
      | some activity => exact h
      | none =>
          dsimp only
          by_cases hfree : sys.db.leaseFree clock = true
          · rw [if_pos hfree]
            exact inv_leased h (hok hfree)
              ⟨sys.nextToken, now, catalogVersion, productKind, strictObserved⟩ rfl rfl
          · rw [if_neg hfree]
            exact h

/-- What a step does to the items and assets: it writes a region, closes a sync, or neither. -/
theorem step_cases (sys : CatalogSystem) (event : SyncEvent) :
    ((step sys event).1.db.items = sys.db.items ∧ (step sys event).1.db.assets = sys.db.assets ∧
      (∀ input, (step sys event).2 ≠ .persisted input) ∧
        ∀ sync codes, (step sys event).2 ≠ .closed sync codes) ∨
    ∃ worker reply sync point, event = .advance worker reply ∧
      sys.calls worker = some ⟨sync, point⟩ ∧ sync.holdsLease sys.db = true ∧
        ((∃ all region rest listing, point = .writing all region rest ∧
          (step sys event).1.db = sys.db.persistProviderCatalogRegion (sync.input region listing) ∧
          (step sys event).2 = .persisted (sync.input region listing)) ∨
        ∃ all : List ProviderRegion,
          (step sys event).1.db = sys.db.closeSync sync.now (all.map ProviderRegion.code) ∧
          (step sys event).2 = .closed sync (all.map ProviderRegion.code)) := by
  have hquiet : ∀ result : CatalogSystem × SyncOutcome, result.1.db.items = sys.db.items →
      result.1.db.assets = sys.db.assets → (∀ input, result.2 ≠ .persisted input) →
      (∀ sync codes, result.2 ≠ .closed sync codes) → result.1.db.items = sys.db.items ∧
        result.1.db.assets = sys.db.assets ∧ (∀ input, result.2 ≠ .persisted input) ∧
          ∀ sync codes, result.2 ≠ .closed sync codes :=
    fun _ hitems hassets hpersisted hclosed => ⟨hitems, hassets, hpersisted, hclosed⟩
  cases event with
  | start worker now clock catalogVersion productKind strictObserved =>
      simp only [step]
      cases sys.calls worker with
      | some activity => exact .inl (hquiet (sys, .pending) rfl rfl nofun nofun)
      | none =>
          dsimp only
          by_cases hfree : sys.db.leaseFree clock = true
          · rw [if_pos hfree]
            exact .inl (hquiet _ rfl rfl nofun nofun)
          · rw [if_neg hfree]
            exact .inl (hquiet (sys, .alreadyRunning) rfl rfl nofun nofun)
  | renew worker clock =>
      simp only [step]
      cases sys.calls worker with
      | none => exact .inl (hquiet (sys, .pending) rfl rfl nofun nofun)
      | some activity =>
          dsimp only
          by_cases hholds : activity.sync.holdsLease sys.db = true
          · rw [if_pos hholds]
            exact .inl (hquiet _ rfl rfl nofun nofun)
          · rw [if_neg hholds]
            exact .inl (hquiet (sys, .pending) rfl rfl nofun nofun)
  | crash worker => exact .inl (hquiet _ rfl rfl nofun nofun)
  | advance worker reply =>
      simp only [step]
      cases hcall : sys.calls worker with
      | none => exact .inl (hquiet (sys, .pending) rfl rfl nofun nofun)
      | some activity =>
          obtain ⟨sync, point⟩ := activity
          dsimp only
          cases point with
          | listing =>
              simp only [CatalogSystem.advance]
              cases reply.regions with
              | none => exact .inl (hquiet _ rfl rfl nofun nofun)
              | some regions => exact .inl (hquiet _ rfl rfl nofun nofun)
          | writing all region rest =>
              simp only [CatalogSystem.advance]
              cases reply.listing with
              | none => exact .inl (hquiet _ rfl rfl nofun nofun)
              | some listing =>
                  dsimp only
                  by_cases hcommit : (sync.topologyObserved listing &&
                      sync.holdsLease sys.db && reply.commits) = true
                  · rw [if_pos hcommit]
                    rw [Bool.and_eq_true, Bool.and_eq_true] at hcommit
                    exact .inr ⟨worker, reply, sync, _, rfl, hcall, hcommit.1.2,
                      .inl ⟨all, region, rest, listing, rfl, rfl, rfl⟩⟩
                  · rw [if_neg hcommit]
                    exact .inl (hquiet _ rfl rfl nofun nofun)
          | failing all region rest =>
              simp only [CatalogSystem.advance]
              by_cases hcommit : (sync.holdsLease sys.db && reply.commits) = true
              · rw [if_pos hcommit]
                exact .inl (hquiet _ rfl rfl nofun nofun)
              · rw [if_neg hcommit]
                exact .inl (hquiet _ rfl rfl nofun nofun)
          | closing all =>
              simp only [CatalogSystem.advance]
              by_cases hcommit : (sync.holdsLease sys.db && reply.commits) = true
              · rw [if_pos hcommit]
                rw [Bool.and_eq_true] at hcommit
                exact .inr ⟨worker, reply, sync, _, rfl, hcall, hcommit.1, .inr ⟨all, rfl, rfl⟩⟩
              · rw [if_neg hcommit]
                exact .inl (hquiet _ rfl rfl nofun nofun)
          | ending =>
              simp only [CatalogSystem.advance]
              by_cases hholds : sync.holdsLease sys.db = true
              · rw [if_pos hholds]
                exact .inl (hquiet _ rfl rfl nofun nofun)
              · rw [if_neg hholds]
                exact .inl (hquiet _ rfl rfl nofun nofun)

/-- A step from a state of the invariant. -/
theorem mirrors_step (sys : CatalogSystem) (event : SyncEvent) (h : Inv sys) :
    CatalogMirrors OfferedPlan OfferedAsset sys event (step sys event).2 := by
  rcases step_cases sys event with ⟨hitems, hassets, hpersisted, hclosed⟩ |
    ⟨worker, reply, sync, point, rfl, hcall, hholds, hwrites⟩
  · exact ⟨fun input hinput => absurd hinput (hpersisted input), fun _ _ => ⟨hitems, hassets⟩,
      fun _ _ _ _ _ _ => ⟨hitems, hassets⟩,
      fun sync codes hcodes => absurd hcodes (hclosed sync codes)⟩
  · have hlost : ∀ other reply' activity, SyncEvent.advance worker reply = .advance other reply' →
        sys.calls other = some activity → activity.sync.holdsLease sys.db = true := by
      intro other reply' activity hevent hother
      cases hevent
      rw [hcall] at hother
      cases hother
      exact hholds
    rcases hwrites with ⟨all, region, rest, listing, rfl, hdb, hresult⟩ | ⟨all, hdb, hresult⟩
    · refine ⟨fun input hinput => ?_, fun hnone _ => ?_, fun other _ activity hevent hother hno =>
        ?_, fun _ _ hcodes => ?_⟩
      · rw [hresult] at hinput
        cases hinput
        rw [hdb]
        obtain ⟨hnow, hbefore⟩ := h.holder worker _ hcall hholds
        refine mirrors_persist h.clean ?_
        rw [show (sync.input region listing).syncedAt = sys.latest from hnow]
        exact hbefore region.code (.inr List.mem_cons_self)
      · exact absurd hresult (hnone _)
      · rw [hlost other _ activity hevent hother] at hno
        cases hno
      · rw [hresult] at hcodes
        cases hcodes
    · refine ⟨fun input hinput => ?_, fun _ hnone => ?_, fun other _ activity hevent hother hno =>
        ?_, fun _ _ hcodes row hrow hsource hregion => ?_⟩
      · rw [hresult] at hinput
        cases hinput
      · exact absurd hresult (hnone _ _)
      · rw [hlost other _ activity hevent hother] at hno
        cases hno
      · rw [hresult] at hcodes
        cases hcodes
        rw [hdb] at hrow
        exact available_closeSync h.clean hrow hsource hregion

end Steps

/-! ## Runs -/

/-- **The catalogue mirrors its syncs**, in every run of syncs whose times increase, from rows that
were seen before and of which none is switched off by hand. -/
theorem catalog_mirrors (db : CatalogDb) (latest : ℤ) (events : List SyncEvent)
    (hclean : db.NoneDisabled) (hseen : db.SeenUpTo latest)
    (hincreasing : Meets step Increasing (.start db latest) events) :
    ∀ entry ∈ trace step (.start db latest) events,
      CatalogMirrors OfferedPlan OfferedAsset entry.before entry.event entry.result := by
  intro entry hentry
  obtain ⟨hinv, -, hresult⟩ := of_mem_trace_of_meets (p := Inv)
    (fun sys event hok h => inv_step sys event hok h) (inv_start hclean hseen) hincreasing hentry
  rw [hresult]
  exact mirrors_step entry.before entry.event hinv

/-! ## A sync of one region -/

section Samples

instance (sys : CatalogSystem) (event : SyncEvent) : Decidable (Increasing sys event) :=
  match event with
  | .start _ now clock _ _ _ =>
      inferInstanceAs (Decidable (sys.db.leaseFree clock = true → sys.latest < now))
  | .advance _ _ => isTrue trivial
  | .renew _ _ => isTrue trivial
  | .crash _ => isTrue trivial

def emptyDb : CatalogDb := ⟨.empty, .empty, .empty, none, none⟩

theorem noneDisabled_emptyDb : emptyDb.NoneDisabled where
  items _ hrow := absurd (Table.mem_def.1 hrow) List.not_mem_nil
  assets _ hrow := absurd (Table.mem_def.1 hrow) List.not_mem_nil

theorem seenUpTo_emptyDb (time : ℤ) : emptyDb.SeenUpTo time where
  items _ hrow := absurd (Table.mem_def.1 hrow) List.not_mem_nil
  assets _ hrow := absurd (Table.mem_def.1 hrow) List.not_mem_nil

def sampleRegion : ProviderRegion := ⟨"ir-thr-c2", true⟩

def samplePlan : ProviderPlan where
  externalPlanId := "g1-1-1-0"
  name := "g1"
  vcpu := some 1
  ramMb := some 1024
  diskGb := some 25
  transfer := none
  resourceContractValid := true
  available := true
  priceHourlyAmount := none
  priceMonthlyAmount := none
  priceScale := none
  currencyCode := none
  amountUnit := none
  priceHourlyIrr := some 5000
  priceMonthlyIrr := some 3000000

def sampleImage : ProviderImage := ⟨"debian-12", "Debian 12", some 10, none, true⟩

/-- A sync of one region with one plan and some images. -/
def sampleSync (images : List ProviderImage) : List SyncEvent :=
  [.start 0 1 1 "arvan:v1" .cloudServer false,
    .advance 0 ⟨some ⟨[sampleRegion], by decide⟩, none, true⟩,
    .advance 0 ⟨none, some ⟨[samplePlan], images, [], []⟩, true⟩,
    .advance 0 ⟨none, none, true⟩]

theorem catalog_mirrors_sample :
    ((run step (.start emptyDb 0) (sampleSync [sampleImage])).db.items.rows.map
      fun row => (row.available, row.compatibleImageCodes)) = [(true, ["debian-12"])] ∧
    ∀ entry ∈ trace step (.start emptyDb 0) (sampleSync [sampleImage]),
      CatalogMirrors OfferedPlan OfferedAsset entry.before entry.event entry.result :=
  ⟨by decide +kernel, catalog_mirrors emptyDb 0 _ noneDisabled_emptyDb (seenUpTo_emptyDb 0)
    (by decide +kernel)⟩

/-- **A plan that no image fits is listed as valid and available, and is not on sale.** -/
theorem imageless_plan_not_on_sale : ¬ ∀ (db : CatalogDb) (latest : ℤ) (events : List SyncEvent),
    db.NoneDisabled → db.SeenUpTo latest → Meets step Increasing (.start db latest) events →
    ∀ entry ∈ trace step (.start db latest) events,
      CatalogMirrors ListedPlan ListedAsset entry.before entry.event entry.result := by
  intro hclaim
  have hrun := hclaim emptyDb 0 (sampleSync []) noneDisabled_emptyDb (seenUpTo_emptyDb 0)
    (by decide +kernel)
  let sync : CatalogSync := ⟨0, 1, "arvan:v1", .cloudServer, false⟩
  let input := sync.input sampleRegion ⟨[samplePlan], [], [], []⟩
  have hwritten := (hrun _ (List.mem_cons_of_mem _ (List.mem_cons_of_mem _
    List.mem_cons_self))).persisted input rfl
  have hlisted : ListedPlan input samplePlan := ⟨List.mem_singleton.2 rfl, by decide⟩
  obtain ⟨-, -, -, havailable⟩ := (hwritten.items _).2 ⟨samplePlan, hlisted, rfl⟩
  exact absurd havailable (by decide)

end Samples

end AbrChin.Catalog
