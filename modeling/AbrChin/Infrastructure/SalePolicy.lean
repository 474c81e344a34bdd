import AbrChin.Js.Value
import AbrChin.Pricing.PlanPricing

/-!
# What may be sold

`lib/infrastructure/public-sale-policy.ts`, `catalog-visibility.ts`, `provider-routing.ts` and the
freshness of the catalog from `multi-provider-catalog-service.ts`: the switches of the environment
and of a region, and whether the catalog has been synchronised recently enough.
-/

namespace AbrChin.Infrastructure

open Pricing

/-! ## The switches of the environment -/

structure PublicSaleEnv where
  publicSaleEnabled : Bool
  manualReadyPublicSaleEnabled : Bool
  arvanPublicSaleEnabled : Bool
  arvanReadyPublicSaleEnabled : Bool
  arvanCloudPublicSaleEnabled : Bool
  deriving DecidableEq

inductive PublicSaleDecision where
  | saleEnabled
  | publicSaleDisabled
  | providerSaleDisabled
  deriving DecidableEq

def getPublicSaleDecision (env : PublicSaleEnv) (productKind : InfrastructureProductKind)
    (offerSource : OfferSource) : PublicSaleDecision :=
  let gate (enabled : Bool) : PublicSaleDecision :=
    if enabled then .saleEnabled else .providerSaleDisabled
  if !env.publicSaleEnabled then .publicSaleDisabled
  else
    match offerSource with
    | .preprovisionedInventory => gate env.manualReadyPublicSaleEnabled
    | .manualAdmin =>
        gate (productKind = .readyInstantServer && env.manualReadyPublicSaleEnabled)
    | .apiCatalog | .manualApiBacked =>
        gate (env.arvanPublicSaleEnabled &&
          match productKind with
          | .readyInstantServer => env.arvanReadyPublicSaleEnabled
          | .cloudServer => env.arvanCloudPublicSaleEnabled)

def isPublicSaleEnabled (env : PublicSaleEnv) (productKind : InfrastructureProductKind)
    (offerSource : OfferSource) : Bool :=
  getPublicSaleDecision env productKind offerSource = .saleEnabled

def assertPublicSaleEnabled (env : PublicSaleEnv) (productKind : InfrastructureProductKind)
    (offerSource : OfferSource) : Except String Unit :=
  match getPublicSaleDecision env productKind offerSource with
  | .saleEnabled => .ok ()
  | .publicSaleDisabled => .error "public_sale_disabled"
  | .providerSaleDisabled => .error "provider_sale_disabled"

/-- The only provider is served through the first version of its API. -/
def assertProviderRoute (apiVersion : String) : Except String Unit :=
  if (Js.trim apiVersion).toLower = "v1" then .ok ()
  else .error "provider_route_mismatch"

/-! ## The access to an offer -/

inductive PurchaseState where
  | purchasable
  | saleDisabled
  | regionSaleDisabled
  | catalogStale
  | skuUnpublished
  | unavailable
  | hiddenStale
  deriving DecidableEq

structure CatalogOfferAccess where
  visible : Bool
  purchasable : Bool
  purchaseState : PurchaseState
  deriving DecidableEq

def resolveCatalogOfferAccess (catalogFresh displayDuringProviderOutage publicSaleEnabled
    regionSaleEnabled : Bool) : CatalogOfferAccess :=
  if !catalogFresh && !displayDuringProviderOutage then ⟨false, false, .hiddenStale⟩
  else if !publicSaleEnabled then ⟨true, false, .saleDisabled⟩
  else if !regionSaleEnabled then ⟨true, false, .regionSaleDisabled⟩
  else if !catalogFresh then ⟨true, false, .catalogStale⟩
  else ⟨true, true, .purchasable⟩

end AbrChin.Infrastructure
