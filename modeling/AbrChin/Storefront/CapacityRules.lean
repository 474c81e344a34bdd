import AbrChin.Pricing.PlanPricing

/-!
# Tiers of the storefront

`lib/storefront/capacity-rules.ts`, `lib/storefront/tiers.ts` and `lib/storefront/price-bands.ts`:
a server belongs to a tier by its cores and its memory, a tier carries a protection level, and its
cards may be limited to a band of prices.
-/

namespace AbrChin.Storefront

open Pricing

inductive StorefrontChinishTier where
  | no
  | ostovar
  | kahkeshan
  deriving DecidableEq

/-- `STOREFRONT_TIERS` -/
def storefrontTiers : List StorefrontChinishTier := [.no, .ostovar, .kahkeshan]

/-- The floors of the upper tiers.  Disks do not classify a server. -/
structure StorefrontCapacityRules where
  ostovarMinVcpu : ℤ
  ostovarMinRamGb : ℤ
  kahkeshanMinVcpu : ℤ
  kahkeshanMinRamGb : ℤ
  deriving DecidableEq

def defaultStorefrontCapacityRules : StorefrontCapacityRules where
  ostovarMinVcpu := 6
  ostovarMinRamGb := 12
  kahkeshanMinVcpu := 16
  kahkeshanMinRamGb := 32

def meetsCapacityFloor (vcpu ramGb minVcpu minRamGb : ℤ) : Bool :=
  minVcpu ≤ vcpu && minRamGb ≤ ramGb

def classifyStorefrontCapacityTier (vcpu ramGb : ℤ) (rules : StorefrontCapacityRules) :
    StorefrontChinishTier :=
  if meetsCapacityFloor vcpu ramGb rules.kahkeshanMinVcpu rules.kahkeshanMinRamGb then .kahkeshan
  else if meetsCapacityFloor vcpu ramGb rules.ostovarMinVcpu rules.ostovarMinRamGb then .ostovar
  else .no

/-- The protection level that a tier is billed with. -/
def storefrontParchinLevel : StorefrontChinishTier → ParchinLevel
  | .no => .start
  | .ostovar => .active
  | .kahkeshan => .stable

structure StorefrontTierPriceBand where
  minMonthlyPriceRial : ℤ
  maxMonthlyPriceRial : Option ℤ
  deriving DecidableEq

def offerMatchesTierPriceBand (monthlyPriceRial : ℤ) (band : StorefrontTierPriceBand) : Bool :=
  band.minMonthlyPriceRial ≤ monthlyPriceRial &&
    band.maxMonthlyPriceRial.all (monthlyPriceRial ≤ ·)

/-- The settings of the storefront, as far as they choose its cards. -/
structure StorefrontSettings extends StorefrontCapacityRules where
  priceBands : StorefrontChinishTier → StorefrontTierPriceBand

/-- Without settings the rules are the default ones, and no price is out of its band. -/
def defaultStorefrontSettings : StorefrontSettings where
  toStorefrontCapacityRules := defaultStorefrontCapacityRules
  priceBands := fun _ => ⟨0, none⟩

/-- The cores of an item, and its memory in gigabytes; what is not known is nothing. -/
def tierOfItem (item : ProviderCatalogItem) (rules : StorefrontCapacityRules) :
    StorefrontChinishTier :=
  let vcpu : ℕ := item.vcpu.getD 0
  let ramGb : ℕ := (item.ramMb.map fun ramMb => (ramMb + 1023) / 1024).getD 0
  classifyStorefrontCapacityTier vcpu ramGb rules

end AbrChin.Storefront
