import AbrChin.Js.Number
import AbrChin.Lib.Greedy
import AbrChin.Storefront.CapacityRules

/-!
# The suggested storefront

`lib/storefront/auto-suggest.ts`: the items of a tier are picked greedily, first with a balance of
locations and then without it, and the reserves are picked from what is left.

The picks are counted by region and by location, and their resources are remembered.  These
counters belong to the picks at every moment, so that the two passes are two greedy selections by
rules on the picks alone.

Where a region lies is a parameter.  The balance score of an item is left out: nothing reads it.
-/

namespace AbrChin.Storefront.AutoSuggest

open Lib Pricing

/-! ## Constants -/

/-- `STOREFRONT_PRIMARY_LIMIT` -/
def storefrontPrimaryLimit : ℕ := 24

/-- `STOREFRONT_RESERVE_LIMIT` -/
def storefrontReserveLimit : ℕ := 12

/-- `STOREFRONT_ZONE_TARGET` -/
def storefrontZoneTarget : ℕ := 8

inductive StorefrontLocationZone where
  | iran
  | abroad
  deriving DecidableEq

inductive StorefrontAssortmentStyle where
  | cheapest
  | strongest
  deriving DecidableEq

inductive StorefrontSlotRole where
  | primary
  | reserve
  deriving DecidableEq

structure StorefrontSlotInput where
  catalogItemId : String
  role : StorefrontSlotRole
  sortOrder : ℕ
  enabled : Bool
  deriving DecidableEq

/-! ## Ranked items -/

structure RankedItem where
  item : ProviderCatalogItem
  hourly : ℤ
  monthly : ℤ
  vcpu : ℕ
  ramGb : ℕ
  diskGb : ℕ
  powerScore : ℕ
  economyScore : ℚ

/-- The price for an hour; a price for a month is one for 720 hours. -/
def effectiveHourly (hourly monthly : Option ℤ) : ℤ :=
  match hourly.filter (0 < ·) with
  | some hourly => hourly
  | none => ((monthly.filter (0 < ·)).map (· / 720)).getD 0

/-- The memory of an item in whole gigabytes. -/
def ramGbOf (item : ProviderCatalogItem) : ℕ :=
  (item.ramMb.map fun ramMb => (ramMb + 1023) / 1024).getD 0

def toRanked (item : ProviderCatalogItem) : Except String (Option RankedItem) :=
  if !item.active || !item.available || item.status ≠ .active then .ok none
  else do
    let hourly ← catalogItemBaseHourlyPriceRial item
    let monthly ← catalogItemBasePriceRial item
    let price := effectiveHourly hourly monthly
    let vcpu := item.vcpu.getD 0
    let ramGb := ramGbOf item
    let diskGb := item.diskGb.getD 0
    if price ≤ 0 || vcpu = 0 || ramGb = 0 then pure none
    else
      -- `Number(price)`, which must be finite
      match Js.double price with
      | none => pure none
      | some priceNumber =>
          pure (some {
            item
            hourly := price
            monthly := monthly.getD 0
            vcpu
            ramGb
            diskGb
            powerScore := vcpu * 1000 + ramGb * 10 + diskGb
            economyScore := priceNumber })

/-- `${provider}:${regionCode}` -/
def regionKey (item : ProviderCatalogItem) : InfrastructureProvider × String :=
  (item.provider, item.regionCode)

def resourceFingerprint (row : RankedItem) : ℕ × ℕ × ℕ := (row.vcpu, row.ramGb, row.diskGb)

def compareByAssortmentStyle (style : StorefrontAssortmentStyle) (a b : RankedItem) : Ordering :=
  match style with
  | .strongest =>
      (compare b.powerScore a.powerScore).then (compare a.economyScore b.economyScore)
  | .cheapest =>
      (compare a.economyScore b.economyScore).then (compare b.powerScore a.powerScore)

/-! ## Picking -/

/-- The variables of `diversifyPick`. -/
structure Picking where
  picked : List RankedItem
  regionCounts : InfrastructureProvider × String → ℕ
  seenResources : List (ℕ × ℕ × ℕ)
  zoneCounts : StorefrontLocationZone → ℕ

/-- A count is one more at a key. -/
def increase {κ : Type} [DecidableEq κ] (counts : κ → ℕ) (key : κ) : κ → ℕ :=
  fun other => if other = key then counts other + 1 else counts other

section

-- `storefrontLocationZone`
variable (zoneOf : String → StorefrontLocationZone)

def accept (limit : ℕ) (enforceZoneBalance : Bool) (state : Picking) (candidate : RankedItem) :
    Picking :=
  let region := regionKey candidate.item
  let zone := zoneOf candidate.item.regionCode
  if limit ≤ state.picked.length then state
  else if state.picked.any (·.item.id = candidate.item.id) then state
  else if resourceFingerprint candidate ∈ state.seenResources then state
  else if 6 ≤ state.regionCounts region then state
  else if enforceZoneBalance && storefrontZoneTarget ≤ state.zoneCounts zone then state
  else {
    picked := state.picked ++ [candidate]
    seenResources := resourceFingerprint candidate :: state.seenResources
    regionCounts := increase state.regionCounts region
    zoneCounts := increase state.zoneCounts zone }

/-- One of the loops, which stops at `stop` picks. -/
def acceptAll (limit : ℕ) (enforceZoneBalance : Bool) (stop : ℕ) :
    Picking → List RankedItem → Picking
  | state, [] => state
  | state, candidate :: rest =>
      if stop ≤ state.picked.length then state
      else acceptAll limit enforceZoneBalance stop
        (accept zoneOf limit enforceZoneBalance state candidate) rest

def diversifyPick (ranked : List RankedItem) (limit : ℕ)
    (compare : RankedItem → RankedItem → Ordering) : List RankedItem :=
  let sorted := ranked.insertionSort fun a b => (compare a b).isLE
  let balanced := acceptAll zoneOf limit true (min limit (storefrontZoneTarget * 2))
    ⟨[], fun _ => 0, [], fun _ => 0⟩ sorted
  (acceptAll zoneOf limit false limit balanced sorted).picked

/-! ## Slots -/

def slots (role : StorefrontSlotRole) (rows : List RankedItem) : List StorefrontSlotInput :=
  rows.mapIdx fun sortOrder row => ⟨row.item.id, role, sortOrder, true⟩

/-- The slots of a tier, and the ids that are used after it. -/
def slotsFor (primary reservePool : List RankedItem) (usedIds : List String)
    (compare : RankedItem → RankedItem → Ordering) : List StorefrontSlotInput × List String :=
  let usedIds := usedIds ++ primary.map (·.item.id)
  let reserve := diversifyPick zoneOf (reservePool.filter (·.item.id ∉ usedIds))
    storefrontReserveLimit compare
  (slots .primary primary ++ slots .reserve reserve, usedIds ++ reserve.map (·.item.id))

/-- The price that is compared with the band of a tier. -/
def bandPrice (monthly hourly : ℤ) : ℤ :=
  if 0 < monthly then monthly else if 0 < hourly then hourly * 720 else 0

/-- The rows of a tier that are not used yet. -/
def tierPool (rules : StorefrontCapacityRules)
    (priceBands : StorefrontChinishTier → StorefrontTierPriceBand) (ranked : List RankedItem)
    (used : List String) (tier : StorefrontChinishTier) : List RankedItem :=
  ranked.filter fun row => row.item.id ∉ used &&
    classifyStorefrontCapacityTier row.vcpu row.ramGb rules = tier &&
    offerMatchesTierPriceBand (bandPrice row.monthly row.hourly) (priceBands tier)

def pickForTier (rules : StorefrontCapacityRules)
    (priceBands : StorefrontChinishTier → StorefrontTierPriceBand)
    (compare : RankedItem → RankedItem → Ordering) (ranked : List RankedItem)
    (used : List String) (tier : StorefrontChinishTier) : List StorefrontSlotInput × List String :=
  let pool := tierPool rules priceBands ranked used tier
  slotsFor zoneOf (diversifyPick zoneOf pool storefrontPrimaryLimit compare) pool used compare

def buildSuggestedStorefrontAssortment (items : List ProviderCatalogItem)
    (rules : StorefrontCapacityRules)
    (priceBands : StorefrontChinishTier → StorefrontTierPriceBand)
    (style : StorefrontAssortmentStyle) :
    Except String (StorefrontChinishTier → List StorefrontSlotInput) := do
  let ranked := (← items.mapM toRanked).filterMap id
  let compare := compareByAssortmentStyle style
  let (no, used) := pickForTier zoneOf rules priceBands compare ranked [] .no
  let (ostovar, used) := pickForTier zoneOf rules priceBands compare ranked used .ostovar
  let (kahkeshan, _) := pickForTier zoneOf rules priceBands compare ranked used .kahkeshan
  pure fun
    | .no => no
    | .ostovar => ostovar
    | .kahkeshan => kahkeshan

/-! ## The counters belong to the picks -/

/-- What may be picked, said of the picks alone. -/
structure Allowed (limit : ℕ) (enforceZoneBalance : Bool) (picked : List RankedItem)
    (candidate : RankedItem) : Prop where
  room : picked.length < limit
  fresh : ∀ row ∈ picked, row.item.id ≠ candidate.item.id
  shape : ∀ row ∈ picked, resourceFingerprint row ≠ resourceFingerprint candidate
  region : picked.countP (fun row => regionKey row.item = regionKey candidate.item) < 6
  zone : enforceZoneBalance = true → picked.countP (fun row =>
    zoneOf row.item.regionCode = zoneOf candidate.item.regionCode) < storefrontZoneTarget

/-- The counters are those of the picks. -/
structure Counted (state : Picking) : Prop where
  regions : ∀ key, state.regionCounts key = state.picked.countP fun row => regionKey row.item = key
  zones : ∀ key, state.zoneCounts key =
    state.picked.countP fun row => zoneOf row.item.regionCode = key
  seen : ∀ shape, shape ∈ state.seenResources ↔
    ∃ row ∈ state.picked, resourceFingerprint row = shape

variable {zoneOf} {limit : ℕ} {enforceZoneBalance : Bool} {state : Picking} {candidate : RankedItem}

theorem countP_increase {κ : Type} [DecidableEq κ] {counts : κ → ℕ} {keyOf : RankedItem → κ}
    {picked : List RankedItem} (h : ∀ key, counts key = picked.countP fun row => keyOf row = key)
    (key : κ) : increase counts (keyOf candidate) key =
      (picked ++ [candidate]).countP fun row => keyOf row = key := by
  unfold increase
  rw [List.countP_append, List.countP_singleton, ← h key]
  by_cases hkey : key = keyOf candidate
  · rw [if_pos hkey, if_pos (by simp [hkey])]
  · rw [if_neg hkey, if_neg (by simpa using Ne.symm hkey), add_zero]

/-- A candidate that is accepted was allowed, and the counters follow. -/
theorem accept_of_allowed (h : Counted zoneOf state)
    (hallowed : Allowed zoneOf limit enforceZoneBalance state.picked candidate) :
    (accept zoneOf limit enforceZoneBalance state candidate).picked =
        state.picked ++ [candidate] ∧
      Counted zoneOf (accept zoneOf limit enforceZoneBalance state candidate) := by
  have haccept : accept zoneOf limit enforceZoneBalance state candidate = {
      picked := state.picked ++ [candidate]
      seenResources := resourceFingerprint candidate :: state.seenResources
      regionCounts := increase state.regionCounts (regionKey candidate.item)
      zoneCounts := increase state.zoneCounts (zoneOf candidate.item.regionCode) } := by
    unfold accept
    rw [if_neg (not_le.2 hallowed.room), if_neg, if_neg, if_neg, if_neg]
    · rw [Bool.and_eq_true, decide_eq_true_iff, h.zones]
      exact fun hzone => absurd hzone.2 (not_le.2 (hallowed.zone hzone.1))
    · rw [h.regions]
      exact not_le.2 hallowed.region
    · rw [h.seen]
      rintro ⟨row, hrow, hshape⟩
      exact hallowed.shape row hrow hshape
    · rw [List.any_eq_true]
      rintro ⟨row, hrow, hid⟩
      exact hallowed.fresh row hrow (by simpa using hid)
  rw [haccept]
  refine ⟨rfl, countP_increase h.regions, countP_increase h.zones, fun shape => ?_⟩
  rw [List.mem_cons, h.seen]
  constructor
  · rintro (rfl | ⟨row, hrow, rfl⟩)
    · exact ⟨candidate, by simp, rfl⟩
    · exact ⟨row, by simp [hrow], rfl⟩
  · rintro ⟨row, hrow, rfl⟩
    rcases List.mem_append.1 hrow with hrow | hrow
    · exact .inr ⟨row, hrow, rfl⟩
    · rw [List.mem_singleton.1 hrow]
      exact .inl rfl

theorem accept_of_not_allowed (h : Counted zoneOf state)
    (hnot : ¬ Allowed zoneOf limit enforceZoneBalance state.picked candidate) :
    accept zoneOf limit enforceZoneBalance state candidate = state := by
  unfold accept
  simp only
  split_ifs with hroom hfresh hshape hregion hzone
  · rfl
  · rfl
  · rfl
  · rfl
  · rfl
  · refine absurd ⟨not_le.1 hroom, fun row hrow hid => hfresh ?_, fun row hrow heq => hshape ?_,
      ?_, fun henforce => ?_⟩ hnot
    · exact List.any_eq_true.2 ⟨row, hrow, by simpa using hid⟩
    · exact (h.seen _).2 ⟨row, hrow, heq⟩
    · rw [← h.regions]
      exact not_le.1 hregion
    · rw [← h.zones]
      refine not_le.1 fun hle => hzone ?_
      rw [henforce, Bool.true_and]
      exact decide_eq_true hle

instance (picked : List RankedItem) :
    DecidablePred (Allowed zoneOf limit enforceZoneBalance picked) := fun _ =>
  decidable_of_iff (_ ∧ _ ∧ _ ∧ _ ∧ _) ⟨fun ⟨room, fresh, shape, region, zone⟩ =>
    ⟨room, fresh, shape, region, zone⟩, fun h => ⟨h.room, h.fresh, h.shape, h.region, h.zone⟩⟩

/-- **A loop is a greedy selection.** -/
theorem acceptAll_eq {stop : ℕ} {candidates : List RankedItem} (h : Counted zoneOf state) :
    (acceptAll zoneOf limit enforceZoneBalance stop state candidates).picked =
        pick (Allowed zoneOf limit enforceZoneBalance) stop state.picked candidates ∧
      Counted zoneOf (acceptAll zoneOf limit enforceZoneBalance stop state candidates) := by
  induction candidates generalizing state with
  | nil => exact ⟨rfl, h⟩
  | cons candidate rest ih =>
      rw [acceptAll, pick]
      by_cases hstop : stop ≤ state.picked.length
      · rw [if_pos hstop, if_pos hstop]
        exact ⟨rfl, h⟩
      · rw [if_neg hstop, if_neg hstop]
        by_cases hallowed : Allowed zoneOf limit enforceZoneBalance state.picked candidate
        · obtain ⟨hpicked, hcounted⟩ := accept_of_allowed h hallowed
          rw [if_pos hallowed, ← hpicked]
          exact ih hcounted
        · rw [accept_of_not_allowed h hallowed, if_neg hallowed]
          exact ih h

/-- Both loops, on the picks alone. -/
def picks (zoneOf : String → StorefrontLocationZone) (limit : ℕ) (sorted : List RankedItem) :
    List RankedItem :=
  pick (Allowed zoneOf limit false) limit
    (pick (Allowed zoneOf limit true) (min limit (storefrontZoneTarget * 2)) [] sorted) sorted

theorem diversifyPick_eq (ranked : List RankedItem) (limit : ℕ)
    (compare : RankedItem → RankedItem → Ordering) :
    diversifyPick zoneOf ranked limit compare =
      picks zoneOf limit (ranked.insertionSort fun a b => (compare a b).isLE) := by
  have hstart : Counted zoneOf ⟨[], fun _ => 0, [], fun _ => 0⟩ :=
    ⟨fun _ => rfl, fun _ => rfl, fun shape => by simp⟩
  obtain ⟨hfirst, hcounted⟩ := @acceptAll_eq zoneOf limit true _
    (min limit (storefrontZoneTarget * 2)) (ranked.insertionSort fun a b => (compare a b).isLE)
    hstart
  unfold diversifyPick picks
  rw [(acceptAll_eq hcounted).1, hfirst]

/-! ## What is picked -/

/-- The rules of a group, on ranked items. -/
structure Diverse (picked : List RankedItem) : Prop where
  ids : (picked.map (·.item.id)).Nodup
  shapes : (picked.map resourceFingerprint).Nodup
  regions : ∀ key, picked.countP (fun row => regionKey row.item = key) ≤ 6

theorem Diverse.append {picked : List RankedItem} (h : Diverse picked)
    (hallowed : Allowed zoneOf limit enforceZoneBalance picked candidate) :
    Diverse (picked ++ [candidate]) := by
  refine ⟨?_, ?_, fun key => ?_⟩
  · rw [List.map_append, List.map_singleton]
    refine List.nodup_append.2 ⟨h.ids, List.nodup_singleton _, fun id hid other hother => ?_⟩
    obtain ⟨row, hrow, rfl⟩ := List.mem_map.1 hid
    rw [List.mem_singleton.1 hother]
    exact hallowed.fresh row hrow
  · rw [List.map_append, List.map_singleton]
    refine List.nodup_append.2 ⟨h.shapes, List.nodup_singleton _,
      fun shape hshape other hother => ?_⟩
    obtain ⟨row, hrow, rfl⟩ := List.mem_map.1 hshape
    rw [List.mem_singleton.1 hother]
    exact hallowed.shape row hrow
  · rw [List.countP_append, List.countP_singleton]
    have hle := h.regions key
    have hlt := hallowed.region
    split_ifs with hkey
    · rw [← of_decide_eq_true hkey]
      omega
    · omega

/-- A group of picks is diverse, small enough, and taken from the candidates. -/
structure Group (limit : ℕ) (candidates picked : List RankedItem) : Prop where
  diverse : Diverse picked
  length_le : picked.length ≤ limit
  subset : ∀ row ∈ picked, row ∈ candidates

theorem Group.pick {stop : ℕ} {candidates picked : List RankedItem}
    (h : Group limit candidates picked) :
    Group limit candidates
      (pick (Allowed zoneOf limit enforceZoneBalance) stop picked candidates) := by
  refine pick_induction h fun picked candidate hcandidate h _ hallowed => ?_
  refine ⟨h.diverse.append hallowed, ?_, fun row hrow => ?_⟩
  · rw [List.length_append, List.length_singleton]
    exact hallowed.room
  · rcases List.mem_append.1 hrow with hrow | hrow
    · exact h.subset row hrow
    · rw [List.mem_singleton.1 hrow]
      exact hcandidate

/-- Without the balance of locations, the rule only becomes stricter. -/
theorem stricter_allowed : Stricter (Allowed zoneOf limit false) where
  mono {picked candidate} other hnot hallowed := by
    refine hnot ⟨?_, fun row hrow => hallowed.fresh row (List.mem_append_left _ hrow),
      fun row hrow => hallowed.shape row (List.mem_append_left _ hrow), ?_, nofun⟩
    · have hroom := hallowed.room
      rw [List.length_append] at hroom
      omega
    · have hregion := hallowed.region
      rw [List.countP_append] at hregion
      omega
  once picked candidate hallowed := hallowed.fresh candidate (by simp) rfl

/-- **A group that is not full is maximal.** -/
theorem diversifyPick_spec (ranked : List RankedItem) (limit : ℕ)
    (compare : RankedItem → RankedItem → Ordering) :
    Group limit ranked (diversifyPick zoneOf ranked limit compare) ∧
    ((diversifyPick zoneOf ranked limit compare).length < limit → ∀ row ∈ ranked,
      ¬ Allowed zoneOf limit false (diversifyPick zoneOf ranked limit compare) row) := by
  rw [diversifyPick_eq]
  have hmem {row : RankedItem} :
      row ∈ (ranked.insertionSort fun a b => (compare a b).isLE) ↔ row ∈ ranked :=
    List.mem_insertionSort _
  have hnil : Group limit (ranked.insertionSort fun a b => (compare a b).isLE) [] :=
    ⟨⟨List.nodup_nil, List.nodup_nil, fun _ => Nat.zero_le _⟩, Nat.zero_le _,
      fun _ hrow => absurd hrow List.not_mem_nil⟩
  constructor
  · have hgroup : Group limit _ (picks zoneOf limit _) := hnil.pick.pick
    exact ⟨hgroup.diverse, hgroup.length_le, fun row hrow => hmem.1 (hgroup.subset row hrow)⟩
  · intro hlength row hrow
    exact stricter_allowed.pick_maximal hlength row (hmem.2 hrow)

end

end AbrChin.Storefront.AutoSuggest
