import AbrChin.Pricing.ProviderPrices
import AbrChin.Storefront.AutoSuggest

/-!
# The suggested storefront is valid and maximal

The groups that are picked are read back from the slots, as groups of catalog items.

The items of a tier are those of its capacity and of its price band.  No item belongs to two tiers,
and the ids that are used are passed on, so that no item fills two slots.  An item that is not used
at the end was not used when its tier was filled; it was therefore tried for both groups of the
tier.
-/

namespace AbrChin.Storefront.AutoSuggest

open Lib Pricing

variable {zoneOf : String → StorefrontLocationZone} {rules : StorefrontCapacityRules}
  {priceBands : StorefrontChinishTier → StorefrontTierPriceBand} {item : ProviderCatalogItem}
  {row : RankedItem} {tier : StorefrontChinishTier}

/-! ## Items -/

/-- The resources of an item. -/
def shapeOf (item : ProviderCatalogItem) : ℕ × ℕ × ℕ :=
  (item.vcpu.getD 0, ramGbOf item, item.diskGb.getD 0)

/-- An item has a price for an hour, a finite Number, and its price for a month is in the band of
the tier. -/
def PricedFor (priceBands : StorefrontChinishTier → StorefrontTierPriceBand)
    (tier : StorefrontChinishTier) (item : ProviderCatalogItem) : Prop :=
  ∃ hourly monthly, catalogItemBaseHourlyPriceRial item = .ok hourly ∧
    catalogItemBasePriceRial item = .ok monthly ∧ 0 < effectiveHourly hourly monthly ∧
    (Js.double (effectiveHourly hourly monthly)).isSome = true ∧
    offerMatchesTierPriceBand (bandPrice (monthly.getD 0) (effectiveHourly hourly monthly))
      (priceBands tier) = true

/-- An item that may be suggested for a tier. -/
structure Suggestible (rules : StorefrontCapacityRules)
    (priceBands : StorefrontChinishTier → StorefrontTierPriceBand) (tier : StorefrontChinishTier)
    (item : ProviderCatalogItem) : Prop where
  active : item.active = true
  available : item.available = true
  status : item.status = .active
  cores : 0 < item.vcpu.getD 0
  memory : 0 < ramGbOf item
  tier_eq : tierOfItem item rules = tier
  priced : PricedFor priceBands tier item

/-- A row belongs to a tier. -/
def RowOf (rules : StorefrontCapacityRules)
    (priceBands : StorefrontChinishTier → StorefrontTierPriceBand) (tier : StorefrontChinishTier)
    (row : RankedItem) : Prop :=
  classifyStorefrontCapacityTier row.vcpu row.ramGb rules = tier ∧
    offerMatchesTierPriceBand (bandPrice row.monthly row.hourly) (priceBands tier) = true

/-- The row of an item. -/
theorem toRanked_eq_some (h : toRanked item = .ok (some row)) :
    row.item = item ∧ resourceFingerprint row = shapeOf item ∧
    (RowOf rules priceBands tier row ↔ Suggestible rules priceBands tier item) := by
  unfold toRanked at h
  split_ifs at h with hstatus
  · cases h
  · obtain ⟨hourly, hhourly, h⟩ := bind_eq_ok.1 h
    obtain ⟨monthly, hmonthly, h⟩ := bind_eq_ok.1 h
    simp only at h
    split_ifs at h with hmissing
    · cases h
    · split at h
      · cases h
      · rename_i priceNumber hdouble
        cases h
        simp only [Bool.or_eq_true, decide_eq_true_eq, not_or, not_le] at hmissing
        simp only [Bool.or_eq_true, Bool.not_eq_true', not_or, Bool.not_eq_false,
          decide_eq_true_eq, not_not] at hstatus
        refine ⟨rfl, rfl, fun ⟨htier, hband⟩ => ⟨hstatus.1.1, hstatus.1.2, hstatus.2,
          Nat.pos_of_ne_zero hmissing.1.2, Nat.pos_of_ne_zero hmissing.2, htier, hourly, monthly,
          hhourly, hmonthly, hmissing.1.1, by rw [hdouble]; rfl, hband⟩, fun h => ?_⟩
        obtain ⟨hourly', monthly', hhourly', hmonthly', -, -, hband⟩ := h.priced
        rw [hhourly] at hhourly'
        rw [hmonthly] at hmonthly'
        cases hhourly'
        cases hmonthly'
        exact ⟨h.tier_eq, hband⟩

theorem item_of_toRanked (h : toRanked item = .ok (some row)) : row.item = item :=
  (@toRanked_eq_some defaultStorefrontCapacityRules (fun _ => ⟨0, none⟩) item row .no h).1

/-- An item that may be suggested has a row. -/
theorem exists_row (h : Suggestible rules priceBands tier item) :
    ∃ row, toRanked item = .ok (some row) := by
  obtain ⟨hourly, monthly, hhourly, hmonthly, hpos, hfinite, -⟩ := h.priced
  obtain ⟨priceNumber, hdouble⟩ := Option.isSome_iff_exists.1 hfinite
  have hstatus : ¬ (!item.active || !item.available || item.status ≠ .active) = true := by
    simp [h.active, h.available, h.status]
  have hcores := h.cores.ne'
  have hmemory := h.memory.ne'
  have hprice : ¬ (effectiveHourly hourly monthly ≤ 0 || item.vcpu.getD 0 = 0 ||
      ramGbOf item = 0) = true := by
    simp [hcores, hmemory, hpos]
  unfold toRanked
  rw [if_neg hstatus, hhourly, hmonthly]
  simp only [bind, Except.bind, if_neg hprice, hdouble]
  exact ⟨_, rfl⟩

/-- The units of the prices are those of price contracts: what `normalizeProviderPriceContract`
finds. -/
def UnitsNormalized (items : List ProviderCatalogItem) : Prop :=
  ∀ item ∈ items, ∀ multiplier ∈ item.rialMultiplier,
    ∃ contract : ProviderPriceContract, contract.rialMultiplier = multiplier

variable {items : List ProviderCatalogItem}

theorem UnitsNormalized.pos (h : UnitsNormalized items) (hitem : item ∈ items) :
    ∀ multiplier ∈ item.rialMultiplier, 0 < multiplier := by
  intro multiplier hmultiplier
  obtain ⟨contract, rfl⟩ := h item hitem multiplier hmultiplier
  exact contract.rialMultiplier_pos

theorem catalogItemPriceRial_ok (hunit : ∀ multiplier ∈ item.rialMultiplier, 0 < multiplier)
    (amount : Option ℤ) : ∃ price, catalogItemPriceRial item amount = .ok price := by
  unfold catalogItemPriceRial
  split
  · rename_i amount multiplier hamount hmultiplier
    have hpos : 0 < amount := by simpa using (Option.filter_eq_some_iff.1 hamount).2
    have hproduct : 0 < amount * multiplier := mul_pos hpos (hunit multiplier hmultiplier)
    have hscale : (0 : ℤ) < 10 ^ item.priceScale := by positivity
    rw [providerAmountToRial, if_neg (by omega), divideRoundUp, if_neg (by omega)]
    exact ⟨_, rfl⟩
  · exact ⟨none, rfl⟩

theorem toRanked_ok (hunit : ∀ multiplier ∈ item.rialMultiplier, 0 < multiplier) :
    ∃ result, toRanked item = .ok result := by
  have hhourly : ∃ hourly, catalogItemBaseHourlyPriceRial item = .ok hourly := by
    unfold catalogItemBaseHourlyPriceRial
    split
    · exact ⟨_, rfl⟩
    · exact catalogItemPriceRial_ok hunit _
  have hmonthly : ∃ monthly, catalogItemBasePriceRial item = .ok monthly := by
    unfold catalogItemBasePriceRial
    split
    · exact ⟨_, rfl⟩
    · exact catalogItemPriceRial_ok hunit _
  obtain ⟨hourly, hhourly⟩ := hhourly
  obtain ⟨monthly, hmonthly⟩ := hmonthly
  unfold toRanked
  split_ifs
  · exact ⟨_, rfl⟩
  · rw [hhourly, hmonthly]
    simp only [bind, Except.bind]
    split_ifs
    · exact ⟨_, rfl⟩
    · split
      · exact ⟨_, rfl⟩
      · exact ⟨_, rfl⟩

/-! ## Ranked items -/

/-- The rows of the items, in their order. -/
structure Ranked (items : List ProviderCatalogItem) (ranked : List RankedItem) : Prop where
  mem_iff : ∀ row, row ∈ ranked ↔ ∃ item ∈ items, toRanked item = .ok (some row)
  sublist : (ranked.map (·.item)).Sublist items

theorem ranked_of_mapM {rows : List (Option RankedItem)} (h : items.mapM toRanked = .ok rows) :
    Ranked items (rows.filterMap id) := by
  induction items generalizing rows with
  | nil =>
      cases h
      exact ⟨fun row => by simp, .slnil⟩
  | cons item items ih =>
      rw [List.mapM_cons] at h
      obtain ⟨first, hfirst, h⟩ := bind_eq_ok.1 h
      obtain ⟨rest, hrest, h⟩ := bind_eq_ok.1 h
      cases h
      have ih := ih hrest
      cases first with
      | none =>
          refine ⟨fun row => ?_, ih.sublist.cons item⟩
          simp only [List.filterMap_cons_none (id_eq none), ih.mem_iff, List.mem_cons,
            exists_eq_or_imp, hfirst]
          simp
      | some first =>
          refine ⟨fun row => ?_, ?_⟩
          · simp only [List.filterMap_cons_some (id_eq (some first)), ih.mem_iff, List.mem_cons,
              exists_eq_or_imp, hfirst]
            simp [eq_comm]
          · rw [List.filterMap_cons_some (id_eq (some first)), List.map_cons]
            rw [item_of_toRanked hfirst]
            exact ih.sublist.cons_cons item

theorem mapM_toRanked_ok (hunits : UnitsNormalized items) :
    ∃ rows, items.mapM toRanked = .ok rows := by
  induction items with
  | nil => exact ⟨[], rfl⟩
  | cons item items ih =>
      obtain ⟨first, hfirst⟩ := toRanked_ok (hunits.pos List.mem_cons_self)
      obtain ⟨rest, hrest⟩ := ih fun item hitem => hunits item (List.mem_cons_of_mem _ hitem)
      refine ⟨first :: rest, ?_⟩
      rw [List.mapM_cons, hfirst, hrest]
      rfl

/-! ## Slots -/

/-- The items of slots. -/
def groupItems (items : List ProviderCatalogItem) (slots : List StorefrontSlotInput) :
    List ProviderCatalogItem :=
  (slots.map (·.catalogItemId)).filterMap fun id => items.find? (·.id = id)

theorem ids_slots (role : StorefrontSlotRole) (rows : List RankedItem) :
    (slots role rows).map (·.catalogItemId) = rows.map (·.item.id) := by
  apply List.ext_getElem
  · simp [slots]
  · intro i hi hi'
    simp [slots]

variable {rows : List RankedItem}

theorem role_slots {role : StorefrontSlotRole} {slot : StorefrontSlotInput}
    (h : slot ∈ slots role rows) : slot.role = role := by
  obtain ⟨i, hi, rfl⟩ := List.mem_mapIdx.1 h
  rfl

/-- An item is found by its id. -/
theorem find?_id (hids : (items.map (·.id)).Nodup) (h : item ∈ items) :
    items.find? (·.id = item.id) = some item := by
  cases hfind : items.find? (·.id = item.id) with
  | none => exact absurd (decide_eq_true rfl) (List.find?_eq_none.1 hfind item h)
  | some other =>
      have hid := List.find?_some hfind
      exact congrArg some (List.inj_on_of_nodup_map hids (List.mem_of_find?_eq_some hfind) h
        (by simpa using hid))

theorem groupItems_slots {items : List ProviderCatalogItem} (hids : (items.map (·.id)).Nodup)
    {role : StorefrontSlotRole} {rows : List RankedItem} (hrows : ∀ row ∈ rows, row.item ∈ items) :
    groupItems items (slots role rows) = rows.map (·.item) := by
  unfold groupItems
  rw [ids_slots]
  induction rows with
  | nil => rfl
  | cons row rows ih =>
      have hfind := find?_id hids (hrows row List.mem_cons_self)
      rw [List.map_cons, List.filterMap_cons, hfind,
        ih fun row hrow => hrows row (List.mem_cons_of_mem _ hrow), List.map_cons]

/-! ## One tier -/

theorem mem_tierPool {ranked : List RankedItem} {used : List String} :
    row ∈ tierPool rules priceBands ranked used tier ↔
      row ∈ ranked ∧ row.item.id ∉ used ∧ RowOf rules priceBands tier row := by
  rw [tierPool, List.mem_filter, Bool.and_eq_true, Bool.and_eq_true, decide_eq_true_iff,
    decide_eq_true_iff, RowOf, and_assoc]

/-- The groups of a tier, picked when `used` were used. -/
structure TierGroups (zoneOf : String → StorefrontLocationZone) (rules : StorefrontCapacityRules)
    (priceBands : StorefrontChinishTier → StorefrontTierPriceBand) (ranked : List RankedItem)
    (used : List String) (tier : StorefrontChinishTier) (primary reserve : List RankedItem) :
    Prop where
  primaryGroup : Group storefrontPrimaryLimit (tierPool rules priceBands ranked used tier) primary
  reserveGroup : Group storefrontReserveLimit (tierPool rules priceBands ranked used tier) reserve
  apart : ∀ row ∈ reserve, row.item.id ∉ primary.map (·.item.id)
  primaryFull : primary.length < storefrontPrimaryLimit →
    ∀ row ∈ tierPool rules priceBands ranked used tier,
      ¬ Allowed zoneOf storefrontPrimaryLimit false primary row
  reserveFull : reserve.length < storefrontReserveLimit →
    ∀ row ∈ tierPool rules priceBands ranked used tier, row.item.id ∉ primary.map (·.item.id) →
      ¬ Allowed zoneOf storefrontReserveLimit false reserve row

theorem pickForTier_spec (compare : RankedItem → RankedItem → Ordering) (ranked : List RankedItem)
    (used : List String) (tier : StorefrontChinishTier) : ∃ primary reserve,
    pickForTier zoneOf rules priceBands compare ranked used tier =
      (slots .primary primary ++ slots .reserve reserve,
        used ++ primary.map (·.item.id) ++ reserve.map (·.item.id)) ∧
    TierGroups zoneOf rules priceBands ranked used tier primary reserve := by
  let pool := tierPool rules priceBands ranked used tier
  let primary := diversifyPick zoneOf pool storefrontPrimaryLimit compare
  let rest := pool.filter (·.item.id ∉ used ++ primary.map (·.item.id))
  let reserve := diversifyPick zoneOf rest storefrontReserveLimit compare
  obtain ⟨hprimary, hprimaryFull⟩ := @diversifyPick_spec zoneOf pool storefrontPrimaryLimit compare
  obtain ⟨hreserve, hreserveFull⟩ := @diversifyPick_spec zoneOf rest storefrontReserveLimit compare
  have hrest {row : RankedItem} : row ∈ rest ↔ row ∈ pool ∧
      row.item.id ∉ primary.map (·.item.id) := by
    rw [List.mem_filter, decide_eq_true_iff, List.mem_append, not_or]
    exact and_congr_right fun hrow => and_iff_right (mem_tierPool.1 hrow).2.1
  refine ⟨primary, reserve, rfl, hprimary, ⟨hreserve.diverse, hreserve.length_le,
    fun row hrow => (hrest.1 (hreserve.subset row hrow)).1⟩,
    fun row hrow => (hrest.1 (hreserve.subset row hrow)).2, hprimaryFull,
    fun hlength row hrow hid => hreserveFull hlength row (hrest.2 ⟨hrow, hid⟩)⟩

namespace TierGroups

variable {ranked : List RankedItem} {used : List String} {primary reserve : List RankedItem}

/-- The ids of a tier: each once, and none that was used before. -/
theorem nodup (h : TierGroups zoneOf rules priceBands ranked used tier primary reserve) :
    (primary.map (·.item.id) ++ reserve.map (·.item.id)).Nodup ∧
      ∀ id ∈ primary.map (·.item.id) ++ reserve.map (·.item.id), id ∉ used := by
  constructor
  · refine List.nodup_append.2 ⟨h.primaryGroup.diverse.ids, h.reserveGroup.diverse.ids, ?_⟩
    rintro id hid other hother rfl
    obtain ⟨row, hrow, rfl⟩ := List.mem_map.1 hother
    exact h.apart row hrow hid
  · intro id hid
    rw [List.mem_append, List.mem_map, List.mem_map] at hid
    rcases hid with ⟨row, hrow, rfl⟩ | ⟨row, hrow, rfl⟩
    · exact (mem_tierPool.1 (h.primaryGroup.subset row hrow)).2.1
    · exact (mem_tierPool.1 (h.reserveGroup.subset row hrow)).2.1

end TierGroups

/-! ## Groups of items -/

/-- The rules of a group: its shapes are distinct, and no region occurs more than six times. -/
structure Obeys (group : List ProviderCatalogItem) : Prop where
  shapes : (group.map shapeOf).Nodup
  regions : ∀ key, group.countP (regionKey · = key) ≤ 6

/-- The limit of a role. -/
def limitOf : StorefrontSlotRole → ℕ
  | .primary => storefrontPrimaryLimit
  | .reserve => storefrontReserveLimit

theorem shapes_map (hrows : ∀ row ∈ rows, resourceFingerprint row = shapeOf row.item) :
    (rows.map (·.item)).map shapeOf = rows.map resourceFingerprint := by
  rw [List.map_map]
  exact List.map_congr_left fun row hrow => (hrows row hrow).symm

theorem obeys_of_diverse (h : Diverse rows)
    (hrows : ∀ row ∈ rows, resourceFingerprint row = shapeOf row.item) :
    Obeys (rows.map (·.item)) := by
  refine ⟨by rw [shapes_map hrows]; exact h.shapes, fun key => ?_⟩
  rw [List.countP_map]
  exact h.regions key

/-- What may not be picked cannot be added to a group that has room and does not contain it. -/
theorem not_obeys_append {limit : ℕ}
    (hrows : ∀ row ∈ rows, resourceFingerprint row = shapeOf row.item)
    (hrow : resourceFingerprint row = shapeOf row.item) (hroom : rows.length < limit)
    (hfresh : row.item.id ∉ rows.map (·.item.id)) (hnot : ¬ Allowed zoneOf limit false rows row) :
    ¬ Obeys (rows.map (·.item) ++ [row.item]) := by
  intro h
  refine hnot ⟨hroom, fun other hother hid => hfresh (List.mem_map.2 ⟨other, hother, hid⟩),
    fun other hother hshape => ?_, ?_, fun hzone => absurd hzone Bool.false_ne_true⟩
  · have hshapes := h.shapes
    rw [List.map_append, List.map_singleton, shapes_map hrows] at hshapes
    exact (List.nodup_append.1 hshapes).2.2 _ (List.mem_map_of_mem hother) _
      (List.mem_singleton.2 rfl) (hshape.trans hrow)
  · have hregion := h.regions (regionKey row.item)
    rw [List.countP_append, List.countP_singleton, if_pos (by simp), List.countP_map] at hregion
    exact Nat.lt_of_succ_le hregion

/-! ## All tiers -/

/-- The ids that are used when a tier is filled. -/
def usedBefore (ids : StorefrontChinishTier → List String) : StorefrontChinishTier → List String
  | .no => []
  | .ostovar => ids .no
  | .kahkeshan => ids .no ++ ids .ostovar

/-- The ids of the groups of a tier. -/
def tierIds (primary reserve : StorefrontChinishTier → List RankedItem)
    (tier : StorefrontChinishTier) : List String :=
  (primary tier).map (·.item.id) ++ (reserve tier).map (·.item.id)

theorem exists_groups {items : List ProviderCatalogItem} {rows : List (Option RankedItem)}
    (h : items.mapM toRanked = .ok rows) (style : StorefrontAssortmentStyle) :
    ∃ suggestion primary reserve,
      buildSuggestedStorefrontAssortment zoneOf items rules priceBands style = .ok suggestion ∧
      (∀ tier, suggestion tier = slots .primary (primary tier) ++ slots .reserve (reserve tier)) ∧
      ∀ tier, TierGroups zoneOf rules priceBands (rows.filterMap id)
        (usedBefore (tierIds primary reserve) tier) tier (primary tier) (reserve tier) := by
  obtain ⟨noPrimary, noReserve, hno, hnoGroups⟩ := @pickForTier_spec zoneOf rules priceBands
    (compareByAssortmentStyle style) (rows.filterMap id) [] .no
  obtain ⟨ostovarPrimary, ostovarReserve, hostovar, hostovarGroups⟩ := @pickForTier_spec zoneOf
    rules priceBands (compareByAssortmentStyle style) (rows.filterMap id)
    ([] ++ noPrimary.map (·.item.id) ++ noReserve.map (·.item.id)) .ostovar
  obtain ⟨kahkeshanPrimary, kahkeshanReserve, hkahkeshan, hkahkeshanGroups⟩ := @pickForTier_spec
    zoneOf rules priceBands (compareByAssortmentStyle style) (rows.filterMap id)
    ([] ++ noPrimary.map (·.item.id) ++ noReserve.map (·.item.id) ++
      ostovarPrimary.map (·.item.id) ++ ostovarReserve.map (·.item.id)) .kahkeshan
  refine ⟨fun
    | .no => slots .primary noPrimary ++ slots .reserve noReserve
    | .ostovar => slots .primary ostovarPrimary ++ slots .reserve ostovarReserve
    | .kahkeshan => slots .primary kahkeshanPrimary ++ slots .reserve kahkeshanReserve,
    fun
    | .no => noPrimary
    | .ostovar => ostovarPrimary
    | .kahkeshan => kahkeshanPrimary,
    fun
    | .no => noReserve
    | .ostovar => ostovarReserve
    | .kahkeshan => kahkeshanReserve, ?_, fun tier => ?_, fun tier => ?_⟩
  · unfold buildSuggestedStorefrontAssortment
    rw [h]
    simp only [bind, Except.bind, hno, hostovar, hkahkeshan]
    refine congrArg Except.ok (funext fun tier => ?_)
    cases tier with
    | no => rfl
    | ostovar => rfl
    | kahkeshan => rfl
  · cases tier with
    | no => rfl
    | ostovar => rfl
    | kahkeshan => rfl
  · cases tier with
    | no => exact hnoGroups
    | ostovar => exact hostovarGroups
    | kahkeshan =>
        simp only [List.append_assoc, List.nil_append] at hkahkeshanGroups
        simp only [usedBefore, tierIds, List.append_assoc]
        exact hkahkeshanGroups

/-- The ids of all tiers: each once. -/
theorem nodup_tierIds {primary reserve : StorefrontChinishTier → List RankedItem}
    {ranked : List RankedItem}
    (h : ∀ tier, TierGroups zoneOf rules priceBands ranked
      (usedBefore (tierIds primary reserve) tier) tier (primary tier) (reserve tier)) :
    (storefrontTiers.flatMap (tierIds primary reserve)).Nodup := by
  have happart (tier : StorefrontChinishTier) : (tierIds primary reserve tier).Nodup ∧
      ∀ id ∈ tierIds primary reserve tier, id ∉ usedBefore (tierIds primary reserve) tier :=
    (h tier).nodup
  have hunfold : storefrontTiers.flatMap (tierIds primary reserve) =
      tierIds primary reserve .no ++ tierIds primary reserve .ostovar ++
        tierIds primary reserve .kahkeshan := by
    simp [storefrontTiers]
  rw [hunfold]
  refine List.nodup_append.2 ⟨List.nodup_append.2 ⟨(happart .no).1, (happart .ostovar).1, ?_⟩,
    (happart .kahkeshan).1, ?_⟩
  · rintro id hid other hother rfl
    exact (happart .ostovar).2 id hother hid
  · rintro id hid other hother rfl
    exact (happart .kahkeshan).2 id hother hid

/-- The rows of a role. -/
def ofRole (primary reserve : List RankedItem) : StorefrontSlotRole → List RankedItem
  | .primary => primary
  | .reserve => reserve

theorem filter_slots (role other : StorefrontSlotRole) (rows : List RankedItem) :
    (slots other rows).filter (·.role = role) = if other = role then slots other rows else [] := by
  by_cases hrole : other = role
  · rw [if_pos hrole, List.filter_eq_self]
    intro slot hslot
    exact decide_eq_true ((role_slots hslot).trans hrole)
  · rw [if_neg hrole, List.filter_eq_nil_iff]
    intro slot hslot
    rw [decide_eq_true_iff, role_slots hslot]
    exact hrole

/-- The slots of a role are those of its rows. -/
theorem slots_of_role (primary reserve : List RankedItem) (role : StorefrontSlotRole) :
    (slots .primary primary ++ slots .reserve reserve).filter (·.role = role) =
      slots role (ofRole primary reserve role) := by
  rw [List.filter_append, filter_slots, filter_slots]
  cases role with
  | primary => exact List.append_nil _
  | reserve => rfl

theorem TierGroups.group {ranked primary reserve : List RankedItem} {used : List String}
    (h : TierGroups zoneOf rules priceBands ranked used tier primary reserve)
    (role : StorefrontSlotRole) :
    Group (limitOf role) (tierPool rules priceBands ranked used tier)
      (ofRole primary reserve role) := by
  cases role with
  | primary => exact h.primaryGroup
  | reserve => exact h.reserveGroup

/-- A row that was not used, and fills no slot, could not be picked. -/
theorem TierGroups.full {ranked primary reserve : List RankedItem} {used : List String}
    (h : TierGroups zoneOf rules priceBands ranked used tier primary reserve)
    (role : StorefrontSlotRole)
    (hlength : (ofRole primary reserve role).length < limitOf role)
    (hrow : row ∈ tierPool rules priceBands ranked used tier)
    (hfresh : row.item.id ∉ primary.map (·.item.id)) :
    ¬ Allowed zoneOf (limitOf role) false
      (ofRole primary reserve role) row := by
  cases role with
  | primary => exact h.primaryFull hlength row hrow
  | reserve => exact h.reserveFull hlength row hrow hfresh

/-- **The suggested storefront is valid and maximal.**

No item fills two slots.  Every slot holds an item of the catalog that may be suggested for its
tier.  The primary items of a tier, at most 24, and its reserves, at most 12, are groups that obey
the rules; and a group with room obeys them no more when an item of the tier is added that fills no
slot. -/
theorem suggested_storefront_maximal (items : List ProviderCatalogItem)
    (hids : (items.map (·.id)).Nodup) (hunits : UnitsNormalized items)
    (style : StorefrontAssortmentStyle) :
    ∃ suggestion,
      buildSuggestedStorefrontAssortment zoneOf items rules priceBands style = .ok suggestion ∧
      ((storefrontTiers.flatMap suggestion).map (·.catalogItemId)).Nodup ∧
      ∀ tier,
        (∀ slot ∈ suggestion tier, ∃ item ∈ items, item.id = slot.catalogItemId ∧
          Suggestible rules priceBands tier item) ∧
        ∀ role,
          ((suggestion tier).filter (·.role = role)).length ≤ limitOf role ∧
          Obeys (groupItems items ((suggestion tier).filter (·.role = role))) ∧
          (((suggestion tier).filter (·.role = role)).length < limitOf role →
            ∀ item ∈ items, Suggestible rules priceBands tier item →
              (∀ other, item.id ∉ (suggestion other).map (·.catalogItemId)) →
              ¬ Obeys (groupItems items ((suggestion tier).filter (·.role = role)) ++ [item])) := by
  obtain ⟨rows, hrows⟩ := mapM_toRanked_ok hunits
  obtain ⟨suggestion, primary, reserve, hbuild, hslots, hgroups⟩ :=
    @exists_groups zoneOf rules priceBands items rows hrows style
  have hranked := ranked_of_mapM hrows
  have hitemIds (tier : StorefrontChinishTier) :
      (suggestion tier).map (·.catalogItemId) = tierIds primary reserve tier := by
    rw [hslots, List.map_append, ids_slots, ids_slots, tierIds]
  have hpool {tier : StorefrontChinishTier} {row : RankedItem} {used : List String}
      (hrow : row ∈ tierPool rules priceBands (rows.filterMap id) used tier) :
      row.item ∈ items ∧ resourceFingerprint row = shapeOf row.item ∧
        Suggestible rules priceBands tier row.item := by
    obtain ⟨hmem, -, hof⟩ := mem_tierPool.1 hrow
    obtain ⟨item, hitem, hranked⟩ := (hranked.mem_iff row).1 hmem
    obtain ⟨rfl, hshape, hsuggestible⟩ := toRanked_eq_some hranked
    exact ⟨hitem, hshape, hsuggestible.1 hof⟩
  refine ⟨suggestion, hbuild, ?_, fun tier => ⟨fun slot hslot => ?_, fun role => ?_⟩⟩
  · rw [List.map_flatMap]
    simp only [hitemIds]
    exact nodup_tierIds hgroups
  · have hid : slot.catalogItemId ∈ tierIds primary reserve tier := by
      rw [← hitemIds]
      exact List.mem_map_of_mem hslot
    rw [tierIds, List.mem_append, List.mem_map, List.mem_map] at hid
    rcases hid with ⟨row, hrow, hid⟩ | ⟨row, hrow, hid⟩
    · obtain ⟨hitem, -, hsuggestible⟩ := hpool ((hgroups tier).primaryGroup.subset row hrow)
      exact ⟨row.item, hitem, hid, hsuggestible⟩
    · obtain ⟨hitem, -, hsuggestible⟩ := hpool ((hgroups tier).reserveGroup.subset row hrow)
      exact ⟨row.item, hitem, hid, hsuggestible⟩
  · have hgroup := (hgroups tier).group role
    have hrows (row : RankedItem) (hrow : row ∈ ofRole (primary tier) (reserve tier) role) :=
      hpool (hgroup.subset row hrow)
    have hshapes (row : RankedItem) (hrow : row ∈ ofRole (primary tier) (reserve tier) role) :=
      (hrows row hrow).2.1
    have hitems := @groupItems_slots items hids role _ fun row hrow => (hrows row hrow).1
    rw [hslots, slots_of_role, hitems, slots, List.length_mapIdx]
    refine ⟨hgroup.length_le, obeys_of_diverse hgroup.diverse hshapes, ?_⟩
    intro hlength item hitem hsuggestible hunused
    obtain ⟨row, hrow⟩ := exists_row hsuggestible
    obtain ⟨rfl, hshape, hof⟩ := @toRanked_eq_some rules priceBands _ row tier hrow
    have hfree (other : StorefrontChinishTier) :
        row.item.id ∉ tierIds primary reserve other := by
      rw [← hitemIds]
      exact hunused other
    -- it is used in no tier, so it was not used when its tier was filled
    have hbefore : row.item.id ∉ usedBefore (tierIds primary reserve) tier := by
      cases tier with
      | no => exact List.not_mem_nil
      | ostovar => exact hfree .no
      | kahkeshan =>
          rw [usedBefore, List.mem_append, not_or]
          exact ⟨hfree .no, hfree .ostovar⟩
    have hmem : row ∈ tierPool rules priceBands (rows.filterMap id)
        (usedBefore (tierIds primary reserve) tier) tier :=
      mem_tierPool.2 ⟨(hranked.mem_iff row).2 ⟨row.item, hitem, hrow⟩, hbefore,
        hof.2 hsuggestible⟩
    have hfresh := hfree tier
    rw [tierIds, List.mem_append, not_or] at hfresh
    have hrole : row.item.id ∉ (ofRole (primary tier) (reserve tier) role).map (·.item.id) := by
      cases role with
      | primary => exact hfresh.1
      | reserve => exact hfresh.2
    exact not_obeys_append hshapes hshape hlength hrole
      ((hgroups tier).full role hlength hmem hfresh.1)

/-- A server priced in Toman. -/
def suggestedItem (id : String) (vcpu : ℕ) : ProviderCatalogItem where
  id
  provider := .arvan
  apiVersion := "v1"
  productKind := .cloudServer
  source := .apiCatalog
  regionCode := "ir-thr"
  sizeCode := id
  externalPlanId := none
  compatibleImageCodes := ["linux"]
  vcpu := some vcpu
  ramMb := some 2048
  diskGb := some 25
  available := true
  active := true
  status := .active
  providerMonthlyPriceIrr := none
  priceMonthlyAmount := some 400000
  priceScale := 0
  rialMultiplier := some 10
  manualLastVerifiedAt := none
  manualPriceValidUntil := none

def suggestedItems : List ProviderCatalogItem :=
  [suggestedItem "small" 1, suggestedItem "double" 2, suggestedItem "same" 2]

theorem suggested_storefront_maximal_sample : ∃ suggestion,
    buildSuggestedStorefrontAssortment (fun _ => .iran) suggestedItems
        defaultStorefrontCapacityRules (fun _ => ⟨0, none⟩) .cheapest = .ok suggestion ∧
      ((storefrontTiers.flatMap suggestion).map (·.catalogItemId)).Nodup := by
  have hids : (suggestedItems.map (·.id)).Nodup := by decide
  have hunits : UnitsNormalized suggestedItems := by
    intro item hitem multiplier hmultiplier
    refine ⟨⟨.toman⟩, ?_⟩
    simp only [suggestedItems, List.mem_cons, List.not_mem_nil, or_false] at hitem
    rcases hitem with rfl | rfl | rfl
    · exact Option.some.inj hmultiplier
    · exact Option.some.inj hmultiplier
    · exact Option.some.inj hmultiplier
  obtain ⟨suggestion, hbuild, hnodup, -⟩ := @suggested_storefront_maximal (fun _ => .iran)
    defaultStorefrontCapacityRules (fun _ => ⟨0, none⟩) suggestedItems hids hunits .cheapest
  exact ⟨suggestion, hbuild, hnodup⟩

end AbrChin.Storefront.AutoSuggest
