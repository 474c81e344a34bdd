import AbrChin.Finance.Publish

/-!
# Rolling back to the prices of a revision

A rollback publishes the snapshot of a revision again.  The snapshot holds the curve, the tax and the
providers, but of the products and the protection levels only those that the publish had listed; the
others keep what has been published for them since.

So a rollback restores what prices are made of exactly where the products and the levels that the
revision does not list are as it left them (`samePricing_iff`).  A rollback whose key has been used
before publishes nothing: it returns the revision that the key stands for.
-/

namespace AbrChin.Finance

open Lib Pricing

/-! ## What a publish lists -/

def FinanceProviderInput.entry (item : FinanceProviderInput) :
    InfrastructureProvider × Option ℤ :=
  (item.provider, if item.enabled then
    some ((grossMarginBpsToMarkupBps item.targetGrossMarginBps).toOption.getD 0) else none)

def FinanceProductMarkupInput.entry (item : FinanceProductMarkupInput) :
    (InfrastructureProvider × String × InfrastructureProductKind) × Option ℤ :=
  (item.key, if item.enabled then some item.markupBasisPoints else none)

def FinanceParchinInput.entry (item : FinanceParchinInput) : ParchinLevel × ℤ × Bool :=
  (item.level, item.priceRial, item.active)

/-- The API version of a provider stays. -/
def writeProvider (_ : InfrastructureProvider) (markup : Option ℤ)
    (row : Option (String × Option ℤ)) : Option (String × Option ℤ) :=
  some ((row.map Prod.fst).getD "v1", markup)

def writeProduct (_ : InfrastructureProvider × String × InfrastructureProductKind)
    (markup _ : Option ℤ) : Option ℤ := markup

/-- The operational evidence of a level stays. -/
def writeParchin (_ : ParchinLevel) (listed : ℤ × Bool) (row : Bool × Option ℤ) :
    Bool × Option ℤ :=
  (row.1, if listed.2 && row.1 then some listed.1 else none)

/-- Whether there is operational evidence for a level, and its price when it is sold. -/
def parchinOffer (table : Table fun row : ParchinContract => row.level) (level : ParchinLevel) :
    Bool × Option ℤ :=
  ((table.find? level).any fun row => row.operationalEvidenceApprovedAt.isSome,
    ((table.find? level).filter fun row =>
      isParchinConfigSellable row.toParchinPricingConfig).map fun row => row.priceRial)

theorem parchinPrice_eq (db : FinanceDb) (level : ParchinLevel) :
    db.pricingRows.parchinPrice level = (parchinOffer db.parchin level).2 := by
  have hfind : db.pricingRows.parchin.find? level =
      (db.parchin.find? level).map ParchinContract.toParchinPricingConfig :=
    Table.find?_map (fun _ => rfl) level
  rw [PricingRows.parchinPrice, hfind, parchinOffer]
  cases db.parchin.find? level with
  | none => rfl
  | some row =>
      cases hsold : isParchinConfigSellable row.toParchinPricingConfig <;>
        simp [Option.filter, hsold]

theorem overwrites_writeProvider : Overwrites writeProvider := fun _ _ _ _ => rfl

theorem overwrites_writeParchin : Overwrites writeParchin := fun _ _ _ _ => rfl

section Writes

variable {prepared : PreparedPublish} {db later : FinanceDb}
  {revision : FinanceConfigurationRevision}

theorem Written.providerMarkup (h : Written prepared db revision later) :
    later.pricingRows.providerMarkup = overlay writeProvider db.pricingRows.providerMarkup
      (prepared.input.providers.map FinanceProviderInput.entry) := by
  refine overlay_of_foldlM (fun (table : Table ProviderPricingConfig.provider) provider =>
    (table.find? provider).map fun row =>
      (row.apiVersion, if row.enabled then some row.markupBasisPoints else none)) ?_ h.providers
  intro table item next hnext
  obtain ⟨markup, hmarkup, hfind⟩ := find?_upsertProvider hnext
  have hentry : item.entry = (item.provider, if item.enabled then some markup else none) := by
    rw [FinanceProviderInput.entry, hmarkup]
    rfl
  funext provider
  rw [hfind, hentry]
  by_cases hprovider : provider = item.provider
  · subst hprovider
    rw [Function.update_self, Function.update_self]
    cases table.find? item.provider with
    | none => rfl
    | some row => rfl
  · rw [Function.update_of_ne hprovider, Function.update_of_ne hprovider]

theorem Written.productMarkup (h : Written prepared db revision later) :
    later.pricingRows.productMarkup = overlay writeProduct db.pricingRows.productMarkup
      (prepared.input.productMarkups.map FinanceProductMarkupInput.entry) := by
  refine overlay_of_foldlM (fun (table : Table ProductPricingConfig.key) key =>
    ((table.find? key).filter (·.enabled)).map ProductPricingConfig.markupBasisPoints) ?_ h.products
  intro table item next hnext
  funext key
  rw [find?_upsertProduct hnext, FinanceProductMarkupInput.entry]
  by_cases hkey : key = item.key
  · subst hkey
    rw [Function.update_self, Function.update_self]
    cases table.find? item.key with
    | none => cases item.enabled <;> simp [Option.filter, writeProduct]
    | some row => cases item.enabled <;> simp [Option.filter, writeProduct]
  · rw [Function.update_of_ne hkey, Function.update_of_ne hkey]

theorem Written.parchinOffer (h : Written prepared db revision later) :
    parchinOffer later.parchin = overlay writeParchin (parchinOffer db.parchin)
      (prepared.input.parchin.map FinanceParchinInput.entry) := by
  refine overlay_of_foldlM Finance.parchinOffer ?_ h.parchin
  intro table item next hnext
  obtain ⟨existing, hexisting, hfind⟩ := find?_updateParchin hnext
  funext level
  rw [Finance.parchinOffer, hfind]
  by_cases hlevel : level = item.level
  · subst hlevel
    rw [FinanceParchinInput.entry, Function.update_self, Function.update_self,
      Finance.parchinOffer, hexisting]
    cases hactive : item.active <;> cases hevidence : existing.operationalEvidenceApprovedAt <;>
      simp [Option.filter, writeParchin, isParchinConfigSellable, ParchinContract.published,
        hactive, hevidence]
  · rw [Function.update_of_ne hlevel, FinanceParchinInput.entry, Function.update_of_ne hlevel,
      Finance.parchinOffer]

/-- The curve that prices are made with is the one that was published. -/
theorem Written.loadProfitCurveConfiguration (h : Written prepared db revision later) :
    later.pricingRows.loadProfitCurveConfiguration = ⟨prepared.profitCurve.enabled,
      prepared.profitCurve.minimumPostDiscountGrossMarginBps, later.bands⟩ := by
  rw [PricingRows.loadProfitCurveConfiguration, FinanceDb.pricingRows, h.curve]
  rfl

theorem sortBands_sortBands (bands : List ProfitCurveBandInput) :
    sortBands (sortBands bands) = sortBands bands := by
  have htotal : Std.Total fun a b : ProfitCurveBandInput => a.sortOrder ≤ b.sortOrder :=
    ⟨fun a b => le_total a.sortOrder b.sortOrder⟩
  have htrans : IsTrans ProfitCurveBandInput fun a b => a.sortOrder ≤ b.sortOrder :=
    ⟨fun _ _ _ => le_trans⟩
  exact (List.pairwise_insertionSort _ bands).insertionSort_eq

end Writes

/-! ## What a rollback restores -/

/-- Two publishes list the same, but for the ids of the bands. -/
structure SameListing (first second : PreparedPublish) : Prop where
  providers : second.input.providers = first.input.providers
  productMarkups : second.input.productMarkups = first.input.productMarkups
  parchin : second.input.parchin.map FinanceParchinInput.entry =
    first.input.parchin.map FinanceParchinInput.entry
  taxBps : second.input.taxBps = first.input.taxBps
  enabled : second.profitCurve.enabled = first.profitCurve.enabled
  discountFloor : second.profitCurve.minimumPostDiscountGrossMarginBps =
    first.profitCurve.minimumPostDiscountGrossMarginBps
  bands : second.profitCurve.bands.map ProfitCurveBandInput.unnamed =
    (sortBands first.profitCurve.bands).map ProfitCurveBandInput.unnamed

/-- What no publish writes is the same. -/
structure SameFrozen (db now : FinanceDb) : Prop where
  provider : SameBelow writeProvider now.pricingRows.providerMarkup db.pricingRows.providerMarkup
  parchin : SameBelow writeParchin (parchinOffer now.parchin) (parchinOffer db.parchin)

/-- The products and the protection levels that a revision does not list are sold for what they were
sold for right after it. -/
structure KeepsUnlisted (snapshot : FinanceSnapshot) (published now : FinanceDb) : Prop where
  product : ∀ key ∉ (snapshot.productMarkups.map FinanceProductMarkupInput.entry).map Prod.fst,
    now.pricingRows.productMarkup key = published.pricingRows.productMarkup key
  parchin : ∀ level ∉ snapshot.parchin.map FinanceParchinSnapshot.level,
    now.pricingRows.parchinPrice level = published.pricingRows.parchinPrice level

section Restored

variable {prepared again : PreparedPublish} {db published now restored : FinanceDb}
  {revision restoring : FinanceConfigurationRevision}

theorem SameFrozen.trans {later : FinanceDb} (h : SameFrozen db now) (h' : SameFrozen now later) :
    SameFrozen db later :=
  ⟨h'.provider.trans h.provider, h'.parchin.trans h.parchin⟩

theorem Written.sameFrozen (h : Written prepared db revision published) :
    SameFrozen db published := by
  constructor
  · rw [h.providerMarkup]
    exact overwrites_writeProvider.sameBelow_overlay _ _
  · rw [h.parchinOffer]
    exact overwrites_writeParchin.sameBelow_overlay _ _

/-- Every publish lists the one provider that there is. -/
theorem mem_listed (hproviders : prepared.input.providers ≠ []) (provider : InfrastructureProvider) :
    provider ∈ (prepared.input.providers.map FinanceProviderInput.entry).map Prod.fst := by
  obtain ⟨item, hitem⟩ := List.exists_mem_of_ne_nil _ hproviders
  have hmem := List.mem_map_of_mem (f := Prod.fst) (List.mem_map_of_mem (f := FinanceProviderInput.entry) hitem)
  cases provider
  cases hprovider : item.entry.1
  rwa [hprovider] at hmem

/-- Two offers of a level with the same evidence are the same when they have the same price. -/
theorem parchinOffer_eq_iff (hfrozen : SameFrozen db now) (level : ParchinLevel) :
    parchinOffer now.parchin level = parchinOffer db.parchin level ↔
      now.pricingRows.parchinPrice level = db.pricingRows.parchinPrice level := by
  have hevidence := congrArg Prod.fst (hfrozen.parchin level (0, true))
  rw [parchinPrice_eq, parchinPrice_eq, Prod.ext_iff]
  exact and_iff_right hevidence

/-- **What prices are made of is restored exactly where the rest is as the revision left it.** -/
theorem samePricing_iff (hfirst : Written prepared db revision published)
    (hagain : Written again now restoring restored) (hsame : SameListing prepared again)
    (hfrozen : SameFrozen db now) (hproviders : prepared.input.providers ≠ [])
    (hsnapshot : financeConfigurationSnapshot prepared.input = .ok prepared.snapshot) :
    SamePricing published.pricingRows restored.pricingRows ↔
      KeepsUnlisted prepared.snapshot published now := by
  obtain ⟨-, hlisted, -, hlevels, -⟩ := financeInputFromSnapshot_spec hsnapshot
  have hkeys : prepared.snapshot.parchin.map FinanceParchinSnapshot.level =
      (prepared.input.parchin.map FinanceParchinInput.entry).map Prod.fst := by
    calc prepared.snapshot.parchin.map FinanceParchinSnapshot.level
        = ((financeInputFromSnapshot prepared.snapshot).parchin.map fun item =>
            (item.level, item.priceRial, item.active)).map Prod.fst := by
          rw [List.map_map, financeInputFromSnapshot, List.map_map]
          rfl
      _ = (prepared.input.parchin.map FinanceParchinInput.entry).map Prod.fst := by
          rw [hlevels]
          rfl
  -- each kind of row is restored where the rows that are not listed are as they were
  have hprovider : restored.pricingRows.providerMarkup = published.pricingRows.providerMarkup := by
    rw [hagain.providerMarkup, hfirst.providerMarkup, hsame.providers]
    exact (overlay_restores hfrozen.provider).2 fun provider hnot =>
      absurd (mem_listed hproviders provider) hnot
  have hproduct : restored.pricingRows.productMarkup = published.pricingRows.productMarkup ↔
      ∀ key ∉ (prepared.snapshot.productMarkups.map FinanceProductMarkupInput.entry).map Prod.fst,
        now.pricingRows.productMarkup key = published.pricingRows.productMarkup key := by
    rw [hlisted, hagain.productMarkup, hfirst.productMarkup, hsame.productMarkups]
    exact overlay_restores fun _ _ => rfl
  have hparchin : parchinOffer restored.parchin = parchinOffer published.parchin ↔
      ∀ level ∉ prepared.snapshot.parchin.map FinanceParchinSnapshot.level,
        parchinOffer now.parchin level = parchinOffer published.parchin level := by
    rw [hkeys, hagain.parchinOffer, hfirst.parchinOffer, hsame.parchin]
    exact overlay_restores hfrozen.parchin
  have hnow : SameFrozen published now :=
    ⟨hfrozen.provider.trans hfirst.sameFrozen.provider.symm,
      hfrozen.parchin.trans hfirst.sameFrozen.parchin.symm⟩
  have hrestored : SameFrozen published restored := hnow.trans hagain.sameFrozen
  constructor
  · intro hpricing
    refine ⟨hproduct.1 (funext fun key => (hpricing.product key).symm), fun level hnot => ?_⟩
    have hoffer : parchinOffer restored.parchin = parchinOffer published.parchin :=
      funext fun level => (parchinOffer_eq_iff hrestored level).2 (hpricing.parchin level).symm
    exact (parchinOffer_eq_iff hnow level).1 (hparchin.1 hoffer level hnot)
  · intro hkept
    have hoffer := hparchin.2 fun level hnot =>
      (parchinOffer_eq_iff hnow level).2 (hkept.parchin level hnot)
    refine ⟨?_, ?_, ?_, ?_, ?_, ?_, ?_⟩
    · exact fun provider => (congrFun hprovider provider).symm
    · exact fun key => (congrFun (hproduct.2 hkept.product) key).symm
    · exact fun level => ((parchinOffer_eq_iff hrestored level).1 (congrFun hoffer level)).symm
    · rw [FinanceDb.pricingRows, FinanceDb.pricingRows, hfirst.commerce, hagain.commerce]
      exact congrArg some hsame.taxBps.symm
    · rw [hfirst.loadProfitCurveConfiguration, hagain.loadProfitCurveConfiguration]
      exact hsame.enabled.symm
    · rw [hfirst.loadProfitCurveConfiguration, hagain.loadProfitCurveConfiguration]
      exact hsame.discountFloor.symm
    · rw [hfirst.loadProfitCurveConfiguration, hagain.loadProfitCurveConfiguration]
      show published.bands.map _ = restored.bands.map _
      calc published.bands.map ProfitCurveBandInput.unnamed
          = (sortBands prepared.profitCurve.bands).map ProfitCurveBandInput.unnamed :=
            bands_of_createBands hfirst.bands
        _ = (sortBands (sortBands prepared.profitCurve.bands)).map ProfitCurveBandInput.unnamed := by
            rw [sortBands_sortBands]
        _ = sortBands (again.profitCurve.bands.map ProfitCurveBandInput.unnamed) := by
            rw [← sortBands_unnamed, hsame.bands]
        _ = (sortBands again.profitCurve.bands).map ProfitCurveBandInput.unnamed :=
            sortBands_unnamed _
        _ = restored.bands.map ProfitCurveBandInput.unnamed :=
            (bands_of_createBands hagain.bands).symm

end Restored

/-! ## Runs of publishes and rollbacks -/

/-- The key of a request has been used: it returns what was published then. -/
def FinanceRequest.replays (request : FinanceRequest) (db : FinanceDb) : Bool :=
  match request.call db with
  | .ok call => (db.replayed call).isSome
  | .error _ => false

/-- A run in which a request publishes a revision, and a rollback goes back to it. -/
structure RollbackRun where
  db : FinanceDb
  earlier : List FinanceRequest
  request : FinanceRequest
  between : List FinanceRequest
  rollback : RollbackCall

namespace RollbackRun

variable (run : RollbackRun)

def before : FinanceDb := Lib.run execute run.db run.earlier

def published : FinanceDb × Except FinanceConfigurationError FinanceConfigurationRevision :=
  execute run.before run.request

def now : FinanceDb := Lib.run execute run.published.1 run.between

def restored : FinanceDb × Except FinanceConfigurationError FinanceConfigurationRevision :=
  execute run.now (.rollback run.rollback)

/-- The revision that the request publishes, and that the rollback names. -/
def RollsBackTo (revision : FinanceConfigurationRevision) : Prop :=
  run.request.replays run.before = false ∧ run.published.2 = .ok revision ∧
    run.rollback.revisionId = revision.id

/-- After a rollback that succeeds, prices are what they were right after the revision. -/
def RestoresPrices : Prop :=
  ∀ revision restoring, run.RollsBackTo revision → run.restored.2 = .ok restoring →
    SamePrices run.published.1.pricingRows run.restored.1.pricingRows

/-- The key of the rollback is new, and what the revision does not list is as it left it. -/
def Restorable : Prop :=
  ∀ revision, run.RollsBackTo revision →
    (FinanceRequest.rollback run.rollback).replays run.now = false ∧
      KeepsUnlisted revision.snapshot run.published.1 run.now

/-- Every publish of the run has a body that the parser accepts. -/
def FromBodies : Prop :=
  ∀ request ∈ run.earlier ++ run.request :: run.between, match request with
    | .apply call => ∃ body, parseFinanceConfigurationBody body = .ok call.input
    | .rollback _ => True

end RollbackRun

section Runs

variable {db : FinanceDb} {request : FinanceRequest} {revision : FinanceConfigurationRevision}

/-- A request that is no replay has written what it returns. -/
theorem written_of_execute (hnew : request.replays db = false)
    (h : (execute db request).2 = .ok revision) :
    ∃ call prepared, request.call db = .ok call ∧ call.prepareFrom db = .ok prepared ∧
      Written prepared db revision (execute db request).1 := by
  rcases execute_cases db request with ⟨e, hfails⟩ |
    ⟨call, prepared, published, later, hcall, hprepared, hcommit, hexecute⟩
  · rw [hfails] at h
    cases h
  · rw [hexecute] at h ⊢
    cases h
    refine ⟨call, prepared, hcall, hprepared, ?_⟩
    obtain ⟨-, -, -, -, hsame⟩ := prepared_of_prepareFrom hprepared
    rcases commit_cases hcommit with ⟨hreplayed, -⟩ | ⟨-, hwritten⟩
    · have hagain : (db.replayed call).isSome = false := by
        rw [FinanceRequest.replays, hcall] at hnew
        exact hnew
      rw [← hsame, hreplayed] at hagain
      cases hagain
    · exact hwritten

/-- A request leaves what no publish writes, and the revisions. -/
theorem execute_keeps (db : FinanceDb) (request : FinanceRequest) :
    SameFrozen db (execute db request).1 ∧
      ∀ id revision, db.revisions.find? id = some revision →
        (execute db request).1.revisions.find? id = some revision := by
  have hrefl : SameFrozen db db := ⟨SameBelow.refl _, SameBelow.refl _⟩
  rcases execute_cases db request with ⟨e, hfails⟩ |
    ⟨call, prepared, published, later, hcall, hprepared, hcommit, hexecute⟩
  · rw [hfails]
    exact ⟨hrefl, fun _ _ => id⟩
  · rw [hexecute]
    rcases commit_cases hcommit with ⟨-, rfl⟩ | ⟨-, hwritten⟩
    · exact ⟨hrefl, fun _ _ => id⟩
    · exact ⟨hwritten.sameFrozen, fun _ _ => hwritten.find?_revision⟩

theorem run_keeps (db : FinanceDb) (requests : List FinanceRequest) :
    SameFrozen db (run execute db requests) ∧
      ∀ id revision, db.revisions.find? id = some revision →
        (run execute db requests).revisions.find? id = some revision := by
  refine run_induction (p := fun now => SameFrozen db now ∧
    ∀ id revision, db.revisions.find? id = some revision →
      now.revisions.find? id = some revision) ?_ ⟨⟨SameBelow.refl _, SameBelow.refl _⟩,
        fun _ _ => id⟩ requests
  intro now request ⟨hfrozen, hrevisions⟩
  obtain ⟨hnext, hlater⟩ := execute_keeps now request
  exact ⟨hfrozen.trans hnext, fun id revision hfind => hlater _ _ (hrevisions id revision hfind)⟩

/-- A revision that lists every product and every level that there is leaves nothing out. -/
theorem keepsUnlisted_of_complete {snapshot : FinanceSnapshot} {published now : FinanceDb}
    (hproducts : ∀ row ∈ published.products.rows ++ now.products.rows,
      row.key ∈ (snapshot.productMarkups.map FinanceProductMarkupInput.entry).map Prod.fst)
    (hlevels : ∀ row ∈ published.parchin.rows ++ now.parchin.rows,
      row.level ∈ snapshot.parchin.map FinanceParchinSnapshot.level) :
    KeepsUnlisted snapshot published now := by
  constructor
  · intro key hnot
    have hpublished := Table.find?_eq_none_of_keys
      (fun row hrow => hproducts row (List.mem_append_left _ hrow)) hnot
    have hnow := Table.find?_eq_none_of_keys
      (fun row hrow => hproducts row (List.mem_append_right _ hrow)) hnot
    show Option.map _ ((now.products.find? key).filter _) =
      Option.map _ ((published.products.find? key).filter _)
    rw [hpublished, hnow]
  · intro level hnot
    have hpublished := Table.find?_eq_none_of_keys
      (fun row hrow => hlevels row (List.mem_append_left _ hrow)) hnot
    have hnow := Table.find?_eq_none_of_keys
      (fun row hrow => hlevels row (List.mem_append_right _ hrow)) hnot
    rw [parchinPrice_eq, parchinPrice_eq, parchinOffer, parchinOffer, hpublished, hnow]

/-- A rollback lists what the revision has listed. -/
theorem sameListing_of_rollback {rollback : RollbackCall} {call again : FinanceCall}
    {prepared second : PreparedPublish} {before now : FinanceDb}
    (hfirst : call.prepareFrom before = .ok prepared)
    (hfind : now.revisions.find? rollback.revisionId = some prepared.revision)
    (hcall : rollback.call now = .ok again) (hsecond : again.prepareFrom now = .ok second) :
    SameListing prepared second := by
  obtain ⟨-, hinput, hsnapshot, -, -⟩ := prepared_of_prepareFrom hfirst
  obtain ⟨hcurve, hagain, -, -, -⟩ := prepared_of_prepareFrom hsecond
  obtain ⟨hproviders, hproducts, htax, hparchin, curve, hjson, henabled, hfloor, hbands⟩ :=
    financeInputFromSnapshot_spec hsnapshot
  have hpublished : prepared.input.profitCurve = some prepared.profitCurve := by
    rw [hinput]
    rfl
  rw [RollbackCall.call, hfind] at hcall
  cases hcall
  have hsame : second.profitCurve = curve := by
    rw [hcurve, FinanceCall.profitCurve]
    show Option.getD (financeInputFromSnapshot prepared.snapshot).profitCurve _ = curve
    rw [hjson]
    rfl
  rw [hpublished, Option.getD_some] at henabled hfloor hbands
  refine ⟨?_, ?_, ?_, ?_, ?_, ?_, ?_⟩
  · rw [hagain]
    exact hproviders
  · rw [hagain]
    exact hproducts
  · rw [hagain]
    refine Eq.trans ?_ hparchin
    show (List.map _ (financeInputFromSnapshot prepared.snapshot).parchin).map _ = _
    rw [List.map_map]
    rfl
  · rw [hagain]
    exact htax
  · rw [hsame, henabled]
  · rw [hsame, hfloor]
  · rw [hsame, hbands]

end Runs

/-- **A rollback restores the prices of its revision**, when its key is new and what the revision does
not list is as it left it. -/
theorem rollback_restores_prices (run : RollbackRun) (hrestorable : run.Restorable) :
    run.RestoresPrices := by
  intro revision restoring hrolls hrestored
  obtain ⟨hnew, hkept⟩ := hrestorable revision hrolls
  obtain ⟨hfresh, hpublished, hid⟩ := hrolls
  obtain ⟨call, prepared, -, hprepared, hwritten⟩ := written_of_execute hfresh hpublished
  obtain ⟨again, second, hcall, hsecond, hrewritten⟩ := written_of_execute hnew hrestored
  obtain ⟨-, hinput, hsnapshot, hproviders, -⟩ := prepared_of_prepareFrom hprepared
  obtain ⟨hfrozen, hrevisions⟩ := run_keeps run.published.1 run.between
  have hfind : run.now.revisions.find? run.rollback.revisionId = some prepared.revision := by
    have hfound := hrevisions _ _ hwritten.find?_new
    rw [← hid, hwritten.revision] at hfound
    exact hfound
  have hlisted : prepared.input.providers ≠ [] := by
    rw [hinput]
    exact hproviders
  rw [hwritten.revision] at hkept
  exact ((samePricing_iff hwritten hrewritten
    (sameListing_of_rollback hprepared hfind hcall hsecond)
    (hwritten.sameFrozen.trans hfrozen) hlisted hsnapshot).2 hkept).samePrices

/-! ## Publishes that list different products -/

def samplePublish (id : String) (productMarkups : List FinanceProductMarkupInput) : FinanceRequest :=
  .apply {
    input := sampleInput productMarkups
    actorUserId := some "admin"
    rollbackOfId := none
    idempotencyKey := some id
    checks := ⟨fun _ => true, fun _ => true⟩
    generated := ⟨id, id, fun _ => id⟩ }

/-- A publish of the first products, one of the second ones, and a rollback to the first. -/
def sampleRun (first second : List FinanceProductMarkupInput) : RollbackRun where
  db := sampleDb
  earlier := []
  request := samplePublish "first" first
  between := [samplePublish "second" second]
  rollback := {
    revisionId := "first"
    actorUserId := some "admin"
    reason := none
    idempotencyKey := some "third"
    checks := ⟨fun _ => true, fun _ => true⟩
    generated := ⟨"third", "third", fun _ => "third"⟩ }

theorem sampleRun_fromBodies (first second : List FinanceProductMarkupInput) :
    (sampleRun first second).FromBodies := by
  intro request hrequest
  rcases List.mem_cons.1 hrequest with rfl | hrest
  · exact ⟨_, parse_sampleBody first⟩
  · obtain rfl := List.mem_singleton.1 hrest
    exact ⟨_, parse_sampleBody second⟩

/-- What the sample plan costs. -/
def samplePrice (rows : PricingRows) : Option ℤ :=
  (resolveConfiguredPlanPricing
    { samplePlan.toInfrastructurePlan with catalogItem := some sampleItem } rows.pricingConfigs none
      {} 0).toOption.join.map EffectivePlanPricing.finalPriceRial

/-- The second publish changes the price of a product that the first one lists. -/
def listedRun : RollbackRun :=
  sampleRun [⟨.arvan, .cloudServer, 1000, true⟩] [⟨.arvan, .cloudServer, 2000, true⟩]

/-- The second publish changes the price of a product that the first one leaves out. -/
def unlistedRun : RollbackRun := sampleRun [] [⟨.arvan, .cloudServer, 2000, true⟩]

theorem restorable_listedRun : listedRun.Restorable := by
  intro revision hrolls
  have hlisted : listedRun.published.2.toOption.map (fun revision =>
      ((revision.snapshot.productMarkups.map FinanceProductMarkupInput.entry).map Prod.fst,
        revision.snapshot.parchin.map FinanceParchinSnapshot.level)) =
      some ([(.arvan, "v1", .cloudServer)], [.start]) := by
    decide +kernel
  have hproducts : ∀ row ∈ listedRun.published.1.products.rows ++ listedRun.now.products.rows,
      row.key ∈ [(InfrastructureProvider.arvan, "v1", InfrastructureProductKind.cloudServer)] := by
    decide +kernel
  have hlevels : ∀ row ∈ listedRun.published.1.parchin.rows ++ listedRun.now.parchin.rows,
      row.level ∈ [ParchinLevel.start] := by
    decide +kernel
  rw [hrolls.2.1] at hlisted
  obtain ⟨hkeys, hnames⟩ := Prod.mk.inj (Option.some.inj hlisted)
  refine ⟨by decide +kernel, keepsUnlisted_of_complete ?_ ?_⟩
  · rw [hkeys]
    exact hproducts
  · rw [hnames]
    exact hlevels

/-- The rollback of the first run publishes, and prices are those of its revision again. -/
theorem rollback_restores_prices_sample :
    listedRun.restored.2.toOption.isSome = true ∧ listedRun.RestoresPrices :=
  ⟨by decide +kernel, rollback_restores_prices listedRun restorable_listedRun⟩

/-- **A product that the revision does not list keeps the price that was published for it since.** -/
theorem later_price_stays : ¬ ∀ run : RollbackRun, run.FromBodies → run.RestoresPrices := by
  intro hclaim
  have hprices := hclaim unlistedRun (sampleRun_fromBodies _ _)
  have hfirst : unlistedRun.published.2.toOption.map FinanceConfigurationRevision.id =
      some "first" := by
    decide +kernel
  have hfresh : unlistedRun.request.replays unlistedRun.before = false := by
    decide +kernel
  have hlast : unlistedRun.restored.2.toOption.isSome = true := by
    decide +kernel
  have hdiffer : samplePrice unlistedRun.published.1.pricingRows ≠
      samplePrice unlistedRun.restored.1.pricingRows := by
    decide +kernel
  have hid : unlistedRun.rollback.revisionId = "first" := rfl
  generalize unlistedRun = run at *
  cases hpublished : run.published.2 with
  | error e => simp [hpublished, Except.toOption] at hfirst
  | ok revision =>
      cases hrestored : run.restored.2 with
      | error e => simp [hrestored, Except.toOption] at hlast
      | ok restoring =>
          have hrevision : revision.id = "first" := by
            simpa [hpublished, Except.toOption] using hfirst
          have hsame := hprices revision restoring
            ⟨hfresh, hpublished, hid.trans hrevision.symm⟩ hrestored
          refine hdiffer ?_
          rw [samplePrice, hsame, samplePrice]

end AbrChin.Finance
