import AbrChin.Js.Number
import AbrChin.Recommendation.CheckoutQuotes

/-!
# What a refresh offers

A refresh asks for the plan, the image, the access and the server name of the quote again, under a
key of the quote.  Three things keep it from offering the same, valid now.

* **The term and the coupon are not asked for again.**  The new quote is for one month, without a
  coupon.
* **The protection level is not asked for again.**  The new quote is for the level of the plan's
  tier at the time.
* **The key finds what an earlier refresh has created.**  That quote is returned as it is, even when
  it has expired or can no longer be bought.

`refresh_offers_same_iff` says that nothing else does.  The invariant is that a quote answers the
request of its session (`CatalogQuote.Answers`), so that the comparison of the hashes is one of the
quotes; what makes it go through is that a server name that has been normalized stays as it is.
-/

namespace AbrChin.Recommendation

open Lib Js Pricing Infrastructure

/-! ## Server names -/

variable {afterSpace : Bool}

theorem not_whiteSpace_of_mem_hyphenate {chars : List Char} {c : Char}
    (h : c ∈ hyphenate afterSpace chars) : isWhiteSpace c = false := by
  induction chars generalizing afterSpace with
  | nil => cases h
  | cons first rest ih =>
      unfold hyphenate at h
      by_cases hspace : isWhiteSpace first = true
      · rw [if_pos hspace] at h
        cases afterSpace with
        | true => exact ih h
        | false =>
            rcases List.mem_cons.1 h with rfl | hrest
            · decide
            · exact ih hrest
      · rw [if_neg hspace] at h
        rcases List.mem_cons.1 h with rfl | hrest
        · exact Bool.eq_false_of_not_eq_true hspace
        · exact ih hrest

/-- Text without white space is left alone. -/
theorem hyphenate_eq_self {chars : List Char} (h : ∀ c ∈ chars, isWhiteSpace c = false) :
    hyphenate afterSpace chars = chars := by
  induction chars generalizing afterSpace with
  | nil => rfl
  | cons first rest ih =>
      have hfirst : ¬ isWhiteSpace first = true := by
        rw [h first List.mem_cons_self]
        exact Bool.false_ne_true
      rw [hyphenate, if_neg hfirst, ih fun c hc => h c (List.mem_cons_of_mem _ hc)]

/-- **A name that has been normalized stays as it is.** -/
theorem hyphenated_hyphenated (value : String) :
    hyphenated (hyphenated value) = hyphenated value := by
  have hnone : ∀ c ∈ (hyphenated value).toList, isWhiteSpace c = false := by
    intro c hc
    unfold hyphenated at hc
    rw [String.toList_ofList] at hc
    exact not_whiteSpace_of_mem_hyphenate hc
  calc hyphenated (hyphenated value)
      = String.ofList (hyphenate false (hyphenated value).toList) := by
        rw [hyphenated, trim_eq_self hnone]
    _ = String.ofList (hyphenated value).toList := by rw [hyphenate_eq_self hnone]
    _ = hyphenated value := String.ofList_toList

variable {serverName : String}

theorem normalizeCustomerServerName_eq_some {letter : Char → Bool} {value : String}
    (h : normalizeCustomerServerName letter value = some serverName) :
    serverName = hyphenated value := by
  unfold normalizeCustomerServerName at h
  split at h
  · exact (Option.some.inj h).symm
  · cases h

/-! ## The delivery that is locked -/

theorem afterPrefix_eq_some {start text rest : String} (h : afterPrefix start text = some rest) :
    text = start ++ rest := by
  unfold afterPrefix at h
  split at h
  · rename_i hprefix
    obtain ⟨tail, htail⟩ := hprefix
    cases h
    apply String.ext
    rw [String.toList_append, String.toList_ofList, ← htail, List.drop_left]
  · cases h

/-- What is locked is what has been selected. -/
def LockedDelivery.Locks (locked : LockedDelivery) (delivery : CatalogDeliverySelection) : Prop :=
  locked.imageAssetId = delivery.imageAssetId ∧ locked.accessMethod = delivery.accessMethod ∧
    locked.serverName = some delivery.serverName

variable {context : CheckoutContext} {plan : PricedInfrastructurePlan} {locked : LockedDelivery}

theorem locks_of_lockAdminFulfilledCatalogPlan {delivery : CatalogDeliverySelection}
    (h : context.lockAdminFulfilledCatalogPlan plan delivery = .ok locked) :
    locked.Locks delivery := by
  unfold CheckoutContext.lockAdminFulfilledCatalogPlan at h
  dsimp only at h
  split at h
  · rename_i externalImageId hexternal
    obtain ⟨_, haccess, h⟩ := bind_eq_ok.1 h
    have haccess := not_not.1 (throwIf_eq_ok.1 haccess)
    cases h
    refine ⟨?_, haccess.symm, rfl⟩
    obtain ⟨hcode, hvalid⟩ := Option.filter_eq_some_iff.1 hexternal
    dsimp only
    split at hcode
    · -- the code follows the prefix
      rw [if_pos (by assumption)]
      simp only [Option.map_none, Option.orElse_eq_orElse, Option.orElse_eq_or, Option.none_or,
        Option.getD_none] at hcode ⊢
      exact (afterPrefix_eq_some hcode).symm
    · rename_i hplain
      rw [if_neg hplain]
      cases hstored : context.assets.find? fun asset =>
          decide (asset.id = delivery.imageAssetId) && asset.serves plan.plan with
      | some asset =>
          have hfound := List.find?_some hstored
          rw [Option.map_some, Option.getD_some]
          exact of_decide_eq_true (Bool.and_eq_true_iff.1 hfound).1
      | none =>
          rw [hstored] at hcode
          simp only [Option.map_none, Option.orElse_eq_orElse, Option.orElse_eq_or, Option.none_or,
            Option.getD_none] at hcode ⊢
          exact (afterPrefix_eq_some hcode).symm
  · cases h

/-- Whatever the plan is fulfilled from, the selection is locked as it is. -/
theorem locks_of_lockAndRevalidatePlan {delivery : CatalogDeliverySelection}
    (h : context.lockAndRevalidatePlan plan delivery = .ok locked) : locked.Locks delivery := by
  unfold CheckoutContext.lockAndRevalidatePlan at h
  by_cases hcatalog : plan.plan.offerSource = .apiCatalog
  · rw [if_pos hcatalog] at h
    exact locks_of_lockAdminFulfilledCatalogPlan h
  · rw [if_neg hcatalog] at h
    obtain ⟨_, -, h⟩ := bind_eq_ok.1 h
    split at h
    · rename_i image himage
      obtain ⟨_, -, h⟩ := bind_eq_ok.1 h
      obtain ⟨_, -, h⟩ := bind_eq_ok.1 h
      obtain ⟨_, -, h⟩ := bind_eq_ok.1 h
      obtain ⟨_, -, h⟩ := bind_eq_ok.1 h
      obtain ⟨_, -, h⟩ := bind_eq_ok.1 h
      cases h
      refine ⟨?_, rfl, rfl⟩
      have hselected := (Option.filter_eq_some_iff.1 himage).1
      unfold CheckoutContext.selectedImage at hselected
      split_ifs at hselected with hmanual hid
      · cases hselected
        exact hid.symm
      · obtain ⟨asset, hasset, rfl⟩ := Option.map_eq_some_iff.1 hselected
        have hfound := List.find?_some hasset
        simp only [Bool.and_eq_true, decide_eq_true_eq] at hfound
        exact hfound.1.1.1
    · cases h

/-! ## The plan that is priced -/

theorem termMonths_of_compute {input : CommercialPricingInput} {price : CommercialPriceBreakdown}
    (h : computeCommercialPriceBreakdown input = .ok price) :
    price.termMonths = input.termMonths.getD 1 := by
  unfold computeCommercialPriceBreakdown at h
  simp only [bind_eq_ok] at h
  obtain ⟨_, -, _, -, _, -, _, -, _, -, _, -, _, -, h⟩ := h
  obtain ⟨_, -, _, -, _, -, _, -, _, -, _, -, _, -, h⟩ := h
  cases h
  rfl

theorem termMonths_of_resolveCatalogItemPricing {item : ProviderCatalogItem} {markup now : ℤ}
    {options : PlanPricingOptions} {price : EffectivePlanPricing}
    (h : resolveCatalogItemPricing item markup options now = .ok (some price)) :
    price.termMonths = options.termMonths.getD 1 := by
  unfold resolveCatalogItemPricing at h
  obtain ⟨base, -, h⟩ := bind_eq_ok.1 h
  cases base with
  | none => cases h
  | some base =>
      dsimp only at h
      split_ifs at h with hsale
      · cases h
      · obtain ⟨quote, hquote, h⟩ := bind_eq_ok.1 h
        cases h
        exact termMonths_of_compute hquote

/-- A plan is priced for the term that is asked for. -/
theorem termMonths_of_getActivePlanById {catalog : Catalog} {id : String}
    {termOptions : PlanTermPricingOptions} {now : ℤ} {priced : PricedInfrastructurePlan}
    (h : getActivePlanById catalog id termOptions now = .ok (some priced)) :
    priced.pricing.termMonths = termOptions.termMonths.getD 1 := by
  obtain ⟨_, _, -, -, -, -, -, -, hpricing⟩ := getActivePlanById_eq_some.1 h
  obtain ⟨_, _, _, _, _, _, -, -, -, -, -, -, -, hpriced, -⟩ :=
    resolveConfiguredPlanPricing_eq_some.1 hpricing
  obtain ⟨_, _, _, -, -, -, -, hprice⟩ := (resolvePlanPricing_eq_some rfl).1 hpriced
  exact termMonths_of_resolveCatalogItemPricing hprice

variable {input : CreateCatalogServerQuote} {discount : Option ℤ}

/-- What the plan of a checkout is priced for. -/
theorem CheckoutContext.activePlan_eq_ok (h : context.activePlan input discount = .ok plan) :
    plan.plan.id = input.planId ∧ plan.pricing.termMonths = input.term ∧
      ∃ default, context.catalog.storefrontLevel input.planId = some default ∧
        plan.pricing.parchinLevel = input.requestedParchinLevel.getD default := by
  unfold CheckoutContext.activePlan at h
  obtain ⟨found, hfound, h⟩ := bind_eq_ok.1 h
  split at h
  · rename_i kept hkept
    cases h
    rw [(Option.filter_eq_some_iff.1 hkept).1] at hfound
    obtain ⟨default, hdefault, hlevel, -⟩ := parchinLevel_of_getActivePlanById hfound
    exact ⟨id_of_getActivePlanById hfound, termMonths_of_getActivePlanById hfound, default,
      hdefault, hlevel⟩
  · cases h

/-! ## What a checkout does -/

/-- The session of a new checkout. -/
def CheckoutContext.session (context : CheckoutContext) (input : CreateCatalogServerQuote)
    (serverName : String) : CheckoutSession where
  id := context.newSessionId
  userId := input.userId
  catalogCheckoutIdempotencyKey := input.idempotencyKey
  catalogCheckoutRequestHash := input.request serverName
  profileSource := input.expectedProductKind

variable {quote : CatalogQuote} {db db' : CheckoutDb}

/-- A checkout finds its key, and returns the quote of the same request as it is; or it stores a
session and a quote. -/
theorem commits_createCatalogServerQuote
    (h : Tx.Commits (createCatalogServerQuote input context) db quote db') :
    ∃ serverName, serverName = hyphenated input.delivery.serverName ∧
      ((∃ existing, db.sessionOf input.idempotencyKey = some existing ∧
        existing.catalogCheckoutRequestHash = input.request serverName ∧
        db.firstQuote existing.id = some quote ∧ db' = db) ∨
      (db.sessionOf input.idempotencyKey = none ∧ ∃ discount plan delivery,
        context.activePlan input discount = .ok plan ∧
        delivery.Locks { input.delivery with serverName } ∧
        quote = context.quote input discount plan delivery serverName ∧
        db.sessions.insert? (context.session input serverName) = some db'.sessions ∧
        db.quotes.insert? quote = some db'.quotes)) := by
  unfold createCatalogServerQuote at h
  simp only [Tx.commits_bind, Tx.commits_throwIf, Tx.commits_orThrow, Tx.commits_ofExcept,
    Tx.commits_get] at h
  obtain ⟨_, _, ⟨-, rfl⟩, serverName, _, ⟨hname, rfl⟩, discount, _, ⟨-, rfl⟩, _, _, ⟨-, rfl⟩, _, _,
    ⟨rfl, rfl⟩, h⟩ := h
  refine ⟨serverName, normalizeCustomerServerName_eq_some hname, ?_⟩
  split at h
  · rename_i existing hexisting
    simp only [Tx.commits_bind, Tx.commits_throwIf, Tx.commits_orThrow] at h
    obtain ⟨_, _, ⟨hsame, rfl⟩, hquote, rfl⟩ := h
    push Not at hsame
    exact .inl ⟨existing, hexisting, hsame.1, hquote, rfl⟩
  · rename_i hfree
    simp only [Tx.commits_bind, Tx.commits_ofExcept, Tx.commits_attempt, Tx.commits_pure,
      Option.map_eq_some_iff] at h
    obtain ⟨plan, _, ⟨hplan, rfl⟩, delivery, _, ⟨hdelivery, rfl⟩, _, _, ⟨-, rfl⟩, _, _,
      ⟨sessions, hsession, rfl⟩, _, _, ⟨quotes, hquotes, rfl⟩, rfl, rfl⟩ := h
    exact .inr ⟨hfree, discount, plan, delivery, hplan, locks_of_lockAndRevalidatePlan hdelivery,
      rfl, hsession, hquotes⟩

/-! ## The invariant -/

/-- A quote is for what its request asks for. -/
structure CatalogQuote.Answers (quote : CatalogQuote) (request : CatalogCheckoutRequest) :
    Prop where
  planId : quote.priced.planId = request.planId
  delivery : ∃ sshKeyName, quote.deliveryConfigurationSnapshot =
    some ⟨request.imageAssetId, request.accessMethod, sshKeyName, some request.serverName⟩
  term : quote.priced.termMonths = request.termMonths
  coupon : quote.couponCodeSnapshot = request.couponCode
  name : hyphenated request.serverName = request.serverName

/-- A new quote answers the request that it is made for. -/
theorem answers_quote (hname : serverName = hyphenated input.delivery.serverName)
    (hplan : context.activePlan input discount = .ok plan)
    (hlocked : locked.Locks { input.delivery with serverName }) :
    (context.quote input discount plan locked serverName).Answers (input.request serverName) := by
  obtain ⟨hid, hterm, -⟩ := CheckoutContext.activePlan_eq_ok hplan
  obtain ⟨himage, haccess, -⟩ := hlocked
  refine ⟨hid, ⟨locked.sshKeyName, ?_⟩, hterm, rfl, ?_⟩
  · simp only [CheckoutContext.quote, CreateCatalogServerQuote.request, himage, haccess]
  · show hyphenated serverName = serverName
    rw [hname, hyphenated_hyphenated]

/-- The status does not matter for this. -/
theorem CatalogQuote.Answers.withStatus {request : CatalogCheckoutRequest}
    (h : quote.Answers request) (status : RecommendationQuoteStatus) :
    ({ quote with status } : CatalogQuote).Answers request :=
  ⟨h.planId, h.delivery, h.term, h.coupon, h.name⟩

theorem CatalogQuote.invalidate_eq (quote : CatalogQuote) :
    ∃ status, status ≠ .active ∧ quote.invalidate = { quote with status } := by
  unfold CatalogQuote.invalidate
  by_cases hopen : quote.status = .active ∨ quote.status = .selected
  · rw [if_pos hopen]
    exact ⟨.invalidated, by decide, rfl⟩
  · rw [if_neg hopen]
    exact ⟨quote.status, fun h => hopen (.inl h), rfl⟩

/-- Every quote answers the request of its session. -/
def CheckoutDb.Kept (db : CheckoutDb) : Prop :=
  ∀ quote ∈ db.quotes, ∃ session, db.sessions.find? quote.sessionId = some session ∧
    quote.Answers session.catalogCheckoutRequestHash

theorem kept_emptyCheckout : CheckoutDb.empty.Kept := fun _ h => nomatch h

/-- The status of a quote is set. -/
theorem CheckoutDb.Kept.modify (h : db.Kept) (id : String) {f : CatalogQuote → CatalogQuote}
    {hf : ∀ quote, (f quote).id = quote.id}
    (hstatus : ∀ quote, ∃ status, f quote = { quote with status }) :
    CheckoutDb.Kept { db with quotes := db.quotes.modify id f hf } := by
  intro quote hquote
  have hquote : quote ∈ db.quotes.modify id f hf := hquote
  obtain ⟨old, hold, rfl⟩ := Table.mem_modify.1 hquote
  by_cases hid : old.id = id
  · rw [if_pos hid]
    obtain ⟨status, hset⟩ := hstatus old
    obtain ⟨session, hsession, hanswers⟩ := h old hold
    rw [hset]
    exact ⟨session, hsession, hanswers.withStatus status⟩
  · rw [if_neg hid]
    exact h old hold

theorem CheckoutDb.Kept.create (h : db.Kept)
    (hcommits : Tx.Commits (createCatalogServerQuote input context) db quote db') : db'.Kept := by
  obtain ⟨serverName, hname, ⟨_, -, -, -, rfl⟩ | ⟨-, discount, plan, locked, hplan, hlocked, rfl,
    hsessions, hquotes⟩⟩ := commits_createCatalogServerQuote hcommits
  · exact h
  · have hfresh := IndexedTable.fresh_of_insert? hsessions
    have hfind := IndexedTable.find?_insert? hsessions
    intro quote hquote
    rcases (Table.mem_insert? hquotes).1 hquote with hold | rfl
    · obtain ⟨session, hsession, hanswers⟩ := h quote hold
      refine ⟨session, ?_, hanswers⟩
      have hother : (context.session input serverName).id ≠ quote.sessionId := by
        intro heq
        rw [heq, hsession] at hfresh
        cases hfresh
      rw [hfind, if_neg hother, hsession]
    · exact ⟨context.session input serverName, (hfind _).trans (if_pos rfl),
        answers_quote hname hplan hlocked⟩

/-- A refresh: the quote that is asked for again, the checkout, and the mark on the quote. -/
theorem commits_refreshRecommendationQuote {quoteId userId : String}
    (h : Tx.Commits (refreshRecommendationQuote quoteId userId context) db quote db') :
    ∃ previous session delivery mid, db.quotes.find? quoteId = some previous ∧
      previous.deliveryConfigurationSnapshot = some delivery ∧
      Tx.Commits (createCatalogServerQuote (previous.refreshInput session userId delivery) context)
        db quote mid ∧
      db' = mid.invalidate previous.id := by
  unfold refreshRecommendationQuote at h
  have h := Tx.commits_get_bind.1 h
  obtain ⟨previous, hprevious, h⟩ := Tx.commits_orThrow_bind.1 h
  obtain ⟨session, -, h⟩ := Tx.commits_orThrow_bind.1 h
  obtain ⟨-, h⟩ := Tx.commits_throwIf_bind.1 h
  obtain ⟨delivery, hdelivery, h⟩ := Tx.commits_orThrow_bind.1 h
  obtain ⟨replacement, mid, hcreate, h⟩ := Tx.commits_bind.1 h
  simp only [Tx.commits_bind, Tx.commits_modify, Tx.commits_pure] at h
  obtain ⟨_, _, rfl, rfl, rfl⟩ := h
  exact ⟨previous, session, delivery, mid, hprevious, hdelivery, hcreate, rfl⟩

/-- **Every quote answers the request of its session, whatever calls have been made.** -/
theorem kept_stepCheckout (db : CheckoutDb) (event : CheckoutEvent) (h : db.Kept) :
    (stepCheckout db event).1.Kept := by
  have hcommits : ∀ result db', Tx.Commits event.tx db result db' → db'.Kept := by
    intro result db' hcommits
    cases event with
    | create input context =>
        obtain ⟨quote, mid, hcreate, hdone⟩ := Tx.commits_bind.1 hcommits
        rw [(Tx.commits_pure.1 hdone).2]
        exact h.create hcreate
    | refresh quoteId userId context =>
        obtain ⟨quote, mid, hrefresh, hdone⟩ := Tx.commits_bind.1 hcommits
        rw [(Tx.commits_pure.1 hdone).2]
        obtain ⟨previous, session, delivery, created, -, -, hcreate, rfl⟩ :=
          commits_refreshRecommendationQuote hrefresh
        refine (h.create hcreate).modify previous.id fun quote => ?_
        obtain ⟨status, -, hset⟩ := quote.invalidate_eq
        exact ⟨status, hset⟩
    | mark quoteId status =>
        unfold CheckoutEvent.tx at hcommits
        simp only [Tx.commits_bind, Tx.commits_modify, Tx.commits_pure] at hcommits
        obtain ⟨_, _, rfl, -, rfl⟩ := hcommits
        exact h.modify quoteId fun quote => ⟨status, rfl⟩
  unfold stepCheckout Tx.transaction
  cases hrun : event.tx db with
  | mk result db' =>
      cases result with
      | ok value => exact hcommits value db' hrun
      | error e => exact h

/-! ## What a refresh returns -/

/-- The same plan, image, access, server name, term, coupon and protection level. -/
structure CatalogQuote.SameOffer (previous quote : CatalogQuote) : Prop where
  planId : quote.priced.planId = previous.priced.planId
  imageAssetId : quote.deliveryConfigurationSnapshot.map LockedDelivery.imageAssetId =
    previous.deliveryConfigurationSnapshot.map LockedDelivery.imageAssetId
  accessMethod : quote.deliveryConfigurationSnapshot.map LockedDelivery.accessMethod =
    previous.deliveryConfigurationSnapshot.map LockedDelivery.accessMethod
  serverName : quote.deliveryConfigurationSnapshot.map LockedDelivery.serverName =
    previous.deliveryConfigurationSnapshot.map LockedDelivery.serverName
  termMonths : quote.priced.termMonths = previous.priced.termMonths
  couponCode : quote.couponCodeSnapshot = previous.couponCodeSnapshot
  parchinLevel : quote.priced.parchinLevel = previous.priced.parchinLevel

/-- The quote is stored as ACTIVE, and has not expired. -/
def CheckoutDb.OffersNow (db : CheckoutDb) (now : ℤ) (quote : CatalogQuote) : Prop :=
  ∃ row, db.quotes.find? quote.id = some row ∧ row.status = .active ∧ now < row.expiresAt

/-- What an earlier refresh of a quote has created. -/
def CheckoutDb.replacement (db : CheckoutDb) (quoteId : String) : Option CatalogQuote :=
  (db.sessionOf (refreshKey quoteId)).bind fun session => db.firstQuote session.id

/-- The quote is for a month, without a coupon; and an earlier refresh has created a quote that can
still be bought, for the same level, or none has and the level is that of the plan's tier. -/
def CheckoutDb.Refreshes (db : CheckoutDb) (context : CheckoutContext) (previous : CatalogQuote) :
    Prop :=
  previous.priced.termMonths = 1 ∧ previous.couponCodeSnapshot = none ∧
    match db.replacement previous.id with
    | some quote => quote.id ≠ previous.id ∧ quote.status = .active ∧
        context.now < quote.expiresAt ∧ quote.priced.parchinLevel = previous.priced.parchinLevel
    | none =>
        context.catalog.storefrontLevel previous.priced.planId = some previous.priced.parchinLevel

/-- A quote that answers what a refresh asks for is the same offer when the quote before was for a
month, without a coupon, at the same level. -/
theorem sameOffer_iff {previous : CatalogQuote} {session : CheckoutSession} {userId : String}
    {delivery : LockedDelivery} {request : CatalogCheckoutRequest}
    (hdelivery : previous.deliveryConfigurationSnapshot = some delivery) (hname : serverName =
      hyphenated (previous.refreshInput session userId delivery).delivery.serverName)
    (hprevious : previous.Answers request)
    (hquote : quote.Answers ((previous.refreshInput session userId delivery).request serverName)) :
    previous.SameOffer quote ↔ previous.priced.termMonths = 1 ∧
      previous.couponCodeSnapshot = none ∧
      quote.priced.parchinLevel = previous.priced.parchinLevel := by
  obtain ⟨sshKeyName, hsnapshot⟩ := hquote.delivery
  obtain ⟨_, hbefore⟩ := hprevious.delivery
  -- the name that has been stored is a normalized one
  have hstored : serverName = request.serverName := by
    rw [hdelivery] at hbefore
    rw [hname, Option.some.inj hbefore]
    exact hprevious.name
  have hterm : quote.priced.termMonths = 1 := hquote.term
  have hcoupon : quote.couponCodeSnapshot = none := hquote.coupon
  constructor
  · intro h
    exact ⟨h.termMonths.symm.trans hterm, h.couponCode.symm.trans hcoupon, h.parchinLevel⟩
  · rintro ⟨hmonth, hnone, hlevel⟩
    refine ⟨hquote.planId, ?_, ?_, ?_, hterm.trans hmonth.symm, hcoupon.trans hnone.symm, hlevel⟩
    · rw [hsnapshot, hdelivery]
      rfl
    · rw [hsnapshot, hdelivery]
      rfl
    · rw [hsnapshot, hbefore, Option.map_some, Option.map_some]
      exact congrArg (fun name => some (some name)) hstored

/-- What the mark on the quote before leaves of the one that is returned. -/
theorem offersNow_invalidate_iff (hquote : quote ∈ db.quotes) (previousId : String) (now : ℤ) :
    (db.invalidate previousId).OffersNow now quote ↔
      quote.id ≠ previousId ∧ quote.status = .active ∧ now < quote.expiresAt := by
  have hfind := Table.find?_of_mem hquote
  have hafter : (db.invalidate previousId).quotes.find? quote.id = if quote.id = previousId then
      (db.quotes.find? previousId).map CatalogQuote.invalidate else db.quotes.find? quote.id :=
    Table.find?_modify CatalogQuote.invalidate_id quote.id
  unfold CheckoutDb.OffersNow
  rw [hafter]
  by_cases hsame : quote.id = previousId
  · rw [if_pos hsame, ← hsame, hfind, Option.map_some]
    constructor
    · rintro ⟨row, hrow, hactive, -⟩
      obtain ⟨status, hstatus, hset⟩ := quote.invalidate_eq
      rw [← Option.some.inj hrow, hset] at hactive
      exact absurd hactive hstatus
    · rintro ⟨hne, -⟩
      exact absurd rfl hne
  · rw [if_neg hsame, hfind]
    constructor
    · rintro ⟨row, hrow, hactive, hvalid⟩
      obtain rfl := Option.some.inj hrow
      exact ⟨hsame, hactive, hvalid⟩
    · rintro ⟨-, hactive, hvalid⟩
      exact ⟨quote, rfl, hactive, hvalid⟩

/-- A key that is found: the quote of its session answers what the refresh asks for. -/
theorem answers_of_replay (h : db.Kept) {key : String} {existing : CheckoutSession}
    (hexisting : db.sessionOf key = some existing)
    (hfirst : db.firstQuote existing.id = some quote) :
    quote ∈ db.quotes ∧ quote.Answers existing.catalogCheckoutRequestHash := by
  have hmem : quote ∈ db.quotes := List.mem_of_find?_eq_some hfirst
  have hsession : quote.sessionId = existing.id := by simpa using List.find?_some hfirst
  obtain ⟨found, hfound, hquote⟩ := h quote hmem
  obtain ⟨hfoundMem, hid⟩ := IndexedTable.find?_eq_some.1 hfound
  have hsame : found = existing :=
    Table.eq_of_key hfoundMem (List.mem_of_find?_eq_some hexisting) (hid.trans hsession)
  rw [← hsame]
  exact ⟨hmem, hquote⟩

/-- **A refresh returns the same offer, valid now, exactly when the quote was for a month without a
coupon and its level is that of an earlier refresh whose quote can still be bought, or, before the
first refresh, the level of the plan's tier.** -/
theorem refresh_offers_same_iff {events : List CheckoutEvent} {quoteId userId : String}
    {context : CheckoutContext} {quote : CatalogQuote} {db' : CheckoutDb}
    (hcommits : Tx.Commits (refreshRecommendationQuote quoteId userId context)
      (run stepCheckout CheckoutDb.empty events) quote db') :
    ∃ previous,
      (run stepCheckout CheckoutDb.empty events).quotes.find? quoteId = some previous ∧
      ((previous.SameOffer quote ∧ db'.OffersNow context.now quote) ↔
        (run stepCheckout CheckoutDb.empty events).Refreshes context previous) := by
  have hkept : (run stepCheckout CheckoutDb.empty events).Kept :=
    run_induction kept_stepCheckout kept_emptyCheckout events
  generalize run stepCheckout CheckoutDb.empty events = db at hcommits hkept ⊢
  obtain ⟨previous, session, delivery, mid, hprevious, hdelivery, hcreate, rfl⟩ :=
    commits_refreshRecommendationQuote hcommits
  refine ⟨previous, hprevious, ?_⟩
  have hpreviousMem := Table.mem_of_find? hprevious
  obtain ⟨own, -, hanswers⟩ := hkept previous hpreviousMem
  unfold CheckoutDb.Refreshes CheckoutDb.replacement
  obtain ⟨serverName, hname, ⟨existing, hexisting, hsame, hfirst, rfl⟩ | ⟨hfree, discount, plan,
    locked, hplan, hlocked, rfl, hsessions, hquotes⟩⟩ := commits_createCatalogServerQuote hcreate
  · -- the key is found: the quote is what an earlier refresh has stored
    replace hexisting : mid.sessionOf (refreshKey previous.id) = some existing := hexisting
    obtain ⟨hstored, hquote⟩ := answers_of_replay hkept hexisting hfirst
    rw [hsame] at hquote
    rw [sameOffer_iff hdelivery hname hanswers hquote, offersNow_invalidate_iff hstored, hexisting,
      Option.bind_some, hfirst]
    constructor
    · rintro ⟨⟨hterm, hcoupon, hlevel⟩, hdiffers, hactive, hvalid⟩
      exact ⟨hterm, hcoupon, hdiffers, hactive, hvalid, hlevel⟩
    · rintro ⟨hterm, hcoupon, hdiffers, hactive, hvalid, hlevel⟩
      exact ⟨⟨hterm, hcoupon, hlevel⟩, hdiffers, hactive, hvalid⟩
  · -- the key is free: the quote is new
    replace hfree : db.sessionOf (refreshKey previous.id) = none := hfree
    have hquote := answers_quote hname hplan hlocked
    have hnew := (Table.mem_insert? hquotes).2 (.inr rfl)
    have hdiffers : context.newQuoteId ≠ previous.id := by
      intro heq
      have hfresh : db.quotes.find? context.newQuoteId = none := Table.fresh_of_insert? hquotes
      rw [heq, Table.find?_of_mem hpreviousMem] at hfresh
      cases hfresh
    obtain ⟨-, -, default, hdefault, hlevel⟩ := CheckoutContext.activePlan_eq_ok hplan
    replace hdefault : context.catalog.storefrontLevel previous.priced.planId = some default :=
      hdefault
    have hquoted : (context.quote (previous.refreshInput session userId delivery) discount plan
        locked serverName).priced.parchinLevel = default := hlevel
    rw [sameOffer_iff hdelivery hname hanswers hquote, offersNow_invalidate_iff hnew, hquoted,
      hfree, Option.bind_none, hdefault]
    have hvalid : context.now < context.now + recommendationQuoteValidityMs := by
      unfold recommendationQuoteValidityMs
      omega
    constructor
    · rintro ⟨⟨hterm, hcoupon, hsameLevel⟩, -⟩
      exact ⟨hterm, hcoupon, congrArg some hsameLevel⟩
    · rintro ⟨hterm, hcoupon, hsameLevel⟩
      exact ⟨⟨hterm, hcoupon, Option.some.inj hsameLevel⟩, hdiffers, rfl, hvalid⟩

/-! ## A server for three months -/

/-- One plan with one image; the ids of a call are numbered. -/
def sampleCheckout (now : ℤ) (number : String) : CheckoutContext where
  catalog := sampleCatalog none
  env := ⟨true, true, true, true, true⟩
  saleRegions := ["ir-thr"]
  assets := [{
    id := "image"
    externalId := "linux"
    name := "Linux"
    sshKey := none
    sshPassword := none
    provider := .arvan
    apiVersion := "v1"
    regionCode := "ir-thr"
    active := true
    available := true }]
  letter := Char.isAlphanum
  windows := fun _ => false
  coupon := fun _ _ => .error "coupon_invalid"
  probe := fun _ => .ok ()
  reserve := fun _ => .ok ()
  now
  newSessionId := "session-" ++ number
  newQuoteId := "quote-" ++ number

/-- A checkout for a term. -/
def sampleTerm (termMonths : ℕ) : CreateCatalogServerQuote where
  planId := "plan"
  userId := some "user"
  expectedProductKind := .cloudServer
  delivery := ⟨"image", .oneTimePassword, none, "shop"⟩
  idempotencyKey := "checkout-key-0001"
  termMonths := some termMonths
  couponCode := none
  requestedParchinLevel := none

/-- A quote for a month that is refreshed once. -/
theorem refresh_offers_same_iff_sample :
    ∃ quote db', Tx.Commits (refreshRecommendationQuote "quote-1" "user" (sampleCheckout 60000 "2"))
        (run stepCheckout CheckoutDb.empty [.create (sampleTerm 1) (sampleCheckout 0 "1")])
        quote db' ∧
      ∃ previous, (run stepCheckout CheckoutDb.empty
          [.create (sampleTerm 1) (sampleCheckout 0 "1")]).quotes.find? "quote-1" = some previous ∧
        ((previous.SameOffer quote ∧ db'.OffersNow 60000 quote) ↔
          (run stepCheckout CheckoutDb.empty
            [.create (sampleTerm 1) (sampleCheckout 0 "1")]).Refreshes
              (sampleCheckout 60000 "2") previous) := by
  have hsome : ((refreshRecommendationQuote "quote-1" "user" (sampleCheckout 60000 "2"))
      (run stepCheckout CheckoutDb.empty
        [.create (sampleTerm 1) (sampleCheckout 0 "1")])).1.toOption.isSome = true := by
    decide +kernel
  obtain ⟨quote, hquote⟩ := Option.isSome_iff_exists.1 hsome
  have hcommits : Tx.Commits
      (refreshRecommendationQuote "quote-1" "user" (sampleCheckout 60000 "2"))
      (run stepCheckout CheckoutDb.empty [.create (sampleTerm 1) (sampleCheckout 0 "1")]) quote _ :=
    Prod.ext (toOption_eq_some.1 hquote) rfl
  exact ⟨quote, _, hcommits, refresh_offers_same_iff hcommits⟩

/-- A quote for three months, refreshed after a minute, and again after two hours. -/
def sampleRefreshes : List CheckoutEvent :=
  [.create (sampleTerm 3) (sampleCheckout 0 "1"),
    .refresh "quote-1" "user" (sampleCheckout 60000 "2"),
    .refresh "quote-1" "user" (sampleCheckout 7200000 "3")]

/-- The first refresh is for a month, and the second returns the same quote after it has expired. -/
theorem refreshed_shorter_and_expired :
    (trace stepCheckout CheckoutDb.empty sampleRefreshes).map (fun entry =>
      entry.result.toOption.join.map fun quote =>
        (quote.id, quote.priced.termMonths, quote.expiresAt)) =
      [some ("quote-1", 3, 3600000), some ("quote-2", 1, 3660000), some ("quote-2", 1, 3660000)] ∧
    (run stepCheckout CheckoutDb.empty sampleRefreshes).quotes.rows.all
      (fun quote => quote.expiresAt < 7200000) = true := by
  decide +kernel

end AbrChin.Recommendation
