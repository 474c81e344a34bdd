import AbrChin.Finance.Publish

/-!
# Publishes that overlap

`applyFinanceConfiguration` reads the current curve and the rows of the protection levels before its
transaction, and completes its input with them.  The transactions wait for each other under an
advisory lock, so each is one step here; the reads before it are steps of their own, the row of the
curve and its bands among them.

* Between the reads and the transaction another publish may commit.  What the input omits is then
  written as it was read, and the other publish is undone in part.
* The snapshot says `null` where the input does; the transaction keeps the old text there.
* A key that is listed twice is in the snapshot twice, and only the last listing is committed.

Where the reads are still what the transaction finds, a call commits what it would commit on its own
(`commit_alone`), so a run of such calls leaves what its publishes leave one after the other.
-/

namespace AbrChin.Finance

open Lib Pricing

/-! ## The calls of several clients -/

/-- What a call does next. -/
inductive FinancePoint where
  /-- Read the revision of a rollback. -/
  | finding (params : RollbackCall)
  /-- Read the row of the current curve. -/
  | readingCurve (call : FinanceCall)
  /-- Read the bands of the current curve. -/
  | readingBands (call : FinanceCall) (row : ProfitCurveConfiguration)
  /-- Read the rows of the protection levels. -/
  | readingParchin (call : FinanceCall) (current : Option ProfitCurveConfigInput)
  | committing (call : FinanceCall) (current : Option ProfitCurveConfigInput)
      (existing : ParchinLevel → Option ParchinContract)

/-- A client sends a request; its call then takes its steps, and may be lost at any of them. -/
inductive FinanceEvent where
  | send (client : ℕ) (request : FinanceRequest)
  | advance (client : ℕ)
  | crash (client : ℕ)

inductive FinanceOutcome where
  | pending
  | failed (e : FinanceConfigurationError)
  | published (request : FinanceRequest) (revision : FinanceConfigurationRevision)
  /-- The key of the request has been used: it returns the revision of that time. -/
  | replayed (request : FinanceRequest) (revision : FinanceConfigurationRevision)

structure FinanceActivity where
  request : FinanceRequest
  point : FinancePoint

structure FinanceSystem where
  db : FinanceDb
  calls : ℕ → Option FinanceActivity

def FinanceSystem.start (db : FinanceDb) : FinanceSystem := ⟨db, fun _ => none⟩

/-- The curve is checked as soon as it is known. -/
def FinanceCall.checked (call : FinanceCall) (current : Option ProfitCurveConfigInput) :
    Except FinanceConfigurationError FinancePoint := do
  call.check (call.profitCurve current)
  pure (.readingParchin call current)

/-- The current curve is read when the input has none. -/
def FinanceCall.enter (call : FinanceCall) : Except FinanceConfigurationError FinancePoint := do
  call.validate
  match call.input.profitCurve with
  | some _ => call.checked none
  | none => pure (.readingCurve call)

def FinanceRequest.enter (request : FinanceRequest) :
    Except FinanceConfigurationError FinancePoint :=
  match request with
  | .apply call => call.enter
  | .rollback params => pure (.finding params)

/-- A read of a call, before its transaction. -/
def FinancePoint.read (point : FinancePoint) (db : FinanceDb) :
    Except FinanceConfigurationError FinancePoint :=
  match point with
  | .finding params => do
      let call ← params.call db
      call.enter
  | .readingCurve call =>
      match db.curve with
      | none => call.checked none
      | some row => pure (.readingBands call row)
  | .readingBands call row => call.checked (currentProfitCurve (some row) db.bands)
  | .readingParchin call current => pure (.committing call current db.parchin.find?)
  | .committing call current existing => pure (.committing call current existing)

/-- The transaction of a call, which has read these rows. -/
def FinanceCall.commit (call : FinanceCall) (current : Option ProfitCurveConfigInput)
    (existing : ParchinLevel → Option ParchinContract) (db : FinanceDb) :
    Except FinanceConfigurationError (FinanceConfigurationRevision × FinanceDb) := do
  let prepared ← call.prepare (call.profitCurve current) existing
  prepared.commit db

def FinanceSystem.enter (sys : FinanceSystem) (client : ℕ) (request : FinanceRequest) :
    Except FinanceConfigurationError FinancePoint → FinanceSystem × FinanceOutcome
  | .ok point => ({ sys with calls := Function.update sys.calls client (some ⟨request, point⟩) },
      .pending)
  | .error e => ({ sys with calls := Function.update sys.calls client none }, .failed e)

def step (sys : FinanceSystem) (event : FinanceEvent) : FinanceSystem × FinanceOutcome :=
  match event with
  | .send client request =>
      match sys.calls client with
      | some _ => (sys, .pending)
      | none => sys.enter client request request.enter
  | .crash client => ({ sys with calls := Function.update sys.calls client none }, .pending)
  | .advance client =>
      match sys.calls client with
      | none => (sys, .pending)
      | some ⟨request, .committing call current existing⟩ =>
          match call.commit current existing sys.db with
          | .ok (revision, later) => (⟨later, Function.update sys.calls client none⟩,
              if (sys.db.replayed call).isSome then .replayed request revision
              else .published request revision)
          | .error e => ({ sys with calls := Function.update sys.calls client none }, .failed e)
      | some ⟨request, point⟩ => sys.enter client request (point.read sys.db)

/-! ## What is claimed -/

/-- The publishes of a run, in the order of their revisions. -/
def publishes (outcomes : List FinanceOutcome) : List FinanceRequest :=
  outcomes.filterMap fun
    | .published request _ => some request
    | _ => none

/-- What a snapshot says of the row of a level. -/
def ParchinContract.snapshot (row : ParchinContract) : FinanceParchinSnapshot where
  level := row.level
  title := row.title
  subtitle := row.subtitle
  description := row.description
  priceRial := row.priceRial
  active := row.active
  includedServices := row.includedServices
  excludedServices := row.excludedServices
  supportWindow := row.supportWindow
  firstResponseTarget := row.firstResponseTarget

/-- The settings are those that a snapshot says; the database generates ids for bands without one. -/
structure Describes (snapshot : FinanceSnapshot) (db : FinanceDb) : Prop where
  providers : ∀ item ∈ snapshot.providers, ∃ row, db.providers.find? item.provider = some row ∧
    row.markupBasisPoints = item.markupBasisPoints ∧ row.enabled = item.enabled
  products : ∀ item ∈ snapshot.productMarkups, ∃ row, db.products.find? item.key = some row ∧
    row.markupBasisPoints = item.markupBasisPoints ∧ row.enabled = item.enabled
  commerce : db.commerce = some {
    taxBps := snapshot.taxBps
    minimumPostDiscountGrossMarginBps := snapshot.minimumPostDiscountGrossMarginBps
    reminderDaysBeforeDue := snapshot.reminderDaysBeforeDue
    suspendGraceDaysAfterZero := snapshot.suspendGraceDaysAfterZero
    deleteDaysAfterSuspend := snapshot.deleteDaysAfterSuspend
    compassServicePrices := snapshot.compassServicePrices }
  parchin : ∀ item ∈ snapshot.parchin, ∃ row, db.parchin.find? item.level = some row ∧
    item = row.snapshot
  priceDisplay : db.priceDisplay = some snapshot.priceDisplay
  profitCurve : ∃ row curve, db.curve = some row ∧
    parseProfitCurveConfig snapshot.profitCurve = some curve ∧ row.enabled = curve.enabled ∧
    row.minimumPostDiscountGrossMarginBps = curve.minimumPostDiscountGrossMarginBps ∧
    db.bands.map ProfitCurveBandInput.unnamed = curve.bands.map ProfitCurveBandInput.unnamed

/-- The publishes of a run leave what they leave one after the other, and each commits what its
snapshot says. -/
structure Serializable (db : FinanceDb) (events : List FinanceEvent) : Prop where
  serial : (run step (.start db) events).db =
    run execute db (publishes ((trace step (.start db) events).map Entry.result))
  described : ∀ entry ∈ trace step (.start db) events, ∀ request revision,
    entry.result = .published request revision →
      Describes revision.snapshot (step entry.before entry.event).1.db

/-! ## The condition -/

/-- No key is listed twice with different values. -/
def Consistent {α κ : Type} (key : α → κ) (items : List α) : Prop :=
  ∀ first ∈ items, ∀ second ∈ items, key first = key second → first = second

/-- The fields that an item omits are still as they were read. -/
structure SameOmitted (item : FinanceParchinInput) (read now : Option ParchinContract) : Prop where
  subtitle : item.subtitle = none →
    read.bind ParchinContract.subtitle = now.bind ParchinContract.subtitle
  includedServices : item.includedServices = none →
    (read.map ParchinContract.includedServices).getD [] =
      (now.map ParchinContract.includedServices).getD []
  excludedServices : item.excludedServices = none →
    (read.map ParchinContract.excludedServices).getD [] =
      (now.map ParchinContract.excludedServices).getD []
  supportWindow : item.supportWindow = none →
    read.bind ParchinContract.supportWindow = now.bind ParchinContract.supportWindow
  firstResponseTarget : item.firstResponseTarget = none →
    read.bind ParchinContract.firstResponseTarget = now.bind ParchinContract.firstResponseTarget

/-- An item is `null` only where the row is. -/
structure NullsKept (item : FinanceParchinInput) (now : Option ParchinContract) : Prop where
  subtitle : item.subtitle = some none → now.bind ParchinContract.subtitle = none
  supportWindow : item.supportWindow = some none → now.bind ParchinContract.supportWindow = none
  firstResponseTarget : item.firstResponseTarget = some none →
    now.bind ParchinContract.firstResponseTarget = none

/-- The transaction of a call finds what the call has read, where its input relies on it. -/
structure FinanceCall.Undisturbed (call : FinanceCall) (current : Option ProfitCurveConfigInput)
    (existing : ParchinLevel → Option ParchinContract) (db : FinanceDb) : Prop where
  curve : call.input.profitCurve = none → current = db.loadCurrentProfitCurveConfig
  omitted : ∀ item ∈ call.input.parchin,
    SameOmitted item (existing item.level) (db.parchin.find? item.level)
  nulls : ∀ item ∈ call.input.parchin, NullsKept item (db.parchin.find? item.level)
  providers : Consistent FinanceProviderInput.provider call.input.providers
  products : Consistent FinanceProductMarkupInput.key call.input.productMarkups
  parchin : Consistent FinanceParchinInput.level call.input.parchin

/-- The call whose transaction an event runs, with what it has read. -/
def committing (sys : FinanceSystem) : FinanceEvent → Option
    (FinanceCall × Option ProfitCurveConfigInput × (ParchinLevel → Option ParchinContract))
  | .advance client =>
      match sys.calls client with
      | some ⟨_, .committing call current existing⟩ => some (call, current, existing)
      | _ => none
  | _ => none

/-- The condition on a step: a transaction that is no replay is undisturbed. -/
def Undisturbed (sys : FinanceSystem) (event : FinanceEvent) : Prop :=
  ∀ read ∈ committing sys event, sys.db.replayed read.1 = none →
    read.1.Undisturbed read.2.1 read.2.2 sys.db

/-! ## What a call has checked -/

section Calls

variable {db later : FinanceDb} {request : FinanceRequest} {call : FinanceCall}
  {current : Option ProfitCurveConfigInput} {existing : ParchinLevel → Option ParchinContract}

/-- The request stands for the call, which is valid. -/
structure CallOk (db : FinanceDb) (request : FinanceRequest) (call : FinanceCall) : Prop where
  stands : request.call db = .ok call
  valid : call.validate = .ok ()

/-- What is known of a call at a point. -/
def PointOk (db : FinanceDb) (request : FinanceRequest) : FinancePoint → Prop
  | .finding params => request = .rollback params
  | .readingCurve call => CallOk db request call
  | .readingBands call _ => CallOk db request call
  | .readingParchin call current =>
      CallOk db request call ∧ call.check (call.profitCurve current) = .ok ()
  | .committing call current _ =>
      CallOk db request call ∧ call.check (call.profitCurve current) = .ok ()

/-- Revisions stay, and so does what a rollback stands for. -/
theorem CallOk.mono (hrevisions : ∀ id revision, db.revisions.find? id = some revision →
    later.revisions.find? id = some revision) (h : CallOk db request call) :
    CallOk later request call := by
  refine ⟨?_, h.valid⟩
  have hcall := h.stands
  cases request with
  | apply _ => exact hcall
  | rollback params =>
      show params.call later = .ok call
      have hparams : params.call db = .ok call := hcall
      unfold RollbackCall.call at hparams ⊢
      cases hfind : db.revisions.find? params.revisionId with
      | none =>
          rw [hfind] at hparams
          cases hparams
      | some revision =>
          rw [hfind] at hparams
          rw [hrevisions _ _ hfind]
          exact hparams

variable {point : FinancePoint}

theorem PointOk.mono (hrevisions : ∀ id revision, db.revisions.find? id = some revision →
    later.revisions.find? id = some revision) (h : PointOk db request point) :
    PointOk later request point := by
  cases point with
  | finding params => exact h
  | readingCurve call => exact CallOk.mono hrevisions h
  | readingBands call row => exact CallOk.mono hrevisions h
  | readingParchin call current => exact ⟨h.1.mono hrevisions, h.2⟩
  | committing call current existing => exact ⟨h.1.mono hrevisions, h.2⟩

theorem pointOk_checked (hcall : CallOk db request call) (h : call.checked current = .ok point) :
    PointOk db request point := by
  obtain ⟨_, hcheck, h⟩ := bind_eq_ok.1 h
  cases h
  exact ⟨hcall, hcheck⟩

theorem pointOk_enter (hcall : request.call db = .ok call) (h : call.enter = .ok point) :
    PointOk db request point := by
  obtain ⟨_, hvalid, h⟩ := bind_eq_ok.1 h
  have hok : CallOk db request call := ⟨hcall, hvalid⟩
  cases hcurve : call.input.profitCurve with
  | none =>
      rw [hcurve] at h
      cases h
      exact hok
  | some curve =>
      rw [hcurve] at h
      exact pointOk_checked hok h

theorem pointOk_read {next : FinancePoint} (hpoint : PointOk db request point)
    (h : point.read db = .ok next) : PointOk db request next := by
  cases point with
  | finding params =>
      obtain ⟨call, hcall, h⟩ := bind_eq_ok.1 h
      obtain rfl : request = .rollback params := hpoint
      exact pointOk_enter hcall h
  | readingCurve call =>
      unfold FinancePoint.read at h
      cases hcurve : db.curve with
      | none =>
          rw [hcurve] at h
          exact pointOk_checked hpoint h
      | some row =>
          rw [hcurve] at h
          cases h
          exact hpoint
  | readingBands call row => exact pointOk_checked hpoint h
  | readingParchin call current =>
      cases h
      exact hpoint
  | committing call current existing =>
      cases h
      exact hpoint

/-! ## A call on its own -/

variable {item : FinanceParchinInput}

theorem SameOmitted.merge {read now : Option ParchinContract} (h : SameOmitted item read now) :
    mergeParchinInputWithExisting item read = mergeParchinInputWithExisting item now := by
  have hsubtitle : item.subtitle.getD (read.bind ParchinContract.subtitle) =
      item.subtitle.getD (now.bind ParchinContract.subtitle) := by
    cases hitem : item.subtitle with
    | none => exact h.subtitle hitem
    | some _ => rfl
  have hincluded : item.includedServices.getD
        ((read.map ParchinContract.includedServices).getD []) =
      item.includedServices.getD ((now.map ParchinContract.includedServices).getD []) := by
    cases hitem : item.includedServices with
    | none => exact h.includedServices hitem
    | some _ => rfl
  have hexcluded : item.excludedServices.getD
        ((read.map ParchinContract.excludedServices).getD []) =
      item.excludedServices.getD ((now.map ParchinContract.excludedServices).getD []) := by
    cases hitem : item.excludedServices with
    | none => exact h.excludedServices hitem
    | some _ => rfl
  have hwindow : item.supportWindow.getD (read.bind ParchinContract.supportWindow) =
      item.supportWindow.getD (now.bind ParchinContract.supportWindow) := by
    cases hitem : item.supportWindow with
    | none => exact h.supportWindow hitem
    | some _ => rfl
  have htarget : item.firstResponseTarget.getD (read.bind ParchinContract.firstResponseTarget) =
      item.firstResponseTarget.getD (now.bind ParchinContract.firstResponseTarget) := by
    cases hitem : item.firstResponseTarget with
    | none => exact h.firstResponseTarget hitem
    | some _ => rfl
  unfold mergeParchinInputWithExisting
  rw [hsubtitle, hincluded, hexcluded, hwindow, htarget]

theorem FinanceCall.Undisturbed.profitCurve (h : call.Undisturbed current existing db) :
    call.profitCurve current = call.profitCurve db.loadCurrentProfitCurveConfig := by
  unfold FinanceCall.profitCurve
  cases hcurve : call.input.profitCurve with
  | none => rw [h.curve hcurve]
  | some curve => rfl

/-- **An undisturbed call commits what its request commits on its own.** -/
theorem commit_alone (hcall : CallOk db request call)
    (hcheck : call.check (call.profitCurve current) = .ok ())
    (h : call.Undisturbed current existing db) :
    request.publish db = call.commit current existing db := by
  have hmerged : call.mergedInput (call.profitCurve current) db.parchin.find? =
      call.mergedInput (call.profitCurve current) existing := by
    unfold FinanceCall.mergedInput
    rw [List.map_congr_left fun item hitem => (h.omitted item hitem).merge.symm]
  have hprepare : call.prepare (call.profitCurve current) db.parchin.find? =
      call.prepare (call.profitCurve current) existing := by
    unfold FinanceCall.prepare
    rw [hmerged]
  have hfrom : call.prepareFrom db = call.prepare (call.profitCurve current) existing := by
    unfold FinanceCall.prepareFrom
    rw [hcall.valid, ← h.profitCurve]
    show (do
      call.check (call.profitCurve current)
      call.prepare (call.profitCurve current) db.parchin.find?) = _
    rw [hcheck, hprepare]
    rfl
  unfold FinanceRequest.publish FinanceCall.commit
  rw [hcall.stands]
  show (do
    let prepared ← call.prepareFrom db
    prepared.commit db) = _
  rw [hfrom]

/-! ## What a snapshot says -/

variable {prepared : PreparedPublish} {revision : FinanceConfigurationRevision}

theorem Written.describes_provider (h : Written prepared db revision later)
    (hconsistent : Consistent FinanceProviderInput.provider prepared.input.providers)
    {item : FinanceProviderInput} (hitem : item ∈ prepared.input.providers)
    {written : FinanceProviderSnapshot} (hwritten : providerSnapshot item = .ok written) :
    ∃ row, later.providers.find? written.provider = some row ∧
      row.markupBasisPoints = written.markupBasisPoints ∧ row.enabled = written.enabled := by
  obtain ⟨markup, hmarkup, hwritten⟩ := bind_eq_ok.1 hwritten
  cases hwritten
  refine of_mem_foldlM (Q := fun _ => True)
    (P := fun table : Table ProviderPricingConfig.provider => ∃ row,
      table.find? item.provider = some row ∧ row.markupBasisPoints = markup ∧
        row.enabled = item.enabled) ?_ ?_ trivial (.inl hitem) h.providers
  · intro table next _ hnext
    obtain ⟨found, hfound, hfind⟩ := find?_upsertProvider hnext
    obtain rfl := Except.ok.inj (hmarkup.symm.trans hfound)
    refine ⟨trivial, _, by rw [hfind, Function.update_self], ?_⟩
    cases table.find? item.provider with
    | none => exact ⟨rfl, rfl⟩
    | some row => exact ⟨rfl, rfl⟩
  · intro other hother hne table next _ hnext
    obtain ⟨_, -, hfind⟩ := find?_upsertProvider hnext
    have hkey : item.provider ≠ other.provider := fun hsame =>
      hne (hconsistent other hother item hitem hsame.symm)
    refine ⟨trivial, fun ⟨row, hrow, hsame⟩ => ⟨row, ?_, hsame⟩⟩
    rw [hfind, Function.update_of_ne hkey]
    exact hrow

theorem Written.describes_product (h : Written prepared db revision later)
    (hconsistent : Consistent FinanceProductMarkupInput.key prepared.input.productMarkups)
    {item : FinanceProductMarkupInput} (hitem : item ∈ prepared.input.productMarkups) :
    ∃ row, later.products.find? item.key = some row ∧
      row.markupBasisPoints = item.markupBasisPoints ∧ row.enabled = item.enabled := by
  refine of_mem_foldlM (Q := fun _ => True)
    (P := fun table : Table ProductPricingConfig.key => ∃ row,
      table.find? item.key = some row ∧ row.markupBasisPoints = item.markupBasisPoints ∧
        row.enabled = item.enabled) ?_ ?_ trivial (.inl hitem) h.products
  · intro table next _ hnext
    refine ⟨trivial, _, by rw [find?_upsertProduct hnext, Function.update_self], ?_⟩
    cases table.find? item.key with
    | none => exact ⟨rfl, rfl⟩
    | some row => exact ⟨rfl, rfl⟩
  · intro other hother hne table next _ hnext
    have hkey : item.key ≠ other.key := fun hsame =>
      hne (hconsistent other hother item hitem hsame.symm)
    refine ⟨trivial, fun ⟨row, hrow, hsame⟩ => ⟨row, ?_, hsame⟩⟩
    rw [find?_upsertProduct hnext, Function.update_of_ne hkey]
    exact hrow

/-- The texts that an item leaves `null` are not there. -/
structure NoText (item : FinanceParchinInput) (now : Option ParchinContract) : Prop where
  subtitle : item.subtitle.join = none → now.bind ParchinContract.subtitle = none
  supportWindow : item.supportWindow.join = none → now.bind ParchinContract.supportWindow = none
  firstResponseTarget : item.firstResponseTarget.join = none →
    now.bind ParchinContract.firstResponseTarget = none

/-- A text that is there only if the item has one is the item's after the publish. -/
theorem orElse_of_noText {text old : Option String} (h : text = none → old = none) :
    (text <|> old) = text := by
  cases text with
  | none => exact h rfl
  | some _ => rfl

theorem Written.describes_parchin (h : Written prepared db revision later)
    (hconsistent : Consistent FinanceParchinInput.level prepared.input.parchin)
    (hitem : item ∈ prepared.input.parchin) (hnulls : NoText item (db.parchin.find? item.level)) :
    ∃ row, later.parchin.find? item.level = some row ∧ parchinSnapshot item = row.snapshot := by
  refine of_mem_foldlM
    (Q := fun table : Table (fun row : ParchinContract => row.level) =>
      NoText item (table.find? item.level))
    (P := fun table : Table (fun row : ParchinContract => row.level) => ∃ row,
      table.find? item.level = some row ∧ parchinSnapshot item = row.snapshot) ?_ ?_ hnulls (.inl hitem) h.parchin
  · intro table next hq hnext
    obtain ⟨existing, hexisting, hfind⟩ := find?_updateParchin hnext
    rw [hexisting] at hq
    have hkey := Table.key_of_find? hexisting
    have hlevel : (existing.published item).level = item.level := hkey
    have hsubtitle : (existing.published item).subtitle = item.subtitle.join :=
      orElse_of_noText hq.subtitle
    have hwindow : (existing.published item).supportWindow = item.supportWindow.join :=
      orElse_of_noText hq.supportWindow
    have htarget : (existing.published item).firstResponseTarget =
        item.firstResponseTarget.join :=
      orElse_of_noText hq.firstResponseTarget
    have hnext : next.find? item.level = some (existing.published item) := by
      rw [hfind, Function.update_self]
    rw [hnext]
    have hsnapshot : parchinSnapshot item = (existing.published item).snapshot := by
      rw [ParchinContract.snapshot, hlevel, hsubtitle, hwindow, htarget]
      rfl
    refine ⟨⟨fun hnone => ?_, fun hnone => ?_, fun hnone => ?_⟩, _, rfl, hsnapshot⟩
    · exact hsubtitle.trans hnone
    · exact hwindow.trans hnone
    · exact htarget.trans hnone
  · intro other hother hne table next hq hnext
    obtain ⟨existing, hexisting, hfind⟩ := find?_updateParchin hnext
    have hkey : item.level ≠ other.level := fun hsame =>
      hne (hconsistent other hother item hitem hsame.symm)
    rw [hfind, Function.update_of_ne hkey]
    exact ⟨hq, id⟩

/-- What an item leaves `null` after it is completed is not there, when the row is as it was read. -/
theorem noText_merge {now : Option ParchinContract} (hnulls : NullsKept item now) :
    NoText (mergeParchinInputWithExisting item now) now := by
  constructor
  · intro hnone
    cases hitem : item.subtitle with
    | none => simpa [mergeParchinInputWithExisting, hitem] using hnone
    | some text =>
        have htext : text = none := by simpa [mergeParchinInputWithExisting, hitem] using hnone
        exact hnulls.subtitle (htext ▸ hitem)
  · intro hnone
    cases hitem : item.supportWindow with
    | none => simpa [mergeParchinInputWithExisting, hitem] using hnone
    | some text =>
        have htext : text = none := by simpa [mergeParchinInputWithExisting, hitem] using hnone
        exact hnulls.supportWindow (htext ▸ hitem)
  · intro hnone
    cases hitem : item.firstResponseTarget with
    | none => simpa [mergeParchinInputWithExisting, hitem] using hnone
    | some text =>
        have htext : text = none := by simpa [mergeParchinInputWithExisting, hitem] using hnone
        exact hnulls.firstResponseTarget (htext ▸ hitem)

/-- **An undisturbed publish commits what its snapshot says.** -/
theorem describes_of_commit (hnew : db.replayed call = none)
    (h : call.Undisturbed current existing db)
    (hcommit : call.commit current existing db = .ok (revision, later)) :
    Describes revision.snapshot later := by
  obtain ⟨prepared, hprepared, hcommit⟩ := bind_eq_ok.1 hcommit
  obtain ⟨hcall, hcurve, hinput, hsnapshot⟩ := prepared_of_prepare hprepared
  rcases commit_cases hcommit with ⟨hreplayed, -⟩ | ⟨-, hwritten⟩
  · rw [hcall, hnew] at hreplayed
    cases hreplayed
  have hmerged : prepared.input.parchin = call.input.parchin.map fun item =>
      mergeParchinInputWithExisting item (db.parchin.find? item.level) := by
    rw [hinput]
    exact List.map_congr_left fun item hitem => (h.omitted item hitem).merge
  have hrevision : revision.snapshot = prepared.snapshot := by
    rw [hwritten.revision]
    rfl
  have hpublished : prepared.input.profitCurve = some prepared.profitCurve := by
    rw [hinput, hcurve]
    rfl
  obtain ⟨providers, hproviders, hserialized⟩ := bind_eq_ok.1 hsnapshot
  obtain ⟨serialized, hserialized, hfields⟩ := bind_eq_ok.1 hserialized
  rw [hpublished, Option.getD_some] at hserialized
  have hfields := Except.ok.inj hfields
  rw [hrevision, ← hfields]
  refine ⟨?_, ?_, ?_, ?_, hwritten.priceDisplay, ?_⟩
  · intro written hmem
    obtain ⟨item, hitem, hone⟩ := exists_of_mem_mapM hproviders hmem
    have hconsistent : Consistent FinanceProviderInput.provider prepared.input.providers := by
      rw [hinput]
      exact h.providers
    exact hwritten.describes_provider hconsistent hitem hone
  · intro item hitem
    have hconsistent : Consistent FinanceProductMarkupInput.key prepared.input.productMarkups := by
      rw [hinput]
      exact h.products
    exact hwritten.describes_product hconsistent hitem
  · rw [hwritten.commerce, hpublished]
    rfl
  · intro written hmem
    obtain ⟨item, hitem, rfl⟩ := List.mem_map.1 hmem
    have hconsistent : Consistent FinanceParchinInput.level prepared.input.parchin := by
      rw [hmerged]
      intro first hfirst second hsecond hlevel
      obtain ⟨one, hone, rfl⟩ := List.mem_map.1 hfirst
      obtain ⟨two, htwo, rfl⟩ := List.mem_map.1 hsecond
      rw [h.parchin one hone two htwo hlevel]
    have hitem' := hitem
    rw [hmerged] at hitem'
    obtain ⟨one, hone, rfl⟩ := List.mem_map.1 hitem'
    exact hwritten.describes_parchin hconsistent hitem (noText_merge (h.nulls one hone))
  · obtain ⟨parsed, hparsed, henabled, hfloor, hbands⟩ := parse_serialize hserialized
    refine ⟨_, parsed, hwritten.curve, hparsed, henabled.symm, hfloor.symm, ?_⟩
    rw [hbands]
    exact bands_of_createBands hwritten.bands

end Calls

/-! ## Runs -/

section Runs

variable {sys : FinanceSystem} {event : FinanceEvent}

/-- What a step does: it commits the transaction of a call, or the settings stay. -/
theorem step_cases (sys : FinanceSystem) (event : FinanceEvent) :
    ((step sys event).1.db = sys.db ∧ publishes [(step sys event).2] = []) ∨
      ∃ client request call current existing revision later,
        sys.calls client = some ⟨request, .committing call current existing⟩ ∧
        event = .advance client ∧ call.commit current existing sys.db = .ok (revision, later) ∧
        step sys event = (⟨later, Function.update sys.calls client none⟩,
          if (sys.db.replayed call).isSome then .replayed request revision
          else .published request revision) := by
  have henter : ∀ client request result, (sys.enter client request result).1.db = sys.db ∧
      publishes [(sys.enter client request result).2] = [] := by
    intro client request result
    cases result with
    | ok point => exact ⟨rfl, rfl⟩
    | error e => exact ⟨rfl, rfl⟩
  cases event with
  | send client request =>
      simp only [step]
      cases sys.calls client with
      | some _ => exact .inl ⟨rfl, rfl⟩
      | none => exact .inl (henter client request request.enter)
  | crash client => exact .inl ⟨rfl, rfl⟩
  | advance client =>
      simp only [step]
      cases hcall : sys.calls client with
      | none => exact .inl ⟨rfl, rfl⟩
      | some activity =>
          obtain ⟨request, point⟩ := activity
          cases point with
          | committing call current existing =>
              cases hcommit : call.commit current existing sys.db with
              | error e =>
                  simp only [hcommit]
                  exact .inl ⟨trivial, rfl⟩
              | ok result =>
                  refine .inr ⟨client, request, call, current, existing, result.1, result.2, hcall,
                    rfl, hcommit, ?_⟩
                  simp only [hcommit]
          | finding params => exact .inl (henter client request _)
          | readingCurve call => exact .inl (henter client request _)
          | readingBands call row => exact .inl (henter client request _)
          | readingParchin call current => exact .inl (henter client request _)

theorem undisturbed_advance {client : ℕ} {request : FinanceRequest} {call : FinanceCall}
    {current : Option ProfitCurveConfigInput} {existing : ParchinLevel → Option ParchinContract}
    (hcall : sys.calls client = some ⟨request, .committing call current existing⟩)
    (hok : Undisturbed sys (.advance client)) (hnew : sys.db.replayed call = none) :
    call.Undisturbed current existing sys.db := by
  have hcommitting : committing sys (.advance client) = some (call, current, existing) := by
    rw [committing, hcall]
  exact hok _ hcommitting hnew

/-- What is known of the calls. -/
def Inv (sys : FinanceSystem) : Prop :=
  ∀ client activity, sys.calls client = some activity →
    PointOk sys.db activity.request activity.point

theorem inv_start (db : FinanceDb) : Inv (.start db) := by
  intro client activity h
  cases h

theorem inv_drop (h : Inv sys) (client : ℕ) :
    Inv { sys with calls := Function.update sys.calls client none } := by
  intro other activity hactivity
  by_cases hother : other = client
  · subst hother
    simp at hactivity
  · exact h other activity (by simpa [Function.update_of_ne hother] using hactivity)

theorem inv_enter (h : Inv sys) (client : ℕ) (request : FinanceRequest)
    {result : Except FinanceConfigurationError FinancePoint}
    (hresult : ∀ point, result = .ok point → PointOk sys.db request point) :
    Inv (sys.enter client request result).1 := by
  cases result with
  | error e => exact inv_drop h client
  | ok point =>
      intro other activity hactivity
      by_cases hother : other = client
      · subst hother
        have hsame : Function.update sys.calls other (some ⟨request, point⟩) other =
          some activity := hactivity
        rw [Function.update_self] at hsame
        obtain rfl := Option.some.inj hsame
        exact hresult point rfl
      · have hsame : Function.update sys.calls client (some ⟨request, point⟩) other =
          some activity := hactivity
        rw [Function.update_of_ne hother] at hsame
        exact h other activity hsame

theorem revisions_of_commit {call : FinanceCall} {current : Option ProfitCurveConfigInput}
    {existing : ParchinLevel → Option ParchinContract} {db later : FinanceDb}
    {revision : FinanceConfigurationRevision}
    (h : call.commit current existing db = .ok (revision, later)) {id : String}
    {old : FinanceConfigurationRevision} (hold : db.revisions.find? id = some old) :
    later.revisions.find? id = some old := by
  obtain ⟨prepared, -, hcommit⟩ := bind_eq_ok.1 h
  rcases commit_cases hcommit with ⟨-, rfl⟩ | ⟨-, hwritten⟩
  · exact hold
  · exact hwritten.find?_revision hold

theorem inv_step (sys : FinanceSystem) (event : FinanceEvent) (h : Inv sys) :
    Inv (step sys event).1 := by
  cases event with
  | send client request =>
      simp only [step]
      cases sys.calls client with
      | some _ => exact h
      | none =>
          refine inv_enter h client request fun point hpoint => ?_
          cases request with
          | apply call => exact pointOk_enter rfl hpoint
          | rollback params =>
              cases hpoint
              rfl
  | crash client => exact inv_drop h client
  | advance client =>
      simp only [step]
      cases hcall : sys.calls client with
      | none => exact h
      | some activity =>
          obtain ⟨request, point⟩ := activity
          have hread : ∀ next, point.read sys.db = .ok next → PointOk sys.db request next :=
            fun next hnext => pointOk_read (h client _ hcall) hnext
          cases point with
          | committing call current existing =>
              cases hcommit : call.commit current existing sys.db with
              | error e =>
                  simp only [hcommit]
                  exact inv_drop h client
              | ok result =>
                  simp only [hcommit]
                  intro other activity hactivity
                  have hrevisions : ∀ id old, sys.db.revisions.find? id = some old →
                      result.2.revisions.find? id = some old :=
                    fun _ _ => revisions_of_commit hcommit
                  exact (inv_drop h client other activity hactivity).mono hrevisions
          | finding params => exact inv_enter h client request hread
          | readingCurve call => exact inv_enter h client request hread
          | readingBands call row => exact inv_enter h client request hread
          | readingParchin call current => exact inv_enter h client request hread

/-- **A step commits what its request commits on its own**, when it is undisturbed. -/
theorem db_step (h : Inv sys) (hok : Undisturbed sys event) :
    (step sys event).1.db = run execute sys.db (publishes [(step sys event).2]) := by
  rcases step_cases sys event with ⟨hdb, hnone⟩ |
    ⟨client, request, call, current, existing, revision, later, hcall, rfl, hcommit, hstep⟩
  · rw [hdb, hnone]
    rfl
  · rw [hstep]
    cases hreplayed : sys.db.replayed call with
    | some prior =>
        obtain ⟨prepared, hprepared, hlater⟩ := bind_eq_ok.1 hcommit
        obtain ⟨hsame, -⟩ := prepared_of_prepare hprepared
        rcases commit_cases hlater with ⟨-, rfl⟩ | ⟨hnew, -⟩
        · rfl
        · rw [hsame, hreplayed] at hnew
          cases hnew
    | none =>
        have hundisturbed := undisturbed_advance hcall hok hreplayed
        obtain ⟨hstands, hcheck⟩ := h client _ hcall
        have halone := commit_alone hstands hcheck hundisturbed
        show later = (execute sys.db request).1
        unfold execute
        rw [halone, hcommit]

/-- **Publishes are serializable and their snapshots true**, in a run whose transactions find what
their calls have read. -/
theorem publishes_serializable (db : FinanceDb) (events : List FinanceEvent)
    (hundisturbed : Meets step Undisturbed (.start db) events) : Serializable db events := by
  constructor
  · refine (results_of_meets (p := fun outcomes sys =>
      Inv sys ∧ sys.db = run execute db (publishes outcomes)) ?_
        (⟨inv_start db, rfl⟩ : Inv (.start db) ∧ db = run execute db (publishes []))
        hundisturbed).2
    intro outcomes sys event hok ⟨hinv, hdb⟩
    refine ⟨inv_step sys event hinv, ?_⟩
    rw [db_step hinv hok, hdb, publishes, publishes, publishes, List.filterMap_append, run_append]
  · intro entry hentry request revision hresult
    obtain ⟨hinv, hok, hstep⟩ := of_mem_trace_of_meets (p := Inv)
      (fun sys event _ => inv_step sys event) (inv_start db) hundisturbed hentry
    rcases step_cases entry.before entry.event with ⟨-, hnone⟩ |
      ⟨client, request', call, current, existing, revision', later, hcall, hadvance, hcommit, hcases⟩
    · rw [← hstep, hresult] at hnone
      cases hnone
    · rw [hcases] at hstep ⊢
      rw [hresult] at hstep
      cases hreplayed : entry.before.db.replayed call with
      | some prior =>
          rw [hreplayed] at hstep
          cases hstep
      | none =>
          rw [hreplayed] at hstep
          cases hstep
          rw [hadvance] at hok
          exact describes_of_commit hreplayed (undisturbed_advance hcall hok hreplayed) hcommit

end Runs

/-! ## Two publishes -/

section Samples

deriving instance DecidableEq for ProfitCurveConfigInput

instance {α κ : Type} [DecidableEq α] [DecidableEq κ] (key : α → κ) (items : List α) :
    Decidable (Consistent key items) :=
  inferInstanceAs (Decidable (∀ first ∈ items, ∀ second ∈ items, key first = key second → first = second))

instance (item : FinanceParchinInput) (read now : Option ParchinContract) :
    Decidable (SameOmitted item read now) :=
  decidable_of_iff
    ((item.subtitle = none →
        read.bind ParchinContract.subtitle = now.bind ParchinContract.subtitle) ∧
      (item.includedServices = none → (read.map ParchinContract.includedServices).getD [] =
        (now.map ParchinContract.includedServices).getD []) ∧
      (item.excludedServices = none → (read.map ParchinContract.excludedServices).getD [] =
        (now.map ParchinContract.excludedServices).getD []) ∧
      (item.supportWindow = none →
        read.bind ParchinContract.supportWindow = now.bind ParchinContract.supportWindow) ∧
      (item.firstResponseTarget = none → read.bind ParchinContract.firstResponseTarget =
        now.bind ParchinContract.firstResponseTarget))
    ⟨fun ⟨h₁, h₂, h₃, h₄, h₅⟩ => ⟨h₁, h₂, h₃, h₄, h₅⟩, fun ⟨h₁, h₂, h₃, h₄, h₅⟩ =>
      ⟨h₁, h₂, h₃, h₄, h₅⟩⟩

instance (item : FinanceParchinInput) (now : Option ParchinContract) :
    Decidable (NullsKept item now) :=
  decidable_of_iff
    ((item.subtitle = some none → now.bind ParchinContract.subtitle = none) ∧
      (item.supportWindow = some none → now.bind ParchinContract.supportWindow = none) ∧
      (item.firstResponseTarget = some none →
        now.bind ParchinContract.firstResponseTarget = none))
    ⟨fun ⟨h₁, h₂, h₃⟩ => ⟨h₁, h₂, h₃⟩, fun ⟨h₁, h₂, h₃⟩ => ⟨h₁, h₂, h₃⟩⟩

instance (call : FinanceCall) (current : Option ProfitCurveConfigInput)
    (existing : ParchinLevel → Option ParchinContract) (db : FinanceDb) :
    Decidable (call.Undisturbed current existing db) :=
  decidable_of_iff
    ((call.input.profitCurve = none → current = db.loadCurrentProfitCurveConfig) ∧
      (∀ item ∈ call.input.parchin,
        SameOmitted item (existing item.level) (db.parchin.find? item.level)) ∧
      (∀ item ∈ call.input.parchin, NullsKept item (db.parchin.find? item.level)) ∧
      Consistent FinanceProviderInput.provider call.input.providers ∧
      Consistent FinanceProductMarkupInput.key call.input.productMarkups ∧
      Consistent FinanceParchinInput.level call.input.parchin)
    ⟨fun ⟨h₁, h₂, h₃, h₄, h₅, h₆⟩ => ⟨h₁, h₂, h₃, h₄, h₅, h₆⟩, fun ⟨h₁, h₂, h₃, h₄, h₅, h₆⟩ =>
      ⟨h₁, h₂, h₃, h₄, h₅, h₆⟩⟩

instance (sys : FinanceSystem) (event : FinanceEvent) : Decidable (Undisturbed sys event) :=
  inferInstanceAs (Decidable (∀ read ∈ committing sys event, sys.db.replayed read.1 = none →
    read.1.Undisturbed read.2.1 read.2.2 sys.db))

def sampleCall (id : String) (input : FinanceConfigurationInput) : FinanceRequest :=
  .apply {
    input
    actorUserId := some "admin"
    rollbackOfId := none
    idempotencyKey := some id
    checks := ⟨fun _ => true, fun _ => true⟩
    generated := ⟨id, id, fun _ => id⟩ }

/-- A publish that omits the curve. -/
def omitting : FinanceRequest := sampleCall "omitting" (sampleInput [])

/-- A publish that switches the curve off. -/
def switching : FinanceRequest :=
  sampleCall "switching" { sampleInput [] with
    profitCurve := some { defaultProfitCurveConfig with enabled := false }
    highMarginConfirmation := some highMarginConfirmationPhrase }

/-- Both publishes have read what they need. -/
def bothRead : List FinanceEvent :=
  [.send 0 omitting, .advance 0, .advance 0, .send 1 switching, .advance 1]

/-- The publish that omits the curve commits first: what it has read is still there. -/
theorem publishes_serializable_sample :
    publishes ((trace step (.start sampleDb) (bothRead ++ [.advance 0, .advance 1])).map
      Entry.result) = [omitting, switching] ∧
    Serializable sampleDb (bothRead ++ [.advance 0, .advance 1]) :=
  ⟨by rfl, publishes_serializable sampleDb _ (by decide +kernel)⟩

/-- **A publish that omits the curve undoes the one that was committed after it was read.** -/
theorem omitted_curve_undoes : ¬ ∀ (db : FinanceDb) (events : List FinanceEvent),
    Serializable db events := by
  intro hclaim
  have hserial := (hclaim sampleDb (bothRead ++ [.advance 1, .advance 0])).serial
  have hoverlap : (run step (.start sampleDb) (bothRead ++ [.advance 1, .advance 0])).db.curve.map
      ProfitCurveConfiguration.enabled = some true := by
    decide +kernel
  have halone : (run execute sampleDb (publishes ((trace step (.start sampleDb)
      (bothRead ++ [.advance 1, .advance 0])).map Entry.result))).curve.map
        ProfitCurveConfiguration.enabled = some false := by
    decide +kernel
  rw [hserial, halone] at hoverlap
  cases hoverlap

end Samples

end AbrChin.Finance
