import AbrChin.Billing.Billable

/-!
# Which activated services are settled

The start of a service writes one rate card, for its processor, and leaves it open; a
settlement wants one rate for every component of the service, and only one.  So a service
with a disk or an address goes to review, and so do two services that share a plan.

`always_settles_iff`: after any starts, whatever the workers do, every period settles all
its services exactly when each of them is `Priced`.
-/

namespace AbrChin.Billing

open Lib Wallet Relation

/-- The tables after some starts, before anything is settled. -/
structure Activated (instances : List CloudInstance) (starts : List StartInput) (db : BillingDb) :
    Prop extends db.Unbilled where
  lines : db.lines = []
  runs : db.runs.rows = []
  timeline : db.timeline = afterStarts instances starts
  users : ∀ cloud ∈ instances, (db.books.walletOf cloud.userId).isSome
  estimates : ∀ start ∈ starts, ∀ activation, start.activation = some activation → ∃ quote,
    estimateForQuote quote = .ok activation.estimateSnapshot.toActivationEstimate
  seconds : ∀ start ∈ starts, 1000 ∣ start.providerConfirmedAt

/-- The transaction of a period commits, and settles every service of its cadence that has
begun before the end of the period; no invoice is under review. -/
def SettlesAll (db : BillingDb) (input : BillingPeriod) : Prop :=
  ∃ run db', Tx.Commits (settleClosedBillingPeriod input) db run db' ∧
    (∀ snapshot ∈ db.timeline.snapshots, snapshot.cadence = input.cadence →
      snapshot.effectiveFrom < input.period.periodEnd →
      ∃ invoice ∈ db'.invoices.rows, invoice.scope = input.scope snapshot) ∧
    ∀ invoice ∈ db'.invoices.rows, invoice.status.settled = true

/-- Whatever the workers have done, every closed period settles all its services. -/
def AlwaysSettles (start : BillingDb) : Prop :=
  ∀ system, ReflTransGen BillingSystem.Quiet ⟨start, []⟩ system →
    ∀ input : BillingPeriod, validatePeriod input = .ok () → input.NewIds system.db →
      SettlesAll system.db input

section Activated

variable {instances : List CloudInstance} {starts : List StartInput} {start : BillingDb}

theorem Activated.orderly (h : Activated instances starts start)
    (hinstances : start.timeline.instances = instances) :
    Orderly start.books.openingBalance start where
  toStanding := h.toUnbilled.standing
  neat := ⟨by simp [h.invoices], by simp [h.invoices], by simp [h.lines], by simp [h.lines]⟩
  users := by
    rw [hinstances]
    exact h.users
  complete := by
    intro run hrun
    have : run ∈ start.runs.rows := hrun
    simp [h.runs] at this

/-! ## Priced services are settled -/

theorem targetOf_service (service : Service) (period : Period) :
    targetOf service.snapshot period =
      ⟨max period.periodStart service.confirmedAt, period.periodEnd⟩ := rfl

/-- The window of a service ends with the period, a whole number of seconds after it begins. -/
theorem target_of_service {service : Service} {input : BillingPeriod}
    (hvalid : validatePeriod input = .ok ()) (hsecond : 1000 ∣ service.confirmedAt)
    (hbegun : service.confirmedAt < input.period.periodEnd) :
    ∃ seconds : ℕ, 0 < seconds ∧ service.confirmedAt ≤ (targetOf service.snapshot input.period).start ∧
      targetOf service.snapshot input.period =
        ⟨(targetOf service.snapshot input.period).start,
          (targetOf service.snapshot input.period).start + seconds * 1000⟩ := by
  obtain ⟨⟨hforward, -⟩, hlength, hhour, -⟩ := validatePeriod_eq_ok.1 hvalid
  obtain ⟨second, hsecond⟩ := hsecond
  have hend : 1000 ∣ input.period.periodEnd := by
    have hcadence : (1000 : ℤ) ∣ periodMilliseconds input.cadence := by
      cases input.cadence <;> decide
    have hhour' : input.period.periodStart % 3600000 = 0 := hhour
    omega
  have hstart : 1000 ∣ max input.period.periodStart service.confirmedAt := by
    have hhour' : input.period.periodStart % 3600000 = 0 := hhour
    omega
  have hlt : max input.period.periodStart service.confirmedAt < input.period.periodEnd :=
    max_lt hforward hbegun
  set first := max input.period.periodStart service.confirmedAt
  refine ⟨((input.period.periodEnd - first) / 1000).toNat, by omega, le_max_right _ _, ?_⟩
  show (⟨first, input.period.periodEnd⟩ : Span ℤ) = ⟨first, first + _⟩
  congr 1
  omega

theorem allDraftable_of_priced {timeline : Timeline} {services : List Service}
    (hrows : timeline.toTimelineRows = ofServices instances services)
    (hservices : ∀ service ∈ services, service.From instances starts)
    (hestimates : ∀ service ∈ services, ∃ quote, estimateForQuote quote =
      .ok service.activation.estimateSnapshot.toActivationEstimate)
    (hseconds : ∀ service ∈ services, 1000 ∣ service.confirmedAt)
    (hpriced : ∀ version ∈ timeline.versions, Priced timeline.toTimelineRows version) :
    AllDraftable timeline := by
  intro input hvalid seen husers snapshot hsnapshot
  obtain ⟨hmem, hcadence, hbegun, -⟩ := mem_loadSnapshots.1 hsnapshot
  have hrowsValid : (ofServices instances services).Valid := hrows ▸ timeline.valid
  rw [hrows] at hmem hpriced
  obtain ⟨service, hservice, rfl⟩ := List.mem_map.1 hmem
  obtain ⟨hcloud, -⟩ := hservices service hservice
  rw [show timeline.instances = instances from congrArg TimelineRows.instances hrows] at husers
  obtain ⟨wallet, hwallet⟩ :=
    Option.isSome_iff_exists.1 (husers _ (List.mem_of_find?_eq_some hcloud))
  obtain ⟨seconds, hpositive, hconfirmed, htarget⟩ :=
    target_of_service hvalid (hseconds service hservice) hbegun
  obtain ⟨drafts, hdrafts, hsingle, hstart⟩ := drafts_of_priced hrowsValid hservice hestimates
    (hpriced service.version (List.mem_map_of_mem hservice)) input.cadence hpositive hconfirmed
  rw [← htarget] at hdrafts
  refine ⟨by rw [hrows]; exact hmem, hcadence, ⟨service.cloud, wallet, by rw [hrows]; exact hcloud,
    hwallet⟩, ?_, drafts, by rw [hrows]; exact hdrafts, hsingle, hstart⟩
  rw [htarget]
  show (targetOf service.snapshot input.period).start <
    (targetOf service.snapshot input.period).start + seconds * 1000
  omega

/-! ## What is settled is priced -/

/-- The lines of an invoice of a period could be drafted. -/
def Drafted (timeline : Timeline) (input : BillingPeriod) (invoice : BillingInvoice) : Prop :=
  ∃ snapshot ∈ timeline.snapshots, invoice.scope = input.scope snapshot ∧
    ∃ drafts, lineDrafts timeline.toTimelineRows snapshot input.cadence
      (targetOf snapshot input.period) = .ok drafts

section Runs

variable {opening : String → ℤ} {db db' : BillingDb} {input : BillingPeriod}
  {snapshot : PolicySnapshot} {pending : List String}

/-- A snapshot that is processed adds an invoice that is drafted, or one that is not settled. -/
theorem Running.drafts (h : Running opening input (snapshot.id :: pending) db)
    (hperiod : input.period.periodEnd - input.period.periodStart =
      periodMilliseconds input.cadence) (hknown : snapshot ∈ db.timeline.snapshots)
    {runId : String} {seen : Books} {result : SnapshotResult}
    (hcommit : Tx.Commits (processSnapshot input runId seen snapshot) db result db') :
    db'.timeline = db.timeline ∧ ∀ invoice ∈ db'.invoices.rows, invoice.status.settled = true →
      invoice ∈ db.invoices.rows ∨ Drafted db.timeline input invoice := by
  have hfresh := h.fresh hperiod
  obtain ⟨userId, wallet, books, -, hprocessed⟩ := processed_of_commits hfresh hcommit
  have hopened : ({ db with books } : BillingDb).invoices.find? (input.scope snapshot) = none :=
    hfresh
  cases hprocessed with
  | skipped => exact ⟨rfl, fun _ hinvoice _ => .inl hinvoice⟩
  | reviewed hdrafts hinsert =>
      refine ⟨rfl, fun invoice hinvoice hsettled => .inl ?_⟩
      simp only [IndexedTable.rows_of_insert? hinsert] at hinvoice
      rcases List.mem_append.1 hinvoice with hinvoice | hinvoice
      · exact hinvoice
      · obtain rfl := List.mem_singleton.1 hinvoice
        cases hsettled
  | settled hdrafts hsettle =>
      obtain ⟨created, invoices, paid, books, hinsert, hmodify, -, rfl⟩ :=
        commits_settleDrafts hopened hsettle
      refine ⟨rfl, fun invoice hinvoice _ => ?_⟩
      rcases (mem_settled hinsert hmodify).1 hinvoice with hinvoice | rfl
      · exact .inl hinvoice
      · exact .inr ⟨snapshot, hknown, rfl, _, hdrafts⟩

theorem Running.runs_drafts {snapshots : List PolicySnapshot}
    (h : Running opening input (snapshots.map PolicySnapshot.id) db)
    (hnodup : (snapshots.map PolicySnapshot.id).Nodup)
    (hperiod : input.period.periodEnd - input.period.periodStart =
      periodMilliseconds input.cadence) (hknown : ∀ snapshot ∈ snapshots,
      snapshot ∈ db.timeline.snapshots) {runId : String} {seen : Books} {counts : ℕ × ℕ}
    (hcommit : Tx.Commits (processSnapshots input runId seen snapshots) db counts db') :
    ∀ invoice ∈ db'.invoices.rows, invoice.status.settled = true →
      invoice ∈ db.invoices.rows ∨ Drafted db.timeline input invoice := by
  induction snapshots generalizing db counts with
  | nil =>
      obtain ⟨-, rfl⟩ := Tx.commits_pure.1 hcommit
      exact fun _ hinvoice _ => .inl hinvoice
  | cons snapshot rest ih =>
      obtain ⟨hdone, hrest⟩ := List.nodup_cons.1 hnodup
      simp only [processSnapshots, Tx.commits_bind, Tx.commits_pure] at hcommit
      obtain ⟨result, mid, hprocess, later, _, hlater, -, rfl⟩ := hcommit
      obtain ⟨htimeline, hfirst⟩ := h.drafts hperiod (hknown snapshot (by simp)) hprocess
      have hlast := ih (h.processes hdone hperiod hprocess).1 hrest
        (fun other hother => htimeline ▸ hknown other (by simp [hother])) hlater
      rw [htimeline] at hlast
      intro invoice hinvoice hsettled
      rcases hlast invoice hinvoice hsettled with hmid | hdrafted
      · exact hfirst invoice hmid hsettled
      · exact .inr hdrafted

end Runs

/-- What the first run settles could be drafted. -/
theorem Activated.drafted (h : Activated instances starts start) {input : BillingPeriod}
    {run : Option BillingRun} {db' : BillingDb}
    (hcommit : Tx.Commits (settleClosedBillingPeriod input) start run db') :
    ∀ invoice ∈ db'.invoices.rows, invoice.status.settled = true →
      Drafted start.timeline input invoice := by
  simp only [settleClosedBillingPeriod, Tx.commits_bind, Tx.commits_ofExcept, Tx.commits_get]
    at hcommit
  obtain ⟨_, _, ⟨hvalid, rfl⟩, _, db, ⟨rfl, rfl⟩, hcommit⟩ := hcommit
  obtain ⟨-, hperiod, -, -⟩ := validatePeriod_eq_ok.1 hvalid
  rcases Tx.commits_ite.1 hcommit with ⟨-, hcommit⟩ | ⟨hopen, hcommit⟩
  · obtain ⟨-, rfl⟩ := Tx.commits_pure.1 hcommit
    simp [h.invoices]
  simp only [Tx.commits_bind, Tx.commits_get, updateRun, Tx.commits_modify, Tx.commits_pure]
    at hcommit
  obtain ⟨runId, _, hstart, _, started, ⟨rfl, rfl⟩, counts, processed, hprocess, _, _, rfl, _, _,
    ⟨rfl, rfl⟩, -, rfl⟩ := hcommit
  obtain ⟨hrunning, -, -⟩ := h.toUnbilled.standing.starts (Bool.eq_false_iff.2 hopen) hstart
  obtain ⟨runs, rfl, -⟩ := commits_openRun hstart
  intro invoice hinvoice hsettled
  rcases hrunning.runs_drafts (nodup_loadSnapshots _ _) hperiod
    (fun snapshot hsnapshot => (mem_loadSnapshots.1 hsnapshot).1) hprocess invoice hinvoice hsettled
    with hbefore | hdrafted
  · simp [h.invoices] at hbefore
  · exact hdrafted

/-- Where everything is settled, every service has lines in every closed period of its cadence. -/
theorem Activated.drafts_of_settles (h : Activated instances starts start)
    (halways : AlwaysSettles start) {snapshot : PolicySnapshot}
    (hsnapshot : snapshot ∈ start.timeline.snapshots) (period : Period)
    (hlength : period.periodEnd - period.periodStart = periodMilliseconds snapshot.cadence)
    (hstart : periodMilliseconds snapshot.cadence ∣ period.periodStart)
    (hbegun : snapshot.effectiveFrom < period.periodEnd) :
    ∃ drafts, lineDrafts start.timeline.toTimelineRows snapshot snapshot.cadence
      (targetOf snapshot period) = .ok drafts := by
  let input : BillingPeriod := ⟨snapshot.cadence, period, "worker", period.periodEnd, "run", id⟩
  have hvalid : validatePeriod input = .ok () := by
    have hpositive := periodMilliseconds_pos snapshot.cadence
    refine validatePeriod_eq_ok.2 ⟨⟨?_, le_rfl⟩, hlength, ?_, fun hdaily => ?_⟩
    · show period.periodStart < period.periodEnd
      omega
    · refine Int.emod_eq_zero_of_dvd (dvd_trans ?_ hstart)
      cases snapshot.cadence <;> decide
    · rw [show snapshot.cadence = .daily from hdaily] at hstart
      exact Int.emod_eq_zero_of_dvd hstart
  have hnew : input.NewIds start :=
    ⟨Function.injective_id, fun id => ⟨by simp [h.invoices], by simp [h.ledger]⟩⟩
  obtain ⟨run, db', hcommit, hall, hsettled⟩ := halways _ .refl input hvalid hnew
  obtain ⟨invoice, hinvoice, hscope⟩ := hall snapshot hsnapshot rfl hbegun
  obtain ⟨other, hother, hotherScope, drafts, hdrafts⟩ :=
    h.drafted hcommit invoice hinvoice (hsettled invoice hinvoice)
  have hid : other.id = snapshot.id :=
    congrArg InvoiceScope.billingPolicySnapshotId (hotherScope.symm.trans hscope)
  obtain rfl := snapshot_ext start.timeline.valid hother hsnapshot hid
  exact ⟨drafts, hdrafts⟩

/-- An instant after every confirmation, at which a period begins. -/
theorem exists_later (services : List Service) (cadence : BillingCadence) :
    ∃ instant, periodMilliseconds cadence ∣ instant ∧
      ∀ service ∈ services, service.confirmedAt ≤ instant := by
  induction services with
  | nil => exact ⟨0, dvd_zero _, by simp⟩
  | cons service rest ih =>
      obtain ⟨instant, hdvd, hrest⟩ := ih
      have hpositive := periodMilliseconds_pos cadence
      -- the period after the later of the two begins late enough
      set last := max service.confirmedAt instant with hlast
      have hmod := Int.emod_lt_of_pos last hpositive
      refine ⟨last - last % periodMilliseconds cadence + periodMilliseconds cadence,
        dvd_add (Int.dvd_self_sub_emod ..) dvd_rfl, fun other hother => ?_⟩
      rcases List.mem_cons.1 hother with rfl | hother
      · omega
      · have := hrest other hother
        omega

theorem priced_of_settles (h : Activated instances starts start) (halways : AlwaysSettles start)
    {services : List Service} (hrows : start.timeline.toTimelineRows = ofServices instances services)
    {service : Service} (hservice : service ∈ services) :
    Priced start.timeline.toTimelineRows service.version := by
  have hvalid : (ofServices instances services).Valid := hrows ▸ start.timeline.valid
  have hsnapshot : service.snapshot ∈ start.timeline.snapshots := by
    rw [hrows]
    exact List.mem_map_of_mem hservice
  set cadence := service.snapshot.cadence with hcadence
  have hpositive := periodMilliseconds_pos cadence
  have hdraft := @Activated.drafts_of_settles _ _ _ h halways _ hsnapshot
  rw [hrows] at hdraft ⊢
  -- in a period that begins after all confirmations, every rate of the plan is active
  obtain ⟨late, hdvd, hlate⟩ := exists_later services cadence
  have hafter : service.confirmedAt ≤ late := hlate service hservice
  have htarget : targetOf service.snapshot ⟨late, late + periodMilliseconds cadence⟩ =
      ⟨late, late + periodMilliseconds cadence⟩ := by
    rw [targetOf_service, max_eq_left hafter]
  obtain ⟨drafts, hdrafts⟩ := hdraft ⟨late, late + periodMilliseconds cadence⟩
    (add_sub_cancel_left _ _) hdvd (hafter.trans_lt (lt_add_of_pos_right late hpositive))
  rw [htarget] at hdrafts
  have hrates : ∀ rate ∈ (ofServices instances services).planRates service.version.planId,
      rate.effectiveFrom ≤ late := by
    intro rate hrate
    obtain ⟨other, hother, rfl⟩ := planRates_of_services rate hrate
    exact hlate other hother
  obtain ⟨hdisk, hip, rate, hone⟩ :=
    single_of_drafts hvalid hservice (lt_add_of_pos_right late hpositive) hafter hrates hdrafts
  -- and the one that is left has begun in the period of the service's own confirmation
  have hmod := Int.emod_nonneg service.confirmedAt hpositive.ne'
  have hmodlt := Int.emod_lt_of_pos service.confirmedAt hpositive
  have htarget' : targetOf service.snapshot (periodContainingUtc cadence service.confirmedAt) =
      ⟨service.confirmedAt, (periodContainingUtc cadence service.confirmedAt).periodEnd⟩ := by
    have hstart : (periodContainingUtc cadence service.confirmedAt).periodStart ≤
        service.confirmedAt := by
      show service.confirmedAt - service.confirmedAt % periodMilliseconds cadence ≤ _
      omega
    rw [targetOf_service, max_eq_right hstart]
  have hbegun : service.confirmedAt <
      (periodContainingUtc cadence service.confirmedAt).periodEnd := by
    show _ < service.confirmedAt - service.confirmedAt % periodMilliseconds cadence + _
    omega
  obtain ⟨first, hfirst⟩ := hdraft (periodContainingUtc cadence service.confirmedAt)
    (add_sub_cancel_left _ _) (Int.dvd_self_sub_emod ..) hbegun
  rw [htarget'] at hfirst
  obtain ⟨begun, hmem, hfrom⟩ := begun_of_drafts hvalid hservice hbegun le_rfl hfirst
  rw [hone] at hmem
  obtain rfl := List.mem_singleton.1 hmem
  exact ⟨hdisk, hip, begun, hone, hfrom⟩

end Activated

/-- **Every period settles all its services exactly when each of them is priced.** -/
theorem always_settles_iff {instances : List CloudInstance} {starts : List StartInput}
    {start : BillingDb} (h : Activated instances starts start) :
    AlwaysSettles start ↔
      ∀ version ∈ start.timeline.versions, Priced start.timeline.toTimelineRows version := by
  obtain ⟨services, hrows, hservices⟩ := services_of_starts instances starts
  rw [← h.timeline] at hrows
  constructor
  · intro halways version hversion
    rw [hrows] at hversion
    obtain ⟨service, hservice, rfl⟩ := List.mem_map.1 hversion
    exact priced_of_settles h halways hrows hservice
  · intro hpriced system hrun input hvalid hnew
    have hall : AllDraftable start.timeline := by
      refine allDraftable_of_priced hrows hservices (fun service hservice => ?_)
        (fun service hservice => ?_) hpriced
      · obtain ⟨-, begun, hbegun, hactivation, -⟩ := hservices service hservice
        exact h.estimates begun hbegun _ hactivation
      · obtain ⟨-, begun, hbegun, -, hconfirmed⟩ := hservices service hservice
        exact hconfirmed ▸ h.seconds begun hbegun
    have hstart := h.orderly (congrArg TimelineRows.instances hrows)
    obtain ⟨horderly, htimeline⟩ := hstart.run hall hrun
    rw [show start.timeline = _ from htimeline.symm] at hall
    obtain ⟨run, db', hcommit⟩ := horderly.exists_commits hall hvalid hnew
    obtain ⟨hafter, -, hsettled⟩ := horderly.settles hall hcommit
    refine ⟨run, db', hcommit, fun snapshot hsnapshot hcadence hbegun => hsettled snapshot ?_,
      hafter.neat.settled⟩
    refine mem_loadSnapshots.2 ⟨hsnapshot, hcadence, hbegun, ?_⟩
    -- no snapshot of a started service has an end
    rw [show system.db.timeline = start.timeline from htimeline, hrows] at hsnapshot
    obtain ⟨service, -, rfl⟩ := List.mem_map.1 hsnapshot
    rfl

/-! ## A service without a disk, and one with a disk -/

def sampleStart (storageGb : ℕ) : StartInput where
  cloudInstanceId := "instance"
  providerConfirmedAt := 0
  activation := some { sampleActivation with
    plan := { samplePlan with storageGb := some storageGb } }
  contracts := [sampleContract .hour]
  newId := "new"

def sampleActivated (storageGb : ℕ) : BillingDb :=
  { sampleDb with timeline := afterStarts sampleDb.timeline.instances [sampleStart storageGb] }

theorem sample_activated (storageGb : ℕ) :
    Activated sampleDb.timeline.instances [sampleStart storageGb] (sampleActivated storageGb) where
  invoices := rfl
  ledger := rfl
  wallets := by
    show ∀ wallet ∈ sampleDb.books.wallets.rows, 0 ≤ wallet.availableBalance
    decide
  lines := rfl
  runs := rfl
  timeline := rfl
  users := by
    show ∀ cloud ∈ sampleDb.timeline.instances, (sampleDb.books.walletOf cloud.userId).isSome
    decide
  estimates := by
    intro start hstart activation hactivation
    obtain rfl := List.mem_singleton.1 hstart
    cases hactivation
    exact ⟨⟨"quote", some 1000, some 0, true⟩, rfl⟩
  seconds := by
    intro start hstart
    obtain rfl := List.mem_singleton.1 hstart
    exact dvd_zero 1000

theorem always_settles_without_disk : AlwaysSettles (sampleActivated 0) :=
  (always_settles_iff (sample_activated 0)).2 (by decide +kernel)

/-- The invoice of a service with a disk of 10 GB goes to review. -/
theorem not_always_settles :
    ¬ ∀ (instances : List CloudInstance) (starts : List StartInput) (start : BillingDb),
      Activated instances starts start → AlwaysSettles start := by
  intro h
  have hvalid : validatePeriod sampleHour = .ok () :=
    validatePeriod_eq_ok.2 ⟨by decide, by decide, by decide, nofun⟩
  have hnew : sampleHour.NewIds (sampleActivated 10) := by
    refine ⟨fun _ _ hid => (String.append_right_inj _).1 hid, fun id => ⟨?_, ?_⟩⟩
    · rw [(sample_activated 10).invoices]
      simp
    · rw [(sample_activated 10).ledger]
      simp
  obtain ⟨run, db', hcommit, -, hsettled⟩ :=
    h _ _ _ (sample_activated 10) _ .refl sampleHour hvalid hnew
  have hafter : db' = (settleClosedBillingPeriod sampleHour (sampleActivated 10)).2 :=
    (congrArg Prod.snd hcommit).symm
  have hreview : db'.invoices.rows.map BillingInvoice.status = [.underReview] := by
    rw [hafter]
    decide +kernel
  obtain ⟨invoice, hinvoices, hstatus⟩ := List.map_eq_singleton_iff.1 hreview
  have := hsettled invoice (by rw [hinvoices]; simp)
  rw [hstatus] at this
  cases this

end AbrChin.Billing
