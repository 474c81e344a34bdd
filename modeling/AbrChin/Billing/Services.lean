import AbrChin.Billing.Estimate
import AbrChin.Billing.Usage

/-!
# Services that have only been started

A timeline that only `startInitialUsageBillingTx` has written is a list of services:
each has one policy snapshot, rate card, resource version and usage interval.  What a
period of a service costs then depends on the rate cards of its plan.

`lineDrafts_eq` computes the lines of a window that every rate card of the plan covers.
They can be drafted exactly when the service needs nothing but a processor, and its plan
has one rate card (`Priced`).
-/

namespace AbrChin.Billing

open Lib

/-! ## The services of a timeline -/

/-- A service that has been started, and what the start has read. -/
structure Service where
  activation : ActivationRequest
  cloud : CloudInstance
  contract : VerifiedProviderBillingContract
  timeTerms : TimeTerms
  resources : ℕ × ℕ × ℕ
  confirmedAt : ℤ
  newId : String

namespace Service

variable (service : Service)

def snapshot : PolicySnapshot :=
  activationSnapshot service.activation service.contract service.timeTerms service.cloud.id
    service.confirmedAt service.newId

def rate : RateCardVersion :=
  activationRate service.activation service.timeTerms service.confirmedAt service.newId

def version : ResourceVersion :=
  activationVersion service.activation service.cloud service.resources service.confirmedAt
    service.newId

def interval : UsageInterval :=
  activationInterval service.activation service.cloud.id service.confirmedAt service.newId

end Service

/-- The rows of some services. -/
def ofServices (instances : List CloudInstance) (services : List Service) : TimelineRows where
  instances
  snapshots := services.map Service.snapshot
  rates := services.map Service.rate
  versions := services.map Service.version
  intervals := services.map Service.interval

/-- The timeline after some starts, of which those that fail leave no trace. -/
def afterStarts (instances : List CloudInstance) (starts : List StartInput) : Timeline :=
  run stepTimeline (.initial instances) (starts.map TimelineEvent.start)

/-- A service comes from a start, whose instance is known. -/
def Service.From (instances : List CloudInstance) (starts : List StartInput) (service : Service) :
    Prop :=
  (instances.find? fun row => row.id = service.cloud.id) = some service.cloud ∧
    ∃ start ∈ starts, start.activation = some service.activation ∧
      start.providerConfirmedAt = service.confirmedAt

/-- One start adds a service, or nothing. -/
theorem services_of_start {instances : List CloudInstance} {starts : List StartInput}
    {input : StartInput} (hinput : input ∈ starts) {db : Timeline} {services : List Service}
    (hrows : db.toTimelineRows = ofServices instances services)
    (hservices : ∀ service ∈ services, service.From instances starts) :
    ∃ services, (stepTimeline db (.start input)).1.toTimelineRows = ofServices instances services ∧
      ∀ service ∈ services, service.From instances starts := by
  unfold stepTimeline
  cases hrun : (TimelineEvent.start input).tx.transaction db with
  | mk result db' =>
      cases result with
      | error e =>
          obtain ⟨rfl, -⟩ := Tx.transaction_error hrun
          exact ⟨services, hrows, hservices⟩
      | ok u =>
          have hcommit := Tx.transaction_ok.1 hrun
          simp only [TimelineEvent.tx, Tx.commits_bind, Tx.commits_pure] at hcommit
          obtain ⟨snapshot, mid, hcommit, -, rfl⟩ := hcommit
          rcases commits_start hcommit with rfl |
            ⟨activation, cloud, contract, timeTerms, resources, hactivation, hcloud, -, -, -, hdb⟩
          · exact ⟨services, hrows, hservices⟩
          · refine ⟨services ++ [⟨activation, cloud, contract, timeTerms, resources,
              input.providerConfirmedAt, input.newId⟩], ?_, fun service hservice => ?_⟩
            · rw [hdb, hrows]
              simp only [ofServices, List.map_append, List.map_singleton]
              rfl
            · rcases List.mem_append.1 hservice with hservice | hservice
              · exact hservices service hservice
              · obtain rfl := List.mem_singleton.1 hservice
                have hid : cloud.id = input.cloudInstanceId := by simpa using List.find?_some hcloud
                rw [hrows] at hcloud
                exact ⟨by rw [← hid] at hcloud; exact hcloud, input, hinput, hactivation, rfl⟩

/-- **A timeline after starts is a list of services.** -/
theorem services_of_starts (instances : List CloudInstance) (starts : List StartInput) :
    ∃ services, (afterStarts instances starts).toTimelineRows = ofServices instances services ∧
      ∀ service ∈ services, service.From instances starts := by
  have hrun (more : List StartInput) (hmore : more ⊆ starts) : ∀ db : Timeline,
      (∃ services, db.toTimelineRows = ofServices instances services ∧
        ∀ service ∈ services, service.From instances starts) →
      ∃ services, (run stepTimeline db (more.map TimelineEvent.start)).toTimelineRows =
          ofServices instances services ∧
        ∀ service ∈ services, service.From instances starts := by
    induction more with
    | nil => exact fun _ h => h
    | cons input rest ih =>
        rintro db ⟨services, hrows, hservices⟩
        obtain ⟨hinput, hrest⟩ := List.cons_subset.1 hmore
        exact ih hrest _ (services_of_start hinput hrows hservices)
  exact hrun starts (List.Subset.refl _) _ ⟨[], rfl, by simp⟩

/-! ## The rate cards of a plan -/

/-- The rate cards for servers of a plan. -/
def TimelineRows.planRates (rows : TimelineRows) (planId : String) : List RateCardVersion :=
  rows.rates.filter fun rate => rate.planId = some planId ∧ rate.productKind = .cloudServer

/-- A service needs nothing but a processor, and exactly one rate card is for its plan, valid
since the service has been confirmed. -/
def Priced (rows : TimelineRows) (version : ResourceVersion) : Prop :=
  version.diskGb = 0 ∧ version.ipv4Count = 0 ∧ ∃ rate, rows.planRates version.planId = [rate] ∧
    rate.effectiveFrom ≤ version.effectiveFrom

instance (rows : TimelineRows) (version : ResourceVersion) : Decidable (Priced rows version) :=
  decidable_of_iff (version.diskGb = 0 ∧ version.ipv4Count = 0 ∧
      (rows.planRates version.planId).length = 1 ∧
      ∀ rate ∈ rows.planRates version.planId, rate.effectiveFrom ≤ version.effectiveFrom) <| by
    refine and_congr_right fun _ => and_congr_right fun _ => ?_
    rw [List.length_eq_one_iff]
    constructor
    · rintro ⟨⟨rate, hone⟩, hfrom⟩
      exact ⟨rate, hone, hfrom rate (by simp [hone])⟩
    · rintro ⟨rate, hone, hfrom⟩
      exact ⟨⟨rate, hone⟩, by simpa [hone] using hfrom⟩

section Rates

variable {instances : List CloudInstance} {services : List Service} {service : Service}

theorem mem_planRates {rows : TimelineRows} {planId : String} {rate : RateCardVersion} :
    rate ∈ rows.planRates planId ↔
      rate ∈ rows.rates ∧ rate.planId = some planId ∧ rate.productKind = .cloudServer := by
  simp [TimelineRows.planRates]

/-- The components of a service that is active. -/
theorem components_eq : requiredBillableComponents service.version.toResourceQuantitySnapshot
      service.snapshot.stopStateComponentPolicy =
    [.compute] ++ (if 0 < service.version.diskGb then [.disk] else []) ++
      (if 0 < service.version.ipv4Count then [.ip] else []) := by
  simp [requiredBillableComponents, Service.version, activationVersion]

/-- The rates that are looked up are those of the plan, when all of them have begun. -/
theorem ratesOf_eq {components : List ComponentType} (hcompute : .compute ∈ components)
    {cadence : BillingCadence} {target : Span ℤ}
    (hbegun : ∀ rate ∈ (ofServices instances services).planRates service.version.planId,
      rate.effectiveFrom < target.stop) :
    (ofServices instances services).ratesOf components cadence
        ⟨target, service.interval, service.version⟩ =
      ((ofServices instances services).planRates service.version.planId).insertionSort
        fun left right => left.effectiveFrom ≤ right.effectiveFrom := by
  unfold TimelineRows.ratesOf TimelineRows.planRates
  congr 1
  refine List.filter_congr fun rate hrate => ?_
  obtain ⟨other, hother, rfl⟩ := List.mem_map.1 hrate
  rw [decide_eq_decide]
  constructor
  · rintro ⟨hplan, -, hkind, -⟩
    exact ⟨hplan, hkind⟩
  · rintro ⟨hplan, hkind⟩
    refine ⟨hplan, ?_, hkind, hcompute, .inr rfl, ?_, rfl⟩
    · cases other.rate.provider
      cases service.version.provider
      rfl
    · exact hbegun _ (mem_planRates.2 ⟨hrate, hplan, hkind⟩)

/-- Every rate card prices one instance without an end. -/
theorem rate_of_services {rate : RateCardVersion}
    (hrate : rate ∈ (ofServices instances services).rates) :
    ∃ other ∈ services, rate = other.rate := by
  obtain ⟨other, hother, rfl⟩ := List.mem_map.1 hrate
  exact ⟨other, hother, rfl⟩

/-- Rates of instances price the same thing, so there is one at most. -/
theorem rateReview_of_services {active : List RateCardVersion}
    (hactive : ∀ rate ∈ active, ∃ other : Service, rate = other.rate) :
    rateReview (requiredBillableComponents service.version.toResourceQuantitySnapshot
        service.snapshot.stopStateComponentPolicy) active = none ↔
      service.version.diskGb = 0 ∧ service.version.ipv4Count = 0 ∧ ∃ rate, active = [rate] := by
  have hcomponent : ∀ rate ∈ active, rate.component = .compute := by
    intro rate hrate
    obtain ⟨other, rfl⟩ := hactive rate hrate
    rfl
  have hsame : ∀ rate ∈ active, active.countP (sameUnit rate) = active.length := by
    intro rate hrate
    obtain ⟨own, rfl⟩ := hactive rate hrate
    refine List.countP_eq_length.2 fun candidate hcandidate => ?_
    obtain ⟨other, rfl⟩ := hactive candidate hcandidate
    rfl
  rw [rateReview_eq_none, components_eq]
  constructor
  · rintro ⟨hall, hone⟩
    have hdisk : service.version.diskGb = 0 := by
      by_contra hdisk
      obtain ⟨rate, hrate, hrateDisk⟩ := hall .disk (by simp [Nat.pos_of_ne_zero hdisk])
      cases (hcomponent rate hrate).symm.trans hrateDisk
    have hip : service.version.ipv4Count = 0 := by
      by_contra hip
      obtain ⟨rate, hrate, hrateIp⟩ := hall .ip (by simp [Nat.pos_of_ne_zero hip])
      cases (hcomponent rate hrate).symm.trans hrateIp
    obtain ⟨rate, hrate, -⟩ := hall .compute (by simp)
    have hlength := hone rate hrate
    rw [hsame rate hrate] at hlength
    refine ⟨hdisk, hip, List.length_eq_one_iff.1 ?_⟩
    have := List.length_pos_of_mem hrate
    omega
  · rintro ⟨hdisk, hip, rate, rfl⟩
    refine ⟨fun component hmem => ⟨rate, by simp, ?_⟩, fun other hother => ?_⟩
    · have : component = .compute := by simpa [hdisk, hip] using hmem
      rw [this]
      exact hcomponent rate (by simp)
    · rw [hsame other hother]
      rfl

end Rates

/-! ## The lines of a service -/

section Lines

variable {instances : List CloudInstance} {services : List Service} {service : Service}

/-- A list without repetitions has one element of a kind. -/
theorem filter_eq_singleton {α : Type} {l : List α} (hnodup : l.Nodup) {a : α} (ha : a ∈ l)
    {p : α → Bool} (hp : ∀ b ∈ l, p b = true ↔ b = a) : l.filter p = [a] := by
  rw [← List.perm_singleton]
  refine (List.perm_ext_iff_of_nodup (hnodup.filter p) (List.nodup_singleton a)).2 fun b => ?_
  rw [List.mem_filter, List.mem_singleton]
  constructor
  · rintro ⟨hb, hkeep⟩
    exact (hp b hb).1 hkeep
  · rintro rfl
    exact ⟨ha, (hp b ha).2 rfl⟩

variable {target : Span ℤ}

theorem intervalsOf_service (hvalid : (ofServices instances services).Valid)
    (hservice : service ∈ services) (hstart : service.confirmedAt < target.stop) :
    (ofServices instances services).intervalsOf service.snapshot target = [service.interval] := by
  have hfilter : ((ofServices instances services).intervals.filter fun row =>
      row.cloudInstanceId = service.snapshot.cloudInstanceId ∧
        row.billingPolicySnapshotId = service.snapshot.id ∧ row.startedAt < target.stop ∧
        row.endedAt.all (target.start < ·) = true) = [service.interval] := by
    refine filter_eq_singleton (List.Nodup.of_map _ hvalid.intervalIds)
      (List.mem_map_of_mem hservice) fun row hrow => ?_
    rw [decide_eq_true_eq]
    constructor
    · rintro ⟨-, hof, -⟩
      obtain ⟨other, hother, rfl⟩ := List.mem_map.1 hrow
      exact List.inj_on_of_nodup_map hvalid.intervalIds hrow (List.mem_map_of_mem hservice) hof
    · rintro rfl
      exact ⟨rfl, rfl, hstart, rfl⟩
  rw [TimelineRows.intervalsOf, hfilter, List.mergeSort_singleton]

theorem versionOf_service (hvalid : (ofServices instances services).Valid)
    (hservice : service ∈ services) :
    (ofServices instances services).versionOf service.interval = some service.version := by
  have hmem : service.version ∈ (ofServices instances services).versions :=
    List.mem_map_of_mem hservice
  cases hfind : (ofServices instances services).versionOf service.interval with
  | none =>
      have := List.find?_eq_none.1 hfind _ hmem
      simp [Service.version, Service.interval, activationVersion, activationInterval] at this
  | some found =>
      obtain ⟨hfound, hkeep⟩ := mem_of_find? hfind
      rw [version_ext hvalid hfound hmem (of_decide_eq_true hkeep)]

/-- The lines of a window that all the rates of the plan cover. -/
theorem lineDrafts_eq (hvalid : (ofServices instances services).Valid)
    (hservice : service ∈ services) (cadence : BillingCadence)
    (htarget : target.start < target.stop) (hstart : service.confirmedAt ≤ target.start)
    (hrates : ∀ rate ∈ (ofServices instances services).planRates service.version.planId,
      rate.effectiveFrom ≤ target.start) :
    lineDrafts (ofServices instances services) service.snapshot cadence target =
      sliceLines (requiredBillableComponents service.version.toResourceQuantitySnapshot
          service.snapshot.stopStateComponentPolicy)
        (((ofServices instances services).planRates service.version.planId).insertionSort
          fun left right => left.effectiveFrom ≤ right.effectiveFrom)
        ⟨target, service.interval, service.version⟩ target := by
  have hcompute : ComponentType.compute ∈ requiredBillableComponents
      service.version.toResourceQuantitySnapshot service.snapshot.stopStateComponentPolicy := by
    simp [components_eq]
  refine lineDrafts_of_covers htarget
    (intervalsOf_service hvalid hservice (hstart.trans_lt htarget)) ⟨nofun, nofun⟩
    ⟨hstart, nofun⟩ (versionOf_service hvalid hservice) ⟨hstart, nofun⟩ rfl
    (ratesOf_eq hcompute fun rate hrate => (hrates rate hrate).trans_lt htarget).symm
    fun rate hrate => ?_
  rw [List.mem_insertionSort] at hrate
  refine ⟨hrates rate hrate, fun until_ huntil => ?_⟩
  obtain ⟨other, -, rfl⟩ := rate_of_services (mem_planRates.1 hrate).1
  cases huntil

variable {seconds : ℕ}

/-- A rate of the plan can be applied to a whole number of seconds. -/
theorem rateLine_of_estimate {usage : BoundedUsage} {other : Service}
    (hestimate : ∃ quote, estimateForQuote quote =
      .ok other.activation.estimateSnapshot.toActivationEstimate) {start : ℤ}
    (hseconds : 0 < seconds) : ∃ lines, rateLine usage ⟨start, start + seconds * 1000⟩ other.rate =
      .ok lines ∧ lines.length ≤ 1 ∧ ∀ line ∈ lines, line.intervalStart = start := by
  obtain ⟨quote, hquote⟩ := hestimate
  obtain ⟨hprovider, hcovers, hbasis, -⟩ := estimateForQuote_eq_ok hquote
  have hpositive := @CalculableRate.quantity_pos other.rate.toCalculableRate seconds ⟨1, 1⟩
    Int.one_nonneg Int.one_pos
  refine ⟨_, (rateLine_eq_ok hseconds).2 ⟨?_, ⟨hprovider.le, hprovider.le.trans hcovers, hbasis⟩,
    ⟨1, 1⟩, rfl, Factor.charge_mono hpositive.1 hpositive.2 hcovers, rfl⟩, ?_, ?_⟩
  · show Js.trim "IRR" ≠ "" ∧ Js.trim "RIAL" ≠ ""
    decide
  · split_ifs <;> simp
  · split_ifs <;> simp [lineDraft]

/-- The rates of a plan that have begun are active. -/
theorem activeRates_of_begun {rates : List RateCardVersion}
    (hservices : ∀ rate ∈ rates, ∃ other : Service, rate = other.rate)
    (hbegun : ∀ rate ∈ rates, rate.effectiveFrom ≤ target.start) :
    activeRates rates target = rates := by
  refine List.filter_eq_self.2 fun rate hrate => decide_eq_true ⟨hbegun rate hrate, ?_⟩
  obtain ⟨other, rfl⟩ := hservices rate hrate
  rfl

theorem planRates_of_services {planId : String} :
    ∀ rate ∈ (ofServices instances services).planRates planId, ∃ other ∈ services,
      rate = other.rate :=
  fun _ hrate => rate_of_services (mem_planRates.1 hrate).1

/-- **A service that is priced has lines for every whole number of seconds.** -/
theorem drafts_of_priced (hvalid : (ofServices instances services).Valid)
    (hservice : service ∈ services)
    (hestimates : ∀ other ∈ services, ∃ quote, estimateForQuote quote =
      .ok other.activation.estimateSnapshot.toActivationEstimate)
    (hpriced : Priced (ofServices instances services) service.version) (cadence : BillingCadence)
    {start : ℤ} (hseconds : 0 < seconds) (hstart : service.confirmedAt ≤ start) :
    ∃ drafts, lineDrafts (ofServices instances services) service.snapshot cadence
        ⟨start, start + seconds * 1000⟩ = .ok drafts ∧ drafts.length ≤ 1 ∧
      ∀ draft ∈ drafts, draft.intervalStart = start := by
  obtain ⟨hdisk, hip, rate, hrates, hfrom⟩ := hpriced
  obtain ⟨other, hother, rfl⟩ := planRates_of_services rate (by rw [hrates]; simp)
  have hbegun : other.rate.effectiveFrom ≤ start := hfrom.trans hstart
  have hactive : activeRates [other.rate] ⟨start, start + seconds * 1000⟩ = [other.rate] := by
    refine activeRates_of_begun (fun rate hrate => ⟨other, by simpa using hrate⟩) fun rate hrate => ?_
    obtain rfl := List.mem_singleton.1 hrate
    exact hbegun
  have hreview : rateReview (requiredBillableComponents
      service.version.toResourceQuantitySnapshot service.snapshot.stopStateComponentPolicy)
      [other.rate] = none :=
    (rateReview_of_services fun rate hrate => ⟨other, by simpa using hrate⟩).2
      ⟨hdisk, hip, other.rate, rfl⟩
  rw [lineDrafts_eq hvalid hservice cadence (by show start < start + seconds * 1000; omega) hstart
    (by rw [hrates]; simpa using hbegun), hrates]
  simp only [List.insertionSort_cons, List.insertionSort_nil, List.orderedInsert_nil, sliceLines,
    hactive, hreview, collect_singleton]
  exact rateLine_of_estimate (hestimates other hother) hseconds

/-- In a window that all rates cover, lines need the one rate of a bare service. -/
theorem single_of_drafts (hvalid : (ofServices instances services).Valid)
    (hservice : service ∈ services) {cadence : BillingCadence}
    (htarget : target.start < target.stop) (hstart : service.confirmedAt ≤ target.start)
    (hrates : ∀ rate ∈ (ofServices instances services).planRates service.version.planId,
      rate.effectiveFrom ≤ target.start) {drafts : List LineDraft}
    (h : lineDrafts (ofServices instances services) service.snapshot cadence target = .ok drafts) :
    service.version.diskGb = 0 ∧ service.version.ipv4Count = 0 ∧
      ∃ rate, (ofServices instances services).planRates service.version.planId = [rate] := by
  set sorted := ((ofServices instances services).planRates service.version.planId).insertionSort
    fun left right => left.effectiveFrom ≤ right.effectiveFrom with hsorted
  have hmem {rate : RateCardVersion} : rate ∈ sorted ↔
      rate ∈ (ofServices instances services).planRates service.version.planId := by
    rw [hsorted, List.mem_insertionSort]
  have hfrom : ∀ rate ∈ sorted, ∃ other : Service, rate = other.rate := by
    intro rate hrate
    obtain ⟨other, -, hother⟩ := planRates_of_services rate (hmem.1 hrate)
    exact ⟨other, hother⟩
  have hactive : activeRates sorted target = sorted :=
    activeRates_of_begun hfrom fun rate hrate => hrates rate (hmem.1 hrate)
  rw [lineDrafts_eq hvalid hservice cadence htarget hstart hrates] at h
  unfold sliceLines at h
  simp only [← hsorted, hactive] at h
  split at h
  · cases h
  · rename_i hreview
    obtain ⟨hdisk, hip, rate, hone⟩ := (rateReview_of_services hfrom).1 hreview
    refine ⟨hdisk, hip, rate, List.perm_singleton.1 ?_⟩
    rw [← hone]
    exact (List.perm_insertionSort _ _).symm

/-- Lines need a rate that has begun with the window. -/
theorem begun_of_drafts (hvalid : (ofServices instances services).Valid)
    (hservice : service ∈ services) {cadence : BillingCadence}
    (htarget : target.start < target.stop) (hstart : service.confirmedAt ≤ target.start)
    {drafts : List LineDraft}
    (h : lineDrafts (ofServices instances services) service.snapshot cadence target = .ok drafts) :
    ∃ rate ∈ (ofServices instances services).planRates service.version.planId,
      rate.effectiveFrom ≤ target.start := by
  have husage := usageOf_of_covers htarget
    (intervalsOf_service hvalid hservice (hstart.trans_lt htarget)) ⟨nofun, nofun⟩
    ⟨hstart, nofun⟩ (versionOf_service hvalid hservice) ⟨hstart, nofun⟩
  rw [lineDrafts_of_usage husage] at h
  have hcompute : ComponentType.compute ∈ requiredBillableComponents
      service.version.toResourceQuantitySnapshot service.snapshot.stopStateComponentPolicy := by
    simp [components_eq]
  unfold usageLines at h
  simp only [if_neg (List.ne_nil_of_mem hcompute)] at h
  -- the first slice has a rate for the processor
  obtain ⟨slice, hslice, hfirst⟩ := first_slice htarget _
  obtain ⟨part, hpart⟩ := ok_of_collect h hslice
  unfold sliceLines at hpart
  simp only at hpart
  split at hpart
  · cases hpart
  · rename_i hreview
    obtain ⟨rate, hrate, -⟩ := (rateReview_eq_none.1 hreview).1 .compute hcompute
    obtain ⟨hrate, hactive⟩ := List.mem_filter.1 hrate
    obtain ⟨hmem, hkeep⟩ := List.mem_filter.1 ((List.mem_insertionSort _).1 hrate)
    obtain ⟨hplan, -, hkind, -⟩ := of_decide_eq_true hkeep
    refine ⟨rate, mem_planRates.2 ⟨hmem, hplan, hkind⟩, ?_⟩
    rw [← hfirst]
    exact (of_decide_eq_true hactive).1

end Lines

end AbrChin.Billing
