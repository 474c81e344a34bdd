import AbrChin.Billing.Timeline
import AbrChin.Lib.Ranges
import Mathlib.Data.List.Dedup

/-!
# The lines of an invoice

What `processSnapshot` of `lib/billing/worker.ts` computes before it writes: the
part of the usage timeline that a policy snapshot has in a period, the rate cards
that apply to it, and one line for each rate of each slice.  The computation stops
at the first thing that an administrator has to look at, or at an error.
-/

namespace AbrChin.Billing

open Lib Pricing

def ComponentType.name : ComponentType → String
  | compute => "COMPUTE"
  | disk => "DISK"
  | ip => "IP"
  | backup => "BACKUP"
  | traffic => "TRAFFIC"
  | snapshot => "SNAPSHOT"
  | addon => "ADDON"
  | oneTime => "ONE_TIME"
  | adjustment => "ADJUSTMENT"

def ResourceUnit.name : ResourceUnit → String
  | inst => "INSTANCE"
  | vcpu => "VCPU"
  | gbRam => "GB_RAM"
  | gbDisk => "GB_DISK"
  | ip => "IP"
  | backup => "BACKUP"
  | gbTraffic => "GB_TRAFFIC"
  | snapshot => "SNAPSHOT"
  | addon => "ADDON"

inductive ReviewKind where
  | rateCard
  | resourceState
  deriving DecidableEq

structure InvoiceReview where
  kind : ReviewKind
  reason : String
  deriving DecidableEq

/-- Why no lines are drafted: the invoice goes to review, or an error is thrown. -/
inductive DraftStop where
  | review (review : InvoiceReview)
  | thrown (code : String)
  deriving DecidableEq

/-! ## The usage of a window -/

def intersection (start stop candidateStart : ℤ) (candidateEnd : Option ℤ) : Option (Span ℤ) :=
  let intervalStart := max start candidateStart
  let intervalEnd := match candidateEnd with
    | some candidateEnd => min stop candidateEnd
    | none => stop
  if intervalStart < intervalEnd then some ⟨intervalStart, intervalEnd⟩ else none

def validateIntervalCoverage (targetStart targetEnd : ℤ) (ranges : List (Span ℤ)) : Bool :=
  let sorted := ranges.mergeSort fun left right => left.start ≤ right.start
  walk targetStart sorted = some targetEnd

/-- A full period, counted from the epoch. -/
def fullPeriod (cadence : BillingCadence) (index : ℤ) : Period :=
  ⟨index * periodMilliseconds cadence, (index + 1) * periodMilliseconds cadence⟩

def Period.span (period : Period) : Span ℤ := ⟨period.periodStart, period.periodEnd⟩

/-- The part of a period in which a policy snapshot is in force. -/
def targetOf (snapshot : PolicySnapshot) (period : Period) : Span ℤ where
  start := max period.periodStart snapshot.effectiveFrom
  stop := match snapshot.effectiveTo with
    | some effectiveTo => min period.periodEnd effectiveTo
    | none => period.periodEnd

/-- `usageInterval.findMany`: the intervals of a snapshot that meet a window. -/
def TimelineRows.intervalsOf (rows : TimelineRows) (snapshot : PolicySnapshot) (target : Span ℤ) :
    List UsageInterval :=
  (rows.intervals.filter fun row => row.cloudInstanceId = snapshot.cloudInstanceId ∧
    row.billingPolicySnapshotId = snapshot.id ∧ row.startedAt < target.stop ∧
    row.endedAt.all (target.start < ·) = true).mergeSort fun left right =>
      left.startedAt ≤ right.startedAt

/-- A usage interval with its resource version, cut to a window. -/
structure BoundedUsage extends Span ℤ where
  interval : UsageInterval
  resource : ResourceVersion

/-- The resource version that an interval refers to. -/
def TimelineRows.versionOf (rows : TimelineRows) (interval : UsageInterval) :
    Option ResourceVersion :=
  rows.versions.find? fun row => row.id = interval.resourceVersionId

/-- An interval cut to the window and to the range of its resource version. -/
def boundedUsage (rows : TimelineRows) (target : Span ℤ) (interval : UsageInterval) :
    Option BoundedUsage := do
  let version ← rows.versionOf interval
  let usage ← intersection target.start target.stop interval.startedAt interval.endedAt
  let resource ← intersection usage.start usage.stop version.effectiveFrom version.effectiveTo
  pure ⟨resource, interval, version⟩

/-- The usage of a window, if the timeline is complete there. -/
def usageOf (rows : TimelineRows) (snapshot : PolicySnapshot) (target : Span ℤ) :
    Except DraftStop (List BoundedUsage) :=
  let intervals := rows.intervalsOf snapshot target
  match intervals.find? fun row => row.status = .incomplete ∨ row.status = .review with
  | some incomplete => .error (.review
      ⟨.resourceState, incomplete.completenessReason.getD "usage_interval_incomplete"⟩)
  | none =>
      let bounded := intervals.filterMap (boundedUsage rows target)
      if bounded.isEmpty ∨
          validateIntervalCoverage target.start target.stop (bounded.map BoundedUsage.toSpan) =
            false then
        .error (.review ⟨.resourceState, "usage_timeline_has_gap_or_overlap"⟩)
      else .ok bounded

/-! ## The rates of a slice -/

/-- `rateCardVersion.findMany`: the rate cards that may apply to a usage. -/
def TimelineRows.ratesOf (rows : TimelineRows) (components : List ComponentType)
    (cadence : BillingCadence) (usage : BoundedUsage) : List RateCardVersion :=
  (rows.rates.filter fun rate => rate.planId = some usage.resource.planId ∧
    rate.provider = usage.resource.provider ∧ rate.productKind = .cloudServer ∧
    rate.component ∈ components ∧ (rate.rateCadence = some cadence ∨ rate.rateCadence = none) ∧
    rate.effectiveFrom < usage.stop ∧
    rate.effectiveTo.all (usage.start < ·) = true).insertionSort fun left right =>
      left.effectiveFrom ≤ right.effectiveFrom

/-- The ends of a rate card inside a usage. -/
def innerBoundaries (usage : Span ℤ) (rate : RateCardVersion) : List ℤ :=
  ([rate.effectiveFrom] ++ rate.effectiveTo.toList).filter fun instant =>
    usage.start < instant ∧ instant < usage.stop

def orderedBoundaries (usage : Span ℤ) (rates : List RateCardVersion) : List ℤ :=
  ([usage.start, usage.stop] ++ rates.flatMap (innerBoundaries usage)).dedup.insertionSort (· ≤ ·)

/-- The slices between neighbouring boundaries. -/
def slicesOf : List ℤ → List (Span ℤ)
  | start :: stop :: rest => ⟨start, stop⟩ :: slicesOf (stop :: rest)
  | _ => []

def activeRates (rates : List RateCardVersion) (slice : Span ℤ) : List RateCardVersion :=
  rates.filter fun rate => rate.effectiveFrom ≤ slice.start ∧
    rate.effectiveTo.all (slice.stop ≤ ·) = true

/-- The rates price the same thing. -/
def sameUnit (rate candidate : RateCardVersion) : Bool :=
  candidate.component = rate.component ∧ candidate.resourceUnit = rate.resourceUnit

/-- Why the rates of a slice cannot be applied: one is missing, or two overlap. -/
def rateReview (components : List ComponentType) (active : List RateCardVersion) :
    Option InvoiceReview :=
  match components.find? fun component => !active.any fun rate => rate.component = component with
  | some missing => some ⟨.rateCard, s!"missing_rate_card:{missing.name}"⟩
  | none =>
      -- the rate itself is one of those that it is compared with
      match active.find? fun rate => 2 ≤ active.countP (sameUnit rate) with
      | some duplicate => some ⟨.rateCard,
          s!"overlapping_rate_card:{duplicate.component.name}:{duplicate.resourceUnit.name}"⟩
      | none => none

/-! ## Lines -/

structure LineDraft extends BillingLineAmount where
  usageIntervalId : String
  resourceVersionId : String
  rateCardVersionId : String
  component : ComponentType
  intervalStart : ℤ
  intervalEnd : ℤ
  markupBasisPoints : ℤ
  description : String
  deriving DecidableEq

def lineDescription (component : ComponentType) (unit : ResourceUnit) : String :=
  s!"{component.name} usage ({unit.name})"

/-- Collect what `f` gives for each element, up to the first error. -/
def collect {ε α β : Type} (f : α → Except ε (List β)) : List α → Except ε (List β)
  | [] => pure []
  | a :: rest => do
      let first ← f a
      let later ← collect f rest
      pure (first ++ later)

/-- The line of a calculated amount. -/
def lineDraft (usage : BoundedUsage) (slice : Span ℤ) (rate : RateCardVersion)
    (calculated : BillingLineAmount) : LineDraft where
  toBillingLineAmount := calculated
  usageIntervalId := usage.interval.id
  resourceVersionId := usage.resource.id
  rateCardVersionId := rate.id
  component := rate.component
  intervalStart := slice.start
  intervalEnd := slice.stop
  markupBasisPoints := rate.markupBasisPoints
  description := lineDescription rate.component rate.resourceUnit

/-- The line of one rate for one slice; a quantity of zero has no line. -/
def rateLine (usage : BoundedUsage) (slice : Span ℤ) (rate : RateCardVersion) :
    Except DraftStop (List LineDraft) := do
  throwIf (Js.trim rate.providerCurrency = "" ∨ Js.trim rate.providerAmountUnit = "")
    (.review ⟨.rateCard, "provider_money_unit_not_explicit"⟩)
  match calculateBillingLineAmount slice.start slice.stop
    usage.resource.toResourceQuantitySnapshot rate.toCalculableRate with
  | .error code => .error (.thrown code)
  | .ok calculated =>
      if calculated.quantityNumerator = 0 then pure []
      else pure [lineDraft usage slice rate calculated]

def sliceLines (components : List ComponentType) (rates : List RateCardVersion)
    (usage : BoundedUsage) (slice : Span ℤ) : Except DraftStop (List LineDraft) :=
  let active := activeRates rates slice
  match rateReview components active with
  | some review => .error (.review review)
  | none => collect (rateLine usage slice) active

def usageLines (rows : TimelineRows) (snapshot : PolicySnapshot) (cadence : BillingCadence)
    (usage : BoundedUsage) : Except DraftStop (List LineDraft) :=
  let components := requiredBillableComponents usage.resource.toResourceQuantitySnapshot
    snapshot.stopStateComponentPolicy
  if components = [] then pure []
  else
    let rates := rows.ratesOf components cadence usage
    collect (sliceLines components rates usage)
      (slicesOf (orderedBoundaries usage.toSpan rates))

/-- The lines of a snapshot in a window. -/
def lineDrafts (rows : TimelineRows) (snapshot : PolicySnapshot) (cadence : BillingCadence)
    (target : Span ℤ) : Except DraftStop (List LineDraft) := do
  let usages ← usageOf rows snapshot target
  collect (usageLines rows snapshot cadence) usages

def totalOf (lines : List LineDraft) : ℤ := (lines.map fun line => line.amountRial).sum

/-! ## Full periods -/

def periodSeconds : BillingCadence → ℕ
  | .hourly => 3600
  | .daily => 86400

theorem fullPeriod_span (cadence : BillingCadence) (index : ℤ) :
    (fullPeriod cadence index).span = ⟨index * periodMilliseconds cadence,
      index * periodMilliseconds cadence + periodSeconds cadence * 1000⟩ := by
  cases cadence <;>
    simp only [fullPeriod, Period.span, periodMilliseconds, periodSeconds, add_mul, one_mul] <;> rfl

/-! ## What a draft contains -/

section Collect

variable {ε α β : Type} {f : α → Except ε (List β)}

variable {result : List β}

theorem collect_cons_eq_ok {a : α} {rest : List α} :
    collect f (a :: rest) = .ok result ↔
      ∃ first, f a = .ok first ∧ ∃ later, collect f rest = .ok later ∧ result = first ++ later := by
  simp only [collect, bind_eq_ok]
  refine exists_congr fun first => and_congr_right fun _ => exists_congr fun later =>
    and_congr_right fun _ => ?_
  simp only [pure, Except.pure, Except.ok.injEq, eq_comm]

theorem collect_singleton {a : α} : collect f [a] = f a := by
  cases h : f a <;> simp [collect, h, bind, Except.bind, pure, Except.pure]

/-- A collection that succeeds has a part for each element. -/
theorem mem_of_collect {as : List α} (h : collect f as = .ok result) {b : β} (hb : b ∈ result) :
    ∃ a ∈ as, ∃ part, f a = .ok part ∧ b ∈ part := by
  induction as generalizing result with
  | nil =>
      cases h
      cases hb
  | cons a rest ih =>
      obtain ⟨first, hfirst, later, hlater, rfl⟩ := collect_cons_eq_ok.1 h
      rcases List.mem_append.1 hb with hb | hb
      · exact ⟨a, by simp, first, hfirst, hb⟩
      · obtain ⟨a', ha', part, hpart, hb⟩ := ih hlater hb
        exact ⟨a', List.mem_cons_of_mem _ ha', part, hpart, hb⟩

/-- Each part of a collection that succeeds does. -/
theorem ok_of_collect {as : List α} (h : collect f as = .ok result) {a : α} (ha : a ∈ as) :
    ∃ part, f a = .ok part := by
  induction as generalizing result with
  | nil => cases ha
  | cons first rest ih =>
      obtain ⟨part, hpart, later, hlater, -⟩ := collect_cons_eq_ok.1 h
      rcases List.mem_cons.1 ha with rfl | ha
      · exact ⟨part, hpart⟩
      · exact ih hlater ha

theorem collect_eq_flatMap {as : List α} {g : α → List β} (h : ∀ a ∈ as, f a = .ok (g a)) :
    collect f as = .ok (as.flatMap g) := by
  induction as with
  | nil => rfl
  | cons a rest ih =>
      refine collect_cons_eq_ok.2 ⟨g a, h a (by simp), rest.flatMap g, ?_, rfl⟩
      exact ih fun later hlater => h later (by simp [hlater])

end Collect

variable {components : List ComponentType}

/-- Nothing is missing, and nothing is priced twice. -/
theorem rateReview_eq_none {active : List RateCardVersion} :
    rateReview components active = none ↔
      (∀ component ∈ components, ∃ rate ∈ active, rate.component = component) ∧
        ∀ rate ∈ active, active.countP (sameUnit rate) ≤ 1 := by
  unfold rateReview
  split
  · rename_i missing hmissing
    have hmem := List.mem_of_find?_eq_some hmissing
    have hnone := List.find?_some hmissing
    simp only [reduceCtorEq, false_iff, not_and]
    intro hall
    obtain ⟨rate, hrate, hcomponent⟩ := hall missing hmem
    simp only [Bool.not_eq_true', List.any_eq_false, decide_eq_true_eq] at hnone
    exact absurd hcomponent (hnone rate hrate)
  · rename_i hpresent
    have hall : ∀ component ∈ components, ∃ rate ∈ active, rate.component = component := by
      intro component hcomponent
      have := List.find?_eq_none.1 hpresent component hcomponent
      simpa using this
    split
    · rename_i duplicate hduplicate
      have htwice : 2 ≤ active.countP (sameUnit duplicate) := by
        simpa using List.find?_some hduplicate
      simp only [reduceCtorEq, false_iff, not_and]
      intro _ hone
      have := hone duplicate (List.mem_of_find?_eq_some hduplicate)
      omega
    · rename_i hsingle
      refine ⟨fun _ => ⟨hall, fun rate hrate => ?_⟩, fun _ => rfl⟩
      have := List.find?_eq_none.1 hsingle rate hrate
      simpa [Nat.lt_succ_iff] using this

/-- The line of a rate for a whole number of seconds. -/
theorem rateLine_eq_ok {usage : BoundedUsage} {start : ℤ} {seconds : ℕ} (hseconds : 0 < seconds)
    {rate : RateCardVersion} {lines : List LineDraft} :
    rateLine usage ⟨start, start + seconds * 1000⟩ rate = .ok lines ↔
      (Js.trim rate.providerCurrency ≠ "" ∧ Js.trim rate.providerAmountUnit ≠ "") ∧
      (0 ≤ rate.normalizedProviderRial ∧ 0 ≤ rate.customerRateRial ∧ 0 ≤ rate.markupBasisPoints) ∧
      ∃ factor, resourceFactor rate.resourceUnit usage.resource.toResourceQuantitySnapshot =
          .ok factor ∧
        (rate.quantity seconds factor).charge rate.normalizedProviderRial ≤
          (rate.quantity seconds factor).charge rate.customerRateRial ∧
        lines = if (rate.quantity seconds factor).numerator = 0 then []
          else [lineDraft usage ⟨start, start + seconds * 1000⟩ rate
            (rate.line (rate.quantity seconds factor))] := by
  unfold rateLine
  simp only [bind_eq_ok, throwIf_eq_ok, exists_const, not_or]
  refine and_congr_right fun _ => ?_
  constructor
  · intro h
    split at h
    · cases h
    · rename_i calculated hcalculated
      obtain ⟨hamounts, factor, hfactor, hmarkup, rfl⟩ :=
        (calculateBillingLineAmount_eq_ok hseconds).1 hcalculated
      refine ⟨hamounts, factor, hfactor, hmarkup, ?_⟩
      split_ifs at h ⊢ with hzero hzero' hzero'
      · exact (Except.ok.inj h).symm
      · exact absurd hzero hzero'
      · exact absurd hzero' hzero
      · exact (Except.ok.inj h).symm
  · rintro ⟨hamounts, factor, hfactor, hmarkup, rfl⟩
    have hcalculated := (@calculateBillingLineAmount_eq_ok start seconds hseconds _ _ _).2
      ⟨hamounts, factor, hfactor, hmarkup, rfl⟩
    simp only [hcalculated]
    show (if (rate.quantity seconds factor).numerator = 0 then _ else _) = _
    split_ifs <;> rfl

/-! ## One usage under rates that are valid throughout

A window that one usage interval and one resource version cover is one slice, when
every rate card that may apply is valid in the whole window. -/

/-- The range contains the span. -/
def Covers (start : ℤ) (stop : Option ℤ) (span : Span ℤ) : Prop :=
  start ≤ span.start ∧ ∀ until_ ∈ stop, span.stop ≤ until_

theorem Covers.mono {start : ℤ} {stop : Option ℤ} {span part : Span ℤ} (h : Covers start stop span)
    (hstart : span.start ≤ part.start) (hstop : part.stop ≤ span.stop) : Covers start stop part :=
  ⟨h.1.trans hstart, fun until_ huntil => hstop.trans (h.2 until_ huntil)⟩

theorem intersection_of_covers {span : Span ℤ} (hspan : span.start < span.stop)
    {candidateStart : ℤ} {candidateEnd : Option ℤ} (h : Covers candidateStart candidateEnd span) :
    intersection span.start span.stop candidateStart candidateEnd = some span := by
  have hstart : max span.start candidateStart = span.start := max_eq_left h.1
  cases candidateEnd with
  | none => simp [intersection, hstart, hspan]
  | some until_ =>
      have hstop : min span.stop until_ = span.stop := min_eq_left (h.2 until_ rfl)
      simp [intersection, hstart, hstop, hspan]

theorem orderedBoundaries_of_covers {span : Span ℤ} (hspan : span.start < span.stop)
    {rates : List RateCardVersion}
    (hrates : ∀ rate ∈ rates, Covers rate.effectiveFrom rate.effectiveTo span) :
    orderedBoundaries span rates = [span.start, span.stop] := by
  have hinner : rates.flatMap (innerBoundaries span) = [] := by
    refine List.flatMap_eq_nil_iff.2 fun rate hrate => List.filter_eq_nil_iff.2 ?_
    obtain ⟨hfrom, huntil⟩ := hrates rate hrate
    intro instant hinstant hinside
    have hinside := of_decide_eq_true hinside
    rcases List.mem_append.1 hinstant with hinstant | hinstant
    · have : instant = rate.effectiveFrom := by simpa using hinstant
      omega
    · have := huntil instant (by simpa using hinstant)
      omega
  unfold orderedBoundaries
  rw [hinner, List.append_nil, List.Nodup.dedup (by simpa using hspan.ne)]
  exact List.Pairwise.insertionSort_eq (by simpa using hspan.le)

/-- The first slice of a usage begins with it. -/
theorem first_slice {usage : Span ℤ} (husage : usage.start < usage.stop)
    (rates : List RateCardVersion) :
    ∃ slice ∈ slicesOf (orderedBoundaries usage rates), slice.start = usage.start := by
  have hmem {instant : ℤ} : instant ∈ orderedBoundaries usage rates ↔
      instant = usage.start ∨ instant = usage.stop ∨
        ∃ rate ∈ rates, instant ∈ innerBoundaries usage rate := by
    simp [orderedBoundaries]
  have hleast : ∀ instant ∈ orderedBoundaries usage rates, usage.start ≤ instant := by
    intro instant hinstant
    rcases hmem.1 hinstant with rfl | rfl | ⟨rate, -, hinner⟩
    · exact le_rfl
    · exact husage.le
    · exact (of_decide_eq_true (List.mem_filter.1 hinner).2).1.le
  have hsorted : (orderedBoundaries usage rates).Pairwise (· ≤ ·) := List.pairwise_insertionSort _ _
  have hstart := hmem.2 (.inl rfl)
  have hstop := hmem.2 (.inr (.inl rfl))
  -- both ends are boundaries, so there are two at least, and the first one is the least
  match hlist : orderedBoundaries usage rates with
  | [] => simp [hlist] at hstart
  | [only] =>
      simp only [hlist, List.mem_singleton] at hstart hstop
      omega
  | first :: second :: rest =>
      refine ⟨⟨first, second⟩, List.mem_cons_self, le_antisymm ?_ (hleast first (by simp [hlist]))⟩
      rw [hlist] at hsorted hstart
      rcases List.mem_cons.1 hstart with heq | hlater
      · exact heq.ge
      · exact List.rel_of_pairwise_cons hsorted hlater

variable {snapshot : PolicySnapshot} {rows : TimelineRows} {target : Span ℤ}

/-- The usage of a window that one interval and one resource version cover. -/
theorem usageOf_of_covers {interval : UsageInterval} {version : ResourceVersion}
    (htarget : target.start < target.stop)
    (hintervals : rows.intervalsOf snapshot target = [interval])
    (hstatus : interval.status ≠ .incomplete ∧ interval.status ≠ .review)
    (hinterval : Covers interval.startedAt interval.endedAt target)
    (hversion : rows.versionOf interval = some version)
    (hresource : Covers version.effectiveFrom version.effectiveTo target) :
    usageOf rows snapshot target = .ok [⟨target, interval, version⟩] := by
  have hbounded : boundedUsage rows target interval = some ⟨target, interval, version⟩ := by
    simp only [boundedUsage, hversion, Option.bind_eq_bind, Option.bind_some,
      intersection_of_covers htarget hinterval, intersection_of_covers htarget hresource]
    rfl
  have hcoverage : validateIntervalCoverage target.start target.stop [target] = true := by
    simp [validateIntervalCoverage, walk]
  simp only [usageOf, hintervals, List.find?_cons, hstatus.1, hstatus.2, or_self, decide_false,
    List.find?_nil, List.filterMap_cons, hbounded, List.filterMap_nil, List.isEmpty_cons,
    List.map_cons, List.map_nil, hcoverage]
  rfl

theorem lineDrafts_of_usage {cadence : BillingCadence} {usage : BoundedUsage}
    (husage : usageOf rows snapshot target = .ok [usage]) :
    lineDrafts rows snapshot cadence target = usageLines rows snapshot cadence usage := by
  rw [lineDrafts, husage]
  exact collect_singleton

/-- The lines of a window that is one slice. -/
theorem lineDrafts_of_covers {cadence : BillingCadence} {interval : UsageInterval}
    {version : ResourceVersion} {rates : List RateCardVersion}
    (htarget : target.start < target.stop)
    (hintervals : rows.intervalsOf snapshot target = [interval])
    (hstatus : interval.status ≠ .incomplete ∧ interval.status ≠ .review)
    (hinterval : Covers interval.startedAt interval.endedAt target)
    (hversion : rows.versionOf interval = some version)
    (hresource : Covers version.effectiveFrom version.effectiveTo target)
    (hcomponents : components = requiredBillableComponents version.toResourceQuantitySnapshot
      snapshot.stopStateComponentPolicy)
    (hrates : rates = rows.ratesOf components cadence ⟨target, interval, version⟩)
    (hvalid : ∀ rate ∈ rates, Covers rate.effectiveFrom rate.effectiveTo target) :
    lineDrafts rows snapshot cadence target =
      sliceLines components rates ⟨target, interval, version⟩ target := by
  have husage := usageOf_of_covers htarget hintervals hstatus hinterval hversion hresource
  have hslices : slicesOf (orderedBoundaries target rates) = [target] := by
    rw [orderedBoundaries_of_covers htarget hvalid]
    rfl
  have husageLines : usageLines rows snapshot cadence ⟨target, interval, version⟩ =
      sliceLines components rates ⟨target, interval, version⟩ target := by
    unfold usageLines
    simp only [← hcomponents, ← hrates, hslices]
    by_cases hempty : components = []
    · -- no components have no rates, and no rates have no lines
      have hnone : rates = [] := by
        rw [hrates, hempty]
        simp [TimelineRows.ratesOf]
      rw [if_pos hempty, hempty, hnone]
      rfl
    · rw [if_neg hempty, collect_singleton]
  rw [lineDrafts_of_usage husage, husageLines]

end AbrChin.Billing
