import AbrChin.Parchin.Quota

/-!
# The quota is a monthly one

The contract promises its requests *in every month*.  The counter of an enrollment is exactly the
number of requests that were accepted since its quota period began (`Fits.used`), so that a refusal
has seen that many requests in the period.  It has seen them in the billing month before it when the
period is not longer than a month and has begun (`Monthly`): a request that finds its period over
always sets such a one, a delivery and a renewal set the period that has been paid.

`quota_kept` is the result for runs in which the periods that are set are monthly, and
`quarter_exhausted` a run with a term of three months, where one request uses up all of them.
-/

namespace AbrChin.Parchin

open Lib Pricing Orders Subscriptions

/-! ## What is promised -/

/-- A request of the enrollment was accepted in the period, or at a time that the period covers. -/
def acceptedIn (enrollmentId : String) (period : QuotaPeriod) : Option Outcome → Bool
  | some (.accepted id now accepting) => id = enrollmentId && (accepting = period ||
      (period.quotaPeriodStart ≤ now && now < period.quotaPeriodEnd))
  | _ => false

/-- A request of the enrollment was accepted at the given time or later. -/
def acceptedSince (enrollmentId : String) (since : ℤ) : Option Outcome → Bool
  | some (.accepted id now _) => id = enrollmentId && since ≤ now
  | _ => false

structure QuotaKept (results : List (Option Outcome)) : Prop where
  /-- A period accepts no more requests than its limit. -/
  accepted : ∀ id now period, some (.accepted id now period) ∈ results →
    results.countP (acceptedIn id period) ≤ period.limit
  /-- A refused request comes after as many accepted ones as the limit, within a billing month. -/
  exhausted : ∀ before id now limit after,
    results = before ++ some (.exhausted id now limit) :: after →
      ∃ start, start ≤ now ∧ now < addBillingMonth start ∧
        limit ≤ before.countP (acceptedSince id start)

/-! ## Monthly periods -/

/-- The period has begun, is not longer than a month, and begins when the one before it is over. -/
def ParchinSystem.Begins (sys : ParchinSystem) (cloudInstanceId : String) (start stop : ℤ) : Prop :=
  (start ≤ sys.clock ∧ start ≤ stop ∧ stop ≤ addBillingMonth start) ∧
    ∀ row ∈ sys.enrollments.rows, row.cloudInstanceId = cloudInstanceId → row.quotaPeriodEnd ≤ start

instance (sys : ParchinSystem) (cloudInstanceId : String) (start stop : ℤ) :
    Decidable (sys.Begins cloudInstanceId start stop) :=
  inferInstanceAs (Decidable (_ ∧ ∀ _ ∈ sys.enrollments.rows, _))

/-- The quota periods that are set by the event are monthly. -/
def Monthly (sys : ParchinSystem) : Event → Prop
  | .deliver input => input.parchinLevel.isSome → sys.Begins input.cloudInstanceId
      ((sys.deliveredSubscription input).elim sys.clock ServiceSubscription.currentPeriodStart)
      ((sys.deliveredSubscription input).elim (addBillingMonths sys.clock 1)
        ServiceSubscription.currentPeriodEnd)
  | .payRenewalQuote input => input.parchinActive = true →
      sys.Begins input.subscription.cloudInstanceId input.quote.periodStartSnapshot
        input.quote.periodEndSnapshot
  | _ => True

instance (sys : ParchinSystem) : ∀ event, Decidable (Monthly sys event)
  | .deliver input => inferInstanceAs (Decidable (input.parchinLevel.isSome → sys.Begins _ _ _))
  | .payRenewalQuote input =>
      inferInstanceAs (Decidable (input.parchinActive = true → sys.Begins _ _ _))
  | .createSupportRequest _ _ | .setStatus _ _ | .tick _ => .isTrue trivial

/-! ## The counter of an enrollment -/

/-- What the row of an enrollment says about the requests that have been accepted. -/
structure Fits (results : List (Option Outcome)) (clock : ℤ) (row : ParchinEnrollment) : Prop where
  begun : row.quotaPeriodStart ≤ clock
  ordered : row.quotaPeriodStart ≤ row.quotaPeriodEnd
  monthly : row.quotaPeriodEnd ≤ addBillingMonth row.quotaPeriodStart
  used : results.countP (acceptedSince row.id row.quotaPeriodStart) = row.routineRequestsUsed
  within : row.routineRequestsUsed ≤ row.routineRequestLimit
  /-- A request was accepted at a time of its period, in the current one or before it. -/
  past : ∀ now period, some (.accepted row.id now period) ∈ results →
    period.quotaPeriodStart ≤ now ∧ now < period.quotaPeriodEnd ∧
      (period = row.period ∨ period.quotaPeriodEnd ≤ row.quotaPeriodStart)

section Fits

variable {results : List (Option Outcome)} {clock : ℤ} {row : ParchinEnrollment}

theorem acceptedSince_iff {id : String} {since : ℤ} {outcome : Option Outcome} :
    acceptedSince id since outcome = true ↔
      ∃ now period, outcome = some (.accepted id now period) ∧ since ≤ now := by
  constructor
  · intro h
    cases outcome with
    | none => cases h
    | some outcome =>
        cases outcome with
        | exhausted id' now limit => cases h
        | accepted id' now period =>
            obtain ⟨hid, hsince⟩ := Bool.and_eq_true_iff.1 h
            obtain rfl : id' = id := of_decide_eq_true hid
            exact ⟨now, period, rfl, of_decide_eq_true hsince⟩
  · rintro ⟨now, period, rfl, hsince⟩
    simp [acceptedSince, hsince]

theorem acceptedIn_iff {id : String} {period : QuotaPeriod} {outcome : Option Outcome} :
    acceptedIn id period outcome = true ↔
      ∃ now accepting, outcome = some (.accepted id now accepting) ∧
        (accepting = period ∨ period.quotaPeriodStart ≤ now ∧ now < period.quotaPeriodEnd) := by
  constructor
  · intro h
    cases outcome with
    | none => cases h
    | some outcome =>
        cases outcome with
        | exhausted id' now limit => cases h
        | accepted id' now accepting =>
            simp only [acceptedIn, Bool.and_eq_true, Bool.or_eq_true, decide_eq_true_eq] at h
            obtain ⟨rfl, hin⟩ := h
            exact ⟨now, accepting, rfl, hin⟩
  · rintro ⟨now, accepting, rfl, hin⟩
    simp only [acceptedIn, Bool.and_eq_true, Bool.or_eq_true, decide_eq_true_eq]
    exact ⟨trivial, hin⟩

/-- All requests of the current period are in the counter. -/
theorem Fits.acceptedIn_le (h : Fits results clock row) :
    results.countP (acceptedIn row.id row.period) ≤ row.routineRequestLimit := by
  refine le_trans ?_ (h.used.trans_le h.within)
  refine List.countP_mono_left fun outcome houtcome hin => ?_
  obtain ⟨now, accepting, rfl, hperiod⟩ := acceptedIn_iff.1 hin
  refine acceptedSince_iff.2 ⟨now, accepting, rfl, ?_⟩
  rcases hperiod with rfl | ⟨hstart, -⟩
  · exact (h.past now row.period houtcome).1
  · exact hstart

/-- Nothing was accepted after the end of the current period. -/
theorem Fits.lt_end (h : Fits results clock row) {now : ℤ} {period : QuotaPeriod}
    (haccepted : some (.accepted row.id now period) ∈ results) : now < row.quotaPeriodEnd := by
  obtain ⟨-, hlt, rfl | hbefore⟩ := h.past now period haccepted
  · exact hlt
  · exact hlt.trans_le (hbefore.trans h.ordered)

/-- A new period begins when the one before it is over. -/
theorem Fits.open (h : Fits results clock row) {next : ParchinEnrollment} (hid : next.id = row.id)
    (hover : row.quotaPeriodEnd ≤ next.quotaPeriodStart) (hbegun : next.quotaPeriodStart ≤ clock)
    (hordered : next.quotaPeriodStart ≤ next.quotaPeriodEnd)
    (hmonthly : next.quotaPeriodEnd ≤ addBillingMonth next.quotaPeriodStart)
    (hused : next.routineRequestsUsed = 0) : Fits results clock next where
  begun := hbegun
  ordered := hordered
  monthly := hmonthly
  used := by
    rw [hused, List.countP_eq_zero]
    intro outcome houtcome hsince
    obtain ⟨now, period, rfl, hle⟩ := acceptedSince_iff.1 hsince
    rw [hid] at houtcome
    have hlt := h.lt_end houtcome
    omega
  within := hused ▸ Nat.zero_le _
  past now period haccepted := by
    rw [hid] at haccepted
    obtain ⟨hfrom, hto, hplace⟩ := h.past now period haccepted
    refine ⟨hfrom, hto, .inr ?_⟩
    rcases hplace with rfl | hbefore
    · exact hover
    · exact hbefore.trans (h.ordered.trans hover)

/-- The period of a row that has been rolled over is not over. -/
theorem lt_rollOver (now : ℤ) (row : ParchinEnrollment) : now < (row.rollOver now).quotaPeriodEnd := by
  unfold ParchinEnrollment.rollOver
  by_cases hover : row.quotaPeriodEnd ≤ now
  · rw [if_pos hover]
    exact lt_addBillingMonth now
  · rw [if_neg hover]
    exact not_le.1 hover

theorem Fits.rollOver (h : Fits results clock row) : Fits results clock (row.rollOver clock) := by
  unfold ParchinEnrollment.rollOver
  by_cases hover : row.quotaPeriodEnd ≤ clock
  · rw [if_pos hover]
    exact h.open rfl hover (le_refl _) (lt_addBillingMonth clock).le (le_refl _) rfl
  · rw [if_neg hover]
    exact h

/-- A result that accepts nothing for the enrollment changes nothing. -/
theorem Fits.append (h : Fits results clock row) {later : ℤ} (hclock : clock ≤ later)
    {outcome : Option Outcome}
    (hother : ∀ now period, outcome ≠ some (.accepted row.id now period)) :
    Fits (results ++ [outcome]) later row where
  begun := h.begun.trans hclock
  ordered := h.ordered
  monthly := h.monthly
  used := by
    have hnone : acceptedSince row.id row.quotaPeriodStart outcome ≠ true := by
      intro hsince
      obtain ⟨now, period, hsome, -⟩ := acceptedSince_iff.1 hsince
      exact hother now period hsome
    rw [List.countP_append, List.countP_singleton, if_neg hnone]
    exact h.used
  within := h.within
  past now period haccepted := by
    rcases List.mem_append.1 haccepted with hold | hnew
    · exact h.past now period hold
    · exact absurd (List.mem_singleton.1 hnew).symm (hother now period)

/-- A request is accepted. -/
theorem Fits.accept (h : Fits results clock row) (hlimit : row.routineRequestsUsed < row.routineRequestLimit)
    (hlt : clock < row.quotaPeriodEnd) :
    Fits (results ++ [some (.accepted row.id clock row.period)]) clock row.countRequest where
  begun := h.begun
  ordered := h.ordered
  monthly := h.monthly
  used := by
    have hsince : acceptedSince row.id row.quotaPeriodStart
        (some (.accepted row.id clock row.period)) = true :=
      acceptedSince_iff.2 ⟨clock, row.period, rfl, h.begun⟩
    show (results ++ _).countP (acceptedSince row.id row.quotaPeriodStart) = row.routineRequestsUsed + 1
    rw [List.countP_append, List.countP_singleton, if_pos hsince, h.used]
  within := hlimit
  past now period haccepted := by
    rcases List.mem_append.1 haccepted with hold | hnew
    · exact h.past now period hold
    · cases List.mem_singleton.1 hnew
      exact ⟨h.begun, hlt, .inl rfl⟩

end Fits

/-! ## Runs -/

/-- What holds of the results and the state, after a run that sets monthly periods. -/
structure QuotaInv (results : List (Option Outcome)) (sys : ParchinSystem) : Prop where
  rows : ∀ row ∈ sys.enrollments, Fits results sys.clock row
  /-- Requests are accepted for enrollments. -/
  known : ∀ id now period, some (.accepted id now period) ∈ results → ∃ row ∈ sys.enrollments, row.id = id
  kept : QuotaKept results

theorem QuotaInv.start : QuotaInv [] .start where
  rows := (fun row hrow => by cases hrow)
  known := (fun id now period haccepted => by cases haccepted)
  kept :=
    { accepted := (fun id now period haccepted => by cases haccepted)
      exhausted := (fun before id now limit after hsplit => by simp at hsplit) }

section Steps

variable {results : List (Option Outcome)} {sys : ParchinSystem}

/-- A refusal keeps what is promised, when there were enough requests before it; any other result that
accepts nothing does. -/
theorem QuotaKept.append (h : QuotaKept results) {outcome : Option Outcome}
    (haccepts : ∀ id now period, outcome ≠ some (.accepted id now period))
    (hexhausted : ∀ id now limit, outcome = some (.exhausted id now limit) →
      ∃ start, start ≤ now ∧ now < addBillingMonth start ∧
        limit ≤ results.countP (acceptedSince id start)) : QuotaKept (results ++ [outcome]) where
  accepted id now period haccepted := by
    have hold : some (.accepted id now period) ∈ results := by
      rcases List.mem_append.1 haccepted with hold | hnew
      · exact hold
      · exact absurd (List.mem_singleton.1 hnew).symm (haccepts id now period)
    have hnone : acceptedIn id period outcome ≠ true := by
      intro hin
      obtain ⟨now, accepting, hsome, -⟩ := acceptedIn_iff.1 hin
      exact haccepts id now accepting hsome
    rw [List.countP_append, List.countP_singleton, if_neg hnone]
    exact h.accepted id now period hold
  exhausted before id now limit after hsplit := by
    rcases split_append hsplit with ⟨rfl, hnew⟩ | ⟨rest, hresults⟩
    · exact hexhausted id now limit hnew
    · exact h.exhausted before id now limit rest hresults

/-- A request that is accepted keeps what is promised. -/
theorem QuotaKept.accept (h : QuotaKept results) {clock : ℤ} {row : ParchinEnrollment}
    (hfits : Fits results clock row) (hlimit : row.routineRequestsUsed < row.routineRequestLimit)
    (hlt : clock < row.quotaPeriodEnd) :
    QuotaKept (results ++ [some (.accepted row.id clock row.period)]) where
  accepted id now period haccepted := by
    have haccept := hfits.accept hlimit hlt
    -- the new request is not one of a period that is over, or of another enrollment
    suffices hold : period = row.period ∧ id = row.id ∨
        (some (.accepted id now period) ∈ results ∧
          acceptedIn id period (some (.accepted row.id clock row.period)) ≠ true) by
      rcases hold with ⟨rfl, rfl⟩ | ⟨hold, hout⟩
      · exact haccept.acceptedIn_le
      · rw [List.countP_append, List.countP_singleton, if_neg hout]
        exact h.accepted id now period hold
    by_cases hid : id = row.id
    · subst hid
      rcases (haccept.past now period haccepted).2.2 with rfl | hbefore
      · exact .inl ⟨rfl, rfl⟩
      · have hbegun : row.quotaPeriodStart ≤ clock := hfits.begun
        have hend : period.quotaPeriodEnd ≤ row.quotaPeriodStart := hbefore
        refine .inr ⟨?_, fun hin => ?_⟩
        · rcases List.mem_append.1 haccepted with hold | hnew
          · exact hold
          · cases List.mem_singleton.1 hnew
            exact absurd (hlt.trans_le hend) (not_lt.2 hbegun)
        · obtain ⟨now, accepting, hsome, hperiod⟩ := acceptedIn_iff.1 hin
          cases hsome
          rcases hperiod with rfl | ⟨-, hto⟩
          · exact absurd (hlt.trans_le hend) (not_lt.2 hbegun)
          · omega
    · refine .inr ⟨?_, fun hin => ?_⟩
      · rcases List.mem_append.1 haccepted with hold | hnew
        · exact hold
        · cases List.mem_singleton.1 hnew
          exact absurd rfl hid
      · obtain ⟨now, accepting, hsome, -⟩ := acceptedIn_iff.1 hin
        cases hsome
        exact hid rfl
  exhausted before id now limit after hsplit := by
    rcases split_append hsplit with ⟨-, hnew⟩ | ⟨rest, hresults⟩
    · cases hnew
    · exact h.exhausted before id now limit rest hresults

/-- A step without a result keeps what holds, when every row is an old one or begins a period. -/
theorem QuotaInv.quiet (h : QuotaInv results sys) {next : ParchinSystem}
    (hclock : sys.clock ≤ next.clock)
    (hrows : ∀ row ∈ next.enrollments, Fits results sys.clock row)
    (hkeep : ∀ row ∈ sys.enrollments, ∃ later ∈ next.enrollments, later.id = row.id) :
    QuotaInv (results ++ [none]) next where
  rows row hrow := (hrows row hrow).append hclock (fun now period hsome => by cases hsome)
  known id now period haccepted := by
    rcases List.mem_append.1 haccepted with hold | hnew
    · obtain ⟨row, hrow, hid⟩ := h.known id now period hold
      obtain ⟨later, hlater, heq⟩ := hkeep row hrow
      exact ⟨later, hlater, heq.trans hid⟩
    · cases List.mem_singleton.1 hnew
  kept := h.kept.append (fun id now period hsome => by cases hsome)
    (fun id now limit hsome => by cases hsome)

/-- An activation that begins a period. -/
theorem fits_activate (h : QuotaInv results sys) {input : ActivateEnrollment}
    {enrollments : Table ParchinEnrollment.id}
    (hbegins : sys.Begins input.cloudInstanceId input.quotaPeriodStart input.quotaPeriodEnd)
    (hactivate : activateParchinEnrollmentTx sys.enrollments input = some enrollments) :
    (∀ row ∈ enrollments, Fits results sys.clock row) ∧
      ∀ row ∈ sys.enrollments, ∃ later ∈ enrollments, later.id = row.id := by
  obtain ⟨⟨hbegun, hordered, hmonthly⟩, hover⟩ := hbegins
  unfold activateParchinEnrollmentTx at hactivate
  split at hactivate
  · rename_i found hfound
    have hmem := List.mem_of_find?_eq_some hfound
    have hinstance : found.cloudInstanceId = input.cloudInstanceId := by
      simpa using List.find?_some hfound
    obtain rfl := Option.some.inj hactivate
    refine ⟨fun row hrow => ?_, fun row hrow =>
      Table.exists_mem_modify (f := input.update) (fun _ => rfl) hrow⟩
    obtain ⟨old, hold, rfl⟩ := Table.mem_modify.1 hrow
    by_cases hid : old.id = found.id
    · rw [if_pos hid]
      obtain rfl := Table.eq_of_key hold hmem hid
      exact (h.rows old hmem).open rfl (hover old hmem hinstance) hbegun hordered hmonthly rfl
    · rw [if_neg hid]
      exact h.rows old hold
  · split at hactivate
    · cases hactivate
    · refine ⟨fun row hrow => ?_, fun row hrow =>
        ⟨row, (Table.mem_insert? hactivate).2 (.inl hrow), rfl⟩⟩
      rcases (Table.mem_insert? hactivate).1 hrow with hold | rfl
      · exact h.rows row hold
      · -- no request of a new enrollment has been accepted
        have hfresh : ∀ now period, some (.accepted input.newId now period) ∉ results := by
          intro now period haccepted
          obtain ⟨row, hrow, hid⟩ := h.known input.newId now period haccepted
          exact Table.find?_eq_none.1 (Table.fresh_of_insert? hactivate) row hrow hid
        refine ⟨hbegun, hordered, hmonthly, List.countP_eq_zero.2 fun outcome houtcome hsince => ?_,
          Nat.zero_le _, fun now period haccepted => absurd haccepted (hfresh now period)⟩
        obtain ⟨now, period, rfl, -⟩ := acceptedSince_iff.1 hsince
        exact hfresh now period houtcome

/-- A routine request counts, or is refused by a counter that tells how many were accepted. -/
theorem quotaInv_consume (h : QuotaInv results sys) (enrollmentId : String) :
    QuotaInv (results ++ [(sys.consumeRoutineQuota enrollmentId).2])
      (sys.consumeRoutineQuota enrollmentId).1 := by
  cases hfound : sys.enrollments.find? enrollmentId with
  | none =>
      simp only [ParchinSystem.consumeRoutineQuota, hfound]
      exact h.quiet (le_refl _) h.rows fun row hrow => ⟨row, hrow, rfl⟩
  | some row =>
      have hmem := Table.mem_of_find? hfound
      obtain rfl : row.id = enrollmentId := Table.key_of_find? hfound
      have hfits := (h.rows row hmem).rollOver
      have hroll := row.id_rollOver sys.clock
      have hlt := lt_rollOver sys.clock row
      simp only [ParchinSystem.consumeRoutineQuota, hfound]
      by_cases hlimit : (row.rollOver sys.clock).routineRequestLimit ≤
          (row.rollOver sys.clock).routineRequestsUsed
      · rw [if_pos hlimit]
        refine ⟨fun other hother => (h.rows other hother).append (le_refl _)
          (fun now period hsome => by cases hsome), fun id now period haccepted => ?_, ?_⟩
        · rcases List.mem_append.1 haccepted with hold | hnew
          · exact h.known id now period hold
          · cases List.mem_singleton.1 hnew
        · refine h.kept.append (fun id now period hsome => by cases hsome) fun id now limit hsome => ?_
          cases hsome
          refine ⟨(row.rollOver sys.clock).quotaPeriodStart, hfits.begun, hlt.trans_le hfits.monthly, ?_⟩
          rw [← hroll, hfits.used]
          exact hlimit
      · rw [if_neg hlimit]
        have haccept := hfits.accept (not_le.1 hlimit) hlt
        rw [hroll] at haccept
        refine ⟨fun other hother => ?_, fun id now period haccepted => ?_, ?_⟩
        · have hother : other ∈ sys.enrollments.modify row.id
              (fun row => (row.rollOver sys.clock).countRequest)
              fun row => row.id_rollOver sys.clock := hother
          obtain ⟨old, hold, rfl⟩ := Table.mem_modify.1 hother
          by_cases hid : old.id = row.id
          · rw [if_pos hid]
            obtain rfl := Table.eq_of_key hold hmem hid
            exact haccept
          · rw [if_neg hid]
            refine (h.rows old hold).append (le_refl _) fun now period hsome => hid ?_
            injection hsome with haccepted
            injection haccepted with hsame
            exact hsame.symm
        · have hkeep : ∃ later ∈ sys.enrollments, later.id = id := by
            rcases List.mem_append.1 haccepted with hold | hnew
            · exact h.known id now period hold
            · cases List.mem_singleton.1 hnew
              exact ⟨row, hmem, rfl⟩
          obtain ⟨before, hbefore, rfl⟩ := hkeep
          exact Table.exists_mem_modify (fun row => row.id_rollOver sys.clock) hbefore
        · have hkept := h.kept.accept hfits (not_le.1 hlimit) hlt
          rw [hroll] at hkept
          exact hkept

/-- **A step that sets monthly periods keeps what holds.** -/
theorem quotaInv_step (event : Event) (hmonthly : Monthly sys event) (h : QuotaInv results sys) :
    QuotaInv (results ++ [(stepQuota sys event).2]) (stepQuota sys event).1 := by
  have hstay : QuotaInv (results ++ [none]) sys :=
    h.quiet (le_refl _) h.rows fun row hrow => ⟨row, hrow, rfl⟩
  cases event with
  | deliver input =>
      cases hdeliver : sys.activateApprovedDelivery input with
      | none =>
          simp only [stepQuota, hdeliver]
          exact hstay
      | some next =>
          simp only [stepQuota, hdeliver]
          unfold ParchinSystem.activateApprovedDelivery at hdeliver
          obtain ⟨subscriptions, -, hnext⟩ := Option.bind_eq_some_iff.1 hdeliver
          obtain ⟨enrollments, henrollments, hnext⟩ := Option.bind_eq_some_iff.1 hnext
          obtain rfl := Option.some.inj hnext
          unfold ParchinSystem.activateEnrollment at henrollments
          cases hlevel : input.parchinLevel with
          | none =>
              rw [hlevel] at henrollments
              obtain rfl := Option.some.inj henrollments
              exact h.quiet (le_refl _) h.rows fun row hrow => ⟨row, hrow, rfl⟩
          | some level =>
              rw [hlevel] at henrollments
              have hbegins := hmonthly (by rw [hlevel]; rfl)
              obtain ⟨hrows, hkeep⟩ := fits_activate h hbegins henrollments
              exact h.quiet (le_refl _) hrows hkeep
  | payRenewalQuote input =>
      cases hpay : sys.payRenewalQuote input with
      | none =>
          simp only [stepQuota, hpay]
          exact hstay
      | some next =>
          simp only [stepQuota, hpay]
          unfold ParchinSystem.payRenewalQuote at hpay
          split at hpay
          · cases hpay
          obtain ⟨subscriptions, -, hnext⟩ := Option.bind_eq_some_iff.1 hpay
          obtain ⟨enrollments, henrollments, hnext⟩ := Option.bind_eq_some_iff.1 hnext
          obtain rfl := Option.some.inj hnext
          unfold ParchinSystem.renewEnrollment at henrollments
          by_cases hactive : input.parchinActive = true
          · rw [if_pos hactive] at henrollments
            obtain ⟨hrows, hkeep⟩ := fits_activate h (hmonthly hactive) henrollments
            exact h.quiet (le_refl _) hrows hkeep
          · rw [if_neg hactive] at henrollments
            obtain rfl := Option.some.inj henrollments
            exact h.quiet (le_refl _) h.rows fun row hrow => ⟨row, hrow, rfl⟩
  | createSupportRequest input seen =>
      simp only [stepQuota, ParchinSystem.createSupportRequest]
      split
      · exact quotaInv_consume h _
      · exact hstay
  | setStatus enrollmentId status =>
      refine h.quiet (le_refl _) (fun row hrow => ?_) fun row hrow =>
        Table.exists_mem_modify (f := ParchinEnrollment.withStatus status) (fun _ => rfl) hrow
      have hrow : row ∈ sys.enrollments.modify enrollmentId (ParchinEnrollment.withStatus status)
        fun _ => rfl := hrow
      obtain ⟨old, hold, rfl⟩ := Table.mem_modify.1 hrow
      have hfits := h.rows old hold
      split
      · exact ⟨hfits.begun, hfits.ordered, hfits.monthly, hfits.used, hfits.within, hfits.past⟩
      · exact hfits
  | tick ms =>
      exact h.quiet (Int.le_add_of_nonneg_right (Int.natCast_nonneg ms)) h.rows
        fun row hrow => ⟨row, hrow, rfl⟩

end Steps

/-- The results of a run from the start. -/
def quotaResults (events : List Event) : List (Option Outcome) :=
  (trace stepQuota .start events).map Entry.result

/-- **The routine quota is a monthly one** in every run in which the quota periods that are set are
monthly. -/
theorem quota_kept (events : List Event) (hmonthly : Meets stepQuota Monthly .start events) :
    QuotaKept (quotaResults events) := by
  have hinv := results_of_meets (p := QuotaInv)
    (fun results sys event hevent h => quotaInv_step event hevent h) .start hmonthly
  rw [List.nil_append] at hinv
  exact hinv.kept

/-! ### Two runs -/

/-- A delivery of a prepaid server with the smallest contract. -/
def deliverStart (termMonths : ℤ) : Event :=
  .deliver {
    userId := "user", cloudInstanceId := "instance", serviceOrderId := "order", prepaid := true
    termMonths := termMonths, renewalPriceRial := 1000000, suspendGraceDaysAfterZero := 7
    parchinLevel := some .start, contractLevel := some .start, newSubscriptionId := "subscription"
    newEnrollmentId := "enrollment" }

/-- The subscription after that, and its enrollment. -/
def afterDelivery (termMonths : ℤ) : ParchinSystem := (stepQuota .start (deliverStart termMonths)).1

def routineRequest (termMonths : ℤ) : Event :=
  .createSupportRequest ⟨.routine, 20, 100, some "instance", none, true⟩
    (afterDelivery termMonths).enrollments

def days (count : ℕ) : Event := .tick (count * 24 * 60 * 60 * 1000)

/-- With a term of one month a request is refused in the month of another one, and accepted in the
next month. -/
def monthlyRun : List Event :=
  [deliverStart 1, days 1, routineRequest 1, days 9, routineRequest 1, days 25, routineRequest 1]

theorem quota_kept_sample : QuotaKept (quotaResults monthlyRun) :=
  quota_kept monthlyRun (by decide +kernel)

/-- With a term of three months the request of the first month is the only one of the term. -/
def quarterRun : List Event :=
  [deliverStart 3, days 1, routineRequest 3, days 39, routineRequest 3]

/-- **A request is refused though none was accepted in the month before it.** -/
theorem quarter_exhausted : ¬ ∀ events : List Event, QuotaKept (quotaResults events) := by
  intro hkept
  have hday : quotaResults quarterRun = [none, none,
      some (.accepted "enrollment" 86400000 ⟨0, addBillingMonths 0 3, 1⟩)] ++ [none] ++
        [some (.exhausted "enrollment" 3456000000 1)] := by
    decide +kernel
  obtain ⟨start, -, hlt, hcount⟩ := (hkept quarterRun).exhausted _ _ _ _ _ hday
  -- a month that begins on the day of the first request is over after forty days
  have hmonth := (addBillingMonth_bounds start).2
  have hms : Js.msPerDay = 86400000 := rfl
  obtain ⟨outcome, houtcome, hsince⟩ := List.countP_pos_iff.1 hcount
  obtain ⟨now, period, rfl, hle⟩ := acceptedSince_iff.1 hsince
  have hnow : now = 86400000 := by
    simp only [List.cons_append, List.nil_append, List.mem_cons, List.not_mem_nil, reduceCtorEq,
      false_or, or_false, Option.some.injEq, Outcome.accepted.injEq] at houtcome
    exact houtcome.2.1
  omega

end AbrChin.Parchin
