import AbrChin.Auth.Guesses

/-!
# Login codes over whole runs

What the three parts need of a run.  `Timely` follows a challenge from its issue to the session that is
opened with it; `Spaced` follows the challenges of a mobile.  A challenge that has been issued is
settled, when it has been consumed or not been delivered, or it is open, or the cooldown after it is
over.  A request that has checked the cooldown knows this of all challenges of its mobile, and keeps
knowing it until it issues the next one, because it holds the lock (`Spaced.reserving`).

`login_codes_bounded` is the result for runs of prompt steps, and `six_guesses` a run in which six
codes are compared, because six verifications read the same counter.
-/

namespace AbrChin.Auth

open Lib

variable {hashWithSecret : String → String} {sys : LoginSystem} {results : List (Option Outcome)}

/-! ## Results -/

variable {outcome : Option Outcome}

theorem mem_results {seen : Outcome} :
    some seen ∈ results ++ [outcome] ↔ some seen ∈ results ∨ outcome = some seen := by
  rw [List.mem_append, List.mem_singleton]
  exact or_congr_right eq_comm

/-- The challenge is one that has been issued. -/
def Issued (results : List (Option Outcome)) (challenge : OtpChallenge) : Prop :=
  ∃ issued, some (.issued issued) ∈ results ∧ issued.id = challenge.id ∧
    issued.expiresAt = challenge.expiresAt

variable {challenge : OtpChallenge}

theorem Issued.append (h : Issued results challenge) (outcome : Option Outcome) :
    Issued (results ++ [outcome]) challenge := by
  obtain ⟨issued, hissued, hid, hexpires⟩ := h
  exact ⟨issued, mem_results.2 (.inl hissued), hid, hexpires⟩

/-- The challenge has been consumed, or its code has not been delivered. -/
def Settled (results : List (Option Outcome)) (id : ℕ) : Prop :=
  some (.consumed id) ∈ results ∨ some (.undelivered id) ∈ results

theorem Settled.append {id : ℕ} (h : Settled results id) (outcome : Option Outcome) :
    Settled (results ++ [outcome]) id :=
  h.imp (fun h => mem_results.2 (.inl h)) fun h => mem_results.2 (.inl h)

/-! ## Expiry -/

structure Timely (hashWithSecret : String → String) (results : List (Option Outcome))
    (sys : LoginSystem) : Prop where
  rows : ∀ row ∈ sys.challenges, Issued results row
  calls : ∀ call ∈ sys.calls, ∀ challenge, call.challenge? = some challenge →
    Issued results challenge
  granted : ∀ call ∈ sys.calls, ∀ challenge, call.granted hashWithSecret = some challenge →
    sys.clock < challenge.expiresAt
  opened : ∀ challenge now, some (.opened challenge now) ∈ results →
    Issued results challenge ∧ now < challenge.expiresAt

/-- A challenge that may be attempted has not expired. -/
theorem lt_expiresAt_of_canAttempt {now : ℤ} (h : canAttemptOtp challenge now = none) :
    now < challenge.expiresAt := by
  by_contra hexpired
  unfold canAttemptOtp isOtpExpired at h
  split at h
  · cases h
  · rw [if_pos (decide_eq_true (not_lt.1 hexpired))] at h
    cases h

variable {challenges : Table OtpChallenge.id} {call next : Call} {place : ℕ}

theorem timely_after (h : Timely hashWithSecret results sys)
    (hcall : sys.calls[place]? = some call)
    (hmove : Moves hashWithSecret sys call next challenges outcome) :
    Timely hashWithSecret (results ++ [outcome]) (sys.after place next challenges outcome) := by
  have hmem := List.mem_of_getElem? hcall
  -- what is left to show for each kind of step
  suffices hstep : (∀ row ∈ challenges, Issued (results ++ [outcome]) row) ∧
      (∀ challenge, next.challenge? = some challenge → Issued results challenge) ∧
      (∀ challenge, next.granted hashWithSecret = some challenge →
        sys.clock < challenge.expiresAt) ∧
      ∀ challenge now, outcome = some (.opened challenge now) →
        Issued results challenge ∧ now < challenge.expiresAt by
    obtain ⟨hrows, hchallenge, hgranted, hopened⟩ := hstep
    refine ⟨hrows, fun other hother challenge hread => ?_, fun other hother challenge hright => ?_,
      fun challenge now hseen => ?_⟩
    · rcases Calls.mem_of_mem_set hother with rfl | hother
      · exact (hchallenge challenge hread).append outcome
      · exact (h.calls other hother challenge hread).append outcome
    · rcases Calls.mem_of_mem_set hother with rfl | hother
      · exact hgranted challenge hright
      · exact h.granted other hother challenge hright
    · rcases mem_results.1 hseen with hold | hnew
      · obtain ⟨hissued, hlt⟩ := h.opened challenge now hold
        exact ⟨hissued.append outcome, hlt⟩
      · obtain ⟨hissued, hlt⟩ := hopened challenge now hnew
        exact ⟨hissued.append outcome, hlt⟩
  have hrows : ∀ outcome, ∀ row ∈ sys.challenges, Issued (results ++ [outcome]) row :=
    fun outcome row hrow => (h.rows row hrow).append outcome
  cases hmove with
  | stop _ _ _ => exact ⟨hrows none, by simp [Call.challenge?], by simp [Call.granted], by simp⟩
  | wait _ _ _ | lock _ _ _ _ | check _ _ _ _ | fail _ =>
      exact ⟨hrows _, by simp [Call.challenge?], by simp [Call.granted], by simp⟩
  | issue mobile codeHash expiresAt challenges hreserve =>
      refine ⟨fun row hrow => ?_, by simp [Call.challenge?], by simp [Call.granted], by simp⟩
      obtain ⟨inserted, hinsert, rfl⟩ := Option.map_eq_some_iff.1 hreserve
      rcases (Table.mem_insert? hinsert).1 (Table.mem_filter.1 hrow).1 with hold | rfl
      · exact hrows _ row hold
      · exact ⟨_, mem_results.2 (.inr rfl), rfl, rfl⟩
  | delete challengeId =>
      refine ⟨fun row hrow => hrows _ row (Table.mem_filter.1 hrow).1, by simp [Call.challenge?],
        by simp [Call.granted], by simp⟩
  | read mobile code challenge hlatest hattempt =>
      have hrow : challenge ∈ sys.challenges := (List.mem_filter.1 (mem_of_newest hlatest)).1
      refine ⟨hrows _, fun other hother => ?_, fun other hother => ?_, by simp⟩
      · obtain rfl := Option.some.inj hother
        exact h.rows challenge hrow
      · simp only [Call.granted] at hother
        split at hother
        · obtain rfl := Option.some.inj hother
          exact lt_expiresAt_of_canAttempt hattempt
        · cases hother
  | compare code challenge _ hnext =>
      have hissued := h.calls _ hmem challenge rfl
      rcases hnext with ⟨rfl, hmatches⟩ | rfl
      · refine ⟨hrows _, fun other hother => Option.some.inj hother ▸ hissued,
          fun other hother => ?_, by simp⟩
        obtain rfl := Option.some.inj hother
        exact h.granted _ hmem challenge (if_pos hmatches)
      · exact ⟨hrows _, fun other hother => Option.some.inj hother ▸ hissued,
          by simp [Call.granted], by simp⟩
  | count challenge =>
      refine ⟨fun row hrow => ?_, by simp [Call.challenge?], by simp [Call.granted], by simp⟩
      obtain ⟨old, hold, rfl⟩ := Table.mem_modify.1 hrow
      obtain ⟨issued, hissued, hid, hexpires⟩ := hrows none old hold
      refine ⟨issued, hissued, ?_, ?_⟩
      · rw [hid]
        split <;> rfl
      · rw [hexpires]
        split <;> rfl
  | consume challenge challenges hupdate =>
      obtain ⟨found, -, -, rfl⟩ := Table.updateIf?_eq_some.1 hupdate
      refine ⟨fun row hrow => ?_, fun other hother => ?_, fun other hother => ?_, by simp⟩
      · obtain ⟨old, hold, rfl⟩ := Table.mem_modify.1 hrow
        obtain ⟨issued, hissued, hid, hexpires⟩ := hrows (some (.consumed challenge.id)) old hold
        refine ⟨issued, hissued, ?_, ?_⟩
        · rw [hid]
          split <;> rfl
        · rw [hexpires]
          split <;> rfl
      · obtain rfl := Option.some.inj hother
        exact h.calls _ hmem challenge rfl
      · obtain rfl := Option.some.inj hother
        exact h.granted _ hmem challenge rfl
  | openSession challenge =>
      refine ⟨hrows _, by simp [Call.challenge?], by simp [Call.granted], fun other now hother => ?_⟩
      cases hother
      exact ⟨h.calls _ hmem challenge rfl, h.granted _ hmem challenge rfl⟩

/-! ## The cooldown -/

/-- The challenge is settled, or open, or its cooldown is over. -/
def Awaited (results : List (Option Outcome)) (sys : LoginSystem) (issued : OtpChallenge) : Prop :=
  Settled results issued.id ∨
    (∃ row ∈ sys.challenges, row.id = issued.id ∧ row.mobile = issued.mobile ∧
      row.createdAt = issued.createdAt ∧ row.consumedAt = none) ∨
    issued.createdAt + 60000 ≤ sys.clock

structure Spaced (results : List (Option Outcome)) (sys : LoginSystem) : Prop where
  awaited : ∀ issued, some (.issued issued) ∈ results → Awaited results sys issued
  /-- A request that has checked the cooldown may issue the next challenge. -/
  reserving : ∀ mobile codeHash expiresAt, .reserving mobile codeHash expiresAt ∈ sys.calls →
    ∀ issued, some (.issued issued) ∈ results → issued.mobile = mobile →
      Settled results issued.id ∨ issued.createdAt + 60000 ≤ sys.clock
  /-- One call at most has the lock of a mobile. -/
  sole : ∀ (first second : ℕ) (mobile : String),
    (sys.calls[first]?.bind Call.lock) = some mobile →
    (sys.calls[second]?.bind Call.lock) = some mobile → first = second
  undelivered : ∀ id, .undelivered id ∈ sys.calls → some (.undelivered id) ∈ results
  /-- Challenges of a mobile are issued at least the cooldown apart. -/
  apart : ∀ before issued after, results = before ++ some (.issued issued) :: after →
    ∀ earlier, some (.issued earlier) ∈ before → earlier.mobile = issued.mobile →
      Settled before earlier.id ∨ earlier.createdAt + 60000 ≤ issued.createdAt

/-- The latest of the rows is not older than any of them. -/
theorem exists_newest {rows : List OtpChallenge} {row : OtpChallenge} (h : row ∈ rows) :
    ∃ first, newest rows = some first ∧ row.createdAt ≤ first.createdAt := by
  unfold newest
  have hmem := (List.mem_insertionSort fun left right : OtpChallenge =>
    right.createdAt ≤ left.createdAt).2 h
  have hsorted := List.pairwise_insertionSort (fun left right : OtpChallenge =>
    right.createdAt ≤ left.createdAt) rows
  cases hrows : rows.insertionSort fun left right => right.createdAt ≤ left.createdAt with
  | nil =>
      rw [hrows] at hmem
      cases hmem
  | cons first rest =>
      rw [hrows] at hmem hsorted
      refine ⟨first, rfl, ?_⟩
      rcases List.mem_cons.1 hmem with rfl | hmem
      · exact le_refl _
      · exact (List.pairwise_cons.1 hsorted).1 row hmem

/-- The lock of a mobile goes from one stage of its holder to the next. -/
theorem sole_set (hsole : ∀ (first second : ℕ) (mobile : String),
      (sys.calls[first]?.bind Call.lock) = some mobile →
      (sys.calls[second]?.bind Call.lock) = some mobile → first = second)
    (hcall : sys.calls[place]? = some call)
    (hnext : ∀ mobile, next.lock = some mobile → call.lock = some mobile ∨
      ∀ other ∈ sys.calls, other.lock ≠ some mobile) (first second : ℕ) (mobile : String)
    (hfirst : ((sys.calls.set place next)[first]?.bind Call.lock) = some mobile)
    (hsecond : ((sys.calls.set place next)[second]?.bind Call.lock) = some mobile) :
    first = second := by
  obtain ⟨hlt, -⟩ := List.getElem?_eq_some_iff.1 hcall
  have hplace : ∀ other, ((sys.calls.set place next)[other]?.bind Call.lock) = some mobile →
      other = place ∧ next.lock = some mobile ∨
        other ≠ place ∧ (sys.calls[other]?.bind Call.lock) = some mobile := by
    intro other hother
    by_cases hsame : other = place
    · subst hsame
      rw [List.getElem?_set_self hlt] at hother
      exact .inl ⟨rfl, hother⟩
    · rw [List.getElem?_set_ne (Ne.symm hsame)] at hother
      exact .inr ⟨hsame, hother⟩
  -- nobody else has the lock of the next stage
  have hothers : next.lock = some mobile → ∀ other ≠ place,
      (sys.calls[other]?.bind Call.lock) ≠ some mobile := by
    intro hlock other hother hheld
    rcases hnext mobile hlock with hbefore | hfree
    · exact hother (hsole other place mobile hheld (by rw [hcall]; exact hbefore))
    · obtain ⟨holder, hholder, hheld⟩ := Option.bind_eq_some_iff.1 hheld
      exact hfree holder (List.mem_of_getElem? hholder) hheld
  rcases hplace first hfirst with ⟨rfl, hlock⟩ | ⟨hne, hheld⟩
  · rcases hplace second hsecond with ⟨rfl, -⟩ | ⟨hne, hheld⟩
    · rfl
    · exact absurd hheld (hothers hlock second hne)
  · rcases hplace second hsecond with ⟨rfl, hlock⟩ | ⟨-, hheld'⟩
    · exact absurd hheld (hothers hlock first hne)
    · exact hsole first second mobile hheld hheld'

/-- A step that issues nothing keeps the challenges apart, when every open row stays or is settled. -/
theorem spaced_of_unissued (h : Spaced results sys) (hcall : sys.calls[place]? = some call)
    (hunissued : ∀ issued, outcome ≠ some (.issued issued))
    (hrows : ∀ row ∈ sys.challenges, row.consumedAt = none →
      Settled (results ++ [outcome]) row.id ∨ ∃ later ∈ challenges, later.id = row.id ∧
        later.mobile = row.mobile ∧ later.createdAt = row.createdAt ∧ later.consumedAt = none)
    (hlock : ∀ mobile, next.lock = some mobile → call.lock = some mobile ∨
      ∀ other ∈ sys.calls, other.lock ≠ some mobile)
    (hreserving : ∀ mobile codeHash expiresAt, next = .reserving mobile codeHash expiresAt →
      ∀ issued, some (.issued issued) ∈ results → issued.mobile = mobile →
        Settled results issued.id ∨ issued.createdAt + 60000 ≤ sys.clock)
    (hundelivered : ∀ id, next = .undelivered id → outcome = some (.undelivered id)) :
    Spaced (results ++ [outcome]) (sys.after place next challenges outcome) where
  awaited issued hissued := by
    rcases mem_results.1 hissued with hold | hnew
    · rcases h.awaited issued hold with hsettled | ⟨row, hrow, hid, hmobile, hcreated, hopen⟩ | hover
      · exact .inl (hsettled.append outcome)
      · rcases hrows row hrow hopen with hsettled | ⟨later, hlater, hid', hmobile', hcreated', hopen'⟩
        · exact .inl (hid ▸ hsettled)
        · exact .inr (.inl ⟨later, hlater, hid'.trans hid, hmobile'.trans hmobile,
            hcreated'.trans hcreated, hopen'⟩)
      · exact .inr (.inr hover)
    · exact absurd hnew (hunissued issued)
  reserving mobile codeHash expiresAt hcalls issued hissued hmobile := by
    have hold : some (.issued issued) ∈ results := by
      rcases mem_results.1 hissued with hold | hnew
      · exact hold
      · exact absurd hnew (hunissued issued)
    have hknown : Settled results issued.id ∨ issued.createdAt + 60000 ≤ sys.clock := by
      rcases Calls.mem_of_mem_set hcalls with hnext | hother
      · exact hreserving mobile codeHash expiresAt hnext.symm issued hold hmobile
      · exact h.reserving mobile codeHash expiresAt hother issued hold hmobile
    exact hknown.imp_left fun hsettled => hsettled.append outcome
  sole := sole_set h.sole hcall hlock
  undelivered id hid := by
    rcases Calls.mem_of_mem_set hid with hnext | hother
    · exact mem_results.2 (.inr (hundelivered id hnext.symm))
    · exact mem_results.2 (.inl (h.undelivered id hother))
  apart before issued after hsplit earlier hearlier hmobile := by
    rcases split_append hsplit with ⟨-, hnew⟩ | ⟨rest, hresults⟩
    · exact absurd hnew (hunissued issued)
    · exact h.apart before issued rest hresults earlier hearlier hmobile

theorem spaced_after (h : Spaced results sys) (hcall : sys.calls[place]? = some call)
    (hmove : Moves hashWithSecret sys call next challenges outcome) :
    Spaced (results ++ [outcome]) (sys.after place next challenges outcome) := by
  have hmem := List.mem_of_getElem? hcall
  have hstay : ∀ outcome, ∀ row ∈ sys.challenges, row.consumedAt = none →
      Settled (results ++ [outcome]) row.id ∨ ∃ later ∈ sys.challenges, later.id = row.id ∧
        later.mobile = row.mobile ∧ later.createdAt = row.createdAt ∧ later.consumedAt = none :=
    fun _ row hrow hopen => .inr ⟨row, hrow, rfl, rfl, rfl, hopen⟩
  cases hmove with
  | stop _ _ _ | wait _ _ _ | read _ _ _ _ _ | openSession _ =>
      exact spaced_of_unissued h hcall (by simp) (hstay _) (by simp [Call.lock]) (by simp) (by simp)
  | compare code challenge _ hnext =>
      rcases hnext with ⟨rfl, -⟩ | rfl
      · exact spaced_of_unissued h hcall (by simp) (hstay _) (by simp [Call.lock]) (by simp) (by simp)
      · exact spaced_of_unissued h hcall (by simp) (hstay _) (by simp [Call.lock]) (by simp) (by simp)
  | lock mobile codeHash expiresAt hfree =>
      refine spaced_of_unissued h hcall (by simp) (hstay _) (fun other hother => .inr ?_) (by simp)
        (by simp)
      obtain rfl := Option.some.inj hother
      exact hfree
  | fail challengeId =>
      exact spaced_of_unissued h hcall (by simp) (hstay _) (by simp [Call.lock]) (by simp) (by simp)
  | check mobile codeHash expiresAt hrecent =>
      refine spaced_of_unissued h hcall (by simp) (hstay _) (fun other hother => .inl hother) ?_
        (by simp)
      intro other _ _ hnext issued hissued hmobile
      obtain ⟨rfl, -, -⟩ : mobile = other ∧ _ ∧ _ := by simpa using hnext
      rcases h.awaited issued hissued with hsettled | ⟨row, hrow, -, hof, hcreated, hopen⟩ | hover
      · exact .inl hsettled
      · have hfilter : row ∈ sys.challenges.rows.filter (isOpenFor mobile) := by
          refine List.mem_filter.2 ⟨hrow, ?_⟩
          simp [isOpenFor, hof, hmobile, hopen]
        obtain ⟨first, hfirst, hle⟩ := exists_newest hfilter
        have hover := hrecent first hfirst
        exact .inr (by omega)
      · exact .inr hover
  | delete challengeId =>
      refine spaced_of_unissued h hcall (by simp) (fun row hrow hopen => ?_) (by simp [Call.lock])
        (by simp) (by simp)
      by_cases hid : row.id = challengeId
      · exact .inl (.inr (mem_results.2 (.inl (hid ▸ h.undelivered challengeId hmem))))
      · exact .inr ⟨row, Table.mem_filter.2 ⟨hrow, by simpa using hid⟩, rfl, rfl, rfl, hopen⟩
  | count challenge =>
      refine spaced_of_unissued h hcall (by simp) (fun row hrow hopen => .inr ?_) (by simp [Call.lock])
        (by simp) (by simp)
      refine ⟨_, Table.mem_modify.2 ⟨row, hrow, rfl⟩, ?_⟩
      split
      · exact ⟨rfl, rfl, rfl, hopen⟩
      · exact ⟨rfl, rfl, rfl, hopen⟩
  | consume challenge challenges hupdate =>
      obtain ⟨found, -, -, rfl⟩ := Table.updateIf?_eq_some.1 hupdate
      refine spaced_of_unissued h hcall (by simp) (fun row hrow hopen => ?_) (by simp [Call.lock])
        (by simp) (by simp)
      by_cases hid : row.id = challenge.id
      · exact .inl (.inl (mem_results.2 (.inr (by rw [hid]))))
      · exact .inr ⟨row, Table.mem_modify_of_ne _ hrow hid, rfl, rfl, rfl, hopen⟩
  | issue mobile codeHash expiresAt challenges hreserve =>
      have hknown := h.reserving mobile codeHash expiresAt hmem
      obtain ⟨inserted, hinsert, rfl⟩ := Option.map_eq_some_iff.1 hreserve
      refine ⟨fun issued hissued => ?_, fun other otherHash otherExpires hother issued hissued hof => ?_,
        sole_set h.sole hcall (by simp [Call.lock]), fun id hid => ?_,
        fun before issued after hsplit earlier hearlier hof => ?_⟩
      · rcases mem_results.1 hissued with hold | hnew
        · by_cases hof : issued.mobile = mobile
          · rcases hknown issued hold hof with hsettled | hover
            · exact .inl (hsettled.append _)
            · exact .inr (.inr hover)
          · rcases h.awaited issued hold with hsettled | ⟨row, hrow, hid, hmobile, hrest⟩ | hover
            · exact .inl (hsettled.append _)
            · refine .inr (.inl ⟨row, Table.mem_filter.2 ⟨?_, ?_⟩, hid, hmobile, hrest⟩)
              · exact (Table.mem_insert? hinsert).2 (.inl hrow)
              · have hne : row.mobile ≠ mobile := hmobile ▸ hof
                simp [isOpenFor, LoginSystem.newChallenge, hne]
            · exact .inr (.inr hover)
        · cases hnew
          refine .inr (.inl ⟨_, Table.mem_filter.2 ⟨(Table.mem_insert? hinsert).2 (.inr rfl), ?_⟩, rfl,
            rfl, rfl, rfl⟩)
          simp
      · -- another call that may issue a challenge is for another mobile
        obtain ⟨otherPlace, hget⟩ := List.mem_iff_getElem?.1 hother
        obtain ⟨hlt, -⟩ := List.getElem?_eq_some_iff.1 hcall
        have hne : otherPlace ≠ place := by
          rintro rfl
          rw [LoginSystem.after, List.getElem?_set_self hlt] at hget
          cases hget
        rw [LoginSystem.after, List.getElem?_set_ne (Ne.symm hne)] at hget
        have hmobile : other ≠ mobile := by
          rintro rfl
          exact hne (h.sole otherPlace place other (by rw [hget]; rfl) (by rw [hcall]; rfl))
        rcases mem_results.1 hissued with hold | hnew
        · exact (h.reserving other otherHash otherExpires (List.mem_of_getElem? hget) issued hold
            hof).imp_left fun hsettled => hsettled.append _
        · cases hnew
          exact absurd hof (Ne.symm hmobile)
      · rcases Calls.mem_of_mem_set hid with hnext | hother
        · cases hnext
        · exact mem_results.2 (.inl (h.undelivered id hother))
      · rcases split_append hsplit with ⟨rfl, hnew⟩ | ⟨rest, hresults⟩
        · cases hnew
          exact hknown earlier hearlier hof
        · exact h.apart before issued rest hresults earlier hearlier hof

/-! ## Runs -/

/-- What holds of the results and the state, after any run of prompt steps. -/
structure LoginInv (hashWithSecret : String → String) (results : List (Option Outcome))
    (sys : LoginSystem) : Prop where
  bounded : Bounded (tally results sys.calls) sys.challenges sys.nextId
  timely : Timely hashWithSecret results sys
  spaced : Spaced results sys

theorem LoginInv.start : LoginInv hashWithSecret [] .start where
  bounded :=
    { below := (fun row hrow => by cases hrow)
      fresh := fun id _ => rfl
      compared := fun id => Nat.zero_le 5
      written := (fun row hrow => by cases hrow)
      unopened := (fun row hrow => by cases hrow)
      opened := fun id => Nat.zero_le 1 }
  timely :=
    { rows := (fun row hrow => by cases hrow)
      calls := (fun call hcall => by cases hcall)
      granted := (fun call hcall => by cases hcall)
      opened := (fun challenge now hseen => by cases hseen) }
  spaced :=
    { awaited := (fun issued hissued => by cases hissued)
      reserving := (fun _ _ _ hcall => by cases hcall)
      sole := (fun first _ _ hfirst => by cases hfirst)
      undelivered := (fun id hid => by cases hid)
      apart := (fun before issued after hsplit => by simp at hsplit) }

/-- A quiet step adds nothing to what is counted. -/
theorem tally_none (calls : List Call) : tally (results ++ [none]) calls = tally results calls := by
  funext id
  refine Tally.ext ?_ rfl rfl ?_ rfl
  · exact Calls.countP_begin _
  · exact Calls.countP_begin _

theorem mem_quiet {seen : Outcome} : some seen ∈ results ++ [none] ↔ some seen ∈ results := by
  simp

theorem Spaced.quiet (h : Spaced results sys) {next : LoginSystem}
    (hchallenges : next.challenges = sys.challenges) (hclock : sys.clock ≤ next.clock)
    (hsole : ∀ (first second : ℕ) (mobile : String),
      (next.calls[first]?.bind Call.lock) = some mobile →
      (next.calls[second]?.bind Call.lock) = some mobile → first = second)
    (hcalls : ∀ call ∈ next.calls, call ∈ sys.calls ∨ call.lock = none ∧
      ∀ id, call ≠ .undelivered id) : Spaced (results ++ [none]) next where
  awaited issued hissued := by
    rcases h.awaited issued (mem_quiet.1 hissued) with hsettled | hopen | hover
    · exact .inl (hsettled.append none)
    · rw [← hchallenges] at hopen
      exact .inr (.inl hopen)
    · exact .inr (.inr (hover.trans hclock))
  reserving mobile codeHash expiresAt hcall issued hissued hmobile := by
    rcases hcalls _ hcall with hold | ⟨hnone, -⟩
    · exact (h.reserving mobile codeHash expiresAt hold issued (mem_quiet.1 hissued) hmobile).imp
        (fun hsettled => hsettled.append none) fun hover => hover.trans hclock
    · cases hnone
  sole := hsole
  undelivered id hid := by
    rcases hcalls _ hid with hold | ⟨-, hne⟩
    · exact mem_quiet.2 (h.undelivered id hold)
    · exact absurd rfl (hne id)
  apart before issued after hsplit earlier hearlier hmobile := by
    rcases split_append hsplit with ⟨-, hnew⟩ | ⟨rest, hresults⟩
    · cases hnew
    · exact h.apart before issued rest hresults earlier hearlier hmobile

/-- A call that begins holds no lock and has read no challenge. -/
theorem begin_fresh (hashWithSecret : String → String)
    (hcall : (∃ mobile codeHash expiresAt, call = .requesting mobile codeHash expiresAt) ∨
      ∃ mobile code, call = .verifying mobile code) :
    call.challenge? = none ∧ call.granted hashWithSecret = none ∧ call.lock = none ∧
      (∀ id, call ≠ .undelivered id) ∧
      ∀ id, call.isComparing id = false ∧ call.isUnwritten id = false ∧ call.isOpening id = false := by
  rcases hcall with ⟨mobile, codeHash, expiresAt, rfl⟩ | ⟨mobile, code, rfl⟩
  · exact ⟨rfl, rfl, rfl, (fun id h => by cases h), fun id => ⟨rfl, rfl, rfl⟩⟩
  · exact ⟨rfl, rfl, rfl, (fun id h => by cases h), fun id => ⟨rfl, rfl, rfl⟩⟩

theorem tally_begin (hcall : ∀ id, call.isComparing id = false ∧
    call.isUnwritten id = false ∧ call.isOpening id = false) :
    tally (results ++ [none]) (sys.calls ++ [call]) = tally results sys.calls := by
  rw [tally_none]
  funext id
  obtain ⟨hcomparing, hunwritten, hopening⟩ := hcall id
  refine Tally.ext rfl ?_ ?_ rfl ?_
  · exact (Calls.countP_begin _).trans (by rw [hcomparing]; rfl)
  · exact (Calls.countP_begin _).trans (by rw [hunwritten]; rfl)
  · exact (Calls.countP_begin _).trans (by rw [hopening]; rfl)

theorem loginInv_begin (h : LoginInv hashWithSecret results sys)
    (hcall : (∃ mobile codeHash expiresAt, call = .requesting mobile codeHash expiresAt) ∨
      ∃ mobile code, call = .verifying mobile code) :
    LoginInv hashWithSecret (results ++ [none]) (sys.begin call) := by
  obtain ⟨hchallenge, hgranted, hlock, hundelivered, hcount⟩ := begin_fresh hashWithSecret hcall
  have hcalls : ∀ other ∈ sys.calls ++ [call], other ∈ sys.calls ∨ other = call := fun other hother =>
    (List.mem_append.1 hother).imp_right List.mem_singleton.1
  refine ⟨?_, ⟨fun row hrow => (h.timely.rows row hrow).append none, fun other hother => ?_,
    fun other hother => ?_, fun challenge now hseen => ?_⟩,
    h.spaced.quiet rfl (le_refl _) (fun first second mobile hfirst hsecond => ?_)
      fun other hother => ?_⟩
  · have hbounded := h.bounded
    rw [← tally_begin hcount] at hbounded
    exact hbounded
  · intro challenge hread
    rcases hcalls other hother with hold | rfl
    · exact (h.timely.calls other hold challenge hread).append none
    · rw [hchallenge] at hread
      cases hread
  · intro challenge hright
    rcases hcalls other hother with hold | rfl
    · exact h.timely.granted other hold challenge hright
    · rw [hgranted] at hright
      cases hright
  · obtain ⟨hissued, hlt⟩ := h.timely.opened challenge now (mem_quiet.1 hseen)
    exact ⟨hissued.append none, hlt⟩
  · -- the new call holds no lock, so that a holder stands among the others
    have hold : ∀ place : ℕ, ((sys.calls ++ [call])[place]?.bind Call.lock) = some mobile →
        (sys.calls[place]?.bind Call.lock) = some mobile := by
      intro place hplace
      obtain ⟨holder, hholder, hheld⟩ := Option.bind_eq_some_iff.1 hplace
      rcases Nat.lt_or_ge place sys.calls.length with hlt | hge
      · rw [List.getElem?_append_left hlt] at hholder
        rw [hholder]
        exact hheld
      · rw [List.getElem?_append_right hge] at hholder
        obtain rfl := List.mem_singleton.1 (List.mem_of_getElem? hholder)
        rw [hlock] at hheld
        cases hheld
    exact h.spaced.sole first second mobile (hold first hfirst) (hold second hsecond)
  · rcases hcalls other hother with hold | rfl
    · exact .inl hold
    · exact .inr ⟨hlock, hundelivered⟩

/-- **A prompt step of a run keeps what holds.** -/
theorem loginInv_step (otpTtlSeconds : ℤ) (event : Event)
    (hprompt : Prompt hashWithSecret sys event) (h : LoginInv hashWithSecret results sys) :
    LoginInv hashWithSecret (results ++ [(stepLogin hashWithSecret otpTtlSeconds sys event).2])
      (stepLogin hashWithSecret otpTtlSeconds sys event).1 := by
  refine stepLogin_cases otpTtlSeconds event
    (p := fun next outcome => LoginInv hashWithSecret (results ++ [outcome]) next) ?_
    (fun call hcall => loginInv_begin h hcall)
    (fun place input hevent call next challenges outcome hcall hmove => ?_) fun ms hevent => ?_
  · refine ⟨?_, ⟨fun row hrow => (h.timely.rows row hrow).append none,
      fun call hcall challenge hread => (h.timely.calls call hcall challenge hread).append none,
      h.timely.granted, fun challenge now hseen => ?_⟩,
      h.spaced.quiet rfl (le_refl _) h.spaced.sole fun call hcall => .inl hcall⟩
    · rw [tally_none]
      exact h.bounded
    · obtain ⟨hissued, hlt⟩ := h.timely.opened challenge now (mem_quiet.1 hseen)
      exact ⟨hissued.append none, hlt⟩
  · subst hevent
    refine ⟨bounded_after h.bounded hcall (fun mobile code challenge hread => ?_) hmove,
      timely_after h.timely hcall hmove, spaced_after h.spaced hcall hmove⟩
    exact hprompt _ (hread ▸ hcall) mobile rfl challenge
  · subst hevent
    have hclock : sys.clock ≤ sys.clock + ms := Int.le_add_of_nonneg_right (Int.natCast_nonneg ms)
    refine ⟨?_, ⟨fun row hrow => (h.timely.rows row hrow).append none,
      fun call hcall challenge hread => (h.timely.calls call hcall challenge hread).append none,
      fun call hcall challenge hright => hprompt call hcall challenge hright,
      fun challenge now hseen => ?_⟩,
      h.spaced.quiet rfl hclock h.spaced.sole fun call hcall => .inl hcall⟩
    · rw [tally_none]
      exact h.bounded
    · obtain ⟨hissued, hlt⟩ := h.timely.opened challenge now (mem_quiet.1 hseen)
      exact ⟨hissued.append none, hlt⟩

/-- The results of a run from the start. -/
def loginResults (hashWithSecret : String → String) (otpTtlSeconds : ℤ) (events : List Event) :
    List (Option Outcome) :=
  (trace (stepLogin hashWithSecret otpTtlSeconds) .start events).map Entry.result

/-- What bounds the guessing of login codes. -/
structure CodesBounded (results : List (Option Outcome)) : Prop where
  /-- At most `OTP_MAX_ATTEMPTS` codes are compared with the hash of a challenge. -/
  compared : ∀ id, results.countP (compares id) ≤ otpMaxAttempts
  /-- A challenge opens at most one session. -/
  opened : ∀ id, results.countP (opens id) ≤ 1
  /-- A session is opened with a challenge that has been issued and has not expired. -/
  inTime : ∀ challenge now, some (.opened challenge now) ∈ results →
    Issued results challenge ∧ isOtpExpired challenge now = false
  /-- A challenge is issued the cooldown after those of its mobile that are not settled. -/
  apart : ∀ before issued after, results = before ++ some (.issued issued) :: after →
    ∀ earlier, some (.issued earlier) ∈ before → earlier.mobile = issued.mobile →
      Settled before earlier.id ∨
        earlier.createdAt + otpResendCooldownSeconds * 1000 ≤ issued.createdAt

/-- **The guessing of login codes is bounded** in every run of prompt steps. -/
theorem login_codes_bounded (hashWithSecret : String → String) (otpTtlSeconds : ℤ)
    (events : List Event)
    (hprompt : Meets (stepLogin hashWithSecret otpTtlSeconds) (Prompt hashWithSecret) .start events) :
    CodesBounded (loginResults hashWithSecret otpTtlSeconds events) := by
  have hinv := results_of_meets (p := LoginInv hashWithSecret)
    (fun results sys event hevent h => loginInv_step otpTtlSeconds event hevent h) .start hprompt
  rw [List.nil_append] at hinv
  refine ⟨fun id => ?_, fun id => ?_, fun challenge now hseen => ?_, hinv.spaced.apart⟩
  · exact (Nat.le_add_right _ _).trans (hinv.bounded.compared id)
  · exact (Nat.le_add_right _ _).trans (hinv.bounded.opened id)
  · obtain ⟨hissued, hlt⟩ := hinv.timely.opened challenge now hseen
    exact ⟨hissued, decide_eq_false (not_le.2 hlt)⟩

/-! ### Two runs -/

/-- A code is requested and delivered. -/
def requesting (code : String) : List Event :=
  [.requestLoginOtp "09120000000" code false, .step 0 {}, .step 0 {}, .step 0 {}, .step 0 {}]

/-- A wrong code is rejected before the right one is given. -/
def loginRun : List Event :=
  requesting "123456" ++
    [.verifyLoginOtp "09120000000" "000000", .step 1 {}, .step 1 {}, .step 1 {}, .tick 1000,
      .verifyLoginOtp "09120000000" "123456", .step 2 {}, .step 2 {}, .step 2 {}, .step 2 {}]

theorem prompt_loginRun : Meets (stepLogin id 120) (Prompt id) .start loginRun := by
  decide +kernel

theorem login_codes_bounded_sample : CodesBounded (loginResults id 120 loginRun) :=
  login_codes_bounded id 120 loginRun prompt_loginRun

/-- Six verifications read the challenge before any of them has counted its attempt. -/
def guessingRun : List Event :=
  requesting "123456" ++ List.replicate 6 (.verifyLoginOtp "09120000000" "000000") ++
    [.step 1 {}, .step 2 {}, .step 3 {}, .step 4 {}, .step 5 {}, .step 6 {},
      .step 1 {}, .step 2 {}, .step 3 {}, .step 4 {}, .step 5 {}, .step 6 {}]

/-- **Six codes are compared with the hash of one challenge.** -/
theorem six_guesses : ¬ ∀ (hashWithSecret : String → String) (otpTtlSeconds : ℤ) (events : List Event),
    CodesBounded (loginResults hashWithSecret otpTtlSeconds events) := by
  intro hbounded
  have hcompared : (loginResults id 120 guessingRun).countP (compares 0) = 6 := by decide +kernel
  have hle := (hbounded id 120 guessingRun).compared 0
  rw [hcompared] at hle
  exact absurd hle (by decide)

end AbrChin.Auth
