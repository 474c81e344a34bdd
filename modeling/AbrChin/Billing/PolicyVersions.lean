import AbrChin.Billing.PlanPolicy
import AbrChin.Orders.RefundReplay

/-!
# The versions of a plan's policy

The versions that the requests of the admins create never overlap: each one starts where the one
before it ends, and the last one has no end.  A start may be ahead, or a few seconds ago, and the
clocks of two requests need not agree, so that a start can also lie before the one of the last
version.  Two things keep the order.

* *The unique index.*  Only one row of a key has no end, and the next version has none.  So the row
  that is ended, which the code looks for by the new start, has to be the last one: when the start
  lies in another row, the new row is refused.
* *The row of the migration.*  A plan with active services has a first row with a key of its own,
  which the index does not reach.  It starts with the global policy, so that a start before it
  finds no policy at all.
-/

namespace AbrChin.Billing

open Lib Js

abbrev PolicyRow.start (row : PolicyRow) : ℤ := row.effectiveFrom

abbrev PolicyRow.stop (row : PolicyRow) : Option ℤ := row.effectiveTo

/-- The versions of a plan, or the global ones, in the order of their creation. -/
def versionsOf (rows : List PolicyRow) (planId : Option String) : List PolicyRow :=
  rows.filter fun row => row.planId = planId

/-! ## Rows that are found -/

section

variable {ρ : Type} {before : ρ → ρ → Bool} {rows : List ρ} {first row : ρ}

theorem firstBy_cons (rest : List ρ) : firstBy before (row :: rest) =
    match firstBy before rest with
    | none => some row
    | some first => if before first row then some first else some row := rfl

theorem mem_of_firstBy (h : firstBy before rows = some first) : first ∈ rows := by
  induction rows with
  | nil => cases h
  | cons row rest ih =>
      rw [firstBy_cons] at h
      cases hrest : firstBy before rest with
      | none =>
          rw [hrest] at h
          exact Option.some.inj h ▸ List.mem_cons_self
      | some best =>
          simp only [hrest] at h
          by_cases hbefore : before best row = true
          · rw [if_pos hbefore] at h
            exact List.mem_cons_of_mem _ (ih (hrest.trans h))
          · rw [if_neg hbefore] at h
            exact Option.some.inj h ▸ List.mem_cons_self

theorem eq_nil_of_firstBy (h : firstBy before rows = none) : rows = [] := by
  cases rows with
  | nil => rfl
  | cons head rest =>
      rw [firstBy_cons] at h
      cases hrest : firstBy before rest with
      | none => simp [hrest] at h
      | some best => by_cases hbefore : before best head = true <;> simp [hrest, hbefore] at h

/-- The first one in a falling order of numbers has the largest number. -/
theorem le_of_firstBy {number : ρ → ℤ}
    (h : firstBy (fun row other => number other < number row) rows = some first)
    (hrow : row ∈ rows) : number row ≤ number first := by
  induction rows generalizing first with
  | nil => cases hrow
  | cons head rest ih =>
      rw [firstBy_cons] at h
      cases hrest : firstBy (fun row other => decide (number other < number row)) rest with
      | none =>
          rw [hrest] at h
          rw [eq_nil_of_firstBy hrest, List.mem_singleton] at hrow
          rw [hrow, Option.some.inj h]
      | some best =>
          simp only [hrest, decide_eq_true_eq] at h
          have hle : number head ≤ number first ∧ number best ≤ number first := by
            by_cases hlt : number head < number best
            · rw [if_pos hlt] at h
              obtain rfl := Option.some.inj h
              exact ⟨hlt.le, le_rfl⟩
            · rw [if_neg hlt] at h
              obtain rfl := Option.some.inj h
              exact ⟨le_rfl, not_lt.1 hlt⟩
          rcases List.mem_cons.1 hrow with rfl | hrow
          · exact hle.1
          · exact (ih hrest hrow).trans hle.2

end

/-! ## One transaction -/

/-- The row, ended when it is the one that a new version ends. -/
def endedBy (ended : Option PolicyRow) (instant : ℤ) (row : PolicyRow) : PolicyRow :=
  if ended.any (·.id = row.id) = true then row.endAt instant else row

/-- What a transaction that creates a version has found and written. -/
structure Adds (input : CreatePolicy) (db db' : PolicyDb) (created : PolicyRow) : Prop where
  previous : ∃ previous, previousPolicy db.policies.rows input.planId created.start =
    some previous ∧
    created = input.row previous (latestVersion db.policies.rows (planPolicyKey input.planId))
  /-- A row has to start before it ends. -/
  later : ∀ row ∈ previousPlanPolicy db.policies.rows input.planId created.start,
    row.start < created.start
  rows : db'.policies.rows = db.policies.rows.map
    (endedBy (previousPlanPolicy db.policies.rows input.planId created.start) created.start) ++
    [created]

theorem commits_endPolicy {instant : ℤ} {ended : Option PolicyRow} {db db' : PolicyDb} {u : Unit}
    (hended : ∀ row ∈ ended, row ∈ db.policies.rows)
    (h : Tx.Commits (endPolicy instant ended) db u db') :
    (∀ row ∈ ended, row.start < instant) ∧
      db'.policies.rows = db.policies.rows.map (endedBy ended instant) := by
  cases ended with
  | none =>
      obtain ⟨-, rfl⟩ := Tx.commits_pure.1 h
      have hsame : endedBy none instant = id := by
        funext row
        simp [endedBy]
      rw [hsame, List.map_id]
      exact ⟨by simp, rfl⟩
  | some row =>
      simp only [endPolicy, Tx.commits_attempt, Option.map_eq_some_iff] at h
      obtain ⟨policies, hupdate, rfl⟩ := h
      obtain ⟨found, hfind, haccepted, hmodify⟩ := IndexedTable.updateIf?_eq_some.1 hupdate
      have hfound : found = row := by
        have hrow := IndexedTable.find?_eq_some.2 ⟨hended row rfl, rfl⟩
        rw [hfind] at hrow
        exact Option.some.inj hrow
      subst hfound
      constructor
      · intro row hrow
        obtain rfl := Option.some.inj hrow
        simp only [PolicyRow.accepted, PolicyRow.endAt, Bool.and_eq_true, Option.all_some]
          at haccepted
        exact of_decide_eq_true haccepted.2
      · show policies.rows = _
        rw [IndexedTable.rows_of_modify? hmodify]
        refine List.map_congr_left fun other _ => ?_
        by_cases hother : other.id = found.id
        · rw [if_pos hother, endedBy, if_pos (by simp [hother])]
        · rw [if_neg hother, endedBy, if_neg (by simp [Ne.symm hother])]

theorem commits_insertPolicy {row : PolicyRow} {db db' : PolicyDb} {u : Unit}
    (h : Tx.Commits (insertPolicy row) db u db') :
    db'.policies.rows = db.policies.rows ++ [row] := by
  simp only [insertPolicy, Tx.commits_bind, Tx.commits_throwIf, Tx.commits_attempt] at h
  obtain ⟨_, _, ⟨-, rfl⟩, h⟩ := h
  obtain ⟨policies, hinsert, rfl⟩ := Option.map_eq_some_iff.1 h
  exact IndexedTable.rows_of_insert? hinsert

theorem mem_of_previousPlanPolicy {rows : List PolicyRow} {planId : String} {instant : ℤ}
    {row : PolicyRow} (h : row ∈ previousPlanPolicy rows planId instant) :
    row ∈ rows ∧ row.InForce instant ∧ row.planId = some planId := by
  have hmem := mem_of_firstBy (Option.mem_def.1 h)
  simpa only [List.mem_filter, decide_eq_true_eq] using hmem

theorem adds_of_commits {input : CreatePolicy} {db db' : PolicyDb} {created : PolicyRow}
    (h : Tx.Commits (addPolicyVersion input db) db created db') : Adds input db db' created := by
  simp only [addPolicyVersion, Tx.commits_bind, Tx.commits_throwIf, Tx.commits_orThrow,
    Tx.commits_modify, Tx.commits_pure] at h
  obtain ⟨_, _, ⟨-, rfl⟩, previous, _, ⟨hprevious, rfl⟩, _, ended, hend, _, inserted, hinsert,
    _, _, rfl, rfl, rfl⟩ := h
  obtain ⟨hlater, hrows⟩ := commits_endPolicy (fun row hrow => (mem_of_previousPlanPolicy hrow).1)
    hend
  refine ⟨⟨previous, hprevious, rfl⟩, hlater, ?_⟩
  show inserted.policies.rows = _
  rw [commits_insertPolicy hinsert, hrows]
  rfl

theorem commits_onReceipts {α : Type} {body : Tx Orders.ServiceDb String α} {db db' : PolicyDb}
    {a : α} (h : Tx.Commits (onReceipts body) db a db') :
    ∃ service, Tx.Commits body db.service a service ∧ db' = { db with service } := by
  simp only [onReceipts, Tx.commits_zoom] at h
  obtain ⟨service, hbody, rfl⟩ := h
  exact ⟨service, hbody, rfl⟩

/-- A command that is replayed writes nothing. -/
theorem policies_of_create {input : CreatePolicy} {db db' : PolicyDb} {result : Option PolicyRow}
    (h : Tx.Commits (createPlanBillingPolicyVersion input) db result db') :
    db'.policies = db.policies ∨ ∃ created, Adds input db db' created := by
  simp only [createPlanBillingPolicyVersion, Tx.commits_bind, Tx.commits_ofExcept, Tx.commits_get,
    Tx.commits_throwIf] at h
  obtain ⟨command, _, ⟨-, rfl⟩, _, _, ⟨rfl, rfl⟩, _, _, ⟨-, rfl⟩, replay, replayed, hreplay, h⟩ := h
  obtain ⟨service, hservice, rfl⟩ := commits_onReceipts hreplay
  obtain rfl := (Orders.commits_replayAdminCommand.1 hservice).1
  by_cases hanswered : replay = true
  · rw [if_pos hanswered] at h
    obtain ⟨-, rfl⟩ := Tx.commits_pure.1 h
    exact .inl rfl
  · rw [if_neg hanswered] at h
    simp only [Tx.commits_bind, Tx.commits_orThrow, Tx.commits_throwIf, Tx.commits_pure] at h
    obtain ⟨plan, _, ⟨-, rfl⟩, _, _, ⟨-, rfl⟩, created, added, hadded, _, kept, hkept, -, rfl⟩ := h
    obtain ⟨service, -, rfl⟩ := commits_onReceipts hkept
    have hadds := adds_of_commits hadded
    exact .inr ⟨created, hadds.previous, hadds.later, hadds.rows⟩

/-- A request leaves the versions alone, or adds one. -/
theorem policies_of_stepPolicy (dateOf : Value → Option ℤ) (db : PolicyDb) (call : PolicyCall) :
    (stepPolicy dateOf db call).1.policies = db.policies ∨
      ∃ policy created, Adds (call.input policy) db (stepPolicy dateOf db call).1 created := by
  cases hparse : parsePlanBillingPolicyInput dateOf call.body call.parsedAt with
  | error code =>
      simp only [stepPolicy, hparse, true_or]
  | ok policy =>
      simp only [stepPolicy, hparse]
      cases htransaction :
        Tx.transaction (createPlanBillingPolicyVersion (call.input policy)) db with
      | mk result db' =>
          cases result with
          | error code => exact .inl (by rw [(Tx.transaction_error htransaction).1])
          | ok result =>
              refine (policies_of_create (Tx.transaction_ok.1 htransaction)).imp_right ?_
              rintro ⟨created, hadds⟩
              exact ⟨policy, created, hadds⟩

/-! ## The invariant -/

/-- What every request keeps; `installed` is when the global policy starts, and `legacy` are the
plans with a row of the migration. -/
structure PolicyHistory (installed : ℤ) (legacy : String → Prop) (rows : List PolicyRow) :
    Prop where
  contiguous : ∀ owner, Contiguous PolicyRow.start PolicyRow.stop (versionsOf rows owner)
  since : ∀ row ∈ rows, installed ≤ row.start
  ownKey : ∀ row ∈ rows, ∀ planId, row.planId = some planId →
    row.policyKey = planPolicyKey planId ∨ (row.start = installed ∧ legacy planId)
  versions : rows.Pairwise fun row later =>
    row.policyKey = later.policyKey → row.version < later.version

section

variable {input : CreatePolicy} {db db' : PolicyDb} {created : PolicyRow} {installed : ℤ}
  {legacy : String → Prop}

theorem Adds.columns (h : Adds input db db' created) :
    created.planId = some input.planId ∧ created.policyKey = planPolicyKey input.planId ∧
      created.stop = none ∧
      created.version = latestVersion db.policies.rows (planPolicyKey input.planId) + 1 := by
  obtain ⟨previous, -, rfl⟩ := h.previous
  exact ⟨rfl, rfl, rfl, rfl⟩

/-- A version follows on a policy that is in force. -/
theorem Adds.installed_le (h : Adds input db db' created) (hhistory : PolicyHistory installed legacy
    db.policies.rows) : installed ≤ created.start := by
  obtain ⟨previous, hprevious, -⟩ := h.previous
  obtain ⟨hrow, hkeep⟩ := List.mem_filter.1 (mem_of_firstBy hprevious)
  have hforce := (of_decide_eq_true hkeep).1
  exact (hhistory.since previous hrow).trans hforce.1

theorem le_latestVersion {rows : List PolicyRow} {row : PolicyRow} (h : row ∈ rows) :
    row.version ≤ latestVersion rows row.policyKey := by
  have hmem : row ∈ rows.filter (·.policyKey = row.policyKey) := by simp [h]
  unfold latestVersion
  cases hlatest : firstBy (fun row other => other.version < row.version)
      (rows.filter (·.policyKey = row.policyKey)) with
  | none =>
      rw [eq_nil_of_firstBy hlatest] at hmem
      cases hmem
  | some latest => exact le_of_firstBy hlatest hmem

@[simp] theorem start_endedBy (ended : Option PolicyRow) (instant : ℤ) (row : PolicyRow) :
    (endedBy ended instant row).start = row.start := by
  unfold endedBy
  split_ifs <;> rfl

@[simp] theorem planId_endedBy (ended : Option PolicyRow) (instant : ℤ) (row : PolicyRow) :
    (endedBy ended instant row).planId = row.planId := by
  unfold endedBy
  split_ifs <;> rfl

@[simp] theorem policyKey_endedBy (ended : Option PolicyRow) (instant : ℤ) (row : PolicyRow) :
    (endedBy ended instant row).policyKey = row.policyKey := by
  unfold endedBy
  split_ifs <;> rfl

@[simp] theorem version_endedBy (ended : Option PolicyRow) (instant : ℤ) (row : PolicyRow) :
    (endedBy ended instant row).version = row.version := by
  unfold endedBy
  split_ifs <;> rfl

theorem PolicyDb.eq_of_id {db : PolicyDb} {row other : PolicyRow} (hrow : row ∈ db.policies.rows)
    (hother : other ∈ db.policies.rows) (h : row.id = other.id) : row = other :=
  db.policies.table.eq_of_key hrow hother h

/-- The row of a plan that has no end is the one that a further version ends. -/
theorem Adds.ends_open (h : Adds input db db' created)
    (hhistory : PolicyHistory installed legacy db.policies.rows) {row : PolicyRow}
    (hrow : row ∈ db.policies.rows) (hplan : row.planId = some input.planId)
    (hopen : row.stop = none) :
    previousPlanPolicy db.policies.rows input.planId created.start = some row := by
  have hversion {other : PolicyRow} (hother : other ∈ db.policies.rows)
      (hmine : other.planId = some input.planId) :
      other ∈ versionsOf db.policies.rows (some input.planId) :=
    List.mem_filter.2 ⟨hother, decide_eq_true hmine⟩
  by_cases hforce : row.InForce created.start
  · cases hended : previousPlanPolicy db.policies.rows input.planId created.start with
    | none =>
        have hmem : row ∈ db.policies.rows.filter fun row =>
            row.InForce created.start ∧ row.planId = some input.planId :=
          List.mem_filter.2 ⟨hrow, decide_eq_true ⟨hforce, hplan⟩⟩
        rw [eq_nil_of_firstBy hended] at hmem
        cases hmem
    | some ended =>
        obtain ⟨hmem, hin, hmine⟩ := mem_of_previousPlanPolicy (Option.mem_def.2 hended)
        have hcontiguous := hhistory.contiguous (some input.planId)
        rw [hcontiguous.eq_of_within (hversion hmem hmine) (hversion hrow hplan) hin hforce]
  · -- the row starts later, and its key would have two rows without an end
    exfalso
    have hlater : created.start < row.start := by
      by_contra hle
      exact hforce ⟨not_lt.1 hle, by simp [show row.effectiveTo = none from hopen]⟩
    have hkey : row.policyKey = planPolicyKey input.planId := by
      rcases hhistory.ownKey row hrow input.planId hplan with hkey | ⟨hfirst, -⟩
      · exact hkey
      · exact absurd (h.installed_le hhistory) (not_le.2 (hfirst ▸ hlater))
    obtain ⟨-, hcreatedKey, hcreatedOpen, -⟩ := h.columns
    have hkept : endedBy (previousPlanPolicy db.policies.rows input.planId created.start)
        created.start row = row := by
      unfold endedBy
      rw [if_neg]
      intro hany
      obtain ⟨ended, hended, hid⟩ := (Option.any_eq_true _ _).1 hany
      obtain ⟨hmem, hin, -⟩ := mem_of_previousPlanPolicy hended
      have hsame : ended = row := db.eq_of_id hmem hrow (of_decide_eq_true hid)
      exact hforce (hsame ▸ hin)
    have hmem : row ∈ db'.policies.rows := by
      rw [h.rows]
      exact List.mem_append_left _ (List.mem_map.2 ⟨row, hrow, hkept⟩)
    have hmem' : created ∈ db'.policies.rows := by
      rw [h.rows]
      exact List.mem_append_right _ (List.mem_singleton_self created)
    have hindexed {other : PolicyRow} (hkey : other.policyKey = planPolicyKey input.planId)
        (hopen : other.effectiveTo = none) :
        (if other.effectiveTo = none then some (other.policyKey, (none : Option ℤ)) else none) =
          some (planPolicyKey input.planId, none) := by
      rw [if_pos hopen, hkey]
    have hsame : row = created := IndexedTable.eq_of_index hmem hmem'
      (List.mem_cons_of_mem _ (List.mem_singleton_self _)) (hindexed hkey hopen)
      (hindexed hcreatedKey hcreatedOpen)
    exact absurd (congrArg PolicyRow.start hsame) hlater.ne'

/-- The windows of every plan stay contiguous. -/
theorem Adds.contiguous (h : Adds input db db' created)
    (hhistory : PolicyHistory installed legacy db.policies.rows) (owner : Option String) :
    Contiguous PolicyRow.start PolicyRow.stop (versionsOf db'.policies.rows owner) := by
  obtain ⟨hplan, -, hopen, -⟩ := h.columns
  unfold versionsOf
  rw [h.rows]
  by_cases hfirst : versionsOf db.policies.rows (some input.planId) = []
  · -- the first version of the plan ends nothing
    have hother : ∀ row ∈ db.policies.rows, row.planId ≠ some input.planId := by
      intro row hrow hmine
      have hmem : row ∈ versionsOf db.policies.rows (some input.planId) :=
        List.mem_filter.2 ⟨hrow, decide_eq_true hmine⟩
      rw [hfirst] at hmem
      cases hmem
    have hnone : previousPlanPolicy db.policies.rows input.planId created.start = none := by
      refine Option.eq_none_iff_forall_not_mem.2 fun row hrow => ?_
      obtain ⟨hmem, -, hmine⟩ := mem_of_previousPlanPolicy hrow
      exact hother row hmem hmine
    have hsame : endedBy none created.start = id := by
      funext row
      simp [endedBy]
    rw [hnone, hsame, List.map_id]
    exact contiguous_open_first hhistory.contiguous (fun row hrow => hplan ▸ hother row hrow)
      hopen owner
  · obtain ⟨current, hmem, hcurrent⟩ := (hhistory.contiguous _).exists_open hfirst
    obtain ⟨hrow, hmine⟩ := List.mem_filter.1 hmem
    have hmine := of_decide_eq_true hmine
    have hended := h.ends_open hhistory hrow hmine hcurrent
    have hlater := h.later current hended
    rw [hended]
    refine contiguous_end_current hhistory.contiguous db.policies.table.nodup.of_map hrow hcurrent
      (fun row hrow' hne => ?_) (planId_endedBy _ _ _) (start_endedBy _ _ _) ?_ hlater
      (hplan.trans hmine.symm) hopen owner
    · unfold endedBy
      rw [if_neg]
      intro hany
      exact hne (db.eq_of_id hrow' hrow (by simpa [eq_comm] using hany))
    · unfold endedBy
      rw [if_pos (by simp)]
      rfl

/-- A version that is added keeps the history. -/
theorem Adds.history (h : Adds input db db' created)
    (hhistory : PolicyHistory installed legacy db.policies.rows) :
    PolicyHistory installed legacy db'.policies.rows := by
  obtain ⟨hplan, hkey, -, hversion⟩ := h.columns
  refine ⟨h.contiguous hhistory, ?_, ?_, ?_⟩
  · intro row hrow
    rw [h.rows] at hrow
    rcases List.mem_append.1 hrow with hrow | hrow
    · obtain ⟨kept, hkept, rfl⟩ := List.mem_map.1 hrow
      rw [start_endedBy]
      exact hhistory.since kept hkept
    · rw [List.mem_singleton.1 hrow]
      exact h.installed_le hhistory
  · intro row hrow planId hmine
    rw [h.rows] at hrow
    rcases List.mem_append.1 hrow with hrow | hrow
    · obtain ⟨kept, hkept, rfl⟩ := List.mem_map.1 hrow
      rw [planId_endedBy] at hmine
      rw [policyKey_endedBy, start_endedBy]
      exact hhistory.ownKey kept hkept planId hmine
    · obtain rfl := List.mem_singleton.1 hrow
      rw [hplan] at hmine
      exact .inl (Option.some.inj hmine ▸ hkey)
  · rw [h.rows, List.pairwise_append]
    refine ⟨?_, List.pairwise_singleton _ _, ?_⟩
    · rw [List.pairwise_map]
      simpa only [policyKey_endedBy, version_endedBy] using hhistory.versions
    · intro row hrow later hlater hsame
      obtain ⟨kept, hkept, rfl⟩ := List.mem_map.1 hrow
      obtain rfl := List.mem_singleton.1 hlater
      rw [policyKey_endedBy] at hsame
      rw [version_endedBy, hversion, ← hkey, ← hsame]
      have hle := le_latestVersion hkept
      omega

end

/-! ## Runs -/

/-- The keys of the migration: of the global policy, and of a plan with active services. -/
def migratedKey : Option String → String
  | none => "global"
  | some planId => "plan:" ++ planId ++ ":legacy-active-daily"

/-- A row of the migration. -/
structure Migrated (installed : ℤ) (row : PolicyRow) : Prop where
  key : row.policyKey = migratedKey row.planId
  start : row.start = installed
  stop : row.stop = none

theorem contiguous_of_length_le_one {rows : List PolicyRow} (hlength : rows.length ≤ 1)
    (hopen : ∀ row ∈ rows, row.stop = none) :
    Contiguous PolicyRow.start PolicyRow.stop rows := by
  cases rows with
  | nil => exact .nil
  | cons row rest =>
      have hrest : rest = [] := List.length_eq_zero_iff.1 (by simpa using hlength)
      rw [hrest]
      exact .singleton (hopen row (by simp))

/-- The migration leaves one row for a plan at most, because the rows of a plan have one key. -/
theorem history_of_migrated {installed : ℤ} {db : PolicyDb}
    (h : ∀ row ∈ db.policies.rows, Migrated installed row) :
    PolicyHistory installed (fun planId => versionsOf db.policies.rows (some planId) ≠ [])
      db.policies.rows := by
  let current : PolicyRow → Option (String × Option ℤ) := fun row =>
    if row.effectiveTo = none then some (row.policyKey, none) else none
  have hindex : current ∈ PolicyRow.indexes := List.mem_cons_of_mem _ (List.mem_singleton_self _)
  have hcurrent {row : PolicyRow} (hrow : row ∈ db.policies.rows) :
      current row = some (migratedKey row.planId, none) := by
    rw [← (h row hrow).key]
    exact if_pos (h row hrow).stop
  constructor
  · intro owner
    refine contiguous_of_length_le_one ?_ fun row hrow => (h row (List.mem_filter.1 hrow).1).stop
    calc (versionsOf db.policies.rows owner).length
        = db.policies.rows.countP fun row => row.planId = owner := List.countP_eq_length_filter.symm
      _ ≤ db.policies.rows.countP fun row => current row = some (migratedKey owner, none) := by
          refine List.countP_mono_left fun row hrow hmine => ?_
          rw [decide_eq_true_eq, hcurrent hrow, of_decide_eq_true hmine]
      _ = (db.policies.rows.filter fun row =>
            current row = some (migratedKey owner, none)).length := List.countP_eq_length_filter
      _ ≤ 1 := IndexedTable.length_filter_le_one hindex
  · intro row hrow
    rw [(h row hrow).start]
  · intro row hrow planId hmine
    have hmem : row ∈ versionsOf db.policies.rows (some planId) :=
      List.mem_filter.2 ⟨hrow, decide_eq_true hmine⟩
    exact .inr ⟨(h row hrow).start, List.ne_nil_of_mem hmem⟩
  · refine (List.pairwise_filterMap.1 (db.policies.unique current hindex)).imp_of_mem ?_
    intro row later hrow hlater hne hsame
    have hkey : migratedKey row.planId = migratedKey later.planId := by
      rw [← (h row hrow).key, ← (h later hlater).key, hsame]
    exact absurd (by rw [hkey]) (hne _ (hcurrent hrow) _ (hcurrent hlater))

/-- What every run keeps. -/
theorem history_of_run (dateOf : Value → Option ℤ) {installed : ℤ} {legacy : String → Prop}
    {db : PolicyDb} (h : PolicyHistory installed legacy db.policies.rows)
    (calls : List PolicyCall) :
    PolicyHistory installed legacy (run (stepPolicy dateOf) db calls).policies.rows := by
  refine @run_induction _ _ _ (stepPolicy dateOf)
    (fun db => PolicyHistory installed legacy db.policies.rows) ?_ db h calls
  intro db call hhistory
  rcases policies_of_stepPolicy dateOf db call with hsame | ⟨policy, created, hadds⟩
  · rw [hsame]
    exact hhistory
  · exact hadds.history hhistory

/-- One version comes after another: it starts later, when the other has ended, and under the key
of the plan, with a higher number than the other when that has the key as well. -/
structure Follows (planId : String) (row later : PolicyRow) : Prop where
  start : row.start < later.start
  disjoint : ∀ instant, ¬ (row.InForce instant ∧ later.InForce instant)
  ownKey : later.policyKey = planPolicyKey planId
  version : row.policyKey = planPolicyKey planId → row.version < later.version

/-- **The versions of a plan follow one another.**  From the tables of the migration, whatever the
bodies of the requests and the clocks: the windows of the versions are contiguous, so that one at
most has no end, and each version follows all that have been created before it.  Only the row of
the migration has another key than the plan's. -/
theorem plan_versions_follow (dateOf : Value → Option ℤ) {installed : ℤ} {db : PolicyDb}
    (hmigrated : ∀ row ∈ db.policies.rows, Migrated installed row) (calls : List PolicyCall)
    (planId : String) :
    let rows := versionsOf (run (stepPolicy dateOf) db calls).policies.rows (some planId)
    Contiguous PolicyRow.start PolicyRow.stop rows ∧
      (rows.filter fun row => row.stop.isNone).length ≤ 1 ∧ rows.Pairwise (Follows planId) ∧
      (versionsOf db.policies.rows (some planId) = [] →
        ∀ row ∈ rows, row.policyKey = planPolicyKey planId) := by
  have hhistory := history_of_run dateOf (history_of_migrated hmigrated) calls
  have hcontiguous := hhistory.contiguous (some planId)
  have hmine {row : PolicyRow}
      (hrow : row ∈ versionsOf (run (stepPolicy dateOf) db calls).policies.rows (some planId)) :
      installed ≤ row.start ∧ (row.policyKey = planPolicyKey planId ∨
        (row.start = installed ∧ versionsOf db.policies.rows (some planId) ≠ [])) := by
    obtain ⟨hmem, hplan⟩ := List.mem_filter.1 hrow
    exact ⟨hhistory.since row hmem, hhistory.ownKey row hmem planId (of_decide_eq_true hplan)⟩
  refine ⟨hcontiguous, hcontiguous.length_open_le_one, ?_, ?_⟩
  · have hversions := hhistory.versions.filter fun row => row.planId = some planId
    refine (hcontiguous.pairwise.and hversions).imp_of_mem ?_
    rintro row later hrow hlater ⟨⟨hstart, until_, huntil, hle⟩, hversion⟩
    have hown : later.policyKey = planPolicyKey planId := by
      rcases (hmine hlater).2 with hown | ⟨hfirst, -⟩
      · exact hown
      · exact absurd ((hmine hrow).1.trans_lt hstart) (not_lt.2 hfirst.le)
    refine ⟨hstart, fun instant hin => ?_, hown, fun hkey => hversion (hkey.trans hown.symm)⟩
    exact absurd (hin.1.2 until_ huntil) (not_lt.2 (hle.trans hin.2.1))
  · intro hfresh row hrow
    rcases (hmine hrow).2 with hown | ⟨-, hlegacy⟩
    · exact hown
    · exact absurd hfresh hlegacy

/-- A row of the migration: of the global policy, or of a plan with active services. -/
def migratedRow (planId : Option String) : PolicyRow where
  id := migratedKey planId
  policyKey := migratedKey planId
  version := 1
  scope := if planId.isNone then .global else .plan
  planId
  availability := if planId.isNone then .hourlyOnly else .dailyOnly
  defaultCadence := if planId.isNone then .hourly else .daily
  displayMode := .both
  hourlyMinimumCreditHours := 24
  dailyMinimumCreditDays := 1
  hourlyGracePeriods := 24
  dailyGracePeriods := 3
  lowBalanceThresholdPeriods := 3
  timeTerms := ⟨.second, 0, .exact, true⟩
  stopStateComponentPolicy := ⟨true, true, true, true, false, true⟩
  enabledCadences := if planId.isNone then [.hourly] else [.daily]
  effectiveFrom := 0
  effectiveTo := none
  createdById := none
  changeReason := if planId.isNone then "wallet_payg_hourly_default"
    else "legacy_active_service_non_retroactive_daily_snapshot"

/-- After the migration of one plan, which has active services. -/
def migratedDb : PolicyDb where
  service := Orders.emptyDb
  plans := ⟨[⟨"cloud", .cloudServer, .paygWallet, some "global", none⟩], by decide⟩
  policies := ⟨⟨[migratedRow none, migratedRow (some "cloud")], by decide⟩, by decide⟩

/-- A request at `now` for a version that starts at `effectiveFrom`. -/
def requestAt (now effectiveFrom : ℤ) (newId : String) : PolicyCall where
  body := [("availability", .string "HOURLY_AND_DAILY"), ("defaultCadence", .string "DAILY"),
    ("displayMode", .string "BOTH"), ("hourlyMinimumCreditHours", .number (.integer 24)),
    ("dailyMinimumCreditDays", .string "2"), ("hourlyGracePeriods", .number (.integer 0)),
    ("dailyGracePeriods", .number (.integer 3)), ("lowBalanceThresholdPeriods", .string " 3 "),
    ("effectiveFrom", .number (.integer effectiveFrom)), ("changeReason", .string "new prices")]
  parsedAt := now
  planId := "cloud"
  actorUserId := "admin"
  idempotencyKey := "policy-version-" ++ newId
  now
  newId

/-- A start a second ago, a start ahead, one that the pending version refuses, one inside the
window of the version before the last, and a start when the last version has begun. -/
def requests : List PolicyCall :=
  [requestAt 10000 9000 "a", requestAt 20000 30000 "b", requestAt 25000 40000 "c",
    requestAt 31000 27000 "d", requestAt 40000 36000 "e"]

def millisecondsOf : Value → Option ℤ
  | .number (.integer value) => some value
  | _ => none

theorem plan_versions_follow_requests :
    let rows := versionsOf (run (stepPolicy millisecondsOf) migratedDb requests).policies.rows
      (some "cloud")
    rows.map (fun row => (row.version, row.start, row.stop)) =
        [(1, 0, some 9000), (1, 9000, some 30000), (2, 30000, some 36000), (3, 36000, none)] ∧
      Contiguous PolicyRow.start PolicyRow.stop rows ∧ rows.Pairwise (Follows "cloud") := by
  have hmigrated : ∀ row ∈ migratedDb.policies.rows, Migrated 0 row := by
    intro row hrow
    have hrow : row = migratedRow none ∨ row = migratedRow (some "cloud") := by
      simpa [migratedDb, IndexedTable.rows] using hrow
    rcases hrow with rfl | rfl
    · exact ⟨rfl, rfl, rfl⟩
    · exact ⟨rfl, rfl, rfl⟩
  have hfollow := plan_versions_follow millisecondsOf hmigrated requests "cloud"
  exact ⟨by decide +kernel, hfollow.1, hfollow.2.2.1⟩

end AbrChin.Billing
