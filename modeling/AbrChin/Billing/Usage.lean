import AbrChin.Billing.Tiling
import AbrChin.Lib.Run

/-!
# Every run of the timeline's writers

The events are the three transactions, and anything else that happens to the
instances themselves.  After every run the timeline is tiled, and so the coverage
check of the billing worker passes for every snapshot and every period.
-/

namespace AbrChin.Billing

open Lib

inductive TimelineEvent where
  | start (input : StartInput)
  | record (input : RecordInput)
  | cadence (input : CadenceInput)
  | instances (rows : List CloudInstance)

def TimelineEvent.tx : TimelineEvent → Tx Timeline String Unit
  | start input => do
      let _ ← startInitialUsageBillingTx input
      pure ()
  | record input => do
      let _ ← recordProviderConfirmedResourceVersion input
      pure ()
  | cadence input => do
      let _ ← scheduleServiceBillingCadenceChange input
      pure ()
  | instances rows => Tx.modify (Timeline.setInstances rows)

def stepTimeline (db : Timeline) (event : TimelineEvent) : Timeline × Except String Unit :=
  let (result, db') := event.tx.transaction db
  (db', result)

/-- The timeline before any service has been started. -/
def Timeline.initial (instances : List CloudInstance) : Timeline where
  instances
  snapshots := []
  rates := []
  versions := []
  intervals := []
  valid := by constructor <;> simp

/-! ## The invariant of a run -/

theorem tiled_initial (instances : List CloudInstance) :
    Tiled (Timeline.initial instances).toTimelineRows where
  versions _ := .nil
  snapshots _ := .nil
  first _ h := by cases h
  inSnapshot _ h := by cases h
  inVersion _ h := by cases h
  pairs _ h := by cases h
  cover _ h := by cases h
  complete _ h := by cases h

theorem Tiled.setInstances {rows : TimelineRows} (h : Tiled rows) (instances : List CloudInstance) :
    Tiled { rows with instances } := { h with }

theorem tiled_record {input : RecordInput} {db db' : Timeline} {result : ResourceVersion}
    (h : Tiled db.toTimelineRows)
    (hcommit : Tx.Commits (recordProviderConfirmedResourceVersion input) db result db') :
    Tiled db'.toTimelineRows := by
  rcases commits_record hcommit with rfl | ⟨cloud, mid, hid, -, hlater, hmid, hrows⟩
  · exact h
  cases hcurrent : db.currentVersion cloud.id with
  | none =>
      have howner : (input.version cloud).cloudInstanceId = cloud.id := rfl
      obtain ⟨hnosnapshot, hfirst⟩ := tiled_record_first h hcurrent howner rfl
        (mid.instances.map (confirmInstance cloud.id input.resources.state))
      rw [hcurrent] at hmid
      rw [hnosnapshot] at hrows
      rw [hrows]
      simp only [TimelineRows.missingInterval, Option.filter_none, Option.map_none,
        Option.toList_none, List.append_nil, hmid] at hfirst ⊢
      exact hfirst
  | some current =>
      obtain ⟨hmem, howner, hopen⟩ := currentVersion_eq_some hcurrent
      rw [hcurrent] at hmid
      suffices hreplaces : Replaces input cloud current db.toTimelineRows db'.toTimelineRows from
        hreplaces.tiled db.valid db'.valid h
      refine ⟨hid, hmem, howner, hopen, hlater current hcurrent, ?_, ?_, fun interval => ?_⟩
      · rw [hrows, hmid]
        rfl
      · rw [hrows, hmid]
        rfl
      · have hmidIntervals : mid.intervals = db.intervals.map
            (recut current (input.version cloud) input.providerConfirmedAt) := by
          rw [hmid]
          exact List.map_map
        have hmissing (snapshot : PolicySnapshot) : mid.missingInterval cloud.id input.newId
            (db.snapshotAt cloud.id input.providerConfirmedAt) input.providerConfirmedAt =
              some snapshot ↔ Missing input cloud current db.toTimelineRows snapshot := by
          rw [TimelineRows.missingInterval, Option.filter_eq_some_iff, Missing]
          refine and_congr_right fun _ => ?_
          rw [← Option.not_isSome, Bool.not_eq_true', ← Bool.not_eq_true, scheduledInterval_isSome,
            hmidIntervals]
          simp
        rw [hrows]
        simp only [List.mem_append, hmidIntervals, List.mem_map, Option.mem_toList,
          Option.map_eq_some_iff, hmissing]

/-- One step keeps the invariant. -/
theorem tiled_step (db : Timeline) (event : TimelineEvent) (h : Tiled db.toTimelineRows) :
    Tiled (stepTimeline db event).1.toTimelineRows := by
  unfold stepTimeline
  cases hrun : event.tx.transaction db with
  | mk result db' =>
      cases result with
      | error e =>
          obtain ⟨rfl, -⟩ := Tx.transaction_error hrun
          exact h
      | ok u =>
          have hcommit := Tx.transaction_ok.1 hrun
          cases event with
          | start input =>
              simp only [TimelineEvent.tx, Tx.commits_bind, Tx.commits_pure] at hcommit
              obtain ⟨snapshot, mid, hcommit, -, rfl⟩ := hcommit
              rcases commits_start hcommit with rfl |
                ⟨activation, cloud, contract, timeTerms, resources, -, -, -, -, -, hrows⟩
              · exact h
              · exact tiled_start h hrows db'.valid
          | record input =>
              simp only [TimelineEvent.tx, Tx.commits_bind, Tx.commits_pure] at hcommit
              obtain ⟨version, mid, hcommit, -, rfl⟩ := hcommit
              exact tiled_record h hcommit
          | cadence input =>
              simp only [TimelineEvent.tx, Tx.commits_bind, Tx.commits_pure] at hcommit
              obtain ⟨snapshot, mid, hcommit, -, rfl⟩ := hcommit
              obtain ⟨current, hcurrent, openUsage, husage, minimumCreditRial, howner, hopen,
                husageOwner, husageOpen, -, hrows⟩ := commits_cadence hcommit
              exact tiled_cadence db.valid h hcurrent howner hopen husage husageOwner husageOpen
                hrows db'.valid
          | instances rows =>
              obtain rfl := Tx.commits_modify.1 hcommit
              exact h.setInstances rows

theorem tiled_run (instances : List CloudInstance) (events : List TimelineEvent) :
    Tiled (run stepTimeline (.initial instances) events).toTimelineRows :=
  run_induction tiled_step (tiled_initial instances) events

/-! ## Coverage -/

/-- The part of an interval in a window. -/
def UsageInterval.clip (interval : UsageInterval) (target : Span ℤ) : Span ℤ where
  start := max target.start interval.startedAt
  stop := match interval.endedAt with
    | some until_ => min target.stop until_
    | none => target.stop

variable {interval : UsageInterval} {target : Span ℤ} {instant : ℤ}

theorem clip_contains (h : target.Contains instant) :
    (interval.clip target).Contains instant ↔ interval.Contains instant := by
  obtain ⟨hfrom, huntil⟩ := h
  unfold UsageInterval.clip UsageInterval.Contains Span.Contains Within
  cases interval.endedAt <;> simp [hfrom, huntil]

section Coverage

variable {rows : TimelineRows} {snapshot : PolicySnapshot} {period : Period}

theorem mem_intervalsOf :
    interval ∈ rows.intervalsOf snapshot target ↔ interval ∈ rows.intervals ∧
      interval.cloudInstanceId = snapshot.cloudInstanceId ∧
      interval.billingPolicySnapshotId = snapshot.id ∧ interval.startedAt < target.stop ∧
      ∀ until_ ∈ interval.endedAt, target.start < until_ := by
  simp only [TimelineRows.intervalsOf, List.mem_mergeSort, List.mem_filter, decide_eq_true_eq]
  cases interval.endedAt <;> simp

/-- An interval that meets a window has a part there. -/
theorem clip_nonempty (htarget : target.start < target.stop)
    (hrange : RangeCheck interval.startedAt interval.endedAt)
    (hstart : interval.startedAt < target.stop)
    (hstop : ∀ until_ ∈ interval.endedAt, target.start < until_) :
    (interval.clip target).start < (interval.clip target).stop ∧
      target.start ≤ (interval.clip target).start ∧ (interval.clip target).stop ≤ target.stop := by
  unfold UsageInterval.clip
  cases hend : interval.endedAt with
  | none => simp [hstart, htarget]
  | some until_ =>
      have hrange := hrange until_ hend
      have hstop := hstop until_ hend
      simp only
      omega

theorem Tiled.versionOf_eq (hvalid : rows.Valid) (h : Tiled rows)
    (hinterval : interval ∈ rows.intervals) : ∃ version, rows.versionOf interval = some version ∧
      interval.Inside version.effectiveFrom version.effectiveTo := by
  obtain ⟨version, hmem, hid, -, hinside⟩ := h.inVersion interval hinterval
  refine ⟨version, ?_, hinside⟩
  cases hfind : rows.versionOf interval with
  | none =>
      have := List.find?_eq_none.1 hfind version hmem
      simp [hid] at this
  | some found =>
      obtain ⟨hfound, hkeep⟩ := mem_of_find? hfind
      rw [version_ext hvalid hfound hmem ((of_decide_eq_true hkeep).trans hid.symm)]

/-- The resource version does not cut an interval any further. -/
theorem Tiled.boundedUsage_eq (hvalid : rows.Valid) (h : Tiled rows)
    (htarget : target.start < target.stop)
    (hinterval : interval ∈ rows.intervalsOf snapshot target) :
    ∃ version, boundedUsage rows target interval =
      some ⟨interval.clip target, interval, version⟩ := by
  obtain ⟨hmem, -, -, hstart, hstop⟩ := mem_intervalsOf.1 hinterval
  obtain ⟨version, hversion, hinside⟩ := h.versionOf_eq hvalid hmem
  obtain ⟨hclip, -, -⟩ := clip_nonempty htarget (hvalid.intervalRanges interval hmem) hstart hstop
  have husage : intersection target.start target.stop interval.startedAt interval.endedAt =
      some (interval.clip target) := if_pos hclip
  have hresource : Covers version.effectiveFrom version.effectiveTo (interval.clip target) := by
    refine ⟨hinside.1.trans (le_max_right _ _), fun limit hlimit => ?_⟩
    obtain ⟨until_, huntil, hle⟩ := hinside.2 limit hlimit
    unfold UsageInterval.clip
    rw [huntil]
    exact (min_le_right _ _).trans hle
  refine ⟨version, ?_⟩
  simp only [boundedUsage, hversion, husage, Option.bind_eq_bind, Option.bind_some,
    intersection_of_covers hclip hresource]
  rfl

/-- The window of a snapshot in a period lies in the snapshot. -/
theorem targetOf_within (h : (targetOf snapshot period).Contains instant) :
    Within snapshot.effectiveFrom snapshot.effectiveTo instant := by
  obtain ⟨hfrom, huntil⟩ := h
  refine ⟨(le_max_right _ _).trans hfrom, fun limit hlimit => ?_⟩
  simp only [targetOf] at huntil
  rw [Option.mem_def.1 hlimit] at huntil
  exact huntil.trans_le (min_le_right _ _)

/-- Every instant of a snapshot lies in exactly one of its intervals. -/
theorem Tiled.countP_contains (hvalid : rows.Valid) (h : Tiled rows)
    (hsnapshot : snapshot ∈ rows.snapshots)
    (hin : Within snapshot.effectiveFrom snapshot.effectiveTo instant) :
    (rows.intervals.countP fun row => row.billingPolicySnapshotId = snapshot.id ∧
      Within row.startedAt row.endedAt instant) = 1 := by
  obtain ⟨interval, hmem, hof, hcontains⟩ := h.cover snapshot hsnapshot instant hin
  refine countP_eq_one (List.Nodup.of_map _ hvalid.intervalIds) hmem
    (decide_eq_true ⟨hof, hcontains⟩) fun other hother hkeep => ?_
  obtain ⟨hotherOf, hotherContains⟩ := of_decide_eq_true hkeep
  exact h.interval_eq hvalid hother hmem (hotherOf.trans hof.symm) hotherContains hcontains

/-- The coverage check passes, and the usage of the window is found. -/
theorem Tiled.usageOf_eq (hvalid : rows.Valid) (h : Tiled rows)
    (hsnapshot : snapshot ∈ rows.snapshots)
    (htarget : (targetOf snapshot period).start < (targetOf snapshot period).stop) :
    ∃ usages, usageOf rows snapshot (targetOf snapshot period) = .ok usages ∧ usages ≠ [] ∧
      validateIntervalCoverage (targetOf snapshot period).start (targetOf snapshot period).stop
        (usages.map BoundedUsage.toSpan) = true := by
  set target := targetOf snapshot period
  set intervals := rows.intervalsOf snapshot target with hintervals
  have hinstance {row : UsageInterval} (hrow : row ∈ rows.intervals)
      (hof : row.billingPolicySnapshotId = snapshot.id) :
      row.cloudInstanceId = snapshot.cloudInstanceId := by
    obtain ⟨own, hown, hid, hinstance, -⟩ := h.inSnapshot row hrow
    rw [← hinstance, snapshot_ext hvalid hown hsnapshot (hid.trans hof)]
  have hmeets {instant : ℤ} (hinstant : target.Contains instant) {row : UsageInterval}
      (hrow : row ∈ rows.intervals) (hof : row.billingPolicySnapshotId = snapshot.id)
      (hcontains : row.Contains instant) : row ∈ intervals := by
    refine mem_intervalsOf.2 ⟨hrow, hinstance hrow hof, hof, ?_, fun until_ huntil => ?_⟩
    · exact hcontains.1.trans_lt hinstant.2
    · exact lt_of_le_of_lt hinstant.1 (hcontains.2 until_ huntil)
  -- every interval is bounded to its part of the window
  have hspans : (intervals.filterMap (boundedUsage rows target)).map BoundedUsage.toSpan =
      intervals.map fun row => row.clip target := by
    rw [List.map_filterMap, ← List.filterMap_eq_map]
    refine List.filterMap_congr fun row hrow => ?_
    obtain ⟨version, hbounded⟩ := h.boundedUsage_eq hvalid htarget hrow
    rw [hbounded]
    rfl
  have hcoverage : validateIntervalCoverage target.start target.stop
      (intervals.map fun row => row.clip target) = true := by
    unfold validateIntervalCoverage
    have hperm := List.mergeSort_perm (intervals.map fun row => row.clip target)
      (fun left right => decide (left.start ≤ right.start))
    refine decide_eq_true (walk_eq_some ?_ (fun span hspan => ?_) (fun instant hfrom huntil => ?_)
      htarget.le)
    · refine (List.pairwise_mergeSort (fun a b c hab hbc => ?_) (fun a b => ?_) _).imp
        of_decide_eq_true
      · exact decide_eq_true ((of_decide_eq_true hab).trans (of_decide_eq_true hbc))
      · simpa using le_total a.start b.start
    · obtain ⟨row, hrow, rfl⟩ := List.mem_map.1 (hperm.mem_iff.1 hspan)
      obtain ⟨hmem, -, -, hstart, hstop⟩ := mem_intervalsOf.1 hrow
      exact clip_nonempty htarget (hvalid.intervalRanges row hmem) hstart hstop
    · have hinstant : target.Contains instant := ⟨hfrom, huntil⟩
      have hwithin := targetOf_within hinstant
      obtain ⟨row, hrow, hof, hcontains⟩ := h.cover snapshot hsnapshot instant hwithin
      have hnodup : intervals.Nodup := by
        refine (List.mergeSort_perm _ _).nodup_iff.2 (List.Nodup.filter _ ?_)
        exact List.Nodup.of_map _ hvalid.intervalIds
      rw [hperm.countP_eq, List.countP_map]
      refine countP_eq_one hnodup (hmeets hinstant hrow hof hcontains)
        (decide_eq_true ((clip_contains hinstant).2 hcontains)) fun other hother hkeep => ?_
      obtain ⟨hmem, -, hotherOf, -, -⟩ := mem_intervalsOf.1 hother
      exact h.interval_eq hvalid hmem hrow (hotherOf.trans hof.symm)
        ((clip_contains hinstant).1 (of_decide_eq_true hkeep)) hcontains
  have hcomplete : intervals.find?
      (fun row => decide (row.status = .incomplete ∨ row.status = .review)) = none := by
    refine List.find?_eq_none.2 fun row hrow => ?_
    rcases h.complete row (mem_intervalsOf.1 hrow).1 with hstatus | hstatus <;> simp [hstatus]
  have hne : intervals.filterMap (boundedUsage rows target) ≠ [] := by
    have hfirst : target.Contains target.start := ⟨le_rfl, htarget⟩
    obtain ⟨row, hrow, hof, hcontains⟩ :=
      h.cover snapshot hsnapshot target.start (targetOf_within hfirst)
    obtain ⟨version, hbounded⟩ := h.boundedUsage_eq hvalid htarget (hmeets hfirst hrow hof hcontains)
    exact List.ne_nil_of_mem
      (List.mem_filterMap.2 ⟨row, hmeets hfirst hrow hof hcontains, hbounded⟩)
  refine ⟨intervals.filterMap (boundedUsage rows target), ?_, hne, by rw [hspans, hcoverage]⟩
  unfold usageOf
  simp only [← hintervals, hcomplete, hspans, hcoverage]
  rw [if_neg (by simpa using hne)]

end Coverage

/-! ## What holds after every run -/

/-- The invariant in the words of the tables. -/
structure TimelineInvariant (rows : TimelineRows) : Prop where
  oneOpenVersion : ∀ cloudInstanceId,
    ((rows.versionsOf cloudInstanceId).countP fun row => row.effectiveTo.isNone) ≤ 1
  oneOpenInterval : ∀ cloudInstanceId, (rows.intervals.countP fun row =>
    row.cloudInstanceId = cloudInstanceId ∧ row.endedAt.isNone = true) ≤ 1
  contiguous : ∀ cloudInstanceId, (rows.versionsOf cloudInstanceId).IsChain fun version later =>
    version.effectiveFrom < later.effectiveFrom ∧
      version.effectiveTo = some later.effectiveFrom
  disjoint : ∀ cloudInstanceId, ∀ version ∈ rows.versionsOf cloudInstanceId,
    ∀ other ∈ rows.versionsOf cloudInstanceId, ∀ instant,
      Within version.effectiveFrom version.effectiveTo instant →
        Within other.effectiveFrom other.effectiveTo instant → version = other
  ranges : ∀ interval ∈ rows.intervals, ∀ until_ ∈ interval.endedAt, interval.startedAt < until_
  inSnapshot : ∀ interval ∈ rows.intervals, ∃ snapshot ∈ rows.snapshots,
    snapshot.id = interval.billingPolicySnapshotId ∧
      snapshot.cloudInstanceId = interval.cloudInstanceId ∧
      interval.Inside snapshot.effectiveFrom snapshot.effectiveTo
  inVersion : ∀ interval ∈ rows.intervals, ∃ version ∈ rows.versions,
    version.id = interval.resourceVersionId ∧
      version.cloudInstanceId = interval.cloudInstanceId ∧
      interval.Inside version.effectiveFrom version.effectiveTo
  tiles : ∀ snapshot ∈ rows.snapshots, ∃ first,
    (rows.versionsOf snapshot.cloudInstanceId).head? = some first ∧
      ∀ instant, first.effectiveFrom ≤ instant →
        Within snapshot.effectiveFrom snapshot.effectiveTo instant →
          (rows.intervals.countP fun row => row.billingPolicySnapshotId = snapshot.id ∧
            Within row.startedAt row.endedAt instant) = 1
  covered : ∀ snapshot ∈ rows.snapshots, ∀ period : Period,
    (targetOf snapshot period).start < (targetOf snapshot period).stop →
      ∃ usages, usageOf rows snapshot (targetOf snapshot period) = .ok usages ∧ usages ≠ [] ∧
        validateIntervalCoverage (targetOf snapshot period).start (targetOf snapshot period).stop
          (usages.map BoundedUsage.toSpan) = true

/-- A unique column admits one row of a kind. -/
theorem countP_le_one_of_unique {α : Type} {f : α → Option String} {rows : List α}
    (h : (rows.filterMap f).Nodup) (key : String) :
    (rows.countP fun row => f row = some key) ≤ 1 := by
  induction rows with
  | nil => simp
  | cons row rest ih =>
      cases hrow : f row with
      | none =>
          rw [List.filterMap_cons_none hrow] at h
          rw [List.countP_cons_of_neg (by simp [hrow])]
          exact ih h
      | some value =>
          rw [List.filterMap_cons_some hrow, List.nodup_cons] at h
          by_cases hkey : value = key
          · have hrest : rest.countP (fun row => f row = some key) = 0 := by
              refine List.countP_eq_zero.2 fun other hother hkeep => h.1 ?_
              exact List.mem_filterMap.2 ⟨other, hother, hkey ▸ of_decide_eq_true hkeep⟩
            rw [List.countP_cons_of_pos (by simp [hrow, hkey]), hrest]
          · rw [List.countP_cons_of_neg (by simp [hrow, hkey])]
            exact ih h.2

theorem openFor_eq_some {owner key : String} {stop : Option ℤ} :
    openFor owner stop = some key ↔ owner = key ∧ stop.isNone = true := by
  cases stop <;> simp [openFor]

theorem Tiled.invariant {rows : TimelineRows} (hvalid : rows.Valid) (h : Tiled rows) :
    TimelineInvariant rows where
  oneOpenVersion cloudInstanceId := by
    have hone := countP_le_one_of_unique hvalid.oneCurrentVersion cloudInstanceId
    simp only [openFor_eq_some] at hone
    rw [TimelineRows.versionsOf, List.countP_filter]
    refine le_trans (List.countP_mono_left fun row _ hkeep => ?_) hone
    simpa [and_comm] using hkeep
  oneOpenInterval cloudInstanceId := by
    have hone := countP_le_one_of_unique hvalid.oneOpenInterval cloudInstanceId
    simp only [openFor_eq_some] at hone
    exact hone
  contiguous cloudInstanceId := (h.versions cloudInstanceId).next
  disjoint cloudInstanceId _ hversion _ hother _ hin hin' :=
    (h.versions cloudInstanceId).eq_of_within hversion hother hin hin'
  ranges := hvalid.intervalRanges
  inSnapshot := h.inSnapshot
  inVersion := h.inVersion
  tiles snapshot hsnapshot := by
    obtain ⟨first, hfirst, -⟩ := h.first snapshot hsnapshot
    exact ⟨first, hfirst, fun instant _ hin => h.countP_contains hvalid hsnapshot hin⟩
  covered _ hsnapshot _ htarget := h.usageOf_eq hvalid hsnapshot htarget

/-- **The usage timeline has no gap and no overlap after any run.** -/
theorem usage_timeline_invariant (instances : List CloudInstance) (events : List TimelineEvent) :
    TimelineInvariant (run stepTimeline (.initial instances) events).toTimelineRows :=
  (tiled_run instances events).invariant (run stepTimeline (.initial instances) events).valid

end AbrChin.Billing
