import AbrChin.Billing.Draft
import AbrChin.Lib.Index

/-!
# The usage timeline has no gap

What the three writers of the timeline keep (`Tiled`): the resource versions and the
policy snapshots of an instance follow one another, every usage interval lies inside
one of each, and every instant of a snapshot is covered.  Two intervals never have
the same snapshot and the same version, so an instant is not covered twice either.

The writers meet two kinds of boundaries.  A confirmation of new resources at an
instant cuts the interval that contains it and moves the later ones, which a change
of cadence has scheduled, to the new version; whether a new interval is needed under
the snapshot of that instant is decided by looking for a moved one that starts there.
-/

namespace AbrChin.Billing

open Lib

namespace TimelineRows

def versionsOf (rows : TimelineRows) (cloudInstanceId : String) : List ResourceVersion :=
  rows.versions.filter fun row => row.cloudInstanceId = cloudInstanceId

def snapshotsOf (rows : TimelineRows) (cloudInstanceId : String) : List PolicySnapshot :=
  rows.snapshots.filter fun row => row.cloudInstanceId = cloudInstanceId

end TimelineRows

/-- The interval lies inside a range. -/
def UsageInterval.Inside (interval : UsageInterval) (start : ℤ) (stop : Option ℤ) : Prop :=
  start ≤ interval.startedAt ∧ ∀ limit ∈ stop, ∃ until_ ∈ interval.endedAt, until_ ≤ limit

/-- The instant lies in the interval. -/
def UsageInterval.Contains (interval : UsageInterval) (instant : ℤ) : Prop :=
  Within interval.startedAt interval.endedAt instant

/-- The invariant of the timeline. -/
structure Tiled (rows : TimelineRows) : Prop where
  versions : ∀ cloudInstanceId, Contiguous ResourceVersion.effectiveFrom
    ResourceVersion.effectiveTo (rows.versionsOf cloudInstanceId)
  snapshots : ∀ cloudInstanceId, Contiguous PolicySnapshot.effectiveFrom
    PolicySnapshot.effectiveTo (rows.snapshotsOf cloudInstanceId)
  first : ∀ snapshot ∈ rows.snapshots, ∃ first,
    (rows.versionsOf snapshot.cloudInstanceId).head? = some first ∧
      first.effectiveFrom ≤ snapshot.effectiveFrom
  inSnapshot : ∀ interval ∈ rows.intervals, ∃ snapshot ∈ rows.snapshots,
    snapshot.id = interval.billingPolicySnapshotId ∧
      snapshot.cloudInstanceId = interval.cloudInstanceId ∧
      interval.Inside snapshot.effectiveFrom snapshot.effectiveTo
  inVersion : ∀ interval ∈ rows.intervals, ∃ version ∈ rows.versions,
    version.id = interval.resourceVersionId ∧
      version.cloudInstanceId = interval.cloudInstanceId ∧
      interval.Inside version.effectiveFrom version.effectiveTo
  pairs : ∀ interval ∈ rows.intervals, ∀ other ∈ rows.intervals,
    interval.billingPolicySnapshotId = other.billingPolicySnapshotId →
      interval.resourceVersionId = other.resourceVersionId → interval = other
  cover : ∀ snapshot ∈ rows.snapshots, ∀ instant,
    Within snapshot.effectiveFrom snapshot.effectiveTo instant →
      ∃ interval ∈ rows.intervals, interval.billingPolicySnapshotId = snapshot.id ∧
        interval.Contains instant
  complete : ∀ interval ∈ rows.intervals, interval.status = .open ∨ interval.status = .complete

/-! ## What the invariant says of an instant -/

variable {instant : ℤ} {interval : UsageInterval}

theorem UsageInterval.Inside.within {start : ℤ} {stop : Option ℤ} (h : interval.Inside start stop)
    (hin : interval.Contains instant) :
    Within start stop instant := by
  refine ⟨h.1.trans hin.1, fun limit hlimit => ?_⟩
  obtain ⟨until_, huntil, hle⟩ := h.2 limit hlimit
  exact (hin.2 until_ huntil).trans_le hle

section Instant

variable {rows : TimelineRows}

variable {cloudInstanceId : String} {version : ResourceVersion}

theorem mem_versionsOf :
    version ∈ rows.versionsOf cloudInstanceId ↔
      version ∈ rows.versions ∧ version.cloudInstanceId = cloudInstanceId := by
  simp [TimelineRows.versionsOf]

variable {snapshot : PolicySnapshot}

theorem mem_snapshotsOf :
    snapshot ∈ rows.snapshotsOf cloudInstanceId ↔
      snapshot ∈ rows.snapshots ∧ snapshot.cloudInstanceId = cloudInstanceId := by
  simp [TimelineRows.snapshotsOf]

theorem Tiled.version_eq (h : Tiled rows) {other : ResourceVersion}
    (hversion : version ∈ rows.versions) (hother : other ∈ rows.versions)
    (hsame : version.cloudInstanceId = other.cloudInstanceId)
    (hin : Within version.effectiveFrom version.effectiveTo instant)
    (hin' : Within other.effectiveFrom other.effectiveTo instant) : version = other :=
  (h.versions other.cloudInstanceId).eq_of_within (mem_versionsOf.2 ⟨hversion, hsame⟩)
    (mem_versionsOf.2 ⟨hother, rfl⟩) hin hin'

theorem Tiled.snapshot_eq (h : Tiled rows) {other : PolicySnapshot}
    (hsnapshot : snapshot ∈ rows.snapshots) (hother : other ∈ rows.snapshots)
    (hsame : snapshot.cloudInstanceId = other.cloudInstanceId)
    (hin : Within snapshot.effectiveFrom snapshot.effectiveTo instant)
    (hin' : Within other.effectiveFrom other.effectiveTo instant) : snapshot = other :=
  (h.snapshots other.cloudInstanceId).eq_of_within (mem_snapshotsOf.2 ⟨hsnapshot, hsame⟩)
    (mem_snapshotsOf.2 ⟨hother, rfl⟩) hin hin'

theorem snapshot_ext (hvalid : rows.Valid) {other : PolicySnapshot}
    (hsnapshot : snapshot ∈ rows.snapshots) (hother : other ∈ rows.snapshots)
    (hid : snapshot.id = other.id) : snapshot = other :=
  List.inj_on_of_nodup_map hvalid.snapshotIds hsnapshot hother hid

theorem version_ext (hvalid : rows.Valid) {other : ResourceVersion}
    (hversion : version ∈ rows.versions) (hother : other ∈ rows.versions)
    (hid : version.id = other.id) : version = other :=
  List.inj_on_of_nodup_map hvalid.versionIds hversion hother hid

/-- The version of an interval that contains an instant is the one of that instant. -/
theorem Tiled.refers_to (h : Tiled rows) (hinterval : interval ∈ rows.intervals)
    (hversion : version ∈ rows.versions)
    (hsame : version.cloudInstanceId = interval.cloudInstanceId) (hin : interval.Contains instant)
    (hforce : Within version.effectiveFrom version.effectiveTo instant) :
    interval.resourceVersionId = version.id := by
  obtain ⟨own, hown, hid, hinstance, hinside⟩ := h.inVersion interval hinterval
  have heq := h.version_eq hown hversion (hinstance.trans hsame.symm) (hinside.within hin) hforce
  rw [← hid, heq]

/-- An instant lies in one interval of a snapshot at most. -/
theorem Tiled.interval_eq (hvalid : rows.Valid) (h : Tiled rows) {other : UsageInterval}
    (hinterval : interval ∈ rows.intervals) (hother : other ∈ rows.intervals)
    (hsnapshot : interval.billingPolicySnapshotId = other.billingPolicySnapshotId)
    (hin : interval.Contains instant) (hin' : other.Contains instant) : interval = other := by
  obtain ⟨snapshot, hmem, hid, hinstance, -⟩ := h.inSnapshot interval hinterval
  obtain ⟨snapshot', hmem', hid', hinstance', -⟩ := h.inSnapshot other hother
  have heq := snapshot_ext hvalid hmem hmem' (hid.trans (hsnapshot.trans hid'.symm))
  have hsame : interval.cloudInstanceId = other.cloudInstanceId := by
    rw [← hinstance, ← hinstance', heq]
  obtain ⟨version, hversion, hversionId, howner, hinside⟩ := h.inVersion other hother
  refine h.pairs interval hinterval other hother hsnapshot ?_
  rw [← hversionId]
  exact h.refers_to hinterval hversion (howner.trans hsame.symm) hin (hinside.within hin')

end Instant

/-! ## The first interval of a service -/

section Start

variable {rows : TimelineRows}

/-- A start inserts one row into each table. -/
theorem commits_start {input : StartInput} {db db' : Timeline} {result : Option PolicySnapshot}
    (h : Tx.Commits (startInitialUsageBillingTx input) db result db') :
    db' = db ∨ ∃ activation cloud contract timeTerms resources,
      input.activation = some activation ∧
      (db.instances.find? fun row => row.id = input.cloudInstanceId) = some cloud ∧
      activation.contractAt input.contracts input.providerConfirmedAt = .ok contract ∧
      contract.timeTerms = .ok timeTerms ∧ activation.plan.resources = some resources ∧
      db'.toTimelineRows = { db.toTimelineRows with
        snapshots := db.snapshots ++ [activationSnapshot activation contract timeTerms cloud.id
          input.providerConfirmedAt input.newId]
        rates := db.rates ++
          [activationRate activation timeTerms input.providerConfirmedAt input.newId]
        versions := db.versions ++
          [activationVersion activation cloud resources input.providerConfirmedAt input.newId]
        intervals := db.intervals ++
          [activationInterval activation cloud.id input.providerConfirmedAt input.newId] } := by
  simp only [startInitialUsageBillingTx, Tx.commits_bind, Tx.commits_get, Tx.commits_orThrow] at h
  obtain ⟨_, _, ⟨rfl, rfl⟩, cloud, _, ⟨hcloud, rfl⟩, h⟩ := h
  cases hactivation : input.activation with
  | none =>
      simp only [hactivation, Tx.commits_pure] at h
      exact .inl h.2
  | some activation =>
      simp only [hactivation] at h
      split at h
      · exact .inl (Tx.commits_pure.1 h).2
      · simp only [Tx.commits_bind, Tx.commits_throwIf, Tx.commits_orThrow, Tx.commits_ofExcept,
          Timeline.commits_write, Tx.commits_pure] at h
        obtain ⟨_, _, ⟨-, rfl⟩, resources, _, ⟨hresources, rfl⟩, contract, _, ⟨hcontract, rfl⟩,
          _, _, ⟨-, rfl⟩, timeTerms, _, ⟨hterms, rfl⟩, _, _, hwrite, -, rfl⟩ := h
        exact .inr ⟨activation, cloud, contract, timeTerms, resources, rfl, hcloud, hcontract,
          hterms, hresources, hwrite⟩

/-- The key of a row that a unique column admits is new. -/
theorem fresh_of_nodup {α β : Type} {f : α → β} {rows : List α} {new : α}
    (h : ((rows ++ [new]).map f).Nodup) : ∀ row ∈ rows, f row ≠ f new := by
  intro row hrow heq
  rw [List.map_append, List.nodup_append] at h
  exact h.2.2 (f row) (List.mem_map_of_mem hrow) (f new) (by simp) heq

/-- An instance gets an open version only if it has no version. -/
theorem Tiled.no_versions (h : Tiled rows) {new : ResourceVersion}
    (hone : ((rows.versions ++ [new]).filterMap fun row =>
      openFor row.cloudInstanceId row.effectiveTo).Nodup)
    (hopen : new.effectiveTo = none) :
    ∀ row ∈ rows.versions, row.cloudInstanceId ≠ new.cloudInstanceId := by
  intro row hrow hsame
  have hne : rows.versionsOf new.cloudInstanceId ≠ [] :=
    List.ne_nil_of_mem (mem_versionsOf.2 ⟨hrow, hsame⟩)
  obtain ⟨current, hcurrent, hnone⟩ := (h.versions new.cloudInstanceId).exists_open hne
  obtain ⟨hmem, howner⟩ := mem_versionsOf.1 hcurrent
  rw [List.filterMap_append, List.nodup_append] at hone
  refine hone.2.2 new.cloudInstanceId (List.mem_filterMap.2 ⟨current, hmem, ?_⟩)
    new.cloudInstanceId ?_ rfl
  · simp [openFor, hnone, howner]
  · simp [openFor, hopen]

/-- An instance without versions has no snapshots. -/
theorem Tiled.no_snapshots (h : Tiled rows) {cloudInstanceId : String}
    (hnone : ∀ row ∈ rows.versions, row.cloudInstanceId ≠ cloudInstanceId) :
    ∀ row ∈ rows.snapshots, row.cloudInstanceId ≠ cloudInstanceId := by
  rintro row hrow rfl
  obtain ⟨first, hfirst, -⟩ := h.first row hrow
  obtain ⟨hmem, howner⟩ := mem_versionsOf.1 (List.mem_of_mem_head? hfirst)
  exact hnone first hmem howner

/-- Further versions leave the first one where it is. -/
theorem Tiled.first_append (h : Tiled rows) (more : List ResourceVersion)
    {snapshot : PolicySnapshot} (hsnapshot : snapshot ∈ rows.snapshots) :
    ∃ first, ((rows.versions ++ more).filter fun row =>
        row.cloudInstanceId = snapshot.cloudInstanceId).head? = some first ∧
      first.effectiveFrom ≤ snapshot.effectiveFrom := by
  obtain ⟨first, hfirst, hle⟩ := h.first snapshot hsnapshot
  obtain ⟨first', hfirst', hstart⟩ := head?_of_update (f := id) (fun _ => rfl) (fun _ => rfl) more
    hfirst
  rw [List.map_id] at hfirst'
  exact ⟨first', hfirst', hstart.trans_le hle⟩

theorem tiled_start (h : Tiled rows) {activation : ActivationRequest} {cloud : CloudInstance}
    {contract : VerifiedProviderBillingContract} {timeTerms : TimeTerms} {resources : ℕ × ℕ × ℕ}
    {confirmedAt : ℤ} {newId : String} {rates : List RateCardVersion} {rows' : TimelineRows}
    (hrows : rows' = { rows with
      snapshots := rows.snapshots ++
        [activationSnapshot activation contract timeTerms cloud.id confirmedAt newId]
      rates
      versions := rows.versions ++
        [activationVersion activation cloud resources confirmedAt newId]
      intervals := rows.intervals ++
        [activationInterval activation cloud.id confirmedAt newId] })
    (hvalid : rows'.Valid) : Tiled rows' := by
  subst hrows
  have hnone := h.no_versions hvalid.oneCurrentVersion rfl
  have hnosnapshots := h.no_snapshots hnone
  have hsnapshotIds := fresh_of_nodup hvalid.snapshotIds
  constructor
  case versions => exact contiguous_open_first h.versions hnone rfl
  case snapshots => exact contiguous_open_first h.snapshots hnosnapshots rfl
  case first =>
      intro snapshot hsnapshot
      rcases List.mem_append.1 hsnapshot with hsnapshot | hsnapshot
      · exact h.first_append _ hsnapshot
      · obtain rfl := List.mem_singleton.1 hsnapshot
        refine ⟨activationVersion activation cloud resources confirmedAt newId, ?_,
          le_refl confirmedAt⟩
        show ((rows.versions ++ [_]).filter fun row : ResourceVersion =>
          row.cloudInstanceId = cloud.id).head? = _
        have hempty : (rows.versions.filter fun row => row.cloudInstanceId = cloud.id) = [] :=
          List.filter_eq_nil_iff.2 fun row hrow hsame => hnone row hrow (of_decide_eq_true hsame)
        rw [List.filter_append, hempty, List.filter_cons_of_pos (by simp [activationVersion])]
        rfl
  case inSnapshot =>
      intro interval hinterval
      rcases List.mem_append.1 hinterval with hinterval | hinterval
      · obtain ⟨snapshot, hmem, hinside⟩ := h.inSnapshot interval hinterval
        exact ⟨snapshot, List.mem_append_left _ hmem, hinside⟩
      · obtain rfl := List.mem_singleton.1 hinterval
        exact ⟨_, List.mem_append_right _ (List.mem_singleton_self _), rfl, rfl, le_rfl, by
          simp [activationSnapshot]⟩
  case inVersion =>
      intro interval hinterval
      rcases List.mem_append.1 hinterval with hinterval | hinterval
      · obtain ⟨version, hmem, hinside⟩ := h.inVersion interval hinterval
        exact ⟨version, List.mem_append_left _ hmem, hinside⟩
      · obtain rfl := List.mem_singleton.1 hinterval
        exact ⟨_, List.mem_append_right _ (List.mem_singleton_self _), rfl, rfl, le_rfl, by
          simp [activationVersion]⟩
  case pairs =>
      -- no interval refers to the new snapshot yet
      have hfresh : ∀ interval ∈ rows.intervals, interval.billingPolicySnapshotId ≠ newId := by
        intro interval hinterval heq
        obtain ⟨snapshot, hmem, hid, -⟩ := h.inSnapshot interval hinterval
        exact hsnapshotIds snapshot hmem (hid.trans heq)
      intro interval hinterval other hother hsnapshot hversion
      rcases List.mem_append.1 hinterval with hinterval | hinterval <;>
        rcases List.mem_append.1 hother with hother | hother
      · exact h.pairs interval hinterval other hother hsnapshot hversion
      · obtain rfl := List.mem_singleton.1 hother
        exact absurd hsnapshot (hfresh interval hinterval)
      · obtain rfl := List.mem_singleton.1 hinterval
        exact absurd hsnapshot.symm (hfresh other hother)
      · rw [List.mem_singleton.1 hinterval, List.mem_singleton.1 hother]
  case cover =>
      intro snapshot hsnapshot instant hin
      rcases List.mem_append.1 hsnapshot with hsnapshot | hsnapshot
      · obtain ⟨interval, hmem, hcovers⟩ := h.cover snapshot hsnapshot instant hin
        exact ⟨interval, List.mem_append_left _ hmem, hcovers⟩
      · obtain rfl := List.mem_singleton.1 hsnapshot
        exact ⟨_, List.mem_append_right _ (List.mem_singleton_self _), rfl, hin.1, by
          simp [activationInterval]⟩
  case complete =>
      intro interval hinterval
      rcases List.mem_append.1 hinterval with hinterval | hinterval
      · exact h.complete interval hinterval
      · obtain rfl := List.mem_singleton.1 hinterval
        exact .inl rfl

end Start

/-! ## A change of cadence -/

section Cadence

variable {rows : TimelineRows}

theorem mem_of_find? {α : Type} {p : α → Bool} {rows : List α} {row : α}
    (h : rows.find? p = some row) : row ∈ rows ∧ p row = true :=
  ⟨List.mem_of_find?_eq_some h, List.find?_some h⟩

/-- A change of cadence ends the current snapshot and the open interval, and starts new ones. -/
theorem commits_cadence {input : CadenceInput} {db db' : Timeline} {result : PolicySnapshot}
    (h : Tx.Commits (scheduleServiceBillingCadenceChange input) db result db') :
    ∃ current ∈ db.snapshots, ∃ openUsage ∈ db.intervals, ∃ minimumCreditRial,
      current.cloudInstanceId = input.cloudInstanceId ∧ current.effectiveTo = none ∧
      openUsage.cloudInstanceId = input.cloudInstanceId ∧ openUsage.endedAt = none ∧
      (input.effectiveFrom = (periodContainingUtc current.cadence input.effectiveFrom).periodStart ∧
        (periodContainingUtc current.cadence input.now).periodEnd ≤ input.effectiveFrom) ∧
      db'.toTimelineRows = { db.toTimelineRows with
        snapshots := db.snapshots.map (endSnapshot current.id input.effectiveFrom) ++
          [input.snapshot current minimumCreditRial]
        intervals := db.intervals.map (endInterval openUsage.id input.effectiveFrom) ++
          [input.interval openUsage] } := by
  simp only [scheduleServiceBillingCadenceChange, Tx.commits_bind, Tx.commits_get,
    Tx.commits_orThrow, Tx.commits_throwIf, Tx.commits_ofExcept, Timeline.commits_write,
    Tx.commits_pure] at h
  obtain ⟨_, _, ⟨rfl, rfl⟩, cloud, _, ⟨hcloud, rfl⟩, current, _, ⟨hcurrent, rfl⟩, openUsage, _,
    ⟨hopen, rfl⟩, _, _, ⟨-, rfl⟩, _, _, ⟨hboundary, rfl⟩, _, _, ⟨-, rfl⟩, _, _, ⟨-, rfl⟩,
    minimumCreditRial, _, ⟨-, rfl⟩, _, _, ⟨-, rfl⟩, _, _, ⟨-, rfl⟩, _, _, hwrite, -, rfl⟩ := h
  obtain ⟨-, hid⟩ := mem_of_find? hcloud
  have hid : cloud.id = input.cloudInstanceId := of_decide_eq_true hid
  obtain ⟨hmem, hkeep⟩ := mem_of_find? hcurrent
  obtain ⟨howner, hcurrentOpen⟩ := of_decide_eq_true hkeep
  obtain ⟨hmem', hkeep'⟩ := mem_of_find? hopen
  obtain ⟨howner', husageOpen⟩ := of_decide_eq_true hkeep'
  obtain ⟨hstart, hlater⟩ := not_or.1 hboundary
  exact ⟨current, hmem, openUsage, hmem', minimumCreditRial, howner.trans hid, hcurrentOpen,
    howner'.trans hid, husageOpen, ⟨not_not.1 hstart, not_lt.1 hlater⟩, hwrite⟩

@[simp] theorem endInterval_keeps (intervalId : String) (instant : ℤ) (row : UsageInterval) :
    (endInterval intervalId instant row).id = row.id ∧
      (endInterval intervalId instant row).cloudInstanceId = row.cloudInstanceId ∧
      (endInterval intervalId instant row).resourceVersionId = row.resourceVersionId ∧
      (endInterval intervalId instant row).billingPolicySnapshotId = row.billingPolicySnapshotId ∧
      (endInterval intervalId instant row).startedAt = row.startedAt := by
  unfold endInterval
  split_ifs <;> exact ⟨rfl, rfl, rfl, rfl, rfl⟩

theorem endSnapshot_keeps (snapshotId : String) (instant : ℤ) (row : PolicySnapshot) :
    (endSnapshot snapshotId instant row).id = row.id ∧
      (endSnapshot snapshotId instant row).cloudInstanceId = row.cloudInstanceId ∧
      (endSnapshot snapshotId instant row).effectiveFrom = row.effectiveFrom := by
  unfold endSnapshot
  split_ifs <;> exact ⟨rfl, rfl, rfl⟩

variable {openUsage : UsageInterval}

/-- The open interval of an instance belongs to its current snapshot. -/
theorem Tiled.open_of_current (hvalid : rows.Valid) (h : Tiled rows) {current : PolicySnapshot}
    (hcurrent : current ∈ rows.snapshots) (hopen : current.effectiveTo = none)
    (husage : openUsage ∈ rows.intervals)
    (hsame : openUsage.cloudInstanceId = current.cloudInstanceId)
    (husageOpen : openUsage.endedAt = none) :
    openUsage.billingPolicySnapshotId = current.id := by
  obtain ⟨own, hown, hid, howner, hinside⟩ := h.inSnapshot openUsage husage
  have hownOpen : own.effectiveTo = none := by
    cases hend : own.effectiveTo with
    | none => rfl
    | some limit =>
        obtain ⟨until_, huntil, -⟩ := hinside.2 limit hend
        rw [husageOpen] at huntil
        cases huntil
  have hkey (row : PolicySnapshot) (hrow : row.effectiveTo = none)
      (howner : row.cloudInstanceId = current.cloudInstanceId) :
      openFor row.cloudInstanceId row.effectiveTo = some current.cloudInstanceId := by
    simp [openFor, hrow, howner]
  have heq := IndexedTable.inj_on_of_nodup_filterMap hvalid.oneCurrentSnapshot hown hcurrent
    (hkey own hownOpen (howner.trans hsame)) (hkey current hopen rfl)
  rw [← hid, heq]

theorem tiled_cadence (hvalid : rows.Valid) (h : Tiled rows) {input : CadenceInput}
    {current : PolicySnapshot} {minimumCreditRial : ℤ} (hcurrent : current ∈ rows.snapshots)
    (howner : current.cloudInstanceId = input.cloudInstanceId)
    (hopen : current.effectiveTo = none) (husage : openUsage ∈ rows.intervals)
    (husageOwner : openUsage.cloudInstanceId = input.cloudInstanceId)
    (husageOpen : openUsage.endedAt = none) {rows' : TimelineRows} (hrows : rows' = { rows with
      snapshots := rows.snapshots.map (endSnapshot current.id input.effectiveFrom) ++
        [input.snapshot current minimumCreditRial]
      intervals := rows.intervals.map (endInterval openUsage.id input.effectiveFrom) ++
        [input.interval openUsage] }) (hvalid' : rows'.Valid) : Tiled rows' := by
  subst hrows
  set instant := input.effectiveFrom with hinstant
  have husageSnapshot := h.open_of_current hvalid hcurrent hopen husage
    (husageOwner.trans howner.symm) husageOpen
  -- the checks on the ranges place the boundary after both starts
  have hended : endSnapshot current.id instant current =
      { current with effectiveTo := some instant } := if_pos rfl
  have hcurrentStart : current.effectiveFrom < instant := by
    have hrange := hvalid'.snapshotRanges (endSnapshot current.id instant current)
      (List.mem_append_left _ (List.mem_map_of_mem hcurrent))
    rw [hended] at hrange
    exact hrange instant rfl
  have husageEnded : endInterval openUsage.id instant openUsage =
      { openUsage with status := .complete, endedAt := some instant } := if_pos rfl
  have husageStart : openUsage.startedAt < instant := by
    have hrange := hvalid'.intervalRanges (endInterval openUsage.id instant openUsage)
      (List.mem_append_left _ (List.mem_map_of_mem husage))
    rw [husageEnded] at hrange
    exact hrange instant rfl
  have hotherSnapshot : ∀ row ∈ rows.snapshots, row ≠ current →
      endSnapshot current.id instant row = row :=
    fun row hrow hne => if_neg fun hid => hne (snapshot_ext hvalid hrow hcurrent hid)
  have hotherInterval : ∀ row ∈ rows.intervals, row ≠ openUsage →
      endInterval openUsage.id instant row = row :=
    fun row hrow hne => if_neg fun hid =>
      hne (List.inj_on_of_nodup_map hvalid.intervalIds hrow husage hid)
  have hsnapshotIds : ∀ row ∈ rows.snapshots, row.id ≠ input.newId := by
    intro row hrow heq
    refine fresh_of_nodup hvalid'.snapshotIds (endSnapshot current.id instant row)
      (List.mem_map_of_mem hrow) ?_
    rw [(endSnapshot_keeps current.id instant row).1, heq]
    rfl
  have hnotNew : ∀ row ∈ rows.intervals, row.billingPolicySnapshotId ≠ input.newId := by
    intro row hrow heq
    obtain ⟨snapshot, hmem, hid, -⟩ := h.inSnapshot row hrow
    exact hsnapshotIds snapshot hmem (hid.trans heq)
  -- every other interval of the current snapshot ends before the boundary
  have hbefore : ∀ row ∈ rows.intervals, row.billingPolicySnapshotId = current.id →
      row ≠ openUsage → ∃ until_ ∈ row.endedAt, until_ ≤ instant := by
    intro row hrow hsnapshot hne
    by_contra hlate
    push Not at hlate
    have hstart : row.Contains (max row.startedAt instant) := by
      refine ⟨le_max_left _ _, fun until_ huntil => max_lt ?_ (hlate until_ huntil)⟩
      exact hvalid.intervalRanges row hrow until_ huntil
    refine hne (h.interval_eq hvalid hrow husage (hsnapshot.trans husageSnapshot.symm) hstart ?_)
    exact ⟨husageStart.le.trans (le_max_right _ _), by simp [husageOpen]⟩
  constructor
  case versions => exact h.versions
  case snapshots =>
      intro cloudInstanceId
      refine contiguous_end_current h.snapshots (List.Nodup.of_map _ hvalid.snapshotIds) hcurrent
        hopen hotherSnapshot ?_ ?_ ?_ hcurrentStart howner.symm rfl cloudInstanceId
      all_goals rw [hended]
      rfl
  case first =>
      intro snapshot hsnapshot
      rcases List.mem_append.1 hsnapshot with hsnapshot | hsnapshot
      · obtain ⟨row, hrow, rfl⟩ := List.mem_map.1 hsnapshot
        obtain ⟨-, hinstance, hfrom⟩ := endSnapshot_keeps current.id instant row
        rw [hinstance, hfrom]
        exact h.first row hrow
      · obtain rfl := List.mem_singleton.1 hsnapshot
        obtain ⟨first, hfirst, hle⟩ := h.first current hcurrent
        rw [howner] at hfirst
        exact ⟨first, hfirst, hle.trans hcurrentStart.le⟩
  case inSnapshot =>
      intro interval hinterval
      rcases List.mem_append.1 hinterval with hinterval | hinterval
      · obtain ⟨row, hrow, rfl⟩ := List.mem_map.1 hinterval
        obtain ⟨snapshot, hmem, hid, hinstance, hinside⟩ := h.inSnapshot row hrow
        obtain ⟨-, hrowInstance, -, hrowSnapshot, hrowStart⟩ :=
          endInterval_keeps openUsage.id instant row
        obtain ⟨hkeepId, hkeepInstance, hkeepFrom⟩ := endSnapshot_keeps current.id instant snapshot
        refine ⟨endSnapshot current.id instant snapshot,
          List.mem_append_left _ (List.mem_map_of_mem hmem), by rw [hkeepId, hrowSnapshot, hid],
          by rw [hkeepInstance, hrowInstance, hinstance], ?_, ?_⟩
        · rw [hkeepFrom, hrowStart]
          exact hinside.1
        · intro limit hlimit
          by_cases hmine : snapshot = current
          · subst hmine
            obtain rfl : instant = limit := by simpa [hended] using hlimit
            by_cases hrowUsage : row = openUsage
            · subst hrowUsage
              exact ⟨instant, by rw [husageEnded]; rfl, le_rfl⟩
            · rw [hotherInterval row hrow hrowUsage]
              exact hbefore row hrow hid.symm hrowUsage
          · rw [hotherSnapshot snapshot hmem hmine] at hlimit
            have hrowUsage : row ≠ openUsage := by
              rintro rfl
              exact hmine (snapshot_ext hvalid hmem hcurrent (hid.trans husageSnapshot))
            rw [hotherInterval row hrow hrowUsage]
            exact hinside.2 limit hlimit
      · obtain rfl := List.mem_singleton.1 hinterval
        exact ⟨_, List.mem_append_right _ (List.mem_singleton_self _), rfl, rfl, le_rfl, by
          simp [CadenceInput.snapshot]⟩
  case inVersion =>
      intro interval hinterval
      rcases List.mem_append.1 hinterval with hinterval | hinterval
      · obtain ⟨row, hrow, rfl⟩ := List.mem_map.1 hinterval
        obtain ⟨version, hmem, hid, hinstance, hinside⟩ := h.inVersion row hrow
        obtain ⟨-, hrowInstance, hrowVersion, -, hrowStart⟩ :=
          endInterval_keeps openUsage.id instant row
        refine ⟨version, hmem, by rw [hrowVersion, hid], by rw [hrowInstance, hinstance], ?_, ?_⟩
        · rw [hrowStart]
          exact hinside.1
        · intro limit hlimit
          by_cases hrowUsage : row = openUsage
          · subst hrowUsage
            obtain ⟨until_, huntil, -⟩ := hinside.2 limit hlimit
            rw [husageOpen] at huntil
            cases huntil
          · rw [hotherInterval row hrow hrowUsage]
            exact hinside.2 limit hlimit
      · obtain rfl := List.mem_singleton.1 hinterval
        obtain ⟨version, hmem, hid, hinstance, hinside⟩ := h.inVersion openUsage husage
        refine ⟨version, hmem, hid, hinstance.trans husageOwner, hinside.1.trans husageStart.le, ?_⟩
        intro limit hlimit
        obtain ⟨until_, huntil, -⟩ := hinside.2 limit hlimit
        rw [husageOpen] at huntil
        cases huntil
  case pairs =>
      intro interval hinterval other hother hsnapshot hversion
      rcases List.mem_append.1 hinterval with hinterval | hinterval <;>
        rcases List.mem_append.1 hother with hother | hother
      · obtain ⟨row, hrow, rfl⟩ := List.mem_map.1 hinterval
        obtain ⟨row', hrow', rfl⟩ := List.mem_map.1 hother
        simp only [endInterval_keeps] at hsnapshot hversion
        rw [h.pairs row hrow row' hrow' hsnapshot hversion]
      · obtain ⟨row, hrow, rfl⟩ := List.mem_map.1 hinterval
        obtain rfl := List.mem_singleton.1 hother
        simp only [endInterval_keeps] at hsnapshot
        exact absurd hsnapshot (hnotNew row hrow)
      · obtain ⟨row, hrow, rfl⟩ := List.mem_map.1 hother
        obtain rfl := List.mem_singleton.1 hinterval
        simp only [endInterval_keeps] at hsnapshot
        exact absurd hsnapshot.symm (hnotNew row hrow)
      · rw [List.mem_singleton.1 hinterval, List.mem_singleton.1 hother]
  case cover =>
      intro snapshot hsnapshot time hin
      rcases List.mem_append.1 hsnapshot with hsnapshot | hsnapshot
      · obtain ⟨row, hrow, rfl⟩ := List.mem_map.1 hsnapshot
        obtain ⟨hkeepId, -, hkeepFrom⟩ := endSnapshot_keeps current.id instant row
        have hearlier : Within row.effectiveFrom row.effectiveTo time := by
          refine ⟨hkeepFrom ▸ hin.1, fun limit hlimit => ?_⟩
          have hne : row ≠ current := by
            rintro rfl
            rw [hopen] at hlimit
            cases hlimit
          exact hin.2 limit (by rwa [hotherSnapshot row hrow hne])
        obtain ⟨interval, hmem, hof, hcontains⟩ := h.cover row hrow time hearlier
        refine ⟨endInterval openUsage.id instant interval,
          List.mem_append_left _ (List.mem_map_of_mem hmem), by
            rw [(endInterval_keeps _ _ _).2.2.2.1, hkeepId, hof], ?_⟩
        by_cases hmine : interval = openUsage
        · subst hmine
          -- the instant lies in the snapshot that ends at the boundary
          have hrow' : row = current :=
            snapshot_ext hvalid hrow hcurrent (hof.symm.trans husageSnapshot)
          subst hrow'
          have hlt : time < instant := hin.2 instant (by rw [hended]; rfl)
          rw [husageEnded]
          exact ⟨hcontains.1, by simpa using hlt⟩
        · rw [hotherInterval interval hmem hmine]
          exact hcontains
      · obtain rfl := List.mem_singleton.1 hsnapshot
        exact ⟨_, List.mem_append_right _ (List.mem_singleton_self _), rfl, hin.1, by
          simp [CadenceInput.interval]⟩
  case complete =>
      intro interval hinterval
      rcases List.mem_append.1 hinterval with hinterval | hinterval
      · obtain ⟨row, hrow, rfl⟩ := List.mem_map.1 hinterval
        by_cases hmine : row = openUsage
        · subst hmine
          rw [husageEnded]
          exact .inr rfl
        · rw [hotherInterval row hrow hmine]
          exact h.complete row hrow
      · obtain rfl := List.mem_singleton.1 hinterval
        exact .inl rfl

end Cadence

/-! ## A confirmation of new resources -/

section Record

variable {rows : TimelineRows}

/-- The snapshot under which a confirmation still needs an interval. -/
def TimelineRows.missingInterval (rows : TimelineRows) (cloudInstanceId versionId : String)
    (snapshot : Option PolicySnapshot) (instant : ℤ) : Option PolicySnapshot :=
  snapshot.filter fun snapshot =>
    (rows.scheduledInterval cloudInstanceId versionId snapshot instant).isNone

/-- A confirmation replaces the version in force and adds an interval where one is missing. -/
theorem commits_record {input : RecordInput} {db db' : Timeline} {result : ResourceVersion}
    (h : Tx.Commits (recordProviderConfirmedResourceVersion input) db result db') :
    db' = db ∨ ∃ (cloud : CloudInstance) (mid : Timeline), cloud.id = input.cloudInstanceId ∧
      (db.versions.find? fun row => row.idempotencyKey = input.idempotencyKey) = none ∧
      (∀ current ∈ db.currentVersion cloud.id,
        current.effectiveFrom < input.providerConfirmedAt) ∧
      mid.toTimelineRows = (match db.currentVersion cloud.id with
        | some current =>
            db.replaceVersion current (input.version cloud) input.providerConfirmedAt
        | none => { db.toTimelineRows with versions := db.versions ++ [input.version cloud] }) ∧
      db'.toTimelineRows = { mid.toTimelineRows with
        intervals := mid.intervals ++ ((mid.missingInterval cloud.id input.newId
          (db.snapshotAt cloud.id input.providerConfirmedAt)
          input.providerConfirmedAt).map input.interval).toList
        instances := mid.instances.map (confirmInstance cloud.id input.resources.state) } := by
  simp only [recordProviderConfirmedResourceVersion, Tx.commits_bind, Tx.commits_throwIf,
    Tx.commits_get] at h
  obtain ⟨_, _, ⟨-, rfl⟩, _, _, ⟨-, rfl⟩, _, _, ⟨rfl, rfl⟩, h⟩ := h
  split at h
  · exact .inl (Tx.commits_pure.1 h).2
  · rename_i hfirst
    simp only [Tx.commits_bind, Tx.commits_throwIf, Tx.commits_get, Tx.commits_orThrow,
      Timeline.commits_write, Tx.commits_pure] at h
    obtain ⟨cloud, _, ⟨hcloud, rfl⟩, _, _, ⟨-, rfl⟩, _, _, ⟨hmonotone, rfl⟩, _, _, ⟨-, rfl⟩, _, _,
      ⟨-, rfl⟩, _, _, hmid, _, mid, ⟨rfl, rfl⟩, _, _, hwrite, -, rfl⟩ := h
    have hid : cloud.id = input.cloudInstanceId := of_decide_eq_true (mem_of_find? hcloud).2
    refine .inr ⟨cloud, mid, hid, hfirst, fun current hcurrent => ?_, hmid, hwrite⟩
    rw [hcurrent] at hmonotone
    simpa using hmonotone

/-- What a confirmation makes of an interval. -/
def recut (current version : ResourceVersion) (instant : ℤ) (row : UsageInterval) : UsageInterval :=
  moveInterval version.cloudInstanceId current.id version.id instant
    (cutInterval version.cloudInstanceId current.id instant row)

/-- An interval of another version stays, one of the current version that is over stays, one that
contains the instant is cut there, and a later one moves to the new version. -/
def RecutCases (current version : ResourceVersion) (instant : ℤ) (row : UsageInterval) : Prop :=
  (row.resourceVersionId ≠ current.id ∧ recut current version instant row = row) ∨
  (row.resourceVersionId = current.id ∧ (∃ until_ ∈ row.endedAt, until_ ≤ instant) ∧
    row.startedAt < instant ∧ recut current version instant row = row) ∨
  (row.resourceVersionId = current.id ∧ row.Contains instant ∧ row.startedAt < instant ∧
    recut current version instant row = { row with
      status := .complete, endedAt := some instant }) ∨
  (row.resourceVersionId = current.id ∧ instant ≤ row.startedAt ∧
    recut current version instant row = { row with resourceVersionId := version.id })

variable {row : UsageInterval}

theorem recut_cases (current version : ResourceVersion) (instant : ℤ)
    (howner : row.resourceVersionId = current.id →
      row.cloudInstanceId = version.cloudInstanceId) :
    RecutCases current version instant row := by
  by_cases hversion : row.resourceVersionId = current.id
  · have hinstance := howner hversion
    rcases lt_or_ge row.startedAt instant with hbefore | hafter
    · by_cases hlate : row.endedAt.all (instant < ·) = true
      · refine .inr (.inr (.inl ⟨hversion, ⟨hbefore.le, fun until_ huntil => ?_⟩, hbefore, ?_⟩))
        · rw [huntil] at hlate
          simpa using hlate
        · simp [recut, moveInterval, cutInterval, hversion, hinstance, hbefore, hlate]
      · refine .inr (.inl ⟨hversion, ?_, hbefore, ?_⟩)
        · cases hend : row.endedAt with
          | none => simp [hend] at hlate
          | some until_ => exact ⟨until_, rfl, by simpa [hend] using hlate⟩
        · simp [recut, moveInterval, cutInterval, hlate, hbefore]
    · refine .inr (.inr (.inr ⟨hversion, hafter, ?_⟩))
      simp [recut, moveInterval, cutInterval, hversion, hinstance, hafter, not_lt.2 hafter]
  · exact .inl ⟨hversion, by simp [recut, moveInterval, cutInterval, hversion]⟩

theorem recut_keeps (current version : ResourceVersion) (instant : ℤ) (row : UsageInterval) :
    (recut current version instant row).cloudInstanceId = row.cloudInstanceId ∧
      (recut current version instant row).billingPolicySnapshotId = row.billingPolicySnapshotId ∧
      (recut current version instant row).startedAt = row.startedAt := by
  unfold recut moveInterval cutInterval
  split_ifs <;> exact ⟨rfl, rfl, rfl⟩

theorem inRange_iff {start : ℤ} {stop : Option ℤ} :
    inRange start stop instant = true ↔ Within start stop instant := by
  cases stop <;> simp [inRange, Within]

variable {snapshot : PolicySnapshot} {cloudInstanceId : String}

theorem snapshotAt_eq_some (h : rows.snapshotAt cloudInstanceId instant = some snapshot) :
    snapshot ∈ rows.snapshots ∧ snapshot.cloudInstanceId = cloudInstanceId ∧
      Within snapshot.effectiveFrom snapshot.effectiveTo instant := by
  obtain ⟨hmem, hkeep⟩ := mem_of_find? h
  obtain ⟨howner, hin⟩ := of_decide_eq_true hkeep
  exact ⟨hmem, howner, inRange_iff.1 hin⟩

theorem Tiled.snapshotAt_eq (h : Tiled rows) (hsnapshot : snapshot ∈ rows.snapshots)
    (hin : Within snapshot.effectiveFrom snapshot.effectiveTo instant) :
    rows.snapshotAt snapshot.cloudInstanceId instant = some snapshot := by
  cases hfind : rows.snapshotAt snapshot.cloudInstanceId instant with
  | none =>
      have hnone := List.find?_eq_none.1 hfind snapshot hsnapshot
      simp [inRange_iff.2 hin] at hnone
  | some found =>
      obtain ⟨hmem, howner, hfound⟩ := snapshotAt_eq_some hfind
      rw [h.snapshot_eq hmem hsnapshot howner hfound hin]

/-- An interval is scheduled where one of the version and the snapshot contains the instant. -/
theorem scheduledInterval_isSome {versionId : String} :
    (rows.scheduledInterval cloudInstanceId versionId snapshot instant).isSome =
        true ↔
      ∃ row ∈ rows.intervals, row.cloudInstanceId = cloudInstanceId ∧
        row.resourceVersionId = versionId ∧ row.billingPolicySnapshotId = snapshot.id ∧
        row.Contains instant := by
  simp only [TimelineRows.scheduledInterval, List.find?_isSome, decide_eq_true_eq, inRange_iff,
    UsageInterval.Contains]

/-- The current version of an instance. -/
theorem currentVersion_eq_some {version : ResourceVersion}
    (h : rows.currentVersion cloudInstanceId = some version) :
    version ∈ rows.versions ∧ version.cloudInstanceId = cloudInstanceId ∧
      version.effectiveTo = none := by
  obtain ⟨hmem, hkeep⟩ := mem_of_find? h
  exact ⟨hmem, of_decide_eq_true hkeep⟩

/-- The first version of an instance, which has no policy snapshot. -/
theorem tiled_record_first (h : Tiled rows) (hnone : rows.currentVersion cloudInstanceId = none)
    {version : ResourceVersion} (howner : version.cloudInstanceId = cloudInstanceId)
    (hopen : version.effectiveTo = none) (instances : List CloudInstance) :
    (∀ instant, rows.snapshotAt cloudInstanceId instant = none) ∧
      Tiled { rows with versions := rows.versions ++ [version], instances } := by
  have hnoversions : ∀ row ∈ rows.versions, row.cloudInstanceId ≠ version.cloudInstanceId := by
    intro row hrow hsame
    have hne : rows.versionsOf cloudInstanceId ≠ [] :=
      List.ne_nil_of_mem (mem_versionsOf.2 ⟨hrow, hsame.trans howner⟩)
    obtain ⟨current, hcurrent, hcurrentOpen⟩ := (h.versions cloudInstanceId).exists_open hne
    obtain ⟨hmem, hinstance⟩ := mem_versionsOf.1 hcurrent
    have := List.find?_eq_none.1 hnone current hmem
    simp [hinstance, hcurrentOpen] at this
  have hnosnapshots := h.no_snapshots hnoversions
  constructor
  · intro instant
    refine List.find?_eq_none.2 fun row hrow hkeep => ?_
    exact hnosnapshots row hrow ((of_decide_eq_true hkeep).1.trans howner.symm)
  · constructor
    case versions => exact contiguous_open_first h.versions hnoversions hopen
    case snapshots => exact h.snapshots
    case first => exact fun snapshot hsnapshot => h.first_append _ hsnapshot
    case inSnapshot => exact h.inSnapshot
    case inVersion =>
        intro interval hinterval
        obtain ⟨own, hmem, hinside⟩ := h.inVersion interval hinterval
        exact ⟨own, List.mem_append_left _ hmem, hinside⟩
    case pairs => exact h.pairs
    case cover => exact h.cover
    case complete => exact h.complete

theorem endVersion_keeps (versionId : String) (instant : ℤ) (row : ResourceVersion) :
    (endVersion versionId instant row).id = row.id ∧
      (endVersion versionId instant row).cloudInstanceId = row.cloudInstanceId ∧
      (endVersion versionId instant row).effectiveFrom = row.effectiveFrom := by
  unfold endVersion
  split_ifs <;> exact ⟨rfl, rfl, rfl⟩

/-- The snapshot of the confirmation, when no moved interval contains its instant. -/
def Missing (input : RecordInput) (cloud : CloudInstance) (current : ResourceVersion)
    (rows : TimelineRows) (snapshot : PolicySnapshot) : Prop :=
  rows.snapshotAt cloud.id input.providerConfirmedAt = some snapshot ∧
    ∀ row ∈ rows.intervals,
      let moved := recut current (input.version cloud) input.providerConfirmedAt row
      moved.cloudInstanceId = cloud.id → moved.resourceVersionId = input.newId →
        moved.billingPolicySnapshotId = snapshot.id → ¬ moved.Contains input.providerConfirmedAt

/-- What a confirmation does to an instance that has a version in force. -/
structure Replaces (input : RecordInput) (cloud : CloudInstance) (current : ResourceVersion)
    (rows rows' : TimelineRows) : Prop where
  instanceId : cloud.id = input.cloudInstanceId
  mem : current ∈ rows.versions
  owner : current.cloudInstanceId = cloud.id
  isOpen : current.effectiveTo = none
  later : current.effectiveFrom < input.providerConfirmedAt
  snapshots : rows'.snapshots = rows.snapshots
  versions : rows'.versions = rows.versions.map (endVersion current.id input.providerConfirmedAt) ++
    [input.version cloud]
  intervals : ∀ interval, interval ∈ rows'.intervals ↔
    (∃ row ∈ rows.intervals,
      recut current (input.version cloud) input.providerConfirmedAt row = interval) ∨
    ∃ snapshot, Missing input cloud current rows snapshot ∧ input.interval snapshot = interval

namespace Replaces

variable {rows' : TimelineRows} {input : RecordInput} {cloud : CloudInstance}
  {current : ResourceVersion}

theorem version_fresh (hr : Replaces input cloud current rows rows') (hvalid' : rows'.Valid) :
    ∀ row ∈ rows.versions, row.id ≠ input.newId := by
  intro row hrow heq
  have hids := hvalid'.versionIds
  rw [hr.versions] at hids
  refine fresh_of_nodup hids (endVersion current.id input.providerConfirmedAt row)
    (List.mem_map_of_mem hrow) ?_
  rw [(endVersion_keeps _ _ row).1, heq]
  rfl

theorem ended_current : endVersion current.id input.providerConfirmedAt current =
    { current with effectiveTo := some input.providerConfirmedAt } := if_pos rfl

theorem other_version (hr : Replaces input cloud current rows rows') (hvalid : rows.Valid) :
    ∀ row ∈ rows.versions, row ≠ current →
      endVersion current.id input.providerConfirmedAt row = row :=
  fun _ hrow hne => if_neg fun hid => hne (version_ext hvalid hrow hr.mem hid)

/-- The current version is in force from its start on. -/
theorem in_force (hr : Replaces input cloud current rows rows')
    (h : current.effectiveFrom ≤ instant) :
    Within current.effectiveFrom current.effectiveTo instant := ⟨h, by simp [hr.isOpen]⟩

/-- The intervals of the current version belong to the instance. -/
theorem owner_of (hr : Replaces input cloud current rows rows') (hvalid : rows.Valid)
    (h : Tiled rows) (hrow : row ∈ rows.intervals) (hversion : row.resourceVersionId = current.id) :
    row.cloudInstanceId = cloud.id := by
  obtain ⟨version, hmem, hid, hinstance, -⟩ := h.inVersion row hrow
  rw [← hinstance, version_ext hvalid hmem hr.mem (hid.trans hversion), hr.owner]

theorem cases_of (hr : Replaces input cloud current rows rows') (hvalid : rows.Valid)
    (h : Tiled rows) (hrow : row ∈ rows.intervals) :
    RecutCases current (input.version cloud) input.providerConfirmedAt row :=
  recut_cases current (input.version cloud) input.providerConfirmedAt (hr.owner_of hvalid h hrow)

/-- An interval of the instance that contains a later instant has the current version. -/
theorem refers (hr : Replaces input cloud current rows rows') (h : Tiled rows)
    (hrow : row ∈ rows.intervals) (hinstance : row.cloudInstanceId = cloud.id)
    (hin : row.Contains instant) (hle : input.providerConfirmedAt ≤ instant) :
    row.resourceVersionId = current.id :=
  h.refers_to hrow hr.mem (hr.owner.trans hinstance.symm) hin
    (hr.in_force (hr.later.le.trans hle))

/-- The interval of a snapshot at the confirmation has the current version. -/
theorem interval_at (hr : Replaces input cloud current rows rows') (h : Tiled rows)
    (hsnapshot : rows.snapshotAt cloud.id input.providerConfirmedAt = some snapshot)
    (hvalid : rows.Valid) : ∃ row ∈ rows.intervals,
      row.billingPolicySnapshotId = snapshot.id ∧ row.Contains input.providerConfirmedAt ∧
      row.resourceVersionId = current.id := by
  obtain ⟨hmem, howner, hin⟩ := snapshotAt_eq_some hsnapshot
  obtain ⟨row, hrow, hof, hcontains⟩ := h.cover snapshot hmem _ hin
  obtain ⟨own, hown, hid, hinstance, -⟩ := h.inSnapshot row hrow
  have hsame : row.cloudInstanceId = cloud.id := by
    rw [← hinstance, snapshot_ext hvalid hown hmem (hid.trans hof), howner]
  exact ⟨row, hrow, hof, hcontains, hr.refers h hrow hsame hcontains le_rfl⟩

/-- Where a snapshot has a moved interval, that interval contains the confirmation. -/
theorem not_missing_of_moved (hr : Replaces input cloud current rows rows') (hvalid : rows.Valid)
    (h : Tiled rows) (hrow : row ∈ rows.intervals)
    (hof : row.billingPolicySnapshotId = snapshot.id)
    (hversion : row.resourceVersionId = current.id)
    (hafter : input.providerConfirmedAt ≤ row.startedAt) :
    ¬ Missing input cloud current rows snapshot := by
  rintro ⟨hsnapshot, hnone⟩
  obtain ⟨found, hfound, hfoundOf, hcontains, hfoundVersion⟩ := hr.interval_at h hsnapshot hvalid
  obtain rfl := h.pairs row hrow found hfound (hof.trans hfoundOf.symm)
    (hversion.trans hfoundVersion.symm)
  rcases hr.cases_of hvalid h hrow with ⟨hne, -⟩ | ⟨-, -, hbefore, -⟩ | ⟨-, -, hbefore, -⟩ |
    ⟨-, -, hmoved⟩
  · exact hne hversion
  · exact absurd hbefore (not_lt.2 hafter)
  · exact absurd hbefore (not_lt.2 hafter)
  · refine hnone row hrow ?_ ?_ ?_ ?_
    · rw [(recut_keeps _ _ _ row).1]
      exact hr.owner_of hvalid h hrow hversion
    · rw [hmoved]
      rfl
    · rw [(recut_keeps _ _ _ row).2.1]
      exact hof
    · rw [hmoved]
      exact hcontains

theorem tiled_versions (hr : Replaces input cloud current rows rows') (hvalid : rows.Valid)
    (h : Tiled rows) (cloudInstanceId : String) : Contiguous ResourceVersion.effectiveFrom
      ResourceVersion.effectiveTo (rows'.versionsOf cloudInstanceId) := by
  unfold TimelineRows.versionsOf
  rw [hr.versions]
  refine contiguous_end_current h.versions (List.Nodup.of_map _ hvalid.versionIds) hr.mem hr.isOpen
    (hr.other_version hvalid) ?_ ?_ ?_ hr.later hr.owner.symm rfl cloudInstanceId
  all_goals rw [ended_current]
  rfl

theorem tiled_first (hr : Replaces input cloud current rows rows') (h : Tiled rows) :
    ∀ snapshot ∈ rows'.snapshots, ∃ first,
      (rows'.versionsOf snapshot.cloudInstanceId).head? = some first ∧
        first.effectiveFrom ≤ snapshot.effectiveFrom := by
  intro snapshot hsnapshot
  rw [hr.snapshots] at hsnapshot
  obtain ⟨first, hfirst, hle⟩ := h.first snapshot hsnapshot
  obtain ⟨first', hfirst', hstart⟩ := head?_of_update
    (fun row => (endVersion_keeps current.id input.providerConfirmedAt row).2.1)
    (fun row => (endVersion_keeps current.id input.providerConfirmedAt row).2.2)
    [input.version cloud] hfirst
  refine ⟨first', ?_, hstart.trans_le hle⟩
  rw [← hfirst', TimelineRows.versionsOf, hr.versions]

theorem tiled_inSnapshot (hr : Replaces input cloud current rows rows') (hvalid : rows.Valid)
    (h : Tiled rows) : ∀ interval ∈ rows'.intervals, ∃ snapshot ∈ rows'.snapshots,
      snapshot.id = interval.billingPolicySnapshotId ∧
      snapshot.cloudInstanceId = interval.cloudInstanceId ∧
      interval.Inside snapshot.effectiveFrom snapshot.effectiveTo := by
  intro interval hinterval
  rw [hr.snapshots]
  rcases (hr.intervals interval).1 hinterval with ⟨row, hrow, rfl⟩ | ⟨snapshot, hmissing, rfl⟩
  · obtain ⟨snapshot, hmem, hid, hinstance, hinside⟩ := h.inSnapshot row hrow
    obtain ⟨hkeepInstance, hkeepSnapshot, hkeepStart⟩ :=
      recut_keeps current (input.version cloud) input.providerConfirmedAt row
    refine ⟨snapshot, hmem, by rw [hkeepSnapshot, hid], by rw [hkeepInstance, hinstance],
      by rw [hkeepStart]; exact hinside.1, fun limit hlimit => ?_⟩
    rcases hr.cases_of hvalid h hrow with ⟨-, hsame⟩ | ⟨-, -, -, hsame⟩ | ⟨-, hcontains, -, hcut⟩ |
      ⟨-, -, hmoved⟩
    · rw [hsame]
      exact hinside.2 limit hlimit
    · rw [hsame]
      exact hinside.2 limit hlimit
    · rw [hcut]
      exact ⟨_, rfl, ((hinside.within hcontains).2 limit hlimit).le⟩
    · rw [hmoved]
      exact hinside.2 limit hlimit
  · obtain ⟨hmem, howner, hin⟩ := snapshotAt_eq_some hmissing.1
    exact ⟨snapshot, hmem, rfl, howner.trans hr.instanceId, hin.1,
      fun limit hlimit => ⟨limit, hlimit, le_rfl⟩⟩

theorem tiled_inVersion (hr : Replaces input cloud current rows rows') (hvalid : rows.Valid)
    (h : Tiled rows) : ∀ interval ∈ rows'.intervals, ∃ version ∈ rows'.versions,
      version.id = interval.resourceVersionId ∧
      version.cloudInstanceId = interval.cloudInstanceId ∧
      interval.Inside version.effectiveFrom version.effectiveTo := by
  intro interval hinterval
  rw [hr.versions]
  have hnew : input.version cloud ∈
      rows.versions.map (endVersion current.id input.providerConfirmedAt) ++ [input.version cloud] :=
    List.mem_append_right _ (List.mem_singleton_self _)
  rcases (hr.intervals interval).1 hinterval with ⟨row, hrow, rfl⟩ | ⟨snapshot, hmissing, rfl⟩
  · obtain ⟨version, hmem, hid, hinstance, hinside⟩ := h.inVersion row hrow
    have hended : endVersion current.id input.providerConfirmedAt version ∈
        rows.versions.map (endVersion current.id input.providerConfirmedAt) ++
          [input.version cloud] :=
      List.mem_append_left _ (List.mem_map_of_mem hmem)
    have hcurrent (hversion : row.resourceVersionId = current.id) : version = current :=
      version_ext hvalid hmem hr.mem (hid.trans hversion)
    rcases hr.cases_of hvalid h hrow with ⟨hother, hsame⟩ | ⟨hversion, hover, -, hsame⟩ |
      ⟨hversion, -, -, hcut⟩ | ⟨hversion, hafter, hmoved⟩
    · have hne : version ≠ current := fun heq => hother (by rw [← hid, heq])
      rw [hr.other_version hvalid version hmem hne] at hended
      rw [hsame]
      exact ⟨version, hended, hid, hinstance, hinside⟩
    · obtain rfl := hcurrent hversion
      rw [ended_current] at hended
      rw [hsame]
      exact ⟨_, hended, hid, hinstance, hinside.1, by simpa using hover⟩
    · obtain rfl := hcurrent hversion
      rw [ended_current] at hended
      rw [hcut]
      exact ⟨_, hended, hid, hinstance, hinside.1, by simp⟩
    · rw [hmoved]
      exact ⟨_, hnew, rfl, (hr.owner_of hvalid h hrow hversion).symm, hafter,
        by simp [RecordInput.version]⟩
  · exact ⟨_, hnew, rfl, hr.instanceId, le_rfl, by simp [RecordInput.version]⟩

theorem tiled_pairs (hr : Replaces input cloud current rows rows') (hvalid : rows.Valid)
    (hvalid' : rows'.Valid) (h : Tiled rows) :
    ∀ interval ∈ rows'.intervals, ∀ other ∈ rows'.intervals,
      interval.billingPolicySnapshotId = other.billingPolicySnapshotId →
        interval.resourceVersionId = other.resourceVersionId → interval = other := by
  have hfresh {row : UsageInterval} (hrow : row ∈ rows.intervals) :
      row.resourceVersionId ≠ input.newId := by
    obtain ⟨version, hmem, hid, -⟩ := h.inVersion row hrow
    exact hid ▸ hr.version_fresh hvalid' version hmem
  -- which version an interval has after the confirmation
  have hafter {row : UsageInterval} (hrow : row ∈ rows.intervals) :
      (row.resourceVersionId = current.id ∧ input.providerConfirmedAt ≤ row.startedAt ∧
        (recut current (input.version cloud) input.providerConfirmedAt row).resourceVersionId =
          input.newId) ∨
      (recut current (input.version cloud) input.providerConfirmedAt row).resourceVersionId =
        row.resourceVersionId := by
    rcases hr.cases_of hvalid h hrow with ⟨-, hsame⟩ | ⟨-, -, -, hsame⟩ | ⟨-, -, -, hcut⟩ |
      ⟨hversion, hstart, hmoved⟩
    · exact .inr (by rw [hsame])
    · exact .inr (by rw [hsame])
    · exact .inr (by rw [hcut])
    · exact .inl ⟨hversion, hstart, by rw [hmoved]; rfl⟩
  have hmoved {row : UsageInterval} (hrow : row ∈ rows.intervals) {snapshot : PolicySnapshot}
      (hmissing : Missing input cloud current rows snapshot)
      (hof : (recut current (input.version cloud) input.providerConfirmedAt
        row).billingPolicySnapshotId = snapshot.id)
      (hnew : (recut current (input.version cloud) input.providerConfirmedAt
        row).resourceVersionId = input.newId) : False := by
    rw [(recut_keeps _ _ _ row).2.1] at hof
    rcases hafter hrow with ⟨hversion, hstart, -⟩ | hsame
    · exact hr.not_missing_of_moved hvalid h hrow hof hversion hstart hmissing
    · exact hfresh hrow (hsame.symm.trans hnew)
  intro interval hinterval other hother hsnapshot hversion
  rcases (hr.intervals interval).1 hinterval with ⟨row, hrow, rfl⟩ | ⟨snapshot, hmissing, rfl⟩ <;>
    rcases (hr.intervals other).1 hother with ⟨row', hrow', rfl⟩ | ⟨snapshot', hmissing', rfl⟩
  · have hsnapshot' : row.billingPolicySnapshotId = row'.billingPolicySnapshotId := by
      rw [← (recut_keeps current (input.version cloud) input.providerConfirmedAt row).2.1, hsnapshot,
        (recut_keeps _ _ _ row').2.1]
    have hsame : row = row' := by
      refine h.pairs row hrow row' hrow' hsnapshot' ?_
      rcases hafter hrow with ⟨hcurrent, -, hnew⟩ | hkept <;>
        rcases hafter hrow' with ⟨hcurrent', -, hnew'⟩ | hkept'
      · rw [hcurrent, hcurrent']
      · exact absurd (hkept'.symm.trans (hversion.symm.trans hnew)) (hfresh hrow')
      · exact absurd (hkept.symm.trans (hversion.trans hnew')) (hfresh hrow)
      · rw [← hkept, hversion, hkept']
    rw [hsame]
  · exact (hmoved hrow hmissing' hsnapshot hversion).elim
  · exact (hmoved hrow' hmissing hsnapshot.symm hversion.symm).elim
  · have heq := hmissing.1.symm.trans hmissing'.1
    rw [Option.some.inj heq]

theorem tiled_cover (hr : Replaces input cloud current rows rows') (hvalid : rows.Valid)
    (h : Tiled rows) : ∀ snapshot ∈ rows'.snapshots, ∀ instant,
      Within snapshot.effectiveFrom snapshot.effectiveTo instant →
        ∃ interval ∈ rows'.intervals, interval.billingPolicySnapshotId = snapshot.id ∧
          interval.Contains instant := by
  intro snapshot hsnapshot instant hin
  rw [hr.snapshots] at hsnapshot
  obtain ⟨row, hrow, hof, hcontains⟩ := h.cover snapshot hsnapshot instant hin
  have hmem : recut current (input.version cloud) input.providerConfirmedAt row ∈ rows'.intervals :=
    (hr.intervals _).2 (.inl ⟨row, hrow, rfl⟩)
  have hkeep := (recut_keeps current (input.version cloud) input.providerConfirmedAt row).2.1
  rcases hr.cases_of hvalid h hrow with ⟨-, hsame⟩ | ⟨-, -, -, hsame⟩ |
    ⟨hversion, hat, hbefore, hcut⟩ | ⟨-, -, hmoved⟩
  · exact ⟨_, hmem, hkeep.trans hof, by rw [hsame]; exact hcontains⟩
  · exact ⟨_, hmem, hkeep.trans hof, by rw [hsame]; exact hcontains⟩
  · rcases lt_or_ge instant input.providerConfirmedAt with hearly | hlate
    · refine ⟨_, hmem, hkeep.trans hof, ?_⟩
      rw [hcut]
      exact ⟨hcontains.1, by simpa using hearly⟩
    · -- the interval is cut before the instant, so its snapshot gets a new one
      obtain ⟨own, hown, hid, hinstance, hinside⟩ := h.inSnapshot row hrow
      have hmine : own = snapshot := snapshot_ext hvalid hown hsnapshot (hid.trans hof)
      subst hmine
      have howner : own.cloudInstanceId = cloud.id :=
        hinstance.trans (hr.owner_of hvalid h hrow hversion)
      have hsnapshotAt := h.snapshotAt_eq hown (hinside.within hat)
      rw [howner] at hsnapshotAt
      have hmissing : Missing input cloud current rows own := by
        refine ⟨hsnapshotAt, fun other hother => ?_⟩
        intro moved _ hnew hotherOf hotherContains
        have hotherOf : other.billingPolicySnapshotId = own.id := by
          rw [← hotherOf]
          exact (recut_keeps _ _ _ other).2.1.symm
        rcases hr.cases_of hvalid h hother with ⟨hne, hsame⟩ | ⟨-, hover, -, hsame⟩ |
          ⟨-, -, -, hcut'⟩ | ⟨hversion', hafter, -⟩
        · have hsame : moved = other := hsame
          rw [hsame] at hotherContains
          obtain ⟨version, hversionMem, hversionId, hversionOwner, hversionInside⟩ :=
            h.inVersion other hother
          have : other = row := h.interval_eq hvalid hother hrow (hotherOf.trans hof.symm)
            hotherContains hat
          exact hne (this ▸ hversion)
        · have hsame : moved = other := hsame
          rw [hsame] at hotherContains
          obtain ⟨until_, huntil, hle⟩ := hover
          exact absurd (hotherContains.2 until_ huntil) (not_lt.2 hle)
        · have hcut' : moved = _ := hcut'
          rw [hcut'] at hotherContains
          exact absurd (hotherContains.2 _ rfl) (lt_irrefl _)
        · have : other = row := h.pairs other hother row hrow (hotherOf.trans hof.symm)
            (hversion'.trans hversion.symm)
          subst this
          exact absurd hbefore (not_lt.2 hafter)
      exact ⟨input.interval own, (hr.intervals _).2 (.inr ⟨own, hmissing, rfl⟩), rfl, hlate, hin.2⟩
  · exact ⟨_, hmem, hkeep.trans hof, by rw [hmoved]; exact hcontains⟩

theorem tiled_complete (hr : Replaces input cloud current rows rows') (hvalid : rows.Valid)
    (h : Tiled rows) :
    ∀ interval ∈ rows'.intervals, interval.status = .open ∨ interval.status = .complete := by
  intro interval hinterval
  rcases (hr.intervals interval).1 hinterval with ⟨row, hrow, rfl⟩ | ⟨snapshot, -, rfl⟩
  · rcases hr.cases_of hvalid h hrow with ⟨-, hsame⟩ | ⟨-, -, -, hsame⟩ | ⟨-, -, -, hcut⟩ |
      ⟨-, -, hmoved⟩
    · rw [hsame]
      exact h.complete row hrow
    · rw [hsame]
      exact h.complete row hrow
    · rw [hcut]
      exact .inr rfl
    · rw [hmoved]
      exact h.complete row hrow
  · unfold RecordInput.interval
    split_ifs <;> simp

theorem tiled (hr : Replaces input cloud current rows rows') (hvalid : rows.Valid)
    (hvalid' : rows'.Valid) (h : Tiled rows) : Tiled rows' where
  versions := hr.tiled_versions hvalid h
  snapshots := by
    intro cloudInstanceId
    unfold TimelineRows.snapshotsOf
    rw [hr.snapshots]
    exact h.snapshots cloudInstanceId
  first := hr.tiled_first h
  inSnapshot := hr.tiled_inSnapshot hvalid h
  inVersion := hr.tiled_inVersion hvalid h
  pairs := hr.tiled_pairs hvalid hvalid' h
  cover := hr.tiled_cover hvalid h
  complete := hr.tiled_complete hvalid h

end Replaces

end Record

end AbrChin.Billing
