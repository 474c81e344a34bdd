import AbrChin.Billing.Progress

/-!
# Where every service can be settled

When the lines of every snapshot can be drafted in every period (`AllDraftable`), the
transaction of a period commits and settles all its services, whatever the workers have
done before: what they keep between two transactions is `Orderly`.
-/

namespace AbrChin.Billing

open Lib Wallet Relation

/-! ## The snapshots of a period -/

section Runs

variable {opening : String → ℤ} {db db' : BillingDb} {input : BillingPeriod} {seen : Books}

/-- **A run settles all its snapshots.** -/
theorem Underway.runs {snapshots : List PolicySnapshot}
    (h : Underway opening input seen snapshots db)
    (hready : ∀ snapshot ∈ snapshots, Draftable db.timeline input seen snapshot)
    (hnodup : (snapshots.map PolicySnapshot.id).Nodup) (hvalid : validatePeriod input = .ok ())
    {runId : String} {counts : ℕ × ℕ}
    (hcommit : Tx.Commits (processSnapshots input runId seen snapshots) db counts db') :
    Underway opening input seen [] db' ∧ (db'.timeline = db.timeline ∧ db'.runs = db.runs) ∧
      (∀ invoice ∈ db.invoices.rows, invoice ∈ db'.invoices.rows) ∧
      ∀ snapshot ∈ snapshots, ∃ invoice ∈ db'.invoices.rows,
        invoice.scope = input.scope snapshot := by
  induction snapshots generalizing db counts with
  | nil =>
      obtain ⟨-, rfl⟩ := Tx.commits_pure.1 hcommit
      exact ⟨h, ⟨rfl, rfl⟩, fun _ => id, by simp⟩
  | cons snapshot rest ih =>
      obtain ⟨hdone, hrest⟩ := List.nodup_cons.1 hnodup
      simp only [processSnapshots, Tx.commits_bind, Tx.commits_pure] at hcommit
      obtain ⟨result, mid, hprocess, later, _, hlater, -, rfl⟩ := hcommit
      obtain ⟨hmid, ⟨htimeline, hruns⟩, hstays, ⟨invoice, hinvoice, hscope⟩, -⟩ :=
        h.processes (hready snapshot (by simp)) hdone hvalid hprocess
      obtain ⟨hend, ⟨htimeline', hruns'⟩, hstays', hall⟩ := ih hmid
        (fun other hother => htimeline ▸ hready other (by simp [hother])) hrest hlater
      refine ⟨hend, ⟨htimeline'.trans htimeline, hruns'.trans hruns⟩, fun other hother => hstays' _ (hstays _ hother),
        fun other hother => ?_⟩
      rcases List.mem_cons.1 hother with rfl | hother
      · exact ⟨invoice, hstays' invoice hinvoice, hscope⟩
      · exact hall other hother

theorem exists_commits_processSnapshots {snapshots : List PolicySnapshot}
    (h : Underway opening input seen snapshots db)
    (hready : ∀ snapshot ∈ snapshots, Draftable db.timeline input seen snapshot)
    (hnodup : (snapshots.map PolicySnapshot.id).Nodup) (hvalid : validatePeriod input = .ok ())
    (hinjective : Function.Injective input.newId)
    (hnew : ∀ snapshot ∈ snapshots, NewFor (input.newId snapshot.id) db) (runId : String) :
    ∃ counts db', Tx.Commits (processSnapshots input runId seen snapshots) db counts db' := by
  induction snapshots generalizing db with
  | nil => exact ⟨(0, 0), db, Tx.commits_pure.2 ⟨rfl, rfl⟩⟩
  | cons snapshot rest ih =>
      obtain ⟨hdone, hrest⟩ := List.nodup_cons.1 hnodup
      obtain ⟨result, mid, hprocess⟩ :=
        h.exists_commits (hready snapshot (by simp)) hvalid (hnew snapshot (by simp)) runId
      obtain ⟨hmid, ⟨htimeline, -⟩, -, -, hkeeps⟩ :=
        h.processes (hready snapshot (by simp)) hdone hvalid hprocess
      have hnew' : ∀ other ∈ rest, NewFor (input.newId other.id) mid := by
        intro other hother
        refine hkeeps _ (fun hsame => hdone ?_) (hnew other (by simp [hother]))
        rw [hinjective hsame]
        exact List.mem_map_of_mem hother
      obtain ⟨counts, db', hlater⟩ := ih hmid
        (fun other hother => htimeline ▸ hready other (by simp [hother])) hrest hnew'
      refine ⟨(counts.1 + result.invoiced.toNat, counts.2 + result.review.toNat), db', ?_⟩
      simp only [processSnapshots, Tx.commits_bind, Tx.commits_pure]
      exact ⟨result, mid, hprocess, counts, db', hlater, rfl, rfl⟩

end Runs

/-! ## Between two transactions -/

/-- Every service that a period is for can be settled. -/
def AllDraftable (timeline : Timeline) : Prop :=
  ∀ input : BillingPeriod, validatePeriod input = .ok () → ∀ seen : Books,
    (∀ cloud ∈ timeline.instances, (seen.walletOf cloud.userId).isSome) →
    ∀ snapshot ∈ timeline.toTimelineRows.loadSnapshots input.key,
      Draftable timeline input seen snapshot

/-- What holds between two transactions when every service can be settled. -/
structure Orderly (opening : String → ℤ) (db : BillingDb) : Prop extends Standing opening db where
  neat : Neat db
  users : ∀ cloud ∈ db.timeline.instances, (db.books.walletOf cloud.userId).isSome
  complete : ∀ run ∈ db.runs, run.status.terminal = true →
    ∀ snapshot ∈ db.timeline.toTimelineRows.loadSnapshots run.key, ∃ invoice ∈ db.invoices.rows,
      invoice.scope = ⟨snapshot.cloudInstanceId, run.key.period, snapshot.id⟩

section Orderly

variable {opening : String → ℤ} {db db' : BillingDb} {input : BillingPeriod}

/-- Opening a run changes no run that is over. -/
theorem commits_openRun {runId : String} (hcommit : Tx.Commits (openRun input) db runId db') :
    ∃ runs, db' = { db with runs } ∧
      ∀ run ∈ runs, run.status.terminal = true → run ∈ db.runs := by
  simp only [openRun, Tx.commits_bind, Tx.commits_get] at hcommit
  obtain ⟨_, db, ⟨rfl, rfl⟩, hcommit⟩ := hcommit
  cases hfind : db.runs.find? input.key with
  | some existing =>
      simp only [hfind, updateRun, Tx.commits_bind, Tx.commits_modify, Tx.commits_pure] at hcommit
      obtain ⟨_, _, rfl, -, rfl⟩ := hcommit
      refine ⟨_, rfl, fun run hrun hover => ?_⟩
      obtain ⟨before, hbefore, rfl⟩ := Table.mem_modify.1 hrun
      split_ifs at hover ⊢
      · cases hover
      · exact hbefore
  | none =>
      simp only [hfind, createRun, Tx.commits_bind, Tx.commits_attempt, Option.map_eq_some_iff,
        Tx.commits_pure] at hcommit
      obtain ⟨_, _, ⟨runs, hinsert, rfl⟩, -, rfl⟩ := hcommit
      refine ⟨runs, rfl, fun run hrun hover => ?_⟩
      rcases (Table.mem_insert? hinsert).1 hrun with hrun | rfl
      · exact hrun
      · cases hover

theorem exists_commits_openRun (input : BillingPeriod) (db : BillingDb) :
    ∃ runId db', Tx.Commits (openRun input) db runId db' := by
  simp only [openRun, Tx.commits_bind, Tx.commits_get]
  cases hfind : db.runs.find? input.key with
  | some existing =>
      refine ⟨existing.id, { db with
        runs := db.runs.modify input.key (·.restart input.workerId) fun _ => rfl },
        db, db, ⟨rfl, rfl⟩, ?_⟩
      simp only [hfind, updateRun, Tx.commits_bind, Tx.commits_modify, Tx.commits_pure]
      exact ⟨(), _, rfl, trivial, rfl⟩
  | none =>
      have hinserted : (db.runs.insert?
          ⟨input.runId, input.key, .running, input.workerId, 0, 0, none⟩).isSome :=
        Table.insert?_isSome hfind
      obtain ⟨runs, hinsert⟩ := Option.isSome_iff_exists.1 hinserted
      refine ⟨input.runId, { db with runs }, db, db, ⟨rfl, rfl⟩, ?_⟩
      simp only [hfind, createRun, Tx.commits_bind, Tx.commits_attempt, Tx.commits_pure]
      exact ⟨(), _, by rw [hinsert]; rfl, trivial, rfl⟩

theorem Neat.withRuns (h : Neat db) (runs : Table BillingRun.key) : Neat { db with runs } :=
  ⟨h.settled, h.fits, h.lines, h.keys⟩

/-- A run of an orderly state gets under way. -/
theorem Orderly.starts (h : Orderly opening db) {runId : String}
    (hopen : (db.runs.find? input.key).any (fun run => run.status.terminal) = false)
    (hcommit : Tx.Commits (openRun input) db runId db') (pending : List PolicySnapshot) :
    Underway opening input db'.books pending db' := by
  have hrunning : Running opening input (pending.map PolicySnapshot.id) db' :=
    (h.toStanding.starts hopen hcommit).1
  obtain ⟨runs, rfl, -⟩ := commits_openRun hcommit
  exact ⟨hrunning, h.neat.withRuns runs, .refl⟩

theorem walletOf_isSome {books books' : Books} (h : Books.Bookings books books') {userId : String}
    (huser : (books.walletOf userId).isSome) : (books'.walletOf userId).isSome := by
  obtain ⟨wallet, hwallet⟩ := Option.isSome_iff_exists.1 huser
  obtain ⟨later, hlater, -, hsame⟩ :=
    Books.wallet_stays h (List.mem_of_find?_eq_some hwallet)
  have howner : wallet.userId = userId := by simpa using List.find?_some hwallet
  rw [Books.walletOf, List.find?_isSome]
  exact ⟨later, hlater, decide_eq_true (hsame.trans howner)⟩

/-- **The transaction of a period keeps the state orderly, and settles every service.** -/
theorem Orderly.settles (h : Orderly opening db) (hall : AllDraftable db.timeline)
    {run : Option BillingRun}
    (hcommit : Tx.Commits (settleClosedBillingPeriod input) db run db') :
    Orderly opening db' ∧ db'.timeline = db.timeline ∧
      ∀ snapshot ∈ db.timeline.toTimelineRows.loadSnapshots input.key,
        ∃ invoice ∈ db'.invoices.rows, invoice.scope = input.scope snapshot := by
  have hstanding := (h.toStanding.settles hcommit).1
  simp only [settleClosedBillingPeriod, Tx.commits_bind, Tx.commits_ofExcept, Tx.commits_get]
    at hcommit
  obtain ⟨_, _, ⟨hvalid, rfl⟩, _, db, ⟨rfl, rfl⟩, hcommit⟩ := hcommit
  rcases Tx.commits_ite.1 hcommit with ⟨hover, hcommit⟩ | ⟨hopen, hcommit⟩
  · obtain ⟨-, rfl⟩ := Tx.commits_pure.1 hcommit
    refine ⟨h, rfl, fun snapshot hsnapshot => ?_⟩
    obtain ⟨existing, hfind, hterminal⟩ := (Option.any_eq_true _ _).1 hover
    obtain ⟨hmem, hkey⟩ := Table.find?_eq_some.1 hfind
    obtain ⟨invoice, hinvoice, hscope⟩ :=
      h.complete existing hmem hterminal snapshot (hkey.symm ▸ hsnapshot)
    rw [hkey] at hscope
    exact ⟨invoice, hinvoice, hscope⟩
  simp only [Tx.commits_bind, Tx.commits_get, updateRun, Tx.commits_modify, Tx.commits_pure]
    at hcommit
  obtain ⟨runId, _, hstart, _, started, ⟨rfl, rfl⟩, counts, processed, hprocess, _, _, rfl, _, _,
    ⟨rfl, rfl⟩, -, rfl⟩ := hcommit
  have hunder := h.starts (Bool.eq_false_iff.2 hopen) hstart
    (started.timeline.toTimelineRows.loadSnapshots input.key)
  obtain ⟨runs, rfl, hruns⟩ := commits_openRun hstart
  obtain ⟨hend, ⟨htimeline, hsame⟩, hstays, hsettled⟩ :=
    hunder.runs (hall input hvalid db.books h.users) (nodup_loadSnapshots _ _) hvalid hprocess
  refine ⟨⟨hstanding, hend.neat.withRuns _, ?_, ?_⟩, htimeline, hsettled⟩
  · simp only [htimeline]
    exact fun cloud hcloud => walletOf_isSome hend.wallets (h.users cloud hcloud)
  · simp only [htimeline]
    intro run hrun hover snapshot hsnapshot
    obtain ⟨before, hbefore, rfl⟩ := Table.mem_modify.1 hrun
    by_cases hkey : before.key = input.key
    · -- the run that has just finished has settled its snapshots
      rw [if_pos hkey] at hsnapshot ⊢
      have hkey' : (before.finish counts).key = input.key := hkey
      rw [hkey'] at hsnapshot ⊢
      exact hsettled snapshot hsnapshot
    · rw [if_neg hkey] at hsnapshot hover ⊢
      rw [hsame] at hbefore
      obtain ⟨invoice, hinvoice, hscope⟩ :=
        h.complete before (hruns before hbefore hover) hover snapshot hsnapshot
      exact ⟨invoice, hstays invoice hinvoice, hscope⟩

/-- **With new ids, the transaction of a period commits.** -/
theorem Orderly.exists_commits (h : Orderly opening db) (hall : AllDraftable db.timeline)
    (hvalid : validatePeriod input = .ok ()) (hnew : input.NewIds db) :
    ∃ run db', Tx.Commits (settleClosedBillingPeriod input) db run db' := by
  by_cases hover : (db.runs.find? input.key).any (fun run => run.status.terminal) = true
  · refine ⟨db.runs.find? input.key, db, ?_⟩
    simp only [settleClosedBillingPeriod, Tx.commits_bind, Tx.commits_ofExcept, Tx.commits_get]
    refine ⟨(), db, ⟨hvalid, rfl⟩, db, db, ⟨rfl, rfl⟩, ?_⟩
    rw [if_pos hover]
    exact Tx.commits_pure.2 ⟨rfl, rfl⟩
  · obtain ⟨runId, started, hstart⟩ := exists_commits_openRun input db
    have hunder := h.starts (Bool.eq_false_iff.2 hover) hstart
      (started.timeline.toTimelineRows.loadSnapshots input.key)
    obtain ⟨runs, rfl, -⟩ := commits_openRun hstart
    obtain ⟨counts, processed, hprocess⟩ := exists_commits_processSnapshots hunder
      (hall input hvalid db.books h.users) (nodup_loadSnapshots _ _) hvalid hnew.1
      (fun snapshot _ => ⟨(hnew.2 snapshot.id).invoices, (hnew.2 snapshot.id).entries⟩) runId
    refine ⟨(processed.runs.modify input.key (·.finish counts) fun _ => rfl).find? input.key,
      { processed with runs := processed.runs.modify input.key (·.finish counts) fun _ => rfl }, ?_⟩
    simp only [settleClosedBillingPeriod, Tx.commits_bind, Tx.commits_ofExcept, Tx.commits_get]
    refine ⟨(), db, ⟨hvalid, rfl⟩, db, db, ⟨rfl, rfl⟩, ?_⟩
    rw [if_neg hover]
    simp only [Tx.commits_bind, Tx.commits_get, updateRun, Tx.commits_modify, Tx.commits_pure]
    exact ⟨runId, _, hstart, _, _, ⟨rfl, rfl⟩, counts, processed, hprocess, (), _, rfl, _, _,
      ⟨rfl, rfl⟩, rfl, rfl⟩

theorem Orderly.withRuns (h : Orderly opening db) {runs : Table BillingRun.key}
    (hstanding : Standing opening { db with runs })
    (hruns : ∀ run ∈ runs, run.status.terminal = true → run ∈ db.runs) :
    Orderly opening { db with runs } :=
  ⟨hstanding, h.neat.withRuns runs, h.users,
    fun run hrun hover => h.complete run (hruns run hrun hover) hover⟩

/-- Recording a failure changes no run that is over. -/
theorem commits_recordFailure {failureCode : String} {u : Unit}
    (hcommit : Tx.Commits (recordBillingRunFailure input failureCode) db u db') :
    ∃ runs, db' = { db with runs } ∧
      ∀ run ∈ runs, run.status.terminal = true → run ∈ db.runs := by
  simp only [recordBillingRunFailure, Tx.commits_bind, Tx.commits_get] at hcommit
  obtain ⟨_, db, ⟨rfl, rfl⟩, hcommit⟩ := hcommit
  cases hfind : db.runs.find? input.key with
  | some existing =>
      simp only [hfind] at hcommit
      rcases Tx.commits_ite.1 hcommit with ⟨-, hcommit⟩ | ⟨-, hcommit⟩
      · obtain ⟨-, rfl⟩ := Tx.commits_pure.1 hcommit
        exact ⟨db'.runs, rfl, fun _ hrun _ => hrun⟩
      · obtain rfl := Tx.commits_modify.1 hcommit
        refine ⟨_, rfl, fun run hrun hover => ?_⟩
        obtain ⟨before, hbefore, rfl⟩ := Table.mem_modify.1 hrun
        split_ifs at hover ⊢
        · cases hover
        · exact hbefore
  | none =>
      simp only [hfind, createRun, Tx.commits_attempt, Option.map_eq_some_iff] at hcommit
      obtain ⟨runs, hinsert, rfl⟩ := hcommit
      refine ⟨runs, rfl, fun run hrun hover => ?_⟩
      rcases (Table.mem_insert? hinsert).1 hrun with hrun | rfl
      · exact hrun
      · cases hover

theorem Orderly.fails (h : Orderly opening db) {failureCode : String} {u : Unit}
    (hcommit : Tx.Commits (recordBillingRunFailure input failureCode) db u db') :
    Orderly opening db' := by
  have hstanding : Standing opening db' := (h.toStanding.fails hcommit).1
  obtain ⟨runs, rfl, hruns⟩ := commits_recordFailure hcommit
  exact h.withRuns hstanding hruns

theorem Orderly.moves (h : Orderly opening db) {books : Books}
    (hmoved : ForeignBooking db.books books) : Orderly opening { db with books } :=
  ⟨(h.toStanding.moves hmoved).1, ⟨h.neat.settled, h.neat.fits, h.neat.lines, h.neat.keys⟩,
    fun cloud hcloud => walletOf_isSome hmoved.1 (h.users cloud hcloud), h.complete⟩

end Orderly

/-! ## Every run of the system -/

/-- A step that leaves the timeline as it is. -/
def BillingSystem.Quiet (system system' : BillingSystem) : Prop :=
  system.Step system' ∧ system'.db.timeline = system.db.timeline

section System

variable {opening : String → ℤ} {system system' : BillingSystem}

theorem Orderly.step (h : Orderly opening system.db) (hall : AllDraftable system.db.timeline)
    (hstep : system.Quiet system') : Orderly opening system'.db := by
  obtain ⟨hstep, htimeline⟩ := hstep
  cases hstep with
  | settled hcommit => exact (h.settles hall hcommit).1
  | failed hcommit => exact h.fails hcommit
  | listed => exact h
  | caughtUp hnext hcommit => exact (h.settles hall hcommit).1
  | stopped hnext hcommit => exact h.fails hcommit
  | crashed => exact h
  | scheduled timeline =>
      obtain rfl : timeline = system.db.timeline := htimeline
      exact h
  | moved hmoved => exact h.moves hmoved

/-- **Whatever the workers do, the state stays orderly.** -/
theorem Orderly.run (h : Orderly opening system.db) (hall : AllDraftable system.db.timeline)
    (hrun : ReflTransGen BillingSystem.Quiet system system') :
    Orderly opening system'.db ∧ system'.db.timeline = system.db.timeline := by
  induction hrun with
  | refl => exact ⟨h, rfl⟩
  | tail _ hstep ih =>
      obtain ⟨horderly, htimeline⟩ := ih
      exact ⟨horderly.step (htimeline ▸ hall) hstep, hstep.2.trans htimeline⟩

end System

end AbrChin.Billing
