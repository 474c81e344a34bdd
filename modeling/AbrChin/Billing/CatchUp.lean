import AbrChin.Billing.Settlement

/-!
# Workers that catch up

`settleClosedBillingPeriodsCatchUp`: a worker lists the closed periods that have no
finished run and settles them one after another.  Any number of workers do so at the
same time; each may crash between two transactions, try one again, or record that it
has failed and stop.  In between, the timeline changes and other transactions move
money.

`usage_settled_once` is about every such run of the system.
-/

namespace AbrChin.Billing

open Lib Wallet Relation

/-! ## `listClosedBillingPeriodsForCatchUp` -/

def latestClosedPeriodUtc (cadence : BillingCadence) (now : ℤ) : Period :=
  let current := periodContainingUtc cadence now
  ⟨current.periodStart - periodMilliseconds cadence, current.periodStart⟩

theorem periodMilliseconds_pos (cadence : BillingCadence) : 0 < periodMilliseconds cadence := by
  cases cadence <;> decide

/-- The loop of `listClosedBillingPeriodsForCatchUp`: the periods from `periodStart` on
in which a snapshot is in force and that are not completed. -/
def closedPeriodsFrom (cadence : BillingCadence) (snapshots : List PolicySnapshot)
    (completed : List Period) (latestEnd : ℤ) (limit : ℕ) (periodStart : ℤ) : List Period :=
  if periodStart < latestEnd ∧ limit ≠ 0 then
    let period : Period := ⟨periodStart, periodStart + periodMilliseconds cadence⟩
    if snapshots.any fun row => row.effectiveFrom < period.periodEnd ∧
        row.effectiveTo.all (periodStart < ·) then
      if period ∈ completed then
        closedPeriodsFrom cadence snapshots completed latestEnd limit period.periodEnd
      else
        period :: closedPeriodsFrom cadence snapshots completed latestEnd (limit - 1)
          period.periodEnd
    else
      match _hnext : snapshots.find? fun row => period.periodEnd ≤ row.effectiveFrom with
      | none => []
      | some next =>
          closedPeriodsFrom cadence snapshots completed latestEnd limit
            (periodContainingUtc cadence next.effectiveFrom).periodStart
  else []
termination_by (latestEnd - periodStart).toNat
decreasing_by
  all_goals
    have hpositive := periodMilliseconds_pos cadence
  · omega
  · omega
  · -- the next snapshot begins after this period, and so does the period it is in
    have hafter : periodStart + periodMilliseconds cadence ≤ next.effectiveFrom := by
      simpa using List.find?_some _hnext
    have hlt := Int.emod_lt_of_pos next.effectiveFrom hpositive
    have hstart : periodStart < (periodContainingUtc cadence next.effectiveFrom).periodStart := by
      show periodStart < next.effectiveFrom - next.effectiveFrom % periodMilliseconds cadence
      omega
    omega

/-- The closed periods that a worker finds: the snapshots and the runs that its reads saw. -/
def listClosedBillingPeriodsForCatchUp (cadence : BillingCadence) (now : ℤ) (limit : ℕ)
    (seen : BillingDb) : List Period :=
  let latest := latestClosedPeriodUtc cadence now
  let snapshots := (seen.timeline.snapshots.filter fun row => row.cadence = cadence ∧
    row.effectiveFrom < latest.periodEnd).insertionSort fun left right =>
      left.effectiveFrom ≤ right.effectiveFrom
  match snapshots with
  | [] => []
  | earliest :: _ =>
      let first := (periodContainingUtc cadence earliest.effectiveFrom).periodStart
      let completed := seen.runs.rows.filter fun run => run.key.cadence = cadence ∧
        first ≤ run.key.period.periodStart ∧ run.key.period.periodStart < latest.periodEnd ∧
        run.key.period.periodEnd ≤ latest.periodEnd ∧ run.status.terminal = true
      closedPeriodsFrom cadence snapshots (completed.map fun run => run.key.period)
        latest.periodEnd limit first

/-! ## The system -/

/-- A worker in the loop of `settleClosedBillingPeriodsCatchUp`. -/
structure CatchUp where
  cadence : BillingCadence
  workerId : String
  now : ℤ
  /-- The periods that it still has to settle. -/
  periods : List Period

structure BillingSystem where
  db : BillingDb
  workers : List CatchUp

/-- What transactions other than those of the worker do to the wallets. -/
def ForeignBooking (books books' : Books) : Prop :=
  Books.Bookings books books' ∧ ∃ more, books'.ledger.rows = books.ledger.rows ++ more ∧
    ∀ entry ∈ more, entry.type ≠ .usageSettlement

/-- The transactions that commit, and the moves of the workers between them.  A
transaction that is aborted changes nothing, and its worker may try it again. -/
inductive BillingSystem.Step : BillingSystem → BillingSystem → Prop
  /-- `settleClosedBillingPeriod` on its own. -/
  | settled {system : BillingSystem} {input : BillingPeriod} {run : Option BillingRun}
      {db : BillingDb} (h : Tx.Commits (settleClosedBillingPeriod input) system.db run db) :
      Step system { system with db }
  /-- It records that it has failed. -/
  | failed {system : BillingSystem} {input : BillingPeriod} {failureCode : String} {u : Unit}
      {db : BillingDb} (h : Tx.Commits (recordBillingRunFailure input failureCode) system.db u db) :
      Step system { system with db }
  /-- A worker lists what there is to catch up; its reads may be stale. -/
  | listed {system : BillingSystem} (cadence : BillingCadence) (workerId : String) (now : ℤ)
      (limit : ℕ) (seen : BillingDb) :
      Step system { system with
        workers := ⟨cadence, workerId, now, listClosedBillingPeriodsForCatchUp cadence now limit seen⟩ ::
          system.workers }
  /-- A worker settles the next period of its list. -/
  | caughtUp {db db' : BillingDb} {before after : List CatchUp} {worker : CatchUp} {period : Period}
      {rest : List Period} {runId : String} {newId : String → String} {run : Option BillingRun}
      (hnext : worker.periods = period :: rest)
      (h : Tx.Commits (settleClosedBillingPeriod
        ⟨worker.cadence, period, worker.workerId, worker.now, runId, newId⟩) db run db') :
      Step ⟨db, before ++ worker :: after⟩
        ⟨db', before ++ { worker with periods := rest } :: after⟩
  /-- A worker records that its period has failed, and stops. -/
  | stopped {db db' : BillingDb} {before after : List CatchUp} {worker : CatchUp} {period : Period}
      {rest : List Period} {runId failureCode : String} {newId : String → String} {u : Unit}
      (hnext : worker.periods = period :: rest)
      (h : Tx.Commits (recordBillingRunFailure
        ⟨worker.cadence, period, worker.workerId, worker.now, runId, newId⟩ failureCode) db u db') :
      Step ⟨db, before ++ worker :: after⟩ ⟨db', before ++ after⟩
  /-- A worker crashes, or is done. -/
  | crashed {db : BillingDb} {before after : List CatchUp} {worker : CatchUp} :
      Step ⟨db, before ++ worker :: after⟩ ⟨db, before ++ after⟩
  /-- The timeline changes. -/
  | scheduled {system : BillingSystem} (timeline : Timeline) :
      Step system { system with db := { system.db with timeline } }
  /-- Another transaction moves money. -/
  | moved {system : BillingSystem} {books : Books}
      (h : ForeignBooking system.db.books books) :
      Step system { system with db := { system.db with books } }

end AbrChin.Billing
