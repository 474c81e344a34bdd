import AbrChin.Lib.Run
import AbrChin.Lib.Transaction

/-!
# Transactions at READ COMMITTED

Under READ COMMITTED a query that takes no lock sees what was committed when it
ran, and a row that a transaction locks or updates is read again once the lock
is held and stays as it is until the commit.  So a transaction is its unlocked
reads, each of which saw some earlier version of the database, followed by a
locked part that acts on the version it commits to.

`Versions` is a database with the versions that it has had.  An event says how
many commits ago each of its unlocked reads ran; `Versions.step` runs the
transaction with these reads.  Two rules follow: what every commit preserves
holds of every version (`ever_run`), and a relation that every commit extends
leads from every version that a read can see to the current one (`grown_run`).
-/

namespace Lib

/-- A database and the versions it has had, newest first. -/
structure Versions (δ : Type) where
  current : δ
  past : List δ

namespace Versions

variable {δ ε err β : Type}

/-- The version that was current a number of commits ago. -/
def ago (versions : Versions δ) (age : ℕ) : δ :=
  (versions.current :: versions.past).getD age versions.current

/-- Commit a new version. -/
def commit (versions : Versions δ) (db : δ) : Versions δ :=
  ⟨db, versions.current :: versions.past⟩

/-- A call: what it is asked for, and how many commits ago its reads ran. -/
structure Call (ε : Type) where
  input : ε
  ages : List ℕ

/-- What the reads of a call saw. -/
def seen (versions : Versions δ) (ages : List ℕ) (place : ℕ) : δ :=
  versions.ago (ages.getD place 0)

/-- Run the transaction of a call: it commits a new version, or throws and leaves none. -/
def step (tx : ε → (ℕ → δ) → Tx δ err β) (versions : Versions δ) (call : Call ε) :
    Versions δ × Except err β :=
  match tx call.input (versions.seen call.ages) versions.current with
  | (.ok result, db) => (versions.commit db, .ok result)
  | (.error e, _) => (versions, .error e)

variable {tx : ε → (ℕ → δ) → Tx δ err β} {versions : Versions δ} {call : Call ε}

theorem step_commits {result : β} {db : δ}
    (h : Tx.Commits (tx call.input (versions.seen call.ages)) versions.current result db) :
    step tx versions call = (versions.commit db, .ok result) := by
  unfold step
  rw [show tx call.input (versions.seen call.ages) versions.current = _ from h]

/-- A step commits what the transaction writes, or changes nothing. -/
theorem step_cases (tx : ε → (ℕ → δ) → Tx δ err β) (versions : Versions δ) (call : Call ε) :
    (∃ result db, Tx.Commits (tx call.input (versions.seen call.ages)) versions.current result db ∧
      step tx versions call = (versions.commit db, .ok result)) ∨
    ∃ e, step tx versions call = (versions, .error e) := by
  unfold step Tx.Commits
  cases hrun : tx call.input (versions.seen call.ages) versions.current with
  | mk result db =>
      cases result with
      | ok result => exact .inl ⟨result, db, rfl, rfl⟩
      | error e => exact .inr ⟨e, rfl⟩

/-! ## What holds of every version -/

/-- Every version satisfies `p`. -/
def Ever (p : δ → Prop) (versions : Versions δ) : Prop :=
  ∀ db ∈ versions.current :: versions.past, p db

/-- `before` leads from every version to the current one. -/
def Grown (before : δ → δ → Prop) (versions : Versions δ) : Prop :=
  ∀ db ∈ versions.current :: versions.past, before db versions.current

variable {p : δ → Prop} {before : δ → δ → Prop}

theorem ago_mem (versions : Versions δ) (age : ℕ) :
    versions.ago age ∈ versions.current :: versions.past := by
  unfold ago
  rw [List.getD_eq_getElem?_getD]
  cases h : (versions.current :: versions.past)[age]? with
  | none => simp
  | some db => exact List.mem_of_getElem? h

theorem Ever.current (h : versions.Ever p) : p versions.current := h _ List.mem_cons_self

theorem Ever.seen (h : versions.Ever p) (ages : List ℕ) (place : ℕ) :
    p (versions.seen ages place) :=
  h _ (ago_mem versions _)

theorem Ever.commit (h : versions.Ever p) {db : δ} (hdb : p db) : (versions.commit db).Ever p := by
  intro other hother
  rcases List.mem_cons.1 hother with rfl | hother
  · exact hdb
  · exact h other hother

theorem Grown.seen (h : versions.Grown before) (ages : List ℕ) (place : ℕ) :
    before (versions.seen ages place) versions.current :=
  h _ (ago_mem versions _)

theorem Grown.commit (hrefl : ∀ db, before db db)
    (htrans : ∀ first second third, before first second → before second third →
      before first third)
    (h : versions.Grown before) {db : δ} (hdb : before versions.current db) :
    (versions.commit db).Grown before := by
  intro other hother
  rcases List.mem_cons.1 hother with rfl | hother
  · exact hrefl other
  · exact htrans other _ db (h other hother) hdb

/-- The database has only its first version. -/
def init (db : δ) : Versions δ := ⟨db, []⟩

theorem ever_init {db : δ} (h : p db) : (init db).Ever p := by
  intro other hother
  rw [List.mem_singleton.1 hother]
  exact h

theorem grown_init (hrefl : ∀ db, before db db) (db : δ) : (init db).Grown before := by
  intro other hother
  rw [List.mem_singleton.1 hother]
  exact hrefl db

/-- A property of the current version that a step keeps while it extends the order. -/
theorem current_step (hrefl : ∀ db, before db db)
    (htrans : ∀ first second third, before first second → before second third →
      before first third)
    (h : p versions.current ∧ versions.Grown before)
    (hstep : ∀ result db, Tx.Commits (tx call.input (versions.seen call.ages)) versions.current
      result db → p db ∧ before versions.current db) :
    p (step tx versions call).1.current ∧ (step tx versions call).1.Grown before := by
  rcases step_cases tx versions call with ⟨result, db, hcommits, heq⟩ | ⟨e, heq⟩
  · rw [heq]
    obtain ⟨hp, hgrown⟩ := hstep result db hcommits
    exact ⟨hp, h.2.commit hrefl htrans hgrown⟩
  · rw [heq]
    exact h

section Induction

variable (tx p before)

/-- **What every commit preserves holds of every version.** -/
theorem ever_run (hstep : ∀ input (seen : ℕ → δ) db result db', (∀ place, p (seen place)) → p db →
      Tx.Commits (tx input seen) db result db' → p db')
    (h : versions.Ever p) (calls : List (Call ε)) : (run (step tx) versions calls).Ever p := by
  refine run_induction (p := Ever p) (fun versions call hversions => ?_) h calls
  rcases step_cases tx versions call with ⟨result, db, hcommits, heq⟩ | ⟨e, heq⟩
  · rw [heq]
    exact hversions.commit (hstep call.input (versions.seen call.ages) versions.current result db
      (fun place => hversions.seen call.ages place) hversions.current hcommits)
  · rw [heq]
    exact hversions

variable (hrefl : ∀ db, before db db)
  (htrans : ∀ first second third, before first second → before second third → before first third)
  (hstep : ∀ input (seen : ℕ → δ) db result db', (∀ place, p (seen place) ∧ before (seen place) db) →
    p db → Tx.Commits (tx input seen) db result db' → p db' ∧ before db db')
include hrefl htrans hstep

theorem grown_step (h : versions.Ever p ∧ versions.Grown before) (call : Call ε) :
    (step tx versions call).1.Ever p ∧ (step tx versions call).1.Grown before := by
  rcases step_cases tx versions call with ⟨result, db, hcommits, heq⟩ | ⟨e, heq⟩
  · rw [heq]
    obtain ⟨hp, hgrown⟩ := hstep call.input (versions.seen call.ages) versions.current result db
      (fun place => ⟨h.1.seen call.ages place, h.2.seen call.ages place⟩) h.1.current hcommits
    exact ⟨h.1.commit hp, h.2.commit hrefl htrans hgrown⟩
  · rw [heq]
    exact h

/-- **What every commit preserves and extends holds of every version.** -/
theorem grown_run (h : versions.Ever p ∧ versions.Grown before) (calls : List (Call ε)) :
    (run (step tx) versions calls).Ever p ∧ (run (step tx) versions calls).Grown before :=
  run_induction (p := fun versions : Versions δ => versions.Ever p ∧ versions.Grown before)
    (fun _ call hversions => grown_step tx p before hrefl htrans hstep hversions call) h calls

end Induction

end Versions

end Lib
