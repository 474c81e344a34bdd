import AbrChin.Lib.Run

/-!
# Concurrent calls over one database

A call that is not one transaction is a sequence of *tasks*: the database
transactions and outside calls that it makes, one after another.  A `Pool` is a
database with the tasks that are under way.  A step runs one task, which leaves
the pool for the tasks that follow it; between two tasks of one call any tasks
of other calls may run.

`Pool.Holds p q` says that the database satisfies `p` and each task `q`, and is
the form of the invariants of such systems.
-/

namespace Lib

/-- A database and what the calls under way still have to do. -/
structure Pool (δ τ : Type*) where
  db : δ
  tasks : List τ

namespace Pool

variable {δ τ : Type*}

/-- Start calls. -/
def start (pool : Pool δ τ) (tasks : List τ) : Pool δ τ := ⟨pool.db, pool.tasks ++ tasks⟩

/-- The task at place `i` is done: it has written the database and left `next`. -/
def finish (pool : Pool δ τ) (i : ℕ) (db : δ) (next : List τ) : Pool δ τ :=
  ⟨db, pool.tasks.eraseIdx i ++ next⟩

/-- A task that was under way still is, or it is the one that is done. -/
theorem mem_finish {pool : Pool δ τ} {i : ℕ} {db : δ} {next : List τ} {task : τ}
    (h : task ∈ pool.tasks) :
    task ∈ (pool.finish i db next).tasks ∨ pool.tasks[i]? = some task := by
  obtain ⟨j, hj⟩ := List.mem_iff_getElem?.1 h
  by_cases hij : j = i
  · exact .inr (hij ▸ hj)
  · exact .inl (List.mem_append_left _ (List.mem_eraseIdx_iff_getElem?.2 ⟨j, hij, hj⟩))

/-- The database satisfies `p`, and every task satisfies `q` over it. -/
def Holds (p : δ → Prop) (q : δ → τ → Prop) (pool : Pool δ τ) : Prop :=
  p pool.db ∧ ∀ task ∈ pool.tasks, q pool.db task

variable {p : δ → Prop} {q : δ → τ → Prop}

end Pool

/-! ## Counting the calls at a stage

When all that matters of the calls that run at the same time is how far each has come, they are a
list of stages, and one of them takes a step by taking its place in the list.  What an invariant needs
is how many calls are at a stage of some kind; `countP_step` is the balance of a step.
-/

namespace Calls

variable {κ : Type} {calls : List κ} {place : ℕ} {old new : κ} (p : κ → Bool)

/-- The balance of a step: the call leaves one stage and goes to the next. -/
theorem countP_step (h : calls[place]? = some old) :
    (calls.set place new).countP p + (if p old then 1 else 0) =
      calls.countP p + (if p new then 1 else 0) := by
  obtain ⟨hlt, hget⟩ := List.getElem?_eq_some_iff.1 h
  have hle : (if p calls[place] then 1 else 0) ≤ calls.countP p := List.boole_getElem_le_countP hlt
  rw [List.countP_set hlt]
  rw [hget] at hle ⊢
  omega

/-- A call that begins. -/
theorem countP_begin : (calls ++ [new]).countP p = calls.countP p + if p new then 1 else 0 := by
  rw [List.countP_append, List.countP_singleton]

/-- The calls after a step are the new stage of one of them, and others. -/
theorem mem_of_mem_set {call : κ} (h : call ∈ calls.set place new) : call = new ∨ call ∈ calls :=
  (List.mem_or_eq_of_mem_set h).symm

end Calls

end Lib
