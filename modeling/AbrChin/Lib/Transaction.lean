import Mathlib.Logic.Basic

/-!
# Database transactions that can fail

`Tx σ ε α` is the body of an interactive transaction over a database `σ`: it
reads and writes the database and either returns a value or throws.  A throw
keeps the writes made before it, since a handler inside the body sees them;
`Tx.transaction` is the boundary that rolls an uncaught throw back.

Proofs about a body go through `Commits`: what it means that the body returns,
one rule per construct.  `simp` with these rules turns a do-block into the list
of its paths.
-/

namespace Lib

/-- A transaction body over the database `σ`, with errors `ε`. -/
def Tx (σ ε α : Type) : Type := σ → Except ε α × σ

namespace Tx

variable {σ ε α β : Type}

instance : Monad (Tx σ ε) where
  pure a := fun db => (.ok a, db)
  bind body next := fun db =>
    match body db with
    | (.ok a, db') => next a db'
    | (.error e, db') => (.error e, db')

/-- Throw, keeping the writes made so far. -/
def throw (e : ε) : Tx σ ε α := fun db => (.error e, db)

/-- Run `body`; an error it throws goes to `handler`, which sees its writes. -/
def tryCatch (body : Tx σ ε α) (handler : ε → Tx σ ε α) : Tx σ ε α := fun db =>
  match body db with
  | (.ok a, db') => (.ok a, db')
  | (.error e, db') => handler e db'

/-- Read the database. -/
def get : Tx σ ε σ := fun db => (.ok db, db)

/-- Write the database. -/
def modify (f : σ → σ) : Tx σ ε Unit := fun db => (.ok (), f db)

/-- Write the database unless a constraint refuses the write. -/
def attempt (e : ε) (f : σ → Option σ) : Tx σ ε Unit := fun db =>
  match f db with
  | some db' => (.ok (), db')
  | none => (.error e, db)

/-- A pure computation that may throw. -/
def ofExcept : Except ε α → Tx σ ε α
  | .ok a => pure a
  | .error e => throw e

/-- Throw when a condition holds. -/
def throwIf (p : Prop) [Decidable p] (e : ε) : Tx σ ε Unit := if p then throw e else pure ()

/-- A value that has to be there. -/
def orThrow (e : ε) : Option α → Tx σ ε α
  | some a => pure a
  | none => throw e

/-- Run `body`; `f` translates an error it throws. -/
def mapError {ε' : Type} (f : ε → ε') (body : Tx σ ε α) : Tx σ ε' α := fun db =>
  match body db with
  | (.ok a, db') => (.ok a, db')
  | (.error e, db') => (.error (f e), db')

/-- Run a body on one part of a larger database. -/
def zoom {τ : Type} (part : τ → σ) (put : τ → σ → τ) (body : Tx σ ε α) : Tx τ ε α := fun db =>
  match body (part db) with
  | (result, part') => (result, put db part')

/-- Run a body on its own, without a transaction around it. -/
def run (body : Tx σ ε α) (db : σ) : Except ε α × σ := body db

/-- The transaction around a body: an uncaught error rolls its writes back. -/
def transaction (body : Tx σ ε α) (db : σ) : Except ε α × σ :=
  match body db with
  | (.ok a, db') => (.ok a, db')
  | (.error e, _) => (.error e, db)

/-- From `db`, the body returns `a` and leaves `db'`. -/
def Commits (body : Tx σ ε α) (db : σ) (a : α) (db' : σ) : Prop := body db = (.ok a, db')

/-- From `db`, the body throws `e` and leaves `db'`. -/
def Throws (body : Tx σ ε α) (db : σ) (e : ε) (db' : σ) : Prop := body db = (.error e, db')

section Rules

variable {db db' : σ} {a a' : α} {b : β} {e e' : ε}

@[simp] theorem commits_pure : Commits (pure a : Tx σ ε α) db a' db' ↔ a' = a ∧ db' = db := by
  simp [Commits, pure, eq_comm]

variable {body : Tx σ ε α} {next : α → Tx σ ε β}

@[simp] theorem commits_bind :
    Commits (body >>= next) db b db' ↔
      ∃ a mid, Commits body db a mid ∧ Commits (next a) mid b db' := by
  simp only [Commits, bind]
  cases hbody : body db with
  | mk result mid => cases result <;> simp [and_assoc]

@[simp] theorem commits_throw : ¬ Commits (throw e : Tx σ ε α) db a db' := by
  simp [Commits, throw]

@[simp] theorem commits_get {read : σ} :
    Commits (get : Tx σ ε σ) db read db' ↔ read = db ∧ db' = db := by
  simp [Commits, get, eq_comm]

@[simp] theorem commits_modify {f : σ → σ} {u : Unit} :
    Commits (modify f : Tx σ ε Unit) db u db' ↔ db' = f db := by
  simp [Commits, modify, eq_comm]

@[simp] theorem commits_attempt {f : σ → Option σ} {u : Unit} :
    Commits (attempt e f : Tx σ ε Unit) db u db' ↔ f db = some db' := by
  simp only [Commits, attempt]
  cases f db <;> simp

@[simp] theorem commits_ofExcept {x : Except ε α} :
    Commits (ofExcept x : Tx σ ε α) db a db' ↔ x = .ok a ∧ db' = db := by
  cases x <;> simp [ofExcept, eq_comm]

@[simp] theorem commits_throwIf {p : Prop} [Decidable p] {u : Unit} :
    Commits (throwIf p e : Tx σ ε Unit) db u db' ↔ ¬ p ∧ db' = db := by
  by_cases h : p <;> simp [throwIf, h]

@[simp] theorem commits_orThrow {x : Option α} :
    Commits (orThrow e x : Tx σ ε α) db a db' ↔ x = some a ∧ db' = db := by
  cases x <;> simp [orThrow, eq_comm]

theorem commits_get_bind {next : σ → Tx σ ε β} :
    Commits (get >>= next) db b db' ↔ Commits (next db) db b db' := Iff.rfl

theorem commits_orThrow_bind {x : Option α} :
    Commits (orThrow e x >>= next) db b db' ↔ ∃ a, x = some a ∧ Commits (next a) db b db' := by
  simp [and_assoc]

theorem commits_throwIf_bind {p : Prop} [Decidable p] {next : Unit → Tx σ ε β} :
    Commits (throwIf p e >>= next) db b db' ↔ ¬ p ∧ Commits (next ()) db b db' := by
  by_cases h : p
  · simp [throwIf, h]
  · simp only [throwIf, h, not_false_eq_true, true_and]
    exact Iff.rfl

theorem commits_ite {p : Prop} [Decidable p] {yes no : Tx σ ε α} :
    Commits (if p then yes else no) db a db' ↔
      (p ∧ Commits yes db a db') ∨ (¬ p ∧ Commits no db a db') := by
  by_cases h : p <;> simp [h]

theorem commits_tryCatch {handler : ε → Tx σ ε α} :
    Commits (tryCatch body handler) db a db' ↔
      Commits body db a db' ∨
        ∃ e mid, Throws body db e mid ∧ Commits (handler e) mid a db' := by
  simp only [Commits, Throws, tryCatch]
  cases hbody : body db with
  | mk result mid => cases result <;> simp [and_assoc]

@[simp] theorem commits_mapError {ε' : Type} {f : ε → ε'} :
    Commits (mapError f body) db a db' ↔ Commits body db a db' := by
  simp only [Commits, mapError]
  cases hbody : body db with
  | mk result mid => cases result <;> simp

@[simp] theorem commits_zoom {τ : Type} {part : τ → σ} {put : τ → σ → τ} {large large' : τ} :
    Commits (zoom part put body) large a large' ↔
      ∃ part', Commits body (part large) a part' ∧ large' = put large part' := by
  simp only [Commits, zoom]
  cases hbody : body (part large) with
  | mk result part' =>
      simp only [Prod.mk.injEq]
      constructor
      · rintro ⟨hresult, rfl⟩
        exact ⟨part', ⟨hresult, rfl⟩, rfl⟩
      · rintro ⟨_, ⟨hresult, rfl⟩, rfl⟩
        exact ⟨hresult, rfl⟩

@[simp] theorem throws_pure : ¬ Throws (pure a : Tx σ ε α) db e db' := by
  simp [Throws, pure]

@[simp] theorem throws_throw : Throws (throw e' : Tx σ ε α) db e db' ↔ e = e' ∧ db' = db := by
  simp [Throws, throw, eq_comm]

@[simp] theorem throws_bind :
    Throws (body >>= next) db e db' ↔
      Throws body db e db' ∨ ∃ a mid, Commits body db a mid ∧ Throws (next a) mid e db' := by
  simp only [Commits, Throws, bind]
  cases hbody : body db with
  | mk result mid => cases result <;> simp [and_assoc]

@[simp] theorem throws_get : ¬ Throws (get : Tx σ ε σ) db e db' := by
  simp [Throws, get]

@[simp] theorem throws_attempt {f : σ → Option σ} :
    Throws (attempt e' f : Tx σ ε Unit) db e db' ↔ f db = none ∧ e = e' ∧ db' = db := by
  simp only [Throws, attempt]
  cases f db <;> simp [eq_comm]

@[simp] theorem throws_ofExcept {x : Except ε α} :
    Throws (ofExcept x : Tx σ ε α) db e db' ↔ x = .error e ∧ db' = db := by
  cases x <;> simp [ofExcept, eq_comm]

@[simp] theorem throws_orThrow {x : Option α} :
    Throws (orThrow e' x : Tx σ ε α) db e db' ↔ x = none ∧ e = e' ∧ db' = db := by
  cases x <;> simp [orThrow]

@[simp] theorem throws_mapError {ε' : Type} {f : ε → ε'} {e : ε'} :
    Throws (mapError f body) db e db' ↔ ∃ e', f e' = e ∧ Throws body db e' db' := by
  simp only [Throws, mapError]
  cases hbody : body db with
  | mk result mid => cases result <;> simp [and_left_comm]

theorem throws_ite {p : Prop} [Decidable p] {yes no : Tx σ ε α} :
    Throws (if p then yes else no) db e db' ↔
      (p ∧ Throws yes db e db') ∨ (¬ p ∧ Throws no db e db') := by
  by_cases h : p <;> simp [h]

/-- A body that does not throw commits what it leaves. -/
theorem commits_of_isOk (h : (body db).1.isOk = true) : ∃ a, Commits body db a (body db).2 := by
  cases hbody : body db with
  | mk result mid =>
      cases result with
      | ok a => exact ⟨a, hbody⟩
      | error e =>
          rw [hbody] at h
          cases h

theorem run_ok : run body db = (.ok a, db') ↔ Commits body db a db' := Iff.rfl

theorem run_error : run body db = (.error e, db') ↔ Throws body db e db' :=
  Iff.rfl

/-- A transaction that returns is its body. -/
theorem transaction_ok : transaction body db = (.ok a, db') ↔ Commits body db a db' := by
  simp only [transaction, Commits]
  cases hbody : body db with
  | mk result mid => cases result <;> simp

/-- A transaction that throws leaves the database as it was. -/
theorem transaction_error (h : transaction body db = (.error e, db')) :
    db' = db ∧ ∃ mid, Throws body db e mid := by
  simp only [transaction] at h
  cases hbody : body db with
  | mk result mid =>
      rw [hbody] at h
      cases result with
      | ok a => cases h
      | error e' =>
          cases h
          exact ⟨rfl, mid, hbody⟩

end Rules

end Tx

/-! ## Pure computations that can fail -/

theorem bind_eq_ok {ε α β : Type} {x : Except ε α} {f : α → Except ε β} {b : β} :
    x >>= f = .ok b ↔ ∃ a, x = .ok a ∧ f a = .ok b := by
  cases x <;> simp [bind, Except.bind]

theorem toOption_eq_some {ε α : Type} {x : Except ε α} {a : α} :
    x.toOption = some a ↔ x = .ok a := by
  cases x <;> simp [Except.toOption]

/-- Every result of a traversal is the result of one of its elements. -/
theorem exists_of_mem_mapM {ε α β : Type} {f : α → Except ε β} {xs : List α} {ys : List β}
    (h : xs.mapM f = .ok ys) {y : β} (hy : y ∈ ys) : ∃ x ∈ xs, f x = .ok y := by
  induction xs generalizing ys with
  | nil =>
      cases h
      cases hy
  | cons x xs ih =>
      rw [List.mapM_cons] at h
      obtain ⟨first, hfirst, h⟩ := bind_eq_ok.1 h
      obtain ⟨rest, hrest, h⟩ := bind_eq_ok.1 h
      cases h
      rcases List.mem_cons.1 hy with rfl | hmem
      · exact ⟨x, List.mem_cons_self, hfirst⟩
      · obtain ⟨other, hother, hf⟩ := ih hrest hmem
        exact ⟨other, List.mem_cons_of_mem x hother, hf⟩

/-- What every step of a fold keeps holds of its result. -/
theorem foldlM_keeps {ε α β : Type} {f : β → α → Except ε β} {P : β → Prop} {xs : List α}
    {start result : β} (hstep : ∀ acc x acc', x ∈ xs → P acc → f acc x = .ok acc' → P acc')
    (hstart : P start) (h : xs.foldlM f start = .ok result) : P result := by
  induction xs generalizing start with
  | nil =>
      cases h
      exact hstart
  | cons x xs ih =>
      rw [List.foldlM_cons] at h
      obtain ⟨acc, hacc, h⟩ := bind_eq_ok.1 h
      refine ih (fun acc y acc' hy => hstep acc y acc' (List.mem_cons_of_mem x hy)) ?_ h
      exact hstep start x acc List.mem_cons_self hstart hacc

/-- Fail when a condition holds. -/
def throwIf {ε : Type} (p : Prop) [Decidable p] (e : ε) : Except ε Unit :=
  if p then .error e else .ok ()

@[simp] theorem throwIf_eq_ok {ε : Type} {p : Prop} [Decidable p] {e : ε} {u : Unit} :
    throwIf p e = .ok u ↔ ¬ p := by
  by_cases h : p <;> simp [throwIf, h]

theorem map_eq_ok {ε α β : Type} {x : Except ε α} {f : α → β} {b : β} :
    x.map f = .ok b ↔ ∃ a, x = .ok a ∧ f a = b := by
  cases x <;> simp [Except.map]

/-! ## What can be thrown -/

/-- A pure computation whose errors all satisfy `p`. -/
def ErrsOnly {ε α : Type} (p : ε → Prop) (x : Except ε α) : Prop := ∀ e, x = .error e → p e

/-- A transaction body whose errors all satisfy `p`. -/
def Tx.ThrowsOnly {σ ε α : Type} (p : ε → Prop) (body : Tx σ ε α) : Prop :=
  ∀ db e db', Tx.Throws body db e db' → p e

section ErrorRules

variable {σ ε α β : Type} {p : ε → Prop} {e : ε}

theorem errsOnly_ok {a : α} : ErrsOnly p (.ok a : Except ε α) := by
  intro e h
  cases h

variable {x : Except ε α}

theorem errsOnly_error (hx : x = .error e) (h : p e) : ErrsOnly p x := by
  intro e' he
  cases hx.symm.trans he
  exact h

theorem errsOnly_bind {f : α → Except ε β} (hx : ErrsOnly p x) (hf : ∀ a, ErrsOnly p (f a)) :
    ErrsOnly p (x >>= f) := by
  cases x with
  | error e => exact fun e' h => hx e' (by simpa [bind, Except.bind] using h)
  | ok a => exact hf a

theorem errsOnly_map {f : α → β} (hx : ErrsOnly p x) : ErrsOnly p (x.map f) := by
  cases x with
  | error e => exact fun e' h => hx e' (by simpa [Except.map] using h)
  | ok a => exact errsOnly_ok

namespace Tx

theorem throwsOnly_pure {a : α} : ThrowsOnly p (pure a : Tx σ ε α) :=
  fun _ _ _ h => (throws_pure h).elim

theorem throwsOnly_throw (h : p e) : ThrowsOnly p (throw e : Tx σ ε α) :=
  fun _ _ _ hthrow => (throws_throw.1 hthrow).1 ▸ h

theorem throwsOnly_get : ThrowsOnly p (get : Tx σ ε σ) :=
  fun _ _ _ h => (throws_get h).elim

theorem throwsOnly_attempt {f : σ → Option σ} (h : p e) : ThrowsOnly p (attempt e f) :=
  fun _ _ _ hthrow => (throws_attempt.1 hthrow).2.1 ▸ h

theorem throwsOnly_orThrow {x : Option α} (h : p e) : ThrowsOnly p (orThrow e x : Tx σ ε α) :=
  fun _ _ _ hthrow => (throws_orThrow.1 hthrow).2.1 ▸ h

theorem throwsOnly_ofExcept (h : ErrsOnly p x) : ThrowsOnly p (ofExcept x : Tx σ ε α) :=
  fun _ e _ hthrow => h e (throws_ofExcept.1 hthrow).1

theorem throwsOnly_bind {body : Tx σ ε α} {next : α → Tx σ ε β} (hbody : ThrowsOnly p body)
    (hnext : ∀ a, ThrowsOnly p (next a)) : ThrowsOnly p (body >>= next) := by
  intro db e db' h
  rcases throws_bind.1 h with h | ⟨a, mid, -, h⟩
  · exact hbody db e db' h
  · exact hnext a mid e db' h

/-- Only what the body throws reaches the handler. -/
theorem throwsOnly_tryCatch {q : ε → Prop} {body : Tx σ ε α} {handler : ε → Tx σ ε α}
    (hbody : ThrowsOnly q body) (hhandler : ∀ e, q e → ThrowsOnly p (handler e)) :
    ThrowsOnly p (tryCatch body handler) := by
  intro db e db' h
  simp only [Throws, tryCatch] at h
  cases hrun : body db with
  | mk result mid =>
      rw [hrun] at h
      cases result with
      | ok a => cases h
      | error e' => exact hhandler e' (hbody db e' mid hrun) mid e db' h

end Tx

end ErrorRules

/-! ## Frames

What a transaction leaves as it is.  `part` reads a part of the state: a projection, or a tuple of
several.  A body keeps a part when no commit changes it, and the rules below follow the way in which
a body is put together, so that a frame is proved without looking at what the body computes.
-/

namespace Tx

variable {σ ε α β π : Type} {part : σ → π}

/-- Every commit of the body leaves a part of the state as it is. -/
def Keeps (part : σ → π) (body : Tx σ ε α) : Prop :=
  ∀ db a db', Commits body db a db' → part db' = part db

theorem keeps_pure {a : α} : Keeps part (pure a : Tx σ ε α) := by
  intro db b db' h
  rw [(commits_pure.1 h).2]

theorem keeps_get : Keeps part (get : Tx σ ε σ) := by
  intro db read db' h
  rw [(commits_get.1 h).2]

theorem keeps_ofExcept {x : Except ε α} : Keeps part (ofExcept x) := by
  intro db a db' h
  rw [(commits_ofExcept.1 h).2]

theorem keeps_throwIf {p : Prop} [Decidable p] {e : ε} :
    Keeps part (throwIf p e : Tx σ ε Unit) := by
  intro db u db' h
  rw [(commits_throwIf.1 h).2]

theorem keeps_orThrow {e : ε} {x : Option α} : Keeps part (orThrow e x) := by
  intro db a db' h
  rw [(commits_orThrow.1 h).2]

theorem keeps_modify {f : σ → σ} (hf : ∀ db, part (f db) = part db) :
    Keeps part (modify f : Tx σ ε Unit) := by
  intro db u db' h
  rw [commits_modify.1 h]
  exact hf db

theorem keeps_attempt {e : ε} {f : σ → Option σ}
    (hf : ∀ db db', f db = some db' → part db' = part db) : Keeps part (attempt e f) := by
  intro db u db' h
  exact hf db db' (commits_attempt.1 h)

/-- A statement on another part of a larger state. -/
theorem keeps_zoom {τ : Type} {focus : τ → σ} {put : τ → σ → τ} {body : Tx σ ε α} {part : τ → π}
    (hput : ∀ large small, part (put large small) = part large) :
    Keeps part (zoom focus put body) := by
  intro large a large' h
  obtain ⟨small, -, rfl⟩ := commits_zoom.1 h
  exact hput large small

theorem keeps_bind {body : Tx σ ε α} {next : α → Tx σ ε β} (hbody : Keeps part body)
    (hnext : ∀ a, Keeps part (next a)) : Keeps part (body >>= next) := by
  intro db b db' h
  obtain ⟨a, mid, hcommits, hrest⟩ := commits_bind.1 h
  calc part db' = part mid := hnext a mid b db' hrest
    _ = part db := hbody db a mid hcommits

theorem keeps_ite {p : Prop} [Decidable p] {yes no : Tx σ ε α} (hyes : Keeps part yes)
    (hno : Keeps part no) : Keeps part (if p then yes else no) := by
  by_cases hp : p
  · rw [if_pos hp]
    exact hyes
  · rw [if_neg hp]
    exact hno

end Tx

end Lib
