import Mathlib.Logic.Function.Basic

/-!
# Transactions, statement by statement

At the isolation level READ COMMITTED a statement of a transaction sees what has been committed by then, and
what the transaction has written itself.  A row that a transaction has locked or written is its own until it
ends; the statements of the others that lock or write the row wait.

A `Script` is a transaction, a `Session` one that is under way, and `Session.statement` runs its next
statement.  What a script writes is known from the script alone: `Script.Writes` says how it changes a row, and
`Session.Writes` carries it to the commit, as nobody else has changed the row in the meantime.
-/

namespace Lib

variable {Row : Type} {Val : Row → Type} {ε α β Client : Type}

/-! ## Scripts -/

/-- A transaction on rows with values: what it does next may depend on all it has seen. -/
inductive Script (Val : Row → Type) (ε α : Type) where
  | done (a : α)
  | throw (e : ε)
  /-- A query: what comes next may depend on every row. -/
  | read (next : ((row : Row) → Val row) → Script Val ε α)
  /-- `SELECT … FOR UPDATE` -/
  | lock (row : Row) (next : Val row → Script Val ε α)
  /-- An update of a row that its clause takes; the script goes on with whether it has taken it. -/
  | update (row : Row) (f : Val row → Option (Val row)) (next : Bool → Script Val ε α)

namespace Script

def bind : Script Val ε α → (α → Script Val ε β) → Script Val ε β
  | done a, next => next a
  | throw e, _ => throw e
  | read rest, next => read fun view => (rest view).bind next
  | lock row rest, next => lock row fun value => (rest value).bind next
  | update row f rest, next => update row f fun taken => (rest taken).bind next

instance : Monad (Script Val ε) where
  pure := done
  bind := bind

def throwIf (p : Prop) [Decidable p] (e : ε) : Script Val ε Unit :=
  if p then throw e else done ()

def onlyIf (p : Prop) [Decidable p] (script : Script Val ε Unit) : Script Val ε Unit :=
  if p then script else done ()

/-- What a query returns. -/
def query (result : ((row : Row) → Val row) → α) : Script Val ε α := read fun view => done (result view)

/-- The value of a row. -/
def get (row : Row) : Script Val ε (Val row) := query fun view => view row

/-- The value of a row that is locked. -/
def getLocked (row : Row) : Script Val ε (Val row) := lock row done

/-- Update a row, if its clause takes it. -/
def updateMany (row : Row) (f : Val row → Option (Val row)) : Script Val ε Bool := update row f done

/-- The transaction is at its end. -/
def isDone : Script Val ε α → Bool
  | done _ => true
  | _ => false

/-- The transaction is about to fail. -/
def isThrow : Script Val ε α → Bool
  | throw _ => true
  | _ => false

@[simp] theorem pure_bind' (a : α) (next : α → Script Val ε β) : (done a).bind next = next a := rfl

/-! ## What a script writes -/

/-- Every write of the script changes its row as `R` says. -/
def Writes (R : (row : Row) → Val row → Val row → Prop) : Script Val ε α → Prop
  | done _ => True
  | throw _ => True
  | read next => ∀ view, (next view).Writes R
  | lock _ next => ∀ value, (next value).Writes R
  | update row f next => (∀ old new, f old = some new → R row old new) ∧ ∀ taken, (next taken).Writes R

variable {R : (row : Row) → Val row → Val row → Prop} {script : Script Val ε α}
  {next : α → Script Val ε β}

theorem Writes.bind (hscript : script.Writes R) (hnext : ∀ a, (next a).Writes R) :
    (script >>= next).Writes R := by
  induction script with
  | done a => exact hnext a
  | throw e => trivial
  | read rest ih => exact fun view => ih view (hscript view)
  | lock row rest ih => exact fun value => ih value (hscript value)
  | update row f rest ih => exact ⟨hscript.1, fun taken => ih taken (hscript.2 taken)⟩

theorem writes_throwIf {p : Prop} [Decidable p] {e : ε} :
    (throwIf p e : Script Val ε Unit).Writes R := by
  unfold throwIf
  by_cases h : p
  · rw [if_pos h]
    trivial
  · rw [if_neg h]
    trivial

theorem writes_onlyIf {p : Prop} [Decidable p] {script : Script Val ε Unit} (h : script.Writes R) :
    (onlyIf p script).Writes R := by
  unfold onlyIf
  by_cases hp : p
  · rw [if_pos hp]
    exact h
  · rw [if_neg hp]
    trivial

theorem writes_pure (a : α) : (pure a : Script Val ε α).Writes R := trivial

theorem writes_query (result : ((row : Row) → Val row) → α) :
    (query result : Script Val ε α).Writes R := fun _ => trivial

theorem writes_get (row : Row) : (get row : Script Val ε (Val row)).Writes R := writes_query _

theorem writes_getLocked (row : Row) : (getLocked row : Script Val ε (Val row)).Writes R :=
  fun _ => trivial

theorem writes_updateMany {row : Row} {f : Val row → Option (Val row)}
    (h : ∀ old new, f old = some new → R row old new) :
    (updateMany row f : Script Val ε Bool).Writes R := ⟨h, fun _ => trivial⟩

/-! ## How a script ends -/

/-- Every way through the script ends with a result as `Q` says. -/
def Ends (Q : α → Prop) : Script Val ε α → Prop
  | done a => Q a
  | throw _ => True
  | read next => ∀ view, (next view).Ends Q
  | lock _ next => ∀ value, (next value).Ends Q
  | update _ _ next => ∀ taken, (next taken).Ends Q

theorem Ends.bind {Q : β → Prop} (h : script.Ends fun a => (next a).Ends Q) :
    (script >>= next).Ends Q := by
  induction script with
  | done a => exact h
  | throw e => trivial
  | read rest ih => exact fun view => ih view (h view)
  | lock row rest ih => exact fun value => ih value (h value)
  | update row f rest ih => exact fun taken => ih taken (h taken)

theorem ends_of_forall {Q : α → Prop} (hQ : ∀ a, Q a) : script.Ends Q := by
  induction script with
  | done a => exact hQ a
  | throw e => trivial
  | read rest ih => exact fun view => ih view
  | lock row rest ih => exact fun value => ih value
  | update row f rest ih => exact fun taken => ih taken

/-- A script ends as its last part does. -/
theorem ends_bind {Q : β → Prop} (h : ∀ a, (next a).Ends Q) : (script >>= next).Ends Q :=
  .bind (ends_of_forall h)

/-- Every write of the script changes its row as `R` says, and every way through it ends as `Q` says. -/
structure Does (R : (row : Row) → Val row → Val row → Prop) (Q : α → Prop) (script : Script Val ε α) :
    Prop where
  writes : script.Writes R
  ends : script.Ends Q

theorem does_pure {Q : α → Prop} {a : α} (h : Q a) : (pure a : Script Val ε α).Does R Q := ⟨trivial, h⟩

/-- A script that goes on does what its first part writes and its rest does. -/
theorem Writes.does {Q : β → Prop} (hscript : script.Writes R) (hnext : ∀ a, (next a).Does R Q) :
    (script >>= next).Does R Q :=
  ⟨hscript.bind fun a => (hnext a).writes, ends_bind fun a => (hnext a).ends⟩

end Script

/-! ## Sessions -/

/-- A transaction that is under way, with what it has written. -/
structure Session (Val : Row → Type) (ε α : Type) where
  script : Script Val ε α
  written : (row : Row) → Option (Val row) := fun _ => none
  wrote : Bool := false

/-- What is committed, and who holds the locks. -/
structure Shared (Client : Type) (Val : Row → Type) where
  db : (row : Row) → Val row
  holder : Row → Option Client

inductive Outcome (Val : Row → Type) (ε α : Type) where
  /-- The statement waits for a lock. -/
  | waiting
  | running (session : Session Val ε α)
  | finished (a : α)
  | failed (e : ε)

/-- A row as the session sees it. -/
def Session.view (session : Session Val ε α) (db : (row : Row) → Val row) (row : Row) : Val row :=
  (session.written row).getD (db row)

theorem Session.view_of_unwritten {session : Session Val ε α} {db : (row : Row) → Val row} {row : Row}
    (h : session.written row = none) : session.view db row = db row := by
  rw [Session.view, h]
  rfl

/-- Nobody else holds the row. -/
def Shared.free [DecidableEq Client] (shared : Shared Client Val) (client : Client) (row : Row) : Bool :=
  shared.holder row = none || shared.holder row = some client

def Shared.take [DecidableEq Row] (shared : Shared Client Val) (client : Client) (row : Row) :
    Shared Client Val :=
  { shared with holder := Function.update shared.holder row (some client) }

/-- A client gives back its locks. -/
def Shared.release [DecidableEq Client] (shared : Shared Client Val) (client : Client) :
    Shared Client Val :=
  { shared with
    holder := fun row => if shared.holder row = some client then none else shared.holder row }

def Shared.commit [DecidableEq Client] (shared : Shared Client Val) (client : Client)
    (session : Session Val ε α) : Shared Client Val :=
  { shared.release client with db := session.view shared.db }

variable [DecidableEq Row] [DecidableEq Client]

/-- The next statement of a session. -/
def Session.statement (client : Client) (shared : Shared Client Val) (session : Session Val ε α) :
    Shared Client Val × Outcome Val ε α :=
  match session.script with
  | .done a => (shared, .finished a)
  | .throw e => (shared, .failed e)
  | .read next =>
      (shared, .running { session with script := next (session.view shared.db) })
  | .lock row next =>
      if shared.free client row = true then
        (shared.take client row, .running { session with script := next (session.view shared.db row) })
      else (shared, .waiting)
  | .update row f next =>
      if shared.free client row = true then
        match f (session.view shared.db row) with
        | none => (shared, .running { session with script := next false })
        | some value => (shared.take client row,
            .running ⟨next true, Function.update session.written row (some value), true⟩)
      else (shared, .waiting)

/-! ## What a statement leaves alone -/

section Sessions

variable {R : (row : Row) → Val row → Val row → Prop} {guard : Row}
  {Owned : (row : Row) → Val row → Prop} {Q : Bool → α → Prop} {client other : Client}
  {shared later : Shared Client Val} {session rest : Session Val ε α}

/-- The rows that the client holds stay as they are, and its own. -/
structure Shared.Respects (client : Client) (shared later : Shared Client Val) : Prop where
  holder : ∀ row, shared.holder row = some client → later.holder row = some client
  db : ∀ row, shared.holder row = some client → later.db row = shared.db row

omit [DecidableEq Row] in
theorem not_free_of_held {row : Row} (hne : other ≠ client) (hheld : shared.holder row = some client) :
    ¬ shared.free other row = true := by
  rw [Shared.free, hheld]
  simp [Ne.symm hne]

theorem respects_take {row : Row} (hfree : shared.free other row = true) (hne : other ≠ client) :
    shared.Respects client (shared.take other row) where
  holder held hheld := by
    have hrow : held ≠ row := by
      rintro rfl
      exact not_free_of_held hne hheld hfree
    exact (Function.update_of_ne hrow _ _).trans hheld
  db _ _ := rfl

omit [DecidableEq Row] [DecidableEq Client] in
theorem Shared.Respects.refl : shared.Respects client shared := ⟨fun _ => id, fun _ _ => rfl⟩

/-- A statement of somebody else leaves what the client holds. -/
theorem respects_statement (hne : other ≠ client) :
    shared.Respects client (session.statement other shared).1 := by
  cases hscript : session.script with
  | done a =>
      rw [Session.statement, hscript]
      exact .refl
  | throw e =>
      rw [Session.statement, hscript]
      exact .refl
  | read next =>
      rw [Session.statement, hscript]
      exact .refl
  | lock row next =>
      simp only [Session.statement, hscript]
      by_cases hfree : shared.free other row = true
      · rw [if_pos hfree]
        exact respects_take hfree hne
      · rw [if_neg hfree]
        exact .refl
  | update row f next =>
      simp only [Session.statement, hscript]
      by_cases hfree : shared.free other row = true
      · rw [if_pos hfree]
        cases f (session.view shared.db row) with
        | none => exact .refl
        | some value => exact respects_take hfree hne
      · rw [if_neg hfree]
        exact .refl

omit [DecidableEq Row] in
theorem respects_release (hne : other ≠ client) : shared.Respects client (shared.release other) where
  holder row hheld := by
    have hother : shared.holder row ≠ some other := by
      rw [hheld]
      exact fun h => hne (Option.some.inj h).symm
    exact (if_neg hother).trans hheld
  db _ _ := rfl

/-- What the session has written, its client holds. -/
def Session.Holds (client : Client) (shared : Shared Client Val) (session : Session Val ε α) : Prop :=
  ∀ row, (session.written row).isSome = true → shared.holder row = some client

omit [DecidableEq Row] in
theorem respects_commit (hne : other ≠ client) (hholds : session.Holds other shared) :
    shared.Respects client (shared.commit other session) where
  holder := (respects_release hne).holder
  db row hheld := by
    have hunwritten : session.written row = none := by
      rw [← Option.not_isSome_iff_eq_none]
      intro hwritten
      rw [hholds row hwritten] at hheld
      exact hne (Option.some.inj hheld)
    show (session.written row).getD (shared.db row) = shared.db row
    rw [hunwritten]
    rfl

omit [DecidableEq Row] [DecidableEq Client] in
theorem Session.Holds.of_respects (hholds : session.Holds client shared)
    (hrespects : shared.Respects client later) : session.Holds client later :=
  fun row hwritten => hrespects.holder row (hholds row hwritten)

/-! ## What a statement of a session does -/

/-- The statements that go on. -/
theorem statement_cases (h : session.statement client shared = (later, .running rest)) :
    (∃ next, session.script = .read next ∧ later = shared ∧
        rest = { session with script := next (session.view shared.db) }) ∨
      (∃ row next, session.script = .lock row next ∧ later = shared.take client row ∧
        rest = { session with script := next (session.view shared.db row) }) ∨
      (∃ row f next, session.script = .update row f next ∧ f (session.view shared.db row) = none ∧
        later = shared ∧ rest = { session with script := next false }) ∨
      ∃ row f next value, session.script = .update row f next ∧
        f (session.view shared.db row) = some value ∧ later = shared.take client row ∧
        rest = ⟨next true, Function.update session.written row (some value), true⟩ := by
  cases hscript : session.script with
  | done a => simp [Session.statement, hscript] at h
  | throw e => simp [Session.statement, hscript] at h
  | read next =>
      simp only [Session.statement, hscript, Prod.mk.injEq, Outcome.running.injEq] at h
      exact .inl ⟨next, rfl, h.1.symm, h.2.symm⟩
  | lock row next =>
      simp only [Session.statement, hscript] at h
      by_cases hfree : shared.free client row = true
      · simp only [hfree, if_true, Prod.mk.injEq, Outcome.running.injEq] at h
        exact .inr (.inl ⟨row, next, rfl, h.1.symm, h.2.symm⟩)
      · simp [hfree] at h
  | update row f next =>
      simp only [Session.statement, hscript] at h
      by_cases hfree : shared.free client row = true
      · rw [if_pos hfree] at h
        cases hvalue : f (session.view shared.db row) with
        | none =>
            simp only [hvalue, Prod.mk.injEq, Outcome.running.injEq] at h
            exact .inr (.inr (.inl ⟨row, f, next, rfl, hvalue, h.1.symm, h.2.symm⟩))
        | some value =>
            simp only [hvalue, Prod.mk.injEq, Outcome.running.injEq] at h
            exact .inr (.inr (.inr ⟨row, f, next, value, rfl, hvalue, h.1.symm, h.2.symm⟩))
      · simp [hfree] at h

omit [DecidableEq Client] in
theorem holder_take {row held : Row} (hheld : shared.holder held = some client) :
    (shared.take client row).holder held = some client := by
  by_cases hrow : held = row
  · subst hrow
    exact Function.update_self _ _ _
  · exact (Function.update_of_ne hrow _ _).trans hheld

/-- A statement takes locks, and changes nothing that is committed. -/
theorem db_statement : (session.statement client shared).1.db = shared.db := by
  cases hscript : session.script with
  | done a => rw [Session.statement, hscript]
  | throw e => rw [Session.statement, hscript]
  | read next => rw [Session.statement, hscript]
  | lock row next =>
      simp only [Session.statement, hscript]
      by_cases hfree : shared.free client row = true
      · rw [if_pos hfree]
        rfl
      · rw [if_neg hfree]
  | update row f next =>
      simp only [Session.statement, hscript]
      by_cases hfree : shared.free client row = true
      · rw [if_pos hfree]
        cases f (session.view shared.db row) with
        | none => rfl
        | some value => rfl
      · rw [if_neg hfree]

omit [DecidableEq Row] [DecidableEq Client] in
theorem holds_begin (script : Script Val ε α) :
    Session.Holds client shared ⟨script, fun _ => none, false⟩ :=
  fun _ hwritten => Bool.noConfusion hwritten

theorem Session.Holds.statement (hholds : session.Holds client shared)
    (h : session.statement client shared = (later, .running rest)) : rest.Holds client later := by
  rcases statement_cases h with ⟨next, -, rfl, rfl⟩ | ⟨row, next, -, rfl, rfl⟩ |
    ⟨row, f, next, -, -, rfl, rfl⟩ | ⟨row, f, next, value, -, -, rfl, rfl⟩
  · exact hholds
  · exact fun held hwritten => holder_take (hholds held hwritten)
  · exact hholds
  · intro held hwritten
    by_cases hrow : held = row
    · subst hrow
      exact Function.update_self _ _ _
    · have hold : (session.written held).isSome = true := by
        rw [← Function.update_of_ne hrow (some value) session.written]
        exact hwritten
      exact holder_take (hholds held hold)

theorem ends_statement {Q : α → Prop} (hends : session.script.Ends Q)
    (h : session.statement client shared = (later, .running rest)) : rest.script.Ends Q := by
  rcases statement_cases h with ⟨next, heq, -, rfl⟩ | ⟨row, next, heq, -, rfl⟩ |
    ⟨row, f, next, heq, -, -, rfl⟩ | ⟨row, f, next, value, heq, -, -, rfl⟩
  · rw [heq] at hends
    exact hends _
  · rw [heq] at hends
    exact hends _
  · rw [heq] at hends
    exact hends false
  · rw [heq] at hends
    exact hends true

/-- What a session has written stays written. -/
theorem written_statement {row : Row} (hwritten : (session.written row).isSome = true)
    (h : session.statement client shared = (later, .running rest)) :
    (rest.written row).isSome = true := by
  rcases statement_cases h with ⟨next, -, -, rfl⟩ | ⟨held, next, -, -, rfl⟩ |
    ⟨held, f, next, -, -, -, rfl⟩ | ⟨held, f, next, value, -, -, -, rfl⟩
  · exact hwritten
  · exact hwritten
  · exact hwritten
  · show (Function.update session.written held (some value) row).isSome = true
    by_cases hrow : row = held
    · subst hrow
      rw [Function.update_self]
      rfl
    · rw [Function.update_of_ne hrow]
      exact hwritten

/-! ## The writes of a session -/

/-- What the session has written, and will write, changes its rows as `R` says. -/
structure Session.Writes (R : (row : Row) → Val row → Val row → Prop) (db : (row : Row) → Val row)
    (session : Session Val ε α) : Prop where
  script : session.script.Writes R
  written : ∀ row new, session.written row = some new → R row (db row) new

omit [DecidableEq Row] [DecidableEq Client] in
/-- A transaction that begins has written nothing. -/
theorem Script.Writes.toSession {script : Script Val ε α} {db : (row : Row) → Val row}
    (h : script.Writes R) : Session.Writes R db ⟨script, fun _ => none, false⟩ where
  script := h
  written _ _ hwritten := by cases hwritten

theorem Session.Writes.statement (htrans : ∀ row a b c, R row a b → R row b c → R row a c)
    (hwrites : session.Writes R shared.db)
    (h : session.statement client shared = (later, .running rest)) : rest.Writes R later.db := by
  have hscript := hwrites.script
  rcases statement_cases h with ⟨next, heq, rfl, rfl⟩ | ⟨row, next, heq, rfl, rfl⟩ |
    ⟨row, f, next, heq, -, rfl, rfl⟩ | ⟨row, f, next, value, heq, hvalue, rfl, rfl⟩
  · rw [heq] at hscript
    exact ⟨hscript _, hwrites.written⟩
  · rw [heq] at hscript
    exact ⟨hscript _, hwrites.written⟩
  · rw [heq] at hscript
    exact ⟨hscript.2 false, hwrites.written⟩
  · rw [heq] at hscript
    refine ⟨hscript.2 true, fun changed new hnew => ?_⟩
    by_cases hrow : changed = row
    · subst hrow
      replace hnew : Function.update session.written changed (some value) changed = some new := hnew
      rw [Function.update_self] at hnew
      obtain rfl := Option.some.inj hnew
      have hstep := hscript.1 _ _ hvalue
      cases hold : session.written changed with
      | none =>
          rw [Session.view, hold] at hstep
          exact hstep
      | some old =>
          rw [Session.view, hold] at hstep
          exact htrans changed _ _ _ (hwrites.written changed old hold) hstep
    · replace hnew : Function.update session.written row (some value) changed = some new := hnew
      rw [Function.update_of_ne hrow] at hnew
      exact hwrites.written changed new hnew

omit [DecidableEq Row] [DecidableEq Client] in
/-- What others change are not the rows of the session. -/
theorem Session.Writes.of_unchanged {db later : (row : Row) → Val row} (hwrites : session.Writes R db)
    (hunchanged : ∀ row, (session.written row).isSome = true → later row = db row) :
    session.Writes R later where
  script := hwrites.script
  written row new hnew := by
    rw [hunchanged row (by rw [hnew]; rfl)]
    exact hwrites.written row new hnew

omit [DecidableEq Row] in
/-- A commit changes a row as the writes of the session do. -/
theorem Session.Writes.commit (hwrites : session.Writes R shared.db) (client : Client) (row : Row) :
    (shared.commit client session).db row = shared.db row ∨
      R row (shared.db row) ((shared.commit client session).db row) := by
  cases hwritten : session.written row with
  | none =>
      refine .inl ?_
      show (session.written row).getD (shared.db row) = shared.db row
      rw [hwritten]
      rfl
  | some new =>
      refine .inr ?_
      have hnew : (shared.commit client session).db row = new := by
        show (session.written row).getD (shared.db row) = new
        rw [hwritten]
        rfl
      rw [hnew]
      exact hwrites.written row new hwritten

/-- What the session has written changes its rows as `R` says, and its script does as `R` and `Q` say. -/
structure Session.Does (R : (row : Row) → Val row → Val row → Prop) (Q : α → Prop)
    (db : (row : Row) → Val row) (session : Session Val ε α) : Prop where
  writes : session.Writes R db
  ends : session.script.Ends Q

section Does

variable {Q : α → Prop} {db changed : (row : Row) → Val row}

omit [DecidableEq Row] [DecidableEq Client] in
theorem Script.Does.toSession {script : Script Val ε α} (h : script.Does R Q) :
    Session.Does R Q db ⟨script, fun _ => none, false⟩ := ⟨h.writes.toSession, h.ends⟩

omit [DecidableEq Row] [DecidableEq Client] in
/-- A transaction goes on with another script. -/
theorem Script.Does.resume {script : Script Val ε β} {Q : β → Prop} (h : script.Does R Q)
    (hwritten : ∀ row new, session.written row = some new → R row (db row) new) :
    Session.Does R Q db ({ session with script := script } : Session Val ε β) :=
  ⟨⟨h.writes, hwritten⟩, h.ends⟩

omit [DecidableEq Row] [DecidableEq Client] in
theorem Session.Does.of_unchanged (h : session.Does R Q db)
    (hunchanged : ∀ row, (session.written row).isSome = true → changed row = db row) :
    session.Does R Q changed := ⟨h.writes.of_unchanged hunchanged, h.ends⟩

theorem Session.Does.statement (htrans : ∀ row a b c, R row a b → R row b c → R row a c)
    (hdoes : session.Does R Q shared.db)
    (h : session.statement client shared = (later, .running rest)) : rest.Does R Q shared.db := by
  have hdb : later.db = shared.db := by
    rw [show later = (session.statement client shared).1 by rw [h]]
    exact db_statement
  have hwrites := hdoes.writes.statement htrans h
  rw [hdb] at hwrites
  exact ⟨hwrites, ends_statement hdoes.ends h⟩

end Does

/-! ## The end of a session -/

theorem script_of_finished {a : α} (h : session.statement client shared = (later, .finished a)) :
    session.script = .done a := by
  cases hcode : session.script with
  | done b =>
      simp only [Session.statement, hcode, Prod.mk.injEq, Outcome.finished.injEq] at h
      rw [h.2]
  | throw e => simp [Session.statement, hcode] at h
  | read next => simp [Session.statement, hcode] at h
  | lock row next =>
      simp only [Session.statement, hcode] at h
      by_cases hfree : shared.free client row = true
      · simp [hfree] at h
      · simp [hfree] at h
  | update row f next =>
      simp only [Session.statement, hcode] at h
      by_cases hfree : shared.free client row = true
      · rw [if_pos hfree] at h
        cases hvalue : f (session.view shared.db row) with
        | none => simp [hvalue] at h
        | some value => simp [hvalue] at h
      · simp [hfree] at h

omit [DecidableEq Row] in
/-- A session that has written nothing commits nothing. -/
theorem db_commit_of_unwritten (h : ∀ row, session.written row = none) :
    (shared.commit client session).db = shared.db := by
  funext row
  show (session.written row).getD (shared.db row) = shared.db row
  rw [h row]
  rfl

end Sessions

end Lib
