import AbrChin.Lib.Run
import AbrChin.Lib.Session

/-!
# Calls that run transactions

A call runs one transaction after the other.  Between two statements it is at a point, which carries what the
call has been given and has read so far, and the script of the point leads to the next one, in the same
transaction or, where the point ends its transaction, after the commit.  A read outside of any transaction is
a transaction of one statement.

Any number of clients make calls at the same time, and their statements interleave in every way
(`Program.step`).  `Program.Keeps` is what has to be shown for an invariant: of what is committed, and of each
call for the point that it is at.  `Program.Keeps.step` is the invariant rule.  It takes care of the locks:
what a call has written its client holds until the end of the transaction, so that nobody else changes it.
-/

namespace Lib

variable {Row : Type} {Val : Row → Type} {ε Point Answer Call World Client : Type}

/-! ## Programs -/

/-- Where a call goes on, or what it answers. -/
inductive Next (Point Answer : Type) where
  | goto (point : Point)
  | answer (answer : Answer)

structure Program (Val : Row → Type) (ε Point Answer Call World : Type) where
  start : Call → Point
  script : Point → Script Val ε (Next Point Answer)
  /-- The transaction of the point ends with it. -/
  ends : Point → Bool
  /-- Where a call goes on when its transaction has failed. -/
  rescue : Point → ε → Option Point := fun _ _ => none
  /-- What happens outside of the calls. -/
  world : World → ((row : Row) → Val row) → (row : Row) → Val row

/-- A call under way. -/
structure Activity (Val : Row → Type) (ε Point Answer : Type) where
  point : Point
  session : Session Val ε (Next Point Answer)

structure Clients (Client : Type) (Val : Row → Type) (ε Point Answer : Type) where
  shared : Shared Client Val
  activity : Client → Option (Activity Val ε Point Answer)

def Clients.start (db : (row : Row) → Val row) : Clients Client Val ε Point Answer :=
  ⟨⟨db, fun _ => none⟩, fun _ => none⟩

def Clients.set [DecidableEq Client] (sys : Clients Client Val ε Point Answer) (client : Client)
    (shared : Shared Client Val) (activity : Option (Activity Val ε Point Answer)) :
    Clients Client Val ε Point Answer :=
  ⟨shared, Function.update sys.activity client activity⟩

inductive ClientEvent (Client Call World : Type) where
  /-- A client makes a call. -/
  | call (client : Client) (call : Call)
  /-- The next statement of a client, or its commit. -/
  | statement (client : Client)
  /-- The connection of a client is lost, or its transaction is ended as the victim of a deadlock. -/
  | crash (client : Client)
  | world (event : World)

namespace Program

variable [DecidableEq Row] [DecidableEq Client] (program : Program Val ε Point Answer Call World)

/-- A point at the beginning of a transaction. -/
def enter (point : Point) : Activity Val ε Point Answer :=
  ⟨point, ⟨program.script point, fun _ => none, false⟩⟩

/-- A point in the middle of a transaction. -/
def resume (session : Session Val ε (Next Point Answer)) (point : Point) : Activity Val ε Point Answer :=
  ⟨point, { session with script := program.script point }⟩

/-- A point that does not end its transaction is left with its last statement. -/
def advance (activity : Activity Val ε Point Answer) : Activity Val ε Point Answer :=
  match program.ends activity.point, activity.session.script with
  | false, .done (.goto next) => program.resume activity.session next
  | _, _ => activity

/-- The next statement of a client, with what its call has answered. -/
def statement (sys : Clients Client Val ε Point Answer) (client : Client) :
    Clients Client Val ε Point Answer × Option (Client × Answer) :=
  match sys.activity client with
  | none => (sys, none)
  | some activity =>
      match activity.session.statement client sys.shared with
      | (_, .waiting) => (sys, none)
      | (shared, .running session) =>
          (sys.set client shared (some (program.advance ⟨activity.point, session⟩)), none)
      | (_, .finished (.goto next)) =>
          if program.ends activity.point = true then
            (sys.set client (sys.shared.commit client activity.session) (some (program.enter next)), none)
          else (sys.set client sys.shared (some (program.resume activity.session next)), none)
      | (_, .finished (.answer answer)) =>
          (sys.set client (sys.shared.commit client activity.session) none, some (client, answer))
      | (_, .failed e) =>
          (sys.set client (sys.shared.release client) ((program.rescue activity.point e).map program.enter),
            none)

def call (sys : Clients Client Val ε Point Answer) (client : Client) (call : Call) :
    Clients Client Val ε Point Answer :=
  match sys.activity client with
  | none => sys.set client sys.shared (some (program.enter (program.start call)))
  | some _ => sys

def step (sys : Clients Client Val ε Point Answer) :
    ClientEvent Client Call World → Clients Client Val ε Point Answer × Option (Client × Answer)
  | .call client call => (program.call sys client call, none)
  | .statement client => program.statement sys client
  | .crash client => (sys.set client (sys.shared.release client) none, none)
  | .world event =>
      ({ sys with shared := { sys.shared with db := program.world event sys.shared.db } }, none)

end Program

/-! ## The clients of a system -/

section Clients

variable [DecidableEq Client] {sys : Clients Client Val ε Point Answer} {client other : Client}
  {shared : Shared Client Val} {activity : Option (Activity Val ε Point Answer)}

@[simp] theorem activity_set_self : (sys.set client shared activity).activity client = activity :=
  Function.update_self _ _ _

theorem activity_set_of_ne (hne : other ≠ client) :
    (sys.set client shared activity).activity other = sys.activity other :=
  Function.update_of_ne hne _ _

end Clients

/-! ## Invariants -/

section Invariants

variable [DecidableEq Row] [DecidableEq Client]

/-- What holds of what is committed, and of each call. -/
structure Clients.Sound (Good : ((row : Row) → Val row) → Prop)
    (Inv : ((row : Row) → Val row) → Point → Session Val ε (Next Point Answer) → Prop)
    (sys : Clients Client Val ε Point Answer) : Prop where
  db : Good sys.shared.db
  holds : ∀ client activity, sys.activity client = some activity →
    activity.session.Holds client sys.shared
  calls : ∀ client activity, sys.activity client = some activity →
    Inv sys.shared.db activity.point activity.session

/-- What each kind of step has to show for the invariant. -/
structure Program.Keeps (program : Program Val ε Point Answer Call World)
    (ok : Clients Client Val ε Point Answer → ClientEvent Client Call World → Prop)
    (Good : ((row : Row) → Val row) → Prop)
    (Inv : ((row : Row) → Val row) → Point → Session Val ε (Next Point Answer) → Prop) : Prop where
  /-- A call begins. -/
  call : ∀ (db : (row : Row) → Val row) (call : Call), Good db →
    Inv db (program.start call) (program.enter (program.start call)).session
  /-- A call makes a statement. -/
  statement : ∀ (sys : Clients Client Val ε Point Answer) (client : Client)
    (activity : Activity Val ε Point Answer) (later : Shared Client Val)
    (session : Session Val ε (Next Point Answer)),
    ok sys (.statement client) → sys.Sound Good Inv → sys.activity client = some activity →
    activity.session.statement client sys.shared = (later, .running session) →
    Inv sys.shared.db (program.advance ⟨activity.point, session⟩).point
      (program.advance ⟨activity.point, session⟩).session
  /-- A call leaves a point without a statement. -/
  resume : ∀ (db : (row : Row) → Val row) (point next : Point) (session : Session Val ε (Next Point Answer)),
    program.ends point = false → Good db → Inv db point session →
    session.script = .done (.goto next) → Inv db next (program.resume session next).session
  /-- A transaction is committed. -/
  commit : ∀ (sys : Clients Client Val ε Point Answer) (client : Client)
    (activity : Activity Val ε Point Answer) (next : Next Point Answer),
    ok sys (.statement client) → sys.Sound Good Inv → sys.activity client = some activity →
    activity.session.script = .done next →
    (∀ point, next = .goto point → program.ends activity.point = true) →
    Good (sys.shared.commit client activity.session).db ∧
      (∀ point, next = .goto point → Inv (sys.shared.commit client activity.session).db point
        (program.enter point).session) ∧
      ∀ (other : Client) (aside : Activity Val ε Point Answer), other ≠ client →
        sys.activity other = some aside →
        (∀ row, (aside.session.written row).isSome = true →
          (sys.shared.commit client activity.session).db row = sys.shared.db row) →
        Inv (sys.shared.commit client activity.session).db aside.point aside.session
  /-- A call goes on after a failed transaction. -/
  rescue : ∀ (db : (row : Row) → Val row) (point next : Point) (session : Session Val ε (Next Point Answer))
    (e : ε), Good db → Inv db point session → program.rescue point e = some next →
    Inv db next (program.enter next).session
  world : ∀ (sys : Clients Client Val ε Point Answer) (event : World), ok sys (.world event) →
    sys.Sound Good Inv → Good (program.world event sys.shared.db) ∧
      ∀ (client : Client) (activity : Activity Val ε Point Answer), sys.activity client = some activity →
        Inv (program.world event sys.shared.db) activity.point activity.session

variable {program : Program Val ε Point Answer Call World}
  {ok : Clients Client Val ε Point Answer → ClientEvent Client Call World → Prop}
  {Good : ((row : Row) → Val row) → Prop}
  {Inv : ((row : Row) → Val row) → Point → Session Val ε (Next Point Answer) → Prop}
  {sys : Clients Client Val ε Point Answer} {client : Client}

omit [DecidableEq Row] [DecidableEq Client] in
theorem sound_start {db : (row : Row) → Val row} (h : Good db) :
    (Clients.start db : Clients Client Val ε Point Answer).Sound Good Inv where
  db := h
  holds _ _ hactivity := by cases hactivity
  calls _ _ hactivity := by cases hactivity

omit [DecidableEq Row] in
/-- The invariant after a step of one client, which leaves the rows of the others to them. -/
theorem Clients.Sound.set (hsound : sys.Sound Good Inv) {shared : Shared Client Val}
    {next : Option (Activity Val ε Point Answer)} (hgood : Good shared.db)
    (hrespects : ∀ other, other ≠ client → sys.shared.Respects other shared)
    (hself : ∀ activity, next = some activity → activity.session.Holds client shared ∧
      Inv shared.db activity.point activity.session)
    (hothers : ∀ other activity, other ≠ client → sys.activity other = some activity →
      Inv shared.db activity.point activity.session) :
    (sys.set client shared next).Sound Good Inv where
  db := hgood
  holds other activity hactivity := by
    by_cases hother : other = client
    · subst hother
      rw [activity_set_self] at hactivity
      exact (hself activity hactivity).1
    · rw [activity_set_of_ne hother] at hactivity
      exact (hsound.holds other activity hactivity).of_respects (hrespects other hother)
  calls other activity hactivity := by
    by_cases hother : other = client
    · subst hother
      rw [activity_set_self] at hactivity
      exact (hself activity hactivity).2
    · rw [activity_set_of_ne hother] at hactivity
      exact hothers other activity hother hactivity

omit [DecidableEq Row] [DecidableEq Client] in
theorem holds_enter {shared : Shared Client Val} {point : Point} :
    (program.enter point).session.Holds client shared :=
  holds_begin _

omit [DecidableEq Row] [DecidableEq Client] in
/-- A call stays at its point, or its script has come to the next one. -/
theorem Program.advance_cases (program : Program Val ε Point Answer Call World)
    (activity : Activity Val ε Point Answer) :
    program.advance activity = activity ∨
      ∃ next, program.ends activity.point = false ∧ activity.session.script = .done (.goto next) ∧
        program.advance activity = program.resume activity.session next := by
  unfold Program.advance
  cases hends : program.ends activity.point with
  | true => exact .inl rfl
  | false =>
      cases hscript : activity.session.script with
      | done next =>
          cases next with
          | goto next => exact .inr ⟨next, rfl, rfl, rfl⟩
          | answer a => exact .inl rfl
      | throw e => exact .inl rfl
      | read next => exact .inl rfl
      | lock row next => exact .inl rfl
      | update row f next => exact .inl rfl

omit [DecidableEq Row] [DecidableEq Client] in
theorem holds_advance {shared : Shared Client Val} {activity : Activity Val ε Point Answer}
    (h : activity.session.Holds client shared) :
    (program.advance activity).session.Holds client shared := by
  rcases program.advance_cases activity with hsame | ⟨next, -, -, hnext⟩
  · rw [hsame]
    exact h
  · rw [hnext]
    exact h

namespace Program.Keeps

variable (hkeeps : program.Keeps ok Good Inv)
include hkeeps

/-- The invariant after a commit. -/
theorem committed (hok : ok sys (.statement client)) (hsound : sys.Sound Good Inv)
    {activity : Activity Val ε Point Answer} (hactivity : sys.activity client = some activity)
    {next : Next Point Answer} (hscript : activity.session.script = .done next)
    (hends : ∀ point, next = .goto point → program.ends activity.point = true)
    {rest : Option (Activity Val ε Point Answer)}
    (hrest : ∀ activity, rest = some activity → ∃ point, next = .goto point ∧
      activity = program.enter point) :
    (sys.set client (sys.shared.commit client activity.session) rest).Sound Good Inv := by
  obtain ⟨hgood, hself, hothers⟩ := hkeeps.commit sys client activity next hok hsound hactivity hscript hends
  have hholds := hsound.holds client activity hactivity
  refine hsound.set hgood (fun other hne => respects_commit hne.symm hholds) ?_ ?_
  · intro later hlater
    obtain ⟨point, hnext, rfl⟩ := hrest later hlater
    exact ⟨holds_enter, hself point hnext⟩
  · intro other aside hne haside
    refine hothers other aside hne haside fun row hwritten => ?_
    exact (respects_commit hne.symm hholds).db row (hsound.holds other aside haside row hwritten)

/-- **The invariant rule.** -/
theorem step (event : ClientEvent Client Call World) (hok : ok sys event) (hsound : sys.Sound Good Inv) :
    (program.step sys event).1.Sound Good Inv := by
  cases event with
  | call client call =>
      simp only [Program.step, Program.call]
      cases hactivity : sys.activity client with
      | some activity => exact hsound
      | none =>
          refine hsound.set hsound.db (fun _ _ => .refl) ?_ fun other activity _ => hsound.calls other activity
          intro activity hnext
          obtain rfl := Option.some.inj hnext
          exact ⟨holds_enter, hkeeps.call _ _ hsound.db⟩
  | crash client =>
      refine hsound.set hsound.db (fun _ hne => respects_release hne.symm) ?_
        fun other activity _ => hsound.calls other activity
      intro activity hnext
      cases hnext
  | world event =>
      obtain ⟨hgood, hcalls⟩ := hkeeps.world sys event hok hsound
      exact ⟨hgood, fun client activity hactivity => hsound.holds client activity hactivity, hcalls⟩
  | statement client =>
      simp only [Program.step, Program.statement]
      cases hactivity : sys.activity client with
      | none => exact hsound
      | some activity =>
          have hholds := hsound.holds client activity hactivity
          have hinv := hsound.calls client activity hactivity
          have hdb : (activity.session.statement client sys.shared).1.db = sys.shared.db := db_statement
          have hrespects : ∀ other, other ≠ client →
              sys.shared.Respects other (activity.session.statement client sys.shared).1 :=
            fun other hne => respects_statement hne.symm
          simp only []
          cases hstatement : activity.session.statement client sys.shared with
          | mk shared outcome =>
              rw [hstatement] at hdb hrespects
              cases outcome with
              | waiting => exact hsound
              | running session =>
                  have hnext := hkeeps.statement sys client activity shared session hok hsound hactivity
                    hstatement
                  refine hsound.set (by rw [hdb]; exact hsound.db) hrespects ?_ ?_
                  · intro later hlater
                    obtain rfl := Option.some.inj hlater
                    rw [hdb]
                    exact ⟨holds_advance (hholds.statement hstatement), hnext⟩
                  · intro other aside _ haside
                    rw [hdb]
                    exact hsound.calls other aside haside
              | failed e =>
                  refine hsound.set hsound.db (fun _ hne => respects_release hne.symm) ?_
                    fun other aside _ => hsound.calls other aside
                  intro later hlater
                  obtain ⟨point, hpoint, rfl⟩ := Option.map_eq_some_iff.1 hlater
                  exact ⟨holds_enter, hkeeps.rescue _ _ _ _ e hsound.db hinv hpoint⟩
              | finished next =>
                  have hscript := script_of_finished hstatement
                  cases next with
                  | answer answer =>
                      refine hkeeps.committed hok hsound hactivity hscript ?_ ?_
                      · intro point hpoint
                        cases hpoint
                      · intro later hlater
                        cases hlater
                  | goto next =>
                      simp only []
                      by_cases hends : program.ends activity.point = true
                      · rw [if_pos hends]
                        refine hkeeps.committed hok hsound hactivity hscript (fun _ _ => hends) ?_
                        intro later hlater
                        exact ⟨next, rfl, (Option.some.inj hlater).symm⟩
                      · rw [if_neg hends]
                        refine hsound.set hsound.db (fun _ _ => .refl) ?_
                          fun other aside _ => hsound.calls other aside
                        intro later hlater
                        obtain rfl := Option.some.inj hlater
                        exact ⟨hholds,
                          hkeeps.resume _ _ _ _ (Bool.eq_false_iff.2 hends) hsound.db hinv hscript⟩

end Program.Keeps

end Invariants

/-! ## What a step answers -/

section Answers

variable [DecidableEq Row] [DecidableEq Client] {program : Program Val ε Point Answer Call World}
  {sys : Clients Client Val ε Point Answer} {client : Client}

/-- A call that answers has come to the end of its script, and its transaction is committed. -/
theorem answer_of_step {event : ClientEvent Client Call World} {answer : Answer}
    (h : (program.step sys event).2 = some (client, answer)) :
    event = .statement client ∧ ∃ activity, sys.activity client = some activity ∧
      activity.session.script = .done (.answer answer) ∧
      (program.step sys event).1 = sys.set client (sys.shared.commit client activity.session) none := by
  cases event with
  | call other call => simp [Program.step] at h
  | crash other => simp [Program.step] at h
  | world event => simp [Program.step] at h
  | statement other =>
      simp only [Program.step, Program.statement] at h ⊢
      cases hactivity : sys.activity other with
      | none => simp [hactivity] at h
      | some activity =>
          simp only [hactivity] at h ⊢
          cases hstatement : activity.session.statement other sys.shared with
          | mk shared outcome =>
              simp only [hstatement] at h ⊢
              cases outcome with
              | waiting => simp at h
              | running session => simp at h
              | failed e => simp at h
              | finished next =>
                  have hscript := script_of_finished hstatement
                  cases next with
                  | goto next =>
                      simp only [] at h
                      by_cases hends : program.ends activity.point = true
                      · simp [hends] at h
                      · simp [hends] at h
                  | answer other =>
                      simp only [Option.some.injEq, Prod.mk.injEq] at h
                      obtain ⟨rfl, rfl⟩ := h
                      exact ⟨rfl, activity, hactivity, hscript, rfl⟩

/-- A query leads its call on. -/
theorem activity_of_read {activity : Activity Val ε Point Answer}
    {next : ((row : Row) → Val row) → Script Val ε (Next Point Answer)}
    (hactivity : sys.activity client = some activity) (hscript : activity.session.script = .read next) :
    (program.step sys (.statement client)).1.activity client = some (program.advance
      ⟨activity.point, { activity.session with
        script := next (activity.session.view sys.shared.db) }⟩) := by
  simp only [Program.step, Program.statement, hactivity, Session.statement, hscript]
  exact activity_set_self

end Answers

/-! ## Runs of a few clients -/

section Few

variable [DecidableEq Row] (program : Program Val ε Point Answer Call World)

def ClientEvent.isBelow (n : ℕ) : ClientEvent ℕ Call World → Bool
  | .call client _ | .statement client | .crash client => client < n
  | .world _ => true

/-- The first `n` clients make the steps, and each step passes a check. -/
def Program.passes (check : Clients ℕ Val ε Point Answer → ClientEvent ℕ Call World → Bool) (n : ℕ) :
    Clients ℕ Val ε Point Answer → List (ClientEvent ℕ Call World) → Bool
  | _, [] => true
  | sys, event :: rest => event.isBelow n && check sys event && passes check n (program.step sys event).1 rest

variable {program} {sys : Clients ℕ Val ε Point Answer}

/-- A client that makes no step stays as it is. -/
theorem activity_step {event : ClientEvent ℕ Call World} {n client : ℕ} (hbelow : event.isBelow n = true)
    (hclient : n ≤ client) : (program.step sys event).1.activity client = sys.activity client := by
  cases event with
  | world event => rfl
  | crash other =>
      have hne : client ≠ other := fun h => by simp [ClientEvent.isBelow, ← h] at hbelow; omega
      exact activity_set_of_ne hne
  | call other call =>
      have hne : client ≠ other := fun h => by simp [ClientEvent.isBelow, ← h] at hbelow; omega
      simp only [Program.step, Program.call]
      cases sys.activity other with
      | none => exact activity_set_of_ne hne
      | some activity => rfl
  | statement other =>
      have hne : client ≠ other := fun h => by simp [ClientEvent.isBelow, ← h] at hbelow; omega
      simp only [Program.step, Program.statement]
      cases sys.activity other with
      | none => rfl
      | some activity =>
          simp only []
          cases activity.session.statement other sys.shared with
          | mk shared outcome =>
              cases outcome with
              | waiting => rfl
              | running session => exact activity_set_of_ne hne
              | failed e => exact activity_set_of_ne hne
              | finished next =>
                  cases next with
                  | answer answer => exact activity_set_of_ne hne
                  | goto next =>
                      simp only []
                      by_cases hends : program.ends activity.point = true
                      · rw [if_pos hends]
                        exact activity_set_of_ne hne
                      · rw [if_neg hends]
                        exact activity_set_of_ne hne

/-- A run of a few clients that passes a check meets the condition that the check decides. -/
theorem meets_of_passes {ok : Clients ℕ Val ε Point Answer → ClientEvent ℕ Call World → Prop}
    {check : Clients ℕ Val ε Point Answer → ClientEvent ℕ Call World → Bool} {n : ℕ}
    (hcheck : ∀ sys event, (∀ client, n ≤ client → sys.activity client = none) →
      check sys event = true → ok sys event)
    (hidle : ∀ client, n ≤ client → sys.activity client = none) {events : List (ClientEvent ℕ Call World)}
    (h : program.passes check n sys events = true) : Meets program.step ok sys events := by
  induction events generalizing sys with
  | nil => simp [Meets, trace]
  | cons event rest ih =>
      simp only [Program.passes, Bool.and_eq_true] at h
      obtain ⟨⟨hbelow, hevent⟩, hrest⟩ := h
      refine meets_cons.2 ⟨hcheck sys event hidle hevent, ih (fun client hclient => ?_) hrest⟩
      rw [activity_step hbelow hclient]
      exact hidle client hclient

end Few

end Lib
