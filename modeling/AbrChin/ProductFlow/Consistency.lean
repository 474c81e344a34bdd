import AbrChin.Lib.Path
import AbrChin.ProductFlow.Service

/-!
# The product flow is consistent

The log of an owner is a path of the state machine from the position in which the owner joined
the flow to its current one.  `Moved` is what a transition that is not replayed does to the
database: the owners that it names have all been at one position, and are all at the next one.
-/

namespace AbrChin.ProductFlow

open Lib Js

/-! ## Positions -/

/-- The row of an owner. -/
def FlowDb.owner (db : FlowDb) (kind : OwnerKind) (id : String) : Option OwnerRow :=
  (db.owners kind).find? id

/-- Where an owner is: the stored state and the revision. -/
structure Position where
  productFlowState : Option String
  productFlowRevision : ℤ
  deriving DecidableEq

def OwnerRow.position (row : OwnerRow) : Position := ⟨row.productFlowState, row.productFlowRevision⟩

/-- The owners of a row of the log. -/
def ProductFlowTransition.owner (transition : ProductFlowTransition) : ProductFlowOwner :=
  ⟨transition.recommendationSessionId, transition.serviceOrderId,
    transition.infrastructureOrderId⟩

/-- A row of the log names an owner. -/
def ProductFlowTransition.names (kind : OwnerKind) (id : String)
    (transition : ProductFlowTransition) : Bool :=
  transition.owner.named kind = some id

/-- A row of the log leads from one position to the next, along an edge of the state machine. -/
structure FlowStep (before : Position) (transition : ProductFlowTransition) (after : Position) :
    Prop where
  edge : ∃ fromState toState, canTransitionProductFlow fromState toState = true ∧
    transition.fromState = stateText fromState ∧ transition.toState = stateText toState ∧
    currentState before.productFlowState = some fromState
  fromRevision : transition.fromRevision = before.productFlowRevision
  toRevision : transition.toRevision = before.productFlowRevision + 1
  state : after.productFlowState = some transition.toState
  revision : after.productFlowRevision = transition.toRevision

@[simp] theorem owner_transition (input : ProductFlowTransitionInput) (fingerprint : String)
    (revision : ℤ) : (input.transition fingerprint revision).owner = input.owner := rfl

@[simp] theorem currentState_text (state : ProductFlowState) :
    currentState (some (stateText state)) = some state := isProductFlowState_text state

variable {kind : OwnerKind} {revision : ℤ}

/-- A row that an update may change is in the state and at the revision of the transition. -/
theorem at_of_isAt {row : OwnerRow} {state : ProductFlowState}
    (h : row.isAt kind state revision = true) :
    currentState row.productFlowState = some state ∧ row.productFlowRevision = revision := by
  unfold OwnerRow.isAt at h
  simp only [Bool.and_eq_true, Bool.or_eq_true, decide_eq_true_eq] at h
  obtain ⟨hrevision, hstate⟩ := h
  refine ⟨?_, hrevision⟩
  rcases hstate with hstate | ⟨⟨-, rfl⟩, hnull⟩
  · rw [hstate]
    exact currentState_text state
  · rw [hnull]
    rfl

/-! ## What a transition does -/

/-- What a transition does to the database when it is not replayed. -/
structure Moved (input : ProductFlowTransitionInput) (fingerprint : String) (revision : ℤ)
    (db db' : FlowDb) : Prop where
  before : ∀ kind id, input.owner.named kind = some id →
    ∃ row, db.owner kind id = some row ∧
      currentState row.productFlowState = some input.fromState ∧
      row.productFlowRevision = revision
  after : ∀ kind id, db'.owner kind id =
    if input.owner.named kind = some id then (db.owner kind id).map (·.advance input.toState)
    else db.owner kind id
  fresh : db.productFlowTransitions.find? input.idempotencyKey = none
  log : db'.productFlowTransitions.rows =
    db.productFlowTransitions.rows ++ [input.transition fingerprint revision]

variable {input : ProductFlowTransitionInput}

/-- The update of one owner. -/
theorem commits_updateOwner {db db' : FlowDb} {u : Unit}
    (h : Tx.Commits (updateOwner input revision kind) db u db') :
    (∀ id, input.owner.named kind = some id →
      ∃ row, db.owner kind id = some row ∧ row.isAt kind input.fromState revision = true) ∧
    (∀ other id, db'.owner other id =
      if other = kind ∧ input.owner.named kind = some id then
        (db.owner other id).map (·.advance input.toState)
      else db.owner other id) ∧
    db'.productFlowTransitions = db.productFlowTransitions := by
  unfold updateOwner at h
  cases hnamed : input.owner.named kind with
  | none =>
      simp only [hnamed, Tx.commits_pure] at h
      obtain ⟨-, rfl⟩ := h
      exact ⟨fun id hid => (by cases hid), fun other id => by simp, rfl⟩
  | some owner =>
      simp only [hnamed, Tx.commits_attempt, Option.map_eq_some_iff] at h
      obtain ⟨rows, hupdate, rfl⟩ := h
      obtain ⟨row, hrow, hat, rfl⟩ := Table.updateIf?_eq_some.1 hupdate
      refine ⟨?_, ?_, rfl⟩
      · intro id hid
        cases hid
        exact ⟨row, hrow, hat⟩
      · intro other id
        unfold FlowDb.owner
        dsimp only
        by_cases hother : other = kind
        · subst hother
          rw [Function.update_self, Table.find?_modify]
          by_cases hid : id = owner
          · rw [if_pos hid, if_pos ⟨rfl, by rw [hid]⟩, hid]
          · rw [if_neg hid, if_neg (fun hboth => hid (Option.some.inj hboth.2).symm)]
        · rw [Function.update_of_ne hother, if_neg (fun hboth => hother hboth.1)]

variable {row : ProductFlowTransition} {seen : ℕ → FlowDb}

/-- A call returns the row that its lookup saw, which says the same, or moves its owners. -/
theorem commits_transition {db db' : FlowDb}
    (h : Tx.Commits (transitionProductFlowTx input seen) db row db') :
    canTransitionProductFlow input.fromState input.toState = true ∧
    ∃ fingerprint, ownerFingerprint input.owner = .ok fingerprint ∧
      ((db' = db ∧ ¬ row.differs input fingerprint ∧
        (seen 0).productFlowTransitions.find? input.idempotencyKey = some row) ∨
      ∃ revision, row = input.transition fingerprint revision ∧
        Moved input fingerprint revision db db') := by
  unfold transitionProductFlowTx assertProductFlowTransition at h
  simp only [Tx.commits_bind, Tx.commits_ofExcept, throwIf_eq_ok] at h
  obtain ⟨_, _, ⟨hedge, rfl⟩, fingerprint, _, ⟨hfingerprint, rfl⟩, h⟩ := h
  refine ⟨by simpa using hedge, fingerprint, hfingerprint, ?_⟩
  split at h
  · rename_i existing hexisting
    simp only [Tx.commits_bind, Tx.commits_throwIf, Tx.commits_pure] at h
    obtain ⟨_, _, ⟨hsame, rfl⟩, rfl, rfl⟩ := h
    exact .inl ⟨rfl, hsame, hexisting⟩
  · simp only [Tx.commits_bind, Tx.commits_ofExcept, Tx.commits_throwIf, Tx.commits_attempt,
      Option.map_eq_some_iff, Tx.commits_pure] at h
    obtain ⟨current, _, ⟨-, rfl⟩, _, _, ⟨-, rfl⟩, _, db, ⟨-, rfl⟩, _, first, hsession, _, second,
      horder, _, third, hinfrastructure, _, _, ⟨log, hinsert, rfl⟩, rfl, rfl⟩ := h
    obtain ⟨hsessionAt, hsessionAfter, hsessionLog⟩ := commits_updateOwner hsession
    obtain ⟨horderAt, horderAfter, horderLog⟩ := commits_updateOwner horder
    obtain ⟨hinfraAt, hinfraAfter, hinfraLog⟩ := commits_updateOwner hinfrastructure
    have hlog : third.productFlowTransitions = db.productFlowTransitions := by
      rw [hinfraLog, horderLog, hsessionLog]
    rw [hlog] at hinsert
    refine .inr ⟨current.revision, rfl, ⟨?_, ?_, Table.fresh_of_insert? hinsert,
      Table.rows_of_insert? hinsert⟩⟩
    · intro kind id hnamed
      -- the updates of the other kinds leave the row alone
      have hrow : ∃ row, db.owner kind id = some row ∧
          row.isAt kind input.fromState current.revision = true := by
        cases kind with
        | recommendationSession => exact hsessionAt id hnamed
        | serviceOrder =>
            obtain ⟨row, hrow, hat⟩ := horderAt id hnamed
            rw [hsessionAfter, if_neg (by simp)] at hrow
            exact ⟨row, hrow, hat⟩
        | infrastructureOrder =>
            obtain ⟨row, hrow, hat⟩ := hinfraAt id hnamed
            rw [horderAfter, if_neg (by simp), hsessionAfter, if_neg (by simp)] at hrow
            exact ⟨row, hrow, hat⟩
      obtain ⟨row, hrow, hat⟩ := hrow
      exact ⟨row, hrow, at_of_isAt hat⟩
    · intro kind id
      show third.owner kind id = _
      cases kind <;> simp [hinfraAfter, horderAfter, hsessionAfter]

variable {fingerprint : String}

/-- A repeated call returns the row of the first one. -/
theorem commits_of_repeated
    (hedge : canTransitionProductFlow input.fromState input.toState = true)
    (hfingerprint : ownerFingerprint input.owner = .ok fingerprint)
    (hsame : ¬ row.differs input fingerprint)
    (hseen : (seen 0).productFlowTransitions.find? input.idempotencyKey = some row) (db : FlowDb) :
    Tx.Commits (transitionProductFlowTx input seen) db row db := by
  unfold transitionProductFlowTx assertProductFlowTransition
  simp only [Tx.commits_bind, Tx.commits_ofExcept, throwIf_eq_ok]
  refine ⟨(), db, ⟨by simp [hedge], rfl⟩, fingerprint, db, ⟨hfingerprint, rfl⟩, ?_⟩
  rw [hseen]
  simp only [Tx.commits_bind, Tx.commits_throwIf, Tx.commits_pure]
  exact ⟨(), db, ⟨hsame, rfl⟩, trivial, rfl⟩

/-- A transition does not differ from the row that it writes. -/
theorem not_differs (input : ProductFlowTransitionInput) (fingerprint : String) (revision : ℤ) :
    ¬ (input.transition fingerprint revision).differs input fingerprint := by
  unfold ProductFlowTransition.differs
  simp [ProductFlowTransitionInput.transition]

/-- A row joins the flow. -/
theorem commits_join {row : OwnerRow} {db db' : FlowDb} {result : Option ProductFlowTransition}
    (h : Tx.Commits (FlowCall.tx (.join kind row) seen) db result db') :
    result = none ∧ db.owner kind row.id = none ∧
    (∀ other id, db'.owner other id =
      if other = kind ∧ id = row.id then some row else db.owner other id) ∧
    db'.productFlowTransitions = db.productFlowTransitions := by
  simp only [FlowCall.tx, Tx.commits_bind, Tx.commits_attempt, Option.map_eq_some_iff,
    Tx.commits_pure] at h
  obtain ⟨_, _, ⟨rows, hinsert, rfl⟩, rfl, rfl⟩ := h
  refine ⟨rfl, Table.fresh_of_insert? hinsert, ?_, rfl⟩
  intro other id
  unfold FlowDb.owner
  dsimp only
  by_cases hother : other = kind
  · subst hother
    rw [Function.update_self, Table.find?_insert? hinsert]
    by_cases hid : row.id = id
    · rw [if_pos hid, if_pos ⟨rfl, hid.symm⟩]
    · rw [if_neg hid, if_neg (fun hboth => hid hboth.2.symm)]
  · rw [Function.update_of_ne hother, if_neg (fun hboth => hother hboth.1)]

/-! ## The log of an owner -/

/-- The position in which an owner joined the flow: at first, or in one of the calls. -/
def Started (db : FlowDb) (calls : List (Versions.Call FlowCall)) (kind : OwnerKind) (id : String)
    (start : Position) : Prop :=
  (∃ row, db.owner kind id = some row ∧ row.position = start) ∨
    (db.owner kind id = none ∧ ∃ call ∈ calls, ∃ row, call.input = .join kind row ∧ row.id = id ∧
      row.position = start)

/-- The log since a first database: that of each owner is a path of the state machine, from the
position in which it joined the flow to its current one. -/
structure Consistent (db : FlowDb) (calls : List (Versions.Call FlowCall)) (db' : FlowDb)
    (log : List ProductFlowTransition) : Prop where
  rows : db'.productFlowTransitions.rows = db.productFlowTransitions.rows ++ log
  path : ∀ kind id row, db'.owner kind id = some row → ∃ start, Started db calls kind id start ∧
    Path FlowStep start (log.filter (·.names kind id)) row.position
  absent : ∀ kind id, db'.owner kind id = none →
    db.owner kind id = none ∧ log.filter (·.names kind id) = []

/-- A row that is moved makes one step. -/
theorem flowStep_of_moved {row : OwnerRow}
    (hedge : canTransitionProductFlow input.fromState input.toState = true)
    (hstate : currentState row.productFlowState = some input.fromState) :
    FlowStep row.position (input.transition fingerprint row.productFlowRevision)
      (row.advance input.toState).position :=
  ⟨⟨_, _, hedge, rfl, rfl, hstate⟩, rfl, rfl, rfl, rfl⟩

theorem Started.append {db : FlowDb} {calls : List (Versions.Call FlowCall)} {id : String}
    {start : Position} (h : Started db calls kind id start) (call : Versions.Call FlowCall) :
    Started db (calls ++ [call]) kind id start := by
  rcases h with h | ⟨habsent, joined, hjoined, h⟩
  · exact .inl h
  · exact .inr ⟨habsent, joined, List.mem_append_left _ hjoined, h⟩

variable {db db' mid : FlowDb} {calls : List (Versions.Call FlowCall)}
  {log : List ProductFlowTransition}

theorem Consistent.start (db : FlowDb) : Consistent db [] db [] where
  rows := (List.append_nil _).symm
  path := fun _ _ row hrow => ⟨row.position, .inl ⟨row, hrow, rfl⟩, .nil _⟩
  absent := fun _ _ habsent => ⟨habsent, rfl⟩

/-- A call that changes nothing. -/
theorem Consistent.stay (h : Consistent db calls mid log) (call : Versions.Call FlowCall) :
    Consistent db (calls ++ [call]) mid log where
  rows := h.rows
  path := by
    intro kind id row hrow
    obtain ⟨start, hstart, hpath⟩ := h.path kind id row hrow
    exact ⟨start, hstart.append call, hpath⟩
  absent := h.absent

/-- A transition adds one step to the path of each owner that it names. -/
theorem Consistent.moved (h : Consistent db calls mid log) (call : Versions.Call FlowCall)
    (hedge : canTransitionProductFlow input.fromState input.toState = true)
    (hmoved : Moved input fingerprint revision mid db') :
    Consistent db (calls ++ [call]) db' (log ++ [input.transition fingerprint revision]) where
  rows := by rw [hmoved.log, h.rows, List.append_assoc]
  path := by
    intro kind id row hrow
    rw [List.filter_append]
    by_cases hnamed : input.owner.named kind = some id
    · -- the owner is named, and has moved
      obtain ⟨before, hbefore, hstate, rfl⟩ := hmoved.before kind id hnamed
      rw [hmoved.after, if_pos hnamed, hbefore] at hrow
      cases hrow
      obtain ⟨start, hstart, hpath⟩ := h.path kind id before hbefore
      refine ⟨start, hstart.append call, hpath.append ?_⟩
      rw [List.filter_singleton, ProductFlowTransition.names, owner_transition, hnamed]
      simpa using Path.single (flowStep_of_moved hedge hstate)
    · rw [hmoved.after, if_neg hnamed] at hrow
      obtain ⟨start, hstart, hpath⟩ := h.path kind id row hrow
      refine ⟨start, hstart.append call, ?_⟩
      rw [List.filter_singleton, ProductFlowTransition.names, owner_transition,
        decide_eq_false hnamed]
      simpa using hpath
  absent := by
    intro kind id habsent
    have hnamed : input.owner.named kind ≠ some id := by
      intro hnamed
      obtain ⟨before, hbefore, -⟩ := hmoved.before kind id hnamed
      rw [hmoved.after, if_pos hnamed, hbefore] at habsent
      cases habsent
    rw [hmoved.after, if_neg hnamed] at habsent
    obtain ⟨hfirst, hlog⟩ := h.absent kind id habsent
    refine ⟨hfirst, ?_⟩
    rw [List.filter_append, hlog, List.filter_singleton, ProductFlowTransition.names,
      owner_transition, decide_eq_false hnamed]
    rfl

/-- An owner joins with an empty path. -/
theorem Consistent.joined (h : Consistent db calls mid log) {call : Versions.Call FlowCall}
    {row : OwnerRow} (hcall : call.input = .join kind row) (hfree : mid.owner kind row.id = none)
    (hafter : ∀ other id, db'.owner other id =
      if other = kind ∧ id = row.id then some row else mid.owner other id)
    (hlog : db'.productFlowTransitions = mid.productFlowTransitions) :
    Consistent db (calls ++ [call]) db' log where
  rows := by rw [hlog, h.rows]
  path := by
    intro other id found hfound
    rw [hafter] at hfound
    split at hfound
    · rename_i hnew
      obtain ⟨rfl, rfl⟩ := hnew
      cases hfound
      obtain ⟨hfirst, hnone⟩ := h.absent other row.id hfree
      refine ⟨row.position, .inr ⟨hfirst, call, by simp, row, hcall, rfl, rfl⟩, ?_⟩
      rw [hnone]
      exact .nil _
    · obtain ⟨start, hstart, hpath⟩ := h.path other id found hfound
      exact ⟨start, hstart.append call, hpath⟩
  absent := by
    intro other id habsent
    rw [hafter] at habsent
    split at habsent
    · cases habsent
    · exact h.absent other id habsent

variable {versions : Versions FlowDb}

/-- What one call does. -/
theorem Consistent.step (h : Consistent db calls versions.current log)
    (call : Versions.Call FlowCall) :
    ∃ log', Consistent db (calls ++ [call]) (stepFlow versions call).1.current log' := by
  rcases Versions.step_cases FlowCall.tx versions call with ⟨result, db', hcommits, hstep⟩ | ⟨e, hstep⟩
  · unfold stepFlow
    rw [hstep]
    cases hinput : call.input with
    | transition input =>
        rw [hinput] at hcommits
        simp only [FlowCall.tx, Tx.commits_bind, Tx.commits_pure] at hcommits
        obtain ⟨row, _, htransition, -, rfl⟩ := hcommits
        obtain ⟨hedge, fingerprint, -, hreplay | ⟨revision, -, hmoved⟩⟩ :=
          commits_transition htransition
        · obtain ⟨rfl, -⟩ := hreplay
          exact ⟨log, h.stay call⟩
        · exact ⟨_, h.moved call hedge hmoved⟩
    | join kind row =>
        rw [hinput] at hcommits
        obtain ⟨-, hfree, hafter, hlog⟩ := commits_join hcommits
        exact ⟨log, h.joined hinput hfree hafter hlog⟩
  · unfold stepFlow
    rw [hstep]
    exact ⟨log, h.stay call⟩

/-- Every run leaves a consistent log. -/
theorem consistent_run (db : FlowDb) (calls : List (Versions.Call FlowCall)) :
    ∃ log, Consistent db calls (run stepFlow (Versions.init db) calls).current log := by
  induction calls using List.reverseRecOn with
  | nil => exact ⟨[], .start db⟩
  | append_singleton calls call ih =>
      obtain ⟨log, h⟩ := ih
      rw [run_append]
      exact h.step call

/-! ## Repeated calls -/

/-- The same transition is asked for again, perhaps by somebody else. -/
def ProductFlowTransitionInput.Repeats (again input : ProductFlowTransitionInput) : Prop :=
  ∃ actorUserId, again = { input with actorUserId }

/-- What a call that has returned a row leaves behind. -/
structure Held (input : ProductFlowTransitionInput) (row : ProductFlowTransition) (db : FlowDb) :
    Prop where
  edge : canTransitionProductFlow input.fromState input.toState = true
  same : ∃ fingerprint, ownerFingerprint input.owner = .ok fingerprint ∧
    ¬ row.differs input fingerprint
  key : row.idempotencyKey = input.idempotencyKey
  stored : row ∈ db.productFlowTransitions

/-- The log of one version begins that of another. -/
def LogGrows (db db' : FlowDb) : Prop :=
  db.productFlowTransitions.rows <+: db'.productFlowTransitions.rows

theorem LogGrows.refl (db : FlowDb) : LogGrows db db := List.prefix_rfl

theorem LogGrows.trans (first second third : FlowDb) (hfirst : LogGrows first second)
    (hsecond : LogGrows second third) : LogGrows first third := List.IsPrefix.trans hfirst hsecond

theorem logGrows_of_commits {call : FlowCall} {result : Option ProductFlowTransition}
    (h : Tx.Commits (call.tx seen) db result db') :
    LogGrows db db' := by
  unfold LogGrows
  cases call with
  | transition input =>
      simp only [FlowCall.tx, Tx.commits_bind, Tx.commits_pure] at h
      obtain ⟨row, _, htransition, -, rfl⟩ := h
      obtain ⟨-, _, -, ⟨rfl, -⟩ | ⟨revision, -, hmoved⟩⟩ := commits_transition htransition
      · exact List.prefix_rfl
      · exact ⟨_, hmoved.log.symm⟩
  | join kind row =>
      simp only [(commits_join h).2.2.2, List.prefix_rfl]

/-- The log grows from every version that a read can see to the current one. -/
theorem grown_run (db : FlowDb) (calls : List (Versions.Call FlowCall)) :
    (run stepFlow (Versions.init db) calls).Grown LogGrows := by
  have hinit : (Versions.init db).Ever (fun _ => True) ∧ (Versions.init db).Grown LogGrows :=
    ⟨Versions.ever_init trivial, Versions.grown_init LogGrows.refl db⟩
  have hrun := Versions.grown_run FlowCall.tx (fun _ => True) LogGrows
    LogGrows.refl LogGrows.trans
    (fun input seen db result db' _ _ hcommits => ⟨trivial, logGrows_of_commits hcommits⟩)
    hinit calls
  exact hrun.2

theorem logGrows_step (versions : Versions FlowDb) (call : Versions.Call FlowCall) :
    LogGrows versions.current (stepFlow versions call).1.current := by
  unfold stepFlow
  rcases Versions.step_cases FlowCall.tx versions call with ⟨_, _, hcommits, hstep⟩ | ⟨_, hstep⟩
  · rw [hstep]
    exact logGrows_of_commits hcommits
  · rw [hstep]
    exact LogGrows.refl _

theorem logGrows_run (versions : Versions FlowDb) (calls : List (Versions.Call FlowCall)) :
    LogGrows versions.current (run stepFlow versions calls).current := by
  induction calls generalizing versions with
  | nil => exact LogGrows.refl _
  | cons call rest ih => exact LogGrows.trans _ _ _ (logGrows_step versions call) (ih _)

/-- What a call of a transition has committed when it returns a row. -/
theorem commits_of_returned {ages : List ℕ}
    (h : (stepFlow versions ⟨.transition input, ages⟩).2 = .ok (some row)) :
    Tx.Commits (transitionProductFlowTx input (versions.seen ages)) versions.current row
      (stepFlow versions ⟨.transition input, ages⟩).1.current := by
  unfold stepFlow at h ⊢
  rcases Versions.step_cases FlowCall.tx versions ⟨.transition input, ages⟩ with
    ⟨result, db, hcommits, hstep⟩ | ⟨e, hstep⟩
  · rw [hstep] at h ⊢
    cases h
    simp only [FlowCall.tx, Tx.commits_bind, Tx.commits_pure] at hcommits
    obtain ⟨_, _, htransition, hrow, rfl⟩ := hcommits
    cases hrow
    exact htransition
  · rw [hstep] at h
    cases h

/-- A repeated call changes nothing, and reports the row when its lookup sees the key. -/
theorem Held.repeated {again : ProductFlowTransitionInput} (h : Held input row versions.current)
    (hgrown : versions.Grown LogGrows) (hagain : again.Repeats input) (ages : List ℕ) :
    (stepFlow versions ⟨.transition again, ages⟩).1.current = versions.current ∧
      (((versions.seen ages 0).productFlowTransitions.find? input.idempotencyKey).isSome →
        (stepFlow versions ⟨.transition again, ages⟩).2 = .ok (some row)) := by
  obtain ⟨actorUserId, rfl⟩ := hagain
  obtain ⟨fingerprint, hfingerprint, hsame⟩ := h.same
  constructor
  · unfold stepFlow
    rcases Versions.step_cases FlowCall.tx versions
        ⟨.transition { input with actorUserId }, ages⟩ with
      ⟨result, db, hcommits, hstep⟩ | ⟨e, hstep⟩
    · rw [hstep]
      simp only [FlowCall.tx, Tx.commits_bind, Tx.commits_pure] at hcommits
      obtain ⟨_, _, htransition, -, rfl⟩ := hcommits
      obtain ⟨-, _, -, ⟨rfl, -⟩ | ⟨revision, -, hmoved⟩⟩ := commits_transition htransition
      · rfl
      · -- the key is taken, so that the row of a second transition would be refused
        exact absurd h.key (Table.find?_eq_none.1 hmoved.fresh row h.stored)
    · rw [hstep]
  · intro hsees
    obtain ⟨found, hfound⟩ := Option.isSome_iff_exists.1 hsees
    have hstored : found ∈ versions.current.productFlowTransitions :=
      (hgrown.seen ages 0).subset (Table.mem_of_find? hfound)
    have hkey : found.idempotencyKey = row.idempotencyKey :=
      (Table.key_of_find? hfound).trans h.key.symm
    obtain rfl : found = row := Table.eq_of_key hstored h.stored hkey
    have hcommits : Tx.Commits
        (transitionProductFlowTx { input with actorUserId } (versions.seen ages))
        versions.current found versions.current := by
      apply commits_of_repeated
      · exact h.edge
      · exact hfingerprint
      · exact hsame
      · exact hfound
    have hcall : Tx.Commits
        (FlowCall.tx (.transition { input with actorUserId }) (versions.seen ages))
        versions.current (some found) versions.current := by
      simp only [FlowCall.tx, Tx.commits_bind, Tx.commits_pure]
      exact ⟨found, _, hcommits, rfl, rfl⟩
    unfold stepFlow
    rw [Versions.step_commits hcall]

/-- **The product flow is consistent.**  In every run, the log of each owner is a path of the state
machine from the position in which it joined, its revision counts the transitions, and its state
is the target of the last one.  A call that throws changes nothing; one that returns moves all
its owners from one position to the next, or reports a row that is there; and a repeated call
changes nothing, and reports the first result when its lookup sees it. -/
theorem flow_consistent (db : FlowDb) (calls : List (Versions.Call FlowCall)) :
    let versions := run stepFlow (Versions.init db) calls
    (∃ log, versions.current.productFlowTransitions.rows = db.productFlowTransitions.rows ++ log ∧
      ∀ kind id row, versions.current.owner kind id = some row →
        ∃ start, Started db calls kind id start ∧
          Path FlowStep start (log.filter (·.names kind id)) row.position ∧
          row.productFlowRevision =
            start.productFlowRevision + (log.filter (·.names kind id)).length ∧
          ∀ last, (log.filter (·.names kind id)).getLast? = some last →
            row.productFlowState = some last.toState) ∧
    (∀ call e, (stepFlow versions call).2 = .error e → (stepFlow versions call).1 = versions) ∧
    ∀ input ages row, (stepFlow versions ⟨.transition input, ages⟩).2 = .ok (some row) →
      let after := (stepFlow versions ⟨.transition input, ages⟩).1
      ((∃ fingerprint revision, row = input.transition fingerprint revision ∧
          Moved input fingerprint revision versions.current after.current) ∨
        (after.current = versions.current ∧ row ∈ versions.current.productFlowTransitions)) ∧
      ∀ more again ages', again.Repeats input →
        let later := run stepFlow after more
        (stepFlow later ⟨.transition again, ages'⟩).1.current = later.current ∧
        (((later.seen ages' 0).productFlowTransitions.find? input.idempotencyKey).isSome →
          (stepFlow later ⟨.transition again, ages'⟩).2 = .ok (some row)) := by
  intro versions
  refine ⟨?_, ?_, ?_⟩
  · obtain ⟨log, h⟩ := consistent_run db calls
    refine ⟨log, h.rows, ?_⟩
    intro kind id row hrow
    obtain ⟨start, hstart, hpath⟩ := h.path kind id row hrow
    refine ⟨start, hstart, hpath, ?_, ?_⟩
    · exact hpath.count (f := Position.productFlowRevision) fun _ _ _ hstep =>
        hstep.revision.trans hstep.toRevision
    · intro last hlast
      exact hpath.of_getLast? (p := fun label position =>
        position.productFlowState = some label.toState) (fun _ _ _ hstep => hstep.state) hlast
  · intro call e herror
    unfold stepFlow at herror ⊢
    rcases Versions.step_cases FlowCall.tx versions call with ⟨_, _, _, hstep⟩ | ⟨_, hstep⟩
    · rw [hstep] at herror
      cases herror
    · rw [hstep]
  · intro input ages row hreturned after
    have hcommits := commits_of_returned hreturned
    obtain ⟨hedge, fingerprint, hfingerprint, hcase⟩ := commits_transition hcommits
    have hgrown : versions.Grown LogGrows := grown_run db calls
    have hheld : Held input row after.current := by
      rcases hcase with ⟨hcurrent, hsame, hseen⟩ | ⟨revision, rfl, hmoved⟩
      · refine ⟨hedge, ⟨fingerprint, hfingerprint, hsame⟩, Table.key_of_find? hseen, ?_⟩
        show row ∈ (stepFlow versions ⟨.transition input, ages⟩).1.current.productFlowTransitions
        rw [hcurrent]
        exact (hgrown.seen ages 0).subset (Table.mem_of_find? hseen)
      · refine ⟨hedge, ⟨fingerprint, hfingerprint, not_differs _ _ _⟩, rfl, ?_⟩
        show _ ∈ after.current.productFlowTransitions.rows
        rw [hmoved.log]
        exact List.mem_append_right _ List.mem_cons_self
    refine ⟨?_, ?_⟩
    · rcases hcase with ⟨hcurrent, -, hseen⟩ | ⟨revision, hrow, hmoved⟩
      · exact .inr ⟨hcurrent, (hgrown.seen ages 0).subset (Table.mem_of_find? hseen)⟩
      · exact .inl ⟨fingerprint, revision, hrow, hmoved⟩
    · intro more again ages' hagain later
      have hlater : Held input row later.current :=
        ⟨hheld.edge, hheld.same, hheld.key, (logGrows_run after more).subset hheld.stored⟩
      have hwhole : later =
          run stepFlow (Versions.init db) (calls ++ (⟨.transition input, ages⟩ :: more)) := by
        rw [run_append]
        rfl
      have hgrownLater : later.Grown LogGrows := by
        rw [hwhole]
        exact grown_run db _
      exact hlater.repeated hgrownLater hagain ages'

end AbrChin.ProductFlow
