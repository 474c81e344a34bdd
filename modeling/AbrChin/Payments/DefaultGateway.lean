import AbrChin.Payments.Gateways

/-!
# The default gateway

There should be one default gateway at every moment, and it should be enabled.  Both calls decide on reads
without a lock, and there are two ways to lose the default.

* A promotion lists the defaults, and a second promotion is committed before the first one gets to them: its
  target is not on the list, and both targets end as defaults (`two_defaults`).
* An update reads its gateway while it is not the default, and writes it as disabled when it is.

`keeps_oneDefault` shows that these are all: as long as every promotion finds its target on the lists of the
promotions that are under way for another one (`GatewayPoint.misses`), and every update that disables a gateway
finds that it has not become the default, there is one default, and it is enabled.
-/

namespace AbrChin.Payments

open Lib

variable {env : GatewayEnv} {db : GatewayDb}

/-! ## What is claimed, and the condition -/

/-- There is one default, it is enabled, and `getDefaultGatewayConfig` finds it. -/
structure OneDefault (env : GatewayEnv) (db : GatewayDb) : Prop where
  unique : ∃! provider, (db provider).isDefault = true
  enabled : ∀ provider, (db provider).isDefault = true → (db provider).enabled = true
  found : ∃ provider, getDefaultGatewayConfig env db = some provider ∧ (db provider).isDefault = true

/-- One gateway is the default, and is enabled. -/
def IsDefault (db : GatewayDb) (provider : PaymentGatewayProvider) : Prop :=
  (db provider).enabled = true ∧ ∀ other, (db other).isDefault = true ↔ other = provider

/-- A promotion of another target has listed the defaults, and the target is not on what is left of its list. -/
def GatewayPoint.misses (target : PaymentGatewayProvider) : GatewayPoint → Bool
  | .promoting other rows => other ≠ target && !rows.contains target
  | _ => false

/-- A promotion is committed when no other one misses its target, and an update that disables its gateway
finds that the gateway has not become the default since it has been read. -/
def Undisputed (sys : GatewaySystem) : GatewayEvent → Prop
  | .statement admin => ∀ activity, sys.activity admin = some activity →
      match activity.point with
      | .updating params current =>
          params.nextEnabled current = false → (sys.shared.db params.provider).isDefault = false
      | .promoting target _ => activity.session.script.isDone = true →
          ∀ other aside, other ≠ admin → sys.activity other = some aside → aside.point.misses target = false
      | _ => True
  | _ => True

/-! ## The invariant -/

theorem IsDefault.oneDefault {provider : PaymentGatewayProvider} (h : IsDefault db provider) :
    OneDefault env db := by
  obtain ⟨henabled, hdefault⟩ := h
  have hself : (db provider).isDefault = true := (hdefault provider).2 rfl
  have hfound : (getDefaultGatewayConfig env db).isSome = true := by
    refine List.find?_isSome.2 ⟨provider, env.complete provider, ?_⟩
    rw [henabled, hself]
    rfl
  refine ⟨⟨provider, hself, fun other hother => (hdefault other).1 hother⟩, ?_, ?_⟩
  · intro other hother
    rw [(hdefault other).1 hother]
    exact henabled
  · obtain ⟨found, hget⟩ := Option.isSome_iff_exists.1 hfound
    have hfits := List.find?_some hget
    rw [Bool.and_eq_true] at hfits
    exact ⟨found, hget, hfits.2⟩

/-- No row is written. -/
def NoWrite (_ : PaymentGatewayProvider) (_ _ : PaymentGatewayConfig) : Prop := False

/-- What an update writes. -/
def UpdateWrites (params : UpdateGatewayParams) (current : PaymentGatewayConfig)
    (row : PaymentGatewayProvider) (old new : PaymentGatewayConfig) : Prop :=
  row = params.provider ∧ new.isDefault = old.isDefault ∧ new.enabled = params.nextEnabled current

/-- A promotion that is visiting its list: it has cleared what it has written, and the default, if it is not
the target, is cleared or still to be visited. -/
structure Promoting (env : GatewayEnv) (db : GatewayDb) (target : PaymentGatewayProvider)
    (rows : List PaymentGatewayProvider) (session : GatewaySession) : Prop where
  listed : ∀ row, (db row).isDefault = true →
    row = target ∨ row ∈ rows ∨ (session.written row).isSome = true
  cleared : ∀ row value, row ≠ target → session.written row = some value → value.isDefault = false
  path : session.script = gatewayScript env (.promoting target rows) ∨
    (rows = [] ∧ session.script = .done (.answer ()) ∧ ∃ value, session.written target = some value ∧
      value.isDefault = true ∧ value.enabled = true)

/-- What holds of a call at its point. -/
def GatewayInv (env : GatewayEnv) (db : GatewayDb) : GatewayPoint → GatewaySession → Prop
  | .checkingUpdate params, session => session.Writes NoWrite db ∧
      session.script.Ends fun next => ∃ current, next = .goto (.updating params current)
  | .updating params current, session => session.Writes (UpdateWrites params current) db ∧
      session.script.Ends fun next => next = .answer ()
  | .checkingPromotion target, session => session.Writes NoWrite db ∧
      session.script.Ends fun next => next = .goto (.listing target)
  | .listing target, session => session.script = gatewayScript env (.listing target) ∧
      ∀ row, session.written row = none
  | .promoting target rows, session => Promoting env db target rows session

/-! ## The scripts -/

theorem writes_checkUpdate (params : UpdateGatewayParams) : (checkUpdate env params).Writes NoWrite := by
  refine (Script.writes_get _).bind fun current => ?_
  refine Script.writes_throwIf.bind fun _ => Script.writes_throwIf.bind fun _ =>
    Script.writes_throwIf.bind fun _ => Script.Writes.bind (Script.writes_onlyIf ?_) fun _ =>
      Script.writes_pure _
  exact (Script.writes_query _).bind fun _ => Script.writes_throwIf

theorem writes_checkPromotion (target : PaymentGatewayProvider) :
    (checkPromotion env target).Writes NoWrite := by
  refine (Script.writes_get _).bind fun _ => ?_
  refine Script.writes_throwIf.bind fun _ => Script.writes_throwIf.bind fun _ => ?_
  exact (Script.writes_query _).bind fun _ => Script.writes_pure _

theorem inv_checkingUpdate (params : UpdateGatewayParams) :
    GatewayInv env db (.checkingUpdate params) ((gatewayProgram env).enter (.checkingUpdate params)).session where
  left := ((writes_checkUpdate params).bind fun _ => Script.writes_pure _).toSession
  right := Script.ends_bind fun current => ⟨current, rfl⟩

theorem inv_checkingPromotion (target : PaymentGatewayProvider) :
    GatewayInv env db (.checkingPromotion target)
      ((gatewayProgram env).enter (.checkingPromotion target)).session where
  left := ((writes_checkPromotion target).bind fun _ => Script.writes_pure _).toSession
  right := Script.ends_bind fun _ => rfl

variable {session : GatewaySession}

theorem unwritten_of_noWrite (h : session.Writes NoWrite db) (row : PaymentGatewayProvider) :
    session.written row = none := by
  cases hwritten : session.written row with
  | none => rfl
  | some value => exact (h.written row value hwritten).elim

/-- An update that goes on to its write has written nothing yet. -/
theorem inv_updating (h : session.Writes NoWrite db) (params : UpdateGatewayParams)
    (current : PaymentGatewayConfig) :
    GatewayInv env db (.updating params current)
      ((gatewayProgram env).resume session (.updating params current)).session where
  left :=
    { script := by
        refine ⟨fun old new hnew => ?_, fun _ => trivial⟩
        obtain rfl := Option.some.inj hnew
        exact ⟨rfl, rfl, rfl⟩
      written := fun row value hwritten => (h.written row value hwritten).elim }
  right := fun _ => rfl

/-! ## Promotions -/

theorem mem_listDefaults {row : PaymentGatewayProvider} (h : (db row).isDefault = true) :
    row ∈ listDefaults env db :=
  List.mem_filter.2 ⟨env.complete row, h⟩

/-- A promotion that has listed the defaults has them all on its list. -/
theorem promoting_listed (hunwritten : ∀ row, session.written row = none)
    (target : PaymentGatewayProvider) : Promoting env db target (listDefaults env db)
      ((gatewayProgram env).resume session (.promoting target (listDefaults env db))).session where
  listed _ hdefault := .inr (.inl (mem_listDefaults hdefault))
  cleared row value _ hwritten := by
    have hnone : session.written row = some value := hwritten
    rw [hunwritten row] at hnone
    cases hnone
  path := .inl rfl

variable {target : PaymentGatewayProvider}

/-- Visiting a row clears it, or finds that it is no default. -/
theorem Promoting.visit {row : PaymentGatewayProvider} {rest : List PaymentGatewayProvider}
    {taken : Bool} {written : PaymentGatewayProvider → Option PaymentGatewayConfig}
    (h : Promoting env db target (row :: rest) session)
    (hwritten : (unsetDefault (session.view db row) = none ∧ written = session.written) ∨
      ∃ value, unsetDefault (session.view db row) = some value ∧
        written = Function.update session.written row (some value)) :
    Promoting env db target rest ((gatewayProgram env).resume
      (⟨.done (.goto (.promoting target rest)), written, taken⟩ : GatewaySession)
        (.promoting target rest)).session := by
  rcases hwritten with ⟨hkept, rfl⟩ | ⟨value, hcleared, rfl⟩
  · refine ⟨fun other hdefault => ?_, h.cleared, .inl rfl⟩
    rcases h.listed other hdefault with htarget | hlisted | hwritten
    · exact .inl htarget
    · rcases List.mem_cons.1 hlisted with rfl | hrest
      · -- a default that is visited is cleared, unless the promotion has written it before
        refine .inr (.inr ?_)
        cases hold : session.written other with
        | some value =>
            show (session.written other).isSome = true
            rw [hold]
            rfl
        | none =>
            have hview : session.view db other = db other := by
              rw [Session.view, hold]
              rfl
            rw [hview, unsetDefault, if_pos hdefault] at hkept
            cases hkept
      · exact .inr (.inl hrest)
    · exact .inr (.inr hwritten)
  · have hvalue : value.isDefault = false := by
      unfold unsetDefault at hcleared
      by_cases hview : (session.view db row).isDefault = true
      · rw [if_pos hview] at hcleared
        rw [← Option.some.inj hcleared]
      · rw [if_neg hview] at hcleared
        cases hcleared
    refine ⟨fun other hdefault => ?_, fun other new hne hnew => ?_, .inl rfl⟩
    · by_cases hother : other = row
      · subst hother
        refine .inr (.inr ?_)
        show (Function.update session.written other (some value) other).isSome = true
        rw [Function.update_self]
        rfl
      · rcases h.listed other hdefault with htarget | hlisted | hwritten
        · exact .inl htarget
        · exact .inr (.inl ((List.mem_cons.1 hlisted).resolve_left hother))
        · refine .inr (.inr ?_)
          show (Function.update session.written row (some value) other).isSome = true
          rw [Function.update_of_ne hother]
          exact hwritten
    · replace hnew : Function.update session.written row (some value) other = some new := hnew
      by_cases hother : other = row
      · subst hother
        rw [Function.update_self] at hnew
        rw [← Option.some.inj hnew]
        exact hvalue
      · rw [Function.update_of_ne hother] at hnew
        exact h.cleared other new hne hnew

/-- The last write of a promotion makes its target the default. -/
theorem Promoting.promote (h : Promoting env db target [] session) :
    Promoting env db target [] ⟨.done (.answer ()),
      Function.update session.written target (some (session.view db target).promoted), true⟩ where
  listed row hdefault := by
    by_cases hrow : row = target
    · exact .inl hrow
    · refine (h.listed row hdefault).imp id (Or.imp id fun hwritten => ?_)
      show (Function.update session.written target _ row).isSome = true
      rw [Function.update_of_ne hrow]
      exact hwritten
  cleared row value hne hwritten := by
    replace hwritten : Function.update session.written target _ row = some value := hwritten
    rw [Function.update_of_ne hne] at hwritten
    exact h.cleared row value hne hwritten
  path := .inr ⟨rfl, rfl, _, Function.update_self _ _ _, rfl, rfl⟩

/-- A promotion that is committed leaves its target as the one default. -/
theorem Promoting.commit {rows : List PaymentGatewayProvider} {next : GatewayNext}
    (h : Promoting env db target rows session) (hdone : session.script = .done next) :
    rows = [] ∧ IsDefault (session.view db) target := by
  rcases h.path with hscript | ⟨hrows, -, value, hwritten, hdefault, henabled⟩
  · rw [hdone] at hscript
    cases rows with
    | nil => cases hscript
    | cons row rest => cases hscript
  · have htarget : session.view db target = value := by
      rw [Session.view, hwritten]
      rfl
    refine ⟨hrows, ?_, fun row => ⟨fun hrow => ?_, ?_⟩⟩
    · rw [htarget]
      exact henabled
    · by_contra hne
      cases hold : session.written row with
      | some old =>
          rw [Session.view, hold, Option.getD_some, h.cleared row old hne hold] at hrow
          cases hrow
      | none =>
          rw [Session.view, hold, Option.getD_none] at hrow
          rcases h.listed row hrow with htarget | hlisted | hwritten
          · exact hne htarget
          · rw [hrows] at hlisted
            cases hlisted
          · rw [hold] at hwritten
            cases hwritten
    · rintro rfl
      rw [htarget]
      exact hdefault

/-! ## The steps of a call -/

theorem noWrite_trans (row : PaymentGatewayProvider) (a b c : PaymentGatewayConfig)
    (h : NoWrite row a b) (_ : NoWrite row b c) : NoWrite row a c := h

theorem updateWrites_trans {params : UpdateGatewayParams} {current : PaymentGatewayConfig}
    (row : PaymentGatewayProvider) (a b c : PaymentGatewayConfig) (hfirst : UpdateWrites params current row a b)
    (hsecond : UpdateWrites params current row b c) : UpdateWrites params current row a c :=
  ⟨hfirst.1, hsecond.2.1.trans hfirst.2.1, hsecond.2.2⟩

/-- Where a call goes on, its point holds. -/
theorem inv_resume {point next : GatewayPoint} (hinv : GatewayInv env db point session)
    (hscript : session.script = .done (.goto next)) :
    GatewayInv env db next ((gatewayProgram env).resume session next).session := by
  cases point with
  | checkingUpdate params =>
      obtain ⟨hwrites, hends⟩ := hinv
      rw [hscript] at hends
      obtain ⟨current, hnext⟩ := hends
      cases hnext
      exact inv_updating hwrites params current
  | updating params current =>
      obtain ⟨-, hends⟩ := hinv
      rw [hscript] at hends
      cases hends
  | checkingPromotion target =>
      obtain ⟨hwrites, hends⟩ := hinv
      rw [hscript] at hends
      cases hends
      have hunwritten := unwritten_of_noWrite hwrites
      exact ⟨rfl, hunwritten⟩
  | listing target =>
      obtain ⟨hcode, -⟩ := hinv
      rw [hscript] at hcode
      cases hcode
  | promoting target rows =>
      rcases hinv.path with hcode | ⟨-, hdone, -⟩
      · rw [hscript] at hcode
        cases rows with
        | nil => cases hcode
        | cons row rest => cases hcode
      · rw [hscript] at hdone
        cases hdone

theorem inv_statement {sys : GatewaySystem} {admin : ℕ}
    {activity : Activity GatewayConfigs GatewayError _ Unit} {later : Shared ℕ GatewayConfigs}
    (hinv : GatewayInv env sys.shared.db activity.point activity.session)
    (h : activity.session.statement admin sys.shared = (later, .running session)) :
    GatewayInv env sys.shared.db ((gatewayProgram env).advance ⟨activity.point, session⟩).point
      ((gatewayProgram env).advance ⟨activity.point, session⟩).session := by
  obtain ⟨point, before⟩ := activity
  have hdb : later.db = sys.shared.db := by
    rw [show later = (before.statement admin sys.shared).1 by rw [h]]
    exact db_statement
  -- where the point keeps, it is enough that the rest of its script keeps it
  have hkept : GatewayInv env sys.shared.db point session →
      GatewayInv env sys.shared.db ((gatewayProgram env).advance ⟨point, session⟩).point
        ((gatewayProgram env).advance ⟨point, session⟩).session := by
    intro hrest
    rcases (gatewayProgram env).advance_cases ⟨point, session⟩ with hsame | ⟨next, -, hscript, hnext⟩
    · rw [hsame]
      exact hrest
    · rw [hnext]
      exact inv_resume hrest hscript
  cases point with
  | checkingUpdate params =>
      refine hkept ⟨?_, ends_statement hinv.2 h⟩
      have hrest := hinv.1.statement noWrite_trans h
      rwa [hdb] at hrest
  | updating params current =>
      refine hkept ⟨?_, ends_statement hinv.2 h⟩
      have hrest := hinv.1.statement updateWrites_trans h
      rwa [hdb] at hrest
  | checkingPromotion target =>
      refine hkept ⟨?_, ends_statement hinv.2 h⟩
      have hrest := hinv.1.statement noWrite_trans h
      rwa [hdb] at hrest
  | listing target =>
      obtain ⟨hscript, hunwritten⟩ := hinv
      have hview : before.view sys.shared.db = sys.shared.db := by
        funext row
        rw [Session.view, hunwritten row]
        rfl
      rcases statement_cases h with ⟨next, heq, -, rfl⟩ | ⟨row, next, heq, -⟩ | ⟨row, f, next, heq, -⟩ |
        ⟨row, f, next, value, heq, -⟩
      · rw [hscript] at heq
        cases heq
        rw [hview]
        exact promoting_listed hunwritten target
      all_goals
        rw [hscript] at heq
        cases heq
  | promoting target rows =>
      rcases hinv.path with hscript | ⟨-, hdone, -⟩
      · cases rows with
        | nil =>
            rcases statement_cases h with ⟨next, heq, -⟩ | ⟨row, next, heq, -⟩ |
              ⟨row, f, next, heq, hvalue, -⟩ | ⟨row, f, next, value, heq, hvalue, -, rfl⟩
            all_goals
              rw [hscript] at heq
              cases heq
            · cases hvalue
            · obtain rfl := Option.some.inj hvalue
              exact hinv.promote
        | cons row rest =>
            rcases statement_cases h with ⟨next, heq, -⟩ | ⟨row, next, heq, -⟩ |
              ⟨row, f, next, heq, hvalue, -, rfl⟩ | ⟨row, f, next, value, heq, hvalue, -, rfl⟩
            all_goals
              rw [hscript] at heq
              cases heq
            · exact hinv.visit (.inl ⟨hvalue, rfl⟩)
            · exact hinv.visit (.inr ⟨value, hvalue, rfl⟩)
      · rw [Session.statement, hdone] at h
        cases h

/-! ## The commits -/

/-- What others have committed leaves a call as it is; a promotion, if the default is still ahead of it. -/
theorem inv_aside {later : GatewayDb} {point : GatewayPoint}
    (hinv : GatewayInv env db point session)
    (hunchanged : ∀ row, (session.written row).isSome = true → later row = db row)
    (hlisted : ∀ row, (later row).isDefault = true → (db row).isDefault = true ∨ point.misses row = false) :
    GatewayInv env later point session := by
  cases point with
  | checkingUpdate params => exact ⟨hinv.1.of_unchanged hunchanged, hinv.2⟩
  | updating params current => exact ⟨hinv.1.of_unchanged hunchanged, hinv.2⟩
  | checkingPromotion target => exact ⟨hinv.1.of_unchanged hunchanged, hinv.2⟩
  | listing target => exact hinv
  | promoting target rows =>
      refine ⟨fun row hdefault => ?_, hinv.cleared, hinv.path⟩
      rcases hlisted row hdefault with hold | hmisses
      · exact hinv.listed row hold
      · have hahead : target = row ∨ row ∈ rows := by
          simpa [GatewayPoint.misses, or_iff_not_imp_left] using hmisses
        exact hahead.imp Eq.symm .inl

/-- An update that does not disable the default keeps it. -/
theorem isDefault_of_update {params : UpdateGatewayParams} {current : PaymentGatewayConfig} {later : GatewayDb}
    {provider : PaymentGatewayProvider} (h : IsDefault db provider)
    (hwrites : ∀ row, later row = db row ∨ UpdateWrites params current row (db row) (later row))
    (hcondition : params.nextEnabled current = false → (db params.provider).isDefault = false) :
    IsDefault later provider := by
  obtain ⟨henabled, hdefault⟩ := h
  refine ⟨?_, fun row => ?_⟩
  · rcases hwrites provider with hsame | ⟨hrow, -, hnext⟩
    · rw [hsame]
      exact henabled
    · rw [hnext, ← Bool.not_eq_false]
      intro hdisabled
      have hnot := hcondition hdisabled
      rw [← hrow, (hdefault provider).2 rfl] at hnot
      cases hnot
  · rcases hwrites row with hsame | ⟨-, hsame, -⟩
    · rw [hsame]
      exact hdefault row
    · rw [hsame]
      exact hdefault row

theorem keeps_oneDefault (env : GatewayEnv) :
    (gatewayProgram env).Keeps Undisputed (fun db => ∃ provider, IsDefault db provider) (GatewayInv env) where
  call db call _ := by
    cases call with
    | updateGatewayConfig params => exact inv_checkingUpdate params
    | makeGatewayDefault target => exact inv_checkingPromotion target
  statement sys admin activity later session _ hsound hactivity h :=
    inv_statement (hsound.calls admin activity hactivity) h
  resume db point next session _ _ hinv hscript := inv_resume hinv hscript
  rescue db point next session e _ _ hnext := by cases hnext
  world sys event := nomatch event
  commit sys admin activity next hok hsound hactivity hscript hends := by
    obtain ⟨provider, hdefault⟩ := hsound.db
    have hinv := hsound.calls admin activity hactivity
    have hcondition := hok activity hactivity
    have hanswer : ∀ point, next ≠ .goto point := fun point hpoint => by
      have hfalse := hends point hpoint
      cases hfalse
    obtain ⟨point, session⟩ := activity
    cases point with
    | checkingUpdate params =>
        obtain ⟨-, hgoes⟩ := hinv
        rw [hscript] at hgoes
        obtain ⟨current, hnext⟩ := hgoes
        exact absurd hnext (hanswer _)
    | checkingPromotion target =>
        obtain ⟨-, hgoes⟩ := hinv
        rw [hscript] at hgoes
        exact absurd hgoes (hanswer _)
    | listing target =>
        obtain ⟨hcode, -⟩ := hinv
        rw [hscript] at hcode
        cases hcode
    | updating params current =>
        have hwrites := hinv.1.commit admin
        refine ⟨⟨provider, isDefault_of_update hdefault hwrites hcondition⟩,
          fun point hpoint => absurd hpoint (hanswer point), fun other aside _ haside hunchanged => ?_⟩
        refine inv_aside (hsound.calls other aside haside) hunchanged fun row hrow => .inl ?_
        rcases hwrites row with hsame | ⟨-, hsame, -⟩
        · rw [← hsame]
          exact hrow
        · rw [← hsame]
          exact hrow
    | promoting target rows =>
        obtain ⟨-, htarget⟩ := hinv.commit hscript
        refine ⟨⟨target, htarget⟩, fun point hpoint => absurd hpoint (hanswer point),
          fun other aside hne haside hunchanged => ?_⟩
        refine inv_aside (hsound.calls other aside haside) hunchanged fun row hrow => .inr ?_
        have hdone : session.script.isDone = true := by
          rw [hscript]
          rfl
        rw [(htarget.2 row).1 hrow]
        exact hcondition hdone other aside hne haside

/-- **There is always one default gateway, and it is enabled**, in a run in which no promotion is committed while
another one misses its target, and no update disables a gateway that has become the default since it has been
read. -/
theorem one_default (env : GatewayEnv) (db : GatewayDb) (provider : PaymentGatewayProvider)
    (hseeded : IsDefault db provider) (events : List GatewayEvent)
    (hundisputed : Meets (gatewayProgram env).step Undisputed (Clients.start db) events) :
    OneDefault env (run (gatewayProgram env).step (Clients.start db) events).shared.db := by
  have hsound := run_of_meets (p := Clients.Sound (fun db => ∃ provider, IsDefault db provider) (GatewayInv env))
    (fun sys event hok h => (keeps_oneDefault env).step event hok h) (sound_start ⟨provider, hseeded⟩) hundisputed
  obtain ⟨default, hdefault⟩ := hsound.db
  exact hdefault.oneDefault

/-! ## Runs of a few administrators -/

/-- The condition of a step, looked up among the first `n` administrators. -/
def undisputedBelow (n : ℕ) (sys : GatewaySystem) : GatewayEvent → Bool
  | .statement admin => (sys.activity admin).all fun activity =>
      match activity.point with
      | .updating params current => params.nextEnabled current || !(sys.shared.db params.provider).isDefault
      | .promoting target _ => !activity.session.script.isDone || (List.range n).all fun other =>
          other = admin || (sys.activity other).all fun aside => !aside.point.misses target
      | _ => true
  | _ => true

theorem undisputed_of_below {n : ℕ} (sys : GatewaySystem) (event : GatewayEvent)
    (hidle : ∀ admin, n ≤ admin → sys.activity admin = none) (h : undisputedBelow n sys event = true) :
    Undisputed sys event := by
  cases event with
  | call admin call => trivial
  | crash admin => trivial
  | world event => trivial
  | statement admin =>
      intro activity hactivity
      simp only [undisputedBelow, hactivity, Option.all_some] at h
      cases hpoint : activity.point with
      | checkingUpdate params => trivial
      | checkingPromotion target => trivial
      | listing target => trivial
      | updating params current =>
          intro hdisabled
          simpa [hpoint, hdisabled] using h
      | promoting target rows =>
          intro hdone other aside hne haside
          have hbelow : other < n := by
            by_contra hother
            rw [hidle other (Nat.le_of_not_lt hother)] at haside
            cases haside
          simp only [hpoint, hdone, Bool.not_true, Bool.false_or, List.all_eq_true] at h
          simpa [hne, haside] using h other (List.mem_range.2 hbelow)

/-- The gateways of a new site, where `zibal` is the default. -/
def seedRows : GatewayDb
  | .zibal => ⟨true, true, 10, .production⟩
  | .zarinpal => ⟨false, false, 20, .sandbox⟩
  | .mock => ⟨false, false, 100, .development⟩

def sampleEnv : GatewayEnv where
  isProduction := false
  hasServerCredentials _ := true
  scan := [.zibal, .zarinpal, .mock]
  complete provider := by cases provider <;> decide
  nodup := by decide

theorem isDefault_seedRows : IsDefault seedRows .zibal :=
  ⟨rfl, fun other => by cases other <;> decide⟩

def statements (admin n : ℕ) : List GatewayEvent := List.replicate n (.statement admin)

/-- One administrator promotes `zarinpal`, and another one enables `mock` in the meantime. -/
def promotionAndUpdate : List GatewayEvent :=
  [.call 0 (.makeGatewayDefault .zarinpal), .call 1 (.updateGatewayConfig { provider := .mock, enabled := true })] ++
    statements 0 3 ++ statements 1 2 ++ statements 0 2 ++ statements 1 1 ++ statements 0 1

theorem one_default_sample : OneDefault sampleEnv
    (run (gatewayProgram sampleEnv).step (Clients.start seedRows) promotionAndUpdate).shared.db :=
  one_default sampleEnv seedRows .zibal isDefault_seedRows promotionAndUpdate
    (meets_of_passes (n := 2) undisputed_of_below (fun _ _ => rfl) (by decide +kernel))

/-- Two administrators promote two gateways, and both have listed the defaults before the first commit. -/
def twoPromotions : List GatewayEvent :=
  [.call 0 (.makeGatewayDefault .zarinpal), .call 1 (.makeGatewayDefault .mock)] ++
    statements 0 3 ++ statements 1 3 ++ statements 0 3 ++ statements 1 3

/-- **Two promotions that overlap leave two defaults.** -/
theorem two_defaults : ¬ ∀ (env : GatewayEnv) (db : GatewayDb) (provider : PaymentGatewayProvider),
    IsDefault db provider → ∀ events : List GatewayEvent,
      OneDefault env (run (gatewayProgram env).step (Clients.start db) events).shared.db := by
  intro hclaim
  have hone := (hclaim sampleEnv seedRows .zibal isDefault_seedRows twoPromotions).unique
  have hboth : ((run (gatewayProgram sampleEnv).step (Clients.start seedRows) twoPromotions).shared.db
        .zarinpal).isDefault = true ∧
      ((run (gatewayProgram sampleEnv).step (Clients.start seedRows) twoPromotions).shared.db
        .mock).isDefault = true := by
    decide +kernel
  have hsame := hone.unique hboth.1 hboth.2
  cases hsame

/-- An update of its priority reads `zarinpal` while it is disabled, and writes it when it is the default. -/
example : (run (gatewayProgram sampleEnv).step (Clients.start seedRows)
    ([.call 0 (.updateGatewayConfig { provider := .zarinpal, priority := some 5 }), .statement 0,
      .call 1 (.makeGatewayDefault .zarinpal)] ++ statements 1 6 ++ statements 0 3)).shared.db .zarinpal =
    ⟨false, true, 5, .sandbox⟩ := by
  decide +kernel

end AbrChin.Payments
