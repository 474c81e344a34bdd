import Mathlib.Data.List.Basic

/-!
# Runs of a deterministic system

A system is a step function `step : σ → ε → σ × β`: an event changes the state
and has a result.  `run` is the state after a list of events, `trace` keeps for
each event the state it met and its result.

`run_induction` is the invariant rule.  The rest is about events that are inert
in the state they meet: deleting them (`prune`) changes neither the final state
nor the results of the others.
-/

namespace Lib

variable {σ ε β : Type*} (step : σ → ε → σ × β)

/-- The state after a list of events. -/
def run : σ → List ε → σ
  | state, [] => state
  | state, event :: rest => run (step state event).1 rest

/-- One step of a run: the state before it, the event and its result. -/
structure Entry (σ ε β : Type*) where
  before : σ
  event : ε
  result : β

/-- The steps of a run, in order. -/
def trace : σ → List ε → List (Entry σ ε β)
  | _, [] => []
  | state, event :: rest =>
      ⟨state, event, (step state event).2⟩ :: trace (step state event).1 rest

@[simp] theorem run_nil (state : σ) : run step state [] = state := rfl

@[simp] theorem run_cons (state : σ) (event : ε) (rest : List ε) :
    run step state (event :: rest) = run step (step state event).1 rest := rfl

theorem run_append (state : σ) (first second : List ε) :
    run step state (first ++ second) = run step (run step state first) second := by
  induction first generalizing state with
  | nil => rfl
  | cons event rest ih => exact ih _

theorem trace_append (state : σ) (first second : List ε) :
    trace step state (first ++ second) =
      trace step state first ++ trace step (run step state first) second := by
  induction first generalizing state with
  | nil => rfl
  | cons event rest ih => simp [trace, ih]

variable {step}

/-- What every step preserves, every run preserves. -/
theorem run_induction {p : σ → Prop} (hstep : ∀ state event, p state → p (step state event).1)
    {state : σ} (h : p state) (events : List ε) : p (run step state events) := by
  induction events generalizing state with
  | nil => exact h
  | cons event rest ih => exact ih (hstep state event h)

variable {events : List ε} {state : σ}

/-- Every step of a trace meets a state of the invariant. -/
theorem inv_of_mem_trace {inv : σ → Prop}
    (hstep : ∀ state event, inv state → inv (step state event).1) (h : inv state)
    {entry : Entry σ ε β} (hentry : entry ∈ trace step state events) :
    inv entry.before ∧ entry.result = (step entry.before entry.event).2 := by
  induction events generalizing state with
  | nil => simp [trace] at hentry
  | cons event rest ih =>
      rcases List.mem_cons.1 hentry with rfl | hentry
      · exact ⟨h, rfl⟩
      · exact ih (hstep state event h) hentry

/-! ## Events that happen once -/

section Latch

variable (step) (done : σ → Bool)

/-- The step makes `done` true. -/
def latches (entry : Entry σ ε β) : Bool :=
  !done entry.before && done (step entry.before entry.event).1

variable {step done} {inv : σ → Prop}
  (hinv : ∀ state event, inv state → inv (step state event).1)
  (hstay : ∀ state event, inv state → done state = true → done (step state event).1 = true)
include hinv hstay

theorem run_done (h : inv state) (hdone : done state = true) (events : List ε) :
    done (run step state events) = true := by
  induction events generalizing state with
  | nil => exact hdone
  | cons event rest ih => exact ih (hinv state event h) (hstay state event h hdone)

/-- What stays true once it is true becomes true in exactly one step of a run
that ends with it, and in no step of any other run. -/
theorem length_latches (h : inv state) (events : List ε) :
    ((trace step state events).filter (latches step done)).length =
      if !done state && done (run step state events) then 1 else 0 := by
  induction events generalizing state with
  | nil => cases hstate : done state <;> simp [trace, hstate]
  | cons event rest ih =>
      have hrest := ih (hinv state event h)
      cases hstate : done state with
      | true =>
          have hnext := hstay state event h hstate
          simpa [trace, latches, hstate, hnext] using hrest
      | false =>
          cases hnext : done (step state event).1 with
          | true =>
              have hend := run_done hinv hstay (hinv state event h) hnext rest
              simpa [trace, latches, hstate, hnext, hend] using hrest
          | false => simpa [trace, latches, hstate, hnext] using hrest

end Latch

/-! ## Runs whose steps meet a condition -/

section Meets

variable (step) (ok : σ → ε → Prop)

/-- Every step of the run meets a condition on the state before it and the event. -/
def Meets (state : σ) (events : List ε) : Prop :=
  ∀ entry ∈ trace step state events, ok entry.before entry.event

instance [∀ state event, Decidable (ok state event)] (state : σ) (events : List ε) :
    Decidable (Meets step ok state events) :=
  inferInstanceAs (Decidable (∀ entry ∈ trace step state events, ok entry.before entry.event))

variable {step ok}

@[simp] theorem meets_cons {event : ε} {rest : List ε} :
    Meets step ok state (event :: rest) ↔
      ok state event ∧ Meets step ok (step state event).1 rest := by
  simp [Meets, trace]

theorem meets_append {first second : List ε} :
    Meets step ok state (first ++ second) ↔
      Meets step ok state first ∧ Meets step ok (run step state first) second := by
  simp [Meets, trace_append, or_imp, forall_and]

/-- What every step of the condition preserves, a run of such steps preserves. -/
theorem run_of_meets {p : σ → Prop}
    (hstep : ∀ state event, ok state event → p state → p (step state event).1) (h : p state)
    (hmeets : Meets step ok state events) :
    p (run step state events) := by
  induction events generalizing state with
  | nil => exact h
  | cons event rest ih =>
      obtain ⟨hevent, hrest⟩ := meets_cons.1 hmeets
      exact ih (hstep state event hevent h) hrest

/-- Every step of such a run meets a state of the invariant. -/
theorem of_mem_trace_of_meets {p : σ → Prop}
    (hstep : ∀ state event, ok state event → p state → p (step state event).1) (h : p state)
    (hmeets : Meets step ok state events) {entry : Entry σ ε β}
    (hentry : entry ∈ trace step state events) :
    p entry.before ∧ ok entry.before entry.event ∧
      entry.result = (step entry.before entry.event).2 := by
  induction events generalizing state with
  | nil => simp [trace] at hentry
  | cons event rest ih =>
      obtain ⟨hevent, hrest⟩ := meets_cons.1 hmeets
      rcases List.mem_cons.1 hentry with rfl | hentry
      · exact ⟨h, hevent, rfl⟩
      · exact ih (hstep state event hevent h) hrest hentry

variable {results : List β}

/-- What every step of the condition preserves, of the results so far and the state, holds of the
results of a run of such steps and the state after it. -/
theorem results_of_meets {p : List β → σ → Prop}
    (hstep : ∀ results state event, ok state event → p results state →
      p (results ++ [(step state event).2]) (step state event).1) (h : p results state)
    (hmeets : Meets step ok state events) :
    p (results ++ (trace step state events).map Entry.result) (run step state events) := by
  induction events generalizing results state with
  | nil =>
      rw [trace, List.map_nil, List.append_nil]
      exact h
  | cons event rest ih =>
      obtain ⟨hevent, hrest⟩ := meets_cons.1 hmeets
      rw [trace, List.map_cons, List.append_cons]
      exact ih (hstep results state event hevent h) hrest

/-- A relation between earlier and later steps: what a step leaves in the state is kept, and
decides what a later step can do. -/
theorem pairwise_of_meets {p : σ → Prop} {left : Entry σ ε β → σ → Prop}
    {R : Entry σ ε β → Entry σ ε β → Prop}
    (hstep : ∀ state event, ok state event → p state → p (step state event).1)
    (hleft : ∀ state event, ok state event → p state →
      left ⟨state, event, (step state event).2⟩ (step state event).1)
    (hkeep : ∀ entry state event, ok state event → p state → left entry state →
      left entry (step state event).1)
    (hlater : ∀ entry state event, ok state event → p state → left entry state →
      R entry ⟨state, event, (step state event).2⟩)
    {state : σ} (h : p state) {events : List ε} (hmeets : Meets step ok state events) :
    (trace step state events).Pairwise R := by
  have hafter : ∀ (events : List ε) (state : σ), Meets step ok state events → p state →
      ∀ entry, left entry state → ∀ later ∈ trace step state events, R entry later := by
    intro events
    induction events with
    | nil => intro _ _ _ _ _ later hmem; cases hmem
    | cons event rest ih =>
        intro state hmeets h entry hentry later hmem
        obtain ⟨hevent, hrest⟩ := meets_cons.1 hmeets
        rcases List.mem_cons.1 hmem with rfl | hmem
        · exact hlater entry state event hevent h hentry
        · exact ih _ hrest (hstep state event hevent h) entry
            (hkeep entry state event hevent h hentry) later hmem
  induction events generalizing state with
  | nil => exact .nil
  | cons event rest ih =>
      obtain ⟨hevent, hrest⟩ := meets_cons.1 hmeets
      have hnext := hstep state event hevent h
      exact List.pairwise_cons.2
        ⟨hafter rest _ hrest hnext _ (hleft state event hevent h), ih hnext hrest⟩

/-- A result among those of a run and of one step more is the last one, or there was before. -/
theorem split_append {before after : List β} {last seen : β}
    (h : results ++ [last] = before ++ seen :: after) :
    (before = results ∧ last = seen) ∨ ∃ rest, results = before ++ seen :: rest := by
  rcases List.eq_nil_or_concat after with rfl | ⟨rest, final, rfl⟩
  · obtain ⟨rfl, hseen⟩ := List.append_inj' h rfl
    exact .inl ⟨rfl, List.singleton_inj.1 hseen⟩
  · rw [List.concat_eq_append, ← List.cons_append, ← List.append_assoc] at h
    exact .inr ⟨rest, (List.append_inj' h rfl).1⟩

variable {inv spent : σ → Prop} {fires : Entry σ ε β → Bool}
  (hinv : ∀ state event, ok state event → inv state → inv (step state event).1)
  (hstay : ∀ state event, ok state event → inv state → spent state → spent (step state event).1)
  (hfires : ∀ state event, ok state event → inv state →
    fires ⟨state, event, (step state event).2⟩ = true → ¬ spent state ∧ spent (step state event).1)
include hinv hstay hfires

theorem filter_eq_nil_of_spent (hstate : inv state) (h : spent state)
    (hmeets : Meets step ok state events) :
    (trace step state events).filter fires = [] := by
  induction events generalizing state with
  | nil => rfl
  | cons event rest ih =>
      obtain ⟨hevent, hrest⟩ := meets_cons.1 hmeets
      have hquiet : fires ⟨state, event, (step state event).2⟩ = false := by
        by_contra hfire
        exact (hfires state event hevent hstate (by simpa using hfire)).1 h
      simpa [trace, hquiet] using
        ih (hinv state event hevent hstate) (hstay state event hevent hstate h) hrest

/-- What a step does only when it is not yet spent, and spends, happens at most
once in a run of steps under which it stays spent. -/
theorem length_filter_le_one (hstate : inv state) (hmeets : Meets step ok state events) :
    ((trace step state events).filter fires).length ≤ 1 := by
  induction events generalizing state with
  | nil => simp [trace]
  | cons event rest ih =>
      obtain ⟨hevent, hrest⟩ := meets_cons.1 hmeets
      have hnext := hinv state event hevent hstate
      cases hfire : fires ⟨state, event, (step state event).2⟩ with
      | false => simpa [trace, hfire] using ih hnext hrest
      | true =>
          have hspent := (hfires state event hevent hstate hfire).2
          have hnil := filter_eq_nil_of_spent hinv hstay hfires hnext hspent hrest
          simp [trace, hfire, hnil]

end Meets

/-! ## Deleting inert events -/

section Prune

variable (step) (inert : σ → ε → Bool)

/-- The events of a run that are not inert in the state they meet. -/
def prune : σ → List ε → List ε
  | _, [] => []
  | state, event :: rest =>
      if inert state event then prune (step state event).1 rest
      else event :: prune (step state event).1 rest

variable {step inert} (hinert : ∀ state event, inert state event = true → (step state event).1 = state)
include hinert

theorem run_prune (state : σ) (events : List ε) :
    run step state (prune step inert state events) = run step state events := by
  induction events generalizing state with
  | nil => rfl
  | cons event rest ih =>
      cases h : inert state event with
      | true =>
          have hstay := hinert state event h
          simp only [prune, h, if_true, run_cons]
          rw [hstay]
          exact ih state
      | false => simpa [prune, h] using ih (step state event).1

theorem trace_prune (state : σ) (events : List ε) :
    trace step state (prune step inert state events) =
      (trace step state events).filter fun entry => !inert entry.before entry.event := by
  induction events generalizing state with
  | nil => rfl
  | cons event rest ih =>
      cases h : inert state event with
      | true =>
          have hstay := hinert state event h
          simp only [prune, h, if_true, trace, List.filter_cons]
          rw [hstay]
          simpa using ih state
      | false => simpa [prune, h, trace] using ih (step state event).1

end Prune

end Lib
