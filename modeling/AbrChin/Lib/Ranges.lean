import Mathlib.Data.List.Chain
import Mathlib.Data.List.Sort

/-!
# Half-open ranges

A row that is in force from one instant up to another, or without an end.  There
are two ways to say that rows leave no gap and do not overlap: they follow one
another in a list (`Contiguous`), or every instant lies in exactly one of them.
The first is what a writer keeps that ends the last row and appends a new one, and
the second is what `walk`, which follows spans in the order of their starts, needs.
-/

namespace Lib

variable {τ ρ : Type*} [LinearOrder τ]

/-- The instant lies in the range from `start` up to `stop`, or without an end. -/
def Within (start : τ) (stop : Option τ) (instant : τ) : Prop :=
  start ≤ instant ∧ ∀ until_ ∈ stop, instant < until_

instance (start : τ) (stop : Option τ) (instant : τ) : Decidable (Within start stop instant) :=
  inferInstanceAs (Decidable (_ ∧ _))

/-! ## Rows that follow one another -/

/-- Each row starts where the row before it stops, and the last one has no end. -/
structure Contiguous (start : ρ → τ) (stop : ρ → Option τ) (rows : List ρ) : Prop where
  next : rows.IsChain fun row later => start row < start later ∧ stop row = some (start later)
  last : ∀ row ∈ rows.getLast?, stop row = none

namespace Contiguous

variable {start : ρ → τ} {stop : ρ → Option τ} {rows init : List ρ} {row row' new : ρ}

theorem nil : Contiguous start stop ([] : List ρ) := ⟨.nil, by simp⟩

theorem singleton (h : stop row = none) : Contiguous start stop [row] :=
  ⟨.singleton row, by simp [h]⟩

/-- End the last row where a new one starts. -/
theorem append_row (h : Contiguous start stop (init ++ [row])) (hstart : start row' = start row)
    (hlater : start row < start new) (hstop : stop row' = some (start new))
    (hopen : stop new = none) : Contiguous start stop (init ++ [row', new]) := by
  constructor
  · have hnext := h.next
    rw [List.isChain_append] at hnext ⊢
    refine ⟨hnext.1, ?_, ?_⟩
    · rw [List.isChain_pair, hstart]
      exact ⟨hlater, hstop⟩
    · intro before hbefore first hfirst
      have hfirst : first = row' := by simpa [eq_comm] using hfirst
      have hjoin := hnext.2.2 before hbefore row (by simp)
      rw [hfirst, hstart]
      exact hjoin
  · intro last hlast
    have hlast : last = new := by simpa [eq_comm] using hlast
    rw [hlast, hopen]

theorem pairwise (h : Contiguous start stop rows) :
    rows.Pairwise fun row later => start row < start later ∧
      ∃ until_ ∈ stop row, until_ ≤ start later := by
  let before (row later : ρ) : Prop :=
    start row < start later ∧ ∃ until_ ∈ stop row, until_ ≤ start later
  have htrans : Trans before before before := by
    constructor
    rintro a b c ⟨hab, until_, huntil, hle⟩ ⟨hbc, -⟩
    exact ⟨hab.trans hbc, until_, huntil, hle.trans hbc.le⟩
  have hnext : rows.IsChain before :=
    h.next.imp fun _ _ hlink => ⟨hlink.1, _, hlink.2, le_rfl⟩
  exact hnext.pairwise

/-- An instant lies in one row at most. -/
theorem eq_of_within (h : Contiguous start stop rows) (hrow : row ∈ rows) (hrow' : row' ∈ rows)
    {instant : τ} (hin : Within (start row) (stop row) instant)
    (hin' : Within (start row') (stop row') instant) : row = row' := by
  have hpair : rows.Pairwise fun a b => Within (start a) (stop a) instant →
      Within (start b) (stop b) instant → a = b := by
    refine h.pairwise.imp ?_
    rintro a b ⟨-, until_, huntil, hle⟩ ha hb
    exact absurd (ha.2 until_ huntil) (not_lt.2 (hle.trans hb.1))
  have : Std.Symm fun a b => Within (start a) (stop a) instant →
      Within (start b) (stop b) instant → a = b := ⟨fun a b hab hb ha => (hab ha hb).symm⟩
  have hall := hpair.forall_of_forall fun a _ _ _ => rfl
  exact hall hrow hrow' hin hin'

/-- Nothing follows a row without an end. -/
theorem rest_eq_nil {rest : List ρ} (h : Contiguous start stop (init ++ row :: rest))
    (hopen : stop row = none) : rest = [] := by
  cases rest with
  | nil => rfl
  | cons later rest =>
      have hlink := (List.isChain_append.1 h.next).2.1
      have hstop := (List.isChain_cons_cons.1 hlink).1.2
      rw [hopen] at hstop
      cases hstop

theorem exists_open (h : Contiguous start stop rows) (hne : rows ≠ []) :
    ∃ row ∈ rows, stop row = none :=
  ⟨rows.getLast hne, rows.getLast_mem hne, h.last _ (List.getLast?_eq_some_getLast hne)⟩

theorem length_open_le_one (h : Contiguous start stop rows) :
    (rows.filter fun row => (stop row).isNone).length ≤ 1 := by
  have hpair := h.pairwise.filter fun row => (stop row).isNone
  cases hrows : rows.filter fun row => (stop row).isNone with
  | nil => exact Nat.zero_le 1
  | cons first rest =>
      cases rest with
      | nil => exact le_rfl
      | cons second rest =>
          -- the first one would end where the second one starts
          have hfirst : first ∈ rows.filter fun row => (stop row).isNone := by simp [hrows]
          have hopen : stop first = none := by simpa using (List.mem_filter.1 hfirst).2
          rw [hrows] at hpair
          obtain ⟨-, until_, huntil, -⟩ := (List.pairwise_cons.1 hpair).1 second (by simp)
          rw [hopen] at huntil
          cases huntil

end Contiguous

/-! ## Rows with an owner -/

section Owners

variable {κ : Type*} [DecidableEq κ] {owner : ρ → κ} {start : ρ → τ} {stop : ρ → Option τ}
  {rows : List ρ} {new : ρ}

/-- The first row of an owner. -/
theorem contiguous_open_first
    (h : ∀ k, Contiguous start stop (rows.filter fun row => owner row = k))
    (hnone : ∀ row ∈ rows, owner row ≠ owner new) (hopen : stop new = none) (k : κ) :
    Contiguous start stop ((rows ++ [new]).filter fun row => owner row = k) := by
  rw [List.filter_append]
  by_cases hk : owner new = k
  · subst hk
    have hempty : (rows.filter fun row => owner row = owner new) = [] :=
      List.filter_eq_nil_iff.2 fun row hrow => by simpa using hnone row hrow
    rw [hempty, List.filter_cons_of_pos (by simp)]
    exact .singleton hopen
  · rw [List.filter_cons_of_neg (by simpa using hk), List.filter_nil, List.append_nil]
    exact h k

/-- The current row of an owner ends where the next one starts. -/
theorem contiguous_end_current {current : ρ} {f : ρ → ρ}
    (h : ∀ k, Contiguous start stop (rows.filter fun row => owner row = k))
    (hnodup : rows.Nodup) (hcurrent : current ∈ rows) (hopen : stop current = none)
    (hother : ∀ row ∈ rows, row ≠ current → f row = row)
    (howner : owner (f current) = owner current) (hstart : start (f current) = start current)
    (hstop : stop (f current) = some (start new)) (hlater : start current < start new)
    (hnew : owner new = owner current) (hopen' : stop new = none) (k : κ) :
    Contiguous start stop ((rows.map f ++ [new]).filter fun row => owner row = k) := by
  obtain ⟨before, after, rfl⟩ := List.append_of_mem hcurrent
  have hdisjoint := List.nodup_append.1 hnodup
  have hsame {part : List ρ} (hpart : ∀ row ∈ part, row ∈ before ++ current :: after)
      (hne : ∀ row ∈ part, row ≠ current) : part.map f = part := by
    conv_rhs => rw [← List.map_id part]
    exact List.map_congr_left fun row hrow => hother row (hpart row hrow) (hne row hrow)
  have hbefore : before.map f = before := hsame (fun row hrow => by simp [hrow])
    fun row hrow heq => hdisjoint.2.2 row hrow current (by simp) heq
  have hafter : after.map f = after := hsame (fun row hrow => by simp [hrow])
    fun row hrow heq => (List.nodup_cons.1 hdisjoint.2.1).1 (heq ▸ hrow)
  have hk := h k
  rw [List.filter_append] at hk
  rw [List.map_append, List.map_cons, hbefore, hafter, List.filter_append, List.filter_append]
  by_cases hmine : owner current = k
  · rw [List.filter_cons_of_pos (by simpa using hmine)] at hk
    have hnil := hk.rest_eq_nil hopen
    rw [hnil] at hk
    rw [List.filter_cons_of_pos (by simpa [howner] using hmine), hnil,
      List.filter_cons_of_pos (by simpa [hnew] using hmine), List.append_assoc]
    exact hk.append_row hstart hlater hstop hopen'
  · rw [List.filter_cons_of_neg (by simpa using hmine)] at hk
    rw [List.filter_cons_of_neg (by simpa [howner] using hmine),
      List.filter_cons_of_neg (by simpa [hnew] using hmine), List.filter_nil, List.append_nil]
    exact hk

omit [LinearOrder τ] in
/-- Updates and further rows leave the start of an owner's first row where it is. -/
theorem head?_of_update {f : ρ → ρ} (howner : ∀ row, owner (f row) = owner row)
    (hstart : ∀ row, start (f row) = start row) (more : List ρ) {k : κ} {first : ρ}
    (h : (rows.filter fun row => owner row = k).head? = some first) :
    ∃ first', ((rows.map f ++ more).filter fun row => owner row = k).head? = some first' ∧
      start first' = start first := by
  refine ⟨f first, ?_, hstart first⟩
  rw [List.filter_append, List.filter_map]
  have hsame : (rows.filter ((fun row => decide (owner row = k)) ∘ f)) =
      rows.filter fun row => owner row = k :=
    List.filter_congr fun row _ => by simp [howner]
  rw [hsame, List.head?_append, List.head?_map, h]
  rfl

end Owners

/-! ## Spans that cover a window -/

/-- Exactly one element satisfies `p`. -/
theorem countP_eq_one {α : Type*} {p : α → Bool} {as : List α} (hnodup : as.Nodup) {a : α}
    (ha : a ∈ as) (hp : p a = true) (hunique : ∀ other ∈ as, p other = true → other = a) :
    as.countP p = 1 := by
  obtain ⟨before, after, rfl⟩ := List.append_of_mem ha
  have hdisjoint := List.nodup_append.1 hnodup
  have hbefore : before.countP p = 0 := by
    refine List.countP_eq_zero.2 fun other hother hkeep => ?_
    exact hdisjoint.2.2 other hother a (by simp) (hunique other (by simp [hother]) hkeep)
  have hafter : after.countP p = 0 := by
    refine List.countP_eq_zero.2 fun other hother hkeep => ?_
    obtain rfl := hunique other (by simp [hother]) hkeep
    exact (List.nodup_cons.1 hdisjoint.2.1).1 hother
  rw [List.countP_append, List.countP_cons_of_pos hp, hbefore, hafter]

/-- From `start` up to `stop`. -/
structure Span (τ : Type*) where
  start : τ
  stop : τ
  deriving DecidableEq

/-- The instant lies in the span. -/
def Span.Contains (span : Span τ) (instant : τ) : Prop := span.start ≤ instant ∧ instant < span.stop

instance (span : Span τ) (instant : τ) : Decidable (span.Contains instant) :=
  inferInstanceAs (Decidable (_ ∧ _))

/-- Follow spans of which each has to start where the last one stopped. -/
def walk (cursor : τ) : List (Span τ) → Option τ
  | [] => some cursor
  | span :: rest =>
      if span.start < cursor then none
      else if cursor < span.start then none
      else walk span.stop rest

/-- Spans in the order of their starts can be followed through a window of which
every instant lies in exactly one of them. -/
theorem walk_eq_some {spans : List (Span τ)} {cursor stop : τ}
    (hsorted : spans.Pairwise (·.start ≤ ·.start))
    (hproper : ∀ span ∈ spans, span.start < span.stop ∧ cursor ≤ span.start ∧ span.stop ≤ stop)
    (hcount : ∀ instant, cursor ≤ instant → instant < stop →
      spans.countP (·.Contains instant) = 1)
    (hle : cursor ≤ stop) : walk cursor spans = some stop := by
  induction spans generalizing cursor with
  | nil =>
      rcases hle.lt_or_eq with hlt | rfl
      · simpa using hcount cursor le_rfl hlt
      · rfl
  | cons span rest ih =>
      obtain ⟨hsorted, hrest⟩ := List.pairwise_cons.1 hsorted
      obtain ⟨hspan, hcursor, hstop⟩ := hproper span (by simp)
      -- the span that contains the cursor does not start before the first one
      have hstart : span.start = cursor := by
        have hone := hcount cursor le_rfl (hcursor.trans_lt (hspan.trans_le hstop))
        obtain ⟨found, hmem, hcontains⟩ := List.countP_pos_iff.1 (by rw [hone]; exact one_pos)
        have hfound : found.start ≤ cursor := (of_decide_eq_true hcontains).1
        rcases List.mem_cons.1 hmem with rfl | hmem
        · exact le_antisymm hfound hcursor
        · exact le_antisymm ((hsorted found hmem).trans hfound) hcursor
      have hwalk : walk cursor (span :: rest) = walk span.stop rest := by
        simp [walk, hstart]
      rw [hwalk]
      refine ih hrest (fun later hlater => ?_) (fun instant hfrom huntil => ?_) hstop
      · obtain ⟨hlt, -, hend⟩ := hproper later (by simp [hlater])
        refine ⟨hlt, ?_, hend⟩
        by_contra hoverlap
        rw [not_le] at hoverlap
        -- otherwise both would contain the start of the later one
        have hone := hcount later.start (hstart ▸ hsorted later hlater) (hlt.trans_le hend)
        have hpos : 0 < rest.countP (·.Contains later.start) :=
          List.countP_pos_iff.2 ⟨later, hlater, decide_eq_true ⟨le_rfl, hlt⟩⟩
        have hhead : span.Contains later.start := ⟨hsorted later hlater, hoverlap⟩
        rw [List.countP_cons_of_pos (by simpa using hhead)] at hone
        omega
      · have hone := hcount instant (hcursor.trans (hspan.le.trans hfrom)) huntil
        have hhead : ¬ span.Contains instant := fun h => absurd h.2 (not_lt.2 hfrom)
        rwa [List.countP_cons_of_neg (by simpa using hhead)] at hone

/-- Spans that can be followed do not overlap. -/
theorem pairwise_of_walk {spans : List (Span τ)} {cursor stop : τ}
    (h : walk cursor spans = some stop) (hproper : ∀ span ∈ spans, span.start < span.stop) :
    (∀ span ∈ spans, cursor ≤ span.start) ∧
      spans.Pairwise fun earlier later => earlier.stop ≤ later.start := by
  induction spans generalizing cursor with
  | nil => exact ⟨by simp, .nil⟩
  | cons span rest ih =>
      unfold walk at h
      split_ifs at h with hbefore hafter
      have hcursor : cursor ≤ span.start := not_lt.1 hbefore
      obtain ⟨hlater, hrest⟩ := ih h fun later hlater => hproper later (by simp [hlater])
      have hspan := hproper span (by simp)
      refine ⟨fun later hmem => ?_, List.pairwise_cons.2 ⟨hlater, hrest⟩⟩
      rcases List.mem_cons.1 hmem with rfl | hmem
      · exact hcursor
      · exact hcursor.trans (hspan.le.trans (hlater later hmem))

/-! ## Spans that may overlap -/

/-- Follow spans in the order of their starts, as long as each starts by where the ones before it
have come to. -/
def sweep (cursor : τ) : List (Span τ) → Option τ
  | [] => some cursor
  | span :: rest =>
      if cursor < span.start then none
      else sweep (if cursor < span.stop then span.stop else cursor) rest

/-- Spans in the order of their starts can be followed up to `stop` exactly when they leave no
instant before it out. -/
theorem sweep_reaches_iff {spans : List (Span τ)} {cursor stop : τ}
    (hsorted : spans.Pairwise (·.start ≤ ·.start))
    (hbefore : ∀ span ∈ spans, span.start ≤ cursor ∨ span.start < stop) :
    (sweep cursor spans).any (stop ≤ ·) = true ↔
      ∀ instant, cursor ≤ instant → instant < stop → ∃ span ∈ spans, span.Contains instant := by
  induction spans generalizing cursor with
  | nil =>
      constructor
      · intro h instant hfrom huntil
        have hreached : stop ≤ cursor := by simpa [sweep] using h
        exact absurd (hreached.trans hfrom) (not_le.2 huntil)
      · intro h
        by_contra hshort
        have hlt : cursor < stop := by simpa [sweep] using hshort
        obtain ⟨span, hspan, -⟩ := h cursor le_rfl hlt
        cases hspan
  | cons span rest ih =>
      obtain ⟨hfirst, hrest⟩ := List.pairwise_cons.1 hsorted
      by_cases hgap : cursor < span.start
      · -- the instant at the cursor is left out: every span starts after it
        have hnone : sweep cursor (span :: rest) = none := if_pos hgap
        have hstop : span.start < stop :=
          (hbefore span List.mem_cons_self).resolve_left (not_le.2 hgap)
        rw [hnone]
        refine iff_of_false (by simp) fun h => ?_
        obtain ⟨later, hlater, hcontains⟩ := h cursor le_rfl (hgap.trans hstop)
        have hstart : span.start ≤ later.start := by
          rcases List.mem_cons.1 hlater with rfl | hlater
          · exact le_rfl
          · exact hfirst later hlater
        exact absurd (hstart.trans hcontains.1) (not_le.2 hgap)
      · have hnext : sweep cursor (span :: rest) =
            sweep (if cursor < span.stop then span.stop else cursor) rest := if_neg hgap
        have hforward : cursor ≤ if cursor < span.stop then span.stop else cursor := by
          split_ifs with hlonger
          · exact hlonger.le
          · exact le_rfl
        rw [hnext, ih hrest fun later hlater =>
          (hbefore later (List.mem_cons_of_mem _ hlater)).imp_left fun h => h.trans hforward]
        constructor
        · intro h instant hfrom huntil
          by_cases hinside : instant < span.stop
          · exact ⟨span, List.mem_cons_self, (not_lt.1 hgap).trans hfrom, hinside⟩
          · have hpast : (if cursor < span.stop then span.stop else cursor) ≤ instant := by
              split_ifs
              · exact not_lt.1 hinside
              · exact hfrom
            obtain ⟨later, hlater, hcontains⟩ := h instant hpast huntil
            exact ⟨later, List.mem_cons_of_mem _ hlater, hcontains⟩
        · intro h instant hpast huntil
          obtain ⟨later, hlater, hcontains⟩ := h instant (hforward.trans hpast) huntil
          rcases List.mem_cons.1 hlater with rfl | hlater
          · -- what the span contains lies before its stop
            have hstop : later.stop ≤ if cursor < later.stop then later.stop else cursor := by
              split_ifs with hlonger
              · exact le_rfl
              · exact not_lt.1 hlonger
            exact absurd (hstop.trans hpast) (not_le.2 hcontains.2)
          · exact ⟨later, hlater, hcontains⟩

end Lib
