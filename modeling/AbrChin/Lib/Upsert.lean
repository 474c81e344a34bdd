import AbrChin.Lib.Table
import Mathlib.Data.List.Induction

/-!
# Rows that are created or updated

Saving a form writes the values that it lists and leaves the other rows alone.  Here the rows are
a function of their key, and a listing is written over it, one entry after the other
(`overlay`).  What a listing leaves is restored by writing the listing again exactly where the keys
that it does not list are as it left them (`overlay_restores`), so a saved listing is no copy of
the settings that it was saved with.

A table refines this: `upsert` creates or updates the row of a key, and `find?` sees one entry being
written.
-/

namespace Lib

/-! ## Listings -/

section Listings

variable {κ ν ρ : Type*} [DecidableEq κ] {write : κ → ν → ρ → ρ} {f g : κ → ρ}
  {listing : List (κ × ν)} {k : κ}

/-- Write the values of a listing at their keys, in its order. -/
def overlay (write : κ → ν → ρ → ρ) (f : κ → ρ) (listing : List (κ × ν)) : κ → ρ :=
  listing.foldl (fun f entry => Function.update f entry.1 (write entry.1 entry.2 (f entry.1))) f

/-- A value hides the one that was written before it. -/
def Overwrites (write : κ → ν → ρ → ρ) : Prop :=
  ∀ k v w row, write k v (write k w row) = write k v row

/-- Two rows that no value tells apart, once it is written. -/
def SameBelow (write : κ → ν → ρ → ρ) (f g : κ → ρ) : Prop :=
  ∀ k v, write k v (f k) = write k v (g k)

theorem overlay_cons (entry : κ × ν) : overlay write f (entry :: listing) =
    overlay write (Function.update f entry.1 (write entry.1 entry.2 (f entry.1))) listing := rfl

theorem overlay_of_not_mem (h : k ∉ listing.map Prod.fst) : overlay write f listing k = f k := by
  induction listing generalizing f with
  | nil => rfl
  | cons entry rest ih =>
      obtain ⟨hne, hrest⟩ := not_or.1 (List.mem_cons.not.1 h)
      rw [overlay_cons, ih hrest, Function.update_of_ne hne]

omit [DecidableEq κ] in
theorem SameBelow.refl (f : κ → ρ) : SameBelow write f f := fun _ _ => rfl

omit [DecidableEq κ] in
theorem SameBelow.symm (h : SameBelow write f g) : SameBelow write g f := fun k v => (h k v).symm

omit [DecidableEq κ] in
theorem SameBelow.trans {e : κ → ρ} (h : SameBelow write f g) (h' : SameBelow write g e) :
    SameBelow write f e := fun k v => (h k v).trans (h' k v)

/-- What is below the values of a listing stays. -/
theorem Overwrites.sameBelow_overlay (hwrite : Overwrites write) (f : κ → ρ)
    (listing : List (κ × ν)) : SameBelow write (overlay write f listing) f := by
  induction listing generalizing f with
  | nil => exact SameBelow.refl f
  | cons entry rest ih =>
      rw [overlay_cons]
      refine (ih _).trans fun k v => ?_
      by_cases hk : k = entry.1
      · subst hk
        rw [Function.update_self, hwrite]
      · rw [Function.update_of_ne hk]

/-- A key gets the same row where it is listed, and where it has been the same. -/
theorem overlay_congr (hbelow : SameBelow write f g)
    (hk : k ∈ listing.map Prod.fst ∨ f k = g k) :
    overlay write f listing k = overlay write g listing k := by
  induction listing generalizing f g with
  | nil =>
      rcases hk with hmem | hsame
      · cases hmem
      · exact hsame
  | cons entry rest ih =>
      rw [overlay_cons, overlay_cons]
      have hnext : SameBelow write
          (Function.update f entry.1 (write entry.1 entry.2 (f entry.1)))
          (Function.update g entry.1 (write entry.1 entry.2 (g entry.1))) := by
        intro j v
        by_cases hj : j = entry.1
        · subst hj
          rw [Function.update_self, Function.update_self, hbelow]
        · rw [Function.update_of_ne hj, Function.update_of_ne hj, hbelow]
      refine ih hnext ?_
      by_cases hentry : k = entry.1
      · subst hentry
        rw [Function.update_self, Function.update_self]
        exact .inr (hbelow _ _)
      · rw [Function.update_of_ne hentry, Function.update_of_ne hentry]
        exact hk.imp_left fun hmem => (List.mem_cons.1 hmem).resolve_left hentry

/-- **A listing restores what it has left exactly where it lists what has changed since.** -/
theorem overlay_restores (hbelow : SameBelow write g f) :
    overlay write g listing = overlay write f listing ↔
      ∀ k ∉ listing.map Prod.fst, g k = overlay write f listing k := by
  constructor
  · intro hsame k hk
    rw [← hsame, overlay_of_not_mem hk]
  · intro hkept
    funext k
    by_cases hk : k ∈ listing.map Prod.fst
    · exact overlay_congr hbelow (.inl hk)
    · rw [overlay_of_not_mem hk, hkept k hk]

/-- A loop that writes one entry at a time, seen through the rows. -/
theorem overlay_of_foldlM {ε σ α : Type*} (rows : σ → κ → ρ) {step : σ → α → Except ε σ}
    {entry : α → κ × ν}
    (hstep : ∀ state a later, step state a = .ok later → rows later =
      Function.update (rows state) (entry a).1 (write (entry a).1 (entry a).2
        (rows state (entry a).1)))
    {items : List α} {state later : σ} (h : items.foldlM step state = .ok later) :
    rows later = overlay write (rows state) (items.map entry) := by
  induction items generalizing state with
  | nil =>
      cases h
      rfl
  | cons item rest ih =>
      rw [List.foldlM_cons] at h
      cases hnext : step state item with
      | error e =>
          rw [hnext] at h
          cases h
      | ok next =>
          rw [hnext] at h
          rw [ih h, hstep _ _ _ hnext, List.map_cons, overlay_cons]

/-- What the loop over a listing does for an entry is there at the end, when the other entries leave
it. -/
theorem of_mem_foldlM {ε σ α : Type*} [DecidableEq α] {step : σ → α → Except ε σ} {Q P : σ → Prop}
    {item : α} {items : List α}
    (hitem : ∀ state later, Q state → step state item = .ok later → Q later ∧ P later)
    (hother : ∀ other ∈ items, other ≠ item → ∀ state later, Q state →
      step state other = .ok later → Q later ∧ (P state → P later))
    {state later : σ} (hstate : Q state) (hmem : item ∈ items ∨ P state)
    (h : items.foldlM step state = .ok later) : P later := by
  induction items generalizing state with
  | nil =>
      cases h
      exact hmem.resolve_left List.not_mem_nil
  | cons first rest ih =>
      rw [List.foldlM_cons] at h
      cases hnext : step state first with
      | error e =>
          rw [hnext] at h
          cases h
      | ok next =>
          rw [hnext] at h
          have hrest : ∀ other ∈ rest, other ≠ item → ∀ state later, Q state →
              step state other = .ok later → Q later ∧ (P state → P later) :=
            fun other hin => hother other (List.mem_cons_of_mem _ hin)
          by_cases hfirst : first = item
          · subst hfirst
            obtain ⟨hq, hp⟩ := hitem state next hstate hnext
            exact ih hrest hq (.inr hp) h
          · obtain ⟨hq, hp⟩ := hother first List.mem_cons_self hfirst state next hstate hnext
            refine ih hrest hq (hmem.imp (fun hin => ?_) hp) h
            exact (List.mem_cons.1 hin).resolve_left (Ne.symm hfirst)

end Listings

/-! ## One row of many -/

section Update

variable {κ ρ : Type*} [DecidableEq κ] {rows : κ → Option ρ} {k other : κ} {row found : ρ}

theorem update_some_cases (h : Function.update rows k (some row) other = some found) :
    (other = k ∧ found = row) ∨ (other ≠ k ∧ rows other = some found) := by
  by_cases hother : other = k
  · subst hother
    rw [Function.update_self] at h
    exact .inl ⟨rfl, (Option.some.inj h).symm⟩
  · rw [Function.update_of_ne hother] at h
    exact .inr ⟨hother, h⟩

theorem update_none_eq_some (h : Function.update rows k none other = some found) :
    other ≠ k ∧ rows other = some found := by
  by_cases hother : other = k
  · subst hother
    rw [Function.update_self] at h
    cases h
  · rw [Function.update_of_ne hother] at h
    exact ⟨hother, h⟩

end Update

/-! ## The last entry -/

section LastListed

variable {α κ ρ : Type*} [DecidableEq κ] {key : α → κ} {listing : List α}

/-- The last entry of a listing that has its key. -/
def LastListed (key : α → κ) (listing : List α) (item : α) : Prop :=
  listing.reverse.find? (fun other => key other = key item) = some item

theorem lastListed_concat {last item : α} : LastListed key (listing ++ [last]) item ↔
    item = last ∨ (key last ≠ key item ∧ LastListed key listing item) := by
  unfold LastListed
  rw [List.reverse_append, List.reverse_singleton, List.singleton_append, List.find?_cons]
  by_cases hkey : key last = key item
  · simp [hkey, eq_comm]
  · simp only [hkey, decide_false, ne_eq, not_false_eq_true, true_and]
    constructor
    · exact .inr
    · rintro (rfl | hrest)
      · exact absurd rfl hkey
      · exact hrest

/-- **Rows that are put one after the other**: each key has the row of its last entry, or the row
that it has had before. -/
theorem foldl_update_eq_some {row : α → ρ} {f : κ → Option ρ} {k : κ} {r : ρ} :
    listing.foldl (fun f item => Function.update f (key item) (some (row item))) f k = some r ↔
      (∃ item, LastListed key listing item ∧ key item = k ∧ row item = r) ∨
        (k ∉ listing.map key ∧ f k = some r) := by
  induction listing using List.reverseRecOn with
  | nil => simp [LastListed]
  | append_singleton rest last ih =>
      rw [List.foldl_append, List.foldl_cons, List.foldl_nil]
      by_cases hk : k = key last
      · subst hk
        rw [Function.update_self, Option.some_inj]
        constructor
        · rintro rfl
          exact .inl ⟨last, lastListed_concat.2 (.inl rfl), rfl, rfl⟩
        · rintro (⟨item, hitem, hkey, rfl⟩ | ⟨hfresh, -⟩)
          · rcases lastListed_concat.1 hitem with rfl | ⟨hne, -⟩
            · rfl
            · exact absurd hkey.symm hne
          · exact absurd (by simp) hfresh
      · rw [Function.update_of_ne hk, ih]
        have hmap : k ∉ (rest ++ [last]).map key ↔ k ∉ rest.map key := by
          simp [hk]
        rw [hmap]
        refine or_congr_left ⟨?_, ?_⟩
        · rintro ⟨item, hitem, rfl, hrow⟩
          exact ⟨item, lastListed_concat.2 (.inr ⟨Ne.symm hk, hitem⟩), rfl, hrow⟩
        · rintro ⟨item, hitem, rfl, hrow⟩
          rcases lastListed_concat.1 hitem with rfl | ⟨-, hrest⟩
          · exact absurd rfl hk
          · exact ⟨item, hrest, rfl, hrow⟩

end LastListed

/-! ## Tables -/

namespace Table

variable {ρ ρ' κ : Type*} {key : ρ → κ} {key' : ρ' → κ}

/-- The rows, each with the same key in another form. -/
def map (table : Table key) (f : ρ → ρ') (hf : ∀ row, key' (f row) = key row) : Table key' :=
  ⟨table.rows.map f, by
    rw [List.map_map, show key' ∘ f = key from funext hf]
    exact table.nodup⟩

variable [DecidableEq κ]

variable {table : Table key}

theorem find?_map {f : ρ → ρ'} (hf : ∀ row, key' (f row) = key row) (k : κ) :
    (table.map f hf).find? k = (table.find? k).map f := by
  have hcomp : ((fun row => decide (key' row = k)) ∘ f) = fun row => decide (key row = k) := by
    funext row
    simp [hf]
  unfold find? map
  rw [List.find?_map, hcomp]

theorem find?_eq_none_of_keys {keys : List κ} {k : κ} (hkeys : ∀ row ∈ table, key row ∈ keys)
    (hk : k ∉ keys) : table.find? k = none := by
  refine find?_eq_none.2 fun row hrow hkey => hk ?_
  rw [← hkey]
  exact hkeys row hrow

/-- A row that is looked for by its key and a test. -/
theorem find?_rows {p q : ρ → Bool} {k : κ}
    (hq : ∀ row, q row = true ↔ key row = k ∧ p row = true) :
    table.rows.find? q = (table.find? k).filter p := by
  ext row
  constructor
  · intro h
    obtain ⟨hkey, hp⟩ := (hq row).1 (List.find?_some h)
    exact Option.filter_eq_some_iff.2
      ⟨find?_eq_some.2 ⟨List.mem_of_find?_eq_some h, hkey⟩, hp⟩
  · intro h
    obtain ⟨hfind, hp⟩ := Option.filter_eq_some_iff.1 h
    obtain ⟨hmem, hkey⟩ := find?_eq_some.1 hfind
    cases hother : table.rows.find? q with
    | none => exact absurd ((hq row).2 ⟨hkey, hp⟩) (List.find?_eq_none.1 hother row hmem)
    | some other =>
        have htest := (hq other).1 (List.find?_some hother)
        rw [eq_of_key (List.mem_of_find?_eq_some hother) hmem (htest.1.trans hkey.symm)]

/-- Create a row, or update the one that has its key. -/
def upsert (table : Table key) (create : ρ) (update : ρ → ρ)
    (hupdate : ∀ row, key (update row) = key row) : Table key :=
  (table.insert? create).getD (table.modify (key create) update hupdate)

variable {create : ρ}

theorem find?_upsert {update : ρ → ρ} {hupdate : ∀ row, key (update row) = key row} :
    (table.upsert create update hupdate).find? = Function.update table.find? (key create)
      (some ((table.find? (key create)).elim create update)) := by
  funext k
  unfold upsert
  cases hinsert : table.insert? create with
  | some later =>
      have hfresh := fresh_of_insert? hinsert
      rw [Option.getD_some, find?_insert? hinsert, hfresh]
      by_cases hk : key create = k
      · subst hk
        rw [if_pos rfl, Function.update_self]
        rfl
      · rw [if_neg hk, Function.update_of_ne (Ne.symm hk)]
  | none =>
      rw [Option.getD_none, find?_modify]
      by_cases hk : k = key create
      · subst hk
        rw [if_pos rfl, Function.update_self]
        cases hfind : table.find? (key create) with
        | some row => rfl
        | none =>
            have hsome := insert?_isSome hfind
            rw [hinsert] at hsome
            cases hsome
      · rw [if_neg hk, Function.update_of_ne hk]

/-- An update that writes what a creation writes puts one row. -/
theorem find?_upsert_put {update : ρ → ρ} {hupdate : ∀ row, key (update row) = key row}
    (hsame : ∀ row, key row = key create → update row = create) :
    (table.upsert create update hupdate).find? =
      Function.update table.find? (key create) (some create) := by
  rw [find?_upsert]
  cases hfind : table.find? (key create) with
  | none => rfl
  | some row => rw [Option.elim_some, hsame row (key_of_find? hfind)]

end Table

end Lib
