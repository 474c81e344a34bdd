import Mathlib.Data.List.Nodup

/-!
# Tables with a unique key

A database table, seen by one program: its rows in the order in which they were
inserted, together with the proof that no two rows share a key.  The proof is a
field, so a table with a duplicated key cannot be built: `insert?` refuses a
taken key, and `modify` takes a row update that leaves the key alone.
-/

namespace Lib

/-- Rows of type `ρ` whose key is unique. -/
structure Table {ρ κ : Type*} (key : ρ → κ) where
  rows : List ρ
  nodup : (rows.map key).Nodup

namespace Table

variable {ρ κ : Type*} {key : ρ → κ}

instance : Membership ρ (Table key) := ⟨fun table row => row ∈ table.rows⟩

variable {table : Table key} {row : ρ}

theorem mem_def : row ∈ table ↔ row ∈ table.rows := Iff.rfl

/-- The table without rows. -/
def empty : Table key := ⟨[], List.nodup_nil⟩

variable [DecidableEq κ]

/-- The row with a given key. -/
def find? (table : Table key) (k : κ) : Option ρ :=
  table.rows.find? fun row => key row = k

/-- Add a row at the end; `none` when its key is taken. -/
def insert? (table : Table key) (row : ρ) : Option (Table key) :=
  if fresh : key row ∈ table.rows.map key then none
  else some ⟨table.rows ++ [row], by
    rw [List.map_append, List.map_singleton]
    exact List.nodup_append.2 ⟨table.nodup, List.nodup_singleton _, by
      intro a ha b hb hab
      rw [List.mem_singleton.1 hb] at hab
      exact fresh (hab ▸ ha)⟩⟩

/-- Apply `f`, which keeps keys, to the row with key `k`. -/
def modify (table : Table key) (k : κ) (f : ρ → ρ) (hf : ∀ row, key (f row) = key row) :
    Table key :=
  ⟨table.rows.map fun row => if key row = k then f row else row, by
    have hkeys : (table.rows.map fun row => if key row = k then f row else row).map key =
        table.rows.map key := by
      rw [List.map_map]
      refine List.map_congr_left fun row _ => ?_
      by_cases h : key row = k <;> simp [h, hf]
    rw [hkeys]
    exact table.nodup⟩

/-- Apply `f`, which keeps keys, to the row with key `k`; `none` when it is not there or does
not satisfy `p`. -/
def updateIf? (table : Table key) (k : κ) (p : ρ → Bool) (f : ρ → ρ)
    (hf : ∀ row, key (f row) = key row) : Option (Table key) :=
  if (table.find? k).any p then some (table.modify k f hf) else none

/-- Apply `f`, which keeps keys, to the rows that satisfy `p`. -/
def updateMany (table : Table key) (p : ρ → Bool) (f : ρ → ρ)
    (hf : ∀ row, key (f row) = key row) : Table key :=
  ⟨table.rows.map fun row => if p row then f row else row, by
    have hkeys : (table.rows.map fun row => if p row then f row else row).map key =
        table.rows.map key := by
      rw [List.map_map]
      refine List.map_congr_left fun row _ => ?_
      by_cases h : p row <;> simp [h, hf]
    rw [hkeys]
    exact table.nodup⟩

/-- Delete the rows that do not satisfy `keep`. -/
def filter (table : Table key) (keep : ρ → Bool) : Table key :=
  ⟨table.rows.filter keep, table.nodup.sublist (List.filter_sublist.map key)⟩

/-! ## Finding a row -/

variable {k : κ}

theorem mem_of_find? (h : table.find? k = some row) : row ∈ table :=
  List.mem_of_find?_eq_some h

theorem key_of_find? (h : table.find? k = some row) : key row = k := by
  simpa using List.find?_some h

omit [DecidableEq κ] in
theorem eq_of_key {first second : ρ} (h₁ : first ∈ table) (h₂ : second ∈ table)
    (hkey : key first = key second) : first = second :=
  List.inj_on_of_nodup_map table.nodup h₁ h₂ hkey

theorem find?_eq_some : table.find? k = some row ↔ row ∈ table ∧ key row = k := by
  constructor
  · intro h
    exact ⟨mem_of_find? h, key_of_find? h⟩
  · rintro ⟨hmem, rfl⟩
    cases h : table.find? (key row) with
    | none => simpa using List.find?_eq_none.1 h row hmem
    | some other => rw [eq_of_key (mem_of_find? h) hmem (key_of_find? h)]

theorem find?_of_mem (h : row ∈ table) : table.find? (key row) = some row :=
  find?_eq_some.2 ⟨h, rfl⟩

theorem find?_eq_none : table.find? k = none ↔ ∀ row ∈ table, key row ≠ k := by
  simp [find?, List.find?_eq_none, mem_def]

variable {p : ρ → Bool}

/-- A row that is found among some of the rows by a stronger test is found by its key. -/
theorem find?_of_find?_filter {keep : ρ → Bool} (hp : ∀ row, p row = true → key row = k)
    (h : (table.rows.filter keep).find? p = some row) :
    table.find? k = some row ∧ keep row = true := by
  obtain ⟨hmem, hkeep⟩ := List.mem_filter.1 (List.mem_of_find?_eq_some h)
  exact ⟨find?_eq_some.2 ⟨hmem, hp row (List.find?_some h)⟩, hkeep⟩

omit [DecidableEq κ] in
/-- Rows with one key in common are at most one. -/
theorem length_filter_le_one (h : ∀ row ∈ table, p row = true → key row = k) :
    (table.rows.filter p).length ≤ 1 := by
  have hnodup : ((table.rows.filter p).map key).Nodup :=
    table.nodup.sublist (List.filter_sublist.map key)
  have hkeys : ∀ row ∈ table.rows.filter p, key row = k := fun row hrow =>
    h row (List.mem_filter.1 hrow).1 (List.mem_filter.1 hrow).2
  match hrows : table.rows.filter p with
  | [] => simp
  | [_] => simp
  | first :: second :: rest =>
      rw [hrows] at hnodup hkeys
      have hfirst : key first = k := hkeys first List.mem_cons_self
      have hsecond : key second = k := hkeys second (List.mem_cons_of_mem _ List.mem_cons_self)
      simp [hfirst, hsecond] at hnodup

/-! ## After an insertion -/

variable {table' : Table key}

theorem rows_of_insert? (h : table.insert? row = some table') :
    table'.rows = table.rows ++ [row] := by
  unfold insert? at h
  split at h
  · cases h
  · cases h
    rfl

theorem fresh_of_insert? (h : table.insert? row = some table') : table.find? (key row) = none := by
  unfold insert? at h
  split at h
  · cases h
  · rename_i hfresh
    refine find?_eq_none.2 fun other hother hkey => hfresh ?_
    exact hkey ▸ List.mem_map_of_mem hother

theorem mem_insert? {other : ρ} (h : table.insert? row = some table') :
    other ∈ table' ↔ other ∈ table ∨ other = row := by
  rw [mem_def, rows_of_insert? h]
  simp [mem_def]

theorem find?_insert? (h : table.insert? row = some table') (k : κ) :
    table'.find? k = if key row = k then some row else table.find? k := by
  have hfresh := fresh_of_insert? h
  unfold find? at hfresh ⊢
  rw [rows_of_insert? h, List.find?_append]
  by_cases hk : key row = k
  · subst hk
    simp [hfresh]
  · simp [hk]

theorem insert?_isSome (h : table.find? (key row) = none) : (table.insert? row).isSome := by
  unfold insert?
  split
  · rename_i hmem
    obtain ⟨other, hother, hkey⟩ := List.mem_map.1 hmem
    exact absurd hkey (find?_eq_none.1 h other hother)
  · rfl

/-! ## After an update -/

variable {f : ρ → ρ}

theorem mem_modify {hf : ∀ row, key (f row) = key row} :
    row ∈ table.modify k f hf ↔
      ∃ before ∈ table, row = if key before = k then f before else before := by
  simp [mem_def, modify, eq_comm]

/-- A row has its successor. -/
theorem exists_mem_modify (hf : ∀ row, key (f row) = key row) (h : row ∈ table) :
    ∃ later ∈ table.modify k f hf, key later = key row := by
  refine ⟨_, mem_modify.2 ⟨row, h, rfl⟩, ?_⟩
  by_cases hkey : key row = k
  · rw [if_pos hkey, hf]
  · rw [if_neg hkey]

theorem mem_modify_of_ne (hf : ∀ row, key (f row) = key row) (h : row ∈ table)
    (hkey : key row ≠ k) :
    row ∈ table.modify k f hf :=
  mem_modify.2 ⟨row, h, (if_neg hkey).symm⟩

theorem mem_modify_of_eq (f : ρ → ρ) (hf : ∀ row, key (f row) = key row) (h : row ∈ table)
    (hkey : key row = k) :
    f row ∈ table.modify k f hf :=
  mem_modify.2 ⟨row, h, (if_pos hkey).symm⟩

theorem find?_modify (hf : ∀ row, key (f row) = key row) (j : κ) :
    (table.modify k f hf).find? j = if j = k then (table.find? k).map f else table.find? j := by
  have hcomp : ((fun row => decide (key row = j)) ∘ fun row => if key row = k then f row else row) =
      fun row => decide (key row = j) := by
    funext row
    by_cases h : key row = k <;> simp [h, hf]
  unfold find? modify
  rw [List.find?_map, hcomp]
  by_cases hj : j = k
  · subst hj
    rw [if_pos rfl]
    cases hfind : table.rows.find? fun row => decide (key row = j) with
    | none => rfl
    | some row =>
        have hkey : key row = j := by simpa using List.find?_some hfind
        simp [hkey]
  · rw [if_neg hj]
    cases hfind : table.rows.find? fun row => decide (key row = j) with
    | none => rfl
    | some row =>
        have hkey : key row = j := by simpa using List.find?_some hfind
        have hne : key row ≠ k := fun h => hj (hkey.symm.trans h)
        simp [hne]

theorem updateIf?_eq_some {hf : ∀ row, key (f row) = key row} :
    table.updateIf? k p f hf = some table' ↔
      ∃ row, table.find? k = some row ∧ p row = true ∧ table' = table.modify k f hf := by
  unfold updateIf?
  cases table.find? k with
  | none => simp
  | some row => by_cases hrow : p row <;> simp [hrow, @eq_comm _ _ table']

omit [DecidableEq κ] in
theorem mem_updateMany {hf : ∀ row, key (f row) = key row} :
    row ∈ table.updateMany p f hf ↔
      ∃ before ∈ table, row = if p before then f before else before := by
  show row ∈ table.rows.map _ ↔ _
  rw [List.mem_map]
  exact exists_congr fun before => and_congr_right fun _ => eq_comm

/-! ## After a deletion -/

omit [DecidableEq κ] in
@[simp] theorem mem_filter {keep : ρ → Bool} :
    row ∈ table.filter keep ↔ row ∈ table ∧ keep row = true := by
  simp [mem_def, filter]

end Table

end Lib
