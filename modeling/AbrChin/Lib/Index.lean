import AbrChin.Lib.Table

/-!
# Tables with unique indexes

A table may have, besides its key, further unique columns that can be null.
`IndexedTable key indexes` carries one proof more than `Table key`: no value of
an index occurs in two rows.  A write that would break this is refused.
-/

namespace Lib

/-- A table whose columns `indexes` are unique where they are not null. -/
structure IndexedTable {ρ κ ι : Type*} (key : ρ → κ) (indexes : List (ρ → Option ι)) where
  table : Table key
  unique : ∀ index ∈ indexes, (table.rows.filterMap index).Nodup

namespace IndexedTable

variable {ρ κ ι : Type*} {key : ρ → κ} {indexes : List (ρ → Option ι)}

/-- The rows, in the order of their insertion. -/
def rows (indexed : IndexedTable key indexes) : List ρ := indexed.table.rows

/-- The table without rows. -/
def empty : IndexedTable key indexes := ⟨Table.empty, fun _ _ => List.nodup_nil⟩

variable {value : ι} {second : ρ}

/-- What `filterMap` keeps without repetition comes from one element. -/
theorem inj_on_of_nodup_filterMap {f : ρ → Option ι} {rows : List ρ}
    (h : (rows.filterMap f).Nodup) {first : ρ} (h₁ : first ∈ rows) (h₂ : second ∈ rows)
    (hfirst : f first = some value) (hsecond : f second = some value) :
    first = second := by
  induction rows with
  | nil => cases h₁
  | cons row rest ih =>
      cases hrow : f row with
      | none =>
          rw [List.filterMap_cons_none hrow] at h
          rcases List.mem_cons.1 h₁ with rfl | h₁
          · simp [hrow] at hfirst
          rcases List.mem_cons.1 h₂ with rfl | h₂
          · simp [hrow] at hsecond
          exact ih h h₁ h₂
      | some kept =>
          rw [List.filterMap_cons_some hrow, List.nodup_cons] at h
          -- the value of the head does not occur in the rest
          have hfresh : ∀ other ∈ rest, f other ≠ some kept :=
            fun other hother he => h.1 (List.mem_filterMap.2 ⟨other, hother, he⟩)
          rcases List.mem_cons.1 h₁ with rfl | hm₁ <;> rcases List.mem_cons.1 h₂ with rfl | hm₂
          · rfl
          · exact absurd (by rw [hsecond, ← hfirst, hrow]) (hfresh second hm₂)
          · exact absurd (by rw [hfirst, ← hsecond, hrow]) (hfresh first hm₁)
          · exact ih h.2 hm₁ hm₂

variable {indexed : IndexedTable key indexes}

/-- Rows that agree on an index are one row. -/
theorem eq_of_index {first : ρ} (h₁ : first ∈ indexed.rows) (h₂ : second ∈ indexed.rows)
    {index : ρ → Option ι} (hindex : index ∈ indexes) (hfirst : index first = some value)
    (hsecond : index second = some value) : first = second :=
  inj_on_of_nodup_filterMap (indexed.unique index hindex) h₁ h₂ hfirst hsecond

/-- At most one row has a given value of an index. -/
theorem length_filter_le_one [DecidableEq ι] {index : ρ → Option ι} (hindex : index ∈ indexes) :
    (indexed.rows.filter fun row => index row = some value).length ≤ 1 := by
  have hcount := List.nodup_iff_count_le_one.1 (indexed.unique index hindex) value
  refine le_of_eq_of_le ?_ hcount
  unfold rows
  induction indexed.table.rows with
  | nil => rfl
  | cons row rest ih =>
      rw [List.filter_cons, List.filterMap_cons]
      cases hrow : index row with
      | none => simpa [hrow] using ih
      | some kept =>
          by_cases hkept : kept = value
          · simpa [hkept] using ih
          · simpa [hkept] using ih

variable [DecidableEq κ] [DecidableEq ι]

/-- The indexed table of the rows of a table, unless an index refuses them. -/
def build? (table : Table key) : Option (IndexedTable key indexes) :=
  if h : ∀ index ∈ indexes, (table.rows.filterMap index).Nodup then some ⟨table, h⟩ else none

/-- The row with a given key. -/
def find? (indexed : IndexedTable key indexes) (k : κ) : Option ρ := indexed.table.find? k

/-- Add a row at the end, unless its key or an index refuses it. -/
def insert? (indexed : IndexedTable key indexes) (row : ρ) : Option (IndexedTable key indexes) :=
  (indexed.table.insert? row).bind build?

/-- Apply `f`, which keeps keys, to the row with key `k`, unless an index refuses the result. -/
def modify? (indexed : IndexedTable key indexes) (k : κ) (f : ρ → ρ)
    (hf : ∀ row, key (f row) = key row) : Option (IndexedTable key indexes) :=
  build? (indexed.table.modify k f hf)

/-- Apply `f`, which keeps keys, to the row with key `k`; `none` when it is not there, does not
satisfy `p` or is refused by an index. -/
def updateIf? (indexed : IndexedTable key indexes) (k : κ) (p : ρ → Bool) (f : ρ → ρ)
    (hf : ∀ row, key (f row) = key row) : Option (IndexedTable key indexes) :=
  if (indexed.find? k).any p then indexed.modify? k f hf else none

variable {indexed' : IndexedTable key indexes} {f : ρ → ρ}

theorem updateIf?_eq_some {k : κ} {p : ρ → Bool} {hf : ∀ row, key (f row) = key row} :
    indexed.updateIf? k p f hf = some indexed' ↔
      ∃ row, indexed.find? k = some row ∧ p row = true ∧ indexed.modify? k f hf = some indexed' := by
  unfold updateIf?
  cases indexed.find? k with
  | none => simp
  | some row => by_cases hrow : p row <;> simp [hrow]

omit [DecidableEq κ] in
theorem table_of_build? {table : Table key} (h : build? table = some indexed) :
    indexed.table = table := by
  unfold build? at h
  split at h
  · cases h
    rfl
  · cases h

variable {row : ρ}

theorem rows_of_insert? (h : indexed.insert? row = some indexed') :
    indexed'.rows = indexed.rows ++ [row] := by
  obtain ⟨table, hinsert, hbuild⟩ := Option.bind_eq_some_iff.1 h
  unfold rows
  rw [table_of_build? hbuild]
  exact Table.rows_of_insert? hinsert

theorem find?_insert? (h : indexed.insert? row = some indexed') (k : κ) :
    indexed'.find? k = if key row = k then some row else indexed.find? k := by
  obtain ⟨table, hinsert, hbuild⟩ := Option.bind_eq_some_iff.1 h
  unfold find?
  rw [table_of_build? hbuild]
  exact Table.find?_insert? hinsert k

theorem fresh_of_insert? (h : indexed.insert? row = some indexed') :
    indexed.find? (key row) = none := by
  obtain ⟨table, hinsert, -⟩ := Option.bind_eq_some_iff.1 h
  exact Table.fresh_of_insert? hinsert

/-- A row whose key and index values are new is not refused. -/
theorem insert?_isSome (hkey : indexed.find? (key row) = none)
    (hindexes : ∀ index ∈ indexes, ∀ value ∈ index row, ∀ other ∈ indexed.rows,
      index other ≠ some value) : (indexed.insert? row).isSome := by
  obtain ⟨table, htable⟩ := Option.isSome_iff_exists.1 (Table.insert?_isSome hkey)
  have hunique : ∀ index ∈ indexes, (table.rows.filterMap index).Nodup := by
    intro index hindex
    rw [Table.rows_of_insert? htable, List.filterMap_append, List.nodup_append]
    refine ⟨indexed.unique index hindex, ?_, fun first hfirst second hsecond heq => ?_⟩
    · cases hrow : index row with
      | none => simp [hrow]
      | some value => simp [hrow]
    · obtain ⟨other, hother, hvalue⟩ := List.mem_filterMap.1 hfirst
      have hnew : index row = some second := by simpa using hsecond
      exact hindexes index hindex second hnew other hother (heq ▸ hvalue)
  simp only [insert?, htable, Option.bind_some, build?, dif_pos hunique, Option.isSome_some]

theorem find?_modify? {k : κ} {hf : ∀ row, key (f row) = key row}
    (h : indexed.modify? k f hf = some indexed') (j : κ) :
    indexed'.find? j = if j = k then (indexed.find? k).map f else indexed.find? j := by
  unfold find?
  rw [table_of_build? h]
  exact Table.find?_modify hf j

/-- An update that leaves the indexes alone is not refused. -/
theorem modify?_isSome {indexed : IndexedTable key indexes} {k : κ} {f : ρ → ρ}
    {hf : ∀ row, key (f row) = key row}
    (hindexes : ∀ index ∈ indexes, ∀ row, index (f row) = index row) :
    (indexed.modify? k f hf).isSome := by
  have hunique : ∀ index ∈ indexes,
      ((indexed.table.modify k f hf).rows.filterMap index).Nodup := by
    intro index hindex
    have hsame : (indexed.table.modify k f hf).rows.filterMap index =
        indexed.table.rows.filterMap index := by
      rw [Table.modify, List.filterMap_map]
      refine List.filterMap_congr fun row _ => ?_
      by_cases hk : key row = k <;> simp [hk, hindexes index hindex]
    rw [hsame]
    exact indexed.unique index hindex
  simp only [modify?, build?, dif_pos hunique, Option.isSome_some]

/-- An update whose new index values nobody has is not refused. -/
theorem modify?_isSome_of_unused {k : κ} {hf : ∀ row, key (f row) = key row}
    (hindexes : ∀ index ∈ indexes, ∀ row, indexed.find? k = some row →
      index (f row) = index row ∨ ∀ other ∈ indexed.rows, index other ≠ index (f row)) :
    (indexed.modify? k f hf).isSome := by
  have hunique : ∀ index ∈ indexes,
      ((indexed.table.modify k f hf).rows.filterMap index).Nodup := by
    intro index hindex
    have hvalues := List.pairwise_filterMap.1 (indexed.unique index hindex)
    have hkeys : indexed.table.rows.Pairwise fun first second => key first ≠ key second :=
      List.pairwise_map.1 indexed.table.nodup
    have hfind : ∀ row ∈ indexed.table.rows, key row = k → indexed.find? k = some row := by
      rintro row hrow rfl
      exact Table.find?_of_mem hrow
    rw [Table.modify, List.filterMap_map]
    apply List.pairwise_filterMap.2
    refine List.Pairwise.imp_of_mem ?_ (hvalues.and hkeys)
    rintro first second hfirst hsecond ⟨hne, hkey⟩ value hvalue other hother rfl
    simp only [Function.comp_apply] at hvalue hother
    by_cases h₁ : key first = k
    · have h₂ : key second ≠ k := fun h => hkey (h₁.trans h.symm)
      rw [if_pos h₁] at hvalue
      rw [if_neg h₂] at hother
      rcases hindexes index hindex first (hfind first hfirst h₁) with hsame | hunused
      · exact hne value (hsame.symm.trans hvalue) value hother rfl
      · exact hunused second hsecond (hother.trans hvalue.symm)
    · rw [if_neg h₁] at hvalue
      by_cases h₂ : key second = k
      · rw [if_pos h₂] at hother
        rcases hindexes index hindex second (hfind second hsecond h₂) with hsame | hunused
        · exact hne value hvalue value (hsame.symm.trans hother) rfl
        · exact hunused first hfirst (hvalue.trans hother.symm)
      · rw [if_neg h₂] at hother
        exact hne value hvalue value hother rfl
  simp only [modify?, build?, dif_pos hunique, Option.isSome_some]

theorem rows_of_modify? {k : κ} {hf : ∀ row, key (f row) = key row}
    (h : indexed.modify? k f hf = some indexed') :
    indexed'.rows = indexed.rows.map fun row => if key row = k then f row else row := by
  unfold rows
  rw [table_of_build? h]
  rfl

/-- A row that an update does not reach stays. -/
theorem mem_of_modify? {k : κ} {hf : ∀ row, key (f row) = key row}
    (h : indexed.modify? k f hf = some indexed') (hrow : row ∈ indexed.rows) :
    ∃ row' ∈ indexed'.rows, row' = if key row = k then f row else row := by
  refine ⟨_, ?_, rfl⟩
  unfold rows
  rw [table_of_build? h]
  exact Table.mem_modify.2 ⟨row, hrow, rfl⟩

omit [DecidableEq ι] in
theorem find?_eq_some {k : κ} : indexed.find? k = some row ↔ row ∈ indexed.rows ∧ key row = k :=
  Table.find?_eq_some

end IndexedTable

end Lib
