import Mathlib.Data.List.Nodup

/-! A table is the list of its rows in insertion order, with a key column. -/

namespace table

variable {α κ : Type*} [DecidableEq κ] {key : α → κ}

/-- `SELECT * FROM rows WHERE key = ?`, the first row. -/
def lookup (key : α → κ) (k : κ) (rows : List α) : Option α :=
  rows.find? fun row => key row = k

/-- `UPDATE rows SET ... WHERE key = ?`. -/
def update (key : α → κ) (k : κ) (change : α → α) (rows : List α) : List α :=
  rows.map fun row => if key row = k then change row else row

theorem lookup_key {k : κ} {rows : List α} {row : α} (hlookup : lookup key k rows = some row) :
    key row = k := by
  simpa using List.find?_some hlookup

theorem lookup_mem {k : κ} {rows : List α} {row : α} (hlookup : lookup key k rows = some row) :
    row ∈ rows :=
  List.mem_of_find?_eq_some hlookup

theorem lookup_eq_none_iff {k : κ} {rows : List α} :
    lookup key k rows = none ↔ ∀ row ∈ rows, key row ≠ k := by
  simp [lookup]

/-- With unique keys the lookup finds every row. -/
theorem lookup_of_mem {rows : List α} {row : α} (hnodup : (rows.map key).Nodup)
    (hmem : row ∈ rows) : lookup key (key row) rows = some row := by
  induction rows with
  | nil => cases hmem
  | cons first rest ih =>
    rw [List.map_cons, List.nodup_cons] at hnodup
    rcases List.mem_cons.mp hmem with rfl | hrest
    · simp [lookup]
    · have hne : key first ≠ key row := by
        intro heq
        exact hnodup.1 (heq ▸ List.mem_map_of_mem hrest)
      have hfound := ih hnodup.2 hrest
      simpa [lookup, List.find?_cons, hne] using hfound

theorem lookup_append_singleton (k : κ) (rows : List α) (row : α) :
    lookup key k (rows ++ [row]) =
      (lookup key k rows).or (if key row = k then some row else none) := by
  rw [lookup, List.find?_append, List.find?_singleton]
  simp [lookup]

/-- A new row is found under its own key and hides no other row. -/
theorem lookup_append_fresh {k : κ} {rows : List α} {row found : α}
    (hfresh : lookup key (key row) rows = none) :
    lookup key k (rows ++ [row]) = some found ↔
      lookup key k rows = some found ∨ (k = key row ∧ found = row) := by
  rw [lookup_append_singleton]
  by_cases hk : key row = k
  · subst hk
    simp [hfresh, eq_comm]
  · simp [hk, Ne.symm hk]

theorem nodup_append_fresh {rows : List α} {row : α} (hnodup : (rows.map key).Nodup)
    (hfresh : lookup key (key row) rows = none) : ((rows ++ [row]).map key).Nodup := by
  rw [lookup_eq_none_iff] at hfresh
  rw [List.map_append, List.nodup_append]
  refine ⟨hnodup, by simp, ?_⟩
  intro first hfirst second hsecond
  obtain ⟨other, hother, rfl⟩ := List.mem_map.mp hfirst
  simp only [List.map_cons, List.map_nil, List.mem_singleton] at hsecond
  subst hsecond
  exact hfresh other hother

section Update

variable {change : α → α} (hkey : ∀ row, key (change row) = key row)
include hkey

theorem keys_update (k : κ) (rows : List α) : (update key k change rows).map key = rows.map key := by
  rw [update, List.map_map]
  apply List.map_congr_left
  intro row _
  by_cases h : key row = k <;> simp [h, hkey]

theorem lookup_update (k other : κ) (rows : List α) :
    lookup key other (update key k change rows) =
      if other = k then (lookup key k rows).map change else lookup key other rows := by
  induction rows with
  | nil => simp [lookup, update]
  | cons first rest ih =>
    simp only [lookup, update] at ih
    simp only [lookup, update, List.map_cons, List.find?_cons]
    by_cases hfirst : key first = k <;> by_cases hother : other = k
    · simp [hfirst, hother, hkey]
    · simp [hfirst, hkey, Ne.symm hother, ih, hother]
    · subst hother
      simp [hfirst, ih]
    · by_cases hhere : key first = other
      · simp [hother, hhere]
      · simp [hfirst, hother, hhere, ih]

end Update

/-- When a table only grows, as far as some of its columns go, a row stays under its key
with these columns as they are. -/
theorem lookup_of_grows {β : Type*} (columns : α → β) (column : β → κ) {k : κ}
    {rows rows' : List α} {row : α} (hkey : ∀ row, key row = column (columns row))
    (hgrows : rows.map columns <+: rows'.map columns) (hlookup : lookup key k rows = some row) :
    ∃ row', lookup key k rows' = some row' ∧ columns row' = columns row := by
  have hfind (rows : List α) : (lookup key k rows).map columns =
      (rows.map columns).find? fun entry => column entry = k := by
    rw [List.find?_map]
    simp only [lookup, hkey]
    rfl
  obtain ⟨added, hadded⟩ := hgrows
  have hfound : (lookup key k rows').map columns = some (columns row) := by
    rw [hfind, ← hadded, List.find?_append, ← hfind, hlookup]
    rfl
  exact Option.map_eq_some_iff.mp hfound

/-- The rows of an updated table are the rows of the table, those under the key changed. -/
theorem mem_update {k : κ} {change : α → α} {rows : List α} {row : α} :
    row ∈ update key k change rows ↔
      ∃ old ∈ rows, row = if key old = k then change old else old := by
  simp [update, eq_comm]

end table
