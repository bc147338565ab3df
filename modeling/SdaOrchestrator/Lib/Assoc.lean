import Mathlib.Data.List.Nodup

/-! A dictionary is a list of entries in insertion order; the first entry under a
key is the one that counts. -/

namespace python.assoc

variable {κ α : Type*} [DecidableEq κ]

/-- `entries.get(key)`. -/
def lookup (key : κ) : List (κ × α) → Option α
  | [] => none
  | (name, value) :: rest => if name = key then some value else lookup key rest

/-- `del entries[key]`, where a missing key is no error. -/
def erase (key : κ) : List (κ × α) → List (κ × α)
  | [] => []
  | (name, value) :: rest => if name = key then erase key rest else (name, value) :: erase key rest

/-- `entries.items()`: every key once, at its first place. -/
def distinct : List (κ × α) → List (κ × α)
  | [] => []
  | (name, value) :: rest => (name, value) :: erase name (distinct rest)

/-- `entries[key] = value`: in place under a known key, at the end under a new one. -/
def set (key : κ) (value : α) : List (κ × α) → List (κ × α)
  | [] => [(key, value)]
  | (name, old) :: rest => if name = key then (name, value) :: rest else (name, old) :: set key value rest

@[simp] theorem lookup_nil (key : κ) : lookup key ([] : List (κ × α)) = none := rfl

theorem lookup_cons (key name : κ) (value : α) (rest : List (κ × α)) :
    lookup key ((name, value) :: rest) = if name = key then some value else lookup key rest := rfl

theorem lookup_append (key : κ) (first second : List (κ × α)) :
    lookup key (first ++ second) = (lookup key first).or (lookup key second) := by
  induction first with
  | nil => rfl
  | cons entry rest ih =>
    obtain ⟨name, value⟩ := entry
    rw [List.cons_append, lookup_cons, lookup_cons, ih]
    split <;> rfl

theorem lookup_mem {key : κ} {value : α} {entries : List (κ × α)}
    (hlookup : lookup key entries = some value) : (key, value) ∈ entries := by
  induction entries with
  | nil => cases hlookup
  | cons entry rest ih =>
    obtain ⟨name, found⟩ := entry
    rw [lookup_cons] at hlookup
    split at hlookup
    · rename_i heq
      cases hlookup
      exact heq ▸ List.mem_cons_self
    · exact List.mem_cons_of_mem _ (ih hlookup)

theorem lookup_isSome_iff {key : κ} {entries : List (κ × α)} :
    (lookup key entries).isSome ↔ key ∈ entries.map Prod.fst := by
  induction entries with
  | nil => simp
  | cons entry rest ih =>
    obtain ⟨name, found⟩ := entry
    rw [lookup_cons]
    by_cases heq : name = key
    · simp [heq]
    · rw [if_neg heq, ih]
      simp [Ne.symm heq]

theorem lookup_eq_none_iff {key : κ} {entries : List (κ × α)} :
    lookup key entries = none ↔ key ∉ entries.map Prod.fst := by
  rw [← lookup_isSome_iff]
  cases lookup key entries <;> simp

theorem lookup_of_mem {key : κ} {value : α} {entries : List (κ × α)}
    (hnodup : (entries.map Prod.fst).Nodup) (hmem : (key, value) ∈ entries) :
    lookup key entries = some value := by
  induction entries with
  | nil => cases hmem
  | cons entry rest ih =>
    obtain ⟨name, found⟩ := entry
    rw [List.map_cons, List.nodup_cons] at hnodup
    rw [lookup_cons]
    rcases List.mem_cons.mp hmem with heq | hmem
    · cases heq
      rw [if_pos rfl]
    · have hne : name ≠ key := by
        rintro rfl
        exact hnodup.1 (List.mem_map.mpr ⟨_, hmem, rfl⟩)
      rw [if_neg hne]
      exact ih hnodup.2 hmem

theorem lookup_erase (key other : κ) (entries : List (κ × α)) :
    lookup key (erase other entries) = if other = key then none else lookup key entries := by
  induction entries with
  | nil => simp [erase]
  | cons entry rest ih =>
    obtain ⟨name, found⟩ := entry
    simp only [erase, lookup_cons]
    by_cases hname : name = other
    · rw [if_pos hname, ih]
      by_cases hkey : other = key
      · simp [hkey]
      · rw [if_neg hkey, if_neg hkey, if_neg (hname ▸ hkey)]
    · rw [if_neg hname, lookup_cons, ih]
      by_cases hkey : name = key
      · rw [if_pos hkey, if_pos hkey, if_neg (fun h => hname (hkey.trans h.symm))]
      · rw [if_neg hkey, if_neg hkey]

theorem keys_erase (key : κ) (entries : List (κ × α)) :
    (erase key entries).map Prod.fst = (entries.map Prod.fst).filter (· ≠ key) := by
  induction entries with
  | nil => rfl
  | cons entry rest ih =>
    obtain ⟨name, found⟩ := entry
    simp only [erase]
    by_cases hname : name = key
    · simp [hname, ih]
    · simp [hname, ih]

@[simp] theorem lookup_distinct (key : κ) (entries : List (κ × α)) :
    lookup key (distinct entries) = lookup key entries := by
  induction entries with
  | nil => rfl
  | cons entry rest ih =>
    obtain ⟨name, found⟩ := entry
    rw [distinct, lookup_cons, lookup_cons, lookup_erase, ih]
    split <;> rfl

theorem keys_distinct_nodup (entries : List (κ × α)) :
    ((distinct entries).map Prod.fst).Nodup := by
  induction entries with
  | nil => exact List.nodup_nil
  | cons entry rest ih =>
    obtain ⟨name, found⟩ := entry
    rw [distinct, List.map_cons, keys_erase, List.nodup_cons]
    exact ⟨by simp, ih.filter _⟩

/-- The items of a dictionary are what its lookups find. -/
theorem mem_distinct_iff {key : κ} {value : α} {entries : List (κ × α)} :
    (key, value) ∈ distinct entries ↔ lookup key entries = some value := by
  constructor
  · intro hmem
    rw [← lookup_distinct]
    exact lookup_of_mem (keys_distinct_nodup entries) hmem
  · intro hlookup
    rw [← lookup_distinct] at hlookup
    exact lookup_mem hlookup

theorem lookup_set (key other : κ) (value : α) (entries : List (κ × α)) :
    lookup key (set other value entries) = if other = key then some value else lookup key entries := by
  induction entries with
  | nil => simp [set, lookup_cons]
  | cons entry rest ih =>
    obtain ⟨name, found⟩ := entry
    simp only [set]
    by_cases hname : name = other
    · subst hname
      rw [if_pos rfl, lookup_cons, lookup_cons]
      split <;> rfl
    · rw [if_neg hname, lookup_cons, lookup_cons, ih]
      by_cases hkey : name = key
      · rw [if_pos hkey, if_pos hkey, if_neg (fun h => hname (hkey.trans h.symm))]
      · rw [if_neg hkey, if_neg hkey]

theorem mem_keys_set {key other : κ} {value : α} {entries : List (κ × α)} :
    key ∈ (set other value entries).map Prod.fst ↔ key = other ∨ key ∈ entries.map Prod.fst := by
  rw [← lookup_isSome_iff, ← lookup_isSome_iff, lookup_set]
  by_cases heq : other = key
  · simp [heq]
  · simp [heq, Ne.symm heq]

theorem keys_set_nodup {key : κ} {value : α} {entries : List (κ × α)}
    (hnodup : (entries.map Prod.fst).Nodup) : ((set key value entries).map Prod.fst).Nodup := by
  induction entries with
  | nil => simp [set]
  | cons entry rest ih =>
    obtain ⟨name, found⟩ := entry
    rw [List.map_cons, List.nodup_cons] at hnodup
    simp only [set]
    by_cases hname : name = key
    · rw [if_pos hname]
      exact List.nodup_cons.mpr hnodup
    · rw [if_neg hname, List.map_cons, List.nodup_cons]
      refine ⟨?_, ih hnodup.2⟩
      rw [mem_keys_set]
      rintro (heq | hmem)
      · exact hname heq
      · exact hnodup.1 hmem

end python.assoc
