import Mathlib.Data.List.Forall2
import SdaOrchestrator.Lib.Python

/-! Documents that differ in the order of their keys at most. -/

namespace python

namespace assoc

variable {κ α : Type*} [DecidableEq κ]

/-- The order of the entries does not matter when no key occurs twice. -/
theorem lookup_perm {first second : List (κ × α)} (hperm : first.Perm second)
    (hnodup : (first.map Prod.fst).Nodup) (key : κ) : lookup key first = lookup key second := by
  have hnodup' : (second.map Prod.fst).Nodup := (hperm.map Prod.fst).nodup_iff.mp hnodup
  cases hfirst : lookup key first with
  | some value => exact (lookup_of_mem hnodup' (hperm.mem_iff.mp (lookup_mem hfirst))).symm
  | none =>
    rw [lookup_eq_none_iff, (hperm.map Prod.fst).mem_iff] at hfirst
    exact (lookup_eq_none_iff.mpr hfirst).symm

end assoc

namespace Value

theorem storedItems_eq_map (items : List Value) : storedItems items = items.map stored := by
  induction items with
  | nil => rfl
  | cons item rest ih => rw [storedItems, ih, List.map_cons]

theorem lookup_storedEntries (key : String) (entries : List (String × Value)) :
    assoc.lookup key (storedEntries entries) = (assoc.lookup key entries).map stored := by
  induction entries with
  | nil => rfl
  | cons entry rest ih =>
    obtain ⟨name, value⟩ := entry
    rw [storedEntries, assoc.lookup_cons, assoc.lookup_cons, ih]
    split <;> rfl

theorem stored_list (items : List Value) : (list items).stored = list (items.map stored) := by
  rw [stored, storedItems_eq_map]

theorem get_stored (value : Value) (key : String) :
    value.stored.get key = (value.get key).map (Option.map stored) := by
  cases value with
  | dict entries =>
    have hperm : ((assoc.distinct (storedEntries entries)).insertionSort
        fun a b => a.1 ≤ b.1).Perm (assoc.distinct (storedEntries entries)) :=
      List.perm_insertionSort _ _
    have hlookup := assoc.lookup_perm hperm.symm (assoc.keys_distinct_nodup _) key
    rw [assoc.lookup_distinct, lookup_storedEntries] at hlookup
    rw [stored]
    exact congrArg Except.ok hlookup.symm
  | _ => rfl

/-- The two documents differ in the order of their keys at most. -/
def SameDocument (first second : Value) : Prop := first.stored = second.stored

theorem SameDocument.get {first second : Value} (hsame : SameDocument first second) {key : String}
    {found : Option Value} (hget : first.get key = .ok found) :
    ∃ other, second.get key = .ok other ∧ Option.Rel SameDocument found other := by
  have hstored : (first.get key).map (Option.map stored) = (second.get key).map (Option.map stored) := by
    rw [← get_stored, ← get_stored, hsame]
  rw [hget] at hstored
  cases hsecond : second.get key with
  | error exception =>
    rw [hsecond] at hstored
    cases hstored
  | ok other =>
    rw [hsecond] at hstored
    refine ⟨other, rfl, ?_⟩
    cases found with
    | none =>
      cases other with
      | none => exact .none
      | some _ => cases hstored
    | some value =>
      cases other with
      | none => cases hstored
      | some other => exact .some (Option.some.inj (Except.ok.inj hstored))

theorem item_eq_ok_iff {value found : Value} {key : String} :
    value.item key = .ok found ↔ value.get key = .ok (some found) := by
  cases value with
  | dict entries =>
    simp only [item, Value.get, Except.ok.injEq]
    cases assoc.lookup key entries <;> simp
  | _ => simp [item, Value.get]

theorem SameDocument.item {first second found : Value} (hsame : SameDocument first second)
    {key : String} (hitem : first.item key = .ok found) :
    ∃ other, second.item key = .ok other ∧ SameDocument found other := by
  obtain ⟨other, hother, hrel⟩ := hsame.get (item_eq_ok_iff.mp hitem)
  cases hrel with
  | some hvalue => exact ⟨_, item_eq_ok_iff.mpr hother, hvalue⟩

/-- A text is the same document as no other value. -/
theorem SameDocument.eq_str {value : Value} {text : String} (hsame : SameDocument value (.str text)) :
    value = .str text := by
  cases value <;> simp_all [SameDocument, stored]

theorem SameDocument.lookup {entries others : List (String × Value)}
    (hsame : SameDocument (.dict entries) (.dict others)) (key : String) :
    Option.Rel SameDocument (assoc.lookup key entries) (assoc.lookup key others) := by
  have hget : (dict entries).get key = .ok (assoc.lookup key entries) := rfl
  obtain ⟨other, hother, hrel⟩ := hsame.get hget
  exact Except.ok.inj hother ▸ hrel

theorem SameDocument.lookup_eq_none {entries others : List (String × Value)} {key : String}
    (hsame : SameDocument (.dict entries) (.dict others)) (hnone : assoc.lookup key others = none) :
    assoc.lookup key entries = none := by
  have hrel := hsame.lookup key
  rw [hnone] at hrel
  cases hentry : assoc.lookup key entries with
  | none => rfl
  | some value =>
    rw [hentry] at hrel
    cases hrel

theorem SameDocument.lookup_eq_str {entries others : List (String × Value)} {key text : String}
    (hsame : SameDocument (.dict entries) (.dict others))
    (htext : assoc.lookup key others = some (.str text)) :
    assoc.lookup key entries = some (.str text) := by
  have hrel := hsame.lookup key
  rw [htext] at hrel
  cases hentry : assoc.lookup key entries with
  | none =>
    rw [hentry] at hrel
    cases hrel
  | some value =>
    rw [hentry] at hrel
    cases hrel with
    | some hvalue => rw [hvalue.eq_str]

/-- The items of two same lists are the same, one by one. -/
theorem SameDocument.eq_list {value : Value} {items : List Value}
    (hsame : SameDocument value (.list items)) :
    ∃ own, value = .list own ∧ List.Forall₂ SameDocument own items := by
  cases value with
  | list own =>
    rw [SameDocument, stored_list, stored_list, list.injEq] at hsame
    rw [← List.forall₂_eq_eq_eq, List.forall₂_map_left_iff, List.forall₂_map_right_iff] at hsame
    exact ⟨own, rfl, hsame⟩
  | _ => simp [SameDocument, stored] at hsame

theorem SameDocument.eq_dict {value : Value} {entries : List (String × Value)}
    (hsame : SameDocument value (.dict entries)) : ∃ own, value = .dict own := by
  cases value with
  | dict own => exact ⟨own, rfl⟩
  | _ => simp [SameDocument, stored] at hsame

end Value

end python
