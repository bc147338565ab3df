import SdaOrchestrator.Lib.Loops
import SdaOrchestrator.Lib.Python
import Mathlib.Data.Set.Basic

/-! Places in a document, and what a change of a document leaves as it is. -/

open python

namespace places

/-- A step into a document. -/
inductive Place where
  | key (name : String)
  | index (position : Nat)
  deriving DecidableEq

/-- What a document holds at a place. -/
def reach : List Place → Value → Option Value
  | [], document => some document
  | .key name :: rest, .dict entries => (assoc.lookup name entries).bind (reach rest)
  | .index position :: rest, .list items => items[position]?.bind (reach rest)
  | _ :: _, _ => none

@[simp] theorem reach_nil (value : Value) : reach [] value = some value := by
  cases value <;> rfl

@[simp] theorem reach_key (name : String) (rest : List Place) (entries : List (String × Value)) :
    reach (.key name :: rest) (.dict entries) = (assoc.lookup name entries).bind (reach rest) := rfl

@[simp] theorem reach_index (position : Nat) (rest : List Place) (items : List Value) :
    reach (.index position :: rest) (.list items) = items[position]?.bind (reach rest) := rfl

/-- Two places apart: neither is inside the other. -/
def Apart (first second : List Place) : Prop := ¬first <+: second ∧ ¬second <+: first

instance (first second : List Place) : Decidable (Apart first second) :=
  inferInstanceAs (Decidable (_ ∧ _))

/-- Places below a step. -/
def below (step : Place) (inside : Set (List Place)) : Set (List Place) :=
  {place | ∃ rest ∈ inside, place = step :: rest}

/-- The documents agree but at these places. -/
def Frames (changes : Set (List Place)) (before after : Value) : Prop :=
  ∀ place, (∀ changed ∈ changes, Apart changed place) → reach place after = reach place before

section Frames

variable {changes others : Set (List Place)} {before middle after : Value}

theorem apart_cons {step : Place} {first second : List Place} :
    Apart (step :: first) (step :: second) ↔ Apart first second := by
  simp [Apart]

theorem not_apart_nil {place : List Place} : ¬Apart place [] := fun happart => happart.2 List.nil_prefix

theorem Frames.mono (hframes : Frames changes before after) (hsubset : changes ⊆ others) : Frames others before after :=
  fun place hplace => hframes place fun changed hchanged => hplace changed (hsubset hchanged)

theorem Frames.trans (hfirst : Frames changes before middle) (hsecond : Frames changes middle after) :
    Frames changes before after := fun place hplace => (hsecond place hplace).trans (hfirst place hplace)

theorem apart_of_below {step : Place} {place : List Place}
    (hplace : ∀ changed ∈ below step changes, Apart changed (step :: place)) :
    ∀ changed ∈ changes, Apart changed place :=
  fun changed hchanged => apart_cons.mp (hplace _ ⟨changed, hchanged, rfl⟩)

/-- A change of an entry changes changes below its key. -/
theorem Frames.entry {name : String} {entries : List (String × Value)} {inner changed : Value}
    (hinner : Frames changes inner changed) (hlookup : assoc.lookup name entries = some inner)
    (hsome : changes.Nonempty) :
    Frames (below (.key name) changes) (.dict entries) (.dict (assoc.set name changed entries)) := by
  intro place hplace
  cases place with
  | nil =>
    obtain ⟨inside, hinside⟩ := hsome
    exact absurd (hplace _ ⟨inside, hinside, rfl⟩) not_apart_nil
  | cons step rest =>
    cases step with
    | index position => rfl
    | key other =>
      rw [reach_key, reach_key, assoc.lookup_set]
      by_cases hsame : other = name
      · subst hsame
        rw [if_pos rfl, hlookup]
        exact hinner rest (apart_of_below hplace)
      · rw [if_neg (Ne.symm hsame)]

/-- A new entry changes its place. -/
theorem frames_set (name : String) (new : Value) (entries : List (String × Value)) :
    Frames {[.key name]} (.dict entries) (.dict (assoc.set name new entries)) := by
  intro place hplace
  have happart := hplace _ rfl
  cases place with
  | nil => exact absurd happart not_apart_nil
  | cons step rest =>
    cases step with
    | index position => rfl
    | key other =>
      rw [reach_key, reach_key, assoc.lookup_set]
      by_cases hsame : other = name
      · subst hsame
        exact absurd (List.cons_prefix_cons.mpr ⟨rfl, List.nil_prefix⟩) happart.1
      · rw [if_neg (Ne.symm hsame)]

/-- Changes of the items of a list change changes below their positions. -/
theorem frames_items {items changed : List Value}
    (hitems : List.Forall₂ (Frames changes) items changed) (hsome : changes.Nonempty) :
    Frames {place | ∃ position, place ∈ below (.index position) changes} (.list items) (.list changed) := by
  intro place hplace
  cases place with
  | nil =>
    obtain ⟨inside, hinside⟩ := hsome
    exact absurd (hplace _ ⟨0, inside, hinside, rfl⟩) not_apart_nil
  | cons step rest =>
    cases step with
    | key name => rfl
    | index position =>
      have hrest : ∀ inside ∈ changes, Apart inside rest := fun inside hinside =>
        apart_cons.mp (hplace _ ⟨position, inside, hinside, rfl⟩)
      clear hplace
      rw [reach_index, reach_index]
      induction hitems generalizing position with
      | nil => rfl
      | cons hitem _ ih =>
        cases position with
        | zero => exact hitem rest hrest
        | succ position => exact ih position

/-- A list of no items in the place of a document without any. -/
theorem frames_nothing (hnothing : ∀ step rest, reach (step :: rest) before = none) (hsome : changes.Nonempty) :
    Frames {place | ∃ position, place ∈ below (.index position) changes} before (.list []) := by
  intro place hplace
  cases place with
  | nil =>
    obtain ⟨inside, hinside⟩ := hsome
    exact absurd (hplace _ ⟨0, inside, hinside, rfl⟩) not_apart_nil
  | cons step rest =>
    rw [hnothing]
    cases step <;> rfl

/-- A change of the first item of a list. -/
theorem Frames.first {first changed : Value} (rest : List Value) (hfirst : Frames changes first changed)
    (hsome : changes.Nonempty) :
    Frames (below (.index 0) changes) (.list (first :: rest)) (.list (changed :: rest)) := by
  intro place hplace
  cases place with
  | nil =>
    obtain ⟨inside, hinside⟩ := hsome
    exact absurd (hplace _ ⟨inside, hinside, rfl⟩) not_apart_nil
  | cons step place =>
    cases step with
    | key name => rfl
    | index position =>
      cases position with
      | zero => exact hfirst place (apart_of_below hplace)
      | succ position => rfl

end Frames

end places
