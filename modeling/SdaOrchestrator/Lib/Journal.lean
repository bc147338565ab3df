import Mathlib.Data.List.Flatten
import SdaOrchestrator.Lib.Threaded

/-! Steps that take an item each, and what is left of the items after many steps. -/

open python

namespace journal

variable {σ ι β γ : Type}

/-- The items are taken in order. -/
inductive Run (step : σ → ι → σ → Prop) : σ → List ι → σ → Prop
  | nil {state : σ} : Run step state [] state
  | cons {state between after : σ} {item : ι} {items : List ι} :
    step state item between → Run step between items after → Run step state (item :: items) after

variable {step : σ → ι → σ → Prop} {state between after : σ} {items others : List ι}

theorem Run.single {item : ι} (hstep : step state item after) : Run step state [item] after :=
  .cons hstep .nil

theorem Run.append (hrun : Run step state items between) (hrest : Run step between others after) :
    Run step state (items ++ others) after := by
  induction hrun with
  | nil => exact hrest
  | cons hstep _ ih => exact .cons hstep (ih hrest)

/-- A log that every step extends by the entries of its item is extended by the entries of all items. -/
theorem Run.log_eq {log : σ → List γ} {entries : ι → List γ}
    (hstep : ∀ {before item next}, step before item next → log next = log before ++ entries item)
    (hrun : Run step state items after) : log after = log state ++ items.flatMap entries := by
  induction hrun with
  | nil => rw [List.flatMap_nil, List.append_nil]
  | cons hitem _ ih => rw [ih, hstep hitem, List.flatMap_cons, List.append_assoc]

/-- What every step shows of its item holds of all items. -/
theorem Run.forall_mem {admitted : ι → Prop} (hstep : ∀ {before item next}, step before item next → admitted item)
    (hrun : Run step state items after) : ∀ item ∈ items, admitted item := by
  induction hrun with
  | nil => exact List.forall_mem_nil _
  | cons hitem _ ih => exact List.forall_mem_cons.mpr ⟨hstep hitem, ih⟩

/-- A step takes an item that goes with all that is held, and holds it from then on. -/
structure Exclusive (step : σ → ι → σ → Prop) (held : σ → ι → Prop) (apart : ι → ι → Prop) : Prop where
  free : ∀ {before item next other}, step before item next → held before other → apart other item
  kept : ∀ {before item next other}, step before item next → held before other → held next other
  taken : ∀ {before item next}, step before item next → held next item

section Exclusive

variable {held : σ → ι → Prop} {apart : ι → ι → Prop} (hexclusive : Exclusive step held apart)

include hexclusive

/-- What is held from the start goes with every item. -/
theorem Exclusive.apart_of_held (hrun : Run step state items after) {other : ι} (hheld : held state other) :
    ∀ item ∈ items, apart other item := by
  induction hrun with
  | nil => exact List.forall_mem_nil _
  | cons hitem _ ih =>
    exact List.forall_mem_cons.mpr ⟨hexclusive.free hitem hheld, ih (hexclusive.kept hitem hheld)⟩

/-- The items go with one another. -/
theorem Exclusive.pairwise (hrun : Run step state items after) : items.Pairwise apart := by
  induction hrun with
  | nil => exact .nil
  | cons hitem hrest ih => exact .cons (hexclusive.apart_of_held hrest (hexclusive.taken hitem)) ih

end Exclusive

/-- A loop takes what the rounds of its body take. -/
theorem run_of_thread {α τ : Type} {body : α → τ → Py (β × τ)} {entries : β → List ι} (view : τ → σ)
    (hbody : ∀ {item before result next}, body item before = .ok (result, next) →
      Run step (view before) (entries result) (view next))
    {rounds : List α} {start final : τ} {results : List β} (hok : thread body rounds start = .ok (results, final)) :
    Run step (view start) (results.flatMap entries) (view final) := by
  induction rounds generalizing start results with
  | nil =>
    cases hok
    exact .nil
  | cons item rest ih =>
    obtain ⟨result, next, others, hitem, hrest, rfl⟩ := thread_cons_eq_ok.mp hok
    rw [List.flatMap_cons]
    exact (hbody hitem).append (ih hrest)

end journal
