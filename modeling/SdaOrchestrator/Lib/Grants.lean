import Mathlib.Data.Int.ConditionallyCompleteOrder
import Mathlib.Data.Int.Interval
import Mathlib.Data.Set.Card
import Mathlib.Order.Interval.Set.Basic

/-! Requests for the values of a range, each for a value of its own or for the least free one. -/

namespace grants

/-- The value that a request gets while others are taken. -/
def Granted (minimum maximum : Int) (taken : Set Int) (request : Option Int) (value : Int) : Prop :=
  minimum ≤ value ∧ value ≤ maximum ∧ value ∉ taken ∧
    match request with
    | none => ∀ other, minimum ≤ other → other < value → other ∈ taken
    | some wanted => value = wanted

/-- Requests that are granted one after the other. -/
inductive Run (minimum maximum : Int) : Set Int → List (Option Int) → Set Int → Prop
  | nil {taken : Set Int} : Run minimum maximum taken [] taken
  | cons {taken after : Set Int} {request : Option Int} {rest : List (Option Int)} {value : Int} :
    Granted minimum maximum taken request value → Run minimum maximum (insert value taken) rest after →
      Run minimum maximum taken (request :: rest) after

/-- How many values below `value` are free. -/
noncomputable def free_below (minimum value : Int) (taken : Set Int) : Nat := (Set.Ico minimum value \ taken).ncard

/-- The request is for the least free value, or for one below `value`. -/
def presses (value : Int) (request : Option Int) : Bool := request.all (· < value)

variable {minimum maximum value : Int} {taken after : Set Int} {requests : List (Option Int)}

theorem Run.mono (hrun : Run minimum maximum taken requests after) : taken ⊆ after := by
  induction hrun with
  | nil => exact subset_rfl
  | cons _ _ ih => exact (Set.subset_insert _ _).trans ih

theorem free_below_insert {other : Int} (hlow : minimum ≤ other) (hlt : other < value) (hfree : other ∉ taken) :
    free_below minimum value (insert other taken) + 1 = free_below minimum value taken := by
  have hmem : other ∈ Set.Ico minimum value \ taken := ⟨⟨hlow, hlt⟩, hfree⟩
  have hremove : Set.Ico minimum value \ insert other taken = (Set.Ico minimum value \ taken) \ {other} := by
    ext x
    simp only [Set.mem_sdiff, Set.mem_insert_iff, Set.mem_singleton_iff, not_or]
    tauto
  rw [free_below, hremove, Set.ncard_sdiff_singleton_add_one hmem (Set.finite_Ico _ _).sdiff, free_below]

theorem free_below_insert_of_le {other : Int} (hle : value ≤ other) :
    free_below minimum value (insert other taken) = free_below minimum value taken := by
  have hsame : Set.Ico minimum value \ insert other taken = Set.Ico minimum value \ taken := by
    ext x
    simp only [Set.mem_sdiff, Set.mem_Ico, Set.mem_insert_iff, not_or]
    constructor
    · rintro ⟨hrange, -, hfree⟩
      exact ⟨hrange, hfree⟩
    · rintro ⟨hrange, hfree⟩
      exact ⟨hrange, by omega, hfree⟩
  rw [free_below, hsame, free_below]

theorem free_below_eq_zero_iff : free_below minimum value taken = 0 ↔
    ∀ other, minimum ≤ other → other < value → other ∈ taken := by
  rw [free_below, Set.ncard_eq_zero (Set.finite_Ico _ _).sdiff, Set.sdiff_eq_empty]
  exact ⟨fun hsubset other hlow hlt => hsubset ⟨hlow, hlt⟩, fun htaken other hrange => htaken other hrange.1 hrange.2⟩

/-- Among requests for other values, a free value is taken exactly when those that press on it are more than
the free values below it. -/
theorem Run.mem_iff (hrun : Run minimum maximum taken requests after) (hlow : minimum ≤ value)
    (hhigh : value ≤ maximum) (hfree : value ∉ taken) (hother : some value ∉ requests) :
    value ∈ after ↔ free_below minimum value taken < (requests.filter (presses value)).length := by
  induction hrun with
  | nil => simp [hfree]
  | @cons taken after request rest granted hgranted hrest ih =>
    rw [List.mem_cons, not_or] at hother
    obtain ⟨hgranted_low, hgranted_high, hgranted_free, hrequest⟩ := hgranted
    cases request with
    | some wanted =>
      obtain rfl : granted = wanted := hrequest
      have hne : granted ≠ value := fun hsame => hother.1 (by rw [hsame])
      have hstill : value ∉ insert granted taken := by
        rw [Set.mem_insert_iff, not_or]
        exact ⟨hne.symm, hfree⟩
      rw [ih hstill hother.2, List.filter_cons]
      obtain hlt | hgt := hne.lt_or_gt
      · rw [if_pos (by simpa [presses] using hlt), List.length_cons,
          ← free_below_insert hgranted_low hlt hgranted_free]
        omega
      · rw [if_neg (by simpa [presses] using hgt.le), free_below_insert_of_le hgt.le]
    | none =>
      rw [List.filter_cons, if_pos (by simp [presses]), List.length_cons]
      obtain hlt | rfl | hgt := lt_trichotomy granted value
      · -- a free value below takes the request
        have hstill : value ∉ insert granted taken := by
          rw [Set.mem_insert_iff, not_or]
          exact ⟨hlt.ne', hfree⟩
        rw [ih hstill hother.2, ← free_below_insert hgranted_low hlt hgranted_free]
        omega
      · -- no value below is free
        have hzero := free_below_eq_zero_iff.mpr hrequest
        have hmem := hrest.mono (Set.mem_insert granted taken)
        simp only [hmem, hzero, true_iff]
        omega
      · exact absurd (hrequest value hlow hgt) hfree

end grants
