import Mathlib.Data.Int.Range
import Mathlib.Data.List.Pairwise

/-! Sets of integers as ascending ranges. -/

namespace ranges

/-- The numbers of some ranges. A range is given by its first and its last number. -/
def expand (ranges : List (Int × Int)) : List Int :=
  ranges.flatMap fun range => Int.range range.1 (range.2 + 1)

/-- The ranges ascend, and a number is missing between any two of them. -/
structure Canonical (ranges : List (Int × Int)) : Prop where
  nonempty : ∀ range ∈ ranges, range.1 ≤ range.2
  apart : ranges.Pairwise fun range later => range.2 + 1 < later.1

variable {range other : Int × Int} {ranges others : List (Int × Int)} {number : Int}

theorem not_mem_expand_nil : number ∉ expand [] := List.not_mem_nil

theorem mem_expand : number ∈ expand ranges ↔ ∃ range ∈ ranges, range.1 ≤ number ∧ number ≤ range.2 := by
  simp only [expand, List.mem_flatMap, Int.mem_range_iff, Int.lt_add_one_iff]

@[simp] theorem mem_expand_cons :
    number ∈ expand (range :: ranges) ↔ (range.1 ≤ number ∧ number ≤ range.2) ∨ number ∈ expand ranges := by
  simp only [mem_expand, List.mem_cons, exists_eq_or_imp]

namespace Canonical

theorem nil : Canonical [] := ⟨List.forall_mem_nil _, .nil⟩

/-- One more range in front, with a number missing after it. -/
theorem cons (hrange : range.1 ≤ range.2) (hapart : ∀ number ∈ expand ranges, range.2 + 1 < number)
    (hranges : Canonical ranges) : Canonical (range :: ranges) := by
  refine ⟨List.forall_mem_cons.mpr ⟨hrange, hranges.nonempty⟩, List.pairwise_cons.mpr ⟨?_, hranges.apart⟩⟩
  intro later hlater
  exact hapart later.1 (mem_expand.mpr ⟨later, hlater, le_refl _, hranges.nonempty later hlater⟩)

theorem head_le (hranges : Canonical (range :: ranges)) : range.1 ≤ range.2 :=
  hranges.nonempty range List.mem_cons_self

theorem tail (hranges : Canonical (range :: ranges)) : Canonical ranges :=
  ⟨(List.forall_mem_cons.mp hranges.nonempty).2, (List.pairwise_cons.mp hranges.apart).2⟩

theorem lt_of_mem_tail (hranges : Canonical (range :: ranges)) (hnumber : number ∈ expand ranges) :
    range.2 + 1 < number := by
  obtain ⟨later, hlater, hlow, -⟩ := mem_expand.mp hnumber
  have hapart := (List.pairwise_cons.mp hranges.apart).1 later hlater
  omega

theorem first_le (hranges : Canonical (range :: ranges)) (hnumber : number ∈ expand (range :: ranges)) :
    range.1 ≤ number := by
  obtain hhead | htail := mem_expand_cons.mp hnumber
  · exact hhead.1
  · have hrange := hranges.head_le
    have hlater := hranges.lt_of_mem_tail htail
    omega

/-- Ranges that cover another list of ranges reach at least as far with their first one. -/
private theorem last_le (hothers : Canonical (other :: others)) (hfirst : other.1 = range.1)
    (hsub : ∀ number ∈ expand (range :: ranges), number ∈ expand (other :: others)) : range.2 ≤ other.2 := by
  by_contra hlt
  have hrange := hothers.head_le
  have hgap := hsub (other.2 + 1) (mem_expand_cons.mpr (.inl ⟨by omega, by omega⟩))
  obtain hhead | htail := mem_expand_cons.mp hgap
  · omega
  · have hlater := hothers.lt_of_mem_tail htail
    omega

/-- A set of numbers has one list of ranges. -/
theorem eq_of_mem_iff (hranges : Canonical ranges) (hothers : Canonical others)
    (hsame : ∀ number, number ∈ expand ranges ↔ number ∈ expand others) : ranges = others := by
  induction ranges generalizing others with
  | nil =>
    cases others with
    | nil => rfl
    | cons other others =>
      have hfirst := (hsame other.1).mpr (mem_expand_cons.mpr (.inl ⟨le_refl _, hothers.head_le⟩))
      exact absurd hfirst not_mem_expand_nil
  | cons range ranges ih =>
    have hfirst := (hsame range.1).mp (mem_expand_cons.mpr (.inl ⟨le_refl _, hranges.head_le⟩))
    cases others with
    | nil => exact absurd hfirst not_mem_expand_nil
    | cons other others =>
      have hother := (hsame other.1).mpr (mem_expand_cons.mpr (.inl ⟨le_refl _, hothers.head_le⟩))
      have hstart : range.1 = other.1 := le_antisymm (hranges.first_le hother) (hothers.first_le hfirst)
      have hlast : range.2 = other.2 := le_antisymm
        (last_le hothers hstart.symm fun number => (hsame number).mp)
        (last_le hranges hstart fun number => (hsame number).mpr)
      have hrest : ranges = others := by
        refine ih hranges.tail hothers.tail fun number => ?_
        have hnumber := hsame number
        rw [mem_expand_cons, mem_expand_cons, hstart, hlast] at hnumber
        constructor
        · intro hmem
          have hlater := hranges.lt_of_mem_tail hmem
          exact (hnumber.mp (.inr hmem)).resolve_left (by omega)
        · intro hmem
          have hlater := hothers.lt_of_mem_tail hmem
          exact (hnumber.mpr (.inr hmem)).resolve_left (by omega)
      rw [Prod.ext hstart hlast, hrest]

end Canonical

end ranges
