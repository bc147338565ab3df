import Mathlib.Algebra.Group.Nat.Defs
import Mathlib.Data.List.Basic
import Mathlib.Tactic.Common

/-! Decimal numbers of a fixed width compare like the numbers they write. -/

namespace decimal

/-- The last `width` decimal digits of a number, with leading zeros. -/
def fixed : Nat → Nat → List Char
  | 0, _ => []
  | width + 1, n => fixed width (n / 10) ++ [Nat.digitChar (n % 10)]

@[simp] theorem length_fixed (width n : Nat) : (fixed width n).length = width := by
  induction width generalizing n with
  | zero => rfl
  | succ width ih => simp [fixed, ih]

theorem fixed_zero (width : Nat) : fixed width 0 = List.replicate width '0' := by
  induction width with
  | zero => rfl
  | succ width ih =>
    rw [fixed, Nat.zero_div, ih, List.replicate_succ']
    rfl

/-- The digits of a number that fits, padded with zeros to the width. -/
theorem padded_eq_fixed {width n : Nat} (hwidth : 0 < width) (hfits : n < 10 ^ width) :
    List.replicate (width - (Nat.toDigits 10 n).length) '0' ++ Nat.toDigits 10 n = fixed width n := by
  induction width generalizing n with
  | zero => omega
  | succ width ih =>
    by_cases hsmall : n < 10
    · rw [Nat.toDigits_of_lt_base hsmall, fixed, Nat.div_eq_of_lt hsmall, Nat.mod_eq_of_lt hsmall,
        fixed_zero]
      simp
    · have hquotient : n / 10 < 10 ^ width := by
        rw [Nat.div_lt_iff_lt_mul (by omega), ← Nat.pow_succ]
        exact hfits
      have hpositive : 0 < width := by
        by_contra hzero
        obtain rfl : width = 0 := by omega
        simp at hfits
        omega
      rw [Nat.toDigits_of_base_le (by omega) (by omega), fixed, ← ih hpositive hquotient]
      simp

/-- A difference in the first part decides, when the first parts are equally long. -/
theorem append_lt_append {first second : List Char} (hlt : first < second)
    (hlength : first.length = second.length) (rest rest' : List Char) :
    first ++ rest < second ++ rest' := by
  induction first generalizing second with
  | nil =>
    cases second with
    | nil => exact absurd hlt (List.lt_irrefl _)
    | cons _ _ => simp at hlength
  | cons c first ih =>
    cases second with
    | nil => simp at hlength
    | cons d second =>
      rw [List.cons_append, List.cons_append, List.cons_lt_cons_iff]
      rw [List.cons_lt_cons_iff] at hlt
      obtain hchar | ⟨hsame, hrest⟩ := hlt
      · exact .inl hchar
      · exact .inr ⟨hsame, ih hrest (by simpa using hlength)⟩

theorem digitChar_lt : ∀ first second : Fin 10, first < second →
    Nat.digitChar first < Nat.digitChar second := by
  decide

theorem fixed_lt {width first second : Nat} (hlt : first < second) (hfits : second < 10 ^ width) :
    fixed width first < fixed width second := by
  induction width generalizing first second with
  | zero =>
    simp at hfits
    omega
  | succ width ih =>
    rw [fixed, fixed]
    have hquotient : second / 10 < 10 ^ width := by
      rw [Nat.div_lt_iff_lt_mul (by omega), ← Nat.pow_succ]
      exact hfits
    by_cases hsame : first / 10 = second / 10
    · rw [hsame]
      apply List.append_left_lt
      have hdigit : first % 10 < second % 10 := by omega
      have hchar := digitChar_lt ⟨first % 10, by omega⟩ ⟨second % 10, by omega⟩ hdigit
      exact List.cons_lt_cons_iff.mpr (.inl hchar)
    · have hless : first / 10 < second / 10 := by omega
      exact append_lt_append (ih hless hquotient) (by simp) _ _

/-- Of two texts that begin with a number, the number decides, then the rest. -/
theorem field_lt {width first second : Nat} {rest rest' : List Char} (hfits : second < 10 ^ width)
    (hlt : first < second ∨ first = second ∧ rest < rest') :
    fixed width first ++ rest < fixed width second ++ rest' := by
  obtain hless | ⟨rfl, hrest⟩ := hlt
  · exact append_lt_append (fixed_lt hless hfits) (by simp) _ _
  · exact List.append_left_lt hrest

end decimal
