import Mathlib.Data.Nat.Basic

/-! The first number of a range that meets a condition. -/

namespace firstfit

/-- The first of `count` numbers from `start` on that meets the condition. -/
def first (free : Nat → Bool) (start : Nat) : Nat → Option Nat
  | 0 => none
  | count + 1 => if free start then some start else first free (start + 1) count

variable {free : Nat → Bool} {start count found : Nat}

theorem first_eq_some_iff : first free start count = some found ↔
    start ≤ found ∧ found < start + count ∧ free found ∧ ∀ earlier, start ≤ earlier → earlier < found →
      free earlier = false := by
  induction count generalizing start with
  | zero =>
    rw [first]
    constructor
    · intro hnone
      cases hnone
    · rintro ⟨hlow, hhigh, -⟩
      omega
  | succ count ih =>
    rw [first]
    split
    · rename_i hfree
      rw [Option.some.injEq]
      constructor
      · rintro rfl
        exact ⟨Nat.le_refl _, by omega, hfree, fun earlier hlow hhigh => by omega⟩
      · rintro ⟨hlow, -, -, hearlier⟩
        by_contra hne
        have htaken := hearlier start (Nat.le_refl _) (by omega)
        rw [hfree] at htaken
        cases htaken
    · rename_i htaken
      rw [ih]
      constructor
      · rintro ⟨hlow, hhigh, hfound, hearlier⟩
        refine ⟨by omega, by omega, hfound, fun earlier hearlier_low hearlier_high => ?_⟩
        obtain rfl | hlt := Nat.eq_or_lt_of_le hearlier_low
        · exact Bool.eq_false_iff.mpr htaken
        · exact hearlier earlier hlt hearlier_high
      · rintro ⟨hlow, hhigh, hfound, hearlier⟩
        have hne : start ≠ found := by
          rintro rfl
          exact htaken hfound
        exact ⟨by omega, by omega, hfound, fun earlier hlow hhigh => hearlier earlier (by omega) hhigh⟩

theorem first_eq_none_iff : first free start count = none ↔
    ∀ number, start ≤ number → number < start + count → free number = false := by
  constructor
  · intro hnone
    induction count generalizing start with
    | zero =>
      intro number hlow hhigh
      omega
    | succ count ih =>
      rw [first] at hnone
      split at hnone
      · cases hnone
      · rename_i htaken
        intro number hlow hhigh
        obtain rfl | hlt := Nat.eq_or_lt_of_le hlow
        · exact Bool.eq_false_iff.mpr htaken
        · exact ih hnone number hlt (by omega)
  · intro htaken
    cases hfirst : first free start count with
    | none => rfl
    | some found =>
      obtain ⟨hlow, hhigh, hfree, -⟩ := first_eq_some_iff.mp hfirst
      rw [htaken found hlow hhigh] at hfree
      cases hfree

end firstfit
