import SdaOrchestrator.Lib.IpAddress

open python ipaddress

/-! The texts of numbers. -/

namespace numerals

/-- The text of a number is a word of digits that reads as the number. -/
theorem decimal_toString (n : Nat) :
    decimal? (toString n).toList = some n ∧ ∀ c ∈ (toString n).toList, c.isDigit = true := by
  have hdigits : (toString n).toList = Nat.toDigits 10 n := by simp
  have hdigit : ∀ c ∈ Nat.toDigits 10 n, c.isDigit = true := fun c hc =>
    Nat.isDigit_of_mem_toDigits (by decide) (by decide) hc
  have hlength := @Nat.length_toDigits_pos 10 n
  rw [hdigits]
  refine ⟨?_, hdigit⟩
  rw [decimal?, if_neg]
  · have hfold := Nat.ofDigitChars_toDigits (b := 10) (n := n) (by omega) (by omega)
    rw [Nat.ofDigitChars] at hfold
    simp only [Nat.mul_comm 10] at hfold
    exact congrArg some hfold
  · rintro (hnone | hother)
    · rw [List.isEmpty_iff.mp hnone] at hlength
      cases hlength
    · rw [List.all_eq_true.mpr hdigit] at hother
      cases hother

/-- A character that is no digit is not in the text of a number. -/
theorem not_mem_natText {c : Char} (hdigit : c.isDigit = false) (n : Nat) : c ∉ (toString n).toList := by
  intro hmem
  rw [(decimal_toString n).2 c hmem] at hdigit
  cases hdigit

theorem toString_natCast (n : Nat) : toString (n : Int) = toString n := rfl

theorem toList_negSucc (n : Nat) : (toString (Int.negSucc n)).toList = '-' :: (toString (n + 1)).toList := by
  show ("-" ++ toString (n + 1)).toList = _
  rw [String.toList_append]
  rfl

/-- A digit does not start the text of a negative number. -/
private theorem natCast_ne_negSucc (m n : Nat) : toString (m : Int) ≠ toString (Int.negSucc n) := by
  intro hsame
  have hdigit := (decimal_toString m).2
  rw [← toString_natCast, hsame, toList_negSucc] at hdigit
  cases hdigit '-' List.mem_cons_self

theorem toString_injective : Function.Injective (toString : Int → String) := by
  have hnat {m n : Nat} (hsame : (toString m).toList = (toString n).toList) : m = n := by
    have hread := (decimal_toString m).1
    rw [hsame, (decimal_toString n).1] at hread
    exact (Option.some.inj hread).symm
  intro first second hsame
  cases first with
  | ofNat m =>
    cases second with
    | ofNat n => exact congrArg Int.ofNat (hnat (congrArg String.toList hsame))
    | negSucc n => exact absurd hsame (natCast_ne_negSucc m n)
  | negSucc m =>
    cases second with
    | ofNat n => exact absurd hsame.symm (natCast_ne_negSucc n m)
    | negSucc n =>
      have htexts := congrArg String.toList hsame
      rw [toList_negSucc, toList_negSucc, List.cons.injEq] at htexts
      exact congrArg Int.negSucc (Nat.succ.inj (hnat htexts.2))

theorem intText_ne_nil (value : Int) : (toString value).toList ≠ [] := by
  cases value with
  | ofNat n =>
    intro hnil
    have hread := (decimal_toString n).1
    rw [← toString_natCast] at hread
    rw [show toString (n : Int) = toString (Int.ofNat n) from rfl, hnil] at hread
    cases hread
  | negSucc n =>
    rw [toList_negSucc]
    exact List.cons_ne_nil _ _

theorem not_mem_intText {c : Char} (hdigit : c.isDigit = false) (hminus : c ≠ '-') (value : Int) :
    c ∉ (toString value).toList := by
  cases value with
  | ofNat n => exact not_mem_natText hdigit n
  | negSucc n =>
    rw [toList_negSucc, List.mem_cons, not_or]
    exact ⟨hminus, not_mem_natText hdigit (n + 1)⟩

end numerals
