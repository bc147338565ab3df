import Mathlib.Data.List.DropRight
import SdaOrchestrator.Intent.Issues
import SdaOrchestrator.Lib.Regex

open python regex

namespace orchestrator.intent

/-! ## Texts of letters, digits and a few signs -/

theorem dropWhile_of_none {α : Type*} {p : α → Bool} {items : List α}
    (hnone : ∀ item ∈ items, p item = false) : items.dropWhile p = items := by
  cases items with
  | nil => rfl
  | cons first rest => rw [List.dropWhile_cons, hnone first List.mem_cons_self, if_neg Bool.false_ne_true]

theorem isSpace_of_alphanumeric {c : Char} (hc : alphanumericOr "_.:-" c = true) : isSpace c = false := by
  simp only [alphanumericOr, isAsciiLetter, isAsciiDigit, Bool.or_eq_true, decide_eq_true_eq,
    List.contains_iff_mem, Char.le_def, UInt32.le_iff_toNat_le] at hc
  have hlarge : 33 ≤ c.toNat ∧ c.toNat ≤ 122 := by
    obtain ((hupper | hlower) | hdigit) | hextra := hc
    · exact ⟨le_trans (by decide) hupper.1, le_trans hupper.2 (by decide)⟩
    · exact ⟨le_trans (by decide) hlower.1, le_trans hlower.2 (by decide)⟩
    · exact ⟨le_trans (by decide) hdigit.1, le_trans hdigit.2 (by decide)⟩
    · have hall : "_.:-".toList.all (fun c => decide (33 ≤ c.toNat ∧ c.toNat ≤ 122)) := by decide
      exact of_decide_eq_true (List.all_eq_true.mp hall c hextra)
  simp only [isSpace, decide_eq_false_iff_not]
  omega

/-- A text without white space is stripped of nothing. -/
theorem strip_of_no_space {text : String} (hspaces : ∀ c ∈ text.toList, isSpace c = false) : strip text = text := by
  calc strip text
      = String.ofList (((chars text).dropWhile isSpace).reverse.dropWhile isSpace).reverse := rfl
    _ = String.ofList text.toList := by
        rw [chars_eq_toList, dropWhile_of_none hspaces,
          dropWhile_of_none fun c hc => hspaces c (List.mem_reverse.mp hc), List.reverse_reverse]
    _ = text := String.ofList_toList

/-- A stripped text has no white space at its ends. -/
theorem strip_strip (text : String) : strip (strip text) = strip text := by
  have hstrip (text : String) : strip text =
      String.ofList ((((chars text).dropWhile isSpace).reverse.dropWhile isSpace).reverse) := rfl
  rw [hstrip (strip text), chars_eq_toList, hstrip text, String.toList_ofList]
  congr 1
  set start := (chars text).dropWhile isSpace with hstart
  have hhead : ((start.reverse.dropWhile isSpace).reverse).dropWhile isSpace =
      (start.reverse.dropWhile isSpace).reverse := by
    have hprefix : (start.reverse.dropWhile isSpace).reverse <+: start := by
      rw [← List.reverse_suffix, List.reverse_reverse]
      exact List.dropWhile_suffix _
    cases hkept : (start.reverse.dropWhile isSpace).reverse with
    | nil => rfl
    | cons c rest =>
      rw [hkept] at hprefix
      obtain ⟨tail, htail⟩ := hprefix
      have hc : isSpace c = false := by
        have hnot := List.head?_dropWhile_not isSpace (chars text)
        rw [← hstart, ← htail] at hnot
        simpa using hnot
      rw [List.dropWhile_cons, hc, if_neg Bool.false_ne_true]
  rw [hhead, List.reverse_reverse, List.dropWhile_idempotent]
/-- A text of such characters is read as it stands. -/
theorem required_string_of_alphanumeric {text : String} (hne : text ≠ "")
    (hchars : ∀ c ∈ text.toList, alphanumericOr "_.:-" c = true) : required_string (some text) = some text := by
  have hother {c : Char} (hc : alphanumericOr "_.:-" c = false) : c ∉ text.toList := by
    intro hmem
    rw [hchars c hmem] at hc
    cases hc
  have hr : '\r' ∉ text.toList := hother (by decide)
  have hn : '\n' ∉ text.toList := hother (by decide)
  have hstrip := strip_of_no_space fun c hc => isSpace_of_alphanumeric (hchars c hc)
  simp only [required_string, Option.bind_some, hstrip, chars_eq_toList]
  rw [if_neg (by simp [hne, hr, hn])]

end orchestrator.intent
