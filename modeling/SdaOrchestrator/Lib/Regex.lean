namespace regex

/-- A regular expression over characters. -/
inductive Regex where
  | empty
  | epsilon
  | oneOf (accepts : Char → Bool)
  | seq (first second : Regex)
  | alt (first second : Regex)
  | star (item : Regex)

namespace Regex

/-- The expression matches the empty text. -/
def nullable : Regex → Bool
  | .empty => false
  | .epsilon => true
  | .oneOf _ => false
  | .seq first second => first.nullable && second.nullable
  | .alt first second => first.nullable || second.nullable
  | .star _ => true

/-- What is left to match after a character. -/
def derivative (c : Char) : Regex → Regex
  | .empty => .empty
  | .epsilon => .empty
  | .oneOf accepts => if accepts c then .epsilon else .empty
  | .seq first second =>
    if first.nullable then .alt (.seq (first.derivative c) second) (second.derivative c)
    else .seq (first.derivative c) second
  | .alt first second => .alt (first.derivative c) (second.derivative c)
  | .star item => .seq (item.derivative c) (.star item)

/-- `re.fullmatch`: the expression matches the whole text. -/
def fullmatch (pattern : Regex) (text : String) : Bool :=
  (text.toList.foldl (fun rest c => rest.derivative c) pattern).nullable

/-- The characters of a text, in order. -/
def literal (text : String) : Regex :=
  text.toList.foldr (fun c rest => .seq (.oneOf (· == c)) rest) .epsilon

def optional (item : Regex) : Regex := .alt item .epsilon

def plus (item : Regex) : Regex := .seq item (.star item)

def anyOf (items : List Regex) : Regex := items.foldr .alt .empty

def concat (items : List Regex) : Regex := items.foldr .seq .epsilon

/-! ## The texts that an expression matches -/

inductive Matches : Regex → List Char → Prop where
  | epsilon : Matches .epsilon []
  | oneOf {accepts : Char → Bool} {c : Char} (hc : accepts c = true) : Matches (.oneOf accepts) [c]
  | seq {first second : Regex} {u v : List Char} (hu : Matches first u) (hv : Matches second v) :
    Matches (.seq first second) (u ++ v)
  | alt_left {first second : Regex} {u : List Char} (hu : Matches first u) : Matches (.alt first second) u
  | alt_right {first second : Regex} {u : List Char} (hu : Matches second u) : Matches (.alt first second) u
  | star_nil {item : Regex} : Matches (.star item) []
  | star_append {item : Regex} {u v : List Char} (hu : Matches item u) (hv : Matches (.star item) v) :
    Matches (.star item) (u ++ v)

namespace Matches

theorem not_empty {w : List Char} : ¬Matches .empty w := by
  intro h
  cases h

@[simp] theorem epsilon_iff {w : List Char} : Matches .epsilon w ↔ w = [] := by
  constructor
  · rintro ⟨⟩
    rfl
  · rintro rfl
    exact .epsilon

@[simp] theorem oneOf_iff {accepts : Char → Bool} {w : List Char} :
    Matches (.oneOf accepts) w ↔ ∃ c, accepts c = true ∧ w = [c] := by
  constructor
  · intro h
    cases h with
    | oneOf hc => exact ⟨_, hc, rfl⟩
  · rintro ⟨c, hc, rfl⟩
    exact .oneOf hc

@[simp] theorem seq_iff {first second : Regex} {w : List Char} :
    Matches (.seq first second) w ↔ ∃ u v, w = u ++ v ∧ Matches first u ∧ Matches second v := by
  constructor
  · intro h
    cases h with
    | seq hu hv => exact ⟨_, _, rfl, hu, hv⟩
  · rintro ⟨u, v, rfl, hu, hv⟩
    exact .seq hu hv

@[simp] theorem alt_iff {first second : Regex} {w : List Char} :
    Matches (.alt first second) w ↔ Matches first w ∨ Matches second w := by
  constructor
  · intro h
    cases h with
    | alt_left hu => exact .inl hu
    | alt_right hu => exact .inr hu
  · rintro (hu | hu)
    · exact .alt_left hu
    · exact .alt_right hu

/-- A repetition that is not empty starts with an item that is not empty. -/
theorem star_cons_iff {item : Regex} {c : Char} {w : List Char} :
    Matches (.star item) (c :: w) ↔
      ∃ u v, w = u ++ v ∧ Matches item (c :: u) ∧ Matches (.star item) v := by
  constructor
  · intro h
    generalize hpattern : Regex.star item = pattern at h
    generalize htext : c :: w = text at h
    induction h with
    | @star_append found u v hu hv _ ih =>
      cases hpattern
      cases u with
      | nil => exact ih rfl htext
      | cons first u =>
        obtain ⟨rfl, rfl⟩ := List.cons.inj htext
        exact ⟨u, v, rfl, hu, hv⟩
    | star_nil => cases htext
    | _ => cases hpattern
  · rintro ⟨u, v, rfl, hu, hv⟩
    exact .star_append hu hv

end Matches

theorem nullable_iff {pattern : Regex} : pattern.nullable = true ↔ Matches pattern [] := by
  induction pattern with
  | empty => simp [nullable, Matches.not_empty]
  | epsilon => simp [nullable]
  | oneOf accepts => simp [nullable]
  | seq first second ih₁ ih₂ =>
    rw [nullable, Bool.and_eq_true, ih₁, ih₂, Matches.seq_iff]
    constructor
    · rintro ⟨hfirst, hsecond⟩
      exact ⟨[], [], rfl, hfirst, hsecond⟩
    · rintro ⟨u, v, heq, hfirst, hsecond⟩
      obtain ⟨rfl, rfl⟩ := List.append_eq_nil_iff.mp heq.symm
      exact ⟨hfirst, hsecond⟩
  | alt first second ih₁ ih₂ => simp [nullable, ih₁, ih₂]
  | star item ih => exact ⟨fun _ => .star_nil, fun _ => rfl⟩

theorem matches_derivative_iff {pattern : Regex} {c : Char} {w : List Char} :
    Matches (pattern.derivative c) w ↔ Matches pattern (c :: w) := by
  induction pattern generalizing w with
  | empty => simp [derivative, Matches.not_empty]
  | epsilon => simp [derivative, Matches.not_empty]
  | oneOf accepts =>
    rw [derivative, Matches.oneOf_iff]
    split
    · rename_i hc
      rw [Matches.epsilon_iff]
      constructor
      · rintro rfl
        exact ⟨c, hc, rfl⟩
      · rintro ⟨d, -, heq⟩
        exact (List.cons.inj heq).2
    · rename_i hc
      constructor
      · exact fun h => absurd h Matches.not_empty
      · rintro ⟨d, hd, heq⟩
        exact absurd ((List.cons.inj heq).1 ▸ hd) hc
  | seq first second ih₁ ih₂ =>
    have hsplit : Matches (.seq first second) (c :: w) ↔
        Matches (.seq (first.derivative c) second) w ∨ Matches first [] ∧ Matches second (c :: w) := by
      rw [Matches.seq_iff, Matches.seq_iff]
      constructor
      · rintro ⟨u, v, heq, hu, hv⟩
        cases u with
        | nil => exact .inr ⟨hu, heq ▸ hv⟩
        | cons head u =>
          obtain ⟨rfl, rfl⟩ := List.cons.inj heq
          exact .inl ⟨u, v, rfl, ih₁.mpr hu, hv⟩
      · rintro (⟨u, v, rfl, hu, hv⟩ | ⟨hu, hv⟩)
        · exact ⟨c :: u, v, rfl, ih₁.mp hu, hv⟩
        · exact ⟨[], c :: w, rfl, hu, hv⟩
    rw [derivative, hsplit]
    split
    · rename_i hnull
      rw [Matches.alt_iff, ih₂]
      simp [nullable_iff.mp hnull]
    · rename_i hnull
      simp [← nullable_iff, hnull]
  | alt first second ih₁ ih₂ => simp [derivative, ih₁, ih₂]
  | star item ih => simp [derivative, Matches.star_cons_iff, ih]

/-- The matcher accepts exactly the texts of the expression. -/
theorem fullmatch_iff {pattern : Regex} {text : String} :
    pattern.fullmatch text = true ↔ Matches pattern text.toList := by
  rw [fullmatch]
  generalize text.toList = w
  induction w generalizing pattern with
  | nil => exact nullable_iff
  | cons c w ih => rw [List.foldl_cons, ih, matches_derivative_iff]

/-! ## Composed expressions -/

@[simp] theorem matches_literal_iff {text : String} {w : List Char} :
    Matches (literal text) w ↔ w = text.toList := by
  rw [literal]
  induction text.toList generalizing w with
  | nil => simp
  | cons c rest ih =>
    rw [List.foldr_cons, Matches.seq_iff]
    constructor
    · rintro ⟨u, v, rfl, hu, hv⟩
      obtain ⟨d, hd, rfl⟩ := Matches.oneOf_iff.mp hu
      rw [ih.mp hv, beq_iff_eq.mp hd]
      rfl
    · rintro rfl
      exact ⟨[c], rest, rfl, .oneOf (beq_self_eq_true c), ih.mpr rfl⟩

@[simp] theorem matches_anyOf_iff {items : List Regex} {w : List Char} :
    Matches (anyOf items) w ↔ ∃ item ∈ items, Matches item w := by
  induction items with
  | nil => simp [anyOf, Matches.not_empty]
  | cons item rest ih =>
    rw [anyOf, List.foldr_cons, Matches.alt_iff, ← anyOf, ih]
    simp

@[simp] theorem matches_optional_iff {item : Regex} {w : List Char} :
    Matches (optional item) w ↔ Matches item w ∨ w = [] := by
  rw [optional, Matches.alt_iff, Matches.epsilon_iff]

@[simp] theorem matches_concat_nil {w : List Char} : Matches (concat []) w ↔ w = [] :=
  Matches.epsilon_iff

@[simp] theorem matches_concat_cons {item : Regex} {rest : List Regex} {w : List Char} :
    Matches (concat (item :: rest)) w ↔
      ∃ u v, w = u ++ v ∧ Matches item u ∧ Matches (concat rest) v :=
  Matches.seq_iff

/-- An expression that opens with a text matches only texts that open with it. -/
theorem matches_literal_concat_iff {text : String} {rest : List Regex} {w : List Char} :
    Matches (concat (literal text :: rest)) w ↔
      ∃ v, w = text.toList ++ v ∧ Matches (concat rest) v := by
  rw [matches_concat_cons]
  constructor
  · rintro ⟨u, v, rfl, hu, hv⟩
    exact ⟨v, by rw [matches_literal_iff.mp hu], hv⟩
  · rintro ⟨v, rfl, hv⟩
    exact ⟨text.toList, v, rfl, matches_literal_iff.mpr rfl, hv⟩

theorem matches_star_oneOf_iff {accepts : Char → Bool} {w : List Char} :
    Matches (.star (.oneOf accepts)) w ↔ ∀ c ∈ w, accepts c = true := by
  induction w with
  | nil => exact ⟨fun _ c hc => absurd hc List.not_mem_nil, fun _ => .star_nil⟩
  | cons c w ih =>
    rw [Matches.star_cons_iff, List.forall_mem_cons, ← ih]
    constructor
    · rintro ⟨u, v, rfl, hu, hv⟩
      obtain ⟨d, hd, heq⟩ := Matches.oneOf_iff.mp hu
      obtain ⟨rfl, rfl⟩ := List.cons.inj heq
      exact ⟨hd, hv⟩
    · rintro ⟨hc, hrest⟩
      exact ⟨[], w, rfl, .oneOf hc, hrest⟩

theorem matches_concat_replicate {accepts : Char → Bool} {n : Nat} {w : List Char}
    (h : Matches (concat (List.replicate n (.oneOf accepts))) w) :
    w.length = n ∧ ∀ c ∈ w, accepts c = true := by
  induction n generalizing w with
  | zero =>
    rw [List.replicate_zero, matches_concat_nil] at h
    subst h
    exact ⟨rfl, fun c hc => absurd hc List.not_mem_nil⟩
  | succ n ih =>
    rw [List.replicate_succ, matches_concat_cons] at h
    obtain ⟨u, v, rfl, hu, hv⟩ := h
    obtain ⟨d, hd, rfl⟩ := Matches.oneOf_iff.mp hu
    obtain ⟨hlength, hall⟩ := ih hv
    rw [List.singleton_append]
    exact ⟨by rw [List.length_cons, hlength], List.forall_mem_cons.mpr ⟨hd, hall⟩⟩

end Regex

/-- `[A-Za-z]`. -/
def isAsciiLetter (c : Char) : Bool := ('A' ≤ c ∧ c ≤ 'Z') ∨ ('a' ≤ c ∧ c ≤ 'z')

/-- `[0-9]`. -/
def isAsciiDigit (c : Char) : Bool := '0' ≤ c ∧ c ≤ '9'

/-- `[A-Za-z0-9]` and the characters of a text. -/
def alphanumericOr (extra : String) (c : Char) : Bool :=
  isAsciiLetter c || isAsciiDigit c || extra.toList.contains c

end regex
