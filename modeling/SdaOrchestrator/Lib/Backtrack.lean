import Mathlib.Data.List.Basic

/-! Backtracking search for a pattern in a text: the ways in which a pattern reads on from a
place come in the order in which they are tried, and the first of them is the match. -/

namespace backtrack

/-- A place in a text: the characters before it, the last one first, those after it, and the
groups that were read on the way to it. -/
structure Position where
  before : List Char
  rest : List Char
  groups : List (String × List Char)

inductive Pattern where
  | char (accepts : Char → Bool)
  | seq (first second : Pattern)
  | many (limit : Option Nat) (item : Pattern)
  | group (name : String) (item : Pattern)
  | ahead (item : Pattern)

/-- The items of a repetition, as many of them as possible first. An item that reads nothing
ends it. -/
def repeated (item : Position → List Position) : Nat → Position → List Position
  | 0, p => [p]
  | n + 1, p =>
    (item p).flatMap (fun q => if q.rest.length < p.rest.length then repeated item n q else []) ++ [p]

namespace Pattern

/-- The places a pattern reads on to, in the order in which they are tried. -/
def ways : Pattern → Position → List Position
  | .char accepts, p =>
    match p.rest with
    | [] => []
    | c :: rest => if accepts c then [{ p with before := c :: p.before, rest }] else []
  | .seq first second, p => (first.ways p).flatMap second.ways
  | .many limit item, p => repeated item.ways (limit.getD p.rest.length) p
  | .group name item, p => (item.ways p).map fun q =>
    { q with groups := (name, p.rest.take (p.rest.length - q.rest.length)) :: q.groups }
  | .ahead item, p => if (item.ways p).isEmpty then [] else [p]

/-- A sequence of patterns. -/
def concat : List Pattern → Pattern → Pattern
  | [], last => last
  | first :: rest, last => .seq first (concat rest last)

/-! ## What a pattern reads -/

section Ways

variable {before text : List Char} {groups : List (String × List Char)} {q : Position}

theorem mem_ways_char {accepts : Char → Bool} :
    q ∈ (char accepts).ways ⟨before, text, groups⟩ ↔
      ∃ c rest, text = c :: rest ∧ accepts c ∧ q = ⟨c :: before, rest, groups⟩ := by
  cases text with
  | nil => simp [ways]
  | cons c rest =>
    simp only [ways, List.cons.injEq]
    by_cases hc : accepts c = true
    · simp [hc]
    · simp only [hc, Bool.false_eq_true, if_false, List.not_mem_nil, false_iff]
      rintro ⟨d, tail, ⟨rfl, rfl⟩, hd, -⟩
      exact hc hd

theorem mem_ways_seq {first second : Pattern} {p : Position} :
    q ∈ (seq first second).ways p ↔ ∃ middle ∈ first.ways p, q ∈ second.ways middle :=
  List.mem_flatMap

theorem mem_ways_ahead {item : Pattern} {p : Position} :
    q ∈ (ahead item).ways p ↔ q = p ∧ ∃ found, found ∈ item.ways p := by
  show q ∈ (if (item.ways p).isEmpty then [] else [p]) ↔ _
  split
  · rename_i hempty
    rw [List.isEmpty_iff] at hempty
    simp [hempty]
  · rename_i hsome
    rw [List.isEmpty_iff] at hsome
    simp [List.exists_mem_of_ne_nil _ hsome]

theorem mem_repeated_char {accepts : Char → Bool} {n : Nat} :
    q ∈ repeated (char accepts).ways n ⟨before, text, groups⟩ ↔
      ∃ word rest, text = word ++ rest ∧ word.length ≤ n ∧ (∀ c ∈ word, accepts c) ∧
        q = ⟨word.reverse ++ before, rest, groups⟩ := by
  induction n generalizing before text with
  | zero =>
    rw [repeated, List.mem_singleton]
    constructor
    · rintro rfl
      exact ⟨[], text, rfl, Nat.le_refl 0, List.forall_mem_nil _, rfl⟩
    · rintro ⟨word, rest, rfl, hlength, -, rfl⟩
      rw [List.eq_nil_of_length_eq_zero (Nat.le_zero.mp hlength)]
      rfl
  | succ n ih =>
    rw [repeated, List.mem_append, List.mem_flatMap, List.mem_singleton]
    constructor
    · rintro (⟨middle, hmiddle, hq⟩ | rfl)
      · obtain ⟨c, rest, rfl, hc, rfl⟩ := mem_ways_char.mp hmiddle
        rw [if_pos (by simp)] at hq
        obtain ⟨word, rest, rfl, hlength, hword, rfl⟩ := ih.mp hq
        refine ⟨c :: word, rest, rfl, Nat.succ_le_succ hlength, ?_, by simp⟩
        exact List.forall_mem_cons.mpr ⟨hc, hword⟩
      · exact ⟨[], text, rfl, Nat.zero_le _, List.forall_mem_nil _, rfl⟩
    · rintro ⟨word, rest, rfl, hlength, hword, rfl⟩
      cases word with
      | nil => exact .inr rfl
      | cons c word =>
        obtain ⟨hc, hword⟩ := List.forall_mem_cons.mp hword
        refine .inl ⟨⟨c :: before, word ++ rest, groups⟩, mem_ways_char.mpr ⟨c, _, rfl, hc, rfl⟩, ?_⟩
        rw [if_pos (by simp)]
        exact ih.mpr ⟨word, rest, rfl, Nat.le_of_succ_le_succ hlength, hword, by simp⟩

/-- A run of characters. -/
theorem mem_ways_many_char {accepts : Char → Bool} :
    q ∈ (many none (char accepts)).ways ⟨before, text, groups⟩ ↔
      ∃ word rest, text = word ++ rest ∧ (∀ c ∈ word, accepts c) ∧
        q = ⟨word.reverse ++ before, rest, groups⟩ := by
  refine (mem_repeated_char (n := text.length)).trans ?_
  constructor
  · rintro ⟨word, rest, htext, -, hword, hq⟩
    exact ⟨word, rest, htext, hword, hq⟩
  · rintro ⟨word, rest, rfl, hword, hq⟩
    exact ⟨word, rest, rfl, by simp, hword, hq⟩

/-- A run of at most so many characters. -/
theorem mem_ways_many_limit_char {accepts : Char → Bool} {limit : Nat} :
    q ∈ (many (some limit) (char accepts)).ways ⟨before, text, groups⟩ ↔
      ∃ word rest, text = word ++ rest ∧ word.length ≤ limit ∧ (∀ c ∈ word, accepts c) ∧
        q = ⟨word.reverse ++ before, rest, groups⟩ :=
  mem_repeated_char

theorem mem_ways_group {name : String} {item : Pattern} {p : Position} :
    q ∈ (group name item).ways p ↔ ∃ inner ∈ item.ways p,
      q = { inner with groups := (name, p.rest.take (p.rest.length - inner.rest.length)) :: inner.groups } :=
  List.mem_map.trans (exists_congr fun _ => and_congr_right fun _ => eq_comm)

/-- If every way leads to one place, then the first one does. -/
theorem head?_ways_of_unique {pattern : Pattern} {p : Position} (hmem : q ∈ pattern.ways p)
    (hunique : ∀ other ∈ pattern.ways p, other = q) : (pattern.ways p).head? = some q := by
  cases hways : pattern.ways p with
  | nil =>
    rw [hways] at hmem
    cases hmem
  | cons other others =>
    rw [List.head?_cons, hunique other (hways ▸ List.mem_cons_self)]

end Ways

end Pattern

/-! ## Substitution -/

/-- A text is read from left to right: the part of it that a match takes is replaced, any other
character stays. The replacements are counted as `replace` counts them. A match that takes
nothing is not looked for. -/
def substitute (pattern : Pattern) (replace : List Char → Position → List Char × Nat) :
    Nat → Position → List Char × Nat
  | 0, _ => ([], 0)
  | n + 1, p =>
    match p.rest with
    | [] => ([], 0)
    | c :: rest =>
      match (pattern.ways p).head?.filter (·.rest.length < p.rest.length) with
      | none =>
        let (text, count) := substitute pattern replace n ⟨c :: p.before, rest, []⟩
        (c :: text, count)
      | some q =>
        let (start, counted) := replace (p.rest.take (p.rest.length - q.rest.length)) q
        let (text, count) := substitute pattern replace n { q with groups := [] }
        (start ++ text, counted + count)

section Substitution

variable {pattern : Pattern} {replace : List Char → Position → List Char × Nat}

theorem substitute_eq_of_le {n m : Nat} {p : Position} (hn : p.rest.length ≤ n) (hm : p.rest.length ≤ m) :
    substitute pattern replace n p = substitute pattern replace m p := by
  induction n generalizing m p with
  | zero =>
    have hrest := List.eq_nil_of_length_eq_zero (Nat.le_zero.mp hn)
    cases m with
    | zero => rfl
    | succ m => simp [substitute, hrest]
  | succ n ih =>
    cases m with
    | zero =>
      have hrest := List.eq_nil_of_length_eq_zero (Nat.le_zero.mp hm)
      simp [substitute, hrest]
    | succ m =>
      rw [substitute, substitute]
      cases hrest : p.rest with
      | nil => rfl
      | cons c rest =>
        rw [hrest, List.length_cons] at hn hm
        cases hfound : (pattern.ways p).head?.filter (·.rest.length < (c :: rest).length) with
        | none =>
          have hn : rest.length ≤ n := by omega
          have hm : rest.length ≤ m := by omega
          simp only [ih (m := m) (p := ⟨c :: p.before, rest, []⟩) hn hm]
        | some q =>
          have hshort := (Option.filter_eq_some_iff.mp hfound).2
          simp only [List.length_cons, decide_eq_true_eq] at hshort
          have hn : q.rest.length ≤ n := by omega
          have hm : q.rest.length ≤ m := by omega
          simp only [ih (m := m) (p := { q with groups := [] }) hn hm]

/-- The text after a place, rewritten. -/
def rewritten (pattern : Pattern) (replace : List Char → Position → List Char × Nat) (before rest : List Char) :
    List Char × Nat :=
  substitute pattern replace rest.length ⟨before, rest, []⟩

/-- Before a tail, a text is rewritten to `out` with so many replacements, and the tail on its own. -/
def Rewrites (pattern : Pattern) (replace : List Char → Position → List Char × Nat) (text out : List Char)
    (count : Nat) (tail : List Char) : Prop :=
  ∀ before, rewritten pattern replace before (text ++ tail) =
    (out ++ (rewritten pattern replace (text.reverse ++ before) tail).1,
      count + (rewritten pattern replace (text.reverse ++ before) tail).2)

theorem Rewrites.nil {tail : List Char} : Rewrites pattern replace [] [] 0 tail := by
  intro before
  simp

theorem Rewrites.append {text out other out' tail : List Char} {count count' : Nat}
    (hfirst : Rewrites pattern replace text out count (other ++ tail))
    (hsecond : Rewrites pattern replace other out' count' tail) :
    Rewrites pattern replace (text ++ other) (out ++ out') (count + count') tail := by
  intro before
  rw [List.append_assoc, hfirst before, hsecond]
  simp only [List.append_assoc, List.reverse_append, Nat.add_assoc]

/-- A character at which no match starts stays. -/
theorem Rewrites.char {c : Char} {tail : List Char}
    (hnone : ∀ before, pattern.ways ⟨before, c :: tail, []⟩ = []) : Rewrites pattern replace [c] [c] 0 tail := by
  intro before
  simp only [rewritten, List.singleton_append, List.length_cons, substitute, hnone, List.head?_nil,
    Option.filter_none, List.reverse_singleton, Nat.zero_add]

/-- Characters at which no match starts stay. -/
theorem Rewrites.chars {text tail : List Char}
    (hnone : ∀ first c rest, text = first ++ c :: rest → ∀ before, pattern.ways ⟨before, c :: rest ++ tail, []⟩ = []) :
    Rewrites pattern replace text text 0 tail := by
  induction text with
  | nil => exact Rewrites.nil
  | cons c text ih =>
    have hfirst : Rewrites pattern replace [c] [c] 0 (text ++ tail) := Rewrites.char (hnone [] c text rfl)
    have hrest : Rewrites pattern replace text text 0 tail := by
      refine ih ?_
      rintro first d rest rfl
      exact hnone (c :: first) d rest rfl
    exact hfirst.append hrest

/-- A match is replaced. -/
theorem Rewrites.found {text tail : List Char} {groups : List (String × List Char)} (hne : text ≠ [])
    (hfirst : ∀ before, (pattern.ways ⟨before, text ++ tail, []⟩).head? = some ⟨text.reverse ++ before, tail, groups⟩)
    (hreplace : ∀ before, replace text ⟨before, tail, groups⟩ = replace text ⟨[], tail, groups⟩) :
    Rewrites pattern replace text (replace text ⟨[], tail, groups⟩).1 (replace text ⟨[], tail, groups⟩).2 tail := by
  intro before
  obtain ⟨c, rest, rfl⟩ := List.exists_cons_of_ne_nil hne
  have hfuel : substitute pattern replace (rest ++ tail).length ⟨(c :: rest).reverse ++ before, tail, []⟩ =
      rewritten pattern replace ((c :: rest).reverse ++ before) tail :=
    substitute_eq_of_le (by simp) (Nat.le_refl _)
  have hfound := hfirst before
  rw [List.cons_append] at hfound
  have htake : (c :: (rest ++ tail)).take ((c :: (rest ++ tail)).length - tail.length) = c :: rest := by
    rw [← List.cons_append, List.length_append, Nat.add_sub_cancel, List.take_left]
  rw [← hfuel, rewritten, List.cons_append, List.length_cons, substitute]
  simp only [hfound, Option.filter_some]
  have hshort : tail.length < (c :: (rest ++ tail)).length := by
    simp only [List.length_cons, List.length_append]
    omega
  rw [if_pos (decide_eq_true hshort)]
  simp only [htake, hreplace]

end Substitution

end backtrack
