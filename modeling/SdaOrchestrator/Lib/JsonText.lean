import SdaOrchestrator.Lib.Python
import Mathlib.Data.List.Infix

/-! The text `json.dumps` writes, and which parts it can have. -/

namespace python.Value

mutual

/-- The characters of `json.dumps(value, sort_keys=True)`. -/
def dumps : Value → List Char
  | .list items => '[' :: ([',', ' '].intercalate (dumpsItems items) ++ [']'])
  | .dict entries =>
    '\x7b' :: ([',', ' '].intercalate
      ((sortedBy Prod.fst (assoc.distinct (dumpsEntries entries))).map fun entry =>
        jsonChars entry.1 ++ ':' :: ' ' :: entry.2) ++ ['\x7d'])
  | value => canonical_json value

def dumpsItems : List Value → List (List Char)
  | [] => []
  | item :: rest => dumps item :: dumpsItems rest

def dumpsEntries : List (String × Value) → List (String × List Char)
  | [] => []
  | (key, value) :: rest => (key, dumps value) :: dumpsEntries rest

end

mutual

/-- The keys and scalars of a document, as they are written. -/
def tokens : Value → List (List Char)
  | .list items => tokensItems items
  | .dict entries => tokensEntries entries
  | value => [canonical_json value]

def tokensItems : List Value → List (List Char)
  | [] => []
  | item :: rest => tokens item ++ tokensItems rest

def tokensEntries : List (String × Value) → List (List Char)
  | [] => []
  | (key, value) :: rest => jsonChars key :: (tokens value ++ tokensEntries rest)

end

/-- The characters that stand between the tokens. -/
def separators : List Char := [',', ' ', ':', '[', ']', '\x7b', '\x7d']

/-- The text does not have the part, also when its letters are rewritten. -/
def Lacks (rewrite : Char → List Char) (part text : List Char) : Prop := ¬part <:+: text.flatMap rewrite

section Lacks

variable {rewrite : Char → List Char} {part : List Char}

theorem lacks_iff {text : List Char} :
    Lacks rewrite part text ↔ ((text.flatMap rewrite).tails.any fun tail => part.isPrefixOf tail) = false := by
  rw [Lacks, ← Bool.not_eq_true, List.any_eq_true, List.infix_iff_prefix_suffix]
  simp only [List.mem_tails, List.isPrefixOf_iff_prefix]
  exact not_congr (exists_congr fun tail => and_comm)

instance {text : List Char} : Decidable (Lacks rewrite part text) := decidable_of_iff _ lacks_iff.symm

theorem lacks_nil (hpart : part ≠ []) : Lacks rewrite part [] := by
  simpa [Lacks] using hpart

/-- A part without a character lies on one side of it. -/
theorem infix_or_of_append_cons {c : Char} (hpart : part ≠ []) (hc : c ∉ part) :
    ∀ first second : List Char, part <:+: first ++ c :: second → part <:+: first ∨ part <:+: second := by
  intro first second hinfix
  induction first with
  | nil =>
    rw [List.nil_append, List.infix_cons_iff] at hinfix
    obtain hstart | hinfix := hinfix
    · cases part with
      | nil => exact absurd rfl hpart
      | cons head rest =>
        obtain ⟨rfl, -⟩ := List.cons_prefix_cons.mp hstart
        exact absurd List.mem_cons_self hc
    · exact .inr hinfix
  | cons x rest ih =>
    rw [List.cons_append, List.infix_cons_iff] at hinfix
    obtain hstart | hinfix := hinfix
    · left
      have hwhole : x :: rest <+: x :: (rest ++ c :: second) := ⟨c :: second, rfl⟩
      obtain hshort | hlong := le_or_gt part.length (x :: rest).length
      · exact (List.prefix_of_prefix_length_le hstart hwhole hshort).isInfix
      · -- a longer part would run over the character
        obtain ⟨tail, rfl⟩ := List.prefix_of_prefix_length_le hwhole hstart hlong.le
        have hrest : tail <+: c :: second := by
          have hboth : (x :: rest) ++ tail <+: (x :: rest) ++ c :: second := hstart
          exact (List.prefix_append_right_inj _).mp hboth
        cases tail with
        | nil => simp at hlong
        | cons head others =>
          obtain ⟨rfl, -⟩ := List.cons_prefix_cons.mp hrest
          exact absurd (List.mem_append_right _ List.mem_cons_self) hc
    · obtain hfirst | hsecond := ih hinfix
      · exact .inl (List.infix_cons hfirst)
      · exact .inr hsecond

variable (hrewrite : ∀ c ∈ separators, rewrite c = [c]) (hpart : part ≠ []) (hfree : ∀ c ∈ separators, c ∉ part)

include hrewrite hpart hfree

theorem lacks_append_cons {c : Char} (hc : c ∈ separators) {first second : List Char}
    (hfirst : Lacks rewrite part first) (hsecond : Lacks rewrite part second) :
    Lacks rewrite part (first ++ c :: second) := by
  rw [Lacks, List.flatMap_append, List.flatMap_cons, hrewrite c hc, List.singleton_append]
  intro hinfix
  exact (infix_or_of_append_cons hpart (hfree c hc) _ _ hinfix).elim hfirst hsecond

theorem lacks_cons {c : Char} (hc : c ∈ separators) {text : List Char} (htext : Lacks rewrite part text) :
    Lacks rewrite part (c :: text) :=
  lacks_append_cons hrewrite hpart hfree hc (lacks_nil hpart) htext

theorem lacks_intercalate {texts : List (List Char)} (htexts : ∀ text ∈ texts, Lacks rewrite part text) :
    Lacks rewrite part ([',', ' '].intercalate texts) := by
  induction texts with
  | nil => exact lacks_nil hpart
  | cons text rest ih =>
    obtain ⟨htext, hrest⟩ := List.forall_mem_cons.mp htexts
    cases rest with
    | nil => rwa [List.intercalate_singleton]
    | cons next others =>
      rw [List.intercalate_cons_cons, List.append_assoc]
      exact lacks_append_cons hrewrite hpart hfree (by decide) htext
        (lacks_cons hrewrite hpart hfree (by decide) (ih hrest))

theorem lacks_enclosed {opening closing : Char} (hopening : opening ∈ separators) (hclosing : closing ∈ separators)
    {text : List Char} (htext : Lacks rewrite part text) :
    Lacks rewrite part (opening :: (text ++ [closing])) :=
  lacks_cons hrewrite hpart hfree hopening
    (lacks_append_cons hrewrite hpart hfree hclosing htext (lacks_nil hpart))

set_option linter.unusedSectionVars false

mutual

/-- A part without separators is not in the text of a document if it is in none of its tokens. -/
theorem lacks_dumps (value : Value) (htokens : ∀ token ∈ tokens value, Lacks rewrite part token) :
    Lacks rewrite part (dumps value) := by
  cases value with
  | list items =>
    rw [dumps]
    refine lacks_enclosed hrewrite hpart hfree (by decide) (by decide) (lacks_intercalate hrewrite hpart hfree ?_)
    exact lacks_dumpsItems items htokens
  | dict entries =>
    rw [dumps]
    refine lacks_enclosed hrewrite hpart hfree (by decide) (by decide) (lacks_intercalate hrewrite hpart hfree ?_)
    intro text htext
    obtain ⟨entry, hentry, rfl⟩ := List.mem_map.mp htext
    have hmem := assoc.lookup_mem (assoc.mem_distinct_iff.mp (mem_sortedBy.mp hentry))
    obtain ⟨hkey, hvalue⟩ := lacks_dumpsEntries entries htokens entry hmem
    exact lacks_append_cons hrewrite hpart hfree (by decide) hkey
      (lacks_cons hrewrite hpart hfree (by decide) hvalue)
  | null => exact htokens _ List.mem_cons_self
  | bool flag => exact htokens _ List.mem_cons_self
  | int number => exact htokens _ List.mem_cons_self
  | float number text => exact htokens _ List.mem_cons_self
  | str text => exact htokens _ List.mem_cons_self

theorem lacks_dumpsItems (items : List Value) (htokens : ∀ token ∈ tokensItems items, Lacks rewrite part token) :
    ∀ text ∈ dumpsItems items, Lacks rewrite part text := by
  cases items with
  | nil => simp [dumpsItems]
  | cons item rest =>
    rw [tokensItems, List.forall_mem_append] at htokens
    rw [dumpsItems, List.forall_mem_cons]
    exact ⟨lacks_dumps item htokens.1, lacks_dumpsItems rest htokens.2⟩

theorem lacks_dumpsEntries (entries : List (String × Value))
    (htokens : ∀ token ∈ tokensEntries entries, Lacks rewrite part token) :
    ∀ entry ∈ dumpsEntries entries, Lacks rewrite part (jsonChars entry.1) ∧ Lacks rewrite part entry.2 := by
  cases entries with
  | nil => simp [dumpsEntries]
  | cons entry rest =>
    obtain ⟨key, value⟩ := entry
    rw [tokensEntries, List.forall_mem_cons, List.forall_mem_append] at htokens
    rw [dumpsEntries, List.forall_mem_cons]
    exact ⟨⟨htokens.1, lacks_dumps value htokens.2.1⟩, lacks_dumpsEntries rest htokens.2.2⟩

end

end Lacks

end python.Value
