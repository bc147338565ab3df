import Mathlib.Data.List.DropRight
import SdaOrchestrator.Api.UnquotedScalars

open python regex backtrack backtrack.Pattern

namespace orchestrator.api

/-! ## What the pattern matches -/

/-- Nothing but white space stands before the next comma or closing brace. -/
def Closes (rest : List Char) : Prop :=
  ∃ space c tail, rest = space ++ c :: tail ∧ (∀ d ∈ space, isSpace d = true) ∧ closes c = true

/-- The quoted key and the colon of a match. -/
def head (name space space' : List Char) : List Char := '"' :: (name ++ '"' :: (space ++ ':' :: space'))

theorem head_append {name space space' rest : List Char} :
    head name space space' ++ rest = '"' :: (name ++ '"' :: (space ++ ':' :: (space' ++ rest))) := by
  simp [head]

theorem reverse_head_append {name space space' before : List Char} :
    (head name space space').reverse ++ before =
      space'.reverse ++ ':' :: (space.reverse ++ '"' :: (name.reverse ++ '"' :: before)) := by
  simp [head]

section Ways

variable {before text : List Char} {groups : List (String × List Char)} {q : Position}

theorem take_group {taken rest : List Char} :
    (taken ++ rest).take ((taken ++ rest).length - rest.length) = taken := by
  rw [List.length_append, Nat.add_sub_cancel, List.take_left]

theorem mem_ways_key :
    q ∈ (group "key" (.seq (char key_start) (many none (char key_char)))).ways ⟨before, text, groups⟩ ↔
      ∃ name rest, text = name ++ rest ∧ identifier name = true ∧
        q = ⟨name.reverse ++ before, rest, ("key", name) :: groups⟩ := by
  rw [mem_ways_group]
  constructor
  · rintro ⟨inner, hinner, rfl⟩
    obtain ⟨middle, hmiddle, hinner⟩ := mem_ways_seq.mp hinner
    obtain ⟨c, rest, rfl, hc, rfl⟩ := mem_ways_char.mp hmiddle
    obtain ⟨word, rest, rfl, hword, rfl⟩ := mem_ways_many_char.mp hinner
    refine ⟨c :: word, rest, rfl, ?_, ?_⟩
    · simp only [identifier, hc, Bool.true_and, List.all_eq_true]
      exact hword
    · simp only [← List.cons_append, take_group, List.reverse_cons, List.append_assoc, List.singleton_append]
  · rintro ⟨name, rest, rfl, hname, rfl⟩
    cases name with
    | nil => cases hname
    | cons c word =>
      simp only [identifier, Bool.and_eq_true, List.all_eq_true] at hname
      refine ⟨⟨word.reverse ++ c :: before, rest, groups⟩, ?_, ?_⟩
      · refine mem_ways_seq.mpr ⟨⟨c :: before, word ++ rest, groups⟩, ?_, ?_⟩
        · exact mem_ways_char.mpr ⟨c, word ++ rest, rfl, hname.1, rfl⟩
        · exact mem_ways_many_char.mpr ⟨word, rest, rfl, hname.2, rfl⟩
      · simp only [take_group, List.reverse_cons, List.append_assoc, List.singleton_append]

theorem mem_ways_value :
    q ∈ (group "value" (.seq (char token) (many (some 255) (char token)))).ways ⟨before, text, groups⟩ ↔
      ∃ value rest, text = value ++ rest ∧ Scannable value ∧
        q = ⟨value.reverse ++ before, rest, ("value", value) :: groups⟩ := by
  rw [mem_ways_group]
  constructor
  · rintro ⟨inner, hinner, rfl⟩
    obtain ⟨middle, hmiddle, hinner⟩ := mem_ways_seq.mp hinner
    obtain ⟨c, rest, rfl, hc, rfl⟩ := mem_ways_char.mp hmiddle
    obtain ⟨word, rest, rfl, hlength, hword, rfl⟩ := mem_ways_many_limit_char.mp hinner
    refine ⟨c :: word, rest, rfl, ⟨List.cons_ne_nil _ _, ?_, List.forall_mem_cons.mpr ⟨hc, hword⟩⟩, ?_⟩
    · rw [List.length_cons]
      omega
    · simp only [← List.cons_append, take_group, List.reverse_cons, List.append_assoc, List.singleton_append]
  · rintro ⟨value, rest, rfl, ⟨hne, hlength, htokens⟩, rfl⟩
    obtain ⟨c, word, rfl⟩ := List.exists_cons_of_ne_nil hne
    obtain ⟨hc, hword⟩ := List.forall_mem_cons.mp htokens
    rw [List.length_cons] at hlength
    refine ⟨⟨word.reverse ++ c :: before, rest, groups⟩, ?_, ?_⟩
    · refine mem_ways_seq.mpr ⟨⟨c :: before, word ++ rest, groups⟩, ?_, ?_⟩
      · exact mem_ways_char.mpr ⟨c, word ++ rest, rfl, hc, rfl⟩
      · exact mem_ways_many_limit_char.mpr ⟨word, rest, rfl, by omega, hword, rfl⟩
    · simp only [take_group, List.reverse_cons, List.append_assoc, List.singleton_append]

theorem mem_ways_closes :
    q ∈ (ahead (.seq spaces (char closes))).ways ⟨before, text, groups⟩ ↔
      Closes text ∧ q = ⟨before, text, groups⟩ := by
  rw [mem_ways_ahead, and_comm]
  refine and_congr_left fun _ => ?_
  constructor
  · rintro ⟨found, hfound⟩
    obtain ⟨middle, hmiddle, hfound⟩ := mem_ways_seq.mp hfound
    obtain ⟨space, rest, rfl, hspace, rfl⟩ := mem_ways_many_char.mp hmiddle
    obtain ⟨c, tail, rfl, hc, rfl⟩ := mem_ways_char.mp hfound
    exact ⟨space, c, tail, rfl, hspace, hc⟩
  · rintro ⟨space, c, tail, rfl, hspace, hc⟩
    refine ⟨⟨c :: (space.reverse ++ before), tail, groups⟩, mem_ways_seq.mpr ?_⟩
    exact ⟨_, mem_ways_many_char.mpr ⟨space, c :: tail, rfl, hspace, rfl⟩, mem_ways_char.mpr ⟨c, tail, rfl, hc, rfl⟩⟩

/-- The key, its colon and the white space after it. -/
theorem mem_ways_head :
    q ∈ (group "1" (concat [char quote, group "key" (.seq (char key_start) (many none (char key_char))), char quote,
        spaces, char colon] spaces)).ways ⟨before, text, groups⟩ ↔
      ∃ name space space' rest, text = head name space space' ++ rest ∧ identifier name = true ∧
        (∀ c ∈ space, isSpace c = true) ∧ (∀ c ∈ space', isSpace c = true) ∧
        q = ⟨(head name space space').reverse ++ before, rest,
          ("1", head name space space') :: ("key", name) :: groups⟩ := by
  rw [mem_ways_group]
  constructor
  · rintro ⟨inner, hinner, rfl⟩
    simp only [concat] at hinner
    obtain ⟨middle, hquote, hinner⟩ := mem_ways_seq.mp hinner
    obtain ⟨c, rest, rfl, hc, rfl⟩ := mem_ways_char.mp hquote
    obtain ⟨middle, hkey, hinner⟩ := mem_ways_seq.mp hinner
    obtain ⟨name, rest, rfl, hname, rfl⟩ := mem_ways_key.mp hkey
    obtain ⟨middle, hquote, hinner⟩ := mem_ways_seq.mp hinner
    obtain ⟨d, rest, rfl, hd, rfl⟩ := mem_ways_char.mp hquote
    obtain ⟨middle, hspaces, hinner⟩ := mem_ways_seq.mp hinner
    obtain ⟨space, rest, rfl, hspace, rfl⟩ := mem_ways_many_char.mp hspaces
    obtain ⟨middle, hcolon, hinner⟩ := mem_ways_seq.mp hinner
    obtain ⟨e, rest, rfl, he, rfl⟩ := mem_ways_char.mp hcolon
    obtain ⟨space', rest, rfl, hspace', rfl⟩ := mem_ways_many_char.mp hinner
    obtain rfl := of_decide_eq_true hc
    obtain rfl := of_decide_eq_true hd
    obtain rfl := of_decide_eq_true he
    refine ⟨name, space, space', rest, head_append.symm, hname, hspace, hspace', ?_⟩
    simp only [← head_append, take_group, reverse_head_append]
  · rintro ⟨name, space, space', rest, rfl, hname, hspace, hspace', rfl⟩
    refine ⟨⟨(head name space space').reverse ++ before, rest, ("key", name) :: groups⟩, ?_, ?_⟩
    · simp only [concat, head_append, reverse_head_append]
      refine mem_ways_seq.mpr ⟨_, mem_ways_char.mpr ⟨'"', _, rfl, rfl, rfl⟩, ?_⟩
      refine mem_ways_seq.mpr ⟨_, mem_ways_key.mpr ⟨name, _, rfl, hname, rfl⟩, ?_⟩
      refine mem_ways_seq.mpr ⟨_, mem_ways_char.mpr ⟨'"', _, rfl, rfl, rfl⟩, ?_⟩
      refine mem_ways_seq.mpr ⟨_, mem_ways_many_char.mpr ⟨space, _, rfl, hspace, rfl⟩, ?_⟩
      refine mem_ways_seq.mpr ⟨_, mem_ways_char.mpr ⟨':', _, rfl, rfl, rfl⟩, ?_⟩
      exact mem_ways_many_char.mpr ⟨space', rest, rfl, hspace', rfl⟩
    · simp only [take_group]

/-- The pattern reads a key that is an identifier, a colon and a value, where the value closes. -/
theorem mem_ways_iff :
    q ∈ MERAKI_UNQUOTED_SCALAR.ways ⟨before, text, groups⟩ ↔
      ∃ name space space' value rest, text = head name space space' ++ (value ++ rest) ∧ identifier name = true ∧
        (∀ c ∈ space, isSpace c = true) ∧ (∀ c ∈ space', isSpace c = true) ∧ Scannable value ∧ Closes rest ∧
        q = ⟨(head name space space' ++ value).reverse ++ before, rest,
          ("value", value) :: ("1", head name space space') :: ("key", name) :: groups⟩ := by
  rw [MERAKI_UNQUOTED_SCALAR, mem_ways_seq]
  constructor
  · rintro ⟨middle, hhead, hq⟩
    obtain ⟨name, space, space', rest, rfl, hname, hspace, hspace', rfl⟩ := mem_ways_head.mp hhead
    obtain ⟨middle, hvalue, hq⟩ := mem_ways_seq.mp hq
    obtain ⟨value, rest, rfl, hscannable, rfl⟩ := mem_ways_value.mp hvalue
    obtain ⟨hcloses, rfl⟩ := mem_ways_closes.mp hq
    refine ⟨name, space, space', value, rest, rfl, hname, hspace, hspace', hscannable, hcloses, ?_⟩
    rw [List.reverse_append, List.append_assoc]
  · rintro ⟨name, space, space', value, rest, rfl, hname, hspace, hspace', hscannable, hcloses, rfl⟩
    refine ⟨_, mem_ways_head.mpr ⟨name, space, space', _, rfl, hname, hspace, hspace', rfl⟩, ?_⟩
    refine mem_ways_seq.mpr ⟨_, mem_ways_value.mpr ⟨value, rest, rfl, hscannable, rfl⟩, ?_⟩
    refine mem_ways_closes.mpr ⟨hcloses, ?_⟩
    rw [List.reverse_append, List.append_assoc]

end Ways

/-! ## The match at a place -/

/-- A run of a class says where it ends. -/
theorem span_inj {accepts : Char → Bool} {run other rest tail : List Char} {c d : Char}
    (hrun : ∀ e ∈ run, accepts e = true) (hother : ∀ e ∈ other, accepts e = true) (hc : accepts c = false)
    (hd : accepts d = false) (heq : run ++ c :: rest = other ++ d :: tail) :
    run = other ∧ c = d ∧ rest = tail := by
  have hspan {run rest : List Char} {c : Char} (hrun : ∀ e ∈ run, accepts e = true) (hc : accepts c = false) :
      (run ++ c :: rest).takeWhile accepts = run := by
    rw [List.takeWhile_append_of_pos hrun, List.takeWhile_cons_of_neg (by simp [hc]), List.append_nil]
  have hsame : run = other := by
    rw [← hspan hrun hc, heq, hspan hother hd]
  subst hsame
  obtain ⟨hsame, hrest⟩ := List.cons.inj (List.append_cancel_left heq)
  exact ⟨rfl, hsame, hrest⟩

theorem key_char_of_identifier {name : List Char} (hname : identifier name = true) :
    ∀ c ∈ name, key_char c = true := by
  cases name with
  | nil => exact List.forall_mem_nil _
  | cons c rest =>
    simp only [identifier, Bool.and_eq_true, List.all_eq_true] at hname
    refine List.forall_mem_cons.mpr ⟨?_, hname.2⟩
    have hstart := hname.1
    simp only [key_start, key_char, alphanumericOr, Bool.or_eq_true, decide_eq_true_eq, List.contains_iff_mem] at hstart ⊢
    obtain hletter | rfl := hstart
    · exact .inl (.inl hletter)
    · exact .inr (by decide)

/-- Where a value closes, no token follows. -/
theorem exists_of_closes {rest : List Char} (hcloses : Closes rest) :
    ∃ c tail, rest = c :: tail ∧ token c = false := by
  obtain ⟨space, c, tail, rfl, hspace, hc⟩ := hcloses
  cases space with
  | nil =>
    refine ⟨c, tail, rfl, ?_⟩
    simp only [closes, Bool.or_eq_true, decide_eq_true_eq] at hc
    obtain rfl | rfl := hc <;> decide
  | cons d space =>
    refine ⟨d, space ++ c :: tail, rfl, ?_⟩
    rw [← Bool.not_eq_true]
    intro hd
    exact absurd ((hspace d List.mem_cons_self).symm.trans (isSpace_of_token hd)) (by decide)

/-- There is one way to read a member. -/
theorem head_inj {name name' space space' stop stop' value value' rest rest' : List Char}
    (hname : identifier name = true) (hname' : identifier name' = true)
    (hspace : ∀ c ∈ space, isSpace c = true) (hspace' : ∀ c ∈ space', isSpace c = true)
    (hstop : ∀ c ∈ stop, isSpace c = true) (hstop' : ∀ c ∈ stop', isSpace c = true)
    (hvalue : Scannable value) (hvalue' : Scannable value') (hrest : Closes rest) (hrest' : Closes rest')
    (heq : head name space stop ++ (value ++ rest) = head name' space' stop' ++ (value' ++ rest')) :
    name = name' ∧ space = space' ∧ stop = stop' ∧ value = value' ∧ rest = rest' := by
  rw [head_append, head_append] at heq
  obtain ⟨rfl, -, hcolon⟩ := span_inj (key_char_of_identifier hname) (key_char_of_identifier hname')
    (by decide) (by decide) (List.cons.inj heq).2
  obtain ⟨rfl, -, hafter⟩ := span_inj hspace hspace' (by decide) (by decide) hcolon
  obtain ⟨c, text, rfl⟩ := List.exists_cons_of_ne_nil hvalue.1
  obtain ⟨d, other, rfl⟩ := List.exists_cons_of_ne_nil hvalue'.1
  obtain ⟨rfl, rfl, hvalues⟩ := span_inj hstop hstop' (isSpace_of_token (hvalue.2.2 c List.mem_cons_self))
    (isSpace_of_token (hvalue'.2.2 d List.mem_cons_self)) hafter
  obtain ⟨e, tail, rfl, he⟩ := exists_of_closes hrest
  obtain ⟨f, tail', rfl, hf⟩ := exists_of_closes hrest'
  obtain ⟨rfl, rfl, rfl⟩ := span_inj (List.forall_mem_cons.mp hvalue.2.2).2
    (List.forall_mem_cons.mp hvalue'.2.2).2 he hf hvalues
  exact ⟨rfl, rfl, rfl, rfl, rfl⟩

/-- A member that can be matched is rewritten: its value is quoted if it is approved. -/
theorem rewrites_member {name space stop value tail : List Char} (hname : identifier name = true)
    (hspace : ∀ c ∈ space, isSpace c = true) (hstop : ∀ c ∈ stop, isSpace c = true) (hvalue : Scannable value)
    (htail : Closes tail) :
    Rewrites MERAKI_UNQUOTED_SCALAR replace (head name space stop ++ value)
      (head name space stop ++ (if approved name value then jsonChars (String.ofList value) else value))
      (if approved name value then 1 else 0) tail := by
  let groups := [("value", value), ("1", head name space stop), ("key", name)]
  have hgroups : group_of ⟨[], tail, groups⟩ "value" = value ∧ group_of ⟨[], tail, groups⟩ "key" = name ∧
      group_of ⟨[], tail, groups⟩ "1" = head name space stop := ⟨rfl, rfl, rfl⟩
  have hreplace : replace (head name space stop ++ value) ⟨[], tail, groups⟩ =
      (head name space stop ++ (if approved name value then jsonChars (String.ofList value) else value),
        if approved name value then 1 else 0) := by
    simp only [replace, hgroups]
    split <;> rfl
  have hfound : Rewrites MERAKI_UNQUOTED_SCALAR replace (head name space stop ++ value)
      (replace (head name space stop ++ value) ⟨[], tail, groups⟩).1
      (replace (head name space stop ++ value) ⟨[], tail, groups⟩).2 tail := by
    refine Rewrites.found (by simp [head]) ?_ fun before => rfl
    intro before
    refine head?_ways_of_unique ?_ ?_
    · refine mem_ways_iff.mpr ⟨name, space, stop, value, tail, ?_, hname, hspace, hstop, hvalue, htail, rfl⟩
      rw [List.append_assoc]
    · intro other hother
      obtain ⟨name', space', stop', value', rest, heq, hname', hspace', hstop', hvalue', hrest, rfl⟩ :=
        mem_ways_iff.mp hother
      rw [List.append_assoc] at heq
      obtain ⟨rfl, rfl, rfl, rfl, rfl⟩ := head_inj hname hname' hspace hspace' hstop hstop' hvalue hvalue' htail hrest heq
      rfl
  rwa [hreplace] at hfound

/-! ## Keys and texts -/

/-- Every quote in a text stands after a backslash. -/
def QuotesEscaped (raw : List Char) : Prop :=
  ∀ start rest, raw = start ++ '"' :: rest → ∃ init, start = init ++ ['\\']

/-- A part of a text without quotes stands before every quote in it. -/
theorem append_of_no_quote {part raw start rest : List Char} (hpart : '"' ∉ part)
    (heq : part ++ raw = start ++ '"' :: rest) : ∃ start', start = part ++ start' ∧ raw = start' ++ '"' :: rest := by
  obtain ⟨middle, rfl, hraw⟩ | ⟨middle, hpart', hrest⟩ := List.append_eq_append_iff.mp heq
  · exact ⟨middle, rfl, hraw⟩
  · cases middle with
    | nil => exact ⟨[], by simpa using hpart'.symm, by simpa using hrest.symm⟩
    | cons c middle =>
      obtain ⟨rfl, -⟩ := List.cons.inj hrest
      exact absurd (by simp [hpart']) hpart

theorem hex_digit_ne_quote {c : Char} {n : Nat} (hc : json.hex_digit c = some n) : '"' ≠ c := by
  rintro rfl
  cases hc

theorem no_quote_of_code_unit {a b c d : Char} {n : Nat} (hunit : json.code_unit a b c d = some n) :
    '"' ∉ ['\\', 'u', a, b, c, d] := by
  simp only [json.code_unit, Option.bind_eq_bind, Option.bind_eq_some_iff] at hunit
  obtain ⟨_, ha, _, hb, _, hc, _, hd, -⟩ := hunit
  simp [hex_digit_ne_quote ha, hex_digit_ne_quote hb, hex_digit_ne_quote hc, hex_digit_ne_quote hd]

theorem quotesEscaped_of_spelled {raw text : List Char} (hspelled : json.Spelled raw text) : QuotesEscaped raw := by
  have hpart {part raw : List Char} (hpart : '"' ∉ part) (ih : QuotesEscaped raw) : QuotesEscaped (part ++ raw) := by
    intro start rest heq
    obtain ⟨start', rfl, hraw⟩ := append_of_no_quote hpart heq
    obtain ⟨init, rfl⟩ := ih start' rest hraw
    exact ⟨part ++ init, (List.append_assoc ..).symm⟩
  induction hspelled with
  | nil =>
    intro start rest heq
    simp at heq
  | @plain c raw text hquote _ _ _ ih =>
    have hc : '"' ∉ [c] := by simpa using Ne.symm hquote
    exact hpart hc ih
  | @escape e c raw text hescape _ ih =>
    by_cases he : '"' = e
    · subst he
      intro start rest heq
      cases start with
      | nil => cases heq
      | cons d start =>
        obtain ⟨rfl, hescaped⟩ := List.cons.inj heq
        cases start with
        | nil => exact ⟨[], rfl⟩
        | cons d start =>
          obtain ⟨rfl, hraw⟩ := List.cons.inj hescaped
          obtain ⟨init, rfl⟩ := ih start rest hraw
          exact ⟨'\\' :: '"' :: init, rfl⟩
    · have hpair : '"' ∉ ['\\', e] := by simp [he]
      exact hpart hpair ih
  | unicode hunit _ _ _ ih => exact hpart (no_quote_of_code_unit hunit) ih
  | pair hunit _ hnext _ _ ih => exact hpart (no_quote_of_code_unit hunit) (hpart (no_quote_of_code_unit hnext) ih)

theorem QuotesEscaped.after {raw start rest : List Char} (hraw : QuotesEscaped raw)
    (heq : raw = start ++ '"' :: rest) : QuotesEscaped rest := by
  intro start' rest' hrest
  obtain ⟨init, hinit⟩ := hraw (start ++ '"' :: start') rest' (by simp [heq, hrest])
  -- the character before the second quote is not the first one
  obtain rfl | ⟨last, c, rfl⟩ := List.eq_nil_or_concat start'
  · have hlast := congrArg List.getLast? hinit
    simp at hlast
  · rw [List.concat_eq_append] at hinit ⊢
    have hsplit : (start ++ '"' :: last) ++ [c] = init ++ ['\\'] := by simpa using hinit
    exact ⟨last, by rw [(List.append_inj' hsplit rfl).2]⟩

/-- No quote in such a text stands after an identifier. -/
theorem QuotesEscaped.eq_name {raw name follow more : List Char} (hraw : QuotesEscaped raw)
    (hname : ∀ c ∈ name, key_char c = true) (heq : raw ++ '"' :: follow = name ++ '"' :: more) :
    raw = name ∧ follow = more := by
  obtain ⟨middle, rfl, hfollow⟩ | ⟨middle, rfl, hmore⟩ := List.append_eq_append_iff.mp heq
  · cases middle with
    | nil => exact ⟨(List.append_nil raw).symm, (List.cons.inj hfollow).2⟩
    | cons c middle =>
      obtain ⟨rfl, -⟩ := List.cons.inj hfollow
      exact absurd (hname '"' (by simp)) (by decide)
  · cases middle with
    | nil => exact ⟨List.append_nil name, (List.cons.inj hmore).2.symm⟩
    | cons c middle =>
      obtain ⟨rfl, -⟩ := List.cons.inj hmore
      obtain ⟨init, rfl⟩ := hraw name middle rfl
      exact absurd (hname '\\' (by simp)) (by decide)

/-- What stands after the last quote in a text. -/
def own_name (raw : List Char) : List Char := raw.rtakeWhile (· ≠ '"')

theorem no_quote_own_name (raw : List Char) : '"' ∉ own_name raw := by
  intro hmem
  have hne := List.mem_rtakeWhile_imp hmem
  simp at hne

theorem own_name_after_quote {start rest : List Char} (hrest : '"' ∉ rest) :
    own_name (start ++ '"' :: rest) = rest := by
  have hall : ∀ c ∈ rest.reverse, (fun c => decide (c ≠ '"')) c = true := by
    intro c hc
    refine decide_eq_true ?_
    rintro rfl
    exact hrest (List.mem_reverse.mp hc)
  rw [own_name, List.rtakeWhile, List.reverse_append, List.reverse_cons, List.append_assoc, List.takeWhile_append_of_pos hall]
  simp

theorem own_name_of_no_quote {raw : List Char} (hraw : '"' ∉ raw) : own_name raw = raw := by
  refine List.rtakeWhile_eq_self_iff.mpr fun c hc => decide_eq_true ?_
  rintro rfl
  exact hraw hc

theorem own_name_cases (raw : List Char) : raw = own_name raw ∨ ∃ start, raw = start ++ '"' :: own_name raw := by
  by_cases hquote : '"' ∈ raw
  · right
    obtain ⟨rest, start, heq, hrest⟩ := List.eq_append_cons_of_mem (List.mem_reverse.mpr hquote)
    have hraw : raw = start.reverse ++ '"' :: rest.reverse := by
      rw [← List.reverse_reverse raw, heq]
      simp
    have hown : own_name raw = rest.reverse := by
      rw [hraw, own_name_after_quote (by simpa using hrest)]
    rw [hown]
    exact ⟨start.reverse, hraw⟩
  · exact .inl (own_name_of_no_quote hquote).symm

/-- A colon and a value that closes follow. -/
def Follows (follow : List Char) : Prop :=
  ∃ space stop value rest, follow = space ++ ':' :: (stop ++ (value ++ rest)) ∧
    (∀ c ∈ space, isSpace c = true) ∧ (∀ c ∈ stop, isSpace c = true) ∧ Scannable value ∧ Closes rest

section Literals

variable {raw follow before : List Char} {c : Char}

/-- Where a match starts at a quote, an identifier stands before the next quote of the text. -/
theorem eq_name_of_mem_ways {q : Position} (hraw : QuotesEscaped raw)
    (hq : q ∈ MERAKI_UNQUOTED_SCALAR.ways ⟨before, '"' :: (raw ++ '"' :: follow), []⟩) :
    identifier raw = true ∧ Follows follow := by
  obtain ⟨name, space, stop, value, rest, heq, hname, hspace, hstop, hvalue, hrest, -⟩ := mem_ways_iff.mp hq
  rw [head_append] at heq
  obtain ⟨rfl, rfl⟩ := hraw.eq_name (key_char_of_identifier hname) (List.cons.inj heq).2
  exact ⟨hname, space, stop, value, rest, rfl, hspace, hstop, hvalue, hrest⟩

/-- No match starts anywhere but at a quote before an identifier. -/
theorem ways_eq_nil_of_ne (hc : c ≠ '"') : MERAKI_UNQUOTED_SCALAR.ways ⟨before, c :: follow, []⟩ = [] := by
  rw [List.eq_nil_iff_forall_not_mem]
  intro q hq
  obtain ⟨name, space, stop, value, rest, heq, -⟩ := mem_ways_iff.mp hq
  rw [head_append] at heq
  exact hc (List.cons.inj heq).1

theorem ways_eq_nil_of_start (hfollow : ∀ c rest, follow = c :: rest → key_start c = false) :
    MERAKI_UNQUOTED_SCALAR.ways ⟨before, '"' :: follow, []⟩ = [] := by
  rw [List.eq_nil_iff_forall_not_mem]
  intro q hq
  obtain ⟨name, space, stop, value, rest, heq, hname, -⟩ := mem_ways_iff.mp hq
  rw [head_append] at heq
  cases name with
  | nil => cases hname
  | cons c name =>
    have hc := hfollow c _ (List.cons.inj heq).2
    simp [identifier, hc] at hname

/-- A text without quotes stays. -/
theorem rewrites_no_quote {text : List Char} (htext : '"' ∉ text) :
    Rewrites MERAKI_UNQUOTED_SCALAR replace text text 0 follow := by
  refine Rewrites.chars ?_
  rintro first c rest rfl before
  refine ways_eq_nil_of_ne ?_
  rintro rfl
  exact htext (by simp)

/-- A quoted text stays, unless a match starts in it. -/
theorem rewrites_quoted (hraw : QuotesEscaped raw) (hfollow : ∀ c rest, follow = c :: rest → key_start c = false)
    (hnone : ¬(identifier (own_name raw) = true ∧ Follows follow)) :
    Rewrites MERAKI_UNQUOTED_SCALAR replace ('"' :: (raw ++ ['"'])) ('"' :: (raw ++ ['"'])) 0 follow := by
  refine Rewrites.chars ?_
  intro first c rest heq before
  by_cases hc : c = '"'
  · subst hc
    rw [List.eq_nil_iff_forall_not_mem]
    intro q hq
    obtain rfl | ⟨tail, d, rfl⟩ := List.eq_nil_or_concat rest
    · -- the closing quote
      rw [List.singleton_append, ways_eq_nil_of_start hfollow] at hq
      cases hq
    rw [List.concat_eq_append] at heq hq
    have hends : ('"' :: raw) ++ ['"'] = (first ++ '"' :: tail) ++ [d] := by simpa using heq
    obtain ⟨hinit, hlast⟩ := List.append_inj' hends rfl
    obtain rfl := (List.cons.inj hlast).1
    rw [List.cons_append, List.append_assoc, List.singleton_append] at hq
    cases first with
    | nil =>
      -- the opening quote
      obtain rfl := (List.cons.inj hinit).2
      obtain ⟨hname, hfollows⟩ := eq_name_of_mem_ways hraw hq
      have hquote : '"' ∉ raw := fun hmem => absurd (key_char_of_identifier hname _ hmem) (by decide)
      rw [own_name_of_no_quote hquote] at hnone
      exact hnone ⟨hname, hfollows⟩
    | cons d start =>
      have hsplit : raw = start ++ '"' :: tail := (List.cons.inj hinit).2
      obtain ⟨hname, hfollows⟩ := eq_name_of_mem_ways (hraw.after hsplit) hq
      have hquote : '"' ∉ tail := fun hmem => absurd (key_char_of_identifier hname _ hmem) (by decide)
      rw [hsplit, own_name_after_quote hquote] at hnone
      exact hnone ⟨hname, hfollows⟩
  · exact ways_eq_nil_of_ne hc

/-- A key with an identifier after its last quote, its colon and a value: the value is quoted if it
is approved. -/
theorem rewrites_named {space stop value tail : List Char} (hraw : QuotesEscaped raw)
    (hname : identifier (own_name raw) = true) (hspace : ∀ c ∈ space, isSpace c = true)
    (hstop : ∀ c ∈ stop, isSpace c = true) (hvalue : Scannable value) (htail : Closes tail) :
    Rewrites MERAKI_UNQUOTED_SCALAR replace (head raw space stop ++ value)
      (head raw space stop ++ (if approved (own_name raw) value then jsonChars (String.ofList value) else value))
      (if approved (own_name raw) value then 1 else 0) tail := by
  obtain hown | ⟨start, hown⟩ := own_name_cases raw
  · have hmember := rewrites_member hname hspace hstop hvalue htail
    rwa [← hown] at hmember ⊢
  · have hsplit : head raw space stop = '"' :: start ++ head (own_name raw) space stop := by
      conv_lhs => rw [hown]
      simp [head]
    have hstart : Rewrites MERAKI_UNQUOTED_SCALAR replace ('"' :: start) ('"' :: start) 0
        (head (own_name raw) space stop ++ value ++ tail) := by
      refine Rewrites.chars ?_
      intro first c rest heq before
      by_cases hc : c = '"'
      · subst hc
        rw [List.eq_nil_iff_forall_not_mem]
        intro q hq
        have hinner : QuotesEscaped (rest ++ '"' :: own_name raw) := by
          cases first with
          | nil =>
            obtain rfl := (List.cons.inj heq).2
            rwa [← hown]
          | cons d init =>
            have hinit : raw = init ++ '"' :: (rest ++ '"' :: own_name raw) := by
              calc raw = start ++ '"' :: own_name raw := hown
                _ = (init ++ '"' :: rest) ++ '"' :: own_name raw := by rw [(List.cons.inj heq).2]; rfl
                _ = init ++ '"' :: (rest ++ '"' :: own_name raw) := by simp
            exact hraw.after hinit
        have hshape : '"' :: rest ++ (head (own_name raw) space stop ++ value ++ tail) =
            '"' :: ((rest ++ '"' :: own_name raw) ++ '"' :: (space ++ ':' :: (stop ++ (value ++ tail)))) := by
          simp [head]
        rw [hshape] at hq
        have hchars := key_char_of_identifier (eq_name_of_mem_ways hinner hq).1
        exact absurd (hchars '"' (by simp)) (by decide)
      · exact ways_eq_nil_of_ne hc
    have hmember := rewrites_member hname hspace hstop hvalue htail
    have hboth := hstart.append hmember
    rw [Nat.zero_add, ← List.append_assoc, ← List.append_assoc, ← hsplit] at hboth
    exact hboth

end Literals

end orchestrator.api
