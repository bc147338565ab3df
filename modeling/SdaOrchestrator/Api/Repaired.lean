import SdaOrchestrator.Api.ScalarMatches

open python backtrack

namespace orchestrator.api

open json (Blank Literal Key Word Written Ends)

/-! ## Bodies with unquoted values -/

/-- A value that stands without quotes: a text of tokens. -/
structure Scalar where
  text : List Char
  scannable : Scannable text

/-- The value between quotes. -/
def Scalar.literal (scalar : Scalar) : Literal where
  raw := scalar.text
  text := scalar.text
  spelled := spelled_of_tokens scalar.scannable.2.2

def Scalar.value (scalar : Scalar) : Value := .str (String.ofList scalar.text)

/-- The text of a literal or number under a key, where the repair takes it for a value without
quotes: what stands after the last quote in the written key is approved for it. -/
def captured (key : Key) (text : List Char) : Bool := approved (own_name key.literal.raw) text

section Bodies

variable {parse_float : List Char → ℚ × String}

/-- A value without quotes under a key that is approved for it and written as it is. -/
def MarkedUnder (key : Key) (value : Written parse_float Scalar) : Prop :=
  ∃ scalar, value = .leaf scalar ∧ key.literal.raw = key.literal.text ∧
    approved key.literal.text scalar.text = true

mutual

/-- Values stand without quotes only under keys that are approved for them. -/
def Marked : Written parse_float Scalar → Prop
  | .word _ | .string _ => True
  | .leaf _ => False
  | .list _ items => MarkedItems items
  | .dict _ entries => MarkedEntries entries

def MarkedItems : List (Blank × Written parse_float Scalar × Blank) → Prop
  | [] => True
  | (_, item, _) :: rest => Marked item ∧ MarkedItems rest

def MarkedEntries : List (Key × Written parse_float Scalar × Blank) → Prop
  | [] => True
  | (key, value, _) :: rest => (MarkedUnder key value ∨ Marked value) ∧ MarkedEntries rest

end

mutual

/-- The number of values without quotes. -/
def unquoted : Written parse_float Scalar → Nat
  | .word _ | .string _ => 0
  | .leaf _ => 1
  | .list _ items => unquotedItems items
  | .dict _ entries => unquotedEntries entries

def unquotedItems : List (Blank × Written parse_float Scalar × Blank) → Nat
  | [] => 0
  | (_, item, _) :: rest => unquoted item + unquotedItems rest

def unquotedEntries : List (Key × Written parse_float Scalar × Blank) → Nat
  | [] => 0
  | (_, value, _) :: rest => unquoted value + unquotedEntries rest

end

mutual

/-- Some literal or number is taken for a value without quotes. -/
def Captured : Written parse_float Scalar → Prop
  | .word _ | .string _ | .leaf _ => False
  | .list _ items => CapturedItems items
  | .dict _ entries => CapturedEntries entries

def CapturedItems : List (Blank × Written parse_float Scalar × Blank) → Prop
  | [] => False
  | (_, item, _) :: rest => Captured item ∨ CapturedItems rest

def CapturedEntries : List (Key × Written parse_float Scalar × Blank) → Prop
  | [] => False
  | (key, value, _) :: rest =>
    ((∃ word, value = .word word ∧ captured key word.text = true) ∨ Captured value) ∨ CapturedEntries rest

end

/-! ## The repaired body -/

/-- The value of an entry, where a captured word becomes a text. -/
def requoted (key : Key) : Written parse_float Empty → Written parse_float Empty
  | .word word =>
    if h : captured key word.text = true then
      .string ⟨word.text, word.text, spelled_of_tokens (scannable_of_approved h).2.2.2⟩
    else .word word
  | value => value

mutual

/-- The body as the repair leaves it. -/
def repaired : Written parse_float Scalar → Written parse_float Empty
  | .word word => .word word
  | .string literal => .string literal
  | .leaf scalar => .string scalar.literal
  | .list inner items => .list inner (repairedItems items)
  | .dict inner entries => .dict inner (repairedEntries entries)

def repairedItems : List (Blank × Written parse_float Scalar × Blank) → List (Blank × Written parse_float Empty × Blank)
  | [] => []
  | (start, item, stop) :: rest => (start, repaired item, stop) :: repairedItems rest

def repairedEntries : List (Key × Written parse_float Scalar × Blank) → List (Key × Written parse_float Empty × Blank)
  | [] => []
  | (key, value, stop) :: rest => (key, requoted key (repaired value), stop) :: repairedEntries rest

end

/-! ## What the repaired body says -/

theorem requoted_eq_word_iff {key : Key} {value : Written parse_float Empty} :
    (requoted key value).value Empty.elim = value.value Empty.elim ↔
      ¬∃ word, value = .word word ∧ captured key word.text = true := by
  cases value with
  | word word =>
    rw [requoted]
    split
    · rename_i hcaptured
      constructor
      · intro heq
        exact absurd heq.symm (json.ne_str_of_read_word word.reads _)
      · intro hnone
        exact absurd ⟨word, rfl, hcaptured⟩ hnone
    · rename_i hcaptured
      refine iff_of_true rfl ?_
      rintro ⟨other, heq, hother⟩
      obtain rfl := Written.word.inj heq
      exact hcaptured hother
  | string literal => exact iff_of_true rfl (by rintro ⟨word, heq, -⟩; cases heq)
  | leaf token => exact token.elim
  | list inner items => exact iff_of_true rfl (by rintro ⟨word, heq, -⟩; cases heq)
  | dict inner entries => exact iff_of_true rfl (by rintro ⟨word, heq, -⟩; cases heq)

theorem repaired_eq_word_iff {value : Written parse_float Scalar} {word : Word parse_float} :
    repaired value = .word word ↔ value = .word word := by
  cases value <;> simp [repaired]

mutual

/-- The repaired body says what the body does if and only if no word in it is captured. -/
theorem value_repaired_iff (written : Written parse_float Scalar) :
    (repaired written).value Empty.elim = written.value Scalar.value ↔ ¬Captured written := by
  cases written with
  | word word => exact iff_of_true rfl id
  | string literal => exact iff_of_true rfl id
  | leaf scalar => exact iff_of_true rfl id
  | list inner items =>
    simp only [repaired, Written.value, Value.list.injEq, Captured]
    exact itemsValue_repaired_iff items
  | dict inner entries =>
    simp only [repaired, Written.value, Value.dict.injEq, Captured]
    exact entriesValue_repaired_iff entries

theorem itemsValue_repaired_iff (items : List (Blank × Written parse_float Scalar × Blank)) :
    Written.itemsValue Empty.elim (repairedItems items) = Written.itemsValue Scalar.value items ↔
      ¬CapturedItems items := by
  cases items with
  | nil => exact iff_of_true rfl id
  | cons first rest =>
    obtain ⟨start, item, stop⟩ := first
    simp only [repairedItems, Written.itemsValue, List.cons.injEq, CapturedItems, not_or]
    exact and_congr (value_repaired_iff item) (itemsValue_repaired_iff rest)

theorem entriesValue_repaired_iff (entries : List (Key × Written parse_float Scalar × Blank)) :
    Written.entriesValue Empty.elim (repairedEntries entries) = Written.entriesValue Scalar.value entries ↔
      ¬CapturedEntries entries := by
  cases entries with
  | nil => exact iff_of_true rfl id
  | cons first rest =>
    obtain ⟨key, value, stop⟩ := first
    simp only [repairedEntries, Written.entriesValue, List.cons.injEq, Prod.mk.injEq, true_and, CapturedEntries,
      not_or]
    refine and_congr ?_ (entriesValue_repaired_iff rest)
    by_cases hword : ∃ word, value = .word word ∧ captured key word.text = true
    · obtain ⟨word, rfl, hcaptured⟩ := hword
      refine iff_of_false ?_ fun hnone => hnone.1 ⟨word, rfl, hcaptured⟩
      intro heq
      exact requoted_eq_word_iff.mp heq ⟨word, rfl, hcaptured⟩
    · have hsame : (requoted key (repaired value)).value Empty.elim = (repaired value).value Empty.elim := by
        rw [requoted_eq_word_iff]
        simpa only [repaired_eq_word_iff] using hword
      rw [hsame, value_repaired_iff value]
      exact (and_iff_right hword).symm

end

theorem keys_repairedEntries (entries : List (Key × Written parse_float Scalar × Blank)) :
    (repairedEntries entries).map (fun entry => entry.1.literal.text) =
      entries.map fun entry => entry.1.literal.text := by
  induction entries with
  | nil => rfl
  | cons first rest ih => rw [repairedEntries, List.map_cons, List.map_cons, ih]

theorem keysDistinct_requoted {key : Key} {value : Written parse_float Empty} (hdistinct : value.KeysDistinct) :
    (requoted key value).KeysDistinct := by
  cases value with
  | word word =>
    rw [requoted]
    split <;> trivial
  | _ => exact hdistinct

mutual

/-- The repair keeps the keys. -/
theorem keysDistinct_repaired (written : Written parse_float Scalar) (hdistinct : written.KeysDistinct) :
    (repaired written).KeysDistinct := by
  cases written with
  | word word => trivial
  | string literal => trivial
  | leaf scalar => trivial
  | list inner items => exact keysDistinct_repairedItems items hdistinct
  | dict inner entries =>
    refine ⟨?_, keysDistinct_repairedEntries entries hdistinct.2⟩
    rw [keys_repairedEntries]
    exact hdistinct.1

theorem keysDistinct_repairedItems (items : List (Blank × Written parse_float Scalar × Blank))
    (hdistinct : Written.KeysDistinctItems items) : Written.KeysDistinctItems (repairedItems items) := by
  cases items with
  | nil => trivial
  | cons first rest =>
    exact ⟨keysDistinct_repaired first.2.1 hdistinct.1, keysDistinct_repairedItems rest hdistinct.2⟩

theorem keysDistinct_repairedEntries (entries : List (Key × Written parse_float Scalar × Blank))
    (hdistinct : Written.KeysDistinctEntries entries) : Written.KeysDistinctEntries (repairedEntries entries) := by
  cases entries with
  | nil => trivial
  | cons first rest =>
    exact ⟨keysDistinct_requoted (keysDistinct_repaired first.2.1 hdistinct.1),
      keysDistinct_repairedEntries rest hdistinct.2⟩

end

/-! ## The text of the repaired body -/

/-- Neither a word nor a colon goes on. -/
def Settled (tail : List Char) : Prop :=
  Ends tail ∧ ∀ space rest, tail = space ++ ':' :: rest → ¬∀ c ∈ space, isSpace c = true

theorem isSpace_of_blank {c : Char} (hc : json.blank c = true) : isSpace c = true := by
  simp only [json.blank, Bool.or_eq_true, decide_eq_true_eq] at hc
  obtain ((rfl | rfl) | rfl) | rfl := hc <;> decide

theorem isSpace_of_mem_blank (start : Blank) : ∀ c ∈ start.text, isSpace c = true :=
  fun c hc => isSpace_of_blank (start.blank c hc)

theorem no_quote_of_blank (start : Blank) : '"' ∉ start.text :=
  fun hmem => absurd (start.blank _ hmem) (by decide)

theorem settled_cons {stop : Blank} {c : Char} {tail : List Char} (hc : json.ends_word c = true)
    (hspace : isSpace c = false) (hcolon : c ≠ ':') : Settled (stop.text ++ c :: tail) := by
  refine ⟨Ends.blank (Ends.cons hc), ?_⟩
  intro space rest heq hall
  obtain ⟨-, rfl, -⟩ := span_inj (isSpace_of_mem_blank stop) hall hspace (by decide) heq
  exact hcolon rfl

theorem key_start_of_ends {tail : List Char} (htail : Ends tail) :
    ∀ c rest, tail = c :: rest → key_start c = false := by
  intro c rest heq
  have hends := htail c rest heq
  rw [← Bool.not_eq_true]
  intro hstart
  have hword : token c = true := by
    have hname : identifier [c] = true := by simp [identifier, hstart]
    have hkey := key_char_of_identifier hname c List.mem_cons_self
    exact token_of_alphanumeric (by decide) hkey
  have hcolon : c ≠ ':' := by
    rintro rfl
    exact absurd hstart (by decide)
  exact absurd (hends.symm.trans (ends_word_of_token hword hcolon)) (by decide)

theorem not_follows_of_settled {tail : List Char} (htail : Settled tail) : ¬Follows tail := by
  rintro ⟨space, stop, value, rest, rfl, hspace, -⟩
  exact htail.2 space _ rfl hspace

/-- A key and its colon stay, unless they start a match. -/
theorem rewrites_key {key : Key} {after : List Char}
    (hnone : identifier (own_name key.literal.raw) = true →
      ¬Follows (key.middle.text ++ ':' :: (key.stop.text ++ after))) :
    Rewrites MERAKI_UNQUOTED_SCALAR replace key.written key.written 0 after := by
  have hafter : key.middle.text ++ ':' :: key.stop.text ++ after = key.middle.text ++ ':' :: (key.stop.text ++ after) := by
    simp
  have hquoted : Rewrites MERAKI_UNQUOTED_SCALAR replace key.literal.quoted key.literal.quoted 0
      (key.middle.text ++ ':' :: key.stop.text ++ after) := by
    rw [hafter]
    refine rewrites_quoted (quotesEscaped_of_spelled key.literal.spelled) ?_ fun h => hnone h.1 h.2
    exact key_start_of_ends (Ends.blank (Ends.cons (by decide)))
  have hcolon : '"' ∉ key.middle.text ++ ':' :: key.stop.text := by
    simp [no_quote_of_blank]
  exact (rewrites_no_quote (no_quote_of_blank key.start)).append (hquoted.append (rewrites_no_quote hcolon))

/-- A word or an unquoted value under a key: it is quoted if it is approved for what stands after
the last quote in the key. -/
theorem rewrites_scalar (key : Key) {text tail : List Char} (hne : text ≠ []) (htext : ∀ c ∈ text, token c = true)
    (htail : Closes tail) :
    Rewrites MERAKI_UNQUOTED_SCALAR replace (key.written ++ text)
      (key.written ++ (if captured key text then '"' :: (text ++ ['"']) else text))
      (if captured key text then 1 else 0) tail := by
  have hquoted : (if captured key text then '"' :: (text ++ ['"']) else text) =
      if approved (own_name key.literal.raw) text then jsonChars (String.ofList text) else text := by
    rw [jsonChars_of_tokens htext, captured]
  by_cases hmatch : identifier (own_name key.literal.raw) = true ∧ Scannable text
  · have hwritten : key.written = key.start.text ++ head key.literal.raw key.middle.text key.stop.text := by
      simp [Key.written, Literal.quoted, head]
    have hnamed := rewrites_named (quotesEscaped_of_spelled key.literal.spelled) hmatch.1
      (isSpace_of_mem_blank key.middle) (isSpace_of_mem_blank key.stop) hmatch.2 htail
    rw [hquoted, hwritten, List.append_assoc, List.append_assoc, captured]
    have hboth := (rewrites_no_quote (no_quote_of_blank key.start)).append hnamed
    rwa [Nat.zero_add] at hboth
  · have hcaptured : ¬captured key text = true := by
      intro hcaptured
      obtain ⟨hname, hscannable⟩ := scannable_of_approved hcaptured
      exact hmatch ⟨hname, hscannable⟩
    rw [if_neg hcaptured, if_neg hcaptured]
    have hkey : Rewrites MERAKI_UNQUOTED_SCALAR replace key.written key.written 0 (text ++ tail) := by
      refine rewrites_key fun hname hfollows => hmatch ⟨hname, ?_⟩
      obtain ⟨space, stop, value, rest, heq, hspace, hstop, hvalue, hrest⟩ := hfollows
      -- the value that a match would read is the text itself
      obtain ⟨-, -, hafter⟩ := span_inj (isSpace_of_mem_blank key.middle) hspace (by decide) (by decide) heq
      obtain ⟨c, word, rfl⟩ := List.exists_cons_of_ne_nil hne
      obtain ⟨d, other, rfl⟩ := List.exists_cons_of_ne_nil hvalue.1
      obtain ⟨-, rfl, hvalues⟩ := span_inj (isSpace_of_mem_blank key.stop) hstop
        (isSpace_of_token (htext c List.mem_cons_self)) (isSpace_of_token (hvalue.2.2 d List.mem_cons_self)) hafter
      obtain ⟨e, tail, rfl, he⟩ := exists_of_closes htail
      obtain ⟨f, tail', rfl, hf⟩ := exists_of_closes hrest
      obtain ⟨rfl, -, -⟩ := span_inj (List.forall_mem_cons.mp htext).2 (List.forall_mem_cons.mp hvalue.2.2).2 he hf
        hvalues
      exact hvalue
    have hplain : '"' ∉ text := fun hmem => absurd (htext _ hmem) (by decide)
    exact hkey.append (rewrites_no_quote hplain)

/-- An opening character under a key is no value that a match reads. -/
theorem rewrites_key_opening {key : Key} {c : Char} {rest : List Char} (hspace : isSpace c = false)
    (htoken : token c = false) : Rewrites MERAKI_UNQUOTED_SCALAR replace key.written key.written 0 (c :: rest) := by
  refine rewrites_key fun _ hfollows => ?_
  obtain ⟨space, stop, value, tail, heq, hblank, hstop, hvalue, -⟩ := hfollows
  obtain ⟨-, -, hafter⟩ := span_inj (isSpace_of_mem_blank key.middle) hblank (by decide) (by decide) heq
  obtain ⟨d, other, rfl⟩ := List.exists_cons_of_ne_nil hvalue.1
  have hd := hvalue.2.2 d List.mem_cons_self
  obtain ⟨-, rfl, -⟩ := span_inj (isSpace_of_mem_blank key.stop) hstop hspace (isSpace_of_token hd) hafter
  exact absurd (hd.symm.trans htoken) (by decide)

theorem closes_blank {stop : Blank} {c : Char} {tail : List Char} (hc : closes c = true) :
    Closes (stop.text ++ c :: tail) :=
  ⟨stop.text, c, tail, rfl, isSpace_of_mem_blank stop, hc⟩

theorem tokens_of_word (word : Word parse_float) : word.text ≠ [] ∧ ∀ c ∈ word.text, token c = true := by
  obtain ⟨hne, hchars⟩ := json.word_chars_of_read_word word.reads
  exact ⟨hne, fun c hc => token_of_alphanumeric (by decide) (hchars c hc)⟩

/-- An approved key that is written as it is stands after its own last quote. -/
theorem captured_of_marked {key : Key} {text : List Char} (hraw : key.literal.raw = key.literal.text)
    (happroved : approved key.literal.text text = true) : captured key text = true := by
  have hquote : '"' ∉ key.literal.text := fun hmem =>
    absurd (key_char_of_identifier (scannable_of_approved happroved).1 _ hmem) (by decide)
  rw [captured, hraw, own_name_of_no_quote hquote]
  exact happroved

theorem settled_items (stop : Blank) (rest : List (Blank × Written parse_float Scalar × Blank)) (tail : List Char) :
    Settled (stop.text ++ Written.itemsText Scalar.text [','] rest ++ ']' :: tail) := by
  rw [List.append_assoc]
  cases rest with
  | nil => exact settled_cons (by decide) (by decide) (by decide)
  | cons second others => exact settled_cons (by decide) (by decide) (by decide)

theorem settled_entries (stop : Blank) (rest : List (Key × Written parse_float Scalar × Blank)) (tail : List Char) :
    Settled (stop.text ++ Written.entriesText Scalar.text [','] rest ++ '\x7d' :: tail) := by
  rw [List.append_assoc]
  cases rest with
  | nil => exact settled_cons (by decide) (by decide) (by decide)
  | cons second others => exact settled_cons (by decide) (by decide) (by decide)

theorem closes_entries (stop : Blank) (rest : List (Key × Written parse_float Scalar × Blank)) (tail : List Char) :
    Closes (stop.text ++ Written.entriesText Scalar.text [','] rest ++ '\x7d' :: tail) := by
  rw [List.append_assoc]
  cases rest with
  | nil => exact closes_blank (by decide)
  | cons second others => exact closes_blank (by decide)

/-- The text of a value that is repaired on its own. -/
theorem requoted_of_marked (key : Key) {value : Written parse_float Scalar} (hmarked : Marked value)
    (hword : ∀ word, value ≠ .word word) :
    requoted key (repaired value) = repaired value ∧
      ∃ c rest, value.text Scalar.text = c :: rest ∧ isSpace c = false ∧ token c = false := by
  cases value with
  | word word => exact absurd rfl (hword word)
  | string literal => exact ⟨rfl, '"', _, rfl, by decide, by decide⟩
  | leaf scalar => exact hmarked.elim
  | list inner items => exact ⟨rfl, '[', _, rfl, by decide, by decide⟩
  | dict inner entries => exact ⟨rfl, '\x7b', _, rfl, by decide, by decide⟩

/-- The text of a word under a key, repaired. -/
theorem text_requoted_word (key : Key) (word : Word parse_float) :
    (requoted key (.word word)).text Empty.elim =
      if captured key word.text then '"' :: (word.text ++ ['"']) else word.text := by
  rw [requoted]
  split
  · rfl
  · rfl

mutual

/-- The pattern rewrites the text of a body to that of the repaired body, with a replacement for
every value without quotes. -/
theorem rewrites_text (written : Written parse_float Scalar) (hmarked : Marked written) {tail : List Char}
    (htail : Settled tail) :
    ∃ count, unquoted written ≤ count ∧ Rewrites MERAKI_UNQUOTED_SCALAR replace (written.text Scalar.text)
      ((repaired written).text Empty.elim) count tail := by
  cases written with
  | word word =>
    have hquote : '"' ∉ word.text := fun hmem => absurd ((tokens_of_word word).2 _ hmem) (by decide)
    exact ⟨0, Nat.le_refl 0, rewrites_no_quote hquote⟩
  | string literal =>
    refine ⟨0, Nat.le_refl 0, ?_⟩
    refine rewrites_quoted (quotesEscaped_of_spelled literal.spelled) (key_start_of_ends htail.1) ?_
    exact fun h => not_follows_of_settled htail h.2
  | leaf scalar => exact hmarked.elim
  | list inner items =>
    obtain ⟨count, hcount, hitems⟩ := rewrites_items items hmarked [] (by decide) tail
    have hopen : '"' ∉ '[' :: inner.text := by simp [no_quote_of_blank]
    have hclose : '"' ∉ [']'] := by decide
    have hboth := (rewrites_no_quote hopen).append (hitems.append (rewrites_no_quote hclose))
    rw [Nat.zero_add, Nat.add_zero] at hboth
    exact ⟨count, hcount, hboth⟩
  | dict inner entries =>
    obtain ⟨count, hcount, hentries⟩ := rewrites_entries entries hmarked [] (by decide) tail
    have hopen : '"' ∉ '\x7b' :: inner.text := by simp [no_quote_of_blank]
    have hclose : '"' ∉ ['\x7d'] := by decide
    have hboth := (rewrites_no_quote hopen).append (hentries.append (rewrites_no_quote hclose))
    rw [Nat.zero_add, Nat.add_zero] at hboth
    exact ⟨count, hcount, hboth⟩

theorem rewrites_items (items : List (Blank × Written parse_float Scalar × Blank)) (hmarked : MarkedItems items)
    (lead : List Char) (hlead : '"' ∉ lead) (tail : List Char) :
    ∃ count, unquotedItems items ≤ count ∧ Rewrites MERAKI_UNQUOTED_SCALAR replace
      (Written.itemsText Scalar.text lead items) (Written.itemsText Empty.elim lead (repairedItems items)) count
      (']' :: tail) := by
  cases items with
  | nil => exact ⟨0, Nat.le_refl 0, Rewrites.nil⟩
  | cons first rest =>
    obtain ⟨start, item, stop⟩ := first
    obtain ⟨count, hcount, hitem⟩ := rewrites_text item hmarked.1 (settled_items stop rest tail)
    obtain ⟨count', hcount', hrest⟩ := rewrites_items rest hmarked.2 [','] (by decide) tail
    refine ⟨count + count', Nat.add_le_add hcount hcount', ?_⟩
    have hboth := (rewrites_no_quote hlead).append ((rewrites_no_quote (no_quote_of_blank start)).append
      (hitem.append ((rewrites_no_quote (no_quote_of_blank stop)).append hrest)))
    simp only [Nat.zero_add] at hboth
    exact hboth

theorem rewrites_entries (entries : List (Key × Written parse_float Scalar × Blank)) (hmarked : MarkedEntries entries)
    (lead : List Char) (hlead : '"' ∉ lead) (tail : List Char) :
    ∃ count, unquotedEntries entries ≤ count ∧ Rewrites MERAKI_UNQUOTED_SCALAR replace
      (Written.entriesText Scalar.text lead entries) (Written.entriesText Empty.elim lead (repairedEntries entries))
      count ('\x7d' :: tail) := by
  cases entries with
  | nil => exact ⟨0, Nat.le_refl 0, Rewrites.nil⟩
  | cons first rest =>
    obtain ⟨key, value, stop⟩ := first
    obtain ⟨count', hcount', hrest⟩ := rewrites_entries rest hmarked.2 [','] (by decide) tail
    have hvalue : ∃ count, unquoted value ≤ count ∧ Rewrites MERAKI_UNQUOTED_SCALAR replace
        (key.written ++ value.text Scalar.text)
        (key.written ++ (requoted key (repaired value)).text Empty.elim) count
        (stop.text ++ Written.entriesText Scalar.text [','] rest ++ '\x7d' :: tail) := by
      by_cases hword : ∃ word, value = .word word
      · obtain ⟨word, rfl⟩ := hword
        obtain ⟨hne, htokens⟩ := tokens_of_word word
        have hscalar := rewrites_scalar key hne htokens
          (closes_entries stop rest tail)
        refine ⟨if captured key word.text then 1 else 0, Nat.zero_le _, ?_⟩
        rw [repaired, text_requoted_word]
        exact hscalar
      · obtain ⟨scalar, rfl, hraw, happroved⟩ | hplain := hmarked.1
        · have hscalar := rewrites_scalar key scalar.scannable.1 scalar.scannable.2.2
            (closes_entries stop rest tail)
          rw [if_pos (captured_of_marked hraw happroved), if_pos (captured_of_marked hraw happroved)] at hscalar
          exact ⟨1, Nat.le_refl 1, hscalar⟩
        · obtain ⟨hsame, c, text, htext, hspace, htoken⟩ := requoted_of_marked key hplain fun word heq => hword ⟨word, heq⟩
          obtain ⟨count, hcount, hrewrites⟩ := rewrites_text value hplain
            (settled_entries stop rest tail)
          refine ⟨count, hcount, ?_⟩
          have hkey : Rewrites MERAKI_UNQUOTED_SCALAR replace key.written key.written 0
              (value.text Scalar.text ++ (stop.text ++ Written.entriesText Scalar.text [','] rest ++ '\x7d' :: tail)) := by
            rw [htext]
            exact rewrites_key_opening hspace htoken
          have hboth := hkey.append hrewrites
          rwa [Nat.zero_add, ← hsame] at hboth
    obtain ⟨count, hcount, hvalue⟩ := hvalue
    refine ⟨count + count', Nat.add_le_add hcount hcount', ?_⟩
    have hboth := (rewrites_no_quote hlead).append
      (hvalue.append ((rewrites_no_quote (no_quote_of_blank stop)).append hrest))
    simp only [Nat.zero_add, List.append_assoc] at hboth
    exact hboth

end

/-! ## The repair -/

/-- A JSON object with some of its values written without quotes. -/
structure Body (parse_float : List Char → ℚ × String) where
  start : Blank
  inner : Blank
  entries : List (Key × Written parse_float Scalar × Blank)
  stop : Blank
  distinct : (Written.dict inner entries).KeysDistinct
  marked : Marked (.dict inner entries)
  nonempty : 0 < unquoted (.dict inner entries)

def Body.written (body : Body parse_float) : Written parse_float Scalar := .dict body.inner body.entries

/-- The request body. -/
def Body.text (body : Body parse_float) : String :=
  String.ofList (body.start.text ++ (body.written.text Scalar.text ++ body.stop.text))

/-- The object that was to be sent. -/
def Body.value (body : Body parse_float) : Value := body.written.value Scalar.value

/-- The repair reads the repaired body. -/
theorem repair_eq (body : Body parse_float) :
    _repair_meraki_unquoted_scalars parse_float body.text = some ((repaired body.written).value Empty.elim) := by
  have hstop : Settled body.stop.text := by
    refine ⟨?_, ?_⟩
    · intro c rest heq
      have hblank := body.stop.blank c (heq ▸ List.mem_cons_self)
      simp [json.ends_word, hblank]
    · intro space rest heq
      have hblank := body.stop.blank ':' (by simp [heq])
      exact absurd hblank (by decide)
  obtain ⟨count, hcount, hrewrites⟩ := rewrites_text body.written body.marked hstop
  have hstart : Rewrites MERAKI_UNQUOTED_SCALAR replace body.start.text body.start.text 0
      (body.written.text Scalar.text ++ body.stop.text ++ []) := rewrites_no_quote (no_quote_of_blank body.start)
  have hend : Rewrites MERAKI_UNQUOTED_SCALAR replace body.stop.text body.stop.text 0 [] :=
    rewrites_no_quote (no_quote_of_blank body.stop)
  have hall := hstart.append (Rewrites.append (by simpa using hrewrites) hend) []
  have hrewritten : rewritten MERAKI_UNQUOTED_SCALAR replace []
      (body.start.text ++ (body.written.text Scalar.text ++ body.stop.text)) =
      (body.start.text ++ ((repaired body.written).text Empty.elim ++ body.stop.text), count) := by
    simpa [rewritten, substitute] using hall
  have hpositive : count ≠ 0 := by
    have hnonempty := body.nonempty
    rw [Body.written] at hcount
    omega
  have hloads : json.loads parse_float
      (body.start.text ++ ((repaired body.written).text Empty.elim ++ body.stop.text)) =
      some ((repaired body.written).value Empty.elim) :=
    json.loads_text Empty.elim Empty.elim (keysDistinct_repaired body.written body.distinct) body.start body.stop
  rw [_repair_meraki_unquoted_scalars, Body.text, chars_eq_toList, String.toList_ofList, hrewritten]
  simp only [hpositive, if_false, hloads]
  rfl

/-- A body that is not valid JSON is repaired to the object that was to be sent if and only if no
literal or number in it is approved for what stands after the last quote in its key. -/
theorem repair_faithful_iff (body : Body parse_float) :
    (json.loads parse_float (chars body.text) = none →
        _repair_meraki_unquoted_scalars parse_float body.text = some body.value) ↔
      (json.loads parse_float (chars body.text)).isSome ∨ ¬Captured body.written := by
  rw [repair_eq, Option.some.injEq, Body.value, value_repaired_iff]
  cases json.loads parse_float (chars body.text) <;> simp

end Bodies

def no_blank : Blank := ⟨[], List.forall_mem_nil _⟩

def plain_key (name : List Char) (hname : ∀ c ∈ name, token c = true) : Key :=
  ⟨no_blank, ⟨name, name, spelled_of_tokens hname⟩, no_blank, no_blank⟩

/-- The body of `change_reference`, a null, and `mode`, where the mode lost its quotes. -/
def null_reference : Body fun text => (0, String.ofList text) where
  start := no_blank
  inner := no_blank
  entries := [
    (plain_key "change_reference".toList (List.all_eq_true.mp (by decide)), .word ⟨"null".toList, .null, rfl⟩, no_blank),
    (plain_key "mode".toList (List.all_eq_true.mp (by decide)), .leaf ⟨"apply".toList, by decide, by decide, List.all_eq_true.mp (by decide)⟩, no_blank)]
  stop := no_blank
  distinct := ⟨by decide, trivial, trivial, trivial⟩
  marked := ⟨.inr trivial, .inl ⟨_, rfl, rfl, by decide⟩, trivial⟩
  nonempty := by decide

/-- The null comes back as a text. -/
theorem null_reference_not_repaired :
    ¬(json.loads (fun text => (0, String.ofList text)) (chars null_reference.text) = none →
      _repair_meraki_unquoted_scalars (fun text => (0, String.ofList text)) null_reference.text =
        some null_reference.value) := by
  intro hrepair
  have hinvalid : (json.loads (fun text => (0, String.ofList text)) (chars null_reference.text)).isNone := by
    decide +kernel
  have hfound := congrArg (Option.map Value.canonical_json) (hrepair (Option.isNone_iff_eq_none.mp hinvalid))
  revert hfound
  decide +kernel

end orchestrator.api
