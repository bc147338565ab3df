import SdaOrchestrator.Lib.Json
import SdaOrchestrator.Lib.Regex

/-! Reading documents: the texts of JSON, written with any white space and any escapes, and what
`json.loads` reads from them. -/

open python regex regex.Regex

namespace json

/-! ## Strings -/

/-- What a backslash and a character stand for. -/
def simple_escape (c : Char) : Option Char :=
  if c = '"' ∨ c = '\\' ∨ c = '/' then some c
  else if c = 'b' then some (Char.ofNat 8)
  else if c = 'f' then some (Char.ofNat 12)
  else if c = 'n' then some '\n'
  else if c = 'r' then some '\r'
  else if c = 't' then some '\t'
  else none

def hex_digit (c : Char) : Option Nat :=
  if '0' ≤ c ∧ c ≤ '9' then some (c.toNat - 48)
  else if 'a' ≤ c ∧ c ≤ 'f' then some (c.toNat - 87)
  else if 'A' ≤ c ∧ c ≤ 'F' then some (c.toNat - 55)
  else none

/-- The code unit of four hexadecimal digits. -/
def code_unit (a b c d : Char) : Option Nat := do
  return (← hex_digit a) * 4096 + (← hex_digit b) * 256 + (← hex_digit c) * 16 + (← hex_digit d)

def high_surrogate (n : Nat) : Bool := 0xd800 ≤ n && n < 0xdc00
def low_surrogate (n : Nat) : Bool := 0xdc00 ≤ n && n < 0xe000

/-- The character of two surrogates. -/
def paired (high low : Nat) : Char := Char.ofNat (0x10000 + (high - 0xd800) * 0x400 + (low - 0xdc00))

/-- The characters up to the closing quote, and what follows it. A surrogate that stands alone
is no character. -/
def read_string : List Char → Option (List Char × List Char)
  | [] => none
  | '"' :: rest => some ([], rest)
  | '\\' :: 'u' :: a :: b :: c :: d :: rest =>
    match code_unit a b c d with
    | none => none
    | some n =>
      if high_surrogate n then
        match rest with
        | '\\' :: 'u' :: e :: f :: g :: h :: rest =>
          match code_unit e f g h with
          | none => none
          | some low =>
            if low_surrogate low then (read_string rest).map fun found => (paired n low :: found.1, found.2)
            else none
        | _ => none
      else if low_surrogate n then none
      else (read_string rest).map fun found => (Char.ofNat n :: found.1, found.2)
  | '\\' :: e :: rest =>
    match simple_escape e with
    | none => none
    | some c => (read_string rest).map fun found => (c :: found.1, found.2)
  | c :: rest => if c.toNat < 32 ∨ c = '\\' then none else (read_string rest).map fun found => (c :: found.1, found.2)

/-- The ways to write a text between quotes. -/
inductive Spelled : List Char → List Char → Prop where
  | nil : Spelled [] []
  | plain {c : Char} {raw text : List Char} (hquote : c ≠ '"') (hbackslash : c ≠ '\\') (hcontrol : ¬c.toNat < 32)
    (hrest : Spelled raw text) : Spelled (c :: raw) (c :: text)
  | escape {e c : Char} {raw text : List Char} (hescape : simple_escape e = some c)
    (hrest : Spelled raw text) : Spelled ('\\' :: e :: raw) (c :: text)
  | unicode {a b c d : Char} {n : Nat} {raw text : List Char} (hunit : code_unit a b c d = some n)
    (hhigh : ¬high_surrogate n) (hlow : ¬low_surrogate n) (hrest : Spelled raw text) :
    Spelled ('\\' :: 'u' :: a :: b :: c :: d :: raw) (Char.ofNat n :: text)
  | pair {a b c d e f g h : Char} {high low : Nat} {raw text : List Char} (hunit : code_unit a b c d = some high)
    (hhigh : high_surrogate high) (hnext : code_unit e f g h = some low) (hlow : low_surrogate low)
    (hrest : Spelled raw text) :
    Spelled ('\\' :: 'u' :: a :: b :: c :: d :: '\\' :: 'u' :: e :: f :: g :: h :: raw) (paired high low :: text)

theorem read_string_of_spelled {raw text rest : List Char} (hspelled : Spelled raw text) :
    read_string (raw ++ '"' :: rest) = some (text, rest) := by
  induction hspelled with
  | nil => rfl
  | plain hquote hbackslash hcontrol _ ih =>
    rw [List.cons_append, read_string.eq_def]
    split
    · rename_i heq
      cases heq
    · rename_i heq
      exact absurd (List.cons.inj heq).1 hquote
    · rename_i heq
      exact absurd (List.cons.inj heq).1 hbackslash
    · rename_i heq
      exact absurd (List.cons.inj heq).1 hbackslash
    · rename_i heq
      obtain ⟨rfl, rfl⟩ := List.cons.inj heq
      rw [if_neg (not_or.mpr ⟨hcontrol, hbackslash⟩), ih]
      rfl
  | escape hescape _ ih =>
    rw [List.cons_append, List.cons_append, read_string.eq_def]
    split
    · rename_i heq
      cases heq
    · rename_i heq
      cases heq
    · rename_i heq
      obtain ⟨-, heq⟩ := List.cons.inj heq
      obtain ⟨rfl, -⟩ := List.cons.inj heq
      cases hescape
    · rename_i heq
      obtain ⟨-, heq⟩ := List.cons.inj heq
      obtain ⟨rfl, rfl⟩ := List.cons.inj heq
      rw [hescape, ih]
      rfl
    · rename_i hother heq
      obtain ⟨rfl, rfl⟩ := List.cons.inj heq
      exact (hother _ _ rfl rfl).elim
  | unicode hunit hhigh hlow _ ih =>
    rename_i a b c d n raw text
    simp only [List.cons_append, read_string, hunit, hhigh, hlow, ih, Option.map_some, Bool.false_eq_true, if_false]
  | pair hunit hhigh hnext hlow _ ih =>
    simp only [List.cons_append, read_string, hunit, hhigh, hnext, hlow, ih, Option.map_some, if_true]

/-! ## Words -/

def digits : Regex := .star (oneOf isAsciiDigit)

def integer : Regex :=
  concat [regex.Regex.optional (literal "-"), .alt (literal "0") (.seq (oneOf fun c => isAsciiDigit c && c ≠ '0') digits)]

def number : Regex :=
  concat [integer, regex.Regex.optional (.seq (literal ".") (.seq (oneOf isAsciiDigit) digits)),
    regex.Regex.optional (concat [oneOf fun c => c = 'e' || c = 'E', regex.Regex.optional (oneOf fun c => c = '-' || c = '+'),
      oneOf isAsciiDigit, digits])]

/-- The white space between the tokens of a document. -/
def blank (c : Char) : Bool := c = ' ' || c = '\t' || c = '\n' || c = '\r'

/-- The characters that end a word. -/
def ends_word (c : Char) : Bool := blank c || Value.delimiter c

/-- A literal or a number. The reading of a float comes from outside. -/
def read_word (parse_float : List Char → ℚ × String) (text : List Char) : Option Value :=
  if text = "null".toList then some .null
  else if text = "true".toList then some (.bool true)
  else if text = "false".toList then some (.bool false)
  else if fullmatch integer (String.ofList text) then (Value.parseInt? (String.ofList text)).map .int
  else if text = "NaN".toList ∨ text = "Infinity".toList ∨ text = "-Infinity".toList ∨
      fullmatch number (String.ofList text) then
    some (.float (parse_float text).1 (parse_float text).2)
  else none

/-- The expression reads no other characters. -/
def Only (accepted : Char → Prop) : Regex → Prop
  | .empty => True
  | .epsilon => True
  | .oneOf accepts => ∀ c, accepts c = true → accepted c
  | .seq first second => Only accepted first ∧ Only accepted second
  | .alt first second => Only accepted first ∧ Only accepted second
  | .star item => Only accepted item

theorem Only.forall_mem {accepted : Char → Prop} {pattern : Regex} {text : List Char} (honly : Only accepted pattern)
    (hmatches : Matches pattern text) : ∀ c ∈ text, accepted c := by
  induction hmatches with
  | epsilon => exact List.forall_mem_nil _
  | oneOf hc => exact List.forall_mem_singleton.mpr (honly _ hc)
  | seq _ _ ihu ihv => exact List.forall_mem_append.mpr ⟨ihu honly.1, ihv honly.2⟩
  | alt_left _ ih => exact ih honly.1
  | alt_right _ ih => exact ih honly.2
  | star_nil => exact List.forall_mem_nil _
  | star_append _ _ ihu ihv => exact List.forall_mem_append.mpr ⟨ihu honly, ihv honly⟩

/-- The characters of literals and numbers. -/
def word_char (c : Char) : Bool := alphanumericOr "+-." c

theorem ends_word_of_word_char {c : Char} (hc : word_char c = true) : ends_word c = false := by
  rw [← Bool.not_eq_true]
  intro hends
  simp only [ends_word, blank, Value.delimiter, Bool.or_eq_true, decide_eq_true_eq] at hends
  obtain ((((rfl | rfl) | rfl) | rfl) | ((((((rfl | rfl) | rfl) | rfl) | rfl) | rfl) | rfl)) := hends <;>
    exact absurd hc (by decide)

theorem word_char_digit {c : Char} (hc : isAsciiDigit c = true) : word_char c = true := by
  simp only [word_char, alphanumericOr, hc, Bool.or_true, Bool.true_or]

theorem only_literal {accepted : Char → Prop} {text : String} (htext : ∀ c ∈ text.toList, accepted c) :
    Only accepted (literal text) := by
  unfold literal
  revert htext
  induction text.toList with
  | nil => exact fun _ => trivial
  | cons c rest ih =>
    intro htext
    obtain ⟨hc, hrest⟩ := List.forall_mem_cons.mp htext
    refine ⟨?_, ih hrest⟩
    intro d hd
    rwa [beq_iff_eq.mp hd]

theorem only_digits : Only (word_char · = true) digits := fun _ => word_char_digit

theorem only_integer : Only (word_char · = true) integer := by
  refine ⟨⟨only_literal (List.all_eq_true.mp (by decide)), trivial⟩, ⟨only_literal (List.all_eq_true.mp (by decide)), ?_, only_digits⟩, trivial⟩
  intro c hc
  exact word_char_digit (Bool.and_eq_true_iff.mp hc).1

theorem only_number : Only (word_char · = true) number := by
  refine ⟨only_integer, ⟨⟨only_literal (List.all_eq_true.mp (by decide)), fun _ => word_char_digit, only_digits⟩, trivial⟩,
    ⟨⟨?_, ⟨?_, trivial⟩, fun _ => word_char_digit, only_digits, trivial⟩, trivial⟩, trivial⟩
  · intro c hc
    simp only [Bool.or_eq_true, decide_eq_true_eq] at hc
    obtain rfl | rfl := hc <;> decide
  · intro c hc
    simp only [Bool.or_eq_true, decide_eq_true_eq] at hc
    obtain rfl | rfl := hc <;> decide

theorem word_chars_of_read_word {parse_float : List Char → ℚ × String} {text : List Char} {value : Value}
    (hread : read_word parse_float text = some value) : text ≠ [] ∧ ∀ c ∈ text, word_char c = true := by
  have hmatch {pattern : Regex} (honly : Only (word_char · = true) pattern)
      (hempty : fullmatch pattern "" = false) (hfull : fullmatch pattern (String.ofList text)) :
      text ≠ [] ∧ ∀ c ∈ text, word_char c = true := by
    refine ⟨?_, ?_⟩
    · rintro rfl
      exact absurd (hfull.symm.trans hempty) (by decide)
    · have hmatches := fullmatch_iff.mp hfull
      rw [String.toList_ofList] at hmatches
      exact honly.forall_mem hmatches
  have hliteral {literal : List Char} (hword : (literal ≠ [] && literal.all word_char) = true) :
      literal ≠ [] ∧ ∀ c ∈ literal, word_char c = true := by
    simp only [Bool.and_eq_true, decide_eq_true_eq, List.all_eq_true] at hword
    exact hword
  unfold read_word at hread
  split at hread
  · subst text
    exact hliteral (by decide)
  split at hread
  · subst text
    exact hliteral (by decide)
  split at hread
  · subst text
    exact hliteral (by decide)
  split at hread
  · exact hmatch only_integer (by decide) ‹_›
  split at hread
  · rename_i hword
    obtain rfl | rfl | rfl | hnumber := hword
    · exact hliteral (by decide)
    · exact hliteral (by decide)
    · exact hliteral (by decide)
    · exact hmatch only_number (by decide) hnumber
  · cases hread

/-- A word has a character, and none that ends one. -/
theorem plain_of_read_word {parse_float : List Char → ℚ × String} {text : List Char} {value : Value}
    (hread : read_word parse_float text = some value) : text ≠ [] ∧ ∀ c ∈ text, ends_word c = false := by
  obtain ⟨hne, hchars⟩ := word_chars_of_read_word hread
  exact ⟨hne, fun c hc => ends_word_of_word_char (hchars c hc)⟩

/-- A word is no text. -/
theorem ne_str_of_read_word {parse_float : List Char → ℚ × String} {text : List Char} {value : Value}
    (hread : read_word parse_float text = some value) (content : String) : value ≠ .str content := by
  rintro rfl
  unfold read_word at hread
  split at hread
  · cases hread
  split at hread
  · cases hread
  split at hread
  · cases hread
  split at hread
  · obtain ⟨number, -, hnumber⟩ := Option.map_eq_some_iff.mp hread
    cases hnumber
  split at hread <;> cases hread

/-! ## Documents -/

/-- White space. -/
structure Blank where
  text : List Char
  blank : ∀ c ∈ text, blank c

/-- A text and the way it is written between quotes. -/
structure Literal where
  raw : List Char
  text : List Char
  spelled : Spelled raw text

/-- The key of an entry, with the white space around it and after its colon. -/
structure Key where
  start : Blank
  literal : Literal
  middle : Blank
  stop : Blank

/-- A literal or a number with what it reads as. -/
structure Word (parse_float : List Char → ℚ × String) where
  text : List Char
  value : Value
  reads : read_word parse_float text = some value

/-- A document as it is written. Its leaves other than words and texts are of the type `ε`. -/
inductive Written (parse_float : List Char → ℚ × String) (ε : Type) where
  | word (word : Word parse_float)
  | string (literal : Literal)
  | leaf (leaf : ε)
  | list (inner : Blank) (items : List (Blank × Written parse_float ε × Blank))
  | dict (inner : Blank) (entries : List (Key × Written parse_float ε × Blank))

variable {parse_float : List Char → ℚ × String} {ε : Type}

def Literal.quoted (literal : Literal) : List Char := '"' :: (literal.raw ++ ['"'])

def Key.written (key : Key) : List Char :=
  key.start.text ++ (key.literal.quoted ++ (key.middle.text ++ (':' :: key.stop.text)))

namespace Written

mutual

/-- The characters of a document. -/
def text (show_leaf : ε → List Char) : Written parse_float ε → List Char
  | .word found => found.text
  | .string content => content.quoted
  | .leaf token => show_leaf token
  | .list inner items => '[' :: (inner.text ++ (itemsText show_leaf [] items ++ [']']))
  | .dict inner entries => '\x7b' :: (inner.text ++ (entriesText show_leaf [] entries ++ ['\x7d']))

/-- The characters of the items of a list, the first of them after `lead`, any other after a comma. -/
def itemsText (show_leaf : ε → List Char) (lead : List Char) :
    List (Blank × Written parse_float ε × Blank) → List Char
  | [] => []
  | (start, item, stop) :: rest =>
    lead ++ (start.text ++ (text show_leaf item ++ (stop.text ++ itemsText show_leaf [','] rest)))

def entriesText (show_leaf : ε → List Char) (lead : List Char) :
    List (Key × Written parse_float ε × Blank) → List Char
  | [] => []
  | (key, value, stop) :: rest =>
    lead ++ (key.written ++ (text show_leaf value ++ (stop.text ++ entriesText show_leaf [','] rest)))

end

mutual

/-- What a document says. -/
def value (read_leaf : ε → Value) : Written parse_float ε → Value
  | .word found => found.value
  | .string content => .str (String.ofList content.text)
  | .leaf token => read_leaf token
  | .list _ items => .list (itemsValue read_leaf items)
  | .dict _ entries => .dict (entriesValue read_leaf entries)

def itemsValue (read_leaf : ε → Value) : List (Blank × Written parse_float ε × Blank) → List Value
  | [] => []
  | (_, item, _) :: rest => value read_leaf item :: itemsValue read_leaf rest

def entriesValue (read_leaf : ε → Value) : List (Key × Written parse_float ε × Blank) → List (String × Value)
  | [] => []
  | (key, item, _) :: rest =>
    (String.ofList key.literal.text, value read_leaf item) :: entriesValue read_leaf rest

end

mutual

/-- No key occurs twice in an object. -/
def KeysDistinct : Written parse_float ε → Prop
  | .word _ | .string _ | .leaf _ => True
  | .list _ items => KeysDistinctItems items
  | .dict _ entries => (entries.map fun entry => entry.1.literal.text).Nodup ∧ KeysDistinctEntries entries

def KeysDistinctItems : List (Blank × Written parse_float ε × Blank) → Prop
  | [] => True
  | (_, item, _) :: rest => KeysDistinct item ∧ KeysDistinctItems rest

def KeysDistinctEntries : List (Key × Written parse_float ε × Blank) → Prop
  | [] => True
  | (_, item, _) :: rest => KeysDistinct item ∧ KeysDistinctEntries rest

end

end Written

/-! ## Reading -/

/-- The text after white space. -/
def skip (text : List Char) : List Char := text.dropWhile blank

mutual

/-- The document at the start of a text, and what follows it. -/
def read_value (parse_float : List Char → ℚ × String) : Nat → List Char → Option (Value × List Char)
  | 0, _ => none
  | _ + 1, '"' :: rest => (read_string rest).map fun found => (.str (String.ofList found.1), found.2)
  | n + 1, '[' :: rest =>
    match skip rest with
    | ']' :: rest => some (.list [], rest)
    | rest => (read_items parse_float n rest).map fun found => (.list found.1, found.2)
  | n + 1, '\x7b' :: rest =>
    match skip rest with
    | '\x7d' :: rest => some (.dict [], rest)
    | rest => (read_entries parse_float n [] rest).map fun found => (.dict found.1, found.2)
  | _ + 1, text =>
    let word := text.takeWhile (!ends_word ·)
    (read_word parse_float word).map fun value => (value, text.drop word.length)

/-- The items of a list from the first one on. -/
def read_items (parse_float : List Char → ℚ × String) : Nat → List Char → Option (List Value × List Char)
  | 0, _ => none
  | n + 1, text =>
    match read_value parse_float n text with
    | none => none
    | some (item, rest) =>
      match skip rest with
      | ',' :: rest => (read_items parse_float n (skip rest)).map fun found => (item :: found.1, found.2)
      | ']' :: rest => some ([item], rest)
      | _ => none

/-- The entries of an object from the next one on, after those found so far. A later entry
replaces the value of an earlier one. -/
def read_entries (parse_float : List Char → ℚ × String) :
    Nat → List (String × Value) → List Char → Option (List (String × Value) × List Char)
  | n + 1, found, '"' :: text =>
    match read_string text with
    | none => none
    | some (key, rest) =>
      match skip rest with
      | ':' :: rest =>
        match read_value parse_float n (skip rest) with
        | none => none
        | some (value, rest) =>
          let found := assoc.set (String.ofList key) value found
          match skip rest with
          | ',' :: rest => read_entries parse_float n found (skip rest)
          | '\x7d' :: rest => some (found, rest)
          | _ => none
      | _ => none
  | _, _, _ => none

end

/-- `json.loads(text)`, or nothing when it raises. -/
def loads (parse_float : List Char → ℚ × String) (text : List Char) : Option Value :=
  match read_value parse_float text.length (skip text) with
  | some (value, rest) => if skip rest = [] then some value else none
  | none => none

/-! ## What is written is read -/

theorem skip_blank (start : Blank) (text : List Char) : skip (start.text ++ text) = skip text := by
  obtain ⟨start, hblank⟩ := start
  induction start with
  | nil => rfl
  | cons c rest ih =>
    obtain ⟨hc, hrest⟩ := List.forall_mem_cons.mp hblank
    calc skip (c :: rest ++ text) = skip (rest ++ text) := List.dropWhile_cons_of_pos hc
      _ = skip text := ih hrest

theorem skip_cons {c : Char} {rest : List Char} (hc : blank c = false) : skip (c :: rest) = c :: rest :=
  List.dropWhile_cons_of_neg (by simp [hc])

/-- What follows is nothing or ends a word. -/
def Ends (tail : List Char) : Prop := ∀ c rest, tail = c :: rest → ends_word c = true

theorem Ends.blank {stop : Blank} {tail : List Char} (htail : Ends tail) : Ends (stop.text ++ tail) := by
  intro c rest heq
  cases htext : stop.text with
  | nil =>
    rw [htext] at heq
    exact htail c rest heq
  | cons d others =>
    rw [htext] at heq
    obtain ⟨rfl, -⟩ := List.cons.inj heq
    have hblank := stop.blank d (htext ▸ List.mem_cons_self)
    simp [ends_word, hblank]

theorem Ends.cons {c : Char} {tail : List Char} (hc : ends_word c = true) : Ends (c :: tail) := by
  intro d rest heq
  rwa [← (List.cons.inj heq).1]

theorem takeWhile_word {text tail : List Char} (htext : ∀ c ∈ text, ends_word c = false) (htail : Ends tail) :
    (text ++ tail).takeWhile (!ends_word ·) = text := by
  rw [List.takeWhile_append_of_pos fun c hc => by simp [htext c hc]]
  cases tail with
  | nil => simp
  | cons c rest => simp [htail c rest rfl]

section Reading

variable (show_leaf : ε → List Char) (read_leaf : ε → Value)

/-- The rest of a list, where an item has been read. -/
def after_item (show_leaf : ε → List Char) (stop : Blank) (rest : List (Blank × Written parse_float ε × Blank))
    (tail : List Char) : List Char :=
  stop.text ++ (Written.itemsText show_leaf [','] rest ++ ']' :: tail)

/-- The rest of an object, where a value has been read. -/
def after_value (show_leaf : ε → List Char) (stop : Blank) (rest : List (Key × Written parse_float ε × Blank))
    (tail : List Char) : List Char :=
  stop.text ++ (Written.entriesText show_leaf [','] rest ++ '\x7d' :: tail)

theorem skip_entriesText {key : Key} {stop : Blank} {value : Written parse_float ε}
    {rest : List (Key × Written parse_float ε × Blank)} {tail : List Char} :
    skip (Written.entriesText show_leaf [] ((key, value, stop) :: rest) ++ '\x7d' :: tail) =
      '"' :: (key.literal.raw ++ '"' :: (key.middle.text ++ ':' :: (key.stop.text ++
        (value.text show_leaf ++ after_value show_leaf stop rest tail)))) := by
  simp only [Written.entriesText, List.nil_append, Key.written, Literal.quoted, List.append_assoc, List.cons_append,
    skip_blank, after_value]
  rw [skip_cons (by decide)]

theorem ends_after_value {stop : Blank} {rest : List (Key × Written parse_float ε × Blank)} {tail : List Char} :
    Ends (after_value show_leaf stop rest tail) := by
  refine Ends.blank ?_
  cases rest with
  | nil => exact Ends.cons (by decide)
  | cons second others => exact Ends.cons (by decide)

theorem ends_after_item {stop : Blank} {rest : List (Blank × Written parse_float ε × Blank)} {tail : List Char} :
    Ends (after_item show_leaf stop rest tail) := by
  refine Ends.blank ?_
  cases rest with
  | nil => exact Ends.cons (by decide)
  | cons second others => exact Ends.cons (by decide)

theorem set_of_new {key : String} {value : Value} {entries : List (String × Value)}
    (hnew : key ∉ entries.map Prod.fst) : assoc.set key value entries = entries ++ [(key, value)] := by
  induction entries with
  | nil => rfl
  | cons entry rest ih =>
    rw [List.map_cons, List.mem_cons, not_or] at hnew
    rw [assoc.set, if_neg (Ne.symm hnew.1), ih hnew.2, List.cons_append]

variable [IsEmpty ε]

/-- A document starts with a character that is neither white space nor a closing bracket. -/
theorem exists_text_eq_cons (written : Written parse_float ε) :
    ∃ c rest, written.text show_leaf = c :: rest ∧ blank c = false ∧ c ≠ ']' ∧ c ≠ '\x7d' := by
  cases written with
  | word found =>
    obtain ⟨hne, hplain⟩ := plain_of_read_word found.reads
    obtain ⟨c, rest, heq⟩ := List.exists_cons_of_ne_nil hne
    have hc := hplain c (heq ▸ List.mem_cons_self)
    rw [ends_word, Bool.or_eq_false_iff] at hc
    refine ⟨c, rest, by rw [Written.text, heq], hc.1, ?_, ?_⟩ <;> (rintro rfl; exact absurd hc.2 (by decide))
  | string content => exact ⟨'"', _, by rw [Written.text, Literal.quoted], by decide⟩
  | leaf token => exact isEmptyElim token
  | list inner items => exact ⟨'[', _, by rw [Written.text], by decide⟩
  | dict inner entries => exact ⟨'\x7b', _, by rw [Written.text], by decide⟩

theorem read_value_word {n : Nat} {text tail : List Char} (hne : text ≠ [])
    (htext : ∀ c ∈ text, ends_word c = false) (htail : Ends tail) :
    read_value parse_float (n + 1) (text ++ tail) = (read_word parse_float text).map fun value => (value, tail) := by
  obtain ⟨c, rest, rfl⟩ := List.exists_cons_of_ne_nil hne
  have hc := htext c List.mem_cons_self
  rw [read_value]
  · simp only [takeWhile_word htext htail, List.drop_left]
  · rintro _ heq
    obtain ⟨rfl, -⟩ := List.cons.inj heq
    exact absurd hc (by decide)
  · rintro _ heq
    obtain ⟨rfl, -⟩ := List.cons.inj heq
    exact absurd hc (by decide)
  · rintro _ heq
    obtain ⟨rfl, -⟩ := List.cons.inj heq
    exact absurd hc (by decide)

theorem skip_itemsText {start stop : Blank} {item : Written parse_float ε}
    {rest : List (Blank × Written parse_float ε × Blank)} {tail : List Char} :
    skip (Written.itemsText show_leaf [] ((start, item, stop) :: rest) ++ ']' :: tail) =
      item.text show_leaf ++ after_item show_leaf stop rest tail := by
  obtain ⟨c, others, htext, hc, -⟩ := exists_text_eq_cons show_leaf item
  rw [Written.itemsText, List.nil_append, List.append_assoc, List.append_assoc, List.append_assoc, skip_blank,
    htext, List.cons_append, skip_cons hc]
  rfl

mutual

/-- What `json.loads` reads from a document that is written in any way is the document. -/
theorem read_value_text (written : Written parse_float ε) (hdistinct : written.KeysDistinct) {n : Nat}
    {tail : List Char} (hn : (written.text show_leaf).length ≤ n) (htail : Ends tail) :
    read_value parse_float n (written.text show_leaf ++ tail) = some (written.value read_leaf, tail) := by
  obtain ⟨n, rfl⟩ : ∃ m, n = m + 1 := by
    obtain ⟨c, rest, heq, -⟩ := exists_text_eq_cons show_leaf written
    rw [heq, List.length_cons] at hn
    exact ⟨n - 1, by omega⟩
  cases written with
  | word found =>
    obtain ⟨hne, hplain⟩ := plain_of_read_word found.reads
    rw [Written.text, read_value_word hne hplain htail, found.reads]
    rfl
  | string content =>
    rw [Written.text, Literal.quoted, List.cons_append, List.append_assoc, read_value,
      List.singleton_append, read_string_of_spelled content.spelled]
    rfl
  | leaf token => exact isEmptyElim token
  | list inner items =>
    rw [Written.text, List.length_cons, List.length_append, List.length_append] at hn
    rw [Written.text, List.cons_append, List.append_assoc, List.append_assoc, List.singleton_append, read_value,
      skip_blank]
    cases items with
    | nil =>
      rw [Written.itemsText, List.nil_append, skip_cons (by decide)]
      rfl
    | cons first rest =>
      have hread := read_items_text (first :: rest) hdistinct (n := n) tail (List.cons_ne_nil _ _)
        (by simp only [List.length_singleton] at hn; omega)
      obtain ⟨start, item, stop⟩ := first
      obtain ⟨c, others, htext, -, hc, -⟩ := exists_text_eq_cons show_leaf item
      rw [skip_itemsText show_leaf, htext, List.cons_append] at hread ⊢
      split
      · rename_i heq
        exact absurd (List.cons.inj heq).1 hc
      · rw [hread]
        rfl
  | dict inner entries =>
    rw [Written.text, List.length_cons, List.length_append, List.length_append] at hn
    rw [Written.text, List.cons_append, List.append_assoc, List.append_assoc, List.singleton_append, read_value,
      skip_blank]
    cases entries with
    | nil =>
      rw [Written.entriesText, List.nil_append, skip_cons (by decide)]
      rfl
    | cons first rest =>
      have hread := read_entries_text (first :: rest) hdistinct.2 hdistinct.1 [] (List.forall_mem_nil _)
        (n := n) tail (List.cons_ne_nil _ _) (by simp only [List.length_singleton] at hn; omega)
      obtain ⟨key, value, stop⟩ := first
      rw [skip_entriesText show_leaf] at hread ⊢
      split
      · rename_i heq
        exact absurd (List.cons.inj heq).1 (by decide)
      · rw [hread]
        rfl

theorem read_items_text (items : List (Blank × Written parse_float ε × Blank))
    (hdistinct : Written.KeysDistinctItems items) {n : Nat} (tail : List Char) (hne : items ≠ [])
    (hn : (Written.itemsText show_leaf [] items).length + 1 ≤ n) :
    read_items parse_float n (skip (Written.itemsText show_leaf [] items ++ ']' :: tail)) =
      some (Written.itemsValue read_leaf items, tail) := by
  obtain ⟨n, rfl⟩ : ∃ m, n = m + 1 := ⟨n - 1, by omega⟩
  cases items with
  | nil => exact absurd rfl hne
  | cons first rest =>
    obtain ⟨start, item, stop⟩ := first
    simp only [Written.itemsText, List.nil_append, List.length_append] at hn
    rw [skip_itemsText show_leaf, read_items, read_value_text item hdistinct.1 (by omega) (ends_after_item show_leaf)]
    simp only [after_item, skip_blank]
    cases rest with
    | nil =>
      rw [Written.itemsText, List.nil_append, skip_cons (by decide)]
      rfl
    | cons second others =>
      have hcomma : Written.itemsText show_leaf [','] (second :: others) =
          ',' :: Written.itemsText show_leaf [] (second :: others) := rfl
      rw [hcomma, List.length_cons] at hn
      rw [hcomma, List.cons_append, skip_cons (by decide)]
      have hread := read_items_text (second :: others) hdistinct.2 (n := n) tail (List.cons_ne_nil _ _)
        (by omega)
      simp only [hread]
      rfl

theorem read_entries_text (entries : List (Key × Written parse_float ε × Blank))
    (hdistinct : Written.KeysDistinctEntries entries)
    (hnodup : (entries.map fun entry => entry.1.literal.text).Nodup) (found : List (String × Value))
    (hnew : ∀ entry ∈ found, entry.1 ∉ entries.map fun entry => String.ofList entry.1.literal.text)
    {n : Nat} (tail : List Char) (hne : entries ≠ [])
    (hn : (Written.entriesText show_leaf [] entries).length + 1 ≤ n) :
    read_entries parse_float n found (skip (Written.entriesText show_leaf [] entries ++ '\x7d' :: tail)) =
      some (found ++ Written.entriesValue read_leaf entries, tail) := by
  obtain ⟨n, rfl⟩ : ∃ m, n = m + 1 := ⟨n - 1, by omega⟩
  cases entries with
  | nil => exact absurd rfl hne
  | cons first rest =>
    obtain ⟨key, value, stop⟩ := first
    simp only [Written.entriesText, List.nil_append, List.length_append] at hn
    obtain ⟨c, others, htext, hc, -⟩ := exists_text_eq_cons show_leaf value
    have hskip : skip (value.text show_leaf ++ after_value show_leaf stop rest tail) =
        value.text show_leaf ++ after_value show_leaf stop rest tail := by
      rw [htext, List.cons_append, skip_cons hc]
    have hset : assoc.set (String.ofList key.literal.text) (value.value read_leaf) found =
        found ++ [(String.ofList key.literal.text, value.value read_leaf)] := by
      refine set_of_new fun hmem => ?_
      obtain ⟨entry, hentry, heq⟩ := List.mem_map.mp hmem
      exact hnew entry hentry (heq ▸ List.mem_cons_self)
    rw [skip_entriesText show_leaf, read_entries, read_string_of_spelled key.literal.spelled]
    simp only [skip_blank]
    rw [skip_cons (by decide)]
    simp only [skip_blank, hskip]
    rw [read_value_text value hdistinct.1 (by omega) (ends_after_value show_leaf)]
    simp only [hset, after_value, skip_blank]
    cases rest with
    | nil =>
      rw [Written.entriesText, List.nil_append, skip_cons (by decide)]
      rfl
    | cons second others =>
      have hcomma : Written.entriesText show_leaf [','] (second :: others) =
          ',' :: Written.entriesText show_leaf [] (second :: others) := rfl
      rw [hcomma, List.length_cons] at hn
      rw [hcomma, List.cons_append, skip_cons (by decide)]
      rw [List.map_cons, List.nodup_cons] at hnodup
      have hread := read_entries_text (second :: others) hdistinct.2 hnodup.2
        (found ++ [(String.ofList key.literal.text, value.value read_leaf)]) ?_ (n := n) tail
        (List.cons_ne_nil _ _) (by omega)
      · simp only [hread, List.append_assoc]
        rfl
      · intro entry hentry hmem
        obtain hentry | hentry := List.mem_append.mp hentry
        · exact hnew entry hentry (List.mem_cons_of_mem _ hmem)
        · rw [List.mem_singleton.mp hentry] at hmem
          obtain ⟨other, hother, heq⟩ := List.mem_map.mp hmem
          refine hnodup.1 (List.mem_map.mpr ⟨other, hother, ?_⟩)
          exact String.ofList_injective heq

end

/-- A document between white space is read as a whole. -/
theorem loads_text {written : Written parse_float ε} (hdistinct : written.KeysDistinct) (start stop : Blank) :
    loads parse_float (start.text ++ (written.text show_leaf ++ stop.text)) = some (written.value read_leaf) := by
  obtain ⟨c, others, htext, hc, -⟩ := exists_text_eq_cons show_leaf written
  have hskip : skip (written.text show_leaf ++ stop.text) = written.text show_leaf ++ stop.text := by
    rw [htext, List.cons_append, skip_cons hc]
  have hstop : Ends stop.text := by
    intro d rest heq
    simp [ends_word, stop.blank d (heq ▸ List.mem_cons_self)]
  have hend : skip stop.text = [] := by
    rw [← List.append_nil stop.text, skip_blank]
    rfl
  rw [loads, skip_blank, hskip, read_value_text show_leaf read_leaf written hdistinct (by simp; omega) hstop]
  simp only [hend, if_true]

end Reading

end json
