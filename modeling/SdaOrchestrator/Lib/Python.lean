import Mathlib.Data.List.Dedup
import Mathlib.Data.List.Infix
import Mathlib.Data.List.Sort
import Mathlib.Data.String.Basic
import Mathlib.Data.Rat.Floor
import SdaOrchestrator.Lib.Assoc

namespace python

/-- An exception in flight: the name of its class and its text. -/
structure Raised where
  type_name : String
  message : String
  deriving DecidableEq, Repr, Inhabited

/-- A computation that returns a value or raises. -/
abbrev Py := Except Raised

def KeyError (key : String) : Raised := ⟨"KeyError", key⟩
def TypeError (message : String) : Raised := ⟨"TypeError", message⟩
def ValueError (message : String) : Raised := ⟨"ValueError", message⟩
def IndexError (message : String) : Raised := ⟨"IndexError", message⟩
def AttributeError (message : String) : Raised := ⟨"AttributeError", message⟩

/-- `if condition: raise exception`. -/
def raise_if (condition : Bool) (exception : Raised) : Py Unit :=
  if condition then .error exception else .ok ()

@[simp] theorem raise_if_eq_ok {condition : Bool} {exception : Raised} {u : Unit} :
    raise_if condition exception = .ok u ↔ condition = false := by
  cases condition <;> simp [raise_if]

theorem bind_eq_ok_iff {α β : Type} {x : Py α} {f : α → Py β} {y : β} :
    (x >>= f) = .ok y ↔ ∃ a, x = .ok a ∧ f a = .ok y := by
  cases x <;> simp [Bind.bind, Except.bind]

/-- A guard followed by the rest of a function. -/
@[simp] theorem raise_if_bind_eq_ok_iff {α : Type} {condition : Bool} {exception : Raised}
    {f : Unit → Py α} {y : α} :
    (raise_if condition exception >>= f) = .ok y ↔ condition = false ∧ f () = .ok y := by
  cases condition <;> simp [raise_if, Bind.bind, Except.bind]

@[simp] theorem pure_eq_ok_iff {α : Type} {a b : α} : (pure a : Py α) = .ok b ↔ a = b := by
  simp [pure, Except.pure]

@[simp] theorem error_ne_ok {α : Type} {exception : Raised} {a : α} :
    (Except.error exception : Py α) ≠ .ok a := by
  intro h
  cases h

/-- The computation raises nothing. -/
theorem isOk_iff {α : Type} {result : Py α} : result.isOk ↔ ∃ value, result = .ok value := by
  cases result <;> simp [Except.isOk, Except.toBool]

/-- What holds of the value of a computation that raises nothing. -/
theorem exists_ok_of_map {α β : Type} {result : Py α} {f : α → β} {found : β}
    (hmap : result.toOption.map f = some found) : ∃ value, result = .ok value ∧ f value = found := by
  cases result with
  | error exception => cases hmap
  | ok value => exact ⟨value, rfl, Option.some.inj hmap⟩

/-! ## Texts -/

/-- The code points of the decimal digit zero in every script. -/
private def decimalZeros : List Nat :=
  [48, 1632, 1776, 1984, 2406, 2534, 2662, 2790, 2918, 3046, 3174, 3302, 3430, 3558, 3664, 3792,
    3872, 4160, 4240, 6112, 6160, 6470, 6608, 6784, 6800, 6992, 7088, 7232, 7248, 42528, 43216,
    43264, 43472, 43504, 43600, 44016, 65296, 66720, 68912, 69734, 69872, 69942, 70096, 70384,
    70736, 70864, 71248, 71360, 71472, 71904, 72016, 72784, 73040, 73120, 92768, 92864, 93008,
    120782, 120792, 120802, 120812, 120822, 123200, 123632, 125264, 130032]

/-- The value of a decimal digit; `\d` of a text pattern matches these characters. -/
def digitValue? (c : Char) : Option Nat :=
  (decimalZeros.find? fun start => start ≤ c.toNat ∧ c.toNat < start + 10).map (c.toNat - ·)

/-- `c.isspace()`. -/
def isSpace (c : Char) : Bool :=
  let n := c.toNat
  (9 ≤ n ∧ n ≤ 13) ∨ (28 ≤ n ∧ n ≤ 32) ∨ n = 0x85 ∨ n = 0xa0 ∨ n = 0x1680 ∨
    (0x2000 ≤ n ∧ n ≤ 0x200a) ∨ n = 0x2028 ∨ n = 0x2029 ∨ n = 0x202f ∨ n = 0x205f ∨ n = 0x3000

/-- `list(text)`. A text of one-byte characters is read off its bytes. -/
def chars (text : String) : List Char :=
  let bytes := text.toByteArray.data.toList.map UInt8.toNat
  if bytes.all (Nat.blt · 128) then bytes.map Char.ofNat else text.toList

/-- A character whose bytes are all below 128 is its only byte. -/
private theorem map_utf8EncodeChar {c : Char}
    (hc : ∀ b ∈ String.utf8EncodeChar c, b.toNat < 128) :
    (String.utf8EncodeChar c).map (fun b => Char.ofNat b.toNat) = [c] := by
  have hval : c.val.toNat = c.toNat := rfl
  simp only [String.utf8EncodeChar, hval] at hc ⊢
  by_cases hsmall : c.toNat ≤ 127
  · have hbyte : c.toNat % 256 = c.toNat := by omega
    simp [hsmall, hbyte]
  · rw [if_neg hsmall] at hc
    -- the first byte of a longer encoding is at least 192
    split at hc
    · have hfirst := hc _ List.mem_cons_self
      simp only [UInt8.toNat_ofNat'] at hfirst
      omega
    · split at hc
      · have hfirst := hc _ List.mem_cons_self
        simp only [UInt8.toNat_ofNat'] at hfirst
        omega
      · have hfirst := hc _ List.mem_cons_self
        simp only [UInt8.toNat_ofNat'] at hfirst
        omega

private theorem map_utf8Encode {text : List Char}
    (htext : ∀ b ∈ text.flatMap String.utf8EncodeChar, b.toNat < 128) :
    (text.flatMap String.utf8EncodeChar).map (fun b => Char.ofNat b.toNat) = text := by
  induction text with
  | nil => rfl
  | cons c rest ih =>
    rw [List.flatMap_cons, List.forall_mem_append] at htext
    rw [List.flatMap_cons, List.map_append, map_utf8EncodeChar htext.1, ih htext.2]
    rfl

@[simp] theorem chars_eq_toList (text : String) : chars text = text.toList := by
  simp only [chars]
  split
  · rename_i hascii
    have hbytes : text.toByteArray.data.toList = text.toList.flatMap String.utf8EncodeChar := by
      rw [← congrArg String.toByteArray (String.ofList_toList : String.ofList text.toList = text), String.toByteArray_ofList]
      simp [List.utf8Encode]
    rw [hbytes, List.map_map]
    apply map_utf8Encode
    intro b hb
    have hlt := List.all_eq_true.mp hascii b.toNat (List.mem_map_of_mem (hbytes ▸ hb))
    simpa using hlt
  · rfl

/-- `len(text)`. -/
def len (text : String) : Nat := (chars text).length

@[simp] theorem len_eq_length (text : String) : len text = text.length := by
  rw [len, chars_eq_toList, String.length_toList]

private def stripChars (text : List Char) : List Char :=
  ((text.dropWhile isSpace).reverse.dropWhile isSpace).reverse

/-- `text.strip()`. -/
def strip (text : String) : String := String.ofList (stripChars (chars text))

/-- `text.startswith(start)`. -/
def startswith (text start : String) : Bool := (chars start).isPrefixOf (chars text)

/-- `text.endswith(tail)`. -/
def endswith (text tail : String) : Bool := (chars tail).isSuffixOf (chars text)

/-- `part in text`. -/
def contains (part : String) (text : String) : Bool :=
  (chars text).tails.any fun tail => (chars part).isPrefixOf tail

theorem contains_iff {part text : String} : contains part text ↔ part.toList <:+: text.toList := by
  rw [contains, List.any_eq_true, List.infix_iff_prefix_suffix]
  simp only [chars_eq_toList, List.mem_tails, List.isPrefixOf_iff_prefix]
  exact exists_congr fun tail => and_comm

/-- `text[:n]`. -/
def take (n : Nat) (text : String) : String := String.ofList ((chars text).take n)

/-- `text[start:]`. -/
def drop (n : Nat) (text : String) : String := String.ofList ((chars text).drop n)

/-- `separator.join(items)`. -/
def join (separator : String) (items : List String) : String := separator.intercalate items

private def hexDigit (n : Nat) : Char :=
  if n < 10 then Char.ofNat ('0'.toNat + n) else Char.ofNat ('a'.toNat + (n - 10))

private def escapeChar (quote c : Char) : List Char :=
  if c = '\\' then ['\\', '\\']
  else if c = quote then ['\\', c]
  else if c = '\n' then ['\\', 'n']
  else if c = '\r' then ['\\', 'r']
  else if c = '\t' then ['\\', 't']
  else if c.toNat < 32 ∨ c.toNat = 127 then
    ['\\', 'x', hexDigit (c.toNat / 16), hexDigit (c.toNat % 16)]
  else [c]

/-- `repr(text)`: single quotes unless the text holds only single ones. -/
def reprText (text : String) : String :=
  let content := chars text
  let quote := if '\'' ∈ content ∧ '"' ∉ content then '"' else '\''
  String.ofList (quote :: (content.flatMap (escapeChar quote) ++ [quote]))

private def unicodeEscape (n : Nat) : List Char :=
  ['\\', 'u', hexDigit (n / 4096), hexDigit (n / 256 % 16), hexDigit (n / 16 % 16), hexDigit (n % 16)]

private def jsonChar (c : Char) : List Char :=
  let n := c.toNat
  if c = '"' ∨ c = '\\' then ['\\', c]
  else if c = '\n' then ['\\', 'n']
  else if c = '\r' then ['\\', 'r']
  else if c = '\t' then ['\\', 't']
  else if n = 8 then ['\\', 'b']
  else if n = 12 then ['\\', 'f']
  else if 32 ≤ n ∧ n < 127 then [c]
  else if n < 0x10000 then unicodeEscape n
  -- a surrogate pair
  else unicodeEscape (0xd800 + (n - 0x10000) / 1024) ++ unicodeEscape (0xdc00 + (n - 0x10000) % 1024)

/-- `json.dumps(text, ensure_ascii=True)`, as characters. -/
def jsonChars (text : String) : List Char :=
  '"' :: ((chars text).flatMap jsonChar ++ ['"'])

private def hexValue (c : Char) : Nat := if c.toNat < 58 then c.toNat - 48 else c.toNat - 87

/-- The code unit of an escape, and what follows it. -/
private def readEscape : List Char → Option (Nat × List Char)
  | '\\' :: 'u' :: a :: b :: c :: d :: rest =>
    some (hexValue a * 4096 + hexValue b * 256 + hexValue c * 16 + hexValue d, rest)
  | _ => none

/-- The character that a text of `json.dumps` goes on with, and what follows it. -/
private def readChar (text : List Char) : Option (Char × List Char) :=
  match readEscape text with
  | some (n, rest) =>
    if 0xd800 ≤ n ∧ n < 0xdc00 then
      (readEscape rest).map fun low => (Char.ofNat (0x10000 + (n - 0xd800) * 1024 + (low.1 - 0xdc00)), low.2)
    else some (Char.ofNat n, rest)
  | none =>
    match text with
    | '\\' :: 'n' :: rest => some ('\n', rest)
    | '\\' :: 'r' :: rest => some ('\r', rest)
    | '\\' :: 't' :: rest => some ('\t', rest)
    | '\\' :: 'b' :: rest => some (Char.ofNat 8, rest)
    | '\\' :: 'f' :: rest => some (Char.ofNat 12, rest)
    | '\\' :: c :: rest => some (c, rest)
    | c :: rest => some (c, rest)
    | [] => none

private theorem readEscape_unicodeEscape {n : Nat} (hn : n < 0x10000) (rest : List Char) :
    readEscape (unicodeEscape n ++ rest) = some (n, rest) := by
  have hdigit : ∀ n < 16, hexValue (hexDigit n) = n := by decide
  simp only [unicodeEscape, List.cons_append, List.nil_append, readEscape, Option.some.injEq, Prod.mk.injEq,
    and_true]
  rw [hdigit _ (by omega), hdigit _ (by omega), hdigit _ (by omega), hdigit _ (by omega)]
  omega

private theorem readChar_jsonChar (c : Char) (rest : List Char) :
    readChar (jsonChar c ++ rest) = some (c, rest) := by
  have hc : Char.ofNat c.toNat = c := Char.ofNat_toNat c
  have hvalid : c.toNat < 0xd800 ∨ 0xdfff < c.toNat ∧ c.toNat < 0x110000 := c.valid
  unfold jsonChar
  extract_lets n
  split
  · obtain rfl | rfl := ‹_› <;> rfl
  split
  · subst c
    rfl
  split
  · subst c
    rfl
  split
  · subst c
    rfl
  split
  · rename_i hn
    rw [← hc, show c.toNat = 8 from hn]
    rfl
  split
  · rename_i hn
    rw [← hc, show c.toNat = 12 from hn]
    rfl
  split
  · rename_i hquote _ _ _ _ _ _
    rw [not_or] at hquote
    have hescape : readEscape ([c] ++ rest) = none := by
      unfold readEscape
      split
      · rename_i heq
        exact absurd (List.cons.inj heq).1 hquote.2
      · rfl
    unfold readChar
    rw [hescape]
    simp only [List.cons_append, List.nil_append]
    split <;> simp_all
  split
  · rename_i hn
    unfold readChar
    rw [readEscape_unicodeEscape hn]
    simp only
    rw [if_neg (by omega), show n = c.toNat from rfl, hc]
  · rename_i hn
    unfold readChar
    rw [List.append_assoc, readEscape_unicodeEscape (by omega)]
    simp only
    rw [if_pos (by omega), readEscape_unicodeEscape (by omega)]
    simp only [Option.map_some, Option.some.injEq, Prod.mk.injEq, and_true]
    have hpair : 0x10000 + (0xd800 + (n - 0x10000) / 1024 - 0xd800) * 1024 +
        (0xdc00 + (n - 0x10000) % 1024 - 0xdc00) = c.toNat := by
      omega
    rw [hpair, hc]

private theorem jsonChar_ne_quote (c : Char) (rest tail : List Char) : jsonChar c ++ rest ≠ '"' :: tail := by
  intro heq
  have hread := readChar_jsonChar c rest
  rw [heq] at hread
  have hc : '"' = c := (Prod.mk.inj (Option.some.inj hread)).1
  subst hc
  cases (List.cons.inj heq).1

/-- The text of a string says where it ends. -/
theorem jsonChars_append_inj {first second : String} {rest tail : List Char}
    (heq : jsonChars first ++ rest = jsonChars second ++ tail) : first = second ∧ rest = tail := by
  suffices hchars : ∀ content other : List Char,
      content.flatMap jsonChar ++ '"' :: rest = other.flatMap jsonChar ++ '"' :: tail →
        content = other ∧ rest = tail by
    have hcontent : (chars first).flatMap jsonChar ++ '"' :: rest =
        (chars second).flatMap jsonChar ++ '"' :: tail := by
      simpa [jsonChars] using heq
    obtain ⟨hsame, hrest⟩ := hchars _ _ hcontent
    rw [chars_eq_toList, chars_eq_toList] at hsame
    exact ⟨String.toList_injective hsame, hrest⟩
  intro content
  induction content with
  | nil =>
    intro other heq
    cases other with
    | nil => exact ⟨rfl, (List.cons.inj heq).2⟩
    | cons d other =>
      rw [List.flatMap_cons, List.append_assoc] at heq
      exact absurd heq.symm (jsonChar_ne_quote d _ _)
  | cons c content ih =>
    intro other heq
    cases other with
    | nil =>
      rw [List.flatMap_cons, List.append_assoc] at heq
      exact absurd heq (jsonChar_ne_quote c _ _)
    | cons d other =>
      rw [List.flatMap_cons, List.append_assoc, List.flatMap_cons, List.append_assoc] at heq
      have hread := congrArg readChar heq
      rw [readChar_jsonChar, readChar_jsonChar] at hread
      obtain ⟨rfl, htail⟩ := Prod.mk.inj (Option.some.inj hread)
      obtain ⟨rfl, hrest⟩ := ih _ htail
      exact ⟨rfl, hrest⟩

/-! ## Sorting -/

/-- `sorted(items, key=key)`: stable, ascending. -/
def sortedBy {α κ : Type*} [LinearOrder κ] (key : α → κ) (items : List α) : List α :=
  items.insertionSort fun a b => key a ≤ key b

theorem mem_sortedBy {α κ : Type*} [LinearOrder κ] {key : α → κ} {items : List α} {x : α} :
    x ∈ sortedBy key items ↔ x ∈ items :=
  (List.perm_insertionSort _ items).mem_iff

theorem pairwise_sortedBy {α κ : Type*} [LinearOrder κ] (key : α → κ) (items : List α) :
    (sortedBy key items).Pairwise fun first second => key first ≤ key second := by
  have : Std.Total fun first second : α => key first ≤ key second := ⟨fun first second => le_total _ _⟩
  have : IsTrans α fun first second => key first ≤ key second := ⟨fun _ _ _ => le_trans⟩
  exact List.pairwise_insertionSort _ items

/-- `sorted(items)` of texts. -/
def sortedTexts (items : List String) : List String :=
  sortedBy id items

theorem sortedTexts_nodup {items : List String} (hnodup : items.Nodup) :
    (sortedTexts items).Nodup :=
  (List.perm_insertionSort _ items).nodup_iff.mpr hnodup

/-- `sorted(set(items))` of texts. -/
def sortedSet (items : List String) : List String :=
  sortedTexts items.dedup

@[simp] theorem mem_sortedTexts {items : List String} {text : String} :
    text ∈ sortedTexts items ↔ text ∈ items :=
  mem_sortedBy

@[simp] theorem mem_sortedSet {items : List String} {text : String} :
    text ∈ sortedSet items ↔ text ∈ items := by
  rw [sortedSet, mem_sortedTexts, List.mem_dedup]

theorem sortedSet_nodup (items : List String) : (sortedSet items).Nodup :=
  sortedTexts_nodup (List.nodup_dedup items)

/-! ## Documents -/

/-- A document value, as `json.loads` and `yaml.safe_load` build them. A float
carries the text `repr` prints for it next to its value. -/
inductive Value where
  | null
  | bool (value : Bool)
  | int (value : Int)
  | float (value : ℚ) (text : String)
  | str (value : String)
  | list (items : List Value)
  | dict (entries : List (String × Value))
  deriving Inhabited

namespace Value

/-- `value.get(key)`. -/
def get (value : Value) (key : String) : Py (Option Value) :=
  match value with
  | .dict entries => .ok (assoc.lookup key entries)
  | _ => .error (AttributeError "object has no attribute 'get'")

/-- `value.get(key, default)`. -/
def getD (value : Value) (key : String) (default : Value) : Py Value := do
  return ((← value.get key).getD default)

/-- `value[key]` for a text key. -/
def item (value : Value) (key : String) : Py Value :=
  match value with
  | .dict entries =>
    match assoc.lookup key entries with
    | some found => .ok found
    | none => .error (KeyError key)
  | _ => .error (TypeError "indices must be integers or slices, not str")

/-- `key in value` for a mapping. -/
def hasKey (value : Value) (key : String) : Py Bool :=
  match value with
  | .dict entries => .ok (assoc.lookup key entries).isSome
  | _ => .error (TypeError "argument is not a mapping")

/-- `isinstance(value, dict)`. -/
def isMapping : Value → Bool
  | .dict _ => true
  | _ => false

def isNull : Value → Bool
  | .null => true
  | _ => false

/-- `bool(value)`. -/
def truthy : Value → Bool
  | .null => false
  | .bool value => value
  | .int value => value ≠ 0
  | .float value _ => value ≠ 0
  | .str value => value ≠ ""
  | .list items => items.length ≠ 0
  | .dict entries => entries.length ≠ 0

/-- `bool(value)` of an optional lookup, where a missing entry reads as `None`. -/
def optTruthy : Option Value → Bool
  | some value => value.truthy
  | none => false

/-- The elements a `for` loop draws from a value. -/
def elements : Value → Py (List Value)
  | .list items => .ok items
  | .dict entries => .ok ((assoc.distinct entries).map fun entry => .str entry.1)
  | .str value => .ok ((chars value).map fun c => .str (String.singleton c))
  | _ => .error (TypeError "object is not iterable")

/-- `value.items()`. -/
def pairs : Value → Py (List (String × Value))
  | .dict entries => .ok (assoc.distinct entries)
  | _ => .error (AttributeError "object has no attribute 'items'")

/-- The items of a mapping are what its lookups find. -/
theorem mem_pairs_of_item {value found : Value} {key : String} {entries : List (String × Value)}
    (hpairs : value.pairs = .ok entries) (hitem : value.item key = .ok found) :
    (key, found) ∈ entries := by
  cases value with
  | dict rows =>
    obtain rfl := Except.ok.inj hpairs
    rw [assoc.mem_distinct_iff]
    simp only [item] at hitem
    split at hitem
    · rename_i hlookup
      rw [hlookup, Except.ok.inj hitem]
    · cases hitem
  | _ => cases hpairs

theorem keys_pairs_nodup {value : Value} {entries : List (String × Value)}
    (hpairs : value.pairs = .ok entries) : (entries.map Prod.fst).Nodup := by
  cases value with
  | dict rows =>
    obtain rfl := Except.ok.inj hpairs
    exact assoc.keys_distinct_nodup rows
  | _ => cases hpairs

mutual

/-- `repr(value)`. -/
def repr : Value → String
  | .null => "None"
  | .bool true => "True"
  | .bool false => "False"
  | .int value => toString value
  | .float _ text => text
  | .str value => reprText value
  | .list items => "[" ++ join ", " (reprItems items) ++ "]"
  | .dict entries =>
    "\x7b" ++ join ", " ((assoc.distinct (reprEntries entries)).map fun entry =>
      reprText entry.1 ++ ": " ++ entry.2) ++ "\x7d"

def reprItems : List Value → List String
  | [] => []
  | item :: rest => repr item :: reprItems rest

def reprEntries : List (String × Value) → List (String × String)
  | [] => []
  | (key, value) :: rest => (key, repr value) :: reprEntries rest

end

mutual

/-- The characters of
`json.dumps(value, sort_keys=True, separators=(",", ":"), ensure_ascii=True)`. -/
def canonical_json : Value → List Char
  | .null => ['n', 'u', 'l', 'l']
  | .bool true => ['t', 'r', 'u', 'e']
  | .bool false => ['f', 'a', 'l', 's', 'e']
  | .int value => chars (toString value)
  | .float _ text => chars text
  | .str value => jsonChars value
  | .list items => '[' :: ([','].intercalate (canonicalItems items) ++ [']'])
  | .dict entries =>
    '\x7b' :: ([','].intercalate
      ((sortedBy Prod.fst (assoc.distinct (canonicalEntries entries))).map fun entry =>
        jsonChars entry.1 ++ ':' :: entry.2) ++ ['\x7d'])

def canonicalItems : List Value → List (List Char)
  | [] => []
  | item :: rest => canonical_json item :: canonicalItems rest

def canonicalEntries : List (String × Value) → List (String × List Char)
  | [] => []
  | (key, value) :: rest => (key, canonical_json value) :: canonicalEntries rest

end

mutual

/-- `json.loads(canonical_json(value))`: the same document with its keys in order. -/
def stored : Value → Value
  | .list items => .list (storedItems items)
  | .dict entries => .dict (sortedBy Prod.fst (assoc.distinct (storedEntries entries)))
  | value => value

def storedItems : List Value → List Value
  | [] => []
  | item :: rest => stored item :: storedItems rest

def storedEntries : List (String × Value) → List (String × Value)
  | [] => []
  | (key, value) :: rest => (key, stored value) :: storedEntries rest

end

/-- `str(value)`. -/
def toStr : Value → String
  | .str value => value
  | value => repr value

/-- `str(value)` of an optional lookup, where a missing entry reads as `None`. -/
def optStr : Option Value → String
  | some value => value.toStr
  | none => "None"

/-- A column that may be NULL, as a document value. -/
def ofOption : Option String → Value
  | some text => .str text
  | none => .null

/-- Decimal digits, with single underscores allowed between two digits. -/
private def digits? (value : Nat) : List Char → Option Nat
  | [] => some value
  | '_' :: c :: rest => do digits? (value * 10 + (← digitValue? c)) rest
  | c :: rest => do digits? (value * 10 + (← digitValue? c)) rest

private def unsigned? : List Char → Option Nat
  | [] => none
  | c :: rest => do digits? (← digitValue? c) rest

/-- The integer literals `int(text)` accepts. -/
def parseInt? (text : String) : Option Int :=
  match stripChars (chars text) with
  | '-' :: rest => (unsigned? rest).map fun n => -(n : Int)
  | '+' :: rest => (unsigned? rest).map Int.ofNat
  | rest => (unsigned? rest).map Int.ofNat

/-- `int(value)`. -/
def toInt : Value → Py Int
  | .int value => .ok value
  | .bool value => .ok (if value then 1 else 0)
  | .float value _ => .ok (if 0 ≤ value then ⌊value⌋ else ⌈value⌉)
  | .str text =>
    match parseInt? text with
    | some value => .ok value
    | none => .error (ValueError ("invalid literal for int() with base 10: " ++ reprText text))
  | _ => .error (TypeError "int() argument must be a string or a real number")

end Value

end python
