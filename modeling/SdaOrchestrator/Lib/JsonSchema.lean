import SdaOrchestrator.Lib.Equality
import SdaOrchestrator.Lib.Regex

/-! Schemas of documents, by the keywords that the schemas here use. -/

open python regex

namespace json_schema

inductive TypeName where
  | object | array | string | boolean
  deriving DecidableEq

inductive Keyword where
  | type (name : TypeName)
  | const (value : Value)
  | enum (values : List Value)
  /-- The pattern `^expression$`. -/
  | pattern (expression : Regex)
  | minLength (n : Nat)
  | maxLength (n : Nat)
  | minItems (n : Nat)
  | uniqueItems
  | format (name : String)
  | required (keys : List String)
  /-- `properties`, and whether `additionalProperties` are allowed. -/
  | properties (members : List (String × List Keyword)) (additional : Bool)
  | items (schema : List Keyword)
  | allOf (schemas : List (List Keyword))
  | if_then (condition conclusion : List Keyword)

/-- A schema holds of what all its keywords hold of. -/
abbrev Schema := List Keyword

/-- The value has the type. -/
def TypeName.holds : TypeName → Value → Bool
  | .object, .dict _ => true
  | .array, .list _ => true
  | .string, .str _ => true
  | .boolean, .bool _ => true
  | _, _ => false

/-- Equality of values where a boolean is no number. -/
def same : Value → Value → Bool
  | .bool value, .bool other => value = other
  | .bool _, _ => false
  | _, .bool _ => false
  | value, other => value.equals other

def unique : List Value → Bool
  | [] => true
  | item :: rest => !rest.any (same item) && unique rest

/-- `re.search` for `^expression$`: the last line may end in a line break. -/
def search (expression : Regex) (text : String) : Bool :=
  (Regex.seq expression (.optional (.literal "\n"))).fullmatch text

section

variable (format_checker : String → String → Bool)

mutual

/-- The keyword holds of the value. It says nothing about values of other types. -/
def holds (keyword : Keyword) (value : Value) : Bool :=
  match keyword with
  | .type name => name.holds value
  | .const expected => same value expected
  | .enum values => values.any (same value)
  | .pattern expression =>
    match value with
    | .str text => search expression text
    | _ => true
  | .minLength n =>
    match value with
    | .str text => n ≤ len text
    | _ => true
  | .maxLength n =>
    match value with
    | .str text => len text ≤ n
    | _ => true
  | .minItems n =>
    match value with
    | .list items => n ≤ items.length
    | _ => true
  | .uniqueItems =>
    match value with
    | .list items => unique items
    | _ => true
  | .format name =>
    match value with
    | .str text => format_checker name text
    | _ => true
  | .required keys =>
    match value with
    | .dict entries => keys.all fun key => (assoc.lookup key entries).isSome
    | _ => true
  | .properties members additional =>
    match value with
    | .dict entries =>
      membersHold members entries &&
        (additional || entries.all fun entry => (members.map Prod.fst).contains entry.1)
    | _ => true
  | .items schema =>
    match value with
    | .list items => items.all fun item => valid schema item
    | _ => true
  | .allOf schemas => allHold schemas value
  | .if_then condition conclusion => !valid condition value || valid conclusion value

def valid (schema : List Keyword) (value : Value) : Bool :=
  match schema with
  | [] => true
  | keyword :: rest => holds keyword value && valid rest value

def membersHold (members : List (String × List Keyword)) (entries : List (String × Value)) : Bool :=
  match members with
  | [] => true
  | (key, schema) :: rest =>
    (match assoc.lookup key entries with
      | some found => valid schema found
      | none => true) && membersHold rest entries

def allHold (schemas : List (List Keyword)) (value : Value) : Bool :=
  match schemas with
  | [] => true
  | schema :: rest => valid schema value && allHold rest value

end

end

variable {format_checker : String → String → Bool} {schema : Schema} {value : Value}

theorem valid_iff : valid format_checker schema value ↔ ∀ keyword ∈ schema, holds format_checker keyword value := by
  induction schema with
  | nil => exact ⟨fun _ => List.forall_mem_nil _, fun _ => rfl⟩
  | cons keyword rest ih =>
    rw [List.forall_mem_cons, ← ih]
    exact Bool.and_eq_true_iff

theorem membersHold_iff {members : List (String × Schema)} {entries : List (String × Value)} :
    membersHold format_checker members entries ↔
      ∀ key schema found, (key, schema) ∈ members → assoc.lookup key entries = some found →
        valid format_checker schema found := by
  induction members with
  | nil => exact ⟨fun _ _ _ _ hmem => absurd hmem List.not_mem_nil, fun _ => rfl⟩
  | cons member rest ih =>
    obtain ⟨key, schema⟩ := member
    refine Bool.and_eq_true_iff.trans ?_
    rw [ih]
    constructor
    · rintro ⟨hfirst, hrest⟩ name other found hmem hfound
      rcases List.mem_cons.mp hmem with heq | hmem
      · cases heq
        rwa [hfound] at hfirst
      · exact hrest name other found hmem hfound
    · intro hall
      refine ⟨?_, fun name other found hmem => hall name other found (List.mem_cons_of_mem _ hmem)⟩
      cases hlookup : assoc.lookup key entries with
      | none => rfl
      | some found => exact hall key schema found List.mem_cons_self hlookup

/-! ## What a schema says about a value -/

theorem object_of_valid (hvalid : valid format_checker schema value) (hkeyword : Keyword.type .object ∈ schema) :
    ∃ entries, value = .dict entries := by
  have hholds : TypeName.holds .object value := valid_iff.mp hvalid _ hkeyword
  cases value <;> simp_all [TypeName.holds]

theorem array_of_valid (hvalid : valid format_checker schema value) (hkeyword : Keyword.type .array ∈ schema) :
    ∃ items, value = .list items := by
  have hholds : TypeName.holds .array value := valid_iff.mp hvalid _ hkeyword
  cases value <;> simp_all [TypeName.holds]

theorem string_of_valid (hvalid : valid format_checker schema value) (hkeyword : Keyword.type .string ∈ schema) :
    ∃ text, value = .str text := by
  have hholds : TypeName.holds .string value := valid_iff.mp hvalid _ hkeyword
  cases value <;> simp_all [TypeName.holds]

/-- A value of an enumeration of texts. -/
theorem text_of_enum {texts : List String} (hvalid : valid format_checker schema value)
    (hkeyword : Keyword.enum (texts.map .str) ∈ schema) : ∃ text ∈ texts, value = .str text := by
  have hholds : (texts.map Value.str).any (same value) := valid_iff.mp hvalid _ hkeyword
  simp only [List.any_map, List.any_eq_true, Function.comp_apply] at hholds
  obtain ⟨text, hmem, hsame⟩ := hholds
  refine ⟨text, hmem, ?_⟩
  cases value with
  | bool => simp [same] at hsame
  | _ => exact Value.equals_str_right_iff.mp hsame

theorem item_eq_ok_iff {value found : Value} {key : String} :
    value.item key = .ok found ↔ ∃ entries, value = .dict entries ∧ assoc.lookup key entries = some found := by
  cases value with
  | dict entries =>
    simp only [Value.item, Value.dict.injEq, exists_eq_left']
    cases assoc.lookup key entries <;> simp
  | _ => simp [Value.item]

/-- A member of an object meets the schema under its key. -/
theorem member_valid {members : List (String × Schema)} {additional : Bool} {key : String} {member : Schema}
    {found : Value} (hvalid : valid format_checker schema value)
    (hkeyword : Keyword.properties members additional ∈ schema) (hmember : assoc.lookup key members = some member)
    (hfound : value.item key = .ok found) : valid format_checker member found := by
  obtain ⟨entries, rfl, hlookup⟩ := item_eq_ok_iff.mp hfound
  have hholds := Bool.and_eq_true_iff.mp (valid_iff.mp hvalid _ hkeyword)
  exact membersHold_iff.mp hholds.1 key member found (assoc.lookup_mem hmember) hlookup

/-- An object has its required members. -/
theorem required_member {keys : List String} {key : String} (hvalid : valid format_checker schema value)
    (hobject : Keyword.type .object ∈ schema) (hkeyword : Keyword.required keys ∈ schema) (hkey : key ∈ keys) :
    ∃ found, value.item key = .ok found := by
  obtain ⟨entries, rfl⟩ := object_of_valid hvalid hobject
  have hholds := List.all_eq_true.mp (valid_iff.mp hvalid _ hkeyword)
  obtain ⟨found, hfound⟩ := Option.isSome_iff_exists.mp (hholds key hkey)
  exact ⟨found, item_eq_ok_iff.mpr ⟨entries, rfl, hfound⟩⟩

theorem item_valid {items : List Value} {item : Value} {element : Schema}
    (hvalid : valid format_checker schema (.list items)) (hkeyword : Keyword.items element ∈ schema)
    (hitem : item ∈ items) : valid format_checker element item := by
  exact List.all_eq_true.mp (valid_iff.mp hvalid _ hkeyword) item hitem

end json_schema
