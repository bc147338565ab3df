import SdaOrchestrator.Lib.Python

/-! `==` of document values. -/

namespace python.Value

/-- The number that a value is compared as. -/
def number? : Value → Option ℚ
  | .bool value => some (if value then 1 else 0)
  | .int value => some value
  | .float value _ => some value
  | _ => none

mutual

/-- `value == other`. -/
def equals : Value → Value → Bool
  | .null, other => other.isNull
  | .str value, .str other => value = other
  | .list items, .list others => equalsItems items others
  | .dict entries, .dict others =>
    (assoc.distinct entries).length = (assoc.distinct others).length &&
      (assoc.distinct (equalsEntries entries others)).all (·.2)
  | value, other =>
    match number? value, number? other with
    | some number, some another => number = another
    | _, _ => false

def equalsItems : List Value → List Value → Bool
  | [], [] => true
  | item :: rest, other :: others => equals item other && equalsItems rest others
  | _, _ => false

/-- The other side has an equal value under the same key. -/
def equalsEntries : List (String × Value) → List (String × Value) → List (String × Bool)
  | [], _ => []
  | (key, value) :: rest, others =>
    (key, match assoc.lookup key others with
      | some other => equals value other
      | none => false) :: equalsEntries rest others

end

theorem equals_str_iff {text : String} {value : Value} : equals (.str text) value ↔ value = .str text := by
  cases value with
  | str other => simp [equals, eq_comm]
  | _ => simp [equals, number?]

theorem equals_str_right_iff {text : String} {value : Value} : equals value (.str text) ↔ value = .str text := by
  cases value with
  | null => simp [equals, isNull]
  | str other => simp [equals]
  | _ => simp [equals, number?]

theorem equals_list_iff {items : List Value} {value : Value} :
    equals (.list items) value ↔ ∃ others, value = .list others ∧ equalsItems items others := by
  cases value with
  | list others => simp [equals]
  | _ => simp [equals, number?]

theorem equalsItems_texts_iff {items : List String} {others : List Value} :
    equalsItems (items.map .str) others ↔ others = items.map .str := by
  induction items generalizing others with
  | nil => cases others <;> simp [equalsItems]
  | cons item rest ih =>
    cases others with
    | nil => simp [equalsItems]
    | cons other others => simp [equalsItems, equals_str_iff, ih]

end python.Value
