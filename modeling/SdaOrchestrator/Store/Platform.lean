import SdaOrchestrator.Lib.Decimal
import SdaOrchestrator.Lib.Python

open python

namespace orchestrator.store

def StoreError (message : String) : Raised := ⟨"StoreError", message⟩
def NotFoundError (message : String) : Raised := ⟨"NotFoundError", message⟩
def ConflictError (message : String) : Raised := ⟨"ConflictError", message⟩
def ApprovalRequiredError (message : String) : Raised := ⟨"ApprovalRequiredError", message⟩
def ExecutionDisabledError (message : String) : Raised := ⟨"ExecutionDisabledError", message⟩
def MaintenanceWindowError (message : String) : Raised := ⟨"MaintenanceWindowError", message⟩

/-- What the database raises when a statement breaks a constraint of the schema. -/
def IntegrityError (message : String) : Raised := ⟨"IntegrityError", message⟩

instance year_ne_zero : NeZero 10000 := ⟨by decide⟩
instance month_ne_zero : NeZero 13 := ⟨by decide⟩
instance day_ne_zero : NeZero 32 := ⟨by decide⟩
instance hour_ne_zero : NeZero 24 := ⟨by decide⟩
instance minute_ne_zero : NeZero 60 := ⟨by decide⟩
instance microsecond_ne_zero : NeZero 1000000 := ⟨by decide⟩

/-- An instant in UTC. -/
structure Datetime where
  year : Fin 10000
  month : Fin 13
  day : Fin 32
  hour : Fin 24
  minute : Fin 60
  second : Fin 60
  microsecond : Fin 1000000
  deriving DecidableEq

/-- The fields in order of significance. -/
def Datetime.fields (value : Datetime) : List Nat :=
  [value.year, value.month, value.day, value.hour, value.minute, value.second, value.microsecond]

instance : LE Datetime := ⟨fun first second => first.fields ≤ second.fields⟩

instance (first second : Datetime) : Decidable (first ≤ second) :=
  inferInstanceAs (Decidable (first.fields ≤ second.fields))

instance : LT Datetime := ⟨fun first second => first.fields < second.fields⟩

theorem Datetime.lt_iff (first second : Datetime) : first < second ↔ first.fields < second.fields :=
  Iff.rfl

theorem not_le_iff_lt {first second : Datetime} : ¬first ≤ second ↔ second < first := by
  have hfields : ¬first.fields ≤ second.fields ↔ second.fields < first.fields := not_le
  exact hfields

private def padded (width n : Nat) : String :=
  let digits := chars (toString n)
  String.ofList (List.replicate (width - digits.length) '0' ++ digits)

/-- `value.astimezone(timezone.utc).isoformat()`. -/
def isoformat (value : Datetime) : String :=
  padded 4 value.year ++ "-" ++ padded 2 value.month ++ "-" ++ padded 2 value.day ++ "T" ++
    padded 2 value.hour ++ ":" ++ padded 2 value.minute ++ ":" ++ padded 2 value.second ++
    (if value.microsecond.val = 0 then "" else "." ++ padded 6 value.microsecond) ++ "+00:00"

private theorem padded_toList {width n : Nat} (hwidth : 0 < width) (hfits : n < 10 ^ width) :
    (padded width n).toList = decimal.fixed width n := by
  have hdigits : (toString n).toList = Nat.toDigits 10 n := by simp
  unfold padded
  rw [chars_eq_toList, hdigits, String.toList_ofList, decimal.padded_eq_fixed hwidth hfits]

/-- The end of a timestamp text, from its seconds on. -/
private def fraction (microsecond : Nat) : String :=
  (if microsecond = 0 then "" else "." ++ padded 6 microsecond) ++ "+00:00"

private theorem fraction_lt {first second : Nat} (hlt : first < second)
    (hfits : second < 1000000) : (fraction first).toList < (fraction second).toList := by
  have hsecond : second ≠ 0 := by omega
  unfold fraction
  rw [if_neg hsecond]
  by_cases hfirst : first = 0
  · rw [if_pos hfirst]
    simp only [String.toList_append]
    exact List.cons_lt_cons_iff.mpr (.inl (by decide))
  · rw [if_neg hfirst]
    simp only [String.toList_append, List.append_assoc]
    apply List.append_left_lt
    rw [padded_toList (by omega) (by omega), padded_toList (by omega) (by omega)]
    exact decimal.field_lt (by omega) (.inl hlt)

private theorem isoformat_toList (value : Datetime) : (isoformat value).toList =
    decimal.fixed 4 value.year ++ ("-".toList ++ (decimal.fixed 2 value.month ++ ("-".toList ++
      (decimal.fixed 2 value.day ++ ("T".toList ++ (decimal.fixed 2 value.hour ++ (":".toList ++
        (decimal.fixed 2 value.minute ++ (":".toList ++ (decimal.fixed 2 value.second ++
          (fraction value.microsecond).toList)))))))))) := by
  have hmonth := value.month.isLt
  have hday := value.day.isLt
  have hhour := value.hour.isLt
  have hminute := value.minute.isLt
  have hsecond := value.second.isLt
  simp only [isoformat, fraction, String.toList_append, List.append_assoc]
  rw [padded_toList (by omega) value.year.isLt, padded_toList (by omega) (by omega : _ < 10 ^ 2),
    padded_toList (by omega) (by omega : _ < 10 ^ 2), padded_toList (by omega) (by omega : _ < 10 ^ 2),
    padded_toList (by omega) (by omega : _ < 10 ^ 2), padded_toList (by omega) (by omega : _ < 10 ^ 2)]

private theorem separated_lt {separator rest rest' : List Char} {width first second : Nat}
    (hfits : second < 10 ^ width) (hlt : first < second ∨ first = second ∧ rest < rest') :
    separator ++ (decimal.fixed width first ++ rest) <
      separator ++ (decimal.fixed width second ++ rest') :=
  List.append_left_lt (decimal.field_lt hfits hlt)

/-- The texts of two instants sort like the instants. -/
theorem isoformat_lt {first second : Datetime} (hlt : first < second) :
    isoformat first < isoformat second := by
  have hmonth := second.month.isLt
  have hday := second.day.isLt
  have hhour := second.hour.isLt
  have hminute := second.minute.isLt
  have hsecond := second.second.isLt
  rw [Datetime.lt_iff, Datetime.fields, Datetime.fields] at hlt
  simp only [List.cons_lt_cons_iff] at hlt
  rw [String.lt_iff, isoformat_toList, isoformat_toList]
  refine decimal.field_lt second.year.isLt (hlt.imp_right (And.imp_right fun hlt => ?_))
  refine separated_lt (by omega) (hlt.imp_right (And.imp_right fun hlt => ?_))
  refine separated_lt (by omega) (hlt.imp_right (And.imp_right fun hlt => ?_))
  refine separated_lt (by omega) (hlt.imp_right (And.imp_right fun hlt => ?_))
  refine separated_lt (by omega) (hlt.imp_right (And.imp_right fun hlt => ?_))
  refine separated_lt (by omega) (hlt.imp_right (And.imp_right fun hlt => ?_))
  obtain hmicrosecond | ⟨-, hnil⟩ := hlt
  · exact fraction_lt hmicrosecond second.microsecond.isLt
  · exact absurd hnil (List.lt_irrefl _)

/-- What the program takes from its platform: the SHA-256 hex digest of the characters of a text,
`datetime.fromisoformat` (the instant in UTC of a text with a timezone, no instant
for one without), and the instant some seconds after another. -/
structure Platform where
  sha256 : List Char → String
  fromisoformat : String → Py (Option Datetime)
  seconds_after : Datetime → Int → Datetime

/-- What one operation draws from outside: its clock readings and its fresh
identifiers, in the order in which it asks for them. -/
structure Ambient where
  utc_now : Nat → Datetime
  uuid4_hex : Nat → String

/-- `sha256_json(value)`. -/
def Platform.sha256_json (platform : Platform) (value : Value) : String :=
  platform.sha256 value.canonical_json

/-- `parse_timestamp(value)`. -/
def Platform.parse_timestamp (platform : Platform) (value : String) : Py Datetime := do
  raise_if (strip value = "") (ValueError "A timestamp is required")
  let stripped := strip value
  let normalized :=
    if endswith stripped "Z" then take (len stripped - 1) stripped ++ "+00:00" else stripped
  match ← platform.fromisoformat normalized with
  | some parsed => return parsed
  | none => .error (ValueError "Timestamp must include a timezone")

end orchestrator.store
