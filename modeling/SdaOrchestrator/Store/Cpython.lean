import SdaOrchestrator.Lib.Sha256
import SdaOrchestrator.Store.Platform

open python

namespace orchestrator.store

/-! ## Instants as seconds -/

/-- The days from 0000-03-01 to a date of the Gregorian calendar. -/
def days_from_civil (year month day : Nat) : Nat :=
  let y := if month ≤ 2 then year - 1 else year
  let day_of_year := (153 * ((month + 9) % 12) + 2) / 5 + day - 1
  y / 400 * 146097 + (y % 400 * 365 + y % 400 / 4 - y % 400 / 100 + day_of_year)

/-- The date so many days after 0000-03-01. -/
def civil_from_days (days : Nat) : Nat × Nat × Nat :=
  let day_of_era := days % 146097
  let year_of_era :=
    (day_of_era - day_of_era / 1460 + day_of_era / 36524 - day_of_era / 146096) / 365
  let day_of_year := day_of_era - (365 * year_of_era + year_of_era / 4 - year_of_era / 100)
  let shifted := (5 * day_of_year + 2) / 153
  let month := if shifted < 10 then shifted + 3 else shifted - 9
  let year := year_of_era + days / 146097 * 400 + (if month ≤ 2 then 1 else 0)
  (year, month, day_of_year - (153 * shifted + 2) / 5 + 1)

def Datetime.seconds (value : Datetime) : Nat :=
  days_from_civil value.year value.month value.day * 86400 + value.hour * 3600 +
    value.minute * 60 + value.second

/-- `value + timedelta(seconds=seconds)`. -/
def seconds_after (value : Datetime) (seconds : Int) : Datetime :=
  let total := (value.seconds + seconds).toNat
  let date := civil_from_days (total / 86400)
  { year := .ofNat _ date.1
    month := .ofNat _ date.2.1
    day := .ofNat _ date.2.2
    hour := .ofNat _ (total % 86400 / 3600)
    minute := .ofNat _ (total % 3600 / 60)
    second := .ofNat _ (total % 60)
    microsecond := value.microsecond }

/-! ## The texts that `isoformat` writes -/

/-- The text has the shape of the template, in which `d` stands for a digit. -/
def has_shape (template : String) (text : List Char) : Bool :=
  len template = text.length &&
    ((chars template).zip text).all fun pair =>
      if pair.1 = 'd' then pair.2.isDigit else pair.1 = pair.2

/-- The decimal number in a field of digits. -/
def number_at (start length : Nat) (text : List Char) : Nat :=
  ((text.drop start).take length).foldl (fun n c => n * 10 + (c.toNat - 48)) 0

/-- `datetime.fromisoformat(text)` of a UTC text in the form that `isoformat` writes. -/
def fromisoformat (text : String) : Py (Option Datetime) :=
  let content := chars text
  let month := number_at 5 2 content
  let day := number_at 8 2 content
  let hour := number_at 11 2 content
  let minute := number_at 14 2 content
  let second := number_at 17 2 content
  let whole := has_shape "dddd-dd-ddTdd:dd:dd+00:00" content
  if (whole || has_shape "dddd-dd-ddTdd:dd:dd.dddddd+00:00" content) && 1 ≤ month && month ≤ 12 &&
      1 ≤ day && day ≤ 31 && hour < 24 && minute < 60 && second < 60 then
    .ok (some {
      year := .ofNat _ (number_at 0 4 content)
      month := .ofNat _ month
      day := .ofNat _ day
      hour := .ofNat _ hour
      minute := .ofNat _ minute
      second := .ofNat _ second
      microsecond := if whole then 0 else .ofNat _ (number_at 20 6 content) })
  else .error (ValueError ("Invalid isoformat string: " ++ reprText text))

/-- The platform that the program runs on. -/
def cpython : Platform where
  sha256 := sha256.hexdigest
  fromisoformat := fromisoformat
  seconds_after := seconds_after

example : isoformat (seconds_after ⟨2024, 2, 28, 23, 59, 59, 0⟩ 86401) = "2024-03-01T00:00:00+00:00" := by
  decide +kernel

end orchestrator.store
