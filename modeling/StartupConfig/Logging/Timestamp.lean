import StartupConfig.Integer

/-!
# The time of a diagnostic

Times are counted in microseconds from the beginning of 1970 and written as a date and a time of day in UTC.
Years are counted from March on, so that a leap day ends its year; four hundred such years have 146097 days.
-/
namespace StartupConfig.Timestamp

/-- A day of the calendar. -/
structure Day where
  year : Nat
  month : Nat
  day : Nat
  deriving DecidableEq, Repr

/-- The days from the first of March of the year 0 to the beginning of 1970. -/
def epoch : Nat := 719468

/-- The day of the calendar that is a number of days after the beginning of 1970. -/
def dayOf (days : Nat) : Day :=
  let n := days + epoch
  let era := n / 146097
  let inEra := n % 146097
  let yearOfEra := (inEra - inEra / 1460 + inEra / 36524 - inEra / 146096) / 365
  let inYear := inEra - (365 * yearOfEra + yearOfEra / 4 - yearOfEra / 100)
  let fromMarch := (5 * inYear + 2) / 153
  let month := if fromMarch < 10 then fromMarch + 3 else fromMarch - 9
  ⟨era * 400 + yearOfEra + (if month ≤ 2 then 1 else 0), month, inYear - (153 * fromMarch + 2) / 5 + 1⟩

example : dayOf 0 = ⟨1970, 1, 1⟩ := by decide
example : dayOf 11016 = ⟨2000, 2, 29⟩ := by decide
example : dayOf 47541 = ⟨2100, 3, 1⟩ := by decide

/-- A number with zeros in front of it up to a width. -/
def padded (width n : Nat) : List Char :=
  let digits := Decimal.renderNat n
  List.replicate (width - digits.length) '0' ++ digits

/-- The date and the time of day, to the microsecond. -/
def render (microseconds : Nat) : List Char :=
  let seconds := microseconds / 1000000
  let day := dayOf (seconds / 86400)
  padded 4 day.year ++ '-' :: padded 2 day.month ++ '-' :: padded 2 day.day
    ++ 'T' :: padded 2 (seconds / 3600 % 24) ++ ':' :: padded 2 (seconds / 60 % 60)
    ++ ':' :: padded 2 (seconds % 60) ++ '.' :: padded 6 (microseconds % 1000000) ++ ['Z']

end StartupConfig.Timestamp
