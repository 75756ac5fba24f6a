/-!
# Time stamps

The date and time of a moment, given in seconds since the start of 1970, in the proleptic Gregorian
calendar and universal time.
-/

namespace TrainingPortal.Log

/-- The year, month and day of a day counted from the first of January 1970. Years are taken to
begin in March, so that a leap day is the last of its year, and days are counted from the first of
March of year 0. -/
def civilDate (days : Nat) : Nat × Nat × Nat :=
  let n := days + 719468
  let era := n / 146097
  let dayOfEra := n % 146097
  let yearOfEra := (dayOfEra - dayOfEra / 1460 + dayOfEra / 36524 - dayOfEra / 146096) / 365
  let dayOfYear := dayOfEra - (365 * yearOfEra + yearOfEra / 4 - yearOfEra / 100)
  let shifted := (5 * dayOfYear + 2) / 153
  let day := dayOfYear - (153 * shifted + 2) / 5 + 1
  let month := if shifted < 10 then shifted + 3 else shifted - 9
  (yearOfEra + era * 400 + (if month ≤ 2 then 1 else 0), month, day)

/-- A number with leading zeros. -/
def padded (width n : Nat) : String :=
  let digits := toString n
  String.ofList (List.replicate (width - digits.length) '0') ++ digits

/-- The date and time of a moment, with a blank after it. -/
def stamp (seconds : Nat) : String :=
  let (year, month, day) := civilDate (seconds / 86400)
  let second := seconds % 86400
  padded 4 year ++ "-" ++ padded 2 month ++ "-" ++ padded 2 day ++ "T" ++
    padded 2 (second / 3600) ++ ":" ++ padded 2 (second / 60 % 60) ++ ":" ++
    padded 2 (second % 60) ++ "Z "

end TrainingPortal.Log
