set_option autoImplicit false

/-! # Instants

The text of an instant, given as seconds since the start of 1970 in universal time. Years are
counted from the first of March, so that the day that only leap years have is the last one of its
year, and in eras of 400 years, which all have the same number of days. -/

namespace SyscallGuard.Instant

/-- The days of an era. -/
def daysPerEra : Nat := 146097

/-- The days from the start of the first era to the start of 1970. -/
def epochDay : Nat := 719468

/-- The year, month and day of a day since the start of 1970. -/
def date (day : Nat) : Nat × Nat × Nat :=
  let days := day + epochDay
  let era := days / daysPerEra
  let inEra := days % daysPerEra
  let year := (inEra - inEra / 1460 + inEra / 36524 - inEra / 146096) / 365
  let inYear := inEra - (365 * year + year / 4 - year / 100)
  let shifted := (5 * inYear + 2) / 153
  let month := if shifted < 10 then shifted + 3 else shifted - 9
  (era * 400 + year + (if month ≤ 2 then 1 else 0), month, inYear - (153 * shifted + 2) / 5 + 1)

/-- A number with at least so many digits. -/
def padded (width n : Nat) : String :=
  let digits := toString n
  String.ofList (List.replicate (width - digits.length) '0') ++ digits

/-- An instant as a date and a time with microseconds. -/
def text (seconds : Nat) : String :=
  let (year, month, day) := date (seconds / 86400)
  let rest := seconds % 86400
  padded 4 year ++ "-" ++ padded 2 month ++ "-" ++ padded 2 day ++ "T" ++ padded 2 (rest / 3600)
    ++ ":" ++ padded 2 (rest / 60 % 60) ++ ":" ++ padded 2 (rest % 60) ++ ".000000Z"

end SyscallGuard.Instant
