/-!
# Moments

A moment, counted from the beginning of 1970 in Universal Time, as a date and a time of day. Years
are counted from March on while the date is found, so that the day that only some years have is
the last one of a year.
-/

namespace Shipyard.Text

/-- A moment after the beginning of 1970. -/
structure Moment where
  seconds : Nat
  nanoseconds : Nat
  deriving DecidableEq, Repr

/-- A date. -/
structure Date where
  year : Nat
  month : Nat
  day : Nat
  deriving DecidableEq, Repr

/-- The date of a day, counted from the first of January 1970. Four hundred years have 146097 days.
-/
def Date.ofDay (day : Nat) : Date :=
  let shifted := day + 719468
  let era := shifted / 146097
  let ofEra := shifted % 146097
  let year := (ofEra - ofEra / 1460 + ofEra / 36524 - ofEra / 146096) / 365
  let ofYear := ofEra - (365 * year + year / 4 - year / 100)
  let month := (5 * ofYear + 2) / 153
  let isNext := 10 ≤ month
  { year := year + era * 400 + if isNext then 1 else 0
    month := if isNext then month - 9 else month + 3
    day := ofYear - (153 * month + 2) / 5 + 1 }

/-- A number with at least `width` digits. -/
def padded (width n : Nat) : String :=
  let digits := Nat.toDigits 10 n
  String.ofList (List.replicate (width - digits.length) '0' ++ digits)

/-- A moment as text, with its offset from Universal Time. -/
def Moment.toText (m : Moment) : String :=
  let date := Date.ofDay (m.seconds / 86400)
  let ofDay := m.seconds % 86400
  padded 4 date.year ++ "-" ++ padded 2 date.month ++ "-" ++ padded 2 date.day ++ "T" ++
    padded 2 (ofDay / 3600) ++ ":" ++ padded 2 (ofDay / 60 % 60) ++ ":" ++ padded 2 (ofDay % 60) ++
    "." ++ padded 9 m.nanoseconds ++ "+00:00"

end Shipyard.Text
