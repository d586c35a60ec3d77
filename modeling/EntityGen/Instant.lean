/-!
# Instants

Moments in time as nanoseconds since the start of 1970, and their text in the calendar.
-/
namespace EntityGen

/-- A moment in time. -/
structure Instant where
  nanoseconds : Int
  deriving DecidableEq, Repr

namespace Instant

/-- The moment that lies milliseconds after the start of 1970. -/
def ofMilliseconds (milliseconds : Int) : Instant := ⟨milliseconds * 1000000⟩

/-- The whole milliseconds from one moment to another. -/
def millisecondsTo (start finish : Instant) : Int :=
  (finish.nanoseconds - start.nanoseconds).tdiv 1000000

/-- The year, month and day of a number of days after the start of 1970. The calendar repeats every
400 years, and years are counted from March so that a leap day comes last. -/
def dateOfDays (days : Int) : Int × Nat × Nat :=
  let shifted := days + 719468
  let era := shifted.fdiv 146097
  let dayOfEra := (shifted.fmod 146097).toNat
  let yearOfEra := (dayOfEra - dayOfEra / 1460 + dayOfEra / 36524 - dayOfEra / 146096) / 365
  let dayOfYear := dayOfEra - (365 * yearOfEra + yearOfEra / 4 - yearOfEra / 100)
  let monthFromMarch := (5 * dayOfYear + 2) / 153
  let day := dayOfYear - (153 * monthFromMarch + 2) / 5 + 1
  let month := if monthFromMarch < 10 then monthFromMarch + 3 else monthFromMarch - 9
  let year := era * 400 + yearOfEra + (if month ≤ 2 then 1 else 0)
  (year, month, day)

/-- A number with zeros in front up to a width. -/
def padded (width n : Nat) : String :=
  let digits := Nat.toDigits 10 n
  String.ofList (List.replicate (width - digits.length) '0' ++ digits)

/-- A year; one outside four digits has a sign. -/
def yearText (year : Int) : String :=
  if 0 ≤ year && year ≤ 9999 then padded 4 year.toNat
  else (if year < 0 then "-" else "+") ++ padded 4 year.natAbs

/-- The part of a second, in as many groups of three digits as it needs. -/
def fractionText (nanoseconds : Nat) : String :=
  if nanoseconds == 0 then ""
  else if nanoseconds % 1000000 == 0 then "." ++ padded 3 (nanoseconds / 1000000)
  else if nanoseconds % 1000 == 0 then "." ++ padded 6 (nanoseconds / 1000)
  else "." ++ padded 9 nanoseconds

/-- The text of a moment, as in `1970-01-01T00:00:00.001Z`. -/
def text (instant : Instant) : String :=
  let seconds := instant.nanoseconds.fdiv 1000000000
  let (year, month, day) := dateOfDays (seconds.fdiv 86400)
  let second := (seconds.fmod 86400).toNat
  yearText year ++ "-" ++ padded 2 month ++ "-" ++ padded 2 day ++ "T"
    ++ padded 2 (second / 3600) ++ ":" ++ padded 2 (second / 60 % 60) ++ ":"
    ++ padded 2 (second % 60) ++ fractionText (instant.nanoseconds.fmod 1000000000).toNat ++ "Z"

end Instant

end EntityGen
