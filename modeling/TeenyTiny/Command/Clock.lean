import TeenyTiny.Command.Log

/-!
# Times of log lines

Log lines carry the date and the time of the day, which are counted from the
seconds since the start of 1970 in the Gregorian calendar.
-/

namespace TeenyTiny

/-- A day in the Gregorian calendar. -/
structure Date where
  year : Nat
  month : Nat
  day : Nat
  deriving DecidableEq, Repr

/-- The date that lies the given number of days after the first of January 1970.
Years are counted from March on, so that the day that leap years have more is
their last one, in periods of four hundred years. -/
def Date.ofDays (days : Nat) : Date :=
  let shifted := days + 719468
  let period := shifted / 146097
  let dayOfPeriod := shifted % 146097
  let yearOfPeriod :=
    (dayOfPeriod - dayOfPeriod / 1460 + dayOfPeriod / 36524 -
      dayOfPeriod / 146096) / 365
  let dayOfYear :=
    dayOfPeriod - (365 * yearOfPeriod + yearOfPeriod / 4 - yearOfPeriod / 100)
  let fromMarch := (5 * dayOfYear + 2) / 153
  let day := dayOfYear - (153 * fromMarch + 2) / 5 + 1
  let year := yearOfPeriod + period * 400
  if fromMarch < 10 then ⟨year, fromMarch + 3, day⟩
  else ⟨year + 1, fromMarch - 9, day⟩

/-- A number with zeros in front up to the given number of digits. -/
def padZeros (width number : Nat) : String :=
  let digits := toString number
  String.ofList (List.replicate (width - digits.length) '0') ++ digits

/-- The date and the time that lie the given number of seconds after the start
of 1970. -/
def timeText (seconds : Nat) : String :=
  let date := Date.ofDays (seconds / 86400)
  let rest := seconds % 86400
  padZeros 4 date.year ++ "-" ++ padZeros 2 date.month ++ "-" ++
    padZeros 2 date.day ++ "T" ++ padZeros 2 (rest / 3600) ++ ":" ++
    padZeros 2 (rest % 3600 / 60) ++ ":" ++ padZeros 2 (rest % 60) ++ "Z"

end TeenyTiny
