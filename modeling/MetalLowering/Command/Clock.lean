import MetalLowering.Text.Digit

/-!
# Clock times

The time that the header of a generated source carries, in coordinated universal time.

* `Clock.text` writes it;
* `Clock.ofSeconds` reads it off the seconds since the start of 1970. Years are counted from March,
  so that the leap day is the last day of a year and a block of 400 years has always 146097 days.
-/

namespace MetalLowering

/-- A point of time. -/
structure Clock where
  /-- The year. -/
  year : Nat
  /-- The month, from one. -/
  month : Nat
  /-- The day of the month, from one. -/
  day : Nat
  /-- The hour. -/
  hour : Nat
  /-- The minute. -/
  minute : Nat
  /-- The second. -/
  second : Nat
  deriving Repr, DecidableEq

/-- Date and time in digits. -/
def Clock.text (c : Clock) : Text :=
  Text.ofNatPadded 4 c.year ++ "-" ++ Text.ofNatPadded 2 c.month ++ "-" ++ Text.ofNatPadded 2 c.day ++
    " " ++ Text.ofNatPadded 2 c.hour ++ ":" ++ Text.ofNatPadded 2 c.minute ++ ":" ++
    Text.ofNatPadded 2 c.second ++ " UTC"

/-- The time a number of seconds after the start of 1970. -/
def Clock.ofSeconds (seconds : Nat) : Clock :=
  let days := seconds / 86400 + 719468
  let ofDay := seconds % 86400
  let dayOfBlock := days % 146097
  let yearOfBlock :=
    (dayOfBlock - dayOfBlock / 1460 + dayOfBlock / 36524 - dayOfBlock / 146096) / 365
  let dayOfYear := dayOfBlock - (365 * yearOfBlock + yearOfBlock / 4 - yearOfBlock / 100)
  let monthFromMarch := (5 * dayOfYear + 2) / 153
  let month := if monthFromMarch < 10 then monthFromMarch + 3 else monthFromMarch - 9
  { year := yearOfBlock + days / 146097 * 400 + (if month ≤ 2 then 1 else 0)
    month
    day := dayOfYear - (153 * monthFromMarch + 2) / 5 + 1
    hour := ofDay / 3600
    minute := ofDay % 3600 / 60
    second := ofDay % 60 }

end MetalLowering
