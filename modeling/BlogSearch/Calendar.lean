import BlogSearch.Decimal.Natural

/-!
# Dates of the proleptic Gregorian calendar

Seconds since the beginning of 1970 are shown as a date and a time of day in universal time.  Dates
are counted from the first of March of the year zero in eras of 400 years, so that the leap day is
the last day of a year and every era has the same length.
-/

namespace BlogSearch.Calendar

/-- A date with its time of day. -/
structure Moment where
  year : Int
  month : Nat
  day : Nat
  hour : Nat
  minute : Nat
  second : Nat
  deriving DecidableEq

/-- The days of an era of 400 years. -/
def daysPerEra : Int := 146097

/-- The days from the first of March of the year zero to the beginning of 1970. -/
def epochDay : Int := 719468

/-- The moment that many seconds after the beginning of 1970. -/
def moment (seconds : Int) : Moment :=
  let days := seconds.fdiv 86400 + epochDay
  let clock := (seconds.fmod 86400).toNat
  let era := days.fdiv daysPerEra
  let dayOfEra := (days.fmod daysPerEra).toNat
  let yearOfEra := (dayOfEra - dayOfEra / 1460 + dayOfEra / 36524 - dayOfEra / 146096) / 365
  let dayOfYear := dayOfEra - (365 * yearOfEra + yearOfEra / 4 - yearOfEra / 100)
  let monthFromMarch := (5 * dayOfYear + 2) / 153
  let month := if monthFromMarch < 10 then monthFromMarch + 3 else monthFromMarch - 9
  { year := Int.ofNat yearOfEra + era * 400 + (if month ≤ 2 then 1 else 0)
    month := month
    day := dayOfYear - (153 * monthFromMarch + 2) / 5 + 1
    hour := clock / 3600
    minute := clock / 60 % 60
    second := clock % 60 }

def isLeap (year : Int) : Bool :=
  year % 4 == 0 && (year % 100 != 0 || year % 400 == 0)

/-- The number of days of a month. -/
def daysInMonth (year : Int) (month : Nat) : Nat :=
  if month == 2 then if isLeap year then 29 else 28
  else if month == 4 || month == 6 || month == 9 || month == 11 then 30
  else 31

/-- The day and the time of day exist. -/
def Moment.isReal (m : Moment) : Bool :=
  1 ≤ m.month && m.month ≤ 12 && 1 ≤ m.day && m.day ≤ daysInMonth m.year m.month &&
    m.hour < 24 && m.minute < 60 && m.second < 60

/-- The seconds from the beginning of 1970 to a moment. -/
def Moment.seconds (m : Moment) : Int :=
  let year := if m.month ≤ 2 then m.year - 1 else m.year
  let monthFromMarch := (m.month + 9) % 12
  let yearOfEra := year.fmod 400
  let dayOfYear : Int := (153 * monthFromMarch + 2) / 5 + m.day - 1
  let dayOfEra := yearOfEra * 365 + yearOfEra / 4 - yearOfEra / 100 + dayOfYear
  let days := year.fdiv 400 * daysPerEra + dayOfEra - epochDay
  days * 86400 + (m.hour * 3600 + m.minute * 60 + m.second : Nat)

/-- A number with zeros before it up to a width. -/
def padded (width n : Nat) : List Char :=
  let ds := Decimal.digits n
  List.replicate (width - ds.length) '0' ++ ds

/-- A year of four digits or more; a sign stands before years that are negative or beyond 9999. -/
def yearText (year : Int) : List Char :=
  if year < 0 then '-' :: padded 4 year.natAbs
  else if 9999 < year then '+' :: padded 4 year.natAbs
  else padded 4 year.natAbs

/-- The years that have dates. -/
def isKnownYear (year : Int) : Bool :=
  -262143 ≤ year && year ≤ 262142

/-- The date and time that many seconds after the beginning of 1970, if the year has dates. -/
def utcText? (seconds : Int) : Option String :=
  let m := moment seconds
  if isKnownYear m.year then
    some (String.ofList
      (yearText m.year ++ '-' :: padded 2 m.month ++ '-' :: padded 2 m.day ++ ' ' ::
        padded 2 m.hour ++ ':' :: padded 2 m.minute ++ ':' :: padded 2 m.second ++
        [' ', 'U', 'T', 'C']))
  else none

end BlogSearch.Calendar
