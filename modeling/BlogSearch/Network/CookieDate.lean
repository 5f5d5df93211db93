import BlogSearch.Calendar

/-!
# Dates of cookies

The date on which a cookie expires is written in one of four ways.  Names of days and months are
English, the time is universal, and the name of the day need not fit the date.  A year of fewer than
three digits lies between 1969 and 2068.
-/

namespace BlogSearch.CookieDate

open Calendar

/-- A part of a date. -/
inductive Part where
  /-- Characters that have to stand there. -/
  | literal (text : List Char)
  | shortWeekday
  | longWeekday
  /-- A day of two digits. -/
  | day
  /-- A day of two places, the first of which may be blank. -/
  | spacedDay
  | month
  /-- A year of one to four digits, with a sign or without. -/
  | year
  /-- A year of two digits. -/
  | yearOfCentury
  | hour
  | minute
  | second
  deriving DecidableEq

/-- The names of the days in three letters. -/
def shortWeekdays : List String :=
  ["Mon", "Tue", "Wed", "Thu", "Fri", "Sat", "Sun"]

/-- The full names of the days. -/
def longWeekdays : List String :=
  ["Monday", "Tuesday", "Wednesday", "Thursday", "Friday", "Saturday", "Sunday"]

def months : List String :=
  ["Jan", "Feb", "Mar", "Apr", "May", "Jun", "Jul", "Aug", "Sep", "Oct", "Nov", "Dec"]

/-- The time of day. -/
def clock : List Part :=
  [.hour, .literal [':'], .minute, .literal [':'], .second]

/-- The end of a date in universal time. -/
def zone : List Part :=
  [.literal " GMT".toList]

/-- The four ways to write a date. -/
def formats : List (List Part) :=
  [[.shortWeekday, .literal ", ".toList, .day, .literal [' '], .month, .literal [' '], .year,
      .literal [' ']] ++ clock ++ zone,
    [.longWeekday, .literal ", ".toList, .day, .literal ['-'], .month, .literal ['-'],
      .yearOfCentury, .literal [' ']] ++ clock ++ zone,
    [.shortWeekday, .literal [' '], .month, .literal [' '], .spacedDay, .literal [' ']] ++ clock ++
      [.literal [' '], .year],
    [.shortWeekday, .literal ", ".toList, .day, .literal ['-'], .month, .literal ['-'], .year,
      .literal [' ']] ++ clock ++ zone]

/-- The text after characters that have to stand at its beginning. -/
def after? : List Char → List Char → Option (List Char)
  | [], s => some s
  | c :: lead, d :: s => if c == d then after? lead s else none
  | _, [] => none

/-- Reads one of several names, and returns its position. -/
def name? (names : List String) (s : List Char) : Option (Nat × List Char) :=
  (names.zipIdx.findSome? fun (name, k) => (after? name.toList s).map fun rest => (k, rest))

/-- Reads at least one and at most `most` digits. -/
def digits? (most : Nat) (s : List Char) : Option (Nat × List Char) :=
  let ds := (s.take most).takeWhile Char.isDigit
  (Decimal.value? ds).map fun n => (n, s.drop ds.length)

/-- Reads two digits. -/
def twoDigits? : List Char → Option (Nat × List Char)
  | a :: b :: rest => (Decimal.value? [a, b]).map fun n => (n, rest)
  | _ => none

/-- Reads a year of one to four digits. -/
def year? : List Char → Option (Int × List Char)
  | '+' :: s => (digits? 4 s).map fun (n, rest) => (Int.ofNat n, rest)
  | '-' :: s => (digits? 4 s).map fun (n, rest) => (-Int.ofNat n, rest)
  | s => (digits? 4 s).map fun (n, rest) => (Int.ofNat n, rest)

/-- Reads a part of a date into the moment that the parts before it gave. -/
def Part.read? (m : Moment) (s : List Char) : Part → Option (Moment × List Char)
  | .literal text => (after? text s).map fun rest => (m, rest)
  | .shortWeekday => (name? shortWeekdays s).map fun (_, rest) => (m, rest)
  | .longWeekday => (name? longWeekdays s).map fun (_, rest) => (m, rest)
  | .day => (twoDigits? s).map fun (n, rest) => ({ m with day := n }, rest)
  | .spacedDay =>
      match s with
      | ' ' :: d :: rest => (Decimal.value? [d]).map fun n => ({ m with day := n }, rest)
      | s => (twoDigits? s).map fun (n, rest) => ({ m with day := n }, rest)
  | .month => (name? months s).map fun (k, rest) => ({ m with month := k + 1 }, rest)
  | .year => (year? s).map fun (y, rest) => ({ m with year := y }, rest)
  | .yearOfCentury => (twoDigits? s).map fun (n, rest) => ({ m with year := n }, rest)
  | .hour => (twoDigits? s).map fun (n, rest) => ({ m with hour := n }, rest)
  | .minute => (twoDigits? s).map fun (n, rest) => ({ m with minute := n }, rest)
  | .second => (twoDigits? s).map fun (n, rest) => ({ m with second := n }, rest)

/-- Reads a whole date of one format. -/
def readFormat? (m : Moment) (s : List Char) : List Part → Option Moment
  | [] => if s.isEmpty then some m else none
  | part :: parts =>
      match part.read? m s with
      | some (m, rest) => readFormat? m rest parts
      | none => none

/-- The year that a written year stands for. -/
def fullYear (year : Int) : Int :=
  if 0 ≤ year && year ≤ 68 then year + 2000
  else if 69 ≤ year && year ≤ 99 then year + 1900
  else year

/-- The seconds from the beginning of 1970 to a written date, if it is one. -/
def seconds? (s : List Char) : Option Int :=
  formats.findSome? fun format =>
    (readFormat? ⟨0, 0, 0, 0, 0, 0⟩ s format).bind fun m =>
      let full := { m with year := fullYear m.year }
      if full.isReal then some full.seconds else none

end BlogSearch.CookieDate
