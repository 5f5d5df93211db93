/-!
# The shortest decimal of a double

A finite double other than zero is `m · 2 ^ q`.  The reals that round to it form an interval, which
holds its own ends exactly when `m` is even.  The shortest decimal is the one with the fewest digits
in that interval and, among those, the nearest to the double.

All quantities are counted in units of `10 ^ -1100`, of which every double and every end of an
interval is a whole number, so the search is exact.
-/

namespace BlogSearch.Decimal.Shortest

/-- The scale: every double and every midpoint of two doubles is a multiple of `10 ^ -1100`. -/
def scale : Nat := 1100

/-- `n · 2 ^ e` in units of `10 ^ -1100`, for `e` at least `-1100`. -/
def units (n : Nat) (e : Int) : Nat :=
  n * Nat.pow 2 (e + scale).toNat * Nat.pow 5 scale

/-- The reals that round to a double, in units. -/
structure Interval where
  low : Nat
  high : Nat
  closed : Bool

/-- A number of units lies in the interval. -/
def Interval.holds (i : Interval) (n : Nat) : Bool :=
  if i.closed then i.low ≤ n && n ≤ i.high else i.low < n && n < i.high

/-- The interval of `m · 2 ^ q`.  Below a power of two the doubles are twice as dense. -/
def interval (m : Nat) (q : Int) : Interval :=
  let below := if m == Nat.pow 2 52 && q > -1074 then 1 else 2
  { low := units (4 * m - below) (q - 2)
    high := units (4 * m + 2) (q - 2)
    closed := m % 2 == 0 }

/-- The nearer of the two neighbours of `n` on a grid that lie in the interval; of two equally near
ones the even multiple. -/
def onGrid? (i : Interval) (n step : Nat) : Option Nat :=
  let down := n / step
  let up := down + 1
  match i.holds (down * step), i.holds (up * step) with
  | true, false => some down
  | false, true => some up
  | false, false => none
  | true, true =>
      let left := n - down * step
      let right := up * step - n
      if left < right then some down
      else if right < left then some up
      else if down % 2 == 0 then some down else some up

/-- Tries grids from coarse to fine, the last with the step of `10 ^ exponent` units. -/
def search (i : Interval) (n : Nat) : (exponent : Nat) → Nat × Nat
  | 0 => (n, 0)
  | exponent + 1 =>
      match onGrid? i n (Nat.pow 10 (exponent + 1)) with
      | some d => (d, exponent + 1)
      | none => search i n exponent

/-- Drops the zeros at the end of a significand and counts them into the exponent. -/
def normalize : (fuel : Nat) → Nat → Nat → Nat × Nat
  | 0, d, e => (d, e)
  | fuel + 1, d, e => if d != 0 && d % 10 == 0 then normalize fuel (d / 10) (e + 1) else (d, e)

/-- The significand `d` and exponent `e` of the shortest decimal `d · 10 ^ e` of `m · 2 ^ q`. -/
def decimal (m : Nat) (q : Int) : Nat × Int :=
  let n := units m q
  let found := search (interval m q) n (Nat.toDigits 10 n).length
  let short := normalize 400 found.1 found.2
  (short.1, (short.2 : Int) - scale)

end BlogSearch.Decimal.Shortest
