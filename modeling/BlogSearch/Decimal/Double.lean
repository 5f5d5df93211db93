import BlogSearch.Decimal.Natural
import BlogSearch.Decimal.Shortest

/-!
# Doubles in decimal

The text of a double has the fewest digits that read back as it.  It is positional from `10 ^ -5`
up to below `10 ^ 16`, always with a fractional part, and scientific outside, with the sign of the
exponent written.

Reading scales the leading digits of a numeral by a power of ten in double arithmetic.
-/

namespace BlogSearch.Decimal.Double

/-- The magnitude `m · 2 ^ q` of a finite double. -/
def magnitude (x : Float) : Nat × Int :=
  let bits := x.toBits.toNat
  let fraction := bits % Nat.pow 2 52
  let exponent : Nat := (bits / Nat.pow 2 52) % Nat.pow 2 11
  if exponent == 0 then (fraction, -1074) else (Nat.pow 2 52 + fraction, Int.ofNat exponent - 1075)

/-- The sign bit of a double is set. -/
def isNegative (x : Float) : Bool :=
  x.toBits.toNat / Nat.pow 2 63 == 1

/-- Scientific form: one digit, the others after a point, and a signed exponent. -/
def scientific (ds : List Char) (exponent : Int) : List Char :=
  let mantissa := match ds with
    | [] => []
    | [d] => [d]
    | d :: rest => d :: '.' :: rest
  let sign := if exponent < 0 then '-' else '+'
  mantissa ++ 'e' :: sign :: digits exponent.natAbs

/-- Positional form of the digits `ds`, the first of which counts `10 ^ exponent`. -/
def positional (ds : List Char) (exponent : Int) : List Char :=
  if exponent < 0 then
    ['0', '.'] ++ List.replicate (exponent.natAbs - 1) '0' ++ ds
  else
    let size := exponent.toNat + 1
    let whole := ds.take size ++ List.replicate (size - ds.length) '0'
    let fraction := ds.drop size
    whole ++ '.' :: (if fraction.isEmpty then ['0'] else fraction)

/-- The text of the magnitude of a finite double. -/
def magnitudeText (x : Float) : List Char :=
  let (m, q) := magnitude x
  if m == 0 then ['0', '.', '0']
  else
    let (d, e) := Shortest.decimal m q
    let ds := digits d
    let exponent := e + ds.length - 1
    if -5 ≤ exponent && exponent < 16 then positional ds exponent else scientific ds exponent

def text (x : Float) : List Char :=
  if isNegative x then '-' :: magnitudeText x else magnitudeText x

/-- `10 ^ n` as the nearest double, for `n` up to 308. -/
def powerOfTen (n : Nat) : Float :=
  Float.ofScientific 1 false n

/-- Scales `x` by `10 ^ -n`, at most 308 places at a time. -/
def shrink (x : Float) (n : Nat) : Float :=
  if n ≤ 308 then x / powerOfTen n
  else if x == 0.0 then x
  else shrink (x / powerOfTen 308) (n - 308)
termination_by n

/-- Scales `x` by `10 ^ exponent`; none when the result exceeds every double. -/
def scaled? (x : Float) (exponent : Int) : Option Float :=
  if exponent < 0 then some (shrink x exponent.natAbs)
  else if exponent ≤ 308 then
    let y := x * powerOfTen exponent.toNat
    if y.isInf then none else some y
  else if x == 0.0 then some x
  else none

end BlogSearch.Decimal.Double
