import BlogSearch.Decimal.Double
import BlogSearch.Json.Basic

/-!
# Numbers as they were written

A numeral keeps the digits of a number of a text.  Digits alone name a whole number when it fits 64
bits; every other numeral names the double that its leading digits give when they are scaled by a
power of ten, and none when that exceeds every double.
-/

namespace BlogSearch.Json

/-- A number as it was written: sign, digits before the point, digits after it, and the sign and
digits of the exponent. -/
structure Numeral where
  negative : Bool
  whole : List Char
  fraction : List Char
  exponent : Option (Bool × List Char)
  deriving DecidableEq

namespace Numeral

/-- Appends digits to a significand as long as it fits 64 bits, and returns the digits left. -/
def accumulate (significand : Nat) : List Char → Nat × List Char
  | [] => (significand, [])
  | d :: rest =>
      let next := 10 * significand + (d.toNat - '0'.toNat)
      if next < 18446744073709551616 then accumulate next rest else (significand, d :: rest)

/-- The power of ten that the exponent names. -/
def power (n : Numeral) : Int :=
  match n.exponent with
  | none => 0
  | some (negative, ds) =>
      let size := Int.ofNat (Nat.ofDigitChars 10 ds 0)
      if negative then -size else size

/-- The double that the numeral names: the digits that fit a word, scaled by a power of ten. -/
def double? (n : Numeral) : Option Float :=
  let (front, dropped) := accumulate 0 n.whole
  let (significand, rest) := accumulate front n.fraction
  let places : Int := dropped.length - (n.fraction.length - rest.length : Nat)
  (Decimal.Double.scaled? (UInt64.ofNat significand).toFloat (places + n.power)).map
    fun x => if n.negative then -x else x

/-- Digits alone name a whole number, if it fits; a minus sign before zero does not. -/
def whole? (n : Numeral) : Option Int :=
  if n.fraction.isEmpty && n.exponent.isNone then
    let size := Int.ofNat (Nat.ofDigitChars 10 n.whole 0)
    if n.negative then
      if 1 ≤ size && size ≤ 9223372036854775808 then some (-size) else none
    else if size ≤ 18446744073709551615 then some size
    else none
  else none

/-- The number that the numeral names; none when it exceeds every double. -/
def number? (n : Numeral) : Option Number :=
  match n.whole? with
  | some size => if h : IsWord size then some (.whole size h) else none
  | none => n.double?.map Number.double

end Numeral

end BlogSearch.Json
