/-!
# Natural numbers in decimal

Numbers are written without leading zeros and read with any number of them.  Where a number is read
from a path or a setting, one plus sign may stand before the digits.
-/

namespace BlogSearch.Decimal

def digits (n : Nat) : List Char :=
  Nat.toDigits 10 n

/-- The decimal digits of a number as a text. -/
def text (n : Nat) : String :=
  String.ofList (digits n)

/-- The number that a nonempty list of digits stands for. -/
def value? (cs : List Char) : Option Nat :=
  if cs.isEmpty || !cs.all Char.isDigit then none else some (Nat.ofDigitChars 10 cs 0)

/-- Reads an optional plus sign and digits, and accepts values below `limit`. -/
def unsigned? (limit : Nat) (cs : List Char) : Option Nat :=
  let body := match cs with
    | '+' :: rest => rest
    | _ => cs
  (value? body).filter (· < limit)

/-- The digits of a number read back as the number. -/
theorem value?_digits (n : Nat) : value? (digits n) = some n := by
  have all : (digits n).all Char.isDigit = true := by
    rw [List.all_eq_true]
    intro c h
    exact Nat.isDigit_of_mem_toDigits (by decide) (by decide) h
  have nonempty : (digits n).isEmpty = false := by
    simp [digits, Nat.toDigits_ne_nil]
  simp only [value?, all, nonempty]
  simp [digits, Nat.ofDigitChars_ten_toDigits]

end BlogSearch.Decimal
