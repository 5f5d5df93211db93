/-!
# Hexadecimal digits

Digits are written in upper case or in lower case, and read in either.
-/

namespace BlogSearch.Text.Hex

/-- The upper-case digit of a number below 16. -/
def upper (n : Nat) : Char :=
  if n < 10 then Char.ofNat (48 + n) else Char.ofNat (55 + n)

/-- The lower-case digit of a number below 16. -/
def lower (n : Nat) : Char :=
  if n < 10 then Char.ofNat (48 + n) else Char.ofNat (87 + n)

/-- The value of a digit of either case. -/
def value? (c : Char) : Option Nat :=
  let n := c.toNat
  if 48 ≤ n && n ≤ 57 then some (n - 48)
  else if 65 ≤ n && n ≤ 70 then some (n - 55)
  else if 97 ≤ n && n ≤ 102 then some (n - 87)
  else none

/-- An upper-case digit reads back as its value. -/
theorem value?_upper
    {n : Nat} (h : n < 16) : value? (upper n) = some n := by
  have all : ∀ k ∈ List.range 16, value? (upper k) = some k := by decide
  exact all n (List.mem_range.mpr h)

/-- A lower-case digit reads back as its value. -/
theorem value?_lower
    {n : Nat} (h : n < 16) : value? (lower n) = some n := by
  have all : ∀ k ∈ List.range 16, value? (lower k) = some k := by decide
  exact all n (List.mem_range.mpr h)

end BlogSearch.Text.Hex
