/-!
# Blank characters and trimming

This module holds the character class White_Space and the operations that strip a class of
characters from the ends of a text.  Trimming is stated over lists of characters, so that the two
ends can be reasoned about separately.
-/

namespace BlogSearch.Text

/-- The characters with the Unicode property White_Space. -/
def isBlank (c : Char) : Bool :=
  let n := c.toNat
  (9 ≤ n && n ≤ 13) || n == 0x20 || n == 0x85 || n == 0xA0 || n == 0x1680 ||
    (0x2000 ≤ n && n ≤ 0x200A) || n == 0x2028 || n == 0x2029 || n == 0x202F ||
    n == 0x205F || n == 0x3000

/-- Removes the longest tail whose characters all satisfy `p`. -/
def dropEnd (p : Char → Bool) (s : List Char) : List Char :=
  (s.reverse.dropWhile p).reverse

/-- Removes the characters that satisfy `p` from both ends. -/
def trimBoth (p : Char → Bool) (s : List Char) : List Char :=
  dropEnd p (s.dropWhile p)

def trim (s : String) : String :=
  String.ofList (trimBoth isBlank s.toList)

/-- Removes every `/` at the end. -/
def dropSlashes (s : String) : String :=
  String.ofList (dropEnd (· == '/') s.toList)

/-- A text that is empty or consists of blanks. -/
def isBlankText (s : String) : Bool :=
  s.toList.all isBlank

/-- The text `lead` stands at the beginning of `s`. -/
def beginsWith (lead s : String) : Bool :=
  lead.toList.isPrefixOf s.toList

end BlogSearch.Text
