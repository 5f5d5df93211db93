import BlogSearch.Text.Hex

/-!
# Percent-coding

A text is written as the bytes of its UTF-8 form; a byte that is an ASCII letter, a digit or one of
`-`, `_`, `.`, `~` stands for itself and every other byte becomes a percent sign and two upper-case
hexadecimal digits.  Reading takes every percent sign that two hexadecimal digits follow for the byte
they name, leaves all else as it stands, and fails when the bytes are not UTF-8.
-/

namespace BlogSearch.Text.Percent

/-- The bytes that are written as themselves. -/
def isUnreserved (b : UInt8) : Bool :=
  let n := b.toNat
  (65 ≤ n && n ≤ 90) || (97 ≤ n && n ≤ 122) || (48 ≤ n && n ≤ 57) ||
    n == 45 || n == 95 || n == 46 || n == 126

def encodeByte (b : UInt8) : List Char :=
  if isUnreserved b then [Char.ofNat b.toNat]
  else ['%', Hex.upper (b.toNat / 16), Hex.upper (b.toNat % 16)]

/-- The written form of a list of characters. -/
def encodeChars (s : List Char) : List Char :=
  s.flatMap fun c => (String.utf8EncodeChar c).flatMap encodeByte

/-- The written form of a text. -/
def encode (s : String) : String :=
  String.ofList (encodeChars s.toList)

/-- The bytes that a written form stands for. -/
def decodeBytes : List Char → List UInt8
  | '%' :: h :: l :: rest =>
      match Hex.value? h, Hex.value? l with
      | some x, some y => UInt8.ofNat (16 * x + y) :: decodeBytes rest
      | _, _ => 37 :: decodeBytes (h :: l :: rest)
  | c :: rest => String.utf8EncodeChar c ++ decodeBytes rest
  | [] => []

/-- The text that a written form stands for, if its bytes are UTF-8. -/
def decode (s : String) : Option String :=
  String.fromUTF8? (decodeBytes s.toList).toByteArray

end BlogSearch.Text.Percent
