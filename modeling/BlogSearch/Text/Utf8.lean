/-!
# Reading bytes as UTF-8

Bytes from outside need not be UTF-8.  `decode?` refuses those that are not; `decodeLossy` puts one
replacement character for every maximal part that cannot be read.
-/

namespace BlogSearch.Text.Utf8

/-- The bytes of a text. -/
def encode (s : String) : List UInt8 :=
  s.toUTF8.data.toList

/-- The text with these bytes, if they are UTF-8. -/
def decode? (bytes : List UInt8) : Option String :=
  String.fromUTF8? bytes.toByteArray

/-- A character that has begun: how many bytes it still needs, the range of the next one, and the
value of the bits read so far. -/
structure Pending where
  need : Nat
  low : Nat
  high : Nat
  value : Nat

/-- The character that stands for bytes that cannot be read. -/
def replacement : Char := Char.ofNat 0xFFFD

/-- What a byte between two characters begins: a finished character, or one that needs more. -/
def begin (b : UInt8) : List Char × Option Pending :=
  let n := b.toNat
  if n < 0x80 then ([Char.ofNat n], none)
  else if 0xC2 ≤ n && n ≤ 0xDF then ([], some ⟨1, 0x80, 0xBF, n - 0xC0⟩)
  else if n == 0xE0 then ([], some ⟨2, 0xA0, 0xBF, 0⟩)
  else if n == 0xED then ([], some ⟨2, 0x80, 0x9F, 0xD⟩)
  else if 0xE1 ≤ n && n ≤ 0xEF then ([], some ⟨2, 0x80, 0xBF, n - 0xE0⟩)
  else if n == 0xF0 then ([], some ⟨3, 0x90, 0xBF, 0⟩)
  else if 0xF1 ≤ n && n ≤ 0xF3 then ([], some ⟨3, 0x80, 0xBF, n - 0xF0⟩)
  else if n == 0xF4 then ([], some ⟨3, 0x80, 0x8F, 4⟩)
  else ([replacement], none)

/-- Reads on from a character that may have begun. -/
def decodeFrom : Option Pending → List UInt8 → List Char
  | none, [] => []
  | some _, [] => [replacement]
  | none, b :: rest =>
      let started := begin b
      started.1 ++ decodeFrom started.2 rest
  | some p, b :: rest =>
      let n := b.toNat
      if p.low ≤ n && n ≤ p.high then
        let value := 64 * p.value + (n - 0x80)
        if p.need ≤ 1 then Char.ofNat value :: decodeFrom none rest
        else decodeFrom (some ⟨p.need - 1, 0x80, 0xBF, value⟩) rest
      else
        let started := begin b
        replacement :: (started.1 ++ decodeFrom started.2 rest)

/-- The text of the bytes, with a replacement character for every maximal unreadable part. -/
def decodeLossy (bytes : List UInt8) : String :=
  String.ofList (decodeFrom none bytes)

end BlogSearch.Text.Utf8
