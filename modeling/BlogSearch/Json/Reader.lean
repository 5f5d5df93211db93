import BlogSearch.Json.Document
import BlogSearch.Json.Numeral
import BlogSearch.Text.Hex

/-!
# Reading JSON texts

A text is read from the left into a document.  Every reading function returns what it read together
with the rest of the text, and no rest when the text broke.
-/

namespace BlogSearch.Json.Reader

open BlogSearch.Text

def isSpace (c : Char) : Bool :=
  c == ' ' || c == '\n' || c == '\t' || c == '\r'

/-- The text from its first token on. -/
def skipSpace (s : List Char) : List Char :=
  s.dropWhile isSpace

/-- A piece of a string: a character that stands for itself, or a 16-bit unit from an escape. -/
inductive Piece where
  | char (c : Char)
  | unit (n : Nat)

/-- The 16-bit unit that four hexadecimal digits name. -/
def unit? (a b c d : Char) : Option Nat :=
  match Hex.value? a, Hex.value? b, Hex.value? c, Hex.value? d with
  | some w, some x, some y, some z => some (4096 * w + 256 * x + 16 * y + z)
  | _, _, _, _ => none

/-- The character that an escape of one letter names. -/
def escaped? : Char → Option Char
  | '"' => some '"'
  | '\\' => some '\\'
  | '/' => some '/'
  | 'b' => some (Char.ofNat 8)
  | 'f' => some (Char.ofNat 12)
  | 'n' => some '\n'
  | 'r' => some '\r'
  | 't' => some '\t'
  | _ => none

/-- Reads the pieces of a string up to its closing quote.  A control character breaks it. -/
def pieces : List Char → Option (List Piece × List Char)
  | [] => none
  | '"' :: rest => some ([], rest)
  | '\\' :: 'u' :: a :: b :: c :: d :: rest =>
      match unit? a b c d with
      | some n => (pieces rest).map fun (ps, r) => (.unit n :: ps, r)
      | none => none
  | '\\' :: e :: rest =>
      match escaped? e with
      | some c => (pieces rest).map fun (ps, r) => (.char c :: ps, r)
      | none => none
  | c :: rest =>
      if c == '\\' || c.toNat < 0x20 then none
      else (pieces rest).map fun (ps, r) => (.char c :: ps, r)

/-- The characters that the pieces name: a unit of the high surrogates and one of the low surrogates
after it name one character together, and either alone names none. -/
def joined? : List Piece → Option (List Char)
  | [] => some []
  | .char c :: rest => (joined? rest).map (c :: ·)
  | [.unit n] => if 0xD800 ≤ n && n ≤ 0xDFFF then none else some [Char.ofNat n]
  | .unit n :: .unit m :: rest =>
      if 0xD800 ≤ n && n ≤ 0xDBFF then
        if 0xDC00 ≤ m && m ≤ 0xDFFF then
          (joined? rest).map (Char.ofNat (0x10000 + 0x400 * (n - 0xD800) + (m - 0xDC00)) :: ·)
        else none
      else if 0xDC00 ≤ n && n ≤ 0xDFFF then none
      else (joined? (.unit m :: rest)).map (Char.ofNat n :: ·)
  | .unit n :: .char c :: rest =>
      if 0xD800 ≤ n && n ≤ 0xDFFF then none
      else (joined? (.char c :: rest)).map (Char.ofNat n :: ·)

/-- Reads a string after its opening quote: what it names, if its escapes name a text, and the rest.
-/
def string? (s : List Char) : Option (Option String × List Char) :=
  (pieces s).map fun (ps, rest) => ((joined? ps).map String.ofList, rest)

def string (s : List Char) : Document × Option (List Char) :=
  match string? s with
  | some (content, rest) => (.string content, some rest)
  | none => (.broken, none)

/-- Reads a key. -/
def key? (s : List Char) : Option (Option String × List Char) :=
  match skipSpace s with
  | '"' :: rest => string? rest
  | _ => none

/-- Splits a text after its leading digits. -/
def spanDigits (s : List Char) : List Char × List Char :=
  (s.takeWhile Char.isDigit, s.dropWhile Char.isDigit)

/-- Reads the digits before the point: a zero alone, or digits that begin with another one. -/
def wholePart? (s : List Char) : Option (List Char × List Char) :=
  match spanDigits s with
  | ([], _) => none
  | (['0'], rest) => some (['0'], rest)
  | ('0' :: _, _) => none
  | (ds, rest) => some (ds, rest)

/-- Reads a point and the digits after it, if a point stands there. -/
def fractionPart? : List Char → Option (List Char × List Char)
  | '.' :: rest =>
      match spanDigits rest with
      | ([], _) => none
      | (ds, rest) => some (ds, rest)
  | s => some ([], s)

/-- Reads the digits of an exponent after its sign. -/
def exponentDigits? (negative : Bool) (s : List Char) :
    Option (Option (Bool × List Char) × List Char) :=
  match spanDigits s with
  | ([], _) => none
  | (ds, rest) => some (some (negative, ds), rest)

/-- Reads an exponent, if one stands there. -/
def exponentPart? (s : List Char) : Option (Option (Bool × List Char) × List Char) :=
  match s with
  | c :: rest =>
      if c == 'e' || c == 'E' then
        match rest with
        | '+' :: ds => exponentDigits? false ds
        | '-' :: ds => exponentDigits? true ds
        | ds => exponentDigits? false ds
      else some (none, s)
  | [] => some (none, [])

/-- Reads a number after its sign. -/
def numeral? (negative : Bool) (s : List Char) : Option (Numeral × List Char) := do
  let (whole, s) ← wholePart? s
  let (fraction, s) ← fractionPart? s
  let (exponent, s) ← exponentPart? s
  return (⟨negative, whole, fraction, exponent⟩, s)

def number (s : List Char) : Document × Option (List Char) :=
  let read := match s with
    | '-' :: rest => numeral? true rest
    | _ => numeral? false s
  match read with
  | some (n, rest) => (.number n.number?, some rest)
  | none => (.broken, none)

mutual

/-- Reads one value.  The fuel bounds the nesting of calls. -/
def value (fuel : Nat) (s : List Char) : Document × Option (List Char) :=
  match fuel with
  | 0 => (.broken, none)
  | fuel + 1 =>
      match skipSpace s with
      | '[' :: rest =>
          match skipSpace rest with
          | ']' :: rest => (.array [] true, some rest)
          | _ =>
              let (items, after) := items fuel rest
              (.array items after.isSome, after)
      | '\x7b' :: rest =>
          match skipSpace rest with
          | '\x7d' :: rest => (.object [] true, some rest)
          | _ =>
              let (members, after) := members fuel rest
              (.object members after.isSome, after)
      | '"' :: rest => string rest
      | 't' :: 'r' :: 'u' :: 'e' :: rest => (.bool true, some rest)
      | 'f' :: 'a' :: 'l' :: 's' :: 'e' :: rest => (.bool false, some rest)
      | 'n' :: 'u' :: 'l' :: 'l' :: rest => (.null, some rest)
      | rest => number rest

/-- Reads items up to the closing bracket, at least one. -/
def items (fuel : Nat) (s : List Char) : List Document × Option (List Char) :=
  match fuel with
  | 0 => ([.broken], none)
  | fuel + 1 =>
      match value fuel s with
      | (d, none) => ([d], none)
      | (d, some rest) =>
          match skipSpace rest with
          | ',' :: rest =>
              let (ds, after) := items fuel rest
              (d :: ds, after)
          | ']' :: rest => ([d], some rest)
          | _ => ([d], none)

/-- Reads members up to the closing brace, at least one.  A member of which only the key stands is
kept as a broken one. -/
def members (fuel : Nat) (s : List Char) :
    List (Option String × Document) × Option (List Char) :=
  match fuel with
  | 0 => ([], none)
  | fuel + 1 =>
      match key? s with
      | none => ([], none)
      | some (key, rest) =>
          match skipSpace rest with
          | ':' :: rest =>
              match value fuel rest with
              | (d, none) => ([(key, d)], none)
              | (d, some rest) =>
                  match skipSpace rest with
                  | ',' :: rest =>
                      let (ms, after) := members fuel rest
                      ((key, d) :: ms, after)
                  | '\x7d' :: rest => ([(key, d)], some rest)
                  | _ => ([(key, d)], none)
          | _ => ([(key, .broken)], none)

end

/-- Fuel for a text: a call that reads no character is followed by one that does. -/
def fuelFor (s : List Char) : Nat :=
  2 * s.length + 2

end BlogSearch.Json.Reader

namespace BlogSearch.Json

/-- What a whole text holds: its first value, and whether only space follows it. -/
structure Scan where
  document : Document
  finished : Bool

/-- Reads a whole text. -/
def scan (s : List Char) : Scan :=
  match Reader.value (Reader.fuelFor s) s with
  | (d, some rest) => ⟨d, (Reader.skipSpace rest).isEmpty⟩
  | (d, none) => ⟨d, false⟩

/-- The value of a text that is JSON to its end. -/
def Value.read? (s : String) : Option Value :=
  let whole := scan s.toList
  if whole.finished then whole.document.value? Document.nestingLimit else none

end BlogSearch.Json
