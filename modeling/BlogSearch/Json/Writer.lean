import BlogSearch.Decimal.Double
import BlogSearch.Json.Basic
import BlogSearch.Text.Hex

/-!
# Writing JSON texts

A value is written compactly, without space, or laid out with one item or member on a line.  In
strings only quotes, backslashes and control characters are escaped.
-/

namespace BlogSearch.Json

/-- The written form of one character of a string. -/
def writeChar (c : Char) : List Char :=
  if c == '"' then ['\\', '"']
  else if c == '\\' then ['\\', '\\']
  else if c == '\n' then ['\\', 'n']
  else if c == '\r' then ['\\', 'r']
  else if c == '\t' then ['\\', 't']
  else if c.toNat == 8 then ['\\', 'b']
  else if c.toNat == 12 then ['\\', 'f']
  else if c.toNat < 0x20 then
    ['\\', 'u', '0', '0', Text.Hex.lower (c.toNat / 16), Text.Hex.lower (c.toNat % 16)]
  else [c]

/-- A string between quotes. -/
def writeString (s : String) : List Char :=
  '"' :: (s.toList.flatMap writeChar ++ ['"'])

/-- The digits of a whole number after its sign. -/
def writeWhole (n : Int) : List Char :=
  if n < 0 then '-' :: Decimal.digits n.natAbs else Decimal.digits n.natAbs

/-- A number in the shortest form that reads back as it. -/
def Number.write : Number → List Char
  | .whole n _ => writeWhole n
  | .double x => Decimal.Double.text x

namespace Value

mutual

/-- The compact text of a value. -/
def compactChars : Value → List Char
  | .null => ['n', 'u', 'l', 'l']
  | .bool true => ['t', 'r', 'u', 'e']
  | .bool false => ['f', 'a', 'l', 's', 'e']
  | .number n => n.write
  | .string s => writeString s
  | .array [] => ['[', ']']
  | .array (v :: rest) => '[' :: (compactChars v ++ compactItems rest)
  | .object [] => ['\x7b', '\x7d']
  | .object ((key, v) :: rest) =>
      '\x7b' :: (writeString key ++ ':' :: (compactChars v ++ compactMembers rest))

/-- The items after the first, and the closing bracket. -/
def compactItems : List Value → List Char
  | [] => [']']
  | v :: rest => ',' :: (compactChars v ++ compactItems rest)

/-- The members after the first, and the closing brace. -/
def compactMembers : List (String × Value) → List Char
  | [] => ['\x7d']
  | (key, v) :: rest =>
      ',' :: (writeString key ++ ':' :: (compactChars v ++ compactMembers rest))

end

/-- A line break and the indentation of a level. -/
def newline (level : Nat) : List Char :=
  '\n' :: List.replicate (2 * level) ' '

mutual

/-- The laid-out text of a value at a level of nesting. -/
def prettyChars (level : Nat) : Value → List Char
  | .null => ['n', 'u', 'l', 'l']
  | .bool true => ['t', 'r', 'u', 'e']
  | .bool false => ['f', 'a', 'l', 's', 'e']
  | .number n => n.write
  | .string s => writeString s
  | .array [] => ['[', ']']
  | .array (v :: rest) =>
      '[' :: (newline (level + 1) ++ prettyChars (level + 1) v ++ prettyItems level rest)
  | .object [] => ['\x7b', '\x7d']
  | .object ((key, v) :: rest) =>
      '\x7b' :: (newline (level + 1) ++ writeString key ++ ':' :: ' ' ::
        (prettyChars (level + 1) v ++ prettyMembers level rest))

/-- The items after the first, and the closing bracket on a line of its own. -/
def prettyItems (level : Nat) : List Value → List Char
  | [] => newline level ++ [']']
  | v :: rest =>
      ',' :: (newline (level + 1) ++ prettyChars (level + 1) v ++ prettyItems level rest)

/-- The members after the first, and the closing brace on a line of its own. -/
def prettyMembers (level : Nat) : List (String × Value) → List Char
  | [] => newline level ++ ['\x7d']
  | (key, v) :: rest =>
      ',' :: (newline (level + 1) ++ writeString key ++ ':' :: ' ' ::
        (prettyChars (level + 1) v ++ prettyMembers level rest))

end

/-- The compact text of a value. -/
def compact (v : Value) : String :=
  String.ofList v.compactChars

/-- The laid-out text of a value, indented by two spaces a level. -/
def pretty (v : Value) : String :=
  String.ofList (v.prettyChars 0)

end Value

end BlogSearch.Json
