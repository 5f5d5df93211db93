import BlogSearch.Text.Hex
import BlogSearch.Text.Pieces

/-!
# The target of a redirect

A redirect names its target by a path of the same host, which may be relative to the path of the
request.  Dots in it are resolved, characters that may not stand in a path or a query string are
percent-coded, and a fragment is dropped.
-/

namespace BlogSearch.Target

open Text

/-- The characters that are ignored wherever they stand. -/
def isIgnored (c : Char) : Bool :=
  c == '\t' || c == '\n' || c == '\r'

/-- The characters that are ignored at the ends. -/
def isEdge (c : Char) : Bool :=
  c.toNat ≤ 0x20

/-- Writes one character, percent-coded unless it is visible ASCII that is not reserved. -/
def escapeChar (reserved : List Char) (c : Char) : List Char :=
  if 0x20 < c.toNat && c.toNat < 0x7F && !reserved.contains c then [c]
  else
    (String.utf8EncodeChar c).flatMap fun b =>
      ['%', Hex.upper (b.toNat / 16), Hex.upper (b.toNat % 16)]

/-- The visible characters that are percent-coded in a path. -/
def reservedInPath : List Char :=
  ['"', '<', '>', Char.ofNat 0x60, '#', '?', '\x7b', '\x7d']

/-- The visible characters that are percent-coded in a query string. -/
def reservedInQuery : List Char :=
  ['"', '<', '>', '#', Char.ofNat 0x27]

def isDot (segment : List Char) : Bool :=
  [".", "%2e"].contains (String.ofList (segment.map Char.toLower))

def isDoubleDot (segment : List Char) : Bool :=
  ["..", ".%2e", "%2e.", "%2e%2e"].contains (String.ofList (segment.map Char.toLower))

/-- Appends segments to a list of segments and resolves their dots.  Dots at the end leave an empty
segment. -/
def walk (kept : List (List Char)) : List (List Char) → List (List Char)
  | [] => kept
  | [last] =>
      if isDoubleDot last then kept.dropLast ++ [[]]
      else if isDot last then kept ++ [[]]
      else kept ++ [last]
  | segment :: rest =>
      if isDoubleDot segment then walk kept.dropLast rest
      else if isDot segment then walk kept rest
      else walk (kept ++ [segment]) rest

/-- The segments of a path after its first slash. -/
def segments (path : List Char) : List (List Char) :=
  pieces '/' (path.drop 1)

def write (segments : List (List Char)) : List Char :=
  segments.flatMap fun s => '/' :: s.flatMap (escapeChar reservedInPath)

/-- The path that a named path leads to from another one. -/
def resolvePath (base named : List Char) : List Char :=
  match named.map fun c => if c == '\\' then '/' else c with
  | [] => base
  | '/' :: rest => write (walk [] (pieces '/' rest))
  | relative => write (walk (segments base).dropLast (pieces '/' relative))

/-- The path and query string that a location leads to from another path and query string. -/
def resolve (base location : String) : String :=
  let named := ((location.toList.reverse.dropWhile isEdge).reverse.dropWhile isEdge).filter
    fun c => !isIgnored c
  let whole := named.takeWhile (· != '#')
  let path := whole.takeWhile (· != '?')
  let basePath := base.toList.takeWhile (· != '?')
  let query :=
    match whole.dropWhile (· != '?') with
    | _ :: query => '?' :: query.flatMap (escapeChar reservedInQuery)
    | [] => if path.isEmpty then base.toList.dropWhile (· != '?') else []
  String.ofList (resolvePath basePath path ++ query)

end BlogSearch.Target
