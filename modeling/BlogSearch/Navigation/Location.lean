import BlogSearch.Decimal.Natural
import BlogSearch.Text.Blank
import BlogSearch.Text.Percent
import BlogSearch.Text.Pieces

/-!
# Locations of searches

A search has a path of its own: `/search`, then blog and query in percent-coding, then a page beyond
the first.  Reading is more lenient than writing: slashes at either end do not count, a query string
and a fragment are cut off, and blog, query and page may be missing.
-/

namespace BlogSearch

open Text

/-- The search that a path names. -/
structure Location where
  blog : String
  query : String
  page : UInt32
  deriving DecidableEq

namespace Location

/-- The segment that comes before the number of a page. -/
def pageSegment : List Char := ['p', 'a', 'g', 'e']

/-- The first segment of every path of a search. -/
def searchSegment : List Char := ['s', 'e', 'a', 'r', 'c', 'h']

/-- The characters of the path of a search. -/
def pathChars (l : Location) : List Char :=
  '/' :: searchSegment ++ '/' :: Percent.encodeChars l.blog.toList ++
    '/' :: Percent.encodeChars l.query.toList ++
    (if 1 < l.page then '/' :: pageSegment ++ '/' :: Decimal.digits l.page.toNat else [])

def path (l : Location) : String :=
  String.ofList l.pathChars

/-- The text before its first question mark or number sign, without slashes at its ends. -/
def core (s : List Char) : List Char :=
  trimBoth (· == '/') (s.takeWhile fun c => !(c == '?' || c == '#'))

/-- The text that a segment stands for. -/
def decodeSegment (s : List Char) : Option String :=
  Percent.decode (String.ofList s)

/-- The search that the segments after the first name. -/
def ofSegments? : List (List Char) → Option Location
  | [] => some ⟨"", "", 1⟩
  | [blog] => (decodeSegment blog).map fun b => ⟨b, "", 1⟩
  | [blog, query] => do
      let b ← decodeSegment blog
      let q ← decodeSegment query
      return ⟨b, q, 1⟩
  | [blog, query, marker, number] =>
      if marker = pageSegment then do
        let n ← Decimal.unsigned? 4294967296 number
        let b ← decodeSegment blog
        let q ← decodeSegment query
        return ⟨b, q, max (UInt32.ofNat n) 1⟩
      else none
  | _ => none

/-- The search that a path names, if it names one. -/
def read? (path : String) : Option Location :=
  match pieces '/' (core path.toList) with
  | first :: rest => if first = searchSegment then ofSegments? rest else none
  | [] => none

end Location

end BlogSearch
