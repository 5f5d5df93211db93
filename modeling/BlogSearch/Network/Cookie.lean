import BlogSearch.Network.CookieDate
import BlogSearch.Text.Blank
import BlogSearch.Text.Pieces

/-!
# Cookies

A response may hand out cookies, which later requests carry back when their path is the path of the
cookie or lies below it.  A cookie is known by its name and path; a new one replaces the old one,
and one that has expired removes it.

A line names a cookie and then its attributes.  An attribute that cannot be read is as if it were not
there; of several with one name the last counts.
-/

namespace BlogSearch

open Text

structure Cookie where
  name : List Char
  value : List Char
  path : List Char
  deriving DecidableEq

/-- The attributes of a line: the host that the cookie is meant for, the path it belongs to, the
seconds for which it lives, and the date on which it expires. -/
structure CookieAttributes where
  domain : Option (List Char)
  path : Option (List Char)
  maxAge : Option Nat
  expires : Option Int
  deriving DecidableEq

/-- A line that hands out a cookie. -/
structure CookieLine where
  name : List Char
  value : List Char
  attributes : CookieAttributes
  deriving DecidableEq

namespace CookieAttributes

def empty : CookieAttributes :=
  ⟨none, none, none, none⟩

/-- The seconds that a lifetime names; a negative one is over at once. -/
def lifetime? : List Char → Option Nat
  | '-' :: digits => if digits.all Char.isDigit then some 0 else none
  | digits =>
      if digits.all Char.isDigit then some ((Decimal.value? digits).getD 9223372036854775807)
      else none

/-- A host without one dot before it; the empty host is none. -/
def host? : List Char → Option (List Char)
  | [] => none
  | '.' :: rest => some rest
  | host => some host

/-- Adds an attribute to those before it. -/
def add (a : CookieAttributes) (name : String) (value : List Char) : CookieAttributes :=
  match name with
  | "domain" => { a with domain := (host? value).or a.domain }
  | "path" => { a with path := some value }
  | "max-age" => { a with maxAge := (lifetime? value).or a.maxAge }
  | "expires" => { a with expires := (CookieDate.seconds? value).or a.expires }
  | _ => a

/-- The cookie is dead on arrival: its lifetime is zero or, without a lifetime, its date is past. -/
def isExpired (now : Int) (a : CookieAttributes) : Bool :=
  match a.maxAge, a.expires with
  | some age, _ => age == 0
  | none, some date => date ≤ now
  | none, none => false

/-- The attributes allow a host: they name none, or it.  One dot more may stand before the name. -/
def allows (a : CookieAttributes) (host : List Char) : Bool :=
  match (a.domain.map (trimBoth isBlank)).map (·.map Char.toLower) with
  | none => true
  | some [] => true
  | some ['.'] => true
  | some ('.' :: domain) => domain == host
  | some domain => domain == host

end CookieAttributes

namespace CookieLine

/-- Splits a piece at its first equals sign, without blanks at the ends of the two parts. -/
def assignment (piece : List Char) : List Char × Option (List Char) :=
  let name := trimBoth isBlank (piece.takeWhile (· != '='))
  match piece.dropWhile (· != '=') with
  | _ :: value => (name, some (trimBoth isBlank value))
  | [] => (name, none)

/-- Reads the attributes; one without an equals sign says nothing. -/
def readAttributes (written : List (List Char)) : CookieAttributes :=
  written.foldl
    (fun a piece =>
      match assignment piece with
      | (name, some value) => a.add (String.ofList (name.map Char.toLower)) value
      | (_, none) => a)
    CookieAttributes.empty

/-- Reads a line.  Without an equals sign or a name there is no cookie. -/
def read? (line : List Char) : Option CookieLine :=
  match pieces ';' line with
  | first :: rest =>
      match assignment first with
      | (name, some value) => if name.isEmpty then none else some ⟨name, value, readAttributes rest⟩
      | (_, none) => none
  | [] => none

/-- The directory of a path: what comes before its last slash, or the root. -/
def directory (path : List Char) : List Char :=
  let front := (path.reverse.dropWhile (· != '/')).drop 1
  if front.isEmpty then ['/'] else front.reverse

/-- The cookie of a line that came with the answer to a request for a path. -/
def cookie (line : CookieLine) (requestPath : List Char) : Cookie :=
  let path := match line.attributes.path with
    | some ('/' :: rest) => '/' :: rest
    | _ => directory requestPath
  ⟨line.name, line.value, path⟩

end CookieLine

/-- The cookies of one host, at a time in seconds from the beginning of 1970. -/
structure Jar where
  host : List Char
  now : Int
  cookies : List Cookie
  deriving DecidableEq

namespace Jar

/-- Stores the cookie of a line, or removes the one it replaces when it has expired. -/
def store (jar : Jar) (requestPath : List Char) (line : CookieLine) : Jar :=
  if line.attributes.allows jar.host then
    let cookie := line.cookie requestPath
    let others := jar.cookies.filter fun c => !(c.name == cookie.name && c.path == cookie.path)
    { jar with
      cookies := if line.attributes.isExpired jar.now then others else others ++ [cookie] }
  else jar

/-- Stores the cookies that came with the answer to a request for a path. -/
def receive (jar : Jar) (requestPath : List Char) (lines : List String) : Jar :=
  lines.foldl
    (fun jar line =>
      match CookieLine.read? line.toList with
      | some read => jar.store requestPath read
      | none => jar)
    jar

/-- A path is the path of a cookie or lies below it. -/
def covers (cookiePath path : List Char) : Bool :=
  cookiePath.isPrefixOf path &&
    (cookiePath.getLast? == some '/' || path.length == cookiePath.length ||
      path[cookiePath.length]? == some '/')

/-- What a request for a path carries back. -/
def carried (jar : Jar) (path : List Char) : List String :=
  (jar.cookies.filter fun c => covers c.path path).map fun c =>
    String.ofList (c.name ++ '=' :: c.value)

end Jar

end BlogSearch
