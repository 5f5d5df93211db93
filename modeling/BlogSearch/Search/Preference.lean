import BlogSearch.Json.Decoder
import BlogSearch.Text.Blank
import BlogSearch.Text.Case

/-!
# Preferences of a search

A search asks for a way to render posts and for an order of the results.  Each has a fixed set of
names, which are also its wire form.  A preference that a person typed is read without regard to
case and to blanks around it.
-/

namespace BlogSearch

open Json

/-- How the backend renders each post. -/
inductive Renderer where
  | plain
  | html
  | embed
  deriving DecidableEq

/-- The order of the results. -/
inductive SortOrder where
  | newest
  | oldest
  | relevance
  deriving DecidableEq

/-- A typed preference that names nothing. -/
inductive UnknownPreference where
  | renderer (name : String)
  | sortOrder (name : String)
  deriving DecidableEq

def UnknownPreference.message : UnknownPreference → String
  | .renderer name => "unknown renderer '" ++ name ++ "', expected plain, html or embed"
  | .sortOrder name =>
      "unknown sort order '" ++ name ++ "', expected newest, oldest or relevance"

namespace Renderer

instance : Inhabited Renderer := ⟨.html⟩

def name : Renderer → String
  | .plain => "plain"
  | .html => "html"
  | .embed => "embed"

def known : List (String × Renderer) :=
  [("plain", .plain), ("html", .html), ("embed", .embed)]

def json (r : Renderer) : Value :=
  .string r.name

def decode : Decoder Renderer :=
  Decoder.variant known

def read (typed : String) : Except UnknownPreference Renderer :=
  let name := Text.Case.lower (Text.trim typed)
  match known.find? fun entry => entry.1 == name with
  | some entry => .ok entry.2
  | none => .error (.renderer name)

end Renderer

namespace SortOrder

instance : Inhabited SortOrder := ⟨.newest⟩

def name : SortOrder → String
  | .newest => "newest"
  | .oldest => "oldest"
  | .relevance => "relevance"

def known : List (String × SortOrder) :=
  [("newest", .newest), ("oldest", .oldest), ("relevance", .relevance)]

def json (s : SortOrder) : Value :=
  .string s.name

def decode : Decoder SortOrder :=
  Decoder.variant known

def read (typed : String) : Except UnknownPreference SortOrder :=
  let name := Text.Case.lower (Text.trim typed)
  match known.find? fun entry => entry.1 == name with
  | some entry => .ok entry.2
  | none => .error (.sortOrder name)

end SortOrder

end BlogSearch
