import BlogSearch.Search.Preference
import BlogSearch.Text.Blank

/-!
# Parameters of the tools

Each tool with parameters decodes them into a record and refuses those that make no sense.  Limits
on lengths are limits on bytes.
-/

namespace BlogSearch.Tool

open Json

/-- Why parameters make no sense. -/
inductive ParamProblem where
  | blogEmpty
  | blogTooLong
  | queryTooLong
  | pageZero
  | usernameEmpty
  | usernameTooLong
  | pathEmpty
  | pathTooLong
  | pathElsewhere
  | nothingToChange
  deriving DecidableEq

def ParamProblem.message : ParamProblem → String
  | .blogEmpty => "Blog cannot be empty"
  | .blogTooLong => "Blog name exceeds 256 characters"
  | .queryTooLong => "Query exceeds 2000 characters"
  | .pageZero => "page must be 1 or greater"
  | .usernameEmpty => "Username cannot be empty"
  | .usernameTooLong => "Username exceeds 320 characters"
  | .pathEmpty => "Path cannot be empty"
  | .pathTooLong => "Path exceeds 2048 characters"
  | .pathElsewhere => "Path must start with /search"
  | .nothingToChange => "Nothing to change: set render and/or sort"

/-- What a search asks for. -/
structure SearchParams where
  blog : String
  query : String
  deriving DecidableEq

namespace SearchParams

def shape : Decoder.Shape :=
  ⟨"SearchParams", [Decoder.field "blog" Decoder.text, Decoder.field "query" Decoder.text]⟩

def decode : Decoder SearchParams := fun reading d => do
  let present ← shape.collect reading d
  return {
    blog := ← shape.required reading present "blog" Decoder.text
    query := ← Decoder.Shape.defaulted reading present "query" "" Decoder.text }

def problem? (p : SearchParams) : Option ParamProblem :=
  if Text.isBlankText p.blog then some .blogEmpty
  else if 256 < p.blog.utf8ByteSize then some .blogTooLong
  else if 2000 < p.query.utf8ByteSize then some .queryTooLong
  else none

end SearchParams

/-- The page to show. -/
structure PaginateParams where
  page : Option UInt32
  deriving DecidableEq

namespace PaginateParams

def shape : Decoder.Shape :=
  ⟨"PaginateParams", [Decoder.field "page" (Decoder.optional Decoder.page)]⟩

def decode : Decoder PaginateParams := fun reading d => do
  let present ← shape.collect reading d
  return ⟨← Decoder.Shape.defaulted reading present "page" none (Decoder.optional Decoder.page)⟩

def problem? (p : PaginateParams) : Option ParamProblem :=
  if p.page = some 0 then some .pageZero else none

end PaginateParams

/-- The credentials of a login. -/
structure LoginParams where
  username : String
  password : String
  deriving DecidableEq

namespace LoginParams

def shape : Decoder.Shape :=
  ⟨"LoginParams",
    [Decoder.field "username" Decoder.text, Decoder.field "password" Decoder.text]⟩

def decode : Decoder LoginParams := fun reading d => do
  let present ← shape.collect reading d
  return {
    username := ← shape.required reading present "username" Decoder.text
    password := ← shape.required reading present "password" Decoder.text }

def problem? (p : LoginParams) : Option ParamProblem :=
  if Text.isBlankText p.username then some .usernameEmpty
  else if 320 < p.username.utf8ByteSize then some .usernameTooLong
  else none

end LoginParams

/-- The path to open. -/
structure OpenParams where
  path : String
  deriving DecidableEq

namespace OpenParams

def shape : Decoder.Shape :=
  ⟨"OpenLocationParams", [Decoder.field "path" Decoder.text]⟩

def decode : Decoder OpenParams := fun reading d => do
  let present ← shape.collect reading d
  return ⟨← shape.required reading present "path" Decoder.text⟩

/-- The first problem with the parameters, blanks around the path aside. -/
def problem? (p : OpenParams) : Option ParamProblem :=
  let path := Text.trim p.path
  if path.isEmpty then some .pathEmpty
  else if 2048 < path.utf8ByteSize then some .pathTooLong
  else if !Text.beginsWith "/search" path then some .pathElsewhere
  else none

end OpenParams

/-- The preferences to change. -/
structure PreferenceParams where
  render : Option Renderer
  sort : Option SortOrder
  deriving DecidableEq

namespace PreferenceParams

def shape : Decoder.Shape :=
  ⟨"SetPreferencesParams",
    [Decoder.field "render" (Decoder.optional Renderer.decode),
      Decoder.field "sort" (Decoder.optional SortOrder.decode)]⟩

def decode : Decoder PreferenceParams := fun reading d => do
  let present ← shape.collect reading d
  return {
    render :=
      ← Decoder.Shape.defaulted reading present "render" none (Decoder.optional Renderer.decode)
    sort :=
      ← Decoder.Shape.defaulted reading present "sort" none
        (Decoder.optional SortOrder.decode) }

def problem? (p : PreferenceParams) : Option ParamProblem :=
  if p.render.isNone && p.sort.isNone then some .nothingToChange else none

end PreferenceParams

/-- The result to expand or collapse. -/
structure ToggleParams where
  index : Nat
  deriving DecidableEq

namespace ToggleParams

def shape : Decoder.Shape :=
  ⟨"TogglePreviewParams", [Decoder.field "index" Decoder.index]⟩

def decode : Decoder ToggleParams := fun reading d => do
  let present ← shape.collect reading d
  return ⟨← shape.required reading present "index" Decoder.index⟩

end ToggleParams

end BlogSearch.Tool
