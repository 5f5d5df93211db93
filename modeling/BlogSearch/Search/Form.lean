import BlogSearch.Search.Preference

/-!
# The search form

The form holds what the next search asks for; a request is the form as it is sent.  Pages count from
one, so a form whose page is zero asks for the first page.
-/

namespace BlogSearch

open Json

/-- What a search asks for, as the page holds it between actions. -/
structure SearchForm where
  blog : String
  query : String
  page : UInt32
  render : Renderer
  sort : SortOrder
  deriving DecidableEq

/-- The body of a search request. -/
structure SearchRequest where
  blog : String
  query : String
  page : UInt32
  render : Renderer
  sort : SortOrder
  deriving DecidableEq

/-- The fields of a form and of a request, in the order in which they are sent. -/
def searchShape (name : String) : Decoder.Shape :=
  ⟨name,
    [Decoder.field "blog" Decoder.text, Decoder.field "query" Decoder.text,
      Decoder.field "page" Decoder.page, Decoder.field "render" Renderer.decode,
      Decoder.field "sort" SortOrder.decode]⟩

namespace SearchRequest

def json (r : SearchRequest) : Value :=
  .object
    [("blog", .string r.blog), ("query", .string r.query), ("page", .page r.page),
      ("render", r.render.json), ("sort", r.sort.json)]

def decode : Decoder SearchRequest := fun reading d => do
  let shape := searchShape "SearchRequest"
  let present ← shape.collect reading d
  return {
    blog := ← shape.required reading present "blog" Decoder.text
    query := ← shape.required reading present "query" Decoder.text
    page := ← shape.required reading present "page" Decoder.page
    render := ← shape.required reading present "render" Renderer.decode
    sort := ← shape.required reading present "sort" SortOrder.decode }

end SearchRequest

namespace SearchForm

/-- A form for the first page of a search with the usual preferences. -/
def new (blog query : String) : SearchForm :=
  ⟨blog, query, 1, default, default⟩

instance : Inhabited SearchForm := ⟨new "" ""⟩

/-- The form with another page, at least the first. -/
def withPage (f : SearchForm) (page : UInt32) : SearchForm :=
  { f with page := max page 1 }

/-- The form with the given preferences, where they are given. -/
def prefer (f : SearchForm) (render : Option Renderer) (sort : Option SortOrder) : SearchForm :=
  { f with render := render.getD f.render, sort := sort.getD f.sort }

/-- The request that the form sends. -/
def request (f : SearchForm) : SearchRequest :=
  ⟨f.blog, f.query, max f.page 1, f.render, f.sort⟩

def json (f : SearchForm) : Value :=
  .object
    [("blog", .string f.blog), ("query", .string f.query), ("page", .page f.page),
      ("render", f.render.json), ("sort", f.sort.json)]

def decode : Decoder SearchForm := fun reading d => do
  let shape := searchShape "SearchForm"
  let present ← shape.collect reading d
  return {
    blog := ← shape.required reading present "blog" Decoder.text
    query := ← shape.required reading present "query" Decoder.text
    page := ← shape.required reading present "page" Decoder.page
    render := ← shape.required reading present "render" Renderer.decode
    sort := ← shape.required reading present "sort" SortOrder.decode }

/-- Copies blog and query from the last search, if there was one, and takes the given page. -/
def restore? (f : SearchForm) (last : Option SearchForm) (page : Option UInt32) :
    Option SearchForm :=
  last.map fun l =>
    { f with
      blog := l.blog
      query := l.query
      page := match page with
        | some p => max p 1
        | none => f.page }

end SearchForm

end BlogSearch
